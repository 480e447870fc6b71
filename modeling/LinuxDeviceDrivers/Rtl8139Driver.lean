import LinuxDeviceDrivers.Rtl8139Receive
import LinuxDeviceDrivers.Rtl8139Wire

namespace LinuxDeviceDrivers.Rtl8139Driver
open Transition NetDevice Rtl8139Registers

inductive Handler where
  | idle
  | acknowledging (isr : BitVec 16)
  | servicing (isr : BitVec 16)
  | receiving
deriving DecidableEq

-- The whole open interface. Both loops of the handler count in the one
-- priv->stats: the counters in the two parts are the copies they last worked
-- on. `owed` says that a packet is in the ring whose RxOK is still to be raised.
structure System where
  transmit : Rtl8139Wire.System
  receive : Rtl8139Receive.System
  stats : NetDeviceStats
  isr : BitVec 16 := 0#16
  handler : Handler := .idle
  owed : Bool := false

inductive Event where
  | wire (event : Rtl8139Wire.Event)
  | receives (frame : Rtl8139Receive.Frame)
  | raises (causes : BitVec 16)
  | readsIsr
  | writesIsr
  | services
  | iterates (allocated : Bool)
  | leaves

def opened (txBufs : Nat → UInt8) (tsd : Nat → BitVec 32) (rxRing : Nat → UInt8) (stats netdevStats : NetDeviceStats) : System :=
  {transmit := Rtl8139Wire.opened txBufs tsd stats netdevStats,receive := Rtl8139Receive.opened rxRing stats,stats := stats}

def lendTransmit (stats : NetDeviceStats) (t : Rtl8139Wire.System) : Rtl8139Wire.System :=
  {t with transmit := {t.transmit with driver := {t.transmit.driver with stats := stats}}}

def lendReceive (stats : NetDeviceStats) (r : Rtl8139Receive.System) : Rtl8139Receive.System :=
  {r with driver := {r.driver with stats := stats}}

-- WRITEW_F(0xfff, ioaddr + ISR): writing a one clears the cause.
def writesIsr (s : System) : System :=
  match s.handler with
  | .acknowledging isr => {s with isr := s.isr &&& ~~~0xfff#16,handler := .servicing isr}
  | _ => s

-- From the tests of isr to the head of the receive loop, or to the label out.
def services (s : System) : System :=
  match s.handler with
  | .servicing isr =>
      let sent := Rtl8139Wire.machine.apply (lendTransmit s.stats s.transmit) (.interrupt isr)
      let read := Rtl8139Receive.interrupts isr (lendReceive sent.transmit.driver.stats s.receive)
      {s with
        transmit := sent
        receive := read
        stats := read.driver.stats
        handler := if read.receiving then .receiving else .idle}
  | _ => s

def iterates (allocated : Bool) (s : System) : System :=
  let read := Rtl8139Receive.iterates allocated (lendReceive s.stats s.receive)
  {s with receive := read,stats := read.driver.stats}

def Handler.isAcknowledging : Handler → Bool
  | .acknowledging _ => true
  | _ => false

def Handler.isServicing : Handler → Bool
  | .servicing _ => true
  | _ => false

-- The line is shared: the handler may be called whatever ISR holds, and the
-- device may raise any cause at any time.
def machine : Machine System Event where
  Allowed s event := match event with
    | .wire event => Rtl8139Wire.machine.Allowed s.transmit event ∧ ∀ isr,event ≠ .interrupt isr
    | .receives frame => Rtl8139Receive.machine.Allowed s.receive (.receives frame)
    | .raises _ => True
    | .readsIsr => s.handler = .idle
    | .writesIsr => s.handler.isAcknowledging = true
    | .services => s.handler.isServicing = true
    | .iterates _ => s.handler = .receiving ∧ s.receive.faulted = false ∧ s.receive.unread ≠ []
    | .leaves => s.handler = .receiving ∧ s.receive.unread = []
  apply s event := match event with
    | .wire event => {s with transmit := Rtl8139Wire.machine.apply s.transmit event}
    | .receives frame => {s with receive := Rtl8139Receive.receives frame s.receive,owed := true}
    | .raises causes => {s with isr := s.isr ||| causes,owed := s.owed && (causes &&& rxOK == 0#16)}
    | .readsIsr => {s with handler := .acknowledging s.isr}
    | .writesIsr => writesIsr s
    | .services => services s
    | .iterates allocated => iterates allocated s
    | .leaves => {s with receive := {s.receive with receiving := false},handler := .idle}

structure SameReceive (old new : NetDeviceStats) : Prop where
  rxPackets : new.rxPackets = old.rxPackets
  rxBytes : new.rxBytes = old.rxBytes
  rxErrors : new.rxErrors = old.rxErrors
  rxDropped : new.rxDropped = old.rxDropped

structure SameTransmit (old new : NetDeviceStats) : Prop where
  txPackets : new.txPackets = old.txPackets
  txBytes : new.txBytes = old.txBytes
  txErrors : new.txErrors = old.txErrors
  collisions : new.collisions = old.collisions

theorem SameReceive.trans (one : SameReceive a b) (two : SameReceive b c) : SameReceive a c :=
  ⟨two.1.trans one.1,two.2.trans one.2,two.3.trans one.3,two.4.trans one.4⟩

section Counters
variable {d later : Rtl8139Transmit.Driver}

theorem countTransmit_receive (txStatus : BitVec 32) (stats : NetDeviceStats) :
    SameReceive stats (Rtl8139Transmit.countTransmit txStatus stats) := by
  unfold Rtl8139Transmit.countTransmit
  split
  · exact ⟨rfl,rfl,rfl,rfl⟩
  · exact ⟨rfl,rfl,rfl,rfl⟩

structure Reaped (d later : Rtl8139Transmit.Driver) : Prop where
  receive : SameReceive d.stats later.stats
  transmit : later.stats.txPackets+later.stats.txErrors+d.reaped.length = d.stats.txPackets+d.stats.txErrors+later.reaped.length

theorem reapLoop_reaped (fuel : Nat) (d : Rtl8139Transmit.Driver) (returns : Rtl8139Transmit.reapLoop fuel d = some later) :
    Reaped d later := by
  induction fuel generalizing d with
  | zero => simp [Rtl8139Transmit.reapLoop] at returns
  | succ fuel ih =>
      simp only [Rtl8139Transmit.reapLoop] at returns
      split at returns
      · split at returns
        · have rest := ih _ returns
          have counted := Rtl8139Transmit.countTransmit_frames (d.tsd d.dirtyTx)
            (Rtl8139Transmit.countCollisions (d.tsd d.dirtyTx) d.stats)
          have kept := countTransmit_receive (d.tsd d.dirtyTx) (Rtl8139Transmit.countCollisions (d.tsd d.dirtyTx) d.stats)
          simp only [Rtl8139Transmit.wakeWhenEmpty_eq,Rtl8139Transmit.reapDescriptor] at rest
          obtain ⟨receive,transmit⟩ := rest
          refine ⟨SameReceive.trans ⟨kept.1,kept.2,kept.3,kept.4⟩ receive,?_⟩
          simp only [List.length_append,List.length_singleton,Rtl8139Transmit.countCollisions] at transmit counted
          omega
        · obtain rfl := Option.some.inj returns
          exact ⟨⟨rfl,rfl,rfl,rfl⟩,rfl⟩
      · obtain rfl := Option.some.inj returns
        exact ⟨⟨rfl,rfl,rfl,rfl⟩,rfl⟩

theorem interrupt_reaped (isr : BitVec 16) (returns : Rtl8139Transmit.interrupt isr d = some later) : Reaped d later := by
  unfold Rtl8139Transmit.interrupt at returns
  split at returns
  · exact reapLoop_reaped _ d returns
  · obtain rfl := Option.some.inj returns
    exact ⟨⟨rfl,rfl,rfl,rfl⟩,rfl⟩

theorem receivePacket_transmit {r next : Rtl8139Receive.Driver} (allocated : Bool)
    (step : Rtl8139Receive.receivePacket allocated r = some next) : SameTransmit r.stats next.stats := by
  unfold Rtl8139Receive.receivePacket at step
  simp only at step
  split at step
  · cases step
  · split at step
    · split at step
      · cases step
      · obtain rfl := Option.some.inj step
        exact ⟨rfl,rfl,rfl,rfl⟩
    · obtain rfl := Option.some.inj step
      exact ⟨rfl,rfl,rfl,rfl⟩

theorem iterates_transmit (allocated : Bool) (r : Rtl8139Receive.System) :
    SameTransmit r.driver.stats (Rtl8139Receive.iterates allocated r).driver.stats := by
  simp only [Rtl8139Receive.iterates]
  split
  · exact ⟨rfl,rfl,rfl,rfl⟩
  · rename_i step
    exact receivePacket_transmit allocated step

theorem interrupts_transmit (isr : BitVec 16) (r : Rtl8139Receive.System) :
    SameTransmit r.driver.stats (Rtl8139Receive.interrupts isr r).driver.stats := by
  simp only [Rtl8139Receive.interrupts,Rtl8139Receive.countErrors]
  split
  · simp only
    split <;> exact ⟨rfl,rfl,rfl,rfl⟩
  · exact ⟨rfl,rfl,rfl,rfl⟩

end Counters

section Lent
variable {t : Rtl8139Wire.System} {r : Rtl8139Receive.System}

theorem lendTransmit_wired (stats : NetDeviceStats) (wired : Rtl8139Wire.Wired t) : Rtl8139Wire.Wired (lendTransmit stats t) := by
  obtain ⟨⟨ring,returns⟩,counted,sent,completed,ready,fetching⟩ := wired
  refine ⟨⟨ring.counted stats,returns⟩,counted,sent,completed,?_,fetching⟩
  intro number entry frame late here there
  exact (ready number entry frame late here there).untouched ⟨rfl,rfl⟩

theorem lendReceive_synchronized {start old new : NetDeviceStats} (same : SameReceive old new)
    (synchronized : Rtl8139Receive.Synchronized start (lendReceive old r)) :
    Rtl8139Receive.Synchronized start (lendReceive new r) := by
  obtain ⟨⟨buffers,counted,sound⟩,position,offset,placed,intact⟩ := synchronized
  refine ⟨⟨buffers,?_,sound⟩,position,offset,placed,intact⟩
  simp only [lendReceive,same.rxPackets,same.rxDropped] at counted ⊢
  exact counted

end Lent

structure Whole (start : NetDeviceStats) (s : System) : Prop where
  wired : Rtl8139Wire.Wired s.transmit
  transmitted : s.stats.txPackets+s.stats.txErrors =
    start.txPackets+start.txErrors+s.transmit.transmit.driver.reaped.length
  received : Rtl8139Receive.NoExactEnd s.receive.consumed → Rtl8139Receive.Synchronized start (lendReceive s.stats s.receive)
  reading : s.receive.receiving = true ↔ s.handler = .receiving

section Steps
variable {start : NetDeviceStats} {s : System}

theorem wire_frame (t : Rtl8139Wire.System) (event : Rtl8139Wire.Event) (driver : ∀ isr,event ≠ .interrupt isr) :
    (Rtl8139Wire.machine.apply t event).transmit.driver.reaped = t.transmit.driver.reaped := by
  cases event with
  | startXmit skb =>
      simp only [Rtl8139Wire.machine,Rtl8139Transmit.transmits]
      by_cases fits : skb.len < txBufSize
      · rw [Rtl8139Transmit.startXmit_fields skb _ fits]
      · rw [Rtl8139Transmit.startXmit,if_neg fits]
  | fetches count =>
      simp only [Rtl8139Wire.machine,Rtl8139Wire.fetches]
      split <;> rfl
  | sends => rfl
  | completes entry status => rfl
  | interrupt isr => exact absurd rfl (driver isr)

theorem receives_whole (frame : Rtl8139Receive.Frame) (whole : Whole start s)
    (allowed : Rtl8139Receive.machine.Allowed s.receive (.receives frame)) :
    Whole start (machine.apply s (.receives frame)) :=
  ⟨whole.wired,whole.transmitted,
    fun clear => Rtl8139Receive.receives_synchronized frame (whole.received clear) allowed,whole.reading⟩

theorem services_whole (whole : Whole start s) (here : s.handler = .servicing isr) : Whole start (services s) := by
  obtain ⟨wired,transmitted,received,reading⟩ := whole
  have lent := lendTransmit_wired s.stats wired
  obtain ⟨later,returns,_⟩ := Rtl8139Transmit.interrupt_ring isr lent.sound.ring
  have reaped := interrupt_reaped isr returns
  have sent : (Rtl8139Wire.machine.apply (lendTransmit s.stats s.transmit) (.interrupt isr)).transmit.driver = later := by
    simp only [Rtl8139Wire.machine,Rtl8139Transmit.interrupts,returns]
  have counted := interrupts_transmit isr (lendReceive later.stats s.receive)
  simp only [services,here,sent]
  refine ⟨Rtl8139Wire.interrupt_wired isr lent,?_,?_,?_⟩
  · have total := reaped.transmit
    simp only [sent,counted.txPackets,counted.txErrors]
    simp only [lendTransmit,lendReceive] at *
    omega
  · intro clear
    simp only [Rtl8139Receive.interrupts_consumed] at clear
    exact Rtl8139Receive.interrupts_synchronized isr (lendReceive_synchronized reaped.receive (received clear))
  · simp only
    split
    · rename_i receiving
      exact iff_of_true receiving rfl
    · rename_i leaving
      exact iff_of_false leaving (by simp)

theorem iterates_whole (allocated : Bool) (whole : Whole start s) (here : s.handler = .receiving)
    (sound : s.receive.faulted = false) (more : s.receive.unread ≠ []) : Whole start (machine.apply s (.iterates allocated)) := by
  obtain ⟨wired,transmitted,received,reading⟩ := whole
  have allowed : Rtl8139Receive.machine.Allowed (lendReceive s.stats s.receive) (.iterates allocated) := ⟨reading.mpr here,sound,more⟩
  have counted := iterates_transmit allocated (lendReceive s.stats s.receive)
  simp only [machine,iterates]
  refine ⟨wired,?_,?_,?_⟩
  · simp only [counted.txPackets,counted.txErrors]
    exact transmitted
  · intro clear
    obtain ⟨earlier,grown⟩ := Rtl8139Receive.apply_consumed (lendReceive s.stats s.receive) (.iterates allocated)
    have before : Rtl8139Receive.NoExactEnd s.receive.consumed := Rtl8139Receive.NoExactEnd.before (grown ▸ clear)
    have agrees := (Rtl8139Receive.step_exact (received before) _ allowed before).mpr clear
    exact Rtl8139Receive.step_synchronized (received before) _ allowed agrees
  · simp only [Rtl8139Receive.iterates_receiving]
    exact reading

theorem apply_whole (s : System) (event : Event) (whole : Whole start s) (allowed : machine.Allowed s event) :
    Whole start (machine.apply s event) := by
  cases event with
  | wire event =>
      refine ⟨Rtl8139Wire.apply_wired s.transmit event whole.wired allowed.1,?_,whole.received,whole.reading⟩
      simp only [machine,wire_frame s.transmit event allowed.2]
      exact whole.transmitted
  | receives frame => exact receives_whole frame whole allowed
  | raises causes => exact ⟨whole.wired,whole.transmitted,whole.received,whole.reading⟩
  | readsIsr =>
      refine ⟨whole.wired,whole.transmitted,whole.received,?_⟩
      have idle : s.handler = .idle := allowed
      simpa [machine,idle] using whole.reading
  | writesIsr =>
      simp only [machine,writesIsr]
      split
      · rename_i here
        exact ⟨whole.wired,whole.transmitted,whole.received,by simpa [here] using whole.reading⟩
      · exact whole
  | services =>
      simp only [machine]
      cases here : s.handler with
      | servicing isr => exact services_whole whole here
      | _ => simp [machine,Handler.isServicing,here] at allowed
  | iterates allocated => exact iterates_whole allocated whole allowed.1 allowed.2.1 allowed.2.2
  | leaves =>
      refine ⟨whole.wired,whole.transmitted,fun clear => ?_,by simp [machine]⟩
      have synchronized := whole.received clear
      exact ⟨⟨synchronized.buffers,synchronized.counted,synchronized.sound⟩,synchronized.position,synchronized.offset,
        synchronized.placed,synchronized.intact⟩

theorem opened_whole (txBufs : Nat → UInt8) (tsd : Nat → BitVec 32) (rxRing : Nat → UInt8) (stats netdevStats : NetDeviceStats) :
    Whole stats (opened txBufs tsd rxRing stats netdevStats) :=
  ⟨Rtl8139Wire.opened_wired txBufs tsd stats netdevStats,rfl,fun _ => Rtl8139Receive.opened_synchronized rxRing stats,
    by simp [opened,Rtl8139Receive.opened]⟩

end Steps

-- Both directions at once: the two halves of the handler share the counters,
-- the interrupt status and the lock-free handler, and do not disturb each other.
structure Driving (start : NetDeviceStats) (s : System) : Prop where
  ring : Rtl8139Transmit.TransmitRing s.transmit.transmit
  wire : Rtl8139Wire.Carried s.transmit.accepted s.transmit
  transmitted : s.stats.txPackets+s.stats.txErrors =
    start.txPackets+start.txErrors+s.transmit.transmit.driver.reaped.length
  delivered : Rtl8139Receive.NoExactEnd s.receive.consumed →
    s.receive.driver.netifRx = Rtl8139Receive.delivered s.receive.consumed ∧ s.receive.faulted = false ∧
    s.stats.rxPackets+s.stats.rxDropped = start.rxPackets+start.rxDropped+s.receive.consumed.length

theorem both_directions (txBufs : Nat → UInt8) (tsd : Nat → BitVec 32) (rxRing : Nat → UInt8)
    (stats netdevStats : NetDeviceStats) (events : List Event)
    (path : machine.Runs (opened txBufs tsd rxRing stats netdevStats) events) :
    machine.Throughout (Driving stats) (opened txBufs tsd rxRing stats netdevStats) events := by
  have whole := Machine.throughout_of_invariant apply_whole (opened_whole txBufs tsd rxRing stats netdevStats) path
  refine whole.imp fun s whole => ⟨whole.wired.sound.transmitRing,whole.wired.carried,whole.transmitted,fun clear => ?_⟩
  have synchronized := whole.received clear
  exact ⟨synchronized.buffers,synchronized.sound,synchronized.counted⟩

def shortest : Rtl8139Receive.Frame := ⟨1,List.replicate 64 0,by decide,by decide⟩

def bothWays : List Event := [.wire (.startXmit ⟨[1,2,3]⟩),.receives shortest,.wire (.fetches 60),.raises (rxOK ||| txOK),
  .readsIsr,.writesIsr,.wire .sends,.wire (.completes 0 txStatOK),.services]

theorem bothWays_runs : machine.Runs (opened (fun _ => 0) (fun _ => txHostOwns) (fun _ => 0) {} {}) bothWays :=
  ⟨⟨rfl,by simp⟩,by simp [machine,opened,Rtl8139Receive.opened,Rtl8139Receive.machine],
    ⟨⟨0,rfl,by decide⟩,by simp⟩,trivial,rfl,rfl,⟨⟨0,rfl,by decide⟩,by simp⟩,⟨⟨⟨by decide,by decide⟩,by decide⟩,by simp⟩,rfl,trivial⟩

theorem both_directions_meet :
    machine.Throughout (Driving {}) (opened (fun _ => 0) (fun _ => txHostOwns) (fun _ => 0) {} {}) bothWays :=
  both_directions _ _ _ _ _ bothWays bothWays_runs

def seesReceive (isr : BitVec 16) : Bool := serviced isr && isr &&& rxOK != 0#16

def Handler.willRead : Handler → Bool
  | .servicing isr => seesReceive isr
  | .receiving => true
  | _ => false

theorem Handler.willRead_servicing (isr : BitVec 16) : (Handler.servicing isr).willRead = seesReceive isr := rfl

-- A packet in the ring is not forgotten: its RxOK is still to come or pending,
-- or the handler is on its way to it.
def Awaited (s : System) : Prop :=
  s.receive.unread ≠ [] → s.owed = true ∨ s.isr &&& rxOK ≠ 0#16 ∨ s.handler.willRead = true

-- The write to ISR takes away an RxOK only if the read before it saw one, or
-- another is on its way.
def Noticed (s : System) : Event → Prop
  | .writesIsr => s.receive.unread ≠ [] → s.owed = true ∨ ∃ isr,s.handler = .acknowledging isr ∧ seesReceive isr = true
  | _ => True

structure Reading (s : System) : Prop where
  awaited : Awaited s
  reading : s.receive.receiving = true ↔ s.handler = .receiving

section Wakeups
variable {s : System}

theorem rxOK_acknowledged (isr : BitVec 16) : isr &&& ~~~0xfff#16 &&& rxOK = 0#16 := by
  rw [BitVec.and_assoc]
  exact BitVec.and_zero

theorem interrupts_receiving (isr : BitVec 16) (r : Rtl8139Receive.System) (idle : r.receiving = false) :
    (Rtl8139Receive.interrupts isr r).receiving = seesReceive isr := by
  unfold Rtl8139Receive.interrupts seesReceive
  split
  · rename_i known
    rw [known]
    rfl
  · rename_i unknown
    rw [Bool.not_eq_true] at unknown
    rw [unknown,Bool.false_and]
    exact idle

theorem writesIsr_eq (here : s.handler = .acknowledging isr) :
    writesIsr s = {s with isr := s.isr &&& ~~~0xfff#16,handler := .servicing isr} := by
  rw [writesIsr,here]

theorem writesIsr_awaited (here : s.handler = .acknowledging isr) :
    Awaited (writesIsr s) ↔ Noticed s .writesIsr := by
  rw [writesIsr_eq here]
  constructor
  · intro awaited unread
    rcases awaited unread with owed | pending | reads
    · exact .inl owed
    · exact absurd (rxOK_acknowledged s.isr) pending
    · exact .inr ⟨isr,here,reads⟩
  · intro noticed unread
    rcases noticed unread with owed | ⟨other,same,sees⟩
    · exact .inl owed
    · rw [here,Handler.acknowledging.injEq] at same
      exact .inr (.inr (same ▸ sees))

theorem apply_reading (s : System) (event : Event) (reading : Reading s) (allowed : machine.Allowed s event)
    (noticed : Noticed s event) : Reading (machine.apply s event) := by
  obtain ⟨awaited,reading⟩ := reading
  cases event with
  | wire event => exact ⟨awaited,reading⟩
  | receives frame => exact ⟨fun _ => .inl rfl,reading⟩
  | raises causes =>
      refine ⟨fun unread => ?_,reading⟩
      simp only [machine] at unread ⊢
      by_cases raised : causes &&& rxOK = 0#16
      · rw [BitVec.and_or_distrib_right,raised,BitVec.or_zero]
        simpa using awaited unread
      · refine .inr (.inl fun none => raised ?_)
        rw [BitVec.and_or_distrib_right,BitVec.or_eq_zero_iff] at none
        exact none.2
  | readsIsr =>
      have idle : s.handler = .idle := allowed
      refine ⟨fun unread => ?_,by simpa [machine,idle] using reading⟩
      rcases awaited unread with owed | pending | reads
      · exact .inl owed
      · exact .inr (.inl pending)
      · rw [idle] at reads
        cases reads
  | writesIsr =>
      cases here : s.handler with
      | acknowledging isr =>
          refine ⟨(writesIsr_awaited here).mpr noticed,?_⟩
          rw [here] at reading
          simp only [machine,writesIsr_eq here]
          simpa using reading
      | _ => simp [machine,Handler.isAcknowledging,here] at allowed
  | services =>
      cases here : s.handler with
      | servicing isr =>
          have idle : s.receive.receiving = false := by
            rw [← Bool.not_eq_true,reading,here]
            simp
          have flag := interrupts_receiving isr (lendReceive (Rtl8139Wire.machine.apply (lendTransmit s.stats s.transmit)
            (.interrupt isr)).transmit.driver.stats s.receive) idle
          simp only [machine,services,here]
          refine ⟨fun unread => ?_,?_⟩
          · simp only [Rtl8139Receive.interrupts_unread] at unread
            rcases awaited unread with owed | pending | reads
            · exact .inl owed
            · exact .inr (.inl pending)
            · rw [here,Handler.willRead_servicing] at reads
              refine .inr (.inr ?_)
              simp only [flag,reads,if_true]
              rfl
          · simp only [flag]
            cases seesReceive isr <;> simp
      | _ => simp [machine,Handler.isServicing,here] at allowed
  | iterates allocated =>
      refine ⟨fun _ => .inr (.inr ?_),?_⟩
      · change s.handler.willRead = true
        rw [allowed.1]
        rfl
      · simp only [machine,iterates,Rtl8139Receive.iterates_receiving]
        exact reading
  | leaves => exact ⟨fun unread => absurd allowed.2 unread,by simp [machine]⟩

theorem awaited_step (s : System) (event : Event) (reading : Reading s) (allowed : machine.Allowed s event) :
    Noticed s event ↔ Awaited (machine.apply s event) := by
  cases event with
  | writesIsr =>
      cases here : s.handler with
      | acknowledging isr => exact (writesIsr_awaited here).symm
      | _ => simp [machine,Handler.isAcknowledging,here] at allowed
  | _ => exact iff_of_true trivial (apply_reading s _ reading allowed trivial).awaited

end Wakeups

theorem packets_awaited_iff (txBufs : Nat → UInt8) (tsd : Nat → BitVec 32) (rxRing : Nat → UInt8)
    (stats netdevStats : NetDeviceStats) (events : List Event)
    (path : machine.Runs (opened txBufs tsd rxRing stats netdevStats) events) :
    machine.Throughout Awaited (opened txBufs tsd rxRing stats netdevStats) events ↔
      machine.Along Noticed (opened txBufs tsd rxRing stats netdevStats) events := by
  have first : Reading (opened txBufs tsd rxRing stats netdevStats) :=
    ⟨fun unread => absurd rfl unread,by simp [opened,Rtl8139Receive.opened]⟩
  exact Machine.throughout_exact (fun s reading => reading.awaited) awaited_step apply_reading first path

def shared : List Event := [.readsIsr,.receives shortest,.raises rxOK,.writesIsr,.services]

theorem packets_awaited_shared :
    ¬ machine.Throughout Awaited (opened (fun _ => 0) (fun _ => txHostOwns) (fun _ => 0) {} {}) shared := by
  have path : machine.Runs (opened (fun _ => 0) (fun _ => txHostOwns) (fun _ => 0) {} {}) shared :=
    ⟨rfl,by simp [machine,opened,Rtl8139Receive.opened,Rtl8139Receive.machine],trivial,rfl,rfl,trivial⟩
  intro awaited
  obtain ⟨_,_,_,noticed,_⟩ := (packets_awaited_iff _ _ _ _ _ shared path).mp awaited
  rcases noticed (List.cons_ne_nil _ _) with owed | ⟨isr,acknowledging,sees⟩
  · cases owed
  · cases acknowledging
    cases sees

end LinuxDeviceDrivers.Rtl8139Driver
