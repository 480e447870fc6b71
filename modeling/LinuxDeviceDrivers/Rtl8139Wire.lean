import LinuxDeviceDrivers.Rtl8139Transmit
import LinuxDeviceDrivers.TransmitAgreement

namespace LinuxDeviceDrivers.Rtl8139Wire
open Transition CircularWindow ByteStore NetDevice Rtl8139Registers Rtl8139Transmit TransmitAgreement

-- The transmit ring with the bus master at work on it. The device takes the
-- descriptors in the order of their submission, fetches a frame in bursts of
-- any size while the driver goes on, and puts it on the wire when it has it
-- whole. `accepted` logs the frames for which start_xmit used a descriptor.
structure System where
  transmit : Rtl8139Transmit.System
  accepted : List (List UInt8) := []
  fifo : List UInt8 := []
  wire : List (List UInt8) := []

inductive Event where
  | startXmit (skb : Skb)
  | fetches (count : Nat)
  | sends
  | completes (entry : Nat) (status : BitVec 32)
  | interrupt (isr : BitVec 16)

def opened (txBufs : Nat → UInt8) (tsd : Nat → BitVec 32) (stats netdevStats : NetDeviceStats) : System :=
  {transmit := Rtl8139Transmit.opened txBufs tsd stats netdevStats}

def oldest (s : System) : Option Nat := s.transmit.driver.submitted[s.wire.length]?

def size (d : Driver) (entry : Nat) : Nat := tsdSize (d.tsd entry)

def fetches (count : Nat) (s : System) : System :=
  match oldest s with
  | some entry => {s with fifo := s.fifo ++ load s.transmit.driver.txBufs (txBuf entry+s.fifo.length) count}
  | none => s

def accepts (skb : Skb) (accepted : List (List UInt8)) : List (List UInt8) :=
  if skb.len < txBufSize then accepted ++ [skb.bytes] else accepted

-- A status comes only for a frame that is on the wire, whole or cut short there.
def machine : Machine System Event where
  Allowed s event := match event with
    | .startXmit skb => Rtl8139Transmit.machine.Allowed s.transmit (.startXmit skb)
    | .fetches count => ∃ entry,oldest s = some entry ∧ s.fifo.length+count ≤ size s.transmit.driver entry
    | .sends => ∃ entry,oldest s = some entry ∧ s.fifo.length = size s.transmit.driver entry
    | .completes entry status => Rtl8139Transmit.machine.Allowed s.transmit (.completes entry status) ∧
        ∀ number ∈ s.transmit.owns entry,number < s.wire.length
    | .interrupt _ => True
  apply s event := match event with
    | .startXmit skb => {s with transmit := transmits skb s.transmit,accepted := accepts skb s.accepted}
    | .fetches count => fetches count s
    | .sends => {s with wire := s.wire ++ [s.fifo],fifo := []}
    | .completes entry status => {s with transmit := Rtl8139Transmit.completes entry status s.transmit}
    | .interrupt isr => {s with transmit := interrupts isr s.transmit}

structure Prepared (d : Driver) (entry : Nat) (frame : List UInt8) : Prop where
  size : size d entry = (minimal frame).length
  bytes : load d.txBufs (txBuf entry) (minimal frame).length = minimal frame
  fits : (minimal frame).length ≤ txBufSize

def nextFrame (accepted : List (List UInt8)) (number : Nat) : List UInt8 := (accepted[number]?.map minimal).getD []

structure Wired (s : System) : Prop where
  sound : Sound s.transmit
  counted : s.accepted.length = s.transmit.driver.submitted.length
  sent : s.wire = (s.accepted.take s.wire.length).map minimal
  completed : ∀ number ∈ s.transmit.completed,number < s.wire.length
  ready : ∀ number entry frame,s.wire.length ≤ number → s.transmit.driver.submitted[number]? = some entry →
    s.accepted[number]? = some frame → Prepared s.transmit.driver entry frame
  fetching : s.fifo <+: nextFrame s.accepted s.wire.length

section Descriptors
variable {d later : Driver} {entry : Nat} {frame : List UInt8}

theorem Prepared.untouched (prepared : Prepared d entry frame) (untouched : Untouched entry d later) :
    Prepared later entry frame := by
  obtain ⟨size,bytes,fits⟩ := prepared
  refine ⟨?_,?_,fits⟩
  · rw [Rtl8139Wire.size,untouched.tsd]
    exact size
  · rw [← load_take fits,untouched.buffer,load_take fits]
    exact bytes

theorem startXmit_prepared (skb : Skb) (d : Driver) (fits : skb.len < txBufSize) :
    Prepared (startXmit skb d) (d.curTx % numTxDesc) skb.bytes := by
  have length := minimal_length skb.bytes
  have bound : max skb.len ethMinLen < 0x2000 := by
    simp only [txBufSize,ethMinLen] at *
    omega
  rw [startXmit_fields skb d fits]
  refine ⟨?_,?_,?_⟩
  · simp only [size,Function.update_self,tsdSize_ofNat bound,length]
    rfl
  · rw [length]
    exact load_minimal skb.bytes _ _
  · rw [length]
    simp only [Skb.len,txBufSize,ethMinLen] at *
    omega

theorem submitted_cell {owns : Nat → Option Nat} {completed : List Nat} (ring : Ring owns completed d)
    (late : d.reaped.length ≤ number) (here : d.submitted[number]? = some entry) :
    number-d.reaped.length < pending d ∧ entry = cell numTxDesc d.dirtyTx (number-d.reaped.length) := by
  have inside := (List.getElem?_eq_some_iff.mp here).1
  have length := ring.submitted_length
  have window := ring.order
  have early : number-d.reaped.length < pending d := by omega
  refine ⟨early,?_⟩
  rw [window,List.getElem?_append_right late,window_eq_cells ring.dirty ring.bounded,List.getElem?_map,
    List.getElem?_range early] at here
  exact (Option.some.inj here).symm

theorem reapLoop_frame (fuel : Nat) (d : Driver) (returns : reapLoop fuel d = some later) :
    later.submitted = d.submitted ∧ later.tsd = d.tsd ∧ later.txBufs = d.txBufs := by
  induction fuel generalizing d with
  | zero => simp [reapLoop] at returns
  | succ fuel ih =>
      simp only [reapLoop] at returns
      split at returns
      · split at returns
        · have rest := ih _ returns
          simpa only [wakeWhenEmpty_eq,reapDescriptor] using rest
        · obtain rfl := Option.some.inj returns
          exact ⟨rfl,rfl,rfl⟩
      · obtain rfl := Option.some.inj returns
        exact ⟨rfl,rfl,rfl⟩

theorem interrupt_frame (isr : BitVec 16) (returns : interrupt isr d = some later) :
    later.submitted = d.submitted ∧ later.tsd = d.tsd ∧ later.txBufs = d.txBufs := by
  unfold interrupt at returns
  split at returns
  · exact reapLoop_frame _ d returns
  · obtain rfl := Option.some.inj returns
    exact ⟨rfl,rfl,rfl⟩

end Descriptors

section Steps
variable {s : System}

theorem Wired.unsent (wired : Wired s) (late : s.wire.length ≤ number) : s.transmit.driver.reaped.length ≤ number := by
  by_contra early
  have done := wired.completed number (wired.sound.ring.done number (by omega))
  omega

theorem Wired.wire_bounded (wired : Wired s) : s.wire.length ≤ s.accepted.length := by
  have length := congrArg List.length wired.sent
  simp only [List.length_map,List.length_take] at length
  omega

theorem nextFrame_append (accepted more : List (List UInt8)) (number : Nat) :
    nextFrame accepted number <+: nextFrame (accepted ++ more) number := by
  by_cases inside : number < accepted.length
  · have same : nextFrame (accepted ++ more) number = nextFrame accepted number := by
      simp only [nextFrame,List.getElem?_append_left inside]
    exact same ▸ List.prefix_rfl
  · rw [nextFrame,List.getElem?_eq_none (by omega)]
    exact List.nil_prefix

theorem startXmit_wired (skb : Skb) (wired : Wired s) (running : s.transmit.driver.stopped = false) :
    Wired (machine.apply s (.startXmit skb)) := by
  have sound := Rtl8139Transmit.apply_sound s.transmit (.startXmit skb) wired.sound running
  by_cases fits : skb.len < txBufSize
  · have untouched := wired.sound.transmitRing.untouched running skb
    have fields := startXmit_fields skb s.transmit.driver fits
    have submitted : (startXmit skb s.transmit.driver).submitted =
        s.transmit.driver.submitted ++ [s.transmit.driver.curTx % numTxDesc] := by rw [fields]
    have whole := wired.wire_bounded
    refine ⟨sound,?_,?_,wired.completed,?_,?_⟩
    · simp only [machine,transmits,accepts,if_pos fits,submitted,List.length_append,List.length_singleton,wired.counted]
    · simp only [machine,accepts,if_pos fits]
      rw [List.take_append_of_le_length whole]
      exact wired.sent
    · intro number entry frame late here there
      simp only [machine,transmits,accepts,if_pos fits,submitted] at late here there ⊢
      by_cases older : number < s.transmit.driver.submitted.length
      · rw [List.getElem?_append_left older] at here
        rw [List.getElem?_append_left (by rw [wired.counted]; exact older)] at there
        refine (wired.ready number entry frame late here there).untouched (untouched entry ?_)
        refine List.mem_of_getElem? (i:=number-s.transmit.driver.reaped.length) ?_
        rw [List.getElem?_drop,Nat.add_sub_cancel' (wired.unsent late)]
        exact here
      · rw [List.getElem?_append_right (by omega),List.getElem?_singleton] at here
        rw [List.getElem?_append_right (by rw [wired.counted]; omega),List.getElem?_singleton] at there
        split at here
        · split at there
          · obtain rfl := Option.some.inj here
            obtain rfl := Option.some.inj there
            exact startXmit_prepared skb _ fits
          · simp at there
        · simp at here
    · simp only [machine,accepts,if_pos fits]
      exact wired.fetching.trans (nextFrame_append _ _ _)
  · have same : accepts skb s.accepted = s.accepted := if_neg fits
    have idle : startXmit skb s.transmit.driver = {s.transmit.driver with
        netdevStats := {s.transmit.driver.netdevStats with txDropped := s.transmit.driver.netdevStats.txDropped+1}} :=
      if_neg fits
    refine ⟨sound,?_,?_,wired.completed,?_,?_⟩
    · simp only [machine,transmits,same,idle]
      exact wired.counted
    · simp only [machine,same]
      exact wired.sent
    · intro number entry frame late here there
      simp only [machine,transmits,same,idle] at late here there ⊢
      exact (wired.ready number entry frame late here there).untouched ⟨rfl,rfl⟩
    · simp only [machine,same]
      exact wired.fetching

theorem Wired.oldest (wired : Wired s) (next : Rtl8139Wire.oldest s = some entry) :
    ∃ frame,s.accepted[s.wire.length]? = some frame ∧ Prepared s.transmit.driver entry frame ∧
      nextFrame s.accepted s.wire.length = minimal frame := by
  have inside := (List.getElem?_eq_some_iff.mp next).1
  obtain ⟨frame,there⟩ : ∃ frame,s.accepted[s.wire.length]? = some frame :=
    ⟨_,List.getElem?_eq_getElem (by rw [wired.counted]; exact inside)⟩
  refine ⟨frame,there,wired.ready _ _ _ (Nat.le_refl _) next there,?_⟩
  rw [nextFrame,there]
  rfl

theorem fetches_wired (wired : Wired s) (next : oldest s = some entry)
    (within : s.fifo.length+count ≤ size s.transmit.driver entry) : Wired (machine.apply s (.fetches count)) := by
  obtain ⟨frame,there,prepared,expected⟩ := wired.oldest next
  have fetching := wired.fetching
  rw [prepared.size] at within
  rw [expected,List.prefix_iff_eq_take,← prepared.bytes,load_take (by omega)] at fetching
  have longer : s.fifo ++ load s.transmit.driver.txBufs (txBuf entry+s.fifo.length) count =
      (minimal frame).take (s.fifo.length+count) := by
    rw [← prepared.bytes,load_take within,load_add,← fetching]
  simp only [machine,fetches,next]
  refine ⟨wired.sound,wired.counted,wired.sent,wired.completed,wired.ready,?_⟩
  simp only
  rw [longer,expected]
  exact List.take_prefix _ _

theorem sends_wired (wired : Wired s) (next : oldest s = some entry)
    (whole : s.fifo.length = size s.transmit.driver entry) : Wired (machine.apply s .sends) := by
  obtain ⟨frame,there,prepared,expected⟩ := wired.oldest next
  have fetching := wired.fetching
  rw [expected] at fetching
  have complete : s.fifo = minimal frame := fetching.eq_of_length (whole.trans prepared.size)
  have longer : (s.wire ++ [s.fifo]).length = s.wire.length+1 := List.length_append
  simp only [machine]
  refine ⟨wired.sound,wired.counted,?_,?_,?_,List.nil_prefix⟩
  · simp only
    rw [longer,List.take_add_one,there,List.map_append,← wired.sent,complete]
    rfl
  · intro number member
    have earlier := wired.completed number member
    change number < (s.wire ++ [s.fifo]).length
    omega
  · intro number entry frame late here there
    change (s.wire ++ [s.fifo]).length ≤ number at late
    exact wired.ready number entry frame (by omega) here there

theorem completes_wired (entry : Nat) (status : BitVec 32) (wired : Wired s)
    (sent : ∀ number ∈ s.transmit.owns entry,number < s.wire.length)
    (allowed : Rtl8139Transmit.machine.Allowed s.transmit (.completes entry status)) :
    Wired (machine.apply s (.completes entry status)) := by
  have sound := Rtl8139Transmit.apply_sound s.transmit (.completes entry status) wired.sound allowed
  refine ⟨sound,wired.counted,wired.sent,?_,?_,wired.fetching⟩
  · intro number member
    rcases List.mem_append.mp member with earlier | now
    · exact wired.completed number earlier
    · exact sent number (Option.mem_toList.mp now)
  · intro number other frame late here there
    have prepared := wired.ready number other frame late here there
    obtain ⟨early,placed⟩ := submitted_cell wired.sound.ring (wired.unsent late) here
    have different : other ≠ entry := by
      rintro rfl
      rcases wired.sound.ring.status _ early with done | owned
      · have earlier := wired.completed _ done
        have unsent := wired.unsent late
        simp only [machine] at late
        omega
      · rw [← placed] at owned
        have earlier := sent _ owned.1
        have unsent := wired.unsent late
        simp only [machine] at late
        omega
    exact prepared.untouched ⟨Function.update_of_ne different _ _,rfl⟩

theorem interrupt_wired (isr : BitVec 16) (wired : Wired s) : Wired (machine.apply s (.interrupt isr)) := by
  have sound := Rtl8139Transmit.apply_sound s.transmit (.interrupt isr) wired.sound trivial
  obtain ⟨next,returns,_⟩ := interrupt_ring isr wired.sound.ring
  obtain ⟨submitted,tsd,txBufs⟩ := interrupt_frame isr returns
  have stepped : interrupts isr s.transmit = {s.transmit with driver := next} := by rw [interrupts,returns]
  refine ⟨sound,?_,wired.sent,?_,?_,wired.fetching⟩
  · simp only [machine,stepped,submitted]
    exact wired.counted
  · simp only [machine,stepped]
    exact wired.completed
  · intro number entry frame late here there
    simp only [machine,stepped,submitted] at late here there ⊢
    exact (wired.ready number entry frame late here there).untouched ⟨congrFun tsd entry,by rw [txBufs]⟩

theorem apply_wired (s : System) (event : Event) (wired : Wired s) (allowed : machine.Allowed s event) :
    Wired (machine.apply s event) := by
  cases event with
  | startXmit skb => exact startXmit_wired skb wired allowed
  | fetches count =>
      obtain ⟨entry,next,within⟩ := allowed
      exact fetches_wired wired next within
  | sends =>
      obtain ⟨entry,next,whole⟩ := allowed
      exact sends_wired wired next whole
  | completes entry status => exact completes_wired entry status wired allowed.2 allowed.1
  | interrupt isr => exact interrupt_wired isr wired

theorem opened_wired (txBufs : Nat → UInt8) (tsd : Nat → BitVec 32) (stats netdevStats : NetDeviceStats) :
    Wired (opened txBufs tsd stats netdevStats) := by
  refine ⟨⟨opened_ring txBufs tsd stats netdevStats,rfl⟩,rfl,rfl,?_,?_,List.nil_prefix⟩
  · simp [opened,Rtl8139Transmit.opened]
  · simp [opened,Rtl8139Transmit.opened]

theorem run_wired (txBufs : Nat → UInt8) (tsd : Nat → BitVec 32) (stats netdevStats : NetDeviceStats)
    (events : List Event) (path : machine.Runs (opened txBufs tsd stats netdevStats) events) :
    Wired (machine.run (opened txBufs tsd stats netdevStats) events) :=
  machine.invariant apply_wired (opened_wired txBufs tsd stats netdevStats) path

end Steps

def offered : Event → List (List UInt8)
  | .startXmit skb => if skb.len < txBufSize then [skb.bytes] else []
  | _ => []

theorem apply_accepted (s : System) (event : Event) : (machine.apply s event).accepted = s.accepted ++ offered event := by
  cases event with
  | startXmit skb =>
      simp only [machine,accepts,offered]
      split
      · rfl
      · exact (List.append_nil _).symm
  | fetches count =>
      simp only [machine,fetches,offered,List.append_nil]
      split <;> rfl
  | sends => exact (List.append_nil _).symm
  | completes entry status => exact (List.append_nil _).symm
  | interrupt isr => exact (List.append_nil _).symm

theorem run_accepted (s : System) (events : List Event) :
    (machine.run s events).accepted = s.accepted ++ events.flatMap offered := by
  induction events generalizing s with
  | nil => simp
  | cons event rest ih => rw [Machine.run_cons,ih,apply_accepted,List.flatMap_cons,List.append_assoc]

-- The wire carries the frames given to start_xmit, padded, each once and in
-- order, whatever the driver writes while the device fetches; and dirty_tx
-- passes no frame that is not there.
structure Carried (frames : List (List UInt8)) (s : System) : Prop where
  wire : s.wire = (frames.take s.wire.length).map minimal
  fetching : s.fifo <+: nextFrame frames s.wire.length
  reaped : s.transmit.driver.reaped.length ≤ s.wire.length
  outstanding : s.wire.length ≤ frames.length ∧ frames.length ≤ s.transmit.driver.reaped.length+numTxDesc

theorem Wired.carried (wired : Wired s) : Carried s.accepted s := by
  have length := wired.sound.ring.submitted_length
  have bounded := wired.sound.ring.bounded
  refine ⟨wired.sent,wired.fetching,?_,wired.wire_bounded,?_⟩
  · by_contra behind
    have unsent := wired.completed _ (wired.sound.ring.done _ (Nat.lt_of_not_le behind))
    omega
  · rw [wired.counted]
    omega

theorem wire_in_order (txBufs : Nat → UInt8) (tsd : Nat → BitVec 32) (stats netdevStats : NetDeviceStats)
    (events : List Event) (path : machine.Runs (opened txBufs tsd stats netdevStats) events) :
    Carried (events.flatMap offered) (machine.run (opened txBufs tsd stats netdevStats) events) := by
  have wired := run_wired txBufs tsd stats netdevStats events path
  have accepted := run_accepted (opened txBufs tsd stats netdevStats) events
  rw [show (opened txBufs tsd stats netdevStats).accepted = [] from rfl,List.nil_append] at accepted
  rw [← accepted]
  exact wired.carried

def interleaved : List Event := [.startXmit ⟨[1,2,3]⟩,.fetches 20,.startXmit ⟨[4]⟩,.fetches 40,.sends,
  .completes 0 txStatOK,.interrupt txOK]

theorem wire_in_order_interleaved :
    Carried [[1,2,3],[4]] (machine.run (opened (fun _ => 0) (fun _ => txHostOwns) {} {}) interleaved) :=
  wire_in_order _ _ _ _ interleaved
    ⟨rfl,⟨0,rfl,by decide⟩,rfl,⟨0,rfl,by decide⟩,⟨0,rfl,by decide⟩,⟨⟨by decide,by decide⟩,by decide⟩,trivial,trivial⟩

end LinuxDeviceDrivers.Rtl8139Wire
