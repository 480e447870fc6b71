import LinuxDeviceDrivers.Rtl8139Accounting
import LinuxDeviceDrivers.Rtl8139Driver
import LinuxDeviceDrivers.Rtl8150Accounting

namespace LinuxDeviceDrivers.StatisticsWords
open Transition WordCounters NetDevice Rtl8139Registers

theorem unsignedLong_add (first second : Nat) :
    unsignedLong (unsignedLong first+unsignedLong second) = unsignedLong (first+second) := by simp [unsignedLong]

section Receive
open Rtl8139Receive

def received : Counters System NetDeviceStats where
  read s := s.driver.stats
  put stats s := {s with driver := {s.driver with stats := stats}}
  read_put _ _ := rfl
  put_put _ _ _ := rfl
  put_read _ := rfl

theorem receivePacket_adds (allocated : Bool) (d : Driver) : ∃ added,∀ stats,
    receivePacket allocated {d with stats := stats} =
      (receivePacket allocated d).map fun next => {next with stats := NetDeviceStats.add stats added} := by
  unfold receivePacket
  simp only []
  split
  · exact ⟨{},fun _ => rfl⟩
  · split
    · split
      · exact ⟨{},fun _ => rfl⟩
      · exact ⟨{rxBytes := _,rxPackets := 1},fun _ => rfl⟩
    · exact ⟨{
        rxDropped := 1
        multicast := _
        rxLengthErrors := _
        rxCrcErrors := _
        rxFrameErrors := _},fun _ => rfl⟩

theorem iterates_adds (allocated : Bool) (s : System) : ∃ added,∀ stats,
    iterates allocated (received.put stats s) = received.put (stats.add added) (iterates allocated s) := by
  obtain ⟨added,adds⟩ := receivePacket_adds allocated s.driver
  cases packet : receivePacket allocated s.driver with
  | none =>
      refine ⟨{},fun stats => ?_⟩
      have faults := adds stats
      rw [packet,Option.map_none] at faults
      simp only [iterates,received]
      rw [faults,packet]
      rfl
  | some next =>
      refine ⟨added,fun stats => ?_⟩
      have continues := adds stats
      rw [packet,Option.map_some] at continues
      simp only [iterates,received]
      rw [continues,packet]

theorem interrupts_adds (isr : BitVec 16) (s : System) : ∃ added,∀ stats,
    interrupts isr (received.put stats s) = received.put (NetDeviceStats.add stats added) (interrupts isr s) := by
  unfold interrupts countErrors
  by_cases ours : serviced isr
  · by_cases errors : isr &&& rxErr = 0#16
    · exact ⟨{},fun _ => by simp only [if_pos ours,if_pos errors]; rfl⟩
    · exact ⟨{rxErrors := 1},fun _ => by simp only [if_pos ours,if_neg errors]; rfl⟩
  · exact ⟨{},fun _ => by simp only [if_neg ours]; rfl⟩

theorem receive_unread : Unread machine received NetDeviceStats.cut := by
  constructor
  · intro stats s event
    cases event <;> exact Iff.rfl
  · intro s event
    cases event with
    | receives frame => exact ⟨id,.id,fun _ => rfl⟩
    | interrupts isr =>
        obtain ⟨added,adds⟩ := interrupts_adds isr s
        exact ⟨_,NetDeviceStats.add_wraps added,adds⟩
    | iterates allocated =>
        obtain ⟨added,adds⟩ := iterates_adds allocated s
        exact ⟨_,NetDeviceStats.add_wraps added,adds⟩
    | leaves => exact ⟨id,.id,fun _ => rfl⟩

-- The receive side with its counters in the unsigned longs of the source. The
-- machines of that kind below are made the same way.
def receiveWords : Machine System Event := wrapped machine received NetDeviceStats.cut

structure DeliveredWords (start : NetDeviceStats) (s : System) : Prop where
  buffers : s.driver.netifRx = delivered s.consumed
  counted : unsignedLong (s.driver.stats.rxPackets+s.driver.stats.rxDropped) =
    unsignedLong (start.rxPackets+start.rxDropped+s.consumed.length)
  sound : s.faulted = false

theorem received_words {start : NetDeviceStats} {s : System} (delivered : Delivered start s) :
    DeliveredWords start (stored received NetDeviceStats.cut s) :=
  ⟨delivered.buffers,(unsignedLong_add _ _).trans (congrArg unsignedLong delivered.counted),delivered.sound⟩

theorem ring_agreement_words (rxRing : Nat → UInt8) (stats : NetDeviceStats) (events : List Event)
    (path : receiveWords.Runs (opened rxRing stats.words) events) :
    receiveWords.Along Agrees (opened rxRing stats.words) events ∧
      DeliveredWords stats (receiveWords.run (opened rxRing stats.words) events) ↔
      NoExactEnd (receiveWords.run (opened rxRing stats.words) events).consumed := by
  have start := opened_synchronized rxRing stats
  have nothing : NoExactEnd (opened rxRing stats).consumed := by simp [NoExactEnd,opened]
  have counting := (wrapped_runs receive_unread (opened rxRing stats) events).mp path
  have agreeing : receiveWords.Along Agrees (stored received NetDeviceStats.cut _) events ↔ _ :=
    wrapped_along receive_unread (fun _ event => by cases event <;> exact Iff.rfl) (opened rxRing stats) events
  have ends : receiveWords.run (stored received NetDeviceStats.cut _) events = _ :=
    wrapped_run receive_unread (opened rxRing stats) events
  rw [show opened rxRing stats.words = stored received NetDeviceStats.cut (opened rxRing stats) from rfl,agreeing,ends]
  constructor
  · intro agree
    exact agreeing_run start nothing counting agree.1
  · intro clear
    have agree := clear_run start counting clear
    exact ⟨agree,received_words (synchronized_run start counting agree).toDelivered⟩

end Receive

section Transmit
open Rtl8139Transmit

def recount (stats netdevStats : NetDeviceStats) (d : Driver) : Driver := {d with stats := stats,netdevStats := netdevStats}

def transmitted : Counters System (NetDeviceStats × NetDeviceStats) where
  read s := (s.driver.stats,s.driver.netdevStats)
  put count s := {s with driver := recount count.1 count.2 s.driver}
  read_put _ _ := rfl
  put_put _ _ _ := rfl
  put_read _ := rfl

theorem stopWhenFull_recount (stats netdevStats : NetDeviceStats) (d : Driver) :
    stopWhenFull (recount stats netdevStats d) = recount stats netdevStats (stopWhenFull d) := by
  unfold stopWhenFull
  by_cases full : d.curTx = d.dirtyTx
  · rw [if_pos full,if_pos (show (recount stats netdevStats d).curTx = (recount stats netdevStats d).dirtyTx from full)]
    rfl
  · rw [if_neg full,if_neg (show ¬ (recount stats netdevStats d).curTx = (recount stats netdevStats d).dirtyTx from full)]

theorem startXmit_adds (skb : Skb) (d : Driver) : ∃ added,∀ stats netdevStats,
    startXmit skb (recount stats netdevStats d) = recount stats (NetDeviceStats.add netdevStats added) (startXmit skb d) := by
  by_cases small : skb.len < txBufSize
  · refine ⟨{},fun stats netdevStats => ?_⟩
    simp only [startXmit,if_pos small]
    exact stopWhenFull_recount stats netdevStats (advanceCurTx (writeTsd skb (d.curTx % numTxDesc) (copySkb skb (d.curTx % numTxDesc) d)))
  · refine ⟨{txDropped := 1},fun stats netdevStats => ?_⟩
    simp only [startXmit,if_neg small]
    rfl

theorem countTransmit_adds (txStatus : BitVec 32) : ∃ added,∀ stats,countTransmit txStatus stats = NetDeviceStats.add stats added := by
  unfold countTransmit
  split
  · exact ⟨{txBytes := _,txPackets := 1},fun _ => rfl⟩
  · exact ⟨{
      txErrors := 1
      txAbortedErrors := _
      txFifoErrors := _
      txWindowErrors := _
      txCarrierErrors := _},fun _ => rfl⟩

theorem reapDescriptor_recount (txStatus : BitVec 32) (stats netdevStats : NetDeviceStats) (d : Driver) :
    wakeWhenEmpty (reapDescriptor txStatus (recount stats netdevStats d)) =
      recount (countTransmit txStatus stats) netdevStats (wakeWhenEmpty (reapDescriptor txStatus d)) := by
  rw [wakeWhenEmpty_eq,wakeWhenEmpty_eq]
  rfl

theorem reapLoop_pass (fuel : Nat) {d : Driver} (busy : reapPending d = true) (ended : concluded (d.tsd d.dirtyTx) = true)
    (stats netdevStats : NetDeviceStats) : reapLoop (fuel+1) (recount stats netdevStats d) =
      reapLoop fuel (recount (countTransmit (d.tsd d.dirtyTx) (countCollisions (d.tsd d.dirtyTx) stats)) netdevStats
        (wakeWhenEmpty (reapDescriptor (d.tsd d.dirtyTx) d))) := by
  rw [reapLoop,if_pos (show reapPending (recount stats netdevStats d) = true from busy),← reapDescriptor_recount]
  exact if_pos ended

theorem reapLoop_adds (fuel : Nat) (d : Driver) : ∃ added,∀ stats netdevStats,
    reapLoop fuel (recount stats netdevStats d) =
      (reapLoop fuel d).map (recount (NetDeviceStats.add stats added) netdevStats) := by
  induction fuel generalizing d with
  | zero => exact ⟨{},fun _ _ => rfl⟩
  | succ fuel ih =>
      obtain ⟨collisions,collided⟩ : ∃ added,∀ stats,countCollisions (d.tsd d.dirtyTx) stats = NetDeviceStats.add stats added :=
        ⟨{collisions := _},fun _ => rfl⟩
      by_cases busy : reapPending d
      · by_cases ended : concluded (d.tsd d.dirtyTx)
        · obtain ⟨reaped,counts⟩ := countTransmit_adds (d.tsd d.dirtyTx)
          obtain ⟨later,adds⟩ := ih (wakeWhenEmpty (reapDescriptor (d.tsd d.dirtyTx) d))
          have own := reapLoop_pass fuel busy ended d.stats d.netdevStats
          rw [adds] at own
          change reapLoop (fuel+1) d = _ at own
          refine ⟨collisions.add (reaped.add later),fun stats netdevStats => ?_⟩
          rw [reapLoop_pass fuel busy ended,adds,counts,collided,NetDeviceStats.add_add,NetDeviceStats.add_add,own,
            Option.map_map]
          rfl
        · refine ⟨collisions,fun stats netdevStats => ?_⟩
          rw [reapLoop,reapLoop,if_pos busy,if_pos (show reapPending (recount stats netdevStats d) = true from busy)]
          have waits : ¬ concluded ((recount stats netdevStats d).tsd (recount stats netdevStats d).dirtyTx) = true := ended
          simp only [if_neg ended,if_neg waits,Option.map_some]
          exact congrArg some (congrArg (recount · netdevStats d) (collided stats))
      · refine ⟨{},fun stats netdevStats => ?_⟩
        rw [reapLoop,reapLoop,if_neg busy,if_neg (show ¬ reapPending (recount stats netdevStats d) = true from busy)]
        rfl

theorem reaping_adds (isr : BitVec 16) (s : System) : ∃ added,∀ count,
    interrupts isr (transmitted.put count s) = transmitted.put (NetDeviceStats.add count.1 added,count.2) (interrupts isr s) := by
  have counts : ∃ added,∀ stats netdevStats,interrupt isr (recount stats netdevStats s.driver) =
      (interrupt isr s.driver).map (recount (NetDeviceStats.add stats added) netdevStats) := by
    unfold interrupt
    split
    · exact reapLoop_adds _ _
    · exact ⟨{},fun _ _ => rfl⟩
  obtain ⟨added,adds⟩ := counts
  cases reaped : interrupt isr s.driver with
  | none =>
      refine ⟨{},fun count => ?_⟩
      have hangs := adds count.1 count.2
      rw [reaped,Option.map_none] at hangs
      simp only [interrupts,transmitted]
      rw [hangs,reaped]
      rfl
  | some driver =>
      refine ⟨added,fun count => ?_⟩
      have returns := adds count.1 count.2
      rw [reaped,Option.map_some] at returns
      simp only [interrupts,transmitted]
      rw [returns,reaped]

end Transmit

section Accounting
open Rtl8139Accounting

def accounted : Counters System (NetDeviceStats × NetDeviceStats) where
  read s := transmitted.read s.link
  put count s := {s with link := transmitted.put count s.link}
  read_put _ _ := rfl
  put_put _ _ _ := rfl
  put_read _ := rfl

theorem accounting_unread : Unread machine accounted (NetDeviceStats.cut.prod NetDeviceStats.cut) := by
  constructor
  · intro count s event
    cases event <;> exact Iff.rfl
  · intro s event
    cases event with
    | startXmit skb =>
        obtain ⟨added,adds⟩ := startXmit_adds skb s.link.driver
        refine ⟨Prod.map id (·.add added),Wraps.id.prod (NetDeviceStats.add_wraps added),fun count => ?_⟩
        simp only [machine,transmits,Rtl8139Transmit.transmits,accounted,transmitted]
        rw [adds]
        rfl
    | updates entry status =>
        refine ⟨id,.id,fun count => ?_⟩
        simp only [machine,updates]
        split <;> rfl
    | interrupt isr =>
        obtain ⟨added,adds⟩ := reaping_adds isr s.link
        refine ⟨Prod.map (·.add added) id,(NetDeviceStats.add_wraps added).prod .id,fun count => ?_⟩
        simp only [machine,interrupts,accounted]
        rw [adds]
        rfl

def accountingWords : Machine System Event := wrapped machine accounted (NetDeviceStats.cut.prod NetDeviceStats.cut)

structure ConservedWords (s : System) : Prop where
  frames : unsignedLong ((rtl8139GetStats s.link.driver).txPackets+(rtl8139GetStats s.link.driver).txErrors+
    (rtl8139GetStats s.link.driver).txDropped+Rtl8139Transmit.pending s.link.driver) = unsignedLong s.handed.length
  bytes : (rtl8139GetStats s.link.driver).txBytes = unsignedLong (s.outcomes.map sentBytes).sum
  collisions : (rtl8139GetStats s.link.driver).collisions =
    unsignedLong (s.outcomes.map fun outcome => collisionCount outcome.2).sum

theorem accounted_words {s : System} (conserved : Conserved s) :
    ConservedWords (stored accounted (NetDeviceStats.cut.prod NetDeviceStats.cut) s) := by
  have frames : unsignedLong (unsignedLong s.link.driver.stats.txPackets+unsignedLong s.link.driver.stats.txErrors+
      unsignedLong s.link.driver.stats.txDropped+Rtl8139Transmit.pending s.link.driver) = unsignedLong s.handed.length := by
    rw [← conserved.frames]
    unfold unsignedLong rtl8139GetStats
    omega
  exact ⟨frames,congrArg unsignedLong conserved.bytes,congrArg unsignedLong conserved.collisions⟩

theorem collisionCount_lt (txStatus : BitVec 32) : collisionCount txStatus < 16 := by
  rw [collisionCount,BitVec.toNat_and]
  exact Nat.lt_succ_of_le Nat.and_le_right

theorem waitingCollisions_lt (d : Rtl8139Transmit.Driver) : waitingCollisions d < 16 := by
  unfold waitingCollisions
  cases waiting d with
  | none => exact Nat.succ_pos 15
  | some entry => exact collisionCount_lt (d.tsd entry)

-- A frame or a few collisions too many are not a multiple of 2^64.
theorem unaccountable_words {s : System} (event : Event) (accounted : Accounted s) (unaccountable : ¬ Accountable s event) :
    ¬ ConservedWords (stored StatisticsWords.accounted (NetDeviceStats.cut.prod NetDeviceStats.cut) (machine.apply s event)) := by
  intro words
  cases event with
  | startXmit skb =>
      have short := oversized_frames accounted.conserved unaccountable
      have frames : unsignedLong (unsignedLong (transmits skb s).link.driver.stats.txPackets+
          unsignedLong (transmits skb s).link.driver.stats.txErrors+unsignedLong (transmits skb s).link.driver.stats.txDropped+
          Rtl8139Transmit.pending (transmits skb s).link.driver) = unsignedLong (transmits skb s).handed.length := words.frames
      rw [← short] at frames
      unfold unsignedLong rtl8139GetStats at frames
      omega
  | updates entry status => exact unaccountable trivial
  | interrupt isr =>
      obtain ⟨cause,collided⟩ := Classical.not_imp.mp unaccountable
      have counted := (interrupts_serviced accounted cause).collisions
      have some := mt (waitingCollisions_zero s.link.driver).mp collided
      have few := waitingCollisions_lt s.link.driver
      have collisions : unsignedLong (rtl8139GetStats (interrupts isr s).link.driver).collisions =
        unsignedLong ((interrupts isr s).outcomes.map fun outcome => collisionCount outcome.2).sum := words.collisions
      rw [counted] at collisions
      unfold unsignedLong at collisions
      omega

theorem accounting_words_iff (txBufs : Nat → UInt8) (tsd : Nat → BitVec 32) (events : List Event)
    (path : accountingWords.Runs (opened txBufs tsd) events) :
    accountingWords.Throughout ConservedWords (opened txBufs tsd) events ↔
      accountingWords.Along Accountable (opened txBufs tsd) events := by
  refine wrapped_exact accounting_unread (fun _ event => by cases event <;> exact Iff.rfl)
    (fun _ accounted => accounted_words accounted.conserved) ?_ apply_accounted (opened_accounted txBufs tsd) path
  intro s event accounted allowed
  constructor
  · exact fun accountable => accounted_words ((apply_conserved_iff s event accounted allowed).mp accountable)
  · intro words
    by_contra unaccountable
    exact unaccountable_words event accounted unaccountable words

theorem accounting_words_sent :
    accountingWords.Throughout ConservedWords (opened (fun _ => 0) fun _ => txHostOwns) sentFrame :=
  (accounting_words_iff _ _ sentFrame
    ((wrapped_runs accounting_unread (opened (fun _ => 0) fun _ => txHostOwns) sentFrame).mpr (by decide +kernel))).mpr
    ⟨(by decide : 3 < txBufSize),trivial,fun _ => by decide +kernel,trivial⟩

end Accounting

section Wire
open Rtl8139Wire

def wired : Counters System (NetDeviceStats × NetDeviceStats) where
  read s := transmitted.read s.transmit
  put count s := {s with transmit := transmitted.put count s.transmit}
  read_put _ _ := rfl
  put_put _ _ _ := rfl
  put_read _ := rfl

theorem wire_interrupt_adds (isr : BitVec 16) (s : System) : ∃ added,∀ count,
    machine.apply (wired.put count s) (.interrupt isr) =
      wired.put (NetDeviceStats.add count.1 added,count.2) (machine.apply s (.interrupt isr)) := by
  obtain ⟨added,adds⟩ := reaping_adds isr s.transmit
  refine ⟨added,fun count => ?_⟩
  simp only [machine,wired]
  rw [adds]

theorem wire_unread : Unread machine wired (NetDeviceStats.cut.prod NetDeviceStats.cut) := by
  constructor
  · intro count s event
    cases event <;> exact Iff.rfl
  · intro s event
    cases event with
    | startXmit skb =>
        obtain ⟨added,adds⟩ := startXmit_adds skb s.transmit.driver
        refine ⟨Prod.map id (·.add added),Wraps.id.prod (NetDeviceStats.add_wraps added),fun count => ?_⟩
        simp only [machine,Rtl8139Transmit.transmits,wired,transmitted]
        rw [adds]
        rfl
    | fetches count =>
        refine ⟨id,.id,fun stats => ?_⟩
        have here : oldest (wired.put stats s) = oldest s := rfl
        simp only [machine,fetches,here]
        cases oldest s <;> rfl
    | sends => exact ⟨id,.id,fun _ => rfl⟩
    | completes entry status => exact ⟨id,.id,fun _ => rfl⟩
    | interrupt isr =>
        obtain ⟨added,adds⟩ := wire_interrupt_adds isr s
        exact ⟨Prod.map (·.add added) id,(NetDeviceStats.add_wraps added).prod .id,adds⟩

end Wire

section Driver
open Rtl8139Driver

-- priv->stats, the copies the two halves last worked on, and netdev->stats.
abbrev Copies : Type := NetDeviceStats × (NetDeviceStats × NetDeviceStats) × NetDeviceStats

def copies : Cut Copies := NetDeviceStats.cut.prod ((NetDeviceStats.cut.prod NetDeviceStats.cut).prod NetDeviceStats.cut)

def shared : Counters System Copies where
  read s := (s.stats,wired.read s.transmit,received.read s.receive)
  put count s := {s with
    transmit := wired.put count.2.1 s.transmit
    receive := received.put count.2.2 s.receive
    stats := count.1}
  read_put _ _ := rfl
  put_put _ _ _ := rfl
  put_read _ := rfl

theorem shared_wraps (sent read : NetDeviceStats) : Wraps copies fun count =>
    ((count.1.add sent).add read,(count.1.add sent,count.2.1.2),(count.1.add sent).add read) := by
  intro first second same
  have stats : first.1.words = second.1.words := congrArg Prod.fst same
  have netdevStats : first.2.1.2.words = second.2.1.2.words := congrArg (·.2.1.2) same
  have reaped := NetDeviceStats.add_wraps sent _ _ stats
  have counted := NetDeviceStats.add_wraps read _ _ reaped
  exact Prod.ext counted (Prod.ext (Prod.ext reaped netdevStats) counted)

theorem services_wraps (s : System) : ∃ update,Wraps copies update ∧
    ∀ count,services (shared.put count s) = shared.put (update count) (services s) := by
  have handler (count : Copies) : (shared.put count s).handler = s.handler := rfl
  simp only [services,handler]
  cases s.handler with
  | servicing isr =>
      obtain ⟨sent,reaps⟩ := wire_interrupt_adds isr (lendTransmit s.stats s.transmit)
      obtain ⟨read,reads⟩ := interrupts_adds isr s.receive
      refine ⟨_,shared_wraps sent read,fun count => ?_⟩
      let reaped := Rtl8139Wire.machine.apply (lendTransmit s.stats s.transmit) (.interrupt isr)
      have reaps' : Rtl8139Wire.machine.apply (lendTransmit (shared.put count s).stats (shared.put count s).transmit)
          (.interrupt isr) = wired.put (count.1.add sent,count.2.1.2) reaped := reaps (count.1,count.2.1.2)
      have reads' : Rtl8139Receive.interrupts isr (lendReceive (count.1.add sent) (shared.put count s).receive) =
          received.put ((count.1.add sent).add read) (Rtl8139Receive.interrupts isr s.receive) := reads (count.1.add sent)
      have own : Rtl8139Receive.interrupts isr (lendReceive reaped.transmit.driver.stats s.receive) =
          received.put (reaped.transmit.driver.stats.add read) (Rtl8139Receive.interrupts isr s.receive) :=
        reads reaped.transmit.driver.stats
      dsimp only
      rw [reaps',own,show (wired.put (count.1.add sent,count.2.1.2) reaped).transmit.driver.stats = count.1.add sent from rfl,
        reads']
      rfl
  | _ => exact ⟨id,.id,fun _ => rfl⟩

theorem shared_unread : Unread machine shared copies := by
  constructor
  · intro count s event
    cases event with
    | wire event => exact and_congr (wire_unread.allowed count.2.1 s.transmit event) Iff.rfl
    | receives frame => exact receive_unread.allowed count.2.2 s.receive (.receives frame)
    | _ => exact Iff.rfl
  · intro s event
    cases event with
    | wire event =>
        obtain ⟨update,wraps,moves⟩ := wire_unread.moves s.transmit event
        refine ⟨Prod.map id (Prod.map update id),Wraps.id.prod (wraps.prod .id),fun count => ?_⟩
        simp only [machine,shared,moves]
        rfl
    | writesIsr =>
        refine ⟨id,.id,fun count => ?_⟩
        have handler : (shared.put count s).handler = s.handler := rfl
        simp only [machine,writesIsr,handler]
        cases s.handler <;> rfl
    | services => exact services_wraps s
    | iterates allocated =>
        obtain ⟨added,adds⟩ := iterates_adds allocated s.receive
        refine ⟨fun count => (count.1.add added,count.2.1,count.1.add added),?_,fun count => ?_⟩
        · intro first second same
          have counted := NetDeviceStats.add_wraps added _ _ (congrArg Prod.fst same)
          have sent := congrArg (·.2.1) same
          exact Prod.ext counted (Prod.ext sent counted)
        · have lent : Rtl8139Receive.iterates allocated (lendReceive (shared.put count s).stats (shared.put count s).receive) =
              received.put (count.1.add added) (Rtl8139Receive.iterates allocated s.receive) := adds count.1
          have own : Rtl8139Receive.iterates allocated (lendReceive s.stats s.receive) =
              received.put (s.stats.add added) (Rtl8139Receive.iterates allocated s.receive) := adds s.stats
          simp only [machine,iterates]
          rw [lent,own]
          rfl
    | _ => exact ⟨id,.id,fun _ => rfl⟩

def driverWords : Machine System Event := wrapped machine shared copies

structure SharedWords (start : NetDeviceStats) (s : System) : Prop where
  transmitted : unsignedLong (s.stats.txPackets+s.stats.txErrors) =
    unsignedLong (start.txPackets+start.txErrors+s.transmit.transmit.driver.reaped.length)
  received : Rtl8139Receive.NoExactEnd s.receive.consumed → unsignedLong (s.stats.rxPackets+s.stats.rxDropped) =
    unsignedLong (start.rxPackets+start.rxDropped+s.receive.consumed.length)

theorem both_directions_words (txBufs : Nat → UInt8) (tsd : Nat → BitVec 32) (rxRing : Nat → UInt8)
    (stats netdevStats : NetDeviceStats) (events : List Event)
    (path : driverWords.Runs (opened txBufs tsd rxRing stats.words netdevStats.words) events) :
    driverWords.Throughout (SharedWords stats) (opened txBufs tsd rxRing stats.words netdevStats.words) events := by
  have counting := (wrapped_runs shared_unread (opened txBufs tsd rxRing stats netdevStats) events).mp path
  have whole := Machine.throughout_of_invariant apply_whole (opened_whole txBufs tsd rxRing stats netdevStats) counting
  refine (wrapped_throughout shared_unread (opened txBufs tsd rxRing stats netdevStats) events).mpr
    (whole.imp fun s whole => ⟨?_,fun clear => ?_⟩)
  · exact (unsignedLong_add _ _).trans (congrArg unsignedLong whole.transmitted)
  · exact (unsignedLong_add _ _).trans (congrArg unsignedLong (whole.received clear).counted)

-- The packet that is sent is one more than the counter can hold.
def sentBefore : NetDeviceStats := {txPackets := 0xffffffffffffffff}

theorem both_directions_words_wrap :
    driverWords.Throughout (SharedWords sentBefore)
      (opened (fun _ => 0) (fun _ => txHostOwns) (fun _ => 0) sentBefore.words {}) bothWays ∧
    (driverWords.run
      (opened (fun _ => 0) (fun _ => txHostOwns) (fun _ => 0) sentBefore.words {}) bothWays).stats.txPackets = 0 :=
  ⟨both_directions_words _ _ _ sentBefore {} bothWays ((wrapped_runs shared_unread _ bothWays).mpr
      ((put_runs shared_unread (sentBefore,(sentBefore,{}),sentBefore) _ bothWays).mpr bothWays_runs)),
    by decide +kernel⟩

end Driver

section Usb
open Rtl8150

def usb : Counters System NetDeviceStats where
  read s := s.priv.stats
  put stats s := {s with priv := {s.priv with stats := stats}}
  read_put _ _ := rfl
  put_put _ _ _ := rfl
  put_read _ := rfl

-- rx_bytes may be moved by a negative number, which its word takes as a large one.
theorem addSigned_word (counter : Nat) (value : Int) :
    unsignedLong (addSigned counter value) = unsignedLong (counter+(value % 0x10000000000000000).toNat) := by
  unfold unsignedLong addSigned
  omega

theorem deliver_wraps (pktLen : Int) : Wraps NetDeviceStats.cut fun stats => {stats with
    rxPackets := stats.rxPackets+1
    rxBytes := addSigned stats.rxBytes pktLen} := by
  refine (NetDeviceStats.add_wraps {rxPackets := 1,rxBytes := (pktLen % 0x10000000000000000).toNat}).congr fun stats => ?_
  simp only [NetDeviceStats.cut,NetDeviceStats.words,NetDeviceStats.map,NetDeviceStats.add,Nat.add_zero,addSigned_word]

theorem usbSubmitUrb_put (stats : NetDeviceStats) (index : Nat) (result : Int) (s : System) :
    usbSubmitUrb index result (usb.put stats s) =
      ((usbSubmitUrb index result s).1,usb.put stats (usbSubmitUrb index result s).2) := by
  have state : ((usb.put stats s).urbs index).state = (s.urbs index).state := rfl
  unfold usbSubmitUrb
  rw [state]
  by_cases refused : (if (s.urbs index).state = .idle then result else ebusy) < 0
  · simp only [if_pos refused]
  · simp only [if_neg refused]
    rfl

theorem usbUnlinkUrb_put (stats : NetDeviceStats) (urb : Option Nat) (s : System) :
    usbUnlinkUrb urb (usb.put stats s) = usb.put stats (usbUnlinkUrb urb s) := by
  cases urb with
  | none => rfl
  | some index =>
      have state : ((usb.put stats s).urbs index).state = (s.urbs index).state := rfl
      simp only [usbUnlinkUrb]
      rw [state]
      by_cases active : (s.urbs index).state = .active
      · rw [if_pos active,if_pos active]
        rfl
      · rw [if_neg active,if_neg active]

theorem rtl8150Open_put (stats : NetDeviceStats) (answer : OpenAnswer) (s : System) :
    rtl8150Open answer (usb.put stats s) = usb.put stats (rtl8150Open answer s) := by
  have prepared : prepare answer (usb.put stats s) = usb.put stats (prepare answer s) := rfl
  have count : (usb.put stats s).urbCount = s.urbCount := rfl
  unfold rtl8150Open
  by_cases allocated : (answer.rxUrb && answer.intrUrb && answer.rxSkb) = true
  · simp only [if_pos allocated]
    rw [prepared,count,usbSubmitUrb_put]
    dsimp only
    by_cases refused : (usbSubmitUrb s.urbCount answer.rxResult (prepare answer s)).1 < 0
    · rw [if_pos refused,if_pos refused]
      rfl
    · rw [if_neg refused,if_neg refused,usbSubmitUrb_put]
      dsimp only
      split <;> rfl
  · rw [if_neg allocated,if_neg allocated]
    rfl

theorem rtl8150Close_put (stats : NetDeviceStats) (s : System) :
    rtl8150Close (usb.put stats s) = usb.put stats (rtl8150Close s) := by
  have phase : (usb.put stats s).phase = s.phase := rfl
  have unlinks (urb : Option Nat) := usbUnlinkUrb_put stats urb s
  unfold rtl8150Close
  rw [phase]
  cases s.phase with
  | unlinkRx =>
      dsimp only
      rw [unlinks]
      rfl
  | unlinkTx =>
      dsimp only
      rw [unlinks]
      rfl
  | unlinkIntr =>
      dsimp only
      rw [unlinks]
      rfl
  | unlinkCtrl =>
      dsimp only
      rw [unlinks]
      rfl
  | _ => rfl

theorem reschedule_put (stats : NetDeviceStats) (answer : CallbackAnswer) (s : System) :
    reschedule answer (usb.put stats s) = usb.put stats (reschedule answer s) := by
  unfold reschedule
  rw [show (usb.put stats s).priv.rxUrb = s.priv.rxUrb from rfl]
  cases answer.rxSkb with
  | false => rfl
  | true =>
      cases s.priv.rxUrb with
      | none => rfl
      | some rxUrb =>
          let filled := fillUrb rxUrb .bulkIn (some s.rxSkbs) rtl8150Mtu
            {s with rxSkbs := s.rxSkbs+1,priv := {s.priv with rxSkb := some s.rxSkbs}}
          exact congrArg Prod.snd (usbSubmitUrb_put stats rxUrb answer.result filled)

theorem submitted_adds (stats : NetDeviceStats) (sent : Int × System) :
    (if sent.1 < 0 then startQueue (countTxError (usb.put stats sent.2)) else usb.put stats sent.2) =
      usb.put (NetDeviceStats.add stats (if sent.1 < 0 then {txErrors := 1} else {}))
        (if sent.1 < 0 then startQueue (countTxError sent.2) else sent.2) := by
  split <;> rfl

theorem rtl8150StartXmit_adds (skb len : Nat) (allocated : Bool) (result : Int) (s : System) : ∃ added,∀ stats,
    rtl8150StartXmit skb len allocated result (usb.put stats s) =
      usb.put (NetDeviceStats.add stats added) (rtl8150StartXmit skb len allocated result s) := by
  unfold rtl8150StartXmit
  cases allocated with
  | false => exact ⟨{},fun _ => rfl⟩
  | true =>
      let filled := fillUrb s.urbCount .bulkOut (some skb) len (takeSkb skb (some s.urbCount) {s with urbCount := s.urbCount+1})
      refine ⟨if (usbSubmitUrb s.urbCount result filled).1 < 0 then {txErrors := 1} else {},fun stats => ?_⟩
      have submitted := usbSubmitUrb_put stats s.urbCount result filled
      have counted := submitted_adds stats (usbSubmitUrb s.urbCount result filled)
      exact (congrArg (fun sent : Int × System => if sent.1 < 0 then startQueue (countTxError sent.2) else sent.2)
        submitted).trans counted

theorem readBulkCallback_wraps (status : Int) (actualLength : Nat) (answer : CallbackAnswer) (s : System) :
    ∃ update,Wraps NetDeviceStats.cut update ∧ ∀ stats,
      readBulkCallback status actualLength answer (usb.put stats s) =
        usb.put (update stats) (readBulkCallback status actualLength answer s) := by
  unfold readBulkCallback
  by_cases success : status = 0
  · refine ⟨_,deliver_wraps ((actualLength : Int)-4),fun stats => ?_⟩
    rw [if_pos success,if_pos success,← reschedule_put]
    rfl
  · by_cases gone : status = enoent
    · exact ⟨id,.id,fun _ => by rw [if_neg success,if_neg success,if_pos gone,if_pos gone]; rfl⟩
    · exact ⟨id,.id,fun _ => by rw [if_neg success,if_neg success,if_neg gone,if_neg gone]; exact reschedule_put _ answer s⟩

theorem writeBulkCallback_wraps (status : Int) (actualLength : Nat) (s : System) :
    ∃ update,Wraps NetDeviceStats.cut update ∧ ∀ stats,
      writeBulkCallback status actualLength (usb.put stats s) = usb.put (update stats) (writeBulkCallback status actualLength s) := by
  unfold writeBulkCallback
  by_cases success : status = 0
  · refine ⟨_,NetDeviceStats.add_wraps {txPackets := 1,txBytes := (actualLength+0x100000000-4) % 0x100000000},fun stats => ?_⟩
    rw [if_pos success,if_pos success]
    rfl
  · by_cases gone : status = enoent
    · exact ⟨id,.id,fun _ => by rw [if_neg success,if_neg success,if_pos gone,if_pos gone]; rfl⟩
    · exact ⟨id,.id,fun _ => by rw [if_neg success,if_neg success,if_neg gone,if_neg gone]; rfl⟩

theorem reportErrors_adds (tsr : BitVec 8) : ∃ added,∀ stats,reportErrors tsr stats = NetDeviceStats.add stats added := by
  unfold reportErrors
  split
  · exact ⟨{},fun _ => rfl⟩
  · exact ⟨{txErrors := 1,txAbortedErrors := _,txWindowErrors := _,txCarrierErrors := _},fun _ => rfl⟩

theorem intrCallback_wraps (urb : Nat) (status : Int) (answer : CallbackAnswer) (s : System) :
    ∃ update,Wraps NetDeviceStats.cut update ∧ ∀ stats,
      intrCallback urb status answer (usb.put stats s) = usb.put (update stats) (intrCallback urb status answer s) := by
  have buffer (stats : NetDeviceStats) : ((usb.put stats s).urbs urb).buffer = (s.urbs urb).buffer := rfl
  unfold intrCallback
  by_cases success : status = 0
  · simp only [if_pos success,buffer]
    by_cases null : (s.urbs urb).buffer = none
    · exact ⟨id,.id,fun _ => by rw [if_pos null,if_pos null]; rfl⟩
    · obtain ⟨added,adds⟩ := reportErrors_adds answer.tsr
      refine ⟨_,NetDeviceStats.add_wraps added,fun stats => ?_⟩
      have reported : reportLink answer (usb.put stats s) = usb.put (stats.add added) (reportLink answer s) := by
        rw [← adds]
        rfl
      rw [if_neg null,if_neg null,reported]
      exact congrArg Prod.snd (usbSubmitUrb_put _ urb answer.result _)
  · simp only [if_neg success]
    refine ⟨id,.id,fun stats => ?_⟩
    split
    · rfl
    · exact congrArg Prod.snd (usbSubmitUrb_put stats urb answer.result s)

theorem callback_wraps (urb : Nat) (answer : CallbackAnswer) (s : System) :
    ∃ update,Wraps NetDeviceStats.cut update ∧ ∀ stats,
      callback urb answer (usb.put stats s) = usb.put (update stats) (callback urb answer s) := by
  have own (stats : NetDeviceStats) : (usb.put stats s).urbs = s.urbs := rfl
  let given := {setState urb .idle s with awaited := s.awaited.erase urb}
  simp only [callback,own]
  cases (s.urbs urb).state with
  | done status actualLength =>
      simp only [runCallback,own]
      cases (s.urbs urb).pipe with
      | bulkIn => exact readBulkCallback_wraps status actualLength answer given
      | bulkOut => exact writeBulkCallback_wraps status actualLength given
      | interruptIn => exact intrCallback_wraps urb status answer given
  | _ => exact ⟨id,.id,fun _ => rfl⟩

theorem apply_wraps (s : System) (event : Event) : ∃ update,Wraps NetDeviceStats.cut update ∧
    ∀ stats,machine.apply (usb.put stats s) event = usb.put (update stats) (machine.apply s event) := by
  cases event with
  | opens answer => exact ⟨id,.id,fun stats => rtl8150Open_put stats answer s⟩
  | startXmit skb len allocated result =>
      obtain ⟨added,adds⟩ := rtl8150StartXmit_adds skb len allocated result s
      exact ⟨_,NetDeviceStats.add_wraps added,adds⟩
  | completes urb status actualLength => exact ⟨id,.id,fun _ => rfl⟩
  | callback urb answer => exact callback_wraps urb answer s
  | closes => exact ⟨id,.id,fun stats => rtl8150Close_put stats s⟩

end Usb

section UsbAccounting
open Rtl8150Accounting

def usbAccounted : Counters System NetDeviceStats where
  read s := usb.read s.link
  put stats s := {s with link := usb.put stats s.link}
  read_put _ _ := rfl
  put_put _ _ _ := rfl
  put_read _ := rfl

theorem usbAccounting_unread : Unread machine usbAccounted NetDeviceStats.cut := by
  constructor
  · intro stats s event
    cases event <;> exact Iff.rfl
  · intro s event
    obtain ⟨update,wraps,moves⟩ := apply_wraps s.link event
    have same (stats : NetDeviceStats) : effect (usb.put stats s.link) event = effect s.link event := by
      cases event <;> rfl
    refine ⟨update,wraps,fun stats => ?_⟩
    simp only [machine,usbAccounted,moves,same]

def usbWords : Machine System Rtl8150.Event := wrapped machine usbAccounted NetDeviceStats.cut

structure CountedWords (s : System) : Prop where
  packets : s.link.priv.stats.txPackets = unsignedLong (s.outcomes.countP succeeded)
  errors : s.link.priv.stats.txErrors = unsignedLong (s.outcomes.countP (!succeeded ·))
  bytes : s.link.priv.stats.txBytes = unsignedLong (s.outcomes.map transferred).sum

theorem usbAccounted_words {s : System} (conserved : Conserved s) : CountedWords (stored usbAccounted NetDeviceStats.cut s) :=
  ⟨congrArg unsignedLong conserved.packets,congrArg unsignedLong conserved.errors,congrArg unsignedLong conserved.bytes⟩

theorem counted_words_iff (events : List Rtl8150.Event)
    (path : usbWords.Runs {} events) :
    usbWords.Throughout CountedWords {} events ↔
      usbWords.Along (fun s event => Countable s.link event) {} events := by
  refine wrapped_exact usbAccounting_unread (fun s event => ?_) (fun _ sound => usbAccounted_words sound.conserved) ?_
    apply_sound (⟨Rtl8150.probed_wellformed,rfl,rfl,rfl⟩ : Sound {}) path
  · cases event <;> exact Iff.rfl
  · intro s event sound allowed
    constructor
    · exact fun countable => usbAccounted_words ((conserved_exact s event sound allowed).mp countable)
    · intro words
      by_contra uncountable
      rcases uncountable_words s event sound uncountable with errors | bytes
      · exact errors words.errors
      · exact bytes words.bytes

theorem counted_words_refused :
    usbWords.Throughout CountedWords {} refusedFrame :=
  (counted_words_iff refusedFrame ((wrapped_runs usbAccounting_unread {} refusedFrame).mpr (by decide +kernel))).mpr
    ⟨trivial,trivial,trivial⟩

end UsbAccounting

end LinuxDeviceDrivers.StatisticsWords
