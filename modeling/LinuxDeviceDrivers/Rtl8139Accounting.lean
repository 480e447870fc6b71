import Mathlib.Algebra.GroupWithZero.Nat
import LinuxDeviceDrivers.Rtl8139Transmit

namespace LinuxDeviceDrivers.Rtl8139Accounting
open Transition CircularWindow NetDevice Rtl8139Registers Rtl8139Transmit

def rtl8139GetStats (d : Driver) : NetDeviceStats := d.stats

def collisionCount (txStatus : BitVec 32) : Nat := (txStatus >>> 24 &&& 0xF#32).toNat

-- `handed` lists the frames given to start_xmit, `frame` holds the last one
-- copied to each descriptor. `outcomes` says of each descriptor that dirty_tx
-- has passed which frame it carried and what its TSD then read.
structure System where
  link : Rtl8139Transmit.System
  handed : List Skb := []
  frame : Nat → Skb := fun _ => ⟨[]⟩
  outcomes : List (Skb × BitVec 32) := []

def opened (txBufs : Nat → UInt8) (tsd : Nat → BitVec 32) : System :=
  {link := Rtl8139Transmit.opened txBufs tsd {} {}}

inductive Event where
  | startXmit (skb : Skb)
  | updates (entry : Nat) (status : BitVec 32)
  | interrupt (isr : BitVec 16)

def transmits (skb : Skb) (s : System) : System :=
  {s with
    link := Rtl8139Transmit.transmits skb s.link
    handed := s.handed ++ [skb]
    frame := if skb.len < txBufSize then
      Function.update s.frame (s.link.driver.curTx % numTxDesc) skb else s.frame}

-- The device rewrites a TSD, but for its SIZE field.
def rewritten (old status : BitVec 32) : BitVec 32 := status &&& ~~~0x1fff#32 ||| old &&& 0x1fff#32

def rewriteTsd (entry : Nat) (status : BitVec 32) (d : Driver) : Driver :=
  {d with tsd := Function.update d.tsd entry (rewritten (d.tsd entry) status)}

def updates (entry : Nat) (status : BitVec 32) (s : System) : System :=
  let driver := rewriteTsd entry status s.link.driver
  if concluded status then
    {s with link := {s.link with
      driver := driver
      owns := Function.update s.link.owns entry none
      completed := s.link.completed ++ (s.link.owns entry).toList}}
  else {s with link := {s.link with driver := driver}}

def interrupts (isr : BitVec 16) (s : System) : System :=
  let link := Rtl8139Transmit.interrupts isr s.link
  {s with
    link := link
    outcomes := s.outcomes ++ (link.driver.reaped.drop s.link.driver.reaped.length).map
      fun entry => (s.frame entry,s.link.driver.tsd entry)}

-- The device may change a status as often as it likes while it owns the
-- descriptor, before the bits that conclude it as well as with them.
def machine : Machine System Event where
  Allowed s event := match event with
    | .startXmit _ => s.link.driver.stopped = false
    | .updates entry _ => s.link.owns entry ≠ none
    | .interrupt _ => True
  apply s event := match event with
    | .startXmit skb => transmits skb s
    | .updates entry status => updates entry status s
    | .interrupt isr => interrupts isr s

instance decidableAllowed : ∀ s event,Decidable (machine.Allowed s event)
  | s,.startXmit _ => inferInstanceAs (Decidable (s.link.driver.stopped = false))
  | s,.updates entry _ => inferInstanceAs (Decidable (s.link.owns entry ≠ none))
  | _,.interrupt _ => .isTrue trivial

def sentBytes (outcome : Skb × BitVec 32) : Nat :=
  if outcome.2 &&& txStatOK != 0#32 then max outcome.1.len ethMinLen else 0

structure Conserved (s : System) : Prop where
  frames : (rtl8139GetStats s.link.driver).txPackets+(rtl8139GetStats s.link.driver).txErrors+
    (rtl8139GetStats s.link.driver).txDropped+pending s.link.driver = s.handed.length
  bytes : (rtl8139GetStats s.link.driver).txBytes = (s.outcomes.map sentBytes).sum
  collisions : (rtl8139GetStats s.link.driver).collisions =
    (s.outcomes.map fun outcome => collisionCount outcome.2).sum

-- The descriptors submitted and not reaped, oldest first: those that a
-- transmit interrupt finds concluded, and the first that it finds still waiting.
def pendingEntries (d : Driver) : List Nat := window numTxDesc d.dirtyTx (pending d)
def ready (d : Driver) : List Nat := (pendingEntries d).takeWhile fun entry => concluded (d.tsd entry)
def waiting (d : Driver) : Option Nat := ((pendingEntries d).dropWhile fun entry => concluded (d.tsd entry)).head?

-- No frame is oversized, and no transmit interrupt inspects a descriptor that
-- has a collision count but is not concluded.
def Accountable (s : System) : Event → Prop
  | .startXmit skb => skb.len < txBufSize
  | .updates _ _ => True
  | .interrupt isr => (serviced isr && transmitCause isr) = true →
      ∀ entry ∈ waiting s.link.driver,collisionCount (s.link.driver.tsd entry) = 0

section Counters
variable {stats : NetDeviceStats} {tsd : Nat → BitVec 32}

def countReaped (tsd : Nat → BitVec 32) (entries : List Nat) (stats : NetDeviceStats) : NetDeviceStats :=
  entries.foldl (fun stats entry => countTransmit (tsd entry) (countCollisions (tsd entry) stats)) stats

theorem countTransmit_bytes (txStatus : BitVec 32) (stats : NetDeviceStats) :
    (countTransmit txStatus stats).txBytes =
      stats.txBytes+if txStatus &&& txStatOK != 0#32 then (txStatus &&& 0x1fff#32).toNat else 0 := by
  unfold countTransmit
  split <;> rfl

theorem countTransmit_others (txStatus : BitVec 32) (stats : NetDeviceStats) :
    (countTransmit txStatus stats).txDropped = stats.txDropped ∧
      (countTransmit txStatus stats).collisions = stats.collisions := by
  unfold countTransmit
  split <;> exact ⟨rfl,rfl⟩

theorem countReaped_counts (counter : NetDeviceStats → Nat) (gain : BitVec 32 → Nat)
    (counts : ∀ txStatus stats,counter (countTransmit txStatus (countCollisions txStatus stats)) = counter stats+gain txStatus)
    (tsd : Nat → BitVec 32) (entries : List Nat) (stats : NetDeviceStats) :
    counter (countReaped tsd entries stats) = counter stats+(entries.map fun entry => gain (tsd entry)).sum := by
  induction entries generalizing stats with
  | nil => rfl
  | cons entry rest ih =>
      have counted := ih (countTransmit (tsd entry) (countCollisions (tsd entry) stats))
      rw [counts,Nat.add_assoc] at counted
      rw [List.map_cons,List.sum_cons]
      exact counted

theorem countReaped_frames (tsd : Nat → BitVec 32) (entries : List Nat) (stats : NetDeviceStats) :
    (countReaped tsd entries stats).txPackets+(countReaped tsd entries stats).txErrors =
      stats.txPackets+stats.txErrors+entries.length := by
  have counted := countReaped_counts (fun stats => stats.txPackets+stats.txErrors) (fun _ => 1)
    (fun txStatus stats => countTransmit_frames txStatus (countCollisions txStatus stats)) tsd entries stats
  rw [List.map_const',List.sum_replicate_nat,Nat.mul_one] at counted
  exact counted

theorem countReaped_dropped (tsd : Nat → BitVec 32) (entries : List Nat) (stats : NetDeviceStats) :
    (countReaped tsd entries stats).txDropped = stats.txDropped := by
  have counted := countReaped_counts NetDeviceStats.txDropped (fun _ => 0)
    (fun txStatus stats => (countTransmit_others txStatus (countCollisions txStatus stats)).1) tsd entries stats
  rw [List.map_const',List.sum_replicate_nat,Nat.mul_zero] at counted
  exact counted

theorem countReaped_bytes (tsd : Nat → BitVec 32) (entries : List Nat) (stats : NetDeviceStats) :
    (countReaped tsd entries stats).txBytes = stats.txBytes+(entries.map fun entry =>
      if tsd entry &&& txStatOK != 0#32 then (tsd entry &&& 0x1fff#32).toNat else 0).sum :=
  countReaped_counts NetDeviceStats.txBytes
    (fun txStatus => if txStatus &&& txStatOK != 0#32 then (txStatus &&& 0x1fff#32).toNat else 0)
    (fun txStatus stats => countTransmit_bytes txStatus (countCollisions txStatus stats)) tsd entries stats

theorem countReaped_collisions (tsd : Nat → BitVec 32) (entries : List Nat) (stats : NetDeviceStats) :
    (countReaped tsd entries stats).collisions =
      stats.collisions+(entries.map fun entry => collisionCount (tsd entry)).sum :=
  countReaped_counts NetDeviceStats.collisions collisionCount
    (fun txStatus stats => (countTransmit_others txStatus (countCollisions txStatus stats)).2) tsd entries stats

end Counters

structure Reaps (d next : Driver) : Prop where
  reaped : next.reaped = d.reaped ++ ready d
  submitted : next.submitted = d.submitted
  tsd : next.tsd = d.tsd
  stats : next.stats = (waiting d).elim (countReaped d.tsd (ready d) d.stats)
    fun entry => countCollisions (d.tsd entry) (countReaped d.tsd (ready d) d.stats)

section Loop
variable {d : Driver} {owns : Nat → Option Nat} {completed : List Nat}

theorem pendingEntries_done (ring : Ring owns completed d) (done : reapPending d = false) : pendingEntries d = [] := by
  simp only [reapPending,Bool.or_eq_false_iff,bne_eq_false_iff_eq] at done
  have room := ring.room done.2
  have none : pending d = 0 := by
    apply cell_inj room (by decide)
    rw [← ring.curTx_cell,cell_zero ring.dirty,done.1]
  rw [pendingEntries,none,window]

theorem pendingEntries_cons (some : 1 ≤ pending d) :
    pendingEntries d = d.dirtyTx :: window numTxDesc (next numTxDesc d.dirtyTx) (pending d-1) := by
  obtain ⟨k,more⟩ := Nat.exists_eq_add_of_le' some
  rw [pendingEntries,more,window,Nat.add_sub_cancel]

theorem pendingEntries_reap (ring : Ring owns completed d) (txStatus : BitVec 32) (stats : NetDeviceStats) :
    pendingEntries (wakeWhenEmpty (reapDescriptor txStatus {d with stats := stats})) =
      window numTxDesc (next numTxDesc d.dirtyTx) (pending d-1) := by
  rw [pendingEntries,reap_pending,wakeWhenEmpty_eq,reapDescriptor,next_mod ring.dirty]
  rfl

theorem reapLoop_reaps (fuel : Nat) (ring : Ring owns completed d) (enough : pending d < fuel) :
    ∃ next,reapLoop fuel d = some next ∧ Ring owns completed next ∧ Reaps d next := by
  induction fuel generalizing d with
  | zero => omega
  | succ fuel ih =>
      simp only [reapLoop]
      split
      · rename_i busy
        have some := ring.oldest_pending busy
        have oldest := pendingEntries_cons some
        have read := ring.counted (countCollisions (d.tsd d.dirtyTx) d.stats)
        split
        · rename_i finished
          obtain ⟨next,loop,kept,reaps⟩ := ih (reap_ring read some finished (d.tsd d.dirtyTx))
            (by rw [reap_pending]; simp only [pending] at *; omega)
          refine ⟨next,loop,kept,?_⟩
          have rest := pendingEntries_reap ring (d.tsd d.dirtyTx) (countCollisions (d.tsd d.dirtyTx) d.stats)
          obtain ⟨reaped,submitted,tsd,stats⟩ := reaps
          simp only [ready,waiting,rest] at reaped stats
          simp only [wakeWhenEmpty_eq,reapDescriptor] at reaped submitted tsd stats
          refine ⟨?_,submitted,tsd,?_⟩
          · simp only [reaped,ready,oldest,List.takeWhile_cons,finished,if_true,List.append_assoc,List.singleton_append]
          · simp only [stats,ready,waiting,oldest,List.takeWhile_cons,List.dropWhile_cons,finished,if_true]
            rfl
        · rename_i unfinished
          refine ⟨_,rfl,read,?_,rfl,rfl,?_⟩
          · simp only [ready,oldest,List.takeWhile_cons,if_neg unfinished,List.append_nil]
          · simp only [ready,waiting,oldest,List.takeWhile_cons,List.dropWhile_cons,if_neg unfinished]
            rfl
      · rename_i done
        have none := pendingEntries_done ring (Bool.not_eq_true _ ▸ done)
        refine ⟨d,rfl,ring,?_,rfl,rfl,?_⟩
        · rw [ready,none,List.takeWhile_nil,List.append_nil]
        · rw [ready,waiting,none]
          rfl

theorem Reaps.counters {next : Driver} (reaps : Reaps d next) :
    next.stats.txPackets+next.stats.txErrors = d.stats.txPackets+d.stats.txErrors+(ready d).length ∧
      next.stats.txDropped = d.stats.txDropped ∧
      next.stats.txBytes = d.stats.txBytes+((ready d).map fun entry =>
        if d.tsd entry &&& txStatOK != 0#32 then (d.tsd entry &&& 0x1fff#32).toNat else 0).sum ∧
      next.stats.collisions = d.stats.collisions+((ready d).map fun entry => collisionCount (d.tsd entry)).sum+
        (waiting d).elim 0 fun entry => collisionCount (d.tsd entry) := by
  have frames := countReaped_frames d.tsd (ready d) d.stats
  have dropped := countReaped_dropped d.tsd (ready d) d.stats
  have bytes := countReaped_bytes d.tsd (ready d) d.stats
  have collisions := countReaped_collisions d.tsd (ready d) d.stats
  rw [reaps.stats]
  cases waiting d with
  | none => exact ⟨frames,dropped,bytes,collisions⟩
  | some entry => exact ⟨frames,dropped,bytes,congrArg (·+collisionCount (d.tsd entry)) collisions⟩

theorem Reaps.pending {next : Driver} (reaps : Reaps d next) (ring : Ring owns completed d) (kept : Ring owns completed next) :
    pendingEntries d = ready d ++ pendingEntries next ∧
      Rtl8139Transmit.pending d = (ready d).length+Rtl8139Transmit.pending next := by
  have before := ring.order
  have after := kept.order
  rw [reaps.submitted,before,reaps.reaped,List.append_assoc] at after
  have split := List.append_cancel_left after
  have lengths := congrArg List.length split
  rw [List.length_append,window_length,window_length] at lengths
  exact ⟨split,lengths⟩

theorem startXmit_pending (ring : Ring owns completed d) (running : d.stopped = false) (skb : Skb)
    (fits : skb.len < txBufSize) :
    pendingEntries (startXmit skb d) = pendingEntries d ++ [d.curTx % numTxDesc] ∧
      Rtl8139Transmit.pending (startXmit skb d) = Rtl8139Transmit.pending d+1 := by
  have before := ring.order
  have after := (startXmit_ring ring running skb fits).order
  have submitted : (startXmit skb d).submitted = d.submitted ++ [d.curTx % numTxDesc] := by rw [startXmit_fields skb d fits]
  have reaped : (startXmit skb d).reaped = d.reaped := by rw [startXmit_fields skb d fits]
  rw [submitted,reaped,before,List.append_assoc] at after
  have split := List.append_cancel_left after
  have lengths := congrArg List.length split
  rw [List.length_append,window_length,window_length,List.length_singleton] at lengths
  exact ⟨split.symm,lengths.symm⟩

theorem rewritten_concluded (old status : BitVec 32) : concluded (rewritten old status) = concluded status := by
  have clear : old &&& 0x1fff#32 &&& (txStatOK ||| txAborted ||| txUnderrun) = 0#32 := by
    rw [BitVec.and_assoc,show 0x1fff#32 &&& (txStatOK ||| txAborted ||| txUnderrun) = 0#32 by decide,BitVec.and_zero]
  have kept : status &&& ~~~0x1fff#32 &&& (txStatOK ||| txAborted ||| txUnderrun) =
      status &&& (txStatOK ||| txAborted ||| txUnderrun) := by
    rw [BitVec.and_assoc,show ~~~0x1fff#32 &&& (txStatOK ||| txAborted ||| txUnderrun) =
      (txStatOK ||| txAborted ||| txUnderrun) by decide]
  rw [concluded,rewritten,BitVec.and_or_distrib_right,clear,kept,BitVec.or_zero,concluded]

theorem rewritten_size (old status : BitVec 32) : rewritten old status &&& 0x1fff#32 = old &&& 0x1fff#32 := by
  have clear : status &&& ~~~0x1fff#32 &&& 0x1fff#32 = 0#32 := by
    rw [BitVec.and_assoc,show ~~~0x1fff#32 &&& 0x1fff#32 = 0#32 by decide,BitVec.and_zero]
  rw [rewritten,BitVec.and_or_distrib_right,clear,BitVec.zero_or,BitVec.and_assoc,BitVec.and_self]

theorem rewriteTsd_size (d : Driver) (entry other : Nat) (status : BitVec 32) :
    (rewriteTsd entry status d).tsd other &&& 0x1fff#32 = d.tsd other &&& 0x1fff#32 := by
  by_cases here : other = entry
  · simp only [rewriteTsd,here,Function.update_self,rewritten_size]
  · simp only [rewriteTsd,Function.update_of_ne here]

theorem length_size (small : value < 0x2000) : (BitVec.ofNat 32 value &&& 0x1fff#32).toNat = value := by
  rw [BitVec.toNat_and,BitVec.toNat_ofNat,Nat.mod_eq_of_lt (by omega)]
  exact (Nat.and_two_pow_sub_one_eq_mod value 13).trans (Nat.mod_eq_of_lt small)

theorem rewriteTsd_ring (ring : Ring owns completed d) (entry : Nat) (status : BitVec 32)
    (unfinished : concluded status = false) : Ring owns completed (rewriteTsd entry status d) := by
  refine ⟨ring.dirty,ring.bounded,ring.order,ring.cur,ring.full,ring.busy,?_,ring.done⟩
  intro j inside
  refine (ring.status j inside).imp_right fun owned => ⟨owned.1,?_⟩
  by_cases here : cell numTxDesc d.dirtyTx j = entry
  · simpa only [rewriteTsd,here,Function.update_self,rewritten_concluded] using unfinished
  · simpa only [rewriteTsd,Function.update_of_ne here] using owned.2

theorem release_ring (ring : Ring owns completed d) (entry : Nat) (status : BitVec 32) :
    Ring (Function.update owns entry none) (completed ++ (owns entry).toList) (rewriteTsd entry status d) := by
  refine ⟨ring.dirty,ring.bounded,ring.order,ring.cur,ring.full,ring.busy,?_,?_⟩
  · intro j inside
    rcases ring.status j inside with finished | owned
    · exact .inl (List.mem_append_left _ finished)
    · by_cases here : cell numTxDesc d.dirtyTx j = entry
      · rw [here] at owned
        exact .inl (List.mem_append_right _ (by simp [owned.1,rewriteTsd]))
      · exact .inr (by simpa [rewriteTsd,Function.update_of_ne here] using owned)
  · intro number reaped
    exact List.mem_append_left _ (ring.done number reaped)

end Loop

structure Accounted (s : System) : Prop where
  link : Sound s.link
  sizes : ∀ entry ∈ pendingEntries s.link.driver,
    (s.link.driver.tsd entry &&& 0x1fff#32).toNat = max (s.frame entry).len ethMinLen
  conserved : Conserved s

section Runs
variable {s : System}

theorem transmits_accounted (accounted : Accounted s) (running : s.link.driver.stopped = false) (skb : Skb)
    (fits : skb.len < txBufSize) : Accounted (transmits skb s) := by
  obtain ⟨link,sizes,frames,bytes,collisions⟩ := accounted
  have linked := apply_sound s.link (.startXmit skb) link running
  obtain ⟨entries,longer⟩ := startXmit_pending link.ring running skb fits
  have fields := startXmit_fields skb s.link.driver fits
  have stats : (startXmit skb s.link.driver).stats = s.link.driver.stats := by rw [fields]
  have tsd : (startXmit skb s.link.driver).tsd = Function.update s.link.driver.tsd (s.link.driver.curTx % numTxDesc)
      (BitVec.ofNat 32 (max skb.len ethMinLen)) := by rw [fields]
  refine ⟨linked,?_,?_,?_,?_⟩
  · intro entry member
    simp only [transmits,Rtl8139Transmit.transmits,if_pos fits,tsd] at member ⊢
    by_cases here : entry = s.link.driver.curTx % numTxDesc
    · rw [here,Function.update_self,Function.update_self]
      exact length_size (by simp only [txBufSize,ethMinLen] at *; omega)
    · rw [Function.update_of_ne here,Function.update_of_ne here]
      rw [entries,List.mem_append,List.mem_singleton] at member
      exact sizes entry (member.resolve_right here)
  · simp only [transmits,Rtl8139Transmit.transmits,rtl8139GetStats,stats,longer,List.length_append,
      List.length_singleton] at frames ⊢
    omega
  · simpa only [transmits,Rtl8139Transmit.transmits,rtl8139GetStats,stats] using bytes
  · simpa only [transmits,Rtl8139Transmit.transmits,rtl8139GetStats,stats] using collisions

-- netdev->stats counts the drop, get_stats returns priv->stats.
theorem oversized_frames (conserved : Conserved s) (oversized : ¬ skb.len < txBufSize) :
    (rtl8139GetStats (transmits skb s).link.driver).txPackets+(rtl8139GetStats (transmits skb s).link.driver).txErrors+
      (rtl8139GetStats (transmits skb s).link.driver).txDropped+pending (transmits skb s).link.driver+1 =
      (transmits skb s).handed.length := by
  have before := conserved.frames
  simp only [transmits,Rtl8139Transmit.transmits,startXmit,if_neg oversized,rtl8139GetStats,pending,
    List.length_append,List.length_singleton] at before ⊢
  omega

theorem oversized_uncounted (conserved : Conserved s) (oversized : ¬ skb.len < txBufSize) :
    ¬ Conserved (transmits skb s) := by
  intro after
  have short := oversized_frames conserved oversized
  have frames := after.frames
  omega

theorem updates_accounted (accounted : Accounted s) (entry : Nat) (status : BitVec 32) :
    Accounted (updates entry status s) := by
  obtain ⟨⟨ring,returns⟩,sizes,frames,bytes,collisions⟩ := accounted
  have kept : ∀ other ∈ pendingEntries s.link.driver,
      ((rewriteTsd entry status s.link.driver).tsd other &&& 0x1fff#32).toNat = max (s.frame other).len ethMinLen := by
    intro other member
    rw [rewriteTsd_size]
    exact sizes other member
  unfold updates
  by_cases finished : concluded status = true
  · rw [if_pos finished]
    exact ⟨⟨release_ring ring entry status,returns⟩,kept,frames,bytes,collisions⟩
  · rw [if_neg finished]
    exact ⟨⟨rewriteTsd_ring ring entry status (Bool.not_eq_true _ ▸ finished),returns⟩,kept,frames,bytes,collisions⟩

theorem interrupts_ignores (isr : BitVec 16) (none : ¬ (serviced isr && transmitCause isr) = true) :
    interrupts isr s = s := by
  simp only [interrupts,Rtl8139Transmit.interrupts,interrupt,if_neg none,List.drop_length,List.map_nil,List.append_nil]

theorem interrupts_reaps (link : Sound s.link) (cause : (serviced isr && transmitCause isr) = true) :
    ∃ next,Ring s.link.owns s.link.completed next ∧ Reaps s.link.driver next ∧
      interrupts isr s = {s with
        link := {s.link with driver := next}
        outcomes := s.outcomes ++ (ready s.link.driver).map fun entry => (s.frame entry,s.link.driver.tsd entry)} := by
  obtain ⟨next,loop,kept,reaps⟩ := reapLoop_reaps (numTxDesc+1) link.ring (Nat.lt_succ_of_le link.ring.bounded)
  refine ⟨next,kept,reaps,?_⟩
  simp only [interrupts,Rtl8139Transmit.interrupts,interrupt,if_pos cause,loop,reaps.reaped,List.drop_left]

-- The collisions of the descriptor at which the loop stops.
def waitingCollisions (d : Driver) : Nat := (waiting d).elim 0 fun entry => collisionCount (d.tsd entry)

theorem waitingCollisions_zero (d : Driver) :
    waitingCollisions d = 0 ↔ ∀ entry ∈ waiting d,collisionCount (d.tsd entry) = 0 := by
  unfold waitingCollisions
  cases waiting d with
  | none => simp
  | some entry => simp

structure Serviced (s t : System) : Prop where
  frames : (rtl8139GetStats t.link.driver).txPackets+(rtl8139GetStats t.link.driver).txErrors+
    (rtl8139GetStats t.link.driver).txDropped+pending t.link.driver = t.handed.length
  bytes : (rtl8139GetStats t.link.driver).txBytes = (t.outcomes.map sentBytes).sum
  collisions : (rtl8139GetStats t.link.driver).collisions =
    (t.outcomes.map fun outcome => collisionCount outcome.2).sum+waitingCollisions s.link.driver

theorem interrupts_serviced (accounted : Accounted s) (cause : (serviced isr && transmitCause isr) = true) :
    Serviced s (interrupts isr s) := by
  obtain ⟨next,kept,reaps,step⟩ := interrupts_reaps accounted.link cause
  obtain ⟨link,sizes,frames,bytes,collisions⟩ := accounted
  obtain ⟨counted,dropped,counts,collided⟩ := reaps.counters
  obtain ⟨split,fewer⟩ := reaps.pending link.ring kept
  have carried : ((ready s.link.driver).map fun entry => if s.link.driver.tsd entry &&& txStatOK != 0#32 then
      (s.link.driver.tsd entry &&& 0x1fff#32).toNat else 0) =
      (ready s.link.driver).map fun entry => sentBytes (s.frame entry,s.link.driver.tsd entry) := by
    apply List.map_congr_left
    intro entry member
    rw [sentBytes,sizes entry (split ▸ List.mem_append_left _ member)]
  simp only [rtl8139GetStats] at frames bytes collisions
  rw [step]
  refine ⟨?_,?_,?_⟩
  · simp only [rtl8139GetStats,counted,dropped]
    omega
  · simp only [rtl8139GetStats,List.map_append,List.map_map,List.sum_append,counts,bytes,carried]
    rfl
  · simp only [rtl8139GetStats,List.map_append,List.map_map,List.sum_append,collided,collisions]
    rfl

theorem interrupts_conserved_iff (accounted : Accounted s) (isr : BitVec 16) :
    Conserved (interrupts isr s) ↔ Accountable s (.interrupt isr) := by
  by_cases cause : (serviced isr && transmitCause isr) = true
  · obtain ⟨frames,bytes,collisions⟩ := interrupts_serviced accounted cause
    have last := waitingCollisions_zero s.link.driver
    constructor
    · intro after _
      exact last.mp (Nat.add_left_cancel (collisions.symm.trans (after.collisions.trans (Nat.add_zero _).symm)))
    · intro accountable
      rw [last.mpr (accountable cause)] at collisions
      exact ⟨frames,bytes,collisions⟩
  · rw [interrupts_ignores isr cause]
    exact iff_of_true accounted.conserved fun raised => absurd raised cause

theorem interrupts_accounted (accounted : Accounted s) (isr : BitVec 16) (accountable : Accountable s (.interrupt isr)) :
    Accounted (interrupts isr s) := by
  have conserved := (interrupts_conserved_iff accounted isr).mpr accountable
  by_cases cause : (serviced isr && transmitCause isr) = true
  · obtain ⟨next,kept,reaps,step⟩ := interrupts_reaps accounted.link cause
    rw [step] at conserved ⊢
    refine ⟨⟨kept,accounted.link.returns⟩,?_,conserved⟩
    intro entry member
    rw [reaps.tsd]
    apply accounted.sizes entry
    rw [(reaps.pending accounted.link.ring kept).1]
    exact List.mem_append_right _ member
  · rw [interrupts_ignores isr cause]
    exact accounted

theorem apply_accounted (s : System) (event : Event) (accounted : Accounted s) (allowed : machine.Allowed s event)
    (accountable : Accountable s event) : Accounted (machine.apply s event) := by
  cases event with
  | startXmit skb => exact transmits_accounted accounted allowed skb accountable
  | updates entry status => exact updates_accounted accounted entry status
  | interrupt isr => exact interrupts_accounted accounted isr accountable

theorem apply_conserved_iff (s : System) (event : Event) (accounted : Accounted s) (allowed : machine.Allowed s event) :
    Accountable s event ↔ Conserved (machine.apply s event) := by
  cases event with
  | startXmit skb =>
      constructor
      · intro fits
        exact (transmits_accounted accounted allowed skb fits).conserved
      · intro after
        by_contra oversized
        exact oversized_uncounted accounted.conserved oversized after
  | updates entry status => exact iff_of_true trivial (updates_accounted accounted entry status).conserved
  | interrupt isr => exact (interrupts_conserved_iff accounted isr).symm

theorem opened_accounted (txBufs : Nat → UInt8) (tsd : Nat → BitVec 32) : Accounted (opened txBufs tsd) :=
  ⟨⟨opened_ring txBufs tsd {} {},rfl⟩,by simp [opened,Rtl8139Transmit.opened,pendingEntries,pending,window],rfl,rfl,rfl⟩

end Runs

theorem accounting_conserved_iff (txBufs : Nat → UInt8) (tsd : Nat → BitVec 32) (events : List Event)
    (path : machine.Runs (opened txBufs tsd) events) :
    machine.Throughout Conserved (opened txBufs tsd) events ↔ machine.Along Accountable (opened txBufs tsd) events :=
  Machine.throughout_exact (fun _ accounted => accounted.conserved) apply_conserved_iff apply_accounted
    (opened_accounted txBufs tsd) path

def sentFrame : List Event := [.startXmit ⟨[1,2,3]⟩,.updates 0 (0x01000000#32 ||| txStatOK),.interrupt txOK]

theorem accounting_conserved_sent : machine.Throughout Conserved (opened (fun _ => 0) fun _ => txHostOwns) sentFrame :=
  (accounting_conserved_iff _ _ sentFrame (by decide +kernel)).mpr
    ⟨(by decide : 3 < txBufSize),trivial,fun _ => by decide +kernel,trivial⟩

def oversizedFrame : List Event := [.startXmit ⟨List.replicate txBufSize 0⟩]

def inspectedTwice : List Event :=
  [.startXmit ⟨[1,2,3]⟩,.updates 0 0x01000000#32,.interrupt txOK,.updates 0 (0x01000000#32 ||| txStatOK),.interrupt txOK]

theorem dropped_and_collided :
    (machine.Runs (opened (fun _ => 0) fun _ => txHostOwns) oversizedFrame ∧
      ¬ machine.Throughout Conserved (opened (fun _ => 0) fun _ => txHostOwns) oversizedFrame) ∧
    machine.Runs (opened (fun _ => 0) fun _ => txHostOwns) inspectedTwice ∧
      ¬ machine.Throughout Conserved (opened (fun _ => 0) fun _ => txHostOwns) inspectedTwice := by
  refine ⟨⟨⟨rfl,trivial⟩,?_⟩,by decide +kernel,?_⟩
  · intro all
    have oversized : ¬ (Skb.mk (List.replicate txBufSize 0)).len < txBufSize := by simp [Skb.len]
    exact oversized_uncounted ⟨rfl,rfl,rfl⟩ oversized all.2
  · intro all
    exact absurd all.last.collisions (by decide +kernel)

end LinuxDeviceDrivers.Rtl8139Accounting
