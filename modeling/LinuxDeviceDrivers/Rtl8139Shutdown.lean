import LinuxDeviceDrivers.Rtl8139Transmit

namespace LinuxDeviceDrivers.Rtl8139Shutdown
open Transition NetDevice Rtl8139Registers Rtl8139Transmit

-- rtl8139_open and rtl8139_stop stand before the statement named, `allocate`
-- for both calls of pci_alloc_consistent. What stop does after free_irq is left
-- out: it touches neither the ring nor the queue.
inductive Phase where
  | down
  | allocate
  | initDirtyTx
  | initCurTx
  | hardwareStart
  | startQueue
  | up
  | haltChip
  | freeIrq
deriving DecidableEq

-- `handling` says that the handler stands before the test of its transmit loop,
-- `halted` that stop has stopped the queue and no open has started it since, and
-- `woken` that the handler has woken it meanwhile. `lost` counts the frames whose
-- descriptors an open has forgotten.
structure System where
  driver : Driver
  owns : Nat → Bool := fun _ => false
  phase : Phase := .down
  handlers : Nat := 0
  handling : Bool := false
  lost : Nat := 0
  halted : Bool := false
  woken : Bool := false

def probed (txBufs : Nat → UInt8) (tsd : Nat → BitVec 32) : System := {driver := {txBufs := txBufs,tsd := tsd}}

def rtl8139Open (granted : Bool) (s : System) : System :=
  match s.phase with
  | .down => if granted then {s with handlers := s.handlers+1,phase := .allocate} else s
  | .allocate => {s with phase := if granted then .initDirtyTx else .down}
  | .initDirtyTx => {s with
      driver := {s.driver with dirtyTx := 0}
      lost := s.driver.submitted.length-s.driver.reaped.length
      phase := .initCurTx}
  | .initCurTx => {s with driver := {s.driver with curTx := 0},phase := .hardwareStart}
  | .hardwareStart => {s with
      driver := {s.driver with tsd := fun _ => txHostOwns}
      owns := fun _ => false
      phase := .startQueue}
  | .startQueue => {s with driver := {s.driver with stopped := false},halted := false,phase := .up}
  | _ => s

def rtl8139Stop (s : System) : System :=
  match s.phase with
  | .up => {s with driver := stopQueue s.driver,halted := true,phase := .haltChip}
  | .haltChip => {s with phase := .freeIrq}
  | .freeIrq => {s with handlers := s.handlers-1,phase := .down}
  | _ => s

def transmits (skb : Skb) (s : System) : System :=
  {s with
    driver := startXmit skb s.driver
    owns := if skb.len < txBufSize then Function.update s.owns (s.driver.curTx % numTxDesc) true else s.owns}

def completes (entry : Nat) (status : BitVec 32) (s : System) : System :=
  {s with
    driver := {s.driver with tsd := Function.update s.driver.tsd entry (s.driver.tsd entry ||| status)}
    owns := Function.update s.owns entry false}

def readOldest (d : Driver) : Driver := {d with stats := countCollisions (d.tsd d.dirtyTx) d.stats}
def reapOldest (d : Driver) : Driver := wakeWhenEmpty (reapDescriptor (d.tsd d.dirtyTx) (readOldest d))

def pass (d : Driver) : Driver × Bool :=
  if reapPending d then
    if concluded (d.tsd d.dirtyTx) then (reapOldest d,true) else (readOldest d,false)
  else (d,false)

theorem reapLoop_pass (fuel : Nat) (d : Driver) :
    reapLoop (fuel+1) d = if (pass d).2 then reapLoop fuel (pass d).1 else some (pass d).1 := by
  simp only [reapLoop,pass]
  split
  · split <;> rfl
  · rfl

def passes (s : System) : System :=
  let driver := (pass s.driver).1
  {s with
    driver := driver
    handling := (pass s.driver).2
    woken := s.woken || (s.halted && s.driver.stopped && !driver.stopped)}

inductive Event where
  | opens (granted : Bool)
  | stops
  | startXmit (skb : Skb)
  | completes (entry : Nat) (status : BitVec 32)
  | interrupt (isr : BitVec 16)
  | passes

def opening : Phase → Bool
  | .up | .haltChip | .freeIrq => false
  | _ => true

-- The line is shared: the handler may be called whenever it is registered, on
-- one CPU at a time, and free_irq waits for it. Its passes interleave with stop.
def machine : Machine System Event where
  Allowed s event := match event with
    | .opens _ => opening s.phase = true
    | .stops => opening s.phase = false ∧ (s.phase = .freeIrq → s.handling = false)
    | .startXmit _ => s.phase = .up ∧ s.driver.stopped = false
    | .completes entry status => s.owns entry = true ∧ concluded status = true
    | .interrupt _ => 0 < s.handlers ∧ s.handling = false
    | .passes => s.handling = true
  apply s event := match event with
    | .opens granted => rtl8139Open granted s
    | .stops => rtl8139Stop s
    | .startXmit skb => transmits skb s
    | .completes entry status => completes entry status s
    | .interrupt isr => {s with handling := serviced isr && transmitCause isr}
    | .passes => passes s

instance decidableAllowed : ∀ s event,Decidable (machine.Allowed s event)
  | s,.opens _ => inferInstanceAs (Decidable (opening s.phase = true))
  | s,.stops => inferInstanceAs (Decidable (opening s.phase = false ∧ (s.phase = .freeIrq → s.handling = false)))
  | s,.startXmit _ => inferInstanceAs (Decidable (s.phase = .up ∧ s.driver.stopped = false))
  | s,.completes entry status => inferInstanceAs (Decidable (s.owns entry = true ∧ concluded status = true))
  | s,.interrupt _ => inferInstanceAs (Decidable (0 < s.handlers ∧ s.handling = false))
  | s,.passes => inferInstanceAs (Decidable (s.handling = true))

structure CountedOnce (s : System) : Prop where
  counted : s.driver.stats.txPackets+s.driver.stats.txErrors ≤ s.driver.submitted.length
  asleep : s.woken = false

def outstanding (s : System) : Nat := s.driver.submitted.length-s.driver.reaped.length-s.lost

-- In a halted queue a pass with at most one frame outstanding finds TSD at
-- dirty_tx not concluded: without a frame it would count a descriptor again,
-- with one it would empty the ring and wake the queue.
def Unconcluded (s : System) : Event → Prop
  | .passes => s.halted = true → outstanding s ≤ 1 → concluded (s.driver.tsd s.driver.dirtyTx) = false
  | _ => True

instance decidableUnconcluded : ∀ s event,Decidable (Unconcluded s event)
  | s,.passes => inferInstanceAs (Decidable
      (s.halted = true → outstanding s ≤ 1 → concluded (s.driver.tsd s.driver.dirtyTx) = false))
  | _,.opens _ | _,.stops | _,.startXmit _ | _,.completes _ _ | _,.interrupt _ => .isTrue trivial

structure Sound (k : Nat) (s : System) : Prop where
  counted : s.driver.stats.txPackets+s.driver.stats.txErrors = s.driver.reaped.length
  frames : s.driver.submitted.length = s.driver.reaped.length+s.lost+k
  dirty : s.driver.dirtyTx < numTxDesc
  bounded : k ≤ numTxDesc
  cur : s.phase ≠ .initCurTx → s.driver.curTx = (s.driver.dirtyTx+k) % numTxDesc
  fresh : s.phase = .initCurTx ∨ s.phase = .hardwareStart ∨ s.phase = .startQueue → s.driver.dirtyTx = 0 ∧ k = 0
  up : s.phase = .up → s.halted = false ∧ (k = numTxDesc → s.driver.stopped = true) ∧ (s.driver.stopped = true → 1 ≤ k)
  halted : s.halted = true → s.driver.stopped = true
  idle : s.phase ≠ .up → s.halted = false →
    s.driver.stopped = false ∧ s.driver.dirtyTx = 0 ∧ s.driver.curTx = 0
  asleep : s.woken = false

section Steps
variable {s : System} {k : Nat}

theorem Sound.outstanding (sound : Sound k s) : outstanding s = k := by
  have frames := sound.frames
  simp only [Rtl8139Shutdown.outstanding]
  omega

def resting : Phase → Bool
  | .down | .allocate | .initDirtyTx | .haltChip | .freeIrq => true
  | _ => false

theorem Sound.moves (sound : Sound k s) (before : resting s.phase = true) (after : resting phase = true)
    (handlers : Nat) : Sound k {s with handlers := handlers,phase := phase} := by
  have settled : s.phase ≠ .initCurTx := fun here => by simp [here,resting] at before
  have down : s.phase ≠ .up := fun here => by simp [here,resting] at before
  refine ⟨sound.counted,sound.frames,sound.dirty,sound.bounded,fun _ => sound.cur settled,?_,?_,sound.halted,
    fun _ => sound.idle down,sound.asleep⟩
  · rintro (rfl | rfl | rfl) <;> simp [resting] at after
  · rintro rfl
    simp [resting] at after

theorem rtl8139Open_sound (granted : Bool) (sound : Sound k s) : ∃ more,Sound more (rtl8139Open granted s) := by
  cases phase : s.phase with
  | down =>
      have before : resting s.phase = true := by rw [phase]; rfl
      cases granted with
      | false => exact ⟨k,by simpa [rtl8139Open,phase] using sound⟩
      | true => exact ⟨k,by simpa [rtl8139Open,phase] using sound.moves before rfl (s.handlers+1)⟩
  | allocate =>
      have before : resting s.phase = true := by rw [phase]; rfl
      have after : resting (if granted then .initDirtyTx else .down) = true := by cases granted <;> rfl
      exact ⟨k,by simpa only [rtl8139Open,phase] using sound.moves before after s.handlers⟩
  | initDirtyTx =>
      have down : s.phase ≠ .up := by simp [phase]
      obtain ⟨counted,frames,dirty,bounded,_,_,_,halted,idle,asleep⟩ := sound
      simp only [rtl8139Open,phase]
      refine ⟨0,counted,?_,Nat.zero_lt_of_lt dirty,Nat.zero_le _,?_,fun _ => ⟨rfl,rfl⟩,?_,halted,?_,asleep⟩
      · simp only
        omega
      · simp
      · simp
      · intro _ active
        exact ⟨(idle down active).1,rfl,(idle down active).2.2⟩
  | initCurTx =>
      have down : s.phase ≠ .up := by simp [phase]
      obtain ⟨counted,frames,dirty,bounded,_,fresh,_,halted,idle,asleep⟩ := sound
      obtain ⟨first,rfl⟩ := fresh (.inl phase)
      simp only [rtl8139Open,phase]
      refine ⟨0,counted,frames,dirty,bounded,?_,fun _ => ⟨first,rfl⟩,?_,halted,?_,asleep⟩
      · simp [first]
      · simp
      · intro _ active
        exact ⟨(idle down active).1,first,rfl⟩
  | hardwareStart =>
      have down : s.phase ≠ .up := by simp [phase]
      obtain ⟨counted,frames,dirty,bounded,cur,fresh,_,halted,idle,asleep⟩ := sound
      simp only [rtl8139Open,phase]
      exact ⟨k,counted,frames,dirty,bounded,fun _ => cur (by simp [phase]),fun _ => fresh (.inr (.inl phase)),
        by simp,halted,fun _ => idle down,asleep⟩
  | startQueue =>
      obtain ⟨counted,frames,dirty,bounded,cur,fresh,_,halted,idle,asleep⟩ := sound
      obtain ⟨first,rfl⟩ := fresh (.inr (.inr phase))
      simp only [rtl8139Open,phase]
      exact ⟨0,counted,frames,dirty,bounded,fun _ => cur (by simp [phase]),by simp,by simp [numTxDesc],by simp,
        by simp,asleep⟩
  | up | haltChip | freeIrq => exact ⟨k,by simpa only [rtl8139Open,phase] using sound⟩

theorem rtl8139Stop_sound (sound : Sound k s) : Sound k (rtl8139Stop s) := by
  cases phase : s.phase with
  | up =>
      obtain ⟨counted,frames,dirty,bounded,cur,_,_,_,_,asleep⟩ := sound
      simp only [rtl8139Stop,phase,stopQueue]
      exact ⟨counted,frames,dirty,bounded,fun _ => cur (by simp [phase]),by simp,by simp,fun _ => rfl,by simp,asleep⟩
  | haltChip => simpa only [rtl8139Stop,phase] using sound.moves (by rw [phase]; rfl) rfl s.handlers
  | freeIrq => simpa only [rtl8139Stop,phase] using sound.moves (by rw [phase]; rfl) rfl (s.handlers-1)
  | _ => simpa only [rtl8139Stop,phase] using sound

theorem transmits_sound (sound : Sound k s) (up : s.phase = .up) (running : s.driver.stopped = false) (skb : Skb) :
    ∃ more,Sound more (transmits skb s) := by
  obtain ⟨counted,frames,dirty,bounded,cur,_,upright,_,_,asleep⟩ := sound
  obtain ⟨active,full,_⟩ := upright up
  have cur := cur (by simp [up])
  by_cases fits : skb.len < txBufSize
  · have notFull : k ≠ numTxDesc := fun equal => by simp [full equal] at running
    simp only [transmits,startXmit_fields skb s.driver fits]
    refine ⟨k+1,counted,?_,dirty,by omega,?_,?_,?_,?_,?_,asleep⟩
    · simp only [List.length_append,List.length_singleton]
      omega
    · simp only [cur,Nat.mod_add_mod,Nat.add_assoc,ne_eq,implies_true]
    · simp [up]
    · intro _
      refine ⟨active,?_,fun _ => Nat.succ_pos k⟩
      intro last
      have closes : (s.driver.curTx+1) % numTxDesc = s.driver.dirtyTx := by
        rw [cur,Nat.mod_add_mod,Nat.add_assoc,last,Nat.add_mod_right,Nat.mod_eq_of_lt dirty]
      simp [closes]
    · simp [active]
    · simp [up]
  · simp only [transmits,startXmit,if_neg fits]
    refine ⟨k,counted,frames,dirty,bounded,fun _ => cur,by simp [up],fun _ => upright up,by simp [active],by simp [up],
      asleep⟩

theorem Sound.frame (sound : Sound k s) (tsd : Nat → BitVec 32) (collisions : Nat) (owns : Nat → Bool) (handling : Bool) :
    Sound k {s with
      driver := {s.driver with tsd := tsd,stats := {s.driver.stats with collisions := collisions}}
      owns := owns
      handling := handling} :=
  ⟨sound.counted,sound.frames,sound.dirty,sound.bounded,sound.cur,sound.fresh,sound.up,sound.halted,sound.idle,
    sound.asleep⟩

theorem completes_sound (sound : Sound k s) (entry : Nat) (status : BitVec 32) : Sound k (completes entry status s) :=
  sound.frame _ s.driver.stats.collisions _ s.handling

theorem Sound.enters (sound : Sound k s) (handling : Bool) : Sound k {s with handling := handling} :=
  sound.frame s.driver.tsd s.driver.stats.collisions s.owns handling

-- A loop that finds something to reap finds a frame outstanding. Only a halted
-- queue can have none, and there a concluded descriptor comes with two.
theorem Sound.reapable (sound : Sound k s) (busy : reapPending s.driver = true) (two : s.halted = true → 2 ≤ k) :
    s.phase ≠ .initCurTx ∧ (s.halted = false → s.phase = .up) ∧ 1 ≤ k := by
  have upright : s.halted = false → s.phase = .up := by
    intro active
    by_contra down
    obtain ⟨stopped,first,last⟩ := sound.idle down active
    simp [reapPending,stopped,first,last] at busy
  have settled : s.phase ≠ .initCurTx := by
    intro initialising
    have none := (sound.fresh (.inl initialising)).2
    cases held : s.halted with
    | true => exact absurd (two held) (by omega)
    | false => simp [upright held] at initialising
  refine ⟨settled,upright,?_⟩
  cases held : s.halted with
  | true => exact Nat.le_of_succ_le (two held)
  | false =>
      simp only [reapPending,Bool.or_eq_true,bne_iff_ne] at busy
      rcases busy with different | stopped
      · rcases Nat.eq_zero_or_pos k with none | more
        · have cur := sound.cur settled
          rw [none,Nat.add_zero,Nat.mod_eq_of_lt sound.dirty] at cur
          exact absurd cur.symm different
        · exact more
      · exact (sound.up (upright held)).2.2 stopped

theorem reapOldest_fields (d : Driver) : reapOldest d = {d with
    stats := countTransmit (d.tsd d.dirtyTx) (countCollisions (d.tsd d.dirtyTx) d.stats)
    dirtyTx := (d.dirtyTx+1) % numTxDesc
    reaped := d.reaped ++ [d.dirtyTx]
    stopped := d.stopped && decide ((d.dirtyTx+1) % numTxDesc ≠ d.curTx)} := by
  simp only [reapOldest,readOldest,wakeWhenEmpty_eq,reapDescriptor]

theorem reapOldest_sound (sound : Sound (k+1) s) (settled : s.phase ≠ .initCurTx)
    (upright : s.halted = false → s.phase = .up) (left : s.halted = true → 1 ≤ k) :
    Sound k {s with driver := reapOldest s.driver} := by
  obtain ⟨counted,frames,dirty,bounded,cur,fresh,up,halted,_,asleep⟩ := sound
  have cur := cur settled
  have empty : (s.driver.dirtyTx+1) % numTxDesc = s.driver.curTx ↔ k = 0 := by
    simp only [numTxDesc] at *
    omega
  have kept : s.halted = true → (s.driver.stopped && decide ((s.driver.dirtyTx+1) % numTxDesc ≠ s.driver.curTx)) = true := by
    intro held
    have more := left held
    simp only [halted held,Bool.true_and,decide_eq_true_eq,ne_eq,empty]
    omega
  rw [reapOldest_fields]
  refine ⟨?_,?_,Nat.mod_lt _ (by decide),by omega,?_,?_,?_,kept,fun down active => absurd (upright active) down,asleep⟩
  · simp only [countTransmit_frames,List.length_append,List.length_singleton]
    exact congrArg (·+1) counted
  · simp only [List.length_append,List.length_singleton]
    omega
  · intro _
    simp only [numTxDesc] at *
    omega
  · intro initialising
    exact absurd (fresh initialising).2 (Nat.succ_ne_zero k)
  · intro here
    refine ⟨(up here).1,fun last => absurd bounded (by omega),?_⟩
    intro stopped
    simp only [Bool.and_eq_true,decide_eq_true_eq,ne_eq,empty] at stopped
    omega

theorem Sound.resumes (sound : Sound k {s with driver := driver}) (handling : Bool)
    (kept : s.halted = true → driver.stopped = true) : Sound k {s with
      driver := driver
      handling := handling
      woken := s.woken || (s.halted && s.driver.stopped && !driver.stopped)} := by
  refine ⟨sound.counted,sound.frames,sound.dirty,sound.bounded,sound.cur,sound.fresh,sound.up,sound.halted,sound.idle,?_⟩
  have asleep : s.woken = false := sound.asleep
  cases held : s.halted with
  | true => simp [asleep,kept held]
  | false => simp [asleep]

theorem passes_sound (sound : Sound k s) (unconcluded : Unconcluded s .passes) : ∃ left,Sound left (passes s) := by
  by_cases busy : reapPending s.driver = true
  · by_cases finished : concluded (s.driver.tsd s.driver.dirtyTx) = true
    · have two : s.halted = true → 2 ≤ k := by
        intro held
        by_contra few
        have waiting := unconcluded held (by rw [sound.outstanding]; omega)
        rw [finished] at waiting
        exact absurd waiting (by decide)
      obtain ⟨settled,upright,some⟩ := sound.reapable busy two
      obtain ⟨left,rfl⟩ := Nat.exists_eq_add_of_le' some
      have reaped := reapOldest_sound sound settled upright fun held => Nat.le_of_succ_le_succ (two held)
      simp only [passes,pass,if_pos busy,if_pos finished]
      exact ⟨left,reaped.resumes true reaped.halted⟩
    · have read : Sound k {s with driver := readOldest s.driver} := sound.frame s.driver.tsd _ s.owns s.handling
      simp only [passes,pass,if_pos busy,if_neg finished]
      exact ⟨k,read.resumes false sound.halted⟩
  · simp only [passes,pass,if_neg busy]
    exact ⟨k,sound.resumes false sound.halted⟩

theorem apply_sound (s : System) (event : Event) (sound : ∃ k,Sound k s)
    (step : machine.Allowed s event ∧ Unconcluded s event) : ∃ k,Sound k (machine.apply s event) := by
  obtain ⟨k,sound⟩ := sound
  obtain ⟨allowed,unconcluded⟩ := step
  cases event with
  | opens granted => exact rtl8139Open_sound granted sound
  | stops => exact ⟨k,rtl8139Stop_sound sound⟩
  | startXmit skb => exact transmits_sound sound allowed.1 allowed.2 skb
  | completes entry status => exact ⟨k,completes_sound sound entry status⟩
  | interrupt isr => exact ⟨k,sound.enters _⟩
  | passes => exact passes_sound sound unconcluded

theorem Sound.countedOnce (sound : Sound k s) : CountedOnce s := by
  refine ⟨?_,sound.asleep⟩
  have frames := sound.frames
  rw [sound.counted]
  omega

theorem probed_sound (txBufs : Nat → UInt8) (tsd : Nat → BitVec 32) : Sound 0 (probed txBufs tsd) := by
  refine ⟨rfl,rfl,?_,?_,?_,?_,?_,?_,?_,rfl⟩ <;> simp [probed,numTxDesc]

end Steps

theorem counted_once (txBufs : Nat → UInt8) (tsd : Nat → BitVec 32) (events : List Event)
    (path : machine.Runs (probed txBufs tsd) events) (unconcluded : machine.Along Unconcluded (probed txBufs tsd) events) :
    machine.Throughout CountedOnce (probed txBufs tsd) events := by
  have sound := Machine.throughout_of_invariant apply_sound ⟨0,probed_sound txBufs tsd⟩
    (Machine.along_and.mpr ⟨path,unconcluded⟩)
  exact sound.imp fun s ⟨_,sound⟩ => sound.countedOnce

def opens : List Event := List.replicate 6 (.opens true)
def oneFrame : List Event := [.startXmit ⟨[1,2,3]⟩,.completes 0 txStatOK,.interrupt txOK,.passes,.passes]

theorem counted_once_halted : machine.Throughout CountedOnce (probed (fun _ => 0) fun _ => txHostOwns)
    (opens ++ oneFrame ++ [.stops,.interrupt txOK,.passes,.stops,.stops]) :=
  counted_once _ _ _ (by decide +kernel) (by decide +kernel)

def fourFrames : List Event :=
  [.startXmit ⟨[1]⟩,.startXmit ⟨[2]⟩,.startXmit ⟨[3]⟩,.startXmit ⟨[4]⟩,
    .completes 0 txStatOK,.completes 1 txStatOK,.completes 2 txStatOK,.completes 3 txStatOK,
    .interrupt txOK,.passes,.passes,.passes,.passes,.passes]

theorem shutdown_counts_again :
    machine.Runs (probed (fun _ => 0) fun _ => txHostOwns)
      (opens ++ fourFrames ++ [.stops,.interrupt txOK,.passes,.passes,.passes,.passes]) ∧
    ¬ machine.Throughout CountedOnce (probed (fun _ => 0) fun _ => txHostOwns)
      (opens ++ fourFrames ++ [.stops,.interrupt txOK,.passes,.passes,.passes,.passes]) := by
  refine ⟨by decide +kernel,?_⟩
  intro all
  exact absurd all.last.asleep (by decide +kernel)

end LinuxDeviceDrivers.Rtl8139Shutdown
