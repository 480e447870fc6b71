import LinuxDeviceDrivers.Transition

namespace LinuxDeviceDrivers.BlinkplusLeds
open Transition

-- These are unsigned longs, info.status is an unsigned int.
def allLedsOn : BitVec 64 := 0x07#64
def restoreLeds : BitVec 64 := 0xFF#64

-- `sent` lists what do_work gave to KDSETLED.
structure Leds where
  status : BitVec 32 := 0#32
  kbledstatus : BitVec 64 := 0#64
  sent : List (BitVec 32) := []

inductive Event where
  | setLed (pattern : BitVec 64)
  | doWork

def selected (s : Leds) : BitVec 32 := (s.kbledstatus &&& allLedsOn).setWidth 32

def nextStatus (s : Leds) : BitVec 32 :=
  if s.status.setWidth 64 = allLedsOn then restoreLeds.setWidth 32 else selected s

def doWork (s : Leds) : Leds := {s with status := nextStatus s,sent := s.sent ++ [nextStatus s]}

def machine : Machine Leds Event where
  Allowed _ _ := True
  apply s event := match event with
    | .setLed pattern => {s with kbledstatus := pattern}
    | .doWork => doWork s

-- Two executions in a row send the pattern and RESTORE_LEDS, in either order.
def Blinks (s : Leds) : Prop :=
  ∃ sends,(machine.run s [.doWork,.doWork]).sent = s.sent ++ sends ∧
    (sends = [restoreLeds.setWidth 32,selected s] ∨ sends = [selected s,restoreLeds.setWidth 32])

-- All three LEDs are selected, or were when the work last ran and lit them.
def AllLit (s : Leds) : Prop := s.kbledstatus &&& allLedsOn = allLedsOn ∨ s.status.setWidth 64 = allLedsOn

def EachPair (holds : Leds → Prop) (s : Leds) (events : List Event) : Prop :=
  ∀ before after,events = before ++ ([.doWork,.doWork] ++ after) → holds (machine.run s before)

section Pairs
variable {s : Leds}

theorem masked_small (pattern : BitVec 64) : (pattern &&& allLedsOn).toNat ≤ 7 := by
  rw [BitVec.toNat_and]
  exact Nat.and_le_right

theorem selected_toNat (s : Leds) : (selected s).toNat = (s.kbledstatus &&& allLedsOn).toNat := by
  have small := masked_small s.kbledstatus
  rw [selected,BitVec.toNat_setWidth]
  exact Nat.mod_eq_of_lt (by omega)

theorem selected_all (s : Leds) : (selected s).setWidth 64 = allLedsOn ↔ s.kbledstatus &&& allLedsOn = allLedsOn := by
  have kept : (selected s).setWidth 64 = s.kbledstatus &&& allLedsOn := by
    have bound := (selected s).isLt
    apply BitVec.eq_of_toNat_eq
    rw [BitVec.toNat_setWidth,← selected_toNat]
    omega
  rw [kept]

theorem selected_ne_restore (s : Leds) : selected s ≠ restoreLeds.setWidth 32 := by
  intro same
  have value := congrArg BitVec.toNat same
  have small := masked_small s.kbledstatus
  rw [selected_toNat] at value
  exact absurd small (value ▸ by decide)

theorem nextStatus_lit (lit : s.status.setWidth 64 = allLedsOn) : nextStatus s = restoreLeds.setWidth 32 := if_pos lit
theorem nextStatus_dark (dark : s.status.setWidth 64 ≠ allLedsOn) : nextStatus s = selected s := if_neg dark

theorem restored_dark : (restoreLeds.setWidth 32).setWidth 64 ≠ allLedsOn := by decide

theorem pair_sent (s : Leds) :
    (machine.run s [.doWork,.doWork]).sent = s.sent ++ [nextStatus s,nextStatus (doWork s)] :=
  List.append_assoc s.sent [nextStatus s] [nextStatus (doWork s)]

theorem blinks_exact (s : Leds) : Blinks s ↔
    [nextStatus s,nextStatus (doWork s)] = [restoreLeds.setWidth 32,selected s] ∨
      [nextStatus s,nextStatus (doWork s)] = [selected s,restoreLeds.setWidth 32] := by
  constructor
  · rintro ⟨sends,sent,either⟩
    rw [pair_sent] at sent
    rwa [List.append_cancel_left sent]
  · intro either
    exact ⟨_,pair_sent s,either⟩

theorem blinks_iff (s : Leds) : Blinks s ↔ AllLit s := by
  rw [blinks_exact]
  by_cases lit : s.status.setWidth 64 = allLedsOn
  · have first := nextStatus_lit lit
    have second : nextStatus (doWork s) = selected s := by
      refine nextStatus_dark (s:=doWork s) ?_
      rw [doWork,first]
      exact restored_dark
    rw [first,second]
    exact iff_of_true (.inl rfl) (.inr lit)
  · have first := nextStatus_dark lit
    by_cases all : s.kbledstatus &&& allLedsOn = allLedsOn
    · have second : nextStatus (doWork s) = restoreLeds.setWidth 32 := by
        refine nextStatus_lit (s:=doWork s) ?_
        rw [doWork,first]
        exact (selected_all s).mpr all
      rw [first,second]
      exact iff_of_true (.inr rfl) (.inl all)
    · have second : nextStatus (doWork s) = selected s := by
        refine nextStatus_dark (s:=doWork s) ?_
        rw [doWork,first]
        exact mt (selected_all s).mp all
      rw [first,second]
      refine iff_of_false ?_ ?_
      · simp [selected_ne_restore s]
      · rintro (every | still)
        · exact all every
        · exact lit still

end Pairs

theorem leds_blink_iff (s : Leds) (events : List Event) : EachPair Blinks s events ↔ EachPair AllLit s events := by
  constructor
  · intro blink before after split
    exact (blinks_iff _).mp (blink before after split)
  · intro lit before after split
    exact (blinks_iff _).mpr (lit before after split)

theorem caps_lock_steady : ¬ EachPair Blinks {} [.setLed 0x04#64,.doWork,.doWork] := by
  intro blink
  have lit := (blinks_iff _).mp (blink [.setLed 0x04#64] [] rfl)
  exact absurd lit (by unfold AllLit; decide)

end LinuxDeviceDrivers.BlinkplusLeds
