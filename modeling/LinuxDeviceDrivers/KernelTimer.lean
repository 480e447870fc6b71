import Mathlib.Logic.Function.Basic

namespace LinuxDeviceDrivers.KernelTimer

-- What the users of a kernel timer see of it. `misused` says that add_timer has
-- been called on it while it was pending.
structure Timer where
  pending : Bool := false
  expires : BitVec 64 := 0#64
  misused : Bool := false

def setExpires (expires : BitVec 64) (timer : Timer) : Timer := {timer with expires := expires}
def addTimer (timer : Timer) : Timer := {timer with pending := true,misused := timer.misused || timer.pending}
def modTimer (expires : BitVec 64) (timer : Timer) : Timer := {timer with pending := true,expires := expires}
-- Also what the kernel does before it calls the function of an expired timer.
def delTimer (timer : Timer) : Timer := {timer with pending := false}

-- A timer that is set again by whoever took it off: a callback that runs, or a
-- caller that deleted it. `holders` counts those who still mean to call add_timer.
structure Arming where
  pending : Bool
  holders : Nat
  misused : Bool

inductive Action where
  | take
  | add
  | stay

namespace Arming

def act (a : Arming) : Action → Arming
  | .take => {a with pending := false,holders := a.holders+1}
  | .add => {pending := true,holders := a.holders-1,misused := a.misused || a.pending}
  | .stay => a

def Allowed (a : Arming) : Action → Prop
  | .add => 0 < a.holders
  | .take | .stay => True

def tokens (a : Arming) : Nat := a.pending.toNat+a.holders

variable {a : Arming} {action : Action}

theorem act_armed (armed : 1 ≤ a.tokens) (action : Action) : 1 ≤ (a.act action).tokens := by
  cases action with
  | take => simp [act,tokens]
  | add => simp [act,tokens]
  | stay => exact armed

theorem act_tokens (allowed : a.Allowed action) (proper : (a.act action).misused = false) :
    a.tokens ≤ (a.act action).tokens := by
  cases action with
  | take =>
      have bit := Bool.toNat_le a.pending
      simp only [act,tokens,Bool.toNat_false]
      omega
  | add =>
      simp only [act,Bool.or_eq_false_iff] at proper
      simp only [Allowed] at allowed
      simp only [act,tokens,proper.2,Bool.toNat_false,Bool.toNat_true]
      omega
  | stay => exact Nat.le_refl _

theorem act_misused (misused : a.misused = true) (action : Action) : (a.act action).misused = true := by
  cases action <;> simp [act,misused]

theorem act_single (single : a.tokens ≤ 1) (allowed : a.Allowed action) (alone : action = .take → a.holders = 0) :
    (a.act action).tokens ≤ 1 ∧ (a.act action).misused = a.misused := by
  cases action with
  | take => simp [act,tokens,alone rfl]
  | add =>
      simp only [Allowed] at allowed
      simp only [tokens] at single
      have absent : a.pending = false := by
        cases pending : a.pending with
        | false => rfl
        | true => simp only [pending,Bool.toNat_true] at single; omega
      refine ⟨?_,by simp [act,absent]⟩
      simp only [act,tokens,Bool.toNat_true]
      omega
  | stay => exact ⟨single,rfl⟩

theorem take_held (held : 0 < a.holders) : 2 ≤ (a.act .take).tokens := by
  simp only [act,tokens,Bool.toNat_false]
  omega

end Arming

end LinuxDeviceDrivers.KernelTimer
