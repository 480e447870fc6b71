import Mathlib.Data.List.Basic

namespace LinuxDeviceDrivers.ResourceLedger

universe u

-- What someone has acquired and not released, and what they released without
-- holding it.
structure Ledger (α : Type u) where
  held : List α := []
  strays : List α := []

namespace Ledger
variable {α : Type u}

def acquire (resource : α) (l : Ledger α) : Ledger α := {l with held := resource :: l.held}

def acquireAll (resources : List α) (l : Ledger α) : Ledger α := {l with held := resources ++ l.held}

@[simp] theorem acquire_held (resource : α) (l : Ledger α) : (acquire resource l).held = resource :: l.held := rfl
@[simp] theorem acquire_strays (resource : α) (l : Ledger α) : (acquire resource l).strays = l.strays := rfl

variable [DecidableEq α]

def release (resource : α) (l : Ledger α) : Ledger α :=
  if resource ∈ l.held then {l with held := l.held.erase resource} else {l with strays := resource :: l.strays}

def releaseAll : List α → Ledger α → Ledger α
  | [],l => l
  | resource :: rest,l => releaseAll rest (release resource l)

variable {l : Ledger α} {resource : α}

@[simp] theorem release_acquire (resource : α) (l : Ledger α) : release resource (acquire resource l) = l := by
  simp [release]

theorem release_held (held : resource ∈ l.held) : release resource l = {l with held := l.held.erase resource} :=
  if_pos held

theorem release_stray (stray : resource ∉ l.held) : release resource l = {l with strays := resource :: l.strays} :=
  if_neg stray

theorem release_conserves (p : α → Bool) (resource : α) (l : Ledger α) :
    (release resource l).held.countP p+l.strays.countP p+(p resource).toNat =
      l.held.countP p+(release resource l).strays.countP p := by
  by_cases held : resource ∈ l.held
  · have split := (List.perm_cons_erase held).countP_eq p
    rw [release_held held,split,List.countP_cons]
    cases p resource with
    | false => simp
    | true => simp; omega
  · rw [release_stray held,List.countP_cons]
    cases p resource with
    | false => simp
    | true => simp; omega

theorem releaseAll_conserves (p : α → Bool) (resources : List α) (l : Ledger α) :
    (releaseAll resources l).held.countP p+l.strays.countP p+resources.countP p =
      l.held.countP p+(releaseAll resources l).strays.countP p := by
  induction resources generalizing l with
  | nil => simp [releaseAll]
  | cons resource rest ih =>
      have first := release_conserves p resource l
      have others := ih (release resource l)
      have one : (resource :: rest).countP p = rest.countP p+(p resource).toNat := by
        rw [List.countP_cons]
        cases p resource <;> rfl
      rw [releaseAll,one]
      omega

theorem release_keeps (held : resource ∈ l.held) (other : resource ≠ released) : resource ∈ (release released l).held := by
  unfold release
  split
  · exact (List.mem_erase_of_ne other).mpr held
  · exact held

theorem releaseAll_keeps (held : resource ∈ l.held) (other : resource ∉ resources) :
    resource ∈ (releaseAll resources l).held := by
  induction resources generalizing l with
  | nil => exact held
  | cons released rest ih =>
      have apart := List.ne_and_not_mem_of_not_mem_cons other
      exact ih (release_keeps held apart.1) apart.2

theorem release_strays (resource : α) (l : Ledger α) : l.strays <:+ (release resource l).strays := by
  unfold release
  split
  · exact List.suffix_refl _
  · exact List.suffix_cons _ _

end Ledger

end LinuxDeviceDrivers.ResourceLedger
