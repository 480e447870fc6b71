import LinuxDeviceDrivers.ResourceLedger
import Mathlib.Data.List.Perm.Basic

namespace LinuxDeviceDrivers.LoadRoutine
open ResourceLedger Ledger

universe u v

-- A load routine makes one call after the other. A refused call has no effect;
-- if the routine notices, it makes the calls of `undo` and gives up.
structure Stage (κ : Type u) where
  call : κ
  noticed : Bool := true
  undo : List κ := []

section Calls
variable {κ : Type u}

def granted (refuses : κ → Bool) : List (Stage κ) → List κ
  | [] => []
  | stage :: rest =>
      if refuses stage.call then if stage.noticed then [] else granted refuses rest
      else stage.call :: granted refuses rest

-- The calls it gives up with; none if it succeeds.
def verdict (refuses : κ → Bool) : List (Stage κ) → Option (List κ)
  | [] => none
  | stage :: rest => if refuses stage.call && stage.noticed then some stage.undo else verdict refuses rest

-- One load, and the unload that a load which succeeds allows.
def cycle (refuses : κ → Bool) (stages : List (Stage κ)) (unload : List κ) : List κ :=
  granted refuses stages ++ (verdict refuses stages).getD unload

variable {refuses : κ → Bool} {stages : List (Stage κ)} {P : κ → Prop}

theorem granted_all (all : ∀ stage ∈ stages,P stage.call) : ∀ call ∈ granted refuses stages,P call := by
  induction stages with
  | nil => nofun
  | cons stage rest ih =>
      have later := ih fun other member => all other (List.mem_cons_of_mem _ member)
      intro call member
      unfold granted at member
      split at member
      · split at member
        · cases member
        · exact later call member
      · rcases List.mem_cons.mp member with rfl | member
        · exact all stage List.mem_cons_self
        · exact later call member

theorem verdict_all {unload : List κ} (all : ∀ stage ∈ stages,∀ call ∈ stage.undo,P call) (last : ∀ call ∈ unload,P call) :
    ∀ call ∈ (verdict refuses stages).getD unload,P call := by
  induction stages with
  | nil => exact last
  | cons stage rest ih =>
      unfold verdict
      split
      · exact all stage List.mem_cons_self
      · exact ih fun other member => all other (List.mem_cons_of_mem _ member)

end Calls

inductive Effect (α : Type v) where
  | acquires (resource : α)
  | releases (resource : α)
  | neither

namespace Effect
variable {α : Type v}

def acquired : Effect α → Option α
  | acquires resource => some resource
  | _ => none

def released : Effect α → Option α
  | releases resource => some resource
  | _ => none

end Effect

section Ledgers
variable {κ : Type u} {α : Type v}

def acquired (effect : κ → Effect α) (calls : List κ) : List α := calls.filterMap fun call => (effect call).acquired
def released (effect : κ → Effect α) (calls : List κ) : List α := calls.filterMap fun call => (effect call).released

def Clean (l : Ledger α) : Prop := l.held = [] ∧ l.strays = []

variable {effect : κ → Effect α} {l : Ledger α}

theorem Clean.empty (clean : Clean l) : l = {} := by
  obtain ⟨held,strays⟩ := l
  obtain ⟨rfl,rfl⟩ := clean
  rfl

variable [DecidableEq α]

def perform (effect : κ → Effect α) (l : Ledger α) (call : κ) : Ledger α :=
  match effect call with
  | .acquires resource => acquire resource l
  | .releases resource => release resource l
  | .neither => l

def performAll (effect : κ → Effect α) (l : Ledger α) (calls : List κ) : Ledger α := calls.foldl (perform effect) l

theorem performAll_acquired {calls : List κ} (none : ∀ call ∈ calls,(effect call).released = none) (l : Ledger α) :
    performAll effect l calls = acquireAll (acquired effect calls).reverse l := by
  induction calls generalizing l with
  | nil => rfl
  | cons call rest ih =>
      have here := none call List.mem_cons_self
      rw [performAll,List.foldl_cons]
      refine (ih (fun other member => none other (List.mem_cons_of_mem _ member)) _).trans ?_
      cases taken : effect call with
      | acquires resource => simp [perform,taken,acquired,Effect.acquired,acquireAll,acquire]
      | releases resource => simp [taken,Effect.released] at here
      | neither => simp [perform,taken,acquired,Effect.acquired]

theorem performAll_released {calls : List κ} (none : ∀ call ∈ calls,(effect call).acquired = none) (l : Ledger α) :
    performAll effect l calls = releaseAll (released effect calls) l := by
  induction calls generalizing l with
  | nil => rfl
  | cons call rest ih =>
      have here := none call List.mem_cons_self
      rw [performAll,List.foldl_cons]
      refine (ih (fun other member => none other (List.mem_cons_of_mem _ member)) _).trans ?_
      cases taken : effect call with
      | acquires resource => simp [taken,Effect.acquired] at here
      | releases resource => simp [perform,taken,released,Effect.released,releaseAll]
      | neither => simp [perform,taken,released,Effect.released]

theorem strays_kept (resources : List α) (l : Ledger α) (strays : l.strays ≠ []) : (releaseAll resources l).strays ≠ [] := by
  induction resources generalizing l with
  | nil => exact strays
  | cons resource rest ih =>
      refine ih _ fun none => strays ?_
      have suffix := release_strays resource l
      rw [none] at suffix
      exact List.suffix_nil.mp suffix

theorem releaseAll_clean (resources : List α) (l : Ledger α) (intact : l.strays = []) :
    Clean (releaseAll resources l) ↔ resources.Perm l.held := by
  induction resources generalizing l with
  | nil =>
      rw [List.nil_perm]
      exact and_iff_left intact
  | cons resource rest ih =>
      rw [List.cons_perm_iff_perm_erase]
      by_cases held : resource ∈ l.held
      · have next := ih (release resource l) (by rw [release_held held]; exact intact)
        rw [releaseAll,next,release_held held]
        exact (and_iff_right held).symm
      · have stray : (release resource l).strays ≠ [] := by simp [release_stray held]
        exact iff_of_false (fun clean => strays_kept rest _ stray clean.2) fun both => held both.1

theorem cycle_clean {refuses : κ → Bool} {stages : List (Stage κ)} {unload : List κ}
    (takes : ∀ stage ∈ stages,(effect stage.call).released = none)
    (gives : ∀ stage ∈ stages,∀ call ∈ stage.undo,(effect call).acquired = none)
    (last : ∀ call ∈ unload,(effect call).acquired = none) :
    Clean (performAll effect {} (cycle refuses stages unload)) ↔
      (released effect ((verdict refuses stages).getD unload)).Perm (acquired effect (granted refuses stages)) := by
  have taken : ∀ call ∈ granted refuses stages,(effect call).released = none := granted_all takes
  have given : ∀ call ∈ (verdict refuses stages).getD unload,(effect call).acquired = none := verdict_all gives last
  have split : performAll effect {} (cycle refuses stages unload) =
      performAll effect (performAll effect {} (granted refuses stages)) ((verdict refuses stages).getD unload) :=
    List.foldl_append
  rw [split,performAll_acquired taken,performAll_released given,releaseAll_clean _ _ rfl,acquireAll,List.append_nil]
  exact ⟨fun same => same.trans (List.reverse_perm _),fun same => same.trans (List.reverse_perm _).symm⟩

end Ledgers

end LinuxDeviceDrivers.LoadRoutine
