import Mathlib.Logic.Function.Basic

namespace LinuxDeviceDrivers.CircularWindow

universe u

-- Cells 0..n-1 in a circle. `next` is the cell after i and `span` the number of
-- steps from i up to j; equal indices are at distance 0, never n.
def next (n i : Nat) : Nat := if i+1 = n then 0 else i+1
def span (n i j : Nat) : Nat := if i ≤ j then j-i else n-i+j

def window (n : Nat) : Nat → Nat → List Nat
  | _,0 => []
  | i,k+1 => i :: window n (next n i) k

section Indices
variable {n i j k : Nat}

theorem next_lt (bound : i < n) : next n i < n := by unfold next; split <;> omega
theorem next_mod (bound : i < n) : (i+1) % n = next n i := by
  unfold next
  split
  · rename_i last; simp [last]
  · exact Nat.mod_eq_of_lt (by omega)

theorem span_lt (first : i < n) (last : j < n) : span n i j < n := by unfold span; split <;> omega
theorem span_eq_zero (first : i < n) : span n i j = 0 ↔ i = j := by unfold span; split <;> omega

theorem span_advance (first : i < n) (last : j < n) (different : i ≠ j) :
    span n i j = span n (next n i) j + 1 := by
  unfold span next
  split <;> split <;> (try split) <;> omega

theorem span_extend (first : i < n) (room : span n i j + 1 < n) :
    span n i (next n j) = span n i j + 1 := by
  unfold span next at *
  split <;> split <;> (try split) <;> (try split at room) <;> omega

theorem span_full (first : i < n) (last : j < n) (opens : next n j ≠ i) : span n i j + 1 < n := by
  unfold span next at *
  split <;> split at opens <;> omega

def cell (n i k : Nat) : Nat := if i+k < n then i+k else i+k-n

theorem cell_lt (first : i < n) (short : k < n) : cell n i k < n := by unfold cell; split <;> omega
theorem cell_zero (first : i < n) : cell n i 0 = i := by simp [cell,first]
theorem cell_next (short : k+1 ≤ n) : cell n (next n i) k = cell n i (k+1) := by
  unfold cell next
  split <;> split <;> (try split) <;> omega
theorem cell_span (first : i < n) (last : j < n) : cell n i (span n i j) = j := by
  unfold cell span
  split <;> split <;> omega
theorem cell_inj (left : j < n) (right : k < n) (same : cell n i j = cell n i k) : j = k := by
  unfold cell at same
  split at same <;> split at same <;> omega

theorem cell_mod (first : i < n) (short : k ≤ n) : (i+k) % n = cell n i k := by
  unfold cell
  split
  · rename_i inside
    exact Nat.mod_eq_of_lt inside
  · rw [Nat.mod_eq_sub_mod (by omega),Nat.mod_eq_of_lt (by omega)]

@[simp] theorem window_length (n i k : Nat) : (window n i k).length = k := by
  induction k generalizing i with
  | zero => rfl
  | succ k ih => simp [window,ih]

theorem window_eq_cells (first : i < n) (short : k ≤ n) : window n i k = (List.range k).map (cell n i) := by
  induction k generalizing i with
  | zero => rfl
  | succ k ih =>
      rw [window,ih (next_lt first) (by omega),List.range_succ_eq_map]
      simp only [List.map_cons,List.map_map,cell_zero first,List.cons.injEq,true_and]
      apply List.map_congr_left
      intro offset member
      have small := List.mem_range.mp member
      exact cell_next (by omega)

theorem window_snoc (first : i < n) (short : k < n) : window n i (k+1) = window n i k ++ [cell n i k] := by
  rw [window_eq_cells first (by omega),window_eq_cells first (by omega),List.range_succ]
  simp

theorem mem_window_lt (first : i < n) (short : k ≤ n) (member : j ∈ window n i k) : j < n := by
  rw [window_eq_cells first short] at member
  obtain ⟨offset,inside,rfl⟩ := List.mem_map.mp member
  exact cell_lt first (by have := List.mem_range.mp inside; omega)

theorem mem_window_of_span_lt (first : i < n) (last : j < n) (short : k ≤ n) (inside : span n i j < k) :
    j ∈ window n i k := by
  rw [window_eq_cells first short]
  exact List.mem_map.mpr ⟨span n i j,List.mem_range.mpr inside,cell_span first last⟩

theorem mem_window_or_last (first : i < n) (last : j < n) (closes : next n j = i) (bound : k < n) :
    k ∈ window n i (span n i j) ∨ k = j := by
  by_cases inside : span n i k < span n i j
  · exact .inl (mem_window_of_span_lt first bound (Nat.le_of_lt (span_lt first last)) inside)
  · right
    unfold span next at *
    split at closes <;> split at inside <;> split at inside <;> omega

theorem cell_not_mem_window (first : i < n) (short : k < n) : cell n i k ∉ window n i k := by
  rw [window_eq_cells first (by omega)]
  intro member
  obtain ⟨offset,inside,same⟩ := List.mem_map.mp member
  have small := List.mem_range.mp inside
  have equal := cell_inj (by omega) short same
  omega

end Indices

section Contents
variable {α : Type u} {n i j : Nat}

-- What the cells from i up to j hold, oldest first.
def contents (n : Nat) (cells : Nat → α) (i j : Nat) : List α := (window n i (span n i j)).map cells

@[simp] theorem contents_length (n : Nat) (cells : Nat → α) (i j : Nat) :
    (contents n cells i j).length = span n i j := by simp [contents]

theorem contents_eq_nil (cells : Nat → α) (first : i < n) : contents n cells i j = [] ↔ i = j := by
  rw [← span_eq_zero first,← List.length_eq_zero_iff,contents_length]

theorem contents_self (cells : Nat → α) (i : Nat) : contents n cells i i = [] := by simp [contents,span,window]

theorem contents_advance (cells : Nat → α) (first : i < n) (last : j < n) (different : i ≠ j) :
    contents n cells i j = cells i :: contents n cells (next n i) j := by
  unfold contents
  rw [span_advance first last different]
  rfl

theorem contents_extend (cells : Nat → α) (value : α) (first : i < n) (last : j < n) (room : span n i j + 1 < n) :
    contents n (Function.update cells j value) i (next n j) = contents n cells i j ++ [value] := by
  unfold contents
  rw [span_extend first room,window_snoc first (by omega),List.map_append,cell_span first last]
  have outside : j ∉ window n i (span n i j) := by
    have past := cell_not_mem_window (i:=i) (k:=span n i j) first (by omega)
    rwa [cell_span first last] at past
  have kept : (window n i (span n i j)).map (Function.update cells j value) = (window n i (span n i j)).map cells := by
    apply List.map_congr_left
    intro index member
    have other : index ≠ j := fun equal => outside (equal ▸ member)
    simp [other]
  simp [kept]

end Contents

end LinuxDeviceDrivers.CircularWindow
