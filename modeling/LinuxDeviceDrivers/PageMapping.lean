import Mathlib.Logic.Function.Basic

namespace LinuxDeviceDrivers.PageMapping

-- The page table of one address space: the frame behind each mapped page.
abbrev Mapping := Nat → Option Nat

def unmapped : Mapping := fun _ => none

def mapRange (page frame count : Nat) (mapping : Mapping) : Mapping := fun other =>
  if page ≤ other ∧ other < page+count then some (frame+(other-page)) else mapping other

def mapPages (page count : Nat) (frames : Nat → Nat) : Mapping := fun other =>
  if page ≤ other ∧ other < page+count then some (frames (other-page)) else none

def physicalAddress (size : Nat) (mapping : Mapping) (address : Nat) : Option Nat :=
  (mapping (address/size)).map fun frame => frame*size+address % size

-- The addresses that a loop from `start` in steps of `size` visits below `stop`;
-- `none` when the fuel runs out.
def walk (size : Nat) : Nat → Nat → Nat → Option (List Nat)
  | 0,_,_ => none
  | fuel+1,start,stop =>
      if start < stop then (walk size fuel (start+size) stop).map (start :: ·) else some []

variable {page count index size : Nat} {frames : Nat → Nat}

theorem mapRange_unmapped (page frame count : Nat) :
    mapRange page frame count unmapped = mapPages page count fun index => frame+index := rfl

theorem mapPages_zero (page : Nat) (frames : Nat → Nat) : mapPages page 0 frames = unmapped := by
  funext other
  simp only [mapPages,unmapped]
  rw [if_neg (by omega)]

theorem mapPages_inside (inside : index < count) : mapPages page count frames (page+index) = some (frames index) := by
  rw [mapPages,if_pos (by omega),Nat.add_sub_cancel_left]

theorem mapPages_snoc (page count : Nat) (frames : Nat → Nat) :
    mapRange (page+count) (frames count) 1 (mapPages page count frames) = mapPages page (count+1) frames := by
  funext other
  by_cases last : other = page+count
  · subst other
    rw [mapRange,if_pos (by omega),mapPages_inside (Nat.lt_succ_self count),Nat.sub_self,Nat.add_zero]
  · rw [mapRange,if_neg (by omega),mapPages,mapPages]
    by_cases inside : page ≤ other ∧ other < page+count
    · rw [if_pos inside,if_pos (by omega)]
    · rw [if_neg inside,if_neg (by omega)]

theorem mapPages_some (mapped : mapPages page count frames other = some frame) :
    ∃ index < count,other = page+index ∧ frames index = frame := by
  unfold mapPages at mapped
  split at mapped
  · rename_i inside
    exact ⟨other-page,by omega,by omega,Option.some.inj mapped⟩
  · cases mapped

theorem physicalAddress_mapPages (positive : 0 < size) (inside : offset/size < count) :
    physicalAddress size (mapPages page count frames) (page*size+offset) =
      some (frames (offset/size)*size+offset % size) := by
  have quotient : (page*size+offset)/size = page+offset/size := by rw [Nat.mul_comm,Nat.mul_add_div positive]
  rw [physicalAddress,quotient,mapPages_inside inside,Nat.mul_comm page,Nat.mul_add_mod]
  rfl

theorem walk_range (positive : 0 < size) (enough : count < fuel) (start : Nat) :
    walk size fuel start (start+count*size) = some ((List.range count).map fun index => start+index*size) := by
  induction count generalizing fuel start with
  | zero =>
      obtain ⟨fuel,rfl⟩ := Nat.exists_eq_add_of_lt enough
      simp [walk]
  | succ count ih =>
      obtain ⟨fuel,rfl⟩ := Nat.exists_eq_add_one_of_ne_zero (Nat.ne_of_gt (Nat.zero_lt_of_lt enough))
      have within : start < start+(count+1)*size := Nat.lt_add_of_pos_right (Nat.mul_pos (Nat.succ_pos count) positive)
      have rest : start+(count+1)*size = start+size+count*size := by rw [Nat.succ_mul]; omega
      have later := ih (Nat.lt_of_succ_lt_succ enough) (start+size)
      rw [walk,if_pos within,rest,later,List.range_succ_eq_map,List.map_cons,List.map_map,Option.map_some]
      congr 2
      · rw [Nat.zero_mul,Nat.add_zero]
      · apply List.map_congr_left
        intro index _
        simp only [Function.comp,Nat.succ_mul]
        omega

end LinuxDeviceDrivers.PageMapping
