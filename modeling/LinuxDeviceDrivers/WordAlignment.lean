import Mathlib.Algebra.GroupWithZero.Nat
import Mathlib.Data.List.Nodup

namespace LinuxDeviceDrivers.WordAlignment

variable {w shift : Nat} {α : Type}

-- Words are cut into blocks of 2^shift, a power of two that is one itself.
def unit (w shift : Nat) : BitVec w := 1#w <<< shift

def alignDown (shift : Nat) (value : BitVec w) : BitVec w := value &&& ~~~(unit w shift-1#w)
def alignUp (shift : Nat) (value : BitVec w) : BitVec w := alignDown shift (value+unit w shift-1#w)

-- `for (a = start; a < stop; a += step)`: what a has been, and what it ends with;
-- `none` when the fuel runs out.
def walkWords (step stop : BitVec w) : Nat → BitVec w → Option (List (BitVec w) × BitVec w)
  | 0,_ => none
  | fuel+1,address =>
      if address < stop then (walkWords step stop fuel (address+step)).map fun (visited,last) => (address :: visited,last)
      else some ([],address)

-- `views` is what `view` says of the `length` words from `start` on: of each
-- block that they lie in, once.
structure Once (view : BitVec w → α) (start : BitVec w) (length count : Nat) (views : List α) : Prop where
  count : views.length = count
  distinct : views.Nodup
  exact : ∀ seen,seen ∈ views ↔ ∃ n < length,view (start+BitVec.ofNat w n) = seen

section Words

theorem unit_toNat (small : shift < w) : (unit w shift).toNat = 2^shift := by
  have one : 1 < 2^w := Nat.one_lt_two_pow (by omega)
  rw [unit,BitVec.toNat_shiftLeft,BitVec.toNat_ofNat,Nat.mod_eq_of_lt one,Nat.one_shiftLeft]
  exact Nat.mod_eq_of_lt (Nat.pow_lt_pow_right (by decide) small)

theorem offset_toNat {start : BitVec w} (fits : start.toNat+n < 2^w) : (start+BitVec.ofNat w n).toNat = start.toNat+n := by
  rw [BitVec.toNat_add,BitVec.toNat_ofNat,Nat.add_mod_mod]
  exact Nat.mod_eq_of_lt fits

theorem unit_pred (small : shift < w) : unit w shift = BitVec.ofNat w (2^shift-1)+1#w := by
  have power : 2^shift < 2^w := Nat.pow_lt_pow_right (by decide) small
  apply BitVec.eq_of_toNat_eq
  rw [unit_toNat small,← BitVec.ofNat_add,Nat.sub_add_cancel (Nat.two_pow_pos shift),BitVec.toNat_ofNat,
    Nat.mod_eq_of_lt power]

theorem low_getLsbD (small : shift < w) (inside : i < w) : (unit w shift-1#w).getLsbD i = decide (i < shift) := by
  rw [unit_pred small,BitVec.add_sub_cancel,BitVec.getLsbD_ofNat,Nat.testBit_two_pow_sub_one]
  simp only [inside,decide_true,Bool.true_and]

theorem alignDown_eq_shift (small : shift < w) (value : BitVec w) : alignDown shift value = value >>> shift <<< shift := by
  apply BitVec.eq_of_getLsbD_eq
  intro i inside
  rw [alignDown,BitVec.getLsbD_and,BitVec.getLsbD_not,low_getLsbD small inside,BitVec.getLsbD_shiftLeft,
    BitVec.getLsbD_ushiftRight]
  by_cases cleared : i < shift
  · simp [cleared]
  · simp [cleared,inside,show shift+(i-shift) = i by omega]

theorem alignDown_toNat (small : shift < w) (value : BitVec w) :
    (alignDown shift value).toNat = value.toNat/2^shift*2^shift := by
  have below : value.toNat/2^shift*2^shift < 2^w := Nat.lt_of_le_of_lt (Nat.div_mul_le_self _ _) value.isLt
  rw [alignDown_eq_shift small,BitVec.toNat_shiftLeft,BitVec.toNat_ushiftRight,Nat.shiftLeft_eq,Nat.shiftRight_eq_div_pow]
  exact Nat.mod_eq_of_lt below

theorem alignUp_toNat (small : shift < w) {value : BitVec w} (fits : value.toNat+2^shift ≤ 2^w) :
    (alignUp shift value).toNat = (value.toNat+2^shift-1)/2^shift*2^shift := by
  have positive : 0 < 2^shift := Nat.two_pow_pos shift
  have sum : value+unit w shift-1#w = value+BitVec.ofNat w (2^shift-1) := by
    rw [unit_pred small,← BitVec.add_assoc,BitVec.add_sub_cancel]
  rw [alignUp,alignDown_toNat small,sum,offset_toNat (by omega),← Nat.add_sub_assoc positive]

theorem alignUp_aligned (small : shift < w) {value : BitVec w} (fits : value.toNat+2^shift ≤ 2^w) :
    2^shift ∣ (alignUp shift value).toNat := by
  rw [alignUp_toNat small fits]
  exact Nat.dvd_mul_left _ _

theorem alignUp_bounds (small : shift < w) {value : BitVec w} (fits : value.toNat+2^shift ≤ 2^w) :
    value.toNat ≤ (alignUp shift value).toNat ∧ (alignUp shift value).toNat < value.toNat+2^shift := by
  have positive : 0 < 2^shift := Nat.two_pow_pos shift
  have whole := Nat.div_add_mod (value.toNat+2^shift-1) (2^shift)
  rw [Nat.mul_comm] at whole
  rw [alignUp_toNat small fits]
  omega

end Words

section Walks
variable {step start stop : BitVec w} {count fuel : Nat}

theorem walkWords_range (positive : 0 < step.toNat) (whole : stop.toNat = start.toNat+count*step.toNat)
    (enough : count < fuel) :
    walkWords step stop fuel start =
      some ((List.range count).map fun index => start+BitVec.ofNat w (index*step.toNat),stop) := by
  induction count generalizing fuel start with
  | zero =>
      obtain ⟨fuel,rfl⟩ := Nat.exists_eq_add_one_of_ne_zero (Nat.ne_of_gt enough)
      have same : start = stop := BitVec.eq_of_toNat_eq (by omega)
      rw [walkWords,same,if_neg (BitVec.lt_irrefl stop)]
      rfl
  | succ count ih =>
      obtain ⟨fuel,rfl⟩ := Nat.exists_eq_add_one_of_ne_zero (Nat.ne_of_gt (Nat.zero_lt_of_lt enough))
      rw [Nat.succ_mul] at whole
      have within : start < stop := by rw [BitVec.lt_def]; omega
      have stepped : (start+step).toNat = start.toNat+step.toNat := by
        rw [BitVec.toNat_add]
        exact Nat.mod_eq_of_lt (by omega)
      have ahead : stop.toNat = (start+step).toNat+count*step.toNat := by omega
      have later := ih ahead (Nat.lt_of_succ_lt_succ enough)
      have first : start+BitVec.ofNat w (0*step.toNat) = start := by
        rw [Nat.zero_mul]
        exact BitVec.add_zero start
      have moved : ∀ index,start+step+BitVec.ofNat w (index*step.toNat) = start+BitVec.ofNat w ((index+1)*step.toNat) := by
        intro index
        rw [Nat.succ_mul,Nat.add_comm,BitVec.ofNat_add,BitVec.ofNat_toNat,BitVec.setWidth_eq,BitVec.add_assoc]
      rw [walkWords,if_pos within,later,List.range_succ_eq_map,List.map_cons,List.map_map,first]
      simp only [moved]
      rfl

theorem offset_block (aligned : 2^shift ∣ start.toNat) (fits : start.toNat+n < 2^w) :
    (start+BitVec.ofNat w n).toNat/2^shift = start.toNat/2^shift+n/2^shift := by
  obtain ⟨block,whole⟩ := aligned
  rw [offset_toNat fits,whole,Nat.mul_add_div (Nat.two_pow_pos shift),Nat.mul_div_cancel_left _ (Nat.two_pow_pos shift)]

theorem blocks_once {view : BitVec w → α} (aligned : 2^shift ∣ start.toNat) (fits : start.toNat+count*2^shift < 2^w)
    (apart : ∀ i < count*2^shift,∀ j < count*2^shift,
      view (start+BitVec.ofNat w i) = view (start+BitVec.ofNat w j) ↔
        (start+BitVec.ofNat w i).toNat/2^shift = (start+BitVec.ofNat w j).toNat/2^shift) :
    Once view start (count*2^shift) count
      ((List.range count).map fun index => view (start+BitVec.ofNat w (index*2^shift))) := by
  have positive : 0 < 2^shift := Nat.two_pow_pos shift
  have first : ∀ index < count,index*2^shift < count*2^shift :=
    fun index inside => Nat.mul_lt_mul_of_pos_right inside positive
  have number : ∀ n < count*2^shift,(start+BitVec.ofNat w n).toNat/2^shift = start.toNat/2^shift+n/2^shift :=
    fun n inside => offset_block aligned (by omega)
  refine ⟨by rw [List.length_map,List.length_range],?_,?_⟩
  · apply List.Nodup.map_on _ List.nodup_range
    intro i iInside j jInside same
    have iFirst := first i (List.mem_range.mp iInside)
    have jFirst := first j (List.mem_range.mp jInside)
    rw [apart _ iFirst _ jFirst,number _ iFirst,number _ jFirst,Nat.mul_div_cancel _ positive,
      Nat.mul_div_cancel _ positive] at same
    exact Nat.add_left_cancel same
  · intro seen
    rw [List.mem_map]
    constructor
    · rintro ⟨index,inside,same⟩
      exact ⟨_,first index (List.mem_range.mp inside),same⟩
    · rintro ⟨n,inside,same⟩
      have block : n/2^shift < count := Nat.div_lt_of_lt_mul (by rwa [Nat.mul_comm])
      have start := first _ block
      refine ⟨n/2^shift,List.mem_range.mpr block,?_⟩
      rw [← same,apart _ start _ inside,number _ start,number _ inside,Nat.mul_div_cancel _ positive]

end Walks

end LinuxDeviceDrivers.WordAlignment
