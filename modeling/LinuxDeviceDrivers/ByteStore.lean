import Mathlib.Algebra.GroupWithZero.Nat
import Mathlib.Logic.Function.Basic

namespace LinuxDeviceDrivers.ByteStore

universe u v

section Cells
variable {α : Type u}

-- Flat memory as a function of the address; the length of an object is the
-- business of whoever owns it.
def load (mem : Nat → α) (offset count : Nat) : List α := (List.range count).map fun index => mem (offset+index)

def store (mem : Nat → α) (offset : Nat) (bytes : List α) : Nat → α :=
  fun address => if address < offset then mem address else bytes[address-offset]?.getD (mem address)

variable {mem : Nat → α} {offset count : Nat} {bytes : List α}

@[simp] theorem load_length (mem : Nat → α) (offset count : Nat) : (load mem offset count).length = count := by
  simp [load]

theorem load_add (mem : Nat → α) (offset first second : Nat) :
    load mem offset (first+second) = load mem offset first ++ load mem (offset+first) second := by
  simp only [load,List.range_add,List.map_append,List.map_map,List.append_cancel_left_eq]
  apply List.map_congr_left
  intro index _
  simp [Nat.add_assoc]

theorem load_take (within : first ≤ count) : (load mem offset count).take first = load mem offset first := by
  obtain ⟨second,rfl⟩ := Nat.exists_eq_add_of_le within
  rw [load_add,List.take_left' (load_length mem offset first)]

theorem load_congr {first second : Nat → α}
    (same : ∀ address,offset ≤ address → address < offset+count → first address = second address) :
    load first offset count = load second offset count := by
  apply List.map_congr_left
  intro index member
  have inside := List.mem_range.mp member
  exact same _ (by omega) (by omega)

theorem store_outside (outside : address < offset ∨ offset+bytes.length ≤ address) :
    store mem offset bytes address = mem address := by
  unfold store
  split
  · rfl
  · rename_i above
    rw [List.getElem?_eq_none (by omega)]
    rfl

theorem load_store_disjoint (apart : start+count ≤ offset ∨ offset+bytes.length ≤ start) :
    load (store mem offset bytes) start count = load mem start count := by
  apply List.map_congr_left
  intro index member
  have inside := List.mem_range.mp member
  exact store_outside (by omega)

theorem load_store_same : load (store mem offset bytes) offset bytes.length = bytes := by
  apply List.ext_getElem?
  intro index
  by_cases inside : index < bytes.length
  · simp only [load,store,List.getElem?_map,List.getElem?_range inside,Option.map_some,Nat.add_sub_cancel_left]
    rw [if_neg (by omega),List.getElem?_eq_getElem inside]
    rfl
  · rw [List.getElem?_eq_none (by simp; omega),List.getElem?_eq_none (by omega)]

theorem load_drop (within : first ≤ count) :
    (load mem offset count).drop first = load mem (offset+first) (count-first) := by
  obtain ⟨second,rfl⟩ := Nat.exists_eq_add_of_le within
  rw [load_add,List.drop_left' (load_length mem offset first),Nat.add_sub_cancel_left]

theorem store_load_cell (origin mem : Nat → α) (source target count index : Nat) :
    store mem target (load origin source count) (target+index) = if index < count then origin (source+index) else mem (target+index) := by
  have inside : ¬ target+index < target := by omega
  rw [store,if_neg inside,Nat.add_sub_cancel_left,load,List.getElem?_map]
  split
  · rename_i short
    rw [List.getElem?_range short]
    rfl
  · rename_i beyond
    rw [List.getElem?_eq_none (by simpa using beyond)]
    rfl

@[simp] theorem store_nil (mem : Nat → α) (offset : Nat) : store mem offset [] = mem := by
  funext address
  exact store_outside (by simp only [List.length_nil]; omega)

theorem store_append (mem : Nat → α) (offset : Nat) (first second : List α) :
    store (store mem offset first) (offset+first.length) second = store mem offset (first ++ second) := by
  funext address
  by_cases before : address < offset
  · simp [store,before,show address < offset+first.length by omega]
  · by_cases inside : address < offset+first.length
    · rw [store,if_pos inside,store,store,if_neg before,if_neg before,List.getElem?_append_left (by omega)]
    · have beyond : first[address-offset]? = none := List.getElem?_eq_none (by omega)
      rw [store,if_neg inside,store,if_neg before,beyond,store,if_neg before,List.getElem?_append_right (by omega),
        Nat.sub_sub]
      rfl

theorem store_over (mem : Nat → α) (offset : Nat) (first second : List α) :
    store (store mem offset first) offset second = store mem offset (second ++ first.drop second.length) := by
  funext address
  by_cases before : address < offset
  · simp [store,before]
  · by_cases inside : address-offset < second.length
    · rw [store,store,store,if_neg before,if_neg before,if_neg before,List.getElem?_append_left inside,
        List.getElem?_eq_getElem inside]
      rfl
    · have beyond : second[address-offset]? = none := List.getElem?_eq_none (by omega)
      have later : second.length+(address-offset-second.length) = address-offset := by omega
      rw [store,store,store,if_neg before,if_neg before,if_neg before,beyond,List.getElem?_append_right (by omega),
        List.getElem?_drop,later]
      rfl

theorem store_cell (mem : Nat → α) (offset index : Nat) (bytes : List α) :
    store mem offset bytes (offset+index) = bytes[index]?.getD (mem (offset+index)) := by
  rw [store,if_neg (by omega),Nat.add_sub_cancel_left]

theorem store_cons (mem : Nat → α) (offset : Nat) (cell : α) (rest : List α) :
    store (Function.update mem offset cell) (offset+1) rest = store mem offset (cell :: rest) := by
  have single : Function.update mem offset cell = store mem offset [cell] := by
    funext address
    by_cases here : address = offset
    · simp [here,store]
    · rw [Function.update_of_ne here,store_outside (by simp only [List.length_singleton]; omega)]
  rw [single]
  exact store_append mem offset [cell] rest

def storeWords (width n : Nat) (word : Nat → List α) (mem : Nat → α) : Nat → α :=
  (List.range n).foldl (fun mem i => store mem (width*i) (word i)) mem

theorem load_storeWords {width : Nat} {word : Nat → List α} (wide : ∀ i,(word i).length = width) (n : Nat)
    (mem : Nat → α) : load (storeWords width n word mem) 0 (width*n) = (List.range n).flatMap word := by
  induction n with
  | zero => rfl
  | succ n ih =>
      have last : storeWords width (n+1) word mem = store (storeWords width n word mem) (width*n) (word n) := by
        simp only [storeWords,List.range_succ,List.foldl_append,List.foldl_cons,List.foldl_nil]
      have before : load (store (storeWords width n word mem) (width*n) (word n)) 0 (width*n) =
          load (storeWords width n word mem) 0 (width*n) := load_store_disjoint (.inl (by omega))
      have here : load (store (storeWords width n word mem) (width*n) (word n)) (0+width*n) width = word n := by
        have same : load (store (storeWords width n word mem) (width*n) (word n)) (width*n) (word n).length = word n :=
          load_store_same
        rw [wide n] at same
        rw [Nat.zero_add,same]
      rw [last,Nat.mul_succ,load_add,before,here,ih,List.range_succ,List.flatMap_append]
      simp

theorem load_store_first {first second : List α} : load (store mem offset (first ++ second)) offset first.length = first := by
  rw [← store_append,load_store_disjoint (.inl (Nat.le_refl _)),load_store_same]

theorem load_store_second {first second : List α} :
    load (store mem offset (first ++ second)) (offset+first.length) second.length = second := by
  rw [← store_append,load_store_same]

theorem store_shift (mem : Nat → α) (base offset : Nat) (bytes : List α) :
    (fun index => store mem (base+offset) bytes (base+index)) = store (fun index => mem (base+index)) offset bytes := by
  funext index
  by_cases before : index < offset
  · rw [store,if_pos (by omega),store,if_pos before]
  · rw [store,if_neg (by omega),store,if_neg before,Nat.add_sub_add_left]

-- The log of the writes of a run, the newest first.
structure Write (α : Type u) where
  offset : Nat
  bytes : List α

def Write.covers (write : Write α) (address : Nat) : Bool :=
  decide (write.offset ≤ address ∧ address < write.offset+write.bytes.length)

-- What the newest write that covers an address left there.
def lastWritten (initial : Nat → α) (log : List (Write α)) (address : Nat) : α :=
  match log.find? (·.covers address) with
  | some write => write.bytes[address-write.offset]?.getD (initial address)
  | none => initial address

theorem lastWritten_cons (initial : Nat → α) (write : Write α) (log : List (Write α)) :
    lastWritten initial (write :: log) = store (lastWritten initial log) write.offset write.bytes := by
  funext address
  by_cases inside : write.offset ≤ address ∧ address < write.offset+write.bytes.length
  · have covered : write.covers address = true := decide_eq_true inside
    have written : address-write.offset < write.bytes.length := by omega
    rw [store,if_neg (by omega),lastWritten,List.find?_cons,covered,List.getElem?_eq_getElem written]
    simp [written]
  · have uncovered : write.covers address = false := decide_eq_false inside
    rw [store_outside (by omega),lastWritten,List.find?_cons,uncovered]
    rfl

theorem lastWritten_covered {log : List (Write α)} (first second : Nat → α)
    (covered : ∃ write ∈ log,write.covers address = true) :
    lastWritten first log address = lastWritten second log address := by
  unfold lastWritten
  cases found : log.find? (·.covers address) with
  | none =>
      obtain ⟨write,member,covers⟩ := covered
      exact absurd covers (List.find?_eq_none.mp found write member)
  | some write =>
      have covers := List.find?_some found
      simp only [Write.covers,decide_eq_true_eq] at covers
      have written : address-write.offset < write.bytes.length := by omega
      simp only [List.getElem?_eq_getElem written,Option.getD_some]

theorem lastWritten_uncovered {log : List (Write α)} (initial : Nat → α)
    (uncovered : ¬ ∃ write ∈ log,write.covers address = true) : lastWritten initial log address = initial address := by
  have none : log.find? (·.covers address) = none :=
    List.find?_eq_none.mpr fun write member covers => uncovered ⟨write,member,covers⟩
  rw [lastWritten,none]

end Cells

section Tables
variable {κ : Type u} [DecidableEq κ] {β : Type v} {key : Nat → κ} {value : Nat → β} {table : κ → β}

def assignEach (n : Nat) (key : Nat → κ) (value : Nat → β) (table : κ → β) : κ → β :=
  (List.range n).foldl (fun table i => Function.update table (key i) (value i)) table

theorem assignEach_succ (n : Nat) (key : Nat → κ) (value : Nat → β) (table : κ → β) :
    assignEach (n+1) key value table = Function.update (assignEach n key value table) (key n) (value n) := by
  simp only [assignEach,List.range_succ,List.foldl_append,List.foldl_cons,List.foldl_nil]

theorem assignEach_inside (distinct : ∀ i j,key i = key j → i = j) (inside : i < n) :
    assignEach n key value table (key i) = value i := by
  induction n with
  | zero => omega
  | succ n ih =>
      rw [assignEach_succ]
      by_cases last : i = n
      · rw [last,Function.update_self]
      · rw [Function.update_of_ne (fun same => last (distinct i n same))]
        exact ih (by omega)

theorem assignEach_outside (outside : ∀ i < n,other ≠ key i) : assignEach n key value table other = table other := by
  induction n with
  | zero => rfl
  | succ n ih =>
      rw [assignEach_succ,Function.update_of_ne (outside n (Nat.lt_succ_self n))]
      exact ih fun i inside => outside i (by omega)

end Tables

def littleEndian (bytes : List UInt8) : Nat := bytes.foldr (fun byte high => byte.toNat+256*high) 0

def half (value : Nat) : List UInt8 := [UInt8.ofNat value,UInt8.ofNat (value/256)]

theorem littleEndian_lt (bytes : List UInt8) : littleEndian bytes < 256^bytes.length := by
  induction bytes with
  | nil => exact Nat.one_pos
  | cons byte rest ih =>
      have bound := byte.toNat_lt
      rw [List.length_cons,Nat.pow_succ]
      simp only [littleEndian,List.foldr_cons] at *
      omega

theorem littleEndian_append (low high : List UInt8) :
    littleEndian (low ++ high) = littleEndian low+256^low.length*littleEndian high := by
  induction low with
  | nil => simp [littleEndian]
  | cons byte rest ih =>
      simp only [littleEndian,List.cons_append,List.foldr_cons,List.length_cons,Nat.pow_succ'] at *
      rw [ih,Nat.mul_add,Nat.mul_assoc,Nat.add_assoc]

def bytesOf : Nat → Nat → List UInt8
  | 0,_ => []
  | width+1,value => UInt8.ofNat value :: bytesOf width (value/256)

@[simp] theorem bytesOf_length (width value : Nat) : (bytesOf width value).length = width := by
  induction width generalizing value with
  | zero => rfl
  | succ width ih => simp [bytesOf,ih]

theorem bytesOf_add (low high value : Nat) : bytesOf (low+high) value = bytesOf low value ++ bytesOf high (value/256^low) := by
  induction low generalizing value with
  | zero => simp [bytesOf]
  | succ low ih => rw [Nat.succ_add,bytesOf,bytesOf,ih,Nat.div_div_eq_div_mul,Nat.pow_succ',List.cons_append]

theorem littleEndian_bytesOf (width value : Nat) : littleEndian (bytesOf width value) = value % 256^width := by
  induction width generalizing value with
  | zero => simp [bytesOf,littleEndian,Nat.mod_one]
  | succ width ih =>
      have next : littleEndian (bytesOf (width+1) value) = (UInt8.ofNat value).toNat+256*littleEndian (bytesOf width (value/256)) := rfl
      rw [next,ih,UInt8.toNat_ofNat',Nat.pow_succ' (m:=256),Nat.mod_mul]

theorem half_littleEndian (low high : UInt8) : half (littleEndian [low,high]) = [low,high] := by
  have lowBound := low.toNat_lt
  have highBound := high.toNat_lt
  have value : littleEndian [low,high] = low.toNat+256*high.toNat := by simp [littleEndian]
  have upper : (low.toNat+256*high.toNat)/256 = high.toNat := by omega
  have lower : UInt8.ofNat (low.toNat+256*high.toNat) = low := by
    apply UInt8.toNat_inj.mp
    rw [UInt8.toNat_ofNat']
    omega
  rw [value,half,upper,lower,UInt8.ofNat_toNat]

theorem littleEndian_halves (low high : Nat) (lowBound : low < 65536) (highBound : high < 65536) :
    littleEndian (half low ++ half high) = low+65536*high := by
  simp only [littleEndian,half,List.cons_append,List.nil_append,List.foldr_cons,List.foldr_nil,UInt8.toNat_ofNat']
  omega

end LinuxDeviceDrivers.ByteStore
