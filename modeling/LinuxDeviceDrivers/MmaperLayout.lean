import LinuxDeviceDrivers.MmaperLoad
import LinuxDeviceDrivers.WordAlignment

namespace LinuxDeviceDrivers.MmaperLayout
open WordAlignment
open Mmaper (len)

def enomem : Int := -12

-- What the kernel is built for: the w bits of an unsigned long, PAGE_SHIFT, and
-- the struct page of an address of its linear mapping and of vmalloc's range.
structure Platform (w : Nat) (Page : Type) where
  pageShift : Nat
  virtToPage : BitVec w → Page
  vmallocToPage : BitVec w → Page
  wide : 32 ≤ w
  divides : 2^pageShift ∣ len

inductive Call (w : Nat) (Page : Type) where
  | kmalloc (size : BitVec w)
  | vmalloc (size : BitVec w)
  | setPageReserved (page : Page)
  | clearPageReserved (page : Page)
  | store (address : BitVec w) (byte : UInt8)
  | kfree (ptr : BitVec w)
  | vfree (ptr : BitVec w)
deriving DecidableEq

-- virt_addr is a static variable to the kmalloc functions and a local one to the
-- vmalloc functions.
structure Statics (w : Nat) where
  kmallocArea : BitVec w := 0#w
  kmallocPtr : BitVec w := 0#w
  virtAddr : BitVec w := 0#w
  vmallocPtr : BitVec w := 0#w
deriving DecidableEq

structure Trace (w : Nat) (Page : Type) where
  calls : List (Call w Page)
  statics : Statics w
deriving DecidableEq

variable {w : Nat} {Page : Type}

def Platform.pageSize (p : Platform w Page) : BitVec w := 1#w <<< p.pageShift
def Platform.pageMask (p : Platform w Page) : BitVec w := ~~~(p.pageSize-1#w)

def lenWord : BitVec w := BitVec.ofNat w len
def kmallocSize (p : Platform w Page) : BitVec w := lenWord+2#w*p.pageSize
def areaOf (p : Platform w Page) (kmallocPtr : BitVec w) : BitVec w := (kmallocPtr+p.pageSize-1#w) &&& p.pageMask

def stores (area : BitVec w) (bytes : List UInt8) : List (Call w Page) :=
  bytes.zipIdx.map fun (byte,i) => .store (area+BitVec.ofNat w i) byte

def eachPage (p : Platform w Page) (fuel : Nat) (area : BitVec w) : Option (List (BitVec w) × BitVec w) :=
  walkWords p.pageSize (area+lenWord) fuel area

def mmapKmallocInit (p : Platform w Page) (fuel : Nat) (answer : BitVec w) (s : Statics w) :
    Option (Int × Trace w Page) :=
  let allocated := {s with kmallocPtr := answer}
  if answer = 0#w then some (enomem,⟨[.kmalloc (kmallocSize p)],allocated⟩)
  else
    let area := areaOf p answer
    (eachPage p fuel area).map fun (visited,virtAddr) =>
      (0,⟨.kmalloc (kmallocSize p) :: visited.map (fun address => .setPageReserved (p.virtToPage address)) ++
          stores area MmaperLoad.digits,
        {allocated with kmallocArea := area,virtAddr := virtAddr}⟩)

def mmapVmemInit (p : Platform w Page) (fuel : Nat) (answer : BitVec w) (s : Statics w) :
    Option (Int × Trace w Page) :=
  let allocated := {s with vmallocPtr := answer}
  if answer = 0#w then some (enomem,⟨[.vmalloc lenWord],allocated⟩)
  else
    (eachPage p fuel answer).map fun (visited,_) =>
      (0,⟨.vmalloc lenWord :: visited.map (fun address => .setPageReserved (p.vmallocToPage address)) ++
          stores answer MmaperLoad.letters,allocated⟩)

def mmapKmallocCleanup (p : Platform w Page) (fuel : Nat) (s : Statics w) : Option (Trace w Page) :=
  (eachPage p fuel s.kmallocArea).map fun (visited,virtAddr) =>
    ⟨visited.map (fun address => .clearPageReserved (p.virtToPage address)) ++ [.kfree s.kmallocPtr],
      {s with virtAddr := virtAddr}⟩

def mmapVmemCleanup (p : Platform w Page) (fuel : Nat) (s : Statics w) : Option (Trace w Page) :=
  (eachPage p fuel s.vmallocPtr).map fun (visited,_) =>
    ⟨visited.map (fun address => .clearPageReserved (p.vmallocToPage address)) ++ [.vfree s.vmallocPtr],s⟩

-- A block that the kernel handed out: it does not wrap around, and two of its
-- addresses have one struct page just when they are in one page.
structure Allocation (p : Platform w Page) (toPage : BitVec w → Page) (ptr size : BitVec w) : Prop where
  present : ptr ≠ 0#w
  fits : ptr.toNat+size.toNat < 2^w
  pages : ∀ a b : BitVec w,ptr.toNat ≤ a.toNat → a.toNat < ptr.toNat+size.toNat →
    ptr.toNat ≤ b.toNat → b.toNat < ptr.toNat+size.toNat →
    (toPage a = toPage b ↔ a.toNat/2^p.pageShift = b.toNat/2^p.pageShift)

def reserved (calls : List (Call w Page)) : List Page := calls.filterMap fun call => match call with
  | .setPageReserved page => some page
  | _ => none

-- The buffer is LEN bytes of whole pages inside the block, and these pages are
-- the ones reserved, each once.
structure LaidOut (p : Platform w Page) (toPage : BitVec w → Page) (ptr size area : BitVec w) (marked : List Page) :
    Prop where
  aligned : 2^p.pageShift ∣ area.toNat
  starts : ptr.toNat ≤ area.toNat
  ends : area.toNat+len ≤ ptr.toNat+size.toNat
  once : Once toPage area len (len/2^p.pageShift) marked

def KmallocPaired (p : Platform w Page) (fuel : Nat) (s : Statics w) (ptr : BitVec w) : Prop :=
  ∃ made,mmapKmallocInit p fuel ptr s = some (0,made) ∧
    LaidOut p p.virtToPage ptr (kmallocSize p) made.statics.kmallocArea (reserved made.calls) ∧
    ∀ later : Statics w,later.kmallocArea = made.statics.kmallocArea → later.kmallocPtr = made.statics.kmallocPtr →
      ∃ freed,mmapKmallocCleanup p fuel later = some freed ∧
        freed.calls = (reserved made.calls).map .clearPageReserved ++ [.kfree ptr]

def VmallocPaired (p : Platform w Page) (fuel : Nat) (s : Statics w) (ptr : BitVec w) : Prop :=
  ∃ made,mmapVmemInit p fuel ptr s = some (0,made) ∧
    LaidOut p p.vmallocToPage ptr lenWord made.statics.vmallocPtr (reserved made.calls) ∧
    ∀ later : Statics w,later.vmallocPtr = made.statics.vmallocPtr →
      ∃ freed,mmapVmemCleanup p fuel later = some freed ∧
        freed.calls = (reserved made.calls).map .clearPageReserved ++ [.vfree ptr]

section Layout
variable {p : Platform w Page} {toPage : BitVec w → Page} {ptr area : BitVec w} {fuel : Nat}

theorem pageShift_lt (p : Platform w Page) : p.pageShift < w := by
  have power : 2^p.pageShift ∣ 2^14 := p.divides
  have small := (Nat.pow_dvd_pow_iff_le_right (by decide : 1 < 2)).mp power
  have wide := p.wide
  omega

theorem pageSize_toNat (p : Platform w Page) : p.pageSize.toNat = 2^p.pageShift := unit_toNat (pageShift_lt p)

theorem word_le (p : Platform w Page) : 2^32 ≤ 2^w := Nat.pow_le_pow_right (by decide) p.wide

theorem pageBytes_le (p : Platform w Page) : 2^p.pageShift ≤ len := Nat.le_of_dvd (by decide) p.divides

theorem lenWord_toNat (p : Platform w Page) : (lenWord : BitVec w).toNat = len := by
  have wide := word_le p
  have small : len < 2^32 := by decide
  rw [lenWord,BitVec.toNat_ofNat,Nat.mod_eq_of_lt (by omega)]

theorem kmallocSize_toNat (p : Platform w Page) : (kmallocSize p).toNat = len+2*2^p.pageShift := by
  have wide := word_le p
  have small : 3*len < 2^32 := by decide
  have page := pageBytes_le p
  have two : (2#w).toNat = 2 := by rw [BitVec.toNat_ofNat,Nat.mod_eq_of_lt (by omega)]
  rw [kmallocSize,BitVec.toNat_add,BitVec.toNat_mul,two,pageSize_toNat,lenWord_toNat p,Nat.add_mod_mod,
    Nat.mod_eq_of_lt (by omega)]

theorem areaOf_eq (p : Platform w Page) (ptr : BitVec w) : areaOf p ptr = alignUp p.pageShift ptr := rfl

def pageStarts (p : Platform w Page) (area : BitVec w) : List (BitVec w) :=
  (List.range (len/2^p.pageShift)).map fun index => area+BitVec.ofNat w (index*2^p.pageShift)

theorem eachPage_range (fits : area.toNat+len < 2^w) (enough : len/2^p.pageShift < fuel) :
    eachPage p fuel area = some (pageStarts p area,area+lenWord) := by
  have positive : 0 < p.pageSize.toNat := by rw [pageSize_toNat]; exact Nat.two_pow_pos _
  have whole : (area+lenWord).toNat = area.toNat+len/2^p.pageShift*p.pageSize.toNat := by
    rw [pageSize_toNat,Nat.div_mul_cancel p.divides]
    exact offset_toNat fits
  have visited := walkWords_range positive whole enough
  rw [pageSize_toNat] at visited
  exact visited

theorem laidOut {size : BitVec w} (given : Allocation p toPage ptr size) (aligned : 2^p.pageShift ∣ area.toNat)
    (starts : ptr.toNat ≤ area.toNat) (ends : area.toNat+len ≤ ptr.toNat+size.toNat) :
    LaidOut p toPage ptr size area ((pageStarts p area).map toPage) := by
  have whole : len/2^p.pageShift*2^p.pageShift = len := Nat.div_mul_cancel p.divides
  have fits : area.toNat+len < 2^w := Nat.lt_of_le_of_lt ends given.fits
  have within : ∀ n < len,(area+BitVec.ofNat w n).toNat = area.toNat+n := fun n inside => offset_toNat (by omega)
  have apart : ∀ i < len,∀ j < len,
      toPage (area+BitVec.ofNat w i) = toPage (area+BitVec.ofNat w j) ↔
        (area+BitVec.ofNat w i).toNat/2^p.pageShift = (area+BitVec.ofNat w j).toNat/2^p.pageShift := by
    intro i iInside j jInside
    have iWord := within i iInside
    have jWord := within j jInside
    exact given.pages _ _ (by omega) (by omega) (by omega) (by omega)
  refine ⟨aligned,starts,ends,?_⟩
  rw [← whole] at fits apart
  have once := blocks_once aligned fits apart
  rw [whole] at once
  rwa [pageStarts,List.map_map]

theorem reserved_stores (area : BitVec w) (bytes : List UInt8) :
    reserved (stores area bytes : List (Call w Page)) = [] := by
  rw [reserved,stores,List.filterMap_map]
  exact List.filterMap_eq_nil_iff.mpr fun _ _ => rfl

theorem reserved_marks (toPage : BitVec w → Page) (words : List (BitVec w)) :
    reserved (words.map fun address => (Call.setPageReserved (toPage address) : Call w Page)) = words.map toPage := by
  rw [reserved,List.filterMap_map]
  exact congrFun (List.filterMap_eq_map (f:=toPage)) words

theorem reserved_append (first second : List (Call w Page)) :
    reserved (first++second) = reserved first++reserved second := List.filterMap_append

theorem reserved_init (request : Call w Page) (other : reserved [request] = []) (toPage : BitVec w → Page)
    (words : List (BitVec w)) (bytes : List UInt8) :
    reserved (request :: words.map (fun address => .setPageReserved (toPage address)) ++ stores area bytes) =
      words.map toPage := by
  rw [reserved_append,reserved_stores,List.append_nil,← List.singleton_append,reserved_append,other,List.nil_append,
    reserved_marks]

theorem areaOf_bounds (fits : ptr.toNat+(kmallocSize p).toNat < 2^w) :
    2^p.pageShift ∣ (areaOf p ptr).toNat ∧ ptr.toNat ≤ (areaOf p ptr).toNat ∧
      (areaOf p ptr).toNat+len ≤ ptr.toNat+(kmallocSize p).toNat := by
  rw [kmallocSize_toNat] at fits ⊢
  have small := pageShift_lt p
  have room : ptr.toNat+2^p.pageShift ≤ 2^w := by omega
  obtain ⟨above,near⟩ := alignUp_bounds small room
  rw [areaOf_eq]
  exact ⟨alignUp_aligned small room,above,by omega⟩

theorem mmapKmallocInit_null (p : Platform w Page) (fuel : Nat) (s : Statics w) :
    mmapKmallocInit p fuel 0#w s = some (enomem,⟨[.kmalloc (kmallocSize p)],{s with kmallocPtr := 0#w}⟩) := by
  rw [mmapKmallocInit,if_pos rfl]

theorem mmapVmemInit_null (p : Platform w Page) (fuel : Nat) (s : Statics w) :
    mmapVmemInit p fuel 0#w s = some (enomem,⟨[.vmalloc lenWord],{s with vmallocPtr := 0#w}⟩) := by
  rw [mmapVmemInit,if_pos rfl]

theorem mmapKmallocInit_allocated (present : ptr ≠ 0#w) (fits : ptr.toNat+(kmallocSize p).toNat < 2^w)
    (enough : len/2^p.pageShift < fuel) (s : Statics w) :
    mmapKmallocInit p fuel ptr s = some (0,
      ⟨.kmalloc (kmallocSize p) ::
          (pageStarts p (areaOf p ptr)).map (fun address => .setPageReserved (p.virtToPage address)) ++
          stores (areaOf p ptr) MmaperLoad.digits,
        {s with kmallocPtr := ptr,kmallocArea := areaOf p ptr,virtAddr := areaOf p ptr+lenWord}⟩) := by
  obtain ⟨_,_,ends⟩ := areaOf_bounds fits
  rw [mmapKmallocInit,if_neg present]
  dsimp only
  rw [eachPage_range (Nat.lt_of_le_of_lt ends fits) enough]
  rfl

theorem mmapVmemInit_allocated (present : ptr ≠ 0#w) (fits : ptr.toNat+len < 2^w)
    (enough : len/2^p.pageShift < fuel) (s : Statics w) :
    mmapVmemInit p fuel ptr s = some (0,
      ⟨.vmalloc lenWord :: (pageStarts p ptr).map (fun address => .setPageReserved (p.vmallocToPage address)) ++
          stores ptr MmaperLoad.letters,{s with vmallocPtr := ptr}⟩) := by
  rw [mmapVmemInit,if_neg present,eachPage_range fits enough]
  rfl

theorem mmapKmallocCleanup_range {s : Statics w} (fits : s.kmallocArea.toNat+len < 2^w) (enough : len/2^p.pageShift < fuel) :
    mmapKmallocCleanup p fuel s = some
      ⟨((pageStarts p s.kmallocArea).map p.virtToPage).map .clearPageReserved ++ [.kfree s.kmallocPtr],
        {s with virtAddr := s.kmallocArea+lenWord}⟩ := by
  rw [mmapKmallocCleanup,eachPage_range fits enough,List.map_map]
  rfl

theorem mmapVmemCleanup_range {s : Statics w} (fits : s.vmallocPtr.toNat+len < 2^w) (enough : len/2^p.pageShift < fuel) :
    mmapVmemCleanup p fuel s = some
      ⟨((pageStarts p s.vmallocPtr).map p.vmallocToPage).map .clearPageReserved ++ [.vfree s.vmallocPtr],s⟩ := by
  rw [mmapVmemCleanup,eachPage_range fits enough,List.map_map]
  rfl

theorem kmalloc_paired (given : Allocation p p.virtToPage ptr (kmallocSize p)) (enough : len/2^p.pageShift < fuel)
    (s : Statics w) : KmallocPaired p fuel s ptr := by
  obtain ⟨aligned,starts,ends⟩ := areaOf_bounds given.fits
  have fits : (areaOf p ptr).toNat+len < 2^w := Nat.lt_of_le_of_lt ends given.fits
  refine ⟨_,mmapKmallocInit_allocated given.present given.fits enough s,?_,?_⟩
  · rw [reserved_init _ rfl]
    exact laidOut given aligned starts ends
  · intro later sameArea samePtr
    have cleared := mmapKmallocCleanup_range (s:=later) (sameArea ▸ fits) enough
    rw [reserved_init _ rfl]
    exact ⟨_,cleared,by rw [sameArea,samePtr]⟩

theorem vmalloc_paired (given : Allocation p p.vmallocToPage ptr lenWord) (aligned : 2^p.pageShift ∣ ptr.toNat)
    (enough : len/2^p.pageShift < fuel) (s : Statics w) : VmallocPaired p fuel s ptr := by
  have ends : ptr.toNat+len ≤ ptr.toNat+(lenWord : BitVec w).toNat := Nat.le_of_eq (by rw [lenWord_toNat p])
  have fits : ptr.toNat+len < 2^w := Nat.lt_of_le_of_lt ends given.fits
  refine ⟨_,mmapVmemInit_allocated given.present fits enough s,?_,?_⟩
  · rw [reserved_init _ rfl]
    exact laidOut given aligned (Nat.le_refl _) ends
  · intro later same
    have cleared := mmapVmemCleanup_range (s:=later) (same ▸ fits) enough
    rw [reserved_init _ rfl]
    exact ⟨_,cleared,by rw [same]⟩

theorem stores_inside {bytes : List UInt8} (fits : area.toNat+len < 2^w) (short : bytes.length ≤ len)
    (written : Call.store address byte ∈ (stores area bytes : List (Call w Page))) :
    area.toNat ≤ address.toNat ∧ address.toNat < area.toNat+len := by
  obtain ⟨⟨_,i⟩,member,same⟩ := List.mem_map.mp written
  have inside : i < bytes.length := List.snd_lt_of_mem_zipIdx member
  cases same
  rw [offset_toNat (by omega)]
  omega

theorem kmalloc_writes (given : Allocation p p.virtToPage ptr (kmallocSize p)) (enough : len/2^p.pageShift < fuel)
    (result : mmapKmallocInit p fuel ptr s = some (0,made)) (written : .store address byte ∈ made.calls) :
    made.statics.kmallocArea.toNat ≤ address.toNat ∧ address.toNat < made.statics.kmallocArea.toNat+len := by
  obtain ⟨_,_,ends⟩ := areaOf_bounds given.fits
  rw [mmapKmallocInit_allocated given.present given.fits enough] at result
  cases result
  rcases List.mem_append.mp written with early | late
  · simp at early
  · exact stores_inside (Nat.lt_of_le_of_lt ends given.fits) (by decide) late

theorem vmalloc_writes (given : Allocation p p.vmallocToPage ptr lenWord) (enough : len/2^p.pageShift < fuel)
    (result : mmapVmemInit p fuel ptr s = some (0,made)) (written : .store address byte ∈ made.calls) :
    ptr.toNat ≤ address.toNat ∧ address.toNat < ptr.toNat+len := by
  have fits : ptr.toNat+len < 2^w := by simpa only [lenWord_toNat p] using given.fits
  rw [mmapVmemInit_allocated given.present fits enough] at result
  cases result
  rcases List.mem_append.mp written with early | late
  · simp at early
  · exact stores_inside fits (by decide) late

theorem mmapVmemInit_frame {answer : BitVec w} {s : Statics w} {ret : Int} {made : Trace w Page}
    (result : mmapVmemInit p fuel answer s = some (ret,made)) :
    made.statics.kmallocArea = s.kmallocArea ∧ made.statics.kmallocPtr = s.kmallocPtr := by
  unfold mmapVmemInit at result
  split at result
  · cases result
    exact ⟨rfl,rfl⟩
  · obtain ⟨_,_,same⟩ := Option.map_eq_some_iff.mp result
    cases same
    exact ⟨rfl,rfl⟩

theorem mmapKmallocCleanup_frame {s : Statics w} {freed : Trace w Page}
    (result : mmapKmallocCleanup p fuel s = some freed) : freed.statics.vmallocPtr = s.vmallocPtr := by
  obtain ⟨_,_,same⟩ := Option.map_eq_some_iff.mp result
  cases same
  rfl

theorem load_unload {block : BitVec w} (kmalloced : Allocation p p.virtToPage ptr (kmallocSize p))
    (vmalloced : Allocation p p.vmallocToPage block lenWord) (aligned : 2^p.pageShift ∣ block.toNat)
    (enough : len/2^p.pageShift < fuel) (s : Statics w) :
    ∃ first second third fourth,
      mmapKmallocInit p fuel ptr s = some (0,first) ∧ mmapVmemInit p fuel block first.statics = some (0,second) ∧
      mmapKmallocCleanup p fuel second.statics = some third ∧ mmapVmemCleanup p fuel third.statics = some fourth ∧
      third.calls = (reserved first.calls).map .clearPageReserved ++ [.kfree ptr] ∧
      fourth.calls = (reserved second.calls).map .clearPageReserved ++ [.vfree block] := by
  obtain ⟨first,made,_,clears⟩ := kmalloc_paired kmalloced enough s
  obtain ⟨second,mapped,_,unmaps⟩ := vmalloc_paired vmalloced aligned enough first.statics
  obtain ⟨sameArea,samePtr⟩ := mmapVmemInit_frame mapped
  obtain ⟨third,freed,cleared⟩ := clears second.statics sameArea samePtr
  obtain ⟨fourth,unmapped,uncleared⟩ := unmaps third.statics (mmapKmallocCleanup_frame freed)
  exact ⟨first,second,third,fourth,made,mapped,freed,unmapped,cleared,uncleared⟩

theorem areaOf_load (shift : p.pageShift = 12) (fits : ptr.toNat+(kmallocSize p).toNat < 2^w) :
    (areaOf p ptr).toNat = (ptr.toNat+Mmaper.pageSize-1)/Mmaper.pageSize*Mmaper.pageSize := by
  have small := pageShift_lt p
  rw [kmallocSize_toNat] at fits
  rw [areaOf_eq,alignUp_toNat small (by omega),shift]
  rfl

theorem pageStarts_load (shift : p.pageShift = 12) (fits : area.toNat+len < 2^w) :
    MmaperLoad.pages area.toNat = some ((pageStarts p area).map fun address => address.toNat/Mmaper.pageSize) := by
  rw [MmaperLoad.pages_range,pageStarts,List.map_map,shift]
  congr 1
  apply List.map_congr_left
  intro index inside
  have bound : index < len/Mmaper.pageSize := List.mem_range.mp inside
  have offset : index*2^12 < len := by
    have whole : len = len/Mmaper.pageSize*2^12 := rfl
    rw [whole]
    exact Nat.mul_lt_mul_of_pos_right bound (by decide)
  rw [Function.comp,offset_toNat (by omega)]
  rfl

end Layout

theorem buffer_layout (p : Platform w Page) (fuel : Nat) (enough : len/2^p.pageShift < fuel) (s : Statics w) :
    (∀ ptr,Allocation p p.virtToPage ptr (kmallocSize p) → KmallocPaired p fuel s ptr) ∧
    (∀ ptr,Allocation p p.vmallocToPage ptr lenWord → 2^p.pageShift ∣ ptr.toNat → VmallocPaired p fuel s ptr) :=
  ⟨fun _ given => kmalloc_paired given enough s,fun _ given aligned => vmalloc_paired given aligned enough s⟩

def x86 : Platform 64 Nat where
  pageShift := 12
  virtToPage address := (address.toNat-0xFFFF888000000000)/4096
  vmallocToPage address := 0x40000-(address.toNat-0xFFFFC90000000000)/4096
  wide := by decide
  divides := by decide

theorem buffer_layout_x86 :
    KmallocPaired x86 5 {} 0xFFFF888000012340#64 ∧ VmallocPaired x86 5 {} 0xFFFFC90000010000#64 := by
  have layout := buffer_layout x86 5 (by decide) {}
  have linear : Allocation x86 x86.virtToPage 0xFFFF888000012340#64 (kmallocSize x86) := by
    have size : (kmallocSize x86).toNat = 24576 := by decide
    refine ⟨by decide,by decide,?_⟩
    intro a b aAbove aBelow bAbove bBelow
    rw [size] at aBelow bBelow
    rw [BitVec.toNat_ofNat] at aAbove aBelow bAbove bBelow
    show (a.toNat-0xFFFF888000000000)/4096 = (b.toNat-0xFFFF888000000000)/4096 ↔ a.toNat/2^12 = b.toNat/2^12
    omega
  have scattered : Allocation x86 x86.vmallocToPage 0xFFFFC90000010000#64 lenWord := by
    have size : (lenWord : BitVec 64).toNat = 16384 := by decide
    refine ⟨by decide,by decide,?_⟩
    intro a b aAbove aBelow bAbove bBelow
    rw [size] at aBelow bBelow
    rw [BitVec.toNat_ofNat] at aAbove aBelow bAbove bBelow
    show 0x40000-(a.toNat-0xFFFFC90000000000)/4096 = 0x40000-(b.toNat-0xFFFFC90000000000)/4096 ↔
      a.toNat/2^12 = b.toNat/2^12
    omega
  exact ⟨layout.1 _ linear,layout.2 _ scattered (by decide)⟩

end LinuxDeviceDrivers.MmaperLayout
