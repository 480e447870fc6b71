import LinuxDeviceDrivers.PageMapping

namespace LinuxDeviceDrivers.Mmaper
open PageMapping

def pageSize : Nat := 4096
def len : Nat := 16*1024

def eio : Int := -5
def eagain : Int := -11

-- What mmaper_init leaves: the pointers kmalloc and vmalloc returned (0 for
-- NULL, which it does not notice), and how the kernel translates addresses.
-- kmalloc memory is physically contiguous; the pages of vmalloc memory are
-- different frames anywhere.
structure Kernel where
  kmallocPtr : Nat
  vmallocPtr : Nat
  virtToPhys : Nat → Nat
  vmallocToPfn : Nat → Nat
  pageOffset : ∀ address,virtToPhys address % pageSize = address % pageSize
  contiguous : kmallocPtr ≠ 0 → ∀ offset ≤ len+2*pageSize,
    virtToPhys (kmallocPtr+offset) = virtToPhys kmallocPtr+offset
  aligned : pageSize ∣ vmallocPtr
  distinct : vmallocPtr ≠ 0 → ∀ i j,i*pageSize < len → j*pageSize < len →
    vmallocToPfn (vmallocPtr+i*pageSize) = vmallocToPfn (vmallocPtr+j*pageSize) → i = j

-- mmap_kmalloc_init: (kmalloc_ptr + PAGE_SIZE - 1) & PAGE_MASK.
def kmallocArea (k : Kernel) : Nat := (k.kmallocPtr+pageSize-1)/pageSize*pageSize

structure Vma where
  vmStart : Nat
  vmEnd : Nat
  vmPgoff : Nat
  ordered : vmStart < vmEnd
  startAligned : pageSize ∣ vmStart
  endAligned : pageSize ∣ vmEnd

def Vma.length (vma : Vma) : Nat := vma.vmEnd-vma.vmStart

-- The nth call of remap_pfn_range returns -errno n; one that fails maps nothing.
def remapPfnRange (errno start pfn size : Nat) (mapping : Mapping) : Int × Mapping :=
  (-errno,if errno = 0 then mapRange (start/pageSize) pfn (size/pageSize) mapping else mapping)

def mmapKmalloc (k : Kernel) (errno : Nat → Nat) (vma : Vma) : Int × Mapping :=
  if len*pageSize < vma.length then (eio,unmapped)
  else
    let (ret,mapping) :=
      remapPfnRange (errno 0) vma.vmStart (k.virtToPhys (kmallocArea k)/pageSize) (vma.vmEnd-vma.vmStart) unmapped
    if ret ≠ 0 then (eagain,mapping) else (0,mapping)

-- The loop of mmap_vmem before its nth remap_pfn_range; `none` when the fuel
-- runs out.
def mapVmem (k : Kernel) (errno : Nat → Nat) : Nat → Nat → Int → Nat → Nat → Mapping → Option (Int × Mapping)
  | 0,_,_,_,_,_ => none
  | fuel+1,n,length,start,vmallocAreaPtr,mapping =>
      if length > 0 then
        let (ret,mapping) := remapPfnRange (errno n) start (k.vmallocToPfn vmallocAreaPtr) pageSize mapping
        if ret < 0 then some (ret,mapping)
        else mapVmem k errno fuel (n+1) (length-pageSize) (start+pageSize) (vmallocAreaPtr+pageSize) mapping
      else some (0,mapping)

def mmapVmem (k : Kernel) (errno : Nat → Nat) (vma : Vma) : Option (Int × Mapping) :=
  if len*pageSize < vma.length then some (eio,unmapped)
  else mapVmem k errno (vma.length/pageSize+1) 0 vma.length vma.vmStart k.vmallocPtr unmapped

def mmapprMmap (k : Kernel) (errno : Nat → Nat) (minor : Nat) (vma : Vma) : Option (Int × Mapping) :=
  if minor % 2 = 0 then some (mmapKmalloc k errno vma) else mmapVmem k errno vma

def bufferByte (k : Kernel) (minor n : Nat) : Option Nat :=
  if minor % 2 = 0 then if k.kmallocPtr ≠ 0 ∧ n < len then some (k.virtToPhys (kmallocArea k+n)) else none
  else if k.vmallocPtr ≠ 0 ∧ n < len then
    some (k.vmallocToPfn (k.vmallocPtr+n/pageSize*pageSize)*pageSize+(k.vmallocPtr+n) % pageSize)
  else none

def PastEnd (vma : Vma) : Prop := len < vma.vmPgoff*pageSize+vma.length

-- Offset d of a mapped VMA shows byte vm_pgoff*PAGE_SIZE + d of the buffer, no
-- mapped page shows anything else, and a VMA past the buffer is refused.
structure OwnBuffer (k : Kernel) (minor : Nat) (vma : Vma) (ret : Int) (mapping : Mapping) : Prop where
  shows : ret = 0 → ∀ d < vma.length,∃ address,bufferByte k minor (vma.vmPgoff*pageSize+d) = some address ∧
    physicalAddress pageSize mapping (vma.vmStart+d) = some address
  only : ret = 0 → ∀ page frame,mapping page = some frame →
    ∃ n address,bufferByte k minor n = some address ∧ frame = address/pageSize
  refused : PastEnd vma → ret ≠ 0 ∧ mapping = unmapped

def MapsOwnBuffer (k : Kernel) (errno : Nat → Nat) (minor : Nat) (vma : Vma) : Prop :=
  ∃ ret mapping,mmapprMmap k errno minor vma = some (ret,mapping) ∧ OwnBuffer k minor vma ret mapping

def allocated (k : Kernel) (minor : Nat) : Prop := if minor % 2 = 0 then k.kmallocPtr ≠ 0 else k.vmallocPtr ≠ 0

def remaps (minor : Nat) (vma : Vma) : Nat := if minor % 2 = 0 then 1 else vma.length/pageSize

-- Refused before anything is mapped, by a test in bytes times pages or by the
-- kernel; or on the buffer and refused later; or the start of an allocated one.
def Honoured (k : Kernel) (errno : Nat → Nat) (minor : Nat) (vma : Vma) : Prop :=
  len*pageSize < vma.length ∨ errno 0 ≠ 0 ∨ (¬ PastEnd vma ∧ ∃ call < remaps minor vma,errno call ≠ 0) ∨
    (allocated k minor ∧ vma.vmPgoff = 0 ∧ vma.length ≤ len)

section Pages
variable {k : Kernel} {errno : Nat → Nat} {minor : Nat} {vma : Vma}

def Vma.page (vma : Vma) : Nat := vma.vmStart/pageSize
def Vma.pages (vma : Vma) : Nat := vma.length/pageSize

theorem pageSize_pos : 0 < pageSize := by decide

theorem Vma.start_eq (vma : Vma) : vma.vmStart = vma.page*pageSize := (Nat.div_mul_cancel vma.startAligned).symm

theorem Vma.length_eq (vma : Vma) : vma.length = vma.pages*pageSize :=
  (Nat.div_mul_cancel (Nat.dvd_sub vma.endAligned vma.startAligned)).symm

theorem Vma.pages_pos (vma : Vma) : 0 < vma.pages := by
  have ordered := vma.ordered
  have length := vma.length_eq
  apply Nat.pos_of_ne_zero
  intro none
  rw [none,Nat.zero_mul,Vma.length] at length
  omega

def frames (k : Kernel) (minor index : Nat) : Nat :=
  if minor % 2 = 0 then k.virtToPhys (kmallocArea k)/pageSize+index
  else k.vmallocToPfn (k.vmallocPtr+index*pageSize)

theorem kmallocArea_bounds (k : Kernel) : k.kmallocPtr ≤ kmallocArea k ∧ kmallocArea k < k.kmallocPtr+pageSize := by
  rw [kmallocArea,Nat.mul_comm]
  simp only [pageSize] at *
  omega

theorem kmallocArea_linear (held : k.kmallocPtr ≠ 0) (inside : n ≤ len) :
    k.virtToPhys (kmallocArea k+n) = k.virtToPhys (kmallocArea k)+n := by
  have bounds := kmallocArea_bounds k
  obtain ⟨pad,area⟩ := Nat.exists_eq_add_of_le bounds.1
  rw [area,Nat.add_assoc,k.contiguous held (pad+n) (by omega),k.contiguous held pad (by omega),Nat.add_assoc]

theorem kmallocArea_frame (k : Kernel) :
    k.virtToPhys (kmallocArea k) = k.virtToPhys (kmallocArea k)/pageSize*pageSize := by
  have aligned := k.pageOffset (kmallocArea k)
  rw [kmallocArea,Nat.mul_mod_left,← kmallocArea] at aligned
  exact (Nat.div_mul_cancel (Nat.dvd_of_mod_eq_zero aligned)).symm

theorem bufferByte_frame (held : allocated k minor) (inside : n < len) :
    bufferByte k minor n = some (frames k minor (n/pageSize)*pageSize+n % pageSize) := by
  unfold allocated at held
  unfold bufferByte frames
  by_cases even : minor % 2 = 0
  · rw [if_pos even] at held
    have frame := kmallocArea_frame k
    rw [if_pos even,if_pos even,if_pos ⟨held,inside⟩,kmallocArea_linear held (Nat.le_of_lt inside)]
    congr 1
    simp only [pageSize] at *
    omega
  · rw [if_neg even] at held
    obtain ⟨base,aligned⟩ := k.aligned
    rw [if_neg even,if_neg even,if_pos ⟨held,inside⟩,aligned,Nat.mul_add_mod]

theorem bufferByte_none (free : ¬ allocated k minor) (n : Nat) : bufferByte k minor n = none := by
  unfold allocated at free
  unfold bufferByte
  by_cases even : minor % 2 = 0
  · rw [if_pos even] at free ⊢
    exact if_neg fun held => free held.1
  · rw [if_neg even] at free ⊢
    exact if_neg fun held => free held.1

theorem bufferByte_inside (address : bufferByte k minor n = some found) : n < len := by
  by_contra beyond
  simp [bufferByte,beyond] at address

theorem frames_distinct (held : allocated k minor) (i j : Nat) (first : i*pageSize < len) (second : j*pageSize < len)
    (same : frames k minor i = frames k minor j) : i = j := by
  unfold allocated at held
  unfold frames at same
  by_cases even : minor % 2 = 0
  · rw [if_pos even,if_pos even] at same
    omega
  · rw [if_neg even] at held
    rw [if_neg even,if_neg even] at same
    exact k.distinct held i j first second same

structure Outcome (k : Kernel) (errno : Nat → Nat) (minor : Nat) (vma : Vma) (calls : Nat) (ret : Int)
    (mapping : Mapping) : Prop where
  bounded : calls ≤ remaps minor vma
  clear : ∀ call < calls,errno call = 0
  failed : calls < remaps minor vma → errno calls ≠ 0
  returns : ret = 0 ↔ calls = remaps minor vma
  maps : mapping = mapPages vma.page (calls*(vma.pages/remaps minor vma)) (frames k minor)

theorem mmapKmalloc_outcome (k : Kernel) (errno : Nat → Nat) (even : minor % 2 = 0)
    (admitted : ¬ len*pageSize < vma.length) :
    ∃ calls ret mapping,mmapKmalloc k errno vma = (ret,mapping) ∧ Outcome k errno minor vma calls ret mapping := by
  have once : remaps minor vma = 1 := if_pos even
  have neighbours : frames k minor = fun index => k.virtToPhys (kmallocArea k)/pageSize+index := by
    funext index
    exact if_pos even
  simp only [mmapKmalloc,if_neg admitted,remapPfnRange]
  cases result : errno 0 with
  | zero =>
      refine ⟨1,0,_,rfl,?_,?_,?_,?_,?_⟩
      · exact Nat.le_of_eq once.symm
      · intro call first
        rw [Nat.lt_one_iff.mp first,result]
      · rw [once]
        exact fun absurd => (Nat.lt_irrefl 1 absurd).elim
      · simp [once]
      · rw [once,Nat.div_one,Nat.one_mul,neighbours]
        exact mapRange_unmapped _ _ _
  | succ error =>
      have negative : -((error+1 : Nat) : Int) ≠ 0 := by omega
      refine ⟨0,eagain,unmapped,?_,Nat.zero_le _,by simp,?_,?_,?_⟩
      · simp only [if_neg (Nat.succ_ne_zero error),if_pos negative]
      · intro _
        rw [result]
        exact Nat.succ_ne_zero error
      · simp [once,eagain]
      · rw [Nat.zero_mul,mapPages_zero]

theorem mapVmem_outcome (k : Kernel) (odd : minor % 2 ≠ 0) (fuel n : Nat) (mapped : n ≤ vma.pages)
    (clear : ∀ call < n,errno call = 0) (enough : vma.pages < n+fuel) :
    ∃ calls ret mapping,mapVmem k errno fuel n (vma.length-n*pageSize : Int) (vma.vmStart+n*pageSize)
      (k.vmallocPtr+n*pageSize) (mapPages vma.page n (frames k minor)) = some (ret,mapping) ∧
        Outcome k errno minor vma calls ret mapping := by
  have each : remaps minor vma = vma.pages := if_neg odd
  have single : vma.pages/remaps minor vma = 1 := by rw [each,Nat.div_self vma.pages_pos]
  have length := vma.length_eq
  induction fuel generalizing n with
  | zero => omega
  | succ fuel ih =>
      unfold mapVmem
      by_cases left : n < vma.pages
      · have more : (vma.length : Int)-n*pageSize > 0 := by
          rw [length]
          simp only [pageSize]
          omega
        have page : (vma.vmStart+n*pageSize)/pageSize = vma.page+n := by
          rw [vma.start_eq,← Nat.add_mul,Nat.mul_div_cancel _ pageSize_pos]
        have frame : k.vmallocToPfn (k.vmallocPtr+n*pageSize) = frames k minor n := (if_neg odd).symm
        rw [if_pos more]
        simp only [remapPfnRange,page,frame,Nat.div_self pageSize_pos]
        cases result : errno n with
        | zero =>
            have clear' : ∀ call < n+1,errno call = 0 := by
              intro call before
              cases Nat.lt_succ_iff_lt_or_eq.mp before with
              | inl earlier => exact clear call earlier
              | inr last => rw [last,result]
            have reached := ih (n+1) left clear' (by omega)
            rw [if_neg (by simp),if_pos rfl,mapPages_snoc]
            have cast : (vma.length : Int)-n*pageSize-pageSize = vma.length-(n+1 : Nat)*pageSize := by
              simp only [pageSize]
              omega
            rw [cast,Nat.add_assoc,Nat.add_assoc,← Nat.succ_mul]
            exact reached
        | succ error =>
            have negative : -((error+1 : Nat) : Int) < 0 := by omega
            refine ⟨n,-((error+1 : Nat) : Int),mapPages vma.page n (frames k minor),?_,?_,clear,?_,?_,?_⟩
            · rw [if_pos negative,if_neg (Nat.succ_ne_zero error)]
            · rw [each]
              exact mapped
            · intro _
              rw [result]
              exact Nat.succ_ne_zero error
            · rw [each]
              omega
            · rw [single,Nat.mul_one]
      · have whole : n = vma.pages := by omega
        have done : ¬ (vma.length : Int)-n*pageSize > 0 := by
          rw [length,whole]
          simp only [pageSize]
          omega
        refine ⟨n,0,_,by rw [if_neg done],?_,clear,?_,?_,?_⟩
        · rw [each]
          exact mapped
        · rw [each]
          intro early
          omega
        · rw [each]
          exact iff_of_true rfl whole
        · rw [single,Nat.mul_one]

theorem mmapprMmap_outcome (k : Kernel) (errno : Nat → Nat) (minor : Nat) (vma : Vma)
    (admitted : ¬ len*pageSize < vma.length) :
    ∃ calls ret mapping,mmapprMmap k errno minor vma = some (ret,mapping) ∧
      Outcome k errno minor vma calls ret mapping := by
  unfold mmapprMmap
  by_cases even : minor % 2 = 0
  · obtain ⟨calls,ret,mapping,returned,outcome⟩ := mmapKmalloc_outcome k errno even admitted
    exact ⟨calls,ret,mapping,by rw [if_pos even,returned],outcome⟩
  · have clear : ∀ call < 0,errno call = 0 := fun _ none => absurd none (Nat.not_lt_zero _)
    have reached := mapVmem_outcome k even (vma.pages+1) 0 (Nat.zero_le vma.pages) clear (by omega)
    rw [if_neg even,mmapVmem,if_neg admitted,← Vma.pages]
    simpa [mapPages_zero] using reached

theorem remaps_pos (minor : Nat) (vma : Vma) : 0 < remaps minor vma := by
  unfold remaps
  split
  · exact Nat.one_pos
  · exact vma.pages_pos

theorem remaps_whole (minor : Nat) (vma : Vma) : remaps minor vma*(vma.pages/remaps minor vma) = vma.pages := by
  unfold remaps
  split
  · rw [Nat.div_one,Nat.one_mul]
  · exact (Nat.mul_div_cancel' (Nat.dvd_refl vma.pages))

theorem ownBuffer_refused (failed : ret ≠ 0) : OwnBuffer k minor vma ret unmapped :=
  ⟨fun done => absurd done failed,fun done => absurd done failed,fun _ => ⟨failed,rfl⟩⟩

theorem ownBuffer_failed (failed : ret ≠ 0) (onBuffer : ¬ PastEnd vma) (mapping : Mapping) :
    OwnBuffer k minor vma ret mapping :=
  ⟨fun done => absurd done failed,fun done => absurd done failed,fun past => absurd past onBuffer⟩

theorem Outcome.refused (outcome : Outcome k errno minor vma calls ret mapping) (fails : errno 0 ≠ 0) :
    ret ≠ 0 ∧ mapping = unmapped := by
  have none : calls = 0 := by
    by_contra some
    exact fails (outcome.clear 0 (Nat.pos_of_ne_zero some))
  have positive := remaps_pos minor vma
  refine ⟨?_,by rw [outcome.maps,none,Nat.zero_mul,mapPages_zero]⟩
  intro done
  have all := outcome.returns.mp done
  omega

theorem Outcome.whole (outcome : Outcome k errno minor vma calls ret mapping) (done : ret = 0) :
    mapping = mapPages vma.page vma.pages (frames k minor) := by
  rw [outcome.maps,outcome.returns.mp done,remaps_whole]

theorem start_ownBuffer (held : allocated k minor) (start : vma.vmPgoff = 0) (fits : vma.length ≤ len) (ret : Int) :
    OwnBuffer k minor vma ret (mapPages vma.page vma.pages (frames k minor)) := by
  have length := vma.length_eq
  refine ⟨?_,?_,?_⟩
  · intro _ d inside
    have page : d/pageSize < vma.pages := Nat.div_lt_of_lt_mul (by rw [Nat.mul_comm]; omega)
    have byte := bufferByte_frame held (Nat.lt_of_lt_of_le inside fits)
    rw [start,Nat.zero_mul,Nat.zero_add,vma.start_eq]
    exact ⟨_,byte,physicalAddress_mapPages pageSize_pos page⟩
  · intro _ page frame mapped
    obtain ⟨index,inside,_,rfl⟩ := mapPages_some mapped
    have onBuffer : index*pageSize < len := by
      simp only [pageSize] at *
      omega
    have byte := bufferByte_frame held onBuffer
    rw [Nat.mul_div_cancel _ pageSize_pos,Nat.mul_mod_left,Nat.add_zero] at byte
    exact ⟨_,_,byte,(Nat.mul_div_cancel _ pageSize_pos).symm⟩
  · intro past
    rw [PastEnd,start,Nat.zero_mul,Nat.zero_add] at past
    omega

theorem ownBuffer_start (outcome : Outcome k errno minor vma calls ret mapping) (first : errno 0 = 0)
    (own : OwnBuffer k minor vma ret mapping) (unfailing : ¬ PastEnd vma → ∀ call < remaps minor vma,errno call = 0) :
    allocated k minor ∧ vma.vmPgoff = 0 ∧ vma.length ≤ len := by
  have called : 0 < calls := by
    apply Nat.pos_of_ne_zero
    intro none
    exact outcome.failed (none ▸ remaps_pos minor vma) (none ▸ first)
  have chunk : 0 < vma.pages/remaps minor vma := by
    have whole := remaps_whole minor vma
    have positive := vma.pages_pos
    apply Nat.pos_of_ne_zero
    intro none
    rw [none,Nat.mul_zero] at whole
    omega
  have shown : mapping vma.page = some (frames k minor 0) := by
    rw [outcome.maps]
    exact mapPages_inside (Nat.mul_pos called chunk)
  have onBuffer : ¬ PastEnd vma := by
    intro past
    rw [(own.refused past).2] at shown
    cases shown
  have done : ret = 0 := by
    apply outcome.returns.mpr
    by_contra early
    have bounded := outcome.bounded
    exact outcome.failed (by omega) (unfailing onBuffer calls (by omega))
  have ordered := vma.ordered
  obtain ⟨address,byte,translated⟩ := own.shows done 0 (Nat.sub_pos_of_lt ordered)
  rw [Nat.add_zero] at byte translated
  have held : allocated k minor := by
    by_contra free
    rw [bufferByte_none free] at byte
    cases byte
  have inside := bufferByte_inside byte
  have located := bufferByte_frame held inside
  rw [byte,Nat.mul_div_cancel _ pageSize_pos,Nat.mul_mod_left,Nat.add_zero] at located
  rw [physicalAddress,vma.start_eq,Nat.mul_div_cancel _ pageSize_pos,shown,Nat.mul_mod_left,Option.map_some,
    Nat.add_zero] at translated
  have same : frames k minor vma.vmPgoff*pageSize = frames k minor 0*pageSize :=
    (Option.some.inj located).symm.trans (Option.some.inj translated).symm
  have offset := frames_distinct held vma.vmPgoff 0 inside (by decide) (Nat.eq_of_mul_eq_mul_right pageSize_pos same)
  refine ⟨held,offset,?_⟩
  rw [PastEnd,offset,Nat.zero_mul,Nat.zero_add] at onBuffer
  omega

end Pages

theorem maps_own_buffer_iff (k : Kernel) (errno : Nat → Nat) (minor : Nat) (vma : Vma) :
    MapsOwnBuffer k errno minor vma ↔ Honoured k errno minor vma := by
  by_cases long : len*pageSize < vma.length
  · refine iff_of_true ⟨eio,unmapped,?_,ownBuffer_refused (by decide)⟩ (.inl long)
    by_cases even : minor % 2 = 0
    · simp [mmapprMmap,even,mmapKmalloc,long]
    · simp [mmapprMmap,even,mmapVmem,long]
  · obtain ⟨calls,ret,mapping,returned,outcome⟩ := mmapprMmap_outcome k errno minor vma long
    constructor
    · rintro ⟨ret',mapping',returned',own⟩
      obtain ⟨rfl,rfl⟩ : ret = ret' ∧ mapping = mapping' := by simpa [returned] using returned'
      by_cases first : errno 0 = 0
      · by_cases failing : ¬ PastEnd vma ∧ ∃ call < remaps minor vma,errno call ≠ 0
        · exact .inr (.inr (.inl failing))
        · refine .inr (.inr (.inr (ownBuffer_start outcome first own ?_)))
          intro onBuffer call before
          by_contra fails
          exact failing ⟨onBuffer,call,before,fails⟩
      · exact .inr (.inl first)
    · intro honoured
      refine ⟨ret,mapping,returned,?_⟩
      obtain tooLong | fails | ⟨onBuffer,call,before,fails⟩ | ⟨held,start,fits⟩ := honoured
      · exact absurd tooLong long
      · obtain ⟨failed,rfl⟩ := outcome.refused fails
        exact ownBuffer_refused failed
      · refine ownBuffer_failed ?_ onBuffer mapping
        intro done
        exact fails (outcome.clear call (outcome.returns.mp done ▸ before))
      · by_cases done : ret = 0
        · rw [outcome.whole done]
          exact start_ownBuffer held start fits ret
        · refine ownBuffer_failed done ?_ mapping
          rw [PastEnd,start,Nat.zero_mul,Nat.zero_add]
          omega

def flatKernel : Kernel where
  kmallocPtr := 0x10008
  vmallocPtr := 0x40000
  virtToPhys := id
  vmallocToPfn address := address/pageSize
  pageOffset _ := rfl
  contiguous _ _ _ := rfl
  aligned := ⟨64,rfl⟩
  distinct _ i j _ _ same := by
    simp only [pageSize] at same
    omega

def fivePages : Vma := ⟨0x100000,0x105000,0,by decide,by decide,by decide⟩
def secondPage : Vma := ⟨0x100000,0x101000,1,by decide,by decide,by decide⟩

theorem foreign_page_mapped :
    ¬ MapsOwnBuffer flatKernel (fun _ => 0) 0 fivePages ∧ ¬ MapsOwnBuffer flatKernel (fun _ => 0) 1 secondPage := by
  constructor
  · rintro ⟨ret,mapping,returned,own⟩
    have success : ret = 0 := congrArg Prod.fst (Option.some.inj returned).symm
    exact (own.refused (by unfold PastEnd; decide)).1 success
  · rintro ⟨ret,mapping,returned,own⟩
    have success : ret = 0 := congrArg Prod.fst (Option.some.inj returned).symm
    have mapped : mapping = mapRange 0x100 0x40 1 unmapped := congrArg Prod.snd (Option.some.inj returned).symm
    obtain ⟨address,byte,translated⟩ := own.shows success 0 (by decide)
    rw [← byte,mapped] at translated
    exact absurd translated (by decide)

end LinuxDeviceDrivers.Mmaper
