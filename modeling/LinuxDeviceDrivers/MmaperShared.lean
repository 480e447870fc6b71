import LinuxDeviceDrivers.Mmaper
import LinuxDeviceDrivers.Transition

namespace LinuxDeviceDrivers.MmaperShared
open Transition PageMapping Mmaper

structure Area where
  minor : Nat
  vma : Vma
  mapping : Mapping

-- `memory` is physical memory. `files` are the open files, by the number that
-- private_data points to; `answers` is what loads and reads gave, newest first.
structure System where
  memory : Nat → UInt8
  files : Nat → Option Nat := fun _ => none
  areas : Nat → Option Area := fun _ => none
  lastMinor : Nat := 0
  answers : List (Option (List UInt8)) := []

def mmaperOpen (filp minor : Nat) (s : System) : System :=
  {s with files := Function.update s.files filp (some minor),lastMinor := minor}

def mmaperRelease (filp : Nat) (s : System) : System := {s with files := Function.update s.files filp none}

def mmap (k : Kernel) (errno : Nat → Nat) (area filp : Nat) (vma : Vma) (s : System) : System :=
  match s.files filp with
  | none => s
  | some minor =>
      match mmapprMmap k errno minor vma with
      | some (0,mapping) => {s with areas := Function.update s.areas area (some ⟨minor,vma,mapping⟩)}
      | _ => s

def Area.address (area : Area) (d : Nat) : Option Nat :=
  if d < area.vma.length then physicalAddress pageSize area.mapping (area.vma.vmStart+d) else none

-- What %s prints of a buffer of `fuel` bytes; `none` if it runs past the end.
def cString (cell : Nat → UInt8) : Nat → Nat → Option (List UInt8)
  | 0,_ => none
  | fuel+1,i => if cell i = 0 then some [] else (cString cell fuel (i+1)).map (cell i :: ·)

def printed (cell : Nat → UInt8) (offp : BitVec 64) : Option (List UInt8) :=
  if 0 < (offp.setWidth 32).toInt then some [] else (cString cell len 0).map ([10,32] ++ ·)

def readProc (k : Kernel) (offp : BitVec 64) (s : System) : Option (List UInt8) :=
  printed (fun i => (bufferByte k s.lastMinor i).elim 0 s.memory) offp

inductive Event where
  | opens (filp minor : Nat)
  | closes (filp : Nat)
  | maps (errno : Nat → Nat) (area filp : Nat) (vma : Vma)
  | unmaps (area : Nat)
  | stores (area d : Nat) (byte : UInt8)
  | loads (area d : Nat)
  | reads (offp : BitVec 64)

def machine (k : Kernel) : Machine System Event where
  Allowed _ _ := True
  apply s event := match event with
    | .opens filp minor => mmaperOpen filp minor s
    | .closes filp => mmaperRelease filp s
    | .maps errno area filp vma => mmap k errno area filp vma s
    | .unmaps area => {s with areas := Function.update s.areas area none}
    | .stores area d byte =>
        {s with memory := ((s.areas area).bind (·.address d)).elim s.memory (Function.update s.memory · byte)}
    | .loads area d => {s with answers := ((s.areas area).bind (·.address d)).map (fun address => [s.memory address]) :: s.answers}
    | .reads offp => {s with answers := readProc k offp s :: s.answers}

section Shared

-- Two arrays of bytes, one for the even and one for the odd minor numbers,
-- shared by all who have mapped them.
structure Shared where
  contents : Nat → Nat → UInt8
  files : Nat → Option Nat := fun _ => none
  areas : Nat → Option (Nat × Nat) := fun _ => none
  lastMinor : Nat := 0
  answers : List (Option (List UInt8)) := []

def Shared.place (t : Shared) (area d : Nat) : Option (Nat × Nat) :=
  (t.areas area).bind fun (parity,length) => if d < length then some (parity,d) else none

def Shared.put (t : Shared) (parity n : Nat) (byte : UInt8) : Nat → Nat → UInt8 :=
  Function.update t.contents parity (Function.update (t.contents parity) n byte)

def Shared.map (t : Shared) (errno : Nat → Nat) (area filp : Nat) (vma : Vma) : Shared :=
  match t.files filp with
  | none => t
  | some minor =>
      if ∀ call < remaps minor vma,errno call = 0 then
        {t with areas := Function.update t.areas area (some (minor%2,vma.length))}
      else t

def shared : Machine Shared Event where
  Allowed _ _ := True
  apply t event := match event with
    | .opens filp minor => {t with files := Function.update t.files filp (some minor),lastMinor := minor}
    | .closes filp => {t with files := Function.update t.files filp none}
    | .maps errno area filp vma => t.map errno area filp vma
    | .unmaps area => {t with areas := Function.update t.areas area none}
    | .stores area d byte => {t with contents := (t.place area d).elim t.contents fun (parity,n) => t.put parity n byte}
    | .loads area d => {t with answers := (t.place area d).map (fun (parity,n) => [t.contents parity n]) :: t.answers}
    | .reads offp => {t with answers := printed (t.contents (t.lastMinor%2)) offp :: t.answers}

end Shared

-- No more is mapped than the buffer holds; the driver itself takes 4096 times
-- as much.
def Fits : Event → Prop
  | .maps _ _ _ vma => vma.length ≤ len
  | _ => True

structure Ready (k : Kernel) : Prop where
  kmalloc : allocated k 0
  vmalloc : allocated k 1
  apart : ∀ m n address,bufferByte k 0 m = some address → bufferByte k 1 n ≠ some address

section Buffers
variable {k : Kernel} {minor : Nat}

theorem bufferByte_parity (k : Kernel) (minor n : Nat) : bufferByte k (minor%2) n = bufferByte k minor n := by
  simp only [bufferByte,Nat.mod_mod]

theorem Ready.held (ready : Ready k) (minor : Nat) : allocated k minor := by
  unfold allocated
  split
  · exact ready.kmalloc
  · exact ready.vmalloc

theorem bufferByte_injective (held : allocated k minor) (first : bufferByte k minor m = some address)
    (second : bufferByte k minor n = some address) : m = n := by
  have inside := bufferByte_inside first
  have within := bufferByte_inside second
  rw [bufferByte_frame held inside] at first
  rw [bufferByte_frame held within] at second
  have same : frames k minor (m/pageSize)*pageSize+m%pageSize = frames k minor (n/pageSize)*pageSize+n%pageSize :=
    Option.some.inj (first.trans second.symm)
  have offset : m%pageSize = n%pageSize := by
    have taken := congrArg (·%pageSize) same
    simpa using taken
  have frame : frames k minor (m/pageSize) = frames k minor (n/pageSize) := by
    rw [offset] at same
    exact Nat.eq_of_mul_eq_mul_right pageSize_pos (Nat.add_right_cancel same)
  have page := frames_distinct held (m/pageSize) (n/pageSize) (Nat.lt_of_le_of_lt (Nat.div_mul_le_self m pageSize) inside)
    (Nat.lt_of_le_of_lt (Nat.div_mul_le_self n pageSize) within) frame
  rw [← Nat.div_add_mod m pageSize,← Nat.div_add_mod n pageSize,page,offset]

theorem Ready.distinct (ready : Ready k) {parity other : Nat} (two : parity < 2) (both : other < 2)
    (first : bufferByte k parity m = some address) (second : bufferByte k other n = some address) : parity = other ∧ m = n := by
  rcases Nat.lt_or_ge parity 1 with zero | one
  · obtain rfl : parity = 0 := by omega
    rcases Nat.lt_or_ge other 1 with zero | one
    · obtain rfl : other = 0 := by omega
      exact ⟨rfl,bufferByte_injective ready.kmalloc first second⟩
    · obtain rfl : other = 1 := by omega
      exact absurd second (ready.apart m n address first)
  · obtain rfl : parity = 1 := by omega
    rcases Nat.lt_or_ge other 1 with zero | one
    · obtain rfl : other = 0 := by omega
      exact absurd first (ready.apart n m address second)
    · obtain rfl : other = 1 := by omega
      exact ⟨rfl,bufferByte_injective ready.vmalloc first second⟩

theorem cString_congr {cell other : Nat → UInt8} (fuel i : Nat) (same : ∀ j < i+fuel,cell j = other j) :
    cString cell fuel i = cString other fuel i := by
  induction fuel generalizing i with
  | zero => rfl
  | succ fuel ih =>
      rw [cString,cString,same i (by omega),ih (i+1) fun j inside => same j (by omega)]

end Buffers

section Mapping
variable {k : Kernel} {errno : Nat → Nat} {minor : Nat} {vma : Vma}

def mapped (k : Kernel) (minor : Nat) (vma : Vma) : Area := ⟨minor,vma,mapPages vma.page vma.pages (frames k minor)⟩

theorem mapped_address (held : allocated k minor) (fits : vma.length ≤ len) (inside : d < vma.length) :
    (mapped k minor vma).address d = bufferByte k minor d := by
  have length := vma.length_eq
  have page : d/pageSize < vma.pages := Nat.div_lt_of_lt_mul (by rw [Nat.mul_comm]; omega)
  have within : (mapped k minor vma).address d = physicalAddress pageSize (mapPages vma.page vma.pages (frames k minor)) (vma.vmStart+d) :=
    if_pos inside
  rw [within,bufferByte_frame held (Nat.lt_of_lt_of_le inside fits),vma.start_eq]
  exact physicalAddress_mapPages pageSize_pos page

theorem mmap_fits {s : System} {area filp : Nat} (file : s.files filp = some minor) (fits : vma.length ≤ len) :
    mmap k errno area filp vma s =
      if ∀ call < remaps minor vma,errno call = 0 then
        {s with areas := Function.update s.areas area (some (mapped k minor vma))}
      else s := by
  have admitted : ¬ len*pageSize < vma.length := by
    have positive := pageSize_pos
    have more := Nat.le_mul_of_pos_right len positive
    omega
  obtain ⟨calls,ret,mapping,returned,outcome⟩ := mmapprMmap_outcome k errno minor vma admitted
  have success : ret = 0 ↔ ∀ call < remaps minor vma,errno call = 0 := by
    rw [outcome.returns]
    constructor
    · intro all call before
      exact outcome.clear call (by omega)
    · intro clear
      by_contra fewer
      have bounded := outcome.bounded
      exact outcome.failed (by omega) (clear calls (by omega))
  simp only [mmap,file,returned]
  by_cases done : ret = 0
  · have clear := success.mp done
    subst done
    rw [if_pos clear,outcome.whole rfl]
    rfl
  · have fails : ¬ ∀ call < remaps minor vma,errno call = 0 := fun clear => done (success.mpr clear)
    rw [if_neg fails]
    split
    · rename_i zero
      simp only [Option.some.injEq,Prod.mk.injEq] at zero
      exact absurd zero.1 done
    · rfl

end Mapping

structure Related (k : Kernel) (s : System) (t : Shared) : Prop where
  files : t.files = s.files
  lastMinor : t.lastMinor = s.lastMinor
  answers : t.answers = s.answers
  areas : ∀ id,t.areas id = (s.areas id).map fun area => (area.minor%2,area.vma.length)
  shows : ∀ id area,s.areas id = some area → ∀ d < area.vma.length,d < len ∧ area.address d = bufferByte k (area.minor%2) d
  contents : ∀ parity < 2,∀ n address,bufferByte k parity n = some address → s.memory address = t.contents parity n

section Steps
variable {k : Kernel} {s : System} {t : Shared}

theorem buffer_some (ready : Ready k) (minor : Nat) (inside : n < len) : ∃ address,bufferByte k minor n = some address :=
  ⟨_,bufferByte_frame (ready.held minor) inside⟩

theorem Related.access (related : Related k s t) (ready : Ready k) (id d : Nat) :
    ((s.areas id).bind (·.address d) = none ∧ t.place id d = none) ∨
    ∃ parity n address,parity < 2 ∧ bufferByte k parity n = some address ∧
      (s.areas id).bind (·.address d) = some address ∧ t.place id d = some (parity,n) := by
  have same := related.areas id
  cases found : s.areas id with
  | none =>
      rw [found] at same
      exact .inl ⟨rfl,by simp [Shared.place,same]⟩
  | some area =>
      rw [found] at same
      by_cases inside : d < area.vma.length
      · obtain ⟨within,shown⟩ := related.shows id area found d inside
        obtain ⟨address,byte⟩ := buffer_some ready (area.minor%2) within
        exact .inr ⟨area.minor%2,d,address,Nat.mod_lt _ (by decide),byte,shown.trans byte,by simp [Shared.place,same,inside]⟩
      · exact .inl ⟨if_neg inside,by simp [Shared.place,same,inside]⟩

theorem stores_related (related : Related k s t) (ready : Ready k) (id d : Nat) (byte : UInt8) :
    Related k ((machine k).apply s (.stores id d byte)) (shared.apply t (.stores id d byte)) := by
  rcases related.access ready id d with ⟨fault,nowhere⟩ | ⟨parity,n,address,two,place,hit,meant⟩
  · have kept : (machine k).apply s (.stores id d byte) = s := by simp only [machine,fault]; rfl
    have same : shared.apply t (.stores id d byte) = t := by simp only [shared,nowhere]; rfl
    rw [kept,same]
    exact related
  · have written : (machine k).apply s (.stores id d byte) = {s with memory := Function.update s.memory address byte} := by
      simp only [machine,hit]
      rfl
    have put : shared.apply t (.stores id d byte) = {t with contents := t.put parity n byte} := by
      simp only [shared,meant]
      rfl
    rw [written,put]
    refine ⟨related.files,related.lastMinor,related.answers,related.areas,related.shows,?_⟩
    intro other both m elsewhere located
    change Function.update s.memory address byte elsewhere = t.put parity n byte other m
    by_cases here : elsewhere = address
    · subst here
      obtain ⟨rfl,rfl⟩ := ready.distinct both two located place
      simp [Shared.put]
    · have apart : ¬ (other = parity ∧ m = n) := by
        rintro ⟨rfl,rfl⟩
        exact here (Option.some.inj (located.symm.trans place))
      rw [Function.update_of_ne here,related.contents other both m elsewhere located,Shared.put]
      by_cases array : other = parity
      · subst array
        have cell : m ≠ n := fun same => apart ⟨rfl,same⟩
        rw [Function.update_self,Function.update_of_ne cell]
      · rw [Function.update_of_ne array]

theorem reads_same (related : Related k s t) (ready : Ready k) (offp : BitVec 64) :
    readProc k offp s = printed (t.contents (t.lastMinor%2)) offp := by
  have cells : cString (fun i => (bufferByte k s.lastMinor i).elim 0 s.memory) len 0 =
      cString (t.contents (t.lastMinor%2)) len 0 := by
    refine cString_congr len 0 fun i inside => ?_
    rw [Nat.zero_add] at inside
    obtain ⟨address,byte⟩ := buffer_some ready s.lastMinor inside
    have array := related.contents (s.lastMinor%2) (Nat.mod_lt _ (by decide)) i address (by rw [bufferByte_parity,byte])
    rw [byte,related.lastMinor]
    exact array
  rw [readProc,printed,printed,cells]

theorem maps_related (related : Related k s t) (ready : Ready k) (errno : Nat → Nat) (id filp : Nat) (vma : Vma)
    (fits : vma.length ≤ len) : Related k (mmap k errno id filp vma s) (t.map errno id filp vma) := by
  cases file : s.files filp with
  | none =>
      have kept : mmap k errno id filp vma s = s := by simp only [mmap,file]
      have same : t.map errno id filp vma = t := by simp only [Shared.map,related.files,file]
      rw [kept,same]
      exact related
  | some minor =>
      rw [mmap_fits file fits]
      simp only [Shared.map,related.files,file]
      split
      · refine ⟨rfl,related.lastMinor,related.answers,?_,?_,related.contents⟩
        · intro other
          change Function.update t.areas id (some (minor%2,vma.length)) other = (Function.update s.areas id (some (mapped k minor vma)) other).map _
          by_cases here : other = id
          · subst here
            rw [Function.update_self,Function.update_self]
            rfl
          · rw [Function.update_of_ne here,Function.update_of_ne here]
            exact related.areas other
        · intro other area found d inside
          change Function.update s.areas id (some (mapped k minor vma)) other = some area at found
          by_cases here : other = id
          · subst here
            rw [Function.update_self] at found
            obtain rfl := Option.some.inj found
            refine ⟨Nat.lt_of_lt_of_le inside fits,?_⟩
            rw [mapped_address (ready.held minor) fits inside]
            exact (bufferByte_parity k minor d).symm
          · rw [Function.update_of_ne here] at found
            exact related.shows other area found d inside
      · exact related

theorem apply_related (s : System) (t : Shared) (event : Event) (ready : Ready k) (related : Related k s t) (fits : Fits event) :
    Related k ((machine k).apply s event) (shared.apply t event) := by
  obtain ⟨files,lastMinor,answers,areas,shows,contents⟩ := related
  cases event with
  | opens filp minor =>
      have opened : Function.update t.files filp (some minor) = Function.update s.files filp (some minor) := by rw [files]
      exact ⟨opened,rfl,answers,areas,shows,contents⟩
  | closes filp =>
      have closed : Function.update t.files filp none = Function.update s.files filp none := by rw [files]
      exact ⟨closed,lastMinor,answers,areas,shows,contents⟩
  | maps errno id filp vma => exact maps_related ⟨files,lastMinor,answers,areas,shows,contents⟩ ready errno id filp vma fits
  | unmaps id =>
      refine ⟨files,lastMinor,answers,?_,?_,contents⟩
      · intro other
        change Function.update t.areas id none other = (Function.update s.areas id none other).map _
        by_cases here : other = id
        · subst here
          rw [Function.update_self,Function.update_self]
          rfl
        · rw [Function.update_of_ne here,Function.update_of_ne here]
          exact areas other
      · intro other area found
        change Function.update s.areas id none other = some area at found
        by_cases here : other = id
        · subst here
          rw [Function.update_self] at found
          cases found
        · rw [Function.update_of_ne here] at found
          exact shows other area found
  | stores id d byte => exact stores_related ⟨files,lastMinor,answers,areas,shows,contents⟩ ready id d byte
  | loads id d =>
      refine ⟨files,lastMinor,?_,areas,shows,contents⟩
      have related : Related k s t := ⟨files,lastMinor,answers,areas,shows,contents⟩
      change (t.place id d).map (fun (parity,n) => [t.contents parity n]) :: t.answers =
        ((s.areas id).bind (·.address d)).map (fun address => [s.memory address]) :: s.answers
      rcases related.access ready id d with ⟨fault,nowhere⟩ | ⟨parity,n,address,two,place,hit,meant⟩
      · rw [fault,nowhere,answers]
        rfl
      · rw [hit,meant,answers,Option.map_some,Option.map_some,contents parity two n address place]
  | reads offp =>
      refine ⟨files,lastMinor,?_,areas,shows,contents⟩
      have same := reads_same ⟨files,lastMinor,answers,areas,shows,contents⟩ ready offp
      exact congrArg₂ List.cons same.symm answers

end Steps

theorem flatKernel_ready : Ready flatKernel := by
  refine ⟨show flatKernel.kmallocPtr ≠ 0 by decide,show flatKernel.vmallocPtr ≠ 0 by decide,?_⟩
  intro m n address even odd
  have first := bufferByte_inside even
  have area : kmallocArea flatKernel = 0x11000 := by decide
  have low : bufferByte flatKernel 0 m = some (0x11000+m) := by
    rw [bufferByte,if_pos rfl,if_pos ⟨by decide,first⟩,area]
    rfl
  have second := bufferByte_inside odd
  have high : bufferByte flatKernel 1 n = some ((0x40000+n/pageSize*pageSize)/pageSize*pageSize+(0x40000+n)%pageSize) := by
    rw [bufferByte,if_neg (by decide),if_pos ⟨by decide,second⟩]
    rfl
  rw [low] at even
  rw [high] at odd
  simp only [len,pageSize,Option.some.injEq] at *
  omega

theorem onePage_ordered : 0x100000 < 0x101000 := by decide

theorem twoPages_ordered : 0x700000 < 0x702000 := by decide

def onePage : Vma := ⟨0x100000,0x101000,0,onePage_ordered,⟨0x100,rfl⟩,⟨0x101,rfl⟩⟩
def twoPages : Vma := ⟨0x700000,0x702000,0,twoPages_ordered,⟨0x700,rfl⟩,⟨0x702,rfl⟩⟩

def twoProcesses : List Event :=
  [.opens 1 0,.maps (fun _ => 0) 1 1 onePage,
   .opens 2 2,.maps (fun _ => 0) 2 2 twoPages,.closes 1,
   .stores 1 0 72,.stores 2 1 105,.loads 1 1,.loads 1 4096,.reads 0#64,.opens 3 1,.reads 0#64]

end LinuxDeviceDrivers.MmaperShared
