import LinuxDeviceDrivers.ByteStore
import LinuxDeviceDrivers.Mmaper
import LinuxDeviceDrivers.ResourceLedger
import LinuxDeviceDrivers.Transition

namespace LinuxDeviceDrivers.MmaperLoad
open Transition ByteStore PageMapping ResourceLedger Ledger Mmaper

def minors : Nat := 3

-- Pages are named by their number in the area they are mapped in.
inductive Resource where
  | region (dev count : Nat)
  | cdev (cdev : Nat)
  | cls (cls : Nat)
  | device (dev : Nat)
  | procEntry
  | kmalloc (ptr : Nat)
  | vmalloc (ptr : Nat)
  | kmallocReserved (page : Nat)
  | vmallocReserved (page : Nat)
deriving DecidableEq

-- The static variables of the module, which a load finds zeroed. The bytes are
-- those from kmalloc_area and from vmalloc_ptr on.
structure Statics where
  dev : Nat := 0
  mmaperCdev : Nat := 0
  mmaperClass : Nat := 0
  kmallocPtr : Nat := 0
  kmallocArea : Nat := 0
  vmallocPtr : Nat := 0
  kmallocBytes : Nat → UInt8 := fun _ => 0
  vmallocBytes : Nat → UInt8 := fun _ => 0

inductive Phase where
  | unloaded
  | loaded
  | oopsed
  | hung
deriving DecidableEq

structure System where
  ledger : Ledger Resource := {}
  statics : Statics := {}
  phase : Phase := .unloaded

-- The outcome of each kernel call. An allocation that succeeds returns memory
-- with any contents, vmalloc's from a page boundary on.
structure LoadAnswer where
  dev : Option Nat := some 0
  cdev : Option Nat := some 0
  cdevAdd : Bool := true
  cls : Option Nat := some 0
  device : Bool := true
  procEntry : Bool := true
  kmallocPtr : Nat
  vmallocPage : Nat
  kmallocBytes : Nat → UInt8
  vmallocBytes : Nat → UInt8

def acquires (resource : Resource) (s : System) : System := {s with ledger := acquire resource s.ledger}
def releases (resource : Resource) (s : System) : System := {s with ledger := release resource s.ledger}

def allocChrdevRegion (dev count : Nat) (s : System) : System :=
  {s with ledger := acquire (.region dev count) s.ledger,statics := {s.statics with dev := dev}}

-- The kernel removes the region whose first number and size both match, if any.
def unregisterChrdevRegion (dev count : Nat) (s : System) : System :=
  if .region dev count ∈ s.ledger.held then releases (.region dev count) s else s

-- device_destroy looks the device up and passes over one that is not there.
def deviceDestroy (dev : Nat) (s : System) : System :=
  if .device dev ∈ s.ledger.held then releases (.device dev) s else s

def pages (start : Nat) : Option (List Nat) :=
  (walk pageSize (len/pageSize+1) start (start+len)).map (·.map (·/pageSize))

def digits : List UInt8 := (List.range 10).map fun i => UInt8.ofNat (48+i)
def letters : List UInt8 := (List.range 26).map fun i => UInt8.ofNat (97+i)

def mmapKmallocInit (answer : LoadAnswer) (s : System) : System :=
  if answer.kmallocPtr = 0 then s
  else
    let area := (answer.kmallocPtr+pageSize-1)/pageSize*pageSize
    let allocated := acquires (.kmalloc answer.kmallocPtr) s
    match pages area with
    | none => {allocated with phase := .hung}
    | some marked => {allocated with
        ledger := acquireAll (marked.map .kmallocReserved) allocated.ledger
        statics := {s.statics with
          kmallocPtr := answer.kmallocPtr
          kmallocArea := area
          kmallocBytes := store answer.kmallocBytes 0 digits}}

def mmapVmemInit (answer : LoadAnswer) (s : System) : System :=
  if answer.vmallocPage = 0 then s
  else
    let vmallocPtr := answer.vmallocPage*pageSize
    let allocated := acquires (.vmalloc vmallocPtr) s
    match pages vmallocPtr with
    | none => {allocated with phase := .hung}
    | some marked => {allocated with
        ledger := acquireAll (marked.map .vmallocReserved) allocated.ledger
        statics := {s.statics with
          vmallocPtr := vmallocPtr
          vmallocBytes := store answer.vmallocBytes 0 letters}}

def mmapKmallocCleanup (s : System) : System :=
  match pages s.statics.kmallocArea with
  | none => {s with phase := .hung}
  | some marked =>
      let cleared := {s with ledger := releaseAll (marked.map .kmallocReserved) s.ledger}
      if s.statics.kmallocPtr = 0 then cleared else releases (.kmalloc s.statics.kmallocPtr) cleared

def mmapVmemCleanup (s : System) : System :=
  match pages s.statics.vmallocPtr with
  | none => {s with phase := .hung}
  | some marked =>
      let cleared := {s with ledger := releaseAll (marked.map .vmallocReserved) s.ledger}
      if s.statics.vmallocPtr = 0 then cleared else releases (.vmalloc s.statics.vmallocPtr) cleared

-- The results of device_create, mmap_kmalloc_init and mmap_vmem_init are not
-- looked at, and cdev_init writes through what cdev_alloc returned.
def mmaperInit (answer : LoadAnswer) (before : System) : System :=
  let s := {before with statics := {}}
  match answer.dev with
  | none => s
  | some dev =>
      let numbered := allocChrdevRegion dev minors s
      match answer.cdev with
      | none => {numbered with phase := .oopsed}
      | some cdev =>
          let initialised := acquires (.cdev cdev) numbered
          if answer.cdevAdd then
            match answer.cls with
            | none => unregisterChrdevRegion dev 1 (releases (.cdev cdev) initialised)
            | some cls =>
                let classed := acquires (.cls cls) initialised
                let created := if answer.device then acquires (.device dev) classed else classed
                if answer.procEntry then
                  let ready := {acquires .procEntry created with
                    phase := .loaded
                    statics := {created.statics with mmaperCdev := cdev,mmaperClass := cls}}
                  mmapVmemInit answer (mmapKmallocInit answer ready)
                else deviceDestroy dev (unregisterChrdevRegion dev 1 (releases (.cdev cdev) created))
          else unregisterChrdevRegion dev 1 initialised

def mmaperCleanup (before : System) : System :=
  let s := {before with phase := .unloaded}
  let unclassed := releases (.cls s.statics.mmaperClass) (deviceDestroy s.statics.dev (releases (.cdev s.statics.mmaperCdev) s))
  mmapVmemCleanup (mmapKmallocCleanup (releases .procEntry (unregisterChrdevRegion s.statics.dev 1 unclassed)))

inductive Event where
  | loads (answer : LoadAnswer)
  | unloads

def machine : Machine System Event where
  Allowed s event := match event with
    | .loads _ => s.phase = .unloaded
    | .unloads => s.phase = .loaded
  apply s event := match event with
    | .loads answer => mmaperInit answer s
    | .unloads => mmaperCleanup s

instance decidableAllowed : ∀ s event,Decidable (machine.Allowed s event)
  | s,.loads _ => inferInstanceAs (Decidable (s.phase = .unloaded))
  | s,.unloads => inferInstanceAs (Decidable (s.phase = .loaded))

-- What the mappings, read_proc and the clean-up rely on: the pages they touch
-- are allocated and reserved, and the text that read_proc prints ends.
structure KmallocUsable (s : System) : Prop where
  allocated : .kmalloc s.statics.kmallocPtr ∈ s.ledger.held
  area : s.statics.kmallocPtr ≤ s.statics.kmallocArea ∧
    s.statics.kmallocArea+len ≤ s.statics.kmallocPtr+(len+2*pageSize)
  reserved : ∀ n < len,.kmallocReserved ((s.statics.kmallocArea+n)/pageSize) ∈ s.ledger.held
  text : ∃ n < len,s.statics.kmallocBytes n = 0

structure VmallocUsable (s : System) : Prop where
  allocated : .vmalloc s.statics.vmallocPtr ∈ s.ledger.held
  reserved : ∀ n < len,.vmallocReserved ((s.statics.vmallocPtr+n)/pageSize) ∈ s.ledger.held
  text : ∃ n < len,s.statics.vmallocBytes n = 0

structure Usable (s : System) : Prop where
  kmalloc : KmallocUsable s
  vmalloc : VmallocUsable s

-- `unloaded` is the state after a load that failed and after the clean-up.
structure Balanced (s : System) : Prop where
  usable : s.phase = .loaded → Usable s
  returned : s.phase = .unloaded → s.ledger.held = []
  owned : s.ledger.strays = []
  survives : s.phase ≠ .oopsed
  returns : s.phase ≠ .hung

def Terminated (bytes : Nat → UInt8) (count : Nat) : Prop := ∃ n < len,count ≤ n ∧ bytes n = 0

structure Filled (answer : LoadAnswer) : Prop where
  kmalloc : answer.kmallocPtr ≠ 0 ∧ Terminated answer.kmallocBytes 10
  vmalloc : answer.vmallocPage ≠ 0 ∧ Terminated answer.vmallocBytes 26

-- A load gets no device numbers or all that it needs, and the module stays loaded.
def Clean : Event → Prop
  | .loads answer => answer.dev ≠ none → answer.cdev ≠ none ∧
      (answer.cdevAdd = true ∧ answer.cls ≠ none ∧ answer.procEntry = true) ∧ Filled answer
  | .unloads => False

section Buffers
variable {answer : LoadAnswer} {s : System}

theorem pages_range (start : Nat) :
    pages start = some ((List.range (len/pageSize)).map fun index => (start+index*pageSize)/pageSize) := by
  have visited := walk_range pageSize_pos (Nat.lt_succ_self (len/pageSize)) start
  have whole : len/pageSize*pageSize = len := rfl
  rw [whole] at visited
  rw [pages,visited,Option.map_some,List.map_map]
  rfl

theorem pages_cover (aligned : pageSize ∣ start) (visited : pages start = some marked) (inside : n < len) :
    (start+n)/pageSize ∈ marked := by
  obtain ⟨page,rfl⟩ := aligned
  rw [pages_range] at visited
  cases visited
  refine List.mem_map.mpr ⟨n/pageSize,List.mem_range.mpr ?_,?_⟩
  · exact Nat.div_lt_of_lt_mul (by simpa [len,pageSize] using inside)
  · rw [Nat.mul_add_div pageSize_pos page n,Nat.mul_comm (n/pageSize),Nat.mul_add_div pageSize_pos page,
      Nat.mul_div_cancel_left _ pageSize_pos]

theorem printed_nonzero (first count : Nat) (positive : 0 < first) (within : first+count ≤ 256) :
    ∀ byte ∈ (List.range count).map fun i => UInt8.ofNat (first+i),byte ≠ 0 := by
  intro byte member null
  obtain ⟨i,inside,rfl⟩ := List.mem_map.mp member
  have value := congrArg UInt8.toNat null
  rw [UInt8.toNat_ofNat',UInt8.toNat_zero] at value
  have bound := List.mem_range.mp inside
  omega

theorem terminated_store {bytes : List UInt8} (memory : Nat → UInt8) (letters : ∀ byte ∈ bytes,byte ≠ 0) :
    (∃ n < len,store memory 0 bytes n = 0) ↔ Terminated memory bytes.length := by
  constructor
  · rintro ⟨n,inside,null⟩
    by_cases written : n < bytes.length
    · have value : store memory 0 bytes n = bytes[n] := by simp [store,written]
      exact absurd (value ▸ null) (letters _ (List.getElem_mem written))
    · rw [store_outside (by omega)] at null
      exact ⟨n,inside,Nat.le_of_not_lt written,null⟩
  · rintro ⟨n,inside,beyond,null⟩
    exact ⟨n,inside,by rw [store_outside (by omega),null]⟩

theorem mmapKmallocInit_null (null : answer.kmallocPtr = 0) (s : System) : mmapKmallocInit answer s = s := if_pos null

theorem mmapKmallocInit_allocated (allocated : answer.kmallocPtr ≠ 0) (s : System) :
    ∃ marked,pages ((answer.kmallocPtr+pageSize-1)/pageSize*pageSize) = some marked ∧
      mmapKmallocInit answer s = {s with
        ledger := acquireAll (marked.map .kmallocReserved) (acquire (.kmalloc answer.kmallocPtr) s.ledger)
        statics := {s.statics with
          kmallocPtr := answer.kmallocPtr
          kmallocArea := (answer.kmallocPtr+pageSize-1)/pageSize*pageSize
          kmallocBytes := store answer.kmallocBytes 0 digits}} := by
  refine ⟨_,pages_range _,?_⟩
  simp only [mmapKmallocInit,if_neg allocated,pages_range]
  rfl

theorem mmapVmemInit_null (null : answer.vmallocPage = 0) (s : System) : mmapVmemInit answer s = s := if_pos null

theorem mmapVmemInit_allocated (allocated : answer.vmallocPage ≠ 0) (s : System) :
    ∃ marked,pages (answer.vmallocPage*pageSize) = some marked ∧ mmapVmemInit answer s = {s with
      ledger := acquireAll (marked.map .vmallocReserved) (acquire (.vmalloc (answer.vmallocPage*pageSize)) s.ledger)
      statics := {s.statics with
        vmallocPtr := answer.vmallocPage*pageSize
        vmallocBytes := store answer.vmallocBytes 0 letters}} := by
  refine ⟨_,pages_range _,?_⟩
  simp only [mmapVmemInit,if_neg allocated,pages_range]
  rfl

theorem kmallocUsable_iff (answer : LoadAnswer) (none : ∀ ptr,.kmalloc ptr ∉ s.ledger.held) :
    KmallocUsable (mmapKmallocInit answer s) ↔ answer.kmallocPtr ≠ 0 ∧ Terminated answer.kmallocBytes 10 := by
  by_cases null : answer.kmallocPtr = 0
  · rw [mmapKmallocInit_null null]
    exact iff_of_false (fun usable => none _ usable.allocated) fun filled => filled.1 null
  · obtain ⟨marked,visited,loaded⟩ := mmapKmallocInit_allocated null s
    have text := terminated_store answer.kmallocBytes (printed_nonzero 48 10 (by decide) (by decide))
    rw [loaded]
    constructor
    · intro usable
      exact ⟨null,text.mp usable.text⟩
    · rintro ⟨_,terminated⟩
      refine ⟨?_,?_,?_,text.mpr terminated⟩
      · simp [acquireAll]
      · simp only [len,pageSize]
        omega
      · intro n inside
        have covered := pages_cover (Nat.dvd_mul_left _ _) visited inside
        simp only [acquireAll]
        exact List.mem_append_left _ (List.mem_map_of_mem covered)

theorem vmallocUsable_iff (answer : LoadAnswer) (none : ∀ ptr,.vmalloc ptr ∉ s.ledger.held) :
    VmallocUsable (mmapVmemInit answer s) ↔ answer.vmallocPage ≠ 0 ∧ Terminated answer.vmallocBytes 26 := by
  by_cases null : answer.vmallocPage = 0
  · rw [mmapVmemInit_null null]
    exact iff_of_false (fun usable => none _ usable.allocated) fun filled => filled.1 null
  · obtain ⟨marked,visited,loaded⟩ := mmapVmemInit_allocated null s
    have text := terminated_store answer.vmallocBytes (printed_nonzero 97 26 (by decide) (by decide))
    rw [loaded]
    constructor
    · intro usable
      exact ⟨null,text.mp usable.text⟩
    · rintro ⟨_,terminated⟩
      refine ⟨?_,?_,text.mpr terminated⟩
      · simp [acquireAll]
      · intro n inside
        have covered := pages_cover (Nat.dvd_mul_left _ _) visited inside
        simp only [acquireAll]
        exact List.mem_append_left _ (List.mem_map_of_mem covered)

structure Extends (s t : System) : Prop where
  phase : t.phase = s.phase
  strays : t.ledger.strays = s.ledger.strays
  held : ∀ resource ∈ s.ledger.held,resource ∈ t.ledger.held

theorem mmapKmallocInit_extends (answer : LoadAnswer) (s : System) : Extends s (mmapKmallocInit answer s) := by
  by_cases null : answer.kmallocPtr = 0
  · rw [mmapKmallocInit_null null]
    exact ⟨rfl,rfl,fun _ held => held⟩
  · obtain ⟨marked,_,loaded⟩ := mmapKmallocInit_allocated null s
    rw [loaded]
    exact ⟨rfl,rfl,fun _ held => List.mem_append_right _ (List.mem_cons_of_mem _ held)⟩

theorem mmapVmemInit_extends (answer : LoadAnswer) (s : System) : Extends s (mmapVmemInit answer s) := by
  by_cases null : answer.vmallocPage = 0
  · rw [mmapVmemInit_null null]
    exact ⟨rfl,rfl,fun _ held => held⟩
  · obtain ⟨marked,_,loaded⟩ := mmapVmemInit_allocated null s
    rw [loaded]
    exact ⟨rfl,rfl,fun _ held => List.mem_append_right _ (List.mem_cons_of_mem _ held)⟩

theorem Extends.trans (first : Extends r s) (second : Extends s t) : Extends r t :=
  ⟨second.phase.trans first.phase,second.strays.trans first.strays,
    fun resource held => second.held resource (first.held resource held)⟩

theorem mmapKmallocInit_vmalloc (none : ∀ ptr,.vmalloc ptr ∉ s.ledger.held) (answer : LoadAnswer) (ptr : Nat) :
    .vmalloc ptr ∉ (mmapKmallocInit answer s).ledger.held := by
  by_cases null : answer.kmallocPtr = 0
  · rw [mmapKmallocInit_null null]
    exact none ptr
  · obtain ⟨marked,_,loaded⟩ := mmapKmallocInit_allocated null s
    rw [loaded]
    simpa [acquireAll] using none ptr

theorem mmapVmemInit_kmalloc (answer : LoadAnswer) (s : System) :
    KmallocUsable (mmapVmemInit answer s) ↔ KmallocUsable s := by
  by_cases null : answer.vmallocPage = 0
  · rw [mmapVmemInit_null null]
  · obtain ⟨marked,_,loaded⟩ := mmapVmemInit_allocated null s
    rw [loaded]
    constructor
    · rintro ⟨allocated,area,reserved,text⟩
      exact ⟨by simpa [acquireAll] using allocated,area,
        fun n inside => by simpa [acquireAll] using reserved n inside,text⟩
    · rintro ⟨allocated,area,reserved,text⟩
      exact ⟨by simpa [acquireAll] using allocated,area,
        fun n inside => by simpa [acquireAll] using reserved n inside,text⟩

theorem usable_iff (answer : LoadAnswer) (noKmalloc : ∀ ptr,.kmalloc ptr ∉ s.ledger.held)
    (noVmalloc : ∀ ptr,.vmalloc ptr ∉ s.ledger.held) :
    Usable (mmapVmemInit answer (mmapKmallocInit answer s)) ↔ Filled answer := by
  have kmalloc := kmallocUsable_iff answer noKmalloc
  have vmalloc := vmallocUsable_iff answer (mmapKmallocInit_vmalloc noVmalloc answer)
  rw [← mmapVmemInit_kmalloc answer] at kmalloc
  exact ⟨fun usable => ⟨kmalloc.mp usable.kmalloc,vmalloc.mp usable.vmalloc⟩,
    fun filled => ⟨kmalloc.mpr filled.kmalloc,vmalloc.mpr filled.vmalloc⟩⟩

end Buffers

section Loads
variable {s : System}

theorem releases_keeps (held : resource ∈ s.ledger.held) (other : resource ≠ released) :
    resource ∈ (releases released s).ledger.held := release_keeps held other

theorem unregister_keeps (held : .region number minors ∈ s.ledger.held) (dev : Nat) :
    .region number minors ∈ (unregisterChrdevRegion dev 1 s).ledger.held := by
  unfold unregisterChrdevRegion
  split
  · exact releases_keeps held (by simp [minors])
  · exact held

theorem unregister_phase (dev count : Nat) (s : System) : (unregisterChrdevRegion dev count s).phase = s.phase := by
  unfold unregisterChrdevRegion
  split <;> rfl

theorem deviceDestroy_keeps (held : resource ∈ s.ledger.held) (other : resource ≠ .device dev) :
    resource ∈ (deviceDestroy dev s).ledger.held := by
  unfold deviceDestroy
  split
  · exact releases_keeps held other
  · exact held

theorem deviceDestroy_phase (dev : Nat) (s : System) : (deviceDestroy dev s).phase = s.phase := by
  unfold deviceDestroy
  split <;> rfl

def created (answer : LoadAnswer) (dev cdev cls : Nat) (s : System) : System :=
  let classed := acquires (.cls cls) (acquires (.cdev cdev) (allocChrdevRegion dev minors s))
  if answer.device then acquires (.device dev) classed else classed

structure Created (dev : Nat) (t : System) : Prop where
  phase : t.phase = .unloaded
  strays : t.ledger.strays = []
  region : .region dev minors ∈ t.ledger.held
  noKmalloc : ∀ ptr,.kmalloc ptr ∉ t.ledger.held
  noVmalloc : ∀ ptr,.vmalloc ptr ∉ t.ledger.held

theorem created_held (answer : LoadAnswer) (dev cdev cls : Nat) (unloaded : s.phase = .unloaded)
    (idle : s.ledger = {}) : Created dev (created answer dev cdev cls s) := by
  unfold created
  cases answer.device with
  | false =>
      exact ⟨unloaded,by simp [acquires,allocChrdevRegion,idle],by simp [acquires,allocChrdevRegion],
        by simp [acquires,allocChrdevRegion,idle],by simp [acquires,allocChrdevRegion,idle]⟩
  | true =>
      exact ⟨unloaded,by simp [acquires,allocChrdevRegion,idle],by simp [acquires,allocChrdevRegion],
        by simp [acquires,allocChrdevRegion,idle],by simp [acquires,allocChrdevRegion,idle]⟩

inductive Outcome (answer : LoadAnswer) (t : System) : Prop where
  | refused (dev : answer.dev = none) (phase : t.phase = .unloaded) (held : t.ledger = {})
  | oopsed (dev : answer.dev ≠ none) (cdev : answer.cdev = none) (phase : t.phase = .oopsed)
  | failed (dev : answer.dev ≠ none) (cdev : answer.cdev ≠ none)
      (missing : ¬ (answer.cdevAdd = true ∧ answer.cls ≠ none ∧ answer.procEntry = true))
      (phase : t.phase = .unloaded) (kept : t.ledger.held ≠ [])
  | ready (dev : answer.dev ≠ none) (cdev : answer.cdev ≠ none)
      (granted : answer.cdevAdd = true ∧ answer.cls ≠ none ∧ answer.procEntry = true)
      (phase : t.phase = .loaded) (owned : t.ledger.strays = []) (region : ∃ number,.region number minors ∈ t.ledger.held)
      (usable : Usable t ↔ Filled answer)

theorem mmaperInit_outcome (answer : LoadAnswer) (s : System) (unloaded : s.phase = .unloaded) (idle : s.ledger = {}) :
    Outcome answer (mmaperInit answer s) := by
  unfold mmaperInit
  cases region : answer.dev with
  | none => exact .refused region unloaded idle
  | some dev =>
      have someDev : answer.dev ≠ none := by simp [region]
      cases allocated : answer.cdev with
      | none => exact .oopsed someDev allocated rfl
      | some cdev =>
          have someCdev : answer.cdev ≠ none := by simp [allocated]
          have region : .region dev minors ∈ (acquires (.cdev cdev)
              (allocChrdevRegion dev minors {s with statics := {}})).ledger.held :=
            List.mem_cons_of_mem _ List.mem_cons_self
          cases added : answer.cdevAdd with
          | false =>
              exact .failed someDev someCdev (by simp [added]) ((unregister_phase dev 1 _).trans unloaded)
                (List.ne_nil_of_mem (unregister_keeps region dev))
          | true =>
              cases classed : answer.cls with
              | none =>
                  exact .failed someDev someCdev (by simp [classed]) ((unregister_phase dev 1 _).trans unloaded)
                    (List.ne_nil_of_mem (unregister_keeps (releases_keeps region (by simp)) dev))
              | some cls =>
                  have state := created_held (s:={s with statics := {}}) answer dev cdev cls unloaded idle
                  cases proc : answer.procEntry with
                  | false =>
                      have deleted := releases_keeps state.region (by simp : Resource.region dev minors ≠ .cdev cdev)
                      have kept := deviceDestroy_keeps (unregister_keeps deleted dev)
                        (by simp : Resource.region dev minors ≠ .device dev)
                      exact .failed someDev someCdev (by simp [proc])
                        ((deviceDestroy_phase dev _).trans ((unregister_phase dev 1 _).trans state.phase))
                        (List.ne_nil_of_mem kept)
                  | true =>
                      let ready : System := {acquires .procEntry (created answer dev cdev cls {s with statics := {}}) with
                        phase := .loaded
                        statics := {(created answer dev cdev cls {s with statics := {}}).statics with
                          mmaperCdev := cdev
                          mmaperClass := cls}}
                      have extended := (mmapKmallocInit_extends answer ready).trans
                        (mmapVmemInit_extends answer (mmapKmallocInit answer ready))
                      have usable := usable_iff (s:=ready) answer
                        (fun ptr held => state.noKmalloc ptr (List.mem_of_ne_of_mem (by simp) held))
                        (fun ptr held => state.noVmalloc ptr (List.mem_of_ne_of_mem (by simp) held))
                      exact .ready someDev someCdev ⟨added,by simp [classed],proc⟩ extended.phase
                        (extended.strays.trans state.strays)
                        ⟨dev,extended.held _ (List.mem_cons_of_mem _ state.region)⟩ usable

theorem marks_keep (held : .region number minors ∈ s.ledger.held) {mark : Nat → Resource}
    (other : ∀ page,mark page ≠ .region number minors) (marked : List Nat) :
    .region number minors ∈ (releaseAll (marked.map mark) s.ledger).held := by
  apply releaseAll_keeps held
  intro member
  obtain ⟨page,_,same⟩ := List.mem_map.mp member
  exact other page same

theorem mmapKmallocCleanup_keeps (held : .region number minors ∈ s.ledger.held) :
    .region number minors ∈ (mmapKmallocCleanup s).ledger.held ∧ (mmapKmallocCleanup s).phase = s.phase := by
  have cleared := marks_keep held fun page => (by simp : Resource.kmallocReserved page ≠ .region number minors)
  unfold mmapKmallocCleanup
  rw [pages_range]
  dsimp only
  split
  · exact ⟨cleared _,rfl⟩
  · exact ⟨release_keeps (cleared _) (by simp),rfl⟩

theorem mmapVmemCleanup_keeps (held : .region number minors ∈ s.ledger.held) :
    .region number minors ∈ (mmapVmemCleanup s).ledger.held ∧ (mmapVmemCleanup s).phase = s.phase := by
  have cleared := marks_keep held fun page => (by simp : Resource.vmallocReserved page ≠ .region number minors)
  unfold mmapVmemCleanup
  rw [pages_range]
  dsimp only
  split
  · exact ⟨cleared _,rfl⟩
  · exact ⟨release_keeps (cleared _) (by simp),rfl⟩

theorem mmaperCleanup_keeps (region : .region number minors ∈ s.ledger.held) :
    (mmaperCleanup s).ledger.held ≠ [] ∧ (mmaperCleanup s).phase = .unloaded := by
  let stopped := {s with phase := .unloaded}
  let unclassed := releases (.cls s.statics.mmaperClass)
    (deviceDestroy s.statics.dev (releases (.cdev s.statics.mmaperCdev) stopped))
  let unproc := releases .procEntry (unregisterChrdevRegion s.statics.dev 1 unclassed)
  have kept : .region number minors ∈ unproc.ledger.held := by
    apply releases_keeps _ (by simp)
    refine unregister_keeps ?_ s.statics.dev
    apply releases_keeps _ (by simp)
    apply deviceDestroy_keeps _ (by simp)
    exact releases_keeps region (by simp)
  have phase : unproc.phase = .unloaded :=
    (unregister_phase s.statics.dev 1 unclassed).trans
      (deviceDestroy_phase s.statics.dev (releases (.cdev s.statics.mmaperCdev) stopped))
  obtain ⟨unmapped,sameKmalloc⟩ := mmapKmallocCleanup_keeps kept
  obtain ⟨freed,sameVmalloc⟩ := mmapVmemCleanup_keeps unmapped
  exact ⟨List.ne_nil_of_mem freed,sameVmalloc.trans (sameKmalloc.trans phase)⟩

end Loads

structure Sound (s : System) : Prop extends Balanced s where
  region : s.phase = .loaded → ∃ number,.region number minors ∈ s.ledger.held

theorem Sound.idle (sound : Sound s) (unloaded : s.phase = .unloaded) : s.ledger = {} := by
  have held := sound.returned unloaded
  have strays := sound.owned
  cases ledger : s.ledger with
  | mk some others =>
      rw [ledger] at held strays
      simp_all

theorem clean_exact (s : System) (event : Event) (sound : Sound s) (allowed : machine.Allowed s event) :
    Clean event ↔ Balanced (machine.apply s event) := by
  cases event with
  | unloads =>
      obtain ⟨number,region⟩ := sound.region allowed
      obtain ⟨held,phase⟩ := mmaperCleanup_keeps region
      exact iff_of_false id fun balanced => held (balanced.returned phase)
  | loads answer =>
      show Clean (.loads answer) ↔ Balanced (mmaperInit answer s)
      cases mmaperInit_outcome answer s allowed (sound.idle allowed) with
      | refused dev phase held =>
          exact iff_of_true (fun some => absurd dev some)
            ⟨by simp [phase],by simp [held],by simp [held],by simp [phase],by simp [phase]⟩
      | oopsed dev cdev phase =>
          exact iff_of_false (fun clean => (clean dev).1 cdev) fun balanced => balanced.survives phase
      | failed dev cdev missing phase kept =>
          exact iff_of_false (fun clean => missing (clean dev).2.1) fun balanced => kept (balanced.returned phase)
      | ready dev cdev granted phase owned region usable =>
          constructor
          · intro clean
            exact ⟨fun _ => usable.mpr (clean dev).2.2,by simp [phase],owned,by simp [phase],by simp [phase]⟩
          · intro balanced _
            exact ⟨cdev,granted,usable.mp (balanced.usable phase)⟩

theorem apply_sound (s : System) (event : Event) (sound : Sound s) (allowed : machine.Allowed s event)
    (clean : Clean event) : Sound (machine.apply s event) := by
  have balanced := (clean_exact s event sound allowed).mp clean
  cases event with
  | unloads => exact absurd clean id
  | loads answer =>
      refine ⟨balanced,?_⟩
      show (mmaperInit answer s).phase = .loaded → _
      cases mmaperInit_outcome answer s allowed (sound.idle allowed) with
      | refused _ phase _ => simp [phase]
      | oopsed _ _ phase => simp [phase]
      | failed _ _ _ phase _ => simp [phase]
      | ready _ _ _ _ _ region _ => exact fun _ => region

theorem load_balanced_iff (events : List Event) (path : machine.Runs {} events) :
    machine.Throughout Balanced {} events ↔ machine.Along (fun _ event => Clean event) {} events :=
  Machine.throughout_exact (fun _ sound => sound.toBalanced) clean_exact apply_sound
    ⟨⟨by simp,fun _ => rfl,rfl,by simp,by simp⟩,by simp⟩ path

def granted : LoadAnswer where
  kmallocPtr := 0x1000
  vmallocPage := 0x100
  kmallocBytes _ := 0
  vmallocBytes _ := 0

theorem granted_filled : Filled granted :=
  ⟨⟨by decide,10,by decide,by decide,rfl⟩,by decide,26,by decide,by decide,rfl⟩

theorem load_balanced_granted : machine.Throughout Balanced {} [.loads {granted with dev := none},.loads granted] :=
  (load_balanced_iff [.loads {granted with dev := none},.loads granted] (by decide +kernel)).mpr
    ⟨fun some => absurd rfl some,fun _ => ⟨by decide,by decide,granted_filled⟩,trivial⟩

def starved : LoadAnswer := {granted with kmallocPtr := 0}

theorem load_unbalanced :
    (machine.Runs {} [.loads granted,.unloads] ∧ ¬ machine.Throughout Balanced {} [.loads granted,.unloads]) ∧
    (machine.Runs {} [.loads {granted with cls := none}] ∧
      ¬ machine.Throughout Balanced {} [.loads {granted with cls := none}] ∧
      (mmaperInit {granted with cls := none} {}).ledger.held = [.region 0 minors]) ∧
    (mmaperInit {granted with cdev := none} {}).phase = .oopsed ∧
    (mmaperInit starved {}).phase = .loaded ∧ ¬ machine.Throughout Balanced {} [.loads starved] := by
  refine ⟨⟨by decide +kernel,?_⟩,⟨by decide +kernel,?_,by decide +kernel⟩,by decide +kernel,by decide +kernel,?_⟩
  · intro balanced
    exact absurd (balanced.last.returned (by decide +kernel)) (by decide +kernel)
  · intro balanced
    exact absurd (balanced.last.returned (by decide +kernel)) (by decide +kernel)
  · intro balanced
    exact absurd (balanced.last.usable (by decide +kernel)).kmalloc.allocated (by decide +kernel)

end LinuxDeviceDrivers.MmaperLoad
