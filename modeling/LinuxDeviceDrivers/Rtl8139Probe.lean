import Mathlib.Data.List.Perm.Subperm
import LinuxDeviceDrivers.ResourceLedger
import LinuxDeviceDrivers.Transition

namespace LinuxDeviceDrivers.Rtl8139Probe
open Transition ResourceLedger Ledger

def enodev : Int := -19
def bar1 : Nat := 1
def cpRegsSize : Nat := 0xff+1

inductive Space where
  | ports
  | memory
deriving DecidableEq

-- A base address register that the device does not implement has length 0.
structure Bar where
  start : Nat := 0
  len : Nat := 0
  space : Space := .ports

structure PciDev where
  bar : Nat → Bar

-- A pointer that a kernel call returned stands for what it points to.
inductive Resource where
  | device
  | writeInvalidate
  | region (space : Space) (start len : Nat)
  | mapping (ioaddr : Nat)
  | netDevice (dev : Nat)
  | registration (dev : Nat)
deriving DecidableEq

structure Binding where
  pdev : PciDev
  dev : Nat
  mmioAddr : Nat

-- `misused` lists the net devices whose private structure was accessed when
-- they had been freed.
structure System where
  ledger : Ledger Resource := {}
  misused : List Nat := []
  bound : Option Binding := none

def acquires (resource : Resource) (s : System) : System := {s with ledger := acquire resource s.ledger}
def releases (resource : Resource) (s : System) : System := {s with ledger := release resource s.ledger}

def accessPriv (dev : Nat) (s : System) : System :=
  if .netDevice dev ∈ s.ledger.held then s else {s with misused := dev :: s.misused}

def Bar.region (bar : Bar) : Resource := .region bar.space bar.start bar.len

-- pci_release_regions takes each BAR that the device implements for requested.
def implemented (pdev : PciDev) : List Resource :=
  ((List.range 6).filter fun index => (pdev.bar index).len != 0).map fun index => (pdev.bar index).region

def pciReleaseRegions (pdev : PciDev) (s : System) : System :=
  {s with ledger := releaseAll (implemented pdev) s.ledger}

structure ProbeAnswer where
  enabled : Bool := true
  mwi : Bool := true
  region : Bool := true
  ioaddr : Option Nat := some 0
  dmaMask : Bool := true
  consistentDmaMask : Bool := true
  dev : Option Nat := some 0
  registered : Bool := true

-- The labels of rtl8139_probe, each of which runs into the next.
def disable (s : System) : System := releases .device s
def mwi (s : System) : System := disable (releases .writeInvalidate s)
def releaseRegions (pdev : PciDev) (s : System) : System := mwi (pciReleaseRegions pdev s)
def unmap (pdev : PciDev) (ioaddr : Nat) (s : System) : System := releaseRegions pdev (releases (.mapping ioaddr) s)
def freedev (pdev : PciDev) (ioaddr dev : Nat) (s : System) : System :=
  unmap pdev ioaddr (releases (.netDevice dev) s)

def registerDev (pdev : PciDev) (answer : ProbeAnswer) (ioaddr : Nat) (s : System) : Int × System :=
  match answer.dev with
  | none => (enodev,unmap pdev ioaddr s)
  | some dev =>
      let filled := accessPriv dev (acquires (.netDevice dev) s)
      if answer.registered then
        (0,{acquires (.registration dev) filled with bound := some ⟨pdev,dev,ioaddr⟩})
      else (enodev,freedev pdev ioaddr dev filled)

-- The DMA masks are set with the device mapped, and their failure skips unmap.
def mapDevice (pdev : PciDev) (answer : ProbeAnswer) (s : System) : Int × System :=
  match answer.ioaddr with
  | none => (enodev,releaseRegions pdev s)
  | some ioaddr =>
      let mapped := acquires (.mapping ioaddr) s
      if answer.dmaMask && answer.consistentDmaMask then registerDev pdev answer ioaddr mapped
      else (enodev,releaseRegions pdev mapped)

def usable (pdev : PciDev) : Bool :=
  decide (cpRegsSize ≤ (pdev.bar bar1).len) && (pdev.bar bar1).start != 0 && (pdev.bar bar1).space == .memory

def rtl8139Probe (pdev : PciDev) (answer : ProbeAnswer) (s : System) : Int × System :=
  if answer.enabled then
    let enabled := acquires .device s
    if answer.mwi then
      let invalidating := acquires .writeInvalidate enabled
      if usable pdev && answer.region then mapDevice pdev answer (acquires (pdev.bar bar1).region invalidating)
      else (enodev,mwi invalidating)
    else (enodev,disable enabled)
  else (-1,s)

-- priv->mmio_addr is read for pci_iounmap and cleared after it.
def rtl8139Remove (s : System) : System :=
  match s.bound with
  | none => s
  | some ⟨pdev,dev,mmioAddr⟩ =>
      let freed := releases (.netDevice dev) (releases (.registration dev) s)
      let unmapped := accessPriv dev (releases (.mapping mmioAddr) (accessPriv dev freed))
      disable (releases .writeInvalidate (pciReleaseRegions pdev {unmapped with bound := none}))

inductive Event where
  | probes (pdev : PciDev) (answer : ProbeAnswer)
  | removes

def machine : Machine System Event where
  Allowed s event := match event with
    | .probes _ _ => s.bound.isNone = true
    | .removes => s.bound.isSome = true
  apply s event := match event with
    | .probes pdev answer => (rtl8139Probe pdev answer s).2
    | .removes => rtl8139Remove s

instance decidableAllowed : ∀ s event,Decidable (machine.Allowed s event)
  | s,.probes _ _ => inferInstanceAs (Decidable (s.bound.isNone = true))
  | s,.removes => inferInstanceAs (Decidable (s.bound.isSome = true))

-- Whenever no device is bound, after a failed probe or a remove, everything has
-- been released, and nothing twice.
structure Balanced (s : System) : Prop where
  returned : s.bound = none → s.ledger.held = []
  owned : s.ledger.strays = []
  alive : s.misused = []

-- pci_release_regions releases what request_mem_region requested, and no more.
def Sole (pdev : PciDev) : Prop := ∀ index < 6,index ≠ bar1 → (pdev.bar index).len = 0

def obtainsRegion (pdev : PciDev) (answer : ProbeAnswer) : Bool :=
  answer.enabled && answer.mwi && usable pdev && answer.region

def masksFail (answer : ProbeAnswer) : Bool := answer.ioaddr.isSome && !(answer.dmaMask && answer.consistentDmaMask)

def completes (answer : ProbeAnswer) : Bool :=
  answer.ioaddr.isSome && answer.dmaMask && answer.consistentDmaMask && answer.dev.isSome && answer.registered

-- Once the region is requested, a probe fails on a device with no other BAR and
-- not at the DMA masks; and no device is removed.
def Clean : Event → Prop
  | .probes pdev answer => obtainsRegion pdev answer = true → masksFail answer = false ∧ (completes answer = false → Sole pdev)
  | .removes => False

section Probe
variable {pdev : PciDev} {answer : ProbeAnswer} {s : System}

@[simp] theorem releases_acquires (resource : Resource) (s : System) : releases resource (acquires resource s) = s := by
  simp [releases,acquires]

theorem accessPriv_held (held : .netDevice dev ∈ s.ledger.held) : accessPriv dev s = s := if_pos held

def requested (pdev : PciDev) (s : System) : System :=
  acquires (pdev.bar bar1).region (acquires .writeInvalidate (acquires .device s))

theorem probe_unrequested (unobtained : obtainsRegion pdev answer = false) (s : System) : (rtl8139Probe pdev answer s).2 = s := by
  unfold rtl8139Probe
  cases enabled : answer.enabled with
  | false => rfl
  | true =>
      cases invalidates : answer.mwi with
      | false => simp [disable]
      | true =>
          have stops : (usable pdev && answer.region) = false := by
            simpa [obtainsRegion,enabled,invalidates] using unobtained
          simp [stops,mwi,disable]

theorem probe_requested (obtains : obtainsRegion pdev answer = true) (s : System) :
    rtl8139Probe pdev answer s = mapDevice pdev answer (requested pdev s) := by
  simp only [obtainsRegion,Bool.and_eq_true] at obtains
  obtain ⟨⟨⟨enabled,invalidates⟩,use⟩,region⟩ := obtains
  simp [rtl8139Probe,enabled,invalidates,use,region,requested]

theorem mapDevice_fails (failing : completes answer = false) (masks : masksFail answer = false) (s : System) :
    (mapDevice pdev answer s).2 = releaseRegions pdev s := by
  unfold mapDevice
  cases mapping : answer.ioaddr with
  | none => rfl
  | some ioaddr =>
      have able : (answer.dmaMask && answer.consistentDmaMask) = true := by
        simpa [masksFail,mapping] using masks
      simp only [able,if_true,registerDev]
      cases allocation : answer.dev with
      | none => simp [unmap]
      | some dev =>
          have refused : answer.registered = false := by
            simp only [Bool.and_eq_true] at able
            simpa [completes,mapping,able,allocation] using failing
          have held : .netDevice dev ∈ (acquires (.netDevice dev) (acquires (.mapping ioaddr) s)).ledger.held :=
            List.mem_cons_self
          simp [refused,accessPriv_held held,freedev,unmap]

theorem mapDevice_masksFail (masks : masksFail answer = true) (s : System) :
    ∃ ioaddr,(mapDevice pdev answer s).2 = releaseRegions pdev (acquires (.mapping ioaddr) s) := by
  cases mapping : answer.ioaddr with
  | none => simp [masksFail,mapping] at masks
  | some ioaddr =>
      have unable : (answer.dmaMask && answer.consistentDmaMask) = false := by
        simpa only [masksFail,mapping,Option.isSome_some,Bool.true_and,Bool.not_eq_true'] using masks
      exact ⟨ioaddr,by simp [mapDevice,mapping,unable]⟩

def owning (b : Binding) (s : System) : System :=
  acquires (.registration b.dev) (acquires (.netDevice b.dev) (acquires (.mapping b.mmioAddr) s))

theorem mapDevice_completes (complete : completes answer = true) (s : System) :
    ∃ b,b.pdev = pdev ∧ (mapDevice pdev answer s).2 = {owning b s with bound := some b} := by
  simp only [completes,Bool.and_eq_true,Option.isSome_iff_exists] at complete
  obtain ⟨⟨⟨⟨⟨ioaddr,mapping⟩,able⟩,consistent⟩,⟨dev,allocation⟩⟩,registered⟩ := complete
  refine ⟨⟨pdev,dev,ioaddr⟩,rfl,?_⟩
  have held : .netDevice dev ∈ (acquires (.netDevice dev) (acquires (.mapping ioaddr) s)).ledger.held :=
    List.mem_cons_self
  simp [mapDevice,registerDev,mapping,able,consistent,allocation,registered,accessPriv_held held,owning]

end Probe

def isRegion : Resource → Bool
  | .region _ _ _ => true
  | _ => false

def isMapping : Resource → Bool
  | .mapping _ => true
  | _ => false

section Regions
variable {pdev : PciDev} {s : System}

theorem implemented_unmapped (pdev : PciDev) : (implemented pdev).countP isMapping = 0 := by
  rw [List.countP_eq_zero]
  intro resource member
  obtain ⟨index,_,rfl⟩ := List.mem_map.mp member
  simp [Bar.region,isMapping]

theorem implemented_regions (pdev : PciDev) : (implemented pdev).countP isRegion = (implemented pdev).length := by
  rw [List.countP_eq_length]
  intro resource member
  obtain ⟨index,_,rfl⟩ := List.mem_map.mp member
  rfl

theorem usable_implemented (use : usable pdev = true) : (pdev.bar bar1).len ≠ 0 := by
  simp only [usable,Bool.and_eq_true,decide_eq_true_eq] at use
  have large : 256 ≤ (pdev.bar bar1).len := use.1.1
  omega

theorem implemented_sole (use : usable pdev = true) (sole : Sole pdev) :
    implemented pdev = [(pdev.bar bar1).region] := by
  have only : (List.range 6).filter (fun index => (pdev.bar index).len != 0) = (List.range 6).filter (· == bar1) := by
    apply List.filter_congr
    intro index member
    by_cases same : index = bar1
    · subst index
      simpa using usable_implemented use
    · have absent := sole index (List.mem_range.mp member) same
      rw [Bool.eq_iff_iff]
      simp [absent,same]
  rw [implemented,only]
  rfl

theorem implemented_shared (use : usable pdev = true) (shared : ¬ Sole pdev) : 2 ≤ (implemented pdev).length := by
  obtain ⟨index,other⟩ := not_forall.mp shared
  obtain ⟨small,other⟩ := Classical.not_imp.mp other
  obtain ⟨different,present⟩ := Classical.not_imp.mp other
  have both : [bar1,index] ⊆ (List.range 6).filter fun index => (pdev.bar index).len != 0 := by
    intro bar member
    have cases : bar = bar1 ∨ bar = index := by simpa using member
    cases cases with
    | inl first => simpa [first,bar1] using usable_implemented use
    | inr second => simpa [second,small] using present
  have distinct : [bar1,index].Nodup := by simpa using Ne.symm different
  simpa [implemented] using (List.Nodup.subperm distinct both).length_le

theorem releaseRegions_sole (use : usable pdev = true) (sole : Sole pdev) (s : System) :
    releaseRegions pdev (requested pdev s) = s := by
  have released : pciReleaseRegions pdev (requested pdev s) = acquires .writeInvalidate (acquires .device s) := by
    simp [pciReleaseRegions,implemented_sole use sole,releaseAll,requested,acquires]
  simp [releaseRegions,released,mwi,disable]

theorem releaseRegions_strays (pdev : PciDev) (s : System) :
    (pciReleaseRegions pdev s).ledger.strays <:+ (releaseRegions pdev s).ledger.strays :=
  (release_strays _ _).trans (release_strays _ _)

theorem releaseRegions_shared (use : usable pdev = true) (shared : ¬ Sole pdev)
    (idle : s.ledger.held.countP isRegion = 0) : (releaseRegions pdev (requested pdev s)).ledger.strays ≠ [] := by
  have several := implemented_shared use shared
  have balance := releaseAll_conserves isRegion (implemented pdev) (requested pdev s).ledger
  have one : (requested pdev s).ledger.held.countP isRegion = 1 := by
    simp [requested,acquires,idle,isRegion,Bar.region,List.countP_cons]
  rw [implemented_regions,one] at balance
  have stray : (pciReleaseRegions pdev (requested pdev s)).ledger.strays ≠ [] := by
    intro none
    have empty : (releaseAll (implemented pdev) (requested pdev s).ledger).strays = [] := none
    rw [empty,List.countP_nil] at balance
    omega
  intro none
  have suffix := releaseRegions_strays pdev (requested pdev s)
  rw [none] at suffix
  exact stray (List.suffix_nil.mp suffix)

theorem releaseRegions_mapped (pdev : PciDev) (ioaddr : Nat) (s : System) (owned : s.ledger.strays = []) :
    (releaseRegions pdev (acquires (.mapping ioaddr) s)).ledger.held ≠ [] := by
  let mapped := (acquires (.mapping ioaddr) s).ledger
  let released := releaseAll (implemented pdev) mapped
  have regions : released.held.countP isMapping+mapped.strays.countP isMapping+(implemented pdev).countP isMapping =
      mapped.held.countP isMapping+released.strays.countP isMapping := releaseAll_conserves _ _ _
  have invalidate := release_conserves isMapping .writeInvalidate released
  have device := release_conserves isMapping .device (release .writeInvalidate released)
  have one : 1 ≤ mapped.held.countP isMapping := by simp [mapped,acquires,isMapping,List.countP_cons]
  have clear : mapped.strays.countP isMapping = 0 := by simp [mapped,acquires,owned]
  intro none
  have empty : (release .device (release .writeInvalidate released)).held = [] := none
  rw [empty,List.countP_nil] at device
  rw [implemented_unmapped] at regions
  simp only [isMapping,Bool.toNat_false] at invalidate device
  omega

end Regions

structure Sound (s : System) : Prop where
  idle : s.bound = none → s.ledger = {}
  busy : ∀ b,s.bound = some b → usable b.pdev = true ∧ s.ledger = (owning b (requested b.pdev {})).ledger
  alive : s.misused = []

section Runs
variable {s : System}

theorem Sound.balanced (s : System) (sound : Sound s) : Balanced s := by
  refine ⟨fun unbound => by rw [sound.idle unbound],?_,sound.alive⟩
  cases bound : s.bound with
  | none => rw [sound.idle bound]
  | some b => rw [(sound.busy b bound).2]; rfl

theorem accessPriv_freed (freed : .netDevice dev ∉ s.ledger.held) :
    accessPriv dev s = {s with misused := dev :: s.misused} := if_neg freed

@[simp] theorem accessPriv_ledger (dev : Nat) (s : System) : (accessPriv dev s).ledger = s.ledger := by
  unfold accessPriv
  split <;> rfl

theorem rtl8139Remove_returns (b : Binding) (s : System) (bound : s.bound = some b)
    (owns : s.ledger = (owning b (requested b.pdev {})).ledger) (use : usable b.pdev = true) (sole : Sole b.pdev) :
    (rtl8139Remove s).ledger = {} := by
  have released : (releaseRegions b.pdev (requested b.pdev {})).ledger = {} := by
    rw [releaseRegions_sole use sole]
  unfold rtl8139Remove
  rw [bound]
  simp only [disable,releases,pciReleaseRegions,accessPriv_ledger,owns,owning,acquires,release_acquire]
  exact released

theorem rtl8139Remove_misuses (b : Binding) (s : System) (bound : s.bound = some b)
    (owns : s.ledger = (owning b (requested b.pdev {})).ledger) :
    (rtl8139Remove s).misused = b.dev :: b.dev :: s.misused := by
  obtain ⟨pdev,dev,mmioAddr⟩ := b
  let freed := releases (.netDevice dev) (releases (.registration dev) s)
  have left : freed.ledger = (acquires (.mapping mmioAddr) (requested pdev {})).ledger := by
    simp [freed,releases,owns,owning,acquires]
  have gone : .netDevice dev ∉ freed.ledger.held := by
    rw [left]
    simp [requested,acquires,Bar.region]
  have unmapped : .netDevice dev ∉
      (releases (.mapping mmioAddr) {freed with misused := dev :: freed.misused}).ledger.held := by
    simp [releases,left,requested,acquires,Bar.region]
  unfold rtl8139Remove
  rw [bound]
  simp only []
  rw [accessPriv_freed gone,accessPriv_freed unmapped]
  rfl

theorem clean_exact (s : System) (event : Event) (sound : Sound s) (allowed : machine.Allowed s event) :
    Clean event ↔ Balanced (machine.apply s event) := by
  cases event with
  | removes =>
      obtain ⟨b,bound⟩ := Option.isSome_iff_exists.mp allowed
      refine iff_of_false id ?_
      intro balanced
      have misused := rtl8139Remove_misuses b s bound (sound.busy b bound).2
      have alive : (rtl8139Remove s).misused = [] := balanced.alive
      rw [alive] at misused
      cases misused
  | probes pdev answer =>
      have unbound : s.bound = none := Option.isNone_iff_eq_none.mp allowed
      have idle := sound.idle unbound
      show Clean (.probes pdev answer) ↔ Balanced (rtl8139Probe pdev answer s).2
      cases obtains : obtainsRegion pdev answer with
      | false =>
          rw [probe_unrequested obtains]
          exact iff_of_true (fun obtaining => by simp [obtains] at obtaining) (Sound.balanced s sound)
      | true =>
          have use : usable pdev = true := by
            simp only [obtainsRegion,Bool.and_eq_true] at obtains
            exact obtains.1.2
          simp only [probe_requested obtains,Clean,obtains,forall_const]
          cases masks : masksFail answer with
          | true =>
              obtain ⟨ioaddr,fails⟩ : ∃ ioaddr,(mapDevice pdev answer (requested pdev s)).2 =
                  releaseRegions pdev (acquires (.mapping ioaddr) (requested pdev s)) := mapDevice_masksFail masks _
              rw [fails]
              refine iff_of_false (by simp) fun balanced => ?_
              exact releaseRegions_mapped pdev ioaddr (requested pdev s) (by simp [requested,acquires,idle])
                (balanced.returned unbound)
          | false =>
              cases complete : completes answer with
              | true =>
                  obtain ⟨b,_,succeeds⟩ : ∃ b,b.pdev = pdev ∧ (mapDevice pdev answer (requested pdev s)).2 =
                      {owning b (requested pdev s) with bound := some b} := mapDevice_completes complete _
                  rw [succeeds]
                  refine iff_of_true (by simp) ⟨fun none => by simp at none,?_,sound.alive⟩
                  simp [owning,requested,acquires,idle]
              | false =>
                  rw [mapDevice_fails complete masks]
                  by_cases sole : Sole pdev
                  · rw [releaseRegions_sole use sole]
                    exact iff_of_true ⟨rfl,fun _ => sole⟩ (Sound.balanced s sound)
                  · refine iff_of_false (fun clean => sole (clean.2 rfl)) fun balanced => ?_
                    exact releaseRegions_shared use sole (by simp [idle]) balanced.owned

theorem apply_sound (s : System) (event : Event) (sound : Sound s) (allowed : machine.Allowed s event)
    (clean : Clean event) : Sound (machine.apply s event) := by
  cases event with
  | removes => exact absurd clean id
  | probes pdev answer =>
      have unbound : s.bound = none := Option.isNone_iff_eq_none.mp allowed
      show Sound (rtl8139Probe pdev answer s).2
      cases obtains : obtainsRegion pdev answer with
      | false =>
          rw [probe_unrequested obtains]
          exact sound
      | true =>
          have use : usable pdev = true := by
            simp only [obtainsRegion,Bool.and_eq_true] at obtains
            exact obtains.1.2
          obtain ⟨masks,sole⟩ := clean obtains
          rw [probe_requested obtains]
          cases complete : completes answer with
          | false =>
              rw [mapDevice_fails complete masks,releaseRegions_sole use (sole complete)]
              exact sound
          | true =>
              obtain ⟨b,rfl,succeeds⟩ : ∃ b,b.pdev = pdev ∧ (mapDevice pdev answer (requested pdev s)).2 =
                  {owning b (requested pdev s) with bound := some b} := mapDevice_completes complete _
              rw [succeeds]
              refine ⟨fun none => by simp at none,?_,sound.alive⟩
              rintro _ ⟨⟩
              refine ⟨use,?_⟩
              simp [owning,requested,acquires,sound.idle unbound]

end Runs

theorem probe_balanced_iff (events : List Event) (path : machine.Runs {} events) :
    machine.Throughout Balanced {} events ↔ machine.Along (fun _ event => Clean event) {} events :=
  Machine.throughout_exact Sound.balanced clean_exact apply_sound
    ⟨fun _ => rfl,fun _ bound => by simp at bound,rfl⟩ path

def card : PciDev where
  bar index := match index with
    | 0 => ⟨0xc000,0x100,.ports⟩
    | 1 => ⟨0xfebd1000,0x100,.memory⟩
    | _ => {}

def memoryOnly : PciDev where
  bar index := if index = bar1 then ⟨0xfebd1000,0x100,.memory⟩ else {}

def retried : List Event := [.probes memoryOnly {dev := none},.probes memoryOnly {}]

theorem probe_balanced_retried : machine.Throughout Balanced {} retried := by
  have sole : Sole memoryOnly := fun index _ other => by simp [memoryOnly,other]
  exact (probe_balanced_iff retried (by decide +kernel)).mpr
    ⟨fun _ => ⟨rfl,fun _ => sole⟩,fun _ => ⟨rfl,fun _ => sole⟩,trivial⟩

def unmasked : List Event := [.probes memoryOnly {dmaMask := false}]
def unmappable : List Event := [.probes card {ioaddr := none}]
def unplugged : List Event := [.probes card {},.removes]

theorem probe_unbalanced :
    (machine.Runs {} unmasked ∧ (machine.run {} unmasked).ledger.held = [.mapping 0]) ∧
    (machine.Runs {} unmappable ∧ (machine.run {} unmappable).ledger.strays = [.region .ports 0xc000 0x100]) ∧
    (machine.Runs {} unplugged ∧ (machine.run {} unplugged).misused = [0,0]) ∧
    ¬ machine.Throughout Balanced {} unmasked ∧ ¬ machine.Throughout Balanced {} unmappable ∧
    ¬ machine.Throughout Balanced {} unplugged := by
  refine ⟨by decide +kernel,by decide +kernel,by decide +kernel,?_,?_,?_⟩
  · intro balanced
    exact absurd (balanced.last.returned rfl) (by decide +kernel)
  · intro balanced
    exact absurd balanced.last.owned (by decide +kernel)
  · intro balanced
    exact absurd balanced.last.alive (by decide +kernel)

end LinuxDeviceDrivers.Rtl8139Probe
