import Mathlib.Data.List.Perm.Basic
import Mathlib.Logic.Function.Basic
import LinuxDeviceDrivers.ResourceLedger
import LinuxDeviceDrivers.Transition

namespace LinuxDeviceDrivers.Rtl8150Probe
open Transition ResourceLedger Ledger

def enodev : Int := -19
def eio : Int := -5

inductive Resource where
  | netDevice (dev : Nat)
  | registration (dev : Nat)
deriving DecidableEq

-- Any number of adapters. The private structure that intfdata points to lies
-- in the net device; `bound` lists the interfaces whose probe returned 0, and
-- `bugs` the net devices that were freed while registered.
structure System where
  ledger : Ledger Resource := {}
  intfdata : Nat → Option Nat := fun _ => none
  bound : List Nat := []
  bugs : List Nat := []

def acquires (resource : Resource) (s : System) : System := {s with ledger := acquire resource s.ledger}
def releases (resource : Resource) (s : System) : System := {s with ledger := release resource s.ledger}

def freeNetdev (dev : Nat) (s : System) : System :=
  let checked := if .registration dev ∈ s.ledger.held then {s with bugs := dev :: s.bugs} else s
  releases (.netDevice dev) checked

def unregisterNetdev (dev : Nat) (s : System) : System := releases (.registration dev) s

def usbSetIntfdata (intf : Nat) (data : Option Nat) (s : System) : System :=
  {s with intfdata := Function.update s.intfdata intf data}

structure ProbeAnswer where
  dev : Option Nat
  registered : Bool
  rc : Int

-- The two drivers differ in whether they unregister a net device before they
-- free it.
def probe (unregisters : Bool) (intf : Nat) (answer : ProbeAnswer) (s : System) : Int × System :=
  match answer.dev with
  | none => (-1,s)
  | some dev =>
      let allocated := acquires (.netDevice dev) s
      if answer.registered then
        let ready := usbSetIntfdata intf (some dev) (acquires (.registration dev) allocated)
        if answer.rc < 0 then
          let cleared := usbSetIntfdata intf none ready
          (eio,freeNetdev dev (if unregisters then unregisterNetdev dev cleared else cleared))
        else (0,ready)
      else (enodev,freeNetdev dev allocated)

def disconnect (unregisters : Bool) (intf : Nat) (s : System) : System :=
  match s.intfdata intf with
  | none => s
  | some dev =>
      let unregistered := if unregisters then unregisterNetdev dev s else s
      usbSetIntfdata intf none (freeNetdev dev unregistered)

namespace Phase1
def rtl8150Probe : Nat → ProbeAnswer → System → Int × System := probe false
def rtl8150Disconnect : Nat → System → System := disconnect false
end Phase1

namespace Phase2
def rtl8150Probe : Nat → ProbeAnswer → System → Int × System := probe true
def rtl8150Disconnect : Nat → System → System := disconnect true
end Phase2

inductive Event where
  | probes (intf : Nat) (answer : ProbeAnswer)
  | disconnects (intf : Nat)

-- The USB core probes an interface that has no driver and disconnects one that
-- has; alloc_etherdev returns memory that is not in use.
def machine (unregisters : Bool) : Machine System Event where
  Allowed s event := match event with
    | .probes intf answer => intf ∉ s.bound ∧ ∀ dev ∈ answer.dev,.netDevice dev ∉ s.ledger.held
    | .disconnects intf => intf ∈ s.bound
  apply s event := match event with
    | .probes intf answer =>
        let probed := probe unregisters intf answer s
        if probed.1 = 0 then {probed.2 with bound := intf :: s.bound} else probed.2
    | .disconnects intf => {disconnect unregisters intf s with bound := s.bound.erase intf}

instance decidableAllowed (unregisters : Bool) : ∀ s event,Decidable ((machine unregisters).Allowed s event)
  | s,.probes intf answer =>
      inferInstanceAs (Decidable (intf ∉ s.bound ∧ ∀ dev ∈ answer.dev,.netDevice dev ∉ s.ledger.held))
  | s,.disconnects intf => inferInstanceAs (Decidable (intf ∈ s.bound))

def owned (intfdata : Nat → Option Nat) (intf : Nat) : List Resource :=
  match intfdata intf with
  | some dev => [.registration dev,.netDevice dev]
  | none => []

structure Balanced (s : System) : Prop where
  held : s.ledger.held.Perm (s.bound.flatMap (owned s.intfdata))
  strays : s.ledger.strays = []
  bugs : s.bugs = []

structure Sound (s : System) : Prop extends Balanced s where
  distinct : s.bound.Nodup
  data : ∀ intf ∈ s.bound,s.intfdata intf ≠ none
  once : s.ledger.held.Nodup

def Undoes : Event → Prop
  | .probes _ answer => answer.dev.isSome = true ∧ answer.registered = true ∧ answer.rc < 0
  | .disconnects _ => True

section Steps
variable {s : System} {dev intf : Nat} {bound : List Nat} {unregisters : Bool}

theorem Sound.unregistered (sound : Sound s) (fresh : .netDevice dev ∉ s.ledger.held) : .registration dev ∉ s.ledger.held := by
  intro held
  apply fresh
  rw [sound.held.mem_iff,List.mem_flatMap] at held ⊢
  obtain ⟨intf,member,owns⟩ := held
  refine ⟨intf,member,?_⟩
  unfold owned at owns ⊢
  split at owns
  · simp only [List.mem_cons,Resource.registration.injEq,List.not_mem_nil,reduceCtorEq,or_false] at owns
    simp [owns]
  · cases owns

theorem owned_update (outside : intf ∉ bound) (intfdata : Nat → Option Nat) (data : Option Nat) :
    bound.flatMap (owned (Function.update intfdata intf data)) = bound.flatMap (owned intfdata) := by
  apply List.flatMap_congr
  intro other member
  have different : other ≠ intf := fun same => outside (same ▸ member)
  rw [owned,owned,Function.update_of_ne different]

@[simp] theorem releases_acquires (resource : Resource) (s : System) : releases resource (acquires resource s) = s := by
  simp [releases,acquires]

theorem freeNetdev_unregistered (unregistered : .registration dev ∉ s.ledger.held) :
    freeNetdev dev s = releases (.netDevice dev) s := by
  rw [freeNetdev,if_neg unregistered]

theorem freeNetdev_registered (registered : .registration dev ∈ s.ledger.held) : (freeNetdev dev s).bugs ≠ [] := by
  rw [freeNetdev,if_pos registered]
  exact List.cons_ne_nil _ _

theorem undo_leaves (unregistered : .registration dev ∉ s.ledger.held) :
    freeNetdev dev (unregisterNetdev dev (acquires (.registration dev) (acquires (.netDevice dev) s))) = s := by
  rw [unregisterNetdev,releases_acquires,freeNetdev_unregistered (by simpa [acquires] using unregistered),releases_acquires]

theorem Sound.retag (sound : Sound s) (outside : intf ∉ s.bound) (data : Option Nat) : Sound (usbSetIntfdata intf data s) := by
  refine ⟨⟨?_,sound.strays,sound.bugs⟩,sound.distinct,?_,sound.once⟩
  · simp only [usbSetIntfdata,owned_update outside]
    exact sound.held
  · intro other member
    have different : other ≠ intf := fun same => outside (same ▸ member)
    simp only [usbSetIntfdata,Function.update_of_ne different]
    exact sound.data other member

theorem binds_sound (sound : Sound s) (outside : intf ∉ s.bound) (fresh : .netDevice dev ∉ s.ledger.held) :
    Sound {usbSetIntfdata intf (some dev) (acquires (.registration dev) (acquires (.netDevice dev) s)) with
      bound := intf :: s.bound} := by
  have unregistered := sound.unregistered fresh
  refine ⟨⟨?_,sound.strays,sound.bugs⟩,List.nodup_cons.mpr ⟨outside,sound.distinct⟩,?_,?_⟩
  · simp only [usbSetIntfdata,acquires,acquire_held,List.flatMap_cons,owned_update outside]
    simp only [owned,Function.update_self]
    exact (sound.held.cons _).cons _
  · intro other member
    rcases List.mem_cons.mp member with rfl | earlier
    · simp [usbSetIntfdata]
    · have different : other ≠ intf := fun same => outside (same ▸ earlier)
      simp only [usbSetIntfdata,acquires,Function.update_of_ne different]
      exact sound.data other earlier
  · simp only [usbSetIntfdata,acquires,acquire_held]
    exact List.nodup_cons.mpr ⟨by simp [unregistered],List.nodup_cons.mpr ⟨fresh,sound.once⟩⟩

theorem probes_sound (sound : Sound s) (outside : intf ∉ s.bound) (fresh : ∀ dev ∈ answer.dev,.netDevice dev ∉ s.ledger.held)
    (clean : unregisters = true ∨ ¬ Undoes (.probes intf answer)) :
    Sound ((machine unregisters).apply s (.probes intf answer)) := by
  cases allocation : answer.dev with
  | none => simpa [machine,probe,allocation] using sound
  | some dev =>
      have free := fresh dev allocation
      have unregistered := sound.unregistered free
      cases registered : answer.registered with
      | false =>
          have undone : freeNetdev dev (acquires (.netDevice dev) s) = s := by
            rw [freeNetdev_unregistered (by simpa [acquires] using unregistered),releases_acquires]
          simpa [machine,probe,allocation,registered,undone,enodev] using sound
      | true =>
          by_cases failed : answer.rc < 0
          · have undoes : unregisters = true := clean.resolve_right fun keeps => keeps ⟨by simp [allocation],registered,failed⟩
            have undone := undo_leaves (s:=usbSetIntfdata intf none (usbSetIntfdata intf (some dev) s)) unregistered
            have probed : (machine unregisters).apply s (.probes intf answer) =
                usbSetIntfdata intf none (usbSetIntfdata intf (some dev) s) := by
              simp only [machine,probe,allocation,registered,failed,undoes,if_true]
              exact undone
            rw [probed]
            exact (sound.retag outside _).retag outside _
          · have probed : (machine unregisters).apply s (.probes intf answer) =
                {usbSetIntfdata intf (some dev) (acquires (.registration dev) (acquires (.netDevice dev) s)) with
                  bound := intf :: s.bound} := by
              simp [machine,probe,allocation,registered,failed,usbSetIntfdata,acquires]
            rw [probed]
            exact binds_sound sound outside free

theorem Sound.bound_data (sound : Sound s) (member : intf ∈ s.bound) :
    ∃ dev,s.intfdata intf = some dev ∧
      s.ledger.held.Perm (.registration dev :: .netDevice dev :: (s.bound.erase intf).flatMap (owned s.intfdata)) := by
  obtain ⟨dev,data⟩ := Option.ne_none_iff_exists'.mp (sound.data intf member)
  refine ⟨dev,data,sound.held.trans ?_⟩
  have split := (List.perm_cons_erase member).flatMap_right (owned s.intfdata)
  rwa [List.flatMap_cons,owned,data] at split

theorem disconnects_sound (sound : Sound s) (member : intf ∈ s.bound) :
    Sound ((machine true).apply s (.disconnects intf)) := by
  obtain ⟨dev,data,held⟩ := sound.bound_data member
  have registered : .registration dev ∈ s.ledger.held := held.mem_iff.mpr List.mem_cons_self
  have outside : intf ∉ s.bound.erase intf := fun inside => (List.Nodup.mem_erase_iff sound.distinct).mp inside |>.1 rfl
  have left := held.erase (.registration dev)
  rw [List.erase_cons_head] at left
  have allocated : .netDevice dev ∈ s.ledger.held.erase (.registration dev) := left.mem_iff.mpr List.mem_cons_self
  have gone : .registration dev ∉ s.ledger.held.erase (.registration dev) :=
    fun inside => (List.Nodup.mem_erase_iff sound.once).mp inside |>.1 rfl
  have undone : freeNetdev dev (unregisterNetdev dev s) =
      {s with ledger := {s.ledger with held := (s.ledger.held.erase (.registration dev)).erase (.netDevice dev)}} := by
    rw [unregisterNetdev,releases,release_held registered,freeNetdev_unregistered gone,releases,release_held allocated]
  simp only [machine,disconnect,data,if_true,undone]
  refine ⟨⟨?_,sound.strays,sound.bugs⟩,sound.distinct.erase _,?_,(sound.once.erase _).erase _⟩
  · have rest := left.erase (.netDevice dev)
    rw [List.erase_cons_head] at rest
    simp only [usbSetIntfdata,owned_update outside]
    exact rest
  · intro other inside
    have different : other ≠ intf := fun same => outside (same ▸ inside)
    simp only [usbSetIntfdata,Function.update_of_ne different]
    exact sound.data other (List.mem_of_mem_erase inside)

theorem undoes_bugs (sound : Sound s) (event : Event) (allowed : (machine false).Allowed s event) (undoes : Undoes event) :
    ((machine false).apply s event).bugs ≠ [] := by
  cases event with
  | probes intf answer =>
      obtain ⟨allocated,registered,failed⟩ := undoes
      obtain ⟨dev,allocation⟩ := Option.isSome_iff_exists.mp allocated
      have bug := freeNetdev_registered (s:=usbSetIntfdata intf none (usbSetIntfdata intf (some dev)
        (acquires (.registration dev) (acquires (.netDevice dev) s)))) List.mem_cons_self
      simpa [machine,probe,allocation,registered,failed,eio] using bug
  | disconnects intf =>
      obtain ⟨dev,data,held⟩ := sound.bound_data allowed
      have bug := freeNetdev_registered (s:=s) (held.mem_iff.mpr List.mem_cons_self)
      simpa [machine,disconnect,data,usbSetIntfdata] using bug

theorem apply_sound (s : System) (event : Event) (sound : Sound s) (allowed : (machine unregisters).Allowed s event)
    (clean : unregisters = true ∨ ¬ Undoes event) : Sound ((machine unregisters).apply s event) := by
  cases event with
  | probes intf answer => exact probes_sound sound allowed.1 allowed.2 clean
  | disconnects intf =>
      obtain rfl := clean.resolve_right fun keeps => keeps trivial
      exact disconnects_sound sound allowed

theorem clean_exact (s : System) (event : Event) (sound : Sound s) (allowed : (machine unregisters).Allowed s event) :
    (unregisters = true ∨ ¬ Undoes event) ↔ Balanced ((machine unregisters).apply s event) := by
  constructor
  · exact fun clean => (apply_sound s event sound allowed clean).toBalanced
  · intro balanced
    cases unregisters with
    | true => exact .inl rfl
    | false => exact .inr fun undoes => undoes_bugs sound event allowed undoes balanced.bugs

end Steps

theorem unplugged_sound : Sound {} := ⟨⟨.refl _,rfl,rfl⟩,List.nodup_nil,by simp,List.nodup_nil⟩

-- The Phase-II driver accounts for its net devices whatever happens. The Phase-I
-- driver does until a probe fails at the control message or an adapter is
-- unplugged or the module unloaded.
theorem adapters_balanced_iff (unregisters : Bool) (events : List Event) (path : (machine unregisters).Runs {} events) :
    (machine unregisters).Throughout Balanced {} events ↔
      (machine unregisters).Along (fun _ event => unregisters = true ∨ ¬ Undoes event) {} events :=
  Machine.throughout_exact (fun _ sound => sound.toBalanced) clean_exact apply_sound unplugged_sound path

def plugged : ProbeAnswer := ⟨some 1,true,6⟩
def replugged : List Event := [.probes 0 plugged,.disconnects 0,.probes 0 ⟨some 1,true,-110⟩,.probes 0 plugged]

theorem adapters_balanced_replugged :
    (machine true).Throughout Balanced {} replugged ∧ ¬ (machine false).Throughout Balanced {} replugged := by
  constructor
  · exact (adapters_balanced_iff true replugged (by decide)).mpr (Machine.along_of_forall (fun _ _ => .inl rfl) _ _)
  · intro balanced
    obtain ⟨_,kept,_⟩ := (adapters_balanced_iff false replugged (by decide)).mp balanced
    exact kept.elim nofun fun undoes => undoes trivial

end LinuxDeviceDrivers.Rtl8150Probe
