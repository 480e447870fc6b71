import LinuxDeviceDrivers.ByteStore
import LinuxDeviceDrivers.Transition

namespace LinuxDeviceDrivers.Rtl8150Address
open Transition ByteStore

def idr : Nat := 0x0120
def ethAlen : Nat := 6

-- Between register_netdev and the read of IDR the interface is there to be
-- opened, with the address that alloc_etherdev left.
inductive Phase where
  | unbound
  | registered
  | bound
deriving DecidableEq

structure System where
  regs : Nat → UInt8
  devAddr : Nat → UInt8 := fun _ => 0
  got : Nat := 0
  phase : Phase := .unbound
  up : Bool := false

-- The outcome of a read is the number of bytes transferred, or an error. An
-- open may fail after the message; the device changes its other registers.
inductive Event where
  | registers
  | reads (outcome : Option Nat)
  | opens (accepted succeeded : Bool)
  | closes
  | disconnects
  | updates (register : Nat) (value : UInt8)

-- `size` is sizeof(netdev->dev_addr): of an array, or of a pointer.
section Driver
variable (size : Nat)

def registers (s : System) : System := {s with devAddr := fun _ => 0,got := 0,phase := .registered}

def reads (outcome : Option Nat) (s : System) : System :=
  match outcome with
  | none => {s with phase := .unbound,up := false}
  | some count => {s with
      devAddr := store s.devAddr 0 (load s.regs idr (min count size))
      got := min count size
      phase := .bound}

def opens (accepted succeeded : Bool) (s : System) : System :=
  {s with
    regs := if accepted then store s.regs idr (load s.devAddr 0 size) else s.regs
    up := succeeded}

def machine : Machine System Event where
  Allowed s event := match event with
    | .registers => s.phase = .unbound
    | .reads _ => s.phase = .registered
    | .opens _ _ => s.phase ≠ .unbound ∧ s.up = false
    | .closes => s.up = true
    | .disconnects => s.phase = .bound
    | .updates register _ => register < idr ∨ idr+ethAlen ≤ register
  apply s event := match event with
    | .registers => registers s
    | .reads outcome => reads size outcome s
    | .opens accepted succeeded => opens size accepted succeeded s
    | .closes => {s with up := false}
    | .disconnects => {s with phase := .unbound,up := false}
    | .updates register value => {s with regs := Function.update s.regs register value}

instance decidableAllowed : ∀ s event,Decidable ((machine size).Allowed s event)
  | s,.registers => inferInstanceAs (Decidable (s.phase = .unbound))
  | s,.reads _ => inferInstanceAs (Decidable (s.phase = .registered))
  | s,.opens _ _ => inferInstanceAs (Decidable (s.phase ≠ .unbound ∧ s.up = false))
  | s,.closes => inferInstanceAs (Decidable (s.up = true))
  | s,.disconnects => inferInstanceAs (Decidable (s.phase = .bound))
  | _,.updates register _ => inferInstanceAs (Decidable (register < idr ∨ idr+ethAlen ≤ register))

end Driver

variable {size : Nat} {factory : Nat → UInt8} {s : System}

def Station (factory : Nat → UInt8) (s : System) : Prop := ∀ i < ethAlen,s.regs (idr+i) = factory i

structure Addressed (factory : Nat → UInt8) (s : System) : Prop where
  station : Station factory s
  read : ∀ i < ethAlen,i < s.got → s.devAddr i = factory i

structure Known (factory : Nat → UInt8) (s : System) : Prop extends Addressed factory s where
  unread : ∀ i,s.got ≤ i → s.devAddr i = 0
  fresh : s.phase = .registered → s.got = 0

-- An open writes to IDR what probe has not read only where the address is 0.
def Harmless (size : Nat) (factory : Nat → UInt8) (s : System) : Event → Prop
  | .opens accepted _ => accepted = true → ∀ i < ethAlen,s.got ≤ i → i < size → factory i = 0
  | _ => True

theorem reads_cell (s : System) (size count i : Nat) :
    (reads size (some count) s).devAddr i = if i < min count size then s.regs (idr+i) else s.devAddr i := by
  have cell := store_load_cell s.regs s.devAddr idr 0 (min count size) i
  rwa [Nat.zero_add] at cell

theorem opens_cell (s : System) (size i : Nat) (succeeded : Bool) :
    (opens size true succeeded s).regs (idr+i) = if i < size then s.devAddr i else s.regs (idr+i) := by
  have cell := store_load_cell s.devAddr s.regs 0 idr size i
  rwa [Nat.zero_add] at cell

theorem reads_known (outcome : Option Nat) (known : Known factory s) (here : s.phase = .registered) :
    Known factory (reads size outcome s) := by
  cases outcome with
  | none => exact ⟨⟨known.station,known.read⟩,known.unread,fun later => absurd later (by simp [reads])⟩
  | some count =>
      refine ⟨⟨known.station,?_⟩,?_,fun later => absurd later (by simp [reads])⟩
      · intro i short early
        have covered : i < min count size := early
        rw [reads_cell,if_pos covered]
        exact known.station i short
      · intro i late
        have beyond : min count size ≤ i := late
        rw [reads_cell,if_neg (by omega)]
        exact known.unread i (by rw [known.fresh here]; exact Nat.zero_le i)

theorem opens_station (known : Known factory s) (accepted succeeded : Bool) :
    Station factory (opens size accepted succeeded s) ↔ Harmless size factory s (.opens accepted succeeded) := by
  cases accepted with
  | false => exact iff_of_true known.station (fun taken => absurd taken (by simp))
  | true =>
      constructor
      · intro station _ i short late inside
        have written := station i short
        rw [opens_cell,if_pos inside,known.unread i late] at written
        exact written.symm
      · intro harmless i short
        rw [opens_cell]
        split
        · rename_i inside
          by_cases early : i < s.got
          · exact known.read i short early
          · rw [known.unread i (by omega),harmless rfl i short (by omega) inside]
        · exact known.station i short

theorem apply_known (s : System) (event : Event) (known : Known factory s) (allowed : (machine size).Allowed s event)
    (harmless : Harmless size factory s event) : Known factory ((machine size).apply s event) := by
  cases event with
  | registers => exact ⟨⟨known.station,fun i _ early => absurd early (Nat.not_lt_zero i)⟩,fun _ _ => rfl,fun _ => rfl⟩
  | reads outcome => exact reads_known outcome known allowed
  | opens accepted succeeded =>
      exact ⟨⟨(opens_station known accepted succeeded).mpr harmless,known.read⟩,known.unread,known.fresh⟩
  | closes => exact ⟨⟨known.station,known.read⟩,known.unread,known.fresh⟩
  | disconnects => exact ⟨⟨known.station,known.read⟩,known.unread,fun later => absurd later (by simp [machine])⟩
  | updates register value =>
      refine ⟨⟨?_,known.read⟩,known.unread,known.fresh⟩
      intro i short
      have other : idr+i ≠ register := by
        rintro rfl
        simp only [machine] at allowed
        omega
      simp only [machine,Function.update_of_ne other]
      exact known.station i short

theorem harmless_exact (s : System) (event : Event) (known : Known factory s) (allowed : (machine size).Allowed s event) :
    Harmless size factory s event ↔ Addressed factory ((machine size).apply s event) := by
  cases event with
  | opens accepted succeeded =>
      exact ⟨fun harmless => (apply_known s _ known allowed harmless).toAddressed,
        fun addressed => (opens_station known accepted succeeded).mp addressed.station⟩
  | _ => exact iff_of_true trivial (apply_known s _ known allowed trivial).toAddressed

def early : List Event := [.registers,.opens true true,.reads (some 8)]

end LinuxDeviceDrivers.Rtl8150Address
