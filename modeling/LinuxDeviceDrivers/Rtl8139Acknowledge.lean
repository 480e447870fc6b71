import LinuxDeviceDrivers.Rtl8139Registers
import LinuxDeviceDrivers.Transition

namespace LinuxDeviceDrivers.Rtl8139Acknowledge
open Transition Rtl8139Registers

-- rtl8139_interrupt stands before an access to ISR or before the tests of what
-- it read; `serves` is all from the transmit loop to "Exiting", which uses other
-- registers, and `out` the label, where ISR is read once more to be printed.
inductive Pc where
  | read
  | write
  | flush
  | unknown
  | serves
  | out
  | returned
deriving DecidableEq

-- `isrReg` is the device's register and `isr` the variable. The fields below
-- record what the write cleared, and the causes that were raised between the
-- read and the write and after the write.
structure System where
  isrReg : BitVec 16
  pc : Pc := .read
  isr : BitVec 16 := 0#16
  handled : Bool := false
  cleared : BitVec 16 := 0#16
  between : BitVec 16 := 0#16
  after : BitVec 16 := 0#16

def acknowledge : BitVec 16 := 0xfff#16

def writeIsr (value : BitVec 16) (s : System) : System :=
  {s with isrReg := s.isrReg &&& ~~~value,cleared := s.isrReg &&& value}

def rtl8139Interrupt (s : System) : System :=
  match s.pc with
  | .read => {s with isr := s.isrReg,pc := .write}
  | .write => {writeIsr acknowledge s with pc := .flush}
  | .flush => {s with pc := .unknown}
  | .unknown =>
      if s.isr &&& intMask = 0#16 then {s with pc := .out}
      else if s.isr = 0xFFFF#16 then {s with handled := true,pc := .out}
      else {s with handled := true,pc := .serves}
  | .serves => {s with pc := .out}
  | .out => {s with pc := .returned}
  | .returned => s

def raises (causes : BitVec 16) (s : System) : System :=
  let raised := {s with isrReg := s.isrReg ||| causes}
  match s.pc with
  | .read => raised
  | .write => {raised with between := s.between ||| causes}
  | _ => {raised with after := s.after ||| causes}

inductive Event where
  | raises (causes : BitVec 16)
  | step

def machine : Machine System Event where
  Allowed s event := match event with
    | .raises _ => True
    | .step => s.pc ≠ .returned
  apply s event := match event with
    | .raises causes => raises causes s
    | .step => rtl8139Interrupt s

instance decidableAllowed : ∀ s event,Decidable (machine.Allowed s event)
  | _,.raises _ => .isTrue trivial
  | s,.step => inferInstanceAs (Decidable (s.pc ≠ .returned))

def entered (pending : BitVec 16) : System := {isrReg := pending}

-- The handler has cleared every cause of INT_MASK that it read and nothing else:
-- a cause raised since the read is known to it or still pending, and whatever is
-- still pending was raised since.
structure Acknowledged (s : System) : Prop where
  clears : Within (s.isr &&& intMask) s.cleared
  only : Within s.cleared s.isr
  kept : Within (s.between ||| s.after) (s.isr ||| s.isrReg)
  recent : Within (s.isrReg &&& intMask) (s.between ||| s.after)

-- The read finds no cause of INT_MASK that 0xfff lacks, and until the write none
-- of 0xfff is raised that it did not find.
def Clean (s : System) : Event → Prop
  | .raises causes => s.pc = .write → Within (causes &&& acknowledge) s.isr
  | .step => s.pc = .read → Within (s.isrReg &&& intMask) acknowledge

instance decidableClean (s : System) : ∀ event,Decidable (Clean s event)
  | .raises causes => inferInstanceAs (Decidable (s.pc = .write → Within (causes &&& acknowledge) s.isr))
  | .step => inferInstanceAs (Decidable (s.pc = .read → Within (s.isrReg &&& intMask) acknowledge))

def Known (s : System) : Prop :=
  match s.pc with
  | .read => s.between = 0#16 ∧ s.after = 0#16
  | .write => s.isrReg = s.isr ||| s.between ∧ s.after = 0#16
  | _ => s.cleared = (s.isr ||| s.between) &&& acknowledge ∧
      s.isrReg = (s.isr ||| s.between) &&& ~~~acknowledge ||| s.after

def Matched (s : System) : Prop :=
  s.pc = .read ∨ Within (s.isr &&& intMask) acknowledge ∧ Within (s.between &&& acknowledge) s.isr

section Handler
variable {s : System}

theorem apply_known (s : System) (event : Event) (known : Known s) (_ : machine.Allowed s event) :
    Known (machine.apply s event) := by
  cases event with
  | raises causes =>
      show Known (raises causes s)
      cases pc : s.pc with
      | read => simpa [Known,raises,pc] using known
      | write =>
          simp only [Known,pc] at known
          simp [Known,raises,pc,known,BitVec.or_assoc]
      | flush | unknown | serves | out | returned =>
          simp only [Known,pc] at known
          simp [Known,raises,pc,known,BitVec.or_assoc]
  | step =>
      show Known (rtl8139Interrupt s)
      cases pc : s.pc with
      | read =>
          simp only [Known,pc] at known
          simp [Known,rtl8139Interrupt,pc,known]
      | write =>
          simp only [Known,pc] at known
          simp [Known,rtl8139Interrupt,writeIsr,pc,known]
      | unknown =>
          simp only [Known,pc] at known
          simp only [rtl8139Interrupt,pc]
          split
          · exact known
          · split
            · exact known
            · exact known
      | flush | serves | out | returned =>
          simp only [Known,pc] at known
          simpa [Known,rtl8139Interrupt,pc] using known

theorem matched_exact (s : System) (event : Event) (known : Known s) (_ : machine.Allowed s event) :
    Matched (machine.apply s event) ↔ Matched s ∧ Clean s event := by
  cases event with
  | raises causes =>
      show Matched (raises causes s) ↔ _
      cases pc : s.pc with
      | read => simp [Matched,Clean,raises,pc]
      | write => simp [Matched,Clean,raises,pc,BitVec.and_or_distrib_right,within_or,and_assoc]
      | flush | unknown | serves | out | returned => simp [Matched,Clean,raises,pc]
  | step =>
      show Matched (rtl8139Interrupt s) ↔ _
      cases pc : s.pc with
      | read =>
          simp only [Known,pc] at known
          simp [Matched,Clean,rtl8139Interrupt,pc,known]
      | unknown =>
          simp only [rtl8139Interrupt,pc]
          split
          · simp [Matched,Clean,pc]
          · split
            · simp [Matched,Clean,pc]
            · simp [Matched,Clean,pc]
      | write | flush | serves | out | returned => simp [Matched,Clean,rtl8139Interrupt,writeIsr,pc]

theorem matched_after (returned : s.pc = .returned) :
    Matched s ↔ Within (s.isr &&& intMask) acknowledge ∧ Within (s.between &&& acknowledge) s.isr := by
  simp [Matched,returned]

theorem matched_of_acknowledged (returned : s.pc = .returned) (known : Known s) (acknowledged : Acknowledged s) :
    Matched s := by
  simp only [Known,returned] at known
  obtain ⟨clears,only,-,-⟩ := acknowledged
  rw [known.1,within_iff] at clears only
  simp only [BitVec.getLsbD_and,BitVec.getLsbD_or,Bool.and_eq_true,Bool.or_eq_true] at clears only
  refine (matched_after returned).mpr ⟨within_iff.mpr fun i read => ?_,within_iff.mpr fun i raised => ?_⟩
  · simp only [BitVec.getLsbD_and,Bool.and_eq_true] at read
    exact (clears i read).2
  · simp only [BitVec.getLsbD_and,Bool.and_eq_true] at raised
    exact only i ⟨.inr raised.1,raised.2⟩

theorem acknowledged_of_matched (returned : s.pc = .returned) (known : Known s) (matched : Matched s) :
    Acknowledged s := by
  simp only [Known,returned] at known
  obtain ⟨cleared,left⟩ := known
  obtain ⟨enough,known⟩ := (matched_after returned).mp matched
  rw [within_iff] at enough known
  simp only [BitVec.getLsbD_and,Bool.and_eq_true] at enough known
  refine ⟨within_iff.mpr fun i read => ?_,within_iff.mpr fun i written => ?_,within_iff.mpr fun i raised => ?_,
    within_iff.mpr fun i pending => ?_⟩
  · simp only [cleared,BitVec.getLsbD_and,BitVec.getLsbD_or,Bool.and_eq_true,Bool.or_eq_true] at *
    exact ⟨.inl read.1,enough i read⟩
  · simp only [cleared,BitVec.getLsbD_and,BitVec.getLsbD_or,Bool.and_eq_true,Bool.or_eq_true] at written
    rcases written with ⟨read | between,written⟩
    · exact read
    · exact known i ⟨between,written⟩
  · have inside := BitVec.lt_of_getLsbD raised
    simp only [left,BitVec.getLsbD_and,BitVec.getLsbD_or,BitVec.getLsbD_not,Bool.or_eq_true] at *
    rcases raised with between | after
    · cases written : acknowledge.getLsbD i with
      | true => exact .inl (known i ⟨between,written⟩)
      | false => simp [between,inside]
    · simp [after]
  · simp only [left,BitVec.getLsbD_and,BitVec.getLsbD_or,BitVec.getLsbD_not,Bool.and_eq_true,Bool.or_eq_true] at *
    rcases pending with ⟨⟨read | between,_,unwritten⟩ | after,enabled⟩
    · simp [enough i ⟨read,enabled⟩] at unwritten
    · exact .inl between
    · exact .inr after

end Handler

theorem acknowledge_exact_iff (pending : BitVec 16) (events : List Event) (path : machine.Runs (entered pending) events)
    (returned : (machine.run (entered pending) events).pc = .returned) :
    Acknowledged (machine.run (entered pending) events) ↔ machine.Along Clean (entered pending) events := by
  have start : Known (entered pending) := ⟨rfl,rfl⟩
  have known := machine.invariant apply_known start path
  have last := Machine.last_exact apply_known matched_exact start path
  have decides : Acknowledged _ ↔ Matched _ :=
    ⟨matched_of_acknowledged returned known,acknowledged_of_matched returned known⟩
  rw [decides,last]
  exact and_iff_right (.inl rfl)

def steps (n : Nat) : List Event := List.replicate n .step

theorem acknowledge_exact_apart :
    Acknowledged (machine.run (entered txOK) ([.raises rxOK] ++ steps 2 ++ [.raises rxErr] ++ steps 4)) := by
  exact (acknowledge_exact_iff txOK _ (by decide +kernel) (by decide +kernel)).mpr (by decide +kernel)

theorem acknowledge_inexact :
    (machine.Runs (entered sysErr) (steps 6) ∧ (machine.run (entered sysErr) (steps 6)).pc = .returned ∧
      ¬ Acknowledged (machine.run (entered sysErr) (steps 6))) ∧
    (machine.Runs (entered txOK) (.step :: .raises rxOK :: steps 5) ∧
      (machine.run (entered txOK) (.step :: .raises rxOK :: steps 5)).pc = .returned ∧
      ¬ Acknowledged (machine.run (entered txOK) (.step :: .raises rxOK :: steps 5))) := by
  refine ⟨⟨by decide +kernel,by decide +kernel,fun acknowledged => ?_⟩,by decide +kernel,by decide +kernel,
    fun acknowledged => ?_⟩
  · exact absurd acknowledged.clears (by decide +kernel)
  · exact absurd acknowledged.only (by decide +kernel)

end LinuxDeviceDrivers.Rtl8139Acknowledge
