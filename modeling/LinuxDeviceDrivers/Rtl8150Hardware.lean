import LinuxDeviceDrivers.Transition

namespace LinuxDeviceDrivers.Rtl8150Hardware
open Transition

-- CR: bit 4 resets the chip, bits 3 and 2 enable the receiver and the transmitter.
def crReset : UInt8 := 0x10
def crEnables : UInt8 := 0x0c
def rcrValue : UInt8 := 0x9e
def tcrValue : UInt8 := 0xd8
def cscrLinkStatus : UInt8 := 0x08

-- A reset that has been asked for goes on until the chip is done with it.
structure Chip where
  cr : UInt8 := 0
  rcr : UInt8 := 0
  tcr : UInt8 := 0
  cscr : UInt8 := 0
  resetting : Bool := false

def readCr (chip : Chip) : UInt8 := if chip.resetting then chip.cr ||| crReset else chip.cr &&& ~~~crReset
def writeCr (value : UInt8) (chip : Chip) : Chip :=
  {chip with cr := value,resetting := chip.resetting || value &&& crReset != 0}

-- Where the interface stands: down, up, or in rtl8150_open or rtl8150_close
-- before the control message named.
inductive Place where
  | down
  | writesIdr
  | submits
  | writesReset
  | polls (i : Nat)
  | writesRcr
  | writesTcr
  | writesCr
  | readsCscr
  | up
  | readsCr
  | masksCr
deriving DecidableEq

-- `data` and `tmp` are variables of rtl8150_hardware_start, `cr` is one of
-- rtl8150_close; `messages` counts what the current call has sent.
structure System where
  chip : Chip
  place : Place := .down
  data : UInt8 := 0
  tmp : UInt8 := 0
  cr : UInt8 := 0
  carrier : Bool := true
  messages : Nat := 0

-- A message that fails is one that never arrived; nobody looks at its result.
def writes (arrived : Bool) (register : Chip → Chip) (s : System) : System :=
  {s with chip := if arrived then register s.chip else s.chip,messages := s.messages+1}

def rtl8150Open (arrived : Bool) (s : System) : System := {writes arrived id s with place := .submits}
def submits (accepted : Bool) (s : System) : System := {s with place := if accepted then .writesReset else .down}

def again (data : UInt8) (i : Nat) : Place := if data &&& crReset ≠ 0 ∧ i-1 ≠ 0 then .polls (i-1) else .writesRcr

-- A read that fails leaves the variable alone.
def rtl8150HardwareStart (hz : Nat) (arrived : Bool) (s : System) : System :=
  match s.place with
  | .writesReset => {writes arrived (writeCr crReset) s with data := crReset,place := .polls hz}
  | .polls i =>
      let data := if arrived then readCr s.chip else s.data
      {writes arrived id s with data := data,place := again data i}
  | .writesRcr => {writes arrived (fun chip => {chip with rcr := rcrValue}) s with place := .writesTcr}
  | .writesTcr => {writes arrived (fun chip => {chip with tcr := tcrValue}) s with place := .writesCr}
  | .writesCr => {writes arrived (writeCr crEnables) s with place := .readsCscr}
  | .readsCscr =>
      let tmp := if arrived then s.chip.cscr else s.tmp
      {writes arrived id s with tmp := tmp,carrier := tmp &&& cscrLinkStatus != 0,place := .up}
  | _ => s

def rtl8150Close (arrived : Bool) (s : System) : System :=
  match s.place with
  | .readsCr => {writes arrived id s with cr := if arrived then readCr s.chip else s.cr,place := .masksCr}
  | .masksCr => {writes arrived (writeCr (s.cr &&& 0xf3)) s with place := .down}
  | _ => s

def message (hz : Nat) (arrived : Bool) (s : System) : System :=
  match s.place with
  | .writesIdr => rtl8150Open arrived s
  | .readsCr | .masksCr => rtl8150Close arrived s
  | _ => rtl8150HardwareStart hz arrived s

def Place.sends : Place → Bool
  | down | submits | up => false
  | _ => true

-- The variables tmp and cr start out with whatever is on the stack. A finished
-- reset may leave any values in the registers but CR.
inductive Event where
  | opens (tmp : UInt8)
  | submits (accepted : Bool)
  | message (arrived : Bool)
  | closes (cr : UInt8)
  | resetDone (rcr tcr : UInt8)
  | cable (cscr : UInt8)

def machine (hz : Nat) : Machine System Event where
  Allowed s event := match event with
    | .opens _ => s.place = .down
    | .submits _ => s.place = .submits
    | .message _ => s.place.sends = true
    | .closes _ => s.place = .up
    | .resetDone _ _ => s.chip.resetting = true
    | .cable _ => True
  apply s event := match event with
    | .opens tmp => {s with place := .writesIdr,tmp := tmp,messages := 0}
    | .submits accepted => submits accepted s
    | .message arrived => message hz arrived s
    | .closes cr => {s with place := .readsCr,cr := cr,messages := 0}
    | .resetDone rcr tcr => {s with chip := {s.chip with cr := 0,rcr := rcr,tcr := tcr,resetting := false}}
    | .cable cscr => {s with chip := {s.chip with cscr := cscr}}

def plugged (chip : Chip) : System := {chip := chip}

-- How many of the writes to RCR, TCR and CR are done and not undone by close.
def Place.writes : Place → Nat
  | writesTcr => 1
  | writesCr => 2
  | readsCscr | up | readsCr | masksCr => 3
  | _ => 0

structure Written (n : Nat) (chip : Chip) : Prop where
  rcr : 1 ≤ n → chip.rcr = rcrValue
  tcr : 2 ≤ n → chip.tcr = tcrValue
  enables : chip.cr &&& crEnables = if 3 ≤ n then crEnables else 0
  kept : 1 ≤ n → chip.resetting = false

def Follows (s : System) : Prop := Written s.place.writes s.chip

-- The register writes arrive, or the register holds the value already, and a
-- driver that gave up waiting finds the reset over. The write that resets the
-- chip and all that is read may fail.
def Arrives (s : System) : Event → Prop
  | .message arrived => match s.place with
      | .writesRcr => (s.data &&& crReset ≠ 0 → s.chip.resetting = false) ∧ (arrived = true ∨ s.chip.rcr = rcrValue)
      | .writesTcr => arrived = true ∨ s.chip.tcr = tcrValue
      | .writesCr | .masksCr => arrived = true
      | _ => True
  | _ => True

def Place.left (hz : Nat) : Place → Nat
  | writesIdr => hz+6
  | submits | writesReset => hz+5
  | polls i => i+4
  | writesRcr => 4
  | writesTcr => 3
  | writesCr => 2
  | readsCscr => 1
  | readsCr => 2
  | masksCr => 1
  | down | up => 0

structure Sound (hz : Nat) (s : System) : Prop where
  waiting : s.place = .polls i → 0 < i ∧ s.data &&& crReset ≠ 0
  seen : s.place = .writesRcr → s.data &&& crReset = 0 → s.chip.resetting = false
  budget : s.messages+s.place.left hz ≤ hz+6

section Registers
variable {chip : Chip}

theorem reset_read (value : UInt8) : (value ||| crReset) &&& crReset = crReset := by
  rw [← UInt8.toBitVec_inj]
  simp only [UInt8.toBitVec_and,UInt8.toBitVec_or]
  generalize value.toBitVec = bits
  revert bits
  decide

theorem readCr_done (clear : readCr chip &&& crReset = 0) : chip.resetting = false := by
  by_contra busy
  rw [readCr,if_pos (Bool.not_eq_false _ |>.mp busy),reset_read] at clear
  exact absurd clear (by decide)

theorem masked_off (value : UInt8) : value &&& 0xf3 &&& crEnables = 0 := by
  rw [UInt8.and_assoc]
  exact UInt8.and_zero

namespace Written

theorem off (enables : chip.cr &&& crEnables = 0) : Written 0 chip := ⟨nofun,nofun,enables,nofun⟩

theorem rcr_iff (before : Written 0 chip) (arrived : Bool) :
    Written 1 (if arrived then {chip with rcr := rcrValue} else chip) ↔
      chip.resetting = false ∧ (arrived = true ∨ chip.rcr = rcrValue) := by
  have off : chip.cr &&& crEnables = 0 := before.enables
  cases arrived with
  | true => exact ⟨fun after => ⟨after.kept (Nat.le_refl 1),.inl rfl⟩,fun ready => ⟨fun _ => rfl,by omega,off,fun _ => ready.1⟩⟩
  | false =>
      constructor
      · exact fun after => ⟨after.kept (Nat.le_refl 1),.inr (after.rcr (Nat.le_refl 1))⟩
      · rintro ⟨ended,lost | holds⟩
        · cases lost
        · exact ⟨fun _ => holds,by omega,off,fun _ => ended⟩

theorem tcr_iff (before : Written 1 chip) (arrived : Bool) :
    Written 2 (if arrived then {chip with tcr := tcrValue} else chip) ↔ arrived = true ∨ chip.tcr = tcrValue := by
  have rcr := before.rcr (Nat.le_refl 1)
  have ended := before.kept (Nat.le_refl 1)
  have off : chip.cr &&& crEnables = 0 := before.enables
  cases arrived with
  | true => exact iff_of_true ⟨fun _ => rcr,fun _ => rfl,off,fun _ => ended⟩ (.inl rfl)
  | false =>
      constructor
      · exact fun after => .inr (after.tcr (Nat.le_refl 2))
      · rintro (lost | holds)
        · cases lost
        · exact ⟨fun _ => rcr,fun _ => holds,off,fun _ => ended⟩

theorem cr_iff (before : Written 2 chip) (arrived : Bool) :
    Written 3 (if arrived then writeCr crEnables chip else chip) ↔ arrived = true := by
  have ended := before.kept (by decide)
  cases arrived with
  | true =>
      have ready : (writeCr crEnables chip).resetting = false := by
        rw [writeCr,ended]
        rfl
      have on : crEnables &&& crEnables = crEnables := by decide
      exact iff_of_true ⟨fun _ => before.rcr (by decide),fun _ => before.tcr (by decide),on,fun _ => ready⟩ rfl
  | false =>
      refine iff_of_false (fun after => ?_) nofun
      have on : chip.cr &&& crEnables = crEnables := after.enables
      have off : chip.cr &&& crEnables = 0 := before.enables
      exact absurd (off.symm.trans on) (by decide)

theorem mask_iff (before : Written 3 chip) (value : UInt8) (arrived : Bool) :
    Written 0 (if arrived then writeCr (value &&& 0xf3) chip else chip) ↔ arrived = true := by
  cases arrived with
  | true => exact iff_of_true (off (masked_off value)) rfl
  | false =>
      refine iff_of_false (fun after => ?_) nofun
      have on : chip.cr &&& crEnables = crEnables := before.enables
      have off : chip.cr &&& crEnables = 0 := after.enables
      exact absurd (off.symm.trans on) (by decide)

end Written

end Registers

section Steps
variable {hz : Nat} {s : System}

theorem again_cases (data : UInt8) (i : Nat) :
    again data i = .polls (i-1) ∧ i-1 ≠ 0 ∧ data &&& crReset ≠ 0 ∨ again data i = .writesRcr := by
  unfold again
  split
  · rename_i busy
    exact .inl ⟨rfl,busy.2,busy.1⟩
  · exact .inr rfl

theorem message_spends (hz : Nat) (arrived : Bool) (sends : s.place.sends = true) (waiting : ∀ i,s.place = .polls i → 0 < i) :
    (message hz arrived s).messages = s.messages+1 ∧ (message hz arrived s).place.left hz+1 ≤ s.place.left hz := by
  obtain ⟨chip,place,data,tmp,cr,carrier,messages⟩ := s
  cases place with
  | polls i =>
      have some : 0 < i := waiting i rfl
      refine ⟨rfl,?_⟩
      change (again _ i).left hz+1 ≤ i+4
      rcases again_cases (if arrived then readCr chip else data) i with ⟨more,_,_⟩ | ended
      · rw [more,Place.left]
        omega
      · rw [ended,Place.left]
        omega
  | down => cases sends
  | submits => cases sends
  | up => cases sends
  | _ => exact ⟨rfl,Nat.le_refl _⟩

theorem polls_sound (arrived : Bool) (sound : Sound hz s) (place : s.place = .polls i) :
    Sound hz (message hz arrived s) := by
  obtain ⟨chip,_,data,tmp,cr,carrier,messages⟩ := s
  cases place
  obtain ⟨some,set⟩ := sound.waiting rfl
  have spent := message_spends hz arrived rfl fun i here => (sound.waiting here).1
  refine ⟨?_,?_,by have budget := sound.budget; omega⟩
  · intro j here
    change again (if arrived then readCr chip else data) i = .polls j at here
    show 0 < j ∧ (if arrived then readCr chip else data) &&& crReset ≠ 0
    rcases again_cases (if arrived then readCr chip else data) i with ⟨more,left,busy⟩ | ended
    · rw [more] at here
      cases here
      exact ⟨Nat.pos_of_ne_zero left,busy⟩
    · rw [ended] at here
      cases here
  · intro _ clear
    cases arrived with
    | true => exact readCr_done clear
    | false => exact absurd clear set

theorem message_sound (arrived : Bool) (sound : Sound hz s) (positive : 0 < hz) (sends : s.place.sends = true) :
    Sound hz (message hz arrived s) := by
  have spent := message_spends hz arrived sends fun i here => (sound.waiting here).1
  have within : (message hz arrived s).messages+(message hz arrived s).place.left hz ≤ hz+6 := by
    have budget := sound.budget
    omega
  cases place : s.place with
  | polls i => exact polls_sound arrived sound place
  | writesReset =>
      refine ⟨fun {i} here => ?_,fun here => ?_,within⟩
      · simp only [message,place,rtl8150HardwareStart,Place.polls.injEq] at here ⊢
        exact ⟨here ▸ positive,by decide⟩
      · simp [message,place,rtl8150HardwareStart] at here
  | _ =>
      refine ⟨fun {i} here => ?_,fun here => ?_,within⟩
      all_goals simp [message,place,rtl8150Open,rtl8150HardwareStart,rtl8150Close] at here

theorem Sound.elsewhere {t : System} (still : ∀ i,t.place ≠ .polls i) (unset : t.place ≠ .writesRcr)
    (budget : t.messages+t.place.left hz ≤ hz+6) : Sound hz t :=
  ⟨fun here => absurd here (still _),fun here => absurd here unset,budget⟩

theorem apply_sound (positive : 0 < hz) (s : System) (event : Event) (sound : Sound hz s)
    (allowed : (machine hz).Allowed s event) : Sound hz ((machine hz).apply s event) := by
  have budget := sound.budget
  cases event with
  | opens tmp => exact .elsewhere nofun nofun (by simp [machine,Place.left])
  | submits accepted =>
      have place : s.place = .submits := allowed
      rw [place,Place.left] at budget
      cases accepted with
      | true => exact .elsewhere nofun nofun budget
      | false =>
          refine .elsewhere nofun nofun ?_
          show s.messages+0 ≤ hz+6
          omega
  | message arrived => exact message_sound arrived sound positive allowed
  | closes cr => exact .elsewhere nofun nofun (by simp [machine,Place.left])
  | resetDone rcr tcr => exact ⟨sound.waiting,fun _ _ => rfl,budget⟩
  | cable cscr => exact ⟨sound.waiting,sound.seen,budget⟩

theorem message_follows_iff (arrived : Bool) (sound : Sound hz s) (follows : Follows s) (sends : s.place.sends = true) :
    Arrives s (.message arrived) ↔ Follows (message hz arrived s) := by
  have seen := sound.seen
  obtain ⟨chip,place,data,tmp,cr,carrier,messages⟩ := s
  have unwritten {n : Nat} (before : Written n chip) : Written n (if arrived then id chip else chip) := by
    cases arrived <;> exact before
  cases place with
  | down => cases sends
  | submits => cases sends
  | up => cases sends
  | writesIdr => exact iff_of_true trivial (unwritten follows)
  | writesReset =>
      refine iff_of_true trivial ?_
      cases arrived with
      | true => exact .off (show crReset &&& crEnables = 0 by decide)
      | false => exact follows
  | polls i =>
      refine iff_of_true trivial ?_
      have none : (message hz arrived ⟨chip,.polls i,data,tmp,cr,carrier,messages⟩).place.writes = 0 := by
        rcases again_cases (if arrived then readCr chip else data) i with ⟨more,_,_⟩ | ended
        · exact congrArg Place.writes more
        · exact congrArg Place.writes ended
      rw [Follows,none]
      exact unwritten follows
  | writesRcr =>
      have ended : (data &&& crReset ≠ 0 → chip.resetting = false) ↔ chip.resetting = false := by
        refine ⟨fun gaveUp => ?_,fun ended _ => ended⟩
        by_cases clear : data &&& crReset = 0
        · exact seen rfl clear
        · exact gaveUp clear
      exact (and_congr_left fun _ => ended).trans (Written.rcr_iff follows arrived).symm
  | writesTcr => exact (Written.tcr_iff follows arrived).symm
  | writesCr => exact (Written.cr_iff follows arrived).symm
  | readsCscr => exact iff_of_true trivial (unwritten follows)
  | readsCr => exact iff_of_true trivial (unwritten follows)
  | masksCr => exact (Written.mask_iff follows cr arrived).symm

theorem apply_follows_iff (s : System) (event : Event) (both : Sound hz s ∧ Follows s)
    (allowed : (machine hz).Allowed s event) : Arrives s event ↔ Follows ((machine hz).apply s event) := by
  obtain ⟨sound,follows⟩ := both
  cases event with
  | opens tmp =>
      have place : s.place = .down := allowed
      rw [Follows,place] at follows
      exact iff_of_true trivial follows
  | submits accepted =>
      have place : s.place = .submits := allowed
      rw [Follows,place] at follows
      cases accepted <;> exact iff_of_true trivial follows
  | message arrived => exact message_follows_iff arrived sound follows allowed
  | closes cr =>
      have place : s.place = .up := allowed
      rw [Follows,place] at follows
      exact iff_of_true trivial follows
  | resetDone rcr tcr =>
      have none : s.place.writes = 0 := by
        by_contra begun
        have ended := follows.kept (Nat.pos_of_ne_zero begun)
        exact absurd (ended.symm.trans allowed) nofun
      refine iff_of_true trivial ?_
      show Written s.place.writes _
      rw [none]
      exact .off (show (0 : UInt8) &&& crEnables = 0 by decide)
  | cable cscr => exact iff_of_true trivial ⟨follows.rcr,follows.tcr,follows.enables,follows.kept⟩

end Steps

instance (hz : Nat) (s : System) (event : Event) : Decidable ((machine hz).Allowed s event) := by
  cases event with
  | opens tmp => exact inferInstanceAs (Decidable (s.place = .down))
  | submits accepted => exact inferInstanceAs (Decidable (s.place = .submits))
  | message arrived => exact inferInstanceAs (Decidable (s.place.sends = true))
  | closes cr => exact inferInstanceAs (Decidable (s.place = .up))
  | resetDone rcr tcr => exact inferInstanceAs (Decidable (s.chip.resetting = true))
  | cable cscr => exact inferInstanceAs (Decidable True)

instance (s : System) (event : Event) : Decidable (Arrives s event) := by
  cases event with
  | message arrived =>
      obtain ⟨chip,place,data,tmp,cr,carrier,messages⟩ := s
      cases place with
      | writesRcr =>
          exact inferInstanceAs (Decidable
            ((data &&& crReset ≠ 0 → chip.resetting = false) ∧ (arrived = true ∨ chip.rcr = rcrValue)))
      | writesTcr => exact inferInstanceAs (Decidable (arrived = true ∨ chip.tcr = tcrValue))
      | writesCr => exact inferInstanceAs (Decidable (arrived = true))
      | masksCr => exact inferInstanceAs (Decidable (arrived = true))
      | _ => exact inferInstanceAs (Decidable True)
  | _ => exact inferInstanceAs (Decidable True)

def session : List Event :=
  [.opens 0,.message true,.submits false,.opens 0,.message false,.submits true,.message true,
    .message true,.message false,.message true,.resetDone 0 0,.message true,.message true,.message true,.message true,
    .cable 0x08,.message true,.closes 0xff,.message false,.message true,
    .opens 0,.message true,.submits true,.message true,.resetDone 0 0,.message true,.message true]

def impatient : List Event :=
  [.opens 0,.message true,.submits true,.message true,.message true,.message true,.message true,.message true,
    .message true,.resetDone 0 0,.message true]

end LinuxDeviceDrivers.Rtl8150Hardware
