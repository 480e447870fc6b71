import LinuxDeviceDrivers.Rtl8139Registers
import LinuxDeviceDrivers.Transition

namespace LinuxDeviceDrivers.Rtl8139HardwareStart
open Transition Rtl8139Registers

def cmdTxEnb : BitVec 8 := 0x04#8
def cmdRxEnb : BitVec 8 := 0x08#8
def cmdReset : BitVec 8 := 0x10#8
def chipCmdClear : BitVec 8 := 0xe2#8

def tcrValue : BitVec 32 := 6#32 <<< 8
def rcrValue : BitVec 32 :=
  (1#32 <<< 12) ||| (7#32 <<< 8) ||| (1#32 <<< 7) ||| (1#32 <<< 3) ||| (1#32 <<< 2) ||| (1#32 <<< 0)

-- The registers that open and stop write. A reset that has been asked for goes
-- on until the chip is done with it.
structure Chip where
  cr : BitVec 8 := 0#8
  resetting : Bool := false
  tcr : BitVec 32 := 0#32
  rcr : BitVec 32 := 0#32
  tsad : Nat → BitVec 32 := fun _ => 0#32
  rbstart : BitVec 32 := 0#32
  mpc : BitVec 32 := 0#32
  mulint : BitVec 16 := 0#16
  imr : BitVec 16 := 0#16

def readCr (chip : Chip) : BitVec 8 := if chip.resetting then chip.cr ||| cmdReset else chip.cr &&& ~~~cmdReset

def writeCr (value : BitVec 8) (chip : Chip) : Chip :=
  {chip with cr := value,resetting := chip.resetting || value &&& cmdReset != 0#8}

def receiving (chip : Chip) : Bool := chip.cr.getLsbD 3 && !chip.resetting
def transmitting (chip : Chip) : Bool := chip.cr.getLsbD 2 && !chip.resetting

def accepting (chip : Chip) : Bool := receiving chip && chip.rcr &&& 0x3F#32 != 0#32

-- The ring as RCR describes it, and how far from RBSTART a packet of `len` bytes
-- reaches that begins at `cbr`: with WRAP it may run past the end.
def ringLength (rcr : BitVec 32) : Nat := 8192 <<< ((rcr >>> 11).toNat % 4)
def reach (rcr : BitVec 32) (cbr len : Nat) : Nat :=
  if rcr.getLsbD 7 then cbr+len else min (cbr+len) (ringLength rcr)

-- rtl8139_hardware_start, and then rtl8139_stop, stand before the write named.
inductive Place where
  | down
  | resets
  | waits (left : Nat)
  | enables
  | writesTcr
  | writesRcr
  | writesTsad (i : Nat)
  | writesRbstart
  | clearsMpc
  | writesMulint
  | writesImr
  | up
  | haltsChip
  | masks
  | countsMissed
  | frees
deriving DecidableEq

-- The rings are named by their bus addresses. `strayed` says that a packet has
-- been written to memory outside the receive ring.
structure System where
  chip : Chip := {}
  place : Place := .down
  txBufsDma : BitVec 32 := 0#32
  rxRingDma : Option (BitVec 32) := none
  strayed : Bool := false

def hardwareStart (s : System) : System :=
  let c := s.chip
  match s.place with
  | .resets => {s with chip := writeCr cmdReset c,place := .waits 1000}
  | .waits 0 => {s with place := .enables}
  | .waits (left+1) => {s with place := if readCr c &&& cmdReset = 0#8 then .enables else .waits left}
  | .enables => {s with chip := writeCr ((readCr c &&& chipCmdClear) ||| cmdTxEnb ||| cmdRxEnb) c,place := .writesTcr}
  | .writesTcr => {s with chip := {c with tcr := tcrValue},place := .writesRcr}
  | .writesRcr => {s with chip := {c with rcr := rcrValue},place := .writesTsad 0}
  | .writesTsad i =>
      let chip := {c with tsad := Function.update c.tsad i (s.txBufsDma+BitVec.ofNat 32 (i*txBufSize))}
      {s with chip := chip,place := if i+1 < numTxDesc then .writesTsad (i+1) else .writesRbstart}
  | .writesRbstart => {s with chip := {c with rbstart := s.rxRingDma.getD 0#32},place := .clearsMpc}
  | .clearsMpc => {s with chip := {c with mpc := 0#32},place := .writesMulint}
  | .writesMulint => {s with chip := {c with mulint := c.mulint &&& 0xF000#16},place := .writesImr}
  | .writesImr => {s with chip := {c with imr := intMask},place := .up}
  | _ => s

def rtl8139Stop (s : System) : System :=
  let c := s.chip
  match s.place with
  | .up => {s with place := .haltsChip}
  | .haltsChip => {s with chip := writeCr 0#8 c,place := .masks}
  | .masks => {s with chip := {c with imr := 0#16},place := .countsMissed}
  | .countsMissed => {s with chip := {c with mpc := 0#32},place := .frees}
  | .frees => {s with rxRingDma := none,place := .down}
  | _ => s

def lands (s : System) (cbr len : Nat) : Bool :=
  decide (s.rxRingDma = some s.chip.rbstart ∧ reach s.chip.rcr cbr len ≤ totalRxBufSize)

-- A finished reset may leave any values in the registers but CR.
inductive Event where
  | opens (txBufsDma rxRingDma : BitVec 32)
  | starts
  | stops
  | resetDone (values : Chip)
  | packet (cbr len : Nat)

-- A packet, its header and its checksum take 1536 bytes at most.
def machine : Machine System Event where
  Allowed s event := match event with
    | .opens _ _ => s.place = .down
    | .resetDone _ => s.chip.resetting = true
    | .packet cbr len => accepting s.chip = true ∧ cbr < ringLength s.chip.rcr ∧ len ≤ 1536
    | _ => True
  apply s event := match event with
    | .opens txBufsDma rxRingDma => {s with txBufsDma := txBufsDma,rxRingDma := some rxRingDma,place := .resets}
    | .starts => hardwareStart s
    | .stops => rtl8139Stop s
    | .resetDone values => {s with chip := {values with cr := 0#8,resetting := false}}
    | .packet cbr len => {s with strayed := s.strayed || !lands s cbr len}

-- How many of the writes from the second on to CR are done.
def Place.writes : Place → Nat
  | writesTcr => 1
  | writesRcr => 2
  | writesTsad i => 3+i
  | writesRbstart => 7
  | clearsMpc => 8
  | writesMulint => 9
  | writesImr => 10
  | up | haltsChip => 11
  | _ => 0

structure Written (n : Nat) (chip : Chip) (txBufsDma : BitVec 32) (rxRingDma : Option (BitVec 32)) : Prop where
  tcr : 2 ≤ n → chip.tcr = tcrValue
  rcr : 3 ≤ n → chip.rcr = rcrValue
  tsad : ∀ i < numTxDesc,4+i ≤ n → chip.tsad i = txBufsDma+BitVec.ofNat 32 (i*txBufSize)
  rbstart : 8 ≤ n → rxRingDma = some chip.rbstart
  mulint : 10 ≤ n → chip.mulint &&& 0x0FFF#16 = 0#16
  imr : 11 ≤ n → chip.imr = intMask

namespace Written
variable {chip : Chip} {tx : BitVec 32} {rx : Option (BitVec 32)}

theorem none (few : n ≤ 1) : Written n chip tx rx :=
  ⟨by omega,by omega,by omega,by omega,by omega,by omega⟩

theorem writesTcr (_ : Written 1 chip tx rx) : Written 2 {chip with tcr := tcrValue} tx rx :=
  ⟨fun _ => rfl,by omega,by omega,by omega,by omega,by omega⟩

theorem writesRcr (before : Written 2 chip tx rx) : Written 3 {chip with rcr := rcrValue} tx rx :=
  ⟨fun _ => before.tcr (by omega),fun _ => rfl,by omega,by omega,by omega,by omega⟩

theorem writesTsad (i : Nat) (before : Written (3+i) chip tx rx) (bound : i < numTxDesc) :
    Written (4+i) {chip with tsad := Function.update chip.tsad i (tx+BitVec.ofNat 32 (i*txBufSize))} tx rx := by
  have four : i < 4 := bound
  refine ⟨fun _ => before.tcr (by omega),fun _ => before.rcr (by omega),?_,by omega,by omega,by omega⟩
  intro j small reached
  by_cases here : j = i
  · subst here
    exact Function.update_self ..
  · exact (Function.update_of_ne here ..).trans (before.tsad j small (by omega))

theorem writesRbstart (before : Written 7 chip tx rx) (ring : rx.isSome = true) :
    Written 8 {chip with rbstart := rx.getD 0#32} tx rx := by
  refine ⟨fun _ => before.tcr (by omega),fun _ => before.rcr (by omega),fun i small _ => before.tsad i small ?_,?_,by omega,by omega⟩
  · have four : i < 4 := small
    omega
  · intro _
    cases rx with
    | none => cases ring
    | some address => rfl

theorem clearsMpc (before : Written 8 chip tx rx) : Written 9 {chip with mpc := 0#32} tx rx :=
  ⟨fun _ => before.tcr (by omega),fun _ => before.rcr (by omega),fun i small _ => before.tsad i small (by have : i < 4 := small; omega),
    fun _ => before.rbstart (by omega),by omega,by omega⟩

theorem writesMulint (before : Written 9 chip tx rx) : Written 10 {chip with mulint := chip.mulint &&& 0xF000#16} tx rx := by
  refine ⟨fun _ => before.tcr (by omega),fun _ => before.rcr (by omega),fun i small _ => before.tsad i small ?_,
    fun _ => before.rbstart (by omega),fun _ => ?_,by omega⟩
  · have four : i < 4 := small
    omega
  · change chip.mulint &&& 0xF000#16 &&& 0x0FFF#16 = 0#16
    rw [BitVec.and_assoc]
    simp

theorem writesImr (before : Written 10 chip tx rx) : Written 11 {chip with imr := intMask} tx rx :=
  ⟨fun _ => before.tcr (by omega),fun _ => before.rcr (by omega),fun i small _ => before.tsad i small (by have : i < 4 := small; omega),
    fun _ => before.rbstart (by omega),fun _ => before.mulint (by omega),fun _ => rfl⟩

end Written

def Reached (s : System) : Prop := Written s.place.writes s.chip s.txBufsDma s.rxRingDma

def Place.inRange : Place → Prop
  | writesTsad i => i < numTxDesc
  | _ => True

structure Sound (s : System) : Prop where
  written : receiving s.chip = true → Reached s
  idle : s.place.writes = 0 → receiving s.chip = false
  ring : s.place ≠ .down → s.rxRingDma.isSome = true
  range : s.place.inRange

theorem Sound.off {s : System} (off : receiving s.chip = false) (ring : s.place ≠ .down → s.rxRingDma.isSome = true)
    (range : s.place.inRange) : Sound s :=
  ⟨fun on => absurd (off.symm.trans on) nofun,fun _ => off,ring,range⟩

theorem Sound.next {s t : System} (sound : Sound s) (same : receiving t.chip = receiving s.chip)
    (ring : t.rxRingDma = s.rxRingDma) (begun : s.place ≠ .down) (later : Reached s → Reached t) (enabled : t.place.writes ≠ 0)
    (range : t.place.inRange) : Sound t :=
  ⟨fun on => later (sound.written (same.symm.trans on)),fun none => absurd none enabled,fun _ => ring ▸ sound.ring begun,range⟩

theorem writeCr_off (value : BitVec 8) (chip : Chip) (off : value.getLsbD 3 = false) : receiving (writeCr value chip) = false := by
  rw [receiving,writeCr]
  simp only [off,Bool.false_and]

theorem hardwareStart_sound {s : System} (sound : Sound s) : Sound (hardwareStart s) := by
  obtain ⟨chip,place,tx,rx,strayed⟩ := s
  have ring := sound.ring
  have idle := sound.idle
  have range := sound.range
  cases place with
  | resets => exact .off (writeCr_off cmdReset chip (by decide)) (fun _ => ring nofun) trivial
  | waits left =>
      cases left with
      | zero => exact .off (idle rfl) (fun _ => ring nofun) trivial
      | succ left =>
          have place : (hardwareStart ⟨chip,.waits (left+1),tx,rx,strayed⟩).place.inRange := by
            simp only [hardwareStart]
            split <;> trivial
          exact .off (idle rfl) (fun _ => ring nofun) place
  | enables => exact ⟨fun _ => .none (Nat.le_refl 1),nofun,fun _ => ring nofun,trivial⟩
  | writesTcr => exact sound.next rfl rfl nofun .writesTcr nofun trivial
  | writesRcr => exact sound.next rfl rfl nofun .writesRcr nofun (show 0 < numTxDesc by decide)
  | writesTsad i =>
      have bound : i < 4 := range
      unfold hardwareStart
      dsimp only
      split
      · rename_i more
        refine sound.next rfl rfl nofun (fun before => ?_) nofun more
        have after := Written.writesTsad i before range
        rw [Nat.add_right_comm 3 1 i] at after
        exact after
      · rename_i last
        have fourth : i = 3 := by
          change ¬ i+1 < 4 at last
          omega
        subst fourth
        exact sound.next rfl rfl nofun (fun before => Written.writesTsad 3 before range) nofun trivial
  | writesRbstart => exact sound.next rfl rfl nofun (fun before => before.writesRbstart (ring nofun)) nofun trivial
  | clearsMpc => exact sound.next rfl rfl nofun .clearsMpc nofun trivial
  | writesMulint => exact sound.next rfl rfl nofun .writesMulint nofun trivial
  | writesImr => exact sound.next rfl rfl nofun .writesImr nofun trivial
  | _ => exact sound

theorem rtl8139Stop_sound {s : System} (sound : Sound s) : Sound (rtl8139Stop s) := by
  obtain ⟨chip,place,tx,rx,strayed⟩ := s
  have ring := sound.ring
  have idle := sound.idle
  cases place with
  | up => exact ⟨sound.written,nofun,fun _ => ring nofun,trivial⟩
  | haltsChip => exact .off (writeCr_off 0#8 chip (by decide)) (fun _ => ring nofun) trivial
  | masks => exact .off (idle rfl) (fun _ => ring nofun) trivial
  | countsMissed => exact .off (idle rfl) (fun _ => ring nofun) trivial
  | frees => exact .off (idle rfl) (fun up => absurd rfl up) trivial
  | _ => exact sound

theorem apply_sound (s : System) (event : Event) (sound : Sound s) (allowed : machine.Allowed s event) :
    Sound (machine.apply s event) := by
  cases event with
  | opens tx rx =>
      have off : receiving s.chip = false := sound.idle (by rw [allowed]; rfl)
      exact .off off (fun _ => rfl) trivial
  | starts => exact hardwareStart_sound sound
  | stops => exact rtl8139Stop_sound sound
  | resetDone values =>
      have off : receiving {values with cr := 0#8,resetting := false} = false := by simp [receiving]
      exact .off off sound.ring sound.range
  | packet cbr len => exact ⟨sound.written,sound.idle,sound.ring,sound.range⟩

def Configured (s : System) : Prop :=
  1 ≤ s.place.writes → receiving s.chip = true ∧ transmitting s.chip = true ∧ Reached s

-- The reset is over when the driver stops waiting for it.
def Patient (s : System) (event : Event) : Prop :=
  match event with
  | .starts => s.place = .enables → s.chip.resetting = false
  | _ => True

theorem enabled_bits (read : BitVec 8) :
    let value := (read &&& chipCmdClear) ||| cmdTxEnb ||| cmdRxEnb
    value.getLsbD 3 = true ∧ value.getLsbD 2 = true ∧ value &&& cmdReset = 0#8 := by
  revert read
  decide

theorem enables_iff {s : System} (place : s.place = .enables) :
    Configured (hardwareStart s) ↔ s.chip.resetting = false := by
  obtain ⟨chip,_,tx,rx,strayed⟩ := s
  cases place
  obtain ⟨rx,tx,reset⟩ := enabled_bits (readCr chip)
  have on : receiving (writeCr ((readCr chip &&& chipCmdClear) ||| cmdTxEnb ||| cmdRxEnb) chip) = !chip.resetting := by
    rw [receiving,writeCr]
    simp only [rx,reset,bne_self_eq_false,Bool.or_false,Bool.true_and]
  have sends : transmitting (writeCr ((readCr chip &&& chipCmdClear) ||| cmdTxEnb ||| cmdRxEnb) chip) = !chip.resetting := by
    rw [transmitting,writeCr]
    simp only [tx,reset,bne_self_eq_false,Bool.or_false,Bool.true_and]
  constructor
  · intro configured
    have receives := (configured (Nat.le_refl 1)).1
    change receiving (writeCr _ chip) = true at receives
    rw [on] at receives
    exact Bool.not_eq_true' _ |>.mp receives
  · intro ended _
    refine ⟨?_,?_,.none (Nat.le_refl 1)⟩
    · change receiving (writeCr _ chip) = true
      rw [on,ended]
      rfl
    · change transmitting (writeCr _ chip) = true
      rw [sends,ended]
      rfl

theorem Configured.next {s t : System} (configured : Configured s) (begun : 1 ≤ s.place.writes)
    (same : t.chip.cr = s.chip.cr ∧ t.chip.resetting = s.chip.resetting) (sound : Sound t) : Configured t := by
  obtain ⟨on,sends,_⟩ := configured begun
  have receives : receiving t.chip = true := by rw [receiving,same.1,same.2]; exact on
  have transmits : transmitting t.chip = true := by rw [transmitting,same.1,same.2]; exact sends
  exact fun _ => ⟨receives,transmits,sound.written receives⟩

theorem Configured.off {s : System} (none : s.place.writes = 0) : Configured s := fun begun => absurd begun (by omega)

theorem hardwareStart_configured {s : System} (sound : Sound s) (configured : Configured s) (other : s.place ≠ .enables) :
    Configured (hardwareStart s) := by
  have after := hardwareStart_sound sound
  obtain ⟨chip,place,tx,rx,strayed⟩ := s
  cases place with
  | resets => exact .off rfl
  | waits left =>
      cases left with
      | zero => exact .off rfl
      | succ left =>
          refine .off ?_
          simp only [hardwareStart]
          split <;> rfl
  | enables => exact absurd rfl other
  | writesTsad i => exact configured.next (Nat.le_add_right_of_le (by decide)) ⟨rfl,rfl⟩ after
  | writesTcr => exact configured.next (Nat.le_add_left 1 _) ⟨rfl,rfl⟩ after
  | writesRcr => exact configured.next (Nat.le_add_left 1 _) ⟨rfl,rfl⟩ after
  | writesRbstart => exact configured.next (Nat.le_add_left 1 _) ⟨rfl,rfl⟩ after
  | clearsMpc => exact configured.next (Nat.le_add_left 1 _) ⟨rfl,rfl⟩ after
  | writesMulint => exact configured.next (Nat.le_add_left 1 _) ⟨rfl,rfl⟩ after
  | writesImr => exact configured.next (Nat.le_add_left 1 _) ⟨rfl,rfl⟩ after
  | _ => exact configured

theorem rtl8139Stop_configured {s : System} (sound : Sound s) (configured : Configured s) : Configured (rtl8139Stop s) := by
  have after := rtl8139Stop_sound sound
  obtain ⟨chip,place,tx,rx,strayed⟩ := s
  cases place with
  | up => exact configured.next (Nat.le_add_left 1 _) ⟨rfl,rfl⟩ after
  | haltsChip => exact .off rfl
  | masks => exact .off rfl
  | countsMissed => exact .off rfl
  | frees => exact .off rfl
  | _ => exact configured

theorem apply_configured_iff (s : System) (event : Event) (before : Sound s ∧ Configured s) (allowed : machine.Allowed s event) :
    Patient s event ↔ Configured (machine.apply s event) := by
  obtain ⟨sound,configured⟩ := before
  cases event with
  | opens tx rx => exact iff_of_true trivial (.off rfl)
  | starts =>
      by_cases place : s.place = .enables
      · exact (forall_prop_of_true place).trans (enables_iff place).symm
      · exact iff_of_true (fun here => absurd here place) (hardwareStart_configured sound configured place)
  | stops => exact iff_of_true trivial (rtl8139Stop_configured sound configured)
  | resetDone values =>
      refine iff_of_true trivial (.off ?_)
      by_contra begun
      have on := (configured (Nat.pos_of_ne_zero begun)).1
      have busy : s.chip.resetting = true := allowed
      simp [receiving,busy] at on
  | packet cbr len => exact iff_of_true trivial configured

theorem configured_iff (events : List Event) (path : machine.Runs {} events) :
    machine.Throughout Configured {} events ↔ machine.Along Patient {} events := by
  refine Machine.throughout_exact (fun _ both => both.2) apply_configured_iff ?_ ?_ path
  · intro s event both allowed patient
    exact ⟨apply_sound s event both.1 allowed,(apply_configured_iff s event both allowed).mp patient⟩
  · exact ⟨.off rfl (fun up => absurd rfl up) trivial,.off rfl⟩

instance (s : System) (event : Event) : Decidable (machine.Allowed s event) := by
  cases event with
  | opens tx rx => exact inferInstanceAs (Decidable (s.place = .down))
  | starts => exact inferInstanceAs (Decidable True)
  | stops => exact inferInstanceAs (Decidable True)
  | resetDone values => exact inferInstanceAs (Decidable (s.chip.resetting = true))
  | packet cbr len =>
      exact inferInstanceAs (Decidable (accepting s.chip = true ∧ cbr < ringLength s.chip.rcr ∧ len ≤ 1536))

instance (s : System) (event : Event) : Decidable (Patient s event) := by
  cases event with
  | starts => exact inferInstanceAs (Decidable (s.place = .enables → s.chip.resetting = false))
  | _ => exact inferInstanceAs (Decidable True)

def session : List Event :=
  [.opens 0x1000#32 0x8000#32,.starts,.starts,.resetDone {}] ++ List.replicate 14 .starts ++ [.packet 32767 1536] ++ List.replicate 5 .stops

theorem configured_iff_session : machine.Throughout Configured {} session :=
  (configured_iff session (by decide)).mpr (by decide)

section ReceiveRing

-- A packet that comes in before RBSTART is written still lands in the ring.
def Aimed (s : System) (event : Event) : Prop :=
  match event with
  | .packet cbr len => s.place.writes < 8 → lands s cbr len = true
  | _ => True

instance (s : System) (event : Event) : Decidable (Aimed s event) := by
  cases event with
  | packet cbr len => exact inferInstanceAs (Decidable (s.place.writes < 8 → lands s cbr len = true))
  | _ => exact inferInstanceAs (Decidable True)

theorem reach_fits (inside : cbr < ringLength rcrValue) (short : len ≤ 1536) : reach rcrValue cbr len ≤ totalRxBufSize := by
  have length : ringLength rcrValue = 32768 := by decide
  have wraps : rcrValue.getLsbD 7 = true := by decide
  rw [length] at inside
  rw [reach,if_pos wraps,totalRxBufSize_eq]
  omega

theorem packet_lands {s : System} (sound : Sound s) (accepts : accepting s.chip = true) (inside : cbr < ringLength s.chip.rcr)
    (short : len ≤ 1536) (aimed : 8 ≤ s.place.writes) : lands s cbr len = true := by
  have on : receiving s.chip = true := by
    rw [accepting,Bool.and_eq_true] at accepts
    exact accepts.1
  have written := sound.written on
  have rcr := written.rcr (by omega)
  rw [rcr] at inside
  rw [lands,rcr]
  exact decide_eq_true ⟨written.rbstart aimed,reach_fits inside short⟩

theorem hardwareStart_strayed (s : System) : (hardwareStart s).strayed = s.strayed := by
  obtain ⟨chip,place,tx,rx,strayed⟩ := s
  cases place with
  | waits left => cases left <;> rfl
  | _ => rfl

theorem rtl8139Stop_strayed (s : System) : (rtl8139Stop s).strayed = s.strayed := by
  obtain ⟨chip,place,tx,rx,strayed⟩ := s
  cases place <;> rfl

theorem apply_aimed_iff (s : System) (event : Event) (before : Sound s ∧ s.strayed = false) (allowed : machine.Allowed s event) :
    Aimed s event ↔ (machine.apply s event).strayed = false := by
  obtain ⟨sound,inside⟩ := before
  cases event with
  | opens tx rx => exact iff_of_true trivial inside
  | starts => exact iff_of_true trivial ((hardwareStart_strayed s).trans inside)
  | stops => exact iff_of_true trivial ((rtl8139Stop_strayed s).trans inside)
  | resetDone values => exact iff_of_true trivial inside
  | packet cbr len =>
      have landed : (machine.apply s (.packet cbr len)).strayed = false ↔ lands s cbr len = true := by
        change (s.strayed || !lands s cbr len) = false ↔ _
        rw [inside,Bool.false_or,Bool.not_eq_false']
      rw [landed]
      by_cases early : s.place.writes < 8
      · exact forall_prop_of_true early
      · exact iff_of_true (fun now => absurd now early) (packet_lands sound allowed.1 allowed.2.1 allowed.2.2 (by omega))

-- No packet is ever written outside the ring that open allocated, and none after
-- stop has freed it, exactly as long as none that misses the ring comes in
-- between the write that enables the receiver and the one to RBSTART.
theorem ring_kept_iff (events : List Event) (path : machine.Runs {} events) :
    machine.Throughout (fun s => s.strayed = false) {} events ↔ machine.Along Aimed {} events := by
  refine Machine.throughout_exact (fun _ both => both.2) apply_aimed_iff ?_ ?_ path
  · intro s event both allowed aimed
    exact ⟨apply_sound s event both.1 allowed,(apply_aimed_iff s event both allowed).mp aimed⟩
  · exact ⟨.off rfl (fun up => absurd rfl up) trivial,rfl⟩

def earlyPacket : List Event :=
  [.opens 0x1000#32 0x8000#32,.starts,.starts,.resetDone {}] ++ List.replicate 5 .starts ++ [.packet 0 64]

theorem ring_kept_early : machine.Runs {} earlyPacket ∧ ¬ machine.Throughout (fun s => s.strayed = false) {} earlyPacket := by
  have path : machine.Runs {} earlyPacket := by decide
  exact ⟨path,fun all => absurd ((ring_kept_iff earlyPacket path).mp all) (by decide)⟩

end ReceiveRing

end LinuxDeviceDrivers.Rtl8139HardwareStart
