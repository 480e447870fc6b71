import LinuxDeviceDrivers.Rtl8139Receive
import LinuxDeviceDrivers.WordAlignment

namespace LinuxDeviceDrivers.Rtl8139ReadPointer
open Transition ByteStore Rtl8139Registers

structure Pointer where
  curRx : BitVec 32 := 0#32
  capr : BitVec 16

def addressWrap (curRx : BitVec 32) : BitVec 32 :=
  if BitVec.ofNat 32 rxBufLen < curRx then curRx % BitVec.ofNat 32 rxBufLen else curRx

-- `(priv->cur_rx + rx_size + 4 + 3) & ~3`
def advance (curRx : BitVec 32) (rxSize : BitVec 16) : BitVec 32 :=
  (curRx+rxSize.setWidth 32+4#32+3#32) &&& ~~~3#32

-- `(u16)(priv->cur_rx-16)`
def readPosition (curRx : BitVec 32) : BitVec 16 := (curRx-16#32).setWidth 16

def consume (rxSize : BitVec 16) (p : Pointer) : Pointer :=
  let curRx := advance (addressWrap p.curRx) rxSize
  ⟨curRx,readPosition curRx⟩

def machine : Machine Pointer (BitVec 16) where
  Allowed _ _ := True
  apply p rxSize := consume rxSize p

structure Placed (p : Pointer) : Prop where
  aligned : 4 ∣ p.curRx.toNat
  near : p.curRx.toNat ≤ rxBufLen+0xFFFF+7

-- What holds of one iteration: `fits` says that the 32-bit sum is the exact one,
-- `congruent` that the device resumes where the driver will.
structure Tracks (p : Pointer) (rxSize : BitVec 16) : Prop where
  header : 4 ∣ (addressWrap p.curRx).toNat
  fits : (addressWrap p.curRx).toNat+rxSize.toNat+4+3 < 0x100000000
  aligned : 4 ∣ (consume rxSize p).curRx.toNat
  congruent : ((consume rxSize p).capr.toNat+16) % rxBufLen = (consume rxSize p).curRx.toNat % rxBufLen

section Arithmetic
variable {p : Pointer} {curRx : BitVec 32}

theorem dwordAlign_toNat (value : BitVec 32) : (value &&& ~~~3#32).toNat = Rtl8139Receive.dwordAlign value.toNat := by
  have aligned : value &&& ~~~3#32 = WordAlignment.alignDown 2 value := rfl
  rw [aligned,WordAlignment.alignDown_toNat (by decide)]
  rfl

theorem addressWrap_toNat (curRx : BitVec 32) :
    (addressWrap curRx).toNat = Rtl8139Receive.addressWrap curRx.toNat := by
  have length : (BitVec.ofNat 32 rxBufLen).toNat = rxBufLen := rfl
  simp only [addressWrap,Rtl8139Receive.addressWrap,BitVec.lt_def,length]
  split
  · rw [BitVec.toNat_umod,length]
  · rfl

theorem addressWrap_le (curRx : Nat) : Rtl8139Receive.addressWrap curRx ≤ rxBufLen := by
  unfold Rtl8139Receive.addressWrap
  split
  · exact Nat.le_of_lt (Nat.mod_lt _ Rtl8139Receive.rxBufLen_pos)
  · omega

theorem addressWrap_aligned (aligned : 4 ∣ curRx.toNat) : 4 ∣ (addressWrap curRx).toNat := by
  rw [addressWrap_toNat]
  unfold Rtl8139Receive.addressWrap
  split
  · exact (Nat.dvd_mod_iff (by decide)).mpr aligned
  · exact aligned

theorem readPosition_toNat (curRx : BitVec 32) :
    (readPosition curRx).toNat = (curRx.toNat+0x100000000-16) % 0x100000000 % 0x10000 := by
  have bound := curRx.isLt
  rw [readPosition,BitVec.toNat_setWidth,BitVec.toNat_sub,BitVec.toNat_ofNat]
  omega

-- RX_BUF_LEN divides 2^16, which divides 2^32: neither the truncation nor a
-- subtraction that wraps below zero is seen by the device.
theorem readPosition_congruent (curRx : BitVec 32) :
    ((readPosition curRx).toNat+16) % rxBufLen = curRx.toNat % rxBufLen := by
  have bound := curRx.isLt
  rw [readPosition_toNat,rxBufLen_eq]
  omega

theorem sum_fits (curRx : BitVec 32) (rxSize : BitVec 16) :
    (addressWrap curRx).toNat+rxSize.toNat+4+3 < 0x100000000 := by
  have wrapped := addressWrap_toNat curRx ▸ addressWrap_le curRx.toNat
  have size := rxSize.isLt
  rw [rxBufLen_eq] at wrapped
  omega

theorem consume_toNat (p : Pointer) (rxSize : BitVec 16) : (consume rxSize p).curRx.toNat =
    Rtl8139Receive.dwordAlign (Rtl8139Receive.addressWrap p.curRx.toNat+rxSize.toNat+4+3) := by
  have fits := sum_fits p.curRx rxSize
  have size := rxSize.isLt
  simp only [consume,advance]
  rw [dwordAlign_toNat]
  congr 1
  rw [BitVec.toNat_add,BitVec.toNat_add,BitVec.toNat_add,BitVec.toNat_setWidth,← addressWrap_toNat]
  simp only [BitVec.toNat_ofNat]
  omega

theorem consume_placed (p : Pointer) (rxSize : BitVec 16) : Placed (consume rxSize p) := by
  have wrapped := addressWrap_le p.curRx.toNat
  have size := rxSize.isLt
  refine ⟨?_,?_⟩ <;> rw [consume_toNat] <;> unfold Rtl8139Receive.dwordAlign
  · exact Nat.dvd_mul_left _ _
  · omega

theorem consume_tracks (placed : Placed p) (rxSize : BitVec 16) : Tracks p rxSize :=
  ⟨addressWrap_aligned placed.aligned,sum_fits _ _,(consume_placed p rxSize).aligned,readPosition_congruent _⟩

end Arithmetic

theorem start_placed (capr : BitVec 16) : Placed {capr := capr} := ⟨Nat.dvd_zero 4,Nat.zero_le _⟩

theorem readPointer_run (capr : BitVec 16) (rxSizes : List (BitVec 16)) :
    machine.Throughout Placed {capr := capr} rxSizes ∧ machine.Along Tracks {capr := capr} rxSizes := by
  have preserved : ∀ p rxSize,Placed p → True → Placed (machine.apply p rxSize) :=
    fun p rxSize _ _ => consume_placed p rxSize
  have path := machine.along_of_forall (fun _ _ => trivial) {capr := capr} rxSizes
  exact ⟨machine.throughout_of_invariant preserved (start_placed capr) path,
    machine.along_of_invariant preserved (fun p rxSize placed _ => consume_tracks placed rxSize)
      (start_placed capr) path⟩

section Driver
variable {d next : Rtl8139Receive.Driver} {p : Pointer} {allocated : Bool}

structure Represents (d : Rtl8139Receive.Driver) (p : Pointer) : Prop where
  curRx : p.curRx.toNat = d.curRx
  capr : p.capr.toNat = d.capr

def header (d : Rtl8139Receive.Driver) : Nat := littleEndian (load d.rxRing (Rtl8139Receive.addressWrap d.curRx) 4)

def headerSize (d : Rtl8139Receive.Driver) : BitVec 16 := BitVec.ofNat 16 (header d/65536)

theorem headerSize_toNat (d : Rtl8139Receive.Driver) : (headerSize d).toNat = header d/65536 := by
  have bound := littleEndian_lt (load d.rxRing (Rtl8139Receive.addressWrap d.curRx) 4)
  rw [load_length] at bound
  rw [headerSize,BitVec.toNat_ofNat,header]
  omega

theorem receivePacket_pointer (received : Rtl8139Receive.receivePacket allocated d = some next) :
    next.curRx = Rtl8139Receive.dwordAlign ((Rtl8139Receive.addressWrap d.curRx+header d/65536+4+3) % 0x100000000) ∧
      next.capr = (next.curRx+0x100000000-16) % 0x100000000 % 0x10000 := by
  simp only [Rtl8139Receive.receivePacket] at received
  split at received
  · cases received
  · split at received
    · split at received
      · cases received
      · cases received
        exact ⟨rfl,rfl⟩
    · cases received
      exact ⟨rfl,rfl⟩

theorem receivePacket_consumes (represents : Represents d p)
    (received : Rtl8139Receive.receivePacket allocated d = some next) : Represents next (consume (headerSize d) p) := by
  obtain ⟨curRx,capr⟩ := receivePacket_pointer received
  have exact := consume_toNat p (headerSize d)
  have fits := sum_fits p.curRx (headerSize d)
  rw [addressWrap_toNat,represents.curRx,headerSize_toNat] at fits
  rw [represents.curRx,headerSize_toNat] at exact
  rw [Nat.mod_eq_of_lt fits] at curRx
  have position : (consume (headerSize d) p).curRx.toNat = next.curRx := exact.trans curRx.symm
  refine ⟨position,?_⟩
  rw [capr,← position]
  exact readPosition_toNat _

theorem iterates_represents (s : Rtl8139Receive.System) (represents : Represents s.driver p) (allocated : Bool) :
    ∃ rxSizes,Represents (Rtl8139Receive.iterates allocated s).driver (machine.run p rxSizes) := by
  cases received : Rtl8139Receive.receivePacket allocated s.driver with
  | none =>
      refine ⟨[],?_⟩
      simp only [Rtl8139Receive.iterates,received]
      exact represents
  | some next =>
      refine ⟨[headerSize s.driver],?_⟩
      simp only [Rtl8139Receive.iterates,received]
      exact receivePacket_consumes represents received

theorem driver_pointer (rxRing : Nat → UInt8) (stats : NetDevice.NetDeviceStats) (events : List Rtl8139Receive.Event) :
    ∃ rxSizes,Represents (Rtl8139Receive.machine.run (Rtl8139Receive.opened rxRing stats) events).driver
      (machine.run {capr := 0#16} rxSizes) := by
  have matched : ∀ (s : Rtl8139Receive.System) p event,Represents s.driver p → True →
      ∃ rxSizes,Represents (Rtl8139Receive.machine.apply s event).driver (machine.run p rxSizes) := by
    intro s p event represents _
    cases event with
    | receives frame => exact ⟨[],represents.curRx,represents.capr⟩
    | interrupts isr =>
        refine ⟨[],?_,?_⟩ <;> simp only [Rtl8139Receive.machine,Rtl8139Receive.interrupts] <;> split
        · exact represents.curRx
        · exact represents.curRx
        · exact represents.capr
        · exact represents.capr
    | iterates allocated => exact iterates_represents s represents allocated
    | leaves => exact ⟨[],represents⟩
  exact Machine.simulation matched ⟨rfl,rfl⟩ (Machine.along_of_forall (fun _ _ => trivial) _ events)

theorem driver_aligned (rxRing : Nat → UInt8) (stats : NetDevice.NetDeviceStats) (events : List Rtl8139Receive.Event) :
    4 ∣ (Rtl8139Receive.machine.run (Rtl8139Receive.opened rxRing stats) events).driver.curRx := by
  obtain ⟨rxSizes,represents⟩ := driver_pointer rxRing stats events
  have placed := machine.run_preserves (fun p rxSize _ => consume_placed p rxSize) rxSizes (start_placed 0#16)
  exact represents.curRx ▸ placed.aligned

end Driver

end LinuxDeviceDrivers.Rtl8139ReadPointer
