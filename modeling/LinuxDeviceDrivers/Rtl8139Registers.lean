import Mathlib.Logic.Function.Basic

namespace LinuxDeviceDrivers.Rtl8139Registers

def ethMinLen : Nat := 60
def txBufSize : Nat := 1536
def numTxDesc : Nat := 4
def rxBufLen : Nat := 8192 <<< 2
def rxBufPad : Nat := 16
def rxBufWrapPad : Nat := 2048
def totalRxBufSize : Nat := rxBufLen+rxBufPad+rxBufWrapPad

theorem rxBufLen_eq : rxBufLen = 32768 := rfl
theorem totalRxBufSize_eq : totalRxBufSize = 34832 := rfl

-- TSD0-3
def txHostOwns : BitVec 32 := 0x2000#32
def txUnderrun : BitVec 32 := 0x4000#32
def txStatOK : BitVec 32 := 0x8000#32
def txOutOfWindow : BitVec 32 := 0x20000000#32
def txAborted : BitVec 32 := 0x40000000#32
def txCarrierLost : BitVec 32 := 0x80000000#32

-- CR
def rxBufEmpty : BitVec 8 := 0x01#8

-- ISR
def rxOK : BitVec 16 := 0x01#16
def rxErr : BitVec 16 := 0x02#16
def txOK : BitVec 16 := 0x04#16
def txErr : BitVec 16 := 0x08#16
def rxOverFlow : BitVec 16 := 0x10#16
def rxUnderrun : BitVec 16 := 0x20#16
def rxFIFOOver : BitVec 16 := 0x40#16
def cableLen : BitVec 16 := 0x2000#16
def timeOut : BitVec 16 := 0x4000#16
def sysErr : BitVec 16 := 0x8000#16

def intMask : BitVec 16 := rxOK ||| rxErr ||| txOK ||| txErr ||| rxOverFlow ||| rxUnderrun ||| rxFIFOOver |||
  cableLen ||| timeOut ||| sysErr

-- The guard at the top of rtl8139_interrupt: neither "unknown Interrupt Type"
-- nor "Hardware no longer present".
def serviced (isr : BitVec 16) : Bool := isr &&& intMask != 0#16 && isr != 0xFFFF#16

theorem masked_or (old new mask : BitVec w) :
    ((old ||| new) &&& mask != 0#w) = (old &&& mask != 0#w || new &&& mask != 0#w) := by
  rw [BitVec.and_or_distrib_right,Bool.eq_iff_iff]
  simp only [bne_iff_ne,Bool.or_eq_true,ne_eq,BitVec.or_eq_zero_iff]
  exact Decidable.not_and_iff_or_not

def Within (bits others : BitVec w) : Prop := bits &&& ~~~others = 0#w

instance (bits others : BitVec w) : Decidable (Within bits others) :=
  inferInstanceAs (Decidable (bits &&& ~~~others = 0#w))

theorem within_iff {bits others : BitVec w} :
    Within bits others ↔ ∀ i,bits.getLsbD i = true → others.getLsbD i = true := by
  constructor
  · intro within i set
    have inside := BitVec.lt_of_getLsbD set
    have cleared := congrArg (·.getLsbD i) within
    simpa [set,inside] using cleared
  · intro within
    apply BitVec.eq_of_getLsbD_eq
    intro i inside
    have kept := within i
    cases set : bits.getLsbD i with
    | false => simp [set]
    | true => simp [kept set]

@[simp] theorem within_zero (others : BitVec w) : Within 0#w others := BitVec.zero_and

theorem within_or {first second others : BitVec w} :
    Within (first ||| second) others ↔ Within first others ∧ Within second others := by
  rw [Within,BitVec.and_or_distrib_right,BitVec.or_eq_zero_iff]
  rfl

end LinuxDeviceDrivers.Rtl8139Registers
