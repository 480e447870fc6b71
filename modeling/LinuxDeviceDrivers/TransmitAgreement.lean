import LinuxDeviceDrivers.Rtl8139Transmit
import LinuxDeviceDrivers.Rtl8150

namespace LinuxDeviceDrivers.TransmitAgreement
open ByteStore NetDevice Rtl8139Registers

def tsdSize (tsd : BitVec 32) : Nat := (tsd &&& 0x1fff#32).toNat

-- The bytes that rtl8139_start_xmit has its device fetch: as many as TSD says
-- from the buffer of the descriptor it used.
def pciWire (skb : SkBuff) (d : Rtl8139Transmit.Driver) : List UInt8 :=
  let sent := Rtl8139Transmit.startXmit ⟨skb.frame⟩ d
  load sent.txBufs (Rtl8139Transmit.txBuf (d.curTx % numTxDesc)) (tsdSize (sent.tsd (d.curTx % numTxDesc)))

-- The bytes of the skb that rtl8150_start_xmit fills its URB with. `count` is
-- computed before and not used.
def usbWire (number : Nat) (skb : SkBuff) (result : Int) (s : Rtl8150.System) : List UInt8 :=
  load skb.memory skb.data ((Rtl8150.rtl8150StartXmit number skb.len true result s).urbs s.urbCount).length

def minimal (frame : List UInt8) : List UInt8 := frame ++ List.replicate (ethMinLen-frame.length) 0

variable {skb : SkBuff} {bytes : List UInt8}

theorem frame_length (skb : SkBuff) : skb.frame.length = skb.len := load_length _ _ _

theorem minimal_of_long (long : ethMinLen ≤ bytes.length) : minimal bytes = bytes := by
  rw [minimal,Nat.sub_eq_zero_of_le long]
  exact List.append_nil bytes

theorem minimal_length (bytes : List UInt8) : (minimal bytes).length = max bytes.length ethMinLen := by
  simp only [minimal,List.length_append,List.length_replicate]
  omega

theorem tsdSize_ofNat (small : size < 0x2000) : tsdSize (BitVec.ofNat 32 size) = size := by
  have masked : size &&& 0x1fff = size := by
    rw [Nat.and_two_pow_sub_one_eq_mod size 13,Nat.mod_eq_of_lt small]
  rw [tsdSize,BitVec.toNat_and,BitVec.toNat_ofNat,Nat.mod_eq_of_lt (by omega)]
  exact masked

theorem load_padded (short : bytes.length ≤ size) (mem : Nat → UInt8) (offset : Nat) :
    load (store (store mem offset (List.replicate size 0)) offset bytes) offset size =
      bytes ++ List.replicate (size-bytes.length) 0 := by
  have zeros : load (store mem offset (List.replicate size 0)) offset size = List.replicate size (0 : UInt8) := by
    have written : load (store mem offset (List.replicate size 0)) offset (List.replicate size (0 : UInt8)).length =
        List.replicate size 0 := load_store_same
    rwa [List.length_replicate] at written
  obtain ⟨rest,rfl⟩ := Nat.exists_eq_add_of_le short
  rw [load_add,load_store_same,load_store_disjoint (by omega)]
  have beyond : (load (store mem offset (List.replicate (bytes.length+rest) 0)) offset (bytes.length+rest)).drop bytes.length =
      _ := load_drop short
  rw [zeros,Nat.add_sub_cancel_left] at beyond
  rw [← beyond,List.drop_replicate]

theorem load_minimal (bytes : List UInt8) (mem : Nat → UInt8) (offset : Nat) :
    load (store (if bytes.length < ethMinLen then store mem offset (List.replicate ethMinLen 0) else mem) offset bytes)
      offset (max bytes.length ethMinLen) = minimal bytes := by
  by_cases short : bytes.length < ethMinLen
  · rw [if_pos short,Nat.max_eq_right (Nat.le_of_lt short)]
    exact load_padded (Nat.le_of_lt short) _ _
  · have long := Nat.le_of_not_lt short
    rw [if_neg short,Nat.max_eq_left long,minimal_of_long long]
    exact load_store_same

theorem pciWire_minimal (fits : skb.len < txBufSize) (d : Rtl8139Transmit.Driver) :
    pciWire skb d = minimal skb.frame := by
  let copied : Rtl8139Transmit.Skb := ⟨skb.frame⟩
  have length : copied.len = skb.len := frame_length skb
  have bound : max skb.len ethMinLen < 0x2000 := by
    simp only [txBufSize,ethMinLen] at *
    omega
  unfold pciWire
  rw [Rtl8139Transmit.startXmit_fields copied d (length.symm ▸ fits)]
  simp only [Function.update_self,length,tsdSize_ofNat bound]
  rw [← frame_length skb]
  exact load_minimal skb.frame _ _

theorem usbWire_frame (number : Nat) (skb : SkBuff) (result : Int) (s : Rtl8150.System) :
    usbWire number skb result s = skb.frame := by
  let filled := Rtl8150.fillUrb s.urbCount .bulkOut (some number) skb.len
    (Rtl8150.takeSkb number (some s.urbCount) {s with urbCount := s.urbCount+1})
  have length : (filled.urbs s.urbCount).length = skb.len := by simp [filled,Rtl8150.fillUrb,Rtl8150.setUrb]
  have sent : ((Rtl8150.usbSubmitUrb s.urbCount result filled).2.urbs s.urbCount).length = skb.len := by
    refine Eq.trans ?_ length
    apply Rtl8150.usbSubmitUrb_unseen (f:=fun s => (s.urbs _).length)
    simp [Rtl8150.setState,Rtl8150.setUrb]
  have urb : ((Rtl8150.rtl8150StartXmit number skb.len true result s).urbs s.urbCount).length = skb.len := by
    simp only [Rtl8150.rtl8150StartXmit,if_true]
    split
    · exact sent
    · exact sent
  rw [usbWire,urb]
  rfl

structure Agree (skb : SkBuff) (pci usb : List UInt8) : Prop where
  same : pci = usb
  padded : usb = minimal skb.frame

theorem wires_agree_iff (skb : SkBuff) (d : Rtl8139Transmit.Driver) (number : Nat) (result : Int)
    (s : Rtl8150.System) (fits : skb.len < txBufSize) :
    Agree skb (pciWire skb d) (usbWire number skb result s) ↔ ethMinLen ≤ skb.len := by
  rw [pciWire_minimal fits,usbWire_frame]
  constructor
  · intro agree
    have lengths := congrArg List.length agree.padded
    rw [minimal_length,frame_length] at lengths
    omega
  · intro long
    have whole := minimal_of_long (frame_length skb ▸ long)
    exact ⟨whole,whole.symm⟩

def header : SkBuff := {size := 14,len := 14,memory := fun _ => 0xff}
def shortest : SkBuff := {size := 60,len := 60,memory := fun _ => 0xff}

def idle : Rtl8139Transmit.Driver := {txBufs := fun _ => 0xaa,tsd := fun _ => txHostOwns}

theorem wires_agree_shortest : Agree shortest (pciWire shortest idle) (usbWire 0 shortest 0 {}) :=
  (wires_agree_iff shortest idle 0 0 {} (by decide)).mpr (by decide)

theorem header_unpadded : header.len < txBufSize ∧ ¬ Agree header (pciWire header idle) (usbWire 0 header 0 {}) := by
  refine ⟨by decide,?_⟩
  intro agree
  exact absurd agree.same (by decide +kernel)

end LinuxDeviceDrivers.TransmitAgreement
