import Mathlib.Data.Nat.Bitwise
import LinuxDeviceDrivers.TransmitAgreement

namespace LinuxDeviceDrivers.Rtl8139TransmitImage
open Transition ByteStore NetDevice Rtl8139Registers
open Rtl8139Transmit (Skb)
open TransmitAgreement (minimal tsdSize)

-- `memory` is the kernel's, `mmio` the 32-bit registers by their offsets.
structure Driver where
  memory : Nat → UInt8
  mmio : Nat → BitVec 32
  txBufs : Nat
  txBufsDma : BitVec 64
  rxRingDma : BitVec 64
  txBuf : Nat → Nat
  curTx : Nat
  dirtyTx : Nat
  stopped : Bool
  netdevStats : NetDeviceStats
  running : Bool

def totalTxBufSize : Nat := txBufSize*numTxDesc

-- The coherent memory behind tx_bufs: a PCI device without a wider mask is
-- given bus addresses of 32 bits.
structure Region where
  txBufs : Nat
  dma : BitVec 64
  reachable : dma.toNat+totalTxBufSize ≤ 0x100000000

def tsd (entry : Nat) : Nat := 0x10+4*entry
def tsad (entry : Nat) : Nat := 0x20+4*entry
def rbstart : Nat := 0x30
def tcr : Nat := 0x40
def rcr : Nat := 0x44
def mpc : Nat := 0x4c

def writel (value : BitVec 32) (register : Nat) (d : Driver) : Driver :=
  {d with mmio := Function.update d.mmio register value}

-- `priv->tx_bufs_dma + (priv->tx_buf[i] - priv->tx_bufs)`, cut to the register.
def busAddress (d : Driver) (i : Nat) : BitVec 32 :=
  (d.txBufsDma+BitVec.ofInt 64 ((d.txBuf i : Int)-d.txBufs)).setWidth 32

def programTsad (d : Driver) : Driver := {d with mmio := assignEach numTxDesc tsad (busAddress d) d.mmio}

def hardwareStart (d : Driver) : Driver :=
  let configured := writel (1#32 <<< 12 ||| 7#32 <<< 8 ||| 1#32 <<< 7 ||| 1#32 <<< 3 ||| 1#32 <<< 2 ||| 1#32) rcr
    (writel (6#32 <<< 8) tcr d)
  writel 0#32 mpc (writel (d.rxRingDma.setWidth 32) rbstart (programTsad configured))

def rtl8139Open (region : Region) (rxRingDma : BitVec 64) (d : Driver) : Driver :=
  let initialized := {d with
    txBufs := region.txBufs
    txBufsDma := region.dma
    rxRingDma := rxRingDma
    dirtyTx := 0
    curTx := 0
    txBuf := assignEach numTxDesc id (fun i => region.txBufs+i*txBufSize) d.txBuf}
  {hardwareStart initialized with stopped := false,running := true}

def clearPadding (skb : Skb) (address : Nat) (memory : Nat → UInt8) : Nat → UInt8 :=
  if skb.len < ethMinLen then store memory address (List.replicate ethMinLen 0) else memory

def stopWhenFull (d : Driver) : Driver := if d.curTx = d.dirtyTx then {d with stopped := true} else d

def startXmit (skb : Skb) (d : Driver) : Driver :=
  let entry := d.curTx % numTxDesc
  if skb.len < txBufSize then
    let copied := {d with memory := store (clearPadding skb (d.txBuf entry) d.memory) (d.txBuf entry) skb.bytes}
    let sent := writel (BitVec.ofNat 32 (max skb.len ethMinLen)) (tsd entry) copied
    stopWhenFull {sent with curTx := (d.curTx+1) % numTxDesc}
  else {d with netdevStats := {d.netdevStats with txDropped := d.netdevStats.txDropped+1}}

-- The device, the handler and the rest of the kernel in between: the status
-- registers, dirty_tx, the queue's state and the memory may become anything.
inductive Event where
  | opens (region : Region) (rxRingDma : BitVec 64)
  | transmits (skb : Skb)
  | settles (status : Nat → BitVec 32) (dirtyTx : Nat) (stopped : Bool)
  | scribbles (memory : Nat → UInt8)
  | stops

def settles (status : Nat → BitVec 32) (dirtyTx : Nat) (stopped : Bool) (d : Driver) : Driver :=
  {d with mmio := assignEach numTxDesc tsd status d.mmio,dirtyTx := dirtyTx,stopped := stopped}

def machine : Machine Driver Event where
  Allowed d event := match event with
    | .opens _ _ => d.running = false
    | .transmits _ => d.running = true ∧ d.stopped = false
    | .settles _ _ _ => True
    | .scribbles _ => True
    | .stops => d.running = true
  apply d event := match event with
    | .opens region rxRingDma => rtl8139Open region rxRingDma d
    | .transmits skb => startXmit skb d
    | .settles status dirtyTx stopped => settles status dirtyTx stopped d
    | .scribbles memory => {d with memory := memory}
    | .stops => {d with txBufs := 0,running := false,stopped := true}

def busLoad (d : Driver) (address : BitVec 32) (count : Nat) : List UInt8 :=
  load d.memory (d.txBufs+(address.toNat-d.txBufsDma.toNat)) count

def fetched (d : Driver) (entry : Nat) : List UInt8 := busLoad d (d.mmio (tsad entry)) (tsdSize (d.mmio (tsd entry)))

def slot (d : Driver) (entry : Nat) : List UInt8 := load d.memory (d.txBufs+entry*txBufSize) txBufSize

structure Image (skb : Skb) (d next : Driver) : Prop where
  size : next.mmio (tsd (d.curTx % numTxDesc)) = BitVec.ofNat 32 (max skb.len ethMinLen)
  hostOwns : next.mmio (tsd (d.curTx % numTxDesc)) &&& txHostOwns = 0#32
  frame : fetched next (d.curTx % numTxDesc) = minimal skb.bytes
  slots : ∀ other < numTxDesc,other ≠ d.curTx % numTxDesc → slot next other = slot d other
  elsewhere : ∀ address,address < d.txBufs+d.curTx % numTxDesc*txBufSize ∨
    d.txBufs+d.curTx % numTxDesc*txBufSize+txBufSize ≤ address → next.memory address = d.memory address

-- Slots, pointers and bus addresses of an open device agree.
structure Programmed (d : Driver) : Prop where
  reachable : d.txBufsDma.toNat+totalTxBufSize ≤ 0x100000000
  pointers : ∀ i < numTxDesc,d.txBuf i = d.txBufs+i*txBufSize
  addresses : ∀ i < numTxDesc,(d.mmio (tsad i)).toNat = d.txBufsDma.toNat+i*txBufSize

section Registers
variable {d : Driver}

theorem tsad_injective (i j : Nat) (same : tsad i = tsad j) : i = j := by
  simp only [tsad] at same
  omega

theorem tsad_of_tsd (i : Nat) (known : entry < numTxDesc) : tsad i ≠ tsd entry := by
  simp only [tsad,tsd,numTxDesc] at *
  omega

theorem busAddress_toNat (reachable : d.txBufsDma.toNat+totalTxBufSize ≤ 0x100000000)
    (pointer : d.txBuf i = d.txBufs+i*txBufSize) (known : i < numTxDesc) :
    (busAddress d i).toNat = d.txBufsDma.toNat+i*txBufSize := by
  have distance : ((d.txBuf i : Int)-d.txBufs) = ((i*txBufSize : Nat) : Int) := by omega
  simp only [totalTxBufSize,txBufSize,numTxDesc] at *
  rw [busAddress,distance,BitVec.toNat_setWidth,BitVec.toNat_add,BitVec.toNat_ofInt]
  omega

theorem hardwareStart_tsad (d : Driver) (known : i < numTxDesc) : (hardwareStart d).mmio (tsad i) = busAddress d i := by
  have apart : tsad i ≠ mpc ∧ tsad i ≠ rbstart := by
    simp only [tsad,mpc,rbstart,numTxDesc] at *
    omega
  simp only [hardwareStart,writel,programTsad,Function.update_of_ne apart.1,Function.update_of_ne apart.2]
  rw [assignEach_inside tsad_injective known]
  rfl

theorem rtl8139Open_programmed (region : Region) (rxRingDma : BitVec 64) (d : Driver) :
    Programmed (rtl8139Open region rxRingDma d) := by
  have pointers : ∀ i < numTxDesc,(rtl8139Open region rxRingDma d).txBuf i = region.txBufs+i*txBufSize :=
    fun i known => assignEach_inside (fun _ _ => id) known
  refine ⟨region.reachable,pointers,?_⟩
  intro i known
  simp only [rtl8139Open]
  rw [hardwareStart_tsad _ known]
  exact busAddress_toNat region.reachable (pointers i known) known

theorem stopWhenFull_eq (d : Driver) :
    stopWhenFull d = {d with stopped := d.stopped || decide (d.curTx = d.dirtyTx)} := by
  unfold stopWhenFull
  split
  · rename_i full
    simp [full]
  · rename_i room
    simp [room]

theorem startXmit_fields (fits : skb.len < txBufSize) (d : Driver) : startXmit skb d = {d with
    memory := store (clearPadding skb (d.txBuf (d.curTx % numTxDesc)) d.memory) (d.txBuf (d.curTx % numTxDesc)) skb.bytes
    mmio := Function.update d.mmio (tsd (d.curTx % numTxDesc)) (BitVec.ofNat 32 (max skb.len ethMinLen))
    curTx := (d.curTx+1) % numTxDesc
    stopped := d.stopped || decide ((d.curTx+1) % numTxDesc = d.dirtyTx)} := by
  simp only [startXmit,if_pos fits,stopWhenFull_eq,writel]

theorem entry_lt (d : Driver) : d.curTx % numTxDesc < numTxDesc := Nat.mod_lt _ (by decide)

theorem startXmit_programmed (programmed : Programmed d) (skb : Skb) : Programmed (startXmit skb d) := by
  by_cases fits : skb.len < txBufSize
  · rw [startXmit_fields fits]
    refine ⟨programmed.reachable,programmed.pointers,?_⟩
    intro i known
    simp only [Function.update_of_ne (tsad_of_tsd i (entry_lt d))]
    exact programmed.addresses i known
  · rw [startXmit,if_neg fits]
    exact ⟨programmed.reachable,programmed.pointers,programmed.addresses⟩

theorem settles_programmed (programmed : Programmed d) (status : Nat → BitVec 32) (dirtyTx : Nat) (stopped : Bool) :
    Programmed (settles status dirtyTx stopped d) := by
  refine ⟨programmed.reachable,programmed.pointers,?_⟩
  intro i known
  simp only [settles]
  rw [assignEach_outside (fun entry other => tsad_of_tsd i other)]
  exact programmed.addresses i known

theorem startXmit_running (skb : Skb) (d : Driver) : (startXmit skb d).running = d.running := by
  by_cases fits : skb.len < txBufSize
  · rw [startXmit_fields fits]
  · rw [startXmit,if_neg fits]

theorem apply_programmed (d : Driver) (event : Event) (before : d.running = true → Programmed d)
    (_allowed : machine.Allowed d event) :
    (machine.apply d event).running = true → Programmed (machine.apply d event) := by
  intro running
  cases event with
  | opens region rxRingDma => exact rtl8139Open_programmed region rxRingDma d
  | transmits skb => exact startXmit_programmed (before (startXmit_running skb d ▸ running)) skb
  | settles status dirtyTx stopped => exact settles_programmed (before running) status dirtyTx stopped
  | scribbles memory => exact ⟨(before running).reachable,(before running).pointers,(before running).addresses⟩
  | stops => cases running

end Registers

section Transmission
variable {d : Driver} {skb : Skb}

theorem tsd_hostOwns (small : size < 0x2000) : BitVec.ofNat 32 size &&& txHostOwns = 0#32 := by
  have clear : size &&& 2^13 = 0 := by
    rw [Nat.and_two_pow,Nat.testBit_lt_two_pow small]
    rfl
  apply BitVec.eq_of_toNat_eq
  rw [BitVec.toNat_and,BitVec.toNat_ofNat,Nat.mod_eq_of_lt (by omega)]
  exact clear

theorem tsd_small (fits : skb.len < txBufSize) : max skb.len ethMinLen < 0x2000 := by
  simp only [txBufSize,ethMinLen] at *
  omega

theorem startXmit_elsewhere (programmed : Programmed d) (fits : skb.len < txBufSize)
    (outside : address < d.txBufs+d.curTx % numTxDesc*txBufSize ∨
      d.txBufs+d.curTx % numTxDesc*txBufSize+txBufSize ≤ address) :
    (startXmit skb d).memory address = d.memory address := by
  have pointer := programmed.pointers _ (entry_lt d)
  rw [startXmit_fields fits]
  simp only [pointer]
  rw [store_outside (by simp only [Skb.len] at fits; omega),clearPadding]
  split
  · exact store_outside (by simp only [List.length_replicate,ethMinLen,txBufSize] at *; omega)
  · rfl

theorem startXmit_slot (programmed : Programmed d) (fits : skb.len < txBufSize)
    (different : other ≠ d.curTx % numTxDesc) :
    slot (startXmit skb d) other = slot d other := by
  have apart := Rtl8139Transmit.txBuf_apart different
  have base : (startXmit skb d).txBufs = d.txBufs := by rw [startXmit_fields fits]
  simp only [slot,base]
  apply load_congr
  intro address above below
  apply startXmit_elsewhere programmed fits
  simp only [Rtl8139Transmit.txBuf] at apart
  omega

theorem startXmit_fetched (programmed : Programmed d) (fits : skb.len < txBufSize) :
    fetched (startXmit skb d) (d.curTx % numTxDesc) = minimal skb.bytes := by
  have known := entry_lt d
  have pointer := programmed.pointers _ known
  have address := programmed.addresses _ known
  rw [startXmit_fields fits]
  simp only [fetched,busLoad,Function.update_self,Function.update_of_ne (tsad_of_tsd _ known),
    TransmitAgreement.tsdSize_ofNat (tsd_small fits),pointer,address,Nat.add_sub_cancel_left]
  exact TransmitAgreement.load_minimal skb.bytes _ _

theorem startXmit_image (programmed : Programmed d) (fits : skb.len < txBufSize) : Image skb d (startXmit skb d) := by
  have size : (startXmit skb d).mmio (tsd (d.curTx % numTxDesc)) = BitVec.ofNat 32 (max skb.len ethMinLen) := by
    rw [startXmit_fields fits]
    exact Function.update_self _ _ _
  refine ⟨size,size ▸ tsd_hostOwns (tsd_small fits),startXmit_fetched programmed fits,?_,?_⟩
  · intro other _ different
    exact startXmit_slot programmed fits different
  · intro address outside
    exact startXmit_elsewhere programmed fits outside

end Transmission

theorem transmit_image (d : Driver) (events : List Event) (down : d.running = false) (path : machine.Runs d events)
    (running : (machine.run d events).running = true) (memory : Nat → UInt8) (skb : Skb) (fits : skb.len < txBufSize) :
    Image skb {machine.run d events with memory := memory}
      (startXmit skb {machine.run d events with memory := memory}) := by
  have programmed := machine.invariant apply_programmed (fun up => absurd up (by simp [down])) path running
  exact startXmit_image ⟨programmed.reachable,programmed.pointers,programmed.addresses⟩ fits

def region : Region := ⟨0x1000,0x8000#64,by decide⟩
def closed : Driver where
  memory _ := 0xaa
  mmio _ := 0#32
  txBufs := 0
  txBufsDma := 0#64
  rxRingDma := 0#64
  txBuf _ := 0
  curTx := 3
  dirtyTx := 3
  stopped := true
  netdevStats := {}
  running := false

def firstFrames : List Event := [.opens region 0x20000#64,.transmits ⟨[9,9,9,9]⟩]

theorem transmit_image_second :
    Image ⟨[1,2,3]⟩ {machine.run closed firstFrames with memory := fun _ => 0xaa}
      (startXmit ⟨[1,2,3]⟩ {machine.run closed firstFrames with memory := fun _ => 0xaa}) :=
  transmit_image closed firstFrames rfl ⟨rfl,⟨rfl,rfl⟩,trivial⟩ rfl _ _ (by decide)

section Refinement
variable {d : Driver}

def onRing (others : Rtl8139Transmit.Driver) (d : Driver) : Rtl8139Transmit.Driver :=
  {others with
    txBufs := fun index => d.memory (d.txBufs+index)
    tsd := fun entry => d.mmio (tsd entry)
    curTx := d.curTx
    dirtyTx := d.dirtyTx
    stopped := d.stopped
    netdevStats := d.netdevStats}

theorem update_tsd (mmio : Nat → BitVec 32) (entry : Nat) (value : BitVec 32) :
    (fun other => Function.update mmio (tsd entry) value (tsd other)) =
      Function.update (fun other => mmio (tsd other)) entry value := by
  funext other
  by_cases same : other = entry
  · rw [same,Function.update_self,Function.update_self]
  · have different : tsd other ≠ tsd entry := by
      simp only [tsd]
      omega
    rw [Function.update_of_ne different,Function.update_of_ne same]

theorem startXmit_onRing (programmed : Programmed d) (others : Rtl8139Transmit.Driver) (skb : Skb) :
    Rtl8139Transmit.startXmit skb (onRing others d) =
      onRing (Rtl8139Transmit.startXmit skb (onRing others d)) (startXmit skb d) := by
  have pointer := programmed.pointers _ (entry_lt d)
  by_cases fits : skb.len < txBufSize
  · have shifted : ∀ (memory : Nat → UInt8) bytes,
        (fun index => store memory (d.txBufs+d.curTx % numTxDesc*txBufSize) bytes (d.txBufs+index)) =
          store (fun index => memory (d.txBufs+index)) (Rtl8139Transmit.txBuf (d.curTx % numTxDesc)) bytes :=
      fun memory bytes => store_shift memory d.txBufs _ bytes
    have cleared : (fun index => clearPadding skb (d.txBufs+d.curTx % numTxDesc*txBufSize) d.memory (d.txBufs+index)) =
        Rtl8139Transmit.pad skb (d.curTx % numTxDesc) (fun index => d.memory (d.txBufs+index)) := by
      unfold clearPadding Rtl8139Transmit.pad
      split
      · exact shifted _ _
      · rfl
    rw [Rtl8139Transmit.startXmit_fields skb (onRing others d) fits,startXmit_fields fits]
    simp only [onRing,pointer,shifted,cleared,update_tsd]
    rfl
  · rw [Rtl8139Transmit.startXmit,if_neg fits,startXmit,if_neg fits]
    rfl

end Refinement

end LinuxDeviceDrivers.Rtl8139TransmitImage
