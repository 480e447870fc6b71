import LinuxDeviceDrivers.Rtl8139ReadPointer

namespace LinuxDeviceDrivers.Rtl8139RingSafety
open Transition ByteStore NetDevice Rtl8139Registers
open Rtl8139ReadPointer (Pointer addressWrap addressWrap_toNat addressWrap_le consume)

structure Driver where
  rxRing : Nat → UInt8
  pointer : Pointer
  stats : NetDeviceStats := {}
  netifRx : List (List UInt8) := []

def netIpAlign : Nat := 2

section Iteration
variable (d : Driver)

def offset : Nat := (addressWrap d.pointer.curRx).toNat

def rxStatus : BitVec 32 := BitVec.ofNat 32 (littleEndian (load d.rxRing (offset d) 4))
def rxSize : BitVec 16 := (rxStatus d >>> 16).setWidth 16
def pktSize : BitVec 16 := rxSize d-4#16

-- `rx_size - 4` is an int, which memcpy takes as a size_t.
def copyLength : BitVec 64 := BitVec.ofInt 64 ((rxSize d).toNat-4)

def newSkb (memory : Nat → UInt8) : SkBuff :=
  skbReserve netIpAlign (devAllocSkb ((pktSize d).toNat+netIpAlign) memory)

def copyPacket (skb : SkBuff) : SkBuff :=
  {skb with memory := store skb.memory skb.data (load d.rxRing (offset d+4) (copyLength d).toNat)}

end Iteration

def receiveSkb (memory : Nat → UInt8) (d : Driver) : Option SkBuff :=
  skbPut (pktSize d).toNat (copyPacket d (newSkb d memory))

def countReceive (d : Driver) : NetDeviceStats :=
  {d.stats with
    rxBytes := d.stats.rxBytes+(copyLength d).toNat
    rxPackets := d.stats.rxPackets+1}

def iterate (allocated : Option (Nat → UInt8)) (d : Driver) : Driver :=
  let advanced := {d with pointer := consume (rxSize d) d.pointer}
  match allocated with
  | some memory => {advanced with
      netifRx := d.netifRx ++ (receiveSkb memory d).toList.map SkBuff.frame
      stats := countReceive d}
  | none => {advanced with stats := Rtl8139Receive.dropPacket (rxStatus d).toNat d.stats}

-- Between two iterations the device, or whoever writes in its place, may leave
-- anything in the ring.
inductive Event where
  | fills (rxRing : Nat → UInt8)
  | iterates (allocated : Option (Nat → UInt8))

def machine : Machine Driver Event where
  Allowed _ _ := True
  apply d event := match event with
    | .fills rxRing => {d with rxRing := rxRing}
    | .iterates allocated => iterate allocated d

def opened (rxRing : Nat → UInt8) (capr : BitVec 16) : Driver := {rxRing := rxRing,pointer := {capr := capr}}

structure Access where
  offset : Nat
  count : Nat

def Access.Inside (access : Access) : Prop := access.offset+access.count ≤ totalRxBufSize

instance (access : Access) : Decidable access.Inside := inferInstanceAs (Decidable (_ ≤ _))

def headerRead (d : Driver) : Access := ⟨offset d,4⟩
def payloadRead (d : Driver) : Access := ⟨offset d+4,(copyLength d).toNat⟩

-- `impossible` is whatever sizes no header can have: it is a parameter of the
-- property only, for the code has no test for it.
structure Safe (impossible : BitVec 16 → Prop) (allocated : Option (Nat → UInt8)) (d : Driver) : Prop where
  header : (headerRead d).Inside
  short : (pktSize d).toNat+4 = (rxSize d).toNat
  int : (copyLength d).toNat+4 = (rxSize d).toNat
  payload : allocated.isSome → (payloadRead d).Inside
  agreed : (copyLength d).toNat = (pktSize d).toNat
  room : ∀ memory ∈ allocated,(copyLength d).toNat ≤ skbTailroom (newSkb d memory)
  discarded : impossible (rxSize d) → (iterate allocated d).netifRx = d.netifRx

def SafeStep (impossible : BitVec 16 → Prop) (d : Driver) : Event → Prop
  | .fills _ => True
  | .iterates allocated => Safe impossible allocated d

-- The header counts at least the CRC and, if there is an skb to copy into, is
-- one that the rest of the ring has room for.
def Clean (impossible : BitVec 16 → Prop) (d : Driver) : Event → Prop
  | .fills _ => True
  | .iterates allocated => 4 ≤ (rxSize d).toNat ∧
      (allocated.isSome → offset d+(rxSize d).toNat ≤ totalRxBufSize ∧ ¬ impossible (rxSize d))

section Lengths
variable {d : Driver} {impossible : BitVec 16 → Prop} {allocated : Option (Nat → UInt8)}

theorem offset_le (d : Driver) : offset d ≤ rxBufLen := by
  rw [offset,addressWrap_toNat]
  exact addressWrap_le _

theorem header_inside (d : Driver) : (headerRead d).Inside := by
  have bound := offset_le d
  simp only [headerRead,Access.Inside,rxBufLen_eq,totalRxBufSize_eq] at *
  omega

theorem pktSize_exact (d : Driver) : (pktSize d).toNat+4 = (rxSize d).toNat ↔ 4 ≤ (rxSize d).toNat := by
  have size := (rxSize d).isLt
  rw [pktSize,BitVec.toNat_sub,BitVec.toNat_ofNat]
  omega

theorem copyLength_toNat (whole : 4 ≤ (rxSize d).toNat) : (copyLength d).toNat = (rxSize d).toNat-4 := by
  have size := (rxSize d).isLt
  rw [copyLength,BitVec.toNat_ofInt]
  omega

theorem newSkb_room (d : Driver) (memory : Nat → UInt8) : skbTailroom (newSkb d memory) = (pktSize d).toNat := by
  simp only [skbTailroom,newSkb,skbReserve,devAllocSkb]
  omega

theorem receiveSkb_put (memory : Nat → UInt8) (d : Driver) : ∃ skb,receiveSkb memory d = some skb := by
  have room : (pktSize d).toNat ≤ skbTailroom (copyPacket d (newSkb d memory)) :=
    Nat.le_of_eq (newSkb_room d memory).symm
  exact ⟨_,skbPut_room room⟩

theorem iterate_delivers (memory : Nat → UInt8) (d : Driver) : (iterate (some memory) d).netifRx ≠ d.netifRx := by
  obtain ⟨skb,put⟩ := receiveSkb_put memory d
  simp [iterate,put]

theorem clean_safe (clean : Clean impossible d (.iterates allocated)) : Safe impossible allocated d := by
  obtain ⟨whole,rest⟩ := clean
  have short := (pktSize_exact d).mpr whole
  have length := copyLength_toNat whole
  refine ⟨header_inside d,short,by omega,?_,by omega,?_,?_⟩
  · intro present
    have inside := (rest present).1
    simp only [payloadRead,Access.Inside]
    omega
  · intro memory _
    rw [newSkb_room]
    omega
  · intro bad
    cases allocated with
    | none => rfl
    | some memory => exact absurd bad (rest rfl).2

theorem safe_clean (safe : Safe impossible allocated d) : Clean impossible d (.iterates allocated) := by
  have whole := (pktSize_exact d).mp safe.short
  have length := copyLength_toNat whole
  refine ⟨whole,?_⟩
  intro present
  obtain ⟨memory,rfl⟩ := Option.isSome_iff_exists.mp present
  refine ⟨?_,fun bad => iterate_delivers memory d (safe.discarded bad)⟩
  have inside := safe.payload present
  simp only [payloadRead,Access.Inside] at inside
  omega

theorem safeStep_iff (impossible : BitVec 16 → Prop) (d : Driver) (event : Event) :
    SafeStep impossible d event ↔ Clean impossible d event := by
  cases event with
  | fills rxRing => exact Iff.rfl
  | iterates allocated => exact ⟨safe_clean,clean_safe⟩

end Lengths

theorem ring_safe_iff (impossible : BitVec 16 → Prop) (rxRing : Nat → UInt8) (capr : BitVec 16) (events : List Event) :
    machine.Along (SafeStep impossible) (opened rxRing capr) events ↔
      machine.Along (Clean impossible) (opened rxRing capr) events := by
  have same : ∀ d event,True → True → (SafeStep impossible d event ↔ Clean impossible d event) :=
    fun d event _ _ => safeStep_iff impossible d event
  exact Machine.along_congr same (fun _ _ _ _ => trivial) trivial
    (machine.along_of_forall (fun _ _ => trivial) _ events)

section Refinement
variable {d : Driver} {allocated : Option (Nat → UInt8)} {memory : Nat → UInt8} {skb : SkBuff}

def plain (d : Driver) : Rtl8139Receive.Driver :=
  ⟨d.rxRing,d.pointer.curRx.toNat,d.pointer.capr.toNat,d.stats,d.netifRx⟩

theorem rxStatus_toNat (d : Driver) : (rxStatus d).toNat = Rtl8139ReadPointer.header (plain d) := by
  have bound : littleEndian (load d.rxRing (offset d) 4) < 2^32 := by
    simpa using littleEndian_lt (load d.rxRing (offset d) 4)
  rw [rxStatus,BitVec.toNat_ofNat,Nat.mod_eq_of_lt bound,offset,addressWrap_toNat]
  rfl

theorem rxSize_toNat (d : Driver) : (rxSize d).toNat = Rtl8139ReadPointer.header (plain d)/65536 := by
  have bound := (rxStatus d).isLt
  rw [rxSize,BitVec.toNat_setWidth,BitVec.toNat_ushiftRight,Nat.shiftRight_eq_div_pow,rxStatus_toNat] at *
  omega

theorem receiveSkb_frame (whole : 4 ≤ (rxSize d).toNat) (put : receiveSkb memory d = some skb) :
    skb.frame = load d.rxRing (offset d+4) ((rxSize d).toNat-4) := by
  have short := (pktSize_exact d).mpr whole
  have length := copyLength_toNat whole
  have counted : (load d.rxRing (offset d+4) (copyLength d).toNat).length = (pktSize d).toNat := by
    rw [load_length]
    omega
  have room : (pktSize d).toNat ≤ skbTailroom (copyPacket d (newSkb d memory)) :=
    Nat.le_of_eq (newSkb_room d memory).symm
  rw [receiveSkb,skbPut_room room] at put
  cases put
  have copied : load (store memory netIpAlign (load d.rxRing (offset d+4) (copyLength d).toNat)) netIpAlign
      (load d.rxRing (offset d+4) (copyLength d).toNat).length = _ := load_store_same
  rw [counted,length] at copied
  simpa [SkBuff.frame,copyPacket,newSkb,skbReserve,devAllocSkb,length] using copied

theorem consume_plain (d : Driver) : (consume (rxSize d) d.pointer).curRx.toNat =
    Rtl8139Receive.dwordAlign ((offset d+(rxSize d).toNat+4+3) % 0x100000000) := by
  have fits := Rtl8139ReadPointer.sum_fits d.pointer.curRx (rxSize d)
  rw [Rtl8139ReadPointer.consume_toNat,← addressWrap_toNat,offset,Nat.mod_eq_of_lt fits]

-- On exactly the headers that are safe to copy, the iteration is the one on
-- natural numbers; on the others that one has no result.
theorem receivePacket_plain (allocated : Option (Nat → UInt8)) (d : Driver) :
    Rtl8139Receive.receivePacket allocated.isSome (plain d) =
      if allocated.isSome ∧ ((rxSize d).toNat < 4 ∨ totalRxBufSize < offset d+(rxSize d).toNat) then none
      else some (plain (iterate allocated d)) := by
  have wrapped : Rtl8139Receive.addressWrap (plain d).curRx = offset d := (addressWrap_toNat d.pointer.curRx).symm
  have status : littleEndian (load (plain d).rxRing (offset d) 4) = (rxStatus d).toNat := by
    rw [rxStatus_toNat,Rtl8139ReadPointer.header,wrapped]
  have size : (rxStatus d).toNat/65536 = (rxSize d).toNat := by rw [rxStatus_toNat,rxSize_toNat]
  have header : ¬ totalRxBufSize < offset d+4 := Nat.not_lt.mpr (header_inside d)
  have position := consume_plain d
  have capr : (consume (rxSize d) d.pointer).capr.toNat =
      ((consume (rxSize d) d.pointer).curRx.toNat+0x100000000-16) % 0x100000000 % 0x10000 :=
    Rtl8139ReadPointer.readPosition_toNat _
  simp only [Rtl8139Receive.receivePacket,wrapped,status,size,if_neg header,← position,← capr]
  cases allocated with
  | none => simp [plain,iterate]
  | some memory =>
      by_cases bad : (rxSize d).toNat < 4 ∨ totalRxBufSize < offset d+(rxSize d).toNat
      · simp [bad]
      · obtain ⟨skb,put⟩ := receiveSkb_put memory d
        have whole : 4 ≤ (rxSize d).toNat := by omega
        have frame := receiveSkb_frame whole put
        simp [bad,plain,iterate,put,frame,countReceive,copyLength_toNat whole]

end Refinement

def unfinished : Nat → UInt8
  | 0 => 0x01
  | 2 => 0xF0
  | 3 => 0xFF
  | _ => 0

theorem unfinished_overreads :
    ¬ machine.Along (SafeStep fun _ => False) (opened unfinished 0xFFF0#16) [.iterates (some fun _ => 0)] := by
  intro safe
  exact absurd (safe.1.payload rfl) (by decide)

end LinuxDeviceDrivers.Rtl8139RingSafety
