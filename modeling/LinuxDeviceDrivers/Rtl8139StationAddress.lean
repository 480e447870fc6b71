import LinuxDeviceDrivers.ByteStore
import LinuxDeviceDrivers.Rtl8139Probe

namespace LinuxDeviceDrivers.Rtl8139StationAddress
open ByteStore
open Rtl8139Probe (PciDev ProbeAnswer obtainsRegion completes)

inductive Endian where
  | little
  | big
deriving DecidableEq

def swab16 (value : BitVec 16) : BitVec 16 := value <<< 8 ||| value >>> 8

def cpuToLe16 (host : Endian) (value : BitVec 16) : BitVec 16 :=
  match host with
  | .little => value
  | .big => swab16 value

-- The device is little-endian; ioread16 gives the value in the host's order.
def ioread16 (registers : Nat → UInt8) (address : Nat) : BitVec 16 := .ofNat 16 (littleEndian (load registers address 2))

def layout (host : Endian) (value : BitVec 16) : List UInt8 :=
  match host with
  | .little => half value.toNat
  | .big => (half value.toNat).reverse

-- ((__le16 *) (dev->dev_addr))[i] = cpu_to_le16(ioread16(ioaddr + i))
def readAddress (host : Endian) (registers : Nat → UInt8) (ioaddr : Nat) (devAddr : Nat → UInt8) : Nat → UInt8 :=
  storeWords 2 3 (fun i => layout host (cpuToLe16 host (ioread16 registers (ioaddr+i)))) devAddr

def reached (pdev : PciDev) (answer : ProbeAnswer) : Option (Nat × Nat) :=
  if obtainsRegion pdev answer && answer.dmaMask && answer.consistentDmaMask then
    match answer.dev,answer.ioaddr with
    | some dev,some ioaddr => some (dev,ioaddr)
    | _,_ => none
  else none

structure System where
  link : Rtl8139Probe.System := {}
  devAddr : Nat → Nat → UInt8

def rtl8139Probe (host : Endian) (registers : Nat → UInt8) (pdev : PciDev) (answer : ProbeAnswer) (s : System) :
    Int × System :=
  let probed := Rtl8139Probe.rtl8139Probe pdev answer s.link
  (probed.1,⟨probed.2,match reached pdev answer with
    | some (dev,ioaddr) => Function.update s.devAddr dev (readAddress host registers ioaddr (s.devAddr dev))
    | none => s.devAddr⟩)

section Words
variable {host : Endian} {registers : Nat → UInt8} {ioaddr : Nat}

theorem swab16_toNat (value : BitVec 16) : (swab16 value).toNat = value.toNat%256*256+value.toNat/256 := by
  have upper : value.toNat/256 < 2^8 := by
    have bound := value.isLt
    omega
  have shifted : (value <<< 8).toNat = (value.toNat%256) <<< 8 := by
    simp only [BitVec.toNat_shiftLeft,Nat.shiftLeft_eq]
    omega
  rw [swab16,BitVec.toNat_or,shifted,BitVec.toNat_ushiftRight,Nat.shiftRight_eq_div_pow]
  rw [← Nat.shiftLeft_add_eq_or_of_lt upper,Nat.shiftLeft_eq]

theorem layout_cpuToLe16 (host : Endian) (value : BitVec 16) : layout host (cpuToLe16 host value) = half value.toNat := by
  cases host with
  | little => rfl
  | big =>
      have bound := value.isLt
      have low : UInt8.ofNat (value.toNat%256*256+value.toNat/256) = UInt8.ofNat (value.toNat/256) := by
        apply UInt8.toNat_inj.mp
        simp only [UInt8.toNat_ofNat']
        omega
      have quotient : (value.toNat%256*256+value.toNat/256)/256 = value.toNat%256 := by omega
      have high : UInt8.ofNat ((value.toNat%256*256+value.toNat/256)/256) = UInt8.ofNat value.toNat := by
        apply UInt8.toNat_inj.mp
        rw [quotient,UInt8.toNat_ofNat',UInt8.toNat_ofNat',Nat.mod_mod]
      simp only [layout,cpuToLe16,swab16_toNat,half,low,high,List.reverse_cons,List.reverse_nil,List.nil_append,
        List.cons_append]

theorem ioread16_bytes (registers : Nat → UInt8) (address : Nat) :
    half (ioread16 registers address).toNat = load registers address 2 := by
  have bytes : load registers address 2 = [registers address,registers (address+1)] := rfl
  have bound : littleEndian [registers address,registers (address+1)] < 2^16 := by
    simpa using littleEndian_lt [registers address,registers (address+1)]
  rw [ioread16,bytes,BitVec.toNat_ofNat,Nat.mod_eq_of_lt bound,half_littleEndian]

theorem readAddress_bytes (host : Endian) (registers : Nat → UInt8) (ioaddr : Nat) (devAddr : Nat → UInt8) :
    load (readAddress host registers ioaddr devAddr) 0 6 =
      (List.range 3).flatMap fun i => load registers (ioaddr+i) 2 := by
  have words : ∀ i,layout host (cpuToLe16 host (ioread16 registers (ioaddr+i))) = load registers (ioaddr+i) 2 := by
    intro i
    rw [layout_cpuToLe16,ioread16_bytes]
  have stored := load_storeWords (fun i => load_length registers (ioaddr+i) 2) 3 devAddr
  simp only [readAddress,words]
  exact stored

end Words

section Probe
variable {host : Endian} {registers : Nat → UInt8} {pdev : PciDev} {answer : ProbeAnswer} {s : System}

theorem mapDevice_code (pdev : PciDev) (answer : ProbeAnswer) (link : Rtl8139Probe.System) :
    (Rtl8139Probe.mapDevice pdev answer link).1 = if completes answer then 0 else Rtl8139Probe.enodev := by
  unfold Rtl8139Probe.mapDevice Rtl8139Probe.registerDev completes
  cases answer.ioaddr with
  | none => rfl
  | some ioaddr =>
      cases masks : answer.dmaMask && answer.consistentDmaMask with
      | false => simp [masks]
      | true =>
          cases answer.dev with
          | none => simp
          | some dev => cases answer.registered <;> simp [masks]

theorem probe_succeeds {link : Rtl8139Probe.System} (success : (Rtl8139Probe.rtl8139Probe pdev answer link).1 = 0) :
    obtainsRegion pdev answer = true ∧ completes answer = true := by
  cases obtains : obtainsRegion pdev answer with
  | true =>
      rw [Rtl8139Probe.probe_requested obtains,mapDevice_code] at success
      refine ⟨rfl,?_⟩
      by_contra fails
      rw [if_neg fails] at success
      exact absurd success (by decide)
  | false =>
      unfold Rtl8139Probe.rtl8139Probe at success
      cases enabled : answer.enabled with
      | false => simp [enabled] at success
      | true =>
          cases invalidates : answer.mwi with
          | false => simp [enabled,invalidates,Rtl8139Probe.enodev] at success
          | true =>
              have stops : (Rtl8139Probe.usable pdev && answer.region) = false := by
                simpa [obtainsRegion,enabled,invalidates] using obtains
              simp [enabled,invalidates,stops,Rtl8139Probe.enodev] at success

theorem probe_bound (success : (rtl8139Probe host registers pdev answer s).1 = 0) : ∃ dev ioaddr,
    reached pdev answer = some (dev,ioaddr) ∧ answer.ioaddr = some ioaddr ∧
      (rtl8139Probe host registers pdev answer s).2.link.bound = some ⟨pdev,dev,ioaddr⟩ := by
  obtain ⟨obtains,complete⟩ := probe_succeeds success
  have requested := Rtl8139Probe.probe_requested obtains s.link
  simp only [completes,Bool.and_eq_true,Option.isSome_iff_exists] at complete
  obtain ⟨⟨⟨⟨⟨ioaddr,mapping⟩,able⟩,consistent⟩,⟨dev,allocation⟩⟩,registered⟩ := complete
  refine ⟨dev,ioaddr,by simp [reached,obtains,able,consistent,allocation,mapping],mapping,?_⟩
  simp [rtl8139Probe,requested,Rtl8139Probe.mapDevice,Rtl8139Probe.registerDev,mapping,able,consistent,allocation,
    registered]

end Probe

def Addressed (registers : Nat → UInt8) (s : System) : Prop :=
  ∃ b,s.link.bound = some b ∧ load (s.devAddr b.dev) 0 6 = load registers b.mmioAddr 6

-- IDR1 to IDR5 hold one and the same byte.
def Repeated (registers : Nat → UInt8) (ioaddr : Nat) : Prop :=
  ∀ i,1 ≤ i → i < 6 → registers (ioaddr+i) = registers (ioaddr+1)

theorem bytes_repeated (registers : Nat → UInt8) (ioaddr : Nat) :
    ((List.range 3).flatMap fun i => load registers (ioaddr+i) 2) = load registers ioaddr 6 ↔
      Repeated registers ioaddr := by
  have gathered : ((List.range 3).flatMap fun i => load registers (ioaddr+i) 2) =
      [registers ioaddr,registers (ioaddr+1),registers (ioaddr+1),registers (ioaddr+2),registers (ioaddr+2),
        registers (ioaddr+3)] := rfl
  have wanted : load registers ioaddr 6 = [registers ioaddr,registers (ioaddr+1),registers (ioaddr+2),
      registers (ioaddr+3),registers (ioaddr+4),registers (ioaddr+5)] := rfl
  rw [gathered,wanted]
  constructor
  · intro same i least most
    injection same with _ same
    injection same with _ same
    injection same with second same
    injection same with third same
    injection same with fourth same
    injection same with fifth _
    rcases (by omega : i = 1 ∨ i = 2 ∨ i = 3 ∨ i = 4 ∨ i = 5) with rfl | rfl | rfl | rfl | rfl
    · rfl
    · exact second.symm
    · exact third.symm.trans second.symm
    · exact fourth.symm.trans second.symm
    · exact fifth.symm.trans (third.symm.trans second.symm)
  · intro repeated
    rw [repeated 2 (by decide) (by decide),repeated 3 (by decide) (by decide),repeated 4 (by decide) (by decide),
      repeated 5 (by decide) (by decide)]

theorem station_address_iff (host : Endian) (registers : Nat → UInt8) (pdev : PciDev) (answer : ProbeAnswer) (s : System)
    (success : (rtl8139Probe host registers pdev answer s).1 = 0) :
    Addressed registers (rtl8139Probe host registers pdev answer s).2 ↔
      ∃ ioaddr,answer.ioaddr = some ioaddr ∧ Repeated registers ioaddr := by
  obtain ⟨dev,ioaddr,reaches,mapping,bound⟩ := probe_bound success
  have filled : (rtl8139Probe host registers pdev answer s).2.devAddr dev =
      readAddress host registers ioaddr (s.devAddr dev) := by
    simp only [rtl8139Probe,reaches,Function.update_self]
  have exact := bytes_repeated registers ioaddr
  rw [← readAddress_bytes host registers ioaddr (s.devAddr dev),← filled] at exact
  constructor
  · rintro ⟨b,binding,same⟩
    obtain rfl : (⟨pdev,dev,ioaddr⟩ : Rtl8139Probe.Binding) = b := Option.some.inj (bound.symm.trans binding)
    exact ⟨ioaddr,mapping,exact.mp same⟩
  · rintro ⟨other,named,repeated⟩
    obtain rfl : ioaddr = other := Option.some.inj (mapping.symm.trans named)
    exact ⟨⟨pdev,dev,ioaddr⟩,bound,exact.mpr repeated⟩

def card : PciDev := ⟨fun index => if index = 1 then ⟨0xfebf0000,256,.memory⟩ else {}⟩

def idr : Nat → UInt8 := fun offset => [0x52,0x54,0x00,0x12,0x34,0x56].getD offset 0

theorem station_address_broadcast : Addressed (fun _ => 0xff)
      (rtl8139Probe .big (fun _ => 0xff) card {} {devAddr := fun _ _ => 0}).2 ↔
    ∃ ioaddr,({} : ProbeAnswer).ioaddr = some ioaddr ∧ Repeated (fun _ => 0xff) ioaddr :=
  station_address_iff .big (fun _ => 0xff) card {} {devAddr := fun _ _ => 0} (by decide)

theorem station_address_garbled :
    (rtl8139Probe .little idr card {} {devAddr := fun _ _ => 0}).1 = 0 ∧
      load ((rtl8139Probe .little idr card {} {devAddr := fun _ _ => 0}).2.devAddr 0) 0 6 =
        [0x52,0x54,0x54,0x00,0x00,0x12] ∧
      ¬ Addressed idr (rtl8139Probe .little idr card {} {devAddr := fun _ _ => 0}).2 := by
  refine ⟨by decide,by decide,?_⟩
  rintro ⟨b,bound,same⟩
  obtain rfl : (⟨card,0,0⟩ : Rtl8139Probe.Binding) = b := Option.some.inj bound
  exact absurd same (by decide)

end LinuxDeviceDrivers.Rtl8139StationAddress
