import LinuxDeviceDrivers.ByteStore
import LinuxDeviceDrivers.WordCounters

namespace LinuxDeviceDrivers.NetDevice
open ByteStore WordCounters

-- The counters of struct net_device_stats that pci.c and usb.c update. They count
-- on where the driver's unsigned longs wrap: `words` is what memory holds.
structure NetDeviceStats where
  rxPackets : Nat := 0
  rxBytes : Nat := 0
  rxErrors : Nat := 0
  rxDropped : Nat := 0
  multicast : Nat := 0
  rxLengthErrors : Nat := 0
  rxCrcErrors : Nat := 0
  rxFrameErrors : Nat := 0
  txPackets : Nat := 0
  txBytes : Nat := 0
  txErrors : Nat := 0
  txDropped : Nat := 0
  collisions : Nat := 0
  txAbortedErrors : Nat := 0
  txFifoErrors : Nat := 0
  txWindowErrors : Nat := 0
  txCarrierErrors : Nat := 0

def unsignedLong (value : Nat) : Nat := value % 0x10000000000000000

namespace NetDeviceStats

def map (f : Nat → Nat) (stats : NetDeviceStats) : NetDeviceStats where
  rxPackets := f stats.rxPackets
  rxBytes := f stats.rxBytes
  rxErrors := f stats.rxErrors
  rxDropped := f stats.rxDropped
  multicast := f stats.multicast
  rxLengthErrors := f stats.rxLengthErrors
  rxCrcErrors := f stats.rxCrcErrors
  rxFrameErrors := f stats.rxFrameErrors
  txPackets := f stats.txPackets
  txBytes := f stats.txBytes
  txErrors := f stats.txErrors
  txDropped := f stats.txDropped
  collisions := f stats.collisions
  txAbortedErrors := f stats.txAbortedErrors
  txFifoErrors := f stats.txFifoErrors
  txWindowErrors := f stats.txWindowErrors
  txCarrierErrors := f stats.txCarrierErrors

def words (stats : NetDeviceStats) : NetDeviceStats := stats.map unsignedLong

def add (stats added : NetDeviceStats) : NetDeviceStats where
  rxPackets := stats.rxPackets+added.rxPackets
  rxBytes := stats.rxBytes+added.rxBytes
  rxErrors := stats.rxErrors+added.rxErrors
  rxDropped := stats.rxDropped+added.rxDropped
  multicast := stats.multicast+added.multicast
  rxLengthErrors := stats.rxLengthErrors+added.rxLengthErrors
  rxCrcErrors := stats.rxCrcErrors+added.rxCrcErrors
  rxFrameErrors := stats.rxFrameErrors+added.rxFrameErrors
  txPackets := stats.txPackets+added.txPackets
  txBytes := stats.txBytes+added.txBytes
  txErrors := stats.txErrors+added.txErrors
  txDropped := stats.txDropped+added.txDropped
  collisions := stats.collisions+added.collisions
  txAbortedErrors := stats.txAbortedErrors+added.txAbortedErrors
  txFifoErrors := stats.txFifoErrors+added.txFifoErrors
  txWindowErrors := stats.txWindowErrors+added.txWindowErrors
  txCarrierErrors := stats.txCarrierErrors+added.txCarrierErrors

theorem add_add (stats first second : NetDeviceStats) : (stats.add first).add second = stats.add (first.add second) := by
  simp [add,Nat.add_assoc]

def cut : Cut NetDeviceStats where
  words := words
  again stats := by simp [words,map,unsignedLong]

theorem words_add (stats added : NetDeviceStats) : (stats.words.add added).words = (stats.add added).words := by
  simp [words,map,add,unsignedLong]

theorem add_wraps (added : NetDeviceStats) : Wraps cut (·.add added) := by
  intro first second same
  have equal : first.words = second.words := same
  show (first.add added).words = (second.add added).words
  rw [← words_add first,← words_add second,equal]

end NetDeviceStats

-- `memory` holds `size` bytes from skb->head on, of which `len` lie from the
-- offset `data` on.
structure SkBuff where
  size : Nat
  data : Nat := 0
  len : Nat := 0
  memory : Nat → UInt8

-- What dev_alloc_skb promises is the room; the bytes are whatever was there.
def devAllocSkb (length : Nat) (memory : Nat → UInt8) : SkBuff := {size := length,memory := memory}
def skbReserve (count : Nat) (skb : SkBuff) : SkBuff := {skb with data := skb.data+count}
def skbTailroom (skb : SkBuff) : Nat := skb.size-(skb.data+skb.len)

def skbPut (count : Nat) (skb : SkBuff) : Option SkBuff :=
  if count ≤ skbTailroom skb then some {skb with len := skb.len+count} else none

def SkBuff.frame (skb : SkBuff) : List UInt8 := load skb.memory skb.data skb.len

theorem skbPut_room (room : count ≤ skbTailroom skb) : skbPut count skb = some {skb with len := skb.len+count} :=
  if_pos room

end LinuxDeviceDrivers.NetDevice
