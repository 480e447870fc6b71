import LinuxDeviceDrivers.ByteStore
import LinuxDeviceDrivers.NetDevice
import LinuxDeviceDrivers.Rtl8139Registers
import LinuxDeviceDrivers.Transition

namespace LinuxDeviceDrivers.Rtl8139Receive
open Transition ByteStore NetDevice Rtl8139Registers

structure Driver where
  rxRing : Nat → UInt8
  curRx : Nat
  capr : Nat
  stats : NetDeviceStats
  netifRx : List (List UInt8)

def dwordAlign (value : Nat) : Nat := value/4*4

-- "perform address-wrap if at end-of-buffer"
def addressWrap (curRx : Nat) : Nat := if curRx > rxBufLen then curRx % rxBufLen else curRx

def dropPacket (rxStatus : Nat) (stats : NetDeviceStats) : NetDeviceStats :=
  {stats with
    rxDropped := stats.rxDropped+1
    multicast := stats.multicast+(rxStatus.testBit 15).toNat
    rxLengthErrors := stats.rxLengthErrors+(rxStatus.testBit 4 || rxStatus.testBit 3).toNat
    rxCrcErrors := stats.rxCrcErrors+(rxStatus.testBit 2).toNat
    rxFrameErrors := stats.rxFrameErrors+(rxStatus.testBit 1).toNat}

-- One iteration of `while((readb(ioaddr + CR) & RxBufEmpty) == 0)`. It is
-- `none` when the header or the memcpy leaves the receive buffer, or when the
-- memcpy's length rx_size - 4 is negative.
def receivePacket (allocated : Bool) (d : Driver) : Option Driver :=
  let curRx := addressWrap d.curRx
  let rxStatus := littleEndian (load d.rxRing curRx 4)
  let rxSize := rxStatus/65536
  let nextRx := dwordAlign ((curRx+rxSize+4+3) % 0x100000000)
  let capr := (nextRx+0x100000000-16) % 0x100000000 % 0x10000
  if totalRxBufSize < curRx+4 then none
  else if allocated then
    if rxSize < 4 ∨ totalRxBufSize < curRx+rxSize then none
    else some {d with
      curRx := nextRx
      capr := capr
      netifRx := d.netifRx ++ [load d.rxRing (curRx+4) (rxSize-4)]
      stats := {d.stats with
        rxBytes := d.stats.rxBytes+(rxSize-4)
        rxPackets := d.stats.rxPackets+1}}
  else some {d with curRx := nextRx,capr := capr,stats := dropPacket rxStatus d.stats}

-- What the device puts on the ring: the length in the header counts the CRC.
structure Frame where
  status : UInt16
  bytes : List UInt8
  short : 64 ≤ bytes.length
  long : bytes.length ≤ 1536

namespace Frame
def rxSize (frame : Frame) : Nat := frame.bytes.length
def onRing (frame : Frame) : List UInt8 := half frame.status.toNat ++ half frame.rxSize ++ frame.bytes
def payload (frame : Frame) : List UInt8 := frame.bytes.take (frame.rxSize-4)
end Frame

structure Packet where
  offset : Nat
  frame : Frame

namespace Packet
def stop (packet : Packet) : Nat := dwordAlign (packet.offset+4+packet.frame.rxSize+3)
def Apart (packet : Packet) (other : Packet) : Prop :=
  other.offset+4+other.frame.rxSize ≤ packet.offset ∨ packet.offset+4+packet.frame.rxSize ≤ other.offset
end Packet

-- `w` is the device's write offset, `unread` what it wrote and RxBufEmpty
-- reports, `consumed` the packets iterations ran for, with dev_alloc_skb's answer.
structure System where
  driver : Driver
  receiving : Bool := false
  faulted : Bool := false
  w : Nat := 0
  unread : List Packet := []
  consumed : List (Packet × Bool) := []

def opened (rxRing : Nat → UInt8) (stats : NetDeviceStats) : System := {driver := ⟨rxRing,0,0,stats,[]⟩}

inductive Event where
  | receives (frame : Frame)
  | interrupts (isr : BitVec 16)
  | iterates (allocated : Bool)
  | leaves

def receives (frame : Frame) (s : System) : System :=
  {s with
    driver := {s.driver with rxRing := store s.driver.rxRing s.w frame.onRing}
    w := Packet.stop ⟨s.w,frame⟩ % rxBufLen
    unread := s.unread ++ [⟨s.w,frame⟩]}

def countErrors (isr : BitVec 16) (stats : NetDeviceStats) : NetDeviceStats :=
  if isr &&& rxErr = 0#16 then stats else {stats with rxErrors := stats.rxErrors+1}

def interrupts (isr : BitVec 16) (s : System) : System :=
  if serviced isr then
    {s with
      driver := {s.driver with stats := countErrors isr s.driver.stats}
      receiving := isr &&& rxOK != 0#16}
  else s

def iterates (allocated : Bool) (s : System) : System :=
  let taken := {s with
    unread := s.unread.tail
    consumed := s.consumed ++ s.unread.head?.toList.map (·,allocated)}
  match receivePacket allocated s.driver with
  | none => {taken with faulted := true}
  | some driver => {taken with driver := driver}

@[simp] theorem iterates_unread (allocated : Bool) (s : System) : (iterates allocated s).unread = s.unread.tail := by
  simp only [iterates]; split <;> rfl
@[simp] theorem iterates_consumed (allocated : Bool) (s : System) :
    (iterates allocated s).consumed = s.consumed ++ s.unread.head?.toList.map (·,allocated) := by
  simp only [iterates]; split <;> rfl
@[simp] theorem iterates_receiving (allocated : Bool) (s : System) : (iterates allocated s).receiving = s.receiving := by
  simp only [iterates]; split <;> rfl
@[simp] theorem interrupts_unread (isr : BitVec 16) (s : System) : (interrupts isr s).unread = s.unread := by
  simp only [interrupts]; split <;> rfl
@[simp] theorem interrupts_consumed (isr : BitVec 16) (s : System) : (interrupts isr s).consumed = s.consumed := by
  simp only [interrupts]; split <;> rfl

def machine : Machine System Event where
  Allowed s event := match event with
    | .receives frame => ∀ packet ∈ s.unread,packet.Apart ⟨s.w,frame⟩
    | .interrupts _ => s.receiving = false
    | .iterates _ => s.receiving = true ∧ s.faulted = false ∧ s.unread ≠ []
    | .leaves => s.receiving = true ∧ s.unread = []
  apply s event := match event with
    | .receives frame => receives frame s
    | .interrupts isr => interrupts isr s
    | .iterates allocated => iterates allocated s
    | .leaves => {s with receiving := false}

-- Each iteration reads its header where the device wrote the oldest unread packet.
def Agrees (s : System) : Event → Prop
  | .iterates _ => ∀ packet ∈ s.unread.head?,addressWrap s.driver.curRx = packet.offset
  | _ => True

def delivered (consumed : List (Packet × Bool)) : List (List UInt8) :=
  consumed.filterMap fun taken => if taken.2 then some taken.1.frame.payload else none

structure Delivered (start : NetDeviceStats) (s : System) : Prop where
  buffers : s.driver.netifRx = delivered s.consumed
  counted : s.driver.stats.rxPackets+s.driver.stats.rxDropped = start.rxPackets+start.rxDropped+s.consumed.length
  sound : s.faulted = false

theorem addressWrap_exact (curRx : Nat) : addressWrap curRx = curRx % rxBufLen ↔ curRx ≠ rxBufLen := by
  unfold addressWrap
  split
  · rename_i past
    exact iff_of_true rfl (Nat.ne_of_gt past)
  · simp only [rxBufLen_eq] at *
    omega

section Iteration
variable {d : Driver} {offset : Nat} {frame : Frame}

@[simp] theorem half_length (value : Nat) : (half value).length = 2 := rfl

@[simp] theorem Frame.onRing_length (frame : Frame) : frame.onRing.length = 4+frame.rxSize := by
  simp only [Frame.onRing,Frame.rxSize,List.length_append,half_length]

theorem header_and_body (stored : load d.rxRing offset (4+frame.rxSize) = frame.onRing) :
    load d.rxRing offset 4 = half frame.status.toNat ++ half frame.rxSize ∧
      load d.rxRing (offset+4) frame.rxSize = frame.bytes := by
  rw [load_add] at stored
  exact List.append_inj stored (by simp)

theorem header_size (stored : load d.rxRing offset (4+frame.rxSize) = frame.onRing) :
    littleEndian (load d.rxRing offset 4)/65536 = frame.rxSize := by
  have long := frame.long
  have status := frame.status.toNat_lt
  rw [(header_and_body stored).1,littleEndian_halves _ _ (by omega) (by simp only [Frame.rxSize]; omega)]
  omega

theorem payload_read (stored : load d.rxRing offset (4+frame.rxSize) = frame.onRing) :
    load d.rxRing (offset+4) (frame.rxSize-4) = frame.payload := by
  have short := frame.short
  have split : frame.rxSize = (frame.rxSize-4)+4 := by simp only [Frame.rxSize]; omega
  have body := (header_and_body stored).2
  rw [split,load_add] at body
  unfold Frame.payload
  rw [← body,List.take_left' (by simp)]

structure Reads (packet : Packet) (allocated : Bool) (d next : Driver) : Prop where
  position : next.curRx = packet.stop
  memory : next.rxRing = d.rxRing
  handed : next.netifRx = d.netifRx ++ delivered [(packet,allocated)]
  counted : next.stats.rxPackets+next.stats.rxDropped = d.stats.rxPackets+d.stats.rxDropped+1

theorem receivePacket_reads {packet : Packet} (allocated : Bool) (inside : packet.offset < rxBufLen)
    (position : addressWrap d.curRx = packet.offset)
    (stored : load d.rxRing packet.offset (4+packet.frame.rxSize) = packet.frame.onRing) :
    ∃ next, receivePacket allocated d = some next ∧ Reads packet allocated d next := by
  have size := header_size stored
  have payload := payload_read stored
  have short := packet.frame.short
  have long := packet.frame.long
  have aligned : dwordAlign ((packet.offset+packet.frame.rxSize+4+3) % 0x100000000) = packet.stop := by
    unfold Packet.stop
    rw [Nat.mod_eq_of_lt (by simp only [Frame.rxSize,rxBufLen_eq] at *; omega)]
    congr 1
    omega
  have header : ¬ totalRxBufSize < packet.offset+4 := by
    simp only [rxBufLen_eq,totalRxBufSize_eq] at *
    omega
  have copied : ¬ (packet.frame.rxSize < 4 ∨ totalRxBufSize < packet.offset+packet.frame.rxSize) := by
    simp only [Frame.rxSize,rxBufLen_eq,totalRxBufSize_eq] at *
    omega
  simp only [receivePacket,position,size,payload,aligned,if_neg header,if_neg copied]
  cases allocated with
  | true => exact ⟨_,rfl,rfl,rfl,rfl,by simp only []; omega⟩
  | false => exact ⟨_,rfl,rfl,rfl,by simp [delivered],by simp only [dropPacket]; omega⟩

end Iteration

def Placed : Nat → Nat → List Packet → Prop
  | start,w,[] => start = w
  | start,w,packet :: rest => packet.offset = start ∧ packet.offset < rxBufLen ∧ Placed (packet.stop % rxBufLen) w rest

def lastStop (consumed : List (Packet × Bool)) : Nat := (consumed.getLast?.map fun taken => taken.1.stop).getD 0

structure Synchronized (start : NetDeviceStats) (s : System) : Prop extends Delivered start s where
  position : s.driver.curRx = lastStop s.consumed
  offset : s.w < rxBufLen
  placed : Placed (s.driver.curRx % rxBufLen) s.w s.unread
  intact : ∀ packet ∈ s.unread,
    load s.driver.rxRing packet.offset (4+packet.frame.rxSize) = packet.frame.onRing

-- No packet taken off the ring ends exactly at its end, the latest one apart.
def NoExactEnd (consumed : List (Packet × Bool)) : Prop := ∀ taken ∈ consumed.dropLast,taken.1.stop ≠ rxBufLen

section Steps
variable {start : NetDeviceStats} {s : System}

theorem rxBufLen_pos : 0 < rxBufLen := by decide

theorem opened_synchronized (rxRing : Nat → UInt8) (stats : NetDeviceStats) :
    Synchronized stats (opened rxRing stats) := ⟨⟨rfl,rfl,rfl⟩,rfl,rxBufLen_pos,rfl,by simp [opened]⟩

theorem Placed.snoc {oldest w : Nat} {unread : List Packet} (frame : Frame) (placed : Placed oldest w unread)
    (inside : w < rxBufLen) :
    Placed oldest (Packet.stop ⟨w,frame⟩ % rxBufLen) (unread ++ [⟨w,frame⟩]) := by
  induction unread generalizing oldest with
  | nil => exact ⟨placed.symm,inside,rfl⟩
  | cons packet rest ih => exact ⟨placed.1,placed.2.1,ih placed.2.2⟩

theorem receives_synchronized (frame : Frame) (synchronized : Synchronized start s)
    (apart : ∀ packet ∈ s.unread,packet.Apart ⟨s.w,frame⟩) : Synchronized start (receives frame s) := by
  refine ⟨⟨synchronized.buffers,synchronized.counted,synchronized.sound⟩,synchronized.position,
    Nat.mod_lt _ rxBufLen_pos,synchronized.placed.snoc frame synchronized.offset,?_⟩
  intro packet member
  rcases List.mem_append.mp member with older | newest
  · have away := apart packet older
    have kept := synchronized.intact packet older
    simp only [receives]
    rw [load_store_disjoint (by simp only [Packet.Apart,Frame.onRing_length] at *; omega)]
    exact kept
  · obtain rfl := List.mem_singleton.mp newest
    simp only [receives]
    rw [← Frame.onRing_length,load_store_same]

theorem interrupts_synchronized (isr : BitVec 16) (synchronized : Synchronized start s) :
    Synchronized start (interrupts isr s) := by
  unfold interrupts
  split
  · refine ⟨⟨synchronized.buffers,?_,synchronized.sound⟩,synchronized.position,synchronized.offset,
      synchronized.placed,synchronized.intact⟩
    have counted := synchronized.counted
    simp only [countErrors]
    split <;> exact counted
  · exact synchronized

theorem agrees_exact (synchronized : Synchronized start s) (oldest : s.unread = packet :: rest) :
    addressWrap s.driver.curRx = packet.offset ↔ s.driver.curRx ≠ rxBufLen := by
  have placed := synchronized.placed
  rw [oldest] at placed
  rw [placed.1]
  exact addressWrap_exact _

theorem iterates_synchronized (allocated : Bool) (synchronized : Synchronized start s)
    (oldest : s.unread = packet :: rest) (position : addressWrap s.driver.curRx = packet.offset) :
    Synchronized start (iterates allocated s) := by
  have placed := synchronized.placed
  have intact := synchronized.intact
  rw [oldest] at placed intact
  obtain ⟨next,step,reads⟩ := receivePacket_reads allocated placed.2.1 position (intact packet (by simp))
  simp only [iterates,step,oldest]
  refine ⟨⟨?_,?_,synchronized.sound⟩,?_,synchronized.offset,?_,?_⟩
  · simp [reads.handed,synchronized.buffers,delivered]
  · have counted := synchronized.counted
    have more := reads.counted
    simp only [List.head?_cons,Option.toList_some,List.map_cons,List.map_nil,List.length_append,List.length_singleton]
    omega
  · simp [reads.position,lastStop]
  · rw [reads.position]
    exact placed.2.2
  · intro other member
    rw [reads.memory]
    exact intact other (List.mem_cons_of_mem _ member)

theorem noExactEnd_snoc : NoExactEnd (consumed ++ [taken]) ↔ NoExactEnd consumed ∧ lastStop consumed ≠ rxBufLen := by
  rcases List.eq_nil_or_concat consumed with rfl | ⟨before,last,rfl⟩
  · simp [NoExactEnd,lastStop,rxBufLen_eq]
  · simp only [NoExactEnd,lastStop,List.dropLast_concat,List.getLast?_concat,List.concat_eq_append,
      List.mem_append,List.mem_singleton,or_imp,forall_and,forall_eq,Option.map_some,Option.getD_some]

theorem NoExactEnd.before (clear : NoExactEnd (consumed ++ more)) : NoExactEnd consumed := by
  intro taken member
  apply clear taken
  cases more with
  | nil => simpa using member
  | cons next rest =>
      rw [List.dropLast_append_cons]
      exact List.mem_append_left _ (List.dropLast_subset _ member)

theorem apply_consumed (s : System) (event : Event) : ∃ more,(machine.apply s event).consumed = s.consumed ++ more := by
  cases event with
  | receives frame => exact ⟨[],by simp [machine,receives]⟩
  | interrupts isr => exact ⟨[],by simp [machine]⟩
  | iterates allocated => exact ⟨_,iterates_consumed allocated s⟩
  | leaves => exact ⟨[],by simp [machine]⟩

theorem run_consumed (s : System) (events : List Event) :
    ∃ more,(machine.run s events).consumed = s.consumed ++ more := by
  have preserved : ∀ t event,(∃ more,t.consumed = s.consumed ++ more) →
      ∃ more,(machine.apply t event).consumed = s.consumed ++ more := by
    intro t event before
    obtain ⟨earlier,reached⟩ := before
    obtain ⟨later,stepped⟩ := apply_consumed t event
    exact ⟨earlier ++ later,by rw [stepped,reached,List.append_assoc]⟩
  exact machine.run_preserves preserved events ⟨[],by simp⟩

-- In a synchronized state the next step stays synchronized and in agreement
-- exactly when it does not follow a packet that ended at the end of the ring.
theorem step_exact (synchronized : Synchronized start s) (event : Event) (allowed : machine.Allowed s event)
    (clear : NoExactEnd s.consumed) : Agrees s event ↔ NoExactEnd (machine.apply s event).consumed := by
  cases event with
  | receives frame => exact iff_of_true trivial clear
  | interrupts isr => exact iff_of_true trivial (by simpa [machine] using clear)
  | iterates allocated =>
      obtain ⟨packet,rest,oldest⟩ := List.exists_cons_of_ne_nil allowed.2.2
      have extended : (machine.apply s (.iterates allocated)).consumed = s.consumed ++ [(packet,allocated)] := by
        simp [machine,oldest]
      rw [extended,noExactEnd_snoc,← synchronized.position]
      simp [Agrees,oldest,agrees_exact synchronized oldest,clear]
  | leaves => exact iff_of_true trivial clear

theorem step_synchronized (synchronized : Synchronized start s) (event : Event) (allowed : machine.Allowed s event)
    (agrees : Agrees s event) : Synchronized start (machine.apply s event) := by
  cases event with
  | receives frame => exact receives_synchronized frame synchronized allowed
  | interrupts isr => exact interrupts_synchronized isr synchronized
  | iterates allocated =>
      obtain ⟨packet,rest,oldest⟩ := List.exists_cons_of_ne_nil allowed.2.2
      exact iterates_synchronized allocated synchronized oldest (agrees packet (by simp [oldest]))
  | leaves => exact ⟨⟨synchronized.buffers,synchronized.counted,synchronized.sound⟩,synchronized.position,
      synchronized.offset,synchronized.placed,synchronized.intact⟩

theorem synchronized_run (synchronized : Synchronized start s) (path : machine.Runs s events)
    (agree : machine.Along Agrees s events) : Synchronized start (machine.run s events) := by
  have preserved : ∀ t event,Synchronized start t → machine.Allowed t event ∧ Agrees t event →
      Synchronized start (machine.apply t event) :=
    fun t event before allowed => step_synchronized before event allowed.1 allowed.2
  exact machine.invariant preserved synchronized (Machine.along_and.mpr ⟨path,agree⟩)

theorem agreeing_run (synchronized : Synchronized start s) (clear : NoExactEnd s.consumed)
    (path : machine.Runs s events) (agree : machine.Along Agrees s events) :
    NoExactEnd (machine.run s events).consumed := by
  induction events generalizing s with
  | nil => exact clear
  | cons event rest ih =>
      have next := (step_exact synchronized event path.1 clear).mp agree.1
      exact ih (step_synchronized synchronized event path.1 agree.1) next path.2 agree.2

theorem clear_run (synchronized : Synchronized start s) (path : machine.Runs s events)
    (clear : NoExactEnd (machine.run s events).consumed) : machine.Along Agrees s events := by
  induction events generalizing s with
  | nil => trivial
  | cons event rest ih =>
      obtain ⟨later,reached⟩ := run_consumed (machine.apply s event) rest
      obtain ⟨first,stepped⟩ := apply_consumed s event
      rw [Machine.run_cons] at clear
      have next : NoExactEnd (machine.apply s event).consumed := (reached ▸ clear).before
      have agrees := (step_exact synchronized event path.1 (stepped ▸ next).before).mpr next
      exact ⟨agrees,ih (step_synchronized synchronized event path.1 agrees) path.2 clear⟩

end Steps

def received : Event → List Frame
  | .receives frame => [frame]
  | _ => []

def arrivals (s : System) : List Frame := s.consumed.map (·.1.frame) ++ s.unread.map (·.frame)

theorem apply_arrivals (s : System) (event : Event) :
    arrivals (machine.apply s event) = arrivals s ++ received event := by
  cases event with
  | receives frame => simp [arrivals,received,machine,receives]
  | interrupts isr => simp [arrivals,received,machine]
  | iterates allocated => cases unread : s.unread <;> simp [arrivals,received,machine,unread]
  | leaves => simp [arrivals,received,machine]

theorem run_arrivals (s : System) (events : List Event) :
    arrivals (machine.run s events) = arrivals s ++ events.flatMap received := by
  induction events generalizing s with
  | nil => simp
  | cons event rest ih => rw [Machine.run_cons,ih,apply_arrivals,List.flatMap_cons,List.append_assoc]

theorem ring_agreement_iff (rxRing : Nat → UInt8) (stats : NetDeviceStats) (events : List Event)
    (path : machine.Runs (opened rxRing stats) events) :
    machine.Along Agrees (opened rxRing stats) events ∧ Delivered stats (machine.run (opened rxRing stats) events) ↔
      NoExactEnd (machine.run (opened rxRing stats) events).consumed := by
  have start := opened_synchronized rxRing stats
  have nothing : NoExactEnd (opened rxRing stats).consumed := by simp [NoExactEnd,opened]
  constructor
  · intro agree
    exact agreeing_run start nothing path agree.1
  · intro clear
    have agree := clear_run start path clear
    exact ⟨agree,(synchronized_run start path agree).toDelivered⟩

section WrappingTraffic

def announce (frame : Frame) : List Event := [.receives frame,.interrupts rxOK,.iterates true]
def exchange (frame : Frame) : List Event := announce frame ++ [.leaves]

def longFrame : Frame :=
  ⟨1,List.replicate 1020 0,by simp only [List.length_replicate]; omega,by simp only [List.length_replicate]; omega⟩
def wrappingTraffic : List Event := (List.replicate 32 (exchange longFrame)).flatten ++ announce longFrame

structure Idle (start : NetDeviceStats) (here : Nat) (s : System) : Prop extends Synchronized start s where
  unread : s.unread = []
  receiving : s.receiving = false
  curRx : s.driver.curRx = here

variable {start : NetDeviceStats} {s : System} {n here : Nat}

theorem Idle.offset_eq (idle : Idle start here s) : s.w = here % rxBufLen := by
  have placed := idle.placed
  rw [idle.unread,idle.curRx] at placed
  exact placed.symm

theorem interrupts_rxOK (s : System) : interrupts rxOK s = {s with receiving := true} := by
  have known : serviced rxOK = true := by decide
  simp only [interrupts,known,if_true]
  rfl

theorem announce_runs (idle : Idle start here s) (frame : Frame) : machine.Runs s (announce frame) := by
  refine ⟨?_,idle.receiving,⟨?_,?_,?_⟩,trivial⟩
  · simp [machine,idle.unread]
  · simp only [machine,interrupts_rxOK]
  · simpa only [machine,interrupts_rxOK,receives] using idle.sound
  · simp [machine,receives]

theorem announce_agrees (idle : Idle start here s) (frame : Frame) :
    machine.Along Agrees s (announce frame) ↔ here ≠ rxBufLen := by
  rw [← addressWrap_exact]
  simp [announce,Machine.Along,Agrees,machine,receives,interrupts_rxOK,idle.unread,idle.curRx,idle.offset_eq]

theorem exchange_runs (idle : Idle start here s) (frame : Frame) (inside : here < rxBufLen) :
    machine.Runs s (exchange frame) ∧ Idle start (Packet.stop ⟨here,frame⟩) (machine.run s (exchange frame)) := by
  have w : s.w = here := by rw [idle.offset_eq,Nat.mod_eq_of_lt inside]
  have path : machine.Runs s (exchange frame) :=
    Machine.along_append.mpr ⟨announce_runs idle frame,
      by simp [machine,announce,receives,interrupts_rxOK,idle.unread,Machine.Along]⟩
  have agree : machine.Along Agrees s (exchange frame) :=
    Machine.along_append.mpr ⟨(announce_agrees idle frame).mpr (Nat.ne_of_lt inside),trivial,trivial⟩
  have synchronized := synchronized_run idle.toSynchronized path agree
  have consumed : (machine.run s (exchange frame)).consumed = s.consumed ++ [(⟨here,frame⟩,true)] := by
    simp [machine,exchange,announce,receives,idle.unread,w]
  refine ⟨path,synchronized,?_,rfl,?_⟩
  · simp [machine,exchange,announce,receives,idle.unread]
  · rw [synchronized.position,consumed]
    simp [lastStop]

theorem exchanges_run (n : Nat) (fits : n ≤ 32) :
    machine.Runs (opened (fun _ => 0) {}) (List.replicate n (exchange longFrame)).flatten ∧
      Idle {} (1024*n) (machine.run (opened (fun _ => 0) {}) (List.replicate n (exchange longFrame)).flatten) := by
  induction n with
  | zero => exact ⟨trivial,opened_synchronized _ _,rfl,rfl,rfl⟩
  | succ n ih =>
      obtain ⟨path,idle⟩ := ih (by omega)
      obtain ⟨further,filled⟩ := exchange_runs idle longFrame (by rw [rxBufLen_eq]; omega)
      have stop : Packet.stop ⟨1024*n,longFrame⟩ = 1024*(n+1) := by
        simp only [Packet.stop,Frame.rxSize,longFrame,dwordAlign,List.length_replicate]
        omega
      rw [List.replicate_succ',List.flatten_append,List.flatten_singleton,Machine.run_append]
      exact ⟨Machine.along_append.mpr ⟨path,further⟩,stop ▸ filled⟩

theorem wrapping_traffic_disagrees : machine.Runs (opened (fun _ => 0) {}) wrappingTraffic ∧
    ¬ machine.Along Agrees (opened (fun _ => 0) {}) wrappingTraffic := by
  obtain ⟨path,idle⟩ := exchanges_run 32 (by decide)
  refine ⟨Machine.along_append.mpr ⟨path,announce_runs idle longFrame⟩,?_⟩
  intro agree
  exact (announce_agrees idle longFrame).mp (Machine.along_append.mp agree).2 rfl

theorem ring_agreement_iff_wrapping :
    ¬ NoExactEnd (machine.run (opened (fun _ => 0) {}) wrappingTraffic).consumed := by
  obtain ⟨path,idle⟩ := exchanges_run 32 (by decide)
  intro exact
  have agree := ((ring_agreement_iff _ _ _ (Machine.along_append.mpr ⟨path,announce_runs idle longFrame⟩)).mpr exact).1
  exact (announce_agrees idle longFrame).mp (Machine.along_append.mp agree).2 rfl

end WrappingTraffic

end LinuxDeviceDrivers.Rtl8139Receive
