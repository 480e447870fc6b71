import Mathlib.Algebra.GroupWithZero.Nat
import LinuxDeviceDrivers.ByteStore
import LinuxDeviceDrivers.Transition

namespace LinuxDeviceDrivers.VirtualBlockDevice
open Transition ByteStore

def sectorShift : Nat := 9
def pageSize : Nat := 4096

-- struct block_dev. `data` is the buffer of capacity << 9 bytes; kmalloc hands
-- out nothing near the 4 GiB of the second field.
structure BlockDev where
  capacity : BitVec 64
  allocated : capacity.toNat*512 < 0x100000000
  data : Nat → UInt8

def BlockDev.size (dev : BlockDev) : Nat := dev.capacity.toNat*512

def myblockDriverInit (data : Nat → UInt8) : BlockDev where
  capacity := BitVec.ofNat 64 ((112*pageSize) >>> 9)
  allocated := by decide
  data := data

inductive Direction where
  | read
  | write
deriving DecidableEq

-- A segment is the bytes of its page from bv_offset on, bv_len of them.
structure Request where
  direction : Direction
  sector : BitVec 64
  segments : List (List UInt8)

def total (segments : List (List UInt8)) : Nat := (segments.map List.length).sum

-- The loop of do_request between two segments: pos is a loff_t, nr_bytes an
-- unsigned int, and `served` the segments already passed, as they are left.
structure Progress where
  data : Nat → UInt8
  pos : BitVec 64
  nrBytes : BitVec 32 := 0#32
  served : List (List UInt8) := []

-- A loff_t against an unsigned long is compared as unsigned.
def clamp (pos bLen devSize : BitVec 64) : BitVec 64 := if devSize < pos+bLen then devSize-pos else bLen

-- One segment; `none` where memcpy would leave the buffer or the segment.
def doSegment (dev : BlockDev) (direction : Direction) (segment : List UInt8) (p : Progress) : Option Progress :=
  let bLen := clamp p.pos (BitVec.ofNat 64 segment.length) (dev.capacity <<< sectorShift)
  if p.pos.toNat+bLen.toNat ≤ dev.size ∧ bLen.toNat ≤ segment.length then
    let passed := {p with pos := p.pos+bLen,nrBytes := p.nrBytes+bLen.setWidth 32}
    match direction with
    | .write => some {passed with
        data := store p.data p.pos.toNat (segment.take bLen.toNat)
        served := p.served ++ [segment]}
    | .read => some {passed with
        served := p.served ++ [load p.data p.pos.toNat bLen.toNat ++ segment.drop bLen.toNat]}
  else none

def doSegments (dev : BlockDev) (direction : Direction) : List (List UInt8) → Progress → Option Progress
  | [],p => some p
  | segment :: rest,p => (doSegment dev direction segment p).bind (doSegments dev direction rest)

def doRequest (rq : Request) (dev : BlockDev) : Option (Int × Progress) :=
  (doSegments dev rq.direction rq.segments {data := dev.data,pos := rq.sector <<< sectorShift}).map fun p => (0,p)

inductive BlkStatus where
  | ok
  | ioerr
deriving DecidableEq

structure Reply where
  status : BlkStatus
  nrBytes : BitVec 32
  segments : List (List UInt8)

-- `crashed` stands for the BUG() of queue_rq and for a memcpy out of bounds.
structure System where
  dev : BlockDev
  replies : List Reply := []
  crashed : Bool := false

section Queue
variable (blkUpdateRequest : Request → BlkStatus → BitVec 32 → Bool)

def queueRq (rq : Request) (s : System) : System :=
  match doRequest rq s.dev with
  | none => {s with crashed := true}
  | some (ret,p) =>
      let status := if ret = 0 then BlkStatus.ok else .ioerr
      if blkUpdateRequest rq status p.nrBytes then {s with crashed := true}
      else {s with dev := {s.dev with data := p.data},replies := s.replies ++ [⟨status,p.nrBytes,p.served⟩]}

-- The block layer keeps a request within the capacity it was told. Nothing is
-- served after a crash.
def machine : Machine System Request where
  Allowed s rq := rq.sector.toNat*512+total rq.segments ≤ s.dev.size
  apply s rq := if s.crashed then s else queueRq blkUpdateRequest rq s

instance decidableAllowed (s : System) (rq : Request) : Decidable ((machine blkUpdateRequest).Allowed s rq) :=
  inferInstanceAs (Decidable (rq.sector.toNat*512+total rq.segments ≤ s.dev.size))

end Queue

def fill (data : Nat → UInt8) : Nat → List (List UInt8) → List (List UInt8)
  | _,[] => []
  | pos,segment :: rest => load data pos segment.length :: fill data (pos+segment.length) rest

def onDevice (direction : Direction) (pos : Nat) (segments : List (List UInt8)) (data : Nat → UInt8) : Nat → UInt8 :=
  match direction with
  | .write => store data pos segments.flatten
  | .read => data

def inSegments (direction : Direction) (pos : Nat) (segments : List (List UInt8)) (data : Nat → UInt8) :
    List (List UInt8) :=
  match direction with
  | .write => segments
  | .read => fill data pos segments

structure Passes (direction : Direction) (segments : List (List UInt8)) (p q : Progress) : Prop where
  pos : q.pos.toNat = p.pos.toNat+total segments
  nrBytes : q.nrBytes = p.nrBytes+BitVec.ofNat 32 (total segments)
  data : q.data = onDevice direction p.pos.toNat segments p.data
  served : q.served = p.served ++ inSegments direction p.pos.toNat segments p.data

section Loop
variable {dev : BlockDev} {direction : Direction} {segment : List UInt8} {segments : List (List UInt8)}
  {p q r : Progress}

theorem flatten_length (segments : List (List UInt8)) : segments.flatten.length = total segments :=
  List.length_flatten

theorem fill_flatten (data : Nat → UInt8) (pos : Nat) (segments : List (List UInt8)) :
    (fill data pos segments).flatten = load data pos (total segments) := by
  induction segments generalizing pos with
  | nil => rfl
  | cons segment rest ih => simp [fill,ih,total,load_add]

theorem fill_lengths (data : Nat → UInt8) (pos : Nat) (segments : List (List UInt8)) :
    (fill data pos segments).map List.length = segments.map List.length := by
  induction segments generalizing pos with
  | nil => rfl
  | cons segment rest ih => simp [fill,ih]

theorem size_bound (dev : BlockDev) : (dev.capacity <<< sectorShift).toNat = dev.size := by
  have allocated := dev.allocated
  rw [BitVec.toNat_shiftLeft,Nat.shiftLeft_eq]
  exact Nat.mod_eq_of_lt (by simp only [sectorShift]; omega)

theorem length_toNat (inside : p.pos.toNat+segment.length ≤ dev.size) :
    (BitVec.ofNat 64 segment.length).toNat = segment.length := by
  have allocated := dev.allocated
  rw [BitVec.toNat_ofNat]
  exact Nat.mod_eq_of_lt (by simp only [BlockDev.size] at inside; omega)

theorem pos_advance (inside : p.pos.toNat+segment.length ≤ dev.size) :
    (p.pos+BitVec.ofNat 64 segment.length).toNat = p.pos.toNat+segment.length := by
  have allocated := dev.allocated
  rw [BitVec.toNat_add,length_toNat inside]
  exact Nat.mod_eq_of_lt (by simp only [BlockDev.size] at inside; omega)

theorem clamp_idle (inside : p.pos.toNat+segment.length ≤ dev.size) :
    clamp p.pos (BitVec.ofNat 64 segment.length) (dev.capacity <<< sectorShift) = BitVec.ofNat 64 segment.length := by
  unfold clamp
  rw [if_neg]
  rw [BitVec.lt_def,size_bound,pos_advance inside]
  omega

theorem doSegment_passes (dev : BlockDev) (direction : Direction) (segment : List UInt8)
    (inside : p.pos.toNat+segment.length ≤ dev.size) :
    ∃ q,doSegment dev direction segment p = some q ∧ Passes direction [segment] p q := by
  have length := length_toNat inside
  have advanced := pos_advance inside
  have whole : (BitVec.ofNat 64 segment.length).setWidth 32 = BitVec.ofNat 32 segment.length := by
    apply BitVec.eq_of_toNat_eq
    rw [BitVec.toNat_setWidth,length,BitVec.toNat_ofNat]
  simp only [doSegment,clamp_idle inside,length,if_pos (And.intro inside (Nat.le_refl _)),whole]
  cases direction with
  | write => exact ⟨_,rfl,by simpa [total] using advanced,by simp [total],by simp [onDevice],rfl⟩
  | read => exact ⟨_,rfl,by simpa [total] using advanced,by simp [total],rfl,by simp [inSegments,fill]⟩

theorem Passes.cons (first : Passes direction [segment] p q) (later : Passes direction segments q r) :
    Passes direction (segment :: segments) p r := by
  have pos : q.pos.toNat = p.pos.toNat+segment.length := by simpa [total] using first.pos
  have sum : total (segment :: segments) = total [segment]+total segments := by simp [total]
  refine ⟨by rw [later.pos,first.pos,sum,Nat.add_assoc],?_,?_,?_⟩
  · rw [later.nrBytes,first.nrBytes,sum,BitVec.ofNat_add,BitVec.add_assoc]
  · cases direction with
    | write =>
        have stored : q.data = store p.data p.pos.toNat segment := by simpa [onDevice] using first.data
        rw [later.data,stored,pos,onDevice,onDevice,List.flatten_cons,← store_append]
    | read => exact later.data.trans first.data
  · cases direction with
    | write => simp [later.served,first.served,inSegments]
    | read =>
        have kept : q.data = p.data := first.data
        simp [later.served,first.served,inSegments,fill,kept,pos]

theorem doSegments_passes (dev : BlockDev) (direction : Direction) (segments : List (List UInt8))
    (inside : p.pos.toNat+total segments ≤ dev.size) :
    ∃ q,doSegments dev direction segments p = some q ∧ Passes direction segments p q := by
  induction segments generalizing p with
  | nil =>
      refine ⟨p,rfl,rfl,by simp [total],?_,?_⟩
      · cases direction <;> simp [onDevice]
      · cases direction <;> simp [inSegments,fill]
  | cons segment rest ih =>
      have sum : total (segment :: rest) = segment.length+total rest := by simp [total]
      obtain ⟨q,served,first⟩ := doSegment_passes (p:=p) dev direction segment (by omega)
      have pos : q.pos.toNat = p.pos.toNat+segment.length := by simpa [total] using first.pos
      obtain ⟨r,rest,later⟩ := ih (p:=q) (by omega)
      exact ⟨r,by rw [doSegments,served,Option.bind_some,rest],first.cons later⟩

end Loop

def Request.offset (rq : Request) : Nat := rq.sector.toNat*512

def writes (requests : List Request) : List (Write UInt8) :=
  (requests.filter (·.direction == .write)).reverse.map fun rq => ⟨rq.offset,rq.segments.flatten⟩

structure Serves (initial : Nat → UInt8) (before : List Request) (rq : Request) (s t : System) : Prop where
  alive : t.crashed = false
  reply : ∃ reply,t.replies = s.replies ++ [reply] ∧ reply.status = .ok ∧
    reply.nrBytes.toNat = total rq.segments ∧ match rq.direction with
    | .read => reply.segments.map List.length = rq.segments.map List.length ∧
        reply.segments.flatten = load (lastWritten initial (writes before)) rq.offset (total rq.segments)
    | .write => reply.segments = rq.segments
  device : match rq.direction with
    | .read => t.dev = s.dev
    | .write => load t.dev.data rq.offset (total rq.segments) = rq.segments.flatten ∧
        ∀ address,address < rq.offset ∨ rq.offset+total rq.segments ≤ address →
          t.dev.data address = s.dev.data address

structure Mirrors (initial : Nat → UInt8) (capacity : BitVec 64) (served : List Request) (s : System) : Prop where
  alive : s.crashed = false
  capacity : s.dev.capacity = capacity
  data : s.dev.data = lastWritten initial (writes served)

section Serving
variable {initial : Nat → UInt8} {capacity : BitVec 64} {dev : BlockDev} {served : List Request} {rq : Request} {s : System}
  {blkUpdateRequest : Request → BlkStatus → BitVec 32 → Bool}

theorem sector_pos (inside : rq.sector.toNat*512+total rq.segments ≤ dev.size) :
    (rq.sector <<< sectorShift).toNat = rq.offset := by
  have allocated := dev.allocated
  simp only [BlockDev.size] at inside
  rw [BitVec.toNat_shiftLeft,Nat.shiftLeft_eq,sectorShift,Request.offset]
  omega

theorem writes_snoc (served : List Request) (rq : Request) :
    writes (served ++ [rq]) = match rq.direction with
      | .read => writes served
      | .write => ⟨rq.offset,rq.segments.flatten⟩ :: writes served := by
  cases direction : rq.direction <;> simp [writes,direction]

theorem doRequest_passes (dev : BlockDev) (inside : rq.sector.toNat*512+total rq.segments ≤ dev.size) :
    ∃ p,doRequest rq dev = some (0,p) ∧
      Passes rq.direction rq.segments {data := dev.data,pos := rq.sector <<< sectorShift} p := by
  let start : Progress := {data := dev.data,pos := rq.sector <<< sectorShift}
  have fits : start.pos.toNat+total rq.segments ≤ dev.size := (sector_pos inside).symm ▸ inside
  obtain ⟨p,served,passes⟩ := doSegments_passes dev rq.direction rq.segments fits
  exact ⟨p,by rw [doRequest,served,Option.map_some],passes⟩

-- blk_update_request finds nothing left over once it is told of all the bytes of
-- the request.
variable (finishes : ∀ rq status nrBytes,nrBytes.toNat = total rq.segments → blkUpdateRequest rq status nrBytes = false)
include finishes

theorem queueRq_serves
    (mirrors : Mirrors initial capacity served s) (inside : rq.sector.toNat*512+total rq.segments ≤ s.dev.size) :
    Serves initial served rq s (queueRq blkUpdateRequest rq s) ∧
      Mirrors initial capacity (served ++ [rq]) (queueRq blkUpdateRequest rq s) := by
  obtain ⟨p,step,passes⟩ := doRequest_passes s.dev inside
  have allocated := s.dev.allocated
  have pos := sector_pos inside
  have counted : p.nrBytes.toNat = total rq.segments := by
    simp only [BlockDev.size] at inside
    rw [passes.nrBytes,BitVec.zero_add,BitVec.toNat_ofNat]
    exact Nat.mod_eq_of_lt (by omega)
  have done := finishes rq .ok p.nrBytes counted
  obtain ⟨_,_,data,replied⟩ := passes
  simp only [queueRq,step,if_true,done,Bool.false_eq_true,if_false]
  cases direction : rq.direction with
  | write =>
      simp only [direction,pos,List.nil_append,onDevice,inSegments] at data replied
      refine ⟨⟨mirrors.alive,⟨_,rfl,rfl,counted,?_⟩,?_⟩,mirrors.alive,mirrors.capacity,?_⟩
      · simpa only [direction] using replied
      · simp only [direction,data,← flatten_length]
        exact ⟨load_store_same,fun address outside => store_outside outside⟩
      · simp only [writes_snoc,direction,lastWritten_cons,data,mirrors.data]
  | read =>
      simp only [direction,pos,List.nil_append,onDevice,inSegments] at data replied
      refine ⟨⟨mirrors.alive,⟨_,rfl,rfl,counted,?_⟩,?_⟩,mirrors.alive,mirrors.capacity,?_⟩
      · simp only [direction,replied,fill_lengths,fill_flatten,mirrors.data,and_self]
      · simp only [direction,data]
      · simp only [writes_snoc,direction,data,mirrors.data]

theorem apply_serves
    (mirrors : Mirrors initial capacity served s) (inside : (machine blkUpdateRequest).Allowed s rq) :
    Serves initial served rq s ((machine blkUpdateRequest).apply s rq) ∧
      Mirrors initial capacity (served ++ [rq]) ((machine blkUpdateRequest).apply s rq) := by
  have alive : (machine blkUpdateRequest).apply s rq = queueRq blkUpdateRequest rq s := by
    simp only [machine,mirrors.alive,Bool.false_eq_true,if_false]
  rw [alive]
  exact queueRq_serves finishes mirrors inside

theorem run_mirrors
    (mirrors : Mirrors initial capacity served s) (requests : List Request)
    (path : (machine blkUpdateRequest).Runs s requests) :
    Mirrors initial capacity (served ++ requests) ((machine blkUpdateRequest).run s requests) := by
  induction requests generalizing served s with
  | nil =>
      rw [List.append_nil]
      exact mirrors
  | cons rq rest ih =>
      have stepped := (apply_serves finishes mirrors path.1).2
      have reached := ih stepped path.2
      rwa [List.append_assoc] at reached

end Serving

theorem faithful_store (blkUpdateRequest : Request → BlkStatus → BitVec 32 → Bool)
    (finishes : ∀ rq status nrBytes,nrBytes.toNat = total rq.segments → blkUpdateRequest rq status nrBytes = false)
    (dev : BlockDev) (before : List Request) (rq : Request)
    (path : (machine blkUpdateRequest).Runs {dev := dev} (before ++ [rq])) :
    Serves dev.data before rq ((machine blkUpdateRequest).run {dev := dev} before)
      ((machine blkUpdateRequest).run {dev := dev} (before ++ [rq])) := by
  obtain ⟨earlier,last⟩ := Machine.along_append.mp path
  have start : Mirrors dev.data dev.capacity [] {dev := dev} := ⟨rfl,rfl,rfl⟩
  have mirrors := run_mirrors finishes start before earlier
  rw [Machine.run_append]
  exact (apply_serves finishes mirrors last.1).1

def overlapping : List Request := [⟨.write,2,[[1,2],[],[3]]⟩,⟨.write,2,[[4]]⟩]
def readBack : Request := ⟨.read,2,[[0],[0,0,0]]⟩

def nothingLeft (rq : Request) (_ : BlkStatus) (nrBytes : BitVec 32) : Bool := nrBytes.toNat < total rq.segments

def zeroed : BlockDev := myblockDriverInit fun _ => 0

theorem faithful_store_overlapping :
    Serves zeroed.data overlapping readBack ((machine nothingLeft).run {dev := zeroed} overlapping)
      ((machine nothingLeft).run {dev := zeroed} (overlapping ++ [readBack])) := by
  apply faithful_store
  · intro rq _ nrBytes counted
    simp [nothingLeft,counted]
  · decide +kernel

end LinuxDeviceDrivers.VirtualBlockDevice
