import Mathlib.Data.List.Forall2
import LinuxDeviceDrivers.VirtualBlockDevice

namespace LinuxDeviceDrivers.MemblockDevice
open ByteStore VirtualBlockDevice

def sectorSize : Nat := 512

-- What the block layer hands over at a time: current_nr_sectors sectors, and
-- the memory `buffer` points to.
structure Chunk where
  nrSectors : BitVec 32
  buffer : List UInt8
  whole : buffer.length = nrSectors.toNat*512

-- struct request. The first chunk is the current one; `served` are the chunks
-- already completed, as they are left.
structure MemRequest where
  direction : Direction
  sector : BitVec 64
  chunks : List Chunk
  served : List Chunk := []

structure Memblock where
  queue : List MemRequest
  blockBuf : Nat → UInt8
  finished : List MemRequest := []

def MemRequest.currentNrSectors (req : MemRequest) : BitVec 32 :=
  match req.chunks with
  | [] => 0#32
  | chunk :: _ => chunk.nrSectors

def MemRequest.offset (req : MemRequest) : Nat := (req.sector*BitVec.ofNat 64 sectorSize).toNat

-- current_nr_sectors is an unsigned int, and so is its product with SECTOR_SIZE.
def MemRequest.len (req : MemRequest) : Nat := (req.currentNrSectors*BitVec.ofNat 32 sectorSize).toNat

-- The two memcpy calls; `none` where they would leave block_buf or the buffer.
def copyChunk (size offset len : Nat) (direction : Direction) (chunk : Chunk) (blockBuf : Nat → UInt8) :
    Option (Chunk × (Nat → UInt8)) :=
  if fits : offset+len ≤ size ∧ len ≤ chunk.buffer.length then
    match direction with
    | .read => some ({chunk with
        buffer := load blockBuf offset len ++ chunk.buffer.drop len
        whole := by
          rw [List.length_append,load_length,List.length_drop,Nat.add_sub_cancel' fits.2]
          exact chunk.whole},blockBuf)
    | .write => some (chunk,store blockBuf offset (chunk.buffer.take len))
  else none

def copyCurrent (size : Nat) (req : MemRequest) (blockBuf : Nat → UInt8) : Option (MemRequest × (Nat → UInt8)) :=
  match req.chunks with
  | [] => some (req,blockBuf)
  | chunk :: rest => (copyChunk size req.offset req.len req.direction chunk blockBuf).map fun copied =>
      ({req with chunks := copied.1 :: rest},copied.2)

def MemRequest.advance (req : MemRequest) : MemRequest :=
  {req with
    sector := req.sector+req.currentNrSectors.setWidth 64
    chunks := req.chunks.tail
    served := req.served ++ req.chunks.take 1}

def endRequest (req : MemRequest) (s : Memblock) : Memblock :=
  let completed := req.advance
  if completed.chunks.isEmpty then {s with queue := s.queue.tail,finished := s.finished ++ [completed]}
  else {s with queue := completed :: s.queue.tail}

def doMemblockRequest (size : Nat) : Nat → Memblock → Option Memblock
  | 0,_ => none
  | fuel+1,s => match s.queue.head? with
    | none => some s
    | some req => (copyCurrent size req s.blockBuf).bind fun copied =>
        doMemblockRequest size fuel (endRequest copied.1 {s with blockBuf := copied.2})

def doRequests : List Request → BlockDev → Option (BlockDev × List (List (List UInt8)))
  | [],dev => some (dev,[])
  | rq :: rest,dev => (doRequest rq dev).bind fun served =>
      (doRequests rest {dev with data := served.2.data}).map fun last => (last.1,served.2.served :: last.2)

def buffers (chunks : List Chunk) : List (List UInt8) := chunks.map Chunk.buffer

-- The same request to both drivers; each may cut the bytes in its own way. The
-- memory that a read is to fill may hold anything.
structure Same (req : MemRequest) (rq : Request) : Prop where
  direction : req.direction = rq.direction
  sector : req.sector = rq.sector
  length : total (buffers req.chunks) = total rq.segments
  written : rq.direction = .write → (buffers req.chunks).flatten = rq.segments.flatten
  fresh : req.served = []

def Returns (left : MemRequest) (segments : List (List UInt8)) : Prop :=
  (buffers left.served).flatten = segments.flatten

def rounds (req : MemRequest) : Nat := max req.chunks.length 1

def allRounds (requests : List MemRequest) : Nat := (requests.map rounds).sum

section Chunks
variable {dev : BlockDev} {direction : Direction} {req : MemRequest} {chunk : Chunk} {rest : List Chunk} {data : Nat → UInt8}

theorem onDevice_flatten (direction : Direction) (pos : Nat) (data : Nat → UInt8) {first second : List (List UInt8)}
    (same : direction = .write → first.flatten = second.flatten) :
    onDevice direction pos first data = onDevice direction pos second data := by
  cases direction with
  | read => rfl
  | write => rw [onDevice,onDevice,same rfl]

theorem inSegments_flatten (direction : Direction) (pos : Nat) (data : Nat → UInt8) {first second : List (List UInt8)}
    (length : total first = total second) (same : direction = .write → first.flatten = second.flatten) :
    (inSegments direction pos first data).flatten = (inSegments direction pos second data).flatten := by
  cases direction with
  | read => rw [inSegments,inSegments,fill_flatten,fill_flatten,length]
  | write => exact same rfl

theorem onDevice_cons (direction : Direction) (pos : Nat) (segment : List UInt8) (segments : List (List UInt8))
    (data : Nat → UInt8) :
    onDevice direction pos (segment :: segments) data =
      onDevice direction (pos+segment.length) segments (onDevice direction pos [segment] data) := by
  cases direction with
  | read => rfl
  | write => simp only [onDevice,List.flatten_cons,List.flatten_nil,List.append_nil,store_append]

theorem inSegments_cons (direction : Direction) (pos : Nat) (segment : List UInt8) (segments : List (List UInt8))
    (data : Nat → UInt8) :
    inSegments direction pos (segment :: segments) data =
      inSegments direction pos [segment] data ++
        inSegments direction (pos+segment.length) segments (onDevice direction pos [segment] data) := by
  cases direction <;> rfl

theorem total_cons (segment : List UInt8) (segments : List (List UInt8)) :
    total (segment :: segments) = segment.length+total segments := by simp [total]

theorem offset_exact (inside : req.sector.toNat*512 ≤ dev.size) : req.offset = req.sector.toNat*512 := by
  have allocated := dev.allocated
  simp only [BlockDev.size] at inside
  rw [MemRequest.offset,BitVec.toNat_mul,sectorSize,BitVec.toNat_ofNat]
  omega

theorem len_exact (shape : req.chunks = chunk :: rest) (inside : chunk.buffer.length ≤ dev.size) :
    req.len = chunk.buffer.length := by
  have allocated := dev.allocated
  have whole := chunk.whole
  have current : req.currentNrSectors = chunk.nrSectors := by simp only [MemRequest.currentNrSectors,shape]
  simp only [BlockDev.size] at inside
  rw [MemRequest.len,current,BitVec.toNat_mul,sectorSize,BitVec.toNat_ofNat]
  omega

theorem sector_advance (shape : req.chunks = chunk :: rest)
    (inside : req.sector.toNat*512+chunk.buffer.length ≤ dev.size) :
    req.advance.sector.toNat*512 = req.sector.toNat*512+chunk.buffer.length := by
  have allocated := dev.allocated
  have whole := chunk.whole
  have short := chunk.nrSectors.isLt
  simp only [BlockDev.size] at inside
  simp only [MemRequest.advance,MemRequest.currentNrSectors,shape,BitVec.toNat_add,BitVec.toNat_setWidth]
  omega

theorem copyChunk_serves (direction : Direction) (offset : Nat) (data : Nat → UInt8)
    (inside : offset+chunk.buffer.length ≤ dev.size) :
    ∃ left,copyChunk dev.size offset chunk.buffer.length direction chunk data =
        some (left,onDevice direction offset [chunk.buffer] data) ∧
      left.nrSectors = chunk.nrSectors ∧ [left.buffer] = inSegments direction offset [chunk.buffer] data := by
  have fits : offset+chunk.buffer.length ≤ dev.size ∧ chunk.buffer.length ≤ chunk.buffer.length :=
    ⟨inside,Nat.le_refl _⟩
  rw [copyChunk,dif_pos fits]
  cases direction with
  | read => exact ⟨_,rfl,rfl,by simp [inSegments,fill]⟩
  | write => exact ⟨chunk,by simp [onDevice],rfl,rfl⟩

structure Rounded (req next : MemRequest) (chunk : Chunk) (rest : List Chunk) (data : Nat → UInt8) : Prop where
  direction : next.direction = req.direction
  sector : next.sector.toNat*512 = req.sector.toNat*512+chunk.buffer.length
  chunks : next.chunks = rest
  served : buffers next.served =
    buffers req.served ++ inSegments req.direction (req.sector.toNat*512) [chunk.buffer] data

theorem copyCurrent_rounds (data : Nat → UInt8) (shape : req.chunks = chunk :: rest)
    (inside : req.sector.toNat*512+chunk.buffer.length ≤ dev.size) :
    ∃ copied,copyCurrent dev.size req data =
        some (copied,onDevice req.direction (req.sector.toNat*512) [chunk.buffer] data) ∧
      Rounded req copied.advance chunk rest data := by
  have offset := offset_exact (Nat.le_of_add_right_le inside)
  have len := len_exact shape (Nat.le_of_add_left_le inside)
  obtain ⟨left,copies,sectors,bytes⟩ := copyChunk_serves req.direction (req.sector.toNat*512) data inside
  refine ⟨{req with chunks := left :: rest},?_,rfl,?_,rfl,?_⟩
  · simp only [copyCurrent,shape,offset,len,copies,Option.map_some]
  · have advanced := sector_advance shape inside
    simpa only [MemRequest.advance,MemRequest.currentNrSectors,shape,sectors] using advanced
  · simp [MemRequest.advance,buffers,← bytes]

end Chunks

section Loop
variable {dev : BlockDev} {size : Nat} {req copied : MemRequest} {rq : Request} {data left : Nat → UInt8}

theorem doMemblockRequest_round (copies : copyCurrent size req data = some (copied,left)) (fuel : Nat)
    (queue finished : List MemRequest) :
    doMemblockRequest size (fuel+1) {queue := req :: queue,blockBuf := data,finished := finished} =
      doMemblockRequest size fuel
        (endRequest copied {queue := req :: queue,blockBuf := left,finished := finished}) := by
  simp only [doMemblockRequest,List.head?_cons,copies,Option.bind_some]

theorem endRequest_last (last : copied.advance.chunks = []) (s : Memblock) :
    endRequest copied s = {s with queue := s.queue.tail,finished := s.finished ++ [copied.advance]} := by
  simp [endRequest,last]

theorem endRequest_more (more : copied.advance.chunks = chunk :: rest) (s : Memblock) :
    endRequest copied s = {s with queue := copied.advance :: s.queue.tail} := by
  simp [endRequest,more]

structure Finished (req left : MemRequest) (data : Nat → UInt8) : Prop where
  chunks : left.chunks = []
  served : buffers left.served =
    buffers req.served ++ inSegments req.direction (req.sector.toNat*512) (buffers req.chunks) data

-- Induction on the chunks still to come; the induction hypothesis is used at the
-- request that end_request has advanced.
theorem request_serves (req : MemRequest) (data : Nat → UInt8)
    (inside : req.sector.toNat*512+total (buffers req.chunks) ≤ dev.size) :
    ∃ left,Finished req left data ∧ ∀ fuel queue finished,
      doMemblockRequest dev.size (fuel+rounds req) {queue := req :: queue,blockBuf := data,finished := finished} =
        doMemblockRequest dev.size fuel {
          queue := queue
          blockBuf := onDevice req.direction (req.sector.toNat*512) (buffers req.chunks) data
          finished := finished ++ [left]} := by
  generalize shape : req.chunks = chunks at inside
  induction chunks generalizing req data with
  | nil =>
      have copies : copyCurrent dev.size req data = some (req,data) := by simp only [copyCurrent,shape]
      have last : req.advance.chunks = [] := by simp [MemRequest.advance,shape]
      have once : rounds req = 1 := by simp [rounds,shape]
      refine ⟨req.advance,⟨last,?_⟩,fun fuel queue finished => ?_⟩
      · cases direction : req.direction <;> simp [MemRequest.advance,shape,buffers,inSegments,fill]
      · have idle : onDevice req.direction (req.sector.toNat*512) [] data = data := by
          cases req.direction <;> simp [onDevice]
        rw [once,doMemblockRequest_round copies,endRequest_last last,buffers,List.map_nil,idle]
        rfl
  | cons chunk rest ih =>
      have sum := total_cons chunk.buffer (buffers rest)
      have within : req.sector.toNat*512+(chunk.buffer.length+total (buffers rest)) ≤ dev.size := sum ▸ inside
      have first : req.sector.toNat*512+chunk.buffer.length ≤ dev.size := by omega
      obtain ⟨copied,copies,rounded⟩ := copyCurrent_rounds data shape first
      cases rest with
      | nil =>
          have once : rounds req = 1 := by simp [rounds,shape]
          refine ⟨copied.advance,⟨rounded.chunks,?_⟩,fun fuel queue finished => ?_⟩
          · rw [rounded.served,shape]
            rfl
          · rw [once,doMemblockRequest_round copies,endRequest_last rounded.chunks]
            rfl
      | cons next more =>
          have another : rounds req = rounds copied.advance+1 := by simp [rounds,shape,rounded.chunks]
          have device := onDevice_cons req.direction (req.sector.toNat*512) chunk.buffer (buffers (next :: more)) data
          have segments := inSegments_cons req.direction (req.sector.toNat*512) chunk.buffer (buffers (next :: more)) data
          have remains : copied.advance.sector.toNat*512+total (buffers (next :: more)) ≤ dev.size := by
            rw [rounded.sector,Nat.add_assoc]
            exact within
          obtain ⟨left,done,runs⟩ := ih copied.advance
            (onDevice req.direction (req.sector.toNat*512) [chunk.buffer] data) rounded.chunks remains
          rw [rounded.direction,rounded.sector] at runs
          refine ⟨left,⟨done.chunks,?_⟩,fun fuel queue finished => ?_⟩
          · rw [done.served,rounded.served,rounded.direction,rounded.sector,rounded.chunks,shape,List.append_assoc]
            exact congrArg _ segments.symm
          · rw [another,← Nat.add_assoc,doMemblockRequest_round copies,endRequest_more rounded.chunks]
            exact (runs fuel queue finished).trans (congrArg _ (by rw [← device]; rfl))

theorem same_serves (same : Same req rq) (inside : rq.sector.toNat*512+total rq.segments ≤ dev.size) :
    ∃ left p,doRequest rq dev = some (0,p) ∧ Returns left p.served ∧
      ∀ fuel queue finished,
        doMemblockRequest dev.size (fuel+rounds req) {queue := req :: queue,blockBuf := dev.data,finished := finished} =
          doMemblockRequest dev.size fuel {queue := queue,blockBuf := p.data,finished := finished ++ [left]} := by
  obtain ⟨direction,sector,length,written,fresh⟩ := same
  have within : req.sector.toNat*512+total (buffers req.chunks) ≤ dev.size := by
    rw [sector,length]
    exact inside
  obtain ⟨left,done,runs⟩ := request_serves req dev.data within
  obtain ⟨p,serves,passes⟩ := doRequest_passes dev inside
  have data := passes.data
  have served := passes.served
  rw [sector_pos inside] at data served
  refine ⟨left,p,serves,?_,?_⟩
  · rw [Returns,done.served,served,fresh,direction,sector]
    exact inSegments_flatten rq.direction rq.offset dev.data length written
  · intro fuel queue finished
    rw [runs,data,direction,sector,onDevice_flatten rq.direction _ dev.data written,Request.offset]

theorem queue_serves {memRequests : List MemRequest} {requests : List Request}
    (same : List.Forall₂ Same memRequests requests)
    (inside : ∀ rq ∈ requests,rq.sector.toNat*512+total rq.segments ≤ dev.size) :
    ∃ finished last served,doRequests requests dev = some (last,served) ∧
      List.Forall₂ Returns finished served ∧
      ∀ fuel before,
        doMemblockRequest dev.size (fuel+allRounds memRequests)
            {queue := memRequests,blockBuf := dev.data,finished := before} =
          doMemblockRequest dev.size fuel {queue := [],blockBuf := last.data,finished := before ++ finished} := by
  induction same generalizing dev with
  | nil => exact ⟨[],dev,[],rfl,.nil,fun fuel before => by simp [allRounds]⟩
  | @cons req rq memRequests requests head tail ih =>
      obtain ⟨left,p,serves,bytes,runs⟩ := same_serves head (inside rq List.mem_cons_self)
      obtain ⟨finished,last,served,rest,all,more⟩ := @ih {dev with data := p.data} fun rq member =>
        inside rq (List.mem_cons_of_mem _ member)
      refine ⟨left :: finished,last,p.served :: served,?_,.cons bytes all,fun fuel before => ?_⟩
      · simp only [doRequests,serves,Option.bind_some,rest,Option.map_some]
      · have sum : allRounds (req :: memRequests) = allRounds memRequests+rounds req := by
          simp [allRounds,Nat.add_comm]
        rw [sum,← Nat.add_assoc,runs]
        exact (more fuel (before ++ [left])).trans (by rw [List.append_assoc]; rfl)

end Loop

theorem drivers_agree (dev : BlockDev) (memRequests : List MemRequest) (requests : List Request)
    (same : List.Forall₂ Same memRequests requests)
    (inside : ∀ rq ∈ requests,rq.sector.toNat*512+total rq.segments ≤ dev.size)
    (fuel : Nat) (enough : allRounds memRequests < fuel) :
    ∃ s last served,doMemblockRequest dev.size fuel {queue := memRequests,blockBuf := dev.data} = some s ∧
      doRequests requests dev = some (last,served) ∧ s.queue = [] ∧ s.blockBuf = last.data ∧
      List.Forall₂ Returns s.finished served := by
  obtain ⟨finished,last,served,serves,bytes,runs⟩ := queue_serves same inside
  obtain ⟨spare,rfl⟩ := Nat.exists_eq_add_of_lt enough
  have ends : doMemblockRequest dev.size (spare+1+allRounds memRequests) {queue := memRequests,blockBuf := dev.data} =
      some {queue := [],blockBuf := last.data,finished := finished} := (runs (spare+1) []).trans rfl
  refine ⟨{queue := [],blockBuf := last.data,finished := finished},last,served,?_,serves,rfl,rfl,bytes⟩
  rw [← ends]
  congr 1
  omega

def sectorOf (byte : UInt8) : Chunk := ⟨1#32,List.replicate 512 byte,List.length_replicate⟩

def chunked : List MemRequest :=
  [{direction := .write,sector := 2,chunks := [sectorOf 1,sectorOf 2]},
    {direction := .read,sector := 1,chunks := [sectorOf 0,sectorOf 0,sectorOf 0]}]

def segmented : List Request :=
  [⟨.write,2,[(sectorOf 1).buffer ++ (sectorOf 2).buffer]⟩,
    ⟨.read,1,[(sectorOf 0).buffer,(sectorOf 0).buffer ++ (sectorOf 0).buffer]⟩]

theorem drivers_agree_recut :
    ∃ s last served,doMemblockRequest zeroed.size 6 {queue := chunked,blockBuf := zeroed.data} = some s ∧
      doRequests segmented zeroed = some (last,served) ∧ s.queue = [] ∧ s.blockBuf = last.data ∧
      List.Forall₂ Returns s.finished served := by
  apply drivers_agree
  · refine .cons ⟨rfl,rfl,?_,fun _ => ?_,rfl⟩ (.cons ⟨rfl,rfl,?_,?_,rfl⟩ .nil)
    · simp [buffers,total]
    · simp [buffers]
    · simp [buffers,total]
    · intro written
      cases written
  · decide +kernel
  · decide

end LinuxDeviceDrivers.MemblockDevice
