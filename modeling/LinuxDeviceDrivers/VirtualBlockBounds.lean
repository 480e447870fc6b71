import LinuxDeviceDrivers.VirtualBlockDevice

namespace LinuxDeviceDrivers.VirtualBlockBounds
open ByteStore VirtualBlockDevice

-- The byte at which do_request starts; the shift drops the upper bits.
def startPos (rq : Request) : Nat := (rq.sector <<< sectorShift).toNat

-- One reply, without error, after a transfer of each segment to or from the
-- request's own sectors.
structure FullyServed (rq : Request) (s t : System) : Prop where
  alive : t.crashed = false
  located : total rq.segments ≠ 0 → startPos rq = rq.offset
  reply : ∃ reply,t.replies = s.replies ++ [reply] ∧ reply.status = .ok ∧ reply.nrBytes.toNat = total rq.segments ∧
    reply.segments = inSegments rq.direction rq.offset rq.segments s.dev.data
  device : t.dev = {s.dev with data := onDevice rq.direction rq.offset rq.segments s.dev.data}

structure Rejected (s t : System) : Prop where
  alive : t.crashed = false
  reply : ∃ reply,t.replies = s.replies ++ [reply] ∧ reply.status = .ioerr
  device : t.dev = s.dev

def RejectsOrServes (rq : Request) (s t : System) : Prop := FullyServed rq s t ∨ Rejected s t

-- All bytes lie on the device; where there are none, the loop still compares the
-- position with its size, once a segment makes it run.
def Serviceable (dev : BlockDev) (rq : Request) : Prop :=
  rq.segments = [] ∨ (total rq.segments = 0 ∧ startPos rq ≤ dev.size) ∨ rq.offset+total rq.segments ≤ dev.size

section Loop
variable {dev : BlockDev} {direction : Direction} {segment : List UInt8} {segments : List (List UInt8)} {p q : Progress}

structure Moves (dev : BlockDev) (segments : List (List UInt8)) (p q : Progress) (count : Nat) : Prop where
  short : count ≤ total segments
  pos : q.pos.toNat = p.pos.toNat+count
  inside : q.pos.toNat ≤ dev.size
  nrBytes : q.nrBytes = p.nrBytes+BitVec.ofNat 32 count

theorem doSegment_moves (served : doSegment dev direction segment p = some q) : ∃ count,Moves dev [segment] p q count := by
  have allocated := dev.allocated
  simp only [doSegment] at served
  split at served
  · rename_i fits
    have single : total [segment] = segment.length := by simp [total]
    have pos : (p.pos+clamp p.pos (BitVec.ofNat 64 segment.length) (dev.capacity <<< sectorShift)).toNat =
        p.pos.toNat+(clamp p.pos (BitVec.ofNat 64 segment.length) (dev.capacity <<< sectorShift)).toNat := by
      rw [BitVec.toNat_add]
      exact Nat.mod_eq_of_lt (by simp only [BlockDev.size] at fits; omega)
    cases direction with
    | write =>
        cases served
        exact ⟨_,single ▸ fits.2,pos,pos ▸ fits.1,rfl⟩
    | read =>
        cases served
        exact ⟨_,single ▸ fits.2,pos,pos ▸ fits.1,rfl⟩
  · cases served

theorem doSegments_moves (start : p.pos.toNat ≤ dev.size) (served : doSegments dev direction segments p = some q) :
    ∃ count,Moves dev segments p q count := by
  induction segments generalizing p with
  | nil =>
      cases served
      exact ⟨0,Nat.zero_le _,rfl,start,(BitVec.add_zero _).symm⟩
  | cons segment rest ih =>
      obtain ⟨r,first,later⟩ := Option.bind_eq_some_iff.mp served
      obtain ⟨count,moved⟩ := doSegment_moves first
      obtain ⟨more,onward⟩ := ih moved.inside later
      have sum : total (segment :: rest) = total [segment]+total rest := by simp [total]
      refine ⟨count+more,?_,?_,onward.inside,?_⟩
      · rw [sum]
        exact Nat.add_le_add moved.short onward.short
      · rw [onward.pos,moved.pos,Nat.add_assoc]
      · rw [onward.nrBytes,moved.nrBytes,BitVec.ofNat_add,BitVec.add_assoc]

theorem doSegments_start (runs : segments ≠ []) (served : doSegments dev direction segments p = some q) :
    p.pos.toNat ≤ dev.size := by
  obtain ⟨segment,rest,rfl⟩ := List.exists_cons_of_ne_nil runs
  obtain ⟨r,first,_⟩ := Option.bind_eq_some_iff.mp served
  obtain ⟨count,moved⟩ := doSegment_moves first
  have pos := moved.pos
  have inside := moved.inside
  omega

end Loop

section Requests
variable {rq : Request} {s : System} {dev : BlockDev} {p : Progress} {ret : Int}

theorem doRequest_returns (served : doRequest rq dev = some (ret,p)) :
    ret = 0 ∧ doSegments dev rq.direction rq.segments {data := dev.data,pos := rq.sector <<< sectorShift} = some p := by
  obtain ⟨q,done,same⟩ := Option.map_eq_some_iff.mp served
  cases same
  exact ⟨rfl,done⟩

theorem doRequest_bounds (runs : rq.segments ≠ []) (served : doRequest rq dev = some (ret,p)) :
    startPos rq+p.nrBytes.toNat ≤ dev.size ∧ p.nrBytes.toNat ≤ total rq.segments := by
  obtain ⟨_,loop⟩ := doRequest_returns served
  obtain ⟨count,moved⟩ := doSegments_moves (doSegments_start runs loop) loop
  have allocated := dev.allocated
  have pos : p.pos.toNat = startPos rq+count := moved.pos
  have inside := moved.inside
  have short := moved.short
  have counted : p.nrBytes.toNat = count := by
    rw [moved.nrBytes,BitVec.zero_add,BitVec.toNat_ofNat]
    exact Nat.mod_eq_of_lt (by simp only [BlockDev.size] at inside; omega)
  omega

theorem onDevice_empty (none : total rq.segments = 0) (pos : Nat) (data : Nat → UInt8) :
    onDevice rq.direction pos rq.segments data = data := by
  have flat : rq.segments.flatten = [] := List.length_eq_zero_iff.mp (flatten_length rq.segments ▸ none)
  cases direction : rq.direction with
  | write => simp only [onDevice,flat,store_nil]
  | read => rfl

theorem fill_empty {segments : List (List UInt8)} (none : total segments = 0) (data : Nat → UInt8) (pos other : Nat) :
    fill data pos segments = fill data other segments := by
  induction segments generalizing pos other with
  | nil => rfl
  | cons segment rest ih =>
      have sum : total (segment :: rest) = segment.length+total rest := by simp [total]
      have empty : segment.length = 0 := by omega
      rw [fill,fill,empty,ih (by omega) (pos+0) (other+0)]
      rfl

theorem inSegments_empty (none : total rq.segments = 0) (pos other : Nat) (data : Nat → UInt8) :
    inSegments rq.direction pos rq.segments data = inSegments rq.direction other rq.segments data := by
  cases rq.direction with
  | write => rfl
  | read => exact fill_empty none data pos other

end Requests

section Replies
variable {blkUpdateRequest : Request → BlkStatus → BitVec 32 → Bool} {rq : Request} {s : System} {p : Progress}

theorem passes_serve
    (finishes : ∀ rq status nrBytes,nrBytes.toNat = total rq.segments → blkUpdateRequest rq status nrBytes = false)
    (alive : s.crashed = false) (located : total rq.segments ≠ 0 → startPos rq = rq.offset)
    (small : total rq.segments < 0x100000000) (step : doRequest rq s.dev = some (0,p))
    (passes : Passes rq.direction rq.segments {data := s.dev.data,pos := rq.sector <<< sectorShift} p) :
    FullyServed rq s (queueRq blkUpdateRequest rq s) := by
  have counted : p.nrBytes.toNat = total rq.segments := by
    rw [passes.nrBytes,BitVec.zero_add,BitVec.toNat_ofNat]
    exact Nat.mod_eq_of_lt small
  have done := finishes rq .ok p.nrBytes counted
  have served : p.served = inSegments rq.direction rq.offset rq.segments s.dev.data := by
    by_cases none : total rq.segments = 0
    · exact passes.served.trans (inSegments_empty none _ _ _)
    · exact located none ▸ passes.served
  have data : p.data = onDevice rq.direction rq.offset rq.segments s.dev.data := by
    by_cases none : total rq.segments = 0
    · rw [passes.data,onDevice_empty none,onDevice_empty none]
    · exact located none ▸ passes.data
  simp only [queueRq,step,if_true,done,Bool.false_eq_true,if_false]
  exact ⟨alive,located,⟨_,rfl,rfl,counted,served⟩,by rw [← data]⟩

theorem serviceable_serves
    (finishes : ∀ rq status nrBytes,nrBytes.toNat = total rq.segments → blkUpdateRequest rq status nrBytes = false)
    (alive : s.crashed = false) (serviceable : Serviceable s.dev rq) :
    FullyServed rq s (queueRq blkUpdateRequest rq s) := by
  have allocated := s.dev.allocated
  rcases serviceable with nothing | ⟨empty,start⟩ | inside
  · have none : total rq.segments = 0 := by rw [nothing]; rfl
    have step : doRequest rq s.dev = some (0,{data := s.dev.data,pos := rq.sector <<< sectorShift}) := by
      rw [doRequest,nothing]
      rfl
    refine passes_serve finishes alive (fun some => absurd none some) (by omega) step ⟨?_,?_,?_,?_⟩
    · rw [none]
      rfl
    · rw [none]
      exact (BitVec.add_zero _).symm
    · rw [onDevice_empty none]
    · rw [nothing]
      cases rq.direction <;> rfl
  · obtain ⟨p,loop,passes⟩ := doSegments_passes (p:={data := s.dev.data,pos := rq.sector <<< sectorShift})
      s.dev rq.direction rq.segments (by rw [empty]; exact start)
    exact passes_serve finishes alive (fun some => absurd empty some) (by omega)
      (by rw [doRequest,loop,Option.map_some]) passes
  · obtain ⟨p,step,passes⟩ := doRequest_passes s.dev inside
    refine passes_serve finishes alive (fun _ => sector_pos inside) ?_ step passes
    simp only [Request.offset,BlockDev.size] at inside
    omega

theorem served_serviceable (meets : RejectsOrServes rq s (queueRq blkUpdateRequest rq s)) : Serviceable s.dev rq := by
  unfold queueRq at meets
  cases step : doRequest rq s.dev with
  | none =>
      rw [step] at meets
      rcases meets with served | rejected
      · exact absurd served.alive (by simp)
      · exact absurd rejected.alive (by simp)
  | some result =>
      obtain ⟨ret,p⟩ := result
      obtain ⟨zero,_⟩ := doRequest_returns step
      subst zero
      simp only [step,if_true] at meets
      split at meets
      · rcases meets with served | rejected
        · exact absurd served.alive (by simp)
        · exact absurd rejected.alive (by simp)
      · rcases meets with served | rejected
        · obtain ⟨reply,appended,_,counted,_⟩ := served.reply
          obtain rfl := List.singleton_inj.mp (List.append_cancel_left appended)
          by_cases runs : rq.segments = []
          · exact .inl runs
          · have bounds := doRequest_bounds runs step
            by_cases empty : total rq.segments = 0
            · exact .inr (.inl ⟨empty,by omega⟩)
            · have located := served.located empty
              exact .inr (.inr (by simp only [] at counted; omega))
        · obtain ⟨reply,appended,failed⟩ := rejected.reply
          obtain rfl := List.singleton_inj.mp (List.append_cancel_left appended)
          cases failed

-- What becomes of the others: a memcpy out of bounds where the loop starts past
-- the end, and BUG() where it was clamped, for blk_update_request then finds
-- bytes left over.
theorem overrun_crashes
    (unfinished : ∀ rq status nrBytes,nrBytes.toNat < total rq.segments → blkUpdateRequest rq status nrBytes = true)
    (runs : rq.segments ≠ []) (overrun : s.dev.size < startPos rq+total rq.segments) :
    (queueRq blkUpdateRequest rq s).crashed = true := by
  unfold queueRq
  cases step : doRequest rq s.dev with
  | none => rfl
  | some result =>
      obtain ⟨ret,p⟩ := result
      have bounds := doRequest_bounds runs step
      have left : p.nrBytes.toNat < total rq.segments := by omega
      simp only [unfinished rq _ _ left,if_true]

end Replies

theorem rejects_or_serves_iff (blkUpdateRequest : Request → BlkStatus → BitVec 32 → Bool)
    (finishes : ∀ rq status nrBytes,nrBytes.toNat = total rq.segments → blkUpdateRequest rq status nrBytes = false)
    (rq : Request) (s : System) (alive : s.crashed = false) :
    RejectsOrServes rq s (queueRq blkUpdateRequest rq s) ↔ Serviceable s.dev rq := by
  constructor
  · exact served_serviceable
  · intro serviceable
    exact .inl (serviceable_serves finishes alive serviceable)

def straddling : Request := ⟨.read,895,[List.replicate 1024 0]⟩
def pastTheEnd : Request := ⟨.write,897,[[1]]⟩

theorem rejects_or_serves_read :
    RejectsOrServes readBack {dev := zeroed} (queueRq nothingLeft readBack {dev := zeroed}) ↔
      Serviceable zeroed readBack := by
  apply rejects_or_serves_iff
  · intro rq _ nrBytes counted
    simp [nothingLeft,counted]
  · rfl

theorem straddling_crashes :
    ¬ RejectsOrServes straddling {dev := zeroed} (queueRq nothingLeft straddling {dev := zeroed}) ∧
      ¬ RejectsOrServes pastTheEnd {dev := zeroed} (queueRq nothingLeft pastTheEnd {dev := zeroed}) := by
  have size : zeroed.size = 896*512 := rfl
  have long : total straddling.segments = 1024 := by
    simp only [straddling,total,List.map_cons,List.map_nil,List.length_replicate,List.sum_cons,List.sum_nil,
      Nat.add_zero]
  have short : total pastTheEnd.segments = 1 := rfl
  refine ⟨?_,?_⟩
  · intro meets
    rcases served_serviceable meets with nothing | empty | inside
    · cases nothing
    · omega
    · have offset : straddling.offset = 895*512 := rfl
      simp only [size,offset,long] at inside
      omega
  · intro meets
    rcases served_serviceable meets with nothing | empty | inside
    · cases nothing
    · omega
    · have offset : pastTheEnd.offset = 897*512 := rfl
      simp only [size,offset,short] at inside
      omega

end LinuxDeviceDrivers.VirtualBlockBounds
