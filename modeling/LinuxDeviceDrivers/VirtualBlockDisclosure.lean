import LinuxDeviceDrivers.VirtualBlockDevice

namespace LinuxDeviceDrivers.VirtualBlockDisclosure
open Transition ByteStore VirtualBlockDevice

-- The driver after its init function, on a buffer in which kmalloc found
-- `memory`; nothing clears it.
def loaded (memory : Nat → UInt8) : System := {dev := myblockDriverInit memory}

def replyOf (initial : Nat → UInt8) (before : List Request) (rq : Request) : Reply where
  status := .ok
  nrBytes := BitVec.ofNat 32 (total rq.segments)
  segments := inSegments rq.direction rq.offset rq.segments (lastWritten initial (writes before))

def answers (initial : Nat → UInt8) : List Request → List Request → List Reply
  | _,[] => []
  | before,rq :: rest => replyOf initial before rq :: answers initial (before ++ [rq]) rest

def Written (before : List Request) (address : Nat) : Prop := ∃ write ∈ writes before,write.covers address = true

def Covers (before : List Request) (rq : Request) : Prop :=
  rq.direction = .read → ∀ address,rq.offset ≤ address → address < rq.offset+total rq.segments → Written before address

def Covered : List Request → List Request → Prop
  | _,[] => True
  | before,rq :: rest => Covers before rq ∧ Covered (before ++ [rq]) rest

section Answers
variable {blkUpdateRequest : Request → BlkStatus → BitVec 32 → Bool} {initial : Nat → UInt8} {capacity : BitVec 64}
  {before : List Request} {rq : Request} {s t : System}

theorem serves_replyOf (serves : Serves initial before rq s t) :
    t.replies = s.replies ++ [replyOf initial before rq] := by
  obtain ⟨⟨status,nrBytes,segments⟩,replies,ok,counted,filled⟩ := serves.reply
  have bytes : nrBytes = BitVec.ofNat 32 (total rq.segments) := by rw [← counted,BitVec.ofNat_toNat,BitVec.setWidth_eq]
  have left : segments = inSegments rq.direction rq.offset rq.segments (lastWritten initial (writes before)) := by
    cases direction : rq.direction with
    | read =>
        simp only [direction] at filled
        rw [inSegments,List.eq_iff_flatten_eq,fill_flatten,fill_lengths]
        exact ⟨filled.2,filled.1⟩
    | write =>
        simp only [direction] at filled
        exact filled
  rw [replies,replyOf,← bytes,← left]
  exact congrArg (fun status => s.replies ++ [Reply.mk status nrBytes segments]) ok

theorem run_answers
    (finishes : ∀ rq status nrBytes,nrBytes.toNat = total rq.segments → blkUpdateRequest rq status nrBytes = false)
    (mirrors : Mirrors initial capacity before s) (requests : List Request)
    (inside : ∀ rq ∈ requests,rq.sector.toNat*512+total rq.segments ≤ capacity.toNat*512) :
    ((machine blkUpdateRequest).run s requests).replies = s.replies ++ answers initial before requests := by
  induction requests generalizing before s with
  | nil => simp [answers]
  | cons rq rest ih =>
      have allowed : (machine blkUpdateRequest).Allowed s rq := by
        have fits := inside rq List.mem_cons_self
        rwa [← mirrors.capacity] at fits
      obtain ⟨serves,next⟩ := apply_serves finishes mirrors allowed
      rw [Machine.run_cons,ih next fun rq member => inside rq (List.mem_cons_of_mem _ member),serves_replyOf serves,
        List.append_assoc]
      rfl

theorem replyOf_exact (before : List Request) (rq : Request) :
    (∀ first second,replyOf first before rq = replyOf second before rq) ↔ Covers before rq := by
  cases direction : rq.direction with
  | write => exact iff_of_true (fun first second => by simp [replyOf,inSegments,direction]) (by simp [Covers,direction])
  | read =>
      constructor
      · intro same _ address low high
        by_contra fresh
        have bytes := congrArg (fun reply => reply.segments.flatten) (same (fun _ => 0) fun _ => 1)
        simp only [replyOf,inSegments,direction,fill_flatten] at bytes
        have shown := congrArg (·[address-rq.offset]?) bytes
        have index : address-rq.offset < total rq.segments := by omega
        have cell : rq.offset+(address-rq.offset) = address := by omega
        simp [load,List.getElem?_range index,cell,lastWritten_uncovered _ fresh] at shown
      · intro covers first second
        have filled : fill (lastWritten first (writes before)) rq.offset rq.segments =
            fill (lastWritten second (writes before)) rq.offset rq.segments := by
          rw [List.eq_iff_flatten_eq,fill_flatten,fill_flatten,fill_lengths,fill_lengths]
          refine ⟨load_congr fun address low high => ?_,rfl⟩
          exact lastWritten_covered first second (covers direction address low high)
        simp only [replyOf,inSegments,direction,filled]

theorem answers_exact (before requests : List Request) :
    (∀ first second,answers first before requests = answers second before requests) ↔ Covered before requests := by
  induction requests generalizing before with
  | nil => exact iff_of_true (fun _ _ => rfl) trivial
  | cons rq rest ih => simp only [answers,List.cons.injEq,forall_and,replyOf_exact,ih,Covered]

end Answers

-- `finishes` is what VirtualBlockDevice assumes of blk_update_request.
theorem undisclosed_iff (blkUpdateRequest : Request → BlkStatus → BitVec 32 → Bool)
    (finishes : ∀ rq status nrBytes,nrBytes.toNat = total rq.segments → blkUpdateRequest rq status nrBytes = false)
    (requests : List Request) (inside : ∀ rq ∈ requests,rq.sector.toNat*512+total rq.segments ≤ zeroed.size) :
    (∀ first second,((machine blkUpdateRequest).run (loaded first) requests).replies =
      ((machine blkUpdateRequest).run (loaded second) requests).replies) ↔ Covered [] requests := by
  have replies (memory : Nat → UInt8) :
      ((machine blkUpdateRequest).run (loaded memory) requests).replies = answers memory [] requests := by
    have mirrors : Mirrors memory zeroed.capacity [] (loaded memory) := ⟨rfl,rfl,rfl⟩
    exact run_answers finishes mirrors requests inside
  simp only [replies]
  exact answers_exact [] requests

theorem undisclosed_overlapping :
    ¬ ∀ first second,((machine nothingLeft).run (loaded first) (overlapping ++ [readBack])).replies =
      ((machine nothingLeft).run (loaded second) (overlapping ++ [readBack])).replies := by
  have exact := undisclosed_iff nothingLeft (fun rq _ nrBytes counted => by simp [nothingLeft,counted])
    (overlapping ++ [readBack]) (by decide +kernel)
  intro same
  obtain ⟨_,_,covers,_⟩ := exact.mp same
  obtain ⟨write,member,covered⟩ := covers rfl 1027 (by decide) (by decide)
  revert write
  decide +kernel

def firstSector : Request := ⟨.read,0,[List.replicate 512 0]⟩

theorem fresh_disclosed :
    (machine nothingLeft).Runs (loaded fun _ => 0) [firstSector] ∧ (machine nothingLeft).Runs (loaded fun _ => 1) [firstSector] ∧
      ((machine nothingLeft).run (loaded fun _ => 0) [firstSector]).replies ≠
        ((machine nothingLeft).run (loaded fun _ => 1) [firstSector]).replies := by
  refine ⟨by decide +kernel,by decide +kernel,fun same => ?_⟩
  have shown := congrArg (List.map Reply.segments) same
  revert shown
  decide +kernel

end LinuxDeviceDrivers.VirtualBlockDisclosure
