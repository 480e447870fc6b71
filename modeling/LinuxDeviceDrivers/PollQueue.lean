import LinuxDeviceDrivers.BoundedQueue
import LinuxDeviceDrivers.PollDevice

namespace LinuxDeviceDrivers.PollQueue
open Transition CircularWindow BoundedQueue PollDevice

structure Valid (d : Device) : Prop where
  irBound : d.ir < N
  iwBound : d.iw < N

-- The bytes from ir up to iw modulo N. One cell of the ring always stays free.
def queue (d : Device) : List UInt8 := contents N d.rbuf d.ir d.iw

theorem initial_valid : Valid initial := ⟨by decide,by decide⟩

@[simp] theorem queue_length (d : Device) : (queue d).length = span N d.ir d.iw := by simp [queue]

theorem queue_bounded (valid : Valid d) : (queue d).length ≤ N-1 := by
  have short := span_lt valid.irBound valid.iwBound
  rw [queue_length]
  omega

theorem isBufferEmpty_exact (valid : Valid d) : isBufferEmpty d = true ↔ queue d = [] := by
  rw [queue,contents_eq_nil _ valid.irBound]
  simp [isBufferEmpty]

theorem stopIndex_exact (valid : Valid d) : (d.iw : Int) = stopIndex d ↔ (queue d).length = N-1 := by
  obtain ⟨ir,iw⟩ := valid
  simp only [queue_length,span,stopIndex,N] at *
  split <;> split <;> omega

-- is_buffer_full compares the distance of a wrapped ring with N instead of
-- N-1, so it misses exactly the full rings whose write index is below ir.
theorem isBufferFull_exact (valid : Valid d) :
    isBufferFull d = true ↔ (queue d).length = N-1 ∧ d.ir ≠ d.iw+1 := by
  obtain ⟨ir,iw⟩ := valid
  simp only [queue_length,span,isBufferFull,N] at *
  split
  · split <;> simp only [beq_iff_eq] <;> omega
  · split
    · split <;> simp only [beq_iff_eq] <;> omega
    · split <;> simp only [Bool.false_eq_true,false_iff] <;> omega

-- What a copy section does to the queue: the counter it returns, the bytes it
-- moves, the queue it leaves, and that it stays inside rbuf[0..N).
structure Transfer (d : Device) (copied : Copied) (moved after : List UInt8) : Prop where
  valid : Valid copied.device
  bytes : copied.bytes = moved
  count : copied.i = moved.length
  queue : queue copied.device = after
  touched : ∀ index ∈ copied.touched, index < N
  opens : copied.device.useCount = d.useCount

theorem Transfer.idle (valid : Valid d) : Transfer d ⟨d,0,[],[]⟩ [] (PollQueue.queue d) :=
  ⟨valid,rfl,rfl,rfl,by simp,rfl⟩

theorem copyOut_transfer (valid : Valid d) (len : Nat) :
    Transfer d (copyOut len d) ((queue d).take len) ((queue d).drop len) := by
  induction len generalizing d with
  | zero => simpa [copyOut] using Transfer.idle valid
  | succ left ih =>
      by_cases empty : d.ir = d.iw
      · have none : queue d = [] := by rw [queue,empty,contents_self]
        have idle := Transfer.idle valid
        rw [none] at idle
        simpa [copyOut,empty,none] using idle
      · have advanced : queue d = d.rbuf d.ir :: queue {d with ir := next N d.ir} :=
          contents_advance _ valid.irBound valid.iwBound empty
        have rest := ih (d:={d with ir := next N d.ir}) ⟨next_lt valid.irBound,valid.iwBound⟩
        have unfolded : copyOut (left+1) d = ⟨(copyOut left {d with ir := next N d.ir}).device,
            (copyOut left {d with ir := next N d.ir}).i+1,
            d.rbuf d.ir :: (copyOut left {d with ir := next N d.ir}).bytes,
            d.ir :: (copyOut left {d with ir := next N d.ir}).touched⟩ := by
          simp only [copyOut,if_neg empty,next]
        rw [unfolded,advanced]
        refine ⟨rest.valid,?_,?_,?_,?_,rest.opens⟩
        · simp [rest.bytes]
        · simp [rest.count]
        · simpa using rest.queue
        · intro index member
          rcases List.mem_cons.mp member with rfl | later
          · exact valid.irBound
          · exact rest.touched index later

theorem copyIn_transfer (valid : Valid d) (bytes : List UInt8) :
    Transfer d (copyIn (stopIndex d) bytes d) (bytes.take (N-1-(queue d).length))
      (queue d ++ bytes.take (N-1-(queue d).length)) := by
  induction bytes generalizing d with
  | nil => simpa [copyIn] using Transfer.idle valid
  | cons byte left ih =>
      by_cases full : (d.iw : Int) = stopIndex d
      · have room : N-1-(queue d).length = 0 := by
          have exact := (stopIndex_exact valid).mp full
          omega
        rw [room]
        simpa [copyIn,full] using Transfer.idle valid
      · have bound := queue_bounded valid
        have short : (queue d).length+1 < N := by
          have free := mt (stopIndex_exact valid).mpr full
          omega
        let stored := {d with rbuf := Function.update d.rbuf d.iw byte,iw := next N d.iw}
        have grown : queue stored = queue d ++ [byte] :=
          contents_extend _ _ valid.irBound valid.iwBound (by simpa using short)
        have rest := ih (d:=stored) ⟨valid.irBound,next_lt valid.iwBound⟩
        have room : N-1-(queue d).length = N-1-(queue stored).length+1 := by
          simp only [grown,List.length_append,List.length_singleton]
          omega
        have unfolded : copyIn (stopIndex d) (byte :: left) d = ⟨(copyIn (stopIndex stored) left stored).device,
            (copyIn (stopIndex stored) left stored).i+1,byte :: (copyIn (stopIndex stored) left stored).bytes,
            d.iw :: (copyIn (stopIndex stored) left stored).touched⟩ := by
          simp only [copyIn,if_neg full]
          rfl
        rw [unfolded,room,List.take_succ_cons]
        refine ⟨rest.valid,?_,?_,?_,?_,rest.opens⟩
        · simp [rest.bytes]
        · simp [rest.count]
        · simpa [grown] using rest.queue
        · intro index member
          rcases List.mem_cons.mp member with rfl | later
          · exact valid.iwBound
          · exact rest.touched index later

theorem readSection_transfer (valid : Valid d) (len : Nat) :
    Transfer d (readSection len d) ((queue d).take len) ((queue d).drop len) := copyOut_transfer valid len

theorem writeSection_transfer (valid : Valid d) (bytes : List UInt8) :
    Transfer d (writeSection bytes d) (bytes.take (N-1-(queue d).length))
      (queue d ++ bytes.take (N-1-(queue d).length)) := copyIn_transfer valid bytes

theorem deviceOpen_valid (valid : Valid d) : Valid (deviceOpen d) := by
  unfold deviceOpen
  split
  · exact ⟨initial_valid.irBound,initial_valid.iwBound⟩
  · exact ⟨valid.irBound,valid.iwBound⟩

theorem deviceOpen_queue (d : Device) : queue (deviceOpen d) = if d.useCount = 0 then [] else queue d := by
  unfold deviceOpen
  split
  · exact contents_self _ _
  · rfl

theorem deviceRead_section (d : Device) (nonblock : Bool) (len : Nat) :
    (deviceRead nonblock len d).2 = readSection len d := by
  unfold deviceRead
  split
  · rename_i empty
    have same : d.ir = d.iw := by simpa [isBufferEmpty] using empty
    cases nonblock <;> cases len <;> simp [readSection,copyOut,same]
  · rfl

theorem deviceWrite_section (valid : Valid d) (nonblock : Bool) (bytes : List UInt8) :
    (deviceWrite nonblock bytes d).2 = writeSection bytes d := by
  unfold deviceWrite
  split
  · rename_i full
    have stop := (stopIndex_exact valid).mpr ((isBufferFull_exact valid).mp full).1
    cases nonblock <;> cases bytes <;> simp [writeSection,copyIn,stop]
  · rfl

def turnedBack (nonblock : Bool) : Outcome := if nonblock then .returned (-eagain) else .asleep

theorem deviceRead_outcome (d : Device) (nonblock : Bool) (len : Nat) :
    (deviceRead nonblock len d).1 =
      if isBufferEmpty d then turnedBack nonblock else .returned (readSection len d).i := by
  unfold deviceRead turnedBack
  split
  · cases nonblock <;> rfl
  · rfl

theorem deviceWrite_outcome (d : Device) (nonblock : Bool) (bytes : List UInt8) :
    (deviceWrite nonblock bytes d).1 =
      if isBufferFull d then turnedBack nonblock else .returned (writeSection bytes d).i := by
  unfold deviceWrite turnedBack
  split
  · cases nonblock <;> rfl
  · rfl

-- Runs of the copy sections in any order, as the semaphore allows them, with
-- what they accepted and delivered since the open that last found no user.
inductive Section where
  | opens
  | releases
  | reads (len : Nat)
  | writes (bytes : List UInt8)

structure History where
  device : Device
  accepted : List UInt8
  delivered : List UInt8
  touched : List Nat

def sections : Machine History Section where
  Allowed _ _ := True
  apply h step := match step with
    | .opens =>
      if h.device.useCount = 0 then ⟨deviceOpen h.device,[],[],h.touched⟩
      else {h with device := deviceOpen h.device}
    | .releases => {h with device := deviceRelease h.device}
    | .reads len =>
      let copied := readSection len h.device
      ⟨copied.device,h.accepted,h.delivered ++ copied.bytes,h.touched ++ copied.touched⟩
    | .writes bytes =>
      let copied := writeSection bytes h.device
      ⟨copied.device,h.accepted ++ bytes.take copied.i,h.delivered,h.touched ++ copied.touched⟩

def blank : History := ⟨initial,[],[],[]⟩

structure Refines (h : History) (s : Session UInt8 (N-1)) : Prop where
  valid : Valid h.device
  items : s.queue.items = queue h.device
  accepted : s.accepted = h.accepted
  delivered : s.delivered = h.delivered
  touched : ∀ index ∈ h.touched, index < N

theorem blank_refines : Refines blank .start := ⟨initial_valid,rfl,rfl,rfl,by simp [blank]⟩

theorem touched_append {before after : List Nat} (old : ∀ index ∈ before, index < N) (new : ∀ index ∈ after, index < N) :
    ∀ index ∈ before ++ after, index < N :=
  fun index member => (List.mem_append.mp member).elim (old index) (new index)

theorem section_matched (h : History) (s : Session UInt8 (N-1)) (step : Section) (related : Refines h s)
    (_ : sections.Allowed h step) : ∃ actions, Refines (sections.apply h step) (Session.machine.run s actions) := by
  obtain ⟨valid,items,accepted,delivered,touched⟩ := related
  cases step with
  | opens =>
      by_cases unused : h.device.useCount = 0
      · refine ⟨[.start],?_⟩
        simp only [sections,if_pos unused]
        refine ⟨deviceOpen_valid valid,?_,rfl,rfl,touched⟩
        rw [deviceOpen_queue,if_pos unused]
        rfl
      · refine ⟨[],?_⟩
        simp only [sections,if_neg unused]
        refine ⟨deviceOpen_valid valid,?_,accepted,delivered,touched⟩
        rw [deviceOpen_queue,if_neg unused]
        exact items
  | releases => exact ⟨[],⟨valid.irBound,valid.iwBound⟩,items,accepted,delivered,touched⟩
  | reads len =>
      have moved := readSection_transfer valid len
      refine ⟨[.read len],moved.valid,?_,accepted,?_,touched_append touched moved.touched⟩
      · exact (congrArg (List.drop len) items).trans moved.queue.symm
      · change s.delivered ++ s.queue.items.take len = h.delivered ++ (readSection len h.device).bytes
        rw [delivered,items,moved.bytes]
  | writes bytes =>
      have moved := writeSection_transfer valid bytes
      have room : s.queue.room = N-1-(queue h.device).length := by rw [Queue.room,items]
      have counted : bytes.take (writeSection bytes h.device).i = bytes.take s.queue.room := by
        rw [moved.count,room,List.length_take,List.take_eq_take_iff]
        omega
      refine ⟨[.write bytes],moved.valid,?_,?_,delivered,touched_append touched moved.touched⟩
      · change s.queue.items ++ bytes.take s.queue.room = queue (writeSection bytes h.device).device
        rw [items,room,moved.queue]
      · change s.accepted ++ bytes.take s.queue.room = h.accepted ++ bytes.take (writeSection bytes h.device).i
        rw [accepted,counted]

theorem sections_refine (steps : List Section) :
    ∃ actions, Refines (sections.run blank steps) (Session.machine.run .start actions) :=
  Machine.simulation section_matched blank_refines (Machine.along_of_forall (fun _ _ => trivial) _ _)

-- The refinement at every point of every run, read off in the terms of poll.c:
-- indices and accesses stay in the ring, each section moves exactly the bytes
-- that fit or are there, a whole call does what its section does, and what was
-- read in a session is a prefix of what was accepted in it.
theorem poll_refines_fifo (steps : List Section) :
    let h := sections.run blank steps
    let d := h.device
    let q := queue d
    (d.ir < N ∧ d.iw < N ∧ ∀ index ∈ h.touched, index < N) ∧
    (∀ bytes, (writeSection bytes d).i = min bytes.length (N-1-q.length) ∧
      queue (writeSection bytes d).device = q ++ bytes.take (min bytes.length (N-1-q.length)) ∧
      ∀ nonblock, deviceWrite nonblock bytes d = (if isBufferFull d then turnedBack nonblock
        else .returned (min bytes.length (N-1-q.length) : Nat),writeSection bytes d)) ∧
    (∀ len, (readSection len d).i = min len q.length ∧
      (readSection len d).bytes = q.take (min len q.length) ∧
      queue (readSection len d).device = q.drop (min len q.length) ∧
      ∀ nonblock, deviceRead nonblock len d = (if isBufferEmpty d then turnedBack nonblock
        else .returned (min len q.length : Nat),readSection len d)) ∧
    queue (deviceOpen d) = (if d.useCount = 0 then [] else q) ∧
    queue (deviceRelease d) = q ∧
    h.accepted = h.delivered ++ q ∧ h.delivered <+: h.accepted := by
  intro h d q
  obtain ⟨actions,refined⟩ := sections_refine steps
  generalize Session.machine.run Session.start actions = session at refined
  obtain ⟨valid,items,accepted,delivered,touched⟩ := refined
  have conserved := session.conserved
  have delivery := session.delivered_prefix
  rw [accepted,delivered] at conserved delivery
  rw [items] at conserved
  refine ⟨⟨valid.irBound,valid.iwBound,touched⟩,?_,?_,deviceOpen_queue d,rfl,conserved,delivery⟩
  · intro bytes
    have moved := writeSection_transfer valid bytes
    have limit : bytes.take (min bytes.length (N-1-q.length)) = bytes.take (N-1-q.length) := by
      rw [List.take_eq_take_iff]
      omega
    have counted : (writeSection bytes d).i = min bytes.length (N-1-q.length) := by
      rw [moved.count,List.length_take,Nat.min_comm]
    refine ⟨counted,?_,fun nonblock => ?_⟩
    · rw [limit,moved.queue]
    · refine Prod.ext ?_ (deviceWrite_section valid nonblock bytes)
      rw [← counted,deviceWrite_outcome]
  · intro len
    have moved := readSection_transfer valid len
    have counted : (readSection len d).i = min len q.length := by rw [moved.count,List.length_take]
    refine ⟨counted,?_,?_,fun nonblock => ?_⟩
    · exact moved.bytes.trans List.take_eq_take_min
    · exact moved.queue.trans List.drop_eq_drop_min
    · refine Prod.ext ?_ (deviceRead_section d nonblock len)
      rw [← counted,deviceRead_outcome]

inductive Call where
  | opens
  | releases
  | reads (nonblock : Bool) (len : Nat)
  | writes (nonblock : Bool) (bytes : List UInt8)

def calls : Machine Device Call where
  Allowed _ _ := True
  apply d call := match call with
    | .opens => deviceOpen d
    | .releases => deviceRelease d
    | .reads nonblock len => (deviceRead nonblock len d).2.device
    | .writes nonblock bytes => (deviceWrite nonblock bytes d).2.device

theorem calls_valid (list : List Call) : Valid (calls.run initial list) := by
  refine Machine.run_preserves ?_ list initial_valid
  intro d call valid
  cases call with
  | opens => exact deviceOpen_valid valid
  | releases => exact ⟨valid.irBound,valid.iwBound⟩
  | reads nonblock len =>
      change Valid (deviceRead nonblock len d).2.device
      rw [deviceRead_section]
      exact (readSection_transfer valid len).valid
  | writes nonblock bytes =>
      change Valid (deviceWrite nonblock bytes d).2.device
      rw [deviceWrite_section valid]
      exact (writeSection_transfer valid bytes).valid

structure Exact (d : Device) : Prop where
  pollIn : ∀ nonblock len, 1 ≤ len → (devicePoll d &&& PollDevice.pollIn ≠ 0 ↔ 1 ≤ (deviceRead nonblock len d).2.i)
  pollOut : ∀ nonblock bytes, 1 ≤ bytes.length →
    (devicePoll d &&& PollDevice.pollOut ≠ 0 ↔ 1 ≤ (deviceWrite nonblock bytes d).2.i)
  full : isBufferFull d = true ↔ (d.iw : Int) = stopIndex d
  again : ∀ bytes, 1 ≤ bytes.length → (d.iw : Int) = stopIndex d →
    (deviceWrite true bytes d).1 = .returned (-eagain)

theorem devicePoll_in (d : Device) : devicePoll d &&& pollIn ≠ 0 ↔ isBufferEmpty d = false := by
  unfold devicePoll
  cases isBufferEmpty d <;> cases isBufferFull d <;> decide

theorem devicePoll_out (d : Device) : devicePoll d &&& pollOut ≠ 0 ↔ isBufferFull d = false := by
  unfold devicePoll
  cases isBufferEmpty d <;> cases isBufferFull d <;> decide

theorem read_moves (valid : Valid d) (nonblock : Bool) (len : Nat) (wanted : 1 ≤ len) :
    1 ≤ (deviceRead nonblock len d).2.i ↔ isBufferEmpty d = false := by
  rw [deviceRead_section,(readSection_transfer valid len).count,List.length_take,
    ← Bool.not_eq_true,isBufferEmpty_exact valid,← List.length_eq_zero_iff]
  omega

theorem write_moves (valid : Valid d) (nonblock : Bool) (bytes : List UInt8) (wanted : 1 ≤ bytes.length) :
    1 ≤ (deviceWrite nonblock bytes d).2.i ↔ (d.iw : Int) ≠ stopIndex d := by
  have bound := queue_bounded valid
  rw [deviceWrite_section valid,(writeSection_transfer valid bytes).count,List.length_take,
    Ne,stopIndex_exact valid]
  omega

theorem full_agrees_iff (valid : Valid d) :
    (isBufferFull d = true ↔ (d.iw : Int) = stopIndex d) ↔ d.ir ≠ d.iw+1 := by
  rw [isBufferFull_exact valid,stopIndex_exact valid]
  constructor
  · intro agrees wrapped
    have full : (queue d).length = N-1 := by
      obtain ⟨ir,iw⟩ := valid
      simp only [queue_length,span,N] at *
      split <;> omega
    exact (agrees.mpr full).2 wrapped
  · exact fun apart => ⟨And.left,fun full => ⟨full,apart⟩⟩

theorem readiness_exact_iff (list : List Call) :
    Exact (calls.run initial list) ↔ (calls.run initial list).ir ≠ (calls.run initial list).iw+1 := by
  have valid := calls_valid list
  generalize calls.run initial list = d at valid
  rw [← full_agrees_iff valid]
  refine ⟨Exact.full,fun agrees => ⟨?_,?_,agrees,?_⟩⟩
  · intro nonblock len wanted
    rw [devicePoll_in,read_moves valid nonblock len wanted]
  · intro nonblock bytes wanted
    rw [devicePoll_out,write_moves valid nonblock bytes wanted,Ne,← agrees,Bool.not_eq_true]
  · intro bytes _ stop
    simp [deviceWrite,agrees.mpr stop]

theorem readiness_inexact_when_wrapped :
    ¬ Exact (calls.run initial [.opens,.writes true (List.replicate 22 0),.reads true 1,.writes true [0]]) :=
  fun exact => absurd exact.full (by decide)

end LinuxDeviceDrivers.PollQueue
