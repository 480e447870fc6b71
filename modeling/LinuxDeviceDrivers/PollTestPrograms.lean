import LinuxDeviceDrivers.PollQueue

namespace LinuxDeviceDrivers.PollTestPrograms
open Transition PollDevice PollQueue

-- The string a test program writes: strlen(wbuf) fits the int total_bytes.
structure Text where
  bytes : List UInt8
  chars : ∀ byte ∈ bytes,byte ≠ 0
  fits : bytes.length < 0x80000000

def bufSize : Nat := 40

structure Program where
  device : Device
  wbuf : List UInt8
  totalBytes : Nat
  reads : List (List UInt8) := []

inductive Exit where
  | allRead
  | elapsed
  | failed
  | asleep
deriving DecidableEq

-- Nobody else uses the device: a call that sleeps sleeps for good.
def readPass (mask : Nat) (p : Program) : Program × Option Exit :=
  if mask &&& pollIn = 0 then (p,none)
  else
    match deviceRead false p.totalBytes p.device with
    | (.asleep,copied) => ({p with device := copied.device},some .asleep)
    | (.returned ret,copied) =>
        let read := {p with device := copied.device,reads := p.reads ++ [copied.bytes]}
        if ret < 0 then (read,some .failed)
        else if ret < p.totalBytes then ({read with totalBytes := p.totalBytes-ret.toNat},none)
        else (read,some .allRead)

def writePass (mask : Nat) (p : Program) : Program × Option Exit :=
  if mask &&& pollOut = 0 then (p,none)
  else
    match deviceWrite false p.wbuf p.device with
    | (.asleep,copied) => ({p with device := copied.device},some .asleep)
    | (.returned ret,copied) =>
        let written := {p with device := copied.device}
        if ret < 0 then (written,some .failed)
        else if ret < p.wbuf.length then ({written with wbuf := p.wbuf.drop ret.toNat},none)
        else (written,none)

def mainLoop : Nat → Program → Option (Program × Exit)
  | 0,_ => none
  | fuel+1,p =>
      let mask := devicePoll p.device
      if mask &&& pollIn = 0 ∧ mask &&& pollOut = 0 then some (p,.elapsed)
      else
        match readPass mask p with
        | (read,some exit) => some (read,exit)
        | (read,none) =>
            match writePass mask read with
            | (written,some exit) => some (written,exit)
            | (written,none) => mainLoop fuel written

def start (text : Text) (d : Device) : Program := ⟨deviceOpen (deviceOpen d),text.bytes,text.bytes.length,[]⟩

-- The text came back in order, each piece with a null byte left in rbuf.
structure Copied (text : Text) (p : Program) : Prop where
  whole : p.reads.flatten = text.bytes
  room : ∀ piece ∈ p.reads,piece.length < bufSize
  drained : queue p.device = []

-- The loop's head: `rest` is what was not written yet. The last write leaves
-- wbuf where it is.
structure AtHead (text : Text) (rest : List UInt8) (p : Program) : Prop where
  valid : Valid p.device
  kept : p.reads.flatten ++ queue p.device ++ rest = text.bytes
  total : p.totalBytes = (queue p.device).length+rest.length
  wbuf : rest ≠ [] → p.wbuf = rest
  room : ∀ piece ∈ p.reads,piece.length < bufSize
  busy : rest = [] → queue p.device ≠ []

def left (rest : List UInt8) (p : Program) : Nat := 2*rest.length+min 1 (queue p.device).length

section Passes
variable {text : Text} {rest : List UInt8} {p : Program}

theorem deviceRead_queued (valid : Valid d) (queued : queue d ≠ []) (len : Nat) :
    ∃ copied,deviceRead false len d = (.returned (min len (queue d).length : Nat),copied) ∧
      Transfer d copied ((queue d).take len) ((queue d).drop len) := by
  have full : isBufferEmpty d = false := by
    rw [← Bool.not_eq_true,isBufferEmpty_exact valid]
    exact queued
  have moved := readSection_transfer valid len
  refine ⟨readSection len d,?_,moved⟩
  have counted : (readSection len d).i = min len (queue d).length := by rw [moved.count,List.length_take]
  rw [deviceRead,full,← counted]
  rfl

theorem deviceWrite_drained (valid : Valid d) (drained : queue d = []) (bytes : List UInt8) :
    ∃ copied,deviceWrite false bytes d = (.returned (min (N-1) bytes.length : Nat),copied) ∧
      Transfer d copied (bytes.take (N-1)) (bytes.take (N-1)) := by
  have room : isBufferFull d = false := by
    rw [← Bool.not_eq_true,isBufferFull_exact valid,drained]
    exact fun full => absurd full.1 (by decide)
  have moved := writeSection_transfer valid bytes
  rw [drained,List.length_nil,Nat.sub_zero,List.nil_append] at moved
  refine ⟨writeSection bytes d,?_,moved⟩
  have counted : (writeSection bytes d).i = min (N-1) bytes.length := by rw [moved.count,List.length_take]
  rw [deviceWrite,room,← counted]
  rfl

theorem writePass_drained (head : AtHead text rest p) (drained : queue p.device = []) (writable : mask &&& pollOut ≠ 0) :
    ∃ written,writePass mask p = (written,none) ∧ AtHead text (rest.drop (N-1)) written ∧
      left (rest.drop (N-1)) written < left rest p := by
  have some : rest ≠ [] := fun none => head.busy none drained
  obtain ⟨copied,step,moved⟩ := deviceWrite_drained head.valid drained p.wbuf
  have wbuf := head.wbuf some
  have kept := head.kept
  have total := head.total
  have positive := List.length_pos_iff.mpr some
  rw [drained,List.append_nil] at kept
  rw [drained,List.length_nil,Nat.zero_add] at total
  rw [wbuf] at moved step
  have queued : (queue copied.device).length = min (N-1) rest.length := by rw [moved.queue,List.length_take]
  have whole : p.reads.flatten ++ queue copied.device ++ rest.drop (N-1) = text.bytes := by
    rw [moved.queue,List.append_assoc,List.take_append_drop]
    exact kept
  have shorter : (rest.drop (N-1)).length+(queue copied.device).length = rest.length := by
    rw [queued,List.length_drop]
    omega
  have fewer : 2*(rest.drop (N-1)).length+min 1 (queue copied.device).length < left rest p := by
    rw [left,drained,List.length_nil,queued]
    simp only [List.length_drop,N] at *
    omega
  have nonneg : ¬ ((min (N-1) rest.length : Nat) : Int) < 0 := by omega
  rw [writePass,if_neg writable,wbuf,step]
  simp only [if_neg nonneg]
  by_cases more : ((min (N-1) rest.length : Nat) : Int) < rest.length
  · have cut : rest.drop (min (N-1) rest.length) = rest.drop (N-1) := by
      congr 1
      omega
    rw [if_pos more]
    refine ⟨_,rfl,⟨moved.valid,whole,by simp only; omega,fun _ => by simp only [Int.toNat_natCast,cut],head.room,?_⟩,fewer⟩
    intro none
    rw [← List.length_pos_iff,queued]
    simp only [N]
    omega
  · rw [if_neg more]
    have last : rest.drop (N-1) = [] := List.drop_eq_nil_of_le (by omega)
    refine ⟨_,rfl,⟨moved.valid,whole,by simp only; omega,fun unwritten => absurd last unwritten,head.room,?_⟩,fewer⟩
    intro none
    rw [← List.length_pos_iff,queued]
    simp only [N]
    omega

theorem readPass_more (head : AtHead text rest p) (queued : queue p.device ≠ []) (more : rest ≠ [])
    (readable : mask &&& pollIn ≠ 0) :
    ∃ read,readPass mask p = (read,none) ∧ AtHead text rest read ∧ queue read.device = [] ∧ left rest read < left rest p := by
  obtain ⟨copied,step,moved⟩ := deviceRead_queued head.valid queued p.totalBytes
  have total := head.total
  have positive := List.length_pos_iff.mpr more
  have some := List.length_pos_iff.mpr queued
  have bound := queue_bounded head.valid
  have covered : (queue p.device).length ≤ p.totalBytes := by omega
  have whole : copied.bytes = queue p.device := by rw [moved.bytes,List.take_of_length_le covered]
  have drained : queue copied.device = [] := by rw [moved.queue,List.drop_of_length_le covered]
  rw [Nat.min_eq_right covered] at step
  have nonneg : ¬ (((queue p.device).length : Nat) : Int) < 0 := by omega
  have short : (((queue p.device).length : Nat) : Int) < p.totalBytes := by omega
  rw [readPass,if_neg readable,step]
  simp only [if_neg nonneg,if_pos short]
  refine ⟨_,rfl,⟨moved.valid,?_,?_,head.wbuf,?_,fun none => absurd none more⟩,drained,?_⟩
  · simp only [whole,drained,List.append_nil,List.flatten_append,List.flatten_singleton]
    exact head.kept
  · simp only [drained,Int.toNat_natCast,List.length_nil]
    omega
  · intro piece member
    rcases List.mem_append.mp member with old | new
    · exact head.room piece old
    · rw [List.mem_singleton.mp new,whole]
      simp only [N,bufSize] at *
      omega
  · simp only [left,drained,List.length_nil]
    omega

theorem readPass_last (head : AtHead text [] p) (readable : mask &&& pollIn ≠ 0) :
    ∃ read,readPass mask p = (read,some .allRead) ∧ Copied text read := by
  have queued := head.busy rfl
  obtain ⟨copied,step,moved⟩ := deviceRead_queued head.valid queued p.totalBytes
  have total := head.total
  have bound := queue_bounded head.valid
  rw [List.length_nil,Nat.add_zero] at total
  have whole : copied.bytes = queue p.device := by rw [moved.bytes,total,List.take_length]
  rw [← total,Nat.min_self] at step
  have nonneg : ¬ ((p.totalBytes : Nat) : Int) < 0 := by omega
  rw [readPass,if_neg readable,step]
  simp only [if_neg nonneg,Int.lt_irrefl,if_false]
  refine ⟨_,rfl,?_,?_,?_⟩
  · have kept := head.kept
    rw [List.append_nil] at kept
    simp only [whole,List.flatten_append,List.flatten_singleton]
    exact kept
  · intro piece member
    rcases List.mem_append.mp member with old | new
    · exact head.room piece old
    · rw [List.mem_singleton.mp new,whole]
      simp only [N,bufSize] at *
      omega
  · exact moved.queue.trans (List.drop_of_length_le (by omega))

theorem polled (head : AtHead text rest p) :
    (devicePoll p.device &&& pollIn ≠ 0 ↔ queue p.device ≠ []) ∧
    (queue p.device = [] → devicePoll p.device &&& pollOut ≠ 0) := by
  constructor
  · rw [devicePoll_in,← Bool.not_eq_true,isBufferEmpty_exact head.valid]
  · intro drained
    rw [devicePoll_out,← Bool.not_eq_true,isBufferFull_exact head.valid,drained]
    exact fun full => absurd full.1 (by decide)

-- A pass ends the program with everything read, or comes back to the head of
-- the loop with less to do.
theorem pass (head : AtHead text rest p) :
    (∃ read,Copied text read ∧ ∀ fuel,mainLoop (fuel+1) p = some (read,.allRead)) ∨
    (∃ rest' next,AtHead text rest' next ∧ left rest' next < left rest p ∧ ∀ fuel,mainLoop (fuel+1) p = mainLoop fuel next) := by
  obtain ⟨readable,writable⟩ := polled head
  by_cases drained : queue p.device = []
  · have silent : devicePoll p.device &&& pollIn = 0 := not_not.mp (mt readable.mp (not_not.mpr drained))
    obtain ⟨written,step,after,less⟩ := writePass_drained head drained (writable drained)
    refine .inr ⟨_,written,after,less,fun fuel => ?_⟩
    simp only [mainLoop,if_neg (fun idle => writable drained (And.right idle)),readPass,silent,if_true,step]
  · have ready := readable.mpr drained
    have awake : ¬ (devicePoll p.device &&& pollIn = 0 ∧ devicePoll p.device &&& pollOut = 0) := fun idle => ready idle.1
    by_cases last : rest = []
    · subst last
      obtain ⟨read,step,done⟩ := readPass_last head ready
      refine .inl ⟨read,done,fun fuel => ?_⟩
      simp only [mainLoop,if_neg awake,step]
    · obtain ⟨read,step,after,empty,less⟩ := readPass_more head drained last ready
      by_cases closed : devicePoll p.device &&& pollOut = 0
      · refine .inr ⟨rest,read,after,less,fun fuel => ?_⟩
        have skipped : writePass (devicePoll p.device) read = (read,none) := if_pos closed
        simp only [mainLoop,if_neg awake,step,skipped]
      · obtain ⟨written,stepped,later,fewer⟩ := writePass_drained after empty closed
        refine .inr ⟨_,written,later,by omega,fun fuel => ?_⟩
        simp only [mainLoop,if_neg awake,step,stepped]

theorem loop (bound : Nat) (head : AtHead text rest p) (enough : left rest p ≤ bound) :
    ∃ read,Copied text read ∧ ∀ fuel,bound ≤ fuel → mainLoop fuel p = some (read,.allRead) := by
  induction bound generalizing rest p with
  | zero =>
      have none : rest = [] := List.length_eq_zero_iff.mp (by rw [left] at enough; omega)
      have queued := List.length_pos_iff.mpr (head.busy none)
      rw [left] at enough
      omega
  | succ bound ih =>
      rcases pass head with ⟨read,done,step⟩ | ⟨rest',next,after,less,step⟩
      · exact ⟨read,done,fun fuel more => by rw [← Nat.sub_add_cancel (Nat.one_le_of_lt more)]; exact step _⟩
      · obtain ⟨read,done,later⟩ := ih after (by omega)
        refine ⟨read,done,fun fuel more => ?_⟩
        rw [← Nat.sub_add_cancel (Nat.one_le_of_lt more),step]
        exact later _ (by omega)

theorem idles (drained : p.device.ir = p.device.iw) (none : p.wbuf = []) (fuel : Nat) : mainLoop fuel p = Option.none := by
  induction fuel generalizing p with
  | zero => rfl
  | succ fuel ih =>
      have empty : isBufferEmpty p.device = true := by simp [isBufferEmpty,drained]
      have open' : isBufferFull p.device = false := by simp [isBufferFull,drained]
      have mask : devicePoll p.device = pollOut ||| pollWrNorm := by simp [devicePoll,empty,open']
      have wrote : deviceWrite false p.wbuf p.device = (.returned 0,⟨p.device,0,[],[]⟩) := by
        rw [deviceWrite,open',none]
        rfl
      have same : writePass (pollOut ||| pollWrNorm) p = (p,Option.none) := by
        rw [writePass,if_neg (by decide),wrote]
        cases p
        simp_all
      have unread : readPass (pollOut ||| pollWrNorm) p = (p,Option.none) := if_pos rfl
      rw [mainLoop]
      simp only [mask,unread,same]
      exact ih drained none

end Passes

theorem start_atHead (text : Text) (unused : d.useCount = 0) (some : text.bytes ≠ []) : AtHead text text.bytes (start text d) := by
  have drained : queue (start text d).device = [] := by
    rw [start,deviceOpen_queue,deviceOpen_queue,if_pos unused,ite_self]
  refine ⟨deviceOpen_valid ?_,?_,?_,fun _ => rfl,by simp [start],fun none => absurd none some⟩
  · rw [deviceOpen,if_pos unused]
    exact ⟨initial_valid.irBound,initial_valid.iwBound⟩
  · rw [drained]
    simp [start]
  · rw [drained]
    simp [start]

-- Run alone on an unused device, test_pollRW.c copies any text through the
-- ring and ends; on an empty text its loop spins.
theorem main_copies (text : Text) (d : Device) (unused : d.useCount = 0) :
    (text.bytes ≠ [] → ∃ p, (∀ fuel, 2*text.bytes.length ≤ fuel → mainLoop fuel (start text d) = some (p,.allRead)) ∧ Copied text p) ∧
    (text.bytes = [] → ∀ fuel, mainLoop fuel (start text d) = none) := by
  constructor
  · intro some
    have head := start_atHead text unused some
    have drained : queue (start text d).device = [] := by
      rw [start,deviceOpen_queue,deviceOpen_queue,if_pos unused,ite_self]
    obtain ⟨p,copied,ends⟩ := loop (2*text.bytes.length) head (by simp [left,drained])
    exact ⟨p,ends,copied⟩
  · intro none
    refine idles ?_ none
    simp [start,deviceOpen,unused]

def hello : Text := ⟨[104,101,108,108,111],by simp,by simp⟩

theorem main_copies_hello : ∃ p,Copied hello p ∧ mainLoop 10 (start hello initial) = some (p,.allRead) := by
  obtain ⟨p,ends,copied⟩ := (main_copies hello initial rfl).1 (List.cons_ne_nil _ _)
  exact ⟨p,copied,ends 10 (Nat.le_refl _)⟩

end LinuxDeviceDrivers.PollTestPrograms
