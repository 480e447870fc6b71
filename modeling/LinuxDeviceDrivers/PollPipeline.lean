import LinuxDeviceDrivers.PollTestPrograms

namespace LinuxDeviceDrivers.PollPipeline
open Transition PollDevice PollQueue
open PollTestPrograms (Text)

def bufSize : Nat := 23

def rbuf (piece : List UInt8) : List UInt8 := piece ++ List.replicate (bufSize-piece.length) 0

-- What "%s" prints of rbuf; `none` if it reads on behind it.
def printed (rbuf : List UInt8) : Option (List UInt8) :=
  if 0 ∈ rbuf then some (rbuf.takeWhile (· ≠ 0)) else none

-- A program has not come to its open, is in its loop or at its poll, knows that
-- fd is readable, is at its close, or is gone.
inductive Stage where
  | start
  | opened
  | readable
  | closing
  | gone
deriving DecidableEq

-- One test_pollW.c and any number of test_pollR.c: `none` is the writer.
-- `pieces` logs what the reads delivered, in order.
structure System (R : Type) where
  device : Device
  files : List (Option R) := []
  stage : Option R → Stage := fun _ => .start
  wbuf : List UInt8
  pieces : List (List UInt8) := []

inductive Event (R : Type) where
  | opens (p : Option R)
  | writes
  | polls (r : R) (elapsed : Bool)
  | reads (r : R)
  | closes (p : Option R)

variable {R : Type} [DecidableEq R]

def start (text : Text) : System R := {device := initial,wbuf := text.bytes}

def goto (p : Option R) (stage : Stage) (s : System R) : System R := {s with stage := Function.update s.stage p stage}

-- One pass of the writer's loop. A call of write that found room when it looked
-- may find none when it comes to copy.
def writes (s : System R) : System R :=
  let copied := writeSection s.wbuf s.device
  if copied.i < s.wbuf.length then {s with device := copied.device,wbuf := s.wbuf.drop copied.i}
  else goto none .closing {s with device := copied.device}

def reads (r : R) (s : System R) : System R :=
  let copied := readSection bufSize s.device
  goto (some r) .closing {s with device := copied.device,pieces := s.pieces ++ [copied.bytes]}

-- Each call on the device is one section of it, in whatever order the programs
-- come to them. poll waits until fd is readable or the time is out.
def machine : Machine (System R) (Event R) where
  Allowed s event := match event with
    | .opens p => s.stage p = .start
    | .writes => s.stage none = .opened
    | .polls r elapsed => s.stage (some r) = .opened ∧ (elapsed = false → isBufferEmpty s.device = false)
    | .reads r => s.stage (some r) = .readable
    | .closes p => s.stage p = .closing
  apply s event := match event with
    | .opens p => goto p .opened {s with device := deviceOpen s.device,files := p :: s.files}
    | .writes => writes s
    | .polls r elapsed => goto (some r) (if elapsed then .closing else .readable) s
    | .reads r => reads r s
    | .closes p => goto p .gone {s with device := deviceRelease s.device,files := s.files.erase p}

instance decidableAllowed : ∀ (s : System R) event,Decidable (machine.Allowed s event)
  | s,.opens p => inferInstanceAs (Decidable (s.stage p = .start))
  | s,.writes => inferInstanceAs (Decidable (s.stage none = .opened))
  | s,.polls r elapsed =>
      inferInstanceAs (Decidable (s.stage (some r) = .opened ∧ (elapsed = false → isBufferEmpty s.device = false)))
  | s,.reads r => inferInstanceAs (Decidable (s.stage (some r) = .readable))
  | s,.closes p => inferInstanceAs (Decidable (s.stage p = .closing))

def writing : Stage → Bool
  | .start | .opened => true
  | .readable | .closing | .gone => false

def rest (s : System R) : List UInt8 := if writing (s.stage none) then s.wbuf else []

-- What the readers got, what the ring holds and what is still to be written
-- make up the text; every piece is printed as it was read; and the writer is
-- not done before all but a ring's worth has been read.
structure Piped (text : Text) (s : System R) : Prop where
  whole : s.pieces.flatten ++ queue s.device ++ rest s = text.bytes
  printed : ∀ piece ∈ s.pieces,printed (rbuf piece) = some piece
  done : writing (s.stage none) = false → text.bytes.length ≤ s.pieces.flatten.length+(N-1)

-- device_open empties a ring that nobody has open.
def Kept (s : System R) : Event R → Prop
  | .opens _ => s.files = [] → queue s.device = []
  | _ => True

def holding : Stage → Bool
  | .opened | .readable | .closing => true
  | .start | .gone => false

instance decidableKept : ∀ (s : System R) event,Decidable (Kept s event)
  | s,.opens _ => inferInstanceAs (Decidable (s.files = [] → queue s.device = []))
  | _,.writes | _,.polls _ _ | _,.reads _ | _,.closes _ => .isTrue trivial

structure Sound (s : System R) : Prop where
  valid : Valid s.device
  counted : s.device.useCount = s.files.length
  opened : ∀ p,p ∈ s.files ↔ holding (s.stage p) = true
  nodup : s.files.Nodup
  short : ∀ piece ∈ s.pieces,piece.length ≤ N-1

section Printing
variable {piece : List UInt8}

theorem takeWhile_zeros (chars : ∀ byte ∈ piece,byte ≠ 0) (count : Nat) :
    (piece ++ List.replicate count 0).takeWhile (· ≠ 0) = piece := by
  rw [List.takeWhile_append_of_pos (by simpa using chars)]
  cases count with
  | zero => simp
  | succ count => simp [List.replicate_succ]

theorem printed_piece (chars : ∀ byte ∈ piece,byte ≠ 0) (short : piece.length ≤ N-1) : printed (rbuf piece) = some piece := by
  have zero : (0 : UInt8) ∈ rbuf piece := by
    refine List.mem_append_right _ (List.mem_replicate.mpr ⟨?_,rfl⟩)
    simp only [bufSize,N] at short ⊢
    omega
  rw [printed,if_pos zero,rbuf,takeWhile_zeros chars]

end Printing

section Steps
variable {text : Text} {s : System R} {p : Option R} {r : R}

def Whole (text : Text) (s : System R) : Prop := s.pieces.flatten ++ queue s.device ++ rest s = text.bytes

omit [DecidableEq R] in
theorem Sound.piped (sound : Sound s) (whole : Whole text s) : Piped text s := by
  refine ⟨whole,?_,?_⟩
  · intro piece member
    apply printed_piece _ (sound.short piece member)
    intro byte inside
    apply text.chars byte
    have read : byte ∈ s.pieces.flatten := List.mem_flatten.mpr ⟨piece,member,inside⟩
    rw [← whole]
    exact List.mem_append_left _ (List.mem_append_left _ read)
  · intro finished
    have none : rest s = [] := by simp [rest,finished]
    have bounded := queue_bounded sound.valid
    rw [← whole,none,List.append_nil,List.length_append]
    omega

theorem goto_files (p : Option R) (stage : Stage) (s : System R) : (goto p stage s).files = s.files := rfl

theorem rest_goto {stage : Stage} (same : p = none → writing stage = writing (s.stage none)) :
    rest (goto p stage s) = rest s := by
  have writes : writing ((goto p stage s).stage none) = writing (s.stage none) := by
    by_cases own : p = none
    · subst own
      simpa [goto] using same rfl
    · simp [goto,Ne.symm own]
  unfold rest
  rw [writes]
  rfl

theorem Sound.goto {stage : Stage} (sound : Sound s) (same : holding stage = holding (s.stage p)) : Sound (goto p stage s) := by
  refine ⟨sound.valid,sound.counted,?_,sound.nodup,sound.short⟩
  intro q
  rw [goto_files,sound.opened q]
  by_cases own : q = p
  · subst own
    simp [PollPipeline.goto,same]
  · simp [PollPipeline.goto,own]

omit [DecidableEq R] in
theorem Sound.transfer {copied : Copied} {moved after wbuf : List UInt8} {pieces : List (List UInt8)} (sound : Sound s)
    (moves : Transfer s.device copied moved after) (short : ∀ piece ∈ pieces,piece.length ≤ N-1) :
    Sound {s with device := copied.device,wbuf := wbuf,pieces := pieces} :=
  ⟨moves.valid,moves.opens.trans sound.counted,sound.opened,sound.nodup,short⟩

theorem writes_sound (sound : Sound s) (writer : s.stage none = .opened) : Sound (writes s) := by
  have moves := writeSection_transfer sound.valid s.wbuf
  simp only [writes]
  split
  · exact sound.transfer moves sound.short
  · exact (sound.transfer moves sound.short).goto (by simp [writer,holding])

theorem reads_sound (sound : Sound s) (reader : s.stage (some r) = .readable) : Sound (reads r s) := by
  have moves := readSection_transfer sound.valid bufSize
  have bounded := queue_bounded sound.valid
  refine (sound.transfer moves ?_).goto (by simp [reader,holding])
  intro piece member
  rcases List.mem_append.mp member with old | new
  · exact sound.short piece old
  · obtain rfl : piece = (readSection bufSize s.device).bytes := by simpa using new
    rw [moves.bytes,List.length_take]
    omega

theorem deviceOpen_useCount (d : Device) : (deviceOpen d).useCount = d.useCount+1 := by
  unfold deviceOpen
  split <;> rfl

theorem opens_sound (sound : Sound s) (fresh : s.stage p = .start) :
    Sound (goto p .opened {s with device := deviceOpen s.device,files := p :: s.files}) := by
  have absent : p ∉ s.files := by simp [sound.opened p,fresh,holding]
  refine ⟨deviceOpen_valid sound.valid,?_,?_,List.nodup_cons.mpr ⟨absent,sound.nodup⟩,sound.short⟩
  · simp only [goto,deviceOpen_useCount,sound.counted,List.length_cons]
    push_cast
    rfl
  · intro q
    by_cases own : q = p
    · simp [goto,own,holding]
    · simpa [goto,own] using sound.opened q

theorem closes_sound (sound : Sound s) (closing : s.stage p = .closing) :
    Sound (goto p .gone {s with device := deviceRelease s.device,files := s.files.erase p}) := by
  have present : p ∈ s.files := (sound.opened p).mpr (by simp [closing,holding])
  refine ⟨⟨sound.valid.irBound,sound.valid.iwBound⟩,?_,?_,sound.nodup.erase p,sound.short⟩
  · have nonempty := List.length_pos_of_mem present
    simp only [goto,deviceRelease,sound.counted,List.length_erase_of_mem present]
    omega
  · intro q
    simp only [goto]
    rw [sound.nodup.mem_erase_iff]
    by_cases own : q = p
    · simp [own,holding]
    · simpa [own] using sound.opened q

theorem apply_sound (s : System R) (event : Event R) (sound : Sound s) (allowed : machine.Allowed s event) :
    Sound (machine.apply s event) := by
  cases event with
  | opens p => exact opens_sound sound allowed
  | writes => exact writes_sound sound allowed
  | polls r elapsed =>
      refine sound.goto ?_
      have waiting : s.stage (some r) = .opened := allowed.1
      cases elapsed <;> simp [waiting,holding]
  | reads r => exact reads_sound sound allowed
  | closes p => exact closes_sound sound allowed

theorem writes_whole (sound : Sound s) (writer : s.stage none = .opened) (whole : Whole text s) : Whole text (writes s) := by
  have moves := writeSection_transfer sound.valid s.wbuf
  have before : rest s = s.wbuf := by simp [rest,writer,writing]
  have kept : s.pieces.flatten ++ queue s.device ++ s.wbuf = text.bytes := by rw [← before]; exact whole
  simp only [writes]
  split
  · rename_i short
    have moved : s.wbuf.take (N-1-(queue s.device).length) = s.wbuf.take (writeSection s.wbuf s.device).i := by
      rw [moves.count,List.length_take,List.take_eq_take_iff]
      omega
    have left : rest {s with
        device := (writeSection s.wbuf s.device).device
        wbuf := s.wbuf.drop (writeSection s.wbuf s.device).i} = s.wbuf.drop (writeSection s.wbuf s.device).i := by
      simp [rest,writer,writing]
    rw [Whole,left,moves.queue,moved]
    simpa only [List.append_assoc,List.take_append_drop] using kept
  · rename_i enough
    have all : s.wbuf.take (N-1-(queue s.device).length) = s.wbuf := by
      have counted := moves.count
      rw [List.length_take] at counted
      exact List.take_of_length_le (by omega)
    have left : rest (goto none .closing {s with device := (writeSection s.wbuf s.device).device}) = [] := by
      simp [rest,goto,writing]
    rw [Whole,left]
    simp only [goto]
    rw [moves.queue,all]
    simpa only [List.append_assoc,List.append_nil] using kept

theorem reads_whole (sound : Sound s) (whole : Whole text s) : Whole text (reads r s) := by
  have moves := readSection_transfer sound.valid bufSize
  have left : rest (reads r s) = rest s := rest_goto (by simp)
  rw [Whole,left]
  simp only [reads,goto,List.flatten_append,List.flatten_singleton]
  rw [moves.bytes,moves.queue,List.append_assoc s.pieces.flatten,List.take_append_drop]
  exact whole

theorem opens_whole (sound : Sound s) (fresh : s.stage p = .start) (whole : Whole text s) :
    (s.files = [] → queue s.device = []) ↔
      Whole text (goto p .opened {s with device := deviceOpen s.device,files := p :: s.files}) := by
  have unused : s.device.useCount = 0 ↔ s.files = [] := by
    rw [sound.counted,← List.length_eq_zero_iff]
    omega
  have left : rest (goto p .opened {s with device := deviceOpen s.device,files := p :: s.files}) = rest s := by
    refine rest_goto ?_
    rintro rfl
    simp [fresh,writing]
  rw [Whole,left]
  simp only [goto,deviceOpen_queue,unused]
  by_cases alone : s.files = []
  · rw [if_pos alone,← whole,List.append_left_inj,List.append_right_inj]
    exact ⟨fun empty => (empty alone).symm,fun empty _ => empty.symm⟩
  · rw [if_neg alone]
    exact iff_of_true (fun empty => absurd empty alone) whole

theorem apply_whole (s : System R) (event : Event R) (sound : Sound s) (whole : Whole text s) (allowed : machine.Allowed s event) :
    Kept s event ↔ Whole text (machine.apply s event) := by
  cases event with
  | opens p => exact opens_whole sound allowed whole
  | writes => exact iff_of_true trivial (writes_whole sound allowed whole)
  | polls r elapsed =>
      refine iff_of_true trivial ?_
      have left : rest (goto (some r) (if elapsed then .closing else .readable) s) = rest s := rest_goto (by simp)
      exact (congrArg (s.pieces.flatten ++ queue s.device ++ ·) left).trans whole
  | reads r => exact iff_of_true trivial (reads_whole sound whole)
  | closes p =>
      refine iff_of_true trivial ?_
      have closing : s.stage p = .closing := allowed
      have left : rest (goto p .gone {s with device := deviceRelease s.device,files := s.files.erase p}) = rest s := by
        refine rest_goto ?_
        rintro rfl
        simp [closing,writing]
      exact (congrArg (s.pieces.flatten ++ queue s.device ++ ·) left).trans whole

omit [DecidableEq R] in
theorem start_sound (text : Text) : Sound (start text : System R) :=
  ⟨initial_valid,rfl,by simp [start,holding],List.nodup_nil,by simp [start]⟩

omit [DecidableEq R] in
theorem start_whole (text : Text) : Whole text (start text : System R) := rfl

end Steps

theorem piped_iff (text : Text) (events : List (Event R)) (path : machine.Runs (start text) events) :
    machine.Throughout (Piped text) (start text) events ↔ machine.Along Kept (start text) events := by
  have implied : ∀ s : System R,Sound s ∧ Whole text s → Piped text s := fun s both => both.1.piped both.2
  have exactly : ∀ (s : System R) event,Sound s ∧ Whole text s → machine.Allowed s event →
      (Kept s event ↔ Piped text (machine.apply s event)) := by
    intro s event both allowed
    have sound := apply_sound s event both.1 allowed
    rw [apply_whole s event both.1 both.2 allowed]
    exact ⟨sound.piped,Piped.whole⟩
  have preserved : ∀ (s : System R) event,Sound s ∧ Whole text s → machine.Allowed s event → Kept s event →
      Sound (machine.apply s event) ∧ Whole text (machine.apply s event) :=
    fun s event both allowed kept =>
      ⟨apply_sound s event both.1 allowed,(apply_whole s event both.1 both.2 allowed).mp kept⟩
  exact Machine.throughout_exact implied exactly preserved ⟨start_sound text,start_whole text⟩ path

def letters : List UInt8 :=
  ((List.range' 97 26) ++ (List.range' 48 10) ++ (List.range' 65 26)).map UInt8.ofNat

theorem letters_chars : ∀ byte ∈ letters,byte ≠ 0 := by decide +kernel

theorem letters_fit : letters.length < 0x80000000 := by decide +kernel

def alphabet : Text := ⟨letters,letters_chars,letters_fit⟩

def twoReaders : List (Event Bool) :=
  [.opens none,.opens (some false),.writes,.polls false false,.reads false,.writes,.opens (some true),
    .polls true false,.closes (some false),.reads true,.writes,.closes none,.closes (some true)]

theorem piped_iff_twoReaders : machine.Throughout (Piped alphabet) (start alphabet) twoReaders :=
  (piped_iff alphabet twoReaders (by decide +kernel)).mpr (by decide +kernel)

example : ¬ machine.Along Kept (start PollTestPrograms.hello : System Bool)
    [.opens none,.writes,.closes none,.opens (some false)] := by decide +kernel

end LinuxDeviceDrivers.PollPipeline
