import LinuxDeviceDrivers.PollProcesses

namespace LinuxDeviceDrivers.PollReturns
open Transition PollDevice PollQueue PollProcesses

variable {P : Type} [DecidableEq P]

-- A copy section is entered by a caller for whom the ring has nothing.
def SectionReady (s : System P) : Event P → Prop
  | .step p => ∀ c ∈ s.calls p, c.pc = .copy → Wanted c.operation → CanMove c.operation s.device
  | _ => True

instance : ∀ operation, Decidable (Wanted operation)
  | .read len => Nat.decLe 1 len
  | .write bytes => Nat.decLe 1 bytes.length

instance (s : System P) : ∀ event, Decidable (SectionReady s event)
  | .step p => Option.decidableForallMem (s.calls p)
  | .opens _ | .releases _ | .call _ _ _ _ | .signal _ => .isTrue trivial

def Logged (s : System P) : Prop := ∃ entry ∈ s.returned, Wanted entry.1 ∧ entry.2 = 0
def Doomed (c : Pending) : Prop := Wanted c.operation ∧ (c.pc = .up 0 ∨ c.pc = .wake 0)
def Elsewhere (s : System P) (p : P) : Prop := ∃ q e, q ≠ p ∧ s.calls q = some e ∧ Doomed e
def Fruitless (s : System P) : Prop := Logged s ∨ ∃ p c, s.calls p = some c ∧ Doomed c

section Returns
variable {s : System P} {p : P} {c : Pending} {pc : Pc} {value : Int}

theorem fruitless_at (at' : s.calls p = some c) : Fruitless s ↔ Logged s ∨ Elsewhere s p ∨ Doomed c := by
  refine or_congr Iff.rfl ⟨?_,?_⟩
  · rintro ⟨q,e,found,doomed⟩
    by_cases same : q = p
    · subst same
      obtain rfl : c = e := Option.some.inj (at'.symm.trans found)
      exact .inr doomed
    · exact .inl ⟨q,e,same,found,doomed⟩
  · rintro (⟨q,e,_,found,doomed⟩ | doomed)
    · exact ⟨q,e,found,doomed⟩
    · exact ⟨p,c,at',doomed⟩

theorem fruitless_goto : Fruitless (goto s p c pc) ↔ Logged s ∨ Elsewhere s p ∨ Doomed {c with pc := pc} := by
  rw [fruitless_at (goto_calls.mpr (.inl ⟨rfl,rfl⟩))]
  refine or_congr Iff.rfl (or_congr ⟨?_,?_⟩ Iff.rfl)
  · rintro ⟨q,e,other,found,doomed⟩
    exact ⟨q,e,other,(goto_calls.mp found).elim (fun own => absurd own.1 other) And.right,doomed⟩
  · rintro ⟨q,e,other,found,doomed⟩
    exact ⟨q,e,other,goto_calls.mpr (.inr ⟨other,found⟩),doomed⟩

theorem fruitless_finish : Fruitless (finish s p c value) ↔
    Logged s ∨ Elsewhere s p ∨ Wanted c.operation ∧ value = 0 := by
  unfold Fruitless
  simp only [finish_calls]
  constructor
  · rintro (⟨entry,member,wanted,zero⟩ | ⟨q,e,⟨other,old⟩,doomed⟩)
    · rcases List.mem_cons.mp member with rfl | old
      · exact .inr (.inr ⟨wanted,zero⟩)
      · exact .inl ⟨entry,old,wanted,zero⟩
    · exact .inr (.inl ⟨q,e,other,old,doomed⟩)
  · rintro (⟨entry,old,wanted,zero⟩ | ⟨q,e,other,old,doomed⟩ | ⟨wanted,zero⟩)
    · exact .inl ⟨entry,List.mem_cons_of_mem _ old,wanted,zero⟩
    · exact .inr ⟨q,e,⟨other,old⟩,doomed⟩
    · exact .inl ⟨(c.operation,value),List.mem_cons_self,wanted,zero⟩

omit [DecidableEq P] in
theorem wakeUp_elsewhere (operation : Operation) : Elsewhere (wakeUp s operation) p ↔ Elsewhere s p := by
  constructor
  · rintro ⟨q,e,other,reached,wanted,standing⟩
    obtain ⟨before,old,rfl⟩ := wakeUp_calls.mp reached
    rw [(roused_same operation before).2] at wanted
    unfold roused at standing
    split at standing
    · simp at standing
    · exact ⟨q,before,other,old,wanted,standing⟩
  · rintro ⟨q,e,other,old,wanted,standing⟩
    have busy : e.pc ≠ .asleep := by rcases standing with pc | pc <;> simp [pc]
    exact ⟨q,e,other,wakeUp_calls.mpr ⟨e,old,roused_busy busy⟩,wanted,standing⟩

theorem fruitless_advance (valid : Valid s.device) (at' : s.calls p = some c) : Fruitless (advance s p c) ↔
    Fruitless s ∨ (c.pc = .copy ∧ Wanted c.operation ∧ ¬ CanMove c.operation s.device) := by
  rw [fruitless_at at']
  unfold advance
  split
  case h_1 pc =>
      split
      · rw [fruitless_finish]; simp [Doomed,pc,eagain]
      · rw [fruitless_goto]; simp [Doomed,pc]
  case h_2 pc => rw [fruitless_goto]; split <;> simp [Doomed,pc]
  case h_3 pc => rw [fruitless_goto]; split <;> simp [Doomed,pc]
  case h_4 pc => rw [fruitless_at at']; simp [pc]
  case h_5 pc =>
      rw [fruitless_goto]
      change Logged s ∨ Elsewhere s p ∨ _ ↔ _
      simp [Doomed,pc]
  case h_6 pc =>
      rw [fruitless_goto]
      change Logged s ∨ Elsewhere s p ∨ _ ↔ _
      have nothing : Wanted c.operation → ((runSection c.operation s.device).i = 0 ↔ ¬ CanMove c.operation s.device) := by
        intro wanted
        rw [← runSection_moves valid wanted]
        omega
      by_cases wanted : Wanted c.operation
      · simp [Doomed,pc,wanted,nothing wanted,or_assoc]
      · simp [Doomed,pc,wanted]
  case h_7 i pc =>
      rw [fruitless_goto]
      change Logged s ∨ Elsewhere s p ∨ _ ↔ _
      simp [Doomed,pc]
  case h_8 i pc =>
      rw [fruitless_finish]
      have same : Elsewhere (if 0 < i then wakeUp s c.operation else s) p ↔ Elsewhere s p := by
        split
        · exact wakeUp_elsewhere _
        · exact Iff.rfl
      have log : Logged (if 0 < i then wakeUp s c.operation else s) ↔ Logged s := by split <;> exact Iff.rfl
      rw [same,log]
      simp [Doomed,pc]

theorem fruitless_interrupt (at' : s.calls p = some c) : Fruitless (interrupt s p c) ↔ Fruitless s := by
  rw [fruitless_at at']
  unfold interrupt
  split
  case h_1 pc => rw [fruitless_goto]; simp [Doomed,pc]
  case h_2 pc => rw [fruitless_finish]; simp [Doomed,pc,erestartsys]
  case h_3 => rw [fruitless_at at']

end Returns

theorem fruitless_step (s : System P) (event : Event P) (valid : Valid s.device) (allowed : processes.Allowed s event) :
    ¬ Fruitless (processes.apply s event) ↔ ¬ Fruitless s ∧ SectionReady s event := by
  cases event with
  | opens file => exact ⟨fun clear => ⟨clear,trivial⟩,And.left⟩
  | releases file => exact ⟨fun clear => ⟨clear,trivial⟩,And.left⟩
  | call p file nonblock operation =>
      have free : s.calls p = none := by simpa using allowed.1
      have entered : Fruitless (processes.apply s (.call p file nonblock operation)) ↔ Logged s ∨ Elsewhere s p := by
        change Fruitless (goto s p ⟨file,nonblock,operation,.check⟩ .check) ↔ _
        rw [fruitless_goto]
        simp [Doomed]
      have before : Fruitless s ↔ Logged s ∨ Elsewhere s p := by
        refine or_congr Iff.rfl ⟨?_,fun ⟨q,e,_,found,doomed⟩ => ⟨q,e,found,doomed⟩⟩
        rintro ⟨q,e,found,doomed⟩
        refine ⟨q,e,?_,found,doomed⟩
        rintro rfl
        simp [free] at found
      rw [entered,before]
      exact ⟨fun clear => ⟨clear,trivial⟩,And.left⟩
  | step p =>
      cases at' : s.calls p with
      | none => simp [processes,at',SectionReady]
      | some c =>
          have exact := fruitless_advance valid at'
          simp only [processes,at',exact,SectionReady,not_or,not_and,not_not]
          refine and_congr Iff.rfl ⟨?_,fun ready => ready c rfl⟩
          intro ready e same
          cases Option.some.inj same
          exact ready
  | signal p =>
      cases at' : s.calls p with
      | none => simp [processes,at',SectionReady]
      | some c => simp [processes,at',SectionReady,fruitless_interrupt at']

theorem fruitless_run (events : List (Event P)) : ∀ (s : System P), Consistent s → processes.Runs s events →
    (¬ Fruitless (processes.run s events) ↔ ¬ Fruitless s ∧ processes.Along SectionReady s events) := by
  induction events with
  | nil => exact fun s _ _ => ⟨fun clear => ⟨clear,trivial⟩,And.left⟩
  | cons event rest ih =>
      intro s consistent path
      rw [Machine.run_cons,ih _ (consistent_step s event consistent path.1) path.2,
        fruitless_step s event consistent.valid path.1,and_assoc]
      rfl

-- No call for at least one byte returns 0 in a run whose copy sections are all
-- entered with something to do, and in a run that let every call return no
-- other section was entered.
theorem never_zero_iff (events : List (Event P)) (path : processes.Runs loaded events) :
    (processes.Along SectionReady loaded events →
      ∀ entry ∈ (processes.run loaded events).returned, Wanted entry.1 → entry.2 ≠ 0) ∧
    ((∀ p, (processes.run loaded events).calls p = none) →
      (∀ entry ∈ (processes.run loaded events).returned, Wanted entry.1 → entry.2 ≠ 0) →
      processes.Along SectionReady loaded events) := by
  have exact := fruitless_run events loaded loaded_consistent path
  have start : ¬ Fruitless (loaded : System P) := by simp [Fruitless,Logged,loaded]
  refine ⟨fun ready entry member wanted zero => exact.mpr ⟨start,ready⟩ (.inl ⟨entry,member,wanted,zero⟩),?_⟩
  intro finished nonzero
  refine (exact.mp ?_).2
  rintro (⟨entry,member,wanted,zero⟩ | ⟨p,c,found,_⟩)
  · exact nonzero entry member wanted zero
  · simp [finished p] at found

def whole (p : P) (operation : Operation) : List (Event P) := .call p 0 false operation :: steps p 6

def roundTrip : List (Event Unit) := .opens 0 :: whole () (.write [7]) ++ whole () (.read 4)

theorem never_zero_round_trip :
    ¬ ∃ entry ∈ (processes.run loaded roundTrip).returned, Wanted entry.1 ∧ entry.2 = 0 :=
  fun ⟨entry,member,wanted,zero⟩ => (never_zero_iff roundTrip (by decide)).1 (by decide) entry member wanted zero

theorem write_returns_zero :
    let events := .opens 0 :: whole () (.write (List.replicate 22 0)) ++ whole () (.read 1) ++
      whole () (.write [0]) ++ whole () (.write [1])
    processes.Runs loaded events ∧ (.write [1],0) ∈ (processes.run loaded events).returned := by decide

-- The three ways to enter a section unready: a signal ends a sleep, another
-- caller of the same side takes what this one waited for, and a writer's wait
-- passes on a ring that is full behind its read index.
def Undisturbed (s : System P) : Event P → Prop
  | .signal p => ∀ c ∈ s.calls p, c.pc ≠ .asleep
  | .step p => ∀ c ∈ s.calls p,
      (c.pc = .test ∨ c.pc = .joined → c.operation.isRead = false → s.device.ir ≠ s.device.iw+1) ∧
      (c.pc = .copy → ∀ q e, q ≠ p → s.calls q = some e → e.pc = .acquire ∨ e.pc = .copy →
        e.operation.isRead = c.operation.isRead → CanMove e.operation (runSection c.operation s.device).device)
  | _ => True

def Passed (s : System P) : Prop :=
  ∀ p c, s.calls p = some c → c.pc = .acquire ∨ c.pc = .copy → CanMove c.operation s.device

theorem ready_canMove (valid : Valid d) (operation : Operation) (passed : ready operation d = true)
    (apart : operation.isRead = false → d.ir ≠ d.iw+1) : CanMove operation d := by
  cases operation with
  | read len => simpa [ready,isBufferEmpty,CanMove] using passed
  | write bytes =>
      intro stop
      have full := (isBufferFull_exact valid).mpr ⟨(stopIndex_exact valid).mp stop,apart rfl⟩
      simp [ready,full] at passed

theorem runSection_keeps (valid : Valid d) (operation other : Operation)
    (side : other.isRead ≠ operation.isRead) (before : CanMove other d) :
    CanMove other (runSection operation d).device := by
  rw [canMove_queue (runSection_valid valid operation)]
  rw [canMove_queue valid] at before
  cases operation with
  | read len =>
      cases other with
      | read _ => exact absurd rfl side
      | write _ =>
          simp only [runSection,(readSection_transfer valid len).queue,Operation.isRead,Bool.false_eq_true,
            ↓reduceIte,List.length_drop] at before ⊢
          omega
  | write bytes =>
      cases other with
      | write _ => exact absurd rfl side
      | read _ =>
          simp only [runSection,(writeSection_transfer valid bytes).queue,Operation.isRead,↓reduceIte] at before ⊢
          exact fun empty => before (List.append_eq_nil_iff.mp empty).1

theorem passed_goto {s : System P} {p : P} {c : Pending} {pc : Pc} (passed : Passed s)
    (own : pc = .acquire ∨ pc = .copy → CanMove c.operation s.device) : Passed (goto s p c pc) := by
  intro q e reached standing
  rcases goto_calls.mp reached with ⟨rfl,rfl⟩ | ⟨_,old⟩
  · exact own standing
  · exact passed q e old standing

theorem passed_advance {s : System P} {p : P} {c : Pending} (valid : Valid s.device) (passed : Passed s)
    (at' : s.calls p = some c) (undisturbed : Undisturbed s (.step p)) : Passed (advance s p c) := by
  obtain ⟨apart,alone⟩ := undisturbed c at'
  unfold advance
  split
  case h_1 pc =>
      split
      · exact fun q e reached => passed q e (finish_calls.mp reached).2
      · exact passed_goto passed (by simp)
  case h_2 pc =>
      refine passed_goto passed ?_
      split
      · rename_i waited; exact fun _ => ready_canMove valid _ waited (apart (.inl pc))
      · simp
  case h_3 pc =>
      refine passed_goto passed ?_
      split
      · rename_i waited; exact fun _ => ready_canMove valid _ waited (apart (.inr pc))
      · simp
  case h_4 => exact passed
  case h_5 pc =>
      exact passed_goto (s:={s with sema := s.sema-1}) passed fun _ => passed p c at' (.inl pc)
  case h_6 pc =>
      intro q e reached standing
      rcases goto_calls.mp reached with ⟨rfl,rfl⟩ | ⟨other,old⟩
      · simp at standing
      · by_cases side : e.operation.isRead = c.operation.isRead
        · exact alone pc q e other old standing side
        · exact runSection_keeps valid _ _ side (passed q e old standing)
  case h_7 => exact passed_goto (s:={s with sema := s.sema+1}) passed (by simp)
  case h_8 i pc =>
      intro q e reached standing
      have old := (finish_calls.mp reached).2
      have shared : (finish (if 0 < i then wakeUp s c.operation else s) p c i).device = s.device := by
        unfold finish; split <;> rfl
      rw [shared]
      split at old
      · obtain ⟨before,found,rfl⟩ := wakeUp_calls.mp old
        rw [(roused_same _ _).2]
        refine passed q before found ?_
        unfold roused at standing
        split at standing
        · simp at standing
        · exact standing
      · exact passed q e old standing

theorem passed_step (s : System P) (event : Event P) (sound : Consistent s ∧ Passed s)
    (allowed : processes.Allowed s event ∧ Undisturbed s event) :
    Consistent (processes.apply s event) ∧ Passed (processes.apply s event) := by
  refine ⟨consistent_step s event sound.1 allowed.1,?_⟩
  obtain ⟨consistent,passed⟩ := sound
  cases event with
  | opens file =>
      intro p c at' standing
      change CanMove c.operation (deviceOpen s.device)
      rw [deviceOpen_used s.device (consistent.used at'),canMove_useCount]
      exact passed p c at' standing
  | releases file => exact fun p c at' standing => (canMove_useCount _ _ _).mpr (passed p c at' standing)
  | call p file nonblock operation =>
      change Passed (goto s p ⟨file,nonblock,operation,.check⟩ .check)
      exact passed_goto passed (by simp)
  | step p =>
      cases at' : s.calls p with
      | none => simpa only [processes,at'] using passed
      | some c => simpa only [processes,at'] using passed_advance consistent.valid passed at' allowed.2
  | signal p =>
      cases at' : s.calls p with
      | none => simpa only [processes,at'] using passed
      | some c =>
          have awake : c.pc ≠ .asleep := allowed.2 c at'
          simp only [processes,at']
          unfold interrupt
          split
          case h_1 pc => exact absurd pc awake
          case h_2 => exact fun q e reached => passed q e (finish_calls.mp reached).2
          case h_3 => exact passed

theorem undisturbed_sections_ready (events : List (Event P)) (path : processes.Runs loaded events)
    (undisturbed : processes.Along Undisturbed loaded events) : processes.Along SectionReady loaded events := by
  refine Machine.along_of_invariant passed_step ?_ ⟨loaded_consistent,by simp [Passed,loaded]⟩
    (Machine.along_and.mpr ⟨path,undisturbed⟩)
  intro s event sound _
  cases event with
  | step p => exact fun c at' pc _ => sound.2 p c at' (.inr pc)
  | _ => trivial

end LinuxDeviceDrivers.PollReturns
