import LinuxDeviceDrivers.PollReturns

namespace LinuxDeviceDrivers.PollNonblock
open Transition PollDevice PollQueue PollProcesses PollReturns

variable {P : Type} [DecidableEq P]

structure Observed (P : Type) where
  system : System P
  answers : List (Operation × Int) := []

def answered (before after : System P) (p : P) : List (Operation × Int) :=
  if (before.calls p).any (·.nonblock) && (after.calls p).isNone then after.returned.head?.toList else []

def answersOf (before after : System P) : Event P → List (Operation × Int)
  | .step p | .signal p => answered before after p
  | .opens _ | .releases _ | .call _ _ _ _ => []

def observed : Machine (Observed P) (Event P) where
  Allowed o event := processes.Allowed o.system event
  apply o event :=
    ⟨processes.apply o.system event,o.answers ++ answersOf o.system (processes.apply o.system event) event⟩

instance [Fintype P] (o : Observed P) (event : Event P) : Decidable (observed.Allowed o event) :=
  inferInstanceAs (Decidable (processes.Allowed o.system event))

def start : Observed P := {system := loaded}

-- -EAGAIN, or the number of bytes transferred: none only where none were asked for.
def Answered (entry : Operation × Int) : Prop :=
  entry.2 = -eagain ∨ 0 ≤ entry.2 ∧ (Wanted entry.1 → 1 ≤ entry.2)

structure Honoured (o : Observed P) : Prop where
  awake : ∀ p c,o.system.calls p = some c → c.nonblock = true → c.pc ≠ .asleep
  answers : ∀ entry ∈ o.answers,Answered entry

-- A call on an O_NONBLOCK file that passed its first test passes the wait's, finds
-- in its section what it passed them for, and is not interrupted before it.
def Free (s : System P) : Event P → Prop
  | .step p => ∀ c ∈ s.calls p,c.nonblock = true →
      (c.pc = .joined → ready c.operation s.device = true) ∧
      (c.pc = .copy → Wanted c.operation → CanMove c.operation s.device)
  | .signal p => ∀ c ∈ s.calls p,c.nonblock = true → c.pc ≠ .acquire
  | .opens _ | .releases _ | .call _ _ _ _ => True

instance decidableFree (s : System P) : ∀ event,Decidable (Free s event)
  | .step p => Option.decidableForallMem (s.calls p)
  | .signal p => Option.decidableForallMem (s.calls p)
  | .opens _ | .releases _ | .call _ _ _ _ => .isTrue trivial

structure Standing (c : Pending) : Prop where
  awake : c.pc ≠ .asleep
  moved : ∀ i,c.pc = .up i ∨ c.pc = .wake i → Wanted c.operation → 1 ≤ i

def Honest (s : System P) : Prop := ∀ p c,s.calls p = some c → c.nonblock = true → Standing c

section Steps
variable {s : System P} {p : P} {c : Pending} {pc : Pc} {value : Int}

theorem honest_goto (honest : Honest s) (own : c.nonblock = true → Standing {c with pc := pc}) :
    Honest (goto s p c pc) := by
  intro q e reached nonblock
  rcases goto_calls.mp reached with ⟨_,rfl⟩ | ⟨_,old⟩
  · exact own nonblock
  · exact honest q e old nonblock

theorem honest_finish (honest : Honest s) : Honest (finish s p c value) :=
  fun q e reached => honest q e (finish_calls.mp reached).2

omit [DecidableEq P] in
theorem honest_wakeUp (honest : Honest s) (operation : Operation) : Honest (wakeUp s operation) := by
  intro q e reached nonblock
  obtain ⟨before,old,rfl⟩ := wakeUp_calls.mp reached
  have same : (roused operation before).nonblock = before.nonblock := by
    unfold roused
    split <;> rfl
  have standing := honest q before old (same ▸ nonblock)
  rw [roused_busy standing.awake]
  exact standing

theorem answered_goto (s t : System P) (p : P) (c : Pending) (pc : Pc) : answered s (goto t p c pc) p = [] := by
  simp [answered,goto]

theorem answered_finish (at' : s.calls p = some c) (t : System P) (value : Int) :
    answered s (finish t p c value) p = if c.nonblock then [(c.operation,value)] else [] := by
  simp [answered,at',finish]

theorem answered_moves (honest : Honest (goto t p c pc)) :
    Honest (goto t p c pc) ∧ ∀ entry ∈ answered s (goto t p c pc) p,Answered entry := by
  refine ⟨honest,?_⟩
  rw [answered_goto]
  simp

theorem answered_returns (at' : s.calls p = some c) (honest : Honest t)
    (answer : c.nonblock = true → Answered (c.operation,value)) :
    Honest (finish t p c value) ∧ ∀ entry ∈ answered s (finish t p c value) p,Answered entry := by
  refine ⟨honest_finish honest,?_⟩
  rw [answered_finish at']
  intro entry member
  split at member
  · rename_i nonblock
    exact List.mem_singleton.mp member ▸ answer nonblock
  · cases member

theorem advance_honest (valid : Valid s.device) (honest : Honest s) (at' : s.calls p = some c)
    (free : Free s (.step p)) :
    Honest (advance s p c) ∧ ∀ entry ∈ answered s (advance s p c) p,Answered entry := by
  unfold advance
  split
  case h_1 pc =>
      split
      · exact answered_returns at' honest fun _ => .inl rfl
      · exact answered_moves (honest_goto honest fun _ => ⟨by simp,by simp⟩)
  case h_2 pc =>
      refine answered_moves (honest_goto honest fun _ => ?_)
      split
      · exact ⟨by simp,by simp⟩
      · exact ⟨by simp,by simp⟩
  case h_3 pc =>
      refine answered_moves (honest_goto honest fun nonblock => ?_)
      rw [if_pos ((free c at' nonblock).1 pc)]
      exact ⟨by simp,by simp⟩
  case h_4 pc =>
      refine ⟨honest,?_⟩
      simp [answered,at']
  case h_5 pc => exact answered_moves (honest_goto (s:={s with sema := s.sema-1}) honest fun _ => ⟨by simp,by simp⟩)
  case h_6 pc =>
      refine answered_moves (honest_goto (s:={s with device := (runSection c.operation s.device).device}) honest ?_)
      intro nonblock
      refine ⟨by simp,?_⟩
      intro i standing wanted
      obtain rfl : (runSection c.operation s.device).i = i := by simpa using standing
      exact (runSection_moves valid wanted).mpr ((free c at' nonblock).2 pc wanted)
  case h_7 i pc =>
      refine answered_moves (honest_goto (s:={s with sema := s.sema+1}) honest fun nonblock => ⟨by simp,?_⟩)
      intro j standing wanted
      obtain rfl : i = j := by simpa using standing
      exact (honest p c at' nonblock).moved i (.inl pc) wanted
  case h_8 i pc =>
      refine answered_returns at' ?_ fun nonblock => .inr ⟨Int.natCast_nonneg i,fun wanted => ?_⟩
      · split
        · exact honest_wakeUp honest _
        · exact honest
      · have moved := (honest p c at' nonblock).moved i (.inr pc) wanted
        exact Int.ofNat_le.mpr moved

theorem interrupt_honest (honest : Honest s) (at' : s.calls p = some c) (free : Free s (.signal p)) :
    Honest (interrupt s p c) ∧ ∀ entry ∈ answered s (interrupt s p c) p,Answered entry := by
  unfold interrupt
  split
  case h_1 pc => exact answered_moves (honest_goto honest fun _ => ⟨by simp,by simp⟩)
  case h_2 pc => exact answered_returns at' honest fun nonblock => absurd pc (free c at' nonblock)
  case h_3 =>
      refine ⟨honest,?_⟩
      simp [answered,at']

end Steps

structure Sound (o : Observed P) : Prop where
  consistent : Consistent o.system
  honest : Honest o.system
  answers : ∀ entry ∈ o.answers,Answered entry

theorem apply_sound (o : Observed P) (event : Event P) (sound : Sound o)
    (admitted : observed.Allowed o event ∧ Free o.system event) : Sound (observed.apply o event) := by
  obtain ⟨consistent,honest,answers⟩ := sound
  obtain ⟨allowed,free⟩ := admitted
  have stepped : Honest (processes.apply o.system event) ∧
      ∀ entry ∈ answersOf o.system (processes.apply o.system event) event,Answered entry := by
    cases event with
    | opens file => exact ⟨honest,by simp [answersOf]⟩
    | releases file => exact ⟨honest,by simp [answersOf]⟩
    | call p file nonblock operation =>
        refine ⟨?_,by simp [answersOf]⟩
        change Honest (goto o.system p ⟨file,nonblock,operation,.check⟩ .check)
        exact honest_goto honest fun _ => ⟨by simp,by simp⟩
    | step p =>
        cases at' : o.system.calls p with
        | none => simpa [processes,at',answersOf,answered] using honest
        | some c =>
            simp only [processes,at',answersOf]
            exact advance_honest consistent.valid honest at' free
    | signal p =>
        cases at' : o.system.calls p with
        | none => simpa [processes,at',answersOf,answered] using honest
        | some c =>
            simp only [processes,at',answersOf]
            exact interrupt_honest honest at' free
  refine ⟨consistent_step o.system event consistent allowed,stepped.1,?_⟩
  intro entry member
  rcases List.mem_append.mp member with before | new
  · exact answers entry before
  · exact stepped.2 entry new

omit [DecidableEq P] in
theorem Sound.honoured (o : Observed P) (sound : Sound o) : Honoured o :=
  ⟨fun p c at' nonblock => (sound.honest p c at' nonblock).awake,sound.answers⟩

def Dooms (o : Observed P) : Prop :=
  (∃ p c,o.system.calls p = some c ∧ c.nonblock = true ∧ Doomed c) ∨ ∃ entry ∈ o.answers,¬ Answered entry

section Converse
variable {o : Observed P} {s : System P} {p : P} {c : Pending}

theorem zero_unanswered (wanted : Wanted operation) : ¬ Answered (operation,0) := by
  rintro (again | ⟨_,moved⟩)
  · simp [eagain] at again
  · have one : (1 : Int) ≤ 0 := moved wanted
    omega

theorem unfree_dooms (o : Observed P) (event : Event P) (consistent : Consistent o.system)
    (allowed : observed.Allowed o event) (honoured : Honoured (observed.apply o event)) (unfree : ¬ Free o.system event) :
    Dooms (observed.apply o event) := by
  cases event with
  | opens file => exact absurd trivial unfree
  | releases file => exact absurd trivial unfree
  | call p file nonblock operation => exact absurd trivial unfree
  | step p =>
      simp only [Free] at unfree
      push Not at unfree
      obtain ⟨c,member,nonblock,stuck⟩ := unfree
      have at' : o.system.calls p = some c := member
      have stepped : (observed.apply o (.step p)).system = advance o.system p c := by simp [observed,processes,at']
      by_cases waits : c.pc = .joined → ready c.operation o.system.device = true
      · obtain ⟨pc,wanted,empty⟩ := stuck waits
        have none : (runSection c.operation o.system.device).i = 0 := by
          by_contra some
          exact empty ((runSection_moves consistent.valid wanted).mp (Nat.pos_of_ne_zero some))
        refine .inl ⟨p,{c with pc := .up 0},?_,nonblock,wanted,.inl rfl⟩
        rw [stepped]
        simp [advance,pc,goto,none]
      · obtain ⟨pc,unready⟩ := Classical.not_imp.mp waits
        have asleep : (observed.apply o (.step p)).system.calls p = some {c with pc := .asleep} := by
          rw [stepped]
          simp [advance,pc,goto,unready]
        exact absurd rfl (honoured.awake p _ asleep nonblock)
  | signal p =>
      simp only [Free] at unfree
      push Not at unfree
      obtain ⟨c,member,nonblock,pc⟩ := unfree
      have at' : o.system.calls p = some c := member
      have entry : (c.operation,-erestartsys) ∈ (observed.apply o (.signal p)).answers := by
        simp [observed,processes,answersOf,answered,at',interrupt,pc,finish,nonblock]
      have answer := honoured.answers _ entry
      simp [Answered,eagain,erestartsys] at answer

theorem goto_other {q : P} {pc : Pc} (other : q ≠ p) (found : s.calls q = some e) :
    (goto s p c pc).calls q = some e := goto_calls.mpr (.inr ⟨other,found⟩)

theorem finish_other {q : P} {value : Int} (other : q ≠ p) (found : s.calls q = some e) :
    (finish s p c value).calls q = some e := finish_calls.mpr ⟨other,found⟩

theorem advance_other {q : P} (other : q ≠ p) (found : s.calls q = some e) (busy : e.pc ≠ .asleep) :
    (advance s p c).calls q = some e := by
  unfold advance
  split
  case h_1 =>
      split
      · exact finish_other other found
      · exact goto_other other found
  case h_2 => exact goto_other other found
  case h_3 => exact goto_other other found
  case h_4 => exact found
  case h_5 => exact goto_other (s:={s with sema := s.sema-1}) other found
  case h_6 => exact goto_other (s:={s with device := (runSection c.operation s.device).device}) other found
  case h_7 => exact goto_other (s:={s with sema := s.sema+1}) other found
  case h_8 =>
      refine finish_other other ?_
      split
      · exact wakeUp_calls.mpr ⟨e,found,roused_busy busy⟩
      · exact found

theorem interrupt_other {q : P} (other : q ≠ p) (found : s.calls q = some e) :
    (interrupt s p c).calls q = some e := by
  unfold interrupt
  split
  case h_1 => exact goto_other other found
  case h_2 => exact finish_other other found
  case h_3 => exact found

theorem doomed_busy (doomed : Doomed c) : c.pc ≠ .asleep := by
  rcases doomed.2 with pc | pc <;> simp [pc]

theorem doomed_advance (at' : s.calls p = some c) (nonblock : c.nonblock = true) (doomed : Doomed c) :
    (∃ e,(advance s p c).calls p = some e ∧ e.nonblock = true ∧ Doomed e) ∨
      (c.operation,0) ∈ answered s (advance s p c) p := by
  obtain ⟨wanted,pc | pc⟩ := doomed
  · exact .inl ⟨{c with pc := .wake 0},by simp [advance,pc,goto],nonblock,wanted,.inr rfl⟩
  · right
    have returns : advance s p c = finish s p c 0 := by simp [advance,pc]
    rw [returns,answered_finish at']
    simp [nonblock]

theorem apply_dooms (o : Observed P) (event : Event P) (dooms : Dooms o) (allowed : observed.Allowed o event) :
    Dooms (observed.apply o event) := by
  rcases dooms with ⟨p,c,at',nonblock,doomed⟩ | ⟨entry,member,wrong⟩
  · cases event with
    | opens file => exact .inl ⟨p,c,at',nonblock,doomed⟩
    | releases file => exact .inl ⟨p,c,at',nonblock,doomed⟩
    | call q file other operation =>
        have different : p ≠ q := by
          rintro rfl
          have free := allowed.1
          simp [at'] at free
        have kept : (goto o.system q ⟨file,other,operation,.check⟩ .check).calls p = some c := goto_other different at'
        exact .inl ⟨p,c,kept,nonblock,doomed⟩
    | step q =>
        by_cases same : p = q
        · subst q
          have stepped : processes.apply o.system (.step p) = advance o.system p c := by simp [processes,at']
          rcases doomed_advance at' nonblock doomed with ⟨e,found,blocks,still⟩ | answer
          · exact .inl ⟨p,e,(congrArg (·.calls p) stepped).trans found,blocks,still⟩
          · refine .inr ⟨(c.operation,0),List.mem_append_right _ ?_,zero_unanswered doomed.1⟩
            simpa only [answersOf,stepped] using answer
        · refine .inl ⟨p,c,?_,nonblock,doomed⟩
          cases other : o.system.calls q with
          | none => simpa [observed,processes,other] using at'
          | some e =>
              have kept := advance_other (c:=e) same at' (doomed_busy doomed)
              simpa [observed,processes,other] using kept
    | signal q =>
        by_cases same : p = q
        · subst q
          have idle : interrupt o.system p c = o.system := by
            rcases doomed.2 with pc | pc <;> simp [interrupt,pc]
          exact .inl ⟨p,c,by simp [observed,processes,at',idle],nonblock,doomed⟩
        · refine .inl ⟨p,c,?_,nonblock,doomed⟩
          cases other : o.system.calls q with
          | none => simpa [observed,processes,other] using at'
          | some e =>
              have kept := interrupt_other (c:=e) same at'
              simpa [observed,processes,other] using kept
  · exact .inr ⟨entry,List.mem_append_left _ member,wrong⟩

end Converse

omit [DecidableEq P] in
theorem start_sound : Sound (start : Observed P) :=
  ⟨loaded_consistent,by simp [Honest,start,loaded],by simp [start]⟩

-- O_NONBLOCK is honoured in a run whose steps are all free, and in a run that
-- honoured it and let every call return no other step was taken.
theorem nonblock_honoured_iff (events : List (Event P)) (path : observed.Runs start events) :
    (observed.Along (fun o event => Free o.system event) start events →
      observed.Throughout Honoured start events) ∧
    ((∀ p,(observed.run start events).system.calls p = none) → observed.Throughout Honoured start events →
      observed.Along (fun o event => Free o.system event) start events) := by
  constructor
  · intro free
    exact (Machine.throughout_of_invariant apply_sound start_sound (Machine.along_and.mpr ⟨path,free⟩)).imp Sound.honoured
  · intro returned honoured
    refine Machine.along_of_doomed
      (fun o event consistent allowed => consistent_step o.system event consistent allowed) ?_ ?_ loaded_consistent path
      honoured (?_ : ¬ Dooms (observed.run start events))
    · exact fun o event consistent allowed holds unfree => unfree_dooms o event consistent allowed holds unfree
    · exact fun o event _ allowed dooms => apply_dooms o event dooms allowed
    · rintro (⟨p,c,found,_⟩ | ⟨entry,member,wrong⟩)
      · rw [returned p] at found
        cases found
      · exact wrong (honoured.last.answers entry member)

def NeverAsleep (s : System P) : Prop := ∀ p c,s.calls p = some c → c.nonblock = true → c.pc ≠ .asleep

def Passes (s : System P) : Event P → Prop
  | .step p => ∀ c,s.calls p = some c → c.nonblock = true → c.pc = .joined → ready c.operation s.device = true
  | .opens _ | .releases _ | .call _ _ _ _ | .signal _ => True

section Sleeps
variable {s : System P} {p : P} {c : Pending} {pc : Pc}

theorem asleep_goto (awake : NeverAsleep s) : NeverAsleep (goto s p c pc) ↔ (c.nonblock = true → pc ≠ .asleep) := by
  constructor
  · intro after nonblock
    exact after p {c with pc := pc} (goto_calls.mpr (.inl ⟨rfl,rfl⟩)) nonblock
  · intro stays q e reached nonblock
    rcases goto_calls.mp reached with ⟨_,rfl⟩ | ⟨_,old⟩
    · exact stays nonblock
    · exact awake q e old nonblock

theorem asleep_finish (awake : NeverAsleep s) (value : Int) : NeverAsleep (finish s p c value) :=
  fun q e reached => awake q e (finish_calls.mp reached).2

omit [DecidableEq P] in
theorem asleep_wakeUp (awake : NeverAsleep s) (operation : Operation) : NeverAsleep (wakeUp s operation) := by
  intro q e reached nonblock
  obtain ⟨before,old,rfl⟩ := wakeUp_calls.mp reached
  unfold roused at nonblock ⊢
  split at nonblock
  · rename_i rouses
    rw [if_pos rouses]
    simp
  · rename_i leaves
    rw [if_neg leaves]
    exact awake q before old nonblock

theorem asleep_advance (awake : NeverAsleep s) :
    NeverAsleep (advance s p c) ↔ (c.nonblock = true → c.pc = .joined → ready c.operation s.device = true) := by
  unfold advance
  split
  case h_1 pc =>
      refine iff_of_true ?_ (by simp [pc])
      split
      · exact asleep_finish awake _
      · exact (asleep_goto awake).mpr (by simp)
  case h_2 pc =>
      refine iff_of_true ((asleep_goto awake).mpr fun _ => ?_) (by simp [pc])
      split <;> simp
  case h_3 pc =>
      rw [asleep_goto awake]
      cases ready c.operation s.device <;> simp [pc]
  case h_4 pc => exact iff_of_true awake (by simp [pc])
  case h_5 pc => exact iff_of_true ((asleep_goto (s:={s with sema := s.sema-1}) awake).mpr (by simp)) (by simp [pc])
  case h_6 pc =>
      exact iff_of_true ((asleep_goto (s:={s with device := (runSection c.operation s.device).device}) awake).mpr
        (by simp)) (by simp [pc])
  case h_7 i pc => exact iff_of_true ((asleep_goto (s:={s with sema := s.sema+1}) awake).mpr (by simp)) (by simp [pc])
  case h_8 i pc =>
      refine iff_of_true (asleep_finish ?_ _) (by simp [pc])
      split
      · exact asleep_wakeUp awake _
      · exact awake

theorem asleep_exact (s : System P) (event : Event P) (awake : NeverAsleep s) (_ : processes.Allowed s event) :
    Passes s event ↔ NeverAsleep (processes.apply s event) := by
  cases event with
  | opens file => exact iff_of_true trivial awake
  | releases file => exact iff_of_true trivial awake
  | call p file nonblock operation =>
      have entered : NeverAsleep (goto s p ⟨file,nonblock,operation,.check⟩ .check) := (asleep_goto awake).mpr (by simp)
      exact iff_of_true trivial entered
  | step p =>
      cases at' : s.calls p with
      | none => exact iff_of_true (by simp [Passes,at']) (by simpa [processes,at'] using awake)
      | some c =>
          simp only [processes,at',asleep_advance awake,Passes]
          constructor
          · exact fun passes => passes c rfl
          · intro passes e same
            cases Option.some.inj same
            exact passes
  | signal p =>
      refine iff_of_true trivial ?_
      cases at' : s.calls p with
      | none => simpa [processes,at'] using awake
      | some c =>
          simp only [processes,at',interrupt]
          split
          · exact (asleep_goto awake).mpr (by simp)
          · exact asleep_finish awake _
          · exact awake

end Sleeps

theorem never_asleep_iff (events : List (Event P)) (path : processes.Runs loaded events) :
    processes.Throughout NeverAsleep loaded events ↔ processes.Along Passes loaded events :=
  Machine.throughout_exact (fun s (awake : NeverAsleep s) => awake) asleep_exact
    (fun s event awake allowed passes => (asleep_exact s event awake allowed).mp passes) (by simp [NeverAsleep,loaded]) path

def undrained : List (Event Unit) := .opens 0 :: whole () (.write [7]) ++ (.call () 0 true (.read 4) :: steps () 6)

theorem nonblock_honoured_undrained : observed.Throughout Honoured start undrained :=
  (nonblock_honoured_iff undrained (by decide +kernel)).1 (by decide +kernel)

def drained : List (Event Bool) :=
  .opens 0 :: whole true (.write [7]) ++ [.call false 0 true (.read 1),.step false] ++
    (.call true 0 true (.read 1) :: steps true 6) ++ [.step false,.step false]

theorem nonblock_sleeps :
    observed.Runs start drained ∧ ¬ observed.Throughout Honoured start drained := by
  refine ⟨by decide +kernel,?_⟩
  intro honoured
  have asleep : (observed.run start drained).system.calls false = some ⟨0,true,.read 1,.asleep⟩ := rfl
  exact honoured.last.awake false _ asleep rfl rfl

end LinuxDeviceDrivers.PollNonblock
