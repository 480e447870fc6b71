import LinuxDeviceDrivers.PollProcesses

namespace LinuxDeviceDrivers.PollWakeups
open Transition PollDevice PollQueue PollProcesses

variable {P : Type} [DecidableEq P]

-- A process that moved bytes and has yet to wake the other side.
def Announced (s : System P) (operation : Operation) : Prop :=
  ∃ q e i, s.calls q = some e ∧ 0 < i ∧ (e.pc = .up i ∨ e.pc = .wake i) ∧ operation.isRead ≠ e.operation.isRead

-- Nobody sleeps on a ring that has something for it, unless its wake-up is due.
def Awake (s : System P) : Prop :=
  ∀ p c, s.calls p = some c → c.pc = .asleep → CanMove c.operation s.device → Announced s c.operation

section Steps
variable {s t : System P} {p : P} {c : Pending} {pc : Pc} {operation : Operation}

theorem announced_goto (at' : s.calls p = some c) (stays : ∀ i, c.pc = .up i ∨ c.pc = .wake i → pc = .wake i)
    (old : Announced s operation) : Announced (goto s p c pc) operation := by
  obtain ⟨q,e,i,found,positive,standing,side⟩ := old
  by_cases same : q = p
  · subst same
    obtain rfl : c = e := Option.some.inj (at'.symm.trans found)
    exact ⟨q,{c with pc := pc},i,goto_calls.mpr (.inl ⟨rfl,rfl⟩),positive,.inr (stays i standing),side⟩
  · exact ⟨q,e,i,goto_calls.mpr (.inr ⟨same,found⟩),positive,standing,side⟩

theorem announced_finish {value : Int} (at' : s.calls p = some c) (quiet : ∀ i, 0 < i → c.pc ≠ .up i ∧ c.pc ≠ .wake i)
    (old : Announced s operation) : Announced (finish s p c value) operation := by
  obtain ⟨q,e,i,found,positive,standing,side⟩ := old
  have different : q ≠ p := by
    rintro rfl
    obtain rfl : c = e := Option.some.inj (at'.symm.trans found)
    exact standing.elim (quiet i positive).1 (quiet i positive).2
  exact ⟨q,e,i,finish_calls.mpr ⟨different,found⟩,positive,standing,side⟩

theorem awake_goto (awake : Awake s) (at' : s.calls p = some c) (up : pc ≠ .asleep)
    (stays : ∀ i, c.pc = .up i ∨ c.pc = .wake i → pc = .wake i) : Awake (goto s p c pc) := by
  intro q e reached asleep moves
  rcases goto_calls.mp reached with ⟨rfl,rfl⟩ | ⟨_,old⟩
  · exact absurd asleep up
  · exact announced_goto at' stays (awake q e old asleep moves)

theorem awake_finish {value : Int} (awake : Awake s) (at' : s.calls p = some c)
    (quiet : ∀ i, 0 < i → c.pc ≠ .up i ∧ c.pc ≠ .wake i) : Awake (finish s p c value) :=
  fun q e reached asleep moves =>
    announced_finish at' quiet (awake q e (finish_calls.mp reached).2 asleep moves)

theorem awake_copy (valid : Valid s.device) (awake : Awake s) (at' : s.calls p = some c) (copying : c.pc = .copy) :
    Awake (goto {s with device := (runSection c.operation s.device).device} p c
      (.up (runSection c.operation s.device).i)) := by
  intro q e reached asleep moves
  rcases goto_calls.mp reached with ⟨rfl,rfl⟩ | ⟨other,old⟩
  · cases asleep
  · rcases runSection_canMove valid c.operation e.operation moves with before | ⟨moved,side⟩
    · exact announced_goto (s:={s with device := (runSection c.operation s.device).device}) at'
        (by simp [copying]) (awake q e old asleep before)
    · exact ⟨p,{c with pc := .up (runSection c.operation s.device).i},_,
        goto_calls.mpr (.inl ⟨rfl,rfl⟩),moved,.inl rfl,side⟩

-- Whoever still sleeps after the wake-up is on the waker's own side, so that
-- another process has something to announce to it.
theorem awake_wakeUp {value : Int} (awake : Awake s) (at' : s.calls p = some c) :
    Awake (finish (wakeUp s c.operation) p c value) := by
  intro q e reached asleep moves
  obtain ⟨other,old⟩ := finish_calls.mp reached
  obtain ⟨before,found,rfl⟩ := wakeUp_calls.mp old
  have same := roused_same c.operation before
  have sleeping : before.pc = .asleep := by
    by_contra busy
    rw [roused_busy busy] at asleep
    exact busy asleep
  have side : before.operation.isRead = c.operation.isRead := by
    by_contra opposite
    exact roused_awake opposite asleep
  rw [same.2] at moves ⊢
  obtain ⟨r,announcer,j,at'',positive,standing,opposite⟩ := awake q before found sleeping moves
  have different : r ≠ p := by
    rintro rfl
    obtain rfl : c = announcer := Option.some.inj (at'.symm.trans at'')
    exact opposite side
  have busy : announcer.pc ≠ .asleep := by rcases standing with pc | pc <;> simp [pc]
  exact ⟨r,announcer,j,finish_calls.mpr ⟨different,wakeUp_calls.mpr ⟨announcer,at'',roused_busy busy⟩⟩,
    positive,standing,opposite⟩

theorem awake_advance (valid : Valid s.device) (awake : Awake s) (at' : s.calls p = some c)
    (running : c.pc ≠ .asleep) : Awake (advance s p c) := by
  unfold advance
  split
  case h_1 pc =>
      split
      · exact awake_finish awake at' (by simp [pc])
      · exact awake_goto awake at' (by simp) (by simp [pc])
  case h_2 pc => exact awake_goto awake at' (by split <;> simp) (by simp [pc])
  case h_3 pc =>
      -- the second test: a process goes to sleep only on a ring with nothing for it
      intro q e reached asleep moves
      rcases goto_calls.mp reached with ⟨rfl,rfl⟩ | ⟨other,old⟩
      · have passed := canMove_ready valid c.operation moves
        simp [passed] at asleep
      · exact announced_goto at' (by simp [pc]) (awake q e old asleep moves)
  case h_4 pc => exact absurd pc running
  case h_5 pc => exact awake_goto (s:={s with sema := s.sema-1}) awake at' (by simp) (by simp [pc])
  case h_6 pc => exact awake_copy valid awake at' pc
  case h_7 i pc =>
      exact awake_goto (s:={s with sema := s.sema+1}) awake at' (by simp) (by simp [pc])
  case h_8 i pc =>
      by_cases moved : 0 < i
      · rw [if_pos moved]
        exact awake_wakeUp awake at'
      · rw [if_neg moved]
        apply awake_finish awake at'
        intro other positive
        rw [pc]
        refine ⟨Pc.noConfusion,?_⟩
        rintro ⟨⟩
        exact moved positive

theorem awake_interrupt (awake : Awake s) (at' : s.calls p = some c) : Awake (interrupt s p c) := by
  unfold interrupt
  split
  case h_1 pc => exact awake_goto awake at' (by simp) (by simp [pc])
  case h_2 pc => exact awake_finish awake at' (by simp [pc])
  case h_3 => exact awake

end Steps

theorem awake_step (s : System P) (event : Event P) (sound : Consistent s ∧ Awake s)
    (allowed : processes.Allowed s event) :
    Consistent (processes.apply s event) ∧ Awake (processes.apply s event) := by
  refine ⟨consistent_step s event sound.1 allowed,?_⟩
  obtain ⟨consistent,awake⟩ := sound
  cases event with
  | opens file =>
      intro p c at' asleep moves
      have same := deviceOpen_used s.device (consistent.used at')
      change CanMove c.operation (deviceOpen s.device) at moves
      rw [same,canMove_useCount] at moves
      exact awake p c at' asleep moves
  | releases file =>
      exact fun p c at' asleep moves => awake p c at' asleep ((canMove_useCount _ _ _).mp moves)
  | call p file nonblock operation =>
      intro q e at' asleep moves
      by_cases same : q = p
      · subst same
        have entered : ⟨file,nonblock,operation,.check⟩ = e := by simpa [processes] using at'
        subst entered
        cases asleep
      · obtain ⟨r,announcer,j,found,positive,standing,side⟩ :=
          awake q e (by simpa [processes,same] using at') asleep moves
        have different : r ≠ p := by
          rintro rfl
          have free := allowed.1
          simp [found] at free
        exact ⟨r,announcer,j,by simpa [processes,different] using found,positive,standing,side⟩
  | step p =>
      cases at' : s.calls p with
      | none => simpa only [processes,at'] using awake
      | some c =>
          have running : c.pc ≠ .asleep := by
            have able : (s.calls p).any (runnable s) = true := allowed
            intro asleep
            simp [at',runnable,asleep] at able
          simpa only [processes,at'] using awake_advance consistent.valid awake at' running
  | signal p =>
      cases at' : s.calls p with
      | none => simpa only [processes,at'] using awake
      | some c => simpa only [processes,at'] using awake_interrupt awake at'

theorem run_sound (events : List (Event P)) (path : processes.Runs loaded events) :
    Consistent (processes.run loaded events) ∧ Awake (processes.run loaded events) :=
  Machine.invariant awake_step ⟨loaded_consistent,by simp [Awake,loaded]⟩ path

def settled (c : Pending) : Bool :=
  match c.pc with
  | .copy | .up _ | .wake _ => false
  | _ => true

theorem no_lost_wakeup (events : List (Event P)) (path : processes.Runs loaded events)
    (quiet : ∀ p, ((processes.run loaded events).calls p).all settled = true) :
    let s := processes.run loaded events
    (¬ ∃ p c len, s.calls p = some c ∧ c.operation = .read len ∧ c.pc = .asleep ∧ queue s.device ≠ []) ∧
    ¬ ∃ p c bytes, s.calls p = some c ∧ c.operation = .write bytes ∧ c.pc = .asleep ∧ (queue s.device).length < N-1 := by
  intro s
  obtain ⟨consistent,awake⟩ := run_sound events path
  have silent : ∀ operation, ¬ Announced s operation := by
    rintro operation ⟨q,e,i,found,_,standing,_⟩
    have calm := quiet q
    rw [show (processes.run loaded events).calls q = some e from found] at calm
    rcases standing with pc | pc <;> simp [settled,pc] at calm
  refine ⟨?_,?_⟩
  · rintro ⟨p,c,len,found,operation,asleep,some'⟩
    refine silent _ (awake p c found asleep ((canMove_queue consistent.valid _).mpr ?_))
    rw [operation]
    exact some'
  · rintro ⟨p,c,bytes,found,operation,asleep,room⟩
    refine silent _ (awake p c found asleep ((canMove_queue consistent.valid _).mpr ?_))
    rw [operation]
    exact room

def slumber : List (Event Bool) :=
  [.opens 0,.call true 0 false (.read 4)] ++ steps true 3 ++ [.call false 0 false (.write [7])] ++ steps false 6 ++
    steps true 5 ++ [.call true 0 false (.read 4)] ++ steps true 3

theorem no_lost_wakeup_slumber :
    ¬ ∃ p c len, (processes.run loaded slumber).calls p = some c ∧ c.operation = .read len ∧ c.pc = .asleep ∧
      queue (processes.run loaded slumber).device ≠ [] :=
  (no_lost_wakeup slumber (by decide) (by decide)).1

end LinuxDeviceDrivers.PollWakeups
