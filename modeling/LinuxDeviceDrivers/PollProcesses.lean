import Mathlib.Data.Fintype.Basic
import LinuxDeviceDrivers.PollQueue

namespace LinuxDeviceDrivers.PollProcesses
open Transition PollDevice PollQueue

inductive Operation where
  | read (len : Nat)
  | write (bytes : List UInt8)
  deriving DecidableEq, Repr

-- Where a process stands in device_read or device_write. A process between
-- `joined` and `asleep` is on the wait queue; one between `copy` and `up` holds
-- the semaphore; `i` is the counter its copy loop ended with.
inductive Pc where
  | check
  | test
  | joined
  | asleep
  | acquire
  | copy
  | up (i : Nat)
  | wake (i : Nat)
  deriving DecidableEq, Repr

structure Pending where
  file : Nat
  nonblock : Bool
  operation : Operation
  pc : Pc

structure System (P : Type) where
  device : Device
  sema : Nat
  files : List Nat
  calls : P → Option Pending
  returned : List (Operation × Int)

inductive Event (P : Type) where
  | opens (file : Nat)
  | releases (file : Nat)
  | call (p : P) (file : Nat) (nonblock : Bool) (operation : Operation)
  | step (p : P)
  | signal (p : P)

variable {P : Type} [DecidableEq P]

def loaded : System P := ⟨initial,1,[],fun _ => none,[]⟩

def ready : Operation → Device → Bool
  | .read _,d => !isBufferEmpty d
  | .write _,d => !isBufferFull d

def runSection : Operation → Device → Copied
  | .read len,d => readSection len d
  | .write bytes,d => writeSection bytes d

def Operation.isRead : Operation → Bool
  | .read _ => true
  | .write _ => false

def goto (s : System P) (p : P) (c : Pending) (pc : Pc) : System P :=
  {s with calls := Function.update s.calls p (some {c with pc := pc})}

def finish (s : System P) (p : P) (c : Pending) (value : Int) : System P :=
  {s with calls := Function.update s.calls p none,returned := (c.operation,value) :: s.returned}

-- wake_up_interruptible: whoever sleeps on the other queue tests again.
def roused (operation : Operation) (c : Pending) : Pending :=
  if c.pc = .asleep ∧ c.operation.isRead ≠ operation.isRead then {c with pc := .joined} else c

def wakeUp (s : System P) (operation : Operation) : System P :=
  {s with calls := fun q => (s.calls q).map (roused operation)}

def advance (s : System P) (p : P) (c : Pending) : System P :=
  match c.pc with
  | .check => if !ready c.operation s.device && c.nonblock then finish s p c (-eagain) else goto s p c .test
  | .test => goto s p c (if ready c.operation s.device then .acquire else .joined)
  | .joined => goto s p c (if ready c.operation s.device then .acquire else .asleep)
  | .asleep => s
  | .acquire => goto {s with sema := s.sema-1} p c .copy
  | .copy =>
    let copied := runSection c.operation s.device
    goto {s with device := copied.device} p c (.up copied.i)
  | .up i => goto {s with sema := s.sema+1} p c (.wake i)
  | .wake i => finish (if 0 < i then wakeUp s c.operation else s) p c i

-- A signal ends a sleep, and the caller goes on because the value of
-- wait_event_interruptible is dropped; at the semaphore it ends the call.
def interrupt (s : System P) (p : P) (c : Pending) : System P :=
  match c.pc with
  | .asleep => goto s p c .acquire
  | .acquire => finish s p c (-erestartsys)
  | _ => s

def runnable (s : System P) (c : Pending) : Bool := c.pc != .asleep && (c.pc != .acquire || 0 < s.sema)
def interruptible (s : System P) (c : Pending) : Bool := c.pc == .asleep || (c.pc == .acquire && s.sema == 0)

-- The kernel's part: file objects are distinct, a file is not released while a
-- call on it is in progress, and down_interruptible waits for the semaphore.
def Allowed (s : System P) : Event P → Prop
  | .opens file => file ∉ s.files
  | .releases file => file ∈ s.files ∧ ∀ p, (s.calls p).all (·.file != file) = true
  | .call p file _ _ => (s.calls p).isNone = true ∧ file ∈ s.files
  | .step p => (s.calls p).any (runnable s) = true
  | .signal p => (s.calls p).any (interruptible s) = true

def processes : Machine (System P) (Event P) where
  Allowed := Allowed
  apply s event := match event with
    | .opens file => {s with device := deviceOpen s.device,files := file :: s.files}
    | .releases file => {s with device := deviceRelease s.device,files := s.files.erase file}
    | .call p file nonblock operation =>
      {s with calls := Function.update s.calls p (some ⟨file,nonblock,operation,.check⟩)}
    | .step p => match s.calls p with
      | some c => advance s p c
      | none => s
    | .signal p => match s.calls p with
      | some c => interrupt s p c
      | none => s

instance [Fintype P] (s : System P) (event : Event P) : Decidable (processes.Allowed s event) := by
  cases event <;> (unfold processes Allowed; infer_instance)

def steps (p : P) (count : Nat) : List (Event P) := List.replicate count (.step p)

-- Whether the copy loop finds anything to do: its own first test, which for a
-- write is not the test the caller waited with.
def CanMove : Operation → Device → Prop
  | .read _,d => d.ir ≠ d.iw
  | .write _,d => (d.iw : Int) ≠ stopIndex d

instance (operation : Operation) (d : Device) : Decidable (CanMove operation d) := by
  cases operation <;> (unfold CanMove; infer_instance)

def Wanted : Operation → Prop
  | .read len => 1 ≤ len
  | .write bytes => 1 ≤ bytes.length

section Sections
variable {d : Device}

theorem runSection_valid (valid : Valid d) (operation : Operation) : Valid (runSection operation d).device := by
  cases operation with
  | read len => exact (readSection_transfer valid len).valid
  | write bytes => exact (writeSection_transfer valid bytes).valid

theorem runSection_opens (valid : Valid d) (operation : Operation) :
    (runSection operation d).device.useCount = d.useCount := by
  cases operation with
  | read len => exact (readSection_transfer valid len).opens
  | write bytes => exact (writeSection_transfer valid bytes).opens

theorem canMove_queue (valid : Valid d) (operation : Operation) :
    CanMove operation d ↔ if operation.isRead then queue d ≠ [] else (queue d).length < N-1 := by
  cases operation with
  | read len =>
      have empty := CircularWindow.contents_eq_nil (n:=N) d.rbuf valid.irBound (j:=d.iw)
      simp only [CanMove,Operation.isRead,↓reduceIte,Ne,queue,empty]
  | write bytes =>
      have bound := queue_bounded valid
      simp only [CanMove,Operation.isRead,Bool.false_eq_true,↓reduceIte,Ne,stopIndex_exact valid]
      omega

theorem runSection_moves (valid : Valid d) {operation : Operation} (wanted : Wanted operation) :
    1 ≤ (runSection operation d).i ↔ CanMove operation d := by
  rw [canMove_queue valid]
  cases operation with
  | read len =>
      simp only [Wanted] at wanted
      simp only [runSection,(readSection_transfer valid len).count,List.length_take,Operation.isRead,
        ↓reduceIte,Ne,← List.length_eq_zero_iff]
      omega
  | write bytes =>
      simp only [Wanted] at wanted
      simp only [runSection,(writeSection_transfer valid bytes).count,List.length_take,Operation.isRead,
        Bool.false_eq_true,↓reduceIte]
      omega

theorem runSection_canMove (valid : Valid d) (operation other : Operation)
    (after : CanMove other (runSection operation d).device) :
    CanMove other d ∨ (0 < (runSection operation d).i ∧ other.isRead ≠ operation.isRead) := by
  rw [canMove_queue (runSection_valid valid operation)] at after
  rw [canMove_queue valid]
  cases operation with
  | read len =>
      have moved := readSection_transfer valid len
      cases other with
      | read _ =>
          simp only [runSection,moved.queue,Operation.isRead,↓reduceIte] at after
          exact .inl (fun empty => after (by rw [empty,List.drop_nil]))
      | write _ =>
          have count := moved.count
          simp only [runSection,moved.queue,Operation.isRead,Bool.false_eq_true,↓reduceIte,List.length_drop,
            List.length_take] at after count ⊢
          simp only [ne_eq,Bool.false_eq_true,not_false_eq_true,and_true]
          omega
  | write bytes =>
      have moved := writeSection_transfer valid bytes
      have count := moved.count
      cases other with
      | read _ =>
          by_cases empty : queue d = []
          · right
            simp only [runSection,moved.queue,empty,List.nil_append,List.length_nil,Operation.isRead,
              ↓reduceIte,← List.length_pos_iff] at after
            simp only [empty,List.length_nil] at count
            simp only [runSection,count,after,Operation.isRead,ne_eq,reduceCtorEq,not_false_eq_true,and_self]
          · exact .inl empty
      | write _ =>
          left
          simp only [runSection,moved.queue,Operation.isRead,Bool.false_eq_true,↓reduceIte,
            List.length_append] at after ⊢
          omega

theorem canMove_ready (valid : Valid d) (operation : Operation) (moves : CanMove operation d) :
    ready operation d = true := by
  cases operation with
  | read len => simpa [ready,isBufferEmpty,CanMove] using moves
  | write bytes =>
      have open' : isBufferFull d ≠ true := fun full =>
        moves ((stopIndex_exact valid).mpr ((isBufferFull_exact valid).mp full).1)
      simpa [ready] using open'

theorem deviceOpen_used (d : Device) (used : d.useCount ≠ 0) : deviceOpen d = {d with useCount := d.useCount+1} := by
  simp [deviceOpen,used]

theorem canMove_useCount (operation : Operation) (d : Device) (count : Int) :
    CanMove operation {d with useCount := count} ↔ CanMove operation d := by cases operation <;> exact Iff.rfl

end Sections

section Calls
variable {s : System P} {p q : P} {c e : Pending} {pc : Pc} {operation : Operation}

theorem goto_calls : (goto s p c pc).calls q = some e ↔ (q = p ∧ {c with pc := pc} = e) ∨ (q ≠ p ∧ s.calls q = some e) := by
  by_cases same : q = p
  · subst same; simp [goto]
  · simp [goto,same]

theorem finish_calls {value : Int} : (finish s p c value).calls q = some e ↔ q ≠ p ∧ s.calls q = some e := by
  by_cases same : q = p
  · subst same; simp [finish]
  · simp [finish,same]

omit [DecidableEq P] in
theorem wakeUp_calls : (wakeUp s operation).calls q = some e ↔ ∃ c, s.calls q = some c ∧ roused operation c = e := by
  simp [wakeUp]

theorem roused_same (operation : Operation) (c : Pending) :
    (roused operation c).file = c.file ∧ (roused operation c).operation = c.operation := by
  unfold roused
  split <;> exact ⟨rfl,rfl⟩

theorem roused_awake (other : c.operation.isRead ≠ operation.isRead) : (roused operation c).pc ≠ .asleep := by
  unfold roused
  split
  · simp
  · rename_i still; exact fun asleep => still ⟨asleep,other⟩

theorem roused_busy (busy : c.pc ≠ .asleep) : roused operation c = c := by simp [roused,busy]

def Follows (before after : System P) : Prop :=
  ∀ q e, after.calls q = some e → ∃ c, before.calls q = some c ∧ c.file = e.file ∧ c.operation = e.operation

theorem goto_follows (at' : s.calls p = some c) : Follows s (goto s p c pc) := by
  intro q e reached
  rcases goto_calls.mp reached with ⟨rfl,rfl⟩ | ⟨_,old⟩
  · exact ⟨c,at',rfl,rfl⟩
  · exact ⟨e,old,rfl,rfl⟩

theorem finish_follows {value : Int} : Follows s (finish s p c value) :=
  fun _ e reached => ⟨e,(finish_calls.mp reached).2,rfl,rfl⟩

omit [DecidableEq P] in
theorem wakeUp_follows : Follows s (wakeUp s operation) := by
  intro q e reached
  obtain ⟨c,old,rfl⟩ := wakeUp_calls.mp reached
  exact ⟨c,old,(roused_same _ _).1.symm,(roused_same _ _).2.symm⟩

theorem advance_follows (at' : s.calls p = some c) : Follows s (advance s p c) := by
  unfold advance
  split
  · split
    · exact finish_follows
    · exact goto_follows at'
  · exact goto_follows at'
  · exact goto_follows at'
  · exact fun _ e reached => ⟨e,reached,rfl,rfl⟩
  · exact goto_follows (s:={s with sema := s.sema-1}) at'
  · exact goto_follows (s:={s with device := (runSection c.operation s.device).device}) at'
  · exact goto_follows (s:={s with sema := s.sema+1}) at'
  · intro q e reached
    have old := (finish_calls.mp reached).2
    split at old
    · exact wakeUp_follows q e old
    · exact ⟨e,old,rfl,rfl⟩

theorem interrupt_follows (at' : s.calls p = some c) : Follows s (interrupt s p c) := by
  unfold interrupt
  split
  · exact goto_follows at'
  · exact finish_follows
  · exact fun _ e reached => ⟨e,reached,rfl,rfl⟩

end Calls

-- The indices stay in the ring, and use_count is the number of open files, so
-- no open resets the ring under a call in progress.
structure Consistent (s : System P) : Prop where
  valid : Valid s.device
  counted : s.device.useCount = s.files.length
  opened : ∀ p c, s.calls p = some c → c.file ∈ s.files

omit [DecidableEq P] in
theorem loaded_consistent : Consistent (loaded : System P) := ⟨initial_valid,rfl,by simp [loaded]⟩

omit [DecidableEq P] in
theorem Consistent.used {s : System P} (consistent : Consistent s) {p : P} {c : Pending} (at' : s.calls p = some c) :
    s.device.useCount ≠ 0 := by
  have nonempty := List.length_pos_of_mem (consistent.opened p c at')
  have counted := consistent.counted
  omega

omit [DecidableEq P] in
theorem Consistent.followed {s t : System P} (consistent : Consistent s) (follows : Follows s t)
    (valid : Valid t.device) (opens : t.device.useCount = s.device.useCount) (files : t.files = s.files) :
    Consistent t := by
  refine ⟨valid,by rw [opens,files]; exact consistent.counted,?_⟩
  intro q e reached
  obtain ⟨c,old,file,_⟩ := follows q e reached
  rw [files,← file]
  exact consistent.opened q c old

theorem advance_shared (s : System P) (p : P) (c : Pending) : (advance s p c).files = s.files ∧
    (advance s p c).device = if c.pc = .copy then (runSection c.operation s.device).device else s.device := by
  unfold advance
  split
  case h_1 pc => rw [pc]; split <;> exact ⟨rfl,rfl⟩
  case h_6 pc => rw [pc]; exact ⟨rfl,rfl⟩
  case h_8 pc => rw [pc]; simp only [finish,wakeUp]; split <;> exact ⟨rfl,rfl⟩
  all_goals rename_i pc; rw [pc]; exact ⟨rfl,rfl⟩

theorem interrupt_shared (s : System P) (p : P) (c : Pending) :
    (interrupt s p c).files = s.files ∧ (interrupt s p c).device = s.device := by
  unfold interrupt
  split <;> exact ⟨rfl,rfl⟩

theorem consistent_step (s : System P) (event : Event P) (consistent : Consistent s)
    (allowed : processes.Allowed s event) : Consistent (processes.apply s event) := by
  obtain ⟨valid,counted,opened⟩ := consistent
  cases event with
  | opens file =>
      refine ⟨deviceOpen_valid valid,?_,fun p c at' => List.mem_cons_of_mem _ (opened p c at')⟩
      change (deviceOpen s.device).useCount = ((file :: s.files).length : Nat)
      have count : (deviceOpen s.device).useCount = s.device.useCount+1 := by unfold deviceOpen; split <;> rfl
      rw [count,counted,List.length_cons]
      rfl
  | releases file =>
      obtain ⟨present,unused⟩ := allowed
      refine ⟨⟨valid.irBound,valid.iwBound⟩,?_,?_⟩
      · change s.device.useCount-1 = ((s.files.erase file).length : Nat)
        have nonempty := List.length_pos_of_mem present
        rw [counted,List.length_erase_of_mem present]
        omega
      · intro p c at'
        have free := unused p
        rw [show s.calls p = some c from at'] at free
        have other : c.file ≠ file := by simpa using free
        exact (List.mem_erase_of_ne other).mpr (opened p c at')
  | call p file nonblock operation =>
      refine ⟨valid,counted,?_⟩
      intro q e at'
      by_cases same : q = p
      · subst same
        have entered : ⟨file,nonblock,operation,.check⟩ = e := by simpa [processes] using at'
        subst entered
        exact allowed.2
      · exact opened q e (by simpa [processes,same] using at')
  | step p =>
      cases at' : s.calls p with
      | none => simpa [processes,at'] using Consistent.mk valid counted opened
      | some c =>
          have shared := advance_shared s p c
          have consistent := Consistent.mk valid counted opened
          simp only [processes,at']
          refine consistent.followed (advance_follows at') ?_ ?_ shared.1
          · rw [shared.2]
            split
            · exact runSection_valid valid c.operation
            · exact valid
          · rw [shared.2]
            split
            · exact runSection_opens valid c.operation
            · rfl
  | signal p =>
      cases at' : s.calls p with
      | none => simpa [processes,at'] using Consistent.mk valid counted opened
      | some c =>
          have shared := interrupt_shared s p c
          have consistent := Consistent.mk valid counted opened
          simp only [processes,at']
          exact consistent.followed (interrupt_follows at') (by rw [shared.2]; exact valid) (by rw [shared.2]) shared.1

end LinuxDeviceDrivers.PollProcesses
