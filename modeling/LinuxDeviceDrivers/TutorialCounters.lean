import LinuxDeviceDrivers.Transition

namespace LinuxDeviceDrivers.TutorialCounters
open Transition

section AtomicThreads

-- A thread function stands before the operation named. `prevValue` is what
-- test_and_change_bit found; a printed line holds it with the value read.
inductive Place where
  | asksWhetherToStop
  | increments
  | changesBit
  | prints
  | sleeps
  | returned
deriving DecidableEq

structure Thread where
  place : Place := .asksWhetherToStop
  prevValue : Bool := false
  lines : List (BitVec 32 × Bool) := []

structure System where
  etxGlobalVariable : BitVec 32 := 0#32
  etcBitCheck : BitVec 32 := 0#32
  first : Thread := {}
  second : Thread := {}

inductive Event where
  | runs (second shouldStop : Bool)

def System.thread (s : System) (second : Bool) : Thread := if second then s.second else s.first

def System.put (thread : Thread) (second : Bool) (s : System) : System :=
  if second then {s with second := thread} else {s with first := thread}

def threadFunction (second shouldStop : Bool) (s : System) : System :=
  let t := s.thread second
  match t.place with
  | .asksWhetherToStop => s.put {t with place := if shouldStop then .returned else .increments} second
  | .increments => {s with etxGlobalVariable := s.etxGlobalVariable+1#32}.put {t with place := .changesBit} second
  | .changesBit =>
      {s with etcBitCheck := s.etcBitCheck ^^^ 2#32}.put {t with place := .prints,prevValue := s.etcBitCheck.getLsbD 1} second
  | .prints => s.put {t with place := .sleeps,lines := (s.etxGlobalVariable,t.prevValue) :: t.lines} second
  | .sleeps => s.put {t with place := .asksWhetherToStop} second
  | .returned => s

def threads : Machine System Event where
  Allowed _ _ := True
  apply s event := match event with
    | .runs second shouldStop => threadFunction second shouldStop s

def Place.incremented : Place → Nat
  | changesBit | prints => 1
  | _ => 0
def Place.changed : Place → Nat
  | prints => 1
  | _ => 0

def Thread.increments (t : Thread) : Nat := t.lines.length+t.place.incremented
def Thread.changes (t : Thread) : Nat := t.lines.length+t.place.changed
def Thread.foundSet (t : Thread) : Nat := t.lines.countP (·.2)+t.place.changed*t.prevValue.toNat

def System.total (count : Thread → Nat) (s : System) : Nat := count s.first+count s.second

-- No increment is lost, and the threads find the bit clear and set in turn.
structure Tally (value bit : BitVec 32) (increments changes found : Nat) : Prop where
  value : value = BitVec.ofNat 32 increments
  bit : bit = if changes%2 = 1 then 2#32 else 0#32
  found : found = changes/2

def Accounted (s : System) : Prop :=
  Tally s.etxGlobalVariable s.etcBitCheck (s.total Thread.increments) (s.total Thread.changes) (s.total Thread.foundSet)

theorem Tally.increment {value bit : BitVec 32} (tally : Tally value bit increments changes sets) :
    Tally (value+1#32) bit (increments+1) changes sets :=
  ⟨by rw [BitVec.ofNat_add,← tally.value],tally.bit,tally.found⟩

theorem Tally.change {value bit : BitVec 32} (tally : Tally value bit increments changes sets) :
    Tally value (bit ^^^ 2#32) increments (changes+1) (sets+(bit.getLsbD 1).toNat) := by
  refine ⟨tally.value,?_,?_⟩
  · rw [tally.bit]
    split
    · rw [if_neg (by omega)]
      rfl
    · rw [if_pos (by omega)]
      rfl
  · rw [tally.bit,tally.found]
    split
    · change changes/2+1 = (changes+1)/2
      omega
    · change changes/2+0 = (changes+1)/2
      omega

theorem total_put (count : Thread → Nat) (thread : Thread) (second : Bool) (s : System) :
    (s.put thread second).total count+count (s.thread second) = s.total count+count thread := by
  cases second with
  | false => simp only [System.put,System.total,System.thread,Bool.false_eq_true,if_false]; omega
  | true => simp only [System.put,System.total,System.thread,if_true]; omega

theorem put_accounted {s : System} {thread : Thread} {second : Bool} {value bit : BitVec 32} {increment change found : Nat}
    (increments : thread.increments = (s.thread second).increments+increment)
    (changes : thread.changes = (s.thread second).changes+change)
    (founds : thread.foundSet = (s.thread second).foundSet+found)
    (tally : Tally value bit (s.total Thread.increments+increment) (s.total Thread.changes+change) (s.total Thread.foundSet+found)) :
    Accounted ({s with etxGlobalVariable := value,etcBitCheck := bit}.put thread second) := by
  let shared : System := {s with etxGlobalVariable := value,etcBitCheck := bit}
  have totals : ∀ (count : Thread → Nat) (added : Nat),count thread = count (s.thread second)+added →
      (shared.put thread second).total count = s.total count+added := by
    intro count added more
    have moved := total_put count thread second shared
    have same : shared.thread second = s.thread second := by cases second <;> rfl
    have before : shared.total count = s.total count := rfl
    rw [same,before,more] at moved
    omega
  have sharedValues : (shared.put thread second).etxGlobalVariable = value ∧ (shared.put thread second).etcBitCheck = bit := by
    cases second <;> exact ⟨rfl,rfl⟩
  change Accounted (shared.put thread second)
  rw [Accounted,sharedValues.1,sharedValues.2,totals _ _ increments,totals _ _ changes,totals _ _ founds]
  exact tally

theorem put_unchanged {s : System} {thread : Thread} {second : Bool} (accounted : Accounted s)
    (increments : thread.increments = (s.thread second).increments) (changes : thread.changes = (s.thread second).changes)
    (founds : thread.foundSet = (s.thread second).foundSet) : Accounted (s.put thread second) :=
  put_accounted (show _ = _+0 from increments) (show _ = _+0 from changes) (show _ = _+0 from founds) accounted

theorem threadFunction_accounted (second shouldStop : Bool) (s : System) (accounted : Accounted s) :
    Accounted (threadFunction second shouldStop s) := by
  unfold threadFunction
  dsimp only
  cases place : (s.thread second).place with
  | asksWhetherToStop =>
      refine put_unchanged accounted ?_ ?_ ?_
      · cases shouldStop <;> simp [Thread.increments,Place.incremented,place]
      · cases shouldStop <;> simp [Thread.changes,Place.changed,place]
      · cases shouldStop <;> simp [Thread.foundSet,Place.changed,place]
  | increments =>
      refine put_accounted (show _ = _+1 from ?_) (show _ = _+0 from ?_) (show _ = _+0 from ?_) accounted.increment
      · simp [Thread.increments,Place.incremented,place]
      · simp [Thread.changes,Place.changed,place]
      · simp [Thread.foundSet,Place.changed,place]
  | changesBit =>
      refine put_accounted (show _ = _+0 from ?_) (show _ = _+1 from ?_) (show _ = _+(s.etcBitCheck.getLsbD 1).toNat from ?_)
        accounted.change
      · simp [Thread.increments,Place.incremented,place]
      · simp [Thread.changes,Place.changed,place]
      · simp [Thread.foundSet,Place.changed,place]
  | prints =>
      refine put_unchanged accounted ?_ ?_ ?_
      · simp [Thread.increments,Place.incremented,place]
      · simp [Thread.changes,Place.changed,place]
      · cases found : (s.thread second).prevValue <;> simp [Thread.foundSet,Place.changed,place,found]
  | sleeps =>
      refine put_unchanged accounted ?_ ?_ ?_
      · simp [Thread.increments,Place.incremented,place]
      · simp [Thread.changes,Place.changed,place]
      · simp [Thread.foundSet,Place.changed,place]
  | returned => exact accounted

def System.lines (s : System) : List (BitVec 32 × Bool) := s.first.lines ++ s.second.lines

-- Once kthread_stop has seen both threads out, the lines they printed say what
-- they did.
theorem stopped_exact (events : List Event)
    (first : (threads.run {} events).first.place = .returned) (second : (threads.run {} events).second.place = .returned) :
    let s := threads.run {} events
    s.etxGlobalVariable = BitVec.ofNat 32 s.lines.length ∧ s.etcBitCheck = (if s.lines.length%2 = 1 then 2#32 else 0#32) ∧
      s.lines.countP (·.2) = s.lines.length/2 := by
  have preserved : ∀ s event,Accounted s → Accounted (threads.apply s event) := by
    rintro s ⟨second,shouldStop⟩ accounted
    exact threadFunction_accounted second shouldStop s accounted
  have accounted : Accounted (threads.run {} events) := threads.run_preserves preserved events ⟨rfl,rfl,rfl⟩
  generalize threads.run {} events = s at first second accounted
  have increments : s.total Thread.increments = s.lines.length := by
    simp [System.total,Thread.increments,Place.incremented,System.lines,first,second]
  have changes : s.total Thread.changes = s.lines.length := by
    simp [System.total,Thread.changes,Place.changed,System.lines,first,second]
  have found : s.total Thread.foundSet = s.lines.countP (·.2) := by
    simp [System.total,Thread.foundSet,Place.changed,System.lines,first,second]
  rw [Accounted,increments,changes,found] at accounted
  exact ⟨accounted.value,accounted.bit,accounted.found⟩

def twoLines : List Event :=
  [.runs false false,.runs true false,.runs true true,.runs false true,.runs true true,.runs false true,.runs false true,
   .runs true true,.runs false true,.runs true true,.runs false true,.runs true true]

theorem stopped_exact_two_lines : (threads.run {} twoLines).lines = [(2#32,true),(2#32,false)] ∧
    (threads.run {} twoLines).lines.countP (·.2) = (threads.run {} twoLines).lines.length/2 :=
  ⟨by decide,(stopped_exact twoLines (by decide) (by decide)).2.2⟩

end AtomicThreads

section HighResolutionTimer

def timeoutNsec : Nat := 1000000000
def timeoutSec : Nat := 4

def ktimeSet (secs nsecs : Nat) : Nat := secs*1000000000+nsecs

def interval : Nat := ktimeSet timeoutSec timeoutNsec

-- hrtimer_forward moves the expiry by whole intervals until it lies ahead.
def hrtimerForward (now interval expires : Nat) : Nat :=
  if now < expires then expires else expires+((now-expires)/interval+1)*interval

structure Timer where
  expires : Nat
  count : BitVec 32 := 0#32
  calls : Nat := 0

def hrtimerStart (now : Nat) : Timer := {expires := now+interval}

def timerCallback (now : Nat) (t : Timer) : Timer :=
  {expires := hrtimerForward now interval t.expires,count := t.count+1#32,calls := t.calls+1}

-- The callback never comes early; `now` is when it asks for the time.
structure Expiry where
  now : Nat

def ticking : Machine Timer Expiry where
  Allowed t expiry := t.expires ≤ expiry.now
  apply t expiry := timerCallback expiry.now t

instance (t : Timer) (expiry : Expiry) : Decidable (ticking.Allowed t expiry) :=
  inferInstanceAs (Decidable (t.expires ≤ expiry.now))

structure OnGrid (start : Nat) (t : Timer) : Prop where
  grid : ∃ passed,t.expires = start+interval*(passed+1) ∧ t.calls ≤ passed
  count : t.count = BitVec.ofNat 32 t.calls

def Steady (start : Nat) (t : Timer) : Prop := t.expires = start+interval*(t.calls+1)

def skipped (now : Nat) (t : Timer) : Nat := (now-t.expires)/interval

theorem callback_expires {t : Timer} {now : Nat} (due : t.expires ≤ now) :
    (timerCallback now t).expires = t.expires+interval*(skipped now t+1) := by
  rw [Nat.mul_comm]
  exact if_neg (by omega)

theorem callback_place {start now passed : Nat} {t : Timer} (place : t.expires = start+interval*(passed+1))
    (due : t.expires ≤ now) : (timerCallback now t).expires = start+interval*(passed+skipped now t+1+1) := by
  rw [callback_expires due,place,Nat.add_assoc,← Nat.mul_add]
  congr 2
  omega

theorem callback_grid {start now : Nat} {t : Timer} (grid : OnGrid start t) (due : t.expires ≤ now) :
    OnGrid start (timerCallback now t) := by
  obtain ⟨⟨passed,place,few⟩,count⟩ := grid
  refine ⟨⟨passed+skipped now t+1,callback_place place due,?_⟩,?_⟩
  · change t.calls+1 ≤ _
    omega
  · change t.count+1#32 = BitVec.ofNat 32 (t.calls+1)
    rw [count,BitVec.ofNat_add]

theorem steady_iff {start passed : Nat} {t : Timer} (place : t.expires = start+interval*(passed+1)) :
    Steady start t ↔ passed = t.calls := by
  rw [Steady,place,Nat.add_left_cancel_iff,Nat.mul_left_cancel_iff (by decide),Nat.add_right_cancel_iff]

theorem callback_steady_iff {start now : Nat} {t : Timer} (grid : OnGrid start t) (due : t.expires ≤ now) :
    Steady start (timerCallback now t) ↔ Steady start t ∧ now < t.expires+interval := by
  obtain ⟨⟨passed,place,few⟩,_⟩ := grid
  have soon : now < t.expires+interval ↔ skipped now t = 0 := by
    rw [skipped,Nat.div_eq_zero_iff_lt (by decide)]
    omega
  have counted : (timerCallback now t).calls = t.calls+1 := rfl
  rw [steady_iff (callback_place place due),steady_iff place,soon,counted]
  omega

-- The timer never drifts, and it loses no interval exactly when no callback is
-- a whole interval late.
theorem ticking_exact (start : Nat) (expiries : List Expiry) (path : ticking.Runs (hrtimerStart start) expiries) :
    OnGrid start (ticking.run (hrtimerStart start) expiries) ∧
    (Steady start (ticking.run (hrtimerStart start) expiries) ↔
      ticking.Along (fun t expiry => expiry.now < t.expires+interval) (hrtimerStart start) expiries) := by
  have begins : OnGrid start (hrtimerStart start) := ⟨⟨0,by simp [hrtimerStart],Nat.le_refl 0⟩,rfl⟩
  have steady : Steady start (hrtimerStart start) := by simp [Steady,hrtimerStart]
  have kept : ∀ t expiry,OnGrid start t → ticking.Allowed t expiry → OnGrid start (ticking.apply t expiry) :=
    fun t expiry grid due => callback_grid grid due
  have exactly := Machine.last_exact kept (fun t expiry grid due => callback_steady_iff grid due) begins path
  exact ⟨ticking.invariant kept begins path,exactly.trans (and_iff_right steady)⟩

def lateOnce : List Expiry := [⟨7000000000⟩,⟨21000000000⟩]

theorem ticking_exact_late_once : ticking.Runs (hrtimerStart 1000000000) lateOnce ∧
    ¬ Steady 1000000000 (ticking.run (hrtimerStart 1000000000) lateOnce) := by
  have path : ticking.Runs (hrtimerStart 1000000000) lateOnce := ⟨by decide,by decide,trivial⟩
  refine ⟨path,fun steady => ?_⟩
  have inTime := ((ticking_exact 1000000000 lateOnce path).2.mp steady).2.1
  exact absurd inTime (by decide)

end HighResolutionTimer

end LinuxDeviceDrivers.TutorialCounters
