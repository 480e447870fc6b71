import LinuxDeviceDrivers.KernelTimer
import LinuxDeviceDrivers.Transition

namespace LinuxDeviceDrivers.TimerRearming
open Transition KernelTimer

-- blinkplus.c and helloplus.c, as compiled for kernels from 4.14 on.
inductive Driver where
  | blinkplus
  | helloplus
deriving DecidableEq

-- my_timer_func stands before the statement named.
inductive Callback where
  | idle
  | setExpires
  | queueWork
  | addTimer
  | returns
deriving DecidableEq

def rearms : Callback → Bool
  | .setExpires | .queueWork | .addTimer => true
  | .idle | .returns => false

def nextCallback (driver : Driver) : Callback → Callback
  | .idle => .idle
  | .setExpires => match driver with
    | .blinkplus => .queueWork
    | .helloplus => .addTimer
  | .queueWork => .addTimer
  | .addTimer => .returns
  | .returns => .idle

-- What my_timer_func does to the timer; its work is not looked at here.
def myTimerFunc (callback : Callback) (expires : BitVec 64) (timer : Timer) : Timer :=
  match callback with
  | .setExpires => KernelTimer.setExpires expires timer
  | .addTimer => KernelTimer.addTimer timer
  | .idle | .queueWork | .returns => timer

-- SETINV of blink_ioctl or SET_DELAY of hello_ioctl stands before the statement
-- named.
inductive Place where
  | outside
  | delTimerSync
  | setExpires
  | addTimer
deriving DecidableEq

inductive Errno where
  | einval
  | efault

-- The user's argument: NULL, memory that copy_from_user cannot read to its end,
-- or a delay.
inductive Argument where
  | null
  | faults (delay : BitVec 64)
  | holds (delay : BitVec 64)

def copyDelay : Argument → BitVec 64 → Option Errno × BitVec 64
  | .null,delay => (some .einval,delay)
  | .faults delay,_ => (some .efault,delay)
  | .holds delay,_ => (none,delay)

-- `delay` is info.blink_delay or secs2hello. `rearming` lists the callers that
-- have passed del_timer_sync and not add_timer.
structure System where
  timer : Timer
  delay : BitVec 64
  callback : Callback := .idle
  ioctl : Nat → Place := fun _ => .outside
  rearming : List Nat := []

-- kbleds_init arms the timer, helloplus_init only sets it up.
def started (driver : Driver) (jiffies delay : BitVec 64) : System :=
  {delay := delay
   timer := match driver with
    | .blinkplus => modTimer (jiffies+delay) {}
    | .helloplus => KernelTimer.setExpires (jiffies+delay) {}}

def enters (i : Nat) (argument : Argument) (s : System) : System :=
  {s with
    delay := (copyDelay argument s.delay).2
    ioctl := if (copyDelay argument s.delay).1.isNone then Function.update s.ioctl i .delTimerSync else s.ioctl}

def ioctl (i : Nat) (jiffies : BitVec 64) (s : System) : System :=
  match s.ioctl i with
  | .outside => s
  | .delTimerSync => {s with
      timer := delTimer s.timer
      ioctl := Function.update s.ioctl i .setExpires
      rearming := i :: s.rearming}
  | .setExpires => {s with
      timer := KernelTimer.setExpires (jiffies+s.delay) s.timer
      ioctl := Function.update s.ioctl i .addTimer}
  | .addTimer => {s with
      timer := KernelTimer.addTimer s.timer
      ioctl := Function.update s.ioctl i .outside
      rearming := s.rearming.erase i}

inductive Event where
  | fires
  | callback (jiffies : BitVec 64)
  | enters (i : Nat) (argument : Argument)
  | ioctl (i : Nat) (jiffies : BitVec 64)

-- Any callers may be inside at once. A pending timer may fire at any time, on
-- one CPU, and del_timer_sync waits for its function to return.
def machine (driver : Driver) : Machine System Event where
  Allowed s event := match event with
    | .fires => s.timer.pending = true ∧ s.callback = .idle
    | .callback _ => s.callback ≠ .idle
    | .enters i _ => s.ioctl i = .outside
    | .ioctl i _ => s.ioctl i ≠ .outside ∧ (s.ioctl i = .delTimerSync → s.callback = .idle)
  apply s event := match event with
    | .fires => {s with timer := delTimer s.timer,callback := .setExpires}
    | .callback jiffies => {s with
        timer := myTimerFunc s.callback (jiffies+s.delay) s.timer
        callback := nextCallback driver s.callback}
    | .enters i argument => enters i argument s
    | .ioctl i jiffies => ioctl i jiffies s

instance decidableAllowed (driver : Driver) : ∀ s event,Decidable ((machine driver).Allowed s event)
  | s,.fires => inferInstanceAs (Decidable (s.timer.pending = true ∧ s.callback = .idle))
  | s,.callback _ => inferInstanceAs (Decidable (s.callback ≠ .idle))
  | s,.enters i _ => inferInstanceAs (Decidable (s.ioctl i = .outside))
  | s,.ioctl i _ => inferInstanceAs (Decidable
      (s.ioctl i ≠ .outside ∧ (s.ioctl i = .delTimerSync → s.callback = .idle)))

def Quiet (s : System) : Prop := s.callback = .idle ∧ ∀ i,s.ioctl i = .outside

structure Exclusive (s : System) : Prop where
  proper : s.timer.misused = false
  armed : Quiet s → s.timer.pending = true

-- Nobody passes del_timer_sync while another caller is between his own and
-- add_timer.
def Alone (s : System) : Event → Prop
  | .ioctl i _ => s.ioctl i = .delTimerSync → s.rearming = []
  | .fires | .callback _ | .enters _ _ => True

instance decidableAlone : ∀ s event,Decidable (Alone s event)
  | s,.ioctl i _ => inferInstanceAs (Decidable (s.ioctl i = .delTimerSync → s.rearming = []))
  | _,.fires | _,.callback _ | _,.enters _ _ => .isTrue trivial

def armingOf (timer : Timer) (callback : Callback) (others : Nat) : Arming :=
  {pending := timer.pending,holders := (rearms callback).toNat+others,misused := timer.misused}

theorem fire_arming (timer : Timer) (others : Nat) :
    armingOf (delTimer timer) .setExpires others = (armingOf timer .idle others).act .take := by
  simp only [armingOf,delTimer,rearms,Arming.act,Bool.toNat_true,Bool.toNat_false,Nat.add_comm]

theorem callback_arming (driver : Driver) (callback : Callback) (expires : BitVec 64) (timer : Timer) (others : Nat) :
    armingOf (myTimerFunc callback expires timer) (nextCallback driver callback) others =
      (armingOf timer callback others).act (if callback = .addTimer then .add else .stay) := by
  cases callback with
  | setExpires => cases driver <;> rfl
  | addTimer => simp [armingOf,myTimerFunc,nextCallback,KernelTimer.addTimer,rearms,Arming.act]
  | _ => rfl

def arming (s : System) : Arming := armingOf s.timer s.callback s.rearming.length

def action (s : System) : Event → Action
  | .fires => .take
  | .callback _ => if s.callback = .addTimer then .add else .stay
  | .enters _ _ => .stay
  | .ioctl i _ => match s.ioctl i with
    | .outside | .setExpires => .stay
    | .delTimerSync => .take
    | .addTimer => .add

def between : Place → Bool
  | .setExpires | .addTimer => true
  | .outside | .delTimerSync => false

structure Tracked (s : System) : Prop where
  nodup : s.rearming.Nodup
  member : ∀ i,i ∈ s.rearming ↔ between (s.ioctl i) = true

section Steps
variable {driver : Driver} {s : System}

theorem ioctl_tracked (i : Nat) (jiffies : BitVec 64) (tracked : Tracked s) : Tracked (ioctl i jiffies s) := by
  obtain ⟨nodup,member⟩ := tracked
  have own := member i
  cases place : s.ioctl i with
  | outside => simpa only [ioctl,place] using Tracked.mk nodup member
  | delTimerSync =>
      simp only [place,between] at own
      simp only [ioctl,place]
      refine ⟨List.nodup_cons.mpr ⟨by simpa using own,nodup⟩,?_⟩
      intro j
      by_cases same : j = i
      · simp [same,between]
      · simpa [same] using member j
  | setExpires =>
      simp only [place,between] at own
      simp only [ioctl,place]
      refine ⟨nodup,?_⟩
      intro j
      by_cases same : j = i
      · simpa [same,between] using own
      · simpa [same] using member j
  | addTimer =>
      simp only [ioctl,place]
      refine ⟨nodup.erase i,?_⟩
      intro j
      rw [nodup.mem_erase_iff]
      by_cases same : j = i
      · simp [same,between]
      · simpa [same] using member j

theorem apply_tracked (s : System) (event : Event) (tracked : Tracked s) (allowed : (machine driver).Allowed s event) :
    Tracked ((machine driver).apply s event) := by
  cases event with
  | fires | callback jiffies => exact ⟨tracked.nodup,tracked.member⟩
  | enters i argument =>
      have outside : s.ioctl i = .outside := allowed
      refine ⟨tracked.nodup,?_⟩
      intro j
      have kept := tracked.member j
      simp only [machine,enters]
      split
      · by_cases same : j = i
        · simpa [same,outside,between] using kept
        · simpa [same] using kept
      · exact kept
  | ioctl i jiffies => exact ioctl_tracked i jiffies tracked

theorem apply_arming (s : System) (event : Event) (tracked : Tracked s) (allowed : (machine driver).Allowed s event) :
    (arming s).Allowed (action s event) ∧
      arming ((machine driver).apply s event) = (arming s).act (action s event) := by
  cases event with
  | fires =>
      have fired := fire_arming s.timer s.rearming.length
      rw [← allowed.2] at fired
      exact ⟨trivial,fired⟩
  | callback jiffies =>
      refine ⟨?_,callback_arming driver s.callback (jiffies+s.delay) s.timer s.rearming.length⟩
      cases callback : s.callback with
      | addTimer =>
          simp only [action,callback,if_true,Arming.Allowed,arming,armingOf,rearms,Bool.toNat_true]
          omega
      | _ => simp [action,callback,Arming.Allowed]
  | enters i argument => exact ⟨trivial,rfl⟩
  | ioctl i jiffies =>
      have own := tracked.member i
      cases place : s.ioctl i with
      | outside => exact absurd place allowed.1
      | delTimerSync =>
          refine ⟨by simp [action,place,Arming.Allowed],?_⟩
          simp [machine,ioctl,place,arming,armingOf,action,Arming.act,delTimer,Nat.add_assoc]
      | setExpires =>
          refine ⟨by simp [action,place,Arming.Allowed],?_⟩
          simp [machine,ioctl,place,arming,armingOf,action,Arming.act,KernelTimer.setExpires]
      | addTimer =>
          simp only [place,between,iff_true] at own
          have some := List.length_pos_of_mem own
          refine ⟨by simp only [action,place,Arming.Allowed,arming,armingOf]; omega,?_⟩
          simp only [machine,ioctl,place,arming,armingOf,action,Arming.act,KernelTimer.addTimer,List.length_erase_of_mem own,
            Arming.mk.injEq,true_and,and_true]
          omega

structure Single (s : System) : Prop where
  tracked : Tracked s
  single : (arming s).tokens ≤ 1
  proper : s.timer.misused = false

theorem Single.alone (single : Single s) (event : Event) (allowed : (machine driver).Allowed s event)
    (alone : Alone s event) (takes : action s event = .take) : (arming s).holders = 0 := by
  cases event with
  | fires =>
      have tokens := single.single
      simp only [arming,armingOf,Arming.tokens,allowed.1,Bool.toNat_true] at tokens
      simp only [arming,armingOf]
      omega
  | callback jiffies =>
      simp only [action] at takes
      split at takes <;> cases takes
  | enters i argument => cases takes
  | ioctl i jiffies =>
      cases place : s.ioctl i with
      | delTimerSync => simp [arming,armingOf,alone place,allowed.2 place,rearms]
      | _ => simp [action,place] at takes

theorem apply_single (s : System) (event : Event) (single : Single s)
    (step : (machine driver).Allowed s event ∧ Alone s event) : Single ((machine driver).apply s event) := by
  obtain ⟨acts,refines⟩ := apply_arming s event single.tracked step.1
  obtain ⟨tokens,misused⟩ := Arming.act_single single.single acts (single.alone event step.1 step.2)
  rw [← refines] at tokens misused
  exact ⟨apply_tracked s event single.tracked step.1,tokens,misused.trans single.proper⟩

theorem apply_armed (s : System) (event : Event) (armed : Single s ∧ 1 ≤ (arming s).tokens)
    (step : (machine driver).Allowed s event ∧ Alone s event) :
    Single ((machine driver).apply s event) ∧ 1 ≤ (arming ((machine driver).apply s event)).tokens := by
  refine ⟨apply_single s event armed.1 step,?_⟩
  rw [(apply_arming s event armed.1.tracked step.1).2]
  exact Arming.act_armed armed.2 (action s event)

def Overfull (s : System) : Prop := s.timer.misused = true ∨ 2 ≤ (arming s).tokens

theorem apply_overfull (s : System) (event : Event) (tracked : Tracked s) (allowed : (machine driver).Allowed s event)
    (overfull : Overfull s) : Overfull ((machine driver).apply s event) := by
  obtain ⟨acts,refines⟩ := apply_arming s event tracked allowed
  have fields : (arming ((machine driver).apply s event)).misused = ((machine driver).apply s event).timer.misused := rfl
  rw [refines] at fields
  unfold Overfull
  rw [← fields,refines]
  rcases overfull with misused | two
  · exact .inl (Arming.act_misused (a:=arming s) misused (action s event))
  · cases proper : ((arming s).act (action s event)).misused with
    | true => exact .inl rfl
    | false => exact .inr (Nat.le_trans two (Arming.act_tokens acts proper))

theorem overlap_overfull (s : System) (event : Event) (tracked : Tracked s) (allowed : (machine driver).Allowed s event)
    (overlap : ¬ Alone s event) : Overfull ((machine driver).apply s event) := by
  cases event with
  | ioctl i jiffies =>
      simp only [Alone,Classical.not_imp] at overlap
      obtain ⟨place,others⟩ := overlap
      have held : 0 < (arming s).holders := by
        have some := List.length_pos_iff.mpr others
        simp only [arming,armingOf]
        omega
      right
      rw [(apply_arming s (.ioctl i jiffies) tracked allowed).2]
      simp only [action,place]
      exact Arming.take_held held
  | _ => exact absurd trivial overlap

theorem Tracked.quiet (tracked : Tracked s) (quiet : Quiet s) : (arming s).tokens = s.timer.pending.toNat := by
  have none : s.rearming = [] := by
    apply List.eq_nil_iff_forall_not_mem.mpr
    intro i member
    have inside := (tracked.member i).mp member
    simp [quiet.2 i,between] at inside
  simp [arming,armingOf,Arming.tokens,none,quiet.1,rearms]

theorem started_single (driver : Driver) (jiffies delay : BitVec 64) : Single (started driver jiffies delay) := by
  cases driver <;> exact ⟨⟨List.nodup_nil,by simp [started,between]⟩,by
    simp [started,arming,armingOf,Arming.tokens,modTimer,KernelTimer.setExpires,rearms],rfl⟩

end Steps

theorem addTimer_proper (driver : Driver) (jiffies delay : BitVec 64) (events : List Event)
    (path : (machine driver).Runs (started driver jiffies delay) events)
    (alone : (machine driver).Along Alone (started driver jiffies delay) events) :
    (machine driver).Throughout (fun s => s.timer.misused = false) (started driver jiffies delay) events :=
  (Machine.throughout_of_invariant apply_single (started_single driver jiffies delay)
    (Machine.along_and.mpr ⟨path,alone⟩)).imp fun _ single => single.proper

theorem rearming_exclusive (driver : Driver) (jiffies delay : BitVec 64) (events : List Event)
    (path : (machine driver).Runs (started driver jiffies delay) events) :
    (driver = .blinkplus ∧ (machine driver).Along Alone (started driver jiffies delay) events →
      (machine driver).Throughout Exclusive (started driver jiffies delay) events) ∧
    ((machine driver).Throughout Exclusive (started driver jiffies delay) events →
      driver = .blinkplus ∧ (Quiet ((machine driver).run (started driver jiffies delay) events) →
        (machine driver).Along Alone (started driver jiffies delay) events)) := by
  refine ⟨?_,fun exclusive => ⟨?_,fun quiet => ?_⟩⟩
  · rintro ⟨rfl,alone⟩
    have start : Single (started .blinkplus jiffies delay) ∧ 1 ≤ (arming (started .blinkplus jiffies delay)).tokens :=
      ⟨started_single .blinkplus jiffies delay,by simp [started,arming,armingOf,Arming.tokens,modTimer]⟩
    have armed := Machine.throughout_of_invariant apply_armed start (Machine.along_and.mpr ⟨path,alone⟩)
    refine ((addTimer_proper .blinkplus jiffies delay events path alone).and armed).imp ?_
    rintro s ⟨proper,single,held⟩
    refine ⟨proper,?_⟩
    intro quiet
    rw [single.tracked.quiet quiet] at held
    exact Bool.toNat_eq_one.mp (Nat.le_antisymm (Bool.toNat_le _) held)
  · cases driver with
    | blinkplus => rfl
    | helloplus =>
        have idle := exclusive.first.armed ⟨rfl,fun _ => rfl⟩
        cases idle
  · have last := exclusive.last
    have tracked := Machine.invariant apply_tracked (started_single driver jiffies delay).tracked path
    apply Machine.along_of_doomed apply_tracked
      (fun s event tracked allowed _ overlap => overlap_overfull s event tracked allowed overlap) apply_overfull
      (started_single driver jiffies delay).tracked path exclusive
    rintro (misused | two)
    · rw [last.proper] at misused
      cases misused
    · rw [tracked.quiet quiet] at two
      exact absurd (Bool.toNat_le _) (Nat.not_le.mpr two)

def setinv : List Event :=
  [.fires,.enters 0 (.holds 50#64),.callback 100#64,.callback 100#64,.callback 100#64,.callback 100#64,
    .ioctl 0 101#64,.ioctl 0 101#64,.ioctl 0 101#64]

theorem rearming_exclusive_setinv :
    (Driver.blinkplus = .blinkplus ∧ (machine .blinkplus).Along Alone (started .blinkplus 0#64 50#64) setinv →
      (machine .blinkplus).Throughout Exclusive (started .blinkplus 0#64 50#64) setinv) ∧
    ((machine .blinkplus).Throughout Exclusive (started .blinkplus 0#64 50#64) setinv →
      Driver.blinkplus = .blinkplus ∧ (Quiet ((machine .blinkplus).run (started .blinkplus 0#64 50#64) setinv) →
        (machine .blinkplus).Along Alone (started .blinkplus 0#64 50#64) setinv)) :=
  rearming_exclusive .blinkplus 0#64 50#64 setinv (by decide +kernel)

def overlapping : List Event :=
  [.enters 0 (.holds 50#64),.enters 1 (.holds 10#64),.ioctl 0 0#64,.ioctl 1 0#64,.ioctl 0 0#64,.ioctl 0 0#64,
    .ioctl 1 0#64,.ioctl 1 0#64]

theorem overlapping_misuses : (machine .blinkplus).Runs (started .blinkplus 0#64 50#64) overlapping ∧
    ¬ (machine .blinkplus).Throughout Exclusive (started .blinkplus 0#64 50#64) overlapping ∧
    ¬ (machine .helloplus).Throughout Exclusive (started .helloplus 0#64 50#64) [] := by
  refine ⟨by decide +kernel,?_,?_⟩
  · intro exclusive
    exact absurd exclusive.last.proper (by decide +kernel)
  · intro exclusive
    have idle := exclusive.armed ⟨rfl,fun _ => rfl⟩
    cases idle

end LinuxDeviceDrivers.TimerRearming
