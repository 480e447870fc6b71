import LinuxDeviceDrivers.TimerRearming

namespace LinuxDeviceDrivers.BlinkplusUnload
open Transition KernelTimer TimerRearming

-- kbleds_cleanup stands before the call named; `unregister` is all that follows
-- destroy_workqueue.
inductive Cleanup where
  | delTimer
  | cancelWorkSync
  | destroyWorkqueue
  | unregister
  | returned
deriving DecidableEq

-- `queued` and `working` are the work item and do_work. `misqueued` says that
-- queue_work has been called on the destroyed workqueue.
structure System where
  timer : Timer
  delay : BitVec 64
  callback : Callback := .idle
  queued : Bool := false
  working : Bool := false
  destroyed : Bool := false
  misqueued : Bool := false
  cleanup : Cleanup := .delTimer

def queueWork (s : System) : System := {s with queued := true,misqueued := s.misqueued || s.destroyed}

def callback (jiffies : BitVec 64) (s : System) : System :=
  let called := if s.callback = .queueWork then queueWork s else s
  {called with
    timer := myTimerFunc s.callback (jiffies+s.delay) s.timer
    callback := nextCallback .blinkplus s.callback}

def kbledsCleanup (s : System) : System :=
  match s.cleanup with
  | .delTimer => {s with timer := delTimer s.timer,cleanup := .cancelWorkSync}
  | .cancelWorkSync => {s with queued := false,cleanup := .destroyWorkqueue}
  | .destroyWorkqueue => {s with destroyed := true,cleanup := .unregister}
  | .unregister => {s with cleanup := .returned}
  | .returned => s

inductive Event where
  | fires
  | callback (jiffies : BitVec 64)
  | works
  | worked
  | cleanup

-- cancel_work_sync waits for do_work, destroy_workqueue for the whole queue.
-- No ioctl is inside: an open file would keep the module loaded.
def machine : Machine System Event where
  Allowed s event := match event with
    | .fires => s.timer.pending = true ∧ s.callback = .idle
    | .callback _ => s.callback ≠ .idle
    | .works => s.queued = true ∧ s.working = false
    | .worked => s.working = true
    | .cleanup => s.cleanup ≠ .returned ∧ (s.cleanup = .cancelWorkSync → s.working = false) ∧
        (s.cleanup = .destroyWorkqueue → s.queued = false ∧ s.working = false)
  apply s event := match event with
    | .fires => {s with timer := delTimer s.timer,callback := .setExpires}
    | .callback jiffies => callback jiffies s
    | .works => {s with queued := false,working := true}
    | .worked => {s with working := false}
    | .cleanup => kbledsCleanup s

instance decidableAllowed : ∀ s event,Decidable (machine.Allowed s event)
  | s,.fires => inferInstanceAs (Decidable (s.timer.pending = true ∧ s.callback = .idle))
  | s,.callback _ => inferInstanceAs (Decidable (s.callback ≠ .idle))
  | s,.works => inferInstanceAs (Decidable (s.queued = true ∧ s.working = false))
  | s,.worked => inferInstanceAs (Decidable (s.working = true))
  | s,.cleanup => inferInstanceAs (Decidable
      (s.cleanup ≠ .returned ∧ (s.cleanup = .cancelWorkSync → s.working = false) ∧
        (s.cleanup = .destroyWorkqueue → s.queued = false ∧ s.working = false)))

structure Loaded (s : System) : Prop where
  cleanup : s.cleanup = .delTimer
  alive : s.destroyed = false
  proper : s.misqueued = false

structure Quiescent (s : System) : Prop where
  unarmed : s.cleanup = .returned → s.timer.pending = false
  idle : s.cleanup = .returned → s.callback = .idle
  unqueued : s.cleanup = .returned → s.queued = false
  proper : s.cleanup = .returned → s.misqueued = false

-- del_timer finds my_timer_func not running, or past its add_timer and then
-- returned before cleanup returns.
def Settled (s : System) : Event → Prop
  | .cleanup => (s.cleanup = .delTimer → rearms s.callback = false) ∧ (s.cleanup = .unregister → s.callback = .idle)
  | .fires | .callback _ | .works | .worked => True

instance decidableSettled : ∀ s event,Decidable (Settled s event)
  | s,.cleanup => inferInstanceAs (Decidable
      ((s.cleanup = .delTimer → rearms s.callback = false) ∧ (s.cleanup = .unregister → s.callback = .idle)))
  | _,.fires | _,.callback _ | _,.works | _,.worked => .isTrue trivial

def cancelled : Cleanup → Bool
  | .delTimer | .cancelWorkSync => false
  | .destroyWorkqueue | .unregister | .returned => true

structure Sound (s : System) : Prop where
  alive : s.cleanup = .delTimer → s.destroyed = false
  quiet : s.cleanup ≠ .delTimer → s.timer.pending = false ∧ rearms s.callback = false
  unqueued : cancelled s.cleanup = true → s.queued = false
  proper : s.misqueued = false
  idle : s.cleanup = .returned → s.callback = .idle

section Steps
variable {s : System}

theorem callback_sound (sound : Sound s) (jiffies : BitVec 64) (busy : s.callback ≠ .idle) :
    Sound (callback jiffies s) := by
  obtain ⟨alive,quiet,unqueued,proper,idle⟩ := sound
  by_cases loaded : s.cleanup = .delTimer
  · have alive := alive loaded
    by_cases queues : s.callback = .queueWork
    · refine ⟨?_,?_,?_,?_,?_⟩ <;> simp [callback,queueWork,queues,loaded,cancelled,alive,proper]
    · refine ⟨?_,?_,?_,?_,?_⟩ <;> simp [callback,queues,loaded,cancelled,alive,proper]
  · obtain ⟨unarmed,past⟩ := quiet loaded
    cases place : s.callback with
    | idle => exact absurd place busy
    | returns =>
        have step : callback jiffies s = {s with callback := .idle} := by
          simp [callback,place,myTimerFunc,nextCallback]
        rw [step]
        exact ⟨alive,fun _ => ⟨unarmed,rfl⟩,unqueued,proper,fun _ => rfl⟩
    | _ => simp [place,rearms] at past

theorem kbledsCleanup_sound (sound : Sound s) (settled : Settled s .cleanup) : Sound (kbledsCleanup s) := by
  obtain ⟨alive,quiet,unqueued,proper,idle⟩ := sound
  cases place : s.cleanup with
  | delTimer =>
      simp only [kbledsCleanup,place]
      exact ⟨by simp,fun _ => ⟨rfl,settled.1 place⟩,by simp [cancelled],proper,by simp⟩
  | cancelWorkSync =>
      simp only [kbledsCleanup,place]
      exact ⟨by simp,fun _ => quiet (by simp [place]),fun _ => rfl,proper,by simp⟩
  | destroyWorkqueue =>
      simp only [kbledsCleanup,place]
      exact ⟨by simp,fun _ => quiet (by simp [place]),fun _ => unqueued (by simp [place,cancelled]),proper,by simp⟩
  | unregister =>
      simp only [kbledsCleanup,place]
      exact ⟨by simp,fun _ => quiet (by simp [place]),fun _ => unqueued (by simp [place,cancelled]),proper,
        fun _ => settled.2 place⟩
  | returned => simpa only [kbledsCleanup,place] using Sound.mk alive quiet unqueued proper idle

theorem apply_sound (s : System) (event : Event) (sound : Sound s)
    (step : machine.Allowed s event ∧ Settled s event) : Sound (machine.apply s event) := by
  obtain ⟨allowed,settled⟩ := step
  cases event with
  | fires =>
      have loaded : s.cleanup = .delTimer := by
        by_contra left
        have unarmed := (sound.quiet left).1
        rw [allowed.1] at unarmed
        cases unarmed
      exact ⟨sound.alive,fun left => absurd loaded left,sound.unqueued,sound.proper,
        fun returned => by cases loaded.symm.trans returned⟩
  | callback jiffies => exact callback_sound sound jiffies allowed
  | works => exact ⟨sound.alive,sound.quiet,fun _ => rfl,sound.proper,sound.idle⟩
  | worked => exact ⟨sound.alive,sound.quiet,sound.unqueued,sound.proper,sound.idle⟩
  | cleanup => exact kbledsCleanup_sound sound settled

theorem Sound.quiescent (sound : Sound s) : Quiescent s := by
  refine ⟨fun returned => ?_,sound.idle,fun returned => ?_,fun _ => sound.proper⟩
  · exact (sound.quiet (by rw [returned]; decide)).1
  · exact sound.unqueued (by rw [returned]; rfl)

theorem Loaded.sound (loaded : Loaded s) : Sound s := by
  have cleanup := loaded.cleanup
  exact ⟨fun _ => loaded.alive,fun left => absurd cleanup left,by simp [cleanup,cancelled],loaded.proper,by simp [cleanup]⟩

def Rearmed (s : System) : Prop := s.cleanup ≠ .delTimer ∧ 1 ≤ (armingOf s.timer s.callback 0).tokens

theorem apply_rearmed (s : System) (event : Event) (allowed : machine.Allowed s event) (rearmed : Rearmed s) :
    Rearmed (machine.apply s event) := by
  obtain ⟨left,armed⟩ := rearmed
  cases event with
  | fires =>
      rw [allowed.2] at armed
      exact ⟨left,fire_arming s.timer 0 ▸ Arming.act_armed armed .take⟩
  | callback jiffies =>
      have kept := callback_arming .blinkplus s.callback (jiffies+s.delay) s.timer 0 ▸
        Arming.act_armed armed (if s.callback = Callback.addTimer then Action.add else Action.stay)
      refine ⟨?_,kept⟩
      simp only [machine,callback]
      split <;> exact left
  | works | worked => exact ⟨left,armed⟩
  | cleanup =>
      simp only [machine]
      cases place : s.cleanup with
      | delTimer => exact absurd place left
      | returned =>
          simp only [kbledsCleanup,place]
          exact ⟨left,armed⟩
      | _ =>
          simp only [kbledsCleanup,place]
          exact ⟨by simp,armed⟩

end Steps

theorem unload_quiescent (start : System) (events : List Event) (loaded : Loaded start)
    (path : machine.Runs start events) :
    (machine.Along Settled start events → machine.Throughout Quiescent start events) ∧
    ((machine.run start events).cleanup = .returned → machine.Throughout Quiescent start events →
      machine.Along Settled start events) := by
  constructor
  · intro settled
    exact (Machine.throughout_of_invariant apply_sound loaded.sound (Machine.along_and.mpr ⟨path,settled⟩)).imp
      fun _ sound => sound.quiescent
  · intro returned quiescent
    have dooms : ∀ s event,True → machine.Allowed s event → Quiescent (machine.apply s event) → ¬ Settled s event →
        Rearmed (machine.apply s event) := by
      intro s event _ allowed after unsettled
      cases event with
      | cleanup =>
          simp only [Settled,not_and_or,Classical.not_imp,Bool.not_eq_false] at unsettled
          rcases unsettled with ⟨place,running⟩ | ⟨place,running⟩
          · simp only [machine,kbledsCleanup,place]
            exact ⟨by simp,by simp [Arming.tokens,armingOf,running]⟩
          · have idle := after.idle (by simp [machine,kbledsCleanup,place])
            simp only [machine,kbledsCleanup,place] at idle
            exact absurd idle running
      | _ => exact absurd trivial unsettled
    apply Machine.along_of_doomed (fun _ _ _ _ => trivial) dooms
      (fun s event _ allowed rearmed => apply_rearmed s event allowed rearmed) trivial path quiescent
    rintro ⟨_,armed⟩
    have last := quiescent.last
    simp [Arming.tokens,armingOf,last.unarmed returned,last.idle returned,rearms] at armed

def loaded : System := {timer := modTimer 50#64 {},delay := 50#64}

def unloading : List Event :=
  [.fires,.callback 50#64,.callback 50#64,.works,.callback 50#64,.callback 50#64,.worked,
    .cleanup,.cleanup,.cleanup,.cleanup]

theorem unload_quiescent_loaded :
    (machine.Along Settled loaded unloading → machine.Throughout Quiescent loaded unloading) ∧
    ((machine.run loaded unloading).cleanup = .returned → machine.Throughout Quiescent loaded unloading →
      machine.Along Settled loaded unloading) :=
  unload_quiescent loaded unloading ⟨rfl,rfl,rfl⟩ (by decide +kernel)

def unloadingRunning : List Event :=
  [.fires,.cleanup,.cleanup,.cleanup,.callback 50#64,.callback 50#64,.callback 50#64,.callback 50#64,.cleanup]

theorem unload_rearmed : machine.Runs loaded unloadingRunning ∧
    ¬ machine.Throughout Quiescent loaded unloadingRunning := by
  refine ⟨by decide +kernel,?_⟩
  intro quiescent
  exact absurd (quiescent.last.unarmed (by decide +kernel)) (by decide +kernel)

end LinuxDeviceDrivers.BlinkplusUnload
