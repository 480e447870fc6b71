import LinuxDeviceDrivers.TimerRearming

namespace LinuxDeviceDrivers.BlinkplusLoad
open Transition KernelTimer TimerRearming

-- kbleds_init stands before the call named; the result it will return goes with
-- its failure exits. `crashed` is cdev_init on the NULL of cdev_alloc.
inductive Place where
  | allocRegion
  | cdevAlloc
  | cdevInit
  | cdevAdd
  | classCreate
  | deviceCreate
  | setupTimer
  | armTimer
  | createWorkqueue
  | initWork
  | cdevDel (result : Int)
  | unregisterRegion (result : Int)
  | returned (result : Int)
  | crashed
deriving DecidableEq

-- A cdev that cdev_add has refused is still allocated.
inductive Cdev where
  | absent
  | allocated
  | added
deriving DecidableEq

structure System where
  place : Place := .allocRegion
  region : Bool := false
  cdev : Cdev := .absent
  classCreated : Bool := false
  device : Bool := false
  timer : Timer := {}
  delay : BitVec 64 := 0#64
  callback : Callback := .idle
  workqueue : Bool := false
  work : Bool := false

-- `result` is what the call returns, negative also where it returns NULL or an
-- ERR_PTR.
def kbledsInit (blinkDelay jiffies : BitVec 64) (result : Int) (s : System) : System :=
  match s.place with
  | .allocRegion => if result < 0 then {s with place := .returned result} else {s with region := true,place := .cdevAlloc}
  | .cdevAlloc => {s with cdev := if result < 0 then .absent else .allocated,place := .cdevInit}
  | .cdevInit => {s with place := if s.cdev = .absent then .crashed else .cdevAdd}
  | .cdevAdd =>
      if result < 0 then {s with place := .unregisterRegion result} else {s with cdev := .added,place := .classCreate}
  | .classCreate =>
      if result < 0 then {s with place := .cdevDel result}
      else {s with classCreated := true,place := .deviceCreate}
  | .deviceCreate => {s with device := decide (0 ≤ result),place := .setupTimer}
  | .setupTimer => {s with
      delay := blinkDelay
      timer := KernelTimer.setExpires (jiffies+blinkDelay) s.timer
      place := .armTimer}
  | .armTimer => {s with timer := modTimer (jiffies+blinkDelay) s.timer,place := .createWorkqueue}
  | .createWorkqueue =>
      if result < 0 then {s with place := .cdevDel (-1)} else {s with workqueue := true,place := .initWork}
  | .initWork => {s with work := true,place := .returned 0}
  | .cdevDel code => {s with cdev := .absent,place := .unregisterRegion code}
  | .unregisterRegion code => {s with region := false,place := .returned code}
  | .returned _ | .crashed => s

def leaves : Place → Bool
  | .returned _ | .crashed => true
  | _ => false

inductive Event where
  | init (jiffies : BitVec 64) (result : Int)
  | fires
  | callback (jiffies : BitVec 64)

def machine (blinkDelay : BitVec 64) : Machine System Event where
  Allowed s event := match event with
    | .init _ _ => leaves s.place = false
    | .fires => s.timer.pending = true ∧ s.callback = .idle
    | .callback _ => s.callback ≠ .idle
  apply s event := match event with
    | .init jiffies result => kbledsInit blinkDelay jiffies result s
    | .fires => {s with timer := delTimer s.timer,callback := .setExpires}
    | .callback jiffies => {s with
        timer := myTimerFunc s.callback (jiffies+s.delay) s.timer
        callback := nextCallback .blinkplus s.callback}

instance decidableAllowed (blinkDelay : BitVec 64) : ∀ s event,Decidable ((machine blinkDelay).Allowed s event)
  | s,.init _ _ => inferInstanceAs (Decidable (leaves s.place = false))
  | s,.fires => inferInstanceAs (Decidable (s.timer.pending = true ∧ s.callback = .idle))
  | s,.callback _ => inferInstanceAs (Decidable (s.callback ≠ .idle))

-- my_timer_func runs in a whole driver, and a failed load leaves none of it.
structure Whole (s : System) : Prop where
  ready : s.callback ≠ .idle → s.workqueue = true ∧ s.work = true
  unarmed : ∀ result ≠ 0,s.place = .returned result → s.timer.pending = false
  undone : ∀ result ≠ 0,s.place = .returned result →
    s.region = false ∧ s.cdev = .absent ∧ s.classCreated = false ∧ s.device = false

-- The timer fires after INIT_WORK, and neither cdev_add nor
-- create_singlethread_workqueue fails.
def Timely (s : System) : Event → Prop
  | .init _ result => s.place = .cdevAdd ∨ s.place = .createWorkqueue → 0 ≤ result
  | .fires => s.workqueue = true ∧ s.work = true
  | .callback _ => True

instance decidableTimely : ∀ s event,Decidable (Timely s event)
  | s,.init _ result => inferInstanceAs (Decidable (s.place = .cdevAdd ∨ s.place = .createWorkqueue → 0 ≤ result))
  | s,.fires => inferInstanceAs (Decidable (s.workqueue = true ∧ s.work = true))
  | _,.callback _ => .isTrue trivial

def beforeArming : Place → Bool
  | .createWorkqueue | .initWork => false
  | .returned result => result != 0
  | _ => true

def beforeClass : Place → Bool
  | .deviceCreate | .setupTimer | .armTimer | .createWorkqueue | .initWork => false
  | .returned result => result != 0
  | _ => true

def beforeCdev : Place → Bool
  | .allocRegion | .cdevAlloc | .unregisterRegion _ => true
  | .returned result => result != 0
  | _ => false

def beforeRegion : Place → Bool
  | .allocRegion => true
  | .returned result => result != 0
  | _ => false

structure Sound (s : System) : Prop where
  ready : s.callback ≠ .idle → s.workqueue = true ∧ s.work = true
  unarmed : beforeArming s.place = true → s.timer.pending = false ∧ s.callback = .idle
  classless : beforeClass s.place = true → s.classCreated = false ∧ s.device = false
  cdevless : beforeCdev s.place = true → s.cdev = .absent
  regionless : beforeRegion s.place = true → s.region = false

structure Left (s : System) : Prop where
  failing : ∃ code ≠ 0,s.place = .returned code ∨ s.place = .unregisterRegion code ∨
    (s.place = .cdevDel code ∧ s.classCreated = true)
  kept : s.classCreated = true ∨ s.cdev ≠ .absent

section Steps
variable {blinkDelay : BitVec 64} {s : System}

theorem kbledsInit_sound (jiffies : BitVec 64) (result : Int) (sound : Sound s)
    (timely : s.place = .cdevAdd ∨ s.place = .createWorkqueue → 0 ≤ result) :
    Sound (kbledsInit blinkDelay jiffies result s) := by
  obtain ⟨ready,quiet,classes,cdevs,regions⟩ := sound
  cases place : s.place with
  | allocRegion =>
      simp only [place,beforeArming,beforeClass,beforeCdev,beforeRegion,forall_const] at quiet classes cdevs regions
      simp only [kbledsInit,place]
      split
      · exact ⟨ready,fun _ => quiet,fun _ => classes,fun _ => cdevs,fun _ => regions⟩
      · exact ⟨ready,fun _ => quiet,fun _ => classes,fun _ => cdevs,by simp [beforeRegion]⟩
  | cdevAlloc =>
      simp only [place,beforeArming,beforeClass,forall_const] at quiet classes
      simp only [kbledsInit,place]
      exact ⟨ready,fun _ => quiet,fun _ => classes,by simp [beforeCdev],by simp [beforeRegion]⟩
  | cdevInit =>
      simp only [place,beforeArming,beforeClass,forall_const] at quiet classes
      simp only [kbledsInit,place]
      split <;> exact ⟨ready,fun _ => quiet,fun _ => classes,by simp [beforeCdev],by simp [beforeRegion]⟩
  | cdevAdd =>
      simp only [place,beforeArming,beforeClass,forall_const] at quiet classes
      simp only [kbledsInit,place,if_neg (Int.not_lt.mpr (timely (.inl place)))]
      exact ⟨ready,fun _ => quiet,fun _ => classes,by simp [beforeCdev],by simp [beforeRegion]⟩
  | classCreate =>
      simp only [place,beforeArming,beforeClass,forall_const] at quiet classes
      simp only [kbledsInit,place]
      split
      · exact ⟨ready,fun _ => quiet,fun _ => classes,by simp [beforeCdev],by simp [beforeRegion]⟩
      · exact ⟨ready,fun _ => quiet,by simp [beforeClass],by simp [beforeCdev],by simp [beforeRegion]⟩
  | deviceCreate | setupTimer =>
      simp only [place,beforeArming,forall_const] at quiet
      simp only [kbledsInit,place]
      exact ⟨ready,fun _ => quiet,by simp [beforeClass],by simp [beforeCdev],by simp [beforeRegion]⟩
  | armTimer =>
      simp only [kbledsInit,place]
      exact ⟨ready,by simp [beforeArming],by simp [beforeClass],by simp [beforeCdev],by simp [beforeRegion]⟩
  | createWorkqueue =>
      simp only [kbledsInit,place,if_neg (Int.not_lt.mpr (timely (.inr place)))]
      exact ⟨fun runs => ⟨rfl,(ready runs).2⟩,by simp [beforeArming],by simp [beforeClass],by simp [beforeCdev],
        by simp [beforeRegion]⟩
  | initWork =>
      simp only [kbledsInit,place]
      exact ⟨fun runs => ⟨(ready runs).1,rfl⟩,by simp [beforeArming],by simp [beforeClass],by simp [beforeCdev],
        by simp [beforeRegion]⟩
  | cdevDel code =>
      simp only [place,beforeArming,beforeClass,forall_const] at quiet classes
      simp only [kbledsInit,place]
      exact ⟨ready,fun _ => quiet,fun _ => classes,fun _ => rfl,by simp [beforeRegion]⟩
  | unregisterRegion code =>
      simp only [place,beforeArming,beforeClass,beforeCdev,forall_const] at quiet classes cdevs
      simp only [kbledsInit,place]
      exact ⟨ready,fun _ => quiet,fun _ => classes,fun _ => cdevs,fun _ => rfl⟩
  | returned code | crashed => simpa only [kbledsInit,place] using Sound.mk ready quiet classes cdevs regions

theorem apply_sound (s : System) (event : Event) (sound : Sound s)
    (step : (machine blinkDelay).Allowed s event ∧ Timely s event) : Sound ((machine blinkDelay).apply s event) := by
  obtain ⟨allowed,timely⟩ := step
  cases event with
  | init jiffies result => exact kbledsInit_sound jiffies result sound timely
  | fires =>
      have armed : beforeArming s.place ≠ true := by
        intro here
        have pending := (sound.unarmed here).1
        rw [allowed.1] at pending
        cases pending
      exact ⟨fun _ => timely,fun here => absurd here armed,sound.classless,sound.cdevless,sound.regionless⟩
  | callback jiffies =>
      exact ⟨fun _ => sound.ready allowed,fun here => absurd (sound.unarmed here).2 allowed,sound.classless,sound.cdevless,
        sound.regionless⟩

theorem Sound.whole (sound : Sound s) : Whole s := by
  refine ⟨sound.ready,?_,?_⟩
  · intro result failed place
    exact (sound.unarmed (by simp [place,beforeArming,failed])).1
  · intro result failed place
    obtain ⟨classes,devices⟩ := sound.classless (by simp [place,beforeClass,failed])
    exact ⟨sound.regionless (by simp [place,beforeRegion,failed]),sound.cdevless (by simp [place,beforeCdev,failed]),
      classes,devices⟩

theorem kbledsInit_left (jiffies : BitVec 64) (result : Int) (left : Left s) :
    Left (kbledsInit blinkDelay jiffies result s) := by
  obtain ⟨⟨code,failed,place | place | ⟨place,created⟩⟩,kept⟩ := left
  · simp only [kbledsInit,place]
    exact ⟨⟨code,failed,.inl place⟩,kept⟩
  · simp only [kbledsInit,place]
    exact ⟨⟨code,failed,.inl rfl⟩,kept⟩
  · simp only [kbledsInit,place]
    exact ⟨⟨code,failed,.inr (.inl rfl)⟩,.inl created⟩

theorem apply_left (s : System) (event : Event) (left : Left s) : Left ((machine blinkDelay).apply s event) := by
  cases event with
  | init jiffies result => exact kbledsInit_left jiffies result left
  | fires | callback jiffies => exact ⟨left.failing,left.kept⟩

def afterClass : Place → Bool
  | .deviceCreate | .setupTimer | .armTimer | .createWorkqueue => true
  | _ => false

structure Built (s : System) : Prop where
  created : afterClass s.place = true → s.classCreated = true
  allocated : s.place = .cdevAdd → s.cdev ≠ .absent

theorem kbledsInit_built (jiffies : BitVec 64) (result : Int) (built : Built s) :
    Built (kbledsInit blinkDelay jiffies result s) := by
  obtain ⟨created,allocated⟩ := built
  cases place : s.place with
  | cdevInit =>
      by_cases null : s.cdev = .absent
      · exact ⟨by simp [kbledsInit,place,null,afterClass],by simp [kbledsInit,place,null]⟩
      · exact ⟨by simp [kbledsInit,place,null,afterClass],fun _ => by simpa [kbledsInit,place] using null⟩
  | deviceCreate | setupTimer | armTimer =>
      simp only [place,afterClass,forall_const] at created
      simp only [kbledsInit,place]
      exact ⟨fun _ => created,by simp⟩
  | allocRegion | cdevAdd | classCreate | createWorkqueue =>
      simp only [kbledsInit,place]
      split <;> exact ⟨by simp [afterClass],by simp⟩
  | returned code | crashed => simpa only [kbledsInit,place] using Built.mk created allocated
  | _ =>
      simp only [kbledsInit,place]
      exact ⟨by simp [afterClass],by simp⟩

theorem apply_built (s : System) (event : Event) (built : Built s) : Built ((machine blinkDelay).apply s event) := by
  cases event with
  | init jiffies result => exact kbledsInit_built jiffies result built
  | fires | callback jiffies => exact ⟨built.created,built.allocated⟩

theorem untimely_left (s : System) (event : Event) (built : Built s) (after : Whole ((machine blinkDelay).apply s event))
    (untimely : ¬ Timely s event) : Left ((machine blinkDelay).apply s event) := by
  cases event with
  | init jiffies result =>
      simp only [Timely,Classical.not_imp,Int.not_le] at untimely
      obtain ⟨place | place,failed⟩ := untimely
      · simp only [machine,kbledsInit,place,if_pos failed]
        exact ⟨⟨result,by omega,.inr (.inl rfl)⟩,.inr (built.allocated place)⟩
      · have created := built.created (by simp [place,afterClass])
        simp only [machine,kbledsInit,place,if_pos failed]
        exact ⟨⟨-1,by decide,.inr (.inr ⟨rfl,created⟩)⟩,.inl created⟩
  | fires => exact absurd (after.ready (by simp [machine])) untimely
  | callback jiffies => exact absurd trivial untimely

end Steps

theorem load_whole (blinkDelay : BitVec 64) (events : List Event) (path : (machine blinkDelay).Runs {} events) :
    ((machine blinkDelay).Along Timely {} events → (machine blinkDelay).Throughout Whole {} events) ∧
    (leaves ((machine blinkDelay).run {} events).place = true → (machine blinkDelay).Throughout Whole {} events →
      (machine blinkDelay).Along Timely {} events) := by
  constructor
  · intro timely
    have start : Sound {} := ⟨by simp,fun _ => ⟨rfl,rfl⟩,fun _ => ⟨rfl,rfl⟩,fun _ => rfl,fun _ => rfl⟩
    exact (Machine.throughout_of_invariant apply_sound start (Machine.along_and.mpr ⟨path,timely⟩)).imp
      fun _ sound => sound.whole
  · intro left whole
    have start : Built {} := ⟨by simp [afterClass],by simp⟩
    apply Machine.along_of_doomed (fun s event built _ => apply_built s event built)
      (fun s event built _ after untimely => untimely_left s event built after untimely)
      (fun s event _ _ left => apply_left s event left) start path whole
    rintro ⟨⟨code,failed,place | place | ⟨place,_⟩⟩,kept⟩
    · obtain ⟨_,cdev,created,_⟩ := whole.last.undone code failed place
      rcases kept with class' | allocated
      · rw [created] at class'
        cases class'
      · exact allocated cdev
    · simp [place,leaves] at left
    · simp [place,leaves] at left

def loading : List Event := List.replicate 10 (.init 0#64 0)

theorem load_whole_fires :
    ((machine 50#64).Along Timely {} (loading ++ [.fires]) → (machine 50#64).Throughout Whole {} (loading ++ [.fires])) ∧
    (leaves ((machine 50#64).run {} (loading ++ [.fires])).place = true →
      (machine 50#64).Throughout Whole {} (loading ++ [.fires]) → (machine 50#64).Along Timely {} (loading ++ [.fires])) :=
  load_whole 50#64 (loading ++ [.fires]) (by decide +kernel)

def noWorkqueue : List Event := List.replicate 8 (.init 0#64 0) ++ [.init 0#64 (-1),.init 0#64 0,.init 0#64 0]
def firesEarly : List Event := List.replicate 8 (.init 0#64 0) ++ [.fires]

theorem load_exposes :
    ((machine 50#64).Runs {} noWorkqueue ∧ ¬ (machine 50#64).Throughout Whole {} noWorkqueue) ∧
    (machine 50#64).Runs {} firesEarly ∧ ¬ (machine 50#64).Throughout Whole {} firesEarly := by
  refine ⟨⟨by decide +kernel,?_⟩,by decide +kernel,?_⟩
  · intro whole
    exact absurd (whole.last.unarmed (-1) (by decide) (by decide +kernel)) (by decide +kernel)
  · intro whole
    exact absurd (whole.last.ready (by decide +kernel)) (by decide +kernel)

end LinuxDeviceDrivers.BlinkplusLoad
