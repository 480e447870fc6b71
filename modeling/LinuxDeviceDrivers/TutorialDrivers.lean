import LinuxDeviceDrivers.DeferredWork
import LinuxDeviceDrivers.LoadRoutine

namespace LinuxDeviceDrivers.TutorialDrivers
open Transition ResourceLedger LoadRoutine

inductive Call where
  | allocChrdevRegion
  | cdevAdd
  | classCreate
  | deviceCreate
  | requestIrq
  | kmalloc
  | taskletInit
  | hrtimerStart
  | kthreadRun (second : Bool)
  | kthreadStop (second : Bool)
  | hrtimerCancel
  | taskletKill
  | kfree
  | freeIrq
  | deviceDestroy
  | classDestroy
  | cdevDel
  | unregisterChrdevRegion
deriving DecidableEq

inductive Resource where
  | region
  | cdev
  | cls
  | device
  | irq
  | memory
  | thread (second : Bool)
deriving DecidableEq

def effect : Call → Effect Resource
  | .allocChrdevRegion => .acquires .region
  | .cdevAdd => .acquires .cdev
  | .classCreate => .acquires .cls
  | .deviceCreate => .acquires .device
  | .requestIrq => .acquires .irq
  | .kmalloc => .acquires .memory
  | .kthreadRun second => .acquires (.thread second)
  | .kthreadStop second => .releases (.thread second)
  | .kfree => .releases .memory
  | .freeIrq => .releases .irq
  | .deviceDestroy => .releases .device
  | .classDestroy => .releases .cls
  | .cdevDel => .releases .cdev
  | .unregisterChrdevRegion => .releases .region
  | _ => .neither

-- What the kernel refuses in one load; the other calls cannot fail.
structure Refusals where
  region : Bool := false
  cdev : Bool := false
  cls : Bool := false
  device : Bool := false
  irq : Bool := false
  memory : Bool := false
  thread1 : Bool := false
  thread2 : Bool := false
deriving DecidableEq

def Refusals.of (r : Refusals) : Call → Bool
  | .allocChrdevRegion => r.region
  | .cdevAdd => r.cdev
  | .classCreate => r.cls
  | .deviceCreate => r.device
  | .requestIrq => r.irq
  | .kmalloc => r.memory
  | .kthreadRun second => if second then r.thread2 else r.thread1
  | _ => false

inductive Driver where
  | basicIrqHandler
  | staticTasklet
  | dynamicTasklet
  | hrtimer
  | atomicOprs
deriving DecidableEq

def rClass : Driver → List Call
  | .hrtimer => [.unregisterChrdevRegion]
  | _ => [.unregisterChrdevRegion,.cdevDel]
def rDevice (driver : Driver) : List Call := .classDestroy :: rClass driver
def irq (driver : Driver) : List Call := .freeIrq :: rDevice driver

-- class_create, device_create and kthread_run refuse with an ERR_PTR, which the
-- comparison with NULL takes for a success.
def registering (driver : Driver) : List (Stage Call) :=
  [{call := .allocChrdevRegion},
   {call := .cdevAdd,undo := rClass driver},
   {call := .classCreate,noticed := false,undo := rClass driver},
   {call := .deviceCreate,noticed := false,undo := rDevice driver}]

def etxDriverInit : Driver → List (Stage Call)
  | .basicIrqHandler => registering .basicIrqHandler ++ [{call := .requestIrq,undo := irq .basicIrqHandler}]
  | .staticTasklet => registering .staticTasklet ++ [{call := .requestIrq,undo := irq .staticTasklet}]
  | .dynamicTasklet => registering .dynamicTasklet ++
      [{call := .requestIrq,undo := irq .dynamicTasklet},
       {call := .kmalloc,undo := irq .dynamicTasklet},
       {call := .taskletInit}]
  | .hrtimer => registering .hrtimer ++ [{call := .hrtimerStart}]
  | .atomicOprs => registering .atomicOprs ++
      [{call := .kthreadRun false,noticed := false,undo := rDevice .atomicOprs},
       {call := .kthreadRun true,noticed := false,undo := rDevice .atomicOprs}]

def unregistering : List Call := [.deviceDestroy,.classDestroy,.cdevDel,.unregisterChrdevRegion]

def etxDriverExit : Driver → List Call
  | .basicIrqHandler => .freeIrq :: unregistering
  | .staticTasklet => [.taskletKill,.freeIrq] ++ unregistering
  | .dynamicTasklet => [.taskletKill,.kfree,.freeIrq] ++ unregistering
  | .hrtimer => .hrtimerCancel :: unregistering
  | .atomicOprs => [.kthreadStop false,.kthreadStop true] ++ unregistering

def calls (driver : Driver) (r : Refusals) : List Call := cycle r.of (etxDriverInit driver) (etxDriverExit driver)

def loading (driver : Driver) : Machine (Ledger Resource) Refusals where
  Allowed _ _ := True
  apply l r := performAll effect l (calls driver r)

-- The refusals that a load gets over without a trace. The label for a refused
-- kmalloc forgets the device node, so it is right only if there is none.
def forgiven (driver : Driver) (r : Refusals) : Bool :=
  match driver with
  | .basicIrqHandler => r.region || !(r.cdev || r.cls || r.device || r.irq)
  | .staticTasklet => r.region || !(r.cdev || r.cls || r.device || r.irq)
  | .dynamicTasklet => r.region || !(r.cdev || r.cls || r.irq || r.memory != r.device)
  | .hrtimer => r.region || r.cdev || !(r.cls || r.device)
  | .atomicOprs => r.region || !(r.cdev || r.cls || r.device || r.thread1 || r.thread2)

theorem undone_iff (driver : Driver) (r : Refusals) :
    (released effect ((verdict r.of (etxDriverInit driver)).getD (etxDriverExit driver))).Perm
      (acquired effect (granted r.of (etxDriverInit driver))) ↔ forgiven driver r = true := by
  obtain ⟨region,cdev,cls,device,irq,memory,thread1,thread2⟩ := r
  cases driver <;> revert region cdev cls device irq memory thread1 thread2 <;> decide

theorem calls_clean_iff (driver : Driver) (r : Refusals) :
    Clean (performAll effect {} (calls driver r)) ↔ forgiven driver r = true := by
  have takes : ∀ stage ∈ etxDriverInit driver,(effect stage.call).released = none := by cases driver <;> decide
  have gives : ∀ stage ∈ etxDriverInit driver,∀ call ∈ stage.undo,(effect call).acquired = none := by cases driver <;> decide
  have last : ∀ call ∈ etxDriverExit driver,(effect call).acquired = none := by cases driver <;> decide
  rw [calls,cycle_clean takes gives last,undone_iff]

-- The work each driver leaves to be done later, and what its calls mean to it.
-- free_irq waits for the handler, hrtimer_cancel for the callback, kthread_stop
-- for the thread; tasklet_kill waits for the tasklet but keeps no one from
-- scheduling it again.
inductive Job where
  | handler
  | staticTasklet
  | dynamicTasklet
  | timer
  | thread (second : Bool)

def Job.driver : Job → Driver
  | handler => .basicIrqHandler
  | staticTasklet => .staticTasklet
  | dynamicTasklet => .dynamicTasklet
  | timer => .hrtimer
  | thread _ => .atomicOprs

def Job.steps (job : Job) (call : Call) : List DeferredWork.Step :=
  match job,call with
  | handler,.requestIrq => [.arms]
  | handler,.freeIrq => [.disarms,.cancels]
  | staticTasklet,.requestIrq => [.arms]
  | staticTasklet,.taskletKill => [.cancels]
  | staticTasklet,.freeIrq => [.disarms]
  | dynamicTasklet,.requestIrq => [.arms]
  | dynamicTasklet,.taskletInit => [.born]
  | dynamicTasklet,.taskletKill => [.cancels]
  | dynamicTasklet,.kfree => [.dies]
  | dynamicTasklet,.freeIrq => [.disarms]
  | timer,.hrtimerStart => [.arms]
  | timer,.hrtimerCancel => [.disarms,.cancels]
  | thread second,.kthreadRun other => if second = other then [.arms] else []
  | thread second,.kthreadStop other => if second = other then [.disarms,.cancels] else []
  | _,_ => []

def Job.life (job : Job) (r : Refusals) : List DeferredWork.Step :=
  let steps := (calls job.driver r).flatMap job.steps
  match job with
  | dynamicTasklet => steps
  | _ => .born :: steps ++ [.dies]

-- The tasklets are safe only where no interrupt ever reaches the driver.
def Job.quiet (job : Job) (r : Refusals) : Bool :=
  match job with
  | staticTasklet => r.region || r.cdev || r.irq
  | dynamicTasklet => r.region || r.cdev || r.irq
  | _ => true

theorem life_checked (job : Job) (r : Refusals) :
    DeferredWork.Footprint.check {} (job.life r) = job.quiet r ∧
      (job.quiet r = true → (job.life r).foldl DeferredWork.Footprint.after {} = {}) := by
  obtain ⟨region,cdev,cls,device,irq,memory,thread1,thread2⟩ := r
  cases job with
  | handler => revert region cdev cls device irq memory thread1 thread2; decide
  | staticTasklet => revert region cdev cls device irq memory thread1 thread2; decide
  | dynamicTasklet => revert region cdev cls device irq memory thread1 thread2; decide
  | timer => revert region cdev cls device irq memory thread1 thread2; decide
  | thread second => revert second region cdev cls device irq memory thread1 thread2; decide

theorem late_work_iff (job : Job) (history : List Refusals) :
    (∀ events,DeferredWork.steps events = (history.map job.life).flatten → (DeferredWork.machine.run {} events).faulted = false) ↔
      ∀ r ∈ history,job.quiet r = true := by
  have clean : ∀ prog ∈ history.map job.life,DeferredWork.Footprint.check {} prog = true → prog.foldl DeferredWork.Footprint.after {} = {} := by
    intro prog member checked
    obtain ⟨r,_,rfl⟩ := List.mem_map.mp member
    exact (life_checked job r).2 ((life_checked job r).1.symm.trans checked)
  rw [DeferredWork.intact_iff,DeferredWork.check_flatten clean,List.forall_mem_map]
  simp only [(life_checked job _).1]

end LinuxDeviceDrivers.TutorialDrivers
