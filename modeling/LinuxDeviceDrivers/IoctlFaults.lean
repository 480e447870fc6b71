import LinuxDeviceDrivers.TimerRearming

namespace LinuxDeviceDrivers.IoctlFaults
open Transition KernelTimer
open TimerRearming (Driver Errno Argument copyDelay)

-- blink_delay or secs2hello with its timer, and kbledstatus, which helloplus
-- does not have.
structure System where
  timer : Timer
  delay : BitVec 64
  kbledstatus : BitVec 64 := 0#64

-- Where a getter copies to: NULL, memory that copy_to_user cannot write to its
-- end, or a long.
inductive Destination where
  | null
  | faults
  | writable

-- GETINV or GET_DELAY, SETINV or SET_DELAY, SETLED, and every other number.
inductive Command where
  | getDelay (destination : Destination)
  | setDelay (argument : Argument)
  | setLed (argument : Argument)
  | unknown

structure Reply where
  ret : Int
  given : Option (BitVec 64) := none

def enotty : Int := -25

def errnoValue : Errno → Int
  | .einval => -22
  | .efault => -14

-- my_timer_func, called by the kernel that has just taken the timer off, and the
-- end of the setters do the same to the timer.
def rearm (jiffies : BitVec 64) (s : System) : System :=
  {s with timer := addTimer (setExpires (jiffies+s.delay) (delTimer s.timer))}

def getDelay (destination : Destination) (s : System) : Reply :=
  match destination with
  | .null => ⟨errnoValue .einval,none⟩
  | .faults => ⟨errnoValue .efault,none⟩
  | .writable => ⟨0,some s.delay⟩

-- copy_from_user writes the live variable.
def setDelay (jiffies : BitVec 64) (argument : Argument) (s : System) : Reply × System :=
  match copyDelay argument s.delay with
  | (some errno,delay) => (⟨errnoValue errno,none⟩,{s with delay := delay})
  | (none,delay) => (⟨0,none⟩,rearm jiffies {s with delay := delay})

def setLed (argument : Argument) (s : System) : Reply × System :=
  match copyDelay argument s.kbledstatus with
  | (some errno,kbledstatus) => (⟨errnoValue errno,none⟩,{s with kbledstatus := kbledstatus})
  | (none,kbledstatus) => (⟨0,none⟩,{s with kbledstatus := kbledstatus})

def ioctl (driver : Driver) (jiffies : BitVec 64) (command : Command) (s : System) : Reply × System :=
  match command with
  | .getDelay destination => (getDelay destination s,s)
  | .setDelay argument => setDelay jiffies argument s
  | .setLed argument => match driver with
    | .blinkplus => setLed argument s
    | .helloplus => (⟨enotty,none⟩,s)
  | .unknown => (⟨enotty,none⟩,s)

structure History where
  system : System
  last : BitVec 64

inductive Event where
  | ioctl (jiffies : BitVec 64) (command : Command)
  | fires (jiffies : BitVec 64)

def requested : Command → Option (BitVec 64)
  | .setDelay (.holds delay) => some delay
  | _ => none

def calls (driver : Driver) (jiffies : BitVec 64) (command : Command) (h : History) : History :=
  let (reply,next) := ioctl driver jiffies command h.system
  ⟨next,if reply.ret = 0 then (requested command).getD h.last else h.last⟩

def machine (driver : Driver) : Machine History Event where
  Allowed h event := match event with
    | .ioctl _ _ => True
    | .fires _ => h.system.timer.pending = true
  apply h event := match event with
    | .ioctl jiffies command => calls driver jiffies command h
    | .fires jiffies => {h with system := rearm jiffies h.system}

def initialDelay (driver : Driver) (hz : Nat) : BitVec 64 :=
  match driver with
  | .blinkplus => BitVec.ofNat 64 (hz/5)
  | .helloplus => BitVec.ofNat 64 (hz/2)

def started (driver : Driver) (hz : Nat) (jiffies : BitVec 64) : History where
  system := {
    timer := (TimerRearming.started driver jiffies (initialDelay driver hz)).timer
    delay := initialDelay driver hz}
  last := initialDelay driver hz

-- An error leaves everything as it was; a getter and the callback go by the last
-- delay that was set.
def Faithful (driver : Driver) (h : History) : Event → Prop
  | .ioctl jiffies command =>
      ((ioctl driver jiffies command h.system).1.ret ≠ 0 → (ioctl driver jiffies command h.system).2 = h.system) ∧
        ∀ delay ∈ (ioctl driver jiffies command h.system).1.given,delay = h.last
  | .fires jiffies => (rearm jiffies h.system).timer.pending = true ∧
      (rearm jiffies h.system).timer.expires = jiffies+h.last

-- No copy_from_user fails after it has changed the variable.
def Intact (driver : Driver) (h : History) : Event → Prop
  | .ioctl _ (.setDelay (.faults delay)) => delay = h.system.delay
  | .ioctl _ (.setLed (.faults kbledstatus)) => driver = .blinkplus → kbledstatus = h.system.kbledstatus
  | _ => True

def Current (h : History) : Prop := h.system.delay = h.last

section Steps
variable {driver : Driver} {h : History}

theorem errnoValue_ne (errno : Errno) : errnoValue errno ≠ 0 := by
  cases errno <;> decide

theorem command_faithful (current : Current h) (jiffies : BitVec 64) (command : Command) :
    Faithful driver h (.ioctl jiffies command) ↔ Intact driver h (.ioctl jiffies command) := by
  cases command with
  | getDelay destination =>
      refine iff_of_true ⟨fun _ => rfl,?_⟩ trivial
      intro delay given
      cases destination with
      | null => cases given
      | faults => cases given
      | writable =>
          cases given
          exact current
  | setDelay argument =>
      cases argument with
      | null => exact iff_of_true ⟨fun _ => rfl,fun _ given => by cases given⟩ trivial
      | holds delay => exact iff_of_true ⟨fun fails => absurd rfl fails,fun _ given => by cases given⟩ trivial
      | faults delay =>
          constructor
          · intro faithful
            exact congrArg System.delay (faithful.1 (errnoValue_ne .efault))
          · intro intact
            have same : delay = h.system.delay := intact
            subst same
            exact ⟨fun _ => rfl,fun _ given => by cases given⟩
  | setLed argument =>
      cases driver with
      | helloplus =>
          refine iff_of_true ⟨fun _ => rfl,fun _ given => by cases given⟩ ?_
          cases argument <;> simp [Intact]
      | blinkplus =>
          cases argument with
          | null => exact iff_of_true ⟨fun _ => rfl,fun _ given => by cases given⟩ trivial
          | holds kbledstatus =>
              exact iff_of_true ⟨fun fails => absurd rfl fails,fun _ given => by cases given⟩ trivial
          | faults kbledstatus =>
              constructor
              · intro faithful _
                exact congrArg System.kbledstatus (faithful.1 (errnoValue_ne .efault))
              · intro intact
                have same : kbledstatus = h.system.kbledstatus := intact rfl
                subst same
                exact ⟨fun _ => rfl,fun _ given => by cases given⟩
  | unknown => exact iff_of_true ⟨fun _ => rfl,fun _ given => by cases given⟩ trivial

theorem event_faithful (h : History) (event : Event) (current : Current h) (_allowed : (machine driver).Allowed h event) :
    Faithful driver h event ↔ Intact driver h event := by
  cases event with
  | ioctl jiffies command => exact command_faithful current jiffies command
  | fires jiffies => exact iff_of_true ⟨rfl,congrArg (jiffies+·) current⟩ trivial

theorem apply_current (h : History) (event : Event) (current : Current h) (_allowed : (machine driver).Allowed h event)
    (intact : Intact driver h event) : Current ((machine driver).apply h event) := by
  cases event with
  | fires jiffies => exact current
  | ioctl jiffies command =>
      cases command with
      | getDelay destination => cases destination <;> exact current
      | setDelay argument =>
          cases argument with
          | null => exact current
          | holds delay => rfl
          | faults delay => exact Eq.trans intact current
      | setLed argument => cases driver <;> cases argument <;> exact current
      | unknown => exact current

end Steps

theorem failed_ioctl_iff (driver : Driver) (hz : Nat) (jiffies : BitVec 64) (events : List Event)
    (path : (machine driver).Runs (started driver hz jiffies) events) :
    (machine driver).Along (Faithful driver) (started driver hz jiffies) events ↔
      (machine driver).Along (Intact driver) (started driver hz jiffies) events :=
  Machine.along_exact event_faithful apply_current rfl path

def everySecond : List Event := [.ioctl 0#64 (.setDelay (.holds 250#64)),.ioctl 1#64 (.getDelay .writable),.fires 251#64]

theorem failed_ioctl_everySecond :
    (machine .blinkplus).Along (Faithful .blinkplus) (started .blinkplus 250 0#64) everySecond :=
  (failed_ioctl_iff .blinkplus 250 0#64 everySecond ⟨trivial,trivial,rfl,trivial⟩).mpr ⟨trivial,trivial,trivial,trivial⟩

def failedSetter : List Event := [.ioctl 0#64 (.setDelay (.faults 0#64)),.fires 50#64]

theorem failed_setinv_rearms : (machine .blinkplus).Runs (started .blinkplus 250 0#64) failedSetter ∧
    ¬ (machine .blinkplus).Along (Faithful .blinkplus) (started .blinkplus 250 0#64) failedSetter := by
  refine ⟨⟨trivial,rfl,trivial⟩,?_⟩
  intro faithful
  exact absurd faithful.2.1.2 (by decide)

section Atomicity
variable {driver : Driver} {s : TimerRearming.System}

def live (s : TimerRearming.System) (kbledstatus : BitVec 64) : System := ⟨s.timer,s.delay,kbledstatus⟩

def statements (i : Nat) (jiffies : BitVec 64) : Argument → List TimerRearming.Event
  | .holds delay => [.enters i (.holds delay),.ioctl i jiffies,.ioctl i jiffies,.ioctl i jiffies]
  | argument => [.enters i argument]

theorem setDelay_statements (argument : Argument) (i : Nat) (jiffies kbledstatus : BitVec 64) :
    live ((TimerRearming.machine driver).run s (statements i jiffies argument)) kbledstatus =
      (setDelay jiffies argument (live s kbledstatus)).2 := by
  cases argument with
  | null => rfl
  | faults delay => rfl
  | holds delay => simp [statements,TimerRearming.machine,TimerRearming.enters,TimerRearming.ioctl,copyDelay,live,
      setDelay,rearm]

def callbackStatements (driver : Driver) (jiffies : BitVec 64) : List TimerRearming.Event :=
  match driver with
  | .blinkplus => [.fires,.callback jiffies,.callback jiffies,.callback jiffies,.callback jiffies]
  | .helloplus => [.fires,.callback jiffies,.callback jiffies,.callback jiffies]

theorem callback_statements (driver : Driver) (s : TimerRearming.System) (jiffies kbledstatus : BitVec 64) :
    live ((TimerRearming.machine driver).run s (callbackStatements driver jiffies)) kbledstatus =
      rearm jiffies (live s kbledstatus) := by
  cases driver <;> rfl

end Atomicity

end LinuxDeviceDrivers.IoctlFaults
