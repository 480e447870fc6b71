import LinuxDeviceDrivers.Rtl8139OpenStop

namespace LinuxDeviceDrivers.Rtl8139Unbind
open Transition Rtl8139Lifecycle Rtl8139OpenStop

-- A net_device from rtl8139_probe to the free_netdev of rtl8139_remove. The
-- private structure that its handler works on lies in its memory.
inductive Stage where
  | unprobed
  | registered
  | freed
deriving DecidableEq

structure Netdev where
  stage : Stage := .unprobed
  life : System := {}

inductive Event where
  | probes
  | life (event : Rtl8139Lifecycle.Event)
  | removes

def byStack : Rtl8139Lifecycle.Event → Bool
  | .opens _ | .stops => true
  | .interrupt _ | .reaps _ | .receives _ _ => false

-- unregister_netdev has the interface stopped before it returns, and after it
-- the stack calls open no more. It knows nothing of the handlers on the line.
def machine : Machine Netdev Event where
  Allowed d event := match event with
    | .probes => d.stage = .unprobed
    | .life event => Rtl8139Lifecycle.machine.Allowed d.life event ∧ (byStack event = true → d.stage = .registered)
    | .removes => d.stage = .registered ∧ d.life.phase = .down
  apply d event := match event with
    | .probes => {d with stage := .registered}
    | .life event => {d with life := Rtl8139Lifecycle.machine.apply d.life event}
    | .removes => {d with stage := .freed}

instance decidableAllowed : ∀ d event,Decidable (machine.Allowed d event)
  | d,.probes => inferInstanceAs (Decidable (d.stage = .unprobed))
  | d,.life event => inferInstanceAs
      (Decidable (Rtl8139Lifecycle.machine.Allowed d.life event ∧ (byStack event = true → d.stage = .registered)))
  | d,.removes => inferInstanceAs (Decidable (d.stage = .registered ∧ d.life.phase = .down))

def bus : Machine (Nat → Netdev) (Nat × Event) := machine.family
def absent : Nat → Netdev := fun _ => {}

instance (s : Nat → Netdev) (event : Nat × Event) : Decidable (bus.Allowed s event) :=
  inferInstanceAs (Decidable (machine.family.Allowed s event))

def OpenFails (d : Netdev) : Event → Prop
  | .life event => AllocationFails d.life event
  | .probes | .removes => False

def Unlost (d : Netdev) : Prop := Loses d.life 0

structure Sound (d : Netdev) : Prop where
  account : ∃ count,Loses d.life count
  running : d.life.handler ≠ .idle → 0 < handlers d.life
  removed : d.stage = .freed → d.life.phase = .down

section Handlers
variable {s : System}

theorem Loses.unique (one : Loses s first) (two : Loses s second) : first = second := by
  rw [Loses] at one two
  omega

theorem rtl8139Open_handlers (granted : Bool) (s : System) : handlers s ≤ handlers (rtl8139Open granted s) := by
  cases phase : s.phase with
  | down => cases granted <;> simp [rtl8139Open,phase,requestIrq,handlers]
  | allocTx | allocRx => cases granted <;> simp [rtl8139Open,phase,pciAllocConsistent,handlers]
  | irq => simp [rtl8139Open,phase,freeIrq,handlers,List.count_erase_of_ne]
  | _ => simp [rtl8139Open,phase,pciFreeConsistent,handlers]

theorem rtl8139Open_handler (granted : Bool) (s : System) : (rtl8139Open granted s).handler = s.handler := by
  cases phase : s.phase with
  | down | allocTx | allocRx => cases granted <;> simp [rtl8139Open,phase,requestIrq,pciAllocConsistent]
  | _ => simp [rtl8139Open,phase,pciFreeConsistent,freeIrq]

theorem rtl8139Stop_handler (s : System) : (rtl8139Stop s).handler = s.handler := by
  cases phase : s.phase with
  | _ => simp [rtl8139Stop,phase,pciFreeConsistent,freeIrq]

theorem rtl8139Stop_handlers (s : System) (elsewhere : s.phase ≠ .freeIrq) : handlers (rtl8139Stop s) = handlers s := by
  cases phase : s.phase with
  | freeIrq => exact absurd phase elsewhere
  | _ => simp [rtl8139Stop,phase,pciFreeConsistent,handlers]

theorem registered_handlers : 0 < handlers s ↔ .netdev ∈ s.actions := List.count_pos_iff

theorem life_running (event : Rtl8139Lifecycle.Event) (running : s.handler ≠ .idle → 0 < handlers s)
    (allowed : Rtl8139Lifecycle.machine.Allowed s event) :
    (Rtl8139Lifecycle.machine.apply s event).handler ≠ .idle → 0 < handlers (Rtl8139Lifecycle.machine.apply s event) := by
  have handled : ∀ t,Handled s t → 0 < handlers s → 0 < handlers t := by
    intro t kept before
    rw [handlers,kept.actions]
    exact before
  cases event with
  | opens granted =>
      intro busy
      rw [show (Rtl8139Lifecycle.machine.apply s (.opens granted)).handler = s.handler from rtl8139Open_handler granted s] at busy
      exact Nat.lt_of_lt_of_le (running busy) (rtl8139Open_handlers granted s)
  | stops =>
      intro busy
      rw [show (Rtl8139Lifecycle.machine.apply s .stops).handler = s.handler from rtl8139Stop_handler s] at busy
      have elsewhere : s.phase ≠ .freeIrq := fun waiting => busy (allowed.2 waiting)
      exact (rtl8139Stop_handlers s elsewhere).symm ▸ running busy
  | interrupt isr => exact fun _ => handled _ (enters_handled isr s) (registered_handlers.mpr allowed.1)
  | reaps txStatus =>
      intro _
      have busy : s.handler ≠ .idle := by
        intro idle
        simp [Rtl8139Lifecycle.machine,Handler.transmitting,idle] at allowed
      exact handled _ (reaps_handled txStatus s) (running busy)
  | receives cr rxStatus =>
      intro _
      have reading : s.handler = .receive := allowed
      exact handled _ (receives_handled cr rxStatus s) (running (by simp [reading]))

theorem life_phase (event : Rtl8139Lifecycle.Event) (handlerStep : byStack event = false) :
    (Rtl8139Lifecycle.machine.apply s event).phase = s.phase := by
  cases event with
  | opens granted | stops => cases handlerStep
  | interrupt isr => exact (enters_handled isr s).phase
  | reaps txStatus => exact (reaps_handled txStatus s).phase
  | receives cr rxStatus => exact (receives_handled cr rxStatus s).phase

end Handlers

section Runs
variable {d : Netdev}

theorem apply_sound (d : Netdev) (event : Event) (sound : Sound d) (allowed : machine.Allowed d event) :
    Sound (machine.apply d event) := by
  obtain ⟨⟨count,account⟩,running,removed⟩ := sound
  cases event with
  | probes => exact ⟨⟨count,account⟩,running,nofun⟩
  | removes => exact ⟨⟨count,account⟩,running,fun _ => allowed.2⟩
  | life event =>
      refine ⟨⟨_,apply_loses d.life event account⟩,life_running event running allowed.1,?_⟩
      intro freed
      have handlerStep : byStack event = false := by
        by_contra stack
        have registered := allowed.2 (by simpa using stack)
        exact Stage.noConfusion (registered.symm.trans freed)
      exact (life_phase event handlerStep).trans (removed freed)

theorem unlost_exactly (d : Netdev) (event : Event) (sound : Sound d) :
    Unlost (machine.apply d event) ↔ Unlost d ∧ ¬ OpenFails d event := by
  cases event with
  | probes | removes => exact (and_iff_left id).symm
  | life event =>
      obtain ⟨count,account⟩ := sound.account
      have stepped := apply_loses d.life event account
      constructor
      · intro none
        have total := Loses.unique stepped none
        by_cases fails : AllocationFails d.life event
        · rw [if_pos fails] at total
          omega
        · rw [if_neg fails] at total
          obtain rfl : count = 0 := total
          exact ⟨account,fails⟩
      · rintro ⟨none,fails⟩
        obtain rfl := Loses.unique account none
        rw [if_neg (show ¬ AllocationFails d.life event from fails)] at stepped
        exact stepped

theorem stuck_iff (sound : Sound d) (freed : d.stage = .freed) :
    (∀ event,¬ machine.Allowed d event) ↔ Unlost d := by
  have down := sound.removed freed
  have none : Unlost d ↔ handlers d.life = 0 := by rw [Unlost,Loses,down]; rfl
  rw [none]
  constructor
  · intro stuck
    by_contra some
    have registered := registered_handlers.mp (Nat.pos_of_ne_zero some)
    have halted : ∀ event,byStack event = false → ¬ Rtl8139Lifecycle.machine.Allowed d.life event :=
      fun event handlerStep allowed => stuck (.life event) ⟨allowed,fun stack => Bool.noConfusion (handlerStep.symm.trans stack)⟩
    cases stands : d.life.handler with
    | idle => exact halted (.interrupt 0#16) rfl ⟨registered,stands⟩
    | transmit isr => exact halted (.reaps 0#32) rfl (by simp [Rtl8139Lifecycle.machine,Handler.transmitting,stands])
    | receive => exact halted (.receives 0#8 0#32) rfl stands
  · intro gone event allowed
    have idle : d.life.handler = .idle := by
      by_contra busy
      exact Nat.ne_of_gt (sound.running busy) gone
    cases event with
    | probes => exact Stage.noConfusion (freed.symm.trans allowed)
    | removes => exact Stage.noConfusion (freed.symm.trans allowed.1)
    | life event =>
        cases event with
        | opens granted => exact Stage.noConfusion (freed.symm.trans (allowed.2 rfl))
        | stops => exact Stage.noConfusion (freed.symm.trans (allowed.2 rfl))
        | interrupt isr => exact Nat.ne_of_gt (registered_handlers.mpr allowed.1.1) gone
        | reaps txStatus =>
            have transmitting : d.life.handler.transmitting = true := allowed.1
            simp [idle,Handler.transmitting] at transmitting
        | receives cr rxStatus => exact Handler.noConfusion (idle.symm.trans allowed.1)

-- Whatever the other adapters do: nothing ever runs on the memory of a removed
-- one if and only if none of its opens failed to get a buffer.
theorem untouched_iff (index : Nat) (events : List (Nat × Event)) (path : bus.Runs absent events)
    (freed : (bus.run absent events index).stage = .freed) :
    (∀ later,bus.Runs absent (events ++ later) → ∀ event,(index,event) ∉ later) ↔
      bus.Along (fun s event => event.1 = index → ¬ OpenFails (s index) event.2) absent events := by
  have own := Machine.family_runs path index
  have start : Sound (absent index) := ⟨⟨0,rfl⟩,fun busy => absurd rfl busy,nofun⟩
  have sound : Sound (bus.run absent events index) := by
    rw [bus,Machine.family_run]
    exact machine.invariant apply_sound start own
  have kept := Machine.last_exact apply_sound (fun d event sound _ => unlost_exactly d event sound) start own
  rw [← Machine.family_run,and_iff_right (show Unlost (absent index) from rfl)] at kept
  have continued : (∀ later,bus.Runs absent (events ++ later) → ∀ event,(index,event) ∉ later) ↔
      ∀ later,bus.Runs (bus.run absent events) later → ∀ event,(index,event) ∉ later := by
    refine forall_congr' fun later => imp_congr_left ?_
    exact Machine.along_append.trans (and_iff_right path)
  rw [continued]
  exact (Machine.family_stuck.trans (stuck_iff sound freed)).trans (kept.trans (Machine.family_along _ _ _).symm)

def failedThenRemoved : List (Nat × Event) :=
  [(0,.probes),(1,.probes),(0,.life (.opens true)),(1,.life (.opens true)),(0,.life (.opens false)),(0,.life (.opens true)),
    (0,.removes)]

theorem untouched_iff_failed :
    bus.Runs absent failedThenRemoved ∧
    ¬ ∀ later,bus.Runs absent (failedThenRemoved ++ later) → ∀ event,(0,event) ∉ later := by
  have path : bus.Runs absent failedThenRemoved := by decide +kernel
  refine ⟨path,fun untouched => ?_⟩
  obtain ⟨_,_,_,_,granted,_⟩ := (untouched_iff 0 failedThenRemoved path (by decide +kernel)).mp untouched
  exact granted rfl ⟨rfl,by decide +kernel⟩

end Runs

end LinuxDeviceDrivers.Rtl8139Unbind
