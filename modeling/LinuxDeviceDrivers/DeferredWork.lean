import LinuxDeviceDrivers.Transition

namespace LinuxDeviceDrivers.DeferredWork
open Transition

-- What the owner of a piece of deferred work does: the memory it lives in comes
-- and goes, a source of events is let in and shut out, and `cancels` takes the
-- work off its queue and waits for it to end.
inductive Step where
  | born
  | dies
  | arms
  | disarms
  | cancels
deriving DecidableEq

inductive Event where
  | owner (step : Step)
  | fires
  | starts
  | ends

-- `faulted` says that the memory was used while it was not there.
structure Work where
  alive : Bool := false
  armed : Bool := false
  pending : Bool := false
  running : Bool := false
  faulted : Bool := false

def touches (w : Work) : Work := {w with faulted := w.faulted || !w.alive}

def own (w : Work) : Step → Work
  | .born => {w with alive := true}
  | .dies => {w with alive := false}
  | .arms => {w with armed := true}
  | .disarms => {w with armed := false}
  | .cancels => {w with pending := false,running := false}

def machine : Machine Work Event where
  Allowed _ _ := True
  apply w event := match event with
    | .owner step => own w step
    | .fires => if w.armed then touches {w with pending := true} else w
    | .starts => if w.pending then touches {w with pending := false,running := true} else w
    | .ends => if w.running then touches {w with running := false} else w

def Event.step : Event → Option Step
  | .owner step => some step
  | _ => none

def steps (events : List Event) : List Step := events.filterMap Event.step

-- What can be so after some steps of the owner, in whatever order the rest
-- happens: `busy` work may be pending or running.
structure Footprint where
  alive : Bool := false
  armed : Bool := false
  busy : Bool := false
deriving DecidableEq

namespace Footprint

def after (f : Footprint) : Step → Footprint
  | .born => {f with alive := true}
  | .dies => {f with alive := false}
  | .arms => {f with armed := true,busy := true}
  | .disarms => {f with armed := false}
  | .cancels => {f with busy := f.armed}

def safe (f : Footprint) : Step → Bool
  | .arms => f.alive
  | .dies => !f.busy
  | _ => true

def check : Footprint → List Step → Bool
  | _,[] => true
  | f,step :: rest => f.safe step && check (f.after step) rest

structure Sound (f : Footprint) : Prop where
  armed : f.armed = true → f.busy = true
  busy : f.busy = true → f.alive = true

theorem after_sound {f : Footprint} {step : Step} (sound : f.Sound) (safe : f.safe step = true) : (f.after step).Sound := by
  cases step with
  | born => exact ⟨sound.armed,fun _ => rfl⟩
  | dies =>
      have idle : f.busy = false := by simpa [Footprint.safe] using safe
      exact ⟨sound.armed,fun busy => absurd busy (by simp [after,idle])⟩
  | arms => exact ⟨fun _ => rfl,fun _ => safe⟩
  | disarms => exact ⟨fun armed => absurd armed (by simp [after]),sound.busy⟩
  | cancels => exact ⟨fun armed => armed,fun busy => sound.busy (sound.armed busy)⟩

theorem check_append (f : Footprint) (first second : List Step) :
    f.check (first ++ second) = (f.check first && (first.foldl after f).check second) := by
  induction first generalizing f with
  | nil => simp [check]
  | cons step rest ih => simp [check,ih,Bool.and_assoc]

end Footprint

section Soundness

structure Within (f : Footprint) (w : Work) : Prop where
  alive : w.alive = f.alive
  armed : w.armed = f.armed
  pending : w.pending = true → f.busy = true
  running : w.running = true → f.busy = true
  intact : w.faulted = false

variable {f : Footprint} {w : Work}

theorem touches_within (within : Within f w) (alive : f.alive = true) : Within f (touches w) := by
  have intact : (touches w).faulted = false := by simp [touches,within.intact,within.alive,alive]
  exact ⟨within.alive,within.armed,within.pending,within.running,intact⟩

theorem own_within (within : Within f w) (step : Step) : Within (f.after step) (own w step) := by
  obtain ⟨alive,armed,pending,running,intact⟩ := within
  cases step with
  | born => exact ⟨rfl,armed,pending,running,intact⟩
  | dies => exact ⟨rfl,armed,pending,running,intact⟩
  | arms => exact ⟨alive,rfl,fun _ => rfl,fun _ => rfl,intact⟩
  | disarms => exact ⟨alive,rfl,pending,running,intact⟩
  | cancels => exact ⟨alive,armed,nofun,nofun,intact⟩

theorem environment_within (within : Within f w) (sound : f.Sound) (event : Event) (foreign : event.step = none) :
    Within f (machine.apply w event) := by
  cases event with
  | owner step => cases foreign
  | fires =>
      cases armed : w.armed with
      | false => simpa [machine,armed] using within
      | true =>
          have busy := sound.armed (within.armed.symm.trans armed)
          have stepped := touches_within ⟨within.alive,within.armed,fun _ => busy,within.running,within.intact⟩ (sound.busy busy)
            (w := {w with pending := true})
          simpa [machine,armed] using stepped
  | starts =>
      cases pending : w.pending with
      | false => simpa [machine,pending] using within
      | true =>
          have busy := within.pending pending
          have stepped := touches_within ⟨within.alive,within.armed,nofun,fun _ => busy,within.intact⟩ (sound.busy busy)
            (w := {w with pending := false,running := true})
          simpa [machine,pending] using stepped
  | ends =>
      cases running : w.running with
      | false => simpa [machine,running] using within
      | true =>
          have busy := within.running running
          have stepped := touches_within ⟨within.alive,within.armed,within.pending,nofun,within.intact⟩ (sound.busy busy)
            (w := {w with running := false})
          simpa [machine,running] using stepped

theorem run_intact {events : List Event} (within : Within f w) (sound : f.Sound) (checked : f.check (steps events) = true) :
    (machine.run w events).faulted = false := by
  induction events generalizing f w with
  | nil => exact within.intact
  | cons event rest ih =>
      cases taken : event.step with
      | none =>
          have later : f.check (steps rest) = true := by simpa [steps,taken] using checked
          exact ih (environment_within within sound event taken) sound later
      | some step =>
          have split : f.safe step = true ∧ (f.after step).check (steps rest) = true := by
            simpa [steps,taken,Footprint.check] using checked
          cases event with
          | owner own =>
              cases taken
              exact ih (own_within within step) (Footprint.after_sound sound split.1) split.2
          | fires => cases taken
          | starts => cases taken
          | ends => cases taken

end Soundness

section Completeness
variable {f : Footprint} {w : Work}

theorem steps_append (first second : List Event) : steps (first ++ second) = steps first ++ steps second :=
  List.filterMap_append

theorem steps_owner (prog : List Step) : steps (prog.map Event.owner) = prog := by
  simp [steps,List.filterMap_map,Function.comp_def,Event.step]

theorem apply_faulted (w : Work) (event : Event) (faulted : w.faulted = true) : (machine.apply w event).faulted = true := by
  cases event with
  | owner step => cases step <;> exact faulted
  | fires => simp only [machine,touches]; split <;> simp [faulted]
  | starts => simp only [machine,touches]; split <;> simp [faulted]
  | ends => simp only [machine,touches]; split <;> simp [faulted]

structure Reached (f : Footprint) (w : Work) : Prop where
  alive : w.alive = f.alive
  armed : w.armed = f.armed
  pending : w.pending = false
  running : w.running = f.busy
  intact : w.faulted = false

def eager (step : Step) : List Event := [.owner step,.fires,.starts]

theorem eager_reached (reached : Reached f w) (sound : f.Sound) {step : Step} (safe : f.safe step = true) :
    Reached (f.after step) (machine.run w (eager step)) := by
  obtain ⟨alive,armed,busy⟩ := f
  obtain ⟨wAlive,wArmed,pending,running,faulted⟩ := w
  obtain ⟨hAlive,hArmed,hPending,hRunning,hIntact⟩ := reached
  obtain ⟨armedBusy,busyAlive⟩ := sound
  simp only at hAlive hArmed hPending hRunning hIntact armedBusy busyAlive
  subst hAlive hArmed hPending hRunning hIntact
  cases step <;> revert safe armedBusy busyAlive <;> cases wAlive <;> cases wArmed <;> cases running <;>
    simp [Footprint.safe,Footprint.after,eager,machine,own,touches] <;> exact ⟨rfl,rfl,rfl,rfl,rfl⟩

theorem unsafe_faults (reached : Reached f w) {step : Step} (unchecked : f.safe step = false) :
    (machine.run w [.owner step,.fires,.ends]).faulted = true := by
  cases step with
  | born => cases unchecked
  | dies =>
      have busy : w.running = true := by simpa [Footprint.safe,reached.running] using unchecked
      cases armed : w.armed <;> simp [machine,own,touches,busy,armed]
  | arms =>
      have gone : w.alive = false := reached.alive.trans unchecked
      cases running : w.running <;> simp [machine,own,touches,running,gone]
  | disarms => cases unchecked
  | cancels => cases unchecked

theorem unchecked_faults {prog : List Step} (reached : Reached f w) (sound : f.Sound) (unchecked : f.check prog = false) :
    ∃ events,steps events = prog ∧ (machine.run w events).faulted = true := by
  induction prog generalizing f w with
  | nil => cases unchecked
  | cons step rest ih =>
      cases safe : f.safe step with
      | true =>
          have later : (f.after step).check rest = false := by simpa [Footprint.check,safe] using unchecked
          obtain ⟨events,same,faulted⟩ := ih (eager_reached reached sound safe) (Footprint.after_sound sound safe) later
          refine ⟨eager step ++ events,?_,?_⟩
          · rw [steps_append,same]
            rfl
          · rw [Machine.run_append]
            exact faulted
      | false =>
          refine ⟨[.owner step,.fires,.ends] ++ rest.map .owner,?_,?_⟩
          · rw [steps_append,steps_owner]
            rfl
          · rw [Machine.run_append]
            exact machine.run_preserves apply_faulted _ (unsafe_faults reached safe)

end Completeness

-- Whether any order of events can go wrong is a question about the owner alone.
theorem intact_iff (prog : List Step) :
    (∀ events,steps events = prog → (machine.run {} events).faulted = false) ↔ Footprint.check {} prog = true := by
  have sound : Footprint.Sound {} := ⟨nofun,nofun⟩
  constructor
  · intro intact
    by_contra fails
    obtain ⟨events,same,faulted⟩ := unchecked_faults (w := {}) ⟨rfl,rfl,rfl,rfl,rfl⟩ sound (by simpa using fails)
    exact absurd (intact events same) (by simp [faulted])
  · rintro checked events rfl
    exact run_intact ⟨rfl,rfl,nofun,nofun,rfl⟩ sound checked

theorem check_flatten {progs : List (List Step)} (clean : ∀ prog ∈ progs,Footprint.check {} prog = true → prog.foldl Footprint.after {} = {}) :
    Footprint.check {} progs.flatten = true ↔ ∀ prog ∈ progs,Footprint.check {} prog = true := by
  induction progs with
  | nil => simp [Footprint.check]
  | cons prog rest ih =>
      have others := ih fun other member => clean other (List.mem_cons_of_mem _ member)
      rw [List.flatten_cons,Footprint.check_append,Bool.and_eq_true,List.forall_mem_cons]
      refine and_congr_right fun checked => ?_
      rw [clean prog List.mem_cons_self checked,others]

end LinuxDeviceDrivers.DeferredWork
