import Mathlib.Logic.Function.Basic

namespace LinuxDeviceDrivers.Transition

universe u v w x

-- A machine whose only choices are its events: an environment's decision (a
-- status, a failing allocation, who runs next) is part of the event it takes.
-- `Allowed` is what the surrounding system promises, never what is to be shown.
structure Machine (State : Type u) (Event : Type v) where
  Allowed : State → Event → Prop
  apply : State → Event → State

namespace Machine

variable {State : Type u} {Event : Type v}

def run (m : Machine State Event) (s : State) (events : List Event) : State := events.foldl m.apply s

def Along (m : Machine State Event) (ok : State → Event → Prop) : State → List Event → Prop
  | _,[] => True
  | s,event :: rest => ok s event ∧ Along m ok (m.apply s event) rest

def Throughout (m : Machine State Event) (holds : State → Prop) : State → List Event → Prop
  | s,[] => holds s
  | s,event :: rest => holds s ∧ Throughout m holds (m.apply s event) rest

def Runs (m : Machine State Event) : State → List Event → Prop := m.Along m.Allowed

instance decidableAlong (m : Machine State Event) (ok : State → Event → Prop)
    [∀ s event, Decidable (ok s event)] : ∀ s events, Decidable (m.Along ok s events)
  | _,[] => .isTrue trivial
  | s,event :: rest =>
      have := decidableAlong m ok (m.apply s event) rest
      inferInstanceAs (Decidable (ok s event ∧ m.Along ok (m.apply s event) rest))

instance (m : Machine State Event) [∀ s event, Decidable (m.Allowed s event)] (s : State) (events : List Event) :
    Decidable (m.Runs s events) := inferInstanceAs (Decidable (m.Along m.Allowed s events))

variable {m : Machine State Event} {ok other admitted : State → Event → Prop} {holds weaker : State → Prop}

@[simp] theorem run_nil (s : State) : m.run s [] = s := rfl
@[simp] theorem run_cons (s : State) (event : Event) (rest : List Event) :
    m.run s (event :: rest) = m.run (m.apply s event) rest := rfl
theorem run_append (s : State) (before after : List Event) :
    m.run s (before ++ after) = m.run (m.run s before) after := List.foldl_append

theorem along_append {s : State} {before after : List Event} :
    m.Along ok s (before ++ after) ↔ m.Along ok s before ∧ m.Along ok (m.run s before) after := by
  induction before generalizing s with
  | nil => simp [Along]
  | cons event rest ih => simp [Along,ih,and_assoc]

theorem along_and {s : State} {events : List Event} :
    m.Along (fun s event => ok s event ∧ other s event) s events ↔ m.Along ok s events ∧ m.Along other s events := by
  induction events generalizing s with
  | nil => simp [Along]
  | cons event rest ih => simp only [Along,ih]; exact and_and_and_comm

theorem Along.imp {s : State} {events : List Event} (implied : ∀ s event, ok s event → other s event)
    (path : m.Along ok s events) : m.Along other s events := by
  induction events generalizing s with
  | nil => trivial
  | cons event rest ih => exact ⟨implied s event path.1,ih path.2⟩

theorem along_of_forall (always : ∀ s event, ok s event) : ∀ s events, m.Along ok s events
  | _,[] => trivial
  | s,event :: rest => ⟨always s event,along_of_forall always (m.apply s event) rest⟩

theorem along_of_mem {P : Event → Prop} : ∀ (s : State) (events : List Event),
    (∀ event ∈ events, P event) → m.Along (fun _ event => P event) s events
  | _,[],_ => trivial
  | s,event :: rest,all => ⟨all event List.mem_cons_self,
      along_of_mem (m.apply s event) rest fun later member => all later (List.mem_cons_of_mem _ member)⟩

-- The one induction of the development: an invariant that every admitted event
-- preserves holds in each state of the run.
theorem throughout_of_invariant (preserved : ∀ s event, holds s → ok s event → holds (m.apply s event))
    {s : State} {events : List Event} (start : holds s) (path : m.Along ok s events) :
    m.Throughout holds s events := by
  induction events generalizing s with
  | nil => exact start
  | cons event rest ih => exact ⟨start,ih (preserved s event start path.1) path.2⟩

theorem Throughout.last {s : State} {events : List Event} (all : m.Throughout holds s events) :
    holds (m.run s events) := by
  induction events generalizing s with
  | nil => exact all
  | cons event rest ih => exact ih all.2

theorem Throughout.imp {s : State} {events : List Event} (implied : ∀ s, holds s → weaker s)
    (all : m.Throughout holds s events) : m.Throughout weaker s events := by
  induction events generalizing s with
  | nil => exact implied s all
  | cons event rest ih => exact ⟨implied s all.1,ih all.2⟩

theorem Throughout.and {s : State} {events : List Event} (one : m.Throughout holds s events)
    (two : m.Throughout weaker s events) : m.Throughout (fun s => holds s ∧ weaker s) s events := by
  induction events generalizing s with
  | nil => exact ⟨one,two⟩
  | cons event rest ih => exact ⟨⟨one.1,two.1⟩,ih one.2 two.2⟩

theorem Throughout.first {s : State} {events : List Event} (all : m.Throughout holds s events) : holds s := by
  cases events with
  | nil => exact all
  | cons event rest => exact all.1

theorem invariant (preserved : ∀ s event, holds s → ok s event → holds (m.apply s event))
    {s : State} {events : List Event} (start : holds s) (path : m.Along ok s events) :
    holds (m.run s events) := (throughout_of_invariant preserved start path).last

theorem run_preserves (preserved : ∀ s event, holds s → holds (m.apply s event)) {s : State} (events : List Event)
    (start : holds s) : holds (m.run s events) :=
  m.invariant (fun s event before _ => preserved s event before) start
    (along_of_forall (fun _ _ => trivial) s events)

theorem along_of_invariant (preserved : ∀ s event, holds s → ok s event → holds (m.apply s event))
    (implied : ∀ s event, holds s → ok s event → other s event)
    {s : State} {events : List Event} (start : holds s) (path : m.Along ok s events) : m.Along other s events := by
  induction events generalizing s with
  | nil => trivial
  | cons event rest ih => exact ⟨implied s event start path.1,ih (preserved s event start path.1) path.2⟩

theorem along_exact {sound : State → Prop}
    (same : ∀ s event, sound s → admitted s event → (ok s event ↔ other s event))
    (preserved : ∀ s event, sound s → admitted s event → other s event → sound (m.apply s event))
    {s : State} {events : List Event} (start : sound s) (path : m.Along admitted s events) :
    m.Along ok s events ↔ m.Along other s events := by
  induction events generalizing s with
  | nil => exact Iff.rfl
  | cons event rest ih =>
      rw [Along,Along,same s event start path.1]
      exact and_congr_right fun met => ih (preserved s event start path.1 met) path.2

theorem along_congr {sound : State → Prop}
    (same : ∀ s event, sound s → admitted s event → (ok s event ↔ other s event))
    (preserved : ∀ s event, sound s → admitted s event → sound (m.apply s event))
    {s : State} {events : List Event} (start : sound s) (path : m.Along admitted s events) :
    m.Along ok s events ↔ m.Along other s events :=
  along_exact same (fun s event before allowed _ => preserved s event before allowed) start path

-- Where an invariant decides of each step whether what holds survives it, a run
-- keeps it throughout exactly when every step does.
theorem throughout_exact {sound : State → Prop} (implied : ∀ s, sound s → holds s)
    (exactly : ∀ s event, sound s → admitted s event → (ok s event ↔ holds (m.apply s event)))
    (preserved : ∀ s event, sound s → admitted s event → ok s event → sound (m.apply s event))
    {s : State} {events : List Event} (start : sound s) (path : m.Along admitted s events) :
    m.Throughout holds s events ↔ m.Along ok s events := by
  induction events generalizing s with
  | nil => exact iff_of_true (implied s start) trivial
  | cons event rest ih =>
      constructor
      · intro all
        have step := (exactly s event start path.1).mpr all.2.first
        exact ⟨step,(ih (preserved s event start path.1 step) path.2).mp all.2⟩
      · intro along
        exact ⟨implied s start,(ih (preserved s event start path.1 along.1) path.2).mpr along.2⟩

theorem last_exact {sound : State → Prop} (preserved : ∀ s event, sound s → admitted s event → sound (m.apply s event))
    (exactly : ∀ s event, sound s → admitted s event → (holds (m.apply s event) ↔ holds s ∧ ok s event))
    {s : State} {events : List Event} (start : sound s) (path : m.Along admitted s events) :
    holds (m.run s events) ↔ holds s ∧ m.Along ok s events := by
  induction events generalizing s with
  | nil => exact (and_iff_left trivial).symm
  | cons event rest ih =>
      rw [run_cons,ih (preserved s event start path.1) path.2,exactly s event start path.1,and_assoc]
      rfl

-- Where an event that is not `ok` breaks `holds` or dooms the run for good, a
-- run in which all holds and that is not doomed at its end met `ok` throughout.
theorem along_of_doomed {sound doomed : State → Prop}
    (preserved : ∀ s event, sound s → admitted s event → sound (m.apply s event))
    (dooms : ∀ s event, sound s → admitted s event → holds (m.apply s event) → ¬ ok s event → doomed (m.apply s event))
    (persists : ∀ s event, sound s → admitted s event → doomed s → doomed (m.apply s event))
    {s : State} {events : List Event} (start : sound s) (path : m.Along admitted s events)
    (all : m.Throughout holds s events) (last : ¬ doomed (m.run s events)) : m.Along ok s events := by
  induction events generalizing s with
  | nil => trivial
  | cons event rest ih =>
      have stepped := preserved s event start path.1
      refine ⟨?_,ih stepped path.2 all.2 last⟩
      by_contra fails
      have kept : ∀ s event, sound s ∧ doomed s → admitted s event → sound (m.apply s event) ∧ doomed (m.apply s event) :=
        fun s event before allowed => ⟨preserved s event before.1 allowed,persists s event before.1 allowed before.2⟩
      exact last (m.invariant kept ⟨stepped,dooms s event start path.1 all.2.first fails⟩ path.2).2

-- Forward simulation: each admitted event of `m` is matched by some events of
-- `abstract`, so each run of `m` is matched by a run of `abstract`.
theorem simulation {Abstract : Type w} {Action : Type x} {abstract : Machine Abstract Action}
    {related : State → Abstract → Prop}
    (matched : ∀ s t event, related s t → ok s event → ∃ actions, related (m.apply s event) (abstract.run t actions))
    {s : State} {t : Abstract} {events : List Event} (start : related s t) (path : m.Along ok s events) :
    ∃ actions, related (m.run s events) (abstract.run t actions) := by
  induction events generalizing s t with
  | nil => exact ⟨[],start⟩
  | cons event rest ih =>
      obtain ⟨first,stepped⟩ := matched s t event start path.1
      obtain ⟨later,reached⟩ := ih stepped path.2
      exact ⟨first ++ later,by rw [run_append]; exact reached⟩

theorem lockstep {Abstract : Type w} {abstract : Machine Abstract Event} {related : State → Abstract → Prop}
    (matched : ∀ s t event, related s t → ok s event → related (m.apply s event) (abstract.apply t event))
    {s : State} {t : Abstract} {events : List Event} (start : related s t) (path : m.Along ok s events) :
    related (m.run s events) (abstract.run t events) := by
  induction events generalizing s t with
  | nil => exact start
  | cons event rest ih => exact ih (matched s t event start path.1) path.2

def Reaches (m : Machine State Event) (start s : State) : Prop := ∃ events,m.Runs start events ∧ m.run start events = s

theorem Reaches.refl (m : Machine State Event) (start : State) : m.Reaches start start := ⟨[],trivial,rfl⟩

theorem Reaches.step {start s : State} {event : Event} (reached : m.Reaches start s) (allowed : m.Allowed s event) :
    m.Reaches start (m.apply s event) := by
  obtain ⟨events,path,rfl⟩ := reached
  exact ⟨events ++ [event],along_append.mpr ⟨path,allowed,trivial⟩,run_append _ _ _⟩

section Family
variable {Index : Type w} [DecidableEq Index]

-- Any number of instances of one machine that take their steps in any order.
def family (m : Machine State Event) : Machine (Index → State) (Index × Event) where
  Allowed s event := m.Allowed (s event.1) event.2
  apply s event := Function.update s event.1 (m.apply (s event.1) event.2)

instance [∀ s event, Decidable (m.Allowed s event)] (s : Index → State) (event : Index × Event) :
    Decidable (m.family.Allowed s event) := inferInstanceAs (Decidable (m.Allowed (s event.1) event.2))

def own (index : Index) (events : List (Index × Event)) : List Event :=
  events.filterMap fun event => if event.1 = index then some event.2 else none

@[simp] theorem own_same (index : Index) (event : Event) (rest : List (Index × Event)) :
    own index ((index,event) :: rest) = event :: own index rest := by simp [own]
theorem own_other {index other : Index} (different : other ≠ index) (event : Event) (rest : List (Index × Event)) :
    own index ((other,event) :: rest) = own index rest := by simp [own,different]

variable {index other : Index} {s : Index → State}

theorem family_same (event : Event) : m.family.apply s (index,event) index = m.apply (s index) event := by simp [family]
theorem family_other (different : other ≠ index) (event : Event) : m.family.apply s (other,event) index = s index := by
  simp [family,different.symm]

theorem family_run (index : Index) (s : Index → State) (events : List (Index × Event)) :
    m.family.run s events index = m.run (s index) (own index events) := by
  induction events generalizing s with
  | nil => rfl
  | cons head rest ih =>
      obtain ⟨other,event⟩ := head
      rw [run_cons,ih]
      by_cases same : other = index
      · subst same
        rw [family_same,own_same,run_cons]
      · rw [family_other same,own_other same]

theorem family_along (index : Index) (s : Index → State) (events : List (Index × Event)) :
    m.family.Along (fun s event => event.1 = index → ok (s index) event.2) s events ↔
      m.Along ok (s index) (own index events) := by
  induction events generalizing s with
  | nil => exact Iff.rfl
  | cons head rest ih =>
      obtain ⟨other,event⟩ := head
      rw [Along,ih]
      by_cases same : other = index
      · subst same
        simp [family_same,Along]
      · simp [family_other same,own_other same,same]

theorem family_runs {events : List (Index × Event)} (path : m.family.Runs s events) (index : Index) :
    m.Runs (s index) (own index events) := by
  refine (family_along index s events).mp (Along.imp ?_ path)
  rintro s ⟨other,event⟩ allowed rfl
  exact allowed

theorem family_stuck : (∀ later,m.family.Runs s later → ∀ event,(index,event) ∉ later) ↔ ∀ event,¬ m.Allowed (s index) event := by
  constructor
  · intro never event allowed
    exact never [(index,event)] ⟨allowed,trivial⟩ event List.mem_cons_self
  · intro stuck later path event member
    have taken : event ∈ own index later := List.mem_filterMap.mpr ⟨(index,event),member,if_pos rfl⟩
    have runs := family_runs path index
    cases steps : own index later with
    | nil => simp [steps] at taken
    | cons first rest =>
        rw [steps] at runs
        exact stuck first runs.1

end Family

end Machine

end LinuxDeviceDrivers.Transition
