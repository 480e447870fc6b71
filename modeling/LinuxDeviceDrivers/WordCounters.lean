import LinuxDeviceDrivers.Transition

namespace LinuxDeviceDrivers.WordCounters
open Transition

universe u v w x

-- The part of a state that a machine counts in.
structure Counters (State : Type u) (Count : Type w) where
  read : State → Count
  put : Count → State → State
  read_put : ∀ count s,read (put count s) = count
  put_put : ∀ first second s,put first (put second s) = put first s
  put_read : ∀ s,put (read s) s = s

structure Cut (Count : Type w) where
  words : Count → Count
  again : ∀ count,words (words count) = words count

variable {State : Type u} {Event : Type v} {Count : Type w}

def Wraps (cut : Cut Count) (update : Count → Count) : Prop :=
  ∀ first second,cut.words first = cut.words second → cut.words (update first) = cut.words (update second)

namespace Wraps
variable {cut : Cut Count}

theorem id : Wraps cut id := fun _ _ same => same

theorem congr {update other : Count → Count} (wraps : Wraps cut update)
    (same : ∀ count,cut.words (other count) = cut.words (update count)) : Wraps cut other := by
  intro first second equal
  rw [same,same,wraps first second equal]

end Wraps

def Cut.prod {Other : Type x} (cut : Cut Count) (other : Cut Other) : Cut (Count × Other) where
  words := Prod.map cut.words other.words
  again count := Prod.ext (cut.again count.1) (other.again count.2)

theorem Wraps.prod {Other : Type x} {cut : Cut Count} {other : Cut Other} {first : Count → Count} {second : Other → Other}
    (one : Wraps cut first) (two : Wraps other second) : Wraps (cut.prod other) (Prod.map first second) := by
  intro a b same
  exact Prod.ext (one _ _ (congrArg Prod.fst same)) (two _ _ (congrArg Prod.snd same))

-- No step looks at the counters; each moves them by an update of their words.
structure Unread (m : Machine State Event) (counters : Counters State Count) (cut : Cut Count) : Prop where
  allowed : ∀ count s event,m.Allowed (counters.put count s) event ↔ m.Allowed s event
  moves : ∀ s event,∃ update,Wraps cut update ∧
    ∀ count,m.apply (counters.put count s) event = counters.put (update count) (m.apply s event)

def stored (counters : Counters State Count) (cut : Cut Count) (s : State) : State :=
  counters.put (cut.words (counters.read s)) s

-- The same machine with each counter cut off to its word after every step.
def wrapped (m : Machine State Event) (counters : Counters State Count) (cut : Cut Count) : Machine State Event where
  Allowed := m.Allowed
  apply s event := stored counters cut (m.apply s event)

section Runs
variable {m : Machine State Event} {counters : Counters State Count} {cut : Cut Count}

theorem put_runs (unread : Unread m counters cut) (count : Count) (s : State) (events : List Event) :
    m.Runs (counters.put count s) events ↔ m.Runs s events := by
  induction events generalizing count s with
  | nil => exact Iff.rfl
  | cons event rest ih =>
      obtain ⟨update,_,moves⟩ := unread.moves s event
      have later := ih (update count) (m.apply s event)
      rw [← moves] at later
      exact and_congr (unread.allowed count s event) later

theorem wrapped_apply (unread : Unread m counters cut) (s : State) (event : Event) :
    (wrapped m counters cut).apply (stored counters cut s) event = stored counters cut (m.apply s event) := by
  obtain ⟨update,wraps,moves⟩ := unread.moves s event
  have own := moves (counters.read s)
  rw [counters.put_read] at own
  have counted : counters.read (m.apply s event) = update (counters.read s) := by
    rw [own,counters.read_put]
  have same := wraps _ _ (cut.again (counters.read s))
  simp only [wrapped,stored]
  rw [moves,counters.put_put,counters.read_put,counted,same]

theorem wrapped_run (unread : Unread m counters cut) (s : State) (events : List Event) :
    (wrapped m counters cut).run (stored counters cut s) events = stored counters cut (m.run s events) := by
  induction events generalizing s with
  | nil => rfl
  | cons event rest ih =>
      rw [Machine.run_cons,Machine.run_cons,wrapped_apply unread]
      exact ih (m.apply s event)

theorem wrapped_along {ok : State → Event → Prop} (unread : Unread m counters cut)
    (blind : ∀ s event,ok (stored counters cut s) event ↔ ok s event) (s : State) (events : List Event) :
    (wrapped m counters cut).Along ok (stored counters cut s) events ↔ m.Along ok s events := by
  induction events generalizing s with
  | nil => exact Iff.rfl
  | cons event rest ih =>
      have later := ih (m.apply s event)
      rw [← wrapped_apply unread] at later
      exact and_congr (blind s event) later

theorem wrapped_throughout {holds : State → Prop} (unread : Unread m counters cut) (s : State) (events : List Event) :
    (wrapped m counters cut).Throughout holds (stored counters cut s) events ↔
      m.Throughout (fun s => holds (stored counters cut s)) s events := by
  induction events generalizing s with
  | nil => exact Iff.rfl
  | cons event rest ih =>
      have later := ih (m.apply s event)
      rw [← wrapped_apply unread] at later
      exact and_congr Iff.rfl later

-- The machine that counts on makes the runs of the one with words.
theorem wrapped_runs (unread : Unread m counters cut) (s : State) (events : List Event) :
    (wrapped m counters cut).Runs (stored counters cut s) events ↔ m.Runs s events :=
  wrapped_along unread (fun s event => unread.allowed (cut.words (counters.read s)) s event) s events

-- What is exact of the counters as they stand in memory, from an invariant of
-- the machine that counts on.
theorem wrapped_exact {sound holds : State → Prop} {ok : State → Event → Prop} (unread : Unread m counters cut)
    (blind : ∀ s event,ok (stored counters cut s) event ↔ ok s event)
    (implied : ∀ s,sound s → holds (stored counters cut s))
    (exactly : ∀ s event,sound s → m.Allowed s event → (ok s event ↔ holds (stored counters cut (m.apply s event))))
    (preserved : ∀ s event,sound s → m.Allowed s event → ok s event → sound (m.apply s event))
    {s : State} {events : List Event} (start : sound s) (path : (wrapped m counters cut).Runs (stored counters cut s) events) :
    (wrapped m counters cut).Throughout holds (stored counters cut s) events ↔
      (wrapped m counters cut).Along ok (stored counters cut s) events := by
  rw [wrapped_throughout unread,wrapped_along unread blind]
  exact Machine.throughout_exact implied exactly preserved start ((wrapped_runs unread s events).mp path)

end Runs

end LinuxDeviceDrivers.WordCounters
