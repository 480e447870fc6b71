import LinuxDeviceDrivers.Transition

namespace LinuxDeviceDrivers.BoundedQueue
open Transition

universe u

-- A first-in first-out buffer that never holds more than `capacity` items.
-- Both operations are partial transfers: they move as much as fits or is there.
structure Queue (α : Type u) (capacity : Nat) where
  items : List α
  bounded : items.length ≤ capacity

variable {α : Type u} {capacity : Nat}

namespace Queue

def empty : Queue α capacity := ⟨[],Nat.zero_le _⟩
def room (q : Queue α capacity) : Nat := capacity - q.items.length

def push (q : Queue α capacity) (xs : List α) : Queue α capacity :=
  ⟨q.items ++ xs.take q.room,by
    have fits := q.bounded
    simp only [List.length_append,List.length_take,room]
    omega⟩

def pop (q : Queue α capacity) (count : Nat) : Queue α capacity :=
  ⟨q.items.drop count,by
    have fits := q.bounded
    simp only [List.length_drop]
    omega⟩

end Queue

-- What went in and what came out since the queue was last emptied. The field
-- `conserved` is the whole meaning: nothing lost, nothing doubled, order kept.
structure Session (α : Type u) (capacity : Nat) where
  queue : Queue α capacity
  accepted : List α
  delivered : List α
  conserved : accepted = delivered ++ queue.items

namespace Session

def start : Session α capacity := ⟨.empty,[],[],rfl⟩

def write (s : Session α capacity) (xs : List α) : Session α capacity :=
  ⟨s.queue.push xs,s.accepted ++ xs.take s.queue.room,s.delivered,by
    simp only [Queue.push,s.conserved,List.append_assoc]⟩

def read (s : Session α capacity) (count : Nat) : Session α capacity :=
  ⟨s.queue.pop count,s.accepted,s.delivered ++ s.queue.items.take count,by
    simp only [Queue.pop,s.conserved,List.append_assoc,List.take_append_drop]⟩

theorem delivered_prefix (s : Session α capacity) : s.delivered <+: s.accepted := ⟨s.queue.items,s.conserved.symm⟩

inductive Action (α : Type u) where
  | start
  | write (xs : List α)
  | read (count : Nat)

def machine : Machine (Session α capacity) (Action α) where
  Allowed _ _ := True
  apply s action := match action with
    | .start => start
    | .write xs => s.write xs
    | .read count => s.read count

end Session

end LinuxDeviceDrivers.BoundedQueue
