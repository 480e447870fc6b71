import LinuxDeviceDrivers.ByteStore
import LinuxDeviceDrivers.Transition
import Mathlib.Data.List.Induction

namespace LinuxDeviceDrivers.SimpleDriver
open Transition ByteStore

def lenth : Nat := 100

def einval : Int := -22
def efault : Int := -14
def enotty : Int := -25

-- All of kernel memory, and what the calls delivered to the processes and
-- returned, newest first.
structure System where
  memory : Nat → UInt8
  useCount : Int := 0
  delivered : List (List UInt8) := []
  returned : List Int := []

def message : List UInt8 := "Linux Device Driver, Advance - Simple Driver".toList.map fun letter => UInt8.ofNat letter.toNat

def simpleInit (kbuffer : Nat) (memory : Nat → UInt8) : System :=
  {memory := store (store memory kbuffer (List.replicate lenth 0)) kbuffer message}

-- `source` is what can be read from the address the process gave until it
-- faults; the kernel fills up what it could not copy with zeros.
def copied (len : Nat) (source : List UInt8) : List UInt8 := source.take len ++ List.replicate (len-source.length) 0

def copyFromUser (kbuffer len : Nat) (source : List UInt8) (s : System) : System :=
  {s with memory := store s.memory kbuffer (copied len source),returned := (if source.length < len then efault else 0) :: s.returned}

def copyToUser (kbuffer len room : Nat) (s : System) : System :=
  {s with
    delivered := load s.memory kbuffer (min len room) :: s.delivered
    returned := (if room < len then efault else 0) :: s.returned}

inductive Command where
  | getMsg
  | setMsg
  | unknown

inductive Event where
  | opens
  | closes
  | writes (len : Nat) (source : List UInt8)
  | reads (len room : Nat)
  | ioctl (cmd : Command) (argument : Bool) (source : List UInt8) (room : Nat)

def fails (errno : Int) (s : System) : System := {s with returned := errno :: s.returned}

-- The lines that the two commands print, up to the first null byte from kbuffer
-- on, go to the log of the kernel, which is left out.
def simpleIoctl (kbuffer : Nat) (cmd : Command) (argument : Bool) (source : List UInt8) (room : Nat) (s : System) : System :=
  match cmd with
  | .getMsg => if argument then copyToUser kbuffer lenth room s else fails einval s
  | .setMsg => if argument then copyFromUser kbuffer lenth source s else fails einval s
  | .unknown => fails enotty s

def machine (kbuffer : Nat) : Machine System Event where
  Allowed _ _ := True
  apply s event := match event with
    | .opens => {s with useCount := s.useCount+1}
    | .closes => {s with useCount := s.useCount-1}
    | .writes len source => copyFromUser kbuffer len source s
    | .reads len room => copyToUser kbuffer len room s
    | .ioctl cmd argument source room => simpleIoctl kbuffer cmd argument source room s

def Event.stored : Event → Option (List UInt8)
  | writes len source => some (copied len source)
  | ioctl .setMsg true source _ => some (copied lenth source)
  | _ => none

def Event.taken : Event → Option Nat
  | reads len room => some (min len room)
  | ioctl .getMsg true _ room => some (min lenth room)
  | _ => none

def Event.within (event : Event) : Prop :=
  (∀ bytes ∈ event.stored,bytes.length ≤ lenth) ∧ ∀ count ∈ event.taken,count ≤ lenth

section Runs
variable {kbuffer : Nat}

theorem apply_memory (s : System) (event : Event) :
    ((machine kbuffer).apply s event).memory = event.stored.elim s.memory (store s.memory kbuffer) := by
  cases event with
  | ioctl cmd argument source room => cases cmd <;> cases argument <;> rfl
  | _ => rfl

theorem apply_delivered (s : System) (event : Event) :
    ((machine kbuffer).apply s event).delivered =
      (event.taken.map fun count => load s.memory kbuffer count).toList ++ s.delivered := by
  cases event with
  | ioctl cmd argument source room => cases cmd <;> cases argument <;> rfl
  | _ => rfl

def log (kbuffer : Nat) (events : List Event) : List (Write UInt8) :=
  (events.filterMap Event.stored).reverse.map fun bytes => ⟨kbuffer,bytes⟩

theorem run_memory (s : System) (events : List Event) :
    ((machine kbuffer).run s events).memory = lastWritten s.memory (log kbuffer events) := by
  induction events using List.reverseRecOn with
  | nil => rfl
  | append_singleton events event ih =>
      rw [Machine.run_append,Machine.run_cons,Machine.run_nil,apply_memory,ih]
      cases stored : event.stored with
      | none => simp [log,stored]
      | some bytes => simp [log,stored,lastWritten_cons]

theorem run_delivered (s : System) (events : List Event) :
    ∃ later,((machine kbuffer).run s events).delivered = later ++ s.delivered ∧
      later.length = (events.filterMap Event.taken).length := by
  induction events generalizing s with
  | nil => exact ⟨[],rfl,rfl⟩
  | cons event rest ih =>
      obtain ⟨later,all,length⟩ := ih ((machine kbuffer).apply s event)
      refine ⟨later ++ (event.taken.map fun count => load s.memory kbuffer count).toList,?_,?_⟩
      · rw [Machine.run_cons,all,apply_delivered,List.append_assoc]
      · rw [List.length_append,length]
        cases taken : event.taken with
        | none => simp [taken]
        | some count => simp [taken]

theorem simpleInit_buffer (kbuffer : Nat) (memory : Nat → UInt8) :
    load (simpleInit kbuffer memory).memory kbuffer lenth = message ++ List.replicate 56 0 := by
  have filled := store_over memory kbuffer (List.replicate lenth 0) message
  have rest : (List.replicate lenth (0 : UInt8)).drop message.length = List.replicate 56 0 := by
    rw [List.drop_replicate]
    rfl
  have length : (message ++ List.replicate 56 (0 : UInt8)).length = lenth := by rfl
  rw [simpleInit,filled,rest,← length]
  exact load_store_same

theorem delivers_last_written (kbuffer : Nat) (memory : Nat → UInt8) (before : List Event) (event : Event) {count : Nat}
    (taken : event.taken = some count) :
    ((machine kbuffer).run (simpleInit kbuffer memory) (before ++ [event])).delivered.head? =
      some (load (lastWritten (simpleInit kbuffer memory).memory (log kbuffer before)) kbuffer count) := by
  rw [Machine.run_append,Machine.run_cons,Machine.run_nil,apply_delivered,taken,run_memory]
  rfl

-- No byte outside the buffer changes, and none shows in what the processes get.
structure Confined (kbuffer : Nat) (events : List Event) : Prop where
  untouched : ∀ memory address,address < kbuffer ∨ kbuffer+lenth ≤ address →
    ((machine kbuffer).run {memory := memory} events).memory address = memory address
  undisclosed : ∀ first second : Nat → UInt8,(∀ address,kbuffer ≤ address → address < kbuffer+lenth → first address = second address) →
    ((machine kbuffer).run {memory := first} events).delivered = ((machine kbuffer).run {memory := second} events).delivered

theorem apply_untouched {s : System} {event : Event} (within : event.within) (outside : address < kbuffer ∨ kbuffer+lenth ≤ address) :
    ((machine kbuffer).apply s event).memory address = s.memory address := by
  rw [apply_memory]
  cases stored : event.stored with
  | none => rfl
  | some bytes =>
      have short := within.1 bytes stored
      exact store_outside (by omega)

def Alike (kbuffer : Nat) (s t : System) : Prop :=
  (∀ address,kbuffer ≤ address → address < kbuffer+lenth → s.memory address = t.memory address) ∧ s.delivered = t.delivered

theorem apply_alike (s t : System) (event : Event) (alike : Alike kbuffer s t) (within : event.within) :
    Alike kbuffer ((machine kbuffer).apply s event) ((machine kbuffer).apply t event) := by
  obtain ⟨same,delivered⟩ := alike
  refine ⟨?_,?_⟩
  · intro address above below
    rw [apply_memory,apply_memory]
    cases event.stored with
    | none => exact same address above below
    | some bytes =>
        have cell : address = kbuffer+(address-kbuffer) := by omega
        rw [cell]
        change store s.memory kbuffer bytes _ = store t.memory kbuffer bytes _
        rw [store_cell,store_cell,← cell,same address above below]
  · rw [apply_delivered,apply_delivered,delivered]
    cases taken : event.taken with
    | none => rfl
    | some count =>
        have short := within.2 count taken
        have loaded : load s.memory kbuffer count = load t.memory kbuffer count :=
          load_congr fun address above below => same address above (by omega)
        rw [Option.map_some,Option.map_some,loaded]

theorem confined_of_within {events : List Event} (within : ∀ event ∈ events,event.within) : Confined kbuffer events := by
  constructor
  · intro memory address outside
    have path := (machine kbuffer).along_of_mem {memory := memory} events within
    have kept : ∀ (s : System) (event : Event),s.memory address = memory address → event.within →
        ((machine kbuffer).apply s event).memory address = memory address :=
      fun s event before inside => (apply_untouched inside outside).trans before
    exact (machine kbuffer).invariant kept rfl path
  · intro first second same
    have path := (machine kbuffer).along_of_mem {memory := first} events within
    have alike : Alike kbuffer ((machine kbuffer).run {memory := first} events) ((machine kbuffer).run {memory := second} events) :=
      Machine.lockstep apply_alike ⟨same,rfl⟩ path
    exact alike.2

theorem stored_within {events : List Event} (confined : Confined kbuffer events) {event : Event} (member : event ∈ events)
    {bytes : List UInt8} (stored : event.stored = some bytes) : bytes.length ≤ lenth := by
  by_contra long
  have covered : ∃ write ∈ log kbuffer events,write.covers (kbuffer+lenth) = true := by
    have beyond : kbuffer+lenth < kbuffer+bytes.length := by omega
    refine ⟨⟨kbuffer,bytes⟩,?_,decide_eq_true ⟨Nat.le_add_right _ _,beyond⟩⟩
    exact List.mem_map.mpr ⟨bytes,List.mem_reverse.mpr (List.mem_filterMap.mpr ⟨event,member,stored⟩),rfl⟩
  -- The last write decides, whatever was there before it.
  have zeros := confined.untouched (fun _ => 0) (kbuffer+lenth) (.inr (Nat.le_refl _))
  have ones := confined.untouched (fun _ => 1) (kbuffer+lenth) (.inr (Nat.le_refl _))
  rw [run_memory] at zeros ones
  have same := lastWritten_covered (fun _ => 0) (fun _ => 1) covered
  exact absurd (zeros.symm.trans (same.trans ones)) (by decide)

theorem taken_within {events : List Event} (confined : Confined kbuffer events) {event : Event} (member : event ∈ events)
    {count : Nat} (taken : event.taken = some count) : count ≤ lenth := by
  by_contra long
  obtain ⟨before,after,rfl⟩ := List.append_of_mem member
  -- Two memories that differ in the byte after the buffer, which no write of the
  -- run reaches.
  let first : Nat → UInt8 := fun _ => 0
  let second : Nat → UInt8 := Function.update first (kbuffer+lenth) 1
  have same : ∀ address,kbuffer ≤ address → address < kbuffer+lenth → first address = second address := by
    intro address _ below
    exact (Function.update_of_ne (Nat.ne_of_lt below) _ _).symm
  have uncovered : ¬ ∃ write ∈ log kbuffer before,write.covers (kbuffer+lenth) = true := by
    rintro ⟨write,logged,covers⟩
    obtain ⟨bytes,listed,rfl⟩ := List.mem_map.mp logged
    obtain ⟨other,earlier,stored⟩ := List.mem_filterMap.mp (List.mem_reverse.mp listed)
    have short := stored_within confined (List.mem_append_left _ earlier) stored
    have reaches := (of_decide_eq_true covers).2
    simp only at reaches
    omega
  have shown : ∀ memory : Nat → UInt8,∃ later,
      ((machine kbuffer).run {memory := memory} (before ++ event :: after)).delivered =
        later ++ load ((machine kbuffer).run {memory := memory} before).memory kbuffer count ::
          ((machine kbuffer).run {memory := memory} before).delivered ∧
      later.length = (after.filterMap Event.taken).length := by
    intro memory
    obtain ⟨later,all,length⟩ := run_delivered ((machine kbuffer).apply ((machine kbuffer).run {memory := memory} before) event) after
    refine ⟨later,?_,length⟩
    rw [Machine.run_append,Machine.run_cons,all,apply_delivered,taken]
    rfl
  obtain ⟨firstLater,firstAll,firstLength⟩ := shown first
  obtain ⟨secondLater,secondAll,secondLength⟩ := shown second
  have equal := confined.undisclosed first second same
  rw [firstAll,secondAll] at equal
  have loaded := (List.cons.inj (List.append_inj equal (firstLength.trans secondLength.symm)).2).1
  have cell := congrArg (·[lenth]?) loaded
  simp only [load,List.getElem?_map,List.getElem?_range (Nat.lt_of_not_le long),Option.map_some,Option.some.injEq,run_memory,
    lastWritten_uncovered _ uncovered] at cell
  exact absurd (cell.trans (Function.update_self _ _ _)) (by decide)

-- No call reaches past the buffer exactly when no process asks for more than it
-- holds: the driver checks nothing.
theorem confined_iff (kbuffer : Nat) (events : List Event) : Confined kbuffer events ↔ ∀ event ∈ events,event.within := by
  refine ⟨fun confined event member => ⟨?_,?_⟩,confined_of_within⟩
  · exact fun bytes stored => stored_within confined member stored
  · exact fun count taken => taken_within confined member taken

end Runs

end LinuxDeviceDrivers.SimpleDriver
