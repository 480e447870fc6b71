import Mathlib.Data.List.TakeWhile
import LinuxDeviceDrivers.ByteStore
import LinuxDeviceDrivers.PollQueue

namespace LinuxDeviceDrivers.PollFaults
open Transition CircularWindow ByteStore PollQueue
open PollDevice (Device Outcome N initial isBufferEmpty isBufferFull stopIndex eagain deviceOpen deviceRelease)

-- `faults` gives the positions of the caller's buffer at which the access fails.
-- put_user then stores nothing, and get_user sets its variable to zero; poll.c
-- looks at the result of neither.
def putUser (faults : Nat → Bool) (position : Nat) (byte : UInt8) (user : Nat → UInt8) : Nat → UInt8 :=
  if faults position then user else Function.update user position byte

def getUser (faults : Nat → Bool) (position : Nat) (byte : UInt8) : UInt8 := if faults position then 0 else byte

structure Reading where
  device : Device
  i : Nat
  user : Nat → UInt8

structure Writing where
  device : Device
  i : Nat

def copyOut (faults : Nat → Bool) : Nat → Reading → Reading
  | 0,r => r
  | left+1,r =>
    if r.device.ir = r.device.iw then r else
    copyOut faults left
      ⟨{r.device with ir := if r.device.ir+1 = N then 0 else r.device.ir+1},r.i+1,
        putUser faults r.i (r.device.rbuf r.device.ir) r.user⟩

def copyIn (faults : Nat → Bool) (ih : Int) : List UInt8 → Writing → Writing
  | [],w => w
  | byte :: left,w =>
    if (w.device.iw : Int) = ih then w else
    copyIn faults ih left
      ⟨{w.device with
          rbuf := Function.update w.device.rbuf w.device.iw (getUser faults w.i byte)
          iw := if w.device.iw+1 = N then 0 else w.device.iw+1},w.i+1⟩

def deviceRead (nonblock : Bool) (len : Nat) (faults : Nat → Bool) (user : Nat → UInt8) (d : Device) :
    Outcome × Reading :=
  if isBufferEmpty d then (turnedBack nonblock,⟨d,0,user⟩)
  else
    let copied := copyOut faults len ⟨d,0,user⟩
    (.returned copied.i,copied)

def deviceWrite (nonblock : Bool) (bytes : List UInt8) (faults : Nat → Bool) (d : Device) : Outcome × Writing :=
  if isBufferFull d then (turnedBack nonblock,⟨d,0⟩)
  else
    let copied := copyIn faults (stopIndex d) bytes ⟨d,0⟩
    (.returned copied.i,copied)

-- How many bytes a call has to move before it meets a failing position, of the
-- k that it could move.
def unhurt (faults : Nat → Bool) (k : Nat) : Nat := ((List.range k).takeWhile fun position => !faults position).length

-- The number of bytes, or an error where the first of them already failed.
def Reported (faults : Nat → Bool) (k : Nat) (outcome : Outcome) : Prop :=
  if unhurt faults k = 0 ∧ 0 < k then ∃ error < 0,outcome = .returned error
  else outcome = .returned (unhurt faults k)

def readable (len : Nat) (d : Device) : Nat := min len (queue d).length
def writable (bytes : List UInt8) (d : Device) : Nat := min bytes.length (N-1-(queue d).length)

structure ReadSurvives (nonblock : Bool) (len : Nat) (faults : Nat → Bool) (user : Nat → UInt8) (d : Device) : Prop where
  delivered : (deviceRead nonblock len faults user d).2.user =
    store user 0 ((queue d).take (unhurt faults (readable len d)))
  kept : queue (deviceRead nonblock len faults user d).2.device = (queue d).drop (unhurt faults (readable len d))
  reported : isBufferEmpty d = false → Reported faults (readable len d) (deviceRead nonblock len faults user d).1

structure WriteSurvives (nonblock : Bool) (bytes : List UInt8) (faults : Nat → Bool) (d : Device) : Prop where
  entered : queue (deviceWrite nonblock bytes faults d).2.device = queue d ++ bytes.take (unhurt faults (writable bytes d))
  reported : isBufferFull d = false → Reported faults (writable bytes d) (deviceWrite nonblock bytes faults d).1

def Unfaulted (faults : Nat → Bool) (k : Nat) : Prop := ∀ position < k,faults position = false

theorem unhurt_le (faults : Nat → Bool) (k : Nat) : unhurt faults k ≤ k := by
  have shorter := (List.takeWhile_sublist (l:=List.range k) fun position => !faults position).length_le
  rwa [List.length_range] at shorter

theorem unhurt_eq_iff (faults : Nat → Bool) (k : Nat) : unhurt faults k = k ↔ Unfaulted faults k := by
  have before := List.takeWhile_prefix (l:=List.range k) fun position => !faults position
  constructor
  · intro all position inside
    have whole := before.eq_of_length (by rw [List.length_range]; exact all)
    have passed := List.takeWhile_eq_self_iff.mp whole position (List.mem_range.mpr inside)
    simpa using passed
  · intro clear
    have whole : (List.range k).takeWhile (fun position => !faults position) = List.range k := by
      rw [List.takeWhile_eq_self_iff]
      intro position member
      simp [clear position (List.mem_range.mp member)]
    rw [unhurt,whole,List.length_range]

section Reads
variable {faults : Nat → Bool}

theorem copyOut_device (left : Nat) (r : Reading) :
    (copyOut faults left r).device = (PollDevice.copyOut left r.device).device ∧
      (copyOut faults left r).i = r.i+(PollDevice.copyOut left r.device).i := by
  induction left generalizing r with
  | zero => exact ⟨rfl,rfl⟩
  | succ left ih =>
      by_cases empty : r.device.ir = r.device.iw
      · rw [copyOut,PollDevice.copyOut,if_pos empty,if_pos empty]
        exact ⟨rfl,rfl⟩
      · rw [copyOut,PollDevice.copyOut,if_neg empty,if_neg empty]
        refine ⟨(ih _).1,(ih _).2.trans ?_⟩
        exact Nat.add_right_comm _ 1 _

theorem copyOut_user (left : Nat) (r : Reading) (clear : ∀ position,r.i ≤ position →
      position < r.i+(PollDevice.copyOut left r.device).bytes.length → faults position = false) :
    (copyOut faults left r).user = store r.user r.i (PollDevice.copyOut left r.device).bytes := by
  induction left generalizing r with
  | zero => exact (store_nil _ _).symm
  | succ left ih =>
      by_cases empty : r.device.ir = r.device.iw
      · rw [copyOut,PollDevice.copyOut,if_pos empty,if_pos empty]
        exact (store_nil _ _).symm
      · rw [PollDevice.copyOut,if_neg empty] at clear
        rw [copyOut,PollDevice.copyOut,if_neg empty,if_neg empty]
        have here := clear r.i (Nat.le_refl _) (by simp)
        refine (ih _ ?_).trans ?_
        · intro position above below
          have later : r.i+1 ≤ position := above
          exact clear position (by omega) (Nat.lt_of_lt_of_eq below (Nat.succ_add_eq_add_succ r.i _))
        · simp only [putUser,here,Bool.false_eq_true,if_false]
          exact store_cons _ _ _ _

theorem deviceRead_device (nonblock : Bool) (len : Nat) (faults : Nat → Bool) (user : Nat → UInt8) (d : Device) :
    (deviceRead nonblock len faults user d).2.device = (PollDevice.readSection len d).device := by
  rw [← deviceRead_section d nonblock,deviceRead,PollDevice.deviceRead]
  split
  · cases nonblock <;> rfl
  · exact (copyOut_device len ⟨d,0,user⟩).1

theorem deviceRead_kept (valid : Valid d) (nonblock : Bool) (len : Nat) (faults : Nat → Bool) (user : Nat → UInt8) :
    queue (deviceRead nonblock len faults user d).2.device = (queue d).drop (readable len d) := by
  rw [deviceRead_device,(readSection_transfer valid len).queue,readable,List.drop_eq_drop_min]

theorem deviceRead_returned (valid : Valid d) (nonblock : Bool) (len : Nat) (faults : Nat → Bool) (user : Nat → UInt8)
    (some : isBufferEmpty d = false) :
    (deviceRead nonblock len faults user d).1 = .returned (readable len d) := by
  have counted : (copyOut faults len ⟨d,0,user⟩).i = 0+(PollDevice.copyOut len d).i := (copyOut_device len ⟨d,0,user⟩).2
  simp only [deviceRead,some,Bool.false_eq_true,if_false,counted,(copyOut_transfer valid len).count,List.length_take,
    Nat.zero_add,readable]

theorem deviceRead_user (valid : Valid d) (nonblock : Bool) (len : Nat) (user : Nat → UInt8)
    (clear : Unfaulted faults (readable len d)) :
    (deviceRead nonblock len faults user d).2.user = store user 0 ((queue d).take (readable len d)) := by
  have moved := (copyOut_transfer valid len).bytes
  unfold deviceRead
  split
  · rename_i none
    rw [(isBufferEmpty_exact valid).mp none,List.take_nil,store_nil]
  · refine (copyOut_user len ⟨d,0,user⟩ ?_).trans ?_
    · intro position _ below
      exact clear position (by simpa [moved,readable] using below)
    · simp only [moved,readable,← List.take_eq_take_min]

end Reads

section Writes
variable {faults : Nat → Bool}

def fetched (faults : Nat → Bool) : Nat → List UInt8 → List UInt8
  | _,[] => []
  | position,byte :: left => getUser faults position byte :: fetched faults (position+1) left

@[simp] theorem fetched_length (faults : Nat → Bool) (position : Nat) (bytes : List UInt8) :
    (fetched faults position bytes).length = bytes.length := by
  induction bytes generalizing position with
  | nil => rfl
  | cons byte left ih => simp [fetched,ih]

theorem fetched_take (bytes : List UInt8) (position count : Nat)
    (clear : ∀ other,position ≤ other → other < position+count → faults other = false) :
    (fetched faults position bytes).take count = bytes.take count := by
  induction bytes generalizing position count with
  | nil => rfl
  | cons byte left ih =>
      cases count with
      | zero => rfl
      | succ count =>
          have here := clear position (Nat.le_refl _) (by omega)
          rw [fetched,List.take_succ_cons,List.take_succ_cons,ih (position+1) count]
          · simp only [getUser,here,Bool.false_eq_true,if_false]
          · exact fun other above below => clear other (by omega) (by omega)

theorem copyIn_device (ih : Int) (bytes : List UInt8) (w : Writing) :
    (copyIn faults ih bytes w).device = (PollDevice.copyIn ih (fetched faults w.i bytes) w.device).device ∧
      (copyIn faults ih bytes w).i = w.i+(PollDevice.copyIn ih (fetched faults w.i bytes) w.device).i := by
  induction bytes generalizing w with
  | nil => exact ⟨rfl,rfl⟩
  | cons byte left hyp =>
      by_cases full : (w.device.iw : Int) = ih
      · rw [copyIn,fetched,PollDevice.copyIn,if_pos full,if_pos full]
        exact ⟨rfl,rfl⟩
      · rw [copyIn,fetched,PollDevice.copyIn,if_neg full,if_neg full]
        refine ⟨(hyp _).1,(hyp _).2.trans ?_⟩
        exact Nat.add_right_comm _ 1 _

theorem deviceWrite_device (valid : Valid d) (nonblock : Bool) (bytes : List UInt8) (faults : Nat → Bool) :
    (deviceWrite nonblock bytes faults d).2.device = (PollDevice.writeSection (fetched faults 0 bytes) d).device := by
  rw [← deviceWrite_section valid nonblock,deviceWrite,PollDevice.deviceWrite]
  split
  · cases nonblock <;> rfl
  · exact (copyIn_device _ bytes ⟨d,0⟩).1

theorem deviceWrite_entered (valid : Valid d) (nonblock : Bool) (bytes : List UInt8) (faults : Nat → Bool) :
    queue (deviceWrite nonblock bytes faults d).2.device =
      queue d ++ (fetched faults 0 bytes).take (writable bytes d) := by
  rw [deviceWrite_device valid,(writeSection_transfer valid _).queue,List.take_eq_take_min,fetched_length,Nat.min_comm]
  rfl

theorem deviceWrite_returned (valid : Valid d) (nonblock : Bool) (bytes : List UInt8) (faults : Nat → Bool)
    (some : isBufferFull d = false) :
    (deviceWrite nonblock bytes faults d).1 = .returned (writable bytes d) := by
  have counted : (copyIn faults (stopIndex d) bytes ⟨d,0⟩).i =
      0+(PollDevice.copyIn (stopIndex d) (fetched faults 0 bytes) d).i := (copyIn_device (stopIndex d) bytes ⟨d,0⟩).2
  simp only [deviceWrite,some,Bool.false_eq_true,if_false,counted,(copyIn_transfer valid _).count,List.length_take,
    fetched_length,Nat.zero_add,writable,Nat.min_comm]

end Writes

section Survival
variable {faults : Nat → Bool} {d : Device}

theorem reported_exact (whole : unhurt faults k = k) (outcome : Outcome) :
    Reported faults k outcome ↔ outcome = .returned k := by
  rw [Reported,whole,if_neg (by omega)]

theorem readSurvives_iff (valid : Valid d) (nonblock : Bool) (len : Nat) (user : Nat → UInt8) :
    ReadSurvives nonblock len faults user d ↔ Unfaulted faults (readable len d) := by
  rw [← unhurt_eq_iff]
  constructor
  · intro survives
    have lengths := congrArg List.length ((deviceRead_kept valid nonblock len faults user).symm.trans survives.kept)
    have fewer := unhurt_le faults (readable len d)
    simp only [List.length_drop,readable] at *
    omega
  · intro whole
    refine ⟨?_,?_,?_⟩
    · rw [whole]
      exact deviceRead_user valid nonblock len user ((unhurt_eq_iff _ _).mp whole)
    · rw [whole]
      exact deviceRead_kept valid nonblock len faults user
    · intro some
      exact (reported_exact whole _).mpr (deviceRead_returned valid nonblock len faults user some)

theorem writeSurvives_iff (valid : Valid d) (nonblock : Bool) (bytes : List UInt8) :
    WriteSurvives nonblock bytes faults d ↔ Unfaulted faults (writable bytes d) := by
  rw [← unhurt_eq_iff]
  constructor
  · intro survives
    have lengths := congrArg List.length ((deviceWrite_entered valid nonblock bytes faults).symm.trans survives.entered)
    have fewer := unhurt_le faults (writable bytes d)
    simp only [List.length_append,List.length_take,fetched_length,writable] at *
    omega
  · intro whole
    have clear := (unhurt_eq_iff _ _).mp whole
    refine ⟨?_,?_⟩
    · rw [whole,deviceWrite_entered valid,fetched_take bytes 0 (writable bytes d)]
      exact fun position _ below => clear position (by omega)
    · intro some
      exact (reported_exact whole _).mpr (deviceWrite_returned valid nonblock bytes faults some)

end Survival

inductive Call where
  | opens
  | releases
  | reads (nonblock : Bool) (len : Nat) (faults : Nat → Bool) (user : Nat → UInt8)
  | writes (nonblock : Bool) (bytes : List UInt8) (faults : Nat → Bool)

def calls : Machine Device Call where
  Allowed _ _ := True
  apply d call := match call with
    | .opens => deviceOpen d
    | .releases => deviceRelease d
    | .reads nonblock len faults user => (deviceRead nonblock len faults user d).2.device
    | .writes nonblock bytes faults => (deviceWrite nonblock bytes faults d).2.device

def Survives (d : Device) : Call → Prop
  | .reads nonblock len faults user => ReadSurvives nonblock len faults user d
  | .writes nonblock bytes faults => WriteSurvives nonblock bytes faults d
  | _ => True

def Accessible (d : Device) : Call → Prop
  | .reads _ len faults _ => Unfaulted faults (readable len d)
  | .writes _ bytes faults => Unfaulted faults (writable bytes d)
  | _ => True

theorem calls_valid (d : Device) (call : Call) (valid : Valid d) (_any : True) : Valid (calls.apply d call) := by
  cases call with
  | opens => exact deviceOpen_valid valid
  | releases => exact ⟨valid.irBound,valid.iwBound⟩
  | reads nonblock len faults user =>
      simp only [calls,deviceRead_device]
      exact (readSection_transfer valid len).valid
  | writes nonblock bytes faults =>
      simp only [calls,deviceWrite_device valid]
      exact (writeSection_transfer valid _).valid

theorem survives_iff (d : Device) (call : Call) (valid : Valid d) (_any : True) : Survives d call ↔ Accessible d call := by
  cases call with
  | opens => exact Iff.rfl
  | releases => exact Iff.rfl
  | reads nonblock len faults user => exact readSurvives_iff valid nonblock len user
  | writes nonblock bytes faults => exact writeSurvives_iff valid nonblock bytes

theorem faults_survived_iff (list : List Call) : calls.Along Survives initial list ↔ calls.Along Accessible initial list :=
  Machine.along_congr survives_iff calls_valid initial_valid (calls.along_of_forall (fun _ _ => trivial) initial list)

theorem faulty_read_loses_byte : ¬ calls.Along Survives initial
    [.opens,.writes false [7] fun _ => false,.reads false 1 (fun _ => true) fun _ => 0] := by
  intro survives
  exact absurd survives.2.2.1.kept (by decide)

end LinuxDeviceDrivers.PollFaults
