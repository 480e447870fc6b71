import LinuxDeviceDrivers.ByteStore
import LinuxDeviceDrivers.IoctlFaults

namespace LinuxDeviceDrivers.HelloplusProgram
open Transition ByteStore

-- Where main of test_helloplus.c keeps the variables it passes on, and the
-- descriptor that open has returned, stdin being open. An int has four bytes
-- and a long eight.
structure Frame where
  fd : Nat
  delay : Nat
  value : Nat
  descriptor : Nat
  fdAligned : 4 ∣ fd
  delayAligned : 8 ∣ delay
  valueAligned : 4 ∣ value
  valueFd : value ≠ fd
  valueDelay : value+4 ≤ delay ∨ delay+8 ≤ value
  fdDelay : fd+4 ≤ delay ∨ delay+8 ≤ fd
  opened : 0 < descriptor
  fits : descriptor < 0x80000000

def readInt (memory : Nat → UInt8) (address : Nat) : Nat := littleEndian (load memory address 4)
def readLong (memory : Nat → UInt8) (address : Nat) : Nat := littleEndian (load memory address 8)
def writeInt (memory : Nat → UInt8) (address value : Nat) : Nat → UInt8 := store memory address (bytesOf 4 value)
def writeLong (memory : Nat → UInt8) (address value : Nat) : Nat → UInt8 := store memory address (bytesOf 8 value)

-- main stands before the ioctl named.
inductive Place where
  | getOld
  | setNew
  | getNew
deriving DecidableEq

structure System where
  driver : IoctlFaults.System
  memory : Nat → UInt8
  place : Place := .getOld
  printed : List Nat := []

inductive Event where
  | program (jiffies : BitVec 64)
  | fires (jiffies : BitVec 64)

section Main
variable (f : Frame)

-- The driver copies a long to the int it is given. Any other file knows nothing
-- of the command.
def ioctlGet (jiffies : BitVec 64) (s : System) : System :=
  if readInt s.memory f.fd = f.descriptor then
    match (IoctlFaults.ioctl .helloplus jiffies (.getDelay .writable) s.driver).1.given with
    | some delay => {s with memory := writeLong s.memory f.value delay.toNat}
    | none => s
  else s

def ioctlSet (jiffies : BitVec 64) (s : System) : System :=
  if readInt s.memory f.fd = f.descriptor then
    let delay := BitVec.ofNat 64 (readLong s.memory f.delay)
    {s with driver := (IoctlFaults.ioctl .helloplus jiffies (.setDelay (.holds delay)) s.driver).2}
  else s

def printf (s : System) : System := {s with printed := s.printed ++ [readInt s.memory f.value]}

def addFive (s : System) : System := {s with memory := writeLong s.memory f.delay (readLong s.memory f.delay+5)}

def main (jiffies : BitVec 64) (s : System) : System :=
  match s.place with
  | .getOld => {printf f (ioctlGet f jiffies s) with place := .setNew}
  | .setNew => {ioctlSet f jiffies (addFive f s) with place := .getNew}
  | .getNew => {printf f (ioctlGet f jiffies s) with place := .getOld}

def machine : Machine System Event where
  Allowed s event := match event with
    | .program _ => True
    | .fires _ => s.driver.timer.pending = true
  apply s event := match event with
    | .program jiffies => main f jiffies s
    | .fires jiffies => {s with driver := IoctlFaults.rearm jiffies s.driver}

instance (s : System) : ∀ event,Decidable ((machine f).Allowed s event)
  | .program _ => .isTrue trivial
  | .fires _ => inferInstanceAs (Decidable (s.driver.timer.pending = true))

def start (driver : IoctlFaults.System) (memory : Nat → UInt8) : System where
  driver := driver
  memory := writeInt (writeLong (writeInt memory f.fd f.descriptor) f.delay 1) f.value 0

end Main

def steps (events : List Event) : Nat := events.countP fun event => match event with
  | .program _ => true
  | .fires _ => false

-- The delay that print number `index` should show: Delay starts at 1.
def shown (initial : BitVec 64) (index : Nat) : Nat :=
  (if index = 0 then initial.toNat else 1+5*((index+1)/2)) % 0x100000000

def Counting (initial : BitVec 64) (s : System) : Prop := ∀ index value,s.printed[index]? = some value → value = shown initial index

-- What main and the driver make of their variables, as numbers. The four bytes
-- too many that GET_DELAY writes may hit one of them.
inductive Hit where
  | nothing
  | delay
  | fd
deriving DecidableEq

structure Numbers where
  fd : Nat
  delay : Nat
  value : Nat
  secs : Nat
  place : Place := .getOld
  printed : List Nat := []

def Frame.hit (f : Frame) : Hit :=
  if f.delay = f.value+4 then .delay else if f.fd = f.value+4 then .fd else .nothing

namespace Numbers

def get (hit : Hit) (descriptor : Nat) (n : Numbers) : Numbers :=
  if n.fd = descriptor then
    {n with
      value := n.secs % 0x100000000
      delay := if hit = .delay then n.secs/0x100000000+0x100000000*(n.delay/0x100000000) else n.delay
      fd := if hit = .fd then n.secs/0x100000000 else n.fd}
  else n

def add (n : Numbers) : Numbers := {n with delay := (n.delay+5) % 0x10000000000000000}
def set (descriptor : Nat) (n : Numbers) : Numbers := if n.fd = descriptor then {n with secs := n.delay} else n
def print (n : Numbers) : Numbers := {n with printed := n.printed ++ [n.value]}

def main (hit : Hit) (descriptor : Nat) (n : Numbers) : Numbers :=
  match n.place with
  | .getOld => {(n.get hit descriptor).print with place := .setNew}
  | .setNew => {n.add.set descriptor with place := .getNew}
  | .getNew => {(n.get hit descriptor).print with place := .getOld}

def machine (hit : Hit) (descriptor : Nat) : Machine Numbers Event where
  Allowed _ _ := True
  apply n event := match event with
    | .program _ => n.main hit descriptor
    | .fires _ => n

end Numbers

def view (f : Frame) (s : System) : Numbers :=
  ⟨readInt s.memory f.fd,readLong s.memory f.delay,readInt s.memory f.value,s.driver.delay.toNat,s.place,s.printed⟩

section Memory
variable {memory : Nat → UInt8} {address other : Nat}

theorem readInt_lt (memory : Nat → UInt8) (address : Nat) : readInt memory address < 0x100000000 := by
  simpa [readInt] using littleEndian_lt (load memory address 4)

theorem readLong_lt (memory : Nat → UInt8) (address : Nat) : readLong memory address < 0x10000000000000000 := by
  simpa [readLong] using littleEndian_lt (load memory address 8)

theorem readLong_halves (memory : Nat → UInt8) (address : Nat) :
    readLong memory address = readInt memory address+0x100000000*readInt memory (address+4) := by
  rw [readLong,load_add memory address 4 4,littleEndian_append,load_length]
  rfl

theorem readInt_writeInt (value : Nat) : readInt (writeInt memory address value) address = value % 0x100000000 := by
  have same : load (store memory address (bytesOf 4 value)) address (bytesOf 4 value).length = bytesOf 4 value := load_store_same
  rw [bytesOf_length] at same
  rw [readInt,writeInt,same,littleEndian_bytesOf]
  simp only [Nat.reducePow]

theorem readInt_writeInt_apart (value : Nat) (apart : other+4 ≤ address ∨ address+4 ≤ other) :
    readInt (writeInt memory address value) other = readInt memory other := by
  rw [readInt,writeInt,load_store_disjoint (by simpa using apart),← readInt]

theorem readInt_writeLong_apart (value : Nat) (apart : other+4 ≤ address ∨ address+8 ≤ other) :
    readInt (writeLong memory address value) other = readInt memory other := by
  rw [readInt,writeLong,load_store_disjoint (by simpa using apart),← readInt]

theorem readInt_writeLong_low (value : Nat) : readInt (writeLong memory address value) address = value % 0x100000000 := by
  have first : load (store memory address (bytesOf 4 value ++ bytesOf 4 (value/256^4))) address (bytesOf 4 value).length =
      bytesOf 4 value := load_store_first
  rw [bytesOf_length] at first
  rw [readInt,writeLong,bytesOf_add 4 4,first,littleEndian_bytesOf]
  simp only [Nat.reducePow]

theorem readInt_writeLong_high (value : Nat) :
    readInt (writeLong memory address value) (address+4) = value/0x100000000 % 0x100000000 := by
  have second : load (store memory address (bytesOf 4 value ++ bytesOf 4 (value/256^4))) (address+(bytesOf 4 value).length)
      (bytesOf 4 (value/256^4)).length = bytesOf 4 (value/256^4) := load_store_second
  simp only [bytesOf_length] at second
  rw [readInt,writeLong,bytesOf_add 4 4,second,littleEndian_bytesOf]
  simp only [Nat.reducePow]

theorem readLong_writeLong (value : Nat) : readLong (writeLong memory address value) address = value % 0x10000000000000000 := by
  have same : load (store memory address (bytesOf 8 value)) address (bytesOf 8 value).length = bytesOf 8 value := load_store_same
  rw [bytesOf_length] at same
  rw [readLong,writeLong,same,littleEndian_bytesOf]
  simp only [Nat.reducePow]

theorem readLong_writeLong_apart (value : Nat) (apart : other+8 ≤ address ∨ address+8 ≤ other) :
    readLong (writeLong memory address value) other = readLong memory other := by
  rw [readLong,writeLong,load_store_disjoint (by simpa using apart),← readLong]

theorem readLong_writeInt_apart (value : Nat) (apart : other+8 ≤ address ∨ address+4 ≤ other) :
    readLong (writeInt memory address value) other = readLong memory other := by
  rw [readLong,writeInt,load_store_disjoint (by simpa using apart),← readLong]

theorem readLong_writeLong_below (value : Nat) :
    readLong (writeLong memory address value) (address+4) =
      value/0x100000000 % 0x100000000+0x100000000*(readLong memory (address+4)/0x100000000) := by
  have low := readInt_lt memory (address+4)
  have upper : readInt memory (address+4+4) = readLong memory (address+4)/0x100000000 := by
    rw [readLong_halves]
    omega
  rw [readLong_halves,readInt_writeLong_high,readInt_writeLong_apart value (.inr (by omega)),upper]

end Memory

section Views
variable {f : Frame} {s : System}

theorem Frame.hit_cases (f : Frame) : (f.hit = .delay ∧ f.delay = f.value+4) ∨ (f.hit = .fd ∧ f.fd = f.value+4) ∨
    (f.hit = .nothing ∧ f.delay ≠ f.value+4 ∧ f.fd ≠ f.value+4) := by
  unfold Frame.hit
  split
  · exact .inl ⟨rfl,‹_›⟩
  · split
    · exact .inr (.inl ⟨rfl,‹_›⟩)
    · exact .inr (.inr ⟨rfl,‹_›,‹_›⟩)

theorem delay_beside (away : f.delay ≠ f.value+4) : f.delay+8 ≤ f.value ∨ f.value+8 ≤ f.delay := by
  have delay := f.delayAligned
  have value := f.valueAligned
  have apart := f.valueDelay
  omega

theorem fd_beside (away : f.fd ≠ f.value+4) : f.fd+4 ≤ f.value ∨ f.value+8 ≤ f.fd := by
  have fd := f.fdAligned
  have value := f.valueAligned
  have apart := f.valueFd
  omega

theorem view_ioctlGet (f : Frame) (jiffies : BitVec 64) (s : System) :
    view f (ioctlGet f jiffies s) = (view f s).get f.hit f.descriptor := by
  have high : s.driver.delay.toNat/0x100000000 % 0x100000000 = s.driver.delay.toNat/0x100000000 := by omega
  have given : (IoctlFaults.ioctl .helloplus jiffies (.getDelay .writable) s.driver).1.given = some s.driver.delay := rfl
  unfold ioctlGet Numbers.get
  by_cases device : readInt s.memory f.fd = f.descriptor
  · rw [if_pos device,given,if_pos (show (view f s).fd = f.descriptor from device)]
    simp only [view,readInt_writeLong_low]
    rcases f.hit_cases with ⟨hit,beside⟩ | ⟨hit,beside⟩ | ⟨hit,delayAway,fdAway⟩
    · have fdApart := f.fdDelay
      have fdAway : f.fd ≠ f.value+4 := by omega
      rw [readInt_writeLong_apart _ (fd_beside fdAway),beside,readLong_writeLong_below,high]
      simp [hit]
    · have fdApart := f.fdDelay
      have delayAway : f.delay ≠ f.value+4 := by omega
      rw [readLong_writeLong_apart _ (delay_beside delayAway),beside,readInt_writeLong_high,high]
      simp [hit]
    · rw [readLong_writeLong_apart _ (delay_beside delayAway),readInt_writeLong_apart _ (fd_beside fdAway)]
      simp [hit]
  · rw [if_neg device,if_neg (show ¬ (view f s).fd = f.descriptor from device)]

theorem view_addFive (f : Frame) (s : System) : view f (addFive f s) = (view f s).add := by
  have fdApart : f.fd+4 ≤ f.delay ∨ f.delay+8 ≤ f.fd := f.fdDelay
  have valueApart : f.value+4 ≤ f.delay ∨ f.delay+8 ≤ f.value := f.valueDelay
  simp only [view,addFive,Numbers.add,readLong_writeLong,readInt_writeLong_apart _ fdApart,readInt_writeLong_apart _ valueApart]

theorem view_ioctlSet (f : Frame) (jiffies : BitVec 64) (s : System) :
    view f (ioctlSet f jiffies s) = (view f s).set f.descriptor := by
  have whole : (BitVec.ofNat 64 (readLong s.memory f.delay)).toNat = readLong s.memory f.delay := by
    rw [BitVec.toNat_ofNat]
    exact Nat.mod_eq_of_lt (readLong_lt s.memory f.delay)
  unfold ioctlSet Numbers.set
  by_cases device : readInt s.memory f.fd = f.descriptor
  · rw [if_pos device,if_pos (show (view f s).fd = f.descriptor from device)]
    simp only [view,Numbers.mk.injEq,true_and,and_true]
    exact whole
  · rw [if_neg device,if_neg (show ¬ (view f s).fd = f.descriptor from device)]

theorem view_printf (f : Frame) (s : System) : view f (printf f s) = (view f s).print := rfl

theorem view_place (f : Frame) (place : Place) (s : System) : view f {s with place := place} = {view f s with place := place} := rfl

theorem view_main (f : Frame) (jiffies : BitVec 64) (s : System) : view f (main f jiffies s) = (view f s).main f.hit f.descriptor := by
  have same : (view f s).place = s.place := rfl
  unfold main Numbers.main
  rw [same]
  cases s.place with
  | getOld | getNew => rw [view_place,view_printf,view_ioctlGet]
  | setNew => rw [view_place,view_ioctlSet,view_addFive]

theorem view_run (f : Frame) (s : System) (events : List Event) (path : (machine f).Runs s events) :
    view f ((machine f).run s events) = (Numbers.machine f.hit f.descriptor).run (view f s) events := by
  have matched : ∀ (s : System) (n : Numbers) event,view f s = n → (machine f).Allowed s event →
      view f ((machine f).apply s event) = (Numbers.machine f.hit f.descriptor).apply n event := by
    rintro s _ event rfl _
    cases event with
    | program jiffies => exact view_main f jiffies s
    | fires jiffies => rfl
  exact Machine.lockstep matched rfl path

theorem view_start (f : Frame) (driver : IoctlFaults.System) (memory : Nat → UInt8) :
    view f (start f driver memory) = {fd := f.descriptor,delay := 1,value := 0,secs := driver.delay.toNat} := by
  have fits := f.fits
  have fdAligned := f.fdAligned
  have valueAligned := f.valueAligned
  have distinct := f.valueFd
  have fdApart : f.fd+4 ≤ f.delay ∨ f.delay+8 ≤ f.fd := f.fdDelay
  have valueApart : f.delay+8 ≤ f.value ∨ f.value+4 ≤ f.delay := f.valueDelay.symm
  have ints : f.fd+4 ≤ f.value ∨ f.value+4 ≤ f.fd := by omega
  simp only [view,start]
  rw [readInt_writeInt_apart _ ints,readInt_writeLong_apart _ fdApart,readInt_writeInt,readLong_writeInt_apart _ valueApart,
    readLong_writeLong,readInt_writeInt,Nat.mod_eq_of_lt (by omega)]

end Views

section Counts
variable {descriptor : Nat} {initial : BitVec 64} {n : Numbers}

def Numbers.sets (n : Numbers) : Nat := (n.printed.length+(if n.place = .getNew then 1 else 0))/2

structure Steady (descriptor : Nat) (initial : BitVec 64) (n : Numbers) : Prop where
  fd : n.fd = descriptor
  delay : n.delay = (1+5*n.sets) % 0x10000000000000000
  secs : n.secs = if n.sets = 0 then initial.toNat else (1+5*n.sets) % 0x10000000000000000
  parity : n.printed.length % 2 = if n.place = .getOld then 0 else 1
  counting : ∀ index value,n.printed[index]? = some value → value = shown initial index

theorem counting_snoc {printed : List Nat} {value : Nat}
    (before : ∀ index value,printed[index]? = some value → value = shown initial index)
    (new : value = shown initial printed.length) :
    ∀ index other,(printed ++ [value])[index]? = some other → other = shown initial index := by
  intro index other found
  rcases Nat.lt_trichotomy index printed.length with inside | last | beyond
  · rw [List.getElem?_append_left inside] at found
    exact before index other found
  · subst last
    rw [List.getElem?_concat_length] at found
    exact (Option.some.inj found).symm.trans new
  · rw [List.getElem?_eq_none (by simp; omega)] at found
    cases found

theorem main_steady (steady : Steady descriptor initial n) : Steady descriptor initial (n.main .nothing descriptor) := by
  obtain ⟨fd,delay,secs,parity,counting⟩ := steady
  cases place : n.place with
  | getOld =>
      simp only [Numbers.sets,place,reduceCtorEq,if_true,if_false,Nat.add_zero] at delay secs parity
      have half : (n.printed.length+1)/2 = n.printed.length/2 := by omega
      have next : n.main .nothing descriptor = {n with
          value := n.secs % 0x100000000
          place := .setNew
          printed := n.printed ++ [n.secs % 0x100000000]} := by simp [Numbers.main,Numbers.get,Numbers.print,place,fd]
      rw [next]
      refine ⟨fd,?_,?_,?_,counting_snoc counting ?_⟩
      · simpa [Numbers.sets,half] using delay
      · simpa [Numbers.sets,half] using secs
      · simp only [List.length_append,List.length_singleton,reduceCtorEq,if_false]
        omega
      · rw [secs,shown,half]
        by_cases first : n.printed.length/2 = 0
        · rw [if_pos first,if_pos (by omega)]
        · rw [if_neg first,if_neg (by omega)]
          omega
  | setNew =>
      simp only [Numbers.sets,place,reduceCtorEq,if_false,Nat.add_zero] at delay secs parity
      have half : (n.printed.length+1)/2 = n.printed.length/2+1 := by omega
      have added : (n.delay+5) % 0x10000000000000000 = (1+5*(n.printed.length/2+1)) % 0x10000000000000000 := by omega
      have next : n.main .nothing descriptor = {n with
          delay := (n.delay+5) % 0x10000000000000000
          secs := (n.delay+5) % 0x10000000000000000
          place := .getNew} := by simp [Numbers.main,Numbers.add,Numbers.set,place,fd]
      rw [next]
      refine ⟨fd,?_,?_,?_,counting⟩
      · simpa [Numbers.sets,half] using added
      · simpa [Numbers.sets,half] using added
      · simpa using parity
  | getNew =>
      simp only [Numbers.sets,place,reduceCtorEq,if_true,if_false] at delay secs parity
      have some : (n.printed.length+1)/2 ≠ 0 := by omega
      rw [if_neg some] at secs
      have next : n.main .nothing descriptor = {n with
          value := n.secs % 0x100000000
          place := .getOld
          printed := n.printed ++ [n.secs % 0x100000000]} := by simp [Numbers.main,Numbers.get,Numbers.print,place,fd]
      rw [next]
      refine ⟨fd,?_,?_,?_,counting_snoc counting ?_⟩
      · simpa [Numbers.sets] using delay
      · simpa [Numbers.sets,some] using secs
      · simp only [List.length_append,List.length_singleton,if_true]
        omega
      · rw [secs,shown,if_neg (by omega)]
        omega

theorem started_steady (descriptor : Nat) (initial : BitVec 64) :
    Steady descriptor initial {fd := descriptor,delay := 1,value := 0,secs := initial.toNat} :=
  ⟨rfl,by simp [Numbers.sets],by simp [Numbers.sets],rfl,by simp⟩

theorem delay_pass (descriptor delay value secs : Nat) (printed : List Nat) :
    (Numbers.machine .delay descriptor).run ⟨descriptor,delay,value,secs,.getOld,printed⟩ (List.replicate 3 (.program 0#64)) =
      let next := (secs/0x100000000+0x100000000*(delay/0x100000000)+5) % 0x10000000000000000
      ⟨descriptor,next/0x100000000+0x100000000*(next/0x100000000),next % 0x100000000,next,.getOld,
        printed ++ [secs % 0x100000000] ++ [next % 0x100000000]⟩ := by
  simp [Machine.run,List.replicate,Numbers.machine,Numbers.main,Numbers.get,Numbers.print,Numbers.add,Numbers.set]

theorem delay_printed (descriptor : Nat) (initial : BitVec 64) :
    ∃ value,((Numbers.machine .delay descriptor).run {fd := descriptor,delay := 1,value := 0,secs := initial.toNat}
      (List.replicate 6 (.program 0#64))).printed[3]? = some value ∧ value ≠ shown initial 3 := by
  have split : List.replicate 6 (Event.program 0#64) = List.replicate 3 (.program 0#64) ++ List.replicate 3 (.program 0#64) := rfl
  have expected : shown initial 3 = 11 := rfl
  rw [split,Machine.run_append,delay_pass]
  simp only []
  rw [delay_pass]
  refine ⟨_,rfl,?_⟩
  rw [expected]
  omega

theorem lost_pass (hit : Hit) (lost : fd ≠ descriptor) (delay value secs : Nat) (printed : List Nat) :
    (Numbers.machine hit descriptor).run ⟨fd,delay,value,secs,.getOld,printed⟩ (List.replicate 3 (.program 0#64)) =
      ⟨fd,(delay+5) % 0x10000000000000000,value,secs,.getOld,printed ++ [value] ++ [value]⟩ := by
  simp [Machine.run,List.replicate,Numbers.machine,Numbers.main,Numbers.get,Numbers.print,Numbers.add,Numbers.set,lost]

theorem losing_pass (lost : secs/0x100000000 ≠ descriptor) (delay value : Nat) (printed : List Nat) :
    (Numbers.machine .fd descriptor).run ⟨descriptor,delay,value,secs,.getOld,printed⟩ (List.replicate 3 (.program 0#64)) =
      ⟨secs/0x100000000,(delay+5) % 0x10000000000000000,secs % 0x100000000,secs,.getOld,
        printed ++ [secs % 0x100000000] ++ [secs % 0x100000000]⟩ := by
  simp [Machine.run,List.replicate,Numbers.machine,Numbers.main,Numbers.get,Numbers.print,Numbers.add,Numbers.set,lost]

theorem keeping_pass (kept : secs/0x100000000 = descriptor) (delay value : Nat) (printed : List Nat) :
    (Numbers.machine .fd descriptor).run ⟨descriptor,delay,value,secs,.getOld,printed⟩ (List.replicate 3 (.program 0#64)) =
      let next := (delay+5) % 0x10000000000000000
      ⟨next/0x100000000,next,next % 0x100000000,next,.getOld,printed ++ [secs % 0x100000000] ++ [next % 0x100000000]⟩ := by
  simp [Machine.run,List.replicate,Numbers.machine,Numbers.main,Numbers.get,Numbers.print,Numbers.add,Numbers.set,kept]

theorem fd_printed (opened : 0 < descriptor) (initial : BitVec 64) :
    ∃ index value,((Numbers.machine .fd descriptor).run {fd := descriptor,delay := 1,value := 0,secs := initial.toNat}
      (List.replicate 6 (.program 0#64))).printed[index]? = some value ∧ value ≠ shown initial index := by
  have split : List.replicate 6 (Event.program 0#64) = List.replicate 3 (.program 0#64) ++ List.replicate 3 (.program 0#64) := rfl
  have second : shown initial 1 = 6 := rfl
  have fourth : shown initial 3 = 11 := rfl
  rw [split,Machine.run_append]
  by_cases kept : initial.toNat/0x100000000 = descriptor
  · rw [keeping_pass kept]
    simp only []
    rw [lost_pass .fd (by omega)]
    exact ⟨3,_,rfl,by rw [fourth]; decide⟩
  · rw [losing_pass kept,lost_pass .fd kept]
    by_cases same : initial.toNat % 0x100000000 = 6
    · exact ⟨3,_,rfl,by rw [fourth,same]; decide⟩
    · exact ⟨1,_,rfl,by rw [second]; exact same⟩

theorem run_programs (hit : Hit) (descriptor : Nat) (n : Numbers) (events : List Event) :
    (Numbers.machine hit descriptor).run n events =
      (Numbers.machine hit descriptor).run n (List.replicate (steps events) (.program 0#64)) := by
  induction events generalizing n with
  | nil => rfl
  | cons event rest ih =>
      cases event with
      | program jiffies =>
          have one : steps (.program jiffies :: rest) = steps rest+1 := by simp [steps]
          rw [one,List.replicate_succ,Machine.run_cons,Machine.run_cons]
          exact ih (n.main hit descriptor)
      | fires jiffies =>
          have none : steps (.fires jiffies :: rest) = steps rest := by simp [steps]
          rw [none,Machine.run_cons]
          exact ih n

theorem run_printed (hit : Hit) (descriptor : Nat) (n : Numbers) (events : List Event) :
    n.printed <+: ((Numbers.machine hit descriptor).run n events).printed := by
  induction events generalizing n with
  | nil => exact List.prefix_refl _
  | cons event rest ih =>
      refine List.IsPrefix.trans ?_ (ih ((Numbers.machine hit descriptor).apply n event))
      cases event with
      | fires jiffies => exact List.prefix_refl _
      | program jiffies =>
          have printed (m : Numbers) : (m.get hit descriptor).printed = m.printed := by
            unfold Numbers.get
            split <;> rfl
          have kept (m : Numbers) : (m.set descriptor).printed = m.printed := by
            unfold Numbers.set
            split <;> rfl
          simp only [Numbers.machine,Numbers.main]
          split
          · simp [Numbers.print,printed]
          · simp [kept,Numbers.add]
          · simp [Numbers.print,printed]

theorem printed_later {index value : Nat} (passes : 6 ≤ steps events)
    (found : ((Numbers.machine hit descriptor).run n (List.replicate 6 (.program 0#64))).printed[index]? = some value) :
    ((Numbers.machine hit descriptor).run n events).printed[index]? = some value := by
  obtain ⟨later,total⟩ := Nat.exists_eq_add_of_le passes
  rw [run_programs,total,← List.replicate_append_replicate,Machine.run_append]
  obtain ⟨rest,printed⟩ := run_printed hit descriptor
    ((Numbers.machine hit descriptor).run n (List.replicate 6 (.program 0#64))) (List.replicate later (.program 0#64))
  have inside := (List.getElem?_eq_some_iff.mp found).1
  rw [← printed,List.getElem?_append_left inside,found]

end Counts

-- Whatever the timer does in between: the program shows every delay it sets
-- exactly if neither Delay nor fd lies where GET_DELAY writes behind Value, and
-- otherwise shows a wrong one by the end of its second pass.
theorem counting_iff (f : Frame) (driver : IoctlFaults.System) (memory : Nat → UInt8) :
    ((∀ events,(machine f).Runs (start f driver memory) events →
      Counting driver.delay ((machine f).run (start f driver memory) events)) ↔ f.delay ≠ f.value+4 ∧ f.fd ≠ f.value+4) ∧
    ∀ events,(machine f).Runs (start f driver memory) events → 6 ≤ steps events →
      (Counting driver.delay ((machine f).run (start f driver memory) events) ↔ f.delay ≠ f.value+4 ∧ f.fd ≠ f.value+4) := by
  have printed : ∀ events,(machine f).Runs (start f driver memory) events →
      ((machine f).run (start f driver memory) events).printed =
        ((Numbers.machine f.hit f.descriptor).run {fd := f.descriptor,delay := 1,value := 0,secs := driver.delay.toNat}
          events).printed := by
    intro events path
    have seen := view_run f (start f driver memory) events path
    rw [view_start] at seen
    exact congrArg Numbers.printed seen
  have counts : f.delay ≠ f.value+4 ∧ f.fd ≠ f.value+4 → ∀ events,(machine f).Runs (start f driver memory) events →
      Counting driver.delay ((machine f).run (start f driver memory) events) := by
    rintro ⟨delayAway,fdAway⟩ events path
    have hit : f.hit = .nothing := by simp [Frame.hit,delayAway,fdAway]
    rw [Counting,printed events path,hit]
    have step : ∀ n event,Steady f.descriptor driver.delay n →
        Steady f.descriptor driver.delay ((Numbers.machine .nothing f.descriptor).apply n event) := by
      intro n event before
      cases event with
      | program jiffies => exact main_steady before
      | fires jiffies => exact before
    exact (Machine.run_preserves step events (started_steady f.descriptor driver.delay)).counting
  have twice : ∀ events,(machine f).Runs (start f driver memory) events → 6 ≤ steps events →
      Counting driver.delay ((machine f).run (start f driver memory) events) → f.delay ≠ f.value+4 ∧ f.fd ≠ f.value+4 := by
    intro events path passes shows
    rw [Counting,printed events path] at shows
    rcases f.hit_cases with ⟨hit,_⟩ | ⟨hit,_⟩ | ⟨_,away⟩
    · rw [hit] at shows
      obtain ⟨value,found,wrong⟩ := delay_printed f.descriptor driver.delay
      exact absurd (shows 3 value (printed_later passes found)) wrong
    · rw [hit] at shows
      obtain ⟨index,value,found,wrong⟩ := fd_printed f.opened driver.delay
      exact absurd (shows index value (printed_later passes found)) wrong
    · exact away
  have runs : (machine f).Runs (start f driver memory) (List.replicate 6 (.program 0#64)) :=
    ⟨trivial,trivial,trivial,trivial,trivial,trivial,trivial⟩
  exact ⟨⟨fun counting => twice _ runs (Nat.le_refl 6) (counting _ runs),counts⟩,
    fun events path passes => ⟨twice events path passes,fun away => counts away events path⟩⟩

def padded : Frame where
  fd := 0x7f08
  delay := 0x7f10
  value := 0x7f00
  descriptor := 3
  fdAligned := by decide
  delayAligned := by decide
  valueAligned := by decide
  valueFd := by decide
  valueDelay := by decide
  fdDelay := by decide
  opened := by decide
  fits := by decide

def delayBehind : Frame := {padded with
  fd := 0x7f00
  delay := 0x7f08
  value := 0x7f04
  fdAligned := by decide
  delayAligned := by decide
  valueAligned := by decide
  valueFd := by decide
  valueDelay := by decide
  fdDelay := by decide}

def fdBehind : Frame := {padded with
  fd := 0x7f04
  fdAligned := by decide
  valueFd := by decide
  fdDelay := by decide}

def initial : IoctlFaults.System := (IoctlFaults.started .helloplus 250 0#64).system

def twoPasses : List Event :=
  [.program 0#64,.program 1#64,.program 2#64,.fires 7#64,.program 8#64,.program 9#64,.fires 20#64,.program 21#64]

theorem counting_iff_frames :
    Counting initial.delay ((machine padded).run (start padded initial fun _ => 0) twoPasses) ∧
    ¬ Counting initial.delay ((machine delayBehind).run (start delayBehind initial fun _ => 0) twoPasses) ∧
    ¬ Counting initial.delay ((machine fdBehind).run (start fdBehind initial fun _ => 0) (List.replicate 6 (.program 0#64))) := by
  refine ⟨?_,fun counts => ?_,fun counts => ?_⟩
  · exact ((counting_iff padded initial _).2 twoPasses (by decide +kernel) (by decide)).mpr (by decide)
  · exact (((counting_iff delayBehind initial _).2 twoPasses (by decide +kernel) (by decide)).mp counts).1 rfl
  · exact (((counting_iff fdBehind initial _).2 (List.replicate 6 (.program 0#64)) (by decide +kernel) (by decide)).mp counts).2 rfl

end LinuxDeviceDrivers.HelloplusProgram
