import LinuxDeviceDrivers.Rtl8150Transmit

namespace LinuxDeviceDrivers.Rtl8150Backlog
open Transition Rtl8150 Rtl8150Transmit

structure Frame where
  skb : Nat
  len : Nat

-- The stack above the driver: the frames it queues, and whether its transmit
-- loop is scheduled or under way.
structure System where
  link : Rtl8150.System := {}
  backlog : List Frame := []
  scheduled : Bool := false

inductive Event where
  | arrives (frame : Frame)
  | attempts (allocated : Bool) (result : Int)
  | completes (urb : Nat) (status : Int) (actualLength : Nat)
  | callback (urb : Nat) (answer : CallbackAnswer)

-- One turn of the transmit loop, which ends at a stopped queue or an empty
-- backlog. A frame that rtl8150_start_xmit refuses with an error is not requeued.
def attempt (allocated : Bool) (result : Int) (s : System) : System :=
  match s.link.stopped,s.backlog with
  | false,frame :: rest => {s with
      link := Rtl8150.machine.apply s.link (.startXmit frame.skb frame.len allocated result)
      backlog := rest}
  | _,_ => {s with scheduled := false}

-- netif_start_queue, which the completion calls, leaves `scheduled` as it is.
def machine : Machine System Event where
  Allowed s event := match event with
    | .arrives _ => s.link.oopsed = false
    | .attempts _ _ => s.link.oopsed = false ∧ s.scheduled = true
    | .completes urb status actualLength => Rtl8150.machine.Allowed s.link (.completes urb status actualLength)
    | .callback urb answer => Rtl8150.machine.Allowed s.link (.callback urb answer)
  apply s event := match event with
    | .arrives frame => {s with backlog := s.backlog ++ [frame],scheduled := true}
    | .attempts allocated result => attempt allocated result s
    | .completes urb status actualLength =>
        {s with link := Rtl8150.machine.apply s.link (.completes urb status actualLength)}
    | .callback urb answer => {s with link := Rtl8150.machine.apply s.link (.callback urb answer)}

instance decidableAllowed : ∀ s event,Decidable (machine.Allowed s event)
  | s,.arrives _ => inferInstanceAs (Decidable (s.link.oopsed = false))
  | s,.attempts _ _ => inferInstanceAs (Decidable (s.link.oopsed = false ∧ s.scheduled = true))
  | s,.completes urb status actualLength => Rtl8150.decidableAllowed s.link (.completes urb status actualLength)
  | s,.callback urb answer => Rtl8150.decidableAllowed s.link (.callback urb answer)

def opened (history : List Rtl8150.Event) (answer : OpenAnswer) : System :=
  {link := Rtl8150.machine.run {} (history ++ [.opens answer])}

def Idle (s : Rtl8150.System) : Prop := ∀ urb,(transmit s).outgoing urb = none

def Served (s : System) : Prop := s.link.phase = .up → Idle s.link → s.backlog = [] ∨ s.scheduled = true

-- The last bulk OUT URB ends with nothing in the backlog, or while the transmit
-- loop is scheduled anyway; a loop that meets a stopped queue leaves no frame
-- behind, or an URB that will end.
def Restarts (s : System) : Event → Prop
  | .arrives _ | .completes _ _ _ => True
  | .attempts _ _ => s.link.stopped = true → s.backlog = [] ∨ ¬ Idle s.link
  | .callback urb _ => (s.link.urbs urb).pipe = .bulkOut →
      s.backlog = [] ∨ s.scheduled = true ∨ ∃ other,other ≠ urb ∧ (transmit s.link).outgoing other ≠ none

structure Live (s : System) : Prop where
  wellformed : Wellformed s.link
  up : s.link.phase = .up

section Steps
variable {s : System} {next : Rtl8150.System}

theorem phase_up (same : (transmit next).up = (transmit s.link).up) (up : s.link.phase = .up) : next.phase = .up := by
  simpa [transmit,up] using same

theorem startXmit_up (wellformed : Wellformed s.link) (up : s.link.phase = .up) (skb len : Nat) (allocated : Bool)
    (result : Int) : (rtl8150StartXmit skb len allocated result s.link).phase = .up := by
  apply phase_up (s:=s) _ up
  rw [transmit_startXmit wellformed]
  obtain ⟨urb,refused⟩ | sent := action_startXmit s.link skb len allocated result
  · rw [refused]
    rfl
  · rw [sent]
    rfl

theorem idle_of_known (wellformed : Wellformed next) (known : ∀ urb < next.urbCount,(transmit next).outgoing urb = none) :
    Idle next := by
  intro urb
  by_cases numbered : urb < next.urbCount
  · exact known urb numbered
  · exact carried_idle (wellformed.fresh urb (by omega))

theorem giveBack_idle {urb : Nat} (status : Int) (actualLength : Nat) (active : (s.link.urbs urb).state = .active) :
    Idle (setState urb (.done status actualLength) s.link) ↔ Idle s.link := by
  unfold Idle
  rw [transmit_giveBack status actualLength active]

theorem callback_idle (wellformed : Wellformed s.link) (urb : Nat) (answer : CallbackAnswer)
    (finished : isDone (s.link.urbs urb).state = true) :
    Idle (callback urb answer s.link) ↔ if (s.link.urbs urb).pipe = .bulkOut
      then ∀ other,other ≠ urb → (transmit s.link).outgoing other = none else Idle s.link := by
  obtain ⟨status,actualLength,finished⟩ := isDone_iff.mp finished
  unfold Idle
  rw [transmit_callback wellformed]
  by_cases out : (s.link.urbs urb).pipe = .bulkOut
  · have finishes : action s.link (.callback urb answer) = .finishes urb status := by simp [action,out,finished]
    rw [if_pos out,finishes]
    constructor
    · intro quiet other different
      simpa [Transmit.after,different] using quiet other
    · intro others other
      by_cases same : other = urb
      · simp [Transmit.after,same]
      · simpa [Transmit.after,same] using others other same
  · have aside : action s.link (.callback urb answer) = .aside := by
      cases pipe : (s.link.urbs urb).pipe with
      | bulkOut => exact absurd pipe out
      | bulkIn | interruptIn => simp [action,pipe]
    rw [if_neg out,aside]
    rfl

theorem callback_up (wellformed : Wellformed s.link) (up : s.link.phase = .up) (urb : Nat) (answer : CallbackAnswer)
    (finished : isDone (s.link.urbs urb).state = true) : (callback urb answer s.link).phase = .up := by
  obtain ⟨status,actualLength,finished⟩ := isDone_iff.mp finished
  apply phase_up (s:=s) _ up
  rw [transmit_callback wellformed]
  obtain ⟨_,finishes⟩ | ⟨_,aside⟩ := action_callback answer finished
  · rw [finishes]
    rfl
  · rw [aside]
    rfl

theorem attempt_stopped (stopped : s.link.stopped = true) (allocated : Bool) (result : Int) :
    attempt allocated result s = {s with scheduled := false} := by
  unfold attempt
  rw [stopped]

theorem attempt_empty (empty : s.backlog = []) (allocated : Bool) (result : Int) :
    attempt allocated result s = {s with scheduled := false} := by
  unfold attempt
  rw [empty]
  cases s.link.stopped <;> rfl

theorem attempt_running (running : s.link.stopped = false) (more : s.backlog = frame :: rest) (allocated : Bool)
    (result : Int) : attempt allocated result s = {s with
      link := rtl8150StartXmit frame.skb frame.len allocated result s.link
      backlog := rest} := by
  unfold attempt
  rw [running,more]
  rfl

end Steps

section Runs
variable {s : System}

theorem apply_live (s : System) (event : Event) (live : Live s) (allowed : machine.Allowed s event) :
    Live (machine.apply s event) := by
  obtain ⟨wellformed,up⟩ := live
  cases event with
  | arrives frame => exact ⟨wellformed,up⟩
  | attempts allocated result =>
      change Live (attempt allocated result s)
      cases stopped : s.link.stopped with
      | true =>
          rw [attempt_stopped stopped]
          exact ⟨wellformed,up⟩
      | false =>
          cases waiting : s.backlog with
          | nil =>
              rw [attempt_empty waiting]
              exact ⟨wellformed,up⟩
          | cons frame rest =>
              rw [attempt_running stopped waiting]
              exact ⟨rtl8150StartXmit_wellformed wellformed _ _ _ _,startXmit_up wellformed up _ _ _ _⟩
  | completes urb status actualLength =>
      exact ⟨Rtl8150.apply_wellformed s.link (.completes urb status actualLength) wellformed allowed,up⟩
  | callback urb answer =>
      exact ⟨callback_wellformed wellformed urb answer,callback_up wellformed up urb answer allowed.2⟩

theorem served_exact (s : System) (event : Event) (sound : Live s ∧ Served s) (allowed : machine.Allowed s event) :
    Restarts s event ↔ Served (machine.apply s event) := by
  obtain ⟨⟨wellformed,up⟩,served⟩ := sound
  cases event with
  | arrives frame => exact iff_of_true trivial fun _ _ => .inr rfl
  | completes urb status actualLength =>
      refine iff_of_true trivial fun _ quiet => served up ?_
      exact (giveBack_idle status actualLength allowed.2).mp quiet
  | attempts allocated result =>
      show Restarts s _ ↔ Served (attempt allocated result s)
      cases stopped : s.link.stopped with
      | true =>
          rw [attempt_stopped stopped]
          simp [Restarts,Served,stopped,up,imp_iff_or_not]
      | false =>
          have unstopped : Restarts s (.attempts allocated result) := fun stays => by simp [stopped] at stays
          refine iff_of_true unstopped ?_
          cases waiting : s.backlog with
          | nil =>
              rw [attempt_empty waiting]
              exact fun _ _ => .inl waiting
          | cons frame rest =>
              rw [attempt_running stopped waiting]
              exact fun _ _ => .inr allowed.2
  | callback urb answer =>
      have finished := allowed.2
      have quiet := callback_idle wellformed urb answer finished
      have stays := callback_up wellformed up urb answer finished
      show Restarts s _ ↔ Served {s with link := callback urb answer s.link}
      by_cases out : (s.link.urbs urb).pipe = .bulkOut
      · rw [if_pos out] at quiet
        simp only [Restarts,Served,out,stays,quiet,forall_const]
        constructor
        · intro restarts others
          obtain empty | scheduled | ⟨other,different,flying⟩ := restarts
          · exact .inl empty
          · exact .inr scheduled
          · exact absurd (others other different) flying
        · intro after
          by_cases others : ∀ other,other ≠ urb → (transmit s.link).outgoing other = none
          · cases after others with
            | inl empty => exact .inl empty
            | inr scheduled => exact .inr (.inl scheduled)
          · obtain ⟨other,outstanding⟩ := not_forall.mp others
            exact .inr (.inr ⟨other,Classical.not_imp.mp outstanding⟩)
      · rw [if_neg out] at quiet
        exact iff_of_true (fun same => absurd same out) fun _ idle => served up (quiet.mp idle)

theorem apply_sound (s : System) (event : Event) (sound : Live s ∧ Served s) (allowed : machine.Allowed s event)
    (restarts : Restarts s event) : Live (machine.apply s event) ∧ Served (machine.apply s event) :=
  ⟨apply_live s event sound.1 allowed,(served_exact s event sound allowed).mp restarts⟩

theorem opened_live {history : List Rtl8150.Event} {answer : OpenAnswer}
    (path : Rtl8150.machine.Runs {} (history ++ [.opens answer])) (succeeds : openSucceeds answer = true) :
    Live (opened history answer) := by
  have wellformed : Wellformed (opened history answer).link :=
    Rtl8150.machine.invariant apply_wellformed probed_wellformed path
  have before := Machine.along_append.mp path
  have known : Wellformed (Rtl8150.machine.run {} history) :=
    Rtl8150.machine.invariant apply_wellformed probed_wellformed before.1
  have view := congrArg Transmit.up (transmit_rtl8150Open known answer before.2.1.2)
  have open' : (opened history answer).link = rtl8150Open answer (Rtl8150.machine.run {} history) :=
    Rtl8150.machine.run_append {} history [.opens answer]
  refine ⟨wellformed,?_⟩
  rw [open']
  simpa [transmit,Transmit.after,succeeds] using view

def Completes (s : System) : Event → Prop
  | .callback urb _ => ∀ actualLength,(s.link.urbs urb).pipe = .bulkOut → (s.link.urbs urb).state ≠ .done enoent actualLength
  | .arrives _ | .attempts _ _ | .completes _ _ _ => True

def Waits (s : System) : Prop := s.link.oopsed = false → s.link.stopped = true → ¬ Idle s.link

theorem startXmit_waits (wellformed : Wellformed s.link) (skb len : Nat) (allocated : Bool) (result : Int)
    (survives : (rtl8150StartXmit skb len allocated result s.link).oopsed = false)
    (stopped : (rtl8150StartXmit skb len allocated result s.link).stopped = true) :
    ¬ Idle (rtl8150StartXmit skb len allocated result s.link) := by
  cases allocated with
  | false => simp [rtl8150StartXmit] at survives
  | true =>
      have view := transmit_startXmit wellformed skb len true result
      have halted : (transmit (rtl8150StartXmit skb len true result s.link)).stopped = true := stopped
      unfold Idle
      rw [view] at halted ⊢
      by_cases refused : result < 0
      · simp [action,refused,Transmit.after] at halted
      · intro quiet
        have sent := quiet s.link.urbCount
        simp [action,refused,Transmit.after] at sent

theorem callback_waits (wellformed : Wellformed s.link) (waits : s.link.stopped = true → ¬ Idle s.link) (urb : Nat)
    (answer : CallbackAnswer) (finished : isDone (s.link.urbs urb).state = true)
    (completes : Completes s (.callback urb answer)) (stopped : (callback urb answer s.link).stopped = true) :
    ¬ Idle (callback urb answer s.link) := by
  obtain ⟨status,actualLength,finished⟩ := isDone_iff.mp finished
  have view := transmit_callback wellformed urb answer
  have halted : (transmit (callback urb answer s.link)).stopped = true := stopped
  unfold Idle
  rw [view] at halted ⊢
  cases pipe : (s.link.urbs urb).pipe with
  | bulkOut =>
      have other : status ≠ enoent := fun same => completes actualLength pipe (same ▸ finished)
      simp [action,pipe,finished,Transmit.after,other] at halted
  | bulkIn | interruptIn =>
      have aside : action s.link (.callback urb answer) = .aside := by simp [action,pipe]
      rw [aside] at halted ⊢
      exact waits halted

theorem apply_waits (s : System) (event : Event) (waiting : Live s ∧ Waits s)
    (admitted : machine.Allowed s event ∧ Completes s event) :
    Live (machine.apply s event) ∧ Waits (machine.apply s event) := by
  obtain ⟨live,waits⟩ := waiting
  obtain ⟨allowed,completes⟩ := admitted
  refine ⟨apply_live s event live allowed,?_⟩
  cases event with
  | arrives frame => exact waits
  | attempts allocated result =>
      change Waits (attempt allocated result s)
      cases stopped : s.link.stopped with
      | true =>
          rw [attempt_stopped stopped]
          exact waits
      | false =>
          cases more : s.backlog with
          | nil =>
              rw [attempt_empty more]
              exact waits
          | cons frame rest =>
              rw [attempt_running stopped more]
              exact startXmit_waits live.wellformed _ _ _ _
  | completes urb status actualLength =>
      intro survives stopped
      exact (giveBack_idle status actualLength allowed.2).not.mpr (waits survives stopped)
  | callback urb answer =>
      intro _ stopped
      exact callback_waits live.wellformed (waits allowed.1) urb answer allowed.2 completes stopped

theorem restarts_of_completes {s : System} {events : List Event} (live : Live s) (waits : Waits s)
    (path : machine.Runs s events) (completes : machine.Along Completes s events) :
    machine.Along Restarts s events ↔
      machine.Along (fun s event => ∀ urb answer,event = .callback urb answer → Restarts s event) s events := by
  refine Machine.along_congr ?_ apply_waits ⟨live,waits⟩ (Machine.along_and.mpr ⟨path,completes⟩)
  intro s event waiting admitted
  cases event with
  | attempts allocated result =>
      refine iff_of_true (fun stopped => .inr ?_) (by simp)
      exact waiting.2 admitted.1.1 stopped
  | arrives frame => exact iff_of_true trivial (by simp)
  | completes urb status actualLength => exact iff_of_true trivial (by simp)
  | callback urb answer => simp

end Runs

theorem backlog_served_iff (history : List Rtl8150.Event) (answer : OpenAnswer) (events : List Event)
    (openable : Rtl8150.machine.Runs {} (history ++ [.opens answer])) (succeeds : openSucceeds answer = true)
    (path : machine.Runs (opened history answer) events) :
    machine.Throughout Served (opened history answer) events ↔
      machine.Along Restarts (opened history answer) events :=
  Machine.throughout_exact (fun _ sound => sound.2) served_exact apply_sound
    ⟨opened_live openable succeeds,fun _ _ => .inl rfl⟩ path

def apart : List Event :=
  [.arrives ⟨1,100⟩,.attempts true 0,.attempts true 0,.completes 2 0 100,.callback 2 {},.arrives ⟨2,100⟩,.attempts true 0]

theorem backlog_served_apart : machine.Throughout Served (opened [] {}) apart := by
  refine (backlog_served_iff [] {} apart (by decide +kernel) rfl (by decide +kernel)).mpr
    ⟨trivial,fun stopped => ?_,fun _ => .inl rfl,trivial,fun _ => .inl rfl,trivial,fun stopped => ?_,trivial⟩
  · exact absurd stopped (by decide +kernel)
  · exact absurd stopped (by decide +kernel)

def burst : List Event :=
  [.arrives ⟨1,100⟩,.attempts true 0,.arrives ⟨2,100⟩,.attempts true 0,.completes 2 0 100,.callback 2 {}]

theorem burst_stranded :
    Rtl8150.machine.Runs {} [.opens {}] ∧ machine.Runs (opened [] {}) burst ∧
      ¬ machine.Throughout Served (opened [] {}) burst := by
  have path : machine.Runs (opened [] {}) burst := by decide +kernel
  refine ⟨by decide +kernel,path,?_⟩
  intro served
  have live := machine.invariant apply_live (opened_live (by decide +kernel : Rtl8150.machine.Runs {} ([] ++ [.opens {}])) rfl) path
  have waits : ¬ ((machine.run (opened [] {}) burst).backlog = [] ∨
      (machine.run (opened [] {}) burst).scheduled = true) := by decide +kernel
  exact waits (served.last live.up (idle_of_known live.wellformed (by decide +kernel)))

end LinuxDeviceDrivers.Rtl8150Backlog
