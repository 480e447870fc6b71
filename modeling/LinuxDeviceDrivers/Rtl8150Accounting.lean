import Mathlib.Algebra.GroupWithZero.Nat
import LinuxDeviceDrivers.Rtl8150

namespace LinuxDeviceDrivers.Rtl8150Accounting
open Transition NetDevice Rtl8150

-- usb_kill_urb and usb_unlink_urb.
def cancelled (status : Int) : Bool := status == enoent || status == econnreset

-- What has become of a frame: usb_submit_urb refused its URB, or the URB ended
-- with a status that is no cancellation.
inductive Outcome where
  | refused
  | completed (status : Int) (actualLength : Nat)

-- What an event is to the transmit counters. A `reported` error comes with the
-- TSR byte of an interrupt URB, not with a frame.
inductive Effect where
  | aside
  | frame (outcome : Outcome)
  | reported

def effect (s : Rtl8150.System) : Event → Effect
  | .startXmit _ _ allocated result => if allocated ∧ result < 0 then .frame .refused else .aside
  | .callback urb answer => match (s.urbs urb).pipe,(s.urbs urb).state with
      | .bulkOut,.done status actualLength =>
          if cancelled status then .aside else .frame (.completed status actualLength)
      | .interruptIn,.done status _ =>
          if status = 0 ∧ (s.urbs urb).buffer ≠ none ∧ answer.tsr &&& tsrErrors ≠ 0#8 then .reported else .aside
      | _,_ => .aside
  | .opens _ | .completes _ _ _ | .closes => .aside

def known : Effect → List Outcome
  | .frame outcome => [outcome]
  | .aside | .reported => []

structure System where
  link : Rtl8150.System := {}
  outcomes : List Outcome := []

def machine : Machine System Event where
  Allowed s event := Rtl8150.machine.Allowed s.link event
  apply s event := ⟨Rtl8150.machine.apply s.link event,s.outcomes ++ known (effect s.link event)⟩

instance decidableAllowed (s : System) (event : Event) : Decidable (machine.Allowed s event) :=
  Rtl8150.decidableAllowed s.link event

def succeeded : Outcome → Bool
  | .completed status _ => status == 0
  | .refused => false

def transferred : Outcome → Nat
  | .completed status actualLength => if status = 0 then actualLength else 0
  | .refused => 0

structure Conserved (s : System) : Prop where
  packets : s.link.priv.stats.txPackets = s.outcomes.countP succeeded
  errors : s.link.priv.stats.txErrors = s.outcomes.countP (!succeeded ·)
  bytes : s.link.priv.stats.txBytes = (s.outcomes.map transferred).sum

structure Counts where
  packets : Nat
  errors : Nat
  bytes : Nat

def counts (s : Rtl8150.System) : Counts := ⟨s.priv.stats.txPackets,s.priv.stats.txErrors,s.priv.stats.txBytes⟩

def Counts.after (c : Counts) : Effect → Counts
  | .aside => c
  | .reported | .frame .refused => {c with errors := c.errors+1}
  | .frame (.completed status actualLength) =>
      if status = 0 then {c with
        packets := c.packets+1
        bytes := c.bytes+(actualLength+0x100000000-4) % 0x100000000}
      else c

section Counters
variable {s : Rtl8150.System}

theorem counts_blind : Blind counts := ⟨fun _ _ _ => rfl,fun _ _ _ _ _ => rfl⟩

theorem counts_rtl8150Open (answer : OpenAnswer) (s : Rtl8150.System) : counts (rtl8150Open answer s) = counts s := by
  by_cases granted : (answer.rxUrb && answer.intrUrb && answer.rxSkb) = true
  · exact counts_blind.rtl8150Open granted s
  · rw [rtl8150Open,if_neg granted]
    rfl

theorem counts_startXmit (wellformed : Wellformed s) (skb len : Nat) (allocated : Bool) (result : Int) :
    counts (rtl8150StartXmit skb len allocated result s) =
      (counts s).after (effect s (.startXmit skb len allocated result)) := by
  cases allocated with
  | false => rfl
  | true =>
      let filled := fillUrb s.urbCount .bulkOut (some skb) len
        (takeSkb skb (some s.urbCount) {s with urbCount := s.urbCount+1})
      have fresh := wellformed.fresh s.urbCount (Nat.le_refl _)
      have idle : (filled.urbs s.urbCount).state = .idle := by simp [filled,fillUrb,setUrb,takeSkb,fresh]
      have code := usbSubmitUrb_result result idle
      have sent := counts_blind.usbSubmitUrb s.urbCount result filled
      simp only [rtl8150StartXmit,if_true,effect,true_and]
      by_cases refused : result < 0
      · have kept := usbSubmitUrb_refused result (code.symm ▸ refused)
        rw [code,if_pos refused,if_pos refused,kept]
        rfl
      · rw [code,if_neg refused,if_neg refused]
        exact sent

theorem counts_readBulkCallback (status : Int) (actualLength : Nat) (answer : CallbackAnswer) (s : Rtl8150.System) :
    counts (readBulkCallback status actualLength answer s) = counts s := by
  have scheduled : ∀ s,counts (reschedule answer s) = counts s := by
    intro s
    unfold reschedule
    split
    · rw [counts_blind.usbSubmitUrb]
      rfl
    · rfl
  unfold readBulkCallback
  split
  · rw [scheduled]
    rfl
  · split
    · rfl
    · exact scheduled s

theorem counts_reportLink (answer : CallbackAnswer) (s : Rtl8150.System) :
    counts (reportLink answer s) = (counts s).after (if answer.tsr &&& tsrErrors ≠ 0#8 then .reported else .aside) := by
  by_cases quiet : answer.tsr &&& tsrErrors = 0#8
  · simp [counts,reportLink,reportErrors,quiet,Counts.after]
  · simp [counts,reportLink,reportErrors,quiet,Counts.after]

theorem counts_intrCallback (urb : Nat) (status : Int) (answer : CallbackAnswer) (s : Rtl8150.System) :
    counts (intrCallback urb status answer s) = (counts s).after
      (if status = 0 ∧ (s.urbs urb).buffer ≠ none ∧ answer.tsr &&& tsrErrors ≠ 0#8 then .reported else .aside) := by
  unfold intrCallback
  by_cases success : status = 0
  · by_cases missing : (s.urbs urb).buffer = none
    · rw [if_pos success,if_pos missing,if_neg fun reports => reports.2.1 missing]
      rfl
    · rw [if_pos success,if_neg missing,counts_blind.usbSubmitUrb,counts_reportLink]
      simp only [success,missing,ne_eq,not_false_eq_true,true_and]
  · have aside : ¬ (status = 0 ∧ (s.urbs urb).buffer ≠ none ∧ answer.tsr &&& tsrErrors ≠ 0#8) :=
      fun reports => success reports.1
    rw [if_neg success,if_neg aside]
    split
    · rfl
    · exact counts_blind.usbSubmitUrb urb answer.result s

theorem counts_writeBulkCallback (status : Int) (actualLength : Nat) (s : Rtl8150.System) :
    counts (writeBulkCallback status actualLength s) = (counts s).after
      (if cancelled status then .aside else .frame (.completed status actualLength)) := by
  unfold writeBulkCallback
  by_cases success : status = 0
  · subst success
    rfl
  · have counted : (counts s).after (if cancelled status then .aside else .frame (.completed status actualLength)) =
        counts s := by
      split
      · rfl
      · exact if_neg success
    rw [if_neg success,counted]
    split <;> rfl

theorem counts_callback (urb : Nat) (answer : CallbackAnswer) (s : Rtl8150.System) :
    counts (callback urb answer s) = (counts s).after (effect s (.callback urb answer)) := by
  unfold callback
  cases finished : (s.urbs urb).state with
  | idle => cases pipe : (s.urbs urb).pipe <;> simp [effect,pipe,finished,Counts.after]
  | active => cases pipe : (s.urbs urb).pipe <;> simp [effect,pipe,finished,Counts.after]
  | done status actualLength =>
      have given : counts {setState urb .idle s with awaited := s.awaited.erase urb} = counts s := rfl
      cases pipe : (s.urbs urb).pipe with
      | bulkIn =>
          simp only [runCallback,effect,pipe,finished,counts_readBulkCallback,given]
          rfl
      | bulkOut => simp only [runCallback,effect,pipe,finished,counts_writeBulkCallback,given]
      | interruptIn =>
          have buffer : ((setState urb .idle s).urbs urb).buffer = (s.urbs urb).buffer := by simp [setState,setUrb]
          simp only [runCallback,effect,pipe,finished,counts_intrCallback,given,buffer]

theorem apply_counts (wellformed : Wellformed s) (event : Event) :
    counts (Rtl8150.machine.apply s event) = (counts s).after (effect s event) := by
  cases event with
  | opens answer => exact counts_rtl8150Open answer s
  | startXmit skb len allocated result => exact counts_startXmit wellformed skb len allocated result
  | completes urb status actualLength => rfl
  | callback urb answer => exact counts_callback urb answer s
  | closes => exact counts_blind.rtl8150Close s

end Counters

-- Only a frame whose submission fails is counted right: a success loses the
-- length of a CRC it has not, a failure is not counted, and an error reported
-- with an interrupt is no frame's.
def Countable (s : Rtl8150.System) (event : Event) : Prop :=
  match effect s event with
  | .aside | .frame .refused => True
  | .frame (.completed _ _) | .reported => False

section Runs
variable {s : System}

structure Sound (s : System) : Prop where
  wellformed : Wellformed s.link
  conserved : Conserved s

theorem packets_counted (s : System) (event : Event)
    (before : Wellformed s.link ∧ s.link.priv.stats.txPackets = s.outcomes.countP succeeded)
    (allowed : machine.Allowed s event) :
    Wellformed (machine.apply s event).link ∧
      (machine.apply s event).link.priv.stats.txPackets = (machine.apply s event).outcomes.countP succeeded := by
  obtain ⟨wellformed,packets⟩ := before
  refine ⟨apply_wellformed s.link event wellformed allowed,?_⟩
  have moved : (machine.apply s event).link.priv.stats.txPackets = _ :=
    congrArg Counts.packets (apply_counts wellformed event)
  rw [moved]
  simp only [machine,List.countP_append,← packets]
  cases effect s.link event with
  | aside | reported => rfl
  | frame outcome =>
      cases outcome with
      | refused => rfl
      | completed status actualLength =>
          by_cases success : status = 0
          · simp [Counts.after,known,success,succeeded,counts]
          · simp [Counts.after,known,success,succeeded,counts]

theorem countable_after {s : Rtl8150.System} (c : Counts) (event : Event) (countable : Countable s event) :
    (c.after (effect s event)).errors = c.errors+(known (effect s event)).countP (!succeeded ·) ∧
    (c.after (effect s event)).bytes = c.bytes+((known (effect s event)).map transferred).sum := by
  revert countable
  unfold Countable
  cases effect s event with
  | aside => exact fun _ => ⟨rfl,rfl⟩
  | reported => exact False.elim
  | frame outcome =>
      cases outcome with
      | refused => exact fun _ => ⟨rfl,rfl⟩
      | completed status actualLength => exact False.elim

-- What is miscounted shows in the words as well.
theorem uncountable_after {s : Rtl8150.System} (c : Counts) (event : Event) (uncountable : ¬ Countable s event) :
    unsignedLong (c.after (effect s event)).errors ≠
      unsignedLong (c.errors+(known (effect s event)).countP (!succeeded ·)) ∨
    unsignedLong (c.after (effect s event)).bytes ≠
      unsignedLong (c.bytes+((known (effect s event)).map transferred).sum) := by
  revert uncountable
  unfold Countable unsignedLong
  cases effect s event with
  | aside => exact fun uncountable => absurd trivial uncountable
  | reported =>
      refine fun _ => .inl ?_
      simp only [Counts.after,known,List.countP_nil]
      omega
  | frame outcome =>
      cases outcome with
      | refused => exact fun uncountable => absurd trivial uncountable
      | completed status actualLength =>
          intro _
          by_cases success : status = 0
          · right
            simp only [Counts.after,known,success,if_true,transferred,List.map_cons,List.map_nil,List.sum_cons,List.sum_nil]
            omega
          · left
            simp [Counts.after,known,success,succeeded]
            omega

-- What a step must leave of the errors and the bytes.
theorem apply_moved (s : System) (event : Event) (sound : Sound s) :
    ((machine.apply s event).link.priv.stats.txErrors = ((counts s.link).after (effect s.link event)).errors ∧
      (machine.apply s event).outcomes.countP (!succeeded ·) =
        (counts s.link).errors+(known (effect s.link event)).countP (!succeeded ·)) ∧
    (machine.apply s event).link.priv.stats.txBytes = ((counts s.link).after (effect s.link event)).bytes ∧
      ((machine.apply s event).outcomes.map transferred).sum =
        (counts s.link).bytes+((known (effect s.link event)).map transferred).sum := by
  have moved := apply_counts sound.wellformed event
  refine ⟨⟨congrArg Counts.errors moved,?_⟩,congrArg Counts.bytes moved,?_⟩
  · simp only [machine,List.countP_append,← sound.conserved.errors,counts]
  · simp only [machine,List.map_append,List.sum_append,← sound.conserved.bytes,counts]

theorem uncountable_words (s : System) (event : Event) (sound : Sound s) (uncountable : ¬ Countable s.link event) :
    unsignedLong (machine.apply s event).link.priv.stats.txErrors ≠
      unsignedLong ((machine.apply s event).outcomes.countP (!succeeded ·)) ∨
    unsignedLong (machine.apply s event).link.priv.stats.txBytes ≠
      unsignedLong ((machine.apply s event).outcomes.map transferred).sum := by
  obtain ⟨⟨missed,failures⟩,sent,lengths⟩ := apply_moved s event sound
  rw [missed,failures,sent,lengths]
  exact uncountable_after (counts s.link) event uncountable

theorem conserved_exact (s : System) (event : Event) (sound : Sound s) (allowed : machine.Allowed s event) :
    Countable s.link event ↔ Conserved (machine.apply s event) := by
  constructor
  · intro countable
    have counted := (packets_counted s event ⟨sound.wellformed,sound.conserved.packets⟩ allowed).2
    obtain ⟨⟨missed,failures⟩,sent,lengths⟩ := apply_moved s event sound
    obtain ⟨errors,bytes⟩ := countable_after (counts s.link) event countable
    exact ⟨counted,missed.trans (errors.trans failures.symm),sent.trans (bytes.trans lengths.symm)⟩
  · intro conserved
    by_contra uncountable
    rcases uncountable_words s event sound uncountable with errors | bytes
    · exact errors (congrArg unsignedLong conserved.errors)
    · exact bytes (congrArg unsignedLong conserved.bytes)

theorem apply_sound (s : System) (event : Event) (sound : Sound s) (allowed : machine.Allowed s event)
    (countable : Countable s.link event) : Sound (machine.apply s event) :=
  ⟨apply_wellformed s.link event sound.wellformed allowed,(conserved_exact s event sound allowed).mp countable⟩

end Runs

theorem packets_exact (events : List Event) (path : machine.Runs {} events) :
    machine.Throughout (fun s => s.link.priv.stats.txPackets = s.outcomes.countP succeeded) {} events :=
  (Machine.throughout_of_invariant packets_counted ⟨probed_wellformed,rfl⟩ path).imp fun _ counted => counted.2

theorem transmit_counted_iff (events : List Event) (path : machine.Runs {} events) :
    machine.Throughout Conserved {} events ↔ machine.Along (fun s event => Countable s.link event) {} events :=
  Machine.throughout_exact (fun _ sound => sound.conserved) conserved_exact apply_sound
    ⟨probed_wellformed,rfl,rfl,rfl⟩ path

def refusedFrame : List Event := [.opens {},.startXmit 1 100 true (-12)]

theorem transmit_counted_refused : machine.Throughout Conserved {} refusedFrame :=
  (transmit_counted_iff refusedFrame (by decide +kernel)).mpr ⟨trivial,trivial,trivial⟩

def sentFrame : List Event := [.opens {},.startXmit 1 100 true 0,.completes 2 0 100,.callback 2 {}]
def timedOut : List Event := [.opens {},.startXmit 1 100 true 0,.completes 2 (-62) 0,.callback 2 {}]

theorem sent_and_failed_miscounted :
    (machine.Runs {} sentFrame ∧ ¬ machine.Throughout Conserved {} sentFrame) ∧
    machine.Runs {} timedOut ∧ ¬ machine.Throughout Conserved {} timedOut := by
  refine ⟨⟨by decide +kernel,?_⟩,by decide +kernel,?_⟩
  · intro conserved
    exact absurd conserved.last.bytes (by decide +kernel)
  · intro conserved
    exact absurd conserved.last.errors (by decide +kernel)

end LinuxDeviceDrivers.Rtl8150Accounting
