import LinuxDeviceDrivers.Rtl8150

namespace LinuxDeviceDrivers.Rtl8150Close
open Transition Rtl8150

def closing : Phase → Bool
  | .down | .up => false
  | _ => true

-- Close has returned and the callbacks of all URBs then in flight have run.
def Drained (s : System) : Prop := s.phase = .closed ∧ s.awaited = []

structure Final (s : System) : Prop where
  stopped : Drained s → s.stopped = true
  idle : Drained s → ∀ urb,(s.urbs urb).state = .idle

-- The statuses each callback takes for a cancellation.
def cancellation : Pipe → Int → Bool
  | .interruptIn,status => status == econnreset || status == enoent || status == eshutdown
  | _,status => status == enoent

-- A callback that runs after close stopped the queue does not start it, and one
-- that runs after close returned does not get its URB submitted.
def Cancelled (s : System) : Event → Prop
  | .callback urb answer => ∀ status actualLength,(s.urbs urb).state = .done status actualLength →
      cancellation (s.urbs urb).pipe status = true ∨
        if (s.urbs urb).pipe = .bulkOut then closing s.phase = false else s.phase = .closed → answer.result < 0
  | _ => True

structure Closing (s : System) : Prop where
  wellformed : Wellformed s
  stopped : closing s.phase = true → s.stopped = true
  awaited : s.phase = .closed → ∀ urb,(s.urbs urb).state ≠ .idle → urb ∈ s.awaited

structure Aside (s t : System) : Prop where
  stopped : t.stopped = s.stopped
  phase : t.phase = s.phase
  awaited : t.awaited = s.awaited

section Frames
variable {s t : System}

theorem Aside.refl (s : System) : Aside s s := ⟨rfl,rfl,rfl⟩

theorem Aside.after (second : Aside t u) (first : Aside s t) : Aside s u :=
  ⟨second.stopped.trans first.stopped,second.phase.trans first.phase,second.awaited.trans first.awaited⟩

theorem usbSubmitUrb_aside (index : Nat) (result : Int) (s : System) : Aside s (usbSubmitUrb index result s).2 := by
  cases usbSubmitUrb_cases index result s with
  | inl unchanged =>
      rw [unchanged]
      exact Aside.refl s
  | inr submitted =>
      rw [submitted]
      exact ⟨rfl,rfl,rfl⟩

theorem usbUnlinkUrb_aside (urb : Option Nat) (s : System) : Aside s (usbUnlinkUrb urb s) := by
  unfold usbUnlinkUrb
  split
  · exact Aside.refl s
  · split
    · exact ⟨rfl,rfl,rfl⟩
    · exact Aside.refl s

theorem reschedule_aside (answer : CallbackAnswer) (s : System) : Aside s (reschedule answer s) := by
  unfold reschedule
  split
  · exact (usbSubmitUrb_aside _ _ _).after ⟨rfl,rfl,rfl⟩
  · exact ⟨rfl,rfl,rfl⟩

theorem readBulkCallback_aside (status : Int) (actualLength : Nat) (answer : CallbackAnswer) (s : System) :
    Aside s (readBulkCallback status actualLength answer s) := by
  unfold readBulkCallback
  split
  · exact (reschedule_aside answer (deliver actualLength s)).after ⟨rfl,rfl,rfl⟩
  · split
    · exact Aside.refl s
    · exact reschedule_aside answer s

theorem intrCallback_aside (urb : Nat) (status : Int) (answer : CallbackAnswer) (s : System) :
    Aside s (intrCallback urb status answer s) := by
  unfold intrCallback
  split
  · split
    · exact ⟨rfl,rfl,rfl⟩
    · exact (usbSubmitUrb_aside urb answer.result (reportLink answer s)).after ⟨rfl,rfl,rfl⟩
  · split
    · exact Aside.refl s
    · exact usbSubmitUrb_aside urb answer.result s

theorem usbSubmitUrb_negative (negative : result < 0) : (usbSubmitUrb index result s).2 = s := by
  apply usbSubmitUrb_refused
  simp only [usbSubmitUrb]
  split
  · exact negative
  · decide

theorem reschedule_refused (refused : answer.result < 0) (urb : Nat) :
    ((reschedule answer s).urbs urb).state = (s.urbs urb).state := by
  unfold reschedule
  split
  · rename_i rxUrb _ _
    rw [usbSubmitUrb_negative refused]
    by_cases same : urb = rxUrb
    · simp [fillUrb,setUrb,same]
    · simp [fillUrb,setUrb,same]
  · rfl

theorem readBulkCallback_refused (quiet : cancellation .bulkIn status = true ∨ answer.result < 0) (actualLength : Nat)
    (urb : Nat) : ((readBulkCallback status actualLength answer s).urbs urb).state = (s.urbs urb).state := by
  unfold readBulkCallback
  cases quiet with
  | inl cancelled =>
      obtain rfl : status = enoent := by simpa [cancellation] using cancelled
      rfl
  | inr refused =>
      split
      · exact reschedule_refused refused urb
      · split
        · rfl
        · exact reschedule_refused refused urb

theorem intrCallback_refused (quiet : cancellation .interruptIn status = true ∨ answer.result < 0) (index urb : Nat) :
    ((intrCallback index status answer s).urbs urb).state = (s.urbs urb).state := by
  unfold intrCallback
  cases quiet with
  | inl cancelled =>
      have known : status = econnreset ∨ status = enoent ∨ status = eshutdown := by
        simpa [cancellation,or_assoc] using cancelled
      have failed : ¬ status = 0 := by
        intro success
        simp [success,econnreset,enoent,eshutdown] at known
      rw [if_neg failed,if_pos known]
  | inr refused =>
      split
      · split
        · rfl
        · rw [usbSubmitUrb_negative refused]
          rfl
      · split
        · rfl
        · rw [usbSubmitUrb_negative refused]

end Frames

section Runs
variable {s : System}

theorem probed_closing : Closing {} := ⟨probed_wellformed,by simp [closing],by simp⟩

theorem closing_outside (wellformed : Wellformed s) (outside : closing s.phase = false) : Closing s :=
  ⟨wellformed,fun inside => by simp [outside] at inside,fun closed => by simp [closed,closing] at outside⟩

theorem rtl8150Open_phase (answer : OpenAnswer) (s : System) :
    closing (rtl8150Open answer s).phase = false ∨
      (rtl8150Open answer s) = {s with oopsed := true} := by
  unfold rtl8150Open
  split
  · left
    simp only []
    split
    · rfl
    · split <;> rfl
  · exact .inr rfl

theorem rtl8150StartXmit_phase (skb len : Nat) (allocated : Bool) (result : Int) (s : System) :
    (rtl8150StartXmit skb len allocated result s).phase = s.phase := by
  unfold rtl8150StartXmit
  cases allocated with
  | false => rfl
  | true =>
      let taken := takeSkb skb (some s.urbCount) {s with urbCount := s.urbCount+1}
      have submitted := usbSubmitUrb_aside s.urbCount result (fillUrb s.urbCount .bulkOut (some skb) len taken)
      simp only [if_true]
      split
      · exact submitted.phase
      · exact submitted.phase

theorem given_closing (closing : Closing s) (known : urb < s.urbCount) :
    Closing {setState urb .idle s with awaited := s.awaited.erase urb} := by
  have idle := setState_wellformed closing.wellformed known .idle
  refine ⟨⟨idle.fresh,idle.rx⟩,closing.stopped,?_⟩
  intro closed other busy
  by_cases same : other = urb
  · simp [setState,setUrb,same] at busy
  · have before : (s.urbs other).state ≠ .idle := by simpa [setState,setUrb,same] using busy
    exact (List.mem_erase_of_ne same).mpr (closing.awaited closed other before)

theorem Closing.aside (before : Closing s) (aside : Aside s t) (wellformed : Wellformed t)
    (kept : s.phase = .closed → ∀ urb,(t.urbs urb).state = (s.urbs urb).state) : Closing t := by
  refine ⟨wellformed,?_,?_⟩
  · rw [aside.phase,aside.stopped]
    exact before.stopped
  · rw [aside.phase,aside.awaited]
    intro closed urb busy
    exact before.awaited closed urb (kept closed urb ▸ busy)

theorem writeBulkCallback_phase (status : Int) (actualLength : Nat) (s : System) :
    (writeBulkCallback status actualLength s).phase = s.phase := by
  unfold writeBulkCallback
  split
  · rfl
  · split <;> rfl

theorem runCallback_closing (before : Closing s) (known : urb < s.urbCount)
    (quiet : cancellation (s.urbs urb).pipe status = true ∨
      if (s.urbs urb).pipe = .bulkOut then closing s.phase = false else s.phase = .closed → answer.result < 0)
    (wellformed : Wellformed (runCallback urb status actualLength answer s)) :
    Closing (runCallback urb status actualLength answer s) := by
  have given := given_closing before known
  unfold runCallback at wellformed ⊢
  cases pipe : (s.urbs urb).pipe with
  | bulkOut =>
      simp only [pipe,if_true] at quiet wellformed ⊢
      cases quiet with
      | inl cancelled =>
          obtain rfl : status = enoent := by simpa [cancellation] using cancelled
          exact given
      | inr outside =>
          apply closing_outside wellformed
          rw [writeBulkCallback_phase]
          exact outside
  | bulkIn =>
      simp only [pipe,reduceCtorEq,if_false] at quiet wellformed ⊢
      apply given.aside (readBulkCallback_aside _ _ _ _) wellformed
      intro closed
      exact readBulkCallback_refused (quiet.imp_right fun refuses => refuses closed) actualLength
  | interruptIn =>
      simp only [pipe,reduceCtorEq,if_false] at quiet wellformed ⊢
      apply given.aside (intrCallback_aside _ _ _ _) wellformed
      intro closed
      exact intrCallback_refused (quiet.imp_right fun refuses => refuses closed) urb

theorem rtl8150Close_closing (before : Closing s) : Closing (rtl8150Close s) := by
  have wellformed := rtl8150Close_wellformed before.wellformed
  have unlinked := fun urb => usbUnlinkUrb_aside urb s
  unfold rtl8150Close at wellformed ⊢
  cases phase : s.phase with
  | up => exact ⟨by simpa only [phase] using wellformed,fun _ => rfl,by simp⟩
  | down => simpa only [phase] using before
  | closed => simpa only [phase] using before
  | unlinkCtrl =>
      simp only [phase] at wellformed ⊢
      refine ⟨wellformed,fun _ => (unlinked _).stopped.trans (before.stopped (by rw [phase]; rfl)),?_⟩
      intro _ urb busy
      have numbered := wellformed.known busy
      exact List.mem_filter.mpr ⟨List.mem_range.mpr numbered,by simpa [inFlight] using busy⟩
  | _ =>
      simp only [phase] at wellformed ⊢
      exact ⟨wellformed,fun _ => (unlinked _).stopped.trans (before.stopped (by rw [phase]; rfl)),by simp⟩

theorem apply_closing (s : System) (event : Event) (before : Closing s)
    (step : machine.Allowed s event ∧ Cancelled s event) : Closing (machine.apply s event) := by
  obtain ⟨allowed,cancelled⟩ := step
  have wellformed := apply_wellformed s event before.wellformed allowed
  cases event with
  | opens answer =>
      cases rtl8150Open_phase answer s with
      | inl outside => exact closing_outside wellformed outside
      | inr oopsed =>
          simp only [machine,oopsed]
          exact ⟨⟨before.wellformed.fresh,before.wellformed.rx⟩,before.stopped,before.awaited⟩
  | startXmit skb len allocated result =>
      apply closing_outside wellformed
      have phase := rtl8150StartXmit_phase skb len allocated result s
      simp only [machine,phase,allowed.2.1]
      rfl
  | completes urb status actualLength =>
      refine ⟨wellformed,before.stopped,?_⟩
      intro closed other busy
      by_cases same : other = urb
      · exact before.awaited closed other (by rw [same,show (s.urbs urb).state = .active from allowed.2]; simp)
      · exact before.awaited closed other (by simpa [machine,setState,setUrb,same] using busy)
  | callback urb answer =>
      obtain ⟨status,actualLength,finished⟩ := isDone_iff.mp allowed.2
      have known := before.wellformed.known_done finished
      simp only [machine,callback,finished] at wellformed ⊢
      exact runCallback_closing before known (cancelled status actualLength finished) wellformed
  | closes => exact rtl8150Close_closing before

theorem Closing.final (before : Closing s) : Final s := by
  refine ⟨?_,?_⟩
  · intro drained
    exact before.stopped (by rw [drained.1]; rfl)
  · intro drained urb
    by_contra busy
    have member := before.awaited drained.1 urb busy
    simp [drained.2] at member

theorem close_final_when (events : List Event) (path : machine.Runs {} events)
    (cancelled : machine.Along Cancelled {} events) : machine.Throughout Final {} events :=
  (Machine.throughout_of_invariant apply_closing probed_closing (Machine.along_and.mpr ⟨path,cancelled⟩)).imp
    fun _ before => before.final

def cancelledSession : List Event :=
  [.opens {},.startXmit 1 100 true 0,.closes,.closes,.closes,.closes,.closes,.callback 0 {},.callback 2 {},
    .callback 1 {}]

theorem cancelled_session_reopens : machine.Runs {} cancelledSession ∧
    ¬ machine.Throughout Final {} cancelledSession := by
  refine ⟨by decide +kernel,?_⟩
  intro all
  have final := all.last
  exact absurd (final.stopped ⟨by decide +kernel,by decide +kernel⟩) (by decide +kernel)

def unpluggedSession : List Event :=
  [.opens {},.closes,.closes,.closes,.closes,.closes,.callback 0 {result := -19},.callback 1 {}]

theorem close_final_unplugged : machine.Throughout Final {} unpluggedSession := by
  apply close_final_when
  · decide +kernel
  · refine ⟨trivial,trivial,trivial,trivial,trivial,trivial,?_,?_,trivial⟩
    · intro status actualLength _
      right
      rw [if_neg (by decide +kernel)]
      intro _
      decide
    · intro status actualLength finished
      obtain ⟨rfl,_⟩ := UrbState.done.inj finished
      exact .inl (by decide +kernel)

end Runs

end LinuxDeviceDrivers.Rtl8150Close
