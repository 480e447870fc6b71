import LinuxDeviceDrivers.Rtl8150Close

namespace LinuxDeviceDrivers.Rtl8150Listening
open Transition Rtl8150 Rtl8150Close

-- An URB with the core, or given back with its completion still to run.
def Busy (s : System) (urb : Option Nat) : Prop := ∃ index,urb = some index ∧ (s.urbs index).state ≠ .idle

-- While the interface is up, a frame and a link report each find their URB.
structure Listening (s : System) : Prop where
  frames : s.phase = .up → Busy s s.priv.rxUrb
  reports : s.phase = .up → Busy s s.priv.intrUrb

-- The completions of rx_urb and of intr_urb that give it to the core again.
-- read_bulk_callback does so for an URB that was unlinked, intr_callback not.
def Resubmits (s : System) : Event → Prop
  | .callback urb answer => s.phase = .up → ∀ status actualLength,(s.urbs urb).state = .done status actualLength →
      (s.priv.rxUrb = some urb → cancellation .bulkIn status = false ∧ answer.rxSkb = true ∧ 0 ≤ answer.result) ∧
      (s.priv.intrUrb = some urb →
        cancellation .interruptIn status = false ∧ (status = 0 → (s.urbs urb).buffer ≠ none) ∧ 0 ≤ answer.result)
  | _ => True

structure Named (s : System) : Prop where
  wellformed : Wellformed s
  polls : ∀ urb,s.priv.intrUrb = some urb → urb < s.urbCount ∧ (s.urbs urb).pipe = .interruptIn

section Urbs
variable {s : System} {index other : Nat}

theorem setState_pipe (index other : Nat) (state : UrbState) (s : System) :
    ((setState index state s).urbs other).pipe = (s.urbs other).pipe := by
  by_cases same : other = index
  · simp [setState,setUrb,same]
  · simp [setState,setUrb,same]

theorem setState_other (different : other ≠ index) (state : UrbState) :
    (setState index state s).urbs other = s.urbs other := by simp [setState,setUrb,different]

theorem usbSubmitUrb_pipe (index other : Nat) (result : Int) (s : System) :
    ((usbSubmitUrb index result s).2.urbs other).pipe = (s.urbs other).pipe :=
  usbSubmitUrb_unseen (f:=fun s => (s.urbs other).pipe) (setState_pipe index other .active s) result

theorem usbUnlinkUrb_pipe (urb : Option Nat) (other : Nat) (s : System) :
    ((usbUnlinkUrb urb s).urbs other).pipe = (s.urbs other).pipe :=
  usbUnlinkUrb_unseen (f:=fun s => (s.urbs other).pipe) (fun index _ => setState_pipe index other _ s) urb

theorem usbSubmitUrb_busy (idle : (s.urbs index).state = .idle) (result : Int) :
    ((usbSubmitUrb index result s).2.urbs index).state ≠ .idle ↔ 0 ≤ result := by
  have code := usbSubmitUrb_result result idle
  by_cases refused : result < 0
  · rw [usbSubmitUrb_refused result (code.symm ▸ refused)]
    exact iff_of_false (fun busy => busy idle) (Int.not_le.mpr refused)
  · rw [(usbSubmitUrb_accepted result (code.symm ▸ refused)).2]
    exact iff_of_true (by simp [setState,setUrb]) (Int.not_lt.mp refused)

theorem usbSubmitUrb_kept (busy : (s.urbs other).state ≠ .idle) (result : Int) :
    (usbSubmitUrb index result s).2.urbs other = s.urbs other := by
  by_cases same : other = index
  · subst other
    rw [usbSubmitUrb_refused]
    simp [usbSubmitUrb,busy,ebusy]
  · exact usbSubmitUrb_other result same

theorem reschedule_kept (answer : CallbackAnswer) (busy : (s.urbs other).state ≠ .idle) :
    ((reschedule answer s).urbs other).state = (s.urbs other).state := by
  unfold reschedule
  split
  · rename_i rxUrb _ _
    have filled : ((fillUrb rxUrb .bulkIn (some s.rxSkbs) rtl8150Mtu
        {s with rxSkbs := s.rxSkbs+1,priv := {s.priv with rxSkb := some s.rxSkbs}}).urbs other).state = (s.urbs other).state := by
      by_cases same : other = rxUrb
      · simp [fillUrb,setUrb,same]
      · simp [fillUrb,setUrb,same]
    rw [usbSubmitUrb_kept (filled ▸ busy),filled]
  · rfl

theorem reschedule_busy (answer : CallbackAnswer) (rx : s.priv.rxUrb = some index) (idle : (s.urbs index).state = .idle) :
    ((reschedule answer s).urbs index).state ≠ .idle ↔ answer.rxSkb = true ∧ 0 ≤ answer.result := by
  unfold reschedule
  rw [rx]
  cases answer.rxSkb with
  | false => simp [idle]
  | true =>
      have filled : ((fillUrb index .bulkIn (some s.rxSkbs) rtl8150Mtu
          {s with rxSkbs := s.rxSkbs+1,priv := {s.priv with rxUrb := some index,rxSkb := some s.rxSkbs}}).urbs index).state =
            .idle := by simp [fillUrb,setUrb,idle]
      simpa [rx] using usbSubmitUrb_busy filled answer.result

theorem reschedule_pipe (answer : CallbackAnswer) (notRx : s.priv.rxUrb ≠ some other) :
    ((reschedule answer s).urbs other).pipe = (s.urbs other).pipe := by
  unfold reschedule
  split
  · rename_i rxUrb _ rx
    have different : other ≠ rxUrb := fun same => notRx (same ▸ rx)
    rw [usbSubmitUrb_pipe]
    simp [fillUrb,setUrb,different]
  · rfl

end Urbs

def names (s : System) : Option Nat × Option Nat × Nat := (s.priv.rxUrb,s.priv.intrUrb,s.urbCount)

theorem names_blind : Blind names := ⟨fun _ _ _ => rfl,fun _ _ _ _ _ => rfl⟩

section Callbacks
variable {s : System} {urb other : Nat} {status : Int} {answer : CallbackAnswer}

theorem names_reschedule (answer : CallbackAnswer) (s : System) : names (reschedule answer s) = names s := by
  unfold reschedule
  split
  · exact (names_blind.usbSubmitUrb _ _ _).trans rfl
  · rfl

theorem names_readBulkCallback (status : Int) (actualLength : Nat) (answer : CallbackAnswer) (s : System) :
    names (readBulkCallback status actualLength answer s) = names s := by
  unfold readBulkCallback
  split
  · exact names_reschedule answer (deliver actualLength s)
  · split
    · rfl
    · exact names_reschedule answer s

theorem names_intrCallback (urb : Nat) (status : Int) (answer : CallbackAnswer) (s : System) :
    names (intrCallback urb status answer s) = names s := by
  unfold intrCallback
  split
  · split
    · rfl
    · exact names_blind.usbSubmitUrb urb answer.result (reportLink answer s)
  · split
    · rfl
    · exact names_blind.usbSubmitUrb urb answer.result s

theorem names_writeBulkCallback (status : Int) (actualLength : Nat) (s : System) :
    names (writeBulkCallback status actualLength s) = names s := by
  unfold writeBulkCallback
  split
  · rfl
  · split <;> rfl

theorem writeBulkCallback_urbs (status : Int) (actualLength : Nat) (s : System) :
    (writeBulkCallback status actualLength s).urbs = s.urbs := by
  unfold writeBulkCallback
  split
  · rfl
  · split <;> rfl

theorem readBulkCallback_kept (actualLength : Nat) (busy : (s.urbs other).state ≠ .idle) :
    ((readBulkCallback status actualLength answer s).urbs other).state = (s.urbs other).state := by
  unfold readBulkCallback
  split
  · exact reschedule_kept (s:=deliver actualLength s) answer busy
  · split
    · rfl
    · exact reschedule_kept answer busy

theorem readBulkCallback_pipe (actualLength : Nat) (notRx : s.priv.rxUrb ≠ some other) :
    ((readBulkCallback status actualLength answer s).urbs other).pipe = (s.urbs other).pipe := by
  unfold readBulkCallback
  split
  · exact reschedule_pipe (s:=deliver actualLength s) answer notRx
  · split
    · rfl
    · exact reschedule_pipe answer notRx

theorem readBulkCallback_busy (actualLength : Nat) (rx : s.priv.rxUrb = some urb) (idle : (s.urbs urb).state = .idle) :
    ((readBulkCallback status actualLength answer s).urbs urb).state ≠ .idle ↔
      cancellation .bulkIn status = false ∧ answer.rxSkb = true ∧ 0 ≤ answer.result := by
  unfold readBulkCallback
  by_cases success : status = 0
  · rw [if_pos success,reschedule_busy (s:=deliver actualLength s) answer rx idle]
    simp [cancellation,success,enoent]
  · rw [if_neg success]
    by_cases unlinked : status = enoent
    · simp [cancellation,unlinked,idle]
    · rw [if_neg unlinked,reschedule_busy answer rx idle]
      simp [cancellation,unlinked]

theorem intrCallback_pipe (urb other : Nat) (status : Int) (answer : CallbackAnswer) (s : System) :
    ((intrCallback urb status answer s).urbs other).pipe = (s.urbs other).pipe := by
  unfold intrCallback
  split
  · split
    · rfl
    · exact usbSubmitUrb_pipe urb other answer.result (reportLink answer s)
  · split
    · rfl
    · exact usbSubmitUrb_pipe urb other answer.result s

theorem intrCallback_kept (different : other ≠ urb) :
    (intrCallback urb status answer s).urbs other = s.urbs other := by
  unfold intrCallback
  split
  · split
    · rfl
    · exact usbSubmitUrb_other (s:=reportLink answer s) answer.result different
  · split
    · rfl
    · exact usbSubmitUrb_other answer.result different

theorem intrCallback_busy (idle : (s.urbs urb).state = .idle) :
    ((intrCallback urb status answer s).urbs urb).state ≠ .idle ↔
      cancellation .interruptIn status = false ∧ (status = 0 → (s.urbs urb).buffer ≠ none) ∧ 0 ≤ answer.result := by
  unfold intrCallback
  by_cases success : status = 0
  · subst success
    by_cases missing : (s.urbs urb).buffer = none
    · simp [missing,idle]
    · rw [if_pos rfl,if_neg missing,usbSubmitUrb_busy (s:=reportLink answer s) idle]
      simp [cancellation,missing,econnreset,enoent,eshutdown]
  · rw [if_neg success]
    by_cases unlinked : status = econnreset ∨ status = enoent ∨ status = eshutdown
    · rw [if_pos unlinked]
      refine iff_of_false (fun busy => busy idle) fun resubmits => ?_
      have others := resubmits.1
      simp only [cancellation,Bool.or_eq_false_iff,beq_eq_false_iff_ne] at others
      exact unlinked.elim others.1.1 fun rest => rest.elim others.1.2 others.2
    · rw [if_neg unlinked,usbSubmitUrb_busy idle]
      obtain ⟨notReset,notEntry,notDown⟩ : status ≠ econnreset ∧ status ≠ enoent ∧ status ≠ eshutdown := by
        simpa [not_or] using unlinked
      simp [cancellation,success,notReset,notEntry,notDown]

def given (urb : Nat) (s : System) : System := {setState urb .idle s with awaited := s.awaited.erase urb}

theorem given_idle (urb : Nat) (s : System) : ((given urb s).urbs urb).state = .idle := by simp [given,setState,setUrb]

theorem given_buffer (urb : Nat) (s : System) : ((given urb s).urbs urb).buffer = (s.urbs urb).buffer := by
  simp [given,setState,setUrb]

theorem callback_done (finished : (s.urbs urb).state = .done status actualLength) :
    callback urb answer s = match (s.urbs urb).pipe with
      | .bulkIn => readBulkCallback status actualLength answer (given urb s)
      | .bulkOut => writeBulkCallback status actualLength (given urb s)
      | .interruptIn => intrCallback urb status answer (given urb s) := by
  rw [callback,finished]
  rfl

theorem callback_names (finished : (s.urbs urb).state = .done status actualLength) :
    names (callback urb answer s) = names s := by
  have before : names (given urb s) = names s := rfl
  rw [callback_done finished]
  cases (s.urbs urb).pipe with
  | bulkIn => exact (names_readBulkCallback _ _ _ _).trans before
  | bulkOut => exact (names_writeBulkCallback _ _ _).trans before
  | interruptIn => exact (names_intrCallback _ _ _ _).trans before

theorem callback_phase (finished : (s.urbs urb).state = .done status actualLength) :
    (callback urb answer s).phase = s.phase := by
  have before : (given urb s).phase = s.phase := rfl
  rw [callback_done finished]
  cases (s.urbs urb).pipe with
  | bulkIn => exact (readBulkCallback_aside _ _ _ _).phase.trans before
  | bulkOut => exact (writeBulkCallback_phase _ _ _).trans before
  | interruptIn => exact (intrCallback_aside _ _ _ _).phase.trans before

theorem callback_kept (finished : (s.urbs urb).state = .done status actualLength) (different : other ≠ urb)
    (busy : (s.urbs other).state ≠ .idle) : ((callback urb answer s).urbs other).state = (s.urbs other).state := by
  have before : (given urb s).urbs other = s.urbs other := setState_other different .idle
  rw [callback_done finished,← before]
  cases (s.urbs urb).pipe with
  | bulkIn => exact readBulkCallback_kept actualLength (before.symm ▸ busy)
  | bulkOut => exact congrArg (fun urbs => (urbs other).state) (writeBulkCallback_urbs status actualLength (given urb s))
  | interruptIn => exact congrArg Urb.state (intrCallback_kept different)

theorem callback_pipe (finished : (s.urbs urb).state = .done status actualLength) (notRx : s.priv.rxUrb ≠ some other) :
    ((callback urb answer s).urbs other).pipe = (s.urbs other).pipe := by
  have before : ((given urb s).urbs other).pipe = (s.urbs other).pipe := setState_pipe urb other .idle s
  rw [callback_done finished,← before]
  cases (s.urbs urb).pipe with
  | bulkIn => exact readBulkCallback_pipe actualLength notRx
  | bulkOut => exact congrArg (fun urbs => (urbs other).pipe) (writeBulkCallback_urbs status actualLength (given urb s))
  | interruptIn => exact intrCallback_pipe urb other status answer (given urb s)

theorem callback_rx (named : Named s) (rx : s.priv.rxUrb = some urb) (finished : (s.urbs urb).state = .done status actualLength) :
    ((callback urb answer s).urbs urb).state ≠ .idle ↔
      cancellation .bulkIn status = false ∧ answer.rxSkb = true ∧ 0 ≤ answer.result := by
  rw [callback_done finished,(named.wellformed.rx urb rx).2]
  exact readBulkCallback_busy (s:=given urb s) actualLength rx (given_idle urb s)

theorem callback_intr (named : Named s) (intr : s.priv.intrUrb = some urb)
    (finished : (s.urbs urb).state = .done status actualLength) :
    ((callback urb answer s).urbs urb).state ≠ .idle ↔
      cancellation .interruptIn status = false ∧ (status = 0 → (s.urbs urb).buffer ≠ none) ∧ 0 ≤ answer.result := by
  rw [callback_done finished,(named.polls urb intr).2,← given_buffer urb s]
  exact intrCallback_busy (given_idle urb s)

end Callbacks

section Runs
variable {s t : System}

theorem Named.distinct (named : Named s) {rx intr : Nat} (frames : s.priv.rxUrb = some rx) (reports : s.priv.intrUrb = some intr) :
    rx ≠ intr := by
  rintro rfl
  have bulk := (named.wellformed.rx rx frames).2
  rw [(named.polls rx reports).2] at bulk
  cases bulk

theorem Named.step (named : Named s) (wellformed : Wellformed t) (intr : t.priv.intrUrb = s.priv.intrUrb)
    (known : s.urbCount ≤ t.urbCount)
    (pipe : ∀ urb,urb < s.urbCount → s.priv.rxUrb ≠ some urb → (t.urbs urb).pipe = (s.urbs urb).pipe) : Named t := by
  refine ⟨wellformed,?_⟩
  intro urb reports
  rw [intr] at reports
  obtain ⟨numbered,polled⟩ := named.polls urb reports
  have notRx : s.priv.rxUrb ≠ some urb := fun frames => named.distinct frames reports rfl
  exact ⟨Nat.lt_of_lt_of_le numbered known,(pipe urb numbered notRx).trans polled⟩

theorem probed_named : Named {} := ⟨probed_wellformed,by simp⟩

theorem startXmit_urbs (skb len : Nat) (allocated : Bool) (result : Int) {urb : Nat} (known : urb < s.urbCount) :
    (rtl8150StartXmit skb len allocated result s).urbs urb = s.urbs urb := by
  have different : urb ≠ s.urbCount := Nat.ne_of_lt known
  cases allocated with
  | false => rfl
  | true =>
      let filled := fillUrb s.urbCount .bulkOut (some skb) len (takeSkb skb (some s.urbCount) {s with urbCount := s.urbCount+1})
      have sent : (usbSubmitUrb s.urbCount result filled).2.urbs urb = filled.urbs urb := usbSubmitUrb_other result different
      have unsent : filled.urbs urb = s.urbs urb := by simp [filled,fillUrb,setUrb,takeSkb,different]
      simp only [rtl8150StartXmit,if_true]
      split
      · exact sent.trans unsent
      · exact sent.trans unsent

theorem startXmit_names (skb len : Nat) (allocated : Bool) (result : Int) (s : System) :
    (rtl8150StartXmit skb len allocated result s).priv.rxUrb = s.priv.rxUrb ∧
      (rtl8150StartXmit skb len allocated result s).priv.intrUrb = s.priv.intrUrb ∧
      s.urbCount ≤ (rtl8150StartXmit skb len allocated result s).urbCount := by
  cases allocated with
  | false => exact ⟨rfl,rfl,Nat.le_refl _⟩
  | true =>
      let filled := fillUrb s.urbCount .bulkOut (some skb) len (takeSkb skb (some s.urbCount) {s with urbCount := s.urbCount+1})
      have sent := names_blind.usbSubmitUrb s.urbCount result filled
      simp only [names,Prod.mk.injEq] at sent
      obtain ⟨rx,intr,count⟩ := sent
      have grown : s.urbCount ≤ (usbSubmitUrb s.urbCount result filled).2.urbCount := by
        rw [count]
        exact Nat.le_succ _
      simp only [rtl8150StartXmit,if_true]
      split
      · exact ⟨rx,intr,grown⟩
      · exact ⟨rx,intr,grown⟩

theorem open_named (named : Named s) (answer : OpenAnswer) : Named (rtl8150Open answer s) := by
  have wellformed := rtl8150Open_wellformed named.wellformed answer
  by_cases granted : (answer.rxUrb && answer.intrUrb && answer.rxSkb) = true
  · have opened := names_blind.rtl8150Open granted s
    have pipe : ((rtl8150Open answer s).urbs (s.urbCount+1)).pipe = .interruptIn := by
      have prepared : ((prepare answer s).urbs (s.urbCount+1)).pipe = .interruptIn := by simp [prepare,fillUrb,setUrb]
      simp only [rtl8150Open,if_pos granted]
      split
      · exact (usbSubmitUrb_pipe _ _ _ _).trans prepared
      · split
        · exact (usbSubmitUrb_pipe _ _ _ _).trans ((usbSubmitUrb_pipe _ _ _ _).trans prepared)
        · exact (usbSubmitUrb_pipe _ _ _ _).trans ((usbSubmitUrb_pipe _ _ _ _).trans prepared)
    simp only [names,Prod.mk.injEq] at opened
    obtain ⟨_,intr,count⟩ := opened
    refine ⟨wellformed,?_⟩
    intro urb reports
    obtain rfl : s.urbCount+1 = urb := Option.some.inj (intr.symm.trans reports)
    refine ⟨?_,pipe⟩
    rw [count]
    exact Nat.lt_succ_self _
  · rw [rtl8150Open,if_neg granted] at wellformed ⊢
    exact ⟨wellformed,named.polls⟩

theorem open_listening (named : Named s) (answer : OpenAnswer) (off : s.phase ≠ .up) : Listening (rtl8150Open answer s) := by
  by_cases granted : (answer.rxUrb && answer.intrUrb && answer.rxSkb) = true
  · have opened := names_blind.rtl8150Open granted s
    obtain ⟨idleRx,idleIntr⟩ := prepare_idle named.wellformed answer
    simp only [names,Prod.mk.injEq] at opened
    obtain ⟨rx,intr,_⟩ := opened
    have both : (rtl8150Open answer s).phase = .up → ((rtl8150Open answer s).urbs s.urbCount).state ≠ .idle ∧
        ((rtl8150Open answer s).urbs (s.urbCount+1)).state ≠ .idle := by
      simp only [rtl8150Open,if_pos granted]
      split
      · intro up
        cases up
      · split
        · intro up
          cases up
        · rename_i received polled
          have frames : ((usbSubmitUrb s.urbCount answer.rxResult (prepare answer s)).2.urbs s.urbCount).state ≠ .idle := by
            rw [(usbSubmitUrb_accepted _ received).2]
            simp [setState,setUrb]
          intro _
          constructor
          · exact (usbSubmitUrb_kept frames answer.intrResult).symm ▸ frames
          · rw [(usbSubmitUrb_accepted _ polled).2]
            simp [setState,setUrb]
    exact ⟨fun up => ⟨s.urbCount,rx,(both up).1⟩,fun up => ⟨s.urbCount+1,intr,(both up).2⟩⟩
  · rw [rtl8150Open,if_neg granted]
    exact ⟨fun up => absurd up off,fun up => absurd up off⟩

theorem close_pipe (s : System) (urb : Nat) : ((rtl8150Close s).urbs urb).pipe = (s.urbs urb).pipe := by
  unfold rtl8150Close
  cases s.phase with
  | unlinkRx | unlinkTx | unlinkIntr | unlinkCtrl => exact usbUnlinkUrb_pipe _ _ _
  | up | down | closed => rfl

theorem close_phase (s : System) : (rtl8150Close s).phase ≠ .up := by
  unfold rtl8150Close
  cases phase : s.phase with
  | down | closed => simp [phase]
  | _ => simp

theorem apply_named (s : System) (event : Event) (named : Named s) (allowed : machine.Allowed s event) :
    Named (machine.apply s event) := by
  have wellformed := apply_wellformed s event named.wellformed allowed
  cases event with
  | opens answer => exact open_named named answer
  | startXmit skb len allocated result =>
      obtain ⟨_,intr,count⟩ := startXmit_names skb len allocated result s
      exact named.step wellformed intr count fun urb known _ => congrArg Urb.pipe (startXmit_urbs skb len allocated result known)
  | completes urb status actualLength =>
      exact named.step wellformed rfl (Nat.le_refl _) fun other _ _ => setState_pipe urb other _ s
  | callback urb answer =>
      obtain ⟨status,actualLength,finished⟩ := isDone_iff.mp allowed.2
      have kept : names (callback urb answer s) = names s := callback_names finished
      simp only [names,Prod.mk.injEq] at kept
      exact named.step wellformed kept.2.1 (Nat.le_of_eq kept.2.2.symm) fun other _ notRx => callback_pipe finished notRx
  | closes =>
      have kept := names_blind.rtl8150Close s
      simp only [names,Prod.mk.injEq] at kept
      exact named.step wellformed kept.2.1 (Nat.le_of_eq kept.2.2.symm) fun other _ _ => close_pipe s other

theorem busy_some {index : Nat} : Busy s (some index) ↔ (s.urbs index).state ≠ .idle := by simp [Busy]

theorem Listening.step (listening : Listening s) (up : s.phase = .up) (rx : t.priv.rxUrb = s.priv.rxUrb)
    (intr : t.priv.intrUrb = s.priv.intrUrb)
    (busy : ∀ urb,s.priv.rxUrb = some urb ∨ s.priv.intrUrb = some urb → (s.urbs urb).state ≠ .idle → (t.urbs urb).state ≠ .idle) :
    Listening t := by
  obtain ⟨frames,framesName,framesBusy⟩ := listening.frames up
  obtain ⟨reports,reportsName,reportsBusy⟩ := listening.reports up
  exact ⟨fun _ => ⟨frames,rx.trans framesName,busy frames (.inl framesName) framesBusy⟩,
    fun _ => ⟨reports,intr.trans reportsName,busy reports (.inr reportsName) reportsBusy⟩⟩

theorem resubmits_done {urb : Nat} {answer : CallbackAnswer} (up : s.phase = .up)
    (finished : (s.urbs urb).state = .done status actualLength) :
    Resubmits s (.callback urb answer) ↔
      (s.priv.rxUrb = some urb → cancellation .bulkIn status = false ∧ answer.rxSkb = true ∧ 0 ≤ answer.result) ∧
      (s.priv.intrUrb = some urb →
        cancellation .interruptIn status = false ∧ (status = 0 → (s.urbs urb).buffer ≠ none) ∧ 0 ≤ answer.result) := by
  constructor
  · intro resubmits
    exact resubmits up status actualLength finished
  · intro both _ otherStatus otherLength again
    obtain ⟨rfl,rfl⟩ := UrbState.done.inj (finished.symm.trans again)
    exact both

theorem callback_exactly {urb : Nat} {answer : CallbackAnswer} (named : Named s) (listening : Listening s)
    (finished : (s.urbs urb).state = .done status actualLength) :
    Resubmits s (.callback urb answer) ↔ Listening (callback urb answer s) := by
  have phase : (callback urb answer s).phase = s.phase := callback_phase finished
  by_cases up : s.phase = .up
  · obtain ⟨frames,framesName,framesBusy⟩ := listening.frames up
    obtain ⟨reports,reportsName,reportsBusy⟩ := listening.reports up
    have distinct := named.distinct framesName reportsName
    have kept : names (callback urb answer s) = names s := callback_names finished
    simp only [names,Prod.mk.injEq] at kept
    obtain ⟨rx,intr,_⟩ := kept
    have both : Listening (callback urb answer s) ↔ ((callback urb answer s).urbs frames).state ≠ .idle ∧
        ((callback urb answer s).urbs reports).state ≠ .idle := by
      constructor
      · intro after
        have first := after.frames (phase.trans up)
        have second := after.reports (phase.trans up)
        rw [rx,framesName,busy_some] at first
        rw [intr,reportsName,busy_some] at second
        exact ⟨first,second⟩
      · rintro ⟨first,second⟩
        exact ⟨fun _ => ⟨frames,rx.trans framesName,first⟩,fun _ => ⟨reports,intr.trans reportsName,second⟩⟩
    have others : ∀ other,other ≠ urb → (s.urbs other).state ≠ .idle → ((callback urb answer s).urbs other).state ≠ .idle :=
      fun other different busy => (callback_kept finished different busy).symm ▸ busy
    rw [resubmits_done up finished,both]
    by_cases own : urb = frames
    · subst own
      have polled := others reports distinct.symm reportsBusy
      have foreign : s.priv.intrUrb ≠ some urb := fun same => named.distinct framesName same rfl
      rw [and_iff_left polled,callback_rx named framesName finished]
      exact ⟨fun step => step.1 framesName,fun again => ⟨fun _ => again,fun same => absurd same foreign⟩⟩
    · have carried := others frames (Ne.symm own) framesBusy
      have foreign : s.priv.rxUrb ≠ some urb := fun same => own (Option.some.inj (same.symm.trans framesName))
      by_cases polls : urb = reports
      · subst polls
        rw [and_iff_right carried,callback_intr named reportsName finished]
        exact ⟨fun step => step.2 reportsName,fun again => ⟨fun same => absurd same foreign,fun _ => again⟩⟩
      · have polled := others reports (Ne.symm polls) reportsBusy
        have stranger : s.priv.intrUrb ≠ some urb := fun same => polls (Option.some.inj (same.symm.trans reportsName))
        exact iff_of_true ⟨fun same => absurd same foreign,fun same => absurd same stranger⟩ ⟨carried,polled⟩
  · refine iff_of_true (fun now => absurd now up) ⟨?_,?_⟩
    · intro now
      exact absurd (phase.symm.trans now) up
    · intro now
      exact absurd (phase.symm.trans now) up

theorem apply_exactly (s : System) (event : Event) (before : Named s ∧ Listening s) (allowed : machine.Allowed s event) :
    Resubmits s event ↔ Listening (machine.apply s event) := by
  obtain ⟨named,listening⟩ := before
  cases event with
  | opens answer =>
      have off : s.phase ≠ .up := by
        rcases allowed.2 with down | closed
        · simp [down]
        · simp [closed]
      exact iff_of_true trivial (open_listening named answer off)
  | startXmit skb len allocated result =>
      obtain ⟨rx,intr,_⟩ := startXmit_names skb len allocated result s
      refine iff_of_true trivial (listening.step allowed.2.1 rx intr ?_)
      intro urb known busy
      exact (startXmit_urbs skb len allocated result (named.wellformed.known busy)).symm ▸ busy
  | completes urb status actualLength =>
      refine iff_of_true trivial ?_
      have busy : ∀ other,(s.urbs other).state ≠ .idle → ((setState urb (.done status actualLength) s).urbs other).state ≠ .idle := by
        intro other before
        by_cases same : other = urb
        · simp [setState,setUrb,same]
        · exact (setState_other same _).symm ▸ before
      exact ⟨fun up => (listening.frames up).imp fun other found => ⟨found.1,busy other found.2⟩,
        fun up => (listening.reports up).imp fun other found => ⟨found.1,busy other found.2⟩⟩
  | callback urb answer =>
      obtain ⟨status,actualLength,finished⟩ := isDone_iff.mp allowed.2
      exact callback_exactly named listening finished
  | closes => exact iff_of_true trivial ⟨fun up => absurd up (close_phase s),fun up => absurd up (close_phase s)⟩

theorem listening_iff (events : List Event) (path : machine.Runs {} events) :
    machine.Throughout Listening {} events ↔ machine.Along Resubmits {} events := by
  have preserved : ∀ s event,Named s ∧ Listening s → machine.Allowed s event → Resubmits s event →
      Named (machine.apply s event) ∧ Listening (machine.apply s event) :=
    fun s event before allowed resubmits =>
      ⟨apply_named s event before.1 allowed,(apply_exactly s event before allowed).mp resubmits⟩
  exact Machine.throughout_exact (fun _ both => both.2) apply_exactly preserved
    ⟨probed_named,⟨nofun,nofun⟩⟩ path

def reopened : List Event :=
  [.opens {},.completes 0 0 64,.completes 1 0 8,.closes,.closes,.closes,.closes,.closes,.opens {},
    .callback 0 {},.callback 1 {},.completes 3 eshutdown 0]

theorem listening_iff_reopened :
    machine.Throughout Listening {} reopened ∧ ¬ machine.Throughout Listening {} (reopened ++ [.callback 3 {}]) := by
  constructor
  · have other : ∀ urb < 2,(machine.run {} (reopened.take (9+urb))).priv.rxUrb ≠ some urb ∧
        (machine.run {} (reopened.take (9+urb))).priv.intrUrb ≠ some urb := by decide +kernel
    have old : ∀ urb < 2,Resubmits (machine.run {} (reopened.take (9+urb))) (.callback urb {}) := fun urb before _ _ _ _ =>
      ⟨fun named => absurd named (other urb before).1,fun named => absurd named (other urb before).2⟩
    exact (listening_iff reopened (by decide +kernel)).mpr
      ⟨trivial,trivial,trivial,trivial,trivial,trivial,trivial,trivial,trivial,old 0 (by decide),old 1 (by decide),trivial,trivial⟩
  · intro listening
    have along := (listening_iff (reopened ++ [.callback 3 {}]) (by decide +kernel)).mp listening
    have resubmits := (Machine.along_append.mp along).2.1
    obtain ⟨_,reports⟩ := resubmits (by decide +kernel) eshutdown 0 (by decide +kernel)
    exact absurd (reports (by decide +kernel)).1 (by decide)

end Runs

end LinuxDeviceDrivers.Rtl8150Listening
