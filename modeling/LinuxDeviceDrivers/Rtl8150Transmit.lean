import LinuxDeviceDrivers.Rtl8150

namespace LinuxDeviceDrivers.Rtl8150Transmit
open Transition Rtl8150

-- The transmit side alone: which frame each bulk OUT URB in flight carries, the
-- fields through which the driver finds it, and what became of every frame.
structure Transmit where
  outgoing : Nat → Option (Option Nat)
  txUrb : Option Nat
  txSkb : Option Nat
  handed : List Nat
  freed : List Nat
  stopped : Bool
  up : Bool

inductive Action where
  | aside
  | opens (succeeds : Bool)
  | submits (urb skb : Nat)
  | refuses (urb : Option Nat) (skb : Nat)
  | finishes (urb : Nat) (status : Int)
  | closes

def Transmit.after (t : Transmit) : Action → Transmit
  | .aside => t
  | .opens succeeds => {t with stopped := t.stopped && !succeeds,up := succeeds}
  | .submits urb skb => {t with
      outgoing := Function.update t.outgoing urb (some (some skb))
      txUrb := some urb
      txSkb := some skb
      handed := t.handed ++ [skb]
      stopped := true}
  | .refuses urb skb => {t with
      txUrb := urb
      txSkb := some skb
      handed := t.handed ++ [skb]
      stopped := urb.isNone}
  | .finishes urb status => {t with
      outgoing := Function.update t.outgoing urb none
      freed := t.freed ++ if status = 0 then t.txSkb.toList else []
      stopped := t.stopped && decide (status = enoent)}
  | .closes => {t with stopped := t.stopped || t.up,up := false}

-- The stack transmits only while the interface is up and its queue runs, and
-- only an URB in flight completes; a fresh URB carries nothing.
def Transmit.machine : Machine Transmit Action where
  Allowed t action := match action with
    | .aside => True
    | .opens _ => t.up = false
    | .submits urb skb => t.up = true ∧ t.stopped = false ∧ skb ∉ t.handed ∧ t.outgoing urb = none
    | .refuses urb skb => t.up = true ∧ t.stopped = false ∧ skb ∉ t.handed ∧ ∀ fresh ∈ urb,t.outgoing fresh = none
    | .finishes urb _ => t.outgoing urb ≠ none
    | .closes => True
  apply := Transmit.after

def carried (urb : Urb) : Option (Option Nat) :=
  if urb.pipe = .bulkOut ∧ urb.state ≠ .idle then some urb.buffer else none

def transmit (s : System) : Transmit where
  outgoing urb := carried (s.urbs urb)
  txUrb := s.priv.txUrb
  txSkb := s.priv.txSkb
  handed := s.handed
  freed := s.freed
  stopped := s.stopped
  up := decide (s.phase = .up)

def openSucceeds (answer : OpenAnswer) : Bool :=
  answer.rxUrb && answer.intrUrb && answer.rxSkb && !decide (answer.rxResult < 0) && !decide (answer.intrResult < 0)

def action (s : System) : Event → Action
  | .opens answer => .opens (openSucceeds answer)
  | .startXmit skb _ allocated result =>
      if allocated = false then .refuses none skb
      else if result < 0 then .refuses (some s.urbCount) skb
      else .submits s.urbCount skb
  | .callback urb _ => match (s.urbs urb).pipe,(s.urbs urb).state with
      | .bulkOut,.done status _ => .finishes urb status
      | _,_ => .aside
  | .completes _ _ _ => .aside
  | .closes => .closes

section Refinement
variable {s : System} {index : Nat} {urb : Urb}

theorem transmit_setUrb (index : Nat) (urb : Urb) (s : System) :
    transmit (setUrb index urb s) =
      {transmit s with outgoing := Function.update (transmit s).outgoing index (carried urb)} := by
  have outgoing := Function.comp_update carried s.urbs index urb
  exact congrArg (fun outgoing => {transmit s with outgoing := outgoing}) outgoing

theorem transmit_unchanged (same : carried urb = carried (s.urbs index)) :
    transmit (setUrb index urb s) = transmit s := by
  rw [transmit_setUrb,same]
  exact congrArg (fun outgoing => {transmit s with outgoing := outgoing}) (Function.update_eq_self index _)

theorem carried_other (other : urb.pipe ≠ .bulkOut) : carried urb = none := by simp [carried,other]
theorem carried_idle (idle : urb.state = .idle) : carried urb = none := by simp [carried,idle]

theorem transmit_setState (state : UrbState) (other : (s.urbs index).pipe ≠ .bulkOut) :
    transmit (setState index state s) = transmit s :=
  transmit_unchanged (by simp [carried,other])

theorem transmit_giveBack (status : Int) (actualLength : Nat) (active : (s.urbs index).state = .active) :
    transmit (setState index (.done status actualLength) s) = transmit s :=
  transmit_unchanged (by simp [carried,active])

theorem transmit_usbSubmitUrb (result : Int) (other : (s.urbs index).pipe ≠ .bulkOut) :
    transmit (usbSubmitUrb index result s).2 = transmit s := usbSubmitUrb_unseen (transmit_setState .active other) result

theorem transmit_usbUnlinkUrb (urb : Option Nat) (s : System) : transmit (usbUnlinkUrb urb s) = transmit s :=
  usbUnlinkUrb_unseen (fun _ active => transmit_giveBack econnreset 0 active) urb

theorem transmit_prepare (wellformed : Wellformed s) (answer : OpenAnswer) :
    transmit (prepare answer s) = transmit s := by
  have rxIdle := wellformed.fresh s.urbCount (Nat.le_refl _)
  have intrIdle := wellformed.fresh (s.urbCount+1) (Nat.le_succ _)
  simp only [prepare,fillUrb]
  rw [transmit_unchanged,transmit_unchanged]
  · rfl
  · simp [carried,rxIdle]
  · simp [carried,setUrb,intrIdle]

theorem transmit_reschedule (wellformed : Wellformed s) (answer : CallbackAnswer) :
    transmit (reschedule answer s) = transmit s := by
  unfold reschedule
  split
  · rename_i rxUrb _ rx
    have pipe := (wellformed.rx rxUrb rx).2
    rw [transmit_usbSubmitUrb _ (by simp [fillUrb,setUrb]),fillUrb,transmit_unchanged]
    · rfl
    · rw [carried_other (by simp),carried_other (by simp [pipe])]
  · rfl

theorem transmit_readBulkCallback (wellformed : Wellformed s) (status : Int) (actualLength : Nat)
    (answer : CallbackAnswer) : transmit (readBulkCallback status actualLength answer s) = transmit s := by
  unfold readBulkCallback
  split
  · exact transmit_reschedule (s:=deliver actualLength s) ⟨wellformed.fresh,wellformed.rx⟩ answer
  · split
    · rfl
    · exact transmit_reschedule wellformed answer

theorem transmit_intrCallback (pipe : (s.urbs index).pipe ≠ .bulkOut) (status : Int) (answer : CallbackAnswer) :
    transmit (intrCallback index status answer s) = transmit s := by
  unfold intrCallback
  split
  · split
    · rfl
    · exact transmit_usbSubmitUrb (s:=reportLink answer s) answer.result pipe
  · split
    · rfl
    · exact transmit_usbSubmitUrb answer.result pipe

theorem transmit_rtl8150Open (wellformed : Wellformed s) (answer : OpenAnswer)
    (down : s.phase = .down ∨ s.phase = .closed) :
    transmit (rtl8150Open answer s) = (transmit s).after (.opens (openSucceeds answer)) := by
  obtain ⟨rxIdle,intrIdle⟩ := prepare_idle wellformed answer
  have received : transmit (usbSubmitUrb s.urbCount answer.rxResult (prepare answer s)).2 = transmit s := by
    rw [transmit_usbSubmitUrb _ (by simp [prepare,fillUrb,setUrb]),transmit_prepare wellformed]
  have polled : transmit (usbSubmitUrb (s.urbCount+1) answer.intrResult
      (usbSubmitUrb s.urbCount answer.rxResult (prepare answer s)).2).2 = transmit s := by
    rw [transmit_usbSubmitUrb _ ?_,received]
    rw [usbSubmitUrb_other _ (Nat.succ_ne_self _)]
    simp [prepare,fillUrb,setUrb]
  unfold rtl8150Open
  have apart : s.urbCount+1 ≠ s.urbCount := Nat.succ_ne_self _
  rw [← usbSubmitUrb_other answer.rxResult apart] at intrIdle
  simp only [usbSubmitUrb_result _ rxIdle,usbSubmitUrb_result _ intrIdle]
  by_cases allocated : (answer.rxUrb && answer.intrUrb && answer.rxSkb) = true
  · rw [if_pos allocated]
    split
    · rename_i refused
      have failed : openSucceeds answer = false := by simp [openSucceeds,refused]
      rw [failed,← received]
      simp [transmit,Transmit.after]
    · rename_i accepted
      split
      · rename_i refused
        have failed : openSucceeds answer = false := by simp [openSucceeds,refused]
        rw [failed,← polled]
        simp [transmit,Transmit.after]
      · rename_i scheduled
        have succeeded : openSucceeds answer = true := by simp [openSucceeds,allocated,accepted,scheduled]
        rw [succeeded,← polled]
        simp [transmit,Transmit.after]
  · have failed : openSucceeds answer = false := by simp [openSucceeds,eq_false_of_ne_true allocated]
    rw [if_neg allocated,failed]
    cases down with
    | inl before => simp [transmit,Transmit.after,before]
    | inr before => simp [transmit,Transmit.after,before]

theorem transmit_startXmit (wellformed : Wellformed s) (skb len : Nat) (allocated : Bool) (result : Int) :
    transmit (rtl8150StartXmit skb len allocated result s) =
      (transmit s).after (action s (.startXmit skb len allocated result)) := by
  have fresh := wellformed.fresh s.urbCount (Nat.le_refl _)
  cases allocated with
  | false => rfl
  | true =>
      let taken := takeSkb skb (some s.urbCount) {s with urbCount := s.urbCount+1}
      let filled := fillUrb s.urbCount .bulkOut (some skb) len taken
      have idle : (filled.urbs s.urbCount).state = .idle := by simp [filled,taken,fillUrb,setUrb,takeSkb,fresh]
      have unsent : transmit filled = transmit taken := transmit_unchanged (by simp [carried,taken,takeSkb,fresh])
      have code := usbSubmitUrb_result result idle
      simp only [rtl8150StartXmit,if_true,action,Bool.true_eq_false,if_false]
      by_cases refused : result < 0
      · have kept := usbSubmitUrb_refused result (code.symm ▸ refused)
        rw [code,if_pos refused,if_pos refused,kept]
        have fields : transmit (startQueue (countTxError filled)) = {transmit filled with stopped := false} := rfl
        rw [fields,unsent]
        rfl
      · have sent := (usbSubmitUrb_accepted result (code.symm ▸ refused)).2
        rw [code,if_neg refused,if_neg refused,sent,setState,transmit_setUrb,unsent]
        simp [filled,taken,fillUrb,setUrb,takeSkb,carried,transmit,Transmit.after]

theorem transmit_writeBulkCallback (status : Int) (actualLength : Nat) (s : System) :
    transmit (writeBulkCallback status actualLength s) = {transmit s with
      freed := s.freed ++ if status = 0 then s.priv.txSkb.toList else []
      stopped := s.stopped && decide (status = enoent)} := by
  unfold writeBulkCallback
  by_cases success : status = 0
  · subst success
    simp [transmit,startQueue,enoent]
  · by_cases unlinked : status = enoent
    · subst unlinked
      simp [transmit,enoent]
    · rw [if_neg success,if_neg success,if_neg unlinked,List.append_nil]
      simp only [unlinked,decide_false,Bool.and_false]
      rfl

theorem transmit_callback (wellformed : Wellformed s) (urb : Nat) (answer : CallbackAnswer) :
    transmit (callback urb answer s) = (transmit s).after (action s (.callback urb answer)) := by
  unfold callback
  cases finished : (s.urbs urb).state with
  | idle => cases pipe : (s.urbs urb).pipe <;> simp [action,finished,pipe,Transmit.after]
  | active => cases pipe : (s.urbs urb).pipe <;> simp [action,finished,pipe,Transmit.after]
  | done status actualLength =>
      have known := wellformed.known_done finished
      have idle := setState_wellformed wellformed known .idle
      have given : Wellformed {setState urb .idle s with awaited := s.awaited.erase urb} := ⟨idle.fresh,idle.rx⟩
      cases pipe : (s.urbs urb).pipe with
      | bulkIn =>
          simp only [runCallback,action,pipe,transmit_readBulkCallback given]
          exact transmit_setState .idle (by simp [pipe])
      | interruptIn =>
          simp only [runCallback,action,pipe]
          rw [transmit_intrCallback (by simp [setState,setUrb,pipe])]
          exact transmit_setState .idle (by simp [pipe])
      | bulkOut =>
          have empty : carried {s.urbs urb with state := .idle} = none := carried_idle rfl
          have returned := transmit_setUrb urb {s.urbs urb with state := .idle} s
          rw [empty] at returned
          simp only [runCallback,action,pipe,finished,transmit_writeBulkCallback]
          have view : transmit {setState urb .idle s with awaited := s.awaited.erase urb} =
              {transmit s with outgoing := Function.update (transmit s).outgoing urb none} := returned
          rw [view]
          rfl

theorem transmit_close (s : System) : transmit (rtl8150Close s) = (transmit s).after .closes := by
  have passed : ∀ urb phase,s.phase ≠ .up → phase ≠ .up →
      transmit {usbUnlinkUrb urb s with phase := phase} = (transmit s).after .closes := by
    intro urb phase before later
    have fields : transmit {usbUnlinkUrb urb s with phase := phase} =
        {transmit (usbUnlinkUrb urb s) with up := decide (phase = .up)} := rfl
    rw [fields,transmit_usbUnlinkUrb]
    simp [transmit,Transmit.after,before,later]
  unfold rtl8150Close
  cases phase : s.phase with
  | up => simp [transmit,Transmit.after,phase]
  | down => simp [transmit,Transmit.after,phase]
  | closed => simp [transmit,Transmit.after,phase]
  | unlinkRx => exact passed _ .unlinkTx (by simp [phase]) (by simp)
  | unlinkTx => exact passed _ .unlinkIntr (by simp [phase]) (by simp)
  | unlinkIntr => exact passed _ .unlinkCtrl (by simp [phase]) (by simp)
  | unlinkCtrl => exact passed _ .closed (by simp [phase]) (by simp)

theorem apply_transmit (wellformed : Wellformed s) (event : Event) (allowed : machine.Allowed s event) :
    transmit (machine.apply s event) = (transmit s).after (action s event) := by
  cases event with
  | opens answer => exact transmit_rtl8150Open wellformed answer allowed.2
  | startXmit skb len allocated result => exact transmit_startXmit wellformed skb len allocated result
  | completes urb status actualLength => exact transmit_giveBack status actualLength allowed.2
  | callback urb answer => exact transmit_callback wellformed urb answer
  | closes => exact transmit_close s

theorem action_startXmit (s : System) (skb len : Nat) (allocated : Bool) (result : Int) :
    (∃ urb,action s (.startXmit skb len allocated result) = .refuses urb skb) ∨
      action s (.startXmit skb len allocated result) = .submits s.urbCount skb := by
  simp only [action]
  split
  · exact .inl ⟨none,rfl⟩
  · split
    · exact .inl ⟨some s.urbCount,rfl⟩
    · exact .inr rfl

theorem action_callback (answer : CallbackAnswer) (finished : (s.urbs index).state = .done status actualLength) :
    (transmit s).outgoing index ≠ none ∧ action s (.callback index answer) = .finishes index status ∨
      (transmit s).outgoing index = none ∧ action s (.callback index answer) = .aside := by
  cases pipe : (s.urbs index).pipe with
  | bulkOut => exact .inl ⟨by simp [transmit,carried,pipe,finished],by simp [action,pipe,finished]⟩
  | _ => exact .inr ⟨carried_other (by simp [pipe]),by simp [action,pipe]⟩

theorem action_allowed (wellformed : Wellformed s) (event : Event) (allowed : machine.Allowed s event) :
    Transmit.machine.Allowed (transmit s) (action s event) := by
  have unsent : (transmit s).outgoing s.urbCount = none :=
    carried_idle (wellformed.fresh s.urbCount (Nat.le_refl _))
  obtain ⟨_,enabled⟩ := allowed
  cases event with
  | opens answer =>
      cases enabled with
      | inl down => exact decide_eq_false (by simp [down])
      | inr closed => exact decide_eq_false (by simp [closed])
  | startXmit skb len allocated result =>
      obtain ⟨up,running,new⟩ := enabled
      have running : (transmit s).up = true ∧ (transmit s).stopped = false ∧ skb ∉ (transmit s).handed :=
        ⟨decide_eq_true up,running,new⟩
      simp only [action]
      split
      · exact ⟨running.1,running.2.1,running.2.2,by simp⟩
      · split
        · exact ⟨running.1,running.2.1,running.2.2,by simpa using unsent⟩
        · exact ⟨running.1,running.2.1,running.2.2,unsent⟩
  | completes urb status actualLength => trivial
  | callback urb answer =>
      obtain ⟨status,actualLength,finished⟩ := isDone_iff.mp enabled
      obtain ⟨flying,finishes⟩ | ⟨_,aside⟩ := action_callback answer finished
      · rw [finishes]
        exact flying
      · rw [aside]
        trivial
  | closes => trivial

end Refinement

end LinuxDeviceDrivers.Rtl8150Transmit
