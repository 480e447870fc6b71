import LinuxDeviceDrivers.NetDevice
import LinuxDeviceDrivers.Transition

namespace LinuxDeviceDrivers.Rtl8150
open Transition NetDevice

universe u

def enoent : Int := -2
def ebusy : Int := -16
def econnreset : Int := -104
def eshutdown : Int := -108

def rtl8150Mtu : Nat := 1540
def intBufSize : Nat := 8

def tsrEcol : BitVec 8 := 0x20#8
def tsrLcol : BitVec 8 := 0x10#8
def tsrLossCrs : BitVec 8 := 0x08#8
def tsrJbr : BitVec 8 := 0x04#8
def tsrErrors : BitVec 8 := tsrEcol ||| tsrLcol ||| tsrLossCrs ||| tsrJbr
def msrLink : BitVec 8 := 0x04#8

inductive Pipe where
  | bulkIn
  | bulkOut
  | interruptIn
deriving DecidableEq

-- A `done` URB has been given back and its completion callback has not run.
inductive UrbState where
  | idle
  | active
  | done (status : Int) (actualLength : Nat)
deriving DecidableEq

-- `buffer` numbers the object the transfer buffer lies in: a frame of the stack
-- on the bulk OUT pipe, else a receive skb or an interrupt buffer.
structure Urb where
  pipe : Pipe := .bulkOut
  buffer : Option Nat := none
  length : Nat := 0
  state : UrbState := .idle

structure Private where
  rxUrb : Option Nat := none
  txUrb : Option Nat := none
  intrUrb : Option Nat := none
  ctrlUrb : Option Nat := none
  txSkb : Option Nat := none
  rxSkb : Option Nat := none
  intrBuff : Option Nat := none
  stats : NetDeviceStats := {}

-- rtl8150_close stands before the call named, having stopped the queue.
inductive Phase where
  | down
  | up
  | unlinkRx
  | unlinkTx
  | unlinkIntr
  | unlinkCtrl
  | closed
deriving DecidableEq

-- URBs are numbered in the order of usb_alloc_urb. `handed` and `freed` log the
-- skbs given to start_xmit and to dev_kfree_skb_irq, `awaited` the URBs in
-- flight when close returned whose callback has not run since.
structure System where
  priv : Private := {}
  urbs : Nat → Urb := fun _ => {}
  urbCount : Nat := 0
  rxSkbs : Nat := 0
  intrBuffs : Nat := 0
  stopped : Bool := false
  carrier : Bool := true
  netifRx : List (Nat × Int) := []
  handed : List Nat := []
  freed : List Nat := []
  phase : Phase := .down
  awaited : List Nat := []
  oopsed : Bool := false

def setUrb (index : Nat) (urb : Urb) (s : System) : System := {s with urbs := Function.update s.urbs index urb}
def setState (index : Nat) (state : UrbState) (s : System) : System :=
  setUrb index {s.urbs index with state := state} s

def fillUrb (index : Nat) (pipe : Pipe) (buffer : Option Nat) (length : Nat) (s : System) : System :=
  setUrb index {s.urbs index with pipe := pipe,buffer := buffer,length := length} s

-- The core refuses an URB that is still in flight, and may refuse any other.
def usbSubmitUrb (index : Nat) (result : Int) (s : System) : Int × System :=
  let res := if (s.urbs index).state = .idle then result else ebusy
  (res,if res < 0 then s else setState index .active s)

-- An URB in flight is cancelled, to be given back with -ECONNRESET.
def usbUnlinkUrb (urb : Option Nat) (s : System) : System :=
  match urb with
  | none => s
  | some index => if (s.urbs index).state = .active then setState index (.done econnreset 0) s else s

structure OpenAnswer where
  rxUrb : Bool := true
  intrUrb : Bool := true
  rxSkb : Bool := true
  intrBuff : Bool := true
  rxResult : Int := 0
  intrResult : Int := 0
  linked : Bool := true

structure CallbackAnswer where
  rxSkb : Bool := true
  result : Int := 0
  tsr : BitVec 8 := 0#8
  msr : BitVec 8 := msrLink

-- rtl8150_open up to the first usb_submit_urb. A failed usb_alloc_urb or
-- dev_alloc_skb is not noticed: skb_reserve or usb_fill_bulk_urb gets NULL.
def prepare (answer : OpenAnswer) (s : System) : System :=
  let rxUrb := s.urbCount
  let intrUrb := s.urbCount+1
  let allocated := {s with
    urbCount := s.urbCount+2
    rxSkbs := s.rxSkbs+1
    intrBuffs := s.intrBuffs+1
    priv := {s.priv with
      rxUrb := some rxUrb
      intrUrb := some intrUrb
      rxSkb := some s.rxSkbs
      intrBuff := if answer.intrBuff then some s.intrBuffs else none}}
  fillUrb intrUrb .interruptIn (if answer.intrBuff then some s.intrBuffs else none) intBufSize
    (fillUrb rxUrb .bulkIn (some s.rxSkbs) rtl8150Mtu allocated)

def rtl8150Open (answer : OpenAnswer) (s : System) : System :=
  if answer.rxUrb && answer.intrUrb && answer.rxSkb then
    let received := usbSubmitUrb s.urbCount answer.rxResult (prepare answer s)
    if received.1 < 0 then {received.2 with phase := .down}
    else
      let polled := usbSubmitUrb (s.urbCount+1) answer.intrResult received.2
      if polled.1 < 0 then {polled.2 with phase := .down}
      else {polled.2 with carrier := answer.linked,stopped := false,phase := .up}
  else {s with oopsed := true}

def startQueue (s : System) : System := {s with stopped := false}

def takeSkb (skb : Nat) (txUrb : Option Nat) (s : System) : System :=
  {s with
    stopped := true
    handed := s.handed ++ [skb]
    priv := {s.priv with txSkb := some skb,txUrb := txUrb}}

def countTxError (s : System) : System :=
  {s with priv := {s.priv with stats := {s.priv.stats with txErrors := s.priv.stats.txErrors+1}}}

def rtl8150StartXmit (skb len : Nat) (allocated : Bool) (result : Int) (s : System) : System :=
  if allocated then
    let taken := takeSkb skb (some s.urbCount) {s with urbCount := s.urbCount+1}
    let submitted := usbSubmitUrb s.urbCount result (fillUrb s.urbCount .bulkOut (some skb) len taken)
    if submitted.1 < 0 then startQueue (countTxError submitted.2) else submitted.2
  else {takeSkb skb none s with oopsed := true}

-- unsigned long += int
def addSigned (counter : Nat) (value : Int) : Nat := (((counter : Int)+value) % 0x10000000000000000).toNat

def deliver (actualLength : Nat) (s : System) : System :=
  let pktLen := (actualLength : Int)-4
  {s with
    netifRx := s.netifRx ++ s.priv.rxSkb.toList.map (·,pktLen)
    priv := {s.priv with
      stats := {s.priv.stats with
        rxPackets := s.priv.stats.rxPackets+1
        rxBytes := addSigned s.priv.stats.rxBytes pktLen}}}

def reschedule (answer : CallbackAnswer) (s : System) : System :=
  match answer.rxSkb,s.priv.rxUrb with
  | true,some rxUrb =>
      let allocated := {s with rxSkbs := s.rxSkbs+1,priv := {s.priv with rxSkb := some s.rxSkbs}}
      (usbSubmitUrb rxUrb answer.result (fillUrb rxUrb .bulkIn (some s.rxSkbs) rtl8150Mtu allocated)).2
  | _,_ => {s with oopsed := true,priv := {s.priv with rxSkb := none}}

def readBulkCallback (status : Int) (actualLength : Nat) (answer : CallbackAnswer) (s : System) : System :=
  if status = 0 then reschedule answer (deliver actualLength s)
  else if status = enoent then s
  else reschedule answer s

def reportErrors (tsr : BitVec 8) (stats : NetDeviceStats) : NetDeviceStats :=
  if tsr &&& tsrErrors = 0#8 then stats
  else {stats with
    txErrors := stats.txErrors+1
    txAbortedErrors := stats.txAbortedErrors+(tsr &&& (tsrEcol ||| tsrJbr) != 0#8).toNat
    txWindowErrors := stats.txWindowErrors+(tsr &&& tsrLcol != 0#8).toNat
    txCarrierErrors := stats.txCarrierErrors+(tsr &&& tsrLossCrs != 0#8).toNat}

def reportLink (answer : CallbackAnswer) (s : System) : System :=
  {s with
    carrier := answer.msr &&& msrLink != 0#8
    priv := {s.priv with stats := reportErrors answer.tsr s.priv.stats}}

def intrCallback (urb : Nat) (status : Int) (answer : CallbackAnswer) (s : System) : System :=
  if status = 0 then
    if (s.urbs urb).buffer = none then {s with oopsed := true}
    else (usbSubmitUrb urb answer.result (reportLink answer s)).2
  else if status = econnreset ∨ status = enoent ∨ status = eshutdown then s
  else (usbSubmitUrb urb answer.result s).2

-- urb->actual_length - 4 is computed in 32 unsigned bits.
def writeBulkCallback (status : Int) (actualLength : Nat) (s : System) : System :=
  if status = 0 then
    startQueue {s with
      freed := s.freed ++ s.priv.txSkb.toList
      priv := {s.priv with
        stats := {s.priv.stats with
          txPackets := s.priv.stats.txPackets+1
          txBytes := s.priv.stats.txBytes+(actualLength+0x100000000-4) % 0x100000000}}}
  else if status = enoent then s
  else startQueue s

def inFlight (s : System) (urb : Nat) : Bool := (s.urbs urb).state != .idle

def rtl8150Close (s : System) : System :=
  match s.phase with
  | .up => {s with stopped := true,phase := .unlinkRx}
  | .unlinkRx => {usbUnlinkUrb s.priv.rxUrb s with phase := .unlinkTx}
  | .unlinkTx => {usbUnlinkUrb s.priv.txUrb s with phase := .unlinkIntr}
  | .unlinkIntr => {usbUnlinkUrb s.priv.intrUrb s with phase := .unlinkCtrl}
  | .unlinkCtrl =>
      let unlinked := usbUnlinkUrb s.priv.ctrlUrb s
      {unlinked with
        phase := .closed
        awaited := (List.range unlinked.urbCount).filter (inFlight unlinked)}
  | .down | .closed => s

inductive Event where
  | opens (answer : OpenAnswer)
  | startXmit (skb len : Nat) (allocated : Bool) (result : Int)
  | completes (urb : Nat) (status : Int) (actualLength : Nat)
  | callback (urb : Nat) (answer : CallbackAnswer)
  | closes

-- The core has given the URB back before it calls its completion routine.
def runCallback (urb : Nat) (status : Int) (actualLength : Nat) (answer : CallbackAnswer) (s : System) : System :=
  let given := {setState urb .idle s with awaited := s.awaited.erase urb}
  match (s.urbs urb).pipe with
  | .bulkIn => readBulkCallback status actualLength answer given
  | .bulkOut => writeBulkCallback status actualLength given
  | .interruptIn => intrCallback urb status answer given

def callback (urb : Nat) (answer : CallbackAnswer) (s : System) : System :=
  match (s.urbs urb).state with
  | .done status actualLength => runCallback urb status actualLength answer s
  | _ => s

def isDone : UrbState → Bool
  | .done _ _ => true
  | _ => false

theorem isDone_iff {state : UrbState} : isDone state = true ↔ ∃ status actualLength,state = .done status actualLength := by
  cases state <;> simp [isDone]

-- The stack transmits on an interface that is up and whose queue runs, and
-- never hands the same skb over twice.
def machine : Machine System Event where
  Allowed s event := s.oopsed = false ∧ match event with
    | .opens _ => s.phase = .down ∨ s.phase = .closed
    | .startXmit skb _ _ _ => s.phase = .up ∧ s.stopped = false ∧ skb ∉ s.handed
    | .completes urb _ _ => (s.urbs urb).state = .active
    | .callback urb _ => isDone (s.urbs urb).state = true
    | .closes => s.phase ≠ .down ∧ s.phase ≠ .closed
  apply s event := match event with
    | .opens answer => rtl8150Open answer s
    | .startXmit skb len allocated result => rtl8150StartXmit skb len allocated result s
    | .completes urb status actualLength => setState urb (.done status actualLength) s
    | .callback urb answer => callback urb answer s
    | .closes => rtl8150Close s

instance decidableAllowed : ∀ s event,Decidable (machine.Allowed s event)
  | s,.opens _ => inferInstanceAs (Decidable (s.oopsed = false ∧ (s.phase = .down ∨ s.phase = .closed)))
  | s,.startXmit skb _ _ _ =>
      inferInstanceAs (Decidable (s.oopsed = false ∧ s.phase = .up ∧ s.stopped = false ∧ skb ∉ s.handed))
  | s,.completes urb _ _ => inferInstanceAs (Decidable (s.oopsed = false ∧ (s.urbs urb).state = .active))
  | s,.callback urb _ => inferInstanceAs (Decidable (s.oopsed = false ∧ isDone (s.urbs urb).state = true))
  | s,.closes => inferInstanceAs (Decidable (s.oopsed = false ∧ s.phase ≠ .down ∧ s.phase ≠ .closed))

structure Wellformed (s : System) : Prop where
  fresh : ∀ urb,s.urbCount ≤ urb → (s.urbs urb).state = .idle
  rx : ∀ urb,s.priv.rxUrb = some urb → urb < s.urbCount ∧ (s.urbs urb).pipe = .bulkIn

section Wellformedness
variable {s : System} {index : Nat} {urb : Urb}

theorem probed_wellformed : Wellformed {} := ⟨fun _ _ => rfl,by simp⟩

theorem setUrb_wellformed (wellformed : Wellformed s) (known : index < s.urbCount)
    (kept : s.priv.rxUrb = some index → urb.pipe = .bulkIn) : Wellformed (setUrb index urb s) := by
  refine ⟨?_,?_⟩
  · intro other beyond
    have different : other ≠ index := fun same => by simp only [same,setUrb] at beyond; omega
    simpa [setUrb,different] using wellformed.fresh other beyond
  · intro other rx
    have before := wellformed.rx other rx
    by_cases same : other = index
    · subst other
      simpa [setUrb] using ⟨known,kept rx⟩
    · simpa [setUrb,same] using before

theorem fillUrb_wellformed (pipe : Pipe) (wellformed : Wellformed s) (known : index < s.urbCount)
    (kept : s.priv.rxUrb = some index → pipe = .bulkIn) (buffer : Option Nat) (length : Nat) :
    Wellformed (fillUrb index pipe buffer length s) := setUrb_wellformed wellformed known kept

theorem setState_wellformed (wellformed : Wellformed s) (known : index < s.urbCount) (state : UrbState) :
    Wellformed (setState index state s) := setUrb_wellformed wellformed known fun rx => (wellformed.rx index rx).2

theorem Wellformed.known (wellformed : Wellformed s) (busy : (s.urbs index).state ≠ .idle) : index < s.urbCount := by
  by_contra beyond
  exact busy (wellformed.fresh index (by omega))

theorem Wellformed.known_done (wellformed : Wellformed s) (finished : (s.urbs index).state = .done status actualLength) :
    index < s.urbCount := by
  apply wellformed.known
  rw [finished]
  exact UrbState.noConfusion

theorem usbSubmitUrb_refused (result : Int) (refused : (usbSubmitUrb index result s).1 < 0) :
    (usbSubmitUrb index result s).2 = s := by
  simp only [usbSubmitUrb] at *
  rw [if_pos refused]

theorem usbSubmitUrb_accepted (result : Int) (accepted : ¬ (usbSubmitUrb index result s).1 < 0) :
    (s.urbs index).state = .idle ∧ (usbSubmitUrb index result s).2 = setState index .active s := by
  simp only [usbSubmitUrb] at *
  rw [if_neg accepted]
  refine ⟨?_,rfl⟩
  by_contra busy
  simp [busy,ebusy] at accepted

theorem usbSubmitUrb_result (result : Int) (idle : (s.urbs index).state = .idle) :
    (usbSubmitUrb index result s).1 = result := by simp [usbSubmitUrb,idle]

theorem usbSubmitUrb_cases (index : Nat) (result : Int) (s : System) :
    (usbSubmitUrb index result s).2 = s ∨ (usbSubmitUrb index result s).2 = setState index .active s := by
  by_cases refused : (usbSubmitUrb index result s).1 < 0
  · exact .inl (usbSubmitUrb_refused result refused)
  · exact .inr (usbSubmitUrb_accepted result refused).2

theorem usbSubmitUrb_unseen {α : Type u} {f : System → α} (unseen : f (setState index .active s) = f s)
    (result : Int) : f (usbSubmitUrb index result s).2 = f s := by
  cases usbSubmitUrb_cases index result s with
  | inl unchanged => rw [unchanged]
  | inr submitted => rw [submitted,unseen]

theorem usbUnlinkUrb_unseen {α : Type u} {f : System → α}
    (unseen : ∀ index,(s.urbs index).state = .active → f (setState index (.done econnreset 0) s) = f s)
    (urb : Option Nat) : f (usbUnlinkUrb urb s) = f s := by
  cases urb with
  | none => rfl
  | some index =>
      simp only [usbUnlinkUrb]
      split
      · rename_i active
        exact unseen index active
      · rfl

theorem usbSubmitUrb_other {other : Nat} (result : Int) (different : other ≠ index) :
    (usbSubmitUrb index result s).2.urbs other = s.urbs other := by
  have unseen : (setState index .active s).urbs other = s.urbs other := by simp [setState,setUrb,different]
  exact usbSubmitUrb_unseen (f:=fun s => s.urbs other) unseen result

theorem usbSubmitUrb_wellformed (wellformed : Wellformed s) (known : index < s.urbCount) (result : Int) :
    Wellformed (usbSubmitUrb index result s).2 := by
  cases usbSubmitUrb_cases index result s with
  | inl unchanged =>
      rw [unchanged]
      exact wellformed
  | inr submitted =>
      rw [submitted]
      exact setState_wellformed wellformed known _

theorem usbUnlinkUrb_wellformed (wellformed : Wellformed s) (urb : Option Nat) : Wellformed (usbUnlinkUrb urb s) := by
  cases urb with
  | none => exact wellformed
  | some index =>
      unfold usbUnlinkUrb
      simp only []
      split
      · rename_i active
        exact setState_wellformed wellformed (wellformed.known (by simp [active])) _
      · exact wellformed

theorem prepare_wellformed (wellformed : Wellformed s) (answer : OpenAnswer) : Wellformed (prepare answer s) := by
  refine ⟨?_,?_⟩
  · intro other beyond
    have numbered : s.urbCount+2 ≤ other := beyond
    have notRx : other ≠ s.urbCount := by omega
    have notIntr : other ≠ s.urbCount+1 := by omega
    simpa [prepare,fillUrb,setUrb,notRx,notIntr] using wellformed.fresh other (by omega)
  · intro other rx
    obtain rfl : s.urbCount = other := by simpa [prepare,fillUrb,setUrb] using rx
    simp [prepare,fillUrb,setUrb]

theorem prepare_idle (wellformed : Wellformed s) (answer : OpenAnswer) :
    ((prepare answer s).urbs s.urbCount).state = .idle ∧ ((prepare answer s).urbs (s.urbCount+1)).state = .idle := by
  simp [prepare,fillUrb,setUrb,wellformed.fresh s.urbCount (Nat.le_refl _),
    wellformed.fresh (s.urbCount+1) (Nat.le_succ _)]

theorem rtl8150Open_wellformed (wellformed : Wellformed s) (answer : OpenAnswer) :
    Wellformed (rtl8150Open answer s) := by
  have prepared := prepare_wellformed wellformed answer
  have numbered : s.urbCount < (prepare answer s).urbCount := Nat.lt_add_of_pos_right (by decide)
  have received := usbSubmitUrb_wellformed prepared numbered answer.rxResult
  unfold rtl8150Open
  split
  · simp only []
    split
    · exact ⟨received.fresh,received.rx⟩
    · rename_i accepted
      have next : s.urbCount+1 < (usbSubmitUrb s.urbCount answer.rxResult (prepare answer s)).2.urbCount := by
        rw [(usbSubmitUrb_accepted _ accepted).2]
        exact Nat.lt_succ_self _
      have polled := usbSubmitUrb_wellformed received next answer.intrResult
      split
      · exact ⟨polled.fresh,polled.rx⟩
      · exact ⟨polled.fresh,polled.rx⟩
  · exact ⟨wellformed.fresh,wellformed.rx⟩

theorem rtl8150StartXmit_wellformed (wellformed : Wellformed s) (skb len : Nat) (allocated : Bool) (result : Int) :
    Wellformed (rtl8150StartXmit skb len allocated result s) := by
  unfold rtl8150StartXmit
  cases allocated with
  | false => exact ⟨wellformed.fresh,wellformed.rx⟩
  | true =>
      have counted : Wellformed (takeSkb skb (some s.urbCount) {s with urbCount := s.urbCount+1}) := by
        refine ⟨fun urb beyond => wellformed.fresh urb (Nat.le_of_succ_le beyond),fun urb rx => ?_⟩
        have known := wellformed.rx urb rx
        exact ⟨Nat.lt_succ_of_lt known.1,known.2⟩
      have notRx : s.priv.rxUrb ≠ some s.urbCount := by
        intro same
        have known := (wellformed.rx _ same).1
        omega
      have numbered : s.urbCount < s.urbCount+1 := Nat.lt_succ_self _
      have filled := fillUrb_wellformed .bulkOut counted numbered (fun same => absurd same notRx) (some skb) len
      have submitted := usbSubmitUrb_wellformed filled numbered result
      simp only [if_true]
      split
      · exact ⟨submitted.fresh,submitted.rx⟩
      · exact submitted

theorem reschedule_wellformed (wellformed : Wellformed s) (answer : CallbackAnswer) :
    Wellformed (reschedule answer s) := by
  unfold reschedule
  split
  · rename_i rxUrb _ rx
    have allocated : Wellformed {s with rxSkbs := s.rxSkbs+1,priv := {s.priv with rxSkb := some s.rxSkbs}} :=
      ⟨wellformed.fresh,wellformed.rx⟩
    have known := (wellformed.rx rxUrb rx).1
    have filled := fillUrb_wellformed .bulkIn allocated known (fun _ => rfl) (some s.rxSkbs) rtl8150Mtu
    exact usbSubmitUrb_wellformed filled known answer.result
  · exact ⟨wellformed.fresh,wellformed.rx⟩

theorem readBulkCallback_wellformed (wellformed : Wellformed s) (status : Int) (actualLength : Nat)
    (answer : CallbackAnswer) : Wellformed (readBulkCallback status actualLength answer s) := by
  unfold readBulkCallback
  split
  · exact reschedule_wellformed (s:=deliver actualLength s) ⟨wellformed.fresh,wellformed.rx⟩ answer
  · split
    · exact wellformed
    · exact reschedule_wellformed wellformed answer

theorem intrCallback_wellformed (wellformed : Wellformed s) (known : index < s.urbCount) (status : Int)
    (answer : CallbackAnswer) : Wellformed (intrCallback index status answer s) := by
  unfold intrCallback
  split
  · split
    · exact ⟨wellformed.fresh,wellformed.rx⟩
    · exact usbSubmitUrb_wellformed (s:=reportLink answer s) ⟨wellformed.fresh,wellformed.rx⟩ known answer.result
  · split
    · exact wellformed
    · exact usbSubmitUrb_wellformed wellformed known answer.result

theorem writeBulkCallback_wellformed (wellformed : Wellformed s) (status : Int) (actualLength : Nat) :
    Wellformed (writeBulkCallback status actualLength s) := by
  unfold writeBulkCallback
  split
  · exact ⟨wellformed.fresh,wellformed.rx⟩
  · split
    · exact wellformed
    · exact ⟨wellformed.fresh,wellformed.rx⟩

theorem callback_wellformed (wellformed : Wellformed s) (urb : Nat) (answer : CallbackAnswer) :
    Wellformed (callback urb answer s) := by
  unfold callback
  split
  · rename_i status actualLength finished
    have known := wellformed.known_done finished
    have idle := setState_wellformed wellformed known .idle
    have given : Wellformed {setState urb .idle s with awaited := s.awaited.erase urb} := ⟨idle.fresh,idle.rx⟩
    unfold runCallback
    simp only []
    split
    · exact readBulkCallback_wellformed given status actualLength answer
    · exact writeBulkCallback_wellformed given status actualLength
    · exact intrCallback_wellformed given known status answer
  · exact wellformed

theorem rtl8150Close_wellformed (wellformed : Wellformed s) : Wellformed (rtl8150Close s) := by
  unfold rtl8150Close
  split
  · exact ⟨wellformed.fresh,wellformed.rx⟩
  · exact ⟨(usbUnlinkUrb_wellformed wellformed _).fresh,(usbUnlinkUrb_wellformed wellformed _).rx⟩
  · exact ⟨(usbUnlinkUrb_wellformed wellformed _).fresh,(usbUnlinkUrb_wellformed wellformed _).rx⟩
  · exact ⟨(usbUnlinkUrb_wellformed wellformed _).fresh,(usbUnlinkUrb_wellformed wellformed _).rx⟩
  · exact ⟨(usbUnlinkUrb_wellformed wellformed _).fresh,(usbUnlinkUrb_wellformed wellformed _).rx⟩
  · exact wellformed
  · exact wellformed

theorem apply_wellformed (s : System) (event : Event) (wellformed : Wellformed s) (allowed : machine.Allowed s event) :
    Wellformed (machine.apply s event) := by
  cases event with
  | opens answer => exact rtl8150Open_wellformed wellformed answer
  | startXmit skb len allocated result => exact rtl8150StartXmit_wellformed wellformed skb len allocated result
  | completes urb status actualLength =>
      have active : (s.urbs urb).state = .active := allowed.2
      exact setState_wellformed wellformed (wellformed.known (by simp [active])) _
  | callback urb answer => exact callback_wellformed wellformed urb answer
  | closes => exact rtl8150Close_wellformed wellformed

end Wellformedness

structure Blind {α : Type u} (view : System → α) : Prop where
  state : ∀ index state s,view (setState index state s) = view s
  fields : ∀ s stopped carrier phase awaited,
    view {s with stopped := stopped,carrier := carrier,phase := phase,awaited := awaited} = view s

section Views
variable {α : Type u} {view : System → α}

theorem Blind.usbSubmitUrb (blind : Blind view) (index : Nat) (result : Int) (s : System) :
    view (usbSubmitUrb index result s).2 = view s := usbSubmitUrb_unseen (blind.state index .active s) result

theorem Blind.usbUnlinkUrb (blind : Blind view) (urb : Option Nat) (s : System) : view (usbUnlinkUrb urb s) = view s :=
  usbUnlinkUrb_unseen (fun index _ => blind.state index (.done econnreset 0) s) urb

theorem Blind.given (blind : Blind view) (urb : Nat) (s : System) :
    view {setState urb .idle s with awaited := s.awaited.erase urb} = view s :=
  (blind.fields (setState urb .idle s) _ _ _ (s.awaited.erase urb)).trans (blind.state urb .idle s)

theorem Blind.rtl8150Open (blind : Blind view) {answer : OpenAnswer}
    (granted : (answer.rxUrb && answer.intrUrb && answer.rxSkb) = true) (s : System) :
    view (rtl8150Open answer s) = view (prepare answer s) := by
  have received := blind.usbSubmitUrb s.urbCount answer.rxResult (prepare answer s)
  have polled := blind.usbSubmitUrb (s.urbCount+1) answer.intrResult
    (Rtl8150.usbSubmitUrb s.urbCount answer.rxResult (prepare answer s)).2
  simp only [Rtl8150.rtl8150Open,if_pos granted]
  split
  · exact (blind.fields _ _ _ _ _).trans received
  · split
    · exact (blind.fields _ _ _ _ _).trans (polled.trans received)
    · exact (blind.fields _ _ _ _ _).trans (polled.trans received)

theorem Blind.rtl8150Close (blind : Blind view) (s : System) : view (rtl8150Close s) = view s := by
  have unlinked := fun urb => blind.usbUnlinkUrb urb s
  unfold Rtl8150.rtl8150Close
  cases s.phase with
  | up => exact blind.fields _ _ _ _ _
  | unlinkRx | unlinkTx | unlinkIntr | unlinkCtrl => exact (blind.fields _ _ _ _ _).trans (unlinked _)
  | down | closed => rfl

end Views

end LinuxDeviceDrivers.Rtl8150
