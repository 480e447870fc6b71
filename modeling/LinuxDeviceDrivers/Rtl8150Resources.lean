import LinuxDeviceDrivers.Rtl8150Close

namespace LinuxDeviceDrivers.Rtl8150Resources
open Transition Rtl8150 Rtl8150Close

-- What the driver has allocated and the fields through which it finds it.
-- `delivered` lists the receive skbs given to netif_rx, `lines` the interrupt
-- buffer of each URB that has one.
structure Ledger where
  urbCount : Nat
  rxUrb : Option Nat
  txUrb : Option Nat
  intrUrb : Option Nat
  rxSkb : Option Nat
  intrBuff : Option Nat
  rxSkbs : Nat
  delivered : List Nat
  lines : Nat → Option Nat
  oopsed : Bool

namespace Ledger

-- usb_free_urb and kfree are called nowhere. netif_rx releases a receive skb.
def heldUrbs (l : Ledger) : List Nat := List.range l.urbCount
def heldRxSkbs (l : Ledger) : List Nat := (List.range l.rxSkbs).filter (· ∉ l.delivered)
def heldIntrBuffs (l : Ledger) : List Nat := l.heldUrbs.filterMap l.lines

structure HoldsNothing (l : Ledger) : Prop where
  urbs : l.heldUrbs = []
  rxSkbs : l.heldRxSkbs = []
  intrBuffs : l.heldIntrBuffs = []

structure Denoted (l : Ledger) : Prop where
  once : l.delivered.Nodup
  urbs : ∀ urb ∈ l.heldUrbs,l.rxUrb = some urb ∨ l.txUrb = some urb ∨ l.intrUrb = some urb
  rxSkbs : ∀ skb ∈ l.heldRxSkbs,l.rxSkb = some skb
  intrBuffs : ∀ buff ∈ l.heldIntrBuffs,l.intrBuff = some buff

inductive Action where
  | aside
  | oopses
  | opens (intrBuff : Option Nat)
  | sends (allocated : Bool)
  | delivers (allocated : Bool)
  | replaces (allocated : Bool)

def replaced (l : Ledger) (allocated : Bool) : Ledger :=
  {l with
    rxSkbs := l.rxSkbs+allocated.toNat
    rxSkb := if allocated then some l.rxSkbs else none
    oopsed := l.oopsed || !allocated}

def after (l : Ledger) : Action → Ledger
  | .aside => l
  | .oopses => {l with oopsed := true}
  | .opens intrBuff => {l with
      urbCount := l.urbCount+2
      rxUrb := some l.urbCount
      intrUrb := some (l.urbCount+1)
      rxSkb := some l.rxSkbs
      intrBuff := intrBuff
      rxSkbs := l.rxSkbs+1
      lines := Function.update (Function.update l.lines l.urbCount none) (l.urbCount+1) intrBuff}
  | .sends allocated => {l with
      urbCount := l.urbCount+allocated.toNat
      txUrb := if allocated then some l.urbCount else none
      lines := if allocated then Function.update l.lines l.urbCount none else l.lines
      oopsed := l.oopsed || !allocated}
  | .delivers allocated => replaced {l with delivered := l.delivered ++ l.rxSkb.toList} allocated
  | .replaces allocated => replaced l allocated

structure Fresh (l : Ledger) : Prop where
  urbs : l.urbCount = 0
  txUrb : l.txUrb = none
  rxSkbs : l.rxSkbs = 0
  delivered : l.delivered = []

structure Opened (l : Ledger) : Prop where
  urbs : l.urbCount = 2 ∧ l.txUrb = none ∨ l.urbCount = 3 ∧ l.txUrb = some 2
  rxUrb : l.rxUrb = some 0
  intrUrb : l.intrUrb = some 1
  rxSkbs : ∃ k,l.delivered = List.range k ∧
    (l.rxSkbs = k+1 ∧ l.rxSkb = some k ∨ l.oopsed = true ∧ l.rxSkbs = k)
  lines : ∀ urb < l.urbCount,∀ buff,l.lines urb = some buff → l.intrBuff = some buff

-- Nothing that a field denotes is overwritten.
def Thrifty (l : Ledger) : Action → Prop
  | .opens _ => l.urbCount = 0
  | .sends _ => l.txUrb = none
  | .replaces _ => False
  | .aside | .oopses | .delivers _ => True

variable {l : Ledger}

theorem Fresh.holdsNothing (fresh : Fresh l) : HoldsNothing l :=
  ⟨by simp [heldUrbs,fresh.urbs],by simp [heldRxSkbs,fresh.rxSkbs],by simp [heldIntrBuffs,heldUrbs,fresh.urbs]⟩

theorem Fresh.denoted (fresh : Fresh l) : Denoted l := by
  obtain ⟨urbs,rxSkbs,intrBuffs⟩ := fresh.holdsNothing
  exact ⟨by simp [fresh.delivered],by simp [urbs],by simp [rxSkbs],by simp [intrBuffs]⟩

theorem Opened.count (opened : Opened l) : l.urbCount = 2 ∨ l.urbCount = 3 := opened.urbs.imp And.left And.left

theorem Opened.holds (opened : Opened l) : ¬ HoldsNothing l := by
  intro none
  have urbs := none.urbs
  have count := opened.count
  rw [heldUrbs,List.range_eq_nil] at urbs
  omega

theorem Opened.denoted (opened : Opened l) : Denoted l := by
  obtain ⟨urbs,rxUrb,intrUrb,⟨k,delivered,skbs⟩,lines⟩ := opened
  refine ⟨delivered ▸ List.nodup_range,?_,?_,?_⟩
  · intro urb held
    have small := List.mem_range.mp held
    rcases urbs with ⟨count,txUrb⟩ | ⟨count,txUrb⟩
    · have cases : urb = 0 ∨ urb = 1 := by omega
      rcases cases with rfl | rfl
      · exact .inl rxUrb
      · exact .inr (.inr intrUrb)
    · have cases : urb = 0 ∨ urb = 1 ∨ urb = 2 := by omega
      rcases cases with rfl | rfl | rfl
      · exact .inl rxUrb
      · exact .inr (.inr intrUrb)
      · exact .inr (.inl txUrb)
  · intro skb held
    simp only [heldRxSkbs,delivered,List.mem_filter,List.mem_range,decide_eq_true_eq,Nat.not_lt] at held
    rcases skbs with ⟨count,rxSkb⟩ | ⟨_,count⟩
    · have last : skb = k := by omega
      rw [rxSkb,last]
    · omega
  · intro buff held
    obtain ⟨urb,member,line⟩ := List.mem_filterMap.mp held
    exact lines urb (List.mem_range.mp member) buff line

theorem Fresh.opens (fresh : Fresh l) (intrBuff : Option Nat) : Opened (l.after (.opens intrBuff)) := by
  obtain ⟨urbs,txUrb,rxSkbs,delivered⟩ := fresh
  refine ⟨.inl ⟨by simp [after,urbs],txUrb⟩,by simp [after,urbs],by simp [after,urbs],
    ⟨0,by simpa [after] using delivered,.inl ⟨by simp [after,rxSkbs],by simp [after,rxSkbs]⟩⟩,?_⟩
  intro urb small buff line
  simp only [after,urbs] at small line ⊢
  have cases : urb = 0 ∨ urb = 1 := by omega
  rcases cases with rfl | rfl
  · simp at line
  · simpa using line

theorem Opened.after (opened : Opened l) (running : l.oopsed = false) (action : Action) (thrifty : Thrifty l action) :
    Opened (l.after action) := by
  obtain ⟨urbs,rxUrb,intrUrb,⟨k,delivered,skbs⟩,lines⟩ := opened
  cases action with
  | aside => exact ⟨urbs,rxUrb,intrUrb,⟨k,delivered,skbs⟩,lines⟩
  | oopses => exact ⟨urbs,rxUrb,intrUrb,⟨k,delivered,skbs.imp_right fun oopsed => ⟨rfl,oopsed.2⟩⟩,lines⟩
  | opens intrBuff =>
      have none : l.urbCount = 0 := thrifty
      omega
  | sends allocated =>
      have unsent : l.txUrb = none := thrifty
      rcases urbs with ⟨count,_⟩ | ⟨_,sent⟩
      · cases allocated with
        | false =>
            exact ⟨.inl ⟨count,rfl⟩,rxUrb,intrUrb,
              ⟨k,delivered,skbs.imp_right fun oopsed => ⟨by simp [Ledger.after],oopsed.2⟩⟩,lines⟩
        | true =>
            refine ⟨.inr ⟨by simp [Ledger.after,count],by simp [Ledger.after,count]⟩,rxUrb,intrUrb,
              ⟨k,delivered,by simpa [Ledger.after] using skbs⟩,?_⟩
            intro urb small buff line
            simp only [Ledger.after,if_true,Bool.toNat_true] at small line ⊢
            by_cases new : urb = l.urbCount
            · simp [new] at line
            · rw [Function.update_of_ne new] at line
              exact lines urb (by omega) buff line
      · rw [unsent] at sent
        cases sent
  | delivers allocated =>
      obtain ⟨count,rxSkb⟩ | ⟨oopsed,_⟩ := skbs
      · refine ⟨urbs,rxUrb,intrUrb,⟨k+1,?_,?_⟩,lines⟩
        · simp [Ledger.after,replaced,delivered,rxSkb,List.range_succ]
        · cases allocated with
          | false => exact .inr ⟨by simp [Ledger.after,replaced],by simp [Ledger.after,replaced,count]⟩
          | true => exact .inl ⟨by simp [Ledger.after,replaced,count],by simp [Ledger.after,replaced,count]⟩
      · rw [running] at oopsed
        cases oopsed
  | replaces allocated => exact absurd thrifty id

theorem Opened.lost (opened : Opened l) (running : l.oopsed = false) (action : Action) (wasteful : ¬ Thrifty l action) :
    ¬ Denoted (l.after action) := by
  obtain ⟨urbs,rxUrb,intrUrb,⟨k,delivered,skbs⟩,lines⟩ := opened
  intro denoted
  cases action with
  | aside | oopses | delivers allocated => exact wasteful trivial
  | opens intrBuff =>
      have first := denoted.urbs 0 (by simp [heldUrbs,Ledger.after])
      simp only [Ledger.after,Option.some.injEq] at first
      rcases urbs with ⟨count,txUrb⟩ | ⟨count,txUrb⟩
      · rw [txUrb] at first
        simp at first
        omega
      · rw [txUrb] at first
        simp at first
        omega
  | sends allocated =>
      rcases urbs with ⟨_,txUrb⟩ | ⟨count,_⟩
      · exact wasteful txUrb
      · have last := denoted.urbs 2 (List.mem_range.mpr (by simp only [Ledger.after]; omega))
        simp only [Ledger.after,rxUrb,intrUrb,Option.some.injEq] at last
        cases allocated with
        | false => simp at last
        | true =>
            simp at last
            omega
  | replaces allocated =>
      obtain ⟨count,_⟩ | ⟨oopsed,_⟩ := skbs
      · have old : k ∈ (l.after (.replaces allocated)).heldRxSkbs := by
          simp only [heldRxSkbs,Ledger.after,replaced,delivered,List.mem_filter,List.mem_range]
          exact ⟨by omega,by simp⟩
        have current := denoted.rxSkbs k old
        cases allocated with
        | false => simp [Ledger.after,replaced] at current
        | true =>
            simp only [Ledger.after,replaced,if_true,Option.some.injEq] at current
            omega
      · rw [running] at oopsed
        cases oopsed

end Ledger

open Ledger (HoldsNothing Denoted Fresh Opened Thrifty)

def line (urb : Urb) : Option Nat := if urb.pipe = .interruptIn then urb.buffer else none

def ledger (s : System) : Ledger where
  urbCount := s.urbCount
  rxUrb := s.priv.rxUrb
  txUrb := s.priv.txUrb
  intrUrb := s.priv.intrUrb
  rxSkb := s.priv.rxSkb
  intrBuff := s.priv.intrBuff
  rxSkbs := s.rxSkbs
  delivered := s.netifRx.map Prod.fst
  lines urb := line (s.urbs urb)
  oopsed := s.oopsed

def granted (answer : OpenAnswer) : Bool := answer.rxUrb && answer.intrUrb && answer.rxSkb
def renews (answer : CallbackAnswer) (s : System) : Bool := answer.rxSkb && s.priv.rxUrb.isSome

def action (s : System) : Event → Ledger.Action
  | .opens answer => if granted answer then .opens (if answer.intrBuff then some s.intrBuffs else none) else .oopses
  | .startXmit _ _ allocated _ => .sends allocated
  | .callback urb answer => match (s.urbs urb).pipe,(s.urbs urb).state with
      | .bulkIn,.done status _ =>
          if status = 0 then .delivers (renews answer s)
          else if status = enoent then .aside
          else .replaces (renews answer s)
      | .interruptIn,.done status _ => if status = 0 ∧ (s.urbs urb).buffer = none then .oopses else .aside
      | _,_ => .aside
  | .completes _ _ _ | .closes => .aside

section Refinement
variable {s : System} {index : Nat} {urb : Urb}

theorem ledger_setUrb (index : Nat) (urb : Urb) (s : System) :
    ledger (setUrb index urb s) = {ledger s with lines := Function.update (ledger s).lines index (line urb)} := by
  have lines := Function.comp_update line s.urbs index urb
  exact congrArg (fun lines => {ledger s with lines := lines}) lines

theorem ledger_unchanged (same : line urb = line (s.urbs index)) : ledger (setUrb index urb s) = ledger s := by
  rw [ledger_setUrb,same]
  exact congrArg (fun lines => {ledger s with lines := lines}) (Function.update_eq_self index _)

theorem ledger_setState (index : Nat) (state : UrbState) (s : System) : ledger (setState index state s) = ledger s :=
  ledger_unchanged rfl

theorem ledger_blind : Blind ledger := ⟨ledger_setState,fun _ _ _ _ _ => rfl⟩

theorem ledger_prepare (answer : OpenAnswer) (s : System) :
    ledger (prepare answer s) =
      (ledger s).after (.opens (if answer.intrBuff then some s.intrBuffs else none)) := by
  simp only [prepare,fillUrb,ledger_setUrb]
  rfl

theorem rtl8150Open_missing (missing : ¬ granted answer = true) (s : System) :
    rtl8150Open answer s = {s with oopsed := true} := if_neg missing

theorem ledger_rtl8150Open (answer : OpenAnswer) (s : System) :
    ledger (rtl8150Open answer s) = (ledger s).after (action s (.opens answer)) := by
  by_cases allocated : granted answer = true
  · rw [ledger_blind.rtl8150Open allocated,ledger_prepare]
    simp only [action,if_pos allocated]
  · simp only [rtl8150Open_missing allocated,action,if_neg allocated]
    rfl

theorem ledger_startXmit (skb len : Nat) (allocated : Bool) (result : Int) (running : s.oopsed = false) :
    ledger (rtl8150StartXmit skb len allocated result s) = (ledger s).after (.sends allocated) := by
  cases allocated with
  | false => simp [rtl8150StartXmit,ledger,takeSkb,Ledger.after]
  | true =>
      have taken : ledger (fillUrb s.urbCount .bulkOut (some skb) len
          (takeSkb skb (some s.urbCount) {s with urbCount := s.urbCount+1})) = (ledger s).after (.sends true) := by
        rw [fillUrb,ledger_setUrb]
        simp [ledger,takeSkb,Ledger.after,line,running]
      have submitted := ledger_blind.usbSubmitUrb s.urbCount result (fillUrb s.urbCount .bulkOut (some skb) len
        (takeSkb skb (some s.urbCount) {s with urbCount := s.urbCount+1}))
      rw [taken] at submitted
      simp only [rtl8150StartXmit,if_true]
      split
      · exact submitted
      · exact submitted

theorem ledger_reschedule (wellformed : Wellformed s) (answer : CallbackAnswer) (running : s.oopsed = false) :
    ledger (reschedule answer s) = (ledger s).replaced (renews answer s) := by
  unfold reschedule renews
  split
  · rename_i rxUrb allocated rx
    have pipe := (wellformed.rx rxUrb rx).2
    rw [ledger_blind.usbSubmitUrb,fillUrb,ledger_unchanged (by simp [line,pipe])]
    simp [ledger,Ledger.replaced,allocated,rx,running]
  · rename_i failed
    have none : (answer.rxSkb && s.priv.rxUrb.isSome) = false := by
      cases allocated : answer.rxSkb with
      | false => rfl
      | true =>
          cases rx : s.priv.rxUrb with
          | none => rfl
          | some rxUrb => exact absurd rx (failed rxUrb allocated)
    rw [none]
    simp [ledger,Ledger.replaced]

theorem ledger_deliver (actualLength : Nat) (s : System) : ledger (deliver actualLength s) =
    {ledger s with delivered := (ledger s).delivered ++ (ledger s).rxSkb.toList} := by
  cases skb : s.priv.rxSkb <;> simp [ledger,deliver,skb]

theorem ledger_intrCallback (index : Nat) (status : Int) (answer : CallbackAnswer) (s : System) :
    ledger (intrCallback index status answer s) = (ledger s).after
      (if status = 0 ∧ (s.urbs index).buffer = none then .oopses else .aside) := by
  unfold intrCallback
  by_cases success : status = 0
  · by_cases missing : (s.urbs index).buffer = none
    · rw [if_pos success,if_pos missing,if_pos ⟨success,missing⟩]
      rfl
    · have aside : ¬ (status = 0 ∧ (s.urbs index).buffer = none) := fun oops => missing oops.2
      rw [if_pos success,if_neg missing,if_neg aside,ledger_blind.usbSubmitUrb]
      rfl
  · have aside : ¬ (status = 0 ∧ (s.urbs index).buffer = none) := fun oops => success oops.1
    rw [if_neg success,if_neg aside]
    split
    · rfl
    · exact ledger_blind.usbSubmitUrb _ _ _

theorem ledger_writeBulkCallback (status : Int) (actualLength : Nat) (s : System) :
    ledger (writeBulkCallback status actualLength s) = ledger s := by
  unfold writeBulkCallback
  split
  · rfl
  · split <;> rfl

theorem ledger_callback (wellformed : Wellformed s) (running : s.oopsed = false) (urb : Nat) (answer : CallbackAnswer) :
    ledger (callback urb answer s) = (ledger s).after (action s (.callback urb answer)) := by
  unfold callback
  cases finished : (s.urbs urb).state with
  | idle => cases pipe : (s.urbs urb).pipe <;> simp [action,finished,pipe,Ledger.after]
  | active => cases pipe : (s.urbs urb).pipe <;> simp [action,finished,pipe,Ledger.after]
  | done status actualLength =>
      have known := wellformed.known_done finished
      have idle := setState_wellformed wellformed known .idle
      have given : ledger {setState urb .idle s with awaited := s.awaited.erase urb} = ledger s :=
        ledger_blind.given urb s
      cases pipe : (s.urbs urb).pipe with
      | bulkIn =>
          simp only [runCallback,action,pipe,finished,readBulkCallback]
          split
          · have delivered := ledger_reschedule
              (s:=deliver actualLength {setState urb .idle s with awaited := s.awaited.erase urb})
              ⟨idle.fresh,idle.rx⟩ answer running
            rw [delivered,ledger_deliver,given]
            rfl
          · split
            · exact given
            · have rescheduled := ledger_reschedule
                (s:={setState urb .idle s with awaited := s.awaited.erase urb}) ⟨idle.fresh,idle.rx⟩ answer running
              rw [rescheduled,given]
              rfl
      | interruptIn =>
          simp only [runCallback,action,pipe,finished]
          rw [ledger_intrCallback,given]
          simp [setState,setUrb]
      | bulkOut =>
          simp only [runCallback,action,pipe,finished,ledger_writeBulkCallback,given]
          rfl

theorem apply_ledger (wellformed : Wellformed s) (event : Event) (allowed : machine.Allowed s event) :
    ledger (machine.apply s event) = (ledger s).after (action s event) := by
  cases event with
  | opens answer => exact ledger_rtl8150Open answer s
  | startXmit skb len allocated result => exact ledger_startXmit skb len allocated result allowed.1
  | completes urb status actualLength => exact ledger_setState urb (.done status actualLength) s
  | callback urb answer => exact ledger_callback wellformed allowed.1 urb answer
  | closes => exact ledger_blind.rtl8150Close s

end Refinement

structure Accounted (s : System) : Prop where
  denoted : Denoted (ledger s)
  drained : Drained s → HoldsNothing (ledger s)
  failed : s.phase = .down → HoldsNothing (ledger s) ∧ ∀ urb,(s.urbs urb).state = .idle

-- The interface is opened once, with both URBs accepted, and sends one frame at
-- most. Bulk IN completions succeed or are unlinked. Close leaves an URB in
-- flight whose callback has not run at the end.
def Frugal (s : System) : Event → Prop
  | .opens answer => s.urbCount = 0 ∧ (granted answer = true → 0 ≤ answer.rxResult ∧ 0 ≤ answer.intrResult)
  | .startXmit _ _ _ _ => s.priv.txUrb = none
  | .completes _ _ _ => True
  | .callback urb _ =>
      (∀ status actualLength,(s.urbs urb).state = .done status actualLength → (s.urbs urb).pipe = .bulkIn →
        status = 0 ∨ status = enoent) ∧ (s.phase = .closed → s.awaited.erase urb ≠ [])
  | .closes => s.phase = .unlinkCtrl → ∃ urb < s.urbCount,inFlight s urb = true

structure Sound (s : System) : Prop where
  wellformed : Wellformed s
  single : Fresh (ledger s) ∧ s.phase = .down ∨ Opened (ledger s) ∧ s.phase ≠ .down ∧ ¬ Drained s

section Steps
variable {s : System}

theorem Sound.accounted (sound : Sound s) : Accounted s := by
  obtain ⟨wellformed,⟨fresh,down⟩ | ⟨opened,up,flying⟩⟩ := sound
  · refine ⟨fresh.denoted,fun drained => ?_,fun _ => ⟨fresh.holdsNothing,fun urb => ?_⟩⟩
    · rw [drained.1] at down
      cases down
    · have none : s.urbCount = 0 := fresh.urbs
      exact wellformed.fresh urb (by omega)
  · exact ⟨opened.denoted,fun drained => absurd drained flying,fun down => absurd down up⟩

theorem rtl8150Open_result (wellformed : Wellformed s) (answer : OpenAnswer) (allocated : granted answer = true) :
    (rtl8150Open answer s).phase = if answer.rxResult < 0 ∨ answer.intrResult < 0 then .down else .up := by
  have condition : (answer.rxUrb && answer.intrUrb && answer.rxSkb) = true := allocated
  obtain ⟨rxIdle,intrIdle⟩ := prepare_idle wellformed answer
  have apart : s.urbCount+1 ≠ s.urbCount := Nat.succ_ne_self _
  rw [← usbSubmitUrb_other answer.rxResult apart] at intrIdle
  simp only [rtl8150Open,if_pos condition,usbSubmitUrb_result _ rxIdle,usbSubmitUrb_result _ intrIdle]
  split
  · rename_i refused
    rw [if_pos (.inl refused)]
  · rename_i accepted
    split
    · rename_i refused
      rw [if_pos (.inr refused)]
    · rename_i scheduled
      rw [if_neg (not_or.mpr ⟨accepted,scheduled⟩)]

theorem writeBulkCallback_awaited (status : Int) (actualLength : Nat) (s : System) :
    (writeBulkCallback status actualLength s).awaited = s.awaited := by
  unfold writeBulkCallback
  split
  · rfl
  · split <;> rfl

theorem callback_frame (urb : Nat) (answer : CallbackAnswer) (finished : isDone (s.urbs urb).state = true) :
    (callback urb answer s).phase = s.phase ∧ (callback urb answer s).awaited = s.awaited.erase urb := by
  obtain ⟨status,actualLength,finished⟩ := isDone_iff.mp finished
  simp only [callback,finished,runCallback]
  cases pipe : (s.urbs urb).pipe with
  | bulkIn =>
      have aside := readBulkCallback_aside status actualLength answer
        {setState urb .idle s with awaited := s.awaited.erase urb}
      exact ⟨aside.phase,aside.awaited⟩
  | interruptIn =>
      have aside := intrCallback_aside urb status answer {setState urb .idle s with awaited := s.awaited.erase urb}
      exact ⟨aside.phase,aside.awaited⟩
  | bulkOut => exact ⟨writeBulkCallback_phase _ _ _,writeBulkCallback_awaited _ _ _⟩

theorem usbUnlinkUrb_inFlight (urb : Option Nat) (s : System) (other : Nat) :
    inFlight (usbUnlinkUrb urb s) other = inFlight s other := by
  apply usbUnlinkUrb_unseen (f:=fun s => inFlight s other)
  intro index active
  by_cases same : other = index
  · simp only [inFlight,setState,setUrb,same,active,Function.update_self]
    rfl
  · simp [inFlight,setState,setUrb,same]

theorem close_frame (s : System) (inside : s.phase ≠ .down ∧ s.phase ≠ .closed) : (rtl8150Close s).phase ≠ .down ∧
    (Drained (rtl8150Close s) ↔ s.phase = .unlinkCtrl ∧ ∀ urb < s.urbCount,inFlight s urb = false) := by
  unfold rtl8150Close
  cases phase : s.phase with
  | down => exact absurd phase inside.1
  | closed => exact absurd phase inside.2
  | unlinkCtrl =>
      have count : (usbUnlinkUrb s.priv.ctrlUrb s).urbCount = s.urbCount :=
        congrArg Ledger.urbCount (ledger_blind.usbUnlinkUrb s.priv.ctrlUrb s)
      simp [Drained,List.filter_eq_nil_iff,count,usbUnlinkUrb_inFlight]
  | _ => simp [Drained]

theorem action_callback (urb : Nat) (answer : CallbackAnswer)
    (settles : ∀ status actualLength,(s.urbs urb).state = .done status actualLength → (s.urbs urb).pipe = .bulkIn →
      status = 0 ∨ status = enoent) : Thrifty (ledger s) (action s (.callback urb answer)) := by
  simp only [action]
  split
  · rename_i pipe finished
    split
    · trivial
    · rename_i failed
      rw [if_pos ((settles _ _ finished pipe).resolve_left failed)]
      trivial
  · split <;> trivial
  · trivial

theorem callback_urbCount (wellformed : Wellformed s) (urb : Nat) (answer : CallbackAnswer)
    (allowed : machine.Allowed s (.callback urb answer)) : (machine.apply s (.callback urb answer)).urbCount = s.urbCount := by
  have view := apply_ledger wellformed (.callback urb answer) allowed
  have same : ((ledger s).after (action s (.callback urb answer))).urbCount = (ledger s).urbCount := by
    simp only [action]
    split
    · split
      · rfl
      · split <;> rfl
    · split <;> rfl
    · rfl
  rw [← view] at same
  exact same

theorem apply_sound (s : System) (event : Event) (sound : Sound s)
    (step : machine.Allowed s event ∧ Frugal s event) : Sound (machine.apply s event) := by
  obtain ⟨allowed,frugal⟩ := step
  obtain ⟨wellformed,single⟩ := sound
  have view := apply_ledger wellformed event allowed
  refine ⟨apply_wellformed s event wellformed allowed,?_⟩
  rw [view]
  cases event with
  | opens answer =>
      obtain ⟨first,accepted⟩ := frugal
      rcases single with ⟨fresh,down⟩ | ⟨opened,_⟩
      · by_cases allocated : granted answer = true
        · have up : (rtl8150Open answer s).phase = .up := by
            obtain ⟨received,polled⟩ := accepted allocated
            rw [rtl8150Open_result wellformed answer allocated,if_neg (by omega)]
          right
          simp only [action,if_pos allocated]
          exact ⟨fresh.opens _,by simp [machine,up],by simp [machine,Drained,up]⟩
        · left
          simp only [action,if_neg allocated,machine,rtl8150Open_missing allocated]
          exact ⟨⟨fresh.urbs,fresh.txUrb,fresh.rxSkbs,fresh.delivered⟩,down⟩
      · have count : s.urbCount = 2 ∨ s.urbCount = 3 := opened.count
        omega
  | startXmit skb len allocated result =>
      have up := allowed.2.1
      have phase := rtl8150StartXmit_phase skb len allocated result s
      rcases single with ⟨_,down⟩ | ⟨opened,_⟩
      · cases down.symm.trans up
      · right
        exact ⟨opened.after allowed.1 _ frugal,by simp [machine,phase,up],by simp [machine,Drained,phase,up]⟩
  | completes urb status actualLength => exact single
  | callback urb answer =>
      obtain ⟨settles,waits⟩ := frugal
      obtain ⟨phase,awaited⟩ := callback_frame urb answer allowed.2
      rcases single with ⟨fresh,_⟩ | ⟨opened,notDown,_⟩
      · obtain ⟨status,actualLength,finished⟩ := isDone_iff.mp allowed.2
        have known := wellformed.known_done finished
        have none : s.urbCount = 0 := fresh.urbs
        omega
      · right
        refine ⟨opened.after allowed.1 _ (action_callback urb answer settles),by simpa [machine,phase] using notDown,?_⟩
        rintro ⟨closed,drained⟩
        simp only [machine,phase,awaited] at closed drained
        exact waits closed drained
  | closes =>
      obtain ⟨notDown,drains⟩ := close_frame s allowed.2
      rcases single with ⟨_,down⟩ | ⟨opened,_⟩
      · exact absurd down allowed.2.1
      · right
        refine ⟨opened,notDown,?_⟩
        intro drained
        obtain ⟨last,idle⟩ := drains.mp drained
        obtain ⟨urb,known,flying⟩ := frugal last
        rw [idle urb known] at flying
        cases flying

theorem opens_lost (sound : Sound s) (answer : OpenAnswer) (allowed : machine.Allowed s (.opens answer))
    (running : (machine.apply s (.opens answer)).oopsed = false) (accounted : Accounted (machine.apply s (.opens answer))) :
    Frugal s (.opens answer) := by
  obtain ⟨wellformed,single⟩ := sound
  have view := apply_ledger wellformed (.opens answer) allowed
  have allocated : granted answer = true := by
    by_contra missing
    simp only [machine,rtl8150Open_missing missing] at running
    cases running
  simp only [action,if_pos allocated] at view
  rcases single with ⟨fresh,_⟩ | ⟨opened,_⟩
  · refine ⟨fresh.urbs,fun _ => ?_⟩
    by_contra wasteful
    have refused : answer.rxResult < 0 ∨ answer.intrResult < 0 := by omega
    have down : (rtl8150Open answer s).phase = .down := by
      rw [rtl8150Open_result wellformed answer allocated,if_pos refused]
    have nothing := (accounted.failed down).1
    rw [view] at nothing
    exact (fresh.opens _).holds nothing
  · have denoted := accounted.denoted
    rw [view] at denoted
    exfalso
    refine opened.lost allowed.1 (.opens _) ?_ denoted
    intro none
    have count : s.urbCount = 2 ∨ s.urbCount = 3 := opened.count
    have zero : s.urbCount = 0 := none
    omega

theorem callback_lost (sound : Sound s) (urb : Nat) (answer : CallbackAnswer)
    (allowed : machine.Allowed s (.callback urb answer)) (accounted : Accounted (machine.apply s (.callback urb answer))) :
    Frugal s (.callback urb answer) := by
  obtain ⟨wellformed,single⟩ := sound
  have view := apply_ledger wellformed (.callback urb answer) allowed
  rcases single with ⟨fresh,_⟩ | ⟨opened,_⟩
  · obtain ⟨status,actualLength,finished⟩ := isDone_iff.mp allowed.2
    have known := wellformed.known_done finished
    have none : s.urbCount = 0 := fresh.urbs
    omega
  · have count : s.urbCount = 2 ∨ s.urbCount = 3 := opened.count
    obtain ⟨phase,awaited⟩ := callback_frame urb answer allowed.2
    refine ⟨?_,?_⟩
    · intro status actualLength finished pipe
      by_contra bad
      obtain ⟨failed,linked⟩ := not_or.mp bad
      have denoted := accounted.denoted
      rw [view] at denoted
      refine opened.lost allowed.1 (.replaces (renews answer s)) id ?_
      simpa only [action,pipe,finished,if_neg failed,if_neg linked] using denoted
    · intro closed empty
      have nothing := accounted.drained ⟨by simpa [machine,phase] using closed,by simpa [machine,awaited] using empty⟩
      have held := nothing.urbs
      rw [Ledger.heldUrbs,List.range_eq_nil] at held
      have same := callback_urbCount wellformed urb answer allowed
      have zero : (machine.apply s (.callback urb answer)).urbCount = 0 := held
      omega

-- Where no call is left halfway by a NULL dereference, any other step breaks the
-- account at once.
theorem wasteful_lost (sound : Sound s) (event : Event) (allowed : machine.Allowed s event)
    (running : (machine.apply s event).oopsed = false) (accounted : Accounted (machine.apply s event)) :
    Frugal s event := by
  have view := apply_ledger sound.1 event allowed
  cases event with
  | opens answer => exact opens_lost sound answer allowed running accounted
  | callback urb answer => exact callback_lost sound urb answer allowed accounted
  | completes urb status actualLength => trivial
  | startXmit skb len allocated result =>
      rcases sound.2 with ⟨_,down⟩ | ⟨opened,_⟩
      · cases down.symm.trans allowed.2.1
      · have denoted := accounted.denoted
        rw [view] at denoted
        by_contra wasteful
        exact opened.lost allowed.1 (.sends allocated) wasteful denoted
  | closes =>
      rcases sound.2 with ⟨_,down⟩ | ⟨opened,_⟩
      · exact absurd down allowed.2.1
      · intro last
        by_contra idle
        have none : ∀ urb < s.urbCount,inFlight s urb = false := by
          intro urb known
          by_contra flying
          exact idle ⟨urb,known,Bool.not_eq_false _ ▸ flying⟩
        have nothing := accounted.drained ((close_frame s allowed.2).2.mpr ⟨last,none⟩)
        rw [view] at nothing
        exact opened.holds nothing

theorem probed_sound : Sound {} :=
  ⟨probed_wellformed,.inl ⟨⟨rfl,rfl,rfl,rfl⟩,rfl⟩⟩

theorem along_running (events : List Event) (path : machine.Runs s events) (last : (machine.run s events).oopsed = false) :
    machine.Along (fun s event => (machine.apply s event).oopsed = false) s events := by
  induction events generalizing s with
  | nil => trivial
  | cons event rest ih =>
      refine ⟨?_,ih path.2 last⟩
      cases rest with
      | nil => exact last
      | cons next rest => exact path.2.1.1

end Steps

def session : List Event :=
  [.opens {},.startXmit 1 100 true 0,.completes 2 0 100,.callback 2 {},.completes 0 0 64,.callback 0 {},
    .completes 0 enoent 0,.closes,.closes,.closes,.closes,.closes,.callback 0 {}]

def closedSession : List Event :=
  [.opens {},.completes 0 enoent 0,.closes,.closes,.closes,.closes,.closes,.callback 0 {},.callback 1 {}]
def refusedOpen : List Event := [.opens {intrResult := -12}]

end LinuxDeviceDrivers.Rtl8150Resources
