import Mathlib.Algebra.Ring.Int.Defs
import LinuxDeviceDrivers.Rtl8150Receive

namespace LinuxDeviceDrivers.Rtl8150ShortTransfers
open Transition NetDevice
open Rtl8150 hiding System Event machine
open Rtl8150Receive (System Memory Ready receiveSkb receiveSkb_ready pktLen)

inductive Event where
  | opens (answer : OpenAnswer) (bytes : Nat → UInt8)
  | running (event : Rtl8150Receive.Event)

def Event.link : Event → Rtl8150.Event
  | .opens answer _ => .opens answer
  | .running event => event.link

def ended (s : Rtl8150.System) : Event → Option (Int × Nat)
  | .running (.callback urb _ _) => match (s.urbs urb).pipe,(s.urbs urb).state with
      | .bulkIn,.done status actualLength => some (status,actualLength)
      | _,_ => none
  | _ => none

-- The interface is opened and closed at will. The core gives back no more than
-- was asked for, and any allocation and any submission may fail.
def machine : Machine System Event where
  Allowed s event := Rtl8150.machine.Allowed s.link event.link ∧
    ∀ transfer ∈ ended s.link event,transfer.2 ≤ rtl8150Mtu
  apply s event := match event with
    | .opens answer bytes =>
        ⟨rtl8150Open answer s.link,
          Rtl8150Receive.renew (some s.link.urbCount) s.link.rxSkbs answer.rxSkb bytes s.memory⟩
    | .running event => Rtl8150Receive.machine.apply s event

instance decidableAllowed (s : System) (event : Event) : Decidable (machine.Allowed s event) :=
  inferInstanceAs (Decidable (Rtl8150.machine.Allowed s.link event.link ∧
    ∀ transfer ∈ ended s.link event,transfer.2 ≤ rtl8150Mtu))

def probed : System := ⟨{},{skbs := fun _ => devAllocSkb 0 fun _ => 0,offsets := fun _ => 0}⟩

def putArguments (s : System) (event : Event) : Option (Int × Nat) :=
  match ended s.link event,s.link.priv.rxSkb with
  | some (0,actualLength),some skb => some ((actualLength : Int)-4,skbTailroom (s.memory.skbs skb))
  | _,_ => none

-- skb_put takes pkt_len as an unsigned int, which is in range for no other length.
theorem skbPut_served (fits : actualLength ≤ rtl8150Mtu) (ready : Ready skb) :
    (skbPut (pktLen actualLength) skb).isSome ↔
      0 ≤ (actualLength : Int)-4 ∧ (actualLength : Int)-4 ≤ skbTailroom skb := by
  rw [skbPut,pktLen,ready.tailroom]
  simp only [rtl8150Mtu] at *
  split <;> split <;> simp <;> omega

-- A transfer too short for the CRC. One that succeeds is to be discarded and
-- counted, and so is one that ends with an `audited` status.
def Short (audited : Int → Prop) (s : System) (event : Event) : Prop :=
  ∃ status actualLength,ended s.link event = some (status,actualLength) ∧ (status = 0 ∨ audited status) ∧
    actualLength < 4

def payload (s : System) : Int := (s.link.netifRx.map Prod.snd).sum

structure Counted (s : System) : Prop where
  packets : unsignedLong s.link.priv.stats.rxPackets = s.link.netifRx.length
  bytes : (unsignedLong s.link.priv.stats.rxBytes : Int) = payload s

structure Growing (before after : System) : Prop where
  packets : unsignedLong before.link.priv.stats.rxPackets ≤ unsignedLong after.link.priv.stats.rxPackets
  bytes : unsignedLong before.link.priv.stats.rxBytes ≤ unsignedLong after.link.priv.stats.rxBytes

-- Counted means that some counter of the interface, whichever it is, has moved.
structure Copes (audited : Int → Prop) (s : System) (event : Event) : Prop where
  puts : ∀ pktLen tailroom,putArguments s event = some (pktLen,tailroom) → 0 ≤ pktLen ∧ pktLen ≤ tailroom
  discards : Short audited s event →
    (machine.apply s event).link.netifRx = s.link.netifRx ∧
      (machine.apply s event).link.priv.stats ≠ s.link.priv.stats
  counted : Counted (machine.apply s event)
  growing : Growing s (machine.apply s event)

structure Proper (audited : Int → Prop) (s : System) (event : Event) : Prop where
  long : ∀ status actualLength,ended s.link event = some (status,actualLength) → status = 0 ∨ audited status →
    4 ≤ actualLength
  packets : ∀ actualLength,ended s.link event = some (0,actualLength) →
    s.link.priv.stats.rxPackets+1 < 0x10000000000000000
  bytes : ∀ actualLength,ended s.link event = some (0,actualLength) →
    s.link.priv.stats.rxBytes+(actualLength-4) < 0x10000000000000000

structure View where
  packets : Nat
  bytes : Nat
  frames : List (Nat × Int)
  rxSkb : Option Nat

def view (s : Rtl8150.System) : View := ⟨s.priv.stats.rxPackets,s.priv.stats.rxBytes,s.netifRx,s.priv.rxSkb⟩

section Views
variable {s : Rtl8150.System}

theorem view_blind : Blind view := ⟨fun _ _ _ => rfl,fun _ _ _ _ _ => rfl⟩

theorem view_startXmit (skb len : Nat) (allocated : Bool) (result : Int) (s : Rtl8150.System) :
    view (rtl8150StartXmit skb len allocated result s) = view s := by
  cases allocated with
  | false => rfl
  | true =>
      let filled := fillUrb s.urbCount .bulkOut (some skb) len
        (takeSkb skb (some s.urbCount) {s with urbCount := s.urbCount+1})
      have sent : view (usbSubmitUrb s.urbCount result filled).2 = view s := view_blind.usbSubmitUrb s.urbCount result filled
      simp only [rtl8150StartXmit,if_true]
      split
      · exact sent
      · exact sent

theorem view_intrCallback (urb : Nat) (status : Int) (answer : CallbackAnswer) (s : Rtl8150.System) :
    view (intrCallback urb status answer s) = view s := by
  have reported : view (reportLink answer s) = view s := by
    by_cases quiet : answer.tsr &&& tsrErrors = 0#8
    · simp [view,reportLink,reportErrors,quiet]
    · simp [view,reportLink,reportErrors,quiet]
  unfold intrCallback
  split
  · split
    · rfl
    · exact (view_blind.usbSubmitUrb urb answer.result _).trans reported
  · split
    · rfl
    · exact view_blind.usbSubmitUrb urb answer.result s

theorem view_writeBulkCallback (status : Int) (actualLength : Nat) (s : Rtl8150.System) :
    view (writeBulkCallback status actualLength s) = view s := by
  unfold writeBulkCallback
  split
  · rfl
  · split <;> rfl

theorem view_open (answer : OpenAnswer) (s : Rtl8150.System) : view (rtl8150Open answer s) =
    {view s with rxSkb :=
      if answer.rxUrb && answer.intrUrb && answer.rxSkb then some s.rxSkbs else s.priv.rxSkb} := by
  by_cases granted : (answer.rxUrb && answer.intrUrb && answer.rxSkb) = true
  · rw [view_blind.rtl8150Open granted,if_pos granted]
    rfl
  · rw [rtl8150Open,if_neg granted,if_neg granted]
    rfl

theorem view_reschedule (answer : CallbackAnswer) (s : Rtl8150.System) : view (reschedule answer s) =
    {view s with rxSkb := if answer.rxSkb && s.priv.rxUrb.isSome then some s.rxSkbs else none} := by
  unfold reschedule
  cases answer.rxSkb with
  | false => rfl
  | true =>
      cases rx : s.priv.rxUrb with
      | none => rfl
      | some rxUrb => exact view_blind.usbSubmitUrb rxUrb answer.result _

theorem view_aside {s : System} {event : Rtl8150Receive.Event} (aside : ended s.link (.running event) = none) :
    view (Rtl8150.machine.apply s.link event.link) = view s.link := by
  cases event with
  | startXmit skb len allocated result => exact view_startXmit skb len allocated result s.link
  | completes urb status bytes => rfl
  | closes => exact view_blind.rtl8150Close s.link
  | callback urb answer bytes =>
      show view (callback urb answer s.link) = view s.link
      unfold callback
      cases finished : (s.link.urbs urb).state with
      | idle | active => rfl
      | done status actualLength =>
          cases pipe : (s.link.urbs urb).pipe with
          | bulkIn => simp [ended,finished,pipe] at aside
          | bulkOut =>
              simp only [runCallback,pipe,view_writeBulkCallback]
              rfl
          | interruptIn =>
              simp only [runCallback,pipe,view_intrCallback]
              rfl

end Views

def Holding (s : System) : Prop := ∃ skb,s.link.priv.rxSkb = some skb ∧ Ready (s.memory.skbs skb)

def Owning (s : System) : Prop := s.link = {} ∨ s.link.oopsed = true ∨ Holding s

section Ends
variable {s : System} {event : Event}

theorem ended_callback (ends : ended s.link event = some (status,actualLength)) :
    ∃ urb answer bytes,event = .running (.callback urb answer bytes) ∧ (s.link.urbs urb).pipe = .bulkIn ∧
      (s.link.urbs urb).state = .done status actualLength := by
  cases event with
  | opens answer bytes => cases ends
  | running event =>
      cases event with
      | startXmit skb len allocated result => cases ends
      | completes urb status bytes => cases ends
      | closes => cases ends
      | callback urb answer bytes =>
          refine ⟨urb,answer,bytes,rfl,?_⟩
          cases pipe : (s.link.urbs urb).pipe <;> cases finished : (s.link.urbs urb).state <;>
            simp_all [ended]

theorem ended_unique (ends : ended s.link event = some (status,actualLength))
    (same : ended s.link event = some (other,length)) : status = other ∧ actualLength = length :=
  Prod.mk.inj (Option.some.inj (ends.symm.trans same))

theorem ended_apply (ends : ended s.link event = some (status,actualLength)) : ∃ urb answer bytes,
    machine.apply s event = ⟨readBulkCallback status actualLength answer (Rtl8150Receive.given urb s.link),
      Rtl8150Receive.readBulk s.link urb status actualLength answer bytes s.memory⟩ := by
  obtain ⟨urb,answer,bytes,rfl,pipe,finished⟩ := ended_callback ends
  refine ⟨urb,answer,bytes,?_⟩
  simp only [machine,Rtl8150Receive.machine,Rtl8150Receive.Event.link,Rtl8150Receive.effect,Rtl8150.machine,callback,
    runCallback,pipe,finished]
  rfl

theorem ended_held (owning : Owning s) (allowed : machine.Allowed s event)
    (ends : ended s.link event = some (status,actualLength)) : Holding s := by
  rcases owning with fresh | oops | holding
  · obtain ⟨urb,answer,bytes,rfl,pipe,finished⟩ := ended_callback ends
    rw [fresh] at pipe
    cases pipe
  · exact absurd (oops.symm.trans allowed.1.1) Bool.noConfusion
  · exact holding

theorem reschedule_stats (answer : CallbackAnswer) (s : Rtl8150.System) :
    (reschedule answer s).priv.stats = s.priv.stats := by
  unfold reschedule
  split
  · rename_i rxUrb _ rx
    let allocated := {s with rxSkbs := s.rxSkbs+1,priv := {s.priv with rxSkb := some s.rxSkbs}}
    let filled := fillUrb rxUrb .bulkIn (some s.rxSkbs) rtl8150Mtu allocated
    exact usbSubmitUrb_unseen (f:=fun s => s.priv.stats) (s:=filled) rfl answer.result
  · rfl

theorem failure_unseen (ends : ended s.link event = some (status,actualLength)) (fails : status ≠ 0) :
    (machine.apply s event).link.netifRx = s.link.netifRx ∧
      (machine.apply s event).link.priv.stats = s.link.priv.stats := by
  obtain ⟨urb,answer,bytes,applied⟩ := ended_apply ends
  rw [applied]
  simp only [readBulkCallback,if_neg fails]
  split
  · exact ⟨rfl,rfl⟩
  · exact ⟨congrArg View.frames (view_reschedule answer _),reschedule_stats answer _⟩

theorem success_seen (ends : ended s.link event = some (0,actualLength)) (named : s.link.priv.rxSkb = some skb) :
    (machine.apply s event).link.priv.stats.rxPackets = s.link.priv.stats.rxPackets+1 ∧
      (machine.apply s event).link.priv.stats.rxBytes =
        addSigned s.link.priv.stats.rxBytes ((actualLength : Int)-4) ∧
      (machine.apply s event).link.netifRx = s.link.netifRx ++ [(skb,(actualLength : Int)-4)] := by
  obtain ⟨urb,answer,bytes,applied⟩ := ended_apply ends
  have seen := view_reschedule answer (deliver actualLength (Rtl8150Receive.given urb s.link))
  have frames : (deliver actualLength (Rtl8150Receive.given urb s.link)).netifRx =
      s.link.netifRx ++ [(skb,(actualLength : Int)-4)] := by
    have current : (Rtl8150Receive.given urb s.link).priv.rxSkb = some skb := named
    simp only [deliver,current]
    rfl
  rw [applied]
  exact ⟨congrArg View.packets seen,congrArg View.bytes seen,(congrArg View.frames seen).trans frames⟩

end Ends

section Owners
variable {s : System}

theorem opened_owning (answer : OpenAnswer) (bytes : Nat → UInt8) (s : System) :
    Owning (machine.apply s (.opens answer bytes)) := by
  have skb := congrArg View.rxSkb (view_open answer s.link)
  by_cases allocated : (answer.rxUrb && answer.intrUrb && answer.rxSkb) = true
  · have granted : answer.rxSkb = true := (Bool.and_eq_true _ _ ▸ allocated).2
    refine .inr (.inr ⟨s.link.rxSkbs,?_,?_⟩)
    · exact skb.trans (if_pos allocated)
    · simpa [machine,Rtl8150Receive.renew,granted] using receiveSkb_ready bytes
  · exact .inr (.inl (by simp only [machine,rtl8150Open,if_neg allocated]))

theorem rescheduled_owning (link : Rtl8150.System) (answer : CallbackAnswer) (bytes : Nat → UInt8) (m : Memory) :
    Owning ⟨reschedule answer link,Rtl8150Receive.renew link.priv.rxUrb link.rxSkbs answer.rxSkb bytes m⟩ := by
  have skb := congrArg View.rxSkb (view_reschedule answer link)
  by_cases allocated : (answer.rxSkb && link.priv.rxUrb.isSome) = true
  · obtain ⟨granted,some⟩ := Bool.and_eq_true _ _ ▸ allocated
    obtain ⟨rxUrb,rx⟩ := Option.isSome_iff_exists.mp some
    refine .inr (.inr ⟨link.rxSkbs,?_,?_⟩)
    · exact skb.trans (if_pos allocated)
    · simpa [Rtl8150Receive.renew,granted,rx] using receiveSkb_ready bytes
  · refine .inr (.inl ?_)
    unfold reschedule
    cases granted : answer.rxSkb with
    | false => rfl
    | true =>
        cases rx : link.priv.rxUrb with
        | none => rfl
        | some rxUrb => simp [granted,rx] at allocated

theorem ended_owning (owning : Owning s) (allowed : machine.Allowed s event)
    (ends : ended s.link event = some (status,actualLength)) : Owning (machine.apply s event) := by
  obtain ⟨skb,named,ready⟩ := ended_held owning allowed ends
  obtain ⟨urb,answer,bytes,applied⟩ := ended_apply ends
  rw [applied]
  unfold readBulkCallback Rtl8150Receive.readBulk
  split
  · exact rescheduled_owning (deliver actualLength (Rtl8150Receive.given urb s.link)) answer bytes _
  · split
    · exact .inr (.inr ⟨skb,named,ready⟩)
    · exact rescheduled_owning (Rtl8150Receive.given urb s.link) answer bytes _

theorem effect_ready {event : Rtl8150Receive.Event} (aside : ended s.link (.running event) = none)
    (ready : Ready (s.memory.skbs skb)) : Ready ((Rtl8150Receive.effect s.link event s.memory).skbs skb) := by
  cases event with
  | startXmit other len allocated result => exact ready
  | closes => exact ready
  | callback urb answer bytes =>
      have unread : Rtl8150Receive.effect s.link (.callback urb answer bytes) s.memory = s.memory := by
        cases pipe : (s.link.urbs urb).pipe <;> cases finished : (s.link.urbs urb).state <;>
          simp_all [ended,Rtl8150Receive.effect]
      exact unread.symm ▸ ready
  | completes urb status bytes =>
      simp only [Rtl8150Receive.effect]
      split
      · unfold Rtl8150Receive.transfer
        split
        · rename_i target _
          by_cases same : skb = target
          · subst target
            simpa using ⟨ready.size,ready.data,ready.len⟩
          · simpa [same] using ready
        · exact ready
      · exact ready

theorem apply_owning (owning : Owning s) (allowed : machine.Allowed s event) : Owning (machine.apply s event) := by
  cases ends : ended s.link event with
  | some transfer => exact ended_owning owning allowed ends
  | none =>
      cases event with
      | opens answer bytes => exact opened_owning answer bytes s
      | running event =>
          rcases owning with fresh | oops | ⟨skb,named,ready⟩
          · have admitted := allowed.1
            rw [fresh] at admitted
            cases event <;> simp [Rtl8150.machine,Event.link,Rtl8150Receive.Event.link,isDone] at admitted
          · exact absurd (oops.symm.trans allowed.1.1) Bool.noConfusion
          · have seen := congrArg View.rxSkb (view_aside ends)
            exact .inr (.inr ⟨skb,seen.trans named,effect_ready ends ready⟩)

end Owners

structure Account (s : System) : Prop where
  packets : s.link.priv.stats.rxPackets = s.link.netifRx.length
  bytes : (s.link.priv.stats.rxBytes : Int) = payload s
  packetsFit : s.link.priv.stats.rxPackets < 0x10000000000000000
  bytesFit : s.link.priv.stats.rxBytes < 0x10000000000000000

def Sound (s : System) : Prop := Owning s ∧ Account s

section Exactness
variable {audited : Int → Prop} {s after : System} {event : Event}

theorem Account.unchanged (account : Account s) (frames : after.link.netifRx = s.link.netifRx)
    (packets : after.link.priv.stats.rxPackets = s.link.priv.stats.rxPackets)
    (bytes : after.link.priv.stats.rxBytes = s.link.priv.stats.rxBytes) : Account after := by
  refine ⟨?_,?_,?_,?_⟩
  · rw [packets,frames,account.packets]
  · rw [bytes,payload,frames,account.bytes]; rfl
  · exact packets ▸ account.packetsFit
  · exact bytes ▸ account.bytesFit

theorem Account.counted (account : Account s) : Counted s :=
  ⟨(Nat.mod_eq_of_lt account.packetsFit).trans account.packets,
    (congrArg Nat.cast (Nat.mod_eq_of_lt account.bytesFit)).trans account.bytes⟩

theorem aside_unchanged (aside : ended s.link event = none) :
    (machine.apply s event).link.netifRx = s.link.netifRx ∧
      (machine.apply s event).link.priv.stats.rxPackets = s.link.priv.stats.rxPackets ∧
      (machine.apply s event).link.priv.stats.rxBytes = s.link.priv.stats.rxBytes := by
  cases event with
  | opens answer bytes =>
      have seen := view_open answer s.link
      exact ⟨congrArg View.frames seen,congrArg View.packets seen,congrArg View.bytes seen⟩
  | running event =>
      have seen := view_aside aside
      exact ⟨congrArg View.frames seen,congrArg View.packets seen,congrArg View.bytes seen⟩

theorem growing_unchanged (packets : after.link.priv.stats.rxPackets = s.link.priv.stats.rxPackets)
    (bytes : after.link.priv.stats.rxBytes = s.link.priv.stats.rxBytes) : Growing s after :=
  ⟨Nat.le_of_eq (congrArg unsignedLong packets.symm),Nat.le_of_eq (congrArg unsignedLong bytes.symm)⟩

theorem payload_append (frames : after.link.netifRx = s.link.netifRx ++ [(skb,length)]) :
    payload after = payload s+length := by simp [payload,frames]

theorem copes_aside (sound : Sound s) (aside : ended s.link event = none) : Copes audited s event := by
  obtain ⟨frames,packets,bytes⟩ := aside_unchanged aside
  refine ⟨?_,?_,(sound.2.unchanged frames packets bytes).counted,growing_unchanged packets bytes⟩
  · intro pktLen tailroom put
    simp [putArguments,aside] at put
  · rintro ⟨status,actualLength,ends,_⟩
    rw [aside] at ends
    cases ends

theorem proper_aside (aside : ended s.link event = none) : Proper audited s event := by
  refine ⟨?_,?_,?_⟩ <;> simp [aside]

-- A transfer that failed is not delivered, whatever its length, but a short one
-- is not counted either.
theorem failure_exact (sound : Sound s) (ends : ended s.link event = some (status,actualLength)) (fails : status ≠ 0) :
    Copes audited s event ↔ Proper audited s event := by
  obtain ⟨frames,stats⟩ := failure_unseen ends fails
  constructor
  · intro copes
    refine ⟨?_,?_,?_⟩
    · intro other length same due
      obtain ⟨rfl,rfl⟩ := ended_unique ends same
      by_contra short
      exact (copes.discards ⟨status,actualLength,ends,due,by omega⟩).2 stats
    · intro length same
      exact absurd (ended_unique ends same).1 fails
    · intro length same
      exact absurd (ended_unique ends same).1 fails
  · intro proper
    have packets := congrArg NetDeviceStats.rxPackets stats
    have bytes := congrArg NetDeviceStats.rxBytes stats
    refine ⟨?_,?_,(sound.2.unchanged frames packets bytes).counted,growing_unchanged packets bytes⟩
    · intro pktLen tailroom put
      unfold putArguments at put
      split at put
      · rename_i same _
        exact absurd (ended_unique ends same).1 fails
      · cases put
    · rintro ⟨other,length,same,due,short⟩
      exact absurd (proper.long other length same due) (by omega)

theorem success_account (sound : Sound s) (ends : ended s.link event = some (0,actualLength))
    (named : s.link.priv.rxSkb = some skb) (proper : Proper audited s event) : Account (machine.apply s event) := by
  obtain ⟨packets,bytes,frames⟩ := success_seen ends named
  obtain ⟨_,account⟩ := sound
  have long := proper.long 0 actualLength ends (.inl rfl)
  have fewer := proper.packets actualLength ends
  have less := proper.bytes actualLength ends
  have total := payload_append frames
  have before := account.bytes
  have sum : addSigned s.link.priv.stats.rxBytes ((actualLength : Int)-4) =
      s.link.priv.stats.rxBytes+(actualLength-4) := by
    unfold addSigned
    omega
  refine ⟨?_,?_,?_,?_⟩
  · rw [packets,frames,account.packets,List.length_append,List.length_singleton]
  · rw [bytes,sum,total]
    omega
  · exact packets.symm ▸ fewer
  · rw [bytes,sum]
    exact less

theorem success_growing (ends : ended s.link event = some (0,actualLength)) (named : s.link.priv.rxSkb = some skb)
    (proper : Proper audited s event) : Growing s (machine.apply s event) := by
  obtain ⟨packets,bytes,_⟩ := success_seen ends named
  have long := proper.long 0 actualLength ends (.inl rfl)
  have more := proper.packets actualLength ends
  have less := proper.bytes actualLength ends
  refine ⟨?_,?_⟩
  · rw [packets]
    simp only [unsignedLong]
    omega
  · rw [bytes]
    simp only [unsignedLong,addSigned]
    omega

theorem success_put (ends : ended s.link event = some (0,actualLength)) (named : s.link.priv.rxSkb = some skb) :
    putArguments s event = some ((actualLength : Int)-4,skbTailroom (s.memory.skbs skb)) := by
  simp only [putArguments,ends,named]

theorem success_copes (sound : Sound s) (allowed : machine.Allowed s event)
    (ends : ended s.link event = some (0,actualLength)) (proper : Proper audited s event) : Copes audited s event := by
  obtain ⟨skb,named,ready⟩ := ended_held sound.1 allowed ends
  have long := proper.long 0 actualLength ends (.inl rfl)
  have most : actualLength ≤ rtl8150Mtu := allowed.2 (0,actualLength) ends
  have account := success_account sound ends named proper
  refine ⟨?_,?_,account.counted,success_growing ends named proper⟩
  · intro pktLen tailroom same
    rw [success_put ends named] at same
    obtain ⟨rfl,rfl⟩ := Prod.mk.inj (Option.some.inj same)
    rw [ready.tailroom]
    omega
  · rintro ⟨other,length,same,due,short⟩
    exact absurd (proper.long other length same due) (by omega)

theorem success_proper (sound : Sound s) (allowed : machine.Allowed s event)
    (ends : ended s.link event = some (0,actualLength)) (copes : Copes audited s event) : Proper audited s event := by
  obtain ⟨skb,named,_⟩ := ended_held sound.1 allowed ends
  obtain ⟨packets,bytes,frames⟩ := success_seen ends named
  have account := sound.2
  have least := (copes.puts _ _ (success_put ends named)).1
  have counted := copes.counted.packets
  have summed := copes.counted.bytes
  rw [packets,frames,List.length_append,List.length_singleton,← account.packets] at counted
  rw [bytes,payload_append frames,← account.bytes] at summed
  simp only [unsignedLong,addSigned] at counted summed
  refine ⟨?_,?_,?_⟩
  · intro other length same _
    obtain ⟨rfl,rfl⟩ := ended_unique ends same
    omega
  · intro length _
    omega
  · intro length same
    obtain ⟨_,rfl⟩ := ended_unique ends same
    omega

theorem copes_exact (s : System) (event : Event) (sound : Sound s) (allowed : machine.Allowed s event) :
    Copes audited s event ↔ Proper audited s event := by
  cases ends : ended s.link event with
  | none => exact iff_of_true (copes_aside sound ends) (proper_aside ends)
  | some transfer =>
      obtain ⟨status,actualLength⟩ := transfer
      by_cases success : status = 0
      · subst success
        exact ⟨success_proper sound allowed ends,success_copes sound allowed ends⟩
      · exact failure_exact sound ends success

theorem apply_sound (s : System) (event : Event) (sound : Sound s) (allowed : machine.Allowed s event)
    (proper : Proper audited s event) : Sound (machine.apply s event) := by
  refine ⟨apply_owning sound.1 allowed,?_⟩
  cases ends : ended s.link event with
  | none =>
      obtain ⟨frames,packets,bytes⟩ := aside_unchanged ends
      exact sound.2.unchanged frames packets bytes
  | some transfer =>
      obtain ⟨status,actualLength⟩ := transfer
      by_cases success : status = 0
      · subst success
        obtain ⟨skb,named,_⟩ := ended_held sound.1 allowed ends
        exact success_account sound ends named proper
      · obtain ⟨frames,stats⟩ := failure_unseen ends success
        exact sound.2.unchanged frames (congrArg NetDeviceStats.rxPackets stats) (congrArg NetDeviceStats.rxBytes stats)

theorem probed_sound : Sound probed := ⟨.inl rfl,⟨rfl,rfl,by decide,by decide⟩⟩

end Exactness

theorem receive_copes_iff (audited : Int → Prop) (events : List Event) (path : machine.Runs probed events) :
    machine.Along (Copes audited) probed events ↔ machine.Along (Proper audited) probed events :=
  Machine.along_exact copes_exact apply_sound probed_sound path

def transfers : List Event :=
  [.opens {} fun _ => 0,.running (.completes 0 0 [1,2,3,4,5,6,7,8]),.running (.callback 0 {} fun _ => 0),
    .running (.completes 0 (-32) []),.running (.callback 0 {} fun _ => 0),
    .running (.completes 0 0 []),.running (.callback 0 {} fun _ => 0)]

theorem receive_copes_transfers : machine.Along (Copes fun _ => False) probed (transfers.take 5) ∧
    ¬ machine.Along (Copes fun _ => False) probed transfers := by
  constructor
  · refine (receive_copes_iff _ (transfers.take 5) (by decide +kernel)).mpr
      ⟨proper_aside rfl,proper_aside rfl,?_,proper_aside rfl,?_,trivial⟩
    · refine ⟨?_,?_,?_⟩
      · rintro status actualLength ends -
        cases ends
        decide
      · intro actualLength ends
        cases ends
        decide +kernel
      · intro actualLength ends
        cases ends
        decide +kernel
    · refine ⟨?_,?_,?_⟩
      · rintro status actualLength ends (success | none)
        · cases ends
          cases success
        · exact none.elim
      · intro actualLength ends
        cases ends
      · intro actualLength ends
        cases ends
  · intro copes
    have proper := ((receive_copes_iff _ transfers (by decide +kernel)).mp copes).2.2.2.2.2.2.1
    exact absurd (proper.long 0 0 rfl (.inl rfl)) (by decide)

def twoBytes : List Event :=
  [.opens {} fun _ => 0,.running (.completes 0 0 [1,2]),.running (.callback 0 {} fun _ => 0)]

theorem two_bytes_put : machine.Runs probed twoBytes ∧ ¬ machine.Along (Copes fun _ => False) probed twoBytes := by
  refine ⟨by decide +kernel,fun copes => ?_⟩
  have negative := (copes.2.2.1.puts (-2) 1540 rfl).1
  exact absurd negative (by decide)

end LinuxDeviceDrivers.Rtl8150ShortTransfers
