import LinuxDeviceDrivers.Rtl8150Transmit

namespace LinuxDeviceDrivers.Rtl8150Frames
open Transition Rtl8150 Rtl8150Transmit

-- At most one bulk OUT URB is in flight, and the driver's fields denote it.
structure OneFrame (t : Transmit) : Prop where
  single : ∀ first second,t.outgoing first ≠ none → t.outgoing second ≠ none → first = second
  denoted : ∀ urb buffer,t.outgoing urb = some buffer → t.txUrb = some urb ∧ t.txSkb = buffer

-- start_xmit is called while no bulk OUT URB, of whichever session, is in flight.
def Alone (t : Transmit) : Action → Prop
  | .submits _ _ | .refuses _ _ => ∀ urb,t.outgoing urb = none
  | _ => True

def Succeeds : Action → Prop
  | .finishes _ status => status = 0
  | _ => True

-- write_bulk_callback frees the frame its URB carried, and nothing else.
def FreesOwn (t : Transmit) : Action → Prop
  | .finishes urb status => ∀ buffer,t.outgoing urb = some buffer →
      (t.after (.finishes urb status)).freed = t.freed ++ buffer.toList
  | _ => True

structure Coherent (t : Transmit) : Prop extends OneFrame t where
  whole : ∀ urb buffer,t.outgoing urb = some buffer → buffer ≠ none

section Ownership
variable {t : Transmit}

theorem OneFrame.of_denoted (denoted : ∀ urb buffer,t.outgoing urb = some buffer → t.txUrb = some urb ∧ t.txSkb = buffer) :
    OneFrame t := by
  refine ⟨?_,denoted⟩
  intro first second one other
  obtain ⟨buffer,carries⟩ := Option.ne_none_iff_exists'.mp one
  obtain ⟨frame,holds⟩ := Option.ne_none_iff_exists'.mp other
  exact Option.some.inj ((denoted first buffer carries).1.symm.trans (denoted second frame holds).1)

theorem finishes_outgoing {urb other : Nat} {buffer : Option Nat}
    (flying : Function.update t.outgoing urb none other = some buffer) : other ≠ urb ∧ t.outgoing other = some buffer := by
  by_cases same : other = urb
  · simp [same] at flying
  · exact ⟨same,by simpa [same] using flying⟩

theorem after_coherent (coherent : Coherent t) (action : Action) (alone : Alone t action) :
    Coherent (t.after action) := by
  cases action with
  | aside => exact coherent
  | opens succeeds => exact ⟨⟨coherent.single,coherent.denoted⟩,coherent.whole⟩
  | submits urb skb =>
      have only : ∀ other buffer,Function.update t.outgoing urb (some (some skb)) other = some buffer →
          other = urb ∧ buffer = some skb := by
        intro other buffer flying
        by_cases same : other = urb
        · exact ⟨same,by simpa [same] using flying.symm⟩
        · simp [same,alone other] at flying
      refine ⟨OneFrame.of_denoted ?_,?_⟩
      · intro other buffer flying
        obtain ⟨rfl,rfl⟩ := only other buffer flying
        exact ⟨rfl,rfl⟩
      · intro other buffer flying
        simp [(only other buffer flying).2]
  | refuses urb skb =>
      refine ⟨OneFrame.of_denoted ?_,?_⟩
      · intro other buffer flying
        simp [Transmit.after,alone other] at flying
      · intro other buffer flying
        simp [Transmit.after,alone other] at flying
  | finishes urb status =>
      refine ⟨OneFrame.of_denoted ?_,?_⟩
      · intro other buffer flying
        exact coherent.denoted other buffer (finishes_outgoing flying).2
      · intro other buffer flying
        exact coherent.whole other buffer (finishes_outgoing flying).2
  | closes => exact ⟨⟨coherent.single,coherent.denoted⟩,coherent.whole⟩

theorem alone_exact (coherent : Coherent t) (action : Action) (allowed : Transmit.machine.Allowed t action) :
    Alone t action ↔ OneFrame (t.after action) := by
  constructor
  · intro alone
    exact (after_coherent coherent action alone).toOneFrame
  · intro one
    cases action with
    | submits urb skb =>
        intro other
        by_contra flying
        have different : other ≠ urb := fun same => flying (same ▸ allowed.2.2.2)
        have equal := one.single other urb (by simpa [Transmit.after,different] using flying) (by simp [Transmit.after])
        exact different equal
    | refuses urb skb =>
        intro other
        by_contra flying
        obtain ⟨buffer,carries⟩ := Option.ne_none_iff_exists'.mp flying
        have denoted : urb = some other := (one.denoted other buffer carries).1
        exact flying (allowed.2.2.2 other denoted)
    | _ => trivial

theorem succeeds_exact (coherent : Coherent t) (action : Action) (allowed : Transmit.machine.Allowed t action) :
    Succeeds action ↔ FreesOwn t action := by
  cases action with
  | finishes urb status =>
      obtain ⟨buffer,carries⟩ := Option.ne_none_iff_exists'.mp allowed
      have own := (coherent.denoted urb buffer carries).2
      constructor
      · intro success frame holds
        obtain rfl : buffer = frame := Option.some.inj (carries.symm.trans holds)
        simp [Transmit.after,show status = 0 from success,own]
      · intro frees
        by_contra failed
        have none := frees buffer carries
        obtain ⟨skb,rfl⟩ := Option.ne_none_iff_exists'.mp (coherent.whole urb buffer carries)
        simp [Transmit.after,show ¬ status = 0 from failed] at none
  | _ => exact iff_of_true trivial trivial

end Ownership

section Driver
variable {s : System}

def SendsAlone (s : System) : Event → Prop
  | .startXmit _ _ _ _ => ∀ urb,(transmit s).outgoing urb = none
  | _ => True

def CompletesWell (s : System) : Event → Prop
  | .callback urb _ => (transmit s).outgoing urb ≠ none →
      ∀ status actualLength,(s.urbs urb).state = .done status actualLength → status = 0
  | _ => True

def FreesItsFrame (s : System) : Event → Prop
  | .callback urb answer => ∀ buffer,(transmit s).outgoing urb = some buffer →
      (callback urb answer s).freed = s.freed ++ buffer.toList
  | _ => True

theorem startXmit_iff {p : Prop} (q : Action → Prop) {skb len : Nat} {allocated : Bool} {result : Int}
    (refused : ∀ urb,p ↔ q (.refuses urb skb)) (submitted : p ↔ q (.submits s.urbCount skb)) :
    p ↔ q (action s (.startXmit skb len allocated result)) := by
  obtain ⟨urb,refuses⟩ | submits := action_startXmit s skb len allocated result
  · rw [refuses]
    exact refused urb
  · rw [submits]
    exact submitted

theorem callback_iff {p : Prop} (q : Action → Prop) {index : Nat} {answer : CallbackAnswer}
    (allowed : machine.Allowed s (.callback index answer))
    (finished : ∀ status actualLength,(s.urbs index).state = .done status actualLength →
      (transmit s).outgoing index ≠ none → (p ↔ q (.finishes index status)))
    (unsent : (transmit s).outgoing index = none → (p ↔ q .aside)) : p ↔ q (action s (.callback index answer)) := by
  obtain ⟨status,actualLength,done⟩ := isDone_iff.mp allowed.2
  obtain ⟨flying,finishes⟩ | ⟨idle,aside⟩ := action_callback answer done
  · rw [finishes]
    exact finished status actualLength done flying
  · rw [aside]
    exact unsent idle

theorem sendsAlone_iff (s : System) (event : Event) (allowed : machine.Allowed s event) :
    SendsAlone s event ↔ Alone (transmit s) (action s event) := by
  cases event with
  | startXmit skb len allocated result => exact startXmit_iff (Alone (transmit s)) (fun _ => .rfl) .rfl
  | callback urb answer => exact callback_iff (Alone (transmit s)) allowed (fun _ _ _ _ => .rfl) fun _ => .rfl
  | _ => rfl

theorem completesWell_iff (s : System) (event : Event) (allowed : machine.Allowed s event) :
    CompletesWell s event ↔ Succeeds (action s event) := by
  cases event with
  | startXmit skb len allocated result => exact startXmit_iff Succeeds (fun _ => .rfl) .rfl
  | callback urb answer =>
      apply callback_iff Succeeds allowed
      · intro status actualLength finished flying
        simp [CompletesWell,Succeeds,flying,finished]
      · intro idle
        exact iff_of_true (fun flying => absurd idle flying) trivial
  | _ => rfl

theorem freesItsFrame_iff (wellformed : Wellformed s) (event : Event) (allowed : machine.Allowed s event) :
    FreesItsFrame s event ↔ FreesOwn (transmit s) (action s event) := by
  cases event with
  | startXmit skb len allocated result => exact startXmit_iff (FreesOwn (transmit s)) (fun _ => .rfl) .rfl
  | callback urb answer =>
      have freed : (callback urb answer s).freed = ((transmit s).after (action s (.callback urb answer))).freed :=
        congrArg Transmit.freed (apply_transmit wellformed (.callback urb answer) allowed)
      obtain ⟨status,actualLength,finished⟩ := isDone_iff.mp allowed.2
      obtain ⟨_,finishes⟩ | ⟨idle,aside⟩ := action_callback answer finished
      · rw [FreesItsFrame,freed,finishes]
        rfl
      · rw [aside]
        refine iff_of_true ?_ trivial
        intro buffer flying
        simp [idle] at flying
  | _ => rfl

structure Sound (s : System) : Prop where
  wellformed : Wellformed s
  coherent : Coherent (transmit s)

theorem probed_sound : Sound {} := by
  refine ⟨probed_wellformed,⟨OneFrame.of_denoted ?_,?_⟩⟩ <;> simp [transmit,carried]

theorem apply_sound (s : System) (event : Event) (sound : Sound s) (allowed : machine.Allowed s event)
    (alone : SendsAlone s event) : Sound (machine.apply s event) := by
  refine ⟨apply_wellformed s event sound.wellformed allowed,?_⟩
  rw [apply_transmit sound.wellformed event allowed]
  exact after_coherent sound.coherent _ ((sendsAlone_iff s event allowed).mp alone)

theorem sendsAlone_exact (s : System) (event : Event) (sound : Sound s) (allowed : machine.Allowed s event) :
    SendsAlone s event ↔ OneFrame (transmit (machine.apply s event)) := by
  rw [sendsAlone_iff s event allowed,apply_transmit sound.wellformed event allowed]
  exact alone_exact sound.coherent _ (action_allowed sound.wellformed event allowed)

theorem completesWell_exact (s : System) (event : Event) (sound : Sound s) (allowed : machine.Allowed s event) :
    CompletesWell s event ↔ FreesItsFrame s event := by
  rw [completesWell_iff s event allowed,freesItsFrame_iff sound.wellformed event allowed]
  exact succeeds_exact sound.coherent _ (action_allowed sound.wellformed event allowed)

theorem own_frame_iff (events : List Event) (path : machine.Runs {} events) :
    (machine.Throughout (fun s => OneFrame (transmit s)) {} events ↔ machine.Along SendsAlone {} events) ∧
    (machine.Throughout (fun s => OneFrame (transmit s)) {} events ∧ machine.Along FreesItsFrame {} events ↔
      machine.Along SendsAlone {} events ∧ machine.Along CompletesWell {} events) := by
  have exactly := machine.throughout_exact (fun s (sound : Sound s) => sound.coherent.toOneFrame) sendsAlone_exact
    apply_sound probed_sound path
  refine ⟨exactly,?_⟩
  rw [exactly]
  refine and_congr_right fun alone => ?_
  refine Machine.along_congr (fun s event (sound : Sound s) admitted => ?_) (fun s event sound admitted => ?_) probed_sound
    (Machine.along_and.mpr ⟨path,alone⟩)
  · exact (completesWell_exact s event sound admitted.1).symm
  · exact apply_sound s event sound admitted.1 admitted.2

def overlapping : List Event :=
  [.opens {},.startXmit 1 100 true 0,.completes 2 0 100,.closes,.closes,.closes,.closes,.closes,.opens {},
    .startXmit 2 60 true 0]
def lateCallback : List Event := overlapping ++ [.callback 2 {}]

theorem late_callback_frees_other : machine.Runs {} lateCallback ∧
    ¬ machine.Throughout (fun s => OneFrame (transmit s)) {} lateCallback ∧
    ¬ machine.Along FreesItsFrame {} lateCallback := by
  refine ⟨by decide +kernel,?_,?_⟩
  · intro all
    have one := all.2.2.2.2.2.2.2.2.2.2.1
    exact absurd (one.single 2 5 (by decide +kernel) (by decide +kernel)) (by decide)
  · intro along
    have frees := (Machine.along_append.mp along).2.1 (some 1) (by decide +kernel)
    exact absurd frees (by decide +kernel)

theorem own_frame_overlapping : ¬ machine.Throughout (fun s => OneFrame (transmit s)) {} overlapping := by
  intro one
  obtain ⟨_,_,_,_,_,_,_,_,_,alone,_⟩ := (own_frame_iff overlapping (by decide +kernel)).1.mp one
  exact absurd (alone 2) (by decide +kernel)

end Driver

def Carried (t : Transmit) (skb : Nat) : Prop := ∃ urb,t.outgoing urb = some (some skb)

structure Released (t : Transmit) : Prop where
  settled : ∀ skb ∈ t.handed,t.freed.count skb = 1 ∧ ¬ Carried t skb ∨ t.freed.count skb = 0 ∧ Carried t skb
  own : ∀ skb ∈ t.freed,skb ∈ t.handed

def Conserves : Action → Prop
  | .refuses _ _ => False
  | .finishes _ status => status = 0
  | _ => True

-- Within one session the queue runs only while nothing is in flight.
structure Sending (t : Transmit) : Prop extends Coherent t,Released t where
  known : ∀ urb skb,t.outgoing urb = some (some skb) → skb ∈ t.handed
  quiet : t.up = true → t.stopped = false → ∀ urb,t.outgoing urb = none

section Conservation
variable {t : Transmit}

theorem Sending.finishing (sending : Sending t) (flying : t.outgoing urb ≠ none) :
    ∃ skb,t.outgoing urb = some (some skb) ∧ t.txSkb = some skb ∧ t.freed.count skb = 0 ∧
      ∀ other,t.outgoing other ≠ none → other = urb := by
  obtain ⟨buffer,carries⟩ := Option.ne_none_iff_exists'.mp flying
  obtain ⟨skb,rfl⟩ := Option.ne_none_iff_exists'.mp (sending.whole urb buffer carries)
  refine ⟨skb,carries,(sending.denoted urb _ carries).2,?_,fun other busy => sending.single other urb busy flying⟩
  cases sending.settled skb (sending.known urb skb carries) with
  | inl released => exact absurd ⟨urb,carries⟩ released.2
  | inr held => exact held.1

theorem Sending.unfreed (sending : Sending t) (new : skb ∉ t.handed) : t.freed.count skb = 0 :=
  List.count_eq_zero.mpr fun freed => new (sending.own skb freed)

theorem submits_sending (sending : Sending t) (urb skb : Nat)
    (allowed : Transmit.machine.Allowed t (.submits urb skb)) : Sending (t.after (.submits urb skb)) := by
  obtain ⟨up,running,new,_⟩ := allowed
  have alone := sending.quiet up running
  have coherent := after_coherent sending.toCoherent (.submits urb skb) alone
  have only : ∀ other,Carried (t.after (.submits urb skb)) other ↔ other = skb := by
    intro other
    constructor
    · intro carried
      obtain ⟨index,carries⟩ := carried
      by_cases same : index = urb
      · simpa [Transmit.after,same] using carries.symm
      · simp [Transmit.after,same,alone index] at carries
    · intro same
      exact ⟨urb,by simp [Transmit.after,same]⟩
  refine ⟨coherent,⟨?_,?_⟩,?_,?_⟩
  · intro other member
    cases List.mem_append.mp member with
    | inl older =>
        have different : other ≠ skb := fun same => new (same ▸ older)
        cases sending.settled other older with
        | inl released => exact .inl ⟨released.1,mt (only other).mp different⟩
        | inr held =>
            obtain ⟨index,carries⟩ := held.2
            simp [alone index] at carries
    | inr newest =>
        obtain rfl := List.mem_singleton.mp newest
        exact .inr ⟨sending.unfreed new,(only other).mpr rfl⟩
  · intro other freed
    exact List.mem_append_left _ (sending.own other freed)
  · intro index other carries
    have same := (only other).mp ⟨index,carries⟩
    exact List.mem_append_right _ (List.mem_singleton.mpr same)
  · intro _ running
    cases running

theorem finishes_sending (sending : Sending t) (urb : Nat) (flying : t.outgoing urb ≠ none) :
    Sending (t.after (.finishes urb 0)) := by
  obtain ⟨skb,carries,denoted,count,single⟩ := sending.finishing flying
  have coherent := after_coherent sending.toCoherent (.finishes urb 0) trivial
  have idle : ∀ index,(t.after (.finishes urb 0)).outgoing index = none := by
    intro index
    by_contra busy
    obtain ⟨buffer,other⟩ := Option.ne_none_iff_exists'.mp busy
    obtain ⟨different,before⟩ := finishes_outgoing other
    exact different (single index (by simp [before]))
  have freed : (t.after (.finishes urb 0)).freed = t.freed ++ [skb] := by simp [Transmit.after,denoted]
  refine ⟨coherent,⟨?_,?_⟩,?_,fun _ _ => idle⟩
  · intro other member
    left
    refine ⟨?_,fun carried => by obtain ⟨index,holds⟩ := carried; simp [idle index] at holds⟩
    rw [freed,List.count_append,List.count_singleton]
    by_cases same : other = skb
    · simp [same,count]
    · cases sending.settled other member with
      | inl released => simp [released.1,Ne.symm same]
      | inr held =>
          obtain ⟨index,holds⟩ := held.2
          obtain rfl := single index (by simp [holds])
          rw [carries] at holds
          exact absurd (Option.some.inj (Option.some.inj holds)).symm same
  · intro other member
    rw [freed] at member
    cases List.mem_append.mp member with
    | inl older => exact sending.own other older
    | inr newest => exact List.mem_singleton.mp newest ▸ sending.known urb skb carries
  · intro index other holds
    simp [idle index] at holds

theorem after_sending (sending : Sending t) (action : Action) (allowed : Transmit.machine.Allowed t action)
    (session : ∀ succeeds,action ≠ .opens succeeds) (conserves : Conserves action) : Sending (t.after action) := by
  cases action with
  | aside => exact sending
  | opens succeeds => exact absurd rfl (session succeeds)
  | submits urb skb => exact submits_sending sending urb skb allowed
  | refuses urb skb => exact conserves.elim
  | finishes urb status =>
      obtain rfl : status = 0 := conserves
      exact finishes_sending sending urb allowed
  | closes =>
      refine ⟨⟨⟨sending.single,sending.denoted⟩,sending.whole⟩,⟨sending.settled,sending.own⟩,sending.known,?_⟩
      intro up
      cases up

theorem conserves_exact (sending : Sending t) (action : Action) (allowed : Transmit.machine.Allowed t action)
    (session : ∀ succeeds,action ≠ .opens succeeds) : Conserves action ↔ Released (t.after action) := by
  constructor
  · intro conserves
    exact (after_sending sending action allowed session conserves).toReleased
  · intro released
    cases action with
    | refuses urb skb =>
        obtain ⟨up,running,new,_⟩ := allowed
        cases released.settled skb (List.mem_append_right _ (List.mem_singleton.mpr rfl)) with
        | inl freed =>
            have unfreed : t.freed.count skb = 1 := freed.1
            simp [sending.unfreed new] at unfreed
        | inr held =>
            obtain ⟨index,carries⟩ := held.2
            simp [Transmit.after,sending.quiet up running index] at carries
    | finishes urb status =>
        by_contra failed
        obtain ⟨skb,carries,_,count,single⟩ := sending.finishing allowed
        have kept : (t.after (.finishes urb status)).freed = t.freed := by
          simp [Transmit.after,show ¬ status = 0 from failed]
        cases released.settled skb (sending.known urb skb carries) with
        | inl freed => simp [kept,count] at freed
        | inr held =>
            obtain ⟨index,holds⟩ := held.2
            obtain ⟨different,before⟩ := finishes_outgoing holds
            exact different (single index (by simp [before]))
    | _ => trivial

end Conservation

section Session
variable {s : System}

def Keeps (s : System) : Event → Prop
  | .startXmit _ _ allocated result => allocated = true ∧ ¬ result < 0
  | .callback urb answer => CompletesWell s (.callback urb answer)
  | _ => True

theorem keeps_iff (s : System) (event : Event) (allowed : machine.Allowed s event) :
    Keeps s event ↔ Conserves (action s event) := by
  cases event with
  | startXmit skb len allocated result =>
      cases allocated with
      | false => simp [Keeps,action,Conserves]
      | true =>
          by_cases refused : result < 0
          · simp [Keeps,action,Conserves,refused]
          · simp [Keeps,action,Conserves,refused]
  | callback urb answer =>
      rw [Keeps,completesWell_iff s (.callback urb answer) allowed]
      obtain ⟨status,actualLength,finished⟩ := isDone_iff.mp allowed.2
      obtain ⟨_,finishes⟩ | ⟨_,aside⟩ := action_callback answer finished
      · rw [finishes]
        rfl
      · rw [aside]
        rfl
  | _ => exact iff_of_true trivial trivial

structure InSession (s : System) : Prop where
  wellformed : Wellformed s
  sending : Sending (transmit s)

theorem opened_inSession (answer : OpenAnswer) : InSession (rtl8150Open answer {}) := by
  refine ⟨rtl8150Open_wellformed probed_wellformed answer,?_⟩
  rw [transmit_rtl8150Open probed_wellformed answer (.inl rfl)]
  refine ⟨⟨OneFrame.of_denoted ?_,?_⟩,⟨?_,?_⟩,?_,?_⟩ <;> simp [transmit,carried,Transmit.after]

theorem action_session (session : ∀ answer,event ≠ .opens answer) (succeeds : Bool) :
    action s event ≠ .opens succeeds := by
  cases event with
  | opens answer => exact absurd rfl (session answer)
  | startXmit skb len allocated result =>
      obtain ⟨urb,refuses⟩ | submits := action_startXmit s skb len allocated result
      · simp [refuses]
      · simp [submits]
  | callback urb answer =>
      simp only [action]
      split <;> simp
  | completes urb status actualLength => simp [action]
  | closes => simp [action]

theorem keeps_exact (inSession : InSession s) (event : Event) (allowed : machine.Allowed s event)
    (session : ∀ again,event ≠ .opens again) : Keeps s event ↔ Released (transmit (machine.apply s event)) := by
  rw [keeps_iff s event allowed,apply_transmit inSession.wellformed event allowed]
  exact conserves_exact inSession.sending _ (action_allowed inSession.wellformed event allowed) (action_session session)

theorem released_iff (answer : OpenAnswer) (events : List Event) (session : ∀ event ∈ events,∀ again,event ≠ .opens again)
    (path : machine.Runs (rtl8150Open answer {}) events) :
    machine.Throughout (fun s => Released (transmit s)) (rtl8150Open answer {}) events ↔
      machine.Along Keeps (rtl8150Open answer {}) events := by
  refine machine.throughout_exact (fun s (inSession : InSession s) => inSession.sending.toReleased) ?_ ?_
    (opened_inSession answer) (Machine.along_and.mpr ⟨path,machine.along_of_mem _ events session⟩)
  · intro s event inSession allowed
    exact keeps_exact inSession event allowed.1 allowed.2
  · intro s event inSession allowed keeps
    refine ⟨apply_wellformed s event inSession.wellformed allowed.1,?_⟩
    rw [apply_transmit inSession.wellformed event allowed.1]
    exact after_sending inSession.sending _ (action_allowed inSession.wellformed event allowed.1)
      (action_session allowed.2) ((keeps_iff s event allowed.1).mp keeps)

def refusedFrame : List Event := [.startXmit 1 100 true (-12)]

theorem refused_frame_leaks : machine.Runs (rtl8150Open {} {}) refusedFrame ∧
    ¬ machine.Throughout (fun s => Released (transmit s)) (rtl8150Open {} {}) refusedFrame := by
  have path : machine.Runs (rtl8150Open {} {}) refusedFrame := by decide +kernel
  refine ⟨path,?_⟩
  intro all
  have accepted := (keeps_exact (opened_inSession {}) (.startXmit 1 100 true (-12)) path.1 (by simp)).mpr all.2
  exact accepted.2 (by decide)

theorem released_one_frame : machine.Throughout (fun s => Released (transmit s)) (rtl8150Open {} {})
    [.startXmit 1 100 true 0,.completes 2 0 100,.callback 2 {}] := by
  refine (released_iff {} _ (by simp) (by decide +kernel)).mpr ⟨⟨rfl,by decide⟩,trivial,?_,trivial⟩
  intro _ status actualLength done
  cases done
  rfl

end Session

end LinuxDeviceDrivers.Rtl8150Frames
