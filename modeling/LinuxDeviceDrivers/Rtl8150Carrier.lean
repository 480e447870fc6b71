import LinuxDeviceDrivers.Rtl8150Close
import LinuxDeviceDrivers.Rtl8150Hardware

namespace LinuxDeviceDrivers.Rtl8150Carrier
open Transition Rtl8150 Rtl8150Close Rtl8150Hardware

-- rtl8150_open has submitted intr_urb and stands before the read of CSCR, or
-- has read it and stands before netif_carrier_on or netif_carrier_off.
inductive Phase where
  | down
  | starting
  | sampled
  | up
deriving DecidableEq

structure Urb where
  inFlight : Bool := false
  msr : BitVec 8 := 0#8

structure Report where
  urb : Nat
  status : Int

-- `done` are the transfers given back whose callback has not run, in order;
-- `newest` is the state of the link that the device told last, in either way.
structure System where
  phase : Phase := .down
  newest : Bool
  carrier : Bool := true
  tmp : UInt8 := 0
  urbs : Nat → Urb := fun _ => {}
  urbCount : Nat := 0
  done : List Report := []

def linked (msr : BitVec 8) : Bool := msr &&& msrLink != 0#8
def linkStatus (cscr : UInt8) : Bool := cscr &&& cscrLinkStatus != 0

def shows (status : Int) (msr : BitVec 8) (carrier : Bool) : Bool := if status = 0 then linked msr else carrier

def setUrb (index : Nat) (urb : Urb) (s : System) : System := {s with urbs := Function.update s.urbs index urb}

def opens (garbage : BitVec 8) (accepted : Bool) (s : System) : System :=
  {setUrb s.urbCount {inFlight := accepted,msr := garbage} s with
    urbCount := s.urbCount+1
    phase := if accepted then .starting else .down}

-- A read that fails leaves the variable tmp as it was.
def readsCscr (cscr : Option UInt8) (garbage : UInt8) (s : System) : System :=
  {s with
    tmp := cscr.getD garbage
    newest := (cscr.map linkStatus).getD s.newest
    phase := .sampled}

def setsCarrier (s : System) : System := {s with carrier := linkStatus s.tmp,phase := .up}

-- A short transfer may not reach INT_MSR; its status is 0 all the same.
def completes (urb : Nat) (status : Int) (msr : Option (BitVec 8)) (s : System) : System :=
  {setUrb urb {inFlight := false,msr := msr.getD (s.urbs urb).msr} s with
    newest := if status = 0 then (msr.map linked).getD s.newest else s.newest
    done := s.done ++ [⟨urb,status⟩]}

def callback (accepted : Bool) (s : System) : System :=
  match s.done with
  | [] => s
  | report :: rest =>
      let urb := s.urbs report.urb
      let handled := {s with carrier := shows report.status urb.msr s.carrier,done := rest}
      if cancellation .interruptIn report.status then handled
      else setUrb report.urb {urb with inFlight := accepted} handled

-- usb_unlink_urb takes the URB of the last open, if it is in flight.
def closes (s : System) : System :=
  let last := s.urbCount-1
  if (s.urbs last).inFlight then
    {setUrb last {s.urbs last with inFlight := false} s with done := s.done ++ [⟨last,econnreset⟩],phase := .down}
  else {s with phase := .down}

inductive Event where
  | opens (garbage : BitVec 8) (accepted : Bool)
  | readsCscr (cscr : Option UInt8) (garbage : UInt8)
  | setsCarrier
  | completes (urb : Nat) (status : Int) (msr : Option (BitVec 8))
  | callback (accepted : Bool)
  | closes

-- Transfers complete and callbacks run while rtl8150_open is still at work.
def machine : Machine System Event where
  Allowed s event := match event with
    | .opens _ _ => s.phase = .down
    | .readsCscr _ _ => s.phase = .starting
    | .setsCarrier => s.phase = .sampled
    | .completes urb _ _ => (s.urbs urb).inFlight = true
    | .callback _ => 0 < s.done.length
    | .closes => s.phase = .up
  apply s event := match event with
    | .opens garbage accepted => opens garbage accepted s
    | .readsCscr cscr garbage => readsCscr cscr garbage s
    | .setsCarrier => setsCarrier s
    | .completes urb status msr => completes urb status msr s
    | .callback accepted => callback accepted s
    | .closes => closes s

instance decidableAllowed : ∀ s event,Decidable (machine.Allowed s event)
  | s,.opens _ _ => inferInstanceAs (Decidable (s.phase = .down))
  | s,.readsCscr _ _ => inferInstanceAs (Decidable (s.phase = .starting))
  | s,.setsCarrier => inferInstanceAs (Decidable (s.phase = .sampled))
  | s,.completes urb _ _ => inferInstanceAs (Decidable ((s.urbs urb).inFlight = true))
  | s,.callback _ => inferInstanceAs (Decidable (0 < s.done.length))
  | s,.closes => inferInstanceAs (Decidable (s.phase = .up))

def probed (newest : Bool) : System := {newest := newest}

-- What the stack is told of the link once the callbacks due have run.
def told (urbs : Nat → Urb) (done : List Report) (carrier : Bool) : Bool :=
  done.foldl (fun carrier report => shows report.status (urbs report.urb).msr carrier) carrier

def Honest (s : System) : Prop := s.phase = .up → told s.urbs s.done s.carrier = s.newest

-- No report has overtaken the reading of CSCR with another state, and no short
-- transfer on an interface that is up repeats an older one.
def Truthful (s : System) : Event → Prop
  | .setsCarrier => told s.urbs s.done (linkStatus s.tmp) = s.newest
  | .completes urb status none => s.phase = .up → status = 0 → linked (s.urbs urb).msr = s.newest
  | _ => True

structure Sound (s : System) : Prop where
  numbered : ∀ urb,(s.urbs urb).inFlight = true → urb < s.urbCount
  known : ∀ report ∈ s.done,report.urb < s.urbCount
  given : ∀ report ∈ s.done,(s.urbs report.urb).inFlight = false
  once : (s.done.map Report.urb).Nodup

section Source
variable {s : Rtl8150.System}

theorem usbSubmitUrb_carrier (index : Nat) (result : Int) (s : Rtl8150.System) :
    (usbSubmitUrb index result s).2.carrier = s.carrier :=
  usbSubmitUrb_unseen (f:=fun s => s.carrier) rfl result

theorem intrCallback_carrier (allocated : (s.urbs urb).buffer ≠ none) (status : Int) (answer : CallbackAnswer) :
    (intrCallback urb status answer s).carrier = shows status answer.msr s.carrier := by
  unfold intrCallback shows
  by_cases success : status = 0
  · rw [if_pos success,if_neg allocated,usbSubmitUrb_carrier,if_pos success]
    rfl
  · rw [if_neg success,if_neg success]
    split
    · rfl
    · exact usbSubmitUrb_carrier urb answer.result s

theorem hardwareStart_carrier (hz : Nat) (arrived : Bool) {t : Rtl8150Hardware.System} (place : t.place = .readsCscr) (s : System) :
    (rtl8150HardwareStart hz arrived t).carrier =
      (setsCarrier (readsCscr (if arrived then some t.chip.cscr else none) t.tmp s)).carrier := by
  unfold rtl8150HardwareStart
  rw [place]
  cases arrived <;> rfl

end Source

section Told
variable {urbs other : Nat → Urb} {done : List Report}

theorem told_append (urbs : Nat → Urb) (done : List Report) (report : Report) (carrier : Bool) :
    told urbs (done ++ [report]) carrier = shows report.status (urbs report.urb).msr (told urbs done carrier) := by
  simp [told]

theorem told_congr (same : ∀ report ∈ done,(other report.urb).msr = (urbs report.urb).msr) (carrier : Bool) :
    told other done carrier = told urbs done carrier := by
  induction done generalizing carrier with
  | nil => rfl
  | cons report rest ih =>
      have here := same report List.mem_cons_self
      have later := ih fun report member => same report (List.mem_cons_of_mem _ member)
      simp only [told,List.foldl_cons,here]
      exact later _

end Told

section Runs
variable {s : System}

theorem probed_sound (newest : Bool) : Sound (probed newest) := ⟨nofun,nofun,nofun,List.nodup_nil⟩

theorem Sound.gives {index : Nat} (sound : Sound s) (flying : (s.urbs index).inFlight = true) (urb : Urb)
    (landed : urb.inFlight = false) (status : Int) (newest : Bool) (phase : Phase) :
    Sound {setUrb index urb s with newest := newest,done := s.done ++ [⟨index,status⟩],phase := phase} := by
  have fresh : ∀ report ∈ s.done,report.urb ≠ index := by
    rintro report member rfl
    exact Bool.noConfusion ((sound.given report member).symm.trans flying)
  refine ⟨?_,?_,?_,?_⟩
  · intro other flies
    by_cases same : other = index
    · exact same ▸ sound.numbered index flying
    · exact sound.numbered other (by simpa [setUrb,same] using flies)
  · intro report member
    rcases List.mem_append.mp member with before | last
    · exact sound.known report before
    · obtain rfl := List.mem_singleton.mp last
      exact sound.numbered index flying
  · intro report member
    rcases List.mem_append.mp member with before | last
    · simpa [setUrb,fresh report before] using sound.given report before
    · obtain rfl := List.mem_singleton.mp last
      simp [setUrb,landed]
  · have apart : index ∉ s.done.map Report.urb := by simpa using fresh
    simpa [List.nodup_append] using ⟨sound.once,fresh⟩

theorem opens_sound (sound : Sound s) (garbage : BitVec 8) (accepted : Bool) : Sound (opens garbage accepted s) := by
  have older : ∀ report ∈ s.done,report.urb ≠ s.urbCount := fun report member => Nat.ne_of_lt (sound.known report member)
  refine ⟨?_,?_,?_,sound.once⟩
  · intro other flies
    by_cases same : other = s.urbCount
    · simp [opens,setUrb,same]
    · have before := sound.numbered other (by simpa [opens,setUrb,same] using flies)
      exact Nat.lt_succ_of_lt before
  · exact fun report member => Nat.lt_succ_of_lt (sound.known report member)
  · intro report member
    simpa [opens,setUrb,older report member] using sound.given report member

theorem callback_sound (sound : Sound s) (accepted : Bool) : Sound (callback accepted s) := by
  obtain ⟨numbered,known,given,once⟩ := sound
  unfold callback
  split
  · exact ⟨numbered,known,given,once⟩
  · rename_i report rest due
    rw [due] at known given once
    have first := known report List.mem_cons_self
    obtain ⟨fresh,distinct⟩ := List.nodup_cons.mp once
    have later : ∀ other ∈ rest,other.urb < s.urbCount := fun other member => known other (List.mem_cons_of_mem _ member)
    have landed : ∀ other ∈ rest,(s.urbs other.urb).inFlight = false := fun other member => given other (List.mem_cons_of_mem _ member)
    simp only []
    split
    · exact ⟨numbered,later,landed,distinct⟩
    · refine ⟨?_,later,?_,distinct⟩
      · intro other flies
        by_cases same : other = report.urb
        · exact same ▸ first
        · exact numbered other (by simpa [setUrb,same] using flies)
      · intro other member
        have different : other.urb ≠ report.urb := fun same => fresh (same ▸ List.mem_map_of_mem member)
        simpa [setUrb,different] using landed other member

theorem apply_sound (s : System) (event : Event) (sound : Sound s) (allowed : machine.Allowed s event) :
    Sound (machine.apply s event) := by
  cases event with
  | opens garbage accepted => exact opens_sound sound garbage accepted
  | readsCscr cscr garbage => exact ⟨sound.numbered,sound.known,sound.given,sound.once⟩
  | setsCarrier => exact ⟨sound.numbered,sound.known,sound.given,sound.once⟩
  | completes urb status msr => exact sound.gives allowed _ rfl status _ s.phase
  | callback accepted => exact callback_sound sound accepted
  | closes =>
      show Sound (closes s)
      unfold closes
      simp only []
      split
      · rename_i flying
        exact sound.gives flying _ rfl econnreset s.newest .down
      · exact ⟨sound.numbered,sound.known,sound.given,sound.once⟩

theorem callback_told (accepted : Bool) (s : System) :
    told (callback accepted s).urbs (callback accepted s).done (callback accepted s).carrier = told s.urbs s.done s.carrier := by
  unfold callback
  split
  · rfl
  · rename_i report rest due
    simp only []
    rw [due]
    split
    · rfl
    · refine told_congr ?_ _
      intro other _
      by_cases same : other.urb = report.urb
      · simp [setUrb,same]
      · simp [setUrb,same]

theorem completes_told (sound : Sound s) (flying : (s.urbs urb).inFlight = true) (status : Int) (msr : Option (BitVec 8)) :
    told (completes urb status msr s).urbs (completes urb status msr s).done s.carrier =
      shows status (msr.getD (s.urbs urb).msr) (told s.urbs s.done s.carrier) := by
  have kept : ∀ report ∈ s.done,((completes urb status msr s).urbs report.urb).msr = (s.urbs report.urb).msr := by
    intro report member
    have different : report.urb ≠ urb := by
      rintro rfl
      exact Bool.noConfusion ((sound.given report member).symm.trans flying)
    simp [completes,setUrb,different]
  have last := told_append (completes urb status msr s).urbs s.done ⟨urb,status⟩ s.carrier
  rw [told_congr kept] at last
  simpa [completes,setUrb] using last

theorem callback_kept (accepted : Bool) (s : System) :
    (callback accepted s).phase = s.phase ∧ (callback accepted s).newest = s.newest := by
  unfold callback
  split
  · exact ⟨rfl,rfl⟩
  · simp only []
    split <;> exact ⟨rfl,rfl⟩

theorem truthful_exactly (s : System) (event : Event) (before : Sound s ∧ Honest s) (allowed : machine.Allowed s event) :
    Truthful s event ↔ Honest (machine.apply s event) := by
  obtain ⟨sound,honest⟩ := before
  cases event with
  | opens garbage accepted =>
      refine iff_of_true trivial ?_
      cases accepted <;> exact nofun
  | readsCscr cscr garbage => exact iff_of_true trivial nofun
  | setsCarrier => exact ⟨fun fresh _ => fresh,fun honest => honest rfl⟩
  | callback accepted =>
      obtain ⟨phase,newest⟩ := callback_kept accepted s
      refine iff_of_true trivial ?_
      intro up
      exact (callback_told accepted s).trans ((honest (phase.symm.trans up)).trans newest.symm)
  | closes =>
      refine iff_of_true trivial ?_
      intro up
      simp only [machine,closes] at up
      split at up <;> cases up
  | completes urb status msr =>
      have due := completes_told sound allowed status msr
      by_cases up : s.phase = .up
      · rw [honest up] at due
        have after : Honest (completes urb status msr s) ↔
            shows status (msr.getD (s.urbs urb).msr) s.newest = (completes urb status msr s).newest := by
          rw [← due]
          exact forall_prop_of_true up
        refine Iff.trans ?_ after.symm
        by_cases success : status = 0
        · cases msr with
          | none => simp [Truthful,completes,shows,success,up]
          | some msr => simp [Truthful,completes,shows,success]
        · cases msr with
          | none => simp [Truthful,completes,shows,success]
          | some msr => simp [Truthful,completes,shows,success]
      · refine iff_of_true ?_ fun later => absurd later up
        cases msr with
        | none => exact fun later => absurd later up
        | some msr => trivial

theorem honest_iff (newest : Bool) (events : List Event) (path : machine.Runs (probed newest) events) :
    machine.Throughout Honest (probed newest) events ↔ machine.Along Truthful (probed newest) events := by
  have preserved : ∀ s event,Sound s ∧ Honest s → machine.Allowed s event → Truthful s event →
      Sound (machine.apply s event) ∧ Honest (machine.apply s event) :=
    fun s event before allowed truthful =>
      ⟨apply_sound s event before.1 allowed,(truthful_exactly s event before allowed).mp truthful⟩
  exact Machine.throughout_exact (fun _ both => both.2) truthful_exactly preserved ⟨probed_sound newest,nofun⟩ path

def overtaken : List Event :=
  [.opens 0#8 true,.readsCscr (some 0) 0,.completes 0 0 (some 0x04#8),.callback true,.setsCarrier]

theorem honest_iff_overtaken :
    machine.Runs (probed false) overtaken ∧ ¬ machine.Throughout Honest (probed false) overtaken := by
  have path : machine.Runs (probed false) overtaken := by decide +kernel
  refine ⟨path,fun honest => ?_⟩
  obtain ⟨_,_,_,_,told,_⟩ := (honest_iff false overtaken path).mp honest
  exact absurd told (by unfold Truthful; decide +kernel)

end Runs

end LinuxDeviceDrivers.Rtl8150Carrier
