import LinuxDeviceDrivers.Rtl8139Transmit

namespace LinuxDeviceDrivers.Rtl8139TransmitRaces
open Transition CircularWindow NetDevice Rtl8139Registers Rtl8139Transmit

-- Where start_xmit stands: its TSD written, cur_tx advanced, or a full ring
-- found and the queue not yet stopped.
inductive Xmit where
  | idle
  | advance
  | compare
  | stop
deriving DecidableEq

-- Where the handler stands on the other CPU, with the values it has read.
inductive Handler where
  | idle
  | ack (isr : BitVec 16)
  | loop
  | status
  | reap (txStatus : BitVec 32)
  | wake
deriving DecidableEq

namespace Handler

def acknowledging : Handler → Bool
  | .ack _ => true
  | _ => false

def sawTransmit : Handler → Bool
  | .ack isr => transmitCause isr
  | _ => false

def reaping : Handler → Bool
  | .reap _ => true
  | _ => false

def inLoop : Handler → Bool
  | .idle | .ack _ => false
  | _ => true

end Handler

-- `owed` counts the completions whose status is set and whose cause is not.
structure System where
  driver : Driver
  owns : Nat → Bool := fun _ => false
  owed : Nat := 0
  isr : BitVec 16 := 0#16
  xmit : Xmit := .idle
  handler : Handler := .idle

def opened (txBufs : Nat → UInt8) (tsd : Nat → BitVec 32) (stats netdevStats : NetDeviceStats) : System :=
  {driver := {txBufs := txBufs,tsd := tsd,stats := stats,netdevStats := netdevStats}}

inductive Event where
  | startXmit (skb : Skb)
  | advances
  | compares
  | stops
  | setsStatus (entry : Nat) (status : BitVec 32)
  | raises (cause : BitVec 16)
  | readsIsr
  | writesIsr
  | testsLoop
  | readsTsd
  | reaps
  | wakes

def handsOver (skb : Skb) (s : System) : System :=
  let entry := s.driver.curTx % numTxDesc
  if skb.len < txBufSize then
    {s with
      driver := writeTsd skb entry (copySkb skb entry s.driver)
      owns := Function.update s.owns entry true
      xmit := .advance}
  else {s with driver := startXmit skb s.driver}

def setsStatus (entry : Nat) (status : BitVec 32) (s : System) : System :=
  {s with
    driver := {s.driver with tsd := Function.update s.driver.tsd entry (s.driver.tsd entry ||| status)}
    owns := Function.update s.owns entry false
    owed := s.owed+1}

def raises (cause : BitVec 16) (s : System) : System :=
  {s with
    isr := s.isr ||| cause
    owed := if transmitCause cause then s.owed-1 else s.owed}

def writesIsr (s : System) : System :=
  match s.handler with
  | .ack isr => {s with
      isr := s.isr &&& ~~~0xfff#16
      handler := if serviced isr && transmitCause isr then .loop else .idle}
  | _ => s

def readsTsd (s : System) : System :=
  let txStatus := s.driver.tsd s.driver.dirtyTx
  {s with
    driver := {s.driver with stats := countCollisions txStatus s.driver.stats}
    handler := if concluded txStatus then .reap txStatus else .idle}

def reaps (s : System) : System :=
  match s.handler with
  | .reap txStatus => {s with driver := reapDescriptor txStatus s.driver,handler := .wake}
  | _ => s

def machine : Machine System Event where
  Allowed s event := match event with
    | .startXmit _ => s.xmit = .idle ∧ s.driver.stopped = false
    | .advances => s.xmit = .advance
    | .compares => s.xmit = .compare
    | .stops => s.xmit = .stop
    | .setsStatus entry status => s.owns entry = true ∧ concluded status = true
    | .raises cause => cause &&& ~~~intMask = 0#16 ∧ (transmitCause cause = true → 0 < s.owed)
    | .readsIsr => s.handler = .idle
    | .writesIsr => s.handler.acknowledging = true
    | .testsLoop => s.handler = .loop
    | .readsTsd => s.handler = .status
    | .reaps => s.handler.reaping = true
    | .wakes => s.handler = .wake
  apply s event := match event with
    | .startXmit skb => handsOver skb s
    | .advances => {s with driver := advanceCurTx s.driver,xmit := .compare}
    | .compares => {s with xmit := if s.driver.curTx = s.driver.dirtyTx then .stop else .idle}
    | .stops => {s with driver := stopQueue s.driver,xmit := .idle}
    | .setsStatus entry status => setsStatus entry status s
    | .raises cause => raises cause s
    | .readsIsr => {s with handler := .ack s.isr}
    | .writesIsr => writesIsr s
    | .testsLoop => {s with handler := if reapPending s.driver then .status else .idle}
    | .readsTsd => readsTsd s
    | .reaps => reaps s
    | .wakes => {s with driver := wakeWhenEmpty s.driver,handler := .loop}

instance decidableAllowed : ∀ s event,Decidable (machine.Allowed s event)
  | s,.startXmit _ => inferInstanceAs (Decidable (s.xmit = .idle ∧ s.driver.stopped = false))
  | s,.advances => inferInstanceAs (Decidable (s.xmit = .advance))
  | s,.compares => inferInstanceAs (Decidable (s.xmit = .compare))
  | s,.stops => inferInstanceAs (Decidable (s.xmit = .stop))
  | s,.setsStatus entry status => inferInstanceAs (Decidable (s.owns entry = true ∧ concluded status = true))
  | s,.raises cause =>
      inferInstanceAs (Decidable (cause &&& ~~~intMask = 0#16 ∧ (transmitCause cause = true → 0 < s.owed)))
  | s,.readsIsr => inferInstanceAs (Decidable (s.handler = .idle))
  | s,.writesIsr => inferInstanceAs (Decidable (s.handler.acknowledging = true))
  | s,.testsLoop => inferInstanceAs (Decidable (s.handler = .loop))
  | s,.readsTsd => inferInstanceAs (Decidable (s.handler = .status))
  | s,.reaps => inferInstanceAs (Decidable (s.handler.reaping = true))
  | s,.wakes => inferInstanceAs (Decidable (s.handler = .wake))

-- A descriptor is not completed while the device owns it or owes its cause.
def Outstanding (s : System) : Prop := (∃ entry < numTxDesc,s.owns entry = true) ∨ 0 < s.owed

def NeverStalls (s : System) : Prop :=
  s.driver.stopped = true → s.xmit = .idle → s.handler = .idle → Outstanding s ∨ transmitCause s.isr = true

def Used (s : System) (entry : Nat) : Prop := s.owns entry = true ∨ concluded (s.driver.tsd entry) = true
def AllUsed (s : System) : Prop := ∀ entry < numTxDesc,Used s entry

-- None of the three races. The write to ISR clears no transmit cause the read
-- did not see; the loop test does not take a ring that start_xmit has filled
-- for an empty one; start_xmit does not take an empty ring for a full one.
def Unraced (s : System) : Event → Prop
  | .writesIsr => transmitCause s.isr = true → s.handler.sawTransmit = true
  | .testsLoop => s.driver.curTx = s.driver.dirtyTx → s.xmit ≠ .compare ∧ s.xmit ≠ .stop
  | .compares => s.driver.curTx = s.driver.dirtyTx → AllUsed s
  | _ => True

-- Every descriptor the handler may come to reap is owned or concluded.
structure Backed (s : System) : Prop where
  dirty : s.driver.dirtyTx < numTxDesc
  cur : s.driver.curTx < numTxDesc
  queued : ∀ entry ∈ window numTxDesc s.driver.dirtyTx (span numTxDesc s.driver.dirtyTx s.driver.curTx),Used s entry
  handed : s.xmit = .advance → Used s s.driver.curTx
  full : s.driver.stopped = true ∨ s.xmit = .stop → AllUsed s
  reaching : s.handler = .status ∨ s.handler.reaping = true → s.driver.dirtyTx = s.driver.curTx → AllUsed s

section Usage
variable {s : System}

theorem opened_backed (txBufs : Nat → UInt8) (tsd : Nat → BitVec 32) (stats netdevStats : NetDeviceStats) :
    Backed (opened txBufs tsd stats netdevStats) := by
  refine ⟨?_,?_,?_,?_,?_,?_⟩ <;> simp [opened,numTxDesc,span,window,Handler.reaping]

theorem concluded_or (txStatus : BitVec 32) (finished : concluded status = true) :
    concluded (txStatus ||| status) = true := by
  rw [concluded,masked_or,Bool.or_eq_true]
  exact .inr finished

theorem handsOver_backed (backed : Backed s) (skb : Skb) : Backed (handsOver skb s) := by
  unfold handsOver
  simp only [Nat.mod_eq_of_lt backed.cur]
  split
  · have grows : ∀ entry,Used s entry → Used {s with
        driver := writeTsd skb s.driver.curTx (copySkb skb s.driver.curTx s.driver)
        owns := Function.update s.owns s.driver.curTx true
        xmit := .advance} entry := by
      intro entry used
      by_cases here : entry = s.driver.curTx
      · exact .inl (by simp [here])
      · simpa [Used,writeTsd,copySkb,Function.update_of_ne here] using used
    refine ⟨backed.dirty,backed.cur,?_,?_,?_,?_⟩
    · intro entry member
      exact grows entry (backed.queued entry member)
    · intro _
      exact .inl (by simp [writeTsd,copySkb])
    · intro full entry bound
      have stopped : s.driver.stopped = true := by simpa [writeTsd,copySkb] using full
      exact grows entry (backed.full (.inl stopped) entry bound)
    · intro handler same entry bound
      exact grows entry (backed.reaching handler same entry bound)
  · rename_i oversized
    simp only [startXmit,if_neg oversized]
    exact ⟨backed.dirty,backed.cur,backed.queued,backed.handed,backed.full,backed.reaching⟩

theorem advances_backed (backed : Backed s) (advancing : s.xmit = .advance) :
    Backed {s with driver := advanceCurTx s.driver,xmit := .compare} := by
  have handed := backed.handed advancing
  have advance := next_mod backed.cur
  have filled : next numTxDesc s.driver.curTx = s.driver.dirtyTx → AllUsed s := by
    intro closes entry bound
    cases mem_window_or_last backed.dirty backed.cur closes bound with
    | inl member => exact backed.queued entry member
    | inr last => exact last ▸ handed
  simp only [advanceCurTx,advance]
  refine ⟨backed.dirty,next_lt backed.cur,?_,?_,?_,?_⟩
  · intro entry member
    by_cases closes : next numTxDesc s.driver.curTx = s.driver.dirtyTx
    · simp [closes,(span_eq_zero backed.dirty).mpr,window] at member
    · have room := span_full backed.dirty backed.cur closes
      simp only [span_extend backed.dirty room] at member
      rw [window_snoc backed.dirty (by omega),cell_span backed.dirty backed.cur] at member
      cases List.mem_append.mp member with
      | inl older => exact backed.queued entry older
      | inr newest => exact List.mem_singleton.mp newest ▸ handed
  · intro other
    cases other
  · intro full
    cases full with
    | inl stopped => exact backed.full (.inl stopped)
    | inr other => cases other
  · intro _ same
    exact filled same.symm

theorem setsStatus_backed (backed : Backed s) (entry : Nat) (finished : concluded status = true) :
    Backed (setsStatus entry status s) := by
  have grows : ∀ other,Used s other → Used (setsStatus entry status s) other := by
    intro other used
    by_cases here : other = entry
    · exact .inr (by simpa [setsStatus,here] using concluded_or _ finished)
    · simpa [Used,setsStatus,Function.update_of_ne here] using used
  refine ⟨backed.dirty,backed.cur,?_,?_,?_,?_⟩
  · intro other member
    exact grows other (backed.queued other member)
  · intro advancing
    exact grows _ (backed.handed advancing)
  · intro full other bound
    exact grows other (backed.full full other bound)
  · intro handler same other bound
    exact grows other (backed.reaching handler same other bound)

theorem reaps_backed (backed : Backed s) (reaping : s.handler = .reap txStatus) : Backed (reaps s) := by
  have advance := next_mod backed.dirty
  simp only [reaps,reaping,reapDescriptor,advance]
  refine ⟨next_lt backed.dirty,backed.cur,?_,backed.handed,backed.full,?_⟩
  · intro entry member
    by_cases same : s.driver.dirtyTx = s.driver.curTx
    · have all := backed.reaching (.inr (by simp [reaping,Handler.reaping])) same
      exact all entry (mem_window_lt (next_lt backed.dirty) (Nat.le_of_lt (span_lt (next_lt backed.dirty) backed.cur)) member)
    · apply backed.queued entry
      rw [span_advance backed.dirty backed.cur same]
      exact List.mem_cons_of_mem _ member
  · intro other
    simp [Handler.reaping] at other

theorem apply_backed (s : System) (event : Event) (backed : Backed s) (allowed : machine.Allowed s event)
    (unraced : Unraced s event) : Backed (machine.apply s event) := by
  have ⟨dirty,cur,queued,handed,full,reaching⟩ := backed
  cases event with
  | startXmit skb => exact handsOver_backed backed skb
  | advances => exact advances_backed backed allowed
  | compares =>
      refine ⟨dirty,cur,queued,?_,?_,reaching⟩
      · simp only [machine]
        split <;> simp
      · intro reached
        by_cases same : s.driver.curTx = s.driver.dirtyTx
        · exact unraced same
        · simp only [machine,if_neg same,reduceCtorEq,or_false] at reached
          exact full (.inl reached)
  | stops => exact ⟨dirty,cur,queued,by simp [machine],fun _ => full (.inr allowed),reaching⟩
  | setsStatus entry status => exact setsStatus_backed backed entry allowed.2
  | raises cause => exact ⟨dirty,cur,queued,handed,full,reaching⟩
  | readsIsr => exact ⟨dirty,cur,queued,handed,full,by simp [machine,Handler.reaping]⟩
  | writesIsr =>
      simp only [machine,writesIsr]
      split
      · refine ⟨dirty,cur,queued,handed,full,?_⟩
        split <;> simp [Handler.reaping]
      · exact backed
  | testsLoop =>
      refine ⟨dirty,cur,queued,handed,full,?_⟩
      simp only [machine]
      split
      · rename_i busy
        intro _ same
        exact full (.inl (by simpa [reapPending,same] using busy))
      · simp [Handler.reaping]
  | readsTsd => exact ⟨dirty,cur,queued,handed,full,fun _ => reaching (.inl allowed)⟩
  | reaps =>
      cases handler : s.handler with
      | reap txStatus => exact reaps_backed backed handler
      | _ => simp [machine,handler,Handler.reaping] at allowed
  | wakes =>
      simp only [machine,wakeWhenEmpty_eq]
      refine ⟨dirty,cur,queued,handed,?_,by simp [Handler.reaping]⟩
      intro reached
      simp only [Bool.and_eq_true] at reached
      exact full (reached.imp_left And.left)

end Usage

def Pending (s : System) : Prop :=
  Outstanding s ∨ transmitCause s.isr = true ∨ s.handler.sawTransmit = true ∨ s.handler.inLoop = true

structure Quiet (s : System) : Prop where
  advance : s.xmit = .advance → s.driver.curTx = s.driver.dirtyTx
  compare : s.xmit = .compare → s.driver.curTx ≠ s.driver.dirtyTx
  stop : s.xmit ≠ .stop
  running : s.driver.stopped = false

structure Live (s : System) : Prop where
  backed : Backed s
  known : s.isr &&& ~~~intMask = 0#16
  knownRead : ∀ isr,s.handler = .ack isr → isr &&& ~~~intMask = 0#16
  awake : Pending s ∨ Quiet s

section Liveness
variable {s : System}

theorem serviced_of_known (known : isr &&& ~~~intMask = 0#16) (cause : transmitCause isr = true) :
    serviced isr = true := by
  simp only [serviced,Bool.and_eq_true,bne_iff_ne]
  constructor
  · intro masked
    have clear : transmitCause isr = false := by
      have ok : isr &&& txOK = (isr &&& intMask) &&& txOK := by rw [BitVec.and_assoc]; rfl
      have err : isr &&& txErr = (isr &&& intMask) &&& txErr := by rw [BitVec.and_assoc]; rfl
      simp [transmitCause,ok,err,masked]
    simp [clear] at cause
  · intro gone
    rw [gone] at known
    exact absurd known (by decide)

theorem opened_live (txBufs : Nat → UInt8) (tsd : Nat → BitVec 32) (stats netdevStats : NetDeviceStats) :
    Live (opened txBufs tsd stats netdevStats) :=
  ⟨opened_backed txBufs tsd stats netdevStats,by simp [opened],by simp [opened],
    .inr ⟨by simp [opened],by simp [opened],by simp [opened],rfl⟩⟩

theorem transmitCause_or (isr cause : BitVec 16) :
    transmitCause (isr ||| cause) = (transmitCause isr || transmitCause cause) := by
  simp only [transmitCause,masked_or]
  ac_rfl

theorem raises_pending (cause : BitVec 16) (pending : Pending s) : Pending (raises cause s) := by
  obtain outstanding | seen | later := pending
  · by_cases transmit : transmitCause cause = true
    · exact .inr (.inl (by simp [raises,transmitCause_or,transmit]))
    · exact .inl (by simpa [raises,Outstanding,transmit] using outstanding)
  · exact .inr (.inl (by simp [raises,transmitCause_or,seen]))
  · exact .inr (.inr later)

theorem writesIsr_awake (live : Live s) (handler : s.handler = .ack isr) (unraced : Unraced s .writesIsr) :
    Pending (writesIsr s) ∨ Quiet (writesIsr s) := by
  by_cases transmit : transmitCause isr = true
  · have serviced := serviced_of_known (live.knownRead isr handler) transmit
    exact .inl (.inr (.inr (.inr (by simp [writesIsr,handler,serviced,transmit,Handler.inLoop]))))
  · have unseen : ¬ transmitCause s.isr = true := by
      intro seen
      have saw := unraced seen
      simp [handler,Handler.sawTransmit,transmit] at saw
    cases live.awake with
    | inl pending =>
        obtain outstanding | seen | saw | inLoop := pending
        · exact .inl (.inl (by simpa [writesIsr,handler,Outstanding] using outstanding))
        · exact absurd seen unseen
        · simp [handler,Handler.sawTransmit,transmit] at saw
        · simp [handler,Handler.inLoop] at inLoop
    | inr quiet =>
        simp only [writesIsr,handler]
        exact .inr ⟨quiet.advance,quiet.compare,quiet.stop,quiet.running⟩

-- The handler leaves its loop on a ring that is empty for good, or finds the
-- oldest descriptor still with the device.
theorem testsLoop_awake (unraced : Unraced s .testsLoop) :
    Pending (machine.apply s .testsLoop) ∨ Quiet (machine.apply s .testsLoop) := by
  cases busy : reapPending s.driver with
  | true => exact .inl (.inr (.inr (.inr (by simp [machine,busy,Handler.inLoop]))))
  | false =>
      simp only [reapPending,Bool.or_eq_false_iff,bne_eq_false_iff_eq] at busy
      have outside := unraced busy.1.symm
      exact .inr ⟨fun _ => busy.1.symm,fun comparing => absurd comparing outside.1,outside.2,busy.2⟩

theorem readsTsd_pending (backed : Backed s) (reading : s.handler = .status) : Pending (readsTsd s) := by
  by_cases finished : concluded (s.driver.tsd s.driver.dirtyTx) = true
  · exact .inr (.inr (.inr (by simp [readsTsd,finished,Handler.inLoop])))
  · have used : Used s s.driver.dirtyTx := by
      by_cases same : s.driver.dirtyTx = s.driver.curTx
      · exact backed.reaching (.inl reading) same _ backed.dirty
      · apply backed.queued
        rw [span_advance backed.dirty backed.cur same]
        exact List.mem_cons_self
    cases used with
    | inl owned => exact .inl (.inl ⟨_,backed.dirty,owned⟩)
    | inr done => exact absurd done finished

theorem handsOver_awake (live : Live s) (skb : Skb) : Pending (handsOver skb s) ∨ Quiet (handsOver skb s) := by
  unfold handsOver
  split
  · refine .inl (.inl (.inl ⟨s.driver.curTx % numTxDesc,Nat.mod_lt _ (by decide),?_⟩))
    exact Function.update_self ..
  · rename_i oversized
    simp only [startXmit,if_neg oversized]
    exact live.awake.imp id fun quiet => ⟨quiet.advance,quiet.compare,quiet.stop,quiet.running⟩

theorem apply_awake (s : System) (event : Event) (live : Live s) (allowed : machine.Allowed s event)
    (unraced : Unraced s event) : Pending (machine.apply s event) ∨ Quiet (machine.apply s event) := by
  have ⟨backed,known,knownRead,awake⟩ := live
  cases event with
  | startXmit skb => exact handsOver_awake live skb
  | advances =>
      refine awake.imp id fun quiet => ⟨by simp [machine],?_,by simp [machine],quiet.running⟩
      intro _
      have same := quiet.advance allowed
      simp only [machine,advanceCurTx,← same,numTxDesc]
      omega
  | compares =>
      refine awake.imp id fun quiet => ?_
      have different := quiet.compare allowed
      simp only [machine,if_neg different]
      exact ⟨by simp,by simp,by simp,quiet.running⟩
  | stops => exact awake.imp id fun quiet => absurd allowed quiet.stop
  | setsStatus entry status => exact .inl (.inl (.inr (Nat.succ_pos _)))
  | raises cause =>
      exact awake.imp (raises_pending cause) fun quiet => ⟨quiet.advance,quiet.compare,quiet.stop,quiet.running⟩
  | readsIsr =>
      refine awake.imp ?_ fun quiet => ⟨quiet.advance,quiet.compare,quiet.stop,quiet.running⟩
      intro pending
      obtain outstanding | seen | saw | inLoop := pending
      · exact .inl outstanding
      · exact .inr (.inl seen)
      · simp [Handler.sawTransmit,show s.handler = .idle from allowed] at saw
      · simp [Handler.inLoop,show s.handler = .idle from allowed] at inLoop
  | writesIsr =>
      cases handler : s.handler with
      | ack isr => exact writesIsr_awake live handler unraced
      | _ => simp [machine,handler,Handler.acknowledging] at allowed
  | testsLoop => exact testsLoop_awake unraced
  | readsTsd => exact .inl (readsTsd_pending backed allowed)
  | reaps =>
      cases handler : s.handler with
      | reap txStatus => exact .inl (.inr (.inr (.inr (by simp [machine,reaps,handler,Handler.inLoop]))))
      | _ => simp [machine,handler,Handler.reaping] at allowed
  | wakes => exact .inl (.inr (.inr (.inr rfl)))

theorem apply_known (s : System) (event : Event) (live : Live s) (allowed : machine.Allowed s event) :
    (machine.apply s event).isr &&& ~~~intMask = 0#16 ∧
      ∀ isr,(machine.apply s event).handler = .ack isr → isr &&& ~~~intMask = 0#16 := by
  have ⟨_,known,knownRead,_⟩ := live
  cases event with
  | startXmit skb =>
      simp only [machine,handsOver]
      split <;> exact ⟨known,knownRead⟩
  | advances => exact ⟨known,knownRead⟩
  | compares => exact ⟨known,knownRead⟩
  | stops => exact ⟨known,knownRead⟩
  | setsStatus entry status => exact ⟨known,knownRead⟩
  | raises cause =>
      refine ⟨?_,knownRead⟩
      simp only [machine,raises,BitVec.and_or_distrib_right,BitVec.or_eq_zero_iff]
      exact ⟨known,allowed.1⟩
  | readsIsr =>
      refine ⟨known,?_⟩
      intro isr same
      cases same
      exact known
  | writesIsr =>
      simp only [machine,writesIsr]
      split
      · refine ⟨?_,?_⟩
        · rw [BitVec.and_assoc,BitVec.and_comm (~~~0xfff#16),← BitVec.and_assoc,known,BitVec.zero_and]
        · split <;> simp
      · exact ⟨known,knownRead⟩
  | testsLoop => exact ⟨known,by simp only [machine]; split <;> simp⟩
  | readsTsd => exact ⟨known,by simp only [machine,readsTsd]; split <;> simp⟩
  | reaps =>
      simp only [machine,reaps]
      split
      · exact ⟨known,by simp⟩
      · exact ⟨known,knownRead⟩
  | wakes => exact ⟨known,by simp [machine]⟩

theorem apply_live (s : System) (event : Event) (live : Live s)
    (step : machine.Allowed s event ∧ Unraced s event) : Live (machine.apply s event) :=
  ⟨apply_backed s event live.backed step.1 step.2,(apply_known s event live step.1).1,
    (apply_known s event live step.1).2,apply_awake s event live step.1 step.2⟩

theorem Live.neverStalls (live : Live s) : NeverStalls s := by
  intro stopped _ handler
  cases live.awake with
  | inl pending =>
      obtain outstanding | seen | saw | inLoop := pending
      · exact .inl outstanding
      · exact .inr seen
      · simp [handler,Handler.sawTransmit] at saw
      · simp [handler,Handler.inLoop] at inLoop
  | inr quiet => simp [quiet.running] at stopped

end Liveness

theorem never_stalls_when (txBufs : Nat → UInt8) (tsd : Nat → BitVec 32) (stats netdevStats : NetDeviceStats)
    (events : List Event) (path : machine.Runs (opened txBufs tsd stats netdevStats) events)
    (clear : machine.Along Unraced (opened txBufs tsd stats netdevStats) events) :
    machine.Throughout NeverStalls (opened txBufs tsd stats netdevStats) events :=
  (Machine.throughout_of_invariant apply_live (opened_live txBufs tsd stats netdevStats)
    (Machine.along_and.mpr ⟨path,clear⟩)).imp fun _ live => live.neverStalls

instance (s : System) : Decidable (AllUsed s) :=
  inferInstanceAs (Decidable (∀ entry < numTxDesc,s.owns entry = true ∨ concluded (s.driver.tsd entry) = true))

instance decidableUnraced (s : System) : ∀ event,Decidable (Unraced s event)
  | .writesIsr => inferInstanceAs (Decidable (transmitCause s.isr = true → s.handler.sawTransmit = true))
  | .testsLoop => inferInstanceAs (Decidable (s.driver.curTx = s.driver.dirtyTx → s.xmit ≠ .compare ∧ s.xmit ≠ .stop))
  | .compares => inferInstanceAs (Decidable (s.driver.curTx = s.driver.dirtyTx → AllUsed s))
  | .startXmit _ | .advances | .stops | .setsStatus _ _ | .raises _ | .readsIsr | .readsTsd | .reaps | .wakes => .isTrue trivial

def frame : List Event := [.startXmit ⟨[1,2,3]⟩,.advances,.compares]
def passes (n : Nat) : List Event := (List.replicate n [.testsLoop,.readsTsd,.reaps,.wakes]).flatten

def fullRing : List Event :=
  frame ++ frame ++ frame ++ frame ++ [.stops,.setsStatus 0 txStatOK,.setsStatus 1 txStatOK,.raises txOK,.readsIsr,.writesIsr] ++
    passes 2 ++ [.testsLoop,.readsTsd,.setsStatus 2 txStatOK,.setsStatus 3 txStatOK,.raises txOK,.readsIsr,.writesIsr] ++
    passes 2 ++ [.testsLoop] ++ frame

theorem never_stalls_full_ring :
    machine.Throughout NeverStalls (opened (fun _ => 0) (fun _ => txHostOwns) {} {}) fullRing ∧
    (machine.run (opened (fun _ => 0) (fun _ => txHostOwns) {} {}) (fullRing.take 13)).driver.stopped = true ∧
    (machine.run (opened (fun _ => 0) (fun _ => txHostOwns) {} {}) fullRing).driver.stopped = false :=
  ⟨never_stalls_when _ _ _ _ fullRing (by decide +kernel) (by decide +kernel),by decide +kernel,by decide +kernel⟩

def emptyRingTaken : List Event :=
  [.startXmit ⟨[1,2,3]⟩,.advances,.setsStatus 0 txStatOK,.raises txOK,.readsIsr,.writesIsr,.testsLoop,.readsTsd,
    .reaps,.compares,.wakes,.testsLoop,.stops]

theorem empty_ring_stalls : machine.Runs (opened (fun _ => 0) (fun _ => txHostOwns) {} {}) emptyRingTaken ∧
    ¬ NeverStalls (machine.run (opened (fun _ => 0) (fun _ => txHostOwns) {} {}) emptyRingTaken) := by
  refine ⟨by decide +kernel,?_⟩
  intro lives
  have outstanding := lives (by decide +kernel) (by decide +kernel) (by decide +kernel)
  revert outstanding
  unfold Outstanding
  decide +kernel

section Sequential
variable {s : System}

-- start_xmit with nothing in between is the atomic start_xmit.
theorem startXmit_steps (skb : Skb) (idle : s.xmit = .idle) (running : s.driver.stopped = false) :
    ∃ steps,machine.Runs s steps ∧ (machine.run s steps).driver = startXmit skb s.driver ∧
      (machine.run s steps).xmit = .idle := by
  by_cases fits : skb.len < txBufSize
  · by_cases full : (s.driver.curTx+1) % numTxDesc = s.driver.dirtyTx
    · refine ⟨[.startXmit skb,.advances,.compares,.stops],⟨⟨idle,running⟩,?_,?_,?_,trivial⟩,?_,rfl⟩
      all_goals simp [machine,handsOver,fits,startXmit,advanceCurTx,writeTsd,copySkb,stopWhenFull,full]
    · refine ⟨[.startXmit skb,.advances,.compares],⟨⟨idle,running⟩,?_,?_,trivial⟩,?_,?_⟩
      all_goals simp [machine,handsOver,fits,startXmit,advanceCurTx,writeTsd,copySkb,stopWhenFull,full]
  · exact ⟨[.startXmit skb],⟨⟨idle,running⟩,trivial⟩,by simp [machine,handsOver,fits],by simp [machine,handsOver,fits,idle]⟩

theorem reapLoop_steps (fuel : Nat) (loop : s.handler = .loop) (returns : reapLoop fuel s.driver = some after) :
    ∃ steps,machine.Runs s steps ∧ (machine.run s steps).driver = after ∧ (machine.run s steps).handler = .idle := by
  induction fuel generalizing s with
  | zero => cases returns
  | succ fuel ih =>
      rw [reapLoop] at returns
      by_cases busy : reapPending s.driver = true
      · by_cases finished : concluded (s.driver.tsd s.driver.dirtyTx) = true
        · simp only [busy,finished,if_true] at returns
          let reaped := machine.run s [.testsLoop,.readsTsd,.reaps,.wakes]
          have stepped : reaped.driver = wakeWhenEmpty (reapDescriptor (s.driver.tsd s.driver.dirtyTx)
              {s.driver with stats := countCollisions (s.driver.tsd s.driver.dirtyTx) s.driver.stats}) := by
            simp [reaped,machine,busy,readsTsd,finished,reaps]
          obtain ⟨steps,path,reached⟩ := ih (s:=reaped) rfl (by rw [stepped]; exact returns)
          refine ⟨[.testsLoop,.readsTsd,.reaps,.wakes] ++ steps,?_,by rw [Machine.run_append]; exact reached⟩
          refine Machine.along_append.mpr ⟨⟨loop,?_,?_,?_,trivial⟩,path⟩
          all_goals simp [machine,busy,readsTsd,finished,reaps,Handler.reaping]
        · simp only [busy,finished,if_true,Bool.false_eq_true,if_false] at returns
          refine ⟨[.testsLoop,.readsTsd],⟨loop,?_,trivial⟩,?_,?_⟩
          · simp [machine,busy]
          · simpa [machine,readsTsd] using Option.some.inj returns
          · simp [machine,readsTsd,finished]
      · simp only [busy,Bool.false_eq_true,if_false] at returns
        exact ⟨[.testsLoop],⟨loop,trivial⟩,Option.some.inj returns,by simp [machine,busy]⟩

theorem interrupt_steps (idle : s.handler = .idle) (returns : interrupt s.isr s.driver = some after) :
    ∃ steps,machine.Runs s steps ∧ (machine.run s steps).driver = after ∧ (machine.run s steps).handler = .idle := by
  let acknowledged := machine.run s [.readsIsr,.writesIsr]
  have path : machine.Runs s [.readsIsr,.writesIsr] := ⟨idle,rfl,trivial⟩
  have handler : acknowledged.handler = if serviced s.isr && transmitCause s.isr then .loop else .idle := rfl
  unfold interrupt at returns
  split at returns
  · rename_i cause
    rw [if_pos cause] at handler
    obtain ⟨steps,later,reached⟩ := reapLoop_steps (s:=acknowledged) _ handler returns
    refine ⟨[.readsIsr,.writesIsr] ++ steps,?_,by rw [Machine.run_append]; exact reached⟩
    exact Machine.along_append.mpr ⟨path,later⟩
  · rename_i other
    rw [if_neg other] at handler
    exact ⟨[.readsIsr,.writesIsr],path,Option.some.inj returns,handler⟩

end Sequential

end LinuxDeviceDrivers.Rtl8139TransmitRaces
