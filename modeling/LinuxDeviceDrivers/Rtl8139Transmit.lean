import LinuxDeviceDrivers.ByteStore
import LinuxDeviceDrivers.CircularWindow
import LinuxDeviceDrivers.NetDevice
import LinuxDeviceDrivers.Rtl8139Registers
import LinuxDeviceDrivers.Transition

namespace LinuxDeviceDrivers.Rtl8139Transmit
open Transition CircularWindow ByteStore NetDevice Rtl8139Registers

-- `tsd` holds the registers TSD0-3 as readl would return them. `submitted` and
-- `reaped` log the descriptors handed to the device and passed by dirty_tx.
structure Driver where
  txBufs : Nat → UInt8
  tsd : Nat → BitVec 32
  curTx : Nat := 0
  dirtyTx : Nat := 0
  stopped : Bool := false
  stats : NetDeviceStats := {}
  netdevStats : NetDeviceStats := {}
  submitted : List Nat := []
  reaped : List Nat := []

structure Skb where
  bytes : List UInt8

def Skb.len (skb : Skb) : Nat := skb.bytes.length

def txBuf (entry : Nat) : Nat := entry*txBufSize

def pad (skb : Skb) (entry : Nat) (txBufs : Nat → UInt8) : Nat → UInt8 :=
  if skb.len < ethMinLen then store txBufs (txBuf entry) (List.replicate ethMinLen 0) else txBufs

def copySkb (skb : Skb) (entry : Nat) (d : Driver) : Driver :=
  {d with txBufs := store (pad skb entry d.txBufs) (txBuf entry) skb.bytes}

def writeTsd (skb : Skb) (entry : Nat) (d : Driver) : Driver :=
  {d with
    tsd := Function.update d.tsd entry (BitVec.ofNat 32 (max skb.len ethMinLen))
    submitted := d.submitted ++ [entry]}

def advanceCurTx (d : Driver) : Driver := {d with curTx := (d.curTx+1) % numTxDesc}
def stopQueue (d : Driver) : Driver := {d with stopped := true}
def stopWhenFull (d : Driver) : Driver := if d.curTx = d.dirtyTx then stopQueue d else d

def startXmit (skb : Skb) (d : Driver) : Driver :=
  let entry := d.curTx % numTxDesc
  if skb.len < txBufSize then stopWhenFull (advanceCurTx (writeTsd skb entry (copySkb skb entry d)))
  else {d with netdevStats := {d.netdevStats with txDropped := d.netdevStats.txDropped+1}}

def concluded (txStatus : BitVec 32) : Bool := txStatus &&& (txStatOK ||| txAborted ||| txUnderrun) != 0#32

def raised (txStatus bit : BitVec 32) : Nat := (txStatus &&& bit != 0#32).toNat

def countCollisions (txStatus : BitVec 32) (stats : NetDeviceStats) : NetDeviceStats :=
  {stats with collisions := stats.collisions+(txStatus >>> 24 &&& 0xF#32).toNat}

def countTransmit (txStatus : BitVec 32) (stats : NetDeviceStats) : NetDeviceStats :=
  if txStatus &&& txStatOK != 0#32 then
    {stats with
      txBytes := stats.txBytes+(txStatus &&& 0x1fff#32).toNat
      txPackets := stats.txPackets+1}
  else
    {stats with
      txErrors := stats.txErrors+1
      txAbortedErrors := stats.txAbortedErrors+raised txStatus txAborted
      txFifoErrors := stats.txFifoErrors+raised txStatus txUnderrun
      txWindowErrors := stats.txWindowErrors+raised txStatus txOutOfWindow
      txCarrierErrors := stats.txCarrierErrors+raised txStatus txCarrierLost}

theorem countTransmit_frames (txStatus : BitVec 32) (stats : NetDeviceStats) :
    (countTransmit txStatus stats).txPackets+(countTransmit txStatus stats).txErrors =
      stats.txPackets+stats.txErrors+1 := by
  unfold countTransmit
  split
  · exact Nat.add_right_comm _ _ _
  · rfl

def reapDescriptor (txStatus : BitVec 32) (d : Driver) : Driver :=
  {d with
    stats := countTransmit txStatus d.stats
    dirtyTx := (d.dirtyTx+1) % numTxDesc
    reaped := d.reaped ++ [d.dirtyTx]}

def wakeWhenEmpty (d : Driver) : Driver := if d.dirtyTx = d.curTx ∧ d.stopped then {d with stopped := false} else d

def reapPending (d : Driver) : Bool := d.dirtyTx != d.curTx || d.stopped

-- The transmit loop of rtl8139_interrupt; `none` when the fuel runs out.
def reapLoop : Nat → Driver → Option Driver
  | 0,_ => none
  | fuel+1,d =>
      if reapPending d then
        let txStatus := d.tsd d.dirtyTx
        let read := {d with stats := countCollisions txStatus d.stats}
        if concluded txStatus then reapLoop fuel (wakeWhenEmpty (reapDescriptor txStatus read)) else some read
      else some d

def transmitCause (isr : BitVec 16) : Bool := isr &&& txOK != 0#16 || isr &&& txErr != 0#16

def interrupt (isr : BitVec 16) (d : Driver) : Option Driver :=
  if serviced isr && transmitCause isr then reapLoop (numTxDesc+1) d else some d

-- `owns` maps a descriptor the device still works on to the number of its
-- submission, `completed` lists the submissions it has finished.
structure System where
  driver : Driver
  owns : Nat → Option Nat := fun _ => none
  completed : List Nat := []
  hung : Bool := false

def opened (txBufs : Nat → UInt8) (tsd : Nat → BitVec 32) (stats netdevStats : NetDeviceStats) : System :=
  {driver := {txBufs := txBufs,tsd := tsd,stats := stats,netdevStats := netdevStats}}

inductive Event where
  | startXmit (skb : Skb)
  | completes (entry : Nat) (status : BitVec 32)
  | interrupt (isr : BitVec 16)

def transmits (skb : Skb) (s : System) : System :=
  {s with
    driver := startXmit skb s.driver
    owns := if skb.len < txBufSize then
      Function.update s.owns (s.driver.curTx % numTxDesc) (some s.driver.submitted.length) else s.owns}

def completes (entry : Nat) (status : BitVec 32) (s : System) : System :=
  {s with
    driver := {s.driver with tsd := Function.update s.driver.tsd entry (s.driver.tsd entry ||| status)}
    owns := Function.update s.owns entry none
    completed := s.completed ++ (s.owns entry).toList}

def interrupts (isr : BitVec 16) (s : System) : System :=
  match interrupt isr s.driver with
  | some driver => {s with driver := driver}
  | none => {s with hung := true}

def machine : Machine System Event where
  Allowed s event := match event with
    | .startXmit _ => s.driver.stopped = false
    | .completes entry status => s.owns entry ≠ none ∧ concluded status = true
    | .interrupt _ => True
  apply s event := match event with
    | .startXmit skb => transmits skb s
    | .completes entry status => completes entry status s
    | .interrupt isr => interrupts isr s

-- Descriptors submitted and not yet reaped. cur_tx and dirty_tx alone give this
-- number modulo NUM_TX_DESC.
def pending (d : Driver) : Nat := d.submitted.length-d.reaped.length

-- `status` says of each unreaped descriptor, by the number of its submission,
-- that the device still owns it or has completed it.
structure Ring (owns : Nat → Option Nat) (completed : List Nat) (d : Driver) : Prop where
  dirty : d.dirtyTx < numTxDesc
  bounded : pending d ≤ numTxDesc
  order : d.submitted = d.reaped ++ window numTxDesc d.dirtyTx (pending d)
  cur : d.curTx = (d.dirtyTx+pending d) % numTxDesc
  full : pending d = numTxDesc → d.stopped = true
  busy : d.stopped = true → 1 ≤ pending d
  status : ∀ j < pending d,d.reaped.length+j ∈ completed ∨
    (owns (cell numTxDesc d.dirtyTx j) = some (d.reaped.length+j) ∧
      concluded (d.tsd (cell numTxDesc d.dirtyTx j)) = false)
  done : ∀ number < d.reaped.length,number ∈ completed

section Preservation
variable {d : Driver} {owns : Nat → Option Nat} {completed : List Nat}

theorem length_not_concluded (small : value < 0x4000) : concluded (BitVec.ofNat 32 value) = false := by
  have clear : value &&& 0x10003 <<< 14 = 0 := by
    apply Nat.eq_of_testBit_eq
    intro bit
    rw [Nat.testBit_and,Nat.testBit_shiftLeft,Nat.zero_testBit]
    by_cases low : 14 ≤ bit
    · have reach := Nat.pow_le_pow_right (n:=2) (by decide) low
      rw [Nat.testBit_lt_two_pow (Nat.lt_of_lt_of_le small reach),Bool.false_and]
    · simp [low]
  have masked : BitVec.ofNat 32 value &&& (txStatOK ||| txAborted ||| txUnderrun) = 0#32 := by
    apply BitVec.eq_of_toNat_eq
    rw [BitVec.toNat_and,BitVec.toNat_ofNat,Nat.mod_eq_of_lt (by omega)]
    exact clear
  simp [concluded,masked]

theorem opened_ring (txBufs : Nat → UInt8) (tsd : Nat → BitVec 32) (stats netdevStats : NetDeviceStats) :
    Ring (opened txBufs tsd stats netdevStats).owns (opened txBufs tsd stats netdevStats).completed
      (opened txBufs tsd stats netdevStats).driver := by
  refine ⟨?_,?_,rfl,rfl,?_,?_,?_,?_⟩ <;> simp [opened,pending,numTxDesc]

theorem Ring.submitted_length (ring : Ring owns completed d) : d.submitted.length = d.reaped.length+pending d := by
  have order := congrArg List.length ring.order
  simpa using order

theorem Ring.curTx_cell (ring : Ring owns completed d) : d.curTx = cell numTxDesc d.dirtyTx (pending d) := by
  rw [ring.cur,cell_mod ring.dirty ring.bounded]

theorem Ring.room (ring : Ring owns completed d) (running : d.stopped = false) : pending d < numTxDesc := by
  have bounded := ring.bounded
  have notFull : pending d ≠ numTxDesc := fun full => by simp [ring.full full] at running
  omega

theorem Ring.oldest_pending (ring : Ring owns completed d) (busy : reapPending d = true) : 1 ≤ pending d := by
  simp only [reapPending,Bool.or_eq_true,bne_iff_ne] at busy
  cases busy with
  | inl different =>
      have bounded := ring.dirty
      have cur := ring.cur
      rcases Nat.eq_zero_or_pos (pending d) with none | some
      · rw [none,Nat.add_zero,Nat.mod_eq_of_lt bounded] at cur
        exact absurd cur.symm different
      · exact some
  | inr stopped => exact ring.busy stopped

theorem stopWhenFull_eq (d : Driver) :
    stopWhenFull d = {d with stopped := d.stopped || decide (d.curTx = d.dirtyTx)} := by
  unfold stopWhenFull
  split
  · rename_i full
    simp [stopQueue,full]
  · rename_i room
    simp [room]

theorem wakeWhenEmpty_eq (d : Driver) :
    wakeWhenEmpty d = {d with stopped := d.stopped && decide (d.dirtyTx ≠ d.curTx)} := by
  unfold wakeWhenEmpty
  split
  · rename_i empty
    simp [empty.1]
  · rename_i busy
    have kept : (d.stopped && decide (d.dirtyTx ≠ d.curTx)) = d.stopped := by
      cases stopped : d.stopped with
      | false => rfl
      | true =>
          have different : d.dirtyTx ≠ d.curTx := fun equal => busy ⟨equal,stopped⟩
          simp [different]
    rw [kept]

theorem startXmit_fields (skb : Skb) (d : Driver) (fits : skb.len < txBufSize) :
    startXmit skb d = {d with
      txBufs := store (pad skb (d.curTx % numTxDesc) d.txBufs) (txBuf (d.curTx % numTxDesc)) skb.bytes
      tsd := Function.update d.tsd (d.curTx % numTxDesc) (BitVec.ofNat 32 (max skb.len ethMinLen))
      curTx := (d.curTx+1) % numTxDesc
      stopped := d.stopped || decide ((d.curTx+1) % numTxDesc = d.dirtyTx)
      submitted := d.submitted ++ [d.curTx % numTxDesc]} := by
  simp only [startXmit,if_pos fits,stopWhenFull_eq,advanceCurTx,writeTsd,copySkb]

theorem startXmit_ring (ring : Ring owns completed d) (running : d.stopped = false) (skb : Skb)
    (fits : skb.len < txBufSize) :
    Ring (Function.update owns (d.curTx % numTxDesc) (some d.submitted.length)) completed (startXmit skb d) := by
  have room := ring.room running
  have entry : d.curTx % numTxDesc = cell numTxDesc d.dirtyTx (pending d) := by
    rw [ring.curTx_cell,Nat.mod_eq_of_lt (cell_lt ring.dirty room)]
  have length := ring.submitted_length
  have longer : pending (startXmit skb d) = pending d+1 := by
    rw [startXmit_fields skb d fits]
    simp only [pending,List.length_append,List.length_singleton] at *
    omega
  have others : ∀ j < pending d,cell numTxDesc d.dirtyTx j ≠ cell numTxDesc d.dirtyTx (pending d) := by
    intro j inside same
    have equal := cell_inj (by omega) room same
    omega
  have cur : (d.curTx+1) % numTxDesc = (d.dirtyTx+(pending d+1)) % numTxDesc := by
    rw [ring.cur,Nat.mod_add_mod,Nat.add_assoc]
  rw [startXmit_fields skb d fits] at longer ⊢
  refine ⟨ring.dirty,longer ▸ room,?_,longer ▸ cur,?_,fun _ => longer ▸ Nat.succ_pos _,?_,ring.done⟩
  · rw [longer,window_snoc ring.dirty room,← List.append_assoc,← ring.order,entry]
  · rw [longer]
    intro full
    rw [cur,full,Nat.add_mod_right,Nat.mod_eq_of_lt ring.dirty]
    simp
  · intro j inside
    rw [longer] at inside
    simp only [entry]
    by_cases newest : j = pending d
    · rw [newest,Function.update_self,Function.update_self,length]
      exact .inr ⟨rfl,length_not_concluded (by simp only [txBufSize,ethMinLen] at *; omega)⟩
    · rw [Function.update_of_ne (others j (by omega)),Function.update_of_ne (others j (by omega))]
      exact ring.status j (by omega)

theorem startXmit_oversized (oversized : ¬ skb.len < txBufSize) (ring : Ring owns completed d) :
    Ring owns completed (startXmit skb d) := by
  simp only [startXmit,if_neg oversized]
  exact ⟨ring.dirty,ring.bounded,ring.order,ring.cur,ring.full,ring.busy,ring.status,ring.done⟩

theorem completes_ring (ring : Ring owns completed d) (entry : Nat) (status : BitVec 32) :
    Ring (Function.update owns entry none) (completed ++ (owns entry).toList)
      {d with tsd := Function.update d.tsd entry (d.tsd entry ||| status)} := by
  refine ⟨ring.dirty,ring.bounded,ring.order,ring.cur,ring.full,ring.busy,?_,?_⟩
  · intro j inside
    cases ring.status j inside with
    | inl finished => exact .inl (List.mem_append_left _ finished)
    | inr owned =>
        by_cases here : cell numTxDesc d.dirtyTx j = entry
        · rw [here] at owned
          exact .inl (List.mem_append_right _ (by simp [owned.1]))
        · exact .inr (by simpa [Function.update_of_ne here] using owned)
  · intro number reaped
    exact List.mem_append_left _ (ring.done number reaped)

theorem Ring.counted (ring : Ring owns completed d) (stats : NetDeviceStats) :
    Ring owns completed {d with stats := stats} :=
  ⟨ring.dirty,ring.bounded,ring.order,ring.cur,ring.full,ring.busy,ring.status,ring.done⟩

theorem Ring.reap_order (ring : Ring owns completed d) (some : 1 ≤ pending d) :
    d.submitted = d.reaped ++ [d.dirtyTx] ++ window numTxDesc (next numTxDesc d.dirtyTx) (pending d-1) := by
  have order := ring.order
  obtain ⟨k,more⟩ := Nat.exists_eq_add_of_le' some
  rw [more,window] at order
  rw [more,List.append_assoc]
  exact order

theorem reap_pending (txStatus : BitVec 32) (d : Driver) :
    pending (wakeWhenEmpty (reapDescriptor txStatus d)) = pending d-1 := by
  simp only [wakeWhenEmpty_eq,reapDescriptor,pending,List.length_append,List.length_singleton]
  omega

theorem reap_ring (ring : Ring owns completed d) (some : 1 ≤ pending d)
    (finished : concluded (d.tsd d.dirtyTx) = true) (txStatus : BitVec 32) :
    Ring owns completed (wakeWhenEmpty (reapDescriptor txStatus d)) := by
  have bounded := ring.bounded
  have advance := next_mod ring.dirty
  have oldest : d.reaped.length ∈ completed := by
    cases ring.status 0 some with
    | inl done => exact done
    | inr owned => simp [cell_zero ring.dirty,finished] at owned
  have cur : d.curTx = (next numTxDesc d.dirtyTx+(pending d-1)) % numTxDesc := by
    rw [ring.cur,← advance,Nat.mod_add_mod]
    congr 1
    omega
  have fields : wakeWhenEmpty (reapDescriptor txStatus d) = {d with
      stats := countTransmit txStatus d.stats
      dirtyTx := next numTxDesc d.dirtyTx
      reaped := d.reaped ++ [d.dirtyTx]
      stopped := d.stopped && decide (next numTxDesc d.dirtyTx ≠ d.curTx)} := by
    simp only [wakeWhenEmpty_eq,reapDescriptor,advance]
  have shorter := reap_pending txStatus d
  rw [fields] at shorter ⊢
  refine ⟨next_lt ring.dirty,by omega,?_,?_,by omega,?_,?_,?_⟩
  · rw [shorter]
    exact ring.reap_order some
  · rw [shorter]
    exact cur
  · intro stopped
    simp only [Bool.and_eq_true,decide_eq_true_eq] at stopped
    rcases Nat.eq_zero_or_pos (pending d-1) with none | left
    · rw [none,Nat.add_zero,Nat.mod_eq_of_lt (next_lt ring.dirty)] at cur
      exact absurd cur.symm stopped.2
    · exact shorter ▸ left
  · intro j inside
    rw [shorter] at inside
    simp only [List.length_append,List.length_singleton]
    rw [cell_next (by omega),Nat.add_assoc,Nat.add_comm 1]
    exact ring.status (j+1) (by omega)
  · intro number inside
    rw [List.length_append,List.length_singleton] at inside
    rcases Nat.lt_succ_iff_lt_or_eq.mp inside with earlier | equal
    · exact ring.done number earlier
    · exact equal ▸ oldest

-- Each pass of the loop lowers `pending`, so the handler's fuel is never short.
theorem reapLoop_ring (fuel : Nat) (ring : Ring owns completed d) (enough : pending d < fuel) :
    ∃ next,reapLoop fuel d = some next ∧ Ring owns completed next := by
  induction fuel generalizing d with
  | zero => omega
  | succ fuel ih =>
      simp only [reapLoop]
      split
      · rename_i busy
        have some := ring.oldest_pending busy
        split
        · rename_i finished
          have read := ring.counted (countCollisions (d.tsd d.dirtyTx) d.stats)
          exact ih (reap_ring read some finished _) (by rw [reap_pending]; simp only [pending] at *; omega)
        · exact ⟨_,rfl,ring.counted _⟩
      · exact ⟨d,rfl,ring⟩

theorem interrupt_ring (isr : BitVec 16) (ring : Ring owns completed d) :
    ∃ next,interrupt isr d = some next ∧ Ring owns completed next := by
  unfold interrupt
  split
  · exact reapLoop_ring _ ring (by have bounded := ring.bounded; omega)
  · exact ⟨d,rfl,ring⟩

structure Sound (s : System) : Prop where
  ring : Ring s.owns s.completed s.driver
  returns : s.hung = false

theorem apply_sound (s : System) (event : Event) (sound : Sound s) (allowed : machine.Allowed s event) :
    Sound (machine.apply s event) := by
  obtain ⟨ring,returns⟩ := sound
  cases event with
  | startXmit skb =>
      refine ⟨?_,returns⟩
      simp only [machine,transmits]
      split
      · rename_i fits
        exact startXmit_ring ring allowed skb fits
      · rename_i oversized
        exact startXmit_oversized oversized ring
  | completes entry status => exact ⟨completes_ring ring entry status,returns⟩
  | interrupt isr =>
      obtain ⟨next,step,kept⟩ := interrupt_ring isr ring
      simp only [machine,interrupts,step]
      exact ⟨kept,returns⟩

end Preservation

structure Untouched (entry : Nat) (d next : Driver) : Prop where
  tsd : next.tsd entry = d.tsd entry
  buffer : load next.txBufs (txBuf entry) txBufSize = load d.txBufs (txBuf entry) txBufSize

theorem txBuf_apart (different : entry ≠ other) : txBuf entry+txBufSize ≤ txBuf other ∨ txBuf other+txBufSize ≤ txBuf entry := by
  simp only [txBuf,txBufSize]
  omega

theorem startXmit_untouched (skb : Skb) (d : Driver) (other : entry ≠ d.curTx % numTxDesc) :
    Untouched entry d (startXmit skb d) := by
  by_cases fits : skb.len < txBufSize
  · rw [startXmit_fields skb d fits]
    have apart := txBuf_apart other
    refine ⟨Function.update_of_ne other _ _,?_⟩
    rw [load_store_disjoint (by simp only [Skb.len] at fits; omega),pad]
    split
    · rw [load_store_disjoint (by simp only [List.length_replicate,ethMinLen,txBufSize] at *; omega)]
    · rfl
  · rw [startXmit,if_neg fits]
    exact ⟨rfl,rfl⟩

structure TransmitRing (s : System) : Prop where
  bounded : pending s.driver ≤ numTxDesc
  cur : s.driver.curTx = (s.driver.dirtyTx+pending s.driver) % numTxDesc
  full : pending s.driver = numTxDesc → s.driver.stopped = true
  busy : s.driver.stopped = true → 1 ≤ pending s.driver
  untouched : s.driver.stopped = false → ∀ skb,∀ entry ∈ s.driver.submitted.drop s.driver.reaped.length,
    Untouched entry s.driver (startXmit skb s.driver)
  once : s.driver.reaped <+: s.driver.submitted
  completed : ∀ number < s.driver.reaped.length,number ∈ s.completed
  returns : s.hung = false

theorem Sound.transmitRing (sound : Sound s) : TransmitRing s := by
  obtain ⟨ring,returns⟩ := sound
  refine ⟨ring.bounded,ring.cur,ring.full,ring.busy,?_,⟨_,ring.order.symm⟩,ring.done,returns⟩
  intro running skb entry member
  have room := ring.room running
  have outside := cell_not_mem_window ring.dirty room
  have outstanding : s.driver.submitted.drop s.driver.reaped.length =
      window numTxDesc s.driver.dirtyTx (pending s.driver) := by
    rw [ring.order,List.drop_left' rfl]
  apply startXmit_untouched
  intro same
  rw [outstanding,same,ring.curTx_cell,Nat.mod_eq_of_lt (cell_lt ring.dirty room)] at member
  exact outside member

theorem transmit_ring_invariant (txBufs : Nat → UInt8) (tsd : Nat → BitVec 32) (stats netdevStats : NetDeviceStats)
    (events : List Event) (path : machine.Runs (opened txBufs tsd stats netdevStats) events) :
    TransmitRing (machine.run (opened txBufs tsd stats netdevStats) events) :=
  (machine.invariant apply_sound ⟨opened_ring txBufs tsd stats netdevStats,rfl⟩ path).transmitRing

instance decidableAllowed : ∀ s event,Decidable (machine.Allowed s event)
  | s,.startXmit _ => inferInstanceAs (Decidable (s.driver.stopped = false))
  | s,.completes entry status => inferInstanceAs (Decidable (s.owns entry ≠ none ∧ concluded status = true))
  | _,.interrupt _ => .isTrue trivial

def fullRing : List Event :=
  List.replicate 4 (.startXmit ⟨[1,2,3]⟩) ++
    [.completes 0 txStatOK,.completes 1 txStatOK,.interrupt txOK,.completes 3 txAborted,.completes 2 txStatOK,.interrupt txErr,
      .startXmit ⟨[4]⟩]

theorem transmit_ring_full_ring :
    TransmitRing (machine.run (opened (fun _ => 0) (fun _ => txHostOwns) {} {}) fullRing) ∧
    (machine.run (opened (fun _ => 0) (fun _ => txHostOwns) {} {}) (fullRing.take 4)).driver.stopped = true ∧
    (machine.run (opened (fun _ => 0) (fun _ => txHostOwns) {} {}) fullRing).driver.stopped = false :=
  ⟨transmit_ring_invariant _ _ _ _ fullRing (by decide +kernel),by decide +kernel,by decide +kernel⟩

end LinuxDeviceDrivers.Rtl8139Transmit
