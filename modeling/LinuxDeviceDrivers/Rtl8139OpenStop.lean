import LinuxDeviceDrivers.Rtl8139Lifecycle

namespace LinuxDeviceDrivers.Rtl8139OpenStop
open Transition Rtl8139Registers Rtl8139Lifecycle

-- What an open and a stop leave between them: after each call, one handler and
-- both buffers if the interface is up, none if it is down. A failing open thus
-- returns to what it found.
structure Balanced (s : System) : Prop where
  up : s.phase = .up → handlers s = 1 ∧
    ∃ tx rx,tx ≠ rx ∧ s.txBufs = some tx ∧ s.rxRing = some rx ∧ s.dma = [rx,tx]
  down : s.phase = .down → handlers s = 0 ∧ s.dma = []

-- A call of pci_alloc_consistent fails. request_irq may fail at no cost.
def AllocationFails (s : System) : Event → Prop
  | .opens granted => granted = false ∧ (s.phase = .allocTx ∨ s.phase = .allocRx)
  | _ => False

instance decidableAllocationFails (s : System) : ∀ event,Decidable (AllocationFails s event)
  | .opens granted => inferInstanceAs (Decidable (granted = false ∧ (s.phase = .allocTx ∨ s.phase = .allocRx)))
  | .stops | .interrupt _ | .reaps _ | .receives _ _ => .isFalse id

def Loses (s : System) (count : Nat) : Prop := handlers s = registered s.phase+count

section Balance
variable {s t : System} {count : Nat}

theorem Loses.frame (before : Loses s count) (actions : t.actions = s.actions)
    (same : registered t.phase = registered s.phase) : Loses t count := by
  rw [Loses,handlers,actions,same]
  exact before

-- A failed allocation loses the handler that open has registered: neither label
-- frees it. Nothing else registers or frees one too many.
theorem rtl8139Open_loses (granted : Bool) (before : Loses s count) :
    Loses (rtl8139Open granted s) (count+if AllocationFails s (.opens granted) then 1 else 0) := by
  cases phase : s.phase with
  | down =>
      rw [if_neg (by simp [AllocationFails,phase])]
      cases granted with
      | false => exact before.frame (by simp [rtl8139Open,phase]) (by simp [rtl8139Open,phase])
      | true =>
          rw [Loses,handlers,phase] at before
          simp [Loses,handlers,rtl8139Open,phase,requestIrq,before,registered]
          omega
  | allocTx | allocRx =>
      cases granted with
      | false =>
          rw [Loses,handlers,phase] at before
          simp [Loses,handlers,rtl8139Open,phase,before,registered,AllocationFails]
          omega
      | true =>
          rw [if_neg (by simp [AllocationFails])]
          exact before.frame (by simp [rtl8139Open,phase,pciAllocConsistent]) (by simp [rtl8139Open,phase,registered])
  | irq =>
      rw [Loses,handlers,phase] at before
      simpa [Loses,handlers,rtl8139Open,phase,freeIrq,registered,AllocationFails,List.count_erase_of_ne] using before
  | _ =>
      rw [if_neg (by simp [AllocationFails,phase])]
      exact before.frame (by simp [rtl8139Open,phase,pciFreeConsistent]) (by simp [rtl8139Open,phase,registered])

theorem rtl8139Stop_loses (before : Loses s count) : Loses (rtl8139Stop s) count := by
  cases phase : s.phase with
  | freeIrq =>
      rw [Loses,handlers,phase] at before
      simp [Loses,handlers,rtl8139Stop,phase,freeIrq,registered,List.count_erase_self,before]
  | _ => exact before.frame (by simp [rtl8139Stop,phase,pciFreeConsistent]) (by simp [rtl8139Stop,phase,registered])

theorem Handled.loses (handled : Handled s t) (before : Loses s count) : Loses t count :=
  before.frame handled.actions (by rw [handled.phase])

theorem apply_loses (s : System) (event : Event) (before : Loses s count) :
    Loses (machine.apply s event) (count+if AllocationFails s event then 1 else 0) := by
  cases event with
  | opens granted => exact rtl8139Open_loses granted before
  | stops => exact rtl8139Stop_loses before
  | interrupt isr => exact Handled.loses (enters_handled isr s) before
  | reaps txStatus => exact Handled.loses (reaps_handled txStatus s) before
  | receives cr rxStatus => exact Handled.loses (receives_handled cr rxStatus s) before

def Lost (s : System) : Prop := ∃ count,Loses s (count+1)

theorem failure_lost (before : ∃ count,Loses s count) (fails : AllocationFails s event) :
    Lost (machine.apply s event) := by
  obtain ⟨count,before⟩ := before
  have stepped := apply_loses s event before
  rw [if_pos fails] at stepped
  exact ⟨count,stepped⟩

theorem apply_lost (s : System) (event : Event) (lost : Lost s) : Lost (machine.apply s event) := by
  obtain ⟨count,before⟩ := lost
  have stepped := apply_loses s event before
  rw [Nat.add_right_comm] at stepped
  exact ⟨_,stepped⟩

theorem Loses.not_lost (none : Loses s 0) : ¬ Lost s := by
  rintro ⟨count,some⟩
  rw [Loses] at none some
  omega

theorem Loses.balanced (none : Loses s 0) (buffers : Buffers s) : Balanced s := by
  refine ⟨?_,?_⟩
  · intro up
    simp only [Buffers,up] at buffers
    exact ⟨by rw [none,up]; rfl,buffers⟩
  · intro down
    simp only [Buffers,down] at buffers
    exact ⟨by rw [none,down]; rfl,buffers.1⟩

theorem Balanced.loses (balanced : Balanced s) (between : s.phase = .down ∨ s.phase = .up) : Loses s 0 := by
  cases between with
  | inl down => rw [Loses,(balanced.down down).1,down]; rfl
  | inr up => rw [Loses,(balanced.up up).1,up]; rfl

end Balance

theorem open_stop_balance_iff (events : List Event)
    (between : (machine.run {} events).phase = .down ∨ (machine.run {} events).phase = .up) :
    machine.Throughout Balanced {} events ↔ machine.Along (fun s event => ¬ AllocationFails s event) {} events := by
  constructor
  · intro balanced
    have start : ∃ count,Loses {} count := ⟨0,rfl⟩
    have any : machine.Along (fun _ _ => True) {} events := Machine.along_of_forall (fun _ _ => trivial) _ events
    exact Machine.along_of_doomed (fun s event before _ => before.imp' _ fun _ => apply_loses s event)
      (fun s event before _ _ granted => failure_lost before (Classical.not_not.mp granted))
      (fun s event _ _ lost => apply_lost s event lost) start any balanced (balanced.last.loses between).not_lost
  · intro granted
    have preserved : ∀ s event,Loses s 0 ∧ Buffers s → ¬ AllocationFails s event →
        Loses (machine.apply s event) 0 ∧ Buffers (machine.apply s event) := by
      intro s event kept granted
      have stepped := apply_loses s event kept.1
      rw [if_neg granted] at stepped
      exact ⟨stepped,apply_buffers s event kept.2⟩
    have start : Loses {} 0 ∧ Buffers {} := ⟨rfl,rfl,rfl⟩
    exact (Machine.throughout_of_invariant preserved start granted).imp fun s kept => kept.1.balanced kept.2

def session : List Event :=
  [.opens false,.opens true,.opens true,.opens true,.opens true,.opens true,.opens true,.opens true,.opens true,
    .stops,.stops,.stops,.stops,.stops,.stops,.stops]

theorem open_stop_balance_session : machine.Throughout Balanced {} session :=
  (open_stop_balance_iff session (.inl (by decide +kernel))).mpr (by decide +kernel)

def noTransmitBuffers : List Event := [.opens true,.opens false,.opens true]

theorem failed_open_keeps_handler : machine.Runs {} noTransmitBuffers ∧
    ¬ machine.Throughout Balanced {} noTransmitBuffers := by
  refine ⟨by decide +kernel,?_⟩
  intro all
  exact absurd (all.last.down (by decide +kernel)).1 (by decide +kernel)

def rxSet : Phase → Bool
  | .down | .allocTx | .allocRx | .dmaTx | .irq | .initCurRx => false
  | _ => true

def dirtySet (phase : Phase) : Bool := rxSet phase && phase != .initDirtyTx
def curSet (phase : Phase) : Bool := dirtySet phase && phase != .initCurTx

def ringHeld : Phase → Bool
  | .down | .allocTx | .allocRx | .dmaTx | .irq | .clearRx | .clearTx => false
  | _ => true

def Current (s : System) (session : Nat) : Prop := s.phase ≠ .down ∧ session = s.session

-- What a pass of the transmit loop and one of the receive loop rely on.
def Live (s : System) : Event → Prop
  | .reaps _ => Current s s.dirtyTxSession ∧ Current s s.curTxSession
  | .receives cr _ => cr &&& rxBufEmpty = 0#8 → (∃ rx ∈ s.dma,s.rxRing = some rx) ∧ Current s s.curRxSession
  | _ => True

-- The transmit loop runs between `cur_tx = 0` and the return of stop, the
-- receive loop finds a packet between `cur_rx = 0` and the freeing of the ring.
def Settled (s : System) : Event → Prop
  | .reaps _ => curSet s.phase = true
  | .receives cr _ => cr &&& rxBufEmpty = 0#8 → rxSet s.phase = true ∧ ringHeld s.phase = true
  | _ => True

instance decidableSettled (s : System) : ∀ event,Decidable (Settled s event)
  | .reaps _ => inferInstanceAs (Decidable (curSet s.phase = true))
  | .receives cr _ =>
      inferInstanceAs (Decidable (cr &&& rxBufEmpty = 0#8 → rxSet s.phase = true ∧ ringHeld s.phase = true))
  | .opens _ | .stops | .interrupt _ => .isTrue trivial

structure Indices (s : System) : Prop where
  past : s.curRxSession ≤ s.session ∧ s.dirtyTxSession ≤ s.session ∧ s.curTxSession ≤ s.session
  rx : s.phase ≠ .down → (s.curRxSession = s.session ↔ rxSet s.phase = true)
  dirty : s.phase ≠ .down → (s.dirtyTxSession = s.session ↔ dirtySet s.phase = true)
  cur : s.phase ≠ .down → (s.curTxSession = s.session ↔ curSet s.phase = true)

section Liveness
variable {s t : System}

theorem Handled.indices (handled : Handled s t) (indices : Indices s) : Indices t := by
  obtain ⟨past,rx,dirty,cur⟩ := indices
  refine ⟨?_,?_,?_,?_⟩
  · simpa only [handled.session,handled.curRxSession,handled.dirtyTxSession,handled.curTxSession] using past
  · simpa only [handled.phase,handled.session,handled.curRxSession] using rx
  · simpa only [handled.phase,handled.session,handled.dirtyTxSession] using dirty
  · simpa only [handled.phase,handled.session,handled.curTxSession] using cur

theorem rtl8139Open_indices (granted : Bool) (indices : Indices s) : Indices (rtl8139Open granted s) := by
  obtain ⟨past,rx,dirty,cur⟩ := indices
  cases phase : s.phase with
  | down =>
      cases granted with
      | false =>
          refine ⟨?_,by simp [rtl8139Open,phase],by simp [rtl8139Open,phase],by simp [rtl8139Open,phase]⟩
          simp only [rtl8139Open,phase]
          exact ⟨Nat.le_succ_of_le past.1,Nat.le_succ_of_le past.2.1,Nat.le_succ_of_le past.2.2⟩
      | true =>
          refine ⟨?_,?_,?_,?_⟩ <;> simp [rtl8139Open,phase,requestIrq,rxSet,dirtySet,curSet] <;> omega
  | dmaTx => exact ⟨by simpa [rtl8139Open,phase,pciFreeConsistent] using past,by simp [rtl8139Open,phase],
      by simp [rtl8139Open,phase],by simp [rtl8139Open,phase]⟩
  | irq => exact ⟨by simpa [rtl8139Open,phase,freeIrq] using past,by simp [rtl8139Open,phase],
      by simp [rtl8139Open,phase],by simp [rtl8139Open,phase]⟩
  | allocTx | allocRx =>
      simp [phase,rxSet,dirtySet,curSet] at rx dirty cur
      cases granted <;> refine ⟨?_,?_,?_,?_⟩ <;>
        simp [rtl8139Open,phase,pciAllocConsistent,rxSet,dirtySet,curSet,rx,dirty,cur,past]
  | initCurRx | initDirtyTx | initCurTx =>
      simp [phase,rxSet,dirtySet,curSet] at rx dirty cur
      refine ⟨?_,?_,?_,?_⟩ <;> simp [rtl8139Open,phase,rxSet,dirtySet,curSet,rx,dirty,cur,past]
  | _ =>
      simp [phase,rxSet,dirtySet,curSet] at rx dirty cur
      refine ⟨?_,?_,?_,?_⟩ <;> simp [rtl8139Open,phase,rxSet,dirtySet,curSet,rx,dirty,cur]

theorem rtl8139Stop_indices (indices : Indices s) : Indices (rtl8139Stop s) := by
  obtain ⟨past,rx,dirty,cur⟩ := indices
  cases phase : s.phase with
  | clearTx => exact ⟨by simpa [rtl8139Stop,phase] using past,by simp [rtl8139Stop,phase],
      by simp [rtl8139Stop,phase],by simp [rtl8139Stop,phase]⟩
  | _ =>
      simp [phase,rxSet,dirtySet,curSet] at rx dirty cur
      refine ⟨?_,?_,?_,?_⟩ <;>
        simp [rtl8139Stop,phase,freeIrq,pciFreeConsistent,rxSet,dirtySet,curSet,rx,dirty,cur,past]

theorem apply_indices (s : System) (event : Event) (indices : Indices s) : Indices (machine.apply s event) := by
  cases event with
  | opens granted => exact rtl8139Open_indices granted indices
  | stops => exact rtl8139Stop_indices indices
  | interrupt isr => exact Handled.indices (enters_handled isr s) indices
  | reaps txStatus => exact Handled.indices (reaps_handled txStatus s) indices
  | receives cr rxStatus => exact Handled.indices (receives_handled cr rxStatus s) indices

theorem transmit_live_iff (indices : Indices s) :
    Current s s.dirtyTxSession ∧ Current s s.curTxSession ↔ curSet s.phase = true := by
  by_cases down : s.phase = .down
  · simp [Current,down,curSet,dirtySet,rxSet]
  · have dirty := indices.dirty down
    have cur := indices.cur down
    constructor
    · intro live
      exact cur.mp live.2.2
    · intro set
      have before : dirtySet s.phase = true := by
        rw [curSet,Bool.and_eq_true] at set
        exact set.1
      exact ⟨⟨down,dirty.mpr before⟩,down,cur.mpr set⟩

theorem ring_live_iff (buffers : Buffers s) : (∃ rx ∈ s.dma,s.rxRing = some rx) ↔ ringHeld s.phase = true := by
  unfold Buffers at buffers
  cases phase : s.phase with
  | down | irq | allocTx | clearTx | clearRx =>
      simp only [phase] at buffers
      simp [ringHeld,buffers]
  | allocRx | dmaTx =>
      simp only [phase] at buffers
      simp [ringHeld,buffers.1]
  | freeRx =>
      simp only [phase] at buffers
      obtain ⟨rx,rxRing,dma⟩ := buffers
      simp [ringHeld,rxRing,dma]
  | _ =>
      simp only [phase] at buffers
      obtain ⟨tx,rx,_,_,rxRing,dma⟩ := buffers
      simp [ringHeld,rxRing,dma]

theorem receive_live_iff (buffers : Buffers s) (indices : Indices s) :
    (∃ rx ∈ s.dma,s.rxRing = some rx) ∧ Current s s.curRxSession ↔ rxSet s.phase = true ∧ ringHeld s.phase = true := by
  rw [ring_live_iff buffers,and_comm]
  apply and_congr_left
  intro _
  by_cases down : s.phase = .down
  · simp [Current,down,rxSet]
  · exact ⟨fun current => (indices.rx down).mp current.2,fun set => ⟨down,(indices.rx down).mpr set⟩⟩

theorem live_iff (buffers : Buffers s) (indices : Indices s) (event : Event) : Live s event ↔ Settled s event := by
  cases event with
  | reaps txStatus => exact transmit_live_iff indices
  | receives cr rxStatus => exact imp_congr_right fun _ => receive_live_iff buffers indices
  | _ => exact Iff.rfl

end Liveness

theorem live_buffers_iff (events : List Event) (path : machine.Runs {} events) :
    machine.Along Live {} events ↔ machine.Along Settled {} events := by
  have same : ∀ s event,Buffers s ∧ Indices s → machine.Allowed s event → (Live s event ↔ Settled s event) :=
    fun s event sound _ => live_iff sound.1 sound.2 event
  have preserved : ∀ s event,Buffers s ∧ Indices s → machine.Allowed s event →
      Buffers (machine.apply s event) ∧ Indices (machine.apply s event) :=
    fun s event sound _ => ⟨apply_buffers s event sound.1,apply_indices s event sound.2⟩
  have start : Buffers {} ∧ Indices {} := ⟨⟨rfl,rfl⟩,by simp,by simp,by simp,by simp⟩
  exact Machine.along_congr same preserved start path

def sharedInterrupt : List Event :=
  [.opens true,.opens true,.opens true,.opens true,.opens true,.opens true,.opens true,.opens true,
    .interrupt (txOK ||| rxOK),.reaps 0#32,.receives 0#8 0x00400001#32,.receives rxBufEmpty 0#32]

theorem live_buffers_shared : machine.Along Live {} sharedInterrupt :=
  (live_buffers_iff sharedInterrupt (by decide +kernel)).mpr (by decide +kernel)

def failedOpenInterrupted : List Event :=
  [.opens true,.opens true,.opens false,.opens true,.interrupt rxOK,.receives 0#8 0x00400001#32]

theorem failed_open_null_ring : machine.Runs {} failedOpenInterrupted ∧
    ¬ machine.Along Live {} failedOpenInterrupted := by
  refine ⟨by decide +kernel,?_⟩
  intro live
  obtain ⟨_,_,_,_,_,read,_⟩ := live
  obtain ⟨⟨rx,held,_⟩,_⟩ := read (by decide)
  have freed : (machine.run {} (failedOpenInterrupted.take 5)).dma = [] := by decide +kernel
  exact absurd (show rx ∈ [] from freed ▸ held) List.not_mem_nil

end LinuxDeviceDrivers.Rtl8139OpenStop
