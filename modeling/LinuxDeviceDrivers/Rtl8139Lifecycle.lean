import LinuxDeviceDrivers.Rtl8139Receive
import LinuxDeviceDrivers.Rtl8139Transmit

namespace LinuxDeviceDrivers.Rtl8139Lifecycle
open Transition Rtl8139Registers

-- What a handler is registered with, and freed by: the net_device, or the
-- address of the handler itself.
inductive DevId where
  | netdev
  | interrupt
deriving DecidableEq

-- rtl8139_open and rtl8139_stop stand before the statement named; `irq` and
-- `dmaTx` are the labels of open.
inductive Phase where
  | down
  | allocTx
  | allocRx
  | initCurRx
  | initDirtyTx
  | initCurTx
  | hardwareStart
  | startQueue
  | dmaTx
  | irq
  | up
  | haltChip
  | freeIrq
  | freeTx
  | freeRx
  | clearRx
  | clearTx
deriving DecidableEq

-- The handler stands before a test of its transmit or its receive loop.
inductive Handler where
  | idle
  | transmit (isr : BitVec 16)
  | receive
deriving DecidableEq

-- `actions` are the handlers on the line, `dma` the coherent buffers allocated
-- and not freed. `session` counts the opens; the fields below it say which open
-- initialised an index last.
structure System where
  phase : Phase := .down
  actions : List DevId := []
  dma : List Nat := []
  allocations : Nat := 0
  txBufs : Option Nat := none
  rxRing : Option Nat := none
  curRx : Nat := 0
  dirtyTx : Nat := 0
  curTx : Nat := 0
  stopped : Bool := false
  handler : Handler := .idle
  session : Nat := 0
  curRxSession : Nat := 0
  dirtyTxSession : Nat := 0
  curTxSession : Nat := 0

def requestIrq (devId : DevId) (s : System) : System := {s with actions := devId :: s.actions}
def freeIrq (devId : DevId) (s : System) : System := {s with actions := s.actions.erase devId}
def pciAllocConsistent (s : System) : System := {s with dma := s.allocations :: s.dma,allocations := s.allocations+1}
def pciFreeConsistent (buffer : Option Nat) (s : System) : System :=
  {s with dma := buffer.elim s.dma s.dma.erase}

def rtl8139Open (granted : Bool) (s : System) : System :=
  match s.phase with
  | .down =>
      let begun := {s with session := s.session+1}
      if granted then {requestIrq .netdev begun with phase := .allocTx} else begun
  | .allocTx =>
      if granted then {pciAllocConsistent s with txBufs := some s.allocations,phase := .allocRx}
      else {s with txBufs := none,phase := .irq}
  | .allocRx =>
      if granted then {pciAllocConsistent s with rxRing := some s.allocations,phase := .initCurRx}
      else {s with rxRing := none,phase := .dmaTx}
  | .initCurRx => {s with curRx := 0,curRxSession := s.session,phase := .initDirtyTx}
  | .initDirtyTx => {s with dirtyTx := 0,dirtyTxSession := s.session,phase := .initCurTx}
  | .initCurTx => {s with curTx := 0,curTxSession := s.session,phase := .hardwareStart}
  | .hardwareStart => {s with phase := .startQueue}
  | .startQueue => {s with stopped := false,phase := .up}
  | .dmaTx => {pciFreeConsistent s.txBufs s with phase := .down}
  | .irq => {freeIrq .interrupt s with phase := .down}
  | _ => s

def rtl8139Stop (s : System) : System :=
  match s.phase with
  | .up => {s with stopped := true,phase := .haltChip}
  | .haltChip => {s with phase := .freeIrq}
  | .freeIrq => {freeIrq .netdev s with phase := .freeTx}
  | .freeTx => {pciFreeConsistent s.txBufs s with phase := .freeRx}
  | .freeRx => {pciFreeConsistent s.rxRing s with phase := .clearRx}
  | .clearRx => {s with rxRing := none,phase := .clearTx}
  | .clearTx => {s with txBufs := none,phase := .down}
  | _ => s

def received (isr : BitVec 16) : Handler := if isr &&& rxOK != 0#16 then .receive else .idle

-- rtl8139_interrupt up to its transmit loop, then a pass of either loop on what
-- the TSD register, or CR and the packet header, read.
def enters (isr : BitVec 16) (s : System) : System :=
  if serviced isr then
    {s with handler := if Rtl8139Transmit.transmitCause isr then .transmit isr else received isr}
  else s

def reaps (txStatus : BitVec 32) (s : System) : System :=
  match s.handler with
  | .transmit isr =>
      if (s.dirtyTx != s.curTx || s.stopped) && Rtl8139Transmit.concluded txStatus then
        let dirtyTx := (s.dirtyTx+1) % numTxDesc
        {s with dirtyTx := dirtyTx,stopped := s.stopped && dirtyTx != s.curTx}
      else {s with handler := received isr}
  | _ => s

def receives (cr : BitVec 8) (rxStatus : BitVec 32) (s : System) : System :=
  if cr &&& rxBufEmpty = 0#8 then
    let curRx := Rtl8139Receive.addressWrap s.curRx
    {s with curRx := Rtl8139Receive.dwordAlign ((curRx+rxStatus.toNat/65536+4+3) % 0x100000000)}
  else {s with handler := .idle}

inductive Event where
  | opens (granted : Bool)
  | stops
  | interrupt (isr : BitVec 16)
  | reaps (txStatus : BitVec 32)
  | receives (cr : BitVec 8) (rxStatus : BitVec 32)

def Handler.transmitting : Handler → Bool
  | .transmit _ => true
  | _ => false

def opening : Phase → Bool
  | .down | .allocTx | .allocRx | .initCurRx | .initDirtyTx | .initCurTx | .hardwareStart | .startQueue | .dmaTx
  | .irq => true
  | _ => false

-- The stack opens an interface that is down and stops one that is up. The line
-- is shared: the handler may be called whenever it is registered, on one CPU at
-- a time, and free_irq waits for it.
def machine : Machine System Event where
  Allowed s event := match event with
    | .opens _ => opening s.phase = true
    | .stops => opening s.phase = false ∧ (s.phase = .freeIrq → s.handler = .idle)
    | .interrupt _ => .netdev ∈ s.actions ∧ s.handler = .idle
    | .reaps _ => s.handler.transmitting = true
    | .receives _ _ => s.handler = .receive
  apply s event := match event with
    | .opens granted => rtl8139Open granted s
    | .stops => rtl8139Stop s
    | .interrupt isr => enters isr s
    | .reaps txStatus => reaps txStatus s
    | .receives cr rxStatus => receives cr rxStatus s

instance decidableAllowed : ∀ s event,Decidable (machine.Allowed s event)
  | s,.opens _ => inferInstanceAs (Decidable (opening s.phase = true))
  | s,.stops => inferInstanceAs (Decidable (opening s.phase = false ∧ (s.phase = .freeIrq → s.handler = .idle)))
  | s,.interrupt _ => inferInstanceAs (Decidable (.netdev ∈ s.actions ∧ s.handler = .idle))
  | s,.reaps _ => inferInstanceAs (Decidable (s.handler.transmitting = true))
  | s,.receives _ _ => inferInstanceAs (Decidable (s.handler = .receive))

def registered : Phase → Nat
  | .down | .dmaTx | .irq | .freeTx | .freeRx | .clearRx | .clearTx => 0
  | _ => 1

def handlers (s : System) : Nat := s.actions.count .netdev

def Buffers (s : System) : Prop :=
  match s.phase with
  | .down | .irq | .allocTx | .clearTx => s.dma = [] ∧ s.rxRing = none
  | .allocRx | .dmaTx => s.rxRing = none ∧ ∃ tx < s.allocations,s.txBufs = some tx ∧ s.dma = [tx]
  | .freeRx => ∃ rx,s.rxRing = some rx ∧ s.dma = [rx]
  | .clearRx => s.dma = []
  | _ => ∃ tx rx,tx ≠ rx ∧ s.txBufs = some tx ∧ s.rxRing = some rx ∧ s.dma = [rx,tx]

structure Handled (s t : System) : Prop where
  phase : t.phase = s.phase
  actions : t.actions = s.actions
  dma : t.dma = s.dma
  allocations : t.allocations = s.allocations
  txBufs : t.txBufs = s.txBufs
  rxRing : t.rxRing = s.rxRing
  session : t.session = s.session
  curRxSession : t.curRxSession = s.curRxSession
  dirtyTxSession : t.dirtyTxSession = s.dirtyTxSession
  curTxSession : t.curTxSession = s.curTxSession

section Steps
variable {s t : System}

theorem enters_handled (isr : BitVec 16) (s : System) : Handled s (enters isr s) := by
  unfold enters
  split <;> exact ⟨rfl,rfl,rfl,rfl,rfl,rfl,rfl,rfl,rfl,rfl⟩

theorem reaps_handled (txStatus : BitVec 32) (s : System) : Handled s (reaps txStatus s) := by
  unfold reaps
  split
  · simp only []
    split <;> exact ⟨rfl,rfl,rfl,rfl,rfl,rfl,rfl,rfl,rfl,rfl⟩
  · exact ⟨rfl,rfl,rfl,rfl,rfl,rfl,rfl,rfl,rfl,rfl⟩

theorem receives_handled (cr : BitVec 8) (rxStatus : BitVec 32) (s : System) : Handled s (receives cr rxStatus s) := by
  unfold receives
  split <;> exact ⟨rfl,rfl,rfl,rfl,rfl,rfl,rfl,rfl,rfl,rfl⟩

theorem Handled.buffers (handled : Handled s t) (buffers : Buffers s) : Buffers t := by
  unfold Buffers at *
  simpa only [handled.phase,handled.dma,handled.allocations,handled.txBufs,handled.rxRing] using buffers

theorem rtl8139Open_buffers (granted : Bool) (buffers : Buffers s) : Buffers (rtl8139Open granted s) := by
  unfold Buffers at buffers
  cases phase : s.phase with
  | down => cases granted <;> simpa [rtl8139Open,phase,requestIrq,Buffers] using buffers
  | allocTx =>
      simp only [phase] at buffers
      obtain ⟨dma,rxRing⟩ := buffers
      cases granted with
      | false => simp [rtl8139Open,phase,Buffers,dma,rxRing]
      | true => simp [rtl8139Open,phase,pciAllocConsistent,Buffers,dma,rxRing]
  | allocRx =>
      simp only [phase] at buffers
      obtain ⟨_,tx,older,txBufs,dma⟩ := buffers
      cases granted with
      | false => simpa [rtl8139Open,phase,Buffers] using ⟨tx,older,txBufs,dma⟩
      | true =>
          simp only [rtl8139Open,phase,pciAllocConsistent,Buffers,if_true]
          exact ⟨tx,s.allocations,by omega,txBufs,rfl,by rw [dma]⟩
  | dmaTx =>
      simp only [phase] at buffers
      obtain ⟨rxRing,tx,_,txBufs,dma⟩ := buffers
      simp [rtl8139Open,phase,pciFreeConsistent,Buffers,rxRing,txBufs,dma]
  | irq => simpa [rtl8139Open,phase,freeIrq,Buffers] using buffers
  | _ => simpa [rtl8139Open,phase,Buffers] using buffers

theorem rtl8139Stop_buffers (buffers : Buffers s) : Buffers (rtl8139Stop s) := by
  unfold Buffers at buffers
  cases phase : s.phase with
  | freeTx =>
      simp only [phase] at buffers
      obtain ⟨tx,rx,different,txBufs,rxRing,dma⟩ := buffers
      simp [rtl8139Stop,phase,pciFreeConsistent,Buffers,txBufs,rxRing,dma,different.symm]
  | freeRx =>
      simp only [phase] at buffers
      obtain ⟨rx,rxRing,dma⟩ := buffers
      simp [rtl8139Stop,phase,pciFreeConsistent,Buffers,rxRing,dma]
  | clearTx => simpa [rtl8139Stop,phase,Buffers] using buffers
  | freeIrq => simpa [rtl8139Stop,phase,freeIrq,Buffers] using buffers
  | _ => simpa [rtl8139Stop,phase,Buffers] using buffers

theorem apply_buffers (s : System) (event : Event) (buffers : Buffers s) : Buffers (machine.apply s event) := by
  cases event with
  | opens granted => exact rtl8139Open_buffers granted buffers
  | stops => exact rtl8139Stop_buffers buffers
  | interrupt isr => exact (enters_handled isr s).buffers buffers
  | reaps txStatus => exact (reaps_handled txStatus s).buffers buffers
  | receives cr rxStatus => exact (receives_handled cr rxStatus s).buffers buffers

end Steps

end LinuxDeviceDrivers.Rtl8139Lifecycle
