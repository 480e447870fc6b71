import LinuxDeviceDrivers.Rtl8150Transmit

namespace LinuxDeviceDrivers.Rtl8150Receive
open Transition ByteStore NetDevice Rtl8150

-- The receive side of the driver's state: the fields, the skbs given to the
-- stack, and the bulk IN URBs in flight.
structure Receive where
  rxUrb : Option Nat
  rxSkb : Option Nat
  rxSkbs : Nat
  netifRx : List (Nat × Int)
  incoming : Nat → Option Urb

def flying (urb : Urb) : Option Urb := if urb.pipe = .bulkIn ∧ urb.state ≠ .idle then some urb else none

def receive (s : Rtl8150.System) : Receive where
  rxUrb := s.priv.rxUrb
  rxSkb := s.priv.rxSkb
  rxSkbs := s.rxSkbs
  netifRx := s.netifRx
  incoming urb := flying (s.urbs urb)

section Link
variable {s : Rtl8150.System} {index : Nat} {urb : Urb}

theorem flying_eq_some : flying urb = some other ↔ (urb.pipe = .bulkIn ∧ urb.state ≠ .idle) ∧ urb = other := by
  simp [flying]

theorem flying_busy (pipe : urb.pipe = .bulkIn) (busy : urb.state ≠ .idle) : flying urb = some urb :=
  flying_eq_some.mpr ⟨⟨pipe,busy⟩,rfl⟩

theorem receive_setUrb (index : Nat) (urb : Urb) (s : Rtl8150.System) :
    receive (setUrb index urb s) =
      {receive s with incoming := Function.update (receive s).incoming index (flying urb)} := by
  have incoming := Function.comp_update flying s.urbs index urb
  exact congrArg (fun incoming => {receive s with incoming := incoming}) incoming

theorem receive_unchanged (same : flying urb = flying (s.urbs index)) : receive (setUrb index urb s) = receive s := by
  rw [receive_setUrb,same]
  exact congrArg (fun incoming => {receive s with incoming := incoming}) (Function.update_eq_self index _)

theorem flying_idle (idle : urb.state = .idle) : flying urb = none := by simp [flying,idle]

theorem receive_setState (state : UrbState) (other : (s.urbs index).pipe ≠ .bulkIn) :
    receive (setState index state s) = receive s := receive_unchanged (by simp [flying,other])

theorem receive_done (pipe : (s.urbs index).pipe = .bulkIn) (status : Int) (actualLength : Nat) :
    receive (setState index (.done status actualLength) s) = {receive s with
      incoming := Function.update (receive s).incoming index
        (some {s.urbs index with state := .done status actualLength})} := by
  have ends : flying {s.urbs index with state := .done status actualLength} = _ := flying_busy pipe UrbState.noConfusion
  rw [setState,receive_setUrb,ends]

theorem receive_usbSubmitUrb (result : Int) (other : (s.urbs index).pipe ≠ .bulkIn) :
    receive (usbSubmitUrb index result s).2 = receive s := usbSubmitUrb_unseen (receive_setState .active other) result

theorem receive_startXmit (wellformed : Wellformed s) (skb len : Nat) (allocated : Bool) (result : Int) :
    receive (rtl8150StartXmit skb len allocated result s) = receive s := by
  have fresh := wellformed.fresh s.urbCount (Nat.le_refl _)
  cases allocated with
  | false => rfl
  | true =>
      let taken := takeSkb skb (some s.urbCount) {s with urbCount := s.urbCount+1}
      let filled := fillUrb s.urbCount .bulkOut (some skb) len taken
      have unsent : receive filled = receive s := receive_unchanged (by simp [flying,taken,takeSkb,fresh])
      have sent : receive (usbSubmitUrb s.urbCount result filled).2 = receive filled :=
        receive_usbSubmitUrb result (by simp [filled,fillUrb,setUrb])
      simp only [rtl8150StartXmit,if_true]
      split
      · exact sent.trans unsent
      · exact sent.trans unsent

theorem receive_intrCallback (pipe : (s.urbs index).pipe ≠ .bulkIn) (status : Int) (answer : CallbackAnswer) :
    receive (intrCallback index status answer s) = receive s := by
  unfold intrCallback
  split
  · split
    · rfl
    · exact receive_usbSubmitUrb (s:=reportLink answer s) answer.result pipe
  · split
    · rfl
    · exact receive_usbSubmitUrb answer.result pipe

theorem receive_writeBulkCallback (status : Int) (actualLength : Nat) (s : Rtl8150.System) :
    receive (writeBulkCallback status actualLength s) = receive s := by
  unfold writeBulkCallback
  split
  · rfl
  · split <;> rfl

theorem receive_callback_other (answer : CallbackAnswer) (other : (s.urbs index).pipe ≠ .bulkIn) :
    receive (callback index answer s) = receive s := by
  unfold callback
  cases finished : (s.urbs index).state with
  | idle | active => rfl
  | done status actualLength =>
      have given : receive {setState index .idle s with awaited := s.awaited.erase index} = receive s :=
        receive_setState .idle other
      cases pipe : (s.urbs index).pipe with
      | bulkIn => exact absurd pipe other
      | bulkOut => simp only [runCallback,pipe,receive_writeBulkCallback,given]
      | interruptIn =>
          simp only [runCallback,pipe]
          rw [receive_intrCallback (by simp [setState,setUrb,pipe]),given]

theorem receive_reschedule (answer : CallbackAnswer) (granted : answer.rxSkb = true) (rx : s.priv.rxUrb = some index)
    (idle : (s.urbs index).state = .idle) : ∃ next,receive (reschedule answer s) = {receive s with
      rxSkb := some s.rxSkbs
      rxSkbs := s.rxSkbs+1
      incoming := Function.update (receive s).incoming index next} ∧
      ∀ urb,next = some urb → urb.buffer = some s.rxSkbs ∧ urb.length = rtl8150Mtu ∧ urb.state = .active := by
  let allocated := {s with rxSkbs := s.rxSkbs+1,priv := {s.priv with rxSkb := some s.rxSkbs}}
  let filled := fillUrb index .bulkIn (some s.rxSkbs) rtl8150Mtu allocated
  have renewed : reschedule answer s = (usbSubmitUrb index answer.result filled).2 := by
    unfold reschedule
    rw [granted,rx]
  let prepared : Urb := {s.urbs index with pipe := .bulkIn,buffer := some s.rxSkbs,length := rtl8150Mtu}
  have unsent : receive filled = {receive s with
      rxSkb := some s.rxSkbs
      rxSkbs := s.rxSkbs+1
      incoming := Function.update (receive s).incoming index (flying prepared)} := receive_setUrb index prepared allocated
  rw [renewed]
  cases usbSubmitUrb_cases index answer.result filled with
  | inl refused =>
      refine ⟨none,?_,by simp⟩
      have quiet : flying prepared = none := flying_idle idle
      rw [refused,unsent,quiet]
  | inr submitted =>
      refine ⟨flying {filled.urbs index with state := .active},?_,?_⟩
      · rw [submitted,setState,receive_setUrb,unsent]
        simp only [Function.update_idem]
      · intro urb sent
        obtain ⟨_,rfl⟩ := flying_eq_some.mp sent
        simp [filled,fillUrb,setUrb]

end Link

structure Frame where
  skb : Nat
  bytes : List UInt8

-- The memory of the receive skbs. `offsets` says where in its skb the transfer
-- buffer of each URB starts, `arrived` what the device last transferred there;
-- `transfers` lists what read_bulk_callback learnt to have arrived, `received`
-- what it gave to netif_rx.
structure Memory where
  skbs : Nat → SkBuff
  offsets : Nat → Nat
  arrived : Nat → List UInt8 := fun _ => []
  transfers : List Frame := []
  received : List Frame := []

def receiveSkb (memory : Nat → UInt8) : SkBuff := skbReserve 2 (devAllocSkb (rtl8150Mtu+2) memory)

-- The device writes the transfer buffer whatever status it ends with.
def transfer (urb : Nat) (buffer : Option Nat) (bytes : List UInt8) (m : Memory) : Memory :=
  match buffer with
  | some skb => {m with
      skbs := Function.update m.skbs skb
        {m.skbs skb with memory := store (m.skbs skb).memory (m.offsets urb) bytes}
      arrived := Function.update m.arrived urb bytes}
  | none => m

-- pkt_len, as the unsigned int for which skb_put takes it.
def pktLen (actualLength : Nat) : Nat := if 4 ≤ actualLength then actualLength-4 else actualLength+0xfffffffc

def netifRx (rxSkb : Option Nat) (actualLength : Nat) (m : Memory) : Memory :=
  match rxSkb with
  | some skb => match skbPut (pktLen actualLength) (m.skbs skb) with
      | some put => {m with skbs := Function.update m.skbs skb put,received := m.received ++ [⟨skb,put.frame⟩]}
      | none => m
  | none => m

def succeed (urb : Nat) (buffer : Option Nat) (m : Memory) : Memory :=
  {m with transfers := m.transfers ++ buffer.toList.map (⟨·,m.arrived urb⟩)}

def renew (rxUrb : Option Nat) (skb : Nat) (granted : Bool) (bytes : Nat → UInt8) (m : Memory) : Memory :=
  match granted,rxUrb with
  | true,some urb => {m with
      skbs := Function.update m.skbs skb (receiveSkb bytes)
      offsets := Function.update m.offsets urb (receiveSkb bytes).data}
  | _,_ => m

def readBulk (s : Rtl8150.System) (urb : Nat) (status : Int) (actualLength : Nat) (answer : CallbackAnswer)
    (bytes : Nat → UInt8) (m : Memory) : Memory :=
  if status = 0 then
    renew s.priv.rxUrb s.rxSkbs answer.rxSkb bytes
      (netifRx s.priv.rxSkb actualLength (succeed urb (s.urbs urb).buffer m))
  else if status = enoent then m
  else renew s.priv.rxUrb s.rxSkbs answer.rxSkb bytes m

structure System where
  link : Rtl8150.System
  memory : Memory

-- `bytes` of a completion is what the device transferred, `bytes` of a callback
-- what a newly allocated skb holds.
inductive Event where
  | startXmit (skb len : Nat) (allocated : Bool) (result : Int)
  | completes (urb : Nat) (status : Int) (bytes : List UInt8)
  | callback (urb : Nat) (answer : CallbackAnswer) (bytes : Nat → UInt8)
  | closes

def Event.link : Event → Rtl8150.Event
  | .startXmit skb len allocated result => .startXmit skb len allocated result
  | .completes urb status bytes => .completes urb status bytes.length
  | .callback urb answer _ => .callback urb answer
  | .closes => .closes

def effect (s : Rtl8150.System) : Event → Memory → Memory
  | .completes urb _ bytes,m =>
      if (s.urbs urb).pipe = .bulkIn then transfer urb (s.urbs urb).buffer bytes m else m
  | .callback urb answer bytes,m => match (s.urbs urb).pipe,(s.urbs urb).state with
      | .bulkIn,.done status actualLength => readBulk s urb status actualLength answer bytes m
      | _,_ => m
  | .startXmit _ _ _ _,m | .closes,m => m

-- A transfer fits its buffer, and one that succeeds brings a CRC. Only the
-- allocation of a receive skb must not fail.
def machine : Machine System Event where
  Allowed s event := Rtl8150.machine.Allowed s.link event.link ∧ match event with
    | .completes urb status bytes =>
        (s.link.urbs urb).pipe = .bulkIn → bytes.length ≤ rtl8150Mtu ∧ (status = 0 → 4 ≤ bytes.length)
    | .callback urb answer _ => (s.link.urbs urb).pipe = .bulkIn → answer.rxSkb = true
    | .startXmit _ _ _ _ | .closes => True
  apply s event := ⟨Rtl8150.machine.apply s.link event.link,effect s.link event s.memory⟩

instance decidableAllowed : ∀ s event,Decidable (machine.Allowed s event)
  | s,.startXmit skb len allocated result =>
      inferInstanceAs (Decidable (Rtl8150.machine.Allowed s.link (.startXmit skb len allocated result) ∧ True))
  | s,.completes urb status bytes =>
      inferInstanceAs (Decidable (Rtl8150.machine.Allowed s.link (.completes urb status bytes.length) ∧
        ((s.link.urbs urb).pipe = .bulkIn → bytes.length ≤ rtl8150Mtu ∧ (status = 0 → 4 ≤ bytes.length))))
  | s,.callback urb answer _ =>
      inferInstanceAs (Decidable (Rtl8150.machine.Allowed s.link (.callback urb answer) ∧
        ((s.link.urbs urb).pipe = .bulkIn → answer.rxSkb = true)))
  | s,.closes => inferInstanceAs (Decidable (Rtl8150.machine.Allowed s.link .closes ∧ True))

def opened (answer : OpenAnswer) (bytes : Nat → UInt8) : System where
  link := rtl8150Open answer {}
  memory := renew (some 0) 0 answer.rxSkb bytes {skbs := fun _ => devAllocSkb 0 fun _ => 0,offsets := fun _ => 0}

def stripped (transfer : Frame) : Frame := ⟨transfer.skb,transfer.bytes.take (transfer.bytes.length-4)⟩

structure Unshared (s : System) : Prop where
  once : (s.memory.received.map Frame.skb).Nodup
  exact : s.memory.received = s.memory.transfers.map stripped
  filling : ∀ rxUrb,s.link.priv.rxUrb = some rxUrb → (s.link.urbs rxUrb).state ≠ .idle →
    (s.link.urbs rxUrb).length = rtl8150Mtu ∧ ∃ skb,s.link.priv.rxSkb = some skb ∧
      (s.link.urbs rxUrb).buffer = some skb ∧ s.memory.offsets rxUrb = (s.memory.skbs skb).data ∧
      rtl8150Mtu ≤ skbTailroom (s.memory.skbs skb) ∧ skb ∉ s.memory.received.map Frame.skb

structure Ready (skb : SkBuff) : Prop where
  size : skb.size = rtl8150Mtu+2
  data : skb.data = 2
  len : skb.len = 0

theorem receiveSkb_ready (bytes : Nat → UInt8) : Ready (receiveSkb bytes) := ⟨rfl,rfl,rfl⟩

theorem Ready.tailroom (ready : Ready skb) : skbTailroom skb = rtl8150Mtu := by
  simp [skbTailroom,ready.size,ready.data,ready.len]

structure Account (r : Receive) (m : Memory) : Prop where
  given : ∀ skb ∈ m.received.map Frame.skb,skb < r.rxSkbs
  once : (m.received.map Frame.skb).Nodup
  exact : m.received = m.transfers.map stripped
  logged : r.netifRx = m.received.map fun frame => (frame.skb,(frame.bytes.length : Int))

-- The skb that rx_skb denotes is the driver's, and the only buffer in flight.
structure Owned (r : Receive) (m : Memory) : Prop extends Account r m where
  current : ∃ skb,r.rxSkb = some skb ∧ skb < r.rxSkbs ∧ Ready (m.skbs skb) ∧ skb ∉ m.received.map Frame.skb
  wired : ∀ urb entry,r.incoming urb = some entry →
    r.rxUrb = some urb ∧ entry.buffer = r.rxSkb ∧ entry.length = rtl8150Mtu ∧ m.offsets urb = 2
  filled : ∀ urb entry count skb,r.incoming urb = some entry → entry.state = .done 0 count → r.rxSkb = some skb →
    4 ≤ count ∧ count ≤ rtl8150Mtu ∧ m.arrived urb = load (m.skbs skb).memory 2 count

section Ownership
variable {r : Receive} {m : Memory} {urb : Nat} {entry : Urb}

theorem Owned.cancelled (owned : Owned r m) (flying : r.incoming urb = some entry) :
    Owned {r with incoming := Function.update r.incoming urb (some {entry with state := .done econnreset 0})} m := by
  refine ⟨⟨owned.given,owned.once,owned.exact,owned.logged⟩,owned.current,?_,?_⟩
  · intro other next sent
    by_cases same : other = urb
    · subst other
      obtain rfl : {entry with state := .done econnreset 0} = next := by simpa using sent
      exact owned.wired urb entry flying
    · exact owned.wired other next (by simpa [same] using sent)
  · intro other next count skb sent finished rx
    by_cases same : other = urb
    · subst other
      obtain rfl : {entry with state := .done econnreset 0} = next := by simpa using sent
      simp [econnreset] at finished
    · exact owned.filled other next count skb (by simpa [same] using sent) finished rx

theorem Owned.transferred (owned : Owned r m) (flying : r.incoming urb = some entry) (status : Int) (bytes : List UInt8)
    (fits : bytes.length ≤ rtl8150Mtu ∧ (status = 0 → 4 ≤ bytes.length)) :
    Owned {r with incoming := Function.update r.incoming urb (some {entry with state := .done status bytes.length})}
      (transfer urb entry.buffer bytes m) := by
  obtain ⟨skb,rx,small,ready,kept⟩ := owned.current
  obtain ⟨rxUrb,buffer,length,offset⟩ := owned.wired urb entry flying
  have written : transfer urb entry.buffer bytes m = {m with
      skbs := Function.update m.skbs skb {m.skbs skb with memory := store (m.skbs skb).memory 2 bytes}
      arrived := Function.update m.arrived urb bytes} := by
    rw [buffer,rx,transfer,offset]
  rw [written]
  have only : ∀ other next,r.incoming other = some next → other = urb := by
    intro other next sent
    have named := (owned.wired other next sent).1
    rw [rxUrb] at named
    exact (Option.some.inj named).symm
  have renamed : ∀ other next,
      Function.update r.incoming urb (some {entry with state := .done status bytes.length}) other = some next →
      other = urb ∧ next = {entry with state := .done status bytes.length} := by
    intro other next sent
    by_cases same : other = urb
    · subst other
      exact ⟨rfl,(Option.some.inj (by simpa using sent)).symm⟩
    · exact absurd (only other next (by simpa [same] using sent)) same
  refine ⟨⟨owned.given,owned.once,owned.exact,owned.logged⟩,⟨skb,rx,small,?_,kept⟩,?_,?_⟩
  · simpa using ⟨ready.size,ready.data,ready.len⟩
  · intro other next sent
    obtain ⟨rfl,rfl⟩ := renamed other next sent
    exact ⟨rxUrb,buffer,length,offset⟩
  · intro other next count current sent finished same
    obtain ⟨rfl,rfl⟩ := renamed other next sent
    obtain ⟨rfl,rfl⟩ : status = 0 ∧ bytes.length = count := by simpa using finished
    obtain rfl : skb = current := Option.some.inj (rx.symm.trans same)
    exact ⟨fits.2 rfl,fits.1,by simp [load_store_same]⟩

theorem Owned.delivered (owned : Owned r m) (flying : r.incoming urb = some entry)
    (finished : entry.state = .done 0 count) :
    ∃ skb,r.rxSkb = some skb ∧ Account {r with netifRx := r.netifRx ++ [(skb,(count : Int)-4)]}
      (netifRx r.rxSkb count (succeed urb entry.buffer m)) := by
  obtain ⟨skb,rx,small,ready,kept⟩ := owned.current
  obtain ⟨least,most,arrived⟩ := owned.filled urb entry count skb flying finished rx
  obtain ⟨_,buffer,_,_⟩ := owned.wired urb entry flying
  have room : count-4 ≤ skbTailroom (m.skbs skb) := ready.tailroom ▸ Nat.le_trans (Nat.sub_le _ _) most
  have put : skbPut (pktLen count) (m.skbs skb) = some {m.skbs skb with len := count-4} := by
    rw [pktLen,if_pos least,skbPut_room room,ready.len,Nat.zero_add]
  have frame : (⟨skb,load (m.skbs skb).memory (m.skbs skb).data (count-4)⟩ : Frame) = stripped ⟨skb,m.arrived urb⟩ := by
    simp only [stripped,arrived,load_length,ready.data]
    rw [load_take (by omega)]
  have taken : netifRx r.rxSkb count (succeed urb entry.buffer m) = {m with
      skbs := Function.update m.skbs skb {m.skbs skb with len := count-4}
      transfers := m.transfers ++ [⟨skb,m.arrived urb⟩]
      received := m.received ++ [stripped ⟨skb,m.arrived urb⟩]} := by
    rw [← frame,buffer,rx]
    simp only [netifRx,succeed,put,SkBuff.frame]
    rfl
  refine ⟨skb,rx,?_⟩
  rw [taken]
  refine ⟨?_,?_,?_,?_⟩
  · intro other member
    simp only [List.map_append,List.map_cons,List.map_nil,List.mem_append,List.mem_singleton] at member
    cases member with
    | inl before => exact owned.given other before
    | inr same => exact same ▸ small
  · simp only [List.map_append,List.map_cons,List.map_nil]
    exact List.nodup_append.mpr ⟨owned.once,by simp,by
      intro other before last member same
      have current : last = skb := List.mem_singleton.mp member
      exact kept (current ▸ same ▸ before)⟩
  · simp [owned.exact]
  · have length : ((m.arrived urb).length : Int) = count := by rw [arrived,load_length]
    simp [owned.logged,stripped]
    omega

theorem Account.renewed (account : Account r m) (rx : r.rxUrb = some urb) (quiet : ∀ other,other ≠ urb → r.incoming other = none)
    (bytes : Nat → UInt8) (next : Option Urb)
    (sent : ∀ entry,next = some entry → entry.buffer = some r.rxSkbs ∧ entry.length = rtl8150Mtu ∧ entry.state = .active) :
    Owned {r with
      rxSkb := some r.rxSkbs
      rxSkbs := r.rxSkbs+1
      incoming := Function.update r.incoming urb next} (renew r.rxUrb r.rxSkbs true bytes m) := by
  have renewed : renew r.rxUrb r.rxSkbs true bytes m = {m with
      skbs := Function.update m.skbs r.rxSkbs (receiveSkb bytes)
      offsets := Function.update m.offsets urb (receiveSkb bytes).data} := by rw [rx,renew]
  rw [renewed]
  have only : ∀ other entry,Function.update r.incoming urb next other = some entry → other = urb ∧ next = some entry := by
    intro other entry flying
    by_cases same : other = urb
    · subst other
      exact ⟨rfl,by simpa using flying⟩
    · rw [Function.update_of_ne same,quiet other same] at flying
      cases flying
  refine ⟨⟨?_,account.once,account.exact,account.logged⟩,⟨r.rxSkbs,rfl,Nat.lt_succ_self _,?_,?_⟩,?_,?_⟩
  · intro skb member
    exact Nat.lt_succ_of_lt (account.given skb member)
  · simpa using receiveSkb_ready bytes
  · intro member
    exact absurd (account.given _ member) (Nat.lt_irrefl _)
  · intro other entry flying
    obtain ⟨rfl,started⟩ := only other entry flying
    obtain ⟨buffer,length,_⟩ := sent entry started
    exact ⟨rx,buffer,length,by simp [receiveSkb,skbReserve,devAllocSkb]⟩
  · intro other entry count skb flying finished _
    obtain ⟨rfl,started⟩ := only other entry flying
    rw [(sent entry started).2.2] at finished
    cases finished

theorem Owned.account_returned (owned : Owned r m) (urb : Nat) (next : Option Urb) :
    Account {r with incoming := Function.update r.incoming urb next} m :=
  ⟨owned.given,owned.once,owned.exact,owned.logged⟩

theorem Owned.returned (owned : Owned r m) (urb : Nat) :
    Owned {r with incoming := Function.update r.incoming urb none} m := by
  refine ⟨owned.account_returned urb none,owned.current,?_,?_⟩
  · intro other entry flying
    by_cases same : other = urb
    · simp [same] at flying
    · exact owned.wired other entry (by simpa [same] using flying)
  · intro other entry count skb flying
    by_cases same : other = urb
    · simp [same] at flying
    · exact owned.filled other entry count skb (by simpa [same] using flying)

theorem Owned.alone (owned : Owned r m) (flying : r.incoming urb = some entry) (other : Nat) (different : other ≠ urb) :
    r.incoming other = none := by
  cases sent : r.incoming other with
  | none => rfl
  | some next =>
      have named := (owned.wired other next sent).1
      rw [(owned.wired urb entry flying).1] at named
      exact absurd (Option.some.inj named).symm different

end Ownership

section Steps
variable {s : System} {link : Rtl8150.System} {m : Memory} {index : Nat}

theorem unlinked_owned (owned : Owned (receive link) m) (urb : Option Nat) :
    Owned (receive (usbUnlinkUrb urb link)) m := by
  cases urb with
  | none => exact owned
  | some index =>
      unfold usbUnlinkUrb
      dsimp only
      split
      · rename_i active
        by_cases pipe : (link.urbs index).pipe = .bulkIn
        · have sent : (receive link).incoming index = some (link.urbs index) := flying_busy pipe (by simp [active])
          rw [receive_done pipe]
          exact owned.cancelled sent
        · rw [receive_setState _ pipe]
          exact owned
      · exact owned

theorem close_owned (owned : Owned (receive link) m) : Owned (receive (rtl8150Close link)) m := by
  unfold rtl8150Close
  cases link.phase with
  | unlinkRx | unlinkTx | unlinkIntr | unlinkCtrl => exact unlinked_owned owned _
  | up | down | closed => exact owned

theorem completes_owned (owned : Owned (receive link) m) (active : (link.urbs index).state = .active)
    (status : Int) (bytes : List UInt8) (fits : (link.urbs index).pipe = .bulkIn →
      bytes.length ≤ rtl8150Mtu ∧ (status = 0 → 4 ≤ bytes.length)) :
    Owned (receive (setState index (.done status bytes.length) link)) (effect link (.completes index status bytes) m) := by
  unfold effect
  dsimp only
  split
  · rename_i pipe
    have sent : (receive link).incoming index = some (link.urbs index) := flying_busy pipe (by simp [active])
    rw [receive_done pipe]
    exact owned.transferred sent status bytes (fits pipe)
  · rename_i pipe
    rw [receive_setState _ pipe]
    exact owned

def given (index : Nat) (link : Rtl8150.System) : Rtl8150.System :=
  {setState index .idle link with awaited := link.awaited.erase index}

theorem receive_given (index : Nat) (link : Rtl8150.System) : receive (given index link) =
    {receive link with incoming := Function.update (receive link).incoming index none} := by
  have returned := receive_setUrb index {link.urbs index with state := .idle} link
  have idle : flying {link.urbs index with state := .idle} = none := flying_idle rfl
  rw [idle] at returned
  exact returned

theorem reschedule_owned (account : Account (receive link) m) (rx : link.priv.rxUrb = some index)
    (idle : (link.urbs index).state = .idle) (quiet : ∀ other,other ≠ index → (receive link).incoming other = none)
    (answer : CallbackAnswer) (granted : answer.rxSkb = true) (bytes : Nat → UInt8) :
    Owned (receive (reschedule answer link)) (renew link.priv.rxUrb link.rxSkbs answer.rxSkb bytes m) := by
  obtain ⟨next,view,sent⟩ := receive_reschedule answer granted rx idle
  rw [view,granted]
  exact account.renewed rx quiet bytes next sent

theorem readBulk_owned (owned : Owned (receive link) m) (pipe : (link.urbs index).pipe = .bulkIn)
    (finished : (link.urbs index).state = .done status actualLength) (answer : CallbackAnswer)
    (granted : answer.rxSkb = true) (bytes : Nat → UInt8) :
    Owned (receive (readBulkCallback status actualLength answer (given index link)))
      (readBulk link index status actualLength answer bytes m) := by
  have sent : (receive link).incoming index = some (link.urbs index) := flying_busy pipe (by simp [finished])
  have rx : link.priv.rxUrb = some index := (owned.wired index _ sent).1
  have idle : ((given index link).urbs index).state = .idle := by simp [given,setState,setUrb]
  have quiet : ∀ other,other ≠ index → (receive (given index link)).incoming other = none := by
    intro other different
    rw [receive_given]
    simpa [different] using owned.alone sent other different
  have account : Account (receive (given index link)) m := by
    rw [receive_given]
    exact owned.account_returned index none
  unfold readBulkCallback readBulk
  by_cases success : status = 0
  · subst success
    obtain ⟨skb,current,delivered⟩ := owned.delivered sent finished
    have logged : receive (deliver actualLength (given index link)) =
        {receive (given index link) with netifRx := (receive link).netifRx ++ [(skb,(actualLength : Int)-4)]} := by
      have named : (given index link).priv.rxSkb = some skb := current
      simp only [receive,deliver,named]
      rfl
    rw [if_pos rfl,if_pos rfl]
    have own : (deliver actualLength (given index link)).priv.rxUrb = some index := rx
    have mine : ((deliver actualLength (given index link)).urbs index).state = .idle := idle
    refine reschedule_owned ?_ own mine ?_ answer granted bytes
    · rw [logged,receive_given]
      exact ⟨delivered.given,delivered.once,delivered.exact,delivered.logged⟩
    · rw [logged]
      exact quiet
  · rw [if_neg success,if_neg success]
    split
    · rw [receive_given]
      exact owned.returned index
    · exact reschedule_owned account rx idle quiet answer granted bytes

theorem callback_owned (owned : Owned (receive link) m) (done : isDone (link.urbs index).state = true)
    (answer : CallbackAnswer) (granted : (link.urbs index).pipe = .bulkIn → answer.rxSkb = true) (bytes : Nat → UInt8) :
    Owned (receive (callback index answer link)) (effect link (.callback index answer bytes) m) := by
  obtain ⟨status,actualLength,finished⟩ := isDone_iff.mp done
  by_cases pipe : (link.urbs index).pipe = .bulkIn
  · simp only [callback,effect,finished,runCallback,pipe]
    exact readBulk_owned owned pipe finished answer (granted pipe) bytes
  · have aside : effect link (.callback index answer bytes) m = m := by
      cases other : (link.urbs index).pipe with
      | bulkIn => exact absurd other pipe
      | bulkOut | interruptIn => simp only [effect,other]
    rw [receive_callback_other answer pipe,aside]
    exact owned

def Sound (s : System) : Prop := Wellformed s.link ∧ Owned (receive s.link) s.memory

theorem apply_sound (s : System) (event : Event) (sound : Sound s) (allowed : machine.Allowed s event) :
    Sound (machine.apply s event) := by
  obtain ⟨wellformed,owned⟩ := sound
  obtain ⟨admitted,promised⟩ := allowed
  refine ⟨Rtl8150.apply_wellformed s.link event.link wellformed admitted,?_⟩
  cases event with
  | startXmit skb len allocated result =>
      have aside := receive_startXmit wellformed skb len allocated result
      exact aside.symm ▸ owned
  | completes urb status bytes => exact completes_owned owned admitted.2 status bytes promised
  | callback urb answer bytes => exact callback_owned owned admitted.2 answer promised bytes
  | closes => exact close_owned owned

theorem Sound.unshared (s : System) (sound : Sound s) : Unshared s := by
  obtain ⟨wellformed,owned⟩ := sound
  refine ⟨owned.once,owned.exact,?_⟩
  intro rxUrb named busy
  have sent : (receive s.link).incoming rxUrb = some (s.link.urbs rxUrb) := flying_busy (wellformed.rx rxUrb named).2 busy
  obtain ⟨_,buffer,length,offset⟩ := owned.wired rxUrb _ sent
  obtain ⟨skb,current,_,ready,kept⟩ := owned.current
  exact ⟨length,skb,current,buffer.trans current,offset.trans ready.data.symm,Nat.le_of_eq ready.tailroom.symm,kept⟩

theorem receive_opened (answer : OpenAnswer) (succeeds : Rtl8150Transmit.openSucceeds answer = true) :
    receive (rtl8150Open answer {}) = {
      rxUrb := some 0
      rxSkb := some 0
      rxSkbs := 1
      netifRx := []
      incoming := Function.update (fun _ => none) 0
        (some {pipe := .bulkIn,buffer := some 0,length := rtl8150Mtu,state := .active})} := by
  simp only [Rtl8150Transmit.openSucceeds,Bool.and_eq_true,Bool.not_eq_true',decide_eq_false_iff_not] at succeeds
  obtain ⟨⟨⟨⟨rxUrb,intrUrb⟩,rxSkb⟩,received⟩,polled⟩ := succeeds
  simp [rtl8150Open,usbSubmitUrb,prepare,rxUrb,intrUrb,rxSkb,received,polled,fillUrb,setUrb,setState,receive]
  funext urb
  by_cases first : urb = 0
  · simp [first,flying]
  · by_cases second : urb = 1
    · simp [second,flying]
    · simp [first,second,flying]

theorem opened_sound (answer : OpenAnswer) (bytes : Nat → UInt8) (succeeds : Rtl8150Transmit.openSucceeds answer = true) :
    Sound (opened answer bytes) := by
  have granted : answer.rxSkb = true := by
    simp only [Rtl8150Transmit.openSucceeds,Bool.and_eq_true] at succeeds
    exact succeeds.1.1.2
  let probed : Receive := ⟨some 0,none,0,[],fun _ => none⟩
  have account : Account probed {skbs := fun _ => devAllocSkb 0 fun _ => 0,offsets := fun _ => 0} :=
    ⟨by simp,List.nodup_nil,rfl,rfl⟩
  have sent : Owned _ _ := account.renewed (rfl : probed.rxUrb = some 0) (fun _ _ => rfl) bytes
    (some {pipe := .bulkIn,buffer := some 0,length := rtl8150Mtu,state := .active}) (by
      rintro entry ⟨⟩
      exact ⟨rfl,rfl,rfl⟩)
  refine ⟨rtl8150Open_wellformed probed_wellformed answer,?_⟩
  show Owned (receive (rtl8150Open answer {})) (opened answer bytes).memory
  rw [receive_opened answer succeeds,opened,granted]
  exact sent

end Steps

theorem receive_unshared (answer : OpenAnswer) (bytes : Nat → UInt8) (events : List Event)
    (succeeds : Rtl8150Transmit.openSucceeds answer = true) (path : machine.Runs (opened answer bytes) events) :
    machine.Throughout Unshared (opened answer bytes) events :=
  (Machine.throughout_of_invariant apply_sound (opened_sound answer bytes succeeds) path).imp Sound.unshared

theorem received_logged (answer : OpenAnswer) (bytes : Nat → UInt8) (events : List Event)
    (succeeds : Rtl8150Transmit.openSucceeds answer = true) (path : machine.Runs (opened answer bytes) events) :
    machine.Throughout (fun s => s.link.netifRx =
      s.memory.received.map fun frame => (frame.skb,(frame.bytes.length : Int))) (opened answer bytes) events :=
  (Machine.throughout_of_invariant apply_sound (opened_sound answer bytes succeeds) path).imp
    fun _ sound => sound.2.logged

def transfers : List Event :=
  [.completes 0 0 [1,2,3,4,5,6,7,8],.callback 0 {} fun _ => 0,.completes 0 (-32) [],.callback 0 {} fun _ => 0,
    .completes 0 0 [9,8,7,6,5],.callback 0 {} fun _ => 0]

theorem receive_unshared_transfers : machine.Throughout Unshared (opened {} fun _ => 0) transfers :=
  receive_unshared {} (fun _ => 0) transfers rfl (by decide +kernel)

example : (machine.run (opened {} fun _ => 0) transfers).memory.received.map Frame.bytes = [[1,2,3,4],[9]] := by
  decide +kernel

end LinuxDeviceDrivers.Rtl8150Receive
