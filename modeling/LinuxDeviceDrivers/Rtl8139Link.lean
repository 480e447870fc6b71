import LinuxDeviceDrivers.Rtl8139Receive
import LinuxDeviceDrivers.Rtl8139Wire

namespace LinuxDeviceDrivers.Rtl8139Link
open Transition NetDevice Rtl8139Registers Rtl8139Receive TransmitAgreement

-- Two adapters on a cable that loses frames but keeps their order. The cable
-- is done with the first `carried` frames of the wire.
structure System where
  sender : Rtl8139Wire.System
  receiver : Rtl8139Receive.System
  carried : Nat := 0
  lost : Nat := 0

inductive Event where
  | sender (event : Rtl8139Wire.Event)
  | receiver (event : Rtl8139Receive.Event)
  | loses

def start (sender : Rtl8139Wire.System) (rxRing : Nat → UInt8) (stats : NetDeviceStats) : System :=
  {sender := sender,receiver := opened rxRing stats}

-- The receiving device appends a CRC to the frame on the wire; it has no ring
-- format for one that is longer than Frame allows, which then counts as lost.
def machine : Machine System Event where
  Allowed s event := match event with
    | .sender event => Rtl8139Wire.machine.Allowed s.sender event
    | .receiver event => Rtl8139Receive.machine.Allowed s.receiver event ∧
        ∀ frame ∈ received event,s.sender.wire[s.carried]? = some frame.payload
    | .loses => s.carried < s.sender.wire.length
  apply s event := match event with
    | .sender event => {s with sender := Rtl8139Wire.machine.apply s.sender event}
    | .receiver event => {s with
        receiver := Rtl8139Receive.machine.apply s.receiver event
        carried := s.carried+(received event).length}
    | .loses => {s with carried := s.carried+1,lost := s.lost+1}

def heard (s : System) : List (List UInt8) := (arrivals s.receiver).map Frame.payload

structure Linked (first : Rtl8139Receive.System) (s : System) : Prop where
  sender : Rtl8139Wire.Wired s.sender
  receiver : Rtl8139Receive.machine.Reaches first s.receiver
  carried : s.carried ≤ s.sender.wire.length
  heard : (heard s).Sublist (s.sender.wire.take s.carried)
  counted : (Rtl8139Link.heard s).length+s.lost = s.carried

section Steps
variable {first : Rtl8139Receive.System} {s : System}

theorem wire_grows (sender : Rtl8139Wire.System) (event : Rtl8139Wire.Event) :
    ∃ more,(Rtl8139Wire.machine.apply sender event).wire = sender.wire ++ more := by
  cases event with
  | startXmit skb => exact ⟨[],(List.append_nil _).symm⟩
  | fetches count =>
      refine ⟨[],?_⟩
      simp only [Rtl8139Wire.machine,Rtl8139Wire.fetches,List.append_nil]
      split <;> rfl
  | sends => exact ⟨[sender.fifo],rfl⟩
  | completes entry status => exact ⟨[],(List.append_nil _).symm⟩
  | interrupt isr => exact ⟨[],(List.append_nil _).symm⟩

theorem heard_receiver (s : System) (event : Rtl8139Receive.Event) :
    heard (machine.apply s (.receiver event)) = heard s ++ (received event).map Frame.payload := by
  rw [heard,heard,← List.map_append]
  exact congrArg _ (apply_arrivals s.receiver event)

theorem received_short (event : Rtl8139Receive.Event) : received event = [] ∨ ∃ frame,received event = [frame] := by
  cases event with
  | receives frame => exact .inr ⟨frame,rfl⟩
  | interrupts isr => exact .inl rfl
  | iterates allocated => exact .inl rfl
  | leaves => exact .inl rfl

theorem apply_linked (s : System) (event : Event) (linked : Linked first s) (allowed : machine.Allowed s event) :
    Linked first (machine.apply s event) := by
  obtain ⟨sender,receiver,carried,heard,counted⟩ := linked
  cases event with
  | sender event =>
      obtain ⟨more,grown⟩ := wire_grows s.sender event
      refine ⟨Rtl8139Wire.apply_wired s.sender event sender allowed,receiver,?_,?_,counted⟩
      · simp only [machine,grown,List.length_append]
        omega
      · simp only [machine,grown]
        rw [List.take_append_of_le_length carried]
        exact heard
  | receiver event =>
      have reached := receiver.step allowed.1
      have longer := heard_receiver s event
      rcases received_short event with none | ⟨frame,one⟩
      · rw [none,List.map_nil,List.append_nil] at longer
        have same : (machine.apply s (.receiver event)).carried = s.carried := by simp [machine,none]
        refine ⟨sender,reached,?_,?_,?_⟩
        · rw [same]
          exact carried
        · rw [longer,same]
          exact heard
        · rw [longer,same]
          exact counted
      · have here := allowed.2 frame (by simp [one])
        have inside := (List.getElem?_eq_some_iff.mp here).1
        have later : (machine.apply s (.receiver event)).carried = s.carried+1 := by simp [machine,one]
        rw [one,List.map_singleton] at longer
        refine ⟨sender,reached,?_,?_,?_⟩
        · rw [later]
          exact inside
        · rw [longer,later]
          simp only [machine]
          rw [List.take_add_one,here]
          exact heard.append (List.Sublist.refl _)
        · rw [longer,later,List.length_append,List.length_singleton]
          simp only [machine]
          omega
  | loses =>
      refine ⟨sender,receiver,allowed,?_,?_⟩
      · exact heard.trans (List.take_sublist_take_left (Nat.le_succ _))
      · simp only [machine]
        change (Rtl8139Link.heard s).length+(s.lost+1) = s.carried+1
        omega

end Steps

def offered : Event → List (List UInt8)
  | .sender event => Rtl8139Wire.offered event
  | _ => []

theorem run_accepted (s : System) (events : List Event) :
    (machine.run s events).sender.accepted = s.sender.accepted ++ events.flatMap offered := by
  induction events generalizing s with
  | nil => simp
  | cons event rest ih =>
      rw [Machine.run_cons,ih,List.flatMap_cons,← List.append_assoc]
      congr 1
      cases event with
      | sender event => exact Rtl8139Wire.apply_accepted s.sender event
      | receiver event => exact (List.append_nil _).symm
      | loses => exact (List.append_nil _).symm

theorem delivered_heard (consumed : List (Packet × Bool)) :
    (delivered consumed).Sublist (consumed.map fun taken => taken.1.frame.payload) ∧
    (delivered consumed).length+(consumed.filter (!·.2)).length = consumed.length ∧
    ((∀ taken ∈ consumed,taken.2 = true) → delivered consumed = consumed.map fun taken => taken.1.frame.payload) := by
  induction consumed with
  | nil => simp [delivered]
  | cons taken rest ih =>
      obtain ⟨within,counted,all⟩ := ih
      obtain ⟨packet,allocated⟩ := taken
      cases allocated with
      | false =>
          refine ⟨within.cons _,?_,fun every => absurd (every _ List.mem_cons_self) (by simp)⟩
          simp only [delivered,List.filterMap_cons,Bool.false_eq_true,if_false,List.filter_cons,Bool.not_false,if_true,
            List.length_cons] at counted ⊢
          omega
      | true =>
          refine ⟨within.cons_cons _,?_,fun every => ?_⟩
          · simp only [delivered,List.filterMap_cons,if_true,List.filter_cons,Bool.not_true,Bool.false_eq_true,if_false,
              List.length_cons] at counted ⊢
            omega
          · have later := all fun other member => every other (List.mem_cons_of_mem _ member)
            simp only [delivered,List.filterMap_cons,if_true,List.map_cons,List.cons.injEq,true_and] at later ⊢
            exact later

-- What the receiving stack gets of the frames given to the sending driver:
-- none altered, doubled or out of order, and none missing that the cable or
-- dev_alloc_skb did not lose.
structure EndToEnd (frames : List (List UInt8)) (s : System) : Prop where
  order : s.receiver.driver.netifRx.Sublist (frames.map minimal)
  lossless : s.lost = 0 → (∀ taken ∈ s.receiver.consumed,taken.2 = true) → s.receiver.driver.netifRx <+: frames.map minimal
  accounted : s.receiver.driver.netifRx.length+(s.receiver.consumed.filter (!·.2)).length+s.receiver.unread.length+s.lost =
    s.carried
  carried : s.carried ≤ s.sender.wire.length ∧ s.sender.wire.length ≤ frames.length
  returns : s.receiver.faulted = false ∧ s.sender.transmit.hung = false

theorem link_delivers (txBufs : Nat → UInt8) (tsd : Nat → BitVec 32) (sent sentDev : NetDeviceStats)
    (rxRing : Nat → UInt8) (stats : NetDeviceStats) (events : List Event)
    (path : machine.Runs (start (Rtl8139Wire.opened txBufs tsd sent sentDev) rxRing stats) events)
    (clear : NoExactEnd (machine.run (start (Rtl8139Wire.opened txBufs tsd sent sentDev) rxRing stats) events).receiver.consumed) :
    EndToEnd (events.flatMap offered) (machine.run (start (Rtl8139Wire.opened txBufs tsd sent sentDev) rxRing stats) events) := by
  have first : Linked (opened rxRing stats) (start (Rtl8139Wire.opened txBufs tsd sent sentDev) rxRing stats) :=
    ⟨Rtl8139Wire.opened_wired txBufs tsd sent sentDev,.refl _ _,Nat.le_refl _,List.Sublist.refl _,rfl⟩
  have linked := machine.invariant apply_linked first path
  have accepted := run_accepted (start (Rtl8139Wire.opened txBufs tsd sent sentDev) rxRing stats) events
  rw [show (start (Rtl8139Wire.opened txBufs tsd sent sentDev) rxRing stats).sender.accepted = [] from rfl,List.nil_append] at accepted
  rw [← accepted]
  generalize machine.run (start (Rtl8139Wire.opened txBufs tsd sent sentDev) rxRing stats) events = s at *
  obtain ⟨sender,⟨own,ownPath,reached⟩,carried,heardIn,counted⟩ := linked
  have synchronized : Synchronized stats s.receiver := by
    have begun := opened_synchronized rxRing stats
    rw [← reached] at clear ⊢
    exact synchronized_run begun ownPath (clear_run begun ownPath clear)
  obtain ⟨within,dropped,all⟩ := delivered_heard s.receiver.consumed
  have split : heard s = (s.receiver.consumed.map fun taken => taken.1.frame.payload) ++
      s.receiver.unread.map fun packet => packet.frame.payload := by
    simp only [heard,arrivals,List.map_append,List.map_map]
    rfl
  have onWire : (s.sender.wire.take s.carried) <+: s.sender.accepted.map minimal := by
    rw [sender.sent,← List.map_take,List.take_take]
    exact (List.take_prefix _ _).map _
  have front : (s.receiver.consumed.map fun taken => taken.1.frame.payload) <+: heard s := by
    rw [split]
    exact List.prefix_append _ _
  refine ⟨?_,?_,?_,⟨carried,sender.wire_bounded⟩,synchronized.sound,sender.sound.returns⟩
  · rw [synchronized.buffers]
    exact ((within.trans front.sublist).trans heardIn).trans onWire.sublist
  · intro nothing every
    rw [synchronized.buffers,all every]
    have whole : heard s = s.sender.wire.take s.carried := by
      refine heardIn.eq_of_length ?_
      rw [List.length_take]
      omega
    exact front.trans (whole ▸ onWire)
  · have lengths := congrArg List.length split
    simp only [List.length_append,List.length_map] at lengths
    rw [synchronized.buffers]
    omega

def onCable (bytes : List UInt8) (short : bytes.length ≤ 60) : Frame where
  status := 1
  bytes := minimal bytes ++ [0,0,0,0]
  short := by
    rw [List.length_append,minimal_length]
    exact Nat.add_le_add_right (Nat.le_max_right bytes.length ethMinLen) 4
  long := by
    rw [List.length_append,minimal_length]
    exact Nat.le_trans (Nat.add_le_add_right (Nat.max_le.mpr ⟨short,Nat.le_refl 60⟩) 4) (by decide)

def sends (bytes : List UInt8) : List Event := [.sender (.startXmit ⟨bytes⟩),.sender (.fetches 60),.sender .sends]

def oneLost : List Event :=
  sends [1,2,3] ++ sends [4] ++ sends [5,6] ++
    [.receiver (.receives (onCable [1,2,3] (by decide))),.loses,.receiver (.receives (onCable [5,6] (by decide))),
      .receiver (.interrupts rxOK),.receiver (.iterates true),.receiver (.iterates true),.receiver .leaves]

theorem link_delivers_one_lost :
    EndToEnd [[1,2,3],[4],[5,6]]
      (machine.run (start (Rtl8139Wire.opened (fun _ => 0) (fun _ => txHostOwns) {} {}) (fun _ => 0) {}) oneLost) := by
  refine link_delivers _ _ _ _ _ _ oneLost ⟨rfl,⟨0,rfl,by decide⟩,⟨0,rfl,by decide⟩,rfl,⟨1,rfl,by decide⟩,⟨1,rfl,by decide⟩,
    rfl,⟨2,rfl,by decide⟩,⟨2,rfl,by decide⟩,⟨?_,?_⟩,?_,⟨?_,?_⟩,⟨rfl,nofun⟩,⟨⟨by decide,rfl,?_⟩,nofun⟩,⟨⟨by decide,rfl,?_⟩,nofun⟩,⟨⟨by decide,rfl⟩,nofun⟩,trivial⟩ ?_
  · intro packet member
    cases member
  · intro frame member
    obtain rfl := List.mem_singleton.mp member
    decide +kernel
  · exact (by decide +kernel : 1 < 3)
  · intro packet member
    obtain rfl := List.mem_singleton.mp member
    exact .inr (by decide +kernel)
  · intro frame member
    obtain rfl := List.mem_singleton.mp member
    decide +kernel
  · exact List.cons_ne_nil _ _
  · exact List.cons_ne_nil _ _
  · unfold NoExactEnd
    decide +kernel

end LinuxDeviceDrivers.Rtl8139Link
