import LinuxDeviceDrivers.CircularWindow

namespace LinuxDeviceDrivers.PollDevice

-- `#define N 23`; rbuf has one byte more, which no index below reaches.
def N : Nat := 23

-- The static variables of poll.c. `use_count` and the two indices are C ints;
-- the indices are only ever incremented or reset to 0, so they are naturals,
-- and differences of them are taken over Int.
structure Device where
  rbuf : Nat → UInt8
  ir : Nat
  iw : Nat
  useCount : Int

def initial : Device := ⟨fun _ => 0,0,0,0⟩

def isBufferEmpty (d : Device) : Bool := d.ir == d.iw

def isBufferFull (d : Device) : Bool :=
  if d.iw > d.ir then (d.iw : Int)-d.ir+1 == N
  else if d.iw < d.ir then (N : Int)-d.ir+d.iw == N
  else false

def pollIn : Nat := 0x001
def pollOut : Nat := 0x004
def pollRdNorm : Nat := 0x040
def pollWrNorm : Nat := 0x100

def devicePoll (d : Device) : Nat :=
  let readable := if isBufferEmpty d then 0 else pollIn ||| pollRdNorm
  let writable := if isBufferFull d then 0 else pollOut ||| pollWrNorm
  readable ||| writable

-- What one pass of a copy loop leaves: the device, the counter i, the bytes
-- handed to put_user (or stored by get_user), and the cells of rbuf it accessed.
structure Copied where
  device : Device
  i : Nat
  bytes : List UInt8
  touched : List Nat

-- `while(i<len)` of device_read; the first argument is len-i.
def copyOut : Nat → Device → Copied
  | 0,d => ⟨d,0,[],[]⟩
  | left+1,d =>
    if d.ir = d.iw then ⟨d,0,[],[]⟩ else
    let rest := copyOut left {d with ir := if d.ir+1 = N then 0 else d.ir+1}
    ⟨rest.device,rest.i+1,d.rbuf d.ir :: rest.bytes,d.ir :: rest.touched⟩

-- `ih=ir-1; if(ih<0) ih+=N;`
def stopIndex (d : Device) : Int := if (d.ir : Int)-1 < 0 then (d.ir : Int)-1+N else (d.ir : Int)-1

-- `while(i<len)` of device_write over the bytes still to be fetched.
def copyIn (ih : Int) : List UInt8 → Device → Copied
  | [],d => ⟨d,0,[],[]⟩
  | byte :: left,d =>
    if (d.iw : Int) = ih then ⟨d,0,[],[]⟩ else
    let rest := copyIn ih left {d with
      rbuf := Function.update d.rbuf d.iw byte
      iw := if d.iw+1 = N then 0 else d.iw+1}
    ⟨rest.device,rest.i+1,byte :: rest.bytes,d.iw :: rest.touched⟩

def readSection (len : Nat) (d : Device) : Copied := copyOut len d
def writeSection (bytes : List UInt8) (d : Device) : Copied := copyIn (stopIndex d) bytes d

def eagain : Int := 11
def erestartsys : Int := 512

inductive Outcome where
  | asleep
  | returned (value : Int)
  deriving DecidableEq, Repr

-- A whole call by the only user of the device: with nobody else to change the
-- ring or to send a signal, a wait that does not pass at once is a sleep.
def deviceRead (nonblock : Bool) (len : Nat) (d : Device) : Outcome × Copied :=
  if isBufferEmpty d then
    if nonblock then (.returned (-eagain),⟨d,0,[],[]⟩) else (.asleep,⟨d,0,[],[]⟩)
  else
    let copied := readSection len d
    (.returned copied.i,copied)

def deviceWrite (nonblock : Bool) (bytes : List UInt8) (d : Device) : Outcome × Copied :=
  if isBufferFull d then
    if nonblock then (.returned (-eagain),⟨d,0,[],[]⟩) else (.asleep,⟨d,0,[],[]⟩)
  else
    let copied := writeSection bytes d
    (.returned copied.i,copied)

def deviceOpen (d : Device) : Device :=
  let reset := if d.useCount = 0 then {d with ir := 0,iw := 0} else d
  {reset with useCount := reset.useCount+1}

def deviceRelease (d : Device) : Device := {d with useCount := d.useCount-1}

end LinuxDeviceDrivers.PollDevice
