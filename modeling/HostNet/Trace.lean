import HostNet.Checked
import HostNet.Notice
import HostNet.Script

/-!
# Traces

A host records what it does, and at what time.

* `Event` — one thing a host did.
* `Record` — an event with its time.
* `Fate` — what became of a datagram that was to be sent to some address.
* `Caller` — whose script it is that does something.

Of packets only the window is recorded.  Nothing a host does depends on its trace.
-/

namespace HostNet

/-- Whose script it is that runs. -/
inductive Caller where
  | frame (name : String)
  | protocol (name : String)
  /-- The handler of a port, with the number of its binding. -/
  | port (binding : Nat) (name : String)
  | batch
  deriving Repr, DecidableEq

/-- What became of a datagram that was to be sent to some address. -/
inductive Fate where
  /-- The address was known to be at `mac`, and the datagram sent there. -/
  | sent (mac : MacAddr)
  /-- It waits for the address to be resolved. -/
  | held
  /-- It was dropped, as another datagram waits for the address. -/
  | dropped
  deriving Repr, DecidableEq

/-- One thing a host did. -/
inductive Event where
  | notice (notice : Notice)
  /-- Handed a frame to the link, which may have failed to send it. -/
  | transmitted (frame : Bytes) (fault : Option LinkError)
  /-- Gave a datagram its identification, before cutting it up. -/
  | submitted (identification : UInt16) (payload : Bytes) (destination : Ipv4Addr)
      (protocol : UInt8)
  /-- Decided the fate of an IPv4 packet for `target`. -/
  | dispatched (target : Ipv4Addr) (packet : Bytes) (fate : Fate)
  /-- Took the packet that waited for `target` out of its slot, to send it to `mac`. -/
  | released (target : Ipv4Addr) (packet : Bytes) (mac : MacAddr)
  /-- Called the handler of an ether type with a window, and so many bytes before
  it.  The host's own handlers have no name. -/
  | frameHandled (name? : Option String) (headRoom : Nat) (payload : Bytes) (source : MacAddr)
  /-- Called the handler of a protocol with a window, and so many bytes before it.
  The host's own handlers have no name. -/
  | protocolHandled (name? : Option String) (headRoom : Nat) (payload : Bytes)
      (source : Ipv4Addr)
  | portOpened (port : UInt16) (binding : Nat)
  | portClosed (port : UInt16)
  /-- Called the handler of a port. -/
  | portEntered (port : UInt16) (binding : Nat) (name : String) (memory : Nat)
      (datagram : Datagram)
  /-- The handler of a port returned. -/
  | portLeft (binding : Nat)
  /-- Replied to an action of a script. -/
  | replied (caller : Caller) (reply : Reply)
  /-- A script ended because a packet window refused an operation. -/
  | gaveUp (caller : Caller) (cause : Packet.Error)
  /-- An operation was applied outside of its domain. -/
  | fault (fault : Fault)
  /-- An action was not done, as scripts were nested too deeply. -/
  | tooDeep
  deriving Repr, DecidableEq

/-- An event with its time. -/
structure Record where
  time : Nat
  event : Event
  deriving Repr, DecidableEq

/-- Why the processing of a packet ends early: for a reason that is explained by
a notice, or because an operation was applied outside of its domain. -/
inductive Refusal where
  | notice (notice : Notice)
  | fault (fault : Fault)
  deriving Repr, DecidableEq

/-- The refusal as an event. -/
def Refusal.event : Refusal → Event
  | notice n => .notice n
  | fault f => .fault f

end HostNet
