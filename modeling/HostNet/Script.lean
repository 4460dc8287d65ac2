import HostNet.Config
import HostNet.Header.Icmp
import HostNet.Link
import HostNet.Packet.Basic

/-!
# Actions, scripts and handlers

What can be asked of a host is an *action*, and a handler answers what it is
called with by a *script* of actions.  All of this is data, so that a run of a
host, whatever its handlers do, is a function of a list of actions.

* `Action` — one thing asked of a host.
* `Reply` — what the host answers to it.
* `Script` — actions one after another, each of which may depend on the replies
  before it.
* `FrameHandler`, `ProtocolHandler` — what is called with the payload of a frame
  of some ether type, or of a packet of some protocol.
* `PortHandler` — what is called with the datagrams for a port.

**Packets that cannot be made.**  A packet for an action may itself be the result
of an operation that its window refuses.  `Action.onPacket` makes an action of
that: the host replies with the error, as it would with any other, and a script
goes on.

**Memory.**  A port handler keeps a number from one call to the next: each call
is given the number that the script of the call before ended with, the first
call is given zero.  Any finite state can be kept in a number.
-/

namespace HostNet

/-- A UDP datagram as a handler sees it. -/
structure Datagram where
  source : Ipv4Addr
  port : UInt16
  payload : Bytes
  deriving Repr, DecidableEq

/-- An address the host knows the station of. -/
structure ArpEntry where
  ip : Ipv4Addr
  mac : MacAddr
  /-- The time since this was last learned, in nanoseconds. -/
  age : Nat
  deriving Repr, DecidableEq

/-- The entry as a line of a listing, with its age in whole seconds. -/
def ArpEntry.text (e : ArpEntry) : String :=
  s!"{e.ip.text} | {e.mac.text} | {e.age / 1000000000}s"

/-- What a host answers to an action. -/
inductive Reply where
  | nothing
  /-- Whether there was a frame to process. -/
  | polled (taken : Bool)
  | failed (cause : LinkError)
  /-- The packet of the action could not be made. -/
  | refused (cause : Packet.Error)
  | entries (entries : List ArpEntry)
  | addresses (addresses : List Ipv4Addr)
  | config (config : Config)
  | count (count : Nat)
  deriving Repr, DecidableEq

mutual

/-- One thing asked of a host. -/
inductive Action where
  /-- Queues a frame on the link. -/
  | inject (frame : Bytes)
  /-- Processes one frame of the link, if there is one. -/
  | poll
  /-- Queues a frame on the link and processes one. -/
  | deliver (frame : Bytes)
  /-- Processes the frame in the window of a packet. -/
  | receiveFrame (packet : Packet)
  /-- Sends the window of a packet to a station. -/
  | sendFrame (packet : Packet) (destination : MacAddr) (etherType : UInt16)
  /-- Processes the ARP packet in the window of a packet. -/
  | receiveArp (packet : Packet)
  /-- Sends the IPv4 packet in the window of a packet to the station of an address. -/
  | sendPacket (packet : Packet) (target : Ipv4Addr)
  /-- Asks who has an address. -/
  | sendArpRequest (target : Ipv4Addr)
  /-- Tells a station where the host is. -/
  | sendArpReply (target : Ipv4Addr) (mac : MacAddr)
  /-- Processes the IPv4 packet in the window of a packet. -/
  | receiveIpv4 (packet : Packet)
  /-- Sends the window of a packet as a datagram of a protocol. -/
  | sendDatagram (packet : Packet) (destination : Ipv4Addr) (protocol : UInt8)
  /-- Sends the window of a packet as one fragment of a datagram. -/
  | sendFragment (packet : Packet) (destination : Ipv4Addr) (protocol : UInt8)
      (identification : UInt16) (offset : Nat) (more : Bool)
  /-- Processes the ICMP message in the window of a packet. -/
  | receiveIcmp (packet : Packet) (source : Ipv4Addr)
  /-- Tells a host that the datagram in the window of a packet was not delivered. -/
  | sendUnreachable (undelivered : Packet) (target : Ipv4Addr) (what : Unreachable)
  /-- Processes the UDP datagram in the window of a packet. -/
  | receiveUdp (packet : Packet) (source : Ipv4Addr)
  /-- Sends the window of a packet as the payload of a UDP datagram. -/
  | sendSegment (packet : Packet) (sourcePort : UInt16) (destination : Ipv4Addr) (port : UInt16)
  /-- Sends bytes as the payload of a UDP datagram. -/
  | sendUdp (payload : Bytes) (sourcePort : UInt16) (destination : Ipv4Addr) (port : UInt16)
  /-- Binds a handler to a port, in place of any handler bound to it. -/
  | openPort (port : UInt16) (name : String) (body : Nat → Datagram → Script)
  /-- Takes the handler bound to a port away. -/
  | closePort (port : UInt16)
  /-- Chooses what is called for an ether type. -/
  | onEtherType (etherType : UInt16) (handler : FrameHandler)
  /-- Chooses what is called for a protocol. -/
  | onProtocol (protocol : UInt8) (handler : ProtocolHandler)
  /-- Moves the clock forward. -/
  | advance (nanoseconds : Nat)
  /-- Decides how sending and receiving fail from now on. -/
  | setLink (send receive : Option LinkError)
  /-- Answers the addresses the host knows the station of. -/
  | listEntries
  /-- Answers the addresses that a datagram waits for. -/
  | listPending
  /-- Answers the configuration. -/
  | showConfig
  /-- Answers how many frames were sent since they were last taken off the link. -/
  | countSent
  /-- Stands for an action on a packet that could not be made: nothing is done, and
  the reply is why. -/
  | refuse (cause : Packet.Error)
  /-- Runs a script. -/
  | batch (script : Script)

/-- Actions one after another. -/
inductive Script where
  /-- Ends, leaving a number for the next call. -/
  | done (memory : Nat)
  /-- Ends because a packet window refused an operation. -/
  | fail (cause : Packet.Error)
  | step (action : Action) (next : Reply → Script)

/-- What is called with the payload of a frame and the station it is from. -/
inductive FrameHandler where
  | arp
  | ipv4
  | custom (name : String) (body : Packet → MacAddr → Script)

/-- What is called with the payload of a packet and the host it is from. -/
inductive ProtocolHandler where
  | icmp
  | udp
  | custom (name : String) (body : Packet → Ipv4Addr → Script)

end

/-- The action on a packet, if the packet could be made. -/
def Action.onPacket (made : Except Packet.Error Packet) (action : Packet → Action) : Action :=
  match made with
  | .ok packet => action packet
  | .error cause => .refuse cause

/-- What is called with the memory and a datagram. -/
abbrev PortHandler := Nat → Datagram → Script

/-- The name of a handler that is not one of the host's own. -/
def FrameHandler.name? : FrameHandler → Option String
  | arp => none
  | ipv4 => none
  | custom name _ => some name

/-- The name of a handler that is not one of the host's own. -/
def ProtocolHandler.name? : ProtocolHandler → Option String
  | icmp => none
  | udp => none
  | custom name _ => some name

/-- The actions of a list one after another, whatever is replied. -/
def Script.ofList : List Action → Script
  | [] => .done 0
  | action :: rest => .step action fun _ => ofList rest

end HostNet
