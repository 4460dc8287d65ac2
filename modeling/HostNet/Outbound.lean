import HostNet.Checked
import HostNet.Config
import HostNet.Header.Icmp
import HostNet.Header.Udp
import HostNet.Packet.Basic

/-!
# What the host builds

* `Outbound.sealed` — an ICMP message with its checksum written into it.
* `Outbound.echoReply` — an echo request turned into its reply.
* `Outbound.unreachable` — the message that a datagram could not be delivered,
  which quotes the start of that datagram.
* `Outbound.udpSegment` — a payload behind a UDP header with its checksum.
* `Outbound.fragmentHeader` — the IPv4 header of one fragment.
* `Outbound.framed` — a payload, padded, behind an Ethernet header.
-/

namespace HostNet.Outbound

/-- An ICMP message whose check field is zero, with its checksum written there. -/
def sealed (message : Bytes) : Except Fault Bytes :=
  Checked.overwrite message Header.Icmp.checkOffset (Word16.bytes (Checksum.ofBytes message))

/-- The reply to the echo request in the window of a packet, in its place: the
identifier, the sequence number and the data are sent back as they came. -/
def echoReply (request : Header.Icmp) (packet : Packet) : Except Fault Packet := do
  let header : Header.Icmp :=
    { request with messageType := IcmpType.echoReply, code := 0, check := 0 }
  let message ← Checked.overwrite packet.window 0 header.bytes
  return packet.overwrite 0 (← sealed message)

/-- How many bytes behind its header are quoted of a datagram that could not be
delivered.  They hold the ports, if it has any. -/
def quotedPayload : Nat := 8

/-- The length of the header that is quoted of a datagram: what the datagram says,
but no less than 20 bytes and no more than there are. -/
def quotedHeader (undelivered : Bytes) : Except Fault Nat :=
  let declared := match Header.Ipv4.parse undelivered with
    | .ok h => h.headerLength
    | .error _ => Header.Ipv4.size
  Checked.clamp declared Header.Ipv4.size (max undelivered.length Header.Ipv4.size)

/-- The message that the datagram `undelivered` could not be delivered.  It quotes
the header of the datagram and the 8 bytes behind it, with zeros for what is not
there. -/
def unreachable (undelivered : Bytes) (what : Unreachable) : Except Fault Bytes := do
  let quoted := (← quotedHeader undelivered) + quotedPayload
  let header : Header.Icmp :=
    { messageType := IcmpType.unreachable
      code := what.code
      check := 0
      identifier := 0
      sequence := 0 }
  let quote ← Checked.slice undelivered 0 (min quoted undelivered.length)
  let message := header.bytes ++ quote
  let missing ← Checked.sub (Header.Icmp.size + quoted) message.length
  sealed (message ++ Bytes.zeros missing)

/-- The segment that carries the window of a packet between two ports. -/
def udpSegment (localIp destination : Ipv4Addr) (sourcePort port : UInt16) (packet : Packet) :
    Except Fault Packet := do
  let length ← Checked.word16 (Header.Udp.size + packet.size)
  let header : Header.Udp := { source := sourcePort, destination := port, length, check := 0 }
  let segment := packet.prepend header.bytes
  let check := Header.Udp.wireCheck
    (Checksum.transport Protocol.udp segment.window localIp destination)
  let written ← Checked.overwrite segment.window Header.Udp.checkOffset (Word16.bytes check)
  return segment.overwrite 0 written

/-- The header of the fragment of `size` bytes that starts at byte `offset` of its
datagram.  Its total length is that of header and fragment modulo 2¹⁶. -/
def fragmentHeader (c : Config) (destination : Ipv4Addr) (protocol : UInt8)
    (identification : UInt16) (offset : Nat) (more : Bool) (size : Nat) : Header.Ipv4 :=
  let header :=
    { Header.Ipv4.new protocol c.ip destination c.timeToLive c.serviceType with
      totalLength := (Header.Ipv4.size + size).toUInt16
      identification }
  (header.withFragment more offset).withChecksum

/-- A packet whose window is padded with zeros to `least` bytes. -/
def padded (least : Nat) (packet : Packet) : Except Fault Packet :=
  if packet.size < least then do pure (packet.pad (← Checked.sub least packet.size))
  else pure packet

/-- The window of a packet, padded to the least payload of a frame, behind the
header of a frame from the host. -/
def framed (c : Config) (destination : MacAddr) (etherType : UInt16) (packet : Packet) :
    Except Fault Packet := do
  let payload ← padded c.minPayload packet
  let header : Header.Ethernet := { destination, source := c.mac, etherType }
  pure (payload.prepend header.bytes)

end HostNet.Outbound
