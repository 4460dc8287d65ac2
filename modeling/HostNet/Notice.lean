import HostNet.Header.Arp
import HostNet.Header.Icmp
import HostNet.Header.Udp
import HostNet.Link
import HostNet.Packet.Error

/-!
# Notices

Whatever a host does or declines to do it explains with a notice.

* `Notice` — one line of explanation, as data.
* `Notice.level` — how much attention it asks for.
* `Notice.text` — its wording.
* `Notice.line` — level and wording, as they are written to a log.

**Levels.**  A `trace` line explains that something was dropped, a `debug` line
tells what the host does, and a `warn` line reports a failure of the link.
-/

namespace HostNet

/-- How much attention a notice asks for. -/
inductive Level where
  | trace
  | debug
  | warn
  deriving Repr, DecidableEq

/-- The name of a level in a log. -/
def Level.name : Level → String
  | trace => "TRACE"
  | debug => "DEBUG"
  | warn => "WARN"

/-- One line of explanation. -/
inductive Notice where
  -- Ethernet
  | frameMalformed (cause : Packet.Error)
  | etherTypeUnknown (source : MacAddr) (etherType : UInt16)
  | sendFailed (size : Nat) (cause : LinkError)
  -- ARP
  | arpMalformed (cause : Packet.Error)
  | arpUnsupported (arp : Header.Arp)
  | asking (target asker : Ipv4Addr)
  | telling (ip : Ipv4Addr) (mac : MacAddr) (target : Ipv4Addr)
  | learned (ip : Ipv4Addr) (mac : MacAddr)
  | flushing (size : Nat) (target : Ipv4Addr)
  | alreadyResolving (size : Nat) (target : Ipv4Addr)
  -- IPv4
  | ipv4Malformed (cause : Packet.Error)
  | ipv4Version (version : UInt8)
  | ipv4HeaderWords (words : UInt8)
  | ipv4TotalLength (total header received : Nat)
  | ipv4BadChecksum (source : Ipv4Addr)
  | ipv4NotForUs (destination : Ipv4Addr)
  | protocolUnknown (protocol : UInt8) (source : Ipv4Addr)
  | ipv4Oversized (size : Nat) (destination : Ipv4Addr)
  | fragmenting (size : Nat) (identification : UInt16) (destination : Ipv4Addr) (pieces : Nat)
  -- ICMP
  | icmpMalformed (source : Ipv4Addr) (cause : Packet.Error)
  | icmpIgnored (messageType : UInt8) (source : Ipv4Addr)
  | echoReply (target : Ipv4Addr) (identifier sequence : UInt16)
  | unreachable (what : Unreachable) (target : Ipv4Addr)
  -- UDP
  | udpMalformed (source : Ipv4Addr) (cause : Packet.Error)
  | udpLength (source : Ipv4Addr) (length received : Nat)
  | udpBadChecksum (source : Ipv4Addr) (port received expected : UInt16)
  | portUnreachable (port : UInt16) (source : Ipv4Addr) (sourcePort : UInt16)
  | udpNotQuotable (cause : Packet.Error)
  | udpHeaderless (cause : Packet.Error)
  | delivering (size : Nat) (source : Ipv4Addr) (sourcePort port : UInt16)
  | handlerBusy (port : UInt16)
  | udpOversized (size : Nat) (destination : Ipv4Addr) (port : UInt16)
  deriving Repr, DecidableEq

namespace Notice

/-- How much attention a notice asks for. -/
def level : Notice → Level
  | sendFailed .. => .warn
  | asking .. | telling .. | learned .. | flushing .. | protocolUnknown .. | fragmenting ..
  | echoReply .. | unreachable .. | portUnreachable .. | delivering .. => .debug
  | _ => .trace

/-- The wording of a notice. -/
def text : Notice → String
  | frameMalformed cause => "dropping ethernet frame: " ++ cause.message
  | etherTypeUnknown source etherType =>
      s!"dropping ethernet frame from {source.text}: no handler for ether type " ++
        Hex.word etherType
  | sendFailed size cause => s!"failed to send {size} byte frame: " ++ cause.message
  | arpMalformed cause => "dropping arp packet: " ++ cause.message
  | arpUnsupported arp =>
      s!"dropping arp packet: hw {arp.hardwareType.toNat} proto {Hex.word arp.protocolType}" ++
        s!" lengths {arp.hardwareLength.toNat}/{arp.protocolLength.toNat}" ++
        s!" op {arp.operation.toNat}"
  | asking target asker => s!"who has {target.text}? tell {asker.text}"
  | telling ip mac target => s!"{ip.text} is at {mac.text}, telling {target.text}"
  | learned ip mac => s!"learned {ip.text} is at {mac.text}"
  | flushing size target => s!"flushing {size} byte datagram to {target.text}"
  | alreadyResolving size target =>
      s!"dropping {size} byte datagram: {target.text} is already being resolved"
  | ipv4Malformed cause => "dropping ip packet: " ++ cause.message
  | ipv4Version version => s!"dropping ip packet: version {version.toNat}"
  | ipv4HeaderWords words => s!"dropping ip packet: header length {words.toNat} words"
  | ipv4TotalLength total header received =>
      s!"dropping ip packet: total length {total}, header {header}, received {received}"
  | ipv4BadChecksum source => s!"dropping ip packet from {source.text}: bad checksum"
  | ipv4NotForUs destination => s!"dropping ip packet: {destination.text} is not for us"
  | protocolUnknown protocol source =>
      s!"no handler for ip protocol {protocol.toNat} from {source.text}"
  | ipv4Oversized size destination =>
      s!"dropping {size} byte datagram to {destination.text}: exceeds {Header.Ipv4.maxPayload}"
  | fragmenting size identification destination pieces =>
      s!"fragmenting {size} byte datagram {identification.toNat} to {destination.text}" ++
        s!" into {pieces} fragments"
  | icmpMalformed source cause =>
      s!"dropping icmp message from {source.text}: " ++ cause.message
  | icmpIgnored messageType source =>
      s!"ignoring icmp type {messageType.toNat} from {source.text}"
  | echoReply target identifier sequence =>
      s!"echo reply to {target.text} id {identifier.toNat} seq {sequence.toNat}"
  | unreachable what target => s!"destination unreachable ({what.name}) to {target.text}"
  | udpMalformed source cause =>
      s!"dropping udp datagram from {source.text}: " ++ cause.message
  | udpLength source length received =>
      s!"dropping udp datagram from {source.text}: length {length}, received {received}"
  | udpBadChecksum source port received expected =>
      s!"dropping udp datagram from {source.text}:{port.toNat}: checksum {Hex.word received}," ++
        s!" expected {Hex.word expected}"
  | portUnreachable port source sourcePort =>
      s!"port {port.toNat} unreachable for {source.text}:{sourcePort.toNat}"
  | udpNotQuotable cause => "unable to quote udp datagram: " ++ cause.message
  | udpHeaderless cause => "dropping udp datagram: " ++ cause.message
  | delivering size source sourcePort port =>
      s!"{size} bytes from {source.text}:{sourcePort.toNat} to port {port.toNat}"
  | handlerBusy port =>
      s!"dropping udp datagram for port {port.toNat}: handler is already running"
  | udpOversized size destination port =>
      s!"dropping {size} byte datagram to {destination.text}:{port.toNat}: exceeds " ++
        s!"{Header.Udp.maxDatagram}"

/-- The notice as a line of a log. -/
def line (n : Notice) : String := n.level.name ++ " " ++ n.text

end Notice

end HostNet
