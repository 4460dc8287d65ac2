import HostNet.Host.Basic
import HostNet.Outbound

/-!
# Sending

What a host sends goes down through its layers: a UDP datagram becomes an IPv4
datagram, which is cut into fragments where it is too long for one frame, and
each fragment goes to the station that its destination is at.

* `Host.transmit` — a frame to the link.
* `Host.sendFrame` — a payload to a station.
* `Host.sendArpRequest`, `Host.sendArpReply` — questions and answers about addresses.
* `Host.sendPacket` — an IPv4 packet to an address, whose station may not be known.
* `Host.sendFragment`, `Host.sendDatagram` — a fragment, and a datagram.
* `Host.sendUnreachable` — the message that a datagram could not be delivered.
* `Host.sendSegment`, `Host.sendUdp` — a UDP datagram.

None of this calls a handler.
-/

namespace HostNet.Host

/-! ### Frames -/

/-- Hands a frame to the link.  If that fails the frame is lost. -/
def transmit (h : Host) (frame : Bytes) : Host :=
  let (link, fault) := h.link.send frame
  let h := { h with link }.emit (.transmitted frame fault)
  match fault with
  | none => h
  | some cause => h.log (.sendFailed frame.length cause)

/-- Sends the window of a packet to a station, padded to the least payload. -/
def sendFrame (h : Host) (packet : Packet) (destination : MacAddr) (etherType : UInt16) : Host :=
  match Outbound.framed h.config destination etherType packet with
  | .error fault => h.emit (.fault fault)
  | .ok frame => h.transmit frame.window

/-! ### Resolution of addresses -/

/-- Sends an ARP packet to a station. -/
def sendArp (h : Host) (arp : Header.Arp) (destination : MacAddr) : Host :=
  h.sendFrame (Packet.ofPayload h.config.headRoom arp.bytes) destination EtherType.arp

/-- Asks every station who has `target`. -/
def sendArpRequest (h : Host) (target : Ipv4Addr) : Host :=
  (h.log (.asking target h.config.ip)).sendArp
    (Header.Arp.new .request h.config.mac h.config.ip MacAddr.zero target) MacAddr.broadcast

/-- Tells the station `mac`, which has the address `target`, where the host is. -/
def sendArpReply (h : Host) (target : Ipv4Addr) (mac : MacAddr) : Host :=
  (h.log (.telling h.config.ip h.config.mac target)).sendArp
    (Header.Arp.new .reply h.config.mac h.config.ip mac target) mac

/-- Sends an IPv4 packet to the station that has `target`.  Where that is not
known the packet waits for it and every station is asked, unless another packet
waits already, in which case this one is dropped. -/
def sendPacket (h : Host) (packet : Packet) (target : Ipv4Addr) : Host :=
  match h.cache.get? target h.clock with
  | some mac =>
      (h.emit (.dispatched target packet.window (.sent mac))).sendFrame packet mac
        EtherType.ipv4
  | none =>
      match h.held.get? target h.clock with
      | some _ =>
          (h.emit (.dispatched target packet.window .dropped)).log
            (.alreadyResolving packet.size target)
      | none =>
          let h := { h with held := h.held.set target packet h.clock }
          (h.emit (.dispatched target packet.window .held)).sendArpRequest target

/-! ### IPv4 -/

/-- Sends the window of a packet as the fragment of a datagram that starts at byte
`offset` of it.  Numbers that do not fit into their fields are cut off there. -/
def sendFragment (h : Host) (packet : Packet) (destination : Ipv4Addr) (protocol : UInt8)
    (identification : UInt16) (offset : Nat) (more : Bool) : Host :=
  let header := Outbound.fragmentHeader h.config destination protocol identification offset more
    packet.size
  let h := (h.noteNarrowing (Header.Ipv4.size + packet.size)).noteNarrowing (offset / 8)
  h.sendPacket (packet.prepend header.bytes) destination

/-- Sends the pieces of a datagram, the first of which starts at byte `offset` of it. -/
def sendPieces (h : Host) (destination : Ipv4Addr) (protocol : UInt8) (identification : UInt16)
    (offset : Nat) : List Bytes → Host
  | [] => h
  | piece :: rest =>
      (h.sendFragment (Packet.ofPayload h.config.headRoom piece) destination protocol
        identification offset (!rest.isEmpty)).sendPieces destination protocol identification
          (offset + piece.length) rest

/-- Sends the window of a packet as a datagram of its own, in as many fragments as
it takes.  One that is too long for any datagram is dropped. -/
def sendDatagram (h : Host) (packet : Packet) (destination : Ipv4Addr) (protocol : UInt8) : Host :=
  if Header.Ipv4.maxPayload < packet.size then
    h.log (.ipv4Oversized packet.size destination)
  else
    let identification := h.nextId
    let threshold := h.config.threshold
    let h := { h with nextId := identification + 1 }.emit
      (.submitted identification packet.window destination protocol)
    if packet.size ≤ threshold then
      h.sendFragment packet destination protocol identification 0 false
    else
      let pieces := Bytes.chunks threshold packet.window
      (h.log (.fragmenting packet.size identification destination
        ((packet.size + threshold - 1) / threshold))).sendPieces destination protocol
          identification 0 pieces

/-! ### ICMP -/

/-- Tells `target` that its datagram, which is the window of a packet, could not be
delivered. -/
def sendUnreachable (h : Host) (undelivered : Packet) (target : Ipv4Addr) (what : Unreachable) :
    Host :=
  let h := h.log (.unreachable what target)
  match Outbound.unreachable undelivered.window what with
  | .error fault => h.emit (.fault fault)
  | .ok message =>
      h.sendDatagram (Packet.ofPayload h.config.headRoom message) target Protocol.icmp

/-! ### UDP -/

/-- Sends the window of a packet as a UDP datagram.  One that is too long for any
datagram is dropped. -/
def sendSegment (h : Host) (packet : Packet) (sourcePort : UInt16) (destination : Ipv4Addr)
    (port : UInt16) : Host :=
  if Header.Udp.maxDatagram < packet.size then
    h.log (.udpOversized packet.size destination port)
  else
    match Outbound.udpSegment h.config.ip destination sourcePort port packet with
    | .error fault => h.emit (.fault fault)
    | .ok segment => h.sendDatagram segment destination Protocol.udp

/-- Sends a UDP datagram. -/
def sendUdp (h : Host) (payload : Bytes) (sourcePort : UInt16) (destination : Ipv4Addr)
    (port : UInt16) : Host :=
  h.sendSegment (Packet.ofPayload h.config.headRoom payload) sourcePort destination port

end HostNet.Host
