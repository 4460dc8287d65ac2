import HostNet.Host.Send
import HostNet.Inbound

/-!
# Receiving

What a host receives goes up through its layers, each of which checks a header,
strips it, and calls the handler of what is behind it.

* `Host.poll` — one frame of the link.
* `Host.receiveFrame`, `Host.receiveIpv4`, `Host.receiveUdp` — a packet whose payload is for
  the handler of an ether type, of a protocol, of a port.
* `Host.receiveArp`, `Host.receiveIcmp` — a packet that the host answers itself.

A handler that is not the host's own answers by a script.  Running scripts is
left to an argument, the `Runner`, so that nothing here is recursive.
-/

namespace HostNet.Host

/-- How the script of a handler ended. -/
inductive Outcome where
  /-- At its end, leaving a number for the next call. -/
  | finished (memory : Nat)
  /-- Early. -/
  | stopped
  deriving Repr, DecidableEq

/-- What runs the scripts of handlers. -/
abbrev Runner := Caller → Script → Host → Host × Outcome

/-! ### What the host answers itself -/

/-- Processes an ARP packet.  Whatever it is about, its sender is at the station it
names.  A packet that waited for the sender is sent there now; otherwise a
question for the host is answered. -/
def receiveArp (h : Host) (packet : Packet) : Host :=
  match Inbound.arp packet.window with
  | .error refusal => h.refuse refusal
  | .ok arp =>
      let h := h.log (.learned arp.senderIp arp.senderMac)
      let h := { h with cache := h.cache.set arp.senderIp arp.senderMac h.clock }
      let (waiting, held) := h.held.take arp.senderIp h.clock
      let h := { h with held }
      match waiting with
      | some waiting =>
          ((h.log (.flushing waiting.size arp.senderIp)).emit
            (.released arp.senderIp waiting.window arp.senderMac)).sendFrame waiting arp.senderMac
              EtherType.ipv4
      | none =>
          if arp.operation = ArpOperation.request.code ∧ arp.targetIp = h.config.ip then
            h.sendArpReply arp.senderIp arp.senderMac
          else h

/-- Processes an ICMP message: an echo request is answered. -/
def receiveIcmp (h : Host) (packet : Packet) (source : Ipv4Addr) : Host :=
  match Inbound.icmp source packet.window with
  | .error refusal => h.refuse refusal
  | .ok request =>
      let h := h.log (.echoReply source request.identifier request.sequence)
      match Outbound.echoReply request packet with
      | .error fault => h.emit (.fault fault)
      | .ok reply => h.sendDatagram reply source Protocol.icmp

/-! ### Ports -/

/-- Keeps what a call of the handler of a port left for the next one, if the
binding that was called is still there. -/
def remember (h : Host) (port : UInt16) (binding : Nat) : Outcome → Host
  | .stopped => h
  | .finished memory =>
      match h.ports.get? port with
      | none => h
      | some bound =>
          if bound.number = binding then
            { h with ports := h.ports.insert port { bound with memory } }
          else h

/-- The host as the handler bound to a port finds it when it is called. -/
def enteringPort (h : Host) (port : UInt16) (bound : Binding) (datagram : Datagram) : Host :=
  { h with running := bound.number :: h.running }.emit
    (.portEntered port bound.number bound.name bound.memory datagram)

/-- The host after the handler bound to a port has returned. -/
def leavePort (h : Host) (port : UInt16) (binding : Nat) (outcome : Outcome) : Host :=
  let h := (h.emit (.portLeft binding)).remember port binding outcome
  { h with running := h.running.erase binding }

/-- Calls the handler bound to a port, unless it is being called already. -/
def enterPort (h : Host) (run : Runner) (port : UInt16) (bound : Binding) (datagram : Datagram) :
    Host :=
  if bound.number ∈ h.running then
    h.log (.handlerBusy port)
  else
    let (h, outcome) := run (.port bound.number bound.name) (bound.body bound.memory datagram)
      (h.enteringPort port bound datagram)
    h.leavePort port bound.number outcome

/-- Processes a UDP datagram: the handler of its port is called with what it
carries.  Where nothing is bound to the port the sender is told so, which takes
the IPv4 header before the datagram to be quoted. -/
def receiveUdp (h : Host) (run : Runner) (packet : Packet) (source : Ipv4Addr) : Host :=
  match Inbound.udp h.config.ip source packet.window with
  | .error refusal => h.refuse refusal
  | .ok udp =>
      let packet := packet.truncate udp.length.toNat
      match h.ports.get? udp.destination with
      | none =>
          let h := h.log (.portUnreachable udp.destination source udp.source)
          match packet.moveHead (-(Header.Ipv4.size : Int)) with
          | .error cause => h.log (.udpNotQuotable cause)
          | .ok undelivered => h.sendUnreachable undelivered source .port
      | some bound =>
          match packet.strip Header.Udp.size with
          | .error cause => h.log (.udpHeaderless cause)
          | .ok data =>
              (h.log (.delivering data.size source udp.source udp.destination)).enterPort run
                udp.destination bound ⟨source, udp.source, data.window⟩

/-! ### Protocols and ether types -/

/-- Calls the handler of a protocol. -/
def handleProtocol (h : Host) (run : Runner) (handler : ProtocolHandler) (packet : Packet)
    (source : Ipv4Addr) : Host :=
  let h := h.emit (.protocolHandled handler.name? packet.head packet.window source)
  match handler with
  | .icmp => h.receiveIcmp packet source
  | .udp => h.receiveUdp run packet source
  | .custom name body => (run (.protocol name) (body packet source) h).1

/-- Processes an IPv4 packet: the handler of its protocol is called with what it
carries.  Where the protocol has none the sender is told so. -/
def receiveIpv4 (h : Host) (run : Runner) (packet : Packet) : Host :=
  match Inbound.ipv4 h.config.ip packet.window with
  | .error refusal => h.refuse refusal
  | .ok ip =>
      let packet := packet.truncate ip.totalLength.toNat
      match h.protocolHandlers.get? ip.protocol with
      | none =>
          (h.log (.protocolUnknown ip.protocol ip.source)).sendUnreachable packet ip.source
            .protocol
      | some handler =>
          match packet.strip ip.headerLength with
          | .error cause => h.log (.ipv4Malformed cause)
          | .ok payload => h.handleProtocol run handler payload ip.source

/-- Calls the handler of an ether type. -/
def handleFrame (h : Host) (run : Runner) (handler : FrameHandler) (packet : Packet)
    (source : MacAddr) : Host :=
  let h := h.emit (.frameHandled handler.name? packet.head packet.window source)
  match handler with
  | .arp => h.receiveArp packet
  | .ipv4 => h.receiveIpv4 run packet
  | .custom name body => (run (.frame name) (body packet source) h).1

/-- Processes a frame: the handler of its ether type is called with what it
carries, whatever station it is for. -/
def receiveFrame (h : Host) (run : Runner) (packet : Packet) : Host :=
  match Inbound.ethernet packet.window with
  | .error refusal => h.refuse refusal
  | .ok ethernet =>
      match h.frameHandlers.get? ethernet.etherType with
      | none => h.log (.etherTypeUnknown ethernet.source ethernet.etherType)
      | some handler =>
          match packet.strip Header.Ethernet.size with
          | .error cause => h.log (.frameMalformed cause)
          | .ok payload => h.handleFrame run handler payload ethernet.source

/-! ### The link -/

/-- A frame copied to the front of the receive buffer, and read from there. -/
def intoBuffer (buffer frame : Bytes) :
    Except Fault ({ filled : Bytes // filled.length = buffer.length } × Bytes) := do
  let filled ← Checked.fill buffer frame
  pure (filled, ← Checked.slice filled.1 0 frame.length)

/-- Processes one frame of the link, if there is one. -/
def poll (h : Host) (run : Runner) : Host × Reply :=
  let (link, received) := h.link.receive h.rxBuffer.length
  let h := { h with link }
  match received with
  | .error cause => (h, .failed cause)
  | .ok none => (h, .polled false)
  | .ok (some frame) =>
      match intoBuffer h.rxBuffer frame with
      | .error fault => (h.emit (.fault fault), .polled true)
      | .ok (filled, frame) =>
          let h :=
            { h with
              rxBuffer := filled.1
              rxBuffer_length := filled.2.trans h.rxBuffer_length }
          (h.receiveFrame run (Packet.ofPayload 0 frame), .polled true)

end HostNet.Host
