import HostNet.Proofs.Observation
import HostNet.Proofs.Outbound

/-!
# What receiving does with packets that are accepted

One lemma for each function that receives, on the condition that its checks pass and
that the handler of what is behind the header is there.  The packet that is passed on
is given by its window, since nothing depends on where that lies in its storage.

* `poll_of_receive`, `poll_of_next` — a frame of the link is read back from the receive
  buffer as it is.
* `receiveFrame_of_frame` — the payload of a frame, with its padding.
* `Host.learning`, `receiveArp_of_waiting`, `receiveArp_of_free` — an ARP packet.
* `receiveIpv4_of_accepted` — the payload of a packet, without the padding.
* `receiveUdp_of_accepted` — the data of a datagram for a port that is open.
* `enterPort_of_idle`, `leavePort_eq` — what is around the call of the handler of a port.
-/

namespace HostNet

/-- Bytes that are there can be stripped. -/
theorem Packet.strip_of_le (p : Packet) (size : Nat) (hsize : size ≤ p.window.length) :
    ∃ q, p.strip size = .ok q ∧ q.window = p.window.drop size := by
  cases hstrip : p.strip size with
  | ok q => exact ⟨q, rfl, Packet.window_strip hstrip⟩
  | error cause =>
      rw [Packet.length_window] at hsize
      rw [Packet.strip, dif_pos hsize] at hstrip
      cases hstrip

namespace Host

/-! ### The link -/

/-- A frame that fits into the buffer is read back from it as it is, and what the buffer held
behind it stays there. -/
theorem intoBuffer_of_le (buffer frame : Bytes) (hfit : frame.length ≤ buffer.length) :
    ∃ hlength, intoBuffer buffer frame = .ok (⟨buffer.splice 0 frame, hlength⟩, frame) := by
  obtain ⟨hlength, hfill⟩ := Checked.fill_of_le buffer frame hfit
  refine ⟨hlength, ?_⟩
  have hslice : Checked.slice (buffer.splice 0 frame) 0 frame.length = .ok frame := by
    rw [Checked.slice_of_le _ _ _ (by omega)]
    simp [Bytes.splice]
  rw [intoBuffer, hfill]
  simp only [bind, Except.bind, hslice]
  rfl

/-- What the link gives for a buffer fits into it. -/
theorem length_le_of_receive {l l' : Link} {capacity : Nat} {frame : Bytes}
    (hreceive : l.receive capacity = (l', .ok (some frame))) : frame.length ≤ capacity := by
  unfold Link.receive at hreceive
  split at hreceive
  · cases hreceive
  · cases hreceive
  · simp only [] at hreceive
    split at hreceive
    · cases hreceive
    · rename_i hfit
      cases hreceive
      exact Nat.not_lt.1 hfit

/-- **Polling** processes the frame that the link gives, which is written over the front of
the receive buffer. -/
theorem poll_of_receive_splice (h : Host) (run : Runner) {link : Link} {frame : Bytes}
    (hreceive : h.link.receive h.rxBuffer.length = (link, .ok (some frame))) :
    ∃ rxBuffer_length, h.poll run =
      ({ h with
          link
          rxBuffer := h.rxBuffer.splice 0 frame
          rxBuffer_length }.receiveFrame run (Packet.ofPayload 0 frame), .polled true) := by
  obtain ⟨hlength, hfilled⟩ := intoBuffer_of_le h.rxBuffer frame (length_le_of_receive hreceive)
  refine ⟨hlength.trans h.rxBuffer_length, ?_⟩
  rw [poll, hreceive]
  simp only [hfilled]

theorem poll_of_receive (h : Host) (run : Runner) {link : Link} {frame : Bytes}
    (hreceive : h.link.receive h.rxBuffer.length = (link, .ok (some frame))) :
    ∃ rxBuffer rxBuffer_length, h.poll run =
      ({ h with link, rxBuffer, rxBuffer_length }.receiveFrame run (Packet.ofPayload 0 frame),
        .polled true) := by
  obtain ⟨rxBuffer_length, hpoll⟩ := poll_of_receive_splice h run hreceive
  exact ⟨h.rxBuffer.splice 0 frame, rxBuffer_length, hpoll⟩

/-- The next frame of a link that does not fail, if it fits. -/
theorem receive_of_queue {l : Link} {capacity : Nat} {frame : Bytes} {rest : List Bytes}
    (hqueue : l.queue = frame :: rest) (hfault : l.receiveFault = none)
    (hfit : frame.length ≤ capacity) :
    l.receive capacity = ({ l with queue := rest }, .ok (some frame)) := by
  rw [Link.receive, hqueue, hfault]
  exact if_neg (Nat.not_lt.2 hfit)

/-- **The next frame of the link**, if it fits, is processed. -/
theorem poll_of_next (h : Host) (run : Runner) {frame : Bytes} {rest : List Bytes}
    (hqueue : h.link.queue = frame :: rest) (hfault : h.link.receiveFault = none)
    (hfit : frame.length ≤ h.config.maxFrame) :
    ∃ rxBuffer rxBuffer_length, h.poll run =
      ({ h with
          link := { h.link with queue := rest }
          rxBuffer
          rxBuffer_length }.receiveFrame run (Packet.ofPayload 0 frame), .polled true) :=
  poll_of_receive h run
    (receive_of_queue hqueue hfault (Nat.le_trans hfit (Nat.le_of_eq h.rxBuffer_length.symm)))

/-- A frame that does not fit is dropped. -/
theorem receive_of_oversized {l : Link} {capacity : Nat} {frame : Bytes} {rest : List Bytes}
    (hqueue : l.queue = frame :: rest) (hfault : l.receiveFault = none)
    (hlong : capacity < frame.length) :
    l.receive capacity =
      ({ l with queue := rest }, .error (.oversized frame.length capacity)) := by
  rw [Link.receive, hqueue, hfault]
  exact if_pos hlong

theorem receive_of_empty {l : Link} {capacity : Nat} (hqueue : l.queue = [])
    (hfault : l.receiveFault = none) : l.receive capacity = (l, .ok none) := by
  rw [Link.receive, hqueue, hfault]

/-! ### Frames -/

/-- **The payload of a frame**, with its padding, is passed to the handler of its ether
type. -/
theorem receiveFrame_of_frame (h : Host) (run : Runner) (p : Packet) {c : Config}
    {destination : MacAddr} {etherType : UInt16} {payload : Bytes} {handler : FrameHandler}
    (hwindow : p.window = Outbound.frame c destination etherType payload)
    (hhandler : h.frameHandlers.get? etherType = some handler) :
    ∃ q, q.window = payload ++ Bytes.zeros (c.minPayload - payload.length) ∧
      h.receiveFrame run p = h.handleFrame run handler q c.mac := by
  have hsize : Header.Ethernet.size ≤ p.window.length := by
    rw [hwindow, Outbound.length_frame]
    omega
  obtain ⟨q, hq, hqwindow⟩ := p.strip_of_le Header.Ethernet.size hsize
  refine ⟨q, by rw [hqwindow, hwindow, Outbound.drop_frame], ?_⟩
  rw [receiveFrame, Inbound.ethernet, hwindow, Outbound.parse_frame]
  simp only [Inbound.readHeader, hhandler, hq]

/-! ### ARP packets -/

/-- The host after it has learned where the sender of an ARP packet is, with no packet
waiting for that address any more. -/
def learning (h : Host) (arp : Header.Arp) : Host :=
  { h.log (.learned arp.senderIp arp.senderMac) with
    cache := h.cache.set arp.senderIp arp.senderMac h.clock
    held := h.held.delete arp.senderIp }

/-- The host as it sends the packet that waited for the sender of an ARP packet. -/
def flushing (h : Host) (arp : Header.Arp) (waiting : Packet) : Host :=
  ((h.learning arp).log (.flushing waiting.size arp.senderIp)).emit
    (.released arp.senderIp waiting.window arp.senderMac)

theorem flushing_noted (h : Host) (arp : Header.Arp) (waiting : Packet) :
    Noted (h.learning arp) (h.flushing arp waiting) :=
  ((Noted.refl (h.learning arp)).log (.flushing waiting.size arp.senderIp)).emit rfl rfl

/-- **A packet that waited** for the sender is sent, and a question is not answered. -/
theorem receiveArp_of_waiting (h : Host) (p : Packet) {arp : Header.Arp} {waiting : Packet}
    (harp : Inbound.arp p.window = .ok arp)
    (hwaiting : h.held.get? arp.senderIp h.clock = some waiting) :
    h.receiveArp p = (h.flushing arp waiting).sendFrame waiting arp.senderMac EtherType.ipv4 := by
  have htake : (h.log (.learned arp.senderIp arp.senderMac)).held.take arp.senderIp
      (h.log (.learned arp.senderIp arp.senderMac)).clock =
        (some waiting, h.held.delete arp.senderIp) := by
    rw [ExpiringTable.take, ← hwaiting]
    rfl
  rw [receiveArp, harp]
  simp only [htake]
  rfl

/-- **Where nothing waited** for the sender, a question for the host is answered. -/
theorem receiveArp_of_free (h : Host) (p : Packet) {arp : Header.Arp}
    (harp : Inbound.arp p.window = .ok arp)
    (hfree : h.held.get? arp.senderIp h.clock = none) :
    h.receiveArp p =
      if arp.operation = ArpOperation.request.code ∧ arp.targetIp = h.config.ip then
        (h.learning arp).sendArpReply arp.senderIp arp.senderMac
      else h.learning arp := by
  have htake : (h.log (.learned arp.senderIp arp.senderMac)).held.take arp.senderIp
      (h.log (.learned arp.senderIp arp.senderMac)).clock =
        (none, h.held.delete arp.senderIp) := by
    rw [ExpiringTable.take, ← hfree]
    rfl
  rw [receiveArp, harp]
  simp only [htake]
  rfl

/-! ### IPv4 packets and UDP datagrams -/

/-- **The payload of a packet** is passed to the handler of its protocol, without what
lies behind the total length. -/
theorem receiveIpv4_of_accepted (h : Host) (run : Runner) (p : Packet) {ip : Header.Ipv4}
    {handler : ProtocolHandler} (haccepted : Inbound.ipv4 h.config.ip p.window = .ok ip)
    (hhandler : h.protocolHandlers.get? ip.protocol = some handler)
    (hlength : ip.headerLength ≤ ip.totalLength.toNat)
    (htotal : ip.totalLength.toNat ≤ p.window.length) :
    ∃ q, q.window = (p.window.take ip.totalLength.toNat).drop ip.headerLength ∧
      h.receiveIpv4 run p = h.handleProtocol run handler q ip.source := by
  have hsize : ip.headerLength ≤ (p.truncate ip.totalLength.toNat).window.length := by
    rw [Packet.window_truncate, List.length_take]
    omega
  obtain ⟨q, hq, hwindow⟩ := (p.truncate ip.totalLength.toNat).strip_of_le ip.headerLength hsize
  refine ⟨q, by rw [hwindow, Packet.window_truncate], ?_⟩
  rw [receiveIpv4, haccepted]
  simp only [hhandler, hq]

/-- **The data of a datagram** is what the handler of its port is called with, without
what lies behind the length of the datagram. -/
theorem receiveUdp_of_accepted (h : Host) (run : Runner) (p : Packet) (source : Ipv4Addr)
    {udp : Header.Udp} {bound : Binding}
    (haccepted : Inbound.udp h.config.ip source p.window = .ok udp)
    (hbound : h.ports.get? udp.destination = some bound)
    (hleast : Header.Udp.size ≤ udp.length.toNat)
    (hlength : udp.length.toNat ≤ p.window.length) :
    ∃ size, h.receiveUdp run p source =
      (h.log (.delivering size source udp.source udp.destination)).enterPort run udp.destination
        bound ⟨source, udp.source, (p.window.take udp.length.toNat).drop Header.Udp.size⟩ := by
  have hsize : Header.Udp.size ≤ (p.truncate udp.length.toNat).window.length := by
    rw [Packet.window_truncate, List.length_take]
    omega
  obtain ⟨q, hq, hwindow⟩ := (p.truncate udp.length.toNat).strip_of_le Header.Udp.size hsize
  refine ⟨q.size, ?_⟩
  rw [receiveUdp, haccepted]
  simp only [hbound, hq, hwindow, Packet.window_truncate]

/-! ### Calls of port handlers -/

/-- **A handler that is not being called** is called with the datagram. -/
theorem enterPort_of_idle (h : Host) (run : Runner) (port : UInt16) (bound : Binding)
    (d : Datagram) (hidle : bound.number ∉ h.running) :
    h.enterPort run port bound d =
      (run (.port bound.number bound.name) (bound.body bound.memory d)
        (h.enteringPort port bound d)).1.leavePort port bound.number
          (run (.port bound.number bound.name) (bound.body bound.memory d)
            (h.enteringPort port bound d)).2 := by
  rw [enterPort, if_neg hidle]

/-- The call of the handler of a port is recorded before it runs. -/
theorem enteringPort_calls (h : Host) (port : UInt16) (bound : Binding) (d : Datagram) :
    (h.enteringPort port bound d).calls = h.calls ++ [⟨port, bound.number, d⟩] :=
  observed_emit Event.call? _ _

/-- What a handler leaves for the next call changes the memory of a binding at most. -/
theorem remember_eq (h : Host) (port : UInt16) (binding : Nat) (outcome : Outcome) :
    ∃ ports, h.remember port binding outcome = { h with ports } ∧
      ∀ p, ports.get? p = h.ports.get? p ∨
        ∃ bound memory, h.ports.get? p = some bound ∧
          ports.get? p = some { bound with memory } := by
  have hsame : ∃ ports, h = { h with ports } ∧ ∀ p, ports.get? p = h.ports.get? p ∨
      ∃ bound memory, h.ports.get? p = some bound ∧
        ports.get? p = some { bound with memory } :=
    ⟨h.ports, rfl, fun _ => .inl rfl⟩
  unfold remember
  cases outcome with
  | stopped => exact hsame
  | finished memory =>
      cases hbound : h.ports.get? port with
      | none => exact hsame
      | some bound =>
          simp only []
          by_cases hnumber : bound.number = binding
          · rw [if_pos hnumber]
            refine ⟨h.ports.insert port { bound with memory }, rfl, fun p => ?_⟩
            rw [Table.get?_insert]
            by_cases hp : p = port
            · exact .inr ⟨bound, memory, by rw [hp, hbound], if_pos hp⟩
            · exact .inl (if_neg hp)
          · rw [if_neg hnumber]
            exact hsame

/-- When a handler returns, nothing but the trace, the bindings that run and the memory of
a binding changes. -/
theorem leavePort_eq (h : Host) (port : UInt16) (binding : Nat) (outcome : Outcome) :
    ∃ ports, h.leavePort port binding outcome =
        { h.emit (.portLeft binding) with ports, running := h.running.erase binding } ∧
      ∀ p, ports.get? p = h.ports.get? p ∨
        ∃ bound memory, h.ports.get? p = some bound ∧
          ports.get? p = some { bound with memory } := by
  obtain ⟨ports, heq, hports⟩ := remember_eq (h.emit (.portLeft binding)) port binding outcome
  exact ⟨ports, congrArg (fun h' : Host => { h' with running := h'.running.erase binding }) heq,
    hports⟩

/-- Where the return of a handler is not seen, nothing new is seen after it. -/
theorem observed_leavePort {α : Type} {see : Event → Option α} (h : Host) (port : UInt16)
    (binding : Nat) (outcome : Outcome) (hsee : see (.portLeft binding) = none) :
    (h.leavePort port binding outcome).observed see = h.observed see := by
  obtain ⟨ports, heq, -⟩ := leavePort_eq h port binding outcome
  rw [heq, ← observed_emit_of_eq_none h hsee]
  exact observed_congr see rfl

end Host

end HostNet
