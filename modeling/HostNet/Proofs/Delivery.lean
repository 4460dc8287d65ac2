import HostNet.Host.Run
import HostNet.Proofs.Fragmentation
import HostNet.Proofs.Receiving

/-!
# Delivery of fragments and of UDP datagrams

What one host sends in a single frame, another host reads back as it was.  The handler of
its protocol is called with what a fragment carries, and the handler of its port with the
data, the port and the address of the sender of a UDP datagram.

* `Host.protocolCalls`, `ProtocolHandler.respond` — the calls of the handlers of protocols,
  and what these do.
* `sendFragment_delivered` — a fragment of any datagram, at any place in it.
* `Outbound.datagram` — the IPv4 packet that carries a UDP datagram.
* `sendUdp_sent` — a datagram whose destination is known is handed to the link in one
  frame.
* `receiveIpv4_of_fragment`, `receiveUdp_of_segment` — what each layer passes on.
* `receiveFrame_of_fragment`, `receiveFrame_of_datagram` — a host takes such a frame apart
  down to the call of the handler.
* `sendUdp_delivered` — a UDP datagram.

### What the two ends have to agree on

The sender puts three headers before the data and pads the frame; the receiver drops the
padding by the total length in the IPv4 header, and takes the length of the data from the
UDP header.  Both checksums are compared with the same sum over the same bytes, with the
check field zero, so that neither an odd length nor a checksum that comes out as zero is
a case of its own.
-/

namespace HostNet

/-! ### The longest packet -/

/-- The length of the longest packet that a host sends or takes in one frame. -/
def Config.mtu (c : Config) : Nat := Header.Ipv4.size + c.threshold

/-- It is what the host was set up with. -/
theorem Settings.mtu_of_build {s : Settings} {c : Config} (hbuild : s.build = .ok c) :
    c.mtu = s.mtu := by
  have hge := c.threshold_ge
  simp only [build] at hbuild
  repeat
    split at hbuild
    · cases hbuild
  cases hbuild
  simp only [Config.mtu, Header.Ipv4.size] at *
  omega

theorem Config.maxFrame_eq (c : Config) : c.maxFrame = Header.Ethernet.size + c.mtu := by
  rw [maxFrame, mtu]
  omega

/-! ### Calls of the handlers of protocols -/

/-- A call of the handler of a protocol. -/
structure ProtocolCall where
  /-- The name of the handler, if it is not one of the host's own. -/
  name? : Option String
  payload : Bytes
  source : Ipv4Addr
  deriving Repr, DecidableEq

/-- The call of the handler of a protocol. -/
def Event.protocolCall? : Event → Option ProtocolCall
  | protocolHandled name? _ payload source => some ⟨name?, payload, source⟩
  | _ => none

/-- The calls of the handlers of protocols. -/
def Host.protocolCalls (h : Host) : List ProtocolCall := h.observed Event.protocolCall?

/-- What the handler of a protocol makes of a packet from some source, and of a host that has
taken note of the call. -/
def ProtocolHandler.respond (handler : ProtocolHandler) (run : Host.Runner) (packet : Packet)
    (source : Ipv4Addr) (h : Host) : Host :=
  match handler with
  | .icmp => h.receiveIcmp packet source
  | .udp => h.receiveUdp run packet source
  | .custom name body => (run (.protocol name) (body packet source) h).1

theorem Host.handleProtocol_eq (h : Host) (run : Runner) (handler : ProtocolHandler)
    (p : Packet) (source : Ipv4Addr) :
    h.handleProtocol run handler p source =
      handler.respond run p source
        (h.emit (.protocolHandled handler.name? p.head p.window source)) := by
  cases handler with
  | icmp => rfl
  | udp => rfl
  | custom name body => rfl

/-! ### The segment -/

namespace Inbound

/-- **A segment passes every check of its receiver.** -/
theorem udp_segment (localIp source : Ipv4Addr) (sourcePort port : UInt16) (payload : Bytes)
    (hsize : Header.Udp.size + payload.length < 65536) :
    udp localIp source (Outbound.segment source localIp sourcePort port payload) =
      .ok (Outbound.segmentHeader source localIp sourcePort port payload) := by
  have hlength : (Outbound.segmentHeader source localIp sourcePort port payload).length.toNat =
      Header.Udp.size + payload.length := Nat.mod_eq_of_lt hsize
  have hall : (Outbound.segment source localIp sourcePort port payload).take
      (Outbound.segmentHeader source localIp sourcePort port payload).length.toNat =
        Outbound.segment source localIp sourcePort port payload := by
    rw [hlength, ← Outbound.length_segment source localIp sourcePort port, List.take_length]
  refine udp_of_valid (Header.Udp.parse_append _ _) ?_ ?_ ?_
  · exact Nat.le_of_eq (hlength.trans (Outbound.length_segment _ _ _ _ _).symm)
  · rw [hlength]
    exact Nat.le_add_right _ _
  · -- With the check field cleared the segment is what the checksum was taken over.
    have hcleared : (Outbound.segment source localIp sourcePort port payload).splice
        Header.Udp.checkOffset (Bytes.zeros 2) =
          (Outbound.clearedHeader sourcePort port payload).bytes ++ payload :=
      Outbound.splice_udp_check _ payload 0
    rw [hall, hcleared]
    rfl

end Inbound

namespace Outbound

/-- The IPv4 packet that carries a UDP datagram, unfragmented. -/
def datagram (c : Config) (destination : Ipv4Addr) (identification : UInt16)
    (sourcePort port : UInt16) (payload : Bytes) : Bytes :=
  fragment c destination Protocol.udp identification 0 false
    (segment c.ip destination sourcePort port payload)

/-- The frame that carries a UDP datagram to a station. -/
def datagramFrame (c : Config) (mac : MacAddr) (destination : Ipv4Addr)
    (identification : UInt16) (sourcePort port : UInt16) (payload : Bytes) : Bytes :=
  frame c mac EtherType.ipv4 (datagram c destination identification sourcePort port payload)

/-- A datagram that fits into a fragment makes a frame no longer than the longest. -/
theorem length_datagramFrame_le (c : Config) (mac : MacAddr) (destination : Ipv4Addr)
    (identification : UInt16) (sourcePort port : UInt16) (payload : Bytes)
    (hsize : Header.Udp.size + payload.length ≤ c.threshold) :
    (datagramFrame c mac destination identification sourcePort port payload).length ≤
      c.maxFrame := by
  refine length_frame_le _ _ _ _ ?_
  rw [datagram, length_fragment, length_segment]
  omega

end Outbound

namespace Host

/-! ### Sending -/

/-- What is sent as a UDP datagram is submitted as a segment. -/
theorem sendSegment_eq (h : Host) (p : Packet) (sourcePort : UInt16) (destination : Ipv4Addr)
    (port : UInt16) (hsize : p.size ≤ Header.Udp.maxDatagram) :
    ∃ q : Packet,
      q.window = Outbound.segment h.config.ip destination sourcePort port p.window ∧
      h.sendSegment p sourcePort destination port =
        h.sendDatagram q destination Protocol.udp := by
  obtain ⟨q, hq, hwindow⟩ := Outbound.udpSegment_eq_segment h.config.ip destination sourcePort
    port p hsize
  refine ⟨q, hwindow, ?_⟩
  rw [sendSegment, if_neg (Nat.not_lt.2 hsize), hq]

theorem sendUdp_eq (h : Host) (payload : Bytes) (sourcePort : UInt16) (destination : Ipv4Addr)
    (port : UInt16) (hsize : payload.length ≤ Header.Udp.maxDatagram) :
    ∃ p : Packet,
      p.window = Outbound.segment h.config.ip destination sourcePort port payload ∧
      h.sendUdp payload sourcePort destination port =
        h.sendDatagram p destination Protocol.udp := by
  obtain ⟨p, hwindow, heq⟩ := sendSegment_eq h (Packet.ofPayload h.config.headRoom payload)
    sourcePort destination port (by rw [Packet.size_ofPayload]; exact hsize)
  rw [Packet.window_ofPayload] at hwindow
  exact ⟨p, hwindow, heq⟩

/-- A datagram that fits into a fragment is short enough for any field. -/
theorem le_maxDatagram_of_le_threshold {c : Config} {payload : Bytes}
    (hsize : Header.Udp.size + payload.length ≤ c.threshold) :
    payload.length ≤ Header.Udp.maxDatagram := by
  have hthreshold := c.threshold_le
  simp only [Header.Udp.maxDatagram, Header.Ipv4.maxPayload, Header.Udp.size] at *
  omega

/-- **A datagram that fits into a fragment**, for a destination that is known, is handed to
the link in one frame. -/
theorem sendUdp_sent (h : Host) {destination : Ipv4Addr} {mac : MacAddr} (payload : Bytes)
    (sourcePort port : UInt16) (hfresh : h.cache.get? destination h.clock = some mac)
    (hsize : Header.Udp.size + payload.length ≤ h.config.threshold) :
    ∃ p : Packet, Sent (h.submitting p destination Protocol.udp)
      (h.sendUdp payload sourcePort destination port)
      [Outbound.datagramFrame h.config mac destination h.nextId sourcePort port payload] := by
  obtain ⟨p, hwindow, heq⟩ := sendUdp_eq h payload sourcePort destination port
    (le_maxDatagram_of_le_threshold hsize)
  have hle : p.size ≤ h.config.threshold := by
    rw [← Packet.length_window, hwindow, Outbound.length_segment]
    exact hsize
  have hsent := sendDatagram_sent_of_le h p Protocol.udp hfresh hle
  rw [hwindow] at hsent
  refine ⟨p, ?_⟩
  rw [heq]
  exact hsent

/-! ### Receiving -/

/-- **The packet of a fragment**, whatever follows it, is passed on as the piece it
carries. -/
theorem receiveIpv4_of_fragment (h : Host) (run : Runner) (p : Packet) {c : Config}
    {protocol : UInt8} {identification : UInt16} {offset : Nat} {more : Bool}
    {piece rest : Bytes} {handler : ProtocolHandler}
    (hwindow : p.window =
      Outbound.fragment c h.config.ip protocol identification offset more piece ++ rest)
    (hsize : piece.length ≤ Header.Ipv4.maxPayload)
    (hhandler : h.protocolHandlers.get? protocol = some handler) :
    ∃ q, q.window = piece ∧ h.receiveIpv4 run p = h.handleProtocol run handler q c.ip := by
  have haccepted : Inbound.ipv4 h.config.ip p.window = .ok (Outbound.fragmentHeader c
      h.config.ip protocol identification offset more piece.length) := by
    rw [hwindow]
    exact Outbound.ipv4_fragment _ _ _ _ _ _ _ _ hsize
  have htotal := Outbound.fragmentHeader_totalLength c h.config.ip protocol identification offset
    more _ hsize
  have hlong : Header.Ipv4.size + piece.length ≤ p.window.length := by
    rw [hwindow, List.length_append, Outbound.length_fragment]
    exact Nat.le_add_right _ _
  obtain ⟨q, hq, hreceived⟩ := receiveIpv4_of_accepted h run p haccepted hhandler
    (by rw [htotal]; exact Nat.le_add_right _ _) (by rw [htotal]; exact hlong)
  -- The total length ends before what follows the packet.
  refine ⟨q, ?_, hreceived⟩
  rw [hq, hwindow, Outbound.take_fragment _ _ _ _ _ _ _ _ hsize, Outbound.drop_fragment]

/-- **A frame that carries a fragment** for a host is taken apart down to the call of the
handler of the protocol, with nothing but a note of it before the call. -/
theorem receiveFrame_of_fragment (h : Host) (run : Runner) (p : Packet) {c : Config}
    {mac : MacAddr} {protocol : UInt8} {identification : UInt16} {offset : Nat} {more : Bool}
    {piece : Bytes} {handler : ProtocolHandler}
    (hwindow : p.window = Outbound.frame c mac EtherType.ipv4
      (Outbound.fragment c h.config.ip protocol identification offset more piece))
    (hsize : piece.length ≤ Header.Ipv4.maxPayload)
    (hipv4 : h.frameHandlers.get? EtherType.ipv4 = some .ipv4)
    (hhandler : h.protocolHandlers.get? protocol = some handler) :
    ∃ packet q : Packet, q.window = piece ∧
      h.receiveFrame run p =
        (h.emit (.frameHandled none packet.head packet.window c.mac)).handleProtocol run handler
          q c.ip := by
  obtain ⟨packet, hpacket, hframe⟩ := receiveFrame_of_frame h run p hwindow hipv4
  let handled := h.emit (.frameHandled none packet.head packet.window c.mac)
  obtain ⟨q, hq, hreceived⟩ :=
    receiveIpv4_of_fragment handled run packet hpacket hsize hhandler
  refine ⟨packet, q, hq, ?_⟩
  rw [hframe]
  exact hreceived

/-- **A segment for an open port** leads to the call of its handler with the payload. -/
theorem receiveUdp_of_segment (h : Host) (run : Runner) (p : Packet) {source : Ipv4Addr}
    {sourcePort port : UInt16} {payload : Bytes} {bound : Binding}
    (hwindow : p.window = Outbound.segment source h.config.ip sourcePort port payload)
    (hsize : Header.Udp.size + payload.length < 65536)
    (hbound : h.ports.get? port = some bound) :
    ∃ size, h.receiveUdp run p source =
      (h.log (.delivering size source sourcePort port)).enterPort run port bound
        ⟨source, sourcePort, payload⟩ := by
  have haccepted : Inbound.udp h.config.ip source p.window =
      .ok (Outbound.segmentHeader source h.config.ip sourcePort port payload) := by
    rw [hwindow]
    exact Inbound.udp_segment h.config.ip source sourcePort port payload hsize
  -- The segment is as long as its header says.
  have hlength : (Outbound.segmentHeader source h.config.ip sourcePort port
      payload).length.toNat = p.window.length := by
    rw [hwindow, Outbound.length_segment]
    exact Nat.mod_eq_of_lt hsize
  have hleast : Header.Udp.size ≤ p.window.length := by
    rw [hwindow, Outbound.length_segment]
    exact Nat.le_add_right _ _
  obtain ⟨size, hdelivered⟩ := receiveUdp_of_accepted h run p source haccepted hbound
    (by rw [hlength]; exact hleast) (Nat.le_of_eq hlength)
  have hdata : p.window.drop Header.Udp.size = payload := by
    rw [hwindow]
    exact List.drop_left' (Header.Udp.length_bytes _)
  rw [hlength, List.take_length, hdata] at hdelivered
  exact ⟨size, hdelivered⟩

/-- **A frame that carries a datagram** for a host is taken apart down to the call of the
handler of the port, with nothing but notes of it before the call. -/
theorem receiveFrame_of_datagram (h : Host) (run : Runner) (p : Packet) {c : Config}
    {mac : MacAddr} {identification sourcePort port : UInt16} {payload : Bytes}
    {bound : Binding}
    (hwindow : p.window =
      Outbound.datagramFrame c mac h.config.ip identification sourcePort port payload)
    (hsize : Header.Udp.size + payload.length ≤ Header.Ipv4.maxPayload)
    (hown : h.HasOwnHandlers) (hbound : h.ports.get? port = some bound) :
    ∃ noted, Noted h noted ∧
      h.receiveFrame run p = noted.enterPort run port bound ⟨c.ip, sourcePort, payload⟩ := by
  have hlength : (Outbound.segment c.ip h.config.ip sourcePort port payload).length ≤
      Header.Ipv4.maxPayload := by
    rw [Outbound.length_segment]
    exact hsize
  have hword : Header.Udp.size + payload.length < 65536 := by
    simp only [Header.Ipv4.maxPayload] at hsize
    omega
  obtain ⟨packet, segment, hsegment, hframe⟩ :=
    receiveFrame_of_fragment h run p hwindow hlength hown.ipv4 hown.udp
  -- Each layer takes note of the call of the next.
  let h₁ := h.emit (.frameHandled none packet.head packet.window c.mac)
  let h₂ := h₁.emit (.protocolHandled none segment.head segment.window c.ip)
  obtain ⟨size, hdelivered⟩ := receiveUdp_of_segment h₂ run segment hsegment hword hbound
  refine ⟨h₂.log (.delivering size c.ip sourcePort port), ?_, ?_⟩
  · exact (((Noted.refl h).emit rfl rfl).emit rfl rfl).log _
  · rw [hframe]
    exact hdelivered

/-! ### Fragments and datagrams, from one host to another -/

/-- **What is sent as a fragment is accepted.**  A fragment for a destination that is known is
handed to the link in exactly one frame, whatever its identification, its flag and its offset,
if that is a multiple of 8 that fits into its field; and all three are read back from the frame.
Polling that frame, a host that has the address, takes packets of that length and knows IPv4
calls the handler of the protocol exactly once, with the payload and the address of the sender:
recorded in `entered` is that call and no other, and the host afterwards is what the handler
makes of `entered`. -/
theorem sendFragment_delivered (A B : Host) (p : Packet) {mac : MacAddr} {protocol : UInt8}
    {handler : ProtocolHandler} (identification : UInt16) (offset : Nat) (more : Bool)
    (hsize : Header.Ipv4.size + p.size ≤ B.config.mtu)
    (hpadding : A.config.minPayload ≤ B.config.mtu)
    (haligned : offset % 8 = 0) (hoffset : offset < 65536)
    (hfresh : A.cache.get? B.config.ip A.clock = some mac)
    (hipv4 : B.frameHandlers.get? EtherType.ipv4 = some .ipv4)
    (hhandler : B.protocolHandlers.get? protocol = some handler) :
    ∃ frame : Bytes,
      (∃ trace, A.sendFragment p B.config.ip protocol identification offset more =
        { A with link := A.link.sendAll [frame], trace }) ∧
      (A.sendFragment p B.config.ip protocol identification offset more).frames =
        A.frames ++ [frame] ∧
      (∃ ip, Header.Ipv4.parse (frame.drop Header.Ethernet.size) = .ok ip ∧
        ip.identification = identification ∧ ip.fragmentOffset = offset ∧
        ip.moreFragments = more) ∧
      ∀ (run : Runner) (link : Link) (rest : List Bytes), link.queue = frame :: rest →
        link.receiveFault = none →
          ∃ (entered : Host) (q : Packet),
            (∃ rxBuffer rxBuffer_length trace, entered =
              { B with link := { link with queue := rest }, rxBuffer, rxBuffer_length, trace }) ∧
            entered.protocolCalls =
              B.protocolCalls ++ [⟨handler.name?, p.window, A.config.ip⟩] ∧
            entered.calls = B.calls ∧
            entered.frames = B.frames ∧
            q.window = p.window ∧
            { B with link }.poll run =
              (handler.respond run q A.config.ip entered, .polled true) := by
  have hmax : p.size ≤ Header.Ipv4.maxPayload := by
    have hthreshold := B.config.threshold_le
    rw [Config.mtu] at hsize
    rw [Header.Ipv4.maxPayload]
    omega
  have hpiece : p.window.length ≤ Header.Ipv4.maxPayload := by
    rw [Packet.length_window]
    exact hmax
  have hsent := sendFragment_sent A p protocol identification offset more hfresh hmax (by omega)
  obtain ⟨trace, hsender⟩ := hsent.eq_sendAll
  refine ⟨_, ⟨trace, hsender⟩, hsent.frames, ?_, fun run link rest hqueue hfault => ?_⟩
  · rw [Outbound.drop_frame, Outbound.parse_fragment]
    exact ⟨_, rfl, rfl, Outbound.fragmentHeader_offset _ _ _ _ _ _ _ (by omega) haligned,
      Outbound.fragmentHeader_more _ _ _ _ _ _ _ (by omega)⟩
  · -- The padded packet is no longer than the longest that `B` takes.
    have hfit : (Outbound.frame A.config mac EtherType.ipv4 (Outbound.fragment A.config
        B.config.ip protocol identification offset more p.window)).length ≤
        B.config.maxFrame := by
      rw [Outbound.length_frame, Outbound.length_fragment, Packet.length_window,
        Config.maxFrame_eq]
      omega
    obtain ⟨rxBuffer, rxBuffer_length, hpoll⟩ :=
      poll_of_next { B with link } run hqueue hfault hfit
    let received : Host :=
      { B with link := { link with queue := rest }, rxBuffer, rxBuffer_length }
    obtain ⟨packet, q, hq, hreceived⟩ := receiveFrame_of_fragment received run
      (Packet.ofPayload 0 _) (Packet.window_ofPayload _ _) hpiece hipv4 hhandler
    let handled := received.emit (.frameHandled none packet.head packet.window A.config.mac)
    let entered := handled.emit (.protocolHandled handler.name? q.head q.window A.config.ip)
    have hunseen {α : Type} {see : Event → Option α}
        (hsee : see (.frameHandled none packet.head packet.window A.config.mac) = none) :
        handled.observed see = B.observed see := observed_emit_of_eq_none received hsee
    refine ⟨entered, q, ⟨rxBuffer, rxBuffer_length, _, rfl⟩, ?_, ?_, ?_, hq, ?_⟩
    · rw [protocolCalls, observed_emit, hunseen rfl, ← hq]
      rfl
    · exact (observed_emit_of_eq_none handled rfl).trans (hunseen rfl)
    · exact (observed_emit_of_eq_none handled rfl).trans (hunseen rfl)
    · rw [hpoll]
      exact congrArg (·, Reply.polled true)
        (hreceived.trans (handleProtocol_eq handled run handler q A.config.ip))

/-- Three bytes from the middle of a datagram, for a handler of a protocol that is not one of
the host's own. -/
theorem sendFragment_delivered_of_three_bytes :
    ∃ (A B : Host) (p : Packet) (frame : Bytes),
      p.window = [1, 2, 3] ∧
      (A.sendFragment p B.config.ip 99 7 1480 true).frames = A.frames ++ [frame] ∧
      ({ B with link := { queue := [frame] } }.poll (runner 0)).1.protocolCalls =
        [⟨some "sink", [1, 2, 3], ⟨10, 0, 0, 1⟩⟩] := by
  obtain ⟨a, ha⟩ : ∃ c, Settings.build {} = .ok c ∧ c.ip = ⟨10, 0, 0, 1⟩ ∧ c.minPayload = 46 :=
    ⟨_, rfl, rfl, rfl⟩
  obtain ⟨b, hb⟩ : ∃ c, Settings.build { ip := ⟨10, 0, 0, 2⟩ } = .ok c := ⟨_, rfl⟩
  have hmtu : b.mtu = 1500 := Settings.mtu_of_build hb
  let A : Host := { silent a {} with cache := (silent a {}).cache.set b.ip b.mac 0 }
  let sink : ProtocolHandler := .custom "sink" fun _ _ => .done 0
  let B : Host :=
    { silent b {} with protocolHandlers := (silent b {}).protocolHandlers.insert 99 sink }
  let p := Packet.ofPayload 0 [1, 2, 3]
  have hsize : Header.Ipv4.size + p.size ≤ b.mtu := by
    rw [hmtu]
    decide
  have hpadding : a.minPayload ≤ b.mtu := by
    rw [hmtu, ha.2.2]
    decide
  have hfresh : A.cache.get? B.config.ip A.clock = some b.mac :=
    (ExpiringTable.get?_set _ _ _ _ _).trans (if_pos rfl)
  have hsink : B.protocolHandlers.get? 99 = some sink := rfl
  obtain ⟨frame, -, hframes, -, hpolled⟩ := sendFragment_delivered A B p 7 1480 true hsize
    hpadding rfl (by decide) hfresh (silent_hasOwnHandlers b {}).ipv4 hsink
  obtain ⟨entered, q, -, hcalls, -, -, -, hpoll⟩ :=
    hpolled (runner 0) { queue := [frame] } [] rfl rfl
  refine ⟨A, B, p, frame, rfl, hframes, ?_⟩
  rw [hpoll, ← ha.2.1]
  exact hcalls

/-- **What is sent as a datagram is delivered.**  A datagram that fits into a fragment, for
a destination that is known, is handed to the link in exactly one frame.  Polling that
frame, a host that has the address, knows the protocols and has a handler bound to the
port calls it exactly once, with the data and the port and address of the sender:
recorded in `entered` is that call and no other, and the host afterwards is what the
script of the handler makes of `entered`. -/
theorem sendUdp_delivered (A B : Host) (data : Bytes) (sourcePort port : UInt16)
    (mac : MacAddr) (bound : Binding)
    (hframe : A.config.maxFrame ≤ B.config.maxFrame)
    (hsize : Header.Udp.size + data.length ≤ A.config.threshold)
    (hfresh : A.cache.get? B.config.ip A.clock = some mac)
    (hown : B.HasOwnHandlers) (hbound : B.ports.get? port = some bound)
    (hidle : bound.number ∉ B.running) :
    ∃ frame : Bytes,
      (∃ trace, A.sendUdp data sourcePort B.config.ip port =
        { A with link := A.link.sendAll [frame], trace, nextId := A.nextId + 1 }) ∧
      (A.sendUdp data sourcePort B.config.ip port).frames = A.frames ++ [frame] ∧
      ∀ (run : Runner) (link : Link) (rest : List Bytes), link.queue = frame :: rest →
        link.receiveFault = none →
          ∃ entered : Host,
            (∃ rxBuffer rxBuffer_length trace, entered =
              { B with
                link := { link with queue := rest }
                rxBuffer, rxBuffer_length, trace
                running := bound.number :: B.running }) ∧
            entered.calls =
              B.calls ++ [⟨port, bound.number, ⟨A.config.ip, sourcePort, data⟩⟩] ∧
            entered.frames = B.frames ∧
            { B with link }.poll run =
              ((run (.port bound.number bound.name)
                  (bound.body bound.memory ⟨A.config.ip, sourcePort, data⟩)
                  entered).1.leavePort port bound.number
                (run (.port bound.number bound.name)
                  (bound.body bound.memory ⟨A.config.ip, sourcePort, data⟩) entered).2,
                .polled true) ∧
            ({ B with link }.poll run).1.calls =
              (run (.port bound.number bound.name)
                (bound.body bound.memory ⟨A.config.ip, sourcePort, data⟩) entered).1.calls := by
  obtain ⟨p, hsent⟩ := sendUdp_sent A data sourcePort port hfresh hsize
  obtain ⟨trace, hsender⟩ := hsent.eq_sendAll
  have hlength : (Outbound.datagramFrame A.config mac B.config.ip A.nextId sourcePort port
      data).length ≤ B.config.maxFrame :=
    Nat.le_trans (Outbound.length_datagramFrame_le _ _ _ _ _ _ _ hsize) hframe
  refine ⟨_, ⟨trace, hsender⟩, hsent.frames.trans ?_, fun run link rest hqueue hfault => ?_⟩
  · exact congrArg (· ++ _) (observed_emit_of_eq_none _ rfl)
  · obtain ⟨rxBuffer, rxBuffer_length, hpoll⟩ :=
      poll_of_next { B with link } run hqueue hfault hlength
    let received : Host :=
      { B with link := { link with queue := rest }, rxBuffer, rxBuffer_length }
    have hdata : Header.Udp.size + data.length ≤ Header.Ipv4.maxPayload := by
      have hthreshold := A.config.threshold_le
      simp only [Header.Ipv4.maxPayload]
      omega
    have hown' : received.HasOwnHandlers := hown.congr rfl rfl
    obtain ⟨noted, hnoted, hreceived⟩ := receiveFrame_of_datagram received run
      (Packet.ofPayload 0 _) (Packet.window_ofPayload _ _) hdata hown' hbound
    -- Taking notes does not start a handler.
    obtain ⟨notes, hunchanged⟩ := hnoted.unchanged
    have hidle' : bound.number ∉ noted.running := by
      rw [hunchanged]
      exact hidle
    have hresult := hpoll.trans (congrArg (·, Reply.polled true)
      (hreceived.trans (enterPort_of_idle noted run port bound _ hidle')))
    refine ⟨noted.enteringPort port bound ⟨A.config.ip, sourcePort, data⟩, ?_, ?_, ?_, hresult,
      ?_⟩
    · rw [hunchanged]
      exact ⟨rxBuffer, rxBuffer_length, _, rfl⟩
    · rw [enteringPort_calls, hnoted.calls_eq]
      rfl
    · exact (observed_emit_of_eq_none _ rfl).trans hnoted.frames_eq
    · rw [hresult]
      exact observed_leavePort _ _ _ _ rfl

/-- Three bytes from one host to the handler of port 7 of another. -/
theorem sendUdp_delivered_of_three_bytes :
    ∃ (A B : Host) (frame : Bytes),
      (A.sendUdp [1, 2, 3] 9 B.config.ip 7).frames = A.frames ++ [frame] ∧
      ({ B with link := { queue := [frame] } }.poll (runner 0)).1.calls =
        [⟨7, 0, ⟨⟨10, 0, 0, 1⟩, 9, [1, 2, 3]⟩⟩] := by
  obtain ⟨a, ha⟩ : ∃ c, Settings.build {} = .ok c ∧ c.threshold = 1480 ∧ c.ip = ⟨10, 0, 0, 1⟩ :=
    ⟨_, rfl, rfl, rfl⟩
  obtain ⟨b, hb⟩ : ∃ c, Settings.build { ip := ⟨10, 0, 0, 2⟩ } = .ok c ∧ c.threshold = 1480 :=
    ⟨_, rfl, rfl⟩
  let A : Host := { silent a {} with cache := (silent a {}).cache.set b.ip b.mac 0 }
  let bound : Binding := { number := 0, name := "sink", memory := 0, body := fun _ _ => .done 0 }
  let B : Host := { silent b {} with ports := Table.empty.insert 7 bound }
  have hframe : A.config.maxFrame ≤ B.config.maxFrame := by
    show a.maxFrame ≤ b.maxFrame
    exact Nat.le_of_eq (by rw [Config.maxFrame, Config.maxFrame, ha.2.1, hb.2])
  have hsize : Header.Udp.size + [(1 : UInt8), 2, 3].length ≤ A.config.threshold := by
    show _ ≤ a.threshold
    rw [ha.2.1]
    decide
  have hown := silent_hasOwnHandlers b {}
  have hfresh : A.cache.get? B.config.ip A.clock = some b.mac :=
    (ExpiringTable.get?_set _ _ _ _ _).trans (if_pos rfl)
  obtain ⟨frame, -, hframes, hpolled⟩ := sendUdp_delivered A B [1, 2, 3] 9 7 b.mac bound hframe
    hsize hfresh (hown.congr rfl rfl) rfl List.not_mem_nil
  obtain ⟨entered, -, hcalls, -, -, hleft⟩ := hpolled (runner 0) { queue := [frame] } [] rfl rfl
  refine ⟨A, B, frame, hframes, hleft.trans (hcalls.trans ?_)⟩
  rw [← ha.2.2]
  rfl

end Host

end HostNet
