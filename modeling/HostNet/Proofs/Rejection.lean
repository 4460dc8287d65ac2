import HostNet.Proofs.Acceptance

/-!
# Malformed input is inert, and explained

A frame that fails a check, of whatever layer, leaves nothing behind but one line that
says why it was dropped.  A frame that passes them all is told of in a line of more
weight.  Which of the two it is depends on the bytes of the frame, the host's address and
the ether types it has handlers for, and on nothing the host has learned or been asked.

* `Inbound.ArpValid`, `Inbound.IcmpValid` — the ARP packets and echo requests that are
  valid; `Inbound.Ipv4Valid` and `Inbound.UdpValid` are those of the other layers.
* `Inbound.PacketRejected`, `Host.Rejects` — the packets and frames that are dropped.
* `Host.Dropped h h'` — since `h`, one line was logged, of the level of things dropped,
  and nothing else happened that anybody could tell.
* `Host.Told h h'` — since `h`, a line was logged that tells what the host does.
* `poll_of_ipv4` — polling gets to the IPv4 packet of a frame.
* `poll_inert` — a frame of the link is dropped if it is rejected, and told of if not.

### Why one line before the checks would do harm

Both halves are shown layer by layer, from the innermost out.  A layer passes a packet on
only after all its own checks, and records no line before it does, so that a packet which
is dropped further in is explained there and nowhere else.  A packet that is accepted is
told of before anything else is done, so that the line is there whatever a handler does
after it.
-/

namespace HostNet

namespace Inbound

/-! ### Frames, ARP packets and echo requests -/

/-- A header that is read and has to meet one condition besides. -/
theorem readHeader_guard_eq_ok_iff {α : Type} (notice : Packet.Error → Notice)
    (read : Except Packet.Error α) (condition : α → Prop) [DecidablePred condition]
    (refusal : α → Refusal) (header : α) :
    (do
      let h ← readHeader notice read
      if condition h then pure h else throw (refusal h)) = .ok header ↔
      read = .ok header ∧ condition header := by
  cases read with
  | error cause => exact ⟨fun hok => (by cases hok), fun h => (by cases h.1)⟩
  | ok h =>
      simp only [readHeader_ok, bind, Except.bind]
      by_cases hcondition : condition h
      · rw [if_pos hcondition]
        constructor
        · intro hok
          cases hok
          exact ⟨rfl, hcondition⟩
        · rintro ⟨hok, -⟩
          cases hok
          rfl
      · rw [if_neg hcondition]
        constructor
        · intro hok
          cases hok
        · rintro ⟨hok, hheader⟩
          cases hok
          exact absurd hheader hcondition

/-- **A frame is accepted** exactly if it is long enough for a header. -/
theorem ethernet_eq_ok_iff (frame : Bytes) (h : Header.Ethernet) :
    ethernet frame = .ok h ↔ 14 ≤ frame.length ∧ h = Header.Ethernet.read frame := by
  have hparse := Header.Ethernet.parse_eq_ok_iff frame h
  rw [← show Header.Ethernet.size = 14 from rfl, ← hparse, ethernet]
  cases Header.Ethernet.parse frame with
  | error cause => exact ⟨fun hok => (by cases hok), fun hok => (by cases hok)⟩
  | ok header => simp

/-- **The valid ARP packets**: long enough, for Ethernet and IPv4, with a known operation. -/
structure ArpValid (window : Bytes) : Prop where
  size : 28 ≤ window.length
  supported : (Header.Arp.read window).isSupported = true

theorem arp_eq_ok_iff (window : Bytes) (h : Header.Arp) :
    arp window = .ok h ↔ ArpValid window ∧ h = Header.Arp.read window := by
  rw [arp, readHeader_guard_eq_ok_iff, Header.Arp.parse_eq_ok_iff]
  constructor
  · rintro ⟨⟨hsize, rfl⟩, hsupported⟩
    exact ⟨⟨hsize, hsupported⟩, rfl⟩
  · rintro ⟨valid, rfl⟩
    exact ⟨⟨valid.size, rfl⟩, valid.supported⟩

/-- **The valid echo requests**: long enough for a header, and of that type. -/
structure IcmpValid (window : Bytes) : Prop where
  size : 8 ≤ window.length
  request : (Header.Icmp.read window).messageType = 8

theorem icmp_eq_ok_iff (source : Ipv4Addr) (window : Bytes) (h : Header.Icmp) :
    icmp source window = .ok h ↔ IcmpValid window ∧ h = Header.Icmp.read window := by
  rw [icmp, readHeader_guard_eq_ok_iff, Header.Icmp.parse_eq_ok_iff]
  constructor
  · rintro ⟨⟨hsize, rfl⟩, hrequest⟩
    exact ⟨⟨hsize, hrequest⟩, rfl⟩
  · rintro ⟨valid, rfl⟩
    exact ⟨⟨valid.size, rfl⟩, valid.request⟩

/-! ### What is rejected -/

/-- **The IPv4 packets that a host at `localIp` drops**: those that are not valid, and those
whose payload is not valid for the protocol they name. -/
inductive PacketRejected (localIp : Ipv4Addr) (packet : Bytes) : Prop where
  | invalid (hnot : ¬Ipv4Valid localIp packet)
  | icmp (valid : Ipv4Valid localIp packet)
      (hprotocol : (Header.Ipv4.read packet).protocol = Protocol.icmp)
      (hnot : ¬IcmpValid (ipv4Payload packet))
  | udp (valid : Ipv4Valid localIp packet)
      (hprotocol : (Header.Ipv4.read packet).protocol = Protocol.udp)
      (hnot : ¬UdpValid localIp (Header.Ipv4.read packet).source (ipv4Payload packet))

end Inbound

namespace Host

/-- **The frames that a host drops**: those too short for a header, those of an ether type
that it has no handler for, and those whose payload is not valid for their ether type. -/
inductive Rejects (h : Host) (frame : Bytes) : Prop where
  | short (hsize : frame.length < 14)
  | unregistered (hsize : 14 ≤ frame.length)
      (hnone : h.frameHandlers.get? (Header.Ethernet.read frame).etherType = none)
  | arp (hsize : 14 ≤ frame.length)
      (htype : (Header.Ethernet.read frame).etherType = EtherType.arp)
      (hnot : ¬Inbound.ArpValid (frame.drop 14))
  | ipv4 (hsize : 14 ≤ frame.length)
      (htype : (Header.Ethernet.read frame).etherType = EtherType.ipv4)
      (hrejected : Inbound.PacketRejected h.config.ip (frame.drop 14))

/-- What is rejected depends on the configuration and on the ether types only. -/
theorem Rejects.congr {h h' : Host} {frame : Bytes} (hrejects : h.Rejects frame)
    (hconfig : h'.config = h.config) (hhandlers : h'.frameHandlers = h.frameHandlers) :
    h'.Rejects frame := by
  cases hrejects with
  | short hsize => exact .short hsize
  | unregistered hsize hnone => exact .unregistered hsize (by rw [hhandlers]; exact hnone)
  | arp hsize htype hnot => exact .arp hsize htype hnot
  | ipv4 hsize htype hrejected => exact .ipv4 hsize htype (by rw [hconfig]; exact hrejected)

/-! ### What is seen of a packet -/

/-- Since `h`, a packet was dropped: one line was logged, which says so, and nothing but the
trace changed. -/
structure Dropped (h h' : Host) : Prop extends Noted h h' where
  notices : ∃ n : Notice, n.level = .trace ∧ h'.notices = h.notices ++ [n]

/-- Since `h`, a line was logged that tells what the host does. -/
def Told (h h' : Host) : Prop :=
  ∃ new : List Notice, h'.notices = h.notices ++ new ∧ ∃ n ∈ new, n.level = .debug

variable {h h₁ h₂ : Host}

theorem log_dropped (h : Host) {n : Notice} (hlevel : n.level = .trace) : Dropped h (h.log n) where
  toNoted := (Noted.refl h).log n
  notices := ⟨n, hlevel, observed_emit Event.notice? h (.notice n)⟩

theorem refuse_dropped (h : Host) {refusal : Refusal} (hdrop : refusal.IsDrop) :
    Dropped h (h.refuse refusal) := by
  obtain ⟨n, hlevel, heq⟩ := refuse_eq_log h hdrop
  rw [heq]
  exact log_dropped h hlevel

/-- What is dropped after something else was recorded that is neither a line, nor a frame,
nor a call. -/
theorem Dropped.after_emit {e : Event} (hnotice : e.notice? = none) (hframe : e.frame? = none)
    (hcall : e.call? = none) (dropped : Dropped (h.emit e) h₁) : Dropped h h₁ where
  unchanged := dropped.unchanged
  kinds := ((Recorded.refl _ h).emit ⟨hframe, hcall⟩).trans dropped.kinds
  notices := by
    obtain ⟨n, hlevel, heq⟩ := dropped.notices
    exact ⟨n, hlevel, by rw [heq, Host.notices, observed_emit_of_eq_none h hnotice]; rfl⟩

/-- What is seen of a trace is seen of every longer one. -/
theorem observed_of_suffix {α : Type} (see : Event → Option α) (hsuffix : h.trace <:+ h₁.trace) :
    ∃ new, h₁.observed see = h.observed see ++ new := by
  obtain ⟨records, htrace⟩ := hsuffix
  refine ⟨(records.filterMap fun r => see r.event).reverse, ?_⟩
  rw [observed, observed, ← htrace, List.filterMap_append, List.reverse_append]

/-- A line that was logged is there, whatever came after it. -/
theorem told_of_suffix {n : Notice} (hlevel : n.level = .debug)
    (hsuffix : (h.log n).trace <:+ h₁.trace) : Told h h₁ := by
  obtain ⟨new, heq⟩ := observed_of_suffix Event.notice? hsuffix
  refine ⟨n :: new, ?_, n, List.mem_cons_self, hlevel⟩
  rw [notices, heq, log, observed_emit, List.append_assoc]
  rfl

theorem Told.after (first : h.trace <:+ h₁.trace) (told : Told h₁ h₂) : Told h h₂ := by
  obtain ⟨before, hbefore⟩ := observed_of_suffix Event.notice? first
  obtain ⟨new, heq, n, hn, hlevel⟩ := told
  refine ⟨before ++ new, ?_, n, List.mem_append_right before hn, hlevel⟩
  rw [heq, notices, hbefore, List.append_assoc]
  rfl

/-! ### ARP packets, echo requests and UDP datagrams -/

theorem receiveArp_dropped (h : Host) (p : Packet) (hnot : ¬Inbound.ArpValid p.window) :
    Dropped h (h.receiveArp p) := by
  obtain ⟨refusal, hrefused⟩ := error_of_not_ok fun arp hok =>
    hnot ((Inbound.arp_eq_ok_iff p.window arp).1 hok).1
  rw [receiveArp, hrefused]
  exact refuse_dropped h (Inbound.arp_refused hrefused)

theorem receiveArp_told (h : Host) (p : Packet) (valid : Inbound.ArpValid p.window) :
    Told h (h.receiveArp p) :=
  told_of_suffix (n := .learned _ _) rfl
    (receiveArp_suffix h p ((Inbound.arp_eq_ok_iff p.window _).2 ⟨valid, rfl⟩))

theorem receiveIcmp_dropped (h : Host) (p : Packet) (source : Ipv4Addr)
    (hnot : ¬Inbound.IcmpValid p.window) : Dropped h (h.receiveIcmp p source) := by
  obtain ⟨refusal, hrefused⟩ := error_of_not_ok fun icmp hok =>
    hnot ((Inbound.icmp_eq_ok_iff source p.window icmp).1 hok).1
  rw [receiveIcmp, hrefused]
  exact refuse_dropped h (Inbound.icmp_refused hrefused)

theorem receiveIcmp_told (h : Host) (p : Packet) (source : Ipv4Addr)
    (valid : Inbound.IcmpValid p.window) : Told h (h.receiveIcmp p source) := by
  have haccepted := (Inbound.icmp_eq_ok_iff source p.window _).2 ⟨valid, rfl⟩
  obtain ⟨reply, hreply, -⟩ := Outbound.echoReply_eq_replyMessage (Header.Icmp.read p.window) p
    (by rw [← Packet.length_window]; exact valid.size)
  rw [receiveIcmp, haccepted]
  simp only [hreply]
  exact told_of_suffix (n := .echoReply source _ _) rfl (sendDatagram_steps _ _ _ _).suffix

section

variable (depth : Nat) (h : Host) (p : Packet)

theorem receiveUdp_dropped (source : Ipv4Addr)
    (hnot : ¬Inbound.UdpValid h.config.ip source p.window) :
    Dropped h (h.receiveUdp (runner depth) p source) := by
  obtain ⟨n, hlevel, heq⟩ := receiveUdp_of_invalid depth h p source hnot
  rw [heq]
  exact log_dropped h hlevel

/-- A valid datagram is told of before it is delivered, and before its sender is told that
nothing is bound to its port. -/
theorem receiveUdp_told (source : Ipv4Addr)
    (valid : Inbound.UdpValid h.config.ip source p.window) :
    Told h (h.receiveUdp (runner depth) p source) := by
  cases hport : h.ports.get? (Header.Udp.read p.window).destination with
  | some bound =>
      rw [receiveUdp_of_bound depth h p source valid hport]
      exact told_of_suffix (n := .delivering _ _ _ _) rfl
        (enterPort_strides (runner_strides depth) _ _ _ _).suffix
  | none =>
      by_cases hroom : 20 ≤ p.head
      · obtain ⟨q, -, heq⟩ := receiveUdp_of_quotable depth h p source valid hport hroom
        rw [heq]
        exact told_of_suffix (n := .portUnreachable _ _ _) rfl
          (sendUnreachable_strides _ _ _ _).suffix
      · obtain ⟨cause, heq⟩ := receiveUdp_of_unquotable depth h p source valid hport hroom
        rw [heq]
        exact told_of_suffix (n := .portUnreachable _ _ _) rfl (List.suffix_cons _ _)

/-! ### IPv4 packets -/

/-- A valid packet of a protocol that has a handler is passed to that, with nothing recorded
before its call. -/
theorem receiveIpv4_of_valid (valid : Inbound.Ipv4Valid h.config.ip p.window)
    (handler : ProtocolHandler)
    (hhandler : h.protocolHandlers.get? (Header.Ipv4.read p.window).protocol = some handler) :
    ∃ q : Packet, q.window = Inbound.ipv4Payload p.window ∧
      h.receiveIpv4 (runner depth) p =
        h.handleProtocol (runner depth) handler q (Header.Ipv4.read p.window).source :=
  receiveIpv4_of_accepted h (runner depth) p
    ((Inbound.ipv4_eq_ok_iff h.config.ip p.window _).2 ⟨valid, rfl⟩) hhandler
    valid.headerLength valid.totalLength

variable (own : h.HasOwnHandlers)
include own

theorem receiveIpv4_dropped (hrejected : Inbound.PacketRejected h.config.ip p.window) :
    Dropped h (h.receiveIpv4 (runner depth) p) := by
  cases hrejected with
  | invalid hnot =>
      obtain ⟨n, hlevel, heq⟩ := receiveIpv4_of_invalid h (runner depth) p hnot
      rw [heq]
      exact log_dropped h hlevel
  | icmp valid hprotocol hnot =>
      obtain ⟨q, hwindow, heq⟩ := receiveIpv4_of_valid depth h p valid .icmp
        (by rw [hprotocol]; exact own.icmp)
      rw [heq]
      rw [← hwindow] at hnot
      exact (receiveIcmp_dropped _ q _ hnot).after_emit rfl rfl rfl
  | udp valid hprotocol hnot =>
      obtain ⟨q, hwindow, heq⟩ := receiveIpv4_of_valid depth h p valid .udp
        (by rw [hprotocol]; exact own.udp)
      rw [heq]
      rw [← hwindow] at hnot
      let called :=
        h.emit (.protocolHandled none q.head q.window (Header.Ipv4.read p.window).source)
      exact (receiveUdp_dropped depth called q _ hnot).after_emit rfl rfl rfl

theorem receiveIpv4_told (hnot : ¬Inbound.PacketRejected h.config.ip p.window) :
    Told h (h.receiveIpv4 (runner depth) p) := by
  have valid : Inbound.Ipv4Valid h.config.ip p.window :=
    Classical.byContradiction fun hinvalid => hnot (.invalid hinvalid)
  by_cases hudp : (Header.Ipv4.read p.window).protocol = Protocol.udp
  · obtain ⟨q, hwindow, heq⟩ := receiveIpv4_of_valid depth h p valid .udp
      (by rw [hudp]; exact own.udp)
    have hvalid : Inbound.UdpValid h.config.ip (Header.Ipv4.read p.window).source q.window := by
      rw [hwindow]
      exact Classical.byContradiction fun hinvalid => hnot (.udp valid hudp hinvalid)
    let called :=
      h.emit (.protocolHandled none q.head q.window (Header.Ipv4.read p.window).source)
    rw [heq]
    exact (receiveUdp_told depth called q _ hvalid).after (List.suffix_cons _ _)
  by_cases hicmp : (Header.Ipv4.read p.window).protocol = Protocol.icmp
  · obtain ⟨q, hwindow, heq⟩ := receiveIpv4_of_valid depth h p valid .icmp
      (by rw [hicmp]; exact own.icmp)
    have hvalid : Inbound.IcmpValid q.window := by
      rw [hwindow]
      exact Classical.byContradiction fun hinvalid => hnot (.icmp valid hicmp hinvalid)
    rw [heq]
    exact (receiveIcmp_told _ q _ hvalid).after (List.suffix_cons _ _)
  · -- Nothing handles any other protocol, which is told of before the answer.
    have hnone : h.protocolHandlers.get? (Header.Ipv4.read p.window).protocol = none := by
      rw [own.protocolHandlers, if_neg hudp, if_neg hicmp]
    have haccepted := (Inbound.ipv4_eq_ok_iff h.config.ip p.window _).2 ⟨valid, rfl⟩
    rw [receiveIpv4, haccepted]
    simp only [hnone]
    exact told_of_suffix (n := .protocolUnknown _ _) rfl (sendUnreachable_strides _ _ _ _).suffix

/-! ### Frames -/

omit own in
/-- A frame of an ether type that has a handler is passed to that, with nothing recorded
before its call. -/
theorem receiveFrame_of_registered (hsize : 14 ≤ p.window.length) (handler : FrameHandler)
    (hhandler : h.frameHandlers.get? (Header.Ethernet.read p.window).etherType = some handler) :
    ∃ q : Packet, q.window = p.window.drop 14 ∧
      h.receiveFrame (runner depth) p =
        h.handleFrame (runner depth) handler q (Header.Ethernet.read p.window).source := by
  have haccepted := (Inbound.ethernet_eq_ok_iff p.window _).2 ⟨hsize, rfl⟩
  obtain ⟨q, hq, hwindow⟩ := p.strip_of_le Header.Ethernet.size hsize
  refine ⟨q, hwindow, ?_⟩
  rw [receiveFrame, haccepted]
  simp only [hhandler, hq]

theorem receiveFrame_dropped (hrejected : h.Rejects p.window) :
    Dropped h (h.receiveFrame (runner depth) p) := by
  cases hrejected with
  | short hsize =>
      obtain ⟨refusal, hrefused⟩ := error_of_not_ok fun ethernet hok =>
        Nat.not_le.2 hsize ((Inbound.ethernet_eq_ok_iff p.window ethernet).1 hok).1
      rw [receiveFrame, hrefused]
      exact refuse_dropped h (Inbound.ethernet_refused hrefused)
  | unregistered hsize hnone =>
      have haccepted := (Inbound.ethernet_eq_ok_iff p.window _).2 ⟨hsize, rfl⟩
      rw [receiveFrame, haccepted]
      simp only [hnone]
      exact log_dropped h rfl
  | arp hsize htype hnot =>
      obtain ⟨q, hwindow, heq⟩ := receiveFrame_of_registered depth h p hsize .arp
        (by rw [htype]; exact own.arp)
      rw [heq]
      rw [← hwindow] at hnot
      exact (receiveArp_dropped _ q hnot).after_emit rfl rfl rfl
  | ipv4 hsize htype hrejected =>
      obtain ⟨q, hwindow, heq⟩ := receiveFrame_of_registered depth h p hsize .ipv4
        (by rw [htype]; exact own.ipv4)
      rw [heq]
      rw [← hwindow] at hrejected
      let called :=
        h.emit (.frameHandled none q.head q.window (Header.Ethernet.read p.window).source)
      have hown : called.HasOwnHandlers := own.congr rfl rfl
      exact (receiveIpv4_dropped depth called q hown hrejected).after_emit rfl rfl rfl

theorem receiveFrame_told (hnot : ¬h.Rejects p.window) :
    Told h (h.receiveFrame (runner depth) p) := by
  have hsize : 14 ≤ p.window.length :=
    Nat.not_lt.1 fun hshort => hnot (.short hshort)
  by_cases hipv4 : (Header.Ethernet.read p.window).etherType = EtherType.ipv4
  · obtain ⟨q, hwindow, heq⟩ := receiveFrame_of_registered depth h p hsize .ipv4
      (by rw [hipv4]; exact own.ipv4)
    have hpacket : ¬Inbound.PacketRejected h.config.ip q.window := by
      rw [hwindow]
      exact fun hrejected => hnot (.ipv4 hsize hipv4 hrejected)
    let called :=
      h.emit (.frameHandled none q.head q.window (Header.Ethernet.read p.window).source)
    have hown : called.HasOwnHandlers := own.congr rfl rfl
    rw [heq]
    exact (receiveIpv4_told depth called q hown hpacket).after (List.suffix_cons _ _)
  by_cases harp : (Header.Ethernet.read p.window).etherType = EtherType.arp
  · obtain ⟨q, hwindow, heq⟩ := receiveFrame_of_registered depth h p hsize .arp
      (by rw [harp]; exact own.arp)
    have hvalid : Inbound.ArpValid q.window := by
      rw [hwindow]
      exact Classical.byContradiction fun hinvalid => hnot (.arp hsize harp hinvalid)
    rw [heq]
    exact (receiveArp_told _ q hvalid).after (List.suffix_cons _ _)
  · have hnone : h.frameHandlers.get? (Header.Ethernet.read p.window).etherType = none := by
      rw [own.frameHandlers, if_neg hipv4, if_neg harp]
    exact absurd (.unregistered hsize hnone) hnot

end

/-! ### Frames of the link -/

/-- **A frame of the link that carries an IPv4 packet** gets to that packet, with nothing sent
on the way and nothing changed but the link, the buffer and the trace. -/
theorem poll_of_ipv4 (depth : Nat) (h : Host) (own : h.HasOwnHandlers) {link : Link}
    {frame : Bytes} (hreceive : h.link.receive h.config.maxFrame = (link, .ok (some frame)))
    (hsize : 14 ≤ frame.length)
    (htype : (Header.Ethernet.read frame).etherType = EtherType.ipv4) :
    ∃ (p : Packet) (rxBuffer : Bytes) (rxBuffer_length : rxBuffer.length = h.config.maxFrame)
      (trace : List Record),
      p.window = frame.drop 14 ∧
      { h with link, rxBuffer, rxBuffer_length, trace }.frames = h.frames ∧
      h.poll (runner depth) =
        ({ h with link, rxBuffer, rxBuffer_length, trace }.receiveIpv4 (runner depth) p,
          .polled true) := by
  rw [← h.rxBuffer_length] at hreceive
  obtain ⟨rxBuffer, rxBuffer_length, hpoll⟩ := poll_of_receive h (runner depth) hreceive
  let filled : Host := { h with link, rxBuffer, rxBuffer_length }
  have hwindow : (Packet.ofPayload 0 frame).window = frame := Packet.window_ofPayload 0 frame
  obtain ⟨p, hp, heq⟩ := receiveFrame_of_registered depth filled (Packet.ofPayload 0 frame)
    (by rw [hwindow]; exact hsize) .ipv4 (by rw [hwindow, htype]; exact own.ipv4)
  rw [hwindow] at hp
  let handled :=
    filled.emit (.frameHandled none p.head p.window (Header.Ethernet.read
      (Packet.ofPayload 0 frame).window).source)
  refine ⟨p, rxBuffer, rxBuffer_length, handled.trace, hp, ?_, ?_⟩
  · exact observed_emit_of_eq_none filled rfl
  · rw [hpoll, heq]
    rfl

/-- **Malformed input is inert, and always explained.**  Take a host in any state in which
it has its own handlers of ether types and protocols, and poll it for a frame that fits
into its buffer.  Polling succeeds.  If the frame is rejected, then nothing is sent, no
handler of a port is called, and apart from the frame having left the queue for the receive
buffer the host is as it was but for one line in its trace, of the level of things dropped.
If the frame is not rejected, there is a line that tells what the host does with it. -/
theorem poll_inert (depth : Nat) (h : Host) (own : h.HasOwnHandlers) {frame : Bytes}
    {rest : List Bytes} (hqueue : h.link.queue = frame :: rest)
    (hfault : h.link.receiveFault = none) (hfit : frame.length ≤ h.config.maxFrame) :
    (h.poll (runner depth)).2 = .polled true ∧
    (h.Rejects frame →
      (∃ rxBuffer rxBuffer_length trace, (h.poll (runner depth)).1 =
        { h with link := { h.link with queue := rest }, rxBuffer, rxBuffer_length, trace }) ∧
      (h.poll (runner depth)).1.frames = h.frames ∧
      (h.poll (runner depth)).1.calls = h.calls ∧
      ∃ n : Notice, n.level = .trace ∧
        (h.poll (runner depth)).1.notices = h.notices ++ [n]) ∧
    (¬h.Rejects frame →
      ∃ new : List Notice, (h.poll (runner depth)).1.notices = h.notices ++ new ∧
        ∃ n ∈ new, n.level = .debug) := by
  obtain ⟨rxBuffer, rxBuffer_length, hpoll⟩ :=
    poll_of_next h (runner depth) hqueue hfault hfit
  let filled : Host := { h with link := { h.link with queue := rest }, rxBuffer, rxBuffer_length }
  let p := Packet.ofPayload 0 frame
  have hwindow : p.window = frame := Packet.window_ofPayload 0 frame
  have hfilled : filled.HasOwnHandlers := own.congr rfl rfl
  have hrejects : filled.Rejects p.window ↔ h.Rejects frame := by
    rw [hwindow]
    exact ⟨fun hrejected => hrejected.congr rfl rfl, fun hrejected => hrejected.congr rfl rfl⟩
  rw [hpoll]
  refine ⟨rfl, fun hrejected => ?_, fun hnot => ?_⟩
  · have dropped := receiveFrame_dropped depth filled p hfilled (hrejects.2 hrejected)
    obtain ⟨trace, heq⟩ := dropped.unchanged
    exact ⟨⟨rxBuffer, rxBuffer_length, trace, heq⟩, dropped.frames_eq, dropped.calls_eq,
      dropped.notices⟩
  · exact receiveFrame_told depth filled p hfilled (mt hrejects.1 hnot)

/-- A frame that is too short for a header, and one that asks for the host's address. -/
theorem poll_inert_short_frame :
    ∃ config, Settings.build {} = .ok config ∧
      (((silent config { queue := [[1, 2, 3]] }).poll (runner 1)).2 = .polled true ∧
        ((silent config { queue := [[1, 2, 3]] }).poll (runner 1)).1.frames = [] ∧
        ((silent config { queue := [[1, 2, 3]] }).poll (runner 1)).1.calls = [] ∧
        ∃ n : Notice, n.level = .trace ∧
          ((silent config { queue := [[1, 2, 3]] }).poll (runner 1)).1.notices = [n]) ∧
      ∃ n ∈ ((silent config { queue := [[0xff, 0xff, 0xff, 0xff, 0xff, 0xff, 2, 0, 0, 0, 0, 2, 8, 6,
          0, 1, 8, 0, 6, 4, 0, 1, 2, 0, 0, 0, 0, 2, 10, 0, 0, 2, 0, 0, 0, 0, 0, 0, 10, 0, 0, 1]]
            }).poll (runner 1)).1.notices, n.level = .debug := by
  obtain ⟨config, hconfig⟩ : ∃ config, Settings.build {} = .ok config := ⟨_, rfl⟩
  have hmax : config.maxFrame = 1514 := by
    cases hconfig
    rfl
  refine ⟨config, hconfig, ?_, ?_⟩
  · have hinert := poll_inert 1 (silent config { queue := [[1, 2, 3]] })
      (silent_hasOwnHandlers config _) rfl rfl (show 3 ≤ config.maxFrame by rw [hmax]; decide)
    exact ⟨hinert.1, (hinert.2.1 (.short (by decide))).2⟩
  · let request : Bytes := [0xff, 0xff, 0xff, 0xff, 0xff, 0xff, 2, 0, 0, 0, 0, 2, 8, 6, 0, 1, 8, 0,
      6, 4, 0, 1, 2, 0, 0, 0, 0, 2, 10, 0, 0, 2, 0, 0, 0, 0, 0, 0, 10, 0, 0, 1]
    have own := silent_hasOwnHandlers config { queue := [request] }
    have harp : (Header.Ethernet.read request).etherType = EtherType.arp := by decide
    have hnot : ¬(silent config { queue := [request] }).Rejects request := by
      intro hrejects
      cases hrejects with
      | short hsize => exact absurd hsize (by decide)
      | unregistered hsize hnone =>
          rw [harp, own.arp] at hnone
          cases hnone
      | arp hsize htype hinvalid => exact hinvalid ⟨by decide, by decide⟩
      | ipv4 hsize htype hrejected => exact absurd htype (by decide)
    have hfit : request.length ≤ config.maxFrame := by
      rw [hmax]
      decide
    obtain ⟨new, hnotices, hdebug⟩ := (poll_inert 1 (silent config { queue := [request] }) own rfl
      rfl hfit).2.2 hnot
    rw [hnotices]
    exact hdebug

end Host

end HostNet
