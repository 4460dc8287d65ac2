import HostNet.Proofs.Fragmentation
import HostNet.Proofs.Likeness.Receiving
import HostNet.Proofs.Rejection

/-!
# Messages quote a datagram as it was received

A host that cannot deliver a datagram tells its sender so, and quotes the start of it: the
header, whose options the sender may need, and eight bytes behind it, which hold the ports.
What is quoted is put together from a window that was moved over its storage more than
once.  Here it is compared with the frame that was received.

* `Bytes.front` — the first bytes, with zeros for those that are not there.
* `Outbound.headerQuoted` — the length of the header that is quoted.
* `quote_take` — what is quoted of a packet that was cut off behind its header.
* `perform_sendUnreachable` — the message, whatever it is that could not be delivered.
* `Outbound.Reports` — all that is true of the frame that tells of a datagram.
* `sendUnreachable_reports` — that frame is the one that is sent, where the address of the
  sender is known and the message fits into one fragment.
* `poll_quotes` — what is quoted of the frames that are received, of a protocol that
  nothing handles and for a port that nothing is bound to.

### Where the bytes are

A packet of a protocol without a handler is cut at its total length, and quoted from there,
so that the padding of its frame is not.  A datagram is cut at its own length besides and
has lost the header before it by then.  That is still in the storage, and the window is
moved back over 20 bytes to get at it, which is all of a header without options only.
-/

namespace HostNet

namespace Bytes

/-- The first `n` bytes, with zeros for those that are not there. -/
def front (bytes : Bytes) (n : Nat) : Bytes := bytes.take n ++ zeros (n - bytes.length)

theorem front_of_le {bytes : Bytes} {n : Nat} (hn : n ≤ bytes.length) :
    bytes.front n = bytes.take n := by
  rw [front, Nat.sub_eq_zero_of_le hn]
  exact List.append_nil _

/-- Where the first of two byte strings is there as a whole, zeros can only be needed for the
second. -/
theorem front_append (first second : Bytes) (n : Nat) :
    front (first ++ second) (first.length + n) = first ++ second.front n := by
  rw [front, front, List.take_length_add_append, List.length_append, Nat.add_sub_add_left,
    List.append_assoc]

end Bytes

/-- A valid packet, up to its total length, is its header and what it carries. -/
theorem Inbound.Ipv4Valid.take_total {localIp : Ipv4Addr} {packet : Bytes}
    (valid : Ipv4Valid localIp packet) :
    packet.take (Header.Ipv4.read packet).totalLength.toNat =
      packet.take (Header.Ipv4.read packet).headerLength ++ ipv4Payload packet := by
  have hsplit := List.take_append_drop (Header.Ipv4.read packet).headerLength
    (packet.take (Header.Ipv4.read packet).totalLength.toNat)
  rw [List.take_take, Nat.min_eq_left valid.headerLength] at hsplit
  exact hsplit.symm

namespace Outbound

/-! ### What is quoted -/

/-- The length of the header that is quoted: what the first byte says in words of four bytes,
but no less than 20 bytes and no more than there are. -/
def headerQuoted (undelivered : Bytes) : Nat :=
  if undelivered.length < 20 then 20
  else max 20 (min (4 * (undelivered.byteAt 0 % 16).toNat) undelivered.length)

theorem le_headerQuoted (undelivered : Bytes) : 20 ≤ headerQuoted undelivered := by
  unfold headerQuoted
  split <;> omega

/-- What is quoted is a header and eight bytes, of a datagram that is too short for a header
as of one that is not. -/
theorem quotedLength_eq (undelivered : Bytes) :
    quotedLength undelivered = headerQuoted undelivered + 8 := by
  have hparse := Header.Ipv4.parse_eq_ok_iff undelivered
  rw [headerQuoted]
  split
  · rename_i hshort
    have hdeclared : declaredHeader undelivered = 20 := by
      rw [declaredHeader]
      cases hresult : Header.Ipv4.parse undelivered with
      | error cause => rfl
      | ok header => exact absurd ((hparse header).1 hresult).1 (Nat.not_le.2 hshort)
    simp only [quotedLength, hdeclared, Header.Ipv4.size, quotedPayload]
    omega
  · rename_i hlong
    have hdeclared : declaredHeader undelivered = 4 * (undelivered.byteAt 0 % 16).toNat := by
      rw [declaredHeader, (hparse _).2 ⟨Nat.not_lt.1 hlong, rfl⟩]
      exact Nat.mul_comm _ _
    simp only [quotedLength, hdeclared, Header.Ipv4.size, quotedPayload]
    omega

theorem quote_eq (undelivered : Bytes) :
    quote undelivered = undelivered.front (headerQuoted undelivered + 8) := by
  rw [quote, quotedLength_eq, Bytes.front]

/-- **A packet that is cut off behind its header** is quoted up to eight bytes behind it. -/
theorem quote_take (packet : Bytes) {n : Nat}
    (hleast : 20 ≤ (Header.Ipv4.read packet).headerLength)
    (hn : (Header.Ipv4.read packet).headerLength ≤ n) (hfit : n ≤ packet.length) :
    quote (packet.take n) =
      Bytes.front (packet.take n) ((Header.Ipv4.read packet).headerLength + 8) := by
  have hstated : 4 * (packet.byteAt 0 % 16).toNat = (Header.Ipv4.read packet).headerLength :=
    Nat.mul_comm _ _
  have hheader : headerQuoted (packet.take n) = (Header.Ipv4.read packet).headerLength := by
    rw [headerQuoted, List.length_take_of_le hfit, Bytes.byteAt_take packet (by omega), hstated,
      if_neg (by omega)]
    omega
  rw [quote_eq, hheader]

variable {localIp : Ipv4Addr} {packet : Bytes}

/-- **What is quoted of a valid packet**: its header with all its options, and eight bytes of
what it carries, with zeros for those that are not there. -/
theorem quote_packet (valid : Inbound.Ipv4Valid localIp packet) :
    quote (packet.take (Header.Ipv4.read packet).totalLength.toNat) =
      packet.take (Header.Ipv4.read packet).headerLength ++
        (Inbound.ipv4Payload packet).front 8 := by
  have hheader : (packet.take (Header.Ipv4.read packet).headerLength).length =
      (Header.Ipv4.read packet).headerLength :=
    List.length_take_of_le (Nat.le_trans valid.headerLength valid.totalLength)
  have hfront := Bytes.front_append (packet.take (Header.Ipv4.read packet).headerLength)
    (Inbound.ipv4Payload packet) 8
  rw [hheader] at hfront
  rw [quote_take packet valid.least valid.headerLength valid.totalLength, valid.take_total, hfront]

/-- **What is quoted of a valid datagram** behind a header without options: both headers. -/
theorem quote_datagram (valid : Inbound.Ipv4Valid localIp packet)
    (hshort : (Header.Ipv4.read packet).headerLength = 20) {length : Nat} (hleast : 8 ≤ length)
    (hlength : length ≤ (Inbound.ipv4Payload packet).length) :
    quote (packet.take 20 ++ (Inbound.ipv4Payload packet).take length) = packet.take 28 := by
  have htotal := valid.totalLength
  rw [Inbound.ipv4Payload, List.length_drop, List.length_take, hshort] at hlength
  have hjoin : packet.take 20 ++ (Inbound.ipv4Payload packet).take length =
      packet.take (20 + length) := by
    rw [Inbound.ipv4Payload, hshort, List.take_add, List.drop_take, List.take_take,
      Nat.min_eq_left (by omega)]
  rw [hjoin, quote_take packet (by omega) (by omega) (by omega), hshort, Bytes.front_of_le,
    List.take_take, Nat.min_eq_left (by omega)]
  rw [List.length_take]
  omega

/-! ### The message -/

variable (undelivered : Bytes) (what : Unreachable)

theorem bytes_unreachableHeader (check : UInt16) :
    { unreachableHeader what with check }.bytes =
      [3, what.code] ++ Word16.bytes check ++ [0, 0, 0, 0] := by
  have hzero : Word16.bytes 0 = [0, 0] := by decide
  simp only [Header.Icmp.bytes, unreachableHeader, IcmpType.unreachable, hzero, List.append_assoc]
  rfl

theorem length_unreachableMessage :
    (unreachableMessage undelivered what).length = 16 + headerQuoted undelivered := by
  rw [unreachableMessage_eq, List.length_append, Header.Icmp.length_bytes, length_quote,
    quotedLength_eq, Header.Icmp.size]
  omega

theorem length_unreachableMessage_le : (unreachableMessage undelivered what).length ≤ 76 := by
  have hquoted := quotedLength_le undelivered
  rw [quotedLength_eq] at hquoted
  rw [length_unreachableMessage]
  omega

/-- **The checksum of the message verifies.** -/
theorem ofBytes_unreachableMessage :
    Checksum.ofBytes (unreachableMessage undelivered what) = 0 := by
  have hquoted := quotedLength_le undelivered
  refine ofBytes_sealing (unreachableHeader what) (quote undelivered) rfl ?_
  rw [length_quote, Header.Icmp.size]
  omega

/-- Behind the header of the message is what it quotes. -/
theorem drop_unreachableMessage :
    (unreachableMessage undelivered what).drop Header.Icmp.size = quote undelivered := by
  rw [unreachableMessage_eq]
  exact List.drop_left' (Header.Icmp.length_bytes _)

theorem parse_unreachableMessage :
    ∃ check, Header.Icmp.parse (unreachableMessage undelivered what) =
      .ok { unreachableHeader what with check } := by
  rw [unreachableMessage_eq]
  exact ⟨_, Header.Icmp.parse_append _ _⟩

/-! ### The frame -/

/-- **A frame tells of a datagram that could not be delivered**, with a code that says why:
the frame goes to the station at `mac` and carries a datagram of its own, to `target`, that
is an ICMP message whose checksum verifies and which quotes some bytes. -/
structure Reports (c : Config) (mac : MacAddr) (target : Ipv4Addr) (code : UInt8)
    (quoted f : Bytes) : Prop where
  datagram : ∃ identification ip,
    FragmentOf c mac target Protocol.icmp identification (carried f) 1 0 f ip
  header : ∃ check, Header.Icmp.parse (carried f) =
    .ok { messageType := 3, code, check, identifier := 0, sequence := 0 }
  sum : Checksum.ofBytes (carried f) = 0
  data : (carried f).drop 8 = quoted

end Outbound

namespace Host

open Outbound (Reports FragmentOf)

/-- **A message is well formed whatever it quotes.**  Take any packet, which may be of any
length and need not start with a header at all, and tell any address for any reason that it
could not be delivered.  A message is built, and sent as an ICMP datagram of its own.  With
the length of the header as its first byte says, but no less than 20 bytes and no more than
there are, it is 16 bytes longer than that, between 36 and 76 bytes.  It has type 3, the code
of the reason, a check field and four zero bytes, then the packet up to eight bytes behind
the header, and then nothing but zeros; and its checksum verifies.  The packet that could not
be delivered is only read: the message is in a storage of its own, and whoever asked for it
is given nothing back. -/
theorem perform_sendUnreachable (run : Runner) (h : Host) (undelivered : Packet)
    (target : Ipv4Addr) (what : Unreachable) :
    let w := undelivered.window
    let header := Outbound.headerQuoted w
    ∃ message check,
      h.perform run (.sendUnreachable undelivered target what) =
        ((h.log (.unreachable what target)).sendDatagram
          (Packet.ofPayload h.config.headRoom message) target Protocol.icmp, .nothing) ∧
      message.length = 16 + header ∧ 36 ≤ message.length ∧ message.length ≤ 76 ∧
      message = [3, what.code] ++ Word16.bytes check ++ [0, 0, 0, 0] ++
        w.take (min (header + 8) w.length) ++ Bytes.zeros (header + 8 - w.length) ∧
      Checksum.ofBytes message = 0 := by
  intro w header
  have hlength : (Outbound.unreachableMessage w what).length = 16 + header :=
    Outbound.length_unreachableMessage w what
  have hleast : 20 ≤ header := Outbound.le_headerQuoted w
  refine ⟨Outbound.unreachableMessage w what,
    Checksum.ofBytes ((Outbound.unreachableHeader what).bytes ++ Outbound.quote w), ?_, hlength,
    by omega, Outbound.length_unreachableMessage_le w what, ?_,
    Outbound.ofBytes_unreachableMessage w what⟩
  · rw [perform, sendUnreachable_eq]
  · rw [Outbound.unreachableMessage_eq, Outbound.bytes_unreachableHeader,
      Outbound.quote_eq, Bytes.front, ← List.take_eq_take_min, ← List.append_assoc]

/-- **The sender is told**, in one frame, where its address is known and a message of any
length fits into one fragment. -/
theorem sendUnreachable_reports (h : Host) (undelivered : Packet) {target : Ipv4Addr}
    {mac : MacAddr} (what : Unreachable) (hroom : 76 ≤ h.config.threshold)
    (hfresh : h.cache.get? target h.clock = some mac) :
    ∃ f, (h.sendUnreachable undelivered target what).frames = h.frames ++ [f] ∧
      Reports h.config mac target what.code (Outbound.quote undelivered.window) f := by
  let message := Outbound.unreachableMessage undelivered.window what
  let p := Packet.ofPayload h.config.headRoom message
  have hwindow : p.window = message := Packet.window_ofPayload _ _
  have hsize : p.size ≤ h.config.threshold := by
    rw [← Packet.length_window, hwindow]
    exact Nat.le_trans (Outbound.length_unreachableMessage_le _ _) hroom
  let f := Outbound.frame h.config mac EtherType.ipv4
    (Outbound.fragment h.config target Protocol.icmp h.nextId 0 false p.window)
  have hsent := sendDatagram_sent_of_le (h.log (.unreachable what target)) p Protocol.icmp hfresh
    hsize
  obtain ⟨hcarried, ip, hfragment⟩ := Outbound.fragmentOf_whole h.config mac target Protocol.icmp
    h.nextId p.window (by rw [Packet.length_window]; exact hsize)
  -- The frame carries all of the message, which is read off from there.
  have hmessage : Outbound.carried f = message := hcarried.trans hwindow
  refine ⟨f, ?_, ⟨h.nextId, ip, ?_⟩, ?_, ?_, ?_⟩
  · rw [sendUnreachable_eq, hsent.frames]
    exact congrArg (· ++ [f])
      ((observed_emit_of_eq_none _ rfl).trans (observed_emit_of_eq_none h rfl))
  · rw [hmessage, ← hwindow]
    exact hfragment
  · rw [hmessage]
    exact Outbound.parse_unreachableMessage undelivered.window what
  · rw [hmessage]
    exact Outbound.ofBytes_unreachableMessage undelivered.window what
  · rw [hmessage]
    exact Outbound.drop_unreachableMessage undelivered.window what

section

variable (depth : Nat) (h : Host) (p : Packet) {mac : MacAddr}
  (valid : Inbound.Ipv4Valid h.config.ip p.window) (hroom : 76 ≤ h.config.threshold)
  (hfresh : h.cache.get? (Header.Ipv4.read p.window).source h.clock = some mac)
include valid hroom hfresh

/-- A packet of a protocol that nothing handles. -/
theorem receiveIpv4_reports
    (hnone : h.protocolHandlers.get? (Header.Ipv4.read p.window).protocol = none) :
    ∃ f, (h.receiveIpv4 (runner depth) p).frames = h.frames ++ [f] ∧
      Reports h.config mac (Header.Ipv4.read p.window).source 2
        (p.window.take (Header.Ipv4.read p.window).headerLength ++
          (Inbound.ipv4Payload p.window).front 8) f := by
  have haccepted := (Inbound.ipv4_eq_ok_iff h.config.ip p.window _).2 ⟨valid, rfl⟩
  let noted := h.log (.protocolUnknown (Header.Ipv4.read p.window).protocol
    (Header.Ipv4.read p.window).source)
  let cut := p.truncate (Header.Ipv4.read p.window).totalLength.toNat
  have hcut : Outbound.quote cut.window =
      p.window.take (Header.Ipv4.read p.window).headerLength ++
        (Inbound.ipv4Payload p.window).front 8 := by
    rw [Packet.window_truncate]
    exact Outbound.quote_packet valid
  obtain ⟨f, hframes, hreports⟩ := sendUnreachable_reports noted cut .protocol hroom hfresh
  rw [hcut] at hreports
  refine ⟨f, ?_, hreports⟩
  rw [receiveIpv4, haccepted]
  simp only [hnone]
  exact hframes.trans (congrArg (· ++ [f]) (observed_emit_of_eq_none h rfl))

/-- A datagram for a port that nothing is bound to, behind a header without options. -/
theorem receiveIpv4_reports_of_udp (own : h.HasOwnHandlers)
    (hprotocol : (Header.Ipv4.read p.window).protocol = Protocol.udp)
    (hshort : (Header.Ipv4.read p.window).headerLength = 20)
    (hudp : Inbound.UdpValid h.config.ip (Header.Ipv4.read p.window).source
      (Inbound.ipv4Payload p.window))
    (hnone : h.ports.get? (Header.Udp.read (Inbound.ipv4Payload p.window)).destination = none) :
    ∃ f, (h.receiveIpv4 (runner depth) p).frames = h.frames ++ [f] ∧
      Reports h.config mac (Header.Ipv4.read p.window).source 3 (p.window.take 28) f := by
  have haccepted := (Inbound.ipv4_eq_ok_iff h.config.ip p.window _).2 ⟨valid, rfl⟩
  obtain ⟨q, hq, hwindow, hhead, hbefore⟩ := Likeness.strip_of_ipv4 haccepted
  have hpayload : q.window = Inbound.ipv4Payload p.window := hwindow
  rw [hshort, Nat.sub_self, List.drop_zero] at hbefore
  rw [← hpayload] at hudp hnone
  let called := h.emit (.protocolHandled none q.head q.window (Header.Ipv4.read p.window).source)
  obtain ⟨quoted, hquoted, heq⟩ := receiveUdp_of_quotable depth called q
    (Header.Ipv4.read p.window).source hudp hnone hhead
  -- The window moved back is the header, which was stripped, and the datagram behind it.
  have hquote : Outbound.quote quoted.window = p.window.take 28 := by
    rw [hquoted, ← q.before_append_take hhead hudp.length, hbefore, hpayload]
    rw [hpayload] at hudp
    exact Outbound.quote_datagram valid hshort hudp.least hudp.length
  obtain ⟨f, hframes, hreports⟩ := sendUnreachable_reports
    (called.missingPort q.window (Header.Ipv4.read p.window).source) quoted .port hroom hfresh
  rw [hquote] at hreports
  refine ⟨f, ?_, hreports⟩
  have hpassed : h.receiveIpv4 (runner depth) p =
      called.receiveUdp (runner depth) q (Header.Ipv4.read p.window).source := by
    rw [receiveIpv4, haccepted]
    simp only [hprotocol, own.udp, hq]
    rfl
  rw [hpassed, heq, hframes]
  exact congrArg (· ++ [f])
    ((observed_emit_of_eq_none called rfl).trans (observed_emit_of_eq_none h rfl))

end

/-- **Messages quote a datagram as it was received.**  Take a host in any state in which it
has its own handlers, whose fragments may be of 76 bytes and more, and poll it for a frame
with a valid IPv4 packet whose source it knows the station of.  If nothing handles the
protocol of the packet, exactly one frame is sent, to the source: an ICMP message whose
checksum verifies, of type 3 and code 2, that quotes the header of the packet with all its
options and the first eight bytes behind it, with zeros for those that are not there.  If it
is a valid UDP datagram behind a header without options, for a port that nothing is bound
to, it is one of code 3 that quotes the first 28 bytes of the packet. -/
theorem poll_quotes (depth : Nat) (h : Host) (own : h.HasOwnHandlers)
    (hroom : 76 ≤ h.config.threshold) {link : Link} {frame : Bytes}
    (hreceive : h.link.receive h.config.maxFrame = (link, .ok (some frame)))
    (htype : (Header.Ethernet.read frame).etherType = EtherType.ipv4)
    (valid : Inbound.Ipv4Valid h.config.ip (frame.drop 14)) {mac : MacAddr}
    (hfresh : h.cache.get? (Header.Ipv4.read (frame.drop 14)).source h.clock = some mac) :
    (h.protocolHandlers.get? (Header.Ipv4.read (frame.drop 14)).protocol = none →
      (h.poll (runner depth)).2 = .polled true ∧
      ∃ f, (h.poll (runner depth)).1.frames = h.frames ++ [f] ∧
        Reports h.config mac (Header.Ipv4.read (frame.drop 14)).source 2
          ((frame.drop 14).take (Header.Ipv4.read (frame.drop 14)).headerLength ++
            (Inbound.ipv4Payload (frame.drop 14)).front 8) f) ∧
    ((Header.Ipv4.read (frame.drop 14)).headerWords = 5 →
      (Header.Ipv4.read (frame.drop 14)).protocol = Protocol.udp →
      Inbound.UdpValid h.config.ip (Header.Ipv4.read (frame.drop 14)).source
        (Inbound.ipv4Payload (frame.drop 14)) →
      h.ports.get? (Header.Udp.read (Inbound.ipv4Payload (frame.drop 14))).destination = none →
      (h.poll (runner depth)).2 = .polled true ∧
      ∃ f, (h.poll (runner depth)).1.frames = h.frames ++ [f] ∧
        Reports h.config mac (Header.Ipv4.read (frame.drop 14)).source 3
          ((frame.drop 14).take 28) f) := by
  have hsize : 14 ≤ frame.length := by
    have hpacket := valid.size
    rw [List.length_drop] at hpacket
    omega
  obtain ⟨p, rxBuffer, rxBuffer_length, trace, hp, hframes, hpoll⟩ :=
    poll_of_ipv4 depth h own hreceive hsize htype
  let filled : Host := { h with link, rxBuffer, rxBuffer_length, trace }
  rw [← hp] at valid hfresh ⊢
  rw [hpoll, ← hframes]
  constructor
  · intro hnone
    exact ⟨rfl, receiveIpv4_reports depth filled p valid hroom hfresh hnone⟩
  · intro hwords hprotocol hudp hnone
    have hshort : (Header.Ipv4.read p.window).headerLength = 20 := by
      rw [Header.Ipv4.headerLength, hwords]
      rfl
    exact ⟨rfl, receiveIpv4_reports_of_udp depth filled p valid hroom hfresh (own.congr rfl rfl)
      hprotocol hshort hudp hnone⟩

/-- A host that was just set up, with one frame to receive, and which knows one station. -/
def withNeighbour (config : Config) (frame : Bytes) : Host :=
  { silent config { queue := [frame] } with
    cache := (silent config {}).cache.set ⟨10, 0, 0, 2⟩ ⟨2, 0, 0, 0, 0, 2⟩ 0 }

/-- A packet of three bytes behind options, of a protocol that nothing handles, and a datagram
for a port that nothing is bound to, both with bytes behind the ends that they declare. -/
theorem poll_quotes_options_and_ports :
    ∃ config, Settings.build {} = .ok config ∧
      (∃ f, ((withNeighbour config [2, 0, 0, 0, 0, 1, 2, 0, 0, 0, 0, 2, 8, 0,
          0x46, 0, 0, 27, 0, 0, 0, 0, 64, 99, 0x63, 0x7d, 10, 0, 0, 2, 10, 0, 0, 1, 1, 1, 1, 0,
          1, 2, 3, 9, 9]).poll (runner 1)).1.frames = [f] ∧
        Reports config ⟨2, 0, 0, 0, 0, 2⟩ ⟨10, 0, 0, 2⟩ 2
          [0x46, 0, 0, 27, 0, 0, 0, 0, 64, 99, 0x63, 0x7d, 10, 0, 0, 2, 10, 0, 0, 1, 1, 1, 1, 0,
            1, 2, 3, 0, 0, 0, 0, 0] f) ∧
      ∃ f, ((withNeighbour config [2, 0, 0, 0, 0, 1, 2, 0, 0, 0, 0, 2, 8, 0,
          0x45, 0, 0, 32, 0, 0, 0, 0, 64, 17, 0x66, 0xcb, 10, 0, 0, 2, 10, 0, 0, 1,
          0, 9, 0, 7, 0, 11, 0xe7, 0xc3, 1, 2, 3, 0, 9, 9]).poll (runner 1)).1.frames = [f] ∧
        Reports config ⟨2, 0, 0, 0, 0, 2⟩ ⟨10, 0, 0, 2⟩ 3
          [0x45, 0, 0, 32, 0, 0, 0, 0, 64, 17, 0x66, 0xcb, 10, 0, 0, 2, 10, 0, 0, 1,
            0, 9, 0, 7, 0, 11, 0xe7, 0xc3] f := by
  obtain ⟨config, hconfig⟩ : ∃ config, Settings.build {} = .ok config := ⟨_, rfl⟩
  have hip : config.ip = ⟨10, 0, 0, 1⟩ := by
    cases hconfig
    rfl
  have hroom : 76 ≤ config.threshold := by
    cases hconfig
    decide
  have hmax : config.maxFrame = 1514 := by
    cases hconfig
    rfl
  have own (frame : Bytes) : (withNeighbour config frame).HasOwnHandlers :=
    (silent_hasOwnHandlers config {}).congr rfl rfl
  have hfresh (frame : Bytes) :
      (withNeighbour config frame).cache.get? ⟨10, 0, 0, 2⟩ 0 = some ⟨2, 0, 0, 0, 0, 2⟩ :=
    (ExpiringTable.get?_set _ _ _ _ _).trans (if_pos rfl)
  have hreceive {frame : Bytes} (hfit : frame.length ≤ 1514) :
      (withNeighbour config frame).link.receive config.maxFrame =
        ({ (withNeighbour config frame).link with queue := [] }, .ok (some frame)) :=
    receive_of_queue rfl rfl (by rw [hmax]; exact hfit)
  refine ⟨config, hconfig, ?_, ?_⟩
  · let frame : Bytes := [2, 0, 0, 0, 0, 1, 2, 0, 0, 0, 0, 2, 8, 0,
      0x46, 0, 0, 27, 0, 0, 0, 0, 64, 99, 0x63, 0x7d, 10, 0, 0, 2, 10, 0, 0, 1, 1, 1, 1, 0,
      1, 2, 3, 9, 9]
    have valid : Inbound.Ipv4Valid config.ip (frame.drop 14) := {
      size := by decide
      version := by decide
      headerWords := by decide
      headerLength := by decide
      totalLength := by decide
      sum := (Checksum.ofBytes_eq_zero_iff _ (by decide)).2 (by decide)
      check := by decide
      destination := by rw [hip]; decide }
    have hquoted : (frame.drop 14).take (Header.Ipv4.read (frame.drop 14)).headerLength ++
        (Inbound.ipv4Payload (frame.drop 14)).front 8 =
          [0x46, 0, 0, 27, 0, 0, 0, 0, 64, 99, 0x63, 0x7d, 10, 0, 0, 2, 10, 0, 0, 1, 1, 1, 1, 0,
            1, 2, 3, 0, 0, 0, 0, 0] := by decide
    have hquotes := (poll_quotes 1 (withNeighbour config frame) (own frame) hroom
      (hreceive (by decide)) (by decide) valid (hfresh frame)).1 rfl
    rw [hquoted] at hquotes
    exact hquotes.2
  · let frame : Bytes := [2, 0, 0, 0, 0, 1, 2, 0, 0, 0, 0, 2, 8, 0,
      0x45, 0, 0, 32, 0, 0, 0, 0, 64, 17, 0x66, 0xcb, 10, 0, 0, 2, 10, 0, 0, 1,
      0, 9, 0, 7, 0, 11, 0xe7, 0xc3, 1, 2, 3, 0, 9, 9]
    have valid : Inbound.Ipv4Valid config.ip (frame.drop 14) := {
      size := by decide
      version := by decide
      headerWords := by decide
      headerLength := by decide
      totalLength := by decide
      sum := (Checksum.ofBytes_eq_zero_iff _ (by decide)).2 (by decide)
      check := by decide
      destination := by rw [hip]; decide }
    have hudp : Inbound.UdpValid config.ip (Header.Ipv4.read (frame.drop 14)).source
        (Inbound.ipv4Payload (frame.drop 14)) := {
      size := by decide
      least := by decide
      length := by decide
      check := .inr (by
        rw [hip, ← UInt16.toNat_inj, Checksum.toNat_transport _ _ _ _ (by decide)]
        decide) }
    exact ((poll_quotes 1 (withNeighbour config frame) (own frame) hroom (hreceive (by decide))
      (by decide) valid (hfresh frame)).2 (by decide) (by decide) hudp rfl).2

end Host

end HostNet
