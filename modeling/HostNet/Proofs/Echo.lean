import HostNet.Proofs.Fragmentation
import HostNet.Proofs.Rejection

/-!
# Echo replies mirror the request

An echo request is answered with the message it came in: its type and code are written
over, its checksum is taken anew, and what is behind that goes back as it was.  Here the
frame that leaves the host is compared with the one that was received.

* `Outbound.Mirrors` — all that is true of the reply to an echo request.
* `Outbound.AnswersEcho` — all that is true of the frame that carries the reply.
* `receiveIcmp_replies` — that frame is sent, where the address of the asker is known.
* `poll_mirrors` — what polling a host for an echo request does.

### Why the reply fits into one frame

The request came in one frame, behind a header of 20 bytes or more.  The longest frame
that is received is the longest one that is sent, and a reply has a header of 20 bytes.
-/

namespace HostNet

namespace Outbound

/-! ### The message -/

/-- **A reply mirrors a request**: it is of the same length, of type and code zero, the same
from the identifier on, and its checksum verifies. -/
structure Mirrors (request reply : Bytes) : Prop where
  length : reply.length = request.length
  front : reply.take 2 = [0, 0]
  behind : reply.drop 4 = request.drop 4
  sum : Checksum.ofBytes reply = 0

/-- From its identifier on, a message is given by the header that is read from it and by what
is behind that. -/
theorem drop_message (message : Bytes) (hsize : Header.Icmp.size ≤ message.length) :
    message.drop 4 =
      Word16.bytes (Header.Icmp.read message).identifier ++
        (Word16.bytes (Header.Icmp.read message).sequence ++ message.drop Header.Icmp.size) := by
  rw [Header.Icmp.size] at hsize
  rw [message.drop_eq_wordAt_append 4 (by omega), message.drop_eq_wordAt_append 6 hsize]
  rfl

/-- **The reply mirrors its request**, whatever is in the code and the check field of that. -/
theorem mirrors_replyMessage (request : Bytes) (hsize : Header.Icmp.size ≤ request.length)
    (hshort : request.length < 281474976710656) :
    Mirrors request
      (replyMessage (Header.Icmp.read request) (request.drop Header.Icmp.size)) where
  length := by
    rw [replyMessage_eq, List.length_append, Header.Icmp.length_bytes, List.length_drop]
    omega
  front := by
    rw [replyMessage_eq]
    rfl
  behind := by
    rw [replyMessage_eq, drop_message request hsize]
    rfl
  sum := by
    refine ofBytes_sealing _ _ rfl ?_
    rw [List.length_drop]
    omega

/-! ### The frame -/

/-- **A frame answers an echo request**: it goes to the station at `mac` and carries, in one
piece, a message to `target` that mirrors the request, and behind that nothing but the zeros
which are needed for the least payload. -/
structure AnswersEcho (c : Config) (mac : MacAddr) (target : Ipv4Addr) (identification : UInt16)
    (request f : Bytes) : Prop where
  datagram : ∃ ip,
    FragmentOf c mac target Protocol.icmp identification (carried f) 1 0 f ip
  mirrors : Mirrors request (carried f)
  padding : f.drop (34 + request.length) = Bytes.zeros (c.minPayload - (20 + request.length))

/-- The frame of a message that mirrors the request. -/
theorem answersEcho_frame (c : Config) (mac : MacAddr) (target : Ipv4Addr)
    (identification : UInt16) {request reply : Bytes} (mirrors : Mirrors request reply)
    (hfit : reply.length ≤ c.threshold) :
    AnswersEcho c mac target identification request
      (frame c mac EtherType.ipv4
        (fragment c target Protocol.icmp identification 0 false reply)) := by
  obtain ⟨hcarried, ip, hfragment⟩ :=
    fragmentOf_whole c mac target Protocol.icmp identification reply hfit
  refine ⟨⟨ip, ?_⟩, ?_, ?_⟩
  · rw [hcarried]
    exact hfragment
  · rw [hcarried]
    exact mirrors
  · have hpadding := drop_frame_payload c mac EtherType.ipv4
      (fragment c target Protocol.icmp identification 0 false reply)
    rw [length_fragment, ← Nat.add_assoc, mirrors.length] at hpadding
    exact hpadding

end Outbound

/-- What a packet in a frame carries is no longer than a fragment, if the frame fits into the
receive buffer. -/
theorem Inbound.Ipv4Valid.length_payload_le {c : Config} {frame : Bytes}
    (valid : Ipv4Valid c.ip (frame.drop 14)) (hfit : frame.length ≤ c.maxFrame) :
    (ipv4Payload (frame.drop 14)).length ≤ c.threshold := by
  have hleast := valid.least
  have htotal := valid.totalLength
  rw [List.length_drop] at htotal
  rw [ipv4Payload, List.length_drop, List.length_take, List.length_drop]
  simp only [Config.maxFrame, Header.Ethernet.size, Header.Ipv4.size] at hfit
  omega

namespace Host

open Outbound (AnswersEcho)

/-! ### The answer -/

/-- **An echo request is answered** in one frame, where the address of the asker is known and
the request fits into a fragment.  But for the link and the trace only the next identification
changes. -/
theorem receiveIcmp_replies (h : Host) (p : Packet) {source : Ipv4Addr} {mac : MacAddr}
    (valid : Inbound.IcmpValid p.window) (hfresh : h.cache.get? source h.clock = some mac)
    (hfit : p.window.length ≤ h.config.threshold) :
    ∃ f trace,
      h.receiveIcmp p source =
        { h with link := h.link.sendAll [f], trace, nextId := h.nextId + 1 } ∧
      (h.receiveIcmp p source).frames = h.frames ++ [f] ∧
      AnswersEcho h.config mac source h.nextId p.window f := by
  have hthreshold := h.config.threshold_le
  have haccepted := (Inbound.icmp_eq_ok_iff source p.window _).2 ⟨valid, rfl⟩
  obtain ⟨reply, hreply, hwindow⟩ := Outbound.echoReply_eq_replyMessage
    (Header.Icmp.read p.window) p (by rw [← Packet.length_window]; exact valid.size)
  have mirrors : Outbound.Mirrors p.window reply.window := by
    rw [hwindow]
    exact Outbound.mirrors_replyMessage p.window valid.size (by omega)
  have hreplyfit : reply.window.length ≤ h.config.threshold := by
    rw [mirrors.length]
    exact hfit
  let noted := h.log (.echoReply source (Header.Icmp.read p.window).identifier
    (Header.Icmp.read p.window).sequence)
  have heq : h.receiveIcmp p source = noted.sendDatagram reply source Protocol.icmp := by
    rw [receiveIcmp, haccepted]
    simp only [hreply]
    rfl
  have hsent := sendDatagram_sent_of_le noted reply Protocol.icmp hfresh
    (by rw [← Packet.length_window]; exact hreplyfit)
  obtain ⟨trace, hunchanged⟩ := hsent.eq_sendAll
  refine ⟨_, trace, heq.trans hunchanged, ?_,
    Outbound.answersEcho_frame h.config mac source h.nextId mirrors hreplyfit⟩
  rw [heq, hsent.frames]
  exact congrArg (· ++ _)
    ((observed_emit_of_eq_none _ rfl).trans (observed_emit_of_eq_none h rfl))

/-- **Echo replies mirror the request.**  Take a host in any state in which it has its own
handlers, and poll it for a frame with a valid IPv4 packet that carries a valid echo request,
from a source that it knows the station of.  Exactly one frame is sent, to that station: a
datagram to the source, with a header of 20 bytes and in one piece, whose message is of the
length of the request, of type and code zero, with the identifier, the sequence number and the
data of the request and a checksum that verifies, and behind which there are only zeros, as
many as the least payload takes.  The next identification grows by one, and nothing else of the
host changes but the link, the buffer and the trace. -/
theorem poll_mirrors (depth : Nat) (h : Host) (own : h.HasOwnHandlers) {link : Link}
    {frame : Bytes} (hreceive : h.link.receive h.config.maxFrame = (link, .ok (some frame)))
    (htype : (Header.Ethernet.read frame).etherType = EtherType.ipv4)
    (valid : Inbound.Ipv4Valid h.config.ip (frame.drop 14))
    (hprotocol : (Header.Ipv4.read (frame.drop 14)).protocol = Protocol.icmp)
    (hrequest : Inbound.IcmpValid (Inbound.ipv4Payload (frame.drop 14))) {mac : MacAddr}
    (hfresh : h.cache.get? (Header.Ipv4.read (frame.drop 14)).source h.clock = some mac) :
    (h.poll (runner depth)).2 = .polled true ∧
    ∃ f rxBuffer rxBuffer_length trace,
      (h.poll (runner depth)).1 =
        { h with
          link := link.sendAll [f], rxBuffer, rxBuffer_length, trace, nextId := h.nextId + 1 } ∧
      (h.poll (runner depth)).1.frames = h.frames ++ [f] ∧
      AnswersEcho h.config mac (Header.Ipv4.read (frame.drop 14)).source h.nextId
        (Inbound.ipv4Payload (frame.drop 14)) f := by
  have hsize : 14 ≤ frame.length := by
    have hpacket := valid.size
    rw [List.length_drop] at hpacket
    omega
  have hfit := valid.length_payload_le (length_le_of_receive hreceive)
  obtain ⟨p, rxBuffer, rxBuffer_length, trace, hp, hframes, hpoll⟩ :=
    poll_of_ipv4 depth h own hreceive hsize htype
  let filled : Host := { h with link, rxBuffer, rxBuffer_length, trace }
  rw [← hp] at valid hprotocol hrequest hfresh hfit ⊢
  obtain ⟨q, hq, hpassed⟩ := receiveIpv4_of_valid depth filled p valid .icmp
    (by rw [hprotocol]; exact own.icmp)
  rw [← hq] at hrequest hfit ⊢
  let called :=
    filled.emit (.protocolHandled none q.head q.window (Header.Ipv4.read p.window).source)
  obtain ⟨f, replied, heq, hreplied, hanswers⟩ := receiveIcmp_replies called q hrequest hfresh hfit
  rw [hpoll, hpassed]
  refine ⟨rfl, f, rxBuffer, rxBuffer_length, replied, heq, ?_, hanswers⟩
  rw [← hframes]
  exact hreplied.trans (congrArg (· ++ [f]) (observed_emit_of_eq_none filled rfl))

/-- A request of 11 bytes behind options, whose code and checksum are no good, in a frame with
two more bytes behind it. -/
theorem poll_mirrors_odd_request :
    ∃ (h : Host) (f : Bytes),
      h.link.queue = [[2, 0, 0, 0, 0, 1, 2, 0, 0, 0, 0, 2, 8, 0,
        0x46, 0, 0, 35, 0, 0, 0, 0, 64, 1, 0x63, 0xd7, 10, 0, 0, 2, 10, 0, 0, 1, 1, 1, 1, 0,
        8, 5, 0xde, 0xad, 0x12, 0x34, 0, 7, 1, 2, 3, 9, 9]] ∧
      (h.poll (runner 1)).2 = .polled true ∧
      (h.poll (runner 1)).1.frames = [f] ∧
      AnswersEcho h.config ⟨2, 0, 0, 0, 0, 2⟩ ⟨10, 0, 0, 2⟩ 0
        [8, 5, 0xde, 0xad, 0x12, 0x34, 0, 7, 1, 2, 3] f := by
  obtain ⟨config, hconfig⟩ : ∃ config, Settings.build {} = .ok config := ⟨_, rfl⟩
  have hip : config.ip = ⟨10, 0, 0, 1⟩ := by
    cases hconfig
    rfl
  have hmax : config.maxFrame = 1514 := by
    cases hconfig
    rfl
  let frame : Bytes := [2, 0, 0, 0, 0, 1, 2, 0, 0, 0, 0, 2, 8, 0,
    0x46, 0, 0, 35, 0, 0, 0, 0, 64, 1, 0x63, 0xd7, 10, 0, 0, 2, 10, 0, 0, 1, 1, 1, 1, 0,
    8, 5, 0xde, 0xad, 0x12, 0x34, 0, 7, 1, 2, 3, 9, 9]
  let h : Host := { silent config { queue := [frame] } with
    cache := (silent config {}).cache.set ⟨10, 0, 0, 2⟩ ⟨2, 0, 0, 0, 0, 2⟩ 0 }
  have own : h.HasOwnHandlers := (silent_hasOwnHandlers config {}).congr rfl rfl
  have hfresh : h.cache.get? ⟨10, 0, 0, 2⟩ 0 = some ⟨2, 0, 0, 0, 0, 2⟩ :=
    (ExpiringTable.get?_set _ _ _ _ _).trans (if_pos rfl)
  have hreceive : h.link.receive config.maxFrame =
      ({ h.link with queue := [] }, .ok (some frame)) :=
    receive_of_queue rfl rfl (by rw [hmax]; decide)
  have valid : Inbound.Ipv4Valid config.ip (frame.drop 14) := {
    size := by decide
    version := by decide
    headerWords := by decide
    headerLength := by decide
    totalLength := by decide
    sum := (Checksum.ofBytes_eq_zero_iff _ (by decide)).2 (by decide)
    check := by decide
    destination := by rw [hip]; decide }
  have hrequest : Inbound.IcmpValid (Inbound.ipv4Payload (frame.drop 14)) :=
    ⟨by decide, by decide⟩
  obtain ⟨hpolled, f, -, -, -, -, hframes, hanswers⟩ :=
    poll_mirrors 1 h own hreceive (by decide) valid (by decide) hrequest hfresh
  have hmessage : Inbound.ipv4Payload (frame.drop 14) =
      [8, 5, 0xde, 0xad, 0x12, 0x34, 0, 7, 1, 2, 3] := by decide
  rw [hmessage] at hanswers
  exact ⟨h, f, rfl, hpolled, hframes, hanswers⟩

end Host

end HostNet
