import HostNet.Outbound
import HostNet.Packet.Window
import HostNet.Proofs.Checksum
import HostNet.Proofs.Fields

/-!
# What the host builds, as byte strings

`HostNet.Outbound` builds packets in place, by operations that are checked.  Here
everything it builds is given as a byte string computed from windows alone, and the
checked operations are shown to succeed.

* `Outbound.frame` — the frame that carries a payload.
* `Outbound.segment` — the UDP segment that carries a payload.
* `framed_eq_frame`, `udpSegment_eq_segment` — that these are what is built.
* `Outbound.replyMessage`, `Outbound.unreachableMessage` — the messages of ICMP.
* `echoReply_eq_replyMessage`, `unreachable_eq_unreachableMessage` — that these are what is
  built, the second for any bytes whatever.
-/

namespace HostNet.Outbound

/-! ### Frames -/

/-- The frame that carries `payload` to a station, padded with zeros to the least
payload. -/
def frame (c : Config) (destination : MacAddr) (etherType : UInt16) (payload : Bytes) : Bytes :=
  Header.Ethernet.bytes { destination, source := c.mac, etherType } ++
    (payload ++ Bytes.zeros (c.minPayload - payload.length))

theorem length_frame (c : Config) (destination : MacAddr) (etherType : UInt16)
    (payload : Bytes) :
    (frame c destination etherType payload).length =
      Header.Ethernet.size + max payload.length c.minPayload := by
  simp only [frame, List.length_append, Header.Ethernet.length_bytes, Bytes.length_zeros]
  omega

/-- A payload that is no longer than the longest packet makes a frame that is no
longer than the longest frame. -/
theorem length_frame_le (c : Config) (destination : MacAddr) (etherType : UInt16)
    (payload : Bytes) (h : payload.length ≤ c.threshold + Header.Ipv4.size) :
    (frame c destination etherType payload).length ≤ c.maxFrame := by
  have hpad := c.minPayload_le
  rw [length_frame, Config.maxFrame]
  omega

theorem drop_frame (c : Config) (destination : MacAddr) (etherType : UInt16)
    (payload : Bytes) :
    (frame c destination etherType payload).drop Header.Ethernet.size =
      payload ++ Bytes.zeros (c.minPayload - payload.length) :=
  List.drop_left' (Header.Ethernet.length_bytes _)

/-- Behind its payload a frame has nothing but zeros. -/
theorem drop_frame_payload (c : Config) (destination : MacAddr) (etherType : UInt16)
    (payload : Bytes) :
    (frame c destination etherType payload).drop (Header.Ethernet.size + payload.length) =
      Bytes.zeros (c.minPayload - payload.length) := by
  rw [← List.drop_drop, drop_frame]
  exact List.drop_left' rfl

theorem parse_frame (c : Config) (destination : MacAddr) (etherType : UInt16)
    (payload : Bytes) :
    Header.Ethernet.parse (frame c destination etherType payload) =
      .ok { destination, source := c.mac, etherType } :=
  Header.Ethernet.parse_append _ _

theorem padded_eq (least : Nat) (p : Packet) :
    ∃ q, padded least p = .ok q ∧ q.window = p.window ++ Bytes.zeros (least - p.size) := by
  by_cases h : p.size < least
  · refine ⟨p.pad (least - p.size), ?_, Packet.window_pad _ _⟩
    rw [padded, if_pos h, Checked.sub_of_le _ _ (Nat.le_of_lt h)]
    rfl
  · refine ⟨p, by rw [padded, if_neg h]; rfl, ?_⟩
    rw [Nat.sub_eq_zero_of_le (Nat.not_lt.1 h)]
    exact (List.append_nil _).symm

/-- **Framing succeeds**, and what it builds is `frame`. -/
theorem framed_eq_frame (c : Config) (destination : MacAddr) (etherType : UInt16)
    (p : Packet) :
    ∃ q, framed c destination etherType p = .ok q ∧
      q.window = frame c destination etherType p.window := by
  obtain ⟨q, hq, hwindow⟩ := padded_eq c.minPayload p
  refine ⟨q.prepend (Header.Ethernet.bytes { destination, source := c.mac, etherType }), ?_, ?_⟩
  · rw [framed, hq]
    rfl
  · rw [Packet.window_prepend, hwindow, frame, Packet.length_window]

/-! ### Segments -/

/-- The UDP header before `payload`, with its check field zero. -/
def clearedHeader (sourcePort port : UInt16) (payload : Bytes) : Header.Udp where
  source := sourcePort
  destination := port
  length := (Header.Udp.size + payload.length).toUInt16
  check := 0

/-- The UDP header before `payload`. -/
def segmentHeader (localIp destination : Ipv4Addr) (sourcePort port : UInt16)
    (payload : Bytes) : Header.Udp :=
  { clearedHeader sourcePort port payload with
    check := Header.Udp.wireCheck (Checksum.transport Protocol.udp
      ((clearedHeader sourcePort port payload).bytes ++ payload) localIp destination) }

/-- The UDP segment that carries `payload` between two ports. -/
def segment (localIp destination : Ipv4Addr) (sourcePort port : UInt16) (payload : Bytes) :
    Bytes :=
  (segmentHeader localIp destination sourcePort port payload).bytes ++ payload

@[simp] theorem length_segment (localIp destination : Ipv4Addr) (sourcePort port : UInt16)
    (payload : Bytes) :
    (segment localIp destination sourcePort port payload).length =
      Header.Udp.size + payload.length := by
  rw [segment, List.length_append, Header.Udp.length_bytes]

/-- Writing the check field of a header in its place. -/
theorem splice_udp_check (h : Header.Udp) (payload : Bytes) (check : UInt16) :
    (h.bytes ++ payload).splice Header.Udp.checkOffset (Word16.bytes check) =
      { h with check }.bytes ++ payload := by
  simp [Bytes.splice, Header.Udp.bytes, Header.Udp.checkOffset, Word16.bytes]

/-- **Building a segment succeeds** for data that fits into a datagram, and what is
built is `segment`. -/
theorem udpSegment_eq_segment (localIp destination : Ipv4Addr) (sourcePort port : UInt16)
    (p : Packet) (h : p.size ≤ Header.Udp.maxDatagram) :
    ∃ q, udpSegment localIp destination sourcePort port p = .ok q ∧
      q.window = segment localIp destination sourcePort port p.window := by
  have hlength : Header.Udp.size + p.size < 65536 := by
    simp only [Header.Udp.maxDatagram, Header.Ipv4.maxPayload, Header.Udp.size] at *
    omega
  have hcleared : (p.prepend (clearedHeader sourcePort port p.window).bytes).window =
      (clearedHeader sourcePort port p.window).bytes ++ p.window := Packet.window_prepend _ _
  let check := Header.Udp.wireCheck (Checksum.transport Protocol.udp
    ((clearedHeader sourcePort port p.window).bytes ++ p.window) localIp destination)
  have hwrite : Checked.overwrite ((clearedHeader sourcePort port p.window).bytes ++ p.window)
      Header.Udp.checkOffset (Word16.bytes check) =
        .ok (segment localIp destination sourcePort port p.window) := by
    rw [Checked.overwrite_of_le _ _ _ (by
      simp [Header.Udp.checkOffset, Header.Udp.size]), splice_udp_check]
    rfl
  refine ⟨(p.prepend (clearedHeader sourcePort port p.window).bytes).overwrite 0
    (segment localIp destination sourcePort port p.window), ?_, ?_⟩
  · have hheader : clearedHeader sourcePort port p.window =
        { source := sourcePort, destination := port,
          length := (Header.Udp.size + p.size).toUInt16, check := 0 } := by
      rw [clearedHeader, Packet.length_window]
    rw [udpSegment, Checked.word16_of_lt _ hlength]
    simp only [bind, Except.bind, ← hheader, hcleared]
    rw [hwrite]
    rfl
  · rw [Packet.window_overwrite]
    · simp [Bytes.splice, hcleared]
    · simp [Nat.add_comm]

/-! ### Messages of ICMP -/

/-- A message with its checksum written into its check field. -/
def sealing (message : Bytes) : Bytes :=
  message.splice Header.Icmp.checkOffset (Word16.bytes (Checksum.ofBytes message))

theorem sealed_eq_sealing (message : Bytes) (h : Header.Icmp.size ≤ message.length) :
    sealed message = .ok (sealing message) := by
  refine Checked.overwrite_of_le _ _ _ ?_
  simp only [Header.Icmp.size] at h
  simp only [Header.Icmp.checkOffset, Word16.length_bytes]
  omega

/-- Sealing a message changes the check field of its header only. -/
theorem sealing_header (h : Header.Icmp) (data : Bytes) :
    sealing (h.bytes ++ data) =
      { h with check := Checksum.ofBytes (h.bytes ++ data) }.bytes ++ data := by
  simp [sealing, Bytes.splice, Header.Icmp.bytes, Header.Icmp.checkOffset, Word16.bytes]

/-- **The checksum of a sealed message verifies**, if its check field was zero before. -/
theorem ofBytes_sealing (h : Header.Icmp) (data : Bytes) (hcheck : h.check = 0)
    (hshort : Header.Icmp.size + data.length < 281474976710656) :
    Checksum.ofBytes (sealing (h.bytes ++ data)) = 0 := by
  refine Checksum.ofBytes_splice_eq_zero _ Header.Icmp.checkOffset rfl ?_ ?_
  · rw [← hcheck]
    rfl
  · rw [List.length_append, Header.Icmp.length_bytes]
    exact hshort

/-- The header of the reply to an echo request, with its check field zero. -/
def replyHeader (request : Header.Icmp) : Header.Icmp :=
  { request with messageType := IcmpType.echoReply, code := 0, check := 0 }

/-- The message that sends `data` back in answer to an echo request. -/
def replyMessage (request : Header.Icmp) (data : Bytes) : Bytes :=
  sealing ((replyHeader request).bytes ++ data)

theorem replyMessage_eq (request : Header.Icmp) (data : Bytes) :
    replyMessage request data =
      { replyHeader request with
        check := Checksum.ofBytes ((replyHeader request).bytes ++ data) }.bytes ++ data :=
  sealing_header _ _

/-- **A message that is long enough for a header can be answered**, with what is behind
its header. -/
theorem echoReply_eq_replyMessage (request : Header.Icmp) (p : Packet)
    (h : Header.Icmp.size ≤ p.size) :
    ∃ q, echoReply request p = .ok q ∧
      q.window = replyMessage request (p.window.drop Header.Icmp.size) := by
  let data := p.window.drop Header.Icmp.size
  have hlength : (replyMessage request data).length = p.size := by
    rw [replyMessage_eq, List.length_append, Header.Icmp.length_bytes, List.length_drop,
      Packet.length_window]
    omega
  have hwrite : Checked.overwrite p.window 0 (replyHeader request).bytes =
      .ok ((replyHeader request).bytes ++ data) := by
    rw [Checked.overwrite_of_le _ _ _ (by
      rw [Packet.length_window, Header.Icmp.length_bytes]
      omega)]
    simp [Bytes.splice, data]
  have hsealed := sealed_eq_sealing ((replyHeader request).bytes ++ data) (by
    rw [List.length_append, Header.Icmp.length_bytes]
    omega)
  refine ⟨p.overwrite 0 (replyMessage request data), ?_, ?_⟩
  · rw [replyHeader] at hwrite hsealed
    rw [echoReply, hwrite]
    simp only [bind, Except.bind]
    rw [hsealed]
    rfl
  · rw [Packet.window_overwrite _ _ _ (by omega), Bytes.splice, List.take_zero, List.nil_append,
      List.drop_of_length_le (by rw [Packet.length_window]; omega), List.append_nil]

/-- The length of its header that a datagram declares, or that of the shortest header
where it is too short to declare any. -/
def declaredHeader (undelivered : Bytes) : Nat :=
  match Header.Ipv4.parse undelivered with
  | .ok h => h.headerLength
  | .error _ => Header.Ipv4.size

theorem declaredHeader_le (undelivered : Bytes) : declaredHeader undelivered ≤ 60 := by
  unfold declaredHeader
  split
  · rename_i h hparse
    obtain ⟨-, rfl⟩ := (Header.Ipv4.parse_eq_ok_iff undelivered h).1 hparse
    exact Header.Ipv4.read_headerLength_le undelivered
  · decide

/-- How many bytes are quoted of a datagram: a header, as long as declared but no longer
than the datagram and no shorter than a header can be, and the bytes behind it. -/
def quotedLength (undelivered : Bytes) : Nat :=
  max Header.Ipv4.size
    (min (declaredHeader undelivered) (max undelivered.length Header.Ipv4.size)) + quotedPayload

theorem quotedLength_le (undelivered : Bytes) : quotedLength undelivered ≤ 68 := by
  have hle := declaredHeader_le undelivered
  simp only [quotedLength, quotedPayload, Header.Ipv4.size]
  omega

/-- The header of a message that something could not be reached, with its check field
zero. -/
def unreachableHeader (what : Unreachable) : Header.Icmp where
  messageType := IcmpType.unreachable
  code := what.code
  check := 0
  identifier := 0
  sequence := 0

/-- What the message quotes of a datagram, with zeros for what is not there. -/
def quote (undelivered : Bytes) : Bytes :=
  undelivered.take (quotedLength undelivered) ++
    Bytes.zeros (quotedLength undelivered - undelivered.length)

theorem length_quote (undelivered : Bytes) :
    (quote undelivered).length = quotedLength undelivered := by
  rw [quote, List.length_append, List.length_take, Bytes.length_zeros]
  omega

/-- The message that a datagram could not be delivered. -/
def unreachableMessage (undelivered : Bytes) (what : Unreachable) : Bytes :=
  sealing ((unreachableHeader what).bytes ++ quote undelivered)

theorem unreachableMessage_eq (undelivered : Bytes) (what : Unreachable) :
    unreachableMessage undelivered what =
      { unreachableHeader what with
        check := Checksum.ofBytes ((unreachableHeader what).bytes ++ quote undelivered) }.bytes ++
        quote undelivered :=
  sealing_header _ _

/-- **Any bytes can be quoted**, also fewer than a header and also bytes that say
their header is longer than they are. -/
theorem unreachable_eq_unreachableMessage (undelivered : Bytes) (what : Unreachable) :
    unreachable undelivered what = .ok (unreachableMessage undelivered what) := by
  let quoted := quotedLength undelivered
  have hheader : quotedHeader undelivered = .ok (quoted - quotedPayload) :=
    Checked.clamp_of_le _ _ _ (Nat.le_max_right _ _)
  have hslice : Checked.slice undelivered 0 (min quoted undelivered.length) =
      .ok (undelivered.take quoted) := by
    rw [Checked.slice_of_le _ _ _ (by omega), List.drop_zero, ← List.take_eq_take_min]
  have hlength : ((unreachableHeader what).bytes ++ undelivered.take quoted).length =
      Header.Icmp.size + min quoted undelivered.length := by
    rw [List.length_append, Header.Icmp.length_bytes, List.length_take]
  have hmissing : Checked.sub (Header.Icmp.size + quoted)
      ((unreachableHeader what).bytes ++ undelivered.take quoted).length =
        .ok (quoted - undelivered.length) := by
    rw [Checked.sub_of_le _ _ (by omega), hlength]
    exact congrArg Except.ok (by omega)
  have hsealed := sealed_eq_sealing ((unreachableHeader what).bytes ++ quote undelivered) (by
    rw [List.length_append, Header.Icmp.length_bytes]
    omega)
  rw [quote, ← List.append_assoc, unreachableHeader] at hsealed
  rw [unreachableHeader] at hmissing
  have hquoted : quoted - quotedPayload + quotedPayload = quoted := rfl
  rw [unreachable, hheader]
  simp only [bind, Except.bind, hquoted]
  rw [hslice]
  simp only []
  rw [hmissing]
  simp only []
  rw [hsealed, unreachableMessage, quote, ← List.append_assoc, unreachableHeader]

/-! ### Fragments -/

/-- The packet that carries `piece` as the fragment of a datagram that starts at byte
`offset` of it. -/
def fragment (c : Config) (destination : Ipv4Addr) (protocol : UInt8) (identification : UInt16)
    (offset : Nat) (more : Bool) (piece : Bytes) : Bytes :=
  (fragmentHeader c destination protocol identification offset more piece.length).bytes ++ piece

@[simp] theorem length_fragment (c : Config) (destination : Ipv4Addr) (protocol : UInt8)
    (identification : UInt16) (offset : Nat) (more : Bool) (piece : Bytes) :
    (fragment c destination protocol identification offset more piece).length =
      Header.Ipv4.size + piece.length := by
  rw [fragment, List.length_append, Header.Ipv4.length_bytes]

end HostNet.Outbound
