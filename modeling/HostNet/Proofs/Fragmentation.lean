import HostNet.Proofs.Checksum
import HostNet.Proofs.Inbound
import HostNet.Proofs.Sending

/-!
# Fragmentation loses nothing

A datagram that does not fit into a frame is cut up, and each fragment says where in
the datagram it belongs.  This file reads the frames that leave the host the way a
receiver does, and shows that they are the datagram.

* `Outbound.fragment…` lemmas — the header of a fragment reads back as what it was made
  from, and its checksum verifies.
* `Bytes.getElem?_chunks` and the like — the place and the length of each piece.
* `Outbound.fragments`, `Outbound.fragmentFrames` — the packets and the frames of a list of
  pieces; `sendPieces_sent` says that these frames are what is handed to the link.
* `FragmentOf` — all that is true of one frame of a datagram; `fragmentFrames_pieces` says that
  it is true of the frames of its pieces, and `fragmentOf_whole` of a datagram in one piece.
* `sendDatagram_lossless` — the statement about a whole datagram.

### What keeps the numbers within their fields

The length of a datagram is at most 65515 bytes.  So the total length of a fragment
fits into 16 bits, and the offset of one, counted in units of 8 bytes, into 13: the
greatest is 8189.  Offsets are multiples of the threshold, which is a multiple of 8 in
every configuration (`Config.threshold_aligned`).
-/

namespace HostNet

/-! ### The header of a fragment -/

namespace Header.Ipv4

theorem toNat_and_offsetMask (word : UInt16) : (word &&& offsetMask).toNat = word.toNat % 8192 := by
  rw [UInt16.toNat_and]
  exact Nat.and_two_pow_sub_one_eq_mod word.toNat 13

/-- The word that holds an offset and the flag, as a number. -/
theorem toNat_flagsFragment (h : Header.Ipv4) (more : Bool) (offset : Nat)
    (hoffset : offset / 8 < 8192) :
    (h.withFragment more offset).flagsFragment.toNat =
      offset / 8 + if more then 8192 else 0 := by
  have hunits : ((offset / 8).toUInt16 &&& offsetMask).toNat = offset / 8 := by
    have hword : (offset / 8).toUInt16.toNat = offset / 8 % 65536 := rfl
    rw [toNat_and_offsetMask, hword]
    omega
  cases more with
  | false =>
      rw [withFragment, UInt16.toNat_add, hunits]
      simp
      omega
  | true =>
      rw [withFragment, UInt16.toNat_add, hunits]
      simp [moreFragmentsFlag]
      omega

/-- **An offset is read back** if it is a multiple of 8 that fits into 13 bits. -/
theorem fragmentOffset_withFragment (h : Header.Ipv4) (more : Bool) (offset : Nat)
    (hoffset : offset / 8 < 8192) (haligned : offset % 8 = 0) :
    (h.withFragment more offset).fragmentOffset = offset := by
  rw [fragmentOffset, toNat_and_offsetMask, toNat_flagsFragment h more offset hoffset]
  cases more with
  | false =>
      simp only [Bool.false_eq_true, if_false]
      omega
  | true =>
      simp only [if_true]
      omega

/-- **The flag is read back**, whatever the offset. -/
theorem moreFragments_withFragment (h : Header.Ipv4) (more : Bool) (offset : Nat)
    (hoffset : offset / 8 < 8192) : (h.withFragment more offset).moreFragments = more := by
  have hflag : ((h.withFragment more offset).flagsFragment / moreFragmentsFlag % 2).toNat =
      if more then 1 else 0 := by
    rw [UInt16.toNat_mod, UInt16.toNat_div, toNat_flagsFragment h more offset hoffset]
    cases more with
    | false =>
        simp [moreFragmentsFlag]
        omega
    | true =>
        simp [moreFragmentsFlag]
        omega
  rw [moreFragments, Bool.eq_iff_iff, beq_iff_eq, ← UInt16.toNat_inj, hflag]
  cases more with
  | false => simp
  | true => simp

/-- Writing the check field of a header in its place. -/
theorem splice_check (h : Header.Ipv4) (check : UInt16) :
    h.bytes.splice checkOffset (Word16.bytes check) = { h with check }.bytes := by
  simp [Bytes.splice, bytes, checkOffset, Word16.bytes, Ipv4Addr.bytes]

/-- **The checksum of a header verifies.** -/
theorem ofBytes_withChecksum (h : Header.Ipv4) : Checksum.ofBytes h.withChecksum.bytes = 0 := by
  have hcleared : (({ h with check := 0 } : Header.Ipv4).bytes.drop checkOffset).take 2 =
      Word16.bytes 0 := by
    simp [bytes, checkOffset, Word16.bytes, Ipv4Addr.bytes]
  have hzero := Checksum.ofBytes_splice_eq_zero ({ h with check := 0 } : Header.Ipv4).bytes
    checkOffset rfl hcleared (by rw [length_bytes]; decide)
  rw [splice_check] at hzero
  exact hzero

end Header.Ipv4

namespace Outbound

variable (c : Config) (destination : Ipv4Addr) (protocol : UInt8) (identification : UInt16)

/-- The header of a packet of a datagram, with nothing said of its place there. -/
def datagramHeader (size : Nat) : Header.Ipv4 :=
  { Header.Ipv4.new protocol c.ip destination c.timeToLive c.serviceType with
    totalLength := (Header.Ipv4.size + size).toUInt16
    identification }

theorem fragmentHeader_offset (offset : Nat) (more : Bool) (size : Nat)
    (hoffset : offset / 8 < 8192) (haligned : offset % 8 = 0) :
    (fragmentHeader c destination protocol identification offset more size).fragmentOffset =
      offset :=
  Header.Ipv4.fragmentOffset_withFragment
    (datagramHeader c destination protocol identification size) more offset hoffset haligned

theorem fragmentHeader_more (offset : Nat) (more : Bool) (size : Nat)
    (hoffset : offset / 8 < 8192) :
    (fragmentHeader c destination protocol identification offset more size).moreFragments =
      more :=
  Header.Ipv4.moreFragments_withFragment
    (datagramHeader c destination protocol identification size) more offset hoffset

theorem fragmentHeader_verifies (offset : Nat) (more : Bool) (size : Nat) :
    Checksum.ofBytes
      (fragmentHeader c destination protocol identification offset more size).bytes = 0 :=
  Header.Ipv4.ofBytes_withChecksum
    ((datagramHeader c destination protocol identification size).withFragment more offset)

theorem fragmentHeader_totalLength (offset : Nat) (more : Bool) (size : Nat)
    (hsize : size ≤ Header.Ipv4.maxPayload) :
    (fragmentHeader c destination protocol identification offset more size).totalLength.toNat =
      Header.Ipv4.size + size := by
  have hlt : Header.Ipv4.size + size < 65536 := by
    simp only [Header.Ipv4.size, Header.Ipv4.maxPayload] at *
    omega
  exact Nat.mod_eq_of_lt hlt

/-- The header of a fragment is read back from its packet, whatever follows that. -/
theorem parse_fragment (offset : Nat) (more : Bool) (piece rest : Bytes) :
    Header.Ipv4.parse
        (fragment c destination protocol identification offset more piece ++ rest) =
      .ok (fragmentHeader c destination protocol identification offset more piece.length) := by
  rw [fragment, List.append_assoc, Header.Ipv4.parse_append]
  rfl

/-- The front of the packet of a fragment is its header. -/
theorem take_fragment_header (offset : Nat) (more : Bool) (piece rest : Bytes) :
    (fragment c destination protocol identification offset more piece ++ rest).take
        Header.Ipv4.size =
      (fragmentHeader c destination protocol identification offset more piece.length).bytes := by
  rw [fragment, List.append_assoc]
  exact List.take_left' (Header.Ipv4.length_bytes _)

/-- **A fragment passes every check of its receiver**, whatever follows it. -/
theorem ipv4_fragment (offset : Nat) (more : Bool) (piece rest : Bytes)
    (hsize : piece.length ≤ Header.Ipv4.maxPayload) :
    Inbound.ipv4 destination
        (fragment c destination protocol identification offset more piece ++ rest) =
      .ok (fragmentHeader c destination protocol identification offset more piece.length) := by
  have htotal := fragmentHeader_totalLength c destination protocol identification offset more
    piece.length hsize
  have hwords : ¬((5 : UInt8) < Header.Ipv4.minWords ∨ Header.Ipv4.maxWords < 5) := by decide
  refine Inbound.ipv4_of_valid (parse_fragment c destination protocol identification offset more
    piece rest) rfl hwords ?_ ?_ ?_ rfl
  · rw [htotal, List.length_append, length_fragment]
    omega
  · rw [htotal]
    exact Nat.le_add_right _ _
  · have hfront := take_fragment_header c destination protocol identification offset more piece
      rest
    exact (congrArg (fun front => Checksum.ofBytes (Bytes.splice front _ _)) hfront).trans
      (congrArg Checksum.ofBytes (Header.Ipv4.splice_check _ 0))

end Outbound

/-! ### Pieces of a datagram -/

namespace Bytes

theorem chunks_eq_nil_iff (size : Nat) (hsize : size ≠ 0) (bytes : Bytes) :
    chunks size bytes = [] ↔ bytes = [] := by
  constructor
  · intro hnil
    rw [← flatten_chunks size hsize bytes, hnil]
    rfl
  · intro hnil
    rw [chunks, dif_pos (.inr hnil)]

/-- The number of pieces is the quotient, rounded up. -/
theorem length_chunks (size : Nat) (hsize : size ≠ 0) (bytes : Bytes) :
    (chunks size bytes).length = (bytes.length + size - 1) / size := by
  fun_induction chunks size bytes with
  | case1 bytes h =>
      rw [h.resolve_left hsize]
      simp only [List.length_nil]
      rw [Nat.div_eq_of_lt (by omega)]
  | case2 bytes h ih =>
      have hpos : 0 < bytes.length := List.length_pos_iff.2 (not_or.1 h).2
      have hlow : bytes.length + size - 1 = bytes.length - 1 + size := by omega
      rw [List.length_cons, ih, List.length_drop, hlow, Nat.add_div_right _ (by omega)]
      by_cases hle : bytes.length ≤ size
      · rw [Nat.div_eq_of_lt (by omega), Nat.div_eq_of_lt (by omega)]
      · rw [show bytes.length - size + size - 1 = bytes.length - 1 by omega]

end Bytes

namespace Outbound

/-- The pieces that a payload is sent in: itself, if it fits, and otherwise as many of
the greatest length as it takes. -/
def pieces (threshold : Nat) (payload : Bytes) : List Bytes :=
  if payload.length ≤ threshold then [payload] else Bytes.chunks threshold payload

/-- The frames of the pieces of a datagram, the first of which starts at byte `offset`
of it. -/
def fragmentFrames (c : Config) (mac : MacAddr) (destination : Ipv4Addr) (protocol : UInt8)
    (identification : UInt16) (offset : Nat) : List Bytes → List Bytes
  | [] => []
  | piece :: rest =>
      frame c mac EtherType.ipv4
          (fragment c destination protocol identification offset (!rest.isEmpty) piece) ::
        fragmentFrames c mac destination protocol identification (offset + piece.length) rest

/-- The packets of the pieces of a datagram, the first of which starts at byte `offset` of
it. -/
def fragments (c : Config) (destination : Ipv4Addr) (protocol : UInt8) (identification : UInt16)
    (offset : Nat) : List Bytes → List Bytes
  | [] => []
  | piece :: rest =>
      fragment c destination protocol identification offset (!rest.isEmpty) piece ::
        fragments c destination protocol identification (offset + piece.length) rest

theorem flatten_pieces (threshold : Nat) (hthreshold : threshold ≠ 0) (payload : Bytes) :
    (pieces threshold payload).flatten = payload := by
  unfold pieces
  split
  · exact List.append_nil payload
  · exact Bytes.flatten_chunks threshold hthreshold payload

/-- **The number of pieces.**  An empty payload is sent too. -/
theorem length_pieces (threshold : Nat) (hthreshold : threshold ≠ 0) (payload : Bytes) :
    (pieces threshold payload).length =
      max 1 ((payload.length + threshold - 1) / threshold) := by
  unfold pieces
  split
  · have hle : (payload.length + threshold - 1) / threshold ≤ 1 := by
      rw [Nat.div_le_iff_le_mul_add_pred (by omega)]
      omega
    rw [List.length_singleton]
    omega
  · have hge : 1 ≤ (payload.length + threshold - 1) / threshold := by
      rw [Nat.le_div_iff_mul_le (by omega)]
      omega
    rw [Bytes.length_chunks threshold hthreshold]
    omega

variable (c : Config) (mac : MacAddr) (destination : Ipv4Addr) (protocol : UInt8)
  (identification : UInt16)

/-- The frames of a datagram are those of its packets. -/
theorem fragmentFrames_eq_map (offset : Nat) (pieces : List Bytes) :
    fragmentFrames c mac destination protocol identification offset pieces =
      (fragments c destination protocol identification offset pieces).map
        (frame c mac EtherType.ipv4) := by
  induction pieces generalizing offset with
  | nil => rfl
  | cons piece rest ih => rw [fragmentFrames, fragments, List.map_cons, ih]

theorem length_fragmentFrames (offset : Nat) (pieces : List Bytes) :
    (fragmentFrames c mac destination protocol identification offset pieces).length =
      pieces.length := by
  induction pieces generalizing offset with
  | nil => rfl
  | cons piece rest ih => rw [fragmentFrames, List.length_cons, List.length_cons, ih]

/-- The frame of each piece of a payload that is cut up, by induction along the cutting:
the pieces before it are of the greatest length. -/
theorem getElem?_fragmentFrames_chunks (size : Nat) (hsize : size ≠ 0) (payload : Bytes)
    (offset i : Nat) {f : Bytes}
    (hf : (fragmentFrames c mac destination protocol identification offset
      (Bytes.chunks size payload))[i]? = some f) :
    i * size < payload.length ∧
      f = frame c mac EtherType.ipv4 (fragment c destination protocol identification
        (offset + i * size) (decide ((i + 1) * size < payload.length))
        ((payload.drop (i * size)).take size)) := by
  fun_induction Bytes.chunks size payload generalizing offset i with
  | case1 payload h => cases hf
  | case2 payload h ih =>
      have hpos : 0 < payload.length := List.length_pos_iff.2 (not_or.1 h).2
      rw [fragmentFrames] at hf
      cases i with
      | zero =>
          rw [List.getElem?_cons_zero, Option.some.injEq] at hf
          -- More pieces follow exactly if some bytes do.
          have hmore : (!(Bytes.chunks size (payload.drop size)).isEmpty) =
              decide ((0 + 1) * size < payload.length) := by
            rw [Bool.eq_iff_iff, Bool.not_eq_true', List.isEmpty_eq_false_iff, Ne,
              Bytes.chunks_eq_nil_iff size hsize, List.drop_eq_nil_iff, decide_eq_true_iff]
            omega
          rw [Nat.zero_mul, Nat.add_zero, List.drop_zero, ← hmore]
          exact ⟨hpos, hf.symm⟩
      | succ i =>
          rw [List.getElem?_cons_succ] at hf
          obtain ⟨hlt, heq⟩ := ih _ _ hf
          rw [List.length_drop] at hlt
          have htake : (payload.take size).length = size := List.length_take_of_le (by omega)
          have hplace : offset + size + i * size = offset + (i + 1) * size := by
            rw [Nat.succ_mul]
            omega
          have hdrop : (payload.drop size).drop (i * size) = payload.drop ((i + 1) * size) := by
            rw [List.drop_drop, Nat.succ_mul, Nat.add_comm]
          have hmore : decide ((i + 1) * size < (payload.drop size).length) =
              decide ((i + 1 + 1) * size < payload.length) := by
            rw [List.length_drop, Nat.succ_mul (i + 1)]
            exact decide_eq_decide.2 (by omega)
          rw [htake, hplace, hdrop, hmore] at heq
          refine ⟨?_, heq⟩
          rw [Nat.succ_mul]
          omega

/-- **The frame of each piece of a payload.** -/
theorem getElem?_fragmentFrames_pieces (threshold : Nat) (hthreshold : threshold ≠ 0)
    (payload : Bytes) (i : Nat) {f : Bytes}
    (hf : (fragmentFrames c mac destination protocol identification 0
      (pieces threshold payload))[i]? = some f) :
    i * threshold ≤ payload.length ∧
      f = frame c mac EtherType.ipv4 (fragment c destination protocol identification
        (i * threshold) (decide (i + 1 < (pieces threshold payload).length))
        ((payload.drop (i * threshold)).take threshold)) := by
  have hcount := length_pieces threshold hthreshold payload
  by_cases hle : payload.length ≤ threshold
  · rw [pieces, if_pos hle] at hf hcount ⊢
    cases i with
    | zero =>
        rw [fragmentFrames, List.getElem?_cons_zero, Option.some.injEq] at hf
        rw [Nat.zero_mul, List.drop_zero, List.take_of_length_le hle]
        exact ⟨Nat.zero_le _, hf.symm⟩
    | succ i => cases hf
  · rw [pieces, if_neg hle] at hf hcount ⊢
    obtain ⟨hlt, heq⟩ := getElem?_fragmentFrames_chunks c mac destination protocol identification
      threshold hthreshold payload 0 i hf
    have hmore : decide ((i + 1) * threshold < payload.length) =
        decide (i + 1 < (Bytes.chunks threshold payload).length) := by
      refine decide_eq_decide.2 ?_
      rw [Bytes.length_chunks threshold hthreshold, ← Nat.add_one_le_iff (n := i + 1),
        Nat.le_div_iff_mul_le (by omega), Nat.succ_mul (i + 1)]
      omega
    rw [Nat.zero_add, hmore] at heq
    exact ⟨Nat.le_of_lt hlt, heq⟩

/-! ### What a frame carries -/

/-- What a frame carries as the payload of an IPv4 packet: what lies behind the header
of the packet, up to its total length. -/
def carried (f : Bytes) : Bytes :=
  match Header.Ipv4.parse (f.drop Header.Ethernet.size) with
  | .ok h => ((f.drop Header.Ethernet.size).take h.totalLength.toNat).drop h.headerLength
  | .error _ => []

/-- The packet of a frame, cut at its total length, is the fragment without padding. -/
theorem take_fragment (offset : Nat) (more : Bool) (piece rest : Bytes)
    (hsize : piece.length ≤ Header.Ipv4.maxPayload) :
    (fragment c destination protocol identification offset more piece ++ rest).take
        (fragmentHeader c destination protocol identification offset more
          piece.length).totalLength.toNat =
      fragment c destination protocol identification offset more piece := by
  refine List.take_left' ?_
  rw [fragmentHeader_totalLength _ _ _ _ _ _ _ hsize, length_fragment]

theorem drop_fragment (offset : Nat) (more : Bool) (piece : Bytes) :
    (fragment c destination protocol identification offset more piece).drop
        (fragmentHeader c destination protocol identification offset more
          piece.length).headerLength = piece :=
  List.drop_left' rfl

theorem carried_frame (offset : Nat) (more : Bool) (piece : Bytes)
    (hsize : piece.length ≤ Header.Ipv4.maxPayload) :
    carried (frame c mac EtherType.ipv4
      (fragment c destination protocol identification offset more piece)) = piece := by
  rw [carried, drop_frame, parse_fragment]
  simp only []
  rw [take_fragment _ _ _ _ _ _ _ _ hsize, drop_fragment]

/-- **Nothing is lost**: the frames of some pieces carry these pieces. -/
theorem map_carried_fragmentFrames (offset : Nat) (pieces : List Bytes)
    (hfit : pieces.flatten.length ≤ Header.Ipv4.maxPayload) :
    (fragmentFrames c mac destination protocol identification offset pieces).map carried =
      pieces := by
  induction pieces generalizing offset with
  | nil => rfl
  | cons piece rest ih =>
      rw [List.flatten_cons, List.length_append] at hfit
      rw [fragmentFrames, List.map_cons, carried_frame _ _ _ _ _ _ _ _ (by omega),
        ih _ (by omega)]

/-- What is true of frame `i` of the `count` frames that a payload is sent in, and of the
IPv4 header in it. -/
structure FragmentOf (payload : Bytes) (count i : Nat) (f : Bytes) (h : Header.Ipv4) : Prop where
  ethernet : Header.Ethernet.parse f =
    .ok { destination := mac, source := c.mac, etherType := EtherType.ipv4 }
  length_le : f.length ≤ c.maxFrame
  parse : Header.Ipv4.parse (f.drop Header.Ethernet.size) = .ok h
  version : h.version = 4
  headerLength : h.headerLength = Header.Ipv4.size
  /-- The checksum over the header as sent is zero. -/
  verifies : Checksum.ofBytes ((f.drop Header.Ethernet.size).take Header.Ipv4.size) = 0
  /-- The receiver that the datagram is for finds nothing wrong with the packet. -/
  accepted : Inbound.ipv4 destination (f.drop Header.Ethernet.size) = .ok h
  serviceType : h.serviceType = c.serviceType
  timeToLive : h.timeToLive = c.timeToLive
  protocol : h.protocol = protocol
  source : h.source = c.ip
  destination : h.destination = destination
  identification : h.identification = identification
  fragmentOffset : h.fragmentOffset = i * c.threshold
  fragmentOffset_aligned : h.fragmentOffset % 8 = 0
  moreFragments : h.moreFragments = decide (i + 1 < count)
  totalLength : h.totalLength.toNat =
    Header.Ipv4.size + ((payload.drop (i * c.threshold)).take c.threshold).length
  carried : carried f = (payload.drop (i * c.threshold)).take c.threshold

/-- **The frame of a piece** is what it should be, as long as the payload fits into a
datagram. -/
theorem fragmentOf_frame (payload : Bytes) (count i : Nat)
    (hsize : payload.length ≤ Header.Ipv4.maxPayload)
    (hplace : i * c.threshold ≤ payload.length) :
    let piece := (payload.drop (i * c.threshold)).take c.threshold
    let more := decide (i + 1 < count)
    FragmentOf c mac destination protocol identification payload count i
      (frame c mac EtherType.ipv4
        (fragment c destination protocol identification (i * c.threshold) more piece))
      (fragmentHeader c destination protocol identification (i * c.threshold) more
        piece.length) := by
  intro piece more
  have hthreshold := c.threshold_le
  have hpiece : piece.length ≤ c.threshold := List.length_take_le _ _
  have hmax : piece.length ≤ Header.Ipv4.maxPayload := by
    simp only [Header.Ipv4.maxPayload]
    omega
  have hoffset : i * c.threshold / 8 < 8192 := by
    simp only [Header.Ipv4.maxPayload] at hsize
    omega
  have haligned : i * c.threshold % 8 = 0 := by
    rw [Nat.mul_mod, c.threshold_aligned, Nat.mul_zero, Nat.zero_mod]
  have hread := fragmentHeader_offset c destination protocol identification
    (i * c.threshold) more piece.length hoffset haligned
  have hdrop := drop_frame c mac EtherType.ipv4
    (fragment c destination protocol identification (i * c.threshold) more piece)
  exact {
    ethernet := parse_frame _ _ _ _
    length_le := by
      refine length_frame_le _ _ _ _ ?_
      rw [length_fragment]
      omega
    parse := by
      rw [hdrop]
      exact parse_fragment _ _ _ _ _ _ _ _
    version := rfl
    headerLength := rfl
    verifies := by
      rw [hdrop, take_fragment_header]
      exact fragmentHeader_verifies _ _ _ _ _ _ _
    accepted := by
      rw [hdrop]
      exact ipv4_fragment _ _ _ _ _ _ _ _ hmax
    serviceType := rfl
    timeToLive := rfl
    protocol := rfl
    source := rfl
    destination := rfl
    identification := rfl
    fragmentOffset := hread
    fragmentOffset_aligned := by
      rw [hread]
      exact haligned
    moreFragments := fragmentHeader_more _ _ _ _ _ _ _ hoffset
    totalLength := fragmentHeader_totalLength _ _ _ _ _ _ _ hmax
    carried := carried_frame _ _ _ _ _ _ _ _ hmax }

/-- **The frames of a payload** that fits into a datagram are its fragments, one after another,
and what they carry is, in order, the payload. -/
theorem fragmentFrames_pieces (payload : Bytes) (hsize : payload.length ≤ Header.Ipv4.maxPayload) :
    let frames := fragmentFrames c mac destination protocol identification 0
      (pieces c.threshold payload)
    (∀ i f, frames[i]? = some f → ∃ h, FragmentOf c mac destination protocol identification
      payload frames.length i f h) ∧
    (frames.map carried).flatten = payload := by
  intro frames
  have hthreshold := Host.threshold_ne_zero c
  have hflatten := flatten_pieces c.threshold hthreshold payload
  constructor
  · intro i f hf
    obtain ⟨hplace, hframe⟩ := getElem?_fragmentFrames_pieces c mac destination protocol
      identification c.threshold hthreshold payload i hf
    rw [← length_fragmentFrames c mac destination protocol identification 0] at hframe
    rw [hframe]
    exact ⟨_, fragmentOf_frame c mac destination protocol identification payload _ i hsize
      hplace⟩
  · rw [map_carried_fragmentFrames _ _ _ _ _ _ _ (by rw [hflatten]; exact hsize), hflatten]

/-- **A payload that fits into a fragment** is a datagram in one piece. -/
theorem fragmentOf_whole (payload : Bytes) (hsize : payload.length ≤ c.threshold) :
    let f := frame c mac EtherType.ipv4
      (fragment c destination protocol identification 0 false payload)
    carried f = payload ∧
      ∃ h, FragmentOf c mac destination protocol identification payload 1 0 f h := by
  intro f
  have hthreshold := c.threshold_le
  have hmax : payload.length ≤ Header.Ipv4.maxPayload := by
    rw [Header.Ipv4.maxPayload]
    omega
  have hfragment :=
    fragmentOf_frame c mac destination protocol identification payload 1 0 hmax (by omega)
  rw [Nat.zero_mul, List.drop_zero, List.take_of_length_le hsize] at hfragment
  exact ⟨carried_frame _ _ _ _ _ _ _ _ hmax, _, hfragment⟩

end Outbound

namespace Host

/-! ### Datagrams -/

/-- **A fragment whose destination is known** is sent in one frame, if its numbers fit into
their fields. -/
theorem sendFragment_sent (h : Host) (p : Packet) {destination : Ipv4Addr} {mac : MacAddr}
    (protocol : UInt8) (identification : UInt16) (offset : Nat) (more : Bool)
    (hfresh : h.cache.get? destination h.clock = some mac)
    (hsize : p.size ≤ Header.Ipv4.maxPayload) (hoffset : offset / 8 < 65536) :
    Sent h (h.sendFragment p destination protocol identification offset more)
      [Outbound.frame h.config mac EtherType.ipv4
        (Outbound.fragment h.config destination protocol identification offset more
          p.window)] := by
  have hsent := sendPacket_of_fresh h
    (fragmentPacket h.config p destination protocol identification offset more) hfresh
  rw [window_fragmentPacket] at hsent
  rw [sendFragment_eq _ _ _ _ _ _ _ hsize hoffset]
  exact hsent

/-- **A datagram that fits into a fragment**, to an address that is known, is sent in one
frame. -/
theorem sendDatagram_sent_of_le (h : Host) (p : Packet) {destination : Ipv4Addr} {mac : MacAddr}
    (protocol : UInt8) (hfresh : h.cache.get? destination h.clock = some mac)
    (hsize : p.size ≤ h.config.threshold) :
    Sent (h.submitting p destination protocol) (h.sendDatagram p destination protocol)
      [Outbound.frame h.config mac EtherType.ipv4
        (Outbound.fragment h.config destination protocol h.nextId 0 false p.window)] := by
  have hsent := sendPacket_of_fresh (h.submitting p destination protocol)
    (fragmentPacket h.config p destination protocol h.nextId 0 false) hfresh
  rw [window_fragmentPacket] at hsent
  rw [sendDatagram_of_le_threshold h p _ _ hsize]
  exact hsent

/-- The pieces of a datagram whose destination is known are sent in their frames; by
induction on the pieces, with the place of the first one given. -/
theorem sendPieces_sent (h : Host) {destination : Ipv4Addr} {mac : MacAddr} (protocol : UInt8)
    (identification : UInt16) (offset : Nat) (pieces : List Bytes)
    (hfresh : h.cache.get? destination h.clock = some mac)
    (hfit : offset + pieces.flatten.length ≤ Header.Ipv4.maxPayload) :
    Sent h (h.sendPieces destination protocol identification offset pieces)
      (Outbound.fragmentFrames h.config mac destination protocol identification offset
        pieces) := by
  induction pieces generalizing h offset with
  | nil => exact Sent.refl h
  | cons piece rest ih =>
      have hfirst := sendPacket_of_fresh h (fragmentPacket h.config
        (Packet.ofPayload h.config.headRoom piece) destination protocol identification offset
        (!rest.isEmpty)) hfresh
      rw [window_fragmentPacket, Packet.window_ofPayload] at hfirst
      rw [sendPieces_cons _ _ _ _ _ _ _ hfit]
      -- Nothing that the next pieces depend on has changed by then.
      obtain ⟨link, trace, hunchanged⟩ := hfirst.unchanged
      have hrest := ih (h.sendPacket _ destination) (offset + piece.length)
        (by rw [hunchanged]; exact hfresh) (rest_fits hfit)
      rw [show (h.sendPacket _ destination).config = h.config by rw [hunchanged]] at hrest
      exact hfirst.trans hrest

/-- **A datagram whose destination is known** is sent in the frames of its pieces. -/
theorem sendDatagram_sent (h : Host) (p : Packet) {destination : Ipv4Addr} {mac : MacAddr}
    (protocol : UInt8) (hfresh : h.cache.get? destination h.clock = some mac)
    (hsize : p.size ≤ Header.Ipv4.maxPayload) :
    Sent (h.submitting p destination protocol) (h.sendDatagram p destination protocol)
      (Outbound.fragmentFrames h.config mac destination protocol h.nextId 0
        (Outbound.pieces h.config.threshold p.window)) := by
  by_cases hle : p.size ≤ h.config.threshold
  · rw [Outbound.pieces, if_pos (by rw [Packet.length_window]; exact hle)]
    exact sendDatagram_sent_of_le h p protocol hfresh hle
  · have hchunks : Outbound.pieces h.config.threshold p.window =
        Bytes.chunks h.config.threshold p.window := by
      rw [Outbound.pieces, if_neg (by rw [Packet.length_window]; exact hle)]
    rw [sendDatagram_of_threshold_lt h p _ _ hsize (Nat.not_le.1 hle), hchunks]
    exact ((Sent.refl _).log _).trans
      (sendPieces_sent _ _ _ _ _ hfresh (chunks_fit h.config hsize))

/-- **Fragmentation loses nothing.**  A payload that fits into a datagram and whose
destination is known is sent in the least number of frames, at least one; each frame is
the fragment it should be, and what they carry is, in order, the payload.  But for the
link and the trace only the next identification changes, by one modulo 2¹⁶.  A longer
payload is not sent at all, and changes nothing but the trace. -/
theorem sendDatagram_lossless (h : Host) (p : Packet) (destination : Ipv4Addr)
    (protocol : UInt8) :
    (∀ mac, h.cache.get? destination h.clock = some mac → p.size ≤ Header.Ipv4.maxPayload →
      ∃ (frames : List Bytes) (trace : List Record),
        h.sendDatagram p destination protocol =
          { h with link := h.link.sendAll frames, trace, nextId := h.nextId + 1 } ∧
        (h.sendDatagram p destination protocol).frames = h.frames ++ frames ∧
        frames.length = max 1 ((p.size + h.config.threshold - 1) / h.config.threshold) ∧
        (∀ i f, frames[i]? = some f → ∃ header, Outbound.FragmentOf h.config mac destination
          protocol h.nextId p.window frames.length i f header) ∧
        (frames.map Outbound.carried).flatten = p.window) ∧
    (Header.Ipv4.maxPayload < p.size →
      (∃ trace, h.sendDatagram p destination protocol = { h with trace }) ∧
      (h.sendDatagram p destination protocol).frames = h.frames) := by
  have hthreshold := threshold_ne_zero h.config
  constructor
  · intro mac hfresh hsize
    have hsent := sendDatagram_sent h p protocol hfresh hsize
    have hwindow : p.window.length ≤ Header.Ipv4.maxPayload := by
      rw [Packet.length_window]
      exact hsize
    obtain ⟨trace, heq⟩ := hsent.eq_sendAll
    have hcount : (Outbound.fragmentFrames h.config mac destination protocol h.nextId 0
        (Outbound.pieces h.config.threshold p.window)).length =
          (Outbound.pieces h.config.threshold p.window).length :=
      Outbound.length_fragmentFrames _ _ _ _ _ _ _
    refine ⟨Outbound.fragmentFrames h.config mac destination protocol h.nextId 0
      (Outbound.pieces h.config.threshold p.window), trace, heq, ?_, ?_, ?_, ?_⟩
    · rw [hsent.frames]
      exact congrArg (· ++ _) (observed_emit_of_eq_none _ rfl)
    · rw [hcount, Outbound.length_pieces _ hthreshold, Packet.length_window]
    · intro i f hf
      obtain ⟨hplace, hframe⟩ := Outbound.getElem?_fragmentFrames_pieces h.config mac destination
        protocol h.nextId h.config.threshold hthreshold p.window i hf
      rw [← hcount] at hframe
      rw [hframe]
      exact ⟨_, Outbound.fragmentOf_frame h.config mac destination protocol h.nextId p.window _ i
        hwindow hplace⟩
    · rw [Outbound.map_carried_fragmentFrames _ _ _ _ _ _ _ (by
        rw [Outbound.flatten_pieces _ hthreshold]
        exact hwindow), Outbound.flatten_pieces _ hthreshold]
  · intro hsize
    rw [sendDatagram_of_oversized h p _ _ hsize]
    exact ⟨⟨_, rfl⟩, observed_emit_of_eq_none h rfl⟩

/-- A host with the default settings sends 3000 bytes to an address it knows in three
frames. -/
theorem sendDatagram_lossless_of_three_fragments :
    ∃ (h : Host) (frames : List Bytes),
      h.cache.get? ⟨10, 0, 0, 2⟩ h.clock = some ⟨2, 0, 0, 0, 0, 2⟩ ∧
      (h.sendDatagram (Packet.ofPayload 0 (Bytes.zeros 3000)) ⟨10, 0, 0, 2⟩ 17).frames =
        h.frames ++ frames ∧
      frames.length = 3 ∧ (frames.map Outbound.carried).flatten = Bytes.zeros 3000 := by
  obtain ⟨c, hc⟩ : ∃ c, Settings.build {} = .ok c ∧ c.threshold = 1480 := ⟨_, rfl, rfl⟩
  let h : Host :=
    { silent c {} with
      cache := (silent c {}).cache.set ⟨10, 0, 0, 2⟩ ⟨2, 0, 0, 0, 0, 2⟩ 0 }
  have hfresh : h.cache.get? ⟨10, 0, 0, 2⟩ h.clock = some ⟨2, 0, 0, 0, 0, 2⟩ :=
    (ExpiringTable.get?_set _ _ _ _ _).trans (if_pos rfl)
  have hsize : (Packet.ofPayload 0 (Bytes.zeros 3000)).size ≤ Header.Ipv4.maxPayload := by
    rw [Packet.size_ofPayload, Bytes.length_zeros]
    decide
  obtain ⟨frames, trace, -, hframes, hcount, -, hcarried⟩ :=
    (sendDatagram_lossless h (Packet.ofPayload 0 (Bytes.zeros 3000)) ⟨10, 0, 0, 2⟩ 17).1 _ hfresh
      hsize
  refine ⟨h, frames, hfresh, hframes, ?_, ?_⟩
  · rw [hcount, Packet.size_ofPayload, Bytes.length_zeros, show h.config.threshold = 1480 from hc.2]
    decide
  · rw [hcarried, Packet.window_ofPayload]

end Host

end HostNet
