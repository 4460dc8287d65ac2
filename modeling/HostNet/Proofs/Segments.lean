import HostNet.Proofs.Acceptance
import HostNet.Proofs.Delivery

/-!
# Every UDP segment that is sent verifies

The checksum of a UDP segment is taken before the segment is cut into fragments, over a
header whose check field is zero, and then written into that.  Here the frames that leave the
host are put together again, and the segment in them is checked the way its receiver does.

* `Outbound.SegmentOf` — all that is true of the segment that carries some data.
* `segmentOf_segment` — that it is true of the segment which is built.
* `sendSegment_verifies` — and of what the frames carry, whatever number of them it takes.

### Why the check field is never zero

A receiver takes a check field of zero for a segment without a checksum.  A checksum that
comes out as zero is sent as all ones, which is the other encoding of zero, so that the sum of
the segment is the same.
-/

namespace HostNet

namespace Outbound

/-- **A segment carries some data between two ports**: the fields of its header say so, its
length is that of the header and the data, and it has a checksum, which verifies with the
addresses of the two hosts. -/
structure SegmentOf (source destination : Ipv4Addr) (sourcePort port : UInt16)
    (data segment : Bytes) : Prop where
  sourcePort : segment.wordAt 0 = sourcePort
  port : segment.wordAt 2 = port
  declared : (segment.wordAt 4).toNat = segment.length
  length : segment.length = 8 + data.length
  data : segment.drop 8 = data
  check : segment.wordAt 6 ≠ 0
  sum : Checksum.transport Protocol.udp segment source destination = 0

theorem wireCheck_ne_zero (sum : UInt16) : Header.Udp.wireCheck sum ≠ 0 := by
  unfold Header.Udp.wireCheck
  split
  · decide
  · assumption

/-- **The segment that is built** is one that its receiver finds nothing wrong with, so that its
checksum verifies. -/
theorem segmentOf_segment (source destination : Ipv4Addr) (sourcePort port : UInt16)
    (data : Bytes) (hsize : data.length ≤ Header.Udp.maxDatagram) :
    SegmentOf source destination sourcePort port data
      (segment source destination sourcePort port data) := by
  have hword : Header.Udp.size + data.length < 65536 := by
    simp only [Header.Udp.maxDatagram, Header.Ipv4.maxPayload, Header.Udp.size] at *
    omega
  obtain ⟨valid, hread⟩ := (Inbound.udp_eq_ok_iff destination source _ _).1
    (Inbound.udp_segment destination source sourcePort port data hword)
  have hlength : (segmentHeader source destination sourcePort port data).length.toNat =
      (segment source destination sourcePort port data).length :=
    (Nat.mod_eq_of_lt hword).trans (length_segment _ _ _ _ _).symm
  have hcheck : (segmentHeader source destination sourcePort port data).check ≠ 0 :=
    wireCheck_ne_zero _
  have hsum := valid.check
  rw [← hread, hlength, List.take_length] at hsum
  exact {
    sourcePort := congrArg Header.Udp.source hread.symm
    port := congrArg Header.Udp.destination hread.symm
    declared := (congrArg (fun header => header.length.toNat) hread.symm).trans hlength
    length := length_segment _ _ _ _ _
    data := List.drop_left' (Header.Udp.length_bytes _)
    check := by
      rw [hread] at hcheck
      exact hcheck
    sum := hsum.resolve_left hcheck }

end Outbound

namespace Host

open Outbound (FragmentOf SegmentOf)

/-- **Every UDP segment that is sent verifies.**  Data that fits into a UDP datagram, for a
destination that is known, is sent in frames which are the fragments of one datagram, with
one identification; and what they carry is, put together, a segment with the two ports, its
length, the data and a check field that is not zero, whose checksum verifies.  But for the link
and the trace only the next identification changes, by one.  More data is not sent at all, and
changes nothing but the trace. -/
theorem sendSegment_verifies (h : Host) (p : Packet) (sourcePort : UInt16)
    (destination : Ipv4Addr) (port : UInt16) :
    (∀ mac, h.cache.get? destination h.clock = some mac → p.size ≤ Header.Udp.maxDatagram →
      ∃ (frames : List Bytes) (trace : List Record) (segment : Bytes),
        h.sendSegment p sourcePort destination port =
          { h with link := h.link.sendAll frames, trace, nextId := h.nextId + 1 } ∧
        (h.sendSegment p sourcePort destination port).frames = h.frames ++ frames ∧
        (∀ i f, frames[i]? = some f → ∃ header, FragmentOf h.config mac destination
          Protocol.udp h.nextId segment frames.length i f header) ∧
        (frames.map Outbound.carried).flatten = segment ∧
        SegmentOf h.config.ip destination sourcePort port p.window segment) ∧
    (Header.Udp.maxDatagram < p.size →
      (∃ trace, h.sendSegment p sourcePort destination port = { h with trace }) ∧
      (h.sendSegment p sourcePort destination port).frames = h.frames) := by
  constructor
  · intro mac hfresh hsize
    obtain ⟨q, hwindow, heq⟩ := sendSegment_eq h p sourcePort destination port hsize
    have hsegment := Outbound.segmentOf_segment h.config.ip destination sourcePort port p.window
      (by rw [Packet.length_window]; exact hsize)
    rw [← hwindow] at hsegment
    have hlength : q.window.length ≤ Header.Ipv4.maxPayload := by
      rw [hsegment.length, Packet.length_window]
      simp only [Header.Udp.maxDatagram, Header.Ipv4.maxPayload, Header.Udp.size] at *
      omega
    have hsent := sendDatagram_sent h q Protocol.udp hfresh
      (by rw [← Packet.length_window]; exact hlength)
    obtain ⟨trace, hunchanged⟩ := hsent.eq_sendAll
    obtain ⟨hfragments, hcarried⟩ := Outbound.fragmentFrames_pieces h.config mac destination
      Protocol.udp h.nextId q.window hlength
    refine ⟨_, trace, q.window, heq.trans hunchanged, ?_, hfragments, hcarried, hsegment⟩
    rw [heq, hsent.frames]
    exact congrArg (· ++ _) (observed_emit_of_eq_none h rfl)
  · intro hsize
    rw [sendSegment, if_pos hsize]
    exact ⟨⟨_, rfl⟩, observed_emit_of_eq_none h rfl⟩

/-- A host sends 3001 bytes to an address it knows, in a segment of odd length, and nothing at all
of 65508 bytes. -/
theorem sendSegment_verifies_of_odd_length :
    ∃ (h : Host) (frames : List Bytes),
      (h.sendSegment (Packet.ofPayload 0 (Bytes.zeros 3001)) 9 ⟨10, 0, 0, 2⟩ 7).frames =
        h.frames ++ frames ∧
      SegmentOf h.config.ip ⟨10, 0, 0, 2⟩ 9 7 (Bytes.zeros 3001)
        (frames.map Outbound.carried).flatten ∧
      (h.sendSegment (Packet.ofPayload 0 (Bytes.zeros 65508)) 9 ⟨10, 0, 0, 2⟩ 7).frames =
        h.frames := by
  obtain ⟨c, -⟩ : ∃ c, Settings.build {} = .ok c := ⟨_, rfl⟩
  let h : Host :=
    { silent c {} with
      cache := (silent c {}).cache.set ⟨10, 0, 0, 2⟩ ⟨2, 0, 0, 0, 0, 2⟩ 0 }
  have hfresh : h.cache.get? ⟨10, 0, 0, 2⟩ h.clock = some ⟨2, 0, 0, 0, 0, 2⟩ :=
    (ExpiringTable.get?_set _ _ _ _ _).trans (if_pos rfl)
  have hfits : (Packet.ofPayload 0 (Bytes.zeros 3001)).size ≤ Header.Udp.maxDatagram := by
    rw [Packet.size_ofPayload, Bytes.length_zeros]
    decide
  have hoversized : Header.Udp.maxDatagram < (Packet.ofPayload 0 (Bytes.zeros 65508)).size := by
    rw [Packet.size_ofPayload, Bytes.length_zeros]
    decide
  obtain ⟨frames, -, segment, -, hframes, -, hcarried, hsegment⟩ :=
    (sendSegment_verifies h _ 9 ⟨10, 0, 0, 2⟩ 7).1 _ hfresh hfits
  rw [Packet.window_ofPayload, ← hcarried] at hsegment
  exact ⟨h, frames, hframes, hsegment, ((sendSegment_verifies h _ 9 _ 7).2 hoversized).2⟩

end Host

end HostNet
