import HostNet.Proofs.Observation
import HostNet.Proofs.Outbound

/-!
# What sending does

One lemma for each function that sends.  Those of the lower layers say exactly what
is handed to the link (`Host.Sent`); those that may have to wait for an address say
so on the condition that it is known, and otherwise no more than that they send
(`Host.Sends`).

* `sendFrame_sent`, `sendArpRequest_sent`, `sendArpReply_sent` — one frame.
* `sendPacket_eq_of_known`, `sendPacket_eq_of_waiting`, `sendPacket_eq_of_free` — the three
  ways of a packet.
* `sendPacket_of_fresh`, `sendPacket_of_unknown` — a packet whose address is known, and
  one that has to wait.
* `sendFragment_eq` — a fragment is a packet with a header, as long as its numbers fit
  into their fields.
* `sendDatagram_of_oversized`, `sendDatagram_of_le_threshold`,
  `sendDatagram_of_threshold_lt` — the three ways of a datagram.
* `sendDatagram_sends`, `sendUnreachable_sends`, `sendSegment_sends` — whatever is asked
  to be sent, it is sending and nothing else.  There is no such statement of
  `sendFragment`, which takes any numbers.
-/

namespace HostNet

namespace Outbound

/-- The frame that asks every station who has `target`. -/
def requestFrame (c : Config) (target : Ipv4Addr) : Bytes :=
  frame c MacAddr.broadcast EtherType.arp
    (Header.Arp.new .request c.mac c.ip MacAddr.zero target).bytes

/-- The frame that tells the station `mac`, which has `target`, where the host is. -/
def replyFrame (c : Config) (target : Ipv4Addr) (mac : MacAddr) : Bytes :=
  frame c mac EtherType.arp (Header.Arp.new .reply c.mac c.ip mac target).bytes

end Outbound

namespace Host

/-! ### Frames -/

theorem transmit_sent (h : Host) (frame : Bytes) : Sent h (h.transmit frame) [frame] := by
  have htransmitted (fault : Option LinkError) :
      Sent h ({ h with link := (h.link.send frame).1 }.emit (.transmitted frame fault))
        [frame] := {
    unchanged := ⟨(h.link.send frame).1, ⟨h.clock, .transmitted frame fault⟩ :: h.trace, rfl⟩
    link := rfl
    frames := observed_emit Event.frame? _ _
    kinds := (Recorded.of_trace_eq rfl).emit trivial }
  cases hfault : (h.link.send frame).2 with
  | none =>
      have heq : h.transmit frame =
          { h with link := (h.link.send frame).1 }.emit (.transmitted frame none) := by
        rw [transmit]
        simp only [hfault]
      rw [heq]
      exact htransmitted none
  | some cause =>
      have heq : h.transmit frame =
          ({ h with link := (h.link.send frame).1 }.emit (.transmitted frame (some cause))).log
            (.sendFailed frame.length cause) := by
        rw [transmit]
        simp only [hfault]
      rw [heq]
      exact (htransmitted (some cause)).log _

theorem sendFrame_eq (h : Host) (p : Packet) (destination : MacAddr) (etherType : UInt16) :
    h.sendFrame p destination etherType =
      h.transmit (Outbound.frame h.config destination etherType p.window) := by
  obtain ⟨q, hq, hwindow⟩ := Outbound.framed_eq_frame h.config destination etherType p
  rw [sendFrame, hq, ← hwindow]

/-- **Sending a frame** hands exactly that frame to the link. -/
theorem sendFrame_sent (h : Host) (p : Packet) (destination : MacAddr) (etherType : UInt16) :
    Sent h (h.sendFrame p destination etherType)
      [Outbound.frame h.config destination etherType p.window] := by
  rw [sendFrame_eq]
  exact transmit_sent h _

/-! ### Resolution of addresses -/

theorem sendArp_sent (h : Host) (arp : Header.Arp) (destination : MacAddr) :
    Sent h (h.sendArp arp destination)
      [Outbound.frame h.config destination EtherType.arp arp.bytes] := by
  have hsent := sendFrame_sent h (Packet.ofPayload h.config.headRoom arp.bytes) destination
    EtherType.arp
  rw [Packet.window_ofPayload] at hsent
  exact hsent

theorem sendArpRequest_sent (h : Host) (target : Ipv4Addr) :
    Sent h (h.sendArpRequest target) [Outbound.requestFrame h.config target] :=
  ((Sent.refl h).log (.asking target h.config.ip)).trans (sendArp_sent _ _ _)

theorem sendArpReply_sent (h : Host) (target : Ipv4Addr) (mac : MacAddr) :
    Sent h (h.sendArpReply target mac) [Outbound.replyFrame h.config target mac] :=
  ((Sent.refl h).log (.telling h.config.ip h.config.mac target)).trans (sendArp_sent _ _ _)

section

variable (h : Host) (p : Packet) {target : Ipv4Addr}

theorem sendPacket_eq_of_known {mac : MacAddr}
    (hcache : h.cache.get? target h.clock = some mac) :
    h.sendPacket p target =
      (h.emit (.dispatched target p.window (.sent mac))).sendFrame p mac EtherType.ipv4 := by
  rw [sendPacket, hcache]

theorem sendPacket_eq_of_waiting {waiting : Packet}
    (hcache : h.cache.get? target h.clock = none)
    (hheld : h.held.get? target h.clock = some waiting) :
    h.sendPacket p target =
      (h.emit (.dispatched target p.window .dropped)).log (.alreadyResolving p.size target) := by
  rw [sendPacket, hcache, hheld]

theorem sendPacket_eq_of_free (hcache : h.cache.get? target h.clock = none)
    (hheld : h.held.get? target h.clock = none) :
    h.sendPacket p target =
      ({ h with held := h.held.set target p h.clock }.emit
        (.dispatched target p.window .held)).sendArpRequest target := by
  rw [sendPacket, hcache, hheld]

/-- **A packet whose address is known** is sent at once, in one frame. -/
theorem sendPacket_of_fresh {mac : MacAddr}
    (hfresh : h.cache.get? target h.clock = some mac) :
    Sent h (h.sendPacket p target) [Outbound.frame h.config mac EtherType.ipv4 p.window] := by
  rw [sendPacket_eq_of_known h p hfresh]
  exact ((Sent.refl h).emit (e := .dispatched target p.window (.sent mac)) trivial rfl).trans
    (sendFrame_sent _ _ _ _)

/-- **A packet whose address is not known** waits for it, and is asked for, unless
another waits already. -/
theorem sendPacket_of_unknown (hcache : h.cache.get? target h.clock = none)
    (hheld : h.held.get? target h.clock = none) :
    Sent { h with held := h.held.set target p h.clock } (h.sendPacket p target)
      [Outbound.requestFrame h.config target] := by
  rw [sendPacket_eq_of_free h p hcache hheld]
  exact ((Sent.refl { h with held := h.held.set target p h.clock }).emit
    (e := .dispatched target p.window .held) trivial rfl).trans (sendArpRequest_sent _ _)

end

/-- The packets that wait may change without anything being recorded. -/
theorem sends_of_held (h : Host) (held : ExpiringTable Ipv4Addr Packet) :
    Sends h { h with held } where
  unchanged := ⟨h.link, h.trace, held, h.nextId, rfl⟩
  kinds := Recorded.of_trace_eq rfl

theorem sendPacket_sends (h : Host) (p : Packet) (target : Ipv4Addr) :
    Sends h (h.sendPacket p target) := by
  cases hcache : h.cache.get? target h.clock with
  | some mac => exact (sendPacket_of_fresh h p hcache).sends
  | none =>
      cases hheld : h.held.get? target h.clock with
      | none => exact (sends_of_held h _).trans (sendPacket_of_unknown h p hcache hheld).sends
      | some waiting =>
          rw [sendPacket_eq_of_waiting h p hcache hheld]
          exact ((Sends.refl h).emit (e := .dispatched target p.window .dropped) trivial).log _

/-! ### IPv4 -/

theorem noteNarrowing_of_lt (h : Host) {value : Nat} (hlt : value < 65536) :
    h.noteNarrowing value = h := by
  rw [noteNarrowing, Checked.word16_of_lt _ hlt]

/-- The packet that carries the window of `p` as a fragment. -/
def fragmentPacket (c : Config) (p : Packet) (destination : Ipv4Addr) (protocol : UInt8)
    (identification : UInt16) (offset : Nat) (more : Bool) : Packet :=
  p.prepend
    (Outbound.fragmentHeader c destination protocol identification offset more p.size).bytes

theorem window_fragmentPacket (c : Config) (p : Packet) (destination : Ipv4Addr)
    (protocol : UInt8) (identification : UInt16) (offset : Nat) (more : Bool) :
    (fragmentPacket c p destination protocol identification offset more).window =
      Outbound.fragment c destination protocol identification offset more p.window := by
  rw [fragmentPacket, Packet.window_prepend, Outbound.fragment, Packet.length_window]

/-- A fragment whose numbers fit into their fields is a packet with a header. -/
theorem sendFragment_eq (h : Host) (p : Packet) (destination : Ipv4Addr) (protocol : UInt8)
    (identification : UInt16) (offset : Nat) (more : Bool)
    (hsize : p.size ≤ Header.Ipv4.maxPayload) (hoffset : offset / 8 < 65536) :
    h.sendFragment p destination protocol identification offset more =
      h.sendPacket
        (fragmentPacket h.config p destination protocol identification offset more)
        destination := by
  have htotal : Header.Ipv4.size + p.size < 65536 := by
    simp only [Header.Ipv4.size, Header.Ipv4.maxPayload] at *
    omega
  simp only [sendFragment, noteNarrowing_of_lt h htotal, noteNarrowing_of_lt h hoffset]
  rfl

/-- Up to the end of the longest datagram, the first of some pieces is a packet with a header,
and the others are sent behind it. -/
theorem sendPieces_cons (h : Host) (destination : Ipv4Addr) (protocol : UInt8)
    (identification : UInt16) (offset : Nat) (piece : Bytes) (rest : List Bytes)
    (hfit : offset + (piece :: rest).flatten.length ≤ Header.Ipv4.maxPayload) :
    h.sendPieces destination protocol identification offset (piece :: rest) =
      (h.sendPacket (fragmentPacket h.config (Packet.ofPayload h.config.headRoom piece)
        destination protocol identification offset (!rest.isEmpty)) destination).sendPieces
          destination protocol identification (offset + piece.length) rest := by
  rw [List.flatten_cons, List.length_append] at hfit
  have hsize : (Packet.ofPayload h.config.headRoom piece).size ≤ Header.Ipv4.maxPayload := by
    rw [Packet.size_ofPayload]
    omega
  have hoffset : offset / 8 < 65536 := by
    simp only [Header.Ipv4.maxPayload] at hfit
    omega
  rw [sendPieces, sendFragment_eq _ _ _ _ _ _ _ hsize hoffset]

/-- The pieces behind the first one end where all of them do. -/
theorem rest_fits {offset : Nat} {piece : Bytes} {rest : List Bytes}
    (hfit : offset + (piece :: rest).flatten.length ≤ Header.Ipv4.maxPayload) :
    offset + piece.length + rest.flatten.length ≤ Header.Ipv4.maxPayload := by
  rw [List.flatten_cons, List.length_append] at hfit
  omega

/-- The pieces of a datagram are sent one after another; by induction on them, with
the place of the first one given up to the end of the longest datagram. -/
theorem sendPieces_sends (h : Host) (destination : Ipv4Addr) (protocol : UInt8)
    (identification : UInt16) (offset : Nat) (pieces : List Bytes)
    (hfit : offset + pieces.flatten.length ≤ Header.Ipv4.maxPayload) :
    Sends h (h.sendPieces destination protocol identification offset pieces) := by
  induction pieces generalizing h offset with
  | nil => exact Sends.refl h
  | cons piece rest ih =>
      rw [sendPieces_cons _ _ _ _ _ _ _ hfit]
      exact (sendPacket_sends _ _ _).trans (ih _ _ (rest_fits hfit))

/-- The host as it cuts up a datagram: it has given the datagram its identification. -/
def submitting (h : Host) (p : Packet) (destination : Ipv4Addr) (protocol : UInt8) : Host :=
  { h with nextId := h.nextId + 1 }.emit (.submitted h.nextId p.window destination protocol)

theorem sends_of_submitting (h : Host) (p : Packet) (destination : Ipv4Addr)
    (protocol : UInt8) : Sends h (h.submitting p destination protocol) where
  unchanged := ⟨h.link, _, h.held, h.nextId + 1, rfl⟩
  kinds := (Recorded.of_trace_eq rfl).emit trivial

/-- A datagram that is too long is dropped. -/
theorem sendDatagram_of_oversized (h : Host) (p : Packet) (destination : Ipv4Addr)
    (protocol : UInt8) (hsize : Header.Ipv4.maxPayload < p.size) :
    h.sendDatagram p destination protocol = h.log (.ipv4Oversized p.size destination) :=
  if_pos hsize

/-- A datagram that fits into a frame is one fragment. -/
theorem sendDatagram_of_le_threshold (h : Host) (p : Packet) (destination : Ipv4Addr)
    (protocol : UInt8) (hsize : p.size ≤ h.config.threshold) :
    h.sendDatagram p destination protocol =
      (h.submitting p destination protocol).sendPacket
        (fragmentPacket h.config p destination protocol h.nextId 0 false) destination := by
  have hmax : p.size ≤ Header.Ipv4.maxPayload := by
    have hle := h.config.threshold_le
    simp only [Header.Ipv4.maxPayload]
    omega
  rw [sendDatagram, if_neg (Nat.not_lt.2 hmax)]
  simp only []
  rw [if_pos hsize, sendFragment_eq _ _ _ _ _ _ _ hmax (by decide)]
  rfl

/-- A longer datagram is cut into pieces. -/
theorem sendDatagram_of_threshold_lt (h : Host) (p : Packet) (destination : Ipv4Addr)
    (protocol : UInt8) (hmax : p.size ≤ Header.Ipv4.maxPayload)
    (hsize : h.config.threshold < p.size) :
    h.sendDatagram p destination protocol =
      ((h.submitting p destination protocol).log
        (.fragmenting p.size h.nextId destination
          ((p.size + h.config.threshold - 1) / h.config.threshold))).sendPieces destination
            protocol h.nextId 0 (Bytes.chunks h.config.threshold p.window) := by
  rw [sendDatagram, if_neg (Nat.not_lt.2 hmax)]
  simp only []
  rw [if_neg (Nat.not_le.2 hsize)]
  rfl

theorem threshold_ne_zero (c : Config) : c.threshold ≠ 0 := by
  have hge := c.threshold_ge
  omega

/-- The pieces of a datagram end where it does. -/
theorem chunks_fit (c : Config) {p : Packet} (hmax : p.size ≤ Header.Ipv4.maxPayload) :
    0 + (Bytes.chunks c.threshold p.window).flatten.length ≤ Header.Ipv4.maxPayload := by
  rw [Bytes.flatten_chunks _ (threshold_ne_zero c), Packet.length_window, Nat.zero_add]
  exact hmax

/-- **Whatever is to be sent as a datagram**, it is sending and nothing else. -/
theorem sendDatagram_sends (h : Host) (p : Packet) (destination : Ipv4Addr)
    (protocol : UInt8) : Sends h (h.sendDatagram p destination protocol) := by
  by_cases hmax : p.size ≤ Header.Ipv4.maxPayload
  · by_cases hsize : p.size ≤ h.config.threshold
    · rw [sendDatagram_of_le_threshold h p _ _ hsize]
      exact (sends_of_submitting h p _ _).trans (sendPacket_sends _ _ _)
    · rw [sendDatagram_of_threshold_lt h p _ _ hmax (Nat.not_le.1 hsize)]
      exact ((sends_of_submitting h p _ _).log _).trans
        (sendPieces_sends _ _ _ _ _ _ (chunks_fit h.config hmax))
  · rw [sendDatagram_of_oversized h p _ _ (Nat.not_le.1 hmax)]
    exact (Sends.refl h).log _

/-! ### ICMP and UDP -/

/-- The message that a datagram could not be delivered is sent as a datagram. -/
theorem sendUnreachable_eq (h : Host) (undelivered : Packet) (target : Ipv4Addr)
    (what : Unreachable) :
    h.sendUnreachable undelivered target what =
      (h.log (.unreachable what target)).sendDatagram
        (Packet.ofPayload h.config.headRoom
          (Outbound.unreachableMessage undelivered.window what)) target Protocol.icmp := by
  rw [sendUnreachable, Outbound.unreachable_eq_unreachableMessage]
  rfl

theorem sendUnreachable_sends (h : Host) (undelivered : Packet) (target : Ipv4Addr)
    (what : Unreachable) : Sends h (h.sendUnreachable undelivered target what) := by
  rw [sendUnreachable_eq]
  exact ((Sends.refl h).log (.unreachable what target)).trans (sendDatagram_sends _ _ _ _)

theorem sendSegment_sends (h : Host) (p : Packet) (sourcePort : UInt16)
    (destination : Ipv4Addr) (port : UInt16) :
    Sends h (h.sendSegment p sourcePort destination port) := by
  unfold sendSegment
  split
  · exact (Sends.refl h).log _
  · rename_i hmax
    obtain ⟨q, hq, -⟩ := Outbound.udpSegment_eq_segment h.config.ip destination sourcePort port p
      (Nat.not_lt.1 hmax)
    rw [hq]
    exact sendDatagram_sends _ _ _ _

end Host

end HostNet
