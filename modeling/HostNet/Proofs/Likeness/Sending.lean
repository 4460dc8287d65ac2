import HostNet.Proofs.Likeness.Relation

/-!
# Sending in step

Each function that sends looks at a packet through its window only, so that hosts in step
that are given packets with the same window stay in step.

* `InStep.transmit`, `InStep.sendFrame` — a frame.
* `InStep.sendPacket` — a packet, which may have to wait, in which case what is kept of it
  differs outside of its window.
* `InStep.sendFragment`, `InStep.sendDatagram` — fragments and datagrams.
* `InStep.sendUnreachable`, `InStep.sendSegment` — what is sent as a datagram.
-/

namespace HostNet

theorem Packet.size_congr {p q : Packet} (hwindow : q.window = p.window) : q.size = p.size := by
  rw [← length_window, hwindow, length_window]

/-- A payload is the window of a fresh packet, whatever room is kept before it. -/
theorem Packet.window_ofPayload_eq (headRoom headRoom' : Nat) (payload : Bytes) :
    (ofPayload headRoom' payload).window = (ofPayload headRoom payload).window := by
  rw [window_ofPayload, window_ofPayload]

namespace Likeness.InStep

open Host (sendFrame_eq sendDatagram_of_oversized sendDatagram_of_le_threshold
  sendDatagram_of_threshold_lt sendUnreachable_eq window_fragmentPacket)

variable {l : Likeness} {before before' : List Record} {h h' : Host}
  (s : l.InStep before before' h h')
include s

/-! ### Frames -/

theorem transmit (frame : Bytes) :
    l.InStep before before' (h.transmit frame) (h'.transmit frame) := by
  have hsent : l.InStep before before' { h with link := (h.link.send frame).1 }
      { h' with link := (h'.link.send frame).1 } := s.setLink (by rw [s.link])
  have hfault' : (h'.link.send frame).2 = (h.link.send frame).2 := by rw [s.link]
  unfold Host.transmit
  cases hfault : (h.link.send frame).2 with
  | none =>
      rw [hfault] at hfault'
      simpa only [hfault, hfault'] using hsent.emit (.transmitted frame none)
  | some cause =>
      rw [hfault] at hfault'
      simpa only [hfault, hfault'] using
        (hsent.emit (.transmitted frame (some cause))).log (.sendFailed frame.length cause)

/-- **Only the window of a packet is sent**, with padding that is written afresh. -/
theorem sendFrame {p q : Packet} (hwindow : q.window = p.window) (destination : MacAddr)
    (etherType : UInt16) :
    l.InStep before before' (h.sendFrame p destination etherType)
      (h'.sendFrame q destination etherType) := by
  rw [sendFrame_eq, sendFrame_eq, s.frame, hwindow]
  exact s.transmit _

theorem sendArp (arp : Header.Arp) (destination : MacAddr) :
    l.InStep before before' (h.sendArp arp destination) (h'.sendArp arp destination) :=
  s.sendFrame (Packet.window_ofPayload_eq _ _ _) _ _

theorem sendArpRequest (target : Ipv4Addr) :
    l.InStep before before' (h.sendArpRequest target) (h'.sendArpRequest target) := by
  unfold Host.sendArpRequest
  rw [s.ip, s.mac]
  exact (s.log _).sendArp _ _

theorem sendArpReply (target : Ipv4Addr) (mac : MacAddr) :
    l.InStep before before' (h.sendArpReply target mac) (h'.sendArpReply target mac) := by
  unfold Host.sendArpReply
  rw [s.ip, s.mac]
  exact (s.log _).sendArp _ _

/-! ### Packets -/

/-- The packets that wait for an address are the same in their windows. -/
theorem get?_held (target : Ipv4Addr) :
    (h'.held.get? target h'.clock).map Packet.window =
      (h.held.get? target h.clock).map Packet.window := by
  rw [← ExpiringTable.get?_map, ← ExpiringTable.get?_map, s.held, s.clock]

/-- Packets with the same window may be kept, each where the other is. -/
theorem hold {p q : Packet} (hwindow : q.window = p.window) (target : Ipv4Addr) :
    l.InStep before before' { h with held := h.held.set target p h.clock }
      { h' with held := h'.held.set target q h'.clock } :=
  { s with
    held := by
      rw [← ExpiringTable.set_map, ← ExpiringTable.set_map, s.held, s.clock, hwindow]
    answers := s.answers.congr rfl rfl rfl }

/-- **A packet is sent, kept or dropped by its address alone**, and only its window is seen. -/
theorem sendPacket {p q : Packet} (hwindow : q.window = p.window) (target : Ipv4Addr) :
    l.InStep before before' (h.sendPacket p target) (h'.sendPacket q target) := by
  have hcache' : h'.cache.get? target h'.clock = h.cache.get? target h.clock := by
    rw [s.cache, s.clock]
  have hheld' := s.get?_held target
  have hsize := Packet.size_congr hwindow
  cases hcache : h.cache.get? target h.clock with
  | some mac =>
      rw [hcache] at hcache'
      rw [Host.sendPacket_eq_of_known h p hcache, Host.sendPacket_eq_of_known h' q hcache', hwindow]
      exact (s.emit _).sendFrame hwindow _ _
  | none =>
      rw [hcache] at hcache'
      cases hheld : h.held.get? target h.clock with
      | some waiting =>
          rw [hheld] at hheld'
          obtain ⟨waiting', hwaiting', -⟩ := Option.map_eq_some_iff.1 hheld'
          rw [Host.sendPacket_eq_of_waiting h p hcache hheld,
            Host.sendPacket_eq_of_waiting h' q hcache' hwaiting', hwindow, hsize]
          exact (s.emit _).log _
      | none =>
          rw [hheld] at hheld'
          rw [Host.sendPacket_eq_of_free h p hcache hheld,
            Host.sendPacket_eq_of_free h' q hcache' (Option.map_eq_none_iff.1 hheld'), hwindow]
          exact ((s.hold hwindow target).emit _).sendArpRequest target

/-! ### Fragments and datagrams -/

/-- **A header is written over whatever the storage held** before the window. -/
theorem sendFragment {p q : Packet} (hwindow : q.window = p.window) (destination : Ipv4Addr)
    (protocol : UInt8) (identification : UInt16) (offset : Nat) (more : Bool) :
    l.InStep before before' (h.sendFragment p destination protocol identification offset more)
      (h'.sendFragment q destination protocol identification offset more) := by
  have hsize := Packet.size_congr hwindow
  unfold Host.sendFragment
  rw [hsize, s.fragmentHeader]
  refine ((s.noteNarrowing _).noteNarrowing _).sendPacket ?_ destination
  rw [Packet.window_prepend, Packet.window_prepend, hwindow]

/-- By induction on the pieces. -/
theorem sendPieces (destination : Ipv4Addr) (protocol : UInt8) (identification : UInt16)
    (offset : Nat) (pieces : List Bytes) :
    l.InStep before before' (h.sendPieces destination protocol identification offset pieces)
      (h'.sendPieces destination protocol identification offset pieces) := by
  induction pieces generalizing h h' offset with
  | nil => exact s
  | cons piece rest ih =>
      exact ih (s.sendFragment (Packet.window_ofPayload_eq _ _ piece) _ _ _ _ _) _

theorem submitting {p q : Packet} (hwindow : q.window = p.window) (destination : Ipv4Addr)
    (protocol : UInt8) :
    l.InStep before before' (h.submitting p destination protocol)
      (h'.submitting q destination protocol) := by
  have hnext : l.InStep before before' { h with nextId := h.nextId + 1 }
      { h' with nextId := h.nextId + 1 } :=
    { s with
      nextId := rfl
      answers := s.answers.congr rfl rfl rfl }
  unfold Host.submitting
  rw [s.nextId, hwindow]
  exact hnext.emit _

/-- **A datagram** is cut up by what is in its window. -/
theorem sendDatagram {p q : Packet} (hwindow : q.window = p.window) (destination : Ipv4Addr)
    (protocol : UInt8) :
    l.InStep before before' (h.sendDatagram p destination protocol)
      (h'.sendDatagram q destination protocol) := by
  have hsize := Packet.size_congr hwindow
  have hsubmitted := s.submitting hwindow destination protocol
  by_cases hmax : p.size ≤ Header.Ipv4.maxPayload
  · by_cases hfit : p.size ≤ h.config.threshold
    · rw [sendDatagram_of_le_threshold h p _ _ hfit,
        sendDatagram_of_le_threshold h' q _ _ (by rw [hsize, s.threshold]; exact hfit)]
      refine hsubmitted.sendPacket ?_ destination
      rw [window_fragmentPacket, window_fragmentPacket, hwindow, s.nextId, Outbound.fragment,
        Outbound.fragment, s.fragmentHeader]
    · rw [sendDatagram_of_threshold_lt h p _ _ hmax (Nat.not_le.1 hfit),
        sendDatagram_of_threshold_lt h' q _ _ (by rw [hsize]; exact hmax)
          (by rw [hsize, s.threshold]; exact Nat.not_le.1 hfit), hwindow, hsize, s.nextId,
        s.threshold]
      exact (hsubmitted.log _).sendPieces _ _ _ _ _
  · rw [sendDatagram_of_oversized h p _ _ (Nat.not_le.1 hmax),
      sendDatagram_of_oversized h' q _ _ (by rw [hsize]; exact Nat.not_le.1 hmax), hsize]
    exact s.log _

/-! ### ICMP and UDP -/

/-- **What is quoted of a datagram** is in its window, or zero. -/
theorem sendUnreachable {p q : Packet} (hwindow : q.window = p.window) (target : Ipv4Addr)
    (what : Unreachable) :
    l.InStep before before' (h.sendUnreachable p target what)
      (h'.sendUnreachable q target what) := by
  rw [sendUnreachable_eq, sendUnreachable_eq, hwindow]
  exact (s.log _).sendDatagram (Packet.window_ofPayload_eq _ _ _) target Protocol.icmp

theorem sendSegment {p q : Packet} (hwindow : q.window = p.window) (sourcePort : UInt16)
    (destination : Ipv4Addr) (port : UInt16) :
    l.InStep before before' (h.sendSegment p sourcePort destination port)
      (h'.sendSegment q sourcePort destination port) := by
  have hsize := Packet.size_congr hwindow
  unfold Host.sendSegment
  rw [hsize, s.ip]
  by_cases hmax : Header.Udp.maxDatagram < p.size
  · rw [if_pos hmax, if_pos hmax]
    exact s.log _
  · obtain ⟨segment, hsegment, hsent⟩ := Outbound.udpSegment_eq_segment h.config.ip destination
      sourcePort port p (Nat.not_lt.1 hmax)
    obtain ⟨segment', hsegment', hsent'⟩ := Outbound.udpSegment_eq_segment h.config.ip destination
      sourcePort port q (by rw [hsize]; exact Nat.not_lt.1 hmax)
    rw [if_neg hmax, if_neg hmax, hsegment, hsegment']
    refine s.sendDatagram ?_ destination Protocol.udp
    rw [hsent, hsent', hwindow]

theorem sendUdp (payload : Bytes) (sourcePort : UInt16) (destination : Ipv4Addr)
    (port : UInt16) :
    l.InStep before before' (h.sendUdp payload sourcePort destination port)
      (h'.sendUdp payload sourcePort destination port) :=
  s.sendSegment (Packet.window_ofPayload_eq _ _ payload) _ _ _

end Likeness.InStep

end HostNet
