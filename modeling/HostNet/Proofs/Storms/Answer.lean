import HostNet.Proofs.Storms.Weight

/-!
# What a host answers with

A host without scripts answers a frame with frames that weigh less than the one it was
given.  A packet that waits is a frame that is still to come, so what waits at a host is
weighed as well, and what is sent is paid for either by the frame or by what waited.

* `Weight.packet`, `Host.backlog` — the weights of a packet that waits, and of all of them.
* `Host.Spends peer budget h h'` — since `h`, frames were sent that weigh no more than
  `budget` and what waits no more.
* `sendPacket_spends`, `sendUnreachable_spends` — what it takes to send something.
* `receiveArp_spends`, `receiveIcmp_spends`, `receiveUdp_spends`, `receiveIpv4_spends`,
  `receiveFrame_spends` — what is received costs less than it weighs.

### Why a message in two fragments costs no more than 5

If the address is known, the first fragment weighs 1 and the second one no more than 4.  If
it is not, the first one waits and is asked for, which makes 3, and the second one is
dropped as another waits already.
-/

namespace HostNet

/-- The weight of the frame that a packet makes, whatever station it is sent to. -/
def Weight.packet (peer : Ipv4Addr) (c : Config) (p : Packet) : Nat :=
  ipv4 peer (p.window ++ Bytes.zeros (c.minPayload - p.window.length))

theorem Weight.frame_packet (peer : Ipv4Addr) (c : Config) (mac : MacAddr) (p : Packet) :
    frame peer (Outbound.frame c mac EtherType.ipv4 p.window) = packet peer c p := by
  rw [frame_frame, payload, if_pos rfl, packet]

/-- A fragment of an ICMP message, as it is sent. -/
theorem Weight.packet_fragment_le (peer : Ipv4Addr) (c : Config) (p : Packet)
    (destination : Ipv4Addr) (identification : UInt16) (offset : Nat) (more : Bool)
    (hsize : p.size ≤ Header.Ipv4.maxPayload) :
    packet peer c
        (Host.fragmentPacket c p destination Protocol.icmp identification offset more) ≤
      icmp c.ip p.window := by
  rw [packet, Host.window_fragmentPacket]
  exact ipv4_fragment_le _ _ _ _ _ _ _ _ (by rw [Packet.length_window]; exact hsize)

namespace Host

/-- What the packets that wait at a host weigh for a host at `peer`. -/
def backlog (h : Host) (peer : Ipv4Addr) : Nat :=
  h.held.total (Weight.packet peer h.config) h.clock

/-- Since `h`, frames were sent, and what they weigh together with what waits now is no more
than what waited before and `budget`.  Nothing changed but the link, the trace, the tables of
addresses and the next identification. -/
structure Spends (peer : Ipv4Addr) (budget : Nat) (h h' : Host) : Prop where
  unchanged : ∃ link trace cache held nextId, h' = { h with link, trace, cache, held, nextId }
  sent : ∃ frames, h'.link = h.link.sendAll frames ∧
    (frames.map (Weight.frame peer)).sum + h'.backlog peer ≤ h.backlog peer + budget

namespace Spends

variable {peer : Ipv4Addr} {first second : Nat} {h h₁ h₂ : Host}

theorem trans (s₁ : Spends peer first h h₁) (s₂ : Spends peer second h₁ h₂) :
    Spends peer (first + second) h h₂ where
  unchanged := by
    obtain ⟨link₁, trace₁, cache₁, held₁, nextId₁, heq₁⟩ := s₁.unchanged
    obtain ⟨link₂, trace₂, cache₂, held₂, nextId₂, heq₂⟩ := s₂.unchanged
    exact ⟨link₂, trace₂, cache₂, held₂, nextId₂, by rw [heq₂, heq₁]⟩
  sent := by
    obtain ⟨frames₁, hlink₁, hsum₁⟩ := s₁.sent
    obtain ⟨frames₂, hlink₂, hsum₂⟩ := s₂.sent
    refine ⟨frames₁ ++ frames₂, by rw [hlink₂, hlink₁, Link.sendAll_append], ?_⟩
    rw [List.map_append, List.sum_append]
    omega

theorem mono (s : Spends peer first h h₁) (hle : first ≤ second) : Spends peer second h h₁ where
  unchanged := s.unchanged
  sent := by
    obtain ⟨frames, hlink, hsum⟩ := s.sent
    exact ⟨frames, hlink, by omega⟩

/-- Taking note of something costs nothing. -/
theorem of_noted (n : Noted h h₁) : Spends peer 0 h h₁ := by
  obtain ⟨trace, rfl⟩ := n.unchanged
  exact ⟨⟨h.link, trace, h.cache, h.held, h.nextId, rfl⟩, [], rfl, Nat.le_of_eq (Nat.zero_add _)⟩

/-- Taking note of something before costs nothing either. -/
theorem after (n : Noted h h₁) (s : Spends peer first h₁ h₂) : Spends peer first h h₂ :=
  ((of_noted n).trans s).mono (Nat.le_of_eq (Nat.zero_add _))

/-- What is handed to the link costs what it weighs. -/
theorem of_sent {frames : List Bytes} (s : Sent h h₁ frames)
    (hsum : (frames.map (Weight.frame peer)).sum ≤ first) : Spends peer first h h₁ := by
  obtain ⟨trace, rfl⟩ := s.eq_sendAll
  refine ⟨⟨_, trace, h.cache, h.held, h.nextId, rfl⟩, frames, rfl, ?_⟩
  have hsame : ({ h with link := h.link.sendAll frames, trace } : Host).backlog peer =
      h.backlog peer := rfl
  omega

theorem config_eq (s : Spends peer first h h₁) : h₁.config = h.config := by
  obtain ⟨link, trace, cache, held, nextId, rfl⟩ := s.unchanged
  rfl

end Spends

/-! ### Sending -/

section

variable (peer : Ipv4Addr) (h : Host)

/-- A packet that has to wait is asked for. -/
theorem sendPacket_of_unknown_spends (p : Packet) {target : Ipv4Addr}
    (hcache : h.cache.get? target h.clock = none) (hheld : h.held.get? target h.clock = none) :
    Spends peer (Weight.packet peer h.config p + 2) h (h.sendPacket p target) := by
  obtain ⟨trace, heq⟩ := (sendPacket_of_unknown h p hcache hheld).eq_sendAll
  have hrequest := Weight.requestFrame_le peer h.config target
  have htotal : h.held.total (Weight.packet peer h.config) h.clock = h.backlog peer := rfl
  have hset := h.held.total_set_le (Weight.packet peer h.config) target p h.clock
  rw [heq]
  refine ⟨⟨_, trace, h.cache, _, h.nextId, rfl⟩, _, rfl, ?_⟩
  have hwaits : ({ h with
      held := h.held.set target p h.clock
      link := h.link.sendAll [Outbound.requestFrame h.config target]
      trace } : Host).backlog peer =
        (h.held.set target p h.clock).total (Weight.packet peer h.config) h.clock := rfl
  simp only [List.map_cons, List.map_nil, List.sum_cons, List.sum_nil]
  omega

/-- A packet that is dropped costs nothing. -/
theorem sendPacket_of_dropped_spends (p : Packet) {target : Ipv4Addr} {waiting : Packet}
    (hcache : h.cache.get? target h.clock = none)
    (hheld : h.held.get? target h.clock = some waiting) :
    Spends peer 0 h (h.sendPacket p target) := by
  rw [sendPacket_eq_of_waiting h p hcache hheld]
  exact .of_noted (((Noted.refl h).emit rfl rfl).log _)

theorem sendPacket_of_fresh_spends (p : Packet) {target : Ipv4Addr} {mac : MacAddr}
    (hfresh : h.cache.get? target h.clock = some mac) :
    Spends peer (Weight.packet peer h.config p) h (h.sendPacket p target) := by
  refine .of_sent (sendPacket_of_fresh h p hfresh) (Nat.le_of_eq ?_)
  rw [List.map_singleton, List.sum_singleton, Weight.frame_packet]

/-- **A packet** costs its weight, whether sent now or later, and a question. -/
theorem sendPacket_spends (p : Packet) (target : Ipv4Addr) :
    Spends peer (Weight.packet peer h.config p + 2) h (h.sendPacket p target) := by
  cases hcache : h.cache.get? target h.clock with
  | some mac => exact (sendPacket_of_fresh_spends peer h p hcache).mono (Nat.le_add_right _ _)
  | none =>
      cases hheld : h.held.get? target h.clock with
      | some waiting =>
          exact (sendPacket_of_dropped_spends peer h p hcache hheld).mono (Nat.zero_le _)
      | none => exact sendPacket_of_unknown_spends peer h p hcache hheld

/-- **After a packet for an address that is not known**, one waits for that address. -/
theorem sendPacket_waits (p : Packet) {target : Ipv4Addr}
    (hcache : h.cache.get? target h.clock = none) :
    (h.sendPacket p target).cache.get? target (h.sendPacket p target).clock = none ∧
      ∃ waiting,
        (h.sendPacket p target).held.get? target (h.sendPacket p target).clock = some waiting := by
  cases hheld : h.held.get? target h.clock with
  | some waiting =>
      rw [sendPacket_eq_of_waiting h p hcache hheld]
      exact ⟨hcache, waiting, hheld⟩
  | none =>
      obtain ⟨trace, heq⟩ := (sendPacket_of_unknown h p hcache hheld).eq_sendAll
      rw [heq]
      refine ⟨hcache, p, ?_⟩
      show (h.held.set target p h.clock).get? target h.clock = some p
      rw [ExpiringTable.get?_set, if_pos rfl]

theorem submitting_spends (p : Packet) (destination : Ipv4Addr) (protocol : UInt8) :
    Spends peer 0 h (h.submitting p destination protocol) :=
  ⟨⟨h.link, _, h.cache, h.held, _, rfl⟩, [], rfl, Nat.le_of_eq (Nat.zero_add _)⟩

/-- A message of ICMP that fits into a frame. -/
theorem sendDatagram_spends (p : Packet) (destination : Ipv4Addr)
    (hsize : p.size ≤ h.config.threshold) :
    Spends peer (Weight.icmp h.config.ip p.window + 2) h
      (h.sendDatagram p destination Protocol.icmp) := by
  have hmax : p.size ≤ Header.Ipv4.maxPayload := by
    have hle := h.config.threshold_le
    simp only [Header.Ipv4.maxPayload]
    omega
  have hpacket := Weight.packet_fragment_le peer h.config p destination h.nextId 0 false hmax
  rw [sendDatagram_of_le_threshold h p destination Protocol.icmp hsize]
  refine ((submitting_spends peer h p destination Protocol.icmp).trans
    (sendPacket_spends peer _ _ destination)).mono ?_
  rw [Nat.zero_add]
  exact Nat.add_le_add_right hpacket 2

/-- **Two packets for the same address**, the second of which is dropped if the first one
has to wait. -/
theorem sendPacket_twice_spends (p₁ p₂ : Packet) (target : Ipv4Addr)
    (h₁ : Weight.packet peer h.config p₁ ≤ 1) (h₂ : Weight.packet peer h.config p₂ ≤ 4) :
    Spends peer 5 h ((h.sendPacket p₁ target).sendPacket p₂ target) := by
  have hspent := sendPacket_spends peer h p₁ target
  cases hcache : h.cache.get? target h.clock with
  | some mac =>
      obtain ⟨trace, heq⟩ := (sendPacket_of_fresh h p₁ hcache).eq_sendAll
      have hsame : (h.sendPacket p₁ target).cache.get? target (h.sendPacket p₁ target).clock =
          some mac := by
        rw [heq]
        exact hcache
      have hnext := sendPacket_of_fresh_spends peer _ p₂ hsame
      rw [hspent.config_eq] at hnext
      exact ((sendPacket_of_fresh_spends peer h p₁ hcache).trans hnext).mono (by omega)
  | none =>
      obtain ⟨hsame, waiting, hheld⟩ := sendPacket_waits h p₁ hcache
      exact (hspent.trans (sendPacket_of_dropped_spends peer _ p₂ hsame hheld)).mono (by omega)

/-- **A message in two fragments**, the first of which is not answered. -/
theorem sendPieces_spends (destination : Ipv4Addr) (identification : UInt16)
    (first second : Bytes) (hfirst : Weight.icmp h.config.ip first = 1)
    (hsize : first.length + second.length ≤ Header.Ipv4.maxPayload) :
    Spends peer 5 h
      (h.sendPieces destination Protocol.icmp identification 0 [first, second]) := by
  have hoffset : (0 + first.length) / 8 < 65536 := by
    simp only [Header.Ipv4.maxPayload] at hsize
    omega
  have hsize₁ : (Packet.ofPayload h.config.headRoom first).size ≤ Header.Ipv4.maxPayload := by
    rw [Packet.size_ofPayload]
    omega
  have hsize₂ (headRoom : Nat) :
      (Packet.ofPayload headRoom second).size ≤ Header.Ipv4.maxPayload := by
    rw [Packet.size_ofPayload]
    omega
  rw [sendPieces, sendPieces, sendPieces, sendFragment_eq _ _ _ _ _ _ _ hsize₁ (by decide),
    sendFragment_eq _ _ _ _ _ _ _ (hsize₂ _) hoffset,
    (sendPacket_spends peer h _ destination).config_eq]
  have hweight₁ := Weight.packet_fragment_le peer h.config
    (Packet.ofPayload h.config.headRoom first) destination identification 0 true
    hsize₁
  rw [Packet.window_ofPayload, hfirst] at hweight₁
  exact sendPacket_twice_spends peer h _ _ destination hweight₁
    (Nat.le_trans (Weight.packet_fragment_le _ _ _ _ _ _ _ (hsize₂ _)) (Weight.icmp_bounds _ _).2)

/-- A message of at least 48 bytes, cut in two. -/
theorem chunks_eq_pair (bytes : Bytes) {size : Nat} (hlong : size < bytes.length)
    (hshort : bytes.length ≤ size + size) :
    Bytes.chunks size bytes = [bytes.take size, bytes.drop size] := by
  have hsize : size ≠ 0 := by omega
  have hne : bytes ≠ [] := fun h => by
    rw [h, List.length_nil] at hlong
    omega
  have hdrop : bytes.drop size ≠ [] := fun h => by
    have hlength := congrArg List.length h
    rw [List.length_drop, List.length_nil] at hlength
    omega
  have hrest : (bytes.drop size).length ≤ size := by
    rw [List.length_drop]
    omega
  rw [Bytes.chunks, dif_neg (not_or.2 ⟨hsize, hne⟩), Bytes.chunks,
    dif_neg (not_or.2 ⟨hsize, hdrop⟩), Bytes.chunks, List.take_of_length_le hrest,
    List.drop_of_length_le hrest, dif_pos (.inr rfl)]

/-- **A short message of which no front is answered** costs no more than 5. -/
theorem sendMessage_spends (p : Packet) (destination : Ipv4Addr) (hshort : p.size ≤ 96)
    (hfront : ∀ size, Header.Icmp.size ≤ size →
      Weight.icmp h.config.ip (p.window.take size) = 1) :
    Spends peer 5 h (h.sendDatagram p destination Protocol.icmp) := by
  have hthreshold := h.config.threshold_ge
  by_cases hsize : p.size ≤ h.config.threshold
  · have hweight : Weight.icmp h.config.ip p.window = 1 := by
      have hall := hfront (max Header.Icmp.size p.size) (Nat.le_max_left _ _)
      rw [List.take_of_length_le (by rw [Packet.length_window]; exact Nat.le_max_right _ _)] at hall
      exact hall
    have hspent := sendDatagram_spends peer h p destination hsize
    rw [hweight] at hspent
    exact hspent.mono (by decide)
  · have hmax : p.size ≤ Header.Ipv4.maxPayload := Nat.le_trans hshort (by decide)
    have hlength := p.length_window
    rw [sendDatagram_of_threshold_lt h p _ _ hmax (Nat.not_le.1 hsize),
      chunks_eq_pair p.window (by omega) (by omega)]
    have hnoted := (Noted.refl (h.submitting p destination Protocol.icmp)).log
      (.fragmenting p.size h.nextId destination
        ((p.size + h.config.threshold - 1) / h.config.threshold))
    refine ((submitting_spends peer h p destination Protocol.icmp).trans (.after hnoted
      (sendPieces_spends peer _ destination h.nextId _ _ ?_ ?_))).mono (Nat.le_refl 5)
    · exact hfront h.config.threshold (Nat.le_trans (by decide) hthreshold)
    · rw [← List.length_append, List.take_append_drop]
      omega

/-- A message that something could not be reached is not answered, nor is its front. -/
theorem icmp_take_unreachableMessage (source : Ipv4Addr) (undelivered : Bytes)
    (what : Unreachable) {size : Nat} (hsize : Header.Icmp.size ≤ size) :
    Weight.icmp source ((Outbound.unreachableMessage undelivered what).take size) = 1 := by
  rw [Outbound.unreachableMessage_eq, List.take_append, List.take_of_length_le (by
    rw [Header.Icmp.length_bytes]
    exact hsize)]
  refine Weight.icmp_of_header source _ _ ?_
  exact (by decide : IcmpType.unreachable ≠ IcmpType.echoRequest)

/-- **A message that something could not be delivered** costs no more than 5. -/
theorem sendUnreachable_spends (undelivered : Packet) (target : Ipv4Addr)
    (what : Unreachable) : Spends peer 5 h (h.sendUnreachable undelivered target what) := by
  have hlength : (Outbound.unreachableMessage undelivered.window what).length ≤ 76 := by
    have hquoted := Outbound.quotedLength_le undelivered.window
    rw [Outbound.unreachableMessage_eq, List.length_append, Header.Icmp.length_bytes,
      Outbound.length_quote, Header.Icmp.size]
    omega
  rw [sendUnreachable_eq]
  refine .after ((Noted.refl h).log _) (sendMessage_spends peer _ _ target ?_ fun size hsize => ?_)
  · rw [Packet.size_ofPayload]
    omega
  · rw [Packet.window_ofPayload]
    exact icmp_take_unreachableMessage _ _ _ hsize

/-! ### Receiving -/

theorem refuse_spends {refusal : Refusal} (hdrop : refusal.IsDrop) :
    Spends peer 0 h (h.refuse refusal) := by
  obtain ⟨n, rfl, -⟩ := hdrop
  exact .of_noted ((Noted.refl h).log n)

/-- Learning an address costs nothing, as a packet that waited no longer does. -/
theorem learning_spends (arp : Header.Arp) : Spends peer 0 h (h.learning arp) := by
  have hdelete :=
    h.held.total_delete_le (Weight.packet peer h.config) arp.senderIp h.clock
  exact ⟨⟨h.link, _, _, _, h.nextId, rfl⟩, [], rfl,
    Nat.le_trans (Nat.le_of_eq (Nat.zero_add _)) hdelete⟩

/-- **A packet that waited** is paid for when it is sent. -/
theorem receiveArp_of_waiting_spends (p : Packet) {arp : Header.Arp} {waiting : Packet}
    (harp : Inbound.arp p.window = .ok arp)
    (hwaiting : h.held.get? arp.senderIp h.clock = some waiting) :
    Spends peer 0 h (h.receiveArp p) := by
  have hdelete := h.held.total_delete_add_le (Weight.packet peer h.config) hwaiting
  obtain ⟨trace, heq⟩ := (sendFrame_sent (h.flushing arp waiting) waiting arp.senderMac
    EtherType.ipv4).eq_sendAll
  rw [receiveArp_of_waiting h p harp hwaiting, heq]
  refine ⟨⟨_, trace, _, _, h.nextId, rfl⟩, _, rfl, ?_⟩
  have hframe : Weight.frame peer (Outbound.frame (h.flushing arp waiting).config arp.senderMac
      EtherType.ipv4 waiting.window) = Weight.packet peer h.config waiting :=
    Weight.frame_packet _ _ _ _
  rw [List.map_singleton, List.sum_singleton, hframe, Nat.add_comm]
  exact hdelete

/-- **An ARP packet** is answered with less than it weighs. -/
theorem receiveArp_spends (p : Packet) :
    Spends peer (Weight.arp h.config.ip p.window - 1) h (h.receiveArp p) := by
  cases harp : Inbound.arp p.window with
  | error refusal =>
      rw [receiveArp, harp]
      exact (refuse_spends peer h (Inbound.arp_refused harp)).mono (Nat.zero_le _)
  | ok arp =>
      cases hheld : h.held.get? arp.senderIp h.clock with
      | some waiting =>
          exact (receiveArp_of_waiting_spends peer h p harp hheld).mono (Nat.zero_le _)
      | none =>
          have hlearning := learning_spends peer h arp
          rw [receiveArp_of_free h p harp hheld, Weight.arp, harp]
          by_cases hasked : arp.operation = ArpOperation.request.code ∧ arp.targetIp = h.config.ip
          · have hreply : Spends peer 1 (h.learning arp)
                ((h.learning arp).sendArpReply arp.senderIp arp.senderMac) := by
              refine .of_sent (sendArpReply_sent _ _ _) (Nat.le_of_eq ?_)
              rw [List.map_singleton, List.sum_singleton, Weight.replyFrame_eq]
            simp only [if_pos hasked]
            exact hlearning.trans hreply
          · simp only [if_neg hasked]
            exact hlearning

/-- **A message of ICMP** is answered with less than it weighs. -/
theorem receiveIcmp_spends (p : Packet) (source : Ipv4Addr)
    (hsize : p.size ≤ h.config.threshold) :
    Spends peer (Weight.icmp source p.window - 1) h (h.receiveIcmp p source) := by
  cases hicmp : Inbound.icmp source p.window with
  | error refusal =>
      rw [receiveIcmp, hicmp]
      exact (refuse_spends peer h (Inbound.icmp_refused hicmp)).mono (Nat.zero_le _)
  | ok request =>
      have hleast := Inbound.size_le_of_icmp_ok hicmp
      rw [Packet.length_window] at hleast
      obtain ⟨reply, hreply, hwindow⟩ := Outbound.echoReply_eq_replyMessage request p hleast
      rw [Outbound.replyMessage_eq] at hwindow
      have hweight : Weight.icmp h.config.ip reply.window = 1 := by
        rw [hwindow]
        refine Weight.icmp_of_header _ _ _ ?_
        exact (by decide : IcmpType.echoReply ≠ IcmpType.echoRequest)
      have hreplysize : reply.size ≤ h.config.threshold := by
        rw [← Packet.length_window, hwindow, List.length_append, Header.Icmp.length_bytes,
          List.length_drop, Packet.length_window]
        omega
      have hlogged := (Noted.refl h).log (.echoReply source request.identifier request.sequence)
      have hsent := Spends.after hlogged (sendDatagram_spends peer _ reply source hreplysize)
      rw [receiveIcmp, hicmp, Weight.icmp, hicmp]
      simp only [hreply]
      exact hsent.mono (by
        show Weight.icmp h.config.ip reply.window + 2 ≤ 4 - 1
        omega)

section

variable (run : Runner) (p : Packet) (hports : ∀ port, h.ports.get? port = none)
include hports

/-- **A UDP datagram**, while no port is open, leads to a message at most. -/
theorem receiveUdp_spends (source : Ipv4Addr) : Spends peer 5 h (h.receiveUdp run p source) := by
  cases hudp : Inbound.udp h.config.ip source p.window with
  | error refusal =>
      rw [receiveUdp, hudp]
      exact (refuse_spends peer h (Inbound.udp_refused hudp)).mono (Nat.zero_le _)
  | ok udp =>
      have hlogged := (Noted.refl h).log (.portUnreachable udp.destination source udp.source)
      rw [receiveUdp, hudp]
      simp only [hports]
      split
      · rename_i cause _
        exact (Spends.of_noted (hlogged.log (.udpNotQuotable cause))).mono (Nat.zero_le _)
      · exact .after hlogged (sendUnreachable_spends peer _ _ source .port)

variable (own : h.HasOwnHandlers)
include own

/-- **An IPv4 packet** is answered with less than it weighs. -/
theorem receiveIpv4_spends (hfit : p.window.length ≤ h.config.threshold + Header.Ipv4.size) :
    Spends peer (Weight.ipv4 h.config.ip p.window - 1) h (h.receiveIpv4 run p) := by
  cases hipv4 : Inbound.ipv4 h.config.ip p.window with
  | error refusal =>
      rw [receiveIpv4, hipv4]
      exact (refuse_spends peer h (Inbound.ipv4_refused hipv4)).mono (Nat.zero_le _)
  | ok ip =>
      obtain ⟨valid, hread⟩ := (Inbound.ipv4_eq_ok_iff h.config.ip p.window ip).1 hipv4
      have hheader : ip.headerLength ≤ ip.totalLength.toNat := by
        rw [hread]
        exact valid.headerLength
      have htotal : ip.totalLength.toNat ≤ p.window.length := by
        rw [hread]
        exact valid.totalLength
      have hhandler := own.protocolHandlers ip.protocol
      rw [Weight.ipv4, hipv4]
      by_cases hicmp : ip.protocol = Protocol.icmp
      · rw [if_neg (by rw [hicmp]; decide), if_pos hicmp] at hhandler
        obtain ⟨q, hq, hreceived⟩ :=
          receiveIpv4_of_accepted h run p hipv4 hhandler hheader htotal
        have hleast : Header.Ipv4.size ≤ ip.headerLength := by
          rw [hread]
          exact valid.least
        have hsize : q.size ≤ h.config.threshold := by
          rw [← Packet.length_window, hq, List.length_drop, List.length_take]
          omega
        have hcalled : Noted h
            (h.emit (.protocolHandled ProtocolHandler.icmp.name? q.head q.window ip.source)) :=
          (Noted.refl h).emit rfl rfl
        rw [hreceived]
        simp only [if_pos hicmp, ← hq]
        exact .after hcalled (receiveIcmp_spends peer _ q ip.source hsize)
      · simp only [if_neg hicmp]
        by_cases hudp : ip.protocol = Protocol.udp
        · rw [if_pos hudp] at hhandler
          obtain ⟨q, hq, hreceived⟩ :=
            receiveIpv4_of_accepted h run p hipv4 hhandler hheader htotal
          have hcalled : Noted h
              (h.emit (.protocolHandled ProtocolHandler.udp.name? q.head q.window ip.source)) :=
            (Noted.refl h).emit rfl rfl
          rw [hreceived]
          exact .after hcalled (receiveUdp_spends peer
            (h.emit (.protocolHandled ProtocolHandler.udp.name? q.head q.window ip.source)) run q
            hports ip.source)
        · rw [if_neg hudp, if_neg hicmp] at hhandler
          have hlogged := (Noted.refl h).log (.protocolUnknown ip.protocol ip.source)
          rw [receiveIpv4, hipv4]
          simp only [hhandler]
          exact .after hlogged (sendUnreachable_spends peer _ _ ip.source .protocol)

/-- **A frame** is answered with less than it weighs, whatever it carries. -/
theorem receiveFrame_spends (hfit : p.window.length ≤ h.config.maxFrame) :
    Spends peer (Weight.frame h.config.ip p.window - 1) h (h.receiveFrame run p) := by
  cases hethernet : Inbound.ethernet p.window with
  | error refusal =>
      rw [receiveFrame, hethernet]
      exact (refuse_spends peer h (Inbound.ethernet_refused hethernet)).mono (Nat.zero_le _)
  | ok ethernet =>
      obtain ⟨hparse, hsize⟩ := Inbound.parse_of_ethernet_ok hethernet
      obtain ⟨q, hq, hwindow⟩ := p.strip_of_le Header.Ethernet.size hsize
      have hcalled (handler : FrameHandler) : Noted h
          (h.emit (.frameHandled handler.name? q.head q.window ethernet.source)) :=
        (Noted.refl h).emit rfl rfl
      have hhandler := own.frameHandlers ethernet.etherType
      rw [Weight.frame, hparse, receiveFrame, hethernet]
      simp only [Weight.payload, ← hwindow]
      by_cases hipv4 : ethernet.etherType = EtherType.ipv4
      · rw [if_pos hipv4] at hhandler
        have hlength : q.window.length ≤ h.config.threshold + Header.Ipv4.size := by
          rw [hwindow, List.length_drop]
          simp only [Config.maxFrame] at hfit
          omega
        simp only [hhandler, hq, if_pos hipv4]
        exact .after (hcalled .ipv4) (receiveIpv4_spends peer
          (h.emit (.frameHandled FrameHandler.ipv4.name? q.head q.window ethernet.source)) run q
          hports (own.congr rfl rfl) hlength)
      · rw [if_neg hipv4] at hhandler
        by_cases harp : ethernet.etherType = EtherType.arp
        · rw [if_pos harp] at hhandler
          simp only [hhandler, hq, if_neg hipv4, if_pos harp]
          exact .after (hcalled .arp) (receiveArp_spends peer
            (h.emit (.frameHandled FrameHandler.arp.name? q.head q.window ethernet.source)) q)
        · rw [if_neg harp] at hhandler
          simp only [hhandler, if_neg hipv4, if_neg harp]
          exact .of_noted ((Noted.refl h).log _)

end

end

end Host

end HostNet
