import HostNet.Proofs.Identification.Numbering
import HostNet.Proofs.Rejection

/-!
# Identifications count datagrams

All packets of a datagram carry its number, however late they leave the host: a packet that
waits for an address is stored with its header, and sent as it is.  Nothing else is counted.

* `History.LeftAs` — the frame in which a packet left in the end.
* `LeftAs.eq_frame` — that frame carries the packet as it was dispatched.
* `Numbering.fragmentOf` — the frames of a datagram carry its number.
* `Host.Uncounted` — actions of which no datagram comes (`exec_uncounted`).
* `identifications_count_datagrams` — the numbers count up from zero, modulo 2¹⁶, and every
  frame of a datagram carries the number of that datagram.
-/

namespace HostNet

open History

/-! ### The frames of a datagram -/

namespace History

/-- A packet for `ip` left in a frame, by its fate and the records `later` that followed: it
was sent at once, or it waited, and left when it was released, with no other packet waiting
by then. -/
inductive LeftAs (ip : Ipv4Addr) (later : List Record) : Fate → Bytes → Prop where
  | atOnce (mac : MacAddr) {after : List Record} {time : Nat} {frame : Bytes}
      {fault : Option LinkError} (hnext : later = after ++ [⟨time, .transmitted frame fault⟩]) :
      LeftAs ip later (.sent mac) frame
  | released {after mid : List Record} {sentAt time : Nat} {packet frame : Bytes} {mac : MacAddr}
      {fault : Option LinkError}
      (hnext : later = after ++
        ⟨sentAt, .transmitted frame fault⟩ :: ⟨time, .released ip packet mac⟩ :: mid)
      (hwaits : ¬HeldAgain ip mid) : LeftAs ip later .held frame

variable {c : Config} {trace later past mid after after' : List Record} {ip : Ipv4Addr}
  {packet frame : Bytes} {fate : Fate} {time : Nat}

/-- The first record of a frame handed to the link is the frame. -/
theorem frame_eq_of_append_transmission {time' : Nat} {frame' : Bytes}
    {fault fault' : Option LinkError}
    (heq : after ++ [⟨time, .transmitted frame fault⟩] =
      after' ++ transmission time' frame' fault') :
    frame = frame' := by
  have hfirst : ∃ front, transmission time' frame' fault' =
      front ++ [⟨time', .transmitted frame' fault'⟩] := by
    cases fault' with
    | none => exact ⟨[], rfl⟩
    | some cause => exact ⟨[⟨time', .notice (.sendFailed frame'.length cause)⟩], rfl⟩
  obtain ⟨front, hfront⟩ := hfirst
  rw [hfront, ← List.append_assoc] at heq
  have hlast := (List.append_inj' heq rfl).2
  cases hlast
  rfl

/-- An item of a list is an item of any longer beginning of that. -/
theorem getElem?_of_prefix {α : Type} {front list rest : List α} {a : α}
    (hbegins : list <+: front ++ a :: rest) (hlt : front.length < list.length) :
    list[front.length]? = some a := by
  obtain ⟨more, heq⟩ := hbegins
  have hitem : (list ++ more)[front.length]? = list[front.length]? :=
    List.getElem?_append_left hlt
  rw [← hitem, heq, List.getElem?_append_right (Nat.le_refl _), Nat.sub_self,
    List.getElem?_cons_zero]

/-- The last packet that began to wait is found behind records of which none says so. -/
theorem findSome?_held (time : Nat) (packet : Bytes) (past : List Record)
    (hmid : ∀ r ∈ mid, r.held? ip = none) :
    (mid ++ ⟨time, .dispatched ip packet .held⟩ :: past).findSome? (Record.held? ip) =
      some ⟨packet, time⟩ := by
  rw [List.findSome?_append, List.findSome?_eq_none_iff.2 hmid, Option.none_or]
  simp [Record.held?]

/-- **A packet leaves unchanged**, at once as well as late. -/
theorem LeftAs.eq_frame (history : History c trace)
    (hsplit : trace = later ++ ⟨time, .dispatched ip packet fate⟩ :: past)
    (left : LeftAs ip later fate frame) :
    ∃ mac, frame = Outbound.frame c mac EtherType.ipv4 packet := by
  cases left with
  | atOnce mac hnext =>
      obtain ⟨-, after, fault, hlater⟩ := of_dispatched history hsplit
      exact ⟨mac, frame_eq_of_append_transmission (hnext.symm.trans hlater)⟩
  | @released after mid sentAt released waiting _ mac fault hnext hwaits =>
      have hmid : ∀ r ∈ mid, r.held? ip = none := fun r hr =>
        Option.not_isSome_iff_eq_none.1 fun hsome => hwaits ⟨r, hr, hsome⟩
      have hreleased : trace = (after ++ [⟨sentAt, .transmitted frame fault⟩]) ++
          ⟨released, .released ip waiting mac⟩ ::
            (mid ++ ⟨time, .dispatched ip packet .held⟩ :: past) := by
        simp only [hsplit, hnext, List.append_assoc, List.cons_append, List.nil_append]
      obtain ⟨before, hpast, hwaiting, after', fault', hlater⟩ := of_released history hreleased
      obtain ⟨mid', since, earlier, hbefore, -, hmid'⟩ := exists_held_of_waitingAt hwaiting
      -- Seen from the release, the last packet that began to wait is one and the same.
      have hlast := findSome?_held time packet past hmid
      have hflushed : ∀ r ∈ ⟨released, .notice (.flushing waiting.length ip)⟩ ::
          ⟨released, .notice (.learned ip mac)⟩ :: mid', r.held? ip = none := by
        intro r hr
        rcases List.mem_cons.1 hr with rfl | hr
        · rfl
        rcases List.mem_cons.1 hr with rfl | hr
        · rfl
        · exact (hmid' r hr).2
      rw [hpast, hbefore] at hlast
      have hsame := (findSome?_held since waiting earlier hflushed).symm.trans hlast
      cases hsame
      exact ⟨mac, frame_eq_of_append_transmission hlater⟩

end History

namespace Outbound

variable (c : Config) (mac : MacAddr) (destination : Ipv4Addr) (protocol : UInt8)
  (identification : UInt16) (payload : Bytes)

theorem length_packetsOf :
    (packetsOf c destination protocol identification payload).length =
      (pieces c.threshold payload).length := by
  rw [packetsOf, ← List.length_map (frame c MacAddr.zero EtherType.ipv4), ← fragmentFrames_eq_map,
    length_fragmentFrames]

/-- **Each packet of a datagram**, in a frame, is the fragment it should be. -/
theorem fragmentOf_packetsOf (hmax : payload.length ≤ Header.Ipv4.maxPayload) {i : Nat}
    {packet : Bytes}
    (hpacket : (packetsOf c destination protocol identification payload)[i]? = some packet) :
    ∃ header, FragmentOf c mac destination protocol identification payload
      (packetsOf c destination protocol identification payload).length i
      (frame c mac EtherType.ipv4 packet) header := by
  have hframe : (fragmentFrames c mac destination protocol identification 0
      (pieces c.threshold payload))[i]? = some (frame c mac EtherType.ipv4 packet) := by
    rw [fragmentFrames_eq_map, List.getElem?_map]
    exact congrArg (Option.map _) hpacket
  obtain ⟨hplace, heq⟩ := getElem?_fragmentFrames_pieces c mac destination protocol
    identification c.threshold (Host.threshold_ne_zero c) payload i hframe
  rw [heq, length_packetsOf]
  exact ⟨_, fragmentOf_frame c mac destination protocol identification payload _ i hmax hplace⟩

end Outbound

namespace Host

/-- **A packet dispatched after a datagram was submitted**, if it is not one too many, is a
packet of it, and so is the frame in which it leaves. -/
theorem Numbering.fragmentOf {c : Config} {h : Host} (numbering : h.Numbering c)
    (history : History c h.trace) {after before past : List Record} {time dispatchedAt : Nat}
    {identification : UInt16} {payload packet frame : Bytes} {destination ip : Ipv4Addr}
    {protocol : UInt8} {fate : Fate}
    (hsplit : h.trace = (after ++ ⟨dispatchedAt, .dispatched ip packet fate⟩ :: before) ++
      ⟨time, .submitted identification payload destination protocol⟩ :: past)
    (hplace : (packets before).length <
      (Outbound.packetsOf c destination protocol identification payload).length)
    (left : LeftAs ip after fate frame) :
    ∃ mac header, Outbound.FragmentOf c mac destination protocol identification payload
      (Outbound.packetsOf c destination protocol identification payload).length
      (packets before).length frame header := by
  obtain ⟨hmax, hbegins⟩ := numbering.fragmented _ _ _ _ _ _ _ hsplit
  rw [packets_append, packets_cons, List.append_assoc] at hbegins
  have hpacket := getElem?_of_prefix hbegins (by rw [List.length_map]; exact hplace)
  rw [List.getElem?_map] at hpacket
  obtain ⟨own, hown, hsame⟩ := Option.map_eq_some_iff.1 hpacket
  cases hsame
  rw [List.append_assoc, List.cons_append] at hsplit
  obtain ⟨mac, rfl⟩ := left.eq_frame history hsplit
  exact ⟨mac, Outbound.fragmentOf_packetsOf c mac destination protocol identification payload hmax
    hown⟩

/-! ### What is not counted -/

theorem Sent.nextId_eq {h h' : Host} {frames : List Bytes} (sent : Sent h h' frames) :
    h'.nextId = h.nextId := by
  obtain ⟨link, trace, heq⟩ := sent.unchanged
  rw [heq]

theorem Dropped.nextId_eq {h h' : Host} (dropped : Dropped h h') : h'.nextId = h.nextId := by
  obtain ⟨trace, heq⟩ := dropped.unchanged
  rw [heq]

/-- **The IPv4 packets that come to nothing**: those that are not valid, and those for the
handler of ICMP or UDP that are not valid for it. -/
inductive UncountedPacket (localIp : Ipv4Addr) (handlers : Table UInt8 ProtocolHandler)
    (packet : Bytes) : Prop where
  | invalid (hnot : ¬Inbound.Ipv4Valid localIp packet)
  | icmp (valid : Inbound.Ipv4Valid localIp packet)
      (hhandler : handlers.get? (Header.Ipv4.read packet).protocol = some .icmp)
      (hnot : ¬Inbound.IcmpValid (Inbound.ipv4Payload packet))
  | udp (valid : Inbound.Ipv4Valid localIp packet)
      (hhandler : handlers.get? (Header.Ipv4.read packet).protocol = some .udp)
      (hnot : ¬Inbound.UdpValid localIp (Header.Ipv4.read packet).source
        (Inbound.ipv4Payload packet))

/-- **The frames that come to nothing**, or to ARP only: those too short for a header, those
of an ether type that nothing handles, those for the handler of ARP, and those for the
handler of IPv4 whose packets come to nothing. -/
inductive UncountedFrame (localIp : Ipv4Addr) (frameHandlers : Table UInt16 FrameHandler)
    (protocolHandlers : Table UInt8 ProtocolHandler) (frame : Bytes) : Prop where
  | short (hsize : frame.length < 14)
  | unregistered (hnone : frameHandlers.get? (Header.Ethernet.read frame).etherType = none)
  | arp (hhandler : frameHandlers.get? (Header.Ethernet.read frame).etherType = some .arp)
  | ipv4 (hhandler : frameHandlers.get? (Header.Ethernet.read frame).etherType = some .ipv4)
      (huncounted : UncountedPacket localIp protocolHandlers (frame.drop 14))

/-- **The actions of which no datagram comes**: sending below the layer of datagrams, all that
is about ARP, payloads that are too long, and input that is rejected. -/
inductive Uncounted (h : Host) : Action → Prop where
  | sendFrame (p : Packet) (destination : MacAddr) (etherType : UInt16) :
      h.Uncounted (.sendFrame p destination etherType)
  | sendPacket (p : Packet) (target : Ipv4Addr) : h.Uncounted (.sendPacket p target)
  | sendFragment (p : Packet) (destination : Ipv4Addr) (protocol : UInt8)
      (identification : UInt16) (offset : Nat) (more : Bool) :
      h.Uncounted (.sendFragment p destination protocol identification offset more)
  | sendArpRequest (target : Ipv4Addr) : h.Uncounted (.sendArpRequest target)
  | sendArpReply (target : Ipv4Addr) (mac : MacAddr) : h.Uncounted (.sendArpReply target mac)
  | receiveArp (p : Packet) : h.Uncounted (.receiveArp p)
  | sendDatagram (p : Packet) (destination : Ipv4Addr) (protocol : UInt8)
      (hsize : Header.Ipv4.maxPayload < p.size) :
      h.Uncounted (.sendDatagram p destination protocol)
  | sendSegment (p : Packet) (sourcePort : UInt16) (destination : Ipv4Addr) (port : UInt16)
      (hsize : Header.Udp.maxDatagram < p.size) :
      h.Uncounted (.sendSegment p sourcePort destination port)
  | sendUdp (payload : Bytes) (sourcePort : UInt16) (destination : Ipv4Addr) (port : UInt16)
      (hsize : Header.Udp.maxDatagram < payload.length) :
      h.Uncounted (.sendUdp payload sourcePort destination port)
  | receiveIcmp (p : Packet) (source : Ipv4Addr) (hnot : ¬Inbound.IcmpValid p.window) :
      h.Uncounted (.receiveIcmp p source)
  | receiveUdp (p : Packet) (source : Ipv4Addr)
      (hnot : ¬Inbound.UdpValid h.config.ip source p.window) : h.Uncounted (.receiveUdp p source)
  | receiveIpv4 (p : Packet)
      (huncounted : UncountedPacket h.config.ip h.protocolHandlers p.window) :
      h.Uncounted (.receiveIpv4 p)
  | receiveFrame (p : Packet)
      (huncounted : UncountedFrame h.config.ip h.frameHandlers h.protocolHandlers p.window) :
      h.Uncounted (.receiveFrame p)
  | poll (huncounted : ∀ frame, (h.link.receive h.rxBuffer.length).2 = .ok (some frame) →
      UncountedFrame h.config.ip h.frameHandlers h.protocolHandlers frame) : h.Uncounted .poll
  | deliver (queued : Bytes)
      (huncounted : ∀ frame, ((h.link.inject queued).receive h.rxBuffer.length).2 =
        .ok (some frame) →
          UncountedFrame h.config.ip h.frameHandlers h.protocolHandlers frame) :
      h.Uncounted (.deliver queued)

theorem receiveArp_nextId (h : Host) (p : Packet) : (h.receiveArp p).nextId = h.nextId := by
  cases harp : Inbound.arp p.window with
  | error refusal => rw [receiveArp, harp]; rfl
  | ok arp => exact (receiveArp_dispatches h p harp).nextId

theorem noteNarrowing_nextId (h : Host) (value : Nat) :
    (h.noteNarrowing value).nextId = h.nextId := by
  unfold noteNarrowing
  split
  · rfl
  · rfl

theorem sendFragment_nextId (h : Host) (p : Packet) (destination : Ipv4Addr) (protocol : UInt8)
    (identification : UInt16) (offset : Nat) (more : Bool) :
    (h.sendFragment p destination protocol identification offset more).nextId = h.nextId := by
  rw [sendFragment]
  exact (sendPacket_dispatches _ _ _).nextId.trans
    ((noteNarrowing_nextId _ _).trans (noteNarrowing_nextId _ _))

section

variable (depth : Nat) (h : Host) (p : Packet)

theorem receiveIpv4_uncounted
    (huncounted : UncountedPacket h.config.ip h.protocolHandlers p.window) :
    (h.receiveIpv4 (runner depth) p).nextId = h.nextId := by
  cases huncounted with
  | invalid hnot =>
      obtain ⟨n, -, heq⟩ := receiveIpv4_of_invalid h (runner depth) p hnot
      rw [heq]
      rfl
  | icmp valid hhandler hnot =>
      obtain ⟨q, hwindow, heq⟩ := receiveIpv4_of_valid depth h p valid .icmp hhandler
      rw [← hwindow] at hnot
      rw [heq]
      exact (receiveIcmp_dropped _ q _ hnot).nextId_eq
  | udp valid hhandler hnot =>
      obtain ⟨q, hwindow, heq⟩ := receiveIpv4_of_valid depth h p valid .udp hhandler
      let called :=
        h.emit (.protocolHandled none q.head q.window (Header.Ipv4.read p.window).source)
      rw [← hwindow] at hnot
      rw [heq]
      exact (receiveUdp_dropped depth called q _ hnot).nextId_eq

theorem receiveFrame_uncounted
    (huncounted : UncountedFrame h.config.ip h.frameHandlers h.protocolHandlers p.window) :
    (h.receiveFrame (runner depth) p).nextId = h.nextId := by
  by_cases hsize : 14 ≤ p.window.length
  · cases huncounted with
    | short hshort => omega
    | unregistered hnone =>
        have haccepted := (Inbound.ethernet_eq_ok_iff p.window _).2 ⟨hsize, rfl⟩
        rw [receiveFrame, haccepted]
        simp only [hnone]
        rfl
    | arp hhandler =>
        obtain ⟨q, -, heq⟩ := receiveFrame_of_registered depth h p hsize .arp hhandler
        rw [heq]
        exact receiveArp_nextId _ q
    | ipv4 hhandler hpacket =>
        obtain ⟨q, hwindow, heq⟩ := receiveFrame_of_registered depth h p hsize .ipv4 hhandler
        let called :=
          h.emit (.frameHandled none q.head q.window (Header.Ethernet.read p.window).source)
        rw [← hwindow] at hpacket
        rw [heq]
        exact receiveIpv4_uncounted depth called q hpacket
  · obtain ⟨refusal, hrefused⟩ := error_of_not_ok fun ethernet hok =>
      hsize ((Inbound.ethernet_eq_ok_iff p.window ethernet).1 hok).1
    rw [receiveFrame, hrefused]
    rfl

theorem sendDatagram_uncounted (destination : Ipv4Addr) (protocol : UInt8)
    (hsize : Header.Ipv4.maxPayload < p.size) :
    (h.sendDatagram p destination protocol).nextId = h.nextId := by
  rw [sendDatagram_of_oversized h p destination protocol hsize]
  rfl

theorem sendSegment_uncounted (sourcePort : UInt16) (destination : Ipv4Addr) (port : UInt16)
    (hsize : Header.Udp.maxDatagram < p.size) :
    (h.sendSegment p sourcePort destination port).nextId = h.nextId := by
  rw [sendSegment, if_pos hsize]
  rfl

theorem poll_uncounted
    (huncounted : ∀ frame, (h.link.receive h.rxBuffer.length).2 = .ok (some frame) →
      UncountedFrame h.config.ip h.frameHandlers h.protocolHandlers frame) :
    (h.poll (runner depth)).1.nextId = h.nextId := by
  cases hreceive : h.link.receive h.rxBuffer.length with
  | mk link received =>
      cases received with
      | error cause => rw [poll, hreceive]
      | ok frame? =>
          cases frame? with
          | none => rw [poll, hreceive]
          | some frame =>
              obtain ⟨rxBuffer, rxBuffer_length, hpoll⟩ := poll_of_receive h (runner depth) hreceive
              have hframe := huncounted frame (by rw [hreceive])
              rw [← Packet.window_ofPayload 0 frame] at hframe
              rw [hpoll]
              exact receiveFrame_uncounted depth { h with link, rxBuffer, rxBuffer_length } _ hframe

end

/-- **What is not counted** leaves the next number as it is; the cases are the constructors of
`Uncounted`. -/
theorem exec_uncounted (depth : Nat) {h : Host} {action : Action}
    (huncounted : h.Uncounted action) : (h.exec depth action).1.nextId = h.nextId := by
  cases huncounted with
  | sendFrame p destination etherType => exact (sendFrame_sent h p _ _).nextId_eq
  | sendPacket p target => exact (sendPacket_dispatches h p target).nextId
  | sendFragment p destination protocol identification offset more =>
      exact sendFragment_nextId h p _ _ _ _ _
  | sendArpRequest target => exact (sendArpRequest_sent h target).nextId_eq
  | sendArpReply target mac => exact (sendArpReply_sent h target mac).nextId_eq
  | receiveArp p => exact receiveArp_nextId h p
  | sendDatagram p destination protocol hsize =>
      exact sendDatagram_uncounted h p destination protocol hsize
  | sendSegment p sourcePort destination port hsize =>
      exact sendSegment_uncounted h p sourcePort destination port hsize
  | sendUdp payload sourcePort destination port hsize =>
      exact sendSegment_uncounted h _ sourcePort destination port
        (by rw [Packet.size_ofPayload]; exact hsize)
  | receiveIcmp p source hnot => exact (receiveIcmp_dropped h p source hnot).nextId_eq
  | receiveUdp p source hnot => exact (receiveUdp_dropped depth h p source hnot).nextId_eq
  | receiveIpv4 p hpacket => exact receiveIpv4_uncounted depth h p hpacket
  | receiveFrame p hframe => exact receiveFrame_uncounted depth h p hframe
  | poll hframe => exact poll_uncounted depth h hframe
  | deliver queued hframe =>
      exact poll_uncounted depth { h with link := h.link.inject queued } hframe

/-! ### Runs -/

/-- **Identifications count datagrams.**

Every run is a sequence of strides, whatever is done in it and by whom: scripts nested to any
depth, replies and messages of the host, links that fail, packets that wait or are dropped.
After any strides:

* The next identification is the number of datagrams given one so far, modulo 2¹⁶.
* They were given 0, 1, 2 and so on, modulo 2¹⁶, so that any two of 65536 datagrams in a row
  were given different ones.
* Nothing but sending a datagram counts, and sending one counts once: it is given the next
  identification, unless it is too long, when it is given none.
* The identification recorded for a datagram is the number of those before it, modulo 2¹⁶.
  What was dispatched next were the packets of the datagram, in order, and every frame in
  which one of them left, at once or released later from the slot where it waited, is the
  fragment that it should be, with the identification of the datagram in its header.
* Frames, fragments and packets handed down below the layer of datagrams, all that is about
  ARP, payloads that are too long and rejected input leave the next identification as it
  is. -/
theorem identifications_count_datagrams (config : Config) (link : Link) :
    (∀ depth actions,
      Strides (silent config link) (execAll depth (start config link) actions)) ∧
    ∀ h, Strides (silent config link) h →
      h.nextId.toNat = h.identifications.length % 65536 ∧
      (∀ (i : Nat) identification, h.identifications[i]? = some identification →
        identification.toNat = i % 65536) ∧
      (∀ (i j : Nat) first second, i < j → j < i + 65536 → h.identifications[i]? = some first →
        h.identifications[j]? = some second → first ≠ second) ∧
      (∀ h', Stride h h' →
        h'.nextId = h.nextId ∧ h'.identifications = h.identifications ∨
        ∃ p destination protocol, p.size ≤ Header.Ipv4.maxPayload ∧
          h' = h.sendDatagram p destination protocol) ∧
      (∀ p destination protocol,
        if p.size ≤ Header.Ipv4.maxPayload then
          (h.sendDatagram p destination protocol).nextId = h.nextId + 1 ∧
          (h.sendDatagram p destination protocol).identifications =
            h.identifications ++ [h.nextId]
        else
          (h.sendDatagram p destination protocol).nextId = h.nextId ∧
          (h.sendDatagram p destination protocol).identifications = h.identifications) ∧
      (∀ later past time identification payload destination protocol,
        h.trace = later ++
            ⟨time, .submitted identification payload destination protocol⟩ :: past →
          let own := Outbound.packetsOf config destination protocol identification payload
          identification.toNat =
            (past.filterMap fun r => r.event.identification?).length % 65536 ∧
          own.map (destination, ·) <+: packets later ∧
          ∀ after before dispatchedAt ip packet fate frame,
            later = after ++ ⟨dispatchedAt, .dispatched ip packet fate⟩ :: before →
            (packets before).length < own.length → LeftAs ip after fate frame →
              ∃ mac header, Outbound.FragmentOf config mac destination protocol identification
                payload own.length (packets before).length frame header) ∧
      ∀ depth action, h.Uncounted action → (h.exec depth action).1.nextId = h.nextId := by
  refine ⟨fun depth actions =>
    (start_strides config link).trans (execAll_strides depth _ actions), fun h strides => ?_⟩
  have numbering := strides.numbering
  refine ⟨numbering.toNat_nextId, fun i identification => numbering.toNat_identification,
    fun i j first second => numbering.identification_ne, fun h' stride => ?_,
    fun p destination protocol => ?_, ?_, fun depth action => exec_uncounted depth⟩
  · rcases stride.dispatches with ⟨dispatched, d⟩ | hdatagram
    · exact .inl ⟨d.nextId, d.identifications_eq⟩
    · exact .inr hdatagram
  · split
    · rename_i hmax
      have d := sendDatagram_dispatches h p destination protocol hmax
      exact ⟨d.nextId, d.identifications_eq.trans (identifications_submitting h p _ _)⟩
    · rename_i hmax
      rw [sendDatagram_of_oversized h p _ _ (Nat.not_le.1 hmax)]
      exact ⟨rfl, observed_emit_of_eq_none h rfl⟩
  · intro later past time identification payload destination protocol hsplit own
    refine ⟨numbering.toNat_submitted hsplit, (numbering.fragmented _ _ _ _ _ _ _ hsplit).2, ?_⟩
    rintro after before dispatchedAt ip packet fate frame rfl hplace left
    exact numbering.fragmentOf strides.steps.recalls.history hsplit hplace left

/-- Of two datagrams for addresses that are not known, the second one is sent when its address
is learned, with the number that it was given long before. -/
theorem identifications_count_datagrams_of_late_frame :
    ∃ (config : Config) (h : Host) (frame : Bytes) (header : Header.Ipv4),
      Strides (silent config {}) h ∧ h.nextId.toNat = h.identifications.length % 65536 ∧
      h.trace.head? = some ⟨5, .transmitted frame none⟩ ∧
      Header.Ipv4.parse (frame.drop 14) = .ok header ∧ header.identification = 1 := by
  obtain ⟨config, hconfig⟩ : ∃ config, Settings.build {} = .ok config := ⟨_, rfl⟩
  obtain ⟨ip, hip⟩ : ∃ ip : Ipv4Addr, ip = ⟨10, 0, 0, 3⟩ := ⟨_, rfl⟩
  obtain ⟨mac, hmac⟩ : ∃ mac : MacAddr, mac = ⟨2, 0, 0, 0, 0, 3⟩ := ⟨_, rfl⟩
  obtain ⟨actions, hactions⟩ : ∃ actions : List Action, actions =
      [.sendDatagram (Packet.ofPayload 0 [1, 2, 3]) ⟨10, 0, 0, 2⟩ 17,
        .sendDatagram (Packet.ofPayload 0 [4, 5]) ip 17, .advance 5,
        .receiveArp (Packet.ofPayload 0 (Header.Arp.new .reply mac ip ⟨2, 0, 0, 0, 0, 1⟩
          ⟨10, 0, 0, 1⟩).bytes)] := ⟨_, rfl⟩
  let h := execAll 1 (start config {}) actions
  let packet := Outbound.fragment config ip 17 1 0 false [4, 5]
  let frame := Outbound.frame config mac EtherType.ipv4 packet
  let after : List Record :=
    [⟨5, .transmitted frame none⟩, ⟨5, .released ip packet mac⟩, ⟨5, .notice (.flushing 22 ip)⟩,
      ⟨5, .notice (.learned ip mac)⟩, ⟨0, .transmitted (Outbound.requestFrame config ip) none⟩,
      ⟨0, .notice (.asking ip config.ip)⟩]
  have hlatest : h.trace.take 8 =
      after ++ [⟨0, .dispatched ip packet .held⟩, ⟨0, .submitted 1 [4, 5] ip 17⟩] := by
    cases hconfig
    subst hip hmac hactions
    decide +kernel
  have hsplit : h.trace = (after ++ [⟨0, .dispatched ip packet .held⟩]) ++
      ⟨0, .submitted 1 [4, 5] ip 17⟩ :: h.trace.drop 8 := by
    conv => lhs; rw [← List.take_append_drop 8 h.trace, hlatest]
    rfl
  have hleft : LeftAs ip after .held frame :=
    .released
      (show after = [] ++ ⟨5, .transmitted frame none⟩ :: ⟨5, .released ip packet mac⟩ ::
        after.drop 2 from rfl)
      (by simp [HeldAgain, Record.held?, after])
  have counted := identifications_count_datagrams config {}
  have strides := counted.1 1 actions
  obtain ⟨hnext, -, -, -, -, hframes, -⟩ := counted.2 h strides
  obtain ⟨mac', header, hfragment⟩ := (hframes _ _ _ _ _ _ _ hsplit).2.2 after [] 0 ip packet .held
    frame rfl (by rw [Outbound.length_packetsOf]; cases hconfig; decide) hleft
  exact ⟨config, h, frame, header, strides, hnext, by rw [hsplit]; rfl, hfragment.parse,
    hfragment.identification⟩

end Host

end HostNet
