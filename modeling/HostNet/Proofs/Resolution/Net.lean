import HostNet.Proofs.Delivery
import HostNet.Proofs.Resolution.Exchange
import HostNet.Proofs.Resolution.Quiet

/-!
# Mutual resolution delivers both datagrams

Two hosts on a network that loses nothing, duplicates nothing and delivers in any order.
Each is asked once to send a datagram to the other, at any time, and may have to find
out first where the other is.  Neither datagram is lost and neither is delivered twice.

* `Peer`, `Pairing` — what the two hosts are set up with, and what is asked of it; their
  handlers keep quiet (`Host.KeepsQuiet`).
* `Net`, `Net.Step`, `Net.Reachable` — the two hosts with the frames on their way to each,
  and all that can happen.
* `Message.onWire`, `Net.Follows` — the frames and the states that an `Exchange` stands for.
* `Net.Step.follows` — every step of the network is a step of the exchange.
* `Net.Reachable.exists_settled` — that the two can always be brought to an end.
* `Net.delivered_exactly_once` — the statement.

### Why an exchange in between

The argument that a datagram does not wait for ever is about who has asked whom, and has
nothing to do with bytes or tables (`HostNet.Proofs.Resolution.Exchange`).  What hosts do
with frames is settled here once for each kind of message, without that argument; the
only thing that is needed of it is that a handler is not called a second time.
-/

namespace HostNet

/-- What a host is set up with, and the datagram it is to send. -/
structure Peer where
  config : Config
  /-- What its clock shows, all the time. -/
  clock : Nat
  /-- The port its handler is bound to. -/
  port : UInt16
  name : String
  body : PortHandler
  /-- The port its datagram comes from. -/
  sourcePort : UInt16
  payload : Bytes

/-! ### The network -/

/-- Two peers that can talk to each other: with different addresses and the same limit for
fragments, handlers that keep quiet and datagrams that fit into one fragment. -/
structure Pairing (peers : Side → Peer) : Prop where
  ip_ne : ∀ s, (peers s.other).config.ip ≠ (peers s).config.ip
  threshold_eq : ∀ s, (peers s.other).config.threshold = (peers s).config.threshold
  fits : ∀ s, Header.Udp.size + (peers s).payload.length ≤ (peers s).config.threshold
  quiet : ∀ s, Host.KeepsQuiet (peers s).body

/-- A host, and the frames on their way to it. -/
structure Station where
  host : Host
  inbound : List Bytes
  /-- It was asked to send its datagram. -/
  spoken : Bool

/-- Both hosts. -/
abbrev Net : Type := Side → Station

namespace Net

/-- The network after side `s` has come to `host`: what it sent is on its way. -/
def turn (net : Net) (s : Side) (host : Host) (inbound : List Bytes) (spoken : Bool) : Net :=
  s.assign { host := { host with link := host.link.takeSent.2 }, inbound, spoken }
    { net s.other with inbound := (net s.other).inbound ++ host.link.takeSent.1 }

/-- A host that has announced itself and bound its handler. -/
def opened (depth : Nat) (peer : Peer) : Host :=
  Host.execAll depth (Host.start peer.config {})
    [.advance peer.clock, .openPort peer.port peer.name peer.body]

/-- Both hosts are set up, and their announcements on their way. -/
def start (depth : Nat) (peers : Side → Peer) : Net := fun s => {
  host := { opened depth (peers s) with link := (opened depth (peers s)).link.takeSent.2 }
  inbound := (opened depth (peers s.other)).link.takeSent.1
  spoken := false }

/-- A host is asked for its datagram, or is given any one of the frames on their way to
it. -/
inductive Step (depth : Nat) (peers : Side → Peer) : Net → Net → Prop where
  | send {net : Net} (s : Side) (hspoken : (net s).spoken = false) :
      Step depth peers net (net.turn s
        ((net s).host.exec depth (.sendUdp (peers s).payload (peers s).sourcePort
          (peers s.other).config.ip (peers s.other).port)).1 (net s).inbound true)
  | deliver {net : Net} (s : Side) (before after : List Bytes) (frame : Bytes)
      (hinbound : (net s).inbound = before ++ frame :: after) :
      Step depth peers net (net.turn s ((net s).host.exec depth (.deliver frame)).1
        (before ++ after) (net s).spoken)

/-- The states that the two hosts can come to. -/
inductive Reachable (depth : Nat) (peers : Side → Peer) : Net → Prop where
  | start : Reachable depth peers (start depth peers)
  | step {net net' : Net} (before : Reachable depth peers net) (next : Step depth peers net net') :
      Reachable depth peers net'

end Net

/-! ### What an exchange stands for -/

/-- The call that the datagram of the other side leads to. -/
def Peer.call (peers : Side → Peer) (s : Side) : Call where
  port := (peers s).port
  binding := 0
  datagram := {
    source := (peers s.other).config.ip
    port := (peers s.other).sourcePort
    payload := (peers s.other).payload }

/-- The IPv4 packet that carries the datagram to side `s`. -/
def Peer.packet (peers : Side → Peer) (s : Side) : Bytes :=
  Outbound.datagram (peers s.other).config (peers s).config.ip 0 (peers s.other).sourcePort
    (peers s).port (peers s.other).payload

/-- The frame of a message to side `s`. -/
def Message.onWire (peers : Side → Peer) (s : Side) : Message → Bytes
  | announcement => Outbound.requestFrame (peers s.other).config (peers s.other).config.ip
  | request => Outbound.requestFrame (peers s.other).config (peers s).config.ip
  | reply =>
      Outbound.replyFrame (peers s.other).config (peers s).config.ip (peers s).config.mac
  | datagram =>
      Outbound.frame (peers s.other).config (peers s).config.mac EtherType.ipv4
        (Peer.packet peers s)

/-- Every message but a datagram is an ARP packet that tells where its sender is, and a
question for the receiver if it is a request. -/
theorem Message.onWire_of_ne {peers : Side → Peer} (pairing : Pairing peers) (s : Side)
    {message : Message} (hne : message ≠ .datagram) :
    ∃ mac op targetMac targetIp,
      message.onWire peers s = Outbound.frame (peers s.other).config mac EtherType.arp
        (Header.Arp.new op (peers s.other).config.mac (peers s.other).config.ip targetMac
          targetIp).bytes ∧
      ((op.code = ArpOperation.request.code ∧ targetIp = (peers s).config.ip) ↔
        message = .request) := by
  cases message with
  | announcement =>
      refine ⟨_, .request, _, _, rfl, fun hasked => ?_, nofun⟩
      exact absurd hasked.2 (pairing.ip_ne s)
  | request => exact ⟨_, .request, _, _, rfl, fun _ => rfl, fun _ => ⟨rfl, rfl⟩⟩
  | reply => exact ⟨_, .reply, _, _, rfl, fun hasked => absurd hasked.1 (by decide), nofun⟩
  | datagram => exact absurd rfl hne

/-- Every message fits into the receive buffer. -/
theorem Message.length_onWire_le {peers : Side → Peer} (pairing : Pairing peers) (s : Side)
    (message : Message) : (message.onWire peers s).length ≤ (peers s).config.maxFrame := by
  have hsame : (peers s).config.maxFrame = (peers s.other).config.maxFrame := by
    rw [Config.maxFrame, Config.maxFrame, pairing.threshold_eq s]
  rw [hsame]
  by_cases hdatagram : message = .datagram
  · subst hdatagram
    exact Outbound.length_datagramFrame_le _ _ _ _ _ _ _ (pairing.fits s.other)
  · obtain ⟨mac, op, targetMac, targetIp, heq, -⟩ := onWire_of_ne pairing s hdatagram
    have hthreshold := (peers s.other).config.threshold_ge
    rw [heq]
    refine Outbound.length_frame_le _ _ _ _ ?_
    rw [Header.Arp.length_bytes, Header.Arp.size, Header.Ipv4.size]
    omega

/-- The host of side `s` is as one half of an exchange says. -/
structure Host.Follows (peers : Side → Peer) (s : Side) (x : Half) (h : Host) : Prop where
  config : h.config = (peers s).config
  clock : h.clock = (peers s).clock
  queue : h.link.queue = []
  receiveFault : h.link.receiveFault = none
  reliable : h.link.Reliable
  own : h.HasOwnHandlers
  nextId : x.spoken = false → h.nextId = 0
  cache : h.cache.get? (peers s.other).config.ip (peers s).clock =
    if x.knows then some (peers s.other).config.mac else none
  held : ∀ ip, (h.held.get? ip (peers s).clock).map Packet.window =
    if x.waits = true ∧ ip = (peers s.other).config.ip then some (Peer.packet peers s.other)
    else none
  port : x.got = 0 → ∃ bound, h.ports.get? (peers s).port = some bound ∧ bound.number = 0 ∧
    bound.body = (peers s).body ∧ bound.number ∉ h.running
  calls : h.calls = List.replicate x.got (Peer.call peers s)

/-- A station is as one half of an exchange says. -/
structure Station.Follows (peers : Side → Peer) (s : Side) (x : Half) (station : Station) :
    Prop where
  host : station.host.Follows peers s x
  sent : station.host.link.sent = #[]
  inbound : station.inbound = x.inbound.map (Message.onWire peers s)
  spoken : station.spoken = x.spoken

/-- A network is as an exchange says. -/
def Net.Follows (peers : Side → Peer) (x : Exchange) (net : Net) : Prop :=
  ∀ s, (net s).Follows peers s (x s)

/-! ### Steps of a host -/

namespace Host.Follows

variable {peers : Side → Peer} {s : Side} {x : Half} {h h' : Host}

/-- Taking note of something changes nothing. -/
theorem noted (f : h.Follows peers s x) (n : Noted h h') : h'.Follows peers s x := by
  obtain ⟨trace, heq⟩ := n.unchanged
  have hcalls := n.calls_eq
  subst heq
  exact { f with own := f.own.congr rfl rfl, calls := hcalls.trans f.calls }

/-- What is handed to the link is sent, and nothing else changes. -/
theorem sent (f : h.Follows peers s x) {frames : List Bytes} (hsent : Sent h h' frames) :
    h'.Follows peers s x ∧ h'.link.sent = h.link.sent ++ frames.toArray := by
  obtain ⟨trace, heq⟩ := hsent.eq_sendAll
  have hcalls := hsent.sends.calls_eq
  rw [f.reliable.sendAll frames] at heq
  subst heq
  exact ⟨{ f with own := f.own.congr rfl rfl, calls := hcalls.trans f.calls }, rfl⟩

/-- A datagram has been given its identification. -/
theorem submitting (f : h.Follows peers s x) (p : Packet) (destination : Ipv4Addr)
    (protocol : UInt8) :
    (h.submitting p destination protocol).Follows peers s { x with spoken := true } where
  config := f.config
  clock := f.clock
  queue := f.queue
  receiveFault := f.receiveFault
  reliable := f.reliable
  own := f.own.congr rfl rfl
  nextId := nofun
  cache := f.cache
  held := f.held
  port := f.port
  calls := (sends_of_submitting h p destination protocol).calls_eq.trans f.calls

/-- The datagram has been put to wait for the other side. -/
theorem holding (f : h.Follows peers s x) (p : Packet)
    (hp : p.window = Peer.packet peers s.other) :
    ({ h with held := h.held.set (peers s.other).config.ip p h.clock } : Host).Follows peers s
      { x with waits := true } :=
  { f with
    own := f.own.congr rfl rfl
    held := fun ip => by
      show ((h.held.set (peers s.other).config.ip p h.clock).get? ip _).map _ = _
      rw [f.clock, ExpiringTable.get?_set]
      by_cases hip : ip = (peers s.other).config.ip
      · rw [if_pos hip, if_pos ⟨rfl, hip⟩, Option.map_some, hp]
      · rw [if_neg hip, f.held ip, if_neg (fun hwaits => hip hwaits.2),
          if_neg (fun hwaits => hip hwaits.2)] }

/-- The other side has told where it is, and what waited for it has been taken out. -/
theorem learning (f : h.Follows peers s x) {arp : Header.Arp}
    (hip : arp.senderIp = (peers s.other).config.ip)
    (hmac : arp.senderMac = (peers s.other).config.mac) :
    (h.learning arp).Follows peers s { x with knows := true, waits := false } where
  config := f.config
  clock := f.clock
  queue := f.queue
  receiveFault := f.receiveFault
  reliable := f.reliable
  own := f.own.congr rfl rfl
  nextId := f.nextId
  cache := by
    show (h.cache.set arp.senderIp arp.senderMac h.clock).get? _ _ = _
    rw [f.clock, ExpiringTable.get?_set, if_pos hip.symm, hmac]
    rfl
  held := fun ip => by
    show ((h.held.delete arp.senderIp).get? ip _).map _ = _
    rw [ExpiringTable.get?_delete]
    by_cases heq : ip = arp.senderIp
    · rw [if_pos heq]
      rfl
    · rw [if_neg heq, f.held ip, if_neg (fun hwaits => heq (hwaits.2.trans hip.symm))]
      rfl
  port := f.port
  calls := ((Noted.refl h).log (.learned arp.senderIp arp.senderMac)).calls_eq.trans f.calls

/-- A handler that keeps quiet has been called with the datagram of the other side. -/
theorem called (f : h.Follows peers s x) (pairing : Pairing peers) (depth : Nat)
    (hgot : x.got = 0) {bound : Binding} (hnumber : bound.number = 0)
    (hbody : bound.body = (peers s).body) (hidle : bound.number ∉ h.running) :
    (h.enterPort (runner depth) (peers s).port bound (Peer.call peers s).datagram).Follows peers s
        { x with got := x.got + 1 } ∧
      (h.enterPort (runner depth) (peers s).port bound (Peer.call peers s).datagram).link =
        h.link := by
  have hcalled := enteringPort_calls h (peers s).port bound (Peer.call peers s).datagram
  rw [enterPort_of_idle h _ _ _ _ hidle, hbody]
  have hquiet := pairing.quiet s depth (.port bound.number bound.name) bound.memory
    (Peer.call peers s).datagram (h.enteringPort (peers s).port bound (Peer.call peers s).datagram)
    f.queue
  -- Of what the handler leaves, nothing more is known than that it kept quiet.
  generalize runner depth _ _ _ = left at hquiet ⊢
  obtain ⟨ports, hleft, -⟩ := leavePort_eq left.1 (peers s).port bound.number left.2
  have hcalls : (left.1.leavePort (peers s).port bound.number left.2).calls = left.1.calls :=
    observed_leavePort _ _ _ _ rfl
  rw [hleft] at hcalls ⊢
  refine ⟨?_, hquiet.link⟩
  exact {
    config := hquiet.config.trans f.config
    clock := hquiet.clock.trans f.clock
    queue := (congrArg Link.queue hquiet.link).trans f.queue
    receiveFault := (congrArg Link.receiveFault hquiet.link).trans f.receiveFault
    reliable := fun attempt =>
      (congrArg (fun l : Link => l.sendFault attempt) hquiet.link).trans (f.reliable attempt)
    own := f.own.congr hquiet.frameHandlers hquiet.protocolHandlers
    nextId := fun hspoken => hquiet.nextId.trans (f.nextId hspoken)
    cache := by
      show left.1.cache.get? _ _ = _
      rw [hquiet.cache]
      exact f.cache
    held := fun ip => by
      show (left.1.held.get? ip _).map Packet.window = _
      rw [hquiet.held]
      exact f.held ip
    port := nofun
    calls := by
      refine hcalls.trans (hquiet.calls.trans (hcalled.trans ?_))
      rw [f.calls, hgot, hnumber]
      rfl }

/-- **A host sends its datagram** as its half of the exchange does: at once if it knows
where the other side is, and otherwise it asks. -/
theorem sendUdp (f : h.Follows peers s x) (pairing : Pairing peers) (hspoken : x.spoken = false)
    (hwaits : x.waits = false) :
    let h' := h.sendUdp (peers s).payload (peers s).sourcePort (peers s.other).config.ip
      (peers s.other).port
    h'.Follows peers s x.speak.1 ∧
      h'.link.sent = h.link.sent ++ (x.speak.2.map (Message.onWire peers s.other)).toArray := by
  intro h'
  have hfits := pairing.fits s
  rw [← f.config] at hfits
  by_cases hknows : x.knows = true
  · have hspeak : x.speak = ({ x with spoken := true }, [.datagram]) := if_pos hknows
    have hfresh : h.cache.get? (peers s.other).config.ip h.clock =
        some (peers s.other).config.mac := by
      rw [f.clock, f.cache, if_pos hknows]
    obtain ⟨p, hsent⟩ := sendUdp_sent h (peers s).payload (peers s).sourcePort
      (peers s.other).port hfresh hfits
    have hframe : Outbound.datagramFrame h.config (peers s.other).config.mac
        (peers s.other).config.ip h.nextId (peers s).sourcePort (peers s.other).port
          (peers s).payload = Message.onWire peers s.other .datagram := by
      rw [f.config, f.nextId hspoken, Message.onWire, Peer.packet, Side.other_other]
      rfl
    rw [hframe] at hsent
    rw [hspeak]
    exact (f.submitting p _ _).sent hsent
  · have hspeak : x.speak = ({ x with spoken := true, waits := true }, [.request]) :=
      if_neg hknows
    have hunknown : h.cache.get? (peers s.other).config.ip h.clock = none := by
      rw [f.clock, f.cache, if_neg hknows]
    have hfree : h.held.get? (peers s.other).config.ip h.clock = none := by
      rw [← Option.map_eq_none_iff (f := Packet.window), f.clock, f.held, hwaits]
      rfl
    obtain ⟨p, hwindow, heq⟩ := sendUdp_eq h (peers s).payload (peers s).sourcePort
      (peers s.other).config.ip (peers s.other).port (le_maxDatagram_of_le_threshold hfits)
    have hle : p.size ≤ h.config.threshold := by
      rw [← Packet.length_window, hwindow, Outbound.length_segment]
      exact hfits
    have hpacket : (fragmentPacket h.config p (peers s.other).config.ip Protocol.udp h.nextId 0
        false).window = Peer.packet peers s.other := by
      rw [window_fragmentPacket, hwindow, f.config, f.nextId hspoken, Peer.packet,
        Side.other_other]
      rfl
    have hsent := sendPacket_of_unknown (h.submitting p (peers s.other).config.ip Protocol.udp)
      (fragmentPacket h.config p (peers s.other).config.ip Protocol.udp h.nextId 0 false)
        hunknown hfree
    have hframe : Outbound.requestFrame (h.submitting p (peers s.other).config.ip
        Protocol.udp).config (peers s.other).config.ip =
          Message.onWire peers s.other .request := by
      rw [Message.onWire, Side.other_other]
      exact congrArg (Outbound.requestFrame · _) f.config
    have hresult := ((f.submitting p _ _).holding _ hpacket).sent hsent
    rw [← sendDatagram_of_le_threshold h p _ _ hle, ← heq, hframe] at hresult
    rw [hspeak]
    exact hresult

/-- **A host takes an ARP packet** of the other side as its half of the exchange does: it
sends the datagram that waits, or else answers if it is asked. -/
theorem receiveArp (f : h.Follows peers s x) {op : ArpOperation} {targetMac : MacAddr}
    {targetIp : Ipv4Addr} {message : Message} (p : Packet) {rest : Bytes}
    (hwindow : p.window = (Header.Arp.new op (peers s.other).config.mac
      (peers s.other).config.ip targetMac targetIp).bytes ++ rest)
    (hasked : (op.code = ArpOperation.request.code ∧ targetIp = (peers s).config.ip) ↔
      message = .request) (hne : message ≠ .datagram) :
    (h.receiveArp p).Follows peers s (x.take message).1 ∧
      (h.receiveArp p).link.sent =
        h.link.sent ++ ((x.take message).2.map (Message.onWire peers s.other)).toArray := by
  let arp := Header.Arp.new op (peers s.other).config.mac (peers s.other).config.ip targetMac
    targetIp
  have harp : Inbound.arp p.window = .ok arp := by
    rw [hwindow]
    exact Inbound.arp_of_supported _ _ (Header.Arp.isSupported_new _ _ _ _ _)
  have hheld := f.held (peers s.other).config.ip
  rw [← f.clock] at hheld
  have hlearning : (h.learning arp).Follows peers s { x with knows := true, waits := false } :=
    f.learning rfl rfl
  rw [Half.take_of_ne x hne]
  by_cases hwaits : x.waits = true
  · -- The datagram waits for the sender of this packet.
    rw [if_pos ⟨hwaits, rfl⟩, Option.map_eq_some_iff] at hheld
    obtain ⟨waiting, hwaiting, hpacket⟩ := hheld
    rw [receiveArp_of_waiting h p harp hwaiting]
    have hflushing := hlearning.noted (flushing_noted h arp waiting)
    have hsent := sendFrame_sent (h.flushing arp waiting) waiting arp.senderMac EtherType.ipv4
    have hframe : Outbound.frame (h.flushing arp waiting).config arp.senderMac EtherType.ipv4
        waiting.window = Message.onWire peers s.other .datagram := by
      rw [Message.onWire, Side.other_other, hpacket]
      exact congrArg (Outbound.frame · _ _ _) f.config
    rw [hframe] at hsent
    rw [if_pos hwaits]
    exact hflushing.sent hsent
  · rw [if_neg (fun hw => hwaits hw.1), Option.map_eq_none_iff] at hheld
    rw [receiveArp_of_free h p harp hheld, if_neg hwaits]
    by_cases hrequest : message = .request
    · have hreply : arp.operation = ArpOperation.request.code ∧ arp.targetIp = h.config.ip := by
        rw [f.config]
        exact hasked.2 hrequest
      have hsent := sendArpReply_sent (h.learning arp) arp.senderIp arp.senderMac
      have hframe : Outbound.replyFrame (h.learning arp).config arp.senderIp arp.senderMac =
          Message.onWire peers s.other .reply := by
        rw [Message.onWire, Side.other_other]
        exact congrArg (Outbound.replyFrame · _ _) f.config
      rw [hframe] at hsent
      rw [if_pos hreply, if_pos hrequest]
      exact hlearning.sent hsent
    · have hother : ¬(arp.operation = ArpOperation.request.code ∧ arp.targetIp = h.config.ip) := by
        rw [f.config]
        exact fun hreply => hrequest (hasked.1 hreply)
      rw [if_neg hother, if_neg hrequest]
      exact ⟨hlearning, (Array.append_empty).symm⟩

/-- **A host takes any message** as its half of the exchange does. -/
theorem receiveFrame (f : h.Follows peers s x) (pairing : Pairing peers) (depth : Nat)
    {message : Message} (hgot : message = .datagram → x.got = 0) (p : Packet)
    (hwindow : p.window = message.onWire peers s) :
    (h.receiveFrame (runner depth) p).Follows peers s (x.take message).1 ∧
      (h.receiveFrame (runner depth) p).link.sent =
        h.link.sent ++ ((x.take message).2.map (Message.onWire peers s.other)).toArray := by
  by_cases hdatagram : message = .datagram
  · subst hdatagram
    obtain ⟨bound, hbound, hnumber, hbody, hidle⟩ := f.port (hgot rfl)
    have hsize : Header.Udp.size + (peers s.other).payload.length ≤ Header.Ipv4.maxPayload := by
      have hfits := pairing.fits s.other
      have hthreshold := (peers s.other).config.threshold_le
      simp only [Header.Ipv4.maxPayload]
      omega
    have hframe : p.window = Outbound.datagramFrame (peers s.other).config (peers s).config.mac
        h.config.ip 0 (peers s.other).sourcePort (peers s).port (peers s.other).payload := by
      rw [hwindow, f.config]
      rfl
    obtain ⟨noted, hnoted, hreceived⟩ := receiveFrame_of_datagram h (runner depth) p hframe hsize
      f.own hbound
    obtain ⟨trace, hunchanged⟩ := hnoted.unchanged
    have hidle' : bound.number ∉ noted.running := by
      rw [hunchanged]
      exact hidle
    have hcalled := (f.noted hnoted).called pairing depth (hgot rfl) hnumber hbody hidle'
    have hlink : noted.link = h.link := by rw [hunchanged]
    rw [hreceived]
    refine ⟨hcalled.1, ?_⟩
    rw [← hlink]
    exact (congrArg Link.sent hcalled.2).trans Array.append_empty.symm
  · obtain ⟨mac, op, targetMac, targetIp, hframe, hasked⟩ :=
      Message.onWire_of_ne pairing s hdatagram
    obtain ⟨q, hq, hreceived⟩ := receiveFrame_of_frame h (runner depth) p
      (hwindow.trans hframe) f.own.arp
    have hnoted := f.noted ((Noted.refl h).emit (e := .frameHandled none q.head q.window
      (peers s.other).config.mac) rfl rfl)
    rw [hreceived]
    exact hnoted.receiveArp q hq hasked hdatagram

/-- **A host is given a frame** of a message. -/
theorem deliver (f : h.Follows peers s x) (pairing : Pairing peers) (depth : Nat)
    {message : Message} (hgot : message = .datagram → x.got = 0) :
    let h' := (h.exec depth (.deliver (message.onWire peers s))).1
    h'.Follows peers s (x.take message).1 ∧
      h'.link.sent =
        h.link.sent ++ ((x.take message).2.map (Message.onWire peers s.other)).toArray := by
  intro h'
  have hqueue : (h.link.inject (message.onWire peers s)).queue = [message.onWire peers s] := by
    rw [Link.inject, f.queue]
    rfl
  have hfit : (message.onWire peers s).length ≤ h.config.maxFrame := by
    rw [f.config]
    exact Message.length_onWire_le pairing s message
  obtain ⟨rxBuffer, rxBuffer_length, hpoll⟩ :=
    poll_of_next { h with link := h.link.inject (message.onWire peers s) } (runner depth)
      hqueue f.receiveFault hfit
  let received : Host :=
    { h with
      link := { h.link.inject (message.onWire peers s) with queue := [] }
      rxBuffer, rxBuffer_length }
  have hreceived : received.Follows peers s x :=
    { f with queue := rfl, own := f.own.congr rfl rfl }
  have hh' : h' = received.receiveFrame (runner depth)
      (Packet.ofPayload 0 (message.onWire peers s)) := congrArg Prod.fst hpoll
  rw [hh']
  exact hreceived.receiveFrame pairing depth hgot _ (Packet.window_ofPayload _ _)

/-- A host that has announced itself and bound its handler is at the start of an
exchange. -/
theorem opened (peers : Side → Peer) (depth : Nat) (s : Side) :
    (Net.opened depth (peers s)).Follows peers s (Exchange.start s) ∧
      (Net.opened depth (peers s)).link.sent = #[Message.onWire peers s.other .announcement] := by
  have hsent := sendArpRequest_sent (silent (peers s).config {}) (peers s).config.ip
  have hcalls := hsent.sends.calls_eq
  obtain ⟨trace, heq⟩ := hsent.eq_sendAll
  have hreliable : Link.Reliable {} := fun _ => rfl
  rw [show (silent (peers s).config {}).link = {} from rfl, hreliable.sendAll] at heq
  have hown := silent_hasOwnHandlers (peers s).config {}
  unfold Net.opened start execAll
  rw [heq] at hcalls ⊢
  refine ⟨?_, ?_⟩
  · exact {
      config := rfl
      clock := Nat.zero_add _
      queue := rfl
      receiveFault := rfl
      reliable := hreliable
      own := hown.congr rfl rfl
      nextId := fun _ => rfl
      cache := rfl
      held := fun ip => (if_neg (fun hwaits => by cases hwaits.1)).symm
      port := fun _ =>
        ⟨_, (Table.get?_insert _ _ _ _).trans (if_pos rfl), rfl, rfl, List.not_mem_nil⟩
      calls := (observed_emit_of_eq_none _ rfl).trans hcalls }
  · rw [Message.onWire, Side.other_other]
    rfl

end Host.Follows

/-! ### Steps of the network -/

namespace Net

variable {depth : Nat} {peers : Side → Peer} {net net' : Net} {x : Exchange}

/-- What a host sends is on its way to the other. -/
theorem Follows.turn (f : net.Follows peers x) {s : Side} {host : Host} {mine : Half}
    {sent : List Message} {inbound : List Bytes} {spoken : Bool}
    (hhost : host.Follows peers s mine)
    (hsent : host.link.sent = (sent.map (Message.onWire peers s.other)).toArray)
    (hinbound : inbound = mine.inbound.map (Message.onWire peers s))
    (hspoken : spoken = mine.spoken) :
    Net.Follows peers (x.turn s mine sent) (net.turn s host inbound spoken) := by
  refine (Side.forall_iff s).2 ⟨?_, ?_⟩
  · rw [Net.turn, Exchange.turn, Side.assign_self, Side.assign_self]
    exact {
      host := { hhost with own := hhost.own.congr rfl rfl }
      sent := rfl
      inbound := hinbound
      spoken := hspoken }
  · rw [Net.turn, Exchange.turn, Side.assign_other, Side.assign_other]
    have hother := f s.other
    exact {
      host := { hother.host with }
      sent := hother.sent
      inbound := by
        show (net s.other).inbound ++ host.link.sent.toList = _
        rw [hother.inbound, hsent, List.map_append]
      spoken := hother.spoken }

theorem start_follows (depth : Nat) (peers : Side → Peer) :
    (start depth peers).Follows peers Exchange.start := by
  intro s
  obtain ⟨hhost, -⟩ := Host.Follows.opened peers depth s
  obtain ⟨-, hsent⟩ := Host.Follows.opened peers depth s.other
  rw [Side.other_other] at hsent
  exact {
    host := { hhost with own := hhost.own.congr rfl rfl }
    sent := rfl
    inbound := congrArg Array.toList hsent
    spoken := rfl }

/-- **Every step of the network is a step of the exchange.** -/
theorem Step.follows (pairing : Pairing peers) (step : Step depth peers net net')
    (f : net.Follows peers x) (hinv : x.Inv) :
    ∃ x', Exchange.Step x x' ∧ net'.Follows peers x' := by
  cases step with
  | send s hspoken =>
      have hsilent : (x s).spoken = false := (f s).spoken.symm.trans hspoken
      obtain ⟨hhost, hsent⟩ :=
        (f s).host.sendUdp pairing hsilent ((hinv s).waits_eq_false hsilent)
      rw [(f s).sent, Array.empty_append] at hsent
      refine ⟨_, .send s hsilent, f.turn hhost hsent ?_ ?_⟩
      · rw [(f s).inbound]
        unfold Half.speak
        split <;> rfl
      · unfold Half.speak
        split <;> rfl
  | deliver s before after frame hinbound =>
      have hmap := (f s).inbound.symm.trans hinbound
      obtain ⟨first, rest, hsplit, hfirst, hrest⟩ := List.map_eq_append_iff.1 hmap
      obtain ⟨message, last, hlast, hframe, hafter⟩ := List.map_eq_cons_iff.1 hrest
      subst hlast hfirst hframe hafter
      have hgot : message = .datagram → (x s).got = 0 := by
        intro hdatagram
        refine hinv.got_eq_zero ?_
        rw [hsplit, ← hdatagram]
        exact List.mem_append_right _ List.mem_cons_self
      have htaken : (net s).host.Follows peers s { x s with inbound := first ++ last } :=
        { (f s).host with }
      obtain ⟨hhost, hsent⟩ := htaken.deliver pairing depth hgot
      rw [(f s).sent, Array.empty_append] at hsent
      refine ⟨_, .deliver s first last message hsplit, f.turn hhost hsent ?_ ?_⟩
      · rw [← List.map_append]
        cases message <;> rfl
      · rw [(f s).spoken]
        cases message <;> rfl

/-- Every state that can be reached is one of an exchange that can be reached, by
induction on the steps that lead there. -/
theorem Reachable.follows (pairing : Pairing peers) (reachable : Reachable depth peers net) :
    ∃ x : Exchange, x.Inv ∧ net.Follows peers x := by
  induction reachable with
  | start => exact ⟨Exchange.start, Exchange.start_inv, start_follows depth peers⟩
  | step before next ih =>
      obtain ⟨x, hinv, f⟩ := ih
      obtain ⟨x', hstep, f'⟩ := next.follows pairing f hinv
      exact ⟨x', hstep.inv hinv, f'⟩

/-- Both sides were asked for their datagrams, and no frame is on its way. -/
structure Settled (net : Net) : Prop where
  spoken : ∀ s, (net s).spoken = true
  inbound : ∀ s, (net s).inbound = []

/-- The two hosts can be brought to an end by whatever can happen next; by induction on how
much the exchange has before it. -/
theorem exists_settled_of_follows (pairing : Pairing peers) (net : Net) (x : Exchange)
    (reachable : Reachable depth peers net) (hinv : x.Inv) (f : net.Follows peers x) :
    ∃ last, Reachable depth peers last ∧ last.Settled := by
  have continues {net' : Net} (next : Step depth peers net net') :
      ∃ last, Reachable depth peers last ∧ last.Settled := by
    obtain ⟨x', hstep, f'⟩ := next.follows pairing f hinv
    have hless := hstep.weight_lt
    exact exists_settled_of_follows pairing net' x' (reachable.step next) (hstep.inv hinv) f'
  by_cases hspoken : ∀ s, (net s).spoken = true
  · by_cases hinbound : ∀ s, (net s).inbound = []
    · exact ⟨net, reachable, hspoken, hinbound⟩
    · obtain ⟨s, hs⟩ := Classical.not_forall.1 hinbound
      obtain ⟨frame, after, hcons⟩ := List.exists_cons_of_ne_nil hs
      exact continues (.deliver s [] after frame hcons)
  · obtain ⟨s, hs⟩ := Classical.not_forall.1 hspoken
    exact continues (.send s (Bool.eq_false_iff.2 hs))
termination_by x.totalWeight

/-- **However far the two hosts have come**, they can be brought to an end. -/
theorem Reachable.exists_settled (pairing : Pairing peers)
    (reachable : Reachable depth peers net) :
    ∃ last, Reachable depth peers last ∧ last.Settled := by
  obtain ⟨x, hinv, f⟩ := reachable.follows pairing
  exact exists_settled_of_follows pairing net x reachable hinv f

/-- **Both datagrams are delivered, once each.**  In every state that the two hosts can
come to, in whatever order they were asked for their datagrams and given their frames:
once both were asked and no frame is on its way, the handler of each has been called
exactly once, with the payload, the address and the port of the other, and no datagram
waits for an address. -/
theorem delivered_exactly_once (depth : Nat) (peers : Side → Peer) (pairing : Pairing peers)
    (net : Net) (reachable : Reachable depth peers net) (settled : net.Settled) (s : Side) :
    (net s).host.calls = [{
      port := (peers s).port
      binding := 0
      datagram := {
        source := (peers s.other).config.ip
        port := (peers s.other).sourcePort
        payload := (peers s.other).payload } }] ∧
    (net s).host.pending = [] := by
  obtain ⟨x, hinv, f⟩ := reachable.follows pairing
  have hspoken (t : Side) : (x t).spoken = true := (f t).spoken.symm.trans (settled.spoken t)
  have hinbound (t : Side) : (x t).inbound = [] := by
    have hmap := (f t).inbound
    rw [settled.inbound t] at hmap
    exact List.map_eq_nil_iff.1 hmap.symm
  obtain ⟨hgot, hwaits⟩ := Exchange.delivered_of_settled hinv hspoken hinbound s
  refine ⟨?_, ?_⟩
  · rw [(f s).host.calls, hgot]
    rfl
  · have hlive : (net s).host.held.live (net s).host.clock = [] := by
      rw [List.eq_nil_iff_forall_not_mem]
      rintro ⟨ip, waiting⟩ hmem
      obtain ⟨htable, hfresh⟩ := (ExpiringTable.mem_live_iff _ _ _ _).1 hmem
      have hget := (ExpiringTable.get?_eq_some_iff _ _ _ _).2 ⟨waiting.stamp, htable, hfresh⟩
      have hheld := (f s).host.held ip
      rw [← (f s).host.clock, hget, hwaits] at hheld
      cases hheld
    rw [Host.pending, hlive, List.map_nil, List.mergeSort_nil]

/-- Two hosts with the default settings, the handler of one of which looks up whom its
host knows. -/
theorem delivered_exactly_once_of_two_bytes :
    ∃ (peers : Side → Peer) (net : Net), Reachable 1 peers net ∧ net.Settled ∧
      (net .left).host.calls = [⟨7, 0, ⟨⟨10, 0, 0, 2⟩, 9, [2]⟩⟩] ∧
      (net .right).host.calls = [⟨8, 0, ⟨⟨10, 0, 0, 1⟩, 9, [1]⟩⟩] ∧
      (net .left).host.pending = [] ∧ (net .right).host.pending = [] := by
  obtain ⟨a, ha⟩ : ∃ c, Settings.build {} = .ok c ∧ c.threshold = 1480 ∧ c.ip = ⟨10, 0, 0, 1⟩ :=
    ⟨_, rfl, rfl, rfl⟩
  obtain ⟨b, hb⟩ : ∃ c, Settings.build { ip := ⟨10, 0, 0, 2⟩ } = .ok c ∧ c.threshold = 1480 ∧
      c.ip = ⟨10, 0, 0, 2⟩ := ⟨_, rfl, rfl, rfl⟩
  let left : Peer := {
    config := a, clock := 5, port := 7, name := "sink", body := fun _ _ => .done 0
    sourcePort := 9, payload := [1] }
  let right : Peer := {
    config := b, clock := 0, port := 8, name := "looker"
    body := fun _ _ => .step .listEntries fun _ => .done 1
    sourcePort := 9, payload := [2] }
  let peers : Side → Peer := Side.left.assign left right
  have hip : b.ip ≠ a.ip := by
    rw [ha.2.2, hb.2.2]
    decide
  have hfits (c : Config) (hc : c.threshold = 1480) (byte : UInt8) :
      Header.Udp.size + [byte].length ≤ c.threshold := by
    rw [hc, List.length_singleton]
    decide
  have pairing : Pairing peers := {
    ip_ne := (Side.forall_iff .left).2 ⟨hip, hip.symm⟩
    threshold_eq := (Side.forall_iff .left).2
      ⟨hb.2.1.trans ha.2.1.symm, ha.2.1.trans hb.2.1.symm⟩
    fits := (Side.forall_iff .left).2 ⟨hfits a ha.2.1 1, hfits b hb.2.1 2⟩
    quiet := (Side.forall_iff .left).2
      ⟨Host.keepsQuiet_of_looksUp fun _ _ => .done 0,
        Host.keepsQuiet_of_looksUp fun _ _ => .step trivial fun _ => .done 1⟩ }
  obtain ⟨net, reachable, settled⟩ :=
    Reachable.exists_settled pairing (.start : Reachable 1 peers _)
  have hleft := delivered_exactly_once 1 peers pairing net reachable settled .left
  have hright := delivered_exactly_once 1 peers pairing net reachable settled .right
  refine ⟨peers, net, reachable, settled, hleft.1.trans ?_, hright.1.trans ?_, hleft.2, hright.2⟩
  · rw [← hb.2.2]
    rfl
  · rw [← ha.2.2]
    rfl

end Net

end HostNet
