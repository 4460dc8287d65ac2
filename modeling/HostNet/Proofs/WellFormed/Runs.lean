import HostNet.Proofs.Faults
import HostNet.Proofs.Scripts
import HostNet.Proofs.WellFormed.Frames

/-!
# Every frame a host builds is well formed

A frame leaves a host at once, or after its packet has waited for an address, and then in
answer to an ARP packet of somebody else.  So what is shown of frames is shown of the
packets that wait as well, and of both at the same time.

* `Action.IsOrdinary` — actions that leave it to the host to build packets and frames.
* `Host.WellBuilt` — all frames that were handed to the link are well formed, and so are all
  packets that wait.
* `WellBuilt.sendPacket`, `WellBuilt.sendDatagram` and so on — sending keeps this, each
  layer on the condition that what it is given is what the layer above it builds.
* `Host.Ordinary` — `WellBuilt`, together with what it takes to be kept by handlers.
* `perform_ordinary` — every ordinary action keeps it.
* `frames_well_formed` — so it holds after every run.

### Which actions are ordinary

Some actions put a frame or a packet on the link as it comes: `sendFrame`, `sendPacket`,
and `sendFragment`, whose numbers are the caller's.  Others change what is called for an
ether type or a protocol.  What a host builds by itself is built by all the others.
-/

namespace HostNet

/-- Whether an action leaves it to the host to build the packets and frames that it sends,
and to its own handlers to answer what it receives. -/
def Action.IsOrdinary : Action → Prop
  | .sendFrame _ _ _ => False
  | .sendPacket _ _ => False
  | .sendFragment _ _ _ _ _ _ => False
  | .onEtherType _ _ => False
  | .onProtocol _ _ => False
  | _ => True

/-- Whether an action is ordinary, and so is whatever it may bring about. -/
def Action.Ordinary (action : Action) : Prop :=
  action.Throughout Action.IsOrdinary fun _ => True

/-- Whether all actions of a script are ordinary, whatever is replied. -/
def Script.Ordinary (script : Script) : Prop :=
  script.Throughout Action.IsOrdinary fun _ => True

namespace Host

/-- **What a host set up with `c` has built is well formed**: the frames it handed to the
link, and the packets that wait, expired or not, each for the address it is kept under. -/
structure WellBuilt (c : Config) (h : Host) : Prop where
  config : h.config = c
  frames : ∀ frame ∈ h.frames, Outbound.WellFormedFrame c frame
  held : ∀ target e, h.held.table.get? target = some e →
    Outbound.WellFormedPacket c e.value.window ∧
      (Header.Ipv4.read e.value.window).destination = target

namespace WellBuilt

variable {c : Config} {h h' : Host}

/-! ### Sending -/

/-- Frames that are well formed may be added. -/
theorem sent (w : WellBuilt c h) {frames : List Bytes} (s : Sent h h' frames)
    (hframes : ∀ frame ∈ frames, Outbound.WellFormedFrame c frame) : WellBuilt c h' := by
  obtain ⟨link, trace, heq⟩ := s.unchanged
  refine ⟨by rw [heq]; exact w.config, fun frame hframe => ?_, fun target e he => ?_⟩
  · rw [s.frames] at hframe
    rcases List.mem_append.1 hframe with hbefore | hnew
    · exact w.frames frame hbefore
    · exact hframes frame hnew
  · rw [heq] at he
    exact w.held target e he

/-- Only the configuration, what waits and what was recorded matter. -/
theorem congr (w : WellBuilt c h) (hconfig : h'.config = h.config) (hheld : h'.held = h.held)
    (htrace : h'.trace = h.trace) : WellBuilt c h' where
  config := hconfig.trans w.config
  frames := by
    rw [Host.frames, observed_congr Event.frame? htrace]
    exact w.frames
  held := by
    rw [hheld]
    exact w.held

theorem emit (w : WellBuilt c h) {e : Event} (he : e.frame? = none) : WellBuilt c (h.emit e) where
  config := w.config
  frames := by
    rw [Host.frames, observed_emit_of_eq_none h he]
    exact w.frames
  held := w.held

theorem log (w : WellBuilt c h) (n : Notice) : WellBuilt c (h.log n) :=
  w.emit (e := .notice n) rfl

theorem sendArpRequest (w : WellBuilt c h) (target : Ipv4Addr) :
    WellBuilt c (h.sendArpRequest target) := by
  refine w.sent (sendArpRequest_sent h target) fun frame hframe => ?_
  rw [List.mem_singleton.1 hframe, w.config]
  exact Outbound.wellFormed_arpFrame c MacAddr.broadcast .request MacAddr.zero target

theorem sendArpReply (w : WellBuilt c h) (target : Ipv4Addr) (mac : MacAddr) :
    WellBuilt c (h.sendArpReply target mac) := by
  refine w.sent (sendArpReply_sent h target mac) fun frame hframe => ?_
  rw [List.mem_singleton.1 hframe, w.config]
  exact Outbound.wellFormed_arpFrame c mac .reply mac target

/-- A well-formed packet may be made to wait for its destination. -/
theorem hold (w : WellBuilt c h) {p : Packet} (hp : Outbound.WellFormedPacket c p.window) :
    WellBuilt c { h with
      held := h.held.set (Header.Ipv4.read p.window).destination p h.clock } where
  config := w.config
  frames := w.frames
  held := by
    intro k e he
    rcases ExpiringTable.table_get?_of_set he with ⟨rfl, rfl⟩ | hbefore
    · exact ⟨hp, rfl⟩
    · exact w.held k e hbefore

/-- **A well-formed packet** that is to go to its destination is sent, dropped or kept. -/
theorem sendPacket (w : WellBuilt c h) {p : Packet}
    (hp : Outbound.WellFormedPacket c p.window) {target : Ipv4Addr}
    (htarget : (Header.Ipv4.read p.window).destination = target) :
    WellBuilt c (h.sendPacket p target) := by
  subst htarget
  cases hcache : h.cache.get? (Header.Ipv4.read p.window).destination h.clock with
  | some mac =>
      refine w.sent (sendPacket_of_fresh h p hcache) fun frame hframe => ?_
      rw [List.mem_singleton.1 hframe, w.config]
      exact Outbound.wellFormed_frame hp mac
  | none =>
      cases hheld : h.held.get? (Header.Ipv4.read p.window).destination h.clock with
      | some waiting =>
          rw [sendPacket_eq_of_waiting h p hcache hheld]
          exact (w.emit rfl).log _
      | none =>
          rw [sendPacket_eq_of_free h p hcache hheld]
          exact ((w.hold hp).emit rfl).sendArpRequest _

/-- A fragment of a length that the host sends is a well-formed packet. -/
theorem sendFragment (w : WellBuilt c h) {p : Packet} (hp : p.size ≤ c.threshold)
    (destination : Ipv4Addr) (protocol : UInt8) (identification : UInt16) {offset : Nat}
    (hoffset : offset / 8 < 65536) (more : Bool) :
    WellBuilt c (h.sendFragment p destination protocol identification offset more) := by
  have hmax : p.size ≤ Header.Ipv4.maxPayload := by
    have hle := c.threshold_le
    simp only [Header.Ipv4.maxPayload]
    omega
  obtain ⟨hpacket, hdestination⟩ := Outbound.wellFormed_fragment c destination protocol
    identification offset more (show p.window.length ≤ c.threshold by
      rw [Packet.length_window]; exact hp)
  rw [sendFragment_eq _ _ _ _ _ _ _ hmax hoffset, w.config]
  rw [← window_fragmentPacket] at hpacket hdestination
  exact w.sendPacket hpacket hdestination

/-- By induction on the pieces, with the place of the first one given up to the end of the
longest datagram. -/
theorem sendPieces (w : WellBuilt c h) (destination : Ipv4Addr) (protocol : UInt8)
    (identification : UInt16) {offset : Nat} {pieces : List Bytes}
    (hpieces : ∀ piece ∈ pieces, piece.length ≤ c.threshold)
    (hfit : offset + pieces.flatten.length ≤ Header.Ipv4.maxPayload) :
    WellBuilt c (h.sendPieces destination protocol identification offset pieces) := by
  induction pieces generalizing h offset with
  | nil => exact w
  | cons piece rest ih =>
      rw [List.flatten_cons, List.length_append] at hfit
      have hpiece : (Packet.ofPayload h.config.headRoom piece).size ≤ c.threshold := by
        rw [Packet.size_ofPayload]
        exact hpieces piece List.mem_cons_self
      have hoffset : offset / 8 < 65536 := by
        simp only [Header.Ipv4.maxPayload] at hfit
        omega
      have hsent := w.sendFragment hpiece destination protocol identification hoffset
        (!rest.isEmpty)
      exact ih hsent (fun q hq => hpieces q (List.mem_cons_of_mem _ hq)) (by omega)

/-- **Whatever is sent as a datagram** goes out in fragments that are well formed. -/
theorem sendDatagram (w : WellBuilt c h) (p : Packet) (destination : Ipv4Addr)
    (protocol : UInt8) : WellBuilt c (h.sendDatagram p destination protocol) := by
  have hsubmitted : WellBuilt c (h.submitting p destination protocol) := by
    have hnext : WellBuilt c { h with nextId := h.nextId + 1 } := w.congr rfl rfl rfl
    exact hnext.emit rfl
  by_cases hmax : p.size ≤ Header.Ipv4.maxPayload
  · by_cases hsize : p.size ≤ h.config.threshold
    · rw [sendDatagram_of_le_threshold h p _ _ hsize]
      rw [w.config] at hsize
      obtain ⟨hpacket, hdestination⟩ := Outbound.wellFormed_fragment c destination protocol
        h.nextId 0 false (show p.window.length ≤ c.threshold by
          rw [Packet.length_window]; exact hsize)
      rw [← window_fragmentPacket] at hpacket hdestination
      rw [w.config]
      exact hsubmitted.sendPacket hpacket hdestination
    · rw [sendDatagram_of_threshold_lt h p _ _ hmax (Nat.not_le.1 hsize), w.config]
      exact (hsubmitted.log _).sendPieces _ _ _ (fun piece => Bytes.length_le_of_mem_chunks)
        (chunks_fit c hmax)
  · rw [sendDatagram_of_oversized h p _ _ (Nat.not_le.1 hmax)]
    exact w.log _

theorem sendUnreachable (w : WellBuilt c h) (undelivered : Packet) (target : Ipv4Addr)
    (what : Unreachable) : WellBuilt c (h.sendUnreachable undelivered target what) := by
  rw [sendUnreachable_eq]
  exact (w.log _).sendDatagram _ _ _

theorem sendSegment (w : WellBuilt c h) (p : Packet) (sourcePort : UInt16)
    (destination : Ipv4Addr) (port : UInt16) :
    WellBuilt c (h.sendSegment p sourcePort destination port) := by
  unfold Host.sendSegment
  split
  · exact w.log _
  · split
    · exact w.emit rfl
    · exact w.sendDatagram _ _ _

/-! ### What the host answers itself -/

theorem learning (w : WellBuilt c h) (arp : Header.Arp) : WellBuilt c (h.learning arp) where
  config := w.config
  frames := (w.log (.learned arp.senderIp arp.senderMac)).frames
  held target e he := w.held target e (ExpiringTable.table_get?_of_delete he)

/-- **A packet that waited** was well formed when it was kept, and still is. -/
theorem receiveArp (w : WellBuilt c h) (p : Packet) : WellBuilt c (h.receiveArp p) := by
  cases harp : Inbound.arp p.window with
  | error refusal =>
      obtain ⟨n, rfl, -⟩ := Inbound.arp_refused harp
      rw [Host.receiveArp, harp]
      exact w.log n
  | ok arp =>
      cases hheld : h.held.get? arp.senderIp h.clock with
      | some waiting =>
          have hflushing : WellBuilt c (h.flushing arp waiting) :=
            ((w.learning arp).log _).emit rfl
          obtain ⟨stamp, hstored, -⟩ := (ExpiringTable.get?_eq_some_iff _ _ _ _).1 hheld
          rw [receiveArp_of_waiting h p harp hheld]
          refine hflushing.sent (sendFrame_sent _ _ _ _) fun frame hframe => ?_
          rw [List.mem_singleton.1 hframe, hflushing.config]
          exact Outbound.wellFormed_frame (w.held _ _ hstored).1 arp.senderMac
      | none =>
          rw [receiveArp_of_free h p harp hheld]
          split
          · exact (w.learning arp).sendArpReply _ _
          · exact w.learning arp

theorem receiveIcmp (w : WellBuilt c h) (p : Packet) (source : Ipv4Addr) :
    WellBuilt c (h.receiveIcmp p source) := by
  unfold Host.receiveIcmp
  split
  · rename_i refusal hrefused
    obtain ⟨n, rfl, -⟩ := Inbound.icmp_refused hrefused
    exact w.log n
  · simp only []
    split
    · exact (w.log _).emit rfl
    · exact (w.log _).sendDatagram _ _ _

end WellBuilt

/-! ### Handlers -/

/-- A host that has built nothing but what is well formed, and that goes on like this as long
as ordinary actions are asked of it: it has its own handlers of ether types and protocols,
and those of its ports ask for ordinary actions only. -/
structure Ordinary (c : Config) (h : Host) : Prop where
  built : WellBuilt c h
  own : h.HasOwnHandlers
  answers : h.AnswersBy Action.IsOrdinary fun _ => True

namespace Ordinary

variable {c : Config} {h h' : Host}

/-- Where the handlers are what they were, only what was built matters. -/
theorem of_quiet (o : Ordinary c h) (q : Quiet h h') (built : WellBuilt c h') : Ordinary c h' where
  built
  own := o.own.congr q.frameHandlers q.protocolHandlers
  answers := o.answers.congr q.ports q.frameHandlers q.protocolHandlers

/-- Whatever else changes, handlers of ports may change to others that ask for ordinary actions
only. -/
theorem congr (o : Ordinary c h) (hconfig : h'.config = h.config) (hheld : h'.held = h.held)
    (htrace : h'.trace = h.trace) (hframe : h'.frameHandlers = h.frameHandlers)
    (hprotocol : h'.protocolHandlers = h.protocolHandlers)
    (answers : h'.AnswersBy Action.IsOrdinary fun _ => True) : Ordinary c h' where
  built := o.built.congr hconfig hheld htrace
  own := o.own.congr hframe hprotocol
  answers

theorem of_sends (o : Ordinary c h) (s : Sends h h') (built : WellBuilt c h') : Ordinary c h' :=
  o.of_quiet (Quiet.of_sends s) built

theorem emit (o : Ordinary c h) {e : Event} (he : e.frame? = none) : Ordinary c (h.emit e) where
  built := o.built.emit he
  own := o.own.congr rfl rfl
  answers := o.answers.congr rfl rfl rfl

theorem log (o : Ordinary c h) (n : Notice) : Ordinary c (h.log n) := o.emit (e := .notice n) rfl

theorem refuse (o : Ordinary c h) {refusal : Refusal} (hdrop : refusal.IsDrop) :
    Ordinary c (h.refuse refusal) := by
  obtain ⟨n, rfl, -⟩ := hdrop
  exact o.log n

theorem sendUnreachable (o : Ordinary c h) (undelivered : Packet) (target : Ipv4Addr)
    (what : Unreachable) : Ordinary c (h.sendUnreachable undelivered target what) :=
  o.of_sends (sendUnreachable_sends h undelivered target what)
    (o.built.sendUnreachable undelivered target what)

section

variable {run : Runner} (hrun : Keeps Action.IsOrdinary (fun _ => True) (Ordinary c) run)
include hrun

theorem enterPort (o : Ordinary c h) (port : UInt16) {bound : Binding} (datagram : Datagram)
    (hbound : ∀ memory datagram, (bound.body memory datagram).Ordinary) :
    Ordinary c (h.enterPort run port bound datagram) := by
  by_cases hrunning : bound.number ∈ h.running
  · rw [Host.enterPort, if_pos hrunning]
    exact o.log _
  · have hmarked : Ordinary c { h with running := bound.number :: h.running } :=
      o.congr rfl rfl rfl rfl rfl (o.answers.congr rfl rfl rfl)
    have hentered : Ordinary c (h.enteringPort port bound datagram) := hmarked.emit rfl
    have hleft := hrun (.port bound.number bound.name) (bound.body bound.memory datagram)
      (h.enteringPort port bound datagram) (hbound bound.memory datagram) hentered
    rw [enterPort_of_idle h run port bound datagram hrunning]
    obtain ⟨ports, heq, -⟩ := leavePort_eq (run (.port bound.number bound.name)
      (bound.body bound.memory datagram) (h.enteringPort port bound datagram)).1 port bound.number
        (run (.port bound.number bound.name) (bound.body bound.memory datagram)
          (h.enteringPort port bound datagram)).2
    have hanswers := hleft.answers.leavePort port bound.number
      (run (.port bound.number bound.name) (bound.body bound.memory datagram)
        (h.enteringPort port bound datagram)).2
    have hnoted := hleft.emit (e := .portLeft bound.number) rfl
    rw [heq] at hanswers ⊢
    exact hnoted.congr rfl rfl rfl rfl rfl hanswers

theorem receiveUdp (o : Ordinary c h) (p : Packet) (source : Ipv4Addr) :
    Ordinary c (h.receiveUdp run p source) := by
  unfold Host.receiveUdp
  split
  · rename_i refusal hrefused
    exact o.refuse (Inbound.udp_refused hrefused)
  · simp only []
    split
    · split
      · exact (o.log _).log _
      · exact (o.log _).sendUnreachable _ _ _
    · rename_i bound hbound
      split
      · exact o.log _
      · exact (o.log _).enterPort hrun _ _ (o.answers.ports _ bound hbound)

/-- The handlers of protocols are the host's own, and have no scripts. -/
theorem handleProtocol (o : Ordinary c h) {protocol : UInt8} {handler : ProtocolHandler}
    (hhandler : h.protocolHandlers.get? protocol = some handler) (p : Packet)
    (source : Ipv4Addr) : Ordinary c (h.handleProtocol run handler p source) := by
  have hcalled := o.emit (e := .protocolHandled handler.name? p.head p.window source) rfl
  rcases o.own.eq_of_protocolHandler hhandler with ⟨-, rfl⟩ | ⟨-, rfl⟩
  · exact hcalled.receiveUdp hrun p source
  · exact hcalled.of_quiet (receiveIcmp_quiet _ p source) (hcalled.built.receiveIcmp p source)

theorem receiveIpv4 (o : Ordinary c h) (p : Packet) : Ordinary c (h.receiveIpv4 run p) := by
  unfold Host.receiveIpv4
  split
  · rename_i refusal hrefused
    exact o.refuse (Inbound.ipv4_refused hrefused)
  · simp only []
    split
    · exact (o.log _).sendUnreachable _ _ _
    · rename_i handler hhandler
      split
      · exact o.log _
      · exact o.handleProtocol hrun hhandler _ _

/-- So are the handlers of ether types. -/
theorem handleFrame (o : Ordinary c h) {etherType : UInt16} {handler : FrameHandler}
    (hhandler : h.frameHandlers.get? etherType = some handler) (p : Packet) (source : MacAddr) :
    Ordinary c (h.handleFrame run handler p source) := by
  have hcalled := o.emit (e := .frameHandled handler.name? p.head p.window source) rfl
  rcases o.own.eq_of_frameHandler hhandler with ⟨-, rfl⟩ | ⟨-, rfl⟩
  · exact hcalled.receiveIpv4 hrun p
  · exact hcalled.of_quiet (receiveArp_quiet _ p) (hcalled.built.receiveArp p)

theorem receiveFrame (o : Ordinary c h) (p : Packet) : Ordinary c (h.receiveFrame run p) := by
  unfold Host.receiveFrame
  split
  · rename_i refusal hrefused
    exact o.refuse (Inbound.ethernet_refused hrefused)
  · split
    · exact o.log _
    · rename_i handler hhandler
      split
      · exact o.log _
      · exact o.handleFrame hrun hhandler _ _

theorem poll (o : Ordinary c h) : Ordinary c (h.poll run).1 := by
  have hlink (link : Link) : Ordinary c { h with link } :=
    o.congr rfl rfl rfl rfl rfl (o.answers.congr rfl rfl rfl)
  cases hreceive : h.link.receive h.rxBuffer.length with
  | mk link received =>
      cases received with
      | error cause =>
          rw [Host.poll, hreceive]
          exact hlink link
      | ok frame? =>
          cases frame? with
          | none =>
              rw [Host.poll, hreceive]
              exact hlink link
          | some frame =>
              obtain ⟨rxBuffer, rxBuffer_length, hpoll⟩ := poll_of_receive h run hreceive
              have hstored : Ordinary c { h with link, rxBuffer, rxBuffer_length } :=
                o.congr rfl rfl rfl rfl rfl (o.answers.congr rfl rfl rfl)
              rw [hpoll]
              exact hstored.receiveFrame hrun _

end

end Ordinary

/-! ### Actions and runs -/

/-- **One ordinary action**; the cases are the constructors of `Action`. -/
theorem perform_ordinary {c : Config} {run : Runner}
    (hrun : Keeps Action.IsOrdinary (fun _ => True) (Ordinary c) run) (h : Host)
    (action : Action) (haction : action.Ordinary) (o : Ordinary c h) :
    Ordinary c (h.perform run action).1 := by
  have hordinary := Action.allowed_of_throughout haction
  -- Links and the clock have no part in what is built.
  have harranged (link : Link) (clock : Nat) : Ordinary c { h with link, clock } :=
    o.congr rfl rfl rfl rfl rfl (o.answers.congr rfl rfl rfl)
  cases action with
  | inject frame => exact harranged (h.link.inject frame) h.clock
  | poll => exact o.poll hrun
  | deliver frame => exact (harranged (h.link.inject frame) h.clock).poll hrun
  | receiveFrame packet => exact o.receiveFrame hrun packet
  | sendFrame packet destination etherType => exact hordinary.elim
  | receiveArp packet => exact o.of_quiet (receiveArp_quiet h packet) (o.built.receiveArp packet)
  | sendPacket packet target => exact hordinary.elim
  | sendArpRequest target =>
      exact o.of_sends (sendArpRequest_sent h target).sends (o.built.sendArpRequest target)
  | sendArpReply target mac =>
      exact o.of_sends (sendArpReply_sent h target mac).sends (o.built.sendArpReply target mac)
  | receiveIpv4 packet => exact o.receiveIpv4 hrun packet
  | sendDatagram packet destination protocol =>
      exact o.of_sends (sendDatagram_sends h packet destination protocol)
        (o.built.sendDatagram packet destination protocol)
  | sendFragment packet destination protocol identification offset more => exact hordinary.elim
  | receiveIcmp packet source =>
      exact o.of_quiet (receiveIcmp_quiet h packet source) (o.built.receiveIcmp packet source)
  | sendUnreachable undelivered target what => exact o.sendUnreachable undelivered target what
  | receiveUdp packet source => exact o.receiveUdp hrun packet source
  | sendSegment packet sourcePort destination port =>
      exact o.of_sends (sendSegment_sends h packet sourcePort destination port)
        (o.built.sendSegment packet sourcePort destination port)
  | sendUdp payload sourcePort destination port =>
      exact o.of_sends (sendSegment_sends h _ sourcePort destination port)
        (o.built.sendSegment _ sourcePort destination port)
  | openPort port name body =>
      rw [Action.Ordinary, Action.Throughout] at haction
      let bound : Binding := { number := h.bindings, name, memory := 0, body }
      have hopened : Ordinary c
          { h with ports := h.ports.insert port bound, bindings := h.bindings + 1 } :=
        o.congr rfl rfl rfl rfl rfl
          ((o.answers.insert_port port bound haction.2).congr rfl rfl rfl)
      exact hopened.emit rfl
  | closePort port =>
      have hclosed : Ordinary c { h with ports := h.ports.erase port } :=
        o.congr rfl rfl rfl rfl rfl (o.answers.erase_port port)
      exact hclosed.emit rfl
  | onEtherType etherType handler => exact hordinary.elim
  | onProtocol protocol handler => exact hordinary.elim
  | advance nanoseconds => exact harranged h.link (h.clock + nanoseconds)
  | setLink send receive =>
      exact harranged { h.link with sendFault := fun _ => send, receiveFault := receive } h.clock
  | listEntries => exact o
  | listPending => exact o
  | showConfig => exact o
  | countSent => exact o
  | refuse cause => exact o
  | batch script =>
      rw [Action.Ordinary, Action.Throughout] at haction
      exact hrun .batch script h haction.2 o

theorem ordinary_kept (c : Config) :
    Kept Action.IsOrdinary (fun _ => True) (Ordinary c) where
  emit h e he o := by
    refine o.emit ?_
    cases e with
    | transmitted frame fault => exact he.elim
    | _ => rfl
  perform _ hrun h action haction o := perform_ordinary hrun h action haction o

theorem start_ordinary (c : Config) (link : Link) : Ordinary c (start c link) := by
  have own := silent_hasOwnHandlers c link
  have hsilent : Ordinary c (silent c link) := {
    built := {
      config := rfl
      frames := fun _ hframe => absurd hframe List.not_mem_nil
      held := fun target e he => by cases (Table.get?_empty target).symm.trans he }
    own
    answers := .of_hasOwnHandlers own fun port bound hbound => by
      cases (Table.get?_empty port).symm.trans hbound }
  exact hsilent.of_sends (sendArpRequest_sent _ _).sends (hsilent.built.sendArpRequest _)

/-- **Every frame the host builds is well formed.**  Set a host up with any configuration that
is accepted, on any link, and ask any ordinary actions of it, with handlers of ports that
ask for nothing else.  Then every frame that it ever handed to the link is from its station,
of a length between that of a header with the least payload and the greatest, and carries
a packet or an ARP packet that is well formed.  And every packet that waits is well formed
and has the address it waits for as its destination. -/
theorem frames_well_formed (config : Config) (link : Link) (depth : Nat) (actions : List Action)
    (hactions : ∀ action ∈ actions, action.Ordinary) :
    (∀ frame ∈ (execAll depth (start config link) actions).frames,
      Outbound.WellFormedFrame config frame) ∧
    ∀ target e, (execAll depth (start config link) actions).held.table.get? target = some e →
      Outbound.WellFormedPacket config e.value.window ∧
        (Header.Ipv4.read e.value.window).destination = target := by
  have hbuilt := ((ordinary_kept config).execAll depth (start config link) actions hactions
    (start_ordinary config link)).built
  exact ⟨hbuilt.frames, hbuilt.held⟩

/-- A host with an echo handler that sends a datagram to a station it has to ask for, and is
polled. -/
theorem frames_well_formed_of_echo :
    ∃ config, Settings.build {} = .ok config ∧
      ∀ frame ∈ (execAll 2 (start config {})
          [.openPort 7 "echo" fun _ d => .ofList [.sendUdp d.payload 7 d.source d.port],
            .sendUdp [1, 2, 3] 7 ⟨10, 0, 0, 2⟩ 9, .poll, .advance 1000000000]).frames,
        Outbound.WellFormedFrame config frame := by
  obtain ⟨config, hconfig⟩ : ∃ config, Settings.build {} = .ok config := ⟨_, rfl⟩
  refine ⟨config, hconfig, (frames_well_formed config {} 2 _ fun action haction => ?_).1⟩
  simp only [List.mem_cons, List.not_mem_nil, or_false] at haction
  rcases haction with rfl | rfl | rfl | rfl
  · simp [Action.Ordinary, Action.Throughout, Action.IsOrdinary, Script.ofList, Script.Throughout]
  all_goals simp [Action.Ordinary, Action.Throughout, Action.IsOrdinary]

end Host

end HostNet
