import HostNet.Proofs.Simulation.Sending

/-!
# Runs that do the same

* `Related.receiveArp`, `Related.receiveFrame` and so on — receiving, which calls handlers.
* `Related.poll` — the next frame of the link.
* `Simulation.RunsRelated` — a runner under which hosts stay related.
* `Related.perform`, `runner_related`, `Related.exec`, `Related.execAll` — actions, scripts
  nested to any depth, and whole runs.
-/

namespace HostNet.Simulation

open Host (Runner Outcome receiveArp_of_waiting receiveArp_of_free enterPort_of_idle
  poll_of_receive_splice)

/-- A runner under which hosts stay related, and scripts end alike. -/
def RunsRelated (m : Simulation) (run : Runner) : Prop :=
  ∀ (caller : Caller) (script : Script) (h h' : Host),
    script.Throughout m.allows (fun _ => True) → m.Related h h' →
      m.Related (run caller script h).1 (run caller script h').1 ∧
        (run caller script h').2 = (run caller script h).2

namespace Related

variable {m : Simulation} {h h' : Host} (s : m.Related h h')
include s

/-! ### What the host answers itself -/

theorem learning (arp : Header.Arp) : m.Related (h.learning arp) (h'.learning arp) := by
  have hlogged := s.log (n := .learned arp.senderIp arp.senderMac) rfl
  exact hlogged.update
    (f := fun h =>
      { h with
        cache := h.cache.set arp.senderIp arp.senderMac h.clock
        held := h.held.delete arp.senderIp })
    (fun _ _ _ hlength => ⟨hlength, rfl⟩) rfl rfl rfl (hlogged.answers.congr rfl rfl rfl)

/-- **A packet that waited** is out of its slot before it is sent. -/
theorem receiveArp (p : Packet) : m.Related (h.receiveArp p) (h'.receiveArp p) := by
  cases harp : Inbound.arp p.window with
  | error refusal =>
      rw [Host.receiveArp, Host.receiveArp, harp]
      exact s.refuse (Inbound.arp_refused harp)
  | ok arp =>
      have hlearned := s.learning arp
      obtain ⟨link, rxBuffer, trace, rxBuffer_length, rfl⟩ := s.unchanged
      cases hheld : h.held.get? arp.senderIp h.clock with
      | some waiting =>
          rw [receiveArp_of_waiting h p harp hheld,
            receiveArp_of_waiting { h with link, rxBuffer, trace, rxBuffer_length } p harp hheld]
          exact ((hlearned.log rfl).emit rfl).sendFrame _ _ _
      | none =>
          rw [receiveArp_of_free h p harp hheld,
            receiveArp_of_free { h with link, rxBuffer, trace, rxBuffer_length } p harp hheld]
          split
          · exact hlearned.sendArpReply _ _
          · exact hlearned

theorem receiveIcmp (p : Packet) (source : Ipv4Addr) :
    m.Related (h.receiveIcmp p source) (h'.receiveIcmp p source) := by
  unfold Host.receiveIcmp
  cases hicmp : Inbound.icmp source p.window with
  | error refusal => exact s.refuse (Inbound.icmp_refused hicmp)
  | ok request =>
      simp only []
      cases Outbound.echoReply request p with
      | error fault => exact (s.log rfl).emit rfl
      | ok reply => exact (s.log rfl).sendDatagram _ _ _

/-! ### Ports -/

theorem remember (port : UInt16) (binding : Nat) (outcome : Outcome) :
    m.Related (h.remember port binding outcome) (h'.remember port binding outcome) := by
  obtain ⟨link, rxBuffer, trace, rxBuffer_length, rfl⟩ := s.unchanged
  cases outcome with
  | stopped => exact s
  | finished memory =>
      unfold Host.remember
      simp only []
      cases hbound : h.ports.get? port with
      | none => exact s
      | some bound =>
          simp only []
          split
          · exact s.update
              (f := fun h => { h with ports := h.ports.insert port { bound with memory } })
              (fun _ _ _ hlength => ⟨hlength, rfl⟩) rfl rfl rfl
              (s.answers.insert_port port _ (s.answers.ports port bound hbound))
          · exact s

theorem leavePort (port : UInt16) (binding : Nat) (outcome : Outcome) :
    m.Related (h.leavePort port binding outcome) (h'.leavePort port binding outcome) := by
  have hleft := (s.emit (e := .portLeft binding) rfl).remember port binding outcome
  exact hleft.update (f := fun h => { h with running := h.running.erase binding })
    (fun _ _ _ hlength => ⟨hlength, rfl⟩) rfl rfl rfl (hleft.answers.congr rfl rfl rfl)

section

variable {run : Runner} (hrun : m.RunsRelated run)
include hrun

theorem enterPort (port : UInt16) {bound : Binding} (datagram : Datagram)
    (hbound : ∀ memory datagram, (bound.body memory datagram).Throughout m.allows fun _ => True) :
    m.Related (h.enterPort run port bound datagram) (h'.enterPort run port bound datagram) := by
  have hentered : m.Related (h.enteringPort port bound datagram)
      (h'.enteringPort port bound datagram) := by
    have hmarked := s.update (f := fun h => { h with running := bound.number :: h.running })
      (fun _ _ _ hlength => ⟨hlength, rfl⟩) rfl rfl rfl (s.answers.congr rfl rfl rfl)
    exact hmarked.emit rfl
  obtain ⟨hleft, houtcome⟩ := hrun (.port bound.number bound.name)
    (bound.body bound.memory datagram) _ _ (hbound _ _) hentered
  obtain ⟨link, rxBuffer, trace, rxBuffer_length, rfl⟩ := s.unchanged
  by_cases hrunning : bound.number ∈ h.running
  · rw [Host.enterPort, Host.enterPort, if_pos hrunning, if_pos hrunning]
    exact s.log rfl
  · rw [enterPort_of_idle h run port bound datagram hrunning,
      enterPort_of_idle { h with link, rxBuffer, trace, rxBuffer_length } run port bound datagram
        hrunning, houtcome]
    exact hleft.leavePort port bound.number _

theorem receiveUdp (p : Packet) (source : Ipv4Addr) :
    m.Related (h.receiveUdp run p source) (h'.receiveUdp run p source) := by
  obtain ⟨link, rxBuffer, trace, rxBuffer_length, rfl⟩ := s.unchanged
  unfold Host.receiveUdp
  simp only []
  cases hudp : Inbound.udp h.config.ip source p.window with
  | error refusal => exact s.refuse (Inbound.udp_refused hudp)
  | ok udp =>
      simp only []
      cases hport : h.ports.get? udp.destination with
      | none =>
          simp only []
          split
          · exact (s.log rfl).log rfl
          · exact (s.log rfl).sendUnreachable _ _ _
      | some bound =>
          simp only []
          split
          · exact s.log rfl
          · exact (s.log rfl).enterPort hrun _ _ (s.answers.ports _ bound hport)

/-! ### Protocols, ether types and the link -/

theorem handleProtocol {handler : ProtocolHandler} (p : Packet) (source : Ipv4Addr)
    (hhandler : handler.Throughout m.allows fun _ => True) :
    m.Related (h.handleProtocol run handler p source) (h'.handleProtocol run handler p source) := by
  have hcalled := s.emit (e := .protocolHandled handler.name? p.head p.window source) rfl
  cases handler with
  | icmp => exact hcalled.receiveIcmp _ _
  | udp => exact hcalled.receiveUdp hrun _ _
  | custom name body =>
      rw [ProtocolHandler.Throughout] at hhandler
      exact (hrun (.protocol name) (body p source) _ _ (hhandler p source) hcalled).1

theorem receiveIpv4 (p : Packet) : m.Related (h.receiveIpv4 run p) (h'.receiveIpv4 run p) := by
  obtain ⟨link, rxBuffer, trace, rxBuffer_length, rfl⟩ := s.unchanged
  unfold Host.receiveIpv4
  simp only []
  cases hip : Inbound.ipv4 h.config.ip p.window with
  | error refusal => exact s.refuse (Inbound.ipv4_refused hip)
  | ok ip =>
      simp only []
      cases hhandler : h.protocolHandlers.get? ip.protocol with
      | none => exact (s.log rfl).sendUnreachable _ _ _
      | some handler =>
          simp only []
          split
          · exact s.log rfl
          · exact s.handleProtocol hrun _ _ (s.answers.protocolHandlers _ handler hhandler)

theorem handleFrame {handler : FrameHandler} (p : Packet) (source : MacAddr)
    (hhandler : handler.Throughout m.allows fun _ => True) :
    m.Related (h.handleFrame run handler p source) (h'.handleFrame run handler p source) := by
  have hcalled := s.emit (e := .frameHandled handler.name? p.head p.window source) rfl
  cases handler with
  | arp => exact hcalled.receiveArp _
  | ipv4 => exact hcalled.receiveIpv4 hrun _
  | custom name body =>
      rw [FrameHandler.Throughout] at hhandler
      exact (hrun (.frame name) (body p source) _ _ (hhandler p source) hcalled).1

theorem receiveFrame (p : Packet) : m.Related (h.receiveFrame run p) (h'.receiveFrame run p) := by
  obtain ⟨link, rxBuffer, trace, rxBuffer_length, rfl⟩ := s.unchanged
  unfold Host.receiveFrame
  cases heth : Inbound.ethernet p.window with
  | error refusal => exact s.refuse (Inbound.ethernet_refused heth)
  | ok ethernet =>
      simp only []
      cases hhandler : h.frameHandlers.get? ethernet.etherType with
      | none => exact s.log rfl
      | some handler =>
          simp only []
          split
          · exact s.log rfl
          · exact s.handleFrame hrun _ _ (s.answers.frameHandlers _ handler hhandler)

/-- **The next frame of the link** is the same on both sides. -/
theorem poll (hpoll : m.allows .poll) :
    m.Related (h.poll run).1 (h'.poll run).1 ∧ (h'.poll run).2 = (h.poll run).2 := by
  obtain ⟨hsame, hlinks⟩ := m.receive _ _ h.rxBuffer.length hpoll s.links
  obtain ⟨link, rxBuffer, trace, rxBuffer_length, rfl⟩ := s.unchanged
  have hcapacity : rxBuffer.length = h.rxBuffer.length :=
    rxBuffer_length.trans h.rxBuffer_length.symm
  cases hreceive : h.link.receive h.rxBuffer.length with
  | mk l received =>
      cases hreceive' : link.receive rxBuffer.length with
      | mk l' received' =>
          rw [← hcapacity] at hsame hlinks hreceive
          simp only [hreceive, hreceive'] at hsame hlinks
          subst hsame
          have hlinked := s.setLink hlinks
          cases received' with
          | error cause =>
              rw [Host.poll, Host.poll, ← hcapacity, hreceive, hreceive']
              exact ⟨hlinked, rfl⟩
          | ok frame? =>
              cases frame? with
              | none =>
                  rw [Host.poll, Host.poll, ← hcapacity, hreceive, hreceive']
                  exact ⟨hlinked, rfl⟩
              | some frame =>
                  rw [hcapacity] at hreceive
                  obtain ⟨hfilled, hpolled⟩ := poll_of_receive_splice h run hreceive
                  obtain ⟨hfilled', hpolled'⟩ := poll_of_receive_splice
                    { h with link, rxBuffer, trace, rxBuffer_length } run hreceive'
                  have hnext : m.Related
                      { h with
                        link := l
                        rxBuffer := h.rxBuffer.splice 0 frame
                        rxBuffer_length := hfilled }
                      { h with
                        link := l'
                        rxBuffer := rxBuffer.splice 0 frame
                        trace
                        rxBuffer_length := hfilled' } :=
                    ⟨⟨l', _, trace, hfilled', rfl⟩, hlinks, m.fill _ _ frame hpoll s.buffers,
                      s.traces, s.answers.congr rfl rfl rfl⟩
                  rw [hpolled, hpolled']
                  exact ⟨hnext.receiveFrame hrun _, rfl⟩

/-! ### Actions, scripts and runs -/

/-- **One action** that the simulation allows, with the same reply; the cases are the
constructors of `Action`. -/
theorem perform (action : Action) (haction : action.Throughout m.allows fun _ => True) :
    m.Related (h.perform run action).1 (h'.perform run action).1 ∧
      (h'.perform run action).2 = (h.perform run action).2 := by
  have hallowed := Action.allowed_of_throughout haction
  cases action with
  | inject frame => exact ⟨s.setLink (m.inject _ _ frame hallowed s.links), rfl⟩
  | poll => exact s.poll hrun hallowed
  | deliver frame =>
      obtain ⟨hinject, hpoll⟩ := m.deliver frame hallowed
      exact (s.setLink (m.inject _ _ frame hinject s.links)).poll hrun hpoll
  | receiveFrame packet => exact ⟨s.receiveFrame hrun packet, rfl⟩
  | sendFrame packet destination etherType => exact ⟨s.sendFrame _ _ _, rfl⟩
  | receiveArp packet => exact ⟨s.receiveArp packet, rfl⟩
  | sendPacket packet target => exact ⟨s.sendPacket _ _, rfl⟩
  | sendArpRequest target => exact ⟨s.sendArpRequest _, rfl⟩
  | sendArpReply target mac => exact ⟨s.sendArpReply _ _, rfl⟩
  | receiveIpv4 packet => exact ⟨s.receiveIpv4 hrun packet, rfl⟩
  | sendDatagram packet destination protocol => exact ⟨s.sendDatagram _ _ _, rfl⟩
  | sendFragment packet destination protocol identification offset more =>
      exact ⟨s.sendFragment _ _ _ _ _ _, rfl⟩
  | receiveIcmp packet source => exact ⟨s.receiveIcmp _ _, rfl⟩
  | sendUnreachable undelivered target what => exact ⟨s.sendUnreachable _ _ _, rfl⟩
  | receiveUdp packet source => exact ⟨s.receiveUdp hrun _ _, rfl⟩
  | sendSegment packet sourcePort destination port => exact ⟨s.sendSegment _ _ _ _, rfl⟩
  | sendUdp payload sourcePort destination port => exact ⟨s.sendUdp _ _ _ _, rfl⟩
  | openPort port name body =>
      rw [Action.Throughout] at haction
      have hopened := s.update
        (f := fun h =>
          { h with
            ports := h.ports.insert port { number := h.bindings, name, memory := 0, body }
            bindings := h.bindings + 1 })
        (fun _ _ _ hlength => ⟨hlength, rfl⟩) rfl rfl rfl
        ((s.answers.insert_port port _ haction.2).congr rfl rfl rfl)
      obtain ⟨link, rxBuffer, trace, rxBuffer_length, rfl⟩ := s.unchanged
      exact ⟨hopened.emit rfl, rfl⟩
  | closePort port =>
      have hclosed := s.update (f := fun h => { h with ports := h.ports.erase port })
        (fun _ _ _ hlength => ⟨hlength, rfl⟩) rfl rfl rfl (s.answers.erase_port port)
      exact ⟨hclosed.emit rfl, rfl⟩
  | onEtherType etherType handler =>
      rw [Action.Throughout] at haction
      exact ⟨s.update
        (f := fun h => { h with frameHandlers := h.frameHandlers.insert etherType handler })
        (fun _ _ _ hlength => ⟨hlength, rfl⟩) rfl rfl rfl
        (s.answers.insert_frameHandler etherType haction.2), rfl⟩
  | onProtocol protocol handler =>
      rw [Action.Throughout] at haction
      exact ⟨s.update
        (f := fun h => { h with protocolHandlers := h.protocolHandlers.insert protocol handler })
        (fun _ _ _ hlength => ⟨hlength, rfl⟩) rfl rfl rfl
        (s.answers.insert_protocolHandler protocol haction.2), rfl⟩
  | advance nanoseconds =>
      exact ⟨s.update (f := fun h => { h with clock := h.clock + nanoseconds })
        (fun _ _ _ hlength => ⟨hlength, rfl⟩) rfl rfl rfl (s.answers.congr rfl rfl rfl), rfl⟩
  | setLink send receive => exact ⟨s.setLink (m.setLink _ _ send receive hallowed s.links), rfl⟩
  | listEntries =>
      obtain ⟨link, rxBuffer, trace, rxBuffer_length, rfl⟩ := s.unchanged
      exact ⟨s, rfl⟩
  | listPending =>
      obtain ⟨link, rxBuffer, trace, rxBuffer_length, rfl⟩ := s.unchanged
      exact ⟨s, rfl⟩
  | showConfig =>
      obtain ⟨link, rxBuffer, trace, rxBuffer_length, rfl⟩ := s.unchanged
      exact ⟨s, rfl⟩
  | countSent =>
      have hcount := m.countSent _ _ hallowed s.links
      exact ⟨s, congrArg Reply.count hcount⟩
  | refuse cause => exact ⟨s, rfl⟩
  | batch script =>
      rw [Action.Throughout] at haction
      exact ⟨(hrun .batch script h h' haction.2 s).1, rfl⟩

end

omit s in
/-- A script does to both what its actions do, by induction on it. -/
theorem script_run {exec : Action → Host → Host × Option Reply}
    (hexec : ∀ (h h' : Host) (action : Action), action.Throughout m.allows (fun _ => True) →
      m.Related h h' →
        m.Related (exec action h).1 (exec action h').1 ∧ (exec action h').2 = (exec action h).2)
    (caller : Caller) :
    ∀ (script : Script) (h h' : Host), script.Throughout m.allows (fun _ => True) →
      m.Related h h' →
        m.Related (script.run exec caller h).1 (script.run exec caller h').1 ∧
          (script.run exec caller h').2 = (script.run exec caller h).2
  | .done memory, h, h', _, s => ⟨s, rfl⟩
  | .fail cause, h, h', _, s => ⟨s.emit rfl, rfl⟩
  | .step action next, h, h', hscript, s => by
      rw [Script.Throughout] at hscript
      obtain ⟨hdone, hsame⟩ := hexec h h' action hscript.1 s
      rw [Script.run, Script.run]
      cases hreply : exec action h with
      | mk h₁ reply? =>
          cases hreply' : exec action h' with
          | mk h₁' reply?' =>
              rw [hreply, hreply'] at hdone hsame
              simp only at hsame
              subst hsame
              cases reply?' with
              | none => exact ⟨hdone, rfl⟩
              | some reply =>
                  exact script_run hexec caller (next reply) _ _ (hscript.2.2 reply)
                    (hdone.emit (e := .replied caller reply) rfl)

end Related

/-- **Scripts nested to any depth** do the same to both, by induction on the depth. -/
theorem runner_related (m : Simulation) (depth : Nat) : m.RunsRelated (Host.runner depth) := by
  induction depth with
  | zero =>
      intro caller script h h' hscript s
      refine Related.script_run (fun h h' action _ s => ?_) caller script h h' hscript s
      exact ⟨s.emit (e := .tooDeep) rfl, rfl⟩
  | succ depth ih =>
      intro caller script h h' hscript s
      refine Related.script_run (fun h h' action haction s => ?_) caller script h h' hscript s
      obtain ⟨hdone, hsame⟩ := s.perform ih action haction
      exact ⟨hdone, congrArg some hsame⟩

namespace Related

variable {m : Simulation} {h h' : Host} (s : m.Related h h') (depth : Nat)
include s

theorem exec (action : Action) (haction : action.Throughout m.allows fun _ => True) :
    m.Related (h.exec depth action).1 (h'.exec depth action).1 ∧
      (h'.exec depth action).2 = (h.exec depth action).2 :=
  s.perform (m.runner_related depth) action haction

/-- **A run**, by induction on its actions. -/
theorem execAll (actions : List Action)
    (hactions : ∀ action ∈ actions, action.Throughout m.allows fun _ => True) :
    m.Related (h.execAll depth actions) (h'.execAll depth actions) := by
  induction actions generalizing h h' with
  | nil => exact s
  | cons action rest ih =>
      have hfirst := (s.exec depth action (hactions action List.mem_cons_self)).1
      exact ih hfirst fun a ha => hactions a (List.mem_cons_of_mem _ ha)

end Related

end HostNet.Simulation
