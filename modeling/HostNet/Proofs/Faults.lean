import HostNet.Proofs.Inbound
import HostNet.Proofs.Packet.Arithmetic
import HostNet.Proofs.Receiving
import HostNet.Proofs.Sending

/-!
# No operation is misapplied

A host slices, subtracts, limits and narrows by operations that record a fault
where they are applied outside of their domain (`HostNet.Checked`).  The guard that
keeps such an operation safe mostly stands in another layer.  This file shows that
the guards line up: whatever is received, and whatever is asked of a host, no fault
is ever recorded by the host itself.

* `Action.InLimits` — an action, and whatever scripts it brings about, asks for no
  fragment whose numbers do not fit into their fields.
* `Host.Reaction run h h'` — what processing a packet can come to: either nothing was
  called and no fault was recorded, or exactly one script was run, by `run`, from a
  host with the faults of `h`.
* `Host.FaultlessBut run h h'` — the part of that which is about faults.
* `never_misapplied` — the statement for all of the host's operations.

### Why fragments are set apart

A fragment is sent with the place in its datagram that the caller gives, and with
any window, while a total length and an offset have 16 bits each.  Every caller
within the host keeps to them (`sendPieces_sends`), but a script may ask for a
fragment with any numbers.  So a run of a host is free of faults as long as scripts
do not do that, and a single step of the host is free of faults up to what the script
it calls does.
-/

namespace HostNet

/-! ### Scripts that keep to the fields of a header -/

mutual

/-- Whether an action, and every script it may bring about, asks only for fragments
whose total length and offset fit into their fields. -/
def Action.InLimits : Action → Prop
  | .sendFragment packet _ _ _ offset _ =>
      packet.size ≤ Header.Ipv4.maxPayload ∧ offset / 8 < 65536
  | .openPort _ _ body => ∀ memory datagram, (body memory datagram).InLimits
  | .onEtherType _ handler => handler.InLimits
  | .onProtocol _ handler => handler.InLimits
  | .batch script => script.InLimits
  | _ => True

/-- Whether all actions of a script are within their limits, whatever is replied. -/
def Script.InLimits : Script → Prop
  | .step action next => action.InLimits ∧ ∀ reply, (next reply).InLimits
  | _ => True

/-- Whether the scripts of the handler of an ether type are within their limits. -/
def FrameHandler.InLimits : FrameHandler → Prop
  | .custom _ body => ∀ packet source, (body packet source).InLimits
  | _ => True

/-- Whether the scripts of the handler of a protocol are within their limits. -/
def ProtocolHandler.InLimits : ProtocolHandler → Prop
  | .custom _ body => ∀ packet source, (body packet source).InLimits
  | _ => True

end

namespace Host

/-- All handlers that the host may call answer by scripts within their limits. -/
structure InLimits (h : Host) : Prop where
  ports : ∀ port bound, h.ports.get? port = some bound →
    ∀ memory datagram, (bound.body memory datagram).InLimits
  frameHandlers : ∀ etherType handler, h.frameHandlers.get? etherType = some handler →
    handler.InLimits
  protocolHandlers : ∀ protocol handler, h.protocolHandlers.get? protocol = some handler →
    handler.InLimits

/-- The handlers that a host is set up with have no scripts. -/
theorem HasOwnHandlers.inLimits {h : Host} (own : h.HasOwnHandlers)
    (hports : ∀ port, h.ports.get? port = none) : h.InLimits where
  ports port bound hbound := by
    rw [hports port] at hbound
    cases hbound
  frameHandlers etherType handler hhandler := by
    rw [own.frameHandlers] at hhandler
    cases handler with
    | arp => simp [FrameHandler.InLimits]
    | ipv4 => simp [FrameHandler.InLimits]
    | custom name body =>
        split at hhandler
        · cases hhandler
        · split at hhandler
          · cases hhandler
          · cases hhandler
  protocolHandlers protocol handler hhandler := by
    rw [own.protocolHandlers] at hhandler
    cases handler with
    | icmp => simp [ProtocolHandler.InLimits]
    | udp => simp [ProtocolHandler.InLimits]
    | custom name body =>
        split at hhandler
        · cases hhandler
        · split at hhandler
          · cases hhandler
          · cases hhandler

/-! ### Steps without a call -/

/-- Since `h` no fault was recorded, and the handlers are what they were. -/
structure Quiet (h h' : Host) : Prop where
  faults : h'.faults = h.faults
  ports : h'.ports = h.ports
  frameHandlers : h'.frameHandlers = h.frameHandlers
  protocolHandlers : h'.protocolHandlers = h.protocolHandlers

namespace Quiet

variable {h h₁ h₂ : Host}

theorem refl (h : Host) : Quiet h h := ⟨rfl, rfl, rfl, rfl⟩

theorem trans (first : Quiet h h₁) (second : Quiet h₁ h₂) : Quiet h h₂ where
  faults := second.faults.trans first.faults
  ports := second.ports.trans first.ports
  frameHandlers := second.frameHandlers.trans first.frameHandlers
  protocolHandlers := second.protocolHandlers.trans first.protocolHandlers

theorem emit (first : Quiet h h₁) {e : Event} (he : e.fault? = none) : Quiet h (h₁.emit e) :=
  first.trans ⟨observed_emit_of_eq_none h₁ he, rfl, rfl, rfl⟩

theorem log (first : Quiet h h₁) (n : Notice) : Quiet h (h₁.log n) :=
  first.emit (e := .notice n) rfl

theorem of_sends (s : Sends h h₁) : Quiet h h₁ := by
  obtain ⟨link, trace, held, nextId, heq⟩ := s.unchanged
  exact ⟨s.faults_eq, by rw [heq], by rw [heq], by rw [heq]⟩

theorem inLimits (q : Quiet h h₁) (hlimits : h.InLimits) : h₁.InLimits where
  ports := by
    rw [q.ports]
    exact hlimits.ports
  frameHandlers := by
    rw [q.frameHandlers]
    exact hlimits.frameHandlers
  protocolHandlers := by
    rw [q.protocolHandlers]
    exact hlimits.protocolHandlers

end Quiet

/-- **A packet that is refused** is no fault, where no packet leads the check to one. -/
theorem refuse_quiet {α : Type} (h : Host) {check : Except Refusal α} {refusal : Refusal}
    (hrefused : check = .error refusal) (hcheck : ∀ f, check ≠ .error (.fault f)) :
    Quiet h (h.refuse refusal) := by
  cases refusal with
  | notice n => exact (Quiet.refl h).log n
  | fault f => exact absurd hrefused (hcheck f)

/-! ### Steps that may call a handler -/

/-- What processing a packet can come to since `h`. -/
inductive Reaction (run : Runner) (h h' : Host) : Prop where
  /-- No handler was called. -/
  | quiet (step : Quiet h h')
  /-- One handler was called, with the host in the state `entered`. -/
  | calling (caller : Caller) (script : Script) (entered : Host) (before : Quiet h entered)
      (script_inLimits : h.InLimits → script.InLimits)
      (faults : h'.faults = (run caller script entered).1.faults)
      (inLimits : (run caller script entered).1.InLimits → h'.InLimits)

/-- Since `h` no fault was recorded but by the script of a handler: either there is
none, or one script was run from a host with the faults of `h`, and the faults now are
those it left. -/
def FaultlessBut (run : Runner) (h h' : Host) : Prop :=
  h'.faults = h.faults ∨
    ∃ caller script entered, entered.faults = h.faults ∧
      h'.faults = (run caller script entered).1.faults

namespace Reaction

variable {run : Runner} {h h₁ h₂ : Host}

theorem after (first : Quiet h h₁) (second : Reaction run h₁ h₂) : Reaction run h h₂ := by
  cases second with
  | quiet step => exact .quiet (first.trans step)
  | calling caller script entered before script_inLimits faults inLimits =>
      exact .calling caller script entered (first.trans before)
        (fun hlimits => script_inLimits (first.inLimits hlimits)) faults inLimits

theorem faultlessBut (r : Reaction run h h₁) : FaultlessBut run h h₁ := by
  cases r with
  | quiet step => exact .inl step.faults
  | calling caller script entered before _ faults _ =>
      exact .inr ⟨caller, script, entered, before.faults, faults⟩

end Reaction

/-! ### What the host answers itself -/

theorem learning_quiet (h : Host) (arp : Header.Arp) : Quiet h (h.learning arp) :=
  ((Quiet.refl h).log (.learned arp.senderIp arp.senderMac)).trans ⟨rfl, rfl, rfl, rfl⟩

theorem flushing_quiet (h : Host) (arp : Header.Arp) (waiting : Packet) :
    Quiet h (h.flushing arp waiting) :=
  ((learning_quiet h arp).log _).emit rfl

theorem receiveArp_quiet (h : Host) (packet : Packet) : Quiet h (h.receiveArp packet) := by
  cases harp : Inbound.arp packet.window with
  | error refusal =>
      rw [receiveArp, harp]
      exact refuse_quiet h harp (Inbound.arp_ne_fault _)
  | ok arp =>
      cases hheld : h.held.get? arp.senderIp h.clock with
      | some waiting =>
          rw [receiveArp_of_waiting h packet harp hheld]
          exact (flushing_quiet h arp waiting).trans
            (Quiet.of_sends (sendFrame_sent _ _ _ _).sends)
      | none =>
          rw [receiveArp_of_free h packet harp hheld]
          split
          · exact (learning_quiet h arp).trans (Quiet.of_sends (sendArpReply_sent _ _ _).sends)
          · exact learning_quiet h arp

theorem receiveIcmp_quiet (h : Host) (packet : Packet) (source : Ipv4Addr) :
    Quiet h (h.receiveIcmp packet source) := by
  unfold receiveIcmp
  split
  · rename_i refusal hrefused
    exact refuse_quiet h hrefused (Inbound.icmp_ne_fault _ _)
  · rename_i request hrequest
    have hsize := Inbound.size_le_of_icmp_ok hrequest
    rw [Packet.length_window] at hsize
    obtain ⟨reply, hreply, -⟩ := Outbound.echoReply_eq_replyMessage request packet hsize
    simp only [hreply]
    exact ((Quiet.refl h).log _).trans (Quiet.of_sends (sendDatagram_sends _ _ _ _))

/-! ### Ports -/

/-- What a handler leaves for the next call does not change its scripts. -/
theorem leavePort_inLimits (h : Host) (port : UInt16) (binding : Nat) (outcome : Outcome)
    (hlimits : h.InLimits) : (h.leavePort port binding outcome).InLimits := by
  obtain ⟨ports, heq, hports⟩ := leavePort_eq h port binding outcome
  rw [heq]
  refine ⟨fun p b hb => ?_, hlimits.frameHandlers, hlimits.protocolHandlers⟩
  rcases hports p with hsame | ⟨bound, memory, hbound, hnew⟩
  · exact hlimits.ports p b (hsame.symm.trans hb)
  · cases hnew.symm.trans hb
    exact hlimits.ports p bound hbound

theorem enterPort_reaction (h : Host) (run : Runner) (port : UInt16) (bound : Binding)
    (datagram : Datagram) (hbound : h.ports.get? port = some bound) :
    Reaction run h (h.enterPort run port bound datagram) := by
  unfold enterPort
  split
  · exact .quiet ((Quiet.refl h).log _)
  · refine .calling (.port bound.number bound.name) (bound.body bound.memory datagram)
      (h.enteringPort port bound datagram) ?_ ?_ ?_ ?_
    · have hrunning : Quiet h { h with running := bound.number :: h.running } :=
        ⟨rfl, rfl, rfl, rfl⟩
      exact hrunning.emit rfl
    · intro hlimits
      exact hlimits.ports port bound hbound _ _
    · exact observed_leavePort _ _ _ _ rfl
    · exact leavePort_inLimits _ _ _ _

theorem receiveUdp_reaction (h : Host) (run : Runner) (packet : Packet) (source : Ipv4Addr) :
    Reaction run h (h.receiveUdp run packet source) := by
  unfold receiveUdp
  split
  · rename_i refusal hrefused
    exact .quiet (refuse_quiet h hrefused (Inbound.udp_ne_fault _ _ _))
  · simp only []
    split
    · split
      · exact .quiet (((Quiet.refl h).log _).log _)
      · exact .quiet (((Quiet.refl h).log _).trans
          (Quiet.of_sends (sendUnreachable_sends _ _ _ _)))
    · rename_i bound hbound
      split
      · exact .quiet ((Quiet.refl h).log _)
      · exact .after ((Quiet.refl h).log _) (enterPort_reaction _ run _ bound _ hbound)

/-! ### Protocols, ether types and the link -/

theorem handleProtocol_reaction (h : Host) (run : Runner) (handler : ProtocolHandler)
    (packet : Packet) (source : Ipv4Addr)
    (hhandler : h.InLimits → handler.InLimits) :
    Reaction run h (h.handleProtocol run handler packet source) := by
  have hcalled : Quiet h
      (h.emit (.protocolHandled handler.name? packet.head packet.window source)) :=
    (Quiet.refl h).emit rfl
  cases handler with
  | icmp => exact .quiet (hcalled.trans (receiveIcmp_quiet _ _ _))
  | udp => exact .after hcalled (receiveUdp_reaction _ _ _ _)
  | custom name body =>
      exact .calling (.protocol name) (body packet source) _ hcalled
        (fun hlimits => hhandler hlimits packet source) rfl id

theorem receiveIpv4_reaction (h : Host) (run : Runner) (packet : Packet) :
    Reaction run h (h.receiveIpv4 run packet) := by
  unfold receiveIpv4
  split
  · rename_i refusal hrefused
    exact .quiet (refuse_quiet h hrefused (Inbound.ipv4_ne_fault _ _))
  · simp only []
    split
    · exact .quiet (((Quiet.refl h).log _).trans
        (Quiet.of_sends (sendUnreachable_sends _ _ _ _)))
    · rename_i handler hhandler
      split
      · exact .quiet ((Quiet.refl h).log _)
      · exact handleProtocol_reaction h run handler _ _
          fun hlimits => hlimits.protocolHandlers _ handler hhandler

theorem handleFrame_reaction (h : Host) (run : Runner) (handler : FrameHandler)
    (packet : Packet) (source : MacAddr) (hhandler : h.InLimits → handler.InLimits) :
    Reaction run h (h.handleFrame run handler packet source) := by
  have hcalled : Quiet h
      (h.emit (.frameHandled handler.name? packet.head packet.window source)) :=
    (Quiet.refl h).emit rfl
  cases handler with
  | arp => exact .quiet (hcalled.trans (receiveArp_quiet _ _))
  | ipv4 => exact .after hcalled (receiveIpv4_reaction _ _ _)
  | custom name body =>
      exact .calling (.frame name) (body packet source) _ hcalled
        (fun hlimits => hhandler hlimits packet source) rfl id

theorem receiveFrame_reaction (h : Host) (run : Runner) (packet : Packet) :
    Reaction run h (h.receiveFrame run packet) := by
  unfold receiveFrame
  split
  · rename_i refusal hrefused
    exact .quiet (refuse_quiet h hrefused (Inbound.ethernet_ne_fault _))
  · split
    · exact .quiet ((Quiet.refl h).log _)
    · rename_i handler hhandler
      split
      · exact .quiet ((Quiet.refl h).log _)
      · exact handleFrame_reaction h run handler _ _
          fun hlimits => hlimits.frameHandlers _ handler hhandler

theorem poll_reaction (h : Host) (run : Runner) : Reaction run h (h.poll run).1 := by
  cases hreceive : h.link.receive h.rxBuffer.length with
  | mk link received =>
      cases received with
      | error cause =>
          rw [poll, hreceive]
          exact .quiet ⟨rfl, rfl, rfl, rfl⟩
      | ok frame? =>
          cases frame? with
          | none =>
              rw [poll, hreceive]
              exact .quiet ⟨rfl, rfl, rfl, rfl⟩
          | some frame =>
              obtain ⟨rxBuffer, rxBuffer_length, hpoll⟩ := poll_of_receive h run hreceive
              have hstored : Quiet h { h with link, rxBuffer, rxBuffer_length } :=
                ⟨rfl, rfl, rfl, rfl⟩
              rw [hpoll]
              exact .after hstored (receiveFrame_reaction _ run _)

/-! ### Whole runs -/

/-- Since `h` no fault was recorded, and the handlers keep to their limits still. -/
structure Safe (h h' : Host) : Prop where
  faults : h'.faults = h.faults
  inLimits : h'.InLimits

theorem Safe.trans {h h₁ h₂ : Host} (first : Safe h h₁) (second : Safe h₁ h₂) : Safe h h₂ :=
  ⟨second.faults.trans first.faults, second.inLimits⟩

theorem Quiet.safe {h h' : Host} (q : Quiet h h') (hlimits : h.InLimits) : Safe h h' :=
  ⟨q.faults, q.inLimits hlimits⟩

/-- A runner under which scripts within their limits record no fault. -/
def SafeRunner (run : Runner) : Prop :=
  ∀ caller (script : Script) (h : Host), script.InLimits → h.InLimits →
    Safe h (run caller script h).1

theorem Reaction.safe {run : Runner} {h h' : Host} (r : Reaction run h h')
    (hrun : SafeRunner run) (hlimits : h.InLimits) : Safe h h' := by
  cases r with
  | quiet step => exact step.safe hlimits
  | calling caller script entered before script_inLimits faults inLimits =>
      have hentered := before.safe hlimits
      have hleft := hrun caller script entered (script_inLimits hlimits) hentered.inLimits
      exact ⟨faults.trans (hleft.faults.trans hentered.faults), inLimits hleft.inLimits⟩

/-- A fragment within its limits is sent as a packet. -/
theorem sendFragment_sends (h : Host) (p : Packet) (destination : Ipv4Addr) (protocol : UInt8)
    (identification : UInt16) (offset : Nat) (more : Bool)
    (hlimits : p.size ≤ Header.Ipv4.maxPayload ∧ offset / 8 < 65536) :
    Sends h (h.sendFragment p destination protocol identification offset more) := by
  rw [sendFragment_eq _ _ _ _ _ _ _ hlimits.1 hlimits.2]
  exact sendPacket_sends _ _ _

/-- **One action** within its limits, whatever the state it is asked for in; the cases
are the constructors of `Action`. -/
theorem perform_safe {run : Runner} (hrun : SafeRunner run) (h : Host) (hlimits : h.InLimits)
    (action : Action) (haction : action.InLimits) : Safe h (h.perform run action).1 := by
  have hquiet {h' : Host} (q : Quiet h h') : Safe h h' := q.safe hlimits
  have hsends {h' : Host} (s : Sends h h') : Safe h h' := (Quiet.of_sends s).safe hlimits
  have hreaction {h' : Host} (r : Reaction run h h') : Safe h h' := r.safe hrun hlimits
  cases action with
  | inject frame => exact hquiet ⟨rfl, rfl, rfl, rfl⟩
  | poll => exact hreaction (poll_reaction h run)
  | deliver frame =>
      have hqueued : Quiet h { h with link := h.link.inject frame } := ⟨rfl, rfl, rfl, rfl⟩
      exact hreaction (.after hqueued (poll_reaction _ run))
  | receiveFrame packet => exact hreaction (receiveFrame_reaction h run packet)
  | sendFrame packet destination etherType => exact hsends (sendFrame_sent h _ _ _).sends
  | receiveArp packet => exact hquiet (receiveArp_quiet h packet)
  | sendPacket packet target => exact hsends (sendPacket_sends h _ _)
  | sendArpRequest target => exact hsends (sendArpRequest_sent h _).sends
  | sendArpReply target mac => exact hsends (sendArpReply_sent h _ _).sends
  | receiveIpv4 packet => exact hreaction (receiveIpv4_reaction h run packet)
  | sendDatagram packet destination protocol => exact hsends (sendDatagram_sends h _ _ _)
  | sendFragment packet destination protocol identification offset more =>
      rw [Action.InLimits] at haction
      exact hsends (sendFragment_sends h _ _ _ _ _ _ haction)
  | receiveIcmp packet source => exact hquiet (receiveIcmp_quiet h packet source)
  | sendUnreachable undelivered target what => exact hsends (sendUnreachable_sends h _ _ _)
  | receiveUdp packet source => exact hreaction (receiveUdp_reaction h run packet source)
  | sendSegment packet sourcePort destination port => exact hsends (sendSegment_sends h _ _ _ _)
  | sendUdp payload sourcePort destination port => exact hsends (sendSegment_sends h _ _ _ _)
  -- A table with one more handler: that one is within its limits by assumption.
  | openPort port name body =>
      rw [Action.InLimits] at haction
      refine ⟨observed_emit_of_eq_none _ rfl, ?_, hlimits.frameHandlers,
        hlimits.protocolHandlers⟩
      intro p b hb
      replace hb := (Table.get?_insert _ _ _ _).symm.trans hb
      split at hb
      · cases hb
        exact haction
      · exact hlimits.ports p b hb
  | closePort port =>
      refine ⟨observed_emit_of_eq_none _ rfl, ?_, hlimits.frameHandlers,
        hlimits.protocolHandlers⟩
      intro p b hb
      replace hb := (Table.get?_erase _ _ _).symm.trans hb
      split at hb
      · cases hb
      · exact hlimits.ports p b hb
  | onEtherType etherType handler =>
      rw [Action.InLimits] at haction
      refine ⟨rfl, hlimits.ports, ?_, hlimits.protocolHandlers⟩
      intro t f hf
      replace hf := (Table.get?_insert _ _ _ _).symm.trans hf
      split at hf
      · cases hf
        exact haction
      · exact hlimits.frameHandlers t f hf
  | onProtocol protocol handler =>
      rw [Action.InLimits] at haction
      refine ⟨rfl, hlimits.ports, hlimits.frameHandlers, ?_⟩
      intro t f hf
      replace hf := (Table.get?_insert _ _ _ _).symm.trans hf
      split at hf
      · cases hf
        exact haction
      · exact hlimits.protocolHandlers t f hf
  | advance nanoseconds => exact hquiet ⟨rfl, rfl, rfl, rfl⟩
  | setLink send receive => exact hquiet ⟨rfl, rfl, rfl, rfl⟩
  | listEntries => exact hquiet (Quiet.refl h)
  | listPending => exact hquiet (Quiet.refl h)
  | showConfig => exact hquiet (Quiet.refl h)
  | countSent => exact hquiet (Quiet.refl h)
  | refuse cause => exact hquiet (Quiet.refl h)
  | batch script =>
      rw [Action.InLimits] at haction
      exact hrun .batch script h haction hlimits

/-- A script within its limits, by induction on it: each reply leads on to a script that
is within its limits again. -/
theorem script_run_safe {exec : Action → Host → Host × Option Reply}
    (hexec : ∀ action h, action.InLimits → h.InLimits → Safe h (exec action h).1)
    (caller : Caller) :
    ∀ (script : Script) (h : Host), script.InLimits → h.InLimits →
      Safe h (script.run exec caller h).1
  | .done _, h, _, hlimits => (Quiet.refl h).safe hlimits
  | .fail _, h, _, hlimits => ((Quiet.refl h).emit rfl).safe hlimits
  | .step action next, h, hscript, hlimits => by
      rw [Script.InLimits] at hscript
      have hdone := hexec action h hscript.1 hlimits
      rw [Script.run]
      cases hreply : exec action h with
      | mk h₁ reply? =>
          rw [hreply] at hdone
          cases reply? with
          | none => exact hdone
          | some reply =>
              have hnoted : Safe h (h₁.emit (.replied caller reply)) :=
                hdone.trans (((Quiet.refl h₁).emit rfl).safe hdone.inLimits)
              exact hnoted.trans (script_run_safe hexec caller (next reply) _
                (hscript.2 reply) hnoted.inLimits)

/-- Scripts within their limits are safe at any depth of nesting, by induction on the
depth: a script calls handlers one level further down. -/
theorem runner_safe (depth : Nat) : SafeRunner (runner depth) := by
  induction depth with
  | zero =>
      intro caller script h hscript hlimits
      refine script_run_safe (fun action h _ hlimits => ?_) caller script h hscript hlimits
      exact ((Quiet.refl h).emit rfl).safe hlimits
  | succ depth ih =>
      intro caller script h hscript hlimits
      refine script_run_safe (fun action h haction hlimits => ?_) caller script h hscript hlimits
      exact perform_safe ih h hlimits action haction

/-- Actions one after another, by induction on them. -/
theorem execAll_safe (depth : Nat) (h : Host) (hlimits : h.InLimits) (actions : List Action)
    (hactions : ∀ action ∈ actions, action.InLimits) : Safe h (execAll depth h actions) := by
  induction actions generalizing h with
  | nil => exact (Quiet.refl h).safe hlimits
  | cons action rest ih =>
      have hfirst : Safe h (h.exec depth action).1 :=
        perform_safe (runner_safe depth) h hlimits action (hactions action List.mem_cons_self)
      exact hfirst.trans (ih _ hfirst.inLimits fun a ha =>
        hactions a (List.mem_cons_of_mem _ ha))

/-- A host that was just set up calls no scripts, and has recorded no fault. -/
theorem start_safe (config : Config) (link : Link) :
    (start config link).InLimits ∧ (start config link).faults = [] := by
  have hannounced := Quiet.of_sends (sendArpRequest_sent (silent config link) config.ip).sends
  have hsilent : (silent config link).InLimits :=
    (silent_hasOwnHandlers config link).inLimits fun port => Table.get?_empty port
  exact ⟨hannounced.inLimits hsilent, hannounced.faults⟩

/-! ### The statement -/

/-- **No operation is ever misapplied.**  From an accepted configuration on, a run of
actions and scripts that keep to the fields of a header records no fault, whatever
frames it is given.  In any state at all, whatever led to it, a frame that is polled
records none but those of the script it calls, and so does a packet passed to any layer
of receiving; a packet passed to any layer of sending, with any window, records none.
And what a layer sees of a packet and does to it is what checked arithmetic on its
positions reads and does, which never fails. -/
theorem never_misapplied :
    (∀ (s : Settings) (config : Config) (link : Link) (depth : Nat) (actions : List Action),
      s.build = .ok config → (∀ action ∈ actions, action.InLimits) →
        (execAll depth (start config link) actions).faults = []) ∧
    (∀ (run : Runner) (h : Host), FaultlessBut run h (h.poll run).1 ∧
      ∀ p : Packet,
        FaultlessBut run h (h.receiveFrame run p) ∧
        FaultlessBut run h (h.receiveIpv4 run p) ∧
        (∀ source, FaultlessBut run h (h.receiveUdp run p source)) ∧
        (h.receiveArp p).faults = h.faults ∧
        (∀ source, (h.receiveIcmp p source).faults = h.faults) ∧
        (∀ target what, (h.sendUnreachable p target what).faults = h.faults) ∧
        (∀ mac etherType, (h.sendFrame p mac etherType).faults = h.faults) ∧
        (∀ target, (h.sendPacket p target).faults = h.faults) ∧
        (∀ target protocol, (h.sendDatagram p target protocol).faults = h.faults) ∧
        (∀ sourcePort target port,
          (h.sendSegment p sourcePort target port).faults = h.faults)) ∧
    ∀ p : Packet, p.raw.window = .ok p.window ∧
      ∀ op : Packet.Operation, p.raw.apply op = .ok ((op.apply p).1.raw, (op.apply p).2) := by
  refine ⟨?_, ?_, fun p => ⟨Packet.Raw.window_raw p, Packet.Raw.apply_raw p⟩⟩
  · intro s config link depth actions _ hactions
    obtain ⟨hlimits, hnone⟩ := start_safe config link
    rw [(execAll_safe depth _ hlimits actions hactions).faults, hnone]
  · intro run h
    refine ⟨(poll_reaction h run).faultlessBut, fun p => ?_⟩
    exact ⟨(receiveFrame_reaction h run p).faultlessBut,
      (receiveIpv4_reaction h run p).faultlessBut,
      fun source => (receiveUdp_reaction h run p source).faultlessBut,
      (receiveArp_quiet h p).faults,
      fun source => (receiveIcmp_quiet h p source).faults,
      fun target what => (sendUnreachable_sends h p target what).faults_eq,
      fun mac etherType => (sendFrame_sent h p mac etherType).sends.faults_eq,
      fun target => (sendPacket_sends h p target).faults_eq,
      fun target protocol => (sendDatagram_sends h p target protocol).faults_eq,
      fun sourcePort target port => (sendSegment_sends h p sourcePort target port).faults_eq⟩

/-- A host with an echo handler, given a frame that is too short for a header and asked
to quote a datagram without bytes. -/
theorem never_misapplied_on_short_frame :
    ∃ config, Settings.build {} = .ok config ∧
      (execAll 2 (start config {})
        [.openPort 7 "echo" fun _ d => .ofList [.sendUdp d.payload 7 d.source d.port],
          .deliver [1, 2, 3],
          .sendUnreachable (Packet.ofPayload 0 []) ⟨10, 0, 0, 1⟩ .port]).faults = [] := by
  refine ⟨_, rfl, never_misapplied.1 {} _ {} 2 _ rfl ?_⟩
  intro action haction
  simp only [List.mem_cons, List.not_mem_nil, or_false] at haction
  rcases haction with rfl | rfl | rfl
  · simp [Action.InLimits, Script.ofList, Script.InLimits]
  · simp [Action.InLimits]
  · simp [Action.InLimits]

end Host

end HostNet
