import HostNet.Proofs.Steps

/-!
# Runs as sequences of strides

A datagram takes many steps, one to give it its identification and one for each of its
packets.  Nothing comes between these, whatever else the host is doing.  Strides keep them
together, and every run is a sequence of them: of whatever is sent or received, a stride is
as much as is done in one go.

* `Host.Stride` — one stride; `Host.Strides` — any number of them.
* `Strides.steps` — strides are steps.
* `perform_strides`, `runner_strides`, `execAll_strides` — actions, scripts nested to any
  depth, and whole runs are sequences of strides.
* `execAll_steps`, `start_steps` — and so of steps.

### Why strides and steps

What was recorded of addresses and of packets that wait is kept by each step, so that steps
are all that a proof about these has to look at.  Which datagram a packet belongs to cannot
be seen from a step; it is the one that was given its identification last.
-/

namespace HostNet.Host

/-- One stride of a host. -/
inductive Stride (h : Host) : Host → Prop where
  /-- Something is recorded. -/
  | note (e : Event) (he : e.IsNote) : Stride h (h.emit e)
  /-- Links, handlers or the clock change. -/
  | arrange (h' : Host) (arranged : Arranged h h') : Stride h h'
  /-- A payload is to be sent as a datagram. -/
  | datagram (p : Packet) (destination : Ipv4Addr) (protocol : UInt8) :
      Stride h (h.sendDatagram p destination protocol)
  /-- A packet that belongs to no such datagram is to go out. -/
  | dispatch (p : Packet) (target : Ipv4Addr) : Stride h (h.sendPacket p target)
  /-- An ARP packet is accepted. -/
  | learn (p : Packet) (arp : Header.Arp) (accepted : Inbound.arp p.window = .ok arp) :
      Stride h (h.receiveArp p)

/-- Any number of strides. -/
def Strides : Host → Host → Prop := Relation.ReflTransGen Stride

/-- A stride is a sequence of steps. -/
theorem Stride.steps {h h' : Host} (stride : Stride h h') : Steps h h' := by
  have hone (step : Step h h') : Steps h h' := (Steps.refl h).step step
  cases stride with
  | note e he => exact hone (.note e he)
  | arrange _ arranged => exact hone (.arrange h' arranged)
  | datagram p destination protocol => exact sendDatagram_steps h p destination protocol
  | dispatch p target => exact hone (.dispatch p target)
  | learn p arp accepted => exact hone (.learn p arp accepted)

namespace Strides

variable {h h₁ h₂ : Host}

theorem refl (h : Host) : Strides h h := Relation.ReflTransGen.refl

theorem trans (first : Strides h h₁) (second : Strides h₁ h₂) : Strides h h₂ :=
  Relation.ReflTransGen.trans first second

theorem stride (first : Strides h h₁) (next : Stride h₁ h₂) : Strides h h₂ :=
  Relation.ReflTransGen.tail first next

theorem emit (first : Strides h h₁) {e : Event} (he : e.IsNote) : Strides h (h₁.emit e) :=
  first.stride (.note e he)

theorem log (first : Strides h h₁) {n : Notice} (hn : (Event.notice n).IsNote) :
    Strides h (h₁.log n) :=
  first.emit hn

theorem arrange (first : Strides h h₁) (arranged : Arranged h₁ h₂) : Strides h h₂ :=
  first.stride (.arrange h₂ arranged)

/-- **Strides are steps**, by induction along them. -/
theorem steps (strides : Strides h h₁) : Steps h h₁ := by
  induction strides with
  | refl => exact Steps.refl h
  | tail _ stride ih => exact ih.trans stride.steps

/-- What was recorded stays recorded. -/
theorem suffix (strides : Strides h h₁) : h.trace <:+ h₁.trace := strides.steps.suffix

end Strides

/-! ### Sending -/

theorem transmit_strides (h : Host) (frame : Bytes) : Strides h (h.transmit frame) := by
  have hlink : Arranged h { h with link := (h.link.send frame).1 } :=
    ⟨rfl, rfl, rfl, rfl, rfl, Nat.le_refl _⟩
  have hsent := ((Strides.refl h).arrange hlink).emit
    (e := .transmitted frame (h.link.send frame).2) trivial
  unfold transmit
  cases hfault : (h.link.send frame).2 with
  | none =>
      rw [hfault] at hsent
      simpa only [hfault] using hsent
  | some cause =>
      rw [hfault] at hsent
      simpa only [hfault] using hsent.log (n := .sendFailed frame.length cause) trivial

theorem sendFrame_strides (h : Host) (p : Packet) (destination : MacAddr) (etherType : UInt16) :
    Strides h (h.sendFrame p destination etherType) := by
  rw [sendFrame_eq]
  exact transmit_strides h _

theorem sendArpRequest_strides (h : Host) (target : Ipv4Addr) :
    Strides h (h.sendArpRequest target) :=
  ((Strides.refl h).log (n := .asking target h.config.ip) trivial).trans (sendFrame_strides _ _ _ _)

theorem sendArpReply_strides (h : Host) (target : Ipv4Addr) (mac : MacAddr) :
    Strides h (h.sendArpReply target mac) :=
  ((Strides.refl h).log (n := .telling h.config.ip h.config.mac target) trivial).trans
    (sendFrame_strides _ _ _ _)

theorem sendPacket_strides (h : Host) (p : Packet) (target : Ipv4Addr) :
    Strides h (h.sendPacket p target) :=
  (Strides.refl h).stride (.dispatch p target)

theorem noteNarrowing_strides (h : Host) (value : Nat) : Strides h (h.noteNarrowing value) := by
  unfold noteNarrowing
  split
  · exact Strides.refl h
  · exact (Strides.refl h).emit (by trivial)

theorem sendFragment_strides (h : Host) (p : Packet) (destination : Ipv4Addr) (protocol : UInt8)
    (identification : UInt16) (offset : Nat) (more : Bool) :
    Strides h (h.sendFragment p destination protocol identification offset more) :=
  ((noteNarrowing_strides h _).trans (noteNarrowing_strides _ _)).trans (sendPacket_strides _ _ _)

theorem sendDatagram_strides (h : Host) (p : Packet) (destination : Ipv4Addr)
    (protocol : UInt8) : Strides h (h.sendDatagram p destination protocol) :=
  (Strides.refl h).stride (.datagram p destination protocol)

theorem sendUnreachable_strides (h : Host) (undelivered : Packet) (target : Ipv4Addr)
    (what : Unreachable) : Strides h (h.sendUnreachable undelivered target what) := by
  rw [sendUnreachable_eq]
  exact ((Strides.refl h).log (by trivial)).trans (sendDatagram_strides _ _ _ _)

theorem sendSegment_strides (h : Host) (p : Packet) (sourcePort : UInt16) (destination : Ipv4Addr)
    (port : UInt16) : Strides h (h.sendSegment p sourcePort destination port) := by
  unfold sendSegment
  split
  · exact (Strides.refl h).log (by trivial)
  · split
    · exact (Strides.refl h).emit (by trivial)
    · exact sendDatagram_strides _ _ _ _

/-! ### Receiving -/

theorem refuse_strides (h : Host) {refusal : Refusal} (hdrop : refusal.IsDrop) :
    Strides h (h.refuse refusal) :=
  (Strides.refl h).emit (Event.isNote_of_isDrop hdrop)

theorem receiveArp_strides (h : Host) (p : Packet) : Strides h (h.receiveArp p) := by
  cases harp : Inbound.arp p.window with
  | error refusal =>
      rw [receiveArp, harp]
      exact refuse_strides h (Inbound.arp_refused harp)
  | ok arp => exact (Strides.refl h).stride (.learn p arp harp)

theorem receiveIcmp_strides (h : Host) (p : Packet) (source : Ipv4Addr) :
    Strides h (h.receiveIcmp p source) := by
  unfold receiveIcmp
  split
  · rename_i refusal hrefused
    exact refuse_strides h (Inbound.icmp_refused hrefused)
  · simp only []
    split
    · exact ((Strides.refl h).log (by trivial)).emit (by trivial)
    · exact ((Strides.refl h).log (by trivial)).trans (sendDatagram_strides _ _ _ _)

/-- A runner that does nothing but take strides. -/
def StridingRunner (run : Runner) : Prop :=
  ∀ caller (script : Script) (h : Host), Strides h (run caller script h).1

section

variable {run : Runner} (hrun : StridingRunner run)
include hrun

/-- What the handler of a port does comes after the record of its call. -/
theorem calledPort_strides (h : Host) (port : UInt16) (bound : Binding) (datagram : Datagram) :
    Strides (h.enteringPort port bound datagram)
      ((run (.port bound.number bound.name) (bound.body bound.memory datagram)
        (h.enteringPort port bound datagram)).1.leavePort port bound.number
          (run (.port bound.number bound.name) (bound.body bound.memory datagram)
            (h.enteringPort port bound datagram)).2) := by
  refine (hrun (.port bound.number bound.name) (bound.body bound.memory datagram) _).trans ?_
  obtain ⟨ports, heq, -⟩ := leavePort_eq _ port bound.number _
  rw [heq]
  exact ((Strides.refl _).emit (by trivial)).arrange ⟨rfl, rfl, rfl, rfl, rfl, Nat.le_refl _⟩

theorem enterPort_strides (h : Host) (port : UInt16) (bound : Binding) (datagram : Datagram) :
    Strides h (h.enterPort run port bound datagram) := by
  by_cases hrunning : bound.number ∈ h.running
  · rw [enterPort, if_pos hrunning]
    exact (Strides.refl h).log (by trivial)
  · rw [enterPort_of_idle h run port bound datagram hrunning]
    have hmarked : Arranged h { h with running := bound.number :: h.running } :=
      ⟨rfl, rfl, rfl, rfl, rfl, Nat.le_refl _⟩
    have hentered : Strides h (h.enteringPort port bound datagram) :=
      ((Strides.refl h).arrange hmarked).emit (by trivial)
    exact hentered.trans (calledPort_strides hrun h port bound datagram)

theorem receiveUdp_strides (h : Host) (p : Packet) (source : Ipv4Addr) :
    Strides h (h.receiveUdp run p source) := by
  unfold receiveUdp
  split
  · rename_i refusal hrefused
    exact refuse_strides h (Inbound.udp_refused hrefused)
  · simp only []
    split
    · split
      · exact ((Strides.refl h).log (by trivial)).log (by trivial)
      · exact ((Strides.refl h).log (by trivial)).trans (sendUnreachable_strides _ _ _ _)
    · split
      · exact (Strides.refl h).log (by trivial)
      · exact ((Strides.refl h).log (by trivial)).trans (enterPort_strides hrun _ _ _ _)

/-- What the handler of a protocol does comes after the record of its call. -/
theorem calledProtocol_strides (h : Host) (handler : ProtocolHandler) (p : Packet)
    (source : Ipv4Addr) :
    Strides (h.emit (.protocolHandled handler.name? p.head p.window source))
      (h.handleProtocol run handler p source) := by
  cases handler with
  | icmp => exact receiveIcmp_strides _ _ _
  | udp => exact receiveUdp_strides hrun _ _ _
  | custom name body => exact hrun _ _ _

theorem handleProtocol_strides (h : Host) (handler : ProtocolHandler) (p : Packet)
    (source : Ipv4Addr) : Strides h (h.handleProtocol run handler p source) :=
  ((Strides.refl h).emit (by trivial)).trans (calledProtocol_strides hrun h handler p source)

theorem receiveIpv4_strides (h : Host) (p : Packet) : Strides h (h.receiveIpv4 run p) := by
  unfold receiveIpv4
  split
  · rename_i refusal hrefused
    exact refuse_strides h (Inbound.ipv4_refused hrefused)
  · simp only []
    split
    · exact ((Strides.refl h).log (by trivial)).trans (sendUnreachable_strides _ _ _ _)
    · split
      · exact (Strides.refl h).log (by trivial)
      · exact handleProtocol_strides hrun _ _ _ _

theorem handleFrame_strides (h : Host) (handler : FrameHandler) (p : Packet) (source : MacAddr) :
    Strides h (h.handleFrame run handler p source) := by
  have hcalled := (Strides.refl h).emit
    (e := .frameHandled handler.name? p.head p.window source) trivial
  cases handler with
  | arp => exact hcalled.trans (receiveArp_strides _ _)
  | ipv4 => exact hcalled.trans (receiveIpv4_strides hrun _ _)
  | custom name body => exact hcalled.trans (hrun _ _ _)

theorem receiveFrame_strides (h : Host) (p : Packet) : Strides h (h.receiveFrame run p) := by
  unfold receiveFrame
  split
  · rename_i refusal hrefused
    exact refuse_strides h (Inbound.ethernet_refused hrefused)
  · split
    · exact (Strides.refl h).log (by trivial)
    · split
      · exact (Strides.refl h).log (by trivial)
      · exact handleFrame_strides hrun _ _ _ _

theorem poll_strides (h : Host) : Strides h (h.poll run).1 := by
  have hlink (link : Link) : Strides h { h with link } :=
    (Strides.refl h).arrange ⟨rfl, rfl, rfl, rfl, rfl, Nat.le_refl _⟩
  cases hreceive : h.link.receive h.rxBuffer.length with
  | mk link received =>
      cases received with
      | error cause =>
          rw [poll, hreceive]
          exact hlink link
      | ok frame? =>
          cases frame? with
          | none =>
              rw [poll, hreceive]
              exact hlink link
          | some frame =>
              obtain ⟨rxBuffer, rxBuffer_length, hpoll⟩ := poll_of_receive h run hreceive
              have hstored : Arranged h { h with link, rxBuffer, rxBuffer_length } :=
                ⟨rfl, rfl, rfl, rfl, rfl, Nat.le_refl _⟩
              rw [hpoll]
              exact ((Strides.refl h).arrange hstored).trans (receiveFrame_strides hrun _ _)

/-! ### Actions, scripts and runs -/

/-- **One action** is a sequence of strides; the cases are the constructors of `Action`. -/
theorem perform_strides (h : Host) (action : Action) : Strides h (h.perform run action).1 := by
  have harrange {h' : Host} (arranged : Arranged h h') : Strides h h' :=
    (Strides.refl h).arrange arranged
  cases action with
  | inject frame => exact harrange ⟨rfl, rfl, rfl, rfl, rfl, Nat.le_refl _⟩
  | poll => exact poll_strides hrun h
  | deliver frame =>
      have hqueued : Arranged h { h with link := h.link.inject frame } :=
        ⟨rfl, rfl, rfl, rfl, rfl, Nat.le_refl _⟩
      exact (harrange hqueued).trans (poll_strides hrun _)
  | receiveFrame packet => exact receiveFrame_strides hrun h packet
  | sendFrame packet destination etherType => exact sendFrame_strides h _ _ _
  | receiveArp packet => exact receiveArp_strides h packet
  | sendPacket packet target => exact sendPacket_strides h _ _
  | sendArpRequest target => exact sendArpRequest_strides h _
  | sendArpReply target mac => exact sendArpReply_strides h _ _
  | receiveIpv4 packet => exact receiveIpv4_strides hrun h packet
  | sendDatagram packet destination protocol => exact sendDatagram_strides h _ _ _
  | sendFragment packet destination protocol identification offset more =>
      exact sendFragment_strides h _ _ _ _ _ _
  | receiveIcmp packet source => exact receiveIcmp_strides h packet source
  | sendUnreachable undelivered target what => exact sendUnreachable_strides h _ _ _
  | receiveUdp packet source => exact receiveUdp_strides hrun h packet source
  | sendSegment packet sourcePort destination port => exact sendSegment_strides h _ _ _ _
  | sendUdp payload sourcePort destination port => exact sendSegment_strides h _ _ _ _
  | openPort port name body =>
      let bound : Binding := { number := h.bindings, name, memory := 0, body }
      have hbound : Arranged h
          { h with ports := h.ports.insert port bound, bindings := h.bindings + 1 } :=
        ⟨rfl, rfl, rfl, rfl, rfl, Nat.le_refl _⟩
      exact (harrange hbound).emit (by trivial)
  | closePort port =>
      have hclosed : Arranged h { h with ports := h.ports.erase port } :=
        ⟨rfl, rfl, rfl, rfl, rfl, Nat.le_refl _⟩
      exact (harrange hclosed).emit (by trivial)
  | onEtherType etherType handler => exact harrange ⟨rfl, rfl, rfl, rfl, rfl, Nat.le_refl _⟩
  | onProtocol protocol handler => exact harrange ⟨rfl, rfl, rfl, rfl, rfl, Nat.le_refl _⟩
  | advance nanoseconds => exact harrange ⟨rfl, rfl, rfl, rfl, rfl, Nat.le_add_right _ _⟩
  | setLink send receive => exact harrange ⟨rfl, rfl, rfl, rfl, rfl, Nat.le_refl _⟩
  | listEntries => exact Strides.refl h
  | listPending => exact Strides.refl h
  | showConfig => exact Strides.refl h
  | countSent => exact Strides.refl h
  | refuse cause => exact Strides.refl h
  | batch script => exact hrun .batch script h

end

/-- A script is a sequence of strides if each of its actions is; by induction on it, along
the replies that it is given. -/
theorem script_run_strides {exec : Action → Host → Host × Option Reply}
    (hexec : ∀ action h, Strides h (exec action h).1) (caller : Caller) :
    ∀ (script : Script) (h : Host), Strides h (script.run exec caller h).1
  | .done _, h => Strides.refl h
  | .fail _, h => (Strides.refl h).emit (by trivial)
  | .step action next, h => by
      have hdone := hexec action h
      rw [Script.run]
      cases hreply : exec action h with
      | mk h₁ reply? =>
          rw [hreply] at hdone
          cases reply? with
          | none => exact hdone
          | some reply =>
              exact (hdone.emit (by trivial)).trans (script_run_strides hexec caller (next reply) _)

/-- **Scripts nested to any depth** are sequences of strides, by induction on the depth. -/
theorem runner_strides (depth : Nat) : StridingRunner (runner depth) := by
  induction depth with
  | zero =>
      intro caller script h
      exact script_run_strides (fun action h => (Strides.refl h).emit (by trivial)) caller script h
  | succ depth ih =>
      intro caller script h
      exact script_run_strides (fun action h => perform_strides ih h action) caller script h

/-- **A run** is a sequence of strides, by induction on its actions. -/
theorem execAll_strides (depth : Nat) (h : Host) (actions : List Action) :
    Strides h (execAll depth h actions) := by
  induction actions generalizing h with
  | nil => exact Strides.refl h
  | cons action rest ih => exact (perform_strides (runner_strides depth) h action).trans (ih _)

theorem start_strides (config : Config) (link : Link) :
    Strides (silent config link) (start config link) :=
  sendArpRequest_strides _ _

/-- A run is a sequence of steps. -/
theorem execAll_steps (depth : Nat) (h : Host) (actions : List Action) :
    Steps h (execAll depth h actions) :=
  (execAll_strides depth h actions).steps

theorem start_steps (config : Config) (link : Link) :
    Steps (silent config link) (start config link) :=
  (start_strides config link).steps

end HostNet.Host
