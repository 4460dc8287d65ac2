import HostNet.Proofs.Strides

/-!
# Runs as sequences of moves

A handler of a port may bring about further calls of handlers, so that calls nest, and all
the while ports are opened and closed and scripts get their replies.  Steps say nothing of
that.  Moves do: every run is a sequence of them as well, however deep the calls in it nest.

* `Event.IsPlain` — events that have no bearing on ports, on calls of their handlers or on
  replies.
* `Host.Plain h h'` — since `h` a host took steps and had nothing to do with these.
* `Host.Move` — one move; `Host.Moves` — any number of them.
* `Moves.admits` — a record of a run that is about these was admitted by the host as it was then.
* `Host.Served` — moves at whose end the same calls are in progress as at their start, and
  in which no call that was in progress before was given a reply.
* `perform_served`, `runner_served`, `execAll_served` — actions, scripts nested to any
  depth, and whole runs.

### Why the last handler called is the first to return

The conditions of a move are about the call entered last: only that one returns, and only
its script is given a reply.  A function that may call a handler cannot see which calls are
in progress around it, and does not have to.  What it does leaves the list of them as it
was, so that after the script of a handler the call of that handler is the last one again.
-/

namespace HostNet

/-- The binding whose handler the script belongs to, if it is the handler of a port. -/
def Caller.binding? : Caller → Option Nat
  | port binding _ => some binding
  | _ => none

namespace Event

/-- Whether the event is neither about a port, nor about a call of the handler of one, nor
about a reply. -/
def IsPlain : Event → Prop
  | portOpened _ _ => False
  | portClosed _ => False
  | portEntered _ _ _ _ _ => False
  | portLeft _ => False
  | replied _ _ => False
  | _ => True

/-- The binding whose handler was given a reply. -/
def answered? : Event → Option Nat
  | replied caller _ => caller.binding?
  | _ => none

theorem IsPlain.answered? {e : Event} (he : e.IsPlain) : e.answered? = none := by
  cases e with
  | replied caller reply => exact he.elim
  | _ => rfl

theorem IsSending.isPlain {e : Event} (he : e.IsSending) : e.IsPlain := by
  cases e with
  | notice n => trivial
  | transmitted frame fault => trivial
  | submitted identification payload destination protocol => trivial
  | dispatched target packet fate => trivial
  | _ => exact he.elim

theorem isPlain_of_isDrop {refusal : Refusal} (hdrop : refusal.IsDrop) :
    refusal.event.IsPlain := by
  obtain ⟨n, rfl, -⟩ := hdrop
  trivial

end Event

namespace Host

/-! ### What has nothing to do with ports -/

/-- Since `h` nothing was done or recorded that concerns ports, calls of their handlers or
replies. -/
structure Settled (h h' : Host) : Prop where
  ports : h'.ports = h.ports
  bindings : h'.bindings = h.bindings
  running : h'.running = h.running
  kinds : Recorded Event.IsPlain h h'

/-- Since `h` steps were taken that have nothing to do with ports. -/
structure Plain (h h' : Host) : Prop extends Settled h h' where
  steps : Steps h h'

namespace Settled

variable {h h₁ h₂ : Host}

theorem refl (h : Host) : Settled h h := ⟨rfl, rfl, rfl, Recorded.refl _ h⟩

theorem trans (first : Settled h h₁) (second : Settled h₁ h₂) : Settled h h₂ where
  ports := second.ports.trans first.ports
  bindings := second.bindings.trans first.bindings
  running := second.running.trans first.running
  kinds := first.kinds.trans second.kinds

theorem emit (first : Settled h h₁) {e : Event} (he : e.IsPlain) : Settled h (h₁.emit e) :=
  first.trans ⟨rfl, rfl, rfl, (Recorded.refl _ h₁).emit he⟩

/-- Sending has nothing to do with ports. -/
theorem of_sends (s : Sends h h₁) : Settled h h₁ := by
  obtain ⟨link, trace, held, nextId, heq⟩ := s.unchanged
  obtain ⟨new, htrace, hnew⟩ := s.kinds
  exact ⟨by rw [heq], by rw [heq], by rw [heq], new, htrace, fun r hr => (hnew r hr).isPlain⟩

end Settled

namespace Plain

variable {h h₁ h₂ : Host}

theorem refl (h : Host) : Plain h h := ⟨Settled.refl h, Steps.refl h⟩

theorem trans (first : Plain h h₁) (second : Plain h₁ h₂) : Plain h h₂ :=
  ⟨first.toSettled.trans second.toSettled, first.steps.trans second.steps⟩

theorem emit (first : Plain h h₁) {e : Event} (hnote : e.IsNote) (hplain : e.IsPlain) :
    Plain h (h₁.emit e) :=
  ⟨first.toSettled.emit hplain, first.steps.emit hnote⟩

theorem log (first : Plain h h₁) {n : Notice} (hn : (Event.notice n).IsNote) :
    Plain h (h₁.log n) :=
  first.emit hn trivial

/-- Links, handlers of protocols and ether types, or the clock change. -/
theorem of_arranged (arranged : Arranged h h₁) (hports : h₁.ports = h.ports)
    (hbindings : h₁.bindings = h.bindings) (hrunning : h₁.running = h.running) :
    Plain h h₁ :=
  ⟨⟨hports, hbindings, hrunning, Recorded.of_trace_eq arranged.trace⟩,
    (Steps.refl h).arrange arranged⟩

end Plain

section

variable (h : Host)

theorem refuse_plain {refusal : Refusal} (hdrop : refusal.IsDrop) : Plain h (h.refuse refusal) :=
  (Plain.refl h).emit (Event.isNote_of_isDrop hdrop) (Event.isPlain_of_isDrop hdrop)

theorem sendFrame_plain (p : Packet) (destination : MacAddr) (etherType : UInt16) :
    Plain h (h.sendFrame p destination etherType) :=
  ⟨.of_sends (sendFrame_sent h _ _ _).sends, (sendFrame_strides h _ _ _).steps⟩

theorem sendArpRequest_plain (target : Ipv4Addr) : Plain h (h.sendArpRequest target) :=
  ⟨.of_sends (sendArpRequest_sent h target).sends, (sendArpRequest_strides h target).steps⟩

theorem sendArpReply_plain (target : Ipv4Addr) (mac : MacAddr) :
    Plain h (h.sendArpReply target mac) :=
  ⟨.of_sends (sendArpReply_sent h target mac).sends, (sendArpReply_strides h target mac).steps⟩

theorem sendPacket_plain (p : Packet) (target : Ipv4Addr) : Plain h (h.sendPacket p target) :=
  ⟨.of_sends (sendPacket_sends h p target), (sendPacket_strides h p target).steps⟩

theorem noteNarrowing_plain (value : Nat) : Plain h (h.noteNarrowing value) := by
  unfold noteNarrowing
  split
  · exact Plain.refl h
  · exact (Plain.refl h).emit trivial trivial

theorem sendFragment_plain (p : Packet) (destination : Ipv4Addr) (protocol : UInt8)
    (identification : UInt16) (offset : Nat) (more : Bool) :
    Plain h (h.sendFragment p destination protocol identification offset more) :=
  ((noteNarrowing_plain h _).trans (noteNarrowing_plain _ _)).trans (sendPacket_plain _ _ _)

theorem sendDatagram_plain (p : Packet) (destination : Ipv4Addr) (protocol : UInt8) :
    Plain h (h.sendDatagram p destination protocol) :=
  ⟨.of_sends (sendDatagram_sends h p _ _), sendDatagram_steps h _ _ _⟩

theorem sendUnreachable_plain (undelivered : Packet) (target : Ipv4Addr) (what : Unreachable) :
    Plain h (h.sendUnreachable undelivered target what) :=
  ⟨.of_sends (sendUnreachable_sends h _ _ _), (sendUnreachable_strides h _ _ _).steps⟩

theorem sendSegment_plain (p : Packet) (sourcePort : UInt16) (destination : Ipv4Addr)
    (port : UInt16) : Plain h (h.sendSegment p sourcePort destination port) :=
  ⟨.of_sends (sendSegment_sends h _ _ _ _), (sendSegment_strides h _ _ _ _).steps⟩

theorem learning_settled (arp : Header.Arp) : Settled h (h.learning arp) :=
  ((Settled.refl h).emit (e := .notice (.learned arp.senderIp arp.senderMac)) trivial).trans
    ⟨rfl, rfl, rfl, Recorded.refl _ _⟩

theorem flushing_settled (arp : Header.Arp) (waiting : Packet) :
    Settled h (h.flushing arp waiting) :=
  ((learning_settled h arp).emit (e := .notice (.flushing waiting.size arp.senderIp))
    trivial).emit trivial

theorem receiveArp_plain (p : Packet) : Plain h (h.receiveArp p) := by
  cases harp : Inbound.arp p.window with
  | error refusal =>
      rw [receiveArp, harp]
      exact refuse_plain h (Inbound.arp_refused harp)
  | ok arp =>
      refine ⟨?_, (receiveArp_strides h p).steps⟩
      cases hheld : h.held.get? arp.senderIp h.clock with
      | some waiting =>
          rw [receiveArp_of_waiting h p harp hheld]
          exact (flushing_settled h arp waiting).trans (.of_sends (sendFrame_sent _ _ _ _).sends)
      | none =>
          rw [receiveArp_of_free h p harp hheld]
          split
          · exact (learning_settled h arp).trans (.of_sends (sendArpReply_sent _ _ _).sends)
          · exact learning_settled h arp

theorem receiveIcmp_plain (p : Packet) (source : Ipv4Addr) :
    Plain h (h.receiveIcmp p source) := by
  unfold receiveIcmp
  split
  · rename_i refusal hrefused
    exact refuse_plain h (Inbound.icmp_refused hrefused)
  · simp only []
    split
    · exact ((Plain.refl h).log (by trivial)).emit trivial trivial
    · exact ((Plain.refl h).log (by trivial)).trans (sendDatagram_plain _ _ _ _)

end

/-! ### Moves -/

/-- The host after a handler was bound to a port. -/
def opening (h : Host) (port : UInt16) (name : String) (body : PortHandler) : Host :=
  { h with
    ports := h.ports.insert port { number := h.bindings, name, memory := 0, body }
    bindings := h.bindings + 1 }.emit (.portOpened port h.bindings)

/-- The host after the handler bound to a port was taken away. -/
def closing (h : Host) (port : UInt16) : Host :=
  { h with ports := h.ports.erase port }.emit (.portClosed port)

/-- Whether a listing that is replied says what there is at present. -/
def IsPresent (h : Host) : Reply → Prop
  | .entries entries => entries = h.entries
  | .addresses addresses => addresses = h.pending
  | _ => True

/-- Whether the call of the handler that the script belongs to, if it is the handler of a
port, was entered last of all that are in progress. -/
def Innermost (h : Host) (caller : Caller) : Prop :=
  ∀ binding, caller.binding? = some binding → h.running.head? = some binding

/-- The last thing the host did was to say that it delivers the datagram, which is for the
port. -/
def Delivers (h : Host) (port : UInt16) (d : Datagram) : Prop :=
  h.trace.head? = some ⟨h.clock, .notice (.delivering d.payload.length d.source d.port port)⟩

/-- One move of a host. -/
inductive Move (h : Host) : Host → Prop where
  /-- Something that has nothing to do with ports. -/
  | plain {h' : Host} (done : Plain h h') : Move h h'
  | openPort (port : UInt16) (name : String) (body : PortHandler) :
      Move h (h.opening port name body)
  | closePort (port : UInt16) : Move h (h.closing port)
  /-- The handler bound to a port is called with a datagram for that, which it is not
  already. -/
  | enterPort (port : UInt16) (bound : Binding) (datagram : Datagram)
      (hdelivers : h.Delivers port datagram) (hbound : h.ports.get? port = some bound)
      (hidle : bound.number ∉ h.running) : Move h (h.enteringPort port bound datagram)
  /-- The handler called last returns. -/
  | leavePort (port : UInt16) (binding : Nat) (outcome : Outcome)
      (hlast : h.running.head? = some binding) : Move h (h.leavePort port binding outcome)
  /-- A script is given a reply. -/
  | reply (caller : Caller) (reply : Reply) (hlast : h.Innermost caller)
      (hpresent : h.IsPresent reply) : Move h (h.emit (.replied caller reply))

/-- Any number of moves. -/
def Moves : Host → Host → Prop := Relation.ReflTransGen Move

namespace Moves

variable {h h₁ h₂ : Host}

theorem refl (h : Host) : Moves h h := Relation.ReflTransGen.refl

theorem trans (first : Moves h h₁) (second : Moves h₁ h₂) : Moves h h₂ :=
  Relation.ReflTransGen.trans first second

theorem move (first : Moves h h₁) (next : Move h₁ h₂) : Moves h h₂ :=
  Relation.ReflTransGen.tail first next

end Moves

/-- A move is a sequence of steps. -/
theorem Move.steps {h h' : Host} (move : Move h h') : Steps h h' := by
  cases move with
  | plain done => exact done.steps
  | openPort port name body =>
      have hbound : Arranged h
          { h with
            ports := h.ports.insert port { number := h.bindings, name, memory := 0, body }
            bindings := h.bindings + 1 } :=
        ⟨rfl, rfl, rfl, rfl, rfl, Nat.le_refl _⟩
      exact ((Steps.refl h).arrange hbound).emit trivial
  | closePort port =>
      have hclosed : Arranged h { h with ports := h.ports.erase port } :=
        ⟨rfl, rfl, rfl, rfl, rfl, Nat.le_refl _⟩
      exact ((Steps.refl h).arrange hclosed).emit trivial
  | enterPort port bound datagram _ _ _ =>
      have hmarked : Arranged h { h with running := bound.number :: h.running } :=
        ⟨rfl, rfl, rfl, rfl, rfl, Nat.le_refl _⟩
      exact ((Steps.refl h).arrange hmarked).emit trivial
  | leavePort port binding outcome _ =>
      obtain ⟨ports, heq, -⟩ := leavePort_eq h port binding outcome
      rw [heq]
      exact ((Steps.refl h).emit (by trivial)).arrange ⟨rfl, rfl, rfl, rfl, rfl, Nat.le_refl _⟩
  | reply caller reply _ _ => exact (Steps.refl h).emit trivial

/-- **Moves are steps**, by induction along them. -/
theorem Moves.steps {h h' : Host} (moves : Moves h h') : Steps h h' := by
  induction moves with
  | refl => exact Steps.refl _
  | tail _ move ih => exact ih.trans move.steps

/-! ### What a move records -/

theorem Move.suffix {h h' : Host} (move : Move h h') : h.trace <:+ h'.trace :=
  move.steps.suffix

/-- What a host has to be like for an event to be recorded that concerns ports, calls of their
handlers or replies. -/
def Admits (h : Host) : Event → Prop
  | .portOpened _ binding => binding = h.bindings
  | .portEntered port binding _ _ datagram =>
      (∃ bound, h.ports.get? port = some bound ∧ bound.number = binding) ∧
        binding ∉ h.running ∧ h.Delivers port datagram
  | .portLeft binding => h.running.head? = some binding
  | .replied caller reply => h.Innermost caller ∧ h.IsPresent reply
  | _ => True

/-- A record was there before, or it comes after all that was. -/
theorem split_suffix {trace trace' later past : List Record} {r : Record}
    (hsuffix : trace <:+ trace') (hsplit : trace' = later ++ r :: past) :
    (∃ earlier, trace = earlier ++ r :: past) ∨ trace <:+ past := by
  obtain ⟨new, rfl⟩ := hsuffix
  rcases List.append_eq_append_iff.1 hsplit with ⟨earlier, -, hold⟩ | ⟨between, -, hpast⟩
  · exact .inl ⟨earlier, hold⟩
  · cases between with
    | nil => exact .inl ⟨[], hpast.symm⟩
    | cons first rest => exact .inr ⟨rest, (List.cons.inj hpast).2.symm⟩

/-- A record that was not there before is one of the new ones. -/
theorem split_new {trace new later past : List Record} {r : Record}
    (hsplit : new ++ trace = later ++ r :: past) (hnew : trace <:+ past) :
    ∃ between, new = later ++ r :: between ∧ past = between ++ trace := by
  obtain ⟨between, rfl⟩ := hnew
  have hnew : new ++ trace = (later ++ r :: between) ++ trace := by
    rw [hsplit, List.append_assoc, List.cons_append]
  exact ⟨between, List.append_cancel_right hnew, rfl⟩

/-- Where there is one new record, it is that. -/
theorem split_cons {trace later past : List Record} {r r' : Record}
    (hsplit : r' :: trace = later ++ r :: past) (hnew : trace <:+ past) :
    r = r' ∧ past = trace := by
  have hadded : [r'] ++ trace = later ++ r :: past := hsplit
  obtain ⟨between, hone, rfl⟩ := split_new hadded hnew
  cases later with
  | nil =>
      cases hone
      exact ⟨rfl, rfl⟩
  | cons first rest => exact absurd (List.cons.inj hone).2.symm (by simp)

/-- **What a move records** is plain, or else the one record of a host that admits it. -/
theorem Move.admits {h h' : Host} (move : Move h h') {later past : List Record} {r : Record}
    (hsplit : h'.trace = later ++ r :: past) (hnew : h.trace <:+ past) :
    r.event.IsPlain ∨ past = h.trace ∧ r.time = h.clock ∧ h.Admits r.event := by
  have hone {e : Event} (htrace : h'.trace = ⟨h.clock, e⟩ :: h.trace) (he : h.Admits e) :
      r.event.IsPlain ∨ past = h.trace ∧ r.time = h.clock ∧ h.Admits r.event := by
    obtain ⟨rfl, rfl⟩ := split_cons (htrace.symm.trans hsplit) hnew
    exact .inr ⟨rfl, rfl, he⟩
  cases move with
  | plain done =>
      obtain ⟨new, htrace, hplain⟩ := done.kinds
      obtain ⟨between, rfl, -⟩ := split_new (htrace.symm.trans hsplit) hnew
      exact .inl (hplain r (List.mem_append_right _ List.mem_cons_self))
  | openPort port name body => exact hone rfl rfl
  | closePort port => exact hone rfl trivial
  | enterPort port bound datagram hdelivers hbound hidle =>
      exact hone rfl ⟨⟨bound, hbound, rfl⟩, hidle, hdelivers⟩
  | leavePort port binding outcome hlast =>
      obtain ⟨ports, heq, -⟩ := leavePort_eq h port binding outcome
      exact hone (e := .portLeft binding) (by rw [heq]; rfl) hlast
  | reply caller reply hlast hpresent => exact hone rfl ⟨hlast, hpresent⟩

/-- **Every record of a run** is plain, or else the host as it was then admits it; by induction
along the moves. -/
theorem Moves.admits {config : Config} {link : Link} {h : Host}
    (moves : Moves (silent config link) h) {later past : List Record} {r : Record}
    (hsplit : h.trace = later ++ r :: past) :
    r.event.IsPlain ∨ ∃ h₁, Moves (silent config link) h₁ ∧ past = h₁.trace ∧
      r.time = h₁.clock ∧ h₁.Admits r.event := by
  induction moves generalizing later past with
  | refl => exact absurd hsplit.symm (by simp [silent])
  | @tail h₁ h' moves move ih =>
      rcases split_suffix move.suffix hsplit with ⟨earlier, hold⟩ | hnew
      · exact ih hold
      · exact (move.admits hsplit hnew).imp_right fun hadmits => ⟨h₁, moves, hadmits⟩

/-! ### Functions that may call a handler -/

theorem Recorded.of_cons {P : Event → Prop} {h h' : Host} {time : Nat} {e : Event}
    (htrace : h'.trace = ⟨time, e⟩ :: h.trace) (he : P e) : Recorded P h h' :=
  ⟨[⟨time, e⟩], htrace, fun r hr => by
    rw [List.mem_singleton.1 hr]
    exact he⟩

/-- Since `h` moves were made, with the same calls in progress now as then.  Of those, only
the call of the handler of `own` was given a reply. -/
structure Served (own : Option Nat) (h h' : Host) : Prop where
  moves : Moves h h'
  running : h'.running = h.running
  replies : Recorded (fun e => ∀ binding ∈ h.running, own ≠ some binding →
    e.answered? ≠ some binding) h h'

namespace Served

variable {own : Option Nat} {h h₁ h₂ : Host}

theorem of_plain (done : Plain h h₁) : Served own h h₁ where
  moves := (Moves.refl h).move (.plain done)
  running := done.running
  replies := by
    obtain ⟨new, htrace, hnew⟩ := done.kinds
    refine ⟨new, htrace, fun r hr binding _ _ => ?_⟩
    rw [(hnew r hr).answered?]
    exact nofun

theorem refl (h : Host) : Served own h h := of_plain (Plain.refl h)

theorem trans (first : Served own h h₁) (second : Served own h₁ h₂) : Served own h h₂ where
  moves := first.moves.trans second.moves
  running := second.running.trans first.running
  replies := by
    have hreplies := second.replies
    rw [first.running] at hreplies
    exact first.replies.trans hreplies

/-- Where no reply is given to any call in progress, none is given to any but one. -/
theorem mono (served : Served none h h₁) : Served own h h₁ where
  moves := served.moves
  running := served.running
  replies := by
    obtain ⟨new, htrace, hnew⟩ := served.replies
    exact ⟨new, htrace, fun r hr binding hmem _ => hnew r hr binding hmem nofun⟩

end Served

/-- A runner that leaves the calls in progress as they are, and gives no reply to any of them
but the one whose script it runs. -/
def ServingRunner (run : Runner) : Prop :=
  ∀ caller (script : Script) (h : Host), h.Innermost caller →
    Served caller.binding? h (run caller script h).1

section

variable {run : Runner} (hrun : ServingRunner run) (h : Host)
include hrun

/-- **The call of a handler** is over when all that it brings about is, so that it has come
and gone when the host goes on. -/
theorem enterPort_served (port : UInt16) {bound : Binding} (datagram : Datagram)
    (hdelivers : h.Delivers port datagram) (hbound : h.ports.get? port = some bound) :
    Served none h (h.enterPort run port bound datagram) := by
  by_cases hrunning : bound.number ∈ h.running
  · rw [enterPort, if_pos hrunning]
    exact .of_plain ((Plain.refl h).log trivial)
  · rw [enterPort_of_idle h run port bound datagram hrunning]
    let entered := h.enteringPort port bound datagram
    let called := run (.port bound.number bound.name) (bound.body bound.memory datagram) entered
    have hcalled : Served (some bound.number) entered called.1 :=
      hrun (.port bound.number bound.name) _ entered fun binding hbinding => by
        cases hbinding
        rfl
    have hlast : called.1.running = bound.number :: h.running := hcalled.running
    have hmoves := ((Moves.refl h).move
      (.enterPort port bound datagram hdelivers hbound hrunning)).trans hcalled.moves
    have hleft := hmoves.move
      (.leavePort port bound.number called.2 (by rw [hlast, List.head?_cons]))
    obtain ⟨ports, heq, -⟩ := leavePort_eq called.1 port bound.number called.2
    obtain ⟨new, htrace, hnew⟩ := hcalled.replies
    refine ⟨hleft, ?_, ?_⟩
    · show (called.1.leavePort port bound.number called.2).running = h.running
      rw [heq]
      show called.1.running.erase bound.number = h.running
      rw [hlast, List.erase_cons_head]
    · -- The handler that was called is none of those that were running before.
      have hinner : Recorded (fun e => ∀ binding ∈ h.running, none ≠ some binding →
          e.answered? ≠ some binding) entered called.1 :=
        ⟨new, htrace, fun r hr binding hmem _ =>
          hnew r hr binding (List.mem_cons_of_mem _ hmem) fun hsame =>
            hrunning (by rw [Option.some.inj hsame]; exact hmem)⟩
      have hentered : Recorded (fun e => ∀ binding ∈ h.running, none ≠ some binding →
          e.answered? ≠ some binding) h entered :=
        .of_cons rfl fun _ _ _ => (Option.some_ne_none _).symm
      have hover := (hentered.trans hinner).emit (e := .portLeft bound.number)
        fun _ _ _ => (Option.some_ne_none _).symm
      rw [heq]
      exact hover

theorem receiveUdp_served (p : Packet) (source : Ipv4Addr) :
    Served none h (h.receiveUdp run p source) := by
  unfold receiveUdp
  split
  · rename_i refusal hrefused
    exact .of_plain (refuse_plain h (Inbound.udp_refused hrefused))
  · simp only []
    split
    · split
      · exact .of_plain (((Plain.refl h).log (by trivial)).log (by trivial))
      · exact .of_plain (((Plain.refl h).log (by trivial)).trans (sendUnreachable_plain _ _ _ _))
    · rename_i bound hbound
      split
      · exact .of_plain ((Plain.refl h).log (by trivial))
      · rename_i data _
        refine (Served.of_plain ((Plain.refl h).log (by trivial))).trans
          (enterPort_served hrun _ _ _ ?_ hbound)
        rw [Delivers, data.length_window]
        rfl

theorem handleProtocol_served (handler : ProtocolHandler) (p : Packet) (source : Ipv4Addr) :
    Served none h (h.handleProtocol run handler p source) := by
  have hcalled : Served none h
      (h.emit (.protocolHandled handler.name? p.head p.window source)) :=
    .of_plain ((Plain.refl h).emit trivial trivial)
  cases handler with
  | icmp => exact hcalled.trans (.of_plain (receiveIcmp_plain _ _ _))
  | udp => exact hcalled.trans (receiveUdp_served hrun _ _ _)
  | custom name body => exact hcalled.trans (hrun (.protocol name) _ _ nofun)

theorem receiveIpv4_served (p : Packet) : Served none h (h.receiveIpv4 run p) := by
  unfold receiveIpv4
  split
  · rename_i refusal hrefused
    exact .of_plain (refuse_plain h (Inbound.ipv4_refused hrefused))
  · simp only []
    split
    · exact .of_plain (((Plain.refl h).log (by trivial)).trans (sendUnreachable_plain _ _ _ _))
    · split
      · exact .of_plain ((Plain.refl h).log (by trivial))
      · exact handleProtocol_served hrun _ _ _ _

theorem handleFrame_served (handler : FrameHandler) (p : Packet) (source : MacAddr) :
    Served none h (h.handleFrame run handler p source) := by
  have hcalled : Served none h
      (h.emit (.frameHandled handler.name? p.head p.window source)) :=
    .of_plain ((Plain.refl h).emit trivial trivial)
  cases handler with
  | arp => exact hcalled.trans (.of_plain (receiveArp_plain _ _))
  | ipv4 => exact hcalled.trans (receiveIpv4_served hrun _ _)
  | custom name body => exact hcalled.trans (hrun (.frame name) _ _ nofun)

theorem receiveFrame_served (p : Packet) : Served none h (h.receiveFrame run p) := by
  unfold receiveFrame
  split
  · rename_i refusal hrefused
    exact .of_plain (refuse_plain h (Inbound.ethernet_refused hrefused))
  · split
    · exact .of_plain ((Plain.refl h).log (by trivial))
    · split
      · exact .of_plain ((Plain.refl h).log (by trivial))
      · exact handleFrame_served hrun _ _ _ _

theorem poll_served : Served none h (h.poll run).1 := by
  have hlink (link : Link) : Served none h { h with link } :=
    .of_plain (.of_arranged ⟨rfl, rfl, rfl, rfl, rfl, Nat.le_refl _⟩ rfl rfl rfl)
  cases hreceive : h.link.receive h.rxBuffer.length with
  | mk link received =>
      cases received with
      | error cause =>
          rw [poll, hreceive]
          exact hlink link
      | ok frame? =>
          cases frame? with
          | none =>
              rw [poll, hreceive]
              exact hlink link
          | some frame =>
              obtain ⟨rxBuffer, rxBuffer_length, hpoll⟩ := poll_of_receive h run hreceive
              have hstored : Served none h { h with link, rxBuffer, rxBuffer_length } :=
                .of_plain (.of_arranged ⟨rfl, rfl, rfl, rfl, rfl, Nat.le_refl _⟩ rfl rfl rfl)
              rw [hpoll]
              exact hstored.trans (receiveFrame_served hrun _ _)

/-! ### Actions, scripts and runs -/

/-- **One action**; the cases are the constructors of `Action`. -/
theorem perform_served (action : Action) : Served none h (h.perform run action).1 := by
  have harrange {h' : Host} (arranged : Arranged h h') (hports : h'.ports = h.ports)
      (hbindings : h'.bindings = h.bindings) (hrunning : h'.running = h.running) :
      Served none h h' := .of_plain (.of_arranged arranged hports hbindings hrunning)
  cases action with
  | inject frame => exact harrange ⟨rfl, rfl, rfl, rfl, rfl, Nat.le_refl _⟩ rfl rfl rfl
  | poll => exact poll_served hrun h
  | deliver frame =>
      have hqueued : Arranged h { h with link := h.link.inject frame } :=
        ⟨rfl, rfl, rfl, rfl, rfl, Nat.le_refl _⟩
      exact (harrange hqueued rfl rfl rfl).trans (poll_served hrun _)
  | receiveFrame packet => exact receiveFrame_served hrun h packet
  | sendFrame packet destination etherType => exact .of_plain (sendFrame_plain h _ _ _)
  | receiveArp packet => exact .of_plain (receiveArp_plain h packet)
  | sendPacket packet target => exact .of_plain (sendPacket_plain h _ _)
  | sendArpRequest target => exact .of_plain (sendArpRequest_plain h _)
  | sendArpReply target mac => exact .of_plain (sendArpReply_plain h _ _)
  | receiveIpv4 packet => exact receiveIpv4_served hrun h packet
  | sendDatagram packet destination protocol => exact .of_plain (sendDatagram_plain h _ _ _)
  | sendFragment packet destination protocol identification offset more =>
      exact .of_plain (sendFragment_plain h _ _ _ _ _ _)
  | receiveIcmp packet source => exact .of_plain (receiveIcmp_plain h packet source)
  | sendUnreachable undelivered target what => exact .of_plain (sendUnreachable_plain h _ _ _)
  | receiveUdp packet source => exact receiveUdp_served hrun h packet source
  | sendSegment packet sourcePort destination port =>
      exact .of_plain (sendSegment_plain h _ _ _ _)
  | sendUdp payload sourcePort destination port => exact .of_plain (sendSegment_plain h _ _ _ _)
  | openPort port name body =>
      exact ⟨(Moves.refl h).move (.openPort port name body), rfl,
        .of_cons rfl fun _ _ _ => (Option.some_ne_none _).symm⟩
  | closePort port =>
      exact ⟨(Moves.refl h).move (.closePort port), rfl,
        .of_cons rfl fun _ _ _ => (Option.some_ne_none _).symm⟩
  | onEtherType etherType handler =>
      exact harrange ⟨rfl, rfl, rfl, rfl, rfl, Nat.le_refl _⟩ rfl rfl rfl
  | onProtocol protocol handler =>
      exact harrange ⟨rfl, rfl, rfl, rfl, rfl, Nat.le_refl _⟩ rfl rfl rfl
  | advance nanoseconds =>
      exact harrange ⟨rfl, rfl, rfl, rfl, rfl, Nat.le_add_right _ _⟩ rfl rfl rfl
  | setLink send receive => exact harrange ⟨rfl, rfl, rfl, rfl, rfl, Nat.le_refl _⟩ rfl rfl rfl
  | listEntries => exact Served.refl h
  | listPending => exact Served.refl h
  | showConfig => exact Served.refl h
  | countSent => exact Served.refl h
  | refuse cause => exact Served.refl h
  | batch script => exact hrun .batch script h nofun

end

/-- What polling replies is no listing. -/
theorem poll_isPresent (run : Runner) (h h' : Host) : h'.IsPresent (h.poll run).2 := by
  unfold poll
  simp only []
  split
  · trivial
  · trivial
  · split
    · trivial
    · trivial

/-- **A listing** says what there is when it is replied. -/
theorem perform_isPresent (run : Runner) (h : Host) (action : Action) :
    (h.perform run action).1.IsPresent (h.perform run action).2 := by
  cases action with
  | poll => exact poll_isPresent run h _
  | deliver frame => exact poll_isPresent run _ _
  | listEntries => exact rfl
  | listPending => exact rfl
  | _ => trivial

/-- A script whose actions leave the calls in progress as they are; by induction on it, along
the replies that it is given. -/
theorem script_run_served {exec : Action → Host → Host × Option Reply}
    (hexec : ∀ action h, Served none h (exec action h).1)
    (hpresent : ∀ action h reply, (exec action h).2 = some reply →
      (exec action h).1.IsPresent reply) (caller : Caller) :
    ∀ (script : Script) (h : Host), h.Innermost caller →
      Served caller.binding? h (script.run exec caller h).1
  | .done _, h, _ => Served.refl h
  | .fail _, h, _ => .of_plain ((Plain.refl h).emit (by trivial) trivial)
  | .step action next, h, hlast => by
      have hdone : Served caller.binding? h (exec action h).1 := (hexec action h).mono
      have hlisted := hpresent action h
      rw [Script.run]
      cases hreply : exec action h with
      | mk h₁ reply? =>
          rw [hreply] at hdone hlisted
          cases reply? with
          | none => exact hdone
          | some reply =>
              have hlast₁ : h₁.Innermost caller := fun binding hbinding => by
                rw [hdone.running]
                exact hlast binding hbinding
              have hreplied : Served caller.binding? h₁ (h₁.emit (.replied caller reply)) :=
                ⟨(Moves.refl h₁).move (.reply caller reply hlast₁ (hlisted reply rfl)), rfl,
                  (Recorded.refl _ h₁).emit fun _ _ hne => hne⟩
              exact (hdone.trans hreplied).trans
                (script_run_served hexec hpresent caller (next reply) _ hlast₁)

/-- **Scripts nested to any depth**, by induction on the depth. -/
theorem runner_served (depth : Nat) : ServingRunner (runner depth) := by
  induction depth with
  | zero =>
      intro caller script h hlast
      refine script_run_served (fun action h => ?_) (fun action h reply hreply => ?_) caller
        script h hlast
      · exact .of_plain ((Plain.refl h).emit trivial trivial)
      · cases hreply
  | succ depth ih =>
      intro caller script h hlast
      refine script_run_served (fun action h => ?_) (fun action h reply hreply => ?_) caller
        script h hlast
      · exact perform_served ih h action
      · cases hreply
        exact perform_isPresent (runner depth) h action

/-- **A run** is a sequence of moves at whose end the same calls are in progress as at its
start, by induction on its actions. -/
theorem execAll_served (depth : Nat) (h : Host) (actions : List Action) :
    Served none h (execAll depth h actions) := by
  induction actions generalizing h with
  | nil => exact Served.refl h
  | cons action rest ih => exact (perform_served (runner_served depth) h action).trans (ih _)

theorem start_served (config : Config) (link : Link) :
    Served none (silent config link) (start config link) :=
  .of_plain (sendArpRequest_plain _ _)

/-- **Every run of a host from its start** is a sequence of moves, and no call is in progress
when it is over. -/
theorem run_served (config : Config) (link : Link) (depth : Nat) (actions : List Action) :
    Served none (silent config link) (execAll depth (start config link) actions) :=
  (start_served config link).trans (execAll_served depth _ actions)

end Host

end HostNet
