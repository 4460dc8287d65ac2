import HostNet.Host.Run

/-!
# What a run shows

A host records everything it does, so what can be said of a run is said of the
trace it leaves.  This file fixes the views of a trace that statements about
hosts are made in, and the relations between an earlier and a later host that
proofs about the sending side are made in.

* `Host.observed` — what a partial reading of events picks from a trace, oldest
  first; `Host.frames`, `Host.calls`, `Host.notices` and `Host.faults` are the frames
  handed to the link, the calls of port handlers, the lines logged and the misapplied
  operations.
* `Event.IsSending`, `Event.IsNote` — events of sending, and events that have no bearing on
  addresses, on packets that wait or on identifications.
* `Host.Recorded P h h'` — since `h`, only events that `P` holds of were recorded.
* `Host.Noted h h'` — since `h`, only the trace changed, and nothing that concerns the
  link or a handler was recorded.
* `Host.Sends h h'` — since `h`, something was sent, whatever became of it.
* `Host.Sent h h' frames` — since `h`, exactly `frames` were handed to the link,
  and apart from the link and the trace nothing changed.
* `Host.HasOwnHandlers` — the handlers of ether types and protocols are those that
  a host is set up with.

### Why two relations for sending

`Sends` forgets what was sent and keeps the kinds of the events and the parts of the
state that sending has no business with, and so holds of every function that sends,
whatever becomes of the packet.  `Sent` says all there is to say, but only of
functions that leave the tables alone: a packet that has to wait for its address is
not covered by it.
-/

namespace HostNet

/-- A call of the handler of a port. -/
structure Call where
  port : UInt16
  /-- The number of the binding that was called. -/
  binding : Nat
  datagram : Datagram
  deriving Repr, DecidableEq

namespace Event

/-- The frame that was handed to the link. -/
def frame? : Event → Option Bytes
  | transmitted frame _ => some frame
  | _ => none

/-- The call of the handler of a port. -/
def call? : Event → Option Call
  | portEntered port binding _ _ datagram => some ⟨port, binding, datagram⟩
  | _ => none

/-- The line that was logged. -/
def notice? : Event → Option Notice
  | notice n => some n
  | _ => none

/-- The operation that was applied outside of its domain. -/
def fault? : Event → Option Fault
  | fault f => some f
  | _ => none

/-- Whether the event belongs to sending, and to nothing going wrong with it but
the link. -/
def IsSending : Event → Prop
  | notice _ => True
  | transmitted _ _ => True
  | submitted _ _ _ _ => True
  | dispatched _ _ _ => True
  | _ => False

/-- Whether the event is neither about an address learned, nor about a packet that
waited or goes out, nor about an identification. -/
def IsNote : Event → Prop
  | notice (.learned _ _) => False
  | submitted _ _ _ _ => False
  | dispatched _ _ _ => False
  | released _ _ _ => False
  | _ => True

theorem fault?_eq_none_of_isSending {e : Event} (h : e.IsSending) : e.fault? = none := by
  cases e with
  | fault f => exact h.elim
  | _ => rfl

theorem call?_eq_none_of_isSending {e : Event} (h : e.IsSending) : e.call? = none := by
  cases e with
  | portEntered port binding name memory datagram => exact h.elim
  | _ => rfl

end Event

namespace Host

/-! ### Views of a trace -/

/-- What `see` picks from the trace, oldest first. -/
def observed {α : Type} (see : Event → Option α) (h : Host) : List α :=
  (h.trace.filterMap fun r => see r.event).reverse

/-- The frames handed to the link. -/
def frames (h : Host) : List Bytes := h.observed Event.frame?

/-- The calls of port handlers. -/
def calls (h : Host) : List Call := h.observed Event.call?

/-- The lines logged. -/
def notices (h : Host) : List Notice := h.observed Event.notice?

/-- The operations applied outside of their domains. -/
def faults (h : Host) : List Fault := h.observed Event.fault?

theorem observed_emit {α : Type} (see : Event → Option α) (h : Host) (e : Event) :
    (h.emit e).observed see = h.observed see ++ (see e).toList := by
  simp only [observed, emit, List.filterMap_cons]
  cases see e with
  | none => simp
  | some a => simp

theorem observed_emit_of_eq_none {α : Type} {see : Event → Option α} {e : Event}
    (h : Host) (hsee : see e = none) : (h.emit e).observed see = h.observed see := by
  rw [observed_emit, hsee, Option.toList_none, List.append_nil]

/-- A host with the same trace shows the same. -/
theorem observed_congr {α : Type} (see : Event → Option α) {h h' : Host}
    (htrace : h'.trace = h.trace) : h'.observed see = h.observed see := by
  rw [observed, observed, htrace]

/-! ### Events of some kind -/

/-- Since `h`, only events that `P` holds of were recorded. -/
def Recorded (P : Event → Prop) (h h' : Host) : Prop :=
  ∃ new : List Record, h'.trace = new ++ h.trace ∧ ∀ r ∈ new, P r.event

namespace Recorded

variable {P : Event → Prop} {h h₁ h₂ : Host}

/-- Nothing is recorded where the trace stays as it is. -/
theorem of_trace_eq (htrace : h₁.trace = h.trace) : Recorded P h h₁ :=
  ⟨[], htrace, fun _ hr => absurd hr List.not_mem_nil⟩

theorem refl (P : Event → Prop) (h : Host) : Recorded P h h := of_trace_eq rfl

theorem trans (first : Recorded P h h₁) (second : Recorded P h₁ h₂) : Recorded P h h₂ := by
  obtain ⟨new₁, htrace₁, hnew₁⟩ := first
  obtain ⟨new₂, htrace₂, hnew₂⟩ := second
  refine ⟨new₂ ++ new₁, by rw [htrace₂, htrace₁, List.append_assoc], ?_⟩
  intro r hr
  rcases List.mem_append.1 hr with hr | hr
  · exact hnew₂ r hr
  · exact hnew₁ r hr

theorem emit {e : Event} (first : Recorded P h h₁) (he : P e) : Recorded P h (h₁.emit e) := by
  refine first.trans ⟨[⟨h₁.clock, e⟩], rfl, ?_⟩
  intro r hr
  rw [List.mem_singleton.1 hr]
  exact he

/-- A view that sees none of the events recorded stays as it is. -/
theorem observed_eq {α : Type} {see : Event → Option α} (rec : Recorded P h h₁)
    (hsee : ∀ e, P e → see e = none) : h₁.observed see = h.observed see := by
  obtain ⟨new, htrace, hnew⟩ := rec
  have hnone : new.filterMap (fun r => see r.event) = [] := by
    rw [List.filterMap_eq_nil_iff]
    intro r hr
    exact hsee _ (hnew r hr)
  rw [observed, observed, htrace, List.filterMap_append, hnone, List.nil_append]

end Recorded

/-! ### Taking note of something -/

/-- Since `h`, events were recorded, none of them a frame or a call, and apart from the
trace nothing changed. -/
structure Noted (h h' : Host) : Prop where
  unchanged : ∃ trace, h' = { h with trace }
  kinds : Recorded (fun e => e.frame? = none ∧ e.call? = none) h h'

namespace Noted

variable {h h₁ : Host}

theorem refl (h : Host) : Noted h h := ⟨⟨h.trace, rfl⟩, Recorded.refl _ h⟩

theorem emit (first : Noted h h₁) {e : Event} (hframe : e.frame? = none)
    (hcall : e.call? = none) : Noted h (h₁.emit e) where
  unchanged := by
    obtain ⟨trace, heq⟩ := first.unchanged
    exact ⟨⟨h₁.clock, e⟩ :: trace, by rw [heq]; rfl⟩
  kinds := first.kinds.emit ⟨hframe, hcall⟩

theorem log (first : Noted h h₁) (n : Notice) : Noted h (h₁.log n) :=
  first.emit (e := .notice n) rfl rfl

theorem frames_eq (first : Noted h h₁) : h₁.frames = h.frames :=
  first.kinds.observed_eq fun _ he => he.1

theorem calls_eq (first : Noted h h₁) : h₁.calls = h.calls :=
  first.kinds.observed_eq fun _ he => he.2

end Noted

/-! ### Sending in general -/

/-- Since `h`, something was sent: only events of sending were recorded, and nothing
but the link, the trace, the packets that wait and the next identification changed. -/
structure Sends (h h' : Host) : Prop where
  unchanged : ∃ link trace held nextId, h' = { h with link, trace, held, nextId }
  kinds : Recorded Event.IsSending h h'

namespace Sends

variable {h h₁ h₂ : Host}

theorem refl (h : Host) : Sends h h where
  unchanged := ⟨h.link, h.trace, h.held, h.nextId, rfl⟩
  kinds := Recorded.refl _ h

theorem trans (first : Sends h h₁) (second : Sends h₁ h₂) : Sends h h₂ where
  unchanged := by
    obtain ⟨link₁, trace₁, held₁, nextId₁, heq₁⟩ := first.unchanged
    obtain ⟨link₂, trace₂, held₂, nextId₂, heq₂⟩ := second.unchanged
    exact ⟨link₂, trace₂, held₂, nextId₂, by rw [heq₂, heq₁]⟩
  kinds := first.kinds.trans second.kinds

theorem emit (first : Sends h h₁) {e : Event} (he : e.IsSending) : Sends h (h₁.emit e) where
  unchanged := by
    obtain ⟨link, trace, held, nextId, heq⟩ := first.unchanged
    exact ⟨link, ⟨h₁.clock, e⟩ :: trace, held, nextId, by rw [heq]; rfl⟩
  kinds := first.kinds.emit he

theorem log (first : Sends h h₁) (n : Notice) : Sends h (h₁.log n) :=
  first.emit (e := .notice n) trivial

/-- **Sending misapplies no operation.** -/
theorem faults_eq (s : Sends h h₁) : h₁.faults = h.faults :=
  s.kinds.observed_eq fun _ => Event.fault?_eq_none_of_isSending

/-- **Sending calls no handler.** -/
theorem calls_eq (s : Sends h h₁) : h₁.calls = h.calls :=
  s.kinds.observed_eq fun _ => Event.call?_eq_none_of_isSending

end Sends

end Host

/-! ### Frames handed to the link -/

/-- The link after attempts to send frames one after another. -/
def Link.sendAll (l : Link) (frames : List Bytes) : Link :=
  frames.foldl (fun l frame => (l.send frame).1) l

theorem Link.sendAll_append (l : Link) (first second : List Bytes) :
    l.sendAll (first ++ second) = (l.sendAll first).sendAll second := List.foldl_append ..

/-- A link on which sending never fails. -/
def Link.Reliable (l : Link) : Prop := ∀ attempt, l.sendFault attempt = none

theorem Link.Reliable.send {l : Link} (hl : l.Reliable) (frame : Bytes) :
    l.send frame =
      ({ l with attempts := l.attempts + 1, sent := l.sent.push frame }, none) := by
  rw [Link.send, hl l.attempts]

/-- **On a link that does not fail, what is handed over is sent**, in order. -/
theorem Link.Reliable.sendAll {l : Link} (hl : l.Reliable) (frames : List Bytes) :
    l.sendAll frames =
      { l with
        attempts := l.attempts + frames.length
        sent := l.sent ++ frames.toArray } := by
  induction frames generalizing l with
  | nil => simp [Link.sendAll]
  | cons frame rest ih =>
      have hnext : ({ l with
          attempts := l.attempts + 1
          sent := l.sent.push frame } : Link).Reliable := hl
      have hstep : l.sendAll (frame :: rest) = (l.send frame).1.sendAll rest := rfl
      rw [hstep, hl.send, ih hnext]
      simp only [List.length_cons, Link.mk.injEq, and_true, true_and]
      exact ⟨by simp, by omega⟩

namespace Host

/-- Since `h`, exactly `frames` were handed to the link, in order, and apart from
the link and the trace nothing changed. -/
structure Sent (h h' : Host) (frames : List Bytes) : Prop where
  unchanged : ∃ link trace, h' = { h with link, trace }
  link : h'.link = h.link.sendAll frames
  frames : h'.frames = h.frames ++ frames
  kinds : Recorded Event.IsSending h h'

namespace Sent

variable {h h₁ h₂ : Host} {first second : List Bytes}

theorem refl (h : Host) : Sent h h [] where
  unchanged := ⟨h.link, h.trace, rfl⟩
  link := rfl
  frames := (List.append_nil _).symm
  kinds := Recorded.refl _ h

theorem trans (s₁ : Sent h h₁ first) (s₂ : Sent h₁ h₂ second) :
    Sent h h₂ (first ++ second) where
  unchanged := by
    obtain ⟨link₁, trace₁, heq₁⟩ := s₁.unchanged
    obtain ⟨link₂, trace₂, heq₂⟩ := s₂.unchanged
    exact ⟨link₂, trace₂, by rw [heq₂, heq₁]⟩
  link := by rw [s₂.link, s₁.link, Link.sendAll_append]
  frames := by rw [s₂.frames, s₁.frames, List.append_assoc]
  kinds := s₁.kinds.trans s₂.kinds

/-- An event of sending that is not itself a frame. -/
theorem emit (s : Sent h h₁ first) {e : Event} (he : e.IsSending) (hframe : e.frame? = none) :
    Sent h (h₁.emit e) first where
  unchanged := by
    obtain ⟨link, trace, heq⟩ := s.unchanged
    exact ⟨link, ⟨h₁.clock, e⟩ :: trace, by rw [heq]; rfl⟩
  link := s.link
  frames := by
    rw [← s.frames]
    exact observed_emit_of_eq_none h₁ hframe
  kinds := s.kinds.emit he

theorem log (s : Sent h h₁ first) (n : Notice) : Sent h (h₁.log n) first :=
  s.emit trivial rfl

/-- The host afterwards, but for its trace. -/
theorem eq_sendAll (s : Sent h h₁ first) :
    ∃ trace, h₁ = { h with link := h.link.sendAll first, trace } := by
  obtain ⟨link, trace, heq⟩ := s.unchanged
  refine ⟨trace, ?_⟩
  rw [← s.link, heq]

theorem sends (s : Sent h h₁ first) : Sends h h₁ where
  unchanged := by
    obtain ⟨link, trace, heq⟩ := s.unchanged
    exact ⟨link, trace, h.held, h.nextId, heq⟩
  kinds := s.kinds

end Sent

/-! ### The host's own handlers -/

/-- The handlers of ether types and protocols are those that a host is set up
with.  Nothing is said about the handlers of ports. -/
structure HasOwnHandlers (h : Host) : Prop where
  frameHandlers : ∀ etherType, h.frameHandlers.get? etherType =
    if etherType = EtherType.ipv4 then some .ipv4
    else if etherType = EtherType.arp then some .arp
    else none
  protocolHandlers : ∀ protocol, h.protocolHandlers.get? protocol =
    if protocol = Protocol.udp then some .udp
    else if protocol = Protocol.icmp then some .icmp
    else none

theorem silent_hasOwnHandlers (config : Config) (link : Link) :
    (silent config link).HasOwnHandlers where
  frameHandlers etherType := by
    rw [silent, Table.get?_insert, Table.get?_insert, Table.get?_empty]
  protocolHandlers protocol := by
    rw [silent, Table.get?_insert, Table.get?_insert, Table.get?_empty]

/-- Only the two tables matter. -/
theorem HasOwnHandlers.congr {h h' : Host} (own : h.HasOwnHandlers)
    (hframe : h'.frameHandlers = h.frameHandlers)
    (hprotocol : h'.protocolHandlers = h.protocolHandlers) : h'.HasOwnHandlers where
  frameHandlers := by
    rw [hframe]
    exact own.frameHandlers
  protocolHandlers := by
    rw [hprotocol]
    exact own.protocolHandlers

theorem HasOwnHandlers.ipv4 {h : Host} (own : h.HasOwnHandlers) :
    h.frameHandlers.get? EtherType.ipv4 = some .ipv4 := by
  rw [own.frameHandlers, if_pos rfl]

theorem HasOwnHandlers.arp {h : Host} (own : h.HasOwnHandlers) :
    h.frameHandlers.get? EtherType.arp = some .arp := by
  rw [own.frameHandlers, if_neg (by decide), if_pos rfl]

theorem HasOwnHandlers.udp {h : Host} (own : h.HasOwnHandlers) :
    h.protocolHandlers.get? Protocol.udp = some .udp := by
  rw [own.protocolHandlers, if_pos rfl]

theorem HasOwnHandlers.icmp {h : Host} (own : h.HasOwnHandlers) :
    h.protocolHandlers.get? Protocol.icmp = some .icmp := by
  rw [own.protocolHandlers, if_neg (by decide), if_pos rfl]

/-- A handler of an ether type is one of the two, and the one for that type. -/
theorem HasOwnHandlers.eq_of_frameHandler {h : Host} (own : h.HasOwnHandlers)
    {etherType : UInt16} {handler : FrameHandler}
    (hhandler : h.frameHandlers.get? etherType = some handler) :
    (etherType = EtherType.ipv4 ∧ handler = .ipv4) ∨
      (etherType = EtherType.arp ∧ handler = .arp) := by
  rw [own.frameHandlers] at hhandler
  split at hhandler
  · rename_i hipv4
    exact .inl ⟨hipv4, (Option.some.inj hhandler).symm⟩
  · split at hhandler
    · rename_i harp
      exact .inr ⟨harp, (Option.some.inj hhandler).symm⟩
    · cases hhandler

/-- A handler of a protocol is one of the two, and the one for that protocol. -/
theorem HasOwnHandlers.eq_of_protocolHandler {h : Host} (own : h.HasOwnHandlers)
    {protocol : UInt8} {handler : ProtocolHandler}
    (hhandler : h.protocolHandlers.get? protocol = some handler) :
    (protocol = Protocol.udp ∧ handler = .udp) ∨
      (protocol = Protocol.icmp ∧ handler = .icmp) := by
  rw [own.protocolHandlers] at hhandler
  split at hhandler
  · rename_i hudp
    exact .inl ⟨hudp, (Option.some.inj hhandler).symm⟩
  · split at hhandler
    · rename_i hicmp
      exact .inr ⟨hicmp, (Option.some.inj hhandler).symm⟩
    · cases hhandler

end Host

end HostNet
