import HostNet.Proofs.Resolution.Waiting
import HostNet.Proofs.Scripts

/-!
# Hosts that do the same

That something does not matter to a host is a statement about two runs: two hosts that differ
in just that do the same, and differ in just that afterwards.  Where it concerns the link, the
receive buffer or what is recorded of the link, everything else that a host looks at is the
same for both, so that they take the same branch wherever there is a choice.

* `Event.isOffWire` — the events that do not tell how sending went.
* `Simulation` — what may differ between two hosts, and why that does not show.
* `Simulation.Related` — two hosts that differ in nothing else.
* `Related.update`, `Related.emit`, `Related.transmit` — the three ways in which both hosts
  go on.
* `Related.sendFrame`, `Related.sendPacket`, `Related.sendDatagram` and so on — sending, put
  together from these.

### What a simulation has to say for itself

A host meets its link when it sends, when it receives and when it is asked to count what was
sent, and its receive buffer when it receives.  All that the walk over the functions of a host
asks of a simulation are the fields of `Simulation` for these, some of them only where it
allows the actions that they are about.
-/

namespace HostNet

open History (transmission)

/-- Whether an event does not tell how sending a frame went. -/
def Event.isOffWire : Event → Bool
  | transmitted _ _ => false
  | notice n => n.level != .warn
  | _ => true

theorem Event.isOffWire_of_isDrop {refusal : Refusal} (hdrop : refusal.IsDrop) :
    refusal.event.isOffWire = true := by
  obtain ⟨n, rfl, hlevel⟩ := hdrop
  show (n.level != .warn) = true
  rw [hlevel]
  rfl

namespace Link

variable (l : Link) (frame : Bytes)

theorem queue_send : (l.send frame).1.queue = l.queue := by
  unfold send
  split
  · rfl
  · rfl

theorem receiveFault_send : (l.send frame).1.receiveFault = l.receiveFault := by
  unfold send
  split
  · rfl
  · rfl

end Link

/-- **What may differ between two hosts** without their doing anything differently. -/
structure Simulation where
  /-- The actions that do not tell the hosts apart. -/
  allows : Action → Prop
  links : Link → Link → Prop
  buffers : Bytes → Bytes → Prop
  traces : List Record → List Record → Prop
  /-- What does not tell how sending went is recorded by both. -/
  record : ∀ (r : Record) (t t' : List Record), r.event.isOffWire = true → traces t t' →
    traces (r :: t) (r :: t')
  /-- Both hand the same frame to their links. -/
  send : ∀ (l l' : Link) (frame : Bytes), links l l' → links (l.send frame).1 (l'.send frame).1
  transmit : ∀ (l l' : Link) (t t' : List Record) (time : Nat) (frame : Bytes), links l l' →
    traces t t' → traces (transmission time frame (l.send frame).2 ++ t)
      (transmission time frame (l'.send frame).2 ++ t')
  /-- Where they may poll, they receive the same. -/
  receive : ∀ (l l' : Link) (capacity : Nat), allows .poll → links l l' →
    (l'.receive capacity).2 = (l.receive capacity).2 ∧
      links (l.receive capacity).1 (l'.receive capacity).1
  fill : ∀ (b b' frame : Bytes), allows .poll → buffers b b' →
    buffers (b.splice 0 frame) (b'.splice 0 frame)
  inject : ∀ (l l' : Link) (frame : Bytes), allows (.inject frame) → links l l' →
    links (l.inject frame) (l'.inject frame)
  deliver : ∀ (frame : Bytes), allows (.deliver frame) → allows (.inject frame) ∧ allows .poll
  setLink : ∀ (l l' : Link) (send receive : Option LinkError), allows (.setLink send receive) →
    links l l' →
      links { l with sendFault := fun _ => send, receiveFault := receive }
        { l' with sendFault := fun _ => send, receiveFault := receive }
  countSent : ∀ (l l' : Link), allows .countSent → links l l' → l'.sent.size = l.sent.size

namespace Host

theorem transmit_eq (h : Host) (frame : Bytes) :
    h.transmit frame =
      { h with
        link := (h.link.send frame).1
        trace := transmission h.clock frame (h.link.send frame).2 ++ h.trace } := by
  unfold transmit
  cases hfault : (h.link.send frame).2 with
  | none =>
      simp only [hfault]
      rfl
  | some cause =>
      simp only [hfault]
      rfl

end Host

namespace Simulation

open Host (transmit_eq sendFrame_eq sendUnreachable_eq)

/-- **Two hosts that differ in what the simulation allows to differ**, and whose handlers answer
by scripts that it allows. -/
structure Related (m : Simulation) (h h' : Host) : Prop where
  unchanged : ∃ link rxBuffer trace rxBuffer_length,
    h' = { h with link, rxBuffer, trace, rxBuffer_length }
  links : m.links h.link h'.link
  buffers : m.buffers h.rxBuffer h'.rxBuffer
  traces : m.traces h.trace h'.trace
  answers : h.AnswersBy m.allows fun _ => True

namespace Related

variable {m : Simulation} {h h' : Host} (s : m.Related h h')
include s

/-- What looks at nothing that may differ and does not touch it is done to both. -/
theorem update {f : Host → Host}
    (hf : ∀ link rxBuffer trace rxBuffer_length, ∃ rxBuffer_length',
      f { h with link, rxBuffer, trace, rxBuffer_length } =
        { f h with link, rxBuffer, trace, rxBuffer_length := rxBuffer_length' })
    (hlink : (f h).link = h.link) (hbuffer : (f h).rxBuffer = h.rxBuffer)
    (htrace : (f h).trace = h.trace) (answers : (f h).AnswersBy m.allows fun _ => True) :
    m.Related (f h) (f h') := by
  obtain ⟨link, rxBuffer, trace, rxBuffer_length, rfl⟩ := s.unchanged
  obtain ⟨rxBuffer_length', heq⟩ := hf link rxBuffer trace rxBuffer_length
  rw [heq]
  refine ⟨⟨link, rxBuffer, trace, rxBuffer_length', rfl⟩, ?_, ?_, ?_, answers⟩
  · rw [hlink]
    exact s.links
  · rw [hbuffer]
    exact s.buffers
  · rw [htrace]
    exact s.traces

/-- Links of which the simulation allows it may be put in place of theirs. -/
theorem setLink {link link' : Link} (links : m.links link link') :
    m.Related { h with link } { h' with link := link' } := by
  obtain ⟨_, rxBuffer, trace, rxBuffer_length, rfl⟩ := s.unchanged
  exact ⟨⟨link', rxBuffer, trace, rxBuffer_length, rfl⟩, links, s.buffers, s.traces,
    s.answers.congr rfl rfl rfl⟩

/-! ### Records -/

theorem emit {e : Event} (he : e.isOffWire = true) : m.Related (h.emit e) (h'.emit e) := by
  obtain ⟨link, rxBuffer, trace, rxBuffer_length, rfl⟩ := s.unchanged
  exact ⟨⟨link, rxBuffer, _, rxBuffer_length, rfl⟩, s.links, s.buffers,
    m.record _ _ _ he s.traces, s.answers.congr rfl rfl rfl⟩

theorem log {n : Notice} (hn : (Event.notice n).isOffWire = true) :
    m.Related (h.log n) (h'.log n) :=
  s.emit hn

theorem refuse {refusal : Refusal} (hdrop : refusal.IsDrop) :
    m.Related (h.refuse refusal) (h'.refuse refusal) :=
  s.emit (Event.isOffWire_of_isDrop hdrop)

theorem noteNarrowing (value : Nat) :
    m.Related (h.noteNarrowing value) (h'.noteNarrowing value) := by
  unfold Host.noteNarrowing
  cases Checked.word16 value with
  | ok word => exact s
  | error fault => exact s.emit rfl

/-! ### Frames -/

/-- **A frame is handed to both links**, whatever either does with it. -/
theorem transmit (frame : Bytes) : m.Related (h.transmit frame) (h'.transmit frame) := by
  obtain ⟨link, rxBuffer, trace, rxBuffer_length, rfl⟩ := s.unchanged
  rw [transmit_eq, transmit_eq]
  exact ⟨⟨_, rxBuffer, _, rxBuffer_length, rfl⟩, m.send _ _ _ s.links, s.buffers,
    m.transmit _ _ _ _ _ _ s.links s.traces, s.answers.congr rfl rfl rfl⟩

theorem sendFrame (p : Packet) (destination : MacAddr) (etherType : UInt16) :
    m.Related (h.sendFrame p destination etherType) (h'.sendFrame p destination etherType) := by
  obtain ⟨link, rxBuffer, trace, rxBuffer_length, rfl⟩ := s.unchanged
  rw [sendFrame_eq, sendFrame_eq]
  exact s.transmit _

theorem sendArp (arp : Header.Arp) (destination : MacAddr) :
    m.Related (h.sendArp arp destination) (h'.sendArp arp destination) := by
  obtain ⟨link, rxBuffer, trace, rxBuffer_length, rfl⟩ := s.unchanged
  exact s.sendFrame _ _ _

theorem sendArpRequest (target : Ipv4Addr) :
    m.Related (h.sendArpRequest target) (h'.sendArpRequest target) := by
  obtain ⟨link, rxBuffer, trace, rxBuffer_length, rfl⟩ := s.unchanged
  exact (s.log rfl).sendArp _ _

theorem sendArpReply (target : Ipv4Addr) (mac : MacAddr) :
    m.Related (h.sendArpReply target mac) (h'.sendArpReply target mac) := by
  obtain ⟨link, rxBuffer, trace, rxBuffer_length, rfl⟩ := s.unchanged
  exact (s.log rfl).sendArp _ _

/-! ### Packets and datagrams -/

/-- **A packet is sent, kept or dropped** by what is in the tables. -/
theorem sendPacket (p : Packet) (target : Ipv4Addr) :
    m.Related (h.sendPacket p target) (h'.sendPacket p target) := by
  have hheld := s.update (f := fun h => { h with held := h.held.set target p h.clock })
    (fun _ _ _ hlength => ⟨hlength, rfl⟩) rfl rfl rfl (s.answers.congr rfl rfl rfl)
  obtain ⟨link, rxBuffer, trace, rxBuffer_length, rfl⟩ := s.unchanged
  unfold Host.sendPacket
  simp only []
  cases h.cache.get? target h.clock with
  | some mac => exact (s.emit rfl).sendFrame _ _ _
  | none =>
      cases h.held.get? target h.clock with
      | some waiting => exact (s.emit rfl).log rfl
      | none => exact (hheld.emit rfl).sendArpRequest _

theorem sendFragment (p : Packet) (destination : Ipv4Addr) (protocol : UInt8)
    (identification : UInt16) (offset : Nat) (more : Bool) :
    m.Related (h.sendFragment p destination protocol identification offset more)
      (h'.sendFragment p destination protocol identification offset more) := by
  obtain ⟨link, rxBuffer, trace, rxBuffer_length, rfl⟩ := s.unchanged
  exact ((s.noteNarrowing _).noteNarrowing _).sendPacket _ _

/-- By induction on the pieces. -/
theorem sendPieces (destination : Ipv4Addr) (protocol : UInt8) (identification : UInt16)
    (offset : Nat) (pieces : List Bytes) :
    m.Related (h.sendPieces destination protocol identification offset pieces)
      (h'.sendPieces destination protocol identification offset pieces) := by
  induction pieces generalizing h h' offset with
  | nil => exact s
  | cons piece rest ih =>
      have hconfig : h'.config = h.config := by
        obtain ⟨link, rxBuffer, trace, rxBuffer_length, rfl⟩ := s.unchanged
        rfl
      rw [Host.sendPieces, Host.sendPieces, hconfig]
      exact ih (s.sendFragment _ _ _ _ _ _) _

theorem submitting (p : Packet) (destination : Ipv4Addr) (protocol : UInt8) :
    m.Related (h.submitting p destination protocol) (h'.submitting p destination protocol) := by
  have hnext := s.update (f := fun h => { h with nextId := h.nextId + 1 })
    (fun _ _ _ hlength => ⟨hlength, rfl⟩) rfl rfl rfl (s.answers.congr rfl rfl rfl)
  obtain ⟨link, rxBuffer, trace, rxBuffer_length, rfl⟩ := s.unchanged
  exact hnext.emit rfl

theorem sendDatagram (p : Packet) (destination : Ipv4Addr) (protocol : UInt8) :
    m.Related (h.sendDatagram p destination protocol) (h'.sendDatagram p destination protocol) := by
  have hsubmitted := s.submitting p destination protocol
  obtain ⟨link, rxBuffer, trace, rxBuffer_length, rfl⟩ := s.unchanged
  unfold Host.sendDatagram
  simp only []
  split
  · exact s.log rfl
  · split
    · exact hsubmitted.sendFragment _ _ _ _ _ _
    · exact (hsubmitted.log rfl).sendPieces _ _ _ _ _

theorem sendUnreachable (undelivered : Packet) (target : Ipv4Addr) (what : Unreachable) :
    m.Related (h.sendUnreachable undelivered target what)
      (h'.sendUnreachable undelivered target what) := by
  obtain ⟨link, rxBuffer, trace, rxBuffer_length, rfl⟩ := s.unchanged
  rw [sendUnreachable_eq, sendUnreachable_eq]
  exact (s.log rfl).sendDatagram _ _ _

theorem sendSegment (p : Packet) (sourcePort : UInt16) (destination : Ipv4Addr) (port : UInt16) :
    m.Related (h.sendSegment p sourcePort destination port)
      (h'.sendSegment p sourcePort destination port) := by
  obtain ⟨link, rxBuffer, trace, rxBuffer_length, rfl⟩ := s.unchanged
  unfold Host.sendSegment
  split
  · exact s.log rfl
  · simp only []
    split
    · exact s.emit rfl
    · exact s.sendDatagram _ _ _

theorem sendUdp (payload : Bytes) (sourcePort : UInt16) (destination : Ipv4Addr) (port : UInt16) :
    m.Related (h.sendUdp payload sourcePort destination port)
      (h'.sendUdp payload sourcePort destination port) := by
  obtain ⟨link, rxBuffer, trace, rxBuffer_length, rfl⟩ := s.unchanged
  exact s.sendSegment _ _ _ _

end Related

end Simulation

end HostNet
