import HostNet.Proofs.Inbound
import HostNet.Proofs.Receiving
import HostNet.Proofs.Sending
import Mathlib.Logic.Relation

/-!
# Runs as sequences of steps

Whatever is asked of a host, and whatever scripts answer, comes down to a handful of
steps.  A step says what became of the host's tables and what was recorded with it, so
that a property of all runs has to be shown of five kinds of steps only.

* `Host.Arranged h h'` — nothing was recorded since `h`, and neither of these was touched.
* `Host.Step` — one step; `Host.Steps` — any number of them.
* `sendDatagram_steps` — a datagram is a sequence of steps.
* `Steps.suffix` — what was recorded stays recorded.
* `Steps.config_eq` — the configuration stays the same.

### Why these steps

The cache and the datagrams that wait are read and written by two functions alone, one
for packets that go out and one for ARP packets that come in.  Each of them is a step as
a whole, since what it records is about the state before it.  A datagram is given its
identification in a step of its own.  All else a host does leaves these tables as they
are and is either recorded or not.
-/

namespace HostNet

theorem Event.isNote_of_isDrop {refusal : Refusal} (hdrop : refusal.IsDrop) :
    refusal.event.IsNote := by
  obtain ⟨n, rfl, hlevel⟩ := hdrop
  cases n with
  | learned ip mac => cases hlevel
  | _ => trivial

namespace Host

/-- Since `h` nothing was recorded, and what the host knows of addresses, of packets that
wait and of identifications is the same.  Time may have passed. -/
structure Arranged (h h' : Host) : Prop where
  config : h'.config = h.config
  cache : h'.cache = h.cache
  held : h'.held = h.held
  nextId : h'.nextId = h.nextId
  trace : h'.trace = h.trace
  clock : h.clock ≤ h'.clock

/-- One step of a host. -/
inductive Step (h : Host) : Host → Prop where
  /-- Something is recorded. -/
  | note (e : Event) (he : e.IsNote) : Step h (h.emit e)
  /-- Links, handlers or the clock change. -/
  | arrange (h' : Host) (arranged : Arranged h h') : Step h h'
  /-- A datagram is given its identification. -/
  | submit (p : Packet) (destination : Ipv4Addr) (protocol : UInt8) :
      Step h (h.submitting p destination protocol)
  /-- A packet is to go out. -/
  | dispatch (p : Packet) (target : Ipv4Addr) : Step h (h.sendPacket p target)
  /-- An ARP packet is accepted. -/
  | learn (p : Packet) (arp : Header.Arp) (accepted : Inbound.arp p.window = .ok arp) :
      Step h (h.receiveArp p)

/-- Any number of steps. -/
def Steps : Host → Host → Prop := Relation.ReflTransGen Step

namespace Steps

variable {h h₁ h₂ : Host}

theorem refl (h : Host) : Steps h h := Relation.ReflTransGen.refl

theorem trans (first : Steps h h₁) (second : Steps h₁ h₂) : Steps h h₂ :=
  Relation.ReflTransGen.trans first second

theorem step (first : Steps h h₁) (next : Step h₁ h₂) : Steps h h₂ :=
  Relation.ReflTransGen.tail first next

theorem emit (first : Steps h h₁) {e : Event} (he : e.IsNote) : Steps h (h₁.emit e) :=
  first.step (.note e he)

theorem log (first : Steps h h₁) {n : Notice} (hn : (Event.notice n).IsNote) :
    Steps h (h₁.log n) :=
  first.emit hn

theorem arrange (first : Steps h h₁) (arranged : Arranged h₁ h₂) : Steps h h₂ :=
  first.step (.arrange h₂ arranged)

end Steps

/-! ### Datagrams -/

/-- By induction on the pieces. -/
theorem sendPieces_steps (h : Host) (destination : Ipv4Addr) (protocol : UInt8)
    (identification : UInt16) (offset : Nat) (pieces : List Bytes)
    (hfit : offset + pieces.flatten.length ≤ Header.Ipv4.maxPayload) :
    Steps h (h.sendPieces destination protocol identification offset pieces) := by
  induction pieces generalizing h offset with
  | nil => exact Steps.refl h
  | cons piece rest ih =>
      rw [sendPieces_cons _ _ _ _ _ _ _ hfit]
      exact ((Steps.refl h).step (.dispatch _ _)).trans (ih _ _ (rest_fits hfit))

/-- **A datagram** is given its identification, and then its packets go out. -/
theorem sendDatagram_steps (h : Host) (p : Packet) (destination : Ipv4Addr) (protocol : UInt8) :
    Steps h (h.sendDatagram p destination protocol) := by
  have hsubmitted : Steps h (h.submitting p destination protocol) :=
    (Steps.refl h).step (.submit p destination protocol)
  by_cases hmax : p.size ≤ Header.Ipv4.maxPayload
  · by_cases hsize : p.size ≤ h.config.threshold
    · rw [sendDatagram_of_le_threshold h p _ _ hsize]
      exact hsubmitted.step (.dispatch _ _)
    · rw [sendDatagram_of_threshold_lt h p _ _ hmax (Nat.not_le.1 hsize)]
      exact (hsubmitted.log (by trivial)).trans
        (sendPieces_steps _ _ _ _ _ _ (chunks_fit h.config hmax))
  · rw [sendDatagram_of_oversized h p _ _ (Nat.not_le.1 hmax)]
    exact (Steps.refl h).log (by trivial)

/-- What is sent comes after the line that says so. -/
theorem loggedUnreachable_steps (h : Host) (undelivered : Packet) (target : Ipv4Addr)
    (what : Unreachable) :
    Steps (h.log (.unreachable what target)) (h.sendUnreachable undelivered target what) := by
  rw [sendUnreachable_eq]
  exact sendDatagram_steps _ _ _ _

/-! ### What was recorded stays recorded -/

theorem Sends.suffix {h h' : Host} (s : Sends h h') : h.trace <:+ h'.trace := by
  obtain ⟨new, htrace, -⟩ := s.kinds
  exact ⟨new, htrace.symm⟩

theorem learning_suffix (h : Host) (arp : Header.Arp) : h.trace <:+ (h.learning arp).trace :=
  List.suffix_cons _ _

/-- What an ARP packet brings about comes after the record of what was learned from it. -/
theorem receiveArp_suffix (h : Host) (p : Packet) {arp : Header.Arp}
    (accepted : Inbound.arp p.window = .ok arp) :
    (h.learning arp).trace <:+ (h.receiveArp p).trace := by
  cases hheld : h.held.get? arp.senderIp h.clock with
  | some waiting =>
      rw [receiveArp_of_waiting h p accepted hheld]
      have hflushing : (h.learning arp).trace <:+ (h.flushing arp waiting).trace :=
        (List.suffix_cons _ _).trans (List.suffix_cons _ _)
      exact hflushing.trans (sendFrame_sent _ _ _ _).sends.suffix
  | none =>
      rw [receiveArp_of_free h p accepted hheld]
      split
      · exact (sendArpReply_sent _ _ _).sends.suffix
      · exact List.suffix_refl _

theorem Step.suffix {h h' : Host} (step : Step h h') : h.trace <:+ h'.trace := by
  cases step with
  | note e he => exact List.suffix_cons _ _
  | arrange _ arranged => exact ⟨[], (List.nil_append _).trans arranged.trace.symm⟩
  | submit p destination protocol => exact List.suffix_cons _ _
  | dispatch p target => exact (sendPacket_sends h p target).suffix
  | learn p arp accepted => exact (learning_suffix h arp).trans (receiveArp_suffix h p accepted)

/-- **What was recorded stays recorded**, by induction along the steps. -/
theorem Steps.suffix {h h' : Host} (steps : Steps h h') : h.trace <:+ h'.trace := by
  induction steps with
  | refl => exact List.suffix_refl _
  | tail _ step ih => exact ih.trans step.suffix

/-! ### The configuration stays the same -/

theorem Sends.config_eq {h h' : Host} (s : Sends h h') : h'.config = h.config := by
  obtain ⟨link, trace, held, nextId, heq⟩ := s.unchanged
  rw [heq]

theorem receiveArp_config (h : Host) (p : Packet) {arp : Header.Arp}
    (accepted : Inbound.arp p.window = .ok arp) : (h.receiveArp p).config = h.config := by
  cases hheld : h.held.get? arp.senderIp h.clock with
  | some waiting =>
      rw [receiveArp_of_waiting h p accepted hheld]
      exact (sendFrame_sent _ _ _ _).sends.config_eq
  | none =>
      rw [receiveArp_of_free h p accepted hheld]
      split
      · exact (sendArpReply_sent _ _ _).sends.config_eq
      · rfl

theorem Step.config_eq {h h' : Host} (step : Step h h') : h'.config = h.config := by
  cases step with
  | note e he => rfl
  | arrange _ arranged => exact arranged.config
  | submit p destination protocol => rfl
  | dispatch p target => exact (sendPacket_sends h p target).config_eq
  | learn p arp accepted => exact receiveArp_config h p accepted

/-- **The configuration stays the same**, by induction along the steps. -/
theorem Steps.config_eq {h h' : Host} (steps : Steps h h') : h'.config = h.config := by
  induction steps with
  | refl => rfl
  | tail _ step ih => exact step.config_eq.trans ih

end Host

end HostNet
