import HostNet.Proofs.Resolution.Exchange
import HostNet.Proofs.Storms.Answer

/-!
# Two hosts cause no storm

Two hosts are connected to each other, so that what one of them sends is queued for the
other.  They are given some frames to begin with, whatever these are, and from then on
only take frames off their links, in any order and at any time.  Then they take no more
than six frames for each one that was queued and for each packet that waited at first, and
so come to rest.

* `Crossed`, `Crossed.Move`, `Crossed.step` — the two hosts, and all that can happen.
* `Host.Ready` — what is asked of each: handlers of its own only, no open port, and a link
  that does not fail.
* `Crossed.taken` — how many frames are taken in the course of some moves.
* `Host.load`, `Crossed.load` — what is queued for the hosts and what waits at them, weighed
  by what it can bring about.
* `Crossed.step_load` — a move takes away from the load what it takes off the links.
* `Crossed.taken_le` — the statement.
-/

namespace HostNet

/-! ### The two hosts -/

/-- Two hosts whose links are connected to each other. -/
abbrev Crossed : Type := Side → Host

namespace Crossed

/-- What can happen: one of the hosts polls its link, or time passes for it. -/
inductive Move where
  | poll (side : Side)
  | advance (side : Side) (nanoseconds : Nat)
  deriving Repr, DecidableEq

/-- The host that a move is about. -/
def Move.side : Move → Side
  | poll side => side
  | advance side _ => side

/-- What is asked of it. -/
def Move.action : Move → Action
  | poll _ => .poll
  | advance _ nanoseconds => .advance nanoseconds

/-- The hosts after that of side `s` has come to `host`: what it sent is queued for the
other, once. -/
def turn (net : Crossed) (s : Side) (host : Host) : Crossed :=
  s.assign { host with link := host.link.takeSent.2 }
    { net s.other with link := host.link.takeSent.1.foldl Link.inject (net s.other).link }

/-- One move, and what the host replies to it. -/
def step (depth : Nat) (net : Crossed) (move : Move) : Crossed × Reply :=
  let (host, reply) := (net move.side).exec depth move.action
  (net.turn move.side host, reply)

end Crossed

/-- How many frames were taken off the link, by what a host replies. -/
def Reply.taken : Reply → Nat
  | polled true => 1
  | failed (.oversized _ _) => 1
  | _ => 0

/-- How many frames are taken off the links in the course of some moves. -/
def Crossed.taken (depth : Nat) (net : Crossed) : List Crossed.Move → Nat
  | [] => 0
  | move :: rest => (net.step depth move).2.taken + taken depth (net.step depth move).1 rest

namespace Host

/-- A host that answers by itself: with its own handlers, no port open, and on a link that
does not fail and from which everything sent was taken. -/
structure Ready (h : Host) : Prop where
  own : h.HasOwnHandlers
  ports : ∀ port, h.ports.get? port = none
  reliable : h.link.Reliable
  receiveFault : h.link.receiveFault = none
  sent : h.link.sent = #[]

/-- What is queued for a host and what waits at it, weighed for hosts at both ends. -/
def load (h : Host) (peer : Ipv4Addr) : Nat :=
  (h.link.queue.map (Weight.frame h.config.ip)).sum + h.backlog peer

/-- **At the beginning** the load is at most six times what is queued and what waits. -/
theorem load_le (h : Host) (peer : Ipv4Addr) :
    h.load peer ≤ 6 * (h.link.queue.length + h.held.size) := by
  have hqueue := ExpiringTable.sum_map_le_mul (Weight.frame_le h.config.ip) h.link.queue
  have hheld : h.backlog peer ≤ 6 * h.held.size :=
    h.held.total_le_mul_size (Weight.packet peer h.config) (fun p => (Weight.ipv4_bounds _ _).2)
      h.clock
  rw [load, Nat.mul_add]
  exact Nat.add_le_add hqueue hheld

/-- What became of a host: frames that it sent to a host at `peer`, and a load that, with
these and with the `taken` frames that it took off its link, is no more than it was. -/
structure Paid (peer : Ipv4Addr) (taken : Nat) (h h' : Host) : Prop where
  config : h'.config = h.config
  own : h'.HasOwnHandlers
  ports : ∀ port, h'.ports.get? port = none
  reliable : h'.link.Reliable
  receiveFault : h'.link.receiveFault = none
  load : (h'.link.sent.toList.map (Weight.frame peer)).sum + h'.load peer + taken ≤ h.load peer

/-- **What a host sends is paid for** by what it cost, out of the load that it had before. -/
theorem Spends.paid {peer : Ipv4Addr} {budget taken : Nat} {h h₁ h' : Host}
    (s : Spends peer budget h₁ h') (ready : h₁.Ready) (hconfig : h₁.config = h.config)
    (hload : h₁.load peer + budget + taken ≤ h.load peer) : Paid peer taken h h' := by
  obtain ⟨frames, hlink, hsum⟩ := s.sent
  rw [ready.reliable.sendAll frames, ready.sent] at hlink
  have hframes : h'.link.sent.toList = frames := by
    rw [hlink]
    simp
  have hqueue : h'.link.queue = h₁.link.queue := by rw [hlink]
  have hreliable : h'.link.Reliable := by
    rw [hlink]
    exact ready.reliable
  have hfault : h'.link.receiveFault = none := by
    rw [hlink]
    exact ready.receiveFault
  have hbefore : h₁.load peer =
      (h₁.link.queue.map (Weight.frame h₁.config.ip)).sum + h₁.backlog peer := rfl
  have hafter : h'.load peer =
      (h₁.link.queue.map (Weight.frame h₁.config.ip)).sum + h'.backlog peer := by
    rw [load, s.config_eq, hqueue]
  obtain ⟨link, trace, cache, held, nextId, heq⟩ := s.unchanged
  exact {
    config := s.config_eq.trans hconfig
    own := ready.own.congr (by rw [heq]) (by rw [heq])
    ports := by
      rw [heq]
      exact ready.ports
    reliable := hreliable
    receiveFault := hfault
    load := by
      rw [hframes]
      omega }

/-- The host after the next frame was taken off its link. -/
def taking (h : Host) (rest : List Bytes) : Host :=
  { h with link := { h.link with queue := rest } }

theorem Ready.taking {h : Host} (ready : h.Ready) (rest : List Bytes) : (h.taking rest).Ready :=
  ⟨ready.own.congr rfl rfl, ready.ports, ready.reliable, ready.receiveFault, ready.sent⟩

theorem load_eq_taking {h : Host} {frame : Bytes} {rest : List Bytes}
    (hqueue : h.link.queue = frame :: rest) (peer : Ipv4Addr) :
    h.load peer = (h.taking rest).load peer + Weight.frame h.config.ip frame := by
  have htaking : (h.taking rest).load peer =
      (rest.map (Weight.frame h.config.ip)).sum + h.backlog peer := rfl
  rw [htaking, load, hqueue, List.map_cons, List.sum_cons]
  omega

/-- **A poll pays for what it sends** with the frame that it takes. -/
theorem poll_paid {h : Host} (ready : h.Ready) (run : Runner) (peer : Ipv4Addr) :
    Paid peer (h.poll run).2.taken h (h.poll run).1 := by
  cases hqueue : h.link.queue with
  | nil =>
      rw [poll, receive_of_empty hqueue ready.receiveFault]
      exact (Spends.of_noted (Noted.refl h)).paid ready rfl (Nat.le_refl _)
  | cons frame rest =>
      have hload := load_eq_taking hqueue peer
      have hone := Weight.one_le_frame h.config.ip frame
      by_cases hfit : frame.length ≤ h.config.maxFrame
      · obtain ⟨rxBuffer, rxBuffer_length, hpoll⟩ :=
          poll_of_next h run hqueue ready.receiveFault hfit
        let h₁ : Host := { h.taking rest with rxBuffer, rxBuffer_length }
        have ready₁ : h₁.Ready :=
          ⟨ready.own.congr rfl rfl, ready.ports, ready.reliable, ready.receiveFault, ready.sent⟩
        have hspent := receiveFrame_spends peer h₁ run (Packet.ofPayload 0 frame) ready₁.ports
          ready₁.own (by
            rw [Packet.window_ofPayload]
            exact hfit)
        rw [Packet.window_ofPayload] at hspent
        rw [hpoll]
        refine hspent.paid ready₁ rfl ?_
        show (h.taking rest).load peer + (Weight.frame h.config.ip frame - 1) + 1 ≤ h.load peer
        omega
      · rw [← h.rxBuffer_length] at hfit
        rw [poll, receive_of_oversized hqueue ready.receiveFault (Nat.not_le.1 hfit)]
        refine (Spends.of_noted (Noted.refl (h.taking rest))).paid (ready.taking rest) rfl ?_
        show (h.taking rest).load peer + 0 + 1 ≤ h.load peer
        omega

/-- **Whatever move is made**, it is paid for. -/
theorem exec_paid {h : Host} (ready : h.Ready) (depth : Nat) (move : Crossed.Move)
    (peer : Ipv4Addr) :
    Paid peer (h.exec depth move.action).2.taken h (h.exec depth move.action).1 := by
  cases move with
  | poll side => exact poll_paid ready (runner depth) peer
  | advance side nanoseconds =>
      let h₁ : Host := { h with clock := h.clock + nanoseconds }
      have ready₁ : h₁.Ready :=
        ⟨ready.own.congr rfl rfl, ready.ports, ready.reliable, ready.receiveFault, ready.sent⟩
      refine (Spends.of_noted (Noted.refl h₁)).paid ready₁ rfl ?_
      exact Nat.add_le_add_left (h.held.total_le_of_le _ (Nat.le_add_right _ _)) _

end Host

/-! ### The load of both hosts -/

theorem Link.foldl_inject (frames : List Bytes) (l : Link) :
    frames.foldl Link.inject l = { l with queue := l.queue ++ frames } := by
  induction frames generalizing l with
  | nil => simp
  | cons frame rest ih => simp [ih, Link.inject]

namespace Crossed

/-- What is queued for both hosts and what waits at them, by what it can bring about. -/
def load (net : Crossed) : Nat :=
  (net .left).load (net .right).config.ip + (net .right).load (net .left).config.ip

/-- The load does not depend on which host comes first. -/
theorem load_eq (net : Crossed) (s : Side) :
    net.load = (net s).load (net s.other).config.ip + (net s.other).load (net s).config.ip := by
  cases s with
  | left => rfl
  | right => exact Nat.add_comm _ _

/-- **What one host sent is queued for the other**, and adds to its load what it weighs. -/
theorem turn_load {net : Crossed} (ready : ∀ s, (net s).Ready) (s : Side) {host : Host}
    {taken : Nat} (paid : Host.Paid (net s.other).config.ip taken (net s) host) :
    (∀ t, (net.turn s host t).Ready) ∧ (net.turn s host).load + taken ≤ net.load := by
  have hmine : net.turn s host s = { host with link := host.link.takeSent.2 } :=
    Side.assign_self _ _ _
  have htheirs : net.turn s host s.other =
      { net s.other with
        link := { (net s.other).link with
          queue := (net s.other).link.queue ++ host.link.sent.toList } } := by
    rw [turn, Side.assign_other, Link.foldl_inject]
    rfl
  have other := ready s.other
  constructor
  · rw [Side.forall_iff s, hmine, htheirs]
    exact ⟨⟨paid.own.congr rfl rfl, paid.ports, paid.reliable, paid.receiveFault, rfl⟩,
      ⟨other.own.congr rfl rfl, other.ports, other.reliable, other.receiveFault, other.sent⟩⟩
  · have hpaid := paid.load
    have hown : ({ host with link := host.link.takeSent.2 } : Host).load
        (net s.other).config.ip = host.load (net s.other).config.ip := rfl
    have hqueued : ({ net s.other with
        link := { (net s.other).link with
          queue := (net s.other).link.queue ++ host.link.sent.toList } } : Host).load
            (net s).config.ip =
        (net s.other).load (net s).config.ip +
          (host.link.sent.toList.map (Weight.frame (net s.other).config.ip)).sum := by
      simp only [Host.load, List.map_append, List.sum_append]
      exact Nat.add_right_comm _ _ _
    rw [load_eq _ s, load_eq net s, hmine, htheirs, hown]
    simp only [paid.config]
    rw [hqueued]
    omega

/-- **A move takes away from the load** what it takes off the links. -/
theorem step_load {net : Crossed} (ready : ∀ s, (net s).Ready) (depth : Nat) (move : Move) :
    (∀ s, ((net.step depth move).1 s).Ready) ∧
      (net.step depth move).1.load + (net.step depth move).2.taken ≤ net.load :=
  turn_load ready move.side (Host.exec_paid (ready move.side) depth move _)

/-- What is taken off the links in the course of some moves is taken away from the load; by
induction on the moves. -/
theorem taken_le_load {net : Crossed} (ready : ∀ s, (net s).Ready) (depth : Nat)
    (moves : List Move) : net.taken depth moves ≤ net.load := by
  induction moves generalizing net with
  | nil => exact Nat.zero_le _
  | cons move rest ih =>
      obtain ⟨hready, hload⟩ := step_load ready depth move
      have hrest := ih hready
      rw [taken]
      omega

/-- **Two hosts cause no storm.**  Whatever frames are queued for two hosts that answer by
themselves, and whatever they know of each other and hold back, in the course of any moves
they take no more than six frames off their links for each frame that was queued and each
packet that waited at first. -/
theorem taken_le (net : Crossed) (ready : ∀ s, (net s).Ready) (depth : Nat)
    (moves : List Move) :
    net.taken depth moves ≤
      6 * (((net .left).link.queue.length + (net .right).link.queue.length) +
        ((net .left).held.size + (net .right).held.size)) := by
  have htaken := taken_le_load ready depth moves
  have hleft := (net .left).load_le (net .right).config.ip
  have hright := (net .right).load_le (net .left).config.ip
  rw [load] at htaken
  omega

/-- One frame too short for any header, and one question, queued for a host that was just
set up. -/
theorem taken_le_of_two_frames :
    ∃ config, Settings.build {} = .ok config ∧
      Crossed.taken 1 (Side.left.assign
          (Host.silent config
            { queue := [[1, 2, 3], Outbound.requestFrame config ⟨10, 0, 0, 1⟩] })
          (Host.silent config {}))
        [.poll .left, .advance .right 5, .poll .left, .poll .right] ≤ 12 := by
  obtain ⟨config, hconfig⟩ : ∃ config, Settings.build {} = .ok config := ⟨_, rfl⟩
  refine ⟨config, hconfig, taken_le _ ?_ 1 _⟩
  have hready (queue : List Bytes) : (Host.silent config { queue }).Ready :=
    ⟨Host.silent_hasOwnHandlers config _, fun port => Table.get?_empty port, fun _ => rfl, rfl, rfl⟩
  rw [Side.forall_iff .left, Side.assign_self, Side.assign_other]
  exact ⟨hready _, hready []⟩

end Crossed

end HostNet
