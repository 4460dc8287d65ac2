import HostNet.Proofs.Resolution.Listing

/-!
# How often a host asks for an address

A host that is to send a packet to an address it does not know asks every station for it.  It
does not ask again while that packet waits, whatever else it is to send in the meantime.

* `History.exists_lastHeld` — once a packet began to wait, one waits or has waited too long
  until the address is learned.
* `Recalls.late_of_held` — a packet that takes a slot again does so late.
* `requests_spaced_out` — between two requests for an address more than `arpMinInterval`
  passes, unless the address is learned in between.

### Why it is the packet that waits that counts

Nothing remembers when a request went out.  The packet it went out for was put into the slot of
its address at the same time, with that time, and as long as that is found there no other
packet takes its place.  What keeps requests apart is thus that neither a packet for another
address nor one that is thrown away for having waited too long ever empties a slot that
counts, which is what the trace and the tables agree on.
-/

namespace HostNet

open History

namespace History

/-- Once a packet began to wait, and until its address is learned, the last packet that began to
wait is that one or a later one. -/
theorem exists_lastHeld {mid past : List Record} {time : Nat} {ip : Ipv4Addr} {packet : Bytes}
    (hordered : (mid ++ ⟨time, .dispatched ip packet .held⟩ :: past).Pairwise
      fun r r' => r'.time ≤ r.time)
    (hmid : ∀ r ∈ mid, r.learned? ip = none) :
    ∃ held, lastHeld ip (mid ++ ⟨time, .dispatched ip packet .held⟩ :: past) = some held ∧
      time ≤ held.stamp := by
  have hunlearned : ∀ r ∈ mid, (r.learned? ip).isNone = true := fun r hr => by
    rw [hmid r hr, Option.isNone_none]
  rw [lastHeld, List.takeWhile_append_of_pos hunlearned, List.findSome?_append]
  cases hlater : mid.findSome? (Record.held? ip) with
  | some held =>
      obtain ⟨r, hr, hheld⟩ := List.exists_of_findSome?_eq_some hlater
      have hafter := (List.pairwise_append.1 hordered).2.2 r hr _ List.mem_cons_self
      rw [Record.eq_of_held? ip hheld] at hafter
      exact ⟨held, rfl, hafter⟩
  | none =>
      have hself : (⟨time, .dispatched ip packet .held⟩ : Record).held? ip =
          some ⟨packet, time⟩ := if_pos rfl
      refine ⟨⟨packet, time⟩, ?_, Nat.le_refl _⟩
      rw [List.takeWhile_cons_of_pos (by rfl), List.findSome?_cons, hself, Option.none_or]

/-- **Two packets that wait for an address one after the other** began to do so more than
`arpMinInterval` apart, unless the address was learned in between. -/
theorem late_of_held {c : Config} {trace later mid past : List Record} {first second : Nat}
    {ip : Ipv4Addr} {packet packet' : Bytes} (history : History c trace)
    (hsplit : trace = later ++ ⟨second, .dispatched ip packet' .held⟩ ::
      (mid ++ ⟨first, .dispatched ip packet .held⟩ :: past))
    (hmid : ∀ r ∈ mid, r.learned? ip = none) : first + c.arpMinInterval < second := by
  have hordered := history.ordered
  rw [hsplit] at hordered
  obtain ⟨held, hlast, hafter⟩ :=
    exists_lastHeld (List.pairwise_cons.1 (List.pairwise_append.1 hordered).2.1).2 hmid
  -- The slot was free for the second packet, so that the last one in it did not count any more.
  have hfree := waitingAt_of_held (of_dispatched history hsplit).1.symm
  rw [waitingAt, hlast, Option.bind_some, Stamped.within] at hfree
  split at hfree
  · cases hfree
  · omega

end History

namespace Host

namespace Recalls

variable {c : Config} {h : Host}

/-- What is recorded first of a packet that is to go out is its fate. -/
theorem sendPacket_dispatched (recalls : h.Recalls c) (p : Packet) (ip : Ipv4Addr) :
    ⟨h.clock, .dispatched ip p.window (fateAt c h.trace ip h.clock)⟩ :: h.trace <:+
      (h.sendPacket p ip).trace := by
  have hmeets := recalls.meets p ip
  cases hfate : fateAt c h.trace ip h.clock with
  | sent mac =>
      rw [hfate] at hmeets
      exact hmeets.sends.suffix
  | dropped =>
      rw [hfate] at hmeets
      rw [show h.sendPacket p ip = _ from hmeets]
      exact List.suffix_cons _ _
  | held =>
      rw [hfate] at hmeets
      exact hmeets.sends.suffix

/-- **A request goes out for a packet** exactly if the packet begins to wait. -/
theorem asks_iff (recalls : h.Recalls c) (p : Packet) (ip : Ipv4Addr) :
    (h.sendPacket p ip).frames = h.frames ++ [Outbound.requestFrame c ip] ↔
      ⟨h.clock, .dispatched ip p.window .held⟩ :: h.trace <:+ (h.sendPacket p ip).trace := by
  refine (recalls.frames_eq_iff p ip .held).trans ⟨fun hfate => ?_, fun hheld => ?_⟩
  · rw [← hfate]
    exact recalls.sendPacket_dispatched p ip
  · have hrecorded := recalls.sendPacket_dispatched p ip
    have hsame := (List.suffix_of_suffix_length_le hrecorded hheld (Nat.le_refl _)).eq_of_length rfl
    rw [List.cons.injEq, Record.mk.injEq, Event.dispatched.injEq] at hsame
    exact hsame.1.2.2.2

end Recalls

/-- **Requests for an address are spaced out.**  In a run, and at any moment of it:

* A request goes out for a packet that is to be sent exactly if the packet begins to wait, and of
  every packet that began to wait, the request is what was recorded next.
* Between two packets for an address that began to wait, and so between two requests for that,
  more than `arpMinInterval` has passed, unless the address was learned in between.
* If a packet that is to be sent now makes a request go out, then more than `arpMinInterval` has
  passed since each earlier request for its address, unless the address was learned since.
* Whatever was learned was learned from a valid ARP packet with that sender, at the time it was
  given to the host.

Nothing is assumed of what else the host did in between. -/
theorem requests_spaced_out (config : Config) (link : Link) :
    (∀ depth actions,
      Moves (silent config link) (execAll depth (start config link) actions)) ∧
    ∀ h, Moves (silent config link) h →
      (∀ p ip, (h.sendPacket p ip).frames = h.frames ++ [Outbound.requestFrame config ip] ↔
        ⟨h.clock, .dispatched ip p.window .held⟩ :: h.trace <:+ (h.sendPacket p ip).trace) ∧
      (∀ later past time ip packet,
        h.trace = later ++ ⟨time, .dispatched ip packet .held⟩ :: past →
          ∃ after fault, later = after ++
            (transmission time (Outbound.requestFrame config ip) fault ++
              [⟨time, .notice (.asking ip config.ip)⟩])) ∧
      (∀ later mid past first second ip packet packet',
        h.trace = later ++ ⟨second, .dispatched ip packet' .held⟩ ::
            (mid ++ ⟨first, .dispatched ip packet .held⟩ :: past) →
          (∀ r ∈ mid, r.learned? ip = none) → first + config.arpMinInterval < second) ∧
      (∀ mid past first ip packet,
        h.trace = mid ++ ⟨first, .dispatched ip packet .held⟩ :: past →
          (∀ r ∈ mid, r.learned? ip = none) → ∀ p,
            (h.sendPacket p ip).frames = h.frames ++ [Outbound.requestFrame config ip] →
              first + config.arpMinInterval < h.clock) ∧
      ∀ later past r ip, h.trace = later ++ r :: past → r.learned? ip ≠ none →
        ∃ h₁ p, Steps (silent config link) h₁ ∧ Steps (h₁.receiveArp p) h ∧
          past = h₁.trace ∧ r.time = h₁.clock ∧ Inbound.ArpValid p.window ∧
          (Header.Arp.read p.window).senderIp = ip := by
  refine ⟨fun depth actions => (run_served config link depth actions).moves,
    fun h moves => ?_⟩
  have recalls := moves.steps.recalls
  refine ⟨recalls.asks_iff, ?_, ?_, ?_, ?_⟩
  · intro later past time ip packet hsplit
    exact (of_dispatched recalls.history hsplit).2
  · intro later mid past first second ip packet packet' hsplit hmid
    exact late_of_held recalls.history hsplit hmid
  · intro mid past first ip packet hsplit hmid p hasks
    obtain ⟨later, htrace⟩ := (recalls.asks_iff p ip).1 hasks
    rw [hsplit] at htrace
    exact late_of_held (recalls.sendPacket p ip).history htrace.symm hmid
  · intro later past r ip hsplit hlearned
    obtain ⟨mac, heq⟩ := Record.eq_of_learned? ip hlearned
    rw [heq] at hsplit
    obtain ⟨h₁, p, arp, before, accepted, after, hpast, htime, hip, -⟩ :=
      moves.steps.origin hsplit
    obtain ⟨valid, rfl⟩ := (Inbound.arp_eq_ok_iff p.window arp).1 accepted
    exact ⟨h₁, p, before, after, hpast, htime, valid, hip⟩

/-- A packet that is to be sent as soon as the one before it has waited too long. -/
theorem requests_spaced_out_of_two :
    ∃ (config : Config) (h : Host) (mid past : List Record), Moves (silent config {}) h ∧
      h.trace = mid ++ ⟨0, .dispatched ⟨10, 0, 0, 2⟩ [1, 2, 3] .held⟩ :: past ∧
      (h.sendPacket (Packet.ofPayload 0 [4, 5]) ⟨10, 0, 0, 2⟩).frames =
        h.frames ++ [Outbound.requestFrame config ⟨10, 0, 0, 2⟩] ∧
      0 + config.arpMinInterval < h.clock := by
  obtain ⟨config, hconfig⟩ : ∃ config, Settings.build {} = .ok config := ⟨_, rfl⟩
  obtain ⟨actions, hactions⟩ : ∃ actions : List Action, actions =
      [.sendPacket (Packet.ofPayload 0 [1, 2, 3]) ⟨10, 0, 0, 2⟩,
        .advance 1000000001] := ⟨_, rfl⟩
  have spaced := requests_spaced_out config {}
  have moves := spaced.1 1 actions
  have hheld : (execAll 1 (start config {}) actions).trace.drop 2 =
      ⟨0, .dispatched ⟨10, 0, 0, 2⟩ [1, 2, 3] .held⟩ ::
        (execAll 1 (start config {}) actions).trace.drop 3 := by
    cases hconfig
    cases hactions
    decide +kernel
  have hunlearned : ∀ r ∈ (execAll 1 (start config {}) actions).trace.take 2,
      r.learned? ⟨10, 0, 0, 2⟩ = none := by
    cases hconfig
    cases hactions
    exact List.findSome?_eq_none_iff.1 rfl
  have hasks : ((execAll 1 (start config {}) actions).sendPacket (Packet.ofPayload 0 [4, 5])
      ⟨10, 0, 0, 2⟩).frames = (execAll 1 (start config {}) actions).frames ++
        [Outbound.requestFrame config ⟨10, 0, 0, 2⟩] := by
    cases hconfig
    cases hactions
    decide +kernel
  have hsplit := (List.take_append_drop 2 (execAll 1 (start config {}) actions).trace).symm
  rw [hheld] at hsplit
  exact ⟨config, _, _, _, moves, hsplit, hasks,
    (spaced.2 _ moves).2.2.2.1 _ _ _ _ _ hsplit hunlearned _ hasks⟩

end Host

end HostNet
