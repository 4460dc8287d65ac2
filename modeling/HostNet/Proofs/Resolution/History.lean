import HostNet.Proofs.Sending
import Mathlib.Data.List.TakeWhile

/-!
# What a trace says of packets that wait

The fate of a packet depends on when its address was last learned and on which packet
began to wait for it last.  Both can be read from a trace alone.  This file is about
traces, and says nothing of tables.

* `History.knownAt`, `History.waitingAt` — where an address is known to be, and which packet
  waits for it, by the records before some time.
* `History.fateAt` — what becomes of a packet that is to go out.
* `History.firstLearned`, `History.releases`, `History.due` — what comes of a packet that
  waits, by the records after it began to.
* `History.Episode` — an event, and what a host records at once because of it.
* `History` — traces that are made of episodes, each of which accords with those before it.
* `History.of_dispatched`, `History.of_released` — the record of a packet that went
  out, or of one that waited and was sent, seen with what is before and after it.
* `History.accounted` — a packet that waits is released once if its address is learned in
  time, and otherwise never.

Traces have the latest record first.

### Why a packet that waits is accounted for up to the next one

There is one slot for each address.  A packet leaves it when the address is learned, or
when it has waited too long and another packet takes its place.  From then on whatever is
released was that other packet, which has an account of its own.
-/

namespace HostNet

/-- A packet that waited and was sent to a station. -/
structure Release where
  packet : Bytes
  mac : MacAddr
  time : Nat
  deriving Repr, DecidableEq

/-- The value, if no more than `limit` has passed since it was set. -/
def Stamped.within {ν : Type} (limit now : Nat) (e : Stamped ν) : Option ν :=
  if now ≤ e.stamp + limit then some e.value else none

/-- Whether the event is neither about an address learned nor about a packet that goes out,
waits, or waited. -/
def Event.IsAside : Event → Prop
  | notice (.learned _ _) => False
  | dispatched _ _ _ => False
  | released _ _ _ => False
  | _ => True

/-- What is only noted is neither about an address learned nor about a packet that waits. -/
theorem Event.IsNote.isAside {e : Event} (he : e.IsNote) : e.IsAside := by
  cases e with
  | notice n =>
      cases n with
      | learned ip mac => exact he.elim
      | _ => trivial
  | dispatched ip packet fate => exact he.elim
  | released ip packet mac => exact he.elim
  | _ => trivial

/-! ### Reading records -/

namespace Record

/-- The station at which `ip` was learned to be. -/
def learned? (ip : Ipv4Addr) : Record → Option (Stamped MacAddr)
  | ⟨time, .notice (.learned sender mac)⟩ => if sender = ip then some ⟨mac, time⟩ else none
  | _ => none

/-- The packet that began to wait for `ip`. -/
def held? (ip : Ipv4Addr) : Record → Option (Stamped Bytes)
  | ⟨time, .dispatched target packet .held⟩ =>
      if target = ip then some ⟨packet, time⟩ else none
  | _ => none

/-- The packet that waited for `ip` and was sent. -/
def released? (ip : Ipv4Addr) : Record → Option Release
  | ⟨time, .released target packet mac⟩ => if target = ip then some ⟨packet, mac, time⟩ else none
  | _ => none

variable {r : Record} (ip : Ipv4Addr)

theorem learned?_of_isAside (haside : r.event.IsAside) : r.learned? ip = none := by
  unfold learned?
  split
  · exact haside.elim
  · rfl

theorem held?_of_isAside (haside : r.event.IsAside) : r.held? ip = none := by
  unfold held?
  split
  · exact haside.elim
  · rfl

theorem released?_of_isAside (haside : r.event.IsAside) : r.released? ip = none := by
  unfold released?
  split
  · exact haside.elim
  · rfl

/-- Only a packet that is held for `ip` begins to wait for it. -/
theorem held_of_isSome {time : Nat} {target : Ipv4Addr} {packet : Bytes} {fate : Fate}
    (hheld : ((⟨time, .dispatched target packet fate⟩ : Record).held? ip).isSome = true) :
    target = ip ∧ fate = .held := by
  cases fate with
  | sent mac => cases hheld
  | dropped => cases hheld
  | held =>
      by_cases htarget : target = ip
      · exact ⟨htarget, rfl⟩
      · rw [held?, if_neg htarget] at hheld
        cases hheld

theorem eq_of_held? {e : Stamped Bytes} (hheld : r.held? ip = some e) :
    r = ⟨e.stamp, .dispatched ip e.value .held⟩ := by
  unfold held? at hheld
  split at hheld
  · split at hheld
    · rename_i htarget
      cases hheld
      rw [htarget]
    · cases hheld
  · cases hheld

theorem eq_of_learned? (hlearned : r.learned? ip ≠ none) :
    ∃ mac, r = ⟨r.time, .notice (.learned ip mac)⟩ := by
  unfold learned? at hlearned
  split at hlearned
  · split at hlearned
    · rename_i sender mac hsender
      exact ⟨mac, by rw [hsender]⟩
    · exact absurd rfl hlearned
  · exact absurd rfl hlearned

end Record

namespace History

/-! ### What the records before some time say -/

/-- The station that `ip` was last learned to be at. -/
def lastLearned (ip : Ipv4Addr) (past : List Record) : Option (Stamped MacAddr) :=
  past.findSome? (Record.learned? ip)

/-- The packet that was the last to begin to wait for `ip`, unless `ip` was learned since. -/
def lastHeld (ip : Ipv4Addr) (past : List Record) : Option (Stamped Bytes) :=
  (past.takeWhile fun r => (r.learned? ip).isNone).findSome? (Record.held? ip)

/-- Where `ip` is known to be. -/
def knownAt (c : Config) (past : List Record) (ip : Ipv4Addr) (now : Nat) : Option MacAddr :=
  (lastLearned ip past).bind (Stamped.within c.arpTimeout now)

/-- The packet that waits for `ip`. -/
def waitingAt (c : Config) (past : List Record) (ip : Ipv4Addr) (now : Nat) : Option Bytes :=
  (lastHeld ip past).bind (Stamped.within c.arpMinInterval now)

/-- What becomes of a packet that is to go out to `ip`. -/
def fateAt (c : Config) (past : List Record) (ip : Ipv4Addr) (now : Nat) : Fate :=
  match knownAt c past ip now, waitingAt c past ip now with
  | some mac, _ => .sent mac
  | none, some _ => .dropped
  | none, none => .held

section

variable {c : Config} {past : List Record} {ip : Ipv4Addr} {now : Nat}

theorem knownAt_eq_some_iff {mac : MacAddr} :
    knownAt c past ip now = some mac ↔
      ∃ since, lastLearned ip past = some ⟨mac, since⟩ ∧ now ≤ since + c.arpTimeout := by
  rw [knownAt, Option.bind_eq_some_iff]
  constructor
  · rintro ⟨⟨value, since⟩, hlast, hwithin⟩
    unfold Stamped.within at hwithin
    split at hwithin
    · cases hwithin
      exact ⟨since, hlast, ‹_›⟩
    · cases hwithin
  · rintro ⟨since, hlast, hintime⟩
    exact ⟨⟨mac, since⟩, hlast, if_pos hintime⟩

theorem fateAt_of_known {mac : MacAddr} (hknown : knownAt c past ip now = some mac) :
    fateAt c past ip now = .sent mac := by
  rw [fateAt, hknown]

theorem fateAt_of_waiting {packet : Bytes} (hknown : knownAt c past ip now = none)
    (hwaiting : waitingAt c past ip now = some packet) : fateAt c past ip now = .dropped := by
  rw [fateAt, hknown, hwaiting]

theorem fateAt_of_free (hknown : knownAt c past ip now = none)
    (hwaiting : waitingAt c past ip now = none) : fateAt c past ip now = .held := by
  rw [fateAt, hknown, hwaiting]

/-- A packet waits only where no other one does. -/
theorem waitingAt_of_held (hfate : fateAt c past ip now = .held) :
    waitingAt c past ip now = none := by
  cases hknown : knownAt c past ip now with
  | some mac =>
      rw [fateAt_of_known hknown] at hfate
      cases hfate
  | none =>
      cases hwaiting : waitingAt c past ip now with
      | none => rfl
      | some packet =>
          rw [fateAt_of_waiting hknown hwaiting] at hfate
          cases hfate

/-- A packet is sent at once only where its address is known. -/
theorem fateAt_eq_sent_iff {mac : MacAddr} :
    fateAt c past ip now = .sent mac ↔ knownAt c past ip now = some mac := by
  refine ⟨fun hfate => ?_, fateAt_of_known⟩
  cases hknown : knownAt c past ip now with
  | some known =>
      rw [fateAt_of_known hknown, Fate.sent.injEq] at hfate
      rw [hfate]
  | none =>
      cases hwaiting : waitingAt c past ip now with
      | some packet =>
          rw [fateAt_of_waiting hknown hwaiting] at hfate
          cases hfate
      | none =>
          rw [fateAt_of_free hknown hwaiting] at hfate
          cases hfate

/-- A packet waits only where its address is not known. -/
theorem knownAt_of_held (hfate : fateAt c past ip now = .held) : knownAt c past ip now = none := by
  cases hknown : knownAt c past ip now with
  | some mac =>
      rw [fateAt_of_known hknown] at hfate
      cases hfate
  | none => rfl

/-- What has been known for too long is not known again later. -/
theorem knownAt_of_le {later : Nat} (hle : now ≤ later)
    (hunknown : knownAt c past ip now = none) : knownAt c past ip later = none := by
  rw [knownAt, Option.bind_eq_none_iff] at hunknown ⊢
  intro learned hlast
  have hexpired := hunknown learned hlast
  unfold Stamped.within at hexpired ⊢
  split at hexpired
  · cases hexpired
  · exact if_neg (by omega)

/-- A packet that waits began to wait not too long ago, and neither was its address learned
nor did another packet begin to wait since. -/
theorem exists_held_of_waitingAt {packet : Bytes}
    (hwaiting : waitingAt c past ip now = some packet) :
    ∃ mid since before, past = mid ++ ⟨since, .dispatched ip packet .held⟩ :: before ∧
      now ≤ since + c.arpMinInterval ∧ ∀ r ∈ mid, r.learned? ip = none ∧ r.held? ip = none := by
  obtain ⟨held, hlast, hwithin⟩ := Option.bind_eq_some_iff.1 hwaiting
  obtain ⟨mid, r, rest, hsplit, hheld, hmid⟩ := List.findSome?_eq_some_iff.1 hlast
  unfold Stamped.within at hwithin
  split at hwithin
  · rename_i hintime
    cases hwithin
    refine ⟨mid, held.stamp, rest ++ past.dropWhile fun r => (r.learned? ip).isNone, ?_, hintime,
      fun r' hr' => ⟨?_, hmid r' hr'⟩⟩
    · have hcut := List.takeWhile_append_dropWhile (l := past)
        (p := fun r => (r.learned? ip).isNone)
      rw [hsplit, Record.eq_of_held? ip hheld, List.append_assoc] at hcut
      exact hcut.symm
    · have hmem : r' ∈ past.takeWhile fun r => (r.learned? ip).isNone := by
        rw [hsplit]
        exact List.mem_append_left _ hr'
      have hnone : (r'.learned? ip).isNone = true :=
        List.mem_takeWhile_imp (p := fun r : Record => (r.learned? ip).isNone) hmem
      exact Option.isNone_iff_eq_none.1 hnone
  · cases hwithin

end

/-! ### What the records after some time say -/

/-- The station that `ip` was first learned to be at. -/
def firstLearned (ip : Ipv4Addr) (later : List Record) : Option (Stamped MacAddr) :=
  later.reverse.findSome? (Record.learned? ip)

/-- Whether a packet began to wait for `ip`. -/
def HeldAgain (ip : Ipv4Addr) (later : List Record) : Prop :=
  ∃ r ∈ later, (r.held? ip).isSome = true

/-- The packets that waited for `ip` and were sent before another one began to wait, the
oldest one first. -/
def releases (ip : Ipv4Addr) (later : List Record) : List Release :=
  (later.reverse.takeWhile fun r => (r.held? ip).isNone).filterMap (Record.released? ip)

/-- What has to become of a packet that began to wait at `time`: it is sent where its address
is first learned to be, if that is in time. -/
def due (c : Config) (packet : Bytes) (time : Nat) : Option (Stamped MacAddr) → List Release
  | none => []
  | some first =>
      if first.stamp ≤ time + c.arpMinInterval then [⟨packet, first.value, first.stamp⟩] else []

/-! ### Episodes -/

/-- The records of a frame handed to the link. -/
def transmission (time : Nat) (frame : Bytes) : Option LinkError → List Record
  | none => [⟨time, .transmitted frame none⟩]
  | some cause =>
      [⟨time, .notice (.sendFailed frame.length cause)⟩, ⟨time, .transmitted frame (some cause)⟩]

/-- What is recorded because of the fate of a packet for `ip`. -/
def outcome (c : Config) (time : Nat) (ip : Ipv4Addr) (packet : Bytes) (fault : Option LinkError) :
    Fate → List Record
  | .sent mac => transmission time (Outbound.frame c mac EtherType.ipv4 packet) fault
  | .dropped => [⟨time, .notice (.alreadyResolving packet.length ip)⟩]
  | .held =>
      transmission time (Outbound.requestFrame c ip) fault ++ [⟨time, .notice (.asking ip c.ip)⟩]

/-- What is recorded because `ip` was learned to be at `mac`, depending on which packet waits
for it, and on whether the host was `asked`. -/
def answer (c : Config) (time : Nat) (ip : Ipv4Addr) (mac : MacAddr) (asked : Bool)
    (fault : Option LinkError) : Option Bytes → List Record
  | some packet =>
      transmission time (Outbound.frame c mac EtherType.ipv4 packet) fault ++
        [⟨time, .released ip packet mac⟩, ⟨time, .notice (.flushing packet.length ip)⟩]
  | none =>
      if asked then
        transmission time (Outbound.replyFrame c ip mac) fault ++
          [⟨time, .notice (.telling c.ip c.mac ip)⟩]
      else []

/-- An event after the records `past`, and what a host records at once because of it. -/
inductive Episode (c : Config) (past : List Record) (time : Nat) : Event → List Record → Prop where
  | aside (e : Event) (haside : e.IsAside) : Episode c past time e []
  /-- A packet goes out. -/
  | dispatch (ip : Ipv4Addr) (packet : Bytes) (fault : Option LinkError) :
      Episode c past time (.dispatched ip packet (fateAt c past ip time))
        (outcome c time ip packet fault (fateAt c past ip time))
  /-- An address is learned. -/
  | learn (ip : Ipv4Addr) (mac : MacAddr) (asked : Bool) (fault : Option LinkError) :
      Episode c past time (.notice (.learned ip mac))
        (answer c time ip mac asked fault (waitingAt c past ip time))

end History

/-- The traces that are made of episodes, in the order of time. -/
inductive History (c : Config) : List Record → Prop where
  | nil : History c []
  | episode {past tail : List Record} {time : Nat} {e : Event} (earlier : History c past)
      (hpast : ∀ r ∈ past, r.time ≤ time) (next : History.Episode c past time e tail) :
      History c (tail ++ ⟨time, e⟩ :: past)

namespace History

variable {c : Config} {past tail mid later : List Record} {time : Nat} {e : Event}

/-! ### What episodes consist of -/

/-- A record at some time that is about neither an address learned nor a packet that goes out,
waits, or waited. -/
structure AsideAt (time : Nat) (r : Record) : Prop where
  time_eq : r.time = time
  isAside : r.event.IsAside

/-- A record at some time that is only noted. -/
structure NoteAt (time : Nat) (r : Record) : Prop where
  time_eq : r.time = time
  isNote : r.event.IsNote

theorem NoteAt.asideAt {time : Nat} {r : Record} (note : NoteAt time r) : AsideAt time r :=
  ⟨note.time_eq, note.isNote.isAside⟩

theorem noteAt_of_mem_transmission {frame : Bytes} {fault : Option LinkError} {r : Record}
    (hr : r ∈ transmission time frame fault) : NoteAt time r := by
  cases fault with
  | none =>
      rw [transmission, List.mem_singleton] at hr
      subst hr
      exact ⟨rfl, trivial⟩
  | some cause =>
      rw [transmission, List.mem_cons, List.mem_singleton] at hr
      rcases hr with rfl | rfl
      · exact ⟨rfl, trivial⟩
      · exact ⟨rfl, trivial⟩

theorem noteAt_of_mem_outcome {ip : Ipv4Addr} {packet : Bytes} {fault : Option LinkError}
    {fate : Fate} {r : Record} (hr : r ∈ outcome c time ip packet fault fate) :
    NoteAt time r := by
  cases fate with
  | sent mac => exact noteAt_of_mem_transmission hr
  | dropped =>
      rw [outcome, List.mem_singleton] at hr
      subst hr
      exact ⟨rfl, trivial⟩
  | held =>
      rw [outcome, List.mem_append, List.mem_singleton] at hr
      rcases hr with hr | rfl
      · exact noteAt_of_mem_transmission hr
      · exact ⟨rfl, trivial⟩

/-- What is recorded because an address was learned is about nothing else, but for the record
of the packet that waited for it. -/
theorem noteAt_of_mem_answer {ip : Ipv4Addr} {mac : MacAddr} {asked : Bool}
    {fault : Option LinkError} {waiting : Option Bytes} {r : Record}
    (hr : r ∈ answer c time ip mac asked fault waiting) :
    NoteAt time r ∨ ∃ packet, waiting = some packet ∧ r = ⟨time, .released ip packet mac⟩ := by
  cases waiting with
  | some packet =>
      rw [answer, List.mem_append, List.mem_cons, List.mem_singleton] at hr
      rcases hr with hr | rfl | rfl
      · exact .inl (noteAt_of_mem_transmission hr)
      · exact .inr ⟨packet, rfl, rfl⟩
      · exact .inl ⟨rfl, trivial⟩
  | none =>
      rw [answer] at hr
      split at hr
      · rw [List.mem_append, List.mem_singleton] at hr
        rcases hr with hr | rfl
        · exact .inl (noteAt_of_mem_transmission hr)
        · exact .inl ⟨rfl, trivial⟩
      · cases hr

theorem asideAt_of_mem_transmission {frame : Bytes} {fault : Option LinkError} {r : Record}
    (hr : r ∈ transmission time frame fault) : AsideAt time r :=
  (noteAt_of_mem_transmission hr).asideAt

theorem asideAt_of_mem_outcome {ip : Ipv4Addr} {packet : Bytes} {fault : Option LinkError}
    {fate : Fate} {r : Record} (hr : r ∈ outcome c time ip packet fault fate) :
    AsideAt time r :=
  (noteAt_of_mem_outcome hr).asideAt

theorem asideAt_of_mem_answer {ip : Ipv4Addr} {mac : MacAddr} {asked : Bool}
    {fault : Option LinkError} {waiting : Option Bytes} {r : Record}
    (hr : r ∈ answer c time ip mac asked fault waiting) :
    AsideAt time r ∨ ∃ packet, waiting = some packet ∧ r = ⟨time, .released ip packet mac⟩ :=
  (noteAt_of_mem_answer hr).imp_left NoteAt.asideAt

/-- An episode takes no time. -/
theorem Episode.time_eq (next : Episode c past time e tail) {r : Record} (hr : r ∈ tail) :
    r.time = time := by
  cases next with
  | aside e haside => cases hr
  | dispatch target packet fault => exact (asideAt_of_mem_outcome hr).time_eq
  | learn sender mac asked fault =>
      rcases asideAt_of_mem_answer hr with haside | ⟨packet, -, rfl⟩
      · exact haside.time_eq
      · rfl

/-- Behind its first event an episode learns no address and makes no packet wait. -/
theorem Episode.tail_quiet (next : Episode c past time e tail) (ip : Ipv4Addr) {r : Record}
    (hr : r ∈ tail) : r.learned? ip = none ∧ r.held? ip = none := by
  have hquiet {r : Record} (haside : r.event.IsAside) :
      r.learned? ip = none ∧ r.held? ip = none :=
    ⟨Record.learned?_of_isAside ip haside, Record.held?_of_isAside ip haside⟩
  cases next with
  | aside e haside => cases hr
  | dispatch target packet fault => exact hquiet (asideAt_of_mem_outcome hr).isAside
  | learn sender mac asked fault =>
      rcases asideAt_of_mem_answer hr with haside | ⟨packet, -, rfl⟩
      · exact hquiet haside.isAside
      · exact ⟨rfl, rfl⟩

/-- No episode starts with a packet that waited and is sent. -/
theorem Episode.released?_eq_none (next : Episode c past time e tail) (ip : Ipv4Addr) :
    (⟨time, e⟩ : Record).released? ip = none := by
  cases next with
  | aside e haside => exact Record.released?_of_isAside ip haside
  | dispatch target packet fault => rfl
  | learn sender mac asked fault => rfl

/-- A trace is in the order of time, with the latest record first. -/
theorem ordered {trace : List Record} (history : History c trace) :
    trace.Pairwise fun r r' => r'.time ≤ r.time := by
  induction history with
  | nil => exact List.Pairwise.nil
  | @episode earlier tail now e _ hpast next ih =>
      refine List.pairwise_append.2 ⟨?_, List.pairwise_cons.2 ⟨hpast, ih⟩, fun r hr r' hr' => ?_⟩
      · exact List.pairwise_of_forall_mem_list fun r hr r' hr' => by
          rw [next.time_eq hr, next.time_eq hr']
      · rw [next.time_eq hr]
        rcases List.mem_cons.1 hr' with rfl | hr'
        · exact Nat.le_refl _
        · exact hpast r' hr'

/-! ### What an episode changes -/

theorem Episode.lastLearned_eq (next : Episode c past time e tail) (ip : Ipv4Addr) :
    lastLearned ip (tail ++ ⟨time, e⟩ :: past) =
      ((⟨time, e⟩ : Record).learned? ip).or (lastLearned ip past) := by
  rw [lastLearned, List.findSome?_append,
    List.findSome?_eq_none_iff.2 fun r hr => (next.tail_quiet ip hr).1, Option.none_or,
    List.findSome?_cons]
  cases (⟨time, e⟩ : Record).learned? ip with
  | none => rfl
  | some mac => rfl

theorem Episode.lastHeld_eq (next : Episode c past time e tail) (ip : Ipv4Addr) :
    lastHeld ip (tail ++ ⟨time, e⟩ :: past) =
      if ((⟨time, e⟩ : Record).learned? ip).isSome then none
      else ((⟨time, e⟩ : Record).held? ip).or (lastHeld ip past) := by
  have htail : ∀ r ∈ tail, (r.learned? ip).isNone = true := fun r hr => by
    rw [(next.tail_quiet ip hr).1, Option.isNone_none]
  rw [lastHeld, List.takeWhile_append_of_pos htail, List.findSome?_append,
    List.findSome?_eq_none_iff.2 fun r hr => (next.tail_quiet ip hr).2, Option.none_or,
    List.takeWhile_cons]
  cases (⟨time, e⟩ : Record).learned? ip with
  | some mac => rfl
  | none =>
      simp only [Option.isNone_none, if_true, Option.isSome_none, Bool.false_eq_true, if_false,
        List.findSome?_cons]
      cases (⟨time, e⟩ : Record).held? ip with
      | none => rfl
      | some packet => rfl

/-- Where `ip` is known to be after an episode. -/
theorem Episode.knownAt_eq (next : Episode c past time e tail) (ip : Ipv4Addr) (now : Nat) :
    knownAt c (tail ++ ⟨time, e⟩ :: past) ip now =
      ((⟨time, e⟩ : Record).learned? ip).elim (knownAt c past ip now)
        (Stamped.within c.arpTimeout now) := by
  rw [knownAt, next.lastLearned_eq]
  cases (⟨time, e⟩ : Record).learned? ip with
  | none => rfl
  | some learned => rfl

/-- Which packet waits for `ip` after an episode. -/
theorem Episode.waitingAt_eq (next : Episode c past time e tail) (ip : Ipv4Addr) (now : Nat) :
    waitingAt c (tail ++ ⟨time, e⟩ :: past) ip now =
      if ((⟨time, e⟩ : Record).learned? ip).isSome then none
      else ((⟨time, e⟩ : Record).held? ip).elim (waitingAt c past ip now)
        (Stamped.within c.arpMinInterval now) := by
  rw [waitingAt, next.lastHeld_eq]
  split
  · rfl
  · cases (⟨time, e⟩ : Record).held? ip with
    | none => rfl
    | some held => rfl

theorem Episode.firstLearned_eq (next : Episode c past time e tail) (ip : Ipv4Addr)
    (mid : List Record) :
    firstLearned ip (tail ++ ⟨time, e⟩ :: mid) =
      (firstLearned ip mid).or ((⟨time, e⟩ : Record).learned? ip) := by
  have htail : tail.reverse.findSome? (Record.learned? ip) = none :=
    List.findSome?_eq_none_iff.2 fun r hr => (next.tail_quiet ip (List.mem_reverse.1 hr)).1
  rw [firstLearned, List.reverse_append, List.reverse_cons, List.findSome?_append,
    List.findSome?_append, htail, Option.or_none, List.findSome?_singleton]
  rfl

theorem Episode.heldAgain_iff (next : Episode c past time e tail) (ip : Ipv4Addr)
    (mid : List Record) :
    HeldAgain ip (tail ++ ⟨time, e⟩ :: mid) ↔
      ((⟨time, e⟩ : Record).held? ip).isSome = true ∨ HeldAgain ip mid := by
  constructor
  · rintro ⟨r, hr, hheld⟩
    rcases List.mem_append.1 hr with hr | hr
    · rw [(next.tail_quiet ip hr).2] at hheld
      cases hheld
    · rcases List.mem_cons.1 hr with rfl | hr
      · exact .inl hheld
      · exact .inr ⟨r, hr, hheld⟩
  · rintro (hheld | ⟨r, hr, hheld⟩)
    · exact ⟨_, List.mem_append_right _ List.mem_cons_self, hheld⟩
    · exact ⟨r, List.mem_append_right _ (List.mem_cons_of_mem _ hr), hheld⟩

/-! ### Lists that are cut somewhere -/

theorem takeWhile_append_of_exists {α : Type} {p : α → Bool} {xs ys : List α}
    (hstop : ∃ a ∈ xs, ¬p a = true) : (xs ++ ys).takeWhile p = xs.takeWhile p := by
  rw [List.takeWhile_append, if_neg]
  intro hlength
  obtain ⟨a, ha, hnot⟩ := hstop
  have hall := List.takeWhile_eq_self_iff.1 ((List.takeWhile_prefix p).eq_of_length hlength)
  exact hnot (hall a ha)

/-- A record of a trace is in its last episode or before that. -/
theorem split_episode {head r : Record} {before : List Record}
    (hsplit : tail ++ head :: past = later ++ r :: before) :
    (∃ mid, later = tail ++ head :: mid ∧ past = mid ++ r :: before) ∨
      (later = tail ∧ r = head ∧ before = past) ∨
      ∃ mid, tail = later ++ r :: mid ∧ before = mid ++ head :: past := by
  rcases List.append_eq_append_iff.1 hsplit with ⟨between, rfl, heq⟩ | ⟨between, rfl, heq⟩
  · cases between with
    | nil =>
        cases heq
        exact .inr (.inl ⟨List.append_nil _, rfl, rfl⟩)
    | cons first mid =>
        cases heq
        exact .inl ⟨mid, rfl, rfl⟩
  · cases between with
    | nil =>
        cases heq
        exact .inr (.inl ⟨(List.append_nil _).symm, rfl, rfl⟩)
    | cons first mid =>
        cases heq
        exact .inr (.inr ⟨mid, rfl, rfl⟩)

/-! ### Packets that go out, and packets that waited -/

/-- **A packet that went out** met the fate that the records before it say, and just what
belongs to that fate was recorded next; by induction on the trace. -/
theorem of_dispatched {trace past later : List Record} {time : Nat} {ip : Ipv4Addr}
    {packet : Bytes} {fate : Fate} (history : History c trace)
    (hsplit : trace = later ++ ⟨time, .dispatched ip packet fate⟩ :: past) :
    fate = fateAt c past ip time ∧
      ∃ after fault, later = after ++ outcome c time ip packet fault fate := by
  induction history generalizing later with
  | nil => exact absurd hsplit (by simp)
  | @episode earlier tail now e _ hpast next ih =>
      rcases split_episode hsplit with ⟨mid, rfl, hmid⟩ | ⟨rfl, hhead, rfl⟩ | ⟨mid, htail, -⟩
      · obtain ⟨hfate, after, fault, rfl⟩ := ih hmid
        exact ⟨hfate, tail ++ ⟨now, e⟩ :: after, fault, by simp⟩
      · cases next with
        | aside e haside =>
            cases hhead
            exact haside.elim
        | dispatch target packet fault =>
            cases hhead
            exact ⟨rfl, [], fault, rfl⟩
        | learn sender mac asked fault => cases hhead
      · have hmem : ⟨time, .dispatched ip packet fate⟩ ∈ tail := by
          rw [htail]
          exact List.mem_append_right _ List.mem_cons_self
        cases next with
        | aside e haside => cases hmem
        | dispatch target packet fault => exact (asideAt_of_mem_outcome hmem).isAside.elim
        | learn sender mac asked fault =>
            rcases asideAt_of_mem_answer hmem with haside | ⟨packet, -, heq⟩
            · exact haside.isAside.elim
            · cases heq

/-- In the records of a transmission and of what led to it, the release comes first. -/
theorem split_transmission {frame : Bytes} {fault : Option LinkError} {r r' flushing : Record}
    (hsplit : transmission time frame fault ++ [r', flushing] = later ++ r :: mid)
    (hrest : ¬r.event.IsAside) (hflushing : flushing.event.IsAside) :
    later = transmission time frame fault ∧ r = r' ∧ mid = [flushing] := by
  rcases split_episode hsplit with ⟨between, -, hmid⟩ | ⟨rfl, rfl, rfl⟩ | ⟨between, htail, -⟩
  · have hmem : r ∈ [flushing] := by
      rw [hmid]
      exact List.mem_append_right _ List.mem_cons_self
    rw [List.mem_singleton.1 hmem] at hrest
    exact absurd hflushing hrest
  · exact ⟨rfl, rfl, rfl⟩
  · have hmem : r ∈ transmission time frame fault := by
      rw [htail]
      exact List.mem_append_right _ List.mem_cons_self
    exact absurd (asideAt_of_mem_transmission hmem).isAside hrest

/-- **A packet that waited and was sent** is the one that the records before its address was
learned say, it went to the station that was learned, and its frame is what was recorded
next; by induction on the trace. -/
theorem of_released {trace past later : List Record} {time : Nat} {ip : Ipv4Addr}
    {packet : Bytes} {mac : MacAddr} (history : History c trace)
    (hsplit : trace = later ++ ⟨time, .released ip packet mac⟩ :: past) :
    ∃ before, past = ⟨time, .notice (.flushing packet.length ip)⟩ ::
        ⟨time, .notice (.learned ip mac)⟩ :: before ∧
      waitingAt c before ip time = some packet ∧
      ∃ after fault, later =
        after ++ transmission time (Outbound.frame c mac EtherType.ipv4 packet) fault := by
  induction history generalizing later with
  | nil => exact absurd hsplit (by simp)
  | @episode earlier tail now e _ hpast next ih =>
      rcases split_episode hsplit with ⟨mid, rfl, hmid⟩ | ⟨rfl, hhead, rfl⟩ | ⟨mid, htail, hpast⟩
      · obtain ⟨before, hbefore, hwaiting, after, fault, rfl⟩ := ih hmid
        exact ⟨before, hbefore, hwaiting, tail ++ ⟨now, e⟩ :: after, fault, by simp⟩
      · have hnone := next.released?_eq_none ip
        rw [← hhead, Record.released?, if_pos rfl] at hnone
        cases hnone
      · have hmem : ⟨time, .released ip packet mac⟩ ∈ tail := by
          rw [htail]
          exact List.mem_append_right _ List.mem_cons_self
        cases next with
        | aside e haside => cases hmem
        | dispatch target packet fault => exact (asideAt_of_mem_outcome hmem).isAside.elim
        | learn sender station asked fault =>
            rcases asideAt_of_mem_answer hmem with haside | ⟨waiting, hwaiting, heq⟩
            · exact haside.isAside.elim
            · cases heq
              rw [hwaiting, answer] at htail
              obtain ⟨rfl, -, rfl⟩ := split_transmission htail id trivial
              exact ⟨earlier, hpast, hwaiting, [], fault, rfl⟩

/-! ### What comes of a packet that waits -/

/-- Once another packet waits, what is released is none of the first one's business. -/
theorem releases_of_heldAgain {ip : Ipv4Addr} (block : List Record) (again : HeldAgain ip mid) :
    releases ip (block ++ mid) = releases ip mid := by
  obtain ⟨r, hr, hheld⟩ := again
  have hstop : ∃ r ∈ mid.reverse, ¬(r.held? ip).isNone = true := by
    refine ⟨r, List.mem_reverse.2 hr, ?_⟩
    rw [← Option.not_isSome, hheld]
    decide
  rw [releases, List.reverse_append, takeWhile_append_of_exists hstop, releases]

/-- Until then, releases add up. -/
theorem releases_of_free {ip : Ipv4Addr} (block : List Record) (free : ¬HeldAgain ip mid) :
    releases ip (block ++ mid) = releases ip mid ++ releases ip block := by
  have hgo : ∀ r ∈ mid.reverse, (r.held? ip).isNone = true := by
    intro r hr
    rw [← Option.not_isSome, Bool.not_eq_true']
    exact Bool.eq_false_iff.2 fun hheld => free ⟨r, List.mem_reverse.1 hr, hheld⟩
  rw [releases, List.reverse_append, List.takeWhile_append_of_pos hgo, List.filterMap_append,
    releases, List.takeWhile_eq_self_iff.2 hgo, releases]

theorem releases_eq_nil {ip : Ipv4Addr} {block : List Record}
    (hblock : ∀ r ∈ block, r.released? ip = none) : releases ip block = [] := by
  rw [releases, List.filterMap_eq_nil_iff]
  intro r hr
  exact hblock r (List.mem_reverse.1 ((List.takeWhile_sublist _).mem hr))

/-- What an address that is learned releases. -/
theorem releases_learn (ip sender : Ipv4Addr) (mac : MacAddr) (asked : Bool)
    (fault : Option LinkError) (waiting : Option Bytes) :
    releases ip (answer c time sender mac asked fault waiting ++
        [⟨time, .notice (.learned sender mac)⟩]) =
      if sender = ip then (waiting.map fun packet => ⟨packet, mac, time⟩).toList else [] := by
  have hlearned : ¬HeldAgain ip [⟨time, .notice (.learned sender mac)⟩] := by
    simp [HeldAgain, Record.held?]
  have hnothing : releases ip [⟨time, .notice (.learned sender mac)⟩] = [] := by
    simp [releases, Record.held?, Record.released?]
  rw [releases_of_free _ hlearned, hnothing, List.nil_append]
  cases waiting with
  | none =>
      have hnone : releases ip (answer c time sender mac asked fault none) = [] :=
        releases_eq_nil fun r hr => by
          rcases asideAt_of_mem_answer hr with haside | ⟨packet, hsome, -⟩
          · exact Record.released?_of_isAside ip haside.isAside
          · cases hsome
      rw [hnone, Option.map_none, Option.toList_none, ite_self]
  | some packet =>
      let out : List Record :=
        [⟨time, .released sender packet mac⟩, ⟨time, .notice (.flushing packet.length sender)⟩]
      have hfree : ¬HeldAgain ip out := by simp [HeldAgain, Record.held?, out]
      have hframe : releases ip
          (transmission time (Outbound.frame c mac EtherType.ipv4 packet) fault) = [] :=
        releases_eq_nil fun r hr =>
          Record.released?_of_isAside ip (asideAt_of_mem_transmission hr).isAside
      rw [answer, releases_of_free _ hfree, hframe, List.append_nil]
      by_cases hsender : sender = ip
      · simp [releases, Record.held?, Record.released?, List.filterMap_cons, hsender, out]
      · simp [releases, Record.held?, Record.released?, List.filterMap_cons, hsender, out]

/-- While no other packet waits, the one that was held is still there, until its address is
learned. -/
theorem lastHeld_of_free {ip : Ipv4Addr} {packet : Bytes} (free : ¬HeldAgain ip mid) :
    lastHeld ip (mid ++ ⟨time, .dispatched ip packet .held⟩ :: past) =
      if (firstLearned ip mid).isSome then none else some ⟨packet, time⟩ := by
  have hheld : ∀ r ∈ mid, r.held? ip = none := fun r hr =>
    Option.not_isSome_iff_eq_none.1 fun hsome => free ⟨r, hr, hsome⟩
  cases hfirst : firstLearned ip mid with
  | none =>
      have hgo : ∀ r ∈ mid, (r.learned? ip).isNone = true := fun r hr => by
        rw [List.findSome?_eq_none_iff.1 hfirst r (List.mem_reverse.2 hr), Option.isNone_none]
      rw [lastHeld, List.takeWhile_append_of_pos hgo, List.findSome?_append,
        List.findSome?_eq_none_iff.2 hheld]
      simp [Record.learned?, Record.held?]
  | some first =>
      obtain ⟨r, hr, hlearned⟩ := List.exists_of_findSome?_eq_some hfirst
      have hstop : ∃ r ∈ mid, ¬(r.learned? ip).isNone = true := by
        refine ⟨r, List.mem_reverse.1 hr, ?_⟩
        rw [hlearned]
        exact Bool.false_ne_true
      rw [lastHeld, takeWhile_append_of_exists hstop,
        List.findSome?_eq_none_iff.2 fun r hr => hheld r ((List.takeWhile_sublist _).mem hr)]
      rfl

/-- What has come of a packet that began to wait at `time`. -/
structure Accounted (c : Config) (ip : Ipv4Addr) (packet : Bytes) (time : Nat)
    (later : List Record) : Prop where
  settled : releases ip later = due c packet time (firstLearned ip later)
  /-- Another packet waits only if this one has waited too long. -/
  overdue : firstLearned ip later = none → HeldAgain ip later →
    ∃ r ∈ later, time + c.arpMinInterval < r.time

theorem stamp_of_learned? {ip : Ipv4Addr} {r : Record} {first : Stamped MacAddr}
    (hlearned : r.learned? ip = some first) : first.stamp = r.time := by
  unfold Record.learned? at hlearned
  split at hlearned
  · split at hlearned
    · cases hlearned
      rfl
    · cases hlearned
  · cases hlearned

/-- Once another packet waits, the account of the first one is closed. -/
theorem Accounted.episode_of_heldAgain {ip : Ipv4Addr} {packet : Bytes} {now : Nat}
    (acc : Accounted c ip packet time mid) (again : HeldAgain ip mid)
    (hmid : ∀ r ∈ mid, r.time ≤ now) (next : Episode c past now e tail) :
    Accounted c ip packet time (tail ++ ⟨now, e⟩ :: mid) := by
  have hsame : releases ip (tail ++ ⟨now, e⟩ :: mid) = releases ip mid := by
    rw [List.append_cons]
    exact releases_of_heldAgain _ again
  have hlearned := next.firstLearned_eq ip mid
  cases hfirst : firstLearned ip mid with
  | some first =>
      rw [hfirst, Option.some_or] at hlearned
      refine ⟨?_, fun hnone => ?_⟩
      · rw [hsame, acc.settled, hfirst, hlearned]
      · rw [hlearned] at hnone
        cases hnone
  | none =>
      obtain ⟨r, hr, hlate⟩ := acc.overdue hfirst again
      have hafter := hmid r hr
      rw [hfirst, Option.none_or] at hlearned
      refine ⟨?_, fun _ _ => ⟨r, List.mem_append_right _ (List.mem_cons_of_mem _ hr), hlate⟩⟩
      rw [hsame, acc.settled, hfirst, hlearned]
      cases hhead : (⟨now, e⟩ : Record).learned? ip with
      | none => rfl
      | some first =>
          have hstamp : first.stamp = now := stamp_of_learned? hhead
          exact (if_neg (by omega)).symm

/-- While no other packet waits, the one that was held does until it has waited too long or
its address is learned. -/
theorem waitingAt_of_free {ip : Ipv4Addr} {packet : Bytes} (free : ¬HeldAgain ip mid)
    (now : Nat) :
    waitingAt c (mid ++ ⟨time, .dispatched ip packet .held⟩ :: past) ip now =
      if (firstLearned ip mid).isSome then none
      else if now ≤ time + c.arpMinInterval then some packet else none := by
  rw [waitingAt, lastHeld_of_free free]
  split
  · rfl
  · rfl

/-- What is released next, while no other packet waits. -/
theorem Accounted.releases_eq {ip : Ipv4Addr} {packet : Bytes} (block : List Record)
    (acc : Accounted c ip packet time mid) (free : ¬HeldAgain ip mid) :
    releases ip (block ++ mid) = due c packet time (firstLearned ip mid) ++ releases ip block := by
  rw [releases_of_free _ free, acc.settled]

/-- Where neither an address is learned nor a packet released, the account stays as it is,
unless another packet waits now; then the first one has waited too long. -/
theorem Accounted.of_unlearned {ip : Ipv4Addr} {packet : Bytes} {now : Nat}
    (acc : Accounted c ip packet time mid) (free : ¬HeldAgain ip mid)
    (next : Episode c past now e tail) (hlearned : (⟨now, e⟩ : Record).learned? ip = none)
    (htail : ∀ r ∈ tail, r.released? ip = none)
    (hheld : ((⟨now, e⟩ : Record).held? ip).isSome = true → firstLearned ip mid = none →
      time + c.arpMinInterval < now) :
    Accounted c ip packet time (tail ++ ⟨now, e⟩ :: mid) := by
  have hsame : firstLearned ip (tail ++ ⟨now, e⟩ :: mid) = firstLearned ip mid := by
    rw [next.firstLearned_eq, hlearned, Option.or_none]
  refine ⟨?_, fun hnone hagain => ?_⟩
  · have hnothing : releases ip (tail ++ [⟨now, e⟩]) = [] := releases_eq_nil fun r hr => by
      rcases List.mem_append.1 hr with hr | hr
      · exact htail r hr
      · rw [List.mem_singleton.1 hr]
        exact next.released?_eq_none ip
    rw [hsame, List.append_cons, acc.releases_eq _ free, hnothing, List.append_nil]
  · rw [hsame] at hnone
    rcases (next.heldAgain_iff ip mid).1 hagain with hnow | hagain
    · exact ⟨⟨now, e⟩, List.mem_append_right _ List.mem_cons_self, hheld hnow hnone⟩
    · exact absurd hagain free

/-- An address that is learned releases the packet if it is the first time, and in time. -/
theorem Accounted.of_learned {ip : Ipv4Addr} {packet : Bytes} {now : Nat} {mac : MacAddr}
    {earlier : List Record} {asked : Bool} {fault : Option LinkError} {waiting : Option Bytes}
    (acc : Accounted c ip packet time mid) (free : ¬HeldAgain ip mid)
    (next : Episode c earlier now (.notice (.learned ip mac))
      (answer c now ip mac asked fault waiting))
    (hwaiting : waiting =
      waitingAt c (mid ++ ⟨time, .dispatched ip packet .held⟩ :: past) ip now) :
    Accounted c ip packet time
      (answer c now ip mac asked fault waiting ++ ⟨now, .notice (.learned ip mac)⟩ :: mid) := by
  have hlearned : (⟨now, .notice (.learned ip mac)⟩ : Record).learned? ip = some ⟨mac, now⟩ :=
    if_pos rfl
  have hfree : ¬HeldAgain ip
      (answer c now ip mac asked fault waiting ++ ⟨now, .notice (.learned ip mac)⟩ :: mid) := by
    rw [next.heldAgain_iff]
    rintro (hheld | hagain)
    · cases hheld
    · exact free hagain
  refine ⟨?_, fun _ hagain => absurd hagain hfree⟩
  rw [next.firstLearned_eq, hlearned, List.append_cons, acc.releases_eq _ free, releases_learn,
    if_pos rfl, hwaiting, waitingAt_of_free free]
  cases firstLearned ip mid with
  | some first => simp
  | none =>
      by_cases hintime : now ≤ time + c.arpMinInterval
      · simp [due, hintime]
      · simp [due, hintime]

/-- **An episode keeps the account** of a packet that waits or waited. -/
theorem Accounted.episode {ip : Ipv4Addr} {packet : Bytes} {now : Nat}
    (acc : Accounted c ip packet time mid) (hmid : ∀ r ∈ mid, r.time ≤ now)
    (next : Episode c (mid ++ ⟨time, .dispatched ip packet .held⟩ :: past) now e tail) :
    Accounted c ip packet time (tail ++ ⟨now, e⟩ :: mid) := by
  by_cases again : HeldAgain ip mid
  · exact acc.episode_of_heldAgain again hmid next
  · have hnext := next
    cases next with
    | aside e haside =>
        refine acc.of_unlearned again hnext (Record.learned?_of_isAside ip haside)
          (fun r hr => by cases hr) fun hheld => ?_
        rw [Record.held?_of_isAside ip haside] at hheld
        cases hheld
    | dispatch target p fault =>
        refine acc.of_unlearned again hnext rfl
          (fun r hr => Record.released?_of_isAside ip (asideAt_of_mem_outcome hr).isAside)
          fun hheld hnone => ?_
        -- The slot was taken, so that it was free: the packet in it did not count any more.
        obtain ⟨rfl, hfate⟩ := Record.held_of_isSome ip hheld
        have hwaiting := waitingAt_of_held hfate
        rw [waitingAt_of_free again, hnone] at hwaiting
        simpa using hwaiting
    | learn sender mac asked fault =>
        by_cases hsender : sender = ip
        · subst hsender
          exact acc.of_learned again hnext rfl
        · refine acc.of_unlearned again hnext (if_neg hsender) (fun r hr => ?_) nofun
          rcases asideAt_of_mem_answer hr with haside | ⟨waiting, -, rfl⟩
          · exact Record.released?_of_isAside ip haside.isAside
          · exact if_neg hsender

/-- A packet that has just begun to wait. -/
theorem accounted_outcome (c : Config) (time : Nat) (ip : Ipv4Addr) (packet : Bytes)
    (fault : Option LinkError) :
    Accounted c ip packet time (outcome c time ip packet fault .held) := by
  have haside {r : Record} (hr : r ∈ outcome c time ip packet fault .held) :=
    (asideAt_of_mem_outcome hr).isAside
  have hfirst : firstLearned ip (outcome c time ip packet fault .held) = none :=
    List.findSome?_eq_none_iff.2 fun r hr =>
      Record.learned?_of_isAside ip (haside (List.mem_reverse.1 hr))
  refine ⟨?_, fun _ ⟨r, hr, hheld⟩ => ?_⟩
  · rw [hfirst, releases_eq_nil fun r hr => Record.released?_of_isAside ip (haside hr)]
    rfl
  · rw [Record.held?_of_isAside ip (haside hr)] at hheld
    cases hheld

/-- **A packet that waits is released once if its address is learned in time**, and otherwise
never; by induction on the trace. -/
theorem accounted {trace : List Record} {ip : Ipv4Addr} {packet : Bytes}
    (history : History c trace)
    (hsplit : trace = later ++ ⟨time, .dispatched ip packet .held⟩ :: past) :
    Accounted c ip packet time later := by
  induction history generalizing later with
  | nil => exact absurd hsplit (by simp)
  | @episode earlier tail now e _ hpast next ih =>
      rcases split_episode hsplit with ⟨mid, rfl, rfl⟩ | ⟨rfl, hhead, rfl⟩ | ⟨mid, htail, -⟩
      · exact (ih rfl).episode (fun r hr => hpast r (List.mem_append_left _ hr)) next
      · cases next with
        | aside e haside =>
            cases hhead
            exact haside.elim
        | dispatch target p fault =>
            injection hhead with htime hevent
            injection hevent with htarget hpacket hfate
            rw [← hfate, ← htarget, ← htime, ← hpacket]
            exact accounted_outcome c time ip packet fault
        | learn sender mac asked fault => cases hhead
      · have hmem : ⟨time, .dispatched ip packet .held⟩ ∈ tail := by
          rw [htail]
          exact List.mem_append_right _ List.mem_cons_self
        have hheld := (next.tail_quiet ip hmem).2
        rw [Record.held?, if_pos rfl] at hheld
        cases hheld

end History

end HostNet
