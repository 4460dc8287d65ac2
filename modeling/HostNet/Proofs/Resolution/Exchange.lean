/-!
# Two hosts that resolve each other's address

Each of two hosts has one datagram for the other and at first does not know where the
other is.  What can happen between them depends on little: whether a host knows where
the other is, whether its datagram waits for that, and which messages are on their way.
This file is about that little, and says nothing of frames or tables.

* `Message` — what is on its way: an announcement, a question, an answer or a datagram.
* `Half` — one of the hosts, with what is on its way to it.
* `Half.speak`, `Half.take` — the host sends its datagram, and takes a message.
* `Exchange.Step` — one of the two does either; messages are taken in any order.
* `Half.Bond` — what holds between two halves in every state that can be reached
  (`Exchange.Step.inv`).
* `delivered_of_settled` — once both have spoken and nothing is on its way, each has
  the other's datagram, once, and none waits.
* `Exchange.Step.weight_lt` — no exchange goes on for ever.

### The invariant

A host whose datagram waits must have something coming that tells it where the other is.
Mostly that is the answer to its question.  But a host with a datagram of its own waiting
does not answer a question, it sends that datagram instead; so there has to be another
reason why the first host learns of the second, and that is the question of the second:
a datagram that waits has been asked for.  `Half.Bond.coming` says that something
comes, or will come in answer to a question that is still on its way to a host that will
answer it.  `Half.Bond.heard` says that a question, once taken, has told its receiver
where the sender is.  The two keep each other up: a host that still has to ask has not
taken the other's question, so that this is on its way to it.
-/

namespace HostNet

/-- One of two hosts. -/
inductive Side where
  | left
  | right
  deriving Repr, DecidableEq

namespace Side

/-- The other host. -/
def other : Side → Side
  | left => right
  | right => left

@[simp] theorem other_other (s : Side) : s.other.other = s := by cases s <;> rfl

@[simp] theorem other_ne (s : Side) : s.other ≠ s := by cases s <;> decide

theorem forall_iff (s : Side) {p : Side → Prop} : (∀ t, p t) ↔ p s ∧ p s.other := by
  constructor
  · intro hall
    exact ⟨hall s, hall s.other⟩
  · rintro ⟨hs, hother⟩ t
    cases s <;> cases t <;> assumption

/-- What is `mine` at side `s` and `theirs` at the other. -/
def assign {α : Type} (s : Side) (mine theirs : α) : Side → α :=
  fun t => if t = s then mine else theirs

@[simp] theorem assign_self {α : Type} (s : Side) (mine theirs : α) :
    s.assign mine theirs s = mine := if_pos rfl

@[simp] theorem assign_other {α : Type} (s : Side) (mine theirs : α) :
    s.assign mine theirs s.other = theirs := if_neg s.other_ne

end Side

/-- What is on its way to a host from the other. -/
inductive Message where
  /-- Tells where the sender is, as a question that no one answers. -/
  | announcement
  /-- Asks where the receiver is, and tells where the sender is. -/
  | request
  /-- Tells where the sender is. -/
  | reply
  | datagram
  deriving Repr, DecidableEq

/-- One of the two hosts, and what is on its way to it. -/
structure Half where
  /-- It knows where the other is. -/
  knows : Bool
  /-- Its datagram waits for that. -/
  waits : Bool
  /-- It was asked to send its datagram. -/
  spoken : Bool
  /-- How often it was given the other's datagram. -/
  got : Nat
  inbound : List Message
  deriving Repr, DecidableEq

namespace Half

/-- The host is asked to send its datagram, and what it sends. -/
def speak (x : Half) : Half × List Message :=
  if x.knows then ({ x with spoken := true }, [.datagram])
  else ({ x with spoken := true, waits := true }, [.request])

/-- The host takes a message, and what it sends. -/
def take (x : Half) : Message → Half × List Message
  | .datagram => ({ x with got := x.got + 1 }, [])
  | message =>
      ({ x with knows := true, waits := false },
        if x.waits then [.datagram] else if message = .request then [.reply] else [])

/-- What holds of the datagram of a host, between that host and the other. -/
structure Bond (x y : Half) : Prop where
  /-- Only a datagram that was sent waits. -/
  asked : x.waits = true → x.spoken = true
  /-- **The datagram is in one place**: on its way, waiting or delivered. -/
  kept : y.inbound.count .datagram + x.waits.toNat + y.got = x.spoken.toNat
  /-- Something will tell a host that waits where the other is. -/
  coming : x.waits = true →
    (∃ message ∈ x.inbound, message ≠ .datagram) ∨ (.request ∈ y.inbound ∧ y.waits = false)
  /-- A host that waits has told the other where it is, or is about to. -/
  heard : x.waits = true → .request ∈ y.inbound ∨ y.knows = true

end Half

/-- Both hosts. -/
abbrev Exchange : Type := Side → Half

namespace Exchange

/-- The exchange after side `s` has come to `mine` and sent `sent`. -/
def turn (x : Exchange) (s : Side) (mine : Half) (sent : List Message) : Exchange :=
  s.assign mine { x s.other with inbound := (x s.other).inbound ++ sent }

/-- One of the hosts does something. -/
inductive Step : Exchange → Exchange → Prop where
  | send {x : Exchange} (s : Side) (hspoken : (x s).spoken = false) :
      Step x (x.turn s (x s).speak.1 (x s).speak.2)
  | deliver {x : Exchange} (s : Side) (before after : List Message) (message : Message)
      (hinbound : (x s).inbound = before ++ message :: after) :
      Step x (x.turn s (({ x s with inbound := before ++ after } : Half).take message).1
        (({ x s with inbound := before ++ after } : Half).take message).2)

/-- Both hosts have announced themselves, and nothing else has happened. -/
def start : Exchange := fun _ =>
  { knows := false, waits := false, spoken := false, got := 0, inbound := [.announcement] }

/-- The invariant of exchanges. -/
def Inv (x : Exchange) : Prop := ∀ s, (x s).Bond (x s.other)

theorem start_inv : start.Inv := fun _ => {
  asked := nofun
  kept := rfl
  coming := nofun
  heard := nofun }

end Exchange

/-! ### Steps keep the bonds -/

namespace Half

variable {x y : Half}

/-- A host that has not spoken has no datagram waiting. -/
theorem Bond.waits_eq_false (bond : x.Bond y) (hspoken : x.spoken = false) :
    x.waits = false := by
  cases hwaits : x.waits with
  | false => rfl
  | true =>
      rw [bond.asked hwaits] at hspoken
      cases hspoken

/-- The datagram of a host that has not spoken is nowhere. -/
theorem Bond.count_add_got_eq_zero (bond : x.Bond y) (hspoken : x.spoken = false) :
    y.inbound.count .datagram + y.got = 0 := by
  have hkept := bond.kept
  rw [bond.waits_eq_false hspoken, hspoken] at hkept
  simpa using hkept

/-- Sending its datagram keeps the bond of a host: it asks, and whatever the other still
asks itself is on its way here. -/
theorem speak_bond (hspoken : x.spoken = false) (bond : x.Bond y) (back : y.Bond x) :
    x.speak.1.Bond { y with inbound := y.inbound ++ x.speak.2 } := by
  have hnowhere := bond.count_add_got_eq_zero hspoken
  have hwaits := bond.waits_eq_false hspoken
  unfold speak
  cases hknows : x.knows with
  | true =>
      refine ⟨fun _ => rfl, ?_, fun hw => ?_, fun hw => ?_⟩
      · simp only [if_true, List.count_append, hwaits]
        simp
        omega
      · exact absurd (hwaits.symm.trans hw) (by decide)
      · exact absurd (hwaits.symm.trans hw) (by decide)
  | false =>
      have hrequest : Message.request ∈ y.inbound ++ [.request] :=
        List.mem_append_right _ List.mem_cons_self
      refine ⟨fun _ => rfl, ?_, fun _ => ?_, fun _ => .inl hrequest⟩
      · simp only [Bool.false_eq_true, if_false, List.count_append]
        simp
        omega
      · cases hother : y.waits with
        | false => exact .inr ⟨hrequest, rfl⟩
        | true =>
            -- The other has asked, and this host has not heard of it yet.
            rcases back.heard hother with hasked | hknown
            · exact .inl ⟨.request, hasked, by decide⟩
            · exact absurd (hknows.symm.trans hknown) (by decide)

/-- What a host sends with its datagram does not harm the bond of the other. -/
theorem speak_bond_back (hspoken : x.spoken = false) (bond : x.Bond y) (back : y.Bond x) :
    ({ y with inbound := y.inbound ++ x.speak.2 } : Half).Bond x.speak.1 := by
  have hwaits := bond.waits_eq_false hspoken
  have hsame : x.speak.1.inbound = x.inbound ∧ x.speak.1.got = x.got ∧
      x.speak.1.knows = x.knows := by
    unfold speak
    split <;> exact ⟨rfl, rfl, rfl⟩
  refine ⟨back.asked, ?_, fun hw => ?_, fun hw => ?_⟩
  · rw [hsame.1, hsame.2.1]
    exact back.kept
  · cases hknows : x.knows with
    | false =>
        refine .inl ⟨.request, ?_, by decide⟩
        simp [speak, hknows]
    | true =>
        have hspeak : x.speak.1.waits = x.waits := by simp [speak, hknows]
        rw [hsame.1, hspeak]
        rcases back.coming hw with ⟨message, hmessage, hne⟩ | hasked
        · exact .inl ⟨message, List.mem_append_left _ hmessage, hne⟩
        · exact .inr hasked
  · rw [hsame.1, hsame.2.2]
    exact back.heard hw

/-- What a host does with a message that is no datagram. -/
theorem take_of_ne (x : Half) {message : Message} (hne : message ≠ .datagram) :
    x.take message =
      ({ x with knows := true, waits := false },
        if x.waits then [.datagram] else if message = .request then [.reply] else []) := by
  cases message with
  | datagram => exact absurd rfl hne
  | _ => rfl

/-- Taking a message keeps the bond of the host that takes it: its datagram waits no longer
if the message was no datagram. -/
theorem take_bond {before after : List Message} {message : Message}
    (hinbound : x.inbound = before ++ message :: after) (bond : x.Bond y) :
    let taken := ({ x with inbound := before ++ after } : Half).take message
    taken.1.Bond { y with inbound := y.inbound ++ taken.2 } := by
  intro taken
  by_cases hdatagram : message = .datagram
  · subst hdatagram
    have htaken : taken = ({ x with inbound := before ++ after, got := x.got + 1 }, []) := rfl
    rw [htaken, List.append_nil]
    refine ⟨bond.asked, bond.kept, fun hw => ?_, bond.heard⟩
    rcases bond.coming hw with ⟨m, hm, hne⟩ | hasked
    · refine .inl ⟨m, ?_, hne⟩
      rw [hinbound, List.mem_append, List.mem_cons] at hm
      rcases hm with hm | rfl | hm
      · exact List.mem_append_left _ hm
      · exact absurd rfl hne
      · exact List.mem_append_right _ hm
    · exact .inr hasked
  · have htaken : taken = _ := take_of_ne _ hdatagram
    rw [htaken]
    -- The datagram does not wait any more: where it did, it is on its way now.
    refine ⟨nofun, ?_, nofun, nofun⟩
    have hkept := bond.kept
    rw [List.count_append]
    cases hwaits : x.waits with
    | true =>
        rw [hwaits] at hkept
        simp only [if_true, List.count_singleton_self, Bool.toNat_false]
        simp only [Bool.toNat_true] at hkept
        omega
    | false =>
        rw [hwaits] at hkept
        have hnone : (if message = .request then [Message.reply] else []).count .datagram = 0 := by
          split <;> rfl
        simp only [Bool.false_eq_true, if_false, hnone]
        exact hkept

/-- Taking a message keeps the bond of the other host: a question is answered, or else it
has told where the other is. -/
theorem take_bond_back {before after : List Message} {message : Message}
    (hinbound : x.inbound = before ++ message :: after) (back : y.Bond x) :
    let taken := ({ x with inbound := before ++ after } : Half).take message
    ({ y with inbound := y.inbound ++ taken.2 } : Half).Bond taken.1 := by
  intro taken
  have hkept := back.kept
  rw [hinbound, List.count_append, List.count_cons] at hkept
  -- What was on its way is still, but for the message.
  have hstill {m : Message} (hm : m ∈ x.inbound) : m = message ∨ m ∈ before ++ after := by
    rw [hinbound, List.mem_append, List.mem_cons] at hm
    rcases hm with hm | rfl | hm
    · exact .inr (List.mem_append_left _ hm)
    · exact .inl rfl
    · exact .inr (List.mem_append_right _ hm)
  by_cases hdatagram : message = .datagram
  · subst hdatagram
    have htaken : taken = ({ x with inbound := before ++ after, got := x.got + 1 }, []) := rfl
    rw [htaken, List.append_nil]
    refine ⟨back.asked, ?_, fun hw => ?_, fun hw => ?_⟩
    · show (before ++ after).count .datagram + y.waits.toNat + (x.got + 1) = y.spoken.toNat
      rw [List.count_append]
      simp only [BEq.rfl, if_true] at hkept
      omega
    · rcases back.coming hw with hcoming | ⟨hasked, hfree⟩
      · exact .inl hcoming
      · rcases hstill hasked with heq | hasked
        · cases heq
        · exact .inr ⟨hasked, hfree⟩
    · rcases back.heard hw with hasked | hknown
      · rcases hstill hasked with heq | hasked
        · cases heq
        · exact .inl hasked
      · exact .inr hknown
  · have htaken : taken = _ := take_of_ne _ hdatagram
    rw [htaken]
    refine ⟨back.asked, ?_, fun hw => ?_, fun _ => .inr rfl⟩
    · rw [List.count_append]
      rw [if_neg (by simpa using hdatagram)] at hkept
      exact hkept
    · rcases back.coming hw with ⟨m, hm, hne⟩ | ⟨hasked, hfree⟩
      · exact .inl ⟨m, List.mem_append_left _ hm, hne⟩
      · rcases hstill hasked with rfl | hasked
        · -- The question has come to a host that answers it.
          refine .inl ⟨.reply, ?_, by decide⟩
          simp [hfree]
        · exact .inr ⟨hasked, rfl⟩

end Half

namespace Exchange

/-- **A step keeps the invariant.** -/
theorem Step.inv {x x' : Exchange} (step : Step x x') (hinv : x.Inv) : x'.Inv := by
  cases step with
  | send s hspoken =>
      have bond := hinv s
      have back := hinv s.other
      rw [Side.other_other] at back
      refine (Side.forall_iff s).2 ⟨?_, ?_⟩
      · rw [turn, Side.assign_self, Side.assign_other]
        exact Half.speak_bond hspoken bond back
      · rw [turn, Side.other_other, Side.assign_self, Side.assign_other]
        exact Half.speak_bond_back hspoken bond back
  | deliver s before after message hinbound =>
      have bond := hinv s
      have back := hinv s.other
      rw [Side.other_other] at back
      refine (Side.forall_iff s).2 ⟨?_, ?_⟩
      · rw [turn, Side.assign_self, Side.assign_other]
        exact Half.take_bond hinbound bond
      · rw [turn, Side.other_other, Side.assign_self, Side.assign_other]
        exact Half.take_bond_back hinbound back

/-- A host whose datagram is on its way has not been heard of before. -/
theorem Inv.got_eq_zero {x : Exchange} (hinv : x.Inv) {s : Side}
    (hcoming : .datagram ∈ (x s).inbound) : (x s).got = 0 := by
  have hkept := (hinv s.other).kept
  have hcount := List.count_pos_iff.2 hcoming
  have hone := Bool.toNat_le (x s.other).spoken
  rw [Side.other_other] at hkept
  omega

/-- **Once both have spoken and nothing is on its way**, each has the datagram of the
other, and none waits. -/
theorem delivered_of_settled {x : Exchange} (hinv : x.Inv) (hspoken : ∀ s, (x s).spoken = true)
    (hsettled : ∀ s, (x s).inbound = []) (s : Side) : (x s).got = 1 ∧ (x s).waits = false := by
  have hfree (t : Side) : (x t).waits = false := by
    cases hwaits : (x t).waits with
    | false => rfl
    | true =>
        rcases (hinv t).coming hwaits with ⟨message, hmessage, -⟩ | ⟨hasked, -⟩
        · rw [hsettled] at hmessage
          cases hmessage
        · rw [hsettled] at hasked
          cases hasked
  refine ⟨?_, hfree s⟩
  have hkept := (hinv s.other).kept
  rw [Side.other_other, hsettled, hfree, hspoken] at hkept
  simpa using hkept

/-! ### Every exchange ends -/

/-- How many steps a message can lead to, itself included. -/
def weight : Message → Nat
  | .datagram => 1
  | .announcement => 2
  | .reply => 2
  | .request => 3

/-- How many steps some messages can lead to. -/
def weights : List Message → Nat
  | [] => 0
  | message :: rest => weight message + weights rest

theorem weights_append (first second : List Message) :
    weights (first ++ second) = weights first + weights second := by
  induction first with
  | nil => exact (Nat.zero_add _).symm
  | cons message rest ih => rw [List.cons_append, weights, weights, ih, Nat.add_assoc]

/-- How many steps what is on its way to a host, and what it has still to say, can lead
to. -/
def halfWeight (x : Half) : Nat := weights x.inbound + if x.spoken then 0 else 4

/-- How many steps can follow. -/
def totalWeight (x : Exchange) : Nat := halfWeight (x .left) + halfWeight (x .right)

theorem totalWeight_eq (x : Exchange) (s : Side) :
    totalWeight x = halfWeight (x s) + halfWeight (x s.other) := by
  cases s with
  | left => rfl
  | right => exact Nat.add_comm _ _

theorem halfWeight_append (x : Half) (sent : List Message) :
    halfWeight { x with inbound := x.inbound ++ sent } = halfWeight x + weights sent := by
  simp only [halfWeight, weights_append]
  exact Nat.add_right_comm _ _ _

theorem halfWeight_speak (x : Half) (hspoken : x.spoken = false) :
    halfWeight x.speak.1 + weights x.speak.2 < halfWeight x := by
  unfold Half.speak
  split
  · simp [halfWeight, hspoken, weights, weight]
  · simp [halfWeight, hspoken, weights, weight]

theorem halfWeight_take (x : Half) (message : Message) :
    halfWeight (x.take message).1 + weights (x.take message).2 <
      halfWeight x + weight message := by
  by_cases hdatagram : message = .datagram
  · subst hdatagram
    exact Nat.lt_succ_self _
  · have hsame : halfWeight { x with knows := true, waits := false } = halfWeight x := rfl
    rw [Half.take_of_ne x hdatagram, hsame]
    -- No message leads to more than one other, and to none of its own kind.
    have hsent : weights (if x.waits then [.datagram]
        else if message = .request then [.reply] else []) < weight message := by
      cases message <;> cases x.waits <;> first | contradiction | decide
    exact Nat.add_lt_add_left hsent _

/-- **Every step brings the end nearer**, so that no exchange goes on for ever. -/
theorem Step.weight_lt {x x' : Exchange} (step : Step x x') : totalWeight x' < totalWeight x := by
  cases step with
  | send s hspoken =>
      have hspeak := halfWeight_speak (x s) hspoken
      rw [totalWeight_eq _ s, totalWeight_eq x s, turn, Side.assign_self, Side.assign_other,
        halfWeight_append]
      omega
  | deliver s before after message hinbound =>
      have htake := halfWeight_take { x s with inbound := before ++ after } message
      have hweight : halfWeight (x s) =
          halfWeight { x s with inbound := before ++ after } + weight message := by
        simp only [halfWeight, hinbound, weights_append, weights]
        omega
      rw [totalWeight_eq _ s, totalWeight_eq x s, turn, Side.assign_self, Side.assign_other,
        halfWeight_append, hweight]
      omega

end Exchange

end HostNet
