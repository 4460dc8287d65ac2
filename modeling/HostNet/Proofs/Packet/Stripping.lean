import HostNet.Proofs.Packet.Parts
import Mathlib.Algebra.GroupWithZero.Nat

/-!
# Stripped bytes come back

A layer strips its header and may need it again: a datagram that could not be delivered is
quoted with the header before it.  Stripped bytes stay in the storage before the window, and
whatever is done to the window in between writes to the window and behind it only.

* `Operation.leavesHead` — the operations that leave the head of the window where it is.
* `Keeps`, `Strips` — operations that leave the head where it is, if only since they are
  refused, and operations that at most strip bytes.
* `AtEach` — a condition on each operation of a sequence, at its moment.
* `stripped` — the bytes that were stripped along a sequence of operations.
* `Parts.front_run` — all of these are at the end of what is before the window.
* `stripped_bytes_come_back` — so that they come back as they were when they were stripped.
-/

namespace HostNet.Packet

namespace Operation

/-- Whether an operation leaves the head of the window where it is. -/
def leavesHead : Operation → Bool
  | moveHead _ => false
  | strip _ => false
  | reserve _ => false
  | prepend _ => false
  | _ => true

/-- The bytes that an operation strips from the window: these are as many as it is asked to
strip, or none if it is refused. -/
def taken (p : Packet) : Operation → List Bytes
  | strip n => if n ≤ p.size then [p.window.take n] else []
  | _ => []

end Operation

/-- Whether an operation leaves the head where it is, or is refused. -/
def Keeps (p : Packet) (op : Operation) : Prop :=
  op.leavesHead = true ∨ ∃ cause, (op.apply p).2 = .error cause

/-- Whether an operation strips bytes, or else leaves the head where it is. -/
def Strips (p : Packet) (op : Operation) : Prop := (∃ n, op = .strip n) ∨ p.Keeps op

/-- Whether a condition holds of each operation and the packet that it comes to. -/
def AtEach (holds : Packet → Operation → Prop) (p : Packet) : List Operation → Prop
  | [] => True
  | op :: ops => holds p op ∧ AtEach holds (op.apply p).1 ops

/-- The bytes that are stripped along a sequence of operations, each time as they are then. -/
def stripped (p : Packet) : List Operation → List Bytes
  | [] => []
  | op :: ops => op.taken p ++ (op.apply p).1.stripped ops

/-- What keeps the head strips nothing. -/
theorem Keeps.taken_eq {p : Packet} {op : Operation} (keeps : p.Keeps op) : op.taken p = [] := by
  cases op with
  | strip n =>
      rcases keeps with hleaves | ⟨cause, hrefused⟩
      · cases hleaves
      · refine if_neg fun hn => ?_
        rw [Operation.apply, Operation.result, Packet.strip, dif_pos hn] at hrefused
        cases hrefused
  | _ => rfl

theorem AtEach.stripped_eq {p : Packet} {ops : List Operation} (keeps : p.AtEach Keeps ops) :
    p.stripped ops = [] := by
  induction ops generalizing p with
  | nil => rfl
  | cons op ops ih => rw [stripped, keeps.1.taken_eq, ih keeps.2, List.nil_append]

theorem AtEach.mono {holds holds' : Packet → Operation → Prop} {p : Packet}
    {ops : List Operation} (himp : ∀ p op, holds p op → holds' p op) (each : p.AtEach holds ops) :
    p.AtEach holds' ops := by
  induction ops generalizing p with
  | nil => trivial
  | cons op ops ih => exact ⟨himp p op each.1, ih each.2⟩

namespace Parts

/-- Every packet is made up of three parts. -/
theorem exists_packet (p : Packet) : ∃ b : Parts, p = b.packet := by
  have h₁ := p.head_le_tail
  have h₂ := p.tail_le_capacity
  have hhead : (p.storage.take p.head).length = p.head := by
    rw [List.length_take]
    omega
  refine ⟨⟨p.storage.take p.head, p.window, p.storage.drop p.tail⟩, eq_packet ?_ hhead.symm ?_⟩
  · have hwindow : p.window ++ p.storage.drop p.tail = p.storage.drop p.head := by
      have hrest : p.storage.drop p.tail = (p.storage.drop p.head).drop (p.tail - p.head) := by
        rw [List.drop_drop, Nat.add_sub_cancel' h₁]
      rw [Packet.window, hrest, List.take_append_drop]
    rw [hwindow, List.take_append_drop]
  · rw [hhead, length_window, Packet.size]
    omega

variable (b : Parts)

/-- **Whatever leaves the head where it is** leaves the bytes before it as they are: one case for
each operation. -/
theorem front_apply_of_leavesHead {op : Operation} (hleaves : op.leavesHead = true) :
    (b.apply op).1.front = b.front := by
  have hsettle {refusal : Option Packet.Error} {after : Parts} {answer : Answer}
      (hafter : after.front = b.front) : (b.settle refusal after answer).1.front = b.front := by
    cases refusal with
    | some cause => rfl
    | none => exact hafter
  cases op with
  | moveHead _ | strip _ | reserve _ | prepend _ => cases hleaves
  | moveTail diff =>
      cases diff with
      | ofNat n => exact hsettle rfl
      | negSucc n => exact hsettle rfl
  | trim n => exact hsettle rfl
  | write offset bytes => exact hsettle rfl
  | writeWord offset word => exact hsettle rfl
  | read offset n => exact hsettle rfl
  | readWord offset => exact hsettle rfl
  | pad _ | truncate _ | append _ | extend _ | clear | fill _ | summary => rfl

theorem front_apply_strip (n : Nat) :
    (b.apply (.strip n)).1.front = b.front ++ ((Operation.strip n).taken b.packet).flatten := by
  rw [apply, Operation.taken, size_packet, window_packet, lacking]
  split
  · rw [List.flatten_singleton]
    rfl
  · rw [List.flatten_nil, List.append_nil]
    rfl

theorem front_apply {op : Operation} (strips : b.packet.Strips op) :
    (b.apply op).1.front = b.front ++ (op.taken b.packet).flatten := by
  rcases strips with ⟨n, rfl⟩ | keeps
  · exact front_apply_strip b n
  · rw [keeps.taken_eq, List.flatten_nil, List.append_nil]
    rcases keeps with hleaves | ⟨cause, hrefused⟩
    · exact front_apply_of_leavesHead b hleaves
    · rw [apply_packet] at hrefused
      rw [apply_of_error hrefused]

/-- **All that was stripped is before the window**, in the order in which it was, by induction
on the operations. -/
theorem front_run {ops : List Operation} (strips : b.packet.AtEach Strips ops) :
    (b.run ops).front = b.front ++ (b.packet.stripped ops).flatten := by
  induction ops generalizing b with
  | nil =>
      rw [stripped, List.flatten_nil, List.append_nil]
      rfl
  | cons op ops ih =>
      obtain ⟨hfirst, hrest⟩ := strips
      rw [apply_packet] at hrest
      have hlater := ih (b.apply op).1 hrest
      rw [front_apply b hfirst, List.append_assoc, ← List.flatten_append] at hlater
      rw [stripped, apply_packet]
      exact hlater

/-- Bytes of the front are given back to the window by moving the head down. -/
theorem moveHead_neg_packet {n : Nat} (hn : n ≤ b.front.length) :
    b.packet.moveHead (-(n : Int)) = .ok (b.retreat n).packet := by
  cases n with
  | zero =>
      have hnone : b.advance 0 = b.retreat 0 := by
        simp only [advance, retreat, List.take_zero, List.drop_zero, List.append_nil, Nat.sub_zero,
          List.take_length, List.drop_length, List.nil_append]
      show b.packet.moveHead (.ofNat 0) = .ok (b.retreat 0).packet
      rw [moveHead_up_packet, granted_lacking, if_pos (Nat.zero_le _), hnone]
  | succ n =>
      show b.packet.moveHead (.negSucc n) = .ok (b.retreat (n + 1)).packet
      rw [moveHead_down_packet, granted_lacking, if_pos hn]

end Parts

/-- **What was stripped last comes back first.**  After operations that strip bytes and otherwise
keep the head, the bytes that were stripped from some point on are before the window. -/
theorem restore_stripped {p : Packet} {ops : List Operation} (strips : p.AtEach Strips ops)
    {outer inner : List Bytes} (hstripped : p.stripped ops = outer ++ inner) :
    ∃ r, (p.run ops).moveHead (-(inner.flatten.length : Int)) = .ok r ∧
      r.window = inner.flatten ++ (p.run ops).window := by
  obtain ⟨b, rfl⟩ := Parts.exists_packet p
  have hfront := Parts.front_run b strips
  rw [hstripped, List.flatten_append, ← List.append_assoc] at hfront
  have hroom : inner.flatten.length ≤ (b.run ops).front.length := by
    rw [hfront, List.length_append]
    omega
  rw [Parts.run_packet, Parts.window_packet]
  refine ⟨_, Parts.moveHead_neg_packet _ hroom, ?_⟩
  rw [Parts.window_packet, Parts.retreat, hfront, List.length_append, Nat.add_sub_cancel,
    List.drop_left]

/-- What was just stripped is reserved in place. -/
theorem reserve_of_strip {p q : Packet} {n : Nat} (hstrip : p.strip n = .ok q) :
    q.reserve n = p := by
  unfold strip at hstrip
  split at hstrip
  · cases hstrip
    rw [reserve, dif_pos (Nat.le_add_left _ _)]
    simp only [Nat.add_sub_cancel]
  · cases hstrip

/-- **Stripped bytes always come back.**  Take any packet, and strip `n` bytes from it that it has.
Whatever is done next that leaves the head where it is or is refused, moving the head back by
`n` succeeds, and the window is then those bytes, followed by what it was.  Reserving `n` bytes
at once gives back the packet itself, storage included, and answers with those bytes.  The same
holds through stripping again and again with such operations in between: moving the head back by
as many bytes as were stripped from some point on puts them back in their order, each as they
were when they were stripped. -/
theorem stripped_bytes_come_back (p : Packet) :
    (∀ n, n ≤ p.size →
      (p.window.take n).length = n ∧
        ∃ q, p.strip n = .ok q ∧
          (Operation.reserve n).apply q = (p, .ok (.bytes (p.window.take n))) ∧
            ∀ ops, q.AtEach Keeps ops →
              ∃ r, (q.run ops).moveHead (-(n : Int)) = .ok r ∧
                r.window = p.window.take n ++ (q.run ops).window) ∧
      ∀ ops, p.AtEach Strips ops → ∀ outer inner, p.stripped ops = outer ++ inner →
        ∃ r, (p.run ops).moveHead (-((inner.map List.length).sum : Nat)) = .ok r ∧
          r.window = inner.flatten ++ (p.run ops).window := by
  refine ⟨fun n hn => ?_, fun ops strips outer inner hstripped => ?_⟩
  · have hlength : (p.window.take n).length = n := by
      rw [List.length_take, length_window, Nat.min_eq_left hn]
    obtain ⟨q, hq⟩ : ∃ q, p.strip n = .ok q := ⟨_, dif_pos hn⟩
    have happly : (Operation.strip n).apply p = (q, .ok .nothing) := by
      rw [Operation.apply, Operation.result, hq]
      rfl
    refine ⟨hlength, q, hq, ?_, fun ops keeps => ?_⟩
    · show (q.reserve n, Except.ok (Answer.bytes ((q.reserve n).window.take n))) = _
      rw [reserve_of_strip hq]
    · have strips : p.AtEach Strips (.strip n :: ops) := by
        refine ⟨.inl ⟨n, rfl⟩, ?_⟩
        rw [happly]
        exact keeps.mono fun _ _ => .inr
      have hstripped : p.stripped (.strip n :: ops) = [] ++ [p.window.take n] := by
        rw [stripped, Operation.taken, if_pos hn, happly, keeps.stripped_eq]
        rfl
      have hrestored := restore_stripped strips hstripped
      rw [run_cons, happly, List.flatten_singleton, hlength] at hrestored
      exact hrestored
  · rw [← List.length_flatten]
    exact restore_stripped strips hstripped

/-- Two bytes are stripped, and a third one after it was written over.  All three come back before
a window that was made empty and padded since, the third one as it was written.  The first two
alone come back before whatever was written behind them. -/
theorem stripped_bytes_come_back_nested :
    let p := ofPayload 0 [1, 2, 3, 4]
    let ops : List Operation := [.strip 2, .write 0 [7], .append [5, 6], .strip 1, .strip 9,
      .clear, .pad 2]
    (p.AtEach Strips ops ∧ p.stripped ops = [[1, 2], [7]] ∧
      ∃ r, (p.run ops).moveHead (-3) = .ok r ∧ r.window = [1, 2, 7, 0, 0]) ∧
      ∃ q, p.strip 2 = .ok q ∧
        ∃ r, (q.run [.write 0 [7], .append [5]]).moveHead (-2) = .ok r ∧
          r.window = [1, 2, 7, 4, 5] := by
  intro p ops
  obtain ⟨honce, hnested⟩ := stripped_bytes_come_back p
  constructor
  · have strips : p.AtEach Strips ops := by
      refine ⟨.inl ⟨2, rfl⟩, .inr (.inl rfl), .inr (.inl rfl), .inl ⟨1, rfl⟩, .inl ⟨9, rfl⟩,
        .inr (.inl rfl), .inr (.inl rfl), trivial⟩
    have hstripped : p.stripped ops = [[1, 2], [7]] := by decide
    obtain ⟨r, hmoved, hwindow⟩ := hnested ops strips [] [[1, 2], [7]] hstripped
    have hrun : (p.run ops).window = [0, 0] := by decide
    rw [hrun] at hwindow
    exact ⟨strips, hstripped, r, hmoved, hwindow⟩
  · obtain ⟨-, q, hq, -, hkept⟩ := honce 2 (by decide)
    obtain ⟨r, hmoved, hwindow⟩ := hkept [.write 0 [7], .append [5]] ⟨.inl rfl, .inl rfl, trivial⟩
    refine ⟨q, hq, r, hmoved, hwindow.trans ?_⟩
    cases hq
    decide

end HostNet.Packet
