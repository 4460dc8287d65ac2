import HostNet.Proofs.Packet.Arithmetic

/-!
# Packets as three byte strings

A packet is a buffer with two positions, and its operations move these positions, write over
the buffer and make it longer.  Here the same operations are described on three byte strings
that have no positions: the bytes before the window, the window, and the bytes behind it.

* `Parts` — the three byte strings; `Parts.packet` is the packet that they make up.
* `Parts.advance`, `Parts.retreat`, `Parts.keep`, `Parts.expose` — bytes that change over to
  the neighbouring part.
* `Parts.reserve`, `Parts.extend`, `Parts.overwrite` — bytes that are new.
* `Parts.apply`, `Parts.run` — one `Packet.Operation`, and a sequence of them.
* `Fresh` — the ways in which a packet is made.
* `Raw.run` — a sequence of operations by checked steps.

**Packets do what the three parts do** (`Parts.apply_packet`): one equation for each
operation, answers and refusals included, and by induction the same of every sequence
(`Parts.run_packet`, `run_refines_parts`).

### Why a function and not a relation

A packet is made up of its three parts in one way only, so that nothing is lost by reading
the equations from the parts to the packet.  Read that way, each is about concatenations,
which are taken apart by associativity, and not about cutting a buffer at positions.

### What the storage has to do with it

Bytes that are taken away from the window stay in the part they change over to, so that a
later operation can bring them back.  The storage as a whole is the concatenation, and grows
in two places only: in front of everything, where there was too little room for a header,
and behind everything, where there was too little for what is appended.
-/

namespace HostNet.Packet

/-- The byte strings that a packet is made of. -/
structure Parts where
  /-- The bytes before the window. -/
  front : Bytes
  window : Bytes
  /-- The bytes behind the window. -/
  back : Bytes
  deriving Repr, DecidableEq

namespace Parts

/-! ### Moving bytes between the parts -/

/-- The first `n` bytes of the window change over to the front. -/
def advance (b : Parts) (n : Nat) : Parts :=
  { b with front := b.front ++ b.window.take n, window := b.window.drop n }

/-- The last `n` bytes of the front change over to the window, or all if there are fewer. -/
def retreat (b : Parts) (n : Nat) : Parts :=
  { b with
    front := b.front.take (b.front.length - n)
    window := b.front.drop (b.front.length - n) ++ b.window }

/-- All but the first `n` bytes of the window change over to the back. -/
def keep (b : Parts) (n : Nat) : Parts :=
  { b with window := b.window.take n, back := b.window.drop n ++ b.back }

/-- The first `n` bytes of the back change over to the window. -/
def expose (b : Parts) (n : Nat) : Parts :=
  { b with window := b.window ++ b.back.take n, back := b.back.drop n }

/-! ### New bytes -/

/-- The last `n` bytes of the front change over to the window, after zeros for those that
are not there. -/
def reserve (b : Parts) (n : Nat) : Parts :=
  { b.retreat n with window := Bytes.zeros (n - b.front.length) ++ (b.retreat n).window }

/-- `bytes` come to stand at the end of the window, in place of as many bytes of the back. -/
def extend (b : Parts) (bytes : Bytes) : Parts :=
  { b with window := b.window ++ bytes, back := b.back.drop bytes.length }

/-- `source` is written over the window from `offset` on. -/
def overwrite (b : Parts) (offset : Nat) (source : Bytes) : Parts :=
  { b with window := b.window.splice offset source }

/-! ### Operations -/

/-- Why the window does not hold `n` bytes from `offset` on, if it does not. -/
def missing (b : Parts) (offset n : Nat) : Option Packet.Error :=
  if b.window.length < offset then some (.invalidOffset offset b.window.length)
  else if b.window.length < offset + n then
    some (.insufficientData offset n b.window.length)
  else none

/-- What is left of an operation that may be refused, and its answer. -/
def settle (b : Parts) (refusal : Option Packet.Error) (after : Parts) (answer : Answer) :
    Parts × Except Packet.Error Answer :=
  match refusal with
  | some cause => (b, .error cause)
  | none => (after, .ok answer)

/-- The refusal of an operation that needs `n` of the bytes of a part. -/
def lacking (part : Bytes) (n : Nat) (cause : Packet.Error) : Option Packet.Error :=
  if n ≤ part.length then none else some cause

/-- **One operation on the three parts**, and its answer or why it was refused. -/
def apply (b : Parts) : Operation → Parts × Except Packet.Error Answer
  | .moveHead (.ofNat n) =>
      b.settle (lacking b.window n .invalidLength) (b.advance n) .nothing
  | .moveHead (.negSucc n) =>
      b.settle (lacking b.front (n + 1) (.insufficientHeadroom (n + 1) b.front.length))
        (b.retreat (n + 1)) .nothing
  | .moveTail (.ofNat n) =>
      b.settle (lacking b.back n .invalidLength) (b.expose n) .nothing
  | .moveTail (.negSucc n) =>
      b.settle (lacking b.window (n + 1) .invalidLength)
        (b.keep (b.window.length - (n + 1))) .nothing
  | .strip n =>
      b.settle (lacking b.window n (.insufficientData 0 n b.window.length)) (b.advance n)
        .nothing
  | .reserve n => (b.reserve n, .ok (.bytes ((b.reserve n).window.take n)))
  | .prepend header =>
      ({ b.reserve header.length with window := header ++ b.window },
        .ok (.bytes ((b.reserve header.length).window.take header.length)))
  | .pad n => (b.extend (Bytes.zeros n), .ok .nothing)
  | .trim n =>
      b.settle (lacking b.window n .invalidLength) (b.keep (b.window.length - n)) .nothing
  | .truncate n => (b.keep n, .ok .nothing)
  | .append bytes => (b.extend bytes, .ok .nothing)
  | .extend bytes => (b.extend bytes, .ok (.count bytes.length))
  | .clear => (b.keep 0, .ok .nothing)
  | .write offset bytes =>
      b.settle (b.missing offset bytes.length) (b.overwrite offset bytes) .nothing
  | .writeWord offset word =>
      b.settle (b.missing offset 2) (b.overwrite offset (Word16.bytes word)) .nothing
  | .fill byte =>
      ({ b with window := List.replicate b.window.length byte }, .ok .nothing)
  | .read offset n =>
      b.settle (b.missing offset n) b (.bytes ((b.window.drop offset).take n))
  | .readWord offset =>
      b.settle (b.missing offset 2) b
        (.word (Word16.ofBytes ((b.window.drop offset).take 2)))
  | .summary =>
      let head := b.front.length
      let tail := head + b.window.length
      let capacity := (b.front ++ (b.window ++ b.back)).length
      (b, .ok (.text s!"Packet \x7b head: {head}, tail: {tail}, capacity: {capacity}, .. \x7d"))

/-- The parts after a sequence of operations. -/
def run (b : Parts) (ops : List Operation) : Parts :=
  ops.foldl (fun b op => (b.apply op).1) b

/-- A refused operation leaves every part as it was. -/
theorem apply_of_error {b : Parts} {op : Operation} {cause : Packet.Error}
    (h : (b.apply op).2 = .error cause) : (b.apply op).1 = b := by
  have hsettle (refusal : Option Packet.Error) (after : Parts) (answer : Answer)
      (herror : (b.settle refusal after answer).2 = .error cause) :
      (b.settle refusal after answer).1 = b := by
    cases refusal with
    | some _ => rfl
    | none => cases herror
  cases op with
  | moveHead diff => cases diff <;> exact hsettle _ _ _ h
  | moveTail diff => cases diff <;> exact hsettle _ _ _ h
  | strip n => exact hsettle _ _ _ h
  | trim n => exact hsettle _ _ _ h
  | write offset bytes => exact hsettle _ _ _ h
  | writeWord offset word => exact hsettle _ _ _ h
  | read offset n => exact hsettle _ _ _ h
  | readWord offset => exact hsettle _ _ _ h
  | _ => cases h

/-! ### The packet of three parts -/

/-- The packet that three parts make up. -/
def packet (b : Parts) : Packet where
  storage := b.front ++ (b.window ++ b.back)
  head := b.front.length
  tail := b.front.length + b.window.length
  head_le_tail := Nat.le_add_right _ _
  tail_le_capacity := by
    simp only [List.length_append]
    omega

/-- A packet is that of three parts if its storage and its positions are. -/
theorem eq_packet {p : Packet} {b : Parts} (hstorage : p.storage = b.front ++ (b.window ++ b.back))
    (hhead : p.head = b.front.length) (htail : p.tail = b.front.length + b.window.length) :
    p = b.packet := by
  obtain ⟨storage, head, tail, _, _⟩ := p
  subst hstorage hhead htail
  rfl

@[simp] theorem size_packet (b : Parts) : b.packet.size = b.window.length :=
  Nat.add_sub_cancel_left _ _

@[simp] theorem window_packet (b : Parts) : b.packet.window = b.window := by
  have hsize : b.packet.tail - b.packet.head = b.window.length := size_packet b
  rw [Packet.window, hsize]
  simp [packet]

/-! ### One equation for each operation -/

/-- What an operation makes that may be refused. -/
def granted {α : Type} (refusal : Option Packet.Error) (made : α) : Except Packet.Error α :=
  match refusal with
  | some cause => .error cause
  | none => .ok made

theorem granted_lacking {α : Type} (part : Bytes) (n : Nat) (cause : Packet.Error) (made : α) :
    granted (lacking part n cause) made = if n ≤ part.length then .ok made else .error cause := by
  unfold lacking
  split
  · rfl
  · rfl

variable (b : Parts)

/-- The front and the first bytes of the window come before the others, whichever part they
are counted to. -/
theorem strip_packet (n : Nat) :
    b.packet.strip n =
      granted (lacking b.window n (.insufficientData 0 n b.window.length))
        (b.advance n).packet := by
  have hsize := size_packet b
  rw [granted_lacking, strip]
  by_cases hn : n ≤ b.window.length
  · rw [dif_pos (hsize.symm ▸ hn), if_pos hn]
    refine congrArg Except.ok (eq_packet ?_ ?_ ?_)
    · simp only [packet, advance]
      rw [List.append_assoc, ← List.append_assoc (b.window.take n), List.take_append_drop]
    · simp only [packet, advance, List.length_append, List.length_take]
      omega
    · simp only [packet, advance, List.length_append, List.length_take, List.length_drop]
      omega
  · rw [dif_neg (hsize.symm ▸ hn), if_neg hn, hsize]

theorem moveHead_up_packet (n : Nat) :
    b.packet.moveHead (.ofNat n) =
      granted (lacking b.window n .invalidLength) (b.advance n).packet := by
  have hstrip := strip_packet b n
  rw [granted_lacking, strip] at hstrip
  rw [granted_lacking, moveHead]
  by_cases hn : n ≤ b.window.length
  · rw [dif_pos ((size_packet b).symm ▸ hn), if_pos hn] at hstrip
    rw [dif_pos (show b.packet.head + n ≤ b.packet.tail from Nat.add_le_add_left hn _), if_pos hn]
    exact hstrip
  · rw [dif_neg (show ¬b.packet.head + n ≤ b.packet.tail from
      fun h => hn (Nat.le_of_add_le_add_left h)), if_neg hn]

theorem retreat_packet {n : Nat} (hn : n ≤ b.front.length) {p : Packet}
    (hstorage : p.storage = b.packet.storage) (hhead : p.head = b.front.length - n)
    (htail : p.tail = b.packet.tail) : p = (b.retreat n).packet := by
  refine eq_packet ?_ ?_ ?_
  · rw [hstorage]
    simp only [packet, retreat]
    rw [List.append_assoc, ← List.append_assoc (b.front.take _), List.take_append_drop]
  · rw [hhead]
    simp only [retreat, List.length_take]
    omega
  · rw [htail]
    simp only [packet, retreat, List.length_append, List.length_take, List.length_drop]
    omega

theorem moveHead_down_packet (n : Nat) :
    b.packet.moveHead (.negSucc n) =
      granted (lacking b.front (n + 1) (.insufficientHeadroom (n + 1) b.front.length))
        (b.retreat (n + 1)).packet := by
  rw [granted_lacking, moveHead]
  by_cases hn : n + 1 ≤ b.front.length
  · have hroom : n + 1 ≤ b.packet.head := hn
    rw [if_pos hroom, if_pos hn]
    exact congrArg Except.ok (retreat_packet b hn rfl rfl rfl)
  · have hroom : ¬n + 1 ≤ b.packet.head := hn
    rw [if_neg hroom, if_neg hn]
    rfl

/-- What is taken off the end of the window comes before what is behind it. -/
theorem keep_packet (n : Nat) {p : Packet} (hstorage : p.storage = b.packet.storage)
    (hhead : p.head = b.packet.head)
    (htail : p.tail = b.packet.head + min n b.window.length) : p = (b.keep n).packet := by
  refine eq_packet ?_ hhead ?_
  · rw [hstorage]
    simp only [packet, keep]
    rw [← List.append_assoc (b.window.take n), List.take_append_drop]
  · rw [htail]
    simp only [packet, keep, List.length_take]

theorem trim_packet (n : Nat) :
    b.packet.trim n =
      granted (lacking b.window n .invalidLength) (b.keep (b.window.length - n)).packet := by
  have hsize := size_packet b
  rw [granted_lacking, trim]
  by_cases hn : n ≤ b.window.length
  · rw [dif_pos (hsize.symm ▸ hn), if_pos hn]
    refine congrArg Except.ok (keep_packet b _ rfl rfl ?_)
    simp only [packet]
    omega
  · rw [dif_neg (hsize.symm ▸ hn), if_neg hn]

theorem truncate_packet (n : Nat) : b.packet.truncate n = (b.keep n).packet := by
  have hsize := size_packet b
  unfold truncate
  by_cases hn : n < b.window.length
  · rw [dif_pos (hsize.symm ▸ hn)]
    refine keep_packet b n rfl rfl ?_
    rw [Nat.min_eq_left (Nat.le_of_lt hn)]
  · rw [dif_neg (hsize.symm ▸ hn)]
    refine keep_packet b n rfl rfl ?_
    rw [Nat.min_eq_right (Nat.not_lt.1 hn)]
    rfl

theorem clear_packet : b.packet.clear = (b.keep 0).packet := by
  refine keep_packet b 0 rfl rfl ?_
  rw [Nat.zero_min]
  rfl

theorem moveTail_up_packet (n : Nat) :
    b.packet.moveTail (.ofNat n) =
      granted (lacking b.back n .invalidLength) (b.expose n).packet := by
  have hcapacity : b.packet.capacity = b.packet.tail + b.back.length := by
    simp only [capacity, packet, List.length_append]
    omega
  rw [granted_lacking, moveTail]
  by_cases hn : n ≤ b.back.length
  · rw [dif_pos (show b.packet.tail + n ≤ b.packet.capacity by omega), if_pos hn]
    refine congrArg Except.ok (eq_packet ?_ rfl ?_)
    · simp only [packet, expose]
      rw [List.append_assoc b.window, List.take_append_drop]
    · simp only [packet, expose, List.length_append, List.length_take]
      omega
  · rw [dif_neg (show ¬b.packet.tail + n ≤ b.packet.capacity by omega), if_neg hn]

/-- **Where the front is too short**, zeros come before all of it. -/
theorem reserve_packet (n : Nat) : b.packet.reserve n = (b.reserve n).packet := by
  unfold Packet.reserve
  by_cases hn : n ≤ b.front.length
  · have hretreat : b.reserve n = b.retreat n := by
      rw [reserve, Nat.sub_eq_zero_of_le hn]
      rfl
    rw [dif_pos (show n ≤ b.packet.head from hn), hretreat]
    exact retreat_packet b hn rfl rfl rfl
  · have hnone : b.front.length - n = 0 := by omega
    rw [dif_neg (show ¬n ≤ b.packet.head from hn)]
    refine eq_packet ?_ ?_ ?_
    · simp only [packet, reserve, retreat, hnone, List.take_zero, List.drop_zero, List.nil_append,
        List.append_assoc]
    · simp only [reserve, retreat, hnone, List.take_zero, List.length_nil]
    · simp only [packet, reserve, retreat, hnone, List.take_zero, List.drop_zero, List.length_nil,
        List.length_append, Bytes.length_zeros]
      omega

/-- What is written over a window that it fits into is written over the storage there. -/
theorem overwrite_packet {offset : Nat} {source : Bytes}
    (hfit : offset + source.length ≤ b.window.length) :
    b.packet.overwrite offset source = (b.overwrite offset source).packet := by
  have hmin : min offset b.packet.size = offset := by
    rw [size_packet]
    omega
  have htake : source.take (b.packet.tail - (b.packet.head + offset)) = source := by
    refine List.take_of_length_le ?_
    simp only [packet]
    omega
  have hlength : (b.window.splice offset source).length = b.window.length := by
    rw [Bytes.length_splice _ _ _ (by omega)]
    omega
  refine eq_packet ?_ rfl ?_
  · simp only [Packet.overwrite, hmin, htake]
    simp only [packet, overwrite, Bytes.splice]
    rw [List.take_length_add_append, List.take_append_of_le_length (by omega), Nat.add_assoc,
      List.drop_length_add_append, List.drop_append_of_le_length hfit]
    simp only [List.append_assoc]
  · show b.packet.tail = _
    simp only [packet, overwrite, hlength]

theorem prepend_packet (header : Bytes) :
    b.packet.prepend header =
      { b.reserve header.length with window := header ++ b.window }.packet := by
  have hdrop : (b.reserve header.length).window.drop header.length = b.window := by
    rw [← window_packet, ← reserve_packet, drop_window_reserve, window_packet]
  have hlength : header.length ≤ (b.reserve header.length).window.length := by
    rw [← size_packet, ← reserve_packet, size_reserve]
    omega
  rw [prepend, reserve_packet, overwrite_packet _ (by omega), overwrite, Bytes.splice,
    List.take_zero, List.nil_append, Nat.zero_add, hdrop]

/-- **What is appended** comes over the start of the back, and over nothing where that ends. -/
theorem append_packet (bytes : Bytes) : b.packet.append bytes = (b.extend bytes).packet := by
  refine eq_packet ?_ rfl ?_
  · simp only [append, packet, extend, Bytes.splice]
    rw [List.take_length_add_append, List.take_left, Nat.add_assoc, List.drop_length_add_append,
      List.drop_length_add_append]
    simp only [List.append_assoc]
  · simp only [append, packet, extend, List.length_append]
    omega

theorem requireRange_packet (offset n : Nat) :
    b.packet.requireRange offset n = granted (b.missing offset n) () := by
  rw [requireRange, missing, size_packet]
  split
  · rfl
  · split
    · rfl
    · rfl

/-- What is not missing is there. -/
theorem le_of_not_missing {offset n : Nat} (h : b.missing offset n = none) :
    offset + n ≤ b.window.length := by
  unfold missing at h
  split at h
  · cases h
  · split at h
    · cases h
    · omega

theorem read_packet (offset n : Nat) :
    b.packet.read offset n =
      granted (b.missing offset n) ((b.window.drop offset).take n) := by
  rw [read, requireRange_packet, window_packet]
  cases b.missing offset n with
  | some cause => rfl
  | none => rfl

theorem readWord_packet (offset : Nat) :
    b.packet.readWord offset =
      granted (b.missing offset 2) (Word16.ofBytes ((b.window.drop offset).take 2)) := by
  rw [readWord, read_packet]
  cases b.missing offset 2 with
  | some cause => rfl
  | none => rfl

theorem write_packet (offset : Nat) (source : Bytes) :
    b.packet.write offset source =
      granted (b.missing offset source.length) (b.overwrite offset source).packet := by
  rw [write, requireRange_packet]
  cases hmissing : b.missing offset source.length with
  | some cause => rfl
  | none => exact congrArg Except.ok (overwrite_packet b (le_of_not_missing b hmissing))

theorem fill_packet (byte : UInt8) :
    b.packet.fill byte =
      { b with window := List.replicate b.window.length byte }.packet := by
  rw [fill, size_packet, overwrite_packet _ (by rw [List.length_replicate]; omega), overwrite,
    Bytes.splice, List.take_zero, List.nil_append, List.length_replicate, Nat.zero_add,
    List.drop_length, List.append_nil]

/-- An operation that may be refused, done on a packet and on its parts. -/
theorem settle_granted {α : Type} (refusal : Option Packet.Error) (made : α) (after : Parts)
    (result : α → Packet × Answer) (answer : Answer)
    (hresult : result made = (after.packet, answer)) :
    (match (do return result (← granted refusal made) :
        Except Packet.Error (Packet × Answer)) with
      | .ok (q, answer) => ((q, .ok answer) : Packet × Except Packet.Error Answer)
      | .error cause => (b.packet, .error cause)) =
      ((b.settle refusal after answer).1.packet, (b.settle refusal after answer).2) := by
  cases refusal with
  | some cause => rfl
  | none =>
      simp only [granted, bind, Except.bind, pure, Except.pure, hresult]
      rfl

/-- **Every operation does to a packet what it does to its parts**, and is answered or
refused in the same way. -/
theorem apply_packet (op : Operation) :
    op.apply b.packet = ((b.apply op).1.packet, (b.apply op).2) := by
  unfold Operation.apply
  cases op with
  | moveHead diff =>
      cases diff with
      | ofNat n =>
          simp only [Operation.result, moveHead_up_packet]
          exact settle_granted b _ _ _ _ _ rfl
      | negSucc n =>
          simp only [Operation.result, moveHead_down_packet]
          exact settle_granted b _ _ _ _ _ rfl
  | moveTail diff =>
      cases diff with
      | ofNat n =>
          simp only [Operation.result, moveTail_up_packet]
          exact settle_granted b _ _ _ _ _ rfl
      | negSucc n =>
          simp only [Operation.result, moveTail, trim_packet]
          exact settle_granted b _ _ _ _ _ rfl
  | strip n =>
      simp only [Operation.result, strip_packet]
      exact settle_granted b _ _ _ _ _ rfl
  | trim n =>
      simp only [Operation.result, trim_packet]
      exact settle_granted b _ _ _ _ _ rfl
  | write offset bytes =>
      simp only [Operation.result, write_packet]
      exact settle_granted b _ _ _ _ _ rfl
  | writeWord offset word =>
      simp only [Operation.result, writeWord, write_packet]
      exact settle_granted b _ _ _ _ _ rfl
  | read offset n =>
      simp only [Operation.result, read_packet]
      exact settle_granted b _ _ _ _ _ rfl
  | readWord offset =>
      simp only [Operation.result, readWord_packet]
      exact settle_granted b _ _ _ _ _ rfl
  | reserve n =>
      simp only [Operation.result, reserve_packet, window_packet]
      rfl
  | prepend header =>
      simp only [Operation.result, reserve_packet, prepend_packet, window_packet]
      rfl
  | pad n =>
      simp only [Operation.result, pad, append_packet]
      rfl
  | truncate n =>
      simp only [Operation.result, truncate_packet]
      rfl
  | append bytes =>
      simp only [Operation.result, append_packet]
      rfl
  | extend bytes =>
      simp only [Operation.result, append_packet]
      rfl
  | clear =>
      simp only [Operation.result, clear_packet]
      rfl
  | fill byte =>
      simp only [Operation.result, fill_packet]
      rfl
  | summary => rfl

/-- **A sequence of operations**, by induction on it. -/
theorem run_packet (ops : List Operation) : b.packet.run ops = (b.run ops).packet := by
  induction ops generalizing b with
  | nil => rfl
  | cons op ops ih =>
      rw [run_cons, apply_packet]
      exact ih (b.apply op).1

end Parts

/-! ### From the start on -/

/-- A way in which a packet is made. -/
inductive Fresh where
  /-- Without any bytes. -/
  | empty
  /-- With room for bytes before and behind an empty window. -/
  | withCapacity (headRoom capacity : Nat)
  /-- With a window that holds `payload`. -/
  | ofPayload (headRoom : Nat) (payload : Bytes)
  deriving Repr, DecidableEq

namespace Fresh

/-- The packet that is made. -/
def packet : Fresh → Packet
  | empty => Packet.withCapacity 0 0
  | withCapacity headRoom capacity => Packet.withCapacity headRoom capacity
  | ofPayload headRoom payload => Packet.ofPayload headRoom payload

/-- The parts of it, where all room is filled with zeros. -/
def parts : Fresh → Parts
  | empty => ⟨[], [], []⟩
  | withCapacity headRoom capacity => ⟨Bytes.zeros headRoom, [], Bytes.zeros capacity⟩
  | ofPayload headRoom payload => ⟨Bytes.zeros headRoom, payload, []⟩

theorem packet_eq (made : Fresh) : made.packet = made.parts.packet := by
  cases made with
  | empty => rfl
  | withCapacity headRoom capacity =>
      refine Parts.eq_packet ?_ ?_ ?_
      · simp only [packet, parts, Packet.withCapacity, Bytes.zeros, List.nil_append,
          List.replicate_append_replicate]
      · simp only [packet, parts, Packet.withCapacity, Bytes.length_zeros]
      · simp only [packet, parts, Packet.withCapacity, Bytes.length_zeros, List.length_nil,
          Nat.add_zero]
  | ofPayload headRoom payload =>
      refine Parts.eq_packet ?_ ?_ ?_
      · simp only [packet, parts, Packet.ofPayload, List.append_nil]
      · simp only [packet, parts, Packet.ofPayload, Bytes.length_zeros]
      · simp only [packet, parts, Packet.ofPayload, Bytes.length_zeros]

end Fresh

namespace Raw

/-- A sequence of operations, by checked steps. -/
def run (r : Raw) : List Operation → Except Fault Raw
  | [] => .ok r
  | op :: ops => do (← r.apply op).1.run ops

theorem run_raw (p : Packet) (ops : List Operation) : p.raw.run ops = .ok (p.run ops).raw := by
  induction ops generalizing p with
  | nil => rfl
  | cons op ops ih =>
      rw [run, apply_raw, run_cons]
      exact ih (op.apply p).1

end Raw

/-- **Packets refine their three parts.**  From every start, every sequence of operations
leaves a packet whose storage is that of the three parts after it, with the head and the tail
where they meet.  What comes next does to the packet what it does to the parts and is answered
in the same way, or is refused with both left as they were.  The same positions are arrived at
by checked steps on a buffer of which nothing is known, where they are in order as well. -/
theorem run_refines_parts (made : Fresh) (ops : List Operation) :
    let p := made.packet.run ops
    let b := made.parts.run ops
    made.packet.raw.run ops = .ok ⟨p.storage, p.head, p.tail⟩ ∧
      p.head ≤ p.tail ∧ p.tail ≤ p.capacity ∧
      p.storage = b.front ++ (b.window ++ b.back) ∧
      p.head = b.front.length ∧
      p.tail = b.front.length + b.window.length ∧
      p.window = b.window ∧
      ∀ op : Operation,
        op.apply p = ((b.apply op).1.packet, (b.apply op).2) ∧
          ∀ cause, (op.apply p).2 = .error cause → (op.apply p).1 = p ∧ (b.apply op).1 = b := by
  intro p b
  have hpacket : p = b.packet := by
    show made.packet.run ops = (made.parts.run ops).packet
    rw [made.packet_eq]
    exact Parts.run_packet made.parts ops
  refine ⟨Raw.run_raw made.packet ops, p.head_le_tail, p.tail_le_capacity, ?_, ?_, ?_, ?_, ?_⟩
  · rw [hpacket, Parts.packet]
  · rw [hpacket, Parts.packet]
  · rw [hpacket, Parts.packet]
  · rw [hpacket, Parts.window_packet]
  · intro op
    have happly : op.apply p = ((b.apply op).1.packet, (b.apply op).2) := by
      rw [hpacket]
      exact Parts.apply_packet b op
    refine ⟨happly, fun cause hcause => ⟨Operation.apply_of_error hcause, ?_⟩⟩
    rw [happly] at hcause
    exact Parts.apply_of_error hcause

/-- Two bytes come back that were stripped, behind a zero where the front is too short; a third
cannot be stripped again, and nothing changes. -/
theorem run_refines_parts_strip_reserve :
    let made := Fresh.ofPayload 0 [1, 2, 3]
    let p := made.packet.run [.strip 2, .reserve 3, .truncate 2]
    (p.window = [0, 1] ∧ p.storage = [0, 1, 2, 3]) ∧
      ((Operation.strip 3).apply p).1 = p := by
  intro made p
  have h := run_refines_parts made [.strip 2, .reserve 3, .truncate 2]
  refine ⟨⟨h.2.2.2.2.2.2.1.trans (by decide), h.2.2.2.1.trans (by decide)⟩, ?_⟩
  exact ((h.2.2.2.2.2.2.2 (.strip 3)).2 (.insufficientData 0 3 2) rfl).1

end HostNet.Packet
