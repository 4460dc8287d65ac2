import HostNet.Checked
import HostNet.Packet.Operation
import HostNet.Packet.Window

/-!
# Window operations by checked arithmetic

The positions of a packet window are in order because the type says so, and the
operations on it are written without a thought for what subtracting or cutting would do
out of order.  Here the same operations are written a second time, on a buffer with
two positions of which nothing is known: every subtraction, every part read and every
part written over is checked.

* `Packet.Raw` — a buffer with two positions; `Packet.raw` forgets what a packet knows.
* `Raw.window` — the window, read between two positions that may be anything.
* `Raw.apply` — one `Packet.Operation`, by checked steps.

**No step fails on a packet**: neither when its window is read (`Raw.window_raw`), which all
other layers do, nor in an operation (`Raw.apply_raw`).  What the checked steps arrive at is
what the operation was defined to be, its answer and its refusals included.  Each
operation has a lemma of its own, which names the guard that keeps it within its domain.
-/

namespace HostNet.Packet

/-- A buffer with two positions, of which nothing is known. -/
structure Raw where
  storage : Bytes
  head : Nat
  tail : Nat
  deriving Repr, DecidableEq

/-- A packet without what it knows of its positions. -/
abbrev raw (p : Packet) : Raw := ⟨p.storage, p.head, p.tail⟩

namespace Raw

/-! ### The operations -/

/-- The number of bytes in the window. -/
def size (r : Raw) : Except Fault Nat := Checked.sub r.tail r.head

/-- The bytes in the window. -/
def window (r : Raw) : Except Fault Bytes := do Checked.slice r.storage r.head (← r.size)

/-- The head moved up, or for a negative `diff` down. -/
def moveHead (r : Raw) : Int → Except Fault (Except Packet.Error Raw)
  | .ofNat diff =>
      if r.head + diff ≤ r.tail then pure (.ok { r with head := r.head + diff })
      else pure (.error .invalidLength)
  | .negSucc n => do
      if n + 1 ≤ r.head then pure (.ok { r with head := ← Checked.sub r.head (n + 1) })
      else pure (.error (.insufficientHeadroom (n + 1) r.head))

/-- The first `n` bytes stripped. -/
def strip (r : Raw) (n : Nat) : Except Fault (Except Packet.Error Raw) := do
  let size ← r.size
  if n ≤ size then pure (.ok { r with head := r.head + n })
  else pure (.error (.insufficientData 0 n size))

/-- The last `n` bytes removed. -/
def trim (r : Raw) (n : Nat) : Except Fault (Except Packet.Error Raw) := do
  let size ← r.size
  if n ≤ size then pure (.ok { r with tail := ← Checked.sub r.tail n })
  else pure (.error .invalidLength)

/-- The tail moved up, or for a negative `diff` down. -/
def moveTail (r : Raw) : Int → Except Fault (Except Packet.Error Raw)
  | .ofNat diff =>
      if r.tail + diff ≤ r.storage.length then pure (.ok { r with tail := r.tail + diff })
      else pure (.error .invalidLength)
  | .negSucc n => r.trim (n + 1)

/-- The window cut down to at most `n` bytes. -/
def truncate (r : Raw) (n : Nat) : Except Fault Raw := do
  let size ← r.size
  pure (if n < size then { r with tail := r.head + n } else r)

/-- The window made empty. -/
def clear (r : Raw) : Raw := { r with tail := r.head }

/-- The buffer with room for `n` more bytes before the window, made by putting zeros in
front of everything where there is too little. -/
def widen (r : Raw) (n : Nat) : Except Fault Raw := do
  if r.head < n then
    let extra ← Checked.sub n r.head
    pure ⟨Bytes.zeros extra ++ r.storage, r.head + extra, r.tail + extra⟩
  else pure r

/-- The window grown down by `n` bytes. -/
def reserve (r : Raw) (n : Nat) : Except Fault Raw := do
  let r ← r.widen n
  pure { r with head := ← Checked.sub r.head n }

/-- The window with `source` written over the bytes from `offset` on. -/
def overwrite (r : Raw) (offset : Nat) (source : Bytes) : Except Fault Raw := do
  pure { r with storage := ← Checked.overwrite r.storage (r.head + offset) source }

/-- The window with `header` put before it. -/
def prepend (r : Raw) (header : Bytes) : Except Fault Raw := do
  (← r.reserve header.length).overwrite 0 header

/-- The buffer with zeros put behind everything, up to `n` bytes. -/
def lengthen (r : Raw) (n : Nat) : Except Fault Raw := do
  if r.storage.length < n then
    pure { r with storage := r.storage ++ Bytes.zeros (← Checked.sub n r.storage.length) }
  else pure r

/-- The window with `bytes` put behind it. -/
def append (r : Raw) (bytes : Bytes) : Except Fault Raw := do
  let r ← r.lengthen (r.tail + bytes.length)
  pure ⟨← Checked.overwrite r.storage r.tail bytes, r.head, r.tail + bytes.length⟩

/-- Whether the window holds `n` bytes from `offset` on. -/
def requireRange (r : Raw) (offset n : Nat) : Except Fault (Except Packet.Error Unit) := do
  let size ← r.size
  if size < offset then pure (.error (.invalidOffset offset size))
  else if size < offset + n then pure (.error (.insufficientData offset n size))
  else pure (.ok ())

/-- The `n` bytes of the window from `offset` on. -/
def read (r : Raw) (offset n : Nat) : Except Fault (Except Packet.Error Bytes) := do
  match ← r.requireRange offset n with
  | .error cause => pure (.error cause)
  | .ok () => pure (.ok (← Checked.slice r.storage (r.head + offset) n))

/-- The window with `source` written over the bytes from `offset` on, if they are there. -/
def write (r : Raw) (offset : Nat) (source : Bytes) : Except Fault (Except Packet.Error Raw) := do
  match ← r.requireRange offset source.length with
  | .error cause => pure (.error cause)
  | .ok () => pure (.ok (← r.overwrite offset source))

/-- What an operation that may be refused leaves, and its answer. -/
def settle {α : Type} (r : Raw) (answer : α → Raw × Answer) :
    Except Packet.Error α → Raw × Except Packet.Error Answer
  | .ok a => ((answer a).1, .ok (answer a).2)
  | .error cause => (r, .error cause)

/-- The buffer after an operation, and its answer or why it was refused. -/
def apply (r : Raw) : Operation → Except Fault (Raw × Except Packet.Error Answer)
  | .moveHead diff => return r.settle (·, .nothing) (← r.moveHead diff)
  | .moveTail diff => return r.settle (·, .nothing) (← r.moveTail diff)
  | .strip n => return r.settle (·, .nothing) (← r.strip n)
  | .reserve n => do
      let r ← r.reserve n
      return (r, .ok (.bytes (← Checked.slice r.storage r.head n)))
  | .prepend header => do
      let grown ← r.reserve header.length
      let found ← Checked.slice grown.storage grown.head header.length
      return (← r.prepend header, .ok (.bytes found))
  | .pad n => return (← r.append (Bytes.zeros n), .ok .nothing)
  | .trim n => return r.settle (·, .nothing) (← r.trim n)
  | .truncate n => return (← r.truncate n, .ok .nothing)
  | .append bytes => return (← r.append bytes, .ok .nothing)
  | .extend bytes => return (← r.append bytes, .ok (.count bytes.length))
  | .clear => return (r.clear, .ok .nothing)
  | .write offset bytes => return r.settle (·, .nothing) (← r.write offset bytes)
  | .writeWord offset word =>
      return r.settle (·, .nothing) (← r.write offset (Word16.bytes word))
  | .fill byte => do
      return (← r.overwrite 0 (List.replicate (← r.size) byte), .ok .nothing)
  | .read offset n => return r.settle (r, .bytes ·) (← r.read offset n)
  | .readWord offset => return r.settle (r, .word <| Word16.ofBytes ·) (← r.read offset 2)
  | .summary =>
      return (r, .ok (.text
        s!"Packet \x7b head: {r.head}, tail: {r.tail}, capacity: {r.storage.length}, .. \x7d"))

/-! ### On packets they never fail -/

@[simp] theorem size_raw (p : Packet) : p.raw.size = .ok p.size :=
  Checked.sub_of_le _ _ p.head_le_tail

/-- **The window is within the storage.** -/
theorem window_raw (p : Packet) : p.raw.window = .ok p.window := by
  have h₁ := p.head_le_tail
  have h₂ := p.tail_le_capacity
  rw [window, size_raw]
  exact Checked.slice_of_le _ _ _ (by simp only [Packet.size]; omega)

theorem moveHead_raw (p : Packet) (diff : Int) :
    p.raw.moveHead diff = .ok ((p.moveHead diff).map raw) := by
  cases diff with
  | ofNat n =>
      simp only [moveHead, Packet.moveHead]
      by_cases hle : p.head + n ≤ p.tail
      · rw [if_pos hle, dif_pos hle]
        rfl
      · rw [if_neg hle, dif_neg hle]
        rfl
  | negSucc n =>
      simp only [moveHead, Packet.moveHead]
      by_cases hle : n + 1 ≤ p.head
      · rw [if_pos hle, if_pos hle, Checked.sub_of_le _ _ hle]
        rfl
      · rw [if_neg hle, if_neg hle]
        rfl

theorem strip_raw (p : Packet) (n : Nat) : p.raw.strip n = .ok ((p.strip n).map raw) := by
  rw [strip, size_raw]
  simp only [bind, Except.bind, Packet.strip]
  by_cases hle : n ≤ p.size
  · rw [if_pos hle, dif_pos hle]
    rfl
  · rw [if_neg hle, dif_neg hle]
    rfl

/-- The tail does not pass the head: it is `n` bytes or more above it. -/
theorem trim_raw (p : Packet) (n : Nat) : p.raw.trim n = .ok ((p.trim n).map raw) := by
  rw [trim, size_raw]
  simp only [bind, Except.bind, Packet.trim]
  by_cases hle : n ≤ p.size
  · have hsub : n ≤ p.tail := Nat.le_trans hle (Nat.sub_le _ _)
    rw [if_pos hle, dif_pos hle, Checked.sub_of_le _ _ hsub]
    rfl
  · rw [if_neg hle, dif_neg hle]
    rfl

theorem moveTail_raw (p : Packet) (diff : Int) :
    p.raw.moveTail diff = .ok ((p.moveTail diff).map raw) := by
  cases diff with
  | ofNat n =>
      simp only [moveTail, Packet.moveTail]
      by_cases hle : p.tail + n ≤ p.capacity
      · have hstorage : p.tail + n ≤ p.storage.length := hle
        rw [if_pos hstorage, dif_pos hle]
        rfl
      · have hstorage : ¬p.tail + n ≤ p.storage.length := hle
        rw [if_neg hstorage, dif_neg hle]
        rfl
  | negSucc n => exact trim_raw p (n + 1)

theorem truncate_raw (p : Packet) (n : Nat) : p.raw.truncate n = .ok (p.truncate n).raw := by
  rw [truncate, size_raw]
  simp only [bind, Except.bind, Packet.truncate]
  by_cases hlt : n < p.size
  · rw [if_pos hlt, dif_pos hlt]
    rfl
  · rw [if_neg hlt, dif_neg hlt]
    rfl

/-- Once there is room enough before the window, the head can be moved down. -/
theorem reserve_raw (p : Packet) (n : Nat) : p.raw.reserve n = .ok (p.reserve n).raw := by
  by_cases hroom : n ≤ p.head
  · have hwiden : p.raw.widen n = .ok p.raw := if_neg (Nat.not_lt.2 hroom)
    rw [reserve, hwiden]
    simp only [bind, Except.bind]
    rw [Checked.sub_of_le _ _ hroom, Packet.reserve, dif_pos hroom]
    rfl
  · have hlt : p.head < n := Nat.not_le.1 hroom
    have hwiden : p.raw.widen n =
        .ok ⟨Bytes.zeros (n - p.head) ++ p.storage, p.head + (n - p.head),
          p.tail + (n - p.head)⟩ := by
      rw [widen, if_pos hlt, Checked.sub_of_le _ _ (Nat.le_of_lt hlt)]
      rfl
    rw [reserve, hwiden]
    simp only [bind, Except.bind]
    rw [Checked.sub_of_le _ _ (by omega), Packet.reserve, dif_neg hroom]
    simp only [pure, Except.pure, raw]
    rw [show p.head + (n - p.head) - n = 0 by omega]

/-- What is written within the window is written within the storage. -/
theorem overwrite_raw (p : Packet) (offset : Nat) (source : Bytes)
    (hfit : offset + source.length ≤ p.size) :
    p.raw.overwrite offset source = .ok (p.overwrite offset source).raw := by
  have h₁ := p.head_le_tail
  have h₂ := p.tail_le_capacity
  have hmin : min offset p.size = offset := by omega
  simp only [Packet.size] at hfit
  have htake : source.take (p.tail - (p.head + offset)) = source :=
    List.take_of_length_le (by omega)
  have hstorage : p.head + offset + source.length ≤ p.storage.length := by omega
  rw [overwrite, Checked.overwrite_of_le _ _ _ hstorage]
  simp only [bind, Except.bind, pure, Except.pure, Packet.overwrite, hmin, htake]

theorem prepend_raw (p : Packet) (header : Bytes) :
    p.raw.prepend header = .ok (p.prepend header).raw := by
  rw [prepend, reserve_raw]
  simp only [bind, Except.bind]
  exact overwrite_raw _ _ _ (by rw [Packet.size_reserve]; omega)

/-- Zeros that are written over at once are as good as none. -/
theorem splice_append_zeros (bytes source : Bytes) (start : Nat) (hstart : start ≤ bytes.length)
    (hshort : bytes.length ≤ start + source.length) (n : Nat)
    (hn : n ≤ start + source.length - bytes.length) :
    (bytes ++ Bytes.zeros n).splice start source = bytes.splice start source := by
  have hrest : (bytes ++ Bytes.zeros n).drop (start + source.length) = [] :=
    List.drop_of_length_le (by rw [List.length_append, Bytes.length_zeros]; omega)
  rw [Bytes.splice, Bytes.splice, List.take_append_of_le_length hstart, hrest,
    List.drop_of_length_le hshort]

/-- Once the storage reaches far enough, the bytes can be written behind the window. -/
theorem append_raw (p : Packet) (bytes : Bytes) :
    p.raw.append bytes = .ok (p.append bytes).raw := by
  have htail := p.tail_le_capacity
  by_cases hlong : p.storage.length < p.tail + bytes.length
  · have hlengthen : p.raw.lengthen (p.tail + bytes.length) =
        .ok ⟨p.storage ++ Bytes.zeros (p.tail + bytes.length - p.storage.length), p.head,
          p.tail⟩ := by
      rw [lengthen, if_pos hlong, Checked.sub_of_le _ _ (Nat.le_of_lt hlong)]
      rfl
    rw [append, hlengthen]
    simp only [bind, Except.bind]
    rw [Checked.overwrite_of_le _ _ _ (by
      simp only [List.length_append, Bytes.length_zeros]; omega),
      splice_append_zeros _ _ _ htail (Nat.le_of_lt hlong) _ (Nat.le_refl _)]
    rfl
  · have hlengthen : p.raw.lengthen (p.tail + bytes.length) = .ok p.raw := if_neg hlong
    rw [append, hlengthen]
    simp only [bind, Except.bind]
    rw [Checked.overwrite_of_le _ _ _ (by omega)]
    rfl

theorem requireRange_raw (p : Packet) (offset n : Nat) :
    p.raw.requireRange offset n = .ok (p.requireRange offset n) := by
  rw [requireRange, size_raw]
  simp only [bind, Except.bind, Packet.requireRange]
  split
  · rfl
  split
  · rfl
  · rfl

/-- A range that is not refused is within the window. -/
theorem le_size_of_requireRange {p : Packet} {offset n : Nat}
    (h : p.requireRange offset n = .ok ()) : offset + n ≤ p.size := by
  unfold Packet.requireRange at h
  split at h
  · cases h
  split at h
  · cases h
  · omega

theorem read_raw (p : Packet) (offset n : Nat) :
    p.raw.read offset n = .ok (p.read offset n) := by
  rw [read, requireRange_raw]
  simp only [bind, Except.bind, Packet.read]
  cases hrange : p.requireRange offset n with
  | error cause => rfl
  | ok _ =>
      have hfit := le_size_of_requireRange hrange
      have h₁ := p.head_le_tail
      have h₂ := p.tail_le_capacity
      simp only [Packet.size] at hfit
      rw [Checked.slice_of_le _ _ _ (by omega), Packet.window, List.drop_take, List.drop_drop,
        List.take_take, Nat.min_eq_left (by omega)]
      rfl

theorem write_raw (p : Packet) (offset : Nat) (source : Bytes) :
    p.raw.write offset source = .ok ((p.write offset source).map raw) := by
  rw [write, requireRange_raw]
  simp only [bind, Except.bind, Packet.write]
  cases hrange : p.requireRange offset source.length with
  | error cause => rfl
  | ok _ =>
      simp only []
      rw [overwrite_raw _ _ _ (le_size_of_requireRange hrange)]
      rfl

/-- The reserved bytes are within the storage. -/
theorem slice_reserve (p : Packet) (n : Nat) :
    Checked.slice (p.reserve n).storage (p.reserve n).head n =
      .ok ((p.reserve n).window.take n) := by
  have h₁ := (p.reserve n).head_le_tail
  have h₂ := (p.reserve n).tail_le_capacity
  have hsize := p.size_reserve n
  simp only [Packet.size] at hsize
  rw [Checked.slice_of_le _ _ _ (by omega), Packet.window, List.take_take,
    Nat.min_eq_left (by omega)]

/-- An operation that may be refused, with the packet as its result. -/
theorem settle_map_raw (p : Packet) (result : Except Packet.Error Packet) :
    p.raw.settle (·, .nothing) (result.map raw) =
      (match (do return (← result, Answer.nothing) : Except Packet.Error (Packet × Answer)) with
        | .ok (q, answer) => (q.raw, .ok answer)
        | .error cause => (p.raw, .error cause)) := by
  cases result with
  | ok q => rfl
  | error cause => rfl

/-- **The checked steps never fail on a packet**, and they arrive at what the operation
was defined to be. -/
theorem apply_raw (p : Packet) (op : Operation) :
    p.raw.apply op = .ok ((op.apply p).1.raw, (op.apply p).2) := by
  cases op with
  | moveHead diff =>
      simp only [apply, moveHead_raw, bind, Except.bind, settle_map_raw, Operation.apply,
        Operation.result]
      cases p.moveHead diff with
      | ok q => rfl
      | error cause => rfl
  | moveTail diff =>
      simp only [apply, moveTail_raw, bind, Except.bind, settle_map_raw, Operation.apply,
        Operation.result]
      cases p.moveTail diff with
      | ok q => rfl
      | error cause => rfl
  | strip n =>
      simp only [apply, strip_raw, bind, Except.bind, Operation.apply, Operation.result]
      cases p.strip n with
      | ok q => rfl
      | error cause => rfl
  | reserve n =>
      simp only [apply, reserve_raw, bind, Except.bind, slice_reserve]
      rfl
  | prepend header =>
      simp only [apply, reserve_raw, prepend_raw, bind, Except.bind, slice_reserve]
      rfl
  | pad n =>
      simp only [apply, append_raw, bind, Except.bind]
      rfl
  | trim n =>
      simp only [apply, trim_raw, bind, Except.bind, Operation.apply, Operation.result]
      cases p.trim n with
      | ok q => rfl
      | error cause => rfl
  | truncate n =>
      simp only [apply, truncate_raw, bind, Except.bind]
      rfl
  | append bytes =>
      simp only [apply, append_raw, bind, Except.bind]
      rfl
  | extend bytes =>
      simp only [apply, append_raw, bind, Except.bind]
      rfl
  | clear => rfl
  | write offset bytes =>
      simp only [apply, write_raw, bind, Except.bind, Operation.apply, Operation.result]
      cases p.write offset bytes with
      | ok q => rfl
      | error cause => rfl
  | writeWord offset word =>
      simp only [apply, write_raw, bind, Except.bind, Operation.apply, Operation.result,
        Packet.writeWord]
      cases p.write offset (Word16.bytes word) with
      | ok q => rfl
      | error cause => rfl
  | fill byte =>
      have hfit : 0 + (List.replicate p.size byte).length ≤ p.size := by
        rw [List.length_replicate]
        omega
      simp only [apply, size_raw, bind, Except.bind]
      rw [overwrite_raw _ _ _ hfit]
      rfl
  | read offset n =>
      simp only [apply, read_raw, bind, Except.bind, Operation.apply, Operation.result]
      cases p.read offset n with
      | ok bytes => rfl
      | error cause => rfl
  | readWord offset =>
      simp only [apply, read_raw, bind, Except.bind, Operation.apply, Operation.result,
        Packet.readWord]
      cases p.read offset 2 with
      | ok bytes => rfl
      | error cause => rfl
  | summary => rfl

end Raw

end HostNet.Packet
