/-!
# Byte strings

Everything on the wire is a byte string.  This file fixes the type and the few
operations on it that the rest of the library is written in.

* `Bytes` — a list of bytes, first byte first.
* `Bytes.zeros` — a run of zero bytes.
* `Bytes.splice` — a byte string with part of it written over; writing past the
  end extends it.
* `Bytes.chunks` — a byte string cut into pieces of one size, the last of which
  may be shorter.
* `Word16.join` / `Word16.bytes` — a 16 bit word and its two bytes in network
  order, high byte first; `Word16.ofBytes` reads the word at the front of a
  byte string.

`Word16.join_bytes` says that the two are inverse, `Bytes.flatten_chunks` that
cutting loses nothing.
-/

namespace HostNet

/-- A string of bytes: a frame, a header, a payload. -/
abbrev Bytes := List UInt8

namespace Bytes

/-- A run of `n` zero bytes. -/
def zeros (n : Nat) : Bytes := List.replicate n 0

@[simp] theorem length_zeros (n : Nat) : (zeros n).length = n := List.length_replicate

/-- `bytes` with `source` written over it from position `start` on.  Where
`source` reaches past the end of `bytes` the result is longer than `bytes`. -/
def splice (bytes : Bytes) (start : Nat) (source : Bytes) : Bytes :=
  bytes.take start ++ (source ++ bytes.drop (start + source.length))

theorem length_splice (bytes : Bytes) (start : Nat) (source : Bytes) (h : start ≤ bytes.length) :
    (bytes.splice start source).length = max bytes.length (start + source.length) := by
  simp only [splice, List.length_append, List.length_take, List.length_drop]
  omega

theorem le_length_splice (bytes : Bytes) (start : Nat) (source : Bytes)
    (h : start ≤ bytes.length) :
    start + source.length ≤ (bytes.splice start source).length := by
  rw [length_splice bytes start source h]
  omega

/-- Writing over a part of the first `size` bytes, and cutting off the rest, may be
done in either order. -/
theorem take_splice (bytes source : Bytes) (start size : Nat)
    (h₁ : start + source.length ≤ size) (h₂ : size ≤ bytes.length) :
    (bytes.splice start source).take size = splice (bytes.take size) start source := by
  simp only [splice]
  rw [List.take_append, List.take_append, List.take_take, List.take_take, List.length_take,
    List.drop_take, Nat.min_eq_left (by omega : start ≤ bytes.length),
    Nat.min_eq_right (by omega : start ≤ size), Nat.min_eq_left (by omega : start ≤ size),
    List.take_of_length_le (by omega : source.length ≤ size - start), Nat.sub_add_eq]

/-- Writing over a part behind the first `first` bytes, and cutting those off, may
be done in either order. -/
theorem drop_splice (bytes source : Bytes) (first start : Nat)
    (h : first + start ≤ bytes.length) :
    (bytes.splice (first + start) source).drop first = splice (bytes.drop first) start source := by
  simp only [splice]
  rw [List.drop_append_of_le_length (by rw [List.length_take]; omega), List.drop_take,
    Nat.add_sub_cancel_left, List.drop_drop, Nat.add_assoc]

/-- `bytes` cut into pieces of `size` bytes, the last piece holding what is left.
No bytes make no pieces, and so does a `size` of zero. -/
def chunks (size : Nat) (bytes : Bytes) : List Bytes :=
  if _h : size = 0 ∨ bytes = [] then []
  else bytes.take size :: chunks size (bytes.drop size)
termination_by bytes.length
decreasing_by
  have := List.length_pos_iff.2 (not_or.1 _h).2
  rw [List.length_drop]
  omega

/-- **Cutting loses nothing**: the pieces in order are the bytes. -/
theorem flatten_chunks (size : Nat) (hsize : size ≠ 0) (bytes : Bytes) :
    (chunks size bytes).flatten = bytes := by
  fun_induction chunks size bytes with
  | case1 bytes h => simp [(h.resolve_left hsize)]
  | case2 bytes h ih => simp [ih]

end Bytes

namespace Word16

/-- The word whose high byte is `high` and whose low byte is `low`. -/
def join (high low : UInt8) : UInt16 := high.toUInt16 * 256 + low.toUInt16

/-- The word at the front of `bytes`, where bytes that are missing count as zero. -/
def ofBytes : Bytes → UInt16
  | [] => 0
  | [high] => join high 0
  | high :: low :: _ => join high low

/-- The two bytes of a word in network order. -/
def bytes (word : UInt16) : Bytes := [(word / 256).toUInt8, word.toUInt8]

@[simp] theorem length_bytes (word : UInt16) : (bytes word).length = 2 := rfl

theorem toNat_join (high low : UInt8) : (join high low).toNat = high.toNat * 256 + low.toNat := by
  have h := high.toNat_lt
  have l := low.toNat_lt
  simp only [join, UInt16.toNat_add, UInt16.toNat_mul, UInt8.toNat_toUInt16]
  simp
  omega

/-- A word is made of its two bytes. -/
@[simp] theorem join_bytes (word : UInt16) :
    join (word / 256).toUInt8 word.toUInt8 = word := by
  have h := word.toNat_lt
  apply UInt16.toNat_inj.1
  rw [toNat_join, UInt16.toNat_toUInt8, UInt16.toNat_toUInt8, UInt16.toNat_div]
  simp
  omega

/-- Two bytes are the bytes of the word made of them. -/
@[simp] theorem bytes_join (high low : UInt8) : bytes (join high low) = [high, low] := by
  have h := high.toNat_lt
  have l := low.toNat_lt
  simp only [bytes, List.cons.injEq, and_true]
  refine ⟨UInt8.toNat_inj.1 ?_, UInt8.toNat_inj.1 ?_⟩
  · rw [UInt16.toNat_toUInt8, UInt16.toNat_div, toNat_join]
    simp
    omega
  · rw [UInt16.toNat_toUInt8, toNat_join]
    omega

end Word16

end HostNet
