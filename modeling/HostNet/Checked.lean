import HostNet.Bytes

/-!
# Operations with a domain

Cutting a piece out of a byte string, writing over part of one, subtracting,
limiting a number to a range and narrowing one to 16 bits each make sense only
for some arguments.  Here they answer outside of that domain with a `Fault`
that says what went wrong, and never with a made up value.

* `Fault` — the ways in which such an operation can be misapplied.
* `Checked.slice`, `Checked.overwrite`, `Checked.fill` — parts of byte strings.
* `Checked.sub`, `Checked.clamp`, `Checked.word16` — numbers.

The layers of the host use these wherever the guard that makes an operation
safe stands somewhere else, so that "no fault occurs" is a statement about the
guards.
-/

namespace HostNet

/-- An operation applied outside of its domain. -/
inductive Fault where
  /-- The bytes `[start, start + size)` were asked of only `length` bytes. -/
  | outOfBounds (start size length : Nat)
  /-- `right` was subtracted from the smaller `left`. -/
  | underflow (left right : Nat)
  /-- A number was to be limited to a range whose ends are the wrong way round. -/
  | emptyRange (low high : Nat)
  /-- A number that needs more than 16 bits was narrowed to 16. -/
  | narrowed (value : Nat)
  deriving Repr, DecidableEq

namespace Checked

/-- The `size` bytes of `bytes` from position `start` on. -/
def slice (bytes : Bytes) (start size : Nat) : Except Fault Bytes :=
  if start + size ≤ bytes.length then .ok ((bytes.drop start).take size)
  else .error (.outOfBounds start size bytes.length)

/-- `bytes` with `source` written over the bytes from `start` on, all of which
have to be there. -/
def overwrite (bytes : Bytes) (start : Nat) (source : Bytes) : Except Fault Bytes :=
  if start + source.length ≤ bytes.length then .ok (bytes.splice start source)
  else .error (.outOfBounds start source.length bytes.length)

/-- A buffer with `source` written over its front, where it has to fit.  The buffer
keeps its length. -/
def fill (buffer source : Bytes) :
    Except Fault { filled : Bytes // filled.length = buffer.length } :=
  if h : source.length ≤ buffer.length then
    .ok ⟨buffer.splice 0 source, by
      rw [Bytes.length_splice _ _ _ (Nat.zero_le _)]
      omega⟩
  else .error (.outOfBounds 0 source.length buffer.length)

/-- The difference `left - right`. -/
def sub (left right : Nat) : Except Fault Nat :=
  if right ≤ left then .ok (left - right) else .error (.underflow left right)

/-- The number of the range `low` to `high`, both included, next to `value`. -/
def clamp (value low high : Nat) : Except Fault Nat :=
  if low ≤ high then .ok (max low (min value high)) else .error (.emptyRange low high)

/-- `value` as a 16 bit word. -/
def word16 (value : Nat) : Except Fault UInt16 :=
  if value < 65536 then .ok value.toUInt16 else .error (.narrowed value)

theorem slice_of_le (bytes : Bytes) (start size : Nat) (h : start + size ≤ bytes.length) :
    slice bytes start size = .ok ((bytes.drop start).take size) :=
  if_pos h

theorem overwrite_of_le (bytes : Bytes) (start : Nat) (source : Bytes)
    (h : start + source.length ≤ bytes.length) :
    overwrite bytes start source = .ok (bytes.splice start source) :=
  if_pos h

theorem fill_of_le (buffer source : Bytes) (h : source.length ≤ buffer.length) :
    ∃ hlength, fill buffer source = .ok ⟨buffer.splice 0 source, hlength⟩ :=
  ⟨_, dif_pos h⟩

theorem sub_of_le (left right : Nat) (h : right ≤ left) : sub left right = .ok (left - right) :=
  if_pos h

theorem clamp_of_le (value low high : Nat) (h : low ≤ high) :
    clamp value low high = .ok (max low (min value high)) :=
  if_pos h

theorem word16_of_lt (value : Nat) (h : value < 65536) : word16 value = .ok value.toUInt16 :=
  if_pos h

end Checked

end HostNet
