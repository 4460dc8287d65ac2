import HostNet.Bytes

/-!
# Hexadecimal text

* `Hex.digit` — the lower case digit of a number below 16.
* `Hex.value?` — the value of a digit of either case.
* `Hex.octet` — the two digits of a byte.
* `Hex.number?` — the number that a text stands for, if it fits into a byte.
* `Hex.octet?` — the byte that exactly two digits stand for.
* `Hex.word` — a 16 bit word as `0x` and four digits.

Reading goes by the bytes of a text.  A number may have a plus sign, and any number
of digits; an octet has two bytes, both of them digits.

`Hex.octet?_octet` says that a byte is read back from its digits.
-/

namespace HostNet.Hex

/-- The lower case digit of a number below 16; any other number has none and
gets a question mark. -/
def digit : Nat → Char
  | 0 => '0' | 1 => '1' | 2 => '2' | 3 => '3' | 4 => '4' | 5 => '5' | 6 => '6' | 7 => '7'
  | 8 => '8' | 9 => '9' | 10 => 'a' | 11 => 'b' | 12 => 'c' | 13 => 'd' | 14 => 'e' | 15 => 'f'
  | _ => '?'

/-- The value of a hexadecimal digit of either case.  Only the ASCII digits and
letters are digits. -/
def value? (c : Char) : Option Nat :=
  if '0' ≤ c ∧ c ≤ '9' then some (c.toNat - '0'.toNat)
  else if 'a' ≤ c ∧ c ≤ 'f' then some (c.toNat - 'a'.toNat + 10)
  else if 'A' ≤ c ∧ c ≤ 'F' then some (c.toNat - 'A'.toNat + 10)
  else none

/-- The two digits of a byte, the high one first. -/
def octet (byte : UInt8) : List Char := [digit (byte.toNat / 16), digit (byte.toNat % 16)]

/-- The bytes of a text in UTF-8. -/
def utf8 (text : List Char) : Bytes := text.flatMap String.utf8EncodeChar

/-- The value of a byte that is a digit. -/
def byteValue? (byte : UInt8) : Option Nat := value? (Char.ofUInt8 byte)

/-- A number with one more digit behind it, unless it gets too large for a byte. -/
def shiftIn? (n : Nat) (byte : UInt8) : Option Nat := do
  let v ← byteValue? byte
  if n * 16 + v < 256 then some (n * 16 + v) else none

/-- The number that the digits of a text stand for, the first one highest.  There may
be a plus sign before them, but there has to be a digit. -/
def number? : Bytes → Option UInt8
  | [] => none
  | first :: rest =>
      let digits := if Char.ofUInt8 first = '+' then rest else first :: rest
      if digits = [] then none else (digits.foldlM shiftIn? 0).map UInt8.ofNat

/-- The byte that a text of exactly two digits stands for.  A sign is no digit, although
a number may have one. -/
def octet? (text : List Char) : Option UInt8 :=
  let bytes := utf8 text
  if bytes.length = 2 ∧ bytes.all fun byte => (byteValue? byte).isSome then number? bytes
  else none

/-- A word as `0x` and its four digits. -/
def word (w : UInt16) : String :=
  String.ofList ('0' :: 'x' :: (Word16.bytes w).flatMap octet)

theorem value?_digit (n : Nat) (h : n < 16) : value? (digit n) = some n := by
  have : ∀ m : Fin 16, value? (digit m) = some m.val := by decide
  exact this ⟨n, h⟩

/-- What has a value, by its code: `0` is 48, `a` is 97 and `A` is 65. -/
theorem value?_eq_some_iff {c : Char} {n : Nat} :
    value? c = some n ↔ (n < 10 ∧ c.toNat = 48 + n) ∨
      (10 ≤ n ∧ n < 16 ∧ (c.toNat = 87 + n ∨ c.toNat = 55 + n)) := by
  have hle {a b : Char} : a ≤ b ↔ a.toNat ≤ b.toNat := UInt32.le_iff_toNat_le
  simp only [value?, hle, Char.reduceToNat]
  repeat' split
  all_goals
    simp only [Option.some.injEq, reduceCtorEq, false_iff]
    omega

/-! ### Two digits are a byte -/

/-- An ASCII character is one byte. -/
theorem utf8EncodeChar_of_lt {c : Char} (h : c.toNat < 128) :
    String.utf8EncodeChar c = [c.toUInt8] := by
  rw [String.utf8EncodeChar]
  exact if_pos (Nat.le_of_lt_succ h)

/-- An ASCII character is the digit that its byte is. -/
theorem byteValue?_toUInt8 {c : Char} (h : c.toNat < 128) : byteValue? c.toUInt8 = value? c := by
  have hbyte : c.toUInt8.toNat = c.toNat := Nat.mod_eq_of_lt (Nat.lt_trans h (by decide))
  have hchar : Char.ofUInt8 c.toUInt8 = c := Char.toNat_inj.1 hbyte
  rw [byteValue?, hchar]

/-- The number of two digits is a byte. -/
theorem number?_pair {high low : UInt8} {h l : Nat} (hhigh : byteValue? high = some h)
    (hlow : byteValue? low = some l) : number? [high, low] = some (UInt8.ofNat (h * 16 + l)) := by
  have hh := value?_eq_some_iff.1 hhigh
  have hl := value?_eq_some_iff.1 hlow
  -- what is a digit is no sign
  have hsign : Char.ofUInt8 high ≠ '+' := by
    intro hplus
    rw [byteValue?, hplus, show value? '+' = none by decide] at hhigh
    cases hhigh
  have hfirst : shiftIn? 0 high = some h := by
    have hlt : 0 * 16 + h < 256 := by omega
    rw [shiftIn?, hhigh, Option.bind_eq_bind, Option.bind_some, if_pos hlt, Nat.zero_mul,
      Nat.zero_add]
  have hsecond : shiftIn? h low = some (h * 16 + l) := by
    have hlt : h * 16 + l < 256 := by omega
    rw [shiftIn?, hlow, Option.bind_eq_bind, Option.bind_some, if_pos hlt]
  simp [number?, hsign, hfirst, hsecond]

theorem octet?_digits {high low : Char} {h l : Nat} (hhigh : value? high = some h)
    (hlow : value? low = some l) : octet? [high, low] = some (UInt8.ofNat (h * 16 + l)) := by
  have hhigh' := value?_eq_some_iff.1 hhigh
  have hlow' := value?_eq_some_iff.1 hlow
  have hbytes : utf8 [high, low] = [high.toUInt8, low.toUInt8] := by
    rw [utf8, List.flatMap_cons, List.flatMap_cons, utf8EncodeChar_of_lt (by omega),
      utf8EncodeChar_of_lt (by omega)]
    rfl
  have hh : byteValue? high.toUInt8 = some h := by
    rw [byteValue?_toUInt8 (by omega), hhigh]
  have hl : byteValue? low.toUInt8 = some l := by
    rw [byteValue?_toUInt8 (by omega), hlow]
  have hguard : [high.toUInt8, low.toUInt8].length = 2 ∧
      [high.toUInt8, low.toUInt8].all fun byte => (byteValue? byte).isSome := by
    simp [hh, hl]
  rw [octet?, hbytes, if_pos hguard, number?_pair hh hl]

/-- A byte is read back from its digits. -/
theorem octet?_octet (byte : UInt8) : octet? (octet byte) = some byte := by
  have h := byte.toNat_lt
  have hl : byte.toNat % 16 < 16 := by omega
  have hh : byte.toNat / 16 < 16 := by omega
  rw [octet, octet?_digits (value?_digit _ hh) (value?_digit _ hl),
    show byte.toNat / 16 * 16 + byte.toNat % 16 = byte.toNat by omega]
  exact congrArg some UInt8.ofNat_toNat

end HostNet.Hex
