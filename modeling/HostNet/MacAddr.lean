import HostNet.Text.Hex

/-!
# MAC addresses

* `MacAddr` — six octets.
* `MacAddr.broadcast`, `MacAddr.zero` — every station, and the unknown one.
* `MacAddr.bytes` — the octets in order, as they are on the wire.
* `MacAddr.rank` — the octets as one number; addresses are ordered by it.
* `MacAddr.text`, `MacAddr.parse` — the written form.

An address is written as six octets of two lower case digits with colons
between them.  Reading is wider: digits of either case, and a dash for any of
the colons.
-/

namespace HostNet

/-- The address of a station on the link. -/
structure MacAddr where
  o0 : UInt8
  o1 : UInt8
  o2 : UInt8
  o3 : UInt8
  o4 : UInt8
  o5 : UInt8
  deriving Repr, DecidableEq, Inhabited

namespace MacAddr

/-- Every station on the link. -/
def broadcast : MacAddr := ⟨0xff, 0xff, 0xff, 0xff, 0xff, 0xff⟩

/-- The address that stands for an unknown target. -/
def zero : MacAddr := ⟨0, 0, 0, 0, 0, 0⟩

/-- The octets in order. -/
def bytes (mac : MacAddr) : Bytes := [mac.o0, mac.o1, mac.o2, mac.o3, mac.o4, mac.o5]

@[simp] theorem length_bytes (mac : MacAddr) : mac.bytes.length = 6 := rfl

/-- The octets read as one number, first octet highest. -/
def rank (mac : MacAddr) : Nat := mac.bytes.foldl (fun n octet => n * 256 + octet.toNat) 0

/-- Addresses in the order of their octets. -/
def sort (macs : List MacAddr) : List MacAddr := macs.mergeSort fun a b => a.rank ≤ b.rank

/-! ### Text -/

/-- The octets in lower case, with colons between them. -/
def text (mac : MacAddr) : String :=
  String.ofList (List.intercalate [':'] (mac.bytes.map Hex.octet))

/-- Whether `c` may stand between two octets. -/
def isSeparator (c : Char) : Bool := c == ':' || c == '-'

/-- The address a text stands for, if the text is six separated octets. -/
def ofChars? (chars : List Char) : Option MacAddr :=
  match (chars.splitOnP isSeparator).map Hex.octet? with
  | [some o0, some o1, some o2, some o3, some o4, some o5] => some ⟨o0, o1, o2, o3, o4, o5⟩
  | _ => none

/-- The text that was to be read as an address and is none. -/
structure ParseError where
  text : String
  deriving Repr, DecidableEq

/-- The refusal in full. -/
def ParseError.message (e : ParseError) : String := "invalid MAC address '" ++ e.text ++ "'"

/-- Reads an address. -/
def parse (text : String) : Except ParseError MacAddr :=
  match ofChars? text.toList with
  | some mac => .ok mac
  | none => .error ⟨text⟩

end MacAddr

end HostNet
