import HostNet.MacAddr
import Mathlib.Data.List.Basic
import Mathlib.Tactic.Choose

/-!
# The text of addresses

An address is read from the texts that its grammar allows, and from no others: six groups of
two digits, with one separator between any two of them.  The reader cuts a text at its
separators and looks at the bytes of each part; the grammar knows of neither.

* `Hex.Digit`, `Hex.Pair` — a digit of either case, two digits, and what they stand for.
* `Hex.octet?_eq_some_iff` — a part of a text is read as a byte just if it is two digits.
* `MacAddr.Spelling` — a text that is written by the grammar, and its octets.
* `MacAddr.splitOnP_separated`, `MacAddr.exists_separated` — the parts of such a text are its
  groups, and a text whose parts are octets is such a text.
* `MacAddr.map_separated` — how such a text looks in lower case and with colons only.
* `MacAddr.parses_exactly_spellings` — what is read, as what, and how it is written again.

### What is no digit

The bytes of a character that is not ASCII are all outside of ASCII (`Hex.exists_high_byte`),
so that such a character is never taken for digits, however many bytes it has.  A plus sign
would pass for the beginning of a number, but it is not a digit.
-/

namespace HostNet

namespace Hex

/-- A hexadecimal digit of ASCII text, in lower case or in upper case. -/
structure Digit where
  value : Fin 16
  upper : Bool

/-- Two digits, the high one first. -/
structure Pair where
  high : Digit
  low : Digit

namespace Digit

/-- How a digit is written. -/
def char (d : Digit) : Char := if d.upper then (digit d.value).toUpper else digit d.value

theorem value?_char (d : Digit) : value? d.char = some d.value.val := by
  obtain ⟨v, upper⟩ := d
  revert v upper
  decide

theorem toLower_char (d : Digit) : d.char.toLower = digit d.value := by
  obtain ⟨v, upper⟩ := d
  revert v upper
  decide

theorem toNat_char_lt (d : Digit) : d.char.toNat < 128 := by
  have hvalue := value?_eq_some_iff.1 d.value?_char
  omega

/-- Whatever has a value is a digit. -/
theorem exists_of_value? {c : Char} {n : Nat} (h : value? c = some n) :
    ∃ d : Digit, d.char = c ∧ d.value.val = n := by
  have hlower : ∀ v : Fin 16, (digit v).toNat = if v.val < 10 then 48 + v.val else 87 + v.val := by
    decide
  have hupper : ∀ v : Fin 16, 10 ≤ v.val → (digit v).toUpper.toNat = 55 + v.val := by decide
  rcases value?_eq_some_iff.1 h with ⟨hn, hc⟩ | ⟨hge, hn, hc | hc⟩
  case inl =>
    refine ⟨⟨⟨n, by omega⟩, false⟩, Char.toNat_inj.1 ?_, rfl⟩
    exact (hlower ⟨n, by omega⟩).trans ((if_pos hn).trans hc.symm)
  case inr.inl =>
    refine ⟨⟨⟨n, hn⟩, false⟩, Char.toNat_inj.1 ?_, rfl⟩
    exact (hlower ⟨n, hn⟩).trans ((if_neg (Nat.not_lt.2 hge)).trans hc.symm)
  case inr.inr =>
    refine ⟨⟨⟨n, hn⟩, true⟩, Char.toNat_inj.1 ?_, rfl⟩
    exact (hupper ⟨n, hn⟩ hge).trans hc.symm

end Digit

namespace Pair

/-- How two digits are written. -/
def chars (p : Pair) : List Char := [p.high.char, p.low.char]

/-- The byte that two digits stand for. -/
def byte (p : Pair) : UInt8 := UInt8.ofNat (p.high.value * 16 + p.low.value)

end Pair

/-! ### Bytes of a text -/

/-- A byte that is a digit is one of ASCII. -/
theorem toNat_lt_of_byteValue? {byte : UInt8} (h : (byteValue? byte).isSome) :
    byte.toNat < 128 := by
  obtain ⟨n, hn⟩ := Option.isSome_iff_exists.1 h
  have hdigit := value?_eq_some_iff.1 hn
  have hbyte : (Char.ofUInt8 byte).toNat = byte.toNat := rfl
  omega

/-- A character that is not one of ASCII has a byte that is not either. -/
theorem exists_high_byte {c : Char} (h : 128 ≤ c.toNat) :
    ∃ byte ∈ String.utf8EncodeChar c, 128 ≤ byte.toNat := by
  have hval : c.val.toNat = c.toNat := rfl
  rw [String.utf8EncodeChar]
  simp only [hval]
  split
  case isTrue hlow => exact absurd hlow (by omega)
  case isFalse =>
    -- of two, three or four bytes the first says how many there are, with its upper bits
    repeat' split
    all_goals
      refine ⟨_, List.mem_cons_self, ?_⟩
      rw [UInt8.toNat_ofNat']
      omega

/-- A character all of whose bytes are digits is a digit. -/
theorem exists_digit_of_utf8 {c : Char}
    (h : ∀ byte ∈ String.utf8EncodeChar c, (byteValue? byte).isSome) :
    ∃ d : Digit, d.char = c := by
  have hascii : c.toNat < 128 := by
    refine Nat.lt_of_not_le fun hge => ?_
    obtain ⟨byte, hmem, hhigh⟩ := exists_high_byte hge
    exact Nat.not_lt.2 hhigh (toNat_lt_of_byteValue? (h byte hmem))
  have hbyte := h c.toUInt8 (utf8EncodeChar_of_lt hascii ▸ List.mem_singleton_self _)
  rw [byteValue?_toUInt8 hascii] at hbyte
  obtain ⟨n, hn⟩ := Option.isSome_iff_exists.1 hbyte
  obtain ⟨d, hd, -⟩ := Digit.exists_of_value? hn
  exact ⟨d, hd⟩

theorem length_utf8 {text : List Char} (h : ∀ c ∈ text, c.toNat < 128) :
    (utf8 text).length = text.length := by
  induction text with
  | nil => rfl
  | cons c text ih =>
    rw [List.forall_mem_cons] at h
    rw [utf8, List.flatMap_cons, utf8EncodeChar_of_lt h.1]
    exact congrArg (· + 1) (ih h.2)

/-- **A part of a text is an octet just if it is two digits**, and then it is what these stand
for. -/
theorem octet?_eq_some_iff {text : List Char} {byte : UInt8} :
    octet? text = some byte ↔ ∃ p : Pair, p.chars = text ∧ p.byte = byte := by
  constructor
  · intro hread
    obtain ⟨hlength, hall⟩ : (utf8 text).length = 2 ∧
        (utf8 text).all fun byte => (byteValue? byte).isSome := by
      refine Decidable.byContradiction fun hnot => ?_
      rw [octet?, if_neg hnot] at hread
      cases hread
    have hdigit : ∀ c ∈ text, ∃ d : Digit, d.char = c := by
      intro c hc
      refine exists_digit_of_utf8 fun b hb => ?_
      exact List.all_eq_true.1 hall b (List.mem_flatMap.2 ⟨c, hc, hb⟩)
    rw [length_utf8 fun c hc => (hdigit c hc).elim fun d hd => hd ▸ d.toNat_char_lt] at hlength
    obtain ⟨_, _, rfl⟩ := List.length_eq_two.1 hlength
    obtain ⟨high, rfl⟩ := hdigit _ List.mem_cons_self
    obtain ⟨low, rfl⟩ := hdigit _ (List.mem_cons_of_mem _ List.mem_cons_self)
    rw [octet?_digits high.value?_char low.value?_char] at hread
    exact ⟨⟨high, low⟩, rfl, Option.some.inj hread⟩
  · rintro ⟨p, rfl, rfl⟩
    exact octet?_digits p.high.value?_char p.low.value?_char

/-- Two digits in lower case are those that their byte is written as. -/
theorem Pair.map_toLower (p : Pair) : p.chars.map Char.toLower = octet p.byte := by
  have hhigh := p.high.value.isLt
  have hlow := p.low.value.isLt
  have hbyte : p.byte.toNat = p.high.value * 16 + p.low.value := by
    rw [byte, UInt8.toNat_ofNat']
    omega
  have hquotient : p.byte.toNat / 16 = p.high.value := by omega
  have hremainder : p.byte.toNat % 16 = p.low.value := by omega
  rw [octet, hquotient, hremainder, chars, List.map_cons, List.map_cons, p.high.toLower_char,
    p.low.toLower_char, List.map_nil]

end Hex

namespace MacAddr

/-! ### The parts of a text -/

/-- What may stand between two groups. -/
inductive Separator where
  | colon
  | dash

/-- How a separator is written. -/
def Separator.char : Separator → Char
  | colon => ':'
  | dash => '-'

theorem isSeparator_iff {c : Char} : isSeparator c = true ↔ ∃ s : Separator, s.char = c := by
  rw [isSeparator, Bool.or_eq_true, beq_iff_eq, beq_iff_eq]
  constructor
  · rintro (rfl | rfl)
    · exact ⟨.colon, rfl⟩
    · exact ⟨.dash, rfl⟩
  · rintro ⟨_ | _, rfl⟩
    · exact .inl rfl
    · exact .inr rfl

/-- A digit separates nothing. -/
theorem isSeparator_char (d : Hex.Digit) : isSeparator d.char = false := by
  obtain ⟨v, upper⟩ := d
  revert v upper
  decide

/-- Two digits, and then others, each two of them behind a separator. -/
def separated (first : Hex.Pair) (others : List (Separator × Hex.Pair)) : List Char :=
  first.chars ++ others.flatMap fun other => other.1.char :: other.2.chars

theorem separated_cons (first : Hex.Pair) (other : Separator × Hex.Pair)
    (others : List (Separator × Hex.Pair)) :
    separated first (other :: others) =
      first.chars ++ other.1.char :: separated other.2 others := by
  rw [separated, List.flatMap_cons, List.cons_append]
  rfl

/-- Cut at its separators, such a text falls into its groups. -/
theorem splitOnP_separated (first : Hex.Pair) (others : List (Separator × Hex.Pair)) :
    (separated first others).splitOnP isSeparator =
      first.chars :: others.map fun other => other.2.chars := by
  have hdigits (p : Hex.Pair) : ∀ c ∈ p.chars, isSeparator c = false := by
    intro c hc
    rw [Hex.Pair.chars, List.mem_cons, List.mem_singleton] at hc
    rcases hc with rfl | rfl
    · exact isSeparator_char p.high
    · exact isSeparator_char p.low
  induction others generalizing first with
  | nil =>
    rw [separated, List.flatMap_nil, List.append_nil, List.map_nil]
    exact List.splitOnP_eq_singleton (hdigits first)
  | cons other others ih =>
    rw [separated_cons, List.splitOnP_append_cons_of_forall_mem (hdigits first) _
      (isSeparator_iff.2 ⟨other.1, rfl⟩), ih, List.map_cons]

/-- The first part of a text is the whole text, or it ends at a separator and the other parts
are those of the rest. -/
theorem eq_append_of_splitOnP {text part : List Char} {parts : List (List Char)}
    (h : text.splitOnP isSeparator = part :: parts) :
    (text = part ∧ parts = []) ∨
      ∃ (s : Separator) (rest : List Char),
        text = part ++ s.char :: rest ∧ rest.splitOnP isSeparator = parts := by
  cases hfind : text.find? isSeparator with
  | none =>
    have hwhole := List.splitOnP_eq_singleton fun c hc =>
      Bool.eq_false_iff.2 (List.find?_eq_none.1 hfind c hc)
    obtain ⟨rfl, rfl⟩ := List.cons.inj (hwhole.symm.trans h)
    exact .inl ⟨rfl, rfl⟩
  | some c =>
    obtain ⟨hc, before, rest, rfl, hbefore⟩ := List.find?_eq_some_iff_append.1 hfind
    obtain ⟨s, rfl⟩ := isSeparator_iff.1 hc
    have hdigits : ∀ c ∈ before, isSeparator c = false := by simpa using hbefore
    rw [List.splitOnP_append_cons_of_forall_mem hdigits _ hc] at h
    obtain ⟨rfl, rfl⟩ := List.cons.inj h
    exact .inr ⟨s, rest, rfl, rfl⟩

/-- A text whose parts are octets begins with a group, and if there are more octets, with a
separator behind it. -/
theorem exists_first {text : List Char} {octet : UInt8} {octets : Bytes}
    (h : (text.splitOnP isSeparator).map Hex.octet? = (octet :: octets).map some) :
    ∃ first : Hex.Pair, first.byte = octet ∧
      ((text = first.chars ∧ octets = []) ∨
        ∃ (s : Separator) (rest : List Char), text = first.chars ++ s.char :: rest ∧
          (rest.splitOnP isSeparator).map Hex.octet? = octets.map some) := by
  obtain ⟨part, parts, hsplit, hpart, hparts⟩ := List.map_eq_cons_iff.1 h
  obtain ⟨first, rfl, hbyte⟩ := Hex.octet?_eq_some_iff.1 hpart
  refine ⟨first, hbyte, ?_⟩
  rcases eq_append_of_splitOnP hsplit with ⟨rfl, rfl⟩ | ⟨s, rest, rfl, rfl⟩
  · exact .inl ⟨rfl, List.map_eq_nil_iff.1 hparts.symm⟩
  · exact .inr ⟨s, rest, rfl, hparts⟩

/-- A text whose parts are octets is made of groups with separators between them. -/
theorem exists_separated {text : List Char} {octet : UInt8} {octets : Bytes}
    (h : (text.splitOnP isSeparator).map Hex.octet? = (octet :: octets).map some) :
    ∃ first others, separated first others = text ∧ first.byte = octet ∧
      others.map (fun other => other.2.byte) = octets := by
  induction octets generalizing text octet with
  | nil =>
    obtain ⟨first, hbyte, ⟨rfl, -⟩ | ⟨s, rest, rfl, hrest⟩⟩ := exists_first h
    · exact ⟨first, [], List.append_nil _, hbyte, rfl⟩
    -- behind a separator there is at least an empty part
    · exact absurd (List.map_eq_nil_iff.1 hrest) (List.splitOnP_ne_nil _ _)
  | cons next octets ih =>
    obtain ⟨first, hbyte, ⟨-, hnil⟩ | ⟨s, rest, rfl, hrest⟩⟩ := exists_first h
    · cases hnil
    · obtain ⟨second, others, rfl, rfl, rfl⟩ := ih hrest
      exact ⟨first, (s, second) :: others, separated_cons _ _ _, hbyte, rfl⟩

/-! ### The grammar -/

/-- **A text written by the grammar of addresses**: six groups of two digits, all but the first
of them behind a separator. -/
structure Spelling where
  first : Hex.Pair
  /-- The groups behind the first one, each with the separator before it. -/
  others : List (Separator × Hex.Pair)
  length_others : others.length = 5

namespace Spelling

/-- The text itself, with nothing before it or after it. -/
def text (spelling : Spelling) : String :=
  String.ofList (separated spelling.first spelling.others)

/-- What the groups stand for. -/
def octets (spelling : Spelling) : Bytes :=
  spelling.first.byte :: spelling.others.map fun other => other.2.byte

/-- There are as many groups as an address has octets. -/
theorem exists_address (spelling : Spelling) : ∃ mac : MacAddr, spelling.octets = mac.bytes := by
  obtain ⟨first, others, hlength⟩ := spelling
  match others, hlength with
  | [second, third, fourth, fifth, sixth], _ =>
    exact ⟨⟨first.byte, second.2.byte, third.2.byte, fourth.2.byte, fifth.2.byte, sixth.2.byte⟩,
      rfl⟩

end Spelling

theorem ofChars?_eq_some_iff {chars : List Char} {mac : MacAddr} :
    ofChars? chars = some mac ↔
      (chars.splitOnP isSeparator).map Hex.octet? = mac.bytes.map some := by
  rw [ofChars?]
  split
  · next o0 o1 o2 o3 o4 o5 hparts =>
    rw [hparts, Option.some.injEq]
    constructor
    · rintro rfl
      rfl
    · intro h
      cases h
      rfl
  · next hnot =>
    constructor
    · intro h
      cases h
    · intro h
      exact absurd h (hnot _ _ _ _ _ _)

/-- A text is read just if it is written by the grammar, as the octets of its groups. -/
theorem parse_eq_ok_iff {s : String} {mac : MacAddr} :
    parse s = .ok mac ↔ ∃ spelling : Spelling, spelling.text = s ∧ spelling.octets = mac.bytes := by
  have hparse : parse s = .ok mac ↔ ofChars? s.toList = some mac := by
    cases hread : ofChars? s.toList with
    | some mac' => simp [parse, hread]
    | none => simp [parse, hread]
  rw [hparse, ofChars?_eq_some_iff]
  constructor
  · intro h
    obtain ⟨first, others, hs, hfirst, hothers⟩ := exists_separated h
    have hlength := congrArg List.length hothers
    rw [List.length_map] at hlength
    refine ⟨⟨first, others, hlength⟩, ?_, ?_⟩
    · rw [Spelling.text, hs, String.ofList_toList]
    · rw [Spelling.octets, hfirst, hothers]
      rfl
  · rintro ⟨spelling, rfl, hoctets⟩
    have hread (p : Hex.Pair) : Hex.octet? p.chars = some p.byte :=
      Hex.octet?_eq_some_iff.2 ⟨p, rfl, rfl⟩
    rw [Spelling.text, String.toList_ofList, splitOnP_separated, ← hoctets, Spelling.octets]
    simp only [List.map_cons, List.map_map, hread, Function.comp_def]

/-- A text that is not written by the grammar is refused, and the refusal carries it. -/
theorem parse_eq_error_iff {s : String} {e : ParseError} :
    parse s = .error e ↔ (∀ spelling : Spelling, spelling.text ≠ s) ∧ e = ⟨s⟩ := by
  have herror : parse s = .error e ↔ (∀ mac, parse s ≠ .ok mac) ∧ e = ⟨s⟩ := by
    cases hread : ofChars? s.toList with
    | some mac => simp [parse, hread]
    | none => simp [parse, hread, eq_comm]
  rw [herror]
  refine and_congr_left' ⟨fun hnone spelling hs => ?_, fun hnone mac hread => ?_⟩
  · obtain ⟨mac, hoctets⟩ := spelling.exists_address
    exact hnone mac (parse_eq_ok_iff.2 ⟨spelling, hs, hoctets⟩)
  · obtain ⟨spelling, hs, -⟩ := parse_eq_ok_iff.1 hread
    exact hnone spelling hs

/-- The text of an address is written by the grammar. -/
theorem exists_spelling (mac : MacAddr) :
    ∃ spelling : Spelling, spelling.text = mac.text ∧ spelling.octets = mac.bytes := by
  choose pair hchars hbyte using fun byte => Hex.octet?_eq_some_iff.1 (Hex.octet?_octet byte)
  refine ⟨⟨pair mac.o0, [mac.o1, mac.o2, mac.o3, mac.o4, mac.o5].map fun octet =>
    (.colon, pair octet), rfl⟩, ?_, ?_⟩
  · rw [Spelling.text, text]
    simp [separated, bytes, hchars, Separator.char]
  · simp [Spelling.octets, bytes, hbyte]

/-! ### The text of what was read -/

/-- A colon in place of a dash, and any other character as it is. -/
def colonForDash (c : Char) : Char := if c = '-' then ':' else c

theorem map_colonForDash_octet (byte : UInt8) :
    (Hex.octet byte).map colonForDash = Hex.octet byte := by
  have hdigit : ∀ v : Fin 16, colonForDash (Hex.digit v) = Hex.digit v := by decide
  have hlt := byte.toNat_lt
  rw [Hex.octet, List.map_cons, List.map_cons, List.map_nil, hdigit ⟨byte.toNat / 16, by omega⟩,
    hdigit ⟨byte.toNat % 16, by omega⟩]

/-- In lower case and with colons only, groups are the octets they stand for. -/
theorem map_separated (first : Hex.Pair) (others : List (Separator × Hex.Pair)) :
    ((separated first others).map Char.toLower).map colonForDash =
      [':'].intercalate ((first.byte :: others.map fun other => other.2.byte).map Hex.octet) := by
  induction others generalizing first with
  | nil =>
    rw [separated, List.flatMap_nil, List.append_nil, Hex.Pair.map_toLower,
      map_colonForDash_octet]
    exact List.intercalate_singleton.symm
  | cons other others ih =>
    have hseparator : colonForDash other.1.char.toLower = ':' := by
      cases other.1 <;> rfl
    rw [separated_cons, List.map_append, List.map_append, Hex.Pair.map_toLower,
      map_colonForDash_octet, List.map_cons, List.map_cons, hseparator, ih]
    simp only [List.map_cons]
    rw [List.intercalate_cons_cons, List.append_assoc, List.singleton_append]

/-- **Addresses are read from the texts of their grammar, and from no others.**  A text is read
just if it is six groups of two digits of either case, with one colon or dash between any two
groups, and it is read as the values of the groups; any other text is refused by an error that
carries it.  An address is read from its own text, and the text of what was read is that it was
read from, in lower case and with colons for dashes. -/
theorem parses_exactly_spellings :
    (∀ (s : String) (mac : MacAddr), parse s = .ok mac ↔
      ∃ spelling : Spelling, spelling.text = s ∧ spelling.octets = mac.bytes) ∧
    (∀ (s : String) (e : ParseError), parse s = .error e ↔
      (∀ spelling : Spelling, spelling.text ≠ s) ∧ e = ⟨s⟩) ∧
    (∀ mac : MacAddr, parse mac.text = .ok mac) ∧
    ∀ (s : String) (mac : MacAddr), parse s = .ok mac →
      mac.text = s.toLower.map colonForDash := by
  refine ⟨fun _ _ => parse_eq_ok_iff, fun _ _ => parse_eq_error_iff,
    fun mac => parse_eq_ok_iff.2 mac.exists_spelling, ?_⟩
  intro s mac hread
  obtain ⟨spelling, rfl, hoctets⟩ := parse_eq_ok_iff.1 hread
  have hlower : spelling.text.toLower.toList = spelling.text.toList.map Char.toLower :=
    String.toList_map
  rw [← String.toList_inj, String.toList_map, hlower, Spelling.text, String.toList_ofList,
    map_separated, text, String.toList_ofList, ← hoctets]
  rfl

/-- Digits of both cases and both separators may be mixed. -/
theorem parses_exactly_spellings_mixed :
    parse "AA-bb:cC-09:ee-0F" = .ok ⟨0xaa, 0xbb, 0xcc, 0x09, 0xee, 0x0f⟩ ∧
      (⟨0xaa, 0xbb, 0xcc, 0x09, 0xee, 0x0f⟩ : MacAddr).text =
        "AA-bb:cC-09:ee-0F".toLower.map colonForDash := by
  obtain ⟨hread, -, -, htext⟩ := parses_exactly_spellings
  have hok : parse "AA-bb:cC-09:ee-0F" = .ok ⟨0xaa, 0xbb, 0xcc, 0x09, 0xee, 0x0f⟩ := by
    refine (hread _ _).2 ⟨⟨⟨⟨10, true⟩, ⟨10, true⟩⟩, [(.dash, ⟨⟨11, false⟩, ⟨11, false⟩⟩),
      (.colon, ⟨⟨12, false⟩, ⟨12, true⟩⟩), (.dash, ⟨⟨0, false⟩, ⟨9, false⟩⟩),
      (.colon, ⟨⟨14, false⟩, ⟨14, false⟩⟩), (.dash, ⟨⟨0, false⟩, ⟨15, true⟩⟩)], rfl⟩, ?_, ?_⟩
    · rfl
    · rfl
  exact ⟨hok, htext _ _ hok⟩

/-- A number may have a sign, an octet may not. -/
example : Hex.number? (Hex.utf8 ['+', 'a']) = some 10 ∧
    parse "+a:bb:cc:dd:ee:ff" = .error ⟨"+a:bb:cc:dd:ee:ff"⟩ :=
  ⟨rfl, rfl⟩

end MacAddr

end HostNet
