import HostNet.Checksum

/-!
# Internet checksums as ones' complement sums

`HostNet.Checksum` adds up words in 64 bits and brings the carries back in loops.
Here the result is given by a formula, and what it means for a checksum to verify is
derived from that alone.

* `Checksum.wordSum` — the sum of the 16 bit words of a byte string, as a number.
* `Checksum.residue m n` — the number from 1 to `m` that is `n` modulo `m`, or zero for
  zero.
* `word_eq_or_of_residue_eq` — which words a residue does not tell from each other.
* `Checksum.AddsUp`, `Checksum.CarriesBack` — the loops in exact numbers, run to their ends, with
  a bound that no sum on the way reaches.
* `addWords_addsUp`, `narrow_carriesBack`, `fold_carriesBack` — so none of the loops overflows.
* `toNat_narrow`, `toNat_fold` — the last two loops are residues.
* `toNat_ofBytes` — the checksum of a byte string.
* `toNat_transport` — the checksum of a segment with its pseudo header.
* `ofBytes_eq_zero_iff`, `transport_eq_zero_iff` — what it means for a checksum to verify.
* `ofBytes_splice_eq_zero_iff` — which words in a place that was zero make the checksum of the
  whole zero; `ofBytes_splice_eq_zero` — the checksum is one of them.
* `ofBytes_eq_zero_iff_cleared`, `transport_eq_zero_iff_cleared` — a checksum verifies
  exactly if its field holds what comes out with that field cleared, in either of the two
  encodings of zero.

### Why residues and not remainders

A sum in ones' complement has two zeros.  Bringing carries back never turns a number
that is not zero into zero, so a multiple of `m` ends up as `m`; only where nothing but
zeros was added is the result zero.
-/

namespace HostNet.Checksum

/-! ### Sums of words -/

/-- The sum of the 16 bit words of a byte string, an odd last byte being a high byte. -/
def wordSum : Bytes → Nat
  | high :: low :: rest => (Word16.join high low).toNat + wordSum rest
  | [last] => (Word16.join last 0).toNat
  | [] => 0

/-- Spans of which the first has an even length can be summed one after the other; by
induction along the words of the first. -/
theorem wordSum_append (first second : Bytes) (heven : first.length % 2 = 0) :
    wordSum (first ++ second) = wordSum first + wordSum second := by
  fun_induction wordSum first with
  | case1 high low rest ih =>
      have hrest : rest.length % 2 = 0 := by
        simp only [List.length_cons] at heven
        omega
      simp only [List.cons_append, wordSum]
      rw [ih hrest, Nat.add_assoc]
  | case2 last => simp at heven
  | case3 => rw [List.nil_append, Nat.zero_add]

theorem wordSum_word (word : UInt16) : wordSum (Word16.bytes word) = word.toNat := by
  simp [Word16.bytes, wordSum]

theorem wordSum_word_append (word : UInt16) (rest : Bytes) :
    wordSum (Word16.bytes word ++ rest) = word.toNat + wordSum rest := by
  rw [wordSum_append _ _ (by rw [Word16.length_bytes]), wordSum_word]

theorem wordSum_le (bytes : Bytes) : wordSum bytes ≤ 65535 * ((bytes.length + 1) / 2) := by
  fun_induction wordSum bytes with
  | case1 high low rest ih =>
      have hword := (Word16.join high low).toNat_lt
      simp only [List.length_cons]
      omega
  | case2 last =>
      have hword := (Word16.join last 0).toNat_lt
      simp only [List.length_cons, List.length_nil]
      omega
  | case3 => exact Nat.zero_le _

/-- The words of a byte string are added to `sum` one after another, no sum on the way reaches
`limit`, and the last one is `total`. -/
inductive AddsUp (limit : Nat) : Bytes → Nat → Nat → Prop where
  | word {high low : UInt8} {rest : Bytes} {sum total : Nat}
      (fits : sum + (Word16.join high low).toNat < limit)
      (later : AddsUp limit rest (sum + (Word16.join high low).toNat) total) :
      AddsUp limit (high :: low :: rest) sum total
  | last {last : UInt8} {sum : Nat} (fits : sum + (Word16.join last 0).toNat < limit) :
      AddsUp limit [last] sum (sum + (Word16.join last 0).toNat)
  | done {sum : Nat} : AddsUp limit [] sum sum

theorem AddsUp.total_eq {limit sum total : Nat} {bytes : Bytes}
    (adds : AddsUp limit bytes sum total) : total = sum + wordSum bytes := by
  induction adds with
  | word fits later ih => rw [ih, wordSum, Nat.add_assoc]
  | last fits => rw [wordSum]
  | done => rw [wordSum, Nat.add_zero]

/-- **Adding up words does not overflow** as long as the sum fits into 64 bits. -/
theorem addWords_addsUp (bytes : Bytes) (sum : UInt64)
    (hfit : sum.toNat + wordSum bytes < 18446744073709551616) :
    AddsUp 18446744073709551616 bytes sum.toNat (addWords bytes sum).toNat := by
  have hadd {sum : UInt64} {word : UInt16} (hword : sum.toNat + word.toNat < 18446744073709551616) :
      (sum + word.toUInt64).toNat = sum.toNat + word.toNat := by
    rw [UInt64.toNat_add, UInt16.toNat_toUInt64]
    exact Nat.mod_eq_of_lt hword
  fun_induction addWords bytes sum with
  | case1 high low rest sum ih =>
      rw [wordSum] at hfit
      have hword : sum.toNat + (Word16.join high low).toNat < 18446744073709551616 := by omega
      have hlater := ih (by rw [hadd hword]; omega)
      rw [hadd hword] at hlater
      exact .word hword hlater
  | case2 last sum =>
      rw [wordSum] at hfit
      rw [hadd hfit]
      exact .last hfit
  | case3 sum => exact .done

theorem toNat_addWords (bytes : Bytes) (sum : UInt64)
    (hfit : sum.toNat + wordSum bytes < 18446744073709551616) :
    (addWords bytes sum).toNat = sum.toNat + wordSum bytes :=
  (addWords_addsUp bytes sum hfit).total_eq

/-! ### Residues -/

/-- The number from 1 to `m` that is `n` modulo `m`, or zero for zero. -/
def residue (m n : Nat) : Nat := if n = 0 then 0 else 1 + (n - 1) % m

theorem residue_of_le {m n : Nat} (hle : n ≤ m) : residue m n = n := by
  unfold residue
  split
  · omega
  · rw [Nat.mod_eq_of_lt (by omega)]
    omega

theorem residue_le (m n : Nat) (hm : 0 < m) : residue m n ≤ m := by
  have hlt := Nat.mod_lt (n - 1) hm
  unfold residue
  split
  · omega
  · omega

theorem residue_add_mul (m n k : Nat) (hn : n ≠ 0) : residue m (n + k * m) = residue m n := by
  unfold residue
  rw [if_neg hn, if_neg (by omega), show n + k * m - 1 = (n - 1) + k * m by omega,
    Nat.add_mul_mod_self_right]

/-- **Bringing the carries back** does not change a residue. -/
theorem residue_carry (m n : Nat) : residue m (n % (m + 1) + n / (m + 1)) = residue m n := by
  by_cases hn : n = 0
  · rw [hn, Nat.zero_mod, Nat.zero_div]
  · have hsum : n % (m + 1) + n / (m + 1) + n / (m + 1) * m = n := by
      have hdiv := Nat.mod_add_div n (m + 1)
      rw [Nat.succ_mul] at hdiv
      rw [Nat.mul_comm (n / (m + 1)) m]
      omega
    have hne : n % (m + 1) + n / (m + 1) ≠ 0 := by
      intro hzero
      have hdiv := Nat.mod_add_div n (m + 1)
      rw [(Nat.add_eq_zero_iff.1 hzero).1, (Nat.add_eq_zero_iff.1 hzero).2] at hdiv
      exact hn hdiv.symm
    rw [← residue_add_mul m _ (n / (m + 1)) hne, hsum]

/-- A number differs from its residue by a multiple of the modulus. -/
theorem exists_eq_residue_add_mul (m n : Nat) : ∃ k, n = residue m n + k * m := by
  unfold residue
  split
  · exact ⟨0, by omega⟩
  · refine ⟨(n - 1) / m, ?_⟩
    have hdiv := Nat.mod_add_div (n - 1) m
    rw [Nat.mul_comm m] at hdiv
    omega

theorem residue_eq_zero_iff (m n : Nat) : residue m n = 0 ↔ n = 0 := by
  unfold residue
  split
  · omega
  · omega

/-- **A word is told from its residue** when added to any number, but for the two that are
multiples of the modulus. -/
theorem word_eq_or_of_residue_eq {n a b : Nat} (ha : a ≤ 65535) (hb : b ≤ 65535)
    (hsame : residue 65535 (n + a) = residue 65535 (n + b)) :
    a = b ∨ a = 0 ∧ b = 65535 ∨ a = 65535 ∧ b = 0 := by
  obtain ⟨j, hj⟩ := exists_eq_residue_add_mul 65535 (n + a)
  obtain ⟨k, hk⟩ := exists_eq_residue_add_mul 65535 (n + b)
  rw [hsame] at hj
  omega

/-- A residue for a multiple of the modulus may be taken before a sum. -/
theorem residue_add_residue (m k a b : Nat) :
    residue m (residue (k * m) a + b) = residue m (a + b) := by
  obtain ⟨j, hj⟩ := exists_eq_residue_add_mul (k * m) a
  by_cases ha : a = 0
  · rw [ha, (residue_eq_zero_iff _ 0).2 rfl]
  · -- The sum is not zero on either side, so that a multiple of `m` more does not show.
    have hne : residue (k * m) a + b ≠ 0 := by
      have := mt (residue_eq_zero_iff (k * m) a).1 ha
      omega
    have hsum : a + b = residue (k * m) a + b + j * k * m := by
      rw [Nat.mul_assoc]
      omega
    rw [hsum, residue_add_mul _ _ _ hne]

/-- A sum may be brought to 32 bits before it is brought to 16. -/
theorem residue_residue (n : Nat) : residue 65535 (residue 4294967295 n) = residue 65535 n :=
  residue_add_residue 65535 65537 n 0

/-- **The words that make a residue all ones** when added to a number: the complement of its
residue, and all ones if it has a residue of all ones itself. -/
theorem residue_add_eq_iff (n : Nat) {word : Nat} (hword : word ≤ 65535) :
    residue 65535 (n + word) = 65535 ↔
      word = 65535 - residue 65535 n ∨ residue 65535 n = 65535 ∧ word = 65535 := by
  have hle := residue_le 65535 n (by decide)
  have hsum : residue 65535 (n + word) = residue 65535 (residue 65535 n + word) :=
    (residue_add_residue 65535 1 n word).symm
  rw [hsum]
  by_cases hcarry : residue 65535 n + word ≤ 65535
  · rw [residue_of_le hcarry]
    omega
  · -- The sum is less than twice the modulus, so that one carry is brought back.
    have hback : residue 65535 n + word = residue 65535 n + word - 65535 + 1 * 65535 := by omega
    rw [hback, residue_add_mul _ _ _ (by omega), residue_of_le (by omega)]
    omega

/-! ### The two loops -/

/-- What `sum` has above `low` is added to the rest of it until there is nothing above, no sum on
the way reaches `limit`, and the last one is `result`. -/
inductive CarriesBack (low limit : Nat) : Nat → Nat → Prop where
  | done {sum : Nat} (hlow : sum < low) : CarriesBack low limit sum sum
  | carry {sum result : Nat} (hlow : low ≤ sum) (fits : sum % low + sum / low < limit)
      (later : CarriesBack low limit (sum % low + sum / low) result) :
      CarriesBack low limit sum result

/-- By induction along the loop, which each time brings the carries back. -/
theorem CarriesBack.result_eq {m limit sum result : Nat}
    (carries : CarriesBack (m + 1) limit sum result) : result = residue m sum := by
  induction carries with
  | done hlow => exact (residue_of_le (Nat.lt_succ_iff.1 hlow)).symm
  | carry hlow fits later ih => rw [ih, residue_carry]

/-- **A sum is brought to 32 bits** without an overflow. -/
theorem narrow_carriesBack (sum : UInt64) :
    CarriesBack 4294967296 18446744073709551616 sum.toNat (narrow sum).toNat := by
  fun_induction narrow sum with
  | case1 sum hlt =>
      have hlow : sum.toNat < 4294967296 := by simpa [UInt64.lt_iff_toNat_lt] using hlt
      rw [UInt64.toNat_toUInt32, Nat.mod_eq_of_lt hlow]
      exact .done hlow
  | case2 sum hge ih =>
      have hlt := sum.toNat_lt
      have hlow : 4294967296 ≤ sum.toNat := by simpa [UInt64.lt_iff_toNat_lt] using hge
      have hfits : sum.toNat % 4294967296 + sum.toNat / 4294967296 < 18446744073709551616 := by
        omega
      have hcarry : (sum % 0x100000000 + sum / 0x100000000).toNat =
          sum.toNat % 4294967296 + sum.toNat / 4294967296 := by
        rw [UInt64.toNat_add, UInt64.toNat_mod, UInt64.toNat_div]
        exact Nat.mod_eq_of_lt hfits
      rw [hcarry] at ih
      exact .carry hlow hfits ih

/-- **A running sum is brought to 16 bits** without an overflow; the checksum is the complement
of what comes out. -/
theorem fold_carriesBack (sum : UInt32) :
    CarriesBack 65536 4294967296 sum.toNat (~~~fold sum).toNat := by
  fun_induction fold sum with
  | case1 sum hlt =>
      have hlow : sum.toNat < 65536 := by simpa [UInt32.lt_iff_toNat_lt] using hlt
      rw [UInt16.not_not, UInt32.toNat_toUInt16, Nat.mod_eq_of_lt hlow]
      exact .done hlow
  | case2 sum hge ih =>
      have hlt := sum.toNat_lt
      have hlow : 65536 ≤ sum.toNat := by simpa [UInt32.lt_iff_toNat_lt] using hge
      have hfits : sum.toNat % 65536 + sum.toNat / 65536 < 4294967296 := by omega
      have hcarry : (sum % 0x10000 + sum / 0x10000).toNat =
          sum.toNat % 65536 + sum.toNat / 65536 := by
        rw [UInt32.toNat_add, UInt32.toNat_mod, UInt32.toNat_div]
        exact Nat.mod_eq_of_lt hfits
      rw [hcarry] at ih
      exact .carry hlow hfits ih

/-- A sum in 32 bits is the residue of the sum in 64 bits. -/
theorem toNat_narrow (sum : UInt64) : (narrow sum).toNat = residue 4294967295 sum.toNat :=
  (narrow_carriesBack sum).result_eq

/-- A checksum is the complement of the residue of the sum. -/
theorem toNat_fold (sum : UInt32) : (fold sum).toNat = 65535 - residue 65535 sum.toNat := by
  have hnot := (fold_carriesBack sum).result_eq
  have hlt := (fold sum).toNat_lt
  rw [UInt16.toNat_not] at hnot
  simp only [UInt16.size] at hnot
  omega

/-- A running sum is the residue of all that was added, if that fits into 64 bits. -/
theorem toNat_extend_of_lt (bytes : Bytes) (sum : UInt32)
    (hfit : sum.toNat + wordSum bytes < 18446744073709551616) :
    (extend bytes sum).toNat = residue 4294967295 (sum.toNat + wordSum bytes) := by
  rw [extend, toNat_narrow, toNat_addWords bytes sum.toUInt64 hfit, UInt32.toNat_toUInt64]

theorem toNat_extend (bytes : Bytes) (sum : UInt32) (hshort : bytes.length < 281474976710656) :
    (extend bytes sum).toNat = residue 4294967295 (sum.toNat + wordSum bytes) := by
  have hsum := sum.toNat_lt
  have hwords := wordSum_le bytes
  exact toNat_extend_of_lt bytes sum (by omega)

/-- **The checksum of a byte string**, as a formula. -/
theorem toNat_ofBytes (bytes : Bytes) (hshort : bytes.length < 281474976710656) :
    (ofBytes bytes).toNat = 65535 - residue 65535 (wordSum bytes) := by
  have hextend := toNat_extend bytes 0 hshort
  rw [UInt32.toNat_zero, Nat.zero_add] at hextend
  rw [ofBytes, toNat_fold, hextend, residue_residue]

/-- **The checksum of a segment with its pseudo header**, as a formula. -/
theorem toNat_transport (protocol : UInt8) (segment : Bytes) (source destination : Ipv4Addr)
    (hshort : segment.length < 281474976710656) :
    (transport protocol segment source destination).toNat = 65535 - residue 65535
      (wordSum (pseudoHeader protocol source destination segment.length.toUInt16) +
        wordSum segment) := by
  have hpseudo := toNat_extend
    (pseudoHeader protocol source destination segment.length.toUInt16) 0 (by
      rw [length_pseudoHeader]
      decide)
  have hwords := wordSum_le (pseudoHeader protocol source destination segment.length.toUInt16)
  rw [length_pseudoHeader, pseudoHeaderLength] at hwords
  rw [UInt32.toNat_zero, Nat.zero_add, residue_of_le (by omega)] at hpseudo
  rw [transport, toNat_fold, toNat_extend segment _ hshort, hpseudo, residue_residue]

/-! ### Checksums that verify -/

/-- **A checksum verifies** where the words add up to a multiple of 65535 that is not
zero. -/
theorem ofBytes_eq_zero_iff (bytes : Bytes) (hshort : bytes.length < 281474976710656) :
    ofBytes bytes = 0 ↔ residue 65535 (wordSum bytes) = 65535 := by
  have hle := residue_le 65535 (wordSum bytes) (by decide)
  rw [← UInt16.toNat_inj, toNat_ofBytes bytes hshort, UInt16.toNat_zero]
  omega

/-- **The checksum of a segment verifies** where its words and those of its pseudo header add
up to such a multiple. -/
theorem transport_eq_zero_iff (protocol : UInt8) (segment : Bytes)
    (source destination : Ipv4Addr) (hshort : segment.length < 281474976710656) :
    transport protocol segment source destination = 0 ↔
      residue 65535
        (wordSum (pseudoHeader protocol source destination segment.length.toUInt16) +
          wordSum segment) = 65535 := by
  have hle := residue_le 65535 (wordSum (pseudoHeader protocol source destination
    segment.length.toUInt16) + wordSum segment) (by decide)
  rw [← UInt16.toNat_inj, toNat_transport protocol segment source destination hshort,
    UInt16.toNat_zero]
  omega

/-- Of the words that make a residue all ones, one is the checksum. -/
theorem residue_add_word_eq_iff {n : Nat} {check : UInt16} (word : UInt16)
    (hcheck : check.toNat = 65535 - residue 65535 n) :
    residue 65535 (n + word.toNat) = 65535 ↔ word = check ∨ check = 0 ∧ word = 0xffff := by
  have hlt := word.toNat_lt
  have hle := residue_le 65535 n (by decide)
  rw [residue_add_eq_iff n (by omega), ← UInt16.toNat_inj, ← UInt16.toNat_inj,
    ← UInt16.toNat_inj, hcheck]
  simp only [UInt16.reduceToNat, UInt16.toNat_zero]
  omega

/-- A word written over another at an even place takes its place in the sum. -/
theorem wordSum_splice (bytes : Bytes) (place : Nat) (old word : UInt16) (heven : place % 2 = 0)
    (hold : (bytes.drop place).take 2 = Word16.bytes old) :
    wordSum (bytes.splice place (Word16.bytes word)) + old.toNat =
      wordSum bytes + word.toNat := by
  have hlength : ((bytes.drop place).take 2).length = 2 := by rw [hold, Word16.length_bytes]
  rw [List.length_take, List.length_drop] at hlength
  have htake : (bytes.take place).length % 2 = 0 := by
    rw [List.length_take, Nat.min_eq_left (by omega)]
    exact heven
  -- The word stands between two spans, the first of which has an even length.
  have hbytes : bytes =
      bytes.take place ++ (Word16.bytes old ++ bytes.drop (place + 2)) := by
    rw [← hold, ← List.drop_drop, List.take_append_drop, List.take_append_drop]
  have hsum : wordSum bytes =
      wordSum (bytes.take place) + (old.toNat + wordSum (bytes.drop (place + 2))) := by
    refine (congrArg wordSum hbytes).trans ?_
    rw [wordSum_append _ _ htake, wordSum_word_append]
  rw [Bytes.splice, wordSum_append _ _ htake, wordSum_word_append, hsum, Word16.length_bytes]
  omega

/-- **The words that make a checksum verify** when written into a zeroed place: the checksum, and
all ones if that is zero. -/
theorem ofBytes_splice_eq_zero_iff (bytes : Bytes) (place : Nat) (word : UInt16)
    (heven : place % 2 = 0) (hzero : (bytes.drop place).take 2 = Word16.bytes 0)
    (hshort : bytes.length < 281474976710656) :
    ofBytes (bytes.splice place (Word16.bytes word)) = 0 ↔
      word = ofBytes bytes ∨ ofBytes bytes = 0 ∧ word = 0xffff := by
  have hlength : ((bytes.drop place).take 2).length = 2 := by rw [hzero, Word16.length_bytes]
  rw [List.length_take, List.length_drop] at hlength
  have hsame : (bytes.splice place (Word16.bytes word)).length = bytes.length := by
    rw [Bytes.length_splice _ _ _ (by omega), Word16.length_bytes]
    omega
  have hsum := wordSum_splice bytes place 0 word heven hzero
  rw [UInt16.toNat_zero, Nat.add_zero] at hsum
  rw [ofBytes_eq_zero_iff _ (by rw [hsame]; exact hshort), hsum]
  exact residue_add_word_eq_iff word (toNat_ofBytes bytes hshort)

/-- **A checksum in its place** makes the checksum of the whole zero. -/
theorem ofBytes_splice_eq_zero (bytes : Bytes) (place : Nat) (heven : place % 2 = 0)
    (hzero : (bytes.drop place).take 2 = Word16.bytes 0)
    (hshort : bytes.length < 281474976710656) :
    ofBytes (bytes.splice place (Word16.bytes (ofBytes bytes))) = 0 :=
  (ofBytes_splice_eq_zero_iff bytes place _ heven hzero hshort).2 (.inl rfl)

/-! ### Checksums with their field cleared -/

theorem wordSum_ne_zero {first : UInt8} (hfirst : first ≠ 0) (rest : Bytes) :
    wordSum (first :: rest) ≠ 0 := by
  have hne : first.toNat ≠ 0 := fun hzero => hfirst (UInt8.toNat_inj.1 hzero)
  cases rest with
  | nil =>
      simp only [wordSum, Word16.toNat_join]
      omega
  | cons second rest =>
      simp only [wordSum, Word16.toNat_join]
      omega

/-- Clearing a word takes it out of the sum. -/
theorem wordSum_clear (bytes : Bytes) (place : Nat) (check : UInt16) (heven : place % 2 = 0)
    (hfield : (bytes.drop place).take 2 = Word16.bytes check) :
    wordSum bytes = wordSum (bytes.splice place (Bytes.zeros 2)) + check.toNat := by
  have hsum := wordSum_splice bytes place check 0 heven hfield
  rw [UInt16.toNat_zero, Nat.add_zero] at hsum
  exact hsum.symm

/-- Clearing a word that is there does not change the length. -/
theorem length_clear (bytes : Bytes) (place : Nat) (check : UInt16)
    (hfield : (bytes.drop place).take 2 = Word16.bytes check) :
    (bytes.splice place (Bytes.zeros 2)).length = bytes.length := by
  have hlength : ((bytes.drop place).take 2).length = 2 := by rw [hfield, Word16.length_bytes]
  rw [List.length_take, List.length_drop] at hlength
  rw [Bytes.length_splice _ _ _ (by omega), Bytes.length_zeros]
  omega

/-- **A checksum verifies exactly if** its field holds the checksum of the bytes with that
field cleared, or all ones where that checksum is zero. -/
theorem ofBytes_eq_zero_iff_cleared (bytes : Bytes) (place : Nat) (check : UInt16)
    (heven : place % 2 = 0) (hfield : (bytes.drop place).take 2 = Word16.bytes check)
    (hshort : bytes.length < 281474976710656) :
    ofBytes bytes = 0 ↔
      check = ofBytes (bytes.splice place (Bytes.zeros 2)) ∨
        ofBytes (bytes.splice place (Bytes.zeros 2)) = 0 ∧ check = 0xffff := by
  have hcleared := toNat_ofBytes (bytes.splice place (Bytes.zeros 2)) (by
    rw [length_clear bytes place check hfield]
    exact hshort)
  rw [ofBytes_eq_zero_iff bytes hshort, wordSum_clear bytes place check heven hfield]
  exact residue_add_word_eq_iff check hcleared

/-- A checksum is all ones only for nothing but zeros. -/
theorem ofBytes_ne_ones {bytes : Bytes} (hne : wordSum bytes ≠ 0)
    (hshort : bytes.length < 281474976710656) : ofBytes bytes ≠ 0xffff := by
  intro hones
  have hresidue := mt (residue_eq_zero_iff 65535 (wordSum bytes)).1 hne
  have hformula := toNat_ofBytes bytes hshort
  rw [hones] at hformula
  simp only [UInt16.reduceToNat] at hformula
  omega

/-- **The checksum of a segment verifies exactly if** its field holds what comes out with
that field cleared, or all ones where that is zero. -/
theorem transport_eq_zero_iff_cleared (protocol : UInt8) (segment : Bytes) (place : Nat)
    (check : UInt16) (source destination : Ipv4Addr)
    (heven : place % 2 = 0) (hfield : (segment.drop place).take 2 = Word16.bytes check)
    (hshort : segment.length < 281474976710656) :
    transport protocol segment source destination = 0 ↔
      check = transport protocol (segment.splice place (Bytes.zeros 2)) source destination ∨
        transport protocol (segment.splice place (Bytes.zeros 2)) source destination = 0 ∧
          check = 0xffff := by
  have hlength := length_clear segment place check hfield
  have hcleared := toNat_transport protocol (segment.splice place (Bytes.zeros 2)) source
    destination (by rw [hlength]; exact hshort)
  rw [hlength] at hcleared
  rw [transport_eq_zero_iff protocol segment source destination hshort,
    wordSum_clear segment place check heven hfield, ← Nat.add_assoc]
  exact residue_add_word_eq_iff check hcleared

end HostNet.Checksum
