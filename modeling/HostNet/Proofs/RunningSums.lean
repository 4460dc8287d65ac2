import HostNet.Proofs.Checksum

/-!
# Running sums

A checksum may be taken over several byte strings in turn, with a running sum of 32 bits handed
from one to the next, and it is written into a place among the bytes that it covers.  This file
says what both come to for bytes of any kind.

* `extend_append`, `foldl_extend` — a running sum does not depend on how the bytes are divided.
* `running_sum_exact` — what a running sum folds to, from any sum to start with, and that no loop
  overflows on the way.
* `embedded_checksum_verifies_iff` — the words that make a sum verify in the place of a checksum.

### How long the bytes may be

A word is less than 2¹⁶, so that 2⁴⁸ of them and a sum of 32 bits still fit into 64 bits.  So
much may be added up in one go, which is all that a division into spans is compared with.
-/

namespace HostNet.Checksum

/-- What is added up of fewer than 2⁴⁹ bytes fits into 64 bits. -/
theorem sum_lt_of_length_lt (bytes : Bytes) (sum : UInt32)
    (hshort : bytes.length < 562949953421312) :
    sum.toNat + wordSum bytes < 18446744073709551616 := by
  have hsum := sum.toNat_lt
  have hwords := wordSum_le bytes
  omega

/-- **Spans can be summed one after the other**, if the first has an even length. -/
theorem extend_append (first second : Bytes) (sum : UInt32) (heven : first.length % 2 = 0)
    (hshort : first.length + second.length < 562949953421312) :
    extend (first ++ second) sum = extend second (extend first sum) := by
  have hfirst := toNat_extend_of_lt first sum (sum_lt_of_length_lt first sum (by omega))
  have hsecond := toNat_extend_of_lt second (extend first sum)
    (sum_lt_of_length_lt second _ (by omega))
  have hwhole := toNat_extend_of_lt (first ++ second) sum
    (sum_lt_of_length_lt _ sum (by rw [List.length_append]; exact hshort))
  rw [wordSum_append first second heven, ← Nat.add_assoc] at hwhole
  -- The sum of the first span was brought to 32 bits, which no residue sees later.
  rw [hfirst, residue_add_residue 4294967295 1] at hsecond
  exact UInt32.toNat_inj.1 (hwhole.trans hsecond.symm)

/-- **Any number of spans**, by induction on them: all but the last have an even length. -/
theorem foldl_extend (spans : List Bytes) (sum : UInt32)
    (heven : ∀ span ∈ spans.dropLast, span.length % 2 = 0)
    (hshort : spans.flatten.length < 562949953421312) :
    spans.foldl (fun sum span => extend span sum) sum = extend spans.flatten sum := by
  induction spans generalizing sum with
  | nil =>
      have hnothing := toNat_extend_of_lt [] sum (sum_lt_of_length_lt [] sum (by decide))
      rw [wordSum, Nat.add_zero, residue_of_le (Nat.lt_succ_iff.1 sum.toNat_lt)] at hnothing
      exact (UInt32.toNat_inj.1 hnothing).symm
  | cons span rest ih =>
      cases rest with
      | nil => rw [List.flatten_singleton, List.foldl_cons, List.foldl_nil]
      | cons next rest =>
          rw [List.flatten_cons, List.length_append] at hshort
          have hspan := heven span List.mem_cons_self
          have hrest := ih (extend span sum) (fun s hs => heven s (List.mem_cons_of_mem _ hs))
            (by omega)
          rw [List.foldl_cons, hrest]
          exact (extend_append span (next :: rest).flatten sum hspan hshort).symm

/-- **A running sum is exact.**  Take bytes, fewer than 2⁴⁸, and any running sum to start with.
The words are added up without an overflow of 64 bits, the carries are brought back to 32 bits
without one of 64 and to 16 bits without one of 32, and each of these loops ends.  With `total`
the number that all of it adds up to, the checksum is all ones if that is zero, and the complement
of the number from 1 to 65535 that is `total` modulo 65535 otherwise.

The running sum over one byte string of even length and then another is that over both, bit by
bit, and so it is for any spans of which all but the last have an even length. -/
theorem running_sum_exact :
    (∀ (bytes : Bytes) (seed : UInt32), bytes.length < 281474976710656 →
      let total := seed.toNat + wordSum bytes
      AddsUp 18446744073709551616 bytes seed.toNat total ∧
        CarriesBack 4294967296 18446744073709551616 total (extend bytes seed).toNat ∧
        CarriesBack 65536 4294967296 (extend bytes seed).toNat
          (~~~fold (extend bytes seed)).toNat ∧
        (fold (extend bytes seed)).toNat =
          if total = 0 then 65535 else 65535 - (1 + (total - 1) % 65535)) ∧
    (∀ (first second : Bytes) (seed : UInt32), first.length % 2 = 0 →
      first.length + second.length < 562949953421312 →
      extend (first ++ second) seed = extend second (extend first seed)) ∧
    ∀ (spans : List Bytes) (seed : UInt32), (∀ span ∈ spans.dropLast, span.length % 2 = 0) →
      spans.flatten.length < 562949953421312 →
      spans.foldl (fun sum span => extend span sum) seed = extend spans.flatten seed := by
  refine ⟨fun bytes seed hshort => ?_, fun first second seed => extend_append first second seed,
    fun spans seed => foldl_extend spans seed⟩
  intro total
  have hfit : seed.toUInt64.toNat + wordSum bytes < 18446744073709551616 :=
    sum_lt_of_length_lt bytes seed (Nat.lt_trans hshort (by decide))
  have htotal : (addWords bytes seed.toUInt64).toNat = total := toNat_addWords bytes _ hfit
  have hadds := addWords_addsUp bytes seed.toUInt64 hfit
  have hnarrow := narrow_carriesBack (addWords bytes seed.toUInt64)
  rw [htotal] at hadds hnarrow
  refine ⟨hadds, hnarrow, fold_carriesBack _, ?_⟩
  rw [toNat_fold, toNat_extend_of_lt bytes seed hfit, residue_residue, residue]
  split
  · rfl
  · rfl

/-- Three bytes after a sum of 32 ones, so that a carry is brought back from 64 bits, and the same
in two spans. -/
theorem running_sum_exact_with_carry :
    CarriesBack 4294967296 18446744073709551616 4295033086
        (extend [0xff, 0xff, 1] 0xffffffff).toNat ∧
      fold (extend [0xff, 0xff, 1] 0xffffffff) = 0xfeff ∧
      extend ([0xff, 0xff] ++ [1]) 0xffffffff = extend [1] (extend [0xff, 0xff] 0xffffffff) ∧
      [[0xff, 0xff], [1]].foldl (fun sum span => extend span sum) 0xffffffff =
        extend [0xff, 0xff, 1] 0xffffffff := by
  obtain ⟨hexact, happend, hspans⟩ := running_sum_exact
  obtain ⟨-, hnarrow, -, hfold⟩ := hexact [0xff, 0xff, 1] 0xffffffff (by decide)
  exact ⟨hnarrow, UInt16.toNat_inj.1 hfold, happend [0xff, 0xff] [1] _ (by decide) (by decide),
    hspans [[0xff, 0xff], [1]] _ (by decide) (by decide)⟩

/-- **Which words are checksums.**  In bytes, fewer than 2⁴⁸ and of any number, take two at an
even place that are zero.  A word written there makes the checksum of the whole zero exactly if it
is the checksum of the bytes as they were, or if that is zero and the word is all ones.  So the
checksum itself always does, also where all the bytes are zero and where it is zero. -/
theorem embedded_checksum_verifies_iff (bytes : Bytes) (place : Nat) (heven : place % 2 = 0)
    (hzero : (bytes.drop place).take 2 = [0, 0]) (hshort : bytes.length < 281474976710656) :
    (∀ word : UInt16, ofBytes (bytes.splice place (Word16.bytes word)) = 0 ↔
      word = ofBytes bytes ∨ ofBytes bytes = 0 ∧ word = 0xffff) ∧
    ofBytes (bytes.splice place (Word16.bytes (ofBytes bytes))) = 0 :=
  ⟨fun word => ofBytes_splice_eq_zero_iff bytes place word heven hzero hshort,
    ofBytes_splice_eq_zero bytes place heven hzero hshort⟩

/-- Of three zero bytes all ones are the checksum, and nothing else verifies.  Behind a word of all
ones the checksum is zero, and all ones verify as well. -/
theorem embedded_checksum_verifies_iff_of_zeros :
    (∀ word : UInt16, ofBytes (Word16.bytes word ++ [0]) = 0 ↔ word = 0xffff) ∧
      ∀ word : UInt16,
        ofBytes ([0xff, 0xff] ++ Word16.bytes word) = 0 ↔ word = 0 ∨ word = 0xffff := by
  have hzeros : ofBytes [0, 0, 0] = 0xffff :=
    UInt16.toNat_inj.1 ((toNat_ofBytes [0, 0, 0] (by decide)).trans (by decide))
  have hones : ofBytes [0xff, 0xff, 0, 0] = 0 :=
    UInt16.toNat_inj.1 ((toNat_ofBytes [0xff, 0xff, 0, 0] (by decide)).trans (by decide))
  constructor
  · intro word
    have hiff := (embedded_checksum_verifies_iff [0, 0, 0] 0 rfl rfl (by decide)).1 word
    rw [hzeros] at hiff
    exact hiff.trans (or_iff_left fun h => absurd h.1 (by decide))
  · intro word
    have hiff := (embedded_checksum_verifies_iff [0xff, 0xff, 0, 0] 2 rfl rfl (by decide)).1 word
    rw [hones] at hiff
    exact hiff.trans (or_congr_right (and_iff_right rfl))

end HostNet.Checksum
