import HostNet.Proofs.Acceptance

/-!
# A corrupted word does not get through

A host that receives a packet in which one word of 16 bits differs from what was sent drops
it, as long as that word is covered by a checksum.  This is about packets that the host would
accept if they were not changed, and about a change of any word but those that say how much
the checksum covers.

* `Bytes.ChangedAt` — byte strings that differ in the word at one place.
* `ChangedAt.areZeros` — their sums can only agree if the word changed from one encoding of
  zero to the other.
* `Ipv4Valid.not_of_changedAt`, `UdpValid.refused_of_changedAt` — so that what was valid is
  not any more.
* `corrupted_word_dropped` — what a host does with such a packet, and with such a datagram.

### The two encodings of zero

All ones stand for zero as well in a ones' complement sum, which does not tell a word that
changed from the one to the other.  Such a change is left out here, but for that of a check
field: the one of an IPv4 packet is never all ones, and the one of a datagram says with a zero
that there is no checksum.
-/

namespace HostNet

/-! ### Changes of one word -/

namespace Checksum

/-- The two encodings of zero in ones' complement, in either order. -/
def AreZeros (a b : UInt16) : Prop := a = 0 ∧ b = 0xffff ∨ a = 0xffff ∧ b = 0

instance (a b : UInt16) : Decidable (AreZeros a b) :=
  inferInstanceAs (Decidable (a = 0 ∧ b = 0xffff ∨ a = 0xffff ∧ b = 0))

/-- The sum of the words is that of the first one and of those behind it. -/
theorem wordSum_eq_wordAt_add (bytes : Bytes) (hne : bytes ≠ []) :
    wordSum bytes = (bytes.wordAt 0).toNat + wordSum (bytes.drop 2) := by
  match bytes with
  | [] => exact absurd rfl hne
  | [last] => rfl
  | high :: low :: rest => rfl

/-- The sum of the words is that of the word at some place and of those around it. -/
theorem wordSum_split (bytes : Bytes) {place : Nat} (haligned : place % 2 = 0)
    (hinside : place < bytes.length) :
    wordSum bytes =
      wordSum (bytes.take place) + wordSum (bytes.drop (place + 2)) +
        (bytes.wordAt place).toNat := by
  have htake : (bytes.take place).length = place := List.length_take_of_le (by omega)
  have hne : bytes.drop place ≠ [] := by
    rw [Ne, List.drop_eq_nil_iff]
    omega
  have hsum := wordSum_append (bytes.take place) (bytes.drop place)
    (by rw [htake]; exact haligned)
  rw [List.take_append_drop, wordSum_eq_wordAt_add _ hne, Bytes.wordAt_drop, List.drop_drop]
    at hsum
  rw [hsum, Nat.add_zero]
  omega

end Checksum

namespace Bytes

/-- **One word is changed**, from `w` to `w'`, and everything else is the same.  If it starts
at the last byte its low byte is zero, since nothing is there. -/
structure ChangedAt (place : Nat) (w w' : UInt16) (bytes changed : Bytes) : Prop where
  aligned : place % 2 = 0
  inside : place < bytes.length
  length : changed.length = bytes.length
  before : changed.take place = bytes.take place
  behind : changed.drop (place + 2) = bytes.drop (place + 2)
  old : bytes.wordAt place = w
  new : changed.wordAt place = w'

instance (place : Nat) (w w' : UInt16) (bytes changed : Bytes) :
    Decidable (ChangedAt place w w' bytes changed) :=
  decidable_of_iff
    (place % 2 = 0 ∧ place < bytes.length ∧ changed.length = bytes.length ∧
      changed.take place = bytes.take place ∧
      changed.drop (place + 2) = bytes.drop (place + 2) ∧
      bytes.wordAt place = w ∧ changed.wordAt place = w')
    ⟨fun ⟨haligned, hinside, hlength, hbefore, hbehind, hold, hnew⟩ =>
        ⟨haligned, hinside, hlength, hbefore, hbehind, hold, hnew⟩,
      fun c => ⟨c.aligned, c.inside, c.length, c.before, c.behind, c.old, c.new⟩⟩

namespace ChangedAt

variable {place : Nat} {w w' : UInt16} {bytes changed : Bytes}

/-- What is around the word that is changed adds the same to both sums. -/
theorem wordSum_eq (c : ChangedAt place w w' bytes changed) :
    ∃ around, Checksum.wordSum bytes = around + w.toNat ∧
      Checksum.wordSum changed = around + w'.toNat := by
  have hbytes := Checksum.wordSum_split bytes c.aligned c.inside
  have hchanged := Checksum.wordSum_split changed c.aligned (by rw [c.length]; exact c.inside)
  rw [c.old] at hbytes
  rw [c.before, c.behind, c.new] at hchanged
  exact ⟨_, hbytes, hchanged⟩

/-- **Sums that agree** although a word was changed: it changed from one encoding of zero to
the other. -/
theorem areZeros (c : ChangedAt place w w' bytes changed) (hne : w ≠ w') {n : Nat}
    (hsame : Checksum.residue 65535 (n + Checksum.wordSum bytes) =
      Checksum.residue 65535 (n + Checksum.wordSum changed)) : Checksum.AreZeros w w' := by
  obtain ⟨around, hbytes, hchanged⟩ := c.wordSum_eq
  have hw := w.toNat_lt
  have hw' := w'.toNat_lt
  rw [hbytes, hchanged, ← Nat.add_assoc, ← Nat.add_assoc] at hsame
  have hwords := Checksum.word_eq_or_of_residue_eq (by omega) (by omega) hsame
  rw [UInt16.toNat_inj] at hwords
  rw [Checksum.AreZeros, ← UInt16.toNat_inj, ← UInt16.toNat_inj, ← UInt16.toNat_inj,
    ← UInt16.toNat_inj]
  exact hwords.resolve_left hne

/-- A checksum that verifies before and after the change. -/
theorem areZeros_of_ofBytes (c : ChangedAt place w w' bytes changed) (hne : w ≠ w')
    (hshort : bytes.length < 281474976710656) (hsum : Checksum.ofBytes bytes = 0)
    (hsum' : Checksum.ofBytes changed = 0) : Checksum.AreZeros w w' := by
  rw [Checksum.ofBytes_eq_zero_iff _ hshort] at hsum
  rw [Checksum.ofBytes_eq_zero_iff _ (by rw [c.length]; exact hshort)] at hsum'
  refine c.areZeros hne (n := 0) ?_
  rw [Nat.zero_add, Nat.zero_add, hsum, hsum']

/-- A checksum with a pseudo header that verifies before and after the change. -/
theorem areZeros_of_transport (c : ChangedAt place w w' bytes changed) (hne : w ≠ w')
    (hshort : bytes.length < 281474976710656) {protocol : UInt8} {source destination : Ipv4Addr}
    (hsum : Checksum.transport protocol bytes source destination = 0)
    (hsum' : Checksum.transport protocol changed source destination = 0) :
    Checksum.AreZeros w w' := by
  rw [Checksum.transport_eq_zero_iff _ _ _ _ hshort] at hsum
  rw [Checksum.transport_eq_zero_iff _ _ _ _ (by rw [c.length]; exact hshort), c.length] at hsum'
  exact c.areZeros hne (hsum.trans hsum'.symm)

/-- Where the fronts of two byte strings differ in one word, all their other words are the
same. -/
theorem wordAt_of_ne {size : Nat}
    (c : ChangedAt place w w' (bytes.take size) (changed.take size)) (other : Nat)
    (haligned : other % 2 = 0) (hother : other + 1 < size) (hne : place ≠ other) :
    changed.wordAt other = bytes.wordAt other := by
  have hplace := c.aligned
  rw [← wordAt_take changed hother, ← wordAt_take bytes hother]
  by_cases hlt : other < place
  · have hfront : other + 1 < place := by omega
    rw [← wordAt_take (changed.take size) hfront, c.before, wordAt_take _ hfront]
  · have hbehind : other = place + 2 + (other - (place + 2)) := by omega
    rw [hbehind, ← wordAt_drop, c.behind, wordAt_drop]

end ChangedAt

end Bytes

open Bytes (ChangedAt)

/-! ### IPv4 headers -/

namespace Inbound

/-- **A valid packet is not valid any more** with one word of its header changed, if the header
is still as long and the word, outside of the check field, is not changed from one zero to the
other. -/
theorem Ipv4Valid.not_of_changedAt {localIp : Ipv4Addr} {packet changed : Bytes} {place : Nat}
    {w w' : UInt16} (valid : Ipv4Valid localIp packet)
    (c : ChangedAt place w w' (packet.take (Header.Ipv4.read packet).headerLength)
      (changed.take (Header.Ipv4.read packet).headerLength))
    (hne : w ≠ w')
    (hwords : (Header.Ipv4.read changed).headerWords = (Header.Ipv4.read packet).headerWords)
    (hzeros : ¬(place ≠ Header.Ipv4.checkOffset ∧ Checksum.AreZeros w w')) :
    ¬Ipv4Valid localIp changed := by
  intro valid'
  have hmost := Header.Ipv4.read_headerLength_le packet
  have hleast := valid.least
  have hlength : (Header.Ipv4.read changed).headerLength =
      (Header.Ipv4.read packet).headerLength := by
    rw [Header.Ipv4.headerLength, hwords, Header.Ipv4.headerLength]
  have hshort : (packet.take (Header.Ipv4.read packet).headerLength).length <
      281474976710656 := by
    rw [List.length_take]
    omega
  have hsum' := valid'.sum
  rw [hlength] at hsum'
  have hare := c.areZeros_of_ofBytes hne hshort valid.sum hsum'
  -- The word is the check field, and that is all ones before or after the change.
  have hplace : place = 10 := Classical.not_not.1 fun hother => hzeros ⟨hother, hare⟩
  have hold := c.old
  have hnew := c.new
  rw [hplace, Bytes.wordAt_take _ (by omega)] at hold hnew
  rcases hare with ⟨-, hones⟩ | ⟨hones, -⟩
  · exact valid'.check (hnew.trans hones)
  · exact valid.check (hold.trans hones)

/-! ### UDP segments -/

/-- A datagram whose checksum does not verify is refused for that, if it carries one and is as
long as it says. -/
theorem udp_of_unverified {localIp source : Ipv4Addr} {window : Bytes}
    (hleast : 8 ≤ (Header.Udp.read window).length.toNat)
    (hlength : (Header.Udp.read window).length.toNat ≤ window.length)
    (hcheck : (Header.Udp.read window).check ≠ 0)
    (hsum : Checksum.transport Protocol.udp
      (window.take (Header.Udp.read window).length.toNat) source localIp ≠ 0) :
    ∃ expected, udp localIp source window =
      .error (.notice (.udpBadChecksum source (Header.Udp.read window).source
        (Header.Udp.read window).check expected)) := by
  have hlt := (Header.Udp.read window).length.toNat_lt
  have htake : (window.take (Header.Udp.read window).length.toNat).length =
      (Header.Udp.read window).length.toNat := List.length_take_of_le hlength
  have hparse := (Header.Udp.parse_eq_ok_iff window _).2 ⟨Nat.le_trans hleast hlength, rfl⟩
  have hfit : ¬(window.length < (Header.Udp.read window).length.toNat ∨
      (Header.Udp.read window).length.toNat < Header.Udp.size) := by
    rw [Header.Udp.size]
    omega
  have hnot := mt (segmentCheck_iff localIp source window hleast hlength (by omega) hcheck).1 hsum
  rw [udp, hparse]
  simp only [readHeader_ok, bind, Except.bind]
  rw [if_neg hfit, if_neg hcheck,
    udpChecksum_eq _ _ _ (by rw [htake]; exact hleast) (by rw [htake]; exact hlt)]
  simp only [checked]
  exact ⟨_, if_neg hnot⟩

/-- **A valid datagram is refused** with one word of it changed, unless that is its length, or
says with a zero that there is no checksum, or is changed from one zero to the other outside
of the check field. -/
theorem UdpValid.refused_of_changedAt {localIp source : Ipv4Addr} {window changed : Bytes}
    {place : Nat} {w w' : UInt16} (valid : UdpValid localIp source window)
    (hcheck : (Header.Udp.read window).check ≠ 0)
    (c : ChangedAt place w w' (window.take (Header.Udp.read window).length.toNat)
      (changed.take (Header.Udp.read window).length.toNat))
    (hne : w ≠ w') (hplace : place ≠ 4)
    (hcleared : ¬(place = Header.Udp.checkOffset ∧ w' = 0))
    (hzeros : ¬(place ≠ Header.Udp.checkOffset ∧ Checksum.AreZeros w w')) :
    ∃ expected, udp localIp source changed =
      .error (.notice (.udpBadChecksum source (changed.wordAt 0) (changed.wordAt 6)
        expected)) := by
  have hleast := valid.least
  have hlt := (Header.Udp.read window).length.toNat_lt
  have hlength := valid.length
  have htake : (window.take (Header.Udp.read window).length.toNat).length =
      (Header.Udp.read window).length.toNat := List.length_take_of_le hlength
  have htake' := c.length.trans htake
  rw [List.length_take] at htake'
  -- The length field is as it was, and so is the check field unless it is what was changed.
  have hfield : (Header.Udp.read changed).length = (Header.Udp.read window).length :=
    c.wordAt_of_ne 4 rfl (by omega) hplace
  have hcheck' : (Header.Udp.read changed).check ≠ 0 := by
    intro hzero
    by_cases hsix : place = 6
    · have hnew := c.new
      rw [hsix, Bytes.wordAt_take _ (by omega)] at hnew
      exact hcleared ⟨hsix, hnew.symm.trans hzero⟩
    · have hsame := c.wordAt_of_ne 6 rfl (by omega) hsix
      exact hcheck (hsame.symm.trans hzero)
  refine udp_of_unverified (by rw [hfield]; exact hleast) (by rw [hfield]; omega) hcheck' ?_
  rw [hfield]
  intro hsum'
  have hare := c.areZeros_of_transport hne (by omega) (valid.check.resolve_left hcheck) hsum'
  -- The word is the check field, which is not zero before nor after the change.
  have hsix : place = 6 := Classical.not_not.1 fun hother => hzeros ⟨hother, hare⟩
  have hold := c.old
  rw [hsix, Bytes.wordAt_take _ (by omega)] at hold
  rcases hare with ⟨hzero, -⟩ | ⟨-, hzero⟩
  · exact hcheck (hold.trans hzero)
  · exact hcleared ⟨hsix, hzero⟩

end Inbound

namespace Host

/-! ### What a host does -/

/-- **A corrupted word does not get through.**  Take a packet that a host accepts, and change
one aligned word of its header, options included, but not how long the header is.  The host
drops what comes of it, with one line that says so and nothing else.  So it does with a UDP
datagram that it accepts and that carries a checksum, if one aligned word of it is changed that
is not the length, and is not the check field changed to zero; it does so whatever is bound to
its ports.  In both, the change must not be from one encoding of zero to the other, unless it is
one of the check field. -/
theorem corrupted_word_dropped (h : Host) (run : Runner) :
    (∀ (p changed : Packet) (ip : Header.Ipv4) (place : Nat) (w w' : UInt16),
      Inbound.ipv4 h.config.ip p.window = .ok ip →
      ChangedAt place w w' (p.window.take ip.headerLength)
        (changed.window.take ip.headerLength) →
      w ≠ w' →
      (Header.Ipv4.read changed.window).headerWords = ip.headerWords →
      ¬(place ≠ Header.Ipv4.checkOffset ∧ Checksum.AreZeros w w') →
      ∃ n : Notice, n.level = .trace ∧ h.receiveIpv4 run changed = h.log n) ∧
    (∀ (p changed : Packet) (source : Ipv4Addr) (udp : Header.Udp) (place : Nat)
        (w w' : UInt16),
      Inbound.udp h.config.ip source p.window = .ok udp →
      udp.check ≠ 0 →
      ChangedAt place w w' (p.window.take udp.length.toNat)
        (changed.window.take udp.length.toNat) →
      w ≠ w' →
      place ≠ 4 →
      ¬(place = Header.Udp.checkOffset ∧ w' = 0) →
      ¬(place ≠ Header.Udp.checkOffset ∧ Checksum.AreZeros w w') →
      ∃ expected, ∀ ports,
        { h with ports }.receiveUdp run changed source =
          { h with ports }.log (.udpBadChecksum source (changed.window.wordAt 0)
            (changed.window.wordAt 6) expected)) := by
  constructor
  · intro p changed ip place w w' haccepted c hne hwords hzeros
    obtain ⟨valid, rfl⟩ := (Inbound.ipv4_eq_ok_iff h.config.ip p.window ip).1 haccepted
    exact receiveIpv4_of_invalid h run changed (valid.not_of_changedAt c hne hwords hzeros)
  · intro p changed source udp place w w' haccepted hcheck c hne hplace hcleared hzeros
    obtain ⟨valid, rfl⟩ := (Inbound.udp_eq_ok_iff h.config.ip source p.window udp).1 haccepted
    obtain ⟨expected, hrefused⟩ :=
      valid.refused_of_changedAt hcheck c hne hplace hcleared hzeros
    refine ⟨expected, fun ports => ?_⟩
    rw [receiveUdp, hrefused]
    rfl

/-- A packet with one option changed, and a datagram of odd length with its last byte changed. -/
theorem corrupted_word_dropped_of_last_byte :
    ∃ config, Settings.build {} = .ok config ∧
      (∃ n : Notice, n.level = .trace ∧
        (silent config {}).receiveIpv4 (runner 1) (Packet.ofPayload 0
          [0x46, 0, 0, 29, 0, 1, 0, 0, 64, 17, 0x63, 0xcb, 10, 0, 0, 2, 10, 0, 0, 1, 1, 2, 1, 1,
            1, 2, 3, 4, 5, 0, 0]) = (silent config {}).log n) ∧
      ∃ expected,
        (silent config {}).receiveUdp (runner 1)
            (Packet.ofPayload 0 [0, 9, 0, 7, 0, 11, 0xe7, 0xc3, 1, 2, 4, 0]) ⟨10, 0, 0, 2⟩ =
          (silent config {}).log (.udpBadChecksum ⟨10, 0, 0, 2⟩ 9 0xe7c3 expected) := by
  obtain ⟨config, hconfig⟩ : ∃ config, Settings.build {} = .ok config := ⟨_, rfl⟩
  have hip : (silent config {}).config.ip = ⟨10, 0, 0, 1⟩ := by
    cases hconfig
    rfl
  obtain ⟨hipv4, hudp⟩ := corrupted_word_dropped (silent config {}) (runner 1)
  rw [hip] at hipv4 hudp
  refine ⟨config, hconfig, ?_, ?_⟩
  · let packet : Bytes := [0x46, 0, 0, 29, 0, 1, 0, 0, 64, 17, 0x63, 0xcb, 10, 0, 0, 2,
      10, 0, 0, 1, 1, 1, 1, 1, 1, 2, 3, 4, 5, 0, 0]
    have valid : Inbound.Ipv4Valid ⟨10, 0, 0, 1⟩ (Packet.ofPayload 0 packet).window := {
      size := by decide
      version := by decide
      headerWords := by decide
      headerLength := by decide
      totalLength := by decide
      sum := (Checksum.ofBytes_eq_zero_iff _ (by decide)).2 (by decide)
      check := by decide
      destination := by decide }
    exact hipv4 (Packet.ofPayload 0 packet) _ _ 20 0x0101 0x0102
      ((Inbound.ipv4_eq_ok_iff _ _ _).2 ⟨valid, rfl⟩) (by decide) (by decide) (by decide)
      (by decide)
  · let datagram : Bytes := [0, 9, 0, 7, 0, 11, 0xe7, 0xc3, 1, 2, 3, 0]
    have valid : Inbound.UdpValid ⟨10, 0, 0, 1⟩ ⟨10, 0, 0, 2⟩
        (Packet.ofPayload 0 datagram).window := {
      size := by decide
      least := by decide
      length := by decide
      check := .inr (by
        rw [← UInt16.toNat_inj, Checksum.toNat_transport _ _ _ _ (by decide)]
        decide) }
    obtain ⟨expected, hdropped⟩ := hudp (Packet.ofPayload 0 datagram)
      (Packet.ofPayload 0 [0, 9, 0, 7, 0, 11, 0xe7, 0xc3, 1, 2, 4, 0]) ⟨10, 0, 0, 2⟩ _ 10 0x0300
      0x0400 ((Inbound.udp_eq_ok_iff _ _ _ _).2 ⟨valid, rfl⟩) (by decide)
      (by decide) (by decide) (by decide) (by decide) (by decide)
    exact ⟨expected, hdropped Table.empty⟩

end Host

end HostNet
