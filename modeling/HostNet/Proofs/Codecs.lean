import HostNet.Proofs.Fields
import HostNet.Proofs.Fragmentation

/-!
# Headers are read as they are written

Each header is read by one function and written by another, field by field at offsets that
neither takes from the other.  They are inverse to each other: the bytes of a header that was
read are those it was read from, and a header is read from its bytes.

* `Header.Inverse` — what it means that a reader and a writer are inverse.
* `Header.Inverse.of_read` — that they are, if the reader gives the fields at their places and
  the writer puts them there.
* `Header.Ethernet.bytes_read`, `Header.Ipv4.bytes_read` and their like — what the writers do.
* `Header.Ipv4.wire` — what is left of an IPv4 header once it is written.
* `Header.codecs_inverse` — the five headers, and the place of a fragment.
-/

namespace HostNet.Header

/-- **Reading and writing a header are inverse**, up to what is left of it on the wire. -/
structure Inverse {α : Type} (size : Nat) (parse : Bytes → Except Packet.Error α)
    (bytes : α → Bytes) (wire : α → α) : Prop where
  /-- A header is read wherever there are bytes enough. -/
  accepts_iff : ∀ b, (∃ h, parse b = .ok h) ↔ size ≤ b.length
  refuses : ∀ b, b.length < size → parse b = .error (.insufficientData 0 size b.length)
  /-- Nothing behind the header has a part in it. -/
  congr : ∀ b b', b'.take size = b.take size → parse b' = parse b
  bytes_of_parse : ∀ b h, parse b = .ok h → bytes h = b.take size
  parse_of_bytes : ∀ h rest, parse (bytes h ++ rest) = .ok (wire h)

namespace Inverse

variable {α : Type} {size : Nat} {parse : Bytes → Except Packet.Error α} {bytes : α → Bytes}
  {wire : α → α}

/-- Fields that are read in their places, and written there. -/
theorem of_read {read : Bytes → α}
    (hparse : ∀ b h, parse b = .ok h ↔ size ≤ b.length ∧ h = read b)
    (herror : ∀ b, (∃ h, parse b = .ok h) ∨
      parse b = .error (.insufficientData 0 size b.length))
    (hbytes : ∀ b, size ≤ b.length → bytes (read b) = b.take size)
    (happend : ∀ h rest, parse (bytes h ++ rest) = .ok (wire h)) :
    Inverse size parse bytes wire where
  accepts_iff b := by
    constructor
    · rintro ⟨h, hok⟩
      exact ((hparse b h).1 hok).1
    · intro hsize
      exact ⟨read b, (hparse b _).2 ⟨hsize, rfl⟩⟩
  refuses b hshort := by
    rcases herror b with ⟨h, hok⟩ | hrefused
    · exact absurd ((hparse b h).1 hok).1 (Nat.not_le.2 hshort)
    · exact hrefused
  congr b b' hsame := by
    by_cases hsize : size ≤ b.length
    -- both begin with the bytes of what is read from one of them
    · have hfront := hbytes b hsize
      rw [← List.take_append_drop size b, ← List.take_append_drop size b', hsame, ← hfront,
        happend, happend]
    -- neither is longer than what is the same of both
    · have hlength := congrArg List.length hsame
      rw [List.length_take, List.length_take] at hlength
      rw [List.take_of_length_le (by omega), List.take_of_length_le (by omega)] at hsame
      rw [hsame]
  bytes_of_parse b h hok := by
    obtain ⟨hsize, rfl⟩ := (hparse b h).1 hok
    exact hbytes b hsize
  parse_of_bytes := happend

/-- Headers that are the same on the wire are the same, as far as they get there. -/
theorem wire_eq_of_bytes_eq (inverse : Inverse size parse bytes wire) {h h' : α}
    (hsame : bytes h = bytes h') : wire h = wire h' := by
  have hread := inverse.parse_of_bytes h []
  rw [hsame, inverse.parse_of_bytes h' []] at hread
  exact (Except.ok.inj hread).symm

theorem injective (inverse : Inverse size parse bytes id) : Function.Injective bytes :=
  fun _ _ hsame => inverse.wire_eq_of_bytes_eq hsame

end Inverse

/-! ### The five headers -/

theorem Ethernet.bytes_read (b : Bytes) (hsize : size ≤ b.length) :
    (read b).bytes = b.take size := by
  rw [Bytes.take_eq_map_byteAt b size hsize]
  simp only [bytes, read, MacAddr.bytes, Bytes.macAt, Bytes.wordAt, Word16.bytes_join]
  rfl

theorem Ethernet.inverse : Inverse size parse bytes id := by
  refine .of_read parse_eq_ok_iff (fun b => ?_) bytes_read parse_append
  unfold parse
  split
  · exact .inl ⟨_, rfl⟩
  · exact .inr rfl

theorem Arp.bytes_read (b : Bytes) (hsize : size ≤ b.length) :
    (read b).bytes = b.take size := by
  rw [Bytes.take_eq_map_byteAt b size hsize]
  simp only [bytes, read, MacAddr.bytes, Ipv4Addr.bytes, Bytes.macAt, Bytes.addressAt,
    Bytes.wordAt, Word16.bytes_join]
  rfl

theorem Arp.inverse : Inverse size parse bytes id := by
  refine .of_read parse_eq_ok_iff (fun b => ?_) bytes_read parse_append
  unfold parse
  split
  · exact .inl ⟨_, rfl⟩
  · exact .inr rfl

theorem Icmp.bytes_read (b : Bytes) (hsize : size ≤ b.length) :
    (read b).bytes = b.take size := by
  rw [Bytes.take_eq_map_byteAt b size hsize]
  simp only [bytes, read, Bytes.wordAt, Word16.bytes_join]
  rfl

theorem Icmp.inverse : Inverse size parse bytes id := by
  refine .of_read parse_eq_ok_iff (fun b => ?_) bytes_read parse_append
  unfold parse
  split
  · exact .inl ⟨_, rfl⟩
  · exact .inr rfl

theorem Udp.bytes_read (b : Bytes) (hsize : size ≤ b.length) :
    (read b).bytes = b.take size := by
  rw [Bytes.take_eq_map_byteAt b size hsize]
  simp only [bytes, read, Bytes.wordAt, Word16.bytes_join]
  rfl

theorem Udp.inverse : Inverse size parse bytes id := by
  refine .of_read parse_eq_ok_iff (fun b => ?_) bytes_read parse_append
  unfold parse
  split
  · exact .inl ⟨_, rfl⟩
  · exact .inr rfl

namespace Ipv4

/-- What is left of a header once it is written: the version and the header length have four
bits each. -/
def wire (h : Header.Ipv4) : Header.Ipv4 :=
  { h with version := h.version % 16, headerWords := h.headerWords % 16 }

/-- A byte is its two nibbles. -/
theorem nibbles (byte : UInt8) : byte / 16 * 16 + byte % 16 % 16 = byte := by
  apply UInt8.toNat_inj.1
  have := byte.toNat_lt
  simp only [UInt8.toNat_add, UInt8.toNat_mul, UInt8.toNat_div, UInt8.toNat_mod, UInt8.reduceToNat]
  omega

theorem bytes_read (b : Bytes) (hsize : size ≤ b.length) : (read b).bytes = b.take size := by
  rw [Bytes.take_eq_map_byteAt b size hsize]
  simp only [bytes, read, Ipv4Addr.bytes, Bytes.addressAt, Bytes.wordAt, Word16.bytes_join,
    nibbles]
  rfl

theorem inverse : Inverse size parse bytes wire := by
  refine .of_read parse_eq_ok_iff (fun b => ?_) bytes_read parse_append
  unfold parse
  split
  · exact .inl ⟨_, rfl⟩
  · exact .inr rfl

/-- A header whose version and length fit into four bits is all there on the wire. -/
theorem wire_eq_self {h : Header.Ipv4} (hversion : h.version < 16) (hwords : h.headerWords < 16) :
    h.wire = h := by
  have hnibble {byte : UInt8} (hlt : byte < 16) : byte % 16 = byte := by
    apply UInt8.toNat_inj.1
    rw [UInt8.toNat_mod]
    exact Nat.mod_eq_of_lt hlt
  rw [wire, hnibble hversion, hnibble hwords]

/-- A fragment has the same place in its datagram for whoever reads its header. -/
theorem parse_withFragment (h : Header.Ipv4) (more : Bool) {offset : Nat} (rest : Bytes)
    (haligned : offset % 8 = 0) (hoffset : offset < 65536) :
    ∃ g, parse ((h.withFragment more offset).bytes ++ rest) = .ok g ∧ g.moreFragments = more ∧
      g.fragmentOffset = offset := by
  have hunits : offset / 8 < 8192 := by omega
  exact ⟨_, parse_append _ rest, moreFragments_withFragment h more offset hunits,
    fragmentOffset_withFragment h more offset hunits haligned⟩

end Ipv4

/-- **Headers are read as they are written**, all five kinds of them.  A header is read wherever
there are bytes enough, from these alone, and refused with how many there are otherwise; its
bytes are those it was read from; and it is read from its bytes, whatever follows them, up to
the version and the header length of IPv4, of which four bits each are written.  So no two
headers that fit have the same bytes, and the place of a fragment in its datagram is read as it
was written over whatever stood there. -/
theorem codecs_inverse :
    Inverse Ethernet.size Ethernet.parse Ethernet.bytes id ∧
      Inverse Arp.size Arp.parse Arp.bytes id ∧
      Inverse Ipv4.size Ipv4.parse Ipv4.bytes Ipv4.wire ∧
      Inverse Icmp.size Icmp.parse Icmp.bytes id ∧
      Inverse Udp.size Udp.parse Udp.bytes id ∧
      (Function.Injective Ethernet.bytes ∧ Function.Injective Arp.bytes ∧
        Function.Injective Icmp.bytes ∧ Function.Injective Udp.bytes ∧
        ∀ h h' : Header.Ipv4, h.version < 16 → h.headerWords < 16 → h'.version < 16 →
          h'.headerWords < 16 → h.bytes = h'.bytes → h = h') ∧
      ∀ (h : Header.Ipv4) (more : Bool) (offset : Nat), offset % 8 = 0 → offset < 65536 →
        (h.withFragment more offset).moreFragments = more ∧
          (h.withFragment more offset).fragmentOffset = offset ∧
          ∀ rest, ∃ g, Ipv4.parse ((h.withFragment more offset).bytes ++ rest) = .ok g ∧
            g.moreFragments = more ∧ g.fragmentOffset = offset := by
  refine ⟨Ethernet.inverse, Arp.inverse, Ipv4.inverse, Icmp.inverse, Udp.inverse,
    ⟨Ethernet.inverse.injective, Arp.inverse.injective, Icmp.inverse.injective,
      Udp.inverse.injective, ?_⟩, ?_⟩
  · intro h h' hversion hwords hversion' hwords' hsame
    have hwire := Ipv4.inverse.wire_eq_of_bytes_eq hsame
    rwa [Ipv4.wire_eq_self hversion hwords, Ipv4.wire_eq_self hversion' hwords'] at hwire
  · intro h more offset haligned hoffset
    have hunits : offset / 8 < 8192 := by omega
    exact ⟨Ipv4.moreFragments_withFragment h more offset hunits,
      Ipv4.fragmentOffset_withFragment h more offset hunits haligned,
      fun rest => Ipv4.parse_withFragment h more rest haligned hoffset⟩

/-- A version that does not fit into four bits loses the others, and a fragment has its place in
a header all of whose flags were set. -/
theorem codecs_inverse_all_flags :
    let h : Header.Ipv4 :=
      { Ipv4.new Protocol.udp ⟨10, 0, 0, 1⟩ ⟨10, 0, 0, 2⟩ 64 0 with
        version := 20
        flagsFragment := 0xffff }
    (∃ g, Ipv4.parse h.bytes = .ok g ∧ g.version = 4) ∧
      (h.withFragment true 1480).moreFragments = true ∧
        (h.withFragment true 1480).fragmentOffset = 1480 := by
  intro h
  obtain ⟨-, -, hipv4, -, -, -, hplace⟩ := codecs_inverse
  obtain ⟨hmore, hoffset, -⟩ := hplace h true 1480 (by decide) (by decide)
  have hread := hipv4.parse_of_bytes h []
  rw [List.append_nil] at hread
  have hversion : h.wire.version = 4 := by decide
  exact ⟨⟨h.wire, hread, hversion⟩, hmore, hoffset⟩

end HostNet.Header
