import HostNet.Ipv4Addr

/-!
# Internet checksums

The checksum of a byte string is the complement of the ones' complement sum of
its 16 bit words in network order; an odd last byte is the high byte of a word
whose low byte is zero.

* `Checksum.addWords` — the words of a byte string added to a 64 bit sum.
* `Checksum.narrow` — a 64 bit sum brought to 32 bits by adding the carries back.
* `Checksum.extend` — a running sum taken over one more byte string.
* `Checksum.fold` — a running sum brought to 16 bits and complemented.
* `Checksum.ofBytes` — the checksum of one byte string.
* `Checksum.pseudoHeader`, `Checksum.transport` — the checksum of a transport
  segment, which also covers the addresses it travels between.

A running sum may be taken over several byte strings in turn, of which only the
last may have an odd length.  Writing the checksum of a byte string into a
zeroed field of it makes the checksum of the whole zero.
-/

namespace HostNet.Checksum

/-- The 16 bit words of a byte string added to `sum`. -/
def addWords : Bytes → UInt64 → UInt64
  | high :: low :: rest, sum => addWords rest (sum + (Word16.join high low).toUInt64)
  | [last], sum => sum + (Word16.join last 0).toUInt64
  | [], sum => sum

/-- `sum` in 32 bits: its upper half is added to its lower half for as long as
there is an upper half. -/
def narrow (sum : UInt64) : UInt32 :=
  if sum < 0x100000000 then sum.toUInt32
  else narrow (sum % 0x100000000 + sum / 0x100000000)
termination_by sum.toNat
decreasing_by
  rename_i h
  have hlt := sum.toNat_lt
  have hle : 4294967296 ≤ sum.toNat := by
    simpa [UInt64.lt_iff_toNat_lt] using h
  simp only [UInt64.toNat_add, UInt64.toNat_mod, UInt64.toNat_div]
  refine Nat.lt_of_le_of_lt (Nat.mod_le _ _) ?_
  simp
  omega

/-- A running sum taken over one more byte string. -/
def extend (bytes : Bytes) (sum : UInt32) : UInt32 := narrow (addWords bytes sum.toUInt64)

/-- A running sum brought to 16 bits, adding its upper half to its lower half for
as long as there is an upper half, and complemented. -/
def fold (sum : UInt32) : UInt16 :=
  if sum < 0x10000 then ~~~sum.toUInt16
  else fold (sum % 0x10000 + sum / 0x10000)
termination_by sum.toNat
decreasing_by
  rename_i h
  have hlt := sum.toNat_lt
  have hle : 65536 ≤ sum.toNat := by
    simpa [UInt32.lt_iff_toNat_lt] using h
  simp only [UInt32.toNat_add, UInt32.toNat_mod, UInt32.toNat_div]
  refine Nat.lt_of_le_of_lt (Nat.mod_le _ _) ?_
  simp
  omega

/-- The checksum of a byte string. -/
def ofBytes (bytes : Bytes) : UInt16 := fold (extend bytes 0)

/-- The bytes that stand for the addresses, the protocol and the length of a
segment in its checksum, and are never sent. -/
def pseudoHeader (protocol : UInt8) (source destination : Ipv4Addr) (length : UInt16) : Bytes :=
  source.bytes ++ destination.bytes ++ [0, protocol] ++ Word16.bytes length

/-- The length in bytes of a pseudo header. -/
def pseudoHeaderLength : Nat := 12

theorem length_pseudoHeader (protocol : UInt8) (source destination : Ipv4Addr) (length : UInt16) :
    (pseudoHeader protocol source destination length).length = pseudoHeaderLength := rfl

/-- The checksum of `segment` behind its pseudo header.  The length there is that
of the segment modulo 2¹⁶. -/
def transport (protocol : UInt8) (segment : Bytes) (source destination : Ipv4Addr) : UInt16 :=
  fold (extend segment
    (extend (pseudoHeader protocol source destination segment.length.toUInt16) 0))

end HostNet.Checksum
