import HostNet.Checksum
import HostNet.Packet.Error

/-!
# IPv4 headers

* `Protocol.icmp`, `Protocol.udp` — the payloads the host knows.
* `Header.Ipv4` — the fixed part of the header, without options.
* `Header.Ipv4.new` — a header for a packet that is not a fragment.
* `Header.Ipv4.headerLength` — the length of the header, options included.
* `Header.Ipv4.moreFragments`, `Header.Ipv4.fragmentOffset`,
  `Header.Ipv4.withFragment` — a fragment's place in its datagram.
* `Header.Ipv4.withChecksum` — the header with its check field worked out.
* `Header.Ipv4.parse` / `Header.Ipv4.bytes` — read from the front of a byte
  string, and written.

Reading validates nothing but the length.  The version and the header length
share one byte on the wire, four bits each: only the low four bits of either
are written.
-/

namespace HostNet

namespace Protocol

/-- The payload is an ICMP message. -/
def icmp : UInt8 := 1

/-- The payload is a UDP datagram. -/
def udp : UInt8 := 17

end Protocol

/-- The fixed part of an IPv4 header. -/
structure Header.Ipv4 where
  version : UInt8
  /-- The length of the header in words of four bytes. -/
  headerWords : UInt8
  serviceType : UInt8
  /-- The length in bytes of header and payload. -/
  totalLength : UInt16
  /-- The number that all fragments of a datagram share. -/
  identification : UInt16
  /-- Three flags, and in the low 13 bits the fragment offset in units of 8 bytes. -/
  flagsFragment : UInt16
  timeToLive : UInt8
  protocol : UInt8
  check : UInt16
  source : Ipv4Addr
  destination : Ipv4Addr
  deriving Repr, DecidableEq

namespace Header.Ipv4

/-- The length in bytes of a header without options. -/
def size : Nat := 20

/-- The least length of a header in words. -/
def minWords : UInt8 := 5

/-- The greatest length of a header in words. -/
def maxWords : UInt8 := 15

/-- The flag that every fragment but the last of a datagram carries. -/
def moreFragmentsFlag : UInt16 := 0x2000

/-- The bits of the fragment offset. -/
def offsetMask : UInt16 := 0x1fff

/-- Where the check field is within the header. -/
def checkOffset : Nat := 10

/-- The greatest length of a payload behind a header without options. -/
def maxPayload : Nat := 65515

/-- A header without options or payload for a packet that is not a fragment. -/
def new (protocol : UInt8) (source destination : Ipv4Addr) (timeToLive serviceType : UInt8) :
    Header.Ipv4 where
  version := 4
  headerWords := minWords
  serviceType
  totalLength := 20
  identification := 0
  flagsFragment := 0
  timeToLive
  protocol
  check := 0
  source
  destination

/-- The length in bytes of the header, options included. -/
def headerLength (h : Header.Ipv4) : Nat := h.headerWords.toNat * 4

/-- Whether more fragments of the datagram follow this one. -/
def moreFragments (h : Header.Ipv4) : Bool := h.flagsFragment / moreFragmentsFlag % 2 == 1

/-- Where the payload of this fragment starts within the datagram, in bytes. -/
def fragmentOffset (h : Header.Ipv4) : Nat := (h.flagsFragment &&& offsetMask).toNat * 8

/-- The header of the fragment that starts at byte `offset` of the datagram.  The
offset is counted in units of 8 bytes modulo 2¹³, and every other flag is
cleared. -/
def withFragment (h : Header.Ipv4) (more : Bool) (offset : Nat) : Header.Ipv4 :=
  { h with
    flagsFragment :=
      ((offset / 8).toUInt16 &&& offsetMask) + (if more then moreFragmentsFlag else 0) }

/-- The header on the wire. -/
def bytes (h : Header.Ipv4) : Bytes :=
  [h.version * 16 + h.headerWords % 16, h.serviceType] ++ Word16.bytes h.totalLength ++
    Word16.bytes h.identification ++ Word16.bytes h.flagsFragment ++
    [h.timeToLive, h.protocol] ++ Word16.bytes h.check ++ h.source.bytes ++ h.destination.bytes

@[simp] theorem length_bytes (h : Header.Ipv4) : h.bytes.length = size := rfl

/-- The header with the checksum of its 20 bytes, taken with the check field zero. -/
def withChecksum (h : Header.Ipv4) : Header.Ipv4 :=
  { h with check := Checksum.ofBytes { h with check := 0 }.bytes }

/-- The header at the front of a byte string.  Options are not looked at. -/
def parse : Bytes → Except Packet.Error Header.Ipv4
  | versionWords :: serviceType :: l1 :: l0 :: i1 :: i0 :: f1 :: f0 ::
      timeToLive :: protocol :: c1 :: c0 :: s0 :: s1 :: s2 :: s3 :: d0 :: d1 :: d2 :: d3 :: _ =>
      .ok {
        version := versionWords / 16
        headerWords := versionWords % 16
        serviceType
        totalLength := Word16.join l1 l0
        identification := Word16.join i1 i0
        flagsFragment := Word16.join f1 f0
        timeToLive
        protocol
        check := Word16.join c1 c0
        source := ⟨s0, s1, s2, s3⟩
        destination := ⟨d0, d1, d2, d3⟩ }
  | short => .error (.insufficientData 0 size short.length)

theorem high_nibble (high low : UInt8) : (high * 16 + low % 16) / 16 = high % 16 := by
  apply UInt8.toNat_inj.1
  simp only [UInt8.toNat_div, UInt8.toNat_add, UInt8.toNat_mul, UInt8.toNat_mod, UInt8.reduceToNat]
  omega

theorem low_nibble (high low : UInt8) : (high * 16 + low % 16) % 16 = low % 16 := by
  apply UInt8.toNat_inj.1
  simp only [UInt8.toNat_add, UInt8.toNat_mul, UInt8.toNat_mod, UInt8.reduceToNat]
  omega

/-- A header is read back from its bytes, whatever follows them, with the version
and the header length cut down to their low four bits. -/
theorem parse_append (h : Header.Ipv4) (rest : Bytes) :
    parse (h.bytes ++ rest) =
      .ok { h with version := h.version % 16, headerWords := h.headerWords % 16 } := by
  simp [bytes, Ipv4Addr.bytes, Word16.bytes, parse, high_nibble, low_nibble]

end Header.Ipv4

end HostNet
