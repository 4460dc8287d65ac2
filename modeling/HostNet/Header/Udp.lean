import HostNet.Header.Ipv4

/-!
# UDP headers

* `Header.Udp` — the ports, the length and the checksum of a datagram.
* `Header.Udp.maxDatagram` — the greatest length of the data of one datagram.
* `Header.Udp.parse` / `Header.Udp.bytes` — read from the front of a byte
  string, and written.

A check field of zero says that no checksum was calculated, so a checksum that
comes out as zero is sent as `0xffff` (`Header.Udp.wireCheck`).
-/

namespace HostNet

/-- The header of a UDP datagram. -/
structure Header.Udp where
  source : UInt16
  destination : UInt16
  /-- The length in bytes of header and data. -/
  length : UInt16
  check : UInt16
  deriving Repr, DecidableEq

namespace Header.Udp

/-- The length in bytes of a UDP header. -/
def size : Nat := 8

/-- Where the check field is within the header. -/
def checkOffset : Nat := 6

/-- The greatest length of the data of one datagram. -/
def maxDatagram : Nat := Header.Ipv4.maxPayload - size

/-- A checksum as it is sent: zero is sent as all ones. -/
def wireCheck (check : UInt16) : UInt16 := if check = 0 then 0xffff else check

/-- The header on the wire. -/
def bytes (h : Header.Udp) : Bytes :=
  Word16.bytes h.source ++ Word16.bytes h.destination ++ Word16.bytes h.length ++
    Word16.bytes h.check

@[simp] theorem length_bytes (h : Header.Udp) : h.bytes.length = size := rfl

/-- The header at the front of a byte string. -/
def parse : Bytes → Except Packet.Error Header.Udp
  | s1 :: s0 :: d1 :: d0 :: l1 :: l0 :: c1 :: c0 :: _ =>
      .ok {
        source := Word16.join s1 s0
        destination := Word16.join d1 d0
        length := Word16.join l1 l0
        check := Word16.join c1 c0 }
  | short => .error (.insufficientData 0 size short.length)

/-- A header is read back from its bytes, whatever follows them. -/
@[simp] theorem parse_append (h : Header.Udp) (rest : Bytes) :
    parse (h.bytes ++ rest) = .ok h := by
  simp [bytes, Word16.bytes, parse]

end Header.Udp

end HostNet
