import HostNet.MacAddr
import HostNet.Packet.Error

/-!
# Ethernet headers

* `EtherType.ipv4`, `EtherType.arp` — the payloads the host knows.
* `Header.Ethernet` — destination, source and the type of the payload.
* `Header.Ethernet.parse` / `Header.Ethernet.bytes` — read from the front of a
  byte string, and written.

The type of the payload is a plain word, since frames of any type are valid.
-/

namespace HostNet

namespace EtherType

/-- The payload is an IPv4 packet. -/
def ipv4 : UInt16 := 0x0800

/-- The payload is an ARP packet. -/
def arp : UInt16 := 0x0806

end EtherType

/-- The header of an Ethernet frame. -/
structure Header.Ethernet where
  destination : MacAddr
  source : MacAddr
  etherType : UInt16
  deriving Repr, DecidableEq

namespace Header.Ethernet

/-- The length in bytes of an Ethernet header. -/
def size : Nat := 14

/-- The header on the wire. -/
def bytes (h : Header.Ethernet) : Bytes :=
  h.destination.bytes ++ h.source.bytes ++ Word16.bytes h.etherType

@[simp] theorem length_bytes (h : Header.Ethernet) : h.bytes.length = size := rfl

/-- The header at the front of a byte string. -/
def parse : Bytes → Except Packet.Error Header.Ethernet
  | d0 :: d1 :: d2 :: d3 :: d4 :: d5 :: s0 :: s1 :: s2 :: s3 :: s4 :: s5 :: t1 :: t0 :: _ =>
      .ok {
        destination := ⟨d0, d1, d2, d3, d4, d5⟩
        source := ⟨s0, s1, s2, s3, s4, s5⟩
        etherType := Word16.join t1 t0 }
  | short => .error (.insufficientData 0 size short.length)

/-- A header is read back from its bytes, whatever follows them. -/
@[simp] theorem parse_append (h : Header.Ethernet) (rest : Bytes) :
    parse (h.bytes ++ rest) = .ok h := by
  simp [bytes, MacAddr.bytes, Word16.bytes, parse]

end Header.Ethernet

end HostNet
