import HostNet.Bytes
import HostNet.Packet.Error

/-!
# ICMP headers

* `IcmpType.echoReply`, `IcmpType.unreachable`, `IcmpType.echoRequest` — the
  messages the host sends or answers.
* `Unreachable` — why a datagram could not be delivered.
* `Header.Icmp` — the first 8 bytes of a message.
* `Header.Icmp.parse` / `Header.Icmp.bytes` — read from the front of a byte
  string, and written.

The identifier and the sequence number mean something in echo messages only and
are zero in others.
-/

namespace HostNet

namespace IcmpType

/-- The answer to an echo request. -/
def echoReply : UInt8 := 0

/-- The datagram quoted in the message could not be delivered. -/
def unreachable : UInt8 := 3

/-- Asks for the data to be sent back. -/
def echoRequest : UInt8 := 8

end IcmpType

/-- What could not be reached. -/
inductive Unreachable where
  | net
  | host
  /-- Nothing handles the protocol. -/
  | protocol
  /-- Nothing is bound to the port. -/
  | port
  deriving Repr, DecidableEq

namespace Unreachable

/-- The code of the message. -/
def code : Unreachable → UInt8
  | net => 0
  | host => 1
  | protocol => 2
  | port => 3

/-- The name in log lines. -/
def name : Unreachable → String
  | net => "Net"
  | host => "Host"
  | protocol => "Protocol"
  | port => "Port"

end Unreachable

/-- The first 8 bytes of an ICMP message. -/
structure Header.Icmp where
  messageType : UInt8
  code : UInt8
  check : UInt16
  identifier : UInt16
  sequence : UInt16
  deriving Repr, DecidableEq

namespace Header.Icmp

/-- The length in bytes of an ICMP header. -/
def size : Nat := 8

/-- Where the check field is within the header. -/
def checkOffset : Nat := 2

/-- The header on the wire. -/
def bytes (h : Header.Icmp) : Bytes :=
  [h.messageType, h.code] ++ Word16.bytes h.check ++ Word16.bytes h.identifier ++
    Word16.bytes h.sequence

@[simp] theorem length_bytes (h : Header.Icmp) : h.bytes.length = size := rfl

/-- The header at the front of a byte string. -/
def parse : Bytes → Except Packet.Error Header.Icmp
  | messageType :: code :: c1 :: c0 :: i1 :: i0 :: s1 :: s0 :: _ =>
      .ok {
        messageType
        code
        check := Word16.join c1 c0
        identifier := Word16.join i1 i0
        sequence := Word16.join s1 s0 }
  | short => .error (.insufficientData 0 size short.length)

/-- A header is read back from its bytes, whatever follows them. -/
@[simp] theorem parse_append (h : Header.Icmp) (rest : Bytes) :
    parse (h.bytes ++ rest) = .ok h := by
  simp [bytes, Word16.bytes, parse]

end Header.Icmp

end HostNet
