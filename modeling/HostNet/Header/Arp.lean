import HostNet.Header.Ethernet
import HostNet.Ipv4Addr

/-!
# ARP packets

An ARP packet asks for, or tells, the MAC address that an IPv4 address is at.

* `ArpOperation` — request or reply.
* `Header.Arp` — the packet with its fields as they are on the wire.
* `Header.Arp.new` — a packet for Ethernet and IPv4.
* `Header.Arp.isSupported` — whether a packet is one for Ethernet and IPv4 with
  a known operation.
* `Header.Arp.parse` / `Header.Arp.bytes` — read from the front of a byte
  string, and written.

Reading validates nothing but the length.
-/

namespace HostNet

/-- What an ARP packet does. -/
inductive ArpOperation where
  /-- Asks who has the target address. -/
  | request
  /-- Tells where the sender address is. -/
  | reply
  deriving Repr, DecidableEq

namespace ArpOperation

/-- The number of the operation on the wire. -/
def code : ArpOperation → UInt16
  | request => 1
  | reply => 2

/-- The operation of a number on the wire. -/
def ofCode? (code : UInt16) : Option ArpOperation :=
  if code = 1 then some request else if code = 2 then some reply else none

theorem ofCode?_code (op : ArpOperation) : ofCode? op.code = some op := by cases op <;> rfl

end ArpOperation

/-- An ARP packet. -/
structure Header.Arp where
  hardwareType : UInt16
  protocolType : UInt16
  hardwareLength : UInt8
  protocolLength : UInt8
  operation : UInt16
  senderMac : MacAddr
  senderIp : Ipv4Addr
  targetMac : MacAddr
  targetIp : Ipv4Addr
  deriving Repr, DecidableEq

namespace Header.Arp

/-- The length in bytes of an ARP packet. -/
def size : Nat := 28

/-- The hardware type of Ethernet. -/
def ethernet : UInt16 := 1

/-- A packet for Ethernet and IPv4. -/
def new (op : ArpOperation) (senderMac : MacAddr) (senderIp : Ipv4Addr) (targetMac : MacAddr)
    (targetIp : Ipv4Addr) : Header.Arp where
  hardwareType := ethernet
  protocolType := EtherType.ipv4
  hardwareLength := 6
  protocolLength := 4
  operation := op.code
  senderMac
  senderIp
  targetMac
  targetIp

/-- Whether the packet is one for Ethernet and IPv4 with a known operation. -/
def isSupported (h : Header.Arp) : Bool :=
  h.hardwareType == ethernet && h.protocolType == EtherType.ipv4 && h.hardwareLength == 6 &&
    h.protocolLength == 4 && (ArpOperation.ofCode? h.operation).isSome

theorem isSupported_new (op : ArpOperation) (senderMac : MacAddr) (senderIp : Ipv4Addr)
    (targetMac : MacAddr) (targetIp : Ipv4Addr) :
    (new op senderMac senderIp targetMac targetIp).isSupported = true := by
  cases op <;> rfl

/-- The packet on the wire. -/
def bytes (h : Header.Arp) : Bytes :=
  Word16.bytes h.hardwareType ++ Word16.bytes h.protocolType ++
    [h.hardwareLength, h.protocolLength] ++ Word16.bytes h.operation ++
    h.senderMac.bytes ++ h.senderIp.bytes ++ h.targetMac.bytes ++ h.targetIp.bytes

@[simp] theorem length_bytes (h : Header.Arp) : h.bytes.length = size := rfl

/-- The packet at the front of a byte string. -/
def parse : Bytes → Except Packet.Error Header.Arp
  | h1 :: h0 :: p1 :: p0 :: hardwareLength :: protocolLength :: o1 :: o0 ::
      sm0 :: sm1 :: sm2 :: sm3 :: sm4 :: sm5 :: si0 :: si1 :: si2 :: si3 ::
      tm0 :: tm1 :: tm2 :: tm3 :: tm4 :: tm5 :: ti0 :: ti1 :: ti2 :: ti3 :: _ =>
      .ok {
        hardwareType := Word16.join h1 h0
        protocolType := Word16.join p1 p0
        hardwareLength
        protocolLength
        operation := Word16.join o1 o0
        senderMac := ⟨sm0, sm1, sm2, sm3, sm4, sm5⟩
        senderIp := ⟨si0, si1, si2, si3⟩
        targetMac := ⟨tm0, tm1, tm2, tm3, tm4, tm5⟩
        targetIp := ⟨ti0, ti1, ti2, ti3⟩ }
  | short => .error (.insufficientData 0 size short.length)

/-- A packet is read back from its bytes, whatever follows them. -/
@[simp] theorem parse_append (h : Header.Arp) (rest : Bytes) :
    parse (h.bytes ++ rest) = .ok h := by
  simp [bytes, MacAddr.bytes, Ipv4Addr.bytes, Word16.bytes, parse]

end Header.Arp

end HostNet
