import HostNet.Trace

/-!
# What received packets have to satisfy

Each layer reads its header from the front of a window and checks it.  A window
that passes gives the header, one that does not is refused, and the refusal says
why.  Nothing here depends on the state of the host but for its own address.

* `Inbound.ethernet`, `Inbound.arp`, `Inbound.ipv4`, `Inbound.icmp`,
  `Inbound.udp` — the checks, one per layer.
* `Inbound.ipv4ChecksumHolds`, `Inbound.udpChecksum` — the checksums they look at.

The checks are made in the order of the lines, and the first that fails is the
one that is reported.
-/

namespace HostNet.Inbound

/-- A header as read, or else its refusal under a notice. -/
def readHeader {α : Type} (notice : Packet.Error → Notice) :
    Except Packet.Error α → Except Refusal α
  | .ok header => .ok header
  | .error cause => .error (.notice (notice cause))

/-- Checked operations within the checks of a layer. -/
def checked {α : Type} : Except Fault α → Except Refusal α
  | .ok value => .ok value
  | .error fault => .error (.fault fault)

/-- A frame has to hold a header. -/
def ethernet (window : Bytes) : Except Refusal Header.Ethernet :=
  readHeader .frameMalformed (Header.Ethernet.parse window)

/-- An ARP packet has to be one for Ethernet and IPv4 with a known operation. -/
def arp (window : Bytes) : Except Refusal Header.Arp := do
  let h ← readHeader .arpMalformed (Header.Arp.parse window)
  if h.isSupported then pure h else throw (.notice (.arpUnsupported h))

/-- Whether `check` is the checksum of the header of `size` bytes at the front of
`window`, taken with the check field zero.  The header is copied into a scratch
area that is large enough for any header, and the window left as it is. -/
def ipv4ChecksumHolds (window : Bytes) (size : Nat) (check : UInt16) : Except Fault Bool := do
  let scratch := Bytes.zeros (Header.Ipv4.maxWords.toNat * 4)
  let copied ← Checked.overwrite scratch 0 (← Checked.slice window 0 size)
  let cleared ← Checked.overwrite copied Header.Ipv4.checkOffset (Bytes.zeros 2)
  let header ← Checked.slice cleared 0 size
  pure (Checksum.ofBytes header == check)

/-- An IPv4 packet has to be of version 4, to be as long as its header says and
the header to be as long as that says, to carry the checksum of its header, and
to be addressed to the host. -/
def ipv4 (localIp : Ipv4Addr) (window : Bytes) : Except Refusal Header.Ipv4 := do
  let h ← readHeader .ipv4Malformed (Header.Ipv4.parse window)
  let total := h.totalLength.toNat
  if h.version ≠ 4 then
    throw (.notice (.ipv4Version h.version))
  else if h.headerWords < Header.Ipv4.minWords ∨ Header.Ipv4.maxWords < h.headerWords then
    throw (.notice (.ipv4HeaderWords h.headerWords))
  else if window.length < total ∨ total < h.headerLength then
    throw (.notice (.ipv4TotalLength total h.headerLength window.length))
  else
    let holds ← checked (ipv4ChecksumHolds window h.headerLength h.check)
    if !holds then
      throw (.notice (.ipv4BadChecksum h.source))
    else if h.destination ≠ localIp then
      throw (.notice (.ipv4NotForUs h.destination))
    else
      pure h

/-- An ICMP message has to be an echo request. -/
def icmp (source : Ipv4Addr) (window : Bytes) : Except Refusal Header.Icmp := do
  let h ← readHeader (.icmpMalformed source) (Header.Icmp.parse window)
  if h.messageType = IcmpType.echoRequest then pure h
  else throw (.notice (.icmpIgnored h.messageType source))

/-- The checksum that a UDP segment should carry, as it is sent: that of the
segment with its check field zero. -/
def udpChecksum (localIp source : Ipv4Addr) (segment : Bytes) : Except Fault UInt16 := do
  let cleared ← Checked.overwrite segment Header.Udp.checkOffset (Bytes.zeros 2)
  let _ ← Checked.word16 cleared.length
  pure (Header.Udp.wireCheck (Checksum.transport Protocol.udp cleared source localIp))

/-- A UDP datagram has to be as long as its header says and no shorter than that
header.  What lies behind that length is not looked at.  If it carries a checksum,
the checksum has to be right. -/
def udp (localIp source : Ipv4Addr) (window : Bytes) : Except Refusal Header.Udp := do
  let h ← readHeader (.udpMalformed source) (Header.Udp.parse window)
  let length := h.length.toNat
  if window.length < length ∨ length < Header.Udp.size then
    throw (.notice (.udpLength source length window.length))
  else if h.check = 0 then
    pure h
  else
    let expected ← checked (udpChecksum localIp source (window.take length))
    if expected = h.check then pure h
    else throw (.notice (.udpBadChecksum source h.source h.check expected))

end HostNet.Inbound
