import HostNet.Proofs.Acceptance
import HostNet.Proofs.Fragmentation

/-!
# Well-formed frames

What a host hands to the link is read back here by its fields, the way a station on the
link would read it.

* `Outbound.WellFormedPacket`, `Outbound.WellFormedArp` — the payloads that a host sends.
* `Outbound.WellFormedFrame` — the frames that carry them.
* `wellFormed_fragment`, `WellFormedPacket.pad` — every fragment is well formed, and stays so
  when it is padded.
* `wellFormed_frame`, `wellFormed_arpFrame` — so are the frames that are made of them.

### Where the bounds come from

A fragment carries no more than the threshold, so that with its header it is no longer
than the longest packet (`WellFormedPacket.most`).  No payload has to be padded beyond that
length (`Config.minPayload_le`), and so the frame fits.
-/

namespace HostNet

namespace Bytes

/-- No piece is longer than the size that a byte string is cut to. -/
theorem length_le_of_mem_chunks {size : Nat} {bytes piece : Bytes}
    (hpiece : piece ∈ chunks size bytes) : piece.length ≤ size := by
  fun_induction chunks size bytes with
  | case1 bytes h => exact absurd hpiece List.not_mem_nil
  | case2 bytes h ih =>
      rcases List.mem_cons.1 hpiece with rfl | hrest
      · rw [List.length_take]
        omega
      · exact ih hrest

end Bytes

/-- Nothing behind the header has a part in it. -/
theorem Header.Ipv4.read_append (packet rest : Bytes) (hsize : 20 ≤ packet.length) :
    read (packet ++ rest) = read packet := by
  rw [← read_take (packet ++ rest) hsize, List.take_left]

namespace Outbound

/-- **The IPv4 packets that a host sends**: of version 4, with a header of 20 bytes that
verifies, from the host's address, and with nothing but zeros behind their total length. -/
structure WellFormedPacket (c : Config) (packet : Bytes) : Prop where
  most : packet.length ≤ c.threshold + 20
  version : (Header.Ipv4.read packet).version = 4
  headerWords : (Header.Ipv4.read packet).headerWords = 5
  sum : Checksum.ofBytes (packet.take 20) = 0
  check : (Header.Ipv4.read packet).check ≠ 0xffff
  source : (Header.Ipv4.read packet).source = c.ip
  least : 20 ≤ (Header.Ipv4.read packet).totalLength.toNat
  totalLength : (Header.Ipv4.read packet).totalLength.toNat ≤ packet.length
  trailer : ∀ byte ∈ packet.drop (Header.Ipv4.read packet).totalLength.toNat, byte = 0

/-- **The ARP packets that a host sends**: of a kind that it would accept itself, from the
host, and with nothing but zeros behind them. -/
structure WellFormedArp (c : Config) (packet : Bytes) : Prop where
  size : 28 ≤ packet.length
  supported : (Header.Arp.read packet).isSupported = true
  senderMac : (Header.Arp.read packet).senderMac = c.mac
  senderIp : (Header.Arp.read packet).senderIp = c.ip
  trailer : ∀ byte ∈ packet.drop 28, byte = 0

/-- **The frames that a host sends**: from its station, neither too short nor too long for
the link, and with a payload that is well formed for its ether type. -/
structure WellFormedFrame (c : Config) (frame : Bytes) : Prop where
  source : (Header.Ethernet.read frame).source = c.mac
  least : 14 + c.minPayload ≤ frame.length
  most : frame.length ≤ c.maxFrame
  payload :
    ((Header.Ethernet.read frame).etherType = EtherType.ipv4 ∧
      WellFormedPacket c (frame.drop 14)) ∨
    ((Header.Ethernet.read frame).etherType = EtherType.arp ∧
      WellFormedArp c (frame.drop 14))

/-! ### Packets -/

/-- **A fragment is well formed**, if its piece is no longer than the threshold, and goes to
its destination. -/
theorem wellFormed_fragment (c : Config) (destination : Ipv4Addr) (protocol : UInt8)
    (identification : UInt16) (offset : Nat) (more : Bool) {piece : Bytes}
    (hpiece : piece.length ≤ c.threshold) :
    WellFormedPacket c (fragment c destination protocol identification offset more piece) ∧
      (Header.Ipv4.read
        (fragment c destination protocol identification offset more piece)).destination =
          destination := by
  have hmax : piece.length ≤ Header.Ipv4.maxPayload := by
    have hle := c.threshold_le
    simp only [Header.Ipv4.maxPayload]
    omega
  have hlength := length_fragment c destination protocol identification offset more piece
  have haccepted := ipv4_fragment c destination protocol identification offset more piece [] hmax
  rw [List.append_nil] at haccepted
  obtain ⟨valid, hread⟩ := (Inbound.ipv4_eq_ok_iff _ _ _).1 haccepted
  have htotal := fragmentHeader_totalLength c destination protocol identification offset more
    piece.length hmax
  have hheader : (Header.Ipv4.read (fragment c destination protocol identification offset more
      piece)).headerLength = 20 := by
    rw [← hread]
    rfl
  have hsum := valid.sum
  rw [hheader] at hsum
  simp only [Header.Ipv4.size] at hlength htotal
  refine ⟨?_, valid.destination⟩
  exact {
    most := by omega
    version := valid.version
    headerWords := by
      rw [← hread]
      rfl
    sum := hsum
    check := valid.check
    source := by
      rw [← hread]
      rfl
    least := by
      rw [← hread, htotal]
      exact Nat.le_add_right _ _
    totalLength := valid.totalLength
    trailer := by
      rw [← hread, htotal, List.drop_of_length_le (Nat.le_of_eq hlength)]
      exact fun _ hbyte => absurd hbyte List.not_mem_nil }

/-- **A packet stays well formed** when it is padded with zeros. -/
theorem WellFormedPacket.pad {c : Config} {packet : Bytes} (w : WellFormedPacket c packet)
    {n : Nat} (hfit : packet.length + n ≤ c.threshold + 20) :
    WellFormedPacket c (packet ++ Bytes.zeros n) := by
  have hsize : 20 ≤ packet.length := Nat.le_trans w.least w.totalLength
  have hread := Header.Ipv4.read_append packet (Bytes.zeros n) hsize
  exact {
    most := by
      rw [List.length_append, Bytes.length_zeros]
      exact hfit
    version := by rw [hread, w.version]
    headerWords := by rw [hread, w.headerWords]
    sum := by rw [List.take_append_of_le_length hsize, w.sum]
    check := by
      rw [hread]
      exact w.check
    source := by rw [hread, w.source]
    least := by
      rw [hread]
      exact w.least
    totalLength := by
      rw [hread, List.length_append]
      exact Nat.le_trans w.totalLength (Nat.le_add_right _ _)
    trailer := by
      intro byte hbyte
      rw [hread, List.drop_append_of_le_length w.totalLength] at hbyte
      rcases List.mem_append.1 hbyte with hbefore | hpadding
      · exact w.trailer byte hbefore
      · exact List.eq_of_mem_replicate hpadding }

/-! ### Frames -/

/-- The header of a frame is read back from it. -/
theorem read_frame (c : Config) (destination : MacAddr) (etherType : UInt16) (payload : Bytes) :
    Header.Ethernet.read (frame c destination etherType payload) =
      { destination, source := c.mac, etherType } :=
  ((Header.Ethernet.parse_eq_ok_iff _ _).1 (parse_frame c destination etherType payload)).2.symm

/-- **A frame that carries a well-formed packet** is well formed. -/
theorem wellFormed_frame {c : Config} {packet : Bytes} (w : WellFormedPacket c packet)
    (mac : MacAddr) : WellFormedFrame c (frame c mac EtherType.ipv4 packet) where
  source := by rw [read_frame]
  least := by
    rw [length_frame, Header.Ethernet.size]
    omega
  most := length_frame_le c mac EtherType.ipv4 packet w.most
  payload := by
    refine .inl ⟨by rw [read_frame], ?_⟩
    have hdrop := drop_frame c mac EtherType.ipv4 packet
    rw [Header.Ethernet.size] at hdrop
    rw [hdrop]
    refine w.pad ?_
    have hmost := w.most
    have hpad := c.minPayload_le
    simp only [Header.Ipv4.size] at hpad
    omega

/-- **A frame that carries an ARP packet from the host** is well formed. -/
theorem wellFormed_arpFrame (c : Config) (mac : MacAddr) (op : ArpOperation)
    (targetMac : MacAddr) (targetIp : Ipv4Addr) :
    WellFormedFrame c
      (frame c mac EtherType.arp (Header.Arp.new op c.mac c.ip targetMac targetIp).bytes) := by
  let arp := Header.Arp.new op c.mac c.ip targetMac targetIp
  have hlength : arp.bytes.length = 28 := Header.Arp.length_bytes arp
  have hdrop := drop_frame c mac EtherType.arp arp.bytes
  rw [Header.Ethernet.size] at hdrop
  have hread : arp = Header.Arp.read
      (arp.bytes ++ Bytes.zeros (c.minPayload - arp.bytes.length)) :=
    ((Header.Arp.parse_eq_ok_iff _ _).1 (Header.Arp.parse_append arp _)).2
  have hpayload : WellFormedArp c
      (arp.bytes ++ Bytes.zeros (c.minPayload - arp.bytes.length)) := {
    size := by
      rw [List.length_append, hlength]
      exact Nat.le_add_right _ _
    supported := by
      rw [← hread]
      exact Header.Arp.isSupported_new op c.mac c.ip targetMac targetIp
    senderMac := by
      rw [← hread]
      rfl
    senderIp := by
      rw [← hread]
      rfl
    trailer := by
      rw [List.drop_left' hlength]
      exact fun byte hbyte => List.eq_of_mem_replicate hbyte }
  exact {
    source := by rw [read_frame]
    least := by
      rw [length_frame, Header.Ethernet.size]
      omega
    most := by
      have hge := c.threshold_ge
      refine length_frame_le c mac EtherType.arp arp.bytes ?_
      rw [hlength]
      omega
    payload := .inr ⟨by rw [read_frame], hdrop ▸ hpayload⟩ }

end Outbound

end HostNet
