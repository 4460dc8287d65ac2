import HostNet.Proofs.Likeness.Runs
import HostNet.Proofs.Rejection

/-!
# Bytes behind a packet are invisible

A frame is as long as the link made it.  The packet in it says itself how long it is, and
so does the datagram in the packet.  What is behind either is received into the same buffer
as the rest, stays behind the window when an answer is written over the packet, and is
never seen again.

* `Ipv4Frame` — the frames with an IPv4 packet whose lengths are in order.
* `SameButTrailer` — two such frames that differ only behind the packet, or only behind the
  datagram.
* `sameFrame_of_sameButTrailer` — no check sees more of them than they share.
* `poll_same_but_trailer` — the host does the same for both, and goes on doing so.

### Why lengths have to be in order

A packet that is shorter than it says is refused with a line that tells how many bytes
there were, and a datagram likewise.  These lines do depend on the bytes behind.
-/

namespace HostNet

/-! ### Frames that differ behind what they carry -/

/-- The fields of the header of the IPv4 packet in a frame. -/
def Header.Ipv4.ofFrame (frame : Bytes) : Header.Ipv4 := read (frame.drop 14)

/-- The fields of the header of the UDP datagram in the IPv4 packet in a frame. -/
def Header.Udp.ofFrame (frame : Bytes) : Header.Udp :=
  read (frame.drop (14 + (Ipv4.ofFrame frame).headerLength))

/-- **A frame with an IPv4 packet** that has a header of at least 20 bytes, is no shorter than
its header and is in the frame as a whole. -/
structure Ipv4Frame (frame : Bytes) : Prop where
  etherType : (Header.Ethernet.read frame).etherType = EtherType.ipv4
  headerWords : 5 ≤ (Header.Ipv4.ofFrame frame).headerWords
  headerLength : (Header.Ipv4.ofFrame frame).headerLength ≤
    (Header.Ipv4.ofFrame frame).totalLength.toNat
  totalLength : 14 + (Header.Ipv4.ofFrame frame).totalLength.toNat ≤ frame.length

/-- **Two frames that are the same** up to the end of the packet, or with a UDP datagram that
ends no later than the packet up to the end of that. -/
inductive SameButTrailer (frame frame' : Bytes) : Prop where
  | packet (hsame : frame'.take (14 + (Header.Ipv4.ofFrame frame).totalLength.toNat) =
      frame.take (14 + (Header.Ipv4.ofFrame frame).totalLength.toNat))
  | datagram (hprotocol : (Header.Ipv4.ofFrame frame).protocol = Protocol.udp)
      (hleast : 8 ≤ (Header.Udp.ofFrame frame).length.toNat)
      (hmost : (Header.Ipv4.ofFrame frame).headerLength + (Header.Udp.ofFrame frame).length.toNat ≤
        (Header.Ipv4.ofFrame frame).totalLength.toNat)
      (hsame : frame'.take (14 + (Header.Ipv4.ofFrame frame).headerLength +
          (Header.Udp.ofFrame frame).length.toNat) =
        frame.take (14 + (Header.Ipv4.ofFrame frame).headerLength +
          (Header.Udp.ofFrame frame).length.toNat))

/-- Both frames start with the same headers of Ethernet and IPv4, options apart. -/
theorem SameButTrailer.headers {frame frame' : Bytes} (hsame : SameButTrailer frame frame')
    (hframe : Ipv4Frame frame) :
    ∃ size, 20 ≤ size ∧ frame'.take (14 + size) = frame.take (14 + size) := by
  have hheader : 20 ≤ (Header.Ipv4.ofFrame frame).headerLength := by
    have hwords := UInt8.le_iff_toNat_le.1 hframe.headerWords
    simp only [UInt8.reduceToNat] at hwords
    simp only [Header.Ipv4.headerLength]
    omega
  cases hsame with
  | packet hsame => exact ⟨_, Nat.le_trans hheader hframe.headerLength, hsame⟩
  | datagram hprotocol hleast hmost hsame =>
      rw [Nat.add_assoc] at hsame
      exact ⟨_, Nat.le_add_right_of_le hheader, hsame⟩

namespace Inbound

/-! ### UDP datagrams -/

/-- **A datagram is checked** up to its own length, and no further. -/
theorem sameUdp_of_take (localIp source : Ipv4Addr) {window window' : Bytes}
    (hleast : 8 ≤ (Header.Udp.read window).length.toNat)
    (hfit : (Header.Udp.read window).length.toNat ≤ window.length)
    (hfit' : (Header.Udp.read window).length.toNat ≤ window'.length)
    (hsame : window'.take (Header.Udp.read window).length.toNat =
      window.take (Header.Udp.read window).length.toNat) :
    SameUdp localIp source window window' where
  check := by
    have hread := Header.read_eq_of_take (fun w => Header.Udp.read_take w hleast) hsame
    have hparse := (Header.Udp.parse_eq_ok_iff window _).2 ⟨Nat.le_trans hleast hfit, rfl⟩
    have hparse' := (Header.Udp.parse_eq_ok_iff window' _).2 ⟨Nat.le_trans hleast hfit', rfl⟩
    rw [hread] at hparse'
    have hguard {length : Nat} (hlength : (Header.Udp.read window).length.toNat ≤ length) :
        ¬(length < (Header.Udp.read window).length.toNat ∨
          (Header.Udp.read window).length.toNat < Header.Udp.size) :=
      not_or.2 ⟨Nat.not_lt.2 hlength, Nat.not_lt.2 hleast⟩
    rw [udp, udp, hparse, hparse']
    simp only [readHeader_ok, bind, Except.bind]
    rw [if_neg (hguard hfit), if_neg (hguard hfit'), hsame]
  content h hok := by
    obtain ⟨-, rfl⟩ := (udp_eq_ok_iff localIp source window h).1 hok
    exact hsame

/-! ### IPv4 packets -/

section

variable (localIp : Ipv4Addr) {window window' : Bytes}
  (hwords : 5 ≤ (Header.Ipv4.read window).headerWords)
  (hheader : (Header.Ipv4.read window).headerLength ≤
    (Header.Ipv4.read window).totalLength.toNat)
  (hfit : (Header.Ipv4.read window).totalLength.toNat ≤ window.length)
  (hfit' : (Header.Ipv4.read window).totalLength.toNat ≤ window'.length)
include hwords hheader hfit hfit'

/-- **A packet is checked** by its header, and the total length that this tells. -/
theorem ipv4_congr
    (hsame : window'.take (Header.Ipv4.read window).headerLength =
      window.take (Header.Ipv4.read window).headerLength) :
    ipv4 localIp window' = ipv4 localIp window := by
  have hbounds : ¬((Header.Ipv4.read window).headerWords < Header.Ipv4.minWords ∨
      Header.Ipv4.maxWords < (Header.Ipv4.read window).headerWords) :=
    not_or.2 ⟨UInt8.not_lt.2 hwords, read_headerWords_le window⟩
  obtain ⟨hleast, hmost⟩ := headerLength_bounds hbounds
  have hread := Header.read_eq_of_take (fun w => Header.Ipv4.read_take w hleast) hsame
  have hlong := Nat.le_trans hheader hfit
  have hlong' := Nat.le_trans hheader hfit'
  have hparse := (Header.Ipv4.parse_eq_ok_iff window _).2 ⟨Nat.le_trans hleast hlong, rfl⟩
  have hparse' := (Header.Ipv4.parse_eq_ok_iff window' _).2 ⟨Nat.le_trans hleast hlong', rfl⟩
  rw [hread] at hparse'
  have hguard {length : Nat} (hlength : (Header.Ipv4.read window).totalLength.toNat ≤ length) :
      ¬(length < (Header.Ipv4.read window).totalLength.toNat ∨
        (Header.Ipv4.read window).totalLength.toNat < (Header.Ipv4.read window).headerLength) :=
    not_or.2 ⟨Nat.not_lt.2 hlength, Nat.not_lt.2 hheader⟩
  -- With its lengths in order, no refusal of a packet tells how many bytes there were.
  rw [ipv4, ipv4, hparse, hparse']
  simp only [readHeader_ok, bind, Except.bind]
  rw [if_neg (hguard hfit), if_neg (hguard hfit'),
    ipv4ChecksumHolds_eq window _ _ hleast hmost hlong,
    ipv4ChecksumHolds_eq window' _ _ hleast hmost hlong', hsame]

/-- Packets that are the same up to their total length. -/
theorem sameIpv4_of_take
    (hsame : window'.take (Header.Ipv4.read window).totalLength.toNat =
      window.take (Header.Ipv4.read window).totalLength.toNat) :
    SameIpv4 localIp window window' where
  check := ipv4_congr localIp hwords hheader hfit hfit' (Bytes.take_eq_of_le hsame hheader)
  content h hok := by
    obtain ⟨-, rfl⟩ := (ipv4_eq_ok_iff localIp window h).1 hok
    exact .inl hsame

/-- Packets that are the same up to the end of the datagram in them. -/
theorem sameIpv4_of_datagram (hprotocol : (Header.Ipv4.read window).protocol = Protocol.udp)
    {length : Nat} (hleast : 8 ≤ length)
    (hlength : (Header.Udp.read (window.drop (Header.Ipv4.read window).headerLength)).length.toNat =
      length)
    (hmost : (Header.Ipv4.read window).headerLength + length ≤
      (Header.Ipv4.read window).totalLength.toNat)
    (hsame : window'.take ((Header.Ipv4.read window).headerLength + length) =
      window.take ((Header.Ipv4.read window).headerLength + length)) :
    SameIpv4 localIp window window' where
  check := ipv4_congr localIp hwords hheader hfit hfit'
    (Bytes.take_eq_of_le hsame (Nat.le_add_right _ _))
  content h hok := by
    obtain ⟨-, rfl⟩ := (ipv4_eq_ok_iff localIp window h).1 hok
    refine .inr ⟨hprotocol, Bytes.take_eq_of_le hsame (Nat.le_add_right _ _), ?_⟩
    have hroom : length ≤ (Header.Ipv4.read window).totalLength.toNat -
        (Header.Ipv4.read window).headerLength := Nat.le_sub_of_add_le' hmost
    have hread : (Header.Udp.read ((window.drop (Header.Ipv4.read window).headerLength).take
        ((Header.Ipv4.read window).totalLength.toNat -
          (Header.Ipv4.read window).headerLength))).length.toNat = length := by
      rw [Header.Udp.read_take _ (Nat.le_trans hleast hroom), hlength]
    rw [List.drop_take, List.drop_take]
    apply sameUdp_of_take
    · rw [hread]
      exact hleast
    · rw [hread, List.length_take, List.length_drop]
      omega
    · rw [hread, List.length_take, List.length_drop]
      omega
    · rw [hread, List.take_take, List.take_take, Nat.min_eq_left hroom]
      exact Bytes.take_drop_eq hsame

end

/-! ### Frames -/

/-- **No check sees more of two frames** than what they share. -/
theorem sameFrame_of_sameButTrailer (localIp : Ipv4Addr) {frame frame' : Bytes}
    (hframe : Ipv4Frame frame) (hframe' : Ipv4Frame frame')
    (hsame : SameButTrailer frame frame') : SameFrame localIp frame frame' := by
  obtain ⟨size, hleast, hfront⟩ := hsame.headers hframe
  have hethernet := Header.read_eq_of_take
    (fun w => Header.Ethernet.read_take w (Nat.le_add_right 14 size)) hfront
  have hipv4 : Header.Ipv4.ofFrame frame' = Header.Ipv4.ofFrame frame :=
    Header.read_eq_of_take (fun w => Header.Ipv4.read_take w hleast) (Bytes.take_drop_eq hfront)
  have htotal := hframe.totalLength
  have htotal' := hframe'.totalLength
  rw [hipv4] at htotal'
  have haccepted := (ethernet_eq_ok_iff frame _).2 ⟨by omega, rfl⟩
  have haccepted' := (ethernet_eq_ok_iff frame' _).2 ⟨by omega, rfl⟩
  rw [hethernet] at haccepted'
  have hroom : (Header.Ipv4.ofFrame frame).totalLength.toNat ≤ (frame.drop 14).length := by
    rw [List.length_drop]
    omega
  have hroom' : (Header.Ipv4.ofFrame frame).totalLength.toNat ≤ (frame'.drop 14).length := by
    rw [List.length_drop]
    omega
  refine ⟨by rw [haccepted, haccepted'], fun h hok => ?_⟩
  cases haccepted.symm.trans hok
  refine .inr ⟨hframe.etherType, ?_⟩
  cases hsame with
  | packet hsame =>
      exact sameIpv4_of_take localIp hframe.headerWords hframe.headerLength hroom hroom'
        (Bytes.take_drop_eq hsame)
  | datagram hprotocol hleast hmost hsame =>
      rw [Nat.add_assoc] at hsame
      refine sameIpv4_of_datagram localIp hframe.headerWords hframe.headerLength hroom hroom'
        hprotocol hleast ?_ hmost (Bytes.take_drop_eq hsame)
      rw [List.drop_drop]
      rfl

end Inbound

/-! ### Hosts -/

/-- The host with a frame that its link gives next. -/
def Host.withNext (h : Host) (frame : Bytes) : Host :=
  { h with link := { h.link with queue := frame :: h.link.queue } }

namespace Likeness

/-- **Bytes behind a packet are invisible.**  Take a host in any state in which it has its own
handlers of ether types and protocols, and poll it for one or the other of two frames that
fit into its buffer and are the same up to the end of their IPv4 packet, or with a UDP
datagram up to the end of that.  Then the same frames are sent, handlers of ports are
called with the same datagrams, the same lines are logged, and the tables and all else are
the same afterwards.  What differs is out of sight: bytes of the receive buffer that are
written over before they are read, and bytes outside of the window of a packet that
waits.  They stay out of sight, whatever is asked of the host later. -/
theorem poll_same_but_trailer (depth : Nat) (h : Host) (own : h.HasOwnHandlers)
    (hfault : h.link.receiveFault = none) {frame frame' : Bytes} (hframe : Ipv4Frame frame)
    (hframe' : Ipv4Frame frame') (hsame : SameButTrailer frame frame')
    (hfit : frame.length ≤ h.config.maxFrame) (hfit' : frame'.length ≤ h.config.maxFrame) :
    ((h.withNext frame).poll (Host.runner depth)).2 = .polled true ∧
    ((h.withNext frame').poll (Host.runner depth)).2 = .polled true ∧
    buffers.SameEffect h h ((h.withNext frame).poll (Host.runner depth)).1
      ((h.withNext frame').poll (Host.runner depth)).1 ∧
    ∀ later : List Action, buffers.SameEffect h h
      (Host.execAll depth ((h.withNext frame).poll (Host.runner depth)).1 later)
      (Host.execAll depth ((h.withNext frame').poll (Host.runner depth)).1 later) := by
  rw [← h.rxBuffer_length] at hfit hfit'
  obtain ⟨rxBuffer_length, hpoll⟩ := Host.poll_of_receive_splice (h.withNext frame)
    (Host.runner depth) (Host.receive_of_queue rfl hfault hfit)
  obtain ⟨rxBuffer_length', hpoll'⟩ := Host.poll_of_receive_splice (h.withNext frame')
    (Host.runner depth) (Host.receive_of_queue rfl hfault hfit')
  rw [hpoll, hpoll']
  let filled : Host := { h with rxBuffer := h.rxBuffer.splice 0 frame, rxBuffer_length }
  let filled' : Host :=
    { h with rxBuffer := h.rxBuffer.splice 0 frame', rxBuffer_length := rxBuffer_length' }
  have alike : buffers.Alike filled filled' := .of_config filled rfl trivial rxBuffer_length'
  -- Both go on from the same trace, so that what each records from here on is all that it does.
  have s : buffers.InStep h.trace h.trace filled filled' :=
    alike.inStep (answersBy_buffers filled)
  have hown : filled.HasOwnHandlers := own.congr rfl rfl
  have hcarries : Inbound.SameFrame filled.config.ip (Packet.ofPayload 0 frame).window
      (Packet.ofPayload 0 frame').window := by
    rw [Packet.window_ofPayload, Packet.window_ofPayload]
    exact Inbound.sameFrame_of_sameButTrailer _ hframe hframe' hsame
  have hreceived := s.receiveFrame (buffers.runner_inStep depth) hcarries (.inr hown)
  refine ⟨rfl, rfl, hreceived.sameEffect, fun later => ?_⟩
  exact (hreceived.execAll depth later fun action _ => action_buffers action).sameEffect

/-- Two frames with a datagram of three bytes that nothing is bound to the port of, and which
is quoted therefore: the packet goes on for two bytes behind it, and one frame for two more
behind that. -/
theorem poll_same_but_trailer_of_unbound :
    ∃ config, Settings.build {} = .ok config ∧
      let shared : Bytes := [2, 0, 0, 0, 0, 1, 2, 0, 0, 0, 0, 2, 8, 0,
        0x45, 0, 0, 33, 0, 0, 0, 0, 64, 17, 0x66, 0xca, 10, 0, 0, 2, 10, 0, 0, 1,
        0, 9, 0, 7, 0, 11, 0, 0, 1, 2, 3]
      let h := Host.silent config {}
      buffers.SameEffect h h ((h.withNext (shared ++ [4, 5, 8, 9])).poll (Host.runner 1)).1
        ((h.withNext (shared ++ [6, 7])).poll (Host.runner 1)).1 := by
  obtain ⟨config, hconfig⟩ : ∃ config, Settings.build {} = .ok config := ⟨_, rfl⟩
  have hmax : config.maxFrame = 1514 := by
    cases hconfig
    rfl
  refine ⟨config, hconfig, ?_⟩
  intro shared h
  have hfit : (shared ++ [4, 5, 8, 9]).length ≤ h.config.maxFrame := by
    show _ ≤ config.maxFrame
    rw [hmax]
    decide
  have hfit' : (shared ++ [6, 7]).length ≤ h.config.maxFrame := by
    show _ ≤ config.maxFrame
    rw [hmax]
    decide
  have hframe : Ipv4Frame (shared ++ [4, 5, 8, 9]) :=
    ⟨by decide, by decide, by decide, by decide⟩
  have hframe' : Ipv4Frame (shared ++ [6, 7]) := ⟨by decide, by decide, by decide, by decide⟩
  have hsame : SameButTrailer (shared ++ [4, 5, 8, 9]) (shared ++ [6, 7]) :=
    .datagram (by decide) (by decide) (by decide) (by decide)
  exact (poll_same_but_trailer 1 h (Host.silent_hasOwnHandlers config {}) rfl hframe hframe' hsame
    hfit hfit').2.2.1

end Likeness

end HostNet
