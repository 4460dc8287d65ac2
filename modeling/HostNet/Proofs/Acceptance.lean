import HostNet.Proofs.Checksum
import HostNet.Proofs.Fields
import HostNet.Proofs.Strides

/-!
# Which packets are accepted

`HostNet.Inbound` makes its checks one after another, and checks a sum by working it out
again in a copy whose check field is cleared.  Here what is accepted is described by the
bytes of a window alone, as the rules for the protocols put it: fields at fixed places
within their bounds, and a sum over the bytes *as received* that comes out as zero.

* `Inbound.Ipv4Valid`, `Inbound.UdpValid` — the packets and datagrams that are valid.
* `ipv4_eq_ok_iff`, `udp_eq_ok_iff` — the checks accept exactly these.
* `Host.CallsProtocol`, `Host.CallsPort` — how a handler is called for them.
* `receiveIpv4_accepts`, `receiveUdp_accepts` — what is called, answered and left alone.

### Why the check field of an IPv4 header may not be all ones

Zero has two encodings in a ones' complement sum, so that a field of all ones verifies
wherever a field of zero does.  A header is compared with what comes out for it, and that
is never all ones, as the version is not zero.  A UDP datagram carries all ones instead
of zero, since zero says that there is no checksum.
-/

namespace HostNet

namespace Inbound

/-! ### IPv4 packets -/

/-- What an IPv4 packet at the front of a window carries: the bytes behind its header, up to
its total length. -/
def ipv4Payload (window : Bytes) : Bytes :=
  (window.take (Header.Ipv4.read window).totalLength.toNat).drop
    (Header.Ipv4.read window).headerLength

/-- **The valid IPv4 packets** for a host at `localIp`: of version 4, with a header of at
least 20 bytes that fits into the packet, no longer than the window, with a header whose
bytes sum up to zero, and addressed to the host. -/
structure Ipv4Valid (localIp : Ipv4Addr) (window : Bytes) : Prop where
  size : 20 ≤ window.length
  version : (Header.Ipv4.read window).version = 4
  headerWords : 5 ≤ (Header.Ipv4.read window).headerWords
  headerLength : (Header.Ipv4.read window).headerLength ≤
    (Header.Ipv4.read window).totalLength.toNat
  totalLength : (Header.Ipv4.read window).totalLength.toNat ≤ window.length
  sum : Checksum.ofBytes (window.take (Header.Ipv4.read window).headerLength) = 0
  check : (Header.Ipv4.read window).check ≠ 0xffff
  destination : (Header.Ipv4.read window).destination = localIp

/-- The header of a valid packet is no shorter than a header can be. -/
theorem Ipv4Valid.least {localIp : Ipv4Addr} {window : Bytes}
    (valid : Ipv4Valid localIp window) : 20 ≤ (Header.Ipv4.read window).headerLength := by
  have hwords := UInt8.le_iff_toNat_le.1 valid.headerWords
  simp only [UInt8.reduceToNat] at hwords
  simp only [Header.Ipv4.headerLength]
  omega

/-- **The sum of a header as received** is zero, with a check field that is not all ones,
exactly if that field holds the checksum of the header with the field cleared. -/
theorem headerCheck_iff (window : Bytes) (hversion : (Header.Ipv4.read window).version = 4)
    {size : Nat} (hleast : Header.Ipv4.size ≤ size) (hmost : size ≤ 60)
    (hwindow : size ≤ window.length) :
    Checksum.ofBytes (Bytes.splice (window.take size) Header.Ipv4.checkOffset (Bytes.zeros 2)) =
        (Header.Ipv4.read window).check ↔
      Checksum.ofBytes (window.take size) = 0 ∧ (Header.Ipv4.read window).check ≠ 0xffff := by
  simp only [Header.Ipv4.size] at hleast
  have htake : (window.take size).length = size := List.length_take_of_le hwindow
  have hfield : ((window.take size).drop Header.Ipv4.checkOffset).take 2 =
      Word16.bytes (Header.Ipv4.read window).check := by
    rw [Bytes.take_drop_eq_wordAt _ _ (by simp only [Header.Ipv4.checkOffset]; omega),
      Bytes.wordAt_take _ (by simp only [Header.Ipv4.checkOffset]; omega)]
    rfl
  -- The first byte holds the version, and is not cleared.
  have hfirst : window.byteAt 0 ≠ 0 := by
    intro hzero
    have hread : window.byteAt 0 / 16 = 4 := hversion
    rw [hzero] at hread
    exact absurd hread (by decide)
  have hcons : window.take size = window.byteAt 0 :: (window.take size).drop 1 := by
    have hfront := Bytes.eq_map_byteAt_append (window.take size) 1 (by omega)
    rw [List.range_one, List.map_singleton, Bytes.byteAt_take _ (by omega)] at hfront
    exact hfront
  have hne : Checksum.wordSum (Bytes.splice (window.take size) Header.Ipv4.checkOffset
      (Bytes.zeros 2)) ≠ 0 := by
    rw [hcons]
    exact Checksum.wordSum_ne_zero hfirst _
  have hlength := Checksum.length_clear _ _ _ hfield
  have hiff := Checksum.ofBytes_eq_zero_iff_cleared (window.take size) Header.Ipv4.checkOffset _
    (by decide) hfield (by omega)
  have hones := Checksum.ofBytes_ne_ones hne (by omega)
  rw [hiff]
  constructor
  · intro hcheck
    exact ⟨.inl hcheck.symm, fun h => hones (hcheck.trans h)⟩
  · rintro ⟨hcheck | ⟨-, hcheck⟩, hnot⟩
    · exact hcheck.symm
    · exact absurd hcheck hnot

/-- No header is longer than 15 words. -/
theorem read_headerWords_le (window : Bytes) :
    ¬Header.Ipv4.maxWords < (Header.Ipv4.read window).headerWords := by
  have hlength := Header.Ipv4.read_headerLength_le window
  simp only [Header.Ipv4.headerLength] at hlength
  simp only [Header.Ipv4.maxWords, UInt8.not_lt, UInt8.le_iff_toNat_le, UInt8.reduceToNat]
  omega

/-- **The checks accept exactly the valid packets.** -/
theorem ipv4_eq_ok_iff (localIp : Ipv4Addr) (window : Bytes) (h : Header.Ipv4) :
    ipv4 localIp window = .ok h ↔ Ipv4Valid localIp window ∧ h = Header.Ipv4.read window := by
  constructor
  · intro hok
    unfold ipv4 at hok
    cases hparse : Header.Ipv4.parse window with
    | error cause =>
        rw [hparse] at hok
        cases hok
    | ok header =>
        rw [hparse] at hok
        obtain ⟨hsize, rfl⟩ := (Header.Ipv4.parse_eq_ok_iff window header).1 hparse
        simp only [readHeader_ok, bind, Except.bind] at hok
        split at hok
        · cases hok
        rename_i hversion
        split at hok
        · cases hok
        rename_i hwords
        split at hok
        · cases hok
        rename_i hfit
        obtain ⟨hleast, hmost⟩ := headerLength_bounds hwords
        rw [ipv4ChecksumHolds_eq window _ _ hleast hmost (by omega)] at hok
        simp only [checked] at hok
        split at hok
        · cases hok
        rename_i hholds
        split at hok
        · cases hok
        rename_i hdestination
        cases hok
        have hsum := (headerCheck_iff window (Classical.not_not.1 hversion) hleast hmost
          (by omega)).1 (by simpa using hholds)
        exact ⟨{
          size := hsize
          version := Classical.not_not.1 hversion
          headerWords := UInt8.not_lt.1 fun h => hwords (.inl h)
          headerLength := by omega
          totalLength := by omega
          sum := hsum.1
          check := hsum.2
          destination := Classical.not_not.1 hdestination }, rfl⟩
  · rintro ⟨valid, rfl⟩
    have hwords : ¬((Header.Ipv4.read window).headerWords < Header.Ipv4.minWords ∨
        Header.Ipv4.maxWords < (Header.Ipv4.read window).headerWords) :=
      not_or.2 ⟨UInt8.not_lt.2 valid.headerWords, read_headerWords_le window⟩
    obtain ⟨hleast, hmost⟩ := headerLength_bounds hwords
    have hheader := valid.headerLength
    have htotal := valid.totalLength
    exact ipv4_of_valid ((Header.Ipv4.parse_eq_ok_iff window _).2 ⟨valid.size, rfl⟩)
      valid.version hwords htotal hheader
      ((headerCheck_iff window valid.version hleast hmost (by omega)).2 ⟨valid.sum, valid.check⟩)
      valid.destination

/-! ### UDP datagrams -/

/-- What a UDP datagram at the front of a window carries: the bytes behind its header, up to
its length. -/
def udpPayload (window : Bytes) : Bytes :=
  (window.take (Header.Udp.read window).length.toNat).drop 8

/-- A UDP datagram at the front of a window, as a handler is to see it. -/
def datagram (source : Ipv4Addr) (window : Bytes) : Datagram where
  source
  port := (Header.Udp.read window).source
  payload := udpPayload window

/-- **The valid UDP datagrams** from `source` for a host at `localIp`: with a header, no
shorter than that and no longer than the window, and with bytes that sum up to zero behind
their pseudo header unless there is no checksum. -/
structure UdpValid (localIp source : Ipv4Addr) (window : Bytes) : Prop where
  size : 8 ≤ window.length
  least : 8 ≤ (Header.Udp.read window).length.toNat
  length : (Header.Udp.read window).length.toNat ≤ window.length
  check : (Header.Udp.read window).check = 0 ∨
    Checksum.transport Protocol.udp (window.take (Header.Udp.read window).length.toNat) source
      localIp = 0

/-- **The sum of a segment as received** is zero exactly if its check field, where that is
not zero itself, holds the checksum to be sent for the segment with the field cleared. -/
theorem segmentCheck_iff (localIp source : Ipv4Addr) (window : Bytes) {length : Nat}
    (hleast : Header.Udp.size ≤ length) (hwindow : length ≤ window.length)
    (hmost : length < 65536) (hcheck : (Header.Udp.read window).check ≠ 0) :
    Header.Udp.wireCheck (Checksum.transport Protocol.udp
        (Bytes.splice (window.take length) Header.Udp.checkOffset (Bytes.zeros 2)) source
          localIp) = (Header.Udp.read window).check ↔
      Checksum.transport Protocol.udp (window.take length) source localIp = 0 := by
  simp only [Header.Udp.size] at hleast
  have htake : (window.take length).length = length := List.length_take_of_le hwindow
  have hfield : ((window.take length).drop Header.Udp.checkOffset).take 2 =
      Word16.bytes (Header.Udp.read window).check := by
    rw [Bytes.take_drop_eq_wordAt _ _ (by simp only [Header.Udp.checkOffset]; omega),
      Bytes.wordAt_take _ (by simp only [Header.Udp.checkOffset]; omega)]
    rfl
  rw [Checksum.transport_eq_zero_iff_cleared Protocol.udp (window.take length)
    Header.Udp.checkOffset _ source localIp (by decide) hfield (by omega)]
  generalize Checksum.transport Protocol.udp
    (Bytes.splice (window.take length) Header.Udp.checkOffset (Bytes.zeros 2)) source localIp = sum
  unfold Header.Udp.wireCheck
  by_cases hsum : sum = 0
  · -- Zero is sent as all ones, and a field of zero is excluded.
    rw [if_pos hsum, hsum]
    constructor
    · intro hones
      exact .inr ⟨rfl, hones.symm⟩
    · rintro (hzero | ⟨-, hones⟩)
      · exact absurd hzero hcheck
      · exact hones.symm
  · rw [if_neg hsum]
    constructor
    · intro heq
      exact .inl heq.symm
    · rintro (heq | ⟨hzero, -⟩)
      · exact heq.symm
      · exact absurd hzero hsum

/-- **The checks accept exactly the valid datagrams.** -/
theorem udp_eq_ok_iff (localIp source : Ipv4Addr) (window : Bytes) (h : Header.Udp) :
    udp localIp source window = .ok h ↔
      UdpValid localIp source window ∧ h = Header.Udp.read window := by
  cases hparse : Header.Udp.parse window with
  | error cause =>
      have hnot : ¬UdpValid localIp source window := by
        intro valid
        rw [(Header.Udp.parse_eq_ok_iff window _).2 ⟨valid.size, rfl⟩] at hparse
        cases hparse
      rw [udp, hparse]
      exact ⟨fun hok => (by cases hok), fun h => absurd h.1 hnot⟩
  | ok header =>
      obtain ⟨hsize, rfl⟩ := (Header.Udp.parse_eq_ok_iff window header).1 hparse
      have hlt := (Header.Udp.read window).length.toNat_lt
      rw [udp, hparse]
      simp only [readHeader_ok, bind, Except.bind]
      by_cases hfit : window.length < (Header.Udp.read window).length.toNat ∨
          (Header.Udp.read window).length.toNat < Header.Udp.size
      · rw [if_pos hfit]
        refine ⟨fun hok => (by cases hok), fun h => ?_⟩
        have hleast := h.1.least
        have hlength := h.1.length
        simp only [Header.Udp.size] at hfit
        omega
      · have hleast : Header.Udp.size ≤ (Header.Udp.read window).length.toNat := by omega
        have hlength : (Header.Udp.read window).length.toNat ≤ window.length := by omega
        have htake : (window.take (Header.Udp.read window).length.toNat).length =
            (Header.Udp.read window).length.toNat := List.length_take_of_le hlength
        rw [if_neg hfit]
        by_cases hcheck : (Header.Udp.read window).check = 0
        · rw [if_pos hcheck]
          constructor
          · intro hok
            cases hok
            exact ⟨⟨hsize, hleast, hlength, .inl hcheck⟩, rfl⟩
          · rintro ⟨-, rfl⟩
            rfl
        · have hiff := segmentCheck_iff localIp source window hleast hlength (by omega) hcheck
          rw [if_neg hcheck, udpChecksum_eq _ _ _ (by omega) (by omega)]
          simp only [checked]
          split
          · rename_i hsum
            constructor
            · intro hok
              cases hok
              exact ⟨⟨hsize, hleast, hlength, .inr (hiff.1 hsum)⟩, rfl⟩
            · rintro ⟨-, rfl⟩
              rfl
          · rename_i hsum
            refine ⟨fun hok => (by cases hok), fun h => ?_⟩
            rcases h.1.check with hzero | hzero
            · exact absurd hzero hcheck
            · exact absurd (hiff.2 hzero) hsum

end Inbound

namespace Host

/-! ### What is done with a packet -/

/-- After `h`, the handler of a protocol is called, once, with some bytes from some
source, and what is done besides is what that handler does. -/
def CallsProtocol (run : Runner) (h : Host) (handler : ProtocolHandler) (payload : Bytes)
    (source : Ipv4Addr) (h' : Host) : Prop :=
  ∃ q : Packet, q.window = payload ∧ h' = h.handleProtocol run handler q source

/-- After `h`, the handler bound to a port is called, once, with a datagram, and what is
done besides is what that handler does. -/
def CallsPort (run : Runner) (h : Host) (port : UInt16) (bound : Binding) (d : Datagram)
    (h' : Host) : Prop :=
  h' = (run (.port bound.number bound.name) (bound.body bound.memory d)
      (h.enteringPort port bound d)).1.leavePort port bound.number
        (run (.port bound.number bound.name) (bound.body bound.memory d)
          (h.enteringPort port bound d)).2

/-- A packet that is refused is dropped with a line that says so, and nothing else. -/
theorem refuse_eq_log (h : Host) {refusal : Refusal} (hdrop : refusal.IsDrop) :
    ∃ n : Notice, n.level = .trace ∧ h.refuse refusal = h.log n := by
  obtain ⟨n, rfl, hlevel⟩ := hdrop
  exact ⟨n, hlevel, rfl⟩

/-- What is not accepted is refused. -/
theorem error_of_not_ok {α : Type} {check : Except Refusal α} (hnot : ∀ a, check ≠ .ok a) :
    ∃ refusal, check = .error refusal := by
  cases check with
  | ok a => exact absurd rfl (hnot a)
  | error refusal => exact ⟨refusal, rfl⟩

/-- A packet that is not valid is dropped. -/
theorem receiveIpv4_of_invalid (h : Host) (run : Runner) (p : Packet)
    (hnot : ¬Inbound.Ipv4Valid h.config.ip p.window) :
    ∃ n : Notice, n.level = .trace ∧ h.receiveIpv4 run p = h.log n := by
  obtain ⟨refusal, hrefused⟩ := error_of_not_ok fun ip hok =>
    hnot ((Inbound.ipv4_eq_ok_iff h.config.ip p.window ip).1 hok).1
  rw [receiveIpv4, hrefused]
  exact refuse_eq_log h (Inbound.ipv4_refused hrefused)

/-- A call of the handler of a protocol is recorded before anything else. -/
theorem CallsProtocol.suffix {depth : Nat} {h h' : Host} {handler : ProtocolHandler}
    {payload : Bytes} {source : Ipv4Addr}
    (hcalls : CallsProtocol (runner depth) h handler payload source h') :
    ∃ headRoom, (h.emit (.protocolHandled handler.name? headRoom payload source)).trace <:+
      h'.trace := by
  obtain ⟨q, rfl, rfl⟩ := hcalls
  exact ⟨q.head, (calledProtocol_strides (runner_strides depth) h handler q source).suffix⟩

/-- A host that only took note of something has not called the handler of a protocol. -/
theorem not_callsProtocol_log {depth : Nat} (h : Host) (n : Notice) {handler : ProtocolHandler}
    {payload : Bytes} {source : Ipv4Addr} :
    ¬CallsProtocol (runner depth) h handler payload source (h.log n) := by
  intro hcalls
  obtain ⟨headRoom, hsuffix⟩ := hcalls.suffix
  have heq := hsuffix.eq_of_length rfl
  cases heq

/-- **The packets a host accepts** are exactly the valid ones.  The handler registered for
the protocol is called, once, with the bytes between the header and the total length, if
and only if the packet is valid.  A valid packet of a protocol without a handler is
answered with one message that the protocol could not be reached, to its source, and no
handler is called.  Any other packet leaves nothing behind but a line that explains why it
was dropped. -/
theorem receiveIpv4_accepts (depth : Nat) (h : Host) (p : Packet) :
    (∀ handler,
      h.protocolHandlers.get? (Header.Ipv4.read p.window).protocol = some handler →
        (CallsProtocol (runner depth) h handler (Inbound.ipv4Payload p.window)
            (Header.Ipv4.read p.window).source (h.receiveIpv4 (runner depth) p) ↔
          Inbound.Ipv4Valid h.config.ip p.window)) ∧
    (h.protocolHandlers.get? (Header.Ipv4.read p.window).protocol = none →
      Inbound.Ipv4Valid h.config.ip p.window →
        Sends h (h.receiveIpv4 (runner depth) p) ∧
        ∃ q : Packet,
          q.window = p.window.take (Header.Ipv4.read p.window).totalLength.toNat ∧
          h.receiveIpv4 (runner depth) p =
            (h.log (.protocolUnknown (Header.Ipv4.read p.window).protocol
              (Header.Ipv4.read p.window).source)).sendUnreachable q
                (Header.Ipv4.read p.window).source .protocol) ∧
    (¬Inbound.Ipv4Valid h.config.ip p.window →
      ∃ n : Notice, n.level = .trace ∧ h.receiveIpv4 (runner depth) p = h.log n) := by
  refine ⟨fun handler hhandler => ⟨fun hcalls => ?_, fun valid => ?_⟩, fun hnone valid => ?_,
    receiveIpv4_of_invalid h (runner depth) p⟩
  · apply Classical.byContradiction
    intro hnot
    obtain ⟨n, -, heq⟩ := receiveIpv4_of_invalid h (runner depth) p hnot
    rw [heq] at hcalls
    exact not_callsProtocol_log h n hcalls
  · have haccepted := (Inbound.ipv4_eq_ok_iff h.config.ip p.window _).2 ⟨valid, rfl⟩
    exact receiveIpv4_of_accepted h (runner depth) p haccepted hhandler valid.headerLength
      valid.totalLength
  · have haccepted := (Inbound.ipv4_eq_ok_iff h.config.ip p.window _).2 ⟨valid, rfl⟩
    have heq : h.receiveIpv4 (runner depth) p =
        (h.log (.protocolUnknown (Header.Ipv4.read p.window).protocol
          (Header.Ipv4.read p.window).source)).sendUnreachable
            (p.truncate (Header.Ipv4.read p.window).totalLength.toNat)
            (Header.Ipv4.read p.window).source .protocol := by
      rw [receiveIpv4, haccepted]
      simp only [hnone]
    refine ⟨?_, _, Packet.window_truncate _ _, heq⟩
    rw [heq]
    exact ((Sends.refl h).log _).trans (sendUnreachable_sends _ _ _ _)

/-- A packet with options and bytes behind its total length, one of a protocol that nothing
handles, and one whose check field is wrong. -/
theorem receiveIpv4_accepts_with_options :
    ∃ config, Settings.build {} = .ok config ∧
      CallsProtocol (runner 1) (silent config {}) .udp [1, 2, 3, 4, 5] ⟨10, 0, 0, 2⟩
        ((silent config {}).receiveIpv4 (runner 1) (Packet.ofPayload 0
          [0x46, 0, 0, 29, 0, 1, 0, 0, 64, 17, 0x63, 0xcb, 10, 0, 0, 2, 10, 0, 0, 1, 1, 1, 1, 1,
            1, 2, 3, 4, 5, 0, 0])) ∧
      (∃ q : Packet, (silent config {}).receiveIpv4 (runner 1) (Packet.ofPayload 0
          [0x45, 0, 0, 20, 0, 0, 0, 0, 64, 99, 0x66, 0x85, 10, 0, 0, 2, 10, 0, 0, 1]) =
        ((silent config {}).log (.protocolUnknown 99 ⟨10, 0, 0, 2⟩)).sendUnreachable q
          ⟨10, 0, 0, 2⟩ .protocol) ∧
      ∃ n : Notice, n.level = .trace ∧
        (silent config {}).receiveIpv4 (runner 1) (Packet.ofPayload 0
          [0x45, 0, 0, 20, 0, 0, 0, 0, 64, 99, 0x66, 0x86, 10, 0, 0, 2, 10, 0, 0, 1]) =
            (silent config {}).log n := by
  obtain ⟨config, hconfig⟩ : ∃ config, Settings.build {} = .ok config := ⟨_, rfl⟩
  have hip : (silent config {}).config.ip = ⟨10, 0, 0, 1⟩ := by
    cases hconfig
    rfl
  refine ⟨config, hconfig, ?_, ?_, ?_⟩
  · have haccepts := (receiveIpv4_accepts 1 (silent config {}) (Packet.ofPayload 0
      [0x46, 0, 0, 29, 0, 1, 0, 0, 64, 17, 0x63, 0xcb, 10, 0, 0, 2, 10, 0, 0, 1, 1, 1, 1, 1,
        1, 2, 3, 4, 5, 0, 0])).1 .udp rfl
    rw [Packet.window_ofPayload, hip] at haccepts
    exact haccepts.2 {
      size := by decide
      version := by decide
      headerWords := by decide
      headerLength := by decide
      totalLength := by decide
      sum := (Checksum.ofBytes_eq_zero_iff _ (by decide)).2 (by decide)
      check := by decide
      destination := by decide }
  · have haccepts := (receiveIpv4_accepts 1 (silent config {}) (Packet.ofPayload 0
      [0x45, 0, 0, 20, 0, 0, 0, 0, 64, 99, 0x66, 0x85, 10, 0, 0, 2, 10, 0, 0, 1])).2.1 rfl
    rw [Packet.window_ofPayload, hip] at haccepts
    obtain ⟨-, q, -, hanswered⟩ := haccepts {
      size := by decide
      version := by decide
      headerWords := by decide
      headerLength := by decide
      totalLength := by decide
      sum := (Checksum.ofBytes_eq_zero_iff _ (by decide)).2 (by decide)
      check := by decide
      destination := by decide }
    exact ⟨q, hanswered⟩
  · refine (receiveIpv4_accepts 1 (silent config {}) _).2.2 fun valid => ?_
    have hsum := valid.sum
    rw [Packet.window_ofPayload] at hsum
    exact absurd ((Checksum.ofBytes_eq_zero_iff _ (by decide)).1 hsum) (by decide)

/-! ### What is done with a datagram -/

/-- The bytes before a window are given back to it as they are in the storage. -/
theorem window_moveHead_back (p : Packet) {size : Nat} (hroom : size + 1 ≤ p.head) :
    ∃ q, p.moveHead (.negSucc size) = .ok q ∧
      q.window = (p.storage.drop (p.head - (size + 1))).take (size + 1 + p.size) := by
  have hle := p.head_le_tail
  refine ⟨_, if_pos hroom, ?_⟩
  have hsize : p.tail - (p.head - (size + 1)) = size + 1 + p.size := by
    unfold Packet.size
    omega
  simp only [Packet.window, hsize]

theorem truncate_head (p : Packet) (size : Nat) : (p.truncate size).head = p.head := by
  unfold Packet.truncate
  split
  · rfl
  · rfl

theorem truncate_storage (p : Packet) (size : Nat) : (p.truncate size).storage = p.storage := by
  unfold Packet.truncate
  split
  · rfl
  · rfl

/-- The host as it is about to deliver the datagram at the front of a window. -/
def delivering (h : Host) (window : Bytes) (source : Ipv4Addr) : Host :=
  h.log (.delivering (Inbound.udpPayload window).length source (Header.Udp.read window).source
    (Header.Udp.read window).destination)

/-- The host as it finds nothing bound to the port of the datagram at the front of a
window. -/
def missingPort (h : Host) (window : Bytes) (source : Ipv4Addr) : Host :=
  h.log (.portUnreachable (Header.Udp.read window).destination source
    (Header.Udp.read window).source)

section

variable (depth : Nat) (h : Host) (p : Packet) (source : Ipv4Addr)

/-- A datagram that is not valid is dropped. -/
theorem receiveUdp_of_invalid (hnot : ¬Inbound.UdpValid h.config.ip source p.window) :
    ∃ n : Notice, n.level = .trace ∧ h.receiveUdp (runner depth) p source = h.log n := by
  obtain ⟨refusal, hrefused⟩ := error_of_not_ok fun udp hok =>
    hnot ((Inbound.udp_eq_ok_iff h.config.ip source p.window udp).1 hok).1
  rw [receiveUdp, hrefused]
  exact refuse_eq_log h (Inbound.udp_refused hrefused)

variable (valid : Inbound.UdpValid h.config.ip source p.window)
include valid

/-- A valid datagram for a port without a handler is answered where there is room for an
IPv4 header before it, which is then quoted with it. -/
theorem receiveUdp_of_quotable
    (hnone : h.ports.get? (Header.Udp.read p.window).destination = none) (hroom : 20 ≤ p.head) :
    ∃ q : Packet,
      q.window = (p.storage.drop (p.head - 20)).take
        (20 + (Header.Udp.read p.window).length.toNat) ∧
      h.receiveUdp (runner depth) p source =
        (h.missingPort p.window source).sendUnreachable q source .port := by
  have haccepted := (Inbound.udp_eq_ok_iff h.config.ip source p.window _).2 ⟨valid, rfl⟩
  let cut := p.truncate (Header.Udp.read p.window).length.toNat
  have hhead : cut.head = p.head := truncate_head p _
  have hsize : cut.size = (Header.Udp.read p.window).length.toNat := by
    rw [← Packet.length_window, Packet.window_truncate]
    exact List.length_take_of_le valid.length
  obtain ⟨q, hq, hwindow⟩ := window_moveHead_back cut
    (show 19 + 1 ≤ cut.head by rw [hhead]; exact hroom)
  refine ⟨q, by rw [hwindow, hhead, hsize, truncate_storage], ?_⟩
  have hmove : cut.moveHead (-(Header.Ipv4.size : Int)) = .ok q := hq
  simp only [cut] at hmove
  rw [receiveUdp, haccepted]
  simp only [hnone, hmove]
  rfl

/-- Without that room it is not answered. -/
theorem receiveUdp_of_unquotable
    (hnone : h.ports.get? (Header.Udp.read p.window).destination = none)
    (hroom : ¬20 ≤ p.head) :
    ∃ cause, h.receiveUdp (runner depth) p source =
      (h.missingPort p.window source).log (.udpNotQuotable cause) := by
  have haccepted := (Inbound.udp_eq_ok_iff h.config.ip source p.window _).2 ⟨valid, rfl⟩
  let cut := p.truncate (Header.Udp.read p.window).length.toNat
  have hmove : cut.moveHead (-(Header.Ipv4.size : Int)) =
      .error (.insufficientHeadroom 20 cut.head) :=
    if_neg (by rw [truncate_head]; exact hroom)
  refine ⟨.insufficientHeadroom 20 cut.head, ?_⟩
  simp only [cut] at hmove
  rw [receiveUdp, haccepted]
  simp only [hnone, hmove]
  rfl

variable {bound : Binding}
  (hbound : h.ports.get? (Header.Udp.read p.window).destination = some bound)
include hbound

/-- A valid datagram for a port with a handler is passed to that. -/
theorem receiveUdp_of_bound :
    h.receiveUdp (runner depth) p source =
      (h.delivering p.window source).enterPort (runner depth)
        (Header.Udp.read p.window).destination bound (Inbound.datagram source p.window) := by
  have haccepted := (Inbound.udp_eq_ok_iff h.config.ip source p.window _).2 ⟨valid, rfl⟩
  obtain ⟨q, hq, hwindow⟩ :=
    (p.truncate (Header.Udp.read p.window).length.toNat).strip_of_le Header.Udp.size (by
      rw [Packet.window_truncate, List.length_take_of_le valid.length]
      exact valid.least)
  have hpayload : q.window = Inbound.udpPayload p.window := by
    rw [hwindow, Packet.window_truncate]
    rfl
  rw [receiveUdp, haccepted]
  simp only [hbound, hq, hpayload, ← Packet.length_window]
  rfl

theorem receiveUdp_of_idle (hidle : bound.number ∉ h.running) :
    CallsPort (runner depth) (h.delivering p.window source)
      (Header.Udp.read p.window).destination bound (Inbound.datagram source p.window)
      (h.receiveUdp (runner depth) p source) := by
  rw [receiveUdp_of_bound depth h p source valid hbound]
  exact enterPort_of_idle _ _ _ _ _ hidle

theorem receiveUdp_of_busy (hrunning : bound.number ∈ h.running) :
    h.receiveUdp (runner depth) p source =
      (h.delivering p.window source).log
        (.handlerBusy (Header.Udp.read p.window).destination) := by
  rw [receiveUdp_of_bound depth h p source valid hbound]
  exact if_pos hrunning

end

/-- A call of the handler of a port is recorded before anything that it does. -/
theorem CallsPort.suffix {depth : Nat} {h h' : Host} {port : UInt16} {bound : Binding}
    {d : Datagram} (hcalls : CallsPort (runner depth) h port bound d h') :
    (h.enteringPort port bound d).trace <:+ h'.trace := by
  rw [hcalls]
  exact (calledPort_strides (runner_strides depth) h port bound d).suffix

/-- **The datagrams a host accepts** are exactly the valid ones.  The handler bound to the
port is called, once, with the data, the source and the port that the datagram is from, if
and only if the datagram is valid and that handler is not running.  A valid datagram for a
port without a handler is answered with one message that the port could not be reached, to
its source, if and only if there is room for an IPv4 header before it.  In every other
case nothing is sent and no handler is called; a datagram that is not valid leaves nothing
behind but a line that explains why it was dropped. -/
theorem receiveUdp_accepts (depth : Nat) (h : Host) (p : Packet) (source : Ipv4Addr) :
    (∀ bound, h.ports.get? (Header.Udp.read p.window).destination = some bound →
      (CallsPort (runner depth) (h.delivering p.window source)
          (Header.Udp.read p.window).destination bound (Inbound.datagram source p.window)
          (h.receiveUdp (runner depth) p source) ↔
        Inbound.UdpValid h.config.ip source p.window ∧ bound.number ∉ h.running) ∧
      (bound.number ∈ h.running → Noted h (h.receiveUdp (runner depth) p source))) ∧
    (h.ports.get? (Header.Udp.read p.window).destination = none →
      Inbound.UdpValid h.config.ip source p.window →
        ((∃ q : Packet,
            q.window = (p.storage.drop (p.head - 20)).take
              (20 + (Header.Udp.read p.window).length.toNat) ∧
            h.receiveUdp (runner depth) p source =
              (h.missingPort p.window source).sendUnreachable q source .port) ↔
          20 ≤ p.head) ∧
        Sends h (h.receiveUdp (runner depth) p source) ∧
        (p.head < 20 → Noted h (h.receiveUdp (runner depth) p source))) ∧
    (¬Inbound.UdpValid h.config.ip source p.window →
      ∃ n : Notice, n.level = .trace ∧ h.receiveUdp (runner depth) p source = h.log n) := by
  refine ⟨fun bound hbound => ⟨⟨fun hcalls => ?_, ?_⟩, fun hrunning => ?_⟩,
    fun hnone valid => ⟨⟨?_, fun hroom => ?_⟩, ?_, fun hroom => ?_⟩,
    receiveUdp_of_invalid depth h p source⟩
  · -- The line and the record of the call are more than an invalid datagram leaves, and
    -- not what one for a running handler leaves.
    have hsuffix := hcalls.suffix
    by_cases valid : Inbound.UdpValid h.config.ip source p.window
    · refine ⟨valid, fun hrunning => ?_⟩
      rw [receiveUdp_of_busy depth h p source valid hbound hrunning] at hsuffix
      cases hsuffix.eq_of_length rfl
    · obtain ⟨n, -, heq⟩ := receiveUdp_of_invalid depth h p source valid
      rw [heq] at hsuffix
      have hlength := hsuffix.length_le
      simp only [enteringPort, delivering, log, emit, List.length_cons] at hlength
      omega
  · rintro ⟨valid, hidle⟩
    exact receiveUdp_of_idle depth h p source valid hbound hidle
  · by_cases valid : Inbound.UdpValid h.config.ip source p.window
    · rw [receiveUdp_of_busy depth h p source valid hbound hrunning]
      exact ((Noted.refl h).log _).log _
    · obtain ⟨n, -, heq⟩ := receiveUdp_of_invalid depth h p source valid
      rw [heq]
      exact (Noted.refl h).log n
  · rintro ⟨q, -, heq⟩
    apply Classical.byContradiction
    intro hroom
    obtain ⟨cause, hdropped⟩ := receiveUdp_of_unquotable depth h p source valid hnone hroom
    have hsuffix :=
      (loggedUnreachable_steps (h.missingPort p.window source) q source .port).suffix
    rw [← heq, hdropped] at hsuffix
    cases hsuffix.eq_of_length rfl
  · exact receiveUdp_of_quotable depth h p source valid hnone hroom
  · by_cases hroom : 20 ≤ p.head
    · obtain ⟨q, -, heq⟩ := receiveUdp_of_quotable depth h p source valid hnone hroom
      rw [heq]
      exact ((Sends.refl h).log _).trans (sendUnreachable_sends _ _ _ _)
    · obtain ⟨cause, heq⟩ := receiveUdp_of_unquotable depth h p source valid hnone hroom
      rw [heq]
      exact ((Sends.refl h).log _).log _
  · obtain ⟨cause, heq⟩ := receiveUdp_of_unquotable depth h p source valid hnone
      (Nat.not_le.2 hroom)
    rw [heq]
    exact ((Noted.refl h).log _).log _

/-- A datagram with a checksum and bytes behind its length: for a port that a handler is
bound to, for one that nothing is bound to, and with its check field wrong. -/
theorem receiveUdp_accepts_three_bytes :
    ∃ config, Settings.build {} = .ok config ∧
      (∃ bound, CallsPort (runner 1)
        ((execAll 1 (silent config {}) [.openPort 7 "sink" fun _ _ => .done 0]).delivering
          [0, 9, 0, 7, 0, 11, 0xe7, 0xc3, 1, 2, 3, 0] ⟨10, 0, 0, 2⟩) 7 bound
        ⟨⟨10, 0, 0, 2⟩, 9, [1, 2, 3]⟩
        ((execAll 1 (silent config {}) [.openPort 7 "sink" fun _ _ => .done 0]).receiveUdp
          (runner 1) (Packet.ofPayload 0 [0, 9, 0, 7, 0, 11, 0xe7, 0xc3, 1, 2, 3, 0])
          ⟨10, 0, 0, 2⟩)) ∧
      (∃ q : Packet, (silent config {}).receiveUdp (runner 1)
          (Packet.ofPayload 20 [0, 9, 0, 7, 0, 11, 0xe7, 0xc3, 1, 2, 3, 0]) ⟨10, 0, 0, 2⟩ =
        ((silent config {}).log (.portUnreachable 7 ⟨10, 0, 0, 2⟩ 9)).sendUnreachable q
          ⟨10, 0, 0, 2⟩ .port) ∧
      ∃ n : Notice, n.level = .trace ∧
        (silent config {}).receiveUdp (runner 1)
          (Packet.ofPayload 20 [0, 9, 0, 7, 0, 11, 0xe7, 0xc4, 1, 2, 3, 0]) ⟨10, 0, 0, 2⟩ =
            (silent config {}).log n := by
  obtain ⟨config, hconfig⟩ : ∃ config, Settings.build {} = .ok config := ⟨_, rfl⟩
  have hip : (silent config {}).config.ip = ⟨10, 0, 0, 1⟩ := by
    cases hconfig
    rfl
  have valid : Inbound.UdpValid ⟨10, 0, 0, 1⟩ ⟨10, 0, 0, 2⟩
      [0, 9, 0, 7, 0, 11, 0xe7, 0xc3, 1, 2, 3, 0] := {
    size := by decide
    least := by decide
    length := by decide
    check := .inr (by
      rw [← UInt16.toNat_inj, Checksum.toNat_transport _ _ _ _ (by decide)]
      decide) }
  refine ⟨config, hconfig, ?_, ?_, ?_⟩
  · let h := execAll 1 (silent config {}) [.openPort 7 "sink" fun _ _ => .done 0]
    have haccepts := (receiveUdp_accepts 1 h
      (Packet.ofPayload 0 [0, 9, 0, 7, 0, 11, 0xe7, 0xc3, 1, 2, 3, 0]) ⟨10, 0, 0, 2⟩).1 _ rfl
    have hlocal : h.config.ip = ⟨10, 0, 0, 1⟩ := hip
    rw [Packet.window_ofPayload, hlocal] at haccepts
    exact ⟨_, haccepts.1.2 ⟨valid, by simp [h, execAll, exec, perform, silent, emit]⟩⟩
  · have haccepts := (receiveUdp_accepts 1 (silent config {})
      (Packet.ofPayload 20 [0, 9, 0, 7, 0, 11, 0xe7, 0xc3, 1, 2, 3, 0]) ⟨10, 0, 0, 2⟩).2.1 rfl
    rw [Packet.window_ofPayload, hip] at haccepts
    obtain ⟨q, -, hanswered⟩ := (haccepts valid).1.2 (Nat.le_refl 20)
    exact ⟨q, hanswered⟩
  · refine (receiveUdp_accepts 1 (silent config {}) _ _).2.2 fun valid => ?_
    rw [Packet.window_ofPayload, hip] at valid
    rcases valid.check with hzero | hsum
    · exact absurd hzero (by decide)
    · rw [← UInt16.toNat_inj, Checksum.toNat_transport _ _ _ _ (by decide)] at hsum
      exact absurd hsum (by decide)

end Host

end HostNet
