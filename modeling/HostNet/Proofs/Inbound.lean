import HostNet.Inbound

/-!
# Checks of received packets, without their scratch areas

`HostNet.Inbound` works out checksums in copies of headers and segments, by
operations that are checked.  Here the checks are given by what they look at, and
the guards before them are shown to keep every checked operation within its domain.

* `ipv4ChecksumHolds_eq`, `udpChecksum_eq` — the checksums, as functions of the bytes.
* `ipv4_of_valid`, `udp_of_valid` — the conditions under which a packet is accepted.
* `Refusal.IsDrop` — a refusal that only explains why a packet was dropped.
* `ipv4_refused`, `udp_refused` and their like — what is not accepted is dropped, so that
  no bytes whatever lead to a fault (`ipv4_ne_fault`, `udp_ne_fault`).
-/

namespace HostNet

/-- Whether a refusal explains, in a line of the level of things dropped, why a packet
was dropped. -/
def Refusal.IsDrop (r : Refusal) : Prop := ∃ n : Notice, r = .notice n ∧ n.level = .trace

theorem Refusal.IsDrop.ne_fault {r : Refusal} (hdrop : r.IsDrop) (f : Fault) : r ≠ .fault f := by
  obtain ⟨n, rfl, -⟩ := hdrop
  exact nofun

end HostNet

namespace HostNet.Inbound

/-! ### Ethernet, ARP and ICMP -/

@[simp] theorem readHeader_ok {α : Type} (notice : Packet.Error → Notice) (header : α) :
    readHeader notice (.ok header) = .ok header := rfl

@[simp] theorem readHeader_error {α : Type} (notice : Packet.Error → Notice)
    (cause : Packet.Error) :
    readHeader notice (.error cause : Except Packet.Error α) = .error (.notice (notice cause)) :=
  rfl

/-- Reading a header fails under the notice that is given for it. -/
theorem readHeader_refused {α : Type} {notice : Packet.Error → Notice}
    {read : Except Packet.Error α} {refusal : Refusal}
    (hnotice : ∀ cause, (notice cause).level = .trace)
    (hrefused : readHeader notice read = .error refusal) : refusal.IsDrop := by
  cases read with
  | ok header => cases hrefused
  | error cause =>
      cases hrefused
      exact ⟨notice cause, rfl, hnotice cause⟩

theorem ethernet_refused {window : Bytes} {refusal : Refusal}
    (hrefused : ethernet window = .error refusal) : refusal.IsDrop :=
  readHeader_refused (fun _ => rfl) hrefused

theorem ethernet_ne_fault (window : Bytes) (f : Fault) :
    ethernet window ≠ .error (.fault f) :=
  fun hrefused => (ethernet_refused hrefused).ne_fault f rfl

/-- A frame that is accepted is long enough for the header that is read from it. -/
theorem parse_of_ethernet_ok {window : Bytes} {h : Header.Ethernet}
    (hok : ethernet window = .ok h) :
    Header.Ethernet.parse window = .ok h ∧ Header.Ethernet.size ≤ window.length := by
  cases hparse : Header.Ethernet.parse window with
  | error cause =>
      rw [ethernet, hparse] at hok
      cases hok
  | ok header =>
      rw [ethernet, hparse] at hok
      cases hok
      refine ⟨rfl, ?_⟩
      unfold Header.Ethernet.parse at hparse
      split at hparse
      · simp [Header.Ethernet.size]
      · cases hparse

theorem arp_of_supported (h : Header.Arp) (rest : Bytes) (hsupported : h.isSupported = true) :
    arp (h.bytes ++ rest) = .ok h := by
  rw [arp, Header.Arp.parse_append]
  simp only [readHeader_ok, bind, Except.bind, hsupported, if_true]
  rfl

theorem arp_refused {window : Bytes} {refusal : Refusal}
    (hrefused : arp window = .error refusal) : refusal.IsDrop := by
  unfold arp at hrefused
  cases hparse : Header.Arp.parse window with
  | error cause =>
      rw [hparse] at hrefused
      cases hrefused
      exact ⟨_, rfl, rfl⟩
  | ok h =>
      rw [hparse] at hrefused
      simp only [readHeader_ok, bind, Except.bind] at hrefused
      split at hrefused
      · cases hrefused
      · cases hrefused
        exact ⟨_, rfl, rfl⟩

theorem arp_ne_fault (window : Bytes) (f : Fault) : arp window ≠ .error (.fault f) :=
  fun hrefused => (arp_refused hrefused).ne_fault f rfl

theorem icmp_refused {source : Ipv4Addr} {window : Bytes} {refusal : Refusal}
    (hrefused : icmp source window = .error refusal) : refusal.IsDrop := by
  unfold icmp at hrefused
  cases hparse : Header.Icmp.parse window with
  | error cause =>
      rw [hparse] at hrefused
      cases hrefused
      exact ⟨_, rfl, rfl⟩
  | ok h =>
      rw [hparse] at hrefused
      simp only [readHeader_ok, bind, Except.bind] at hrefused
      split at hrefused
      · cases hrefused
      · cases hrefused
        exact ⟨_, rfl, rfl⟩

theorem icmp_ne_fault (source : Ipv4Addr) (window : Bytes) (f : Fault) :
    icmp source window ≠ .error (.fault f) :=
  fun hrefused => (icmp_refused hrefused).ne_fault f rfl

/-- A message that is accepted is long enough for a header. -/
theorem size_le_of_icmp_ok {source : Ipv4Addr} {window : Bytes} {h : Header.Icmp}
    (hok : icmp source window = .ok h) : Header.Icmp.size ≤ window.length := by
  unfold icmp at hok
  cases hparse : Header.Icmp.parse window with
  | error cause =>
      rw [hparse] at hok
      cases hok
  | ok header =>
      unfold Header.Icmp.parse at hparse
      split at hparse
      · simp [Header.Icmp.size]
      · cases hparse

/-! ### IPv4 -/

/-- **The checksum of a header is taken over its bytes as received**, with zeros in
the place of the check field, whatever the size of the scratch area. -/
theorem ipv4ChecksumHolds_eq (window : Bytes) (size : Nat) (check : UInt16)
    (hleast : Header.Ipv4.size ≤ size) (hmost : size ≤ 60) (hwindow : size ≤ window.length) :
    ipv4ChecksumHolds window size check =
      .ok (Checksum.ofBytes (Bytes.splice (window.take size) Header.Ipv4.checkOffset (Bytes.zeros 2))
        == check) := by
  have hscratch : (Bytes.zeros (Header.Ipv4.maxWords.toNat * 4)).length = 60 :=
    Bytes.length_zeros _
  have htake : (window.take size).length = size := List.length_take_of_le hwindow
  have hslice : Checked.slice window 0 size = .ok (window.take size) := by
    rw [Checked.slice_of_le _ _ _ (by omega), List.drop_zero]
  have hcopy := Checked.overwrite_of_le (Bytes.zeros (Header.Ipv4.maxWords.toNat * 4)) 0
    (window.take size) (by omega)
  -- What is copied is the front of the scratch area afterwards.
  have hfront : ((Bytes.zeros (Header.Ipv4.maxWords.toNat * 4)).splice 0
      (window.take size)).take size = window.take size := by
    rw [Bytes.splice, List.take_zero, List.nil_append, List.take_left' htake]
  have hcopied : ((Bytes.zeros (Header.Ipv4.maxWords.toNat * 4)).splice 0
      (window.take size)).length = 60 := by
    rw [Bytes.length_splice _ _ _ (Nat.zero_le _)]
    omega
  have hfield : Header.Ipv4.checkOffset + (Bytes.zeros 2).length ≤ size := by
    simp only [Header.Ipv4.checkOffset, Bytes.length_zeros, Header.Ipv4.size] at *
    omega
  have hclear := Checked.overwrite_of_le ((Bytes.zeros (Header.Ipv4.maxWords.toNat * 4)).splice 0
    (window.take size)) Header.Ipv4.checkOffset (Bytes.zeros 2) (by omega)
  have hread := Checked.slice_of_le (((Bytes.zeros (Header.Ipv4.maxWords.toNat * 4)).splice 0
    (window.take size)).splice Header.Ipv4.checkOffset (Bytes.zeros 2)) 0 size (by
      rw [Bytes.length_splice _ _ _ (by omega)]
      omega)
  rw [List.drop_zero, Bytes.take_splice _ _ _ _ hfield (by omega), hfront] at hread
  rw [ipv4ChecksumHolds, hslice]
  simp only [bind, Except.bind]
  rw [hcopy]
  simp only []
  rw [hclear]
  simp only []
  rw [hread]
  rfl

/-- The length of a header whose words are within their bounds. -/
theorem headerLength_bounds {h : Header.Ipv4}
    (hwords : ¬(h.headerWords < Header.Ipv4.minWords ∨ Header.Ipv4.maxWords < h.headerWords)) :
    Header.Ipv4.size ≤ h.headerLength ∧ h.headerLength ≤ 60 := by
  obtain ⟨hmin, hmax⟩ := not_or.1 hwords
  rw [UInt8.not_lt, UInt8.le_iff_toNat_le] at hmin hmax
  simp only [Header.Ipv4.minWords, Header.Ipv4.maxWords, UInt8.reduceToNat] at hmin hmax
  simp only [Header.Ipv4.headerLength, Header.Ipv4.size]
  omega

/-- **A packet is accepted** if it passes every check. -/
theorem ipv4_of_valid {localIp : Ipv4Addr} {window : Bytes} {h : Header.Ipv4}
    (hparse : Header.Ipv4.parse window = .ok h) (hversion : h.version = 4)
    (hwords : ¬(h.headerWords < Header.Ipv4.minWords ∨ Header.Ipv4.maxWords < h.headerWords))
    (htotal : h.totalLength.toNat ≤ window.length)
    (hlength : h.headerLength ≤ h.totalLength.toNat)
    (hcheck : Checksum.ofBytes (Bytes.splice (window.take h.headerLength) Header.Ipv4.checkOffset
      (Bytes.zeros 2)) = h.check)
    (hdestination : h.destination = localIp) :
    ipv4 localIp window = .ok h := by
  obtain ⟨hleast, hmost⟩ := headerLength_bounds hwords
  have hfit : ¬(window.length < h.totalLength.toNat ∨ h.totalLength.toNat < h.headerLength) := by
    omega
  rw [ipv4, hparse]
  simp only [readHeader_ok, bind, Except.bind]
  rw [if_neg (not_not_intro hversion), if_neg hwords, if_neg hfit,
    ipv4ChecksumHolds_eq window _ _ hleast hmost (by omega)]
  simp only [checked, hcheck, BEq.rfl, Bool.not_true, Bool.false_eq_true, if_false]
  rw [if_neg (not_not_intro hdestination)]
  rfl

/-- **What is not accepted is dropped**: the header fits into the scratch area and into
the window by the time its checksum is looked at. -/
theorem ipv4_refused {localIp : Ipv4Addr} {window : Bytes} {refusal : Refusal}
    (hrefused : ipv4 localIp window = .error refusal) : refusal.IsDrop := by
  unfold ipv4 at hrefused
  cases hparse : Header.Ipv4.parse window with
  | error cause =>
      rw [hparse] at hrefused
      cases hrefused
      exact ⟨_, rfl, rfl⟩
  | ok h =>
      rw [hparse] at hrefused
      simp only [readHeader_ok, bind, Except.bind] at hrefused
      split at hrefused
      · cases hrefused
        exact ⟨_, rfl, rfl⟩
      split at hrefused
      · cases hrefused
        exact ⟨_, rfl, rfl⟩
      rename_i hwords
      split at hrefused
      · cases hrefused
        exact ⟨_, rfl, rfl⟩
      rename_i hfit
      obtain ⟨hleast, hmost⟩ := headerLength_bounds hwords
      rw [ipv4ChecksumHolds_eq window _ _ hleast hmost (by omega)] at hrefused
      simp only [checked] at hrefused
      split at hrefused
      · cases hrefused
        exact ⟨_, rfl, rfl⟩
      split at hrefused
      · cases hrefused
        exact ⟨_, rfl, rfl⟩
      · cases hrefused

theorem ipv4_ne_fault (localIp : Ipv4Addr) (window : Bytes) (f : Fault) :
    ipv4 localIp window ≠ .error (.fault f) :=
  fun hrefused => (ipv4_refused hrefused).ne_fault f rfl

/-! ### UDP -/

/-- The checksum of a segment is taken over its bytes as received, with zeros in the
place of the check field. -/
theorem udpChecksum_eq (localIp source : Ipv4Addr) (segment : Bytes)
    (hleast : Header.Udp.size ≤ segment.length) (hmost : segment.length < 65536) :
    udpChecksum localIp source segment =
      .ok (Header.Udp.wireCheck (Checksum.transport Protocol.udp
        (segment.splice Header.Udp.checkOffset (Bytes.zeros 2)) source localIp)) := by
  have hfield : Header.Udp.checkOffset + (Bytes.zeros 2).length ≤ segment.length := by
    simp only [Header.Udp.checkOffset, Bytes.length_zeros, Header.Udp.size] at *
    omega
  have hlength : (segment.splice Header.Udp.checkOffset (Bytes.zeros 2)).length < 65536 := by
    rw [Bytes.length_splice _ _ _ (by omega)]
    omega
  rw [udpChecksum, Checked.overwrite_of_le _ _ _ hfield]
  simp only [bind, Except.bind]
  rw [Checked.word16_of_lt _ hlength]
  rfl

/-- **A datagram is accepted** if it passes every check and carries a checksum. -/
theorem udp_of_valid {localIp source : Ipv4Addr} {window : Bytes} {h : Header.Udp}
    (hparse : Header.Udp.parse window = .ok h) (hlength : h.length.toNat ≤ window.length)
    (hleast : Header.Udp.size ≤ h.length.toNat)
    (hcheck : Header.Udp.wireCheck (Checksum.transport Protocol.udp
      (Bytes.splice (window.take h.length.toNat) Header.Udp.checkOffset (Bytes.zeros 2)) source
        localIp) = h.check) :
    udp localIp source window = .ok h := by
  have hfit : ¬(window.length < h.length.toNat ∨ h.length.toNat < Header.Udp.size) := by omega
  have htake : (window.take h.length.toNat).length = h.length.toNat :=
    List.length_take_of_le hlength
  have hlt := h.length.toNat_lt
  rw [udp, hparse]
  simp only [readHeader_ok, bind, Except.bind]
  rw [if_neg hfit, udpChecksum_eq _ _ _ (by omega) (by omega)]
  simp only [checked, hcheck, if_true]
  split
  · rfl
  · rfl

/-- **What is not accepted is dropped**: the check field is within the window by the time
it is cleared, and no longer segment is summed than a length field can tell. -/
theorem udp_refused {localIp source : Ipv4Addr} {window : Bytes} {refusal : Refusal}
    (hrefused : udp localIp source window = .error refusal) : refusal.IsDrop := by
  unfold udp at hrefused
  cases hparse : Header.Udp.parse window with
  | error cause =>
      rw [hparse] at hrefused
      cases hrefused
      exact ⟨_, rfl, rfl⟩
  | ok h =>
      rw [hparse] at hrefused
      simp only [readHeader_ok, bind, Except.bind] at hrefused
      split at hrefused
      · cases hrefused
        exact ⟨_, rfl, rfl⟩
      rename_i hfit
      have hlt := h.length.toNat_lt
      have htake : (window.take h.length.toNat).length = h.length.toNat :=
        List.length_take_of_le (by omega)
      rw [udpChecksum_eq _ _ _ (by omega) (by omega)] at hrefused
      simp only [checked] at hrefused
      split at hrefused
      · cases hrefused
      split at hrefused
      · cases hrefused
      · cases hrefused
        exact ⟨_, rfl, rfl⟩

theorem udp_ne_fault (localIp source : Ipv4Addr) (window : Bytes) (f : Fault) :
    udp localIp source window ≠ .error (.fault f) :=
  fun hrefused => (udp_refused hrefused).ne_fault f rfl

end HostNet.Inbound
