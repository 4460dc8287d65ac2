import HostNet.Header.Arp
import HostNet.Header.Icmp
import HostNet.Header.Udp

/-!
# Fields at their places

Headers are read by taking a byte string apart from the front.  Here they are given by
the places of their fields instead, which is how the rules for a protocol put it.

* `Bytes.byteAt`, `Bytes.wordAt`, `Bytes.addressAt`, `Bytes.macAt` — what stands at some
  place.
* `Header.Ipv4.read`, `Header.Udp.read` and their like — the fields of a header at their
  places.
* `Header.Ipv4.parse_eq_ok_iff`, `Header.Udp.parse_eq_ok_iff` and their like — that they are
  what is read, if there are bytes enough.
* `Header.Ipv4.read_take`, `Header.Udp.read_take` and their like — that nothing behind the
  header has a part in it.
* `Bytes.eq_map_byteAt_append` — a byte string is the bytes at its places.
-/

namespace HostNet

namespace Bytes

/-- The byte at some place, or zero behind the end. -/
def byteAt (bytes : Bytes) (place : Nat) : UInt8 := bytes.getD place 0

/-- The word whose high byte is at some place. -/
def wordAt (bytes : Bytes) (place : Nat) : UInt16 :=
  Word16.join (bytes.byteAt place) (bytes.byteAt (place + 1))

/-- The address whose first octet is at some place. -/
def addressAt (bytes : Bytes) (place : Nat) : Ipv4Addr :=
  ⟨bytes.byteAt place, bytes.byteAt (place + 1), bytes.byteAt (place + 2),
    bytes.byteAt (place + 3)⟩

/-- The address of a station whose first octet is at some place. -/
def macAt (bytes : Bytes) (place : Nat) : MacAddr :=
  ⟨bytes.byteAt place, bytes.byteAt (place + 1), bytes.byteAt (place + 2),
    bytes.byteAt (place + 3), bytes.byteAt (place + 4), bytes.byteAt (place + 5)⟩

/-- The bytes at the front of a byte string, one by one. -/
theorem take_eq_map_byteAt (bytes : Bytes) (size : Nat) (hsize : size ≤ bytes.length) :
    bytes.take size = (List.range size).map bytes.byteAt := by
  refine List.ext_getElem ?_ fun place h₁ h₂ => ?_
  · rw [List.length_take, List.length_map, List.length_range]
    exact Nat.min_eq_left hsize
  · rw [List.length_take] at h₁
    rw [List.getElem_take, List.getElem_map, List.getElem_range]
    exact List.getElem_eq_getD 0

theorem eq_map_byteAt_append (bytes : Bytes) (size : Nat) (hsize : size ≤ bytes.length) :
    bytes = (List.range size).map bytes.byteAt ++ bytes.drop size := by
  rw [← take_eq_map_byteAt bytes size hsize, List.take_append_drop]

/-- The places of what is left are counted from where it starts. -/
theorem byteAt_drop (bytes : Bytes) (start place : Nat) :
    byteAt (bytes.drop start) place = bytes.byteAt (start + place) := by
  simp [byteAt, List.getD_eq_getElem?_getD]

theorem wordAt_drop (bytes : Bytes) (start place : Nat) :
    wordAt (bytes.drop start) place = bytes.wordAt (start + place) := by
  rw [wordAt, byteAt_drop, byteAt_drop, wordAt, Nat.add_assoc]

/-- A word is two bytes in their places. -/
theorem take_drop_eq_wordAt (bytes : Bytes) (place : Nat) (hfit : place + 2 ≤ bytes.length) :
    (bytes.drop place).take 2 = Word16.bytes (bytes.wordAt place) := by
  rw [take_eq_map_byteAt _ 2 (by rw [List.length_drop]; omega), wordAt, Word16.bytes_join]
  simp [List.range_succ, byteAt_drop]

/-- From some place on a byte string is the word there and what is behind that. -/
theorem drop_eq_wordAt_append (bytes : Bytes) (place : Nat) (hfit : place + 2 ≤ bytes.length) :
    bytes.drop place = Word16.bytes (bytes.wordAt place) ++ bytes.drop (place + 2) := by
  rw [← take_drop_eq_wordAt bytes place hfit, ← List.drop_drop, List.take_append_drop]

/-- A byte in front of the end is not touched by cutting off what lies behind it. -/
theorem byteAt_take (bytes : Bytes) {place size : Nat} (hplace : place < size) :
    byteAt (bytes.take size) place = bytes.byteAt place := by
  simp [byteAt, List.getD_eq_getElem?_getD, hplace]

theorem wordAt_take (bytes : Bytes) {place size : Nat} (hplace : place + 1 < size) :
    wordAt (bytes.take size) place = bytes.wordAt place := by
  rw [wordAt, byteAt_take bytes (Nat.lt_of_succ_lt hplace), byteAt_take bytes hplace, wordAt]

end Bytes

/-- The fields of an IPv4 header at the front of a window. -/
def Header.Ipv4.read (window : Bytes) : Header.Ipv4 where
  version := window.byteAt 0 / 16
  headerWords := window.byteAt 0 % 16
  serviceType := window.byteAt 1
  totalLength := window.wordAt 2
  identification := window.wordAt 4
  flagsFragment := window.wordAt 6
  timeToLive := window.byteAt 8
  protocol := window.byteAt 9
  check := window.wordAt 10
  source := window.addressAt 12
  destination := window.addressAt 16

/-- The fields of a UDP header at the front of a window. -/
def Header.Udp.read (window : Bytes) : Header.Udp where
  source := window.wordAt 0
  destination := window.wordAt 2
  length := window.wordAt 4
  check := window.wordAt 6

/-- The fields of an Ethernet header at the front of a frame. -/
def Header.Ethernet.read (frame : Bytes) : Header.Ethernet where
  destination := frame.macAt 0
  source := frame.macAt 6
  etherType := frame.wordAt 12

/-- The fields of an ARP packet at the front of a window. -/
def Header.Arp.read (window : Bytes) : Header.Arp where
  hardwareType := window.wordAt 0
  protocolType := window.wordAt 2
  hardwareLength := window.byteAt 4
  protocolLength := window.byteAt 5
  operation := window.wordAt 6
  senderMac := window.macAt 8
  senderIp := window.addressAt 14
  targetMac := window.macAt 18
  targetIp := window.addressAt 24

/-- The fields of an ICMP header at the front of a window. -/
def Header.Icmp.read (window : Bytes) : Header.Icmp where
  messageType := window.byteAt 0
  code := window.byteAt 1
  check := window.wordAt 2
  identifier := window.wordAt 4
  sequence := window.wordAt 6

/-- A parser that takes as many bytes as it needs accepts exactly where these are, and gives
what is read in their places. -/
theorem Header.parse_eq_ok_iff_of_read {α : Type} {parse : Bytes → Except Packet.Error α}
    {read : Bytes → α} {size : Nat}
    (hshort : ∀ window header, parse window = .ok header → size ≤ window.length)
    (hread : ∀ window, size ≤ window.length → parse window = .ok (read window))
    (window : Bytes) (header : α) :
    parse window = .ok header ↔ size ≤ window.length ∧ header = read window := by
  constructor
  · intro hparse
    have hsize := hshort window header hparse
    rw [hread window hsize] at hparse
    cases hparse
    exact ⟨hsize, rfl⟩
  · rintro ⟨hsize, rfl⟩
    exact hread window hsize

theorem Header.Ipv4.parse_eq_ok_iff (window : Bytes) (h : Header.Ipv4) :
    parse window = .ok h ↔ size ≤ window.length ∧ h = read window := by
  refine parse_eq_ok_iff_of_read (fun window header hparse => ?_) (fun window hsize => ?_) window h
  · unfold parse at hparse
    split at hparse
    · simp [size]
    · cases hparse
  · exact congrArg parse (window.eq_map_byteAt_append size hsize)

/-- A header as read has four bits for its length, so that it is no longer than 60 bytes. -/
theorem Header.Ipv4.read_headerLength_le (window : Bytes) : (read window).headerLength ≤ 60 := by
  simp only [headerLength, read, UInt8.toNat_mod, UInt8.reduceToNat]
  omega

theorem Header.Udp.parse_eq_ok_iff (window : Bytes) (h : Header.Udp) :
    parse window = .ok h ↔ size ≤ window.length ∧ h = read window := by
  refine parse_eq_ok_iff_of_read (fun window header hparse => ?_) (fun window hsize => ?_) window h
  · unfold parse at hparse
    split at hparse
    · simp [size]
    · cases hparse
  · exact congrArg parse (window.eq_map_byteAt_append size hsize)

theorem Header.Ethernet.parse_eq_ok_iff (window : Bytes) (h : Header.Ethernet) :
    parse window = .ok h ↔ size ≤ window.length ∧ h = read window := by
  refine parse_eq_ok_iff_of_read (fun window header hparse => ?_) (fun window hsize => ?_) window h
  · unfold parse at hparse
    split at hparse
    · simp [size]
    · cases hparse
  · exact congrArg parse (window.eq_map_byteAt_append size hsize)

theorem Header.Arp.parse_eq_ok_iff (window : Bytes) (h : Header.Arp) :
    parse window = .ok h ↔ size ≤ window.length ∧ h = read window := by
  refine parse_eq_ok_iff_of_read (fun window header hparse => ?_) (fun window hsize => ?_) window h
  · unfold parse at hparse
    split at hparse
    · simp [size]
    · cases hparse
  · exact congrArg parse (window.eq_map_byteAt_append size hsize)

theorem Header.Icmp.parse_eq_ok_iff (window : Bytes) (h : Header.Icmp) :
    parse window = .ok h ↔ size ≤ window.length ∧ h = read window := by
  refine parse_eq_ok_iff_of_read (fun window header hparse => ?_) (fun window hsize => ?_) window h
  · unfold parse at hparse
    split at hparse
    · simp [size]
    · cases hparse
  · exact congrArg parse (window.eq_map_byteAt_append size hsize)

/-! ### Headers of windows that are cut off -/

/-- Windows that are the same as far as a header goes have the same one. -/
theorem Header.read_eq_of_take {α : Type} {read : Bytes → α} {n : Nat}
    (hread : ∀ window, read (window.take n) = read window) {window window' : Bytes}
    (hsame : window'.take n = window.take n) : read window' = read window := by
  rw [← hread window', hsame, hread window]

theorem Header.Ethernet.read_take (frame : Bytes) {n : Nat} (hn : 14 ≤ n) :
    read (frame.take n) = read frame := by
  simp (disch := omega) only [read, Bytes.macAt, Bytes.wordAt, Bytes.byteAt_take]

theorem Header.Ipv4.read_take (window : Bytes) {n : Nat} (hn : 20 ≤ n) :
    read (window.take n) = read window := by
  simp (disch := omega) only [read, Bytes.addressAt, Bytes.wordAt, Bytes.byteAt_take]

theorem Header.Udp.read_take (window : Bytes) {n : Nat} (hn : 8 ≤ n) :
    read (window.take n) = read window := by
  simp (disch := omega) only [read, Bytes.wordAt, Bytes.byteAt_take]

end HostNet
