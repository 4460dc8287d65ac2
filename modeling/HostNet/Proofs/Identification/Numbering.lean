import HostNet.Proofs.Fragmentation
import HostNet.Proofs.Moves
import HostNet.Proofs.Resolution.Waiting

/-!
# Numbers of datagrams

A datagram is given the next number when it is submitted.  Datagrams are submitted by
applications, by handlers that are called in the middle of something else, and by the host
itself as answers and as messages of what could not be delivered.  They are all counted in
one row, and this file counts them.

* `Host.identifications` — the numbers that were given, in order.
* `Host.Dispatches` — since some host, just these packets were to go out, and no datagram was
  given a number.
* `sendPacket_dispatches`, `receiveArp_dispatches`, `sendDatagram_dispatches` — the packets of
  whatever is sent or received.
* `Stride.dispatches` — a stride counts nothing, or it is a datagram that is not too long.
* `Host.Numbering` — what is true of numbers and packets after every stride
  (`Numbering.stride`, `Strides.numbering`).

### Why the packets of a datagram come first

A trace does not say of a packet to which datagram it belongs.  But a datagram is cut up
and its packets dispatched in one go, so that the packets dispatched next after it was
submitted are its own, as many as there are.  Packets that are dispatched later belong to
other datagrams or to none.
-/

namespace HostNet

open History

/-! ### Reading records -/

namespace Event

/-- The identification that a datagram was given. -/
def identification? : Event → Option UInt16
  | submitted identification _ _ _ => some identification
  | _ => none

/-- The packet that was to go out, with where to. -/
def packet? : Event → Option (Ipv4Addr × Bytes)
  | dispatched target packet _ => some (target, packet)
  | _ => none

/-- Whether the event is neither about an identification nor about a packet that is to go
out. -/
structure IsNumberless (e : Event) : Prop where
  identification : e.identification? = none
  packet : e.packet? = none

theorem IsNote.isNumberless {e : Event} (he : e.IsNote) : e.IsNumberless := by
  cases e with
  | submitted identification payload destination protocol => exact he.elim
  | dispatched target packet fate => exact he.elim
  | _ => exact ⟨rfl, rfl⟩

end Event

namespace History

/-- The packets that were to go out, with where to, the oldest one first. -/
def packets (records : List Record) : List (Ipv4Addr × Bytes) :=
  (records.filterMap fun r => r.event.packet?).reverse

theorem packets_append (block records : List Record) :
    packets (block ++ records) = packets records ++ packets block := by
  rw [packets, List.filterMap_append, List.reverse_append]
  rfl

theorem packets_cons (r : Record) (records : List Record) :
    packets (r :: records) = packets records ++ r.event.packet?.toList := by
  rw [packets, List.filterMap_cons]
  cases r.event.packet? with
  | none => exact (List.append_nil _).symm
  | some packet => exact List.reverse_cons

theorem packets_eq_nil {block : List Record} (hblock : ∀ r ∈ block, r.event.IsNumberless) :
    packets block = [] := by
  rw [packets, List.reverse_eq_nil_iff, List.filterMap_eq_nil_iff]
  exact fun r hr => (hblock r hr).packet

/-- What is recorded because an address was learned may be about a packet that was to go out
long ago, but about no other. -/
theorem isNumberless_of_mem_answer {c : Config} {time : Nat} {ip : Ipv4Addr} {mac : MacAddr}
    {asked : Bool} {fault : Option LinkError} {waiting : Option Bytes} {r : Record}
    (hr : r ∈ answer c time ip mac asked fault waiting) : r.event.IsNumberless := by
  rcases noteAt_of_mem_answer hr with note | ⟨packet, -, rfl⟩
  · exact note.isNote.isNumberless
  · exact ⟨rfl, rfl⟩

end History

/-- The packets that a payload is sent in. -/
def Outbound.packetsOf (c : Config) (destination : Ipv4Addr) (protocol : UInt8)
    (identification : UInt16) (payload : Bytes) : List Bytes :=
  fragments c destination protocol identification 0 (pieces c.threshold payload)

namespace Host

/-- The identifications given to datagrams, in order. -/
def identifications (h : Host) : List UInt16 := h.observed Event.identification?

/-! ### Packets that are to go out -/

theorem identifications_submitting (h : Host) (p : Packet) (destination : Ipv4Addr)
    (protocol : UInt8) :
    (h.submitting p destination protocol).identifications = h.identifications ++ [h.nextId] :=
  observed_emit Event.identification? { h with nextId := h.nextId + 1 } _

/-- Since `h`, just these packets were to go out, in order, and no datagram was given an
identification. -/
structure Dispatches (h h' : Host) (dispatched : List (Ipv4Addr × Bytes)) : Prop where
  config : h'.config = h.config
  nextId : h'.nextId = h.nextId
  records : ∃ block, h'.trace = block ++ h.trace ∧ packets block = dispatched ∧
    ∀ r ∈ block, r.event.identification? = none

namespace Dispatches

variable {h h₁ h₂ : Host} {first second : List (Ipv4Addr × Bytes)}

theorem trans (d₁ : Dispatches h h₁ first) (d₂ : Dispatches h₁ h₂ second) :
    Dispatches h h₂ (first ++ second) where
  config := d₂.config.trans d₁.config
  nextId := d₂.nextId.trans d₁.nextId
  records := by
    obtain ⟨block₁, htrace₁, hpackets₁, hnone₁⟩ := d₁.records
    obtain ⟨block₂, htrace₂, hpackets₂, hnone₂⟩ := d₂.records
    refine ⟨block₂ ++ block₁, by rw [htrace₂, htrace₁, List.append_assoc],
      by rw [packets_append, hpackets₁, hpackets₂], fun r hr => ?_⟩
    rcases List.mem_append.1 hr with hr | hr
    · exact hnone₂ r hr
    · exact hnone₁ r hr

/-- Where nothing was recorded, nothing was to go out. -/
theorem of_arranged (arranged : Arranged h h₁) : Dispatches h h₁ [] where
  config := arranged.config
  nextId := arranged.nextId
  records := ⟨[], arranged.trace, rfl, fun _ hr => absurd hr List.not_mem_nil⟩

theorem refl (h : Host) : Dispatches h h [] :=
  of_arranged ⟨rfl, rfl, rfl, rfl, rfl, Nat.le_refl _⟩

theorem of_records {block : List Record} (records : h.Records block h₁)
    (hnone : ∀ r ∈ block, r.event.identification? = none) :
    Dispatches h h₁ (packets block) := by
  obtain ⟨link, rfl⟩ := records
  exact ⟨rfl, rfl, block, rfl, rfl, hnone⟩

theorem of_numberless {block : List Record} (records : h.Records block h₁)
    (hblock : ∀ r ∈ block, r.event.IsNumberless) : Dispatches h h₁ [] := by
  rw [← packets_eq_nil hblock]
  exact of_records records fun r hr => (hblock r hr).identification

theorem emit (d : Dispatches h h₁ first) {e : Event} (he : e.IsNumberless) :
    Dispatches h (h₁.emit e) first := by
  rw [← List.append_nil first]
  refine d.trans (of_numberless (emit_records h₁ e) fun r hr => ?_)
  rw [List.mem_singleton.1 hr]
  exact he

theorem identifications_eq (d : Dispatches h h₁ first) : h₁.identifications = h.identifications :=
  Recorded.observed_eq (P := fun e => e.identification? = none)
    (by obtain ⟨block, htrace, -, hnone⟩ := d.records; exact ⟨block, htrace, hnone⟩)
    fun _ he => he

/-- A datagram that was submitted was submitted before, and of the packets since then these
are the last. -/
theorem split {later past : List Record} {r : Record} (d : Dispatches h h₁ first)
    (hsplit : h₁.trace = later ++ r :: past) (hr : r.event.identification? ≠ none) :
    ∃ earlier, h.trace = earlier ++ r :: past ∧ packets later = packets earlier ++ first := by
  obtain ⟨block, htrace, rfl, hnone⟩ := d.records
  rcases split_suffix ⟨block, htrace.symm⟩ hsplit with ⟨earlier, hold⟩ | hnew
  · refine ⟨earlier, hold, ?_⟩
    have hlater : later = block ++ earlier := by
      rw [htrace, hold, ← List.append_assoc] at hsplit
      exact (List.append_cancel_right hsplit).symm
    rw [hlater, packets_append]
  · obtain ⟨between, rfl, -⟩ := split_new (htrace.symm.trans hsplit) hnew
    exact absurd (hnone r (List.mem_append_right _ List.mem_cons_self)) hr

end Dispatches

/-- **A packet** goes out, waits or is dropped; in any case it was to go out, and nothing
else. -/
theorem sendPacket_dispatches (h : Host) (p : Packet) (target : Ipv4Addr) :
    Dispatches h (h.sendPacket p target) [(target, p.window)] := by
  have hblock {h₁ h₂ : Host} (fault : Option LinkError) (fate : Fate)
      (records : h₁.Records (outcome h.config h.clock target p.window fault fate ++
        [⟨h.clock, .dispatched target p.window fate⟩]) h₂) :
      Dispatches h₁ h₂ [(target, p.window)] := by
    have hquiet (r : Record) (hr : r ∈ outcome h.config h.clock target p.window fault fate) :
        r.event.IsNumberless := (noteAt_of_mem_outcome hr).isNote.isNumberless
    have hpackets := Dispatches.of_records records fun r hr => by
      rcases List.mem_append.1 hr with hr | hr
      · exact (hquiet r hr).identification
      · rw [List.mem_singleton.1 hr]
        rfl
    rw [packets_append, packets_eq_nil hquiet, List.append_nil] at hpackets
    exact hpackets
  cases hcache : h.cache.get? target h.clock with
  | some mac =>
      obtain ⟨fault, records⟩ := sendPacket_records_sent h p hcache
      exact hblock fault _ records
  | none =>
      cases hheld : h.held.get? target h.clock with
      | some waiting => exact hblock none _ (sendPacket_records_dropped h p hcache hheld)
      | none =>
          obtain ⟨fault, records⟩ := sendPacket_records_held h p hcache hheld
          have hwaits := hblock fault _ records
          exact ⟨hwaits.config, hwaits.nextId, hwaits.records⟩

/-- **An ARP packet** sends a packet that was to go out long ago, at most. -/
theorem receiveArp_dispatches (h : Host) (p : Packet) {arp : Header.Arp}
    (harp : Inbound.arp p.window = .ok arp) : Dispatches h (h.receiveArp p) [] := by
  obtain ⟨asked, fault, records⟩ := receiveArp_records h p harp
  have hlearned : Dispatches h (h.learning arp) [] :=
    ⟨rfl, rfl, [⟨h.clock, .notice (.learned arp.senderIp arp.senderMac)⟩], rfl, rfl, fun r hr => by
      rw [List.mem_singleton.1 hr]
      rfl⟩
  exact hlearned.trans (.of_numberless records fun r => isNumberless_of_mem_answer)

/-- The pieces of a datagram are dispatched as its fragments; by induction on them. -/
theorem sendPieces_dispatches (h : Host) (destination : Ipv4Addr) (protocol : UInt8)
    (identification : UInt16) (offset : Nat) (pieces : List Bytes)
    (hfit : offset + pieces.flatten.length ≤ Header.Ipv4.maxPayload) :
    Dispatches h (h.sendPieces destination protocol identification offset pieces)
      ((Outbound.fragments h.config destination protocol identification offset pieces).map
        (destination, ·)) := by
  induction pieces generalizing h offset with
  | nil => exact Dispatches.refl h
  | cons piece rest ih =>
      let packet := fragmentPacket h.config (Packet.ofPayload h.config.headRoom piece) destination
        protocol identification offset (!rest.isEmpty)
      have hfirst := sendPacket_dispatches h packet destination
      have hrest := ih (h.sendPacket packet destination) (offset + piece.length) (rest_fits hfit)
      rw [hfirst.config] at hrest
      rw [window_fragmentPacket, Packet.window_ofPayload] at hfirst
      rw [sendPieces_cons _ _ _ _ _ _ _ hfit]
      exact hfirst.trans hrest

/-- **A datagram that is not too long** is dispatched as its packets. -/
theorem sendDatagram_dispatches (h : Host) (p : Packet) (destination : Ipv4Addr)
    (protocol : UInt8) (hmax : p.size ≤ Header.Ipv4.maxPayload) :
    Dispatches (h.submitting p destination protocol) (h.sendDatagram p destination protocol)
      ((Outbound.packetsOf h.config destination protocol h.nextId p.window).map
        (destination, ·)) := by
  rw [Outbound.packetsOf, Outbound.pieces, Packet.length_window]
  split
  · rename_i hsize
    have hpacket := sendPacket_dispatches (h.submitting p destination protocol)
      (fragmentPacket h.config p destination protocol h.nextId 0 false) destination
    rw [window_fragmentPacket] at hpacket
    rw [sendDatagram_of_le_threshold h p _ _ hsize]
    exact hpacket
  · rename_i hsize
    rw [sendDatagram_of_threshold_lt h p _ _ hmax (Nat.not_le.1 hsize)]
    exact ((Dispatches.refl _).emit ⟨rfl, rfl⟩).trans
      (sendPieces_dispatches _ _ _ _ _ _ (chunks_fit h.config hmax))

/-- **A stride** counts nothing, or it is a datagram that is not too long; the cases are the
kinds of strides. -/
theorem Stride.dispatches {h h' : Host} (stride : Stride h h') :
    (∃ dispatched, Dispatches h h' dispatched) ∨
      ∃ p destination protocol, p.size ≤ Header.Ipv4.maxPayload ∧
        h' = h.sendDatagram p destination protocol := by
  cases stride with
  | note e he => exact .inl ⟨[], (Dispatches.refl h).emit he.isNumberless⟩
  | arrange _ arranged => exact .inl ⟨[], .of_arranged arranged⟩
  | datagram p destination protocol =>
      by_cases hmax : p.size ≤ Header.Ipv4.maxPayload
      · exact .inr ⟨p, destination, protocol, hmax, rfl⟩
      · rw [sendDatagram_of_oversized h p _ _ (Nat.not_le.1 hmax)]
        exact .inl ⟨[], (Dispatches.refl h).emit ⟨rfl, rfl⟩⟩
  | dispatch p target => exact .inl ⟨_, sendPacket_dispatches h p target⟩
  | learn p arp accepted => exact .inl ⟨[], receiveArp_dispatches h p accepted⟩

/-! ### Numbers of datagrams -/

/-- The identifications given so far count up from zero, the next one is next, and of every
datagram its packets were dispatched first after it was submitted. -/
structure Numbering (c : Config) (h : Host) : Prop where
  config : h.config = c
  nextId : h.nextId = h.identifications.length.toUInt16
  inOrder : ∀ (i : Nat) identification, h.identifications[i]? = some identification →
    identification = i.toUInt16
  fragmented : ∀ later past time identification payload destination protocol,
    h.trace = later ++ ⟨time, .submitted identification payload destination protocol⟩ :: past →
      payload.length ≤ Header.Ipv4.maxPayload ∧
        (Outbound.packetsOf c destination protocol identification payload).map (destination, ·) <+:
          packets later

theorem silent_numbering (config : Config) (link : Link) :
    (silent config link).Numbering config where
  config := rfl
  nextId := rfl
  inOrder _ _ hid := by cases hid
  fragmented _ _ _ _ _ _ _ hsplit := absurd hsplit.symm (by simp [silent])

namespace Numbering

variable {c : Config} {h h' : Host}

/-- What counts nothing keeps the numbers. -/
theorem dispatches (numbering : h.Numbering c) {dispatched : List (Ipv4Addr × Bytes)}
    (d : Dispatches h h' dispatched) : h'.Numbering c where
  config := d.config.trans numbering.config
  nextId := by rw [d.nextId, d.identifications_eq, numbering.nextId]
  inOrder := by
    rw [d.identifications_eq]
    exact numbering.inOrder
  fragmented later past time identification payload destination protocol hsplit := by
    obtain ⟨earlier, hold, hpackets⟩ := d.split hsplit nofun
    obtain ⟨hmax, hbegins⟩ := numbering.fragmented earlier past _ _ _ _ _ hold
    rw [hpackets]
    exact ⟨hmax, hbegins.trans (List.prefix_append _ _)⟩

/-- **A datagram** is given the next number, and its packets are dispatched. -/
theorem sendDatagram (numbering : h.Numbering c) (p : Packet) (destination : Ipv4Addr)
    (protocol : UInt8) (hmax : p.size ≤ Header.Ipv4.maxPayload) :
    (h.sendDatagram p destination protocol).Numbering c := by
  obtain rfl := numbering.config
  have d := sendDatagram_dispatches h p destination protocol hmax
  have hids := d.identifications_eq.trans (identifications_submitting h p destination protocol)
  refine ⟨d.config, ?_, ?_, ?_⟩
  · rw [d.nextId, hids, List.length_append, List.length_singleton]
    show h.nextId + 1 = _
    rw [numbering.nextId]
    exact (UInt16.ofNat_add _ _).symm
  · intro i identification hid
    rw [hids, List.getElem?_append] at hid
    split at hid
    · exact numbering.inOrder i identification hid
    · rename_i hge
      rw [List.getElem?_singleton] at hid
      split at hid
      · rw [← Option.some.inj hid, numbering.nextId]
        exact congrArg Nat.toUInt16 (by omega)
      · cases hid
  · intro later past time identification payload target number hsplit
    obtain ⟨earlier, hold, hpackets⟩ := d.split hsplit nofun
    rw [hpackets]
    cases earlier with
    | nil =>
        cases hold
        exact ⟨by rw [Packet.length_window]; exact hmax, List.prefix_rfl⟩
    | cons r earlier =>
        have hbefore := (List.cons.inj hold).2
        obtain ⟨hlength, hbegins⟩ := numbering.fragmented earlier past _ _ _ _ _ hbefore
        rw [packets_cons, List.append_assoc]
        exact ⟨hlength, hbegins.trans (List.prefix_append _ _)⟩

/-- **One stride** keeps the numbers. -/
theorem stride (numbering : h.Numbering c) (stride : Stride h h') : h'.Numbering c := by
  rcases stride.dispatches with ⟨dispatched, d⟩ | ⟨p, destination, protocol, hmax, rfl⟩
  · exact numbering.dispatches d
  · exact numbering.sendDatagram p destination protocol hmax

end Numbering

/-- **In every run** datagrams are numbered, by induction along the strides. -/
theorem Strides.numbering {config : Config} {link : Link} {h : Host}
    (strides : Strides (silent config link) h) : h.Numbering config := by
  induction strides with
  | refl => exact silent_numbering config link
  | tail _ stride ih => exact ih.stride stride

namespace Numbering

variable {c : Config} {h : Host}

theorem toNat_nextId (numbering : h.Numbering c) :
    h.nextId.toNat = h.identifications.length % 65536 := by
  rw [numbering.nextId]
  rfl

theorem toNat_identification (numbering : h.Numbering c) {i : Nat} {identification : UInt16}
    (hid : h.identifications[i]? = some identification) : identification.toNat = i % 65536 := by
  rw [numbering.inOrder i identification hid]
  rfl

/-- **Numbers repeat** after 65536 datagrams, and no earlier. -/
theorem identification_ne (numbering : h.Numbering c) {i j : Nat} {first second : UInt16}
    (hlt : i < j) (hnear : j < i + 65536) (hfirst : h.identifications[i]? = some first)
    (hsecond : h.identifications[j]? = some second) : first ≠ second := by
  rintro rfl
  have hi := numbering.toNat_identification hfirst
  have hj := numbering.toNat_identification hsecond
  omega

/-- The number in a record is that of the datagrams submitted before. -/
theorem toNat_submitted (numbering : h.Numbering c) {later past : List Record} {time : Nat}
    {identification : UInt16} {payload : Bytes} {destination : Ipv4Addr} {protocol : UInt8}
    (hsplit : h.trace = later ++
      ⟨time, .submitted identification payload destination protocol⟩ :: past) :
    identification.toNat =
      (past.filterMap fun r => r.event.identification?).length % 65536 := by
  refine numbering.toNat_identification ?_
  rw [identifications, observed, hsplit, List.filterMap_append, List.filterMap_cons,
    List.reverse_append]
  simp [Event.identification?]

end Numbering

end Host

end HostNet
