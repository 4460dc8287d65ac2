import HostNet.Proofs.Resolution.History
import HostNet.Proofs.Strides

/-!
# Packets that wait for an address

What a host decides about a packet it decides from its tables, and these hold what its trace
says, however often entries have expired, been overwritten or been thrown away.  So the trace
of every run is made of episodes.

* `Host.Records` — since some host, just so much was recorded.
* `sendPacket_records_sent`, `sendPacket_records_dropped`, `sendPacket_records_held`,
  `receiveArp_records` — what is recorded for a packet that goes out and for an ARP packet.
* `Host.Recalls` — the tables hold what the trace says (`Step.recalls`, `Steps.recalls`).
* `Host.Meets`, `Host.Answers` — what comes of a packet that is to go out, and of an ARP
  packet.
* `packets_accounted_for` — every packet that is to go out meets one fate, and one that
  waits is sent once if its address is learned in time, and otherwise never.

### Why lookups at all later times

An entry that has expired may still be stored, and is thrown away at some write for another
address.  A lookup does not see the difference, now or later, so the tables are compared with
the trace by what lookups give from now on, and not by what is stored.
-/

namespace HostNet

open History

/-- An entry counts for as long as no more than the time to live has passed since it was set. -/
theorem ExpiringTable.isFresh_eq_within {κ ν : Type} (t : ExpiringTable κ ν) {limit : Nat}
    (httl : t.ttl = some limit) (value : ν) (stamp now : Nat) :
    (if t.isFresh stamp now then some value else none) =
      Stamped.within limit now ⟨value, stamp⟩ := by
  rw [isFresh, httl, Stamped.within]
  simp only [age, decide_eq_true_eq, Nat.sub_le_iff_le_add']

namespace Host

/-! ### What is recorded -/

/-- Since `h`, the records `block` were made, and apart from that only the link changed. -/
def Records (h : Host) (block : List Record) (h' : Host) : Prop :=
  ∃ link, h' = { h with link, trace := block ++ h.trace }

theorem Records.trans {h h₁ h₂ : Host} {first second : List Record} (r₁ : h.Records first h₁)
    (r₂ : h₁.Records second h₂) : h.Records (second ++ first) h₂ := by
  obtain ⟨link₁, rfl⟩ := r₁
  obtain ⟨link₂, rfl⟩ := r₂
  exact ⟨link₂, by simp only [List.append_assoc]⟩

theorem emit_records (h : Host) (e : Event) : h.Records [⟨h.clock, e⟩] (h.emit e) :=
  ⟨h.link, rfl⟩

theorem transmit_records (h : Host) (frame : Bytes) :
    h.Records (transmission h.clock frame (h.link.send frame).2) (h.transmit frame) := by
  unfold transmit
  cases hfault : (h.link.send frame).2 with
  | none =>
      simp only [hfault]
      exact ⟨(h.link.send frame).1, rfl⟩
  | some cause =>
      simp only [hfault]
      exact ⟨(h.link.send frame).1, rfl⟩

theorem sendFrame_records (h : Host) (p : Packet) (destination : MacAddr) (etherType : UInt16) :
    ∃ fault, h.Records
      (transmission h.clock (Outbound.frame h.config destination etherType p.window) fault)
      (h.sendFrame p destination etherType) := by
  rw [sendFrame_eq]
  exact ⟨_, transmit_records h _⟩

theorem sendArp_records (h : Host) (arp : Header.Arp) (destination : MacAddr) :
    ∃ fault, h.Records
      (transmission h.clock (Outbound.frame h.config destination EtherType.arp arp.bytes) fault)
      (h.sendArp arp destination) := by
  have hframe := sendFrame_records h (Packet.ofPayload h.config.headRoom arp.bytes) destination
    EtherType.arp
  rw [Packet.window_ofPayload] at hframe
  exact hframe

theorem sendArpRequest_records (h : Host) (target : Ipv4Addr) :
    ∃ fault, h.Records
      (transmission h.clock (Outbound.requestFrame h.config target) fault ++
        [⟨h.clock, .notice (.asking target h.config.ip)⟩])
      (h.sendArpRequest target) := by
  obtain ⟨fault, hframe⟩ := sendArp_records (h.log (.asking target h.config.ip))
    (.new .request h.config.mac h.config.ip MacAddr.zero target) MacAddr.broadcast
  exact ⟨fault, (emit_records h _).trans hframe⟩

theorem sendArpReply_records (h : Host) (target : Ipv4Addr) (mac : MacAddr) :
    ∃ fault, h.Records
      (transmission h.clock (Outbound.replyFrame h.config target mac) fault ++
        [⟨h.clock, .notice (.telling h.config.ip h.config.mac target)⟩])
      (h.sendArpReply target mac) := by
  obtain ⟨fault, hframe⟩ := sendArp_records (h.log (.telling h.config.ip h.config.mac target))
    (.new .reply h.config.mac h.config.ip mac target) mac
  exact ⟨fault, (emit_records h _).trans hframe⟩

section

variable (h : Host) (p : Packet) {target : Ipv4Addr}

theorem sendPacket_records_sent {mac : MacAddr}
    (hcache : h.cache.get? target h.clock = some mac) :
    ∃ fault, h.Records
      (outcome h.config h.clock target p.window fault (.sent mac) ++
        [⟨h.clock, .dispatched target p.window (.sent mac)⟩])
      (h.sendPacket p target) := by
  rw [sendPacket_eq_of_known h p hcache]
  obtain ⟨fault, hframe⟩ := sendFrame_records
    (h.emit (.dispatched target p.window (.sent mac))) p mac EtherType.ipv4
  exact ⟨fault, (emit_records h _).trans hframe⟩

theorem sendPacket_records_dropped {waiting : Packet}
    (hcache : h.cache.get? target h.clock = none)
    (hheld : h.held.get? target h.clock = some waiting) :
    h.Records
      (outcome h.config h.clock target p.window none .dropped ++
        [⟨h.clock, .dispatched target p.window .dropped⟩])
      (h.sendPacket p target) := by
  rw [sendPacket_eq_of_waiting h p hcache hheld, ← Packet.length_window]
  exact (emit_records h _).trans (emit_records _ _)

theorem sendPacket_records_held (hcache : h.cache.get? target h.clock = none)
    (hheld : h.held.get? target h.clock = none) :
    ∃ fault, Records { h with held := h.held.set target p h.clock }
      (outcome h.config h.clock target p.window fault .held ++
        [⟨h.clock, .dispatched target p.window .held⟩])
      (h.sendPacket p target) := by
  rw [sendPacket_eq_of_free h p hcache hheld]
  let h₁ : Host := { h with held := h.held.set target p h.clock }
  obtain ⟨fault, hrequest⟩ := sendArpRequest_records
    (h₁.emit (.dispatched target p.window .held)) target
  exact ⟨fault, (emit_records h₁ _).trans hrequest⟩

/-- What is recorded after the address in an ARP packet was learned. -/
theorem receiveArp_records {arp : Header.Arp} (harp : Inbound.arp p.window = .ok arp) :
    ∃ asked fault, (h.learning arp).Records
      (answer h.config h.clock arp.senderIp arp.senderMac asked fault
        ((h.held.get? arp.senderIp h.clock).map Packet.window))
      (h.receiveArp p) := by
  cases hheld : h.held.get? arp.senderIp h.clock with
  | some waiting =>
      rw [receiveArp_of_waiting h p harp hheld]
      obtain ⟨fault, hframe⟩ :=
        sendFrame_records (h.flushing arp waiting) waiting arp.senderMac EtherType.ipv4
      have hflushing : (h.learning arp).Records
          [⟨h.clock, .released arp.senderIp waiting.window arp.senderMac⟩,
            ⟨h.clock, .notice (.flushing waiting.window.length arp.senderIp)⟩]
          (h.flushing arp waiting) := by
        rw [Packet.length_window]
        exact (emit_records (h.learning arp) _).trans (emit_records _ _)
      exact ⟨false, fault, hflushing.trans hframe⟩
  | none =>
      rw [receiveArp_of_free h p harp hheld]
      split
      · obtain ⟨fault, hreply⟩ := sendArpReply_records (h.learning arp) arp.senderIp arp.senderMac
        exact ⟨true, fault, hreply⟩
      · exact ⟨false, none, (h.learning arp).link, rfl⟩

end

/-! ### The tables and the trace -/

/-- The tables of a host hold what its trace says, now and as long as nothing happens, and the
trace is made of episodes. -/
structure Recalls (c : Config) (h : Host) : Prop where
  config : h.config = c
  cacheTtl : h.cache.ttl = some c.arpTimeout
  heldTtl : h.held.ttl = some c.arpMinInterval
  known : ∀ ip now, h.clock ≤ now → h.cache.get? ip now = knownAt c h.trace ip now
  waiting : ∀ ip now, h.clock ≤ now →
    (h.held.get? ip now).map Packet.window = waitingAt c h.trace ip now
  history : History c h.trace
  past : ∀ r ∈ h.trace, r.time ≤ h.clock

theorem silent_recalls (config : Config) (link : Link) : (silent config link).Recalls config where
  config := rfl
  cacheTtl := rfl
  heldTtl := rfl
  known _ _ _ := rfl
  waiting _ _ _ := rfl
  history := .nil
  past _ hr := absurd hr List.not_mem_nil

namespace Recalls

variable {c : Config} {h h' : Host} {e : Event} {tail : List Record}

/-- **Tables that change as an episode says** hold what the trace says after it. -/
theorem episode (recalls : h.Recalls c) (next : Episode c h.trace h.clock e tail)
    (cache : ExpiringTable Ipv4Addr MacAddr) (held : ExpiringTable Ipv4Addr Packet)
    (hcacheTtl : cache.ttl = h.cache.ttl) (hheldTtl : held.ttl = h.held.ttl)
    (hcache : ∀ ip now, h.clock ≤ now → cache.get? ip now =
      ((⟨h.clock, e⟩ : Record).learned? ip).elim (h.cache.get? ip now)
        (Stamped.within c.arpTimeout now))
    (hheld : ∀ ip now, h.clock ≤ now → (held.get? ip now).map Packet.window =
      if ((⟨h.clock, e⟩ : Record).learned? ip).isSome then none
      else ((⟨h.clock, e⟩ : Record).held? ip).elim ((h.held.get? ip now).map Packet.window)
        (Stamped.within c.arpMinInterval now))
    (records : Records { h with cache, held } (tail ++ [⟨h.clock, e⟩]) h') : h'.Recalls c := by
  obtain ⟨link, rfl⟩ := records
  have htrace : tail ++ [⟨h.clock, e⟩] ++ h.trace = tail ++ ⟨h.clock, e⟩ :: h.trace :=
    (List.append_cons _ _ _).symm
  exact {
    config := recalls.config
    cacheTtl := hcacheTtl.trans recalls.cacheTtl
    heldTtl := hheldTtl.trans recalls.heldTtl
    known := fun ip now hnow => by
      simp only [htrace, next.knownAt_eq, ← recalls.known ip now hnow]
      exact hcache ip now hnow
    waiting := fun ip now hnow => by
      simp only [htrace, next.waitingAt_eq, ← recalls.waiting ip now hnow]
      exact hheld ip now hnow
    history := by
      simp only [htrace]
      exact .episode recalls.history recalls.past next
    past := fun r hr => by
      simp only [htrace, List.mem_append, List.mem_cons] at hr
      rcases hr with hr | rfl | hr
      · exact Nat.le_of_eq (next.time_eq hr)
      · exact Nat.le_refl _
      · exact recalls.past r hr }

/-- Tables that stay as they are still hold what the trace says, after an episode in which
nothing was learned and no packet began to wait. -/
theorem episode_of_quiet (recalls : h.Recalls c) (next : Episode c h.trace h.clock e tail)
    (hlearned : ∀ ip, (⟨h.clock, e⟩ : Record).learned? ip = none)
    (hheld : ∀ ip, (⟨h.clock, e⟩ : Record).held? ip = none)
    (records : h.Records (tail ++ [⟨h.clock, e⟩]) h') : h'.Recalls c := by
  refine recalls.episode next h.cache h.held rfl rfl (fun ip now _ => ?_) (fun ip now _ => ?_)
    records
  · rw [hlearned ip]
    rfl
  · rw [hlearned ip, hheld ip]
    rfl

theorem emit (recalls : h.Recalls c) (haside : e.IsAside) : (h.emit e).Recalls c :=
  recalls.episode_of_quiet (.aside e haside) (fun ip => Record.learned?_of_isAside ip haside)
    (fun ip => Record.held?_of_isAside ip haside) (emit_records h e)

theorem arrange (recalls : h.Recalls c) (arranged : Arranged h h') : h'.Recalls c where
  config := arranged.config.trans recalls.config
  cacheTtl := by rw [arranged.cache, recalls.cacheTtl]
  heldTtl := by rw [arranged.held, recalls.heldTtl]
  known ip now hnow := by
    rw [arranged.cache, arranged.trace]
    exact recalls.known ip now (Nat.le_trans arranged.clock hnow)
  waiting ip now hnow := by
    rw [arranged.held, arranged.trace]
    exact recalls.waiting ip now (Nat.le_trans arranged.clock hnow)
  history := by
    rw [arranged.trace]
    exact recalls.history
  past r hr := by
    rw [arranged.trace] at hr
    exact Nat.le_trans (recalls.past r hr) arranged.clock

/-- The fate of a packet that is to go out, as its tables have it. -/
theorem fate_of_known (recalls : h.Recalls c) {target : Ipv4Addr} {mac : MacAddr}
    (hcache : h.cache.get? target h.clock = some mac) :
    fateAt c h.trace target h.clock = .sent mac :=
  fateAt_of_known ((recalls.known target h.clock (Nat.le_refl _)).symm.trans hcache)

theorem fate_of_waiting (recalls : h.Recalls c) {target : Ipv4Addr} {waiting : Packet}
    (hcache : h.cache.get? target h.clock = none)
    (hheld : h.held.get? target h.clock = some waiting) :
    fateAt c h.trace target h.clock = .dropped := by
  have hwaiting := recalls.waiting target h.clock (Nat.le_refl _)
  rw [hheld] at hwaiting
  exact fateAt_of_waiting ((recalls.known target h.clock (Nat.le_refl _)).symm.trans hcache)
    hwaiting.symm

theorem fate_of_free (recalls : h.Recalls c) {target : Ipv4Addr}
    (hcache : h.cache.get? target h.clock = none)
    (hheld : h.held.get? target h.clock = none) :
    fateAt c h.trace target h.clock = .held := by
  have hwaiting := recalls.waiting target h.clock (Nat.le_refl _)
  rw [hheld] at hwaiting
  exact fateAt_of_free ((recalls.known target h.clock (Nat.le_refl _)).symm.trans hcache)
    hwaiting.symm

/-- A packet that does not wait leaves the tables alone. -/
theorem dispatch_of_ne_held (recalls : h.Recalls c) {target : Ipv4Addr} {packet : Bytes}
    {fault : Option LinkError} {fate : Fate} (hfate : fateAt c h.trace target h.clock = fate)
    (hne : fate ≠ .held)
    (records : h.Records (outcome h.config h.clock target packet fault fate ++
      [⟨h.clock, .dispatched target packet fate⟩]) h') : h'.Recalls c := by
  have next : Episode c h.trace h.clock _ _ := .dispatch target packet fault
  rw [hfate] at next
  rw [recalls.config] at records
  refine recalls.episode_of_quiet next (fun _ => rfl) (fun ip => ?_) records
  cases fate with
  | held => exact absurd rfl hne
  | _ => rfl

/-- A packet that waits is what is found in its slot from now on. -/
theorem dispatch_of_held (recalls : h.Recalls c) {target : Ipv4Addr} {p : Packet}
    {fault : Option LinkError} (hfate : fateAt c h.trace target h.clock = .held)
    (records : Records { h with held := h.held.set target p h.clock }
      (outcome h.config h.clock target p.window fault .held ++
        [⟨h.clock, .dispatched target p.window .held⟩]) h') : h'.Recalls c := by
  obtain rfl := recalls.config
  have next : Episode h.config h.trace h.clock _ _ := .dispatch target p.window fault
  rw [hfate] at next
  refine recalls.episode next h.cache (h.held.set target p h.clock) rfl
    (ExpiringTable.ttl_set ..) (fun _ _ _ => rfl) (fun ip now hnow => ?_) records
  rw [ExpiringTable.get?_set_of_le _ _ _ _ hnow, h.held.isFresh_eq_within recalls.heldTtl]
  by_cases hip : ip = target
  · subst hip
    by_cases hintime : now ≤ h.clock + h.config.arpMinInterval
    · simp [Stamped.within, hintime, Record.learned?, Record.held?]
    · simp [Stamped.within, hintime, Record.learned?, Record.held?]
  · simp [hip, Ne.symm hip, Record.learned?, Record.held?]

/-- **A packet that goes out**: by whether its address is known and, if not, by whether
another packet waits. -/
theorem sendPacket (recalls : h.Recalls c) (p : Packet) (target : Ipv4Addr) :
    (h.sendPacket p target).Recalls c := by
  cases hcache : h.cache.get? target h.clock with
  | some mac =>
      obtain ⟨fault, records⟩ := sendPacket_records_sent h p hcache
      exact recalls.dispatch_of_ne_held (recalls.fate_of_known hcache) nofun records
  | none =>
      cases hheld : h.held.get? target h.clock with
      | some waiting =>
          exact recalls.dispatch_of_ne_held (recalls.fate_of_waiting hcache hheld) nofun
            (sendPacket_records_dropped h p hcache hheld)
      | none =>
          obtain ⟨fault, records⟩ := sendPacket_records_held h p hcache hheld
          exact recalls.dispatch_of_held (recalls.fate_of_free hcache hheld) records

/-- **An ARP packet**: where its sender is has been learned, and no packet waits for that. -/
theorem receiveArp (recalls : h.Recalls c) (p : Packet) {arp : Header.Arp}
    (harp : Inbound.arp p.window = .ok arp) : (h.receiveArp p).Recalls c := by
  obtain ⟨asked, fault, records⟩ := receiveArp_records h p harp
  let h₁ : Host :=
    { h with
      cache := h.cache.set arp.senderIp arp.senderMac h.clock
      held := h.held.delete arp.senderIp }
  have hlearning : h₁.Records [⟨h.clock, .notice (.learned arp.senderIp arp.senderMac)⟩]
      (h.learning arp) := emit_records h₁ _
  have next : Episode c h.trace h.clock _ _ := .learn arp.senderIp arp.senderMac asked fault
  rw [recalls.config, recalls.waiting _ _ (Nat.le_refl _)] at records
  have hself : (⟨h.clock, .notice (.learned arp.senderIp arp.senderMac)⟩ : Record).learned?
      arp.senderIp = some ⟨arp.senderMac, h.clock⟩ := if_pos rfl
  have hother {ip : Ipv4Addr} (hip : ip ≠ arp.senderIp) :
      (⟨h.clock, .notice (.learned arp.senderIp arp.senderMac)⟩ : Record).learned? ip = none :=
    if_neg hip.symm
  refine recalls.episode next h₁.cache h₁.held (ExpiringTable.ttl_set ..) rfl
    (fun ip now hnow => ?_) (fun ip now _ => ?_) (hlearning.trans records)
  · rw [ExpiringTable.get?_set_of_le _ _ _ _ hnow, h.cache.isFresh_eq_within recalls.cacheTtl]
    by_cases hip : ip = arp.senderIp
    · subst hip
      rw [if_pos rfl, hself]
      rfl
    · rw [if_neg hip, hother hip]
      rfl
  · rw [ExpiringTable.get?_delete]
    by_cases hip : ip = arp.senderIp
    · subst hip
      rw [if_pos rfl, hself]
      rfl
    · rw [if_neg hip, hother hip]
      rfl

end Recalls

/-- **One step** leaves the tables with what the trace says; the cases are the kinds of
steps. -/
theorem Step.recalls {c : Config} {h h' : Host} (step : Step h h') (recalls : h.Recalls c) :
    h'.Recalls c := by
  cases step with
  | note e he => exact recalls.emit he.isAside
  | arrange _ arranged => exact recalls.arrange arranged
  | submit p destination protocol =>
      have hcounted : Recalls c { h with nextId := h.nextId + 1 } := { recalls with }
      exact hcounted.emit trivial
  | dispatch p target => exact recalls.sendPacket p target
  | learn p arp accepted => exact recalls.receiveArp p accepted

/-- **In every run** the tables hold what the trace says, by induction along the steps. -/
theorem Steps.recalls {config : Config} {link : Link} {h : Host}
    (steps : Steps (silent config link) h) : h.Recalls config := by
  induction steps with
  | refl => exact silent_recalls config link
  | tail _ step ih => exact step.recalls ih

/-! ### What comes of packets -/

/-- What comes of a packet for `target`, by its fate: it is sent at once, or dropped with
nothing changed, or waits while every station is asked for its address. -/
def Meets (h : Host) (p : Packet) (target : Ipv4Addr) (h' : Host) : Fate → Prop
  | .sent mac =>
      Sent (h.emit (.dispatched target p.window (.sent mac))) h'
        [Outbound.frame h.config mac EtherType.ipv4 p.window]
  | .dropped =>
      h' = (h.emit (.dispatched target p.window .dropped)).log (.alreadyResolving p.size target)
  | .held =>
      Sent ({ h with held := h.held.set target p h.clock }.emit
          (.dispatched target p.window .held)) h'
        [Outbound.requestFrame h.config target]

/-- What comes of an ARP packet, by the packet that waits for its sender: that one is sent and
no longer waits, or else a question for the host is answered. -/
def Answers (h : Host) (arp : Header.Arp) (h' : Host) : Option Bytes → Prop
  | some packet =>
      ∃ waiting : Packet, waiting.window = packet ∧
        Sent (h.flushing arp waiting) h'
          [Outbound.frame h.config arp.senderMac EtherType.ipv4 packet]
  | none =>
      Sent (h.learning arp) h'
        (if arp.operation = ArpOperation.request.code ∧ arp.targetIp = h.config.ip then
          [Outbound.replyFrame h.config arp.senderIp arp.senderMac]
        else [])

theorem Recalls.meets {c : Config} {h : Host} (recalls : h.Recalls c) (p : Packet)
    (target : Ipv4Addr) :
    h.Meets p target (h.sendPacket p target) (fateAt c h.trace target h.clock) := by
  cases hcache : h.cache.get? target h.clock with
  | some mac =>
      rw [recalls.fate_of_known hcache, sendPacket_eq_of_known h p hcache]
      exact sendFrame_sent _ _ _ _
  | none =>
      cases hheld : h.held.get? target h.clock with
      | some waiting =>
          rw [recalls.fate_of_waiting hcache hheld]
          exact sendPacket_eq_of_waiting h p hcache hheld
      | none =>
          rw [recalls.fate_of_free hcache hheld, sendPacket_eq_of_free h p hcache hheld]
          exact sendArpRequest_sent _ _

theorem Recalls.answers {c : Config} {h : Host} (recalls : h.Recalls c) (p : Packet)
    {arp : Header.Arp} (harp : Inbound.arp p.window = .ok arp) :
    h.Answers arp (h.receiveArp p) (waitingAt c h.trace arp.senderIp h.clock) := by
  rw [← recalls.waiting arp.senderIp h.clock (Nat.le_refl _)]
  cases hheld : h.held.get? arp.senderIp h.clock with
  | some waiting =>
      rw [receiveArp_of_waiting h p harp hheld]
      exact ⟨waiting, rfl, sendFrame_sent _ _ _ _⟩
  | none =>
      rw [receiveArp_of_free h p harp hheld]
      show Sent _ _ (if _ then _ else _)
      split
      · exact sendArpReply_sent _ _ _
      · exact Sent.refl _

/-- **Every packet that is to go out meets one fate**, and one that waits is sent at most once.

Every run is a sequence of steps, whatever is done in it and by whom.  After any steps:

* The tables hold what the trace says: where an address was last learned to be, if no more than
  `arpTimeout` ago, and which packet last began to wait for it, if no more than
  `arpMinInterval` ago and the address was not learned since.
* A packet that is to go out now is sent at once in one frame if its address is known; it is
  dropped if another packet waits; otherwise it waits, and one request goes out.
* An ARP packet that is accepted sends the packet that waits for its sender.
* Every packet of the run met the fate that the records before it say, and just what belongs
  to that fate was recorded next.
* A packet that began to wait was released once, to where its address was first learned to be,
  if that was no later than `arpMinInterval` after; otherwise it never was.  This counts what was
  released before the next packet began to wait for the address; what was released later was
  that packet or one after it, by the last statement.
* Whatever was released was the packet that had begun to wait last, in time and with its
  address not learned before, and its frame to the station that was learned is what was
  recorded next. -/
theorem packets_accounted_for (config : Config) (link : Link) :
    (∀ depth actions,
      Steps (silent config link) (execAll depth (start config link) actions)) ∧
    ∀ h, Steps (silent config link) h →
      (∀ ip, h.cache.get? ip h.clock = knownAt config h.trace ip h.clock ∧
        (h.held.get? ip h.clock).map Packet.window = waitingAt config h.trace ip h.clock) ∧
      (∀ p ip, h.Meets p ip (h.sendPacket p ip) (fateAt config h.trace ip h.clock)) ∧
      (∀ p arp, Inbound.arp p.window = .ok arp →
        h.Answers arp (h.receiveArp p) (waitingAt config h.trace arp.senderIp h.clock)) ∧
      (∀ later past time ip packet fate,
        h.trace = later ++ ⟨time, .dispatched ip packet fate⟩ :: past →
          fate = fateAt config past ip time ∧
            ∃ after fault, later = after ++ outcome config time ip packet fault fate) ∧
      (∀ later past time ip packet,
        h.trace = later ++ ⟨time, .dispatched ip packet .held⟩ :: past →
          releases ip later = due config packet time (firstLearned ip later)) ∧
      ∀ later past time ip packet mac,
        h.trace = later ++ ⟨time, .released ip packet mac⟩ :: past →
          (∃ mid since before, past = ⟨time, .notice (.flushing packet.length ip)⟩ ::
              ⟨time, .notice (.learned ip mac)⟩ ::
                (mid ++ ⟨since, .dispatched ip packet .held⟩ :: before) ∧
            time ≤ since + config.arpMinInterval ∧
            ∀ r ∈ mid, r.learned? ip = none ∧ r.held? ip = none) ∧
          ∃ after fault, later = after ++
            transmission time (Outbound.frame config mac EtherType.ipv4 packet) fault := by
  refine ⟨fun depth actions => (start_steps config link).trans (execAll_steps depth _ actions),
    fun h steps => ?_⟩
  have recalls := steps.recalls
  refine ⟨fun ip => ⟨recalls.known ip _ (Nat.le_refl _), recalls.waiting ip _ (Nat.le_refl _)⟩,
    recalls.meets, fun p arp => recalls.answers p, ?_, ?_, ?_⟩
  · intro later past time ip packet fate hsplit
    exact of_dispatched recalls.history hsplit
  · intro later past time ip packet hsplit
    exact (accounted recalls.history hsplit).settled
  · intro later past time ip packet mac hsplit
    obtain ⟨before, hpast, hwaiting, hframe⟩ := of_released recalls.history hsplit
    obtain ⟨mid, since, earlier, hbefore, hintime, hmid⟩ := exists_held_of_waitingAt hwaiting
    exact ⟨⟨mid, since, earlier, by rw [hpast, hbefore], hintime, hmid⟩, hframe⟩

/-- Two packets for an address that is learned just in time: it is the first one that is sent
then, and nothing else. -/
theorem packets_accounted_for_of_two_packets :
    ∃ (config : Config) (h : Host) (later past : List Record),
      Steps (silent config {}) h ∧
      h.trace = later ++ ⟨0, .dispatched ⟨10, 0, 0, 2⟩ [1, 2, 3] .held⟩ :: past ∧
      releases ⟨10, 0, 0, 2⟩ later = [⟨[1, 2, 3], ⟨2, 0, 0, 0, 0, 2⟩, 1000000000⟩] := by
  obtain ⟨config, hconfig⟩ : ∃ config, Settings.build {} = .ok config := ⟨_, rfl⟩
  obtain ⟨actions, hactions⟩ : ∃ actions : List Action, actions =
      [.sendPacket (Packet.ofPayload 0 [1, 2, 3]) ⟨10, 0, 0, 2⟩,
        .sendPacket (Packet.ofPayload 0 [4, 5]) ⟨10, 0, 0, 2⟩,
        .advance 1000000000,
        .receiveArp (Packet.ofPayload 0 (Header.Arp.new .reply ⟨2, 0, 0, 0, 0, 2⟩
          ⟨10, 0, 0, 2⟩ ⟨2, 0, 0, 0, 0, 1⟩ ⟨10, 0, 0, 1⟩).bytes)] := ⟨_, rfl⟩
  have accounted := packets_accounted_for config {}
  have steps := accounted.1 1 actions
  have hheld : (execAll 1 (start config {}) actions).trace.drop 8 =
      ⟨0, .dispatched ⟨10, 0, 0, 2⟩ [1, 2, 3] .held⟩ ::
        (execAll 1 (start config {}) actions).trace.drop 9 := by
    cases hconfig
    cases hactions
    decide +kernel
  have hlearned : firstLearned ⟨10, 0, 0, 2⟩
      ((execAll 1 (start config {}) actions).trace.take 8) =
        some ⟨⟨2, 0, 0, 0, 0, 2⟩, 1000000000⟩ := by
    cases hconfig
    cases hactions
    rfl
  have hsplit := (List.take_append_drop 8 (execAll 1 (start config {}) actions).trace).symm
  rw [hheld] at hsplit
  refine ⟨config, _, _, _, steps, hsplit, ?_⟩
  rw [(accounted.2 _ steps).2.2.2.2.1 _ _ _ _ _ hsplit, hlearned]
  cases hconfig
  rfl

end Host

end HostNet
