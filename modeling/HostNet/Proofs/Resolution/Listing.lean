import HostNet.Proofs.Moves
import HostNet.Proofs.Rejection
import HostNet.Proofs.Resolution.Waiting

/-!
# Listings of addresses

A host can be asked at any time which addresses it knows the stations of, and for which ones a
packet waits.  What it answers depends on what its trace says of the past, and on nothing
else that happened to its tables in the meantime.

* `mem_entries_iff`, `mem_pending_iff` — the listings, seen through lookups.
* `History.RecentlyLearned`, `History.Lists` — what a listing has to be, by the records before
  it; `Recalls.lists` — the listing of every host that was reached by steps is that.
* `receiveArp_learns`, `poll_learns`, `Steps.origin` — what is learned from an ARP packet, and
  that nothing is learned from anything else.
* `lists_recently_learned` — the addresses listed are those learned recently, and what goes out
  at once goes where the listing says.
* `no_packet_awaits_known` — no address is listed both as known and as waited for.

### Why lookups at later times give the ages as well

A table and a trace that agree on all lookups from now on agree on when each entry that counts
was set: that entry is found up to the end of its time to live and no longer, so that an earlier
or later time would show in some lookup.
-/

namespace HostNet

open History

/-! ### Frames -/

namespace Outbound

/-- A frame determines its destination and its ether type. -/
theorem frame_inj {c : Config} {destination destination' : MacAddr}
    {etherType etherType' : UInt16} {payload payload' : Bytes}
    (heq : frame c destination etherType payload = frame c destination' etherType' payload') :
    destination = destination' ∧ etherType = etherType' := by
  have hparse := parse_frame c destination etherType payload
  rw [heq, parse_frame, Except.ok.injEq, Header.Ethernet.mk.injEq] at hparse
  exact ⟨hparse.1.symm, hparse.2.2.symm⟩

/-- The frames that a packet for `ip` leads to at once, by its fate. -/
def framesFor (c : Config) (ip : Ipv4Addr) (packet : Bytes) : Fate → List Bytes
  | .sent mac => [frame c mac EtherType.ipv4 packet]
  | .dropped => []
  | .held => [requestFrame c ip]

/-- Which frames go out tells the fate of a packet. -/
theorem framesFor_inj {c : Config} {ip : Ipv4Addr} {packet : Bytes} {fate fate' : Fate}
    (heq : framesFor c ip packet fate = framesFor c ip packet fate') : fate = fate' := by
  have hne (mac : MacAddr) :
      frame c mac EtherType.ipv4 packet ≠ requestFrame c ip := fun hframe =>
    absurd (frame_inj hframe).2 (by decide)
  cases fate with
  | sent mac =>
      cases fate' with
      | sent mac' => rw [(frame_inj (List.cons.inj heq).1).1]
      | dropped => cases heq
      | held => exact absurd (List.cons.inj heq).1 (hne mac)
  | dropped =>
      cases fate' with
      | dropped => rfl
      | _ => cases heq
  | held =>
      cases fate' with
      | sent mac => exact absurd (List.cons.inj heq).1.symm (hne mac)
      | dropped => cases heq
      | held => rfl

end Outbound

namespace Host

/-! ### Listings seen through lookups -/

section

variable (h : Host)

theorem mem_entries_iff (e : ArpEntry) :
    e ∈ h.entries ↔ ∃ stamp, h.cache.table.get? e.ip = some ⟨e.mac, stamp⟩ ∧
      h.cache.isFresh stamp h.clock = true ∧ e.age = h.clock - stamp := by
  rw [entries, (List.mergeSort_perm _ _).mem_iff, List.mem_map]
  constructor
  · rintro ⟨⟨ip, mac, stamp⟩, hlive, rfl⟩
    obtain ⟨hget, hfresh⟩ := (h.cache.mem_live_iff h.clock ip _).1 hlive
    exact ⟨stamp, hget, hfresh, rfl⟩
  · rintro ⟨stamp, hget, hfresh, hage⟩
    refine ⟨(e.ip, ⟨e.mac, stamp⟩), (h.cache.mem_live_iff h.clock _ _).2 ⟨hget, hfresh⟩, ?_⟩
    show ({ ip := e.ip, mac := e.mac, age := h.clock - stamp } : ArpEntry) = e
    rw [← hage]

/-- An address is listed with a station exactly if a lookup finds that. -/
theorem exists_mem_entries_iff (ip : Ipv4Addr) (mac : MacAddr) :
    (∃ age, ⟨ip, mac, age⟩ ∈ h.entries) ↔ h.cache.get? ip h.clock = some mac := by
  rw [ExpiringTable.get?_eq_some_iff]
  constructor
  · rintro ⟨age, hmem⟩
    obtain ⟨stamp, hget, hfresh, -⟩ := (h.mem_entries_iff _).1 hmem
    exact ⟨stamp, hget, hfresh⟩
  · rintro ⟨stamp, hget, hfresh⟩
    exact ⟨h.clock - stamp, (h.mem_entries_iff _).2 ⟨stamp, hget, hfresh, rfl⟩⟩

theorem mem_pending_iff (ip : Ipv4Addr) :
    ip ∈ h.pending ↔ ∃ p, h.held.get? ip h.clock = some p := by
  simp only [pending, (List.mergeSort_perm _ _).mem_iff, List.mem_map,
    ExpiringTable.get?_eq_some_iff]
  constructor
  · rintro ⟨⟨ip, p, stamp⟩, hlive, rfl⟩
    obtain ⟨hget, hfresh⟩ := (h.held.mem_live_iff h.clock ip _).1 hlive
    exact ⟨p, stamp, hget, hfresh⟩
  · rintro ⟨p, stamp, hget, hfresh⟩
    exact ⟨(ip, ⟨p, stamp⟩), (h.held.mem_live_iff h.clock _ _).2 ⟨hget, hfresh⟩, rfl⟩

/-- The addresses known are listed in order, each of them once. -/
theorem entries_ascending : h.entries.Pairwise fun a b => a.ip.rank < b.ip.rank := by
  have hsorted : h.entries.Pairwise fun a b => decide (a.ip.rank ≤ b.ip.rank) = true := by
    refine List.pairwise_mergeSort (fun a b c hab hbc => ?_) (fun a b => ?_) _
    · exact decide_eq_true (Nat.le_trans (of_decide_eq_true hab) (of_decide_eq_true hbc))
    · rw [Bool.or_eq_true, decide_eq_true_eq, decide_eq_true_eq]
      exact Nat.le_total _ _
  have honce : (h.entries.map ArpEntry.ip).Nodup := by
    have hperm := (List.mergeSort_perm ((h.cache.live h.clock).map fun e =>
      ({ ip := e.1, mac := e.2.value, age := ExpiringTable.age e.2.stamp h.clock } : ArpEntry))
      fun a b => decide (a.ip.rank ≤ b.ip.rank)).map ArpEntry.ip
    refine hperm.nodup_iff.2 ?_
    rw [List.map_map]
    exact h.cache.table.nodup.sublist (List.filter_sublist.map Prod.fst)
  refine (hsorted.and (List.pairwise_map.1 honce)).imp fun {a b} hab => ?_
  exact Nat.lt_of_le_of_ne (of_decide_eq_true hab.1) fun heq =>
    hab.2 (Ipv4Addr.rank_injective heq)

end

end Host

/-! ### What a listing has to be -/

namespace History

/-- Whether the entry is right at `now`, by the records before: its address was last learned no
more than `arpTimeout` ago, to be at the station and as long ago as the entry says. -/
def RecentlyLearned (c : Config) (past : List Record) (now : Nat) (e : ArpEntry) : Prop :=
  ∃ since, lastLearned e.ip past = some ⟨e.mac, since⟩ ∧ since ≤ now ∧
    now - since ≤ c.arpTimeout ∧ e.age = now - since

/-- What a listing at `now` has to be, by the records before: in order, without an address twice,
and with just the entries that are right. -/
structure Lists (c : Config) (past : List Record) (now : Nat) (entries : List ArpEntry) : Prop where
  ascending : entries.Pairwise fun a b => a.ip.rank < b.ip.rank
  mem_iff : ∀ e, e ∈ entries ↔ RecentlyLearned c past now e

/-- What was learned was learned in the past. -/
theorem stamp_le_of_lastLearned {past : List Record} {now : Nat} {ip : Ipv4Addr}
    {learned : Stamped MacAddr} (hpast : ∀ r ∈ past, r.time ≤ now)
    (hlast : lastLearned ip past = some learned) : learned.stamp ≤ now := by
  obtain ⟨r, hr, hlearned⟩ := List.exists_of_findSome?_eq_some hlast
  rw [stamp_of_learned? hlearned]
  exact hpast r hr

/-- An address is known exactly if it was learned recently. -/
theorem knownAt_eq_some_iff_recently {c : Config} {past : List Record} {now : Nat} {ip : Ipv4Addr}
    {mac : MacAddr} (hpast : ∀ r ∈ past, r.time ≤ now) :
    knownAt c past ip now = some mac ↔ ∃ age, RecentlyLearned c past now ⟨ip, mac, age⟩ := by
  rw [knownAt_eq_some_iff]
  constructor
  · rintro ⟨since, hlast, hintime⟩
    exact ⟨now - since, since, hlast, stamp_le_of_lastLearned hpast hlast,
      Nat.sub_le_iff_le_add'.2 hintime, rfl⟩
  · rintro ⟨age, since, hlast, -, hintime, -⟩
    exact ⟨since, hlast, Nat.sub_le_iff_le_add'.1 hintime⟩

/-- **A packet that went out** was sent at once exactly if its address had been learned
recently, and just what belongs to its fate was recorded next. -/
theorem sent_iff_of_dispatched {c : Config} {trace later past : List Record} {time : Nat}
    {ip : Ipv4Addr} {packet : Bytes} {fate : Fate} (history : History c trace)
    (hsplit : trace = later ++ ⟨time, .dispatched ip packet fate⟩ :: past) :
    (∀ mac, fate = .sent mac ↔ ∃ age, RecentlyLearned c past time ⟨ip, mac, age⟩) ∧
      ∃ after fault, later = after ++ outcome c time ip packet fault fate := by
  obtain ⟨hfate, houtcome⟩ := of_dispatched history hsplit
  have hordered := history.ordered
  rw [hsplit] at hordered
  have hpast := (List.pairwise_cons.1 (List.pairwise_append.1 hordered).2.1).1
  refine ⟨fun mac => ?_, houtcome⟩
  rw [hfate, fateAt_eq_sent_iff]
  exact knownAt_eq_some_iff_recently hpast

end History

namespace Host

namespace Recalls

variable {c : Config} {h : Host}

/-- A lookup finds, at any time from now on, what was learned last. -/
theorem get?_eq_some_iff (recalls : h.Recalls c) (ip : Ipv4Addr) (mac : MacAddr) {now : Nat}
    (hnow : h.clock ≤ now) :
    h.cache.get? ip now = some mac ↔
      ∃ since, lastLearned ip h.trace = some ⟨mac, since⟩ ∧ now ≤ since + c.arpTimeout := by
  rw [recalls.known ip now hnow, knownAt_eq_some_iff]

theorem isFresh_iff (recalls : h.Recalls c) (stamp now : Nat) :
    h.cache.isFresh stamp now = true ↔ now ≤ stamp + c.arpTimeout := by
  rw [ExpiringTable.isFresh, recalls.cacheTtl]
  simp only [ExpiringTable.age, decide_eq_true_eq, Nat.sub_le_iff_le_add']

/-- What is stored and counts was learned last, and when it was stored. -/
theorem lastLearned_of_table (recalls : h.Recalls c) {ip : Ipv4Addr} {mac : MacAddr}
    {stamp : Nat} (hget : h.cache.table.get? ip = some ⟨mac, stamp⟩)
    (hintime : h.clock ≤ stamp + c.arpTimeout) : lastLearned ip h.trace = some ⟨mac, stamp⟩ := by
  -- The entry is found for as long as it counts, so that it was learned no earlier ...
  have hfound : h.cache.get? ip (stamp + c.arpTimeout) = some mac :=
    (h.cache.get?_eq_some_iff _ _ _).2 ⟨stamp, hget, (recalls.isFresh_iff _ _).2 (Nat.le_refl _)⟩
  obtain ⟨since, hlast, hlate⟩ := (recalls.get?_eq_some_iff ip mac hintime).1 hfound
  -- ... and what was learned is found for as long as that counts, so that it was no later.
  have hafter : h.clock ≤ since + c.arpTimeout := Nat.le_trans hintime hlate
  obtain ⟨stamp', hget', hfresh⟩ := (h.cache.get?_eq_some_iff _ _ _).1
    ((recalls.get?_eq_some_iff ip mac hafter).2 ⟨since, hlast, Nat.le_refl _⟩)
  rw [hget, Option.some.injEq, Stamped.mk.injEq] at hget'
  have hearly := (recalls.isFresh_iff _ _).1 hfresh
  rw [← hget'.2] at hearly
  rw [hlast, show since = stamp by omega]

theorem table_get?_iff (recalls : h.Recalls c) (ip : Ipv4Addr) (mac : MacAddr) (since : Nat) :
    h.cache.table.get? ip = some ⟨mac, since⟩ ∧ h.cache.isFresh since h.clock = true ↔
      lastLearned ip h.trace = some ⟨mac, since⟩ ∧ h.clock ≤ since + c.arpTimeout := by
  rw [recalls.isFresh_iff]
  constructor
  · rintro ⟨hget, hintime⟩
    exact ⟨recalls.lastLearned_of_table hget hintime, hintime⟩
  · rintro ⟨hlast, hintime⟩
    obtain ⟨stamp, hget, hfresh⟩ := (h.cache.get?_eq_some_iff _ _ _).1
      ((recalls.get?_eq_some_iff ip mac (Nat.le_refl _)).2 ⟨since, hlast, hintime⟩)
    have hsame := recalls.lastLearned_of_table hget ((recalls.isFresh_iff _ _).1 hfresh)
    rw [hlast, Option.some.injEq, Stamped.mk.injEq] at hsame
    rw [hsame.2]
    exact ⟨hget, (recalls.isFresh_iff _ _).1 hfresh⟩

/-- **The addresses listed** are those that were learned recently. -/
theorem lists (recalls : h.Recalls c) : Lists c h.trace h.clock h.entries where
  ascending := h.entries_ascending
  mem_iff e := by
    rw [h.mem_entries_iff]
    constructor
    · rintro ⟨stamp, hget, hfresh, hage⟩
      obtain ⟨hlast, hintime⟩ := (recalls.table_get?_iff e.ip e.mac stamp).1 ⟨hget, hfresh⟩
      exact ⟨stamp, hlast, stamp_le_of_lastLearned recalls.past hlast,
        Nat.sub_le_iff_le_add'.2 hintime, hage⟩
    · rintro ⟨since, hlast, -, hintime, hage⟩
      obtain ⟨hget, hfresh⟩ := (recalls.table_get?_iff e.ip e.mac since).2
        ⟨hlast, Nat.sub_le_iff_le_add'.1 hintime⟩
      exact ⟨since, hget, hfresh, hage⟩

end Recalls

/-- A listing that a script is given says what there is at that time. -/
theorem lists_of_replied {config : Config} {link : Link} {h : Host}
    (moves : Moves (silent config link) h) {later past : List Record} {time : Nat}
    {caller : Caller} {entries : List ArpEntry}
    (hsplit : h.trace = later ++ ⟨time, .replied caller (.entries entries)⟩ :: past) :
    Lists config past time entries := by
  rcases moves.admits hsplit with hplain | ⟨h₁, reached, rfl, htime, -, hpresent⟩
  · exact hplain.elim
  · rw [show time = h₁.clock from htime, show entries = h₁.entries from hpresent]
    exact reached.steps.recalls.lists

/-! ### What goes out at once -/

namespace Recalls

variable {c : Config} {h : Host}

theorem sendPacket_frames (recalls : h.Recalls c) (p : Packet) (ip : Ipv4Addr) :
    (h.sendPacket p ip).frames =
      h.frames ++ Outbound.framesFor c ip p.window (fateAt c h.trace ip h.clock) := by
  have hmeets := recalls.meets p ip
  have hdispatched (h₁ : Host) (hsame : h₁.frames = h.frames) (fate : Fate) :
      (h₁.emit (.dispatched ip p.window fate)).frames = h.frames :=
    (observed_emit_of_eq_none h₁ rfl).trans hsame
  rw [← recalls.config] at hmeets ⊢
  cases hfate : fateAt h.config h.trace ip h.clock with
  | sent mac =>
      rw [hfate] at hmeets
      rw [hmeets.frames, hdispatched h rfl]
      rfl
  | dropped =>
      rw [hfate] at hmeets
      rw [show h.sendPacket p ip = _ from hmeets, Outbound.framesFor, List.append_nil]
      exact (observed_emit_of_eq_none _ rfl).trans (hdispatched h rfl _)
  | held =>
      rw [hfate] at hmeets
      rw [hmeets.frames, hdispatched { h with held := h.held.set ip p h.clock } rfl]
      rfl

/-- A packet has a given fate exactly if just the frames of that fate go out. -/
theorem frames_eq_iff (recalls : h.Recalls c) (p : Packet) (ip : Ipv4Addr) (fate : Fate) :
    (h.sendPacket p ip).frames = h.frames ++ Outbound.framesFor c ip p.window fate ↔
      fateAt c h.trace ip h.clock = fate := by
  rw [recalls.sendPacket_frames p ip, List.append_cancel_left_eq]
  exact ⟨Outbound.framesFor_inj, fun heq => by rw [heq]⟩

/-- A packet goes to a station at once exactly if that is listed for its address. -/
theorem sent_iff (recalls : h.Recalls c) (ip : Ipv4Addr) (mac : MacAddr) :
    fateAt c h.trace ip h.clock = .sent mac ↔ ∃ age, ⟨ip, mac, age⟩ ∈ h.entries := by
  rw [exists_mem_entries_iff, recalls.known ip h.clock (Nat.le_refl _), fateAt_eq_sent_iff]

end Recalls

/-! ### What is learned, and from what -/

/-- Nothing is learned from sending a packet. -/
theorem sendPacket_unlearned (h : Host) (p : Packet) (target : Ipv4Addr) :
    ∃ new, (h.sendPacket p target).trace = new ++ h.trace ∧
      ∀ r ∈ new, ∀ ip, r.learned? ip = none := by
  have hnew {c : Config} {fault : Option LinkError} {fate : Fate} :
      ∀ r ∈ outcome c h.clock target p.window fault fate ++
        [⟨h.clock, .dispatched target p.window fate⟩], ∀ ip, r.learned? ip = none := by
    intro r hr ip
    rcases List.mem_append.1 hr with hr | hr
    · exact Record.learned?_of_isAside ip (asideAt_of_mem_outcome hr).isAside
    · rw [List.mem_singleton.1 hr]
      rfl
  cases hcache : h.cache.get? target h.clock with
  | some mac =>
      obtain ⟨fault, link, heq⟩ := sendPacket_records_sent h p hcache
      exact ⟨_, congrArg Host.trace heq, hnew⟩
  | none =>
      cases hheld : h.held.get? target h.clock with
      | some waiting =>
          obtain ⟨link, heq⟩ := sendPacket_records_dropped h p hcache hheld
          exact ⟨_, congrArg Host.trace heq, hnew⟩
      | none =>
          obtain ⟨fault, link, heq⟩ := sendPacket_records_held h p hcache hheld
          exact ⟨_, congrArg Host.trace heq, hnew⟩

/-- **From an ARP packet that is accepted** just the station of its sender is learned, before
anything else comes of it. -/
theorem receiveArp_learned (h : Host) (p : Packet) {arp : Header.Arp}
    (harp : Inbound.arp p.window = .ok arp) :
    ∃ new, (h.receiveArp p).trace =
        new ++ ⟨h.clock, .notice (.learned arp.senderIp arp.senderMac)⟩ :: h.trace ∧
      ∀ r ∈ new, ∀ ip, r.learned? ip = none := by
  obtain ⟨asked, fault, link, heq⟩ := receiveArp_records h p harp
  refine ⟨_, congrArg Host.trace heq, fun r hr ip => ?_⟩
  rcases asideAt_of_mem_answer hr with haside | ⟨packet, -, rfl⟩
  · exact Record.learned?_of_isAside ip haside.isAside
  · rfl

/-- From an ARP packet that is refused nothing is learned. -/
theorem receiveArp_unlearned (h : Host) (p : Packet) {refusal : Refusal}
    (hrefused : Inbound.arp p.window = .error refusal) (ip : Ipv4Addr) :
    lastLearned ip (h.receiveArp p).trace = lastLearned ip h.trace := by
  have haside := (Event.isNote_of_isDrop (Inbound.arp_refused hrefused)).isAside
  have htrace : (h.receiveArp p).trace = ⟨h.clock, refusal.event⟩ :: h.trace := by
    rw [receiveArp, hrefused]
    rfl
  rw [htrace, lastLearned, List.findSome?_cons, Record.learned?_of_isAside ip haside]
  rfl

/-- Since `h` the host was given an ARP packet.  If it is valid, then the station of its sender
was learned just now; nothing else was learned. -/
structure Learns (h h' : Host) (packet : Bytes) : Prop where
  valid : Inbound.ArpValid packet → ∀ ip, lastLearned ip h'.trace =
    if (Header.Arp.read packet).senderIp = ip then
      some ⟨(Header.Arp.read packet).senderMac, h.clock⟩
    else lastLearned ip h.trace
  invalid : ¬Inbound.ArpValid packet → ∀ ip, lastLearned ip h'.trace = lastLearned ip h.trace

/-- **An ARP packet** tells where its sender is, whatever it is about and whomever it is for. -/
theorem receiveArp_learns (h : Host) (p : Packet) : Learns h (h.receiveArp p) p.window where
  valid valid ip := by
    have accepted := (Inbound.arp_eq_ok_iff p.window _).2 ⟨valid, rfl⟩
    obtain ⟨new, htrace, hnew⟩ := receiveArp_learned h p accepted
    rw [htrace, lastLearned, List.findSome?_append,
      List.findSome?_eq_none_iff.2 fun r hr => hnew r hr ip, Option.none_or, List.findSome?_cons,
      Record.learned?]
    by_cases hip : (Header.Arp.read p.window).senderIp = ip
    · rw [if_pos hip, if_pos hip]
    · rw [if_neg hip, if_neg hip, lastLearned]
  invalid hnot ip := by
    obtain ⟨refusal, hrefused⟩ := error_of_not_ok fun arp hok =>
      hnot ((Inbound.arp_eq_ok_iff p.window arp).1 hok).1
    exact receiveArp_unlearned h p hrefused ip

/-- **An ARP packet that is polled** does so as well. -/
theorem poll_learns (depth : Nat) (h : Host) {frame : Bytes} {rest : List Bytes}
    (hqueue : h.link.queue = frame :: rest) (hfault : h.link.receiveFault = none)
    (hfit : frame.length ≤ h.config.maxFrame) (hsize : 14 ≤ frame.length)
    (htype : (Header.Ethernet.read frame).etherType = EtherType.arp)
    (hhandler : h.frameHandlers.get? EtherType.arp = some .arp) :
    Learns h (h.poll (runner depth)).1 (frame.drop 14) := by
  obtain ⟨rxBuffer, rxBuffer_length, hpoll⟩ :=
    poll_of_next h (runner depth) hqueue hfault hfit
  let filled : Host := { h with link := { h.link with queue := rest }, rxBuffer, rxBuffer_length }
  have hwindow : (Packet.ofPayload 0 frame).window = frame := Packet.window_ofPayload 0 frame
  obtain ⟨q, hq, hcalled⟩ := receiveFrame_of_registered depth filled (Packet.ofPayload 0 frame)
    (by rw [hwindow]; exact hsize) .arp (by rw [hwindow, htype]; exact hhandler)
  rw [hwindow] at hq
  rw [hpoll]
  show Learns h (filled.receiveFrame (runner depth) (Packet.ofPayload 0 frame)) _
  rw [hcalled, ← hq]
  -- The call is recorded first, and nothing is learned from that.
  have learns := receiveArp_learns (filled.emit (.frameHandled none q.head q.window
    (Header.Ethernet.read (Packet.ofPayload 0 frame).window).source)) q
  exact ⟨learns.valid, learns.invalid⟩

/-- **A step in which something is learned** is an ARP packet that is accepted. -/
theorem Step.eq_receiveArp {h h' : Host} (step : Step h h') {later past : List Record}
    {time : Nat} {ip : Ipv4Addr} {mac : MacAddr}
    (hsplit : h'.trace = later ++ ⟨time, .notice (.learned ip mac)⟩ :: past)
    (hnew : h.trace <:+ past) :
    ∃ p arp, Inbound.arp p.window = .ok arp ∧ h' = h.receiveArp p ∧ past = h.trace ∧
      time = h.clock ∧ arp.senderIp = ip ∧ arp.senderMac = mac := by
  have hself : (⟨time, .notice (.learned ip mac)⟩ : Record).learned? ip ≠ none := by
    rw [Record.learned?, if_pos rfl]
    exact Option.some_ne_none _
  cases step with
  | note e he =>
      obtain ⟨heq, -⟩ := split_cons hsplit hnew
      cases heq
      exact he.elim
  | arrange _ arranged =>
      have hsame : [] ++ h.trace = later ++ ⟨time, .notice (.learned ip mac)⟩ :: past :=
        arranged.trace.symm.trans hsplit
      obtain ⟨between, hnone, -⟩ := split_new hsame hnew
      exact absurd hnone.symm (by simp)
  | submit p destination protocol =>
      obtain ⟨heq, -⟩ := split_cons hsplit hnew
      cases heq
  | dispatch p target =>
      obtain ⟨new, htrace, hunlearned⟩ := sendPacket_unlearned h p target
      obtain ⟨between, rfl, -⟩ := split_new (htrace.symm.trans hsplit) hnew
      exact absurd (hunlearned _ (List.mem_append_right _ List.mem_cons_self) ip) hself
  | learn p arp accepted =>
      obtain ⟨new, htrace, hunlearned⟩ := receiveArp_learned h p accepted
      rcases split_episode (htrace.symm.trans hsplit) with ⟨mid, -, hmid⟩ | ⟨-, heq, rfl⟩ |
        ⟨mid, rfl, -⟩
      · have hlength := hnew.length_le
        rw [hmid, List.length_append, List.length_cons] at hlength
        omega
      · cases heq
        exact ⟨p, arp, accepted, rfl, rfl, rfl, rfl, rfl⟩
      · exact absurd (hunlearned _ (List.mem_append_right _ List.mem_cons_self) ip) hself

/-- **Whatever was learned in a run** was learned from an ARP packet that was accepted at that
time; by induction along the steps. -/
theorem Steps.origin {config : Config} {link : Link} {h : Host}
    (steps : Steps (silent config link) h) {later past : List Record} {time : Nat}
    {ip : Ipv4Addr} {mac : MacAddr}
    (hsplit : h.trace = later ++ ⟨time, .notice (.learned ip mac)⟩ :: past) :
    ∃ h₁ p arp, Steps (silent config link) h₁ ∧ Inbound.arp p.window = .ok arp ∧
      Steps (h₁.receiveArp p) h ∧ past = h₁.trace ∧ time = h₁.clock ∧ arp.senderIp = ip ∧
      arp.senderMac = mac := by
  induction steps generalizing later past with
  | refl => exact absurd hsplit.symm (by simp [silent])
  | @tail h₁ h' steps step ih =>
      rcases split_suffix step.suffix hsplit with ⟨earlier, hold⟩ | hnew
      · obtain ⟨h₂, p, arp, before, accepted, after, hlearned⟩ := ih hold
        exact ⟨h₂, p, arp, before, accepted, after.step step, hlearned⟩
      · obtain ⟨p, arp, accepted, rfl, hpast, htime, hip, hmac⟩ := step.eq_receiveArp hsplit hnew
        exact ⟨h₁, p, arp, steps, accepted, Steps.refl _, hpast, htime, hip, hmac⟩

/-! ### The addresses listed -/

/-- **The addresses listed are those learned recently**, and a packet goes out at once just to
these.

Every run is a sequence of moves, whatever is done in it and by whom.  After any moves:

* What is listed now are the addresses that were last learned no more than `arpTimeout` ago, by
  what the trace says, each at the station it was learned to be at, in order and only once.
* Whatever was listed at any time of the run was that, by what the trace said then.
* A frame with a packet in it goes to a station at once exactly if that station is listed for the
  address of the packet.  If none is listed, then at most a request goes out.
* Of every packet in the run it is so that it was sent at once exactly if its address had been
  learned recently, and the frame is then what was recorded next.
* Whatever was learned was learned from a valid ARP packet, at the time it was given to the
  host.

A valid ARP packet that is given to a host in any state, or polled by it, tells where its sender
is; from any other nothing is learned. -/
theorem lists_recently_learned (config : Config) (link : Link) :
    (∀ depth actions,
      Moves (silent config link) (execAll depth (start config link) actions)) ∧
    (∀ h, Moves (silent config link) h →
      ((∀ depth, h.exec depth .listEntries = (h, .entries h.entries)) ∧
        Lists config h.trace h.clock h.entries) ∧
      (∀ later past time caller entries,
        h.trace = later ++ ⟨time, .replied caller (.entries entries)⟩ :: past →
          Lists config past time entries) ∧
      (∀ p ip mac,
        (h.sendPacket p ip).frames =
            h.frames ++ [Outbound.frame config mac EtherType.ipv4 p.window] ↔
          ∃ age, ⟨ip, mac, age⟩ ∈ h.entries) ∧
      (∀ p ip, (∀ mac age, ⟨ip, mac, age⟩ ∉ h.entries) →
        (h.sendPacket p ip).frames = h.frames ∨
          (h.sendPacket p ip).frames = h.frames ++ [Outbound.requestFrame config ip]) ∧
      (∀ later past time ip packet fate,
        h.trace = later ++ ⟨time, .dispatched ip packet fate⟩ :: past →
          (∀ mac, fate = .sent mac ↔ ∃ age, RecentlyLearned config past time ⟨ip, mac, age⟩) ∧
            ∃ after fault, later = after ++ outcome config time ip packet fault fate) ∧
      ∀ later past time ip mac,
        h.trace = later ++ ⟨time, .notice (.learned ip mac)⟩ :: past →
          ∃ h₁ p, Steps (silent config link) h₁ ∧ Steps (h₁.receiveArp p) h ∧
            past = h₁.trace ∧ time = h₁.clock ∧ Inbound.ArpValid p.window ∧
            (Header.Arp.read p.window).senderIp = ip ∧
            (Header.Arp.read p.window).senderMac = mac) ∧
    ∀ h : Host, (∀ p, Learns h (h.receiveArp p) p.window) ∧
      ∀ depth frame rest, h.link.queue = frame :: rest → h.link.receiveFault = none →
        frame.length ≤ h.config.maxFrame → 14 ≤ frame.length →
        (Header.Ethernet.read frame).etherType = EtherType.arp →
        h.frameHandlers.get? EtherType.arp = some .arp →
          Learns h (h.poll (runner depth)).1 (frame.drop 14) := by
  refine ⟨fun depth actions => (run_served config link depth actions).moves, fun h moves => ?_,
    fun h => ⟨receiveArp_learns h, ?_⟩⟩
  · have recalls := moves.steps.recalls
    refine ⟨⟨fun _ => rfl, recalls.lists⟩, ?_, fun p ip mac => ?_, fun p ip hnone => ?_, ?_, ?_⟩
    · intro later past time caller entries hsplit
      exact lists_of_replied moves hsplit
    · exact (recalls.frames_eq_iff p ip (.sent mac)).trans (recalls.sent_iff ip mac)
    · rw [recalls.sendPacket_frames p ip]
      cases hfate : fateAt config h.trace ip h.clock with
      | sent mac =>
          obtain ⟨age, hmem⟩ := (recalls.sent_iff ip mac).1 hfate
          exact absurd hmem (hnone mac age)
      | dropped => exact .inl (List.append_nil _)
      | held => exact .inr rfl
    · intro later past time ip packet fate hsplit
      exact sent_iff_of_dispatched recalls.history hsplit
    · intro later past time ip mac hsplit
      obtain ⟨h₁, p, arp, before, accepted, after, hpast, htime, hip, hmac⟩ :=
        moves.steps.origin hsplit
      obtain ⟨valid, rfl⟩ := (Inbound.arp_eq_ok_iff p.window arp).1 accepted
      exact ⟨h₁, p, before, after, hpast, htime, valid, hip, hmac⟩
  · intro depth frame rest hqueue hfault hfit hsize htype hhandler
    exact poll_learns depth h hqueue hfault hfit hsize htype hhandler

/-- An address that was learned five nanoseconds ago is listed with that age, and a packet for
it goes out. -/
theorem lists_recently_learned_of_one :
    ∃ (config : Config) (h : Host), Moves (silent config {}) h ∧
      ⟨⟨10, 0, 0, 2⟩, ⟨2, 0, 0, 0, 0, 2⟩, 5⟩ ∈ h.entries ∧
      (h.sendPacket (Packet.ofPayload 0 [1, 2, 3]) ⟨10, 0, 0, 2⟩).frames = h.frames ++
        [Outbound.frame config ⟨2, 0, 0, 0, 0, 2⟩ EtherType.ipv4
          (Packet.ofPayload 0 [1, 2, 3]).window] := by
  obtain ⟨config, hconfig⟩ : ∃ config, Settings.build {} = .ok config := ⟨_, rfl⟩
  obtain ⟨actions, hactions⟩ : ∃ actions : List Action, actions =
      [.receiveArp (Packet.ofPayload 0 (Header.Arp.new .reply ⟨2, 0, 0, 0, 0, 2⟩
          ⟨10, 0, 0, 2⟩ ⟨2, 0, 0, 0, 0, 1⟩ ⟨10, 0, 0, 1⟩).bytes),
        .advance 5] := ⟨_, rfl⟩
  have listed := lists_recently_learned config {}
  have moves := listed.1 1 actions
  obtain ⟨⟨-, lists⟩, -, hsent, -⟩ := listed.2.1 _ moves
  have hmem : ⟨⟨10, 0, 0, 2⟩, ⟨2, 0, 0, 0, 0, 2⟩, 5⟩ ∈
      (execAll 1 (start config {}) actions).entries := by
    refine (lists.mem_iff _).2 ⟨0, ?_⟩
    cases hconfig
    cases hactions
    exact ⟨rfl, by decide +kernel, by decide +kernel, rfl⟩
  exact ⟨config, _, moves, hmem, (hsent _ _ _).2 ⟨5, hmem⟩⟩

/-! ### No packet waits for an address that is listed -/

/-- Where a packet waits, nothing is known: it began to wait since the address was not known,
and the address was not learned since. -/
theorem Recalls.knownAt_of_waitingAt {c : Config} {h : Host} (recalls : h.Recalls c)
    {ip : Ipv4Addr} {packet : Bytes} {now : Nat} (hnow : h.clock ≤ now)
    (hwaiting : waitingAt c h.trace ip now = some packet) : knownAt c h.trace ip now = none := by
  obtain ⟨mid, since, before, hsplit, -, hmid⟩ := exists_held_of_waitingAt hwaiting
  have hsince : since ≤ now := by
    have hpast := recalls.past ⟨since, .dispatched ip packet .held⟩
      (by rw [hsplit]; exact List.mem_append_right _ List.mem_cons_self)
    exact Nat.le_trans hpast hnow
  have hunknown : knownAt c before ip since = none :=
    knownAt_of_held (of_dispatched recalls.history hsplit).1.symm
  have hlast : lastLearned ip h.trace = lastLearned ip before := by
    rw [hsplit, lastLearned, List.findSome?_append,
      List.findSome?_eq_none_iff.2 fun r hr => (hmid r hr).1, Option.none_or,
      List.findSome?_cons]
    rfl
  rw [knownAt, hlast]
  exact knownAt_of_le hsince hunknown

/-- An address that a packet waits for, now or later, is not listed then. -/
theorem Recalls.ne_of_mem_pending {c : Config} {h : Host} (recalls : h.Recalls c) {now : Nat}
    (hnow : h.clock ≤ now) {ip : Ipv4Addr} (hpending : ip ∈ { h with clock := now }.pending)
    {e : ArpEntry} (hentry : e ∈ { h with clock := now }.entries) : e.ip ≠ ip := by
  intro heq
  obtain ⟨p, hheld⟩ := (mem_pending_iff { h with clock := now } ip).1 hpending
  have hwaiting : waitingAt c h.trace ip now = some p.window := by
    rw [← recalls.waiting ip now hnow, show h.held.get? ip now = some p from hheld]
    rfl
  have hfound : h.cache.get? ip now = some e.mac := by
    rw [← heq]
    exact (exists_mem_entries_iff { h with clock := now } e.ip e.mac).1 ⟨e.age, hentry⟩
  rw [recalls.known ip now hnow, recalls.knownAt_of_waitingAt hnow hwaiting] at hfound
  cases hfound

/-- Nor is an address that a script was told a packet waits for, at the time it was told so. -/
theorem ne_of_replied {config : Config} {link : Link} {h : Host}
    (moves : Moves (silent config link) h) {later past : List Record} {time : Nat}
    {caller : Caller} {addresses : List Ipv4Addr}
    (hsplit : h.trace = later ++ ⟨time, .replied caller (.addresses addresses)⟩ :: past) :
    ∀ ip ∈ addresses, ∀ e, RecentlyLearned config past time e → e.ip ≠ ip := by
  rcases moves.admits hsplit with hplain | ⟨h₁, reached, rfl, htime, -, hpresent⟩
  · exact hplain.elim
  · rw [show time = h₁.clock from htime, show addresses = h₁.pending from hpresent]
    intro ip hpending e hrecent
    have recalls := reached.steps.recalls
    have hentry : e ∈ h₁.entries := (recalls.lists.mem_iff e).2 hrecent
    exact recalls.ne_of_mem_pending (Nat.le_refl _) hpending hentry

/-- **No packet waits for an address that is known.**  After any moves, and at any time from
then on, an address that is listed as one that a packet waits for is not listed as known.  At any
time of a run, be it within calls of handlers, an address that was listed as one that a packet
waits for was not known, by what the trace said then. -/
theorem no_packet_awaits_known (config : Config) (link : Link) :
    (∀ depth actions,
      Moves (silent config link) (execAll depth (start config link) actions)) ∧
    ∀ h, Moves (silent config link) h →
      (∀ now, h.clock ≤ now → ∀ ip ∈ { h with clock := now }.pending,
        ∀ e ∈ { h with clock := now }.entries, e.ip ≠ ip) ∧
      ∀ later past time caller addresses,
        h.trace = later ++ ⟨time, .replied caller (.addresses addresses)⟩ :: past →
          ∀ ip ∈ addresses, ∀ e, RecentlyLearned config past time e → e.ip ≠ ip := by
  refine ⟨fun depth actions => (run_served config link depth actions).moves,
    fun h moves => ⟨?_, ?_⟩⟩
  · intro now hnow ip hpending e hentry
    exact moves.steps.recalls.ne_of_mem_pending hnow hpending hentry
  · intro later past time caller addresses hsplit
    exact ne_of_replied moves hsplit

/-- While a packet waits for one address, another one is known. -/
theorem no_packet_awaits_known_of_two :
    ∃ (config : Config) (h : Host), Moves (silent config {}) h ∧ h.clock ≤ 7 ∧
      { h with clock := 7 }.pending = [⟨10, 0, 0, 2⟩] ∧
      { h with clock := 7 }.entries = [⟨⟨10, 0, 0, 3⟩, ⟨2, 0, 0, 0, 0, 3⟩, 7⟩] ∧
      ∀ e ∈ { h with clock := 7 }.entries, e.ip ≠ ⟨10, 0, 0, 2⟩ := by
  obtain ⟨config, hconfig⟩ : ∃ config, Settings.build {} = .ok config := ⟨_, rfl⟩
  obtain ⟨actions, hactions⟩ : ∃ actions : List Action, actions =
      [.sendPacket (Packet.ofPayload 0 [1, 2, 3]) ⟨10, 0, 0, 2⟩,
        .receiveArp (Packet.ofPayload 0 (Header.Arp.new .reply ⟨2, 0, 0, 0, 0, 3⟩
          ⟨10, 0, 0, 3⟩ ⟨2, 0, 0, 0, 0, 1⟩ ⟨10, 0, 0, 1⟩).bytes)] := ⟨_, rfl⟩
  have apart := no_packet_awaits_known config {}
  have moves := apart.1 1 actions
  have hclock : (execAll 1 (start config {}) actions).clock ≤ 7 := by
    cases hconfig
    cases hactions
    decide +kernel
  have hpending : { execAll 1 (start config {}) actions with clock := 7 }.pending =
      [⟨10, 0, 0, 2⟩] := by
    cases hconfig
    cases hactions
    decide +kernel
  have hentries : { execAll 1 (start config {}) actions with clock := 7 }.entries =
      [⟨⟨10, 0, 0, 3⟩, ⟨2, 0, 0, 0, 0, 3⟩, 7⟩] := by
    cases hconfig
    cases hactions
    decide +kernel
  exact ⟨config, _, moves, hclock, hpending, hentries,
    (apart.2 _ moves).1 7 hclock _ (by rw [hpending]; exact List.mem_cons_self)⟩

end Host

end HostNet
