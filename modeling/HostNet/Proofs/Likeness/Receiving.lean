import HostNet.Proofs.Acceptance
import HostNet.Proofs.Likeness.Sending

/-!
# Receiving in step

A layer passes on a packet whose window it has moved, over the storage that it was given.
Hosts in step that are given packets which carry the same stay in step, where what it
means to carry the same depends on the layer: bytes behind a length field do not count.

* `Packet.before` — the bytes of the storage before a window, which quoting a datagram gives
  back to it.
* `Inbound.SameUdp`, `Inbound.SameIpv4`, `Inbound.SameFrame` — windows that carry the same.
* `Passes`, `PassesFrame` — packets that may be passed to the handler of a protocol or of an
  ether type in step.
* `InStep.receiveUdp`, `InStep.receiveIpv4`, `InStep.receiveFrame` and so on.
* `RunsInStep` — a runner that keeps hosts in step.

### What handlers may be given

The host's own handlers are given packets that differ in their storage.  A handler that is
not its own sees the packet as it is, so that it has to be given the same one on both
sides.  Where a step is asked for from outside, the handlers are the host's own; where a
script asks for it, the packets are the same.
-/

namespace HostNet

namespace Bytes

/-- Byte strings that are the same up to some place are so up to every place before it. -/
theorem take_eq_of_le {b b' : Bytes} {m n : Nat} (hsame : b'.take n = b.take n) (hm : m ≤ n) :
    b'.take m = b.take m := by
  have hcut := congrArg (List.take m) hsame
  rwa [List.take_take, List.take_take, Nat.min_eq_left hm] at hcut

/-- And behind any place. -/
theorem take_drop_eq {b b' : Bytes} {m n : Nat} (hsame : b'.take (m + n) = b.take (m + n)) :
    (b'.drop m).take n = (b.drop m).take n := by
  have hcut := congrArg (List.drop m) hsame
  rwa [List.drop_take, List.drop_take, Nat.add_sub_cancel_left] at hcut

end Bytes

namespace Packet

/-- The `size` bytes of the storage before the window. -/
def before (p : Packet) (size : Nat) : Bytes := (p.storage.drop (p.head - size)).take size

/-- The bytes before a window, together with the first ones of the window, are a span of the
storage. -/
theorem before_append_take (p : Packet) {size n : Nat} (hroom : size ≤ p.head)
    (hn : n ≤ p.window.length) :
    p.before size ++ p.window.take n = (p.storage.drop (p.head - size)).take (size + n) := by
  have hspan : p.window.take n = (p.storage.drop p.head).take n := by
    rw [length_window, Packet.size] at hn
    rw [window, List.take_take, Nat.min_eq_left hn]
  rw [hspan, List.take_add, List.drop_drop, Nat.sub_add_cancel hroom]
  rfl

/-- The bytes before a window come before it when they are given back to it. -/
theorem window_moveHead (p : Packet) {size : Nat} (hroom : size + 1 ≤ p.head) :
    ∃ q, p.moveHead (.negSucc size) = .ok q ∧ q.window = p.before (size + 1) ++ p.window := by
  obtain ⟨q, hq, hwindow⟩ := Host.window_moveHead_back p hroom
  refine ⟨q, hq, ?_⟩
  rw [hwindow, ← p.before_append_take hroom (Nat.le_of_eq p.length_window.symm), ← p.length_window,
    List.take_length]

theorem before_truncate (p : Packet) (n size : Nat) :
    (p.truncate n).before size = p.before size := by
  rw [before, before, Host.truncate_storage, Host.truncate_head]

/-- The bytes before a window that was stripped are the last ones that were stripped. -/
theorem before_strip {p q : Packet} {n size : Nat} (hstrip : p.strip n = .ok q) (hsize : size ≤ n) :
    size ≤ q.head ∧ q.before size = (p.window.take n).drop (n - size) := by
  unfold strip at hstrip
  split at hstrip
  · rename_i hn
    cases hstrip
    unfold Packet.size at hn
    refine ⟨Nat.le_trans hsize (Nat.le_add_left _ _), ?_⟩
    rw [before, window, List.take_take, Nat.min_eq_left hn, List.drop_take, List.drop_drop,
      Nat.sub_sub_self hsize, Nat.add_sub_assoc hsize]
  · cases hstrip

/-- Packets with the same `size` bytes before their windows, or that are the same packet. -/
inductive SameBefore (size : Nat) (p : Packet) : Packet → Prop where
  | same : SameBefore size p p
  | bytes {q : Packet} (hp : size ≤ p.head) (hq : size ≤ q.head)
      (hbefore : q.before size = p.before size) : SameBefore size p q

/-- Operations on packets that come to windows that are the same, or to the same error. -/
def SameWindow (made made' : Except Packet.Error Packet) : Prop :=
  (∃ p q : Packet, made = .ok p ∧ made' = .ok q ∧ q.window = p.window) ∨
    ∃ cause, made = .error cause ∧ made' = .error cause

theorem sameWindow_strip {p q : Packet} (hwindow : q.window = p.window) (n : Nat) :
    SameWindow (p.strip n) (q.strip n) := by
  have hsize := size_congr hwindow
  by_cases hn : n ≤ p.size
  · obtain ⟨p', hp, hp'⟩ := p.strip_of_le n (by rw [length_window]; exact hn)
    obtain ⟨q', hq, hq'⟩ := q.strip_of_le n (by rw [length_window, hsize]; exact hn)
    exact .inl ⟨p', q', hp, hq, by rw [hp', hq', hwindow]⟩
  · refine .inr ⟨.insufficientData 0 n p.size, dif_neg hn, ?_⟩
    rw [← hsize] at hn ⊢
    exact dif_neg hn

/-- **Quoting gives back what was before the window**, which is the same. -/
theorem sameWindow_moveHead {p q : Packet} {size : Nat} (hbefore : SameBefore (size + 1) p q)
    {n : Nat} (hwindow : (q.truncate n).window = (p.truncate n).window) :
    SameWindow ((p.truncate n).moveHead (.negSucc size))
      ((q.truncate n).moveHead (.negSucc size)) := by
  cases hbefore with
  | same =>
      cases hmoved : (p.truncate n).moveHead (.negSucc size) with
      | ok r => exact .inl ⟨r, r, rfl, rfl, rfl⟩
      | error cause => exact .inr ⟨cause, rfl, rfl⟩
  | bytes hp hq hbefore =>
      obtain ⟨p', hp', hpwindow⟩ := (p.truncate n).window_moveHead
        (show size + 1 ≤ (p.truncate n).head by rw [Host.truncate_head]; exact hp)
      obtain ⟨q', hq', hqwindow⟩ := (q.truncate n).window_moveHead
        (show size + 1 ≤ (q.truncate n).head by rw [Host.truncate_head]; exact hq)
      refine .inl ⟨p', q', hp', hq', ?_⟩
      rw [hpwindow, hqwindow, before_truncate, before_truncate, hbefore, hwindow]

end Packet

namespace Inbound

/-! ### Windows that carry the same -/

/-- Windows that a host at `localIp` accepts, as UDP datagrams from `source`, or refuses with
the same explanation, and that carry the same data. -/
structure SameUdp (localIp source : Ipv4Addr) (window window' : Bytes) : Prop where
  check : udp localIp source window' = udp localIp source window
  content : ∀ h, udp localIp source window = .ok h →
    window'.take h.length.toNat = window.take h.length.toNat

/-- Windows that a host at `localIp` accepts, as IPv4 packets, or refuses with the same
explanation, and that carry the same, or else the same header and the same UDP datagram. -/
structure SameIpv4 (localIp : Ipv4Addr) (window window' : Bytes) : Prop where
  check : ipv4 localIp window' = ipv4 localIp window
  content : ∀ h, ipv4 localIp window = .ok h →
    window'.take h.totalLength.toNat = window.take h.totalLength.toNat ∨
    (h.protocol = Protocol.udp ∧ window'.take h.headerLength = window.take h.headerLength ∧
      SameUdp localIp h.source ((window.take h.totalLength.toNat).drop h.headerLength)
        ((window'.take h.totalLength.toNat).drop h.headerLength))

/-- Frames that a host at `localIp` accepts, or refuses with the same explanation, and that
carry the same, or else IPv4 packets that do. -/
structure SameFrame (localIp : Ipv4Addr) (frame frame' : Bytes) : Prop where
  check : ethernet frame' = ethernet frame
  content : ∀ h, ethernet frame = .ok h →
    frame'.drop Header.Ethernet.size = frame.drop Header.Ethernet.size ∨
    (h.etherType = EtherType.ipv4 ∧
      SameIpv4 localIp (frame.drop Header.Ethernet.size) (frame'.drop Header.Ethernet.size))

theorem SameUdp.of_eq (localIp source : Ipv4Addr) {window window' : Bytes}
    (heq : window' = window) : SameUdp localIp source window window' := by
  subst heq
  exact ⟨rfl, fun _ _ => rfl⟩

theorem SameIpv4.of_eq (localIp : Ipv4Addr) {window window' : Bytes}
    (heq : window' = window) : SameIpv4 localIp window window' := by
  subst heq
  exact ⟨rfl, fun _ _ => .inl rfl⟩

theorem SameFrame.of_eq (localIp : Ipv4Addr) {frame frame' : Bytes}
    (heq : frame' = frame) : SameFrame localIp frame frame' := by
  subst heq
  exact ⟨rfl, fun _ _ => .inl rfl⟩

end Inbound

namespace Likeness

/-! ### What may be passed to a handler -/

/-- Packets that may be passed to the handler of a protocol, as from `source`, in step. -/
inductive Passes (localIp source : Ipv4Addr) : ProtocolHandler → Packet → Packet → Prop where
  | same (handler : ProtocolHandler) (p : Packet) : Passes localIp source handler p p
  | icmp {p q : Packet} (hwindow : q.window = p.window) : Passes localIp source .icmp p q
  | udp {p q : Packet} (hsame : Inbound.SameUdp localIp source p.window q.window)
      (hbefore : Packet.SameBefore 20 p q) : Passes localIp source .udp p q

/-- Packets that may be passed to the handler of an ether type in step, where that has to be
the host's own for them to differ. -/
inductive PassesFrame (localIp : Ipv4Addr) (own : Prop) :
    FrameHandler → Packet → Packet → Prop where
  | same (handler : FrameHandler) (p : Packet) : PassesFrame localIp own handler p p
  | arp {p q : Packet} (hwindow : q.window = p.window) : PassesFrame localIp own .arp p q
  | ipv4 {p q : Packet} (hown : own) (hsame : Inbound.SameIpv4 localIp p.window q.window) :
      PassesFrame localIp own .ipv4 p q

/-- What an accepted packet leaves behind when its header is stripped from what it carries. -/
theorem strip_of_ipv4 {localIp : Ipv4Addr} {p : Packet} {ip : Header.Ipv4}
    (haccepted : Inbound.ipv4 localIp p.window = .ok ip) :
    ∃ q, (p.truncate ip.totalLength.toNat).strip ip.headerLength = .ok q ∧
      q.window = (p.window.take ip.totalLength.toNat).drop ip.headerLength ∧
      20 ≤ q.head ∧
      q.before 20 = (p.window.take ip.headerLength).drop (ip.headerLength - 20) := by
  obtain ⟨valid, rfl⟩ := (Inbound.ipv4_eq_ok_iff localIp p.window ip).1 haccepted
  have hheader := valid.headerLength
  have htotal := valid.totalLength
  obtain ⟨q, hq, hwindow⟩ :=
    (p.truncate (Header.Ipv4.read p.window).totalLength.toNat).strip_of_le
      (Header.Ipv4.read p.window).headerLength (by
        rw [Packet.window_truncate, List.length_take]
        omega)
  obtain ⟨hroom, hbefore⟩ := Packet.before_strip hq valid.least
  rw [Packet.window_truncate] at hwindow hbefore
  rw [List.take_take, Nat.min_eq_left hheader] at hbefore
  exact ⟨q, hq, hwindow, hroom, hbefore⟩

/-- **What is behind the header** of packets that carry the same may be passed to the host's
own handlers in step. -/
theorem passes_of_sameIpv4 {localIp : Ipv4Addr} {window window' : Bytes} {ip : Header.Ipv4}
    (hsame : Inbound.SameIpv4 localIp window window')
    (haccepted : Inbound.ipv4 localIp window = .ok ip) {p q : Packet}
    (hp : p.window = (window.take ip.totalLength.toNat).drop ip.headerLength)
    (hq : q.window = (window'.take ip.totalLength.toNat).drop ip.headerLength)
    (hbefore : window'.take ip.headerLength = window.take ip.headerLength →
      Packet.SameBefore 20 p q)
    {handler : ProtocolHandler}
    (hhandler : (ip.protocol = Protocol.udp ∧ handler = .udp) ∨
      (ip.protocol = Protocol.icmp ∧ handler = .icmp)) :
    Passes localIp ip.source handler p q := by
  have hlength : ip.headerLength ≤ ip.totalLength.toNat := by
    obtain ⟨valid, rfl⟩ := (Inbound.ipv4_eq_ok_iff localIp window ip).1 haccepted
    exact valid.headerLength
  rcases hsame.content ip haccepted with htotal | ⟨hudp, hheader, hdatagram⟩
  · have hwindow : q.window = p.window := by rw [hp, hq, htotal]
    have hheader := Bytes.take_eq_of_le htotal hlength
    rcases hhandler with ⟨-, rfl⟩ | ⟨-, rfl⟩
    · exact .udp (.of_eq localIp ip.source hwindow) (hbefore hheader)
    · exact .icmp hwindow
  · rw [← hp, ← hq] at hdatagram
    rcases hhandler with ⟨-, rfl⟩ | ⟨hicmp, -⟩
    · exact .udp hdatagram (hbefore hheader)
    · rw [hicmp] at hudp
      exact absurd hudp (by decide)

variable {l : Likeness} {before before' : List Record} {h h' : Host}

variable (l) in
/-- A runner that keeps hosts in step, with scripts that cannot tell them apart. -/
def RunsInStep (run : Host.Runner) : Prop :=
  ∀ (before before' : List Record) (caller : Caller) (script : Script) (h h' : Host),
    l.Oblivious script → l.InStep before before' h h' →
      l.InStep before before' (run caller script h).1 (run caller script h').1 ∧
        (run caller script h').2 = (run caller script h).2

namespace InStep

variable (s : l.InStep before before' h h')
include s

/-! ### What the host answers itself -/

theorem learning (arp : Header.Arp) :
    l.InStep before before' (h.learning arp) (h'.learning arp) :=
  { s.log (.learned arp.senderIp arp.senderMac) with
    cache := by
      show h'.cache.set _ _ h'.clock = h.cache.set _ _ h.clock
      rw [s.cache, s.clock]
    held := by
      show (h'.held.delete _).map _ = (h.held.delete _).map _
      rw [← ExpiringTable.delete_map, ← ExpiringTable.delete_map, s.held]
    answers := s.answers.congr rfl rfl rfl }

/-- **A packet that waited** is sent by its window, wherever that lies. -/
theorem receiveArp {p q : Packet} (hwindow : q.window = p.window) :
    l.InStep before before' (h.receiveArp p) (h'.receiveArp q) := by
  cases harp : Inbound.arp p.window with
  | error refusal =>
      rw [Host.receiveArp, Host.receiveArp, hwindow, harp]
      exact s.refuse refusal
  | ok arp =>
      have harp' : Inbound.arp q.window = .ok arp := by rw [hwindow, harp]
      have hheld' := s.get?_held arp.senderIp
      cases hheld : h.held.get? arp.senderIp h.clock with
      | some waiting =>
          rw [hheld] at hheld'
          obtain ⟨waiting', hwaiting', hsame⟩ := Option.map_eq_some_iff.1 hheld'
          rw [Host.receiveArp_of_waiting h p harp hheld,
            Host.receiveArp_of_waiting h' q harp' hwaiting', Host.flushing, Host.flushing, hsame,
            Packet.size_congr hsame]
          exact (((s.learning arp).log _).emit _).sendFrame hsame _ _
      | none =>
          rw [hheld] at hheld'
          rw [Host.receiveArp_of_free h p harp hheld,
            Host.receiveArp_of_free h' q harp' (Option.map_eq_none_iff.1 hheld'), s.ip]
          split
          · exact (s.learning arp).sendArpReply _ _
          · exact s.learning arp

/-- **An echo request** is answered over the packet it came in, and covers its window. -/
theorem receiveIcmp {p q : Packet} (hwindow : q.window = p.window) (source : Ipv4Addr) :
    l.InStep before before' (h.receiveIcmp p source) (h'.receiveIcmp q source) := by
  rw [Host.receiveIcmp, Host.receiveIcmp, hwindow]
  cases hicmp : Inbound.icmp source p.window with
  | error refusal => exact s.refuse refusal
  | ok request =>
      have hleast := Inbound.size_le_of_icmp_ok hicmp
      rw [Packet.length_window] at hleast
      obtain ⟨reply, hreply, hsent⟩ := Outbound.echoReply_eq_replyMessage request p hleast
      obtain ⟨reply', hreply', hsent'⟩ := Outbound.echoReply_eq_replyMessage request q
        (by rw [Packet.size_congr hwindow]; exact hleast)
      simp only [hreply, hreply']
      exact (s.log _).sendDatagram (by rw [hsent, hsent', hwindow]) _ _

/-! ### Ports -/

theorem remember (port : UInt16) (binding : Nat) (outcome : Host.Outcome) :
    l.InStep before before' (h.remember port binding outcome)
      (h'.remember port binding outcome) := by
  cases outcome with
  | stopped => exact s
  | finished memory =>
      unfold Host.remember
      rw [s.ports]
      cases hbound : h.ports.get? port with
      | none => exact s
      | some bound =>
          simp only []
          split
          · exact { s with
              ports := rfl
              answers := s.answers.insert_port port _ (s.answers.ports port bound hbound) }
          · exact s

theorem leavePort (port : UInt16) (binding : Nat) (outcome : Host.Outcome) :
    l.InStep before before' (h.leavePort port binding outcome)
      (h'.leavePort port binding outcome) := by
  have hleft := (s.emit (.portLeft binding)).remember port binding outcome
  exact { hleft with
    running := by
      show List.erase _ binding = List.erase _ binding
      rw [hleft.running]
    answers := hleft.answers.congr rfl rfl rfl }

section

variable {run : Host.Runner} (hrun : l.RunsInStep run)
include hrun

/-- **A handler of a port** is called on both sides, with the same datagram. -/
theorem enterPort (port : UInt16) {bound : Binding} (datagram : Datagram)
    (hbound : ∀ memory datagram, l.Oblivious (bound.body memory datagram)) :
    l.InStep before before' (h.enterPort run port bound datagram)
      (h'.enterPort run port bound datagram) := by
  by_cases hrunning : bound.number ∈ h.running
  · rw [Host.enterPort, Host.enterPort, s.running, if_pos hrunning, if_pos hrunning]
    exact s.log _
  · have hmarked : l.InStep before before' { h with running := bound.number :: h.running }
        { h' with running := bound.number :: h'.running } :=
      { s with
        running := by rw [s.running]
        answers := s.answers.congr rfl rfl rfl }
    have hentered : l.InStep before before' (h.enteringPort port bound datagram)
        (h'.enteringPort port bound datagram) := hmarked.emit _
    obtain ⟨hleft, houtcome⟩ := hrun before before' (.port bound.number bound.name)
      (bound.body bound.memory datagram) _ _ (hbound _ _) hentered
    rw [Host.enterPort_of_idle h run port bound datagram hrunning,
      Host.enterPort_of_idle h' run port bound datagram (by rw [s.running]; exact hrunning),
      houtcome]
    exact hleft.leavePort port bound.number _

/-- **A datagram** is delivered, or quoted together with the bytes before it. -/
theorem receiveUdp {p q : Packet} {source : Ipv4Addr}
    (hsame : Inbound.SameUdp h.config.ip source p.window q.window)
    (hbefore : Packet.SameBefore 20 p q) :
    l.InStep before before' (h.receiveUdp run p source) (h'.receiveUdp run q source) := by
  rw [Host.receiveUdp, Host.receiveUdp, s.ip, hsame.check, s.ports]
  cases hudp : Inbound.udp h.config.ip source p.window with
  | error refusal => exact s.refuse refusal
  | ok udp =>
      have hwindow : (q.truncate udp.length.toNat).window =
          (p.truncate udp.length.toNat).window := by
        rw [Packet.window_truncate, Packet.window_truncate, hsame.content udp hudp]
      simp only []
      cases hport : h.ports.get? udp.destination with
      | none =>
          have hquoted : Packet.SameWindow
              ((p.truncate udp.length.toNat).moveHead (-(Header.Ipv4.size : Int)))
              ((q.truncate udp.length.toNat).moveHead (-(Header.Ipv4.size : Int))) :=
            Packet.sameWindow_moveHead hbefore hwindow
          rcases hquoted with ⟨u, u', hu, hu', hquote⟩ | ⟨cause, hu, hu'⟩
          · simp only [hu, hu']
            exact (s.log _).sendUnreachable hquote _ _
          · simp only [hu, hu']
            exact (s.log _).log _
      | some bound =>
          rcases Packet.sameWindow_strip hwindow Header.Udp.size with
            ⟨u, u', hu, hu', hdata⟩ | ⟨cause, hu, hu'⟩
          · simp only [hu, hu', Packet.size_congr hdata, hdata]
            exact (s.log _).enterPort hrun _ _ (s.answers.ports _ bound hport)
          · simp only [hu, hu']
            exact s.log _

/-! ### Protocols -/

/-- **The handler of a protocol** is called on both sides, with packets that may be passed to
it. -/
theorem handleProtocol {handler : ProtocolHandler} {p q : Packet} {source : Ipv4Addr}
    (hpasses : Passes h.config.ip source handler p q)
    (hhandler : handler.Throughout (fun _ => True) l.Fair) :
    l.InStep before before' (h.handleProtocol run handler p source)
      (h'.handleProtocol run handler q source) := by
  have hcalled : l.InStep before before'
      (h.emit (.protocolHandled handler.name? p.head p.window source))
      (h'.emit (.protocolHandled handler.name? q.head q.window source)) :=
    s.record (.inr ⟨rfl, rfl⟩)
  cases hpasses with
  | same handler p =>
      cases handler with
      | icmp => exact hcalled.receiveIcmp rfl source
      | udp => exact hcalled.receiveUdp hrun (.of_eq _ _ rfl) .same
      | custom name body =>
          rw [ProtocolHandler.Throughout] at hhandler
          exact (hrun before before' (.protocol name) (body p source) _ _ (hhandler p source)
            hcalled).1
  | icmp hwindow => exact hcalled.receiveIcmp hwindow source
  | udp hsame hbefore => exact hcalled.receiveUdp hrun hsame hbefore

/-- **A packet** that carries the same is passed on in step, or quoted in step. -/
theorem receiveIpv4 {p q : Packet} (hsame : Inbound.SameIpv4 h.config.ip p.window q.window)
    (hown : q = p ∨ h.HasOwnHandlers) :
    l.InStep before before' (h.receiveIpv4 run p) (h'.receiveIpv4 run q) := by
  rw [Host.receiveIpv4, Host.receiveIpv4, s.ip, hsame.check, s.protocolHandlers]
  cases hip : Inbound.ipv4 h.config.ip p.window with
  | error refusal => exact s.refuse refusal
  | ok ip =>
      have hip' : Inbound.ipv4 h.config.ip q.window = .ok ip := by rw [hsame.check, hip]
      simp only []
      cases hhandler : h.protocolHandlers.get? ip.protocol with
      | none =>
          refine (s.log _).sendUnreachable ?_ _ _
          rw [Packet.window_truncate, Packet.window_truncate]
          rcases hsame.content ip hip with htotal | ⟨hudp, -⟩
          · exact htotal
          · rcases hown with rfl | own
            · rfl
            · rw [hudp, own.udp] at hhandler
              cases hhandler
      | some handler =>
          obtain ⟨u, hu, huwindow, huroom, hubefore⟩ := strip_of_ipv4 hip
          obtain ⟨v, hv, hvwindow, hvroom, hvbefore⟩ := strip_of_ipv4 hip'
          simp only [hu, hv]
          refine s.handleProtocol hrun ?_ (s.answers.protocolHandlers _ handler hhandler)
          rcases hown with rfl | own
          · rw [hu] at hv
            cases hv
            exact .same handler u
          · refine passes_of_sameIpv4 hsame hip huwindow hvwindow (fun hheader => ?_)
              (own.eq_of_protocolHandler hhandler)
            exact .bytes huroom hvroom (by rw [hubefore, hvbefore, hheader])

/-! ### Ether types and the link -/

/-- **The handler of an ether type** is called on both sides. -/
theorem handleFrame {handler : FrameHandler} {p q : Packet} {source : MacAddr}
    (hpasses : PassesFrame h.config.ip h.HasOwnHandlers handler p q)
    (hhandler : handler.Throughout (fun _ => True) l.Fair) :
    l.InStep before before' (h.handleFrame run handler p source)
      (h'.handleFrame run handler q source) := by
  have hcalled : l.InStep before before'
      (h.emit (.frameHandled handler.name? p.head p.window source))
      (h'.emit (.frameHandled handler.name? q.head q.window source)) :=
    s.record (.inr ⟨rfl, rfl⟩)
  cases hpasses with
  | same handler p =>
      cases handler with
      | arp => exact hcalled.receiveArp rfl
      | ipv4 => exact hcalled.receiveIpv4 hrun (.of_eq _ rfl) (.inl rfl)
      | custom name body =>
          rw [FrameHandler.Throughout] at hhandler
          exact (hrun before before' (.frame name) (body p source) _ _ (hhandler p source)
            hcalled).1
  | arp hwindow => exact hcalled.receiveArp hwindow
  | ipv4 own hsame => exact hcalled.receiveIpv4 hrun hsame (.inr (own.congr rfl rfl))

/-- **A frame** that carries the same is passed on in step. -/
theorem receiveFrame {p q : Packet} (hsame : Inbound.SameFrame h.config.ip p.window q.window)
    (hown : q = p ∨ h.HasOwnHandlers) :
    l.InStep before before' (h.receiveFrame run p) (h'.receiveFrame run q) := by
  rw [Host.receiveFrame, Host.receiveFrame, hsame.check, s.frameHandlers]
  cases heth : Inbound.ethernet p.window with
  | error refusal => exact s.refuse refusal
  | ok ethernet =>
      have heth' : Inbound.ethernet q.window = .ok ethernet := by rw [hsame.check, heth]
      simp only []
      cases hhandler : h.frameHandlers.get? ethernet.etherType with
      | none => exact s.log _
      | some handler =>
          obtain ⟨u, hu, huwindow⟩ := p.strip_of_le Header.Ethernet.size
            (Inbound.parse_of_ethernet_ok heth).2
          obtain ⟨v, hv, hvwindow⟩ := q.strip_of_le Header.Ethernet.size
            (Inbound.parse_of_ethernet_ok heth').2
          simp only [hu, hv]
          refine s.handleFrame hrun ?_ (s.answers.frameHandlers _ handler hhandler)
          rcases hown with rfl | own
          · rw [hu] at hv
            cases hv
            exact .same handler u
          · have hcontent := hsame.content ethernet heth
            rw [← huwindow, ← hvwindow] at hcontent
            rcases own.eq_of_frameHandler hhandler with ⟨-, rfl⟩ | ⟨harp, rfl⟩
            · rcases hcontent with hwindow | ⟨-, hpacket⟩
              · exact .ipv4 own (.of_eq _ hwindow)
              · exact .ipv4 own hpacket
            · rcases hcontent with hwindow | ⟨hipv4, -⟩
              · exact .arp hwindow
              · rw [harp] at hipv4
                exact absurd hipv4 (by decide)

/-- **The next frame of the link** is the same on both sides, whatever earlier ones left in
the receive buffer. -/
theorem poll :
    l.InStep before before' (h.poll run).1 (h'.poll run).1 ∧
      (h'.poll run).2 = (h.poll run).2 := by
  have hlength : h'.rxBuffer.length = h.rxBuffer.length := by
    rw [h.rxBuffer_length, h'.rxBuffer_length, Config.maxFrame, Config.maxFrame, s.threshold]
  have hreceive' : h'.link.receive h'.rxBuffer.length = h.link.receive h.rxBuffer.length := by
    rw [s.link, hlength]
  cases hreceive : h.link.receive h.rxBuffer.length with
  | mk link received =>
      rw [hreceive] at hreceive'
      cases received with
      | error cause =>
          rw [Host.poll, Host.poll, hreceive, hreceive']
          exact ⟨s.setLink rfl, rfl⟩
      | ok frame? =>
          cases frame? with
          | none =>
              rw [Host.poll, Host.poll, hreceive, hreceive']
              exact ⟨s.setLink rfl, rfl⟩
          | some frame =>
              obtain ⟨rxBuffer_length, hpoll⟩ := Host.poll_of_receive_splice h run hreceive
              obtain ⟨rxBuffer_length', hpoll'⟩ := Host.poll_of_receive_splice h' run hreceive'
              have hfilled : l.InStep before before'
                  { h with link, rxBuffer := h.rxBuffer.splice 0 frame, rxBuffer_length }
                  { h' with
                    link
                    rxBuffer := h'.rxBuffer.splice 0 frame
                    rxBuffer_length := rxBuffer_length' } :=
                { s with
                  link := rfl
                  rxBuffer := l.buffer_splice _ _ s.rxBuffer frame
                  answers := s.answers.congr rfl rfl rfl }
              rw [hpoll, hpoll']
              exact ⟨hfilled.receiveFrame hrun (.of_eq _ rfl) (.inl rfl), rfl⟩

end

end InStep

end Likeness

end HostNet
