import HostNet.Proofs.Likeness.Runs

/-!
# Only the window matters

No byte outside of the window of a packet gets out, and the room before a window is there
to save copies and for nothing else.

* `Action.OnSameWindow` — the same is asked, of packets that have the same window.
* `exec_on_same_window` — that has the same effect on hosts that are alike, also if their
  configurations differ in the room before fresh packets.

### What is left out

A UDP datagram is not among these packets.  If nothing is bound to its port then it is
quoted together with the IPv4 header before it, which has been stripped and is outside of
the window by then.  Whoever passes on a datagram has to pass on that header with it, as
the host does (`InStep.receiveUdp`).
-/

namespace HostNet

/-- **The same is asked of packets with the same window**: to send them, by any layer, or to
process them. -/
inductive Action.OnSameWindow : Action → Action → Prop where
  | sendFrame {p q : Packet} (hwindow : q.window = p.window) (destination : MacAddr)
      (etherType : UInt16) :
      OnSameWindow (.sendFrame p destination etherType) (.sendFrame q destination etherType)
  | sendPacket {p q : Packet} (hwindow : q.window = p.window) (target : Ipv4Addr) :
      OnSameWindow (.sendPacket p target) (.sendPacket q target)
  | sendFragment {p q : Packet} (hwindow : q.window = p.window) (destination : Ipv4Addr)
      (protocol : UInt8) (identification : UInt16) (offset : Nat) (more : Bool) :
      OnSameWindow (.sendFragment p destination protocol identification offset more)
        (.sendFragment q destination protocol identification offset more)
  | sendDatagram {p q : Packet} (hwindow : q.window = p.window) (destination : Ipv4Addr)
      (protocol : UInt8) :
      OnSameWindow (.sendDatagram p destination protocol) (.sendDatagram q destination protocol)
  | sendSegment {p q : Packet} (hwindow : q.window = p.window) (sourcePort : UInt16)
      (destination : Ipv4Addr) (port : UInt16) :
      OnSameWindow (.sendSegment p sourcePort destination port)
        (.sendSegment q sourcePort destination port)
  | sendUnreachable {p q : Packet} (hwindow : q.window = p.window) (target : Ipv4Addr)
      (what : Unreachable) :
      OnSameWindow (.sendUnreachable p target what) (.sendUnreachable q target what)
  | receiveFrame {p q : Packet} (hwindow : q.window = p.window) :
      OnSameWindow (.receiveFrame p) (.receiveFrame q)
  | receiveArp {p q : Packet} (hwindow : q.window = p.window) :
      OnSameWindow (.receiveArp p) (.receiveArp q)
  | receiveIpv4 {p q : Packet} (hwindow : q.window = p.window) :
      OnSameWindow (.receiveIpv4 p) (.receiveIpv4 q)
  | receiveIcmp {p q : Packet} (hwindow : q.window = p.window) (source : Ipv4Addr) :
      OnSameWindow (.receiveIcmp p source) (.receiveIcmp q source)

namespace Likeness

/-- A script that asks for the same whatever is replied does not make use of any reply. -/
theorem oblivious_ofList (l : Likeness) (actions : List Action)
    (hactions : ∀ action ∈ actions, action.Throughout (fun _ => True) l.Fair) :
    l.Oblivious (.ofList actions) := by
  induction actions with
  | nil => simp only [Script.ofList, Oblivious, Script.Throughout]
  | cons action rest ih =>
      rw [Script.ofList, Oblivious, Script.Throughout]
      exact ⟨hactions action List.mem_cons_self, fun _ _ _ => rfl,
        fun _ => ih fun a ha => hactions a (List.mem_cons_of_mem _ ha)⟩

/-- **One action on packets with the same window** keeps hosts in step; the cases are the
actions. -/
theorem InStep.exec {l : Likeness} {before before' : List Record} {h h' : Host}
    (s : l.InStep before before' h h') (own : h.HasOwnHandlers) (depth : Nat)
    {action action' : Action} (hsame : action.OnSameWindow action') :
    l.InStep before before' (h.exec depth action).1 (h'.exec depth action').1 := by
  have hrun := l.runner_inStep depth
  cases hsame with
  | sendFrame hwindow destination etherType => exact s.sendFrame hwindow destination etherType
  | sendPacket hwindow target => exact s.sendPacket hwindow target
  | sendFragment hwindow destination protocol identification offset more =>
      exact s.sendFragment hwindow destination protocol identification offset more
  | sendDatagram hwindow destination protocol =>
      exact s.sendDatagram hwindow destination protocol
  | sendSegment hwindow sourcePort destination port =>
      exact s.sendSegment hwindow sourcePort destination port
  | sendUnreachable hwindow target what => exact s.sendUnreachable hwindow target what
  | receiveFrame hwindow => exact s.receiveFrame hrun (.of_eq _ hwindow) (.inr own)
  | receiveArp hwindow => exact s.receiveArp hwindow
  | receiveIpv4 hwindow => exact s.receiveIpv4 hrun (.of_eq _ hwindow) (.inr own)
  | receiveIcmp hwindow source => exact s.receiveIcmp hwindow source

/-- **Only the window matters.**  Take two hosts that differ in nothing but the storage
outside of the windows of packets that wait, and in the room that they keep before fresh
packets, with their own handlers of ether types and protocols and with handlers of ports
that see the payload of a datagram but not that room.  Ask the same of both, on packets with
the same window, whatever is before and behind that and however much of it.  Then the same
frames are sent in the same order, handlers are called with the same datagrams, the same
lines are logged, and the hosts differ in nothing else than before. -/
theorem exec_on_same_window (depth : Nat) {h h' : Host} (alike : headRooms.Alike h h')
    (own : h.HasOwnHandlers)
    (hports : ∀ port bound, h.ports.get? port = some bound →
      ∀ memory datagram, headRooms.Oblivious (bound.body memory datagram))
    {action action' : Action} (hsame : action.OnSameWindow action') :
    headRooms.SameEffect h h' (h.exec depth action).1 (h'.exec depth action').1 := by
  have s := alike.inStep (.of_hasOwnHandlers own hports)
  exact (s.exec own depth hsame).sameEffect

/-- A datagram sent by a host that keeps no room before it, and by one that does, where what
is left of another packet is around the window; an echo handler is bound to a port of both. -/
theorem exec_on_same_window_without_room :
    ∃ config, Settings.build {} = .ok config ∧
      let ports : Table UInt16 Binding := Table.empty.insert 7
        ⟨0, "echo", 0, fun _ d => .ofList [.sendUdp d.payload 7 d.source d.port]⟩
      let h : Host := { Host.silent config {} with ports }
      let h' : Host :=
        { Host.silent { config with headRoom := 0, headRoom_lt := by decide } {} with ports }
      headRooms.SameEffect h h'
        (h.exec 1 (.sendDatagram (.ofPayload 64 [1, 2, 3]) ⟨10, 0, 0, 2⟩ Protocol.udp)).1
        (h'.exec 1 (.sendDatagram ((Packet.ofPayload 2 [1, 2, 3, 4, 5]).truncate 3) ⟨10, 0, 0, 2⟩
          Protocol.udp)).1 := by
  obtain ⟨config, hconfig⟩ : ∃ config, Settings.build {} = .ok config := ⟨_, rfl⟩
  refine ⟨config, hconfig, ?_⟩
  intro ports h h'
  have hconfig : headRooms.config h.config h'.config := ⟨0, by decide, rfl⟩
  have alike : headRooms.Alike h h' := .of_config h hconfig rfl h'.rxBuffer_length
  have own : h.HasOwnHandlers := (Host.silent_hasOwnHandlers config {}).congr rfl rfl
  refine exec_on_same_window 1 alike own (fun port bound hbound memory datagram => ?_)
    (.sendDatagram (by decide) _ _)
  replace hbound := (Table.get?_insert _ _ _ _).symm.trans hbound
  split at hbound
  · cases hbound
    refine oblivious_ofList headRooms _ fun action haction => ?_
    cases List.mem_singleton.1 haction
    simp only [Action.Throughout]
  · cases (Table.get?_empty port).symm.trans hbound

end Likeness

end HostNet
