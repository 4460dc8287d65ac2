import HostNet.Host.Receive

/-!
# Running a host

* `Host.silent`, `Host.start` — the host before and after it announces itself.
* `Host.perform` — one action, with scripts run by a given `Runner`.
* `Script.run` — a script, with its actions done by a given function.
* `Host.exec` — one action, with scripts nested at most so deep.
* `Host.execAll` — actions one after another.

**Depth.**  The script of a handler may bring about further calls of handlers, so
that scripts nest, and without end if handlers keep calling each other.  `exec`
is given a bound on the nesting.  A script at the bound ends at its first
action, which is not done but recorded as `Event.tooDeep`.
-/

namespace HostNet

open Host (Runner Outcome)

/-- Runs a script, with `exec` to do its actions. -/
def Script.run (exec : Action → Host → Host × Option Reply) (caller : Caller) :
    Script → Host → Host × Outcome
  | .done memory, h => (h, .finished memory)
  | .fail cause, h => (h.emit (.gaveUp caller cause), .stopped)
  | .step action next, h =>
      match exec action h with
      | (h, none) => (h, .stopped)
      | (h, some reply) => (next reply).run exec caller (h.emit (.replied caller reply))

namespace Host

/-- Does one action, with `run` to run scripts. -/
def perform (run : Runner) (h : Host) : Action → Host × Reply
  | .inject frame => ({ h with link := h.link.inject frame }, .nothing)
  | .poll => h.poll run
  | .deliver frame => { h with link := h.link.inject frame }.poll run
  | .receiveFrame packet => (h.receiveFrame run packet, .nothing)
  | .sendFrame packet destination etherType =>
      (h.sendFrame packet destination etherType, .nothing)
  | .receiveArp packet => (h.receiveArp packet, .nothing)
  | .sendPacket packet target => (h.sendPacket packet target, .nothing)
  | .sendArpRequest target => (h.sendArpRequest target, .nothing)
  | .sendArpReply target mac => (h.sendArpReply target mac, .nothing)
  | .receiveIpv4 packet => (h.receiveIpv4 run packet, .nothing)
  | .sendDatagram packet destination protocol =>
      (h.sendDatagram packet destination protocol, .nothing)
  | .sendFragment packet destination protocol identification offset more =>
      (h.sendFragment packet destination protocol identification offset more, .nothing)
  | .receiveIcmp packet source => (h.receiveIcmp packet source, .nothing)
  | .sendUnreachable undelivered target what =>
      (h.sendUnreachable undelivered target what, .nothing)
  | .receiveUdp packet source => (h.receiveUdp run packet source, .nothing)
  | .sendSegment packet sourcePort destination port =>
      (h.sendSegment packet sourcePort destination port, .nothing)
  | .sendUdp payload sourcePort destination port =>
      (h.sendUdp payload sourcePort destination port, .nothing)
  | .openPort port name body =>
      let bound : Binding := { number := h.bindings, name, memory := 0, body }
      ({ h with ports := h.ports.insert port bound, bindings := h.bindings + 1 }.emit
        (.portOpened port bound.number), .nothing)
  | .closePort port => ({ h with ports := h.ports.erase port }.emit (.portClosed port), .nothing)
  | .onEtherType etherType handler =>
      ({ h with frameHandlers := h.frameHandlers.insert etherType handler }, .nothing)
  | .onProtocol protocol handler =>
      ({ h with protocolHandlers := h.protocolHandlers.insert protocol handler }, .nothing)
  | .advance nanoseconds => ({ h with clock := h.clock + nanoseconds }, .nothing)
  | .setLink send receive =>
      ({ h with link := { h.link with sendFault := fun _ => send, receiveFault := receive } },
        .nothing)
  | .listEntries => (h, .entries h.entries)
  | .listPending => (h, .addresses h.pending)
  | .showConfig => (h, .config h.config)
  | .countSent => (h, .count h.link.sent.size)
  | .refuse cause => (h, .refused cause)
  | .batch script => ((run .batch script h).1, .nothing)

/-- What runs scripts at a depth of nesting.  At depth zero no action is done. -/
def runner : Nat → Runner
  | 0 => Script.run fun _ h => (h.emit .tooDeep, none)
  | depth + 1 => Script.run fun action h =>
      let (h, reply) := h.perform (runner depth) action
      (h, some reply)

/-- Does one action, with scripts nested at most `depth` deep. -/
def exec (depth : Nat) (h : Host) (action : Action) : Host × Reply :=
  h.perform (runner depth) action

/-- Does actions one after another. -/
def execAll (depth : Nat) (h : Host) (actions : List Action) : Host :=
  actions.foldl (fun h action => (h.exec depth action).1) h

/-- A host on a link, with nothing learned, no port bound and nothing done yet.
It knows ARP and IPv4, and of the latter ICMP and UDP. -/
def silent (config : Config) (link : Link) : Host where
  config
  clock := 0
  link
  rxBuffer := Bytes.zeros config.maxFrame
  cache := ExpiringTable.empty (some config.arpTimeout)
  held := ExpiringTable.empty (some config.arpMinInterval)
  frameHandlers := (Table.empty.insert EtherType.arp .arp).insert EtherType.ipv4 .ipv4
  protocolHandlers := (Table.empty.insert Protocol.icmp .icmp).insert Protocol.udp .udp
  nextId := 0
  ports := Table.empty
  bindings := 0
  running := []
  trace := []
  rxBuffer_length := Bytes.length_zeros _

/-- The host as it is set up on a link.  It has announced itself by asking for its
own address, so that whoever knows that address learns where it is now. -/
def start (config : Config) (link : Link) : Host :=
  (silent config link).sendArpRequest config.ip

end Host

end HostNet
