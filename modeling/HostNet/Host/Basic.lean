import HostNet.ExpiringTable
import HostNet.Trace

/-!
# Hosts

A host is an IPv4 stack on a single link.  It owns every table it needs and is
only ever changed by the actions asked of it.

* `Host` — its whole state.
* `Host.emit`, `Host.log`, `Host.refuse` — what the host records.
* `Host.entries`, `Host.pending` — the addresses it knows, and those it waits for.

### Parts of the state

**Resolution.**  `cache` holds the addresses learned, each for as long as the
configuration says.  `held` has one slot for each address that is being
resolved, for the one datagram that waits for it.

**Handlers.**  `frameHandlers` and `protocolHandlers` say what is called with the
payload of a frame and of a packet, `ports` with a datagram.  Each binding of a
port has a number of its own; `running` lists the bindings whose handler is being
called at present, which are not called again before they return.

**Receiving.**  A frame is received into `rxBuffer`, which is as long as the
longest frame (`rxBuffer_length`) and is never cleared.
-/

namespace HostNet

/-- A handler bound to a port. -/
structure Binding where
  /-- No other binding ever has the same number. -/
  number : Nat
  name : String
  /-- What the call before left for the next one. -/
  memory : Nat
  body : PortHandler

/-- A host on a link. -/
structure Host where
  config : Config
  /-- The time in nanoseconds. -/
  clock : Nat
  link : Link
  rxBuffer : Bytes
  cache : ExpiringTable Ipv4Addr MacAddr
  held : ExpiringTable Ipv4Addr Packet
  frameHandlers : Table UInt16 FrameHandler
  protocolHandlers : Table UInt8 ProtocolHandler
  /-- The identification of the next datagram. -/
  nextId : UInt16
  ports : Table UInt16 Binding
  /-- How many bindings there have been. -/
  bindings : Nat
  running : List Nat
  /-- What the host did, the latest first. -/
  trace : List Record
  rxBuffer_length : rxBuffer.length = config.maxFrame

namespace Host

/-- The host with one more event recorded. -/
def emit (h : Host) (event : Event) : Host := { h with trace := ⟨h.clock, event⟩ :: h.trace }

/-- The host with one more notice recorded. -/
def log (h : Host) (notice : Notice) : Host := h.emit (.notice notice)

/-- The host with a refusal recorded. -/
def refuse (h : Host) (refusal : Refusal) : Host := h.emit refusal.event

/-- The host with a fault recorded if `value` does not fit into 16 bits. -/
def noteNarrowing (h : Host) (value : Nat) : Host :=
  match Checked.word16 value with
  | .ok _ => h
  | .error fault => h.emit (.fault fault)

/-- The addresses the host knows the station of, in order. -/
def entries (h : Host) : List ArpEntry :=
  ((h.cache.live h.clock).map fun (ip, e) =>
    { ip, mac := e.value, age := ExpiringTable.age e.stamp h.clock }).mergeSort
      fun a b => a.ip.rank ≤ b.ip.rank

/-- The addresses that a datagram waits for, in order. -/
def pending (h : Host) : List Ipv4Addr :=
  ((h.held.live h.clock).map Prod.fst).mergeSort fun a b => a.rank ≤ b.rank

/-- The host without its record of what it did, and that record, oldest first. -/
def takeTrace (h : Host) : List Record × Host := (h.trace.reverse, { h with trace := [] })

end Host

end HostNet
