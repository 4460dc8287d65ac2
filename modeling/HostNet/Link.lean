import HostNet.Bytes

/-!
# Links

The link carries whole frames between the host and the rest of the network.

* `Link` — frames waiting to be received, frames sent, and the failures to come.
* `Link.send`, `Link.receive` — one frame out, one frame in.
* `Link.inject`, `Link.takeSent` — the far side of the link.
* `LinkError` — why a frame was not sent or not received.

Failures are decided beforehand: `sendFault` says of every attempt to send,
counted from zero, how it fails, and `receiveFault` how receiving fails at
present.  A frame whose sending fails is lost; receiving that fails leaves the
queue alone.
-/

namespace HostNet

/-- Why a link did not do as asked. -/
inductive LinkError where
  /-- The device failed, for the reason given. -/
  | io (reason : String)
  /-- A frame of `size` bytes was received into a buffer of `capacity`. -/
  | oversized (size capacity : Nat)
  | closed
  deriving Repr, DecidableEq

/-- The failure in full. -/
def LinkError.message : LinkError → String
  | io reason => "i/o error: " ++ reason
  | oversized size capacity =>
      s!"frame of {size} bytes exceeds the {capacity} byte receive buffer"
  | closed => "link is closed"

/-- A link to the network. -/
structure Link where
  /-- The frames waiting to be received, the next one first. -/
  queue : List Bytes := []
  /-- The frames sent since they were last taken, the oldest one first. -/
  sent : Array Bytes := #[]
  /-- How often a frame was handed over to be sent. -/
  attempts : Nat := 0
  /-- How an attempt to send fails, if it does. -/
  sendFault : Nat → Option LinkError := fun _ => none
  /-- How receiving fails, if it does. -/
  receiveFault : Option LinkError := none

namespace Link

/-- The link after an attempt to send `frame`, and how that failed. -/
def send (l : Link) (frame : Bytes) : Link × Option LinkError :=
  let l' := { l with attempts := l.attempts + 1 }
  match l.sendFault l.attempts with
  | some cause => (l', some cause)
  | none => ({ l' with sent := l.sent.push frame }, none)

/-- The next frame, for a buffer of `capacity` bytes.  A frame that does not fit
is dropped from the queue. -/
def receive (l : Link) (capacity : Nat) : Link × Except LinkError (Option Bytes) :=
  match l.receiveFault, l.queue with
  | some cause, _ => (l, .error cause)
  | none, [] => (l, .ok none)
  | none, frame :: rest =>
      let l' := { l with queue := rest }
      if capacity < frame.length then (l', .error (.oversized frame.length capacity))
      else (l', .ok (some frame))

/-- The link with one more frame waiting to be received. -/
def inject (l : Link) (frame : Bytes) : Link := { l with queue := l.queue ++ [frame] }

/-- The frames sent, oldest first, and the link without them. -/
def takeSent (l : Link) : List Bytes × Link := (l.sent.toList, { l with sent := #[] })

end Link

end HostNet
