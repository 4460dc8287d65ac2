/-!
# Refused window operations

A packet window refuses an operation for one of four causes.  `message` words
the cause for a log line, `label` names it without its numbers.
-/

namespace HostNet

/-- Why an operation on a packet window, or the reading of a header from one,
was refused. -/
inductive Packet.Error where
  /-- The window was to grow down by `diff` bytes with only `head` bytes before it. -/
  | insufficientHeadroom (diff head : Nat)
  /-- The head would have passed the tail, or the tail the end of the storage. -/
  | invalidLength
  /-- The position `offset` lies behind the end of a window of `length` bytes. -/
  | invalidOffset (offset length : Nat)
  /-- The window of `length` bytes does not hold `size` bytes from `offset` on. -/
  | insufficientData (offset size length : Nat)
  deriving Repr, DecidableEq

namespace Packet.Error

/-- The cause without its numbers. -/
def label : Packet.Error → String
  | .insufficientHeadroom .. => "insufficient headroom"
  | .invalidLength => "invalid packet length"
  | .invalidOffset .. => "invalid offset"
  | .insufficientData .. => "insufficient data"

/-- The cause in full. -/
def message : Packet.Error → String
  | .insufficientHeadroom diff head =>
      s!"insufficient headroom: cannot move head {head} down by {diff}"
  | .invalidLength => "invalid packet length"
  | .invalidOffset offset length => s!"invalid offset {offset}, length is {length}"
  | .insufficientData offset size length =>
      s!"insufficient data: {size} bytes at offset {offset}, length is {length}"

end Packet.Error

end HostNet
