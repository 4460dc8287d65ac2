import HostNet.Packet.Basic

/-!
# Window operations as data

A sequence of operations on one packet is a list of `Packet.Operation`s.

* `Packet.Operation` — one operation with its arguments.
* `Packet.Answer` — what an operation answers beside the packet.
* `Packet.Operation.apply` — the packet after an operation, and its answer.
* `Packet.run` — a sequence of operations.

**A refused operation leaves the packet as it was**
(`Packet.Operation.apply_of_error`).
-/

namespace HostNet.Packet

/-- An operation on a packet window. -/
inductive Operation where
  | moveHead (diff : Int)
  | moveTail (diff : Int)
  | strip (size : Nat)
  /-- Grows the window down; answers with the bytes found there. -/
  | reserve (size : Nat)
  /-- Puts a header before the window; answers with the bytes it replaces. -/
  | prepend (header : Bytes)
  | pad (size : Nat)
  | trim (size : Nat)
  | truncate (size : Nat)
  | append (bytes : Bytes)
  /-- Appends like a writer of a stream, which answers how much it took. -/
  | extend (bytes : Bytes)
  | clear
  | write (offset : Nat) (bytes : Bytes)
  | writeWord (offset : Nat) (word : UInt16)
  | fill (byte : UInt8)
  | read (offset size : Nat)
  | readWord (offset : Nat)
  | summary
  deriving Repr, DecidableEq

/-- What an operation answers beside the packet. -/
inductive Answer where
  | nothing
  | bytes (bytes : Bytes)
  | word (word : UInt16)
  | count (count : Nat)
  | text (text : String)
  deriving Repr, DecidableEq

namespace Operation

/-- The packet after an operation that is not refused, and the answer. -/
def result (p : Packet) : Operation → Except Packet.Error (Packet × Answer)
  | moveHead diff => return (← p.moveHead diff, .nothing)
  | moveTail diff => return (← p.moveTail diff, .nothing)
  | strip size => return (← p.strip size, .nothing)
  | reserve size =>
      let grown := p.reserve size
      return (grown, .bytes (grown.window.take size))
  | prepend header =>
      return (p.prepend header, .bytes ((p.reserve header.length).window.take header.length))
  | pad size => return (p.pad size, .nothing)
  | trim size => return (← p.trim size, .nothing)
  | truncate size => return (p.truncate size, .nothing)
  | append bytes => return (p.append bytes, .nothing)
  | extend bytes => return (p.append bytes, .count bytes.length)
  | clear => return (p.clear, .nothing)
  | write offset bytes => return (← p.write offset bytes, .nothing)
  | writeWord offset word => return (← p.writeWord offset word, .nothing)
  | fill byte => return (p.fill byte, .nothing)
  | read offset size => return (p, .bytes (← p.read offset size))
  | readWord offset => return (p, .word (← p.readWord offset))
  | summary => return (p, .text p.summary)

/-- The packet after an operation, and its answer or why it was refused. -/
def apply (p : Packet) (op : Operation) : Packet × Except Packet.Error Answer :=
  match op.result p with
  | .ok (q, answer) => (q, .ok answer)
  | .error cause => (p, .error cause)

/-- A refused operation leaves the packet as it was. -/
theorem apply_of_error {p : Packet} {op : Operation} {cause : Packet.Error}
    (h : (op.apply p).2 = .error cause) : (op.apply p).1 = p := by
  unfold apply at h ⊢
  split
  · rename_i heq
    rw [heq] at h
    cases h
  · rfl

end Operation

/-- The packet after a sequence of operations. -/
def run (p : Packet) (ops : List Operation) : Packet :=
  ops.foldl (fun p op => (op.apply p).1) p

@[simp] theorem run_nil (p : Packet) : p.run [] = p := rfl

@[simp] theorem run_cons (p : Packet) (op : Operation) (ops : List Operation) :
    p.run (op :: ops) = (op.apply p).1.run ops := rfl

end HostNet.Packet
