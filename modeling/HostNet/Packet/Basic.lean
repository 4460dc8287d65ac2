import HostNet.Bytes
import HostNet.Packet.Error

/-!
# Packets

A packet is a buffer with a movable window.  Every layer of the host owns the
packet while it works on it: on the way out each layer prepends its header by
moving the head of the window down, on the way in each layer strips its header
by moving the head up.  Stripped bytes stay in the storage, so moving the head
back down attaches a header again as it was received.

* `Packet` — storage, `head` and `tail`, with `head ≤ tail ≤ capacity` carried
  by the type.
* `Packet.window` — the bytes between head and tail; all that other layers see.
* `Packet.withCapacity`, `Packet.ofPayload` — fresh packets.
* `Packet.moveHead`, `Packet.moveTail`, `Packet.strip`, `Packet.trim`,
  `Packet.truncate`, `Packet.clear` — move the ends of the window and leave the
  storage alone.
* `Packet.reserve`, `Packet.prepend`, `Packet.append`, `Packet.pad` — grow the
  window, and the storage where there is no room left.
* `Packet.overwrite`, `Packet.read`, `Packet.write` — parts of the window.

### Which operations can be refused

Moving an end of the window past the other end, or past the storage, is refused
with a `Packet.Error`, and so is reading or writing outside of the window.
Growing the window by `reserve`, `append` or `pad` never is: the storage grows
with it.
-/

namespace HostNet

/-- A buffer of bytes with a movable window. -/
structure Packet where
  /-- The whole buffer: the headroom, the window and the remainder behind it. -/
  storage : Bytes
  /-- Where the window starts. -/
  head : Nat
  /-- Where the window ends. -/
  tail : Nat
  head_le_tail : head ≤ tail
  tail_le_capacity : tail ≤ storage.length
  deriving Repr, DecidableEq

namespace Packet

/-- The bytes between head and tail. -/
def window (p : Packet) : Bytes := (p.storage.drop p.head).take (p.tail - p.head)

/-- The number of bytes in the window. -/
def size (p : Packet) : Nat := p.tail - p.head

/-- The size of the storage. -/
def capacity (p : Packet) : Nat := p.storage.length

/-- **The size is that of the window.** -/
@[simp] theorem length_window (p : Packet) : p.window.length = p.size := by
  have := p.tail_le_capacity
  simp only [window, size, List.length_take, List.length_drop]
  omega

/-- An empty packet with `headRoom` bytes before the window and `capacity` bytes
behind it. -/
def withCapacity (headRoom capacity : Nat) : Packet where
  storage := Bytes.zeros (headRoom + capacity)
  head := headRoom
  tail := headRoom
  head_le_tail := Nat.le_refl _
  tail_le_capacity := by rw [Bytes.length_zeros]; omega

/-- A packet whose window holds `payload`, with `headRoom` bytes before it. -/
def ofPayload (headRoom : Nat) (payload : Bytes) : Packet where
  storage := Bytes.zeros headRoom ++ payload
  head := headRoom
  tail := headRoom + payload.length
  head_le_tail := Nat.le_add_right _ _
  tail_le_capacity := by simp

/-! ### Moving the ends of the window -/

/-- The window made empty by moving its tail to its head. -/
def clear (p : Packet) : Packet :=
  { p with
    tail := p.head
    head_le_tail := Nat.le_refl _
    tail_le_capacity := Nat.le_trans p.head_le_tail p.tail_le_capacity }

/-- The first `size` bytes stripped from the window. -/
def strip (p : Packet) (size : Nat) : Except Packet.Error Packet :=
  if h : size ≤ p.size then
    .ok { p with
      head := p.head + size
      head_le_tail := by have := p.head_le_tail; unfold Packet.size at h; omega }
  else .error (.insufficientData 0 size p.size)

/-- The head moved by `diff` bytes: up, stripping bytes from the window, or for a
negative `diff` down, which gives bytes stripped before back to the window. -/
def moveHead (p : Packet) : Int → Except Packet.Error Packet
  | .ofNat diff =>
      if h : p.head + diff ≤ p.tail then
        .ok { p with head := p.head + diff, head_le_tail := h }
      else .error .invalidLength
  | .negSucc n =>
      if n + 1 ≤ p.head then
        .ok { p with
          head := p.head - (n + 1)
          head_le_tail := Nat.le_trans (Nat.sub_le _ _) p.head_le_tail }
      else .error (.insufficientHeadroom (n + 1) p.head)

/-- The last `size` bytes removed from the window. -/
def trim (p : Packet) (size : Nat) : Except Packet.Error Packet :=
  if h : size ≤ p.size then
    .ok { p with
      tail := p.tail - size
      head_le_tail := by have := p.head_le_tail; unfold Packet.size at h; omega
      tail_le_capacity := Nat.le_trans (Nat.sub_le _ _) p.tail_le_capacity }
  else .error .invalidLength

/-- The tail moved by `diff` bytes: up, into the storage behind the window and
with whatever bytes are there, or for a negative `diff` down. -/
def moveTail (p : Packet) : Int → Except Packet.Error Packet
  | .ofNat diff =>
      if h : p.tail + diff ≤ p.capacity then
        .ok { p with
          tail := p.tail + diff
          head_le_tail := Nat.le_trans p.head_le_tail (Nat.le_add_right _ _)
          tail_le_capacity := h }
      else .error .invalidLength
  | .negSucc n => p.trim (n + 1)

/-- The window cut down to at most `size` bytes. -/
def truncate (p : Packet) (size : Nat) : Packet :=
  if h : size < p.size then
    { p with
      tail := p.head + size
      head_le_tail := Nat.le_add_right _ _
      tail_le_capacity := by
        have := p.head_le_tail
        have := p.tail_le_capacity
        unfold Packet.size at h
        omega }
  else p

/-! ### Growing the window -/

/-- The window grown down by `size` bytes.  They are whatever the storage held
there, after zeros where the headroom did not reach that far. -/
def reserve (p : Packet) (size : Nat) : Packet :=
  if h : size ≤ p.head then
    { p with
      head := p.head - size
      head_le_tail := Nat.le_trans (Nat.sub_le _ _) p.head_le_tail }
  else
    { storage := Bytes.zeros (size - p.head) ++ p.storage
      head := 0
      tail := p.tail + (size - p.head)
      head_le_tail := Nat.zero_le _
      tail_le_capacity := by
        have := p.tail_le_capacity
        simp only [List.length_append, Bytes.length_zeros]
        omega }

/-- The window with `source` written over the bytes from `offset` on, as far as
the window reaches. -/
def overwrite (p : Packet) (offset : Nat) (source : Bytes) : Packet :=
  let start := p.head + min offset p.size
  let fitting := source.take (p.tail - start)
  { p with
    storage := p.storage.splice start fitting
    tail_le_capacity := by
      have := p.head_le_tail
      have := p.tail_le_capacity
      have hstart : start ≤ p.storage.length := by
        show p.head + min offset (p.tail - p.head) ≤ _
        omega
      rw [Bytes.length_splice _ _ _ hstart]
      omega }

/-- The window with `header` put before it. -/
def prepend (p : Packet) (header : Bytes) : Packet :=
  (p.reserve header.length).overwrite 0 header

/-- The window with `bytes` put behind it, over what the storage held there. -/
def append (p : Packet) (bytes : Bytes) : Packet where
  storage := p.storage.splice p.tail bytes
  head := p.head
  tail := p.tail + bytes.length
  head_le_tail := Nat.le_trans p.head_le_tail (Nat.le_add_right _ _)
  tail_le_capacity := Bytes.le_length_splice _ _ _ p.tail_le_capacity

/-- The window with `size` zero bytes put behind it. -/
def pad (p : Packet) (size : Nat) : Packet := p.append (Bytes.zeros size)

/-! ### Reading and writing within the window -/

/-- Whether the window holds `size` bytes from `offset` on.  An offset at the end
of the window is inside, one behind it is not, whatever the size. -/
def requireRange (p : Packet) (offset size : Nat) : Except Packet.Error Unit :=
  if p.size < offset then .error (.invalidOffset offset p.size)
  else if p.size < offset + size then .error (.insufficientData offset size p.size)
  else .ok ()

/-- The `size` bytes of the window from `offset` on. -/
def read (p : Packet) (offset size : Nat) : Except Packet.Error Bytes := do
  p.requireRange offset size
  pure ((p.window.drop offset).take size)

/-- The window with `source` written over the bytes from `offset` on, all of
which have to be there. -/
def write (p : Packet) (offset : Nat) (source : Bytes) : Except Packet.Error Packet := do
  p.requireRange offset source.length
  pure (p.overwrite offset source)

/-- The two bytes of the window from `offset` on as a word in network order. -/
def readWord (p : Packet) (offset : Nat) : Except Packet.Error UInt16 := do
  pure (Word16.ofBytes (← p.read offset 2))

/-- The window with `word` written in network order over the bytes at `offset`. -/
def writeWord (p : Packet) (offset : Nat) (word : UInt16) : Except Packet.Error Packet :=
  p.write offset (Word16.bytes word)

/-- The window with every byte replaced by `byte`. -/
def fill (p : Packet) (byte : UInt8) : Packet := p.overwrite 0 (List.replicate p.size byte)

/-! ### Text -/

/-- The position of the window and the size of the storage, without the bytes. -/
def summary (p : Packet) : String :=
  s!"Packet \x7b head: {p.head}, tail: {p.tail}, capacity: {p.capacity}, .. \x7d"

end Packet

end HostNet
