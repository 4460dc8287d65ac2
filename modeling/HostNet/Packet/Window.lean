import HostNet.Packet.Basic

/-!
# Windows after operations

The layers of a host look at packets only through their windows.  This file says
for each operation what the window is after it, so that nobody has to look at
the storage again.

* `window_ofPayload`, `window_withCapacity` — fresh packets.
* `window_strip`, `window_truncate`, `window_clear` — windows that shrink.
* `window_append`, `window_pad`, `window_prepend` — windows that grow.
* `window_overwrite` — windows that are written to.

`drop_window_reserve` says that reserving leaves the old window behind the
reserved bytes; what these hold depends on the storage.
-/

namespace HostNet.Packet

/-! ### Fresh packets -/

@[simp] theorem window_withCapacity (headRoom capacity : Nat) :
    (withCapacity headRoom capacity).window = [] := by
  simp [withCapacity, window]

@[simp] theorem window_ofPayload (headRoom : Nat) (payload : Bytes) :
    (ofPayload headRoom payload).window = payload := by
  simp [ofPayload, window]

@[simp] theorem size_ofPayload (headRoom : Nat) (payload : Bytes) :
    (ofPayload headRoom payload).size = payload.length := by
  rw [← length_window, window_ofPayload]

/-! ### Windows that shrink -/

@[simp] theorem window_clear (p : Packet) : p.clear.window = [] := by
  simp [clear, window]

theorem window_strip {p q : Packet} {size : Nat} (h : p.strip size = .ok q) :
    q.window = p.window.drop size := by
  unfold strip at h
  split at h <;> cases h
  simp only [window, List.drop_take, List.drop_drop]
  rw [Nat.sub_add_eq]

@[simp] theorem window_truncate (p : Packet) (size : Nat) :
    (p.truncate size).window = p.window.take size := by
  unfold truncate
  split
  · rename_i h
    unfold Packet.size at h
    simp only [window, List.take_take]
    congr 1
    omega
  · rename_i h
    rw [List.take_of_length_le]
    rw [length_window]
    omega

/-! ### Windows that grow -/

@[simp] theorem size_append (p : Packet) (bytes : Bytes) :
    (p.append bytes).size = p.size + bytes.length := by
  have := p.head_le_tail
  simp only [append, size]
  omega

/-- **Appending puts the bytes behind the window.** -/
@[simp] theorem window_append (p : Packet) (bytes : Bytes) :
    (p.append bytes).window = p.window ++ bytes := by
  have h₁ := p.head_le_tail
  have h₂ := p.tail_le_capacity
  have hfront : ((p.storage.take p.tail).drop p.head).length = p.tail - p.head := by
    rw [List.length_drop, List.length_take]
    omega
  have hsize : p.tail + bytes.length - p.head = (p.tail - p.head) + bytes.length := by omega
  simp only [append, window, Bytes.splice]
  rw [List.drop_append_of_le_length (by rw [List.length_take]; omega), hsize,
    ← hfront, List.take_length_add_append, List.take_left, hfront, List.drop_take]

@[simp] theorem window_pad (p : Packet) (size : Nat) :
    (p.pad size).window = p.window ++ Bytes.zeros size := window_append ..

@[simp] theorem size_reserve (p : Packet) (size : Nat) :
    (p.reserve size).size = p.size + size := by
  have := p.head_le_tail
  unfold reserve
  split
  · simp only [Packet.size]
    omega
  · simp only [Packet.size]
    omega

/-- Reserving leaves what was in the window behind the reserved bytes. -/
@[simp] theorem drop_window_reserve (p : Packet) (size : Nat) :
    (p.reserve size).window.drop size = p.window := by
  have h₁ := p.head_le_tail
  unfold reserve
  split
  · rename_i h
    simp only [window, List.drop_take, List.drop_drop]
    rw [Nat.sub_add_cancel h, show p.tail - (p.head - size) - size = p.tail - p.head by omega]
  · rename_i h
    have hdrop : (Bytes.zeros (size - p.head) ++ p.storage).drop size = p.storage.drop p.head := by
      rw [List.drop_append, List.drop_of_length_le (by rw [Bytes.length_zeros]; omega),
        Bytes.length_zeros, show size - (size - p.head) = p.head by omega, List.nil_append]
    simp only [window, List.drop_zero, Nat.sub_zero, List.drop_take, hdrop]
    rw [show p.tail + (size - p.head) - size = p.tail - p.head by omega]

/-! ### Windows that are written to -/

/-- **Writing within the window** changes no byte outside of the part written to. -/
theorem window_overwrite (p : Packet) (offset : Nat) (source : Bytes)
    (h : offset + source.length ≤ p.size) :
    (p.overwrite offset source).window = p.window.splice offset source := by
  have h₁ := p.head_le_tail
  have h₂ := p.tail_le_capacity
  unfold Packet.size at h
  have hmin : min offset p.size = offset := by unfold Packet.size; omega
  have hfit : source.take (p.tail - (p.head + offset)) = source :=
    List.take_of_length_le (by omega)
  simp only [overwrite, window, hmin, hfit]
  rw [Bytes.drop_splice _ _ _ _ (by omega), Bytes.take_splice _ _ _ _ h (by
    rw [List.length_drop]; omega)]

@[simp] theorem size_overwrite (p : Packet) (offset : Nat) (source : Bytes) :
    (p.overwrite offset source).size = p.size := rfl

/-- **Prepending puts the header before the window.** -/
@[simp] theorem window_prepend (p : Packet) (header : Bytes) :
    (p.prepend header).window = header ++ p.window := by
  unfold prepend
  rw [window_overwrite _ _ _ (by rw [size_reserve]; omega)]
  simp [Bytes.splice]

@[simp] theorem size_prepend (p : Packet) (header : Bytes) :
    (p.prepend header).size = p.size + header.length := by
  rw [prepend, size_overwrite, size_reserve]

end HostNet.Packet
