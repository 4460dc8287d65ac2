import HostNet.Table

/-!
# Tables whose entries expire

Every entry carries the time at which it was set, and one that is older than
the time to live counts as absent.  Nothing happens in the background: lookups
pass over entries that have expired, and `set` throws such entries away once
more than one time to live has passed since it last did.

* `ExpiringTable` — the stamped entries, the time to live and the last purge.
* `ExpiringTable.isFresh` — whether an entry of some stamp still counts.
* `ExpiringTable.get?`, `ExpiringTable.live` — what counts at some time.
* `ExpiringTable.set`, `ExpiringTable.take`, `ExpiringTable.delete` — change the
  entries.
* `ExpiringTable.size` — the number of stored entries, expired or not.

Times are nanoseconds from a common origin.  An entry whose stamp lies in the
future has age zero.
-/

namespace HostNet

/-- A value with the time at which it was set. -/
structure Stamped (ν : Type) where
  value : ν
  stamp : Nat

/-- A table whose entries expire. -/
structure ExpiringTable (κ ν : Type) where
  /-- How long an entry counts; without one entries count for ever. -/
  ttl : Option Nat
  table : Table κ (Stamped ν)
  /-- When expired entries were last thrown away, or else the first `set`. -/
  lastPurge : Option Nat

namespace ExpiringTable

variable {κ ν : Type}

/-- The table without entries. -/
def empty (ttl : Option Nat) : ExpiringTable κ ν := ⟨ttl, Table.empty, none⟩

/-- The time since `stamp`, which is zero for a stamp in the future. -/
def age (stamp now : Nat) : Nat := now - stamp

/-- Whether an entry set at `stamp` still counts at `now`. -/
def isFresh (t : ExpiringTable κ ν) (stamp now : Nat) : Bool :=
  match t.ttl with
  | none => true
  | some ttl => age stamp now ≤ ttl

/-- The number of stored entries, expired or not. -/
def size (t : ExpiringTable κ ν) : Nat := t.table.size

/-- Whether no entries are stored. -/
def isEmpty (t : ExpiringTable κ ν) : Bool := t.table.entries.isEmpty

/-- The table without the entries that have expired at `now`. -/
def purge (t : ExpiringTable κ ν) (now : Nat) : ExpiringTable κ ν :=
  { t with table := t.table.filter fun _ e => t.isFresh e.stamp now, lastPurge := some now }

/-- Whether more than one time to live has passed since the last purge. -/
def isPurgeDue (t : ExpiringTable κ ν) (now : Nat) : Bool :=
  match t.ttl, t.lastPurge with
  | some ttl, some last => ttl < age last now
  | _, _ => false

/-- The entries that count at `now`. -/
def live (t : ExpiringTable κ ν) (now : Nat) : List (κ × Stamped ν) :=
  t.table.entries.filter fun e => t.isFresh e.2.stamp now

/-- What counts at some time counted at any time before. -/
theorem isFresh_of_le (t : ExpiringTable κ ν) {stamp now later : Nat} (hle : now ≤ later)
    (hfresh : t.isFresh stamp later = true) : t.isFresh stamp now = true := by
  unfold isFresh at hfresh ⊢
  cases httl : t.ttl with
  | none => rfl
  | some ttl =>
      rw [httl] at hfresh
      have hage : later - stamp ≤ ttl := of_decide_eq_true hfresh
      exact decide_eq_true (show now - stamp ≤ ttl by omega)

/-- What is set counts at once. -/
theorem isFresh_self (t : ExpiringTable κ ν) (now : Nat) : t.isFresh now now = true := by
  unfold isFresh
  cases t.ttl with
  | none => rfl
  | some ttl => simp [age]

variable [DecidableEq κ]

/-- The table in which `key` stands for `value` from `now` on, purged if a purge
is due.  The first write of a table with a time to live starts the count. -/
def set (t : ExpiringTable κ ν) (key : κ) (value : ν) (now : Nat) : ExpiringTable κ ν :=
  let t := if t.isPurgeDue now then t.purge now
    else { t with lastPurge := t.ttl.map fun _ => t.lastPurge.getD now }
  { t with table := t.table.insert key ⟨value, now⟩ }

/-- What `key` stands for at `now`. -/
def get? (t : ExpiringTable κ ν) (key : κ) (now : Nat) : Option ν := do
  let e ← t.table.get? key
  if t.isFresh e.stamp now then some e.value else none

/-- The table without an entry for `key`, expired or not. -/
def delete (t : ExpiringTable κ ν) (key : κ) : ExpiringTable κ ν :=
  { t with table := t.table.erase key }

/-- What `key` stands for at `now`, and the table without an entry for it. -/
def take (t : ExpiringTable κ ν) (key : κ) (now : Nat) : Option ν × ExpiringTable κ ν :=
  (t.get? key now, t.delete key)

/-! ### The operations seen through `get?` and `live` -/

theorem get?_eq_some_iff (t : ExpiringTable κ ν) (key : κ) (now : Nat) (value : ν) :
    t.get? key now = some value ↔
      ∃ stamp, t.table.get? key = some ⟨value, stamp⟩ ∧ t.isFresh stamp now = true := by
  unfold get?
  cases h : t.table.get? key with
  | none => simp
  | some e =>
      obtain ⟨v, stamp⟩ := e
      constructor
      · intro hv
        by_cases hf : t.isFresh stamp now = true
        · simp only [hf, Option.bind_eq_bind, Option.bind_some, if_true, Option.some.injEq] at hv
          exact ⟨stamp, by rw [hv], hf⟩
        · simp [hf] at hv
      · rintro ⟨s, hs, hf⟩
        cases hs
        simp [hf]

/-- The live entries are those that a lookup finds. -/
theorem mem_live_iff (t : ExpiringTable κ ν) (now : Nat) (key : κ) (e : Stamped ν) :
    (key, e) ∈ t.live now ↔ t.table.get? key = some e ∧ t.isFresh e.stamp now = true := by
  rw [live, List.mem_filter, Table.mem_entries_iff]

theorem get?_delete (t : ExpiringTable κ ν) (key k : κ) (now : Nat) :
    (t.delete key).get? k now = if k = key then none else t.get? k now := by
  unfold get? delete
  rw [Table.get?_erase]
  split
  · rfl
  · rfl

theorem ttl_set (t : ExpiringTable κ ν) (key : κ) (value : ν) (now : Nat) :
    (t.set key value now).ttl = t.ttl := by
  unfold set
  split
  · rfl
  · rfl

/-- What was just set is there, as long as its time to live has not passed. -/
theorem table_get?_set_self (t : ExpiringTable κ ν) (key : κ) (value : ν) (now : Nat) :
    (t.set key value now).table.get? key = some ⟨value, now⟩ := by
  unfold set
  rw [Table.get?_insert, if_pos rfl]

/-- What is stored after a write was written, or was stored before. -/
theorem table_get?_of_set {t : ExpiringTable κ ν} {key k : κ} {value : ν} {now : Nat}
    {e : Stamped ν} (h : (t.set key value now).table.get? k = some e) :
    (k = key ∧ e = ⟨value, now⟩) ∨ t.table.get? k = some e := by
  by_cases hk : k = key
  · subst hk
    rw [table_get?_set_self, Option.some.injEq] at h
    exact .inl ⟨rfl, h.symm⟩
  · refine .inr ?_
    unfold set at h
    rw [Table.get?_insert, if_neg hk] at h
    split at h
    · rw [purge, Table.get?_filter, Option.filter_eq_some_iff] at h
      exact h.1
    · exact h

/-- What is stored after an entry was deleted was stored before. -/
theorem table_get?_of_delete {t : ExpiringTable κ ν} {key k : κ} {e : Stamped ν}
    (h : (t.delete key).table.get? k = some e) : t.table.get? k = some e := by
  rw [delete, Table.get?_erase] at h
  split at h
  · cases h
  · exact h

/-- **Throwing expired entries away** changes no lookup at that time or later. -/
theorem get?_purge_of_le (t : ExpiringTable κ ν) (k : κ) {now later : Nat} (hle : now ≤ later) :
    (t.purge now).get? k later = t.get? k later := by
  show (((t.table.filter fun _ e => t.isFresh e.stamp now).get? k).bind fun e =>
      if t.isFresh e.stamp later then some e.value else none) = t.get? k later
  rw [Table.get?_filter, get?]
  cases t.table.get? k with
  | none => rfl
  | some e =>
      by_cases hfresh : t.isFresh e.stamp now = true
      · rw [Option.filter_some, if_pos hfresh]
        rfl
      · have hexpired : ¬t.isFresh e.stamp later = true := mt (t.isFresh_of_le hle) hfresh
        rw [Option.filter_some, if_neg hfresh]
        simp [hexpired]

/-- **What a write changes for lookups from then on**: `key` stands for `value` for as long
as its time to live has not passed, and everything else for what it stood for, whether or
not the write was the occasion to throw expired entries away. -/
theorem get?_set_of_le (t : ExpiringTable κ ν) (key : κ) (value : ν) {now later : Nat} (k : κ)
    (hle : now ≤ later) :
    (t.set key value now).get? k later =
      if k = key then if t.isFresh now later then some value else none else t.get? k later := by
  by_cases hk : k = key
  · subst hk
    have hsame : (t.set k value now).isFresh now later = t.isFresh now later := by
      rw [isFresh, isFresh, ttl_set]
    rw [if_pos rfl, get?, table_get?_set_self, ← hsame]
    rfl
  · rw [if_neg hk]
    unfold set
    split
    · rw [← get?_purge_of_le t k hle]
      unfold get?
      rw [Table.get?_insert, if_neg hk]
      rfl
    · unfold get?
      rw [Table.get?_insert, if_neg hk]
      rfl

/-- What a write changes for lookups at the same time. -/
theorem get?_set (t : ExpiringTable κ ν) (key : κ) (value : ν) (now : Nat) (k : κ) :
    (t.set key value now).get? k now = if k = key then some value else t.get? k now := by
  rw [get?_set_of_le t key value k (Nat.le_refl now), if_pos (t.isFresh_self now)]

end ExpiringTable

end HostNet
