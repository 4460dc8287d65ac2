/-!
# Tables

A finite table from keys to values, seen through `Table.get?`.

* `Table` — a list of entries, of which no two have the same key.
* `Table.get?` — what a key stands for.
* `Table.insert`, `Table.erase`, `Table.filter` — change the entries.

The order of the entries means nothing; whoever shows them sorts them first.
`get?_insert`, `get?_erase` and `get?_filter` say what each operation does to
`get?`, and `mem_entries_iff` ties the entries to it.
-/

namespace HostNet

/-- A finite table: entries with different keys. -/
structure Table (κ ν : Type) where
  entries : List (κ × ν)
  nodup : (entries.map Prod.fst).Nodup

namespace Table

variable {κ ν : Type}

/-- The table without entries. -/
def empty : Table κ ν := ⟨[], List.nodup_nil⟩

/-- The number of entries. -/
def size (t : Table κ ν) : Nat := t.entries.length

theorem nodup_filter (keep : κ × ν → Bool) {entries : List (κ × ν)}
    (h : (entries.map Prod.fst).Nodup) : ((entries.filter keep).map Prod.fst).Nodup :=
  h.sublist (List.filter_sublist.map Prod.fst)

/-- The entries that `keep` holds of. -/
def filter (keep : κ → ν → Bool) (t : Table κ ν) : Table κ ν where
  entries := t.entries.filter fun e => keep e.1 e.2
  nodup := nodup_filter _ t.nodup

variable [DecidableEq κ]

/-- What `key` stands for. -/
def get? (t : Table κ ν) (key : κ) : Option ν :=
  (t.entries.find? fun e => decide (e.1 = key)).map Prod.snd

/-- The table without an entry for `key`. -/
def erase (t : Table κ ν) (key : κ) : Table κ ν := t.filter fun k _ => !decide (k = key)

/-- The table in which `key` stands for `value`. -/
def insert (t : Table κ ν) (key : κ) (value : ν) : Table κ ν where
  entries := (key, value) :: (t.erase key).entries
  nodup := by
    rw [List.map_cons, List.nodup_cons]
    refine ⟨fun h => ?_, (t.erase key).nodup⟩
    obtain ⟨e, he, hk⟩ := List.mem_map.1 h
    simp [erase, filter] at he
    exact he.2 hk

/-! ### The operations seen through `get?` -/

@[simp] theorem get?_empty (key : κ) : (empty : Table κ ν).get? key = none := rfl

/-- An entry is there exactly where its key stands for its value. -/
theorem mem_entries_iff (t : Table κ ν) (key : κ) (value : ν) :
    (key, value) ∈ t.entries ↔ t.get? key = some value := by
  obtain ⟨entries, nodup⟩ := t
  simp only [get?]
  induction entries with
  | nil => simp
  | cons e rest ih =>
      rw [List.map_cons, List.nodup_cons] at nodup
      by_cases h : e.1 = key
      · subst h
        have hnot : ∀ v, (e.1, v) ∉ rest := fun v hv => nodup.1 (List.mem_map.2 ⟨_, hv, rfl⟩)
        simp only [List.mem_cons, List.find?_cons, decide_true, Option.map_some,
          Option.some.injEq, hnot, or_false]
        exact ⟨fun heq => (congrArg Prod.snd heq).symm, fun heq => by rw [← heq]⟩
      · rw [List.find?_cons, decide_eq_false h, ← ih nodup.2, List.mem_cons]
        exact ⟨fun hm => hm.resolve_left fun heq => h (congrArg Prod.fst heq).symm, Or.inr⟩

theorem get?_filter (t : Table κ ν) (keep : κ → ν → Bool) (key : κ) :
    (t.filter keep).get? key = (t.get? key).filter (keep key) := by
  ext value
  rw [← mem_entries_iff, Option.filter_eq_some_iff, ← mem_entries_iff]
  simp [filter]

theorem get?_erase (t : Table κ ν) (key k : κ) :
    (t.erase key).get? k = if k = key then none else t.get? k := by
  rw [erase, get?_filter]
  split
  · rename_i h
    subst h
    cases t.get? k <;> simp
  · rename_i h
    cases t.get? k <;> simp [h]

theorem get?_insert (t : Table κ ν) (key : κ) (value : ν) (k : κ) :
    (t.insert key value).get? k = if k = key then some value else t.get? k := by
  by_cases h : k = key
  · subst h
    simp [insert, get?]
  · rw [if_neg h]
    have hk : ¬key = k := fun hk => h hk.symm
    have := get?_erase t key k
    rw [if_neg h] at this
    rw [← this]
    simp [insert, get?, hk]

end Table

end HostNet
