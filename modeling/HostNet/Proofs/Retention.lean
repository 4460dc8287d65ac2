import HostNet.Proofs.Expiry
import Mathlib.Data.List.Dedup
import Mathlib.Data.List.Perm.Subperm

/-!
# How long expired entries are stored

An expired entry is thrown away at some later write and nowhere else, so that a table holds more
than what counts.  How much more is told by the times of the writes alone.

* `Operation.keysSetWithin` — the keys that were set within some span before some time.
* `table_get?_set_iff_of_ne` — what a write leaves of the entries for other keys.
* `Swept` — what is so of a table after operations in order: what it stores was fresh when
  entries were last thrown away, or was set since.
* `stored_within_two_ttls` — after a write nothing is stored that is older than two times to
  live.

### Where the two times to live come from

An entry that is passed over when others are thrown away may be as old as one time to live, and
it may take another one until the next write that throws entries away.  No entry is older than
both together, because each write looks at when that was last done, and not at the entries.
-/

namespace HostNet.ExpiringTable

variable {κ ν : Type}

namespace Operation

/-- The key that an operation sets, if that is no more than `span` before `now`. -/
def keySetWithin? (span now : Nat) : Operation κ ν → Option κ
  | set key _ time => if now - time ≤ span then some key else none
  | _ => none

/-- The keys that are set no more than `span` before `now`, each of them once. -/
def keysSetWithin [DecidableEq κ] (span now : Nat) (ops : List (Operation κ ν)) : List κ :=
  (ops.filterMap (keySetWithin? span now)).dedup

/-- What stands was set by one of the operations. -/
theorem Stands.mem {ops : List (Operation κ ν)} {key : κ} {e : Stamped ν}
    (stands : Stands ops key e) : set key e.value e.stamp ∈ ops := by
  obtain ⟨before, after, rfl, -⟩ := stands
  exact List.mem_append_right _ List.mem_cons_self

end Operation

/-! ### One write -/

variable {t : ExpiringTable κ ν} {ttl : Nat}

/-- A write is the occasion to throw entries away if more than one time to live has passed since
that was last done. -/
theorem isPurgeDue_iff (httl : t.ttl = some ttl) (now : Nat) :
    t.isPurgeDue now = true ↔ ∃ last, t.lastPurge = some last ∧ last + ttl < now := by
  rw [isPurgeDue, httl]
  cases t.lastPurge with
  | none => simp
  | some last =>
      simp only [Option.some.injEq, exists_eq_left', decide_eq_true_iff]
      rw [age]
      omega

theorem isFresh_iff_le (httl : t.ttl = some ttl) (stamp now : Nat) :
    t.isFresh stamp now = true ↔ now ≤ stamp + ttl := by
  rw [isFresh, httl]
  show decide (now - stamp ≤ ttl) = true ↔ now ≤ stamp + ttl
  rw [decide_eq_true_iff]
  omega

variable [DecidableEq κ]

/-- **What a write leaves of the entries for other keys**: all of them, but for those that have
expired if it is the occasion to throw these away. -/
theorem table_get?_set_iff_of_ne (t : ExpiringTable κ ν) {key k : κ} (hk : k ≠ key) (value : ν)
    (now : Nat) (e : Stamped ν) :
    (t.set key value now).table.get? k = some e ↔
      t.table.get? k = some e ∧ (t.isPurgeDue now = true → t.isFresh e.stamp now = true) := by
  unfold set
  rw [Table.get?_insert, if_neg hk]
  by_cases hdue : t.isPurgeDue now = true
  · rw [if_pos hdue, purge, Table.get?_filter, Option.filter_eq_some_iff]
    simp only [hdue, true_implies]
  · rw [if_neg hdue]
    exact (and_iff_left fun h => absurd h hdue).symm

/-- The first write starts the count, and from then on it starts again whenever entries are
thrown away. -/
theorem lastPurge_set (httl : t.ttl = some ttl) (key : κ) (value : ν) (now : Nat) :
    (t.set key value now).lastPurge =
      some (if t.isPurgeDue now then now else t.lastPurge.getD now) := by
  unfold set
  split
  · rfl
  · rw [httl]
    rfl

theorem lastPurge_set_cases (httl : t.ttl = some ttl) {key : κ} {value : ν} {now last : Nat}
    (hlast : (t.set key value now).lastPurge = some last) :
    (last = now ∧ (t.lastPurge = none ∨ t.isPurgeDue now = true)) ∨ t.lastPurge = some last := by
  rw [lastPurge_set httl, Option.some.injEq] at hlast
  split at hlast
  · rename_i hdue
    exact .inl ⟨hlast.symm, .inr hdue⟩
  · cases hbefore : t.lastPurge with
    | none =>
        rw [hbefore] at hlast
        exact .inl ⟨hlast.symm, .inl rfl⟩
    | some before =>
        rw [hbefore] at hlast
        exact .inr (congrArg some hlast)

/-! ### Operations in order -/

/-- **A table after operations in order.**  Entries were last thrown away at the time of one of
the operations, and what is stored was no older then than one time to live. -/
structure Swept (ttl : Nat) (ops : List (Operation κ ν)) (t : ExpiringTable κ ν) : Prop where
  ttl_eq : t.ttl = some ttl
  of_none : t.lastPurge = none → ∀ key, t.table.get? key = none
  mem_times : ∀ last, t.lastPurge = some last → last ∈ ops.filterMap Operation.time?
  le_of_stored : ∀ last key e, t.lastPurge = some last → t.table.get? key = some e →
    last ≤ e.stamp + ttl

namespace Swept

variable {ops : List (Operation κ ν)} (swept : Swept ttl ops t)
include swept

/-- **A write at the latest time** leaves a table that is swept.  What it stores is either new, or
was stored before, where the cases are when entries were last thrown away. -/
theorem set (key : κ) (value : ν) {now : Nat}
    (hlater : ∀ earlier ∈ ops.filterMap Operation.time?, earlier ≤ now) :
    Swept ttl (ops ++ [.set key value now]) (t.set key value now) where
  ttl_eq := (ttl_set t key value now).trans swept.ttl_eq
  of_none hnone := by
    rw [lastPurge_set swept.ttl_eq] at hnone
    cases hnone
  mem_times last hlast := by
    rw [List.filterMap_append]
    rcases lastPurge_set_cases swept.ttl_eq hlast with ⟨rfl, -⟩ | hbefore
    · exact List.mem_append_right _ (List.mem_filterMap.2 ⟨_, List.mem_cons_self, rfl⟩)
    · exact List.mem_append_left _ (swept.mem_times last hbefore)
  le_of_stored last k e hlast hget := by
    by_cases hk : k = key
    · subst hk
      rw [table_get?_set_self, Option.some.injEq] at hget
      subst hget
      rcases lastPurge_set_cases swept.ttl_eq hlast with ⟨rfl, -⟩ | hbefore
      · exact Nat.le_add_right _ _
      · exact Nat.le_add_right_of_le (hlater last (swept.mem_times last hbefore))
    · obtain ⟨hold, hfresh⟩ := (table_get?_set_iff_of_ne t hk value now e).1 hget
      rcases lastPurge_set_cases swept.ttl_eq hlast with ⟨rfl, hnone | hdue⟩ | hbefore
      · rw [swept.of_none hnone] at hold
        cases hold
      · exact (isFresh_iff_le swept.ttl_eq _ _).1 (hfresh hdue)
      · exact swept.le_of_stored last k e hbefore hold

/-- Entries may be removed, and more operations done that write nothing. -/
theorem remove {u : ExpiringTable κ ν} (op : Operation κ ν) (httl : u.ttl = t.ttl)
    (hlast : u.lastPurge = t.lastPurge)
    (hget : ∀ key e, u.table.get? key = some e → t.table.get? key = some e) :
    Swept ttl (ops ++ [op]) u where
  ttl_eq := httl.trans swept.ttl_eq
  of_none hnone key := by
    rw [hlast] at hnone
    cases hu : u.table.get? key with
    | none => rfl
    | some e =>
        have hold := hget key e hu
        rw [swept.of_none hnone] at hold
        cases hold
  mem_times last hsome := by
    rw [List.filterMap_append]
    exact List.mem_append_left _ (swept.mem_times last (hlast ▸ hsome))
  le_of_stored last key e hsome hu :=
    swept.le_of_stored last key e (hlast ▸ hsome) (hget key e hu)

/-- **After a write nothing is older than two times to live.** -/
theorem le_of_stored_set {key k : κ} {value : ν} {now : Nat} {e : Stamped ν}
    (hget : (t.set key value now).table.get? k = some e) : now ≤ e.stamp + 2 * ttl := by
  by_cases hk : k = key
  · subst hk
    rw [table_get?_set_self, Option.some.injEq] at hget
    rw [← hget]
    exact Nat.le_add_right _ _
  · obtain ⟨hold, hfresh⟩ := (table_get?_set_iff_of_ne t hk value now e).1 hget
    rw [isPurgeDue_iff swept.ttl_eq, isFresh_iff_le swept.ttl_eq] at hfresh
    cases hlast : t.lastPurge with
    | none =>
        rw [swept.of_none hlast] at hold
        cases hold
    | some last =>
        have hbound := swept.le_of_stored last k e hlast hold
        by_cases hdue : last + ttl < now
        · have := hfresh ⟨last, hlast, hdue⟩
          omega
        · omega

end Swept

/-- **Every sequence of operations in order** leaves a table that is swept, by induction on it. -/
theorem swept_run (ttl : Nat) {ops : List (Operation κ ν)} (hordered : Operation.InOrder ops) :
    Swept ttl ops ((empty (some ttl)).run set ops) := by
  induction ops using List.reverseRecOn with
  | nil =>
      refine ⟨rfl, fun _ _ => rfl, ?_, ?_⟩
      · intro last hsome
        cases hsome
      · intro last key e hsome
        cases hsome
  | append_singleton ops op ih =>
      have swept := ih hordered.of_append
      rw [run_concat]
      cases op with
      | set key value now => exact swept.set key value (hordered.le_of_concat rfl)
      | get key now => exact swept.remove _ rfl rfl fun _ _ hget => hget
      | take key now => exact swept.remove _ rfl rfl fun _ _ hget => table_get?_of_delete hget
      | delete key => exact swept.remove _ rfl rfl fun _ _ hget => table_get?_of_delete hget
      | visit now => exact swept.remove _ rfl rfl fun _ _ hget => hget

/-- When entries were last thrown away does not move back, by induction on the operations. -/
theorem le_lastPurge_run {since last : Nat} (httl : t.ttl = some ttl)
    (hlast : t.lastPurge = some last) (hle : since ≤ last) {ops : List (Operation κ ν)}
    (htimes : ∀ time ∈ ops.filterMap Operation.time?, since ≤ time) :
    ∃ later, (t.run set ops).lastPurge = some later ∧ since ≤ later := by
  induction ops using List.reverseRecOn with
  | nil => exact ⟨last, hlast, hle⟩
  | append_singleton ops op ih =>
      rw [List.filterMap_append] at htimes
      obtain ⟨later, hlater, hsince⟩ := ih fun time h => htimes time (List.mem_append_left _ h)
      have httl' : (t.run set ops).ttl = some ttl := (ttl_run ttl_set t ops).trans httl
      rw [run_concat]
      cases op with
      | set key value now =>
          refine ⟨_, lastPurge_set httl' key value now, ?_⟩
          have hnow : since ≤ now :=
            htimes now (List.mem_append_right _ (List.mem_filterMap.2 ⟨_, List.mem_cons_self, rfl⟩))
          split
          · exact hnow
          · rw [hlater]
            exact hsince
      | _ => exact ⟨later, hlater, hsince⟩

/-- **Two writes that throw entries away** are more than one time to live apart. -/
theorem lt_of_isPurgeDue_twice (httl : t.ttl = some ttl) {key : κ} {value : ν} {first now : Nat}
    (hfirst : t.isPurgeDue first = true) {between : List (Operation κ ν)}
    (htimes : ∀ time ∈ between.filterMap Operation.time?, first ≤ time)
    (hsecond : ((t.set key value first).run set between).isPurgeDue now = true) :
    first + ttl < now := by
  have httl' : (t.set key value first).ttl = some ttl := (ttl_set ..).trans httl
  have hlast : (t.set key value first).lastPurge = some first := by
    rw [lastPurge_set httl, if_pos hfirst]
  obtain ⟨later, hlater, hle⟩ := le_lastPurge_run httl' hlast (Nat.le_refl first) htimes
  rw [isPurgeDue_iff ((ttl_run ttl_set _ _).trans httl')] at hsecond
  obtain ⟨last, hsome, hlt⟩ := hsecond
  rw [hlater, Option.some.injEq] at hsome
  omega

/-- What is stored has keys that are all different, so that it is no more than the keys that it
may have. -/
theorem size_le_of_subset (t : ExpiringTable κ ν) (keys : List κ)
    (hkeys : ∀ key e, t.table.get? key = some e → key ∈ keys) : t.size ≤ keys.length := by
  have hsubset : t.table.entries.map Prod.fst ⊆ keys := by
    intro key hkey
    obtain ⟨⟨k, e⟩, hmem, rfl⟩ := List.mem_map.1 hkey
    exact hkeys k e ((Table.mem_entries_iff _ _ _).1 hmem)
  have hle := (t.table.nodup.subperm hsubset).length_le
  rwa [List.length_map] at hle

/-- **Tables that are written to stay small.**  Take any operations in order on a table with a
time to live.  Right after each write, nothing is stored that is older than two times to live,
expired or not, so that no more is stored than the keys that were set in that time.  A write
leaves every entry for another key, but if it is the occasion to throw entries away it leaves
only those that are fresh at its time.  Between two such occasions more than one time to live
passes. -/
theorem stored_within_two_ttls (ttl : Nat) (ops : List (Operation κ ν))
    (hordered : Operation.InOrder ops) (before : List (Operation κ ν)) (key : κ) (value : ν)
    (now : Nat) (after : List (Operation κ ν))
    (hsplit : ops = before ++ .set key value now :: after) :
    let t : ExpiringTable κ ν := (empty (some ttl)).run set before
    let t' := (t.apply set (.set key value now)).1
    (∀ k e, t'.table.get? k = some e → e.stamp ≤ now ∧ now - e.stamp ≤ 2 * ttl) ∧
      t'.size ≤
        (Operation.keysSetWithin (2 * ttl) now (before ++ [.set key value now])).length ∧
      (∀ k e, k ≠ key → (t'.table.get? k = some e ↔
        t.table.get? k = some e ∧ (t.isPurgeDue now = true → t.isFresh e.stamp now = true))) ∧
      ∀ earlier k v first between, before = earlier ++ .set k v first :: between →
        ((empty (some ttl)).run set earlier).isPurgeDue first = true → t.isPurgeDue now = true →
          first + ttl < now := by
  intro t t'
  rw [hsplit, List.append_cons] at hordered
  have hwritten : Operation.InOrder (before ++ [.set key value now]) := hordered.of_append
  have swept : Swept ttl before t := swept_run ttl hwritten.of_append
  have hrun : (empty (some ttl)).run set (before ++ [.set key value now]) = t' := run_concat ..
  have hset {k : κ} {e : Stamped ν} (hget : t'.table.get? k = some e) :
      .set k e.value e.stamp ∈ before ++ [.set key value now] := by
    rw [← hrun] at hget
    exact (stands_of_table_get?_run_set hget).mem
  have hage {k : κ} {e : Stamped ν} (hget : t'.table.get? k = some e) :
      now ≤ e.stamp + 2 * ttl := swept.le_of_stored_set hget
  refine ⟨fun k e hget => ⟨?_, ?_⟩, ?_, fun k e hk => table_get?_set_iff_of_ne t hk value now e, ?_⟩
  · rcases List.mem_append.1 (hset hget) with hmem | hmem
    · exact hwritten.le_of_concat rfl _ (List.mem_filterMap.2 ⟨_, hmem, rfl⟩)
    · cases List.mem_singleton.1 hmem
      exact Nat.le_refl _
  · have := hage hget
    omega
  · refine size_le_of_subset t' _ fun k e hget => ?_
    have hspan : now - e.stamp ≤ 2 * ttl := by
      have := hage hget
      omega
    exact List.mem_dedup.2 (List.mem_filterMap.2 ⟨_, hset hget, if_pos hspan⟩)
  · rintro earlier k v first between rfl hfirst hsecond
    have hrest := hwritten.of_append
    rw [Operation.InOrder, List.filterMap_append] at hrest
    have htimes : ∀ time ∈ between.filterMap Operation.time?, first ≤ time :=
      (List.pairwise_cons.1 (List.pairwise_append.1 hrest).2.1).1
    have hrun : t = (((empty (some ttl)).run set earlier).set k v first).run set between :=
      List.foldl_append ..
    exact lt_of_isPurgeDue_twice (ttl_run ttl_set _ _) hfirst htimes (hrun ▸ hsecond)

/-- The entry of the second key has expired when the last one is set, and is stored all the same
since entries were thrown away one time to live before that; the bound is reached. -/
theorem stored_within_two_ttls_of_expired :
    let before : List (Operation Nat Nat) :=
      [.set 1 10 0, .set 2 20 9, .set 3 30 10, .set 4 40 11]
    let t : ExpiringTable Nat Nat := (empty (some 10)).run set before
    let t' := (t.apply set (.set 5 50 21)).1
    let recent := Operation.keysSetWithin 20 21 (before ++ [.set 5 50 21])
    (t'.size = 4 ∧ recent.length = 4 ∧ t'.table.get? 2 = some ⟨20, 9⟩) ∧ t'.size ≤ recent.length ∧
      ∀ k e, t'.table.get? k = some e → e.stamp ≤ 21 ∧ 21 - e.stamp ≤ 20 := by
  intro before t t' recent
  have h := stored_within_two_ttls 10 (before ++ [.set 5 50 21]) (by decide) before 5 50 21 [] rfl
  exact ⟨⟨by decide, by decide, rfl⟩, h.2.1, h.1⟩

end HostNet.ExpiringTable
