import HostNet.ExpiringTable
import Mathlib.Data.List.Basic
import Mathlib.Data.List.Induction

/-!
# Tables whose entries expire, by their histories

An expired entry may be stored for a while, and is thrown away at a write for some other key.
Neither is seen from outside: what a table answers is told by the operations before.

* `ExpiringTable.Operation` — one operation; `apply`, `run` and `answers` do one, do a
  sequence and collect what that answers.
* `ExpiringTable.keep` — a write that throws nothing away.
* `Operation.Stands` — what a key was last set to, if it was not removed since.
* `ExpiringTable.Sound`, `ExpiringTable.Exact` — an answer that is true, and one that is
  complete as well.
* `ExpiringTable.AgreeFrom` — two tables in which the same counts from some time on.

**Purging is not observed** (`answers_of_history`): whatever the times, no answer is wrong, and
as long as times do not go back, every answer is that of a table that never throws anything
away.

### Why what counts later is compared, and not what is stored

A table that was purged stores less than one that was not, so that no two of their fields
agree.  But an entry that has expired stays so: what is missing does not count now, nor at any
later time, and the entries that count come in the same order in both.

### Why times that go back need a weaker statement

A write with a late time throws away entries that would count again at an earlier one.  A
lookup there finds nothing where there was something, and still nothing that is wrong.
-/

namespace HostNet.ExpiringTable

/-- An operation on a table whose entries expire. -/
inductive Operation (κ ν : Type) where
  | set (key : κ) (value : ν) (now : Nat)
  | get (key : κ) (now : Nat)
  | take (key : κ) (now : Nat)
  | delete (key : κ)
  | visit (now : Nat)
  deriving Repr, DecidableEq

/-- What an operation answers beside the table. -/
inductive Answer (κ ν : Type) where
  | nothing
  | found (value : Option ν)
  | visited (entries : List (κ × Stamped ν))

variable {κ ν : Type}

/-! ### What the operations before tell -/

namespace Operation

/-- The time of an operation that has one. -/
def time? : Operation κ ν → Option Nat
  | set _ _ now => some now
  | get _ now => some now
  | take _ now => some now
  | delete _ => none
  | visit now => some now

/-- Whether an operation neither sets `key` nor removes it. -/
def Leaves (key : κ) : Operation κ ν → Prop
  | set k _ _ => k ≠ key
  | get _ _ => True
  | take k _ => k ≠ key
  | delete k => k ≠ key
  | visit _ => True

/-- Whether the times of the operations never decrease. -/
def InOrder (ops : List (Operation κ ν)) : Prop := (ops.filterMap time?).Pairwise (· ≤ ·)

instance (ops : List (Operation κ ν)) : Decidable (InOrder ops) :=
  inferInstanceAs (Decidable ((ops.filterMap time?).Pairwise (· ≤ ·)))

theorem InOrder.of_append {first second : List (Operation κ ν)}
    (h : InOrder (first ++ second)) : InOrder first := by
  rw [InOrder, List.filterMap_append] at h
  exact (List.pairwise_append.1 h).1

/-- The last operation is not earlier than those before. -/
theorem InOrder.le_of_concat {ops : List (Operation κ ν)} {op : Operation κ ν}
    (h : InOrder (ops ++ [op])) {now : Nat} (hnow : op.time? = some now) :
    ∀ earlier ∈ ops.filterMap time?, earlier ≤ now := by
  rw [InOrder, List.filterMap_append] at h
  intro earlier hearlier
  exact (List.pairwise_append.1 h).2.2 earlier hearlier now
    (List.mem_filterMap.2 ⟨op, List.mem_cons_self, hnow⟩)

/-- Whether `key` was last set to `e`, which was not removed since. -/
def Stands (ops : List (Operation κ ν)) (key : κ) (e : Stamped ν) : Prop :=
  ∃ before after, ops = before ++ set key e.value e.stamp :: after ∧ ∀ op ∈ after, op.Leaves key

theorem not_stands_nil (key : κ) (e : Stamped ν) : ¬Stands [] key e := by
  rintro ⟨before, after, hsplit, -⟩
  exact List.append_ne_nil_of_right_ne_nil before (List.cons_ne_nil _ after) hsplit.symm

/-- What stands after one more operation was set by that, or stood before and was left. -/
theorem stands_concat_iff (ops : List (Operation κ ν)) (op : Operation κ ν) (key : κ)
    (e : Stamped ν) :
    Stands (ops ++ [op]) key e ↔
      op = set key e.value e.stamp ∨ op.Leaves key ∧ Stands ops key e := by
  constructor
  · rintro ⟨before, after, hsplit, hleaves⟩
    rcases List.eq_nil_or_concat' after with rfl | ⟨after, last, rfl⟩
    · exact .inl (List.singleton_inj.1 (List.append_inj' hsplit rfl).2)
    · rw [← List.cons_append, ← List.append_assoc] at hsplit
      obtain ⟨hops, hlast⟩ := List.append_inj' hsplit rfl
      rw [List.singleton_inj.1 hlast]
      exact .inr ⟨hleaves last (List.mem_concat_self ..),
        before, after, hops, fun op hop => hleaves op (List.mem_append_left _ hop)⟩
  · rintro (rfl | ⟨hop, before, after, rfl, hleaves⟩)
    · exact ⟨ops, [], rfl, fun op hop => absurd hop List.not_mem_nil⟩
    · refine ⟨before, after ++ [op], by rw [List.append_assoc, List.cons_append], ?_⟩
      intro last hlast
      rcases List.mem_append.1 hlast with hmem | hmem
      · exact hleaves last hmem
      · rw [List.mem_singleton.1 hmem]
        exact hop

end Operation

/-- Whether an entry set at `stamp` is no older at `now` than the time to live, if there is
one. -/
def Counts (ttl : Option Nat) (stamp now : Nat) : Prop :=
  ∀ limit, ttl = some limit → age stamp now ≤ limit

/-- Whether what is said by the answer to an operation is in the relation `rel` to what is so by
the operations before. -/
def Compares (rel : Prop → Prop → Prop) (ttl : Option Nat) (before : List (Operation κ ν)) :
    Operation κ ν → Answer κ ν → Prop
  | .get key now, .found found =>
      ∀ value, rel (found = some value)
        (∃ stamp, Operation.Stands before key ⟨value, stamp⟩ ∧ Counts ttl stamp now)
  | .take key now, .found found =>
      ∀ value, rel (found = some value)
        (∃ stamp, Operation.Stands before key ⟨value, stamp⟩ ∧ Counts ttl stamp now)
  | .visit now, .visited entries =>
      (entries.map Prod.fst).Nodup ∧ ∀ key e, rel ((key, e) ∈ entries)
        (Operation.Stands before key e ∧ Counts ttl e.stamp now)
  | .set _ _ _, .nothing => True
  | .delete _, .nothing => True
  | _, _ => False

/-- Whether an answer says nothing that is not so. -/
abbrev Sound : Option Nat → List (Operation κ ν) → Operation κ ν → Answer κ ν → Prop :=
  Compares fun said so => said → so

/-- Whether an answer says just what is so. -/
abbrev Exact : Option Nat → List (Operation κ ν) → Operation κ ν → Answer κ ν → Prop :=
  Compares Iff

theorem isFresh_iff_counts (t : ExpiringTable κ ν) (stamp now : Nat) :
    t.isFresh stamp now = true ↔ Counts t.ttl stamp now := by
  rw [isFresh, Counts]
  cases t.ttl with
  | none => simp
  | some limit => simp

theorem nodup_live (t : ExpiringTable κ ν) (now : Nat) : ((t.live now).map Prod.fst).Nodup :=
  t.table.nodup.sublist (List.filter_sublist.map Prod.fst)

/-- **Throwing expired entries away** changes nothing that counts at that time or later. -/
theorem live_purge_of_le (t : ExpiringTable κ ν) {now later : Nat} (hle : now ≤ later) :
    (t.purge now).live later = t.live later := by
  rw [live, live, purge, Table.filter, List.filter_filter]
  refine List.filter_congr fun e _ => ?_
  show (t.isFresh e.2.stamp later && t.isFresh e.2.stamp now) = t.isFresh e.2.stamp later
  cases hfresh : t.isFresh e.2.stamp later with
  | false => rfl
  | true => rw [t.isFresh_of_le hle hfresh, Bool.and_true]

variable [DecidableEq κ]

/-! ### Operations on a table -/

/-- The table in which `key` stands for `value` from `now` on, with all other entries as they
were. -/
def keep (t : ExpiringTable κ ν) (key : κ) (value : ν) (now : Nat) : ExpiringTable κ ν :=
  { t with table := t.table.insert key ⟨value, now⟩ }

theorem ttl_keep (t : ExpiringTable κ ν) (key : κ) (value : ν) (now : Nat) :
    (t.keep key value now).ttl = t.ttl := rfl

section

variable (write : ExpiringTable κ ν → κ → ν → Nat → ExpiringTable κ ν)

/-- The table after an operation, and what that answers. -/
def apply (t : ExpiringTable κ ν) : Operation κ ν → ExpiringTable κ ν × Answer κ ν
  | .set key value now => (write t key value now, .nothing)
  | .get key now => (t, .found (t.get? key now))
  | .take key now => ((t.take key now).2, .found (t.take key now).1)
  | .delete key => (t.delete key, .nothing)
  | .visit now => (t, .visited (t.live now))

/-- The table after a sequence of operations. -/
def run (t : ExpiringTable κ ν) (ops : List (Operation κ ν)) : ExpiringTable κ ν :=
  ops.foldl (fun t op => (t.apply write op).1) t

/-- What a sequence of operations answers. -/
def answers (t : ExpiringTable κ ν) : List (Operation κ ν) → List (Answer κ ν)
  | [] => []
  | op :: ops => (t.apply write op).2 :: (t.apply write op).1.answers ops

theorem run_concat (t : ExpiringTable κ ν) (ops : List (Operation κ ν)) (op : Operation κ ν) :
    t.run write (ops ++ [op]) = ((t.run write ops).apply write op).1 := by
  rw [run, List.foldl_append]
  rfl

theorem ttl_run {write : ExpiringTable κ ν → κ → ν → Nat → ExpiringTable κ ν}
    (hwrite : ∀ t key value now, (write t key value now).ttl = t.ttl) (t : ExpiringTable κ ν)
    (ops : List (Operation κ ν)) : (t.run write ops).ttl = t.ttl := by
  induction ops using List.reverseRecOn with
  | nil => rfl
  | append_singleton ops op ih =>
      rw [run_concat, ← ih]
      cases op with
      | set key value now => exact hwrite _ key value now
      | _ => rfl

end

/-! ### What is stored, by the operations before -/

/-- After an operation of a table that keeps everything, what the operation set is stored, and
what was stored and is left. -/
theorem table_get?_apply_keep (t : ExpiringTable κ ν) (op : Operation κ ν) (key : κ)
    (e : Stamped ν) :
    (t.apply keep op).1.table.get? key = some e ↔
      op = .set key e.value e.stamp ∨ op.Leaves key ∧ t.table.get? key = some e := by
  cases op with
  | set k value now =>
      simp only [apply, keep, Table.get?_insert, Operation.Leaves, Operation.set.injEq]
      by_cases hk : key = k
      · obtain ⟨v, stamp⟩ := e
        simp [hk]
      · have hk' : ¬k = key := fun h => hk h.symm
        simp [hk, hk']
  | get k now => simp [apply, Operation.Leaves]
  | take k now => simp [apply, take, delete, Table.get?_erase, Operation.Leaves, eq_comm]
  | delete k => simp [apply, delete, Table.get?_erase, Operation.Leaves, eq_comm]
  | visit now => simp [apply, Operation.Leaves]

/-- **Tables that keep everything** store what stands, and nothing else. -/
theorem table_get?_run_keep_iff (ttl : Option Nat) (ops : List (Operation κ ν)) (key : κ)
    (e : Stamped ν) :
    ((empty ttl).run keep ops).table.get? key = some e ↔ Operation.Stands ops key e := by
  induction ops using List.reverseRecOn with
  | nil => exact ⟨(fun h => nomatch h), fun h => absurd h (Operation.not_stands_nil key e)⟩
  | append_singleton ops op ih =>
      rw [run_concat, table_get?_apply_keep, Operation.stands_concat_iff, ih]

/-- What is stored after an operation of a table that is purged would be stored as well if it
were not. -/
theorem table_get?_apply_keep_of_set {t : ExpiringTable κ ν} {op : Operation κ ν} {key : κ}
    {e : Stamped ν} (h : (t.apply set op).1.table.get? key = some e) :
    (t.apply keep op).1.table.get? key = some e := by
  cases op with
  | set k value now =>
      show (t.keep k value now).table.get? key = some e
      rw [keep, Table.get?_insert]
      rcases table_get?_of_set h with ⟨rfl, rfl⟩ | hbefore
      · exact if_pos rfl
      · by_cases hk : key = k
        · subst hk
          rw [if_pos rfl]
          exact (table_get?_set_self t key value now).symm.trans h
        · rwa [if_neg hk]
  | _ => exact h

/-- **Tables that are purged** store nothing but what stands, whatever the times. -/
theorem stands_of_table_get?_run_set {ttl : Option Nat} {ops : List (Operation κ ν)} {key : κ}
    {e : Stamped ν} (h : ((empty ttl).run set ops).table.get? key = some e) :
    Operation.Stands ops key e := by
  induction ops using List.reverseRecOn with
  | nil => cases h
  | append_singleton ops op ih =>
      rw [run_concat] at h
      rw [Operation.stands_concat_iff]
      exact ((table_get?_apply_keep _ op key e).1 (table_get?_apply_keep_of_set h)).imp_right
        fun hleft => ⟨hleft.1, ih hleft.2⟩

/-! ### What counts, with and without throwing away -/

/-- A lookup finds what counts. -/
theorem get?_eq_some_iff_live (t : ExpiringTable κ ν) (key : κ) (now : Nat) (value : ν) :
    t.get? key now = some value ↔ ∃ stamp, (key, ⟨value, stamp⟩) ∈ t.live now := by
  simp only [get?_eq_some_iff, mem_live_iff]

theorem get?_eq_of_live_eq {t u : ExpiringTable κ ν} {now : Nat} (h : t.live now = u.live now)
    (key : κ) : t.get? key now = u.get? key now := by
  ext value
  rw [get?_eq_some_iff_live, get?_eq_some_iff_live, h]

theorem live_delete (t : ExpiringTable κ ν) (key : κ) (now : Nat) :
    (t.delete key).live now = (t.live now).filter fun e => !decide (e.1 = key) := by
  rw [live, live, delete, Table.erase, Table.filter, List.filter_filter, List.filter_filter]
  exact List.filter_congr fun e _ => Bool.and_comm ..

/-- A write puts an entry before those for other keys. -/
theorem live_keep (t : ExpiringTable κ ν) (key : κ) (value : ν) (now later : Nat) :
    (t.keep key value now).live later =
      (if t.isFresh now later then [(key, ⟨value, now⟩)] else []) ++
        (t.live later).filter fun e => !decide (e.1 = key) := by
  rw [← live_delete, live, keep, Table.insert]
  show List.filter (fun e => t.isFresh e.2.stamp later)
    ((key, ⟨value, now⟩) :: (t.delete key).table.entries) = _
  rw [List.filter_cons]
  split
  · rfl
  · rfl

/-- The occasion of a write to throw expired entries away is not seen from then on. -/
theorem live_set_of_le (t : ExpiringTable κ ν) (key : κ) (value : ν) {now later : Nat}
    (hle : now ≤ later) : (t.set key value now).live later = (t.keep key value now).live later := by
  unfold set
  split
  · show ((t.purge now).keep key value now).live later = _
    rw [live_keep, live_keep, live_purge_of_le t hle]
    rfl
  · rfl

/-- An operation is answered alike where the same counts at its time. -/
theorem answer_eq {t u : ExpiringTable κ ν} {op : Operation κ ν}
    (hlive : ∀ now, op.time? = some now → t.live now = u.live now) :
    (t.apply set op).2 = (u.apply keep op).2 := by
  cases op with
  | set key value now => rfl
  | get key now => exact congrArg Answer.found (get?_eq_of_live_eq (hlive now rfl) key)
  | take key now => exact congrArg Answer.found (get?_eq_of_live_eq (hlive now rfl) key)
  | delete key => rfl
  | visit now => exact congrArg Answer.visited (hlive now rfl)

/-- Two tables in which the same counts at all times from `since` on. -/
structure AgreeFrom (since : Nat) (t u : ExpiringTable κ ν) : Prop where
  ttl : t.ttl = u.ttl
  live : ∀ now, since ≤ now → t.live now = u.live now

/-- They still agree after an operation that is not later than that. -/
theorem AgreeFrom.apply {since : Nat} {t u : ExpiringTable κ ν} (agree : AgreeFrom since t u)
    {op : Operation κ ν} (htime : ∀ now, op.time? = some now → now ≤ since) :
    AgreeFrom since (t.apply set op).1 (u.apply keep op).1 := by
  have hdelete (key : κ) : AgreeFrom since (t.delete key) (u.delete key) :=
    ⟨agree.ttl, fun now hnow => by rw [live_delete, live_delete, agree.live now hnow]⟩
  cases op with
  | set key value now =>
      refine ⟨(ttl_set t key value now).trans agree.ttl, fun later hlater => ?_⟩
      have hfresh : t.isFresh now later = u.isFresh now later := by
        rw [isFresh, isFresh, agree.ttl]
      show (t.set key value now).live later = (u.keep key value now).live later
      rw [live_set_of_le t key value (Nat.le_trans (htime now rfl) hlater), live_keep, live_keep,
        hfresh, agree.live later hlater]
  | get key now => exact agree
  | take key now => exact hdelete key
  | delete key => exact hdelete key
  | visit now => exact agree

/-- **What counts after a sequence of operations**, from the last of their times on, counts as
well if nothing is ever thrown away. -/
theorem agreeFrom_run (ttl : Option Nat) (ops : List (Operation κ ν)) {since : Nat}
    (htimes : ∀ now ∈ ops.filterMap Operation.time?, now ≤ since) :
    AgreeFrom since ((empty ttl).run set ops) ((empty ttl).run keep ops) := by
  induction ops using List.reverseRecOn with
  | nil => exact ⟨rfl, fun _ _ => rfl⟩
  | append_singleton ops op ih =>
      rw [List.filterMap_append] at htimes
      rw [run_concat, run_concat]
      refine (ih fun now hnow => htimes now (List.mem_append_left _ hnow)).apply fun now hnow => ?_
      exact htimes now
        (List.mem_append_right _ (List.mem_filterMap.2 ⟨op, List.mem_cons_self, hnow⟩))

/-- As long as times do not go back, an operation is answered as if nothing was ever thrown
away. -/
theorem answer_run_eq (ttl : Option Nat) {before : List (Operation κ ν)} {op : Operation κ ν}
    (hordered : Operation.InOrder (before ++ [op])) :
    (((empty ttl).run set before).apply set op).2 =
      (((empty ttl).run keep before).apply keep op).2 := by
  refine answer_eq fun now hnow => ?_
  exact (agreeFrom_run ttl before (hordered.le_of_concat hnow)).live now (Nat.le_refl now)

/-- The answers to a sequence end with that to the last operation. -/
theorem answers_concat (write : ExpiringTable κ ν → κ → ν → Nat → ExpiringTable κ ν)
    (t : ExpiringTable κ ν) (ops : List (Operation κ ν)) (op : Operation κ ν) :
    t.answers write (ops ++ [op]) =
      t.answers write ops ++ [((t.run write ops).apply write op).2] := by
  induction ops generalizing t with
  | nil => rfl
  | cons first ops ih => exact congrArg (_ :: ·) (ih (t.apply write first).1)

/-- **All answers** are as if nothing was ever thrown away, by induction on the sequence. -/
theorem answers_set_eq_keep (ttl : Option Nat) {ops : List (Operation κ ν)}
    (hordered : Operation.InOrder ops) :
    (empty ttl : ExpiringTable κ ν).answers set ops = (empty ttl).answers keep ops := by
  induction ops using List.reverseRecOn with
  | nil => rfl
  | append_singleton ops op ih =>
      rw [answers_concat, answers_concat, answer_run_eq ttl hordered, ih hordered.of_append]

/-! ### What is answered, by the operations before -/

/-- A relation that holds between what is stored and what stands holds between what is answered
and what is so. -/
theorem compares_apply (rel : Prop → Prop → Prop)
    (hand : ∀ {p q r : Prop}, rel p q → rel (p ∧ r) (q ∧ r))
    (hexists : ∀ {p q : Nat → Prop}, (∀ stamp, rel (p stamp) (q stamp)) →
      rel (∃ stamp, p stamp) (∃ stamp, q stamp))
    (write : ExpiringTable κ ν → κ → ν → Nat → ExpiringTable κ ν) {t : ExpiringTable κ ν}
    {before : List (Operation κ ν)}
    (hstored : ∀ key e, rel (t.table.get? key = some e) (Operation.Stands before key e))
    (op : Operation κ ν) : Compares rel t.ttl before op (t.apply write op).2 := by
  have hfound (key : κ) (now : Nat) (value : ν) : rel (t.get? key now = some value)
      (∃ stamp, Operation.Stands before key ⟨value, stamp⟩ ∧ Counts t.ttl stamp now) := by
    simp only [get?_eq_some_iff, isFresh_iff_counts]
    exact hexists fun stamp => hand (hstored key ⟨value, stamp⟩)
  cases op with
  | set key value now => trivial
  | get key now => exact hfound key now
  | take key now => exact hfound key now
  | delete key => trivial
  | visit now =>
      refine ⟨nodup_live t now, fun key e => ?_⟩
      rw [mem_live_iff, isFresh_iff_counts]
      exact hand (hstored key e)

/-- **Purging is not observed.**  Whatever the times, what is found and visited is what was last
set and not removed since, and is no older than the time to live.  As long as the times do
not go back, all of that is found and visited, and every answer is that of a table which never
throws anything away. -/
theorem answers_of_history (ttl : Option Nat) (ops : List (Operation κ ν)) :
    (∀ before op after, ops = before ++ op :: after →
      Sound ttl before op (((empty ttl).run set before).apply set op).2) ∧
      (Operation.InOrder ops →
        (∀ before op after, ops = before ++ op :: after →
          Exact ttl before op (((empty ttl).run set before).apply set op).2) ∧
        (empty ttl : ExpiringTable κ ν).answers set ops = (empty ttl).answers keep ops) := by
  refine ⟨fun before op after _ => ?_, fun hordered => ⟨fun before op after hsplit => ?_,
    answers_set_eq_keep ttl hordered⟩⟩
  · have hstored (key : κ) (e : Stamped ν)
        (h : ((empty ttl).run set before).table.get? key = some e) :
        Operation.Stands before key e := stands_of_table_get?_run_set h
    have hsound := compares_apply (fun said so => said → so) And.imp_left Exists.imp set hstored op
    rwa [ttl_run ttl_set] at hsound
  · have hexact := compares_apply Iff and_congr_left' exists_congr keep
      (table_get?_run_keep_iff ttl before) op
    rw [ttl_run ttl_keep] at hexact
    rw [hsplit, List.append_cons] at hordered
    rw [answer_run_eq ttl hordered.of_append]
    exact hexact

/-- The second write throws the first entry away, which had expired; the third entry had not. -/
theorem answers_of_history_purged :
    let ops : List (Operation Nat Nat) := [.set 1 10 0, .set 3 30 9, .set 2 20 11, .visit 11]
    ((empty (some 10)).run set ops).size = 2 ∧
      (empty (some 10) : ExpiringTable Nat Nat).answers set ops =
        (empty (some 10)).answers keep ops :=
  ⟨by decide, ((answers_of_history (some 10) _).2 (by decide)).2⟩

/-- The late write threw the first entry away, which a table that keeps everything would find
again at the earlier time. -/
example :
    let ops : List (Operation Nat Nat) := [.set 1 10 0, .set 2 20 11, .get 1 5]
    (empty (some 10) : ExpiringTable Nat Nat).answers set ops =
        [.nothing, .nothing, .found none] ∧
      (empty (some 10) : ExpiringTable Nat Nat).answers keep ops =
        [.nothing, .nothing, .found (some 10)] :=
  ⟨rfl, rfl⟩

end HostNet.ExpiringTable
