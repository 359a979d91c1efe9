/-
  File:      MisterMagik/Base/Table.lean
  Subject:   Keyed tables: at most one row for each primary key, upserts, groups and their sums.

  A table is an association list without repeated keys. `INSERT … ON CONFLICT DO UPDATE` is
  `upsert`, `SELECT … GROUP BY` with an aggregate is `groupSum`.

  * `lookup_upsert_ne`, `countOf_insert_new`, `countOf_insert_old` -- what an upsert leaves alone,
    and what it counts;
  * `lookup_groupSum` -- a group is there exactly when it has a row, with the sum of its rows;
  * `Grouped.flatMap_group`, `grouped_of_flatMap` -- when rows are their groups, one after another.
-/
import Mathlib.Data.List.AList
import Mathlib.Data.List.Count
import Mathlib.Data.List.Dedup
import Mathlib.Algebra.BigOperators.Group.List.Basic
import Mathlib.Algebra.Ring.Nat

namespace MisterMagik.Base

/-- A table with primary key `K` and, beside the key, columns `V`. -/
abbrev Table (K V : Type) := AList (fun _ : K => V)

namespace Table

variable {K G V : Type} [DecidableEq K] [DecidableEq G]

/-! ## 1. Upserts -/

/-- `INSERT INTO t VALUES (k, row) ON CONFLICT (k) DO UPDATE SET …`. -/
def upsert (t : Table K V) (k : K) (row : V) (doUpdate : V → V) : Table K V :=
  match t.lookup k with
  | none => t.insert k row
  | some old => t.insert k (doUpdate old)

theorem upsert_none {t : Table K V} {k : K} (h : t.lookup k = none) (row : V) (f : V → V) :
    upsert t k row f = t.insert k row := by
  rw [upsert, h]

theorem upsert_some {t : Table K V} {k : K} {old : V} (h : t.lookup k = some old) (row : V)
    (f : V → V) : upsert t k row f = t.insert k (f old) := by
  rw [upsert, h]

@[simp] theorem lookup_upsert (t : Table K V) (k : K) (row : V) (f : V → V) :
    (upsert t k row f).lookup k = some (((t.lookup k).map f).getD row) := by
  cases h : t.lookup k with
  | none => rw [upsert_none h, AList.lookup_insert]; rfl
  | some old => rw [upsert_some h, AList.lookup_insert]; rfl

theorem lookup_upsert_ne {t : Table K V} {k k' : K} (h : k' ≠ k) (row : V) (f : V → V) :
    (upsert t k row f).lookup k' = t.lookup k' := by
  unfold upsert
  split
  · exact AList.lookup_insert_ne h
  · exact AList.lookup_insert_ne h

theorem mem_of_lookup {t : Table K V} {k : K} {v : V} (h : t.lookup k = some v) : k ∈ t :=
  AList.lookup_isSome.1 (by rw [h]; rfl)

/-- `UPDATE t SET … WHERE k = …`. -/
def update (t : Table K V) (k : K) (set : V → V) : Table K V :=
  match t.lookup k with
  | none => t
  | some old => t.insert k (set old)

@[simp] theorem lookup_update (t : Table K V) (k : K) (f : V → V) :
    (update t k f).lookup k = (t.lookup k).map f := by
  unfold update
  split
  · rename_i h
    rw [h]
    rfl
  · rename_i old h
    rw [AList.lookup_insert, h]
    rfl

theorem lookup_update_ne {t : Table K V} {k k' : K} (h : k' ≠ k) (f : V → V) :
    (update t k f).lookup k' = t.lookup k' := by
  unfold update
  split
  · rfl
  · exact AList.lookup_insert_ne h

/-! ## 2. Counting keys -/

/-- `SELECT count(*) FROM t WHERE p`, for a condition on the key. -/
def countOf (t : Table K V) (p : K → Bool) : Nat :=
  t.keys.countP p

theorem countOf_insert_new {t : Table K V} {k : K} (h : k ∉ t) (v : V) (p : K → Bool) :
    countOf (t.insert k v) p = countOf t p + if p k then 1 else 0 := by
  unfold countOf
  rw [AList.keys_insert, List.countP_cons, List.erase_of_not_mem (AList.mem_keys.not.1 h)]

theorem countOf_insert_old {t : Table K V} {k : K} (h : k ∈ t) (v : V) (p : K → Bool) :
    countOf (t.insert k v) p = countOf t p := by
  have hperm := List.perm_cons_erase (AList.mem_keys.1 h)
  unfold countOf
  rw [AList.keys_insert, ← hperm.countP_eq]

theorem countOf_erase_old {t : Table K V} {k : K} (h : k ∈ t) (p : K → Bool) :
    countOf t p = countOf (t.erase k) p + if p k then 1 else 0 := by
  have hperm := List.perm_cons_erase (AList.mem_keys.1 h)
  unfold countOf
  rw [AList.keys_erase, hperm.countP_eq, List.countP_cons]

omit [DecidableEq K] in
theorem countOf_pos {t : Table K V} {k : K} {p : K → Bool} (h : k ∈ t) (hp : p k = true) :
    0 < countOf t p :=
  List.countP_pos_iff.2 ⟨k, AList.mem_keys.1 h, hp⟩

/-! ## 3. Groups -/

/-- The rows of group `g`. -/
def group (rows : List (G × V)) (g : G) : List V :=
  (rows.filter (fun row => row.1 = g)).map Prod.snd

theorem group_cons_self (g : G) (v : V) (rows : List (G × V)) :
    group ((g, v) :: rows) g = v :: group rows g := by
  simp [group]

theorem group_cons_ne {g g' : G} (h : g ≠ g') (v : V) (rows : List (G × V)) :
    group ((g, v) :: rows) g' = group rows g' := by
  simp [group, h]

theorem group_append (rows rows' : List (G × V)) (g : G) :
    group (rows ++ rows') g = group rows g ++ group rows' g := by
  simp [group]

theorem mem_group {rows : List (G × V)} {g : G} {v : V} : v ∈ group rows g ↔ (g, v) ∈ rows := by
  unfold group
  rw [List.mem_map]
  constructor
  · rintro ⟨⟨g', v'⟩, hmem, rfl⟩
    obtain ⟨hrow, hg⟩ := List.mem_filter.1 hmem
    obtain rfl : g' = g := of_decide_eq_true hg
    exact hrow
  · intro h
    exact ⟨(g, v), List.mem_filter.2 ⟨h, decide_eq_true rfl⟩, rfl⟩

theorem group_perm {rows rows' : List (G × V)} (h : rows.Perm rows') (g : G) :
    (group rows g).Perm (group rows' g) :=
  (h.filter _).map _

/-- Rows merged into a table one after the other: each key gets the merge of its group. -/
theorem lookup_foldl_upsert (merge : V → V → V) (rows : List (G × V)) (t : Table G V) (g : G) :
    (rows.foldl (fun t row => upsert t row.1 row.2 (merge · row.2)) t).lookup g =
      (group rows g).foldl (fun old v => some ((old.map (merge · v)).getD v)) (t.lookup g) := by
  induction rows generalizing t with
  | nil => rfl
  | cons row rows ih =>
      obtain ⟨g', v⟩ := row
      rw [List.foldl_cons, ih]
      by_cases h : g' = g
      · subst h
        rw [group_cons_self, List.foldl_cons, lookup_upsert]
      · rw [group_cons_ne h, lookup_upsert_ne (Ne.symm h)]

/-- `SELECT g, sum(v) FROM rows GROUP BY g`. -/
def groupSum [AddMonoid V] : List (G × V) → Table G V
  | [] => ∅
  | (g, v) :: rows => upsert (groupSum rows) g v (v + ·)

/-- **A group has a row in the result exactly when it has one in the source, and the row carries
    the sum of the group.** -/
theorem lookup_groupSum [AddMonoid V] (rows : List (G × V)) (g : G) :
    (groupSum rows).lookup g = if group rows g = [] then none else some (group rows g).sum := by
  induction rows with
  | nil => rfl
  | cons row rows ih =>
      obtain ⟨g', v⟩ := row
      by_cases h : g' = g
      · subst h
        rw [groupSum, lookup_upsert, ih, group_cons_self]
        by_cases hnil : group rows g' = []
        · simp [hnil]
        · simp [hnil]
      · rw [groupSum, lookup_upsert_ne (Ne.symm h), ih, group_cons_ne h]

/-- A missing group sums to zero. -/
theorem getD_lookup_groupSum [AddMonoid V] (rows : List (G × V)) (g : G) :
    ((groupSum rows).lookup g).getD 0 = (group rows g).sum := by
  rw [lookup_groupSum]
  by_cases h : group rows g = []
  · rw [if_pos h, h]
    rfl
  · rw [if_neg h]
    rfl

/-- The rows of a keyed table, as pairs. -/
def pairs (t : Table K V) : List (K × V) :=
  t.entries.map (fun row => (row.1, row.2))

theorem group_pairs_nil_of_not_mem (rows : List (Σ _ : K, V)) (k : K) (h : k ∉ rows.keys) :
    group (rows.map (fun row => (row.1, row.2))) k = [] := by
  induction rows with
  | nil => rfl
  | cons row rows ih =>
      rw [List.keys_cons, List.mem_cons, not_or] at h
      rw [List.map_cons, group_cons_ne (Ne.symm h.1)]
      exact ih h.2

/-- **A group by the primary key has one row or none.** -/
theorem group_pairs (t : Table K V) (k : K) : group (pairs t) k = (t.lookup k).toList := by
  obtain ⟨rows, hnodup⟩ := t
  unfold pairs AList.lookup
  induction rows with
  | nil => rfl
  | cons row rows ih =>
      obtain ⟨k', v⟩ := row
      have hrest := List.nodupKeys_cons.1 hnodup
      by_cases h : k' = k
      · subst h
        rw [List.map_cons, group_cons_self, group_pairs_nil_of_not_mem rows k' hrest.1,
          List.dlookup_cons_eq]
        rfl
      · rw [List.map_cons, group_cons_ne h, List.dlookup_cons_ne _ _ (Ne.symm h)]
        exact ih hrest.2

/-- Taking one group out leaves the others. -/
theorem group_rest {g g' : G} (h : g' ≠ g) (rows : List (G × V)) :
    group (rows.filter fun row => !decide (row.1 = g)) g' = group rows g' := by
  unfold group
  rw [List.filter_filter]
  congr 1
  refine List.filter_congr fun row _ => ?_
  by_cases hrow : row.1 = g'
  · simp [hrow, h]
  · simp [hrow]

/-- The other groups, one after the other. -/
theorem flatMap_group_rest {g : G} {groups : List G} (h : g ∉ groups) (rows : List (G × V)) :
    groups.flatMap (group (rows.filter fun row => !decide (row.1 = g))) =
      groups.flatMap (group rows) := by
  refine List.flatMap_congr fun g' hg => group_rest (fun heq => ?_) rows
  rw [heq] at hg
  exact h hg

/-- The rows of the other groups are covered by the other groups. -/
theorem cover_rest {g : G} {groups : List G} {rows : List (G × V)}
    (h : ∀ row ∈ rows, row.1 ∈ g :: groups) :
    ∀ row ∈ rows.filter fun row => !decide (row.1 = g), row.1 ∈ groups := by
  intro row hrow
  obtain ⟨hmem, hne⟩ := List.mem_filter.1 hrow
  rcases List.mem_cons.1 (h row hmem) with heq | hmem
  · simp [heq] at hne
  · exact hmem

/-- **Groups partition the rows,** in whatever order they are listed. -/
theorem flatMap_group_perm {groups : List G} (hnodup : groups.Nodup) (rows : List (G × V))
    (hcover : ∀ row ∈ rows, row.1 ∈ groups) :
    (groups.flatMap (group rows)).Perm (rows.map Prod.snd) := by
  induction groups generalizing rows with
  | nil =>
      cases rows with
      | nil => exact List.Perm.refl _
      | cons row rows => exact absurd (hcover row List.mem_cons_self) List.not_mem_nil
  | cons g groups ih =>
      obtain ⟨hg, hrest⟩ := List.nodup_cons.1 hnodup
      have hperm := ih hrest _ (cover_rest hcover)
      have hsplit := (List.filter_append_perm (fun row => decide (row.1 = g)) rows).map Prod.snd
      rw [List.map_append] at hsplit
      rw [flatMap_group_rest hg] at hperm
      rw [List.flatMap_cons]
      exact (hperm.append_left _).trans hsplit

/-- Rows that stand in the order of their groups. -/
def Grouped (groups : List G) (rows : List (G × V)) : Prop :=
  rows.Pairwise fun a b => groups.idxOf a.1 ≤ groups.idxOf b.1

instance (groups : List G) (rows : List (G × V)) : Decidable (Grouped groups rows) :=
  inferInstanceAs (Decidable (List.Pairwise _ _))

theorem Grouped.split {g : G} {groups : List G} {rows : List (G × V)}
    (h : Grouped (g :: groups) rows) :
    rows = (rows.filter fun row => decide (row.1 = g)) ++
      rows.filter fun row => !decide (row.1 = g) := by
  induction rows with
  | nil => rfl
  | cons row rows ih =>
      obtain ⟨hfirst, hrest⟩ := List.pairwise_cons.1 h
      by_cases hrow : row.1 = g
      · rw [List.filter_cons_of_pos (by simp [hrow]), List.filter_cons_of_neg (by simp [hrow]),
          List.cons_append, ← ih hrest]
      · -- behind a row of another group none of `g` follows
        have hothers : ∀ other ∈ row :: rows, other.1 ≠ g := by
          intro other hother heq
          rcases List.mem_cons.1 hother with rfl | hmem
          · exact hrow heq
          · have hle := hfirst other hmem
            rw [heq, List.idxOf_cons_self, List.idxOf_cons_ne _ (Ne.symm hrow)] at hle
            exact Nat.not_succ_le_zero _ hle
        rw [List.filter_eq_nil_iff.2 fun other hother => by simp [hothers other hother],
          List.filter_eq_self.2 fun other hother => by simp [hothers other hother],
          List.nil_append]

theorem Grouped.rest {g : G} {groups : List G} {rows : List (G × V)}
    (h : Grouped (g :: groups) rows) :
    Grouped groups (rows.filter fun row => !decide (row.1 = g)) := by
  refine (List.Pairwise.filter _ h).imp_of_mem fun {a b} ha hb hle => ?_
  have hne : ∀ {row : G × V}, row ∈ rows.filter (fun row => !decide (row.1 = g)) → g ≠ row.1 := by
    intro row hrow heq
    simp [← heq] at hrow
  rw [List.idxOf_cons_ne _ (hne ha), List.idxOf_cons_ne _ (hne hb)] at hle
  exact Nat.le_of_succ_le_succ hle

/-- **Rows in the order of their groups are the groups one after the other.** -/
theorem Grouped.flatMap_group {groups : List G} {rows : List (G × V)} (h : Grouped groups rows)
    (hnodup : groups.Nodup) (hcover : ∀ row ∈ rows, row.1 ∈ groups) :
    groups.flatMap (group rows) = rows.map Prod.snd := by
  induction groups generalizing rows with
  | nil =>
      cases rows with
      | nil => rfl
      | cons row rows => exact absurd (hcover row List.mem_cons_self) List.not_mem_nil
  | cons g groups ih =>
      obtain ⟨hg, hrest⟩ := List.nodup_cons.1 hnodup
      have hothers := ih h.rest hrest (cover_rest hcover)
      rw [flatMap_group_rest hg] at hothers
      rw [List.flatMap_cons, hothers]
      exact (List.map_append.symm.trans (congrArg (List.map Prod.snd) h.split.symm))

theorem pairwise_idxOf {groups : List G} (h : groups.Nodup) :
    groups.Pairwise fun g g' => groups.idxOf g ≤ groups.idxOf g' := by
  refine List.pairwise_iff_getElem.2 fun i j hi hj hlt => ?_
  rw [h.idxOf_getElem i hi, h.idxOf_getElem j hj]
  exact Nat.le_of_lt hlt

/-- Where no value stands in two groups, only rows in the order of their groups are these one after
    the other. -/
theorem grouped_of_flatMap {groups : List G} {rows : List (G × V)} (hnodup : groups.Nodup)
    (hvalues : ∀ a ∈ rows, ∀ b ∈ rows, a.2 = b.2 → a.1 = b.1)
    (h : groups.flatMap (group rows) = rows.map Prod.snd) : Grouped groups rows := by
  -- the order of the groups, read off the values
  have hsorted : (rows.map Prod.snd).Pairwise fun v w => ∀ a ∈ rows, ∀ b ∈ rows, a.2 = v →
      b.2 = w → groups.idxOf a.1 ≤ groups.idxOf b.1 := by
    have hof : ∀ {g v}, v ∈ group rows g → ∀ a ∈ rows, a.2 = v → a.1 = g :=
      fun hv a ha heq => hvalues a ha _ (mem_group.1 hv) heq
    rw [← h]
    refine List.pairwise_flatMap.2 ⟨fun g _ => ?_, ?_⟩
    · refine List.pairwise_of_forall_mem_list fun v hv w hw a ha b hb hav hbw => ?_
      rw [hof hv a ha hav, hof hw b hb hbw]
    · refine (pairwise_idxOf hnodup).imp fun hle v hv w hw a ha b hb hav hbw => ?_
      rw [hof hv a ha hav, hof hw b hb hbw]
      exact hle
  refine (List.pairwise_map.1 hsorted).imp_of_mem fun {a b} ha hb hle => ?_
  exact hle a ha b hb rfl rfl

/-- Rows with the same groups have the same values, in some order. -/
theorem perm_of_groups {rows rows' : List (G × V)} (h : ∀ g, group rows g = group rows' g) :
    (rows.map Prod.snd).Perm (rows'.map Prod.snd) := by
  have hnodup := List.nodup_dedup ((rows ++ rows').map Prod.fst)
  have hleft := flatMap_group_perm hnodup rows fun row hrow =>
    List.mem_dedup.2 (List.mem_map_of_mem (List.mem_append_left _ hrow))
  have hright := flatMap_group_perm hnodup rows' fun row hrow =>
    List.mem_dedup.2 (List.mem_map_of_mem (List.mem_append_right _ hrow))
  rw [funext h] at hleft
  exact hleft.symm.trans hright

omit [DecidableEq K] in
/-- Counting: the sum of ones over a group is the number of its rows. -/
theorem sum_group_const (keys : List K) (f : K → G) (c : V) [AddMonoid V] (g : G) :
    (group (keys.map fun k => (f k, c)) g).sum = (keys.countP fun k => f k = g) • c := by
  induction keys with
  | nil => simp [group]
  | cons k keys ih =>
      by_cases h : f k = g
      · rw [List.map_cons, h, group_cons_self, List.sum_cons, ih,
          List.countP_cons_of_pos (by simp [h]),
          succ_nsmul']
      · rw [List.map_cons, group_cons_ne h, ih, List.countP_cons_of_neg (by simp [h])]

/-! ## 4. Tables from rows -/

/-- `INSERT INTO t SELECT …`, for rows of which no two have one key. -/
def ofRows (rows : List (K × V)) : Table K V :=
  rows.foldr (fun row t => t.insert row.1 row.2) ∅

theorem mem_ofRows {rows : List (K × V)} {k : K} : k ∈ ofRows rows ↔ k ∈ rows.map Prod.fst := by
  induction rows with
  | nil => simp [ofRows]
  | cons row rows ih =>
      have hcons : ofRows (row :: rows) = (ofRows rows).insert row.1 row.2 := rfl
      rw [hcons, AList.mem_insert, ih, List.map_cons, List.mem_cons]

theorem lookup_ofRows {rows : List (K × V)} (hnodup : (rows.map Prod.fst).Nodup) {k : K} {v : V} :
    (ofRows rows).lookup k = some v ↔ (k, v) ∈ rows := by
  induction rows with
  | nil => simp [ofRows]
  | cons row rows ih =>
      obtain ⟨k', v'⟩ := row
      rw [List.map_cons, List.nodup_cons] at hnodup
      have hcons : ofRows ((k', v') :: rows) = (ofRows rows).insert k' v' := rfl
      rw [hcons, List.mem_cons, Prod.mk.injEq]
      by_cases h : k = k'
      · subst h
        rw [AList.lookup_insert]
        constructor
        · intro heq
          exact Or.inl ⟨rfl, (Option.some.inj heq).symm⟩
        · intro hmem
          rcases hmem with ⟨-, rfl⟩ | hmem
          · rfl
          · exact absurd (List.mem_map_of_mem hmem) hnodup.1
      · rw [AList.lookup_insert_ne h, ih hnodup.2]
        constructor
        · exact Or.inr
        · intro hmem
          rcases hmem with ⟨rfl, -⟩ | hmem
          · exact absurd rfl h
          · exact hmem

omit [DecidableEq K] in
theorem nodup_pairs (t : Table K V) : ((pairs t).map Prod.fst).Nodup := by
  have hkeys : (pairs t).map Prod.fst = t.keys := by
    unfold pairs AList.keys List.keys
    rw [List.map_map]
    rfl
  rw [hkeys]
  exact t.keys_nodup

theorem mem_pairs {t : Table K V} {k : K} {v : V} : (k, v) ∈ pairs t ↔ t.lookup k = some v := by
  unfold pairs
  rw [List.mem_map, ← Option.mem_def, AList.mem_lookup_iff]
  constructor
  · intro h
    obtain ⟨⟨k', v'⟩, hmem, heq⟩ := h
    cases heq
    exact hmem
  · intro h
    exact ⟨⟨k, v⟩, h, rfl⟩

/-- A table with its rows changed, each under its key. -/
theorem lookup_ofRows_map {V' : Type} (t : Table K V) (f : V → V') (k : K) :
    (ofRows ((pairs t).map fun row => (row.1, f row.2))).lookup k = (t.lookup k).map f := by
  have hnodup : (((pairs t).map fun row => (row.1, f row.2)).map Prod.fst).Nodup := by
    rw [List.map_map]
    exact nodup_pairs t
  refine Option.ext fun v => ?_
  rw [lookup_ofRows hnodup, List.mem_map, Option.map_eq_some_iff]
  constructor
  · intro h
    obtain ⟨⟨k', v'⟩, hmem, heq⟩ := h
    cases heq
    exact ⟨v', mem_pairs.1 hmem, rfl⟩
  · intro h
    obtain ⟨v', hlook, rfl⟩ := h
    exact ⟨(k, v'), mem_pairs.2 hlook, rfl⟩

/-! ## 5. Sums over the rows, and rows inserted one after the other -/

/-- `SELECT sum(f(v)) FROM t`. -/
def sumOf (t : Table K V) (f : V → Nat) : Nat := (t.entries.map fun row => f row.2).sum

theorem sumOf_kerase {rows : List (Σ _ : K, V)} {k : K} {v : V} (f : V → Nat)
    (h : rows.dlookup k = some v) :
    (rows.map fun row => f row.2).sum = f v + ((rows.kerase k).map fun row => f row.2).sum := by
  induction rows with
  | nil => cases h
  | cons row rows ih =>
      obtain ⟨k', v'⟩ := row
      by_cases hk : k = k'
      · subst hk
        rw [List.dlookup_cons_eq] at h
        cases h
        have herase : List.kerase k ((⟨k, v⟩ : Σ _ : K, V) :: rows) = rows :=
          List.kerase_cons_eq rfl
        rw [herase, List.map_cons, List.sum_cons]
      · rw [List.dlookup_cons_ne _ _ hk] at h
        rw [List.kerase_cons_ne hk, List.map_cons, List.map_cons, List.sum_cons, List.sum_cons,
          ih h]
        omega

theorem sumOf_insert_new {t : Table K V} {k : K} (h : t.lookup k = none) (v : V) (f : V → Nat) :
    sumOf (t.insert k v) f = sumOf t f + f v := by
  have hkey : k ∉ t.entries.keys := AList.mem_keys.not.1 (AList.lookup_eq_none.1 h)
  unfold sumOf
  rw [AList.entries_insert, List.map_cons, List.sum_cons,
    List.kerase_of_notMem_keys hkey, Nat.add_comm]

theorem sumOf_insert_old {t : Table K V} {k : K} {old : V} (h : t.lookup k = some old) (v : V)
    (f : V → Nat) : sumOf (t.insert k v) f + f old = sumOf t f + f v := by
  have hsum := sumOf_kerase f h
  unfold sumOf
  rw [AList.entries_insert, List.map_cons, List.sum_cons, hsum]
  dsimp only
  omega

/-- A row's part of the sum. -/
theorem le_sumOf {t : Table K V} {k : K} {v : V} (h : t.lookup k = some v) (f : V → Nat) :
    f v ≤ sumOf t f := by
  have hsum := sumOf_kerase f h
  unfold sumOf
  omega

/-- The rows of a list, inserted one after the other. -/
def insertAll (t : Table K V) (rows : List (K × V)) : Table K V :=
  rows.foldl (fun t row => t.insert row.1 row.2) t

theorem lookup_insertAll {rows : List (K × V)} (hnodup : (rows.map Prod.fst).Nodup)
    (t : Table K V) (k : K) :
    (insertAll t rows).lookup k = ((ofRows rows).lookup k).or (t.lookup k) := by
  induction rows generalizing t with
  | nil => rfl
  | cons row rows ih =>
      obtain ⟨k', v⟩ := row
      rw [List.map_cons, List.nodup_cons] at hnodup
      have hcons : ofRows ((k', v) :: rows) = (ofRows rows).insert k' v := rfl
      have hstep : insertAll t ((k', v) :: rows) = insertAll (t.insert k' v) rows := rfl
      rw [hcons, hstep, ih hnodup.2]
      by_cases h : k = k'
      · subst h
        have hnone : (ofRows rows).lookup k = none :=
          AList.lookup_eq_none.2 (mem_ofRows.not.2 hnodup.1)
        rw [hnone, AList.lookup_insert, AList.lookup_insert]
        rfl
      · rw [AList.lookup_insert_ne h, AList.lookup_insert_ne h]

theorem mem_of_lookup_insertAll {rows : List (K × V)} {t : Table K V} {k : K} {v : V}
    (h : (insertAll t rows).lookup k = some v) : (k, v) ∈ rows ∨ t.lookup k = some v := by
  induction rows generalizing t with
  | nil => exact Or.inr h
  | cons row rows ih =>
      obtain ⟨k', v'⟩ := row
      rcases ih h with hmem | hold
      · exact Or.inl (List.mem_cons_of_mem _ hmem)
      · by_cases hk : k = k'
        · subst hk
          rw [AList.lookup_insert, Option.some.injEq] at hold
          exact Or.inl (hold ▸ List.mem_cons_self)
        · rw [AList.lookup_insert_ne hk] at hold
          exact Or.inr hold

theorem mem_insertAll {rows : List (K × V)} {t : Table K V} {k : K} :
    k ∈ insertAll t rows ↔ k ∈ rows.map Prod.fst ∨ k ∈ t := by
  induction rows generalizing t with
  | nil => simp [insertAll]
  | cons row rows ih =>
      have hstep : insertAll t (row :: rows) = insertAll (t.insert row.1 row.2) rows := rfl
      rw [hstep, ih, AList.mem_insert, List.map_cons, List.mem_cons]
      tauto

/-- Each key of a list inserted with a value of its own. -/
theorem lookup_insertAll_keys (t : Table K V) (keys : List K) (f : K → V) (k : K) :
    (insertAll t (keys.map fun key => (key, f key))).lookup k =
      if k ∈ keys then some (f k) else t.lookup k := by
  induction keys generalizing t with
  | nil => rfl
  | cons key keys ih =>
      have hstep : insertAll t ((key :: keys).map fun key => (key, f key)) =
          insertAll (t.insert key (f key)) (keys.map fun key => (key, f key)) := rfl
      rw [hstep, ih]
      by_cases h : k = key
      · subst h
        rw [AList.lookup_insert, if_pos List.mem_cons_self, ite_self]
      · rw [AList.lookup_insert_ne h]
        simp only [List.mem_cons, h, false_or]

/-- A table of those keys of a list that have a value. -/
theorem lookup_ofRows_filterMap (keys : List K) (f : K → Option V) (k : K) :
    (ofRows (keys.filterMap fun key => (f key).map (key, ·))).lookup k =
      if k ∈ keys then f k else none := by
  induction keys with
  | nil => rfl
  | cons key keys ih =>
      by_cases h : k = key
      · subst h
        rw [if_pos List.mem_cons_self]
        cases hk : f k with
        | none =>
            rw [List.filterMap_cons_none (by rw [hk]; rfl), ih, hk, ite_self]
        | some v =>
            rw [List.filterMap_cons_some (by rw [hk]; rfl)]
            exact AList.lookup_insert _
      · simp only [List.mem_cons, h, false_or]
        rw [← ih]
        cases hk : f key with
        | none => rw [List.filterMap_cons_none (by rw [hk]; rfl)]
        | some v =>
            rw [List.filterMap_cons_some (by rw [hk]; rfl)]
            exact AList.lookup_insert_ne h

/-- Rows that give a key one value only. -/
theorem lookup_insertAll_iff {rows : List (K × V)} {k : K} {v : V}
    (honly : ∀ v v', (k, v) ∈ rows → (k, v') ∈ rows → v = v') :
    (insertAll ∅ rows).lookup k = some v ↔ (k, v) ∈ rows := by
  have hfrom : ∀ {v}, (insertAll ∅ rows).lookup k = some v → (k, v) ∈ rows := fun h =>
    (mem_of_lookup_insertAll h).resolve_right (by rw [AList.lookup_empty]; rintro ⟨⟩)
  refine ⟨hfrom, fun hmem => ?_⟩
  have hkey : k ∈ insertAll ∅ rows := mem_insertAll.2 (Or.inl (List.mem_map_of_mem hmem))
  obtain ⟨v', hv'⟩ := Option.isSome_iff_exists.1 (AList.lookup_isSome.2 hkey)
  rw [hv', honly v' v (hfrom hv') hmem]

/-- A table's rows, each changed, inserted into another. -/
theorem lookup_insertAll_pairs {V' : Type} (t : Table K V) (u : Table K V') (f : V' → V) (k : K) :
    (insertAll t ((pairs u).map fun row => (row.1, f row.2))).lookup k =
      ((u.lookup k).map f).or (t.lookup k) := by
  have hnodup : (((pairs u).map fun row => (row.1, f row.2)).map Prod.fst).Nodup := by
    rw [List.map_map]
    exact nodup_pairs u
  rw [lookup_insertAll hnodup, lookup_ofRows_map]

end Table

end MisterMagik.Base
