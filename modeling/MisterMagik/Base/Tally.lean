/-
  File:      MisterMagik/Base/Tally.lean
  Subject:   Sums by key, kept in numbers of a machine.

  A tally adds row after row to the sum of the row's key. The sum is exact while it fits; what
  happens then is a choice of the build: the run stops, or the sum wraps around.

  * `tallied_foldlM` -- a run over rows holds their sums, or stopped because one does not fit;
  * `tallied_merge` -- a tally added to another, in any order of its keys, is one tally of both;
  * `tallied_unique` -- the rows alone decide what a tally holds.
-/
import MisterMagik.Base.Table

namespace MisterMagik.Base

/-- Exact values, and those that a machine keeps for them. -/
structure Narrow (V : Type) [AddCommMonoid V] where
  wrap : V → V
  fits : V → Bool
  fits_zero : fits 0 = true
  fits_left : ∀ {a b}, fits (a + b) = true → fits a = true
  wrap_of_fits : ∀ {a}, fits a = true → wrap a = a
  wrap_add : ∀ a b, wrap (wrap a + b) = wrap (a + b)

namespace Narrow

variable {K V : Type} [DecidableEq K] [AddCommMonoid V] {m : Narrow V} {checked : Bool}
  {a b : V}

/-- A sum; `checked` where an overflow stops the run. -/
def add (m : Narrow V) (checked : Bool) (a b : V) : Option V :=
  if m.fits (a + b) then some (a + b)
  else if checked then none
  else some (m.wrap (a + b))

/-- A row is added to the sum of its key. -/
def accumulate (m : Narrow V) (checked : Bool) (t : Table K V) (row : K × V) :
    Option (Table K V) :=
  (m.add checked ((t.lookup row.1).getD 0) row.2).map fun sum => t.insert row.1 sum

/-- What a tally of rows is: the wrapped sum of each key that has a row; or nothing, if the build
    stops at an overflow and a sum does not fit. -/
def Tallied (m : Narrow V) (checked : Bool) (rows : List (K × V)) : Option (Table K V) → Prop
  | some t =>
      (∀ k, t.lookup k =
        if Table.group rows k = [] then none else some (m.wrap (Table.group rows k).sum)) ∧
      (checked = true → ∀ k, m.fits (Table.group rows k).sum = true)
  | none => checked = true ∧ ∃ k, m.fits (Table.group rows k).sum = false

theorem wrap_zero (m : Narrow V) : m.wrap 0 = 0 := m.wrap_of_fits m.fits_zero

theorem add_wrapping (m : Narrow V) (a b : V) :
    m.add false (m.wrap a) b = some (m.wrap (a + b)) := by
  unfold add
  split
  · rename_i hfits
    rw [← m.wrap_of_fits hfits, m.wrap_add]
  · rw [if_neg Bool.false_ne_true, m.wrap_add]

theorem add_checked (h : m.fits a = true) :
    m.add true (m.wrap a) b = if m.fits (a + b) then some (m.wrap (a + b)) else none := by
  unfold add
  rw [m.wrap_of_fits h]
  split
  · rename_i hfits
    rw [m.wrap_of_fits hfits]
  · rfl

theorem sum_group_append (rows rows' : List (K × V)) (k : K) :
    (Table.group (rows ++ rows') k).sum = (Table.group rows k).sum + (Table.group rows' k).sum := by
  rw [Table.group_append, List.sum_append]

variable {rows rows' : List (K × V)} {t a' b' : Table K V}

theorem tallied_nil (m : Narrow V) (checked : Bool) : m.Tallied checked [] (some (∅ : Table K V)) :=
  ⟨fun _ => rfl, fun _ _ => m.fits_zero⟩

/-- A run that stopped stays stopped. -/
theorem tallied_none (h : m.Tallied checked rows none) (more : List (K × V)) :
    m.Tallied checked (rows ++ more) none := by
  obtain ⟨hchecked, k, hover⟩ := h
  refine ⟨hchecked, k, Bool.eq_false_iff.2 fun hfits => ?_⟩
  rw [sum_group_append] at hfits
  rw [m.fits_left hfits] at hover
  cases hover

theorem tallied_none_left (h : m.Tallied checked rows none) (before : List (K × V)) :
    m.Tallied checked (before ++ rows) none := by
  obtain ⟨hchecked, k, hover⟩ := h
  refine ⟨hchecked, k, Bool.eq_false_iff.2 fun hfits => ?_⟩
  rw [sum_group_append, add_comm] at hfits
  rw [m.fits_left hfits] at hover
  cases hover

/-- **One row.** -/
theorem tallied_accumulate (h : m.Tallied checked rows (some t)) (row : K × V) :
    m.Tallied checked (rows ++ [row]) (m.accumulate checked t row) := by
  obtain ⟨k, v⟩ := row
  obtain ⟨hlookup, hfits⟩ := h
  have hself : Table.group [(k, v)] k = [v] := Table.group_cons_self k v []
  have hother : ∀ k', k' ≠ k → Table.group (rows ++ [(k, v)]) k' = Table.group rows k' := by
    intro k' hne
    rw [Table.group_append, Table.group_cons_ne (Ne.symm hne)]
    exact List.append_nil _
  have hsum : (Table.group (rows ++ [(k, v)]) k).sum = (Table.group rows k).sum + v := by
    rw [sum_group_append, hself, List.sum_singleton]
  have hne : Table.group (rows ++ [(k, v)]) k ≠ [] := by
    rw [Table.group_append, hself]
    exact List.append_ne_nil_of_right_ne_nil _ (List.cons_ne_nil _ _)
  have hold : (t.lookup k).getD 0 = m.wrap (Table.group rows k).sum := by
    rw [hlookup]
    split
    · rename_i hnil
      rw [hnil]
      exact (wrap_zero m).symm
    · rfl
  -- what the table holds once the sum of the key is there
  have hstored : ∀ k', (t.insert k (m.wrap ((Table.group rows k).sum + v))).lookup k' =
      if Table.group (rows ++ [(k, v)]) k' = [] then none
      else some (m.wrap (Table.group (rows ++ [(k, v)]) k').sum) := by
    intro k'
    by_cases hk : k' = k
    · subst hk
      rw [AList.lookup_insert, if_neg hne, hsum]
    · rw [AList.lookup_insert_ne hk, hlookup, hother k' hk]
  unfold accumulate
  dsimp only
  rw [hold]
  cases checked with
  | false =>
      rw [add_wrapping]
      exact ⟨hstored, fun hchecked => by cases hchecked⟩
  | true =>
      rw [add_checked (hfits rfl k)]
      by_cases hover : m.fits ((Table.group rows k).sum + v) = true
      · rw [if_pos hover]
        refine ⟨hstored, fun _ k' => ?_⟩
        by_cases hk : k' = k
        · subst hk
          rw [hsum]
          exact hover
        · rw [hother k' hk]
          exact hfits rfl k'
      · rw [if_neg hover]
        refine ⟨rfl, k, ?_⟩
        rw [hsum]
        exact Bool.eq_false_iff.2 hover

/-- **A run over rows.** -/
theorem tallied_foldlM (h : m.Tallied checked rows (some t)) (more : List (K × V)) :
    m.Tallied checked (rows ++ more) (more.foldlM (m.accumulate checked) t) := by
  induction more generalizing rows t with
  | nil =>
      rw [List.append_nil]
      exact h
  | cons row more ih =>
      have hrow := tallied_accumulate h row
      rw [List.foldlM_cons]
      cases hnext : m.accumulate checked t row with
      | none =>
          rw [hnext] at hrow
          have hstopped := tallied_none hrow more
          rw [List.append_assoc] at hstopped
          exact hstopped
      | some next =>
          rw [hnext] at hrow
          have hrest := ih hrow
          rw [List.append_assoc] at hrest
          exact hrest

omit [AddCommMonoid V] in
/-- Each key of a table is listed once, whatever the order of the list. -/
theorem group_of_perm {entries : List (K × V)} (h : entries.Perm (Table.pairs t)) (k : K) :
    Table.group entries k = (t.lookup k).toList := by
  have hgroup : (Table.group entries k).Perm (Table.group (Table.pairs t) k) :=
    (h.filter _).map _
  rw [Table.group_pairs] at hgroup
  cases hlookup : t.lookup k with
  | none =>
      rw [hlookup] at hgroup
      exact List.perm_nil.1 hgroup
  | some v =>
      rw [hlookup] at hgroup
      exact List.perm_singleton.1 hgroup

/-- **A tally added to a tally.** -/
theorem tallied_merge {entries : List (K × V)} (ha : m.Tallied checked rows (some a'))
    (hb : m.Tallied checked rows' (some b')) (hentries : entries.Perm (Table.pairs b')) :
    m.Tallied checked (rows ++ rows') (entries.foldlM (m.accumulate checked) a') := by
  have hrun := tallied_foldlM ha entries
  obtain ⟨hlookup, hfits⟩ := hb
  -- the entries stand for the rows they sum up
  have hempty : ∀ k, Table.group (rows ++ entries) k = [] ↔ Table.group (rows ++ rows') k = [] := by
    intro k
    rw [Table.group_append, Table.group_append, List.append_eq_nil_iff, List.append_eq_nil_iff,
      group_of_perm hentries, hlookup]
    refine and_congr_right fun _ => ?_
    split
    · rename_i hnil
      exact ⟨fun _ => hnil, fun _ => rfl⟩
    · rename_i hsome
      exact ⟨fun h => absurd h (List.cons_ne_nil _ _), fun h => absurd h hsome⟩
  have hentry : ∀ k, (Table.group entries k).sum = m.wrap (Table.group rows' k).sum := by
    intro k
    rw [group_of_perm hentries, hlookup]
    split
    · rename_i hnil
      rw [hnil]
      exact (wrap_zero m).symm
    · exact List.sum_singleton
  have hwrap : ∀ k, m.wrap (Table.group (rows ++ entries) k).sum =
      m.wrap (Table.group (rows ++ rows') k).sum := by
    intro k
    rw [sum_group_append, sum_group_append, hentry, add_comm, m.wrap_add, add_comm]
  have hexact : checked = true → ∀ k, (Table.group (rows ++ entries) k).sum =
      (Table.group (rows ++ rows') k).sum := by
    intro hchecked k
    rw [sum_group_append, sum_group_append, hentry, m.wrap_of_fits (hfits hchecked k)]
  cases hresult : entries.foldlM (m.accumulate checked) a' with
  | none =>
      rw [hresult] at hrun
      obtain ⟨hchecked, k, hover⟩ := hrun
      rw [hexact hchecked] at hover
      exact ⟨hchecked, k, hover⟩
  | some t =>
      rw [hresult] at hrun
      obtain ⟨hheld, hbounded⟩ := hrun
      refine ⟨fun k => ?_, fun hchecked k => ?_⟩
      · rw [hheld, hwrap]
        exact if_congr (hempty k) rfl rfl
      · rw [← hexact hchecked]
        exact hbounded hchecked k

/-- **The rows decide what a tally holds, and whether there is one.** -/
theorem tallied_unique {r r' : Option (Table K V)} (h : m.Tallied checked rows r)
    (h' : m.Tallied checked rows r') :
    (r = none ∧ r' = none) ∨
      ∃ t t', r = some t ∧ r' = some t' ∧ ∀ k, t.lookup k = t'.lookup k := by
  cases r with
  | none =>
      cases r' with
      | none => exact .inl ⟨rfl, rfl⟩
      | some t' =>
          obtain ⟨hchecked, k, hover⟩ := h
          rw [h'.2 hchecked k] at hover
          cases hover
  | some t =>
      cases r' with
      | none =>
          obtain ⟨hchecked, k, hover⟩ := h'
          rw [h.2 hchecked k] at hover
          cases hover
      | some t' => exact .inr ⟨t, t', rfl, rfl, fun k => (h.1 k).trans (h'.1 k).symm⟩

end Narrow

end MisterMagik.Base
