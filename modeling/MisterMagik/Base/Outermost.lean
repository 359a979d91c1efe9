/-
  File:      MisterMagik/Base/Outermost.lean
  Subject:   THE MAXIMAL ELEMENTS OF A FINITE SET, kept in a list that grows one element at a time.

  `insertOuter` leaves a new element out where the list has one above it; else it drops what is
  below and appends it. A list without comparable elements stays one, and has the maximal elements
  of what was inserted, whatever the order was.

  * `toFinset_insertOuter`, `toFinset_foldl_insertOuter` -- one insertion, and all of them;
  * `length_foldl_insertOuter` -- so the length does not depend on the order.
-/
import Mathlib.Data.Finset.Card
import Mathlib.Data.List.Pairwise
import Mathlib.Order.Preorder.Finite

namespace MisterMagik.Base

variable {α : Type} [PartialOrder α] [DecidableEq α] [DecidableLE α]

/-- The elements below no other one. -/
def outermost (s : Finset α) : Finset α := s.filter fun a => ∀ b ∈ s, a ≤ b → b = a

/-- One more element, where no other is above it. -/
def insertOuter (l : List α) (a : α) : List α :=
  if ∃ e ∈ l, a ≤ e then l else l.filter (fun e => ¬e ≤ a) ++ [a]

/-- No element is below another. -/
def Incomparable (l : List α) : Prop := l.Pairwise fun a b => ¬a ≤ b ∧ ¬b ≤ a

variable {s t : Finset α} {l as : List α} {a b : α}

theorem mem_outermost : a ∈ outermost s ↔ a ∈ s ∧ ∀ b ∈ s, a ≤ b → b = a := Finset.mem_filter

/-! ## 1. Maximal elements -/

/-- Every element is below a maximal one. -/
theorem exists_outermost (ha : a ∈ s) : ∃ b ∈ outermost s, a ≤ b := by
  obtain ⟨b, hab, hmem, hmax⟩ := s.exists_le_maximal ha
  exact ⟨b, mem_outermost.mpr ⟨hmem, fun c hc hbc => (hmax hc hbc).antisymm hbc⟩, hab⟩

/-- What is below an element is not needed. -/
theorem outermost_congr (hsub : s ⊆ t) (habove : ∀ a ∈ t, ∃ b ∈ s, a ≤ b) :
    outermost s = outermost t := by
  ext a
  rw [mem_outermost, mem_outermost]
  constructor
  · rintro ⟨ha, hmax⟩
    refine ⟨hsub ha, fun b hb hab => ?_⟩
    obtain ⟨c, hc, hbc⟩ := habove b hb
    obtain rfl := hmax c hc (hab.trans hbc)
    exact hbc.antisymm hab
  · rintro ⟨ha, hmax⟩
    obtain ⟨b, hb, hab⟩ := habove a ha
    obtain rfl := hmax b (hsub hb) hab
    exact ⟨hb, fun c hc => hmax c (hsub hc)⟩

theorem outermost_outermost_union : outermost (outermost s ∪ t) = outermost (s ∪ t) := by
  refine outermost_congr (Finset.union_subset_union_left (Finset.filter_subset _ _)) fun a ha => ?_
  rcases Finset.mem_union.mp ha with hs | ht
  · obtain ⟨b, hb, hab⟩ := exists_outermost hs
    exact ⟨b, Finset.mem_union_left t hb, hab⟩
  · exact ⟨a, Finset.mem_union_right _ ht, le_refl a⟩

/-! ## 2. Lists without comparable elements -/

omit [DecidableEq α] [DecidableLE α] in
theorem Incomparable.nodup (h : Incomparable l) : l.Nodup :=
  h.imp fun hne he => hne.1 (le_of_eq he)

omit [DecidableEq α] [DecidableLE α] in
theorem Incomparable.eq_of_le (h : Incomparable l) (ha : a ∈ l) (hb : b ∈ l) (hab : a ≤ b) :
    b = a := by
  by_contra hne
  have : Std.Symm fun a b : α => ¬a ≤ b ∧ ¬b ≤ a := ⟨fun _ _ h => h.symm⟩
  exact (List.Pairwise.forall h ha hb fun he => hne he.symm).1 hab

theorem Incomparable.outermost_eq (h : Incomparable l) : outermost l.toFinset = l.toFinset := by
  refine Finset.filter_true_of_mem fun a ha b hb hab => ?_
  exact h.eq_of_le (List.mem_toFinset.mp ha) (List.mem_toFinset.mp hb) hab

omit [DecidableEq α] in
theorem Incomparable.insertOuter (h : Incomparable l) : Incomparable (insertOuter l a) := by
  unfold Base.insertOuter
  split
  · exact h
  · rename_i hnone
    refine List.pairwise_append.mpr ⟨h.sublist List.filter_sublist, List.pairwise_singleton _ a, ?_⟩
    intro e he b hb
    rw [List.mem_filter] at he
    rw [List.mem_singleton] at hb
    subst hb
    exact ⟨by simpa using he.2, fun hle => hnone ⟨e, he.1, hle⟩⟩

omit [DecidableEq α] in
theorem Incomparable.foldl (h : Incomparable l) : Incomparable (as.foldl Base.insertOuter l) := by
  induction as generalizing l with
  | nil => exact h
  | cons a as ih => exact ih h.insertOuter

/-! ## 3. Insertion -/

/-- **One insertion** keeps the maximal elements. -/
theorem toFinset_insertOuter (h : Incomparable l) :
    (insertOuter l a).toFinset = outermost (l.toFinset ∪ {a}) := by
  rw [← (h.insertOuter (a := a)).outermost_eq]
  unfold insertOuter
  split
  · rename_i habove
    obtain ⟨e, he, hle⟩ := habove
    refine outermost_congr Finset.subset_union_left fun b hb => ?_
    rcases Finset.mem_union.mp hb with hb | hb
    · exact ⟨b, hb, le_refl b⟩
    · rw [Finset.mem_singleton] at hb
      subst hb
      exact ⟨e, List.mem_toFinset.mpr he, hle⟩
  · refine outermost_congr (fun b hb => ?_) fun b hb => ?_
    · rw [List.mem_toFinset, List.mem_append, List.mem_filter, List.mem_singleton] at hb
      rw [Finset.mem_union, List.mem_toFinset, Finset.mem_singleton]
      exact hb.imp_left And.left
    · by_cases hle : b ≤ a
      · exact ⟨a, by simp, hle⟩
      · refine ⟨b, ?_, le_refl b⟩
        rw [Finset.mem_union, List.mem_toFinset, Finset.mem_singleton] at hb
        obtain hb | rfl := hb
        · simp [hb, hle]
        · exact absurd (le_refl b) hle

/-- **Whatever the order**, the list has the maximal elements. -/
theorem toFinset_foldl_insertOuter (h : Incomparable l) :
    (as.foldl insertOuter l).toFinset = outermost (l.toFinset ∪ as.toFinset) := by
  induction as generalizing l with
  | nil => rw [List.foldl_nil, List.toFinset_nil, Finset.union_empty, h.outermost_eq]
  | cons a as ih =>
      rw [List.foldl_cons, ih h.insertOuter, toFinset_insertOuter h, outermost_outermost_union,
        List.toFinset_cons, Finset.union_assoc, ← Finset.insert_eq]

theorem length_foldl_insertOuter (h : Incomparable l) :
    (as.foldl insertOuter l).length = (outermost (l.toFinset ∪ as.toFinset)).card := by
  rw [← toFinset_foldl_insertOuter h, List.toFinset_card_of_nodup h.foldl.nodup]

omit [DecidableEq α] in
/-- A list stays as it is where it has an element above every other. -/
theorem foldl_insertOuter_top (h : ∀ a ∈ as, ∃ e ∈ l, a ≤ e) : as.foldl insertOuter l = l := by
  induction as with
  | nil => rfl
  | cons a as ih =>
      rw [List.foldl_cons]
      have hkeep : insertOuter l a = l := if_pos (h a List.mem_cons_self)
      rw [hkeep]
      exact ih fun b hb => h b (List.mem_cons_of_mem a hb)

end MisterMagik.Base
