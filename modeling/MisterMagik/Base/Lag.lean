/-
  File:      MisterMagik/Base/Lag.lean
  Subject:   COPIES THAT LAG BEHIND A SOURCE: which points each copy may still hold wrong.

  A source is changed at sets of points; several copies of it are brought up to date one at a
  time. For each copy the set `owed` collects the points changed since the copy was last
  settled; a copy whose content is lost owes every point. Nothing here knows what a point, a
  copy or a value is.

  * `owed_iff` -- the set, read off the history: a point is owed exactly if the copy was never
    settled, or if something after which it was not settled touched the point or lost the copy;
  * `Coherent` -- a copy agrees with the source outside its owed points; `Coherent.touch` and
    `Coherent.rewrite` say how a change of the source and a new content of one copy move these.
-/
import Mathlib.Data.Set.Basic
import Mathlib.Data.List.Induction

namespace MisterMagik.Base

variable {κ X V : Type*} [DecidableEq κ]

/-- What can happen to the source and its copies. -/
inductive LagOp (κ X : Type*) where
  /-- The source changes at points of `D` only. -/
  | touch (D : Set X)
  /-- Copy `k` is brought up to date. -/
  | settle (k : κ)
  /-- The content of copy `k` is lost. -/
  | lose (k : κ)
  /-- The content of every copy is lost. -/
  | loseAll

namespace LagOp

/-- The points copy `k` owes after one operation, from those it owed before. -/
def apply (k : κ) : LagOp κ X → Set X → Set X
  | touch D, S => S ∪ D
  | settle j, S => if j = k then ∅ else S
  | lose j, S => if j = k then Set.univ else S
  | loseAll, _ => Set.univ

/-- The points at which the operation puts copy `k` out of date. -/
def spoils (k : κ) : LagOp κ X → Set X
  | touch D => D
  | settle _ => ∅
  | lose j => if j = k then Set.univ else ∅
  | loseAll => Set.univ

theorem apply_settle_self (k : κ) (S : Set X) : (settle k : LagOp κ X).apply k S = ∅ := if_pos rfl

theorem apply_eq_of_ne {k : κ} {o : LagOp κ X} (h : ∀ j, o = settle j → j ≠ k) (S : Set X) :
    o.apply k S = S ∪ o.spoils k := by
  cases o with
  | touch D => rfl
  | settle j =>
      have hj : j ≠ k := h j rfl
      simp [apply, spoils, hj]
  | lose j => by_cases hj : j = k <;> simp [apply, spoils, hj]
  | loseAll => simp [apply, spoils]

end LagOp

/-- The points copy `k` owes after a history: every point before the first operation. -/
def owed (k : κ) (ops : List (LagOp κ X)) : Set X :=
  ops.foldl (fun S o => o.apply k S) Set.univ

@[simp] theorem owed_nil (k : κ) : owed k ([] : List (LagOp κ X)) = Set.univ := rfl

@[simp] theorem owed_concat (k : κ) (ops : List (LagOp κ X)) (o : LagOp κ X) :
    owed k (ops ++ [o]) = o.apply k (owed k ops) := by simp [owed]

/-- Some operation spoiled `x` in copy `k`, and the copy was not settled afterwards. -/
def SpoiledSince (k : κ) (ops : List (LagOp κ X)) (x : X) : Prop :=
  ∃ pre o post, ops = pre ++ o :: post ∧ x ∈ o.spoils k ∧ LagOp.settle k ∉ post

theorem spoiledSince_concat {k : κ} {ops : List (LagOp κ X)} {o : LagOp κ X} {x : X} :
    SpoiledSince k (ops ++ [o]) x ↔
      x ∈ o.spoils k ∨ (SpoiledSince k ops x ∧ o ≠ .settle k) := by
  constructor
  · rintro ⟨pre, o', post, h, hx, hn⟩
    rcases List.eq_nil_or_concat post with rfl | ⟨post', a, rfl⟩
    · obtain ⟨-, e⟩ := List.append_inj' h rfl
      obtain rfl : o = o' := by simpa using e
      exact .inl hx
    · rw [List.concat_eq_append] at hn
      have h' : ops ++ [o] = (pre ++ o' :: post') ++ [a] := by simpa using h
      obtain ⟨e, ea⟩ := List.append_inj' h' rfl
      obtain rfl : o = a := by simpa using ea
      simp only [List.mem_append, List.mem_singleton, not_or] at hn
      exact .inr ⟨⟨pre, o', post', e, hx, hn.1⟩, fun e' => hn.2 e'.symm⟩
  · rintro (hx | ⟨⟨pre, o', post, rfl, hx, hn⟩, ho⟩)
    · exact ⟨ops, o, [], rfl, hx, by simp⟩
    · refine ⟨pre, o', post ++ [o], by simp, hx, ?_⟩
      simp only [List.mem_append, List.mem_singleton, not_or]
      exact ⟨hn, fun e => ho e.symm⟩

/-- **What a copy owes, read off the history.** -/
theorem owed_iff (k : κ) (ops : List (LagOp κ X)) (x : X) :
    x ∈ owed k ops ↔ LagOp.settle k ∉ ops ∨ SpoiledSince k ops x := by
  induction ops using List.reverseRecOn with
  | nil => simp
  | append_singleton ops o ih =>
      rw [owed_concat, spoiledSince_concat]
      by_cases ho : o = .settle k
      · subst ho
        rw [LagOp.apply_settle_self]
        simp [LagOp.spoils]
      · have hne : ∀ j, o = .settle j → j ≠ k := fun j e h => ho (h ▸ e)
        rw [LagOp.apply_eq_of_ne hne, Set.mem_union, ih]
        simp only [List.mem_append, List.mem_singleton, Ne.symm ho, or_false]
        tauto

/-! ## Copies that carry values -/

/-- Every copy agrees with the source at each point it does not owe. -/
def Coherent (src : X → V) (copy : κ → X → V) (due : κ → Set X) : Prop :=
  ∀ k x, x ∉ due k → copy k x = src x

section Coherent

variable {src src' : X → V} {copy : κ → X → V} {due due' : κ → Set X}

omit [DecidableEq κ] in
theorem Coherent.mono (h : Coherent src copy due) (hd : ∀ k, due k ⊆ due' k) :
    Coherent src copy due' := fun k x hx => h k x fun hx' => hx (hd k hx')

omit [DecidableEq κ] in
/-- The source moves inside a set that every copy owes from then on. -/
theorem Coherent.touch (h : Coherent src copy due) {D : Set X} (hD : ∀ x, x ∉ D → src' x = src x) :
    Coherent src' copy fun k => due k ∪ D := by
  intro k x hx
  rw [Set.mem_union, not_or] at hx
  rw [hD x hx.2, h k x hx.1]

/-- One copy is rewritten: it owes the points the new content gets wrong, the others are left
    alone. -/
theorem Coherent.rewrite (h : Coherent src copy due) (k : κ) {c : X → V} {S : Set X}
    (hS : ∀ x, x ∉ S → c x = src x) :
    Coherent src (Function.update copy k c) (Function.update due k S) := by
  intro j x hx
  by_cases hj : j = k
  · subst hj
    rw [Function.update_self] at hx ⊢
    exact hS x hx
  · rw [Function.update_of_ne hj] at hx ⊢
    exact h j x hx

end Coherent

end MisterMagik.Base
