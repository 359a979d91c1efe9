/-
  File:      MisterMagik/Base/Machine.lean
  Subject:   MACHINES WITH LABELLED STEPS, their runs and their invariants.

  A machine says where it may start and what a step with a label may do. A run keeps its labels,
  the earliest first, so that a statement can speak about what happened between two states.

  * `Run.cut`, `Run.unique` -- the states on the way; one run for its labels where steps are
    determined;
  * `Run.invariant`, `Reachable.invariant` -- what every step keeps holds after every run;
  * `guard` -- the steps that meet a condition on the state before them and their label;
  * `ofNext`, `Along` -- machines whose steps are a function, and their runs.
-/
import Mathlib.Data.List.Induction

namespace MisterMagik.Base

/-! ## 1. Runs -/

structure Machine (S A : Type) where
  init : S → Prop
  step : S → A → S → Prop

namespace Machine

variable {S A : Type} {M : Machine S A} {s t u : S} {a : A} {as bs : List A}

/-- The runs from a state, with their labels. -/
inductive Run (M : Machine S A) (s : S) : List A → S → Prop where
  | nil : Run M s [] s
  | snoc {as : List A} {a : A} {t u : S} (h : Run M s as t) (hs : M.step t a u) :
      Run M s (as ++ [a]) u

def Reachable (M : Machine S A) (s : S) : Prop := ∃ s₀ as, M.init s₀ ∧ M.Run s₀ as s

theorem Run.one (h : M.step s a t) : M.Run s [a] t := .snoc .nil h

theorem Run.append (h : M.Run s as t) (h' : M.Run t bs u) : M.Run s (as ++ bs) u := by
  induction h' with
  | nil => rwa [List.append_nil]
  | snoc _ hs ih =>
      rw [← List.append_assoc]
      exact ih.snoc hs

theorem Run.snoc_inv (h : M.Run s (as ++ [a]) u) : ∃ t, M.Run s as t ∧ M.step t a u := by
  generalize e : as ++ [a] = bs at h
  cases h with
  | nil => exact absurd e (by simp)
  | snoc h hs =>
      obtain ⟨rfl, hlast⟩ := List.append_inj' e rfl
      obtain ⟨rfl, -⟩ := List.cons.inj hlast
      exact ⟨_, h, hs⟩

/-- A run passes through a state wherever its labels are cut. -/
theorem Run.cut (h : M.Run s (as ++ bs) u) : ∃ t, M.Run s as t ∧ M.Run t bs u := by
  induction bs using List.reverseRecOn generalizing u with
  | nil =>
      rw [List.append_nil] at h
      exact ⟨u, h, .nil⟩
  | append_singleton bs b ih =>
      rw [← List.append_assoc] at h
      obtain ⟨v, hv, hstep⟩ := h.snoc_inv
      obtain ⟨t, ht, htv⟩ := ih hv
      exact ⟨t, ht, htv.snoc hstep⟩

/-- A label leads to one state at most. -/
def Deterministic (M : Machine S A) : Prop := ∀ ⦃s a t u⦄, M.step s a t → M.step s a u → t = u

theorem Run.unique (hM : M.Deterministic) (h : M.Run s as t) (h' : M.Run s as u) : t = u := by
  induction as using List.reverseRecOn generalizing t u with
  | nil =>
      have hnil : ∀ {v}, M.Run s [] v → v = s := by
        intro v hv
        generalize e : ([] : List A) = bs at hv
        cases hv with
        | nil => rfl
        | snoc _ _ => exact absurd e.symm (by simp)
      rw [hnil h, hnil h']
  | append_singleton as a ih =>
      obtain ⟨v, hv, hstep⟩ := h.snoc_inv
      obtain ⟨v', hv', hstep'⟩ := h'.snoc_inv
      obtain rfl := ih hv hv'
      exact hM hstep hstep'

/-! ## 2. Invariants -/

/-- What every step keeps, every run keeps. -/
theorem Run.invariant {P : S → Prop} (hstep : ∀ s a t, P s → M.step s a t → P t)
    (h : M.Run s as t) (hs : P s) : P t := by
  induction h with
  | nil => exact hs
  | snoc _ hstep' ih => exact hstep _ _ _ ih hstep'

theorem Reachable.invariant {P : S → Prop} (hinit : ∀ s, M.init s → P s)
    (hstep : ∀ s a t, P s → M.step s a t → P t) (h : M.Reachable s) : P s := by
  obtain ⟨s₀, as, h₀, hr⟩ := h
  exact hr.invariant hstep (hinit s₀ h₀)

theorem Reachable.run (h : M.Reachable s) (hr : M.Run s as t) : M.Reachable t := by
  obtain ⟨s₀, bs, h₀, hr'⟩ := h
  exact ⟨s₀, bs ++ as, h₀, hr'.append hr⟩

/-! ## 3. Guards -/

/-- The machine with the steps only that meet a condition. -/
def guard (M : Machine S A) (C : S → A → Prop) : Machine S A where
  init := M.init
  step s a t := C s a ∧ M.step s a t

theorem Run.unguard {C : S → A → Prop} (h : (M.guard C).Run s as t) : M.Run s as t := by
  induction h with
  | nil => exact .nil
  | snoc _ hs ih => exact ih.snoc hs.2

/-! ## 4. Machines whose steps are a function -/

/-- The machine of a function that says what a step does. -/
def ofNext (init : S → Prop) (next : S → A → S) : Machine S A where
  init := init
  step s a t := t = next s a

/-- A condition on every step of a list. -/
def Along (C : S → A → Prop) (next : S → A → S) : S → List A → Prop
  | _, [] => True
  | s, a :: as => C s a ∧ Along C next (next s a) as

instance instDecidableAlong (C : S → A → Prop) (next : S → A → S) [∀ s a, Decidable (C s a)] :
    (s : S) → (as : List A) → Decidable (Along C next s as)
  | _, [] => inferInstanceAs (Decidable True)
  | s, a :: as =>
      have := instDecidableAlong C next (next s a) as
      inferInstanceAs (Decidable (_ ∧ _))

theorem run_foldl {init : S → Prop} {next : S → A → S} (s : S) (as : List A) :
    (ofNext init next).Run s as (as.foldl next s) := by
  induction as using List.reverseRecOn with
  | nil => exact .nil
  | append_singleton as a ih =>
      rw [List.foldl_append]
      exact ih.snoc rfl

theorem run_ofNext {init : S → Prop} {C : S → A → Prop} {next : S → A → S}
    (h : Along C next s as) : ((ofNext init next).guard C).Run s as (as.foldl next s) := by
  induction as generalizing s with
  | nil => exact .nil
  | cons a as ih =>
      obtain ⟨ha, h⟩ := h
      have hone : ((ofNext init next).guard C).Run s [a] (next s a) := .one ⟨ha, rfl⟩
      exact hone.append (ih h)

end Machine

end MisterMagik.Base
