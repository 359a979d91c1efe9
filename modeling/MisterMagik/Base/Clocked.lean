/-
  File:      MisterMagik/Base/Clocked.lean
  Subject:   CLOCKED MACHINES: a state, an input at every clock cycle, and what a register that is
             set by some cycles and cleared by others says about the past.

  * `exists_last_set` -- a register that holds now was set by a last cycle, and nothing cleared it
    or set it again in between;
  * `eq_of_unchanged` -- a value no cycle in between changes is the one the last change left.
-/
import Mathlib.Logic.Basic

namespace MisterMagik.Base.Clocked

variable {S I : Type*}

/-- The states of a run: the one of cycle `n` is that before its clock edge. -/
def run (next : S → I → S) (reset : S) (input : Nat → I) : Nat → S
  | 0 => reset
  | n + 1 => next (run next reset input n) (input n)

variable {next : S → I → S} {reset : S} {input : Nat → I}

@[simp] theorem run_zero : run next reset input 0 = reset := rfl

/-- **The last cycle that set a register**: `p` tells whether the register holds. -/
theorem exists_last_set (p set keep : Nat → Prop) (h0 : ¬ p 0)
    (hstep : ∀ n, p (n + 1) → set n ∨ (p n ∧ keep n)) {n : Nat} (hn : p n) :
    ∃ m, m < n ∧ set m ∧ ∀ j, m < j → j < n → p j ∧ keep j ∧ ¬ set j := by
  induction n with
  | zero => exact absurd hn h0
  | succ n ih =>
      by_cases hs : set n
      · exact ⟨n, Nat.lt_succ_self n, hs, fun j h1 h2 => by omega⟩
      · obtain ⟨hp, hk⟩ := (hstep n hn).resolve_left hs
        obtain ⟨m, hm, hset, hb⟩ := ih hp
        refine ⟨m, Nat.lt_succ_of_lt hm, hset, fun j h1 h2 => ?_⟩
        rcases Nat.lt_succ_iff_lt_or_eq.mp h2 with h2 | rfl
        · exact hb j h1 h2
        · exact ⟨hp, hk, hs⟩

theorem eq_of_unchanged {V : Type*} {v : Nat → V} {m n : Nat} (hmn : m ≤ n)
    (h : ∀ j, m ≤ j → j < n → v (j + 1) = v j) : v n = v m := by
  induction hmn with
  | refl => rfl
  | step hn ih => rw [h _ hn (Nat.lt_succ_self _), ih fun j h1 h2 => h j h1 (Nat.lt_succ_of_lt h2)]

end MisterMagik.Base.Clocked
