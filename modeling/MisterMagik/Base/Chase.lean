/-
  File:      MisterMagik/Base/Chase.lean
  Subject:   Following a partial step until it stops, or comes back to where it was.

  * `Ends`, `Cycles` -- what can become of a point, one or the other among finitely many;
  * `chase` -- the walk that remembers the points it left;
  * `chase_ends_iff`, `chase_cycles_iff` -- what it answers, whatever the fuel beyond enough.
-/
import Mathlib.Data.List.Dedup
import Mathlib.Data.List.Perm.Subperm
import Mathlib.Logic.Relation

namespace MisterMagik.Base.Chase

open Relation

variable {α : Type} (step : α → Option α)

/-! ## 1. Ends and cycles -/

def Steps (x y : α) : Prop := step x = some y

/-- The steps from `x` stop at `y`. -/
def Ends (x y : α) : Prop := ReflTransGen (Steps step) x y ∧ step y = none

/-- The steps from `x` run into a cycle. -/
def Cycles (x : α) : Prop := ∃ y, ReflTransGen (Steps step) x y ∧ TransGen (Steps step) y y

variable {step} {x y z : α}

theorem reach_step (h : step x = some y) (hxz : ReflTransGen (Steps step) x z) :
    x = z ∨ ReflTransGen (Steps step) y z := by
  rcases hxz.cases_head with rfl | ⟨w, hw, hwz⟩
  · exact Or.inl rfl
  · rw [Steps, h, Option.some.injEq] at hw
    exact Or.inr (hw ▸ hwz)

theorem ends_step (h : step x = some y) : Ends step x z ↔ Ends step y z := by
  constructor
  · rintro ⟨hxz, hz⟩
    rcases reach_step h hxz with rfl | hyz
    · rw [h] at hz
      cases hz
    · exact ⟨hyz, hz⟩
  · rintro ⟨hyz, hz⟩
    exact ⟨ReflTransGen.head h hyz, hz⟩

theorem cycles_step (h : step x = some y) : Cycles step x ↔ Cycles step y := by
  constructor
  · rintro ⟨z, hxz, hzz⟩
    rcases reach_step h hxz with rfl | hyz
    · obtain ⟨w, hw, hwx⟩ := TransGen.head'_iff.1 hzz
      rw [Steps, h, Option.some.injEq] at hw
      exact ⟨x, hw ▸ hwx, hzz⟩
    · exact ⟨z, hyz, hzz⟩
  · rintro ⟨z, hyz, hzz⟩
    exact ⟨z, ReflTransGen.head h hyz, hzz⟩

theorem ends_self (h : step x = none) : Ends step x y ↔ x = y := by
  constructor
  · rintro ⟨hxy, _⟩
    rcases hxy.cases_head with rfl | ⟨w, hw, _⟩
    · rfl
    · rw [Steps, h] at hw
      cases hw
  · rintro rfl
    exact ⟨ReflTransGen.refl, h⟩

theorem not_cycles_self (h : step x = none) : ¬Cycles step x := by
  rintro ⟨y, hxy, hyy⟩
  obtain rfl : x = y := (ends_self h).1 ⟨hxy, by
    rcases hxy.cases_head with rfl | ⟨w, hw, _⟩
    · exact h
    · rw [Steps, h] at hw
      cases hw⟩
  obtain ⟨w, hw, _⟩ := TransGen.head'_iff.1 hyy
  rw [Steps, h] at hw
  cases hw

theorem not_cycles_of_ends (h : Ends step x y) : ¬Cycles step x := by
  obtain ⟨hxy, hy⟩ := h
  induction hxy using ReflTransGen.head_induction_on with
  | refl => exact not_cycles_self hy
  | head hxz _ ih => exact fun hcycles => ih ((cycles_step hxz).1 hcycles)

theorem ends_unique (h : Ends step x y) (h' : Ends step x z) : y = z := by
  obtain ⟨hxy, hy⟩ := h
  induction hxy using ReflTransGen.head_induction_on with
  | refl => exact (ends_self hy).1 h'
  | head hxw _ ih => exact ih ((ends_step hxw).1 h')

/-! ## 2. The walk -/

variable [DecidableEq α]

/-- The walk from `x`, having left the points of `seen`: without fuel nothing, on a point it left
before `some none`, and else where the steps stop. -/
def chase (step : α → Option α) : Nat → List α → α → Option (Option α)
  | 0, _, _ => none
  | fuel + 1, seen, x =>
      match step x with
      | none => some (some x)
      | some y => if x ∈ seen then some none else chase step fuel (x :: seen) y

variable {nodes seen : List α} {fuel : Nat}

/-- **Among the points of a list the walk answers before it is out of fuel.** -/
theorem chase_answers (hclosed : ∀ x ∈ nodes, ∀ y, step x = some y → y ∈ nodes) (hx : x ∈ nodes)
    (hnodup : seen.Nodup) (hseen : ∀ z ∈ seen, z ∈ nodes ∧ TransGen (Steps step) z x)
    (hfuel : nodes.length < fuel + seen.length) :
    (∃ y, chase step fuel seen x = some (some y) ∧ Ends step x y) ∨
      (chase step fuel seen x = some none ∧ Cycles step x) := by
  induction fuel generalizing seen x with
  | zero =>
      have hle := (hnodup.subperm fun z hz => (hseen z hz).1).length_le
      omega
  | succ fuel ih =>
      unfold chase
      cases hstep : step x with
      | none => exact Or.inl ⟨x, rfl, (ends_self hstep).2 rfl⟩
      | some y =>
          dsimp only
          by_cases hmem : x ∈ seen
          · rw [if_pos hmem]
            exact Or.inr ⟨rfl, x, ReflTransGen.refl, (hseen x hmem).2⟩
          · simp only [if_neg hmem, ends_step hstep, cycles_step hstep]
            refine ih (hclosed x hx y hstep) (List.nodup_cons.2 ⟨hmem, hnodup⟩) ?_ ?_
            · intro z hz
              rcases List.mem_cons.1 hz with rfl | hz
              · exact ⟨hx, TransGen.single hstep⟩
              · exact ⟨(hseen z hz).1, (hseen z hz).2.tail hstep⟩
            · rw [List.length_cons]
              omega

section Answers

variable (hclosed : ∀ x ∈ nodes, ∀ y, step x = some y → y ∈ nodes) (hx : x ∈ nodes)
  (hfuel : nodes.length < fuel)
include hclosed hx hfuel

theorem chase_from : (∃ y, chase step fuel [] x = some (some y) ∧ Ends step x y) ∨
    (chase step fuel [] x = some none ∧ Cycles step x) :=
  chase_answers hclosed hx List.nodup_nil (fun _ h => absurd h List.not_mem_nil) hfuel

theorem chase_ends_iff : chase step fuel [] x = some (some y) ↔ Ends step x y := by
  rcases chase_from hclosed hx hfuel with ⟨z, hz, hends⟩ | ⟨hz, hcycles⟩
  · rw [hz, Option.some.injEq, Option.some.injEq]
    exact ⟨fun h => h ▸ hends, ends_unique hends⟩
  · rw [hz]
    exact ⟨fun h => (by cases h), fun h => absurd hcycles (not_cycles_of_ends h)⟩

theorem chase_cycles_iff : chase step fuel [] x = some none ↔ Cycles step x := by
  rcases chase_from hclosed hx hfuel with ⟨z, hz, hends⟩ | ⟨hz, hcycles⟩
  · rw [hz]
    exact ⟨fun h => (by cases h), fun h => absurd h (not_cycles_of_ends hends)⟩
  · exact ⟨fun _ => hcycles, fun _ => hz⟩

end Answers

end MisterMagik.Base.Chase
