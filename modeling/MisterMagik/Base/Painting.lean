/-
  File:      MisterMagik/Base/Painting.lean
  Subject:   BUFFERS THAT ARE WRITTEN CELL BY CELL, in loops of any nesting.

  A canvas says which cells may be written, where a cell stands in the buffer and what belongs
  there. `Painted` is the state of a loop: the cells of a set are written, everything else is as it
  was. A loop over parts paints the union of its parts, so that nested loops compose.

  * `Painted.write`, `Painted.overwrite` -- one cell, and a run of adjacent cells;
  * `Painted.foldlM_state`, `Painted.foldlM` -- loops;
  * `Painted.unique` -- a buffer with the same cells painted is the same buffer;
  * `onto`, `Painted.atop` -- a buffer as a canvas of its own, and one painting over another.
-/
import MisterMagik.Base.Bytes

namespace MisterMagik.Base

/-! ## 1. Canvases -/

/-- A buffer with places for cells. Cells of one place have one value. -/
structure Canvas (K P : Type) where
  before : List P
  cells : K → Prop
  offset : K → Nat
  value : K → P
  inside : ∀ k, cells k → offset k < before.length
  agree : ∀ k k', cells k → cells k' → offset k = offset k' → value k = value k'

/-- `buffer[offset] = value`; out of range it panics. -/
def writeAt {P : Type} (buffer : List P) (offset : Nat) (value : P) : Option (List P) :=
  if offset < buffer.length then some (buffer.set offset value) else none

namespace Canvas

variable {K P ι : Type} {c : Canvas K P} {S S' : K → Prop} {now after : List P}

/-- The cells of a set are written. -/
structure Painted (c : Canvas K P) (S : K → Prop) (now : List P) : Prop where
  within : ∀ k, S k → c.cells k
  length : now.length = c.before.length
  painted : ∀ k, S k → now[c.offset k]? = some (c.value k)
  kept : ∀ o, (∀ k, S k → c.offset k ≠ o) → now[o]? = c.before[o]?

namespace Painted

theorem nothing (c : Canvas K P) : c.Painted (fun _ => False) c.before :=
  ⟨fun _ h => h.elim, rfl, fun _ h => h.elim, fun _ _ => rfl⟩

theorem congr (h : c.Painted S now) (hS : ∀ k, S' k ↔ S k) : c.Painted S' now where
  within k hk := h.within k ((hS k).mp hk)
  length := h.length
  painted k hk := h.painted k ((hS k).mp hk)
  kept o ho := h.kept o fun k hk => ho k ((hS k).mpr hk)

/-- What one place reads: the value of a painted cell there, or what was there before. -/
theorem unique (h : c.Painted S now) (h' : c.Painted S after) : now = after := by
  apply List.ext_getElem?
  intro o
  by_cases hS : ∃ k, S k ∧ c.offset k = o
  · obtain ⟨k, hk, rfl⟩ := hS
    rw [h.painted k hk, h'.painted k hk]
  · have hne : ∀ k, S k → c.offset k ≠ o := fun k hk he => hS ⟨k, hk, he⟩
    rw [h.kept o hne, h'.kept o hne]

/-! ## 2. Writes -/

theorem write (h : c.Painted S now) {k : K} (hk : c.cells k) :
    c.Painted (fun k' => S k' ∨ k' = k) (now.set (c.offset k) (c.value k)) where
  within k' := by
    rintro (hS | rfl)
    · exact h.within k' hS
    · exact hk
  length := by rw [List.length_set, h.length]
  painted k' hk' := by
    have hlt : c.offset k < now.length := h.length ▸ c.inside k hk
    rw [List.getElem?_set]
    by_cases he : c.offset k = c.offset k'
    · rw [if_pos he, if_pos hlt]
      obtain hS | rfl := hk'
      · rw [c.agree k k' hk (h.within k' hS) he]
      · rfl
    · rw [if_neg he]
      obtain hS | rfl := hk'
      · exact h.painted k' hS
      · exact absurd rfl he
  kept o ho := by
    rw [List.getElem?_set_ne (ho k (.inr rfl))]
    exact h.kept o fun k' hS => ho k' (.inl hS)

theorem writeAt (h : c.Painted S now) {k : K} (hk : c.cells k) :
    ∃ after, Base.writeAt now (c.offset k) (c.value k) = some after ∧
      c.Painted (fun k' => S k' ∨ k' = k) after :=
  ⟨_, if_pos (h.length ▸ c.inside k hk), h.write hk⟩

/-- Adjacent cells, written at once. -/
theorem overwrite (h : c.Painted S now) {start n : Nat} (part : List P) (cell : Nat → K)
    (hlen : part.length = n) (hcell : ∀ j, j < n → c.cells (cell j))
    (hoffset : ∀ j, j < n → c.offset (cell j) = start + j)
    (hvalue : ∀ j, j < n → part[j]? = some (c.value (cell j))) (hfits : start + n ≤ now.length) :
    c.Painted (fun k => S k ∨ ∃ j, j < n ∧ k = cell j) (Base.overwrite now start part) where
  within k := by
    rintro (hS | ⟨j, hj, rfl⟩)
    · exact h.within k hS
    · exact hcell j hj
  length := by rw [length_overwrite (hlen ▸ hfits), h.length]
  painted k hk := by
    have hk' : c.cells k := by
      obtain hS | ⟨j, hj, rfl⟩ := hk
      · exact h.within k hS
      · exact hcell j hj
    rw [getElem?_overwrite (hlen ▸ hfits), hlen]
    split
    · rename_i hin
      have hoff := hoffset (c.offset k - start) (by omega)
      rw [hvalue _ (by omega), c.agree _ k (hcell _ (by omega)) hk' (by omega)]
    · rename_i hout
      obtain hS | ⟨j, hj, rfl⟩ := hk
      · exact h.painted k hS
      · exact absurd (hoffset j hj) (by omega)
  kept o ho := by
    rw [getElem?_overwrite (hlen ▸ hfits), hlen]
    split
    · rename_i hin
      have hoff := hoffset (o - start) (by omega)
      exact absurd hoff (by
        have hne := ho (cell (o - start)) (.inr ⟨o - start, by omega, rfl⟩)
        omega)
    · exact h.kept o fun k hS => ho k (.inl hS)

/-! ## 3. Loops -/

/-- Parts painted one after the other, in a state that holds the buffer. -/
theorem foldlM_state {σ : Type} (view : σ → List P) (Keep : σ → Prop) {l : List ι}
    {f : σ → ι → Option σ} (part : ι → K → Prop) (hpart : ∀ k, S' k ↔ ∃ i ∈ l, part i k)
    (hstep : ∀ i ∈ l, ∀ S s, Keep s → c.Painted S (view s) →
      ∃ s', f s i = some s' ∧ Keep s' ∧ c.Painted (fun k => S k ∨ part i k) (view s'))
    {s : σ} (hkeep : Keep s) (h : c.Painted S (view s)) :
    ∃ s', l.foldlM f s = some s' ∧ Keep s' ∧ c.Painted (fun k => S k ∨ S' k) (view s') := by
  simp only [hpart]
  clear hpart
  induction l generalizing S s with
  | nil => exact ⟨s, rfl, hkeep, h.congr fun k => by simp⟩
  | cons i l ih =>
      obtain ⟨next, hf, hnext, hpaint⟩ := hstep i List.mem_cons_self S s hkeep h
      obtain ⟨s', hfold, hkeep', hafter⟩ :=
        ih (fun j hj => hstep j (List.mem_cons_of_mem _ hj)) hnext hpaint
      refine ⟨s', ?_, hkeep', hafter.congr fun k => ?_⟩
      · rw [List.foldlM_cons, hf]
        exact hfold
      · simp only [List.mem_cons, exists_eq_or_imp, or_assoc]

/-- Parts painted one after the other. -/
theorem foldlM {l : List ι} {f : List P → ι → Option (List P)} (part : ι → K → Prop)
    (hpart : ∀ k, S' k ↔ ∃ i ∈ l, part i k)
    (hstep : ∀ i ∈ l, ∀ S now, c.Painted S now →
      ∃ after, f now i = some after ∧ c.Painted (fun k => S k ∨ part i k) after)
    (h : c.Painted S now) :
    ∃ after, l.foldlM f now = some after ∧ c.Painted (fun k => S k ∨ S' k) after := by
  have hkept : ∀ i ∈ l, ∀ S now, True → c.Painted S (id now) →
      ∃ after, f now i = some after ∧ True ∧ c.Painted (fun k => S k ∨ part i k) (id after) := by
    intro i hi S now _ hnow
    obtain ⟨after, hf, hafter⟩ := hstep i hi S now hnow
    exact ⟨after, hf, trivial, hafter⟩
  obtain ⟨after, hfold, -, hafter⟩ := foldlM_state id (fun _ => True) part hpart hkept trivial h
  exact ⟨after, hfold, hafter⟩

end Painted

/-! ## 4. A buffer painted over -/

/-- Every place of the buffer is a cell. -/
def onto (before : List P) (value : Nat → P) : Canvas Nat P where
  before := before
  cells o := o < before.length
  offset o := o
  value := value
  inside _ h := h
  agree _ _ _ _ h := congrArg value h

namespace Painted

variable {before : List P} {value value' seen : Nat → P} {T T' : Nat → Prop} {o : Nat}

theorem at_painted (h : (onto before value).Painted T now) (ho : T o) :
    now[o]? = some (value o) := h.painted o ho

theorem at_kept (h : (onto before value).Painted T now) (ho : ¬ T o) : now[o]? = before[o]? :=
  h.kept o fun _ hk he => ho (he ▸ hk)

/-- What is painted last is seen. -/
theorem atop (h : (onto before value).Painted T now) (h' : (onto now value').Painted T' after)
    (hlast : ∀ o, T' o → value' o = seen o) (hfirst : ∀ o, T o → ¬ T' o → value o = seen o) :
    (onto before seen).Painted (fun o => T o ∨ T' o) after where
  within o := by
    rintro (ho | ho)
    · exact h.within o ho
    · exact Nat.lt_of_lt_of_eq (h'.within o ho) h.length
  length := h'.length.trans h.length
  painted o ho := by
    show after[o]? = some (seen o)
    by_cases hT' : T' o
    · rw [h'.at_painted hT', hlast o hT']
    · have hT : T o := ho.resolve_right hT'
      rw [h'.at_kept hT', h.at_painted hT, hfirst o hT hT']
  kept o ho := by
    have hT : ¬ T o := fun hT => ho o (.inl hT) rfl
    have hT' : ¬ T' o := fun hT' => ho o (.inr hT') rfl
    exact (h'.at_kept hT').trans (h.at_kept hT)

/-- A run of places, written at once. -/
theorem run {start n : Nat} {part : List P} (hlen : part.length = n)
    (hvalue : ∀ j, j < n → part[j]? = some (value (start + j)))
    (hfits : start + n ≤ before.length) :
    (onto before value).Painted (fun o => start ≤ o ∧ o < start + n)
      (Base.overwrite before start part) := by
  have hrun := (nothing (onto before value)).overwrite part (fun j => start + j) hlen
    (fun j hj => show start + j < before.length by omega) (fun _ _ => rfl) hvalue hfits
  refine hrun.congr fun o => ⟨fun ho => .inr ⟨o - start, by omega, by omega⟩, ?_⟩
  rintro (ho | ⟨j, hj, rfl⟩)
  · exact ho.elim
  · exact ⟨by omega, by omega⟩

/-- Paintings one over the other, all of one picture. -/
theorem foldlM_onto {l : List ι} {f : List P → ι → Option (List P)} (part : ι → Nat → Prop)
    (hstep : ∀ i ∈ l, ∀ now, now.length = before.length →
      ∃ after, f now i = some after ∧ (onto now value).Painted (part i) after) :
    ∃ after, l.foldlM f before = some after ∧
      (onto before value).Painted (fun o => ∃ i ∈ l, part i o) after := by
  obtain ⟨after, hfold, hafter⟩ := (nothing (onto before value)).foldlM
    part (fun _ => Iff.rfl)
    (fun i hi S now hnow => by
      obtain ⟨after, hf, hpart⟩ := hstep i hi now hnow.length
      exact ⟨after, hf, hnow.atop hpart (fun _ _ => rfl) fun _ _ _ => rfl⟩)
  exact ⟨after, hfold, hafter.congr fun o => ⟨.inr, fun ho => ho.resolve_left id⟩⟩

end Painted

end Canvas

end MisterMagik.Base
