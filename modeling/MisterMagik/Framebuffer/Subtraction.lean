/-
  File:      MisterMagik/Framebuffer/Subtraction.lean
  Subject:   `subtract_dirty_rects` against a subtraction without a capacity
             (`framebuffer/damage.rs`).

  `cutThrough` takes one cut out of a list of rectangles of any length. The source does the same
  with lists of `DIRTY_RECT_LIST_CAP` entries, and gives the whole subtraction up when one of them
  does not hold the pieces.

  * `subtractLoop_spec` -- while the pieces fit, the loop is `cutThrough` cut by cut; otherwise its
    result is the list it started from;
  * `subtract_dirty_rects_exact` -- so the pixels are the right ones, and what was disjoint stays
    so.
-/
import MisterMagik.Framebuffer.Damage

namespace MisterMagik.Framebuffer

/-! ## 1. Subtraction without a capacity -/

/-- No pixel is in both. -/
def DirtyRect.Apart (r s : DirtyRect) : Prop := ∀ p, r.Mem p → ¬ s.Mem p

/-- What a cut leaves of one rectangle. -/
def remnants (cut rect : DirtyRect) : List DirtyRect :=
  match rect.intersection cut with
  | none => [rect]
  | some overlap => subtractRectPieces rect overlap

/-- What a cut leaves of a list. -/
def cutThrough (rects : List DirtyRect) (cut : DirtyRect) : List DirtyRect :=
  rects.flatMap (remnants cut)

/-- After no cut are there more rectangles than a list can hold. -/
def Fits (rects cuts : List DirtyRect) : Prop :=
  ∀ n ≤ cuts.length, ((cuts.take n).foldl cutThrough rects).length ≤ DIRTY_RECT_LIST_CAP

namespace DirtyRect

variable {r s : DirtyRect}

theorem Apart.symm (h : r.Apart s) : s.Apart r := fun p hs hr => h p hr hs

theorem apart_of_x (h : r.x1 ≤ s.x0) : r.Apart s := by
  intro p hr hs
  unfold Mem at hr hs
  omega

theorem apart_of_y (h : r.y1 ≤ s.y0) : r.Apart s := by
  intro p hr hs
  unfold Mem at hr hs
  omega

end DirtyRect

theorem mem_remnants {cut rect : DirtyRect} {p : Pixel} :
    (∃ r ∈ remnants cut rect, r.Mem p) ↔ rect.Mem p ∧ ¬ cut.Mem p := by
  unfold remnants
  cases h : rect.intersection cut with
  | none =>
      have := fun hp : rect.Mem p => DirtyRect.not_mem_of_intersection_eq_none h hp
      simp only [List.mem_singleton, exists_eq_left]
      tauto
  | some overlap => exact mem_subtractRectPieces h p

/-- The bands above and below have no row in common with the pieces beside the overlap, which lie
    left and right of it. -/
theorem pairwise_remnants (cut rect : DirtyRect) :
    (remnants cut rect).Pairwise DirtyRect.Apart := by
  unfold remnants
  cases h : rect.intersection cut with
  | none => exact List.pairwise_singleton _ _
  | some overlap =>
      have ho := DirtyRect.intersection_eq_some_iff.1 h
      have hx : overlap.x0 ≤ overlap.x1 := by omega
      have hy : overlap.y0 ≤ overlap.y1 := by omega
      simp only [subtractRectPieces, List.pairwise_append, List.mem_append,
        List.mem_ite_nil_right, List.mem_singleton]
      refine ⟨⟨⟨?_, ?_, ?_⟩, ?_, ?_⟩, ?_, ?_⟩
      · split <;> simp
      · split <;> simp
      · rintro a ⟨-, rfl⟩ b ⟨-, rfl⟩
        exact DirtyRect.apart_of_y hy
      · split <;> simp
      · rintro a (⟨-, rfl⟩ | ⟨-, rfl⟩) b ⟨-, rfl⟩
        · exact DirtyRect.apart_of_y (Nat.le_refl _)
        · exact (DirtyRect.apart_of_y (Nat.le_refl _)).symm
      · split <;> simp
      · rintro a ((⟨-, rfl⟩ | ⟨-, rfl⟩) | ⟨-, rfl⟩) b ⟨-, rfl⟩
        · exact DirtyRect.apart_of_y (Nat.le_refl _)
        · exact (DirtyRect.apart_of_y (Nat.le_refl _)).symm
        · exact DirtyRect.apart_of_x hx

section CutThrough

variable {rects cuts : List DirtyRect} {cut : DirtyRect} {p : Pixel}

theorem mem_cutThrough :
    (∃ r ∈ cutThrough rects cut, r.Mem p) ↔ (∃ r ∈ rects, r.Mem p) ∧ ¬ cut.Mem p := by
  unfold cutThrough
  constructor
  · rintro ⟨r, hr, hp⟩
    obtain ⟨rect, hrect, hr⟩ := List.mem_flatMap.1 hr
    obtain ⟨hin, hout⟩ := mem_remnants.1 ⟨r, hr, hp⟩
    exact ⟨⟨rect, hrect, hin⟩, hout⟩
  · rintro ⟨⟨rect, hrect, hin⟩, hout⟩
    obtain ⟨r, hr, hp⟩ := mem_remnants.2 ⟨hin, hout⟩
    exact ⟨r, List.mem_flatMap.2 ⟨rect, hrect, hr⟩, hp⟩

theorem mem_foldl_cutThrough :
    (∃ r ∈ cuts.foldl cutThrough rects, r.Mem p) ↔
      (∃ r ∈ rects, r.Mem p) ∧ ∀ cut ∈ cuts, ¬ cut.Mem p := by
  induction cuts generalizing rects with
  | nil => simp
  | cons cut cuts ih =>
      rw [List.foldl_cons, ih, mem_cutThrough, List.forall_mem_cons, and_assoc]

theorem pairwise_cutThrough (h : rects.Pairwise DirtyRect.Apart) :
    (cutThrough rects cut).Pairwise DirtyRect.Apart := by
  unfold cutThrough
  rw [List.pairwise_flatMap]
  refine ⟨fun rect _ => pairwise_remnants cut rect, h.imp fun hab r hr s hs p hrp hsp => ?_⟩
  exact hab p (mem_remnants.1 ⟨r, hr, hrp⟩).1 (mem_remnants.1 ⟨s, hs, hsp⟩).1

theorem pairwise_foldl_cutThrough (h : rects.Pairwise DirtyRect.Apart) :
    (cuts.foldl cutThrough rects).Pairwise DirtyRect.Apart := by
  induction cuts generalizing rects with
  | nil => exact h
  | cons cut cuts ih => exact ih (pairwise_cutThrough h)

@[simp] theorem foldl_cutThrough_nil : cuts.foldl cutThrough [] = [] := by
  induction cuts with
  | nil => rfl
  | cons cut cuts ih => exact ih

theorem fits_nil : Fits [] cuts := by
  intro n _
  rw [foldl_cutThrough_nil]
  exact Nat.zero_le _

theorem fits_cons (hlen : rects.length ≤ DIRTY_RECT_LIST_CAP) :
    Fits rects (cut :: cuts) ↔ Fits (cutThrough rects cut) cuts := by
  constructor
  · intro h n hn
    exact h (n + 1) (Nat.succ_le_succ hn)
  · intro h n hn
    cases n with
    | zero => exact hlen
    | succ n => exact h n (Nat.le_of_succ_le_succ hn)

end CutThrough

/-! ## 2. The loop of the source -/

theorem subtractRectInto_eq (cut : DirtyRect) (out : DirtyRectList) (rect : DirtyRect) :
    subtractRectInto cut out rect = (remnants cut rect).foldlM DirtyRectList.tryPush out := by
  unfold subtractRectInto remnants
  cases rect.intersection cut with
  | none => simp
  | some overlap => rfl

theorem foldlM_subtractRectInto (cut : DirtyRect) (rects : List DirtyRect) (out : DirtyRectList) :
    rects.foldlM (subtractRectInto cut) out =
      (cutThrough rects cut).foldlM DirtyRectList.tryPush out := by
  unfold cutThrough
  induction rects generalizing out with
  | nil => rfl
  | cons rect rects ih =>
      rw [List.foldlM_cons, List.flatMap_cons, List.foldlM_append, subtractRectInto_eq]
      simp only [ih]

namespace DirtyRectList

theorem len_of_tryPush {l l' : DirtyRectList} {rect : DirtyRect} (h : l.tryPush rect = some l') :
    l'.len = l.len + 1 := by
  have := congrArg List.length (iter_of_tryPush h)
  simpa using this

/-- Entries are pushed as long as there is room. -/
theorem foldlM_tryPush_eq_none_iff {rects : List DirtyRect} {l : DirtyRectList} :
    rects.foldlM tryPush l = none ↔ DIRTY_RECT_LIST_CAP < l.len + rects.length := by
  have hcap := l.len_le
  induction rects generalizing l with
  | nil =>
      simp only [List.foldlM_nil, List.length_nil]
      exact iff_of_false (by simp) (by omega)
  | cons rect rects ih =>
      rw [List.foldlM_cons, List.length_cons]
      cases hpush : l.tryPush rect with
      | none =>
          have hfull := tryPush_eq_none_iff.1 hpush
          exact iff_of_true rfl (by omega)
      | some l' =>
          have hlen := len_of_tryPush hpush
          exact (ih l'.len_le).trans (by omega)

end DirtyRectList

/-- **The loop is subtraction without a capacity, or gives back its input**: `next` is the scratch
    list, and the way out at an empty list changes nothing. -/
theorem subtractLoop_spec (original : DirtyRectList) (cuts : List DirtyRect)
    (current next : DirtyRectList) :
    (Fits current.iter cuts →
      (subtractLoop original cuts current next).iter = cuts.foldl cutThrough current.iter) ∧
    (¬ Fits current.iter cuts → subtractLoop original cuts current next = original) := by
  induction cuts generalizing current next with
  | nil =>
      refine ⟨fun _ => rfl, fun h => absurd (fun n hn => ?_) h⟩
      rw [List.take_nil, List.foldl_nil, DirtyRectList.length_iter]
      exact current.len_le
  | cons cut cuts ih =>
      have hlen : current.iter.length ≤ DIRTY_RECT_LIST_CAP := by
        rw [DirtyRectList.length_iter]
        exact current.len_le
      rw [fits_cons hlen]
      unfold subtractLoop
      rw [foldlM_subtractRectInto]
      cases hpush : (cutThrough current.iter cut).foldlM DirtyRectList.tryPush next.clear with
      | none =>
          have hroom := DirtyRectList.foldlM_tryPush_eq_none_iff.1 hpush
          refine ⟨fun h => absurd (h 0 (Nat.zero_le _)) ?_, fun _ => rfl⟩
          have hclear : next.clear.len = 0 := rfl
          rw [List.take_zero, List.foldl_nil]
          omega
      | some cutted =>
          have hiter : cutted.iter = cutThrough current.iter cut := by
            rw [DirtyRectList.iter_of_foldlM_tryPush hpush, DirtyRectList.iter_clear,
              List.nil_append]
          dsimp only
          rw [← hiter]
          split
          · rename_i hempty
            have hnil : cutted.iter = [] := by
              rw [← List.length_eq_zero_iff, DirtyRectList.length_iter]
              exact beq_iff_eq.1 hempty
            refine ⟨fun _ => ?_, fun h => absurd (hnil ▸ fits_nil) h⟩
            rw [List.foldl_cons, ← hiter, hnil, foldl_cutThrough_nil]
          · rw [List.foldl_cons, ← hiter]
            exact ih cutted current

/-! ## 3. The subtraction -/

/-- **Subtraction is exact**: the result covers every pixel of `rects` outside `cuts` and no pixel
    outside `rects`; while the pieces fit it covers exactly the difference and shares no pixel with
    a cut, and when they do not it is `rects` itself; rectangles without a common pixel stay so. -/
theorem subtract_dirty_rects_exact (rects cuts : DirtyRectList) :
    (∀ p, rects.Covers p → ¬ cuts.Covers p → (subtractDirtyRects rects cuts).Covers p) ∧
    (∀ p, (subtractDirtyRects rects cuts).Covers p → rects.Covers p) ∧
    (Fits rects.iter cuts.iter →
      (∀ p, (subtractDirtyRects rects cuts).Covers p ↔ rects.Covers p ∧ ¬ cuts.Covers p) ∧
        ∀ r ∈ (subtractDirtyRects rects cuts).iter, ∀ cut ∈ cuts.iter, r.Apart cut) ∧
    (¬ Fits rects.iter cuts.iter → subtractDirtyRects rects cuts = rects) ∧
    (rects.iter.Pairwise DirtyRect.Apart →
      (subtractDirtyRects rects cuts).iter.Pairwise DirtyRect.Apart) := by
  obtain ⟨hfit, hover⟩ := subtractLoop_spec rects cuts.iter rects DirtyRectList.new
  have hexact : Fits rects.iter cuts.iter →
      ∀ p, (subtractDirtyRects rects cuts).Covers p ↔ rects.Covers p ∧ ¬ cuts.Covers p := by
    intro h p
    unfold DirtyRectList.Covers subtractDirtyRects
    rw [hfit h, mem_foldl_cutThrough]
    simp only [not_exists, not_and]
  refine ⟨fun p => covers_subtractDirtyRects_of_not_cut,
    fun p => covers_of_covers_subtractDirtyRects,
    fun h => ⟨hexact h, fun r hr cut hcut p hrp hcutp => ?_⟩, hover, fun h => ?_⟩
  · exact ((hexact h p).1 ⟨r, hr, hrp⟩).2 ⟨cut, hcut, hcutp⟩
  · by_cases hfits : Fits rects.iter cuts.iter
    · unfold subtractDirtyRects
      rw [hfit hfits]
      exact pairwise_foldl_cutThrough h
    · have hsame : subtractDirtyRects rects cuts = rects := hover hfits
      rwa [hsame]

end MisterMagik.Framebuffer
