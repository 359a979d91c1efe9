/-
  File:      MisterMagik/Framebuffer/Scroll.lean
  Subject:   The rectangles a scrolled layer has to write (`PhysicalLayerUpdate::write_rects`).

  A scroll moves what the layer shows; what no pixel moved into, the repair rectangle and the place
  it was moved to are written again. The pieces are cut out of one another before they are added.

  * `Trims` -- a cut that leaves at most one piece of what lies inside a rectangle, and where;
  * `pushUncoveredDamage_iter` -- one rectangle added: the pieces the list does not cover;
  * `stripes_spec`, `writeRects_spec` -- the list covers exactly the rectangles added, and its
    entries have no pixel in common.
-/
import MisterMagik.Framebuffer.LatchPlan
import MisterMagik.Framebuffer.Subtraction

namespace MisterMagik.Framebuffer

/-! ## 1. The rectangles of a scroll -/

/-- `usize::MAX` where pointers are 32 bits wide. -/
def USIZE_MAX : Nat := 2 ^ 32 - 1

/-- The closure of `translate_rect_clipped`. -/
def translate (value : Nat) (delta : Int) : Nat :=
  if delta < 0 then value - delta.natAbs else min USIZE_MAX (value + delta.toNat)

def translateRectClipped (rect : DirtyRect) (deltaX deltaY : Int) (bounds : DirtyRect) :
    Option DirtyRect :=
  DirtyRect.intersection
    { x0 := translate rect.x0 deltaX
      y0 := translate rect.y0 deltaY
      x1 := translate rect.x1 deltaX
      y1 := translate rect.y1 deltaY }
    bounds

def pushUncoveredDamage (damage : DirtyRectList) (rect : DirtyRect) : DirtyRectList :=
  damage.extendFrom (subtractDirtyRects (.fromOne rect) damage)

/-- The columns no pixel was moved into. -/
def uncoveredColumns (deltaX : Int) (rect : DirtyRect) : Option DirtyRect :=
  if 0 < deltaX then some ⟨rect.x0, rect.y0, rect.x0 + deltaX.toNat, rect.y1⟩
  else if deltaX < 0 then some ⟨rect.x1 - deltaX.natAbs, rect.y0, rect.x1, rect.y1⟩
  else none

/-- The rows no pixel was moved into. -/
def uncoveredRows (deltaY : Int) (rect : DirtyRect) : Option DirtyRect :=
  if 0 < deltaY then some ⟨rect.x0, rect.y0, rect.x1, rect.y0 + deltaY.toNat⟩
  else if deltaY < 0 then some ⟨rect.x0, rect.y1 - deltaY.natAbs, rect.x1, rect.y1⟩
  else none

/-- The repair rectangle and where it was moved to. -/
def repairPieces (deltaX deltaY : Int) (rect : DirtyRect) (repairRect : Option DirtyRect) :
    List DirtyRect :=
  match repairRect.bind (·.intersection rect) with
  | none => []
  | some repair => repair :: (translateRectClipped repair deltaX deltaY rect).toList

/-- `write_rects`. -/
def PhysicalLayerUpdate.writeRects : PhysicalLayerUpdate → DirtyRectList
  | full rect => .fromOne rect
  | scroll deltaX deltaY rect repairRect =>
      if (deltaX = 0 ∧ deltaY = 0) ∨ rect.width ≤ deltaX.natAbs ∨ rect.rows ≤ deltaY.natAbs then
        .fromOne rect
      else
        let damage := (uncoveredColumns deltaX rect).toList.foldl pushUncoveredDamage .new
        let damage := (uncoveredRows deltaY rect).toList.foldl pushUncoveredDamage damage
        (repairPieces deltaX deltaY rect repairRect).foldl pushUncoveredDamage damage

/-! ## 2. Cuts that leave one piece -/

section Remnants

variable {cut rect outer inner r : DirtyRect}

theorem remnant_inside (hr : r ∈ remnants cut rect) (hne : rect.isEmpty = false) :
    rect.contains r = true ∧ r.isEmpty = false := by
  rw [DirtyRect.isEmpty_eq_false_iff] at hne
  rw [DirtyRect.contains_iff, DirtyRect.isEmpty_eq_false_iff]
  unfold remnants at hr
  cases h : rect.intersection cut with
  | none =>
      rw [h] at hr
      obtain rfl := List.mem_singleton.1 hr
      omega
  | some overlap =>
      rw [h] at hr
      have ho := DirtyRect.intersection_eq_some_iff.1 h
      simp only [subtractRectPieces, List.mem_append, List.mem_ite_nil_right,
        List.mem_singleton] at hr
      rcases hr with ((⟨hlt, rfl⟩ | ⟨hlt, rfl⟩) | ⟨hlt, rfl⟩) | ⟨hlt, rfl⟩ <;>
        · dsimp only
          omega

theorem length_ite_singleton {α : Type} {c : Prop} [Decidable c] (a : α) :
    (if c then [a] else []).length = if c then 1 else 0 := by
  split <;> rfl

theorem length_remnants_le (cut rect : DirtyRect) : (remnants cut rect).length ≤ 4 := by
  unfold remnants
  cases rect.intersection cut with
  | none => exact Nat.le_of_ble_eq_true rfl
  | some overlap =>
      simp only [subtractRectPieces, List.length_append, length_ite_singleton]
      split_ifs <;> omega

/-- Of a non-empty rectangle inside `outer` the cut leaves at most one piece, inside `inner`. -/
structure Trims (cut outer inner : DirtyRect) : Prop where
  short : ∀ r, r.isEmpty = false → outer.contains r = true → (remnants cut r).length ≤ 1
  inside : ∀ r, r.isEmpty = false → outer.contains r = true → ∀ s ∈ remnants cut r,
    inner.contains s = true

/-- A cut along one side of `outer`, over its whole length. -/
theorem trims_of_side (hne : cut.isEmpty = false)
    (hside : (cut.y0 = outer.y0 ∧ cut.y1 = outer.y1 ∧ inner.y0 = outer.y0 ∧ inner.y1 = outer.y1 ∧
        ((cut.x0 = outer.x0 ∧ inner.x0 = cut.x1 ∧ inner.x1 = outer.x1) ∨
          (cut.x1 = outer.x1 ∧ inner.x1 = cut.x0 ∧ inner.x0 = outer.x0))) ∨
      (cut.x0 = outer.x0 ∧ cut.x1 = outer.x1 ∧ inner.x0 = outer.x0 ∧ inner.x1 = outer.x1 ∧
        ((cut.y0 = outer.y0 ∧ inner.y0 = cut.y1 ∧ inner.y1 = outer.y1) ∨
          (cut.y1 = outer.y1 ∧ inner.y1 = cut.y0 ∧ inner.y0 = outer.y0)))) :
    Trims cut outer inner := by
  rw [DirtyRect.isEmpty_eq_false_iff] at hne
  refine ⟨fun r hr hc => ?_, fun r hr hc s hs => ?_⟩
  · rw [DirtyRect.contains_iff] at hc
    rw [DirtyRect.isEmpty_eq_false_iff] at hr
    unfold remnants
    cases h : r.intersection cut with
    | none => exact Nat.le_refl _
    | some overlap =>
        have ho := DirtyRect.intersection_eq_some_iff.1 h
        simp only [subtractRectPieces, List.length_append, length_ite_singleton]
        split_ifs <;> omega
  · have hsub := (remnant_inside hs hr).1
    have hsne := (remnant_inside hs hr).2
    rw [DirtyRect.contains_iff] at hc hsub ⊢
    rw [DirtyRect.isEmpty_eq_false_iff] at hsne
    -- a corner of the piece is outside the cut
    have hfirst : ¬ cut.Mem (s.x0, s.y0) :=
      (mem_remnants.1 ⟨s, hs, Nat.le_refl _, hsne.1, Nat.le_refl _, hsne.2⟩).2
    have hlast : ¬ cut.Mem (s.x1 - 1, s.y1 - 1) :=
      (mem_remnants.1 ⟨s, hs, by dsimp only; omega, by dsimp only; omega, by dsimp only; omega,
        by dsimp only; omega⟩).2
    unfold DirtyRect.Mem at hfirst hlast
    dsimp only at hfirst hlast
    omega

end Remnants

/-- Cuts that one after another leave at most one piece. -/
inductive TrimsAll : List DirtyRect → DirtyRect → DirtyRect → Prop where
  | nil (outer : DirtyRect) : TrimsAll [] outer outer
  | cons {cut outer mid inner : DirtyRect} {cuts : List DirtyRect} (hcut : Trims cut outer mid)
      (hcuts : TrimsAll cuts mid inner) : TrimsAll (cut :: cuts) outer inner

/-- At most one non-empty rectangle, inside `outer`. -/
structure OneInside (outer : DirtyRect) (rects : List DirtyRect) : Prop where
  short : rects.length ≤ 1
  inside : ∀ r ∈ rects, outer.contains r = true ∧ r.isEmpty = false

section Trimming

variable {cut outer mid inner r : DirtyRect} {cuts rects : List DirtyRect}

theorem OneInside.trim (h : OneInside outer rects) (hcut : Trims cut outer mid) :
    OneInside mid (cutThrough rects cut) := by
  unfold cutThrough
  match rects, h with
  | [], _ => exact ⟨Nat.zero_le _, by simp⟩
  | [r], h =>
      obtain ⟨hin, hne⟩ := h.inside r List.mem_cons_self
      rw [List.flatMap_cons, List.flatMap_nil, List.append_nil]
      exact ⟨hcut.short r hne hin,
        fun s hs => ⟨hcut.inside r hne hin s hs, (remnant_inside hs hne).2⟩⟩
  | _ :: _ :: _, h => exact absurd h.short (by simp)

theorem TrimsAll.fits (h : TrimsAll cuts outer inner) (hrects : OneInside outer rects) :
    Fits rects cuts := by
  have hshort : ∀ {rects}, OneInside outer rects → rects.length ≤ DIRTY_RECT_LIST_CAP :=
    fun h => Nat.le_trans h.short (by decide)
  induction h generalizing rects with
  | nil outer =>
      intro n _
      rw [List.take_nil]
      exact hshort hrects
  | cons hcut _ ih =>
      have hmid := hrects.trim hcut
      rw [fits_cons (hshort hrects)]
      exact ih hmid fun h => Nat.le_trans h.short (by decide)

theorem TrimsAll.rest (h : TrimsAll cuts outer inner) (hrects : OneInside outer rects) :
    OneInside inner (cuts.foldl cutThrough rects) := by
  induction h generalizing rects with
  | nil outer => exact hrects
  | cons hcut _ ih => exact ih (hrects.trim hcut)

theorem fits_append {more : List DirtyRect} :
    Fits rects (cuts ++ more) ↔ Fits rects cuts ∧ Fits (cuts.foldl cutThrough rects) more := by
  constructor
  · intro h
    refine ⟨fun n hn => ?_, fun n hn => ?_⟩
    · have := h n (by rw [List.length_append]; omega)
      rwa [List.take_append_of_le_length hn] at this
    · have := h (cuts.length + n) (by rw [List.length_append]; omega)
      rwa [List.take_length_add_append, List.foldl_append] at this
  · rintro ⟨hcuts, hmore⟩ n hn
    rcases Nat.lt_or_ge n cuts.length with hlt | hge
    · rw [List.take_append_of_le_length (Nat.le_of_lt hlt)]
      exact hcuts n (Nat.le_of_lt hlt)
    · obtain ⟨k, rfl⟩ := Nat.exists_eq_add_of_le hge
      rw [List.length_append] at hn
      rw [List.take_length_add_append, List.foldl_append]
      exact hmore k (by omega)

theorem TrimsAll.snoc (h : TrimsAll cuts outer mid) (hcut : Trims cut mid inner) :
    TrimsAll (cuts ++ [cut]) outer inner := by
  induction h with
  | nil outer => exact .cons hcut (.nil inner)
  | cons hfirst _ ih => exact .cons hfirst (ih hcut)

theorem oneInside_singleton (hne : r.isEmpty = false) (hin : outer.contains r = true) :
    OneInside outer [r] := by
  refine ⟨Nat.le_refl _, fun s hs => ?_⟩
  rw [List.mem_singleton.1 hs]
  exact ⟨hin, hne⟩

theorem length_cutThrough_le (rects : List DirtyRect) (cut : DirtyRect) :
    (cutThrough rects cut).length ≤ 4 * rects.length := by
  unfold cutThrough
  induction rects with
  | nil => exact Nat.le_refl _
  | cons rect rects ih =>
      have := length_remnants_le cut rect
      rw [List.flatMap_cons, List.length_append, List.length_cons]
      omega

/-- One more cut of at most one rectangle. -/
theorem cuts_of_short (hrects : rects.length ≤ 1) (hcuts : cuts.length ≤ 1) :
    Fits rects cuts ∧ (cuts.foldl cutThrough rects).length ≤ 4 := by
  have hcap : rects.length ≤ DIRTY_RECT_LIST_CAP := Nat.le_trans hrects (by decide)
  match cuts, hcuts with
  | [], _ =>
      refine ⟨fun n _ => ?_, by rw [List.foldl_nil]; omega⟩
      rw [List.take_nil]
      exact hcap
  | [cut], _ =>
      have hlen := length_cutThrough_le rects cut
      refine ⟨(fits_cons hcap).2 fun n _ => ?_, by rw [List.foldl_cons, List.foldl_nil]; omega⟩
      rw [List.take_nil, List.foldl_nil]
      exact Nat.le_trans hlen (by unfold DIRTY_RECT_LIST_CAP; omega)
  | _ :: _ :: _, h => exact absurd h (by simp)

theorem foldl_cutThrough_nonempty (h : ∀ r ∈ rects, r.isEmpty = false) :
    ∀ r ∈ cuts.foldl cutThrough rects, r.isEmpty = false := by
  induction cuts generalizing rects with
  | nil => exact h
  | cons cut cuts ih =>
      refine ih fun r hr => ?_
      obtain ⟨rect, hrect, hr⟩ := List.mem_flatMap.1 hr
      exact (remnant_inside hr (h rect hrect)).2

end Trimming

/-! ## 3. One rectangle added -/

namespace DirtyRectList

theorem iter_foldl_push {rects : List DirtyRect} {l : DirtyRectList}
    (hne : ∀ r ∈ rects, r.isEmpty = false) (hroom : l.len + rects.length ≤ DIRTY_RECT_LIST_CAP) :
    (rects.foldl push l).iter = l.iter ++ rects := by
  induction rects generalizing l with
  | nil => rw [List.foldl_nil, List.append_nil]
  | cons rect rects ih =>
      rw [List.length_cons] at hroom
      have hiter := iter_push_of_lt (hne rect List.mem_cons_self) (l := l) (by omega)
      have hlen : (l.push rect).len = l.len + 1 := by
        rw [← length_iter, hiter, List.length_append, length_iter]
        rfl
      rw [List.foldl_cons, ih (fun r hr => hne r (List.mem_cons_of_mem _ hr)) (by omega), hiter,
        List.append_assoc]
      rfl

end DirtyRectList

/-- The list covers exactly the rectangles added, and no pixel twice. -/
structure WritesOnce (rect : DirtyRect) (added : List DirtyRect) (damage : DirtyRectList) :
    Prop where
  covers : ∀ p, damage.Covers p ↔ ∃ r ∈ added, r.Mem p
  apart : damage.iter.Pairwise DirtyRect.Apart
  inside : ∀ r ∈ damage.iter, rect.contains r = true ∧ r.isEmpty = false

section Push

variable {rect r : DirtyRect} {damage : DirtyRectList} {added : List DirtyRect}

/-- `push_uncovered_damage` where nothing overflows. -/
theorem pushUncoveredDamage_iter (hne : r.isEmpty = false) (hfits : Fits [r] damage.iter)
    (hroom : damage.len + (damage.iter.foldl cutThrough [r]).length ≤ DIRTY_RECT_LIST_CAP) :
    (pushUncoveredDamage damage r).iter =
      damage.iter ++ damage.iter.foldl cutThrough [r] := by
  have hone := DirtyRectList.iter_fromOne hne
  have hsub : (subtractDirtyRects (.fromOne r) damage).iter =
      damage.iter.foldl cutThrough [r] := by
    have hspec := (subtractLoop_spec (.fromOne r) damage.iter (.fromOne r) .new).1
    rw [hone] at hspec
    exact hspec hfits
  unfold pushUncoveredDamage DirtyRectList.extendFrom
  rw [hsub]
  exact DirtyRectList.iter_foldl_push
    (foldl_cutThrough_nonempty fun s hs => by rw [List.mem_singleton.1 hs]; exact hne) hroom

theorem WritesOnce.push (h : WritesOnce rect added damage) (hne : r.isEmpty = false)
    (hin : rect.contains r = true) (hfits : Fits [r] damage.iter)
    (hroom : damage.len + (damage.iter.foldl cutThrough [r]).length ≤ DIRTY_RECT_LIST_CAP) :
    WritesOnce rect (added ++ [r]) (pushUncoveredDamage damage r) := by
  have hiter := pushUncoveredDamage_iter hne hfits hroom
  have hnew : ∀ p, (∃ s ∈ damage.iter.foldl cutThrough [r], s.Mem p) ↔
      r.Mem p ∧ ¬ damage.Covers p := by
    intro p
    rw [mem_foldl_cutThrough]
    unfold DirtyRectList.Covers
    simp only [List.mem_singleton, exists_eq_left, not_exists, not_and]
  refine ⟨fun p => ?_, ?_, fun s hs => ?_⟩
  · have hcov := h.covers p
    have hall : (pushUncoveredDamage damage r).Covers p ↔
        damage.Covers p ∨ (r.Mem p ∧ ¬ damage.Covers p) := by
      rw [covers_of_iter_append hiter, hnew]
    simp only [List.mem_append, List.mem_singleton, or_and_right, exists_or, exists_eq_left]
    rw [hall, ← hcov]
    tauto
  · rw [hiter, List.pairwise_append]
    refine ⟨h.apart, pairwise_foldl_cutThrough (List.pairwise_singleton _ _),
      fun a ha b hb p hap hbp => ?_⟩
    exact ((hnew p).1 ⟨b, hb, hbp⟩).2 ⟨a, ha, hap⟩
  · rw [hiter, List.mem_append] at hs
    rcases hs with hs | hs
    · exact h.inside s hs
    · have hsne := foldl_cutThrough_nonempty
        (fun t ht => by rw [List.mem_singleton.1 ht]; exact hne) s hs
      refine ⟨?_, hsne⟩
      have hsub : ∀ p, s.Mem p → rect.Mem p := fun p hp => (((hnew p).1 ⟨s, hs, hp⟩).1).mono hin
      rw [DirtyRect.isEmpty_eq_false_iff] at hsne
      have hfirst := hsub (s.x0, s.y0) ⟨Nat.le_refl _, hsne.1, Nat.le_refl _, hsne.2⟩
      have hlast := hsub (s.x1 - 1, s.y1 - 1) ⟨by dsimp only; omega, by dsimp only; omega,
        by dsimp only; omega, by dsimp only; omega⟩
      unfold DirtyRect.Mem at hfirst hlast
      dsimp only at hfirst hlast
      rw [DirtyRect.contains_iff]
      omega

end Push

/-! ## 4. The stripes -/

/-- The list trims every rectangle inside `rect` down to `inner`. -/
structure Stripes (rect inner : DirtyRect) (added : List DirtyRect) (damage : DirtyRectList) :
    Prop where
  trims : TrimsAll damage.iter rect inner
  writes : WritesOnce rect added damage
  short : damage.len ≤ added.length

section Stripes

variable {rect inner next r : DirtyRect} {deltaX deltaY : Int} {added : List DirtyRect}
  {damage : DirtyRectList}

theorem stripes_new (rect : DirtyRect) : Stripes rect rect [] .new := by
  refine ⟨?_, ⟨fun p => ?_, ?_, ?_⟩, Nat.le_refl _⟩
  · rw [DirtyRectList.iter_new]
    exact .nil rect
  · simp
  · rw [DirtyRectList.iter_new]
    exact List.Pairwise.nil
  · simp

/-- A stripe that the list leaves in one piece, along one side of `inner`. -/
theorem Stripes.push (h : Stripes rect inner added damage) (hadded : added.length ≤ 1)
    (hne : r.isEmpty = false) (hin : rect.contains r = true) {piece : DirtyRect}
    (hpiece : damage.iter.foldl cutThrough [r] = [piece]) (htrims : Trims piece inner next) :
    Stripes rect next (added ++ [r]) (pushUncoveredDamage damage r) := by
  have hfits := h.trims.fits (oneInside_singleton hne hin)
  have hshort := h.short
  have hroom : damage.len + (damage.iter.foldl cutThrough [r]).length ≤ DIRTY_RECT_LIST_CAP := by
    rw [hpiece, List.length_singleton]
    unfold DIRTY_RECT_LIST_CAP
    omega
  have hiter := pushUncoveredDamage_iter hne hfits hroom
  refine ⟨?_, h.writes.push hne hin hfits hroom, ?_⟩
  · rw [hiter, hpiece]
    exact h.trims.snoc htrims
  · rw [← DirtyRectList.length_iter, hiter, hpiece, List.length_append, List.length_append,
      DirtyRectList.length_iter]
    exact Nat.add_le_add_right hshort 1

/-- `cut` is the columns at one side of `rect`, `inner` the others. -/
structure SideColumns (rect cut inner : DirtyRect) : Prop where
  rows : cut.y0 = rect.y0 ∧ cut.y1 = rect.y1 ∧ inner.y0 = rect.y0 ∧ inner.y1 = rect.y1
  columns : (rect.x0 = cut.x0 ∧ cut.x1 = inner.x0 ∧ inner.x1 = rect.x1) ∨
    (rect.x0 = inner.x0 ∧ inner.x1 = cut.x0 ∧ cut.x1 = rect.x1)
  nonempty : cut.isEmpty = false ∧ inner.isEmpty = false

theorem SideColumns.trims (h : SideColumns rect r inner) : Trims r rect inner := by
  obtain ⟨h0, h1, h2, h3⟩ := h.rows
  refine trims_of_side h.nonempty.1 (.inl ⟨h0, h1, h2, h3, ?_⟩)
  rcases h.columns with ⟨hl, hm, hr⟩ | ⟨hl, hm, hr⟩
  · exact .inl ⟨hl.symm, hm.symm, hr⟩
  · exact .inr ⟨hr, hm, hl.symm⟩

theorem SideColumns.contains (h : SideColumns rect r inner) : rect.contains r = true := by
  obtain ⟨hcut, hinner⟩ := h.nonempty
  rw [DirtyRect.isEmpty_eq_false_iff] at hcut hinner
  have hrows := h.rows
  have hcolumns := h.columns
  rw [DirtyRect.contains_iff]
  omega

/-- Of a stripe of rows the columns leave the other columns. -/
theorem SideColumns.cut_row (h : SideColumns rect r inner) {row : DirtyRect}
    (hrow : row.isEmpty = false) (hin : rect.contains row = true) (hx0 : row.x0 = rect.x0)
    (hx1 : row.x1 = rect.x1) : cutThrough [row] r = [⟨inner.x0, row.y0, inner.x1, row.y1⟩] := by
  obtain ⟨hcut, hinner⟩ := h.nonempty
  rw [DirtyRect.isEmpty_eq_false_iff] at hrow hcut hinner
  rw [DirtyRect.contains_iff] at hin
  have hrows := h.rows
  have hcolumns := h.columns
  have hoverlap : row.intersection r = some ⟨r.x0, row.y0, r.x1, row.y1⟩ := by
    rw [DirtyRect.intersection_eq_some_iff]
    dsimp only
    omega
  simp only [cutThrough, List.flatMap_cons, List.flatMap_nil, remnants, hoverlap,
    subtractRectPieces, Nat.lt_irrefl, if_false, List.nil_append, List.append_nil]
  rcases hcolumns with ⟨hl, hm, hr⟩ | ⟨hl, hm, hr⟩
  · rw [if_neg (by omega), if_pos (by omega), hm, hx1, hr]
    rfl
  · rw [if_pos (by omega), if_neg (by omega), hx0, hl, hm]
    rfl

theorem uncoveredColumns_cases (hne : rect.isEmpty = false)
    (hsmall : deltaX.natAbs < rect.width) :
    (deltaX = 0 ∧ uncoveredColumns deltaX rect = none) ∨
      ∃ cut inner, uncoveredColumns deltaX rect = some cut ∧ SideColumns rect cut inner := by
  rw [DirtyRect.isEmpty_eq_false_iff] at hne
  unfold DirtyRect.width at hsmall
  unfold uncoveredColumns
  rcases Int.lt_trichotomy deltaX 0 with hneg | hzero | hpos
  · rw [if_neg (by omega), if_pos hneg]
    refine .inr ⟨_, ⟨rect.x0, rect.y0, rect.x1 - deltaX.natAbs, rect.y1⟩, rfl,
      ⟨rfl, rfl, rfl, rfl⟩, .inr ⟨rfl, rfl, rfl⟩, ?_, ?_⟩ <;>
      · rw [DirtyRect.isEmpty_eq_false_iff]
        dsimp only
        omega
  · rw [if_neg (by omega), if_neg (by omega)]
    exact .inl ⟨hzero, rfl⟩
  · rw [if_pos hpos]
    refine .inr ⟨_, ⟨rect.x0 + deltaX.toNat, rect.y0, rect.x1, rect.y1⟩, rfl,
      ⟨rfl, rfl, rfl, rfl⟩, .inl ⟨rfl, rfl, rfl⟩, ?_, ?_⟩ <;>
      · rw [DirtyRect.isEmpty_eq_false_iff]
        dsimp only
        omega

/-- **The columns**: what they leave, and how they cut a stripe of rows. -/
theorem columns_spec (hne : rect.isEmpty = false) (hsmall : deltaX.natAbs < rect.width) :
    ∃ inner, Stripes rect inner (uncoveredColumns deltaX rect).toList
        ((uncoveredColumns deltaX rect).toList.foldl pushUncoveredDamage .new) ∧
      inner.isEmpty = false ∧ inner.y0 = rect.y0 ∧ inner.y1 = rect.y1 ∧
      ∀ row, row.isEmpty = false → rect.contains row = true → row.x0 = rect.x0 →
        row.x1 = rect.x1 →
        (((uncoveredColumns deltaX rect).toList.foldl pushUncoveredDamage .new).iter.foldl
          cutThrough [row]) = [⟨inner.x0, row.y0, inner.x1, row.y1⟩] := by
  rcases uncoveredColumns_cases hne hsmall with ⟨-, hnone⟩ | ⟨cut, inner, hcut, hside⟩
  · refine ⟨rect, ?_, hne, rfl, rfl, fun row _ _ hx0 hx1 => ?_⟩
    · rw [hnone]
      exact stripes_new rect
    · rw [hnone, ← hx0, ← hx1]
      simp
  · have hnil : DirtyRectList.new.iter.foldl cutThrough [cut] = [cut] := by
      rw [DirtyRectList.iter_new, List.foldl_nil]
    have hcutne := hside.nonempty.1
    rw [hcut]
    refine ⟨inner, (stripes_new rect).push (Nat.zero_le _) hcutne hside.contains hnil hside.trims,
      hside.nonempty.2, hside.rows.2.2.1, hside.rows.2.2.2, fun row hrow hin hx0 hx1 => ?_⟩
    have hfits := (stripes_new rect).trims.fits (oneInside_singleton hcutne hside.contains)
    have hiter := pushUncoveredDamage_iter hcutne hfits
      (by rw [hnil]; exact Nat.le_of_ble_eq_true rfl)
    rw [hnil, DirtyRectList.iter_new, List.nil_append] at hiter
    rw [Option.toList_some, List.foldl_cons, List.foldl_nil, hiter, List.foldl_cons,
      List.foldl_nil]
    exact hside.cut_row hrow hin hx0 hx1

/-- The two stripes. -/
def stripesDamage (deltaX deltaY : Int) (rect : DirtyRect) : DirtyRectList :=
  (uncoveredRows deltaY rect).toList.foldl pushUncoveredDamage
    ((uncoveredColumns deltaX rect).toList.foldl pushUncoveredDamage .new)

theorem uncoveredRows_cases (hne : rect.isEmpty = false)
    (hsmall : deltaY.natAbs < rect.y1 - rect.y0) :
    (deltaY = 0 ∧ uncoveredRows deltaY rect = none) ∨
      ∃ row, uncoveredRows deltaY rect = some row ∧ row.isEmpty = false ∧
        row.x0 = rect.x0 ∧ row.x1 = rect.x1 ∧
        ((row.y0 = rect.y0 ∧ row.y1 < rect.y1) ∨ (row.y1 = rect.y1 ∧ rect.y0 < row.y0)) := by
  rw [DirtyRect.isEmpty_eq_false_iff] at hne
  unfold uncoveredRows
  rcases Int.lt_trichotomy deltaY 0 with hneg | hzero | hpos
  · rw [if_neg (by omega), if_pos hneg]
    refine .inr ⟨_, rfl, DirtyRect.isEmpty_eq_false_iff.2 ⟨hne.1, ?_⟩, rfl, rfl, .inr ⟨rfl, ?_⟩⟩ <;>
      · dsimp only
        omega
  · rw [if_neg (by omega), if_neg (by omega)]
    exact .inl ⟨hzero, rfl⟩
  · rw [if_pos hpos]
    refine .inr ⟨_, rfl, DirtyRect.isEmpty_eq_false_iff.2 ⟨hne.1, ?_⟩, rfl, rfl, .inl ⟨rfl, ?_⟩⟩ <;>
      · dsimp only
        omega

/-- **The stripes**: every pixel of them once, in at most two rectangles that trim. -/
theorem stripes_spec (hne : rect.isEmpty = false) (hx : deltaX.natAbs < rect.width)
    (hy : deltaY.natAbs < rect.y1 - rect.y0) :
    ∃ inner, Stripes rect inner
      ((uncoveredColumns deltaX rect).toList ++ (uncoveredRows deltaY rect).toList)
      (stripesDamage deltaX deltaY rect) := by
  obtain ⟨inner, hcolumns, hinner, hy0, hy1, hcut⟩ := columns_spec hne hx
  unfold stripesDamage
  rcases uncoveredRows_cases hne hy with ⟨-, hnone⟩ | ⟨row, hrow, hrowne, hx0, hx1, hside⟩
  · rw [hnone, Option.toList_none, List.append_nil, List.foldl_nil]
    exact ⟨inner, hcolumns⟩
  · have hcontains : rect.contains row = true := by
      rw [DirtyRect.isEmpty_eq_false_iff] at hne hrowne
      rw [DirtyRect.contains_iff]
      omega
    have hpiece := hcut row hrowne hcontains hx0 hx1
    have hadded : (uncoveredColumns deltaX rect).toList.length ≤ 1 := by
      cases uncoveredColumns deltaX rect <;> simp
    rw [hrow, Option.toList_some, List.foldl_cons, List.foldl_nil]
    rw [DirtyRect.isEmpty_eq_false_iff] at hrowne hinner
    have hpiecene : DirtyRect.isEmpty ⟨inner.x0, row.y0, inner.x1, row.y1⟩ = false :=
      DirtyRect.isEmpty_eq_false_iff.2 ⟨hinner.1, hrowne.2⟩
    rcases hside with ⟨htop, -⟩ | ⟨hbottom, -⟩
    · refine ⟨⟨inner.x0, row.y1, inner.x1, inner.y1⟩, hcolumns.push hadded
        (DirtyRect.isEmpty_eq_false_iff.2 hrowne) hcontains hpiece (trims_of_side hpiecene ?_)⟩
      exact .inr ⟨rfl, rfl, rfl, rfl, .inl ⟨by rw [hy0]; exact htop, rfl, rfl⟩⟩
    · refine ⟨⟨inner.x0, inner.y0, inner.x1, row.y0⟩, hcolumns.push hadded
        (DirtyRect.isEmpty_eq_false_iff.2 hrowne) hcontains hpiece (trims_of_side hpiecene ?_)⟩
      exact .inr ⟨rfl, rfl, rfl, rfl, .inr ⟨by rw [hy1]; exact hbottom, rfl, rfl⟩⟩

end Stripes

/-! ## 5. The repair pieces -/

section Repair

variable {rect inner r t : DirtyRect} {deltaX deltaY : Int} {repairRect : Option DirtyRect}
  {added : List DirtyRect} {damage : DirtyRectList}

/-- One rectangle on top of the stripes. -/
theorem Stripes.push_one (h : Stripes rect inner added damage) (hadded : added.length ≤ 2)
    (hne : r.isEmpty = false) (hin : rect.contains r = true) :
    WritesOnce rect (added ++ [r]) (pushUncoveredDamage damage r) := by
  have hone := oneInside_singleton hne hin
  have hrest := (h.trims.rest hone).short
  have hshort := h.short
  exact h.writes.push hne hin (h.trims.fits hone) (by unfold DIRTY_RECT_LIST_CAP; omega)

/-- And another one: the first left at most one piece, which leaves at most four. -/
theorem Stripes.push_two (h : Stripes rect inner added damage) (hadded : added.length ≤ 2)
    (hne : r.isEmpty = false) (hin : rect.contains r = true) (htne : t.isEmpty = false)
    (htin : rect.contains t = true) :
    WritesOnce rect (added ++ [r] ++ [t])
      (pushUncoveredDamage (pushUncoveredDamage damage r) t) := by
  have hone := oneInside_singleton hne hin
  have htone := oneInside_singleton htne htin
  have hrest := (h.trims.rest hone).short
  have hshort := h.short
  have hiter := pushUncoveredDamage_iter hne (h.trims.fits hone)
    (by unfold DIRTY_RECT_LIST_CAP; omega)
  have hlen : (pushUncoveredDamage damage r).len ≤ 3 := by
    rw [← DirtyRectList.length_iter, hiter, List.length_append, DirtyRectList.length_iter]
    omega
  obtain ⟨hfits, hfour⟩ := cuts_of_short (h.trims.rest htone).short hrest
  refine (h.push_one hadded hne hin).push htne htin ?_ ?_
  · rw [hiter]
    exact fits_append.2 ⟨h.trims.fits htone, hfits⟩
  · rw [hiter, List.foldl_append]
    unfold DIRTY_RECT_LIST_CAP
    omega

theorem translateRectClipped_inside (h : translateRectClipped r deltaX deltaY rect = some t) :
    t.isEmpty = false ∧ rect.contains t = true :=
  ⟨DirtyRect.intersection_not_isEmpty h, DirtyRect.contains_intersection_right h⟩

theorem Stripes.push_repair (h : Stripes rect inner added damage) (hadded : added.length ≤ 2) :
    WritesOnce rect (added ++ repairPieces deltaX deltaY rect repairRect)
      ((repairPieces deltaX deltaY rect repairRect).foldl pushUncoveredDamage damage) := by
  unfold repairPieces
  cases hrepair : repairRect.bind (·.intersection rect) with
  | none =>
      rw [List.append_nil]
      exact h.writes
  | some repair =>
      obtain ⟨original, -, hinter⟩ := Option.bind_eq_some_iff.1 hrepair
      have hne := DirtyRect.intersection_not_isEmpty hinter
      have hin := DirtyRect.contains_intersection_right hinter
      dsimp only
      cases ht : translateRectClipped repair deltaX deltaY rect with
      | none => exact h.push_one hadded hne hin
      | some t =>
          obtain ⟨htne, htin⟩ := translateRectClipped_inside ht
          have := h.push_two hadded hne hin htne htin
          rw [List.append_assoc] at this
          exact this

end Repair

/-- **What a scroll writes**: the two stripes, the repair rectangle and the place it was moved to,
    every pixel once; or the whole layer where nothing of it stays. -/
theorem writeRects_spec {rect : DirtyRect} (deltaX deltaY : Int) (repairRect : Option DirtyRect)
    (hne : rect.isEmpty = false) :
    WritesOnce rect [rect]
        (PhysicalLayerUpdate.scroll deltaX deltaY rect repairRect).writeRects ∨
      (deltaX.natAbs < rect.width ∧ deltaY.natAbs < rect.y1 - rect.y0 ∧
        WritesOnce rect ((uncoveredColumns deltaX rect).toList ++
            (uncoveredRows deltaY rect).toList ++ repairPieces deltaX deltaY rect repairRect)
          (PhysicalLayerUpdate.scroll deltaX deltaY rect repairRect).writeRects) := by
  unfold PhysicalLayerUpdate.writeRects
  dsimp only
  by_cases hall : (deltaX = 0 ∧ deltaY = 0) ∨ rect.width ≤ deltaX.natAbs ∨
      rect.rows ≤ deltaY.natAbs
  · rw [if_pos hall]
    refine .inl ⟨fun p => by simp, ?_, fun r hr => ?_⟩
    · rw [DirtyRectList.iter_fromOne hne]
      exact List.pairwise_singleton _ _
    · rw [DirtyRectList.iter_fromOne hne, List.mem_singleton] at hr
      rw [hr]
      exact ⟨DirtyRect.contains_refl rect, hne⟩
  · rw [if_neg hall]
    have hx : deltaX.natAbs < rect.width := by omega
    -- `rows` counts modulo 2^32, and never more than there are
    have hrows : rect.rows ≤ rect.y1 - rect.y0 := Nat.mod_le _ _
    have hy : deltaY.natAbs < rect.y1 - rect.y0 := by omega
    obtain ⟨inner, hstripes⟩ := stripes_spec hne hx hy
    refine .inr ⟨hx, hy, hstripes.push_repair ?_⟩
    have hcolumns : (uncoveredColumns deltaX rect).toList.length ≤ 1 := by
      cases uncoveredColumns deltaX rect <;> simp
    have hrows : (uncoveredRows deltaY rect).toList.length ≤ 1 := by
      cases uncoveredRows deltaY rect <;> simp
    rw [List.length_append]
    omega

end MisterMagik.Framebuffer
