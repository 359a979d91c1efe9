/-
  File:      MisterMagik/Framebuffer/Damage.lean
  Subject:   Dirty rectangles and the fixed-capacity dirty list (`framebuffer/damage.rs`).

  `DirtyRect` and `DirtyRectList` follow the source field by field: the list is an array of
  `DIRTY_RECT_LIST_CAP` rectangles with a length, and whatever stands past the length is stale
  and stays there. Coordinates are `usize` in the source and only compared, so `Nat` here.

  The second half gives the list its meaning: `DirtyRect.Mem` is the set of pixels of one
  rectangle, `DirtyRectList.Covers` the union over the list.

  * `covers_addCanonical`, `covers_extendCanonical` -- canonical insertion covers exactly the old
    pixels and the clipped new ones, or the whole surface after an overflow;
  * `covers_subtractDirtyRects_of_not_cut`, `covers_of_covers_subtractDirtyRects` -- subtraction
    keeps every pixel outside the cuts and adds none;
  * `Canonical` -- the representation invariant canonical insertion keeps.
-/
import Mathlib.Algebra.Ring.Nat
import Mathlib.Data.List.Basic
import Mathlib.Data.Vector.Basic

namespace MisterMagik.Framebuffer

/-! ## 1. One rectangle -/

/-- `DirtyRect`: the half-open pixel rectangle `x0 ..< x1`, `y0 ..< y1`. -/
structure DirtyRect where
  x0 : Nat
  y0 : Nat
  x1 : Nat
  y1 : Nat
  deriving DecidableEq, Repr

/-- A pixel, column first. -/
abbrev Pixel := Nat × Nat

namespace DirtyRect

/-- Rows as the source counts them (`as u32`); callers keep `y0 ≤ y1`. -/
def rows (r : DirtyRect) : Nat := (r.y1 - r.y0) % 2 ^ 32

def width (r : DirtyRect) : Nat := r.x1 - r.x0

def isEmpty (r : DirtyRect) : Bool := r.x1 ≤ r.x0 || r.y1 ≤ r.y0

def contains (r other : DirtyRect) : Bool :=
  r.x0 ≤ other.x0 && r.y0 ≤ other.y0 && r.x1 ≥ other.x1 && r.y1 ≥ other.y1

def intersection (r other : DirtyRect) : Option DirtyRect :=
  let x0 := max r.x0 other.x0
  let y0 := max r.y0 other.y0
  let x1 := min r.x1 other.x1
  let y1 := min r.y1 other.y1
  if x1 > x0 ∧ y1 > y0 then some ⟨x0, y0, x1, y1⟩ else none

def union (r other : DirtyRect) : DirtyRect :=
  ⟨min r.x0 other.x0, min r.y0 other.y0, max r.x1 other.x1, max r.y1 other.y1⟩

/-- The pixels of the rectangle. -/
def Mem (r : DirtyRect) (p : Pixel) : Prop :=
  r.x0 ≤ p.1 ∧ p.1 < r.x1 ∧ r.y0 ≤ p.2 ∧ p.2 < r.y1

instance (r : DirtyRect) (p : Pixel) : Decidable (r.Mem p) :=
  inferInstanceAs (Decidable (_ ∧ _ ∧ _ ∧ _))

theorem isEmpty_eq_false_iff {r : DirtyRect} : r.isEmpty = false ↔ r.x0 < r.x1 ∧ r.y0 < r.y1 := by
  simp [isEmpty]

theorem not_mem_of_isEmpty {r : DirtyRect} (h : r.isEmpty = true) (p : Pixel) : ¬ r.Mem p := by
  simp only [isEmpty, Bool.or_eq_true, decide_eq_true_eq] at h
  unfold Mem
  omega

theorem contains_iff {r s : DirtyRect} :
    r.contains s = true ↔ r.x0 ≤ s.x0 ∧ r.y0 ≤ s.y0 ∧ s.x1 ≤ r.x1 ∧ s.y1 ≤ r.y1 := by
  simp [contains, and_assoc]

theorem contains_refl (r : DirtyRect) : r.contains r = true := by simp [contains_iff]

theorem Mem.mono {r s : DirtyRect} {p : Pixel} (hp : s.Mem p) (h : r.contains s = true) :
    r.Mem p := by
  rw [contains_iff] at h
  unfold Mem at *
  omega

theorem intersection_eq_some_iff {r s t : DirtyRect} :
    r.intersection s = some t ↔
      t.x0 = max r.x0 s.x0 ∧ t.y0 = max r.y0 s.y0 ∧ t.x1 = min r.x1 s.x1 ∧
        t.y1 = min r.y1 s.y1 ∧ t.x0 < t.x1 ∧ t.y0 < t.y1 := by
  unfold intersection
  dsimp only
  split
  · rename_i h
    rw [Option.some.injEq]
    constructor
    · rintro rfl
      exact ⟨rfl, rfl, rfl, rfl, h.1, h.2⟩
    · rintro ⟨h1, h2, h3, h4, -, -⟩
      cases t
      simp_all
  · rename_i h
    refine iff_of_false (by simp) fun ⟨h1, h2, h3, h4, h5, h6⟩ => h ?_
    rw [h1, h3] at h5
    rw [h2, h4] at h6
    exact ⟨h5, h6⟩

/-- The pixels of an intersection are the common pixels. -/
theorem mem_intersection {r s t : DirtyRect} (h : r.intersection s = some t) (p : Pixel) :
    t.Mem p ↔ r.Mem p ∧ s.Mem p := by
  rw [intersection_eq_some_iff] at h
  unfold Mem
  omega

theorem not_mem_of_intersection_eq_none {r s : DirtyRect} (h : r.intersection s = none)
    {p : Pixel} (hr : r.Mem p) : ¬ s.Mem p := by
  unfold intersection at h
  dsimp only at h
  split at h
  · cases h
  · unfold Mem at *
    omega

/-- Two rectangles intersect exactly if they share a pixel. -/
theorem intersection_isSome_iff {r s : DirtyRect} :
    (r.intersection s).isSome = true ↔ ∃ p, r.Mem p ∧ s.Mem p := by
  constructor
  · intro h
    obtain ⟨t, ht⟩ := Option.isSome_iff_exists.mp h
    have he := intersection_eq_some_iff.mp ht
    exact ⟨(t.x0, t.y0), (mem_intersection ht _).mp (by unfold Mem; dsimp only; omega)⟩
  · rintro ⟨p, hr, hs⟩
    cases h : r.intersection s with
    | none => exact absurd hs (not_mem_of_intersection_eq_none h hr)
    | some t => rfl

theorem intersection_not_isEmpty {r s t : DirtyRect} (h : r.intersection s = some t) :
    t.isEmpty = false := by
  rw [intersection_eq_some_iff] at h
  exact isEmpty_eq_false_iff.mpr ⟨h.2.2.2.2.1, h.2.2.2.2.2⟩

theorem contains_intersection_right {r s t : DirtyRect} (h : r.intersection s = some t) :
    s.contains t = true := by
  rw [intersection_eq_some_iff] at h
  rw [contains_iff]
  omega

theorem contains_union_left (r s : DirtyRect) : (r.union s).contains r = true := by
  rw [contains_iff]
  simp only [union]
  omega

theorem contains_union_right (r s : DirtyRect) : (r.union s).contains s = true := by
  rw [contains_iff]
  simp only [union]
  omega

end DirtyRect

/-! ## 2. The list -/

def DIRTY_RECT_LIST_CAP : Nat := 32

def EMPTY_DIRTY_RECT : DirtyRect := ⟨0, 0, 0, 0⟩

/-- `DirtyRectList`: the array keeps whatever was written past `len` before a `clear`. -/
structure DirtyRectList where
  rects : Vector DirtyRect DIRTY_RECT_LIST_CAP
  len : Nat
  len_le : len ≤ DIRTY_RECT_LIST_CAP
  deriving DecidableEq, Repr

namespace DirtyRectList

/-- `iter()`: the first `len` entries. -/
def iter (l : DirtyRectList) : List DirtyRect := l.rects.toList.take l.len

def new : DirtyRectList := ⟨Vector.replicate _ EMPTY_DIRTY_RECT, 0, by decide⟩

/-- `len = 0`; the entries stay in the array. -/
def clear (l : DirtyRectList) : DirtyRectList := { l with len := 0, len_le := Nat.zero_le _ }

def isEmpty (l : DirtyRectList) : Bool := l.len == 0

/-- `try_push`: `none` is the source's `false`, which leaves the list alone. -/
def tryPush (l : DirtyRectList) (rect : DirtyRect) : Option DirtyRectList :=
  if h : l.len = DIRTY_RECT_LIST_CAP then none
  else some
    { rects := l.rects.set l.len rect (Nat.lt_of_le_of_ne l.len_le h)
      len := l.len + 1
      len_le := Nat.lt_of_le_of_ne l.len_le h }

/-- `push` of a release build: on a full list the rectangle is merged into the last entry. A debug
    build panics there instead (`debug_assert!`). -/
def push (l : DirtyRectList) (rect : DirtyRect) : DirtyRectList :=
  if rect.isEmpty then l
  else match l.tryPush rect with
    | some l' => l'
    | none =>
        let last := DIRTY_RECT_LIST_CAP - 1
        { l with rects := l.rects.set last (l.rects[last].union rect) (by decide) }

def fromOne (rect : DirtyRect) : DirtyRectList := new.push rect

def pushIfSome (l : DirtyRectList) : Option DirtyRect → DirtyRectList
  | some rect => l.push rect
  | none => l

def extendFrom (l other : DirtyRectList) : DirtyRectList := other.iter.foldl push l

def totalRgb565Bytes (l : DirtyRectList) : Nat :=
  (l.iter.map fun rect => rect.width * rect.rows * 2).sum

/-- `add_canonical`: clip to the surface, drop what is covered, rebuild the list in place and
    fall back to the whole surface when it does not fit. -/
def addCanonical (self : DirtyRectList) (rect fullRect : DirtyRect) : DirtyRectList :=
  match rect.intersection fullRect with
  | none => self
  | some rect =>
      if self.iter.any (·.contains rect) then self
      else
        let kept := self.iter.filter fun existing => !rect.contains existing
        match kept.foldlM tryPush self.clear with
        | none => fromOne fullRect
        | some l => (l.tryPush rect).getD (fromOne fullRect)

/-- The loop of `extend_canonical`, with its early exit on the whole-array comparison. -/
def extendCanonicalLoop (fullRect : DirtyRect) : List DirtyRect → DirtyRectList → DirtyRectList
  | [], self => self
  | rect :: rest, self =>
      let self := self.addCanonical rect fullRect
      if self = fromOne fullRect then self else extendCanonicalLoop fullRect rest self

def extendCanonical (self damage : DirtyRectList) (fullRect : DirtyRect) : DirtyRectList :=
  extendCanonicalLoop fullRect damage.iter self

end DirtyRectList

/-- The pieces `subtract_rect_into` pushes, in its order: above, below, left and right. -/
def subtractRectPieces (rect overlap : DirtyRect) : List DirtyRect :=
  (if rect.y0 < overlap.y0 then [⟨rect.x0, rect.y0, rect.x1, overlap.y0⟩] else []) ++
  (if overlap.y1 < rect.y1 then [⟨rect.x0, overlap.y1, rect.x1, rect.y1⟩] else []) ++
  (if rect.x0 < overlap.x0 then [⟨rect.x0, overlap.y0, overlap.x0, overlap.y1⟩] else []) ++
  (if overlap.x1 < rect.x1 then [⟨overlap.x1, overlap.y0, rect.x1, overlap.y1⟩] else [])

/-- `subtract_rect_into`: `none` is the source's `false`. -/
def subtractRectInto (cut : DirtyRect) (out : DirtyRectList) (rect : DirtyRect) :
    Option DirtyRectList :=
  match rect.intersection cut with
  | none => out.tryPush rect
  | some overlap => (subtractRectPieces rect overlap).foldlM DirtyRectList.tryPush out

/-- The loop of `subtract_dirty_rects`; `next` is the scratch list the source swaps with
    `current` after every cut. -/
def subtractLoop (original : DirtyRectList) :
    List DirtyRect → DirtyRectList → DirtyRectList → DirtyRectList
  | [], current, _ => current
  | cut :: rest, current, next =>
      match current.iter.foldlM (subtractRectInto cut) next.clear with
      | none => original
      | some next => if next.isEmpty then next else subtractLoop original rest next current

def subtractDirtyRects (rects cuts : DirtyRectList) : DirtyRectList :=
  subtractLoop rects cuts.iter rects DirtyRectList.new

/-! ## 3. What the list operations do to the entries -/

namespace DirtyRectList

@[simp] theorem length_iter (l : DirtyRectList) : l.iter.length = l.len := by
  have h := l.len_le
  simp [iter, Nat.min_eq_left h]

@[simp] theorem iter_clear (l : DirtyRectList) : l.clear.iter = [] := by simp [iter, clear]

@[simp] theorem iter_new : new.iter = [] := by simp [iter, new]

theorem tryPush_eq_none_iff {l : DirtyRectList} {rect : DirtyRect} :
    l.tryPush rect = none ↔ l.len = DIRTY_RECT_LIST_CAP := by
  unfold tryPush
  split <;> simp_all

theorem iter_of_tryPush {l l' : DirtyRectList} {rect : DirtyRect} (h : l.tryPush rect = some l') :
    l'.iter = l.iter ++ [rect] := by
  unfold tryPush at h
  split at h
  · cases h
  · rename_i hne
    have hlt : l.len < DIRTY_RECT_LIST_CAP := Nat.lt_of_le_of_ne l.len_le hne
    obtain rfl := Option.some.inj h
    simp only [iter, Vector.toList_set]
    rw [List.take_add_one, List.take_set_of_le (Nat.le_refl _),
      List.getElem?_set_self (by simpa using hlt)]
    rfl

theorem iter_of_foldlM_tryPush {rs : List DirtyRect} {l l' : DirtyRectList}
    (h : rs.foldlM tryPush l = some l') : l'.iter = l.iter ++ rs := by
  induction rs generalizing l with
  | nil =>
      obtain rfl : l = l' := by simpa using h
      simp
  | cons r rs ih =>
      rw [List.foldlM_cons, Option.bind_eq_bind, Option.bind_eq_some_iff] at h
      obtain ⟨m, hm, h⟩ := h
      rw [ih h, iter_of_tryPush hm, List.append_assoc]
      rfl

theorem push_of_isEmpty {l : DirtyRectList} {rect : DirtyRect} (h : rect.isEmpty = true) :
    l.push rect = l := by simp [push, h]

theorem iter_push_of_lt {l : DirtyRectList} {rect : DirtyRect} (h : rect.isEmpty = false)
    (hl : l.len < DIRTY_RECT_LIST_CAP) : (l.push rect).iter = l.iter ++ [rect] := by
  cases ht : l.tryPush rect with
  | none => exact absurd (tryPush_eq_none_iff.mp ht) (Nat.ne_of_lt hl)
  | some l' => simpa [push, h, ht] using iter_of_tryPush ht

/-- On a full list the last entry grows. -/
theorem iter_push_of_full {l : DirtyRectList} {rect : DirtyRect} (h : rect.isEmpty = false)
    (hl : l.len = DIRTY_RECT_LIST_CAP) :
    ∃ init last, l.iter = init ++ [last] ∧ (l.push rect).iter = init ++ [last.union rect] := by
  have ht : l.tryPush rect = none := tryPush_eq_none_iff.mpr hl
  have hlen : l.rects.toList.length = DIRTY_RECT_LIST_CAP := by simp
  refine ⟨l.rects.toList.take 31, l.rects[31], ?_, ?_⟩
  · have h31 : l.iter = l.rects.toList.take (31 + 1) := by unfold iter; rw [hl]; rfl
    rw [h31, List.take_add_one, List.getElem?_eq_getElem (by rw [hlen]; decide)]
    simp
  · have h31 : (l.push rect).iter =
        (l.rects.toList.set 31 (l.rects[31].union rect)).take (31 + 1) := by
      simp only [push, h, ht, iter, hl]
      rfl
    rw [h31, List.take_add_one, List.take_set_of_le (Nat.le_refl _),
      List.getElem?_set_self (by rw [hlen]; decide)]
    rfl

theorem iter_fromOne {rect : DirtyRect} (h : rect.isEmpty = false) :
    (fromOne rect).iter = [rect] := by
  unfold fromOne
  rw [iter_push_of_lt h (by decide), iter_new, List.nil_append]

/-- Everything `add_canonical` can do. -/
theorem addCanonical_cases (self : DirtyRectList) (rect fullRect : DirtyRect) :
    (rect.intersection fullRect = none ∧ self.addCanonical rect fullRect = self) ∨
    ∃ t, rect.intersection fullRect = some t ∧
      (((∃ e ∈ self.iter, e.contains t = true) ∧ self.addCanonical rect fullRect = self) ∨
       ((∀ e ∈ self.iter, e.contains t = false) ∧ (self.addCanonical rect fullRect).iter =
          self.iter.filter (fun e => !t.contains e) ++ [t]) ∨
       self.addCanonical rect fullRect = fromOne fullRect) := by
  unfold addCanonical
  cases hi : rect.intersection fullRect with
  | none => exact .inl ⟨rfl, rfl⟩
  | some t =>
      refine .inr ⟨t, rfl, ?_⟩
      dsimp only
      split
      · rename_i hc
        exact .inl ⟨by simpa using hc, rfl⟩
      · rename_i hc
        have hc' : ∀ e ∈ self.iter, e.contains t = false := by simpa using hc
        cases hk : (self.iter.filter fun e => !t.contains e).foldlM tryPush self.clear with
        | none => exact .inr (.inr rfl)
        | some m =>
            cases hp : m.tryPush t with
            | none => exact .inr (.inr (by simp [hp]))
            | some n =>
                refine .inr (.inl ⟨hc', ?_⟩)
                simp only [hp, Option.getD_some]
                rw [iter_of_tryPush hp, iter_of_foldlM_tryPush hk, iter_clear, List.nil_append]

/-! ## 4. The pixels a list covers -/

/-- Some entry contains the pixel. -/
def Covers (l : DirtyRectList) (p : Pixel) : Prop := ∃ r ∈ l.iter, r.Mem p

instance (l : DirtyRectList) (p : Pixel) : Decidable (l.Covers p) :=
  inferInstanceAs (Decidable (∃ r ∈ l.iter, r.Mem p))

@[simp] theorem not_covers_new (p : Pixel) : ¬ new.Covers p := by simp [Covers]

@[simp] theorem not_covers_clear (l : DirtyRectList) (p : Pixel) : ¬ l.clear.Covers p := by
  simp [Covers]

/-- No hypothesis on the rectangle: an empty one is not pushed and covers nothing. -/
@[simp] theorem covers_fromOne {rect : DirtyRect} {p : Pixel} :
    (fromOne rect).Covers p ↔ rect.Mem p := by
  cases h : rect.isEmpty with
  | false => simp [Covers, iter_fromOne h]
  | true =>
      have e : fromOne rect = new := push_of_isEmpty h
      simp [e, DirtyRect.not_mem_of_isEmpty h]

theorem covers_push_of_covers {l : DirtyRectList} {rect : DirtyRect} {p : Pixel}
    (hp : l.Covers p) : (l.push rect).Covers p := by
  cases h : rect.isEmpty with
  | true => rwa [push_of_isEmpty h]
  | false =>
      obtain ⟨r, hr, hrp⟩ := hp
      rcases Nat.lt_or_ge l.len DIRTY_RECT_LIST_CAP with hl | hl
      · exact ⟨r, by rw [iter_push_of_lt h hl]; exact List.mem_append_left _ hr, hrp⟩
      · obtain ⟨init, last, e1, e2⟩ := iter_push_of_full h (Nat.le_antisymm l.len_le hl)
        rw [e1, List.mem_append, List.mem_singleton] at hr
        rcases hr with hr | rfl
        · exact ⟨r, by rw [e2]; exact List.mem_append_left _ hr, hrp⟩
        · exact ⟨r.union rect, by simp [e2], hrp.mono (DirtyRect.contains_union_left _ _)⟩

theorem covers_push_self {l : DirtyRectList} {rect : DirtyRect} {p : Pixel} (hp : rect.Mem p) :
    (l.push rect).Covers p := by
  cases h : rect.isEmpty with
  | true => exact absurd hp (DirtyRect.not_mem_of_isEmpty h p)
  | false =>
      rcases Nat.lt_or_ge l.len DIRTY_RECT_LIST_CAP with hl | hl
      · exact ⟨rect, by simp [iter_push_of_lt h hl], hp⟩
      · obtain ⟨init, last, -, e2⟩ := iter_push_of_full h (Nat.le_antisymm l.len_le hl)
        exact ⟨last.union rect, by simp [e2], hp.mono (DirtyRect.contains_union_right _ _)⟩

/-- **Canonical insertion loses no pixel**: the old pixels and the clipped new ones stay covered. -/
theorem covers_addCanonical {self : DirtyRectList} {rect fullRect : DirtyRect} {p : Pixel}
    (hp : fullRect.Mem p) (h : self.Covers p ∨ rect.Mem p) :
    (self.addCanonical rect fullRect).Covers p := by
  rcases addCanonical_cases self rect fullRect with ⟨hi, e⟩ | ⟨t, hi, hc⟩
  · rw [e]
    exact h.resolve_right fun hr => DirtyRect.not_mem_of_intersection_eq_none hi hr hp
  · have ht : rect.Mem p → t.Mem p := fun hr => (DirtyRect.mem_intersection hi p).mpr ⟨hr, hp⟩
    rcases hc with ⟨⟨e, he, hec⟩, e'⟩ | ⟨-, e'⟩ | e'
    · rw [e']
      exact h.elim id fun hr => ⟨e, he, (ht hr).mono hec⟩
    · unfold Covers
      rw [e']
      rcases h with ⟨r, hr, hrp⟩ | hr
      · -- an entry is dropped only when the new rectangle contains it
        cases htr : t.contains r with
        | true => exact ⟨t, by simp, hrp.mono htr⟩
        | false => exact ⟨r, List.mem_append_left _ (List.mem_filter.mpr ⟨hr, by simp [htr]⟩), hrp⟩
      · exact ⟨t, by simp, ht hr⟩
    · rw [e']
      exact covers_fromOne.mpr hp

theorem covers_extendCanonicalLoop {fullRect : DirtyRect} {p : Pixel} (hp : fullRect.Mem p) :
    ∀ (rs : List DirtyRect) (self : DirtyRectList),
      (self.Covers p ∨ ∃ r ∈ rs, r.Mem p) → (extendCanonicalLoop fullRect rs self).Covers p
  | [], self, h => by simpa [extendCanonicalLoop] using h
  | r :: rs, self, h => by
      have hs : self.Covers p ∨ r.Mem p → (self.addCanonical r fullRect).Covers p :=
        covers_addCanonical hp
      unfold extendCanonicalLoop
      dsimp only
      split
      · -- the early exit: the list is the whole surface already
        rename_i e
        rw [e]
        exact covers_fromOne.mpr hp
      · refine covers_extendCanonicalLoop hp rs _ ?_
        rcases h with h | ⟨r', hr', hrp⟩
        · exact .inl (hs (.inl h))
        · rcases List.mem_cons.mp hr' with rfl | hr'
          · exact .inl (hs (.inr hrp))
          · exact .inr ⟨r', hr', hrp⟩

theorem covers_extendCanonical {self damage : DirtyRectList} {fullRect : DirtyRect} {p : Pixel}
    (hp : fullRect.Mem p) (h : self.Covers p ∨ damage.Covers p) :
    (self.extendCanonical damage fullRect).Covers p :=
  covers_extendCanonicalLoop hp _ _ h

/-! ## 5. The representation canonical insertion keeps -/

/-- Every entry is non-empty and inside the surface, and no entry contains another. -/
structure Canonical (fullRect : DirtyRect) (l : DirtyRectList) : Prop where
  nonempty : ∀ r ∈ l.iter, r.isEmpty = false
  inside : ∀ r ∈ l.iter, fullRect.contains r = true
  incomparable : l.iter.Pairwise fun a b => a.contains b = false ∧ b.contains a = false

theorem canonical_clear (fullRect : DirtyRect) (l : DirtyRectList) :
    Canonical fullRect l.clear where
  nonempty := by simp
  inside := by simp
  incomparable := by simp

theorem canonical_fromOne {fullRect : DirtyRect} (h : fullRect.isEmpty = false) :
    Canonical fullRect (fromOne fullRect) where
  nonempty := by simp [iter_fromOne h, h]
  inside := by simp [iter_fromOne h, DirtyRect.contains_refl]
  incomparable := by simp [iter_fromOne h]

theorem Canonical.addCanonical {fullRect : DirtyRect} (hf : fullRect.isEmpty = false)
    {l : DirtyRectList} (h : Canonical fullRect l) (rect : DirtyRect) :
    Canonical fullRect (l.addCanonical rect fullRect) := by
  rcases addCanonical_cases l rect fullRect with ⟨-, e⟩ | ⟨t, hi, hc⟩
  · rwa [e]
  rcases hc with ⟨-, e⟩ | ⟨hnc, e⟩ | e
  · rwa [e]
  · have hmem : ∀ r ∈ (l.addCanonical rect fullRect).iter, r ∈ l.iter ∨ r = t := by
      intro r hr
      rw [e, List.mem_append, List.mem_filter, List.mem_singleton] at hr
      exact hr.imp (·.1) id
    refine ⟨fun r hr => ?_, fun r hr => ?_, ?_⟩
    · rcases hmem r hr with hr | rfl
      · exact h.nonempty r hr
      · exact DirtyRect.intersection_not_isEmpty hi
    · rcases hmem r hr with hr | rfl
      · exact h.inside r hr
      · exact DirtyRect.contains_intersection_right hi
    · rw [e]
      refine List.pairwise_append.mpr ⟨h.incomparable.sublist List.filter_sublist,
        List.pairwise_singleton _ _, fun a ha b hb => ?_⟩
      rw [List.mem_singleton] at hb
      subst hb
      rw [List.mem_filter] at ha
      exact ⟨hnc a ha.1, by simpa using ha.2⟩
  · rw [e]
    exact canonical_fromOne hf

theorem Canonical.extendCanonical {fullRect : DirtyRect} (hf : fullRect.isEmpty = false)
    {l : DirtyRectList} (h : Canonical fullRect l) (damage : DirtyRectList) :
    Canonical fullRect (l.extendCanonical damage fullRect) := by
  unfold DirtyRectList.extendCanonical
  generalize damage.iter = rs
  induction rs generalizing l with
  | nil => exact h
  | cons r rs ih =>
      unfold extendCanonicalLoop
      dsimp only
      split
      · exact h.addCanonical hf r
      · exact ih (h.addCanonical hf r)

end DirtyRectList

/-! ## 6. Subtraction -/

/-- The pieces are the rectangle without the overlap. -/
theorem mem_subtractRectPieces {rect cut overlap : DirtyRect}
    (h : rect.intersection cut = some overlap) (p : Pixel) :
    (∃ r ∈ subtractRectPieces rect overlap, r.Mem p) ↔ rect.Mem p ∧ ¬ cut.Mem p := by
  have hm := DirtyRect.mem_intersection h p
  have hi := DirtyRect.intersection_eq_some_iff.mp h
  have hpieces : (∃ r ∈ subtractRectPieces rect overlap, r.Mem p) ↔
      rect.Mem p ∧ ¬ overlap.Mem p := by
    simp only [subtractRectPieces, List.mem_append, List.mem_ite_nil_right, List.mem_singleton]
    constructor
    · rintro ⟨r, ((⟨hc, rfl⟩ | ⟨hc, rfl⟩) | ⟨hc, rfl⟩) | ⟨hc, rfl⟩, hp⟩ <;>
        · unfold DirtyRect.Mem at *
          dsimp only at *
          omega
    · rintro ⟨hr, ho⟩
      unfold DirtyRect.Mem at hr ho
      rcases Nat.lt_or_ge p.2 overlap.y0 with h1 | h1
      · exact ⟨_, .inl (.inl (.inl ⟨by omega, rfl⟩)), by unfold DirtyRect.Mem; dsimp only; omega⟩
      rcases Nat.lt_or_ge p.2 overlap.y1 with h2 | h2
      · rcases Nat.lt_or_ge p.1 overlap.x0 with h3 | h3
        · exact ⟨_, .inl (.inr ⟨by omega, rfl⟩), by unfold DirtyRect.Mem; dsimp only; omega⟩
        · exact ⟨_, .inr ⟨by omega, rfl⟩, by unfold DirtyRect.Mem; dsimp only; omega⟩
      · exact ⟨_, .inl (.inl (.inr ⟨by omega, rfl⟩)), by unfold DirtyRect.Mem; dsimp only; omega⟩
  rw [hpieces, hm]
  tauto

theorem covers_of_iter_append {l l' : DirtyRectList} {rs : List DirtyRect}
    (h : l'.iter = l.iter ++ rs) (p : Pixel) :
    l'.Covers p ↔ l.Covers p ∨ ∃ r ∈ rs, r.Mem p := by
  unfold DirtyRectList.Covers
  rw [h]
  simp only [List.mem_append, or_and_right, exists_or]

/-- One rectangle pushed through one cut adds its pixels outside the cut. -/
theorem covers_subtractRectInto {cut rect : DirtyRect} {out out' : DirtyRectList}
    (h : subtractRectInto cut out rect = some out') (p : Pixel) :
    out'.Covers p ↔ out.Covers p ∨ (rect.Mem p ∧ ¬ cut.Mem p) := by
  unfold subtractRectInto at h
  cases hi : rect.intersection cut with
  | none =>
      rw [hi] at h
      rw [covers_of_iter_append (DirtyRectList.iter_of_tryPush h) p]
      have : rect.Mem p → ¬ cut.Mem p := DirtyRect.not_mem_of_intersection_eq_none hi
      simp only [List.mem_singleton, exists_eq_left]
      tauto
  | some overlap =>
      rw [hi] at h
      rw [covers_of_iter_append (DirtyRectList.iter_of_foldlM_tryPush h) p,
        mem_subtractRectPieces hi]

theorem covers_foldlM_subtractRectInto {cut : DirtyRect} {p : Pixel} :
    ∀ {rs : List DirtyRect} {out out' : DirtyRectList},
      rs.foldlM (subtractRectInto cut) out = some out' →
      (out'.Covers p ↔ out.Covers p ∨ ((∃ r ∈ rs, r.Mem p) ∧ ¬ cut.Mem p))
  | [], out, out', h => by
      obtain rfl : out = out' := by simpa using h
      simp
  | r :: rs, out, out', h => by
      rw [List.foldlM_cons, Option.bind_eq_bind, Option.bind_eq_some_iff] at h
      obtain ⟨m, hm, h⟩ := h
      rw [covers_foldlM_subtractRectInto h, covers_subtractRectInto hm]
      simp only [List.mem_cons, exists_eq_or_imp]
      tauto

/-- What the loop keeps: the pixels outside the remaining cuts, and only covered pixels. -/
theorem covers_subtractLoop (original : DirtyRectList) {p : Pixel} :
    ∀ (cuts : List DirtyRect) (current next : DirtyRectList),
      (current.Covers p → original.Covers p) →
      (current.Covers p → (∀ c ∈ cuts, ¬ c.Mem p) →
        (subtractLoop original cuts current next).Covers p) ∧
      ((subtractLoop original cuts current next).Covers p → original.Covers p)
  | [], current, next, hsub => ⟨fun h _ => h, hsub⟩
  | cut :: rest, current, next, hsub => by
      unfold subtractLoop
      cases hf : current.iter.foldlM (subtractRectInto cut) next.clear with
      | none => exact ⟨fun h _ => hsub h, id⟩
      | some m =>
          have hm : m.Covers p ↔ current.Covers p ∧ ¬ cut.Mem p := by
            rw [covers_foldlM_subtractRectInto hf]
            simp [DirtyRectList.Covers]
          have ih := covers_subtractLoop original rest m current
            (fun h => hsub (hm.mp h).1)
          dsimp only
          split
          · exact ⟨fun h hc => hm.mpr ⟨h, hc cut (List.mem_cons_self ..)⟩,
              fun h => hsub (hm.mp h).1⟩
          · exact ⟨fun h hc => ih.1 (hm.mpr ⟨h, hc cut (List.mem_cons_self ..)⟩)
              fun c hc' => hc c (List.mem_cons_of_mem _ hc'), ih.2⟩

/-- Subtraction keeps every pixel outside the cuts. -/
theorem covers_subtractDirtyRects_of_not_cut {rects cuts : DirtyRectList} {p : Pixel}
    (h : rects.Covers p) (hc : ¬ cuts.Covers p) : (subtractDirtyRects rects cuts).Covers p :=
  (covers_subtractLoop _ cuts.iter rects _ id).1 h fun c hcm hp => hc ⟨c, hcm, hp⟩

/-- Subtraction covers only pixels of the list it started from. -/
theorem covers_of_covers_subtractDirtyRects {rects cuts : DirtyRectList} {p : Pixel}
    (h : (subtractDirtyRects rects cuts).Covers p) : rects.Covers p :=
  (covers_subtractLoop _ cuts.iter rects _ id).2 h

end MisterMagik.Framebuffer
