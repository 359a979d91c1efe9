/-
  File:      MisterMagik/Scenes/OutputLayout.lean
  Subject:   Where an upright scene stands in a rotated framebuffer (`framebuffer-scenes`: `lib.rs`)

  Scenes draw in logical coordinates; a layout says how their pixels lie in a strided buffer,
  upright or a quarter turn either way. A region is a part of the scene with a dense buffer of its
  own.

  * `physicalToLogical_logicalToPhysical`, `logicalToPhysical_physicalToLogical` -- the two maps
    are inverse bijections; `physicalOffset_inj`, `physicalOffset_lt`;
  * `mem_logicalRectToPhysical` -- the image of a rectangle; `logicalToPhysical_add`, of a shift;
  * `denseOffset_lt_iff` -- a region has its pixels in the order of the framebuffer.
-/
import Mathlib.Algebra.Ring.Nat
import Mathlib.Tactic.Linarith
import Mathlib.Tactic.Ring

namespace MisterMagik.Scenes

/-! ## 1. Rectangles -/

structure Rgb565Rect where
  x0 : Nat
  y0 : Nat
  x1 : Nat
  y1 : Nat
  deriving DecidableEq, Repr

namespace Rgb565Rect

def width (r : Rgb565Rect) : Nat := r.x1 - r.x0

def height (r : Rgb565Rect) : Nat := r.y1 - r.y0

def Mem (r : Rgb565Rect) (x y : Nat) : Prop := r.x0 ≤ x ∧ x < r.x1 ∧ r.y0 ≤ y ∧ y < r.y1

instance (r : Rgb565Rect) (x y : Nat) : Decidable (r.Mem x y) :=
  inferInstanceAs (Decidable (_ ∧ _ ∧ _ ∧ _))

end Rgb565Rect

inductive OutputRotation where
  | none
  | clockwise90
  | counterClockwise90
  deriving DecidableEq, Repr

def OutputRotation.transposesAxes (self : OutputRotation) : Bool := self ≠ .none

/-- The physical width and height of a scene. -/
def OutputRotation.physicalSize (self : OutputRotation) (width height : Nat) : Nat × Nat :=
  if self.transposesAxes then (height, width) else (width, height)

inductive SceneError where
  | invalidGeometry (message : String)
  | targetSizeMismatch (actual expected : Nat)
  deriving DecidableEq, Repr

/-! ## 2. Layouts -/

/-- What `new` accepts where `usizeMax` is the largest `usize`. -/
structure Rgb565OutputLayout (usizeMax : Nat) where
  logicalWidth : Nat
  logicalHeight : Nat
  physicalWidth : Nat
  physicalHeight : Nat
  physicalStride : Nat
  len : Nat
  rotation : OutputRotation
  width_pos : 0 < logicalWidth
  height_pos : 0 < logicalHeight
  physical : (physicalWidth, physicalHeight) = rotation.physicalSize logicalWidth logicalHeight
  stride : physicalWidth ≤ physicalStride
  len_eq : len = physicalStride * physicalHeight
  fits : len ≤ usizeMax

namespace Rgb565OutputLayout

variable {usizeMax : Nat}

def new (usizeMax logicalWidth logicalHeight physicalStride : Nat) (rotation : OutputRotation) :
    Except SceneError (Rgb565OutputLayout usizeMax) :=
  if hzero : logicalWidth = 0 ∨ logicalHeight = 0 then
    .error (.invalidGeometry "RGB565 output dimensions must be nonzero")
  else
    if hstride : physicalStride < (rotation.physicalSize logicalWidth logicalHeight).1 then
      .error (.invalidGeometry "RGB565 output stride must cover its physical width")
    else if hlen :
        physicalStride * (rotation.physicalSize logicalWidth logicalHeight).2 ≤ usizeMax then
      .ok
        { logicalWidth, logicalHeight
          physicalWidth := (rotation.physicalSize logicalWidth logicalHeight).1
          physicalHeight := (rotation.physicalSize logicalWidth logicalHeight).2
          physicalStride
          len := physicalStride * (rotation.physicalSize logicalWidth logicalHeight).2
          rotation
          width_pos := Nat.pos_of_ne_zero fun h => hzero (.inl h)
          height_pos := Nat.pos_of_ne_zero fun h => hzero (.inr h)
          physical := rfl
          stride := Nat.not_lt.mp hstride
          len_eq := rfl
          fits := hlen }
    else .error (.invalidGeometry "RGB565 output buffer length overflows")

/-- `-d` on an `isize`, which has no opposite of its least value. -/
def negIsize (usizeMax : Nat) (d : Int) : Option Int :=
  if -d ≤ (usizeMax / 2 : Nat) then some (-d) else none

variable (layout : Rgb565OutputLayout usizeMax)

def logicalToPhysical (x y : Nat) : Nat × Nat :=
  match layout.rotation with
  | .none => (x, y)
  | .clockwise90 => (layout.logicalHeight - 1 - y, x)
  | .counterClockwise90 => (y, layout.logicalWidth - 1 - x)

def physicalToLogical (x y : Nat) : Nat × Nat :=
  match layout.rotation with
  | .none => (x, y)
  | .clockwise90 => (y, layout.logicalHeight - 1 - x)
  | .counterClockwise90 => (layout.logicalWidth - 1 - y, x)

def logicalDeltaToPhysical (dx dy : Int) : Option (Int × Int) :=
  match layout.rotation with
  | .none => some (dx, dy)
  | .clockwise90 => (negIsize usizeMax dy).map fun negated => (negated, dx)
  | .counterClockwise90 => (negIsize usizeMax dx).map fun negated => (dy, negated)

def logicalRectToPhysical (rect : Rgb565Rect) : Rgb565Rect :=
  let rect : Rgb565Rect :=
    { x0 := min rect.x0 layout.logicalWidth
      y0 := min rect.y0 layout.logicalHeight
      x1 := min rect.x1 layout.logicalWidth
      y1 := min rect.y1 layout.logicalHeight }
  match layout.rotation with
  | .none => rect
  | .clockwise90 =>
      { x0 := layout.logicalHeight - rect.y1
        y0 := rect.x0
        x1 := layout.logicalHeight - rect.y0
        y1 := rect.x1 }
  | .counterClockwise90 =>
      { x0 := rect.y0
        y0 := layout.logicalWidth - rect.x1
        x1 := rect.y1
        y1 := layout.logicalWidth - rect.x0 }

def physicalOffset (logicalX logicalY : Nat) : Nat :=
  (layout.logicalToPhysical logicalX logicalY).2 * layout.physicalStride +
    (layout.logicalToPhysical logicalX logicalY).1

/-! ## 3. The mapping -/

variable {layout} {x y x' y' px py : Nat}

variable (layout) in
/-- The physical extents of each rotation. -/
theorem physical_cases :
    (layout.rotation = .none ∧ layout.physicalWidth = layout.logicalWidth ∧
        layout.physicalHeight = layout.logicalHeight) ∨
      ((layout.rotation = .clockwise90 ∨ layout.rotation = .counterClockwise90) ∧
        layout.physicalWidth = layout.logicalHeight ∧
        layout.physicalHeight = layout.logicalWidth) := by
  have hphysical := layout.physical
  unfold OutputRotation.physicalSize OutputRotation.transposesAxes at hphysical
  cases h : layout.rotation with
  | none =>
      rw [h] at hphysical
      exact .inl ⟨rfl, Prod.mk.inj hphysical⟩
  | clockwise90 =>
      rw [h] at hphysical
      exact .inr ⟨.inl rfl, Prod.mk.inj hphysical⟩
  | counterClockwise90 =>
      rw [h] at hphysical
      exact .inr ⟨.inr rfl, Prod.mk.inj hphysical⟩

theorem logicalToPhysical_lt (hx : x < layout.logicalWidth) (hy : y < layout.logicalHeight) :
    (layout.logicalToPhysical x y).1 < layout.physicalWidth ∧
      (layout.logicalToPhysical x y).2 < layout.physicalHeight := by
  unfold logicalToPhysical
  obtain ⟨h, hw, hh⟩ | ⟨h | h, hw, hh⟩ := physical_cases layout <;>
    rw [h, hw, hh] <;> dsimp only <;> omega

theorem physicalToLogical_lt (hx : px < layout.physicalWidth) (hy : py < layout.physicalHeight) :
    (layout.physicalToLogical px py).1 < layout.logicalWidth ∧
      (layout.physicalToLogical px py).2 < layout.logicalHeight := by
  unfold physicalToLogical
  obtain ⟨h, hw, hh⟩ | ⟨h | h, hw, hh⟩ := physical_cases layout <;>
    rw [h] <;> dsimp only <;> omega

theorem physicalToLogical_logicalToPhysical (hx : x < layout.logicalWidth)
    (hy : y < layout.logicalHeight) :
    layout.physicalToLogical (layout.logicalToPhysical x y).1 (layout.logicalToPhysical x y).2 =
      (x, y) := by
  unfold physicalToLogical logicalToPhysical
  cases layout.rotation with
  | none => rfl
  | clockwise90 => exact Prod.ext rfl (by dsimp only; omega)
  | counterClockwise90 => exact Prod.ext (by dsimp only; omega) rfl

theorem logicalToPhysical_physicalToLogical (hx : px < layout.physicalWidth)
    (hy : py < layout.physicalHeight) :
    layout.logicalToPhysical (layout.physicalToLogical px py).1
      (layout.physicalToLogical px py).2 = (px, py) := by
  unfold physicalToLogical logicalToPhysical
  obtain ⟨h, hw, hh⟩ | ⟨h | h, hw, hh⟩ := physical_cases layout <;> rw [h]
  · exact Prod.ext (by dsimp only; omega) rfl
  · exact Prod.ext rfl (by dsimp only; omega)

/-- Rows of a stride are ordered row by row. -/
theorem row_lt_iff (a a' : Nat) {b b' stride : Nat} (hb : b < stride) (hb' : b' < stride) :
    a * stride + b < a' * stride + b' ↔ a < a' ∨ (a = a' ∧ b < b') := by
  constructor
  · intro h
    rcases Nat.lt_trichotomy a a' with hlt | rfl | hgt
    · exact .inl hlt
    · exact .inr ⟨rfl, by omega⟩
    · have hle := Nat.mul_le_mul_right stride (Nat.succ_le_of_lt hgt)
      rw [Nat.succ_mul] at hle
      omega
  · rintro (hlt | ⟨rfl, hlt⟩)
    · have hle := Nat.mul_le_mul_right stride (Nat.succ_le_of_lt hlt)
      rw [Nat.succ_mul] at hle
      omega
    · omega

theorem row_inj {a b a' b' stride : Nat} (hb : b < stride) (hb' : b' < stride)
    (h : a * stride + b = a' * stride + b') : a = a' ∧ b = b' := by
  have hlt := (row_lt_iff a a' hb hb').not.mp (by omega)
  have hgt := (row_lt_iff a' a hb' hb).not.mp (by omega)
  omega

theorem physicalOffset_lt (hx : x < layout.logicalWidth) (hy : y < layout.logicalHeight) :
    layout.physicalOffset x y < layout.len := by
  obtain ⟨hpx, hpy⟩ := logicalToPhysical_lt hx hy
  have hstride := layout.stride
  have hle := Nat.mul_le_mul_right layout.physicalStride (Nat.succ_le_of_lt hpy)
  rw [Nat.succ_mul] at hle
  unfold physicalOffset
  rw [layout.len_eq, Nat.mul_comm layout.physicalStride]
  omega

theorem physicalOffset_inj (hx : x < layout.logicalWidth) (hy : y < layout.logicalHeight)
    (hx' : x' < layout.logicalWidth) (hy' : y' < layout.logicalHeight)
    (h : layout.physicalOffset x y = layout.physicalOffset x' y') : x = x' ∧ y = y' := by
  have hstride := layout.stride
  have hp := logicalToPhysical_lt hx hy
  have hp' := logicalToPhysical_lt hx' hy'
  obtain ⟨hrow, hcolumn⟩ := row_inj (by omega) (by omega) h
  have hback := physicalToLogical_logicalToPhysical hx hy
  rw [hrow, hcolumn, physicalToLogical_logicalToPhysical hx' hy'] at hback
  exact (Prod.mk.inj hback).imp Eq.symm Eq.symm

/-- **The image of a rectangle**, clipped to the scene. -/
theorem mem_logicalRectToPhysical (rect : Rgb565Rect) :
    (layout.logicalRectToPhysical rect).Mem px py ↔
      ∃ x y, rect.Mem x y ∧ x < layout.logicalWidth ∧ y < layout.logicalHeight ∧
        layout.logicalToPhysical x y = (px, py) := by
  unfold logicalRectToPhysical logicalToPhysical Rgb565Rect.Mem
  cases layout.rotation with
  | none =>
      simp only [Prod.mk.injEq]
      constructor
      · intro h
        exact ⟨px, py, by omega, by omega, by omega, rfl, rfl⟩
      · rintro ⟨x, y, h, hx, hy, rfl, rfl⟩
        omega
  | clockwise90 =>
      simp only [Prod.mk.injEq]
      constructor
      · intro h
        exact ⟨py, layout.logicalHeight - 1 - px, by omega, by omega, by omega, by omega, rfl⟩
      · rintro ⟨x, y, h, hx, hy, rfl, rfl⟩
        omega
  | counterClockwise90 =>
      simp only [Prod.mk.injEq]
      constructor
      · intro h
        exact ⟨layout.logicalWidth - 1 - py, px, by omega, by omega, by omega, rfl, by omega⟩
      · rintro ⟨x, y, h, hx, hy, rfl, rfl⟩
        omega

theorem negIsize_some {d : Int} (h : -d ≤ (usizeMax / 2 : Nat)) :
    negIsize usizeMax d = some (-d) := if_pos h

/-- **A shift of the scene** is the shift of its image. -/
theorem logicalToPhysical_add {dx dy : Int} (hx : x < layout.logicalWidth)
    (hy : y < layout.logicalHeight) (hx' : x' < layout.logicalWidth)
    (hy' : y' < layout.logicalHeight) (hdx : (x' : Int) = x + dx) (hdy : (y' : Int) = y + dy)
    (hnegx : -dx ≤ (usizeMax / 2 : Nat)) (hnegy : -dy ≤ (usizeMax / 2 : Nat)) :
    ∃ d, layout.logicalDeltaToPhysical dx dy = some d ∧
      ((layout.logicalToPhysical x' y').1 : Int) = (layout.logicalToPhysical x y).1 + d.1 ∧
      ((layout.logicalToPhysical x' y').2 : Int) = (layout.logicalToPhysical x y).2 + d.2 := by
  unfold logicalToPhysical logicalDeltaToPhysical
  rw [negIsize_some hnegx, negIsize_some hnegy]
  cases layout.rotation with
  | none => exact ⟨_, rfl, hdx, hdy⟩
  | clockwise90 => exact ⟨_, rfl, by dsimp only; omega, hdx⟩
  | counterClockwise90 => exact ⟨_, rfl, hdy, by dsimp only; omega⟩

variable (layout) in
theorem logicalWidth_le_len : layout.logicalWidth ≤ layout.len ∧
    layout.logicalHeight ≤ layout.len := by
  have hw := layout.width_pos
  have hh := layout.height_pos
  have hstride := layout.stride
  rw [layout.len_eq]
  obtain ⟨-, hpw, hph⟩ | ⟨-, hpw, hph⟩ := physical_cases layout
  all_goals
    rw [hpw] at hstride
    rw [hph]
    exact ⟨by nlinarith, by nlinarith⟩

/-- **What `new` accepts**, and what it stores. -/
theorem new_eq_ok {logicalWidth logicalHeight physicalStride : Nat} {rotation : OutputRotation}
    (h : new usizeMax logicalWidth logicalHeight physicalStride rotation = .ok layout) :
    layout.logicalWidth = logicalWidth ∧ layout.logicalHeight = logicalHeight ∧
      layout.physicalStride = physicalStride ∧ layout.rotation = rotation := by
  unfold new at h
  split at h
  · cases h
  · split at h
    · cases h
    · split at h <;> cases h
      exact ⟨rfl, rfl, rfl, rfl⟩

theorem new_isOk (logicalWidth logicalHeight physicalStride : Nat) (rotation : OutputRotation)
    (hw : logicalWidth ≠ 0) (hh : logicalHeight ≠ 0)
    (hstride : (rotation.physicalSize logicalWidth logicalHeight).1 ≤ physicalStride)
    (hlen : physicalStride * (rotation.physicalSize logicalWidth logicalHeight).2 ≤ usizeMax) :
    ∃ layout, new usizeMax logicalWidth logicalHeight physicalStride rotation = .ok layout := by
  unfold new
  rw [dif_neg (not_or.mpr ⟨hw, hh⟩), dif_neg (Nat.not_lt.mpr hstride), dif_pos hlen]
  exact ⟨_, rfl⟩

end Rgb565OutputLayout

/-! ## 4. Regions -/

structure Rgb565RegionLayout (usizeMax : Nat) where
  output : Rgb565OutputLayout usizeMax
  logicalRect : Rgb565Rect
  denseOutput : Rgb565OutputLayout usizeMax
  nonempty : logicalRect.x0 < logicalRect.x1 ∧ logicalRect.y0 < logicalRect.y1
  within : logicalRect.x1 ≤ output.logicalWidth ∧ logicalRect.y1 ≤ output.logicalHeight
  dense : Rgb565OutputLayout.new usizeMax logicalRect.width logicalRect.height
    (output.logicalRectToPhysical logicalRect).width output.rotation = .ok denseOutput

namespace Rgb565RegionLayout

open Rgb565OutputLayout

variable {usizeMax : Nat}

def new (output : Rgb565OutputLayout usizeMax) (logicalRect : Rgb565Rect) :
    Except SceneError (Rgb565RegionLayout usizeMax) :=
  if hrect : logicalRect.x1 ≤ logicalRect.x0 ∨ logicalRect.y1 ≤ logicalRect.y0 ∨
      output.logicalWidth < logicalRect.x1 ∨ output.logicalHeight < logicalRect.y1 then
    .error (.invalidGeometry "RGB565 region must be a nonempty logical output sub-rectangle")
  else
    match hdense : Rgb565OutputLayout.new usizeMax logicalRect.width logicalRect.height
        (output.logicalRectToPhysical logicalRect).width output.rotation with
    | .error error => .error error
    | .ok denseOutput =>
        .ok
          { output, logicalRect, denseOutput
            nonempty := by omega
            within := by omega
            dense := hdense }

variable (region : Rgb565RegionLayout usizeMax)

def physicalRect : Rgb565Rect := region.output.logicalRectToPhysical region.logicalRect

def len : Nat := region.denseOutput.len

def physicalStride : Nat := region.denseOutput.physicalStride

def containsLogicalRect (rect : Rgb565Rect) : Prop :=
  region.logicalRect.x0 ≤ rect.x0 ∧ region.logicalRect.y0 ≤ rect.y0 ∧
    rect.x1 ≤ region.logicalRect.x1 ∧ rect.y1 ≤ region.logicalRect.y1

instance (rect : Rgb565Rect) : Decidable (region.containsLogicalRect rect) :=
  inferInstanceAs (Decidable (_ ∧ _ ∧ _ ∧ _))

def localLogical (x y : Nat) : Option (Nat × Nat) :=
  if x < region.logicalRect.x0 ∨ y < region.logicalRect.y0 ∨ region.logicalRect.x1 ≤ x ∨
      region.logicalRect.y1 ≤ y then none
  else some (x - region.logicalRect.x0, y - region.logicalRect.y0)

def denseOffset (logicalX logicalY : Nat) : Option Nat := do
  let (localX, localY) ← region.localLogical logicalX logicalY
  some (region.denseOutput.physicalOffset localX localY)

variable {region} {x y x' y' : Nat}

variable (region) in
theorem denseOutput_eq : region.denseOutput.logicalWidth = region.logicalRect.width ∧
    region.denseOutput.logicalHeight = region.logicalRect.height ∧
    region.denseOutput.physicalStride = region.physicalRect.width ∧
    region.denseOutput.rotation = region.output.rotation :=
  new_eq_ok region.dense

theorem denseOffset_eq (h : region.logicalRect.Mem x y) :
    region.denseOffset x y = some (region.denseOutput.physicalOffset
      (x - region.logicalRect.x0) (y - region.logicalRect.y0)) := by
  unfold Rgb565Rect.Mem at h
  unfold denseOffset localLogical
  rw [if_neg (by omega)]
  rfl

theorem denseOffset_eq_none (h : ¬region.logicalRect.Mem x y) : region.denseOffset x y = none := by
  unfold Rgb565Rect.Mem at h
  unfold denseOffset localLogical
  rw [if_pos (by omega)]
  rfl

theorem local_lt (h : region.logicalRect.Mem x y) :
    x - region.logicalRect.x0 < region.denseOutput.logicalWidth ∧
      y - region.logicalRect.y0 < region.denseOutput.logicalHeight := by
  obtain ⟨hw, hh, -, -⟩ := denseOutput_eq region
  rw [hw, hh]
  unfold Rgb565Rect.Mem at h
  unfold Rgb565Rect.width Rgb565Rect.height
  omega

/-- **A region is a window** of the framebuffer. -/
theorem logicalToPhysical_local (h : region.logicalRect.Mem x y) :
    (region.output.logicalToPhysical x y).1 =
        region.physicalRect.x0 + (region.denseOutput.logicalToPhysical
          (x - region.logicalRect.x0) (y - region.logicalRect.y0)).1 ∧
      (region.output.logicalToPhysical x y).2 =
        region.physicalRect.y0 + (region.denseOutput.logicalToPhysical
          (x - region.logicalRect.x0) (y - region.logicalRect.y0)).2 := by
  obtain ⟨hw, hh, -, hrotation⟩ := denseOutput_eq region
  have hwithin := region.within
  unfold Rgb565Rect.Mem at h
  unfold logicalToPhysical physicalRect logicalRectToPhysical
  rw [hrotation, hw, hh]
  unfold Rgb565Rect.width Rgb565Rect.height
  cases region.output.rotation <;> dsimp only <;> omega

theorem dense_column_lt (h : region.logicalRect.Mem x y) :
    (region.denseOutput.logicalToPhysical (x - region.logicalRect.x0)
      (y - region.logicalRect.y0)).1 < region.denseOutput.physicalStride := by
  obtain ⟨hx, hy⟩ := local_lt h
  exact Nat.lt_of_lt_of_le (logicalToPhysical_lt hx hy).1 region.denseOutput.stride

/-- **The place in a region**, row by row from the corner of its window. -/
theorem denseOffset_window (h : region.logicalRect.Mem x y) :
    region.denseOffset x y = some
      (((region.output.logicalToPhysical x y).2 - region.physicalRect.y0) *
          region.physicalStride +
        ((region.output.logicalToPhysical x y).1 - region.physicalRect.x0)) := by
  obtain ⟨hcolumn, hrow⟩ := logicalToPhysical_local h
  rw [denseOffset_eq h, hcolumn, hrow, Nat.add_sub_cancel_left, Nat.add_sub_cancel_left]
  rfl

theorem denseOffset_lt (h : region.logicalRect.Mem x y) :
    ∃ o, region.denseOffset x y = some o ∧ o < region.len := by
  obtain ⟨hx, hy⟩ := local_lt h
  exact ⟨_, denseOffset_eq h, physicalOffset_lt hx hy⟩

/-- **The order of a region** is that of the framebuffer. -/
theorem denseOffset_lt_iff {o o' : Nat} (h : region.denseOffset x y = some o)
    (h' : region.denseOffset x' y' = some o') :
    o < o' ↔ region.output.physicalOffset x y < region.output.physicalOffset x' y' := by
  have hmem : region.logicalRect.Mem x y := by
    by_contra hout
    cases h.symm.trans (denseOffset_eq_none hout)
  have hmem' : region.logicalRect.Mem x' y' := by
    by_contra hout
    cases h'.symm.trans (denseOffset_eq_none hout)
  cases h.symm.trans (denseOffset_eq hmem)
  cases h'.symm.trans (denseOffset_eq hmem')
  obtain ⟨hcolumn, hrow⟩ := logicalToPhysical_local hmem
  obtain ⟨hcolumn', hrow'⟩ := logicalToPhysical_local hmem'
  have hwithin := region.within
  have hstride := region.output.stride
  unfold Rgb565Rect.Mem at hmem hmem'
  have hp : (region.output.logicalToPhysical x y).1 < _ ∧ _ :=
    logicalToPhysical_lt (by omega) (by omega)
  have hp' : (region.output.logicalToPhysical x' y').1 < _ ∧ _ :=
    logicalToPhysical_lt (by omega) (by omega)
  unfold physicalOffset
  rw [row_lt_iff _ _ (dense_column_lt hmem) (dense_column_lt hmem'),
    row_lt_iff _ _ (by omega) (by omega)]
  omega

theorem physicalRect_size {output : Rgb565OutputLayout usizeMax} {rect : Rgb565Rect}
    (hw : rect.x1 ≤ output.logicalWidth) (hh : rect.y1 ≤ output.logicalHeight) :
    ((output.logicalRectToPhysical rect).width, (output.logicalRectToPhysical rect).height) =
      output.rotation.physicalSize rect.width rect.height := by
  unfold logicalRectToPhysical OutputRotation.physicalSize Rgb565Rect.width Rgb565Rect.height
  cases output.rotation <;>
    exact Prod.ext
      (by simp only [OutputRotation.transposesAxes]; simp; omega)
      (by simp only [OutputRotation.transposesAxes]; simp; omega)

/-- **Every part of the scene has a region.** -/
theorem new_isOk {output : Rgb565OutputLayout usizeMax} {rect : Rgb565Rect}
    (hx : rect.x0 < rect.x1) (hy : rect.y0 < rect.y1) (hw : rect.x1 ≤ output.logicalWidth)
    (hh : rect.y1 ≤ output.logicalHeight) : ∃ region, new output rect = .ok region := by
  have hsize := physicalRect_size hw hh
  have hle : (output.logicalRectToPhysical rect).width *
      (output.rotation.physicalSize rect.width rect.height).2 ≤ usizeMax := by
    rw [← hsize]
    have hfits := output.fits
    rw [output.len_eq] at hfits
    refine Nat.le_trans (Nat.mul_le_mul ?_ ?_) hfits
    · refine Nat.le_trans ?_ output.stride
      unfold logicalRectToPhysical Rgb565Rect.width
      obtain ⟨hr, hpw, -⟩ | ⟨hr | hr, hpw, -⟩ := physical_cases output <;>
        rw [hr, hpw] <;> dsimp only <;> omega
    · unfold logicalRectToPhysical Rgb565Rect.height
      obtain ⟨hr, -, hph⟩ | ⟨hr | hr, -, hph⟩ := physical_cases output <;>
        rw [hr, hph] <;> dsimp only <;> omega
  obtain ⟨dense, hdense⟩ := Rgb565OutputLayout.new_isOk rect.width rect.height
    (output.logicalRectToPhysical rect).width output.rotation (Nat.sub_ne_zero_of_lt hx)
    (Nat.sub_ne_zero_of_lt hy) (le_of_eq (congrArg Prod.fst hsize).symm)
    hle
  unfold new
  rw [dif_neg (by omega)]
  split
  · rename_i herr
    cases hdense.symm.trans herr
  · exact ⟨_, rfl⟩

end Rgb565RegionLayout

end MisterMagik.Scenes
