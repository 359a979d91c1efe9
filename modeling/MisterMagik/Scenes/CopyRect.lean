/-
  File:      MisterMagik/Scenes/CopyRect.lean
  Subject:   `copy_rect_strided` into a surface and into a region (`lib.rs`).

  The checks come first, with sums that saturate at the largest `usize`; then the source is staged
  where it overlaps the destination, and a kernel copies. An empty rectangle is accepted anywhere,
  and a source without a stride is refused anywhere.

  * `rejected_iff` -- the checks are those without a bound on the sums;
  * `stageSource_spec` -- staging changes no pixel of the source;
  * `copyRectStrided_exact`, `copyRectStrided_region_exact` -- what is returned for every argument;
  * **`rotated_output_exact`** -- layouts, regions and copies.
-/
import MisterMagik.Scenes.RotatedCopy

namespace MisterMagik.Scenes

open Base Rgb565OutputLayout

/-! ## 1. Surfaces -/

/-- A slice of pixels that have a size: it takes at most half of the addresses. -/
structure Slice (usizeMax : Nat) (P : Type) where
  items : List P
  addressable : items.length < usizeMax

structure Rgb565SurfaceMut (usizeMax : Nat) (P : Type) where
  pixels : Slice usizeMax P
  layout : Rgb565OutputLayout usizeMax
  len_eq : pixels.items.length = layout.len

structure Rgb565RegionSurfaceMut (usizeMax : Nat) (P : Type) where
  pixels : Slice usizeMax P
  layout : Rgb565RegionLayout usizeMax
  len_eq : pixels.items.length = layout.len

section Definitions

variable {P : Type} {usizeMax : Nat}

def Rgb565SurfaceMut.new (pixels : Slice usizeMax P) (layout : Rgb565OutputLayout usizeMax) :
    Except SceneError (Rgb565SurfaceMut usizeMax P) :=
  if h : pixels.items.length ≠ layout.len then
    .error (.targetSizeMismatch pixels.items.length layout.len)
  else .ok ⟨pixels, layout, not_not.mp h⟩

def Rgb565RegionSurfaceMut.new (pixels : Slice usizeMax P)
    (layout : Rgb565RegionLayout usizeMax) :
    Except SceneError (Rgb565RegionSurfaceMut usizeMax P) :=
  if h : pixels.items.length ≠ layout.len then
    .error (.targetSizeMismatch pixels.items.length layout.len)
  else .ok ⟨pixels, layout, not_not.mp h⟩

/-! ## 2. The source -/

/-- The rows of the source, side by side, where source and destination overlap. -/
def stageSource (overlap : Bool) (source : List P) (spec : RotatedCopySpec) :
    Option (List P × RotatedCopySpec) :=
  if overlap then do
    let copy ← (List.range spec.height).foldlM
      (fun copy row => do
        let part ← slice source (spec.sourceOffset row 0) spec.width
        some (copy ++ part)) []
    some (copy, { spec with sourceStride := spec.width, sourceX := 0, sourceY := 0 })
  else some (source, spec)

/-! ## 3. Copies of rectangles -/

/-- Where `neon` holds, machine, pixel size and alignment let the vector kernel run. -/
def copyRotatedRgb565Tiled (neon : Bool) (destination : List P)
    (layout : Rgb565OutputLayout usizeMax) (source : List P) (spec : RotatedCopySpec) :
    Option (List P) :=
  if neon ∧ layout.rotation ≠ .none then rotateTiled destination layout source spec
  else copyRotatedRgb565Scalar destination layout source spec

def saturatingAdd (usizeMax a b : Nat) : Nat := min (a + b) usizeMax

def saturatingMul (usizeMax a b : Nat) : Nat := min (a * b) usizeMax

def RotatedCopySpec.rejected (spec : RotatedCopySpec) (layout : Rgb565OutputLayout usizeMax)
    (source : Slice usizeMax P) : Prop :=
  layout.logicalWidth < saturatingAdd usizeMax spec.destinationX spec.width ∨
    layout.logicalHeight < saturatingAdd usizeMax spec.destinationY spec.height ∨
    spec.sourceStride = 0 ∨
    source.items.length < saturatingAdd usizeMax (saturatingAdd usizeMax
      (saturatingMul usizeMax (saturatingAdd usizeMax spec.sourceY (spec.height - 1))
        spec.sourceStride) spec.sourceX) spec.width

instance (spec : RotatedCopySpec) (layout : Rgb565OutputLayout usizeMax)
    (source : Slice usizeMax P) : Decidable (spec.rejected layout source) :=
  inferInstanceAs (Decidable (_ ∨ _ ∨ _ ∨ _))

/-- What is returned, and the pixels afterwards. `overlap` is what `slices_overlap` answers. -/
def Rgb565SurfaceMut.copyRectStrided (neon overlap : Bool) (surface : Rgb565SurfaceMut usizeMax P)
    (source : Slice usizeMax P) (spec : RotatedCopySpec) : Option (Bool × List P) :=
  if spec.width = 0 ∨ spec.height = 0 then some (true, surface.pixels.items)
  else if spec.rejected surface.layout source then some (false, surface.pixels.items)
  else do
    let (source, spec) ← stageSource overlap source.items spec
    let pixels ←
      if surface.layout.rotation = .none then
        copyRows surface.pixels.items surface.layout source spec
      else copyRotatedRgb565Tiled neon surface.pixels.items surface.layout source spec
    some (true, pixels)

def checkedAdd? (usizeMax a b : Nat) : Option Nat := if a + b ≤ usizeMax then some (a + b) else none

def Rgb565RegionSurfaceMut.copyRectStrided (neon overlap : Bool)
    (surface : Rgb565RegionSurfaceMut usizeMax P) (source : Slice usizeMax P)
    (spec : RotatedCopySpec) : Option (Bool × List P) :=
  if spec.width = 0 ∨ spec.height = 0 then some (true, surface.pixels.items)
  else
    match checkedAdd? usizeMax spec.destinationX spec.width,
      checkedAdd? usizeMax spec.destinationY spec.height with
    | some destinationX1, some destinationY1 =>
        if surface.layout.containsLogicalRect
            { x0 := spec.destinationX
              y0 := spec.destinationY
              x1 := destinationX1
              y1 := destinationY1 } then
          Rgb565SurfaceMut.copyRectStrided neon overlap
            ⟨surface.pixels, surface.layout.denseOutput, surface.len_eq⟩ source
            { spec with
              destinationX := spec.destinationX - surface.layout.logicalRect.x0
              destinationY := spec.destinationY - surface.layout.logicalRect.y0 }
        else some (false, surface.pixels.items)
    | _, _ => some (false, surface.pixels.items)

end Definitions

section Copies

variable {P : Type} {usizeMax : Nat} {layout : Rgb565OutputLayout usizeMax} {source pixels : List P}
  {spec : RotatedCopySpec} {row column : Nat}

/-! ## 4. The staged source -/

variable (source spec) in
theorem stageRows_spec (hwidth : 0 < spec.width) {n : Nat}
    (hsource : ∀ row < n, ∀ column < spec.width, spec.sourceOffset row column < source.length) :
    ∃ copy, (List.range n).foldlM
        (fun copy row => do
          let part ← slice source (spec.sourceOffset row 0) spec.width
          some (copy ++ part)) [] = some copy ∧ copy.length = n * spec.width ∧
      ∀ row < n, ∀ column < spec.width,
        copy[row * spec.width + column]? = source[spec.sourceOffset row column]? := by
  induction n with
  | zero => exact ⟨[], rfl, by simp, fun row hrow => absurd hrow (Nat.not_lt_zero row)⟩
  | succ n ih =>
      obtain ⟨copy, hfold, hlength, hcopy⟩ := ih fun row hrow => hsource row (by omega)
      have hlast := hsource n (by omega) (spec.width - 1) (by omega)
      rw [← Nat.zero_add (spec.width - 1), ← sourceOffset_column] at hlast
      obtain ⟨part, hslice⟩ :
          ∃ part, slice source (spec.sourceOffset n 0) spec.width = some part :=
        ⟨_, slice_of_le (by omega)⟩
      refine ⟨copy ++ part, ?_, ?_, fun row hrow column hcolumn => ?_⟩
      · rw [List.range_succ, List.foldlM_append, hfold]
        show ((slice source (spec.sourceOffset n 0) spec.width).bind _).bind _ = _
        rw [hslice]
        rfl
      · rw [List.length_append, hlength, length_of_slice hslice, Nat.succ_mul]
      · by_cases hn : row < n
        · have hlt := (row_lt_iff row n hcolumn hwidth).mpr (.inl hn)
          rw [List.getElem?_append_left (by omega)]
          exact hcopy row hn column hcolumn
        · obtain rfl : row = n := by omega
          rw [List.getElem?_append_right (by omega), hlength, Nat.add_sub_cancel_left,
            getElem?_slice hslice hcolumn, sourceOffset_column, Nat.zero_add]

theorem stageSource_spec (overlap : Bool) (hwidth : 0 < spec.width)
    (hfits : spec.Fits layout source) :
    ∃ staged spec', stageSource overlap source spec = some (staged, spec') ∧
      spec'.destinationX = spec.destinationX ∧ spec'.destinationY = spec.destinationY ∧
      spec'.width = spec.width ∧ spec'.height = spec.height ∧ spec'.Fits layout staged ∧
      ∀ row < spec.height, ∀ column < spec.width,
        staged[spec'.sourceOffset row column]? = source[spec.sourceOffset row column]? := by
  cases overlap with
  | false => exact ⟨source, spec, rfl, rfl, rfl, rfl, rfl, hfits, fun _ _ _ _ => rfl⟩
  | true =>
      obtain ⟨copy, hfold, hlength, hcopy⟩ := stageRows_spec source spec hwidth hfits.source
      have hread : ∀ row < spec.height, ∀ column < spec.width,
          copy[(0 + row) * spec.width + 0 + column]? =
            source[spec.sourceOffset row column]? := by
        intro row hrow column hcolumn
        rw [Nat.zero_add, Nat.add_zero]
        exact hcopy row hrow column hcolumn
      refine ⟨copy, { spec with sourceStride := spec.width, sourceX := 0, sourceY := 0 }, ?_,
        rfl, rfl, rfl, rfl, ⟨hfits.x, hfits.y, fun row hrow column hcolumn => ?_⟩, hread⟩
      · unfold stageSource
        rw [if_pos rfl, hfold]
        rfl
      · have hsome := hread row hrow column hcolumn
        rw [List.getElem?_eq_getElem (hfits.source row hrow column hcolumn)] at hsome
        exact (List.getElem?_eq_some_iff.mp hsome).1

/-! ## 5. What a copy does -/

/-- The pixels of the rectangle are those of the source, the other ones are kept. -/
structure Copied (place : Nat → Nat → Option Nat) (source : List P) (spec : RotatedCopySpec)
    (before after : List P) : Prop where
  length : after.length = before.length
  copied : ∀ row < spec.height, ∀ column < spec.width, ∃ o pixel,
    place (spec.destinationX + column) (spec.destinationY + row) = some o ∧
      source[(spec.sourceY + row) * spec.sourceStride + spec.sourceX + column]? = some pixel ∧
      after[o]? = some pixel
  kept : ∀ o, (∀ row < spec.height, ∀ column < spec.width,
    place (spec.destinationX + column) (spec.destinationY + row) ≠ some o) →
      after[o]? = before[o]?

/-- What a copy returns for every argument. -/
structure CopyExact (place : Nat → Nat → Option Nat) (fits : Prop) (before source : List P)
    (spec : RotatedCopySpec) (result : Option (Bool × List P)) : Prop where
  empty : spec.width = 0 ∨ spec.height = 0 → result = some (true, before)
  rejected : 0 < spec.width → 0 < spec.height → ¬fits ∨ spec.sourceStride = 0 →
    result = some (false, before)
  copied : 0 < spec.width → 0 < spec.height → fits → spec.sourceStride ≠ 0 →
    ∃ after, result = some (true, after) ∧ Copied place source spec before after

theorem last_le_iff (hw : 0 < spec.width) (hh : 0 < spec.height) :
    (spec.sourceY + (spec.height - 1)) * spec.sourceStride + spec.sourceX + spec.width ≤
        source.length ↔
      ∀ row < spec.height, ∀ column < spec.width,
        spec.sourceOffset row column < source.length := by
  unfold RotatedCopySpec.sourceOffset
  constructor
  · intro hlast row hrow column hcolumn
    have hle := Nat.mul_le_mul_right spec.sourceStride
      (Nat.add_le_add_left (Nat.le_sub_one_of_lt hrow) spec.sourceY)
    omega
  · intro h
    have hlast := h (spec.height - 1) (by omega) (spec.width - 1) (by omega)
    omega

/-- **The checks, with sums that saturate**, are the checks without a bound. -/
theorem rejected_iff {source : Slice usizeMax P} (hlen : layout.len < usizeMax)
    (hw : 0 < spec.width) (hh : 0 < spec.height) :
    spec.rejected layout source ↔ ¬spec.Fits layout source.items ∨ spec.sourceStride = 0 := by
  by_cases hstride : spec.sourceStride = 0
  · exact iff_of_true (.inr (.inr (.inl hstride))) (.inr hstride)
  · have hsource := source.addressable
    obtain ⟨hwidth, hheight⟩ := logicalWidth_le_len layout
    have hpos : 0 < spec.sourceStride := Nat.pos_of_ne_zero hstride
    -- a row number that saturates is beyond the source as well
    have hlast : source.items.length < saturatingAdd usizeMax (saturatingAdd usizeMax
        (saturatingMul usizeMax (saturatingAdd usizeMax spec.sourceY (spec.height - 1))
          spec.sourceStride) spec.sourceX) spec.width ↔
        source.items.length < (spec.sourceY + (spec.height - 1)) * spec.sourceStride +
          spec.sourceX + spec.width := by
      unfold saturatingAdd saturatingMul
      by_cases hrow : spec.sourceY + (spec.height - 1) ≤ usizeMax
      · rw [Nat.min_eq_left hrow]
        omega
      · rw [Nat.min_eq_right (Nat.le_of_not_le hrow)]
        have hmax := Nat.le_mul_of_pos_right usizeMax hpos
        have hmul := Nat.le_mul_of_pos_right (spec.sourceY + (spec.height - 1)) hpos
        omega
    have hfits : spec.Fits layout source.items ↔
        spec.destinationX + spec.width ≤ layout.logicalWidth ∧
          spec.destinationY + spec.height ≤ layout.logicalHeight ∧
          (spec.sourceY + (spec.height - 1)) * spec.sourceStride + spec.sourceX + spec.width ≤
            source.items.length := by
      rw [last_le_iff hw hh]
      exact ⟨fun h => ⟨h.x, h.y, h.source⟩, fun h => ⟨h.1, h.2.1, h.2.2⟩⟩
    unfold RotatedCopySpec.rejected
    rw [hlast, hfits]
    unfold saturatingAdd
    omega

/-- **Every kernel** paints the rectangle. -/
theorem copied_of_fits (neon : Bool) (hwidth : 0 < spec.width) (hheight : 0 < spec.height)
    (hlen : pixels.length = layout.len) (hfits : spec.Fits layout source) :
    ∃ after,
      (if layout.rotation = .none then copyRows pixels layout source spec
        else copyRotatedRgb565Tiled neon pixels layout source spec) = some after ∧
      Copied (fun x y => some (layout.physicalOffset x y)) source spec pixels after := by
  have hfirst := hfits.source 0 hheight 0 hwidth
  have hpixel := List.getElem?_eq_getElem hfirst
  let canvas := copyCanvas pixels hlen hfits (source[spec.sourceOffset 0 0])
  have hpaint : ∃ after,
      (if layout.rotation = .none then copyRows pixels layout source spec
        else copyRotatedRgb565Tiled neon pixels layout source spec) = some after ∧
      canvas.Painted (fun k => False ∨ (k.1 < spec.height ∧ k.2 < spec.width)) after := by
    by_cases hrotation : layout.rotation = .none
    · rw [if_pos hrotation]
      exact painted_copyRows hrotation hwidth (Canvas.Painted.nothing canvas)
    · rw [if_neg hrotation]
      unfold copyRotatedRgb565Tiled
      split
      · exact painted_rotateTiled hrotation (Canvas.Painted.nothing canvas)
      · exact painted_scalar hrotation (Canvas.Painted.nothing canvas)
  obtain ⟨after, heq, hafter⟩ := hpaint
  refine ⟨after, heq, hafter.length, fun row hrow column hcolumn => ?_, fun o ho => ?_⟩
  · exact ⟨_, _, rfl, source_eq_value hlen hfits _ hrow hcolumn,
      hafter.painted (row, column) (.inr ⟨hrow, hcolumn⟩)⟩
  · refine hafter.kept o fun k hk heq => ?_
    obtain hfalse | ⟨hrow, hcolumn⟩ := hk
    · exact hfalse
    · exact ho k.1 hrow k.2 hcolumn (congrArg some heq)

theorem copyRectStrided_exact (neon overlap : Bool) (surface : Rgb565SurfaceMut usizeMax P)
    (source : Slice usizeMax P) (spec : RotatedCopySpec) :
    CopyExact (fun x y => some (surface.layout.physicalOffset x y))
      (spec.Fits surface.layout source.items) surface.pixels.items source.items spec
      (surface.copyRectStrided neon overlap source spec) := by
  have hlen : surface.layout.len < usizeMax := surface.len_eq ▸ surface.pixels.addressable
  unfold Rgb565SurfaceMut.copyRectStrided
  refine ⟨fun h => if_pos h, fun hw hh h => ?_, fun hw hh hfits hstride => ?_⟩
  · rw [if_neg (by omega), if_pos ((rejected_iff hlen hw hh).mpr h)]
  · have hreject : ¬spec.rejected surface.layout source := fun h =>
      ((rejected_iff hlen hw hh).mp h).elim (fun h => h hfits) hstride
    rw [if_neg (by omega), if_neg hreject]
    obtain ⟨staged, spec', hstage, hx, hy, hw', hh', hfits', hread⟩ :=
      stageSource_spec overlap hw hfits
    obtain ⟨after, hcopy, hcopied⟩ := copied_of_fits neon (hw' ▸ hw) (hh' ▸ hh) surface.len_eq
      hfits'
    refine ⟨after, ?_, hcopied.length, fun row hrow column hcolumn => ?_, fun o ho => ?_⟩
    · rw [hstage]
      dsimp only [Option.bind_eq_bind, Option.bind_some]
      split at hcopy
      · rename_i hrotation
        rw [if_pos hrotation, hcopy]
        rfl
      · rename_i hrotation
        rw [if_neg hrotation, hcopy]
        rfl
    · obtain ⟨o, pixel, hplace, hpixel, hafter⟩ :=
        hcopied.copied row (hh'.symm ▸ hrow) column (hw'.symm ▸ hcolumn)
      rw [hx, hy] at hplace
      exact ⟨o, pixel, hplace, (hread row hrow column hcolumn).symm.trans hpixel, hafter⟩
    · refine hcopied.kept o ?_
      rw [hx, hy, hw', hh']
      exact ho

/-! ## 6. Copies into regions -/

/-- The rectangle is in the region, and its source in the slice. -/
structure RotatedCopySpec.FitsRegion (spec : RotatedCopySpec) (region : Rgb565RegionLayout usizeMax)
    (source : List P) : Prop where
  x0 : region.logicalRect.x0 ≤ spec.destinationX
  y0 : region.logicalRect.y0 ≤ spec.destinationY
  x1 : spec.destinationX + spec.width ≤ region.logicalRect.x1
  y1 : spec.destinationY + spec.height ≤ region.logicalRect.y1
  source : ∀ row < spec.height, ∀ column < spec.width,
    spec.sourceOffset row column < source.length

variable {region : Rgb565RegionLayout usizeMax}

/-- The copy in coordinates of the region. -/
def RotatedCopySpec.inRegion (spec : RotatedCopySpec) (region : Rgb565RegionLayout usizeMax) :
    RotatedCopySpec :=
  { spec with
    destinationX := spec.destinationX - region.logicalRect.x0
    destinationY := spec.destinationY - region.logicalRect.y0 }

variable (source) in
theorem fits_inRegion (hx : region.logicalRect.x0 ≤ spec.destinationX)
    (hy : region.logicalRect.y0 ≤ spec.destinationY)
    (hx1 : spec.destinationX + spec.width ≤ region.logicalRect.x1)
    (hy1 : spec.destinationY + spec.height ≤ region.logicalRect.y1) :
    (spec.inRegion region).Fits region.denseOutput source ↔ spec.FitsRegion region source := by
  obtain ⟨hw, hh, -, -⟩ := Rgb565RegionLayout.denseOutput_eq region
  constructor
  · intro h
    exact ⟨hx, hy, hx1, hy1, h.source⟩
  · intro h
    refine ⟨?_, ?_, h.source⟩
    · show spec.destinationX - region.logicalRect.x0 + spec.width ≤ _
      rw [hw]
      unfold Rgb565Rect.width
      omega
    · show spec.destinationY - region.logicalRect.y0 + spec.height ≤ _
      rw [hh]
      unfold Rgb565Rect.height
      omega

theorem denseOffset_inRegion (h : spec.FitsRegion region source) (hrow : row < spec.height)
    (hcolumn : column < spec.width) :
    region.denseOffset (spec.destinationX + column) (spec.destinationY + row) =
      some (region.denseOutput.physicalOffset ((spec.inRegion region).destinationX + column)
        ((spec.inRegion region).destinationY + row)) := by
  have hx0 := h.x0
  have hy0 := h.y0
  have hx1 := h.x1
  have hy1 := h.y1
  rw [Rgb565RegionLayout.denseOffset_eq ⟨by omega, by omega, by omega, by omega⟩]
  unfold RotatedCopySpec.inRegion
  rw [Nat.sub_add_comm hx0, Nat.sub_add_comm hy0]

theorem copyRectStrided_region_exact (neon overlap : Bool)
    (surface : Rgb565RegionSurfaceMut usizeMax P) (source : Slice usizeMax P)
    (spec : RotatedCopySpec) :
    CopyExact surface.layout.denseOffset (spec.FitsRegion surface.layout source.items)
      surface.pixels.items source.items spec
      (surface.copyRectStrided neon overlap source spec) := by
  have hexact := copyRectStrided_exact neon overlap
    ⟨surface.pixels, surface.layout.denseOutput, surface.len_eq⟩ source
    (spec.inRegion surface.layout)
  have hwithin := surface.layout.within
  have hlen : surface.layout.output.len ≤ usizeMax := surface.layout.output.fits
  obtain ⟨hwidth, hheight⟩ := logicalWidth_le_len surface.layout.output
  unfold Rgb565RegionSurfaceMut.copyRectStrided
  by_cases hcontained : surface.layout.logicalRect.x0 ≤ spec.destinationX ∧
      surface.layout.logicalRect.y0 ≤ spec.destinationY ∧
      spec.destinationX + spec.width ≤ surface.layout.logicalRect.x1 ∧
      spec.destinationY + spec.height ≤ surface.layout.logicalRect.y1
  · obtain ⟨hx0, hy0, hx1, hy1⟩ := hcontained
    have hfits := fits_inRegion source.items hx0 hy0 hx1 hy1
    have hrect : surface.layout.containsLogicalRect
        { x0 := spec.destinationX
          y0 := spec.destinationY
          x1 := spec.destinationX + spec.width
          y1 := spec.destinationY + spec.height } := ⟨hx0, hy0, hx1, hy1⟩
    refine ⟨fun h => if_pos h, fun hw hh h => ?_, fun hw hh h hstride => ?_⟩
    · rw [if_neg (by omega)]
      unfold checkedAdd?
      rw [if_pos (by omega), if_pos (by omega)]
      dsimp only
      rw [if_pos hrect]
      exact hexact.rejected hw hh (h.imp_left fun h h' => h (hfits.mp h'))
    · rw [if_neg (by omega)]
      unfold checkedAdd?
      rw [if_pos (by omega), if_pos (by omega)]
      dsimp only
      rw [if_pos hrect]
      obtain ⟨after, heq, hcopied⟩ := hexact.copied hw hh (hfits.mpr h) hstride
      refine ⟨after, heq, hcopied.length, fun row hrow column hcolumn => ?_, fun o ho => ?_⟩
      · obtain ⟨o, pixel, hplace, hpixel, hafter⟩ := hcopied.copied row hrow column hcolumn
        exact ⟨o, pixel, (denseOffset_inRegion h hrow hcolumn).trans hplace, hpixel, hafter⟩
      · refine hcopied.kept o fun row hrow column hcolumn heq => ?_
        exact ho row hrow column hcolumn ((denseOffset_inRegion h hrow hcolumn).trans heq)
  · refine ⟨fun h => if_pos h, fun hw hh _ => ?_, fun hw hh h _ => ?_⟩
    · rw [if_neg (by omega)]
      unfold checkedAdd?
      split
      · rename_i hx hy
        rw [if_neg]
        rintro ⟨h1, h2, h3, h4⟩
        split at hx <;> cases hx
        split at hy <;> cases hy
        exact hcontained ⟨h1, h2, h3, h4⟩
      · rfl
    · exact absurd ⟨h.x0, h.y0, h.x1, h.y1⟩ hcontained

end Copies

/-! ## 7. Rotated output -/

/-- The two maps, the places of the pixels, rectangles and shifts. -/
structure LayoutExact {usizeMax : Nat} (layout : Rgb565OutputLayout usizeMax) : Prop where
  back : ∀ x y, x < layout.logicalWidth → y < layout.logicalHeight →
    (layout.logicalToPhysical x y).1 < layout.physicalWidth ∧
      (layout.logicalToPhysical x y).2 < layout.physicalHeight ∧
      layout.physicalToLogical (layout.logicalToPhysical x y).1
        (layout.logicalToPhysical x y).2 = (x, y)
  forth : ∀ px py, px < layout.physicalWidth → py < layout.physicalHeight →
    (layout.physicalToLogical px py).1 < layout.logicalWidth ∧
      (layout.physicalToLogical px py).2 < layout.logicalHeight ∧
      layout.logicalToPhysical (layout.physicalToLogical px py).1
        (layout.physicalToLogical px py).2 = (px, py)
  offset_lt : ∀ x y, x < layout.logicalWidth → y < layout.logicalHeight →
    layout.physicalOffset x y < layout.len
  offset_inj : ∀ x y x' y', x < layout.logicalWidth → y < layout.logicalHeight →
    x' < layout.logicalWidth → y' < layout.logicalHeight →
    layout.physicalOffset x y = layout.physicalOffset x' y' → x = x' ∧ y = y'
  rect : ∀ rect px py, (layout.logicalRectToPhysical rect).Mem px py ↔
    ∃ x y, rect.Mem x y ∧ x < layout.logicalWidth ∧ y < layout.logicalHeight ∧
      layout.logicalToPhysical x y = (px, py)
  delta : ∀ x y x' y' (dx dy : Int), x < layout.logicalWidth → y < layout.logicalHeight →
    x' < layout.logicalWidth → y' < layout.logicalHeight →
    (x' : Int) = x + dx → (y' : Int) = y + dy →
    -dx ≤ (usizeMax / 2 : Nat) → -dy ≤ (usizeMax / 2 : Nat) →
    ∃ d, layout.logicalDeltaToPhysical dx dy = some d ∧
      ((layout.logicalToPhysical x' y').1 : Int) = (layout.logicalToPhysical x y).1 + d.1 ∧
      ((layout.logicalToPhysical x' y').2 : Int) = (layout.logicalToPhysical x y).2 + d.2

/-- The pixels of a region, row by row in its window of the framebuffer. -/
structure RegionExact {usizeMax : Nat} (region : Rgb565RegionLayout usizeMax) : Prop where
  window : ∀ x y, region.logicalRect.Mem x y → region.denseOffset x y = some
    (((region.output.logicalToPhysical x y).2 - region.physicalRect.y0) * region.physicalStride +
      ((region.output.logicalToPhysical x y).1 - region.physicalRect.x0))
  offset_lt : ∀ x y, region.logicalRect.Mem x y →
    ∃ o, region.denseOffset x y = some o ∧ o < region.len
  outside : ∀ x y, ¬region.logicalRect.Mem x y → region.denseOffset x y = none
  order : ∀ x y x' y' o o', region.denseOffset x y = some o → region.denseOffset x' y' = some o' →
    (o < o' ↔ region.output.physicalOffset x y < region.output.physicalOffset x' y')

theorem layoutExact {usizeMax : Nat} (layout : Rgb565OutputLayout usizeMax) :
    LayoutExact layout where
  back _ _ hx hy := ⟨(logicalToPhysical_lt hx hy).1, (logicalToPhysical_lt hx hy).2,
    physicalToLogical_logicalToPhysical hx hy⟩
  forth _ _ hx hy := ⟨(physicalToLogical_lt hx hy).1, (physicalToLogical_lt hx hy).2,
    logicalToPhysical_physicalToLogical hx hy⟩
  offset_lt _ _ hx hy := physicalOffset_lt hx hy
  offset_inj _ _ _ _ hx hy hx' hy' h := physicalOffset_inj hx hy hx' hy' h
  rect rect _ _ := mem_logicalRectToPhysical rect
  delta _ _ _ _ _ _ hx hy hx' hy' hdx hdy hnegx hnegy :=
    logicalToPhysical_add hx hy hx' hy' hdx hdy hnegx hnegy

theorem regionExact {usizeMax : Nat} (region : Rgb565RegionLayout usizeMax) :
    RegionExact region where
  window _ _ h := Rgb565RegionLayout.denseOffset_window h
  offset_lt _ _ h := Rgb565RegionLayout.denseOffset_lt h
  outside _ _ h := Rgb565RegionLayout.denseOffset_eq_none h
  order _ _ _ _ _ _ h h' := Rgb565RegionLayout.denseOffset_lt_iff h h'

/-- **ROTATED OUTPUT IS EXACT.** The two maps of a layout are inverse bijections, offsets are
    distinct and in the buffer, rectangles and shifts are mapped with their pixels, and a region has
    its pixels in the order of the framebuffer. A copy that fits sets the rectangle to the source
    and nothing else, by every kernel; any other copy changes nothing. -/
theorem rotated_output_exact {P : Type} {usizeMax : Nat} :
    (∀ layout : Rgb565OutputLayout usizeMax, LayoutExact layout) ∧
      (∀ region : Rgb565RegionLayout usizeMax, RegionExact region) ∧
      (∀ neon overlap (surface : Rgb565SurfaceMut usizeMax P) source spec,
        CopyExact (fun x y => some (surface.layout.physicalOffset x y))
          (spec.Fits surface.layout source.items) surface.pixels.items source.items spec
          (surface.copyRectStrided neon overlap source spec)) ∧
      ∀ neon overlap (surface : Rgb565RegionSurfaceMut usizeMax P) source spec,
        CopyExact surface.layout.denseOffset (spec.FitsRegion surface.layout source.items)
          surface.pixels.items source.items spec
          (surface.copyRectStrided neon overlap source spec) :=
  ⟨layoutExact, regionExact, copyRectStrided_exact, copyRectStrided_region_exact⟩

/-- A scene of one pixel. -/
def onePixel : Rgb565OutputLayout (2 ^ 64 - 1) where
  logicalWidth := 1
  logicalHeight := 1
  physicalWidth := 1
  physicalHeight := 1
  physicalStride := 1
  len := 1
  rotation := .none
  width_pos := by decide
  height_pos := by decide
  physical := rfl
  stride := by decide
  len_eq := rfl
  fits := by decide

/-- A source of one pixel that has no stride is not copied, an empty rectangle is accepted outside
    of the scene, and the least `isize` has no opposite. -/
theorem edges_of_copies :
    let surface : Rgb565SurfaceMut (2 ^ 64 - 1) Nat := ⟨⟨[0], by decide⟩, onePixel, rfl⟩
    let source : Slice (2 ^ 64 - 1) Nat := ⟨[1], by decide⟩
    (RotatedCopySpec.Fits ⟨0, 0, 1, 1, 0, 0, 0⟩ onePixel source.items ∧
        surface.copyRectStrided false false source ⟨0, 0, 1, 1, 0, 0, 0⟩ = some (false, [0])) ∧
      (¬RotatedCopySpec.Fits ⟨2, 0, 0, 1, 1, 0, 0⟩ onePixel source.items ∧
        surface.copyRectStrided false false source ⟨2, 0, 0, 1, 1, 0, 0⟩ = some (true, [0])) ∧
      ∃ layout, Rgb565OutputLayout.new (2 ^ 64 - 1) 1 (2 ^ 63 + 1) (2 ^ 63 + 1) .clockwise90 =
          .ok layout ∧
        layout.logicalDeltaToPhysical 0 (-2 ^ 63) = none := by
  refine ⟨⟨⟨by decide, by decide, ?_⟩, rfl⟩, ⟨fun h => ?_, rfl⟩, ?_⟩
  · intro row hrow column hcolumn
    have hrow' : row < 1 := hrow
    have hcolumn' : column < 1 := hcolumn
    obtain rfl : row = 0 := by omega
    obtain rfl : column = 0 := by omega
    decide
  · exact absurd h.x (by decide)
  · obtain ⟨layout, hnew⟩ : ∃ layout, Rgb565OutputLayout.new (2 ^ 64 - 1) 1 (2 ^ 63 + 1)
        (2 ^ 63 + 1) .clockwise90 = .ok layout :=
      Rgb565OutputLayout.new_isOk _ _ _ _ (by decide) (by decide) (by decide) (by decide)
    refine ⟨layout, hnew, ?_⟩
    unfold Rgb565OutputLayout.logicalDeltaToPhysical
    rw [(new_eq_ok hnew).2.2.2]
    decide

end MisterMagik.Scenes
