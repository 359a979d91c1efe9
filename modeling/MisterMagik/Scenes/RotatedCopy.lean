/-
  File:      MisterMagik/Scenes/RotatedCopy.lean
  Subject:   Copies into a rotated framebuffer, tile by tile (`lib.rs`, `rgb565_neon.c`).

  An upright copy goes row by row. A rotated one goes through square tiles, so that both the reads
  and the writes are of adjacent pixels: 16 by 16 through a tile buffer, or 8 by 8 through the lanes
  of vector registers. `none` stands for a panic, an access outside its slice or an uninitialised
  read.

  * `transpose8_apply`, `reverse8_apply` -- the register shuffles;
  * `exists_tile` -- the tiles of an extent cover it;
  * `painted_copyRows`, `painted_scalar`, `painted_rotateTiled` -- each kernel paints the rectangle.
-/
import MisterMagik.Base.Painting
import MisterMagik.Scenes.OutputLayout
import Mathlib.Data.Fin.VecNotation
import Mathlib.Data.Fintype.Basic
import Mathlib.Tactic.FinCases

namespace MisterMagik.Scenes

open Base Rgb565OutputLayout

/-! ## 1. Copies -/

structure RotatedCopySpec where
  destinationX : Nat
  destinationY : Nat
  width : Nat
  height : Nat
  sourceStride : Nat
  sourceX : Nat
  sourceY : Nat
  deriving DecidableEq, Repr

section Definitions

variable {P : Type} {usizeMax : Nat}

def RotatedCopySpec.sourceOffset (spec : RotatedCopySpec) (row column : Nat) : Nat :=
  (spec.sourceY + row) * spec.sourceStride + spec.sourceX + column

/-! ## 2. The upright copy -/

/-- `pixels[start..start + part.len()].copy_from_slice(part)`. -/
def copyFromSlice (pixels : List P) (start : Nat) (part : List P) : Option (List P) :=
  if start + part.length ≤ pixels.length then some (overwrite pixels start part) else none

def copyRows (pixels : List P) (layout : Rgb565OutputLayout usizeMax) (source : List P)
    (spec : RotatedCopySpec) : Option (List P) :=
  (List.range spec.height).foldlM
    (fun pixels row => do
      let part ← slice source (spec.sourceOffset row 0) spec.width
      copyFromSlice pixels
        ((spec.destinationY + row) * layout.physicalStride + spec.destinationX) part) pixels

/-! ## 3. Tiles in memory -/

/-- `(0..n).step_by(step)`. -/
def stepBy (n step : Nat) : List Nat := List.range' 0 ((n + step - 1) / step) step

/-- Copies a tile of the source into the tile buffer, of which other cells may be uninitialised. -/
def fillTile (tile : List (Option P)) (source : List P) (spec : RotatedCopySpec)
    (tileX tileY tileWidth tileHeight : Nat) : Option (List (Option P)) :=
  (List.range tileHeight).foldlM
    (fun tile row => (List.range tileWidth).foldlM
      (fun tile column => do
        let pixel ← source[spec.sourceOffset (tileY + row) (tileX + column)]?
        writeAt tile (row * 16 + column) (some pixel)) tile) tile

/-- `tile[offset].assume_init_read()`. -/
def assumeInitRead (tile : List (Option P)) (offset : Nat) : Option P := do
  let cell ← tile[offset]?
  cell

def drainTile (destination : List P) (layout : Rgb565OutputLayout usizeMax)
    (tile : List (Option P)) (spec : RotatedCopySpec) (tileX tileY tileWidth tileHeight : Nat) :
    Option (List P) :=
  match layout.rotation with
  | .clockwise90 =>
      let physicalXMin := layout.logicalHeight - (spec.destinationY + tileY + tileHeight)
      (List.range tileWidth).foldlM
        (fun destination column =>
          let physicalY := spec.destinationX + tileX + column
          let destinationStart := physicalY * layout.physicalStride + physicalXMin
          (List.range tileHeight).foldlM
            (fun destination row => do
              let pixel ← assumeInitRead tile (row * 16 + column)
              writeAt destination (destinationStart + tileHeight - 1 - row) pixel)
            destination) destination
  | .counterClockwise90 =>
      (List.range tileWidth).foldlM
        (fun destination column =>
          let physicalY := layout.logicalWidth - 1 - (spec.destinationX + tileX + column)
          let destinationStart :=
            physicalY * layout.physicalStride + spec.destinationY + tileY
          (List.range tileHeight).foldlM
            (fun destination row => do
              let pixel ← assumeInitRead tile (row * 16 + column)
              writeAt destination (destinationStart + row) pixel) destination) destination
  -- `unreachable!("identity copies bypass rotation kernels")`
  | .none => none

/-- One tile. The tile buffer stays what it is between tiles. -/
def scalarTile (layout : Rgb565OutputLayout usizeMax) (source : List P) (spec : RotatedCopySpec)
    (tileY : Nat) (state : List P × List (Option P)) (tileX : Nat) :
    Option (List P × List (Option P)) := do
  let tileHeight := min (spec.height - tileY) 16
  let tileWidth := min (spec.width - tileX) 16
  let tile ← fillTile state.2 source spec tileX tileY tileWidth tileHeight
  let destination ← drainTile state.1 layout tile spec tileX tileY tileWidth tileHeight
  some (destination, tile)

def copyRotatedRgb565Scalar (destination : List P) (layout : Rgb565OutputLayout usizeMax)
    (source : List P) (spec : RotatedCopySpec) : Option (List P) := do
  let (destination, _) ← (stepBy spec.height 16).foldlM
    (fun state tileY => (stepBy spec.width 16).foldlM (scalarTile layout source spec tileY) state)
    (destination, List.replicate 256 none)
  some destination

/-! ## 4. Tiles in vector registers -/

/-- `uint16x4_t`, `uint16x8_t`: a pixel of two bytes in each lane. -/
abbrev Lanes (n : Nat) (P : Type) := Fin n → P

/-- `vtrn_u16`. -/
def vtrnU16 (a b : Lanes 4 P) : Lanes 4 P × Lanes 4 P :=
  (![a 0, b 0, a 2, b 2], ![a 1, b 1, a 3, b 3])

/-- `vtrn_u32`, between reinterpretations: two lanes are one of 32 bits. -/
def vtrnU32 (a b : Lanes 4 P) : Lanes 4 P × Lanes 4 P :=
  (![a 0, a 1, b 0, b 1], ![a 2, a 3, b 2, b 3])

def vgetLow (v : Lanes 8 P) : Lanes 4 P := ![v 0, v 1, v 2, v 3]

def vgetHigh (v : Lanes 8 P) : Lanes 4 P := ![v 4, v 5, v 6, v 7]

def vcombine (low high : Lanes 4 P) : Lanes 8 P :=
  ![low 0, low 1, low 2, low 3, high 0, high 1, high 2, high 3]

/-- `vrev64q_u16`: each half of 64 bits reversed. -/
def vrev64q (v : Lanes 8 P) : Lanes 8 P := ![v 3, v 2, v 1, v 0, v 7, v 6, v 5, v 4]

def transpose4 (rows : Fin 4 → Lanes 4 P) : Fin 4 → Lanes 4 P :=
  let t0 := vtrnU16 (rows 0) (rows 1)
  let t1 := vtrnU16 (rows 2) (rows 3)
  let t2 := vtrnU32 t0.1 t1.1
  let t3 := vtrnU32 t0.2 t1.2
  ![t2.1, t3.1, t2.2, t3.2]

def transpose8 (rows : Fin 8 → Lanes 8 P) : Fin 8 → Lanes 8 P :=
  let topColumns := transpose4 ![vgetLow (rows 0), vgetLow (rows 1), vgetLow (rows 2),
    vgetLow (rows 3)]
  let bottomColumns := transpose4 ![vgetLow (rows 4), vgetLow (rows 5), vgetLow (rows 6),
    vgetLow (rows 7)]
  let topColumns' := transpose4 ![vgetHigh (rows 0), vgetHigh (rows 1), vgetHigh (rows 2),
    vgetHigh (rows 3)]
  let bottomColumns' := transpose4 ![vgetHigh (rows 4), vgetHigh (rows 5), vgetHigh (rows 6),
    vgetHigh (rows 7)]
  ![vcombine (topColumns 0) (bottomColumns 0), vcombine (topColumns 1) (bottomColumns 1),
    vcombine (topColumns 2) (bottomColumns 2), vcombine (topColumns 3) (bottomColumns 3),
    vcombine (topColumns' 0) (bottomColumns' 0), vcombine (topColumns' 1) (bottomColumns' 1),
    vcombine (topColumns' 2) (bottomColumns' 2), vcombine (topColumns' 3) (bottomColumns' 3)]

def reverse8 (value : Lanes 8 P) : Lanes 8 P :=
  let reversed := vrev64q value
  vcombine (vgetHigh reversed) (vgetLow reversed)

/-- `vld1q_u16(source + start(row))` for each row of a tile. -/
def loadRows (source : List P) (start : Nat → Nat) : Option (Fin 8 → Lanes 8 P) :=
  if h : ∀ row : Fin 8, start row + 8 ≤ source.length then
    some fun row lane => source.get ⟨start row + lane, by have := h row; omega⟩
  else none

/-- The pixels of a partial tile, one by one. -/
def rotateScalar (destination : List P) (layout : Rgb565OutputLayout usizeMax) (source : List P)
    (spec : RotatedCopySpec) : Option (List P) :=
  (List.range spec.height).foldlM
    (fun destination row => (List.range spec.width).foldlM
      (fun destination column => do
        let logicalX := spec.destinationX + column
        let logicalY := spec.destinationY + row
        let pixel ← source[spec.sourceOffset row column]?
        if layout.rotation = .clockwise90 then
          writeAt destination
            (logicalX * layout.physicalStride + (layout.logicalHeight - 1 - logicalY)) pixel
        else
          writeAt destination
            ((layout.logicalWidth - 1 - logicalX) * layout.physicalStride + logicalY) pixel)
      destination) destination

/-- A full tile of eight rows. -/
def rotateTile (destination : List P) (layout : Rgb565OutputLayout usizeMax) (source : List P)
    (spec : RotatedCopySpec) (tileX tileY : Nat) : Option (List P) := do
  let rows ← loadRows source fun row => spec.sourceOffset (tileY + row) tileX
  let columns := transpose8 rows
  (List.finRange 8).foldlM
    (fun destination (column : Fin 8) =>
      if layout.rotation = .clockwise90 then
        let physicalX := layout.logicalHeight - (spec.destinationY + tileY + 8)
        let physicalY := spec.destinationX + tileX + column
        copyFromSlice destination (physicalY * layout.physicalStride + physicalX)
          (List.ofFn (reverse8 (columns column)))
      else
        let physicalY := layout.logicalWidth - 1 - (spec.destinationX + tileX + column)
        let physicalX := spec.destinationY + tileY
        copyFromSlice destination (physicalY * layout.physicalStride + physicalX)
          (List.ofFn (columns column))) destination

def rotateTiled (destination : List P) (layout : Rgb565OutputLayout usizeMax) (source : List P)
    (spec : RotatedCopySpec) : Option (List P) :=
  (stepBy spec.height 8).foldlM
    (fun destination tileY => (stepBy spec.width 8).foldlM
      (fun destination tileX =>
        let tileHeight := min (spec.height - tileY) 8
        let tileWidth := min (spec.width - tileX) 8
        if tileWidth ≠ 8 ∨ tileHeight ≠ 8 then
          rotateScalar destination layout source
            { destinationX := spec.destinationX + tileX
              destinationY := spec.destinationY + tileY
              width := tileWidth
              height := tileHeight
              sourceStride := spec.sourceStride
              sourceX := spec.sourceX + tileX
              sourceY := spec.sourceY + tileY }
        else rotateTile destination layout source spec tileX tileY) destination) destination

end Definitions

/-! ## 5. Register shuffles -/

section Shuffles

variable {P : Type}

theorem transpose8_apply (rows : Fin 8 → Lanes 8 P) (i j : Fin 8) :
    transpose8 rows i j = rows j i := by
  fin_cases i <;> fin_cases j <;> rfl

theorem reverse8_apply (value : Lanes 8 P) (i : Fin 8) : reverse8 value i = value i.rev := by
  fin_cases i <;> rfl

theorem loadRows_eq (source : List P) (start : Nat → Nat)
    (h : ∀ row : Fin 8, start row + 8 ≤ source.length) :
    ∃ rows, loadRows source start = some rows ∧
      ∀ row lane : Fin 8, source[start row + lane.val]? = some (rows row lane) := by
  refine ⟨_, dif_pos h, fun row lane => ?_⟩
  have hrow := h row
  exact List.getElem?_eq_getElem (by omega)

end Shuffles

/-! ## 6. Tiles of an extent -/

theorem mem_stepBy {n step t : Nat} (hstep : 0 < step) :
    t ∈ stepBy n step ↔ t < n ∧ ∃ i, t = step * i := by
  have hcount : ∀ i, i < (n + step - 1) / step ↔ step * i < n := by
    intro i
    rw [Nat.lt_iff_add_one_le, Nat.le_div_iff_mul_le hstep, Nat.add_mul, Nat.mul_comm i]
    omega
  unfold stepBy
  simp only [List.mem_range', Nat.zero_add, hcount]
  constructor
  · rintro ⟨i, hi, rfl⟩
    exact ⟨hi, i, rfl⟩
  · rintro ⟨hlt, i, rfl⟩
    exact ⟨i, hlt, rfl⟩

/-- **The tiles cover the extent**, the last one with what is left. -/
theorem exists_tile {n step i : Nat} (hstep : 0 < step) :
    (∃ t ∈ stepBy n step, ∃ j < min (n - t) step, i = t + j) ↔ i < n := by
  constructor
  · rintro ⟨t, -, j, hj, rfl⟩
    omega
  · intro hi
    have hdiv := Nat.div_add_mod i step
    have hmod := Nat.mod_lt i hstep
    refine ⟨step * (i / step), (mem_stepBy hstep).mpr ⟨by omega, _, rfl⟩, i % step, ?_,
      hdiv.symm⟩
    exact Nat.lt_min.mpr ⟨by omega, hmod⟩

/-- The cells of the tiles are those of the rectangle. -/
theorem exists_tiles {height width step : Nat} {k : Nat × Nat} (hstep : 0 < step) :
    (∃ tileY ∈ stepBy height step, ∃ tileX ∈ stepBy width step,
      ∃ row < min (height - tileY) step, ∃ column < min (width - tileX) step,
        k = (tileY + row, tileX + column)) ↔ k.1 < height ∧ k.2 < width := by
  rw [← exists_tile (n := height) hstep, ← exists_tile (n := width) hstep]
  constructor
  · rintro ⟨tileY, hY, tileX, hX, row, hrow, column, hcolumn, rfl⟩
    exact ⟨⟨tileY, hY, row, hrow, rfl⟩, ⟨tileX, hX, column, hcolumn, rfl⟩⟩
  · rintro ⟨⟨tileY, hY, row, hrow, h1⟩, ⟨tileX, hX, column, hcolumn, h2⟩⟩
    exact ⟨tileY, hY, tileX, hX, row, hrow, column, hcolumn, Prod.ext h1 h2⟩

/-! ## 7. The rectangle as a canvas -/

/-- The rectangle is in the scene, and its source in the slice. -/
structure RotatedCopySpec.Fits {P : Type} {usizeMax : Nat} (spec : RotatedCopySpec)
    (layout : Rgb565OutputLayout usizeMax) (source : List P) : Prop where
  x : spec.destinationX + spec.width ≤ layout.logicalWidth
  y : spec.destinationY + spec.height ≤ layout.logicalHeight
  source : ∀ row < spec.height, ∀ column < spec.width,
    spec.sourceOffset row column < source.length

/-! ## 8. The tile buffer -/

/-- The tile buffer holds the pixels of a tile. -/
def Filled (tile : List (Option P)) (value : Nat × Nat → P)
    (tileX tileY tileWidth tileHeight : Nat) : Prop :=
  ∀ row < tileHeight, ∀ column < tileWidth,
    assumeInitRead tile (row * 16 + column) = some (value (tileY + row, tileX + column))

/-- Where the pixels of a tile go in the tile buffer. -/
def tileCanvas (tile : List (Option P)) (htile : tile.length = 256) (value : Nat × Nat → P)
    {tileWidth tileHeight : Nat} (hw : tileWidth ≤ 16) (hh : tileHeight ≤ 16)
    (tileX tileY : Nat) : Canvas (Nat × Nat) (Option P) where
  before := tile
  cells k := k.1 < tileHeight ∧ k.2 < tileWidth
  offset k := k.1 * 16 + k.2
  value k := some (value (tileY + k.1, tileX + k.2))
  inside k hk := by omega
  agree k k' hk hk' h := by
    obtain ⟨h1, h2⟩ := row_inj (by omega) (by omega) h
    rw [h1, h2]

section Canvas

variable {P : Type} {usizeMax : Nat} {layout : Rgb565OutputLayout usizeMax} {source : List P}
  {spec : RotatedCopySpec} {x y : Nat}

theorem physicalOffset_none (h : layout.rotation = .none) :
    layout.physicalOffset x y = y * layout.physicalStride + x := by
  unfold physicalOffset logicalToPhysical
  rw [h]

theorem physicalOffset_clockwise (h : layout.rotation = .clockwise90) :
    layout.physicalOffset x y =
      x * layout.physicalStride + (layout.logicalHeight - 1 - y) := by
  unfold physicalOffset logicalToPhysical
  rw [h]

theorem physicalOffset_counterClockwise (h : layout.rotation = .counterClockwise90) :
    layout.physicalOffset x y =
      (layout.logicalWidth - 1 - x) * layout.physicalStride + y := by
  unfold physicalOffset logicalToPhysical
  rw [h]

/-- Cell `(row, column)` of the rectangle. `p` stands where the source has no pixel. -/
def copyCanvas (pixels : List P) (hlen : pixels.length = layout.len)
    (hfits : spec.Fits layout source) (p : P) : Canvas (Nat × Nat) P where
  before := pixels
  cells k := k.1 < spec.height ∧ k.2 < spec.width
  offset k := layout.physicalOffset (spec.destinationX + k.2) (spec.destinationY + k.1)
  value k := source[spec.sourceOffset k.1 k.2]?.getD p
  inside k hk := by
    have hx := hfits.x
    have hy := hfits.y
    rw [hlen]
    exact physicalOffset_lt (by omega) (by omega)
  agree k k' hk hk' h := by
    have hx := hfits.x
    have hy := hfits.y
    obtain ⟨h1, h2⟩ := physicalOffset_inj (by omega) (by omega) (by omega) (by omega) h
    rw [Nat.add_left_cancel h1, Nat.add_left_cancel h2]

variable {pixels now : List P} {hlen : pixels.length = layout.len}
  {hfits : spec.Fits layout source} {p : P} {S : Nat × Nat → Prop} {row column : Nat}

variable (hlen hfits p) in
theorem source_eq_value (hrow : row < spec.height) (hcolumn : column < spec.width) :
    source[spec.sourceOffset row column]? =
      some ((copyCanvas pixels hlen hfits p).value (row, column)) := by
  have hlt := hfits.source row hrow column hcolumn
  show _ = some (source[spec.sourceOffset row column]?.getD p)
  rw [List.getElem?_eq_getElem hlt]
  rfl

theorem sourceOffset_column (row i j : Nat) :
    spec.sourceOffset row i + j = spec.sourceOffset row (i + j) := by
  unfold RotatedCopySpec.sourceOffset
  omega

theorem copyFromSlice_eq {part : List P} {start : Nat} (h : start + part.length ≤ now.length) :
    copyFromSlice now start part = some (overwrite now start part) := if_pos h

/-- A run of adjacent pixels is a part of the buffer. -/
theorem run_fits {start n : Nat} {cell : Nat → Nat × Nat} (hn : 0 < n)
    (h : (copyCanvas pixels hlen hfits p).Painted S now)
    (hcell : ∀ j < n, (cell j).1 < spec.height ∧ (cell j).2 < spec.width)
    (hoffset : ∀ j < n, (copyCanvas pixels hlen hfits p).offset (cell j) = start + j) :
    start + n ≤ now.length := by
  have hlast := (copyCanvas pixels hlen hfits p).inside (cell (n - 1)) (hcell _ (by omega))
  rw [hoffset _ (by omega)] at hlast
  rw [h.length]
  omega

/-! ## 9. Upright rows -/

theorem painted_copyRows (hrotation : layout.rotation = .none) (hwidth : 0 < spec.width)
    (h : (copyCanvas pixels hlen hfits p).Painted S now) :
    ∃ after, copyRows now layout source spec = some after ∧
      (copyCanvas pixels hlen hfits p).Painted
        (fun k => S k ∨ (k.1 < spec.height ∧ k.2 < spec.width)) after := by
  refine h.foldlM (fun row k => ∃ column, column < spec.width ∧ k = (row, column)) ?_ ?_
  · intro k
    constructor
    · intro hk
      exact ⟨k.1, List.mem_range.mpr hk.1, k.2, hk.2, rfl⟩
    · rintro ⟨row, hrow, column, hcolumn, rfl⟩
      exact ⟨List.mem_range.mp hrow, hcolumn⟩
  · intro row hrow S now hnow
    have hrow' := List.mem_range.mp hrow
    have hlast := hfits.source row hrow' (spec.width - 1) (by omega)
    rw [← Nat.zero_add (spec.width - 1), ← sourceOffset_column] at hlast
    have hslice : slice source (spec.sourceOffset row 0) spec.width = some _ :=
      slice_of_le (by omega)
    have hpart := length_of_slice hslice
    have hoffset : ∀ j < spec.width, (copyCanvas pixels hlen hfits p).offset (row, j) =
        (spec.destinationY + row) * layout.physicalStride + spec.destinationX + j := by
      intro j _
      rw [Nat.add_assoc]
      exact physicalOffset_none hrotation
    have hrun := run_fits hwidth hnow (fun j hj => ⟨hrow', hj⟩) hoffset
    refine ⟨_, ?_, hnow.overwrite _ (fun j => (row, j)) hpart
      (fun j hj => ⟨hrow', hj⟩) hoffset ?_ hrun⟩
    · rw [hslice]
      exact copyFromSlice_eq (by rw [hpart]; exact hrun)
    · intro j hj
      rw [getElem?_slice hslice hj, sourceOffset_column, Nat.zero_add]
      exact source_eq_value hlen hfits p hrow' hj

/-! ## 10. Tiles in memory -/

variable (hlen hfits p) in
theorem fillTile_spec {tile : List (Option P)} (htile : tile.length = 256)
    (tileX tileY : Nat) {tileWidth tileHeight : Nat} (hw : tileWidth ≤ 16) (hh : tileHeight ≤ 16)
    (hX : tileX + tileWidth ≤ spec.width) (hY : tileY + tileHeight ≤ spec.height) :
    ∃ after, fillTile tile source spec tileX tileY tileWidth tileHeight = some after ∧
      after.length = 256 ∧
      Filled after (copyCanvas pixels hlen hfits p).value tileX tileY tileWidth tileHeight := by
  let canvas := tileCanvas tile htile (copyCanvas pixels hlen hfits p).value hw hh tileX tileY
  have hpaint : ∃ after, fillTile tile source spec tileX tileY tileWidth tileHeight = some after ∧
      canvas.Painted (fun k => False ∨ (k.1 < tileHeight ∧ k.2 < tileWidth)) after := by
    refine (Canvas.Painted.nothing canvas).foldlM
      (fun row k => k.1 = row ∧ k.2 < tileWidth) ?_ ?_
    · intro k
      simp
    · intro row hrow S now hnow
      refine hnow.foldlM (fun column k => k = (row, column)) ?_ ?_
      · intro k
        constructor
        · rintro ⟨rfl, hcolumn⟩
          exact ⟨k.2, List.mem_range.mpr hcolumn, rfl⟩
        · rintro ⟨column, hcolumn, rfl⟩
          exact ⟨rfl, List.mem_range.mp hcolumn⟩
      · intro column hcolumn S now hnow
        have hrow' := List.mem_range.mp hrow
        have hcolumn' := List.mem_range.mp hcolumn
        rw [source_eq_value hlen hfits p (by omega) (by omega)]
        exact hnow.writeAt (k := (row, column)) ⟨hrow', hcolumn'⟩
  obtain ⟨after, hfill, hafter⟩ := hpaint
  refine ⟨after, hfill, hafter.length.trans htile, fun row hrow column hcolumn => ?_⟩
  have hcell : after[row * 16 + column]? = some _ :=
    hafter.painted (row, column) (.inr ⟨hrow, hcolumn⟩)
  unfold assumeInitRead
  rw [hcell]
  rfl

theorem drainTile_spec {tile : List (Option P)} {tileX tileY tileWidth tileHeight : Nat}
    (hrotation : layout.rotation ≠ .none)
    (hX : tileX + tileWidth ≤ spec.width) (hY : tileY + tileHeight ≤ spec.height)
    (hfilled : Filled tile (copyCanvas pixels hlen hfits p).value tileX tileY tileWidth tileHeight)
    (h : (copyCanvas pixels hlen hfits p).Painted S now) :
    ∃ after, drainTile now layout tile spec tileX tileY tileWidth tileHeight = some after ∧
      (copyCanvas pixels hlen hfits p).Painted
        (fun k => S k ∨ ∃ row < tileHeight, ∃ column < tileWidth,
          k = (tileY + row, tileX + column)) after := by
  have hx := hfits.x
  have hy := hfits.y
  have hcolumns : ∀ k : Nat × Nat, (∃ row < tileHeight, ∃ column < tileWidth,
      k = (tileY + row, tileX + column)) ↔ ∃ column ∈ List.range tileWidth,
        ∃ row < tileHeight, k = (tileY + row, tileX + column) := by
    intro k
    constructor
    · rintro ⟨row, hrow, column, hcolumn, rfl⟩
      exact ⟨column, List.mem_range.mpr hcolumn, row, hrow, rfl⟩
    · rintro ⟨column, hcolumn, row, hrow, rfl⟩
      exact ⟨row, hrow, column, List.mem_range.mp hcolumn, rfl⟩
  have hrows : ∀ column, ∀ k : Nat × Nat, (∃ row < tileHeight,
      k = (tileY + row, tileX + column)) ↔ ∃ row ∈ List.range tileHeight,
        k = (tileY + row, tileX + column) := by
    intro column k
    simp only [List.mem_range]
  unfold drainTile
  split
  · rename_i hclockwise
    refine h.foldlM (fun column k => ∃ row < tileHeight, k = (tileY + row, tileX + column))
      hcolumns ?_
    intro column hcolumn S now hnow
    refine hnow.foldlM (fun row k => k = (tileY + row, tileX + column)) (hrows column) ?_
    intro row hrow S now hnow
    have hcolumn' := List.mem_range.mp hcolumn
    have hrow' := List.mem_range.mp hrow
    have hoffset : (spec.destinationX + tileX + column) * layout.physicalStride +
        (layout.logicalHeight - (spec.destinationY + tileY + tileHeight)) + tileHeight - 1 - row =
          (copyCanvas pixels hlen hfits p).offset (tileY + row, tileX + column) := by
      show _ = layout.physicalOffset (spec.destinationX + (tileX + column))
        (spec.destinationY + (tileY + row))
      rw [physicalOffset_clockwise hclockwise, ← Nat.add_assoc spec.destinationX]
      omega
    rw [hfilled row hrow' column hcolumn', hoffset]
    exact hnow.writeAt (k := (tileY + row, tileX + column)) ⟨by omega, by omega⟩
  · rename_i hcounter
    refine h.foldlM (fun column k => ∃ row < tileHeight, k = (tileY + row, tileX + column))
      hcolumns ?_
    intro column hcolumn S now hnow
    refine hnow.foldlM (fun row k => k = (tileY + row, tileX + column)) (hrows column) ?_
    intro row hrow S now hnow
    have hcolumn' := List.mem_range.mp hcolumn
    have hrow' := List.mem_range.mp hrow
    have hoffset : (layout.logicalWidth - 1 - (spec.destinationX + tileX + column)) *
        layout.physicalStride + spec.destinationY + tileY + row =
          (copyCanvas pixels hlen hfits p).offset (tileY + row, tileX + column) := by
      show _ = layout.physicalOffset (spec.destinationX + (tileX + column))
        (spec.destinationY + (tileY + row))
      rw [physicalOffset_counterClockwise hcounter, ← Nat.add_assoc spec.destinationX]
      omega
    rw [hfilled row hrow' column hcolumn', hoffset]
    exact hnow.writeAt (k := (tileY + row, tileX + column)) ⟨by omega, by omega⟩
  · rename_i hnone
    exact absurd hnone hrotation

theorem scalarTile_spec {tileX tileY : Nat} {state : List P × List (Option P)}
    (hrotation : layout.rotation ≠ .none) (hX : tileX < spec.width) (hY : tileY < spec.height)
    (htile : state.2.length = 256)
    (h : (copyCanvas pixels hlen hfits p).Painted S state.1) :
    ∃ after, scalarTile layout source spec tileY state tileX = some after ∧
      after.2.length = 256 ∧
      (copyCanvas pixels hlen hfits p).Painted
        (fun k => S k ∨ ∃ row < min (spec.height - tileY) 16,
          ∃ column < min (spec.width - tileX) 16, k = (tileY + row, tileX + column)) after.1 := by
  obtain ⟨tile, hfill, htile', hfilled⟩ := fillTile_spec hlen hfits p htile tileX tileY
    (Nat.min_le_right (spec.width - tileX) 16)
    (Nat.min_le_right (spec.height - tileY) 16) (by omega) (by omega)
  obtain ⟨after, hdrain, hafter⟩ := drainTile_spec hrotation (by omega) (by omega) hfilled h
  refine ⟨(after, tile), ?_, htile', hafter⟩
  unfold scalarTile
  dsimp only
  rw [hfill]
  dsimp only [Option.bind_eq_bind, Option.bind_some]
  rw [hdrain]
  rfl

theorem painted_scalar (hrotation : layout.rotation ≠ .none)
    (h : (copyCanvas pixels hlen hfits p).Painted S now) :
    ∃ after, copyRotatedRgb565Scalar now layout source spec = some after ∧
      (copyCanvas pixels hlen hfits p).Painted
        (fun k => S k ∨ (k.1 < spec.height ∧ k.2 < spec.width)) after := by
  have htiles : ∃ after, (stepBy spec.height 16).foldlM
      (fun state tileY => (stepBy spec.width 16).foldlM (scalarTile layout source spec tileY) state)
      (now, List.replicate 256 none) = some after ∧ after.2.length = 256 ∧
        (copyCanvas pixels hlen hfits p).Painted
          (fun k => S k ∨ (k.1 < spec.height ∧ k.2 < spec.width)) after.1 := by
    refine Canvas.Painted.foldlM_state Prod.fst
      (fun state : List P × List (Option P) => state.2.length = 256)
      (fun tileY k => ∃ tileX ∈ stepBy spec.width 16, ∃ row < min (spec.height - tileY) 16,
        ∃ column < min (spec.width - tileX) 16, k = (tileY + row, tileX + column))
      (fun k => (exists_tiles (by decide)).symm) ?_ List.length_replicate h
    intro tileY hY S state htile hnow
    refine Canvas.Painted.foldlM_state Prod.fst
      (fun state : List P × List (Option P) => state.2.length = 256)
      (fun tileX k => ∃ row < min (spec.height - tileY) 16,
        ∃ column < min (spec.width - tileX) 16, k = (tileY + row, tileX + column))
      (fun k => Iff.rfl) ?_ htile hnow
    intro tileX hX S state htile hnow
    exact scalarTile_spec hrotation ((mem_stepBy (by decide)).mp hX).1
      ((mem_stepBy (by decide)).mp hY).1 htile hnow
  obtain ⟨after, hfold, -, hafter⟩ := htiles
  refine ⟨after.1, ?_, hafter⟩
  unfold copyRotatedRgb565Scalar
  rw [hfold]
  rfl

/-! ## 11. Tiles in vector registers -/

/-- The part of the copy that is in a tile. -/
def RotatedCopySpec.tile (spec : RotatedCopySpec) (tileX tileY tileWidth tileHeight : Nat) :
    RotatedCopySpec where
  destinationX := spec.destinationX + tileX
  destinationY := spec.destinationY + tileY
  width := tileWidth
  height := tileHeight
  sourceStride := spec.sourceStride
  sourceX := spec.sourceX + tileX
  sourceY := spec.sourceY + tileY

theorem sourceOffset_tile (tileX tileY tileWidth tileHeight row column : Nat) :
    (spec.tile tileX tileY tileWidth tileHeight).sourceOffset row column =
      spec.sourceOffset (tileY + row) (tileX + column) := by
  unfold RotatedCopySpec.sourceOffset RotatedCopySpec.tile
  dsimp only
  rw [Nat.add_assoc spec.sourceY]
  omega

theorem rotateScalar_spec {tileX tileY tileWidth tileHeight : Nat}
    (hrotation : layout.rotation ≠ .none)
    (hX : tileX + tileWidth ≤ spec.width) (hY : tileY + tileHeight ≤ spec.height)
    (h : (copyCanvas pixels hlen hfits p).Painted S now) :
    ∃ after, rotateScalar now layout source (spec.tile tileX tileY tileWidth tileHeight) =
        some after ∧
      (copyCanvas pixels hlen hfits p).Painted
        (fun k => S k ∨ ∃ row < tileHeight, ∃ column < tileWidth,
          k = (tileY + row, tileX + column)) after := by
  refine h.foldlM (fun row k => ∃ column < tileWidth, k = (tileY + row, tileX + column)) ?_ ?_
  · intro k
    simp only [RotatedCopySpec.tile, List.mem_range]
  · intro row hrow S now hnow
    refine hnow.foldlM (fun column k => k = (tileY + row, tileX + column)) ?_ ?_
    · intro k
      simp only [RotatedCopySpec.tile, List.mem_range]
    · intro column hcolumn S now hnow
      have hrow' : row < tileHeight := List.mem_range.mp hrow
      have hcolumn' : column < tileWidth := List.mem_range.mp hcolumn
      have hoffset : (copyCanvas pixels hlen hfits p).offset (tileY + row, tileX + column) =
          layout.physicalOffset (spec.destinationX + tileX + column)
            (spec.destinationY + tileY + row) := by
        show layout.physicalOffset _ _ = _
        rw [Nat.add_assoc, Nat.add_assoc]
      have hwrite := hnow.writeAt (k := (tileY + row, tileX + column)) ⟨by omega, by omega⟩
      rw [hoffset] at hwrite
      dsimp only
      rw [sourceOffset_tile, source_eq_value hlen hfits p (by omega) (by omega)]
      split
      · rename_i hclockwise
        rw [physicalOffset_clockwise hclockwise] at hwrite
        exact hwrite
      · rename_i hclockwise
        have hcounter : layout.rotation = .counterClockwise90 := by
          cases hr : layout.rotation with
          | none => exact absurd hr hrotation
          | clockwise90 => exact absurd hr hclockwise
          | counterClockwise90 => rfl
        rw [physicalOffset_counterClockwise hcounter] at hwrite
        exact hwrite

theorem getElem?_ofFn_lanes {v : Lanes 8 P} {j : Nat} (hj : j < 8) :
    (List.ofFn v)[j]? = some (v ⟨j, hj⟩) := by
  rw [List.getElem?_ofFn, dif_pos hj]

/-- **A full tile**: what is one column of the source is one run of the framebuffer. -/
theorem rotateTile_spec {tileX tileY : Nat} (hrotation : layout.rotation ≠ .none)
    (hX : tileX + 8 ≤ spec.width) (hY : tileY + 8 ≤ spec.height)
    (h : (copyCanvas pixels hlen hfits p).Painted S now) :
    ∃ after, rotateTile now layout source spec tileX tileY = some after ∧
      (copyCanvas pixels hlen hfits p).Painted
        (fun k => S k ∨ ∃ row < 8, ∃ column < 8, k = (tileY + row, tileX + column)) after := by
  have hx := hfits.x
  have hy := hfits.y
  obtain ⟨rows, hload, hrows⟩ := loadRows_eq source
    (fun row => spec.sourceOffset (tileY + row) tileX)
    (fun row => by
      have hlast := hfits.source (tileY + row) (by omega) (tileX + 7) (by omega)
      rw [← sourceOffset_column] at hlast
      omega)
  -- the pixel in a lane
  have hlane : ∀ row column : Fin 8, rows row column =
      (copyCanvas pixels hlen hfits p).value (tileY + row.val, tileX + column.val) := by
    intro row column
    have hsome := hrows row column
    rw [sourceOffset_column, source_eq_value hlen hfits p (by omega) (by omega)] at hsome
    exact (Option.some.inj hsome).symm
  unfold rotateTile
  rw [hload]
  refine h.foldlM (fun (column : Fin 8) k => ∃ row < 8, k = (tileY + row, tileX + column.val))
    ?_ ?_
  · intro k
    constructor
    · rintro ⟨row, hrow, column, hcolumn, rfl⟩
      exact ⟨⟨column, hcolumn⟩, List.mem_finRange _, row, hrow, rfl⟩
    · rintro ⟨column, -, row, hrow, rfl⟩
      exact ⟨row, hrow, column.val, column.isLt, rfl⟩
  · intro column _ S now hnow
    by_cases hclockwise : layout.rotation = .clockwise90
    · -- a clockwise quarter turn reads a column from below
      have hcell : ∀ j < 8, (tileY + (7 - j), tileX + column.val).1 < spec.height ∧
          (tileY + (7 - j), tileX + column.val).2 < spec.width := fun j hj =>
        ⟨by dsimp only; omega, by dsimp only; omega⟩
      have hoffset : ∀ j < 8, (copyCanvas pixels hlen hfits p).offset
          (tileY + (7 - j), tileX + column.val) =
            (spec.destinationX + tileX + column.val) * layout.physicalStride +
              (layout.logicalHeight - (spec.destinationY + tileY + 8)) + j := by
        intro j hj
        show layout.physicalOffset (spec.destinationX + (tileX + column.val))
          (spec.destinationY + (tileY + (7 - j))) = _
        rw [physicalOffset_clockwise hclockwise, ← Nat.add_assoc spec.destinationX]
        omega
      have hrun := run_fits (by decide) hnow hcell hoffset
      have hpaint := hnow.overwrite (List.ofFn (reverse8 (transpose8 rows column)))
        (fun j => (tileY + (7 - j), tileX + column.val)) List.length_ofFn hcell hoffset
        (fun j hj => by
          have hrev : (Fin.rev ⟨j, hj⟩ : Fin 8).val = 7 - j := by
            rw [Fin.val_rev]
            dsimp only
            omega
          rw [getElem?_ofFn_lanes hj, reverse8_apply, transpose8_apply, hlane, hrev]) hrun
      refine ⟨_, ?_, hpaint.congr fun k => or_congr_right ?_⟩
      · rw [if_pos hclockwise]
        exact copyFromSlice_eq (by rw [List.length_ofFn]; exact hrun)
      · constructor
        · rintro ⟨row, hrow, rfl⟩
          exact ⟨7 - row, by omega, Prod.ext (by dsimp only; omega) rfl⟩
        · rintro ⟨j, hj, rfl⟩
          exact ⟨7 - j, by omega, rfl⟩
    · have hcounter : layout.rotation = .counterClockwise90 := by
        cases hr : layout.rotation with
        | none => exact absurd hr hrotation
        | clockwise90 => exact absurd hr hclockwise
        | counterClockwise90 => rfl
      have hcell : ∀ j < 8, (tileY + j, tileX + column.val).1 < spec.height ∧
          (tileY + j, tileX + column.val).2 < spec.width := fun j hj =>
        ⟨by dsimp only; omega, by dsimp only; omega⟩
      have hoffset : ∀ j < 8, (copyCanvas pixels hlen hfits p).offset
          (tileY + j, tileX + column.val) =
            (layout.logicalWidth - 1 - (spec.destinationX + tileX + column.val)) *
              layout.physicalStride + (spec.destinationY + tileY) + j := by
        intro j hj
        show layout.physicalOffset (spec.destinationX + (tileX + column.val))
          (spec.destinationY + (tileY + j)) = _
        rw [physicalOffset_counterClockwise hcounter, ← Nat.add_assoc spec.destinationX]
        omega
      have hrun := run_fits (by decide) hnow hcell hoffset
      have hpaint := hnow.overwrite (List.ofFn (transpose8 rows column))
        (fun j => (tileY + j, tileX + column.val)) List.length_ofFn hcell hoffset
        (fun j hj => by rw [getElem?_ofFn_lanes hj, transpose8_apply, hlane]) hrun
      refine ⟨_, ?_, hpaint⟩
      rw [if_neg hclockwise]
      exact copyFromSlice_eq (by rw [List.length_ofFn]; exact hrun)

theorem painted_rotateTiled (hrotation : layout.rotation ≠ .none)
    (h : (copyCanvas pixels hlen hfits p).Painted S now) :
    ∃ after, rotateTiled now layout source spec = some after ∧
      (copyCanvas pixels hlen hfits p).Painted
        (fun k => S k ∨ (k.1 < spec.height ∧ k.2 < spec.width)) after := by
  refine h.foldlM (fun tileY k => ∃ tileX ∈ stepBy spec.width 8,
    ∃ row < min (spec.height - tileY) 8, ∃ column < min (spec.width - tileX) 8,
      k = (tileY + row, tileX + column)) (fun k => (exists_tiles (by decide)).symm) ?_
  intro tileY hY S now hnow
  refine hnow.foldlM (fun tileX k => ∃ row < min (spec.height - tileY) 8,
    ∃ column < min (spec.width - tileX) 8, k = (tileY + row, tileX + column))
    (fun k => Iff.rfl) ?_
  intro tileX hX S now hnow
  have hX' := ((mem_stepBy (by decide)).mp hX).1
  have hY' := ((mem_stepBy (by decide)).mp hY).1
  dsimp only
  split
  · exact rotateScalar_spec hrotation (by omega) (by omega) hnow
  · rename_i hfull
    have hw : min (spec.width - tileX) 8 = 8 := by omega
    have hh : min (spec.height - tileY) 8 = 8 := by omega
    rw [hw, hh]
    exact rotateTile_spec hrotation (by omega) (by omega) hnow

end Canvas

end MisterMagik.Scenes
