/-
  File:      MisterMagik/Scenes/TileGrid.lean
  Subject:   A plane cut into 16 by 9 tiles, and loops over those of them that are dirty
             (`orientation.rs`, `orientation_transition.rs`).

  Tile edges are rounded down, so that tiles of one row differ in width and a plane narrower than 16
  has tiles of no width. A mask of 16 bits for each row says which tiles are dirty. `none` stands
  for a panic, an access outside its slice.

  * `exists_tile`, `rowAt_eq`, `columnAt_eq` -- every pixel of the plane lies in one tile;
  * `painted_rows` -- rows of a rectangle, written one after the other;
  * `painted_forDirtyTiles` -- what the loop over the dirty tiles paints;
  * `eq_picture` -- a plane that is painted where it differs from a picture is that picture.
-/
import MisterMagik.Base.Painting
import Mathlib.Tactic.Ring

namespace MisterMagik.Scenes.Orientation

open Base Base.Canvas

/-! ## 1. Tiles -/

def COLUMNS : Nat := 16

def ROWS : Nat := 9

/-- `(x0, y0, x1, y1)`: from the first pixel to before the last one. -/
structure Rect where
  x0 : Nat
  y0 : Nat
  x1 : Nat
  y1 : Nat
  deriving DecidableEq, Repr

def Rect.inside (r : Rect) (x y : Nat) : Prop := r.x0 ≤ x ∧ x < r.x1 ∧ r.y0 ≤ y ∧ y < r.y1

instance (r : Rect) (x y : Nat) : Decidable (r.inside x y) :=
  inferInstanceAs (Decidable (_ ∧ _ ∧ _ ∧ _))

/-- The pixel at an offset into a plane of this width. -/
def Rect.has (r : Rect) (width o : Nat) : Prop := r.inside (o % width) (o / width)

instance (r : Rect) (width o : Nat) : Decidable (r.has width o) :=
  inferInstanceAs (Decidable (r.inside _ _))

def tileRect (width height : Nat) (row : Fin ROWS) (column : Fin COLUMNS) : Rect where
  x0 := column * width / COLUMNS
  y0 := row * height / ROWS
  x1 := (column + 1) * width / COLUMNS
  y1 := (row + 1) * height / ROWS

/-! ## 2. Rows of pixels -/

section Definitions

variable {P : Type}

/-- `pixels[start..stop]`. -/
def range (pixels : List P) (start stop : Nat) : Option (List P) :=
  if start ≤ stop then slice pixels start (stop - start) else none

/-- `pixels[start..stop].copy_from_slice(part)`. -/
def copyIntoRange (pixels : List P) (start stop : Nat) (part : List P) : Option (List P) :=
  if start ≤ stop ∧ stop ≤ pixels.length ∧ part.length = stop - start then
    some (overwrite pixels start part)
  else none

/-- `for y in y0..y1`: the pixels of `line` between the columns `x0` and `x1`. -/
def paintRows (stride : Nat) (r : Rect) (line : Nat → Nat → Option (List P)) (output : List P) :
    Option (List P) :=
  (List.range' r.y0 (r.y1 - r.y0)).foldlM
    (fun output y => do
      let part ← line (y * stride + r.x0) (y * stride + r.x1)
      copyIntoRange output (y * stride + r.x0) (y * stride + r.x1) part) output

/-- `output[start..stop].copy_from_slice(&frame[start..stop])`, row by row. -/
def copyRect (frame output : List P) (stride : Nat) (r : Rect) : Option (List P) :=
  paintRows stride r (range frame) output

/-- `output[start..stop].fill(value)`, row by row. -/
def fillRect (value : P) (output : List P) (stride : Nat) (r : Rect) : Option (List P) :=
  paintRows stride r (fun start stop => some (List.replicate (stop - start) value)) output

/-! ## 3. Dirty tiles -/

/-- A bit for each column of each row. -/
abbrev DirtyRows := Fin ROWS → BitVec 16

def DirtyRows.dirty (rows : DirtyRows) (row : Fin ROWS) (column : Fin COLUMNS) : Prop :=
  rows row &&& (1#16 <<< column.val) ≠ 0#16

instance (rows : DirtyRows) (row : Fin ROWS) (column : Fin COLUMNS) :
    Decidable (rows.dirty row column) := inferInstanceAs (Decidable (_ ≠ _))

/-- The loop of every kernel here: dirty tiles, row by row. -/
def forDirtyTiles (rows : DirtyRows)
    (tile : List P → Fin ROWS → Fin COLUMNS → Option (List P)) (output : List P) :
    Option (List P) :=
  (List.finRange ROWS).foldlM
    (fun output row => (List.finRange COLUMNS).foldlM
      (fun output column =>
        if rows.dirty row column then tile output row column else some output) output) output

end Definitions

/-! ## 4. The tile of a pixel -/

/-- In which of its parts a pixel of an axis lies. -/
def partAt (parts size x : Nat) : Nat := ((x + 1) * parts - 1) / size

section Edges

variable {parts size x i : Nat}

theorem edge_le_iff (hparts : 0 < parts) : i * size / parts ≤ x ↔ i * size < (x + 1) * parts := by
  rw [← Nat.lt_succ_iff]
  exact Nat.div_lt_iff_lt_mul hparts

theorem lt_edge_iff (hparts : 0 < parts) : x < i * size / parts ↔ (x + 1) * parts ≤ i * size := by
  rw [← Nat.succ_le_iff]
  exact Nat.le_div_iff_mul_le hparts

/-- The edges around a pixel are those of its part. -/
theorem partAt_eq (hparts : 0 < parts) (hlo : i * size / parts ≤ x)
    (hhi : x < (i + 1) * size / parts) : partAt parts size x = i := by
  rw [edge_le_iff hparts] at hlo
  rw [lt_edge_iff hparts] at hhi
  have hpixel : 0 < (x + 1) * parts := Nat.mul_pos (Nat.succ_pos x) hparts
  exact Nat.div_eq_of_lt_le (by omega) (by omega)

theorem partAt_edges (hparts : 0 < parts) (hx : x < size) :
    partAt parts size x < parts ∧ partAt parts size x * size / parts ≤ x ∧
      x < (partAt parts size x + 1) * size / parts := by
  have hsize : 0 < size := by omega
  have hpixel : 0 < (x + 1) * parts := Nat.mul_pos (Nat.succ_pos x) hparts
  have hlo : partAt parts size x * size ≤ (x + 1) * parts - 1 := Nat.div_mul_le_self _ _
  have hhi : (x + 1) * parts - 1 < (partAt parts size x + 1) * size := by
    rw [Nat.mul_comm _ size]
    exact Nat.lt_mul_div_succ ((x + 1) * parts - 1) hsize
  refine ⟨?_, ?_, ?_⟩
  · have hall : (x + 1) * parts ≤ parts * size := by
      rw [Nat.mul_comm]
      exact Nat.mul_le_mul_left parts hx
    exact (Nat.div_lt_iff_lt_mul hsize).mpr (by omega)
  · rw [edge_le_iff hparts]
    omega
  · rw [lt_edge_iff hparts]
    omega

theorem edge_mono (h : i ≤ x) : i * size / parts ≤ x * size / parts :=
  Nat.div_le_div_right (Nat.mul_le_mul_right size h)

theorem edge_last (hparts : 0 < parts) (h : i ≤ parts) : i * size / parts ≤ size := by
  have hle : i * size / parts ≤ parts * size / parts := edge_mono h
  rwa [Nat.mul_div_cancel_left size hparts] at hle

end Edges

def rowAt (height y : Nat) : Fin ROWS :=
  ⟨partAt ROWS height y % ROWS, Nat.mod_lt _ (by decide)⟩

def columnAt (width x : Nat) : Fin COLUMNS :=
  ⟨partAt COLUMNS width x % COLUMNS, Nat.mod_lt _ (by decide)⟩

section Tiles

variable {width height x y o : Nat} {row : Fin ROWS} {column : Fin COLUMNS}

theorem rowAt_eq (h : (tileRect width height row column).inside x y) : rowAt height y = row := by
  obtain ⟨-, -, hlo, hhi⟩ := h
  apply Fin.ext
  show partAt ROWS height y % ROWS = row
  rw [partAt_eq (by decide) hlo hhi, Nat.mod_eq_of_lt row.isLt]

theorem columnAt_eq (h : (tileRect width height row column).inside x y) :
    columnAt width x = column := by
  obtain ⟨hlo, hhi, -, -⟩ := h
  apply Fin.ext
  show partAt COLUMNS width x % COLUMNS = column
  rw [partAt_eq (by decide) hlo hhi, Nat.mod_eq_of_lt column.isLt]

/-- **Every pixel lies in a tile**, on planes of any size. -/
theorem exists_tile (hx : x < width) (hy : y < height) :
    (tileRect width height (rowAt height y) (columnAt width x)).inside x y := by
  obtain ⟨hrow, hrow0, hrow1⟩ := partAt_edges (by decide : 0 < ROWS) hy
  obtain ⟨hcolumn, hcolumn0, hcolumn1⟩ := partAt_edges (by decide : 0 < COLUMNS) hx
  have hr : (rowAt height y).val = partAt ROWS height y := Nat.mod_eq_of_lt hrow
  have hc : (columnAt width x).val = partAt COLUMNS width x := Nat.mod_eq_of_lt hcolumn
  unfold Rect.inside tileRect
  rw [hr, hc]
  exact ⟨hcolumn0, hcolumn1, hrow0, hrow1⟩

/-- The rectangle lies in the plane. -/
structure Rect.Within (r : Rect) (width height : Nat) : Prop where
  x : r.x0 ≤ r.x1
  y : r.y0 ≤ r.y1
  right : r.x1 ≤ width
  bottom : r.y1 ≤ height

theorem tileRect_within (width height : Nat) (row : Fin ROWS) (column : Fin COLUMNS) :
    (tileRect width height row column).Within width height where
  x := edge_mono (Nat.le_succ _)
  y := edge_mono (Nat.le_succ _)
  right := edge_last (by decide) column.isLt
  bottom := edge_last (by decide) row.isLt

theorem offset_lt (h : o < width * height) : o % width < width ∧ o / width < height := by
  have hwidth : 0 < width := Nat.pos_of_ne_zero fun he => by simp [he] at h
  exact ⟨Nat.mod_lt o hwidth, Nat.div_lt_of_lt_mul h⟩

theorem offset_mod (hx : x < width) : (y * width + x) % width = x := by
  rw [Nat.mul_add_mod_self_right, Nat.mod_eq_of_lt hx]

theorem offset_div (hx : x < width) : (y * width + x) / width = y := by
  rw [Nat.mul_comm, Nat.mul_add_div (by omega), Nat.div_eq_of_lt hx, Nat.add_zero]

theorem offset_inside (hx : x < width) (hy : y < height) : y * width + x < width * height := by
  have hrows : (y + 1) * width ≤ height * width := Nat.mul_le_mul_right width hy
  rw [Nat.add_mul, Nat.one_mul] at hrows
  rw [Nat.mul_comm width height]
  omega

end Tiles

/-! ## 5. What the loops paint -/

section Painting

variable {P : Type} {width height : Nat} {before now output frame : List P} {value : Nat → P}
  {start stop : Nat} {part : List P} {r : Rect}

theorem range_some (h : start ≤ stop) (hfits : stop ≤ frame.length) :
    ∃ part, range frame start stop = some part ∧ part.length = stop - start ∧
      ∀ j < stop - start, part[j]? = frame[start + j]? := by
  have hslice : slice frame start (stop - start) = some _ := slice_of_le (by omega)
  exact ⟨_, (if_pos h).trans hslice, length_of_slice hslice, fun j hj => getElem?_slice hslice hj⟩

/-- A row of the rectangle, by its offsets. -/
theorem row_has {y o : Nat} (hr : r.x1 ≤ width) (hy : r.y0 ≤ y) (hy' : y < r.y1) :
    (y * width + r.x0 ≤ o ∧ o < y * width + r.x1) ↔ (o / width = y ∧ r.has width o) := by
  constructor
  · rintro ⟨hlo, hhi⟩
    obtain ⟨x, rfl⟩ : ∃ x, o = y * width + x := ⟨o - y * width, by omega⟩
    have hx : x < width := by omega
    unfold Rect.has Rect.inside
    rw [offset_div hx, offset_mod hx]
    exact ⟨rfl, by omega, by omega, hy, hy'⟩
  · rintro ⟨rfl, hx0, hx1, -, -⟩
    have ho := Nat.div_add_mod' o width
    omega

theorem painted_rows {line : Nat → Nat → Option (List P)} (hr : r.Within width height)
    (hlen : output.length = width * height)
    (hline : ∀ y, r.y0 ≤ y → y < r.y1 → ∃ part,
      line (y * width + r.x0) (y * width + r.x1) = some part ∧ part.length = r.x1 - r.x0 ∧
        ∀ j < r.x1 - r.x0, part[j]? = some (value (y * width + r.x0 + j))) :
    ∃ after, paintRows width r line output = some after ∧
      (onto output value).Painted (r.has width) after := by
  have hx := hr.x
  have hrows : ∃ after, paintRows width r line output = some after ∧
      (onto output value).Painted
        (fun o => ∃ y ∈ List.range' r.y0 (r.y1 - r.y0), o / width = y ∧ r.has width o) after := by
    refine Painted.foldlM_onto (fun y o => o / width = y ∧ r.has width o) fun y hy now hnow => ?_
    obtain ⟨hy0, hy1⟩ := List.mem_range'_1.mp hy
    have hy' : y < r.y1 := by omega
    obtain ⟨part, hpart, hplen, hpvalue⟩ := hline y hy0 hy'
    have hrow : (y + 1) * width ≤ width * height := by
      rw [Nat.mul_comm]
      exact Nat.mul_le_mul_left width (Nat.le_trans hy' hr.bottom)
    have hright := hr.right
    rw [Nat.add_mul, Nat.one_mul] at hrow
    refine ⟨overwrite now (y * width + r.x0) part, ?_, ?_⟩
    · rw [hpart]
      exact if_pos ⟨by omega, by omega, by omega⟩
    · refine (Painted.run hplen hpvalue (by omega)).congr fun o => ?_
      rw [← row_has hr.right hy0 hy']
      constructor <;> rintro ⟨h0, h1⟩ <;> exact ⟨h0, by omega⟩
  obtain ⟨after, hfold, hafter⟩ := hrows
  refine ⟨after, hfold, hafter.congr fun o => ⟨fun ho => ?_, fun ⟨_, _, _, ho⟩ => ho⟩⟩
  obtain ⟨-, -, hy0, hy1⟩ := id ho
  exact ⟨o / width, List.mem_range'_1.mpr ⟨hy0, by omega⟩, rfl, ho⟩

theorem painted_copyRect (hr : r.Within width height) (hframe : frame.length = width * height)
    (hlen : output.length = width * height)
    (hvalue : ∀ o, o < width * height → frame[o]? = some (value o)) :
    ∃ after, copyRect frame output width r = some after ∧
      (onto output value).Painted (r.has width) after := by
  refine painted_rows hr hlen fun y hy0 hy1 => ?_
  have hx := hr.x
  have hright := hr.right
  have hrow : (y + 1) * width ≤ width * height := by
    rw [Nat.mul_comm]
    exact Nat.mul_le_mul_left width (Nat.le_trans hy1 hr.bottom)
  rw [Nat.add_mul, Nat.one_mul] at hrow
  have hle : y * width + r.x0 ≤ y * width + r.x1 := Nat.add_le_add_left hx _
  have hfits : y * width + r.x1 ≤ frame.length := by omega
  obtain ⟨part, hpart, hplen, hpvalue⟩ := range_some hle hfits
  refine ⟨part, hpart, by omega, fun j hj => ?_⟩
  rw [hpvalue j (by omega), hvalue _ (by omega)]

theorem painted_fillRect (black : P) (hr : r.Within width height)
    (hlen : output.length = width * height) :
    ∃ after, fillRect black output width r = some after ∧
      (onto output fun _ => black).Painted (r.has width) after := by
  have hx := hr.x
  refine painted_rows hr hlen fun y _ _ => ⟨_, rfl, ?_, fun j hj => ?_⟩
  · rw [List.length_replicate]
    omega
  · rw [List.getElem?_replicate_of_lt (by omega)]

theorem painted_forDirtyTiles {rows : DirtyRows}
    {tile : List P → Fin ROWS → Fin COLUMNS → Option (List P)}
    (part : Fin ROWS → Fin COLUMNS → Nat → Prop)
    (htile : ∀ row column, rows.dirty row column → ∀ now, now.length = before.length →
      ∃ after, tile now row column = some after ∧
        (onto now value).Painted (part row column) after) :
    ∃ after, forDirtyTiles rows tile before = some after ∧
      (onto before value).Painted
        (fun o => ∃ row column, rows.dirty row column ∧ part row column o) after := by
  have hrow : ∀ row : Fin ROWS, row ∈ List.finRange ROWS → ∀ now, now.length = before.length →
      ∃ after, (List.finRange COLUMNS).foldlM
          (fun output column =>
            if rows.dirty row column then tile output row column else some output) now =
          some after ∧
        (onto now value).Painted (fun o => ∃ column ∈ List.finRange COLUMNS,
          rows.dirty row column ∧ part row column o) after := by
    intro row _ now hnow
    refine Painted.foldlM_onto (fun column o => rows.dirty row column ∧ part row column o) ?_
    intro column _ now' hnow'
    by_cases hdirty : rows.dirty row column
    · rw [if_pos hdirty]
      obtain ⟨after, hafter, hpaint⟩ := htile row column hdirty now' (hnow'.trans hnow)
      exact ⟨after, hafter, hpaint.congr fun o => ⟨And.right, fun h => ⟨hdirty, h⟩⟩⟩
    · rw [if_neg hdirty]
      exact ⟨now', rfl, (Painted.nothing _).congr fun o => ⟨fun h => hdirty h.1, False.elim⟩⟩
  obtain ⟨after, hfold, hafter⟩ := Painted.foldlM_onto _ hrow
  refine ⟨after, hfold, hafter.congr fun o => ?_⟩
  simp only [List.mem_finRange, true_and]

/-! ## 6. Pictures -/

/-- The plane in which each pixel is what its tile shows there. -/
def pictureAt (width height : Nat) (shade : Fin ROWS → Fin COLUMNS → Nat → P) (o : Nat) : P :=
  shade (rowAt height (o / width)) (columnAt width (o % width)) o

def picture (width height : Nat) (shade : Fin ROWS → Fin COLUMNS → Nat → P) : List P :=
  (List.range (width * height)).map (pictureAt width height shade)

variable {shade shade' : Fin ROWS → Fin COLUMNS → Nat → P} {o : Nat} {row : Fin ROWS}
  {column : Fin COLUMNS}

theorem pictureAt_eq (h : (tileRect width height row column).has width o) :
    pictureAt width height shade o = shade row column o := by
  unfold pictureAt
  rw [rowAt_eq h, columnAt_eq h]

theorem length_picture : (picture width height shade).length = width * height := by
  rw [picture, List.length_map, List.length_range]

theorem getElem?_picture (h : o < width * height) :
    (picture width height shade)[o]? = some (pictureAt width height shade o) := by
  rw [picture, List.getElem?_map, List.getElem?_range h]
  rfl

/-- A plane that is painted wherever it differs from the picture is the picture. -/
theorem eq_picture {T : Nat → Prop}
    (h : (onto before (pictureAt width height shade)).Painted T now)
    (hlen : before.length = width * height)
    (hkept : ∀ o, o < width * height → ¬ T o →
      before[o]? = some (pictureAt width height shade o)) :
    now = picture width height shade := by
  apply List.ext_getElem?
  intro o
  by_cases ho : o < width * height
  · rw [getElem?_picture ho]
    by_cases hT : T o
    · exact h.at_painted hT
    · exact (h.at_kept hT).trans (hkept o ho hT)
  · have hnow : now.length = width * height := h.length.trans hlen
    rw [List.getElem?_eq_none (by omega), List.getElem?_eq_none (by rw [length_picture]; omega)]

end Painting

end MisterMagik.Scenes.Orientation
