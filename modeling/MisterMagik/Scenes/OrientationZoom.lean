/-
  File:      MisterMagik/Scenes/OrientationZoom.lean
  Subject:   The zoom compositor of the orientation change (`framebuffer-scenes`: `orientation.rs`).

  In every tile stands a black square of its level, or none. A redraw copies the tile and fills the
  square; over a plane that shows earlier levels it writes what lies in one of the two squares only.
  The vector kernels are taken to do the same. `none` stands for a call that is refused, which its
  caller turns into a panic, or for a panic; the count of written pixels is left out.

  * `square_within` -- the square lies in its tile, on planes of any size;
  * `painted_renderZoom` -- a redraw paints the dirty tiles;
  * `painted_renderZoomRetained` -- over earlier levels it paints what differs in them.
-/
import MisterMagik.Scenes.TileGrid

namespace MisterMagik.Scenes.Orientation

open Base Base.Canvas

/-! ## 1. The compositor -/

def SKIP : Nat := 255

/-- The array of tile levels, by row and column. -/
abbrev Levels := Fin ROWS → Fin COLUMNS → Nat

def centeredSpan (start stop level : Nat) : Nat × Nat :=
  let span := stop - start
  if span = 0 then (start, start)
  else
    let scaled := ((span - 1) * level + 16) / 32
    let visible := min (1 + scaled) span
    let center := start + (span - 1) / 2
    let first := max (center - (visible - 1) / 2) start
    (first, min (first + visible) stop)

section Definitions

variable {P : Type}

def Levels.valid (levels : Levels) : Prop :=
  ∀ row column, levels row column ≤ 32 ∨ levels row column = SKIP

instance (levels : Levels) : Decidable levels.valid :=
  inferInstanceAs (Decidable (∀ row column, levels row column ≤ 32 ∨ levels row column = SKIP))

/-- `width.checked_mul(height) == Some(source.len())`, and so on. -/
def valid (source output : List P) (width height : Nat) (levels : Levels) : Prop :=
  (width * height < 2 ^ 64 ∧ width * height = source.length) ∧
    source.length = output.length ∧ levels.valid

instance (source output : List P) (width height : Nat) (levels : Levels) :
    Decidable (valid source output width height levels) :=
  inferInstanceAs (Decidable (_ ∧ _ ∧ _))

/-- The black square of a tile. -/
def squareRect (width height : Nat) (row : Fin ROWS) (column : Fin COLUMNS) (level : Nat) : Rect :=
  if level = SKIP then ⟨0, 0, 0, 0⟩
  else
    let r := tileRect width height row column
    let (x0, x1) := centeredSpan r.x0 r.x1 level
    let (y0, y1) := centeredSpan r.y0 r.y1 level
    ⟨x0, y0, x1, y1⟩

variable (black : P)

def renderZoomTile (source : List P) (width height : Nat) (levels : Levels) (output : List P)
    (row : Fin ROWS) (column : Fin COLUMNS) : Option (List P) := do
  let r := tileRect width height row column
  let output ← copyRect source output width r
  let level := levels row column
  if level = SKIP then some output
  else
    let (bx0, bx1) := centeredSpan r.x0 r.x1 level
    let (by0, by1) := centeredSpan r.y0 r.y1 level
    fillRect black output width ⟨bx0, by0, bx1, by1⟩

/-- `render_zoom`, by `render_zoom_scalar`. -/
def renderZoom (source output : List P) (width height : Nat) (levels : Levels)
    (dirtyRows : DirtyRows) : Option (List P) :=
  if valid source output width height levels then
    forDirtyTiles dirtyRows (renderZoomTile black source width height levels) output
  else none

/-- One pixel of the tile: written where it lies in one of the two squares only. -/
def renderZoomPixel (source : List P) (width : Nat) (old now : Rect) (y : Nat) (output : List P)
    (x : Nat) : Option (List P) :=
  if decide (old.inside x y) ≠ decide (now.inside x y) then
    if now.inside x y then writeAt output (y * width + x) black
    else do
      let pixel ← source[y * width + x]?
      writeAt output (y * width + x) pixel
  else some output

def renderZoomDelta (source : List P) (width height : Nat) (levels previous : Levels)
    (output : List P) (row : Fin ROWS) (column : Fin COLUMNS) : Option (List P) :=
  let r := tileRect width height row column
  let old := squareRect width height row column (previous row column)
  let now := squareRect width height row column (levels row column)
  (List.range' r.y0 (r.y1 - r.y0)).foldlM
    (fun output y => (List.range' r.x0 (r.x1 - r.x0)).foldlM
      (renderZoomPixel black source width old now y) output) output

def renderZoomRetained (source output : List P) (width height : Nat) (levels : Levels)
    (dirtyRows : DirtyRows) (previous : Option Levels) : Option (List P) :=
  if valid source output width height levels then
    match previous with
    | none => renderZoom black source output width height levels dirtyRows
    | some previous =>
        if previous.valid then
          forDirtyTiles dirtyRows (renderZoomDelta black source width height levels previous) output
        else none
  else none

/-! ## 2. What a tile shows -/

/-- The pixel of a tile: black in the square, else the source. -/
def zoomShade (source : List P) (width height : Nat) (levels : Levels) (row : Fin ROWS)
    (column : Fin COLUMNS) (o : Nat) : P :=
  if (squareRect width height row column (levels row column)).has width o then black
  else source[o]?.getD black

end Definitions

section Squares

variable {start stop level width height : Nat} {row : Fin ROWS} {column : Fin COLUMNS}

/-- The span stays in the tile: `visible` and `span` are at most one pixel off its centre. -/
theorem centeredSpan_within (level : Nat) (h : start ≤ stop) :
    start ≤ (centeredSpan start stop level).1 ∧
      (centeredSpan start stop level).1 ≤ (centeredSpan start stop level).2 ∧
      (centeredSpan start stop level).2 ≤ stop := by
  unfold centeredSpan
  dsimp only
  split
  · exact ⟨Nat.le_refl start, Nat.le_refl start, h⟩
  · generalize ((stop - start - 1) * level + 16) / 32 = scaled
    dsimp only
    omega

theorem squareRect_of_ne (h : level ≠ SKIP) :
    squareRect width height row column level =
      ⟨(centeredSpan (tileRect width height row column).x0 (tileRect width height row column).x1
          level).1,
        (centeredSpan (tileRect width height row column).y0 (tileRect width height row column).y1
          level).1,
        (centeredSpan (tileRect width height row column).x0 (tileRect width height row column).x1
          level).2,
        (centeredSpan (tileRect width height row column).y0 (tileRect width height row column).y1
          level).2⟩ := if_neg h

theorem not_skip_has {o : Nat} : ¬ (squareRect width height row column SKIP).has width o := by
  rintro ⟨-, hx, -⟩
  exact absurd hx (Nat.not_lt_zero _)

variable (width height row column) in
/-- **The square of a tile lies in it**, and in the plane. -/
theorem square_within (h : level ≠ SKIP) :
    (squareRect width height row column level).Within width height ∧
      ∀ o, (squareRect width height row column level).has width o →
        (tileRect width height row column).has width o := by
  have htile := tileRect_within width height row column
  obtain ⟨hx0, hx, hx1⟩ := centeredSpan_within level htile.x
  obtain ⟨hy0, hy, hy1⟩ := centeredSpan_within level htile.y
  rw [squareRect_of_ne h]
  refine ⟨⟨hx, hy, Nat.le_trans hx1 htile.right, Nat.le_trans hy1 htile.bottom⟩, ?_⟩
  rintro o ⟨hox0, hox1, hoy0, hoy1⟩
  exact ⟨Nat.le_trans hx0 hox0, Nat.lt_of_lt_of_le hox1 hx1, Nat.le_trans hy0 hoy0,
    Nat.lt_of_lt_of_le hoy1 hy1⟩

end Squares

/-! ## 3. A full redraw -/

section Zoom

variable {P : Type} {black : P} {source output before : List P} {width height : Nat}
  {levels previous : Levels} {dirtyRows : DirtyRows} {row : Fin ROWS} {column : Fin COLUMNS}

variable (black) in
theorem source_at {o : Nat} (hsource : source.length = width * height) (ho : o < width * height) :
    source[o]? = some (source[o]?.getD black) := by
  rw [List.getElem?_eq_getElem (by omega)]
  rfl

theorem painted_renderZoomTile (hsource : source.length = width * height)
    (hlen : output.length = width * height) :
    ∃ after, renderZoomTile black source width height levels output row column = some after ∧
      (onto output (pictureAt width height (zoomShade black source width height levels))).Painted
        ((tileRect width height row column).has width) after := by
  have hwithin := tileRect_within width height row column
  obtain ⟨copied, hcopy, hcopied⟩ := painted_copyRect hwithin hsource hlen
    (fun o ho => source_at black hsource ho)
  have hshade : ∀ o, (tileRect width height row column).has width o →
      pictureAt width height (zoomShade black source width height levels) o =
        zoomShade black source width height levels row column o := fun o ho => pictureAt_eq ho
  unfold renderZoomTile
  dsimp only
  rw [hcopy]
  show ∃ after, (if levels row column = SKIP then some copied else _) = some after ∧ _
  by_cases hskip : levels row column = SKIP
  · refine ⟨copied, if_pos hskip, ?_⟩
    refine (hcopied.atop (Painted.nothing (onto copied fun _ => black)) (fun _ h => h.elim)
      ?_).congr
      fun o => (or_iff_left id).symm
    intro o ho _
    rw [hshade o ho, zoomShade, hskip, if_neg not_skip_has]
  · obtain ⟨hsquare, hinside⟩ := square_within width height row column hskip
    obtain ⟨after, hfill, hafter⟩ := painted_fillRect black hsquare (hcopied.length.trans hlen)
    rw [squareRect_of_ne hskip] at hfill
    refine ⟨after, (if_neg hskip).trans hfill, ?_⟩
    refine (hcopied.atop hafter ?_ ?_).congr fun o => (or_iff_left_of_imp (hinside o)).symm
    · intro o ho
      rw [hshade o (hinside o ho), zoomShade, if_pos ho]
    · intro o ho hnot
      rw [hshade o ho, zoomShade, if_neg hnot]

variable (black dirtyRows) in
theorem painted_renderZoom (hvalid : valid source output width height levels) :
    ∃ after, renderZoom black source output width height levels dirtyRows = some after ∧
      (onto output (pictureAt width height (zoomShade black source width height levels))).Painted
        (fun o => ∃ row column, dirtyRows.dirty row column ∧
          (tileRect width height row column).has width o) after := by
  obtain ⟨⟨-, hsource⟩, hout, -⟩ := id hvalid
  obtain ⟨after, hloop, hafter⟩ := painted_forDirtyTiles
    (fun row column => (tileRect width height row column).has width)
    fun row column _ now hnow =>
      painted_renderZoomTile hsource.symm (hnow.trans (hout.symm.trans hsource.symm))
  exact ⟨after, (if_pos hvalid).trans hloop, hafter⟩

/-! ## 4. The difference to earlier levels -/

/-- A pixel that lies in one of the two squares only. -/
def Differs (width height : Nat) (levels previous : Levels) (row : Fin ROWS)
    (column : Fin COLUMNS) (o : Nat) : Prop :=
  (tileRect width height row column).has width o ∧
    ¬ ((squareRect width height row column (previous row column)).has width o ↔
      (squareRect width height row column (levels row column)).has width o)

/-- The pixel in row `y` and column `x`. -/
theorem painted_renderZoomPixel {x y : Nat} (hsource : source.length = width * height)
    (hlen : output.length = width * height)
    (htile : (tileRect width height row column).inside x y) :
    ∃ after, renderZoomPixel black source width
        (squareRect width height row column (previous row column))
        (squareRect width height row column (levels row column)) y output x = some after ∧
      (onto output (pictureAt width height (zoomShade black source width height levels))).Painted
        (fun o => (o / width = y ∧ o % width = x) ∧
          Differs width height levels previous row column o) after := by
  have hwithin := tileRect_within width height row column
  have hx : x < width := Nat.lt_of_lt_of_le htile.2.1 hwithin.right
  have hy : y < height := Nat.lt_of_lt_of_le htile.2.2.2 hwithin.bottom
  have hmod := offset_mod (y := y) hx
  have hdiv := offset_div (y := y) hx
  have hlt := offset_inside hx hy
  have hplace : ∀ o, (o / width = y ∧ o % width = x) ↔ o = y * width + x := by
    intro o
    constructor
    · rintro ⟨rfl, rfl⟩
      exact (Nat.div_add_mod' o width).symm
    · rintro rfl
      exact ⟨hdiv, hmod⟩
  have hhas : ∀ r : Rect, r.has width (y * width + x) ↔ r.inside x y := by
    intro r
    unfold Rect.has
    rw [hmod, hdiv]
  have hshade : pictureAt width height (zoomShade black source width height levels)
      (y * width + x) = zoomShade black source width height levels row column (y * width + x) :=
    pictureAt_eq ((hhas _).mpr htile)
  unfold renderZoomPixel
  by_cases hdiff : decide ((squareRect width height row column (previous row column)).inside x y) ≠
      decide ((squareRect width height row column (levels row column)).inside x y)
  · rw [if_pos hdiff]
    have hdiffers : Differs width height levels previous row column (y * width + x) := by
      refine ⟨(hhas _).mpr htile, fun hiff => hdiff ?_⟩
      rw [hhas, hhas] at hiff
      exact decide_eq_decide.mpr hiff
    obtain ⟨after, hwrite, hafter⟩ := (Painted.nothing (onto output (pictureAt width height
      (zoomShade black source width height levels)))).writeAt (k := y * width + x)
      (show y * width + x < output.length by omega)
    refine ⟨after, ?_, hafter.congr fun o => ?_⟩
    · have hvalue : writeAt output (y * width + x)
          (zoomShade black source width height levels row column (y * width + x)) = some after := by
        rw [← hshade]
        exact hwrite
      unfold zoomShade at hvalue
      by_cases hin : (squareRect width height row column (levels row column)).inside x y
      · rw [if_pos ((hhas _).mpr hin)] at hvalue
        rw [if_pos hin]
        exact hvalue
      · rw [if_neg (mt (hhas _).mp hin)] at hvalue
        rw [if_neg hin, source_at black hsource hlt]
        exact hvalue
    · rw [hplace, false_or]
      exact ⟨And.left, fun he => ⟨he, he ▸ hdiffers⟩⟩
  · rw [if_neg hdiff]
    refine ⟨output, rfl, (Painted.nothing _).congr fun o => ?_⟩
    rw [hplace]
    refine ⟨?_, False.elim⟩
    rintro ⟨rfl, -, hnot⟩
    rw [hhas, hhas] at hnot
    exact hdiff fun hiff => hnot (decide_eq_decide.mp hiff)

theorem painted_renderZoomDelta (hsource : source.length = width * height)
    (hlen : output.length = width * height) :
    ∃ after, renderZoomDelta black source width height levels previous output row column =
        some after ∧
      (onto output (pictureAt width height (zoomShade black source width height levels))).Painted
        (Differs width height levels previous row column) after := by
  have hrows : ∃ after, renderZoomDelta black source width height levels previous output row column
        = some after ∧
      (onto output (pictureAt width height (zoomShade black source width height levels))).Painted
        (fun o => ∃ y ∈ List.range' (tileRect width height row column).y0
            ((tileRect width height row column).y1 - (tileRect width height row column).y0),
          ∃ x ∈ List.range' (tileRect width height row column).x0
            ((tileRect width height row column).x1 - (tileRect width height row column).x0),
          (o / width = y ∧ o % width = x) ∧ Differs width height levels previous row column o)
        after := by
    refine Painted.foldlM_onto _ fun y hy now hnow => ?_
    refine Painted.foldlM_onto _ fun x hx now' hnow' => ?_
    obtain ⟨hy0, hy1⟩ := List.mem_range'_1.mp hy
    obtain ⟨hx0, hx1⟩ := List.mem_range'_1.mp hx
    exact painted_renderZoomPixel hsource (hnow'.trans (hnow.trans hlen))
      ⟨hx0, by omega, hy0, by omega⟩
  obtain ⟨after, hfold, hafter⟩ := hrows
  refine ⟨after, hfold, hafter.congr fun o => ⟨fun ho => ?_, fun ⟨_, _, _, _, _, ho⟩ => ho⟩⟩
  obtain ⟨⟨hx0, hx1, hy0, hy1⟩, -⟩ := id ho
  exact ⟨o / width, List.mem_range'_1.mpr ⟨hy0, by omega⟩, o % width,
    List.mem_range'_1.mpr ⟨hx0, by omega⟩, ⟨rfl, rfl⟩, ho⟩

variable (black dirtyRows) in
theorem painted_renderZoomRetained (hvalid : valid source output width height levels)
    (hprevious : previous.valid) :
    ∃ after, renderZoomRetained black source output width height levels dirtyRows (some previous) =
        some after ∧
      (onto output (pictureAt width height (zoomShade black source width height levels))).Painted
        (fun o => ∃ row column, dirtyRows.dirty row column ∧
          Differs width height levels previous row column o) after := by
  obtain ⟨⟨-, hsource⟩, hout, -⟩ := id hvalid
  obtain ⟨after, hloop, hafter⟩ := painted_forDirtyTiles (Differs width height levels previous)
    fun row column _ now hnow =>
      painted_renderZoomDelta hsource.symm (hnow.trans (hout.symm.trans hsource.symm))
  refine ⟨after, (if_pos hvalid).trans ?_, hafter⟩
  exact (if_pos hprevious).trans hloop

/-- Where the squares agree, so do the pictures. -/
theorem zoomShade_of_agree {o : Nat} (h : ¬ Differs width height levels previous row column o)
    (htile : (tileRect width height row column).has width o) :
    zoomShade black source width height previous row column o =
      zoomShade black source width height levels row column o := by
  have hiff : (squareRect width height row column (previous row column)).has width o ↔
      (squareRect width height row column (levels row column)).has width o := by
    by_contra hnot
    exact h ⟨htile, hnot⟩
  unfold zoomShade
  simp only [hiff]

end Zoom

end MisterMagik.Scenes.Orientation
