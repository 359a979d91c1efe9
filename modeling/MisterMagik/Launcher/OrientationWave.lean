/-
  File:      MisterMagik/Launcher/OrientationWave.lean
  Subject:   The frames of the orientation change (`launcher_runtime/orientation_transition.rs`).

  A wave runs over the tiles of a grid: it takes the old frame away tile by tile, then brings the
  new one in, by brightness or by a black square that grows and shrinks. The curve of the spring is
  a table that floating-point code builds; any table does here. The vector kernels are taken to do
  what the loops here do; times and counts of a render are left out.

  * `OrientationTransitionDamage` -- the dirty tiles and the rectangle they make in each row;
  * `orientationWaveState` -- the frame and the levels at a time;
  * `painted_renderEffect` -- what a redraw paints, with and without earlier levels;
  * `renderEffect_full`, `renderEffect_changed` -- both show the picture of the levels.
-/
import MisterMagik.Launcher.Director
import MisterMagik.Scenes.OrientationZoom

namespace MisterMagik.Launcher

open Base Base.Canvas Scenes.Orientation

/-! ## 1. Damage -/

structure OrientationTransitionDamage where
  rows : DirtyRows

namespace OrientationTransitionDamage

def full : OrientationTransitionDamage := ⟨fun _ => BitVec.allOnes 16⟩

def changed (previous current : Levels) : OrientationTransitionDamage where
  rows row := (List.finRange COLUMNS).foldl
    (fun mask column =>
      if previous row column ≠ current row column then mask ||| (1#16 <<< column.val) else mask)
    0#16

def rectForRow (damage : OrientationTransitionDamage) (row width height : Nat) : Option Rect :=
  if h : row < ROWS then
    let mask := damage.rows ⟨row, h⟩
    if mask = 0#16 then none
    else
      let firstColumn := mask.ctz.toNat
      let lastColumn := COLUMNS - mask.clz.toNat
      some {
        x0 := firstColumn * width / COLUMNS
        y0 := row * height / ROWS
        x1 := lastColumn * width / COLUMNS
        y1 := (row + 1) * height / ROWS }
  else none

end OrientationTransitionDamage

/-! ## 2. Levels -/

inductive OrientationTransitionEffect where
  | brightnessFade
  | centerPixelZoom
  deriving DecidableEq, Repr

def ORIENTATION_WAVE_PHASE_DURATION : Nat := 775000000

def ORIENTATION_TILE_DELAY_US : Nat := 25000

def ORIENTATION_TILE_FADE_US : Nat := 200000

def RGB565_OPACITY_LEVELS : Nat := 32

def ORIENTATION_TILE_SKIP : Nat := 255

/-- The table of the smooth spring, of which the entries 0 to 256 are read. -/
abbrev SmoothCurve := Nat → BitVec 16

section Definitions

variable (curve : SmoothCurve)

/-- `smooth_spring_q16`, in words of 32 bits. -/
def smoothSpringQ16 (progress : BitVec 16) : BitVec 16 :=
  if progress = BitVec.allOnes 16 then BitVec.allOnes 16
  else
    let scaled := progress.setWidth 32 * 256#32
    let index := (scaled / 65535#32).toNat
    let remainder := scaled % 65535#32
    let start := (curve index).setWidth 32
    let stop := (curve (index + 1)).setWidth 32
    (start + (stop - start) * remainder / 65535#32).setWidth 16

def durationUs (duration : Nat) : Nat := min (duration / 1000) (2 ^ 64 - 1)

def orientationTileEasedLevel (phaseElapsedUs row column : Nat) : Option Nat :=
  let delayUs := saturatingMul (saturatingAdd row column) ORIENTATION_TILE_DELAY_US
  if phaseElapsedUs < delayUs then none
  else
    let localUs := min (phaseElapsedUs - delayUs) ORIENTATION_TILE_FADE_US
    let progressQ16 := saturatingAdd (saturatingMul localUs 65535) (ORIENTATION_TILE_FADE_US / 2) /
      ORIENTATION_TILE_FADE_US
    let easedQ16 := (smoothSpringQ16 curve (BitVec.ofNat 16 (min progressQ16 65535))).toNat
    let level := saturatingAdd (saturatingMul easedQ16 RGB565_OPACITY_LEVELS) (65535 / 2) / 65535
    some (if level < 256 then level else RGB565_OPACITY_LEVELS)

def orientationLevel (effect : OrientationTransitionEffect) (eased : Option Nat)
    (revealing : Bool) : Nat :=
  match effect, eased, revealing with
  | .brightnessFade, some level, true => level
  | .brightnessFade, some level, false => RGB565_OPACITY_LEVELS - level
  | .brightnessFade, none, true => 0
  | .brightnessFade, none, false => RGB565_OPACITY_LEVELS
  | .centerPixelZoom, some level, false => level
  | .centerPixelZoom, some level, true =>
      let level := RGB565_OPACITY_LEVELS - level
      if level = 0 then ORIENTATION_TILE_SKIP else level
  | .centerPixelZoom, none, true => RGB565_OPACITY_LEVELS
  | .centerPixelZoom, none, false => ORIENTATION_TILE_SKIP

/-- The frame that is drawn, the level of each tile, and whether it is the new frame. -/
def orientationWaveState (effect : OrientationTransitionEffect)
    (source destination : List Rgb565Pixel) (elapsed : Nat) : List Rgb565Pixel × Levels × Bool :=
  let revealing := decide (ORIENTATION_WAVE_PHASE_DURATION ≤ elapsed)
  let (frame, phaseElapsedUs) :=
    if revealing then (destination, durationUs (elapsed - ORIENTATION_WAVE_PHASE_DURATION))
    else (source, durationUs elapsed)
  let levels : Levels := fun row column =>
    orientationLevel effect (orientationTileEasedLevel curve phaseElapsedUs row column) revealing
  (frame, levels, revealing)

end Definitions

/-! ## 3. Redraws -/

def dim565 (pixel : Rgb565Pixel) (opacityLevel : Nat) : Rgb565Pixel :=
  let pixel := pixel.setWidth 32
  let opacity := BitVec.ofNat 32 opacityLevel
  let redBlue := (((pixel &&& 0xf81f#32) * opacity) >>> 5) &&& 0xf81f#32
  let green := (((pixel &&& 0x07e0#32) * opacity) >>> 5) &&& 0x07e0#32
  (redBlue ||| green).setWidth 16

def renderDimmedTile (frame output : List Rgb565Pixel) (stride : Nat) (r : Rect)
    (opacityLevel : Nat) : Option (List Rgb565Pixel) :=
  paintRows stride r
    (fun start stop =>
      if opacityLevel = 0 then some (List.replicate (stop - start) 0)
      else if RGB565_OPACITY_LEVELS ≤ opacityLevel then range frame start stop
      else (range frame start stop).map fun sources => sources.map (dim565 · opacityLevel)) output

/-- `render_brightness_wave_dirty`, by `render_brightness_wave_scalar`. -/
def renderBrightnessWaveDirty (frame output : List Rgb565Pixel) (width height : Nat)
    (levels : Levels) (damage : OrientationTransitionDamage) : Option (List Rgb565Pixel) :=
  forDirtyTiles damage.rows
    (fun output row column =>
      renderDimmedTile frame output width (tileRect width height row column) (levels row column))
    output

def renderCenterPixelZoomWaveRetained (frame output : List Rgb565Pixel) (width height : Nat)
    (blackLevels : Levels) (damage : OrientationTransitionDamage) (previous : Option Levels) :
    Option (List Rgb565Pixel) :=
  renderZoomRetained 0 frame output width height blackLevels damage.rows previous

/-- The redraw of `render_into`. -/
def renderEffect (effect : OrientationTransitionEffect) (frame output : List Rgb565Pixel)
    (width height : Nat) (levels : Levels) (damage : OrientationTransitionDamage)
    (previous : Option Levels) : Option (List Rgb565Pixel) :=
  match effect with
  | .brightnessFade => renderBrightnessWaveDirty frame output width height levels damage
  | .centerPixelZoom =>
      renderCenterPixelZoomWaveRetained frame output width height levels damage previous

/-- The whole frame drawn from nothing, as the tests do for either effect
    (`render_brightness_wave`, `render_center_pixel_zoom_wave`). -/
def renderWave (curve : SmoothCurve) (effect : OrientationTransitionEffect)
    (source destination output : List Rgb565Pixel) (width height elapsed : Nat) :
    Option (List Rgb565Pixel) :=
  let (frame, levels, _) := orientationWaveState curve effect source destination elapsed
  renderEffect effect frame output width height levels .full none

/-! ## 4. Masks -/

theorem dirty_iff {rows : DirtyRows} {row : Fin ROWS} {column : Fin COLUMNS} :
    rows.dirty row column ↔ (rows row).getLsbD column = true := by
  have hbit : (1#16 <<< column.val) = BitVec.twoPow 16 column := rfl
  unfold DirtyRows.dirty
  rw [hbit, BitVec.and_twoPow]
  have hpow : BitVec.twoPow 16 column ≠ 0#16 := by
    intro he
    have hval : (BitVec.twoPow 16 column).toNat = 0 := congrArg BitVec.toNat he
    have hlt : 2 ^ column.val < 2 ^ 16 := Nat.pow_lt_pow_right (by decide) column.isLt
    rw [BitVec.toNat_twoPow, Nat.mod_eq_of_lt hlt] at hval
    exact absurd hval (Nat.pos_iff_ne_zero.mp (Nat.two_pow_pos _))
  by_cases h : (rows row).getLsbD column
  · rw [if_pos h]
    exact ⟨fun _ => h, fun _ => hpow⟩
  · rw [if_neg h]
    exact ⟨fun hne => absurd rfl hne, fun ht => absurd ht h⟩

theorem dirty_full (row : Fin ROWS) (column : Fin COLUMNS) :
    OrientationTransitionDamage.full.rows.dirty row column := by
  rw [dirty_iff]
  show (BitVec.allOnes 16).getLsbD column = true
  rw [BitVec.getLsbD_allOnes]
  exact decide_eq_true column.isLt

theorem getLsbD_mask (differs : Fin COLUMNS → Prop) [DecidablePred differs]
    (columns : List (Fin COLUMNS)) (mask : BitVec 16) (c : Fin COLUMNS) :
    ((columns.foldl (fun mask column =>
      if differs column then mask ||| (1#16 <<< column.val) else mask) mask).getLsbD c = true) ↔
      mask.getLsbD c = true ∨ (c ∈ columns ∧ differs c) := by
  induction columns generalizing mask with
  | nil => simp
  | cons column columns ih =>
      rw [List.foldl_cons, ih]
      have hbit : (1#16 <<< column.val) = BitVec.twoPow 16 column := rfl
      have hc : c.val < 16 := c.isLt
      by_cases hdiffers : differs column
      · rw [if_pos hdiffers, hbit, BitVec.getLsbD_or, BitVec.getLsbD_twoPow]
        by_cases he : column = c
        · subst he
          simp [hc, hdiffers]
        · have hval : ¬ column.val = c.val := fun h => he (Fin.ext h)
          have hcne : ¬ c = column := fun h => he h.symm
          simp [hval, hcne]
      · rw [if_neg hdiffers, List.mem_cons]
        constructor
        · rintro (h | ⟨hmem, hd⟩)
          · exact .inl h
          · exact .inr ⟨.inr hmem, hd⟩
        · rintro (h | ⟨rfl | hmem, hd⟩)
          · exact .inl h
          · exact absurd hd hdiffers
          · exact .inr ⟨hmem, hd⟩

theorem dirty_changed {previous current : Levels} {row : Fin ROWS} {column : Fin COLUMNS} :
    (OrientationTransitionDamage.changed previous current).rows.dirty row column ↔
      previous row column ≠ current row column := by
  rw [dirty_iff]
  refine (getLsbD_mask (fun column => previous row column ≠ current row column) _ _ _).trans ?_
  rw [BitVec.getLsbD_zero]
  exact ⟨fun h => (h.resolve_left Bool.false_ne_true).2, fun h => .inr ⟨List.mem_finRange _, h⟩⟩

/-- A set bit lies between the zeros at both ends. -/
theorem column_between {mask : BitVec 16} {column : Fin COLUMNS}
    (h : mask.getLsbD column = true) :
    mask ≠ 0#16 ∧ mask.ctz.toNat ≤ column ∧ column < COLUMNS - mask.clz.toNat := by
  have hne : mask ≠ 0#16 := by
    rintro rfl
    simp at h
  refine ⟨hne, ?_, ?_⟩
  · by_contra hlt
    have hfalse := BitVec.getLsbD_false_of_lt_ctz (Nat.not_le.mp hlt)
    exact absurd h (by rw [hfalse]; decide)
  · by_contra hge
    have hpow : mask.toNat < 2 ^ (16 - mask.clz.toNat) := BitVec.toNat_lt_two_pow_sub_clz
    have hexp : 16 - mask.clz.toNat ≤ column := Nat.not_lt.mp hge
    have hbit : mask.toNat.testBit column = false :=
      Nat.testBit_lt_two_pow (Nat.lt_of_lt_of_le hpow (Nat.pow_le_pow_right (by decide) hexp))
    exact absurd h (by rw [BitVec.getLsbD, hbit]; decide)

/-- **A dirty tile lies in the rectangle of its row.** -/
theorem dirty_in_rect {damage : OrientationTransitionDamage} {width height x y : Nat}
    {row : Fin ROWS} {column : Fin COLUMNS} (hdirty : damage.rows.dirty row column)
    (h : (tileRect width height row column).inside x y) :
    ∃ r, damage.rectForRow row width height = some r ∧ r.inside x y := by
  obtain ⟨hne, hfirst, hlast⟩ := column_between (dirty_iff.mp hdirty)
  obtain ⟨hx0, hx1, hy0, hy1⟩ := h
  refine ⟨_, (dif_pos row.isLt).trans (if_neg hne), ?_, ?_, hy0, hy1⟩
  · exact Nat.le_trans (edge_mono hfirst) hx0
  · exact Nat.lt_of_lt_of_le hx1 (edge_mono hlast)

/-! ## 5. What a redraw shows -/

section Redraws

variable {curve : SmoothCurve} {effect : OrientationTransitionEffect} {revealing : Bool}
  {frame source destination output before : List Rgb565Pixel} {width height elapsed : Nat}
  {levels previous : Levels} {damage : OrientationTransitionDamage} {row : Fin ROWS}
  {column : Fin COLUMNS}

theorem easedLevel_le {phaseElapsedUs row column level : Nat}
    (h : orientationTileEasedLevel curve phaseElapsedUs row column = some level) : level ≤ 32 := by
  unfold orientationTileEasedLevel at h
  dsimp only at h
  split at h
  · cases h
  · obtain rfl := Option.some.inj h
    generalize BitVec.ofNat 16 _ = progress
    have heased : (smoothSpringQ16 curve progress).toNat < 2 ^ 16 := BitVec.isLt _
    generalize (smoothSpringQ16 curve progress).toNat = eased at heased
    have hsum : saturatingAdd (saturatingMul eased RGB565_OPACITY_LEVELS) (65535 / 2) ≤
        65535 * 32 + 32767 := by
      unfold saturatingAdd saturatingMul RGB565_OPACITY_LEVELS
      omega
    split
    · omega
    · exact Nat.le_refl 32

/-- The levels of the zoom are those its compositor takes. -/
theorem orientationLevel_valid {eased : Option Nat} (h : ∀ level, eased = some level → level ≤ 32) :
    orientationLevel .centerPixelZoom eased revealing ≤ 32 ∨
      orientationLevel .centerPixelZoom eased revealing = SKIP := by
  cases eased with
  | none =>
      cases revealing
      · exact .inr rfl
      · exact .inl (Nat.le_refl 32)
  | some level =>
      cases revealing
      · exact .inl (h level rfl)
      · unfold orientationLevel
        dsimp only
        split
        · exact .inr rfl
        · exact .inl (Nat.sub_le _ _)

theorem waveLevels_valid :
    (orientationWaveState curve .centerPixelZoom source destination elapsed).2.1.valid :=
  fun _ _ => orientationLevel_valid fun _ h => easedLevel_le h

variable (curve effect source destination elapsed) in
theorem waveFrame :
    (orientationWaveState curve effect source destination elapsed).1 =
      if (orientationWaveState curve effect source destination elapsed).2.2 then destination
      else source := by
  unfold orientationWaveState
  dsimp only
  split <;> rfl

/-- The pixel of a tile in the brightness effect. -/
def fadeShade (frame : List Rgb565Pixel) (levels : Levels) (row : Fin ROWS) (column : Fin COLUMNS)
    (o : Nat) : Rgb565Pixel :=
  if levels row column = 0 then 0
  else if RGB565_OPACITY_LEVELS ≤ levels row column then frame[o]?.getD 0
  else dim565 (frame[o]?.getD 0) (levels row column)

/-- What the effect shows of a frame at these levels. -/
def waveShade (effect : OrientationTransitionEffect) (frame : List Rgb565Pixel)
    (width height : Nat) (levels : Levels) : Fin ROWS → Fin COLUMNS → Nat → Rgb565Pixel :=
  match effect with
  | .brightnessFade => fadeShade frame levels
  | .centerPixelZoom => zoomShade 0 frame width height levels

theorem waveShade_congr {o : Nat} (h : previous row column = levels row column) :
    waveShade effect frame width height previous row column o =
      waveShade effect frame width height levels row column o := by
  cases effect with
  | brightnessFade =>
      show fadeShade frame previous row column o = fadeShade frame levels row column o
      unfold fadeShade
      rw [h]
  | centerPixelZoom =>
      show zoomShade 0 frame width height previous row column o =
        zoomShade 0 frame width height levels row column o
      unfold zoomShade
      rw [h]

theorem painted_renderDimmedTile (hframe : frame.length = width * height)
    (hlen : output.length = width * height) :
    ∃ after, renderDimmedTile frame output width (tileRect width height row column)
        (levels row column) = some after ∧
      (onto output (pictureAt width height (fadeShade frame levels))).Painted
        ((tileRect width height row column).has width) after := by
  have hwithin := tileRect_within width height row column
  refine painted_rows hwithin hlen fun y hy0 hy1 => ?_
  have hx := hwithin.x
  have hright := hwithin.right
  have hrow : (y + 1) * width ≤ width * height := by
    rw [Nat.mul_comm]
    exact Nat.mul_le_mul_left width (Nat.le_trans hy1 hwithin.bottom)
  rw [Nat.add_mul, Nat.one_mul] at hrow
  generalize hr : tileRect width height row column = r at *
  have hle : y * width + r.x0 ≤ y * width + r.x1 := Nat.add_le_add_left hx _
  have hfits : y * width + r.x1 ≤ frame.length := by omega
  have hshade : ∀ j < r.x1 - r.x0,
      pictureAt width height (fadeShade frame levels) (y * width + r.x0 + j) =
        fadeShade frame levels row column (y * width + r.x0 + j) := by
    intro j hj
    refine pictureAt_eq ?_
    rw [hr]
    exact ((row_has hright hy0 hy1).mp ⟨by omega, by omega⟩).2
  have hsource : ∀ j < r.x1 - r.x0, frame[y * width + r.x0 + j]? =
      some (frame[y * width + r.x0 + j]?.getD 0) := fun j hj =>
    source_at 0 hframe (by omega)
  obtain ⟨part, hpart, hplen, hpvalue⟩ := range_some hle hfits
  have hspan : y * width + r.x1 - (y * width + r.x0) = r.x1 - r.x0 := by omega
  rw [hspan] at hplen hpvalue
  by_cases hzero : levels row column = 0
  · refine ⟨_, if_pos hzero, by rw [List.length_replicate, hspan], fun j hj => ?_⟩
    rw [hshade j hj, fadeShade, if_pos hzero, List.getElem?_replicate_of_lt (by omega)]
  by_cases hbright : RGB565_OPACITY_LEVELS ≤ levels row column
  · refine ⟨part, (if_neg hzero).trans ((if_pos hbright).trans hpart), hplen, fun j hj => ?_⟩
    rw [hshade j hj, fadeShade, if_neg hzero, if_pos hbright, hpvalue j hj]
    exact hsource j hj
  · refine ⟨part.map (dim565 · (levels row column)), ?_, by rw [List.length_map, hplen],
      fun j hj => ?_⟩
    · rw [if_neg hzero, if_neg hbright, hpart]
      rfl
    · rw [hshade j hj, fadeShade, if_neg hzero, if_neg hbright, List.getElem?_map, hpvalue j hj,
        hsource j hj]
      rfl

variable (levels damage) in
theorem painted_renderBrightnessWaveDirty (hframe : frame.length = width * height)
    (hlen : output.length = width * height) :
    ∃ after, renderBrightnessWaveDirty frame output width height levels damage = some after ∧
      (onto output (pictureAt width height (fadeShade frame levels))).Painted
        (fun o => ∃ row column, damage.rows.dirty row column ∧
          (tileRect width height row column).has width o) after :=
  painted_forDirtyTiles (fun row column => (tileRect width height row column).has width)
    fun _ _ _ _ hnow => painted_renderDimmedTile hframe (hnow.trans hlen)

/-- The levels that an effect draws. -/
def Drawable (effect : OrientationTransitionEffect) (levels : Levels) : Prop :=
  effect = .centerPixelZoom → levels.valid

variable (damage) in
/-- **What a redraw paints**: pixels of dirty tiles, and of these every one that the earlier levels,
    where they are given, do not show already. -/
theorem painted_renderEffect {previous : Option Levels} (hframe : frame.length = width * height)
    (hlen : output.length = width * height) (hsize : width * height < 2 ^ 64)
    (hlevels : Drawable effect levels) (hprevious : ∀ p, previous = some p → Drawable effect p) :
    ∃ after T, renderEffect effect frame output width height levels damage previous = some after ∧
      (onto output (pictureAt width height (waveShade effect frame width height levels))).Painted
        T after ∧
      (∀ o, T o → ∃ row column, damage.rows.dirty row column ∧
        (tileRect width height row column).has width o) ∧
      ∀ o row column, (tileRect width height row column).has width o → ¬ T o →
        damage.rows.dirty row column → ∃ p, previous = some p ∧
          waveShade effect frame width height p row column o =
            waveShade effect frame width height levels row column o := by
  cases effect with
  | brightnessFade =>
      obtain ⟨after, hdraw, hafter⟩ :=
        painted_renderBrightnessWaveDirty levels damage hframe hlen
      exact ⟨after, _, hdraw, hafter, fun _ h => h,
        fun o row column htile hnot hdirty => absurd ⟨row, column, hdirty, htile⟩ hnot⟩
  | centerPixelZoom =>
      have hvalid : valid frame output width height levels :=
        ⟨⟨hsize, hframe.symm⟩, hframe.trans hlen.symm, hlevels rfl⟩
      cases previous with
      | none =>
          obtain ⟨after, hdraw, hafter⟩ :=
            painted_renderZoom (0 : Rgb565Pixel) damage.rows hvalid
          exact ⟨after, _, (if_pos hvalid).trans hdraw, hafter, fun _ h => h,
            fun o row column htile hnot hdirty => absurd ⟨row, column, hdirty, htile⟩ hnot⟩
      | some p =>
          obtain ⟨after, hdraw, hafter⟩ :=
            painted_renderZoomRetained (0 : Rgb565Pixel) damage.rows hvalid (hprevious p rfl rfl)
          refine ⟨after, _, hdraw, hafter, ?_, ?_⟩
          · rintro o ⟨row, column, hdirty, htile, -⟩
            exact ⟨row, column, hdirty, htile⟩
          · intro o row column htile hnot hdirty
            exact ⟨p, rfl, zoomShade_of_agree (fun h => hnot ⟨row, column, hdirty, h⟩) htile⟩

/-- Drawn from nothing. -/
theorem renderEffect_full (hframe : frame.length = width * height)
    (hlen : output.length = width * height) (hsize : width * height < 2 ^ 64)
    (hlevels : Drawable effect levels) :
    renderEffect effect frame output width height levels .full none =
      some (picture width height (waveShade effect frame width height levels)) := by
  have hnone : ∀ p, (none : Option Levels) = some p → Drawable effect p := fun _ h => nomatch h
  obtain ⟨after, T, hdraw, hafter, -, hrest⟩ :=
    painted_renderEffect .full hframe hlen hsize hlevels hnone
  rw [hdraw, eq_picture hafter hlen]
  intro o ho hnot
  obtain ⟨hx, hy⟩ := offset_lt ho
  obtain ⟨p, hp, -⟩ := hrest o _ _ (exists_tile hx hy) hnot (dirty_full _ _)
  cases hp

/-- Drawn over a plane that shows earlier levels of the same frame. -/
theorem renderEffect_changed (hframe : frame.length = width * height)
    (hbefore : output = picture width height (waveShade effect frame width height previous))
    (hsize : width * height < 2 ^ 64) (hlevels : Drawable effect levels)
    (hprevious : Drawable effect previous) :
    renderEffect effect frame output width height levels (.changed previous levels)
        (some previous) =
      some (picture width height (waveShade effect frame width height levels)) := by
  have hlen : output.length = width * height := by rw [hbefore, length_picture]
  obtain ⟨after, T, hdraw, hafter, -, hrest⟩ :=
    painted_renderEffect (.changed previous levels) hframe hlen hsize hlevels
      fun p hp => Option.some.inj hp ▸ hprevious
  rw [hdraw, eq_picture hafter hlen]
  intro o ho hnot
  obtain ⟨hx, hy⟩ := offset_lt ho
  have htile := exists_tile hx hy
  rw [hbefore, getElem?_picture ho]
  have hshade : waveShade effect frame width height previous (rowAt height (o / width))
      (columnAt width (o % width)) o = waveShade effect frame width height levels
        (rowAt height (o / width)) (columnAt width (o % width)) o := by
    by_cases hdirty : (OrientationTransitionDamage.changed previous levels).rows.dirty
        (rowAt height (o / width)) (columnAt width (o % width))
    · obtain ⟨p, hp, hshade⟩ := hrest o _ _ htile hnot hdirty
      obtain rfl := Option.some.inj hp
      exact hshade
    · exact waveShade_congr (not_not.mp fun hne => hdirty (dirty_changed.mpr hne))
  exact congrArg some hshade

/-- **What a redraw changes lies in its damage.** -/
theorem renderEffect_damage {previous : Option Levels} {after : List Rgb565Pixel}
    (hframe : frame.length = width * height) (hlen : output.length = width * height)
    (hsize : width * height < 2 ^ 64) (hlevels : Drawable effect levels)
    (hprevious : ∀ p, previous = some p → Drawable effect p)
    (h : renderEffect effect frame output width height levels damage previous = some after)
    {x y : Nat} (hx : x < width) (hne : after[y * width + x]? ≠ output[y * width + x]?) :
    ∃ row r, damage.rectForRow row width height = some r ∧ r.inside x y := by
  obtain ⟨after', T, hdraw, hafter, hdirty, -⟩ :=
    painted_renderEffect damage hframe hlen hsize hlevels hprevious
  obtain rfl := Option.some.inj (hdraw.symm.trans h)
  by_cases hT : T (y * width + x)
  · obtain ⟨row, column, hbit, htile⟩ := hdirty _ hT
    unfold Rect.has at htile
    rw [offset_mod hx, offset_div hx] at htile
    obtain ⟨r, hr, hin⟩ := dirty_in_rect hbit htile
    exact ⟨row, r, hr, hin⟩
  · exact absurd (hafter.at_kept hT) hne

end Redraws

end MisterMagik.Launcher
