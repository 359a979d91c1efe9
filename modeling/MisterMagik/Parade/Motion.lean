/-
  File:      MisterMagik/Parade/Motion.lean
  Subject:   Sub-pixel positions of the screenshot parade: velocities, phases, the size of cards and
             the motion of a tile (`card_velocity_fp`, `reachable_shifted_phases`, `advance`).

  A card is prepared for the phases that its layer's motion can reach. Where the velocity is a
  multiple of a sixteenth of a pixel these are the multiples of a power of two, and a tile that
  starts on a whole pixel and moves by whole ticks never leaves them.

  * `OnLattice` -- the positions a layer can reach, kept by motion; `onPhaseLattice_of`;
  * `Fitting` -- a screen whose positions stay within `i64`, which is what `layerIntervalFrames`
    checks;
  * `moved_active` -- a tile that is still on the screen has moved by exactly its velocity.
-/
import MisterMagik.Parade.Steps
import Mathlib.Tactic.Ring
import Mathlib.Tactic.Linarith

namespace MisterMagik.Parade

open ScreenshotParade

/-! ## 1. Phases -/

section Phases

variable {v x : Int}

/-- The shifted phases at the multiples of a power of two. -/
def latticeMask (exponent : Nat) : UInt16 :=
  ((List.range 16).filter fun phase => 2 ^ exponent ≤ phase ∧ phase % 2 ^ exponent = 0).foldl
    (fun mask phase => mask ||| 1 <<< UInt16.ofNat phase) 0

/-- A mask with the bit of a phase, or the phase that every card has. -/
def HasPhase (mask : UInt16) (phase : Nat) : Prop :=
  phase = 0 ∨ (mask &&& 1 <<< UInt16.ofNat phase) ≠ 0

instance (mask : UInt16) (phase : Nat) : Decidable (HasPhase mask phase) :=
  inferInstanceAs (Decidable (_ ∨ _))

theorem latticeMask_hasPhase :
    ∀ exponent < 5, ∀ phase < 16, phase % 2 ^ exponent = 0 →
      HasPhase (latticeMask exponent) phase := by decide

theorem all_hasPhase : ∀ phase < 16, HasPhase ALL_SHIFTED_PHASES phase := by decide

theorem trailingZeros_le (limit value : Nat) : trailingZeros limit value ≤ limit := by
  induction limit generalizing value with
  | zero => exact Nat.le_refl _
  | succ limit ih =>
      rw [trailingZeros]
      split
      · exact Nat.zero_le _
      · exact Nat.succ_le_succ (ih _)

theorem trailingZeros_dvd (limit value : Nat) : 2 ^ trailingZeros limit value ∣ value := by
  induction limit generalizing value with
  | zero => exact one_dvd _
  | succ limit ih =>
      rw [trailingZeros]
      split
      case isTrue => exact one_dvd _
      case isFalse h =>
        have heven : value = 2 * (value / 2) := by omega
        rw [Nat.pow_succ, Nat.mul_comm]
        conv_rhs => rw [heven]
        exact Nat.mul_dvd_mul_left 2 (ih _)

/-- The power of two that a velocity in sixteenths of a pixel is a multiple of, 16 at most. -/
def latticeOf (v : Int) : Nat := trailingZeros 4 (v / 16).toNat

/-- The positions that whole ticks reach from a whole pixel. -/
def OnLattice (v x : Int) : Prop := v % 16 = 0 → (16 * 2 ^ latticeOf v : Int) ∣ x

theorem reachable_of_lattice (h : v % 16 = 0) :
    reachableShiftedPhases v = latticeMask (latticeOf v) := if_neg (not_not.mpr h)

theorem reachable_off_lattice (h : v % 16 ≠ 0) : reachableShiftedPhases v = ALL_SHIFTED_PHASES :=
  if_pos h

theorem lattice_dvd_pixel (v : Int) : (16 * 2 ^ latticeOf v : Int) ∣ 256 := by
  have hle : latticeOf v ≤ 4 := trailingZeros_le _ _
  have h : (2 ^ latticeOf v : Int) ∣ 2 ^ 4 := pow_dvd_pow 2 hle
  exact Int.mul_dvd_mul_left 16 h

theorem lattice_dvd_velocity (hv : 0 ≤ v) (h : v % 16 = 0) :
    (16 * 2 ^ latticeOf v : Int) ∣ v := by
  have hdvd : ((2 ^ latticeOf v : Nat) : Int) ∣ ((v / 16).toNat : Int) :=
    Int.natCast_dvd_natCast.mpr (trailingZeros_dvd _ _)
  rw [Int.toNat_of_nonneg (by omega)] at hdvd
  push_cast at hdvd
  have h16 : v = 16 * (v / 16) := by omega
  conv_rhs => rw [h16]
  exact Int.mul_dvd_mul_left 16 hdvd

/-- Whole pixels are on every lattice. -/
theorem onLattice_pixel (v k : Int) : OnLattice v (k * PARADE_SUBPIXEL_ONE) := fun _ =>
  Dvd.dvd.mul_left (lattice_dvd_pixel v) k

theorem OnLattice.add (h : OnLattice v x) (hv : 0 ≤ v) (k : Int) : OnLattice v (x + v * k) :=
  fun h16 => Int.dvd_add (h h16) (Dvd.dvd.mul_right (lattice_dvd_velocity hv h16) k)

theorem rasterPhase_lt (x : Int) : rasterPhase x < 16 := by
  unfold rasterPhase
  omega

theorem rasterPhase_of_dvd (h : (16 : Int) ∣ x) : (rasterPhase x : Int) = x / 16 % 16 := by
  unfold rasterPhase rasterPhaseKey
  dsimp only [PARADE_SUBPIXEL_ONE]
  split <;> omega

theorem rasterPhase_lattice (h : v % 16 = 0) (hx : OnLattice v x) :
    rasterPhase x % 2 ^ latticeOf v = 0 := by
  obtain ⟨c, rfl⟩ := hx h
  have hle : latticeOf v ≤ 4 := trailingZeros_le _ _
  have hphase := rasterPhase_of_dvd (x := 16 * 2 ^ latticeOf v * c)
    (Dvd.intro _ (Int.mul_assoc 16 _ c).symm)
  have hdiv : (16 * 2 ^ latticeOf v * c) / 16 = 2 ^ latticeOf v * c := by
    rw [Int.mul_assoc, Int.mul_ediv_cancel_left _ (by decide)]
  have h16 : (2 ^ latticeOf v : Int) ∣ 16 := pow_dvd_pow 2 hle
  have hdvd : (2 ^ latticeOf v : Int) ∣ rasterPhase (16 * 2 ^ latticeOf v * c) := by
    rw [hphase, hdiv, Int.emod_def]
    exact Int.dvd_sub (Dvd.intro c rfl) (Dvd.dvd.mul_right h16 _)
  exact Nat.mod_eq_zero_of_dvd (by exact_mod_cast hdvd)

/-- A card that holds the phases of its layer, or all of them, has the one of every position on the
    layer's lattice. -/
theorem hasPhase_of_lattice {mask : UInt16} (hx : OnLattice v x)
    (hmask : mask = reachableShiftedPhases v ∨ mask = ALL_SHIFTED_PHASES) :
    HasPhase mask (rasterPhase x) := by
  rcases hmask with rfl | rfl
  · by_cases h : v % 16 = 0
    · rw [reachable_of_lattice h]
      have hle : latticeOf v ≤ 4 := trailingZeros_le _ _
      exact latticeMask_hasPhase _ (by omega) _ (rasterPhase_lt x) (rasterPhase_lattice h hx)
    · rw [reachable_off_lattice h]
      exact all_hasPhase _ (rasterPhase_lt x)
  · exact all_hasPhase _ (rasterPhase_lt x)

theorem onPhaseLattice_of (hx : OnLattice v x) : onPhaseLattice x v := by
  have h := hasPhase_of_lattice hx (.inl rfl)
  simpa [onPhaseLattice, HasPhase] using h

end Phases

/-! ## 2. Sizes and velocities -/

section Sizes

variable {speed screenHeight layerIndex width : Nat}

/-- The widest card of a depth. -/
def boxWidth (speed screenHeight : Nat) : Nat := (depthStyle speed screenHeight).1

theorem scaled_side_le {long short side : Nat} (hshort : short ≠ 0)
    (h : ¬long * side > short * side) : (side * long + short / 2) / short ≤ side := by
  refine Nat.le_of_lt_succ ((Nat.div_lt_iff_lt_mul (by omega)).mpr ?_)
  rw [Nat.succ_mul, Nat.mul_comm side long, Nat.mul_comm side short]
  omega

theorem scaledStyle_width_le {image : ScreenshotImage} (h : image.height ≠ 0)
    (speed screenHeight : Nat) :
    (scaledStyle image speed screenHeight).1 ≤ boxWidth speed screenHeight := by
  have e : scaledStyle image speed screenHeight =
      if image.width * boxWidth speed screenHeight > image.height * boxWidth speed screenHeight then
        (boxWidth speed screenHeight,
          (boxWidth speed screenHeight * image.height + image.width / 2) / image.width)
      else
        ((boxWidth speed screenHeight * image.width + image.height / 2) / image.height,
          boxWidth speed screenHeight) := rfl
  rw [e]
  split
  case isTrue => exact Nat.le_refl _
  case isFalse hnarrow => exact scaled_side_le h hnarrow

/-- No card is wider than the box of its depth. -/
theorem prepareTimed_width_le (source : ScreenshotImage) (speed screenHeight : Nat)
    (phases : UInt16) :
    (PreparedScreenshotCard.prepareTimed source speed screenHeight phases).width ≤
      boxWidth speed screenHeight := by
  unfold PreparedScreenshotCard.prepareTimed
  split
  case isTrue => exact Nat.zero_le _
  case isFalse h => exact scaledStyle_width_le (fun hzero => h (.inr hzero)) speed screenHeight

theorem prepareTimed_phases (source : ScreenshotImage) (speed screenHeight : Nat)
    (phases : UInt16) :
    (PreparedScreenshotCard.prepareTimed source speed screenHeight phases).shiftedPhases = phases ∨
      (PreparedScreenshotCard.prepareTimed source speed screenHeight phases).shiftedPhases =
        ALL_SHIFTED_PHASES := by
  unfold PreparedScreenshotCard.prepareTimed
  split
  · exact .inr rfl
  · exact .inl rfl

theorem saturateI64_le {a : Int} (h : 0 ≤ a) : 0 ≤ saturateI64 a ∧ saturateI64 a ≤ a := by
  unfold saturateI64 I64_MAX I64_MIN
  omega

theorem cardVelocityFp_pos (layerIndex width : Nat) : 0 < cardVelocityFp layerIndex width :=
  Int.lt_of_lt_of_le Int.zero_lt_one (Int.le_max_right ..)

/-- A card crosses at most one sub-pixel for each pixel of the screen in a tick. -/
theorem cardVelocityFp_le (hlayer : layerIndex < SPEED_COUNT) (hwidth : 0 < width) :
    cardVelocityFp layerIndex width ≤ width := by
  have hcount : SPEED_COUNT = 5 := rfl
  have hslow : saturateI64 (((layerIndex : Int) + 1) * 256 * 3) / 4 = 192 * (layerIndex + 1) := by
    unfold saturateI64 I64_MAX I64_MIN
    omega
  have hproduct : (192 * ((layerIndex : Int) + 1)) * width ≤ 960 * width :=
    Int.mul_le_mul_of_nonneg_right (by omega) (by omega)
  have hnonneg : 0 ≤ (192 * ((layerIndex : Int) + 1)) * width :=
    Int.mul_nonneg (by omega) (by omega)
  have hfirst := saturateI64_le hnonneg
  have hsecond := saturateI64_le
    (a := saturateI64 ((192 * ((layerIndex : Int) + 1)) * width) + 960) (by omega)
  dsimp only [cardVelocityFp, PARADE_SUBPIXEL_ONE, CARD_SPEED_NUMERATOR, CARD_SPEED_DENOMINATOR,
    REFERENCE_WIDTH]
  rw [hslow]
  push_cast
  omega

/-- A screen on which every position fits into `i64`. -/
structure Fitting (width height : Nat) : Prop where
  pos : 0 < width
  room : ∀ layerIndex < SPEED_COUNT,
    (width + boxWidth (MIN_TILE_SPEED + layerIndex) height : Int) * PARADE_SUBPIXEL_ONE ≤ I64_MAX

end Sizes

/-! ## 3. Motion -/

section Moving

variable {p : ScreenshotParade} {t : Tile} {n : Nat}

/-- **A tile that is still on the screen has moved by its velocity**, with nothing cut off. -/
theorem moved_active {box : Nat} (hactive : t.active) (hmoved : (p.moved n t).active)
    (hroom : (p.width + box : Int) * PARADE_SUBPIXEL_ONE ≤ I64_MAX)
    (hleft : -(box : Int) * PARADE_SUBPIXEL_ONE ≤ t.xFp) (hv : 0 < t.velocityFp) :
    p.moved n t = { t with xFp := t.xFp + t.velocityFp * (n / TICK_ONE : Nat) } := by
  have hnonneg : 0 ≤ t.velocityFp * ((n / TICK_ONE : Nat) : Int) :=
    Int.mul_nonneg (Int.le_of_lt hv) (Int.natCast_nonneg _)
  have e : p.moved n t =
      { t with
        xFp := saturateI64 (t.xFp + saturateI64 (t.velocityFp * (n / TICK_ONE : Nat)))
        active := decide (saturateI64 (t.xFp + saturateI64 (t.velocityFp * (n / TICK_ONE : Nat))) /
          PARADE_SUBPIXEL_ONE < p.width) } := if_pos hactive
  rw [e] at hmoved ⊢
  have hlt := of_decide_eq_true hmoved
  have hexact : saturateI64 (t.xFp + saturateI64 (t.velocityFp * (n / TICK_ONE : Nat))) =
      t.xFp + t.velocityFp * (n / TICK_ONE : Nat) := by
    generalize t.velocityFp * ((n / TICK_ONE : Nat) : Int) = motion at hnonneg hlt ⊢
    unfold saturateI64 I64_MAX I64_MIN PARADE_SUBPIXEL_ONE at *
    omega
  rw [hexact] at hlt ⊢
  rw [decide_eq_true hlt, hactive]

end Moving

end MisterMagik.Parade
