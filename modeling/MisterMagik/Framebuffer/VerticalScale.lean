/-
  File:      MisterMagik/Framebuffer/VerticalScale.lean
  Subject:   Scaling a frame in height, whole or rectangle by rectangle (`vertical_scale.rs`).

  A destination row shows one source row, the identity when the heights agree. The destination rows
  of a source rectangle are found by two searches, which is right because the row map is monotone;
  a row whose number overflows shows nothing, and so do all rows below it.

  * `RowMap`, `searched_iff` -- the rows two searches find are those that show a row of the range;
  * `copyRect_redrawn` -- one rectangle: the rows that show it are drawn, and nothing else;
  * `partial_scaling_is_scaling` -- rectangles that cover what changed bring the whole destination
    from the old frame to the new one.
-/
import MisterMagik.Base.Bytes

namespace MisterMagik.Framebuffer

open MisterMagik.Base

/-! ## 1. The transform -/

/-- `checked_mul` where `usizeMax` is the largest `usize`. -/
def checkedMul (usizeMax a b : Nat) : Option Nat := if a * b ≤ usizeMax then some (a * b) else none

def checkedAdd (usizeMax a b : Nat) : Option Nat := if a + b ≤ usizeMax then some (a + b) else none

structure VerticalRect where
  x0 : Nat
  y0 : Nat
  x1 : Nat
  y1 : Nat
  deriving DecidableEq, Repr

namespace VerticalRect

def width (r : VerticalRect) : Nat := r.x1 - r.x0

def rows (r : VerticalRect) : Nat := r.y1 - r.y0

def Mem (r : VerticalRect) (x y : Nat) : Prop := r.x0 ≤ x ∧ x < r.x1 ∧ r.y0 ≤ y ∧ y < r.y1

instance (r : VerticalRect) (x y : Nat) : Decidable (r.Mem x y) :=
  inferInstanceAs (Decidable (_ ∧ _ ∧ _ ∧ _))

end VerticalRect

structure Rgb565FrameView (P : Type) where
  pixels : List P
  width : Nat
  height : Nat
  stridePixels : Nat

/-- The pixel of a strided buffer. -/
def Rgb565FrameView.at {P : Type} (view : Rgb565FrameView P) (x y : Nat) : Option P :=
  view.pixels[y * view.stridePixels + x]?

inductive VerticalSampling where
  | centeredNearest
  | topAlignedNearest
  deriving DecidableEq, Repr

/-- What `new` accepts: no side is zero, and the bytes of both frames can be counted. -/
structure VerticalRgb565Transform (usizeMax : Nat) where
  width : Nat
  sourceHeight : Nat
  destinationHeight : Nat
  sampling : VerticalSampling
  width_pos : 0 < width
  source_pos : 0 < sourceHeight
  destination_pos : 0 < destinationHeight
  source_fits : width * sourceHeight * 2 ≤ usizeMax
  destination_fits : width * destinationHeight * 2 ≤ usizeMax

structure VerticalCopyStats where
  destinationRect : VerticalRect
  bytes : Nat
  deriving DecidableEq, Repr

namespace VerticalRgb565Transform

variable {usizeMax : Nat} {P : Type}

def newWithSampling (usizeMax width sourceHeight destinationHeight : Nat)
    (sampling : VerticalSampling) : Except String (VerticalRgb565Transform usizeMax) :=
  if hpos : 0 < width ∧ 0 < sourceHeight ∧ 0 < destinationHeight then
    if hsource : width * sourceHeight * 2 ≤ usizeMax then
      if hdestination : width * destinationHeight * 2 ≤ usizeMax then
        .ok { width, sourceHeight, destinationHeight, sampling
              width_pos := hpos.1
              source_pos := hpos.2.1
              destination_pos := hpos.2.2
              source_fits := hsource
              destination_fits := hdestination }
      else .error "vertical transform destination geometry overflow"
    else .error "vertical transform source geometry overflow"
  else .error "vertical transform geometry must be non-zero"

def new (usizeMax width sourceHeight destinationHeight : Nat) :
    Except String (VerticalRgb565Transform usizeMax) :=
  newWithSampling usizeMax width sourceHeight destinationHeight .centeredNearest

variable (t : VerticalRgb565Transform usizeMax)

def numerator (destinationY : Nat) : Option Nat :=
  match t.sampling with
  | .centeredNearest => do
      let double ← checkedMul usizeMax destinationY 2
      let odd ← checkedAdd usizeMax double 1
      checkedMul usizeMax odd t.sourceHeight
  | .topAlignedNearest => checkedMul usizeMax destinationY t.sourceHeight

def denominator : Nat :=
  match t.sampling with
  | .centeredNearest => t.destinationHeight * 2
  | .topAlignedNearest => t.destinationHeight

def sourceRowForDestination (destinationY : Nat) : Option Nat :=
  if t.destinationHeight ≤ destinationY then none
  else if t.sourceHeight = t.destinationHeight then some destinationY
  else (t.numerator destinationY).map fun n => min (n / t.denominator) (t.sourceHeight - 1)

def validSourceRect (r : VerticalRect) : Option VerticalRect :=
  if r.x1 ≤ r.x0 ∨ r.y1 ≤ r.y0 ∨ t.width < r.x1 ∨ t.sourceHeight < r.y1 then none else some r

end VerticalRgb565Transform

/-- The first row that shows a row of `y0..y1`. -/
def firstRow (row : Nat → Option Nat) (height y0 y1 : Nat) : Option Nat :=
  (List.range height).find? fun y => (row y).any fun sy => decide (y0 ≤ sy ∧ sy < y1)

/-- The first row from `first` on that shows a row below `y1`, or the end. -/
def endRow (row : Nat → Option Nat) (height first y1 : Nat) : Nat :=
  ((List.range' first (height - first)).find? fun y =>
    (row y).any fun sy => decide (y1 ≤ sy)).getD height

/-- `destination[d..d + count].copy_from_slice(&source[s..s + count])`; a slice that is not there
    panics. -/
def copyFromSlice {P : Type} (destination : List P) (d : Nat) (source : List P) (s count : Nat) :
    Option (List P) :=
  match slice source s count with
  | none => none
  | some part =>
      if d + count ≤ destination.length then some (overwrite destination d part) else none

/-- One row after the other, until one shows no source row. -/
def copyRowsMapped {P : Type} (row : Nat → Option Nat) (source : Rgb565FrameView P)
    (x0 width stride : Nat) : List Nat → List P → List P × Reads Unit
  | [], destination => (destination, .ok ())
  | y :: ys, destination =>
      match row y with
      | none => (destination, fail "destination row is outside vertical transform geometry")
      | some sy =>
          match copyFromSlice destination (y * stride + x0) source.pixels
              (sy * source.stridePixels + x0) width with
          | none => (destination, .error .panic)
          | some destination => copyRowsMapped row source x0 width stride ys destination

namespace VerticalRgb565Transform

variable {usizeMax : Nat} {P : Type} (t : VerticalRgb565Transform usizeMax)

def destinationRectForSource (r : VerticalRect) : Option VerticalRect :=
  match t.validSourceRect r with
  | none => none
  | some r =>
      if t.sourceHeight = t.destinationHeight then some r
      else
        match firstRow t.sourceRowForDestination t.destinationHeight r.y0 r.y1 with
        | none => none
        | some first =>
            some ⟨r.x0, first, r.x1,
              endRow t.sourceRowForDestination t.destinationHeight first r.y1⟩

def validateSource (source : Rgb565FrameView P) : Reads Unit :=
  if source.width ≠ t.width ∨ source.height ≠ t.sourceHeight then
    fail "source geometry does not match vertical transform"
  else if source.stridePixels < source.width then
    fail "source stride is narrower than source width"
  else
    match checkedMul usizeMax source.stridePixels source.height with
    | none => fail "source geometry overflow"
    | some required =>
        if source.pixels.length < required then
          fail "source buffer is smaller than source geometry"
        else .ok ()

/-- The copies of `copy_rect`, all rows at once where neither buffer has a gap between them. -/
def copyPixels (source : Rgb565FrameView P) (r d : VerticalRect) (stride : Nat)
    (destination : List P) : List P × Reads Unit :=
  if t.sourceHeight = t.destinationHeight then
    if r.x0 = 0 ∧ r.x1 = t.width ∧ source.stridePixels = t.width ∧ stride = t.width then
      match copyFromSlice destination (r.y0 * stride) source.pixels (r.y0 * source.stridePixels)
          (r.width * r.rows) with
      | none => (destination, .error .panic)
      | some destination => (destination, .ok ())
    else copyRowsMapped some source r.x0 r.width stride (List.range' r.y0 (r.y1 - r.y0)) destination
  else
    copyRowsMapped t.sourceRowForDestination source r.x0 r.width stride
      (List.range' d.y0 (d.y1 - d.y0)) destination

/-- The destination afterwards, and what the call returns. -/
def copyRect (source : Rgb565FrameView P) (sourceRect : VerticalRect) (destination : List P)
    (stride : Nat) : List P × Reads (Option VerticalCopyStats) :=
  match t.validateSource source with
  | .error e => (destination, .error e)
  | .ok () =>
      if stride < t.width then
        (destination, fail "destination stride is narrower than vertical transform width")
      else
        match checkedMul usizeMax stride t.destinationHeight with
        | none => (destination, fail "destination geometry overflow")
        | some required =>
            if destination.length < required then
              (destination, fail "destination buffer is smaller than vertical transform geometry")
            else
              match t.validSourceRect sourceRect with
              | none => (destination, .ok none)
              | some r =>
                  match t.destinationRectForSource r with
                  | none => (destination, .ok none)
                  | some d =>
                      let copied := t.copyPixels source r d stride destination
                      (copied.1, copied.2.map fun _ => some ⟨d, d.width * d.rows * 2⟩)

/-- `copy_rect` for each rectangle of a list. -/
def copyRects (source : Rgb565FrameView P) (rects : List VerticalRect) (destination : List P)
    (stride : Nat) : List P :=
  rects.foldl (fun destination r => (t.copyRect source r destination stride).1) destination

/-- A buffer of the source geometry. -/
structure FrameOf (source : Rgb565FrameView P) : Prop where
  width : source.width = t.width
  height : source.height = t.sourceHeight
  wide : t.width ≤ source.stridePixels
  holds : source.stridePixels * t.sourceHeight ≤ source.pixels.length
  usize : source.pixels.length ≤ usizeMax

/-- A buffer of the destination geometry. -/
structure TargetOf (destination : List P) (stride : Nat) : Prop where
  wide : t.width ≤ stride
  holds : stride * t.destinationHeight ≤ destination.length
  usize : destination.length ≤ usizeMax

/-- The destination shows the source: each row the row the map gives. -/
def HoldsScaling (source : Rgb565FrameView P) (destination : List P) (stride : Nat) : Prop :=
  ∀ x y sy, x < t.width → t.sourceRowForDestination y = some sy →
    destination[y * stride + x]? = source.at x sy

end VerticalRgb565Transform

/-! ## 2. The row map -/

/-- A row further down shows no earlier row, and below one that shows nothing none shows any. -/
structure RowMap (row : Nat → Option Nat) : Prop where
  mono : ∀ {y y' sy sy'}, y ≤ y' → row y = some sy → row y' = some sy' → sy ≤ sy'
  gone : ∀ {y y'}, y ≤ y' → row y = none → row y' = none

theorem rowMap_some : RowMap some where
  mono h hy hy' := by
    cases hy
    cases hy'
    exact h
  gone _ h := by cases h

section Searches

variable {row : Nat → Option Nat} {height y0 y1 first y sy : Nat}

theorem any_range_iff : ((row y).any fun sy => decide (y0 ≤ sy ∧ sy < y1)) = true ↔
    ∃ sy, row y = some sy ∧ y0 ≤ sy ∧ sy < y1 := by
  simp only [Option.any_eq_true, decide_eq_true_eq]

theorem firstRow_none (h : firstRow row height y0 y1 = none) (hy : y < height)
    (hrow : row y = some sy) : ¬ (y0 ≤ sy ∧ sy < y1) := by
  intro hsy
  have hnone := List.find?_eq_none.1 h y (List.mem_range.2 hy)
  exact hnone (any_range_iff.2 ⟨sy, hrow, hsy⟩)

theorem firstRow_some (h : firstRow row height y0 y1 = some first) :
    first < height ∧ (∃ sy, row first = some sy ∧ y0 ≤ sy ∧ sy < y1) ∧
      ∀ y sy, row y = some sy → y0 ≤ sy → sy < y1 → first ≤ y := by
  obtain ⟨hfirst, hmem, hbefore⟩ := List.find?_range_eq_some.1 h
  refine ⟨List.mem_range.1 hmem, any_range_iff.1 hfirst, fun y sy hrow hlow hhigh => ?_⟩
  by_contra hlt
  have hnot := hbefore y (by omega)
  rw [any_range_iff.2 ⟨sy, hrow, hlow, hhigh⟩] at hnot
  exact absurd hnot (by decide)

/-- Up to the end no row is below the range, and from the end on none is in it. -/
theorem endRow_spec (hmap : RowMap row) (hheight : ∀ y sy, row y = some sy → y < height) :
    (∀ y sy, first ≤ y → y < endRow row height first y1 → row y = some sy → sy < y1) ∧
      ∀ y sy, first ≤ y → row y = some sy → sy < y1 → y < endRow row height first y1 := by
  unfold endRow
  cases hfind : (List.range' first (height - first)).find? fun y =>
      (row y).any fun sy => decide (y1 ≤ sy) with
  | none =>
      refine ⟨fun y sy hfirst _ hrow => ?_, fun y sy _ hrow _ => hheight y sy hrow⟩
      have hy := hheight y sy hrow
      have hnone := List.find?_eq_none.1 hfind y (List.mem_range'_1.2 ⟨hfirst, by omega⟩)
      rw [hrow] at hnone
      simp only [Option.any_some, decide_eq_true_eq] at hnone
      omega
  | some last =>
      obtain ⟨hlast, hmem, hbefore⟩ := List.find?_range'_eq_some.1 hfind
      obtain ⟨syLast, hrowLast, hsyLast⟩ := (Option.any_eq_true _ _).1 hlast
      rw [decide_eq_true_eq] at hsyLast
      rw [Option.getD_some]
      constructor
      · intro y sy hfirst hlt hrow
        have hnot := hbefore y hfirst hlt
        rw [hrow, Option.any_some, Bool.not_eq_true', decide_eq_false_iff_not] at hnot
        omega
      · intro y sy _ hrow hsy
        by_contra hge
        have hmono := hmap.mono (Nat.le_of_not_lt hge) hrowLast hrow
        omega

theorem endRow_bounds (h : first ≤ height) :
    first ≤ endRow row height first y1 ∧ endRow row height first y1 ≤ height := by
  unfold endRow
  cases hfind : (List.range' first (height - first)).find? fun y =>
      (row y).any fun sy => decide (y1 ≤ sy) with
  | none => exact ⟨h, Nat.le_refl height⟩
  | some last =>
      have hmem := List.mem_range'_1.1 (List.mem_of_find?_eq_some hfind)
      exact ⟨hmem.1, Nat.le_of_lt (Nat.lt_of_lt_of_le hmem.2 (by omega))⟩

/-- **The rows between the two searches are those that show a row of the range.** -/
theorem searched_iff (hmap : RowMap row) (hheight : ∀ y sy, row y = some sy → y < height)
    (hfirst : firstRow row height y0 y1 = some first) (hrow : row y = some sy) :
    first ≤ y ∧ y < endRow row height first y1 ↔ y0 ≤ sy ∧ sy < y1 := by
  obtain ⟨-, ⟨syFirst, hrowFirst, hlow, -⟩, hleast⟩ := firstRow_some hfirst
  obtain ⟨hbelow, hreach⟩ := @endRow_spec row height y1 first hmap hheight
  constructor
  · rintro ⟨hge, hlt⟩
    exact ⟨Nat.le_trans hlow (hmap.mono hge hrowFirst hrow), hbelow y sy hge hlt hrow⟩
  · rintro ⟨hsy, hsy'⟩
    have hge := hleast y sy hrow hsy hsy'
    exact ⟨hge, hreach y sy hge hrow hsy'⟩

end Searches

/-! ## 3. The rows of a transform -/

namespace VerticalRgb565Transform

variable {usizeMax : Nat} {P : Type} {t : VerticalRgb565Transform usizeMax} {y y' sy sy' : Nat}

/-- The row that is scaled, in half rows where rows are sampled at their centre. -/
def phase (t : VerticalRgb565Transform usizeMax) (y : Nat) : Nat :=
  match t.sampling with
  | .centeredNearest => y * 2 + 1
  | .topAlignedNearest => y

theorem phase_mono (h : y ≤ y') : t.phase y ≤ t.phase y' := by
  unfold phase
  split
  · omega
  · exact h

theorem numerator_eq : t.numerator y =
    if t.phase y * t.sourceHeight ≤ usizeMax then some (t.phase y * t.sourceHeight) else none := by
  unfold numerator phase
  cases t.sampling with
  | topAlignedNearest => rfl
  | centeredNearest =>
      have hodd : y * 2 + 1 ≤ (y * 2 + 1) * t.sourceHeight := Nat.le_mul_of_pos_right _ t.source_pos
      by_cases hfits : (y * 2 + 1) * t.sourceHeight ≤ usizeMax
      · have hdouble : checkedMul usizeMax y 2 = some (y * 2) := if_pos (by omega)
        have hadd : checkedAdd usizeMax (y * 2) 1 = some (y * 2 + 1) := if_pos (by omega)
        simp only [hdouble, hadd, Option.bind_eq_bind, Option.bind_some]
        rfl
      · rw [if_neg hfits]
        by_cases hdouble : y * 2 ≤ usizeMax
        · have hmul : checkedMul usizeMax y 2 = some (y * 2) := if_pos hdouble
          by_cases hadd : y * 2 + 1 ≤ usizeMax
          · have hodd' : checkedAdd usizeMax (y * 2) 1 = some (y * 2 + 1) := if_pos hadd
            simp only [hmul, hodd', Option.bind_eq_bind, Option.bind_some]
            exact if_neg hfits
          · have hodd' : checkedAdd usizeMax (y * 2) 1 = none := if_neg hadd
            simp only [hmul, hodd', Option.bind_eq_bind, Option.bind_some, Option.bind_none]
        · have hmul : checkedMul usizeMax y 2 = none := if_neg hdouble
          simp only [hmul, Option.bind_eq_bind, Option.bind_none]

theorem sourceRow_lt (h : t.sourceRowForDestination y = some sy) : y < t.destinationHeight := by
  unfold sourceRowForDestination at h
  split at h
  · cases h
  · omega

theorem sourceRow_lt_source (h : t.sourceRowForDestination y = some sy) : sy < t.sourceHeight := by
  have hpos := t.source_pos
  unfold sourceRowForDestination at h
  split at h
  · cases h
  · split at h
    · cases h
      omega
    · obtain ⟨n, -, rfl⟩ := Option.map_eq_some_iff.1 h
      omega

theorem sourceRow_same (hsame : t.sourceHeight = t.destinationHeight)
    (hy : y < t.destinationHeight) : t.sourceRowForDestination y = some y := by
  unfold sourceRowForDestination
  rw [if_neg (by omega), if_pos hsame]

theorem rowMap (t : VerticalRgb565Transform usizeMax) : RowMap t.sourceRowForDestination where
  mono := by
    intro y y' sy sy' hle h h'
    unfold sourceRowForDestination at h h'
    by_cases hsame : t.sourceHeight = t.destinationHeight
    · rw [if_pos hsame] at h h'
      split at h
      · cases h
      · split at h'
        · cases h'
        · cases h
          cases h'
          exact hle
    · rw [if_neg hsame] at h h'
      split at h
      · cases h
      · split at h'
        · cases h'
        · obtain ⟨n, hn, rfl⟩ := Option.map_eq_some_iff.1 h
          obtain ⟨n', hn', rfl⟩ := Option.map_eq_some_iff.1 h'
          rw [numerator_eq] at hn hn'
          split at hn
          · split at hn'
            · cases hn
              cases hn'
              have hphase := Nat.mul_le_mul_right t.sourceHeight (phase_mono (t := t) hle)
              have hdiv := Nat.div_le_div_right (c := t.denominator) hphase
              omega
            · cases hn'
          · cases hn
  gone := by
    intro y y' hle h
    unfold sourceRowForDestination at h ⊢
    by_cases hend : t.destinationHeight ≤ y'
    · rw [if_pos hend]
    · rw [if_neg (by omega)] at h
      rw [if_neg hend]
      by_cases hsame : t.sourceHeight = t.destinationHeight
      · rw [if_pos hsame] at h
        cases h
      · rw [if_neg hsame] at h ⊢
        rw [Option.map_eq_none_iff, numerator_eq] at h ⊢
        have hphase := Nat.mul_le_mul_right t.sourceHeight (phase_mono (t := t) hle)
        split at h
        · cases h
        · rw [if_neg (by omega)]

end VerticalRgb565Transform

/-! ## 4. Copying rows -/

/-- Rows `a..b` hold, in the columns `x0..x1`, the source rows the map gives; all else is as it
    was. -/
structure Copied {P : Type} (row : Nat → Option Nat) (source : Rgb565FrameView P)
    (x0 x1 a b stride : Nat) (before after : List P) : Prop where
  length : after.length = before.length
  shown : ∀ x y sy, x0 ≤ x → x < x1 → a ≤ y → y < b → row y = some sy →
    after[y * stride + x]? = source.at x sy
  kept : ∀ i, (∀ x y, x0 ≤ x → x < x1 → a ≤ y → y < b → row y ≠ none → i ≠ y * stride + x) →
    after[i]? = before[i]?

section Copies

variable {P : Type} {row : Nat → Option Nat} {source : Rgb565FrameView P} {x0 x1 a b stride : Nat}
  {before after : List P}

/-- The end of a row that lies in a buffer. -/
theorem rowEnd_le {stride height length x y : Nat} (hx : x ≤ stride) (hy : y < height)
    (hlen : stride * height ≤ length) : y * stride + x ≤ length := by
  have hrows := Nat.mul_le_mul_left stride (Nat.succ_le_of_lt hy)
  rw [Nat.mul_succ, Nat.mul_comm] at hrows
  omega

/-- Two pixels at one place are in one row. -/
theorem row_unique {stride x x' y y' : Nat} (hx : x < stride) (hx' : x' < stride)
    (h : y * stride + x = y' * stride + x') : y = y' ∧ x = x' := by
  have hrow : y = y' := by
    have hdiv := congrArg (· / stride) h
    have hpos : 0 < stride := by omega
    simp only [Nat.mul_comm _ stride, Nat.mul_add_div hpos, Nat.div_eq_of_lt hx,
      Nat.div_eq_of_lt hx', Nat.add_zero] at hdiv
    exact hdiv
  subst hrow
  exact ⟨rfl, by omega⟩

theorem copyFromSlice_of_le (source : Rgb565FrameView P) (before : List P) {d s count : Nat}
    (hs : s + count ≤ source.pixels.length) (hd : d + count ≤ before.length) :
    ∃ after, copyFromSlice before d source.pixels s count = some after ∧
      after.length = before.length ∧
      ∀ i, after[i]? =
        if d ≤ i ∧ i < d + count then source.pixels[s + (i - d)]? else before[i]? := by
  have hpart : ((source.pixels.drop s).take count).length = count :=
    length_of_slice (slice_of_le hs)
  have hfits : d + ((source.pixels.drop s).take count).length ≤ before.length := by
    rw [hpart]
    exact hd
  unfold copyFromSlice
  rw [slice_of_le hs]
  refine ⟨_, if_pos hd, length_overwrite hfits, fun i => ?_⟩
  rw [getElem?_overwrite hfits, hpart]
  by_cases hi : d ≤ i ∧ i < d + count
  · rw [if_pos hi, if_pos hi, List.getElem?_take_of_lt (by omega), List.getElem?_drop]
  · rw [if_neg hi, if_neg hi]

/-- Rows that lie in both buffers are copied one by one, to the first that shows none. -/
theorem copyRowsMapped_spec (before : List P) (a : Nat)
    (hgone : ∀ {y y'}, y ≤ y' → row y = none → row y' = none)
    (hx : x0 < x1) (hstride : x1 ≤ stride) (count : Nat)
    (hsource : ∀ y sy, y < a + count → row y = some sy →
      sy * source.stridePixels + x1 ≤ source.pixels.length)
    (hdestination : ∀ y, y < a + count → y * stride + x1 ≤ before.length) :
    Copied row source x0 x1 a (a + count) stride before
        (copyRowsMapped row source x0 (x1 - x0) stride (List.range' a count) before).1 ∧
      (copyRowsMapped row source x0 (x1 - x0) stride (List.range' a count) before).2 ≠
        .error .panic := by
  induction count generalizing a before with
  | zero =>
      refine ⟨⟨rfl, fun x y sy _ _ hge hlt => ?_, fun i _ => rfl⟩, fun h => by cases h⟩
      omega
  | succ count ih =>
      rw [List.range'_succ, copyRowsMapped]
      cases hrow : row a with
      | none =>
          refine ⟨⟨rfl, fun x y sy _ _ hge _ hy => ?_, fun i _ => rfl⟩, fun h => by cases h⟩
          rw [hgone hge hrow] at hy
          cases hy
      | some sy =>
          have hs := hsource a sy (by omega) hrow
          have hd := hdestination a (by omega)
          have hs' : sy * source.stridePixels + x0 + (x1 - x0) ≤ source.pixels.length := by omega
          have hd' : a * stride + x0 + (x1 - x0) ≤ before.length := by omega
          obtain ⟨next, hcopy, hlen, hat⟩ := copyFromSlice_of_le source before hs' hd'
          dsimp only
          rw [hcopy]
          obtain ⟨⟨hlength, hshown, hkept⟩, hsafe⟩ := ih next (a + 1)
            (fun y sy hy => hsource y sy (by omega)) fun y hy => by
              rw [hlen]
              exact hdestination y (by omega)
          refine ⟨⟨hlength.trans hlen, fun x y sy' hx0 hx1 hge hlt hy => ?_, fun i hi => ?_⟩, hsafe⟩
          · by_cases hfirst : y = a
            · -- the row just copied is not touched by the rows below
              subst hfirst
              rw [hrow] at hy
              cases hy
              rw [hkept _ fun x' y' _ hx' hge' _ _ heq =>
                absurd (row_unique (by omega) (by omega) heq).1 (by omega), hat, if_pos (by omega)]
              unfold Rgb565FrameView.at
              congr 1
              omega
            · exact hshown x y sy' hx0 hx1 (by omega) (by omega) hy
          · rw [hkept i fun x y hx0 hx1 hge hlt hy => hi x y hx0 hx1 (by omega) (by omega) hy, hat,
              if_neg]
            rintro ⟨hge, hlt⟩
            refine hi (i - a * stride) a (by omega) (by omega) (Nat.le_refl a) (by omega) ?_
              (by omega)
            rw [hrow]
            exact Option.some_ne_none sy

/-- Rows without gaps are copied at once. -/
theorem copyBlock_spec (before : List P) {width y0 y1 : Nat} (hwidth : 0 < width) (hy : y0 ≤ y1)
    (hsource : source.stridePixels = width) (hs : y1 * width ≤ source.pixels.length)
    (hd : y1 * width ≤ before.length) :
    ∃ after, copyFromSlice before (y0 * width) source.pixels (y0 * source.stridePixels)
        (width * (y1 - y0)) = some after ∧
      Copied some source 0 width y0 y1 width before after := by
  have hcount : y0 * width + width * (y1 - y0) = y1 * width := by
    rw [Nat.mul_comm width, ← Nat.add_mul]
    congr 1
    omega
  rw [hsource]
  have hd' : y0 * width + width * (y1 - y0) ≤ before.length := by omega
  obtain ⟨after, hcopy, hlen, hat⟩ := copyFromSlice_of_le source before
    (Nat.le_trans (Nat.le_of_eq hcount) hs) hd'
  refine ⟨after, hcopy, hlen, fun x y sy _ hx hge hlt hy => ?_, fun i hi => ?_⟩
  · cases hy
    have hfirst : y0 * width ≤ y * width := Nat.mul_le_mul_right width hge
    have hlast : (y + 1) * width ≤ y1 * width := Nat.mul_le_mul_right width hlt
    rw [Nat.succ_mul] at hlast
    rw [hat, if_pos (by omega)]
    unfold Rgb565FrameView.at
    rw [hsource]
    congr 1
    omega
  · rw [hat, if_neg]
    rintro ⟨hge, hlt⟩
    rw [hcount] at hlt
    refine hi (i % width) (i / width) (Nat.zero_le _) (Nat.mod_lt i hwidth)
      ((Nat.le_div_iff_mul_le hwidth).2 hge) ((Nat.div_lt_iff_lt_mul hwidth).2 hlt)
      (Option.some_ne_none _) ?_
    rw [Nat.mul_comm]
    exact (Nat.div_add_mod i width).symm

end Copies

/-! ## 5. One rectangle -/

namespace VerticalRgb565Transform

variable {usizeMax : Nat} {P : Type} {t : VerticalRgb565Transform usizeMax}
  {source : Rgb565FrameView P} {r d : VerticalRect} {stride x y sy : Nat} {before : List P}

/-- A rectangle of the source geometry. -/
structure Inside (t : VerticalRgb565Transform usizeMax) (r : VerticalRect) : Prop where
  columns : r.x0 < r.x1
  rows : r.y0 < r.y1
  right : r.x1 ≤ t.width
  bottom : r.y1 ≤ t.sourceHeight

theorem validSourceRect_iff : t.validSourceRect r = some d ↔ t.Inside r ∧ d = r := by
  unfold validSourceRect
  split
  · rename_i hout
    constructor
    · intro h
      cases h
    · rintro ⟨⟨hcolumns, hrows, hright, hbottom⟩, -⟩
      omega
  · rename_i hin
    rw [Option.some.injEq]
    exact ⟨fun h => ⟨⟨by omega, by omega, by omega, by omega⟩, h.symm⟩, fun h => h.2.symm⟩

theorem validateSource_ok (h : t.FrameOf source) : t.validateSource source = .ok () := by
  obtain ⟨hwidth, hheight, hwide, hholds, husize⟩ := h
  unfold validateSource checkedMul
  rw [if_neg (by rw [not_or, not_not, not_not]; exact ⟨hwidth, hheight⟩), if_neg (by omega),
    hheight, if_pos (Nat.le_trans hholds husize)]
  dsimp only
  rw [if_neg (by omega)]

/-- What `copy_rect` does once both buffers have passed. -/
theorem copyRect_eq (hsource : t.FrameOf source) (htarget : t.TargetOf before stride) :
    t.copyRect source r before stride =
      match t.destinationRectForSource r with
      | none => (before, .ok none)
      | some d => ((t.copyPixels source r d stride before).1,
          (t.copyPixels source r d stride before).2.map fun _ =>
            some ⟨d, d.width * d.rows * 2⟩) := by
  obtain ⟨hwide, hholds, husize⟩ := htarget
  unfold copyRect
  rw [validateSource_ok hsource]
  dsimp only
  rw [if_neg (by omega)]
  unfold checkedMul
  rw [if_pos (Nat.le_trans hholds husize)]
  dsimp only
  rw [if_neg (by omega)]
  cases hvalid : t.validSourceRect r with
  | none =>
      unfold destinationRectForSource
      rw [hvalid]
  | some r' =>
      obtain ⟨-, rfl⟩ := validSourceRect_iff.1 hvalid
      rfl

/-- The mapped rectangle: the columns of the source rectangle, and the rows that show it. -/
theorem destinationRect_some (h : t.destinationRectForSource r = some d) :
    t.Inside r ∧ d.x0 = r.x0 ∧ d.x1 = r.x1 ∧ d.y0 ≤ d.y1 ∧ d.y1 ≤ t.destinationHeight ∧ ∀ y sy,
      t.sourceRowForDestination y = some sy → (d.y0 ≤ y ∧ y < d.y1 ↔ r.y0 ≤ sy ∧ sy < r.y1) := by
  unfold destinationRectForSource at h
  cases hvalid : t.validSourceRect r with
  | none =>
      rw [hvalid] at h
      cases h
  | some r' =>
      obtain ⟨hin, rfl⟩ := validSourceRect_iff.1 hvalid
      rw [hvalid] at h
      dsimp only at h
      split at h
      · rename_i hsame
        cases h
        refine ⟨hin, rfl, rfl, Nat.le_of_lt hin.rows, hsame ▸ hin.bottom, fun y sy hrow => ?_⟩
        rw [sourceRow_same hsame (sourceRow_lt hrow)] at hrow
        cases hrow
        exact Iff.rfl
      · split at h
        · cases h
        · rename_i first hfirst
          cases h
          obtain ⟨hlow, hhigh⟩ := @endRow_bounds t.sourceRowForDestination _ r'.y1 first
            (Nat.le_of_lt (firstRow_some hfirst).1)
          exact ⟨hin, rfl, rfl, hlow, hhigh, fun y sy hrow =>
            searched_iff t.rowMap (fun y sy => sourceRow_lt) hfirst hrow⟩

theorem destinationRect_none (h : t.destinationRectForSource r = none) (hin : t.Inside r)
    (hrow : t.sourceRowForDestination y = some sy) : ¬ (r.y0 ≤ sy ∧ sy < r.y1) := by
  unfold destinationRectForSource at h
  rw [validSourceRect_iff.2 ⟨hin, rfl⟩] at h
  dsimp only at h
  split at h
  · cases h
  · split at h
    · rename_i hfirst
      exact firstRow_none hfirst (sourceRow_lt hrow) hrow
    · cases h

theorem rowEnd_source (hsource : t.FrameOf source) (hx : x ≤ t.width) (hy : y < t.sourceHeight) :
    y * source.stridePixels + x ≤ source.pixels.length :=
  rowEnd_le (Nat.le_trans hx hsource.wide) hy hsource.holds

theorem rowEnd_target (htarget : t.TargetOf before stride) (hx : x ≤ t.width)
    (hy : y < t.destinationHeight) : y * stride + x ≤ before.length :=
  rowEnd_le (Nat.le_trans hx htarget.wide) hy htarget.holds

/-- The copies of a rectangle draw its mapped rectangle. -/
theorem copyPixels_copied (hsource : t.FrameOf source) (htarget : t.TargetOf before stride)
    (hrect : t.destinationRectForSource r = some d) :
    Copied t.sourceRowForDestination source d.x0 d.x1 d.y0 d.y1 stride before
        (t.copyPixels source r d stride before).1 ∧
      (t.copyPixels source r d stride before).2 ≠ .error .panic := by
  obtain ⟨hin, hx0, hx1, htop, hbottom, -⟩ := destinationRect_some hrect
  obtain ⟨hcolumns, hrows, hright, hlow⟩ := hin
  unfold copyPixels
  by_cases hsame : t.sourceHeight = t.destinationHeight
  · have hd : d = r := by
      unfold destinationRectForSource at hrect
      rw [validSourceRect_iff.2 ⟨⟨hcolumns, hrows, hright, hlow⟩, rfl⟩] at hrect
      dsimp only at hrect
      rw [if_pos hsame] at hrect
      exact (Option.some.inj hrect).symm
    subst hd
    -- every row of the rectangle shows itself
    have hidentity : ∀ {after : List P},
        Copied some source d.x0 d.x1 d.y0 d.y1 stride before after →
        Copied t.sourceRowForDestination source d.x0 d.x1 d.y0 d.y1 stride before after := by
      rintro after ⟨hlength, hshown, hkept⟩
      refine ⟨hlength, fun x y sy hx hx' hy hy' hrow => hshown x y sy hx hx' hy hy' ?_,
        fun i hi => hkept i fun x y hx hx' hy hy' _ => hi x y hx hx' hy hy' ?_⟩
      · rw [sourceRow_same hsame (by omega)] at hrow
        exact hrow
      · rw [sourceRow_same hsame (by omega)]
        exact Option.some_ne_none y
    rw [if_pos hsame]
    split
    · rename_i hdense
      obtain ⟨hzero, hfull, hstride, rfl⟩ := hdense
      obtain ⟨after, hcopy, hcopied⟩ := copyBlock_spec before t.width_pos
        (Nat.le_of_lt hrows) hstride
        (by
          have hend := Nat.mul_le_mul_left t.width hlow
          rw [Nat.mul_comm] at hend
          have hholds := hsource.holds
          rw [hstride] at hholds
          omega)
        (by
          have hend := Nat.mul_le_mul_left t.width hbottom
          rw [Nat.mul_comm] at hend
          exact Nat.le_trans hend htarget.holds)
      unfold VerticalRect.width VerticalRect.rows
      rw [hzero, hfull, Nat.sub_zero, hcopy]
      rw [hzero, hfull] at hidentity
      exact ⟨hidentity hcopied, fun h => by cases h⟩
    · obtain ⟨hcopied, hsafe⟩ := copyRowsMapped_spec before d.y0 rowMap_some.gone hcolumns
        (Nat.le_trans hright htarget.wide) (d.y1 - d.y0)
        (fun y sy hy hrow => by
          cases hrow
          exact rowEnd_source hsource hright (by omega))
        (fun y hy => rowEnd_target htarget hright (by omega))
      have hend : d.y0 + (d.y1 - d.y0) = d.y1 := by omega
      rw [hend] at hcopied
      exact ⟨hidentity hcopied, hsafe⟩
  · rw [if_neg hsame]
    obtain ⟨hcopied, hsafe⟩ := copyRowsMapped_spec before d.y0 t.rowMap.gone hcolumns
      (Nat.le_trans hright htarget.wide) (d.y1 - d.y0)
      (fun y sy _ hrow => rowEnd_source hsource hright (sourceRow_lt_source hrow))
      (fun y hy => rowEnd_target htarget hright (by omega))
    have hend : d.y0 + (d.y1 - d.y0) = d.y1 := by omega
    rw [hend] at hcopied
    rw [hx0, hx1]
    exact ⟨hcopied, hsafe⟩

/-- **A rectangle is drawn where it is shown, and nothing else is written.** -/
theorem copyRect_redrawn (hsource : t.FrameOf source) (htarget : t.TargetOf before stride)
    (r : VerticalRect) :
    (t.copyRect source r before stride).1.length = before.length ∧
      (∀ x y sy, t.Inside r → r.Mem x sy → t.sourceRowForDestination y = some sy →
        (t.copyRect source r before stride).1[y * stride + x]? = source.at x sy) ∧
      (∀ i, (∀ d x y, t.destinationRectForSource r = some d → d.Mem x y → i ≠ y * stride + x) →
        (t.copyRect source r before stride).1[i]? = before[i]?) ∧
      (t.copyRect source r before stride).2 ≠ .error .panic := by
  rw [copyRect_eq hsource htarget]
  cases hrect : t.destinationRectForSource r with
  | none =>
      refine ⟨rfl, fun x y sy hin hmem hrow => ?_, fun i _ => rfl, fun h => by cases h⟩
      exact absurd ⟨hmem.2.2.1, hmem.2.2.2⟩ (destinationRect_none hrect hin hrow)
  | some d =>
      obtain ⟨-, hx0, hx1, -, -, hrows⟩ := destinationRect_some hrect
      obtain ⟨⟨hlength, hshown, hkept⟩, hsafe⟩ := copyPixels_copied hsource htarget hrect
      refine ⟨hlength, fun x y sy _ hmem hrow => ?_, fun i hi => ?_, fun h => ?_⟩
      · obtain ⟨hleft, hright, hsy⟩ := hmem
        obtain ⟨hge, hlt⟩ := (hrows y sy hrow).2 hsy
        exact hshown x y sy (by omega) (by omega) hge hlt hrow
      · exact hkept i fun x y hx hx' hy hy' _ => hi d x y rfl ⟨hx, hx', hy, hy'⟩
      · dsimp only at h
        cases hresult : (t.copyPixels source r d stride before).2 with
        | ok u =>
            rw [hresult] at h
            cases h
        | error e =>
            rw [hresult] at h hsafe
            exact hsafe (congrArg _ (Except.error.inj h))

/-! ## 6. A list of rectangles -/

/-- No pixel of a row that shows no row of a rectangle is in the mapped rectangle. -/
theorem kept_of_not_mem (hwide : t.width ≤ stride) (hx : x < t.width)
    (hrow : t.sourceRowForDestination y = some sy) (hnot : ¬ (t.Inside r ∧ r.Mem x sy)) :
    ∀ d x' y', t.destinationRectForSource r = some d → d.Mem x' y' →
      y * stride + x ≠ y' * stride + x' := by
  intro d x' y' hrect hmem heq
  obtain ⟨hin, hx0, hx1, -, -, hrows⟩ := destinationRect_some hrect
  obtain ⟨hleft, hright, htop, hbottom⟩ := hmem
  have hend := hin.right
  obtain ⟨rfl, rfl⟩ := row_unique (by omega) (by omega) heq
  have hsy := (hrows y sy hrow).1 ⟨htop, hbottom⟩
  exact hnot ⟨hin, by omega, by omega, hsy⟩

theorem copyRects_cons (r : VerticalRect) (rects : List VerticalRect) :
    t.copyRects source (r :: rects) before stride =
      t.copyRects source rects (t.copyRect source r before stride).1 stride := rfl

theorem targetOf_copyRect (hsource : t.FrameOf source) (htarget : t.TargetOf before stride)
    (r : VerticalRect) : t.TargetOf (t.copyRect source r before stride).1 stride := by
  have hlength := (copyRect_redrawn hsource htarget r).1
  exact ⟨htarget.wide, hlength ▸ htarget.holds, hlength ▸ htarget.usize⟩

/-- What the rectangles cover is drawn from the source, and the rest shows what it showed. -/
theorem copyRects_at (hsource : t.FrameOf source) (htarget : t.TargetOf before stride)
    (rects : List VerticalRect) (hx : x < t.width)
    (hrow : t.sourceRowForDestination y = some sy) :
    ((∃ r ∈ rects, t.Inside r ∧ r.Mem x sy) →
      (t.copyRects source rects before stride)[y * stride + x]? = source.at x sy) ∧
    ((¬ ∃ r ∈ rects, t.Inside r ∧ r.Mem x sy) →
      (t.copyRects source rects before stride)[y * stride + x]? = before[y * stride + x]?) := by
  induction rects generalizing before with
  | nil => exact ⟨fun ⟨r, hr, _⟩ => absurd hr List.not_mem_nil, fun _ => rfl⟩
  | cons r rects ih =>
      obtain ⟨-, hshown, hkept, -⟩ := copyRect_redrawn hsource htarget r
      obtain ⟨hcovered, hrest⟩ := ih (targetOf_copyRect hsource htarget r)
      rw [copyRects_cons]
      refine ⟨?_, fun hnone => ?_⟩
      · rintro ⟨r', hr', hin, hmem⟩
        by_cases hlater : ∃ r ∈ rects, t.Inside r ∧ r.Mem x sy
        · exact hcovered hlater
        · rcases List.mem_cons.1 hr' with rfl | hr'
          · rw [hrest hlater]
            exact hshown x y sy hin hmem hrow
          · exact absurd ⟨r', hr', hin, hmem⟩ hlater
      · have hlater : ¬ ∃ r ∈ rects, t.Inside r ∧ r.Mem x sy := by
          rintro ⟨r', hr', hcover⟩
          exact hnone ⟨r', List.mem_cons_of_mem r hr', hcover⟩
        rw [hrest hlater]
        exact hkept _ (kept_of_not_mem htarget.wide hx hrow fun hcover =>
          hnone ⟨r, List.mem_cons_self, hcover⟩)

/-- What lies in no mapped rectangle of the list is not written. -/
theorem copyRects_kept (hsource : t.FrameOf source) (htarget : t.TargetOf before stride)
    (rects : List VerticalRect) (i : Nat)
    (hi : ∀ r ∈ rects, ∀ d x y, t.destinationRectForSource r = some d → d.Mem x y →
      i ≠ y * stride + x) :
    (t.copyRects source rects before stride)[i]? = before[i]? := by
  induction rects generalizing before with
  | nil => rfl
  | cons r rects ih =>
      obtain ⟨-, -, hkept, -⟩ := copyRect_redrawn hsource htarget r
      rw [copyRects_cons, ih (targetOf_copyRect hsource htarget r) fun r' hr' =>
        hi r' (List.mem_cons_of_mem r hr')]
      exact hkept i (hi r List.mem_cons_self)

/-- **Scaling the rectangles that cover what changed brings the destination from the old frame to
    the new one, and writes neither the padding of a row nor outside the mapped rectangles.** -/
theorem partial_scaling_is_scaling (t : VerticalRgb565Transform usizeMax)
    (old new : Rgb565FrameView P) (rects : List VerticalRect) (destination : List P)
    (stride : Nat) (hnew : t.FrameOf new)
    (htarget : t.TargetOf destination stride)
    (hcover : ∀ x sy, x < t.width → sy < t.sourceHeight → old.at x sy ≠ new.at x sy →
      ∃ r ∈ rects, t.Inside r ∧ r.Mem x sy)
    (hshows : t.HoldsScaling old destination stride) :
    t.HoldsScaling new (t.copyRects new rects destination stride) stride ∧
      (∀ i, (∀ r ∈ rects, ∀ d x y, t.destinationRectForSource r = some d → d.Mem x y →
        i ≠ y * stride + x) → (t.copyRects new rects destination stride)[i]? = destination[i]?) ∧
      ∀ x y, t.width ≤ x → x < stride →
        (t.copyRects new rects destination stride)[y * stride + x]? =
          destination[y * stride + x]? := by
  refine ⟨fun x y sy hx hrow => ?_, copyRects_kept hnew htarget rects, fun x y hx hx' => ?_⟩
  · obtain ⟨hcovered, hrest⟩ := copyRects_at hnew htarget rects hx hrow
    by_cases hin : ∃ r ∈ rects, t.Inside r ∧ r.Mem x sy
    · exact hcovered hin
    · have hsame : old.at x sy = new.at x sy := by
        by_contra hne
        exact hin (hcover x sy hx (sourceRow_lt_source hrow) hne)
      rw [hrest hin, hshows x y sy hx hrow, hsame]
  · refine copyRects_kept hnew htarget rects _ fun r _ d x' y' hrect hmem heq => ?_
    obtain ⟨hin, -, hright, -⟩ := destinationRect_some hrect
    have hend := hin.right
    have hcolumn := hmem.2.1
    have hwide := htarget.wide
    exact absurd (row_unique hx' (by omega) heq).2 (by omega)

theorem two_rows_fit : 1 * 2 * 2 ≤ 2 ^ 32 - 1 := by decide

theorem one_row_fits : 1 * 1 * 2 ≤ 2 ^ 32 - 1 := by decide

/-- Two rows of one pixel shown in one row, which shows the lower one. -/
def twoRowsInOne : VerticalRgb565Transform (2 ^ 32 - 1) where
  width := 1
  sourceHeight := 2
  destinationHeight := 1
  sampling := .centeredNearest
  width_pos := Nat.zero_lt_one
  source_pos := Nat.zero_lt_two
  destination_pos := Nat.zero_lt_one
  source_fits := two_rows_fit
  destination_fits := one_row_fits

theorem twoRowsInOne_row {y sy : Nat} (h : twoRowsInOne.sourceRowForDestination y = some sy) :
    y = 0 ∧ sy = 1 := by
  have hy := sourceRow_lt h
  have hzero : y = 0 := Nat.lt_one_iff.1 hy
  subst hzero
  cases h
  exact ⟨rfl, rfl⟩

/-- A column of two pixels, with a gap of one between its rows. -/
def columnOfTwo (a b : Nat) : Rgb565FrameView Nat := ⟨[a, 9, b, 9], 1, 2, 2⟩

theorem frameOf_columnOfTwo (a b : Nat) : twoRowsInOne.FrameOf (columnOfTwo a b) where
  width := rfl
  height := rfl
  wide := Nat.le_succ 1
  holds := Nat.le_refl 4
  usize := Nat.le_of_ble_eq_true rfl

theorem targetOf_pixel (a : Nat) : twoRowsInOne.TargetOf [a, 7] 2 where
  wide := Nat.le_succ 1
  holds := Nat.le_refl 2
  usize := Nat.le_of_ble_eq_true rfl

theorem holdsScaling_pixel (a b : Nat) :
    twoRowsInOne.HoldsScaling (columnOfTwo a b) [b, 7] 2 := by
  intro x y sy hx hrow
  obtain ⟨rfl, rfl⟩ := twoRowsInOne_row hrow
  have hzero : x = 0 := Nat.lt_one_iff.1 hx
  subst hzero
  rfl

theorem lower_pixel_rescaled :
    twoRowsInOne.copyRects (columnOfTwo 3 5) [⟨0, 1, 1, 2⟩] [4, 7] 2 = [5, 7] ∧
      twoRowsInOne.HoldsScaling (columnOfTwo 3 5)
        (twoRowsInOne.copyRects (columnOfTwo 3 5) [⟨0, 1, 1, 2⟩] [4, 7] 2) 2 := by
  refine ⟨rfl, (partial_scaling_is_scaling twoRowsInOne (columnOfTwo 3 4) (columnOfTwo 3 5)
    [⟨0, 1, 1, 2⟩] [4, 7] 2 (frameOf_columnOfTwo 3 5) (targetOf_pixel 4) ?_
    (holdsScaling_pixel 3 4)).1⟩
  intro x sy hx hsy hne
  refine ⟨_, List.mem_singleton_self _, ⟨by decide, by decide, by decide, by decide⟩, ?_⟩
  have hzero : x = 0 := Nat.lt_one_iff.1 hx
  subst hzero
  have hlower : sy ≠ 0 := fun hupper => by
    subst hupper
    exact hne rfl
  have hlast : sy < 2 := hsy
  have hone : sy = 1 := by omega
  subst hone
  decide

/-- A rectangle that reaches outside the source is dropped, with the change it covers. -/
theorem outside_rect_not_rescaled :
    twoRowsInOne.FrameOf (columnOfTwo 3 4) ∧ twoRowsInOne.FrameOf (columnOfTwo 3 5) ∧
      twoRowsInOne.TargetOf [4, 7] 2 ∧
      (∀ x sy, x < 1 → sy < 2 → (columnOfTwo 3 4).at x sy ≠ (columnOfTwo 3 5).at x sy →
        ∃ r ∈ [(⟨0, 0, 2, 2⟩ : VerticalRect)], r.Mem x sy) ∧
      twoRowsInOne.HoldsScaling (columnOfTwo 3 4) [4, 7] 2 ∧
      ¬ twoRowsInOne.HoldsScaling (columnOfTwo 3 5)
        (twoRowsInOne.copyRects (columnOfTwo 3 5) [⟨0, 0, 2, 2⟩] [4, 7] 2) 2 := by
  refine ⟨frameOf_columnOfTwo 3 4, frameOf_columnOfTwo 3 5, targetOf_pixel 4,
    fun x sy hx hsy _ => ⟨_, List.mem_singleton_self _, Nat.zero_le x, Nat.lt_succ_of_lt hx,
      Nat.zero_le sy, hsy⟩,
    holdsScaling_pixel 3 4, fun h => ?_⟩
  exact absurd (h 0 0 1 Nat.zero_lt_one rfl) (by decide)

end VerticalRgb565Transform

end MisterMagik.Framebuffer
