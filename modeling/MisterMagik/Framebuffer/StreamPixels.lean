/-
  File:      MisterMagik/Framebuffer/StreamPixels.lean
  Subject:   Rectangles of pixels in the framebuffer stream (`framebuffer/stream.rs`).

  Three loops move a rectangle row by row: out of a strided buffer, into one, and out of one as the
  words that are sent. A row that is not there stops each of them, in its own way.

  * `rectPixelAt_collectRows` -- what was collected is what stood in the rectangle;
  * `pixelAt_copyRect` -- what was copied in stands there, and nothing else changed;
  * `rectWords_latest`, `rectWords_dense` -- what is sent is what stands there.
-/
import MisterMagik.Framebuffer.Shift

namespace MisterMagik.Framebuffer

open MisterMagik.Base (slice slice_eq_some slice_of_le slice_none length_of_slice overwrite
  length_overwrite)

/-! ## 1. The loops -/

structure FrameGeometry where
  width : Nat
  height : Nat
  stridePixels : Nat
  deriving DecidableEq, Repr

structure FrameRect where
  x : Nat
  y : Nat
  width : Nat
  height : Nat
  deriving DecidableEq, Repr

namespace FrameRect

def full (geometry : FrameGeometry) : FrameRect := ⟨0, 0, geometry.width, geometry.height⟩

def Mem (r : FrameRect) (p : Pixel) : Prop :=
  r.x ≤ p.1 ∧ p.1 < r.x + r.width ∧ r.y ≤ p.2 ∧ p.2 < r.y + r.height

instance (r : FrameRect) (p : Pixel) : Decidable (r.Mem p) :=
  inferInstanceAs (Decidable (_ ∧ _ ∧ _ ∧ _))

end FrameRect

/-- Rows of a strided buffer, one after the other; none when one is not there. -/
def collectRows (pixels : List Rgb565) (stride x width : Nat) : Nat → Nat → Option (List Rgb565)
  | _, 0 => some []
  | y, count + 1 =>
      match slice pixels (y * stride + x) width,
          collectRows pixels stride x width (y + 1) count with
      | some row, some rest => some (row ++ rest)
      | _, _ => none

def collectStridedRect (pixels : List Rgb565) (srcStride srcX srcY : Nat) (rect : FrameRect) :
    Option (List Rgb565) :=
  if rect.width = 0 ∨ rect.height = 0 ∨ srcStride < rect.width ∨ srcStride < srcX + rect.width then
    none
  else collectRows pixels srcStride srcX rect.width srcY rect.height

/-- The rows of `copy_rect_into_latest` from one on; it returns at the first that is not there. -/
def copyRows (rectPixels : List Rgb565) (stride : Nat) (rect : FrameRect) :
    Nat → Nat → List Rgb565 → List Rgb565
  | _, 0, latest => latest
  | row, count + 1, latest =>
      match slice rectPixels (row * rect.width) rect.width with
      | none => latest
      | some srcRow =>
          if (rect.y + row) * stride + rect.x + rect.width ≤ latest.length then
            copyRows rectPixels stride rect (row + 1) count
              (overwrite latest ((rect.y + row) * stride + rect.x) srcRow)
          else latest

def copyRectIntoLatest (latest : List Rgb565) (geometry : FrameGeometry) (rect : FrameRect)
    (rectPixels : List Rgb565) : List Rgb565 :=
  copyRows rectPixels geometry.stridePixels rect 0 rect.height latest

/-- `rgb565_rect_bytes`, a pixel for its two bytes: nothing when a row is not there. -/
def rgb565RectWords (pixels : List Rgb565) (rect : FrameRect) (stridePixels srcX srcY : Nat) :
    List Rgb565 :=
  if srcX = 0 ∧ srcY = 0 ∧ rect.width = stridePixels ∧ pixels.length = rect.width * rect.height then
    pixels
  else (collectRows pixels stridePixels srcX rect.width srcY rect.height).getD []

/-- The pixel of a rectangle sent row by row. -/
def rectPixelAt (rect : FrameRect) (words : List Rgb565) : Image := fun p =>
  words.getD ((p.2 - rect.y) * rect.width + (p.1 - rect.x)) 0

/-! ## 2. Collecting -/

section Rows

variable {pixels rectPixels latest out : List Rgb565} {stride x y width count : Nat}
  {rect : FrameRect} {p : Pixel}

theorem length_collectRows (h : collectRows pixels stride x width y count = some out) :
    out.length = count * width := by
  induction count generalizing y out with
  | zero =>
      cases h
      rw [Nat.zero_mul, List.length_nil]
  | succ count ih =>
      unfold collectRows at h
      split at h
      · rename_i row rest hrow hrest
        cases h
        rw [List.length_append, length_of_slice hrow, ih hrest, Nat.succ_mul, Nat.add_comm]
      · cases h

theorem getElem?_collectRows (h : collectRows pixels stride x width y count = some out) {i j : Nat}
    (hi : i < count) (hj : j < width) :
    out[i * width + j]? = pixels[(y + i) * stride + x + j]? := by
  induction count generalizing y out i with
  | zero => omega
  | succ count ih =>
      unfold collectRows at h
      split at h
      · rename_i row rest hrow hrest
        cases h
        have hlen := length_of_slice hrow
        cases i with
        | zero =>
            obtain ⟨-, rfl⟩ := slice_eq_some.1 hrow
            rw [Nat.zero_mul, Nat.zero_add, Nat.add_zero, List.getElem?_append_left (by omega),
              List.getElem?_take_of_lt hj, List.getElem?_drop]
        | succ i =>
            have hindex : (i + 1) * width + j - row.length = i * width + j := by
              rw [Nat.succ_mul, hlen]
              omega
            rw [List.getElem?_append_right (by rw [Nat.succ_mul]; omega), hindex,
              ih hrest (by omega), Nat.add_right_comm y 1 i, ← Nat.add_assoc y i 1]
      · cases h

theorem collectRows_of_le (h : ∀ i < count, (y + i) * stride + x + width ≤ pixels.length) :
    ∃ out, collectRows pixels stride x width y count = some out := by
  induction count generalizing y with
  | zero => exact ⟨[], rfl⟩
  | succ count ih =>
      have hfirst : y * stride + x + width ≤ pixels.length := h 0 (by omega)
      obtain ⟨rest, hrest⟩ := ih (y := y + 1) fun i hi => by
        have hrow : y + 1 + i = y + (i + 1) := by omega
        rw [hrow]
        exact h (i + 1) (by omega)
      unfold collectRows
      rw [slice_of_le hfirst, hrest]
      exact ⟨_, rfl⟩

/-- What was collected from a rectangle is what stands there. -/
theorem rectPixelAt_collectRows
    (h : collectRows pixels stride rect.x rect.width rect.y rect.height = some out)
    (hp : rect.Mem p) : rectPixelAt rect out p = pixelAt stride pixels p := by
  obtain ⟨hx, hx', hy, hy'⟩ := hp
  have hget := getElem?_collectRows h (i := p.2 - rect.y) (j := p.1 - rect.x) (by omega) (by omega)
  have hrow : rect.y + (p.2 - rect.y) = p.2 := by omega
  have hcolumn : p.2 * stride + rect.x + (p.1 - rect.x) = p.2 * stride + p.1 := by omega
  unfold rectPixelAt pixelAt
  rw [List.getD_eq_getElem?_getD, hget, hrow, hcolumn, List.getD_eq_getElem?_getD]

theorem collect_eq_some (h : collectStridedRect pixels stride x y rect = some out) :
    0 < rect.width ∧ 0 < rect.height ∧ x + rect.width ≤ stride ∧
      collectRows pixels stride x rect.width y rect.height = some out := by
  unfold collectStridedRect at h
  split at h
  · cases h
  · exact ⟨by omega, by omega, by omega, h⟩

/-! ## 3. Copying in -/

/-- The end of a row of a rectangle that lies in the buffer. -/
theorem row_end_le {height : Nat} (hx : rect.x + rect.width ≤ stride) (hy : y < height) :
    y * stride + rect.x + rect.width ≤ stride * height := by
  have hrows := Nat.mul_le_mul_right stride (Nat.succ_le_of_lt hy)
  rw [Nat.succ_mul, Nat.mul_comm height] at hrows
  omega

theorem copyRows_spec {height : Nat} (row : Nat) (hx : rect.x + rect.width ≤ stride)
    (hy : rect.y + row + count ≤ height) (hlen : latest.length = stride * height)
    (hrect : rectPixels.length = (row + count) * rect.width) :
    (copyRows rectPixels stride rect row count latest).length = stride * height ∧
    ∀ p : Pixel, p.1 < stride →
      pixelAt stride (copyRows rectPixels stride rect row count latest) p =
        if rect.x ≤ p.1 ∧ p.1 < rect.x + rect.width ∧ rect.y + row ≤ p.2 ∧
            p.2 < rect.y + row + count then rectPixelAt rect rectPixels p
        else pixelAt stride latest p := by
  induction count generalizing row latest with
  | zero =>
      refine ⟨hlen, fun p _ => ?_⟩
      rw [if_neg (by omega)]
      rfl
  | succ count ih =>
      have hsrc : row * rect.width + rect.width ≤ rectPixels.length := by
        rw [hrect, ← Nat.succ_mul]
        exact Nat.mul_le_mul_right _ (by omega)
      have hdst : (rect.y + row) * stride + rect.x + rect.width ≤ latest.length := by
        rw [hlen]
        exact row_end_le hx (by omega)
      unfold copyRows
      rw [slice_of_le hsrc]
      dsimp only
      rw [if_pos hdst]
      have hpart : ((rectPixels.drop (row * rect.width)).take rect.width).length = rect.width :=
        length_of_slice (slice_of_le hsrc)
      have hfits : (rect.y + row) * stride + rect.x +
          ((rectPixels.drop (row * rect.width)).take rect.width).length ≤ latest.length := by
        rw [hpart]
        exact hdst
      have hnext : (overwrite latest ((rect.y + row) * stride + rect.x)
          ((rectPixels.drop (row * rect.width)).take rect.width)).length = stride * height := by
        rw [length_overwrite hfits, hlen]
      obtain ⟨hlength, hat⟩ := ih (row + 1) (by omega) hnext (by rw [hrect]; congr 1; omega)
      refine ⟨hlength, fun p hp => ?_⟩
      rw [hat p hp]
      have hwritten := pixelAt_overwrite (y := p.2) hp (by rw [hpart]; exact hx) hfits
      rw [hpart] at hwritten
      -- the rows below, then this one, then the rest
      by_cases hbelow : rect.x ≤ p.1 ∧ p.1 < rect.x + rect.width ∧ rect.y + (row + 1) ≤ p.2 ∧
          p.2 < rect.y + (row + 1) + count
      · rw [if_pos hbelow, if_pos (by omega)]
      · rw [if_neg hbelow, hwritten]
        by_cases hthis : p.2 = rect.y + row ∧ rect.x ≤ p.1 ∧ p.1 < rect.x + rect.width
        · have hrow : p.2 - rect.y = row := by omega
          rw [if_pos hthis, if_pos (by omega)]
          unfold rectPixelAt
          simp only [List.getD_eq_getElem?_getD]
          rw [List.getElem?_take_of_lt (by omega), List.getElem?_drop, hrow]
        · rw [if_neg hthis, if_neg (by omega)]

/-- **What was copied in stands in the rectangle, and nothing else changed.** -/
theorem pixelAt_copyRect {geometry : FrameGeometry}
    (hx : rect.x + rect.width ≤ geometry.stridePixels) (hy : rect.y + rect.height ≤ geometry.height)
    (hlen : latest.length = geometry.stridePixels * geometry.height)
    (hrect : rectPixels.length = rect.height * rect.width) (hp : p.1 < geometry.stridePixels) :
    pixelAt geometry.stridePixels (copyRectIntoLatest latest geometry rect rectPixels) p =
      if rect.Mem p then rectPixelAt rect rectPixels p
      else pixelAt geometry.stridePixels latest p :=
  (copyRows_spec 0 hx hy hlen (by rw [hrect, Nat.zero_add])).2 p hp

theorem length_copyRect {geometry : FrameGeometry}
    (hx : rect.x + rect.width ≤ geometry.stridePixels) (hy : rect.y + rect.height ≤ geometry.height)
    (hlen : latest.length = geometry.stridePixels * geometry.height)
    (hrect : rectPixels.length = rect.height * rect.width) :
    (copyRectIntoLatest latest geometry rect rectPixels).length =
      geometry.stridePixels * geometry.height :=
  (copyRows_spec 0 hx hy hlen (by rw [hrect, Nat.zero_add])).1

/-- An empty buffer stays empty. -/
theorem copyRect_nil (geometry : FrameGeometry) (hwidth : 0 < rect.width) :
    copyRectIntoLatest [] geometry rect rectPixels = [] := by
  unfold copyRectIntoLatest
  cases rect.height with
  | zero => rfl
  | succ count =>
      unfold copyRows
      split
      · rfl
      · rw [if_neg (by rw [List.length_nil]; omega)]

/-! ## 4. Sending -/

/-- A rectangle collected without gaps is sent as it is. -/
theorem rectWords_dense (h : rectPixels.length = rect.height * rect.width) :
    rgb565RectWords rectPixels rect rect.width 0 0 = rectPixels := by
  unfold rgb565RectWords
  rw [if_pos ⟨rfl, rfl, rfl, by rw [h, Nat.mul_comm]⟩]

/-- **A whole buffer is sent as it stands.** -/
theorem rectWords_latest {geometry : FrameGeometry}
    (hwidth : geometry.width ≤ geometry.stridePixels)
    (hlen : latest.length = geometry.stridePixels * geometry.height)
    (hp : (FrameRect.full geometry).Mem p) :
    rgb565RectWords latest (.full geometry) geometry.stridePixels 0 0 ≠ [] ∧
      rectPixelAt (.full geometry)
        (rgb565RectWords latest (.full geometry) geometry.stridePixels 0 0)
        p = pixelAt geometry.stridePixels latest p := by
  have hmem := hp
  obtain ⟨-, hx, -, hy⟩ := hp
  simp only [FrameRect.full, Nat.zero_add] at hx hy
  unfold rgb565RectWords
  by_cases hdense : 0 = 0 ∧ 0 = 0 ∧ (FrameRect.full geometry).width = geometry.stridePixels ∧
      latest.length = (FrameRect.full geometry).width * (FrameRect.full geometry).height
  · rw [if_pos hdense]
    have hpos : 0 < latest.length := by
      rw [hlen]
      exact Nat.mul_pos (by omega) (by omega)
    refine ⟨fun hnil => by rw [hnil] at hpos; exact absurd hpos (by simp), ?_⟩
    unfold rectPixelAt pixelAt
    rw [hdense.2.2.1]
    rfl
  · rw [if_neg hdense]
    have hright : (FrameRect.full geometry).x + (FrameRect.full geometry).width ≤
        geometry.stridePixels := by simpa [FrameRect.full] using hwidth
    have hrows : ∀ i < geometry.height,
        (0 + i) * geometry.stridePixels + 0 + geometry.width ≤ latest.length := by
      intro i hi
      rw [hlen]
      exact row_end_le hright (by omega)
    obtain ⟨out, hout⟩ := collectRows_of_le hrows
    have hcollect : collectRows latest geometry.stridePixels 0 (FrameRect.full geometry).width 0
        (FrameRect.full geometry).height = some out := hout
    rw [hcollect, Option.getD_some]
    have hpos : 0 < out.length := by
      rw [length_collectRows hout]
      exact Nat.mul_pos (by omega) (by omega)
    exact ⟨fun hnil => by rw [hnil] at hpos; exact absurd hpos (by simp),
      rectPixelAt_collectRows hcollect hmem⟩

end Rows

end MisterMagik.Framebuffer
