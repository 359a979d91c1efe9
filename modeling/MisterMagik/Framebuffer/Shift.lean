/-
  File:      MisterMagik/Framebuffer/Shift.lean
  Subject:   `shift_physical_rect` (`framebuffer/target.rs`), and a scroll shown by a shift.

  The buffer is one run of pixels, `stride` to a row. Every loop of the source writes one row at a
  time from a row it has not written yet.

  * `WritesRow`, `writesRow_foldl` -- one row written, and a loop of them;
  * `shiftPhysicalRect_spec` -- a shift that is not refused moves every pixel that stays in the
    rectangle and touches nothing outside it; a refused one touches nothing;
  * `scroll_write_set` -- what was shifted and then written over the write set shows the new layer.
-/
import MisterMagik.Base.Bytes
import MisterMagik.Framebuffer.Coherence
import MisterMagik.Framebuffer.Scroll

namespace MisterMagik.Framebuffer

open MisterMagik.Base (overwrite length_overwrite)

/-! ## 1. The shift -/

/-- `copy_within`: the source range is read before anything is written. -/
def copyWithin (pixels : List Rgb565) (source length destination : Nat) : List Rgb565 :=
  overwrite pixels destination ((pixels.drop source).take length)

/-- `pixels[start..start + length].fill(fill)`. -/
def fillRange (pixels : List Rgb565) (start length : Nat) (fill : Rgb565) : List Rgb565 :=
  overwrite pixels start (List.replicate length fill)

/-- The body of the loop over the rows of a horizontal shift. -/
def shiftRow (stride : Nat) (rect : DirtyRect) (dx : Int) (fill : Rgb565)
    (pixels : List Rgb565) (y : Nat) : List Rgb565 :=
  let distance := dx.natAbs
  let row := y * stride + rect.x0
  if 0 < dx then
    fillRange (copyWithin pixels row (rect.width - distance) (row + distance)) row distance fill
  else
    fillRange (copyWithin pixels (row + distance) (rect.width - distance) row)
      (row + (rect.width - distance)) distance fill

/-- `shift_physical_rect`: its answer, and the pixels. -/
def shiftPhysicalRect (pixels : List Rgb565) (stride height : Nat) (rect : DirtyRect) (dx dy : Int)
    (fill : Rgb565) : Bool × List Rgb565 :=
  if rect.x1 ≤ rect.x0 ∨ rect.y1 ≤ rect.y0 ∨ stride < rect.x1 ∨ height < rect.y1 ∨
      pixels.length < min USIZE_MAX (stride * height) ∨ (dx ≠ 0 ∧ dy ≠ 0) then (false, pixels)
  else
    let width := rect.width
    let height := rect.rows
    let fillRow (pixels : List Rgb565) (y : Nat) :=
      fillRange pixels (y * stride + rect.x0) width fill
    if dx ≠ 0 then
      if width ≤ dx.natAbs then (false, pixels)
      else
        (true,
          (List.range' rect.y0 (rect.y1 - rect.y0)).foldl (shiftRow stride rect dx fill) pixels)
    else if dy = 0 then (true, pixels)
    else
      let distance := dy.natAbs
      if height ≤ distance then (false, pixels)
      else if 0 < dy then
        let pixels := (List.range (height - distance)).reverse.foldl (fun pixels row =>
          copyWithin pixels ((rect.y0 + row) * stride + rect.x0) width
            ((rect.y0 + row + distance) * stride + rect.x0)) pixels
        (true, (List.range' rect.y0 distance).foldl fillRow pixels)
      else
        let pixels := (List.range (height - distance)).foldl (fun pixels row =>
          copyWithin pixels ((rect.y0 + row + distance) * stride + rect.x0) width
            ((rect.y0 + row) * stride + rect.x0)) pixels
        (true, (List.range' (rect.y1 - distance) distance).foldl fillRow pixels)

/-! ## 2. Rows -/

/-- The pixel of a buffer. -/
def pixelAt (stride : Nat) (pixels : List Rgb565) : Image := fun p =>
  pixels.getD (p.2 * stride + p.1) 0

/-- A row of a buffer, black past its end. -/
def rowOf (stride : Nat) (pixels : List Rgb565) (y x : Nat) : Rgb565 :=
  if x < stride then pixelAt stride pixels (x, y) else 0

theorem rowOf_of_lt {stride : Nat} {pixels : List Rgb565} {x : Nat} (y : Nat) (h : x < stride) :
    rowOf stride pixels y x = pixelAt stride pixels (x, y) := if_pos h

/-- The call writes row `destination` and no other: `result` of row `source` and of what the row
    held. -/
structure WritesRow (stride size source destination : Nat)
    (result : (Nat → Rgb565) → (Nat → Rgb565) → Nat → Rgb565)
    (op : List Rgb565 → List Rgb565) : Prop where
  length : ∀ pixels, pixels.length = size → (op pixels).length = size
  written : ∀ pixels, pixels.length = size → rowOf stride (op pixels) destination =
    result (rowOf stride pixels source) (rowOf stride pixels destination)
  others : ∀ pixels, pixels.length = size → ∀ y, y ≠ destination →
    rowOf stride (op pixels) y = rowOf stride pixels y

section Rows

variable {stride size : Nat} {pixels : List Rgb565}

/-- A loop that reads no row it has written, and writes none twice. -/
theorem writesRow_foldl {op : List Rgb565 → Nat → List Rgb565} (source destination : Nat → Nat)
    (result : (Nat → Rgb565) → (Nat → Rgb565) → Nat → Rgb565) (rows : List Nat)
    (hop : ∀ i ∈ rows, WritesRow stride size (source i) (destination i) result
      fun pixels => op pixels i)
    (hrows : rows.Pairwise fun i j => destination i ≠ source j ∧ destination i ≠ destination j)
    (hsize : pixels.length = size) :
    (rows.foldl op pixels).length = size ∧
    (∀ i ∈ rows, rowOf stride (rows.foldl op pixels) (destination i) =
      result (rowOf stride pixels (source i)) (rowOf stride pixels (destination i))) ∧
    ∀ y, (∀ i ∈ rows, y ≠ destination i) →
      rowOf stride (rows.foldl op pixels) y = rowOf stride pixels y := by
  induction rows generalizing pixels with
  | nil => exact ⟨hsize, by simp, fun _ _ => rfl⟩
  | cons first rows ih =>
      obtain ⟨hfirst, hrest⟩ := List.pairwise_cons.1 hrows
      have hwrite := hop first List.mem_cons_self
      obtain ⟨hlength, hwritten, hothers⟩ :=
        ih (fun i hi => hop i (List.mem_cons_of_mem _ hi)) hrest (hwrite.length pixels hsize)
      rw [List.foldl_cons]
      refine ⟨hlength, fun i hi => ?_, fun y hy => ?_⟩
      · rcases List.mem_cons.1 hi with rfl | hi
        · rw [hothers _ fun j hj => (hfirst j hj).2]
          exact hwrite.written pixels hsize
        · rw [hwritten i hi, hwrite.others pixels hsize _ (hfirst i hi).1.symm,
            hwrite.others pixels hsize _ (hfirst i hi).2.symm]
      · rw [hothers y fun i hi => hy i (List.mem_cons_of_mem _ hi)]
        exact hwrite.others pixels hsize y (hy first List.mem_cons_self)

/-- Two writes of one row. -/
theorem WritesRow.comp {y : Nat} {first second : (Nat → Rgb565) → (Nat → Rgb565) → Nat → Rgb565}
    {op next : List Rgb565 → List Rgb565} (hop : WritesRow stride size y y first op)
    (hnext : WritesRow stride size y y second next) :
    WritesRow stride size y y
      (fun source row => second (first source row) (first source row)) fun pixels =>
        next (op pixels) := by
  refine ⟨fun pixels hsize => hnext.length _ (hop.length pixels hsize), fun pixels hsize => ?_,
    fun pixels hsize z hz => ?_⟩
  · rw [hnext.written _ (hop.length pixels hsize), hop.written pixels hsize]
  · rw [hnext.others _ (hop.length pixels hsize) z hz, hop.others pixels hsize z hz]

/-- A place lies in a range of one row exactly if its row is that row. -/
theorem row_range {x y z start length : Nat} (hx : x < stride) (hrange : start + length ≤ stride) :
    (z * stride + start ≤ y * stride + x ∧ y * stride + x < z * stride + start + length) ↔
      y = z ∧ start ≤ x ∧ x < start + length := by
  rcases Nat.lt_trichotomy y z with h | h | h
  · have := Nat.mul_le_mul_right stride (Nat.succ_le_of_lt h)
    rw [Nat.succ_mul] at this
    omega
  · subst h
    omega
  · have := Nat.mul_le_mul_right stride (Nat.succ_le_of_lt h)
    rw [Nat.succ_mul] at this
    omega

/-- One run of pixels written within a row. -/
theorem pixelAt_overwrite {x y z start : Nat} {part : List Rgb565} (hx : x < stride)
    (hrange : start + part.length ≤ stride)
    (hfits : z * stride + start + part.length ≤ pixels.length) :
    pixelAt stride (overwrite pixels (z * stride + start) part) (x, y) =
      if y = z ∧ start ≤ x ∧ x < start + part.length then part.getD (x - start) 0
      else pixelAt stride pixels (x, y) := by
  have hin := row_range (y := y) (z := z) hx hrange
  unfold pixelAt
  simp only [List.getD_eq_getElem?_getD]
  rw [Base.getElem?_overwrite hfits]
  by_cases hmem : y = z ∧ start ≤ x ∧ x < start + part.length
  · rw [if_pos hmem, if_pos (hin.2 hmem)]
    obtain ⟨rfl, hle, hlt⟩ := hmem
    have hindex : y * stride + x - (y * stride + start) = x - start := by omega
    rw [hindex]
  · rw [if_neg hmem, if_neg fun h => hmem (hin.1 h)]

/-- A run of pixels written into one row. -/
theorem writesRow_overwrite {source destination start length : Nat}
    {part : List Rgb565 → List Rgb565} (value : (Nat → Rgb565) → Nat → Rgb565)
    (hrange : start + length ≤ stride) (hrow : (destination + 1) * stride ≤ size)
    (hlength : ∀ pixels, pixels.length = size → (part pixels).length = length)
    (hvalue : ∀ pixels, pixels.length = size → ∀ i < length,
      (part pixels)[i]? = some (value (rowOf stride pixels source) i)) :
    WritesRow stride size source destination
      (fun source row x =>
        if start ≤ x ∧ x < start + length then value source (x - start) else row x)
      fun pixels => overwrite pixels (destination * stride + start) (part pixels) := by
  rw [Nat.succ_mul] at hrow
  have hfits : ∀ pixels, pixels.length = size →
      destination * stride + start + (part pixels).length ≤ pixels.length := by
    intro pixels hsize
    rw [hlength pixels hsize, hsize]
    omega
  have hat : ∀ pixels, pixels.length = size → ∀ x y, x < stride →
      pixelAt stride (overwrite pixels (destination * stride + start) (part pixels)) (x, y) =
        if y = destination ∧ start ≤ x ∧ x < start + length then
          value (rowOf stride pixels source) (x - start)
        else pixelAt stride pixels (x, y) := by
    intro pixels hsize x y hx
    have hlen := hlength pixels hsize
    rw [pixelAt_overwrite hx (by rw [hlen]; exact hrange) (hfits pixels hsize), hlen]
    by_cases hmem : y = destination ∧ start ≤ x ∧ x < start + length
    · rw [if_pos hmem, if_pos hmem, List.getD_eq_getElem?_getD,
        hvalue pixels hsize _ (by omega), Option.getD_some]
    · rw [if_neg hmem, if_neg hmem]
  refine ⟨fun pixels hsize => ?_, fun pixels hsize => ?_, fun pixels hsize y hy => ?_⟩
  · rw [length_overwrite (hfits pixels hsize), hsize]
  · funext x
    unfold rowOf
    by_cases hx : x < stride
    · rw [if_pos hx, hat pixels hsize x destination hx]
      by_cases hmem : start ≤ x ∧ x < start + length
      · rw [if_pos ⟨rfl, hmem⟩, if_pos hmem]
        rfl
      · rw [if_neg fun h => hmem h.2, if_neg hmem, if_pos hx]
    · rw [if_neg hx, if_neg (by omega), if_neg hx]
  · funext x
    unfold rowOf
    by_cases hx : x < stride
    · rw [if_pos hx, if_pos hx, hat pixels hsize x y hx, if_neg fun h => hy h.1]
    · rw [if_neg hx, if_neg hx]

/-- `length` pixels copied from column `start` of one row to column `target` of another. -/
theorem writesRow_copyWithin (source destination start target length : Nat)
    (hstart : start + length ≤ stride) (htarget : target + length ≤ stride)
    (hsource : (source + 1) * stride ≤ size) (hdestination : (destination + 1) * stride ≤ size) :
    WritesRow stride size source destination
      (fun source row x =>
        if target ≤ x ∧ x < target + length then source (start + (x - target)) else row x)
      fun pixels =>
        copyWithin pixels (source * stride + start) length (destination * stride + target) := by
  rw [Nat.succ_mul] at hsource
  refine writesRow_overwrite (fun row i => row (start + i)) htarget hdestination
    (fun pixels hsize => ?_) fun pixels hsize i hi => ?_
  · rw [List.length_take, List.length_drop]
    omega
  · have hx : start + i < stride := by omega
    rw [List.getElem?_take_of_lt hi, List.getElem?_drop, rowOf_of_lt _ hx]
    unfold pixelAt
    dsimp only
    have hlt : source * stride + start + i < pixels.length := by omega
    rw [List.getD_eq_getElem?_getD, ← Nat.add_assoc, List.getElem?_eq_getElem hlt,
      Option.getD_some]

theorem writesRow_fillRange (source destination start length : Nat) (fill : Rgb565)
    (hstart : start + length ≤ stride) (hdestination : (destination + 1) * stride ≤ size) :
    WritesRow stride size source destination
      (fun _ row x => if start ≤ x ∧ x < start + length then fill else row x)
      fun pixels => fillRange pixels (destination * stride + start) length fill := by
  refine writesRow_overwrite (fun _ _ => fill) hstart hdestination
    (fun pixels _ => List.length_replicate) fun pixels _ i hi => ?_
  rw [List.getElem?_replicate, if_pos hi]

end Rows

/-! ## 3. A shift moves pixels -/

/-- The pixel `q` is moved to `p`. -/
structure Moves (dx dy : Int) (q p : Pixel) : Prop where
  column : (p.1 : Int) = q.1 + dx
  row : (p.2 : Int) = q.2 + dy

/-- Inside the rectangle every pixel that stays there has moved. -/
def Shifted (dx dy : Int) (rect : DirtyRect) (old shifted : Image) : Prop :=
  ∀ p q, Moves dx dy q p → rect.Mem p → rect.Mem q → shifted p = old q

section Shift

variable {stride height : Nat} {rect : DirtyRect} {dx dy : Int} {fill : Rgb565}
  {pixels shifted : List Rgb565}

/-- The rows of the rectangle are rows of the buffer. -/
structure InBuffer (stride size : Nat) (rect : DirtyRect) : Prop where
  columns : rect.x0 < rect.x1 ∧ rect.x1 ≤ stride
  rows : ∀ y, y < rect.y1 → (y + 1) * stride ≤ size

/-- What a horizontal shift makes of a row. -/
def shiftedRow (rect : DirtyRect) (dx : Int) (fill : Rgb565) (row : Nat → Rgb565) (x : Nat) :
    Rgb565 :=
  if rect.x0 ≤ x ∧ x < rect.x1 then
    if (rect.x0 : Int) ≤ x - dx ∧ x - dx < rect.x1 then row (x - dx : Int).toNat else fill
  else row x

theorem writesRow_shiftRow (h : InBuffer stride pixels.length rect)
    (hsmall : dx.natAbs < rect.width) {y : Nat} (hy : y < rect.y1) :
    WritesRow stride pixels.length y y (fun row _ => shiftedRow rect dx fill row)
      fun pixels => shiftRow stride rect dx fill pixels y := by
  have hrow := h.rows y hy
  have hcolumns := h.columns
  have hwidth : rect.width = rect.x1 - rect.x0 := rfl
  unfold shiftRow
  by_cases hpos : 0 < dx
  · have hcopy := writesRow_copyWithin y y rect.x0 (rect.x0 + dx.natAbs) (rect.width - dx.natAbs)
      (show _ ≤ stride by omega) (by omega) hrow hrow
    have hfill := writesRow_fillRange y y rect.x0 dx.natAbs fill (show _ ≤ stride by omega) hrow
    have hboth := hcopy.comp hfill
    simp only [if_pos hpos, Nat.add_assoc] at hboth ⊢
    refine ⟨hboth.length, fun pixels hsize => ?_, hboth.others⟩
    rw [hboth.written pixels hsize]
    funext x
    unfold shiftedRow
    split_ifs <;> first | omega | rfl | (congr 1; omega)
  · have hcopy := writesRow_copyWithin y y (rect.x0 + dx.natAbs) rect.x0 (rect.width - dx.natAbs)
      (show _ ≤ stride by omega) (by omega) hrow hrow
    have hfill := writesRow_fillRange y y (rect.x0 + (rect.width - dx.natAbs)) dx.natAbs fill
      (show _ ≤ stride by omega) hrow
    have hboth := hcopy.comp hfill
    simp only [if_neg hpos, Nat.add_assoc] at hboth ⊢
    refine ⟨hboth.length, fun pixels hsize => ?_, hboth.others⟩
    rw [hboth.written pixels hsize]
    funext x
    unfold shiftedRow
    split_ifs <;> first | omega | rfl | (congr 1; omega)

/-- Rows that are read and written in place. -/
theorem range'_places (first count : Nat) :
    (List.range' first count).Pairwise fun i j => id i ≠ id j ∧ id i ≠ id j :=
  (List.pairwise_lt_range').imp fun hlt => ⟨Nat.ne_of_lt hlt, Nat.ne_of_lt hlt⟩

/-- A horizontal shift. -/
theorem rowOf_shiftRows (h : InBuffer stride pixels.length rect)
    (hsmall : dx.natAbs < rect.width) (y : Nat) :
    rowOf stride ((List.range' rect.y0 (rect.y1 - rect.y0)).foldl (shiftRow stride rect dx fill)
        pixels) y =
      if rect.y0 ≤ y ∧ y < rect.y1 then shiftedRow rect dx fill (rowOf stride pixels y)
      else rowOf stride pixels y := by
  obtain ⟨-, hwritten, hothers⟩ := writesRow_foldl id id
    (fun row _ => shiftedRow rect dx fill row) (List.range' rect.y0 (rect.y1 - rect.y0))
    (fun i hi => writesRow_shiftRow h hsmall (show i < rect.y1 by
      rw [List.mem_range'_1] at hi
      omega))
    (range'_places _ _) (rfl : pixels.length = pixels.length)
  by_cases hy : rect.y0 ≤ y ∧ y < rect.y1
  · rw [if_pos hy]
    exact hwritten y (List.mem_range'_1.2 (by omega))
  · rw [if_neg hy]
    refine hothers y fun i hi heq => ?_
    rw [List.mem_range'_1, ← show y = i from heq] at hi
    omega

/-- The rows of a vertical shift, copied and then filled: `source` of a row that is not filled. -/
theorem rowOf_shiftColumns (h : InBuffer stride pixels.length rect) (fill : Rgb565)
    (source place : Nat → Nat) (rows : List Nat) (first count : Nat)
    (hrows : rows.Pairwise fun i j => place i ≠ source j ∧ place i ≠ place j)
    (hin : ∀ i ∈ rows, source i < rect.y1 ∧ place i < rect.y1) (hfill : first + count ≤ rect.y1)
    {op : List Rgb565 → Nat → List Rgb565}
    (hop : ∀ pixels, ∀ i ∈ rows, op pixels i = copyWithin pixels (source i * stride + rect.x0)
      rect.width (place i * stride + rect.x0)) :
    let shifted := (List.range' first count).foldl (fun pixels y =>
      fillRange pixels (y * stride + rect.x0) rect.width fill) (rows.foldl op pixels)
    (∀ i ∈ rows, (place i < first ∨ first + count ≤ place i) →
      ∀ x, rowOf stride shifted (place i) x =
        if rect.x0 ≤ x ∧ x < rect.x1 then rowOf stride pixels (source i) x
        else rowOf stride pixels (place i) x) ∧
    ∀ y x, ((∀ i ∈ rows, y ≠ place i) ∧ (y < first ∨ first + count ≤ y)) ∨
        ¬ (rect.x0 ≤ x ∧ x < rect.x1) →
      rowOf stride shifted y x = rowOf stride pixels y x := by
  have hcolumns := h.columns
  have hend : rect.x0 + rect.width = rect.x1 := by
    unfold DirtyRect.width
    omega
  have hcopy : ∀ i ∈ rows, WritesRow stride pixels.length (source i) (place i)
      (fun source row x => if rect.x0 ≤ x ∧ x < rect.x0 + rect.width then
        source (rect.x0 + (x - rect.x0)) else row x) fun pixels => op pixels i := by
    intro i hi
    simp only [hop _ i hi]
    exact writesRow_copyWithin _ _ _ _ _ (by omega) (by omega) (h.rows _ (hin i hi).1)
      (h.rows _ (hin i hi).2)
  have hfill : ∀ i ∈ List.range' first count, WritesRow stride pixels.length (id i) (id i)
      (fun _ row x => if rect.x0 ≤ x ∧ x < rect.x0 + rect.width then fill else row x)
      fun pixels => fillRange pixels (i * stride + rect.x0) rect.width fill := by
    intro i hi
    rw [List.mem_range'_1] at hi
    exact writesRow_fillRange _ _ _ _ fill (by omega) (h.rows i (by omega))
  obtain ⟨hlength, hcopied, hkept⟩ := writesRow_foldl source place _ rows hcopy hrows
    (rfl : pixels.length = pixels.length)
  obtain ⟨-, hfilled, hrest⟩ := writesRow_foldl id id _ (List.range' first count) hfill
    (range'_places _ _) hlength
  have hout : ∀ y, (y < first ∨ first + count ≤ y) → ∀ i ∈ List.range' first count, y ≠ id i := by
    intro y hy i hi heq
    rw [List.mem_range'_1, ← show y = i from heq] at hi
    omega
  dsimp only
  refine ⟨fun i hi hplace x => ?_, fun y x hcase => ?_⟩
  · rw [hrest _ (hout _ hplace), hcopied i hi, hend]
    dsimp only
    by_cases hx : rect.x0 ≤ x ∧ x < rect.x1
    · rw [if_pos hx, if_pos hx, Nat.add_sub_cancel' hx.1]
    · rw [if_neg hx, if_neg hx]
  · -- a column outside the rectangle is kept by every write of its row
    have hcopy : ((∀ i ∈ rows, y ≠ place i) ∧ (y < first ∨ first + count ≤ y)) ∨
        ¬ (rect.x0 ≤ x ∧ x < rect.x1) →
        rowOf stride (rows.foldl op pixels) y x = rowOf stride pixels y x := by
      intro hcase
      by_cases hy : ∃ i ∈ rows, y = place i
      · obtain ⟨i, hi, rfl⟩ := hy
        have hx : ¬ (rect.x0 ≤ x ∧ x < rect.x1) := by
          rcases hcase with ⟨hne, -⟩ | hx
          · exact absurd rfl (hne i hi)
          · exact hx
        rw [hcopied i hi, hend]
        exact if_neg hx
      · rw [hkept y fun i hi heq => hy ⟨i, hi, heq⟩]
    rw [← hcopy hcase]
    by_cases hy : first ≤ y ∧ y < first + count
    · have hx : ¬ (rect.x0 ≤ x ∧ x < rect.x1) := by
        rcases hcase with ⟨-, hy'⟩ | hx
        · omega
        · exact hx
      have hrow := hfilled y (List.mem_range'_1.2 hy)
      rw [hend] at hrow
      rw [show rowOf stride _ y = _ from hrow]
      exact if_neg hx
    · rw [hrest y (hout y (by omega))]

/-- A shift that is not refused. -/
theorem inBuffer_of_accepted (hlen : pixels.length < USIZE_MAX)
    (h : ¬ (rect.x1 ≤ rect.x0 ∨ rect.y1 ≤ rect.y0 ∨ stride < rect.x1 ∨ height < rect.y1 ∨
      pixels.length < min USIZE_MAX (stride * height) ∨ (dx ≠ 0 ∧ dy ≠ 0))) :
    InBuffer stride pixels.length rect := by
  refine ⟨⟨by omega, by omega⟩, fun y hy => ?_⟩
  have hrows := Nat.mul_le_mul_right stride (show y + 1 ≤ height by omega)
  rw [Nat.mul_comm height] at hrows
  omega

theorem shifted_horizontal (h : InBuffer stride pixels.length rect) (hdy : dy = 0)
    (hsmall : dx.natAbs < rect.width) :
    Shifted dx dy rect (pixelAt stride pixels) (pixelAt stride
      ((List.range' rect.y0 (rect.y1 - rect.y0)).foldl (shiftRow stride rect dx fill) pixels)) := by
  have hcolumns := h.columns
  intro p q hmoves hp hq
  obtain ⟨hcolumn, hrow⟩ := hmoves
  unfold DirtyRect.Mem at hp hq
  have hsame : q.2 = p.2 := by omega
  rw [← rowOf_of_lt p.2 (by omega : p.1 < stride), rowOf_shiftRows h hsmall, if_pos (by omega)]
  unfold shiftedRow
  rw [if_pos (by omega), if_pos (by omega), show (p.1 - dx : Int).toNat = q.1 by omega, ← hsame,
    rowOf_of_lt q.2 (by omega)]

/-- What a vertical shift copies is in its place. -/
theorem shifted_vertical (h : InBuffer stride pixels.length rect) (hdx : dx = 0)
    {source place : Nat → Nat} {rows : List Nat} {first count : Nat}
    (hmoved : ∀ i ∈ rows, (place i < first ∨ first + count ≤ place i) → ∀ x,
      rowOf stride shifted (place i) x = if rect.x0 ≤ x ∧ x < rect.x1 then
        rowOf stride pixels (source i) x else rowOf stride pixels (place i) x)
    (hall : ∀ y z : Nat, (y : Int) = z + dy → rect.y0 ≤ y → y < rect.y1 → rect.y0 ≤ z →
      z < rect.y1 → ∃ i ∈ rows, place i = y ∧ source i = z ∧ (y < first ∨ first + count ≤ y)) :
    Shifted dx dy rect (pixelAt stride pixels) (pixelAt stride shifted) := by
  have hcolumns := h.columns
  intro p q hmoves hp hq
  obtain ⟨hcolumn, hrow⟩ := hmoves
  unfold DirtyRect.Mem at hp hq
  obtain ⟨i, hi, hplace, hsource, hout⟩ := hall p.2 q.2 hrow (by omega) (by omega) (by omega)
    (by omega)
  have hsame : q.1 = p.1 := by omega
  rw [← rowOf_of_lt p.2 (by omega : p.1 < stride), ← hplace,
    hmoved i hi (by rw [hplace]; exact hout), if_pos (by omega), hsource, ← hsame,
    rowOf_of_lt q.2 (by omega)]

/-- Outside the rectangle: another row, or another column. -/
theorem outside_kept
    (h : ∀ y x, (¬ (rect.y0 ≤ y ∧ y < rect.y1)) ∨ ¬ (rect.x0 ≤ x ∧ x < rect.x1) →
      rowOf stride shifted y x = rowOf stride pixels y x) :
    ∀ p, p.1 < stride → ¬ rect.Mem p → pixelAt stride shifted p = pixelAt stride pixels p := by
  intro p hp hout
  have := h p.2 p.1 (by unfold DirtyRect.Mem at hout; omega)
  rwa [rowOf_of_lt _ hp, rowOf_of_lt _ hp] at this

end Shift

/-- **A shift that is not refused moves the pixels that stay in the rectangle; a refused one leaves
    every pixel alone.** -/
theorem shiftPhysicalRect_spec {pixels : List Rgb565} {rect : DirtyRect} (stride height : Nat)
    (dx dy : Int) (fill : Rgb565) (hlen : pixels.length < USIZE_MAX) (hrect : rect.y1 ≤ USIZE_MAX) :
    let result := shiftPhysicalRect pixels stride height rect dx dy fill
    (result.1 = true → Shifted dx dy rect (pixelAt stride pixels) (pixelAt stride result.2) ∧
      ∀ p, p.1 < stride → ¬ rect.Mem p → pixelAt stride result.2 p = pixelAt stride pixels p) ∧
    (result.1 = false → result.2 = pixels) := by
  dsimp only
  unfold shiftPhysicalRect
  by_cases hrefused : rect.x1 ≤ rect.x0 ∨ rect.y1 ≤ rect.y0 ∨ stride < rect.x1 ∨
      height < rect.y1 ∨ pixels.length < min USIZE_MAX (stride * height) ∨ (dx ≠ 0 ∧ dy ≠ 0)
  · rw [if_pos hrefused]
    exact ⟨fun h => absurd h (by simp), fun _ => rfl⟩
  have hin := inBuffer_of_accepted hlen hrefused
  have hheight : rect.rows = rect.y1 - rect.y0 :=
    Nat.mod_eq_of_lt (by unfold USIZE_MAX at hrect; omega)
  rw [if_neg hrefused]
  dsimp only
  by_cases hdx : dx ≠ 0
  · rw [if_pos hdx]
    by_cases hbig : rect.width ≤ dx.natAbs
    · rw [if_pos hbig]
      exact ⟨fun h => absurd h (by simp), fun _ => rfl⟩
    · rw [if_neg hbig]
      refine ⟨fun _ => ⟨shifted_horizontal hin (by omega) (by omega),
        outside_kept fun y x hout => ?_⟩, fun h => absurd h (by simp)⟩
      rw [rowOf_shiftRows hin (by omega)]
      by_cases hy : rect.y0 ≤ y ∧ y < rect.y1
      · rw [if_pos hy]
        exact if_neg (by omega)
      · rw [if_neg hy]
  · rw [if_neg hdx]
    by_cases hdy : dy = 0
    · rw [if_pos hdy]
      refine ⟨fun _ => ⟨fun p q hmoves _ _ => ?_, fun _ _ _ => rfl⟩, fun h => absurd h (by simp)⟩
      have hcolumn := hmoves.column
      have hrow := hmoves.row
      rw [show p = q from Prod.ext (by omega) (by omega)]
    · rw [if_neg hdy]
      by_cases hbig : rect.rows ≤ dy.natAbs
      · rw [if_pos hbig]
        exact ⟨fun h => absurd h (by simp), fun _ => rfl⟩
      rw [if_neg hbig]
      rw [hheight] at hbig ⊢
      by_cases hpos : 0 < dy
      · rw [if_pos hpos]
        refine ⟨fun _ => ?_, fun h => absurd h (by simp)⟩
        obtain ⟨hmoved, hkept⟩ := rowOf_shiftColumns hin fill
          (fun i => rect.y0 + i) (fun i => rect.y0 + i + dy.natAbs)
          (List.range (rect.y1 - rect.y0 - dy.natAbs)).reverse rect.y0 dy.natAbs
          (List.pairwise_reverse.2 (List.pairwise_lt_range.imp fun hlt => ⟨by omega, by omega⟩))
          (fun i hi => by rw [List.mem_reverse, List.mem_range] at hi; omega) (by omega)
          (fun _ _ _ => rfl)
        refine ⟨shifted_vertical hin (by omega) hmoved fun y z hyz hy0 hy1 hz0 hz1 => ?_,
          outside_kept fun y x hout => hkept y x (hout.imp_left fun hy => ⟨fun i hi => ?_, ?_⟩)⟩
        · refine ⟨z - rect.y0, ?_, by omega, by omega, by omega⟩
          rw [List.mem_reverse, List.mem_range]
          omega
        · rw [List.mem_reverse, List.mem_range] at hi
          omega
        · omega
      · rw [if_neg hpos]
        refine ⟨fun _ => ?_, fun h => absurd h (by simp)⟩
        obtain ⟨hmoved, hkept⟩ := rowOf_shiftColumns hin fill
          (fun i => rect.y0 + i + dy.natAbs) (fun i => rect.y0 + i)
          (List.range (rect.y1 - rect.y0 - dy.natAbs)) (rect.y1 - dy.natAbs) dy.natAbs
          (List.pairwise_lt_range.imp fun hlt => ⟨by omega, by omega⟩)
          (fun i hi => by rw [List.mem_range] at hi; omega) (by omega)
          (fun _ _ _ => rfl)
        refine ⟨shifted_vertical hin (by omega) hmoved fun y z hyz hy0 hy1 hz0 hz1 => ?_,
          outside_kept fun y x hout => hkept y x (hout.imp_left fun hy => ⟨fun i hi => ?_, ?_⟩)⟩
        · refine ⟨y - rect.y0, ?_, by omega, by omega, by omega⟩
          rw [List.mem_range]
          omega
        · rw [List.mem_range] at hi
          omega
        · omega

/-! ## 4. A scroll is a shift and the write set -/

/-- The new layer is the old one moved, but for what the repair rectangle covers or covered. -/
def Scrolled (dx dy : Int) (rect : DirtyRect) (repair : Option DirtyRect) (old new : Image) :
    Prop :=
  ∀ p q, Moves dx dy q p → rect.Mem p → rect.Mem q →
    (∀ r, repair = some r → ¬ r.Mem p ∧ ¬ r.Mem q) → new p = old q

section Scroll

variable {dx dy : Int} {rect : DirtyRect} {repair : Option DirtyRect} {p q : Pixel}

theorem not_mem_uncoveredColumns (hp : rect.Mem p)
    (h : ∀ r ∈ (uncoveredColumns dx rect).toList, ¬ r.Mem p) :
    (rect.x0 : Int) ≤ p.1 - dx ∧ (p.1 - dx : Int) < rect.x1 := by
  unfold uncoveredColumns at h
  unfold DirtyRect.Mem at hp h
  split_ifs at h with hpos hneg
  · have := h _ (Option.mem_toList.2 rfl)
    dsimp only at this
    omega
  · have := h _ (Option.mem_toList.2 rfl)
    dsimp only at this
    omega
  · omega

theorem not_mem_uncoveredRows (hp : rect.Mem p)
    (h : ∀ r ∈ (uncoveredRows dy rect).toList, ¬ r.Mem p) :
    (rect.y0 : Int) ≤ p.2 - dy ∧ (p.2 - dy : Int) < rect.y1 := by
  unfold uncoveredRows at h
  unfold DirtyRect.Mem at hp h
  split_ifs at h with hpos hneg
  · have := h _ (Option.mem_toList.2 rfl)
    dsimp only at this
    omega
  · have := h _ (Option.mem_toList.2 rfl)
    dsimp only at this
    omega
  · omega

theorem translate_le {value x y : Nat} {delta : Int} (hle : value ≤ x)
    (hmove : (y : Int) = x + delta) :
    translate value delta ≤ y := by
  unfold translate
  split_ifs <;> omega

theorem lt_translate {value x y : Nat} {delta : Int} (hlt : x < value)
    (hmove : (y : Int) = x + delta) (hmax : y < USIZE_MAX) : y < translate value delta := by
  unfold translate
  split_ifs <;> omega

/-- The saturation cuts nothing off that lies in the layer. -/
theorem mem_translateRectClipped {r : DirtyRect} (hr : r.Mem q) (hmoves : Moves dx dy q p)
    (hp : rect.Mem p) (hx : rect.x1 ≤ USIZE_MAX) (hy : rect.y1 ≤ USIZE_MAX) :
    ∃ t, translateRectClipped r dx dy rect = some t ∧ t.Mem p := by
  unfold DirtyRect.Mem at hr
  have hbounds := hp
  unfold DirtyRect.Mem at hbounds
  have hmoved : DirtyRect.Mem ⟨translate r.x0 dx, translate r.y0 dy, translate r.x1 dx,
      translate r.y1 dy⟩ p :=
    ⟨translate_le hr.1 hmoves.column, lt_translate hr.2.1 hmoves.column (by omega),
      translate_le hr.2.2.1 hmoves.row, lt_translate hr.2.2.2 hmoves.row (by omega)⟩
  obtain ⟨t, ht⟩ := Option.isSome_iff_exists.1
    (DirtyRect.intersection_isSome_iff.2 ⟨p, hmoved, hp⟩)
  exact ⟨t, ht, (DirtyRect.mem_intersection ht p).2 ⟨hmoved, hp⟩⟩

theorem not_mem_repair (hmoves : Moves dx dy q p) (hp : rect.Mem p) (hq : rect.Mem q)
    (hx : rect.x1 ≤ USIZE_MAX) (hy : rect.y1 ≤ USIZE_MAX)
    (h : ∀ r ∈ repairPieces dx dy rect repair, ¬ r.Mem p) :
    ∀ r, repair = some r → ¬ r.Mem p ∧ ¬ r.Mem q := by
  rintro r rfl
  have hclip : ∀ z, r.Mem z → rect.Mem z → ∃ t, r.intersection rect = some t ∧ t.Mem z := by
    intro z hrz hz
    obtain ⟨t, ht⟩ := Option.isSome_iff_exists.1
      (DirtyRect.intersection_isSome_iff.2 ⟨z, hrz, hz⟩)
    exact ⟨t, ht, (DirtyRect.mem_intersection ht z).2 ⟨hrz, hz⟩⟩
  unfold repairPieces at h
  refine ⟨fun hrp => ?_, fun hrq => ?_⟩
  · obtain ⟨t, ht, htp⟩ := hclip p hrp hp
    rw [Option.bind_some, ht] at h
    exact h t List.mem_cons_self htp
  · obtain ⟨t, ht, htq⟩ := hclip q hrq hq
    obtain ⟨t', ht', htp⟩ := mem_translateRectClipped htq hmoves hp hx hy
    rw [Option.bind_some, ht] at h
    dsimp only at h
    rw [ht'] at h
    exact h t' (by simp) htp

/-- What is not written was moved there. -/
theorem copyBase_writeRects (hne : rect.isEmpty = false) (hx : rect.x1 ≤ USIZE_MAX)
    (hy : rect.y1 ≤ USIZE_MAX) {old new shifted : Image} (hnew : Scrolled dx dy rect repair old new)
    (hshifted : Shifted dx dy rect old shifted) (hp : rect.Mem p) :
    copyBase (PhysicalLayerUpdate.scroll dx dy rect repair).writeRects new shifted p = new p := by
  unfold copyBase
  by_cases hcov : (PhysicalLayerUpdate.scroll dx dy rect repair).writeRects.Covers p
  · rw [if_pos hcov]
  rw [if_neg hcov]
  rcases writeRects_spec dx dy repair hne with hall | ⟨-, -, hpieces⟩
  · exact absurd ((hall.covers p).2 ⟨rect, List.mem_singleton_self rect, hp⟩) hcov
  · rw [hpieces.covers] at hcov
    have hnone : ∀ r ∈ (uncoveredColumns dx rect).toList ++ (uncoveredRows dy rect).toList ++
        repairPieces dx dy rect repair, ¬ r.Mem p := fun r hr hrp => hcov ⟨r, hr, hrp⟩
    have hcolumn := not_mem_uncoveredColumns hp fun r hr =>
      hnone r (List.mem_append_left _ (List.mem_append_left _ hr))
    have hrow := not_mem_uncoveredRows hp fun r hr =>
      hnone r (List.mem_append_left _ (List.mem_append_right _ hr))
    have hmoves : Moves dx dy ((p.1 - dx : Int).toNat, (p.2 - dy : Int).toNat) p :=
      ⟨by dsimp only; omega, by dsimp only; omega⟩
    have hq : rect.Mem ((p.1 - dx : Int).toNat, (p.2 - dy : Int).toNat) := by
      unfold DirtyRect.Mem
      dsimp only
      omega
    have hrepair := not_mem_repair hmoves hp hq hx hy fun r hr =>
      hnone r (List.mem_append_right _ hr)
    rw [hshifted p _ hmoves hp hq, hnew p _ hmoves hp hq hrepair]

end Scroll

/-- **The write set of a scroll is sufficient, and its rectangles share no pixel**: over an image
    whose pixels have moved it gives the new layer on the whole layer rectangle, in particular over
    a buffer `shift_physical_rect` has shifted; its rectangles are inside the layer. -/
theorem scroll_write_set (dx dy : Int) (rect : DirtyRect) (repair : Option DirtyRect)
    (hne : rect.isEmpty = false) (hx : rect.x1 ≤ USIZE_MAX) (hy : rect.y1 ≤ USIZE_MAX) :
    let writeRects := (PhysicalLayerUpdate.scroll dx dy rect repair).writeRects
    (∀ old new shifted : Image, Scrolled dx dy rect repair old new →
      Shifted dx dy rect old shifted → ∀ p, rect.Mem p →
        copyBase writeRects new shifted p = new p) ∧
    (∀ (pixels : List Rgb565) (stride height : Nat) (fill : Rgb565), pixels.length < USIZE_MAX →
      ∀ shifted, shiftPhysicalRect pixels stride height rect dx dy fill = (true, shifted) →
      ∀ new, Scrolled dx dy rect repair (pixelAt stride pixels) new →
      ∀ p, rect.Mem p → copyBase writeRects new (pixelAt stride shifted) p = new p) ∧
    writeRects.iter.Pairwise DirtyRect.Apart ∧ ∀ r ∈ writeRects.iter, rect.contains r = true := by
  dsimp only
  have hsufficient : ∀ old new shifted : Image, Scrolled dx dy rect repair old new →
      Shifted dx dy rect old shifted → ∀ p, rect.Mem p →
      copyBase (PhysicalLayerUpdate.scroll dx dy rect repair).writeRects new shifted p = new p :=
    fun old new shifted hnew hshifted p hp => copyBase_writeRects hne hx hy hnew hshifted hp
  refine ⟨hsufficient, fun pixels stride height fill hlen shifted hshift new hnew => ?_, ?_⟩
  · have hspec := (shiftPhysicalRect_spec stride height dx dy fill hlen hy).1
    rw [hshift] at hspec
    exact hsufficient _ new _ hnew (hspec rfl).1
  · rcases writeRects_spec dx dy repair hne with hall | ⟨-, -, hpieces⟩
    · exact ⟨hall.apart, fun r hr => (hall.inside r hr).1⟩
    · exact ⟨hpieces.apart, fun r hr => (hpieces.inside r hr).1⟩

/-- The scroll of `physical_scroll_repairs_shifted_selection_pixels`. -/
theorem scroll_write_set_selection :
    (PhysicalLayerUpdate.scroll (-1) 0 ⟨0, 0, 4, 3⟩ (some ⟨1, 1, 3, 2⟩)).writeRects.iter.Pairwise
      DirtyRect.Apart :=
  (scroll_write_set (-1) 0 ⟨0, 0, 4, 3⟩ (some ⟨1, 1, 3, 2⟩) (by decide) (by decide)
    (by decide)).2.2.1

end MisterMagik.Framebuffer
