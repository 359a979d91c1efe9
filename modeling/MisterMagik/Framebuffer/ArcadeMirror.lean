/-
  File:      MisterMagik/Framebuffer/ArcadeMirror.lean
  Subject:   Copying a published arcade list into a slot, whole or only where it differs from the
             mirror of what the slot holds (`launcher_present/orchestrator.rs`).

  A mirror is a copy in memory of the rectangle of a slot. Coordinates are 32 bits wide, so `rows()`
  does not wrap and is `height` here. What a copy counts is left out; a copy that fails gives
  nothing, whatever it wrote before.

  * `collectRgb565RowSpans_covers` -- every difference lies in a span;
  * `refresh_pixels` -- a refreshed mirror holds the publication;
  * `copyPublishedArcadeWithMirror_eq` -- what was copied is the whole publication, whenever a
    mirror that may be compared with is the slot.
-/
import MisterMagik.Framebuffer.Coherence
import MisterMagik.Base.Bytes

namespace MisterMagik.Framebuffer

open MisterMagik.Base (slice slice_eq_some slice_of_le length_of_slice overwrite length_overwrite
  getElem?_overwrite)

/-! ## 1. The copies -/

/-- `rows()` as a `usize`. -/
def DirtyRect.height (r : DirtyRect) : Nat := r.y1 - r.y0

/-- A pixel of a rectangle that is stored row by row. -/
def denseAt (rect : DirtyRect) (pixels : List Rgb565) : Image := fun p =>
  pixels.getD ((p.2 - rect.y0) * rect.width + (p.1 - rect.x0)) 0

theorem denseAt_backing (b : PhysicalLayerBacking) : denseAt b.rect b.pixels = b.at := rfl

structure PhysicalLayerSlotMirror where
  rect : Option DirtyRect
  pixels : List Rgb565
  /-- The row, its first column and the column after its last. -/
  rowSpans : List (Nat × Nat × Nat)

namespace PhysicalLayerSlotMirror

def default : PhysicalLayerSlotMirror := ⟨none, [], []⟩

def invalidate (m : PhysicalLayerSlotMirror) : PhysicalLayerSlotMirror :=
  { m with
    rect := none
    rowSpans := [] }

@[simp] theorem rect_invalidate (m : PhysicalLayerSlotMirror) : m.invalidate.rect = none := rfl

end PhysicalLayerSlotMirror

/-- From the first difference of a row to its last. -/
def rowSpan (current previous : List Rgb565) (width row : Nat) : Option (Nat × Nat × Nat) :=
  let differs x := current[row * width + x]? != previous[row * width + x]?
  match (List.range width).find? differs, (List.range width).reverse.find? differs with
  | some first, some last => some (row, first, last + 1)
  | _, _ => none

/-- The spans and how many pixels they have. -/
def collectRgb565RowSpans (current previous : List Rgb565) (width : Nat) :
    Option (List (Nat × Nat × Nat) × Nat) :=
  if width = 0 ∨ current.length ≠ previous.length ∨ current.length % width ≠ 0 then none
  else
    let spans := (List.range (current.length / width)).filterMap (rowSpan current previous width)
    some (spans, spans.foldl (fun spanPixels span => spanPixels + (span.2.2 - span.2.1)) 0)

/-- `copy_physical_layer_rect_to_hidden` into a mapping of `width` × `height` pixels: how many rows
    it copied, and the slot. -/
def copyPhysicalLayerRectToHidden (width height : Nat) (view : PhysicalLayerBacking)
    (rect : DirtyRect) (image : Image) : Nat × Image :=
  if view.rect.contains rect = false then (0, image)
  else if rect.isEmpty = true then (rect.height, image)
  else if width < rect.x1 ∨ height < rect.y1 then (0, image)
  else (rect.height, fun p => if rect.Mem p then view.at p else image p)

/-- `copy_published_overlay_rects`: each copy must be complete. -/
def copyPublishedOverlayRects (width height : Nat) (view : PhysicalLayerBacking) :
    List DirtyRect → Image → Option Image
  | [], image => some image
  | rect :: rects, image =>
      let copied := copyPhysicalLayerRectToHidden width height view rect image
      if copied.1 = rect.height then copyPublishedOverlayRects width height view rects copied.2
      else none

/-- `view.row(view.rect(), row)`. -/
def PhysicalLayerBacking.row (view : PhysicalLayerBacking) (row : Nat) : Option (List Rgb565) :=
  if view.rect.height ≤ row then none else slice view.pixels (row * view.rect.width) view.rect.width

/-- `Vec::resize`. -/
def resize (pixels : List Rgb565) (len : Nat) : List Rgb565 :=
  pixels.take len ++ List.replicate (len - pixels.length) 0

/-- The loop of `refresh_physical_layer_mirror` over the rows from one on. -/
def refreshRows (view : PhysicalLayerBacking) : Nat → Nat → List Rgb565 → Option (List Rgb565)
  | _, 0, pixels => some pixels
  | row, count + 1, pixels =>
      match view.row row with
      | none => none
      | some source =>
          refreshRows view (row + 1) count (overwrite pixels (row * view.rect.width) source)

def refreshPhysicalLayerMirror (mirror : PhysicalLayerSlotMirror) (view : PhysicalLayerBacking) :
    Option PhysicalLayerSlotMirror :=
  (refreshRows view 0 view.rect.height
    (resize mirror.pixels (view.rect.width * view.rect.height))).map fun pixels =>
      { mirror with
        rect := some view.rect
        pixels }

/-- The damage of a span. -/
def spanDamage (rect : DirtyRect) (span : Nat × Nat × Nat) : DirtyRect :=
  ⟨rect.x0 + span.2.1, rect.y0 + span.1, rect.x0 + span.2.2, rect.y0 + span.1 + 1⟩

/-- The whole rectangle, and the mirror after it. -/
def copyAllAndRefresh (width height : Nat) (view : PhysicalLayerBacking) (rect : DirtyRect)
    (mirror : PhysicalLayerSlotMirror) (image : Image) : Option (Image × PhysicalLayerSlotMirror) :=
  match copyPublishedOverlayRects width height view [rect] image,
      refreshPhysicalLayerMirror mirror view with
  | some image, some mirror => some (image, mirror)
  | _, _ => none

def copyPublishedArcadeWithMirror (width height : Nat) (publication : PhysicalLayerPublication)
    (mirror : PhysicalLayerSlotMirror) (diffSafe : Bool) (update : PhysicalLayerUpdate)
    (image : Image) : Option (Image × PhysicalLayerSlotMirror) :=
  let view := publication.backing
  let rect := update.dirtyRect
  if view.rect ≠ rect then none
  else if update.isFull = false then
    -- a scroll changes most pixels: neither compared nor mirrored
    (copyPublishedOverlayRects width height view [rect] image).map (·, mirror.invalidate)
  else
    let densePixels := rect.width * rect.height
    if diffSafe = true ∧ mirror.rect = some rect ∧ mirror.pixels.length = densePixels then
      match collectRgb565RowSpans view.pixels mirror.pixels rect.width with
      | none => none
      | some (spans, spanPixels) =>
          let mirror := { mirror with rowSpans := spans }
          if spanPixels * 2 < densePixels then
            match copyPublishedOverlayRects width height view (spans.map (spanDamage rect)) image,
                refreshPhysicalLayerMirror mirror view with
            | some image, some mirror => some (image, mirror)
            | _, _ => none
          else copyAllAndRefresh width height view rect mirror image
    else copyAllAndRefresh width height view rect mirror image

/-! ## 2. What the copies write -/

section Copies

variable {width height : Nat} {view : PhysicalLayerBacking} {image image' : Image} {p : Pixel}

theorem copyRectToHidden_complete {rect : DirtyRect}
    (h : (copyPhysicalLayerRectToHidden width height view rect image).1 = rect.height) :
    (copyPhysicalLayerRectToHidden width height view rect image).2 p =
        (if rect.Mem p then view.at p else image p) ∧
      (rect.Mem p → view.rect.Mem p) := by
  unfold copyPhysicalLayerRectToHidden at h ⊢
  by_cases hcontains : view.rect.contains rect = false
  · rw [if_pos hcontains] at h ⊢
    have hno : ¬ rect.Mem p := by
      intro hp
      have hrows : rect.height = 0 := h.symm
      unfold DirtyRect.height at hrows
      unfold DirtyRect.Mem at hp
      omega
    exact ⟨(if_neg hno).symm, fun hp => absurd hp hno⟩
  · rw [if_neg hcontains] at h ⊢
    have hinside : rect.Mem p → view.rect.Mem p := fun hp => hp.mono (by simpa using hcontains)
    by_cases hempty : rect.isEmpty = true
    · rw [if_pos hempty]
      exact ⟨(if_neg (DirtyRect.not_mem_of_isEmpty hempty p)).symm, hinside⟩
    · rw [if_neg hempty] at h ⊢
      by_cases houtside : width < rect.x1 ∨ height < rect.y1
      · rw [if_pos houtside] at h
        have hpos := DirtyRect.isEmpty_eq_false_iff.1 (by simpa using hempty)
        have hrows : rect.height = 0 := h.symm
        unfold DirtyRect.height at hrows
        omega
      · rw [if_neg houtside]
        exact ⟨rfl, hinside⟩

/-- A complete copy of some rectangles is the publication inside them. -/
theorem copyPublishedOverlayRects_at {rects : List DirtyRect}
    (h : copyPublishedOverlayRects width height view rects image = some image') :
    image' p = (if ∃ rect ∈ rects, rect.Mem p then view.at p else image p) ∧
      ∀ rect ∈ rects, rect.Mem p → view.rect.Mem p := by
  induction rects generalizing image with
  | nil =>
      cases h
      exact ⟨by simp, by simp⟩
  | cons rect rects ih =>
      unfold copyPublishedOverlayRects at h
      dsimp only at h
      split at h
      · rename_i hcopied
        obtain ⟨hat, hinside⟩ := copyRectToHidden_complete (p := p) hcopied
        obtain ⟨hrest, hall⟩ := ih h
        refine ⟨?_, fun r hr => ?_⟩
        · rw [hrest, hat]
          by_cases hlater : ∃ r ∈ rects, r.Mem p
          · obtain ⟨r, hr, hrp⟩ := hlater
            rw [if_pos ⟨r, hr, hrp⟩, if_pos ⟨r, List.mem_cons_of_mem _ hr, hrp⟩]
          · rw [if_neg hlater]
            by_cases hfirst : rect.Mem p
            · rw [if_pos hfirst, if_pos ⟨rect, List.mem_cons_self, hfirst⟩]
            · rw [if_neg hfirst, if_neg]
              rintro ⟨r, hr, hrp⟩
              obtain rfl | hr := List.mem_cons.1 hr
              · exact hfirst hrp
              · exact hlater ⟨r, hr, hrp⟩
        · obtain rfl | hr := List.mem_cons.1 hr
          · exact hinside
          · exact hall r hr
      · cases h

end Copies

/-! ## 3. Spans -/

/-- The first hit in a list that is in order. -/
theorem eq_or_rel_of_find {α : Type} {l : List α} {R : α → α → Prop} {f : α → Bool} {a b : α}
    (hl : l.Pairwise R) (h : l.find? f = some b) (ha : a ∈ l) (hf : f a = true) :
    a = b ∨ R b a := by
  obtain ⟨-, front, back, rfl, hfront⟩ := List.find?_eq_some_iff_append.1 h
  obtain hmem | hmem := List.mem_append.1 ha
  · have hno := hfront a hmem
    rw [hf] at hno
    cases hno
  · obtain hab | hback := List.mem_cons.1 hmem
    · exact .inl hab
    · exact .inr (List.rel_of_pairwise_cons (List.pairwise_append.1 hl).2.1 hback)

theorem rowSpan_of_differs {current previous : List Rgb565} {width row x : Nat} (hx : x < width)
    (h : current[row * width + x]? ≠ previous[row * width + x]?) :
    ∃ first last, rowSpan current previous width row = some (row, first, last) ∧ first ≤ x ∧
      x < last := by
  have hmem : x ∈ List.range width := List.mem_range.2 hx
  have hdiffers : (current[row * width + x]? != previous[row * width + x]?) = true := bne_iff_ne.2 h
  unfold rowSpan
  dsimp only
  cases hfirst : (List.range width).find? fun x =>
      current[row * width + x]? != previous[row * width + x]? with
  | none => exact absurd hdiffers (List.find?_eq_none.1 hfirst x hmem)
  | some first =>
      cases hlast : (List.range width).reverse.find? fun x =>
          current[row * width + x]? != previous[row * width + x]? with
      | none => exact absurd hdiffers (List.find?_eq_none.1 hlast x (List.mem_reverse.2 hmem))
      | some last =>
          have hle := eq_or_rel_of_find List.pairwise_lt_range hfirst hmem hdiffers
          have hge := eq_or_rel_of_find (List.pairwise_reverse.2 List.pairwise_lt_range) hlast
            (List.mem_reverse.2 hmem) hdiffers
          exact ⟨first, last + 1, rfl, by omega, by omega⟩

/-- **Every difference lies in a span.** -/
theorem collectRgb565RowSpans_covers {current previous : List Rgb565} {width spanPixels : Nat}
    {spans : List (Nat × Nat × Nat)}
    (h : collectRgb565RowSpans current previous width = some (spans, spanPixels)) {row x : Nat}
    (hx : x < width) (hrow : row * width + x < current.length)
    (hdiffers : current[row * width + x]? ≠ previous[row * width + x]?) :
    ∃ first last, (row, first, last) ∈ spans ∧ first ≤ x ∧ x < last := by
  unfold collectRgb565RowSpans at h
  split at h
  · cases h
  · rename_i hgeometry
    cases h
    obtain ⟨first, last, hspan, hfirst, hlast⟩ := rowSpan_of_differs hx hdiffers
    refine ⟨first, last, List.mem_filterMap.2 ⟨row, List.mem_range.2 ?_, hspan⟩, hfirst, hlast⟩
    have hmod : current.length % width = 0 := by
      by_contra hmod
      exact hgeometry (.inr (.inr hmod))
    have hrows := Nat.div_add_mod current.length width
    rw [hmod, Nat.add_zero, Nat.mul_comm] at hrows
    by_contra hbelow
    have hle := Nat.mul_le_mul_right width (Nat.not_lt.1 hbelow)
    omega

/-! ## 4. The mirror after a refresh -/

theorem length_resize (pixels : List Rgb565) (len : Nat) : (resize pixels len).length = len := by
  unfold resize
  rw [List.length_append, List.length_take, List.length_replicate]
  omega

section Refresh

variable {view : PhysicalLayerBacking} {pixels out : List Rgb565} {row count : Nat}

theorem refreshRows_at (h : refreshRows view row count pixels = some out)
    (hlength : pixels.length = view.pixels.length) (hrows : row + count = view.rect.height)
    (i : Nat) :
    out[i]? = if row * view.rect.width ≤ i then view.pixels[i]? else pixels[i]? := by
  induction count generalizing row pixels with
  | zero =>
      cases h
      split
      · rename_i hi
        have hend : view.pixels.length ≤ i := by
          rw [view.dense, Nat.mul_comm]
          have hrow : row = view.rect.y1 - view.rect.y0 := hrows
          rwa [← hrow]
        rw [List.getElem?_eq_none hend, List.getElem?_eq_none (hlength.trans_le hend)]
      · rfl
  | succ count ih =>
      unfold refreshRows at h
      split at h
      · cases h
      · rename_i source hsource
        unfold PhysicalLayerBacking.row at hsource
        split at hsource
        · cases hsource
        · have hlen := length_of_slice hsource
          obtain ⟨hle, hslice⟩ := slice_eq_some.1 hsource
          have hfits : row * view.rect.width + source.length ≤ pixels.length := by
            rw [hlen, hlength]
            exact hle
          rw [ih h ((length_overwrite hfits).trans hlength) (by omega), Nat.succ_mul,
            getElem?_overwrite hfits, hlen]
          by_cases hbelow : row * view.rect.width + view.rect.width ≤ i
          · rw [if_pos hbelow, if_pos (by omega)]
          · rw [if_neg hbelow]
            by_cases hthis : row * view.rect.width ≤ i
            · rw [if_pos ⟨hthis, by omega⟩, if_pos hthis, ← hslice,
                List.getElem?_take_of_lt (by omega), List.getElem?_drop,
                Nat.add_sub_cancel' hthis]
            · rw [if_neg fun hboth => hthis hboth.1, if_neg hthis]

/-- **A refreshed mirror holds the publication.** -/
theorem refresh_pixels {mirror mirror' : PhysicalLayerSlotMirror}
    (h : refreshPhysicalLayerMirror mirror view = some mirror') :
    mirror'.rect = some view.rect ∧ mirror'.pixels = view.pixels := by
  unfold refreshPhysicalLayerMirror at h
  obtain ⟨out, hout, rfl⟩ := Option.map_eq_some_iff.1 h
  refine ⟨rfl, List.ext_getElem? fun i => ?_⟩
  have hlength : (resize mirror.pixels (view.rect.width * view.rect.height)).length =
      view.pixels.length := by
    rw [length_resize, view.dense]
    rfl
  rw [refreshRows_at hout hlength (Nat.zero_add _), Nat.zero_mul, if_pos (Nat.zero_le i)]

end Refresh

/-! ## 5. The sparse copy is the whole copy -/

section Arcade

variable {width height : Nat} {publication : PhysicalLayerPublication}
  {mirror mirror' : PhysicalLayerSlotMirror} {update : PhysicalLayerUpdate} {diffSafe : Bool}
  {image image' : Image}

/-- A mirror that may be compared with holds what the slot holds. -/
def Mirrors (mirror : PhysicalLayerSlotMirror) (image : Image) : Prop :=
  ∀ rect, mirror.rect = some rect → ∀ p, rect.Mem p → denseAt rect mirror.pixels p = image p

/-- What a copy leaves: the mirror is forgotten or holds the publication. -/
def MirrorAfter (mirror : PhysicalLayerSlotMirror) (view : PhysicalLayerBacking) : Prop :=
  mirror.rect = none ∨ mirror.rect = some view.rect ∧ mirror.pixels = view.pixels

theorem mem_index {rect : DirtyRect} {p : Pixel} (hp : rect.Mem p) :
    p.1 - rect.x0 < rect.width ∧ p.2 - rect.y0 < rect.height ∧
      (p.2 - rect.y0) * rect.width + (p.1 - rect.x0) < rect.width * rect.height := by
  have hx : p.1 - rect.x0 < rect.width := by
    unfold DirtyRect.Mem at hp
    unfold DirtyRect.width
    omega
  have hy : p.2 - rect.y0 < rect.height := by
    unfold DirtyRect.Mem at hp
    unfold DirtyRect.height
    omega
  refine ⟨hx, hy, ?_⟩
  have hrows := Nat.mul_le_mul_right rect.width (Nat.succ_le_of_lt hy)
  rw [Nat.succ_mul, Nat.mul_comm rect.height] at hrows
  omega

theorem copyAll_at {view : PhysicalLayerBacking}
    (h : copyAllAndRefresh width height view view.rect mirror image = some (image', mirror')) :
    image' = (fun p => if view.rect.Mem p then view.at p else image p) ∧
      MirrorAfter mirror' view := by
  unfold copyAllAndRefresh at h
  split at h
  · rename_i copied refreshed hcopied hrefreshed
    cases h
    refine ⟨?_, .inr (refresh_pixels hrefreshed)⟩
    funext p
    rw [(copyPublishedOverlayRects_at hcopied).1]
    simp
  · cases h

/-- Outside the spans the mirror, and so the slot, holds the publication already. -/
theorem copySpans_at {view : PhysicalLayerBacking} {spans : List (Nat × Nat × Nat)}
    {spanPixels : Nat}
    (hrect : mirror.rect = some view.rect) (hmirrors : Mirrors mirror image)
    (hspans : collectRgb565RowSpans view.pixels mirror.pixels view.rect.width =
      some (spans, spanPixels))
    (h : copyPublishedOverlayRects width height view (spans.map (spanDamage view.rect)) image =
      some image') :
    image' = fun p => if view.rect.Mem p then view.at p else image p := by
  funext p
  obtain ⟨hat, hinside⟩ := copyPublishedOverlayRects_at (p := p) h
  rw [hat]
  by_cases hp : view.rect.Mem p
  · rw [if_pos hp]
    split
    · rfl
    · rename_i hout
      obtain ⟨hx, hy, hindex⟩ := mem_index hp
      have hdense : view.pixels.length = view.rect.width * view.rect.height := view.dense
      have hsame : view.pixels[(p.2 - view.rect.y0) * view.rect.width + (p.1 - view.rect.x0)]? =
          mirror.pixels[(p.2 - view.rect.y0) * view.rect.width + (p.1 - view.rect.x0)]? := by
        by_contra hdiffers
        obtain ⟨first, last, hspan, hfirst, hlast⟩ :=
          collectRgb565RowSpans_covers hspans hx (hindex.trans_eq hdense.symm) hdiffers
        refine hout ⟨_, List.mem_map_of_mem hspan, ?_⟩
        unfold DirtyRect.Mem at hp
        unfold DirtyRect.Mem spanDamage
        dsimp only
        omega
      rw [← hmirrors _ hrect p hp, ← denseAt_backing]
      unfold denseAt
      rw [List.getD_eq_getElem?_getD, List.getD_eq_getElem?_getD, hsame]
  · rw [if_neg hp, if_neg]
    rintro ⟨rect, hrect', hrp⟩
    exact hp (hinside rect hrect' hrp)

/-- **What was copied is the whole publication**: the slot holds it all over its rectangle and is as
    it was outside, whenever a mirror that may be compared with held what the slot did. -/
theorem copyPublishedArcadeWithMirror_eq
    (h : copyPublishedArcadeWithMirror width height publication mirror diffSafe update image =
      some (image', mirror'))
    (hmirrors : diffSafe = true → mirror.rect = some update.dirtyRect → Mirrors mirror image) :
    update.dirtyRect = publication.backing.rect ∧
    image' = copyLayer (some update.dirtyRect) (some publication) image ∧
    MirrorAfter mirror' publication.backing := by
  unfold copyPublishedArcadeWithMirror at h
  dsimp only at h
  split at h
  · cases h
  · rename_i hsame
    have hrect : publication.backing.rect = update.dirtyRect := Classical.not_not.1 hsame
    refine ⟨hrect.symm, ?_⟩
    rw [← hrect] at h hmirrors ⊢
    have hcopied : copyLayer (some publication.backing.rect) (some publication) image =
        fun p => if publication.backing.rect.Mem p then publication.backing.at p else image p := rfl
    rw [hcopied]
    split at h
    · obtain ⟨copied, hcopy, heq⟩ := Option.map_eq_some_iff.1 h
      cases heq
      refine ⟨?_, .inl rfl⟩
      funext p
      rw [(copyPublishedOverlayRects_at hcopy).1]
      simp
    · split at h
      · rename_i hvalid
        obtain ⟨hsafe, hmirror, -⟩ := hvalid
        split at h
        · cases h
        · rename_i spans spanPixels hspans
          split at h
          · split at h
            · rename_i copied refreshed hcopy hrefresh
              cases h
              exact ⟨copySpans_at hmirror (hmirrors hsafe hmirror) hspans hcopy,
                .inr (refresh_pixels hrefresh)⟩
            · cases h
          · exact copyAll_at h
      · exact copyAll_at h

end Arcade

end MisterMagik.Framebuffer
