/-
  File:      MisterMagik/Framebuffer/ArcadeCopies.lean
  Subject:   The presenter's sparse arcade copies over any run (`launcher_present/latch.rs`).

  The mirror of a slot says what the slot holds where its arcade list is. Frames put the list there
  or leave it, restores and previews lie elsewhere, and whatever else writes a slot forgets its
  mirror. An arcade list is published in portrait layouts away from a CRT only, where the slots have
  the size of the composition and a rectangle is copied to where it is. A direct frame that could
  not be posted ends its presenter, like every failure the caller sees, and is no step here.

  * `MirrorScene`, `arcadeCopies` -- latch state, slots and mirrors, and what the presenter does;
  * `SlotTracked` -- a mirror that is not forgotten holds the slot where its arcade list is;
  * `sparse_copy_is_whole_copy` -- a frame that redraws the arcade list leaves the publication in
    the slot, all of it.
-/
import MisterMagik.Base.Machine
import MisterMagik.Framebuffer.ArcadeMirror

namespace MisterMagik.Framebuffer

open MisterMagik.Base

/-! ## 1. The presenter -/

structure MirrorScene where
  latch : TwoBufferLatchState
  image : SlotIndex → Image
  /-- `arcade_slot_mirrors`. -/
  mirror : SlotIndex → PhysicalLayerSlotMirror

structure LatchStatusSync where
  activeSlot : Option SlotIndex
  activeSequence : BitVec 16
  pending : Bool
  pendingSequence : BitVec 16
  recoveredNonHiddenActive : Bool
  deriving DecidableEq, Repr

/-- What a status read finds; one that cannot be read or is not supported changes nothing here. -/
inductive StatusRead where
  | sync (sync : LatchStatusSync)
  | hiddenGeometryMismatch
  deriving DecidableEq, Repr

namespace MirrorScene

def invalidateLayerCoherency (s : MirrorScene) : MirrorScene :=
  { s with
    latch := s.latch.invalidateAll
    mirror := fun k => (s.mirror k).invalidate }

def applyLatchStatusSync (s : MirrorScene) (sync : LatchStatusSync) : MirrorScene :=
  let s := if sync.recoveredNonHiddenActive then s.invalidateLayerCoherency else s
  { s with latch := s.latch.syncHardware sync.activeSlot sync.activeSequence sync.pending
             sync.pendingSequence }

def readStatus (s : MirrorScene) : StatusRead → MirrorScene
  | .sync sync => s.applyLatchStatusSync sync
  | .hiddenGeometryMismatch => s.invalidateLayerCoherency

def readStatuses (s : MirrorScene) (reads : List StatusRead) : MirrorScene :=
  reads.foldl readStatus s

/-- A slot was written, and what its mirror says. -/
def written (s : MirrorScene) (latch : TwoBufferLatchState) (k : SlotIndex) (image : Image)
    (mirror : PhysicalLayerSlotMirror) : MirrorScene :=
  { latch
    image := Function.update s.image k image
    mirror := Function.update s.mirror k mirror }

/-- `mark_attempt_failed`, and the mirror of the slot forgotten. -/
def attemptFailed (s : MirrorScene) (k : SlotIndex) : MirrorScene :=
  { s with
    latch := s.latch.markAttemptFailed k
    mirror := Function.update s.mirror k (s.mirror k).invalidate }

end MirrorScene

/-- The preview of `apply_overlays`: of its publication, or of the direct layer when there is
    one. -/
def applyPreview (width height : Nat) (rect : Option DirtyRect) (view : Option PhysicalLayerBacking)
    (image : Image) : Option Image :=
  match rect with
  | none => some image
  | some rect =>
      match view with
      | some view => copyPublishedOverlayRects width height view [rect] image
      | none => if rect.height = 0 then some image else none

/-- The arcade list of `apply_overlays`; a redraw without its publication is refused. -/
def applyArcade (width height : Nat) (plan : LatchPresentPlan)
    (publication : Option PhysicalLayerPublication) (mirror : PhysicalLayerSlotMirror)
    (image : Image) : Option (Image × PhysicalLayerSlotMirror) :=
  match plan.arcadeRedraw with
  | none => some (image, mirror)
  | some update =>
      match publication with
      | some publication => copyPublishedArcadeWithMirror width height publication mirror
          plan.arcadeRedrawDiffSafe update image
      | none => none

def applyOverlays (width height : Nat) (plan : LatchPresentPlan)
    (planned : PerRole (Option PhysicalLayerPublication)) (direct : Option PhysicalLayerBacking)
    (mirror : PhysicalLayerSlotMirror) (image : Image) : Option (Image × PhysicalLayerSlotMirror) :=
  match applyPreview width height plan.previewRedraw ((planned.preview.map (·.backing)).or direct)
      image with
  | some image => applyArcade width height plan planned.arcade mirror image
  | none => none

/-- The arcade list is absent or published, and the preview lies apart from it. -/
structure ArcadePublished (input : LatchFramePlan) : Prop where
  published : ∀ a, input.layers.arcade.desired = some a →
    ∃ publication, input.layers.arcade = .published (some publication)
  apart : ∀ a, input.layers.arcade.desired = some a → ∀ p, a.rect.Mem p →
    (∀ b, input.layers.preview.desired = some b → ¬ b.rect.Mem p) ∧
      ∀ v, input.layers.preview.update = some v → ¬ v.dirtyRect.Mem p

inductive ArcadeStep where
  | readStatus (read : StatusRead)
  /-- `present_cached_full_frame` returns at `plan_next`. -/
  | rejected (input : LatchFramePlan)
  /-- It succeeds; `reads` are the status reads of its post. -/
  | presented (input : LatchFramePlan) (cached : Image) (direct : Option PhysicalLayerBacking)
      (reads : List StatusRead)
  /-- It fails while it copies, composes or posts, and may have written anything into the slot. -/
  | failed (input : LatchFramePlan) (image : Image) (mirror : PhysicalLayerSlotMirror)
      (reads : List StatusRead)
  | directPosted (k : SlotIndex) (image : Image)
  | directDiscarded (k : SlotIndex) (image : Image)
  | invalidateExternalMode

def arcadeCopies (width height : Nat) : Machine MirrorScene ArcadeStep where
  init s := s.latch = .new width height ∧ ∀ k, s.mirror k = .default
  step s step t :=
    match step with
    | .readStatus read => t = s.readStatus read
    | .rejected input => ∃ latch error, s.latch.planNext input = (latch, .error error) ∧
        t = { s with latch }
    | .presented input cached direct reads => ArcadePublished input ∧
        ∃ latch plan image mirror, s.latch.planNext input = (latch, .ok plan) ∧
          applyOverlays width height plan latch.plannedPublications direct
            (s.mirror plan.slotIndex)
            (copyBase plan.restoreRects cached (s.image plan.slotIndex)) = some (image, mirror) ∧
          let posted := (s.written latch plan.slotIndex image mirror).readStatuses reads
          t = { posted with latch := posted.latch.markPostSuccess plan }
    | .failed input image mirror reads =>
        ∃ latch plan, s.latch.planNext input = (latch, .ok plan) ∧
          t = ((s.written latch plan.slotIndex image mirror).readStatuses reads).attemptFailed
            plan.slotIndex
    | .directPosted k image =>
        t = (s.written s.latch k image (s.mirror k)).invalidateLayerCoherency
    | .directDiscarded k image => t = (s.written s.latch k image (s.mirror k)).attemptFailed k
    | .invalidateExternalMode => t = s.invalidateLayerCoherency

/-! ## 2. What a mirror says -/

/-- A mirror that is not forgotten holds the slot where the slot has its arcade list. -/
def SlotTracked (arcade : Option PhysicalLayerState) (mirror : PhysicalLayerSlotMirror)
    (image : Image) : Prop :=
  ∀ a rect, arcade = some a → mirror.rect = some rect →
    rect = a.rect ∧ ∀ p, rect.Mem p → denseAt rect mirror.pixels p = image p

def Tracked (s : MirrorScene) : Prop :=
  ∀ k, SlotTracked (s.latch.slot k).layers.arcade (s.mirror k) (s.image k)

section Slot

variable {arcade : Option PhysicalLayerState} {mirror mirror' : PhysicalLayerSlotMirror}
  {image image' : Image}

theorem slotTracked_forgotten (h : mirror.rect = none) : SlotTracked arcade mirror image := by
  intro a rect _ hrect
  rw [h] at hrect
  cases hrect

variable {width height : Nat} {latch : TwoBufferLatchState} {k : SlotIndex} {input : LatchFramePlan}
  {cached : Image} {view : Option PhysicalLayerBacking}

theorem applyPreview_outside {rect : Option DirtyRect} {p : Pixel}
    (h : applyPreview width height rect view image = some image')
    (hp : ∀ r, rect = some r → ¬ r.Mem p) : image' p = image p := by
  unfold applyPreview at h
  split at h
  · cases h
    rfl
  · rename_i r
    split at h
    · rw [(copyPublishedOverlayRects_at h).1, if_neg]
      rintro ⟨rect, hrect, hmem⟩
      rw [List.mem_singleton.1 hrect] at hmem
      exact hp r rfl hmem
    · split at h
      · cases h
        rfl
      · cases h

/-- The preview is not drawn over the arcade list. -/
theorem previewRedraw_apart (hinput : ArcadePublished input) {a : PhysicalLayerState}
    (ha : input.layers.arcade.desired = some a) {p : Pixel} (hp : a.rect.Mem p) {r : DirtyRect}
    (hr : (latch.planForSlot k input).previewRedraw = some r) : ¬ r.Mem p := by
  obtain ⟨hdesired, hupdate⟩ := hinput.apart a ha p hp
  unfold TwoBufferLatchState.planForSlot at hr
  dsimp only at hr
  cases hb : input.layers.preview.desired with
  | none =>
      rw [hb, redrawRect_none] at hr
      cases hr
  | some b =>
      rw [hb] at hr
      obtain hwhole | ⟨hown, -⟩ := redrawRect_cases (latch.slot k).layers.preview b
        (input.layers.preview.update.map (·.dirtyRect))
        (layerIntersectsRestore (some b) (latch.restoreRectsFor k input))
        (latch.publicationChanged k .preview input.layers.preview)
      · rw [hwhole] at hr
        cases hr
        exact hdesired b hb
      · rw [hown] at hr
        obtain ⟨v, hv, rfl⟩ := Option.map_eq_some_iff.1 hr
        exact hupdate v hv

/-- Restore and preview leave an arcade list alone that the restore list does not touch. -/
theorem untouched (hinput : ArcadePublished input) {a : PhysicalLayerState}
    (ha : input.layers.arcade.desired = some a)
    (hintersects : layerIntersectsRestore (some a) (latch.restoreRectsFor k input) = false)
    (h : applyPreview width height (latch.planForSlot k input).previewRedraw view
      (copyBase (latch.planForSlot k input).restoreRects cached image) = some image')
    {p : Pixel} (hp : a.rect.Mem p) : image' p = image p := by
  rw [applyPreview_outside h fun r hr => previewRedraw_apart hinput ha hp hr]
  unfold copyBase
  rw [if_neg]
  intro hrestored
  exact not_covers_of_not_intersects hintersects hp
    (TwoBufferLatchState.covers_restoreRectsFor_of_restore hrestored)

/-- A plan that may be compared is for a list that the slot has in its place, untouched. -/
theorem diffSafe_held (h : (latch.planForSlot k input).arcadeRedrawDiffSafe = true) :
    ∃ c a, (latch.slot k).layers.arcade = some c ∧ input.layers.arcade.desired = some a ∧
      c.rect = a.rect ∧
      layerIntersectsRestore (some a) (latch.restoreRectsFor k input) = false := by
  unfold TwoBufferLatchState.planForSlot at h
  dsimp only at h
  rw [Bool.and_eq_true, Bool.and_eq_true, Bool.not_eq_true', Option.any_eq_true] at h
  obtain ⟨⟨hintersects, -⟩, c, hc, hany⟩ := h
  rw [Option.any_eq_true] at hany
  obtain ⟨a, ha, hsame⟩ := hany
  rw [Bool.and_eq_true, beq_iff_eq] at hsame
  rw [ha] at hintersects
  exact ⟨c, a, hc, ha, hsame.1, hintersects⟩

variable (latch) in
/-- **One frame**: its arcade list, if it is redrawn, is the publication all over, and the mirror
    goes on to say what the slot holds. -/
theorem slotTracked_overlays (hinput : ArcadePublished input)
    (htracked : SlotTracked (latch.slot k).layers.arcade mirror image)
    {direct : Option PhysicalLayerBacking}
    (h : applyOverlays width height (latch.planForSlot k input)
      (input.layers.map (·.publication)) direct mirror
      (copyBase (latch.planForSlot k input).restoreRects cached image) = some (image', mirror')) :
    SlotTracked input.layers.arcade.desired mirror' image' ∧
    ∀ update, (latch.planForSlot k input).arcadeRedraw = some update →
      ∃ publication, input.layers.arcade.publication = some publication ∧
        update.dirtyRect = publication.state.rect ∧
        ∀ p, update.dirtyRect.Mem p → image' p = publication.backing.at p := by
  unfold applyOverlays at h
  split at h
  · rename_i drawn hdrawn
    unfold applyArcade at h
    split at h
    · -- the slot has the list already, or there is none
      rename_i hredraw
      cases h
      refine ⟨fun a rect ha hrect => ?_,
        fun update hupdate => by rw [hredraw] at hupdate; cases hupdate⟩
      have hplan : (latch.planForSlot k input).arcadeRedraw =
          directLayerRedrawUpdate (latch.slot k).layers.arcade (some a) input.layers.arcade.update
            (layerIntersectsRestore (some a) (latch.restoreRectsFor k input))
            (latch.publicationChanged k .arcade input.layers.arcade &&
              input.layers.arcade.update.isNone) := by
        unfold TwoBufferLatchState.planForSlot
        dsimp only
        rw [ha]
      rw [hplan] at hredraw
      obtain ⟨u, hu, -⟩ | ⟨-, hheld, hintersects, -⟩ := redrawUpdate_cases
        (latch.slot k).layers.arcade a input.layers.arcade.update
        (layerIntersectsRestore (some a) (latch.restoreRectsFor k input))
        (latch.publicationChanged k .arcade input.layers.arcade &&
          input.layers.arcade.update.isNone)
      · rw [hredraw] at hu
        cases hu
      · obtain ⟨hsame, hmirror⟩ := htracked a rect hheld hrect
        refine ⟨hsame, fun p hp => ?_⟩
        rw [hmirror p hp]
        exact (untouched hinput ha hintersects hdrawn (hsame ▸ hp)).symm
    · rename_i update hredraw
      split at h
      · rename_i publication hpublication
        obtain ⟨hrect, himage, hafter⟩ := copyPublishedArcadeWithMirror_eq h
          fun hsafe hmirror rect hrect p hp => by
            obtain ⟨c, a, hc, ha, hsame, hintersects⟩ := diffSafe_held hsafe
            obtain ⟨hplace, hpixels⟩ := htracked c rect hc hrect
            rw [hpixels p hp]
            refine (untouched hinput ha hintersects hdrawn ?_).symm
            rw [← hsame, ← hplace]
            exact hp
        have hpub : input.layers.arcade.publication = some publication := hpublication
        have hshown : ∀ p, update.dirtyRect.Mem p → image' p = publication.backing.at p := by
          intro p hp
          rw [himage]
          exact copyLayer_of_mem hp
        refine ⟨fun a rect ha hmirror => ?_, fun u hu => ?_⟩
        · obtain ⟨offered, hoffered⟩ := hinput.published a ha
          have hsame : publication = offered := by
            rw [hoffered] at hpub
            exact (Option.some.inj hpub).symm
          have hplace : publication.backing.rect = a.rect := by
            rw [hoffered] at ha
            rw [hsame, ← offered.backing_rect]
            exact congrArg PhysicalLayerState.rect (Option.some.inj ha)
          obtain hforgotten | ⟨hheld, hpixels⟩ := hafter
          · rw [hforgotten] at hmirror
            cases hmirror
          · rw [hheld] at hmirror
            cases hmirror
            refine ⟨hplace, fun p hp => ?_⟩
            rw [hpixels, denseAt_backing]
            exact (hshown p (hrect ▸ hp)).symm
        · rw [hredraw] at hu
          cases hu
          exact ⟨publication, hpub, hrect.trans publication.backing_rect.symm, hshown⟩
      · cases h
  · cases h

end Slot

/-! ## 3. Steps -/

section Steps

variable {width height : Nat} {s t : MirrorScene} {step : ArcadeStep}

/-- A status read forgets every mirror, or changes nothing that is said here. -/
theorem readStatus_cases (s : MirrorScene) (read : StatusRead) :
    (s.readStatus read).image = s.image ∧
    ((∀ k, ((s.readStatus read).mirror k).rect = none) ∨
      (s.readStatus read).mirror = s.mirror ∧
        ∀ k, ((s.readStatus read).latch.slot k).layers = (s.latch.slot k).layers) := by
  cases read with
  | hiddenGeometryMismatch => exact ⟨rfl, .inl fun _ => rfl⟩
  | sync sync =>
      obtain ⟨activeSlot, activeSequence, pending, pendingSequence, recovered⟩ := sync
      have hkeeps := fun latch : TwoBufferLatchState =>
        (latch.syncHardware_keeps activeSlot activeSequence pending pendingSequence).1
      cases recovered with
      | true => exact ⟨rfl, .inl fun _ => rfl⟩
      | false => exact ⟨rfl, .inr ⟨rfl, hkeeps s.latch⟩⟩

theorem readStatuses_cases (s : MirrorScene) (reads : List StatusRead) :
    (s.readStatuses reads).image = s.image ∧
    ((∀ k, ((s.readStatuses reads).mirror k).rect = none) ∨
      (s.readStatuses reads).mirror = s.mirror ∧
        ∀ k, ((s.readStatuses reads).latch.slot k).layers = (s.latch.slot k).layers) := by
  induction reads generalizing s with
  | nil => exact ⟨rfl, .inr ⟨rfl, fun _ => rfl⟩⟩
  | cons read reads ih =>
      obtain ⟨himage, hfirst⟩ := readStatus_cases s read
      obtain ⟨himages, hrest⟩ := ih (s.readStatus read)
      refine ⟨himages.trans himage, ?_⟩
      obtain hforgotten | ⟨hmirror, hlayers⟩ := hrest
      · exact .inl hforgotten
      · obtain hforgotten | ⟨hmirror', hlayers'⟩ := hfirst
        · refine .inl fun k => ?_
          have hsame := congrFun hmirror k
          rw [MirrorScene.readStatuses, List.foldl_cons]
          rw [MirrorScene.readStatuses] at hsame
          rw [hsame]
          exact hforgotten k
        · exact .inr ⟨hmirror.trans hmirror', fun k => (hlayers k).trans (hlayers' k)⟩

theorem tracked_forgotten (h : ∀ k, (s.mirror k).rect = none) : Tracked s :=
  fun k => slotTracked_forgotten (h k)

theorem Tracked.same (h : Tracked s) (himage : t.image = s.image) (hmirror : t.mirror = s.mirror)
    (hlayers : ∀ k, (t.latch.slot k).layers = (s.latch.slot k).layers) : Tracked t := by
  intro k
  rw [himage, hmirror, hlayers k]
  exact h k

theorem tracked_reads (h : Tracked s) (reads : List StatusRead) :
    Tracked (s.readStatuses reads) := by
  obtain ⟨himage, hforgotten | ⟨hmirror, hlayers⟩⟩ := readStatuses_cases s reads
  · exact tracked_forgotten hforgotten
  · exact h.same himage hmirror hlayers

/-- The slot of a failed attempt has no layers and its mirror is forgotten; the other is as it
    was. -/
theorem tracked_attemptFailed {k : SlotIndex}
    (h : ∀ j, j ≠ k → SlotTracked (s.latch.slot j).layers.arcade (s.mirror j) (s.image j)) :
    Tracked (s.attemptFailed k) := by
  intro j
  by_cases hj : j = k
  · subst hj
    refine slotTracked_forgotten ?_
    unfold MirrorScene.attemptFailed
    dsimp only
    rw [Function.update_self]
    rfl
  · unfold MirrorScene.attemptFailed
    dsimp only
    rw [Function.update_of_ne hj, (TwoBufferLatchState.markAttemptFailed_other hj).layers]
    exact h j hj

/-- The slot that was not written. -/
theorem tracked_other (h : Tracked s) {latch : TwoBufferLatchState} {j k : SlotIndex} (hj : j ≠ k)
    (hlayers : (latch.slot j).layers = (s.latch.slot j).layers) (image : Image)
    (mirror : PhysicalLayerSlotMirror) :
    SlotTracked (latch.slot j).layers.arcade ((s.written latch k image mirror).mirror j)
      ((s.written latch k image mirror).image j) := by
  unfold MirrorScene.written
  dsimp only
  rw [Function.update_of_ne hj, Function.update_of_ne hj, hlayers]
  exact h j

/-- What a successful frame leaves in its slot, and that every mirror goes on to be right. -/
theorem tracked_presented (h : Tracked s) {input : LatchFramePlan} {cached image : Image}
    {direct : Option PhysicalLayerBacking} {latch : TwoBufferLatchState} {plan : LatchPresentPlan}
    {mirror : PhysicalLayerSlotMirror} (hinput : ArcadePublished input)
    (hplan : s.latch.planNext input = (latch, .ok plan))
    (hover : applyOverlays width height plan latch.plannedPublications direct
      (s.mirror plan.slotIndex)
      (copyBase plan.restoreRects cached (s.image plan.slotIndex)) = some (image, mirror))
    (reads : List StatusRead) {posted : MirrorScene}
    (hposted : posted = (s.written latch plan.slotIndex image mirror).readStatuses reads) :
    Tracked { posted with latch := posted.latch.markPostSuccess plan } ∧
    posted.image plan.slotIndex = image ∧
    ∀ update, plan.arcadeRedraw = some update →
      ∃ publication, input.layers.arcade.publication = some publication ∧
        update.dirtyRect = publication.state.rect ∧
        ∀ p, update.dirtyRect.Mem p → image p = publication.backing.at p := by
  subst hposted
  obtain ⟨-, -, rfl, hk⟩ := TwoBufferLatchState.planNext_ok hplan
  obtain ⟨himage, hreads⟩ :=
    readStatuses_cases (s.written (s.latch.accepted input) plan.slotIndex image mirror) reads
  have hmirror := h plan.slotIndex
  generalize hslot : plan.slotIndex = k at *
  subst hk
  obtain ⟨htracked, hshown⟩ := slotTracked_overlays (s.latch.accepted input) hinput
    hmirror hover
  refine ⟨fun j => ?_, ?_, hshown⟩
  · obtain hforgotten | ⟨hmirrors, hlayers⟩ := hreads
    · exact slotTracked_forgotten (hforgotten j)
    · dsimp only
      rw [himage, hmirrors]
      by_cases hj : j = k
      · subst hj
        have hself := TwoBufferLatchState.slot_markPostSuccess_self
          ((s.written (s.latch.accepted input) j image mirror).readStatuses reads).latch
          ((s.latch.accepted input).planForSlot j input)
        rw [TwoBufferLatchState.slotIndex_planForSlot] at hself
        rw [hself]
        unfold MirrorScene.written
        dsimp only
        rw [Function.update_self, Function.update_self]
        exact htracked
      · have hother := @TwoBufferLatchState.markPostSuccess_other
          ((s.written (s.latch.accepted input) k image mirror).readStatuses reads).latch
          ((s.latch.accepted input).planForSlot k input) j hj
        rw [hother.layers, hlayers j]
        exact tracked_other h hj rfl image mirror
  · rw [himage]
    exact Function.update_self ..

theorem tracked_failed (h : Tracked s) {input : LatchFramePlan} {latch : TwoBufferLatchState}
    {plan : LatchPresentPlan} (hplan : s.latch.planNext input = (latch, .ok plan)) (image : Image)
    (mirror : PhysicalLayerSlotMirror) (reads : List StatusRead) :
    Tracked (((s.written latch plan.slotIndex image mirror).readStatuses reads).attemptFailed
      plan.slotIndex) := by
  obtain ⟨-, -, rfl, -⟩ := TwoBufferLatchState.planNext_ok hplan
  obtain ⟨himage, hreads⟩ :=
    readStatuses_cases (s.written (s.latch.accepted input) plan.slotIndex image mirror) reads
  refine tracked_attemptFailed fun j hj => ?_
  obtain hforgotten | ⟨hmirrors, hlayers⟩ := hreads
  · exact slotTracked_forgotten (hforgotten j)
  · rw [himage, hmirrors, hlayers j]
    exact tracked_other h hj rfl image mirror

/-- **Every step keeps the mirrors right.** -/
theorem tracked_step (h : Tracked s) (hstep : (arcadeCopies width height).step s step t) :
    Tracked t := by
  cases step with
  | readStatus read =>
      subst hstep
      exact tracked_reads h [read]
  | rejected input =>
      obtain ⟨latch, error, hplan, rfl⟩ := hstep
      refine h.same rfl rfl fun k => ?_
      obtain ⟨e, -, heq⟩ | ⟨-, -, ⟨-, heq⟩ | ⟨k, -, heq⟩⟩ :=
        TwoBufferLatchState.planNext_cases s.latch input
      · obtain ⟨rfl, -⟩ := Prod.ext_iff.1 (hplan.symm.trans heq)
        rfl
      · obtain ⟨rfl, -⟩ := Prod.ext_iff.1 (hplan.symm.trans heq)
        rfl
      · cases (Prod.ext_iff.1 (hplan.symm.trans heq)).2
  | presented input cached direct reads =>
      obtain ⟨hinput, latch, plan, image, mirror, hplan, hover, rfl⟩ := hstep
      exact (tracked_presented h hinput hplan hover reads rfl).1
  | failed input image mirror reads =>
      obtain ⟨latch, plan, hplan, rfl⟩ := hstep
      exact tracked_failed h hplan image mirror reads
  | directPosted k image =>
      subst hstep
      exact tracked_forgotten fun _ => rfl
  | directDiscarded k image =>
      subst hstep
      exact tracked_attemptFailed fun j hj => tracked_other h hj rfl image _
  | invalidateExternalMode =>
      subst hstep
      exact tracked_forgotten fun _ => rfl

theorem tracked_run {s₀ : MirrorScene} {run : List ArcadeStep}
    (hinit : (arcadeCopies width height).init s₀)
    (hrun : (arcadeCopies width height).Run s₀ run s) :
    Tracked s := by
  refine hrun.invariant (P := Tracked) (fun _ _ _ h hstep => tracked_step h hstep) ?_
  refine tracked_forgotten fun k => ?_
  rw [hinit.2 k]
  rfl

end Steps

/-! ## 4. The result -/

/-- **A sparse copy is a whole copy**: after every frame that succeeds and redraws the arcade list
    the slot holds the publication, every pixel of it, over the rectangle of the list; and where the
    next plan of a slot may be compared, a mirror that is not forgotten holds what the slot
    holds. -/
theorem sparse_copy_is_whole_copy (width height : Nat) {s₀ s : MirrorScene} {run : List ArcadeStep}
    (hinit : (arcadeCopies width height).init s₀)
    (hrun : (arcadeCopies width height).Run s₀ run s) :
    (∀ input cached direct reads t,
      (arcadeCopies width height).step s (.presented input cached direct reads) t →
      ∀ latch plan, s.latch.planNext input = (latch, .ok plan) →
      ∀ update, plan.arcadeRedraw = some update →
        ∃ publication, input.layers.arcade.publication = some publication ∧
          update.dirtyRect = publication.state.rect ∧
          ∀ p, update.dirtyRect.Mem p →
            t.image plan.slotIndex p = publication.backing.at p) ∧
    ∀ input latch plan, s.latch.planNext input = (latch, .ok plan) →
      plan.arcadeRedrawDiffSafe = true →
      ∀ rect, (s.mirror plan.slotIndex).rect = some rect →
      ∀ p, rect.Mem p →
        denseAt rect (s.mirror plan.slotIndex).pixels p = s.image plan.slotIndex p := by
  have htracked := tracked_run hinit hrun
  constructor
  · intro input cached direct reads t hstep latch plan hplan update hupdate
    obtain ⟨hinput, latch', plan', image, mirror, hplan', hover, rfl⟩ := hstep
    obtain ⟨rfl, hok⟩ := Prod.ext_iff.1 (hplan.symm.trans hplan')
    obtain rfl := Except.ok.inj hok
    obtain ⟨-, himage, hshown⟩ := tracked_presented htracked hinput hplan hover reads rfl
    obtain ⟨publication, hpublication, hrect, hat⟩ := hshown update hupdate
    refine ⟨publication, hpublication, hrect, fun p hp => ?_⟩
    rw [← hat p hp]
    exact congrFun himage p
  · intro input latch plan hplan hsafe rect hrect p hp
    obtain ⟨-, -, rfl, hk⟩ := TwoBufferLatchState.planNext_ok hplan
    rw [hk] at hsafe
    obtain ⟨c, a, hc, -⟩ := diffSafe_held hsafe
    exact (htracked plan.slotIndex c rect hc hrect).2 p hp

/-! ## 5. A list of four pixels -/

theorem listGenerations {contentGeneration : Nat} (h : contentGeneration ≠ 0) :
    1 ≠ 0 ∧ 1 ≠ 0 ∧ contentGeneration ≠ 0 := ⟨Nat.one_ne_zero, Nat.one_ne_zero, h⟩

/-- Four pixels of a list, the first of them the content generation. -/
def listPublication (contentGeneration : Nat) (h : contentGeneration ≠ 0) :
    PhysicalLayerPublication where
  role := .arcade
  layoutGeneration := 1
  layoutEpoch := 1
  contentGeneration
  state := ⟨⟨0, 0, 4, 1⟩, 1, .ZERO⟩
  update := some (.full ⟨0, 0, 4, 1⟩)
  backing := ⟨⟨0, 0, 4, 1⟩, [BitVec.ofNat 16 contentGeneration, 0, 0, 0], rfl, rfl⟩
  generations := listGenerations h
  backing_rect := rfl
  update_rect := by simp

def listFrame (contentGeneration : Nat) (h : contentGeneration ≠ 0) : LatchFramePlan :=
  .fromPublications .new none (some (listPublication contentGeneration h))

theorem listFrame_published (n : Nat) (h : n ≠ 0) : ArcadePublished (listFrame n h) where
  published := fun _ _ => ⟨listPublication n h, rfl⟩
  apart := fun _ _ _ _ => ⟨fun _ hb => (nomatch hb), fun _ hv => (nomatch hv)⟩

/-- Slot 2 is shown, slot 1 may be written. -/
def slot2Shown : StatusRead := .sync ⟨some .slot2, 0, false, 0, false⟩

def listStart : MirrorScene :=
  ⟨.new 4 1, fun _ _ => 7, fun _ => .default⟩

/-- The presenter shows a frame, its steps computed. -/
def MirrorScene.present (s : MirrorScene) (width height : Nat) (input : LatchFramePlan)
    (cached : Image) : MirrorScene :=
  match s.latch.planNext input with
  | (_, .error _) => s
  | (latch, .ok plan) =>
      match applyOverlays width height plan latch.plannedPublications none
          (s.mirror plan.slotIndex)
          (copyBase plan.restoreRects cached (s.image plan.slotIndex)) with
      | none => s
      | some (image, mirror) =>
          let posted := s.written latch plan.slotIndex image mirror
          { posted with latch := posted.latch.markPostSuccess plan }

def listShown : MirrorScene :=
  ((listStart.readStatus slot2Shown).present 4 1 (listFrame 1 (by decide)) fun _ => 0).readStatus
    slot2Shown

theorem listShown_run : (arcadeCopies 4 1).Run listStart
    [.readStatus slot2Shown, .presented (listFrame 1 (by decide)) (fun _ => 0) none [],
      .readStatus slot2Shown] listShown := by
  have hstart : (arcadeCopies 4 1).Run listStart [] listStart := .nil
  have hread := hstart.snoc (a := ArcadeStep.readStatus slot2Shown) rfl
  have hfirst := hread.snoc
    (a := ArcadeStep.presented (listFrame 1 (by decide)) (fun _ => 0) none [])
    ⟨listFrame_published 1 (by decide), _, _, _, _, rfl, rfl, rfl⟩
  exact hfirst.snoc (a := ArcadeStep.readStatus slot2Shown) rfl

theorem sparse_copy_is_whole_copy_list : ∃ t latch plan,
    (arcadeCopies 4 1).step listShown
      (.presented (listFrame 2 (by decide)) (fun _ => 0) none []) t ∧
    listShown.latch.planNext (listFrame 2 (by decide)) = (latch, .ok plan) ∧
    plan.slotIndex = .slot1 ∧ plan.arcadeRedrawDiffSafe = true ∧
    t.image .slot1 (0, 0) = 2 ∧
    denseAt ⟨0, 0, 4, 1⟩ (listShown.mirror .slot1).pixels (0, 0) =
      listShown.image .slot1 (0, 0) := by
  obtain ⟨hcopied, hmirrors⟩ := sparse_copy_is_whole_copy 4 1 ⟨rfl, fun _ => rfl⟩ listShown_run
  have hstep : (arcadeCopies 4 1).step listShown
      (.presented (listFrame 2 (by decide)) (fun _ => 0) none [])
      (listShown.present 4 1 (listFrame 2 (by decide)) fun _ => 0) :=
    ⟨listFrame_published 2 (by decide), _, _, _, _, rfl, rfl, rfl⟩
  obtain ⟨publication, hpublication, -, hat⟩ := hcopied _ _ _ _ _ hstep _ _ rfl _ rfl
  have hlist : listPublication 2 (by decide) = publication := Option.some.inj hpublication
  have hmirror := hmirrors (listFrame 2 (by decide)) _ _ rfl rfl ⟨0, 0, 4, 1⟩ rfl (0, 0)
    (by decide)
  refine ⟨_, _, _, hstep, rfl, rfl, rfl, ?_, hmirror⟩
  have hpixel := hat (0, 0) (by decide)
  rw [← hlist] at hpixel
  exact hpixel

end MisterMagik.Framebuffer
