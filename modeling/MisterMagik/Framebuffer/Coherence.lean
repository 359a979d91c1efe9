/-
  File:      MisterMagik/Framebuffer/Coherence.lean
  Subject:   The two hidden slots show the frame: cached pixels, debts, retained layers and
             retained publications of a slot, over any run of the latch state.

  A `Scene` is a latch state with the cached frame and the pixels of both slots. Drawing changes
  the cached frame and has to be reported as damage to `plan_next`; a plan is painted into its slot
  and posted, or the attempt fails and the slot may hold anything.

  * `Scene.Inv` -- outside the layers it retains, outside its debt and outside the unreported
    pixels a slot holds the cached frame; where it retains a layer it holds the pixels of the
    publication whose identity it retains;
  * `painted_plan_shows_frame` -- every painted plan leaves its slot showing exactly the frame, as
    long as damage that a rejected call did not record is reported again;
  * `rejected_damage_is_lost` -- reported only once, it is lost with the rejected call.
-/
import MisterMagik.Framebuffer.LatchPlan

namespace MisterMagik.Framebuffer

open MisterMagik.Base (Coherent)

/-! ## 1. Painting a plan -/

/-- The pixels of a slot, or of the cached frame. -/
abbrev Image := Pixel → Rgb565

/-- The pixels of publications with this identity over this rectangle. -/
abbrev Content := PhysicalLayerPublicationIdentity → DirtyRect → Image

def copyBase (rects : DirtyRectList) (cached image : Image) : Image := fun p =>
  if rects.Covers p then cached p else image p

def copyLayer (rect : Option DirtyRect) (publication : Option PhysicalLayerPublication)
    (image : Image) : Image := fun p =>
  match rect, publication with
  | some rect, some publication => if rect.Mem p then publication.backing.at p else image p
  | _, _ => image p

/-- What the presenter does with a plan: the cached frame over the restore rectangles, then the
    preview, then the arcade list. -/
def LatchPresentPlan.paint (plan : LatchPresentPlan) (cached : Image)
    (preview arcade : Option PhysicalLayerPublication) (image : Image) : Image :=
  copyLayer (plan.arcadeRedraw.map (·.dirtyRect)) arcade
    (copyLayer plan.previewRedraw preview (copyBase plan.restoreRects cached image))

/-- The frame a slot should show. -/
def composed (cached : Image) (preview arcade : Option PhysicalLayerPublication) : Image := fun p =>
  match arcade.filter fun a => a.state.rect.Mem p, preview.filter fun a => a.state.rect.Mem p with
  | some arcade, _ => arcade.backing.at p
  | none, some preview => preview.backing.at p
  | none, none => cached p

section Copy

variable {rect : DirtyRect} {pub : PhysicalLayerPublication} {image : Image} {p : Pixel}

theorem copyLayer_of_mem (h : rect.Mem p) :
    copyLayer (some rect) (some pub) image p = pub.backing.at p := by simp [copyLayer, h]

theorem copyLayer_of_not_mem {rect : Option DirtyRect} {publication : Option _}
    (h : ∀ r, rect = some r → ¬ r.Mem p) : copyLayer rect publication image p = image p := by
  cases rect with
  | none => rfl
  | some r =>
      cases publication with
      | none => rfl
      | some pub => simp [copyLayer, h r rfl]

end Copy

/-! ## 2. Scenes and their steps -/

/-- The arguments of `from_publications`. -/
structure PublishedFrame where
  cachedDamage : DirtyRectList
  preview : Option PhysicalLayerPublication
  arcade : Option PhysicalLayerPublication

def PublishedFrame.plan (f : PublishedFrame) : LatchFramePlan :=
  .fromPublications f.cachedDamage f.preview f.arcade

/-- Publications show what their identity says, and the two layers of the frame lie apart. -/
structure PublishedFrame.Admissible (content : Content) (f : PublishedFrame) : Prop where
  shows_preview : ∀ a, f.preview = some a → ∀ p, a.state.rect.Mem p →
    a.backing.at p = content a.identity a.state.rect p
  shows_arcade : ∀ a, f.arcade = some a → ∀ p, a.state.rect.Mem p →
    a.backing.at p = content a.identity a.state.rect p
  apart : ∀ a b, f.preview = some a → f.arcade = some b → ∀ p, a.state.rect.Mem p →
    ¬ b.state.rect.Mem p

structure Scene where
  latch : TwoBufferLatchState
  cached : Image
  image : SlotIndex → Image
  /-- Pixels drawn since the last damage that was reported. -/
  unreported : Set Pixel

/-- Whether damage counts as reported once it was an argument of `plan_next`, or only once
    `plan_next` went as far as recording it. -/
inductive ReportPolicy where
  | once
  | untilRecorded
  deriving DecidableEq

/-- What is still unreported after a call of `plan_next` that failed. -/
def ReportPolicy.afterError : ReportPolicy → LatchPlanError → Set Pixel → Set Pixel
  | once, _, _ => ∅
  | untilRecorded, .noWritableSlot, _ => ∅
  | untilRecorded, _, unreported => unreported

namespace Scene

variable (policy : ReportPolicy) (content : Content)

/-- A fresh latch state; cached frame and slots hold anything. -/
inductive Init (width height : Nat) : Scene → Prop where
  | new (cached : Image) (image : SlotIndex → Image) :
      Init width height ⟨.new width height, cached, image, ∅⟩

/-- `f` is a frame that may be offered: admissible, with every unreported pixel in its damage. -/
structure Offers (s : Scene) (f : PublishedFrame) : Prop where
  admissible : f.Admissible content
  reports : ∀ p ∈ s.unreported, f.cachedDamage.Covers p

/-- The plan was painted into its slot and posted. -/
def posted (s : Scene) (f : PublishedFrame) (latch : TwoBufferLatchState)
    (plan : LatchPresentPlan) : Scene :=
  { s with
    latch := latch.markPostSuccess plan
    image := Function.update s.image plan.slotIndex
      (plan.paint s.cached f.preview f.arcade (s.image plan.slotIndex))
    unreported := ∅ }

inductive Step : Scene → Scene → Prop where
  | draw (s : Scene) (cached : Image) (drawn : Set Pixel)
      (h : ∀ p, p ∉ drawn → cached p = s.cached p) :
      Step s { s with cached, unreported := s.unreported ∪ drawn }
  | syncHardware (s : Scene) (activeSlotIndex : Option SlotIndex) (activeSequence : BitVec 16)
      (pending : Bool) (pendingSequence : BitVec 16) :
      Step s { s with latch :=
        s.latch.syncHardware activeSlotIndex activeSequence pending pendingSequence }
  | invalidateAll (s : Scene) : Step s { s with latch := s.latch.invalidateAll }
  | rejected (s : Scene) (f : PublishedFrame) (latch : TwoBufferLatchState) (e : LatchPlanError)
      (hf : s.Offers content f) (h : s.latch.planNext f.plan = (latch, .error e)) :
      Step s { s with latch, unreported := policy.afterError e s.unreported }
  | posted (s : Scene) (f : PublishedFrame) (latch : TwoBufferLatchState) (plan : LatchPresentPlan)
      (hf : s.Offers content f) (h : s.latch.planNext f.plan = (latch, .ok plan)) :
      Step s (s.posted f latch plan)
  | failed (s : Scene) (f : PublishedFrame) (latch : TwoBufferLatchState) (plan : LatchPresentPlan)
      (image : Image) (hf : s.Offers content f)
      (h : s.latch.planNext f.plan = (latch, .ok plan)) :
      Step s { s with
        latch := latch.markAttemptFailed plan.slotIndex
        image := Function.update s.image plan.slotIndex image
        unreported := ∅ }

inductive Reachable (width height : Nat) : Scene → Prop where
  | init {s : Scene} (h : Init width height s) : Reachable width height s
  | step {s s' : Scene} (h : Reachable width height s) (hs : Step policy content s s') :
      Reachable width height s'

end Scene

/-! ## 3. The layers of a published frame -/

def PublishedFrame.layer (f : PublishedFrame) : PhysicalLayerRole → Option PhysicalLayerPublication
  | .preview => f.preview
  | .arcade => f.arcade

section Layers

variable {latch : TwoBufferLatchState} {k : SlotIndex} {f : PublishedFrame}
  {role : PhysicalLayerRole} {p : Pixel}

@[simp] theorem desired_plan (f : PublishedFrame) (role : PhysicalLayerRole) :
    (f.plan.layers.get role).desired = (f.layer role).map (·.state) := by cases role <;> rfl

theorem redraw_of_none (h : f.layer role = none) :
    (latch.planForSlot k f.plan).redraw role = none := by
  cases role with
  | preview | arcade =>
      simp only [PublishedFrame.layer] at h
      simp [LatchPresentPlan.redraw, TwoBufferLatchState.planForSlot, PublishedFrame.plan,
        LatchFramePlan.fromPublications, PhysicalLayerFrame.published, h, redrawRect_none,
        redrawUpdate_none]

/-- The slot shows publication `a` in this role already, and nothing of it is restored. -/
structure Kept (latch : TwoBufferLatchState) (k : SlotIndex) (f : PublishedFrame)
    (role : PhysicalLayerRole) (a : PhysicalLayerPublication) : Prop where
  state : (latch.slot k).layers.get role = some a.state
  identity : (latch.slotPublications.get k).get role = some a.identity
  untouched : ∀ p, a.state.rect.Mem p → ¬ (latch.restoreRectsFor k f.plan).Covers p

theorem redraw_preview (latch : TwoBufferLatchState) (k : SlotIndex)
    {a : PhysicalLayerPublication} (ha : f.preview = some a) :
    (latch.planForSlot k f.plan).redraw .preview =
      directLayerRedrawRect (latch.slot k).layers.preview (some a.state)
        (a.update.map (·.dirtyRect))
        (layerIntersectsRestore (some a.state) (latch.restoreRectsFor k f.plan))
        (latch.publicationChanged k .preview (.published (some a))) := by
  obtain ⟨damage, _, arcade⟩ := f
  obtain rfl := ha
  rfl

theorem redraw_arcade (latch : TwoBufferLatchState) (k : SlotIndex)
    {a : PhysicalLayerPublication} (ha : f.arcade = some a) :
    (latch.planForSlot k f.plan).redraw .arcade =
      (directLayerRedrawUpdate (latch.slot k).layers.arcade (some a.state) a.update
        (layerIntersectsRestore (some a.state) (latch.restoreRectsFor k f.plan))
        (latch.publicationChanged k .arcade (.published (some a)) && a.update.isNone)).map
          (·.dirtyRect) := by
  obtain ⟨damage, preview, _⟩ := f
  obtain rfl := ha
  rfl

/-- The frame's own update covers the whole layer; without one the identity has to agree. -/
theorem redraw_or_kept_of_unchanged {a : PhysicalLayerPublication}
    (hr : (latch.planForSlot k f.plan).redraw role = a.update.map (·.dirtyRect))
    (hc : (latch.slot k).layers.get role = some a.state)
    (hi : layerIntersectsRestore (some a.state) (latch.restoreRectsFor k f.plan) = false)
    (hp : a.update = none → latch.publicationChanged k role (.published (some a)) = false) :
    (latch.planForSlot k f.plan).redraw role = some a.state.rect ∨
    ((latch.planForSlot k f.plan).redraw role = none ∧ Kept latch k f role a) := by
  rw [hr]
  cases hu : a.update with
  | some u => exact .inl (by simp [a.update_rect u hu])
  | none =>
      have hid : samePublicationIdentity ((latch.slotPublications.get k).get role) (some a) :=
        by simpa [TwoBufferLatchState.publicationChanged, PhysicalLayerFrame.published] using hp hu
      exact .inr ⟨rfl, hc, samePublicationIdentity_iff.mp hid,
        fun p hp => not_covers_of_not_intersects hi hp⟩

/-- A published layer is redrawn over its whole rectangle, or the slot shows it already. -/
theorem redraw_or_kept (latch : TwoBufferLatchState) (k : SlotIndex) (role : PhysicalLayerRole)
    {a : PhysicalLayerPublication} (ha : f.layer role = some a) :
    (latch.planForSlot k f.plan).redraw role = some a.state.rect ∨
    ((latch.planForSlot k f.plan).redraw role = none ∧ Kept latch k f role a) := by
  cases role with
  | preview =>
      have e := redraw_preview latch k ha
      rcases redrawRect_cases (latch.slot k).layers.preview a.state
          (a.update.map (·.dirtyRect))
          (layerIntersectsRestore (some a.state) (latch.restoreRectsFor k f.plan))
          (latch.publicationChanged k .preview (.published (some a)))
        with h | ⟨h, hc, hi, hp⟩
      · exact .inl (e.trans h)
      · exact redraw_or_kept_of_unchanged (e.trans h) hc hi fun _ => hp
  | arcade =>
      have e := redraw_arcade latch k ha
      rcases redrawUpdate_cases (latch.slot k).layers.arcade a.state
          a.update (layerIntersectsRestore (some a.state) (latch.restoreRectsFor k f.plan))
          (latch.publicationChanged k .arcade (.published (some a)) && a.update.isNone)
        with ⟨u, h, hu⟩ | ⟨h, hc, hi, hp, -⟩
      · exact .inl (by rw [e, h, ← hu]; rfl)
      · refine redraw_or_kept_of_unchanged (by rw [e, h]) hc hi fun hu => ?_
        simpa [hu] using hp

/-- A layer the slot holds and the restore list leaves alone is one the frame wants there. -/
theorem mem_layer_of_not_restored {c : PhysicalLayerState}
    (hc : (latch.slot k).layers.get role = some c) (hp : c.rect.Mem p)
    (hr : ¬ (latch.restoreRectsFor k f.plan).Covers p) :
    ∃ a, f.layer role = some a ∧ a.state.rect.Mem p := by
  cases hn : directLayerNeedsRestore (some c) (f.plan.layers.get role).desired with
  | true =>
      exact absurd (TwoBufferLatchState.covers_restoreRectsFor_of_layer role hc hn hp) hr
  | false =>
      obtain ⟨d, hd, hrect, -⟩ := needsRestore_eq_false_iff.mp hn
      rw [desired_plan, Option.map_eq_some_iff] at hd
      obtain ⟨a, ha, rfl⟩ := hd
      exact ⟨a, ha, by rwa [hrect]⟩

/-- What is redrawn is a layer of the frame. -/
theorem layer_of_redraw {r : DirtyRect} (h : (latch.planForSlot k f.plan).redraw role = some r) :
    ∃ a, f.layer role = some a ∧ a.state.rect = r := by
  cases ha : f.layer role with
  | none => rw [redraw_of_none ha] at h; cases h
  | some a =>
      rcases redraw_or_kept latch k role ha with e | ⟨e, -⟩
      · exact ⟨a, rfl, Option.some.inj (e.symm.trans h)⟩
      · rw [e] at h; cases h

end Layers

/-! ## 4. Painting a plan shows the frame -/

section Composed

variable {cached : Image} {preview arcade : Option PhysicalLayerPublication}
  {a : PhysicalLayerPublication} {p : Pixel}

theorem composed_of_arcade (ha : arcade = some a) (hp : a.state.rect.Mem p) :
    composed cached preview arcade p = a.backing.at p := by simp [composed, ha, Option.filter, hp]

theorem composed_of_preview (ha : preview = some a) (hp : a.state.rect.Mem p)
    (hn : ∀ b, arcade = some b → ¬ b.state.rect.Mem p) :
    composed cached preview arcade p = a.backing.at p := by
  cases arcade with
  | none => simp [composed, ha, Option.filter, hp]
  | some b => simp [composed, ha, Option.filter, hp, hn b rfl]

theorem composed_of_neither (hp : ∀ b, preview = some b → ¬ b.state.rect.Mem p)
    (hn : ∀ b, arcade = some b → ¬ b.state.rect.Mem p) :
    composed cached preview arcade p = cached p := by
  cases arcade <;> cases preview <;> simp_all [composed, Option.filter]

end Composed

section Paint

variable {content : Content} {latch : TwoBufferLatchState} {k : SlotIndex} {f : PublishedFrame}
  {role : PhysicalLayerRole} {cached image : Image} {p : Pixel}

theorem paint_eq (plan : LatchPresentPlan) (preview arcade : Option PhysicalLayerPublication) :
    plan.paint cached preview arcade image =
      copyLayer (plan.redraw .arcade) arcade
        (copyLayer (plan.redraw .preview) preview (copyBase plan.restoreRects cached image)) := rfl

/-- The slot is right at `p` where the frame changes nothing: it shows the layers it keeps and,
    away from its layers and its restore list, the cached frame. -/
structure RightAt (latch : TwoBufferLatchState) (k : SlotIndex) (f : PublishedFrame)
    (cached image : Image) (p : Pixel) : Prop where
  kept : ∀ role a, f.layer role = some a → Kept latch k f role a → a.state.rect.Mem p →
    image p = a.backing.at p
  base : ¬ (latch.restoreRectsFor k f.plan).Covers p →
    (∀ role c, (latch.slot k).layers.get role = some c → ¬ c.rect.Mem p) → image p = cached p

/-- A layer is redrawn only over its own pixels. -/
theorem not_mem_redraw (latch : TwoBufferLatchState) (k : SlotIndex) (role : PhysicalLayerRole)
    (h : ∀ a, f.layer role = some a → ¬ a.state.rect.Mem p) :
    ∀ r, (latch.planForSlot k f.plan).redraw role = some r → ¬ r.Mem p := by
  intro r hr
  obtain ⟨a, ha, rfl⟩ := layer_of_redraw hr
  exact h a ha

theorem copyBase_of_kept (role : PhysicalLayerRole) {a : PhysicalLayerPublication}
    (hr : RightAt latch k f cached image p)
    (ha : f.layer role = some a) (hk : Kept latch k f role a) (hp : a.state.rect.Mem p) :
    copyBase (latch.planForSlot k f.plan).restoreRects cached image p = a.backing.at p := by
  have hn : ¬ (latch.planForSlot k f.plan).restoreRects.Covers p := fun h =>
    hk.untouched p hp (TwoBufferLatchState.covers_restoreRectsFor_of_restore h)
  rw [copyBase, if_neg hn, hr.kept role a ha hk hp]

theorem copyBase_of_neither (hr : RightAt latch k f cached image p)
    (hn : ∀ role a, f.layer role = some a → ¬ a.state.rect.Mem p) :
    copyBase (latch.planForSlot k f.plan).restoreRects cached image p = cached p := by
  unfold copyBase
  split
  · rfl
  rename_i hcov
  have hcov' : ¬ (latch.restoreRectsFor k f.plan).Covers p := fun h => hcov <|
    TwoBufferLatchState.restore_covers_of_not_redrawn h (not_mem_redraw _ _ .preview (hn .preview))
      fun u hu => not_mem_redraw _ _ .arcade (hn .arcade) u.dirtyRect (congrArg (Option.map _) hu)
  refine hr.base hcov' fun role c hc hp => ?_
  obtain ⟨b, hb, hbp⟩ := mem_layer_of_not_restored hc hp hcov'
  exact hn role b hb hbp

/-- **Painting the plan of a slot shows the frame**, wherever the slot was right before. -/
theorem paint_eq_composed (hf : f.Admissible content) (hr : RightAt latch k f cached image p) :
    (latch.planForSlot k f.plan).paint cached f.preview f.arcade image p =
      composed cached f.preview f.arcade p := by
  rw [paint_eq]
  by_cases h1 : ∃ a, f.arcade = some a ∧ a.state.rect.Mem p
  · obtain ⟨a, ha, hp⟩ := h1
    rw [composed_of_arcade ha hp]
    rcases redraw_or_kept latch k .arcade ha with e | ⟨e, hk⟩
    · rw [e, ha, copyLayer_of_mem hp]
    · have hpre := not_mem_redraw latch k .preview
        fun b hb hbp => hf.apart b a hb ha p hbp hp
      rw [e, copyLayer_of_not_mem (by simp), copyLayer_of_not_mem hpre,
        copyBase_of_kept .arcade hr ha hk hp]
  have h1' : ∀ b, f.arcade = some b → ¬ b.state.rect.Mem p := fun b hb hp => h1 ⟨b, hb, hp⟩
  rw [copyLayer_of_not_mem (not_mem_redraw latch k .arcade h1')]
  by_cases h2 : ∃ a, f.preview = some a ∧ a.state.rect.Mem p
  · obtain ⟨a, ha, hp⟩ := h2
    rw [composed_of_preview ha hp h1']
    rcases redraw_or_kept latch k .preview ha with e | ⟨e, hk⟩
    · rw [e, ha, copyLayer_of_mem hp]
    · rw [e, copyLayer_of_not_mem (by simp), copyBase_of_kept .preview hr ha hk hp]
  · have h2' : ∀ b, f.preview = some b → ¬ b.state.rect.Mem p := fun b hb hp => h2 ⟨b, hb, hp⟩
    rw [composed_of_neither h2' h1',
      copyLayer_of_not_mem (not_mem_redraw latch k .preview h2')]
    refine copyBase_of_neither hr fun role a ha => ?_
    cases role with
    | preview => exact h2' a ha
    | arcade => exact h1' a ha

end Paint

/-! ## 5. The invariant and its steps -/

namespace Scene

variable {content : Content} {policy : ReportPolicy} {s s' : Scene}

/-- The pixels of the surface slot `k` may hold wrong as pixels of the cached frame: those of its
    layers, of its debt and the unreported ones; nothing is said outside the surface. -/
def due (latch : TwoBufferLatchState) (unreported : Set Pixel) (k : SlotIndex) : Set Pixel :=
  {p | latch.baseDamage.fullRect.Mem p →
    (∃ role c, (latch.slot k).layers.get role = some c ∧ c.rect.Mem p) ∨
    (latch.baseDamage.plan k).Covers p ∨ p ∈ unreported}

/-- Slot `k` shows the publication it remembers, wherever it remembers a layer. -/
def ShowsLayers (content : Content) (latch : TwoBufferLatchState) (k : SlotIndex) (image : Image) :
    Prop :=
  ∀ role c, (latch.slot k).layers.get role = some c →
    ∃ id, (latch.slotPublications.get k).get role = some id ∧
      ∀ p, latch.baseDamage.fullRect.Mem p → c.rect.Mem p → image p = content id c.rect p

structure Inv (content : Content) (s : Scene) : Prop where
  base : Coherent s.cached s.image (due s.latch s.unreported)
  layers : ∀ k, ShowsLayers content s.latch k (s.image k)

theorem Inv.init {width height : Nat} (h : Init width height s) : s.Inv content := by
  obtain ⟨cached, image⟩ := h
  refine ⟨fun k p hp => absurd (fun hf => ?_) hp, fun k role c hc => ?_⟩
  · refine .inr (.inl ?_)
    simpa [TwoBufferLatchState.new] using hf
  · cases k <;> cases role <;> cases hc

/-- Recording the damage of a frame keeps the slots right, with nothing unreported any more. -/
theorem Inv.record (h : s.Inv content) {f : PublishedFrame} (hf : s.Offers content f)
    (latch : TwoBufferLatchState) (hs : latch.slots = s.latch.slots)
    (hp : latch.slotPublications = s.latch.slotPublications)
    (hd : latch.baseDamage = s.latch.baseDamage.recordDamage f.cachedDamage) :
    Inv content { s with latch, unreported := ∅ } := by
  have hslot : ∀ k, latch.slot k = s.latch.slot k := fun k => by
    simp [TwoBufferLatchState.slot, hs]
  constructor
  · refine h.base.mono fun k p hdue hfull => ?_
    have hcov : (s.latch.baseDamage.plan k).Covers p ∨ f.cachedDamage.Covers p →
        (latch.baseDamage.plan k).Covers p := by
      dsimp only at hfull
      rw [hd] at hfull ⊢
      rw [TwoSlotDamageLedger.plan_recordDamage]
      exact DirtyRectList.covers_extendCanonical hfull
    rcases hdue (by simpa [hd] using hfull) with hl | hl | hl
    · exact .inl (by simpa only [hslot] using hl)
    · exact .inr (.inl (hcov (.inl hl)))
    · exact .inr (.inl (hcov (.inr (hf.reports p hl))))
  · intro k role c hc
    dsimp only at hc ⊢
    rw [hslot] at hc
    rw [hp, hd]
    exact h.layers k role c hc

/-- One slot is rewritten: the other stays right, and this one has to be. -/
theorem Inv.rewrite (h : s.Inv content) (k : SlotIndex) {latch : TwoBufferLatchState}
    {image : Image} (hfull : latch.baseDamage.fullRect = s.latch.baseDamage.fullRect)
    (hother : ∀ j, j ≠ k → TwoBufferLatchState.SameSlot latch s.latch j)
    (hbase : ∀ p, p ∉ due latch s.unreported k → image p = s.cached p)
    (hlayers : ShowsLayers content latch k image) :
    Inv content { s with latch, image := Function.update s.image k image } := by
  constructor
  · refine (h.base.rewrite k hbase).mono fun j p hp hf => ?_
    by_cases hj : j = k
    · subst hj
      rw [Function.update_self] at hp
      exact hp hf
    · rw [Function.update_of_ne hj] at hp
      dsimp only at hf ⊢
      rw [(hother j hj).layers, (hother j hj).debt]
      exact hp (hfull ▸ hf)
  · intro j
    by_cases hj : j = k
    · subst hj
      simpa only [Function.update_self] using hlayers
    · intro role c hc
      dsimp only at hc ⊢
      rw [(hother j hj).layers] at hc
      rw [Function.update_of_ne hj, (hother j hj).publications, hfull]
      exact h.layers j role c hc

section Posted

variable {f : PublishedFrame} {latch : TwoBufferLatchState} {k : SlotIndex}
  {role : PhysicalLayerRole}

/-- What slot `k` remembers after a frame was posted into it. -/
theorem layers_posted :
    (((latch.accepted f.plan).markPostSuccess ((latch.accepted f.plan).planForSlot k f.plan)).slot
      k).layers.get role = (f.layer role).map (·.state) := by
  have h := TwoBufferLatchState.slot_markPostSuccess_self (latch.accepted f.plan)
    ((latch.accepted f.plan).planForSlot k f.plan)
  rw [TwoBufferLatchState.slotIndex_planForSlot] at h
  rw [h]
  cases role <;> rfl

theorem publications_posted :
    (((latch.accepted f.plan).markPostSuccess
      ((latch.accepted f.plan).planForSlot k f.plan)).slotPublications.get k).get role =
        (f.layer role).map (·.identity) := by
  have h := TwoBufferLatchState.slotPublications_markPostSuccess_self
    (latch.accepted f.plan) ((latch.accepted f.plan).planForSlot k f.plan)
  rw [TwoBufferLatchState.slotIndex_planForSlot] at h
  rw [h]
  cases role <;> rfl

end Posted

/-- The slot a plan is made for is right wherever the plan changes nothing. -/
theorem Inv.rightAt (h : s.Inv content) {f : PublishedFrame} (hf : s.Offers content f)
    (k : SlotIndex) {p : Pixel} (hp : s.latch.baseDamage.fullRect.Mem p) :
    RightAt (s.latch.accepted f.plan) k f s.cached (s.image k) p := by
  have h' := h.record hf (s.latch.accepted f.plan) rfl rfl rfl
  constructor
  · intro role a ha hk hap
    obtain ⟨id, hid, hshow⟩ := h'.layers k role a.state hk.state
    obtain rfl : id = a.identity := Option.some.inj (hid.symm.trans hk.identity)
    rw [hshow p hp hap]
    cases role with
    | preview => exact (hf.admissible.shows_preview a ha p hap).symm
    | arcade => exact (hf.admissible.shows_arcade a ha p hap).symm
  · intro hcov hlay
    refine h'.base k p fun hdue => ?_
    rcases hdue hp with ⟨role, c, hc, hcp⟩ | hdebt | hun
    · exact hlay role c hc hcp
    · exact hcov (TwoBufferLatchState.covers_restoreRectsFor_of_debt hdebt)
    · exact hun

/-- Inside its layers an admissible frame is the content of their identities. -/
theorem Offers.composed_eq {f : PublishedFrame} (hf : s.Offers content f)
    {role : PhysicalLayerRole} {a : PhysicalLayerPublication} (ha : f.layer role = some a)
    {p : Pixel} (hp : a.state.rect.Mem p) :
    composed s.cached f.preview f.arcade p = content a.identity a.state.rect p := by
  cases role with
  | arcade =>
      replace ha : f.arcade = some a := ha
      rw [composed_of_arcade ha hp]
      exact hf.admissible.shows_arcade a ha p hp
  | preview =>
      replace ha : f.preview = some a := ha
      rw [composed_of_preview ha hp fun b hb hbp => hf.admissible.apart a b ha hb p hp hbp]
      exact hf.admissible.shows_preview a ha p hp

/-- **A painted plan shows the frame.** -/
theorem Inv.paint_eq_composed (h : s.Inv content) {f : PublishedFrame} (hf : s.Offers content f)
    {latch : TwoBufferLatchState} {plan : LatchPresentPlan}
    (hplan : s.latch.planNext f.plan = (latch, .ok plan)) {p : Pixel}
    (hp : s.latch.baseDamage.fullRect.Mem p) :
    plan.paint s.cached f.preview f.arcade (s.image plan.slotIndex) p =
      composed s.cached f.preview f.arcade p := by
  obtain ⟨-, -, -, hplan⟩ := TwoBufferLatchState.planNext_ok hplan
  generalize plan.slotIndex = k at hplan ⊢
  rw [hplan]
  exact Framebuffer.paint_eq_composed hf.admissible (h.rightAt hf k hp)

theorem Inv.posted (h : s.Inv content) {f : PublishedFrame} (hf : s.Offers content f)
    {latch : TwoBufferLatchState} {plan : LatchPresentPlan}
    (hplan : s.latch.planNext f.plan = (latch, .ok plan)) :
    (s.posted f latch plan).Inv content := by
  have hpaint := fun p => h.paint_eq_composed hf hplan (p := p)
  obtain ⟨-, -, rfl, hk⟩ := TwoBufferLatchState.planNext_ok hplan
  have hmid := h.record hf (s.latch.accepted f.plan) rfl rfl rfl
  refine hmid.rewrite plan.slotIndex rfl
    (fun j hj => TwoBufferLatchState.markPostSuccess_other hj) (fun p hp => ?_) ?_
  · simp only [due, Set.mem_ofPred_eq, Classical.not_imp, not_or] at hp
    obtain ⟨hfull, hlay, -⟩ := hp
    have hno : ∀ role a, f.layer role = some a → ¬ a.state.rect.Mem p := by
      refine fun role a ha hap => hlay ⟨role, a.state, ?_, hap⟩
      rw [hk, TwoBufferLatchState.slotIndex_planForSlot, layers_posted, ha]
      rfl
    rw [hpaint p hfull]
    exact composed_of_neither (hno .preview) (hno .arcade)
  · intro role c hc
    rw [hk, TwoBufferLatchState.slotIndex_planForSlot, layers_posted, Option.map_eq_some_iff] at hc
    obtain ⟨a, ha, rfl⟩ := hc
    refine ⟨a.identity, ?_, fun p hfull hp => ?_⟩
    · rw [hk, TwoBufferLatchState.slotIndex_planForSlot, publications_posted, ha]
      rfl
    · rw [hpaint p hfull, hf.composed_eq ha hp]

theorem Inv.failed (h : s.Inv content) {f : PublishedFrame} (hf : s.Offers content f)
    {latch : TwoBufferLatchState} {plan : LatchPresentPlan}
    (hplan : s.latch.planNext f.plan = (latch, .ok plan)) (image : Image) :
    Inv content { s with
      latch := latch.markAttemptFailed plan.slotIndex
      image := Function.update s.image plan.slotIndex image
      unreported := ∅ } := by
  obtain ⟨-, -, rfl, -⟩ := TwoBufferLatchState.planNext_ok hplan
  have hmid := h.record hf (s.latch.accepted f.plan) rfl rfl rfl
  refine hmid.rewrite plan.slotIndex rfl
    (fun j hj => TwoBufferLatchState.markAttemptFailed_other hj) (fun p hp => ?_) ?_
  · refine absurd (fun hfull => .inr (.inl ?_)) hp
    rw [TwoBufferLatchState.debt_markAttemptFailed_self]
    exact DirtyRectList.covers_fromOne.mpr hfull
  · intro role c hc
    rw [TwoBufferLatchState.slot_markAttemptFailed_self] at hc
    cases role <;> cases hc

/-- Every step keeps both slots right, if damage counts as reported only once it was recorded. -/
theorem Inv.step (h : s.Inv content) (hs : Step .untilRecorded content s s') : s'.Inv content := by
  cases hs with
  | draw cached drawn hd =>
      refine ⟨(h.base.touch hd).mono fun k p hp hfull => ?_, h.layers⟩
      rcases hp with hp | hp
      · exact (hp hfull).imp_right (Or.imp_right Or.inl)
      · exact .inr (.inr (.inr hp))
  | syncHardware active activeSequence pending pendingSequence =>
      obtain ⟨hl, hp, hd⟩ := TwoBufferLatchState.syncHardware_keeps s.latch active
        activeSequence pending pendingSequence
      constructor
      · refine h.base.mono fun k p hp hfull => ?_
        dsimp only at hfull ⊢
        rw [hd] at hfull ⊢
        simpa only [hl] using hp hfull
      · simpa only [ShowsLayers, hl, hp, hd] using h.layers
  | invalidateAll =>
      constructor
      · refine fun k p hp => absurd (fun hfull => .inr (.inl ?_)) hp
        simpa using hfull
      · intro k role c hc
        simp only [TwoBufferLatchState.layers_invalidateAll, PerRole.get_both] at hc
        cases hc
  | rejected f latch e hf hr =>
      rcases TwoBufferLatchState.planNext_cases s.latch f.plan with
        ⟨e', he', h'⟩ | ⟨-, -, ⟨-, h'⟩ | ⟨k, -, h'⟩⟩
      · -- rejected before anything was recorded: everything stays unreported
        obtain ⟨rfl, he⟩ := Prod.ext_iff.mp (hr.symm.trans h')
        obtain rfl : e = e' := Except.error.inj he
        have : ReportPolicy.untilRecorded.afterError e s.unreported = s.unreported := by
          cases e with
          | noWritableSlot => exact absurd rfl he'
          | publicationMismatch | stalePublication => rfl
        rwa [this]
      · obtain ⟨rfl, he⟩ := Prod.ext_iff.mp (hr.symm.trans h')
        obtain rfl : e = .noWritableSlot := Except.error.inj he
        exact h.record hf _ rfl rfl rfl
      · cases (Prod.ext_iff.mp (hr.symm.trans h')).2
  | posted f latch plan hf hp => exact h.posted hf hp
  | failed f latch plan image hf hp => exact h.failed hf hp image

/-- **The slots are right over any run.** -/
theorem Reachable.inv {width height : Nat}
    (h : Reachable .untilRecorded content width height s) : s.Inv content := by
  induction h with
  | init h => exact .init h
  | step _ hs ih => exact ih.step hs

theorem Step.fullRect_eq (hs : Step policy content s s') :
    s'.latch.baseDamage.fullRect = s.latch.baseDamage.fullRect := by
  cases hs with
  | draw | invalidateAll => rfl
  | syncHardware active activeSequence pending pendingSequence =>
      have h := (TwoBufferLatchState.syncHardware_keeps s.latch active activeSequence
        pending pendingSequence).2.2
      exact congrArg _ h
  | rejected f _ _ _ h | posted f _ _ _ h | failed f _ _ _ _ h =>
      have e := TwoBufferLatchState.fullRect_planNext s.latch f.plan
      rw [h] at e
      exact e

theorem Reachable.fullRect_eq {width height : Nat} (h : Reachable policy content width height s) :
    s.latch.baseDamage.fullRect = ⟨0, 0, width, height⟩ := by
  induction h with
  | init h => cases h; rfl
  | step _ hs ih => rw [hs.fullRect_eq, ih]

end Scene

/-! ## 6. The result -/

/-- **A posted slot shows exactly the frame**: after any run, in which damage stays unreported when
    `plan_next` rejects its publications, painting the next plan leaves the slot with the arcade
    publication over its rectangle, the preview over its own and the cached frame everywhere else
    on the surface. -/
theorem painted_plan_shows_frame (content : Content) (width height : Nat) (s : Scene)
    (h : Scene.Reachable .untilRecorded content width height s) (f : PublishedFrame)
    (hf : s.Offers content f) (latch : TwoBufferLatchState) (plan : LatchPresentPlan)
    (hplan : s.latch.planNext f.plan = (latch, .ok plan)) (p : Pixel) (hx : p.1 < width)
    (hy : p.2 < height) :
    (s.posted f latch plan).image plan.slotIndex p = composed s.cached f.preview f.arcade p := by
  have hp : s.latch.baseDamage.fullRect.Mem p := by
    rw [h.fullRect_eq]
    exact ⟨Nat.zero_le _, hx, Nat.zero_le _, hy⟩
  rw [← h.inv.paint_eq_composed hf hplan hp]
  exact congrFun (Function.update_self ..) p

/-! ## 7. Two runs -/

/-- A one-pixel preview at the origin whose colour is its content generation. -/
def dotPublication (contentGeneration : Nat) (h : contentGeneration ≠ 0) :
    PhysicalLayerPublication where
  role := .preview
  layoutGeneration := 1
  layoutEpoch := 1
  contentGeneration
  state := ⟨⟨0, 0, 1, 1⟩, 1, .ZERO⟩
  update := none
  backing := ⟨⟨0, 0, 1, 1⟩, [BitVec.ofNat 16 contentGeneration], rfl, rfl⟩
  generations := ⟨by decide, by decide, h⟩
  backing_rect := rfl
  update_rect := by simp

def dotContent : Content := fun id _ _ => BitVec.ofNat 16 id.contentGeneration

def dotFrame (cachedDamage : DirtyRectList) (contentGeneration : Nat) (h : contentGeneration ≠ 0) :
    PublishedFrame :=
  { cachedDamage, preview := some (dotPublication contentGeneration h), arcade := none }

theorem dotFrame_admissible (d : DirtyRectList) (n : Nat) (h : n ≠ 0) :
    (dotFrame d n h).Admissible dotContent where
  shows_preview := by
    rintro a ha p hp
    obtain rfl : dotPublication n h = a := Option.some.inj ha
    have : p = (0, 0) := by
      simp only [dotPublication, DirtyRect.Mem] at hp
      exact Prod.ext (by dsimp only; omega) (by dsimp only; omega)
    subst this
    rfl
  shows_arcade := by rintro a ha; cases ha
  apart := by rintro a b - hb; cases hb

/-- A dot over a black screen, freshly opened with both slots writable. -/
def dotScene : Scene :=
  { latch := (TwoBufferLatchState.new 2 2).syncHardware none 0 false 0
    cached := fun _ => 0
    image := fun _ _ => 0
    unreported := ∅ }

theorem dotScene_reachable (policy : ReportPolicy) :
    Scene.Reachable policy dotContent 2 2 dotScene :=
  .step (.init (.new (fun _ => 0) fun _ _ => 0)) (.syncHardware _ none 0 false 0)

/-- The next frame is posted, if one is planned, and then on the display. -/
def Scene.shown (s : Scene) (f : PublishedFrame) : Scene :=
  match s.latch.planNext f.plan with
  | (_, .error _) => s
  | (latch, .ok plan) =>
      let t := s.posted f latch plan
      { t with latch := t.latch.syncHardware (some plan.slotIndex) 0 false 0 }

theorem Scene.Reachable.shown {policy : ReportPolicy} {content : Content} {width height : Nat}
    {s : Scene} (h : Reachable policy content width height s) {f : PublishedFrame}
    (hf : s.Offers content f) : Reachable policy content width height (s.shown f) := by
  unfold Scene.shown
  split
  · exact h
  · rename_i latch plan hplan
    exact (h.step (.posted _ _ latch plan hf hplan)).step
      (.syncHardware _ (some plan.slotIndex) 0 false 0)

/-- The cached frame with one pixel white. -/
def whiteDot : Image := fun p => if p = (1, 1) then 0xFFFF else 0

def whiteFrame : PublishedFrame := dotFrame (.fromOne ⟨1, 1, 2, 2⟩) 3 (by decide)

/-- Two frames were shown, the second after a pixel turned white and with that damage. -/
def whiteShown : Scene :=
  let s := dotScene.shown (dotFrame .new 2 (by decide))
  Scene.shown { s with cached := whiteDot, unreported := s.unreported ∪ {(1, 1)} } whiteFrame

theorem whiteShown_reachable : Scene.Reachable .untilRecorded dotContent 2 2 whiteShown := by
  have first := (dotScene_reachable .untilRecorded).shown (f := dotFrame .new 2 (by decide))
    ⟨dotFrame_admissible .., fun _ h => h.elim⟩
  refine (first.step (.draw _ whiteDot {(1, 1)} fun p hp => if_neg hp)).shown (f := whiteFrame)
    ⟨dotFrame_admissible .., fun p hp => ?_⟩
  obtain hp | rfl := hp
  · exact hp.elim
  · exact DirtyRectList.covers_fromOne.mpr (by decide)

/-- A third frame goes to the slot that has not seen the white pixel. -/
theorem painted_plan_shows_frame_white :
    ∃ latch plan, whiteShown.latch.planNext (dotFrame .new 4 (by decide)).plan = (latch, .ok plan) ∧
      let s := whiteShown.posted (dotFrame .new 4 (by decide)) latch plan
      whiteShown.image plan.slotIndex (1, 1) = 0 ∧ s.image plan.slotIndex (1, 1) = 0xFFFF ∧
        s.image plan.slotIndex (0, 0) = 4 ∧ s.image plan.slotIndex (1, 0) = 0 := by
  have hshows := painted_plan_shows_frame dotContent 2 2 whiteShown whiteShown_reachable
    (dotFrame .new 4 (by decide)) ⟨dotFrame_admissible .., fun _ h => h.elim⟩ _ _ rfl
  exact ⟨_, _, rfl, by decide, hshows (1, 1) (by decide) (by decide),
    hshows (0, 0) (by decide) (by decide), hshows (1, 0) (by decide) (by decide)⟩

/-- The dot of generation 2 in slot 1, which is writable again; then a pixel of the cached frame
    turned white, and its damage went to a call that offered the older dot and was rejected. -/
def dotShown : Scene :=
  match dotScene.latch.planNext (dotFrame .new 2 (by decide)).plan with
  | (_, .error _) => dotScene
  | (latch, .ok plan) =>
      let s := dotScene.posted (dotFrame .new 2 (by decide)) latch plan
      { s with
        latch := s.latch.syncHardware (some .slot2) 0 false 0
        cached := fun p => if p = (1, 1) then 0xFFFF else 0 }

theorem dotShown_reachable : Scene.Reachable .once dotContent 2 2 dotShown := by
  have shown := (dotScene_reachable .once).step
    (.posted _ _ _ _ ⟨dotFrame_admissible .new 2 (by decide), fun _ h => h.elim⟩ rfl)
  have synced := shown.step (.syncHardware _ (some .slot2) 0 false 0)
  have drawn := synced.step (.draw _ (fun p => if p = (1, 1) then 0xFFFF else 0) {(1, 1)}
    fun p hp => if_neg hp)
  have offers : ∀ p ∈ (∅ ∪ {(1, 1)} : Set Pixel),
      (dotFrame (.fromOne ⟨1, 1, 2, 2⟩) 1 (by decide)).cachedDamage.Covers p := by
    rintro p (hp | rfl)
    · exact hp.elim
    · exact DirtyRectList.covers_fromOne.mpr (by decide)
  exact drawn.step (.rejected _ _ _ _ ⟨dotFrame_admissible .., offers⟩ rfl)

/-- Reported once, to a call that is rejected, damage is lost: the next frame posted into slot 1
    misses the white pixel. -/
theorem rejected_damage_is_lost :
    ∃ s f latch plan, Scene.Reachable .once dotContent 2 2 s ∧ s.Offers dotContent f ∧
      s.latch.planNext f.plan = (latch, .ok plan) ∧
      (s.posted f latch plan).image plan.slotIndex (1, 1) ≠
        composed s.cached f.preview f.arcade (1, 1) :=
  ⟨dotShown, dotFrame .new 2 (by decide), _, _, dotShown_reachable,
    ⟨dotFrame_admissible .., fun _ h => h.elim⟩, rfl, by decide⟩

end MisterMagik.Framebuffer
