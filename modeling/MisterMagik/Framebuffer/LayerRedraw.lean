/-
  File:      MisterMagik/Framebuffer/LayerRedraw.lean
  Subject:   Which layers a plan redraws, over any run of the calls of `TwoBufferLatchState`: the
             order of the two layers, and when a slot catches up with a cached layer.

  * `layer_order_kept_iff` -- a plan that redraws the preview into the arcade list also redraws
    the arcade list there exactly if the slot does not already show that list untouched;
  * `preview_over_kept_arcade` -- a run that ends with preview pixels over the arcade list;
  * `cached_layer_redraw_iff` -- a slot redraws a cached layer it held exactly if it lost it, or
    the layer changed its state, or the restore touches it;
  * `full_update_misses_other_slot` -- a content replacement with an unchanged state never reaches
    the other slot.
-/
import MisterMagik.Framebuffer.LatchPlan

namespace MisterMagik.Framebuffer

/-! ## 1. Runs -/

/-- The calls that change a latch state. -/
inductive LatchCall where
  | syncHardware (activeSlotIndex : Option SlotIndex) (activeSequence : BitVec 16) (pending : Bool)
      (pendingSequence : BitVec 16)
  | invalidateAll
  | planNext (input : LatchFramePlan)
  | markPostSuccess (plan : LatchPresentPlan)
  | markAttemptFailed (slotIndex : SlotIndex)

namespace LatchCall

def apply (self : TwoBufferLatchState) : LatchCall → TwoBufferLatchState
  | syncHardware active activeSequence pending pendingSequence =>
      self.syncHardware active activeSequence pending pendingSequence
  | invalidateAll => self.invalidateAll
  | planNext input => (self.planNext input).1
  | markPostSuccess plan => self.markPostSuccess plan
  | markAttemptFailed k => self.markAttemptFailed k

/-- The call makes slot `k` forget its layers. -/
def Loses (k : SlotIndex) : LatchCall → Prop
  | markAttemptFailed j => j = k
  | invalidateAll => True
  | _ => False

/-- The call records a frame posted into slot `k`. -/
def Posts (k : SlotIndex) : LatchCall → Prop
  | markPostSuccess plan => plan.slotIndex = k
  | _ => False

end LatchCall

/-- A latch state over a `width × height` surface after a run. -/
def latchRun (width height : Nat) (calls : List LatchCall) : TwoBufferLatchState :=
  calls.foldl LatchCall.apply (.new width height)

theorem latchRun_append (w h : Nat) (pre mid : List LatchCall) :
    latchRun w h (pre ++ mid) = mid.foldl LatchCall.apply (latchRun w h pre) := by
  simp [latchRun]

namespace TwoBufferLatchState

variable {self s' : TwoBufferLatchState} {input : LatchFramePlan} {plan : LatchPresentPlan}
  {k : SlotIndex}

theorem slot_planNext (self : TwoBufferLatchState) (input : LatchFramePlan) :
    (self.planNext input).1.slots = self.slots := by
  rcases planNext_cases self input with ⟨e, -, h⟩ | ⟨-, -, ⟨-, h⟩ | ⟨k, -, h⟩⟩ <;> simp [h]

/-- One call that does not post into a slot leaves its layers alone or drops them. -/
theorem layers_apply (self : TwoBufferLatchState) {c : LatchCall} (hp : ¬ c.Posts k) :
    (c.Loses k ∧ ((c.apply self).slot k).layers = .both none) ∨
    (¬ c.Loses k ∧ ((c.apply self).slot k).layers = (self.slot k).layers) := by
  cases c with
  | syncHardware active activeSequence pending pendingSequence =>
      exact .inr ⟨id, (syncHardware_keeps _ active activeSequence pending pendingSequence).1 k⟩
  | invalidateAll => exact .inl ⟨trivial, layers_invalidateAll k⟩
  | planNext input =>
      refine .inr ⟨id, ?_⟩
      show ((self.planNext input).1.slots.get k).layers = _
      rw [slot_planNext]
      rfl
  | markPostSuccess plan => exact .inr ⟨id, (markPostSuccess_other (Ne.symm hp)).layers⟩
  | markAttemptFailed j =>
      by_cases hj : j = k
      · subst hj
        exact .inl ⟨rfl, congrArg (·.layers) (slot_markAttemptFailed_self j)⟩
      · exact .inr ⟨hj, (markAttemptFailed_other (Ne.symm hj)).layers⟩

/-- **A run that posts nothing into a slot** leaves its layers alone, unless it drops them. -/
theorem layers_run (self : TwoBufferLatchState) (calls : List LatchCall)
    (hp : ∀ c ∈ calls, ¬ c.Posts k) :
    ((∃ c ∈ calls, c.Loses k) ∧ ((calls.foldl LatchCall.apply self).slot k).layers = .both none) ∨
    ((∀ c ∈ calls, ¬ c.Loses k) ∧
      ((calls.foldl LatchCall.apply self).slot k).layers = (self.slot k).layers) := by
  induction calls using List.reverseRecOn with
  | nil => exact .inr ⟨by simp, rfl⟩
  | append_singleton calls c ih =>
      rw [List.foldl_append, List.foldl_cons, List.foldl_nil]
      have ih := ih fun c hc => hp c (List.mem_append_left _ hc)
      rcases layers_apply (calls.foldl LatchCall.apply self)
        (hp c (by simp)) with ⟨h1, h2⟩ | ⟨h1, h2⟩
      · exact .inl ⟨⟨c, by simp, h1⟩, h2⟩
      · rw [h2]
        refine ih.imp (fun ⟨⟨d, hd, hl⟩, e⟩ => ⟨⟨d, List.mem_append_left _ hd, hl⟩, e⟩)
          fun ⟨hl, e⟩ => ⟨fun d hd => ?_, e⟩
        rcases List.mem_append.mp hd with hd | hd
        · exact hl d hd
        · rwa [List.mem_singleton.mp hd]

/-! ## 2. The order of the layers -/

/-- Where the plan redraws the preview into the arcade list, it redraws the arcade list too. -/
def OrderKept (input : LatchFramePlan) (plan : LatchPresentPlan) : Prop :=
  ∀ r a i, plan.previewRedraw = some r → input.layers.arcade.desired = some a →
    r.intersection a.rect = some i →
    ∃ u, plan.arcadeRedraw = some u ∧ u.dirtyRect.contains i = true

/-- The debt of the slot with the frame's damage, and its preview if the frame gives that up. -/
def previewRestore (self : TwoBufferLatchState) (k : SlotIndex) (input : LatchFramePlan) :
    DirtyRectList :=
  pushLayerRestore ((self.baseDamage.recordDamage input.cachedDamage).plan k)
    (self.slot k).layers.preview input.layers.preview.desired

/-- The slot shows arcade layer `a` already: the frame neither replaces its content nor restores
    anything under it. -/
structure ArcadeShown (latch : TwoBufferLatchState) (k : SlotIndex) (input : LatchFramePlan)
    (a : PhysicalLayerState) : Prop where
  held : (latch.slot k).layers.arcade = some a
  not_full : input.layers.arcade.update.any (·.isFull) = false
  published : input.layers.arcade.update = none →
    latch.publicationChanged k .arcade input.layers.arcade = false
  untouched : layerIntersectsRestore (some a) (latch.previewRestore k input) = false

/-- Preview `b` is new to the slot, or something is restored under it. -/
def PreviewAltered (self : TwoBufferLatchState) (k : SlotIndex) (input : LatchFramePlan)
    (b : PhysicalLayerState) : Prop :=
  (self.slot k).layers.preview ≠ some b ∨
    layerIntersectsRestore (some b) (self.previewRestore k input) = true ∨
    self.publicationChanged k .preview input.layers.preview = true

/-- The frame does not put its preview, or the preview's update, over an arcade layer that the
    writable slot already shows, unless the scroll update of that layer repairs it. -/
def KeepsLayerOrder (self : TwoBufferLatchState) (input : LatchFramePlan) : Prop :=
  ∀ k a b r i, self.writableSlotIndex = some k → input.layers.arcade.desired = some a →
    input.layers.preview.desired = some b → self.ArcadeShown k input a →
    (self.PreviewAltered k input b ∧ r = b.rect ∨
      ¬ self.PreviewAltered k input b ∧ ∃ v, input.layers.preview.update = some v ∧
        r = v.dirtyRect) →
    r.intersection a.rect = some i →
    ∃ u, input.layers.arcade.update = some u ∧ u.dirtyRect.contains i = true

section Order

variable {a b : PhysicalLayerState}

theorem restoreRectsFor_of_held (ha : input.layers.arcade.desired = some a)
    (hh : (self.slot k).layers.arcade = some a) :
    (self.accepted input).restoreRectsFor k input = self.previewRestore k input := by
  have hn : directLayerNeedsRestore (some a) (some a) = false :=
    needsRestore_eq_false_iff.mpr ⟨a, rfl, rfl, rfl⟩
  unfold restoreRectsFor
  dsimp only
  rw [slot_accepted, hh, ha]
  simp only [pushLayerRestore, hn]
  rfl

/-- The redraw of the arcade list is its whole rectangle, unless the slot shows it already. -/
theorem arcadeRedraw_of_not_shown (ha : input.layers.arcade.desired = some a)
    (hn : ¬ self.ArcadeShown k input a) :
    ∃ u, ((self.accepted input).planForSlot k input).arcadeRedraw = some u ∧
      u.dirtyRect = a.rect := by
  unfold planForSlot
  dsimp only
  rw [ha, slot_accepted]
  rcases redrawUpdate_cases (self.slot k).layers.arcade a
      input.layers.arcade.update
      (layerIntersectsRestore (some a) ((self.accepted input).restoreRectsFor k input))
      (self.publicationChanged k .arcade input.layers.arcade && input.layers.arcade.update.isNone)
    with h | ⟨-, hc, hi, hp, hfull⟩
  · exact h
  · refine absurd ⟨hc, hfull, fun hu => ?_, ?_⟩ hn
    · simpa [hu] using hp
    · rwa [restoreRectsFor_of_held ha hc] at hi

theorem arcadeRedraw_of_shown (ha : input.layers.arcade.desired = some a)
    (hs : self.ArcadeShown k input a) :
    ((self.accepted input).planForSlot k input).arcadeRedraw = input.layers.arcade.update := by
  have hp : (self.publicationChanged k .arcade input.layers.arcade &&
      input.layers.arcade.update.isNone) = false := by
    cases hu : input.layers.arcade.update with
    | none => simp [hs.published hu]
    | some u => simp
  unfold planForSlot
  dsimp only
  rw [ha, slot_accepted, restoreRectsFor_of_held ha hs.held, hs.untouched, hs.held]
  have hp' : ((self.accepted input).publicationChanged k .arcade input.layers.arcade &&
      input.layers.arcade.update.isNone) = false := hp
  simp [directLayerRedrawUpdate, hp', hs.not_full]

/-- What the plan redraws of the preview when the slot holds the arcade list of the frame. -/
theorem previewRedraw_iff (ha : input.layers.arcade.desired = some a)
    (hh : (self.slot k).layers.arcade = some a) {r : DirtyRect} :
    ((self.accepted input).planForSlot k input).previewRedraw = some r ↔
      ∃ b, input.layers.preview.desired = some b ∧
        (self.PreviewAltered k input b ∧ r = b.rect ∨
          ¬ self.PreviewAltered k input b ∧
            ∃ v, input.layers.preview.update = some v ∧ r = v.dirtyRect) := by
  unfold planForSlot
  dsimp only
  rw [restoreRectsFor_of_held ha hh, slot_accepted]
  cases hb : input.layers.preview.desired with
  | none => simp [redrawRect_none]
  | some b =>
      have e : (self.accepted input).publicationChanged k .preview input.layers.preview =
          self.publicationChanged k .preview input.layers.preview := rfl
      rw [e]
      unfold directLayerRedrawRect
      dsimp only
      split
      · rename_i h
        have halt : self.PreviewAltered k input b := by
          simpa [PreviewAltered, bne_iff_ne, or_assoc] using h
        simp [halt, eq_comm]
      · rename_i h
        have halt : ¬ self.PreviewAltered k input b := by
          simpa [PreviewAltered, bne_iff_ne, or_assoc] using h
        simp [halt, eq_comm]

end Order

end TwoBufferLatchState

open TwoBufferLatchState in
/-- **The arcade list stays on top exactly if `KeepsLayerOrder`**, in every state a run reaches and
    for every accepted frame. -/
theorem layer_order_kept_iff (width height : Nat) (calls : List LatchCall) (input : LatchFramePlan)
    (s' : TwoBufferLatchState) (plan : LatchPresentPlan)
    (h : (latchRun width height calls).planNext input = (s', .ok plan)) :
    OrderKept input plan ↔ (latchRun width height calls).KeepsLayerOrder input := by
  generalize latchRun width height calls = self at h ⊢
  obtain ⟨-, hk, -, hplan⟩ := planNext_ok h
  generalize plan.slotIndex = k at hk hplan
  subst hplan
  constructor
  · intro ho j a b r i hj ha hb hshown hr hi
    obtain rfl : k = j := Option.some.inj (hk.symm.trans hj)
    rw [← arcadeRedraw_of_shown ha hshown]
    exact ho r a i ((previewRedraw_iff ha hshown.held).mpr ⟨b, hb, hr⟩) ha hi
  · intro hkeep r a i hr ha hi
    by_cases hshown : self.ArcadeShown k input a
    · obtain ⟨b, hb, hr⟩ := (previewRedraw_iff ha hshown.held).mp hr
      rw [arcadeRedraw_of_shown ha hshown]
      exact hkeep k a b r i hk ha hb hshown hr hi
    · obtain ⟨u, hu, hrect⟩ := arcadeRedraw_of_not_shown ha hshown
      refine ⟨u, hu, ?_⟩
      rw [hrect]
      exact DirtyRect.contains_intersection_right hi

/-- The two overlapping layers of `overlapping_preview_and_arcade_preserve_layer_order`. -/
def overlayPreview : PhysicalLayerState := ⟨⟨1, 0, 4, 2⟩, 1, .ZERO⟩

def overlayArcade : PhysicalLayerState := ⟨⟨2, 1, 4, 3⟩, 1, .ZERO⟩

def overlayFrame : LatchFramePlan :=
  .fromCachedLayers .new (some overlayPreview) (some overlayPreview.rect) (some overlayArcade)
    (some (.full overlayArcade.rect))

theorem layer_order_kept_overlay :
    ∃ s' plan, (latchRun 6 4 [.syncHardware none 0 false 0]).planNext overlayFrame =
      (s', .ok plan) ∧ TwoBufferLatchState.OrderKept overlayFrame plan := by
  refine ⟨_, _, rfl, (layer_order_kept_iff 6 4 [.syncHardware none 0 false 0]
    overlayFrame _ _ rfl).mpr ?_⟩
  -- no slot holds an arcade list yet
  rintro k a b r i - - - hshown
  cases k <;> exact absurd hshown.held (by simp [latchRun, LatchCall.apply,
    TwoBufferLatchState.new, TwoBufferLatchState.syncHardware, TwoBufferLatchState.slot,
    PerSlot.map, PerSlot.get, PerSlot.both, PerRole.both])

/-- The arcade list alone is posted into slot 1, which becomes writable again. -/
def arcadeAlone : LatchFramePlan :=
  .fromCachedLayers .new none none (some overlayArcade) (some (.full overlayArcade.rect))

def arcadeShownRun : List LatchCall :=
  let planned : List LatchCall := [.syncHardware none 0 false 0, .planNext arcadeAlone]
  planned ++ [.markPostSuccess ((latchRun 6 4 planned).planForSlot .slot1 arcadeAlone),
    .syncHardware (some .slot2) 0 false 0]

/-- Then a preview appears over the unchanged list: it is drawn over the list, which stays under. -/
def previewAppears : LatchFramePlan :=
  .fromCachedLayers .new (some overlayPreview) (some overlayPreview.rect) (some overlayArcade) none

theorem preview_over_kept_arcade :
    ∃ s' plan, (latchRun 6 4 arcadeShownRun).planNext previewAppears = (s', .ok plan) ∧
      plan.previewRedraw = some overlayPreview.rect ∧
      (overlayPreview.rect.intersection overlayArcade.rect).isSome = true ∧
      plan.arcadeRedraw = none ∧ ¬ TwoBufferLatchState.OrderKept previewAppears plan := by
  refine ⟨_, _, rfl, rfl, rfl, rfl, fun h => ?_⟩
  obtain ⟨u, hu, -⟩ := h overlayPreview.rect overlayArcade ⟨2, 1, 4, 2⟩ rfl rfl rfl
  cases hu

/-! ## 3. Cached layers and the other slot -/

namespace TwoBufferLatchState

variable {self : TwoBufferLatchState} {k : SlotIndex} {desired : PhysicalLayerState}

/-- Without an update of its own a cached layer is redrawn exactly if the slot does not hold it or
    the restore touches it. -/
theorem redraw_of_no_update {input : LatchFramePlan} (role : PhysicalLayerRole)
    (ho : (input.layers.get role).ownership = .cached)
    (hd : (input.layers.get role).desired = some desired)
    (hu : (input.layers.get role).update = none) :
    (self.planForSlot k input).redraw role = some desired.rect ↔
      (self.slot k).layers.get role ≠ some desired ∨
        layerIntersectsRestore (some desired) (self.restoreRectsFor k input) = true := by
  have hc : self.publicationChanged k role (input.layers.get role) = false := by
    simp [publicationChanged, ho]
  cases role with
  | preview =>
      simp only [PerRole.get] at hd hu hc ⊢
      simp only [LatchPresentPlan.redraw, planForSlot, hd, hu, hc, directLayerRedrawRect]
      split <;> simp_all
  | arcade =>
      simp only [PerRole.get] at hd hu hc ⊢
      simp only [LatchPresentPlan.redraw, planForSlot, hd, hu, hc]
      generalize layerIntersectsRestore (some desired) (self.restoreRectsFor k input) = touched
      by_cases hkept : (self.slot k).layers.arcade = some desired ∧ touched = false
      · obtain ⟨hcur, rfl⟩ := hkept
        simp [directLayerRedrawUpdate, hcur]
      · have hr : (self.slot k).layers.arcade ≠ some desired ∨ touched = true := by
          by_contra h
          simp only [not_or, ne_eq, Decidable.not_not, Bool.not_eq_true] at h
          exact hkept h
        rcases redrawUpdate_cases (self.slot k).layers.arcade desired none
            touched false with ⟨u, h, hrect⟩ | ⟨-, hcur, hi, -⟩
        · simpa [h, hrect] using hr
        · exact absurd ⟨hcur, hi⟩ hkept

end TwoBufferLatchState

/-- **When a slot catches up with a cached layer**: it held the layer in state `held`, and since
    then nothing was posted into it, whatever was posted into the other slot. The next plan for it
    that brings no update of the layer redraws the whole layer exactly if the slot lost its layers,
    the layer is not in state `held` any more, or the restore touches it. -/
theorem cached_layer_redraw_iff (width height : Nat) (pre mid : List LatchCall) (k : SlotIndex)
    (role : PhysicalLayerRole) (held desired : PhysicalLayerState)
    (hheld : ((latchRun width height pre).slot k).layers.get role = some held)
    (hmid : ∀ c ∈ mid, ¬ c.Posts k) (damage : DirtyRectList)
    (previewDesired : Option PhysicalLayerState) (previewDirty : Option DirtyRect)
    (arcadeDesired : Option PhysicalLayerState) (arcadeDirty : Option PhysicalLayerUpdate)
    (input : LatchFramePlan) (hinput : input =
      .fromCachedLayers damage previewDesired previewDirty arcadeDesired arcadeDirty)
    (hdesired : (input.layers.get role).desired = some desired)
    (hupdate : (input.layers.get role).update = none) (s' : TwoBufferLatchState)
    (plan : LatchPresentPlan)
    (hplan : (latchRun width height (pre ++ mid)).planNext input = (s', .ok plan))
    (hk : plan.slotIndex = k) :
    plan.redraw role = some desired.rect ↔
      (∃ c ∈ mid, c.Loses k) ∨ desired ≠ held ∨
        layerIntersectsRestore (some desired) (s'.restoreRectsFor k input) = true := by
  obtain ⟨-, -, hs', hp⟩ := TwoBufferLatchState.planNext_ok hplan
  rw [hk] at hp
  have hcached : (input.layers.get role).ownership = .cached := by
    subst hinput
    cases role <;> rfl
  rw [hp, TwoBufferLatchState.redraw_of_no_update role hcached hdesired hupdate, ← hs', hs',
    TwoBufferLatchState.slot_accepted, latchRun_append]
  rcases TwoBufferLatchState.layers_run (latchRun width height pre) mid hmid with
    ⟨hl, e⟩ | ⟨hl, e⟩
  · rw [e, PerRole.get_both]
    exact iff_of_true (.inl (by simp)) (.inl hl)
  · have hl' : ¬ ∃ c ∈ mid, c.Loses k := fun ⟨c, hc, h⟩ => hl c hc h
    rw [e, hheld]
    simp only [hl', false_or]
    exact or_congr_left (not_congr (Option.some_inj.trans eq_comm))

/-- Both slots hold the arcade list. -/
def arcadeInBothRun : List LatchCall :=
  let first := arcadeShownRun ++ [.syncHardware (some .slot1) 0 false 0, .planNext arcadeAlone]
  first ++ [.markPostSuccess ((latchRun 6 4 first).planForSlot .slot2 arcadeAlone),
    .syncHardware (some .slot2) 0 false 0]

/-- The list is replaced under a new version, and the frame goes to slot 1. -/
def arcadeBumped : PhysicalLayerState := { overlayArcade with version := 2 }

def arcadeBumpedCalls : List LatchCall :=
  let full : LatchFramePlan := .fromCachedLayers .new none none (some arcadeBumped)
    (some (.full arcadeBumped.rect))
  [.planNext full,
    .markPostSuccess ((latchRun 6 4 (arcadeInBothRun ++ [.planNext full])).planForSlot .slot1 full),
    .syncHardware (some .slot1) 0 false 0]

/-- Slot 2 catches up with the next frame, which brings no update. -/
theorem cached_layer_redraw_bumped :
    ∃ s' plan, (latchRun 6 4 (arcadeInBothRun ++ arcadeBumpedCalls)).planNext
        (.fromCachedLayers .new none none (some arcadeBumped) none) = (s', .ok plan) ∧
      plan.redraw .arcade = some overlayArcade.rect := by
  have hmid : ∀ c ∈ arcadeBumpedCalls, ¬ c.Posts .slot2 := by
    simp [arcadeBumpedCalls, LatchCall.Posts]
  exact ⟨_, _, rfl, (cached_layer_redraw_iff 6 4 arcadeInBothRun arcadeBumpedCalls .slot2 .arcade
    overlayArcade arcadeBumped rfl hmid .new none none (some arcadeBumped) none _ rfl rfl rfl _ _
    rfl rfl).mpr (.inr (.inl (by decide)))⟩

/-- The list is replaced with its state unchanged, and the frame goes to slot 1. -/
def arcadeReplacedRun : List LatchCall :=
  let planned := arcadeInBothRun ++ [.planNext arcadeAlone]
  planned ++ [.markPostSuccess ((latchRun 6 4 planned).planForSlot .slot1 arcadeAlone),
    .syncHardware (some .slot1) 0 false 0]

/-- The same list again, without an update. -/
def arcadeQuiet : LatchFramePlan := .fromCachedLayers .new none none (some overlayArcade) none

/-- A content replacement with an unchanged state does not reach the slot it was not posted to. -/
theorem full_update_misses_other_slot :
    (∀ k, ((latchRun 6 4 arcadeInBothRun).slot k).layers.arcade = some overlayArcade) ∧
    (∃ s' plan, (latchRun 6 4 arcadeInBothRun).planNext arcadeAlone = (s', .ok plan) ∧
      plan.slotIndex = .slot1 ∧
        arcadeAlone.layers.arcade.update = some (.full overlayArcade.rect)) ∧
    ∃ s' plan, (latchRun 6 4 arcadeReplacedRun).planNext arcadeQuiet = (s', .ok plan) ∧
      plan.slotIndex = .slot2 ∧ plan.arcadeRedraw = none := by
  refine ⟨fun k => by cases k <;> rfl, ⟨_, _, rfl, rfl, rfl⟩, ⟨_, _, rfl, rfl, rfl⟩⟩

end MisterMagik.Framebuffer
