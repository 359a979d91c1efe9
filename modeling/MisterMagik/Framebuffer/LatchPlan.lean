/-
  File:      MisterMagik/Framebuffer/LatchPlan.lean
  Subject:   What `planNext` and `planForSlot` answer, said once: one inversion lemma for the call,
             one for each redraw decision, and the pixels the restore list covers.

  * `planNext_cases` -- rejected with the state untouched, no writable slot with the damage
    recorded, or the plan of the selected slot;
  * `redrawRect_cases`, `redrawUpdate_cases` -- a desired layer is redrawn over its rectangle, or
    the decision is the frame's own update and the slot holds exactly the desired layer;
  * `covers_restoreRectsFor_of_debt`, `covers_restoreRectsFor_of_layer` -- the restore list covers the
    debt of the slot and every layer the slot has to give up; `restore_covers_of_not_redrawn` --
    what the plan still restores of it.
-/
import MisterMagik.Framebuffer.LatchState

namespace MisterMagik.Framebuffer

/-! ## 1. The redraw decisions -/

section Redraw

variable {current : Option PhysicalLayerState} {desired : PhysicalLayerState}

/-- The preview of a frame is redrawn over its whole rectangle, or not beyond the frame's own dirty
    rectangle; in the second case the slot holds the layer unchanged and nothing touches it. -/
theorem redrawRect_cases (current : Option PhysicalLayerState) (desired : PhysicalLayerState)
    (dirty : Option DirtyRect) (intersects changed : Bool) :
    directLayerRedrawRect current (some desired) dirty intersects changed = some desired.rect ∨
    (directLayerRedrawRect current (some desired) dirty intersects changed = dirty ∧
      current = some desired ∧ intersects = false ∧ changed = false) := by
  by_cases h : current = some desired <;> cases intersects <;> cases changed <;>
    simp [directLayerRedrawRect, h]

theorem redrawRect_none (dirty : Option DirtyRect) (intersects changed : Bool) :
    directLayerRedrawRect current none dirty intersects changed = none := rfl

/-- The arcade list of a frame is redrawn over its whole rectangle, or the decision is the frame's
    own update; in the second case the slot holds the layer unchanged and nothing touches it. -/
theorem redrawUpdate_cases (current : Option PhysicalLayerState) (desired : PhysicalLayerState)
    (dirty : Option PhysicalLayerUpdate) (intersects full : Bool) :
    (∃ u, directLayerRedrawUpdate current (some desired) dirty intersects full = some u ∧
      u.dirtyRect = desired.rect) ∨
    (directLayerRedrawUpdate current (some desired) dirty intersects full = dirty ∧
      current = some desired ∧ intersects = false ∧ full = false ∧
      dirty.any (·.isFull) = false) := by
  unfold directLayerRedrawUpdate
  dsimp only
  split
  · exact .inl ⟨_, rfl, rfl⟩
  rename_i hfull
  split
  · exact .inl ⟨_, rfl, rfl⟩
  rename_i hdirty
  cases current with
  | none => exact .inl ⟨_, rfl, rfl⟩
  | some c =>
      dsimp only
      split
      · exact .inl ⟨_, rfl, rfl⟩
      rename_i hrect
      split
      · exact .inl ⟨_, rfl, rfl⟩
      rename_i hoff
      split
      · exact .inl ⟨_, rfl, rfl⟩
      rename_i hint
      refine .inr ⟨rfl, ?_, by simpa using hint, by simpa using hfull, by simpa using hdirty⟩
      simp only [Bool.or_eq_true, bne_iff_ne, ne_eq, not_or, Decidable.not_not] at hrect hoff
      cases c
      cases desired
      simp_all

theorem redrawUpdate_none (dirty : Option PhysicalLayerUpdate) (intersects full : Bool) :
    directLayerRedrawUpdate current none dirty intersects full = none := rfl

/-- Nothing is restored under a layer exactly if the slot does not hold it, or holds it where and in
    the version the frame wants it. -/
theorem needsRestore_eq_false_iff {c : PhysicalLayerState} {d : Option PhysicalLayerState} :
    directLayerNeedsRestore (some c) d = false ↔
      ∃ d', d = some d' ∧ d'.rect = c.rect ∧ d'.version = c.version := by
  cases d with
  | none => simp [directLayerNeedsRestore]
  | some d => simp [directLayerNeedsRestore]

/-- Two identities agree, or both sides show nothing. -/
theorem samePublicationIdentity_iff {retained : Option PhysicalLayerPublicationIdentity}
    {desired : Option PhysicalLayerPublication} :
    samePublicationIdentity retained desired = true ↔ retained = desired.map (·.identity) := by
  cases retained <;> cases desired <;>
    simp [samePublicationIdentity, PhysicalLayerPublication.identity,
      PhysicalLayerPublicationIdentity.ext_iff, and_assoc]

end Redraw

/-! ## 2. Restore lists -/

section Restore

variable {l : DirtyRectList} {p : Pixel}

theorem covers_pushWithoutCoveredRect_of_covers {r : DirtyRect} (h : l.Covers p) :
    (pushWithoutCoveredRect l r).Covers p := by
  unfold pushWithoutCoveredRect
  split
  · exact h
  · exact DirtyRectList.covers_push_of_covers h

theorem covers_pushWithoutCoveredRect_self {r : DirtyRect} (h : r.Mem p) :
    (pushWithoutCoveredRect l r).Covers p := by
  unfold pushWithoutCoveredRect
  split
  · rename_i hc
    obtain ⟨e, he, hec⟩ := List.any_eq_true.mp hc
    exact ⟨e, he, h.mono hec⟩
  · exact DirtyRectList.covers_push_self h

theorem covers_pushLayerRestore_of_covers {c d : Option PhysicalLayerState} (h : l.Covers p) :
    (pushLayerRestore l c d).Covers p := by
  unfold pushLayerRestore
  split
  · split
    · exact covers_pushWithoutCoveredRect_of_covers h
    · exact h
  · exact h

theorem covers_pushLayerRestore_self {c : PhysicalLayerState} {d : Option PhysicalLayerState}
    (hr : directLayerNeedsRestore (some c) d = true) (h : c.rect.Mem p) :
    (pushLayerRestore l (some c) d).Covers p := by
  simp only [pushLayerRestore, hr, if_true]
  exact covers_pushWithoutCoveredRect_self h

/-- A layer the restore list does not touch shares no pixel with it. -/
theorem not_covers_of_not_intersects {s : PhysicalLayerState}
    (h : layerIntersectsRestore (some s) l = false) (hp : s.rect.Mem p) : ¬ l.Covers p := by
  rintro ⟨r, hr, hrp⟩
  simp only [layerIntersectsRestore, Option.any_some, List.any_eq_false] at h
  exact h r hr (DirtyRect.intersection_isSome_iff.mpr ⟨p, hrp, hp⟩)

/-- Subtracting a pushed optional rectangle: outside it the cuts do not reach. -/
theorem covers_pushIfSome {o : Option DirtyRect} :
    (DirtyRectList.new.pushIfSome o).Covers p ↔ ∃ r, o = some r ∧ r.Mem p := by
  cases o with
  | none => simp [DirtyRectList.pushIfSome]
  | some r =>
      show (DirtyRectList.fromOne r).Covers p ↔ _
      simp

theorem covers_of_covers_push {r : DirtyRect} (hl : l.len < DIRTY_RECT_LIST_CAP)
    (h : (l.push r).Covers p) : l.Covers p ∨ r.Mem p := by
  cases he : r.isEmpty with
  | true =>
      rw [DirtyRectList.push_of_isEmpty he] at h
      exact .inl h
  | false =>
      obtain ⟨e, hmem, hp⟩ := h
      rw [DirtyRectList.iter_push_of_lt he hl, List.mem_append, List.mem_singleton] at hmem
      rcases hmem with hmem | rfl
      · exact .inl ⟨e, hmem, hp⟩
      · exact .inr hp

/-- The cuts of a plan are its two redraw rectangles. -/
theorem covers_redraws {a b : Option DirtyRect}
    (h : ((DirtyRectList.new.pushIfSome a).pushIfSome b).Covers p) :
    (∃ r, a = some r ∧ r.Mem p) ∨ ∃ r, b = some r ∧ r.Mem p := by
  cases b with
  | none => exact .inl (covers_pushIfSome.mp h)
  | some r =>
      have hlen : (DirtyRectList.new.pushIfSome a).len ≤ 1 := by
        cases a with
        | none => simp [DirtyRectList.pushIfSome, DirtyRectList.new]
        | some r' =>
            cases he : r'.isEmpty with
            | true =>
                simp [DirtyRectList.pushIfSome, DirtyRectList.push_of_isEmpty he,
                  DirtyRectList.new]
            | false =>
                rw [← DirtyRectList.length_iter]
                simp only [DirtyRectList.pushIfSome]
                rw [DirtyRectList.iter_push_of_lt he (by decide)]
                simp
      rcases covers_of_covers_push (Nat.lt_of_le_of_lt hlen (by decide)) h with h | h
      · exact .inl (covers_pushIfSome.mp h)
      · exact .inr ⟨r, rfl, h⟩

end Restore

/-! ## 3. The call -/

/-- The rectangle the plan redraws of a layer. -/
def LatchPresentPlan.redraw (plan : LatchPresentPlan) : PhysicalLayerRole → Option DirtyRect
  | .preview => plan.previewRedraw
  | .arcade => plan.arcadeRedraw.map (·.dirtyRect)

namespace TwoBufferLatchState

variable {self : TwoBufferLatchState} {input : LatchFramePlan}

/-- The state after an accepted frame: damage recorded, publications planned. -/
def accepted (self : TwoBufferLatchState) (input : LatchFramePlan) : TwoBufferLatchState :=
  let planned := input.layers.map (·.publication)
  { self with
    baseDamage := self.baseDamage.recordDamage input.cachedDamage
    plannedPublications := planned
    latestPublicationGeneration :=
      noteLatest (noteLatest self.latestPublicationGeneration planned.preview) planned.arcade }

/-- **Everything `planNext` can do.** -/
theorem planNext_cases (self : TwoBufferLatchState) (input : LatchFramePlan) :
    (∃ e, e ≠ .noWritableSlot ∧ self.planNext input = (self, .error e)) ∨
    (firstPublicationMismatch input = none ∧ self.stalePublicationError input = none ∧
      ((self.selectWritableSlot = none ∧ self.planNext input =
          ({ self with baseDamage := self.baseDamage.recordDamage input.cachedDamage },
            .error .noWritableSlot)) ∨
       ∃ k, self.selectWritableSlot = some k ∧ self.planNext input =
          (self.accepted input, .ok ((self.accepted input).planForSlot k input)))) := by
  unfold planNext
  cases hm : firstPublicationMismatch input with
  | some role => exact .inl ⟨_, by simp, rfl⟩
  | none =>
      cases hs : self.stalePublicationError input with
      | some e =>
          refine .inl ⟨e, ?_, rfl⟩
          rintro rfl
          obtain ⟨p, -, hp⟩ := List.exists_of_findSome?_eq_some hs
          unfold publicationStale at hp
          split at hp
          · cases hp
          · split at hp <;> cases hp
      | none =>
          refine .inr ⟨rfl, rfl, ?_⟩
          have hsel : ({ self with baseDamage := self.baseDamage.recordDamage input.cachedDamage }
              : TwoBufferLatchState).selectWritableSlot = self.selectWritableSlot := rfl
          dsimp only
          rw [hsel]
          cases hk : self.selectWritableSlot with
          | none => exact .inl ⟨rfl, rfl⟩
          | some k => exact .inr ⟨k, rfl, rfl⟩

theorem planNext_ok {s' : TwoBufferLatchState} {plan : LatchPresentPlan}
    (h : self.planNext input = (s', .ok plan)) :
    firstPublicationMismatch input = none ∧ self.selectWritableSlot = some plan.slotIndex ∧
      s' = self.accepted input ∧
      plan = (self.accepted input).planForSlot plan.slotIndex input := by
  rcases planNext_cases self input with ⟨e, -, h'⟩ | ⟨hm, -, ⟨-, h'⟩ | ⟨k, hk, h'⟩⟩
  · rw [h] at h'
    simp at h'
  · rw [h] at h'
    simp at h'
  · rw [h] at h'
    obtain ⟨h1, h2⟩ := Prod.ext_iff.mp h'
    dsimp only at h1 h2
    obtain rfl := Except.ok.inj h2
    exact ⟨hm, hk, h1, rfl⟩

theorem fullRect_planNext (self : TwoBufferLatchState) (input : LatchFramePlan) :
    (self.planNext input).1.baseDamage.fullRect = self.baseDamage.fullRect := by
  rcases planNext_cases self input with ⟨e, -, h⟩ | ⟨-, -, ⟨-, h⟩ | ⟨k, -, h⟩⟩ <;> rw [h] <;> rfl

@[simp] theorem slotIndex_planForSlot (k : SlotIndex) :
    (self.planForSlot k input).slotIndex = k := rfl

@[simp] theorem slots_accepted : (self.accepted input).slots = self.slots := rfl

@[simp] theorem slot_accepted (k : SlotIndex) : (self.accepted input).slot k = self.slot k := rfl

@[simp] theorem slotPublications_accepted :
    (self.accepted input).slotPublications = self.slotPublications := rfl

@[simp] theorem baseDamage_accepted :
    (self.accepted input).baseDamage = self.baseDamage.recordDamage input.cachedDamage := rfl

@[simp] theorem plannedPublications_accepted :
    (self.accepted input).plannedPublications = input.layers.map (·.publication) := rfl

/-! ## 4. The restore list of a slot -/

section Plan

variable {k : SlotIndex} {p : Pixel}

theorem covers_restoreRectsFor_of_debt (h : (self.baseDamage.plan k).Covers p) :
    (self.restoreRectsFor k input).Covers p :=
  covers_pushLayerRestore_of_covers (covers_pushLayerRestore_of_covers h)

/-- A layer of the slot that the frame gives up, moves or replaces is restored. -/
theorem covers_restoreRectsFor_of_layer (role : PhysicalLayerRole) {c : PhysicalLayerState}
    (hc : (self.slot k).layers.get role = some c)
    (hr : directLayerNeedsRestore (some c) (input.layers.get role).desired = true)
    (hp : c.rect.Mem p) : (self.restoreRectsFor k input).Covers p := by
  unfold restoreRectsFor
  cases role with
  | preview =>
      have hc' : (self.slot k).layers.preview = some c := hc
      dsimp only
      rw [hc']
      exact covers_pushLayerRestore_of_covers (covers_pushLayerRestore_self hr hp)
  | arcade =>
      have hc' : (self.slot k).layers.arcade = some c := hc
      dsimp only
      rw [hc']
      exact covers_pushLayerRestore_self hr hp

/-- The plan restores what its restore list covered outside the layers it redraws. -/
theorem restore_covers_of_not_redrawn (h : (self.restoreRectsFor k input).Covers p)
    (hp : ∀ r, (self.planForSlot k input).previewRedraw = some r → ¬ r.Mem p)
    (ha : ∀ u, (self.planForSlot k input).arcadeRedraw = some u → ¬ u.dirtyRect.Mem p) :
    (self.planForSlot k input).restoreRects.Covers p := by
  refine covers_subtractDirtyRects_of_not_cut h fun hc => ?_
  rcases covers_redraws hc with ⟨r, hr, hrp⟩ | ⟨r, hr, hrp⟩
  · exact hp r hr hrp
  · obtain ⟨u, hu, rfl⟩ := Option.map_eq_some_iff.mp hr
    exact ha u hu hrp

/-- The plan restores nothing else. -/
theorem covers_restoreRectsFor_of_restore
    (h : (self.planForSlot k input).restoreRects.Covers p) :
    (self.restoreRectsFor k input).Covers p :=
  covers_of_covers_subtractDirtyRects h

end Plan

/-! ## 5. The other calls, slot by slot -/

section Calls

variable (plan : LatchPresentPlan) (k : SlotIndex)

theorem slot_markPostSuccess_self (self : TwoBufferLatchState) (plan : LatchPresentPlan) :
    (self.markPostSuccess plan).slot plan.slotIndex =
    { layers := ⟨plan.previewAfter, plan.arcadeAfter⟩, hardware := .unknown } :=
  PerSlot.get_set_self ..

theorem slotPublications_markPostSuccess_self (self : TwoBufferLatchState)
    (plan : LatchPresentPlan) :
    (self.markPostSuccess plan).slotPublications.get plan.slotIndex =
      self.plannedPublications.map (·.map (·.identity)) := PerSlot.get_set_self ..

theorem slot_markAttemptFailed_self : (self.markAttemptFailed k).slot k =
    { layers := .both none, hardware := .unknown } := PerSlot.get_set_self ..

theorem debt_markAttemptFailed_self : (self.markAttemptFailed k).baseDamage.plan k =
    .fromOne self.baseDamage.fullRect :=
  (TwoSlotDamageLedger.plan_markAttemptFailed ..).trans (if_pos rfl)

/-- Two latch states say the same of slot `k`. -/
structure SameSlot (a b : TwoBufferLatchState) (k : SlotIndex) : Prop where
  layers : (a.slot k).layers = (b.slot k).layers
  publications : a.slotPublications.get k = b.slotPublications.get k
  debt : a.baseDamage.plan k = b.baseDamage.plan k

/-- Posting a plan says nothing new of the other slot. -/
theorem markPostSuccess_other {plan : LatchPresentPlan} {j : SlotIndex} (h : j ≠ plan.slotIndex) :
    SameSlot (self.markPostSuccess plan) self j where
  layers := congrArg _ (PerSlot.get_set_of_ne _ h _)
  publications := PerSlot.get_set_of_ne _ h _
  debt := (TwoSlotDamageLedger.plan_markPresented ..).trans (if_neg h.symm)

theorem markAttemptFailed_other {j k : SlotIndex} (h : j ≠ k) :
    SameSlot (self.markAttemptFailed k) self j where
  layers := congrArg _ (PerSlot.get_set_of_ne _ h _)
  publications := PerSlot.get_set_of_ne _ h _
  debt := (TwoSlotDamageLedger.plan_markAttemptFailed ..).trans (if_neg h.symm)

@[simp] theorem layers_invalidateAll (k : SlotIndex) :
    (self.invalidateAll.slot k).layers = .both none := by
  cases k <;> rfl

@[simp] theorem baseDamage_invalidateAll :
    self.invalidateAll.baseDamage = self.baseDamage.invalidateAll := rfl

/-- A status read changes what is known of the hardware and nothing else. -/
theorem syncHardware_keeps (self : TwoBufferLatchState) (active : Option SlotIndex)
    (activeSequence : BitVec 16) (pending : Bool) (pendingSequence : BitVec 16) :
    let s := self.syncHardware active activeSequence pending pendingSequence
    (∀ k, (s.slot k).layers = (self.slot k).layers) ∧ s.slotPublications = self.slotPublications ∧
      s.baseDamage = self.baseDamage := by
  unfold syncHardware
  cases pending with
  | true => exact ⟨fun k => by cases k <;> rfl, rfl, rfl⟩
  | false =>
      cases active with
      | none => exact ⟨fun k => by cases k <;> rfl, rfl, rfl⟩
      | some a => exact ⟨fun k => by cases a <;> cases k <;> rfl, rfl, rfl⟩

end Calls

end TwoBufferLatchState

end MisterMagik.Framebuffer
