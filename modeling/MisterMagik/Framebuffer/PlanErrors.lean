/-
  File:      MisterMagik/Framebuffer/PlanErrors.lean
  Subject:   What a frame leaves behind that `plan_next` refuses.

  The publications are checked before the damage is recorded, the slot is chosen after it. So a
  frame that finds no slot is owed to both slots all the same, and a frame whose publications are
  refused has left no trace: its damage has to be offered again.

  * `failed_plan_keeps` -- both, in every state a run reaches;
  * `refused_damage_not_owed` -- a frame with an older publication whose damage nobody owes.
-/
import MisterMagik.Framebuffer.Coherence
import MisterMagik.Framebuffer.LayerRedraw

namespace MisterMagik.Framebuffer

open TwoBufferLatchState (planNext_cases fullRect_planNext)

theorem fullRect_apply (self : TwoBufferLatchState) (c : LatchCall) :
    (c.apply self).baseDamage.fullRect = self.baseDamage.fullRect := by
  cases c with
  | syncHardware active activeSequence pending pendingSequence =>
      have hkeeps := TwoBufferLatchState.syncHardware_keeps self active activeSequence pending
        pendingSequence
      exact congrArg (·.fullRect) hkeeps.2.2
  | invalidateAll => rfl
  | planNext input => exact fullRect_planNext self input
  | markPostSuccess plan => rfl
  | markAttemptFailed k => rfl

theorem fullRect_latchRun (width height : Nat) (calls : List LatchCall) :
    (latchRun width height calls).baseDamage.fullRect = ⟨0, 0, width, height⟩ := by
  induction calls using List.reverseRecOn with
  | nil => rfl
  | append_singleton calls c ih =>
      rw [latchRun_append, List.foldl_cons, List.foldl_nil, fullRect_apply, ih]

/-- **A frame that finds no slot is owed to both slots, beside what they owed, and nothing else
    changes; a frame whose publications are refused changes nothing.** -/
theorem failed_plan_keeps (width height : Nat) (calls : List LatchCall) (input : LatchFramePlan)
    (after : TwoBufferLatchState) (error : LatchPlanError)
    (h : (latchRun width height calls).planNext input = (after, .error error)) :
    (error = .noWritableSlot →
      (∀ k p, p.1 < width → p.2 < height →
        input.cachedDamage.Covers p ∨ ((latchRun width height calls).baseDamage.plan k).Covers p →
          (after.baseDamage.plan k).Covers p) ∧
      after = { latchRun width height calls with baseDamage := after.baseDamage }) ∧
    (error ≠ .noWritableSlot → after = latchRun width height calls) := by
  rcases planNext_cases (latchRun width height calls) input with
    ⟨e, hne, hrefused⟩ | ⟨-, -, ⟨-, hfull⟩ | ⟨k, -, hok⟩⟩
  · rw [h] at hrefused
    obtain ⟨rfl, he⟩ := Prod.ext_iff.1 hrefused
    obtain rfl := Except.error.inj he
    exact ⟨fun heq => absurd heq hne, fun _ => rfl⟩
  · rw [h] at hfull
    obtain ⟨rfl, he⟩ := Prod.ext_iff.1 hfull
    obtain rfl := Except.error.inj he
    refine ⟨fun _ => ⟨fun k p hx hy hcovers => ?_, rfl⟩, fun hne => absurd rfl hne⟩
    dsimp only
    rw [TwoSlotDamageLedger.plan_recordDamage, fullRect_latchRun]
    exact DirtyRectList.covers_extendCanonical ⟨Nat.zero_le _, hx, Nat.zero_le _, hy⟩ hcovers.symm
  · rw [h] at hok
    cases (Prod.ext_iff.1 hok).2

theorem second_ne_zero : 2 ≠ 0 := by decide

/-- The dot of generation 2 posted into slot 1. -/
def dotPostedRun : List LatchCall :=
  [.syncHardware none 0 false 0, .planNext (dotFrame .new 2 second_ne_zero).plan,
    .markPostSuccess ((latchRun 2 2 [.syncHardware none 0 false 0,
      .planNext (dotFrame .new 2 second_ne_zero).plan]).planForSlot .slot1
        (dotFrame .new 2 second_ne_zero).plan)]

/-- Then, with slot 1 on the display, posted into slot 2 beside a pixel of damage; that post waits
    for its vertical blank. -/
def dotPendingRun : List LatchCall :=
  dotPostedRun ++ [.syncHardware (some .slot1) 1 false 0,
    .planNext (dotFrame (.fromOne ⟨1, 0, 2, 1⟩) 2 second_ne_zero).plan,
    .markPostSuccess ((latchRun 2 2 (dotPostedRun ++ [.syncHardware (some .slot1) 1 false 0,
      .planNext (dotFrame (.fromOne ⟨1, 0, 2, 1⟩) 2 second_ne_zero).plan])).planForSlot .slot2
        (dotFrame (.fromOne ⟨1, 0, 2, 1⟩) 2 second_ne_zero).plan),
    .syncHardware (some .slot1) 1 true 2]

/-- A post is pending, which makes both slots pending, and slot 1 owes one pixel: the next frame finds
    no slot, and slot 1 owes its damage beside that pixel. Slot 2 owes the damage alone. -/
theorem failed_plan_keeps_pending :
    let after := ((latchRun 2 2 dotPendingRun).planNext
      (dotFrame (.fromOne ⟨1, 1, 2, 2⟩) 2 second_ne_zero).plan).1
    ((after.baseDamage.plan .slot1).Covers (1, 1) ∧ (after.baseDamage.plan .slot1).Covers (1, 0)) ∧
      (after.baseDamage.plan .slot2).Covers (1, 1) ∧
      ¬ ((latchRun 2 2 dotPendingRun).baseDamage.plan .slot1).Covers (1, 1) ∧
      ¬ (after.baseDamage.plan .slot2).Covers (1, 0) := by
  obtain ⟨howed, -⟩ := (failed_plan_keeps 2 2 dotPendingRun
    (dotFrame (.fromOne ⟨1, 1, 2, 2⟩) 2 second_ne_zero).plan _ .noWritableSlot rfl).1 rfl
  have hdamage : (dotFrame (.fromOne ⟨1, 1, 2, 2⟩) 2 second_ne_zero).plan.cachedDamage.Covers
      (1, 1) := DirtyRectList.covers_fromOne.2 (by decide)
  have hdebt : ((latchRun 2 2 dotPendingRun).baseDamage.plan .slot1).Covers (1, 0) := by decide
  refine ⟨⟨?_, ?_⟩, ?_, by decide, by decide⟩
  · exact howed .slot1 (1, 1) (by decide) (by decide) (.inl hdamage)
  · exact howed .slot1 (1, 0) (by decide) (by decide) (.inr hdebt)
  · exact howed .slot2 (1, 1) (by decide) (by decide) (.inl hdamage)

/-- A frame with the dot of generation 1 is refused as stale, and its damage is not owed to slot
    1. -/
theorem refused_damage_not_owed :
    ∃ after error, (latchRun 2 2 dotPostedRun).planNext
        (dotFrame (.fromOne ⟨1, 1, 2, 2⟩) 1 (by decide)).plan = (after, .error error) ∧
      (dotFrame (.fromOne ⟨1, 1, 2, 2⟩) 1 (by decide)).plan.cachedDamage.Covers (1, 1) ∧
      ¬ (after.baseDamage.plan .slot1).Covers (1, 1) :=
  ⟨_, _, rfl, DirtyRectList.covers_fromOne.2 (by decide), by decide⟩

end MisterMagik.Framebuffer
