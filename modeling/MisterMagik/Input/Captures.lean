/-
  File:      MisterMagik/Input/Captures.lean
  Subject:   What each operation of the router does to captures, repeats and neutral locks.

  * `held_iff` -- an action is held in a context by a capture of its own there;
  * `axisLocked`, `SameAxis` -- the neutral lock of a direction, and whom it concerns;
  * `Pressed`, `pressed` -- everything a routed press does;
  * `Dropped`, `released`, `consumed_released` -- everything a release does, on either path.
-/
import MisterMagik.Input.Router

namespace MisterMagik.Input

/-! ## 1. Held actions -/

/-- The two directions of an axis, and an action with itself. -/
def SameAxis (a b : LogicalAction) : Prop := a = b ∨ opposite a = some b

instance (a b : LogicalAction) : Decidable (SameAxis a b) := inferInstanceAs (Decidable (_ ∨ _))

theorem opposite_ne {a b : LogicalAction} (h : opposite a = some b) : a ≠ b := by
  cases a <;> cases h <;> decide

theorem opposite_symm {a b : LogicalAction} (h : opposite a = some b) : opposite b = some a := by
  cases a <;> cases h <;> rfl

namespace InputRouter

variable {r r' : InputRouter} {a b : LogicalAction} {c : ContextId} {e : InputEvent}

theorem held_iff : r.actionHeldInContext a c = true ↔
    ∃ k cap, r.captures.lookup k = some cap ∧ cap.context = c ∧ cap.action = a := by
  simp only [actionHeldInContext, List.any_eq_true, decide_eq_true_eq]
  constructor
  · rintro ⟨⟨k, cap⟩, hmem, hc, ha⟩
    exact ⟨k, cap, AList.mem_lookup_iff.mpr hmem, hc, ha⟩
  · rintro ⟨k, cap, hl, hc, ha⟩
    exact ⟨⟨k, cap⟩, AList.mem_lookup_iff.mp hl, hc, ha⟩

/-- The neutral lock of the axis of an action. -/
def axisLocked (r : InputRouter) : LogicalAction → Bool
  | .left | .right => r.horizontalNeutralLock
  | .up | .down => r.verticalNeutralLock
  | _ => false

theorem axisLocked_opposite (h : opposite a = some b) : r.axisLocked b = r.axisLocked a := by
  cases a <;> cases h <;> rfl

theorem axisLocked_of_sameAxis (h : SameAxis a b) : r.axisLocked b = r.axisLocked a := by
  rcases h with rfl | h
  · rfl
  · exact axisLocked_opposite h

/-- An action is reported held if it is held in the context and its axis is not locked. -/
theorem actionHeld_iff : r.actionHeld a = true ↔
    r.axisLocked a = false ∧ r.actionHeldInContext a r.context = true := by
  cases a <;> simp [actionHeld, axisLocked]

/-! ## 2. Captures -/

theorem lookup_insertCapture (r : InputRouter) (e : InputEvent) (c : ContextId) (k : CaptureKey) :
    (r.insertCapture e c).captures.lookup k =
      if k = .of e then some ⟨c, e.action⟩ else r.captures.lookup k := by
  unfold insertCapture
  by_cases h : k = .of e
  · subst h
    rw [if_pos rfl]
    exact AList.lookup_insert _
  · rw [if_neg h]
    exact AList.lookup_insert_ne h

theorem lookup_removeCapture (r : InputRouter) (e : InputEvent) (k : CaptureKey) :
    (r.removeCapture e).captures.lookup k = if k = .of e then none else r.captures.lookup k := by
  unfold removeCapture
  by_cases h : k = .of e
  · subst h
    rw [if_pos rfl]
    exact AList.lookup_erase _ _
  · rw [if_neg h]
    exact AList.lookup_erase_ne h

/-- A new capture holds its own action and takes no other away. -/
theorem held_insertCapture (hnew : r.captures.lookup (.of e) = none) :
    (r.insertCapture e c).actionHeldInContext a r.context = true ↔
      (c = r.context ∧ a = e.action) ∨ r.actionHeldInContext a r.context = true := by
  rw [held_iff, held_iff]
  constructor
  · rintro ⟨k, cap, hl, hc, ha⟩
    rw [lookup_insertCapture] at hl
    split at hl
    · cases hl
      exact .inl ⟨hc, ha.symm⟩
    · exact .inr ⟨k, cap, hl, hc, ha⟩
  · rintro (⟨hc, ha⟩ | ⟨k, cap, hl, hc, ha⟩)
    · exact ⟨.of e, ⟨c, e.action⟩, by rw [lookup_insertCapture, if_pos rfl], hc, ha.symm⟩
    · refine ⟨k, cap, ?_, hc, ha⟩
      rw [lookup_insertCapture, if_neg]
      · exact hl
      · rintro rfl
        rw [hnew] at hl
        cases hl

/-- What is held after a capture is gone was held before. -/
theorem held_of_removeCapture (h : (r.removeCapture e).actionHeldInContext a c = true) :
    r.actionHeldInContext a c = true := by
  obtain ⟨k, cap, hl, hc, ha⟩ := held_iff.mp h
  rw [lookup_removeCapture] at hl
  split at hl
  · cases hl
  · exact held_iff.mpr ⟨k, cap, hl, hc, ha⟩

/-- What is not held any more was held by that capture. -/
theorem capture_of_dropped (h : r.actionHeldInContext a c = true)
    (hd : (r.removeCapture e).actionHeldInContext a c = false) :
    r.captures.lookup (.of e) = some ⟨c, a⟩ := by
  obtain ⟨k, cap, hl, rfl, rfl⟩ := held_iff.mp h
  by_cases hk : k = .of e
  · subst hk
    exact hl
  · have ht : (r.removeCapture e).actionHeldInContext cap.action cap.context = true :=
      held_iff.mpr ⟨k, cap, by rw [lookup_removeCapture, if_neg hk]; exact hl, rfl, rfl⟩
    rw [ht] at hd
    cases hd

/-! ## 3. Neutral locks -/

theorem updateNeutralLocks_frame (r : InputRouter) (c : ContextId) :
    (r.updateNeutralLocks c).captures = r.captures ∧ (r.updateNeutralLocks c).repeats = r.repeats ∧
      (r.updateNeutralLocks c).context = r.context := by
  unfold updateNeutralLocks
  dsimp only
  split_ifs <;> exact ⟨rfl, rfl, rfl⟩

/-- In the current context a lock stays while one of its directions is held. -/
theorem updateNeutralLocks_current (r : InputRouter) :
    r.updateNeutralLocks r.context = { r with
      horizontalNeutralLock := r.horizontalNeutralLock &&
        (r.actionHeldInContext .left r.context || r.actionHeldInContext .right r.context)
      verticalNeutralLock := r.verticalNeutralLock &&
        (r.actionHeldInContext .up r.context || r.actionHeldInContext .down r.context) } := by
  unfold updateNeutralLocks
  rw [if_neg (not_not.mpr rfl)]
  dsimp only
  -- the vertical check reads captures the horizontal one has not changed
  have hv : ∀ b, ({ r with horizontalNeutralLock := false }).actionHeldInContext b r.context =
      r.actionHeldInContext b r.context := fun _ => rfl
  rw [apply_ite (fun r' : InputRouter => r'.actionHeldInContext .up r.context),
    apply_ite (fun r' : InputRouter => r'.actionHeldInContext .down r.context), hv, hv, ite_self,
    ite_self]
  cases r.actionHeldInContext .left r.context <;> cases r.actionHeldInContext .right r.context <;>
    cases r.actionHeldInContext .up r.context <;> cases r.actionHeldInContext .down r.context <;>
    simp

/-- A lock is only ever opened here, and only with both directions released. -/
theorem axisLocked_updateNeutralLocks (r : InputRouter) (c : ContextId) (a : LogicalAction) :
    (r.updateNeutralLocks c).axisLocked a = r.axisLocked a ∨
      ((r.updateNeutralLocks c).axisLocked a = false ∧
        ∀ b, SameAxis a b → r.actionHeldInContext b r.context = false) := by
  by_cases hc : c = r.context
  · subst hc
    rw [updateNeutralLocks_current]
    cases a with
    | left | right =>
        cases hl : r.actionHeldInContext .left r.context <;>
          cases hr : r.actionHeldInContext .right r.context <;>
          simp [axisLocked, SameAxis, opposite, hl, hr, or_imp, forall_and]
    | up | down =>
        cases hu : r.actionHeldInContext .up r.context <;>
          cases hd : r.actionHeldInContext .down r.context <;>
          simp [axisLocked, SameAxis, opposite, hu, hd, or_imp, forall_and]
    | _ => exact .inl rfl
  · left
    rw [updateNeutralLocks, if_pos hc]

/-! ## 4. Presses -/

/-- The contexts a press is dispatched in. -/
def Dispatches (kind : InputContextKind) : Prop :=
  kind ≠ .disabled ∧ kind ≠ .screensaver ∧ kind ≠ .transition

/-- Everything a press does that is not a repetition of one still captured. -/
inductive Pressed (r : InputRouter) (e : InputEvent) (now : Nat) : InputOutcome → InputRouter → Prop
  where
  | opposed {o : InputOutcome} {r' : InputRouter}
      (hcap : r'.captures = (r.insertCapture e r.context).captures) (hctx : r'.context = r.context)
      (hlock : ∀ a, r'.axisLocked a = (r.axisLocked a || decide (SameAxis e.action a)))
      (hrep : ∀ a, r'.repeats a = if SameAxis e.action a then none else r.repeats a)
      (ho : ∀ event pressId context, o ≠ .released event pressId context) : Pressed r e now o r'
  | free {o : InputOutcome} {r' : InputRouter}
      (hcap : r'.captures = (r.insertCapture e r.context).captures) (hctx : r'.context = r.context)
      (hlock : ∀ a, r'.axisLocked a = r.axisLocked a) (hopen : r.axisLocked e.action = false)
      (hopp : ∀ b, opposite e.action = some b → r.actionHeldInContext b r.context = false)
      (hrep : r'.repeats = r.repeats ∨ (Dispatches r.context.target.kind ∧
        isDirection e.action = true ∧ r'.repeats = Function.update r.repeats e.action
          (some ⟨e, r.context, now + MENU_REPEAT_DELAY⟩)))
      (ho : ∀ event pressId context, o ≠ .released event pressId context) : Pressed r e now o r'

/-- The neutral lock a press meets: set before, or set by the opposite direction. -/
theorem opposingDirectionLocked_eq (r : InputRouter) (h : opposite a = some b) :
    (r.opposingDirectionLocked a).1 = (r.axisLocked a || r.actionHeldInContext b r.context) ∧
      (r.opposingDirectionLocked a).2.captures = r.captures ∧
      (r.opposingDirectionLocked a).2.context = r.context ∧
      (r.opposingDirectionLocked a).2.repeats = r.repeats ∧
      (r.opposingDirectionLocked a).2.policy = r.policy ∧
      ∀ d, (r.opposingDirectionLocked a).2.axisLocked d =
        (r.axisLocked d || (decide (SameAxis a d) && r.actionHeldInContext b r.context)) := by
  cases a <;> cases h <;> refine ⟨rfl, rfl, rfl, rfl, rfl, fun d => ?_⟩ <;> cases d <;>
    simp [opposingDirectionLocked, opposite, axisLocked, SameAxis]

theorem opposingDirectionLocked_none (r : InputRouter) (h : opposite a = none) :
    r.opposingDirectionLocked a = (false, r) := by
  unfold opposingDirectionLocked
  rw [h]

theorem axisLocked_of_none (h : opposite a = none) : r.axisLocked a = false := by
  cases a <;> first | rfl | cases h

/-- The opposite direction of a press is not the press's own capture. -/
theorem held_opposite_insertCapture (hnew : r.captures.lookup (.of e) = none)
    (h : opposite e.action = some b) :
    (r.insertCapture e c).actionHeldInContext b r.context = r.actionHeldInContext b r.context := by
  rw [← Bool.coe_iff_coe, held_insertCapture hnew]
  exact or_iff_right fun ⟨_, hb⟩ => opposite_ne h hb.symm

theorem armRepeat_cases (r : InputRouter) (e : InputEvent) (c : ContextId) (now : Nat) :
    (r.armRepeat e c now).captures = r.captures ∧ (r.armRepeat e c now).context = r.context ∧
      (∀ a, (r.armRepeat e c now).axisLocked a = r.axisLocked a) ∧
      ((r.armRepeat e c now).repeats = r.repeats ∨ (isDirection e.action = true ∧
        (r.armRepeat e c now).repeats = Function.update r.repeats e.action
          (some ⟨e, c, now + MENU_REPEAT_DELAY⟩))) := by
  unfold armRepeat
  split
  · rename_i h
    exact ⟨rfl, rfl, fun a => by cases a <;> rfl, .inr ⟨h.2, rfl⟩⟩
  · exact ⟨rfl, rfl, fun _ => rfl, .inl rfl⟩

/-- A press that is let through changes no capture and no lock. -/
theorem deliverPress_cases (r : InputRouter) (e : InputEvent) (c : ContextId) (now : Nat) :
    (r.deliverPress e c now).2.captures = r.captures ∧
      (r.deliverPress e c now).2.context = r.context ∧
      (∀ a, (r.deliverPress e c now).2.axisLocked a = r.axisLocked a) ∧
      ((r.deliverPress e c now).2.repeats = r.repeats ∨ (Dispatches c.target.kind ∧
        isDirection e.action = true ∧ (r.deliverPress e c now).2.repeats =
          Function.update r.repeats e.action (some ⟨e, c, now + MENU_REPEAT_DELAY⟩))) ∧
      ∀ event pressId context, (r.deliverPress e c now).1 ≠ .released event pressId context := by
  unfold deliverPress
  split
  · exact ⟨rfl, rfl, fun _ => rfl, .inl rfl, by simp⟩
  · exact ⟨rfl, rfl, fun _ => rfl, .inl rfl, by simp⟩
  · exact ⟨rfl, rfl, fun _ => rfl, .inl rfl, by simp⟩
  · rename_i hd hs ht
    obtain ⟨h1, h2, h3, h4⟩ := armRepeat_cases r e c now
    exact ⟨h1, h2, h3, h4.imp id fun h => ⟨⟨hd, hs, ht⟩, h⟩, by simp⟩

/-- **What a press does.** -/
theorem pressed (now : Nat) (hnew : r.captures.lookup (.of e) = none) :
    Pressed r e now (r.routePressed e r.context now).1 (r.routePressed e r.context now).2 := by
  unfold routePressed
  rw [hnew, if_neg (by simp)]
  have hax : ∀ d, (r.insertCapture e r.context).axisLocked d = r.axisLocked d := by
    intro d
    cases d <;> rfl
  cases hop : opposite e.action with
  | none =>
      dsimp only
      rw [opposingDirectionLocked_none _ hop]
      dsimp only
      rw [if_neg Bool.false_ne_true]
      obtain ⟨h1, h2, h3, h4, h5⟩ :=
        deliverPress_cases (r.insertCapture e r.context) e r.context now
      refine .free h1 h2 (fun d => (h3 d).trans (hax d)) (axisLocked_of_none hop) (fun b hb => ?_)
        h4 h5
      rw [hop] at hb
      cases hb
  | some b =>
      have hheld := held_opposite_insertCapture (c := r.context) hnew hop
      obtain ⟨hl, hcap, hctx, hrep, -, hlock⟩ :=
        opposingDirectionLocked_eq (r.insertCapture e r.context) hop
      have hctx' : (r.insertCapture e r.context).context = r.context := rfl
      rw [hctx', hheld, hax] at hl
      simp only [hctx', hheld, hax] at hlock
      dsimp only
      rw [hl]
      cases hlk : r.axisLocked e.action || r.actionHeldInContext b r.context with
      | true =>
          rw [if_pos rfl]
          refine .opposed hcap hctx (fun d => ?_) (fun d => ?_) (by simp)
          · have hframe : ∀ (r₁ : InputRouter),
                ((r₁.removeRepeat e.action).removeRepeat b).axisLocked d
                = r₁.axisLocked d := by
              intro r₁
              cases d <;> rfl
            rw [hframe, hlock]
            by_cases hs : SameAxis e.action d
            · rw [← axisLocked_of_sameAxis (r := r) hs] at hlk
              simp [hs, hlk]
            · simp [hs]
          · have hr : ∀ (r₁ : InputRouter), ((r₁.removeRepeat e.action).removeRepeat b).repeats =
                Function.update (Function.update r₁.repeats e.action none) b none := fun _ => rfl
            rw [hr, hrep]
            by_cases hd : d = b
            · subst hd
              rw [Function.update_self, if_pos (.inr hop)]
            · rw [Function.update_of_ne hd]
              by_cases ha : d = e.action
              · subst ha
                rw [Function.update_self, if_pos (.inl rfl)]
              · rw [Function.update_of_ne ha, if_neg]
                · rfl
                · rintro (h | h)
                  · exact ha h.symm
                  · rw [hop] at h
                    exact hd (Option.some.inj h).symm
      | false =>
          obtain ⟨hopen, hb⟩ := Bool.or_eq_false_iff.mp hlk
          rw [if_neg Bool.false_ne_true]
          obtain ⟨h1, h2, h3, h4, h5⟩ := deliverPress_cases
            ((r.insertCapture e r.context).opposingDirectionLocked e.action).2 e r.context now
          refine .free (h1.trans hcap) (h2.trans hctx) (fun d => ?_) hopen (fun b' hb' => ?_) ?_ h5
          · rw [h3, hlock, hb, Bool.and_false, Bool.or_false]
          · rw [hop] at hb'
            obtain rfl := Option.some.inj hb'
            exact hb
          · rw [hrep] at h4
            exact h4

/-- What every press does: it is captured, and what is repeated after it was before, or is it. -/
theorem Pressed.frame {now : Nat} {o : InputOutcome} (h : Pressed r e now o r') :
    r'.captures = (r.insertCapture e r.context).captures ∧ r'.context = r.context ∧
      ∀ a state, r'.repeats a = some state → r.repeats a = some state ∨ state.event = e := by
  cases h with
  | opposed hcap hctx _ hrep =>
      refine ⟨hcap, hctx, fun a state hs => ?_⟩
      rw [hrep] at hs
      split at hs
      · cases hs
      · exact .inl hs
  | free hcap hctx _ _ _ hrep =>
      refine ⟨hcap, hctx, fun a state hs => ?_⟩
      rcases hrep with hrep | ⟨-, -, hrep⟩
      · rw [hrep] at hs
        exact .inl hs
      · rw [hrep] at hs
        by_cases ha : a = e.action
        · subst ha
          rw [Function.update_self] at hs
          obtain rfl := Option.some.inj hs
          exact .inr rfl
        · rw [Function.update_of_ne ha] at hs
          exact .inl hs

/-! ## 5. Releases -/

/-- What a release leaves alone, on either path. -/
structure Dropped (r : InputRouter) (e : InputEvent) (r' : InputRouter) : Prop where
  captures : r'.captures = (r.removeCapture e).captures
  context : r'.context = r.context
  lock : ∀ a, r'.axisLocked a = r.axisLocked a ∨ (r'.axisLocked a = false ∧
    ∀ b, SameAxis a b → (r.removeCapture e).actionHeldInContext b r.context = false)

theorem dropped_updateNeutralLocks (r : InputRouter) (e : InputEvent) (r₁ : InputRouter)
    (hcap : r₁.captures = (r.removeCapture e).captures) (hctx : r₁.context = r.context)
    (hlock : ∀ a, r₁.axisLocked a = r.axisLocked a) (c : ContextId) :
    Dropped r e (r₁.updateNeutralLocks c) where
  captures := (updateNeutralLocks_frame r₁ c).1.trans hcap
  context := (updateNeutralLocks_frame r₁ c).2.2.trans hctx
  lock := by
    intro a
    rcases axisLocked_updateNeutralLocks r₁ c a with h | ⟨h1, h2⟩
    · exact .inl (h.trans (hlock a))
    · refine .inr ⟨h1, fun b hb => ?_⟩
      have h := h2 b hb
      rw [actionHeldInContext, hcap, hctx] at h
      exact h

/-- **What a routed release does**: nothing, if its press is not captured any more; else the
    capture goes, and the repeat too unless the action is held on. -/
theorem released (h : r.captures.lookup (.of e) = none) :
    r.routeReleased e = (.consumed e.pressId .staleRelease, r) := by
  unfold routeReleased
  rw [h]

theorem released_captured {cap : Capture} (h : r.captures.lookup (.of e) = some cap) :
    (r.routeReleased e).1 = .released e e.pressId cap.context ∧
      Dropped r e (r.routeReleased e).2 ∧
      (r.routeReleased e).2.repeats =
        if (r.removeCapture e).actionHeldInContext e.action cap.context then r.repeats
        else Function.update r.repeats e.action none := by
  unfold routeReleased
  rw [h]
  dsimp only
  have hax : ∀ d, (r.removeCapture e).axisLocked d = r.axisLocked d := by
    intro d
    cases d <;> rfl
  split
  · refine ⟨rfl, dropped_updateNeutralLocks r e _ rfl rfl hax _, ?_⟩
    exact (updateNeutralLocks_frame _ _).2.1
  · have hax' : ∀ d, ((r.removeCapture e).removeRepeat e.action).axisLocked d = r.axisLocked d := by
      intro d
      cases d <;> rfl
    refine ⟨rfl, dropped_updateNeutralLocks r e ((r.removeCapture e).removeRepeat e.action) rfl rfl
      hax' _, ?_⟩
    exact (updateNeutralLocks_frame _ _).2.1

/-- **What a consumed release does**: the repeat stays, whatever is held. -/
theorem consumed_released (h : e.phase = .released) :
    Dropped r e (r.consumeEvent e) ∧ (r.consumeEvent e).repeats = r.repeats := by
  unfold consumeEvent
  rw [h]
  dsimp only
  refine ⟨dropped_updateNeutralLocks r e _ rfl rfl (fun d => ?_) _, ?_⟩
  · cases d <;> rfl
  · exact (updateNeutralLocks_frame _ _).2.1

theorem consumed_pressed (h : e.phase = .pressed) :
    r.consumeEvent e = r.insertCapture e r.context := by
  unfold consumeEvent
  rw [h]

/-! ## 6. Repeats -/

/-- What `tick_repeat` dispatches is due and of the current context. -/
theorem tickRepeatFrom_cases (r : InputRouter) (now : Nat) (actions : List LogicalAction) :
    r.tickRepeatFrom now actions = (none, r) ∨ ∃ a state, r.repeats a = some state ∧
      state.context = r.context ∧ r.tickRepeatFrom now actions =
        (some (.dispatch state.event state.context .repeat), { r with
          repeats := Function.update r.repeats a
            (some { state with nextAt := now + MENU_REPEAT_INTERVAL }) }) := by
  induction actions with
  | nil => exact .inl rfl
  | cons a actions ih =>
      rw [tickRepeatFrom]
      cases hs : r.repeats a with
      | none => exact ih
      | some state =>
          dsimp only
          by_cases hd : state.context ≠ r.context ∨ now < state.nextAt
          · rw [if_pos hd]
            exact ih
          · rw [if_neg hd]
            exact .inr ⟨a, state, hs, not_not.mp (not_or.mp hd).1, rfl⟩

theorem tickRepeat_cases (r : InputRouter) (now : Nat) :
    r.tickRepeat now = (none, r) ∨ ∃ a state, r.repeats a = some state ∧
      state.context = r.context ∧ r.tickRepeat now =
        (some (.dispatch state.event state.context .repeat), { r with
          repeats := Function.update r.repeats a
            (some { state with nextAt := now + MENU_REPEAT_INTERVAL }) }) :=
  tickRepeatFrom_cases r now _

end InputRouter

end MisterMagik.Input
