/-
  File:      MisterMagik/Input/Presses.lean
  Subject:   No ghost input: what the router repeats, reports held and releases, against the presses
             it was given.

  Beside the router goes a record of every press: its context, the era of that context, whether it
  is still down, and the contexts of the `Released` outcomes it got. A press is routed by
  `route_event` or taken by `consume_remaining_batch`; both capture it in the context of the moment.

  * `Guarded` -- the router's own invariant: opposite directions are locked, repeats are held;
  * `Tracked` -- captures are presses that are down;
  * `Clean` -- the steps of the bulk path that do not break it;
  * `no_ghost_input` -- over every run; `ghost_input` without the condition.
-/
import MisterMagik.Base.Machine
import MisterMagik.Input.Captures

namespace MisterMagik.Input

open MisterMagik.Base

/-! ## 1. The router's own invariant -/

namespace InputRouter

/-- Opposite directions held together are locked, and a repeat is of an action held in the current
    context on an open axis. -/
structure Guarded (r : InputRouter) : Prop where
  opposed : ∀ a b, opposite a = some b → r.actionHeldInContext a r.context = true →
    r.actionHeldInContext b r.context = true → r.axisLocked a = true
  repeats : ∀ a state, r.repeats a = some state → state.context = r.context ∧
    state.event.action = a ∧ isDirection a = true ∧ Dispatches r.context.target.kind ∧
    r.actionHeldInContext a r.context = true ∧ r.axisLocked a = false

variable {r r' : InputRouter} {e : InputEvent}

theorem Guarded.new (initial : FocusRequest) : (new initial).Guarded where
  opposed := by
    intro a b _ h
    cases h
  repeats := by
    intro a state h
    cases h

/-- Nothing is captured, repeated or locked. -/
theorem Guarded.of_empty (hcap : r.captures = ∅) (hrep : ∀ a, r.repeats a = none) : r.Guarded where
  opposed := by
    intro a b _ h
    rw [actionHeldInContext, hcap] at h
    cases h
  repeats := by
    intro a state h
    rw [hrep] at h
    cases h

theorem held_congr (hcap : r'.captures = r.captures) (a : LogicalAction) (c : ContextId) :
    r'.actionHeldInContext a c = r.actionHeldInContext a c := by
  unfold actionHeldInContext
  rw [hcap]

theorem Guarded.congr (h : r.Guarded) (hcap : r'.captures = r.captures)
    (hctx : r'.context = r.context) (hlock : ∀ a, r'.axisLocked a = r.axisLocked a)
    (hrep : r'.repeats = r.repeats) : r'.Guarded where
  opposed := by
    intro a b hab ha hb
    rw [held_congr hcap, hctx] at ha hb
    rw [hlock]
    exact h.opposed a b hab ha hb
  repeats := by
    intro a state hs
    rw [hrep] at hs
    rw [held_congr hcap, hctx, hlock]
    exact h.repeats a state hs

/-- The condition on an event of the bulk path: a press does not oppose a direction held on an open
    axis, and a release does not end what is repeated. -/
def CleanEvent (r : InputRouter) (e : InputEvent) : Prop :=
  match e.phase with
  | .pressed => ∀ b ∈ opposite e.action, r.actionHeldInContext b r.context = true →
      r.axisLocked e.action = true
  | .released => (r.repeats e.action).isSome = true →
      (r.removeCapture e).actionHeldInContext e.action r.context = true

instance (r : InputRouter) (e : InputEvent) : Decidable (r.CleanEvent e) := by
  unfold CleanEvent
  split <;> infer_instance

/-- A press that opposes nothing on an open axis. -/
theorem Guarded.capture (h : r.Guarded) (hnew : r.captures.lookup (.of e) = none)
    (hclean : ∀ b, opposite e.action = some b → r.actionHeldInContext b r.context = true →
      r.axisLocked e.action = true) : (r.insertCapture e r.context).Guarded := by
  have hlock : ∀ d, (r.insertCapture e r.context).axisLocked d = r.axisLocked d := by
    intro d
    cases d <;> rfl
  have hheld : ∀ d, (r.insertCapture e r.context).actionHeldInContext d
      (r.insertCapture e r.context).context = true ↔
        d = e.action ∨ r.actionHeldInContext d r.context = true := by
    intro d
    exact (held_insertCapture hnew).trans (by simp)
  refine ⟨fun a b hab ha hb => ?_, fun a state hs => ?_⟩
  · rw [hheld] at ha hb
    rw [hlock]
    rcases ha with rfl | ha
    · rcases hb with rfl | hb
      · exact absurd rfl (opposite_ne hab)
      · exact hclean b hab hb
    · rcases hb with rfl | hb
      · rw [← axisLocked_opposite hab]
        exact hclean a (opposite_symm hab) ha
      · exact h.opposed a b hab ha hb
  · obtain ⟨h1, h2, h3, h4, h5, h6⟩ := h.repeats a state hs
    exact ⟨h1, h2, h3, h4, (hheld a).mpr (.inr h5), (hlock a).trans h6⟩

/-- **A routed press keeps it.** -/
theorem Guarded.press (h : r.Guarded) (now : Nat) (hnew : r.captures.lookup (.of e) = none) :
    (r.routePressed e r.context now).2.Guarded := by
  have hp := pressed now hnew
  generalize (r.routePressed e r.context now).1 = o at hp
  generalize (r.routePressed e r.context now).2 = r' at hp
  have hheld : ∀ d, r'.captures = (r.insertCapture e r.context).captures →
      (r'.actionHeldInContext d r.context = true ↔
        d = e.action ∨ r.actionHeldInContext d r.context = true) := by
    intro d hcap
    rw [held_congr hcap]
    exact (held_insertCapture hnew).trans (by simp)
  cases hp with
  | opposed hcap hctx hlock hrep =>
      refine ⟨fun a b hab ha hb => ?_, fun a state hs => ?_⟩
      · rw [hctx, hheld _ hcap] at ha hb
        rw [hlock, Bool.or_eq_true]
        rcases ha with rfl | ha
        · exact .inr (decide_eq_true (.inl rfl))
        · rcases hb with rfl | hb
          · exact .inr (decide_eq_true (.inr (opposite_symm hab)))
          · exact .inl (h.opposed a b hab ha hb)
      · rw [hrep] at hs
        split at hs
        · cases hs
        · rename_i hsame
          obtain ⟨h1, h2, h3, h4, h5, h6⟩ := h.repeats a state hs
          rw [hctx, hheld _ hcap, hlock, h6, decide_eq_false hsame]
          exact ⟨h1, h2, h3, h4, .inr h5, rfl⟩
  | free hcap hctx hlock hopen hopp hrep =>
      have hg : (r.insertCapture e r.context).Guarded := by
        refine h.capture hnew fun b hb hheldb => ?_
        rw [hopp b hb] at hheldb
        cases hheldb
      have hlock' : ∀ d, (r.insertCapture e r.context).axisLocked d = r.axisLocked d := by
        intro d
        cases d <;> rfl
      refine ⟨fun a b hab ha hb => ?_, fun a state hs => ?_⟩
      · rw [hctx, held_congr hcap] at ha hb
        rw [hlock, ← hlock']
        exact hg.opposed a b hab ha hb
      · rw [hctx, hheld _ hcap, hlock]
        rcases hrep with hrep | ⟨hkind, hdir, hrep⟩
        · rw [hrep] at hs
          obtain ⟨h1, h2, h3, h4, h5, h6⟩ := h.repeats a state hs
          exact ⟨h1, h2, h3, h4, .inr h5, h6⟩
        · rw [hrep] at hs
          by_cases ha : a = e.action
          · subst ha
            rw [Function.update_self] at hs
            obtain rfl := Option.some.inj hs
            exact ⟨rfl, rfl, hdir, hkind, .inl rfl, hopen⟩
          · rw [Function.update_of_ne ha] at hs
            obtain ⟨h1, h2, h3, h4, h5, h6⟩ := h.repeats a state hs
            exact ⟨h1, h2, h3, h4, .inr h5, h6⟩

/-- A release keeps it if no repeat outlives what it repeats. -/
theorem Guarded.drop (h : r.Guarded) (hd : Dropped r e r')
    (hrep : ∀ a state, r'.repeats a = some state → r.repeats a = some state ∧
      (r.removeCapture e).actionHeldInContext a r.context = true) : r'.Guarded where
  opposed := by
    intro a b hab ha hb
    rw [held_congr hd.captures, hd.context] at ha hb
    have hl := h.opposed a b hab (held_of_removeCapture ha) (held_of_removeCapture hb)
    rcases hd.lock a with e | ⟨-, hn⟩
    · rw [e]
      exact hl
    · rw [hn a (.inl rfl)] at ha
      cases ha
  repeats := by
    intro a state hs
    obtain ⟨hs, hheld⟩ := hrep a state hs
    obtain ⟨h1, h2, h3, h4, -, h6⟩ := h.repeats a state hs
    rw [held_congr hd.captures, hd.context]
    refine ⟨h1, h2, h3, h4, hheld, ?_⟩
    rcases hd.lock a with e | ⟨e, -⟩
    · rw [e]
      exact h6
    · exact e

/-- **A routed release keeps it**, if it is of the action of its press. -/
theorem Guarded.release (h : r.Guarded)
    (haction : ∀ cap, r.captures.lookup (.of e) = some cap → cap.action = e.action) :
    (r.routeReleased e).2.Guarded := by
  cases hl : r.captures.lookup (.of e) with
  | none =>
      rw [released hl]
      exact h
  | some cap =>
      obtain ⟨-, hd, hrep⟩ := released_captured hl
      refine h.drop hd fun a state hs => ?_
      rw [hrep] at hs
      -- only the capture itself can take the action away
      have hkeep : ∀ d, r.actionHeldInContext d r.context = true →
          (d = e.action → (r.removeCapture e).actionHeldInContext e.action cap.context = true) →
          (r.removeCapture e).actionHeldInContext d r.context = true := by
        intro d hheld himp
        rw [← Bool.not_eq_false]
        intro hdrop
        have hcap := capture_of_dropped hheld hdrop
        rw [hl] at hcap
        obtain rfl := Option.some.inj hcap
        have hd := haction _ hl
        dsimp only at hd himp
        rw [← hd, hdrop] at himp
        exact absurd (himp rfl) Bool.false_ne_true
      by_cases hstill : (r.removeCapture e).actionHeldInContext e.action cap.context = true
      · rw [if_pos hstill] at hs
        obtain ⟨-, -, -, -, h5, -⟩ := h.repeats a state hs
        exact ⟨hs, hkeep a h5 fun _ => hstill⟩
      · rw [if_neg hstill] at hs
        by_cases ha : a = e.action
        · subst ha
          rw [Function.update_self] at hs
          cases hs
        · rw [Function.update_of_ne ha] at hs
          obtain ⟨-, -, -, -, h5, -⟩ := h.repeats a state hs
          exact ⟨hs, hkeep a h5 fun e => absurd e ha⟩

/-- **An event of the bulk path keeps it, under the condition.** -/
theorem Guarded.consume (h : r.Guarded) (hclean : r.CleanEvent e)
    (hnew : e.phase = .pressed → r.captures.lookup (.of e) = none)
    (haction : ∀ cap, e.phase = .released → r.captures.lookup (.of e) = some cap →
      cap.action = e.action) : (r.consumeEvent e).Guarded := by
  unfold CleanEvent at hclean
  cases hp : e.phase with
  | pressed =>
      rw [hp] at hclean
      rw [consumed_pressed hp]
      exact h.capture (hnew hp) hclean
  | released =>
      rw [hp] at hclean
      obtain ⟨hd, hrep⟩ := consumed_released (r := r) hp
      refine h.drop hd fun a state hs => ?_
      rw [hrep] at hs
      obtain ⟨-, -, -, -, h5, -⟩ := h.repeats a state hs
      refine ⟨hs, ?_⟩
      by_cases ha : a = e.action
      · subst ha
        exact hclean (by rw [hs]; rfl)
      · rw [← Bool.not_eq_false]
        intro hdrop
        exact ha (haction _ hp (capture_of_dropped h5 hdrop))

/-- What `accept_batch` does to captures, repeats and locks: nothing, or it drops them all. -/
theorem acceptBatch_effect (r : InputRouter) (b : InputBatch) :
    (r.acceptBatch b).2.context = r.context ∧
      (((r.acceptBatch b).2.captures = r.captures ∧ (r.acceptBatch b).2.repeats = r.repeats ∧
          ∀ a, (r.acceptBatch b).2.axisLocked a = r.axisLocked a) ∨
        ((r.acceptBatch b).2.captures = ∅ ∧ ∀ a, (r.acceptBatch b).2.repeats a = none)) := by
  have hevents : ∀ r : InputRouter, (r.acceptEvents b).2.context = r.context ∧
      (((r.acceptEvents b).2.captures = r.captures ∧ (r.acceptEvents b).2.repeats = r.repeats ∧
          ∀ a, (r.acceptEvents b).2.axisLocked a = r.axisLocked a) ∨
        ((r.acceptEvents b).2.captures = ∅ ∧ ∀ a, (r.acceptEvents b).2.repeats a = none)) := by
    intro r
    unfold acceptEvents
    split
    · exact ⟨rfl, .inr ⟨rfl, fun _ => rfl⟩⟩
    · split
      · exact ⟨rfl, .inr ⟨rfl, fun _ => rfl⟩⟩
      · dsimp only
        split
        · split <;> exact ⟨rfl, .inl ⟨rfl, rfl, fun a => by cases a <;> rfl⟩⟩
        · exact ⟨rfl, .inl ⟨rfl, rfl, fun a => by cases a <;> rfl⟩⟩
  unfold acceptBatch
  split
  · exact ⟨rfl, .inr ⟨rfl, fun _ => rfl⟩⟩
  · split
    · exact ⟨rfl, .inr ⟨rfl, fun _ => rfl⟩⟩
    · split
      · exact ⟨rfl, .inr ⟨rfl, fun _ => rfl⟩⟩
      · split
        · split
          · exact ⟨rfl, .inr ⟨rfl, fun _ => rfl⟩⟩
          · -- the events are checked after everything was dropped
            obtain ⟨hctx, ⟨hcap, hrep, -⟩ | h⟩ := hevents (r.adoptEpoch b)
            · exact ⟨hctx, .inr ⟨hcap, fun a => congrFun hrep a⟩⟩
            · exact ⟨hctx, .inr h⟩
        · exact hevents r

theorem Guarded.acceptBatch (h : r.Guarded) (b : InputBatch) : (r.acceptBatch b).2.Guarded := by
  obtain ⟨hctx, ⟨hcap, hrep, hlock⟩ | ⟨hcap, hrep⟩⟩ := acceptBatch_effect r b
  · exact h.congr hcap hctx hlock hrep
  · exact .of_empty hcap hrep

end InputRouter

/-! ## 2. Presses -/

/-- A press the router was given. -/
structure Press where
  key : CaptureKey
  action : LogicalAction
  /-- The context of the moment. -/
  context : ContextId
  /-- How many contexts there were before. -/
  era : Nat
  /-- Not released yet. -/
  down : Bool
  /-- The contexts of its `Released` outcomes. -/
  outcomes : List ContextId
  deriving DecidableEq

/-- The context of a `Released` outcome. -/
def InputOutcome.releasedContext : InputOutcome → Option ContextId
  | .released _ _ context => some context
  | _ => none

/-- The release of a press and what the router said to it. -/
def Press.release (self : Press) (key : CaptureKey) (outcome : InputOutcome) : Press :=
  if self.down = true ∧ self.key = key then
    { self with down := false, outcomes := self.outcomes ++ outcome.releasedContext.toList }
  else self

/-- The record of the presses after an event. -/
def record (presses : List Press) (context : ContextId) (era : Nat) (event : InputEvent)
    (outcome : InputOutcome) : List Press :=
  match event.phase with
  | .pressed => presses ++ [⟨.of event, event.action, context, era, true, []⟩]
  | .released => presses.map (·.release (.of event) outcome)

/-- **Presses and releases are paired**: a press is of a key that is not down, a release of one
    that is, with the action of its press. -/
def PairedEvent (presses : List Press) (event : InputEvent) : Prop :=
  match event.phase with
  | .pressed => ∀ p ∈ presses, p.down = true → p.key ≠ .of event
  | .released => ∃ p ∈ presses, p.down = true ∧ p.key = .of event ∧ p.action = event.action

instance (presses : List Press) (event : InputEvent) : Decidable (PairedEvent presses event) := by
  unfold PairedEvent
  split <;> infer_instance

/-! ## 3. Sessions -/

structure RouterSession where
  router : InputRouter
  presses : List Press
  era : Nat

inductive RouterStep where
  | acceptBatch (batch : InputBatch)
  | setFocus (request : FocusRequest)
  | routeEvent (event : InputEvent) (request : FocusRequest) (now : Nat)
  | tickRepeat (now : Nat)
  | consumeRemainingBatch (events : List InputEvent) (reason : ConsumedReason)

namespace RouterSession

def initial (focus : FocusRequest) : RouterSession := ⟨.new focus, [], 0⟩

variable (s : RouterSession)

/-- A new focus target begins another era. -/
def eraAfter (request : FocusRequest) : Nat :=
  if s.router.context.target ≠ request.target then s.era + 1 else s.era

/-- One event of the bulk path. -/
def consumeOne (reason : ConsumedReason) (event : InputEvent) : RouterSession :=
  { s with
    router := s.router.consumeEvent event
    presses := record s.presses s.router.context s.era event (.consumed event.pressId reason) }

def next : RouterStep → RouterSession
  | .acceptBatch batch => { s with router := (s.router.acceptBatch batch).2 }
  | .setFocus request => { s with router := s.router.setFocus request, era := s.eraAfter request }
  | .routeEvent event request now =>
      let res := s.router.routeEvent event request now
      { router := res.2
        presses := record s.presses res.2.context (s.eraAfter request) event res.1
        era := s.eraAfter request }
  | .tickRepeat now => { s with router := (s.router.tickRepeat now).2 }
  | .consumeRemainingBatch events reason =>
      let res := s.router.consumeRemainingBatch events reason
      { s with
        router := res.2
        presses := (events.zip res.1).foldl
          (fun presses eo => record presses s.router.context s.era eo.1 eo.2) s.presses }

def Paired : RouterStep → Prop
  | .routeEvent event _ _ => PairedEvent s.presses event
  | .consumeRemainingBatch events reason =>
      Machine.Along (fun s event => PairedEvent s.presses event) (consumeOne · reason) s events
  | _ => True

/-- A focus request leaves room for another context generation. -/
def FocusRoom (request : FocusRequest) : Prop :=
  s.router.context.target ≠ request.target → s.router.context.generation ≠ u64Max

/-- **The condition on a step.** -/
def Clean : RouterStep → Prop
  | .setFocus request => s.FocusRoom request
  | .routeEvent _ request _ => s.FocusRoom request
  | .consumeRemainingBatch events reason =>
      Machine.Along (fun s event => s.router.CleanEvent event) (consumeOne · reason) s events
  | _ => True

instance (request : FocusRequest) : Decidable (s.FocusRoom request) :=
  inferInstanceAs (Decidable (_ → _))

instance (step : RouterStep) : Decidable (s.Paired step) := by
  cases step <;> unfold Paired <;> infer_instance

instance (step : RouterStep) : Decidable (s.Clean step) := by
  cases step <;> unfold Clean <;> infer_instance

/-- Some press of the action, routed in the current context, is still down. -/
def Unreleased (action : LogicalAction) : Prop :=
  ∃ p ∈ s.presses, p.down = true ∧ p.action = action ∧ p.era = s.era

end RouterSession

def routerSessions (focus : FocusRequest) : Machine RouterSession RouterStep :=
  .ofNext (· = .initial focus) RouterSession.next

/-! ## 4. The record and the router -/

/-- **Captures are presses that are down**, and every press has got what it is due. -/
structure Tracked (s : RouterSession) : Prop where
  generation : s.router.context.generation.toNat = s.era + 1
  eras : ∀ p ∈ s.presses, p.era ≤ s.era ∧ p.context.generation.toNat = p.era + 1 ∧
    (p.era = s.era → p.context = s.router.context)
  captured : ∀ k cap, s.router.captures.lookup k = some cap → ∃ p ∈ s.presses, p.down = true ∧
    p.key = k ∧ p.action = cap.action ∧ p.context = cap.context
  unique : ∀ p ∈ s.presses, ∀ q ∈ s.presses, p.down = true → q.down = true → p.key = q.key → p = q
  outcomes : ∀ p ∈ s.presses, p.outcomes = [] ∨ (p.down = false ∧ p.outcomes = [p.context])
  repeated : ∀ a state, s.router.repeats a = some state → ∃ p ∈ s.presses,
    p.key = .of state.event ∧ p.era = s.era

namespace Tracked

variable {s : RouterSession} {r : InputRouter} {e : InputEvent}

theorem initial (focus : FocusRequest) : Tracked (.initial focus) where
  generation := rfl
  eras := by
    intro p hp
    cases hp
  captured := by
    intro k cap h
    cases h
  unique := by
    intro p hp
    cases hp
  outcomes := by
    intro p hp
    cases hp
  repeated := by
    intro a state h
    cases h

/-- A router step that captures nothing new and repeats nothing new. -/
theorem shrink (h : Tracked s) (hctx : r.context = s.router.context)
    (hcap : ∀ k cap, r.captures.lookup k = some cap → s.router.captures.lookup k = some cap)
    (hrep : ∀ a state, r.repeats a = some state → ∃ state', s.router.repeats a = some state' ∧
      state'.event = state.event) : Tracked { s with router := r } where
  generation := by
    rw [hctx]
    exact h.generation
  eras := by
    rw [hctx]
    exact h.eras
  captured := fun k cap hk => h.captured k cap (hcap k cap hk)
  unique := h.unique
  outcomes := h.outcomes
  repeated := by
    intro a state hs
    obtain ⟨state', hs', he⟩ := hrep a state hs
    rw [← he]
    exact h.repeated a state' hs'

theorem focus (h : Tracked s) (request : FocusRequest) (hroom : s.FocusRoom request) :
    Tracked (s.next (.setFocus request)) := by
  show Tracked { s with router := s.router.setFocus request, era := s.eraAfter request }
  unfold InputRouter.setFocus RouterSession.eraAfter
  by_cases ht : s.router.context.target ≠ request.target
  · rw [if_pos ht, if_pos ht]
    have hgen : (saturatingAdd s.router.context.generation 1).toNat = s.era + 1 + 1 := by
      have hne : s.router.context.generation.toNat ≠ 2 ^ 64 - 1 := fun e =>
        hroom ht (UInt64.toNat_inj.mp e)
      have hle := toNat_le_u64Max s.router.context.generation
      have hg := h.generation
      rw [toNat_saturatingAdd]
      omega
    refine ⟨hgen, fun p hp => ?_, h.captured, h.unique, h.outcomes, fun a state hs => ?_⟩
    · obtain ⟨h1, h2, -⟩ := h.eras p hp
      exact ⟨Nat.le_succ_of_le h1, h2, fun e => absurd e (by show p.era ≠ s.era + 1; omega)⟩
    · cases hs
  · rw [if_neg ht, if_neg ht]
    exact ⟨h.generation, h.eras, h.captured, h.unique, h.outcomes, h.repeated⟩

/-- A press of a key that is not down is not captured. -/
theorem not_captured (h : Tracked s) (hp : e.phase = .pressed) (hpair : PairedEvent s.presses e) :
    s.router.captures.lookup (.of e) = none := by
  unfold PairedEvent at hpair
  rw [hp] at hpair
  rw [Option.eq_none_iff_forall_not_mem]
  intro cap hcap
  obtain ⟨p, hmem, hdown, hkey, -⟩ := h.captured _ cap hcap
  exact hpair p hmem hdown hkey

/-- A captured release is of the action of its press. -/
theorem captured_action (h : Tracked s) (hp : e.phase = .released)
    (hpair : PairedEvent s.presses e) :
    ∀ cap, s.router.captures.lookup (.of e) = some cap → cap.action = e.action := by
  unfold PairedEvent at hpair
  rw [hp] at hpair
  intro cap hcap
  obtain ⟨p, hmem, hdown, hkey, haction, -⟩ := h.captured _ cap hcap
  obtain ⟨q, hq, hqdown, hqkey, hqaction⟩ := hpair
  obtain rfl := h.unique p hmem q hq hdown hqdown (hkey.trans hqkey.symm)
  exact haction.symm.trans hqaction

/-- **A press is recorded where it is captured.** -/
theorem press (h : Tracked s) (hp : e.phase = .pressed) (hpair : PairedEvent s.presses e)
    (hctx : r.context = s.router.context)
    (hcap : r.captures = (s.router.insertCapture e s.router.context).captures)
    (hrep : ∀ a state, r.repeats a = some state → s.router.repeats a = some state ∨
      state.event = e) (o : InputOutcome) :
    Tracked { s with router := r, presses := record s.presses s.router.context s.era e o } := by
  unfold PairedEvent at hpair
  rw [hp] at hpair
  unfold record
  rw [hp]
  have hnew : ∀ p ∈ s.presses ++ [⟨.of e, e.action, s.router.context, s.era, true, []⟩],
      p ∈ s.presses ∨ p = ⟨.of e, e.action, s.router.context, s.era, true, []⟩ := by
    intro p hmem
    rw [List.mem_append, List.mem_singleton] at hmem
    exact hmem
  have hlast : (⟨.of e, e.action, s.router.context, s.era, true, []⟩ : Press) ∈
      s.presses ++ [⟨.of e, e.action, s.router.context, s.era, true, []⟩] := by simp
  refine ⟨by rw [hctx]; exact h.generation, fun p hmem => ?_, fun k cap hk => ?_,
    fun p hpm q hqm hpd hqd hkey => ?_, fun p hmem => ?_, fun a state hs => ?_⟩
  · rw [hctx]
    rcases hnew p hmem with hmem | rfl
    · exact h.eras p hmem
    · exact ⟨Nat.le_refl _, h.generation, fun _ => rfl⟩
  · have hk : r.captures.lookup k = some cap := hk
    rw [hcap, InputRouter.lookup_insertCapture] at hk
    split at hk
    · rename_i hke
      obtain rfl := Option.some.inj hk
      exact ⟨_, hlast, rfl, hke.symm, rfl, rfl⟩
    · obtain ⟨p, hmem, hrest⟩ := h.captured k cap hk
      exact ⟨p, List.mem_append_left _ hmem, hrest⟩
  · rcases hnew p hpm with hpm | rfl
    · rcases hnew q hqm with hqm | rfl
      · exact h.unique p hpm q hqm hpd hqd hkey
      · exact absurd hkey (hpair p hpm hpd)
    · rcases hnew q hqm with hqm | rfl
      · exact absurd hkey.symm (hpair q hqm hqd)
      · rfl
  · rcases hnew p hmem with hmem | rfl
    · exact h.outcomes p hmem
    · exact .inl rfl
  · rcases hrep a state hs with hs | rfl
    · obtain ⟨p, hmem, hrest⟩ := h.repeated a state hs
      exact ⟨p, List.mem_append_left _ hmem, hrest⟩
    · exact ⟨_, hlast, rfl, rfl⟩

/-- What a release keeps of a press. -/
theorem release_frame (p : Press) (key : CaptureKey) (o : InputOutcome) :
    (p.release key o).key = p.key ∧ (p.release key o).action = p.action ∧
      (p.release key o).context = p.context ∧ (p.release key o).era = p.era := by
  unfold Press.release
  split <;> exact ⟨rfl, rfl, rfl, rfl⟩

theorem release_down {p : Press} {key : CaptureKey} {o : InputOutcome}
    (h : (p.release key o).down = true) : p.release key o = p ∧ p.key ≠ key := by
  unfold Press.release at h ⊢
  split at h
  · cases h
  · rename_i hn
    rw [if_neg hn]
    exact ⟨rfl, fun e => hn ⟨h, e⟩⟩

/-- **A release ends its press**, and what the router says to it carries the context of the
    press. -/
theorem release (h : Tracked s) (hp : e.phase = .released) {o : InputOutcome}
    (hctx : r.context = s.router.context)
    (hcap : r.captures = (s.router.removeCapture e).captures)
    (hrep : ∀ a state, r.repeats a = some state → s.router.repeats a = some state)
    (ho : ∀ context, o.releasedContext = some context →
      (s.router.captures.lookup (.of e)).map (·.context) = some context) (context : ContextId) :
    Tracked { s with router := r, presses := record s.presses context s.era e o } := by
  unfold record
  rw [hp]
  have hmap : ∀ p ∈ s.presses.map (·.release (.of e) o),
      ∃ q ∈ s.presses, p = q.release (.of e) o := by
    intro p hmem
    obtain ⟨q, hq, rfl⟩ := List.mem_map.mp hmem
    exact ⟨q, hq, rfl⟩
  refine ⟨by rw [hctx]; exact h.generation, fun p hmem => ?_, fun k cap hk => ?_,
    fun p hpm q hqm hpd hqd hkey => ?_, fun p hmem => ?_, fun a state hs => ?_⟩
  · obtain ⟨q, hq, rfl⟩ := hmap p hmem
    obtain ⟨-, -, hc, he⟩ := release_frame q (.of e) o
    rw [hctx, hc, he]
    exact h.eras q hq
  · have hk : r.captures.lookup k = some cap := hk
    rw [hcap, InputRouter.lookup_removeCapture] at hk
    split at hk
    · cases hk
    · rename_i hne
      obtain ⟨p, hmem, hdown, hkey, hrest⟩ := h.captured k cap hk
      have hsame : p.release (.of e) o = p := if_neg fun hc => hne (hkey.symm.trans hc.2)
      exact ⟨p, List.mem_map.mpr ⟨p, hmem, hsame⟩, hdown, hkey, hrest⟩
  · obtain ⟨p', hp', rfl⟩ := hmap p hpm
    obtain ⟨q', hq', rfl⟩ := hmap q hqm
    obtain ⟨ep, -⟩ := release_down hpd
    obtain ⟨eq, -⟩ := release_down hqd
    rw [ep] at hpd hkey ⊢
    rw [eq] at hqd hkey ⊢
    exact h.unique p' hp' q' hq' hpd hqd hkey
  · obtain ⟨q, hq, rfl⟩ := hmap p hmem
    unfold Press.release
    split
    · rename_i hc
      obtain ⟨hdown, hkey⟩ := hc
      have hnone : q.outcomes = [] := by
        rcases h.outcomes q hq with e | ⟨hd, -⟩
        · exact e
        · rw [hdown] at hd
          cases hd
      rw [hnone]
      cases hoc : o.releasedContext with
      | none => exact .inl rfl
      | some c =>
          -- the capture is of this very press
          obtain ⟨cap, hcap', hcc⟩ := Option.map_eq_some_iff.mp (ho c hoc)
          obtain ⟨p', hp', hd', hk', -, hc'⟩ := h.captured _ cap hcap'
          obtain rfl := h.unique q hq p' hp' hdown hd' (hkey.trans hk'.symm)
          right
          rw [← hcc, ← hc']
          exact ⟨rfl, rfl⟩
    · exact h.outcomes q hq
  · obtain ⟨p, hmem, hkey, hera⟩ := h.repeated a state (hrep a state hs)
    obtain ⟨ek, -, -, ee⟩ := release_frame p (.of e) o
    exact ⟨_, List.mem_map_of_mem hmem, ek.trans hkey, ee.trans hera⟩

/-- What is held in the current context is a press that is down. -/
theorem unreleased (h : Tracked s) {a : LogicalAction}
    (ha : s.router.actionHeldInContext a s.router.context = true) : s.Unreleased a := by
  obtain ⟨k, cap, hl, hc, rfl⟩ := InputRouter.held_iff.mp ha
  obtain ⟨p, hmem, hdown, -, haction, hcontext⟩ := h.captured k cap hl
  obtain ⟨-, hgen, -⟩ := h.eras p hmem
  refine ⟨p, hmem, hdown, haction, ?_⟩
  have hg := h.generation
  rw [← hc, ← hcontext, hgen] at hg
  omega

end Tracked

/-! ## 5. Every step -/

/-- Both invariants. -/
structure Sound (s : RouterSession) : Prop where
  guarded : s.router.Guarded
  tracked : Tracked s

namespace Sound

variable {s : RouterSession} {e : InputEvent}

theorem initial (focus : FocusRequest) : Sound (.initial focus) := ⟨.new focus, .initial focus⟩

theorem acceptBatch (h : Sound s) (batch : InputBatch) : Sound (s.next (.acceptBatch batch)) := by
  refine ⟨h.guarded.acceptBatch batch, ?_⟩
  obtain ⟨hctx, hsame | hempty⟩ := InputRouter.acceptBatch_effect s.router batch
  · obtain ⟨hcap, hrep, -⟩ := hsame
    refine h.tracked.shrink hctx (fun k cap hk => ?_) (fun a state hs => ?_)
    · rwa [hcap] at hk
    · rw [hrep] at hs
      exact ⟨state, hs, rfl⟩
  · obtain ⟨hcap, hrep⟩ := hempty
    refine h.tracked.shrink hctx (fun k cap hk => ?_) (fun a state hs => ?_)
    · rw [hcap] at hk
      cases hk
    · rw [hrep] at hs
      cases hs

theorem focus (h : Sound s) {request : FocusRequest} (hroom : s.FocusRoom request) :
    Sound (s.next (.setFocus request)) := by
  refine ⟨?_, h.tracked.focus request hroom⟩
  show (s.router.setFocus request).Guarded
  by_cases ht : s.router.context.target ≠ request.target
  · -- no capture is of the new context: its generation is new
    have htracked := h.tracked.focus request hroom
    have hnone : ∀ a, (s.router.setFocus request).actionHeldInContext a
        (s.router.setFocus request).context = false := by
      intro a
      rw [← Bool.not_eq_true]
      intro ha
      obtain ⟨p, hmem, -, -, hera⟩ := htracked.unreleased ha
      have hle := (h.tracked.eras p hmem).1
      have hera : p.era = s.eraAfter request := hera
      rw [RouterSession.eraAfter, if_pos ht] at hera
      omega
    refine ⟨fun a b _ ha => ?_, fun a state hs => ?_⟩
    · rw [hnone] at ha
      cases ha
    · rw [InputRouter.setFocus, if_pos ht] at hs
      cases hs
  · rw [InputRouter.setFocus, if_neg ht]
    exact h.guarded.congr rfl rfl (fun a => by cases a <;> rfl) rfl

theorem tick (h : Sound s) (now : Nat) : Sound (s.next (.tickRepeat now)) := by
  rcases InputRouter.tickRepeat_cases s.router now with ht | ⟨a, state, hs, -, ht⟩
  · have hsame : s.next (.tickRepeat now) = s := by
      show { s with router := (s.router.tickRepeat now).2 } = s
      rw [ht]
    rw [hsame]
    exact h
  · have hnext : s.next (.tickRepeat now) = { s with router := { s.router with
        repeats := Function.update s.router.repeats a
          (some { state with nextAt := now + MENU_REPEAT_INTERVAL }) } } := by
      show { s with router := (s.router.tickRepeat now).2 } = _
      rw [ht]
    rw [hnext]
    -- only the time of a repeat changes
    have hold : ∀ b state', Function.update s.router.repeats a
        (some { state with nextAt := now + MENU_REPEAT_INTERVAL }) b = some state' →
        ∃ old, s.router.repeats b = some old ∧ old.event = state'.event ∧
          old.context = state'.context := by
      intro b state' hb
      by_cases hab : b = a
      · subst hab
        rw [Function.update_self] at hb
        obtain rfl := Option.some.inj hb
        exact ⟨state, hs, rfl, rfl⟩
      · rw [Function.update_of_ne hab] at hb
        exact ⟨state', hb, rfl, rfl⟩
    refine ⟨⟨h.guarded.opposed, fun b state' hb => ?_⟩,
      h.tracked.shrink rfl (fun _ _ hk => hk) fun b state' hb => ?_⟩
    · obtain ⟨old, hold', he, hc⟩ := hold b state' hb
      have hg := h.guarded.repeats b old hold'
      rw [he, hc] at hg
      exact hg
    · obtain ⟨old, hold', he, -⟩ := hold b state' hb
      exact ⟨old, hold', he⟩

theorem press (h : Sound s) (hp : e.phase = .pressed) (hpair : PairedEvent s.presses e)
    (now : Nat) : Sound { s with
      router := (s.router.routePressed e s.router.context now).2
      presses := record s.presses s.router.context s.era e
        (s.router.routePressed e s.router.context now).1 } := by
  have hnew := h.tracked.not_captured hp hpair
  obtain ⟨hcap, hctx, hrep⟩ := (InputRouter.pressed now hnew).frame
  exact ⟨h.guarded.press now hnew, h.tracked.press hp hpair hctx hcap hrep _⟩

theorem release (h : Sound s) (hp : e.phase = .released) (hpair : PairedEvent s.presses e)
    (context : ContextId) : Sound { s with
      router := (s.router.routeReleased e).2
      presses := record s.presses context s.era e (s.router.routeReleased e).1 } := by
  refine ⟨h.guarded.release (h.tracked.captured_action hp hpair), ?_⟩
  cases hl : s.router.captures.lookup (.of e) with
  | none =>
      rw [InputRouter.released hl]
      refine h.tracked.release hp rfl ?_ (fun _ _ hs => hs) (fun _ hc => by cases hc) context
      rw [InputRouter.removeCapture]
      exact (AList.ext (List.kerase_of_notMem_keys (AList.lookup_eq_none.mp hl))).symm
  | some cap =>
      obtain ⟨ho, hd, hrep⟩ := InputRouter.released_captured hl
      refine h.tracked.release hp hd.context hd.captures (fun a state hs => ?_) (fun c hc => ?_)
        context
      · rw [hrep] at hs
        split at hs
        · exact hs
        · by_cases ha : a = e.action
          · subst ha
            rw [Function.update_self] at hs
            cases hs
          · rwa [Function.update_of_ne ha] at hs
      · rw [ho] at hc
        rw [hl]
        exact hc

theorem consume (h : Sound s) {reason : ConsumedReason} (hpair : PairedEvent s.presses e)
    (hclean : s.router.CleanEvent e) : Sound (s.consumeOne reason e) := by
  refine ⟨h.guarded.consume hclean (fun hp => h.tracked.not_captured hp hpair)
    (fun cap hp => h.tracked.captured_action hp hpair cap), ?_⟩
  cases hp : e.phase with
  | pressed =>
      have hc := InputRouter.consumed_pressed (r := s.router) hp
      refine h.tracked.press hp hpair ?_ ?_ (fun a state hs => .inl ?_) _
      · rw [hc]
        rfl
      · rw [hc]
      · rw [hc] at hs
        exact hs
  | released =>
      obtain ⟨hd, hrep⟩ := InputRouter.consumed_released (r := s.router) hp
      refine h.tracked.release hp hd.context hd.captures (fun a state hs => ?_)
        (fun _ hc => by cases hc) _
      rwa [hrep] at hs

end Sound

/-- The bulk path, one event after the other. -/
theorem foldl_consumeOne (s : RouterSession) (events : List InputEvent) (reason : ConsumedReason) :
    events.foldl (RouterSession.consumeOne · reason) s =
      { s with
        router := events.foldl InputRouter.consumeEvent s.router
        presses := events.foldl (fun presses e =>
          record presses s.router.context s.era e (.consumed e.pressId reason)) s.presses } := by
  induction events generalizing s with
  | nil => rfl
  | cons e events ih =>
      have hctx : (s.router.consumeEvent e).context = s.router.context := by
        cases hp : e.phase with
        | pressed =>
            rw [InputRouter.consumed_pressed hp]
            rfl
        | released => exact (InputRouter.consumed_released hp).1.context
      rw [List.foldl_cons, ih]
      simp only [RouterSession.consumeOne, List.foldl_cons, hctx]

theorem next_consumeRemainingBatch (s : RouterSession) (events : List InputEvent)
    (reason : ConsumedReason) : s.next (.consumeRemainingBatch events reason) =
      events.foldl (RouterSession.consumeOne · reason) s := by
  have hzip : events.zip (events.map fun e => InputOutcome.consumed e.pressId reason) =
      events.map fun e => (e, InputOutcome.consumed e.pressId reason) := by
    induction events with
    | nil => rfl
    | cons e events ih => rw [List.map_cons, List.map_cons, List.zip_cons_cons, ih]
  rw [foldl_consumeOne]
  simp only [RouterSession.next, InputRouter.consumeRemainingBatch, hzip, List.foldl_map]

theorem Sound.consumeAll {s : RouterSession} (h : Sound s) {events : List InputEvent}
    {reason : ConsumedReason}
    (hpair : Machine.Along (fun s event => PairedEvent s.presses event)
      (RouterSession.consumeOne · reason) s events)
    (hclean : Machine.Along (fun s event => s.router.CleanEvent event)
      (RouterSession.consumeOne · reason) s events) :
    Sound (events.foldl (RouterSession.consumeOne · reason) s) := by
  induction events generalizing s with
  | nil => exact h
  | cons e events ih => exact ih (h.consume hpair.1 hclean.1) hpair.2 hclean.2

/-- **Every step keeps both.** -/
theorem Sound.next {s : RouterSession} (h : Sound s) {step : RouterStep} (hpair : s.Paired step)
    (hclean : s.Clean step) : Sound (s.next step) := by
  cases step with
  | acceptBatch batch => exact h.acceptBatch batch
  | setFocus request => exact h.focus hclean
  | tickRepeat now => exact h.tick now
  | routeEvent event request now =>
      have hf : Sound (s.next (.setFocus request)) := h.focus hclean
      generalize hs₁ : s.next (.setFocus request) = s₁ at hf
      have hnext : s.next (.routeEvent event request now) =
          match event.phase with
          | .pressed => { s₁ with
              router := (s₁.router.routePressed event s₁.router.context now).2
              presses := record s₁.presses
                (s₁.router.routePressed event s₁.router.context now).2.context s₁.era event
                (s₁.router.routePressed event s₁.router.context now).1 }
          | .released => { s₁ with
              router := (s₁.router.routeReleased event).2
              presses := record s₁.presses (s₁.router.routeReleased event).2.context s₁.era event
                (s₁.router.routeReleased event).1 } := by
        subst hs₁
        show ({ router := (s.router.routeEvent event request now).2
                presses := record s.presses (s.router.routeEvent event request now).2.context
                  (s.eraAfter request) event (s.router.routeEvent event request now).1
                era := s.eraAfter request } : RouterSession) = _
        unfold InputRouter.routeEvent
        cases event.phase <;> rfl
      have hpair₁ : PairedEvent s₁.presses event := by
        subst hs₁
        exact hpair
      rw [hnext]
      cases hp : event.phase with
      | pressed =>
          have hctx := (InputRouter.pressed now (hf.tracked.not_captured hp hpair₁)).frame.2.1
          dsimp only
          rw [hctx]
          exact hf.press hp hpair₁ now
      | released => exact hf.release hp hpair₁ _
  | consumeRemainingBatch events reason =>
      rw [next_consumeRemainingBatch]
      exact h.consumeAll hpair hclean

/-! ## 6. No ghost input -/

/-- What the launcher may rely on. -/
structure NoGhost (s : RouterSession) : Prop where
  /-- A repeat is of an action with a press of this context still down, on an open axis; the press
      it repeats was made in this context, and this context dispatches. -/
  repeats : ∀ now o, (s.router.tickRepeat now).1 = some o → ∃ event,
    o = .dispatch event s.router.context .repeat ∧ s.Unreleased event.action ∧
      s.router.axisLocked event.action = false ∧
      (∃ p ∈ s.presses, p.key = .of event ∧ p.era = s.era) ∧
      InputRouter.Dispatches s.router.context.target.kind
  opposed : ∀ a b, opposite a = some b →
    ¬ (s.router.actionHeld a = true ∧ s.router.actionHeld b = true)
  held : ∀ a, s.router.actionHeld a = true → s.Unreleased a
  released : ∀ p ∈ s.presses, p.outcomes.length ≤ 1 ∧ ∀ c ∈ p.outcomes, c = p.context
  /-- The presses of this era are those of this context. -/
  current : ∀ p ∈ s.presses, p.era = s.era ↔ p.context = s.router.context
  /-- What is down only from other contexts is neither held nor repeated. -/
  former : ∀ a, (∀ p ∈ s.presses, p.down = true → p.action = a → p.era ≠ s.era) →
    s.router.actionHeld a = false ∧ ∀ now event context kind,
      (s.router.tickRepeat now).1 = some (.dispatch event context kind) → event.action ≠ a

theorem Sound.repeats {s : RouterSession} (h : Sound s) {now : Nat} {o : InputOutcome}
    (ho : (s.router.tickRepeat now).1 = some o) : ∃ event,
      o = .dispatch event s.router.context .repeat ∧ s.Unreleased event.action ∧
        s.router.axisLocked event.action = false ∧
        (∃ p ∈ s.presses, p.key = .of event ∧ p.era = s.era) ∧
        InputRouter.Dispatches s.router.context.target.kind := by
  rcases InputRouter.tickRepeat_cases s.router now with ht | ⟨a, state, hs, hc, ht⟩
  · rw [ht] at ho
    cases ho
  · rw [ht] at ho
    obtain rfl := Option.some.inj ho
    obtain ⟨-, ha, -, hkind, hheld, hopen⟩ := h.guarded.repeats a state hs
    refine ⟨state.event, by rw [hc], ?_, ?_, h.tracked.repeated a state hs, hkind⟩
    · rw [ha]
      exact h.tracked.unreleased hheld
    · rw [ha]
      exact hopen

theorem Sound.held {s : RouterSession} (h : Sound s) {a : LogicalAction}
    (ha : s.router.actionHeld a = true) : s.Unreleased a :=
  h.tracked.unreleased (InputRouter.actionHeld_iff.mp ha).2

theorem Sound.current {s : RouterSession} (h : Sound s) {p : Press} (hp : p ∈ s.presses) :
    p.era = s.era ↔ p.context = s.router.context := by
  obtain ⟨-, hgen, hcur⟩ := h.tracked.eras p hp
  refine ⟨hcur, fun hc => ?_⟩
  have hg := h.tracked.generation
  rw [hc, hg] at hgen
  omega

theorem Sound.noGhost {s : RouterSession} (h : Sound s) : NoGhost s where
  repeats := fun _ _ ho => h.repeats ho
  opposed := by
    rintro a b hab ⟨ha, hb⟩
    obtain ⟨hopen, ha⟩ := InputRouter.actionHeld_iff.mp ha
    obtain ⟨-, hb⟩ := InputRouter.actionHeld_iff.mp hb
    rw [h.guarded.opposed a b hab ha hb] at hopen
    cases hopen
  held := fun _ ha => h.held ha
  released := by
    intro p hp
    rcases h.tracked.outcomes p hp with e | ⟨-, e⟩
    · rw [e]
      exact ⟨Nat.zero_le _, fun c hc => by cases hc⟩
    · rw [e]
      exact ⟨Nat.le_refl _, fun c hc => List.mem_singleton.mp hc⟩
  current := fun _ hp => h.current hp
  former := by
    intro a hnone
    have hno : ¬ s.Unreleased a := by
      rintro ⟨p, hp, hdown, ha, hera⟩
      exact hnone p hp hdown ha hera
    refine ⟨?_, fun now event context kind ho ha => ?_⟩
    · rw [← Bool.not_eq_true]
      exact fun hheld => hno (h.held hheld)
    · obtain ⟨event', he, hun, -⟩ := h.repeats ho
      cases he
      rw [ha] at hun
      exact hno hun

/-- **No ghost input**, in every run with paired presses and releases in which the bulk path neither
    ends what is repeated nor opposes what is held, and context generations do not run out. -/
theorem no_ghost_input (focus : FocusRequest) {steps : List RouterStep} {s : RouterSession}
    (h : ((routerSessions focus).guard fun s step => s.Paired step ∧ s.Clean step).Run
      (.initial focus) steps s) : NoGhost s := by
  have hs : Sound s := by
    refine h.invariant (fun s step s' hsound hstep => ?_) (Sound.initial focus)
    obtain ⟨⟨hpair, hclean⟩, rfl⟩ := hstep
    exact hsound.next hpair hclean
  exact hs.noGhost

/-! ### Runs -/

/-- The edges of a pad in one source epoch. -/
def padEvent (pressId : PressId) (action : LogicalAction) (phase : InputPhase) : InputEvent :=
  { source := ⟨.mainProxy, 1⟩, sourceEpoch := 1, sequence := 1, pressId, capturedAtUs := 0, action
    phase }

def pressDown : RouterStep := .routeEvent (padEvent 1 .down .pressed) .homeFocus 0

/-- Another menu. -/
def drawerFocus : FocusRequest := ⟨⟨.screen, 2⟩, .menuRepeat⟩

/-- Down is pressed, repeated and released; Right is held while the bulk path takes a press and its
    release, and over a change of the focus; in the new menu Left is pressed. -/
def menuRun : List RouterStep :=
  [pressDown, .tickRepeat MENU_REPEAT_DELAY, .routeEvent (padEvent 1 .down .released) .homeFocus 0,
   .routeEvent (padEvent 2 .right .pressed) .homeFocus 0,
   .consumeRemainingBatch [padEvent 3 .activate .pressed, padEvent 3 .activate .released]
     .exclusiveBatch,
   .setFocus drawerFocus, .routeEvent (padEvent 4 .left .pressed) drawerFocus 0]

theorem no_ghost_input_menuRun :
    NoGhost (menuRun.foldl RouterSession.next (.initial .homeFocus)) :=
  no_ghost_input .homeFocus (Machine.run_ofNext (by decide +kernel))

/-- **Ghosts of the bulk path**: it takes the release of a repeated direction, and the repeat goes
    on; it takes a press that opposes a held direction, and both are reported held. -/
theorem ghost_input :
    (∃ s : RouterSession,
      ((routerSessions .homeFocus).guard RouterSession.Paired).Run (.initial .homeFocus)
        [pressDown, .consumeRemainingBatch [padEvent 1 .down .released] .exclusiveBatch] s ∧
      (∀ p ∈ s.presses, p.down = false) ∧
      (s.router.tickRepeat MENU_REPEAT_DELAY).1 =
        some (.dispatch (padEvent 1 .down .pressed) s.router.context .repeat)) ∧
    ∃ s : RouterSession,
      ((routerSessions .homeFocus).guard RouterSession.Paired).Run (.initial .homeFocus)
        [pressDown, .consumeRemainingBatch [padEvent 2 .up .pressed] .exclusiveBatch] s ∧
      s.router.actionHeld .down = true ∧ s.router.actionHeld .up = true := by
  constructor <;> refine ⟨_, Machine.run_ofNext ?_, ?_, ?_⟩ <;> decide +kernel

end MisterMagik.Input
