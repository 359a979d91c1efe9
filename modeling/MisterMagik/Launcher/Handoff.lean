/-
  File:      MisterMagik/Launcher/Handoff.lean
  Subject:   A launch is handed over once: loading frame, handoff and recovery over every order of
             inputs.

  A label of a run is a call with the effects it pushed, so that a run is read as one list of calls
  and effects.

  * `LaunchMove`, `moved_step` -- everything a call can do to a launch;
  * `AllPrepared`, `fits_run` -- every handoff follows a loading frame of its own;
  * `launch_exactly_once` -- after every run, and for every call after it.
-/
import MisterMagik.Base.Machine
import MisterMagik.Launcher.Lifecycle

namespace MisterMagik.Launcher

open MisterMagik.Base

/-! ## 1. The machine -/

inductive LaunchStep where
  | handle (input : LauncherLifecycleInput)
  | loadingFramePresented (elapsed : Nat)
  | beginStartupReveal (mode : StartupMode) (now : Nat)
  | classifyStartupCatalog (input : StartupCatalogState)
  | tickStartupReveal (now : Nat) (catalogReady : Bool)
  | noteStartupFramePresented (frame now : Nat)
  deriving DecidableEq

open LauncherLifecycle

def LauncherLifecycle.perform (s : LauncherLifecycle) : LaunchStep → Emits
  | .handle input => s.handle input
  | .loadingFramePresented elapsed => s.loadingFramePresented elapsed
  | .beginStartupReveal mode now => s.beginStartupReveal mode now
  | .classifyStartupCatalog input => s.classifyStartupCatalog input
  | .tickStartupReveal now catalogReady => s.tickStartupReveal now catalogReady
  | .noteStartupFramePresented frame now => s.noteStartupFramePresented frame now

/-- The startup catalog is classified once, before the loop. -/
def LauncherLifecycle.Allows (s : LauncherLifecycle) : LaunchStep → Prop
  | .classifyStartupCatalog _ => s.startupCatalogClassified = false
  | _ => True

/-- A call and what it pushed. -/
abbrev Performed := LaunchStep × List LauncherEffect

def launchSystem : Machine LauncherLifecycle Performed where
  init s := ∃ catalogWorkerEnabled now, s = .new catalogWorkerEnabled now
  step s performed t :=
    s.Allows performed.1 ∧ s.perform performed.1 = ⟨t, performed.2⟩

/-! ## 2. Everything a call can do to a launch -/

/-- A launch, a handoff or a recovery is in progress. -/
def LauncherLifecycleState.busy : LauncherLifecycleState → Bool
  | launching _ | handoff _ | recovered _ => true
  | _ => false

def LauncherEffect.isLaunch : LauncherEffect → Bool
  | beginLoadingFrame _ | beginLaunchHandoff _ | presentRecoveryFrame => true
  | _ => false

/-- The effects that are part of a launch. -/
def launchEffects (effects : List LauncherEffect) : List LauncherEffect :=
  effects.filter LauncherEffect.isLaunch

/-- What a call does to a launch, and the launch effects it pushes. -/
inductive LaunchMove (s t : LauncherLifecycle) : LaunchStep → List LauncherEffect → Prop where
  | kept (step : LaunchStep) (h : t.state = s.state) : LaunchMove s t step []
  | catalog (step : LaunchStep) (hs : s.state.busy = false) (ht : t.state.busy = false) :
      LaunchMove s t step []
  | requested (launchRef : String) (hs : s.state.busy = false)
      (hinput : s.startupInputEnabled = true)
      (hclassified : s.startupCatalogClassified = true)
      (ht : t.state = .launching (.loadingFramePending launchRef)) :
      LaunchMove s t (.handle (.launchRequested launchRef)) [.beginLoadingFrame launchRef]
  | presented (elapsed : Nat) (launchRef : String)
      (hs : s.state = .launching (.loadingFramePending launchRef))
      (ht : t.state = .launching .handoffPending) :
      LaunchMove s t (.loadingFramePresented elapsed) [.beginLaunchHandoff launchRef]
  | failed (title : String) (kind : LaunchFailureKind) (detail : String) (phase : LaunchingPhase)
      (hs : s.state = .launching phase)
      (ht : t.state = .recovered (.launchFailed title kind detail)) :
      LaunchMove s t (.handle (.launchFailed title kind detail)) [.presentRecoveryFrame]
  | timedOut (phase : LaunchingPhase) (hs : s.state = .launching phase)
      (ht : t.state = .recovered .launchTimedOut) :
      LaunchMove s t (.handle .launchTimedOut) [.presentRecoveryFrame]
  | succeeded (spawnedMister : Bool) (phase : LaunchingPhase) (hs : s.state = .launching phase)
      (ht : t.state = .handoff spawnedMister) :
      LaunchMove s t (.handle (.launchSucceeded spawnedMister)) []
  | acknowledged (reason : RecoveryReason) (hs : s.state = .recovered reason)
      (ht : t.state = .idle) : LaunchMove s t (.handle .launchFailureAcknowledge) []

/-- A call that makes such a move and does not take the startup catalog's class back. -/
structure Moved (s : LauncherLifecycle) (step : LaunchStep) (r : Emits) : Prop where
  move : LaunchMove s r.lifecycle step (launchEffects r.effects)
  classified : s.startupCatalogClassified = true → r.lifecycle.startupCatalogClassified = true

section Calls

variable {s t : LauncherLifecycle} {step : LaunchStep}

theorem launchEffects_append (a b : List LauncherEffect) :
    launchEffects (a ++ b) = launchEffects a ++ launchEffects b := List.filter_append a b

theorem state_transition (s : LauncherLifecycle) (state : LauncherLifecycleState)
    (reason : String) :
    (s.transition state reason).lifecycle.state = state := by
  unfold transition
  by_cases h : s.state = state
  · rw [if_pos h]
    exact h
  · rw [if_neg h]
    rfl

theorem classified_transition (s : LauncherLifecycle) (state : LauncherLifecycleState)
    (reason : String) : (s.transition state reason).lifecycle.startupCatalogClassified =
      s.startupCatalogClassified := by
  unfold transition
  split <;> rfl

theorem launchEffects_transition (s : LauncherLifecycle) (state : LauncherLifecycleState)
    (reason : String) : launchEffects (s.transition state reason).effects = [] := by
  unfold transition
  split <;> rfl

/-- A call that leaves the state alone and starts, hands over and recovers nothing. -/
structure Quiet (s : LauncherLifecycle) (r : Emits) : Prop where
  state : r.lifecycle.state = s.state
  classified : r.lifecycle.startupCatalogClassified = s.startupCatalogClassified
  effects : launchEffects r.effects = []

theorem Quiet.self (s : LauncherLifecycle) : Quiet s s.quiet := ⟨rfl, rfl, rfl⟩

theorem markRevealReady_quiet (s : LauncherLifecycle) (detail : String) :
    Quiet s (s.markRevealReady detail) := by
  unfold markRevealReady
  split <;> exact ⟨rfl, rfl, rfl⟩

theorem Quiet.event {r : Emits} (h : Quiet s r) (name detail : String) :
    Quiet s (r.startupEvent name detail) := by
  refine ⟨h.state, h.classified, ?_⟩
  rw [Emits.effects_startupEvent, launchEffects_append, h.effects]
  rfl

theorem Quiet.andThen {r : Emits} {f : LauncherLifecycle → Emits} (h : Quiet s r)
    (hf : Quiet r.lifecycle (f r.lifecycle)) : Quiet s (r.andThen f) := by
  refine ⟨hf.state.trans h.state, hf.classified.trans h.classified, ?_⟩
  rw [Emits.effects_andThen, launchEffects_append, h.effects, hf.effects]
  rfl

theorem Quiet.reveal {r : Emits} (h : Quiet s r) (detail : String) :
    Quiet s (r.andThen fun t => t.markRevealReady detail) :=
  h.andThen (markRevealReady_quiet _ _)

theorem Quiet.moved {r : Emits} (h : Quiet s r) : Moved s step r := by
  refine ⟨?_, fun hclassified => h.classified.trans hclassified⟩
  rw [h.effects]
  exact .kept step h.state

/-- A call between catalog states, which may push effects of the catalog. -/
structure CatalogCall (s : LauncherLifecycle) (r : Emits) : Prop where
  before : s.state.busy = false
  after : r.lifecycle.state.busy = false
  classified : r.lifecycle.startupCatalogClassified = s.startupCatalogClassified
  effects : launchEffects r.effects = []

theorem CatalogCall.moved {r : Emits} (h : CatalogCall s r) : Moved s step r := by
  refine ⟨?_, fun hclassified => h.classified.trans hclassified⟩
  rw [h.effects]
  exact .catalog step h.before h.after

theorem catalogCall_transition {state : LauncherLifecycleState} (hs : s.state.busy = false)
    (hstate : state.busy = false) (reason : String) :
    CatalogCall s (s.transition state reason) := by
  refine ⟨hs, ?_, classified_transition _ _ _, launchEffects_transition _ _ _⟩
  rw [state_transition]
  exact hstate

theorem CatalogCall.andThen {r : Emits} {f : LauncherLifecycle → Emits} (h : CatalogCall s r)
    (hf : CatalogCall r.lifecycle (f r.lifecycle)) : CatalogCall s (r.andThen f) := by
  refine ⟨h.before, hf.after, hf.classified.trans h.classified, ?_⟩
  rw [Emits.effects_andThen, launchEffects_append, h.effects, hf.effects]
  rfl

theorem CatalogCall.then_transition {r : Emits} (h : CatalogCall s r)
    {state : LauncherLifecycleState} (hstate : state.busy = false) (reason : String) :
    CatalogCall s (r.andThen fun t => t.transition state reason) :=
  h.andThen (catalogCall_transition h.after hstate reason)

theorem CatalogCall.then_reveal {r : Emits} (h : CatalogCall s r) (detail : String) :
    CatalogCall s (r.andThen fun t => t.markRevealReady detail) := by
  have hquiet := markRevealReady_quiet r.lifecycle detail
  refine h.andThen ⟨h.after, ?_, hquiet.classified, hquiet.effects⟩
  rw [hquiet.state]
  exact h.after

theorem CatalogCall.push {r : Emits} (h : CatalogCall s r) {effect : LauncherEffect}
    (heffect : effect.isLaunch = false) : CatalogCall s (r.push effect) := by
  refine ⟨h.before, h.after, h.classified, ?_⟩
  rw [Emits.effects_push, launchEffects_append, h.effects, launchEffects,
    List.filter_cons_of_neg (by rw [heffect]; decide)]
  rfl

theorem not_busy_of_takesCatalog {state : LauncherLifecycleState} (h : takesCatalog state = true) :
    state.busy = false := by
  cases state <;> first | rfl | cases h

theorem recoverySelected_move (s : LauncherLifecycle) (selected : CatalogRecoveryChoice)
    (reason : String) : Moved s step (s.recoverySelected selected reason) := by
  unfold recoverySelected
  split
  · rename_i hstate
    exact (catalogCall_transition (by rw [hstate]; rfl) rfl reason).moved
  · exact (Quiet.self s).moved

theorem recoveryConfirmed_move (s : LauncherLifecycle) : Moved s step s.recoveryConfirmed := by
  unfold recoveryConfirmed
  split
  · rename_i hstate
    have hs : s.state.busy = false := by
      rw [hstate]
      rfl
    split <;> exact ((catalogCall_transition hs rfl _).push rfl).moved
  · exact (Quiet.self s).moved

/-- One effect, then a change of state. -/
theorem Moved.push_transition {effect : LauncherEffect} {state : LauncherLifecycleState}
    {reason : String} (h : ∀ t : LauncherLifecycle, t.state = state →
      LaunchMove s t step (launchEffects [effect])) :
    Moved s step ((s.quiet.push effect).andThen fun t => t.transition state reason) := by
  refine ⟨?_, fun hclassified => (classified_transition _ _ _).trans hclassified⟩
  rw [Emits.effects_andThen, launchEffects_append, launchEffects_transition, List.append_nil]
  exact h _ (state_transition _ _ _)

theorem handleClassified_move (hclassified : s.startupCatalogClassified = true)
    (input : LauncherLifecycleInput) : Moved s (.handle input) (s.handleClassified input) := by
  cases input with
  | catalogReady source validating =>
      simp only [handleClassified]
      split
      · rename_i htakes
        have hready : CatalogCall s (s.transition (.catalogReady source validating)
            "catalog_ready") := catalogCall_transition (not_busy_of_takesCatalog htakes) rfl _
        split
        · exact hready.moved
        · exact (hready.then_transition rfl _).moved
      · exact (Quiet.self s).moved
  | catalogBuilding mode foreground hasStaleCatalog =>
      simp only [handleClassified]
      split <;> first
        | exact (Quiet.self s).moved
        | (rename_i hstate; exact (catalogCall_transition (by rw [hstate]; rfl) rfl _).moved)
  | catalogLoadFailed error hasStaleCatalog transient =>
      simp only [handleClassified]
      split
      · rename_i htakes
        exact ((catalogCall_transition (not_busy_of_takesCatalog htakes) rfl _).then_reveal _).moved
      · exact (Quiet.self s).moved
  | catalogRecoveryRequired error hasStaleCatalog mode =>
      simp only [handleClassified]
      split
      · rename_i htakes
        exact ((catalogCall_transition (not_busy_of_takesCatalog htakes) rfl _).then_reveal _).moved
      · exact (Quiet.self s).moved
  | catalogRecoveryLeft => exact recoverySelected_move s _ _
  | catalogRecoveryRight => exact recoverySelected_move s _ _
  | catalogRecoveryConfirm => exact recoveryConfirmed_move s
  | catalogRecoveryCancel =>
      simp only [handleClassified]
      split
      · rename_i hstate
        have hs : s.state.busy = false := by
          rw [hstate]
          rfl
        split <;> exact ((catalogCall_transition hs rfl _).push rfl).moved
      · exact (Quiet.self s).moved
  | catalogValidationStarted =>
      simp only [handleClassified]
      split
      · rename_i hstate
        exact (catalogCall_transition (by rw [hstate]; rfl) rfl _).moved
      · exact (Quiet.self s).moved
  | catalogValidationFinished =>
      simp only [handleClassified]
      split
      · rename_i hstate
        exact ((catalogCall_transition (by rw [hstate]; rfl) rfl _).then_transition rfl _).moved
      · exact (Quiet.self s).moved
  | launchRequested launchRef =>
      have hbegin : s.state.busy = false → s.startupInputEnabled = true →
          Moved s (.handle (.launchRequested launchRef))
            ((s.quiet.push (.beginLoadingFrame launchRef)).andThen fun t => t.transition
              (.launching (.loadingFramePending launchRef)) "launch_requested") := fun hs hinput =>
        .push_transition fun t ht => .requested launchRef hs hinput hclassified ht
      simp only [handleClassified]
      split
      · rename_i hstate
        split
        · rename_i hinput
          exact hbegin (by rw [hstate]; rfl) hinput
        · exact (Quiet.self s).moved
      · rename_i hstate
        split
        · rename_i hinput
          exact hbegin (by rw [hstate]; rfl) hinput
        · exact (Quiet.self s).moved
      · exact (Quiet.self s).moved
  | launchFailed title kind detail =>
      simp only [handleClassified]
      split
      · rename_i phase hstate
        exact .push_transition fun t ht => .failed title kind detail phase hstate ht
      · exact (Quiet.self s).moved
  | launchFailureAcknowledge =>
      simp only [handleClassified]
      split
      · rename_i reason hstate
        exact .push_transition fun t ht => .acknowledged reason hstate ht
      · exact (Quiet.self s).moved
  | launchSucceeded spawnedMister =>
      simp only [handleClassified]
      split
      · rename_i phase hstate
        refine ⟨?_, fun hclassified => (classified_transition _ _ _).trans hclassified⟩
        rw [launchEffects_transition]
        exact .succeeded spawnedMister phase hstate (state_transition _ _ _)
      · exact (Quiet.self s).moved
  | launchTimedOut =>
      simp only [handleClassified]
      split
      · rename_i phase hstate
        exact .push_transition fun t ht => .timedOut phase hstate ht
      · exact (Quiet.self s).moved
  | startupRevealReady _ | startupReturnCatalogHydrationNeeded | startupReturnContextRestored _
  | startupReturnPreviewReady _ => exact (Quiet.self s).moved

theorem returnContextRestored_quiet (s : LauncherLifecycle) (context : ReturnContext) :
    Quiet s (s.returnContextRestored context) := by
  have hrestored : ∀ name text name' text', Quiet s ((({ s with
      startupRevealState := .restoreContext } : LauncherLifecycle).quiet.startupEvent name
        text).startupEvent name' text') := fun name text name' text' => ⟨rfl, rfl, rfl⟩
  unfold returnContextRestored
  refine (hrestored _ _ _ _).andThen ?_
  split
  · exact ⟨rfl, rfl, rfl⟩
  · exact markRevealReady_quiet _ _

theorem handle_move (s : LauncherLifecycle) (input : LauncherLifecycleInput) :
    Moved s (.handle input) (s.handle input) := by
  have hother : Moved s (.handle input)
      (if s.startupCatalogClassified then s.handleClassified input else s.quiet) := by
    split
    · rename_i hclassified
      exact handleClassified_move hclassified input
    · exact (Quiet.self s).moved
  cases input with
  | startupRevealReady previewState =>
      exact (markRevealReady_quiet s _).moved
  | startupReturnCatalogHydrationNeeded =>
      simp only [handle]
      split
      · exact Quiet.moved ⟨rfl, rfl, rfl⟩
      · exact (Quiet.self s).moved
  | startupReturnContextRestored context => exact (returnContextRestored_quiet s context).moved
  | startupReturnPreviewReady previewState =>
      exact (((Quiet.self s).event _ _).reveal _).moved
  | _ => exact hother

theorem loadingFramePresented_move (s : LauncherLifecycle) (elapsed : Nat) :
    Moved s (.loadingFramePresented elapsed) (s.loadingFramePresented elapsed) := by
  unfold loadingFramePresented
  split
  · rename_i launchRef hstate
    exact .push_transition fun t ht => .presented elapsed launchRef hstate ht
  · exact (Quiet.self s).moved

theorem beginStartupReveal_quiet (s : LauncherLifecycle) (mode : StartupMode) (now : Nat) :
    Quiet s (s.beginStartupReveal mode now) := by
  unfold beginStartupReveal
  cases mode <;> exact ⟨rfl, rfl, rfl⟩

theorem tickStartupReveal_quiet (s : LauncherLifecycle) (now : Nat) (catalogReady : Bool) :
    Quiet s (s.tickStartupReveal now catalogReady) := by
  have htimeout : ∀ name text detail, Quiet s ((s.quiet.startupEvent name text).andThen
      fun t => t.markRevealReady detail) := fun name text detail =>
    ((Quiet.self s).event name text).reveal detail
  unfold tickStartupReveal
  split
  · exact .self s
  · dsimp only
    split
    · exact htimeout _ _ _
    · split
      · split
        · exact markRevealReady_quiet s _
        · split
          · exact htimeout _ _ _
          · exact .self s
      · split
        · split
          · exact htimeout _ _ _
          · exact .self s
        · exact .self s
      · exact .self s

theorem noteStartupFramePresented_quiet (s : LauncherLifecycle) (frame now : Nat) :
    Quiet s (s.noteStartupFramePresented frame now) := by
  unfold noteStartupFramePresented
  split
  · exact .self s
  dsimp only
  split
  · refine Quiet.andThen ⟨rfl, rfl, rfl⟩ ?_
    split
    · exact ⟨rfl, rfl, rfl⟩
    · exact .self _
  · refine (Quiet.self s).andThen ?_
    split
    · exact ⟨rfl, rfl, rfl⟩
    · exact .self _

/-- What holds of a call from the classified lifecycle. -/
theorem CatalogCall.classify {r : Emits}
    (h : CatalogCall { s with startupCatalogClassified := true } r) : Moved s step r := by
  refine ⟨?_, fun _ => h.classified⟩
  rw [h.effects]
  exact .catalog step h.before h.after

theorem classifyStartupCatalog_move (hs : s.state.busy = false) (input : StartupCatalogState) :
    Moved s step (s.classifyStartupCatalog input) := by
  have hs' : ({ s with startupCatalogClassified := true } : LauncherLifecycle).state.busy =
      false := hs
  unfold classifyStartupCatalog
  cases input with
  | ready source validationScheduled =>
      dsimp only
      split
      · exact (catalogCall_transition hs' rfl _).classify
      · exact ((catalogCall_transition hs' rfl _).then_transition rfl _).classify
  | building mode foregroundCatalogUpdate hasStaleCatalog =>
      exact (catalogCall_transition hs' rfl _).classify
  | loadFailed error hasStaleCatalog transient =>
      exact ((catalogCall_transition hs' rfl _).then_reveal _).classify

/-- Nothing is launched before the startup catalog is classified. -/
def Started (s : LauncherLifecycle) : Prop :=
  s.state.busy = true → s.startupCatalogClassified = true

/-- **Everything a call can do to a launch.** -/
theorem moved_step {effects : List LauncherEffect} (hstarted : Started s)
    (h : launchSystem.step s (step, effects) t) : Moved s step ⟨t, effects⟩ := by
  obtain ⟨hallowed, hperform⟩ := h
  rw [← hperform]
  cases step with
  | handle input => exact handle_move s input
  | loadingFramePresented elapsed => exact loadingFramePresented_move s elapsed
  | beginStartupReveal mode now => exact (beginStartupReveal_quiet s mode now).moved
  | classifyStartupCatalog input =>
      have hs : s.state.busy = false := by
        cases hbusy : s.state.busy with
        | false => rfl
        | true => exact absurd ((hstarted hbusy).symm.trans hallowed) (by simp)
      exact classifyStartupCatalog_move hs input
  | tickStartupReveal now catalogReady => exact (tickStartupReveal_quiet s now catalogReady).moved
  | noteStartupFramePresented frame now =>
      exact (noteStartupFramePresented_quiet s frame now).moved

/-- A launch is under way before a call that leaves one, or the lifecycle is classified. -/
theorem busy_or_classified {effects : List LauncherEffect} (h : LaunchMove s t step effects)
    (hbusy : t.state.busy = true) :
    s.state.busy = true ∨ s.startupCatalogClassified = true := by
  cases h with
  | kept _ hstate => exact .inl (by rwa [← hstate])
  | catalog _ _ ht => exact absurd (hbusy.symm.trans ht) (by simp)
  | requested _ _ _ hclassified _ => exact .inr hclassified
  | presented _ _ hstate _ | failed _ _ _ _ hstate _ | timedOut _ hstate _
  | succeeded _ _ hstate _ | acknowledged _ hstate _ =>
      left
      rw [hstate]
      rfl

theorem started_step {performed : Performed} (hs : Started s)
    (h : launchSystem.step s performed t) : Started t := by
  have hmoved := moved_step hs h
  intro hbusy
  obtain hbefore | hclassified := busy_or_classified hmoved.move hbusy
  · exact hmoved.classified (hs hbefore)
  · exact hmoved.classified hclassified

end Calls

/-! ## 3. What a run pushed -/

/-- A call, or one of the effects it pushed. -/
inductive LaunchEvent where
  | call (step : LaunchStep)
  | effect (effect : LauncherEffect)
  deriving DecidableEq

/-- The calls of a run, each before its effects. -/
def history (run : List Performed) : List LaunchEvent :=
  run.flatMap fun performed => .call performed.1 :: performed.2.map .effect

def LaunchEvent.isLaunch : LaunchEvent → Bool
  | .call _ => false
  | .effect pushed => pushed.isLaunch

/-- A loading frame or a recovery, not the handoff between them. -/
def LaunchEvent.opensOrRecovers : LaunchEvent → Bool
  | .effect (.beginLoadingFrame _) | .effect .presentRecoveryFrame => true
  | _ => false

/-- The last loading frame was begun for a launch, and no event of a kind came since. -/
structure Since (kind : LaunchEvent → Bool) (launchRef : String)
    (events between : List LaunchEvent) :
    Prop where
  begun : ∃ before, events = before ++ .effect (.beginLoadingFrame launchRef) :: between
  none : ∀ event ∈ between, kind event = false

/-- What has to come before an event. A handoff needs a loading frame of its own: begun for the same
    launch and presented since, with no other loading frame, handoff or recovery between. A recovery
    needs a launch of its own: a loading frame begun, with no other and no recovery between. -/
def Prepared (before : List LaunchEvent) : LaunchEvent → Prop
  | .effect (.beginLaunchHandoff launchRef) =>
      ∃ between, Since LaunchEvent.isLaunch launchRef before between ∧
        ∃ elapsed, .call (.loadingFramePresented elapsed) ∈ between
  | .effect .presentRecoveryFrame =>
      ∃ launchRef between, Since LaunchEvent.opensOrRecovers launchRef before between
  | _ => True

def AllPrepared (events : List LaunchEvent) : Prop :=
  ∀ before event after, events = before ++ event :: after → Prepared before event

section Events

variable {kind : LaunchEvent → Bool} {launchRef : String} {events between new : List LaunchEvent}
  {event : LaunchEvent}

theorem history_snoc (run : List Performed) (step : LaunchStep) (effects : List LauncherEffect) :
    history (run ++ [(step, effects)]) = history run ++ .call step :: effects.map .effect := by
  simp [history]

theorem Since.start :
    Since kind launchRef (events ++ [.effect (.beginLoadingFrame launchRef)]) [] :=
  ⟨⟨events, rfl⟩, by simp⟩

theorem Since.append (h : Since kind launchRef events between)
    (hnew : ∀ event ∈ new, kind event = false) :
    Since kind launchRef (events ++ new) (between ++ new) := by
  obtain ⟨before, rfl⟩ := h.begun
  refine ⟨⟨before, by simp⟩, fun event hevent => ?_⟩
  obtain hold | hlast := List.mem_append.mp hevent
  · exact h.none event hold
  · exact hnew event hlast

theorem Since.weaken {kind' : LaunchEvent → Bool} (h : Since kind launchRef events between)
    (hkind : ∀ event, kind event = false → kind' event = false) :
    Since kind' launchRef events between :=
  ⟨h.begun, fun event hevent => hkind event (h.none event hevent)⟩

theorem opensOrRecovers_of_isLaunch (h : event.isLaunch = false) :
    event.opensOrRecovers = false := by
  cases event with
  | call _ => rfl
  | effect pushed => cases pushed <;> first | rfl | cases h

theorem prepared_of_not_isLaunch (h : event.isLaunch = false) : Prepared events event := by
  cases event with
  | call _ => trivial
  | effect pushed => cases pushed <;> trivial

theorem allPrepared_nil : AllPrepared [] := fun _ _ _ h => absurd h (by simp)

theorem AllPrepared.snoc (h : AllPrepared events) (hevent : Prepared events event) :
    AllPrepared (events ++ [event]) := by
  intro before last after hsplit
  obtain rfl | ⟨rest, last', rfl⟩ := List.eq_nil_or_concat after
  · obtain ⟨rfl, hlast⟩ := List.append_inj' hsplit rfl
    obtain ⟨rfl, -⟩ := List.cons.inj hlast
    exact hevent
  · rw [List.concat_eq_append, ← List.cons_append, ← List.append_assoc] at hsplit
    obtain ⟨hevents, -⟩ := List.append_inj' hsplit rfl
    exact h before last rest hevents

theorem AllPrepared.append (h : AllPrepared events) (hnew : ∀ event ∈ new, event.isLaunch = false) :
    AllPrepared (events ++ new) := by
  induction new using List.reverseRecOn with
  | nil => rwa [List.append_nil]
  | append_singleton new event ih =>
      rw [← List.append_assoc]
      exact (ih fun e he => hnew e (List.mem_append_left _ he)).snoc
        (prepared_of_not_isLaunch (hnew event (by simp)))

end Events

/-! ## 4. Runs -/

/-- What a run pushed fits the state it ended in. -/
structure Fits (s : LauncherLifecycle) (events : List LaunchEvent) : Prop where
  prepared : AllPrepared events
  pending : ∀ launchRef, s.state = .launching (.loadingFramePending launchRef) →
    ∃ between, Since LaunchEvent.isLaunch launchRef events between
  launching : ∀ phase, s.state = .launching phase →
    ∃ launchRef between, Since LaunchEvent.opensOrRecovers launchRef events between

section Runs

variable {s t : LauncherLifecycle} {step : LaunchStep} {effects : List LauncherEffect}
  {events new : List LaunchEvent}

theorem Fits.quiet (h : Fits s events) (ht : t.state = s.state)
    (hnew : ∀ event ∈ new, event.isLaunch = false) : Fits t (events ++ new) := by
  refine ⟨h.prepared.append hnew, fun launchRef hstate => ?_, fun phase hstate => ?_⟩
  · obtain ⟨between, hsince⟩ := h.pending launchRef (by rw [← ht, hstate])
    exact ⟨_, hsince.append hnew⟩
  · obtain ⟨launchRef, between, hsince⟩ := h.launching phase (by rw [← ht, hstate])
    exact ⟨launchRef, _, hsince.append fun event hevent =>
      opensOrRecovers_of_isLaunch (hnew event hevent)⟩

theorem fits_of_not_launching (h : AllPrepared events) (ht : ∀ phase, t.state ≠ .launching phase) :
    Fits t events :=
  ⟨h, fun _ hstate => absurd hstate (ht _), fun phase hstate => absurd hstate (ht phase)⟩

theorem not_isLaunch_of_nil (h : launchEffects effects = []) :
    ∀ event ∈ effects.map LaunchEvent.effect, event.isLaunch = false := by
  intro event hevent
  obtain ⟨pushed, hpushed, rfl⟩ := List.mem_map.mp hevent
  exact Bool.eq_false_iff.mpr (List.filter_eq_nil_iff.mp h pushed hpushed)

/-- One launch effect, with others around it. -/
theorem split_of_singleton {pushed : LauncherEffect} (h : launchEffects effects = [pushed]) :
    ∃ before after, effects = before ++ pushed :: after ∧ launchEffects before = [] ∧
      launchEffects after = [] := by
  obtain ⟨before, after, rfl, hbefore, -, hafter⟩ := List.filter_eq_cons_iff.mp h
  exact ⟨before, after, rfl, List.filter_eq_nil_iff.mpr hbefore, hafter⟩

/-- The events of a call with one launch effect: quiet ones, the effect, quiet ones. -/
theorem events_of_singleton {pushed : LauncherEffect} (h : launchEffects effects = [pushed])
    (step : LaunchStep) : ∃ before after,
      .call step :: effects.map LaunchEvent.effect =
        .call step :: before ++ [.effect pushed] ++ after ∧
      (∀ event ∈ before, event.isLaunch = false) ∧ ∀ event ∈ after, event.isLaunch = false := by
  obtain ⟨before, after, rfl, hbefore, hafter⟩ := split_of_singleton h
  exact ⟨before.map .effect, after.map .effect, by simp, not_isLaunch_of_nil hbefore,
    not_isLaunch_of_nil hafter⟩

theorem not_isLaunch_call {before : List LaunchEvent} (step : LaunchStep)
    (h : ∀ event ∈ before, event.isLaunch = false) :
    ∀ event ∈ .call step :: before, event.isLaunch = false := by
  intro event hevent
  obtain rfl | hevent := List.mem_cons.mp hevent
  · rfl
  · exact h event hevent

/-- A launch begins: its loading frame is the last one begun. -/
theorem fits_requested {launchRef : String} (h : AllPrepared events)
    (ht : t.state = .launching (.loadingFramePending launchRef))
    (heffects : launchEffects effects = [.beginLoadingFrame launchRef]) :
    Fits t (events ++ .call step :: effects.map .effect) := by
  obtain ⟨before, after, hsplit, hbefore, hafter⟩ := events_of_singleton heffects step
  rw [hsplit, ← List.append_assoc, ← List.append_assoc]
  have hsince : Since LaunchEvent.isLaunch launchRef
      (events ++ .call step :: before ++ [.effect (.beginLoadingFrame launchRef)] ++ after)
      ([] ++ after) := Since.start.append hafter
  have hbegin : Prepared (events ++ .call step :: before)
      (.effect (.beginLoadingFrame launchRef)) :=
    trivial
  refine ⟨((h.append (not_isLaunch_call step hbefore)).snoc hbegin).append hafter,
    fun launchRef' hstate => ?_, fun phase hstate => ?_⟩
  · have href := ht.symm.trans hstate
    cases href
    exact ⟨_, hsince⟩
  · exact ⟨launchRef, _, hsince.weaken fun _ => opensOrRecovers_of_isLaunch⟩

/-- The loading frame is presented: the launch is handed over. -/
theorem fits_presented {launchRef : String} {elapsed : Nat} (h : Fits s events)
    (hs : s.state = .launching (.loadingFramePending launchRef))
    (ht : t.state = .launching .handoffPending)
    (heffects : launchEffects effects = [.beginLaunchHandoff launchRef]) :
    Fits t (events ++ .call (.loadingFramePresented elapsed) :: effects.map .effect) := by
  obtain ⟨before, after, hsplit, hbefore, hafter⟩ :=
    events_of_singleton heffects (.loadingFramePresented elapsed)
  have hcall := not_isLaunch_call (.loadingFramePresented elapsed) hbefore
  obtain ⟨between, hsince⟩ := h.pending launchRef hs
  have hpresented := hsince.append hcall
  have hsince' : Since LaunchEvent.opensOrRecovers launchRef
      (events ++ .call (.loadingFramePresented elapsed) :: before ++
        [.effect (.beginLaunchHandoff launchRef)] ++ after) _ :=
    ((hpresented.weaken fun _ => opensOrRecovers_of_isLaunch).append (by simp [
      LaunchEvent.opensOrRecovers])).append fun event hevent =>
        opensOrRecovers_of_isLaunch (hafter event hevent)
  have hhandoff : Prepared (events ++ .call (.loadingFramePresented elapsed) :: before)
      (.effect (.beginLaunchHandoff launchRef)) :=
    ⟨_, hpresented, elapsed, List.mem_append_right _ (List.mem_cons_self ..)⟩
  rw [hsplit, ← List.append_assoc, ← List.append_assoc]
  refine ⟨((h.prepared.append hcall).snoc hhandoff).append hafter, fun launchRef' hstate => ?_,
    fun phase hstate => ⟨launchRef, _, hsince'⟩⟩
  exact absurd (ht.symm.trans hstate) (by simp)

/-- A launch fails or times out: it is recovered. -/
theorem fits_recovered {phase : LaunchingPhase} {reason : RecoveryReason} (h : Fits s events)
    (hs : s.state = .launching phase) (ht : t.state = .recovered reason)
    (heffects : launchEffects effects = [.presentRecoveryFrame]) :
    Fits t (events ++ .call step :: effects.map .effect) := by
  obtain ⟨before, after, hsplit, hbefore, hafter⟩ := events_of_singleton heffects step
  have hcall := not_isLaunch_call step hbefore
  obtain ⟨launchRef, between, hsince⟩ := h.launching phase hs
  have hrecovery : Prepared (events ++ .call step :: before) (.effect .presentRecoveryFrame) :=
    ⟨launchRef, _, hsince.append fun event hevent =>
      opensOrRecovers_of_isLaunch (hcall event hevent)⟩
  rw [hsplit, ← List.append_assoc, ← List.append_assoc]
  refine fits_of_not_launching (((h.prepared.append hcall).snoc hrecovery).append hafter) ?_
  intro phase' hstate
  exact absurd (ht.symm.trans hstate) (by simp)

theorem fits_step (hstarted : Started s) (h : Fits s events)
    (hstep : launchSystem.step s (step, effects) t) :
    Fits t (events ++ .call step :: effects.map .effect) := by
  have hmove := (moved_step hstarted hstep).move
  have hquiet : launchEffects effects = [] →
      ∀ event ∈ .call step :: effects.map LaunchEvent.effect, event.isLaunch = false :=
    fun hnil => not_isLaunch_call step (not_isLaunch_of_nil hnil)
  dsimp only at hmove
  generalize hpushed : launchEffects effects = pushed at hmove
  cases hmove with
  | kept _ ht => exact h.quiet ht (hquiet hpushed)
  | catalog _ _ ht =>
      refine fits_of_not_launching (h.prepared.append (hquiet hpushed)) fun phase hstate => ?_
      rw [hstate] at ht
      cases ht
  | requested launchRef _ _ _ ht => exact fits_requested h.prepared ht hpushed
  | presented elapsed launchRef hs ht => exact fits_presented h hs ht hpushed
  | failed title kind detail phase hs ht => exact fits_recovered h hs ht hpushed
  | timedOut phase hs ht => exact fits_recovered h hs ht hpushed
  | succeeded _ _ _ ht | acknowledged _ _ ht =>
      refine fits_of_not_launching (h.prepared.append (hquiet hpushed)) fun phase hstate => ?_
      exact absurd (ht.symm.trans hstate) (by simp)

theorem fits_run {s₀ : LauncherLifecycle} {run : List Performed} (hinit : launchSystem.init s₀)
    (h : launchSystem.Run s₀ run s) : Started s ∧ Fits s (history run) := by
  induction h with
  | nil =>
      obtain ⟨catalogWorkerEnabled, now, rfl⟩ := hinit
      exact ⟨fun hbusy => Bool.noConfusion hbusy,
        fits_of_not_launching allPrepared_nil fun phase => by simp [LauncherLifecycle.new]⟩
  | snoc _ hstep ih =>
      obtain ⟨hstarted, hfits⟩ := ih
      rw [history_snoc]
      exact ⟨started_step hstarted hstep, fits_step hstarted hfits hstep⟩

/-! ## 5. Recovery, and calls that leave a launch alone -/

/-- The input that ends a launch without a game, and what it is recovered from. -/
def LaunchStep.recovers : LaunchStep → Option RecoveryReason
  | .handle (.launchFailed title kind detail) => some (.launchFailed title kind detail)
  | .handle .launchTimedOut => some .launchTimedOut
  | _ => none

/-- The inputs a launch worker sends at the end. -/
def LaunchStep.isTerminal : LaunchStep → Bool
  | .handle (.launchFailed ..) | .handle (.launchSucceeded _) | .handle .launchTimedOut => true
  | _ => false

/-- The inputs of the catalog. -/
def LaunchStep.isCatalog : LaunchStep → Bool
  | .classifyStartupCatalog _ | .handle (.catalogReady ..) | .handle (.catalogBuilding ..)
  | .handle (.catalogLoadFailed ..) | .handle (.catalogRecoveryRequired ..)
  | .handle .catalogRecoveryLeft | .handle .catalogRecoveryRight
  | .handle .catalogRecoveryConfirm | .handle .catalogRecoveryCancel
  | .handle .catalogValidationStarted | .handle .catalogValidationFinished => true
  | _ => false

/-- A catalog input while a launch, handoff or recovery is in progress, or an input of a launch
    worker with no launch in progress. -/
def Stale (s : LauncherLifecycle) (step : LaunchStep) : Prop :=
  (s.state.busy = true ∧ step.isCatalog = true) ∨
    ((∀ phase, s.state ≠ .launching phase) ∧ step.isTerminal = true)

theorem begin_of_move {pushed : List LauncherEffect} {launchRef : String}
    (h : LaunchMove s t step pushed) (hmem : .beginLoadingFrame launchRef ∈ pushed) :
    s.state.busy = false ∧ s.startupInputEnabled = true ∧ s.startupCatalogClassified = true := by
  cases h with
  | requested _ hs hinput hclassified _ => exact ⟨hs, hinput, hclassified⟩
  | _ => simp at hmem

theorem recovered_of_move {pushed : List LauncherEffect} {reason : RecoveryReason}
    (h : LaunchMove s t step pushed) (hs : s.state = .recovered reason)
    (hstep : step ≠ .handle .launchFailureAcknowledge) :
    t.state = .recovered reason ∧ pushed = [] := by
  cases h with
  | kept _ ht => exact ⟨ht.trans hs, rfl⟩
  | catalog _ hbusy _ | requested _ hbusy _ _ _ =>
      rw [hs] at hbusy
      cases hbusy
  | presented _ _ hstate _ | failed _ _ _ _ hstate _ | timedOut _ hstate _
  | succeeded _ _ hstate _ => exact absurd (hs.symm.trans hstate) (by simp)
  | acknowledged _ _ _ => exact absurd rfl hstep

theorem launch_recovers {phase : LaunchingPhase} {reason : RecoveryReason} (hstarted : Started s)
    (hs : s.state = .launching phase) (hstep : step.recovers = some reason) :
    (s.perform step).lifecycle.state = .recovered reason ∧
      (s.perform step).effects.count .presentRecoveryFrame = 1 := by
  have hclassified : s.startupCatalogClassified = true := hstarted (by rw [hs]; rfl)
  have hrecovers : ∀ text, ((s.quiet.push .presentRecoveryFrame).andThen fun s =>
      s.transition (.recovered reason) text).lifecycle.state = .recovered reason ∧
      ((s.quiet.push .presentRecoveryFrame).andThen fun s =>
        s.transition (.recovered reason) text).effects.count .presentRecoveryFrame = 1 := by
    intro text
    refine ⟨state_transition _ _ _, ?_⟩
    have hne : s.state ≠ .recovered reason := by
      rw [hs]
      simp
    rw [Emits.effects_andThen, transition, if_neg (by exact hne)]
    rfl
  unfold LaunchStep.recovers at hstep
  split at hstep
  · cases hstep
    simp only [perform, handle, hclassified, if_true, handleClassified, hs]
    exact hrecovers _
  · cases hstep
    simp only [perform, handle, hclassified, if_true, handleClassified, hs]
    exact hrecovers _
  · cases hstep

theorem catalog_quiet (hstarted : Started s) (hallowed : s.Allows step)
    (hbusy : s.state.busy = true) (hcatalog : step.isCatalog = true) :
    s.perform step = s.quiet := by
  have hclassified := hstarted hbusy
  have htakes : takesCatalog s.state = false := by
    cases hstate : s.state <;> first | rfl | (rw [hstate] at hbusy; cases hbusy)
  unfold LaunchStep.isCatalog at hcatalog
  split at hcatalog
  · exact absurd (hclassified.symm.trans hallowed) (by simp)
  all_goals first
    | exact absurd hcatalog Bool.false_ne_true
    | simp only [perform, handle, hclassified, if_true, handleClassified, recoverySelected,
        recoveryConfirmed, htakes, Bool.false_eq_true, if_false]
  -- what is left matches on the state, which is none of the catalog's
  all_goals
    split <;> first
      | rfl
      | (rename_i hstate; rw [hstate] at hbusy; cases hbusy)

theorem terminal_quiet (hs : ∀ phase, s.state ≠ .launching phase)
    (hterminal : step.isTerminal = true) : s.perform step = s.quiet := by
  unfold LaunchStep.isTerminal at hterminal
  split at hterminal
  · simp only [perform, handle, handleClassified]
    split <;> rfl
  · simp only [perform, handle, handleClassified]
    split <;> rfl
  · simp only [perform, handle, handleClassified]
    split <;> rfl
  · exact absurd hterminal Bool.false_ne_true

/-- **A catalog input in a launch and an input of a launch that is over change nothing.** -/
theorem stale_quiet (hstarted : Started s) (hallowed : s.Allows step) (h : Stale s step) :
    s.perform step = s.quiet := by
  obtain ⟨hbusy, hcatalog⟩ | ⟨hs, hterminal⟩ := h
  · exact catalog_quiet hstarted hallowed hbusy hcatalog
  · exact terminal_quiet hs hterminal

/-- **A recovered launch stays recovered**, and starts, hands over and recovers nothing, over every
    run without an acknowledgement. -/
theorem recovered_run {run : List Performed} {reason : RecoveryReason} (hstarted : Started s)
    (h : launchSystem.Run s run t) (hs : s.state = .recovered reason)
    (hrun : ∀ performed ∈ run, performed.1 ≠ .handle .launchFailureAcknowledge) :
    t.state = .recovered reason ∧ ∀ performed ∈ run, launchEffects performed.2 = [] := by
  have hboth : Started t ∧ t.state = .recovered reason ∧
      ∀ performed ∈ run, launchEffects performed.2 = [] := by
    induction h with
    | nil => exact ⟨hstarted, hs, by simp⟩
    | snoc _ hstep ih =>
        rename_i performed _ _ _
        obtain ⟨hstarted', hs', hnone⟩ := ih fun other hother =>
          hrun other (List.mem_append_left _ hother)
        obtain ⟨hstate, hlast⟩ := recovered_of_move (moved_step hstarted' hstep).move hs'
          (hrun _ (List.mem_append_right _ (List.mem_singleton_self _)))
        refine ⟨started_step hstarted' hstep, hstate, fun other hother => ?_⟩
        obtain hold | hnew := List.mem_append.mp hother
        · exact hnone other hold
        · rw [List.mem_singleton.mp hnew]
          exact hlast
  exact hboth.2

end Runs

/-! ## 6. Exactly once -/

/-- **A launch is handed over once, in every run**: with what a run pushed, whatever the next call.
    Every handoff has a loading frame of its own, presented since, and every recovery a launch of
    its own; a loading frame is begun only with nothing in progress, input enabled and the catalog
    classified; a launch that fails or times out pushes one recovery and stays recovered until it is
    acknowledged; a stale input changes nothing. -/
theorem launch_exactly_once {s₀ s t : LauncherLifecycle} {run : List Performed} {step : LaunchStep}
    {effects : List LauncherEffect} (hinit : launchSystem.init s₀)
    (hrun : launchSystem.Run s₀ run s) (hstep : launchSystem.step s (step, effects) t) :
    AllPrepared (history (run ++ [(step, effects)])) ∧
    (∀ launchRef, .beginLoadingFrame launchRef ∈ effects → s.state.busy = false ∧
      s.startupInputEnabled = true ∧ s.startupCatalogClassified = true) ∧
    (∀ phase reason, s.state = .launching phase → step.recovers = some reason →
      effects.count .presentRecoveryFrame = 1 ∧
      ∀ more u, launchSystem.Run t more u →
        (∀ performed ∈ more, performed.1 ≠ .handle .launchFailureAcknowledge) →
        u.state = .recovered reason ∧ ∀ performed ∈ more, launchEffects performed.2 = []) ∧
    (Stale s step → t = s ∧ effects = []) := by
  obtain ⟨hstarted, hfits⟩ := fits_run hinit hrun
  obtain ⟨-, hfits'⟩ := fits_run hinit (hrun.snoc hstep)
  refine ⟨hfits'.prepared, fun launchRef hmem => ?_, fun phase reason hs hrecovers => ?_,
    fun hstale => ?_⟩
  · exact begin_of_move (moved_step hstarted hstep).move (List.mem_filter.mpr ⟨hmem, rfl⟩)
  · obtain ⟨hstate, hcount⟩ := launch_recovers hstarted hs hrecovers
    rw [hstep.2] at hstate hcount
    exact ⟨hcount, fun more u hmore hall =>
      recovered_run (started_step hstarted hstep) hmore hstate hall⟩
  · have hquiet := stale_quiet hstarted hstep.1 hstale
    rw [hstep.2] at hquiet
    exact ⟨congrArg Emits.lifecycle hquiet, congrArg Emits.effects hquiet⟩

/-- A launch is requested and its loading frame presented. -/
theorem launch_exactly_once_presented : ∃ s t : LauncherLifecycle, ∃ run effects,
    launchSystem.Run (.new false 0) run s ∧
      launchSystem.step s (.loadingFramePresented 0, effects) t ∧
      effects.count (.beginLaunchHandoff "mra:1942") = 1 ∧
      AllPrepared (history (run ++ [(.loadingFramePresented 0, effects)])) := by
  have hperform : ∀ (s : LauncherLifecycle) (step : LaunchStep), s.Allows step →
      launchSystem.step s (step, (s.perform step).effects) (s.perform step).lifecycle :=
    fun _ _ hallowed => ⟨hallowed, rfl⟩
  have hstart : launchSystem.Run (.new false 0) [] (.new false 0) := .nil
  have hready := hstart.snoc (hperform _ (.classifyStartupCatalog (.ready .freshBuild false)) rfl)
  have hbegun := hready.snoc (hperform _ (.beginStartupReveal .warmCatalog 0) trivial)
  have hshown := hbegun.snoc (hperform _ (.noteStartupFramePresented 1 5) trivial)
  have hasked := hshown.snoc (hperform _ (.handle (.launchRequested "mra:1942")) trivial)
  have hpresented := fun s => hperform s (.loadingFramePresented 0) trivial
  exact ⟨_, _, _, _, hasked, hpresented _, by decide,
    (launch_exactly_once ⟨false, 0, rfl⟩ hasked (hpresented _)).1⟩

end MisterMagik.Launcher
