/-
  File:      MisterMagik/Launcher/Lifecycle.lean
  Subject:   `LauncherLifecycle`: startup reveal, catalog states and launches
             (`launcher_runtime/lifecycle.rs`). Definitions, and what a call does to each field.

  A call gives the lifecycle and the effects it pushed; the step it returns beside them is the new
  state. An `Instant` is a number of nanoseconds, `saturating_duration_since` is subtraction. The
  only clock a call reads itself, in `loadingFramePresented`, is an argument, and so is the text
  `{visual_index:.3}` of a float.
-/
import Mathlib.Data.List.Basic

namespace MisterMagik.Launcher

/-! ## 1. Catalog states and launches -/

inductive CatalogSource where
  | returnCapsule
  | shardedRegistry
  | summaryProjection
  | navigationProjection
  | fullSqlite
  | freshBuild
  deriving DecidableEq, Repr

inductive CatalogBuildMode where
  | firstBuild
  | update
  | freshRecovery
  deriving DecidableEq, Repr

inductive CatalogRecoveryChoice where
  | left
  | right
  deriving DecidableEq, Repr

inductive CatalogRecoveryMode where
  | inputsChanged
  | upgradeRequired
  | repairRequired
  | loadFailure (transient : Bool)
  | persistenceFailure (transient : Bool)
  deriving DecidableEq, Repr

inductive CatalogRecoveryAction where
  | continue
  | retry
  | atomicRebuild
  | freshRebuild
  | exitToMister
  deriving DecidableEq, Repr

/-- The match of the source, its arms in order. -/
def CatalogRecoveryMode.action (self : CatalogRecoveryMode) (hasStaleCatalog : Bool)
    (choice : CatalogRecoveryChoice) : CatalogRecoveryAction :=
  match self, hasStaleCatalog, choice with
  | .inputsChanged, true, .left | .upgradeRequired, true, .left => .continue
  | .inputsChanged, true, .right | .upgradeRequired, true, .right => .atomicRebuild
  | .loadFailure true, false, .left | .persistenceFailure true, false, .left => .retry
  | _, true, .left => .continue
  | _, false, .left => .exitToMister
  | _, _, .right => .freshRebuild

inductive LaunchFailureKind where
  | unreadablePayload
  | damagedArchive
  | missingCore
  | handoffRejected
  | internal
  deriving DecidableEq, Repr

inductive LaunchingPhase where
  | loadingFramePending (launchRef : String)
  | handoffPending
  deriving DecidableEq, Repr

inductive RecoveryReason where
  | launchFailed (title : String) (kind : LaunchFailureKind) (detail : String)
  | launchTimedOut
  deriving DecidableEq, Repr

inductive LauncherLifecycleState where
  | startupCatalogPending
  | catalogBuilding (mode : CatalogBuildMode) (foreground hasStaleCatalog : Bool)
  | catalogLoadFailed (error : String) (hasStaleCatalog : Bool) (mode : CatalogRecoveryMode)
      (selected : CatalogRecoveryChoice)
  | catalogRetrying (hasStaleCatalog : Bool)
  | catalogReady (source : CatalogSource) (validating : Bool)
  | idle
  | launching (phase : LaunchingPhase)
  | handoff (spawnedMister : Bool)
  | recovered (reason : RecoveryReason)
  deriving DecidableEq, Repr

def LauncherLifecycleState.label : LauncherLifecycleState → String
  | startupCatalogPending => "startup-catalog-pending"
  | catalogBuilding .. => "catalog-building"
  | catalogLoadFailed .. => "catalog-load-failed"
  | catalogRetrying _ => "catalog-retrying"
  | catalogReady .. => "catalog-ready"
  | idle => "idle"
  | launching _ => "launching"
  | handoff _ => "handoff"
  | recovered _ => "recovered"

/-! ## 2. Startup -/

inductive StartupMode where
  | coldNoCatalog
  | warmCatalog
  | returnFromGame
  deriving DecidableEq, Repr

def StartupMode.label : StartupMode → String
  | coldNoCatalog => "cold_no_catalog"
  | warmCatalog => "warm_catalog"
  | returnFromGame => "return_from_game"

inductive StartupRevealState where
  | catalogProgressVisible
  | holdBlack
  | holdBlackReturn
  | hydrateReturnCatalog
  | restoreContext
  | waitRelevantPreview
  | revealLauncher
  | inputEnabled
  deriving DecidableEq, Repr

namespace StartupRevealState

def label : StartupRevealState → String
  | catalogProgressVisible => "catalog_progress_visible"
  | holdBlack => "hold_black"
  | holdBlackReturn => "hold_black_return"
  | hydrateReturnCatalog => "hydrate_return_catalog"
  | restoreContext => "restore_context"
  | waitRelevantPreview => "wait_relevant_preview"
  | revealLauncher => "reveal_launcher"
  | inputEnabled => "input_enabled"

/-- The states of `startup_can_present_frame`. -/
def canPresent : StartupRevealState → Bool
  | catalogProgressVisible | revealLauncher | inputEnabled => true
  | _ => false

end StartupRevealState

inductive LauncherEffect where
  | startupEvent (name detail : String)
  | beginLoadingFrame (launchRef : String)
  | beginLaunchHandoff (launchRef : String)
  | presentRecoveryFrame
  | returnToIdle
  | startCatalogRetry (root : String)
  | startCatalogRebuild (root : String)
  | startFreshCatalogBuild (root : String)
  | exitToMister
  deriving DecidableEq, Repr

inductive StartupCatalogState where
  | ready (source : CatalogSource) (validationScheduled : Bool)
  | building (mode : CatalogBuildMode) (foregroundCatalogUpdate hasStaleCatalog : Bool)
  | loadFailed (error : String) (hasStaleCatalog transient : Bool)
  deriving DecidableEq, Repr

/-- `StartupReturnContextRestored`: where the return restored the launcher to. -/
structure ReturnContext where
  screen : String
  systemId : String
  filter : String
  gamePath : String
  gameIndex : Nat
  visualIndex : String
  previewExpected : Bool
  restoredAt : Nat
  deriving DecidableEq, Repr

inductive LauncherLifecycleInput where
  | startupRevealReady (previewState : String)
  | startupReturnCatalogHydrationNeeded
  | startupReturnContextRestored (context : ReturnContext)
  | startupReturnPreviewReady (previewState : String)
  | catalogReady (source : CatalogSource) (validating : Bool)
  | catalogBuilding (mode : CatalogBuildMode) (foreground hasStaleCatalog : Bool)
  | catalogLoadFailed (error : String) (hasStaleCatalog transient : Bool)
  | catalogRecoveryRequired (error : String) (hasStaleCatalog : Bool) (mode : CatalogRecoveryMode)
  | catalogRecoveryLeft
  | catalogRecoveryRight
  | catalogRecoveryConfirm
  | catalogRecoveryCancel
  | catalogValidationStarted
  | catalogValidationFinished
  | launchRequested (launchRef : String)
  | launchFailed (title : String) (kind : LaunchFailureKind) (detail : String)
  | launchFailureAcknowledge
  | launchSucceeded (spawnedMister : Bool)
  | launchTimedOut
  deriving DecidableEq, Repr

structure LauncherLifecycle where
  state : LauncherLifecycleState
  catalogWorkerEnabled : Bool
  startupCatalogClassified : Bool
  startupMode : StartupMode
  startupRevealState : StartupRevealState
  startupStartedAt : Nat
  returnPreviewWaitStartedAt : Option Nat
  startupRevealedAt : Option Nat
  startupInputEnabledAt : Option Nat
  catalogRoot : String
  deriving DecidableEq, Repr

/-- What a call makes of the lifecycle, and what it pushes. -/
structure Emits where
  lifecycle : LauncherLifecycle
  effects : List LauncherEffect
  deriving DecidableEq, Repr

namespace Emits

def push (r : Emits) (effect : LauncherEffect) : Emits :=
  { r with effects := r.effects ++ [effect] }

def andThen (r : Emits) (f : LauncherLifecycle → Emits) : Emits :=
  ⟨(f r.lifecycle).lifecycle, r.effects ++ (f r.lifecycle).effects⟩

def startupEvent (r : Emits) (name detail : String) : Emits :=
  r.push (.startupEvent name detail)

@[simp] theorem lifecycle_push (r : Emits) (effect : LauncherEffect) :
    (r.push effect).lifecycle = r.lifecycle := rfl

@[simp] theorem effects_push (r : Emits) (effect : LauncherEffect) :
    (r.push effect).effects = r.effects ++ [effect] := rfl

@[simp] theorem lifecycle_startupEvent (r : Emits) (name detail : String) :
    (r.startupEvent name detail).lifecycle = r.lifecycle := rfl

@[simp] theorem effects_startupEvent (r : Emits) (name detail : String) :
    (r.startupEvent name detail).effects = r.effects ++ [.startupEvent name detail] := rfl

@[simp] theorem lifecycle_andThen (r : Emits) (f : LauncherLifecycle → Emits) :
    (r.andThen f).lifecycle = (f r.lifecycle).lifecycle := rfl

@[simp] theorem effects_andThen (r : Emits) (f : LauncherLifecycle → Emits) :
    (r.andThen f).effects = r.effects ++ (f r.lifecycle).effects := rfl

end Emits

def milliseconds (nanoseconds : Nat) : Nat := nanoseconds / 1000000

namespace LauncherLifecycle

def COLD_STARTUP_MAX_DURATION : Nat := 20000000000

def RETURN_PREVIEW_HOLD_TIMEOUT : Nat := 250000000

def RETURN_BLACK_SCREEN_TIMEOUT : Nat := 5000000000

def DEFAULT_ARCADE_ROOT : String := "/media/fat/_Arcade"

def new (catalogWorkerEnabled : Bool) (now : Nat) : LauncherLifecycle :=
  { state := .startupCatalogPending
    catalogWorkerEnabled
    startupCatalogClassified := false
    startupMode := .warmCatalog
    startupRevealState := .holdBlack
    startupStartedAt := now
    returnPreviewWaitStartedAt := none
    startupRevealedAt := none
    startupInputEnabledAt := none
    catalogRoot := DEFAULT_ARCADE_ROOT }

def startupCanPresentFrame (self : LauncherLifecycle) : Bool := self.startupRevealState.canPresent

def startupInputEnabled (self : LauncherLifecycle) : Bool := self.startupInputEnabledAt.isSome

def startupHardDeadlineReached (self : LauncherLifecycle) (now : Nat) : Bool :=
  self.startupMode == .coldNoCatalog && COLD_STARTUP_MAX_DURATION ≤ now - self.startupStartedAt

/-- The lifecycle as it is, nothing pushed. -/
def quiet (self : LauncherLifecycle) : Emits := ⟨self, []⟩

/-! ## 3. The two helpers -/

def transition (self : LauncherLifecycle) (next : LauncherLifecycleState) (reason : String) :
    Emits :=
  if self.state = next then self.quiet
  else
    ({ self with state := next } : LauncherLifecycle).quiet.startupEvent
      "launcher_lifecycle_transition"
      ("from=" ++ self.state.label ++ " to=" ++ next.label ++ " reason=" ++ reason)

def markRevealReady (self : LauncherLifecycle) (detail : String) : Emits :=
  match self.startupRevealState with
  | .revealLauncher | .inputEnabled => self.quiet
  | _ =>
      ({ self with startupRevealState := .revealLauncher } : LauncherLifecycle).quiet.startupEvent
        "launcher_reveal_ready" ("mode=" ++ self.startupMode.label ++ " " ++ detail)

/-! ## 4. The calls of the launcher loop -/

def beginStartupReveal (self : LauncherLifecycle) (mode : StartupMode) (now : Nat) : Emits :=
  let self : LauncherLifecycle :=
    { self with
      startupMode := mode
      startupStartedAt := now
      returnPreviewWaitStartedAt := none
      startupRevealedAt := none
      startupInputEnabledAt := none
      startupRevealState :=
        match mode with
        | .coldNoCatalog => .catalogProgressVisible
        | .warmCatalog => .revealLauncher
        | .returnFromGame => .holdBlackReturn }
  let out := self.quiet.startupEvent "startup_entry_classified" ("mode=" ++ mode.label)
  match self.startupRevealState with
  | .catalogProgressVisible =>
      out.startupEvent "catalog_progress_revealed" "mode=cold_no_catalog"
  | .revealLauncher =>
      (out.startupEvent "startup_shell_visible" "mode=warm_catalog").startupEvent
        "launcher_reveal_ready" "mode=warm_catalog catalog_state=ready"
  | .holdBlackReturn => out.startupEvent "startup_hold_black" "mode=return_from_game"
  | _ => out

def tickStartupReveal (self : LauncherLifecycle) (now : Nat) (catalogReady : Bool) : Emits :=
  if self.startupInputEnabledAt.isSome then self.quiet
  else
    let startupElapsed := now - self.startupStartedAt
    if self.startupMode = .returnFromGame ∧ self.startupCanPresentFrame = false ∧
        RETURN_BLACK_SCREEN_TIMEOUT ≤ startupElapsed then
      (self.quiet.startupEvent "return_black_screen_timeout"
        ("elapsed_ms=" ++ toString (milliseconds startupElapsed) ++ " state=" ++
          self.startupRevealState.label)).andThen
        fun self => self.markRevealReady "preview_state=return_black_screen_timeout"
    else
      match self.startupRevealState with
      | .catalogProgressVisible =>
          if catalogReady then self.markRevealReady "preview_state=not_required"
          else if self.startupHardDeadlineReached now then
            (self.quiet.startupEvent "startup_hard_timeout"
              ("elapsed_ms=" ++ toString (milliseconds startupElapsed))).andThen
              fun self => self.markRevealReady "preview_state=startup_hard_timeout"
          else self.quiet
      | .waitRelevantPreview =>
          match self.returnPreviewWaitStartedAt with
          | some started =>
              if RETURN_PREVIEW_HOLD_TIMEOUT ≤ now - started then
                (self.quiet.startupEvent "return_preview_timeout"
                  ("elapsed_ms=" ++ toString (milliseconds (now - started)))).andThen
                  fun self => self.markRevealReady "preview_state=return_preview_timeout"
              else self.quiet
          | none => self.quiet
      | _ => self.quiet

def noteStartupFramePresented (self : LauncherLifecycle) (frame now : Nat) : Emits :=
  if self.startupRevealState ≠ .revealLauncher then self.quiet
  else
    let detail := "mode=" ++ self.startupMode.label ++ " frame=" ++ toString frame
    let revealed :=
      match self.startupRevealedAt with
      | none =>
          ({ self with startupRevealedAt := some now } : LauncherLifecycle).quiet.startupEvent
            "launcher_revealed" detail
      | some _ => self.quiet
    revealed.andThen fun self =>
      match self.startupInputEnabledAt with
      | none =>
          ({ self with
            startupRevealState := .inputEnabled
            startupInputEnabledAt := some now } : LauncherLifecycle).quiet.startupEvent
            "launcher_input_enabled" detail
      | some _ => self.quiet

def classifyStartupCatalog (self : LauncherLifecycle) (input : StartupCatalogState) : Emits :=
  let self : LauncherLifecycle := { self with startupCatalogClassified := true }
  match input with
  | .ready source validationScheduled =>
      let ready := self.transition (.catalogReady source validationScheduled)
        "startup_catalog_classified"
      if validationScheduled then ready
      else ready.andThen fun self => self.transition .idle "catalog_idle"
  | .building mode foregroundCatalogUpdate hasStaleCatalog =>
      self.transition
        (.catalogBuilding mode (foregroundCatalogUpdate || self.catalogWorkerEnabled)
          hasStaleCatalog)
        "startup_catalog_classified"
  | .loadFailed error hasStaleCatalog transient =>
      (self.transition (.catalogLoadFailed error hasStaleCatalog (.loadFailure transient) .left)
        "catalog_load_failed").andThen fun self => self.markRevealReady "catalog_load_failed"

/-! ## 5. `handle` -/

/-- The input of a return that restored where the launcher was. The state is set whatever it was. -/
def returnContextRestored (self : LauncherLifecycle) (context : ReturnContext) : Emits :=
  let restored := (({ self with startupRevealState := .restoreContext } :
    LauncherLifecycle).quiet.startupEvent "startup_restore_context"
      "mode=return_from_game").startupEvent "return_context_restored"
        ("screen=" ++ context.screen ++ " system_id=" ++ context.systemId ++ " filter=" ++
          context.filter ++ " game_path=" ++ context.gamePath ++ " game_index=" ++
          toString context.gameIndex ++ " visual_index=" ++ context.visualIndex ++
          " preview_expected=" ++ toString context.previewExpected)
  restored.andThen fun self =>
    if context.previewExpected then
      ({ self with
        startupRevealState := .waitRelevantPreview
        returnPreviewWaitStartedAt := some context.restoredAt } : LauncherLifecycle).quiet
    else self.markRevealReady "preview_state=not_required"

/-- The states a catalog result is taken in: a catalog is loaded, built or shown. -/
def takesCatalog : LauncherLifecycleState → Bool
  | .catalogBuilding .. | .catalogRetrying _ | .catalogReady .. | .idle => true
  | _ => false

/-- `CatalogRecoveryLeft` and `CatalogRecoveryRight`. -/
def recoverySelected (self : LauncherLifecycle) (selected : CatalogRecoveryChoice)
    (reason : String) : Emits :=
  match self.state with
  | .catalogLoadFailed error hasStaleCatalog mode _ =>
      self.transition (.catalogLoadFailed error hasStaleCatalog mode selected) reason
  | _ => self.quiet

/-- `CatalogRecoveryConfirm`. -/
def recoveryConfirmed (self : LauncherLifecycle) : Emits :=
  match self.state with
  | .catalogLoadFailed _ hasStaleCatalog mode selected =>
      match mode.action hasStaleCatalog selected with
      | .continue => (self.transition .idle "catalog_continue").push .returnToIdle
      | .retry =>
          (self.transition (.catalogRetrying hasStaleCatalog) "catalog_retry_requested").push
            (.startCatalogRetry self.catalogRoot)
      | .atomicRebuild =>
          (self.transition (.catalogBuilding .update true hasStaleCatalog)
            "catalog_rebuild_requested").push (.startCatalogRebuild self.catalogRoot)
      | .freshRebuild =>
          (self.transition (.catalogBuilding .freshRecovery true hasStaleCatalog)
            "catalog_fresh_rebuild_requested").push (.startFreshCatalogBuild self.catalogRoot)
      | .exitToMister => (self.transition .idle "catalog_exit").push .exitToMister
  | _ => self.quiet

/-- The second match of `handle`, once the startup catalog is classified. -/
def handleClassified (self : LauncherLifecycle) (input : LauncherLifecycleInput) : Emits :=
  match input with
  | .catalogReady source validating =>
      if takesCatalog self.state then
        let ready := self.transition (.catalogReady source validating) "catalog_ready"
        if validating then ready
        else ready.andThen fun self => self.transition .idle "catalog_idle"
      else self.quiet
  | .catalogBuilding mode foreground hasStaleCatalog =>
      match self.state with
      | .catalogBuilding .. | .catalogReady .. | .idle =>
          self.transition (.catalogBuilding mode foreground hasStaleCatalog) "catalog_building"
      | _ => self.quiet
  | .catalogLoadFailed error hasStaleCatalog transient =>
      if takesCatalog self.state then
        (self.transition (.catalogLoadFailed error hasStaleCatalog (.loadFailure transient) .left)
          "catalog_load_failed").andThen fun self => self.markRevealReady "catalog_load_failed"
      else self.quiet
  | .catalogRecoveryRequired error hasStaleCatalog mode =>
      if takesCatalog self.state then
        (self.transition (.catalogLoadFailed error hasStaleCatalog mode .left)
          "catalog_recovery_required").andThen
            fun self => self.markRevealReady "catalog_recovery_required"
      else self.quiet
  | .catalogRecoveryLeft => self.recoverySelected .left "catalog_recovery_left"
  | .catalogRecoveryRight => self.recoverySelected .right "catalog_recovery_right"
  | .catalogRecoveryConfirm => self.recoveryConfirmed
  | .catalogRecoveryCancel =>
      match self.state with
      | .catalogLoadFailed _ hasStaleCatalog _ _ =>
          if hasStaleCatalog then
            (self.transition .idle "catalog_continue").push .returnToIdle
          else (self.transition .idle "catalog_exit").push .exitToMister
      | _ => self.quiet
  | .catalogValidationStarted =>
      match self.state with
      | .catalogReady source _ =>
          self.transition (.catalogReady source true) "catalog_validation_started"
      | _ => self.quiet
  | .catalogValidationFinished =>
      match self.state with
      | .catalogReady source _ =>
          (self.transition (.catalogReady source false) "catalog_validation_finished").andThen
            fun self => self.transition .idle "catalog_idle"
      | _ => self.quiet
  | .launchRequested launchRef =>
      match self.state with
      | .idle | .catalogReady .. =>
          if self.startupInputEnabled then
            (self.quiet.push (.beginLoadingFrame launchRef)).andThen fun self =>
              self.transition (.launching (.loadingFramePending launchRef)) "launch_requested"
          else self.quiet
      | _ => self.quiet
  | .launchFailed title kind detail =>
      match self.state with
      | .launching _ =>
          (self.quiet.push .presentRecoveryFrame).andThen fun self =>
            self.transition (.recovered (.launchFailed title kind detail)) "launch_failed"
      | _ => self.quiet
  | .launchFailureAcknowledge =>
      match self.state with
      | .recovered _ =>
          (self.quiet.push .returnToIdle).andThen fun self =>
            self.transition .idle "launch_failure_acknowledged"
      | _ => self.quiet
  | .launchSucceeded spawnedMister =>
      match self.state with
      | .launching _ => self.transition (.handoff spawnedMister) "launch_handoff"
      | _ => self.quiet
  | .launchTimedOut =>
      match self.state with
      | .launching _ =>
          (self.quiet.push .presentRecoveryFrame).andThen fun self =>
            self.transition (.recovered .launchTimedOut) "launch_timed_out"
      | _ => self.quiet
  | .startupRevealReady _ | .startupReturnCatalogHydrationNeeded
  | .startupReturnContextRestored _ | .startupReturnPreviewReady _ => self.quiet

def handle (self : LauncherLifecycle) (input : LauncherLifecycleInput) : Emits :=
  match input with
  | .startupRevealReady previewState =>
      self.markRevealReady ("preview_state=" ++ previewState)
  | .startupReturnCatalogHydrationNeeded =>
      if self.startupMode = .returnFromGame ∧ self.startupRevealState = .holdBlackReturn then
        ({ self with startupRevealState := .hydrateReturnCatalog } :
          LauncherLifecycle).quiet.startupEvent "return_catalog_hydration_needed"
            "mode=return_from_game"
      else self.quiet
  | .startupReturnContextRestored context => self.returnContextRestored context
  | .startupReturnPreviewReady previewState =>
      (self.quiet.startupEvent "return_preview_ready" ("preview_state=" ++ previewState)).andThen
        fun self => self.markRevealReady ("preview_state=" ++ previewState)
  | input =>
      if self.startupCatalogClassified then self.handleClassified input else self.quiet

/-- `loading_frame_presented`; `elapsed` is what `at.elapsed()` reads. -/
def loadingFramePresented (self : LauncherLifecycle) (elapsed : Nat) : Emits :=
  match self.state with
  | .launching (.loadingFramePending launchRef) =>
      (self.quiet.push (.beginLaunchHandoff launchRef)).andThen fun self =>
        self.transition (.launching .handoffPending)
          ("loading_frame_presented at_ms=" ++ toString (milliseconds elapsed))
  | _ => self.quiet

end LauncherLifecycle

end MisterMagik.Launcher
