/-
  File:      MisterMagik/Launcher/NavigationTimeline.lean
  Subject:   How far a navigation transition has got: its timeline and the runtime that plays it
             (`launcher_runtime/navigation_transition.rs`, `framebuffer-scenes/src/navigation.rs`).

  Of a request stands here what the timeline reads: direction, times and renderer; of the buffers
  the two snapshots. Telemetry, artwork and what a frame is drawn with are left out.

  * `NavigationTransitionController` -- from the source to the destination, or back;
  * `NavigationTransitionRuntime` -- with the snapshots, and with a start put off until the
    destination is captured;
  * `Plays` -- what time and the user can do to a transition, and what only a capture can.
-/
import Mathlib.Algebra.Group.Nat.Defs

namespace MisterMagik.Launcher

/-! ## 1. Requests -/

abbrev Rgb565Pixel := BitVec 16

def PROGRESS_MAX : Nat := 65535

def SUPER_SCALER_COVER_PROGRESS : Nat := 31457

def saturatingMul (a b : Nat) : Nat := min (a * b) (2 ^ 64 - 1)

def saturatingAdd (a b : Nat) : Nat := min (a + b) (2 ^ 64 - 1)

inductive NavigationTransitionDirection where
  | forward
  | reverse
  deriving DecidableEq, Repr

inductive NavigationTransitionRenderer where
  | superScaler
  | settingsPage
  | settingsCog
  | systemPanel (crt : Bool)
  | deviceCard
  deriving DecidableEq, Repr

def NavigationTransitionRenderer.isSystemPanel : NavigationTransitionRenderer → Bool
  | .systemPanel _ => true
  | _ => false

structure NavigationTransitionRequest where
  direction : NavigationTransitionDirection
  durationUs : Nat
  preparationTimeoutUs : Nat
  renderer : NavigationTransitionRenderer
  /-- The cover of a system panel is a share of the duration, which is divided by. -/
  timed : renderer.isSystemPanel → 0 < durationUs
  deriving DecidableEq, Repr

/-- The progress at which the source is covered. The conversions to `u16` keep the low bits. -/
def requestCoverProgressQ16 (request : NavigationTransitionRequest) : Nat :=
  let along (forwardCover : Nat) :=
    match request.direction with
    | .forward => forwardCover
    | .reverse => PROGRESS_MAX - forwardCover
  match request.renderer with
  | .superScaler => along SUPER_SCALER_COVER_PROGRESS
  | .systemPanel crt =>
      ((if crt then 150000 else 120000) * PROGRESS_MAX / request.durationUs) % 2 ^ 16
  | .settingsPage | .settingsCog | .deviceCard => along (PROGRESS_MAX / 2)

def scaleProgress (elapsedUs durationUs maximum : Nat) : Nat :=
  (saturatingMul (min elapsedUs durationUs) maximum / max durationUs 1) % 2 ^ 16

def forwardProgressQ16AtElapsedWithCover (totalUs elapsedUs coverProgress : Nat) : Nat :=
  let totalUs := max totalUs 1
  let coverUs := saturatingMul totalUs coverProgress / PROGRESS_MAX
  let elapsedUs := min elapsedUs totalUs
  if elapsedUs ≤ coverUs then scaleProgress elapsedUs (max coverUs 1) coverProgress
  else
    min (coverProgress + scaleProgress (elapsedUs - coverUs) (max (totalUs - coverUs) 1)
      (PROGRESS_MAX - coverProgress)) (2 ^ 16 - 1)

/-! ## 2. The timeline -/

inductive NavigationTransitionPhase where
  | idle
  | capture
  | expand
  | covered
  | reveal
  | reversing
  | settled
  deriving DecidableEq, Repr

inductive NavigationTransitionFailure where
  | destinationTimeout
  | snapshotSizeMismatch
  deriving DecidableEq, Repr

inductive NavigationTransitionEndpoint where
  | source
  | destination
  deriving DecidableEq, Repr

structure NavigationTransitionCompletion where
  endpoint : NavigationTransitionEndpoint
  failure : Option NavigationTransitionFailure
  deriving DecidableEq, Repr

structure NavigationTransitionFrame where
  phase : NavigationTransitionPhase := .idle
  progressQ16 : Nat := 0
  coverProgressQ16 : Nat := 0
  revealProgressQ16 : Nat := 0
  ownsFullFrame : Bool := false
  endpoint : Option NavigationTransitionEndpoint := none
  failure : Option NavigationTransitionFailure := none
  reverseOriginQ16 : Nat := 0
  reverseLegProgressQ16 : Nat := 0
  deriving DecidableEq, Repr

structure NavigationTransitionController where
  phase : NavigationTransitionPhase := .idle
  request : Option NavigationTransitionRequest := none
  phaseStartedUs : Nat := 0
  coveredStartedUs : Nat := 0
  coveredObservedUs : Nat := 0
  progressQ16 : Nat := 0
  reverseOriginQ16 : Nat := 0
  failure : Option NavigationTransitionFailure := none
  deriving DecidableEq, Repr

namespace NavigationTransitionController

variable (c : NavigationTransitionController)

def isActive : Bool := c.phase ≠ .idle

def begin (request : NavigationTransitionRequest) (nowUs : Nat) :
    NavigationTransitionController × Bool :=
  if c.isActive then (c, false)
  else
    ({ phase := .capture
       request := some request
       phaseStartedUs := nowUs
       coveredStartedUs := 0
       coveredObservedUs := 0
       progressQ16 := 0
       reverseOriginQ16 := 0
       failure := none }, true)

def captured (nowUs : Nat) : NavigationTransitionController × Bool :=
  if c.phase ≠ .capture then (c, false)
  else ({ c with phase := .expand, phaseStartedUs := nowUs }, true)

def startReversing (nowUs : Nat) : NavigationTransitionController :=
  { c with
    reverseOriginQ16 := c.progressQ16
    phase := if c.progressQ16 = 0 then .settled else .reversing
    phaseStartedUs := nowUs }

/-- The leg of a motion that covers the source, and the time it takes. -/
structure Cover where
  totalUs : Nat
  coverProgress : Nat
  forwardCoverProgress : Nat
  coverUs : Nat

def coverOf (request : NavigationTransitionRequest) : Cover :=
  let totalUs := max request.durationUs 1
  let coverProgress := requestCoverProgressQ16 request
  let forwardCoverProgress :=
    match request.direction with
    | .forward => coverProgress
    | .reverse => PROGRESS_MAX - coverProgress
  let forwardCoverUs := saturatingMul totalUs forwardCoverProgress / PROGRESS_MAX
  { totalUs := totalUs
    coverProgress := coverProgress
    forwardCoverProgress := forwardCoverProgress
    coverUs :=
      match request.direction with
      | .forward => forwardCoverUs
      | .reverse => totalUs - forwardCoverUs }

/-- `tick` while the source is being covered. -/
def tickExpand (request : NavigationTransitionRequest) (nowUs : Nat) (destinationReady : Bool) :
    NavigationTransitionController :=
  let cover := coverOf request
  if c.phase = .expand then
    let elapsed := nowUs - c.phaseStartedUs
    if cover.coverUs ≤ elapsed then
      { c with
        progressQ16 := cover.coverProgress
        phase := if destinationReady then .reveal else .covered
        coveredStartedUs := saturatingAdd c.phaseStartedUs cover.coverUs
        coveredObservedUs := nowUs
        phaseStartedUs := saturatingAdd c.phaseStartedUs cover.coverUs }
    else
      { c with
        progressQ16 :=
          match request.direction with
          | .forward => scaleProgress elapsed cover.coverUs cover.coverProgress
          | .reverse =>
              PROGRESS_MAX - forwardProgressQ16AtElapsedWithCover cover.totalUs
                (cover.totalUs - min elapsed cover.coverUs) cover.forwardCoverProgress }
  else c

/-- `tick` while a covered source waits for the destination. -/
def tickCovered (request : NavigationTransitionRequest) (nowUs : Nat) (destinationReady : Bool) :
    NavigationTransitionController :=
  if c.phase = .covered then
    if destinationReady then
      { c with
        phase := .reveal
        phaseStartedUs := if nowUs = c.coveredObservedUs then c.coveredStartedUs else nowUs }
    else if request.preparationTimeoutUs ≤ nowUs - c.coveredStartedUs then
      startReversing { c with failure := some .destinationTimeout } nowUs
    else c
  else c

/-- `tick` while the destination is revealed, or the source returned to. -/
def tickMotion (request : NavigationTransitionRequest) (nowUs : Nat) :
    NavigationTransitionController :=
  let cover := coverOf request
  let elapsed := nowUs - c.phaseStartedUs
  if c.phase = .reveal then
    let revealUs := max (cover.totalUs - cover.coverUs) 1
    if revealUs ≤ elapsed then { c with progressQ16 := PROGRESS_MAX, phase := .settled }
    else
      { c with
        progressQ16 :=
          match request.direction with
          | .forward =>
              min (cover.coverProgress + scaleProgress elapsed revealUs
                (PROGRESS_MAX - cover.coverProgress)) (2 ^ 16 - 1)
          | .reverse =>
              PROGRESS_MAX - forwardProgressQ16AtElapsedWithCover cover.totalUs
                (cover.totalUs - saturatingAdd cover.coverUs (min elapsed revealUs))
                cover.forwardCoverProgress }
  else if c.phase = .reversing then
    let reverseUs :=
      max (saturatingMul cover.totalUs c.reverseOriginQ16 / PROGRESS_MAX) 1
    if reverseUs ≤ elapsed then { c with progressQ16 := 0, phase := .settled }
    else
      { c with
        progressQ16 :=
          c.reverseOriginQ16 - scaleProgress elapsed reverseUs c.reverseOriginQ16 }
  else c

def endpoint : Option NavigationTransitionEndpoint :=
  if c.phase ≠ .settled then none
  else some (if c.progressQ16 = 0 then .source else .destination)

def coverProgress : Nat :=
  (c.request.map requestCoverProgressQ16).getD SUPER_SCALER_COVER_PROGRESS

def frame : NavigationTransitionFrame :=
  let coverProgress := c.coverProgress
  { phase := c.phase
    progressQ16 := c.progressQ16
    coverProgressQ16 :=
      if coverProgress ≤ c.progressQ16 then PROGRESS_MAX
      else c.progressQ16 * PROGRESS_MAX / coverProgress
    revealProgressQ16 :=
      if c.progressQ16 ≤ coverProgress then 0
      else (c.progressQ16 - coverProgress) * PROGRESS_MAX / (PROGRESS_MAX - coverProgress)
    ownsFullFrame := c.isActive
    endpoint := c.endpoint
    failure := c.failure
    reverseOriginQ16 := c.reverseOriginQ16
    reverseLegProgressQ16 :=
      if c.phase = .reversing ∧ 0 < c.reverseOriginQ16 then
        (c.reverseOriginQ16 - c.progressQ16) * PROGRESS_MAX / c.reverseOriginQ16
      else 0 }

def tick (nowUs : Nat) (destinationReady : Bool) :
    NavigationTransitionController × NavigationTransitionFrame :=
  match c.request with
  | none => (c, {})
  | some request =>
      let c := ((c.tickExpand request nowUs destinationReady).tickCovered request nowUs
        destinationReady).tickMotion request nowUs
      (c, c.frame)

def requestReverse (nowUs : Nat) : NavigationTransitionController × Bool :=
  if c.phase = .expand ∨ c.phase = .covered ∨ c.phase = .reveal then (c.startReversing nowUs, true)
  else (c, false)

def fail (failure : NavigationTransitionFailure) (nowUs : Nat) : NavigationTransitionController :=
  if c.isActive then startReversing { c with failure := some failure } nowUs else c

def cancelForExclusiveView (destinationReady : Bool) :
    NavigationTransitionController × Option NavigationTransitionEndpoint :=
  if ¬c.isActive then (c, none)
  else if c.coverProgress ≤ c.progressQ16 ∧ destinationReady then
    ({ c with progressQ16 := PROGRESS_MAX, phase := .settled, failure := none }, some .destination)
  else ({ c with progressQ16 := 0, phase := .settled, failure := none }, some .source)

def settleAtDestination : NavigationTransitionController × Bool :=
  if ¬c.isActive then (c, false)
  else ({ c with progressQ16 := PROGRESS_MAX, phase := .settled, failure := none }, true)

def complete : NavigationTransitionController × Option NavigationTransitionCompletion :=
  match c.endpoint with
  | none => (c, none)
  | some endpoint =>
      ({ c with
          phase := .idle
          request := none
          progressQ16 := 0
          reverseOriginQ16 := 0
          failure := none }, some { endpoint := endpoint, failure := c.failure })

end NavigationTransitionController

/-! ## 3. The snapshots -/

/-- `Vec::resize` with black pixels. -/
def resizePixels (pixels : List Rgb565Pixel) (len : Nat) : List Rgb565Pixel :=
  pixels.take len ++ List.replicate (len - pixels.length) 0

structure NavigationTransitionBuffers where
  width : Nat := 0
  height : Nat := 0
  source : List Rgb565Pixel := []
  destination : List Rgb565Pixel := []
  sourceReady : Bool := false
  destinationReady : Bool := false
  deriving DecidableEq, Repr

namespace NavigationTransitionBuffers

variable (buffers : NavigationTransitionBuffers)

def clearReady : NavigationTransitionBuffers :=
  { buffers with sourceReady := false, destinationReady := false }

def resize (width height : Nat) : NavigationTransitionBuffers :=
  if buffers.width = width ∧ buffers.height = height then buffers
  else
    let len := saturatingMul width height
    clearReady
      { buffers with
        source := resizePixels buffers.source len
        destination := resizePixels buffers.destination len
        width := width
        height := height }

def new (width height : Nat) : NavigationTransitionBuffers :=
  resize {} width height

def beginCapture : NavigationTransitionBuffers := buffers.clearReady

def captureSource (pixels : List Rgb565Pixel) :
    NavigationTransitionBuffers × Except NavigationTransitionFailure Unit :=
  if buffers.source.length ≠ pixels.length then
    ({ buffers with sourceReady := false }, .error .snapshotSizeMismatch)
  else ({ buffers with source := pixels, sourceReady := true }, .ok ())

def captureDestination (pixels : List Rgb565Pixel) :
    NavigationTransitionBuffers × Except NavigationTransitionFailure Unit :=
  if buffers.destination.length ≠ pixels.length then
    ({ buffers with destinationReady := false }, .error .snapshotSizeMismatch)
  else ({ buffers with destination := pixels, destinationReady := true }, .ok ())

end NavigationTransitionBuffers

/-! ## 4. The runtime -/

inductive NavigationTransitionRoute where
  | homeToConsoles
  | homeToArcade
  | consolesToSystem
  | systemPanel
  | homeToSettings
  | settingsToAbout
  | aboutToLicenses
  | licensesToLicenseText
  | nestedToHome
  deriving DecidableEq, Repr

inductive RasterSpace where
  | logical
  | physical (width height : Nat)
  deriving DecidableEq, Repr

inductive StartPolicy where
  | immediate
  | afterDestination
  deriving DecidableEq, Repr

structure TransitionStart where
  request : NavigationTransitionRequest
  route : NavigationTransitionRoute
  space : RasterSpace
  start : StartPolicy
  source : List Rgb565Pixel
  nowUs : Nat
  deriving DecidableEq, Repr

structure NavigationTransitionRuntime where
  enabled : Bool
  durationOverrideUs : Option { us : Nat // 0 < us }
  controller : NavigationTransitionController
  deferredRequest : Option NavigationTransitionRequest
  deferredStartedUs : Nat
  buffers : NavigationTransitionBuffers
  logicalWidth : Nat
  logicalHeight : Nat
  settingsPhysicalSpace : Bool
  route : Option NavigationTransitionRoute
  deriving DecidableEq

namespace NavigationTransitionRuntime

def new (width height : Nat) (enabled : Bool) : NavigationTransitionRuntime :=
  let size := if enabled then (width, height) else (0, 0)
  { enabled := enabled
    durationOverrideUs := none
    controller := {}
    deferredRequest := none
    deferredStartedUs := 0
    buffers := .new size.1 size.2
    logicalWidth := size.1
    logicalHeight := size.2
    settingsPhysicalSpace := false
    route := none }

variable (runtime : NavigationTransitionRuntime)

def configurePreview (durationMs : Option Nat) : NavigationTransitionRuntime :=
  { runtime with
    durationOverrideUs := durationMs.map fun milliseconds =>
      ⟨max 100 (min milliseconds 10000) * 1000, by omega⟩ }

def isActive : Bool := runtime.deferredRequest.isSome || runtime.controller.isActive

def destinationReady : Bool := runtime.buffers.destinationReady

def frame : NavigationTransitionFrame :=
  if runtime.deferredRequest.isSome then { phase := .capture, ownsFullFrame := true }
  else runtime.controller.frame

/-- Starts the clock of a start that was put off, if there is one. -/
def activateDeferred (nowUs : Nat) : NavigationTransitionRuntime × Bool :=
  match runtime.deferredRequest with
  | none => (runtime, false)
  | some request =>
      let taken := { runtime with deferredRequest := none }
      match runtime.controller.begin request nowUs with
      | (_, false) => (taken, false)
      | (controller, true) =>
          let (controller, captured) := controller.captured nowUs
          ({ taken with controller := controller }, captured)

/-- Captures the source, and starts the clock or puts it off. -/
def beginRequest (request : NavigationTransitionRequest) (source : List Rgb565Pixel) (nowUs : Nat)
    (startImmediately : Bool) :
    NavigationTransitionRuntime × Except NavigationTransitionFailure Unit :=
  match runtime.buffers.beginCapture.captureSource source with
  | (buffers, .error failure) => ({ runtime with buffers := buffers }, .error failure)
  | (buffers, .ok ()) =>
      if startImmediately then
        ({ runtime with
            buffers := buffers
            controller := ((runtime.controller.begin request nowUs).1.captured nowUs).1 }, .ok ())
      else
        ({ runtime with
            buffers := buffers
            deferredRequest := some request
            deferredStartedUs := nowUs }, .ok ())

/-- The duration of a preview, where one is configured. -/
def overridden (request : NavigationTransitionRequest) : NavigationTransitionRequest :=
  match runtime.durationOverrideUs with
  | none => request
  | some durationUs => { request with durationUs := durationUs.1, timed := fun _ => durationUs.2 }

def begin (start : TransitionStart) :
    NavigationTransitionRuntime × Except NavigationTransitionFailure Bool :=
  if !runtime.enabled || runtime.isActive then (runtime, .ok false)
  else
    let request := runtime.overridden start.request
    let sized :=
      match start.space with
      | .physical width height => { runtime with buffers := runtime.buffers.resize width height }
      | .logical => runtime
    let physical := start.space ≠ .logical
    match sized.beginRequest request start.source start.nowUs (start.start = .immediate) with
    | (failed, .error failure) =>
        (if physical then
          { failed with buffers := failed.buffers.resize failed.logicalWidth failed.logicalHeight }
        else failed, .error failure)
    | (started, .ok ()) =>
        ({ started with route := some start.route, settingsPhysicalSpace := physical }, .ok true)

def captureDestination (destination : List Rgb565Pixel) (nowUs : Nat) :
    NavigationTransitionRuntime × Except NavigationTransitionFailure Unit :=
  match runtime.buffers.captureDestination destination with
  | (buffers, .error failure) => ({ runtime with buffers := buffers }, .error failure)
  | (buffers, .ok ()) => (({ runtime with buffers := buffers }.activateDeferred nowUs).1, .ok ())

def tick (nowUs : Nat) : NavigationTransitionRuntime × NavigationTransitionFrame :=
  match runtime.deferredRequest with
  | some request =>
      if request.preparationTimeoutUs ≤ nowUs - runtime.deferredStartedUs then
        let activated := (runtime.activateDeferred nowUs).1
        let failed :=
          { activated with controller := activated.controller.fail .destinationTimeout nowUs }
        (failed, failed.controller.frame)
      else (runtime, runtime.frame)
  | none =>
      let (controller, frame) := runtime.controller.tick nowUs runtime.buffers.destinationReady
      ({ runtime with controller := controller }, frame)

def requestReverse (nowUs : Nat) : NavigationTransitionRuntime × Bool :=
  let activated := (runtime.activateDeferred nowUs).1
  let (controller, reversed) := activated.controller.requestReverse nowUs
  ({ activated with controller := controller }, reversed)

def settleAtDestination : NavigationTransitionRuntime × Bool :=
  let activated := (runtime.activateDeferred runtime.deferredStartedUs).1
  let (controller, settled) := activated.controller.settleAtDestination
  ({ activated with controller := controller }, settled)

def cancelForExclusiveView : NavigationTransitionRuntime × Option NavigationTransitionEndpoint :=
  let activated := (runtime.activateDeferred runtime.deferredStartedUs).1
  let (controller, endpoint) :=
    activated.controller.cancelForExclusiveView activated.buffers.destinationReady
  ({ activated with controller := controller }, endpoint)

def complete : NavigationTransitionRuntime × Option NavigationTransitionCompletion :=
  match runtime.controller.complete with
  | (_, none) => (runtime, none)
  | (controller, some completion) =>
      let completed := { runtime with controller := controller }
      (if completed.settingsPhysicalSpace then
        { completed with
          settingsPhysicalSpace := false
          buffers := completed.buffers.resize completed.logicalWidth completed.logicalHeight }
      else completed, some completion)

end NavigationTransitionRuntime

/-! ## 5. What a motion can do to its phase -/

/-- A phase moved on from `p` to `q`: nothing starts, stops or is captured by it, a destination is
    revealed only when it is ready, and a settled motion stays settled. -/
structure Advances (ready : Bool) (p q : NavigationTransitionPhase) : Prop where
  idle : q = .idle ↔ p = .idle
  capture : q = .capture → p = .capture
  reveal : q = .reveal → ready = true ∨ p = .reveal
  settled : p = .settled → q = .settled

namespace Advances

variable {ready : Bool} {p q r : NavigationTransitionPhase}

theorem refl (ready : Bool) (p : NavigationTransitionPhase) : Advances ready p p :=
  ⟨Iff.rfl, id, .inr, id⟩

theorem trans (h₁ : Advances ready p q) (h₂ : Advances ready q r) : Advances ready p r where
  idle := h₂.idle.trans h₁.idle
  capture h := h₁.capture (h₂.capture h)
  reveal h := (h₂.reveal h).elim .inl h₁.reveal
  settled h := h₂.settled (h₁.settled h)

/-- A motion under way goes back or settles at any time. -/
theorem turn (hp : p ≠ .idle) (hs : p ≠ .settled) (hq : q = .reversing ∨ q = .settled) :
    Advances ready p q := by
  rcases hq with rfl | rfl <;> constructor <;> simp_all

theorem settle (hp : p ≠ .idle) : Advances ready p .settled := by
  constructor <;> simp_all

end Advances

namespace NavigationTransitionController

variable (c : NavigationTransitionController) (request : NavigationTransitionRequest) (nowUs : Nat)
  (ready : Bool)

theorem startReversing_phase :
    (c.startReversing nowUs).phase = .reversing ∨ (c.startReversing nowUs).phase = .settled := by
  by_cases h : c.progressQ16 = 0 <;> simp [startReversing, h]

theorem tickExpand_advances : Advances ready c.phase (c.tickExpand request nowUs ready).phase := by
  by_cases h : c.phase = .expand
  case neg => rw [tickExpand, if_neg h]; exact .refl _ _
  case pos =>
      rw [tickExpand, if_pos h]
      dsimp only
      split
      · cases ready <;> constructor <;> simp [h]
      · exact .refl _ _

theorem tickCovered_advances :
    Advances ready c.phase (c.tickCovered request nowUs ready).phase := by
  by_cases h : c.phase = .covered
  case neg => rw [tickCovered, if_neg h]; exact .refl _ _
  case pos =>
      rw [tickCovered, if_pos h]
      split
      case isTrue hr => constructor <;> simp [h, hr]
      case isFalse =>
          split
          · exact .turn (by simp [h]) (by simp [h]) (startReversing_phase _ nowUs)
          · exact .refl _ _

theorem tickMotion_advances : Advances ready c.phase (c.tickMotion request nowUs).phase := by
  unfold tickMotion
  dsimp only
  split
  case isTrue h =>
      split
      · exact .turn (by simp [h]) (by simp [h]) (.inr rfl)
      · exact .refl _ _
  case isFalse =>
      split
      case isTrue h =>
          split
          · exact .turn (by simp [h]) (by simp [h]) (.inr rfl)
          · exact .refl _ _
      case isFalse => exact .refl _ _

theorem tick_advances : Advances ready c.phase (c.tick nowUs ready).1.phase := by
  unfold tick
  split
  case h_1 => exact .refl _ _
  case h_2 request _ =>
      exact ((c.tickExpand_advances request nowUs ready).trans
        (tickCovered_advances _ request nowUs ready)).trans (tickMotion_advances _ request nowUs _)

theorem requestReverse_advances : Advances ready c.phase (c.requestReverse nowUs).1.phase := by
  unfold requestReverse
  split
  case isTrue h =>
      refine .turn ?_ ?_ (c.startReversing_phase nowUs) <;> rintro e <;> simp [e] at h
  case isFalse => exact .refl _ _

theorem isActive_iff : c.isActive ↔ c.phase ≠ .idle := by
  simp [isActive]

theorem settleAtDestination_phase :
    c.settleAtDestination.1.phase = if c.phase = .idle then .idle else .settled := by
  by_cases h : c.phase = .idle <;> simp [settleAtDestination, isActive, h]

theorem cancelForExclusiveView_phase :
    (c.cancelForExclusiveView ready).1.phase = if c.phase = .idle then .idle else .settled := by
  by_cases h : c.phase = .idle
  · simp [cancelForExclusiveView, isActive, h]
  · simp only [cancelForExclusiveView, isActive, h, ne_eq, not_false_eq_true, decide_true,
      not_true_eq_false, if_false]
    split <;> rfl

/-- What a motion that just left the source fails to is the source. -/
theorem fail_phase_of_start (failure : NavigationTransitionFailure) (h : c.phase ≠ .idle)
    (h0 : c.progressQ16 = 0) : (c.fail failure nowUs).phase = .settled := by
  simp [fail, isActive, h, startReversing, h0]

theorem complete_cases :
    (c.phase = .settled ∧ c.complete.2.isSome ∧ c.complete.1.phase = .idle) ∨
      (c.phase ≠ .settled ∧ c.complete = (c, none)) := by
  by_cases h : c.phase = .settled
  · exact .inl ⟨h, by simp [complete, endpoint, h], by simp [complete, endpoint, h]⟩
  · exact .inr ⟨h, by simp [complete, endpoint, h]⟩

end NavigationTransitionController

/-! ## 6. What the runtime plays -/

namespace NavigationTransitionRuntime

/-- Between two operations: the source is captured with the start, and a start that was put off
    leaves the timeline idle. -/
structure Sound (runtime : NavigationTransitionRuntime) : Prop where
  captured : runtime.controller.phase ≠ .capture
  deferred : runtime.deferredRequest.isSome → runtime.controller.phase = .idle

/-- What time and the user do to a transition. -/
structure Plays (before after : NavigationTransitionRuntime) : Prop where
  sound : after.Sound
  ready : after.destinationReady = before.destinationReady
  advances : Advances before.destinationReady before.frame.phase after.frame.phase

variable {runtime : NavigationTransitionRuntime} {request : NavigationTransitionRequest}
  {c : NavigationTransitionController}

theorem phase_of_deferred (h : runtime.deferredRequest = some request) :
    runtime.frame.phase = .capture := by
  simp [frame, h]

theorem phase_of_started (h : runtime.deferredRequest = none) :
    runtime.frame.phase = runtime.controller.phase := by
  simp [frame, h, NavigationTransitionController.frame]

theorem isActive_iff : runtime.isActive ↔ runtime.frame.phase ≠ .idle := by
  cases h : runtime.deferredRequest with
  | none => simp [isActive, phase_of_started h, h, NavigationTransitionController.isActive_iff]
  | some request => simp [isActive, phase_of_deferred h, h]

/-- The timeline of a start that was put off, when its clock starts. -/
def startedAt (request : NavigationTransitionRequest) (nowUs : Nat) :
    NavigationTransitionController :=
  { phase := .expand, request := some request, phaseStartedUs := nowUs }

theorem start_of_idle (h : c.phase = .idle) (nowUs : Nat) :
    ((c.begin request nowUs).1.captured nowUs).1 = startedAt request nowUs := by
  simp [NavigationTransitionController.begin, NavigationTransitionController.captured,
    NavigationTransitionController.isActive, h, startedAt]

theorem activateDeferred_none (h : runtime.deferredRequest = none) (nowUs : Nat) :
    (runtime.activateDeferred nowUs).1 = runtime := by
  simp [activateDeferred, h]

theorem activateDeferred_some (hs : runtime.Sound) (h : runtime.deferredRequest = some request)
    (nowUs : Nat) :
    (runtime.activateDeferred nowUs).1 =
      { runtime with deferredRequest := none, controller := startedAt request nowUs } := by
  have hidle := hs.deferred (by simp [h])
  simp [activateDeferred, h, NavigationTransitionController.begin,
    NavigationTransitionController.captured, NavigationTransitionController.isActive, hidle,
    startedAt]

theorem plays_of_controller (hs : runtime.Sound) (h : runtime.deferredRequest = none)
    (hc : Advances runtime.destinationReady runtime.controller.phase c.phase) :
    Plays runtime { runtime with controller := c } where
  sound := ⟨fun e => hs.captured (hc.capture e), fun hd => by simp [h] at hd⟩
  ready := rfl
  advances := by
      have hafter := @phase_of_started { runtime with controller := c } h
      rw [phase_of_started h, hafter]
      exact hc

theorem plays_of_deferred (h : runtime.deferredRequest = some request) (hc : c.phase = .settled) :
    Plays runtime { runtime with deferredRequest := none, controller := c } where
  sound := ⟨by simp [hc], by simp⟩
  ready := rfl
  advances := by
      have hafter :=
        @phase_of_started { runtime with deferredRequest := none, controller := c } rfl
      rw [phase_of_deferred h, hafter, hc]
      exact .settle (by simp)

theorem settle_advances {ready : Bool} {p q : NavigationTransitionPhase}
    (h : q = if p = .idle then .idle else .settled) : Advances ready p q := by
  by_cases hp : p = .idle
  · rw [h, if_pos hp, hp]
    exact .refl _ _
  · rw [h, if_neg hp]
    exact .settle hp

/-- **Time plays a transition**, also past the time its destination had to be prepared. -/
theorem tick_plays (hs : runtime.Sound) (nowUs : Nat) : Plays runtime (runtime.tick nowUs).1 := by
  unfold tick
  split
  case h_1 request h =>
      split
      · rw [activateDeferred_some hs h]
        exact plays_of_deferred h
          (NavigationTransitionController.fail_phase_of_start _ nowUs _ (by simp [startedAt]) rfl)
      · exact ⟨hs, rfl, .refl _ _⟩
  case h_2 h =>
      exact plays_of_controller hs h (runtime.controller.tick_advances nowUs _)

theorem requestReverse_plays (hs : runtime.Sound) (nowUs : Nat) :
    Plays runtime (runtime.requestReverse nowUs).1 := by
  unfold requestReverse
  cases h : runtime.deferredRequest with
  | none =>
      rw [activateDeferred_none h]
      exact plays_of_controller hs h (runtime.controller.requestReverse_advances nowUs _)
  | some request =>
      rw [activateDeferred_some hs h]
      exact plays_of_deferred h
        (by simp [NavigationTransitionController.requestReverse, startedAt,
          NavigationTransitionController.startReversing])

/-- What settles the timeline ends the transition, also one that was put off. -/
theorem settles {f : NavigationTransitionController → NavigationTransitionController}
    (hf : ∀ c, (f c).phase = if c.phase = .idle then .idle else .settled) (hs : runtime.Sound)
    (nowUs : Nat) {after : NavigationTransitionRuntime}
    (h : after = { (runtime.activateDeferred nowUs).1 with
      controller := f (runtime.activateDeferred nowUs).1.controller }) :
    Plays runtime after ∧ (runtime.isActive → after.frame.phase = .settled) := by
  subst h
  cases hd : runtime.deferredRequest with
  | none =>
      rw [activateDeferred_none hd]
      refine ⟨plays_of_controller hs hd (settle_advances (hf _)), fun ha => ?_⟩
      have hne := isActive_iff.mp ha
      rw [phase_of_started hd] at hne
      have hafter := @phase_of_started { runtime with controller := f runtime.controller } hd
      rw [hafter, hf, if_neg hne]
  | some request =>
      rw [activateDeferred_some hs hd]
      have hsettled : (f (startedAt request nowUs)).phase = .settled := by
        rw [hf]
        simp [startedAt]
      refine ⟨plays_of_deferred hd hsettled, fun _ => ?_⟩
      exact hsettled

theorem settleAtDestination_settles (hs : runtime.Sound) :
    Plays runtime runtime.settleAtDestination.1 ∧
      (runtime.isActive → runtime.settleAtDestination.1.frame.phase = .settled) :=
  settles NavigationTransitionController.settleAtDestination_phase hs runtime.deferredStartedUs rfl

theorem cancelForExclusiveView_settles (hs : runtime.Sound) :
    Plays runtime runtime.cancelForExclusiveView.1 ∧
      (runtime.isActive → runtime.cancelForExclusiveView.1.frame.phase = .settled) :=
  settles
    (f := fun c => (c.cancelForExclusiveView
      (runtime.activateDeferred runtime.deferredStartedUs).1.buffers.destinationReady).1)
    (fun c => c.cancelForExclusiveView_phase _) hs runtime.deferredStartedUs rfl

/-- Only a settled motion completes, and with it the transition. -/
theorem complete_cases (hs : runtime.Sound) :
    (runtime.frame.phase = .settled ∧ runtime.complete.2.isSome ∧
        runtime.complete.1.Sound ∧ runtime.complete.1.frame.phase = .idle) ∨
      (runtime.frame.phase ≠ .settled ∧ runtime.complete = (runtime, none)) := by
  unfold complete
  rcases runtime.controller.complete_cases with ⟨hp, hsome, hidle⟩ | ⟨hp, hnone⟩
  case inr =>
      refine .inr ⟨?_, by rw [hnone]⟩
      cases hd : runtime.deferredRequest with
      | none => rwa [phase_of_started hd]
      | some request => simp [phase_of_deferred hd]
  case inl =>
      have hd : runtime.deferredRequest = none := by
        cases hd : runtime.deferredRequest with
        | none => rfl
        | some request => simp [hs.deferred (by simp [hd])] at hp
      refine .inl ⟨by rwa [phase_of_started hd], ?_⟩
      cases hc : runtime.controller.complete with
      | mk controller completion =>
          obtain ⟨completion, rfl⟩ := Option.isSome_iff_exists.mp (hc ▸ hsome)
          have hidle : controller.phase = .idle := by simpa [hc] using hidle
          refine ⟨rfl, ?_⟩
          dsimp only
          split <;> refine ⟨⟨by simp [hidle], by simp [hd]⟩, ?_⟩ <;>
            simp [frame, hd, NavigationTransitionController.frame, hidle]

/-- Nothing plays: no start is put off and the timeline is idle. -/
structure Idle (runtime : NavigationTransitionRuntime) : Prop where
  deferred : runtime.deferredRequest = none
  controller : runtime.controller.phase = .idle

theorem idle_of_not_isActive (h : runtime.isActive = false) : runtime.Idle := by
  obtain ⟨hd, hc⟩ := Bool.or_eq_false_iff.mp h
  exact ⟨Option.not_isSome_iff_eq_none.mp (by simp [hd]),
    by simpa [NavigationTransitionController.isActive] using hc⟩

theorem Idle.sound (h : runtime.Idle) : runtime.Sound :=
  ⟨by simp [h.controller], fun _ => h.controller⟩

theorem Idle.not_isActive (h : runtime.Idle) : runtime.isActive = false := by
  simp [isActive, h.deferred, NavigationTransitionController.isActive, h.controller]

/-- A start waits for its destination: at the source, or on the way to the cover. -/
structure Waits (runtime : NavigationTransitionRuntime) : Prop where
  sound : runtime.Sound
  active : runtime.isActive
  unrevealed : runtime.frame.phase ≠ .reveal
  unready : runtime.destinationReady = false

theorem captureSource_destinationReady (buffers : NavigationTransitionBuffers)
    (pixels : List Rgb565Pixel) :
    (buffers.captureSource pixels).1.destinationReady = buffers.destinationReady := by
  unfold NavigationTransitionBuffers.captureSource
  split <;> rfl

theorem beginRequest_cases (h : runtime.Idle) (request : NavigationTransitionRequest)
    (source : List Rgb565Pixel) (nowUs : Nat) (startImmediately : Bool) :
    ((runtime.beginRequest request source nowUs startImmediately).2 = .ok () ∧
        (runtime.beginRequest request source nowUs startImmediately).1.Waits) ∨
      ((runtime.beginRequest request source nowUs startImmediately).2.isOk = false ∧
        (runtime.beginRequest request source nowUs startImmediately).1.Idle) := by
  have hready := captureSource_destinationReady runtime.buffers.beginCapture source
  unfold beginRequest
  split
  case h_1 buffers failure _ => exact .inr ⟨rfl, h.deferred, h.controller⟩
  case h_2 buffers hb =>
      have hunready : buffers.destinationReady = false := by
        rw [hb] at hready
        exact hready
      split
      · refine .inl ⟨rfl, ?_⟩
        rw [start_of_idle h.controller]
        constructor
        · exact ⟨by simp [startedAt], fun hd => by simp [h.deferred] at hd⟩
        · simp [isActive, NavigationTransitionController.isActive, startedAt]
        · simp [frame, h.deferred, NavigationTransitionController.frame, startedAt]
        · exact hunready
      · refine .inl ⟨rfl, ?_⟩
        constructor
        · exact ⟨by simp [h.controller], fun _ => h.controller⟩
        · simp [isActive]
        · simp [frame]
        · exact hunready

/-- A start finds nothing playing; a refused one leaves what plays as it was. -/
theorem begin_cases (start : TransitionStart) :
    (runtime.isActive = false ∧ (runtime.begin start).2 = .ok true ∧
        (runtime.begin start).1.Waits) ∨
      ((runtime.begin start).2 ≠ .ok true ∧
        ((runtime.begin start).1 = runtime ∨
          runtime.isActive = false ∧ (runtime.begin start).1.Idle)) := by
  unfold begin
  split
  case isTrue h => exact .inr ⟨by simp, .inl rfl⟩
  case isFalse h =>
      have hactive : runtime.isActive = false := by
        cases ha : runtime.isActive <;> simp_all
      have hidle := idle_of_not_isActive hactive
      dsimp only
      generalize hsized : (match start.space with
        | .physical width height => { runtime with buffers := runtime.buffers.resize width height }
        | .logical => runtime) = sized
      have hsizedIdle : sized.Idle := by
        subst hsized
        cases start.space <;> exact ⟨hidle.deferred, hidle.controller⟩
      rcases beginRequest_cases hsizedIdle (runtime.overridden start.request) start.source
        start.nowUs (start.start = .immediate) with ⟨hok, hwaits⟩ | ⟨herr, hfailed⟩
      case inl =>
          refine .inl ⟨hactive, ?_⟩
          split
          case h_1 failed failure e => simp [e] at hok
          case h_2 started e =>
              rw [e] at hwaits
              exact ⟨rfl, ⟨⟨hwaits.sound.captured, hwaits.sound.deferred⟩, hwaits.active,
                hwaits.unrevealed, hwaits.unready⟩⟩
      case inr =>
          refine .inr ?_
          split
          case h_1 failed failure e =>
              rw [e] at hfailed
              refine ⟨by simp, .inr ⟨hactive, ?_⟩⟩
              dsimp only
              split
              · exact ⟨hfailed.deferred, hfailed.controller⟩
              · exact hfailed
          case h_2 started e => simp [e, Except.isOk, Except.toBool] at herr

theorem activateDeferred_starts (hs : runtime.Sound) (nowUs : Nat) :
    (runtime.activateDeferred nowUs).1.Sound ∧
      (runtime.activateDeferred nowUs).1.isActive = runtime.isActive ∧
      (runtime.activateDeferred nowUs).1.frame.phase ≠ .capture := by
  cases hd : runtime.deferredRequest with
  | none =>
      rw [activateDeferred_none hd, phase_of_started hd]
      exact ⟨hs, rfl, hs.captured⟩
  | some request =>
      rw [activateDeferred_some hs hd]
      refine ⟨⟨by simp [startedAt], by simp⟩, ?_, ?_⟩
      · simp [isActive, hd, NavigationTransitionController.isActive, startedAt]
      · simp [frame, NavigationTransitionController.frame, startedAt]

/-- A captured destination starts what waited for it. -/
theorem captureDestination_cases (hs : runtime.Sound) (destination : List Rgb565Pixel)
    (nowUs : Nat) :
    (runtime.captureDestination destination nowUs).1.Sound ∧
      (runtime.captureDestination destination nowUs).1.isActive = runtime.isActive ∧
      ((runtime.captureDestination destination nowUs).2.isOk →
        (runtime.captureDestination destination nowUs).1.frame.phase ≠ .capture) := by
  unfold captureDestination
  split
  case h_1 buffers failure _ =>
      exact ⟨⟨hs.captured, hs.deferred⟩, rfl, by simp [Except.isOk, Except.toBool]⟩
  case h_2 buffers _ =>
      obtain ⟨hsound, hactive, hphase⟩ :=
        @activateDeferred_starts { runtime with buffers := buffers }
          ⟨hs.captured, hs.deferred⟩ nowUs
      exact ⟨hsound, hactive, fun _ => hphase⟩

theorem new_idle (width height : Nat) (enabled : Bool) (durationMs : Option Nat) :
    ((new width height enabled).configurePreview durationMs).Idle := ⟨rfl, rfl⟩

end NavigationTransitionRuntime

end MisterMagik.Launcher
