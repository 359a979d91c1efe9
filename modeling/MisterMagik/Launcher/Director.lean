/-
  File:      MisterMagik/Launcher/Director.lean
  Subject:   The transition effects and the chart that lets one of them render
             (`launcher_runtime/presentation_director.rs`, `orientation_transition.rs`).

  The launcher loop calls the director, its runtimes and its chart in any order and at any time.
  What is drawn, composed and traced is left out; of a pending navigation stands here whether it is
  committed.

  * `PresentationDirector`, `DirectorStep` -- the director and what the loop does with it;
  * `Paired` -- each effect and the stage of the chart, kept by every step;
  * `transitions_stay_in_step` -- after every run, who plays is who holds the frame.
-/
import MisterMagik.Base.Machine
import MisterMagik.Launcher.NavigationTimeline
import MisterMagik.Launcher.TransitionChart

namespace MisterMagik.Launcher

open MisterMagik.Base

/-! ## 1. The orientation effect -/

inductive ScreenOrientation where
  | normal
  | monitorClockwise
  | monitorCounterclockwise
  deriving DecidableEq, Repr

/-- In nanoseconds, as every `Duration` and `Instant` here. -/
def ORIENTATION_WAVE_TOTAL_DURATION : Nat := 1550000000

structure OrientationTransitionCompletion where
  fromOrientation : ScreenOrientation
  toOrientation : ScreenOrientation
  deriving DecidableEq, Repr

structure OrientationTransitionRuntime where
  fromOrientation : ScreenOrientation
  toOrientation : ScreenOrientation
  startedAt : Option Nat
  duration : Nat
  source : List Rgb565Pixel
  destination : List Rgb565Pixel
  destinationReady : Bool
  active : Bool
  completion : Option OrientationTransitionCompletion
  deriving DecidableEq, Repr

namespace OrientationTransitionRuntime

def new (width height : Nat) : OrientationTransitionRuntime :=
  let len := saturatingMul width height
  { fromOrientation := .normal
    toOrientation := .normal
    startedAt := none
    duration := ORIENTATION_WAVE_TOTAL_DURATION
    source := List.replicate len 0
    destination := List.replicate len 0
    destinationReady := false
    active := false
    completion := none }

variable (effect : OrientationTransitionRuntime)

def start (fromOrientation toOrientation : ScreenOrientation) (source : List Rgb565Pixel)
    (now : Nat) (reduceMotion : Bool) : OrientationTransitionRuntime × Bool :=
  if reduceMotion ∨ fromOrientation = toOrientation ∨ source.length ≠ effect.source.length then
    ({ effect with
        active := false
        completion := some ⟨fromOrientation, toOrientation⟩ }, false)
  else
    ({ fromOrientation := fromOrientation
       toOrientation := toOrientation
       startedAt := some now
       duration := ORIENTATION_WAVE_TOTAL_DURATION
       source := source
       destination := List.replicate effect.destination.length 0
       destinationReady := false
       active := true
       completion := none }, true)

def captureDestination (pixels : List Rgb565Pixel) : OrientationTransitionRuntime × Bool :=
  if ¬effect.active ∨ pixels.length ≠ effect.destination.length then (effect, false)
  else if effect.destinationReady then (effect, true)
  else ({ effect with destination := pixels, destinationReady := true }, true)

def restartAnimation (now : Nat) : OrientationTransitionRuntime × Bool :=
  if ¬effect.active ∨ ¬effect.destinationReady then (effect, false)
  else ({ effect with startedAt := some now }, true)

def cancel : OrientationTransitionRuntime × Bool :=
  ({ effect with active := false, destinationReady := false, completion := none }, effect.active)

/-- Renders into an output of `len` pixels: whether that ended the effect, nothing when it does not
    render. -/
def renderInto (len now : Nat) : OrientationTransitionRuntime × Option Bool :=
  if ¬effect.active ∨ len ≠ effect.source.length then (effect, none)
  else if ¬effect.destinationReady then (effect, some false)
  else
    let elapsed := min ((effect.startedAt.map fun started => now - started).getD 0) effect.duration
    if effect.duration ≤ elapsed then
      ({ effect with
          active := false
          completion := some ⟨effect.fromOrientation, effect.toOrientation⟩ }, some true)
    else (effect, some false)

def takeCompletion : OrientationTransitionRuntime × Option OrientationTransitionCompletion :=
  ({ effect with completion := none }, effect.completion)

/-- A frame ends the effect, or leaves it as it was. -/
theorem renderInto_cases (len now : Nat) :
    ((effect.renderInto len now).2 = some true ∧ (effect.renderInto len now).1.active = false) ∨
      ((effect.renderInto len now).2 ≠ some true ∧ (effect.renderInto len now).1 = effect) := by
  unfold renderInto
  split
  · exact .inr ⟨by simp, rfl⟩
  split
  · exact .inr ⟨by simp, rfl⟩
  dsimp only
  split
  · exact .inl ⟨rfl, rfl⟩
  · exact .inr ⟨by simp, rfl⟩

end OrientationTransitionRuntime

/-! ## 2. The director -/

structure PendingNavigation where
  committed : Bool
  deriving DecidableEq, Repr

inductive OrientationIntent where
  | confirm
  | rollback
  deriving DecidableEq, Repr

structure PresentationDirector where
  navigation : NavigationTransitionRuntime
  orientation : OrientationTransitionRuntime
  chart : FullScreenTransitionStateChart
  pending : Option PendingNavigation
  orientationIntent : Option OrientationIntent
  deriving DecidableEq

namespace PresentationDirector

def new (navigation : NavigationTransitionRuntime) (orientation : OrientationTransitionRuntime) :
    PresentationDirector :=
  { navigation := navigation
    orientation := orientation
    chart := {}
    pending := none
    orientationIntent := none }

variable (d : PresentationDirector)

/-- Starts the orientation effect: nothing when the chart refuses, otherwise whether it animates. -/
def beginOrientation (fromOrientation toOrientation : ScreenOrientation)
    (source : List Rgb565Pixel) (now : Nat) (reduceMotion : Bool) (intent : OrientationIntent) :
    PresentationDirector × Option Bool :=
  match beginFullScreenTransition d.chart .orientation with
  | (chart, false) => ({ d with chart := chart }, none)
  | (chart, true) =>
      let (orientation, animated) :=
        d.orientation.start fromOrientation toOrientation source now reduceMotion
      ({ d with
          chart := chart
          orientation := orientation
          orientationIntent := if animated then some intent else none }, some animated)

/-- The effect cannot play: it is cancelled, and the live frame asked for. -/
def abortOrientation : PresentationDirector :=
  { d with
    orientation := d.orientation.cancel.1
    orientationIntent := none
    chart := releaseFullScreenTransition d.chart .orientation }

/-- The effect ended: the live frame is asked for, and why it was started handed back. -/
def endOrientation : PresentationDirector × Option OrientationIntent :=
  ({ d with
      orientation := d.orientation.takeCompletion.1
      chart := releaseFullScreenTransition d.chart .orientation
      orientationIntent := none }, d.orientationIntent)

def captureOrientationDestination (destination : List Rgb565Pixel) :
    PresentationDirector × Bool :=
  match d.orientation.captureDestination destination with
  | (orientation, false) => ({ d with orientation := orientation }.abortOrientation, false)
  | (orientation, true) =>
      match d.chart.generationFor .orientation with
      | none => ({ d with orientation := orientation }, true)
      | some generation =>
          match d.chart.captureCompleted generation with
          | (chart, .ok ()) => ({ d with orientation := orientation, chart := chart }, true)
          | (chart, .error _) =>
              ({ d with orientation := orientation, chart := chart }.abortOrientation, false)

/-- The effect waits for a controlled capture that the frame did not take. -/
def abortStalledOrientationCapture (controlledCaptureRendered : Bool) :
    PresentationDirector × Bool :=
  if d.chart.owner = some .orientation ∧ d.chart.state = .capturePending ∧
      ¬d.chart.policy.controlledCapture ∧ ¬controlledCaptureRendered then
    (d.abortOrientation, true)
  else (d, false)

def destinationCommitted : Bool := d.pending.any (·.committed)

/-- The runtime has started a transition: the chart holds the frame for it, or refuses. -/
def adoptNavigation (pending : PendingNavigation) : PresentationDirector × Bool :=
  match beginFullScreenTransition d.chart .navigation with
  | (chart, false) => ({ d with chart := chart }, false)
  | (chart, true) => ({ d with chart := chart, pending := some pending }, true)

/-- A transition the chart refused is settled where it is going and dropped. -/
def unwindNavigation : PresentationDirector :=
  { d with navigation := d.navigation.settleAtDestination.1.complete.1 }

/-- Both the runtime and the chart take the destination, or the transition settles there. -/
def captureNavigationDestination (destination : List Rgb565Pixel) (nowUs : Nat) :
    PresentationDirector × Bool :=
  match d.navigation.captureDestination destination nowUs with
  | (navigation, .error _) =>
      ({ d with navigation := navigation.settleAtDestination.1 }, false)
  | (navigation, .ok ()) =>
      match d.chart.generationFor .navigation with
      | none => ({ d with navigation := navigation }, true)
      | some generation =>
          match d.chart.captureCompleted generation with
          | (chart, .ok ()) => ({ d with navigation := navigation, chart := chart }, true)
          | (chart, .error _) =>
              ({ d with navigation := navigation.settleAtDestination.1, chart := chart }, false)

def finishNavigation : PresentationDirector × Option NavigationTransitionCompletion :=
  match d.navigation.complete with
  | (navigation, none) => ({ d with navigation := navigation }, none)
  | (navigation, some completion) =>
      ({ d with
          navigation := navigation
          chart := releaseFullScreenTransition d.chart .navigation }, some completion)

/-- Something covers a playing navigation: it ends at the destination if that was committed, at the
    source otherwise. -/
def coverNavigation : PresentationDirector × Option NavigationTransitionEndpoint :=
  let (navigation, endpoint) :=
    if d.destinationCommitted then (d.navigation.settleAtDestination.1, some .destination)
    else d.navigation.cancelForExclusiveView
  ({ { d with navigation := navigation }.finishNavigation.1 with pending := none }, endpoint)

end PresentationDirector

/-! ## 3. What the loop does -/

/-- One operation of the launcher loop. A start is unwound when the chart refuses it, an orientation
    that does not animate or is done is ended at once, and the chart is asked under its current
    generation. -/
inductive DirectorStep where
  | startNavigation (start : TransitionStart) (pending : PendingNavigation)
  | commitNavigation
  | takePending
  | takeControlledCapture
  | captureDeferred
  | retainRedraw
  | captureNavigationDestination (destination : List Rgb565Pixel) (nowUs : Nat)
  | tick (nowUs : Nat)
  | requestReverse (nowUs : Nat)
  | settleAtDestination
  | cancelForExclusiveView
  | finishNavigation
  | coverNavigation
  | beginOrientation (fromOrientation toOrientation : ScreenOrientation)
      (source : List Rgb565Pixel) (now : Nat) (reduceMotion : Bool) (intent : OrientationIntent)
  | captureOrientationDestination (destination : List Rgb565Pixel)
  | abortStalledOrientationCapture (controlledCaptureRendered : Bool)
  | restartOrientation (now : Nat)
  | renderOrientation (len now : Nat)
  | liveFramePresented
  deriving DecidableEq

namespace PresentationDirector

variable (d : PresentationDirector)

def startNavigation (start : TransitionStart) (pending : PendingNavigation) :
    PresentationDirector :=
  match d.navigation.begin start with
  | (navigation, .ok true) =>
      match { d with navigation := navigation }.adoptNavigation pending with
      | (d, true) => d
      | (d, false) => d.unwindNavigation
  | (navigation, _) => { d with navigation := navigation }

def startOrientation (fromOrientation toOrientation : ScreenOrientation)
    (source : List Rgb565Pixel) (now : Nat) (reduceMotion : Bool) (intent : OrientationIntent) :
    PresentationDirector :=
  match d.beginOrientation fromOrientation toOrientation source now reduceMotion intent with
  | (d, some false) => d.endOrientation.1
  | (d, _) => d

def renderOrientation (len now : Nat) : PresentationDirector :=
  match d.orientation.renderInto len now with
  | (orientation, some true) => { d with orientation := orientation }.endOrientation.1
  | (orientation, _) => { d with orientation := orientation }

/-- An operation on the chart under its current generation. -/
def askChart {α : Type}
    (operation : FullScreenTransitionStateChart → Nat → FullScreenTransitionStateChart × α) :
    PresentationDirector :=
  match d.chart.generation with
  | none => d
  | some generation => { d with chart := (operation d.chart generation).1 }

def next (d : PresentationDirector) : DirectorStep → PresentationDirector
  | .startNavigation start pending => d.startNavigation start pending
  | .commitNavigation =>
      { d with pending := d.pending.map fun pending => { pending with committed := true } }
  | .takePending => { d with pending := none }
  | .takeControlledCapture => d.askChart fun chart => chart.takeControlledCapture
  | .captureDeferred => d.askChart fun chart => chart.captureDeferred
  | .retainRedraw => d.askChart fun chart => chart.retainRedraw
  | .captureNavigationDestination destination nowUs =>
      (d.captureNavigationDestination destination nowUs).1
  | .tick nowUs => { d with navigation := (d.navigation.tick nowUs).1 }
  | .requestReverse nowUs => { d with navigation := (d.navigation.requestReverse nowUs).1 }
  | .settleAtDestination => { d with navigation := d.navigation.settleAtDestination.1 }
  | .cancelForExclusiveView => { d with navigation := d.navigation.cancelForExclusiveView.1 }
  | .finishNavigation => d.finishNavigation.1
  | .coverNavigation => d.coverNavigation.1
  | .beginOrientation fromOrientation toOrientation source now reduceMotion intent =>
      d.startOrientation fromOrientation toOrientation source now reduceMotion intent
  | .captureOrientationDestination destination => (d.captureOrientationDestination destination).1
  | .abortStalledOrientationCapture controlledCaptureRendered =>
      (d.abortStalledOrientationCapture controlledCaptureRendered).1
  | .restartOrientation now => { d with orientation := (d.orientation.restartAnimation now).1 }
  | .renderOrientation len now => d.renderOrientation len now
  | .liveFramePresented => d.askChart fun chart => chart.liveFramePresented

end PresentationDirector

/-- A new director with a runtime for each effect, of any size, and what the loop does with it. -/
def presentationDirector : Machine PresentationDirector DirectorStep :=
  .ofNext
    (fun d => ∃ width height enabled durationMs effectWidth effectHeight,
      d = .new ((NavigationTransitionRuntime.new width height enabled).configurePreview durationMs)
        (.new effectWidth effectHeight))
    PresentationDirector.next

/-! ## 4. Each effect and the stage of the chart -/

abbrev Stage := Option (FullScreenTransitionOwner × FullScreenTransitionState)

/-- A navigation plays while its owner captures or is locked. Before the lock nothing is revealed,
    and a destination the chart refused settles the motion; after it nothing is left to capture. -/
def NavigationFits (navigation : NavigationTransitionRuntime) : Stage → Prop
  | some (.navigation, .capturePending) =>
      navigation.isActive ∧ navigation.frame.phase ≠ .reveal ∧
        (navigation.destinationReady → navigation.frame.phase = .settled)
  | some (.navigation, .snapshotLocked) =>
      navigation.isActive ∧ navigation.frame.phase ≠ .capture
  | _ => navigation.isActive = false

/-- The orientation effect plays while its owner captures or is locked, and has its destination when
    it is locked. -/
def OrientationFits (effect : OrientationTransitionRuntime) : Stage → Prop
  | some (.orientation, .capturePending) => effect.active ∧ effect.destinationReady = false
  | some (.orientation, .snapshotLocked) => effect.active ∧ effect.destinationReady
  | _ => effect.active = false

/-- The invariant: both effects fit the chart, and the intent lives as long as its effect. -/
structure Paired (d : PresentationDirector) : Prop where
  sound : d.navigation.Sound
  navigation : NavigationFits d.navigation d.chart.stage
  orientation : OrientationFits d.orientation d.chart.stage
  intent : d.orientationIntent.isSome = d.orientation.active

section Fits

variable {navigation after : NavigationTransitionRuntime} {effect : OrientationTransitionRuntime}
  {stage : Stage} {state : FullScreenTransitionState}

theorem isActive_of_plays (h : navigation.Plays after) : after.isActive = navigation.isActive :=
  Bool.eq_iff_iff.mpr (by
    rw [NavigationTransitionRuntime.isActive_iff, NavigationTransitionRuntime.isActive_iff]
    exact not_congr h.advances.idle)

/-- What plays a transition needs nothing of the chart. -/
theorem NavigationFits.plays (h : NavigationFits navigation stage) (hp : navigation.Plays after) :
    NavigationFits after stage := by
  have hactive := isActive_of_plays hp
  unfold NavigationFits at h ⊢
  split at h
  case h_1 =>
      obtain ⟨ha, hreveal, hready⟩ := h
      refine ⟨hactive ▸ ha, fun e => ?_, fun hr => ?_⟩
      · rcases hp.advances.reveal e with hr | hr
        · have hsettled := hp.advances.settled (hready hr)
          exact nomatch e.symm.trans hsettled
        · exact hreveal hr
      · rw [hp.ready] at hr
        exact hp.advances.settled (hready hr)
  case h_2 => exact ⟨hactive ▸ h.1, fun e => h.2 (hp.advances.capture e)⟩
  case h_3 => simpa [hactive] using h

/-- Two runtimes with nothing playing are the same to the chart. -/
theorem NavigationFits.idle (h : NavigationFits navigation stage)
    (hi : navigation.isActive = false) (ha : after.isActive = false) :
    NavigationFits after stage := by
  unfold NavigationFits at h ⊢
  split at h <;> simp_all

theorem NavigationFits.inactive (h : NavigationFits navigation stage)
    (hc : stage ≠ some (.navigation, .capturePending))
    (hl : stage ≠ some (.navigation, .snapshotLocked)) : navigation.isActive = false := by
  unfold NavigationFits at h
  split at h
  case h_1 => exact absurd rfl hc
  case h_2 => exact absurd rfl hl
  case h_3 => exact h

theorem OrientationFits.inactive (h : OrientationFits effect stage)
    (hc : stage ≠ some (.orientation, .capturePending))
    (hl : stage ≠ some (.orientation, .snapshotLocked)) : effect.active = false := by
  unfold OrientationFits at h
  split at h
  case h_1 => exact absurd rfl hc
  case h_2 => exact absurd rfl hl
  case h_3 => exact h

/-- A playing navigation holds the frame. -/
theorem NavigationFits.hosted (h : NavigationFits navigation stage) (ha : navigation.isActive) :
    stage = some (.navigation, .capturePending) ∨ stage = some (.navigation, .snapshotLocked) := by
  by_contra hno
  have hoff := h.inactive (fun e => hno (.inl e)) (fun e => hno (.inr e))
  simp [hoff] at ha

theorem OrientationFits.hosted (h : OrientationFits effect stage) (ha : effect.active) :
    stage = some (.orientation, .capturePending) ∨
      stage = some (.orientation, .snapshotLocked) := by
  by_contra hno
  have hoff := h.inactive (fun e => hno (.inl e)) (fun e => hno (.inr e))
  simp [hoff] at ha

theorem NavigationFits.settled (ha : navigation.isActive) (hs : navigation.frame.phase = .settled)
    (h : stage = some (.navigation, .capturePending) ∨
      stage = some (.navigation, .snapshotLocked)) : NavigationFits navigation stage := by
  rcases h with rfl | rfl <;> simp [NavigationFits, ha, hs]

end Fits

namespace Paired

open NavigationTransitionRuntime

variable {d : PresentationDirector}

theorem new (width height effectWidth effectHeight : Nat) (enabled : Bool)
    (durationMs : Option Nat) :
    Paired (.new ((NavigationTransitionRuntime.new width height enabled).configurePreview
      durationMs) (.new effectWidth effectHeight)) where
  sound := (new_idle width height enabled durationMs).sound
  navigation := (new_idle width height enabled durationMs).not_isActive
  orientation := rfl
  intent := rfl

theorem plays {after : NavigationTransitionRuntime} (h : Paired d)
    (hp : d.navigation.Plays after) : Paired { d with navigation := after } :=
  ⟨hp.sound, h.navigation.plays hp, h.orientation, h.intent⟩

/-- A chart in the same stage is as good. -/
theorem chart {after : FullScreenTransitionStateChart} (h : Paired d)
    (hc : after.stage = d.chart.stage) : Paired { d with chart := after } :=
  ⟨h.sound, hc ▸ h.navigation, hc ▸ h.orientation, h.intent⟩

theorem askChart {α : Type}
    {operation : FullScreenTransitionStateChart → Nat → FullScreenTransitionStateChart × α}
    (h : Paired d) (hc : ∀ chart g, (operation chart g).1.stage = chart.stage) :
    Paired (d.askChart operation) := by
  unfold PresentationDirector.askChart
  split
  · exact h
  · exact h.chart (hc _ _)

theorem liveFramePresented (h : Paired d) :
    Paired (d.askChart fun chart => chart.liveFramePresented) := by
  unfold PresentationDirector.askChart
  split
  case h_1 => exact h
  case h_2 generation _ =>
      rcases d.chart.liveFramePresented_stage generation with ⟨o, hs, hnone⟩ | hsame
      · have hnav := h.navigation
        have horient := h.orientation
        rw [hs] at hnav horient
        refine ⟨h.sound, ?_, ?_, h.intent⟩
        · rw [hnone]
          exact hnav.inactive (by simp) (by simp)
        · rw [hnone]
          exact horient.inactive (by simp) (by simp)
      · exact h.chart (by rw [hsame])

/-! ## 5. Navigation -/

theorem finishNavigation (h : Paired d) : Paired d.finishNavigation.1 := by
  unfold PresentationDirector.finishNavigation
  rcases complete_cases h.sound with ⟨hsettled, hsome, hsound, hidle⟩ | ⟨-, hnone⟩
  case inr =>
      rw [hnone]
      exact h
  case inl =>
      have hactive : d.navigation.isActive := isActive_iff.mpr (by simp [hsettled])
      have hended : d.navigation.complete.1.isActive = false := by
        cases ha : d.navigation.complete.1.isActive with
        | false => rfl
        | true => exact absurd hidle (isActive_iff.mp ha)
      have hstage : (releaseFullScreenTransition d.chart .navigation).stage =
          some (.navigation, .releasing) := by
        rw [FullScreenTransitionStateChart.stage_release]
        rcases h.navigation.hosted hactive with e | e <;> simp [e]
      have horient : d.orientation.active = false :=
        h.orientation.inactive (by rcases h.navigation.hosted hactive with e | e <;> simp [e])
          (by rcases h.navigation.hosted hactive with e | e <;> simp [e])
      split
      case h_1 navigation e => simp [e] at hsome
      case h_2 navigation completion e =>
          rw [e] at hsound hended
          refine ⟨hsound, ?_, ?_, h.intent⟩
          · rw [hstage]
            exact hended
          · rw [hstage]
            exact horient

theorem coverNavigation (h : Paired d) : Paired d.coverNavigation.1 := by
  have hplays : d.navigation.Plays (if d.destinationCommitted then
      (d.navigation.settleAtDestination.1, some .destination)
      else d.navigation.cancelForExclusiveView).1 := by
    split
    · exact (settleAtDestination_settles h.sound).1
    · exact (cancelForExclusiveView_settles h.sound).1
  have hfinished := (h.plays hplays).finishNavigation
  exact ⟨hfinished.sound, hfinished.navigation, hfinished.orientation, hfinished.intent⟩

/-- A transition the chart refused is unwound: nothing plays, as before it. -/
theorem unwindNavigation {after : NavigationTransitionRuntime} (h : Paired d)
    (hi : d.navigation.isActive = false) (hs : after.Sound) (ha : after.isActive) :
    Paired ({ d with navigation := after }.unwindNavigation) := by
  obtain ⟨hplays, hsettled⟩ := settleAtDestination_settles hs
  rcases complete_cases hplays.sound with ⟨-, -, hsound, hidle⟩ | ⟨hne, -⟩
  case inr => exact absurd (hsettled ha) hne
  case inl =>
      have hended : after.settleAtDestination.1.complete.1.isActive = false := by
        cases hc : after.settleAtDestination.1.complete.1.isActive with
        | false => rfl
        | true => exact absurd hidle (isActive_iff.mp hc)
      exact ⟨hsound, h.navigation.idle hi hended, h.orientation, h.intent⟩

theorem startNavigation (h : Paired d) (start : TransitionStart) (pending : PendingNavigation) :
    Paired (d.startNavigation start pending) := by
  unfold PresentationDirector.startNavigation
  rcases @begin_cases d.navigation start with ⟨hi, hok, hwaits⟩ | ⟨hno, hsame⟩
  case inr =>
      have hrefused : Paired { d with navigation := (d.navigation.begin start).1 } := by
        rcases hsame with e | ⟨hi, hidle⟩
        · rw [e]
          exact h
        · exact ⟨hidle.sound, h.navigation.idle hi hidle.not_isActive, h.orientation, h.intent⟩
      split
      case h_1 navigation e => simp [e] at hno
      case h_2 navigation result _ e => simpa [e] using hrefused
  case inl =>
      split
      case h_2 navigation result hresult e => exact absurd (by simpa [e] using hok) hresult
      case h_1 navigation e =>
          rw [e] at hwaits
          unfold PresentationDirector.adoptNavigation
          rcases d.chart.begin_stage .navigation with ⟨hfree, htrue, hstage⟩ | ⟨-, hrefused⟩
          · cases hb : beginFullScreenTransition d.chart .navigation with
            | mk chart held =>
                obtain rfl : held = true := by simpa [hb] using htrue
                rw [hb] at hstage
                have horient := h.orientation
                rw [hfree] at horient
                refine ⟨hwaits.sound, ?_, ?_, h.intent⟩
                · dsimp only
                  rw [hstage]
                  exact ⟨hwaits.active, hwaits.unrevealed, by simp [hwaits.unready]⟩
                · dsimp only
                  rw [hstage]
                  exact horient.inactive (by simp) (by simp)
          · dsimp only
            rw [hrefused]
            exact h.unwindNavigation hi hwaits.sound hwaits.active

theorem captureNavigationDestination (h : Paired d) (destination : List Rgb565Pixel)
    (nowUs : Nat) : Paired (d.captureNavigationDestination destination nowUs).1 := by
  obtain ⟨hsound, hactive, hcaptured⟩ := captureDestination_cases h.sound destination nowUs
  -- Settled where it goes, a refused transition fits whatever stage it is hosted in.
  have hrefused : ∀ navigation, navigation = (d.navigation.captureDestination destination nowUs).1 →
      Paired { d with navigation := navigation.settleAtDestination.1 } := by
    rintro navigation rfl
    obtain ⟨hplays, hsettled⟩ := settleAtDestination_settles hsound
    have hstays := (isActive_of_plays hplays).trans hactive
    refine ⟨hplays.sound, ?_, h.orientation, h.intent⟩
    cases ha : d.navigation.isActive with
    | false => exact h.navigation.idle ha (hstays.trans ha)
    | true =>
        exact .settled (hstays.trans ha) (hsettled (hactive.trans ha)) (h.navigation.hosted ha)
  unfold PresentationDirector.captureNavigationDestination
  split
  case h_1 navigation failure e => exact hrefused _ (by rw [e])
  case h_2 navigation e =>
      rw [e] at hsound hactive hcaptured
      split
      case h_1 hgeneration =>
          have howner := FullScreenTransitionStateChart.generationFor_eq_none hgeneration
          rw [FullScreenTransitionStateChart.owner_of_stage] at howner
          have hi := h.navigation.inactive (by rintro e; simp [e] at howner)
            (by rintro e; simp [e] at howner)
          exact ⟨hsound, h.navigation.idle hi (hactive.trans hi), h.orientation, h.intent⟩
      case h_2 generation hgeneration =>
          rcases FullScreenTransitionStateChart.captureCompleted_stage hgeneration with
            ⟨hpending, hok, hlocked⟩ | ⟨herr, hsame⟩
          · have hnav := h.navigation
            have horient := h.orientation
            rw [hpending] at hnav horient
            split
            case h_1 chart ec =>
                rw [ec] at hlocked
                refine ⟨hsound, ?_, ?_, h.intent⟩
                · dsimp only
                  rw [hlocked]
                  exact ⟨hactive.trans hnav.1, hcaptured rfl⟩
                · dsimp only
                  rw [hlocked]
                  exact horient.inactive (by simp) (by simp)
            case h_2 chart error ec => simp [ec, Except.isOk, Except.toBool] at hok
          · split
            case h_1 chart ec => simp [ec, Except.isOk, Except.toBool] at herr
            case h_2 chart error ec =>
                have hchart : chart.stage = d.chart.stage := by rw [← hsame, ec]
                exact (hrefused navigation (by rw [e])).chart hchart

/-! ## 6. Orientation -/

/-- An effect that plays no more leaves the frame with the live frame asked for. -/
theorem released {effect : OrientationTransitionRuntime} (hs : d.navigation.Sound)
    (hn : NavigationFits d.navigation d.chart.stage) (he : effect.active = false) :
    Paired { d with
      orientation := effect
      orientationIntent := none
      chart := releaseFullScreenTransition d.chart .orientation } := by
  have hstage := @FullScreenTransitionStateChart.stage_release d.chart .orientation
  cases hd : d.chart.stage with
  | none =>
      simp only [hd, Option.map_none] at hstage hn
      exact ⟨hs, hstage ▸ hn, hstage ▸ he, by simp [he]⟩
  | some st =>
      obtain ⟨o, s⟩ := st
      cases o with
      | orientation =>
          simp only [hd, Option.map_some, if_true] at hstage hn
          exact ⟨hs, hstage ▸ hn.inactive (by simp) (by simp), hstage ▸ he, by simp [he]⟩
      | navigation =>
          simp only [hd, Option.map_some, reduceCtorEq, if_false] at hstage hn
          exact ⟨hs, hstage ▸ hn, hstage ▸ he, by simp [he]⟩

theorem abortOrientation {effect : OrientationTransitionRuntime} (hs : d.navigation.Sound)
    (hn : NavigationFits d.navigation d.chart.stage) :
    Paired ({ d with orientation := effect }.abortOrientation) :=
  released hs hn rfl

theorem endOrientation (hs : d.navigation.Sound)
    (hn : NavigationFits d.navigation d.chart.stage) (ho : d.orientation.active = false) :
    Paired d.endOrientation.1 :=
  released hs hn ho

theorem startOrientation (h : Paired d) (fromOrientation toOrientation : ScreenOrientation)
    (source : List Rgb565Pixel) (now : Nat) (reduceMotion : Bool) (intent : OrientationIntent) :
    Paired (d.startOrientation fromOrientation toOrientation source now reduceMotion intent) := by
  unfold PresentationDirector.startOrientation PresentationDirector.beginOrientation
  rcases d.chart.begin_stage .orientation with ⟨hfree, htrue, hstage⟩ | ⟨-, hrefused⟩
  case inr =>
      rw [hrefused]
      exact h
  case inl =>
      have hnav := h.navigation
      rw [hfree] at hnav
      cases hb : beginFullScreenTransition d.chart .orientation with
      | mk chart held =>
          obtain rfl : held = true := by simpa [hb] using htrue
          rw [hb] at hstage
          dsimp only at hstage ⊢
          by_cases hstill : reduceMotion = true ∨ fromOrientation = toOrientation ∨
            source.length ≠ d.orientation.source.length
          · rw [OrientationTransitionRuntime.start, if_pos hstill]
            refine endOrientation h.sound ?_ rfl
            dsimp only
            rw [hstage]
            exact hnav.inactive (by simp) (by simp)
          · rw [OrientationTransitionRuntime.start, if_neg hstill]
            refine ⟨h.sound, ?_, ?_, rfl⟩
            · dsimp only
              rw [hstage]
              exact hnav.inactive (by simp) (by simp)
            · dsimp only
              rw [hstage]
              exact ⟨rfl, rfl⟩

theorem captureOrientationDestination (h : Paired d) (destination : List Rgb565Pixel) :
    Paired (d.captureOrientationDestination destination).1 := by
  unfold PresentationDirector.captureOrientationDestination
  split
  case h_1 effect _ => exact abortOrientation h.sound h.navigation
  case h_2 effect e =>
      have hactive : d.orientation.active := by
        by_contra hno
        simp [OrientationTransitionRuntime.captureDestination, hno] at e
      split
      case h_1 hgeneration =>
          have howner := FullScreenTransitionStateChart.generationFor_eq_none hgeneration
          rw [FullScreenTransitionStateChart.owner_of_stage] at howner
          rcases h.orientation.hosted hactive with hs | hs <;> simp [hs] at howner
      case h_2 generation hgeneration =>
          rcases FullScreenTransitionStateChart.captureCompleted_stage hgeneration with
            ⟨hpending, hok, hlocked⟩ | ⟨herr, hsame⟩
          · have hnav := h.navigation
            have horient := h.orientation
            rw [hpending] at hnav horient
            have hcaptured : effect.active = true ∧ effect.destinationReady = true := by
              obtain ⟨ha, hr⟩ := horient
              unfold OrientationTransitionRuntime.captureDestination at e
              split at e
              case isTrue => simp at e
              case isFalse =>
                  simp only [hr, Bool.false_eq_true, if_false, Prod.mk.injEq, and_true] at e
                  subst e
                  exact ⟨ha, rfl⟩
            split
            case h_1 chart ec =>
                rw [ec] at hlocked
                refine ⟨h.sound, ?_, ?_, ?_⟩
                · dsimp only
                  rw [hlocked]
                  exact hnav.inactive (by simp) (by simp)
                · dsimp only
                  rw [hlocked]
                  exact hcaptured
                · exact h.intent.trans (horient.1.trans hcaptured.1.symm)
            case h_2 chart error ec => simp [ec, Except.isOk, Except.toBool] at hok
          · split
            case h_1 chart ec => simp [ec, Except.isOk, Except.toBool] at herr
            case h_2 chart error ec =>
                obtain rfl : chart = d.chart := by rw [← hsame, ec]
                exact abortOrientation h.sound h.navigation

theorem abortStalledOrientationCapture (h : Paired d) (controlledCaptureRendered : Bool) :
    Paired (d.abortStalledOrientationCapture controlledCaptureRendered).1 := by
  unfold PresentationDirector.abortStalledOrientationCapture
  split
  · exact abortOrientation h.sound h.navigation
  · exact h

/-- An effect with the same activity and destination is as good. -/
theorem effect {after : OrientationTransitionRuntime} (h : Paired d)
    (ha : after.active = d.orientation.active)
    (hr : after.destinationReady = d.orientation.destinationReady) :
    Paired { d with orientation := after } := by
  refine ⟨h.sound, h.navigation, ?_, h.intent.trans ha.symm⟩
  have horient := h.orientation
  unfold OrientationFits at horient ⊢
  split at horient <;> simp_all

theorem restartOrientation (h : Paired d) (now : Nat) :
    Paired { d with orientation := (d.orientation.restartAnimation now).1 } := by
  unfold OrientationTransitionRuntime.restartAnimation
  split
  · exact h
  · exact h.effect rfl rfl

theorem renderOrientation (h : Paired d) (len now : Nat) :
    Paired (d.renderOrientation len now) := by
  unfold PresentationDirector.renderOrientation
  rcases d.orientation.renderInto_cases len now with ⟨hdone, hoff⟩ | ⟨hgoes, hsame⟩
  · split
    case h_1 effect e =>
        rw [e] at hoff
        exact endOrientation h.sound h.navigation hoff
    case h_2 effect done hdone' e => exact absurd (by simpa [e] using hdone) hdone'
  · split
    case h_1 effect e => simp [e] at hgoes
    case h_2 effect done _ e =>
        rw [e] at hsame
        exact h.effect (congrArg _ hsame) (congrArg _ hsame)

/-! ## 7. Runs -/

/-- **Every operation of the loop keeps the effects and the chart paired.** -/
theorem next (h : Paired d) (step : DirectorStep) : Paired (d.next step) := by
  cases step with
  | startNavigation start pending => exact h.startNavigation start pending
  | commitNavigation => exact ⟨h.sound, h.navigation, h.orientation, h.intent⟩
  | takePending => exact ⟨h.sound, h.navigation, h.orientation, h.intent⟩
  | takeControlledCapture =>
      exact h.askChart fun _ _ => FullScreenTransitionStateChart.stage_takeControlledCapture
  | captureDeferred =>
      exact h.askChart fun _ _ => FullScreenTransitionStateChart.stage_captureDeferred
  | retainRedraw => exact h.askChart fun _ _ => FullScreenTransitionStateChart.stage_retainRedraw
  | captureNavigationDestination destination nowUs =>
      exact h.captureNavigationDestination destination nowUs
  | tick nowUs => exact h.plays (tick_plays h.sound nowUs)
  | requestReverse nowUs => exact h.plays (requestReverse_plays h.sound nowUs)
  | settleAtDestination => exact h.plays (settleAtDestination_settles h.sound).1
  | cancelForExclusiveView => exact h.plays (cancelForExclusiveView_settles h.sound).1
  | finishNavigation => exact h.finishNavigation
  | coverNavigation => exact h.coverNavigation
  | beginOrientation fromOrientation toOrientation source now reduceMotion intent =>
      exact h.startOrientation fromOrientation toOrientation source now reduceMotion intent
  | captureOrientationDestination destination =>
      exact h.captureOrientationDestination destination
  | abortStalledOrientationCapture rendered => exact h.abortStalledOrientationCapture rendered
  | restartOrientation now => exact h.restartOrientation now
  | renderOrientation len now => exact h.renderOrientation len now
  | liveFramePresented => exact h.liveFramePresented

theorem reachable (h : presentationDirector.Reachable d) : Paired d := by
  refine h.invariant ?_ ?_
  · rintro s ⟨width, height, enabled, durationMs, effectWidth, effectHeight, rfl⟩
    exact new width height effectWidth effectHeight enabled durationMs
  · rintro s step t hs rfl
    exact hs.next step

end Paired

/-- Who plays is who holds the frame. -/
structure InStep (d : PresentationDirector) : Prop where
  oneEffect : ¬(d.navigation.isActive ∧ d.orientation.active)
  navigation : d.navigation.isActive ↔
    d.chart.owner = some .navigation ∧ d.chart.state ≠ .releasing
  orientation : d.orientation.active ↔
    d.chart.owner = some .orientation ∧ d.chart.state ≠ .releasing
  playing : d.navigation.isActive ∨ d.orientation.active →
    d.chart.state = .capturePending ∨ d.chart.state = .snapshotLocked
  still : d.navigation.isActive = false → d.orientation.active = false →
    d.chart.state = .live ∨ d.chart.state = .releasing
  intent : d.orientationIntent.isSome ↔ d.orientation.active
  destination : d.orientation.active →
    (d.orientation.destinationReady ↔ d.chart.state = .snapshotLocked)
  unrevealed : d.chart.state = .capturePending → d.navigation.frame.phase ≠ .reveal
  captured : d.chart.state = .snapshotLocked → d.navigation.frame.phase ≠ .capture

theorem phase_of_inactive {navigation : NavigationTransitionRuntime}
    (h : navigation.isActive = false) : navigation.frame.phase = .idle := by
  by_contra hne
  have hactive := NavigationTransitionRuntime.isActive_iff.mpr hne
  simp [h] at hactive

theorem Paired.inStep {d : PresentationDirector} (h : Paired d) : InStep d := by
  obtain ⟨-, hnav, horient, hintent⟩ := h
  have howner := d.chart.owner_of_stage
  have hstate := d.chart.state_of_stage
  -- One case for each stage: the two effects are on or off in it.
  cases hs : d.chart.stage with
  | none =>
      rw [hs] at hnav horient howner hstate
      have hphase := phase_of_inactive hnav
      constructor <;> simp_all [NavigationFits, OrientationFits]
  | some stage =>
      obtain ⟨owner, state⟩ := stage
      have hlive := FullScreenTransitionStateChart.stage_ne_live hs
      rw [hs] at hnav horient howner hstate
      cases owner with
      | navigation =>
          have hoff : d.orientation.active = false := horient.inactive (by simp) (by simp)
          cases state with
          | live => exact absurd rfl hlive
          | capturePending => constructor <;> simp_all [NavigationFits]
          | snapshotLocked => constructor <;> simp_all [NavigationFits]
          | releasing =>
              have hphase := phase_of_inactive hnav
              constructor <;> simp_all [NavigationFits]
      | orientation =>
          have hoff : d.navigation.isActive = false := hnav.inactive (by simp) (by simp)
          have hphase := phase_of_inactive hoff
          cases state with
          | live => exact absurd rfl hlive
          | capturePending => constructor <;> simp_all [OrientationFits]
          | snapshotLocked => constructor <;> simp_all [OrientationFits]
          | releasing => constructor <;> simp_all [OrientationFits]

/-- A navigation of two pixels put off until its destination is captured, then revealed, and
    finished under a chart that waits for the live frame. -/
def revealedNavigation : List DirectorStep :=
  [.startNavigation
    { request := ⟨.forward, 300000, 5000000, .deviceCard, nofun⟩
      route := .homeToConsoles
      space := .logical
      start := .afterDestination
      source := [1, 1]
      nowUs := 0 } ⟨false⟩,
    .takeControlledCapture, .captureNavigationDestination [2, 2] 40000, .commitNavigation,
    .tick 250000, .tick 400000, .finishNavigation]

/-- **After every run of the loop's operations, in any order and at any time, who plays is who holds
    the frame.** At most one effect is active; an active one owns a chart that captures or is
    locked, and with none active the chart is live or waits for the live frame only. The intent
    lives as long as the orientation effect, whose destination is captured when the snapshot is
    locked. A navigation reveals nothing before the lock and captures nothing after it. -/
theorem transitions_stay_in_step {d : PresentationDirector}
    (h : presentationDirector.Reachable d) : InStep d :=
  (Paired.reachable h).inStep

theorem transitions_stay_in_step_revealed :
    InStep (revealedNavigation.foldl PresentationDirector.next
        (.new ((NavigationTransitionRuntime.new 2 1 true).configurePreview none) (.new 1 1))) ∧
      (revealedNavigation.foldl PresentationDirector.next
        (.new ((NavigationTransitionRuntime.new 2 1 true).configurePreview none)
          (.new 1 1))).chart.state = .releasing :=
  ⟨transitions_stay_in_step
    ⟨_, revealedNavigation, ⟨2, 1, true, none, 1, 1, rfl⟩, Machine.run_foldl _ _⟩,
    by decide +kernel⟩

/-- With no effect active the next live frame on screen frees the chart: no release is missed. -/
theorem still_frame_frees_the_chart {d : PresentationDirector}
    (h : presentationDirector.Reachable d) (hn : d.navigation.isActive = false)
    (ho : d.orientation.active = false) : (d.next .liveFramePresented).chart.isLive := by
  rw [FullScreenTransitionStateChart.isLive_iff]
  simp only [PresentationDirector.next, PresentationDirector.askChart]
  have hstate := (Paired.reachable h).inStep.still hn ho
  split
  case h_1 hgeneration =>
      simpa [FullScreenTransitionStateChart.generation, FullScreenTransitionStateChart.stage]
        using hgeneration
  case h_2 generation hgeneration =>
      rcases hstate with hlive | hreleasing
      · obtain ⟨active, ha, -⟩ := Option.map_eq_some_iff.mp hgeneration
        exact absurd (by simpa [FullScreenTransitionStateChart.state, ha] using hlive)
          active.notLive
      · exact FullScreenTransitionStateChart.liveFramePresented_current hreleasing hgeneration

end MisterMagik.Launcher
