/-
  File:      MisterMagik/Launcher/TransitionChart.lean
  Subject:   Who may render during a full-screen transition: the chart with one owner at a time
             (`launcher_runtime/full_screen_transition.rs`).

  A transition is addressed by the generation it was begun under. Every operation but `begin` names
  a generation and is refused for another one.

  * `FullScreenTransitionStateChart` -- the chart and its operations;
  * `stage` -- the owner and the state it is in, and what each operation does to them.
-/
import Mathlib.Algebra.Group.Nat.Defs

namespace MisterMagik.Launcher

/-! ## 1. The chart -/

inductive FullScreenTransitionState where
  | live
  | capturePending
  | snapshotLocked
  | releasing
  deriving DecidableEq, Repr

inductive FullScreenTransitionOwner where
  | navigation
  | orientation
  deriving DecidableEq, Repr

inductive FullScreenTransitionError where
  | ownerActive
  | staleGeneration
  | invalidState
  | captureNotIssued
  deriving DecidableEq, Repr

structure FullScreenTransitionPolicy where
  advanceSlintTimers : Bool
  automaticSlintRaster : Bool
  controlledCapture : Bool
  snapshotLocked : Bool
  forceLiveRaster : Bool
  frameDrivenMotion : Bool
  deriving DecidableEq, Repr

structure ActiveTransition where
  owner : FullScreenTransitionOwner
  state : FullScreenTransitionState
  generation : Nat
  captureIssued : Bool
  retainedRedraw : Bool
  /-- A transition that has ended is no `ActiveTransition`. -/
  notLive : state ≠ .live
  deriving DecidableEq, Repr

structure FullScreenTransitionStateChart where
  nextGeneration : Nat := 1
  active : Option ActiveTransition := none
  deriving DecidableEq, Repr

namespace FullScreenTransitionStateChart

variable (chart : FullScreenTransitionStateChart)

def begin (owner : FullScreenTransitionOwner) :
    FullScreenTransitionStateChart × Except FullScreenTransitionError Nat :=
  if chart.active.isSome then (chart, .error .ownerActive)
  else
    ({ nextGeneration := max ((chart.nextGeneration + 1) % 2 ^ 64) 1
       active := some
        { owner := owner
          state := .capturePending
          generation := chart.nextGeneration
          captureIssued := false
          retainedRedraw := false
          notLive := by decide } },
      .ok chart.nextGeneration)

def state : FullScreenTransitionState :=
  match chart.active with
  | some active => active.state
  | none => .live

def isLive : Bool := chart.active.isNone

def owner : Option FullScreenTransitionOwner := chart.active.map (·.owner)

def generation : Option Nat := chart.active.map (·.generation)

/-- The generation, for the owner that holds it. -/
def generationFor (owner : FullScreenTransitionOwner) : Option Nat :=
  (chart.active.filter (·.owner = owner)).map (·.generation)

def captureIssued : Bool :=
  match chart.active with
  | some active => active.captureIssued
  | none => false

def policy : FullScreenTransitionPolicy :=
  match chart.state with
  | .live =>
      { advanceSlintTimers := true
        automaticSlintRaster := true
        controlledCapture := false
        snapshotLocked := false
        forceLiveRaster := false
        frameDrivenMotion := false }
  | .capturePending =>
      { advanceSlintTimers := false
        automaticSlintRaster := false
        controlledCapture := chart.active.any fun active => !active.captureIssued
        snapshotLocked := false
        forceLiveRaster := false
        frameDrivenMotion := true }
  | .snapshotLocked =>
      { advanceSlintTimers := false
        automaticSlintRaster := false
        controlledCapture := false
        snapshotLocked := true
        forceLiveRaster := false
        frameDrivenMotion := true }
  | .releasing =>
      { advanceSlintTimers := false
        automaticSlintRaster := false
        controlledCapture := false
        snapshotLocked := false
        forceLiveRaster := true
        frameDrivenMotion := true }

/-- `active_ref` and `active_mut`: the transition that holds the generation. -/
def activeAt (generation : Nat) : Except FullScreenTransitionError ActiveTransition :=
  match chart.active.filter (·.generation = generation) with
  | some active => .ok active
  | none => .error .staleGeneration

def retainRedraw (generation : Nat) :
    FullScreenTransitionStateChart × Except FullScreenTransitionError Unit :=
  match chart.activeAt generation with
  | .error error => (chart, .error error)
  | .ok active => ({ chart with active := some { active with retainedRedraw := true } }, .ok ())

def takeControlledCapture (generation : Nat) :
    FullScreenTransitionStateChart × Except FullScreenTransitionError Bool :=
  if chart.state ≠ .capturePending then (chart, .error .invalidState)
  else
    match chart.activeAt generation with
    | .error error => (chart, .error error)
    | .ok active =>
        if active.captureIssued then (chart, .ok false)
        else ({ chart with active := some { active with captureIssued := true } }, .ok true)

def captureCompleted (generation : Nat) :
    FullScreenTransitionStateChart × Except FullScreenTransitionError Unit :=
  if chart.state ≠ .capturePending then (chart, .error .invalidState)
  else
    match chart.activeAt generation with
    | .error error => (chart, .error error)
    | .ok active =>
        if ¬active.captureIssued then (chart, .error .captureNotIssued)
        else
          ({ chart with
              active := some { active with state := .snapshotLocked, notLive := by decide } },
            .ok ())

def captureDeferred (generation : Nat) :
    FullScreenTransitionStateChart × Except FullScreenTransitionError Unit :=
  if chart.state ≠ .capturePending then (chart, .error .invalidState)
  else
    match chart.activeAt generation with
    | .error error => (chart, .error error)
    | .ok active =>
        if ¬active.captureIssued then (chart, .error .captureNotIssued)
        else ({ chart with active := some { active with captureIssued := false } }, .ok ())

def release (generation : Nat) :
    FullScreenTransitionStateChart × Except FullScreenTransitionError Unit :=
  match chart.activeAt generation with
  | .error error => (chart, .error error)
  | .ok active =>
      ({ chart with active := some { active with state := .releasing, notLive := by decide } },
        .ok ())

/-- The live frame is on screen: whether a redraw was retained until then. -/
def liveFramePresented (generation : Nat) :
    FullScreenTransitionStateChart × Except FullScreenTransitionError Bool :=
  if chart.state ≠ .releasing then (chart, .error .invalidState)
  else
    match chart.activeAt generation with
    | .error error => (chart, .error error)
    | .ok active => ({ chart with active := none }, .ok active.retainedRedraw)

end FullScreenTransitionStateChart

/-! ## 2. How the director asks

The refusals of `begin` and `release` are logged only. -/

def beginFullScreenTransition (chart : FullScreenTransitionStateChart)
    (owner : FullScreenTransitionOwner) : FullScreenTransitionStateChart × Bool :=
  match chart.begin owner with
  | (chart, .ok _) => (chart, true)
  | (chart, .error _) => (chart, false)

def releaseFullScreenTransition (chart : FullScreenTransitionStateChart)
    (owner : FullScreenTransitionOwner) : FullScreenTransitionStateChart :=
  match chart.generationFor owner with
  | some generation => (chart.release generation).1
  | none => chart

/-! ## 3. Owner and state -/

namespace FullScreenTransitionStateChart

/-- Who owns the frame and how far it has got, nothing while the chart is live. -/
def stage (chart : FullScreenTransitionStateChart) :
    Option (FullScreenTransitionOwner × FullScreenTransitionState) :=
  chart.active.map fun active => (active.owner, active.state)

variable {chart : FullScreenTransitionStateChart} {active : ActiveTransition} {g : Nat}
  {o p : FullScreenTransitionOwner} {s : FullScreenTransitionState}

theorem owner_of_stage : chart.owner = chart.stage.map (·.1) := by
  cases h : chart.active <;> simp [owner, stage, h]

theorem state_of_stage : chart.state = (chart.stage.map (·.2)).getD .live := by
  cases h : chart.active <;> simp [state, stage, h]

theorem isLive_iff : chart.isLive ↔ chart.stage = none := by
  cases h : chart.active <;> simp [isLive, stage, h]

theorem stage_ne_live (h : chart.stage = some (o, s)) : s ≠ .live := by
  obtain ⟨active, -, e⟩ := Option.map_eq_some_iff.mp h
  have hs : active.state = s := congrArg Prod.snd e
  exact hs ▸ active.notLive

theorem activeAt_eq_ok (h : chart.activeAt g = .ok active) :
    chart.active = some active ∧ active.generation = g := by
  unfold activeAt at h
  split at h
  case h_1 a ha =>
      obtain ⟨ha, hg⟩ := Option.filter_eq_some_iff.mp ha
      cases h
      exact ⟨ha, of_decide_eq_true hg⟩
  case h_2 => cases h

theorem activeAt_own (h : chart.active = some active) :
    chart.activeAt active.generation = .ok active := by
  have hf : chart.active.filter (·.generation = active.generation) = some active :=
    Option.filter_eq_some_iff.mpr ⟨h, decide_eq_true rfl⟩
  rw [activeAt, hf]

theorem generationFor_eq_some (h : chart.generationFor o = some g) :
    ∃ active, chart.active = some active ∧ active.owner = o ∧ active.generation = g := by
  obtain ⟨active, ha, hg⟩ := Option.map_eq_some_iff.mp h
  obtain ⟨ha, ho⟩ := Option.filter_eq_some_iff.mp ha
  exact ⟨active, ha, of_decide_eq_true ho, hg⟩

theorem generationFor_eq_none (h : chart.generationFor o = none) : chart.owner ≠ some o := by
  intro e
  obtain ⟨active, ha, ho⟩ := Option.map_eq_some_iff.mp e
  simp [generationFor, ha, ho] at h

/-- A transition starts on a live chart, and only there. -/
theorem begin_stage (owner : FullScreenTransitionOwner) :
    (chart.stage = none ∧ (beginFullScreenTransition chart owner).2 = true ∧
        (beginFullScreenTransition chart owner).1.stage = some (owner, .capturePending)) ∨
      (chart.stage ≠ none ∧ beginFullScreenTransition chart owner = (chart, false)) := by
  cases h : chart.active with
  | none => exact .inl ⟨by simp [stage, h], by simp [beginFullScreenTransition, begin, h],
      by simp [beginFullScreenTransition, begin, stage, h]⟩
  | some active => exact .inr ⟨by simp [stage, h], by simp [beginFullScreenTransition, begin, h]⟩

@[simp] theorem stage_retainRedraw : (chart.retainRedraw g).1.stage = chart.stage := by
  unfold retainRedraw
  split
  case h_1 => rfl
  case h_2 active h => simp [stage, (activeAt_eq_ok h).1]

@[simp] theorem stage_takeControlledCapture :
    (chart.takeControlledCapture g).1.stage = chart.stage := by
  unfold takeControlledCapture
  split
  · rfl
  split
  case h_1 => rfl
  case h_2 active h =>
      split
      · rfl
      · simp [stage, (activeAt_eq_ok h).1]

@[simp] theorem stage_captureDeferred : (chart.captureDeferred g).1.stage = chart.stage := by
  unfold captureDeferred
  split
  · rfl
  split
  case h_1 => rfl
  case h_2 active h =>
      split
      · rfl
      · simp [stage, (activeAt_eq_ok h).1]

/-- A completed capture locks the snapshot; a refused one leaves the chart alone. -/
theorem captureCompleted_stage (h : chart.generationFor o = some g) :
    (chart.stage = some (o, .capturePending) ∧ (chart.captureCompleted g).2.isOk ∧
        (chart.captureCompleted g).1.stage = some (o, .snapshotLocked)) ∨
      ((chart.captureCompleted g).2.isOk = false ∧ (chart.captureCompleted g).1 = chart) := by
  obtain ⟨active, ha, ho, -⟩ := generationFor_eq_some h
  unfold captureCompleted
  split
  · exact .inr ⟨rfl, rfl⟩
  case isFalse hs =>
      split
      case h_1 => exact .inr ⟨rfl, rfl⟩
      case h_2 active' ha' =>
          obtain rfl : active = active' := Option.some.inj (ha.symm.trans (activeAt_eq_ok ha').1)
          split
          · exact .inr ⟨rfl, rfl⟩
          · refine .inl ⟨?_, rfl, by simp [stage, ho]⟩
            have hpending : active.state = .capturePending := by
              simpa [state, ha] using hs
            simp [stage, ha, ho, hpending]

/-- A release concerns its owner only, and holds the frame until the live one is on screen. -/
theorem stage_release (owner : FullScreenTransitionOwner) :
    (releaseFullScreenTransition chart owner).stage =
      chart.stage.map fun st => if st.1 = owner then (owner, .releasing) else st := by
  unfold releaseFullScreenTransition
  split
  case h_1 g h =>
      obtain ⟨active, ha, ho, rfl⟩ := generationFor_eq_some h
      simp [release, activeAt_own ha, ha, stage, ho]
  case h_2 h =>
      have hne := generationFor_eq_none h
      cases ha : chart.active with
      | none => simp [stage, ha]
      | some active =>
          have ho : active.owner ≠ owner := fun e =>
            hne (by simp [FullScreenTransitionStateChart.owner, ha, e])
          simp [stage, ha, ho]

/-- The live frame ends a transition that is being released, and no other. -/
theorem liveFramePresented_stage (g : Nat) :
    (∃ o, chart.stage = some (o, .releasing) ∧ (chart.liveFramePresented g).1.stage = none) ∨
      (chart.liveFramePresented g).1 = chart := by
  unfold liveFramePresented
  split
  · exact .inr rfl
  case isFalse hs =>
      split
      case h_1 => exact .inr rfl
      case h_2 active ha =>
          refine .inl ⟨active.owner, ?_, rfl⟩
          have hreleasing : active.state = .releasing := by
            simpa [state, (activeAt_eq_ok ha).1] using hs
          simp [stage, (activeAt_eq_ok ha).1, hreleasing]

theorem liveFramePresented_current (hs : chart.state = .releasing)
    (hg : chart.generation = some g) : (chart.liveFramePresented g).1.stage = none := by
  obtain ⟨active, ha, rfl⟩ := Option.map_eq_some_iff.mp hg
  simp [liveFramePresented, hs, activeAt_own ha, stage]

end FullScreenTransitionStateChart

end MisterMagik.Launcher
