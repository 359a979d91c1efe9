/-
  File:      MisterMagik/Input/Router.lean
  Subject:   `InputRouter` (`launcher_runtime/input_router.rs`): the gate in front of the launcher,
             the captures of its presses, its menu repeats and its neutral locks.

  Instants are nanoseconds. A map from keys that come and go is an `AList`, one from actions is a
  function.

  * `acceptBatch` -- the gate;
  * `setFocus`, `routeEvent`, `tickRepeat`, `consumeRemainingBatch` -- behind it;
  * `actionHeld` -- what the launcher sees held.
-/
import Mathlib.Data.List.AList
import MisterMagik.Input.Event

namespace MisterMagik.Input

/-! ## 1. Contexts -/

def MENU_REPEAT_DELAY : Nat := 300000000
def MENU_REPEAT_INTERVAL : Nat := 80000000

inductive InputContextKind where
  | disabled | screensaver | lifecycleDialog | controllerSetup | launcherModal | transition
  | diagnostic | screen
  deriving DecidableEq, Repr

structure FocusTarget where
  kind : InputContextKind
  owner : UInt64
  deriving DecidableEq, Repr

structure ContextId where
  target : FocusTarget
  generation : UInt64
  deriving DecidableEq, Repr

inductive DirectionalPolicy where
  | edgeOnly | menuRepeat | homeContinuous | arcadeContinuous
  deriving DecidableEq, Repr

structure FocusRequest where
  target : FocusTarget
  directionalPolicy : DirectionalPolicy
  deriving DecidableEq, Repr

/-- The menu of the first screen. -/
def FocusRequest.homeFocus : FocusRequest := ⟨⟨.screen, 1⟩, .menuRepeat⟩

inductive DispatchKind where
  | initial
  | repeat
  deriving DecidableEq, Repr

inductive ConsumedReason where
  | inputDisabled | opposingDirections | staleRelease | exclusiveBatch | integrityFault
  | launchHandoff | transitionActive
  deriving DecidableEq, Repr

inductive InputFault where
  | proxyUnavailable | overflow | desync | sequenceGap | sourceChangedWhileHeld | waitingForNeutral
  deriving DecidableEq, Repr

def InputFault.notice : InputFault → String
  | proxyUnavailable => "Controller input unavailable — Main input proxy v2 is required"
  | overflow => "Controller input paused after queue overflow — release all controls"
  | desync => "Controller input paused after device desync — release all controls"
  | sequenceGap => "Controller input paused after an event sequence gap — release all controls"
  | sourceChangedWhileHeld => "Controller input changed while held — release all controls"
  | waitingForNeutral => "Controller input paused — release all controls"

inductive InputOutcome where
  | dispatch (event : InputEvent) (context : ContextId) (kind : DispatchKind)
  | wakeScreensaver (event : InputEvent) (context : ContextId)
  | released (event : InputEvent) (pressId : PressId) (context : ContextId)
  | consumed (pressId : PressId) (reason : ConsumedReason)
  deriving DecidableEq, Repr

structure Capture where
  context : ContextId
  action : LogicalAction
  deriving DecidableEq, Repr

structure CaptureKey where
  source : InputSourceId
  sourceEpoch : SourceEpoch
  pressId : PressId
  deriving DecidableEq, Repr

/-- `CaptureKey::from`. -/
def CaptureKey.of (event : InputEvent) : CaptureKey :=
  ⟨event.source, event.sourceEpoch, event.pressId⟩

structure RepeatState where
  event : InputEvent
  context : ContextId
  nextAt : Nat
  deriving DecidableEq, Repr

def isDirection : LogicalAction → Bool
  | .up | .down | .left | .right => true
  | _ => false

def opposite : LogicalAction → Option LogicalAction
  | .up => some .down
  | .down => some .up
  | .left => some .right
  | .right => some .left
  | _ => none

/-! ## 2. The router -/

structure InputRouter where
  context : ContextId
  policy : DirectionalPolicy
  captures : AList fun _ : CaptureKey => Capture
  repeats : LogicalAction → Option RepeatState
  horizontalNeutralLock : Bool
  verticalNeutralLock : Bool
  lastFlushReason : Option ConsumedReason
  sourceEpoch : Option SourceEpoch
  lastSequence : Option UInt64
  validatedHeld : HeldState
  overflowCount : UInt64
  desyncCount : UInt64
  requiresNeutral : Bool

namespace InputRouter

def new (initial : FocusRequest) : InputRouter :=
  { context := ⟨initial.target, 1⟩
    policy := initial.directionalPolicy
    captures := ∅
    repeats := fun _ => none
    horizontalNeutralLock := false
    verticalNeutralLock := false
    lastFlushReason := none
    sourceEpoch := none
    lastSequence := none
    validatedHeld := .neutral
    overflowCount := 0
    desyncCount := 0
    requiresNeutral := true }

variable (self : InputRouter)

def integrityFlush : InputRouter :=
  { self with
    captures := ∅
    repeats := fun _ => none
    horizontalNeutralLock := false
    verticalNeutralLock := false
    validatedHeld := .neutral
    requiresNeutral := true
    lastFlushReason := some .integrityFault }

/-! ### The gate -/

/-- A new source epoch is taken over: the numbers go on from its first event. -/
def adoptEpoch (batch : InputBatch) : InputRouter :=
  { self with
    sourceEpoch := some batch.sourceEpoch
    lastSequence := batch.firstSequence.map (saturatingSub · 1) }.integrityFlush

/-- The first event of the batch is not the next one. -/
def sequenceGap (batch : InputBatch) : Bool :=
  match self.lastSequence.map (saturatingAdd · 1), batch.firstSequence with
  | some expected, some actual => expected ≠ actual
  | _, _ => false

/-- `accept_batch` once the source epoch is the router's: the numbers and the events are checked,
    and the neutral barrier. -/
def acceptEvents (batch : InputBatch) : Except InputFault Unit × InputRouter :=
  if self.sequenceGap batch then (.error .sequenceGap, self.integrityFlush)
  else
    match batch.validateFrom self.validatedHeld with
    | .error _ => (.error .desync, self.integrityFlush)
    | .ok _ =>
        let self := { self with
          validatedHeld := batch.heldAfterLast
          lastSequence := batch.lastSequence.or self.lastSequence }
        if self.requiresNeutral then
          if batch.heldAfterLast ≠ .neutral ∨ batch.events ≠ [] then
            (.error .waitingForNeutral, self)
          else (.ok (), { self with requiresNeutral := false })
        else (.ok (), self)

def acceptBatch (batch : InputBatch) : Except InputFault Unit × InputRouter :=
  if batch.health.protocol ≠ .proxyV2 then (.error .proxyUnavailable, self.integrityFlush)
  else if batch.health.overflowCount ≠ self.overflowCount then
    (.error .overflow,
      { self with overflowCount := batch.health.overflowCount }.integrityFlush)
  else if batch.health.desyncCount ≠ self.desyncCount then
    (.error .desync, { self with desyncCount := batch.health.desyncCount }.integrityFlush)
  else if self.sourceEpoch ≠ some batch.sourceEpoch then
    if self.sourceEpoch.isSome ∨ batch.heldAfterLast ≠ .neutral then
      (.error .sourceChangedWhileHeld, self.adoptEpoch batch)
    else (self.adoptEpoch batch).acceptEvents batch
  else self.acceptEvents batch

/-! ### Focus -/

def setFocus (request : FocusRequest) : InputRouter :=
  if self.context.target ≠ request.target then
    { self with
      context := ⟨request.target, saturatingAdd self.context.generation 1⟩
      repeats := fun _ => none
      horizontalNeutralLock := false
      verticalNeutralLock := false
      policy := request.directionalPolicy }
  else { self with policy := request.directionalPolicy }

def actionHeldInContext (action : LogicalAction) (context : ContextId) : Bool :=
  self.captures.entries.any fun e => e.2.context = context ∧ e.2.action = action

def actionHeld (action : LogicalAction) : Bool :=
  if (action = .left ∨ action = .right) ∧ self.horizontalNeutralLock then false
  else if (action = .up ∨ action = .down) ∧ self.verticalNeutralLock then false
  else self.actionHeldInContext action self.context

/-! ### Presses -/

def opposingDirectionLocked (action : LogicalAction) : Bool × InputRouter :=
  match opposite action with
  | none => (false, self)
  | some other =>
      let pairHeld := self.actionHeldInContext other self.context
      match action with
      | .left | .right =>
          let lock := self.horizontalNeutralLock || pairHeld
          (lock, { self with horizontalNeutralLock := lock })
      | .up | .down =>
          let lock := self.verticalNeutralLock || pairHeld
          (lock, { self with verticalNeutralLock := lock })
      | _ => (false, self)

def removeRepeat (action : LogicalAction) : InputRouter :=
  { self with repeats := Function.update self.repeats action none }

def armRepeat (event : InputEvent) (context : ContextId) (now : Nat) : InputRouter :=
  if self.policy = .menuRepeat ∧ isDirection event.action then
    { self with
      repeats := Function.update self.repeats event.action
        (some ⟨event, context, now + MENU_REPEAT_DELAY⟩) }
  else self

def insertCapture (event : InputEvent) (context : ContextId) : InputRouter :=
  { self with captures := self.captures.insert (.of event) ⟨context, event.action⟩ }

/-- `route_pressed` once the neutral lock lets the press through. -/
def deliverPress (event : InputEvent) (context : ContextId) (now : Nat) :
    InputOutcome × InputRouter :=
  match context.target.kind with
  | .disabled => (.consumed event.pressId .inputDisabled, self)
  | .screensaver => (.wakeScreensaver event context, self)
  | .transition => (.consumed event.pressId .transitionActive, self)
  | _ => (.dispatch event context .initial, self.armRepeat event context now)

def routePressed (event : InputEvent) (context : ContextId) (now : Nat) :
    InputOutcome × InputRouter :=
  if (self.captures.lookup (.of event)).isSome then
    (.consumed event.pressId .integrityFault, self)
  else
    let self := self.insertCapture event context
    let (locked, self) := self.opposingDirectionLocked event.action
    if locked then
      let self := self.removeRepeat event.action
      let self := match opposite event.action with
        | some other => self.removeRepeat other
        | none => self
      (.consumed event.pressId .opposingDirections, self)
    else self.deliverPress event context now

/-! ### Releases -/

def updateNeutralLocks (context : ContextId) : InputRouter :=
  if context ≠ self.context then self
  else
    let self :=
      if !self.actionHeldInContext .left context && !self.actionHeldInContext .right context then
        { self with horizontalNeutralLock := false }
      else self
    if !self.actionHeldInContext .up context && !self.actionHeldInContext .down context then
      { self with verticalNeutralLock := false }
    else self

def removeCapture (event : InputEvent) : InputRouter :=
  { self with captures := self.captures.erase (.of event) }

def routeReleased (event : InputEvent) : InputOutcome × InputRouter :=
  match self.captures.lookup (.of event) with
  | none => (.consumed event.pressId .staleRelease, self)
  | some capture =>
      let self := self.removeCapture event
      let self :=
        if self.actionHeldInContext event.action capture.context then self
        else self.removeRepeat event.action
      (.released event event.pressId capture.context, self.updateNeutralLocks capture.context)

def routeEvent (event : InputEvent) (request : FocusRequest) (now : Nat) :
    InputOutcome × InputRouter :=
  let self := self.setFocus request
  match event.phase with
  | .pressed => self.routePressed event self.context now
  | .released => self.routeReleased event

/-! ### Repeats -/

/-- The loop of `tick_repeat`, from an action on. -/
def tickRepeatFrom (now : Nat) : List LogicalAction → Option InputOutcome × InputRouter
  | [] => (none, self)
  | action :: actions =>
      match self.repeats action with
      | none => tickRepeatFrom now actions
      | some state =>
          if state.context ≠ self.context ∨ now < state.nextAt then tickRepeatFrom now actions
          else
            (some (.dispatch state.event state.context .repeat),
              { self with
                repeats := Function.update self.repeats action
                  (some { state with nextAt := now + MENU_REPEAT_INTERVAL }) })

def tickRepeat (now : Nat) : Option InputOutcome × InputRouter :=
  self.tickRepeatFrom now LogicalAction.ALL

/-! ### The rest of a batch -/

/-- What `consume_remaining_batch` does to one event. -/
def consumeEvent (event : InputEvent) : InputRouter :=
  match event.phase with
  | .pressed => self.insertCapture event self.context
  | .released =>
      let context := ((self.captures.lookup (.of event)).map (·.context)).getD self.context
      (self.removeCapture event).updateNeutralLocks context

def consumeRemainingBatch (events : List InputEvent) (reason : ConsumedReason) :
    List InputOutcome × InputRouter :=
  (events.map fun event => .consumed event.pressId reason, events.foldl consumeEvent self)

end InputRouter

end MisterMagik.Input
