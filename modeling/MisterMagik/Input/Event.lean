/-
  File:      MisterMagik/Input/Event.lean
  Subject:   Input events and batches (`magik-core`: `input_event.rs`).

  A batch carries the events since the last one, the numbers of the first and the last of them, and
  the actions held after the last. `validate_from` replays the events on a held state.

  * `replay` -- the held state after a list of events, if they are edges;
  * `InputBatch.validateFrom_ok` -- what a valid batch is;
  * `Alternates` -- the edges of one action, pressed first;
  * `replay_phases` -- a replay is one list of edges for every action.
-/
import Mathlib.Algebra.Group.Nat.Defs
import Mathlib.Data.List.Basic
import Mathlib.Data.List.Chain

namespace MisterMagik.Input

/-! ## 1. Counters -/

/-- `u64::saturating_add`. -/
def saturatingAdd (a : UInt64) (n : Nat) : UInt64 :=
  if a.toNat + n < 2 ^ 64 then UInt64.ofNat (a.toNat + n) else 0xffffffffffffffff

/-- `u64::saturating_sub`. -/
def saturatingSub (a b : UInt64) : UInt64 := if b ≤ a then a - b else 0

theorem toNat_saturatingAdd (a : UInt64) (n : Nat) :
    (saturatingAdd a n).toNat = min (a.toNat + n) (2 ^ 64 - 1) := by
  unfold saturatingAdd
  split
  · rename_i h
    rw [UInt64.toNat_ofNat_of_lt' h, Nat.min_eq_left (by omega)]
  · rename_i h
    rw [Nat.min_eq_right (by omega)]
    rfl

/-- Two additions are one. -/
theorem saturatingAdd_saturatingAdd (a : UInt64) (m n : Nat) :
    saturatingAdd (saturatingAdd a m) n = saturatingAdd a (m + n) := by
  apply UInt64.toNat_inj.mp
  rw [toNat_saturatingAdd, toNat_saturatingAdd, toNat_saturatingAdd]
  omega

theorem toNat_saturatingSub (a b : UInt64) : (saturatingSub a b).toNat = a.toNat - b.toNat := by
  unfold saturatingSub
  split
  · rename_i h
    exact UInt64.toNat_sub_of_le _ _ h
  · rename_i h
    have h := UInt64.not_le.mp h
    rw [Nat.sub_eq_zero_of_le (Nat.le_of_lt (UInt64.lt_iff_toNat_lt.mp h))]
    rfl

/-- `u64::MAX`. -/
def u64Max : UInt64 := 0xffffffffffffffff

theorem toNat_le_u64Max (a : UInt64) : a.toNat ≤ 2 ^ 64 - 1 := Nat.le_sub_one_of_lt a.toNat_lt

/-! ## 2. Events -/

inductive LogicalAction where
  | up | down | left | right | activate | back | home | x | y | l | r | select | start
  deriving DecidableEq, Repr

namespace LogicalAction

def ALL : List LogicalAction :=
  [up, down, left, right, activate, back, home, x, y, l, r, select, start]

/-- Its place in the array of a `HeldState`. -/
def index : LogicalAction → Fin 13
  | up => 0 | down => 1 | left => 2 | right => 3 | activate => 4 | back => 5 | home => 6
  | x => 7 | y => 8 | l => 9 | r => 10 | select => 11 | start => 12

theorem index_injective {a b : LogicalAction} (h : a.index = b.index) : a = b := by
  revert h
  cases a <;> cases b <;> decide

end LogicalAction

inductive InputPhase where
  | pressed
  | released
  deriving DecidableEq, Repr

abbrev PressId := UInt64

abbrev SourceEpoch := UInt64

inductive InputSourceKind where
  | mainProxy | rawDevice | setupKeyboard | ui | automation | preview
  deriving DecidableEq, Repr

structure InputSourceId where
  kind : InputSourceKind
  instanceId : UInt64
  deriving DecidableEq, Repr

structure PendingInputEvent where
  source : InputSourceId
  sourceEpoch : SourceEpoch
  pressId : PressId
  capturedAtUs : UInt64
  action : LogicalAction
  phase : InputPhase
  deriving DecidableEq, Repr

structure InputEvent extends PendingInputEvent where
  sequence : UInt64
  deriving DecidableEq, Repr

def PendingInputEvent.withSequence (self : PendingInputEvent) (sequence : UInt64) : InputEvent :=
  { self with sequence }

/-! ## 3. Held actions -/

structure HeldState where
  actions : Vector Bool 13
  deriving DecidableEq, Repr

inductive InputReductionError where
  | duplicatePress (source : InputSourceId) (action : LogicalAction)
  | unmatchedRelease (source : InputSourceId) (action : LogicalAction)
  | sequenceGap (expected actual : UInt64)
  | invalidWatermark
  | heldStateMismatch
  deriving DecidableEq, Repr

namespace HeldState

/-- `HeldState::default`: nothing is held. -/
def neutral : HeldState := ⟨.replicate 13 false⟩

def isHeld (self : HeldState) (action : LogicalAction) : Bool := self.actions[action.index]

def setHeld (self : HeldState) (action : LogicalAction) (held : Bool) : HeldState :=
  ⟨self.actions.set action.index held⟩

def applyEvent (self : HeldState) (event : InputEvent) : Except InputReductionError HeldState :=
  match event.phase with
  | .pressed =>
      if self.isHeld event.action then .error (.duplicatePress event.source event.action)
      else .ok (self.setHeld event.action true)
  | .released =>
      if self.isHeld event.action then .ok (self.setHeld event.action false)
      else .error (.unmatchedRelease event.source event.action)

@[simp] theorem isHeld_neutral (a : LogicalAction) : neutral.isHeld a = false := by
  cases a <;> rfl

theorem isHeld_setHeld (self : HeldState) (a b : LogicalAction) (held : Bool) :
    (self.setHeld a held).isHeld b = if a = b then held else self.isHeld b := by
  unfold setHeld isHeld
  by_cases h : a = b
  · subst h
    simp
  · have hne : (a.index : Nat) ≠ b.index := fun e =>
      h (LogicalAction.index_injective (Fin.ext e))
    simp [h, hne]

/-- An event is applied when it changes its action. -/
theorem applyEvent_ok_iff {self held : HeldState} {event : InputEvent} :
    self.applyEvent event = .ok held ↔
      self.isHeld event.action = !decide (event.phase = .pressed) ∧
        held = self.setHeld event.action (decide (event.phase = .pressed)) := by
  unfold applyEvent
  cases hp : event.phase <;> cases hh : self.isHeld event.action <;> simp [eq_comm]

end HeldState

/-- The held state after the events, each of them an edge. -/
def replay (held : HeldState) : List InputEvent → Except InputReductionError HeldState
  | [] => .ok held
  | event :: events =>
      match held.applyEvent event with
      | .ok held => replay held events
      | .error e => .error e

theorem replay_append {held held' : HeldState} {xs : List InputEvent} (ys : List InputEvent)
    (h : replay held xs = .ok held') : replay held (xs ++ ys) = replay held' ys := by
  induction xs generalizing held with
  | nil =>
      cases h
      rfl
  | cons x xs ih =>
      rw [List.cons_append, replay]
      rw [replay] at h
      cases hx : held.applyEvent x with
      | error e =>
          rw [hx] at h
          cases h
      | ok next =>
          rw [hx] at h
          exact ih h

/-! ## 4. Batches -/

inductive InputProtocolHealth where
  | proxyV2
  | unhealthy
  deriving DecidableEq, Repr

structure InputHealth where
  protocol : InputProtocolHealth
  queueDepth : Nat
  queueHighWater : Nat
  overflowCount : UInt64
  desyncCount : UInt64
  proxyGeneration : UInt64
  deriving DecidableEq, Repr

/-- `InputHealth::default`. -/
def InputHealth.initial : InputHealth := ⟨.unhealthy, 0, 0, 0, 0, 0⟩

structure DeviceInstanceId where
  plugId : String
  generation : UInt64
  deriving DecidableEq, Repr

structure InputTopology where
  devices : List DeviceInstanceId
  revision : UInt64
  deriving DecidableEq, Repr

structure InputBatch where
  sourceEpoch : SourceEpoch
  firstSequence : Option UInt64
  lastSequence : Option UInt64
  events : List InputEvent
  heldAfterLast : HeldState
  topology : InputTopology
  health : InputHealth
  deriving DecidableEq, Repr

/-- One turn of the loop of `validate_from`, the events from the one at `offset` on. -/
def InputBatch.validateEvents (self : InputBatch) (held : HeldState) (offset : Nat) :
    List InputEvent → Except InputReductionError HeldState
  | [] => .ok held
  | event :: events =>
      let expected := saturatingAdd (self.firstSequence.getD 0) offset
      if event.sequence ≠ expected then .error (.sequenceGap expected event.sequence)
      else
        match held.applyEvent event with
        | .ok held => self.validateEvents held (offset + 1) events
        | .error e => .error e

def InputBatch.validateFrom (self : InputBatch) (held : HeldState) :
    Except InputReductionError HeldState :=
  if self.events.head?.map (·.sequence) ≠ self.firstSequence ∨
      self.events.getLast?.map (·.sequence) ≠ self.lastSequence then
    .error .invalidWatermark
  else
    match self.validateEvents held 0 self.events with
    | .ok held => if held ≠ self.heldAfterLast then .error .heldStateMismatch else .ok held
    | .error e => .error e

/-! ## 5. Streams -/

/-- Every number follows the one before it; the last number there is follows itself. -/
def Successive (events : List InputEvent) : Prop :=
  events.IsChain fun a b => b.sequence = saturatingAdd a.sequence 1

instance (events : List InputEvent) : Decidable (Successive events) :=
  inferInstanceAs (Decidable (List.IsChain _ _))

theorem successive_cons {event : InputEvent} {events : List InputEvent} :
    Successive (event :: events) ↔
      (∀ e ∈ events.head?, e.sequence = saturatingAdd event.sequence 1) ∧ Successive events :=
  List.isChain_cons

/-- The phases of one action, each of them a change. -/
def Alternates : Bool → List InputPhase → Prop
  | _, [] => True
  | held, phase :: phases =>
      phase = (if held then .released else .pressed) ∧ Alternates (!held) phases

instance : (held : Bool) → (phases : List InputPhase) → Decidable (Alternates held phases)
  | _, [] => inferInstanceAs (Decidable True)
  | held, _ :: phases =>
      have := instDecidableAlternates (!held) phases
      inferInstanceAs (Decidable (_ ∧ _))

/-- The phases of an action in a stream. -/
def phasesOf (action : LogicalAction) (events : List InputEvent) : List InputPhase :=
  (events.filter (·.action = action)).map (·.phase)

/-- Whether it is held after its last phase. -/
def heldAfter (held : Bool) (phases : List InputPhase) : Bool :=
  match phases.getLast? with
  | none => held
  | some phase => phase = .pressed

theorem heldAfter_cons (held : Bool) (phase : InputPhase) (phases : List InputPhase) :
    heldAfter held (phase :: phases) = heldAfter (phase = .pressed) phases := by
  unfold heldAfter
  cases phases with
  | nil => rfl
  | cons p ps => rw [List.getLast?_cons_cons, List.getLast?_eq_some_getLast (List.cons_ne_nil p ps)]

/-- **A replay is a list of edges for every action**, and ends in what the last of them says. -/
theorem replay_phases {held held' : HeldState} {events : List InputEvent}
    (h : replay held events = .ok held') (action : LogicalAction) :
    Alternates (held.isHeld action) (phasesOf action events) ∧
      held'.isHeld action = heldAfter (held.isHeld action) (phasesOf action events) := by
  induction events generalizing held with
  | nil =>
      cases h
      exact ⟨trivial, rfl⟩
  | cons event events ih =>
      rw [replay] at h
      cases hx : held.applyEvent event with
      | error e =>
          rw [hx] at h
          cases h
      | ok next =>
          rw [hx] at h
          obtain ⟨h1, h2⟩ := ih h
          obtain ⟨hheld, rfl⟩ := HeldState.applyEvent_ok_iff.mp hx
          rw [HeldState.isHeld_setHeld] at h1 h2
          by_cases ha : event.action = action
          · subst ha
            have hcons : phasesOf event.action (event :: events) =
                event.phase :: phasesOf event.action events := by simp [phasesOf]
            rw [if_pos rfl] at h1 h2
            rw [hcons, heldAfter_cons, hheld]
            refine ⟨⟨?_, ?_⟩, h2⟩
            · cases event.phase <;> rfl
            · rwa [Bool.not_not]
          · have hskip : phasesOf action (event :: events) = phasesOf action events := by
              simp [phasesOf, ha]
            rw [if_neg ha] at h1 h2
            rw [hskip]
            exact ⟨h1, h2⟩

/-- What a valid batch is. -/
structure InputBatch.Valid (batch : InputBatch) (held : HeldState) : Prop where
  first : batch.firstSequence = batch.events.head?.map (·.sequence)
  last : batch.lastSequence = batch.events.getLast?.map (·.sequence)
  successive : Successive batch.events
  replay : Input.replay held batch.events = .ok batch.heldAfterLast

theorem InputBatch.validateEvents_ok_iff {self : InputBatch} {held held' : HeldState}
    {offset : Nat} {events : List InputEvent} :
    self.validateEvents held offset events = .ok held' ↔
      (∀ e ∈ events.head?, e.sequence = saturatingAdd (self.firstSequence.getD 0) offset) ∧
        Successive events ∧ Input.replay held events = .ok held' := by
  induction events generalizing held offset with
  | nil => exact ⟨fun h => ⟨by simp, .nil, h⟩, fun h => h.2.2⟩
  | cons event events ih =>
      rw [validateEvents, Input.replay]
      by_cases hseq : event.sequence = saturatingAdd (self.firstSequence.getD 0) offset
      · rw [if_neg (not_not.mpr hseq)]
        have hnext : ∀ e : InputEvent,
            e.sequence = saturatingAdd (self.firstSequence.getD 0) (offset + 1) ↔
              e.sequence = saturatingAdd event.sequence 1 := by
          intro e
          rw [hseq, saturatingAdd_saturatingAdd]
        cases hx : held.applyEvent event with
        | error e => simp
        | ok next =>
            have hhead : ∀ e ∈ (event :: events).head?,
                e.sequence = saturatingAdd (self.firstSequence.getD 0) offset := by simpa using hseq
            rw [ih, successive_cons, and_iff_right hhead, and_assoc]
            simp only [hnext]
      · rw [if_pos hseq]
        simp [hseq]

theorem InputBatch.validateFrom_ok {self : InputBatch} {held held' : HeldState}
    (h : self.validateFrom held = .ok held') : self.Valid held := by
  unfold validateFrom at h
  split at h
  · cases h
  · rename_i hmark
    rw [not_or, Decidable.not_not, Decidable.not_not] at hmark
    cases hv : self.validateEvents held 0 self.events with
    | error e =>
        rw [hv] at h
        cases h
    | ok last =>
        rw [hv] at h
        obtain ⟨-, hsucc, hreplay⟩ := validateEvents_ok_iff.mp hv
        by_cases hl : last = self.heldAfterLast
        · exact ⟨hmark.1.symm, hmark.2.symm, hsucc, hl ▸ hreplay⟩
        · simp [hl] at h

theorem InputBatch.Valid.validateFrom {batch : InputBatch} {held : HeldState}
    (h : batch.Valid held) : batch.validateFrom held = .ok batch.heldAfterLast := by
  have hmark : ¬ (batch.events.head?.map (·.sequence) ≠ batch.firstSequence ∨
      batch.events.getLast?.map (·.sequence) ≠ batch.lastSequence) :=
    not_or.mpr ⟨not_not.mpr h.first.symm, not_not.mpr h.last.symm⟩
  have hfirst : ∀ e ∈ batch.events.head?,
      e.sequence = saturatingAdd (batch.firstSequence.getD 0) 0 := by
    intro e he
    rw [h.first, Option.mem_def.mp he]
    apply UInt64.toNat_inj.mp
    have hle := toNat_le_u64Max e.sequence
    rw [toNat_saturatingAdd]
    show e.sequence.toNat = min (e.sequence.toNat + 0) _
    omega
  have hv := InputBatch.validateEvents_ok_iff.mpr ⟨hfirst, h.successive, h.replay⟩
  unfold InputBatch.validateFrom
  rw [if_neg hmark, hv]
  simp

end MisterMagik.Input
