/-
  File:      MisterMagik/Input/Reducer.lean
  Subject:   The merging of input sources (`magik-core`: `input_event.rs`, `LogicalEventReducer`).

  Several sources may hold one action. The first press of an action is emitted and the last release;
  what the other sources do is accepted without an event. The reducer keeps a table of the sources
  that hold an action and a table of the presses that were emitted and not ended.

  * `Turn`, `transition_turn` -- what one call does, one constructor for each return;
  * `Session` -- the reducer with the calls it accepted and the events it emitted;
  * `Merged` -- what the two tables say of these, kept by every admissible call (`Merged.call`);
  * **`merged_sources`** -- over every run of admissible calls: alternating events, matching
    releases, fresh press ids, and a press outstanding exactly while a source holds the action.

  A release with another epoch than its press is rejected after its source was removed, and the
  press ids stay at `u64::MAX`: `Admissible` leaves out these two.
-/
import MisterMagik.Base.Machine
import MisterMagik.Base.Table
import MisterMagik.Input.Event

namespace MisterMagik.Input

open Base (Table Machine)

/-! ## 1. The reducer -/

/-- A key of `active_sources`. -/
structure SourceKey where
  source : InputSourceId
  action : LogicalAction
  deriving DecidableEq, Repr

structure SourcePress where
  epoch : SourceEpoch
  deriving DecidableEq, Repr

structure ActionPress where
  pressId : PressId
  source : InputSourceId
  sourceEpoch : SourceEpoch
  deriving DecidableEq, Repr

structure LogicalEventReducer where
  activeSources : Table SourceKey SourcePress
  activeActions : Table LogicalAction ActionPress
  nextPressId : UInt64

/-- The arguments of a call of `transition`. -/
structure TransitionCall where
  source : InputSourceId
  sourceEpoch : SourceEpoch
  action : LogicalAction
  phase : InputPhase
  capturedAtUs : UInt64
  deriving DecidableEq, Repr

abbrev TransitionResult := Except InputReductionError (Option PendingInputEvent)

def TransitionCall.key (call : TransitionCall) : SourceKey := ⟨call.source, call.action⟩

namespace LogicalEventReducer

/-- `LogicalEventReducer::default`. -/
def initial : LogicalEventReducer := ⟨∅, ∅, 0⟩

/-- The branch of `transition` for `InputPhase::Pressed`. -/
def press (self : LogicalEventReducer) (call : TransitionCall) :
    TransitionResult × LogicalEventReducer :=
  if call.key ∈ self.activeSources then (.error (.duplicatePress call.source call.action), self)
  else
    let activeSources := self.activeSources.insert call.key ⟨call.sourceEpoch⟩
    if call.action ∈ self.activeActions then (.ok none, { self with activeSources })
    else
      let nextPressId := max (saturatingAdd self.nextPressId 1) 1
      let activeActions := self.activeActions.insert call.action
        ⟨nextPressId, call.source, call.sourceEpoch⟩
      (.ok (some ⟨call.source, call.sourceEpoch, nextPressId, call.capturedAtUs, call.action,
        call.phase⟩), ⟨activeSources, activeActions, nextPressId⟩)

/-- The branch of `transition` for `InputPhase::Released`. -/
def release (self : LogicalEventReducer) (call : TransitionCall) :
    TransitionResult × LogicalEventReducer :=
  match self.activeSources.lookup call.key with
  | none => (.error (.unmatchedRelease call.source call.action), self)
  | some sourcePress =>
      let self := { self with activeSources := self.activeSources.erase call.key }
      -- the source is gone already
      if sourcePress.epoch ≠ call.sourceEpoch then
        (.error (.unmatchedRelease call.source call.action), self)
      else if self.activeSources.keys.any fun key => key.action = call.action then (.ok none, self)
      else
        match self.activeActions.lookup call.action with
        | none => (.error (.unmatchedRelease call.source call.action), self)
        | some actionPress =>
            (.ok (some ⟨actionPress.source, actionPress.sourceEpoch, actionPress.pressId,
              call.capturedAtUs, call.action, call.phase⟩),
              { self with activeActions := self.activeActions.erase call.action })

def transition (self : LogicalEventReducer) (call : TransitionCall) :
    TransitionResult × LogicalEventReducer :=
  match call.phase with
  | .pressed => self.press call
  | .released => self.release call

/-! ## 2. What a call does -/

/-- The id of the next press. -/
def freshId (self : LogicalEventReducer) : PressId := max (saturatingAdd self.nextPressId 1) 1

/-- The returns of `transition`, with what each of them found and leaves. -/
inductive Turn (self : LogicalEventReducer) (call : TransitionCall) :
    TransitionResult → LogicalEventReducer → Prop where
  | duplicate (hp : call.phase = .pressed) (hin : call.key ∈ self.activeSources) :
      Turn self call (.error (.duplicatePress call.source call.action)) self
  | joined (hp : call.phase = .pressed) (hout : call.key ∉ self.activeSources)
      (hact : call.action ∈ self.activeActions) :
      Turn self call (.ok none)
        { self with activeSources := self.activeSources.insert call.key ⟨call.sourceEpoch⟩ }
  | started (hp : call.phase = .pressed) (hout : call.key ∉ self.activeSources)
      (hact : call.action ∉ self.activeActions) :
      Turn self call
        (.ok (some ⟨call.source, call.sourceEpoch, self.freshId, call.capturedAtUs, call.action,
          .pressed⟩))
        ⟨self.activeSources.insert call.key ⟨call.sourceEpoch⟩,
          self.activeActions.insert call.action ⟨self.freshId, call.source, call.sourceEpoch⟩,
          self.freshId⟩
  | unmatched (hp : call.phase = .released) (hout : self.activeSources.lookup call.key = none) :
      Turn self call (.error (.unmatchedRelease call.source call.action)) self
  | stale {press : SourcePress} (hp : call.phase = .released)
      (hin : self.activeSources.lookup call.key = some press)
      (hne : press.epoch ≠ call.sourceEpoch) :
      Turn self call (.error (.unmatchedRelease call.source call.action))
        { self with activeSources := self.activeSources.erase call.key }
  | left {press : SourcePress} (hp : call.phase = .released)
      (hin : self.activeSources.lookup call.key = some press) (he : press.epoch = call.sourceEpoch)
      (hother : ∃ key ∈ self.activeSources.erase call.key, key.action = call.action) :
      Turn self call (.ok none)
        { self with activeSources := self.activeSources.erase call.key }
  | orphan {press : SourcePress} (hp : call.phase = .released)
      (hin : self.activeSources.lookup call.key = some press) (he : press.epoch = call.sourceEpoch)
      (hlast : ¬ ∃ key ∈ self.activeSources.erase call.key, key.action = call.action)
      (hact : self.activeActions.lookup call.action = none) :
      Turn self call (.error (.unmatchedRelease call.source call.action))
        { self with activeSources := self.activeSources.erase call.key }
  | ended {press : SourcePress} {actionPress : ActionPress} (hp : call.phase = .released)
      (hin : self.activeSources.lookup call.key = some press) (he : press.epoch = call.sourceEpoch)
      (hlast : ¬ ∃ key ∈ self.activeSources.erase call.key, key.action = call.action)
      (hact : self.activeActions.lookup call.action = some actionPress) :
      Turn self call
        (.ok (some ⟨actionPress.source, actionPress.sourceEpoch, actionPress.pressId,
          call.capturedAtUs, call.action, .released⟩))
        { self with
          activeSources := self.activeSources.erase call.key
          activeActions := self.activeActions.erase call.action }

theorem press_turn {self : LogicalEventReducer} {call : TransitionCall}
    (hp : call.phase = .pressed) : Turn self call (self.press call).1 (self.press call).2 := by
  unfold press
  by_cases hin : call.key ∈ self.activeSources
  · rw [if_pos hin]
    exact .duplicate hp hin
  · rw [if_neg hin]
    by_cases hact : call.action ∈ self.activeActions
    · simp only [if_pos hact]
      exact .joined hp hin hact
    · simp only [if_neg hact, hp]
      exact .started hp hin hact

theorem release_turn {self : LogicalEventReducer} {call : TransitionCall}
    (hp : call.phase = .released) : Turn self call (self.release call).1 (self.release call).2 := by
  unfold release
  cases hin : self.activeSources.lookup call.key with
  | none => exact .unmatched hp hin
  | some press =>
      by_cases he : press.epoch = call.sourceEpoch
      · have hany : ((self.activeSources.erase call.key).keys.any
              fun key => decide (key.action = call.action)) = true ↔
            ∃ key ∈ self.activeSources.erase call.key, key.action = call.action := by
          simp only [List.any_eq_true, decide_eq_true_iff, AList.mem_keys]
        simp only [ne_eq, he, not_true, if_false]
        by_cases hother : ∃ key ∈ self.activeSources.erase call.key, key.action = call.action
        · rw [if_pos (hany.mpr hother)]
          exact .left hp hin he hother
        · rw [if_neg (fun h => hother (hany.mp h))]
          cases hact : self.activeActions.lookup call.action with
          | none => exact .orphan hp hin he hother hact
          | some actionPress =>
              simp only [hp]
              exact .ended hp hin he hother hact
      · simp only [ne_eq, he, not_false_eq_true, if_true]
        exact .stale hp hin he

/-- **Every call is one of the turns.** -/
theorem transition_turn (self : LogicalEventReducer) (call : TransitionCall) :
    Turn self call (self.transition call).1 (self.transition call).2 := by
  unfold transition
  cases hp : call.phase with
  | pressed => exact press_turn hp
  | released => exact release_turn hp

end LogicalEventReducer

/-! ## 3. Sessions -/

/-- The last of the entries that meet a condition. -/
def lastOf {E : Type} (p : E → Bool) (entries : List E) : Option E := (entries.filter p).getLast?

theorem lastOf_concat {E : Type} (p : E → Bool) (entries : List E) (e : E) :
    lastOf p (entries ++ [e]) = if p e then some e else lastOf p entries := by
  unfold lastOf
  rw [List.filter_append]
  by_cases h : p e = true
  · rw [if_pos h, List.filter_cons_of_pos h, List.filter_nil, List.getLast?_concat]
  · rw [if_neg h, List.filter_cons_of_neg h, List.filter_nil, List.append_nil]

/-- A reducer with the calls it accepted and the events it emitted, the earliest first. -/
structure Session where
  reducer : LogicalEventReducer
  accepted : List TransitionCall
  emitted : List PendingInputEvent

namespace Session

def initial : Session := ⟨.initial, [], []⟩

/-- What a call adds to a session. -/
def answer (self : Session) (call : TransitionCall) :
    TransitionResult → LogicalEventReducer → Session
  | .error _, reducer => { self with reducer }
  | .ok event, reducer => ⟨reducer, self.accepted ++ [call], self.emitted ++ event.toList⟩

def call (self : Session) (call : TransitionCall) : Session :=
  self.answer call (self.reducer.transition call).1 (self.reducer.transition call).2

/-- The accepted press of a source that was not released by an accepted call. -/
def holding (self : Session) (source : InputSourceId) (action : LogicalAction) :
    Option TransitionCall :=
  (lastOf (fun call => call.source = source ∧ call.action = action) self.accepted).filter
    fun call => call.phase = .pressed

/-- The emitted press of an action that no emitted release ended. -/
def outstanding (self : Session) (action : LogicalAction) : Option PendingInputEvent :=
  (lastOf (fun event => event.action = action) self.emitted).filter fun event =>
    event.phase = .pressed

/-- The events of an action. -/
def eventsOf (self : Session) (action : LogicalAction) : List PendingInputEvent :=
  self.emitted.filter fun event => event.action = action

/-- The presses among the events. -/
def presses (self : Session) : List PendingInputEvent :=
  self.emitted.filter fun event => event.phase = .pressed

end Session

/-- A release carries what its press carries. -/
def Ends (press release : PendingInputEvent) : Prop :=
  release.phase = .released →
    press.pressId = release.pressId ∧ press.source = release.source ∧
      press.sourceEpoch = release.sourceEpoch

instance (press release : PendingInputEvent) : Decidable (Ends press release) :=
  inferInstanceAs (Decidable (_ → _))

/-- The events of a session that merged its sources. -/
structure Merged (s : Session) : Prop where
  alternate : ∀ action, Alternates false ((s.eventsOf action).map (·.phase))
  ends : ∀ action, (s.eventsOf action).IsChain Ends
  fresh : (s.presses.map (·.pressId)).Nodup
  outstanding_iff : ∀ action,
    (s.outstanding action).isSome ↔ ∃ source, (s.holding source action).isSome

/-- A release has the epoch of the press it ends, and a press finds a press id. -/
def Admissible (s : Session) (call : TransitionCall) : Prop :=
  (call.phase = .released → ∀ press ∈ s.reducer.activeSources.lookup call.key,
      press.epoch = call.sourceEpoch) ∧
    (call.phase = .pressed → call.key ∉ s.reducer.activeSources →
      call.action ∉ s.reducer.activeActions → s.reducer.nextPressId < u64Max)

instance (s : Session) (call : TransitionCall) : Decidable (Admissible s call) :=
  inferInstanceAs (Decidable ((_ → _) ∧ (_ → _)))

/-! ## 4. What an answer adds -/

namespace Session

variable {s : Session} {call : TransitionCall} {reducer : LogicalEventReducer}
  {event : PendingInputEvent} {source : InputSourceId} {action : LogicalAction}

theorem holding_ok_self (o : Option PendingInputEvent) :
    (s.answer call (.ok o) reducer).holding call.source call.action =
      (some call).filter fun call => call.phase = .pressed := by
  unfold holding answer
  rw [lastOf_concat, if_pos (by simp)]

theorem holding_ok_ne (o : Option PendingInputEvent) (h : call.key ≠ ⟨source, action⟩) :
    (s.answer call (.ok o) reducer).holding source action = s.holding source action := by
  have hne : ¬ (call.source = source ∧ call.action = action) := by
    rintro ⟨rfl, rfl⟩
    exact h rfl
  unfold holding answer
  rw [lastOf_concat, if_neg (by simpa using hne)]

theorem eventsOf_ok (o : Option PendingInputEvent) :
    (s.answer call (.ok o) reducer).eventsOf action =
      s.eventsOf action ++ o.toList.filter fun event => event.action = action :=
  List.filter_append ..

theorem eventsOf_none : (s.answer call (.ok none) reducer).eventsOf action = s.eventsOf action := by
  rw [eventsOf_ok, Option.toList_none, List.filter_nil, List.append_nil]

theorem eventsOf_some_self :
    (s.answer call (.ok (some event)) reducer).eventsOf event.action =
      s.eventsOf event.action ++ [event] := by
  rw [eventsOf_ok, Option.toList_some, List.filter_cons_of_pos (by simp), List.filter_nil]

theorem eventsOf_some_ne (h : event.action ≠ action) :
    (s.answer call (.ok (some event)) reducer).eventsOf action = s.eventsOf action := by
  rw [eventsOf_ok, Option.toList_some, List.filter_cons_of_neg (by simpa using h),
    List.filter_nil, List.append_nil]

theorem presses_none : (s.answer call (.ok none) reducer).presses = s.presses := by
  unfold presses answer
  exact congrArg _ (List.append_nil _)

theorem presses_some : (s.answer call (.ok (some event)) reducer).presses =
    s.presses ++ [event].filter fun event => event.phase = .pressed :=
  List.filter_append ..

theorem outstanding_eq :
    s.outstanding action = (s.eventsOf action).getLast?.filter fun event =>
      event.phase = .pressed := rfl

theorem outstanding_some_self :
    (s.answer call (.ok (some event)) reducer).outstanding event.action =
      (some event).filter fun event => event.phase = .pressed := by
  rw [outstanding_eq, eventsOf_some_self, List.getLast?_concat]

theorem outstanding_some_ne (h : event.action ≠ action) :
    (s.answer call (.ok (some event)) reducer).outstanding action = s.outstanding action := by
  rw [outstanding_eq, eventsOf_some_ne h, outstanding_eq]

/-- The phases of an action end held exactly while a press of it is outstanding. -/
theorem heldAfter_phases (action : LogicalAction) :
    heldAfter false ((s.eventsOf action).map (·.phase)) = (s.outstanding action).isSome := by
  rw [outstanding_eq, heldAfter, List.getLast?_map]
  cases (s.eventsOf action).getLast? with
  | none => rfl
  | some e => cases hp : e.phase <;> simp [hp]

end Session

theorem alternates_concat {held : Bool} {phases : List InputPhase} {phase : InputPhase} :
    Alternates held (phases ++ [phase]) ↔
      Alternates held phases ∧
        phase = if heldAfter held phases then .released else .pressed := by
  induction phases generalizing held with
  | nil => cases held <;> simp [Alternates, heldAfter]
  | cons p ps ih =>
      rw [List.cons_append, Alternates, Alternates, ih, heldAfter_cons, and_assoc]
      refine and_congr_right fun hp => ?_
      rw [show (!held) = decide (p = .pressed) by subst hp; cases held <;> rfl]

/-! ## 5. The tables of a session -/

/-- The two tables of the reducer say who holds what and which press is outstanding. -/
structure Tables (s : Session) : Prop where
  sources : ∀ source action, s.reducer.activeSources.lookup ⟨source, action⟩ =
    (s.holding source action).map fun call => ⟨call.sourceEpoch⟩
  actions : ∀ action, s.reducer.activeActions.lookup action =
    (s.outstanding action).map fun event => ⟨event.pressId, event.source, event.sourceEpoch⟩
  together : ∀ action, action ∈ s.reducer.activeActions ↔
    ∃ key ∈ s.reducer.activeSources, key.action = action
  bounded : ∀ press ∈ s.presses, press.pressId.toNat ≤ s.reducer.nextPressId.toNat

namespace Tables

variable {s : Session} {call : TransitionCall}

theorem initial : Tables .initial where
  sources _ _ := rfl
  actions _ := rfl
  together _ :=
    ⟨fun h => absurd h (AList.notMem_empty _), fun ⟨_, h, _⟩ => absurd h (AList.notMem_empty _)⟩
  bounded _ h := absurd h List.not_mem_nil

theorem outstanding_isSome (h : Tables s) (action : LogicalAction) :
    (s.outstanding action).isSome ↔ action ∈ s.reducer.activeActions := by
  rw [← AList.lookup_isSome, h.actions, Option.isSome_map]

theorem holding_isSome (h : Tables s) (source : InputSourceId) (action : LogicalAction) :
    (s.holding source action).isSome ↔ ⟨source, action⟩ ∈ s.reducer.activeSources := by
  rw [← AList.lookup_isSome, h.sources, Option.isSome_map]

/-- A press is outstanding exactly while a source holds its action. -/
theorem outstanding_iff (h : Tables s) (action : LogicalAction) :
    (s.outstanding action).isSome ↔ ∃ source, (s.holding source action).isSome := by
  rw [h.outstanding_isSome, h.together]
  constructor
  · rintro ⟨⟨source, _⟩, hkey, rfl⟩
    exact ⟨source, (h.holding_isSome _ _).mpr hkey⟩
  · rintro ⟨source, hs⟩
    exact ⟨_, (h.holding_isSome _ _).mp hs, rfl⟩

/-- The sources after an accepted press. -/
theorem sources_pressed (h : Tables s) (hp : call.phase = .pressed)
    (o : Option PendingInputEvent) {reducer : LogicalEventReducer}
    (hr : reducer.activeSources = s.reducer.activeSources.insert call.key ⟨call.sourceEpoch⟩)
    (source : InputSourceId) (action : LogicalAction) :
    reducer.activeSources.lookup ⟨source, action⟩ =
      ((s.answer call (.ok o) reducer).holding source action).map fun call =>
        ⟨call.sourceEpoch⟩ := by
  rw [hr]
  by_cases hk : call.key = ⟨source, action⟩
  · obtain ⟨rfl, rfl⟩ := SourceKey.mk.inj hk
    rw [Session.holding_ok_self, Option.filter_some_pos (by simpa using hp)]
    exact AList.lookup_insert _
  · rw [Session.holding_ok_ne _ hk, AList.lookup_insert_ne (Ne.symm hk), h.sources]

/-- The sources after an accepted release. -/
theorem sources_released (h : Tables s) (hp : call.phase = .released)
    (o : Option PendingInputEvent) {reducer : LogicalEventReducer}
    (hr : reducer.activeSources = s.reducer.activeSources.erase call.key)
    (source : InputSourceId) (action : LogicalAction) :
    reducer.activeSources.lookup ⟨source, action⟩ =
      ((s.answer call (.ok o) reducer).holding source action).map fun call =>
        ⟨call.sourceEpoch⟩ := by
  rw [hr]
  by_cases hk : call.key = ⟨source, action⟩
  · obtain ⟨rfl, rfl⟩ := SourceKey.mk.inj hk
    rw [Session.holding_ok_self, Option.filter_some_neg (by simp [hp])]
    exact AList.lookup_erase _ _
  · rw [Session.holding_ok_ne _ hk, AList.lookup_erase_ne (Ne.symm hk), h.sources]

/-! ## 6. What a call keeps -/

variable {press : SourcePress} {actionPress : ActionPress}

/-- A press of an action that another source holds. -/
theorem joined (h : Tables s) (hp : call.phase = .pressed)
    (hact : call.action ∈ s.reducer.activeActions) :
    Tables (s.answer call (.ok none) { s.reducer with
      activeSources := s.reducer.activeSources.insert call.key ⟨call.sourceEpoch⟩ }) where
  sources := h.sources_pressed hp none rfl
  actions action := by
    rw [Session.outstanding_eq, Session.eventsOf_none]
    exact h.actions action
  together action := by
    show action ∈ s.reducer.activeActions ↔ _
    simp only [Session.answer, AList.mem_insert]
    constructor
    · intro ha
      obtain ⟨key, hkey, rfl⟩ := (h.together action).mp ha
      exact ⟨key, .inr hkey, rfl⟩
    · rintro ⟨key, rfl | hkey, rfl⟩
      · exact hact
      · exact (h.together _).mpr ⟨key, hkey, rfl⟩
  bounded press hpress := by
    rw [Session.presses_none] at hpress
    exact h.bounded press hpress

/-- A release of an action that another source still holds. -/
theorem left (h : Tables s) (hp : call.phase = .released)
    (hother : ∃ key ∈ s.reducer.activeSources.erase call.key, key.action = call.action) :
    Tables (s.answer call (.ok none) { s.reducer with
      activeSources := s.reducer.activeSources.erase call.key }) where
  sources := h.sources_released hp none rfl
  actions action := by
    rw [Session.outstanding_eq, Session.eventsOf_none]
    exact h.actions action
  together action := by
    show action ∈ s.reducer.activeActions ↔ ∃ key ∈ s.reducer.activeSources.erase call.key, _
    constructor
    · intro ha
      obtain ⟨key, hkey, rfl⟩ := (h.together action).mp ha
      by_cases hk : key = call.key
      · subst hk
        exact hother
      · exact ⟨key, AList.mem_erase.mpr ⟨hk, hkey⟩, rfl⟩
    · rintro ⟨key, hkey, rfl⟩
      exact (h.together _).mpr ⟨key, (AList.mem_erase.mp hkey).2, rfl⟩
  bounded press hpress := by
    rw [Session.presses_none] at hpress
    exact h.bounded press hpress

/-- The first press of an action. -/
theorem started (h : Tables s) (hp : call.phase = .pressed)
    (hfresh : s.reducer.nextPressId.toNat < s.reducer.freshId.toNat) :
    Tables (s.answer call
      (.ok (some ⟨call.source, call.sourceEpoch, s.reducer.freshId, call.capturedAtUs, call.action,
        .pressed⟩))
      ⟨s.reducer.activeSources.insert call.key ⟨call.sourceEpoch⟩,
        s.reducer.activeActions.insert call.action
          ⟨s.reducer.freshId, call.source, call.sourceEpoch⟩,
        s.reducer.freshId⟩) where
  sources := h.sources_pressed hp _ rfl
  actions action := by
    show (s.reducer.activeActions.insert call.action _).lookup action = _
    by_cases ha : call.action = action
    · subst ha
      rw [AList.lookup_insert, Session.outstanding_some_self]
      rfl
    · rw [AList.lookup_insert_ne (Ne.symm ha), Session.outstanding_some_ne ha, h.actions]
  together action := by
    simp only [Session.answer, AList.mem_insert]
    constructor
    · rintro (rfl | ha)
      · exact ⟨call.key, .inl rfl, rfl⟩
      · obtain ⟨key, hkey, rfl⟩ := (h.together action).mp ha
        exact ⟨key, .inr hkey, rfl⟩
    · rintro ⟨key, rfl | hkey, rfl⟩
      · exact .inl rfl
      · exact .inr ((h.together _).mpr ⟨key, hkey, rfl⟩)
  bounded press hpress := by
    show press.pressId.toNat ≤ s.reducer.freshId.toNat
    rw [Session.presses_some, List.filter_cons_of_pos (by rfl), List.mem_append] at hpress
    obtain hold | hnew := hpress
    · exact Nat.le_of_lt (Nat.lt_of_le_of_lt (h.bounded press hold) hfresh)
    · rw [List.mem_singleton.mp hnew]

/-- The last release of an action. -/
theorem ended (h : Tables s) (hp : call.phase = .released)
    (hlast : ¬ ∃ key ∈ s.reducer.activeSources.erase call.key, key.action = call.action) :
    Tables (s.answer call
      (.ok (some ⟨actionPress.source, actionPress.sourceEpoch, actionPress.pressId,
        call.capturedAtUs, call.action, .released⟩))
      { s.reducer with
        activeSources := s.reducer.activeSources.erase call.key
        activeActions := s.reducer.activeActions.erase call.action }) where
  sources := h.sources_released hp _ rfl
  actions action := by
    show (s.reducer.activeActions.erase call.action).lookup action = _
    by_cases ha : call.action = action
    · subst ha
      rw [AList.lookup_erase, Session.outstanding_some_self]
      rfl
    · rw [AList.lookup_erase_ne (Ne.symm ha), Session.outstanding_some_ne ha, h.actions]
  together action := by
    show action ∈ s.reducer.activeActions.erase call.action ↔
      ∃ key ∈ s.reducer.activeSources.erase call.key, _
    rw [AList.mem_erase, h.together]
    constructor
    · rintro ⟨hne, key, hkey, rfl⟩
      refine ⟨key, AList.mem_erase.mpr ⟨?_, hkey⟩, rfl⟩
      rintro rfl
      exact hne rfl
    · rintro ⟨key, hkey, rfl⟩
      exact ⟨fun e => hlast ⟨key, hkey, e⟩, key, (AList.mem_erase.mp hkey).2, rfl⟩
  bounded press hpress := by
    rw [Session.presses_some, List.filter_cons_of_neg (by simp), List.filter_nil,
      List.append_nil] at hpress
    exact h.bounded press hpress

end Tables

/-! ## 7. Every run -/

theorem toNat_freshId {self : LogicalEventReducer} (h : self.nextPressId < u64Max) :
    self.freshId.toNat = self.nextPressId.toNat + 1 := by
  have hlt := UInt64.lt_iff_toNat_lt.mp h
  have hmax : u64Max.toNat = 2 ^ 64 - 1 := rfl
  have hnext : (saturatingAdd self.nextPressId 1).toNat = self.nextPressId.toNat + 1 := by
    rw [toNat_saturatingAdd]
    omega
  show (if saturatingAdd self.nextPressId 1 ≤ 1 then 1 else saturatingAdd self.nextPressId 1).toNat
    = self.nextPressId.toNat + 1
  split
  · rename_i hone
    rw [UInt64.le_iff_toNat_le, hnext] at hone
    have hone : self.nextPressId.toNat + 1 ≤ 1 := hone
    show 1 = self.nextPressId.toNat + 1
    omega
  · exact hnext

/-- What every admissible call keeps. -/
structure Invariant (s : Session) : Prop where
  tables : Tables s
  alternate : ∀ action, Alternates false ((s.eventsOf action).map (·.phase))
  ends : ∀ action, (s.eventsOf action).IsChain Ends
  fresh : (s.presses.map (·.pressId)).Nodup

namespace Invariant

variable {s : Session} {c : TransitionCall} {reducer : LogicalEventReducer}
  {event : PendingInputEvent}

theorem initial : Invariant .initial where
  tables := .initial
  alternate _ := trivial
  ends _ := .nil
  fresh := .nil

/-- A call without an event. -/
theorem silent (h : Invariant s) (ht : Tables (s.answer c (.ok none) reducer)) :
    Invariant (s.answer c (.ok none) reducer) where
  tables := ht
  alternate action := by
    rw [Session.eventsOf_none]
    exact h.alternate action
  ends action := by
    rw [Session.eventsOf_none]
    exact h.ends action
  fresh := by
    rw [Session.presses_none]
    exact h.fresh

/-- A call with an event that continues those of its action. -/
theorem emits (h : Invariant s) (ht : Tables (s.answer c (.ok (some event)) reducer))
    (hphase : event.phase =
      if (s.outstanding event.action).isSome then .released else .pressed)
    (hends : ∀ press ∈ s.outstanding event.action, Ends press event)
    (hfresh : event.phase = .pressed → ∀ press ∈ s.presses, press.pressId ≠ event.pressId) :
    Invariant (s.answer c (.ok (some event)) reducer) where
  tables := ht
  alternate action := by
    by_cases ha : event.action = action
    · subst ha
      rw [Session.eventsOf_some_self, List.map_append, List.map_singleton, alternates_concat,
        Session.heldAfter_phases]
      exact ⟨h.alternate _, hphase⟩
    · rw [Session.eventsOf_some_ne ha]
      exact h.alternate action
  ends action := by
    by_cases ha : event.action = action
    · subst ha
      rw [Session.eventsOf_some_self, List.isChain_append]
      refine ⟨h.ends _, .singleton _, fun last hlast first hfirst hrel => ?_⟩
      obtain rfl := Option.some.inj hfirst
      rw [hrel] at hphase
      have hout : (s.outstanding event.action).isSome := by
        by_contra hnot
        rw [if_neg hnot] at hphase
        cases hphase
      obtain ⟨press, hpress⟩ := Option.isSome_iff_exists.mp hout
      have hmem := hpress
      rw [Session.outstanding_eq, Option.filter_eq_some_iff] at hmem
      rw [Option.mem_def, hmem.1] at hlast
      obtain rfl := Option.some.inj hlast
      exact hends _ hpress hrel
    · rw [Session.eventsOf_some_ne ha]
      exact h.ends action
  fresh := by
    rw [Session.presses_some]
    cases hp : event.phase with
    | pressed =>
        rw [List.filter_cons_of_pos (by simpa using hp), List.filter_nil, List.map_append,
          List.nodup_append]
        refine ⟨h.fresh, List.nodup_singleton _, fun id hid last hlast => ?_⟩
        obtain ⟨press, hpress, rfl⟩ := List.mem_map.mp hid
        rw [List.mem_singleton.mp hlast]
        exact hfresh hp press hpress
    | released =>
        rw [List.filter_cons_of_neg (by simp [hp]), List.filter_nil, List.append_nil]
        exact h.fresh

/-- **The step.** An admissible call, whatever it returns, keeps the invariant. -/
theorem call (h : Invariant s) (hadm : Admissible s c) :
    Invariant (s.call c) := by
  have hturn := s.reducer.transition_turn c
  unfold Session.call
  generalize (s.reducer.transition c).1 = result at hturn ⊢
  generalize (s.reducer.transition c).2 = reducer at hturn ⊢
  cases hturn with
  | duplicate _ _ => exact h
  | unmatched _ _ => exact h
  | joined hp hout hact => exact h.silent (h.tables.joined hp hact)
  | left hp hin he hother => exact h.silent (h.tables.left hp hother)
  | stale hp hin hne => exact absurd (hadm.1 hp _ hin) hne
  | orphan hp hin he hlast hact =>
      -- the source that releases held the action, so a press of it is in the table
      have hmem := (h.tables.together c.action).mpr ⟨c.key, Table.mem_of_lookup hin, rfl⟩
      exact absurd hmem (AList.lookup_eq_none.mp hact)
  | started hp hout hact =>
      have hid := toNat_freshId (hadm.2 hp hout hact)
      have hnone : ¬ (s.outstanding c.action).isSome := fun hs =>
        hact ((h.tables.outstanding_isSome _).mp hs)
      refine h.emits (h.tables.started hp (by omega)) (by rw [if_neg hnone]) ?_ ?_
      · intro press hpress
        exact absurd (Option.isSome_of_mem hpress) hnone
      · intro _ press hpress he
        have hle := h.tables.bounded press hpress
        rw [he] at hle
        exact absurd hle (by simp only [hid]; omega)
  | ended hp hin he hlast hact =>
      have hout := h.tables.actions c.action
      rw [hact] at hout
      obtain ⟨press, hpress, hcarry⟩ := Option.map_eq_some_iff.mp hout.symm
      refine h.emits (h.tables.ended hp hlast) ?_ ?_ (fun h => by cases h)
      · rw [if_pos (Option.isSome_of_mem hpress)]
      · intro p hp' _
        obtain rfl := Option.some.inj (hpress.symm.trans hp')
        cases hcarry
        exact ⟨rfl, rfl, rfl⟩

theorem merged (h : Invariant s) : Merged s where
  alternate := h.alternate
  ends := h.ends
  fresh := h.fresh
  outstanding_iff := h.tables.outstanding_iff

end Invariant

/-- The sessions of a reducer, one call after the other. -/
def sessions : Machine Session TransitionCall := .ofNext (· = .initial) Session.call

/-- **The sources are merged.** In every run of admissible calls the events of each action
alternate, a release carries the id, source and epoch of its press, no press id comes twice, and a
press is outstanding exactly while a source holds its action. -/
theorem merged_sources {s : Session} {calls : List TransitionCall}
    (h : (sessions.guard Admissible).Run .initial calls s) : Merged s := by
  have hinv : Invariant s := h.invariant (P := Invariant)
    (fun s c t hs hstep => by
      obtain ⟨hadm, rfl⟩ := hstep
      exact hs.call hadm) .initial
  exact hinv.merged

/-! ## 8. Two sources of one action -/

def proxySource : InputSourceId := ⟨.mainProxy, 1⟩

def previewSource : InputSourceId := ⟨.preview, 2⟩

/-- Two sources hold `down`; the proxy presses it twice and its release comes first. -/
def mergedCalls : List TransitionCall := [
  ⟨proxySource, 1, .down, .pressed, 1⟩,
  ⟨previewSource, 1, .down, .pressed, 2⟩,
  ⟨proxySource, 1, .down, .pressed, 3⟩,
  ⟨proxySource, 1, .down, .released, 4⟩,
  ⟨previewSource, 1, .down, .released, 5⟩]

theorem merged_calls_merged : Merged (mergedCalls.foldl Session.call .initial) :=
  merged_sources (Machine.run_ofNext (by decide +kernel))

/-- The release of the proxy carries the epoch `2`, its press had the epoch `1`. -/
def staleCalls : List TransitionCall := [
  ⟨proxySource, 1, .down, .pressed, 1⟩,
  ⟨proxySource, 2, .down, .released, 2⟩,
  ⟨previewSource, 1, .down, .pressed, 3⟩,
  ⟨previewSource, 1, .down, .released, 4⟩]

/-- The rejected release leaves a press without a source in the tables, and the release of the other
source ends the press while the proxy, whose release was rejected, still holds `down`. -/
theorem stale_release_unmerges :
    let rejected := (staleCalls.take 2).foldl Session.call .initial
    let last := staleCalls.foldl Session.call .initial
    (LogicalAction.down ∈ rejected.reducer.activeActions ∧
        rejected.reducer.activeSources.keys = []) ∧
      (last.outstanding .down).isSome = false ∧
      (last.holding proxySource .down).isSome = true ∧
      ¬ ∀ calls s, sessions.Run .initial calls s → Merged s := by
  refine ⟨by decide +kernel, by decide +kernel, by decide +kernel, fun h => ?_⟩
  have hmerged := h staleCalls _ (Machine.run_foldl _ _)
  have hnone : ¬ ((staleCalls.foldl Session.call .initial).outstanding .down).isSome := by
    decide +kernel
  exact hnone ((hmerged.outstanding_iff .down).mpr ⟨proxySource, by decide +kernel⟩)

end MisterMagik.Input
