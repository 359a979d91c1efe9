/-
  File:      MisterMagik/Input/Gate.lean
  Subject:   What passes the input gate, whatever batches it is given.

  * `Passed` -- what an accepted batch is and leaves behind;
  * `acceptBatch_ok`, `requiresNeutral_of_error` -- the two outcomes;
  * `accepted_stream` -- batches accepted one after the other are one stream;
  * `gate_passes_clean_streams` -- between two faults the events are a clean stream of edges.
-/
import MisterMagik.Input.Router

namespace MisterMagik.Input

namespace InputRouter

variable {r r' : InputRouter} {b : InputBatch}

/-! ## 1. One batch -/

/-- What an accepted batch is and what it leaves behind. -/
structure Passed (r : InputRouter) (b : InputBatch) (r' : InputRouter) : Prop where
  gap : r.sequenceGap b = false
  valid : b.Valid r.validatedHeld
  barrier : r.requiresNeutral = true → b.heldAfterLast = .neutral ∧ b.events = []
  sourceEpoch : r'.sourceEpoch = r.sourceEpoch
  lastSequence : r'.lastSequence = b.lastSequence.or r.lastSequence
  validatedHeld : r'.validatedHeld = b.heldAfterLast
  requiresNeutral : r'.requiresNeutral = false

theorem acceptEvents_ok (h : r.acceptEvents b = (.ok (), r')) : Passed r b r' := by
  unfold acceptEvents at h
  split at h
  · cases h
  · rename_i hgap
    split at h
    · cases h
    · rename_i hvalid
      have hv := InputBatch.validateFrom_ok hvalid
      have hg : r.sequenceGap b = false := by simpa using hgap
      by_cases hn : r.requiresNeutral = true
      · by_cases hb : b.heldAfterLast ≠ .neutral ∨ b.events ≠ []
        · simp [hn, hb] at h
        · have hb' := not_or.mp hb
          simp only [hn, hb, if_true, if_false, Prod.mk.injEq, true_and] at h
          subst h
          exact ⟨hg, hv, fun _ => ⟨not_not.mp hb'.1, not_not.mp hb'.2⟩, rfl, rfl, rfl, rfl⟩
      · rw [if_neg hn] at h
        cases h
        exact ⟨hg, hv, fun h => absurd h hn, rfl, rfl, rfl, by simpa using hn⟩

/-- **What an accepted batch is.** Only the first source epoch of all is taken over without a
    fault. -/
theorem acceptBatch_ok (h : r.acceptBatch b = (.ok (), r')) :
    (r.sourceEpoch = some b.sourceEpoch ∧ Passed r b r') ∨
      (r.sourceEpoch = none ∧ b.heldAfterLast = .neutral ∧ Passed (r.adoptEpoch b) b r') := by
  unfold acceptBatch at h
  split at h
  · cases h
  · split at h
    · cases h
    · split at h
      · cases h
      · split at h
        · split at h
          · cases h
          · rename_i hfirst
            have hfirst' := not_or.mp hfirst
            exact .inr ⟨by simpa using hfirst'.1, not_not.mp hfirst'.2, acceptEvents_ok h⟩
        · rename_i hepoch
          exact .inl ⟨not_not.mp hepoch, acceptEvents_ok h⟩

theorem acceptEvents_error {f : InputFault} (h : r.acceptEvents b = (.error f, r')) :
    r'.requiresNeutral = true := by
  unfold acceptEvents at h
  split at h
  · cases h
    rfl
  · split at h
    · cases h
      rfl
    · by_cases hn : r.requiresNeutral = true
      · by_cases hb : b.heldAfterLast ≠ .neutral ∨ b.events ≠ []
        · simp only [hn, hb, if_true, Prod.mk.injEq] at h
          obtain ⟨-, rfl⟩ := h
          rfl
        · simp [hn, hb] at h
      · simp [hn] at h

/-- **A fault raises the barrier.** -/
theorem requiresNeutral_of_error {f : InputFault} (h : r.acceptBatch b = (.error f, r')) :
    r'.requiresNeutral = true := by
  unfold acceptBatch at h
  split at h
  · cases h
    rfl
  · split at h
    · cases h
      rfl
    · split at h
      · cases h
        rfl
      · split at h
        · split at h
          · cases h
            rfl
          · exact acceptEvents_error h
        · exact acceptEvents_error h

/-- Below the barrier the router knows its source. -/
def Opened (r : InputRouter) : Prop := r.requiresNeutral = false → r.sourceEpoch.isSome = true

theorem Opened.new (initial : FocusRequest) : (new initial).Opened := by
  intro h
  cases h

theorem opened_acceptBatch (r : InputRouter) (b : InputBatch) : (r.acceptBatch b).2.Opened := by
  rcases hr : r.acceptBatch b with ⟨_ | u, r'⟩
  · intro hn
    have ht := requiresNeutral_of_error hr
    rw [ht] at hn
    cases hn
  · intro _
    rcases acceptBatch_ok hr with ⟨he, hp⟩ | ⟨-, -, hp⟩
    · rw [hp.sourceEpoch, he]
      rfl
    · rw [hp.sourceEpoch]
      rfl

/-- Below the barrier an accepted batch goes on from where the router is. -/
theorem passed_of_open (ho : r.Opened) (hn : r.requiresNeutral = false)
    (h : r.acceptBatch b = (.ok (), r')) : Passed r b r' := by
  rcases acceptBatch_ok h with ⟨-, hp⟩ | ⟨he, -, -⟩
  · exact hp
  · have hs := ho hn
    rw [he] at hs
    cases hs

/-- Behind the barrier an accepted batch is neutral. -/
theorem neutral_of_barrier (hn : r.requiresNeutral = true) (h : r.acceptBatch b = (.ok (), r')) :
    b.heldAfterLast = .neutral ∧ b.events = [] ∧ r'.validatedHeld = .neutral ∧
      r'.requiresNeutral = false := by
  rcases acceptBatch_ok h with ⟨-, hp⟩ | ⟨-, -, hp⟩
  · obtain ⟨hh, he⟩ := hp.barrier hn
    exact ⟨hh, he, hp.validatedHeld.trans hh, hp.requiresNeutral⟩
  · obtain ⟨hh, he⟩ := hp.barrier rfl
    exact ⟨hh, he, hp.validatedHeld.trans hh, hp.requiresNeutral⟩

/-! ## 2. Batches one after the other -/

def acceptAll (r : InputRouter) (batches : List InputBatch) : InputRouter :=
  batches.foldl (fun r b => (r.acceptBatch b).2) r

/-- Every batch is accepted. -/
def AllAccepted : InputRouter → List InputBatch → Prop
  | _, [] => True
  | r, b :: batches => (r.acceptBatch b).1 = .ok () ∧ AllAccepted (r.acceptBatch b).2 batches

instance : (r : InputRouter) → (batches : List InputBatch) → Decidable (AllAccepted r batches)
  | _, [] => inferInstanceAs (Decidable True)
  | r, b :: batches =>
      have := instDecidableAllAccepted (r.acceptBatch b).2 batches
      inferInstanceAs (Decidable (_ ∧ _))

/-- The last batch, if there is one, raised a fault. -/
def EndsInFault (r : InputRouter) (batches : List InputBatch) : Prop :=
  ∀ b ∈ batches.getLast?, ((r.acceptAll batches.dropLast).acceptBatch b).1 ≠ .ok ()

instance (r : InputRouter) (batches : List InputBatch) : Decidable (EndsInFault r batches) :=
  inferInstanceAs (Decidable (∀ b ∈ batches.getLast?, _))

theorem Opened.acceptAll (h : r.Opened) (batches : List InputBatch) :
    (r.acceptAll batches).Opened := by
  induction batches generalizing r with
  | nil => exact h
  | cons b batches ih => exact ih (opened_acceptBatch r b)

theorem acceptAll_append (r : InputRouter) (xs ys : List InputBatch) :
    r.acceptAll (xs ++ ys) = (r.acceptAll xs).acceptAll ys := List.foldl_append

theorem requiresNeutral_of_endsInFault (hr : r.requiresNeutral = true) {batches : List InputBatch}
    (h : EndsInFault r batches) : (r.acceptAll batches).requiresNeutral = true := by
  rcases List.eq_nil_or_concat batches with rfl | ⟨bs, b, rfl⟩
  · exact hr
  · have hb := h b (by simp)
    rw [List.concat_eq_append, List.dropLast_concat] at hb
    rw [List.concat_eq_append, acceptAll_append]
    rcases hacc : (r.acceptAll bs).acceptBatch b with ⟨f | u, r'⟩
    · show ((r.acceptAll bs).acceptBatch b).2.requiresNeutral = true
      rw [hacc]
      exact requiresNeutral_of_error hacc
    · rw [hacc] at hb
      exact absurd rfl hb

/-- The events of all batches. -/
def eventsOf (batches : List InputBatch) : List InputEvent := batches.flatMap (·.events)

/-- The held state of the last batch. -/
def heldOf (batches : List InputBatch) (held : HeldState) : HeldState :=
  (batches.getLast?.map (·.heldAfterLast)).getD held

theorem heldOf_cons (b : InputBatch) (batches : List InputBatch) (held : HeldState) :
    heldOf (b :: batches) held = heldOf batches b.heldAfterLast := by
  unfold heldOf
  cases batches with
  | nil => rfl
  | cons c cs =>
      rw [List.getLast?_cons_cons, List.getLast?_eq_some_getLast (List.cons_ne_nil c cs)]
      rfl

/-- The number of the next event follows the last one. -/
theorem head_follows (hp : Passed r b r') {x : UInt64} (hx : r.lastSequence = some x) :
    ∀ e ∈ b.events.head?, e.sequence = saturatingAdd x 1 := by
  intro e he
  have hg := hp.gap
  have hf := hp.valid.first
  rw [Option.mem_def.mp he] at hf
  simp only [sequenceGap, hx, hf, Option.map_some] at hg
  exact (Decidable.not_not.mp (of_decide_eq_false hg)).symm

/-- The numbers of two streams that follow each other. -/
theorem Successive.append {xs ys : List InputEvent} (hx : Successive xs) (hy : Successive ys)
    (h : ∀ a ∈ xs.getLast?, ∀ e ∈ ys.head?, e.sequence = saturatingAdd a.sequence 1) :
    Successive (xs ++ ys) :=
  List.isChain_append.mpr ⟨hx, hy, h⟩

/-- **Batches accepted below the barrier are one stream**, which goes on from the last event. -/
theorem accepted_stream {batches : List InputBatch} (ho : r.Opened)
    (hn : r.requiresNeutral = false) (h : AllAccepted r batches) :
    (∀ x, r.lastSequence = some x →
        ∀ e ∈ (eventsOf batches).head?, e.sequence = saturatingAdd x 1) ∧
      Successive (eventsOf batches) ∧
      replay r.validatedHeld (eventsOf batches) = .ok (heldOf batches r.validatedHeld) := by
  induction batches generalizing r with
  | nil => exact ⟨by simp [eventsOf], .nil, rfl⟩
  | cons b batches ih =>
      obtain ⟨hb, hrest⟩ := h
      have hp : Passed r b (r.acceptBatch b).2 := passed_of_open ho hn (Prod.ext hb rfl)
      obtain ⟨h1, h2, h3⟩ := ih (opened_acceptBatch r b) hp.requiresNeutral hrest
      rw [hp.lastSequence] at h1
      rw [hp.validatedHeld] at h3
      have hcons : eventsOf (b :: batches) = b.events ++ eventsOf batches := List.flatMap_cons
      have hreplay := replay_append (eventsOf batches) hp.valid.replay
      rw [hcons, heldOf_cons, hreplay]
      refine ⟨fun x hx e he => ?_, ?_, h3⟩
      · cases hev : b.events with
        | nil =>
            -- an empty batch leaves the last number as it was
            have hl := hp.valid.last
            rw [hev] at hl he
            rw [hl] at h1
            exact h1 x hx e he
        | cons e' es =>
            rw [hev, List.cons_append, List.head?_cons] at he
            refine head_follows hp hx e ?_
            rw [hev]
            exact he
      · refine hp.valid.successive.append h2 fun a ha e he => ?_
        have hl := hp.valid.last
        rw [Option.mem_def.mp ha] at hl
        exact h1 a.sequence (by rw [hl]; rfl) e he

/-! ## 3. Between two faults -/

/-- A stream of edges from the neutral state. The numbers count up to the last one there is. -/
structure CleanStream (events : List InputEvent) (held : HeldState) : Prop where
  numbered : events.IsChain fun a b => b.sequence.toNat = min (a.sequence.toNat + 1) (2 ^ 64 - 1)
  alternates : ∀ action, Alternates false (phasesOf action events)
  held : ∀ action, held.isHeld action = heldAfter false (phasesOf action events)

theorem cleanStream {events : List InputEvent} {held : HeldState} (hs : Successive events)
    (hr : replay .neutral events = .ok held) : CleanStream events held where
  numbered := hs.imp fun a b e => by rw [e, toNat_saturatingAdd]
  alternates := fun action => by
    have h := (replay_phases hr action).1
    rwa [HeldState.isHeld_neutral] at h
  held := fun action => by
    have h := (replay_phases hr action).2
    rwa [HeldState.isHeld_neutral] at h

/-- **Only a clean edge stream passes the gate**: of the batches accepted one after the other from
    a fault on, or from the start, the first is neutral and without events, and all their events
    are one clean stream that ends in the held state of the last. -/
theorem gate_passes_clean_streams (initial : FocusRequest) (before batches : List InputBatch)
    (hbefore : EndsInFault (new initial) before)
    (haccepted : AllAccepted ((new initial).acceptAll before) batches) :
    (∀ b ∈ batches.head?, b.heldAfterLast = .neutral ∧ b.events = []) ∧
      CleanStream (eventsOf batches) (heldOf batches .neutral) := by
  have ho := (Opened.new initial).acceptAll before
  have hn := requiresNeutral_of_endsInFault (r := new initial) rfl hbefore
  generalize (new initial).acceptAll before = r at ho hn haccepted
  cases batches with
  | nil => exact ⟨by simp, cleanStream .nil rfl⟩
  | cons b batches =>
      obtain ⟨hb, hrest⟩ := haccepted
      obtain ⟨hh, he, hv, hn'⟩ := neutral_of_barrier hn (Prod.ext hb rfl)
      obtain ⟨-, h2, h3⟩ := accepted_stream (opened_acceptBatch r b) hn' hrest
      have hcons : eventsOf (b :: batches) = eventsOf batches := by simp [eventsOf, he]
      rw [hv] at h3
      refine ⟨by simpa using ⟨hh, he⟩, ?_⟩
      rw [hcons, heldOf_cons, hh]
      exact cleanStream h2 h3

/-! ### Batches of a healthy proxy -/

/-- An edge of the proxy. -/
def proxyEvent (sequence : UInt64) (pressId : PressId) (action : LogicalAction)
    (phase : InputPhase) : InputEvent :=
  { source := ⟨.mainProxy, 1⟩, sourceEpoch := 1, sequence, pressId, capturedAtUs := 0, action
    phase }

/-- A batch of the first source epoch without faults so far. -/
def healthyBatch (events : List InputEvent) (heldAfterLast : HeldState) : InputBatch :=
  { sourceEpoch := 1
    firstSequence := events.head?.map (·.sequence)
    lastSequence := events.getLast?.map (·.sequence)
    events
    heldAfterLast
    topology := ⟨[], 1⟩
    health := { InputHealth.initial with protocol := .proxyV2 } }

def tap (sequence : UInt64) (action : LogicalAction) : List InputEvent :=
  [proxyEvent sequence 1 action .pressed, proxyEvent (saturatingAdd sequence 1) 1 action .released]

theorem gate_passes_tap :
    CleanStream (eventsOf [healthyBatch [] .neutral, healthyBatch (tap 7 .down) .neutral])
      .neutral :=
  (gate_passes_clean_streams .homeFocus
    [{ healthyBatch [] .neutral with health := .initial }]
    [healthyBatch [] .neutral, healthyBatch (tap 7 .down) .neutral]
    (by decide +kernel) (by decide +kernel)).2

/-- At the last number a press and its release carry the same one. -/
theorem gate_passes_equal_numbers :
    EndsInFault (new .homeFocus) [] ∧
      AllAccepted ((new .homeFocus).acceptAll [])
        [healthyBatch [] .neutral, healthyBatch (tap u64Max .down) .neutral] ∧
      ¬ (eventsOf [healthyBatch [] .neutral, healthyBatch (tap u64Max .down) .neutral]).IsChain
        fun a b => b.sequence.toNat = a.sequence.toNat + 1 := by
  refine ⟨?_, ?_, ?_⟩ <;> decide +kernel

end InputRouter

end MisterMagik.Input
