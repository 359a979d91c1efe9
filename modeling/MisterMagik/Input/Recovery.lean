/-
  File:      MisterMagik/Input/Recovery.lean
  Subject:   When the input gate recovers from a fault.

  Once the gate has accepted a neutral batch, the next event must carry the number after the last
  one the router has seen. A fault that consumes the events of a batch leaves that number behind.

  * `Continues`, `Watermark` -- the queue goes on from where the router is;
  * `InSource` -- the invariant: in one source epoch, as long as the proxy is healthy, it does;
  * `InSource.drain` -- a batch keeps it, unless it brings a new source epoch with events;
  * `gate_recovers` -- then the gate accepts everything after the neutral batch;
  * `gate_locked` -- and without it the gate stays closed.
-/
import MisterMagik.Input.Mailbox

namespace MisterMagik.Input

open MisterMagik.Base

variable {m m' : MailboxState} {r r' : InputRouter} {b : InputBatch}

/-! ## 1. The watermark -/

/-- The queue goes on from what the router has validated. -/
structure Continues (m : MailboxState) (r : InputRouter) : Prop where
  empty : m.queue = [] → ∀ x ∈ r.lastSequence, x = m.nextSequence
  follows : ∀ x ∈ r.lastSequence, ∀ e ∈ m.queue.head?, e.sequence = saturatingAdd x 1
  last : ∀ e ∈ m.queue.getLast?, e.sequence = m.nextSequence
  successive : Successive m.queue
  replay : replay r.validatedHeld m.queue = .ok m.held

theorem Continues.gap (h : Continues m r) : r.sequenceGap m.batch = false := by
  unfold InputRouter.sequenceGap
  cases hl : r.lastSequence with
  | none => rfl
  | some x =>
      cases hq : m.queue with
      | nil => simp [MailboxState.batch, hq]
      | cons e es =>
          have hf := h.follows x hl e (by rw [hq]; rfl)
          simp [MailboxState.batch, hq, hf]

theorem Continues.valid (h : Continues m r) : m.batch.Valid r.validatedHeld :=
  ⟨rfl, rfl, h.successive, h.replay⟩

/-- The events of a batch are seen, behind the barrier too. -/
theorem acceptEvents_valid (hg : r.sequenceGap b = false) (hv : b.Valid r.validatedHeld) :
    (r.acceptEvents b).2.lastSequence = b.lastSequence.or r.lastSequence ∧
      (r.acceptEvents b).2.validatedHeld = b.heldAfterLast := by
  unfold InputRouter.acceptEvents
  rw [hg, if_neg Bool.false_ne_true, hv.validateFrom]
  dsimp only
  split
  · split <;> exact ⟨rfl, rfl⟩
  · exact ⟨rfl, rfl⟩

/-- Without the barrier they are accepted. -/
theorem acceptEvents_accepted (hg : r.sequenceGap b = false) (hv : b.Valid r.validatedHeld)
    (hn : r.requiresNeutral = false) : (r.acceptEvents b).1 = .ok () := by
  unfold InputRouter.acceptEvents
  rw [hg, if_neg Bool.false_ne_true, hv.validateFrom]
  simp [hn]

/-- The checks of the events touch no counter and no epoch. -/
theorem acceptEvents_frame (r : InputRouter) (b : InputBatch) :
    (r.acceptEvents b).2.sourceEpoch = r.sourceEpoch ∧
      (r.acceptEvents b).2.overflowCount = r.overflowCount ∧
      (r.acceptEvents b).2.desyncCount = r.desyncCount := by
  unfold InputRouter.acceptEvents
  split
  · exact ⟨rfl, rfl, rfl⟩
  · split
    · exact ⟨rfl, rfl, rfl⟩
    · dsimp only
      split
      · split <;> exact ⟨rfl, rfl, rfl⟩
      · exact ⟨rfl, rfl, rfl⟩

/-- Refused events leave the number as it was. -/
theorem acceptEvents_lastSequence (r : InputRouter) (b : InputBatch) :
    (r.acceptEvents b).2.lastSequence = r.lastSequence ∨
      (r.sequenceGap b = false ∧ b.Valid r.validatedHeld) := by
  by_cases hg : r.sequenceGap b = true
  · left
    unfold InputRouter.acceptEvents
    rw [if_pos hg]
    rfl
  · have hg : r.sequenceGap b = false := by simpa using hg
    cases hv : b.validateFrom r.validatedHeld with
    | error e =>
        left
        unfold InputRouter.acceptEvents
        rw [hg, if_neg Bool.false_ne_true, hv]
        rfl
    | ok held => exact .inr ⟨hg, InputBatch.validateFrom_ok hv⟩

/-- After a drain the router has seen the last number of the mailbox. -/
theorem Continues.drained (hlast : ∀ e ∈ m.queue.getLast?, e.sequence = m.nextSequence)
    (hl : r'.lastSequence = m.batch.lastSequence.or r.lastSequence)
    (hr : m.queue = [] → ∀ x ∈ r.lastSequence, x = m.nextSequence)
    (hv : r'.validatedHeld = m.held) : Continues m.drained r' where
  empty := by
    intro _ x hx
    rw [hl] at hx
    cases hq : m.queue.getLast? with
    | none =>
        have hnil := List.getLast?_eq_none_iff.mp hq
        rw [MailboxState.batch, hq] at hx
        exact hr hnil x hx
    | some e =>
        rw [MailboxState.batch, hq] at hx
        have hx : some e.sequence = some x := hx
        cases hx
        exact hlast e hq
  follows := by simp [MailboxState.queue, MailboxState.drained]
  last := by simp [MailboxState.queue, MailboxState.drained]
  successive := .nil
  replay := by rw [hv]; rfl

/-- Mailbox and router agree on the faults so far, and the queue goes on from the router's number,
    if it has one. -/
structure Watermark (m : MailboxState) (r : InputRouter) : Prop where
  overflow : m.health.overflowCount = r.overflowCount
  desync : m.health.desyncCount = r.desyncCount
  last : ∀ e ∈ m.queue.getLast?, e.sequence = m.nextSequence
  continues : ∀ x, r.lastSequence = some x → Continues m r

/-! ## 2. Publishing -/

variable {pending : PendingInputEvent}

theorem getLast_concat (q : List InputEvent) (e : InputEvent) : (q ++ [e]).getLast? = some e := by
  simp

theorem head_concat {q : List InputEvent} {e e' : InputEvent} (h : e' ∈ (q ++ [e]).head?) :
    (q = [] ∧ e' = e) ∨ e' ∈ q.head? := by
  cases q with
  | nil => exact .inl ⟨rfl, by simpa [eq_comm] using h⟩
  | cons a as => exact .inr h

/-- **A published event goes on with the queue.** -/
theorem Continues.publish (h : Continues m r)
    (hheld : m.held.applyEvent (pending.withSequence m.nextNumber) = .ok m'.held)
    (hq : m'.queue = m.queue ++ [pending.withSequence m.nextNumber])
    (hn : m'.nextSequence = m.nextNumber) : Continues m' r where
  empty := by
    intro hnil
    rw [hq] at hnil
    exact absurd hnil (by simp)
  follows := by
    intro x hx e he
    rw [hq] at he
    rcases head_concat he with ⟨hnil, rfl⟩ | he
    · show m.nextNumber = _
      rw [h.empty hnil x hx]
      rfl
    · exact h.follows x hx e he
  last := by
    intro e he
    rw [hq, getLast_concat] at he
    cases he
    exact hn.symm
  successive := by
    rw [hq]
    refine InputRouter.Successive.append h.successive (by simp [Successive]) fun a ha e he => ?_
    cases he
    show m.nextNumber = _
    rw [h.last a ha]
    rfl
  replay := by
    rw [hq, replay_append _ h.replay, Input.replay, hheld]
    rfl

theorem Watermark.publish (h : Watermark m r)
    (hheld : m.held.applyEvent (pending.withSequence m.nextNumber) = .ok m'.held)
    (hq : m'.queue = m.queue ++ [pending.withSequence m.nextNumber])
    (hn : m'.nextSequence = m.nextNumber)
    (ho : m'.health.overflowCount = m.health.overflowCount)
    (hd : m'.health.desyncCount = m.health.desyncCount) : Watermark m' r where
  overflow := ho.trans h.overflow
  desync := hd.trans h.desync
  last := by
    intro e he
    rw [hq, getLast_concat] at he
    cases he
    exact hn.symm
  continues := fun x hx => (h.continues x hx).publish hheld hq hn

/-! ## 3. Draining -/

/-- The batch passes the checks of the proxy's health. -/
structure Healthy (r : InputRouter) (b : InputBatch) : Prop where
  protocol : b.health.protocol = .proxyV2
  overflow : b.health.overflowCount = r.overflowCount
  desync : b.health.desyncCount = r.desyncCount

instance (r : InputRouter) (b : InputBatch) : Decidable (Healthy r b) :=
  decidable_of_iff (b.health.protocol = .proxyV2 ∧ b.health.overflowCount = r.overflowCount ∧
    b.health.desyncCount = r.desyncCount) ⟨fun ⟨h1, h2, h3⟩ => ⟨h1, h2, h3⟩, fun ⟨h1, h2, h3⟩ =>
      ⟨h1, h2, h3⟩⟩

/-- What `accept_batch` does in front of the checks of the events. -/
inductive Gate (r : InputRouter) (b : InputBatch) :
    Except InputFault Unit × InputRouter → Prop where
  | unhealthy {f : InputFault} {r' : InputRouter} (h : ¬ Healthy r b)
      (he : r'.sourceEpoch = r.sourceEpoch) : Gate r b (.error f, r')
  | sourceChanged (h : Healthy r b) (he : r.sourceEpoch ≠ some b.sourceEpoch)
      (hk : r.sourceEpoch.isSome = true ∨ b.heldAfterLast ≠ .neutral) :
      Gate r b (.error .sourceChangedWhileHeld, r.adoptEpoch b)
  | first (h : Healthy r b) (he : r.sourceEpoch = none) :
      Gate r b ((r.adoptEpoch b).acceptEvents b)
  | known (h : Healthy r b) (he : r.sourceEpoch = some b.sourceEpoch) :
      Gate r b (r.acceptEvents b)

theorem acceptBatch_gate (r : InputRouter) (b : InputBatch) : Gate r b (r.acceptBatch b) := by
  unfold InputRouter.acceptBatch
  split
  · rename_i hp
    exact .unhealthy (fun h => hp h.protocol) rfl
  · rename_i hp
    split
    · rename_i ho
      exact .unhealthy (fun h => ho h.overflow) rfl
    · rename_i ho
      split
      · rename_i hd
        exact .unhealthy (fun h => hd h.desync) rfl
      · rename_i hd
        have hh : Healthy r b := ⟨not_not.mp hp, not_not.mp ho, not_not.mp hd⟩
        split
        · rename_i he
          split
          · rename_i hk
            exact .sourceChanged hh he hk
          · rename_i hk
            exact .first hh (by simpa using (not_or.mp hk).1)
        · rename_i he
          exact .known hh (not_not.mp he)

/-- The batch brings a source epoch the router takes over. -/
def TakesOver (r : InputRouter) (b : InputBatch) : Prop :=
  Healthy r b ∧ r.sourceEpoch ≠ some b.sourceEpoch

instance (r : InputRouter) (b : InputBatch) : Decidable (TakesOver r b) :=
  inferInstanceAs (Decidable (_ ∧ _))

/-- The events of a first batch go from neutral to neutral, up to the mailbox's latest number. -/
def Complete (m : MailboxState) : Prop :=
  m.batch.validateFrom .neutral = .ok .neutral ∧ m.batch.lastSequence = some m.nextSequence

instance (m : MailboxState) : Decidable (Complete m) := inferInstanceAs (Decidable (_ ∧ _))

/-- **The condition on a step**: a batch that brings a new source epoch has no events, or it is the
    first and complete; and the proxy is opened while there is another source epoch. -/
def InputSystem.Keeps (s : InputSystem) : InputStep → Prop
  | .publish _ _ _ => True
  | .proxyOpen _ _ => s.mailbox.sourceEpoch ≠ u64Max
  | .proxyLost => True
  | .drain => TakesOver s.router s.mailbox.batch →
      s.mailbox.queue = [] ∨ (s.router.sourceEpoch = none ∧ Complete s.mailbox)

instance (s : InputSystem) : (step : InputStep) → Decidable (s.Keeps step)
  | .publish _ _ _ => inferInstanceAs (Decidable True)
  | .proxyOpen _ _ => inferInstanceAs (Decidable (s.mailbox.sourceEpoch ≠ u64Max))
  | .proxyLost => inferInstanceAs (Decidable True)
  | .drain => inferInstanceAs (Decidable (TakesOver s.router s.mailbox.batch →
      s.mailbox.queue = [] ∨ (s.router.sourceEpoch = none ∧ Complete s.mailbox)))

/-- In the router's source epoch a drain keeps the watermark. -/
theorem watermark_known (h : Watermark m r) :
    Watermark m.drained (r.acceptEvents m.batch).2 := by
  obtain ⟨-, ho, hd⟩ := acceptEvents_frame r m.batch
  refine ⟨h.overflow.trans ho.symm, h.desync.trans hd.symm,
    by simp [MailboxState.queue, MailboxState.drained], fun x hx => ?_⟩
  rcases acceptEvents_lastSequence r m.batch with hl | ⟨hg, hv⟩
  · have hc := h.continues x (hl ▸ hx)
    obtain ⟨hl', hheld⟩ := acceptEvents_valid hc.gap hc.valid
    exact .drained h.last hl' hc.empty hheld
  · obtain ⟨hl, hheld⟩ := acceptEvents_valid hg hv
    refine .drained h.last hl (fun hnil y hy => ?_) hheld
    exact (h.continues y hy).empty hnil y hy

/-- A batch without events brings no number. -/
theorem watermark_adopt (hm : Healthy r m.batch) (hq : m.queue = []) :
    Watermark m.drained (r.adoptEpoch m.batch) where
  overflow := hm.overflow
  desync := hm.desync
  last := by simp [MailboxState.queue, MailboxState.drained]
  continues := by
    intro x hx
    rw [InputRouter.adoptEpoch, InputRouter.integrityFlush, MailboxState.batch, hq] at hx
    cases hx

/-- The first batch, if it is complete, is seen to its last number. -/
theorem watermark_first (hm : Healthy r m.batch) (hpos : ∀ e ∈ m.queue, e.sequence ≠ 0)
    (hc : Complete m) : Watermark m.drained ((r.adoptEpoch m.batch).acceptEvents m.batch).2 := by
  obtain ⟨-, ho, hd⟩ := acceptEvents_frame (r.adoptEpoch m.batch) m.batch
  refine ⟨hm.overflow.trans ho.symm, hm.desync.trans hd.symm,
    by simp [MailboxState.queue, MailboxState.drained], fun x _ => ?_⟩
  have hv : m.batch.Valid (r.adoptEpoch m.batch).validatedHeld := InputBatch.validateFrom_ok hc.1
  have hlast : m.queue.getLast?.map (·.sequence) = some m.nextSequence := hc.2
  have hg : (r.adoptEpoch m.batch).sequenceGap m.batch = false := by
    cases hq : m.queue with
    | nil => simp [InputRouter.sequenceGap, MailboxState.batch, hq]
    | cons e es =>
        have he := hpos e (by rw [hq]; exact List.mem_cons_self)
        have hsub : saturatingAdd (saturatingSub e.sequence 1) 1 = e.sequence := by
          apply UInt64.toNat_inj.mp
          have hne : e.sequence.toNat ≠ 0 := fun h0 => he (UInt64.toNat_inj.mp h0)
          have hle := toNat_le_u64Max e.sequence
          rw [toNat_saturatingAdd, toNat_saturatingSub]
          show min (e.sequence.toNat - 1 + 1) _ = _
          omega
        simp [InputRouter.sequenceGap, InputRouter.adoptEpoch, InputRouter.integrityFlush,
          MailboxState.batch, hq, hsub]
  obtain ⟨hl, hheld⟩ := acceptEvents_valid hg hv
  refine .drained (fun e he => ?_) hl (fun hnil => ?_) hheld
  · rw [Option.mem_def.mp he] at hlast
    exact Option.some.inj hlast
  · rw [hnil] at hlast
    cases hlast

/-! ## 4. The invariant -/

/-- **In one source epoch, as long as the proxy is healthy, the queue goes on from the router's
    number.** -/
structure InSource (s : InputSystem) : Prop where
  known : ∀ e ∈ s.router.sourceEpoch, e ≤ s.mailbox.sourceEpoch
  positive : ∀ e ∈ s.mailbox.queue, e.sequence ≠ 0
  watermark : s.router.sourceEpoch = some s.mailbox.sourceEpoch →
    s.mailbox.health.protocol = .proxyV2 → Watermark s.mailbox s.router

theorem InSource.initial (focus : FocusRequest) : InSource (.initial focus) where
  known := by
    intro e he
    cases he
  positive := by
    intro e he
    cases he
  watermark := by
    intro he
    cases he

/-- A source epoch with room goes up. -/
theorem lt_saturatingAdd_one {a : UInt64} (h : a ≠ u64Max) : a < saturatingAdd a 1 := by
  rw [UInt64.lt_iff_toNat_lt, toNat_saturatingAdd]
  have hle := toNat_le_u64Max a
  have hne : a.toNat ≠ 2 ^ 64 - 1 := fun e => h (UInt64.toNat_inj.mp e)
  omega

theorem le_saturatingAdd_one (a : UInt64) : a ≤ saturatingAdd a 1 := by
  rw [UInt64.le_iff_toNat_le, toNat_saturatingAdd]
  have hle := toNat_le_u64Max a
  omega

theorem InSource.newEpoch {s : InputSystem} (h : InSource s) {m' : MailboxState}
    (hroom : s.mailbox.sourceEpoch ≠ u64Max)
    (he : m'.sourceEpoch = saturatingAdd s.mailbox.sourceEpoch 1)
    (hpos : ∀ e ∈ m'.queue, e.sequence ≠ 0) : InSource { s with mailbox := m' } := by
  have hlt := lt_saturatingAdd_one hroom
  rw [← he] at hlt
  refine ⟨fun e hk => ?_, hpos, fun hk => ?_⟩
  · exact UInt64.le_of_lt (UInt64.lt_of_le_of_lt (h.known e hk) hlt)
  · have hle := h.known _ hk
    exact absurd (UInt64.lt_of_le_of_lt hle hlt) (UInt64.lt_irrefl _)

/-- While the proxy is not healthy nothing is asked of the numbers. -/
theorem InSource.unhealthy {s : InputSystem} (h : InSource s) {m' : MailboxState}
    (hp : m'.health.protocol = .unhealthy) (he : s.mailbox.sourceEpoch ≤ m'.sourceEpoch)
    (hpos : ∀ e ∈ m'.queue, e.sequence ≠ 0) : InSource { s with mailbox := m' } := by
  refine ⟨fun e hk => UInt64.le_trans (h.known e hk) he, hpos, fun _ hp' => ?_⟩
  have hp' : m'.health.protocol = .proxyV2 := hp'
  rw [hp] at hp'
  cases hp'

theorem nextNumber_ne_zero (m : MailboxState) : m.nextNumber ≠ 0 := by
  intro h
  have e := congrArg UInt64.toNat h
  rw [MailboxState.nextNumber, toNat_saturatingAdd] at e
  have e : min (m.nextSequence.toNat + 1) (2 ^ 64 - 1) = 0 := e
  omega

theorem InSource.publish {s : InputSystem} (h : InSource s) (pending : PendingInputEvent)
    (proxy : ProxyEventMetadata) (publishedAtUs : UInt64) :
    InSource (s.next (.publish pending proxy publishedAtUs)) := by
  show InSource { s with mailbox := (s.mailbox.publishProxy pending proxy publishedAtUs).2 }
  have hc := s.mailbox.publishProxy_cases pending proxy publishedAtUs
  generalize s.mailbox.publishProxy pending proxy publishedAtUs = res at hc
  cases hc with
  | overflow hp he hq =>
      exact h.unhealthy hp (he ▸ le_saturatingAdd_one _) (by rw [hq]; simp)
  | refused hp he hq =>
      exact h.unhealthy hp (he ▸ UInt64.le_refl _) (by rw [hq]; exact h.positive)
  | taken hheld hq hn he hp ho hd =>
      refine ⟨fun e hk => ?_, fun e hmem => ?_, fun hk hp' => ?_⟩
      · show e ≤ _
        rw [he]
        exact h.known e hk
      · rw [hq, List.mem_append, List.mem_singleton] at hmem
        rcases hmem with hmem | rfl
        · exact h.positive e hmem
        · exact nextNumber_ne_zero s.mailbox
      · rw [he] at hk
        rw [hp] at hp'
        exact (h.watermark hk hp').publish hheld hq hn ho hd

theorem InSource.drain {s : InputSystem} (h : InSource s) (hk : s.Keeps .drain) :
    InSource (s.next .drain) := by
  have hg : Gate s.router s.mailbox.batch s.gate := acceptBatch_gate _ _
  have hnone : ∀ e ∈ s.mailbox.drained.queue, e.sequence ≠ 0 := by
    simp [MailboxState.queue, MailboxState.drained]
  show InSource ⟨s.mailbox.drained, s.gate.2⟩
  generalize s.gate = res at hg
  cases hg with
  | unhealthy hn he =>
      refine ⟨fun e hr => h.known e (he ▸ hr), hnone, fun hr hp => ?_⟩
      -- healthy in the router's epoch, so the counters agree
      have hw := h.watermark (he ▸ hr) hp
      exact absurd ⟨hp, hw.overflow, hw.desync⟩ hn
  | sourceChanged hh he hks =>
      have hq : s.mailbox.queue = [] := by
        rcases hk ⟨hh, he⟩ with hq | ⟨hfirst, hc⟩
        · exact hq
        · -- a complete first batch holds nothing
          rcases hks with hks | hks
          · rw [hfirst] at hks
            cases hks
          · refine absurd ?_ hks
            have hv := (InputBatch.validateFrom_ok hc.1).validateFrom
            rw [hc.1] at hv
            exact (Except.ok.inj hv).symm
      refine ⟨fun e hr => ?_, hnone, fun _ _ => watermark_adopt hh hq⟩
      cases hr
      exact UInt64.le_refl _
  | first hh he =>
      have hepoch := (acceptEvents_frame (s.router.adoptEpoch s.mailbox.batch) s.mailbox.batch).1
      refine ⟨fun e hr => ?_, hnone, fun _ _ => ?_⟩
      · have hr : ((s.router.adoptEpoch s.mailbox.batch).acceptEvents s.mailbox.batch).2.sourceEpoch
            = some e := hr
        rw [hepoch] at hr
        cases hr
        exact UInt64.le_refl _
      · rcases hk ⟨hh, by rw [he]; simp⟩ with hq | ⟨-, hc⟩
        · -- without events the checks see no number
          have hw := watermark_adopt hh hq
          obtain ⟨-, ho, hd⟩ :=
            acceptEvents_frame (s.router.adoptEpoch s.mailbox.batch) s.mailbox.batch
          refine ⟨hw.overflow.trans ho.symm, hw.desync.trans hd.symm, hw.last, fun x hx => ?_⟩
          have hx :
              ((s.router.adoptEpoch s.mailbox.batch).acceptEvents s.mailbox.batch).2.lastSequence
              = some x := hx
          have hnone' : (s.router.adoptEpoch s.mailbox.batch).lastSequence = none := by
            simp [InputRouter.adoptEpoch, InputRouter.integrityFlush, MailboxState.batch, hq]
          rcases acceptEvents_lastSequence (s.router.adoptEpoch s.mailbox.batch)
            s.mailbox.batch with
            hl | ⟨hg, hv⟩
          · rw [hl, hnone'] at hx
            cases hx
          · rw [(acceptEvents_valid hg hv).1, hnone', MailboxState.batch, hq] at hx
            cases hx
        · exact watermark_first hh h.positive hc
  | known hh he =>
      have hepoch := (acceptEvents_frame s.router s.mailbox.batch).1
      refine ⟨fun e hr => ?_, hnone, fun _ _ => watermark_known (h.watermark he hh.protocol)⟩
      have hr : (s.router.acceptEvents s.mailbox.batch).2.sourceEpoch = some e := hr
      rw [hepoch] at hr
      exact h.known e hr

/-- **Every step keeps it.** -/
theorem InSource.next {s : InputSystem} (h : InSource s) {step : InputStep} (hk : s.Keeps step) :
    InSource (s.next step) := by
  cases step with
  | publish pending proxy publishedAtUs => exact h.publish pending proxy publishedAtUs
  | proxyOpen generation path =>
      refine h.newEpoch hk ?_ h.positive
      exact MailboxState.max_saturatingAdd_one _
  | proxyLost =>
      refine h.unhealthy rfl ?_ ?_
      · show _ ≤ max (saturatingAdd s.mailbox.sourceEpoch 1) 1
        rw [MailboxState.max_saturatingAdd_one]
        exact le_saturatingAdd_one _
      · intro e he
        cases he
  | drain => exact h.drain hk

/-! ## 5. After the neutral batch -/

/-- The gate is open, and the queue goes on from it. -/
structure Synced (s : InputSystem) : Prop where
  healthy : Healthy s.router s.mailbox.batch
  known : s.router.sourceEpoch = some s.mailbox.sourceEpoch
  requiresNeutral : s.router.requiresNeutral = false
  continues : Continues s.mailbox s.router

theorem Synced.gate_eq {s : InputSystem} (h : Synced s) :
    s.gate = s.router.acceptEvents s.mailbox.batch := by
  have hg : Gate s.router s.mailbox.batch s.gate := acceptBatch_gate _ _
  have he := h.known
  generalize s.gate = res at hg
  cases hg with
  | unhealthy hn => exact absurd h.healthy hn
  | sourceChanged _ hne => exact absurd he hne
  | first _ hnone =>
      rw [hnone] at he
      cases he
  | known => rfl

theorem Synced.accepts {s : InputSystem} (h : Synced s) : s.gate.1 = .ok () := by
  rw [h.gate_eq]
  exact acceptEvents_accepted h.continues.gap h.continues.valid h.requiresNeutral

theorem Synced.drain {s : InputSystem} (h : Synced s) : Synced (s.next .drain) := by
  have hp := InputRouter.acceptEvents_ok (Prod.ext (h.gate_eq ▸ h.accepts) rfl :
    s.router.acceptEvents s.mailbox.batch = (.ok (), _))
  have hg : s.next .drain = ⟨s.mailbox.drained, (s.router.acceptEvents s.mailbox.batch).2⟩ := by
    rw [← h.gate_eq]
    rfl
  obtain ⟨-, ho, hd⟩ := acceptEvents_frame s.router s.mailbox.batch
  rw [hg]
  exact ⟨⟨h.healthy.protocol, h.healthy.overflow.trans ho.symm, h.healthy.desync.trans hd.symm⟩,
    hp.sourceEpoch.trans h.known, hp.requiresNeutral,
    .drained h.continues.last hp.lastSequence h.continues.empty hp.validatedHeld⟩

theorem Synced.publish {s : InputSystem} (h : Synced s) (pending : PendingInputEvent)
    (proxy : ProxyEventMetadata) (publishedAtUs : UInt64)
    (hf : ¬ s.Faults (.publish pending proxy publishedAtUs)) :
    Synced (s.next (.publish pending proxy publishedAtUs)) := by
  have hf : ¬ (s.mailbox.publishProxy pending proxy publishedAtUs).1 = false := hf
  show Synced { s with mailbox := (s.mailbox.publishProxy pending proxy publishedAtUs).2 }
  have hc := s.mailbox.publishProxy_cases pending proxy publishedAtUs
  generalize s.mailbox.publishProxy pending proxy publishedAtUs = res at hc hf
  cases hc with
  | overflow => exact absurd rfl hf
  | refused => exact absurd rfl hf
  | taken hheld hq hn he hp ho hd =>
      exact ⟨⟨hp.trans h.healthy.protocol, ho.trans h.healthy.overflow,
        hd.trans h.healthy.desync⟩, h.known.trans (congrArg some he.symm), h.requiresNeutral,
        h.continues.publish hheld hq hn⟩

theorem Synced.next {s : InputSystem} (h : Synced s) {step : InputStep} (hf : ¬ s.Faults step) :
    Synced (s.next step) := by
  cases step with
  | publish pending proxy publishedAtUs => exact h.publish pending proxy publishedAtUs hf
  | proxyOpen => exact absurd trivial hf
  | proxyLost => exact absurd trivial hf
  | drain => exact h.drain

/-- The neutral batch opens the gate. -/
theorem synced_of_recovers {s : InputSystem} (h : InSource s) (hr : s.Recovers) :
    Synced (s.next .drain) := by
  obtain ⟨hok, hq, hheld⟩ := hr
  have hin : InSource (s.next .drain) := by
    refine h.next ?_
    exact fun _ => .inl hq
  have hpassed := InputRouter.acceptBatch_ok (Prod.ext hok rfl :
    s.router.acceptBatch s.mailbox.batch = (.ok (), s.gate.2))
  have hepoch : s.gate.2.sourceEpoch = some s.mailbox.sourceEpoch := by
    rcases hpassed with ⟨he, hp⟩ | ⟨-, -, hp⟩
    · exact hp.sourceEpoch.trans he
    · exact hp.sourceEpoch
  have hstate : s.gate.2.validatedHeld = s.mailbox.held ∧ s.gate.2.requiresNeutral = false := by
    rcases hpassed with ⟨-, hp⟩ | ⟨-, -, hp⟩ <;> exact ⟨hp.validatedHeld, hp.requiresNeutral⟩
  have hprotocol : s.mailbox.health.protocol = .proxyV2 := by
    have hg : Gate s.router s.mailbox.batch s.gate := acceptBatch_gate _ _
    generalize s.gate = res at hg hok
    cases hg with
    | unhealthy => cases hok
    | sourceChanged hh => exact hh.protocol
    | first hh => exact hh.protocol
    | known hh => exact hh.protocol
  have hw := hin.watermark hepoch hprotocol
  refine ⟨⟨hprotocol, hw.overflow, hw.desync⟩, hepoch, hstate.2, ?_⟩
  refine ⟨fun hnil x hx => (hw.continues x hx).empty hnil x hx, fun x _ e he => ?_, hw.last, .nil,
    ?_⟩
  · cases he
  · show Input.replay s.gate.2.validatedHeld [] = .ok s.mailbox.held
    rw [hstate.1]
    rfl

/-- **The gate recovers**: in a run whose batches bring no new source epoch together with events,
    once a neutral batch without events has been accepted every later batch is, until the next
    overflow, publication error, loss or opening of the proxy. -/
theorem gate_recovers (focus : FocusRequest) {before after : List InputStep} {s t : InputSystem}
    (hbefore : ((inputSystem focus).guard InputSystem.Keeps).Run (.initial focus) before s)
    (hs : s.Recovers)
    (hafter : ((inputSystem focus).guard fun s step => ¬ s.Faults step).Run (s.next .drain) after
      t) : t.gate.1 = .ok () := by
  have hin : InSource s := by
    refine hbefore.invariant (fun s step s' h hstep => ?_) (.initial focus)
    obtain ⟨hk, rfl⟩ := hstep
    exact h.next hk
  have hsync : Synced t := by
    refine hafter.invariant (fun s step s' h hstep => ?_) (synced_of_recovers hin hs)
    obtain ⟨hf, rfl⟩ := hstep
    exact h.next hf
  exact hsync.accepts

/-! ### Runs -/

/-- The capture thread publishes an edge of a pad. -/
def padStep (pressId : PressId) (action : LogicalAction) (phase : InputPhase) : InputStep :=
  .publish ⟨⟨.mainProxy, 1⟩, 1, pressId, 0, action, phase⟩ ⟨none, none, none⟩ 0

/-- The proxy opens and nothing is pressed yet. -/
def quietStart : List InputStep := [.drain, .proxyOpen 1 "pad"]

theorem gate_recovers_quietStart :
    ([padStep 1 .down .pressed].foldl InputSystem.next
      ((quietStart.foldl InputSystem.next (.initial .homeFocus)).next .drain)).gate.1 = .ok () := by
  have hbefore : ((inputSystem .homeFocus).guard InputSystem.Keeps).Run (.initial .homeFocus)
      quietStart (quietStart.foldl InputSystem.next (.initial .homeFocus)) :=
    Machine.run_ofNext (by decide +kernel)
  exact gate_recovers .homeFocus hbefore (by decide +kernel)
    (Machine.run_ofNext (by decide +kernel))

/-- A button is held while the first batch is drained, and released before the next. -/
def heldStart : List InputStep :=
  [.proxyOpen 1 "pad", padStep 1 .down .pressed, .drain, padStep 1 .down .released, .drain]

/-- **A fault that consumes events locks the gate**: the neutral batch is accepted, and the next
    press is not. -/
theorem gate_locked : ∃ s t : InputSystem,
    (inputSystem .homeFocus).Run (.initial .homeFocus) heldStart s ∧ s.Recovers ∧
      ((inputSystem .homeFocus).guard fun s step => ¬ s.Faults step).Run (s.next .drain)
        [padStep 2 .down .pressed] t ∧
      t.gate.1 = .error .sequenceGap := by
  refine ⟨heldStart.foldl InputSystem.next (.initial .homeFocus), _, Machine.run_foldl _ _,
    ?_, Machine.run_ofNext ?_, ?_⟩ <;> decide +kernel

end MisterMagik.Input
