/-
  File:      MisterMagik/Launcher/NavigationClock.lean
  Subject:   A navigation transition over time (`launcher_runtime/navigation_transition.rs`).

  A transition covers its source, waits for the destination, reveals it, or goes back. Each of these
  has a clock of its own, which starts where the one before it ended or where a tick saw it end.

  * `expandAt`, `revealAt`, `reverseAt` -- the three clocks: monotone, and they meet at the cover;
  * `Played` -- what a controller knows of the time after a tick or a request, one constructor for
    each phase, kept by every step (`Played.next`);
  * **`navigation_keeps_time`** -- over every run: the direction of the progress, what reveals and
    settles a transition, and when it has settled.
-/
import MisterMagik.Base.Machine
import MisterMagik.Launcher.NavigationTimeline

namespace MisterMagik.Launcher

open NavigationTransitionController

/-! ## 1. Scaled progress -/

section Scale

variable {e e' d m total c : Nat}

theorem saturatingMul_mono {a a' b : Nat} (h : a ≤ a') :
    saturatingMul a b ≤ saturatingMul a' b := by
  have hmul := Nat.mul_le_mul_right b h
  unfold saturatingMul
  omega

theorem saturatingMul_le (a b : Nat) : saturatingMul a b ≤ a * b := Nat.min_le_left ..

/-- The quotient of a product that may have been cut off. -/
theorem scaled_le : saturatingMul (min e d) m / max d 1 ≤ m := by
  have hd : 0 < max d 1 := by omega
  apply Nat.div_le_of_le_mul
  calc saturatingMul (min e d) m ≤ min e d * m := saturatingMul_le _ _
    _ ≤ max d 1 * m := Nat.mul_le_mul_right _ (by omega)

theorem scaleProgress_eq (hm : m ≤ PROGRESS_MAX) :
    scaleProgress e d m = saturatingMul (min e d) m / max d 1 := by
  have hle := scaled_le (e := e) (d := d) (m := m)
  have hmax : PROGRESS_MAX = 65535 := rfl
  exact Nat.mod_eq_of_lt (by omega)

theorem scaleProgress_le (hm : m ≤ PROGRESS_MAX) : scaleProgress e d m ≤ m := by
  rw [scaleProgress_eq hm]
  exact scaled_le

theorem scaleProgress_mono (hm : m ≤ PROGRESS_MAX) (h : e ≤ e') :
    scaleProgress e d m ≤ scaleProgress e' d m := by
  rw [scaleProgress_eq hm, scaleProgress_eq hm]
  exact Nat.div_le_div_right (saturatingMul_mono (by omega))

/-- The time at which a forward motion has covered its source. -/
def forwardCover (total c : Nat) : Nat := saturatingMul (max total 1) c / PROGRESS_MAX

variable (total) in
theorem forwardCover_le (hc : c ≤ PROGRESS_MAX) : forwardCover total c ≤ max total 1 := by
  apply Nat.div_le_of_le_mul
  calc saturatingMul (max total 1) c ≤ max total 1 * c := saturatingMul_le _ _
    _ ≤ max total 1 * PROGRESS_MAX := Nat.mul_le_mul_left _ hc
    _ = PROGRESS_MAX * max total 1 := Nat.mul_comm ..

variable (total) in
theorem forwardProgress_le_cover (hc : c ≤ PROGRESS_MAX) (h : e ≤ forwardCover total c) :
    forwardProgressQ16AtElapsedWithCover total e c ≤ c := by
  unfold forwardProgressQ16AtElapsedWithCover
  dsimp only
  rw [if_pos (by unfold forwardCover at h; omega)]
  exact scaleProgress_le hc

variable (total) in
theorem cover_le_forwardProgress (hc : c ≤ PROGRESS_MAX) (htotal : e ≤ max total 1)
    (h : forwardCover total c < e) : c ≤ forwardProgressQ16AtElapsedWithCover total e c := by
  have hmax : PROGRESS_MAX = 65535 := rfl
  unfold forwardProgressQ16AtElapsedWithCover
  dsimp only
  rw [if_neg (by unfold forwardCover at h; omega)]
  omega

theorem forwardProgress_mono (hc : c ≤ PROGRESS_MAX) (h : e ≤ e') :
    forwardProgressQ16AtElapsedWithCover total e c ≤
      forwardProgressQ16AtElapsedWithCover total e' c := by
  unfold forwardProgressQ16AtElapsedWithCover
  dsimp only
  have hmax : PROGRESS_MAX = 65535 := rfl
  by_cases hcover : min e' (max total 1) ≤ saturatingMul (max total 1) c / PROGRESS_MAX
  · rw [if_pos (by omega), if_pos hcover]
    exact scaleProgress_mono hc (by omega)
  · rw [if_neg hcover]
    split
    · have hle := scaleProgress_le (e := min e (max total 1))
        (d := max (saturatingMul (max total 1) c / PROGRESS_MAX) 1) hc
      omega
    · have hrest : min e (max total 1) - saturatingMul (max total 1) c / PROGRESS_MAX ≤
          min e' (max total 1) - saturatingMul (max total 1) c / PROGRESS_MAX := by omega
      have hmono := scaleProgress_mono
        (d := max (max total 1 - saturatingMul (max total 1) c / PROGRESS_MAX) 1)
        (Nat.sub_le PROGRESS_MAX c) hrest
      omega

end Scale

/-! ## 2. The clocks -/

theorem requestCoverProgressQ16_le (request : NavigationTransitionRequest) :
    requestCoverProgressQ16 request ≤ PROGRESS_MAX := by
  have hsuper : SUPER_SCALER_COVER_PROGRESS ≤ PROGRESS_MAX := by decide
  have hhalf : PROGRESS_MAX / 2 ≤ PROGRESS_MAX := Nat.div_le_self ..
  unfold requestCoverProgressQ16
  cases request.renderer with
  | systemPanel crt => exact Nat.le_of_lt_succ (Nat.mod_lt _ (by decide))
  | superScaler =>
      cases request.direction with
      | forward => exact hsuper
      | reverse => exact Nat.sub_le ..
  | settingsPage | settingsCog | deviceCard =>
      cases request.direction with
      | forward => exact hhalf
      | reverse => exact Nat.sub_le ..

section Clocks

variable (request : NavigationTransitionRequest)

/-- The time a reveal takes. -/
def revealUs : Nat := max ((coverOf request).totalUs - (coverOf request).coverUs) 1

/-- The time it takes to go back from a progress. -/
def reverseUs (origin : Nat) : Nat :=
  max (saturatingMul (coverOf request).totalUs origin / PROGRESS_MAX) 1

/-- The progress of a source that has been covered for a time. -/
def expandAt (elapsed : Nat) : Nat :=
  match request.direction with
  | .forward =>
      scaleProgress elapsed (coverOf request).coverUs (coverOf request).coverProgress
  | .reverse =>
      PROGRESS_MAX - forwardProgressQ16AtElapsedWithCover (coverOf request).totalUs
        ((coverOf request).totalUs - min elapsed (coverOf request).coverUs)
        (coverOf request).forwardCoverProgress

/-- The progress of a destination that has been revealed for a time. -/
def revealAt (elapsed : Nat) : Nat :=
  match request.direction with
  | .forward =>
      min ((coverOf request).coverProgress + scaleProgress elapsed (revealUs request)
        (PROGRESS_MAX - (coverOf request).coverProgress)) (2 ^ 16 - 1)
  | .reverse =>
      PROGRESS_MAX - forwardProgressQ16AtElapsedWithCover (coverOf request).totalUs
        ((coverOf request).totalUs -
          saturatingAdd (coverOf request).coverUs (min elapsed (revealUs request)))
        (coverOf request).forwardCoverProgress

/-- The progress of a transition that has gone back for a time. -/
def reverseAt (origin elapsed : Nat) : Nat :=
  origin - scaleProgress elapsed (reverseUs request origin) origin

variable {request} {e e' origin : Nat}

theorem totalUs_pos : 0 < (coverOf request).totalUs := by
  show 0 < max request.durationUs 1
  omega

theorem coverProgress_le : (coverOf request).coverProgress ≤ PROGRESS_MAX :=
  requestCoverProgressQ16_le request

theorem forwardCoverProgress_le : (coverOf request).forwardCoverProgress ≤ PROGRESS_MAX := by
  show (match request.direction with | .forward => _ | .reverse => _) ≤ PROGRESS_MAX
  cases request.direction with
  | forward => exact requestCoverProgressQ16_le request
  | reverse => exact Nat.sub_le ..

/-- The time a motion back takes to cover its source is what a motion forward has left of it. -/
theorem coverUs_reverse (h : request.direction = .reverse) :
    (coverOf request).coverUs = (coverOf request).totalUs -
      forwardCover (coverOf request).totalUs (coverOf request).forwardCoverProgress := by
  have htotal := @totalUs_pos request
  have hone : max (coverOf request).totalUs 1 = (coverOf request).totalUs := by omega
  unfold forwardCover
  rw [hone]
  simp only [coverOf, h]

theorem forwardCover_le_total :
    forwardCover (coverOf request).totalUs (coverOf request).forwardCoverProgress ≤
      (coverOf request).totalUs := by
  have htotal := @totalUs_pos request
  have hle := forwardCover_le (coverOf request).totalUs
    (@forwardCoverProgress_le request)
  omega

theorem forwardCoverProgress_reverse (h : request.direction = .reverse) :
    (coverOf request).forwardCoverProgress = PROGRESS_MAX - (coverOf request).coverProgress := by
  simp only [coverOf, h]

theorem coverUs_le : (coverOf request).coverUs ≤ (coverOf request).totalUs := by
  cases h : request.direction with
  | forward =>
      have hle := @forwardCover_le_total request
      have htotal := @totalUs_pos request
      have hone : max (coverOf request).totalUs 1 = (coverOf request).totalUs := by omega
      unfold forwardCover at hle
      rw [hone] at hle
      have heq : (coverOf request).coverUs = saturatingMul (coverOf request).totalUs
          (coverOf request).forwardCoverProgress / PROGRESS_MAX := by
        simp only [coverOf, h]
      omega
  | reverse =>
      rw [coverUs_reverse h]
      exact Nat.sub_le ..

theorem revealUs_le : revealUs request ≤ (coverOf request).totalUs := by
  have htotal := @totalUs_pos request
  unfold revealUs
  omega

variable (request) in
theorem reverseUs_le (h : origin ≤ PROGRESS_MAX) :
    reverseUs request origin ≤ (coverOf request).totalUs := by
  have htotal := @totalUs_pos request
  have hone : max (coverOf request).totalUs 1 = (coverOf request).totalUs := by omega
  have hle := forwardCover_le (coverOf request).totalUs h
  unfold forwardCover at hle
  rw [hone] at hle
  unfold reverseUs
  omega

theorem expandAt_mono (h : e ≤ e') : expandAt request e ≤ expandAt request e' := by
  unfold expandAt
  cases request.direction with
  | forward => exact scaleProgress_mono coverProgress_le h
  | reverse =>
      exact Nat.sub_le_sub_left (forwardProgress_mono forwardCoverProgress_le (by omega)) _

/-- Before its time is over the cover is not passed. -/
theorem expandAt_le (h : e < (coverOf request).coverUs) :
    expandAt request e ≤ (coverOf request).coverProgress := by
  unfold expandAt
  cases hd : request.direction with
  | forward => exact scaleProgress_le coverProgress_le
  | reverse =>
      have hcover := coverUs_reverse hd
      have hlt := @forwardCover_le_total request
      have hle := cover_le_forwardProgress (coverOf request).totalUs
        (e := (coverOf request).totalUs - min e (coverOf request).coverUs)
        (@forwardCoverProgress_le request) (by omega) (by omega)
      rw [forwardCoverProgress_reverse hd] at hle ⊢
      have hmax := @coverProgress_le request
      dsimp only
      omega

theorem revealAt_mono (h : e ≤ e') : revealAt request e ≤ revealAt request e' := by
  unfold revealAt
  cases request.direction with
  | forward =>
      have hmono := scaleProgress_mono (d := revealUs request)
        (Nat.sub_le PROGRESS_MAX (coverOf request).coverProgress) h
      dsimp only
      omega
  | reverse =>
      refine Nat.sub_le_sub_left (forwardProgress_mono forwardCoverProgress_le ?_) _
      unfold saturatingAdd
      omega

theorem revealAt_le : revealAt request e ≤ PROGRESS_MAX := by
  unfold revealAt
  cases request.direction with
  | forward => exact Nat.min_le_right ..
  | reverse => exact Nat.sub_le ..

/-- A reveal begins at the cover. -/
theorem cover_le_revealAt (hfits : request.durationUs < 2 ^ 64) :
    (coverOf request).coverProgress ≤ revealAt request e := by
  have hmax := @coverProgress_le request
  have hval : PROGRESS_MAX = 65535 := rfl
  unfold revealAt
  cases hd : request.direction with
  | forward =>
      dsimp only
      omega
  | reverse =>
      have hcover := coverUs_reverse hd
      have hle := forwardProgress_le_cover (coverOf request).totalUs
        (e := (coverOf request).totalUs -
          saturatingAdd (coverOf request).coverUs (min e (revealUs request)))
        (@forwardCoverProgress_le request)
        (by
          have hlt := @forwardCover_le_total request
          have htotal : (coverOf request).totalUs = max request.durationUs 1 := rfl
          unfold saturatingAdd
          omega)
      rw [forwardCoverProgress_reverse hd] at hle ⊢
      dsimp only
      omega

theorem reverseAt_anti (horigin : origin ≤ PROGRESS_MAX) (h : e ≤ e') :
    reverseAt request origin e' ≤ reverseAt request origin e :=
  Nat.sub_le_sub_left (scaleProgress_mono horigin h) _

end Clocks

/-! ## 3. Runs -/

/-- A controller after `captured`, the time of the last call and what it said of the destination. -/
structure Timeline where
  controller : NavigationTransitionController
  nowUs : Nat
  destinationReady : Bool
  /-- A reversal was accepted. -/
  reversed : Bool
  deriving DecidableEq, Repr

inductive TimelineStep where
  | tick (nowUs : Nat) (destinationReady : Bool)
  | requestReverse (nowUs : Nat)
  deriving DecidableEq, Repr

namespace Timeline

def started (request : NavigationTransitionRequest) (beganUs capturedUs : Nat) : Timeline :=
  { controller :=
      ((NavigationTransitionController.begin {} request beganUs).1.captured capturedUs).1
    nowUs := capturedUs
    destinationReady := false
    reversed := false }

def next (t : Timeline) : TimelineStep → Timeline
  | .tick nowUs destinationReady =>
      { t with controller := (t.controller.tick nowUs destinationReady).1, nowUs, destinationReady }
  | .requestReverse nowUs =>
      { t with
        controller := (t.controller.requestReverse nowUs).1
        nowUs
        reversed := t.reversed || (t.controller.requestReverse nowUs).2 }

/-- Time goes on, in the range of its type, and a destination that is ready stays so. -/
def Ordered (t : Timeline) : TimelineStep → Prop
  | .tick nowUs destinationReady =>
      t.nowUs ≤ nowUs ∧ nowUs < 2 ^ 64 ∧ (t.destinationReady → destinationReady)
  | .requestReverse nowUs => t.nowUs ≤ nowUs ∧ nowUs < 2 ^ 64

instance (t : Timeline) : (step : TimelineStep) → Decidable (t.Ordered step)
  | .tick _ _ => inferInstanceAs (Decidable (_ ∧ _ ∧ (_ → _)))
  | .requestReverse _ => inferInstanceAs (Decidable (_ ∧ _))

/-- The runs of a transition after it was captured. -/
def machine (request : NavigationTransitionRequest) (beganUs capturedUs : Nat) :
    Base.Machine Timeline TimelineStep :=
  (Base.Machine.ofNext (· = started request beganUs capturedUs) next).guard Ordered

end Timeline

/-! ## 4. What the clocks show -/

section Shown

variable (request : NavigationTransitionRequest) (startedUs nowUs : Nat)
  (c : NavigationTransitionController)

structure Expands : Prop where
  asked : c.request = some request
  phase : c.phase = .expand
  started : c.phaseStartedUs = startedUs
  below : ∀ e, nowUs - startedUs ≤ e → e < (coverOf request).coverUs →
    c.progressQ16 ≤ expandAt request e
  cover : c.progressQ16 ≤ (coverOf request).coverProgress

structure Holds : Prop where
  asked : c.request = some request
  phase : c.phase = .covered
  coveredStarted : c.coveredStartedUs = startedUs + (coverOf request).coverUs
  covered : startedUs + (coverOf request).coverUs ≤ nowUs
  progress : c.progressQ16 = (coverOf request).coverProgress

structure Revealing : Prop where
  asked : c.request = some request
  phase : c.phase = .reveal
  covered : startedUs + (coverOf request).coverUs ≤ c.phaseStartedUs
  started : c.phaseStartedUs ≤ nowUs
  cover : (coverOf request).coverProgress ≤ c.progressQ16
  below : ∀ e, nowUs - c.phaseStartedUs ≤ e → c.progressQ16 ≤ revealAt request e

structure Reverses : Prop where
  asked : c.request = some request
  phase : c.phase = .reversing
  started : c.phaseStartedUs ≤ nowUs
  origin : c.reverseOriginQ16 ≤ PROGRESS_MAX
  le : c.progressQ16 ≤ c.reverseOriginQ16
  above : ∀ e, nowUs - c.phaseStartedUs ≤ e →
    reverseAt request c.reverseOriginQ16 e ≤ c.progressQ16

structure ReturnedToSource : Prop where
  asked : c.request = some request
  phase : c.phase = .settled
  progress : c.progressQ16 = 0

structure ReachedDestination : Prop where
  asked : c.request = some request
  phase : c.phase = .settled
  progress : c.progressQ16 = PROGRESS_MAX
  covered : startedUs + (coverOf request).coverUs ≤ c.phaseStartedUs
  revealed : c.phaseStartedUs + revealUs request ≤ nowUs

end Shown

section Clauses

variable {request : NavigationTransitionRequest} {startedUs nowUs nowUs' : Nat}
  {c : NavigationTransitionController}

theorem Expands.later (h : Expands request startedUs nowUs c) (hnow : nowUs ≤ nowUs') :
    Expands request startedUs nowUs' c :=
  { h with below := fun e he => h.below e (by omega) }

theorem Holds.later (h : Holds request startedUs nowUs c) (hnow : nowUs ≤ nowUs') :
    Holds request startedUs nowUs' c :=
  { h with covered := Nat.le_trans h.covered hnow }

theorem Revealing.later (h : Revealing request startedUs nowUs c) (hnow : nowUs ≤ nowUs') :
    Revealing request startedUs nowUs' c :=
  { h with
    started := Nat.le_trans h.started hnow
    below := fun e he => h.below e (by omega) }

theorem Reverses.later (h : Reverses request nowUs c) (hnow : nowUs ≤ nowUs') :
    Reverses request nowUs' c :=
  { h with
    started := Nat.le_trans h.started hnow
    above := fun e he => h.above e (by omega) }

/-! ## 5. The three parts of a tick -/

variable (nowUs) in
/-- A turn back, from any progress. -/
theorem startReversing_turns (hrequest : c.request = some request)
    (hmax : c.progressQ16 ≤ PROGRESS_MAX) :
    ReturnedToSource request (c.startReversing nowUs) ∨
      Reverses request nowUs (c.startReversing nowUs) := by
  by_cases h : c.progressQ16 = 0
  · exact .inl ⟨hrequest, if_pos h, h⟩
  · exact .inr ⟨hrequest, if_neg h, Nat.le_refl _, hmax, Nat.le_refl _, fun e _ => Nat.sub_le ..⟩

/-- While the source is being covered. -/
theorem Expands.tickExpand (h : Expands request startedUs nowUs c) (ready : Bool)
    (hstarted : startedUs ≤ nowUs) (hnow : nowUs < 2 ^ 64) (hfits : request.durationUs < 2 ^ 64) :
    c.progressQ16 ≤ (c.tickExpand request nowUs ready).progressQ16 ∧
      ((nowUs < startedUs + (coverOf request).coverUs ∧
          Expands request startedUs nowUs (c.tickExpand request nowUs ready)) ∨
        (ready = false ∧ Holds request startedUs nowUs (c.tickExpand request nowUs ready)) ∨
        (ready = true ∧ Revealing request startedUs nowUs (c.tickExpand request nowUs ready))) := by
  unfold NavigationTransitionController.tickExpand
  rw [if_pos h.phase, h.started]
  dsimp only
  by_cases hcover : (coverOf request).coverUs ≤ nowUs - startedUs
  · have hstart : saturatingAdd startedUs (coverOf request).coverUs =
        startedUs + (coverOf request).coverUs := by
      unfold saturatingAdd
      omega
    rw [if_pos hcover, hstart]
    refine ⟨h.cover, .inr ?_⟩
    cases ready with
    | false => exact .inl ⟨rfl, h.asked, rfl, rfl, by omega, rfl⟩
    | true =>
        have hle : startedUs + (coverOf request).coverUs ≤ nowUs := by omega
        refine .inr ⟨rfl, h.asked, rfl, Nat.le_refl _, hle, Nat.le_refl _,
          fun e _ => cover_le_revealAt hfits⟩
  · have hlt : nowUs - startedUs < (coverOf request).coverUs := by omega
    rw [if_neg hcover]
    refine ⟨h.below _ (Nat.le_refl _) hlt, .inl ⟨by omega, h.asked, h.phase, rfl, ?_,
      expandAt_le hlt⟩⟩
    exact fun e he _ => expandAt_mono he

/-- While a covered source waits. -/
theorem Holds.tickCovered (h : Holds request startedUs nowUs c) (ready : Bool)
    (hfits : request.durationUs < 2 ^ 64) :
    (c.tickCovered request nowUs ready).progressQ16 = c.progressQ16 ∧
      ((ready = true ∧ Revealing request startedUs nowUs (c.tickCovered request nowUs ready)) ∨
        (ready = false ∧
          nowUs < startedUs + (coverOf request).coverUs + request.preparationTimeoutUs ∧
          Holds request startedUs nowUs (c.tickCovered request nowUs ready)) ∨
        (ready = false ∧ (c.tickCovered request nowUs ready).failure = some .destinationTimeout ∧
          (ReturnedToSource request (c.tickCovered request nowUs ready) ∨
            Reverses request nowUs (c.tickCovered request nowUs ready)))) := by
  have hcovered := h.covered
  have hstart := h.coveredStarted
  unfold NavigationTransitionController.tickCovered
  rw [if_pos h.phase]
  cases ready with
  | true =>
      refine ⟨rfl, .inl ⟨rfl, h.asked, rfl, ?_, ?_, Nat.le_of_eq h.progress.symm, fun e _ => ?_⟩⟩
      · show _ ≤ if nowUs = _ then _ else _
        split <;> omega
      · show (if nowUs = _ then _ else _) ≤ _
        split <;> omega
      · show c.progressQ16 ≤ _
        rw [h.progress]
        exact cover_le_revealAt hfits
  | false =>
      rw [if_neg Bool.false_ne_true]
      by_cases hlate : request.preparationTimeoutUs ≤ nowUs - c.coveredStartedUs
      · rw [if_pos hlate]
        have hturn := startReversing_turns nowUs
          (c := { c with failure := some .destinationTimeout }) h.asked
          (Nat.le_trans (Nat.le_of_eq h.progress) coverProgress_le)
        exact ⟨rfl, .inr (.inr ⟨rfl, rfl, hturn⟩)⟩
      · rw [if_neg hlate]
        exact ⟨rfl, .inr (.inl ⟨rfl, by omega, h⟩)⟩

/-- While the destination is revealed. -/
theorem Revealing.tickMotion (h : Revealing request startedUs nowUs c) :
    c.progressQ16 ≤ (c.tickMotion request nowUs).progressQ16 ∧
      ((nowUs < (c.tickMotion request nowUs).phaseStartedUs + revealUs request ∧
          Revealing request startedUs nowUs (c.tickMotion request nowUs)) ∨
        ReachedDestination request startedUs nowUs (c.tickMotion request nowUs)) := by
  have hstarted := h.started
  unfold NavigationTransitionController.tickMotion
  dsimp only
  rw [if_pos h.phase]
  have hreveal : revealUs request =
      max ((coverOf request).totalUs - (coverOf request).coverUs) 1 := rfl
  rw [← hreveal]
  by_cases hdone : revealUs request ≤ nowUs - c.phaseStartedUs
  · rw [if_pos hdone]
    refine ⟨Nat.le_trans (h.below _ (Nat.le_refl _)) revealAt_le, .inr ?_⟩
    have hle : c.phaseStartedUs + revealUs request ≤ nowUs := by omega
    exact ⟨h.asked, rfl, rfl, h.covered, hle⟩
  · rw [if_neg hdone]
    have hlt : nowUs < c.phaseStartedUs + revealUs request := by omega
    refine ⟨h.below _ (Nat.le_refl _), .inl ⟨hlt, ?_⟩⟩
    exact ⟨h.asked, h.phase, h.covered, h.started,
      Nat.le_trans h.cover (h.below _ (Nat.le_refl _)), fun e he => revealAt_mono he⟩

/-- On the way back. -/
theorem Reverses.tickMotion (h : Reverses request nowUs c) :
    (c.tickMotion request nowUs).progressQ16 ≤ c.progressQ16 ∧
      (c.tickMotion request nowUs).reverseOriginQ16 = c.reverseOriginQ16 ∧
      ((nowUs < (c.tickMotion request nowUs).phaseStartedUs + reverseUs request
            (c.tickMotion request nowUs).reverseOriginQ16 ∧
          Reverses request nowUs (c.tickMotion request nowUs)) ∨
        ReturnedToSource request (c.tickMotion request nowUs)) := by
  have hstarted := h.started
  unfold NavigationTransitionController.tickMotion
  dsimp only
  rw [if_neg (by rw [h.phase]; decide), if_pos h.phase]
  have hreverse : reverseUs request c.reverseOriginQ16 =
      max (saturatingMul (coverOf request).totalUs c.reverseOriginQ16 / PROGRESS_MAX) 1 := rfl
  rw [← hreverse]
  by_cases hdone : reverseUs request c.reverseOriginQ16 ≤ nowUs - c.phaseStartedUs
  · rw [if_pos hdone]
    exact ⟨Nat.zero_le _, rfl, .inr ⟨h.asked, rfl, rfl⟩⟩
  · rw [if_neg hdone]
    have hlt : nowUs < c.phaseStartedUs + reverseUs request c.reverseOriginQ16 := by omega
    exact ⟨h.above _ (Nat.le_refl _), rfl, .inl ⟨hlt, h.asked, h.phase, h.started, h.origin,
      Nat.sub_le .., fun e he => reverseAt_anti h.origin he⟩⟩

end Clauses

/-! ## 6. What a run knows -/

/-- The source was returned to, or is being returned to, on request or after a timeout. -/
def Timeline.TurnedBack (t : Timeline) : Prop :=
  t.reversed = true ∨ t.controller.failure = some .destinationTimeout

/-- A transition after its last step. -/
inductive Played (request : NavigationTransitionRequest) (startedUs : Nat) (t : Timeline) : Prop
  | expands (h : Expands request startedUs t.nowUs t.controller)
      (hlt : t.nowUs < startedUs + (coverOf request).coverUs ∨ t.nowUs = startedUs)
  | holds (h : Holds request startedUs t.nowUs t.controller)
      (hlt : t.nowUs < startedUs + (coverOf request).coverUs + request.preparationTimeoutUs)
  | reveals (h : Revealing request startedUs t.nowUs t.controller)
      (hlt : t.nowUs < t.controller.phaseStartedUs + revealUs request)
      (hready : t.destinationReady = true)
  | reverses (h : Reverses request t.nowUs t.controller) (hturn : t.TurnedBack)
  | source (h : ReturnedToSource request t.controller) (hturn : t.TurnedBack)
  | destination (h : ReachedDestination request startedUs t.nowUs t.controller)
      (hready : t.destinationReady = true)

/-- The phases in which a transition goes to its destination. -/
def goesOn (phase : NavigationTransitionPhase) : Prop :=
  phase = .expand ∨ phase = .covered ∨ phase = .reveal

/-- How the progress of a step goes. -/
structure Steady (c c' : NavigationTransitionController) : Prop where
  forth : goesOn c.phase → goesOn c'.phase → c.progressQ16 ≤ c'.progressQ16
  back : c.phase = .reversing →
    c'.progressQ16 ≤ c.progressQ16 ∧ c'.reverseOriginQ16 = c.reverseOriginQ16
  origin : c'.phase = .reversing → c'.progressQ16 ≤ c'.reverseOriginQ16

/-- The way back is not over. -/
def Returning (request : NavigationTransitionRequest) (nowUs : Nat)
    (c : NavigationTransitionController) : Prop :=
  c.phase = .reversing → nowUs < c.phaseStartedUs + reverseUs request c.reverseOriginQ16

section Steps

variable {request : NavigationTransitionRequest} {startedUs nowUs : Nat} {ready : Bool}
  {t : Timeline}

theorem tickExpand_of_ne {c : NavigationTransitionController} (h : c.phase ≠ .expand) :
    c.tickExpand request nowUs ready = c := if_neg h

theorem tickCovered_of_ne {c : NavigationTransitionController} (h : c.phase ≠ .covered) :
    c.tickCovered request nowUs ready = c := if_neg h

theorem tickMotion_of_ne {c : NavigationTransitionController} (h : c.phase ≠ .reveal)
    (h' : c.phase ≠ .reversing) : c.tickMotion request nowUs = c := by
  unfold tickMotion
  dsimp only
  rw [if_neg h, if_neg h']

variable (request nowUs) in
theorem tickMotion_failure (c : NavigationTransitionController) :
    (c.tickMotion request nowUs).failure = c.failure := by
  unfold tickMotion
  dsimp only
  split
  · split <;> rfl
  · split
    · split <;> rfl
    · rfl

/-- A tick is its three parts, one after the other. -/
theorem tick_parts {c : NavigationTransitionController} (h : c.request = some request) :
    (c.tick nowUs ready).1 =
      ((c.tickExpand request nowUs ready).tickCovered request nowUs ready).tickMotion request
        nowUs := by
  unfold tick
  rw [h]

variable {c c' : NavigationTransitionController}

/-- What a tick leaves of a transition that goes on. -/
structure WentOn (request : NavigationTransitionRequest) (startedUs nowUs : Nat) (ready : Bool)
    (c c' : NavigationTransitionController) : Prop where
  played : Played request startedUs ⟨c', nowUs, ready, false⟩
  forth : goesOn c'.phase → c.progressQ16 ≤ c'.progressQ16
  origin : c'.phase = .reversing → c'.progressQ16 ≤ c'.reverseOriginQ16
  returning : Returning request nowUs c'

theorem returning_of_ne (h : c.phase ≠ .reversing) : Returning request nowUs c := fun e =>
  absurd e h

theorem Revealing.wentOn (h : Revealing request startedUs nowUs c) :
    WentOn request startedUs nowUs true c (c.tickMotion request nowUs) := by
  obtain ⟨hle, ⟨hlt, h'⟩ | h'⟩ := h.tickMotion
  · have hne := ne_of_eq_of_ne h'.phase (by decide : _ ≠ NavigationTransitionPhase.reversing)
    exact ⟨.reveals h' hlt rfl, fun _ => hle, fun e => absurd e hne, returning_of_ne hne⟩
  · have hne := ne_of_eq_of_ne h'.phase (by decide : _ ≠ NavigationTransitionPhase.reversing)
    exact ⟨.destination h' rfl, fun _ => hle, fun e => absurd e hne, returning_of_ne hne⟩

theorem not_goesOn_settled : ¬ goesOn .settled := by
  rintro (h | h | h) <;> cases h

theorem not_goesOn_reversing : ¬ goesOn .reversing := by
  rintro (h | h | h) <;> cases h

theorem Holds.wentOn (h : Holds request startedUs nowUs c) (ready : Bool)
    (hfits : request.durationUs < 2 ^ 64) :
    WentOn request startedUs nowUs ready c
      ((c.tickCovered request nowUs ready).tickMotion request nowUs) := by
  obtain ⟨heq, ⟨rfl, h'⟩ | ⟨rfl, hlt, h'⟩ | ⟨rfl, hfail, h' | h'⟩⟩ := h.tickCovered ready hfits
  · have hw := h'.wentOn
    exact ⟨hw.played, fun hg => heq ▸ hw.forth hg, hw.origin, hw.returning⟩
  · have hne := ne_of_eq_of_ne h'.phase (by decide : _ ≠ NavigationTransitionPhase.reversing)
    rw [tickMotion_of_ne (by rw [h'.phase]; decide) hne]
    exact ⟨.holds h' hlt, fun _ => Nat.le_of_eq heq.symm, fun e => absurd e hne,
      returning_of_ne hne⟩
  · have hne := ne_of_eq_of_ne h'.phase (by decide : _ ≠ NavigationTransitionPhase.reversing)
    rw [tickMotion_of_ne (by rw [h'.phase]; decide) hne]
    exact ⟨.source h' (.inr hfail), fun hg => absurd (h'.phase ▸ hg) not_goesOn_settled,
      fun e => absurd e hne, returning_of_ne hne⟩
  · obtain ⟨hle, horigin, hmotion⟩ := h'.tickMotion
    have hturn := (tickMotion_failure request nowUs _).trans hfail
    obtain ⟨hlt, h''⟩ | h'' := hmotion
    · exact ⟨.reverses h'' (.inr hturn), fun hg => absurd (h''.phase ▸ hg) not_goesOn_reversing,
        fun _ => h''.le, fun _ => hlt⟩
    · have hne := ne_of_eq_of_ne h''.phase (by decide : _ ≠ NavigationTransitionPhase.reversing)
      exact ⟨.source h'' (.inr hturn), fun hg => absurd (h''.phase ▸ hg) not_goesOn_settled,
        fun e => absurd e hne, returning_of_ne hne⟩

theorem Expands.wentOn (h : Expands request startedUs nowUs c) (ready : Bool)
    (hstarted : startedUs ≤ nowUs) (hnow : nowUs < 2 ^ 64) (hfits : request.durationUs < 2 ^ 64) :
    WentOn request startedUs nowUs ready c
      (((c.tickExpand request nowUs ready).tickCovered request nowUs ready).tickMotion request
        nowUs) := by
  obtain ⟨hle, ⟨hlt, h'⟩ | ⟨rfl, h'⟩ | ⟨rfl, h'⟩⟩ := h.tickExpand ready hstarted hnow hfits
  · have hne := ne_of_eq_of_ne h'.phase (by decide : _ ≠ NavigationTransitionPhase.reversing)
    rw [tickCovered_of_ne (by rw [h'.phase]; decide),
      tickMotion_of_ne (by rw [h'.phase]; decide) hne]
    exact ⟨.expands h' (.inl hlt), fun _ => hle, fun e => absurd e hne, returning_of_ne hne⟩
  · have hw := h'.wentOn false hfits
    exact ⟨hw.played, fun hg => Nat.le_trans hle (hw.forth hg), hw.origin, hw.returning⟩
  · rw [tickCovered_of_ne (by rw [h'.phase]; decide)]
    have hw := h'.wentOn
    exact ⟨hw.played, fun hg => Nat.le_trans hle (hw.forth hg), hw.origin, hw.returning⟩

/-- What is known does not depend on a reversal that was noted. -/
theorem Played.noted (h : Played request startedUs ⟨c, nowUs, ready, false⟩) (reversed : Bool) :
    Played request startedUs ⟨c, nowUs, ready, reversed⟩ := by
  have hturn : Timeline.TurnedBack ⟨c, nowUs, ready, false⟩ →
      Timeline.TurnedBack ⟨c, nowUs, ready, reversed⟩ := fun h =>
    h.elim (fun e => by cases e) .inr
  cases h with
  | expands h hlt => exact .expands h hlt
  | holds h hlt => exact .holds h hlt
  | reveals h hlt hready => exact .reveals h hlt hready
  | reverses h ht => exact .reverses h (hturn ht)
  | source h ht => exact .source h (hturn ht)
  | destination h hready => exact .destination h hready

theorem WentOn.steady (h : WentOn request startedUs nowUs ready c c') (hc : goesOn c.phase) :
    Steady c c' where
  forth _ := h.forth
  back e := absurd (e ▸ hc) not_goesOn_reversing
  origin := h.origin

theorem steady_settled (h : c.phase = .settled) : Steady c c where
  forth hg := absurd (h ▸ hg) not_goesOn_settled
  back e := absurd (h.symm.trans e) (by decide)
  origin e := absurd (h.symm.trans e) (by decide)

variable (nowUs ready) in
/-- A tick of a transition that has covered its source and does not wait. -/
theorem tick_moving (hasked : c.request = some request) (h : c.phase ≠ .expand)
    (h' : c.phase ≠ .covered) : (c.tick nowUs ready).1 = c.tickMotion request nowUs := by
  rw [tick_parts hasked, tickExpand_of_ne h, tickCovered_of_ne h']

/-- A settled transition stays as it is. -/
theorem tick_settled (hasked : c.request = some request) (h : c.phase = .settled) :
    (c.tick nowUs ready).1 = c := by
  rw [tick_parts hasked, tickExpand_of_ne (by rw [h]; decide),
    tickCovered_of_ne (by rw [h]; decide),
    tickMotion_of_ne (by rw [h]; decide) (by rw [h]; decide)]

/-- **A tick.** -/
theorem Played.tick (h : Played request startedUs t) (hstarted : startedUs ≤ t.nowUs)
    (hfits : request.durationUs < 2 ^ 64) (hstep : t.Ordered (.tick nowUs ready)) :
    Played request startedUs (t.next (.tick nowUs ready)) ∧
      Steady t.controller (t.next (.tick nowUs ready)).controller ∧
      Returning request nowUs (t.next (.tick nowUs ready)).controller := by
  obtain ⟨hle, hnow, hready⟩ := hstep
  cases h with
  | expands h hlt =>
      have hw := (h.later hle).wentOn ready (Nat.le_trans hstarted hle) hnow hfits
      rw [← tick_parts h.asked] at hw
      exact ⟨hw.played.noted _, hw.steady (.inl h.phase), hw.returning⟩
  | holds h hlt =>
      have hw := (h.later hle).wentOn ready hfits
      have htick : (t.controller.tick nowUs ready).1 =
          (t.controller.tickCovered request nowUs ready).tickMotion request nowUs := by
        rw [tick_parts h.asked, tickExpand_of_ne (by rw [h.phase]; decide)]
      rw [← htick] at hw
      exact ⟨hw.played.noted _, hw.steady (.inr (.inl h.phase)), hw.returning⟩
  | reveals h hlt hr =>
      obtain rfl : ready = true := hready hr
      have hw := (h.later hle).wentOn
      rw [← tick_moving _ _ h.asked (by rw [h.phase]; decide) (by rw [h.phase]; decide)] at hw
      exact ⟨hw.played.noted _, hw.steady (.inr (.inr h.phase)), hw.returning⟩
  | reverses h hturn =>
      obtain ⟨hback, horigin, hmotion⟩ := (h.later hle).tickMotion
      have hfail := tickMotion_failure request nowUs t.controller
      have htick := tick_moving nowUs ready h.asked
        (by rw [h.phase]; decide) (by rw [h.phase]; decide)
      rw [← htick] at hback horigin hmotion hfail
      have hturn' : (t.next (.tick nowUs ready)).TurnedBack :=
        hturn.imp_right fun he => hfail.trans he
      have hsteady : Steady t.controller (t.controller.tick nowUs ready).1 :=
        ⟨fun hg => absurd (h.phase ▸ hg) not_goesOn_reversing, fun _ => ⟨hback, horigin⟩,
          fun _ => by rw [horigin]; exact Nat.le_trans hback h.le⟩
      obtain ⟨hlt', h'⟩ | h' := hmotion
      · exact ⟨.reverses h' hturn', hsteady, fun _ => hlt'⟩
      · exact ⟨.source h' hturn', hsteady,
          returning_of_ne (ne_of_eq_of_ne h'.phase (by decide))⟩
  | source h hturn =>
      have htick : t.next (.tick nowUs ready) = { t with nowUs, destinationReady := ready } :=
        congrArg (Timeline.mk · nowUs ready t.reversed) (tick_settled h.asked h.phase)
      rw [htick]
      exact ⟨.source h hturn, steady_settled h.phase,
        returning_of_ne (ne_of_eq_of_ne h.phase (by decide))⟩
  | destination h hr =>
      have htick : t.next (.tick nowUs ready) = { t with nowUs, destinationReady := ready } :=
        congrArg (Timeline.mk · nowUs ready t.reversed) (tick_settled h.asked h.phase)
      rw [htick]
      exact ⟨.destination { h with revealed := Nat.le_trans h.revealed hle } (hready hr),
        steady_settled h.phase, returning_of_ne (ne_of_eq_of_ne h.phase (by decide))⟩

/-- **A request to turn back.** -/
theorem Played.requestReverse (h : Played request startedUs t)
    (hstep : t.Ordered (.requestReverse nowUs)) :
    Played request startedUs (t.next (.requestReverse nowUs)) ∧
      Steady t.controller (t.next (.requestReverse nowUs)).controller := by
  obtain ⟨hle, hnow⟩ := hstep
  have hturns : goesOn t.controller.phase → t.controller.request = some request →
      t.controller.progressQ16 ≤ PROGRESS_MAX →
      Played request startedUs (t.next (.requestReverse nowUs)) ∧
        Steady t.controller (t.next (.requestReverse nowUs)).controller := by
    intro hgoes hasked hmax
    have hreq : t.controller.requestReverse nowUs = (t.controller.startReversing nowUs, true) :=
      if_pos hgoes
    have hnext : t.next (.requestReverse nowUs) =
        ⟨t.controller.startReversing nowUs, nowUs, t.destinationReady, t.reversed || true⟩ := by
      show Timeline.mk _ _ _ _ = _
      rw [hreq]
    rw [hnext]
    have hturn : Timeline.TurnedBack ⟨t.controller.startReversing nowUs, nowUs,
        t.destinationReady, t.reversed || true⟩ := .inl (Bool.or_true _)
    obtain h' | h' := startReversing_turns nowUs hasked hmax
    · exact ⟨.source h' hturn, fun _ hg => absurd (h'.phase ▸ hg) not_goesOn_settled,
        fun e => absurd (e ▸ hgoes) not_goesOn_reversing,
        fun e => absurd (h'.phase.symm.trans e) (by decide)⟩
    · exact ⟨.reverses h' hturn, fun _ hg => absurd (h'.phase ▸ hg) not_goesOn_reversing,
        fun e => absurd (e ▸ hgoes) not_goesOn_reversing, fun _ => Nat.le_refl _⟩
  have hkeeps : ¬ goesOn t.controller.phase →
      t.next (.requestReverse nowUs) = { t with nowUs } := by
    intro hgoes
    have hreq : t.controller.requestReverse nowUs = (t.controller, false) := if_neg hgoes
    show Timeline.mk _ _ _ _ = _
    rw [hreq, Bool.or_false]
  cases h with
  | expands h hlt =>
      exact hturns (.inl h.phase) h.asked (Nat.le_trans h.cover coverProgress_le)
  | holds h hlt =>
      exact hturns (.inr (.inl h.phase)) h.asked
        (Nat.le_trans (Nat.le_of_eq h.progress) coverProgress_le)
  | reveals h hlt hr =>
      exact hturns (.inr (.inr h.phase)) h.asked
        (Nat.le_trans (h.below _ (Nat.le_refl _)) revealAt_le)
  | reverses h hturn =>
      rw [hkeeps (h.phase ▸ not_goesOn_reversing)]
      exact ⟨.reverses (h.later hle) hturn, fun hg => absurd (h.phase ▸ hg) not_goesOn_reversing,
        fun _ => ⟨Nat.le_refl _, rfl⟩, fun _ => h.le⟩
  | source h hturn =>
      rw [hkeeps (h.phase ▸ not_goesOn_settled)]
      exact ⟨.source h hturn, steady_settled h.phase⟩
  | destination h hr =>
      rw [hkeeps (h.phase ▸ not_goesOn_settled)]
      exact ⟨.destination { h with revealed := Nat.le_trans h.revealed hle } hr,
        steady_settled h.phase⟩

/-- **The step.** -/
theorem Played.next {s : Timeline} {step : TimelineStep} (h : Played request startedUs s)
    (hstarted : startedUs ≤ s.nowUs)
    (hfits : request.durationUs < 2 ^ 64) (hstep : s.Ordered step) :
    Played request startedUs (s.next step) ∧ startedUs ≤ (s.next step).nowUs ∧
      Steady s.controller (s.next step).controller ∧
      ((∃ nowUs ready, step = .tick nowUs ready) →
        Returning request (s.next step).nowUs (s.next step).controller) := by
  cases step with
  | tick nowUs ready =>
      obtain ⟨hplayed, hsteady, hreturning⟩ := h.tick hstarted hfits hstep
      exact ⟨hplayed, Nat.le_trans hstarted hstep.1, hsteady, fun _ => hreturning⟩
  | requestReverse nowUs =>
      obtain ⟨hplayed, hsteady⟩ := h.requestReverse hstep
      refine ⟨hplayed, Nat.le_trans hstarted hstep.1, hsteady, ?_⟩
      rintro ⟨_, _, h⟩
      cases h

end Steps

/-! ## 7. Every run -/

/-- A step of a transition that began to cover its source at `startedUs`. -/
structure KeepsTime (request : NavigationTransitionRequest) (startedUs : Nat) (s t : Timeline)
    (step : TimelineStep) : Prop where
  steady : Steady s.controller t.controller
  reveal : t.controller.phase = .reveal → t.destinationReady = true
  exact_ : t.controller.phase = .settled →
    t.controller.progressQ16 = 0 ∨ t.controller.progressQ16 = PROGRESS_MAX
  /-- The cover and, from a later moment on, the reveal ran to their ends. -/
  destination : t.controller.endpoint = some .destination →
    t.destinationReady = true ∧
      startedUs + (coverOf request).coverUs ≤ t.controller.phaseStartedUs ∧
      t.controller.phaseStartedUs + revealUs request ≤ t.nowUs
  source : t.controller.endpoint = some .source → t.TurnedBack
  /-- A leg that is not over by then began late. -/
  settles : (∃ nowUs ready, step = .tick nowUs ready) →
    startedUs + 2 * request.durationUs + request.preparationTimeoutUs ≤ t.nowUs →
      t.controller.phase = .settled ∨
        (startedUs + request.durationUs + request.preparationTimeoutUs <
            t.controller.phaseStartedUs ∧
          ((t.controller.phase = .reveal ∧ t.destinationReady = true ∧
              t.nowUs < t.controller.phaseStartedUs + revealUs request) ∨
            (t.controller.phase = .reversing ∧ t.TurnedBack ∧
              t.nowUs < t.controller.phaseStartedUs +
                reverseUs request t.controller.reverseOriginQ16)))

namespace Timeline

variable {request : NavigationTransitionRequest} {beganUs capturedUs : Nat} {s : Timeline}
  {steps : List TimelineStep}

theorem started_played (request : NavigationTransitionRequest) (beganUs capturedUs : Nat) :
    Played request capturedUs (started request beganUs capturedUs) :=
  .expands ⟨rfl, rfl, rfl, fun _ _ _ => Nat.zero_le _, Nat.zero_le _⟩ (.inr rfl)

/-- **The run.** -/
theorem run_played (hfits : request.durationUs < 2 ^ 64)
    (h : (machine request beganUs capturedUs).Run (started request beganUs capturedUs) steps s) :
    Played request capturedUs s ∧ capturedUs ≤ s.nowUs := by
  refine h.invariant (P := fun s => Played request capturedUs s ∧ capturedUs ≤ s.nowUs)
    (fun s step t hs hstep => ?_) ⟨started_played _ _ _, Nat.le_refl _⟩
  obtain ⟨hordered, rfl⟩ := hstep
  obtain ⟨hplayed, hle, -⟩ := hs.1.next hs.2 hfits hordered
  exact ⟨hplayed, hle⟩

end Timeline

section Facts

variable {request : NavigationTransitionRequest} {startedUs : Nat} {t : Timeline}

theorem Played.reveal_ready (h : Played request startedUs t)
    (hphase : t.controller.phase = .reveal) : t.destinationReady = true := by
  cases h with
  | reveals h hlt hready => exact hready
  | destination h hready => exact hready
  | expands h _ | holds h _ | reverses h _ | source h _ =>
      exact absurd (h.phase.symm.trans hphase) (by decide)

/-- Where a settled transition is. -/
theorem Played.settled_cases (h : Played request startedUs t)
    (hphase : t.controller.phase = .settled) :
    (t.controller.progressQ16 = 0 ∧ t.TurnedBack) ∨
      (t.controller.progressQ16 = PROGRESS_MAX ∧ t.destinationReady = true ∧
        startedUs + (coverOf request).coverUs ≤ t.controller.phaseStartedUs ∧
        t.controller.phaseStartedUs + revealUs request ≤ t.nowUs) := by
  cases h with
  | source h hturn => exact .inl ⟨h.progress, hturn⟩
  | destination h hready => exact .inr ⟨h.progress, hready, h.covered, h.revealed⟩
  | expands h _ | holds h _ | reveals h _ _ | reverses h _ =>
      exact absurd (h.phase.symm.trans hphase) (by decide)

theorem endpoint_eq_some {c : NavigationTransitionController}
    {endpoint : NavigationTransitionEndpoint} (h : c.endpoint = some endpoint) :
    c.phase = .settled ∧ (endpoint = .source ↔ c.progressQ16 = 0) := by
  unfold NavigationTransitionController.endpoint at h
  split at h
  · cases h
  · rename_i hphase
    refine ⟨not_not.mp hphase, ?_⟩
    split at h <;> cases h <;> simp_all

/-- When a transition has settled. -/
theorem Played.settles (h : Played request startedUs t) (hpos : 0 < request.durationUs)
    (hreturning : Returning request t.nowUs t.controller)
    (hlate : startedUs + 2 * request.durationUs + request.preparationTimeoutUs ≤ t.nowUs) :
    t.controller.phase = .settled ∨
      (startedUs + request.durationUs + request.preparationTimeoutUs <
          t.controller.phaseStartedUs ∧
        ((t.controller.phase = .reveal ∧ t.destinationReady = true ∧
            t.nowUs < t.controller.phaseStartedUs + revealUs request) ∨
          (t.controller.phase = .reversing ∧ t.TurnedBack ∧
            t.nowUs < t.controller.phaseStartedUs +
              reverseUs request t.controller.reverseOriginQ16))) := by
  have htotal : (coverOf request).totalUs = request.durationUs := Nat.max_eq_left hpos
  have hcover := @coverUs_le request
  cases h with
  | expands h hlt => omega
  | holds h hlt => omega
  | reveals h hlt hready =>
      have hreveal := @revealUs_le request
      exact .inr ⟨by omega, .inl ⟨h.phase, hready, hlt⟩⟩
  | reverses h hturn =>
      have hreverse := reverseUs_le request h.origin
      have hlt := hreturning h.phase
      exact .inr ⟨by omega, .inr ⟨h.phase, hturn, hlt⟩⟩
  | source h hturn => exact .inl h.phase
  | destination h hready => exact .inl h.phase

end Facts

/-- **A transition keeps its time.** In every run after `captured`, with times that do not go back
and a destination that stays ready: the progress grows while the transition goes on and falls on the
way back, below its origin; a reveal finds the destination ready; a settled transition is at an
exact end, at the destination after a whole cover and a whole reveal, at the source after a turn
back; and a tick twice the duration and the timeout after the start finds it settled, or on a leg
that began later than the duration and the timeout and is not over yet. -/
theorem navigation_keeps_time {request : NavigationTransitionRequest} {beganUs capturedUs : Nat}
    {steps : List TimelineStep} {s t : Timeline} {step : TimelineStep}
    (hpos : 0 < request.durationUs) (hfits : request.durationUs < 2 ^ 64)
    (h : (Timeline.machine request beganUs capturedUs).Run
      (Timeline.started request beganUs capturedUs) steps s)
    (hstep : (Timeline.machine request beganUs capturedUs).step s step t) :
    KeepsTime request capturedUs s t step := by
  obtain ⟨hplayed, hle⟩ := Timeline.run_played hfits h
  obtain ⟨hordered, rfl⟩ := hstep
  obtain ⟨hplayed', -, hsteady, hreturning⟩ := hplayed.next hle hfits hordered
  refine ⟨hsteady, hplayed'.reveal_ready, fun hphase => ?_, fun hend => ?_, fun hend => ?_,
    fun htick hlate => hplayed'.settles hpos (hreturning htick) hlate⟩
  · exact (hplayed'.settled_cases hphase).imp And.left And.left
  · obtain ⟨hphase, hzero⟩ := endpoint_eq_some hend
    obtain ⟨hp, -⟩ | ⟨-, hfacts⟩ := hplayed'.settled_cases hphase
    · cases hzero.mpr hp
    · exact hfacts
  · obtain ⟨hphase, hzero⟩ := endpoint_eq_some hend
    obtain ⟨-, hturn⟩ | ⟨hp, -⟩ := hplayed'.settled_cases hphase
    · exact hturn
    · rw [hzero.mp rfl] at hp
      cases hp

/-! ## 8. Sixty ticks a second -/

/-- A panel whose cover takes its whole duration. -/
def panelRequest : NavigationTransitionRequest :=
  ⟨.forward, 120000, 100000, .systemPanel false, fun _ => by decide⟩

/-- Ticks every 16667 µs, the destination never ready. -/
def frameTicks (count : Nat) : List TimelineStep :=
  (List.range count).map fun frame => .tick (16667 * frame) false

/-- The run up to the first tick later than two durations and the timeout. -/
theorem panel_keeps_time :
    let s := (frameTicks 21).foldl Timeline.next (Timeline.started panelRequest 0 0)
    KeepsTime panelRequest 0 s (s.next (.tick 350007 false)) (.tick 350007 false) :=
  navigation_keeps_time (by decide) (by decide) (Base.Machine.run_ofNext (by decide +kernel))
    ⟨by decide +kernel, rfl⟩

/-- Settled at the deadline, or one reveal after it where the destination is ready. -/
def SettlesInTime (request : NavigationTransitionRequest) (startedUs : Nat) (t : Timeline) : Prop :=
  startedUs + 2 * request.durationUs + request.preparationTimeoutUs ≤ t.nowUs →
    t.controller.phase = .settled ∨
      (t.destinationReady = true ∧
        (t.next (.tick (t.nowUs + revealUs request) true)).controller.phase = .settled)

/-- The timeout is noticed by the first tick after it, and the way back is as long as the cover. -/
theorem panel_settles_late :
    ((frameTicks 22).foldl Timeline.next (Timeline.started panelRequest 0 0)).controller.phase =
        .reversing ∧
      ¬ ∀ request capturedUs steps t, 0 < request.durationUs →
        (Timeline.machine request 0 capturedUs).Run (Timeline.started request 0 capturedUs) steps
          t → SettlesInTime request capturedUs t := by
  have hphase : ((frameTicks 22).foldl Timeline.next
      (Timeline.started panelRequest 0 0)).controller.phase = .reversing := by decide +kernel
  refine ⟨hphase, fun h => ?_⟩
  have hsettles := h panelRequest 0 (frameTicks 22) _ (by decide)
    (Base.Machine.run_ofNext (by decide +kernel)) (by decide +kernel)
  obtain hsettled | ⟨hready, -⟩ := hsettles
  · rw [hphase] at hsettled
    cases hsettled
  · exact absurd hready (by decide +kernel)

end MisterMagik.Launcher
