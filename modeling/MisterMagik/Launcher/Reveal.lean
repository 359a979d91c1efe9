/-
  File:      MisterMagik/Launcher/Reveal.lean
  Subject:   The startup reveal over every order of inputs, ticks and presented frames.

  What is shown stays shown, but for one input: a return context that arrives late sets the reveal
  state whatever it was.

  * `Reveals` -- what every other call may do to the reveal fields;
  * `Timely` -- the steps that bring no context late;
  * `reveal_monotone` -- in every run of such steps; `late_context_hides_launcher` without.
-/
import MisterMagik.Base.Machine
import MisterMagik.Launcher.Lifecycle

namespace MisterMagik.Launcher

open MisterMagik.Base

/-! ## 1. The machine -/

inductive RevealStep where
  | handle (input : LauncherLifecycleInput)
  | classifyStartupCatalog (input : StartupCatalogState)
  | tickStartupReveal (now : Nat) (catalogReady : Bool)
  | noteStartupFramePresented (frame now : Nat)
  deriving DecidableEq

namespace LauncherLifecycle

def next (s : LauncherLifecycle) : RevealStep → LauncherLifecycle
  | .handle input => (s.handle input).lifecycle
  | .classifyStartupCatalog input => (s.classifyStartupCatalog input).lifecycle
  | .tickStartupReveal now catalogReady => (s.tickStartupReveal now catalogReady).lifecycle
  | .noteStartupFramePresented frame now => (s.noteStartupFramePresented frame now).lifecycle

/-- A lifecycle after `begin_startup_reveal`. -/
structure Begun (mode : StartupMode) (start : Nat) (s : LauncherLifecycle) : Prop where
  begun : ∃ before : LauncherLifecycle, s = (before.beginStartupReveal mode start).lifecycle

end LauncherLifecycle

open LauncherLifecycle

def revealSystem (mode : StartupMode) (start : Nat) : Machine LauncherLifecycle RevealStep :=
  .ofNext (Begun mode start) next

/-- **The condition on a step**: no return context arrives once input is enabled, and none that
    expects a preview once a frame can be presented. -/
def Timely (s : LauncherLifecycle) : RevealStep → Prop
  | .handle (.startupReturnContextRestored context) =>
      if context.previewExpected then s.startupCanPresentFrame = false
      else s.startupInputEnabled = false
  | _ => True

/-! ## 2. What a call does to the reveal fields -/

/-- The reveal state stays or becomes `RevealLauncher`; when input was enabled, it stays. -/
structure Reveals (s t : LauncherLifecycle) : Prop where
  mode : t.startupMode = s.startupMode
  started : t.startupStartedAt = s.startupStartedAt
  input : t.startupInputEnabledAt = s.startupInputEnabledAt
  reveal : t.startupRevealState = s.startupRevealState ∨
    (t.startupRevealState = .revealLauncher ∧ s.startupRevealState ≠ .inputEnabled)

section Calls

variable {s t u : LauncherLifecycle}

theorem Reveals.refl (s : LauncherLifecycle) : Reveals s s := ⟨rfl, rfl, rfl, .inl rfl⟩

theorem Reveals.trans (h : Reveals s t) (h' : Reveals t u) : Reveals s u := by
  refine ⟨h'.mode.trans h.mode, h'.started.trans h.started, h'.input.trans h.input, ?_⟩
  rcases h'.reveal with hsame | ⟨hreveal, hne⟩
  · rw [hsame]
    exact h.reveal
  · rcases h.reveal with hsame | ⟨-, hne'⟩
    · rw [hsame] at hne
      exact .inr ⟨hreveal, hne⟩
    · exact .inr ⟨hreveal, hne'⟩

theorem Reveals.canPresent (h : Reveals s t) (hs : s.startupCanPresentFrame = true) :
    t.startupCanPresentFrame = true := by
  unfold startupCanPresentFrame at *
  rcases h.reveal with hsame | ⟨hreveal, -⟩
  · rw [hsame]
    exact hs
  · rw [hreveal]
    rfl

theorem reveals_transition (s : LauncherLifecycle) (state : LauncherLifecycleState)
    (reason : String) : Reveals s (s.transition state reason).lifecycle := by
  unfold transition
  split <;> exact ⟨rfl, rfl, rfl, .inl rfl⟩

theorem reveals_markRevealReady (s : LauncherLifecycle) (detail : String) :
    Reveals s (s.markRevealReady detail).lifecycle := by
  unfold markRevealReady
  split
  · exact .refl s
  · exact .refl s
  · rename_i hne
    exact ⟨rfl, rfl, rfl, .inr ⟨rfl, hne⟩⟩

/-- After `mark_reveal_ready` a frame can be presented. -/
theorem canPresent_markRevealReady (s : LauncherLifecycle) (detail : String) :
    (s.markRevealReady detail).lifecycle.startupCanPresentFrame = true := by
  unfold markRevealReady startupCanPresentFrame
  split
  · rename_i h
    rw [show s.quiet.lifecycle = s from rfl, h]
    rfl
  · rename_i h
    rw [show s.quiet.lifecycle = s from rfl, h]
    rfl
  · rfl

theorem reveals_andThen {r : Emits} {f : LauncherLifecycle → Emits} (h : Reveals s r.lifecycle)
    (hf : ∀ t, Reveals t (f t).lifecycle) : Reveals s (r.andThen f).lifecycle :=
  h.trans (hf r.lifecycle)

theorem reveals_recoverySelected (s : LauncherLifecycle) (selected : CatalogRecoveryChoice)
    (reason : String) : Reveals s (s.recoverySelected selected reason).lifecycle := by
  unfold recoverySelected
  split
  · exact reveals_transition _ _ _
  · exact .refl s

theorem reveals_recoveryConfirmed (s : LauncherLifecycle) :
    Reveals s s.recoveryConfirmed.lifecycle := by
  unfold recoveryConfirmed
  split
  · split <;> exact reveals_transition _ _ _
  · exact .refl s

theorem reveals_handleClassified (s : LauncherLifecycle) (input : LauncherLifecycleInput) :
    Reveals s (s.handleClassified input).lifecycle := by
  have htwo : ∀ first second reason, Reveals s ((s.transition first reason).andThen
      fun t => t.transition second "catalog_idle").lifecycle := fun first second reason =>
    reveals_andThen (reveals_transition _ _ _) fun t => reveals_transition t _ _
  have hfail : ∀ state reason detail, Reveals s ((s.transition state reason).andThen
      fun t => t.markRevealReady detail).lifecycle := fun state reason detail =>
    reveals_andThen (reveals_transition _ _ _) fun t => reveals_markRevealReady t _
  have hlaunch : ∀ effect state reason, Reveals s ((s.quiet.push effect).andThen
      fun t => t.transition state reason).lifecycle := fun effect state reason =>
    reveals_andThen (.refl s) fun t => reveals_transition t _ _
  cases input with
  | catalogReady source validating =>
      simp only [handleClassified]
      split
      · split
        · exact reveals_transition _ _ _
        · exact htwo _ _ _
      · exact .refl s
  | catalogBuilding mode foreground hasStaleCatalog =>
      simp only [handleClassified]
      split <;> first | exact reveals_transition _ _ _ | exact .refl s
  | catalogLoadFailed error hasStaleCatalog transient =>
      simp only [handleClassified]
      split
      · exact hfail _ _ _
      · exact .refl s
  | catalogRecoveryRequired error hasStaleCatalog mode =>
      simp only [handleClassified]
      split
      · exact hfail _ _ _
      · exact .refl s
  | catalogRecoveryLeft => exact reveals_recoverySelected s _ _
  | catalogRecoveryRight => exact reveals_recoverySelected s _ _
  | catalogRecoveryConfirm => exact reveals_recoveryConfirmed s
  | catalogRecoveryCancel =>
      simp only [handleClassified]
      split
      · split <;> exact reveals_transition _ _ _
      · exact .refl s
  | catalogValidationStarted =>
      simp only [handleClassified]
      split
      · exact reveals_transition _ _ _
      · exact .refl s
  | catalogValidationFinished =>
      simp only [handleClassified]
      split
      · exact htwo _ _ _
      · exact .refl s
  | launchRequested launchRef =>
      simp only [handleClassified]
      split
      · split
        · exact hlaunch _ _ _
        · exact .refl s
      · split
        · exact hlaunch _ _ _
        · exact .refl s
      · exact .refl s
  | launchFailed title kind detail =>
      simp only [handleClassified]
      split
      · exact hlaunch _ _ _
      · exact .refl s
  | launchFailureAcknowledge =>
      simp only [handleClassified]
      split
      · exact hlaunch _ _ _
      · exact .refl s
  | launchSucceeded spawnedMister =>
      simp only [handleClassified]
      split
      · exact reveals_transition _ _ _
      · exact .refl s
  | launchTimedOut =>
      simp only [handleClassified]
      split
      · exact hlaunch _ _ _
      · exact .refl s
  | startupRevealReady _ | startupReturnCatalogHydrationNeeded | startupReturnContextRestored _
  | startupReturnPreviewReady _ => exact .refl s

theorem reveals_classifyStartupCatalog (s : LauncherLifecycle) (input : StartupCatalogState) :
    Reveals s (s.classifyStartupCatalog input).lifecycle := by
  have hclassified : Reveals s { s with startupCatalogClassified := true } :=
    ⟨rfl, rfl, rfl, .inl rfl⟩
  refine hclassified.trans ?_
  unfold classifyStartupCatalog
  cases input with
  | ready source validationScheduled =>
      dsimp only
      split
      · exact reveals_transition _ _ _
      · exact reveals_andThen (reveals_transition _ _ _) fun t => reveals_transition t _ _
  | building mode foregroundCatalogUpdate hasStaleCatalog => exact reveals_transition _ _ _
  | loadFailed error hasStaleCatalog transient =>
      exact reveals_andThen (reveals_transition _ _ _) fun t => reveals_markRevealReady t _

theorem reveals_tickStartupReveal (s : LauncherLifecycle) (now : Nat) (catalogReady : Bool) :
    Reveals s (s.tickStartupReveal now catalogReady).lifecycle := by
  have htimeout : ∀ name text detail, Reveals s ((s.quiet.startupEvent name text).andThen
      fun t => t.markRevealReady detail).lifecycle := fun name text detail =>
    reveals_andThen (.refl s) fun t => reveals_markRevealReady t _
  unfold tickStartupReveal
  split
  · exact .refl s
  · dsimp only
    split
    · exact htimeout _ _ _
    · split
      · split
        · exact reveals_markRevealReady _ _
        · split
          · exact htimeout _ _ _
          · exact .refl s
      · split
        · split
          · exact htimeout _ _ _
          · exact .refl s
        · exact .refl s
      · exact .refl s

end Calls

/-! ## 3. One step -/

/-- Once input is enabled the reveal state is `InputEnabled`. -/
def Consistent (s : LauncherLifecycle) : Prop :=
  s.startupInputEnabled = true → s.startupRevealState = .inputEnabled

/-- What a timely step keeps. -/
structure KeepsReveal (s t : LauncherLifecycle) : Prop where
  mode : t.startupMode = s.startupMode
  started : t.startupStartedAt = s.startupStartedAt
  canPresent : s.startupCanPresentFrame = true → t.startupCanPresentFrame = true
  input : s.startupInputEnabled = true → t.startupInputEnabled = true
  consistent : Consistent s → Consistent t

section Step

variable {s t u : LauncherLifecycle}

theorem KeepsReveal.refl (s : LauncherLifecycle) : KeepsReveal s s := ⟨rfl, rfl, id, id, id⟩

theorem KeepsReveal.trans (h : KeepsReveal s t) (h' : KeepsReveal t u) : KeepsReveal s u :=
  ⟨h'.mode.trans h.mode, h'.started.trans h.started, fun hs => h'.canPresent (h.canPresent hs),
    fun hs => h'.input (h.input hs), fun hs => h'.consistent (h.consistent hs)⟩

theorem Reveals.keeps (h : Reveals s t) : KeepsReveal s t := by
  have hinput : t.startupInputEnabled = s.startupInputEnabled := congrArg Option.isSome h.input
  refine ⟨h.mode, h.started, h.canPresent, fun hs => hinput.trans hs, fun hs ht => ?_⟩
  have henabled := hs (hinput.symm.trans ht)
  rcases h.reveal with hsame | ⟨-, hne⟩
  · exact hsame.trans henabled
  · exact absurd henabled hne

theorem keeps_returnContextRestored (context : ReturnContext)
    (h : Timely s (.handle (.startupReturnContextRestored context))) :
    KeepsReveal s (s.returnContextRestored context).lifecycle := by
  simp only [Timely] at h
  cases hexpected : context.previewExpected with
  | true =>
      rw [hexpected, if_pos rfl] at h
      have ht : (s.returnContextRestored context).lifecycle =
          { s with
            startupRevealState := .waitRelevantPreview
            returnPreviewWaitStartedAt := some context.restoredAt } := by
        simp [returnContextRestored, hexpected, quiet]
      rw [ht]
      refine ⟨rfl, rfl, fun hs => absurd (hs.symm.trans h) (by simp), id, fun hs ht => ?_⟩
      have henabled := hs ht
      unfold startupCanPresentFrame at h
      rw [henabled] at h
      cases h
  | false =>
      rw [hexpected] at h
      have hno : s.startupInputEnabled = false := h
      have ht : (s.returnContextRestored context).lifecycle =
          { s with startupRevealState := .revealLauncher } := by
        simp [returnContextRestored, hexpected, quiet, markRevealReady]
      rw [ht]
      refine ⟨rfl, rfl, fun _ => rfl, id, fun _ ht => ?_⟩
      exact absurd (hno.symm.trans ht) (by simp)

theorem keeps_handle (input : LauncherLifecycleInput) (h : Timely s (.handle input)) :
    KeepsReveal s (s.handle input).lifecycle := by
  cases input with
  | startupRevealReady previewState => exact (reveals_markRevealReady _ _).keeps
  | startupReturnCatalogHydrationNeeded =>
      simp only [handle]
      split
      · rename_i hblack
        have hdark : s.startupCanPresentFrame = false := by
          unfold startupCanPresentFrame
          rw [hblack.2]
          rfl
        refine ⟨rfl, rfl, fun hs => absurd (hs.symm.trans hdark) (by simp), id, fun hs ht => ?_⟩
        have henabled := hs ht
        rw [hblack.2] at henabled
        cases henabled
      · exact .refl s
  | startupReturnContextRestored context => exact keeps_returnContextRestored context h
  | startupReturnPreviewReady previewState =>
      exact (reveals_andThen (.refl s) fun t => reveals_markRevealReady t _).keeps
  | _ =>
      simp only [handle]
      split
      · exact (reveals_handleClassified s _).keeps
      · exact .refl s

theorem keeps_noteStartupFramePresented (s : LauncherLifecycle) (frame now : Nat) :
    KeepsReveal s (s.noteStartupFramePresented frame now).lifecycle := by
  unfold noteStartupFramePresented
  by_cases hreveal : s.startupRevealState = .revealLauncher
  · rw [if_neg fun h => h hreveal]
    -- Input that was enabled before stays so: only the moment of the reveal is new.
    have hlater : ∀ t : LauncherLifecycle, t.startupRevealState = .revealLauncher →
        t.startupInputEnabledAt = s.startupInputEnabledAt → t.startupMode = s.startupMode →
        t.startupStartedAt = s.startupStartedAt → ∀ at_, t.startupInputEnabledAt = some at_ →
        KeepsReveal s t := by
      intro t hr hinput hmode hstarted at_ hat
      have hsame : s.startupInputEnabled = true := by
        unfold startupInputEnabled
        rw [← hinput, hat]
        rfl
      have hpresent : t.startupCanPresentFrame = true := by
        unfold startupCanPresentFrame
        rw [hr]
        rfl
      have hstill : t.startupInputEnabled = true := by
        unfold startupInputEnabled
        rw [hat]
        rfl
      refine ⟨hmode, hstarted, fun _ => hpresent, fun _ => hstill, fun hs => ?_⟩
      have henabled := hs hsame
      rw [hreveal] at henabled
      cases henabled
    dsimp only
    cases s.startupRevealedAt with
    | none =>
        dsimp only
        rw [Emits.lifecycle_andThen]
        split
        case h_1 => exact ⟨rfl, rfl, fun _ => rfl, fun _ => rfl, fun _ _ => rfl⟩
        case h_2 at_ hat => exact hlater _ hreveal rfl rfl rfl at_ hat
    | some _ =>
        dsimp only
        rw [Emits.lifecycle_andThen]
        split
        case h_1 => exact ⟨rfl, rfl, fun _ => rfl, fun _ => rfl, fun _ _ => rfl⟩
        case h_2 at_ hat => exact hlater _ hreveal rfl rfl rfl at_ hat
  · rw [if_pos hreveal]
    exact .refl s

/-- **One timely step.** -/
theorem keeps_next {step : RevealStep} (h : Timely s step) : KeepsReveal s (s.next step) := by
  cases step with
  | handle input => exact keeps_handle input h
  | classifyStartupCatalog input => exact (reveals_classifyStartupCatalog s input).keeps
  | tickStartupReveal now catalogReady => exact (reveals_tickStartupReveal s now catalogReady).keeps
  | noteStartupFramePresented frame now => exact keeps_noteStartupFramePresented s frame now

/-- Where input is enabled only with its reveal state, a tick after five seconds shows the
    launcher. -/
theorem canPresent_tickStartupReveal (h : Consistent s) (hmode : s.startupMode = .returnFromGame)
    {now : Nat} (hnow : s.startupStartedAt + RETURN_BLACK_SCREEN_TIMEOUT ≤ now)
    (catalogReady : Bool) :
    (s.tickStartupReveal now catalogReady).lifecycle.startupCanPresentFrame = true := by
  cases hpresent : s.startupCanPresentFrame with
  | true => exact (reveals_tickStartupReveal s now catalogReady).canPresent hpresent
  | false =>
      have hno : ¬ s.startupInputEnabledAt.isSome = true := by
        intro henabled
        unfold startupCanPresentFrame at hpresent
        rw [h henabled] at hpresent
        cases hpresent
      unfold tickStartupReveal
      rw [if_neg hno]
      dsimp only
      rw [if_pos ⟨hmode, hpresent, Nat.le_sub_of_add_le' hnow⟩]
      exact canPresent_markRevealReady _ _

end Step

/-! ## 4. Runs -/

theorem begun_fields {mode : StartupMode} {start : Nat} {s : LauncherLifecycle}
    (h : Begun mode start s) :
    s.startupMode = mode ∧ s.startupStartedAt = start ∧ s.startupInputEnabled = false := by
  obtain ⟨before, rfl⟩ := h.begun
  unfold beginStartupReveal startupInputEnabled
  cases mode <;> exact ⟨rfl, rfl, rfl⟩

theorem keeps_run {mode : StartupMode} {start : Nat} {s t : LauncherLifecycle}
    {steps : List RevealStep} (h : ((revealSystem mode start).guard Timely).Run s steps t) :
    KeepsReveal s t := by
  induction h with
  | nil => exact .refl s
  | snoc _ hs ih =>
      obtain ⟨htimely, rfl⟩ := hs
      exact ih.trans (keeps_next htimely)

/-- **The reveal is monotone and bounded in every run whose return contexts are timely**: what can
    be presented stays so, with input enabled the state stays `InputEnabled`, and after a return
    from a game a tick at five seconds shows the launcher. -/
theorem reveal_monotone {mode : StartupMode} {start : Nat} {first s t : LauncherLifecycle}
    {steps more : List RevealStep} (hinit : (revealSystem mode start).init first)
    (hrun : ((revealSystem mode start).guard Timely).Run first steps s)
    (hmore : ((revealSystem mode start).guard Timely).Run s more t) :
    (s.startupCanPresentFrame = true → t.startupCanPresentFrame = true) ∧
    (s.startupInputEnabled = true → t.startupRevealState = .inputEnabled) ∧
    (mode = .returnFromGame → ∀ now catalogReady, start + RETURN_BLACK_SCREEN_TIMEOUT ≤ now →
      (t.tickStartupReveal now catalogReady).lifecycle.startupCanPresentFrame = true) := by
  obtain ⟨hmode, hstart, hinput⟩ := begun_fields hinit
  have hsteps := keeps_run hrun
  have hrest := keeps_run hmore
  have hfirst : Consistent first := fun henabled => absurd (hinput.symm.trans henabled) (by simp)
  have hlast : Consistent t := hrest.consistent (hsteps.consistent hfirst)
  refine ⟨hrest.canPresent, fun henabled => hlast (hrest.input henabled),
    fun hreturn now catalogReady hnow => canPresent_tickStartupReveal hlast ?_ ?_ catalogReady⟩
  · rw [hrest.mode, hsteps.mode, hmode, hreturn]
  · rw [hrest.started, hsteps.started, hstart]
    exact hnow

/-- A return from a game as the launcher starts. -/
def returning : LauncherLifecycle :=
  ((LauncherLifecycle.new true 0).beginStartupReveal .returnFromGame 0).lifecycle

def restoredAt (restoredAt : Nat) : ReturnContext :=
  ⟨"arcade", "neogeo", "all", "/media/fat/_Arcade/Metal Slug.mra", 144, "144.000", true, restoredAt⟩

/-- The context arrives after a second; the preview never does. -/
def previewTimesOut : List RevealStep :=
  [.handle (.startupReturnContextRestored (restoredAt 1000000000)),
    .tickStartupReveal 1250000000 true]

theorem reveal_monotone_preview_timeout :
    (previewTimesOut.foldl next returning).startupCanPresentFrame = true ∧
      (next (previewTimesOut.foldl next returning)
        (.noteStartupFramePresented 0 1300000000)).startupCanPresentFrame = true := by
  have hinit : (revealSystem .returnFromGame 0).init returning := ⟨.new true 0, rfl⟩
  have hdark : returning.startupCanPresentFrame = false := rfl
  have hsteps : Machine.Along Timely next returning previewTimesOut := ⟨hdark, trivial, trivial⟩
  have hmore : Machine.Along Timely next (previewTimesOut.foldl next returning)
      [.noteStartupFramePresented 0 1300000000] := ⟨trivial, trivial⟩
  exact ⟨by decide, (reveal_monotone hinit (Machine.run_ofNext hsteps)
    (Machine.run_ofNext hmore)).1 (by decide)⟩

/-- **A context that arrives after the timeout hides the launcher again.** -/
theorem late_context_hides_launcher : ∃ s t : LauncherLifecycle,
    (revealSystem .returnFromGame 0).Run returning [.tickStartupReveal 5000000000 false] s ∧
      s.startupCanPresentFrame = true ∧
      (revealSystem .returnFromGame 0).step s
        (.handle (.startupReturnContextRestored (restoredAt 5000000000))) t ∧
      t.startupCanPresentFrame = false :=
  ⟨_, _, .one rfl, by decide, rfl, by decide⟩

end MisterMagik.Launcher
