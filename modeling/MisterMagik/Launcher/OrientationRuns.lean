/-
  File:      MisterMagik/Launcher/OrientationRuns.lean
  Subject:   THE RETAINED ORIENTATION WAVE IS A FULL REDRAW, in every run over one output buffer
             (`launcher_runtime/orientation_transition.rs`).

  A render writes the tiles whose levels changed since the render before it. That it shows the whole
  frame rests on the levels the runtime remembers: while it plays and holds them, the output is the
  picture of these levels in the frame they were drawn from. A start, a restart and a cancel forget
  them; a switch to the new frame and the last frame do not use them.

  * `OrientationWaveRuntime` -- the runtime, of which the director sees a part
    (`renderInto_director`);
  * `Retained` -- what the remembered levels say about the output, kept by every call;
  * `retained_wave_is_a_full_redraw` -- every frame of every run, and its damage.
-/
import MisterMagik.Launcher.OrientationWave

namespace MisterMagik.Launcher

open Base Scenes.Orientation

/-! ## 1. The runtime -/

structure OrientationWaveRuntime extends OrientationTransitionRuntime where
  width : Nat
  height : Nat
  effect : OrientationTransitionEffect
  previousLevels : Levels
  previousLevelsValid : Bool
  previousRevealing : Bool

namespace OrientationWaveRuntime

/-- Planes of 2^62 pixels and more overflow the capacity of a vector. -/
def newWithEffect (width height : Nat) (effect : OrientationTransitionEffect) :
    Option OrientationWaveRuntime :=
  if 2 * saturatingMul width height < 2 ^ 63 then
    some { OrientationTransitionRuntime.new width height with
      width := width
      height := height
      effect := effect
      previousLevels := fun _ _ => 0
      previousLevelsValid := false
      previousRevealing := false }
  else none

variable (wave : OrientationWaveRuntime)

def start (fromOrientation toOrientation : ScreenOrientation) (source : List Rgb565Pixel)
    (now : Nat) (reduceMotion : Bool) : OrientationWaveRuntime × Bool :=
  let (runtime, started) := wave.toOrientationTransitionRuntime.start fromOrientation toOrientation
    source now reduceMotion
  if started then
    ({ wave with
        toOrientationTransitionRuntime := runtime
        previousLevelsValid := false
        previousRevealing := false }, true)
  else ({ wave with toOrientationTransitionRuntime := runtime }, false)

def captureDestination (pixels : List Rgb565Pixel) : OrientationWaveRuntime × Bool :=
  let (runtime, captured) := wave.toOrientationTransitionRuntime.captureDestination pixels
  ({ wave with toOrientationTransitionRuntime := runtime }, captured)

def restartAnimation (now : Nat) : OrientationWaveRuntime × Bool :=
  let (runtime, restarted) := wave.toOrientationTransitionRuntime.restartAnimation now
  if restarted then
    ({ wave with
        toOrientationTransitionRuntime := runtime
        previousLevelsValid := false
        previousRevealing := false }, true)
  else (wave, false)

def cancel : OrientationWaveRuntime × Bool :=
  let (runtime, wasActive) := wave.toOrientationTransitionRuntime.cancel
  ({ wave with toOrientationTransitionRuntime := runtime, previousLevelsValid := false }, wasActive)

def setEffect (effect : OrientationTransitionEffect) : OrientationWaveRuntime × Bool :=
  if wave.active then (wave, false) else ({ wave with effect := effect }, true)

def takeCompletion : OrientationWaveRuntime × Option OrientationTransitionCompletion :=
  let (runtime, completion) := wave.toOrientationTransitionRuntime.takeCompletion
  ({ wave with toOrientationTransitionRuntime := runtime }, completion)

/-- The runtime, the output, and whether the wave is done with the damage, where it renders. -/
def renderInto (curve : SmoothCurve) (output : List Rgb565Pixel) (now : Nat) :
    Option (OrientationWaveRuntime × List Rgb565Pixel ×
      Option (Bool × OrientationTransitionDamage)) :=
  if ¬wave.active ∨ output.length ≠ wave.source.length then some (wave, output, none)
  else if ¬wave.destinationReady then some (wave, wave.source, some (false, .full))
  else
    let elapsed := min ((wave.startedAt.map fun started => now - started).getD 0) wave.duration
    let (frame, levels, revealing) :=
      orientationWaveState curve wave.effect wave.source wave.destination elapsed
    let done := decide (wave.duration ≤ elapsed)
    let damage :=
      if !wave.previousLevelsValid || wave.previousRevealing != revealing || done then
        OrientationTransitionDamage.full
      else .changed wave.previousLevels levels
    let previous :=
      if wave.previousLevelsValid && wave.previousRevealing == revealing && !done then
        some wave.previousLevels
      else none
    do
      let output ←
        renderEffect wave.effect frame output wave.width wave.height levels damage previous
      let wave := { wave with
        previousLevels := levels
        previousLevelsValid := true
        previousRevealing := revealing }
      let wave :=
        if done then { wave with
          active := false
          completion := some ⟨wave.fromOrientation, wave.toOrientation⟩ }
        else wave
      some (wave, output, some (done, damage))

end OrientationWaveRuntime

/-! ## 2. Runs -/

/-- The runtime and the buffer it renders into. -/
structure WaveScreen where
  wave : OrientationWaveRuntime
  output : List Rgb565Pixel

inductive WaveCall where
  | start (fromOrientation toOrientation : ScreenOrientation) (source : List Rgb565Pixel)
      (now : Nat) (reduceMotion : Bool)
  | captureDestination (pixels : List Rgb565Pixel)
  | restartAnimation (now : Nat)
  | renderInto (now : Nat)
  | cancel
  | setEffect (effect : OrientationTransitionEffect)
  | takeCompletion

namespace WaveScreen

def call (curve : SmoothCurve) (s : WaveScreen) : WaveCall → Option WaveScreen
  | .start fromOrientation toOrientation source now reduceMotion =>
      some { s with
        wave := (s.wave.start fromOrientation toOrientation source now reduceMotion).1 }
  | .captureDestination pixels => some { s with wave := (s.wave.captureDestination pixels).1 }
  | .restartAnimation now => some { s with wave := (s.wave.restartAnimation now).1 }
  | .renderInto now => do
      let (wave, output, _) ← s.wave.renderInto curve s.output now
      some ⟨wave, output⟩
  | .cancel => some { s with wave := s.wave.cancel.1 }
  | .setEffect effect => some { s with wave := (s.wave.setEffect effect).1 }
  | .takeCompletion => some { s with wave := s.wave.takeCompletion.1 }

def run (curve : SmoothCurve) (s : WaveScreen) (calls : List WaveCall) : Option WaveScreen :=
  calls.foldlM (call curve) s

end WaveScreen

def WaveCall.renders : WaveCall → Bool
  | .renderInto _ => true
  | _ => false

/-! ## 3. What the director sees -/

/-- **A render is the render of the director's part**, with its picture. -/
theorem OrientationWaveRuntime.renderInto_director {curve : SmoothCurve}
    {wave wave' : OrientationWaveRuntime} {output output' : List Rgb565Pixel} {now : Nat}
    {report : Option (Bool × OrientationTransitionDamage)}
    (h : wave.renderInto curve output now = some (wave', output', report)) :
    wave.toOrientationTransitionRuntime.renderInto output.length now =
      (wave'.toOrientationTransitionRuntime, report.map Prod.fst) := by
  unfold OrientationWaveRuntime.renderInto at h
  unfold OrientationTransitionRuntime.renderInto
  by_cases hidle : ¬wave.active ∨ output.length ≠ wave.source.length
  · rw [if_pos hidle] at h ⊢
    cases h
    rfl
  rw [if_neg hidle] at h ⊢
  by_cases hready : ¬wave.destinationReady
  · rw [if_pos hready] at h ⊢
    cases h
    rfl
  rw [if_neg hready] at h ⊢
  dsimp only at h ⊢
  obtain ⟨drawn, -, h⟩ := Option.bind_eq_some_iff.mp h
  generalize min ((wave.startedAt.map fun started => now - started).getD 0) wave.duration = elapsed
    at h ⊢
  by_cases hdone : wave.duration ≤ elapsed
  · rw [if_pos (decide_eq_true hdone)] at h
    rw [if_pos hdone]
    cases h
    simp [hdone]
  · rw [if_neg (by simpa using hdone)] at h
    rw [if_neg hdone]
    cases h
    simp [hdone]

/-! ## 4. What the remembered levels say -/

/-- The frame the remembered levels were drawn from. -/
def OrientationWaveRuntime.shownFrame (wave : OrientationWaveRuntime) : List Rgb565Pixel :=
  if wave.previousRevealing then wave.destination else wave.source

/-- The levels describe the output while the wave plays and holds them. -/
structure Retained (width height : Nat) (s : WaveScreen) : Prop where
  plane_width : s.wave.width = width
  plane_height : s.wave.height = height
  size : width * height < 2 ^ 64
  source : s.wave.source.length = width * height
  destination : s.wave.destination.length = width * height
  duration : s.wave.duration = ORIENTATION_WAVE_TOTAL_DURATION
  started : s.wave.active = true → ∃ started, s.wave.startedAt = some started
  ready : s.wave.active = true → s.wave.previousLevelsValid = true → s.wave.destinationReady = true
  drawable : s.wave.active = true → s.wave.previousLevelsValid = true →
    Drawable s.wave.effect s.wave.previousLevels
  shown : s.wave.active = true → s.wave.previousLevelsValid = true →
    s.output = picture width height
      (waveShade s.wave.effect s.wave.shownFrame width height s.wave.previousLevels)

/-- Drawn from nothing at a time of the wave; before the new frame is captured, the old one. -/
structure FullRedraw (curve : SmoothCurve) (width height : Nat) (wave : OrientationWaveRuntime)
    (now : Nat) (output : List Rgb565Pixel) : Prop where
  captured : wave.destinationReady = true → ∃ started, wave.startedAt = some started ∧
    ∀ scratch : List Rgb565Pixel, scratch.length = width * height →
      renderWave curve wave.effect wave.source wave.destination scratch width height
        (min (now - started) ORIENTATION_WAVE_TOTAL_DURATION) = some output
  waiting : wave.destinationReady = false → output = wave.source

/-- Every pixel that differs lies in a rectangle of the damage. -/
def Covers (damage : OrientationTransitionDamage) (width height : Nat)
    (before after : List Rgb565Pixel) : Prop :=
  ∀ x y, x < width → y < height → after[y * width + x]? ≠ before[y * width + x]? →
    ∃ row r, damage.rectForRow row width height = some r ∧ r.inside x y

section Steps

variable {curve : SmoothCurve} {width height : Nat} {s : WaveScreen}

theorem covers_full (before after : List Rgb565Pixel) : Covers .full width height before after := by
  intro x y hx hy _
  obtain ⟨r, hr, hin⟩ := dirty_in_rect (dirty_full _ _) (exists_tile hx hy)
  exact ⟨_, r, hr, hin⟩

variable (curve) in
theorem renderWave_shows (effect : OrientationTransitionEffect) (elapsed : Nat)
    {source destination scratch : List Rgb565Pixel} (hsource : source.length = width * height)
    (hdestination : destination.length = width * height)
    (hscratch : scratch.length = width * height) (hsize : width * height < 2 ^ 64) :
    renderWave curve effect source destination scratch width height elapsed =
      some (picture width height (waveShade effect
        (orientationWaveState curve effect source destination elapsed).1 width height
        (orientationWaveState curve effect source destination elapsed).2.1)) := by
  have hframe : (orientationWaveState curve effect source destination elapsed).1.length =
      width * height := by
    rw [waveFrame]
    split <;> assumption
  have hlevels : Drawable effect
      (orientationWaveState curve effect source destination elapsed).2.1 := by
    rintro rfl
    exact waveLevels_valid
  exact renderEffect_full hframe hscratch hsize hlevels

namespace Retained

/-- A call that leaves the output alone and forgets the levels, or stops the wave. -/
theorem forgets {wave : OrientationWaveRuntime} (h : Retained width height s)
    (hwidth : wave.width = s.wave.width) (hheight : wave.height = s.wave.height)
    (hsource : wave.source.length = width * height)
    (hdestination : wave.destination.length = width * height)
    (hduration : wave.duration = ORIENTATION_WAVE_TOTAL_DURATION)
    (hstarted : wave.active = true → ∃ started, wave.startedAt = some started)
    (hforgets : wave.active = true → wave.previousLevelsValid = false) :
    Retained width height { s with wave := wave } where
  plane_width := hwidth.trans h.plane_width
  plane_height := hheight.trans h.plane_height
  size := h.size
  source := hsource
  destination := hdestination
  duration := hduration
  started := hstarted
  ready ha hv := absurd hv (by rw [hforgets ha]; decide)
  drawable ha hv := absurd hv (by rw [hforgets ha]; decide)
  shown ha hv := absurd hv (by rw [hforgets ha]; decide)

theorem start (h : Retained width height s) (fromOrientation toOrientation : ScreenOrientation)
    (source : List Rgb565Pixel) (now : Nat) (reduceMotion : Bool) :
    Retained width height { s with
      wave := (s.wave.start fromOrientation toOrientation source now reduceMotion).1 } := by
  unfold OrientationWaveRuntime.start OrientationTransitionRuntime.start
  by_cases hrefused : reduceMotion ∨ fromOrientation = toOrientation ∨
      source.length ≠ s.wave.source.length
  · rw [if_pos hrefused]
    exact h.forgets rfl rfl h.source h.destination h.duration (fun ha => nomatch ha)
      (fun ha => nomatch ha)
  · rw [if_neg hrefused]
    have hlen : source.length = s.wave.source.length := by
      by_contra hne
      exact hrefused (.inr (.inr hne))
    refine h.forgets rfl rfl (hlen.trans h.source) ?_ rfl (fun _ => ⟨now, rfl⟩) fun _ => rfl
    exact List.length_replicate.trans h.destination

theorem captureDestination (h : Retained width height s) (pixels : List Rgb565Pixel) :
    Retained width height { s with wave := (s.wave.captureDestination pixels).1 } := by
  unfold OrientationWaveRuntime.captureDestination OrientationTransitionRuntime.captureDestination
  by_cases hrefused : ¬s.wave.active ∨ pixels.length ≠ s.wave.destination.length
  · rw [if_pos hrefused]
    exact h
  rw [if_neg hrefused]
  by_cases hready : s.wave.destinationReady = true
  · rw [if_pos hready]
    exact h
  · rw [if_neg hready]
    have hlen : pixels.length = s.wave.destination.length := by
      by_contra hne
      exact hrefused (.inr hne)
    refine h.forgets rfl rfl h.source (hlen.trans h.destination) h.duration h.started fun ha => ?_
    -- no levels are held before the new frame is captured
    exact Bool.eq_false_iff.mpr fun hv => hready (h.ready ha hv)

theorem restartAnimation (h : Retained width height s) (now : Nat) :
    Retained width height { s with wave := (s.wave.restartAnimation now).1 } := by
  unfold OrientationWaveRuntime.restartAnimation OrientationTransitionRuntime.restartAnimation
  by_cases hrefused : ¬s.wave.active ∨ ¬s.wave.destinationReady
  · rw [if_pos hrefused]
    exact h
  · rw [if_neg hrefused]
    exact h.forgets rfl rfl h.source h.destination h.duration (fun _ => ⟨now, rfl⟩) fun _ => rfl

theorem cancel (h : Retained width height s) :
    Retained width height { s with wave := s.wave.cancel.1 } :=
  h.forgets rfl rfl h.source h.destination h.duration (fun ha => nomatch ha) fun ha => nomatch ha

theorem setEffect (h : Retained width height s) (effect : OrientationTransitionEffect) :
    Retained width height { s with wave := (s.wave.setEffect effect).1 } := by
  unfold OrientationWaveRuntime.setEffect
  by_cases hactive : s.wave.active = true
  · rw [if_pos hactive]
    exact h
  · rw [if_neg hactive]
    exact h.forgets rfl rfl h.source h.destination h.duration (fun ha => absurd ha hactive)
      fun ha => absurd ha hactive

theorem takeCompletion (h : Retained width height s) :
    Retained width height { s with wave := s.wave.takeCompletion.1 } :=
  ⟨h.plane_width, h.plane_height, h.size, h.source, h.destination, h.duration, h.started, h.ready,
    h.drawable, h.shown⟩

/-- The redraw of a render, fresh or over what is shown already. -/
theorem redraws (h : Retained width height s) (hactive : s.wave.active = true)
    (hlen : s.output.length = width * height) {frame : List Rgb565Pixel} {levels : Levels}
    {revealing done : Bool}
    (hframe : frame = if revealing then s.wave.destination else s.wave.source)
    (hlevels : Drawable s.wave.effect levels) (fresh : Bool)
    (hfresh : (!s.wave.previousLevelsValid || s.wave.previousRevealing != revealing || done) =
      fresh) :
    renderEffect s.wave.effect frame s.output s.wave.width s.wave.height levels
        (if fresh then .full else .changed s.wave.previousLevels levels)
        (if !fresh then some s.wave.previousLevels else none) =
      some (picture width height (waveShade s.wave.effect frame width height levels)) ∧
    Covers (if fresh then .full else .changed s.wave.previousLevels levels) width height s.output
      (picture width height (waveShade s.wave.effect frame width height levels)) := by
  have hframeLen : frame.length = width * height := by
    rw [hframe]
    split
    · exact h.destination
    · exact h.source
  rw [h.plane_width, h.plane_height]
  cases fresh with
  | true => exact ⟨renderEffect_full hframeLen hlen h.size hlevels, covers_full _ _⟩
  | false =>
      rw [Bool.or_eq_false_iff, Bool.or_eq_false_iff, Bool.not_eq_false', bne_eq_false_iff_eq]
        at hfresh
      obtain ⟨⟨hvalid, hsame⟩, -⟩ := hfresh
      have hprevious := h.drawable hactive hvalid
      have hshown : s.output = picture width height
          (waveShade s.wave.effect frame width height s.wave.previousLevels) := by
        rw [h.shown hactive hvalid, OrientationWaveRuntime.shownFrame, hsame, ← hframe]
      have hdraw := renderEffect_changed hframeLen hshown h.size hlevels hprevious
      refine ⟨hdraw, fun x y hx _ hne => ?_⟩
      exact renderEffect_damage hframeLen hlen h.size hlevels
        (fun p hp => Option.some.inj hp ▸ hprevious) hdraw hx hne

/-- **A render shows what a full redraw shows**, and keeps what the levels say. -/
theorem renderInto (curve : SmoothCurve) (h : Retained width height s) (now : Nat) :
    ∃ wave output report, s.wave.renderInto curve s.output now = some (wave, output, report) ∧
      Retained width height ⟨wave, output⟩ ∧
      match report with
      | none => output = s.output
      | some (_, damage) => FullRedraw curve width height s.wave now output ∧
          Covers damage width height s.output output := by
  unfold OrientationWaveRuntime.renderInto
  by_cases hidle : ¬s.wave.active ∨ s.output.length ≠ s.wave.source.length
  · rw [if_pos hidle]
    exact ⟨_, _, _, rfl, h, rfl⟩
  rw [if_neg hidle]
  have hactive : s.wave.active = true := by
    by_contra hne
    exact hidle (.inl hne)
  have hlen : s.output.length = width * height := by
    by_contra hne
    exact hidle (.inr fun he => hne (he.trans h.source))
  by_cases hready : ¬s.wave.destinationReady
  · rw [if_pos hready]
    have hforgot : s.wave.previousLevelsValid = false :=
      Bool.eq_false_iff.mpr fun hv => hready (h.ready hactive hv)
    refine ⟨_, _, _, rfl, ?_, ⟨fun ht => absurd ht hready, fun _ => rfl⟩, covers_full _ _⟩
    exact ⟨h.plane_width, h.plane_height, h.size, h.source, h.destination, h.duration, h.started,
      h.ready,
      h.drawable, fun _ hv => absurd hv (by rw [hforgot]; decide)⟩
  rw [if_neg hready]
  have hready' : s.wave.destinationReady = true := not_not.mp hready
  obtain ⟨started, hstarted⟩ := h.started hactive
  have helapsed : min ((s.wave.startedAt.map fun started => now - started).getD 0) s.wave.duration =
      min (now - started) ORIENTATION_WAVE_TOTAL_DURATION := by
    rw [hstarted, h.duration]
    rfl
  rw [helapsed]
  dsimp only
  have hshows := fun (scratch : List Rgb565Pixel) (hscratch : scratch.length = width * height) =>
    renderWave_shows curve s.wave.effect (min (now - started) ORIENTATION_WAVE_TOTAL_DURATION)
      h.source h.destination hscratch h.size
  have hframe := waveFrame curve s.wave.effect s.wave.source s.wave.destination
    (min (now - started) ORIENTATION_WAVE_TOTAL_DURATION)
  have hlevels : Drawable s.wave.effect (orientationWaveState curve s.wave.effect s.wave.source
      s.wave.destination (min (now - started) ORIENTATION_WAVE_TOTAL_DURATION)).2.1 := by
    intro he
    rw [he]
    exact waveLevels_valid
  generalize orientationWaveState curve s.wave.effect s.wave.source s.wave.destination
    (min (now - started) ORIENTATION_WAVE_TOTAL_DURATION) = state at hshows hframe hlevels ⊢
  obtain ⟨frame, levels, revealing⟩ := state
  dsimp only at hshows hframe hlevels ⊢
  generalize decide (s.wave.duration ≤ min (now - started) ORIENTATION_WAVE_TOTAL_DURATION) = done
  have hprevious : (s.wave.previousLevelsValid && s.wave.previousRevealing == revealing && !done) =
      !(!s.wave.previousLevelsValid || s.wave.previousRevealing != revealing || done) := by
    rw [Bool.not_or, Bool.not_or, Bool.not_not, bne, Bool.not_not]
  rw [hprevious]
  generalize hfresh : (!s.wave.previousLevelsValid || s.wave.previousRevealing != revealing || done)
    = fresh
  obtain ⟨hdraw, hcovers⟩ := h.redraws hactive hlen hframe hlevels fresh hfresh
  rw [hdraw]
  have hredraw : FullRedraw curve width height s.wave now
      (picture width height (waveShade s.wave.effect frame width height levels)) :=
    ⟨fun _ => ⟨started, hstarted, hshows⟩,
      fun hwait => absurd hwait (by rw [hready']; decide)⟩
  refine ⟨_, _, _, rfl, ?_, hredraw, hcovers⟩
  have hdrawn : Retained width height ⟨{ s.wave with
      previousLevels := levels
      previousLevelsValid := true
      previousRevealing := revealing },
      picture width height (waveShade s.wave.effect frame width height levels)⟩ :=
    ⟨h.plane_width, h.plane_height, h.size, h.source, h.destination, h.duration, h.started,
      fun _ _ => hready', fun _ _ => hlevels, fun _ _ => by
        rw [OrientationWaveRuntime.shownFrame, ← hframe]⟩
  cases done with
  | true =>
      exact hdrawn.forgets rfl rfl h.source h.destination h.duration (fun ha => nomatch ha)
        fun ha => nomatch ha
  | false => exact hdrawn

theorem call (curve : SmoothCurve) (h : Retained width height s) (c : WaveCall) :
    ∃ next, s.call curve c = some next ∧ Retained width height next ∧
      (c.renders = false → next.output = s.output) := by
  cases c with
  | start fromOrientation toOrientation source now reduceMotion =>
      exact ⟨_, rfl, h.start _ _ _ _ _, fun _ => rfl⟩
  | captureDestination pixels => exact ⟨_, rfl, h.captureDestination pixels, fun _ => rfl⟩
  | restartAnimation now => exact ⟨_, rfl, h.restartAnimation now, fun _ => rfl⟩
  | renderInto now =>
      obtain ⟨wave, output, report, hrender, hnext, -⟩ := h.renderInto curve now
      refine ⟨⟨wave, output⟩, ?_, hnext, fun hc => nomatch hc⟩
      unfold WaveScreen.call
      dsimp only
      rw [hrender]
      rfl
  | cancel => exact ⟨_, rfl, h.cancel, fun _ => rfl⟩
  | setEffect effect => exact ⟨_, rfl, h.setEffect effect, fun _ => rfl⟩
  | takeCompletion => exact ⟨_, rfl, h.takeCompletion, fun _ => rfl⟩

/-- Every run goes on without a panic, and only a render writes. -/
theorem run (curve : SmoothCurve) (h : Retained width height s) (calls : List WaveCall) :
    ∃ next, s.run curve calls = some next ∧ Retained width height next ∧
      ((∀ c ∈ calls, c.renders = false) → next.output = s.output) := by
  induction calls generalizing s with
  | nil => exact ⟨s, rfl, h, fun _ => rfl⟩
  | cons c calls ih =>
      obtain ⟨next, hcall, hnext, hquiet⟩ := h.call curve c
      obtain ⟨last, hrun, hlast, hquiet'⟩ := ih hnext
      refine ⟨last, ?_, hlast, fun hq => ?_⟩
      · unfold WaveScreen.run
        rw [List.foldlM_cons, hcall]
        exact hrun
      · exact (hquiet' fun c' hc' => hq c' (List.mem_cons_of_mem _ hc')).trans
          (hquiet (hq c List.mem_cons_self))

theorem newWithEffect {effect : OrientationTransitionEffect} {wave : OrientationWaveRuntime}
    (h : OrientationWaveRuntime.newWithEffect width height effect = some wave)
    (output : List Rgb565Pixel) : Retained width height ⟨wave, output⟩ := by
  unfold OrientationWaveRuntime.newWithEffect at h
  split at h
  · rename_i hfits
    obtain rfl := Option.some.inj h
    have hexact : saturatingMul width height = width * height := by
      unfold saturatingMul at hfits ⊢
      omega
    have hlen : (List.replicate (saturatingMul width height) (0 : Rgb565Pixel)).length =
        width * height := by rw [List.length_replicate, hexact]
    rw [hexact] at hfits
    exact ⟨rfl, rfl, by omega, hlen, hlen, rfl, (fun ha => nomatch ha), (fun ha => nomatch ha),
      (fun ha => nomatch ha), (fun ha => nomatch ha)⟩
  · cases h

end Retained

end Steps

/-! ## 5. Every frame of every run -/

/-- **The retained wave is a full redraw.** On a plane of any size, with either effect and any table
    of the spring, after any calls in any order at any times, a render shows what drawing the whole
    frame over any plane shows, the old frame until the new one is captured. What differs from the
    output of the last render, whatever other calls lie between, lies in the damage. -/
theorem retained_wave_is_a_full_redraw (curve : SmoothCurve) (width height : Nat)
    (effect : OrientationTransitionEffect) {wave : OrientationWaveRuntime}
    (hnew : OrientationWaveRuntime.newWithEffect width height effect = some wave)
    (output : List Rgb565Pixel) (calls quiet : List WaveCall)
    (hquiet : ∀ c ∈ quiet, c.renders = false) :
    ∃ last s, WaveScreen.run curve ⟨wave, output⟩ calls = some last ∧
      last.run curve quiet = some s ∧
      ∀ now, ∃ wave' output' report,
        s.wave.renderInto curve s.output now = some (wave', output', report) ∧
        match report with
        | none => output' = last.output
        | some (_, damage) => FullRedraw curve width height s.wave now output' ∧
            Covers damage width height last.output output' := by
  obtain ⟨last, hcalls, hlast, -⟩ := (Retained.newWithEffect hnew output).run curve calls
  obtain ⟨s, hrun, hs, hsame⟩ := hlast.run curve quiet
  refine ⟨last, s, hcalls, hrun, fun now => ?_⟩
  obtain ⟨wave', output', report, hrender, -, hreport⟩ := hs.renderInto curve now
  refine ⟨wave', output', report, hrender, ?_⟩
  rw [← hsame hquiet]
  exact hreport

/-- A plane of three columns has thirteen tiles without a pixel in every row. -/
theorem narrow_wave_is_a_full_redraw : ∃ wave,
    OrientationWaveRuntime.newWithEffect 3 2 .centerPixelZoom = some wave ∧
    ∀ curve : SmoothCurve, ∃ last s,
      WaveScreen.run curve ⟨wave, [9, 9, 9, 9, 9, 9]⟩
        [.start .normal .monitorClockwise [1, 2, 3, 4, 5, 6] 100 false, .renderInto 100,
          .captureDestination [6, 5, 4, 3, 2, 1], .renderInto 200000100] = some last ∧
      last.run curve [.restartAnimation 300000000] = some s ∧
      ∀ now, ∃ wave' output' report,
        s.wave.renderInto curve s.output now = some (wave', output', report) ∧
        match report with
        | none => output' = last.output
        | some (_, damage) => FullRedraw curve 3 2 s.wave now output' ∧
            Covers damage 3 2 last.output output' :=
  ⟨_, if_pos (by decide), fun curve =>
    retained_wave_is_a_full_redraw curve 3 2 .centerPixelZoom (if_pos (by decide)) _ _ _
      (by decide)⟩

end MisterMagik.Launcher
