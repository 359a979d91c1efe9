/-
  File:      MisterMagik/Parade/Construction.lean
  Subject:   The parades that the constructors yield (`begin_streaming`,
             `prepare_initial_population`).

  * `beginStreaming_sound`, `prepareInitialPopulation_sound` -- the two ways to fill the layers;
  * `construct_sound` -- a constructed parade is sound: the intervals of its layers could be
    computed, so every position fits, and each layer gets no more tiles than its target; without a
    prepared population it streams.
-/
import MisterMagik.Parade.Sound

namespace MisterMagik.Parade

open Scenes (Rgb565OutputLayout)

/-! ## 1. Folds that may fail -/

theorem bind_ok {E A B : Type} {x : Except E A} {f : A → Except E B} {b : B}
    (h : (x >>= f) = .ok b) : ∃ a, x = .ok a ∧ f a = .ok b := by
  cases x with
  | error e => cases h
  | ok a => exact ⟨a, rfl, h⟩

/-- What every step of a fold keeps of the state and the steps to come, and what it learns. -/
theorem foldlM_ok {S A E : Type} {f : S → A → Except E S} (J : List A → S → Prop) (R : A → Prop)
    (hstep : ∀ a rest s s', J (a :: rest) s → f s a = .ok s' → J rest s' ∧ R a)
    {as : List A} {s s' : S} (hs : J as s) (h : as.foldlM f s = .ok s') :
    J [] s' ∧ ∀ a ∈ as, R a := by
  induction as generalizing s with
  | nil =>
      cases h
      exact ⟨hs, fun _ ha => absurd ha List.not_mem_nil⟩
  | cons a as ih =>
      rw [List.foldlM_cons] at h
      cases hf : f s a with
      | error e =>
          rw [hf] at h
          cases h
      | ok t =>
          rw [hf] at h
          obtain ⟨ht, ha⟩ := hstep a as s t hs hf
          obtain ⟨hend, hall⟩ := ih ht h
          refine ⟨hend, fun b hb => ?_⟩
          rcases List.mem_cons.mp hb with rfl | hb
          · exact ha
          · exact hall b hb

/-! ## 2. Intervals -/

section Intervals

variable {width height l interval : Nat}

theorem target_pos (width height : Nat) {l : Nat} (hl : l < SPEED_COUNT) :
    0 < (layerTargets width height).getD l 0 ∧ (layerTargets width height).getD l 0 ≤ 28 := by
  have hboth : ∀ l < 5, (0 < COMPACT_LAYER_TARGETS.getD l 0 ∧ COMPACT_LAYER_TARGETS.getD l 0 ≤ 28) ∧
      0 < WIDE_LAYER_TARGETS.getD l 0 ∧ WIDE_LAYER_TARGETS.getD l 0 ≤ 28 := by decide
  unfold layerTargets
  split
  · exact (hboth l hl).1
  · exact (hboth l hl).2

/-- The interval is computed only where the layer's positions fit. -/
theorem room_of_interval {box target : Nat} {v : Int}
    (h : layerIntervalFrames width box v target = .ok interval) :
    (width + box : Int) * PARADE_SUBPIXEL_ONE ≤ I64_MAX := by
  unfold layerIntervalFrames at h
  dsimp only at h
  split at h
  · push_cast at *
    omega
  · cases h

/-- A layer's cards follow each other within the time that one needs from edge to edge. -/
theorem interval_travel {box target : Nat} {v : Int} (htarget : 0 < target) (htarget' : target ≤ 28)
    (hv : 0 < v) (hvw : v ≤ width)
    (h : layerIntervalFrames width box v target = .ok interval) :
    0 < interval ∧ (target * interval - 1 : Int) * v < (width + box) * PARADE_SUBPIXEL_ONE := by
  unfold layerIntervalFrames at h
  dsimp only at h
  split at h
  case isFalse => cases h
  case isTrue =>
    have hmax : max v 1 = v := by omega
    rw [hmax] at h
    have htravel : ((width + box : Nat) : Int) * PARADE_SUBPIXEL_ONE =
        (width + box) * PARADE_SUBPIXEL_ONE := by push_cast; rfl
    rw [htravel] at h
    have hlong : 256 * v ≤ (width + box) * PARADE_SUBPIXEL_ONE := by
      unfold PARADE_SUBPIXEL_ONE
      omega
    generalize ((width : Int) + box) * PARADE_SUBPIXEL_ONE = travel at h hlong ⊢
    have hdiv := Int.ediv_mul_le (travel + v - 1) (Int.ne_of_gt hv)
    have hmany : 256 ≤ (travel + v - 1) / v := by
      rw [Int.le_ediv_iff_mul_le hv]
      omega
    generalize (travel + v - 1) / v = frames at h hdiv hmany
    have hframes : ((frames.toNat : Nat) : Int) = frames := Int.toNat_of_nonneg (by omega)
    have hinterval : interval = frames.toNat / target := by
      have hone : 1 ≤ frames.toNat / target := (Nat.le_div_iff_mul_le htarget).mpr (by omega)
      have e := Except.ok.inj h
      rw [← e, Nat.max_eq_left htarget, Nat.max_eq_left hone]
    have hpos : 1 ≤ frames.toNat / target := (Nat.le_div_iff_mul_le htarget).mpr (by omega)
    have hle : target * interval ≤ frames.toNat := by
      rw [hinterval]
      exact Nat.mul_div_le _ _
    refine ⟨by omega, ?_⟩
    have hcast : (target * interval : Int) ≤ frames := by
      rw [← hframes]
      exact_mod_cast hle
    calc (target * interval - 1 : Int) * v ≤ (frames - 1) * v :=
          Int.mul_le_mul_of_nonneg_right (by omega) (by omega)
      _ = frames * v - v := by ring
      _ < travel := by omega

end Intervals

namespace ScreenshotParade

variable {p q : ScreenshotParade}

/-! ## 3. The first population -/

section Population

variable {outcomes outcomes' : List (Except String ScreenshotImage)} {speed tileIndex left : Nat}

/-- A parade whose worker has nothing to do and nothing to hand over. -/
structure Unbusy (p : ScreenshotParade) : Prop where
  jobs : p.jobs = []
  results : p.results = []
  runs : p.workerRuns = true
  depth : p.scaleQueueDepth = 0

/-- A card that the archive yields for a tile: of an image that no tile uses, prepared for the
    speed. -/
def Yielded (p : ScreenshotParade) (tileIndex speed : Nat) (c : PreparedCard) : Prop :=
  (∀ (j : Nat) t, p.tiles[j]? = some t →
    ¬(j ≠ tileIndex ∧ t.active ∧ t.imageIndex = c.imageIndex) ∧ ¬t.Awaits c.imageIndex) ∧
    ∃ source, c.raster = .prepareTimed source speed p.height (p.preparedPhases speed)

/-- Waiting for a card changes the deck and the failed images only. -/
theorem prepareArchiveCard_spec (hun : p.Unbusy) {card : Option PreparedCard}
    (h : prepareArchiveCard tileIndex speed left p outcomes = .ok (card, q, outcomes')) :
    (∃ toDeck failedImages, q = { p with toDeck, failedImages }) ∧
      ∀ c, card = some c → p.Yielded tileIndex speed c := by
  induction left generalizing p outcomes with
  | zero =>
      cases h
      exact ⟨⟨_, _, rfl⟩, fun c hc => nomatch hc⟩
  | succ left ih =>
      rw [prepareArchiveCard] at h
      have havailable : ∀ m, (p.nextImageFor tileIndex).1 = some m → p.Available tileIndex m :=
        fun _ => nextImageFor_available
      rw [nextImageFor_eq] at h havailable
      generalize p.toDeck.search (p.usable tileIndex) p.deck.length = found at h havailable
      obtain ⟨image, d⟩ := found
      cases image with
      | none =>
          cases h
          exact ⟨⟨d, _, rfl⟩, fun c hc => nomatch hc⟩
      | some m =>
          have hm := havailable m rfl
          dsimp only at h
          rw [sendScaleJob_runs] at h
          · dsimp only [bind, Except.bind] at h
            cases outcomes with
            | nil => cases h
            | cons pixels outcomes =>
                dsimp only [answer] at h
                rw [hun.jobs, hun.results, hun.depth] at h
                dsimp only [List.nil_append, ScaleJob.prepare] at h
                cases pixels with
                | error error =>
                    dsimp only [Except.map] at h
                    obtain ⟨⟨d', failed, e⟩, hcard⟩ := ih (by exact ⟨rfl, rfl, hun.runs, rfl⟩) h
                    refine ⟨⟨d', failed, ?_⟩, hcard⟩
                    rw [e]
                    simp only [hun.jobs, hun.results, hun.depth]
                | ok source =>
                    dsimp only [Except.map] at h
                    cases h
                    refine ⟨⟨d, p.failedImages, ?_⟩, fun c hc => ?_⟩
                    · simp only [hun.jobs, hun.results, hun.depth]
                    · cases hc
                      exact ⟨hm.2, source, rfl⟩
          · exact hun.runs

/-- The tile of a yielded card, at the place of its rank. -/
def placed (p : ScreenshotParade) (speed frames : Nat) (velocityFp y : Int) (c : PreparedCard)
    (active : Bool) : Tile :=
  ⟨p.width * PARADE_SUBPIXEL_ONE - frames * velocityFp, y, speed, speed, velocityFp, c.imageIndex,
    c.raster, active, none, none⟩

theorem placed_layer (p : ScreenshotParade) (speed frames : Nat) (velocityFp y : Int)
    (c : PreparedCard) (active : Bool) :
    (placed p speed frames velocityFp y c active).layer = speed := rfl

variable {phase interval target : Nat} {v : Int}

/-- One turn of a layer's population: the archive yields no card, or a tile with it joins. -/
theorem populateLayer_cases (hun : p.Unbusy)
    (h : populateLayer speed phase interval v target (left + 1) p outcomes = .ok (q, outcomes')) :
    (∃ toDeck failedImages, q = { p with toDeck, failedImages }) ∨
      ∃ toDeck failedImages c y, ∃ active : Bool, ∃ outcomes₁,
        p.Yielded p.tiles.length speed c ∧
        (active →
          p.Clear (placed p speed (phase + (target - (left + 1)) * interval) v y c active).x y
            c.raster.width c.raster.height speed p.tiles.length) ∧
        populateLayer speed phase interval v target left
          { p with
            toDeck, failedImages
            tiles := p.tiles ++
              [placed p speed (phase + (target - (left + 1)) * interval) v y c active] }
          outcomes₁ = .ok (q, outcomes') := by
  rw [populateLayer] at h
  dsimp only at h
  cases hcard : prepareArchiveCard p.tiles.length speed p.assetKeys p outcomes with
  | error e =>
      rw [hcard] at h
      cases h
  | ok found =>
      obtain ⟨card, p₁, outcomes₁⟩ := found
      rw [hcard] at h
      obtain ⟨⟨d, failed, rfl⟩, hyield⟩ := prepareArchiveCard_spec hun hcard
      cases card with
      | none =>
          cases h
          exact .inl ⟨d, failed, rfl⟩
      | some c =>
          right
          dsimp only [bind, Except.bind] at h
          have hplace := randomTileY_spec { p with toDeck := d, failedImages := failed }
            ((p.width * PARADE_SUBPIXEL_ONE -
              (phase + (target - (left + 1)) * interval : Nat) * v) / PARADE_SUBPIXEL_ONE)
            c.raster.width c.raster.height speed p.tiles.length
          obtain ⟨⟨rng, hrng⟩, -⟩ := hplace
          rw [hrng] at h
          refine ⟨_, _, c, _, _, outcomes₁, hyield c rfl, ?_, h⟩
          intro hactive
          exact placementIsClear_iff.mp hactive

theorem populateLayer_frame (hun : p.Unbusy)
    (h : populateLayer speed phase interval v target left p outcomes = .ok (q, outcomes')) :
    (∃ toDeck failedImages tiles, q = { p with toDeck, failedImages, tiles }) ∧
      ∀ t ∈ q.tiles, t ∈ p.tiles ∨ t.layer = speed := by
  induction left generalizing p outcomes with
  | zero =>
      cases h
      exact ⟨⟨_, _, _, rfl⟩, fun _ ht => .inl ht⟩
  | succ left ih =>
      rcases populateLayer_cases hun h with ⟨d, failed, rfl⟩ | ⟨d, failed, c, y, active, _, -, -, h⟩
      · exact ⟨⟨d, failed, _, rfl⟩, fun _ ht => .inl ht⟩
      · obtain ⟨⟨d', failed', tiles, e⟩, htiles⟩ :=
          ih (by exact ⟨hun.jobs, hun.results, hun.runs, hun.depth⟩) h
        refine ⟨⟨d', failed', tiles, e⟩, fun t ht => ?_⟩
        rcases htiles t ht with hmem | hlayer
        · rcases List.mem_append.mp hmem with hmem | hmem
          · exact .inl hmem
          · rw [List.mem_singleton.mp hmem]
            exact .inr rfl
        · exact .inr hlayer

theorem Unbusy.waiting (hun : p.Unbusy) : p.waiting = [] := by
  rw [ScreenshotParade.waiting, hun.jobs, hun.results]
  rfl

/-- A yielded card at its place makes a sound tile. -/
theorem Sound.placed {l frames : Nat} {c : PreparedCard} {y : Int} {active : Bool} (h : p.Sound)
    (hun : p.Unbusy) (hl : l < SPEED_COUNT)
    (hyield : p.Yielded p.tiles.length (MIN_TILE_SPEED + l) c)
    (hclear : active →
      p.Clear (placed p (MIN_TILE_SPEED + l) frames (cardVelocityFp l p.width) y c active).x y
        c.raster.width c.raster.height (MIN_TILE_SPEED + l) p.tiles.length)
    (hframes : frames * cardVelocityFp l p.width <
      (p.width + boxWidth (MIN_TILE_SPEED + l) p.height) * PARADE_SUBPIXEL_ONE)
    (hcount : p.tiles.countP (·.layer = MIN_TILE_SPEED + l) < p.target l) :
    { p with tiles := p.tiles ++
        [ScreenshotParade.placed p (MIN_TILE_SPEED + l) frames (cardVelocityFp l p.width) y c
          active] }.Sound := by
  obtain ⟨hunused, source, hraster⟩ := hyield
  have hcard : CardWell p.width p.height (MIN_TILE_SPEED + l) c.raster := by
    rw [hraster]
    exact ⟨prepareTimed_width_le _ _ _ _, prepareTimed_phases _ _ _ _⟩
  have hspeed : MIN_TILE_SPEED + l - MIN_TILE_SPEED = l := Nat.add_sub_cancel_left ..
  have hwell : TileWell p.width p.height (ScreenshotParade.placed p (MIN_TILE_SPEED + l) frames
      (cardVelocityFp l p.width) y c active) :=
    { layer := ⟨l, hl, rfl⟩
      speed := rfl
      velocity := by
        dsimp only [ScreenshotParade.placed]
        rw [hspeed]
      ready := fun _ hc => nomatch hc
      turn := .inl rfl
      shown := fun _ => hcard
      lattice := fun _ => by
        have hmoved := (onLattice_pixel (cardVelocityFp l p.width) p.width).add
          (Int.le_of_lt (cardVelocityFp_pos l p.width)) (-frames)
        rw [Int.mul_neg, Int.mul_comm _ (frames : Int), ← Int.sub_eq_add_neg] at hmoved
        exact hmoved
      left := fun _ => by
        dsimp only [ScreenshotParade.placed]
        rw [Int.add_mul] at hframes
        rw [Int.neg_mul]
        omega }
  have hlt : ∀ (j : Nat) s, p.tiles[j]? = some s → j ≠ p.tiles.length := fun j s hs =>
    Nat.ne_of_lt (List.getElem?_eq_some_iff.mp hs).1
  have hnone : ∀ j, ¬Holds p.tiles p.waiting j c.imageIndex := by
    rintro j (⟨s, hs, hshown | hawaits⟩ | hj)
    · exact (hunused j s hs).1 ⟨hlt j s hs, hshown⟩
    · exact (hunused j s hs).2 hawaits
    · rw [hun.waiting] at hj
      cases hj
  exact
    { crewed := h.crewed.concat hwell fun l' _ hlayer => by
        have e : l = l' := by
          dsimp only [ScreenshotParade.placed] at hlayer
          omega
        rw [← e]
        exact hcount
      spaced := h.spaced.concat fun j s hs ha hactive hlayer =>
        beside_of_apart (scaleDimension_pos REFERENCE_PLACEMENT_GAP p.height)
          (hclear hactive j s hs (hlt j s hs) ha hlayer)
      exclusive := by
        refine h.exclusive.take (i := p.tiles.length) (m := c.imageIndex) (fun j m hj => ?_)
          fun j hj => absurd hj (hnone j)
        rcases hj with ⟨s, hs, huses⟩ | hj
        · rcases getElem?_concat_some hs with ⟨rfl, rfl⟩ | hs
          · rcases huses with ⟨-, hshown⟩ | ⟨c', hc', -⟩ | hwaits
            · exact .inr ⟨rfl, hshown.symm⟩
            · cases hc'
            · cases hwaits
          · exact .inl (.inl ⟨s, hs, huses⟩)
        · exact .inl (.inr hj)
      traffic := by
        refine h.traffic.keeps (fun k s hs => ⟨s, getElem?_concat_old hs, rfl, id, rfl⟩) ?_
        exact List.countP_append }

theorem populateLayer_sound {l : Nat} (hun : p.Unbusy) (hsound : p.Sound) (hl : l < SPEED_COUNT)
    (hphase : phase < interval)
    (htravel : (p.target l * interval - 1 : Int) * cardVelocityFp l p.width <
      (p.width + boxWidth (MIN_TILE_SPEED + l) p.height) * PARADE_SUBPIXEL_ONE)
    (hcount : p.tiles.countP (·.layer = MIN_TILE_SPEED + l) + left ≤ p.target l)
    (h : populateLayer (MIN_TILE_SPEED + l) phase interval (cardVelocityFp l p.width) (p.target l)
      left p outcomes = .ok (q, outcomes')) : q.Sound := by
  induction left generalizing p outcomes with
  | zero =>
      cases h
      exact hsound
  | succ left ih =>
      rcases populateLayer_cases hun h with
        ⟨d, failed, rfl⟩ | ⟨d, failed, c, y, active, _, hyield, hclear, h⟩
      · exact ⟨hsound.crewed, hsound.spaced, hsound.exclusive, hsound.traffic⟩
      · have hrank : phase + (p.target l - (left + 1)) * interval + 1 ≤ p.target l * interval := by
          have hstep : (p.target l - (left + 1) + 1) * interval ≤ p.target l * interval :=
            Nat.mul_le_mul_right _ (by omega)
          rw [Nat.succ_mul] at hstep
          omega
        have hframes : ((phase + (p.target l - (left + 1)) * interval : Nat) : Int) *
            cardVelocityFp l p.width ≤ (p.target l * interval - 1) * cardVelocityFp l p.width := by
          refine Int.mul_le_mul_of_nonneg_right ?_ (Int.le_of_lt (cardVelocityFp_pos _ _))
          have hcast : ((phase + (p.target l - (left + 1)) * interval : Nat) : Int) + 1 ≤
              p.target l * interval := by exact_mod_cast hrank
          omega
        have hplaced := hsound.placed hun hl hyield hclear (Int.lt_of_le_of_lt hframes htravel)
          (by omega)
        have hcount' : (p.tiles ++ [p.placed (MIN_TILE_SPEED + l)
            (phase + (p.target l - (left + 1)) * interval) (cardVelocityFp l p.width) y c
            active]).countP (·.layer = MIN_TILE_SPEED + l) + left ≤ p.target l := by
          rw [List.countP_append, List.countP_singleton,
            if_pos (decide_eq_true (placed_layer p _ _ _ _ _ _))]
          omega
        exact ih
          (p := { p with
            toDeck := d
            failedImages := failed
            tiles := p.tiles ++ [p.placed (MIN_TILE_SPEED + l)
              (phase + (p.target l - (left + 1)) * interval) (cardVelocityFp l p.width) y c
              active] })
          ⟨hun.jobs, hun.results, hun.runs, hun.depth⟩
          ⟨hplaced.crewed, hplaced.spaced, hplaced.exclusive, hplaced.traffic⟩ htravel hcount' h

end Population

/-! ## 4. The constructors -/

section Constructors

variable {width height : Nat}

/-- The screen that a parade was made for. -/
def OnScreen (width height : Nat) (p : ScreenshotParade) : Prop :=
  p.width = width ∧ p.height = height ∧ p.layerTargets = Parade.layerTargets width height

theorem OnScreen.trans (h : OnScreen width height p)
    (hq : q.width = p.width ∧ q.height = p.height ∧ q.layerTargets = p.layerTargets) :
    OnScreen width height q :=
  ⟨hq.1.trans h.1, hq.2.1.trans h.2.1, hq.2.2.trans h.2.2⟩

/-- A parade that is sound as far as every position fits. -/
structure Rising (width height : Nat) (p : ScreenshotParade) : Prop where
  screen : OnScreen width height p
  sound : Fitting width height → p.Sound

theorem Rising.target {l : Nat} (h : Rising width height p) (hl : l < SPEED_COUNT) :
    0 < p.target l ∧ p.target l ≤ 28 := by
  rw [ScreenshotParade.target, h.screen.2.2]
  exact target_pos width height hl

/-- The layers that have no tile. -/
def Without (layers : List Nat) (p : ScreenshotParade) : Prop :=
  ∀ t ∈ p.tiles, ∀ l ∈ layers, t.layer ≠ MIN_TILE_SPEED + l

theorem Without.count {l : Nat} {layers : List Nat} (h : Without layers p) (hl : l ∈ layers) :
    p.tiles.countP (·.layer = MIN_TILE_SPEED + l) = 0 := by
  rw [List.countP_eq_zero]
  intro t ht hlayer
  exact h t ht l hl (of_decide_eq_true hlayer)

theorem Queued.tiles {i : Nat} (hq : p.Queued i q) :
    ∀ t ∈ q.tiles, ∃ t₀ ∈ p.tiles, t.layer = t₀.layer := by
  cases hq with
  | kept d hd => exact fun t ht => ⟨t, ht, rfl⟩
  | refused d hd hruns => exact fun t ht => ⟨t, ht, rfl⟩
  | sent d hd s m hs hnext hpending hm hruns =>
      intro t ht
      rcases List.mem_or_eq_of_mem_set ht with ht | rfl
      · exact ⟨t, ht, rfl⟩
      · exact ⟨s, List.mem_of_getElem? hs, rfl⟩

theorem Queued.screen {i : Nat} (hq : p.Queued i q) :
    q.width = p.width ∧ q.height = p.height ∧ q.layerTargets = p.layerTargets := by
  cases hq with
  | kept d hd => exact ⟨rfl, rfl, rfl⟩
  | refused d hd hruns => exact ⟨rfl, rfl, rfl⟩
  | sent d hd t m ht hnext hpending hm hruns => exact ⟨rfl, rfl, rfl⟩

/-- A streaming parade whose layers to come have no tile yet. -/
structure Begun (width height : Nat) (layers : List Nat) (p : ScreenshotParade) : Prop where
  rising : Rising width height p
  streaming : p.Streaming
  without : Without layers p
  distinct : layers.Nodup
  within : ∀ l ∈ layers, l < SPEED_COUNT

/-- That the positions of a layer fit. -/
def Room (width height l : Nat) : Prop :=
  (width + boxWidth (MIN_TILE_SPEED + l) height : Int) * PARADE_SUBPIXEL_ONE ≤ I64_MAX

theorem room_of_depth {l interval target : Nat} {v : Int}
    (h : layerIntervalFrames width (boxWidth (MIN_TILE_SPEED + l) height) v target = .ok interval) :
    Room width height l := room_of_interval h

theorem beginLayer_ok {l : Nat} (h : beginLayer p l = .ok q) :
    ∃ interval, layerIntervalFrames p.width (boxWidth (MIN_TILE_SPEED + l) p.height)
        (cardVelocityFp l p.width) (p.target l) = .ok interval ∧
      ({ p with layers := p.layers.set l ⟨l * 12, interval⟩ }.pushEmptyTile l).Queued
        p.tiles.length q := by
  obtain ⟨interval, hinterval, hq⟩ := bind_ok h
  refine ⟨interval, hinterval, ?_⟩
  rw [← Except.ok.inj hq]
  exact queueSuccessor_queued _ _

theorem Begun.step {l : Nat} {layers : List Nat} (h : Begun width height (l :: layers) p)
    (hq : beginLayer p l = .ok q) : Begun width height layers q ∧ Room width height l := by
  have hl := h.within l List.mem_cons_self
  obtain ⟨hfresh, hdistinct⟩ := List.nodup_cons.mp h.distinct
  obtain ⟨interval, hinterval, hqueued⟩ := beginLayer_ok hq
  rw [h.rising.screen.1, h.rising.screen.2.1] at hinterval
  refine ⟨⟨⟨h.rising.screen.trans hqueued.screen, fun hfit => ?_⟩, ?_, fun t ht l' hl' => ?_,
    hdistinct, fun l' hl' => h.within l' (List.mem_cons_of_mem _ hl')⟩, room_of_depth hinterval⟩
  · have hsound := h.rising.sound hfit
    have hcount : p.tiles.countP (·.layer = MIN_TILE_SPEED + l) < p.target l := by
      rw [h.without.count List.mem_cons_self]
      exact (h.rising.target hl).1
    have hlayers : { p with layers := p.layers.set l ⟨l * 12, interval⟩ }.Sound :=
      ⟨hsound.crewed, hsound.spaced, hsound.exclusive, hsound.traffic⟩
    exact (hlayers.pushed hl hcount).queued hqueued
  · have hlayers : { p with layers := p.layers.set l ⟨l * 12, interval⟩ }.Streaming :=
      ⟨h.streaming.tile, h.streaming.job⟩
    exact (hlayers.pushed.1.queued hlayers.pushed.2 hqueued).1
  · obtain ⟨t₀, ht₀, hlayer⟩ := hqueued.tiles t ht
    rw [hlayer]
    rcases List.mem_append.mp ht₀ with hold | hnew
    · exact h.without t₀ hold l' (List.mem_cons_of_mem _ hl')
    · rw [List.mem_singleton.mp hnew]
      intro e
      have hll' : l = l' := Nat.add_left_cancel e
      exact hfresh (hll' ▸ hl')

/-- An offline parade whose layers to come have no tile yet. -/
structure Filling (width height : Nat) (layers : List Nat) (p : ScreenshotParade) : Prop where
  rising : Rising width height p
  unbusy : p.Unbusy
  without : Without layers p
  distinct : layers.Nodup
  within : ∀ l ∈ layers, l < SPEED_COUNT

theorem beginPopulation_ok {l : Nat} {outcomes outcomes' : List (Except String ScreenshotImage)}
    (h : beginPopulation (p, outcomes) l = .ok (q, outcomes')) :
    ∃ interval rng layers, layerIntervalFrames p.width (boxWidth (MIN_TILE_SPEED + l) p.height)
        (cardVelocityFp l p.width) (p.target l) = .ok interval ∧
      populateLayer (MIN_TILE_SPEED + l) (rng.toNat % max interval 1) interval
        (cardVelocityFp l p.width) (p.target l) (p.target l) { p with rng, layers } outcomes =
          .ok (q, outcomes') := by
  obtain ⟨interval, hinterval, hpopulate⟩ := bind_ok h
  exact ⟨interval, advanceRng p.rng, _, hinterval, hpopulate⟩

theorem Filling.step {l : Nat} {layers : List Nat}
    {outcomes outcomes' : List (Except String ScreenshotImage)}
    (h : Filling width height (l :: layers) p)
    (hq : beginPopulation (p, outcomes) l = .ok (q, outcomes')) :
    Filling width height layers q ∧ Room width height l := by
  have hl := h.within l List.mem_cons_self
  obtain ⟨hfresh, hdistinct⟩ := List.nodup_cons.mp h.distinct
  obtain ⟨interval, rng, layers', hinterval, hpopulate⟩ := beginPopulation_ok hq
  have hunbusy : { p with rng, layers := layers' }.Unbusy :=
    ⟨h.unbusy.jobs, h.unbusy.results, h.unbusy.runs, h.unbusy.depth⟩
  obtain ⟨⟨d, failed, tiles, hframe⟩, htiles⟩ := populateLayer_frame hunbusy hpopulate
  have hroom := hinterval
  rw [h.rising.screen.1, h.rising.screen.2.1] at hroom
  have hempty := h.without.count List.mem_cons_self
  refine ⟨⟨⟨?_, fun hfit => ?_⟩, ?_, fun t ht l' hl' => ?_, hdistinct,
    fun l' hl' => h.within l' (List.mem_cons_of_mem _ hl')⟩, room_of_depth hroom⟩
  · rw [hframe]
    exact h.rising.screen
  · have hsound := h.rising.sound hfit
    obtain ⟨htarget, htarget'⟩ := h.rising.target hl
    have hslow := cardVelocityFp_le hl hsound.crewed.fitting.pos
    obtain ⟨hpos, htravel⟩ :=
      interval_travel htarget htarget' (cardVelocityFp_pos _ _) hslow hinterval
    have hphase : rng.toNat % max interval 1 < interval := by
      rw [Nat.max_eq_left hpos]
      exact Nat.mod_lt _ hpos
    have hcount : p.tiles.countP (·.layer = MIN_TILE_SPEED + l) + p.target l ≤ p.target l := by
      rw [hempty, Nat.zero_add]
    exact populateLayer_sound (p := { p with rng, layers := layers' }) hunbusy
      ⟨hsound.crewed, hsound.spaced, hsound.exclusive, hsound.traffic⟩ hl hphase htravel hcount
      hpopulate
  · rw [hframe]
    exact ⟨hunbusy.jobs, hunbusy.results, hunbusy.runs, hunbusy.depth⟩
  · rcases htiles t ht with hold | hnew
    · exact h.without t hold l' (List.mem_cons_of_mem _ hl')
    · rw [hnew]
      intro e
      have hll' : l = l' := Nat.add_left_cancel e
      exact hfresh (hll' ▸ hl')

/-- The parade that the constructors start from. -/
theorem start_rising {deck : Deck} {outputLen assetKeys : Nat} {layers : List LayerSchedule}
    {p : ScreenshotParade}
    (h : p = ⟨deck, width, height, outputLen, [], assetKeys, [], [], [], true, true, 0,
      Parade.layerTargets width height, layers, 0, 0⟩) :
    Rising width height p ∧ p.Unbusy ∧ p.Streaming ∧ ∀ layers, Without layers p := by
  subst h
  refine ⟨⟨⟨rfl, rfl, rfl⟩, fun hfit => ⟨⟨hfit, ?_, ?_⟩, ?_, ?_, ?_⟩⟩, ⟨rfl, rfl, rfl, rfl⟩,
    ⟨?_, ?_⟩, ?_⟩
  · intro i t ht
    cases ht
  · intro l hl
    exact Nat.zero_le _
  · intro i j s t hs
    cases hs
  · rintro i j m (⟨t, ht, -⟩ | hi)
    · cases ht
    · cases hi
  · exact
      { job := fun _ hj => absurd hj List.not_mem_nil
        result := fun _ hr => absurd hr List.not_mem_nil
        free := fun _ ho => absurd ho List.not_mem_nil
        once := List.nodup_nil
        told := .inl fun _ ho => absurd ho List.not_mem_nil
        lost := fun hlost => nomatch hlost
        depth := rfl }
  · intro i t ht
    cases ht
  · intro o ho
    cases ho
  · intro layers t ht
    cases ht

theorem fitting_of_rooms (hwidth : 0 < width)
    (hrooms : ∀ l ∈ List.range SPEED_COUNT, Room width height l) : Fitting width height :=
  ⟨hwidth, fun l hl => hrooms l (List.mem_range.mpr hl)⟩

theorem beginStreaming_sound (hrising : Rising width height p) (hstreaming : p.Streaming)
    (hwithout : ∀ layers, Without layers p) (hwidth : 0 < width) (h : p.beginStreaming = .ok q) :
    q.Sound ∧ q.Streaming ∧ OnScreen width height q := by
  have hbegun : Begun width height (List.range SPEED_COUNT).reverse p :=
    ⟨hrising, hstreaming, hwithout _, by decide, by decide⟩
  obtain ⟨hend, hrooms⟩ := foldlM_ok (Begun width height) (Room width height)
    (fun l layers p q hp hq => hp.step hq) hbegun h
  have hfit := fitting_of_rooms hwidth fun l hl => hrooms l (List.mem_reverse.mpr hl)
  exact ⟨hend.rising.sound hfit, hend.streaming, hend.rising.screen⟩

theorem prepareInitialPopulation_sound {outcomes : List (Except String ScreenshotImage)}
    (hrising : Rising width height p) (hunbusy : p.Unbusy)
    (hwithout : ∀ layers, Without layers p) (hwidth : 0 < width)
    (h : p.prepareInitialPopulation outcomes = .ok q) :
    q.Sound ∧ OnScreen width height q := by
  obtain ⟨⟨p', outcomes'⟩, hfold, hq⟩ := bind_ok h
  have hfilling : Filling width height (List.range SPEED_COUNT) p :=
    ⟨hrising, hunbusy, hwithout _, by decide, by decide⟩
  obtain ⟨hend, hrooms⟩ := foldlM_ok
    (fun layers (s : ScreenshotParade × List (Except String ScreenshotImage)) =>
      Filling width height layers s.1) (Room width height)
    (fun l layers _ _ hp hs => hp.step hs) hfilling hfold
  have hsound := hend.rising.sound (fitting_of_rooms hwidth hrooms)
  dsimp only at hq hsound
  split at hq
  case isTrue => cases hq
  case isFalse =>
    rw [← Except.ok.inj hq]
    exact queueSuccessors_invariant (P := fun p => p.Sound ∧ OnScreen width height p)
      (fun p q i _ hp hq => ⟨hp.1.queued hq, hp.2.trans hq.screen⟩) ⟨hsound, hend.rising.screen⟩

/-- **A constructed parade is sound**, and it streams unless it prepared its first population. -/
theorem construct_sound {assetKeys : Nat} {seed : UInt64}
    {outputLayout : Rgb565OutputLayout USIZE_MAX}
    {offlinePrepared : Option (List (Except String ScreenshotImage))}
    (h : construct assetKeys width height seed outputLayout offlinePrepared = .ok p) :
    p.Sound ∧ OnScreen width height p ∧ (offlinePrepared = none → p.Streaming) := by
  unfold construct at h
  split at h
  case isTrue => cases h
  case isFalse hlayout =>
    have hwidth : 0 < width := by
      rw [not_or, not_not] at hlayout
      rw [← hlayout.1]
      exact outputLayout.width_pos
    split at h
    case isTrue => cases h
    case isFalse =>
      dsimp only at h
      generalize e : ScreenshotParade.mk _ _ _ _ _ _ _ _ _ _ _ _ _ _ _ _ = start at h
      obtain ⟨hrising, hunbusy, hstreaming, hwithout⟩ := start_rising e.symm
      cases offlinePrepared with
      | none =>
          obtain ⟨hsound, hstreams, hscreen⟩ :=
            beginStreaming_sound hrising hstreaming hwithout hwidth h
          exact ⟨hsound, hscreen, fun _ => hstreams⟩
      | some outcomes =>
          obtain ⟨hsound, hscreen⟩ :=
            prepareInitialPopulation_sound hrising hunbusy hwithout hwidth h
          exact ⟨hsound, hscreen, fun hnone => nomatch hnone⟩

end Constructors

end ScreenshotParade

end MisterMagik.Parade
