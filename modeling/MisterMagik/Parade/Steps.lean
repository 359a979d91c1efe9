/-
  File:      MisterMagik/Parade/Steps.lean
  Subject:   What each operation of the screenshot parade can do, said once.

  The operations change single tiles, and next to them the deck, the channels and the clocks. Each
  has an inversion lemma that lists its outcomes with the conditions under which they come about;
  the invariants are derived from these and unfold no operation.

  * `Available` -- the images a search may choose, `nextImageFor_eq`;
  * `Queued`, `receive_ok`, `Grown`, `Spawned` -- the outcomes of a request for a successor, of a
    received answer, of a tile that enters the screen and of one turn of the spawn loop;
  * `Clear` -- a free place, which depends on the other active tiles of the layer only.
-/
import MisterMagik.Parade.Schedule

namespace MisterMagik.Parade

/-! ## 1. Lists of tiles -/

section Tiles

variable {α : Type} {xs : List α} {i j : Nat} {a b : α}

theorem getElem?_set_some (h : (xs.set i a)[j]? = some b) :
    (j = i ∧ b = a) ∨ (j ≠ i ∧ xs[j]? = some b) := by
  rw [List.getElem?_set] at h
  by_cases hij : i = j
  · rw [if_pos hij] at h
    split at h
    · exact .inl ⟨hij.symm, (Option.some.inj h).symm⟩
    · cases h
  · rw [if_neg hij] at h
    exact .inr ⟨fun e => hij e.symm, h⟩

theorem getElem?_set_ne (h : j ≠ i) : (xs.set i a)[j]? = xs[j]? :=
  List.getElem?_set_ne h.symm

theorem getElem?_set_at (h : xs[i]? = some b) : (xs.set i a)[i]? = some a := by
  obtain ⟨hlt, -⟩ := List.getElem?_eq_some_iff.mp h
  rw [List.getElem?_set_self hlt]

theorem set_same (h : xs[i]? = some a) : xs.set i a = xs := by
  obtain ⟨hlt, rfl⟩ := List.getElem?_eq_some_iff.mp h
  exact List.set_getElem_self hlt

theorem getElem?_concat_some (h : (xs ++ [a])[j]? = some b) :
    (j = xs.length ∧ b = a) ∨ xs[j]? = some b := by
  rw [List.getElem?_append] at h
  split at h
  · exact .inr h
  · obtain ⟨hlt, rfl⟩ := List.getElem?_eq_some_iff.mp h
    rw [List.length_singleton] at hlt
    left
    exact ⟨by omega, by simp⟩

theorem getElem?_concat_old (h : xs[j]? = some b) : (xs ++ [a])[j]? = some b := by
  obtain ⟨hlt, -⟩ := List.getElem?_eq_some_iff.mp h
  rw [List.getElem?_append_left hlt, h]

end Tiles

/-! ## 2. Images to choose from -/

namespace Tile

/-- The images that a tile shows, holds ready or waits for. -/
def Uses (t : Tile) (m : Nat) : Prop :=
  (t.active ∧ t.imageIndex = m) ∨ (∃ c, t.next = some c ∧ c.imageIndex = m) ∨
    t.pendingImageIndex = some m

/-- The images that a tile holds ready or waits for. -/
def Awaits (t : Tile) (m : Nat) : Prop :=
  (∃ c, t.next = some c ∧ c.imageIndex = m) ∨ t.pendingImageIndex = some m

end Tile

namespace ScreenshotParade

variable {p q : ScreenshotParade} {i m images : Nat}

/-- An image that has not failed, that no other tile shows, and that no tile holds ready or waits
    for. -/
def Available (p : ScreenshotParade) (i m : Nat) : Prop :=
  m ∉ p.failedImages ∧ ∀ j t, p.tiles[j]? = some t →
    ¬(j ≠ i ∧ t.active ∧ t.imageIndex = m) ∧ ¬t.Awaits m

theorem usable_iff : p.usable i m ↔ p.Available i m := by
  simp only [usable, Available, Bool.and_eq_true, Bool.not_eq_true', List.contains_eq_mem,
    decide_eq_false_iff_not, List.any_eq_false, Prod.forall, List.mem_zipIdx_iff_getElem?,
    Tile.Awaits]
  refine and_congr_right fun _ => ⟨fun h j t ht => ?_, fun h t j ht => ?_⟩
  · have := h t j ht
    simp only [Bool.or_eq_true, Bool.and_eq_true, bne_iff_ne, beq_iff_eq, Option.any_eq_true,
      not_or, not_exists, not_and] at this ⊢
    exact ⟨fun hji ha => this.1.1 ⟨hji, ha⟩, this.1.2, this.2⟩
  · have := h j t ht
    simp only [Bool.or_eq_true, Bool.and_eq_true, bne_iff_ne, beq_iff_eq, Option.any_eq_true,
      not_or, not_exists, not_and] at this ⊢
    exact ⟨⟨fun hji => this.1 hji.1 hji.2, this.2.1⟩, this.2.2⟩

theorem search_some {usable : Nat → Bool} {left : Nat} {d : Deck}
    (h : (d.search usable left).1 = some m) : usable m := by
  induction left generalizing d with
  | zero => cases h
  | succ left ih =>
      rw [Deck.search] at h
      split at h
      · cases h
      · next candidate _ =>
          split at h
          · next hu => rwa [← Option.some.inj h]
          · exact ih h

theorem nextImageFor_eq : p.nextImageFor i =
    ((p.toDeck.search (p.usable i) p.deck.length).1,
      { p with toDeck := (p.toDeck.search (p.usable i) p.deck.length).2 }) := by
  unfold nextImageFor
  split
  case isTrue h =>
    rw [List.isEmpty_iff.mp h]
    rfl
  case isFalse => rfl

theorem nextImageFor_available (h : (p.nextImageFor i).1 = some m) : p.Available i m := by
  rw [nextImageFor_eq] at h
  exact usable_iff.mp (search_some h)

/-! ## 3. A request for a successor -/

/-- The decks that a search may leave. -/
def Searched (d d' : Deck) : Prop := ∀ images, 0 < images → d.Whole images → d'.Whole images

theorem Searched.refl (d : Deck) : Searched d d := fun _ _ h => h

theorem nextImageFor_searched : Searched p.toDeck (p.nextImageFor i).2.toDeck := by
  intro images hpos h
  rw [nextImageFor_eq]
  exact h.search hpos

/-- The job for a tile. -/
def jobFor (p : ScreenshotParade) (i m : Nat) (t : Tile) : ScaleJob :=
  ⟨i, m, t.speed, p.height, p.preparedPhases t.speed⟩

/-- What a request for the successor of a tile does: nothing but a search, a job that was sent, or
    the discovery that the worker has ended. -/
inductive Queued (p : ScreenshotParade) (i : Nat) : ScreenshotParade → Prop where
  | kept (d : Deck) (hd : Searched p.toDeck d) : Queued p i { p with toDeck := d }
  | sent (d : Deck) (hd : Searched p.toDeck d) (t : Tile) (m : Nat) (ht : p.tiles[i]? = some t)
      (hnext : t.next = none) (hpending : t.pendingImageIndex = none) (hm : p.Available i m)
      (hruns : p.workerRuns) :
      Queued p i { p with
        toDeck := d
        tiles := p.tiles.set i { t with pendingImageIndex := some m }
        jobs := p.jobs ++ [p.jobFor i m t]
        scaleQueueDepth := p.scaleQueueDepth + 1 }
  | refused (d : Deck) (hd : Searched p.toDeck d) (hruns : p.workerRuns = false) :
      Queued p i { p with toDeck := d, scaleWorkerConnected := false }

theorem sendScaleJob_runs {speed : Nat} (h : p.workerRuns) :
    p.sendScaleJob i m speed = .ok { p with
      jobs := p.jobs ++ [⟨i, m, speed, p.height, p.preparedPhases speed⟩]
      scaleQueueDepth := p.scaleQueueDepth + 1 } := if_pos h

theorem sendScaleJob_ended {speed : Nat} (h : p.workerRuns = false) :
    p.sendScaleJob i m speed = .error "screenshot parade scale worker disconnected" :=
  if_neg (by rw [h]; decide)

theorem queueSuccessor_queued (p : ScreenshotParade) (i : Nat) :
    p.Queued i (p.queueSuccessor i) := by
  unfold queueSuccessor
  split
  case h_1 => exact .kept _ (.refl _)
  case h_2 t ht =>
    by_cases hwaits : t.next.isSome || t.pendingImageIndex.isSome
    · rw [if_pos hwaits]
      exact .kept _ (.refl _)
    · rw [if_neg hwaits]
      simp only [Bool.or_eq_true, Option.isSome_iff_ne_none, not_or, not_not] at hwaits
      obtain ⟨hnext, hpending⟩ := hwaits
      have hd : Searched p.toDeck (p.nextImageFor i).2.toDeck := nextImageFor_searched
      have hm : ∀ m, (p.nextImageFor i).1 = some m → p.Available i m := fun _ =>
        nextImageFor_available
      rw [nextImageFor_eq] at hd hm ⊢
      generalize p.toDeck.search (p.usable i) p.deck.length = s at hd hm ⊢
      obtain ⟨image, d⟩ := s
      cases image with
      | none => exact .kept d hd
      | some m =>
          dsimp only
          by_cases hruns : p.workerRuns
          · rw [sendScaleJob_runs]
            · exact .sent d hd t m ht hnext hpending (hm m rfl) hruns
            · exact hruns
          · have hended := Bool.eq_false_iff.mpr hruns
            have hsame : p.tiles.set i { t with pendingImageIndex := none } = p.tiles := by
              rw [← hpending]
              exact set_same ht
            rw [sendScaleJob_ended]
            · dsimp only [setTile]
              rw [hsame]
              exact .refused d hd hended
            · exact hended

/-- What every request keeps, a list of requests keeps. -/
theorem queueSuccessors_invariant {P : ScreenshotParade → Prop} {tileIndexes : List Nat}
    (hstep : ∀ p q, ∀ i ∈ tileIndexes, P p → p.Queued i q → P q) (h : P p) :
    P (p.queueSuccessors tileIndexes) := by
  unfold queueSuccessors
  induction tileIndexes generalizing p with
  | nil => exact h
  | cons i tileIndexes ih =>
      refine ih (fun p q j hj => hstep p q j (List.mem_cons_of_mem _ hj)) ?_
      exact hstep p _ i List.mem_cons_self h (queueSuccessor_queued p i)

/-! ## 4. Received answers -/

/-- The tiles and images of the jobs that are not yet received, the earliest first. -/
def waitingOf (results : List ScaleResult) (jobs : List ScaleJob) : List (Nat × Nat) :=
  results.map (fun result => (result.tileIndex, result.imageIndex)) ++
    jobs.map fun job => (job.tileIndex, job.imageIndex)

def waiting (p : ScreenshotParade) : List (Nat × Nat) := waitingOf p.results p.jobs

theorem waitingOf_sent (results : List ScaleResult) (jobs : List ScaleJob) (job : ScaleJob) :
    waitingOf results (jobs ++ [job]) =
      waitingOf results jobs ++ [(job.tileIndex, job.imageIndex)] := by
  rw [waitingOf, waitingOf, List.map_append, List.append_assoc, List.map_singleton]

theorem waitingOf_answered (results : List ScaleResult) (job : ScaleJob) (jobs : List ScaleJob)
    (pixels : Except String ScreenshotImage) :
    waitingOf (results ++ [ScaleJob.prepare job pixels]) jobs =
      waitingOf results (job :: jobs) := by
  rw [waitingOf, waitingOf, List.map_append, List.append_assoc]
  rfl

/-- An answer changes its own tile only, and asks again for this tile at most. -/
theorem receive_frame (p : ScreenshotParade) (result : ScaleResult) :
    (∀ j, j ≠ result.tileIndex → (p.receive result).1.tiles[j]? = p.tiles[j]?) ∧
      (p.receive result).1.waiting = p.waiting ∧
      (p.receive result).1.toDeck = p.toDeck ∧
      ∀ j ∈ (p.receive result).2, j = result.tileIndex := by
  dsimp only [receive]
  split
  · split
    · exact ⟨fun _ _ => rfl, rfl, rfl, fun _ h => absurd h List.not_mem_nil⟩
    · exact ⟨fun _ h => getElem?_set_ne h, rfl, rfl, fun _ h => absurd h List.not_mem_nil⟩
  · split
    · exact ⟨fun _ _ => rfl, rfl, rfl, fun _ h => List.mem_singleton.mp h⟩
    · exact ⟨fun _ h => getElem?_set_ne h, rfl, rfl, fun _ h => List.mem_singleton.mp h⟩

theorem receive_ok {result : ScaleResult} {card : PreparedCard} {t : Tile}
    (hcard : result.card = .ok card) (ht : p.tiles[result.tileIndex]? = some t) :
    p.receive result = ({ p with
      scaleQueueDepth := p.scaleQueueDepth - 1
      tiles := p.tiles.set result.tileIndex
        { t with pendingImageIndex := none, next := some card } }, []) := by
  simp only [receive, hcard, ht, setTile]

theorem receive_error {result : ScaleResult} {error : String} {t : Tile}
    (hcard : result.card = .error error) (ht : p.tiles[result.tileIndex]? = some t) :
    p.receive result = ({ p with
      scaleQueueDepth := p.scaleQueueDepth - 1
      failedImages := result.imageIndex :: p.failedImages
      tiles := p.tiles.set result.tileIndex { t with pendingImageIndex := none } },
      [result.tileIndex]) := by
  simp only [receive, hcard, ht, setTile]

theorem collect_invariant {P : ScreenshotParade → List Nat → Prop}
    (hreceive : ∀ p failed result results, P p failed → p.results = result :: results →
      P ({ p with results }.receive result).1 (failed ++ ({ p with results }.receive result).2))
    (hlost : ∀ p failed, P p failed → p.workerRuns = false →
      P { p with scaleWorkerConnected := false } failed)
    (limit : Nat) (failed : List Nat) (h : P p failed) :
    P (collect limit p failed).1 (collect limit p failed).2 := by
  induction limit generalizing p failed with
  | zero => exact h
  | succ limit ih =>
      rw [collect]
      split
      case h_1 result results hresults => exact ih _ (hreceive p failed result results h hresults)
      case h_2 hresults =>
        by_cases hruns : p.workerRuns
        · rwa [if_pos hruns]
        · rw [if_neg hruns]
          exact hlost p failed h (Bool.eq_false_iff.mpr hruns)

/-! ## 5. Motion -/

theorem moved_inactive {t : Tile} {n : Nat} (h : t.active = false) : p.moved n t = t := by
  rw [moved, h]
  rfl

/-- Motion changes where a tile is and whether it is active. -/
theorem moved_eq (p : ScreenshotParade) (n : Nat) (t : Tile) :
    ∃ xFp active, p.moved n t = { t with xFp, active } ∧ (active → t.active) := by
  unfold moved
  split
  case isTrue h => exact ⟨_, _, rfl, fun _ => h⟩
  case isFalse => exact ⟨t.xFp, t.active, rfl, id⟩

theorem getElem?_moved {t : Tile} {n : Nat} (h : (p.tiles.map (p.moved n))[i]? = some t) :
    ∃ t₀, p.tiles[i]? = some t₀ ∧ t = p.moved n t₀ := by
  rw [List.getElem?_map, Option.map_eq_some_iff] at h
  obtain ⟨t₀, ht₀, rfl⟩ := h
  exact ⟨t₀, ht₀, rfl⟩

/-! ## 6. Places -/

/-- A card at a place keeps its distance from a tile. -/
def Apart (gap : Nat) (x y : Int) (width height : Nat) (t : Tile) : Prop :=
  x + width + gap ≤ t.x ∨ t.x + t.raster.width + gap ≤ x ∨ y + height + gap ≤ t.y ∨
    t.y + t.raster.height + gap ≤ y

/-- A place is free: it keeps its distance from all other active tiles of the layer. -/
def Clear (p : ScreenshotParade) (x y : Int) (width height speed i : Nat) : Prop :=
  ∀ j t, p.tiles[j]? = some t → j ≠ i → t.active → t.layer = speed →
    Apart (scaleDimension REFERENCE_PLACEMENT_GAP p.height) x y width height t

variable {x y : Int} {width height speed : Nat}

theorem placementIsClear_iff :
    p.placementIsClear x y width height speed i ↔ p.Clear x y width height speed i := by
  simp only [placementIsClear, List.all_eq_true, Prod.forall, List.mem_zipIdx_iff_getElem?]
  refine ⟨fun h j t ht hji hactive hlayer => ?_, fun h t j ht => ?_⟩
  · have hclear := h t j ht
    rw [if_neg (by simp [hji, hactive, hlayer])] at hclear
    simpa only [Apart, Bool.or_eq_true, decide_eq_true_eq, or_assoc] using hclear
  · split
    · rfl
    · next hother =>
        simp only [not_or, Bool.not_eq_true', Bool.not_eq_false, not_not] at hother
        have hapart := h j t ht hother.1 hother.2.1 hother.2.2
        simpa only [Apart, Bool.or_eq_true, decide_eq_true_eq, or_assoc] using hapart

theorem randomTries_spec (clear : Int → Bool) (minY : Int) (span left : Nat)
    (p : ScreenshotParade) :
    (∃ rng, (randomTries clear minY span left p).2 = { p with rng }) ∧
      ∀ y, (randomTries clear minY span left p).1 = some y → clear y := by
  induction left generalizing p with
  | zero => exact ⟨⟨p.rng, rfl⟩, fun y hy => nomatch hy⟩
  | succ left ih =>
      obtain ⟨⟨rng, hrng⟩, hsome⟩ := ih (p.randomBelow span).2
      have e : randomTries clear minY span (left + 1) p =
          if clear (minY + (p.randomBelow span).1) then
            (some (minY + (p.randomBelow span).1), (p.randomBelow span).2)
          else randomTries clear minY span left (p.randomBelow span).2 := rfl
      rw [e]
      split
      case isTrue hclear => exact ⟨⟨_, rfl⟩, fun y hy => by rwa [← Option.some.inj hy]⟩
      case isFalse => exact ⟨⟨rng, hrng⟩, hsome⟩

/-- A search for a place changes the generator and finds a free place or none. -/
theorem randomTileY_spec (p : ScreenshotParade) (x : Int) (width height speed i : Nat) :
    (∃ rng, (p.randomTileY x width height speed i).2 = { p with rng }) ∧
      ∀ y, (p.randomTileY x width height speed i).1 = some y →
        p.Clear x y width height speed i := by
  obtain ⟨⟨rng, hrng⟩, hsome⟩ := randomTries_spec
    (fun y => p.placementIsClear x y width height speed i) (-(height * 2 / 3 : Nat))
    (max ((p.height : Int) - (height / 3 : Nat) - -(height * 2 / 3 : Nat) + 1) 1).toNat 64 p
  dsimp only [randomTileY]
  split
  case h_1 y q heq =>
    rw [heq] at hrng hsome
    exact ⟨⟨rng, hrng⟩, fun y' hy' => placementIsClear_iff.mp (hsome y' hy')⟩
  case h_2 q heq =>
    rw [heq] at hrng
    refine ⟨⟨rng, hrng⟩, fun y hy => placementIsClear_iff.mp ?_⟩
    exact List.find?_some (p := fun y => p.placementIsClear x y width height speed i) hy

/-! ## 7. Tiles that enter -/

/-- The tile that enters with the card it holds ready. -/
def entered (t : Tile) (c : PreparedCard) (y : Int) : Tile :=
  { t with
    next := none
    xFp := -(c.raster.width : Int) * PARADE_SUBPIXEL_ONE
    y := y
    imageIndex := c.imageIndex
    raster := c.raster
    active := true }

/-- A layer that may get one more tile. -/
inductive Grown (p : ScreenshotParade) (layerIndex : Nat) : ScreenshotParade → Prop where
  | same : Grown p layerIndex p
  | grown (q : ScreenshotParade)
      (hcount : p.tiles.countP (·.layer = MIN_TILE_SPEED + layerIndex) < p.target layerIndex)
      (hq : (p.pushEmptyTile layerIndex).Queued p.tiles.length q) : Grown p layerIndex q

/-- What one turn of the spawn loop does: nothing but with the clocks, or a tile of the layer enters
    at a free place with the card it held ready. -/
inductive Spawned (p : ScreenshotParade) (layerIndex : Nat) : ScreenshotParade → Prop where
  | kept (rng : UInt64) (layers : List LayerSchedule) : Spawned p layerIndex { p with rng, layers }
  | entered (i : Nat) (t : Tile) (c : PreparedCard) (y : Int) (rng : UInt64)
      (layers : List LayerSchedule) (q : ScreenshotParade) (ht : p.tiles[i]? = some t)
      (hlayer : t.layer = MIN_TILE_SPEED + layerIndex) (hinactive : t.active = false)
      (hnext : t.next = some c)
      (hclear : p.Clear (-c.raster.width) y c.raster.width c.raster.height t.layer i)
      (hq : Grown { p with rng, layers, tiles := p.tiles.set i (entered t c y) } layerIndex q) :
      Spawned p layerIndex q

theorem growLayer_grown (p : ScreenshotParade) (layerIndex : Nat) :
    p.Grown layerIndex (p.growLayer layerIndex) := by
  dsimp only [growLayer]
  split
  case isTrue h =>
    simp only [Bool.and_eq_true, decide_eq_true_eq] at h
    exact .grown _ h.1 (queueSuccessor_queued _ _)
  case isFalse => exact .same

theorem clear_setTile {t : Tile} (h : (p.setTile i t).Clear x y width height speed i) :
    p.Clear x y width height speed i := by
  intro j s hs hji
  exact h j s (by rw [setTile, getElem?_set_ne hji, hs]) hji

theorem spawn_spawned (p : ScreenshotParade) (nominalFrame layerIndex : Nat) :
    p.Spawned layerIndex (p.spawn nominalFrame layerIndex) := by
  unfold spawn
  split
  case isTrue => exact .kept p.rng p.layers
  case isFalse =>
    dsimp only
    split
    case h_1 => exact .kept p.rng p.layers
    case h_2 t i hfind =>
      have hmem := List.mem_of_find?_eq_some hfind
      have hready := List.find?_some hfind
      rw [List.mem_zipIdx_iff_getElem?] at hmem
      simp only [Bool.and_eq_true, Bool.not_eq_true', decide_eq_true_eq] at hready hmem
      obtain ⟨⟨hlayer, hinactive⟩, -⟩ := hready
      split
      case h_1 => exact .kept p.rng p.layers
      case h_2 c hnext =>
        obtain ⟨⟨rng, hrng⟩, hclear⟩ := randomTileY_spec (p.setTile i { t with next := none })
          (-c.raster.width) c.raster.width c.raster.height (MIN_TILE_SPEED + layerIndex) i
        split
        case h_1 q heq =>
          rw [heq] at hrng
          have hback : (p.tiles.set i { t with next := none }).set i { t with next := some c } =
              p.tiles := by
            rw [List.set_set, ← hnext]
            exact set_same hmem
          dsimp only at hrng
          subst hrng
          dsimp only [setTile]
          rw [hback]
          exact .kept rng _
        case h_2 y q heq =>
          rw [heq] at hrng hclear
          dsimp only at hrng
          subst hrng
          have hplace : p.Clear (-c.raster.width) y c.raster.width c.raster.height t.layer i := by
            rw [hlayer]
            exact clear_setTile (hclear y rfl)
          dsimp only [setTile, jitteredInterval, randomBelow]
          rw [List.set_set]
          exact .entered i t c y _ _ _ hmem hlayer hinactive hnext hplace (growLayer_grown _ _)

/-! ## 8. Frames and events -/

/-- What the operations of a frame up to the spawn loop keep, with the tiles that may ask for a
    successor: those whose image has failed and those that have left the screen. -/
structure Stable (P : ScreenshotParade → Prop) (Asks : ScreenshotParade → Nat → Prop) : Prop where
  receive : ∀ {p result results}, P p → p.results = result :: results →
    P ({ p with results }.receive result).1 ∧
      (∀ i, Asks p i → Asks ({ p with results }.receive result).1 i) ∧
      ∀ i ∈ ({ p with results }.receive result).2, Asks ({ p with results }.receive result).1 i
  lost : ∀ {p}, P p → p.workerRuns = false → P { p with scaleWorkerConnected := false } ∧
    ∀ i, Asks p i → Asks { p with scaleWorkerConnected := false } i
  forget : ∀ {p}, P p → P p.forgetPending ∧ ∀ i, Asks p i → Asks p.forgetPending i
  request : ∀ {p q i}, P p → Asks p i → p.Queued i q → P q ∧ ∀ j, Asks p j → Asks q j
  move : ∀ {p} (n : Nat), P p → P { p with tiles := p.tiles.map (p.moved n) } ∧
    ∀ i t, p.tiles[i]? = some t → t.active → (p.moved n t).active = false →
      Asks { p with tiles := p.tiles.map (p.moved n) } i
  clock : ∀ {p} (ticks : Nat), P p → P { p with previousMotionTicksFp := ticks }

section Stable

variable {P : ScreenshotParade → Prop} {Asks : ScreenshotParade → Nat → Prop}

theorem Stable.requests (h : Stable P Asks) {tileIndexes : List Nat} (hP : P p)
    (hasks : ∀ i ∈ tileIndexes, Asks p i) : P (p.queueSuccessors tileIndexes) := by
  have hall : P (p.queueSuccessors tileIndexes) ∧
      ∀ i ∈ tileIndexes, Asks (p.queueSuccessors tileIndexes) i := by
    refine queueSuccessors_invariant (P := fun p => P p ∧ ∀ i ∈ tileIndexes, Asks p i) ?_
      ⟨hP, hasks⟩
    rintro p q i hi ⟨hP, hasks⟩ hq
    obtain ⟨hP', hasks'⟩ := h.request hP (hasks i hi) hq
    exact ⟨hP', fun j hj => hasks' j (hasks j hj)⟩
  exact hall.1

theorem Stable.collectScaledCards (h : Stable P Asks) (hP : P p) (limit : Nat) :
    P (p.collectScaledCards limit) := by
  have hcollected := collect_invariant (P := fun p failed => P p ∧ ∀ i ∈ failed, Asks p i)
    (fun p failed result results hp hresults => by
      obtain ⟨hP', hkept, hnew⟩ := h.receive hp.1 hresults
      refine ⟨hP', fun i hi => ?_⟩
      rcases List.mem_append.mp hi with hi | hi
      · exact hkept i (hp.2 i hi)
      · exact hnew i hi)
    (fun p failed hp hruns => by
      obtain ⟨hP', hkept⟩ := h.lost hp.1 hruns
      exact ⟨hP', fun i hi => hkept i (hp.2 i hi)⟩)
    limit (p := p) [] ⟨hP, fun i hi => absurd hi List.not_mem_nil⟩
  obtain ⟨hforgotten, hasks⟩ := h.forget hcollected.1
  exact h.requests hforgotten fun i hi => hasks i (hcollected.2 i hi)

theorem Stable.moveTiles (h : Stable P Asks) (hP : P p) (n : Nat) : P (p.moveTiles n) := by
  obtain ⟨hmoved, hasks⟩ := h.move n hP
  refine h.requests hmoved fun i hi => ?_
  obtain ⟨⟨t, j⟩, hmem, rfl⟩ := List.mem_map.mp hi
  obtain ⟨ht, hexit⟩ := List.mem_filter.mp hmem
  rw [List.mem_zipIdx_iff_getElem?] at ht
  simp only [Bool.and_eq_true, Bool.not_eq_true'] at hexit
  exact hasks j t ht hexit.1 hexit.2

/-- What is true before the spawn loop of a frame. -/
theorem Stable.untilSpawn (h : Stable P Asks) (hP : P p) (n : Nat) :
    P ((p.collectScaledCards MAX_CARD_ADOPTIONS_PER_FRAME).moveTiles n) :=
  h.moveTiles (h.collectScaledCards hP _) n

/-- What every turn of the spawn loop keeps, the loop keeps. -/
theorem spawns_invariant {Q : ScreenshotParade → Prop} {layerIndexes : List Nat}
    (hspawn : ∀ p q, ∀ layerIndex ∈ layerIndexes, Q p → p.Spawned layerIndex q → Q q)
    (nominalFrame : Nat) (h : Q p) :
    Q (layerIndexes.foldl (fun p layerIndex => p.spawn nominalFrame layerIndex) p) := by
  induction layerIndexes generalizing p with
  | nil => exact h
  | cons layerIndex layerIndexes ih =>
      refine ih (fun p q l hl => hspawn p q l (List.mem_cons_of_mem _ hl)) ?_
      exact hspawn p _ layerIndex List.mem_cons_self h (spawn_spawned p nominalFrame layerIndex)

theorem Stable.advance (h : Stable P Asks)
    (hspawn : ∀ p q, ∀ layerIndex < SPEED_COUNT, P p → p.Spawned layerIndex q → P q) (hP : P p)
    (ticks n : Nat) : P (p.advance ticks n) := by
  refine spawns_invariant (fun p q l hl => hspawn p q l ?_) _ (h.untilSpawn hP n)
  exact List.mem_range.mp hl

/-- What an event does to the parade: nothing, a frame, an answer of the worker or its end. -/
inductive Happened (p : ScreenshotParade) : ScreenshotParade → Prop where
  | nothing : Happened p p
  | frame (ticks n elapsed : Nat) :
      Happened p
        { { p with previousMotionTicksFp := ticks }.advance ticks n with lastElapsed := elapsed }
  | answered (job : ScaleJob) (jobs : List ScaleJob) (pixels : Except String ScreenshotImage)
      (hjobs : p.jobs = job :: jobs) :
      Happened p { p with jobs, results := p.results ++ [ScaleJob.prepare job pixels] }
  | ended : Happened p p.endWorker

theorem renderAtMotionTicks_happened {pixels ticks : Nat}
    (h : p.renderAtMotionTicks pixels ticks = .ok q) (elapsed : Nat) :
    p.Happened { q with lastElapsed := elapsed } := by
  unfold renderAtMotionTicks at h
  split at h
  · cases h
  split at h
  · cases h
  dsimp only at h
  split at h
  · cases h
  · rw [← Except.ok.inj h]
    exact .frame ticks _ elapsed

theorem after_happened (p : ScreenshotParade) (e : Event) : p.Happened (p.after e) := by
  cases e with
  | renderAt pixels elapsed =>
      rw [after, renderAt]
      split
      case isTrue => exact .nothing
      case isFalse =>
        cases hrender : p.renderAtMotionTicks pixels (tickDeltaFp elapsed) with
        | error error => exact .nothing
        | ok q => exact renderAtMotionTicks_happened hrender elapsed
  | renderAtPresentationTick pixels tick =>
      rw [after, renderAtPresentationTick]
      split
      case isTrue =>
        cases hrender : p.renderAtMotionTicks pixels (tick * TICK_ONE) with
        | error error => exact .nothing
        | ok q => exact renderAtMotionTicks_happened hrender q.lastElapsed
      case isFalse => exact .nothing
  | answer pixels =>
      rw [after, answer]
      split
      case h_1 => exact .nothing
      case h_2 job jobs hjobs => exact .answered job jobs pixels hjobs
  | endWorker => exact .ended

/-- What holds after every event, given what each part of an event keeps. -/
theorem Stable.after (h : Stable P Asks)
    (hspawn : ∀ p q, ∀ layerIndex < SPEED_COUNT, P p → p.Spawned layerIndex q → P q)
    (helapsed : ∀ p elapsed, P p → P { p with lastElapsed := elapsed })
    (hanswer : ∀ p job jobs pixels, P p → p.jobs = job :: jobs →
      P { p with jobs, results := p.results ++ [ScaleJob.prepare job pixels] })
    (hend : ∀ p, P p → P p.endWorker) (hP : P p) (e : Event) : P (p.after e) := by
  have happened := after_happened p e
  generalize p.after e = q at happened
  cases happened with
  | nothing => exact hP
  | frame ticks n elapsed => exact helapsed _ _ (h.advance hspawn (h.clock ticks hP) ticks n)
  | answered job jobs pixels hjobs => exact hanswer p job jobs pixels hP hjobs
  | ended => exact hend p hP

end Stable

end ScreenshotParade

end MisterMagik.Parade
