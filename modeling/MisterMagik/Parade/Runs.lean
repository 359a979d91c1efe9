/-
  File:      MisterMagik/Parade/Runs.lean
  Subject:   The schedule of the screenshot parade over every run.

  A run is a constructed parade and any events: render calls with any clocks, answers of the worker
  with success or failure, and its end.

  * `length_le_queueBound` -- there are no more tiles than the queue's bound, and no more jobs than
    tiles;
  * `images_nodup` -- in a streaming parade no image is used twice;
  * **`parade_keeps_its_schedule`** -- the invariants after every run, and what a frame may do to a
    ready card;
  * `own_image_again` -- an offline prepared parade may have a card's own image prepared again.
-/
import MisterMagik.Parade.Construction
import Mathlib.Algebra.Order.BigOperators.Group.List
import Mathlib.Data.List.Nodup

namespace MisterMagik.Parade

open Scenes (Rgb565OutputLayout)

/-! ## 1. Tiles and images -/

/-- The sub-pixel columns and the rows that a card covers. -/
def Tile.Covers (t : Tile) (xFp y : Int) : Prop :=
  t.xFp ≤ xFp ∧ xFp < t.xFp + t.raster.width * PARADE_SUBPIXEL_ONE ∧
    t.y ≤ y ∧ y < t.y + t.raster.height

theorem Beside.disjoint {s t : Tile} (h : Beside s t) (xFp y : Int) :
    ¬(s.Covers xFp y ∧ t.Covers xFp y) := by
  unfold Beside Tile.Covers at *
  omega

/-- The images of the card a tile shows, the one it holds ready and the one it waits for. -/
def Tile.images (t : Tile) : List Nat :=
  (if t.active then [t.imageIndex] else []) ++ t.next.toList.map PreparedCard.imageIndex ++
    t.pendingImageIndex.toList

theorem Tile.mem_images {t : Tile} {m : Nat} : m ∈ t.images ↔ t.Uses m := by
  unfold Tile.images Tile.Uses
  cases t.active <;> cases t.next <;> cases t.pendingImageIndex <;>
    simp [eq_comm]

section Lists

variable {tiles : List Tile}

/-- Every tile is counted in its layer. -/
theorem length_eq_counts (h : ∀ t ∈ tiles, ∃ l < SPEED_COUNT, t.layer = MIN_TILE_SPEED + l) :
    tiles.length =
      ((List.range SPEED_COUNT).map fun l => tiles.countP (·.layer = MIN_TILE_SPEED + l)).sum := by
  induction tiles with
  | nil => rfl
  | cons t tiles ih =>
      obtain ⟨l, hl, hlayer⟩ := h t List.mem_cons_self
      have ih := ih fun s hs => h s (List.mem_cons_of_mem _ hs)
      have hcount : SPEED_COUNT = 5 := rfl
      rw [List.length_cons, ih]
      simp only [List.countP_cons, hlayer, hcount, MIN_TILE_SPEED, List.range_succ, List.range_zero,
        List.nil_append, List.cons_append, List.map_cons, List.map_nil, List.sum_cons, List.sum_nil,
        decide_eq_true_eq]
      split_ifs <;> omega

theorem targets_sum (width height : Nat) :
    ((List.range SPEED_COUNT).map fun l => (layerTargets width height).getD l 0).sum =
      (layerTargets width height).sum := by
  unfold layerTargets
  split <;> decide

end Lists

namespace ScreenshotParade

variable {p : ScreenshotParade} {width height : Nat}

/-- All the images in use, each as often as it is used. -/
def images (p : ScreenshotParade) : List Nat := p.tiles.flatMap Tile.images

theorem Sound.length_le_queueBound (h : p.Sound)
    (htargets : p.layerTargets = Parade.layerTargets width height) :
    p.tiles.length ≤ p.queueBound := by
  have hlayers : ∀ t ∈ p.tiles, ∃ l < SPEED_COUNT, t.layer = MIN_TILE_SPEED + l := fun t ht => by
    obtain ⟨i, hi⟩ := List.mem_iff_getElem?.mp ht
    exact (h.crewed.tile i t hi).layer
  rw [length_eq_counts hlayers, queueBound, htargets, ← targets_sum]
  refine List.sum_le_sum fun l hl => ?_
  rw [← htargets]
  exact h.crewed.count l (List.mem_range.mp hl)

theorem Sound.waiting_le_length (h : p.Sound) : p.waiting.length ≤ p.tiles.length := by
  have hsub : p.waiting.map Prod.fst ⊆ List.range p.tiles.length := fun i hi => by
    obtain ⟨o, ho, rfl⟩ := List.mem_map.mp hi
    obtain ⟨t, ht, -⟩ := h.traffic.free o ho
    exact List.mem_range.mpr (List.getElem?_eq_some_iff.mp ht).1
  have hle := (List.subperm_of_subset h.traffic.once hsub).length_le
  rwa [List.length_map, List.length_range] at hle

theorem waiting_length (p : ScreenshotParade) :
    p.waiting.length = p.jobs.length + p.results.length := by
  rw [waiting, waitingOf, List.length_append, List.length_map, List.length_map, Nat.add_comm]

/-- Two tiles use no image both. -/
theorem Sound.images_pairwise (h : p.Sound) :
    p.tiles.Pairwise fun s t => ∀ m ∈ s.images, m ∉ t.images := by
  rw [List.pairwise_iff_getElem]
  intro i j hi hj hij m hm hm'
  have hs := List.getElem?_eq_getElem hi
  have ht := List.getElem?_eq_getElem hj
  have e := h.exclusive i j m (.inl ⟨_, hs, Tile.mem_images.mp hm⟩)
    (.inl ⟨_, ht, Tile.mem_images.mp hm'⟩)
  omega

theorem Streaming.images_nodup (h : p.Sound) (hstreaming : p.Streaming) : p.images.Nodup := by
  rw [images, List.nodup_flatMap]
  refine ⟨fun t ht => ?_, h.images_pairwise.imp fun {s t} hdisjoint m hs ht => hdisjoint m hs ht⟩
  obtain ⟨i, hi⟩ := List.mem_iff_getElem?.mp ht
  unfold Tile.images
  by_cases hactive : t.active
  · obtain ⟨hnext, hpending⟩ := hstreaming.tile i t hi hactive
    rw [if_pos hactive, hnext, hpending]
    exact List.pairwise_singleton _ _
  · rw [if_neg hactive]
    rcases (h.crewed.tile i t hi).turn with hnone | hnone
    · rw [hnone]
      cases t.pendingImageIndex
      · exact List.nodup_nil
      · exact List.pairwise_singleton _ _
    · rw [hnone]
      cases t.next
      · exact List.nodup_nil
      · exact List.pairwise_singleton _ _

/-! ## 2. Runs -/

theorem receive_screen (p : ScreenshotParade) (result : ScaleResult) :
    (p.receive result).1.width = p.width ∧ (p.receive result).1.height = p.height ∧
      (p.receive result).1.layerTargets = p.layerTargets := by
  dsimp only [receive]
  split
  · split <;> exact ⟨rfl, rfl, rfl⟩
  · split <;> exact ⟨rfl, rfl, rfl⟩

theorem Spawned.screen {q : ScreenshotParade} {l : Nat} (hq : p.Spawned l q) :
    q.width = p.width ∧ q.height = p.height ∧ q.layerTargets = p.layerTargets := by
  cases hq with
  | kept rng layers => exact ⟨rfl, rfl, rfl⟩
  | entered i t c y rng layers q ht hlayer hinactive hnext hclear hq =>
      cases hq with
      | same => exact ⟨rfl, rfl, rfl⟩
      | grown q hcount hq => exact hq.screen

theorem screen_stable (width height : Nat) : Stable (OnScreen width height) fun _ _ => True where
  receive h _ := ⟨h.trans (receive_screen _ _), fun _ _ => trivial, fun _ _ => trivial⟩
  lost h _ := ⟨h, fun _ _ => trivial⟩
  forget h := by
    refine ⟨?_, fun _ _ => trivial⟩
    unfold forgetPending
    split <;> exact h
  request h _ hq := ⟨h.trans hq.screen, fun _ _ => trivial⟩
  move _ h := ⟨h, fun _ _ _ _ _ => trivial⟩
  clock _ h := h

theorem OnScreen.after (h : OnScreen width height p) (e : Event) :
    OnScreen width height (p.after e) :=
  (screen_stable width height).after (fun _ _ _ _ hp hq => hp.trans hq.screen)
    (fun _ _ hp => hp) (fun _ _ _ _ hp _ => hp) (fun _ hp => hp) h e

/-- What every event keeps, a run keeps. -/
theorem run_invariant {P : ScreenshotParade → Prop} (hafter : ∀ p e, P p → P (p.after e))
    (h : P p) (events : List Event) : P (events.foldl after p) := by
  induction events generalizing p with
  | nil => exact h
  | cons e events ih => exact ih (hafter p e h)

/-- **The schedule of every run of a parade.** After any events

    * an active card lies on a phase of its layer that it was prepared for;
    * two active cards of a layer cover no point both;
    * no image is used by two tiles, and in a streaming parade none is used twice at all;
    * no layer has more tiles than its target, and there are at most `queueBound` jobs under way;
    * the next event leaves a card that is ready where it is, or shows it. -/
theorem parade_keeps_its_schedule {assetKeys : Nat} {seed : UInt64}
    {outputLayout : Rgb565OutputLayout USIZE_MAX}
    {offlinePrepared : Option (List (Except String ScreenshotImage))}
    (h : construct assetKeys width height seed outputLayout offlinePrepared = .ok p)
    (events : List Event) :
    let q := events.foldl after p
    (∀ t ∈ q.tiles, t.active →
      t.velocityFp = cardVelocityFp (t.layer - MIN_TILE_SPEED) width ∧
        onPhaseLattice t.xFp t.velocityFp ∧ HasPhase t.raster.shiftedPhases (rasterPhase t.xFp)) ∧
    (q.tiles.Pairwise fun s t => s.active → t.active → s.layer = t.layer →
      ∀ xFp y, ¬(s.Covers xFp y ∧ t.Covers xFp y)) ∧
    (q.tiles.Pairwise fun s t => ∀ m ∈ s.images, m ∉ t.images) ∧
    (offlinePrepared = none → q.images.Nodup) ∧
    (∀ l < SPEED_COUNT, q.tiles.countP (·.layer = MIN_TILE_SPEED + l) ≤
      (Parade.layerTargets width height).getD l 0) ∧
    q.scaleQueueDepth ≤ q.queueBound ∧ q.jobs.length + q.results.length ≤ q.queueBound ∧
    ∀ (i : Nat) (t : Tile) c e, q.tiles[i]? = some t → t.next = some c →
      ∃ t', (q.after e).tiles[i]? = some t' ∧ (t'.next = some c ∨ Shows t' c) := by
  obtain ⟨hsound, hscreen, hstreaming⟩ := construct_sound h
  have hboth := run_invariant (P := fun p => p.Sound ∧ OnScreen width height p)
    (fun p e hp => ⟨hp.1.after e, hp.2.after e⟩) ⟨hsound, hscreen⟩ events
  intro q
  obtain ⟨hq, hwidth, hheight, htargets⟩ : q.Sound ∧ OnScreen width height q := hboth
  have hlength := hq.length_le_queueBound htargets
  refine ⟨fun t ht hactive => ?_, ?_, hq.images_pairwise, fun hnone => ?_, fun l hl => ?_, ?_, ?_,
    fun i t c e ht hnext => hq.kept_or_shown ⟨t, ht, hnext⟩ e⟩
  · obtain ⟨i, hi⟩ := List.mem_iff_getElem?.mp ht
    have hwell := hq.crewed.tile i t hi
    have hphases := (hwell.shown hactive).phases
    rw [← hwell.velocity] at hphases
    refine ⟨?_, onPhaseLattice_of (hwell.lattice hactive),
      hasPhase_of_lattice (hwell.lattice hactive) hphases⟩
    rw [hwell.velocity, hwidth]
  · rw [List.pairwise_iff_getElem]
    intro i j hi hj hij hsa hta hlayer
    exact (hq.spaced i j _ _ (List.getElem?_eq_getElem hi) (List.getElem?_eq_getElem hj)
      (Nat.ne_of_lt hij) hsa hta hlayer).disjoint
  · have hstreams := run_invariant (P := fun p => p.Sound ∧ p.Streaming)
      (fun p e hp => ⟨hp.1.after e, hp.2.after hp.1 e⟩) ⟨hsound, hstreaming hnone⟩ events
    exact hstreams.2.images_nodup hq
  · rw [← htargets]
    exact hq.crewed.count l hl
  · rw [hq.traffic.depth]
    exact Nat.le_trans List.countP_le_length hlength
  · rw [← waiting_length]
    exact Nat.le_trans hq.waiting_le_length hlength

theorem ok_get {E A : Type} {x : Except E A} (h : x.toOption.isSome) :
    x = .ok (x.toOption.get h) := by
  cases x with
  | error e => cases h
  | ok a => rfl

/-- The parade of three images that streams, as it is constructed. -/
def streamed : ScreenshotParade :=
  (construct 3 320 240 5 smallScreen none).toOption.get (by decide +kernel)

theorem streamed_keeps_its_schedule :
    ([.answer (.ok ⟨4, 4⟩), .renderAtPresentationTick 76800 50].foldl after
      streamed).images.Nodup :=
  (parade_keeps_its_schedule (ok_get (by decide +kernel) :
    construct 3 320 240 5 smallScreen none = .ok streamed) _).2.2.2.1 rfl

/-- An offline parade of one image. -/
def prepared : ScreenshotParade :=
  (construct 1 320 240 1 smallScreen (some [.ok ⟨4, 4⟩])).toOption.get (by decide +kernel)

/-- After its first frame the one image is on the screen, and the tile that shows it waits for it
    again: a card that will be replaced does not count as a user of its image. -/
theorem own_image_again :
    construct 1 320 240 1 smallScreen (some [.ok ⟨4, 4⟩]) = .ok prepared ∧
      (prepared.after (.renderAtPresentationTick 76800 0)).images = [0, 0] :=
  ⟨ok_get (by decide +kernel), by decide +kernel⟩

end ScreenshotParade

end MisterMagik.Parade
