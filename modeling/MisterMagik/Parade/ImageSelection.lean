/-
  File:      MisterMagik/Parade/ImageSelection.lean
  Subject:   Which image a tile shows next (`next_image_for`, `queue_successor`).

  A search looks at as many cards as the deck has. When the deck ends in the middle of it and is
  shuffled again, some images come twice and others not at all, so a search may come back with
  nothing although an image could have been shown. A tile without an image is left for good.

  * `Idle`, `idle_forever` -- a tile that shows nothing, has nothing ready and waits for nothing is
    never queued again;
  * **`image_selection_complete_iff`** -- when a search finds an image if there is one.
-/
import MisterMagik.Parade.Steps

namespace MisterMagik.Parade

namespace ScreenshotParade

variable {p q : ScreenshotParade} {i k m images : Nat}

/-! ## 1. Idle tiles -/

/-- A tile that shows nothing, has nothing ready and waits for nothing. -/
structure Idle (p : ScreenshotParade) (k : Nat) : Prop where
  tile : ∃ t, p.tiles[k]? = some t ∧ t.active = false ∧ t.next = none ∧ t.pendingImageIndex = none
  unqueued : ∀ m, (k, m) ∉ p.waiting

theorem Idle.tiles (h : p.Idle k) (htiles : q.tiles[k]? = p.tiles[k]?)
    (hwaiting : ∀ m, (k, m) ∈ q.waiting → (k, m) ∈ p.waiting) : q.Idle k :=
  ⟨by rw [htiles]; exact h.tile, fun m hm => h.unqueued m (hwaiting m hm)⟩

theorem Idle.lt (h : p.Idle k) : k < p.tiles.length := by
  obtain ⟨t, ht, -⟩ := h.tile
  exact (List.getElem?_eq_some_iff.mp ht).1

theorem Idle.queued (h : p.Idle k) (hne : i ≠ k) (hq : p.Queued i q) : q.Idle k := by
  cases hq with
  | kept d hd => exact ⟨h.tile, h.unqueued⟩
  | refused d hd hruns => exact ⟨h.tile, h.unqueued⟩
  | sent d hd t m ht hnext hpending hm hruns =>
      refine h.tiles (getElem?_set_ne hne.symm) fun m' hm' => ?_
      rw [waiting, waitingOf_sent, List.mem_append] at hm'
      rcases hm' with hm' | hm'
      · exact hm'
      · exact absurd (congrArg Prod.fst (List.mem_singleton.mp hm')) hne.symm

theorem Idle.received {result : ScaleResult} {results : List ScaleResult} (h : p.Idle k)
    (hresults : p.results = result :: results) :
    result.tileIndex ≠ k ∧ ({ p with results }.receive result).1.Idle k := by
  obtain ⟨htiles, hwaiting, -⟩ := receive_frame { p with results } result
  have hpop : p.waiting =
      (result.tileIndex, result.imageIndex) :: { p with results }.waiting := by
    rw [waiting, hresults]
    rfl
  have hne : result.tileIndex ≠ k := by
    rintro rfl
    exact h.unqueued result.imageIndex (by rw [hpop]; exact List.mem_cons_self)
  refine ⟨hne, h.tiles (htiles k hne.symm) fun m hm => ?_⟩
  rw [hwaiting] at hm
  rw [hpop]
  exact List.mem_cons_of_mem _ hm

theorem Idle.moved (h : p.Idle k) (n : Nat) :
    { p with tiles := p.tiles.map (p.moved n) }.Idle k := by
  obtain ⟨t, ht, hinactive, hrest⟩ := h.tile
  refine ⟨⟨t, ?_, hinactive, hrest⟩, h.unqueued⟩
  rw [List.getElem?_map, ht, Option.map_some, moved_inactive hinactive]

theorem Idle.forget (h : p.Idle k) : p.forgetPending.Idle k := by
  unfold forgetPending
  split
  · exact h
  · obtain ⟨t, ht, hinactive, hnext, hpending⟩ := h.tile
    refine ⟨⟨{ t with pendingImageIndex := none }, ?_, hinactive, hnext, rfl⟩, h.unqueued⟩
    rw [List.getElem?_map, ht, Option.map_some]

theorem Idle.spawned {layerIndex : Nat} (h : p.Idle k) (hq : p.Spawned layerIndex q) :
    q.Idle k := by
  cases hq with
  | kept rng layers => exact ⟨h.tile, h.unqueued⟩
  | entered i t c y rng layers q ht hlayer hinactive hnext hclear hq =>
      have hne : i ≠ k := by
        rintro rfl
        obtain ⟨t', ht', -, hnone, -⟩ := h.tile
        cases ht.symm.trans ht'
        cases hnext.symm.trans hnone
      have hset : { p with rng, layers, tiles := p.tiles.set i (entered t c y) }.Idle k :=
        h.tiles (getElem?_set_ne hne.symm) fun _ hm => hm
      cases hq with
      | same => exact hset
      | grown q hcount hq =>
          have hlt := hset.lt
          refine Idle.queued ?_ (Nat.ne_of_gt hlt) hq
          exact hset.tiles (List.getElem?_append_left hlt) fun _ hm => hm

theorem idle_stable (k : Nat) : Stable (fun p => p.Idle k) fun _ i => i ≠ k where
  receive {p result results} h hresults := by
    obtain ⟨hne, hidle⟩ := h.received hresults
    refine ⟨hidle, fun _ hi => hi, fun i hi => ?_⟩
    rw [(receive_frame _ _).2.2.2 i hi]
    exact hne
  lost h _ := ⟨⟨h.tile, h.unqueued⟩, fun _ hi => hi⟩
  forget h := ⟨h.forget, fun _ hi => hi⟩
  request h hne hq := ⟨h.queued hne hq, fun _ hi => hi⟩
  move {p} n h := by
    refine ⟨h.moved n, fun i t ht hactive _ hik => ?_⟩
    subst hik
    obtain ⟨t', ht', hinactive, -⟩ := h.tile
    cases ht.symm.trans ht'
    rw [hactive] at hinactive
    cases hinactive
  clock ticks h := ⟨h.tile, h.unqueued⟩

theorem Idle.after (h : p.Idle k) (e : Event) : (p.after e).Idle k := by
  refine (idle_stable k).after (fun p q l _ hp hq => hp.spawned hq)
    (fun p _ hp => ⟨hp.tile, hp.unqueued⟩) (fun p job jobs pixels hp hjobs => ⟨hp.tile, ?_⟩)
    (fun p hp => ⟨hp.tile, fun m hm => hp.unqueued m ?_⟩) h e
  · rw [waiting, waitingOf_answered, ← hjobs]
    exact hp.unqueued
  · rw [endWorker, waiting, waitingOf, List.map_nil, List.append_nil] at hm
    exact List.mem_append_left _ hm

/-- An idle tile stays idle, whatever happens to the parade. -/
theorem idle_forever (h : p.Idle k) (events : List Event) : (events.foldl after p).Idle k := by
  induction events generalizing p with
  | nil => exact h
  | cons e events ih => exact ih (h.after e)

/-! ## 2. The search -/

theorem nextImageFor_isSome (h : p.toDeck.Whole images) :
    (∃ m, (p.nextImageFor i).1 = some m) ↔
      (∃ m ∈ p.deck.drop p.cursor, p.Available i m) ∨
        ∃ m ∈ (shuffle p.deck p.rng).1.take p.cursor, p.Available i m := by
  rw [← Option.isSome_iff_exists, nextImageFor_eq, Deck.search_isSome h]
  simp only [usable_iff]

theorem nextImageFor_lt (h : p.toDeck.Whole images) (hm : (p.nextImageFor i).1 = some m) :
    m < images := by
  rw [nextImageFor_eq] at hm
  exact (Deck.search_usable h hm).1

theorem nextImageFor_whole (h : p.toDeck.Whole images) :
    (p.nextImageFor i).2.toDeck.Whole images := by
  rcases Nat.eq_zero_or_pos images with rfl | hpos
  · have hdeck : p.deck = [] := List.length_eq_zero_iff.mp h.length
    rwa [nextImageFor, hdeck]
  · exact nextImageFor_searched images hpos h

/-- A request that finds no image leaves an idle tile behind. -/
theorem idle_of_none {t : Tile} (ht : p.tiles[i]? = some t) (hinactive : t.active = false)
    (hnext : t.next = none) (hpending : t.pendingImageIndex = none)
    (hunqueued : ∀ m, (i, m) ∉ p.waiting) (hnone : (p.nextImageFor i).1 = none) :
    (p.queueSuccessor i).Idle i := by
  have e : p.queueSuccessor i = (p.nextImageFor i).2 := by
    rw [queueSuccessor, ht]
    dsimp only
    rw [if_neg (by rw [hnext, hpending]; decide)]
    rw [nextImageFor_eq] at hnone ⊢
    dsimp only at hnone
    rw [hnone]
  rw [e, nextImageFor_eq]
  exact ⟨⟨t, ht, hinactive, hnext, hpending⟩, hunqueued⟩

/-- **A search finds an image whenever there is one to find, exactly if it comes by one**: in the
    rest of the deck, or in the part of the reshuffled deck it still looks at. What it finds may be
    shown, the deck stays whole, and a tile that is left without an image stays without one. -/
theorem image_selection_complete_iff (h : p.toDeck.Whole images) (i : Nat) :
    (((∃ m < images, p.Available i m) → ∃ m, (p.nextImageFor i).1 = some m) ↔
      (¬∃ m < images, p.Available i m) ∨ (∃ m ∈ p.deck.drop p.cursor, p.Available i m) ∨
        ∃ m ∈ (shuffle p.deck p.rng).1.take p.cursor, p.Available i m) ∧
    (∀ m, (p.nextImageFor i).1 = some m → m < images ∧ p.Available i m) ∧
    (p.nextImageFor i).2.toDeck.Whole images ∧
    ((p.nextImageFor i).1 = none → ∀ t, p.tiles[i]? = some t → t.active = false →
      t.next = none → t.pendingImageIndex = none → (∀ m, (i, m) ∉ p.waiting) →
        ∀ events : List Event, (events.foldl after (p.queueSuccessor i)).Idle i) := by
  refine ⟨?_, fun m hm => ⟨nextImageFor_lt h hm, nextImageFor_available hm⟩, nextImageFor_whole h,
    fun hnone t ht hinactive hnext hpending hunqueued events => ?_⟩
  · rw [← nextImageFor_isSome h]
    exact imp_iff_not_or
  · exact idle_forever (idle_of_none ht hinactive hnext hpending hunqueued hnone) events

/-- A streaming parade of three images, with an answer of the worker before each frame. -/
def threeImages (ticks : List Nat) : Except String ScreenshotParade := do
  let p ← construct 3 320 240 5 smallScreen none
  .ok (ticks.foldl (fun p tick => (p.after (.answer (.ok ⟨4, 4⟩))).after
    (.renderAtPresentationTick 76800 tick)) p)

/-- The same in a fifth frame, when the card of tile 0 has just left the screen. -/
def departed : ScreenshotParade :=
  let p := (threeImages [50, 1050, 2050, 3050]).toOption.get (by decide +kernel)
  let p := (p.after (.answer (.ok ⟨4, 4⟩))).collectScaledCards MAX_CARD_ADOPTIONS_PER_FRAME
  { p with tiles := p.tiles.map (p.moved (1000 * TICK_ONE)) }

theorem departed_whole : departed.toDeck.Whole 3 :=
  ⟨List.isPerm_iff.mp (by decide +kernel), by decide +kernel⟩

theorem departed_keeps_its_deck :
    departed.toDeck.Whole 3 ∧ (departed.nextImageFor 0).2.toDeck.Whole 3 :=
  ⟨departed_whole, (image_selection_complete_iff departed_whole 0).2.2.1⟩

/-- Image 2 could be shown, but it comes first in the reshuffled deck, where the cursor had already
    been: tile 0 gets nothing. -/
theorem reshuffle_hides_an_image :
    departed.toDeck.Whole 3 ∧ departed.Available 0 2 ∧ (departed.nextImageFor 0).1 = none :=
  ⟨departed_whole, usable_iff.mp (by decide +kernel), by decide +kernel⟩

end ScreenshotParade

end MisterMagik.Parade
