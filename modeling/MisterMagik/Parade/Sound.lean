/-
  File:      MisterMagik/Parade/Sound.lean
  Subject:   The invariants of the screenshot parade over its operations and events.

  * `Sound` -- the four invariants together;
  * `Sound.queued`, `Sound.received`, `Sound.moved`, `Sound.spawned` -- each operation keeps them;
  * **`Sound.after`** -- and so does every event;
  * `Streaming` -- a tile on the screen has nothing ready and waits for nothing, kept by every event
    of a parade that started empty;
  * `Sound.kept_or_shown` -- a frame leaves a ready card where it is, or shows it.
-/
import MisterMagik.Parade.Invariants

namespace MisterMagik.Parade

namespace ScreenshotParade

variable {p q : ScreenshotParade} {i m n : Nat}

/-! ## 1. Soundness -/

structure Sound (p : ScreenshotParade) : Prop where
  crewed : Crewed p.width p.height p.layerTargets p.tiles
  spaced : Spaced p.tiles
  exclusive : Exclusive p.tiles p.waiting
  traffic : Traffic p.width p.height p.tiles p.jobs p.results p.workerRuns p.scaleWorkerConnected
    p.scaleQueueDepth

theorem Sound.speed (h : p.Sound) {t : Tile} (ht : p.tiles[i]? = some t) : t.speed = t.layer :=
  (h.crewed.tile i t ht).speed

/-- An available image is held by no other tile, and by none as a job. -/
theorem Sound.unheld (h : p.Sound) (hruns : p.workerRuns) (hm : p.Available i m) (j : Nat)
    (hj : Holds p.tiles p.waiting j m) : j = i := by
  by_contra hji
  rcases hj with ⟨t, ht, hshown | hawaits⟩ | hj
  · exact (hm.2 j t ht).1 ⟨hji, hshown⟩
  · exact (hm.2 j t ht).2 hawaits
  · obtain ⟨t, ht, hpending⟩ := h.traffic.known hruns _ hj
    exact (hm.2 j t ht).2 (.inr hpending)

theorem Sound.queued (h : p.Sound) (hq : p.Queued i q) : q.Sound := by
  cases hq with
  | kept d hd => exact ⟨h.crewed, h.spaced, h.exclusive, h.traffic⟩
  | refused d hd hruns =>
      refine ⟨h.crewed, h.spaced, h.exclusive,
        { h.traffic with told := ?_, lost := fun _ => hruns }⟩
      exact h.traffic.told.imp_right fun htold => ⟨rfl, htold.2⟩
  | sent d hd t m ht hnext hpending hm hruns =>
      have hphases : (p.jobFor i m t).phases =
          reachableShiftedPhases (cardVelocityFp (t.speed - MIN_TILE_SPEED) p.width) := by
        dsimp only [jobFor, preparedPhases]
      have hwell := (h.crewed.tile i t ht).pending (some m) (.inr hnext)
      refine
        { crewed := h.crewed.set ht hwell rfl
          spaced := h.spaced.set ht fun ha => ⟨ha, rfl, rfl, rfl, rfl⟩
          exclusive := ?_
          traffic := h.traffic.sent hruns ht hnext hpending rfl rfl rfl rfl hphases }
      refine h.exclusive.take (i := i) (m := m) (fun j m' hj => ?_) (h.unheld hruns hm)
      rcases hj with ⟨s, hs, huses⟩ | hj
      · rcases getElem?_set_some hs with ⟨rfl, rfl⟩ | ⟨-, hs⟩
        · rcases huses with hshown | hready | hwaits
          · exact .inl (.inl ⟨t, ht, .inl hshown⟩)
          · exact .inl (.inl ⟨t, ht, .inr (.inl hready)⟩)
          · exact .inr ⟨rfl, (Option.some.inj hwaits).symm⟩
        · exact .inl (.inl ⟨s, hs, huses⟩)
      · rw [waiting, waitingOf_sent] at hj
        rcases List.mem_append.mp hj with hj | hj
        · exact .inl (.inr hj)
        · cases List.mem_singleton.mp hj
          exact .inr ⟨rfl, rfl⟩

/-- The tile of an answer, which had no card ready. -/
theorem Sound.answered_tile (h : p.Sound) {result : ScaleResult} {results : List ScaleResult}
    (hresults : p.results = result :: results) :
    ∃ t, p.tiles[result.tileIndex]? = some t ∧ t.next = none := by
  have hfree := h.traffic.free
  rw [hresults] at hfree
  exact hfree (result.tileIndex, result.imageIndex) List.mem_cons_self

theorem Sound.received (h : p.Sound) {result : ScaleResult} {results : List ScaleResult}
    (hresults : p.results = result :: results) : ({ p with results }.receive result).1.Sound := by
  obtain ⟨t, ht, hnone⟩ := h.answered_tile hresults
  have htraffic := h.traffic
  have hexclusive := h.exclusive
  rw [waiting, hresults] at hexclusive
  rw [hresults] at htraffic
  have hwell := h.crewed.tile _ t ht
  have hwaits : ∀ o ∈ waitingOf results p.jobs, o ∈ waitingOf (result :: results) p.jobs :=
    fun o ho => List.mem_cons_of_mem _ ho
  cases hcard : result.card with
  | ok card =>
      have hresult := htraffic.result result List.mem_cons_self
      obtain ⟨t', ht', hcardWell⟩ := hresult
      cases ht.symm.trans ht'
      obtain ⟨himage, hcardWell⟩ := hcardWell card hcard
      rw [hwell.speed] at hcardWell
      rw [receive_ok (p := { p with results }) hcard ht]
      refine
        { crewed := h.crewed.set ht (hwell.receives hcardWell) rfl
          spaced := h.spaced.set ht fun ha => ⟨ha, rfl, rfl, rfl, rfl⟩
          exclusive := hexclusive.set (fun m huses => ?_) hwaits
          traffic := htraffic.received ht rfl rfl }
      rcases huses with hshown | ⟨c, hc, rfl⟩ | hwaits
      · exact .inl ⟨t, ht, .inl hshown⟩
      · right
        rw [← Option.some.inj hc, himage]
        exact List.mem_cons_self
      · cases hwaits
  | error error =>
      rw [receive_error (p := { p with results }) hcard ht]
      refine
        { crewed := h.crewed.set ht (hwell.pending none (.inl rfl)) rfl
          spaced := h.spaced.set ht fun ha => ⟨ha, rfl, rfl, rfl, rfl⟩
          exclusive := hexclusive.set (fun m huses => ?_) hwaits
          traffic := htraffic.received ht rfl rfl }
      rcases huses with hshown | hready | hwaits
      · exact .inl ⟨t, ht, .inl hshown⟩
      · exact .inl ⟨t, ht, .inr (.inl hready)⟩
      · cases hwaits

theorem Sound.lost (h : p.Sound) (hruns : p.workerRuns = false) :
    { p with scaleWorkerConnected := false }.Sound :=
  ⟨h.crewed, h.spaced, h.exclusive,
    { h.traffic with
      told := h.traffic.told.imp_right fun htold => ⟨rfl, htold.2⟩
      lost := fun _ => hruns }⟩

theorem Sound.forget (h : p.Sound) : p.forgetPending.Sound := by
  unfold forgetPending
  split
  case isTrue => exact h
  case isFalse hconnected =>
    have hlost := Bool.eq_false_iff.mpr hconnected
    have hget : ∀ (k : Nat) t, p.tiles[k]? = some t →
        (p.tiles.map fun t => { t with pendingImageIndex := none })[k]? =
          some { t with pendingImageIndex := none } := fun k t ht => by
      rw [List.getElem?_map, ht, Option.map_some]
    refine
      { crewed := h.crewed.map _ (fun t ht => ht.pending none (.inl rfl)) fun _ => rfl
        spaced := h.spaced.shift (fun _ => 0) fun k t' ht' ha => ?_
        exclusive := h.exclusive.map _ fun t m hm => ?_
        traffic :=
          { job := fun j hj => ?_
            result := fun r hr => ?_
            free := fun o ho => ?_
            once := h.traffic.once
            told := .inr ⟨hlost, rfl⟩
            lost := h.traffic.lost
            depth := ?_ } }
    · rw [List.getElem?_map, Option.map_eq_some_iff] at ht'
      obtain ⟨t, ht, rfl⟩ := ht'
      exact ⟨t, ht, ha, rfl, rfl, rfl, (Int.add_zero _).symm⟩
    · rcases hm with hshown | hready | hwaits
      · exact .inl hshown
      · exact .inr (.inl hready)
      · cases hwaits
    · obtain ⟨t, ht, hrest⟩ := h.traffic.job j hj
      exact ⟨_, hget _ t ht, hrest⟩
    · obtain ⟨t, ht, hrest⟩ := h.traffic.result r hr
      exact ⟨_, hget _ t ht, hrest⟩
    · obtain ⟨t, ht, hnext⟩ := h.traffic.free o ho
      exact ⟨_, hget _ t ht, hnext⟩
    · rw [List.countP_map, eq_comm, List.countP_eq_zero]
      intro t _
      exact Bool.false_ne_true

theorem Sound.moved (h : p.Sound) (n : Nat) :
    { p with tiles := p.tiles.map (p.moved n) }.Sound where
  crewed := h.crewed.map _ (fun t ht => ht.moved h.crewed.fitting) fun t => by
    obtain ⟨xFp, active, e, -⟩ := moved_eq p n t
    rw [e]
  spaced := h.spaced.moved h.crewed n
  exclusive := h.exclusive.map _ fun t m hm => by
    obtain ⟨xFp, active, e, hactive⟩ := moved_eq p n t
    rw [e] at hm
    exact hm.imp_left fun hshown => ⟨hactive hshown.1, hshown.2⟩
  traffic := by
    refine h.traffic.keeps (fun k t ht => ?_) ?_
    · obtain ⟨xFp, active, e, -⟩ := moved_eq p n t
      refine ⟨_, by rw [List.getElem?_map, ht, Option.map_some], ?_⟩
      rw [e]
      exact ⟨rfl, id, rfl⟩
    · rw [List.countP_map]
      congr 1
      funext t
      obtain ⟨xFp, active, e, -⟩ := moved_eq p n t
      rw [Function.comp, e]
      rfl

/-- A ready card whose place is free enters. -/
theorem Sound.enters (h : p.Sound) {t : Tile} {c : PreparedCard} {y : Int}
    (ht : p.tiles[i]? = some t) (hnext : t.next = some c)
    (hclear : p.Clear (-c.raster.width) y c.raster.width c.raster.height t.layer i) :
    { p with tiles := p.tiles.set i (entered t c y) }.Sound where
  crewed := h.crewed.set ht ((h.crewed.tile i t ht).entered hnext y) rfl
  spaced := h.spaced.enters fun j s hs hji hactive hlayer => by
    have hx : (entered t c y).x = -(c.raster.width : Int) :=
      Int.mul_ediv_cancel _ (by decide)
    have hapart := hclear j s hs hji hactive hlayer
    rw [← hx] at hapart
    exact beside_of_apart (scaleDimension_pos REFERENCE_PLACEMENT_GAP p.height) hapart
  exclusive := h.exclusive.set (fun m huses => by
    rcases huses with ⟨-, hshown⟩ | ⟨c', hc', -⟩ | hwaits
    · exact .inl ⟨t, ht, .inr (.inl ⟨c, hnext, hshown⟩)⟩
    · cases hc'
    · exact .inl ⟨t, ht, .inr (.inr hwaits)⟩) fun _ ho => ho
  traffic := by
    refine h.traffic.keeps (fun k s hs => ?_) ?_
    · by_cases hki : k = i
      · subst hki
        cases ht.symm.trans hs
        exact ⟨_, getElem?_set_at ht, rfl, fun _ => rfl, rfl⟩
      · exact ⟨s, by rw [getElem?_set_ne hki, hs], rfl, id, rfl⟩
    · exact countP_set_same ht rfl

theorem Sound.pushed (h : p.Sound) {l : Nat} (hl : l < SPEED_COUNT)
    (hcount : p.tiles.countP (·.layer = MIN_TILE_SPEED + l) < p.target l) :
    (p.pushEmptyTile l).Sound where
  crewed := h.crewed.concat (tileWell_empty hl _) fun l' _ hlayer => by
    have e : l = l' := by
      dsimp only at hlayer
      omega
    rw [← e]
    exact hcount
  spaced := h.spaced.concat fun _ _ _ _ ha _ => nomatch ha
  exclusive := h.exclusive.concat_unused fun m huses => by
    rcases huses with ⟨ha, -⟩ | ⟨c, hc, -⟩ | hwaits
    · cases ha
    · cases hc
    · cases hwaits
  traffic := by
    refine h.traffic.keeps (fun k s hs => ⟨s, getElem?_concat_old hs, rfl, id, rfl⟩) ?_
    exact List.countP_append

theorem Sound.grown (h : p.Sound) {l : Nat} (hl : l < SPEED_COUNT) (hq : p.Grown l q) :
    q.Sound := by
  cases hq with
  | same => exact h
  | grown q hcount hq => exact (h.pushed hl hcount).queued hq

theorem Sound.spawned (h : p.Sound) {l : Nat} (hl : l < SPEED_COUNT) (hq : p.Spawned l q) :
    q.Sound := by
  cases hq with
  | kept rng layers => exact ⟨h.crewed, h.spaced, h.exclusive, h.traffic⟩
  | entered i t c y rng layers q ht hlayer hinactive hnext hclear hq =>
      have henters := h.enters ht hnext hclear
      have hclocks : { p with rng, layers, tiles := p.tiles.set i (entered t c y) }.Sound :=
        ⟨henters.crewed, henters.spaced, henters.exclusive, henters.traffic⟩
      exact hclocks.grown hl hq

theorem Sound.answered (h : p.Sound) {job : ScaleJob} {jobs : List ScaleJob}
    (pixels : Except String ScreenshotImage) (hjobs : p.jobs = job :: jobs) :
    { p with jobs, results := p.results ++ [ScaleJob.prepare job pixels] }.Sound := by
  have htraffic := h.traffic
  have hwaiting : waitingOf (p.results ++ [ScaleJob.prepare job pixels]) jobs = p.waiting := by
    rw [waitingOf_answered, waiting, hjobs]
  refine
    { crewed := h.crewed
      spaced := h.spaced
      exclusive := by rw [waiting, hwaiting]; exact h.exclusive
      traffic :=
        { job := fun j hj => htraffic.job j (by rw [hjobs]; exact List.mem_cons_of_mem _ hj)
          result := fun r hr => ?_
          free := by rw [hwaiting]; exact htraffic.free
          once := by rw [hwaiting]; exact htraffic.once
          told := by rw [hwaiting]; exact htraffic.told
          lost := htraffic.lost
          depth := htraffic.depth } }
  rcases List.mem_append.mp hr with hr | hr
  · exact htraffic.result r hr
  · cases List.mem_singleton.mp hr
    obtain ⟨t, ht, hspeed, hheight, hphases⟩ :=
      htraffic.job job (by rw [hjobs]; exact List.mem_cons_self)
    refine ⟨t, ht, fun c hc => ?_⟩
    cases pixels with
    | error error => cases hc
    | ok source =>
        cases hc
        refine ⟨rfl, ?_, ?_⟩
        · rw [← hspeed, ← hheight]
          exact prepareTimed_width_le _ _ _ _
        · rw [← hphases]
          exact prepareTimed_phases _ _ _ _

theorem Sound.ended (h : p.Sound) : p.endWorker.Sound := by
  have hsub : ∀ o ∈ waitingOf p.results [], o ∈ p.waiting := fun o ho => by
    rw [waitingOf, List.map_nil, List.append_nil] at ho
    exact List.mem_append_left _ ho
  refine
    { crewed := h.crewed
      spaced := h.spaced
      exclusive := h.exclusive.mono fun j m hj => hj.imp_right (hsub _)
      traffic :=
        { job := fun j hj => absurd hj List.not_mem_nil
          result := h.traffic.result
          free := fun o ho => h.traffic.free o (hsub o ho)
          once := ?_
          told := h.traffic.told.imp_left fun hall o ho => hall o (hsub o ho)
          lost := fun _ => rfl
          depth := h.traffic.depth } }
  have honce := h.traffic.once
  rw [waitingOf, List.map_append] at honce
  have hended : waitingOf p.endWorker.results p.endWorker.jobs =
      p.results.map fun result => (result.tileIndex, result.imageIndex) := List.append_nil _
  rw [hended]
  exact (List.nodup_append.mp honce).1

theorem sound_stable : Stable Sound fun _ _ => True where
  receive h hresults := ⟨h.received hresults, fun _ _ => trivial, fun _ _ => trivial⟩
  lost h hruns := ⟨h.lost hruns, fun _ _ => trivial⟩
  forget h := ⟨h.forget, fun _ _ => trivial⟩
  request h _ hq := ⟨h.queued hq, fun _ _ => trivial⟩
  move n h := ⟨h.moved n, fun _ _ _ _ _ => trivial⟩
  clock _ h := ⟨h.crewed, h.spaced, h.exclusive, h.traffic⟩

/-- **Every event keeps the invariants.** -/
theorem Sound.after (h : p.Sound) (e : Event) : (p.after e).Sound :=
  sound_stable.after (fun _ _ _ hl hp hq => hp.spawned hl hq)
    (fun _ _ hp => ⟨hp.crewed, hp.spaced, hp.exclusive, hp.traffic⟩)
    (fun _ _ _ pixels hp hjobs => hp.answered pixels hjobs) (fun _ hp => hp.ended) h e

/-! ## 2. Parades that started empty -/

/-- A tile on the screen has nothing ready and waits for nothing. -/
structure Streaming (p : ScreenshotParade) : Prop where
  tile : ∀ (i : Nat) t, p.tiles[i]? = some t → t.active → t.next = none ∧ t.pendingImageIndex = none
  job : ∀ o ∈ p.waiting, ∀ t, p.tiles[o.1]? = some t → t.active = false

/-- A tile off the screen, which may ask for its successor. -/
def Off (p : ScreenshotParade) (i : Nat) : Prop := ∀ t, p.tiles[i]? = some t → t.active = false

theorem Streaming.set {t' : Tile} (h : p.Streaming) (htiles : q.tiles = p.tiles.set i t')
    (htile : t'.active → t'.next = none ∧ t'.pendingImageIndex = none)
    (hjobs : ∀ o ∈ q.waiting, (o.1 = i ∧ t'.active = false) ∨ (o.1 ≠ i ∧ o ∈ p.waiting)) :
    q.Streaming where
  tile j s hs ha := by
    rw [htiles] at hs
    rcases getElem?_set_some hs with ⟨rfl, rfl⟩ | ⟨-, hs⟩
    · exact htile ha
    · exact h.tile j s hs ha
  job o ho s hs := by
    rw [htiles] at hs
    rcases hjobs o ho with ⟨rfl, hoff⟩ | ⟨hne, ho⟩
    · rcases getElem?_set_some hs with ⟨-, rfl⟩ | ⟨hne, -⟩
      · exact hoff
      · exact absurd rfl hne
    · rw [getElem?_set_ne hne] at hs
      exact h.job o ho s hs

theorem Off.set {j : Nat} {t t' : Tile} (h : p.Off j) (ht : p.tiles[i]? = some t)
    (htiles : q.tiles = p.tiles.set i t') (hactive : t'.active = t.active) : q.Off j := by
  intro s hs
  rw [htiles] at hs
  rcases getElem?_set_some hs with ⟨rfl, rfl⟩ | ⟨-, hs⟩
  · rw [hactive]
    exact h t ht
  · exact h s hs

theorem Streaming.queued (h : p.Streaming) (hoff : p.Off i) (hq : p.Queued i q) :
    q.Streaming ∧ ∀ j, p.Off j → q.Off j := by
  cases hq with
  | kept d hd => exact ⟨⟨h.tile, h.job⟩, fun _ hj => hj⟩
  | refused d hd hruns => exact ⟨⟨h.tile, h.job⟩, fun _ hj => hj⟩
  | sent d hd t m ht hnext hpending hm hruns =>
      have hinactive := hoff t ht
      refine ⟨h.set rfl (fun ha => ?_) (fun o ho => ?_), fun j hj => hj.set ht rfl rfl⟩
      · rw [hinactive] at ha
        cases ha
      · rw [waiting, waitingOf_sent] at ho
        by_cases hoi : o.1 = i
        · exact .inl ⟨hoi, hinactive⟩
        · rcases List.mem_append.mp ho with ho | ho
          · exact .inr ⟨hoi, ho⟩
          · exact absurd (congrArg Prod.fst (List.mem_singleton.mp ho)) hoi

theorem Streaming.received (hsound : p.Sound) (h : p.Streaming) {result : ScaleResult}
    {results : List ScaleResult} (hresults : p.results = result :: results) :
    ({ p with results }.receive result).1.Streaming ∧
      (∀ j, p.Off j → ({ p with results }.receive result).1.Off j) ∧
      ∀ j ∈ ({ p with results }.receive result).2, ({ p with results }.receive result).1.Off j := by
  obtain ⟨t, ht, -⟩ := hsound.answered_tile hresults
  have hpop : p.waiting = (result.tileIndex, result.imageIndex) :: waitingOf results p.jobs := by
    rw [waiting, hresults]
    rfl
  have hinactive : t.active = false := h.job _ (by rw [hpop]; exact List.mem_cons_self) t ht
  have hjobs : ∀ o ∈ waitingOf results p.jobs,
      (o.1 = result.tileIndex ∧ t.active = false) ∨ (o.1 ≠ result.tileIndex ∧ o ∈ p.waiting) :=
    fun o ho => by
      by_cases hoi : o.1 = result.tileIndex
      · exact .inl ⟨hoi, hinactive⟩
      · exact .inr ⟨hoi, by rw [hpop]; exact List.mem_cons_of_mem _ ho⟩
  have hnever : t.active → False := fun ha => by
    rw [hinactive] at ha
    cases ha
  have hoff : p.Off result.tileIndex := fun s hs => by
    cases ht.symm.trans hs
    exact hinactive
  cases hcard : result.card with
  | ok card =>
      rw [receive_ok (p := { p with results }) hcard ht]
      refine ⟨h.set rfl (fun ha => (hnever ha).elim) hjobs, fun j hj => hj.set ht rfl rfl,
        fun j hj => absurd hj List.not_mem_nil⟩
  | error error =>
      rw [receive_error (p := { p with results }) hcard ht]
      refine ⟨h.set rfl (fun ha => (hnever ha).elim) hjobs, fun j hj => hj.set ht rfl rfl,
        fun j hj => ?_⟩
      cases List.mem_singleton.mp hj
      exact hoff.set ht rfl rfl

theorem Streaming.forget (h : p.Streaming) :
    p.forgetPending.Streaming ∧ ∀ j, p.Off j → p.forgetPending.Off j := by
  unfold forgetPending
  split
  case isTrue => exact ⟨h, fun _ hj => hj⟩
  case isFalse =>
    have hget : ∀ {k : Nat} {t'}, (p.tiles.map fun t => { t with pendingImageIndex := none })[k]? =
        some t' → ∃ t, p.tiles[k]? = some t ∧ { t with pendingImageIndex := none } = t' := by
      intro k t' ht'
      rwa [List.getElem?_map, Option.map_eq_some_iff] at ht'
    refine ⟨⟨fun k t' ht' ha => ?_, fun o ho t' ht' => ?_⟩, fun j hj t' ht' => ?_⟩
    · obtain ⟨t, ht, rfl⟩ := hget ht'
      exact ⟨(h.tile k t ht ha).1, rfl⟩
    · obtain ⟨t, ht, rfl⟩ := hget ht'
      exact h.job o ho t ht
    · obtain ⟨t, ht, rfl⟩ := hget ht'
      exact hj t ht

theorem Streaming.moved (h : p.Streaming) (n : Nat) :
    { p with tiles := p.tiles.map (p.moved n) }.Streaming where
  tile k t' ht' ha := by
    obtain ⟨t, ht, rfl⟩ := getElem?_moved ht'
    obtain ⟨xFp, active, e, hactive⟩ := moved_eq p n t
    rw [e] at ha ⊢
    exact h.tile k t ht (hactive ha)
  job o ho t' ht' := by
    obtain ⟨t, ht, rfl⟩ := getElem?_moved ht'
    have hinactive := h.job o ho t ht
    rw [moved_inactive hinactive, hinactive]

theorem Streaming.pushed {l : Nat} (h : p.Streaming) :
    (p.pushEmptyTile l).Streaming ∧ (p.pushEmptyTile l).Off p.tiles.length := by
  refine ⟨⟨fun k s hs ha => ?_, fun o ho s hs => ?_⟩, fun s hs => ?_⟩
  · rcases getElem?_concat_some hs with ⟨-, rfl⟩ | hs
    · cases ha
    · exact h.tile k s hs ha
  · rcases getElem?_concat_some hs with ⟨-, rfl⟩ | hs
    · rfl
    · exact h.job o ho s hs
  · rcases getElem?_concat_some hs with ⟨-, rfl⟩ | hs
    · rfl
    · exact absurd (List.getElem?_eq_some_iff.mp hs).1 (Nat.lt_irrefl _)

theorem Streaming.spawned {l : Nat} (hsound : p.Sound) (h : p.Streaming) (hq : p.Spawned l q) :
    q.Streaming := by
  cases hq with
  | kept rng layers => exact ⟨h.tile, h.job⟩
  | entered i t c y rng layers q ht hlayer hinactive hnext hclear hq =>
      have hset : { p with rng, layers, tiles := p.tiles.set i (entered t c y) }.Streaming := by
        refine h.set rfl (fun _ => ⟨rfl, ?_⟩) fun o ho => .inr ⟨?_, ho⟩
        · rcases (hsound.crewed.tile i t ht).turn with hnone | hnone
          · rw [hnext] at hnone
            cases hnone
          · exact hnone
        · rintro rfl
          obtain ⟨s, hs, hnone⟩ := hsound.traffic.free o ho
          cases ht.symm.trans hs
          rw [hnext] at hnone
          cases hnone
      cases hq with
      | same => exact hset
      | grown q hcount hq =>
          exact (hset.pushed.1.queued hset.pushed.2 hq).1

theorem streaming_stable : Stable (fun p => p.Sound ∧ p.Streaming) Off where
  receive h hresults := by
    obtain ⟨hstreaming, hkept, hnew⟩ := Streaming.received h.1 h.2 hresults
    exact ⟨⟨h.1.received hresults, hstreaming⟩, hkept, hnew⟩
  lost h hruns := ⟨⟨h.1.lost hruns, ⟨h.2.tile, h.2.job⟩⟩, fun _ hj => hj⟩
  forget h := ⟨⟨h.1.forget, h.2.forget.1⟩, h.2.forget.2⟩
  request h hoff hq := ⟨⟨h.1.queued hq, (h.2.queued hoff hq).1⟩, (h.2.queued hoff hq).2⟩
  move {p} n h := by
    refine ⟨⟨h.1.moved n, h.2.moved n⟩, fun i t ht _ hexit s hs => ?_⟩
    obtain ⟨t', ht', rfl⟩ := getElem?_moved hs
    cases ht.symm.trans ht'
    exact hexit
  clock _ h := ⟨⟨h.1.crewed, h.1.spaced, h.1.exclusive, h.1.traffic⟩, ⟨h.2.tile, h.2.job⟩⟩

theorem Streaming.after (hsound : p.Sound) (h : p.Streaming) (e : Event) :
    (p.after e).Streaming := by
  have hboth := streaming_stable.after (p := p)
    (fun p q l hl hp hq => ⟨hp.1.spawned hl hq, Streaming.spawned hp.1 hp.2 hq⟩)
    (fun p elapsed hp =>
      ⟨⟨hp.1.crewed, hp.1.spaced, hp.1.exclusive, hp.1.traffic⟩, ⟨hp.2.tile, hp.2.job⟩⟩)
    (fun p job jobs pixels hp hjobs => ⟨hp.1.answered pixels hjobs, ⟨hp.2.tile, by
      rw [waiting, waitingOf_answered, ← hjobs]
      exact hp.2.job⟩⟩)
    (fun p hp => ⟨hp.1.ended, ⟨hp.2.tile, fun o ho => hp.2.job o (by
      rw [endWorker, waiting, waitingOf, List.map_nil, List.append_nil] at ho
      exact List.mem_append_left _ ho)⟩⟩)
    ⟨hsound, h⟩ e
  exact hboth.2

/-! ## 3. Ready cards -/

/-- A tile on the screen with a card. -/
def Shows (t : Tile) (c : PreparedCard) : Prop :=
  t.active ∧ t.imageIndex = c.imageIndex ∧ t.raster = c.raster

section Ready

variable {c : PreparedCard}

/-- A tile that holds a card ready. -/
def Ready (p : ScreenshotParade) (i : Nat) (c : PreparedCard) : Prop :=
  ∃ t, p.tiles[i]? = some t ∧ t.next = some c

theorem Ready.queued {j : Nat} (h : p.Ready i c) (hq : p.Queued j q) : q.Ready i c := by
  cases hq with
  | kept d hd => exact h
  | refused d hd hruns => exact h
  | sent d hd t m ht hnext hpending hm hruns =>
      obtain ⟨s, hs, hready⟩ := h
      refine ⟨s, ?_, hready⟩
      rw [getElem?_set_ne, hs]
      rintro rfl
      cases ht.symm.trans hs
      rw [hready] at hnext
      cases hnext

theorem Ready.received (hsound : p.Sound) (h : p.Ready i c) {result : ScaleResult}
    {results : List ScaleResult} (hresults : p.results = result :: results) :
    ({ p with results }.receive result).1.Ready i c := by
  obtain ⟨t, ht, hnone⟩ := hsound.answered_tile hresults
  obtain ⟨s, hs, hready⟩ := h
  refine ⟨s, ?_, hready⟩
  rw [(receive_frame { p with results } result).1 i, hs]
  rintro rfl
  cases ht.symm.trans hs
  rw [hready] at hnone
  cases hnone

theorem Ready.map (h : p.Ready i c) (f : Tile → Tile) (hf : ∀ t, (f t).next = t.next) :
    { p with tiles := p.tiles.map f }.Ready i c := by
  obtain ⟨t, ht, hready⟩ := h
  exact ⟨f t, by rw [List.getElem?_map, ht, Option.map_some], by rw [hf, hready]⟩

theorem ready_stable (i : Nat) (c : PreparedCard) :
    Stable (fun p => p.Sound ∧ p.Ready i c) fun _ _ => True where
  receive h hresults := ⟨⟨h.1.received hresults, Ready.received h.1 h.2 hresults⟩,
    fun _ _ => trivial, fun _ _ => trivial⟩
  lost h hruns := ⟨⟨h.1.lost hruns, h.2⟩, fun _ _ => trivial⟩
  forget {p} h := by
    refine ⟨⟨h.1.forget, ?_⟩, fun _ _ => trivial⟩
    unfold forgetPending
    split
    · exact h.2
    · exact Ready.map h.2 _ fun _ => rfl
  request h _ hq := ⟨⟨h.1.queued hq, h.2.queued hq⟩, fun _ _ => trivial⟩
  move {p} n h := by
    refine ⟨⟨h.1.moved n, h.2.map _ fun t => ?_⟩, fun _ _ _ _ _ => trivial⟩
    obtain ⟨xFp, active, e, -⟩ := moved_eq p n t
    rw [e]
  clock _ h := ⟨⟨h.1.crewed, h.1.spaced, h.1.exclusive, h.1.traffic⟩, h.2⟩

/-- A tile that holds a card ready or shows it. -/
def KeptOrShown (p : ScreenshotParade) (i : Nat) (c : PreparedCard) : Prop :=
  ∃ t, p.tiles[i]? = some t ∧ (t.next = some c ∨ Shows t c)

theorem KeptOrShown.elapsed (h : p.KeptOrShown i c) (elapsed : Nat) :
    { p with lastElapsed := elapsed }.KeptOrShown i c := h

theorem KeptOrShown.queued {j : Nat} (h : p.KeptOrShown i c) (hne : i ≠ j) (hq : p.Queued j q) :
    q.KeptOrShown i c := by
  obtain ⟨t, ht, hcard⟩ := h
  cases hq with
  | kept d hd => exact ⟨t, ht, hcard⟩
  | refused d hd hruns => exact ⟨t, ht, hcard⟩
  | sent d hd s m hs hnext hpending hm hruns =>
      exact ⟨t, by rw [getElem?_set_ne hne, ht], hcard⟩

theorem KeptOrShown.spawned {l : Nat} (h : p.KeptOrShown i c) (hq : p.Spawned l q) :
    q.KeptOrShown i c := by
  obtain ⟨s, hs, hcard⟩ := h
  cases hq with
  | kept rng layers => exact ⟨s, hs, hcard⟩
  | entered j t c' y rng layers q ht hlayer hinactive hnext hclear hq =>
      have hset :
          { p with rng, layers, tiles := p.tiles.set j (entered t c' y) }.KeptOrShown i c := by
        by_cases hij : i = j
        · subst hij
          cases ht.symm.trans hs
          refine ⟨_, getElem?_set_at ht, .inr ?_⟩
          rcases hcard with hready | hshows
          · cases hnext.symm.trans hready
            exact ⟨rfl, rfl, rfl⟩
          · have hactive := hshows.1
            rw [hinactive] at hactive
            cases hactive
        · exact ⟨s, by rw [getElem?_set_ne hij, hs], hcard⟩
      cases hq with
      | same => exact hset
      | grown q hcount hq =>
          obtain ⟨s, hs, hcard⟩ := hset
          have hlt := (List.getElem?_eq_some_iff.mp hs).1
          exact KeptOrShown.queued ⟨s, getElem?_concat_old hs, hcard⟩ (Nat.ne_of_lt hlt) hq

/-- **A card that is ready stays ready until it is shown.** -/
theorem Sound.kept_or_shown (h : p.Sound) (hready : p.Ready i c) (e : Event) :
    (p.after e).KeptOrShown i c := by
  have hkept : ∀ {q : ScreenshotParade}, q.Ready i c → q.KeptOrShown i c := fun hq => by
    obtain ⟨t, ht, hnext⟩ := hq
    exact ⟨t, ht, .inl hnext⟩
  have happened := after_happened p e
  generalize p.after e = q at happened
  cases happened with
  | nothing => exact hkept hready
  | answered job jobs pixels hjobs => exact hkept hready
  | ended => exact hkept hready
  | frame ticks n elapsed =>
      have hclock := (ready_stable i c).clock ticks ⟨h, hready⟩
      have huntil := (ready_stable i c).untilSpawn hclock n
      refine KeptOrShown.elapsed ?_ elapsed
      exact spawns_invariant (fun p q l _ hp hq => KeptOrShown.spawned hp hq) _ (hkept huntil.2)

end Ready

end ScreenshotParade

end MisterMagik.Parade
