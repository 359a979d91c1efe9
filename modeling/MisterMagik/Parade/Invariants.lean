/-
  File:      MisterMagik/Parade/Invariants.lean
  Subject:   What holds of the screenshot parade between its operations.

  Four invariants, each about the parts of the state it needs:

  * `Crewed` -- every tile belongs to a layer, has the layer's speed and cards of its size and
    phases, and stands on its lattice; no layer has more tiles than its target;
  * `Spaced` -- two active tiles of a layer keep clear of each other;
  * `Exclusive` -- an image is shown, held ready or waited for by one tile only;
  * `Traffic` -- the channels agree with the tiles: a tile has at most one job on its way, and while
    it has one no card is ready.
-/
import MisterMagik.Parade.Motion

namespace MisterMagik.Parade

open ScreenshotParade

/-! ## 1. Counting -/

section Count

variable {α : Type} {xs : List α} {i : Nat} {a b : α} {P : α → Bool}

theorem countP_set_same (h : xs[i]? = some b) (hab : P a = P b) :
    (xs.set i a).countP P = xs.countP P := by
  obtain ⟨hlt, rfl⟩ := List.getElem?_eq_some_iff.mp h
  have hpos : P xs[i] → 0 < xs.countP P := fun hp =>
    List.countP_pos_iff.mpr ⟨_, List.getElem_mem hlt, hp⟩
  rw [List.countP_set hlt, hab]
  split
  · have := hpos ‹_›
    omega
  · omega

theorem countP_set_off (h : xs[i]? = some b) (hb : P b = true) (ha : P a = false) :
    (xs.set i a).countP P = xs.countP P - 1 := by
  obtain ⟨hlt, rfl⟩ := List.getElem?_eq_some_iff.mp h
  rw [List.countP_set hlt, hb, ha]
  rfl

theorem countP_set_on (h : xs[i]? = some b) (hb : P b = false) (ha : P a = true) :
    (xs.set i a).countP P = xs.countP P + 1 := by
  obtain ⟨hlt, rfl⟩ := List.getElem?_eq_some_iff.mp h
  rw [List.countP_set hlt, hb, ha]
  rfl

end Count

/-! ## 2. The crew -/

section Crew

variable {width height : Nat} {targets : List Nat} {tiles tiles' : List Tile} {i n : Nat}
  {t t' : Tile}

/-- A card of a layer: not wider than its box, with the phases its motion reaches. -/
structure CardWell (width height layer : Nat) (raster : PreparedScreenshotCard) : Prop where
  fits : raster.width ≤ boxWidth layer height
  phases :
    raster.shiftedPhases = reachableShiftedPhases (cardVelocityFp (layer - MIN_TILE_SPEED) width) ∨
      raster.shiftedPhases = ALL_SHIFTED_PHASES

structure TileWell (width height : Nat) (t : Tile) : Prop where
  layer : ∃ l < SPEED_COUNT, t.layer = MIN_TILE_SPEED + l
  speed : t.speed = t.layer
  velocity : t.velocityFp = cardVelocityFp (t.layer - MIN_TILE_SPEED) width
  ready : ∀ c, t.next = some c → CardWell width height t.layer c.raster
  turn : t.next = none ∨ t.pendingImageIndex = none
  shown : t.active → CardWell width height t.layer t.raster
  lattice : t.active → OnLattice t.velocityFp t.xFp
  left : t.active → -(boxWidth t.layer height : Int) * PARADE_SUBPIXEL_ONE ≤ t.xFp

structure Crewed (width height : Nat) (targets : List Nat) (tiles : List Tile) : Prop where
  fitting : Fitting width height
  tile : ∀ (i : Nat) t, tiles[i]? = some t → TileWell width height t
  count : ∀ l < SPEED_COUNT, tiles.countP (·.layer = MIN_TILE_SPEED + l) ≤ targets.getD l 0

theorem Crewed.set (h : Crewed width height targets tiles) (ht : tiles[i]? = some t)
    (hwell : TileWell width height t') (hlayer : t'.layer = t.layer) :
    Crewed width height targets (tiles.set i t') where
  fitting := h.fitting
  tile j s hs := by
    rcases getElem?_set_some hs with ⟨-, rfl⟩ | ⟨-, hs⟩
    · exact hwell
    · exact h.tile j s hs
  count l hl := by
    rw [countP_set_same ht (by rw [hlayer])]
    exact h.count l hl

theorem Crewed.concat (h : Crewed width height targets tiles) (hwell : TileWell width height t)
    (hcount : ∀ l < SPEED_COUNT, t.layer = MIN_TILE_SPEED + l →
      tiles.countP (·.layer = MIN_TILE_SPEED + l) < targets.getD l 0) :
    Crewed width height targets (tiles ++ [t]) where
  fitting := h.fitting
  tile j s hs := by
    rcases getElem?_concat_some hs with ⟨-, rfl⟩ | hs
    · exact hwell
    · exact h.tile j s hs
  count l hl := by
    rw [List.countP_append, List.countP_singleton]
    split
    · next hlayer => exact hcount l hl (of_decide_eq_true hlayer)
    · exact h.count l hl

theorem Crewed.map (h : Crewed width height targets tiles) (f : Tile → Tile)
    (hwell : ∀ t, TileWell width height t → TileWell width height (f t))
    (hlayer : ∀ t, (f t).layer = t.layer) : Crewed width height targets (tiles.map f) where
  fitting := h.fitting
  tile j s hs := by
    rw [List.getElem?_map, Option.map_eq_some_iff] at hs
    obtain ⟨s, hs, rfl⟩ := hs
    exact hwell s (h.tile j s hs)
  count l hl := by
    rw [List.countP_map]
    have e : (fun t : Tile => decide (t.layer = MIN_TILE_SPEED + l)) ∘ f =
        fun t => decide (t.layer = MIN_TILE_SPEED + l) := by
      funext t
      simp only [Function.comp, hlayer]
    rw [e]
    exact h.count l hl

/-- A tile that waits for nothing else than an image. -/
theorem TileWell.pending (h : TileWell width height t) (image : Option Nat)
    (hnext : image = none ∨ t.next = none) :
    TileWell width height { t with pendingImageIndex := image } :=
  { h with turn := hnext.symm.imp id id }

theorem TileWell.receives (h : TileWell width height t) {c : PreparedCard}
    (hc : CardWell width height t.layer c.raster) :
    TileWell width height { t with pendingImageIndex := none, next := some c } :=
  { h with
    turn := .inr rfl
    ready := fun c' hc' => by rwa [← Option.some.inj hc'] }

theorem TileWell.entered (h : TileWell width height t) {c : PreparedCard}
    (hnext : t.next = some c) (y : Int) : TileWell width height (entered t c y) where
  layer := h.layer
  speed := h.speed
  velocity := h.velocity
  ready _ hc := nomatch hc
  turn := .inl rfl
  shown _ := h.ready c hnext
  lattice _ := onLattice_pixel _ _
  left _ := by
    have hfits := (h.ready c hnext).fits
    dsimp only [ScreenshotParade.entered, PARADE_SUBPIXEL_ONE]
    omega

theorem tileWell_empty {l : Nat} (hl : l < SPEED_COUNT) (raster : PreparedScreenshotCard) :
    TileWell width height
      ⟨0, 0, MIN_TILE_SPEED + l, MIN_TILE_SPEED + l, cardVelocityFp l width, USIZE_MAX, raster,
        false, none, none⟩ where
  layer := ⟨l, hl, rfl⟩
  speed := rfl
  velocity := by rw [Nat.add_sub_cancel_left]
  ready _ hc := nomatch hc
  turn := .inl rfl
  shown h := nomatch h
  lattice h := nomatch h
  left h := nomatch h

variable {p : ScreenshotParade}

/-- The exact motion of a tile that stays on the screen. -/
theorem TileWell.moved_eq (h : TileWell p.width p.height t) (hfit : Fitting p.width p.height)
    (hactive : t.active) (hmoved : (p.moved n t).active) :
    p.moved n t = { t with xFp := t.xFp + t.velocityFp * (n / TICK_ONE : Nat) } := by
  obtain ⟨l, hl, hlayer⟩ := h.layer
  have hv : 0 < t.velocityFp := by
    rw [h.velocity]
    exact cardVelocityFp_pos _ _
  refine moved_active hactive hmoved ?_ (h.left hactive) hv
  rw [hlayer]
  exact hfit.room l hl

theorem TileWell.moved (h : TileWell p.width p.height t) (hfit : Fitting p.width p.height) :
    TileWell p.width p.height (p.moved n t) := by
  by_cases hmoved : (p.moved n t).active
  · by_cases hactive : t.active
    · have hv : 0 ≤ t.velocityFp := by
        rw [h.velocity]
        exact Int.le_of_lt (cardVelocityFp_pos _ _)
      rw [h.moved_eq hfit hactive hmoved]
      refine { h with
        lattice := fun _ => (h.lattice hactive).add hv _
        left := fun _ => ?_ }
      have hleft := h.left hactive
      have hmotion : 0 ≤ t.velocityFp * ((n / TICK_ONE : Nat) : Int) :=
        Int.mul_nonneg hv (Int.natCast_nonneg _)
      dsimp only at hleft ⊢
      omega
    · rw [moved_inactive (Bool.eq_false_iff.mpr hactive)]
      exact h
  · obtain ⟨xFp, active, e, -⟩ := ScreenshotParade.moved_eq p n t
    rw [e] at hmoved ⊢
    exact { h with
      shown := fun ha => absurd ha hmoved
      lattice := fun ha => absurd ha hmoved
      left := fun ha => absurd ha hmoved }

end Crew

/-! ## 3. Distances -/

section Space

variable {tiles tiles' : List Tile} {i j : Nat} {s t : Tile}

/-- Two tiles side by side, or one above the other. -/
def Beside (s t : Tile) : Prop :=
  s.xFp + s.raster.width * PARADE_SUBPIXEL_ONE ≤ t.xFp ∨
    t.xFp + t.raster.width * PARADE_SUBPIXEL_ONE ≤ s.xFp ∨
    s.y + s.raster.height ≤ t.y ∨ t.y + t.raster.height ≤ s.y

theorem Beside.symm (h : Beside s t) : Beside t s := by
  unfold Beside at *
  omega

def Spaced (tiles : List Tile) : Prop :=
  ∀ (i j : Nat) s t, tiles[i]? = some s → tiles[j]? = some t → i ≠ j → s.active → t.active →
    s.layer = t.layer → Beside s t

theorem scaleDimension_pos (reference screenHeight : Nat) :
    0 < scaleDimension reference screenHeight :=
  Nat.lt_of_lt_of_le Nat.one_pos (Nat.le_max_right ..)

/-- The distance that is asked for at a spawn is measured in whole pixels, but it leaves the cards
    beside each other to the sub-pixel. -/
theorem beside_of_apart {gap : Nat} (hgap : 0 < gap)
    (h : Apart gap t.x t.y t.raster.width t.raster.height s) : Beside t s := by
  unfold Apart Tile.x PARADE_SUBPIXEL_ONE at h
  unfold Beside PARADE_SUBPIXEL_ONE
  omega

/-- Tiles that all come from older ones, moved by what depends on their layer only. -/
theorem Spaced.shift (h : Spaced tiles) (motion : Nat → Int)
    (hold : ∀ (i : Nat) t', tiles'[i]? = some t' → t'.active → ∃ t, tiles[i]? = some t ∧ t.active ∧
      t'.layer = t.layer ∧ t'.raster = t.raster ∧ t'.y = t.y ∧ t'.xFp = t.xFp + motion t.layer) :
    Spaced tiles' := by
  intro i j s' t' hs' ht' hij hsa hta hlayer
  obtain ⟨s, hs, hsa, hsl, hsr, hsy, hsx⟩ := hold i s' hs' hsa
  obtain ⟨t, ht, hta, htl, htr, hty, htx⟩ := hold j t' ht' hta
  have hlayer' : s.layer = t.layer := by rw [← hsl, ← htl, hlayer]
  have hbeside := h i j s t hs ht hij hsa hta hlayer'
  unfold Beside at *
  rw [hsr, htr, hsy, hty, hsx, htx, hlayer']
  omega

/-- A tile that changes without being shown elsewhere. -/
theorem Spaced.set (h : Spaced tiles) {t' : Tile} (ht : tiles[i]? = some t)
    (hsame : t'.active → t.active ∧ t'.layer = t.layer ∧ t'.raster = t.raster ∧ t'.y = t.y ∧
      t'.xFp = t.xFp) : Spaced (tiles.set i t') := by
  refine h.shift (fun _ => 0) fun j s hs hactive => ?_
  rcases getElem?_set_some hs with ⟨rfl, rfl⟩ | ⟨-, hs⟩
  · obtain ⟨ha, hl, hr, hy, hx⟩ := hsame hactive
    exact ⟨t, ht, ha, hl, hr, hy, by omega⟩
  · exact ⟨s, hs, hactive, rfl, rfl, rfl, by omega⟩

theorem Spaced.enters (h : Spaced tiles) {t' : Tile}
    (hclear : ∀ (j : Nat) s, tiles[j]? = some s → j ≠ i → s.active → s.layer = t'.layer →
      Beside t' s) : Spaced (tiles.set i t') := by
  intro j k s u hs hu hjk hsa hua hlayer
  rcases getElem?_set_some hs with ⟨rfl, rfl⟩ | ⟨hji, hs'⟩
  · rcases getElem?_set_some hu with ⟨rfl, rfl⟩ | ⟨hki, hu⟩
    · exact absurd rfl hjk
    · exact hclear k u hu hki hua hlayer.symm
  · rcases getElem?_set_some hu with ⟨rfl, rfl⟩ | ⟨-, hu'⟩
    · exact (hclear j s hs' hji hsa hlayer).symm
    · exact h j k s u hs' hu' hjk hsa hua hlayer

theorem Spaced.concat (h : Spaced tiles)
    (hclear : ∀ (j : Nat) s, tiles[j]? = some s → s.active → t.active → s.layer = t.layer →
      Beside t s) : Spaced (tiles ++ [t]) := by
  intro j k s u hs hu hjk hsa hua hlayer
  rcases getElem?_concat_some hs with ⟨rfl, rfl⟩ | hs'
  · rcases getElem?_concat_some hu with ⟨rfl, rfl⟩ | hu
    · exact absurd rfl hjk
    · exact hclear k u hu hua hsa hlayer.symm
  · rcases getElem?_concat_some hu with ⟨rfl, rfl⟩ | hu'
    · exact (hclear j s hs' hsa hua hlayer).symm
    · exact h j k s u hs' hu' hjk hsa hua hlayer

theorem Spaced.moved {p : ScreenshotParade} (h : Spaced p.tiles)
    (hcrew : Crewed p.width p.height p.layerTargets p.tiles) (n : Nat) :
    Spaced (p.tiles.map (p.moved n)) := by
  refine h.shift (fun l => cardVelocityFp (l - MIN_TILE_SPEED) p.width * (n / TICK_ONE : Nat))
    fun i t' ht' hactive' => ?_
  obtain ⟨t, ht, rfl⟩ := getElem?_moved ht'
  have hwell := hcrew.tile i t ht
  obtain ⟨xFp, active, e, hwas⟩ := ScreenshotParade.moved_eq p n t
  have hactive : t.active := hwas (by rw [e] at hactive'; exact hactive')
  rw [hwell.moved_eq hcrew.fitting hactive hactive']
  exact ⟨t, ht, hactive, rfl, rfl, rfl, by rw [hwell.velocity]⟩

end Space

/-! ## 4. Images -/

section Images

variable {tiles tiles' : List Tile} {waiting waiting' : List (Nat × Nat)} {i m : Nat} {t t' : Tile}

/-- A tile that uses an image, or whose job for it is on its way. -/
def Holds (tiles : List Tile) (waiting : List (Nat × Nat)) (i m : Nat) : Prop :=
  (∃ t, tiles[i]? = some t ∧ t.Uses m) ∨ (i, m) ∈ waiting

def Exclusive (tiles : List Tile) (waiting : List (Nat × Nat)) : Prop :=
  ∀ i j m, Holds tiles waiting i m → Holds tiles waiting j m → i = j

theorem Exclusive.mono (h : Exclusive tiles waiting)
    (hold : ∀ i m, Holds tiles' waiting' i m → Holds tiles waiting i m) :
    Exclusive tiles' waiting' := fun i j m hi hj => h i j m (hold i m hi) (hold j m hj)

theorem Exclusive.set (h : Exclusive tiles waiting)
    (hset : ∀ m, t'.Uses m → Holds tiles waiting i m) (hw : ∀ o ∈ waiting', o ∈ waiting) :
    Exclusive (tiles.set i t') waiting' := by
  refine h.mono fun j m hj => ?_
  rcases hj with ⟨s, hs, huses⟩ | hj
  · rcases getElem?_set_some hs with ⟨rfl, rfl⟩ | ⟨-, hs⟩
    · exact hset m huses
    · exact .inl ⟨s, hs, huses⟩
  · exact .inr (hw _ hj)

theorem Exclusive.map (h : Exclusive tiles waiting) (f : Tile → Tile)
    (huses : ∀ t m, (f t).Uses m → t.Uses m) : Exclusive (tiles.map f) waiting := by
  refine h.mono fun j m hj => ?_
  rcases hj with ⟨s, hs, hm⟩ | hj
  · rw [List.getElem?_map, Option.map_eq_some_iff] at hs
    obtain ⟨s, hs, rfl⟩ := hs
    exact .inl ⟨s, hs, huses s m hm⟩
  · exact .inr hj

theorem Exclusive.concat_unused (h : Exclusive tiles waiting) (ht : ∀ m, ¬t.Uses m) :
    Exclusive (tiles ++ [t]) waiting := by
  refine h.mono fun j m hj => ?_
  rcases hj with ⟨s, hs, hm⟩ | hj
  · rcases getElem?_concat_some hs with ⟨-, rfl⟩ | hs
    · exact absurd hm (ht m)
    · exact .inl ⟨s, hs, hm⟩
  · exact .inr hj

/-- A tile may take an image that no other tile holds. -/
theorem Exclusive.take (h : Exclusive tiles waiting)
    (hold : ∀ j m', Holds tiles' waiting' j m' → Holds tiles waiting j m' ∨ (j = i ∧ m' = m))
    (hfree : ∀ j, Holds tiles waiting j m → j = i) : Exclusive tiles' waiting' := by
  intro j k m' hj hk
  rcases hold j m' hj with hj | ⟨rfl, rfl⟩
  · rcases hold k m' hk with hk | ⟨rfl, rfl⟩
    · exact h j k m' hj hk
    · exact hfree j hj
  · rcases hold k m' hk with hk | ⟨rfl, -⟩
    · exact (hfree k hk).symm
    · rfl

end Images

/-! ## 5. The channels -/

section Channels

variable {width height : Nat} {tiles tiles' : List Tile} {jobs : List ScaleJob}
  {results : List ScaleResult} {runs connected : Bool} {depth i m : Nat} {t : Tile}

def Pending (t : Tile) : Bool := t.pendingImageIndex.isSome

structure Traffic (width height : Nat) (tiles : List Tile) (jobs : List ScaleJob)
    (results : List ScaleResult) (runs connected : Bool) (depth : Nat) : Prop where
  /-- A job asks for a card of its tile's layer. -/
  job : ∀ j ∈ jobs, ∃ t, tiles[j.tileIndex]? = some t ∧ j.speed = t.speed ∧
    j.screenHeight = height ∧
    j.phases = reachableShiftedPhases (cardVelocityFp (t.speed - MIN_TILE_SPEED) width)
  /-- An answer brings the image that was asked for, as a card of its tile's layer. -/
  result : ∀ r ∈ results, ∃ t, tiles[r.tileIndex]? = some t ∧ ∀ c, r.card = .ok c →
    c.imageIndex = r.imageIndex ∧ CardWell width height t.speed c.raster
  /-- A tile with a job on its way has no card ready. -/
  free : ∀ o ∈ waitingOf results jobs, ∃ t, tiles[o.1]? = some t ∧ t.next = none
  once : ((waitingOf results jobs).map Prod.fst).Nodup
  /-- The tiles know of the jobs on their way, unless the worker is known to have ended. -/
  told :
    (∀ o ∈ waitingOf results jobs, ∃ t, tiles[o.1]? = some t ∧ t.pendingImageIndex = some o.2) ∨
      connected = false ∧ depth = 0
  lost : connected = false → runs = false
  depth : depth = tiles.countP Pending

/-- Tiles that change in nothing that concerns the channels. -/
theorem Traffic.keeps (h : Traffic width height tiles jobs results runs connected depth)
    (htiles : ∀ (i : Nat) t, tiles[i]? = some t → ∃ t', tiles'[i]? = some t' ∧ t'.speed = t.speed ∧
      (t.next = none → t'.next = none) ∧ t'.pendingImageIndex = t.pendingImageIndex)
    (hcount : tiles'.countP Pending = tiles.countP Pending) :
    Traffic width height tiles' jobs results runs connected depth where
  job j hj := by
    obtain ⟨t, ht, hrest⟩ := h.job j hj
    obtain ⟨t', ht', hspeed, -⟩ := htiles _ t ht
    exact ⟨t', ht', by rw [hspeed]; exact hrest⟩
  result r hr := by
    obtain ⟨t, ht, hrest⟩ := h.result r hr
    obtain ⟨t', ht', hspeed, -⟩ := htiles _ t ht
    exact ⟨t', ht', by rw [hspeed]; exact hrest⟩
  free o ho := by
    obtain ⟨t, ht, hnext⟩ := h.free o ho
    obtain ⟨t', ht', -, hfree, -⟩ := htiles _ t ht
    exact ⟨t', ht', hfree hnext⟩
  once := h.once
  told := h.told.imp (fun hall o ho => by
    obtain ⟨t, ht, hpending⟩ := hall o ho
    obtain ⟨t', ht', -, -, hsame⟩ := htiles _ t ht
    exact ⟨t', ht', by rw [hsame, hpending]⟩) id
  lost := h.lost
  depth := by rw [hcount, h.depth]

/-- A tile that waits for nothing has no job on its way while the worker runs. -/
theorem Traffic.unasked (h : Traffic width height tiles jobs results runs connected depth)
    (hruns : runs) (ht : tiles[i]? = some t) (hpending : t.pendingImageIndex = none) (m : Nat) :
    (i, m) ∉ waitingOf results jobs := by
  intro hm
  rcases h.told with hall | ⟨hconnected, -⟩
  · obtain ⟨t', ht', hsome⟩ := hall _ hm
    cases ht.symm.trans ht'
    rw [hpending] at hsome
    cases hsome
  · rw [h.lost hconnected] at hruns
    cases hruns

/-- What the tiles know while the worker runs. -/
theorem Traffic.known (h : Traffic width height tiles jobs results runs connected depth)
    (hruns : runs) :
    ∀ o ∈ waitingOf results jobs, ∃ t, tiles[o.1]? = some t ∧ t.pendingImageIndex = some o.2 := by
  rcases h.told with hall | ⟨hconnected, -⟩
  · exact hall
  · rw [h.lost hconnected] at hruns
    cases hruns

theorem Traffic.sent (h : Traffic width height tiles jobs results runs connected depth)
    (hruns : runs) (ht : tiles[i]? = some t) (hnext : t.next = none)
    (hpending : t.pendingImageIndex = none) {job : ScaleJob} (htile : job.tileIndex = i)
    (himage : job.imageIndex = m) (hspeed : job.speed = t.speed)
    (hheight : job.screenHeight = height)
    (hphases : job.phases =
      reachableShiftedPhases (cardVelocityFp (t.speed - MIN_TILE_SPEED) width)) :
    Traffic width height (tiles.set i { t with pendingImageIndex := some m }) (jobs ++ [job])
      results runs connected (depth + 1) := by
  have hset : (tiles.set i { t with pendingImageIndex := some m })[i]? =
      some { t with pendingImageIndex := some m } := getElem?_set_at ht
  have hkeep : ∀ (k : Nat) s, tiles[k]? = some s → ∃ s',
      (tiles.set i { t with pendingImageIndex := some m })[k]? = some s' ∧ s'.speed = s.speed ∧
        s'.next = s.next ∧ (k ≠ i → s' = s) := by
    intro k s hs
    by_cases hki : k = i
    · subst hki
      cases ht.symm.trans hs
      exact ⟨_, hset, rfl, rfl, fun hne => absurd rfl hne⟩
    · exact ⟨s, by rw [getElem?_set_ne hki, hs], rfl, rfl, fun _ => rfl⟩
  have hwaiting : waitingOf results (jobs ++ [job]) = waitingOf results jobs ++ [(i, m)] := by
    rw [waitingOf_sent, htile, himage]
  have hfresh := h.unasked hruns ht hpending
  refine
    { job := fun j hj => ?_
      result := fun r hr => ?_
      free := fun o ho => ?_
      once := ?_
      told := .inl fun o ho => ?_
      lost := h.lost
      depth := ?_ }
  · rcases List.mem_append.mp hj with hj | hj
    · obtain ⟨s, hs, hrest⟩ := h.job j hj
      obtain ⟨s', hs', hsame, -⟩ := hkeep _ s hs
      exact ⟨s', hs', by rw [hsame]; exact hrest⟩
    · cases List.mem_singleton.mp hj
      refine ⟨{ t with pendingImageIndex := some m }, ?_, hspeed, hheight, hphases⟩
      rw [htile]
      exact hset
  · obtain ⟨s, hs, hrest⟩ := h.result r hr
    obtain ⟨s', hs', hsame, -⟩ := hkeep _ s hs
    exact ⟨s', hs', by rw [hsame]; exact hrest⟩
  · rw [hwaiting] at ho
    rcases List.mem_append.mp ho with ho | ho
    · obtain ⟨s, hs, hfree⟩ := h.free o ho
      obtain ⟨s', hs', -, hsame, -⟩ := hkeep _ s hs
      exact ⟨s', hs', by rw [hsame, hfree]⟩
    · cases List.mem_singleton.mp ho
      exact ⟨_, hset, hnext⟩
  · rw [hwaiting, List.map_append, List.nodup_append]
    refine ⟨h.once, List.pairwise_singleton _ _, fun a ha b hb => ?_⟩
    obtain ⟨o, ho, rfl⟩ := List.mem_map.mp ha
    cases List.mem_singleton.mp hb
    rintro rfl
    exact hfresh o.2 ho
  · rw [hwaiting] at ho
    rcases List.mem_append.mp ho with hold | hnew
    · obtain ⟨s, hs, hsome⟩ := h.known hruns o hold
      obtain ⟨s', hs', -, -, hsame⟩ := hkeep _ s hs
      refine ⟨s', hs', ?_⟩
      rw [hsame ?_, hsome]
      rintro rfl
      exact hfresh o.2 hold
    · cases List.mem_singleton.mp hnew
      exact ⟨_, hset, rfl⟩
  · rw [countP_set_on ht (by rw [Pending, hpending]; rfl) rfl, h.depth]

/-- An answer that is received: its tile is told, and it had no card ready. -/
theorem Traffic.received {result : ScaleResult} {t' : Tile}
    (h : Traffic width height tiles jobs (result :: results) runs connected depth)
    (ht : tiles[result.tileIndex]? = some t) (hspeed : t'.speed = t.speed)
    (hpending : t'.pendingImageIndex = none) :
    Traffic width height (tiles.set result.tileIndex t') jobs results runs connected
      (depth - 1) := by
  have hwaiting : waitingOf (result :: results) jobs =
      (result.tileIndex, result.imageIndex) :: waitingOf results jobs := rfl
  have honce := h.once
  rw [hwaiting, List.map_cons, List.nodup_cons] at honce
  have hother : ∀ o ∈ waitingOf results jobs, o.1 ≠ result.tileIndex := by
    intro o ho e
    have hmem : o.1 ∈ (waitingOf results jobs).map Prod.fst := List.mem_map_of_mem ho
    rw [e] at hmem
    exact honce.1 hmem
  have hold : ∀ o ∈ waitingOf results jobs, o ∈ waitingOf (result :: results) jobs := fun o ho => by
    rw [hwaiting]
    exact List.mem_cons_of_mem _ ho
  have hkeep : ∀ (k : Nat) s, tiles[k]? = some s → ∃ s',
      (tiles.set result.tileIndex t')[k]? = some s' ∧ s'.speed = s.speed := by
    intro k s hs
    by_cases hki : k = result.tileIndex
    · subst hki
      cases ht.symm.trans hs
      exact ⟨t', getElem?_set_at ht, hspeed⟩
    · exact ⟨s, by rw [getElem?_set_ne hki, hs], rfl⟩
  refine
    { job := fun j hj => ?_
      result := fun r hr => ?_
      free := fun o ho => ?_
      once := honce.2
      told := ?_
      lost := h.lost
      depth := ?_ }
  · obtain ⟨s, hs, hrest⟩ := h.job j hj
    obtain ⟨s', hs', hsame⟩ := hkeep _ s hs
    exact ⟨s', hs', by rw [hsame]; exact hrest⟩
  · obtain ⟨s, hs, hrest⟩ := h.result r (List.mem_cons_of_mem _ hr)
    obtain ⟨s', hs', hsame⟩ := hkeep _ s hs
    exact ⟨s', hs', by rw [hsame]; exact hrest⟩
  · rw [getElem?_set_ne (hother o ho)]
    exact h.free o (hold o ho)
  · rcases h.told with hall | ⟨hconnected, hzero⟩
    · left
      intro o ho
      rw [getElem?_set_ne (hother o ho)]
      exact hall o (hold o ho)
    · right
      exact ⟨hconnected, by omega⟩
  · have hafter : Pending t' = false := by rw [Pending, hpending]; rfl
    rcases h.told with hall | ⟨-, hzero⟩
    · obtain ⟨s, hs, hsome⟩ := hall _ (by rw [hwaiting]; exact List.mem_cons_self)
      cases ht.symm.trans hs
      rw [countP_set_off ht (by rw [Pending, hsome]; rfl) hafter, h.depth]
    · have hnone := h.depth
      rw [hzero, eq_comm, List.countP_eq_zero] at hnone
      have hbefore : Pending t = false :=
        Bool.eq_false_iff.mpr (hnone t (List.mem_of_getElem? ht))
      rw [countP_set_same ht (by rw [hafter, hbefore]), ← h.depth]
      omega

end Channels

end MisterMagik.Parade
