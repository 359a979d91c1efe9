/-
  File:      MisterMagik/Framebuffer/StreamViewer.lean
  Subject:   The framebuffer stream from the publisher to the viewer: one-slot queue, worker and
             keyframe requests (`framebuffer/stream.rs`).

  No write fails and no lock is poisoned. Counters, timestamps, snapshot requests and the snapshot
  pool are left out: nothing that is sent depends on them.

  * `StreamState` -- the flags, the queue, the worker and what the viewer shows;
  * `Served` -- the condition on a step: the worker serves no update while a change went unqueued;
  * `viewer_coherent` -- in every run of such steps; `dropped_change_is_lost` without.
-/
import MisterMagik.Base.Machine
import MisterMagik.Framebuffer.StreamPixels

namespace MisterMagik.Framebuffer

open MisterMagik.Base

/-! ## 1. What the worker keeps -/

inductive FrameUpdateKind where
  | delta
  | selfContainedKeyframe
  deriving DecidableEq, Repr

structure FrameUpdate where
  geometry : FrameGeometry
  rect : FrameRect
  pixels : List Rgb565
  kind : FrameUpdateKind
  deriving DecidableEq, Repr

structure ProducerState where
  latestGeometry : Option FrameGeometry
  latestPixels : List Rgb565
  hasFullFrameBase : Bool
  deriving DecidableEq, Repr

def isFullFrame (geometry : FrameGeometry) (rect : FrameRect) : Bool :=
  rect.x == 0 && rect.y == 0 && rect.width == geometry.width && rect.height == geometry.height

namespace ProducerState

def new : ProducerState := ⟨none, [], false⟩

/-- The pixels of a geometry, none when their number is no `u32`. -/
def capacity (geometry : FrameGeometry) : Nat :=
  if geometry.stridePixels * geometry.height < 4294967296 then
    geometry.stridePixels * geometry.height
  else 0

def rememberRectPixels (self : ProducerState) (geometry : FrameGeometry) (rect : FrameRect)
    (rectPixels : List Rgb565) : ProducerState :=
  let self :=
    if self.latestGeometry ≠ some geometry ∨ self.latestPixels.length ≠ capacity geometry then
      ⟨some geometry, List.replicate (capacity geometry) 0, false⟩
    else self
  { self with
    latestPixels := copyRectIntoLatest self.latestPixels geometry rect rectPixels
    hasFullFrameBase := self.hasFullFrameBase || isFullFrame geometry rect }

end ProducerState

/-! ## 2. What is sent -/

inductive FrameKind where
  | keyframe
  | rectDelta
  deriving DecidableEq, Repr

/-- What `write_job` sends, and the buffer it is taken from. -/
structure Job where
  geometry : FrameGeometry
  rect : FrameRect
  kind : FrameKind
  pixels : List Rgb565
  stridePixels : Nat
  deriving DecidableEq, Repr

/-- The viewer: a keyframe replaces the image, a delta patches its rectangle. -/
def shownAfter (kind : FrameKind) (rect : FrameRect) (words : List Rgb565) (viewer : Option Image) :
    Image := fun p =>
  if rect.Mem p then rectPixelAt rect words p
  else
    match kind, viewer with
    | .rectDelta, some image => image p
    | _, _ => 0

/-! ## 3. The stream -/

structure StreamState where
  /-- The true image. -/
  image : List Rgb565
  /-- It changed since an update was last queued. Only `Served` reads this. -/
  unsent : Bool
  subscriberActive : Bool
  needsKeyframe : Bool
  pendingFrame : Bool
  queuedSubscriber : Bool
  queuedFrame : Option FrameUpdate
  /-- The update the worker took and has not processed. -/
  processing : Option FrameUpdate
  subscriber : Bool
  producer : ProducerState
  sequence : Nat
  /-- What the viewer shows, once a frame was written. -/
  viewer : Option Image

namespace StreamState

def pushFrame (s : StreamState) (frame : FrameUpdate) : StreamState :=
  match frame.kind with
  | .selfContainedKeyframe => { s with queuedFrame := some frame, pendingFrame := true }
  | .delta =>
      if s.pendingFrame then { s with needsKeyframe := true }
      else
        { s with
          pendingFrame := true
          queuedFrame := some frame
          needsKeyframe := s.needsKeyframe || s.queuedFrame.isSome }

def publishRect (s : StreamState) (geometry : FrameGeometry) (rect : FrameRect)
    (pixels : List Rgb565) (srcStride srcX srcY : Nat) : StreamState :=
  if s.pendingFrame then { s with needsKeyframe := true }
  else
    match collectStridedRect pixels srcStride srcX srcY rect with
    | none => s
    | some pixels => s.pushFrame ⟨geometry, rect, pixels, .delta⟩

def publishCachedRect (s : StreamState) (geometry : FrameGeometry) (rect : FrameRect)
    (pixels : List Rgb565) : StreamState :=
  if s.subscriberActive = false then s
  else if s.needsKeyframe then
    s.publishRect geometry (.full geometry) pixels geometry.stridePixels 0 0
  else s.publishRect geometry rect pixels geometry.stridePixels rect.x rect.y

def installSubscriber (s : StreamState) : StreamState :=
  if s.subscriberActive then s
  else { s with subscriberActive := true, needsKeyframe := true, queuedSubscriber := true }

/-- `recv_timeout`, and what the worker does with a subscriber. -/
def receive (s : StreamState) : StreamState :=
  if s.queuedSubscriber then
    { s with queuedSubscriber := false, subscriber := true, sequence := 0, needsKeyframe := true }
  else
    match s.queuedFrame with
    | some frame => { s with queuedFrame := none, pendingFrame := false, processing := some frame }
    | none => s

/-- The job of an update. -/
def job (s : StreamState) (update : FrameUpdate) (forceKeyframe : Bool) : Job :=
  let delta : Job := ⟨update.geometry, update.rect, .rectDelta, update.pixels, update.rect.width⟩
  if update.kind = .selfContainedKeyframe then { delta with kind := .keyframe }
  else if forceKeyframe && s.producer.hasFullFrameBase then
    match s.producer.latestGeometry with
    | some geometry =>
        ⟨geometry, .full geometry, .keyframe, s.producer.latestPixels, geometry.stridePixels⟩
    | none => delta
  else delta

def KEYFRAME_INTERVAL_FRAMES : Nat := 60

/-- The arm of `run_worker` for a frame. -/
def processFrame (s : StreamState) (update : FrameUpdate) : StreamState :=
  let producer :=
    if update.kind = .delta then
      s.producer.rememberRectPixels update.geometry update.rect update.pixels
    else s.producer
  let s := { s with producer, processing := none }
  if s.subscriber = false then { s with subscriberActive := false, needsKeyframe := true }
  else
    let forceKeyframe := update.kind == .selfContainedKeyframe || s.needsKeyframe ||
      s.sequence == 0 || s.sequence % KEYFRAME_INTERVAL_FRAMES == 0
    let job := s.job update forceKeyframe
    let raw := rgb565RectWords job.pixels job.rect job.stridePixels 0 0
    if raw.isEmpty then { s with needsKeyframe := forceKeyframe }
    else
      { s with
        needsKeyframe := false
        sequence := min (s.sequence + 1) 18446744073709551615
        viewer := some (shownAfter job.kind job.rect raw s.viewer) }

/-- The image changes and the publisher is told where. -/
def publish (s : StreamState) (geometry : FrameGeometry) (rect : FrameRect)
    (image : List Rgb565) : StreamState :=
  let t := ({ s with image } : StreamState).publishCachedRect geometry rect image
  { t with
    unsent :=
      if t.pendingFrame ∧ s.pendingFrame = false then false else s.unsent || image != s.image }

/-- A producer no one is connected to. -/
def idle (image : List Rgb565) (producer : ProducerState) (sequence : Nat) : StreamState :=
  { image
    unsent := true
    subscriberActive := false
    needsKeyframe := true
    pendingFrame := false
    queuedSubscriber := false
    queuedFrame := none
    processing := none
    subscriber := false
    producer
    sequence
    viewer := none }

end StreamState

inductive StreamStep where
  | publish (rect : FrameRect) (image : List Rgb565)
  | receive
  | process
  deriving DecidableEq

/-- The pixels of a geometry. -/
def FrameGeometry.Shows (g : FrameGeometry) (p : Pixel) : Prop := p.1 < g.width ∧ p.2 < g.height

instance (g : FrameGeometry) (p : Pixel) : Decidable (g.Shows p) :=
  inferInstanceAs (Decidable (_ ∧ _))

/-- The image changed in the rectangle only. -/
structure ChangedIn (g : FrameGeometry) (rect : FrameRect) (old image : List Rgb565) : Prop where
  right : rect.x + rect.width ≤ g.width
  bottom : rect.y + rect.height ≤ g.height
  length : image.length = g.stridePixels * g.height
  outside : ∀ p, g.Shows p → ¬ rect.Mem p →
    pixelAt g.stridePixels image p = pixelAt g.stridePixels old p

def streamSystem (g : FrameGeometry) : Machine StreamState StreamStep where
  init s := ∃ image producer sequence, image.length = g.stridePixels * g.height ∧
    s = (StreamState.idle image producer sequence).installSubscriber
  step s step t :=
    match step with
    | .publish rect image => ChangedIn g rect s.image image ∧ t = s.publish g rect image
    | .receive => s.processing = none ∧ t = s.receive
    | .process => ∃ update, s.processing = some update ∧ t = s.processFrame update

/-- **The condition on a step**: when the worker processes an update, the image has not changed
    since an update was last queued. -/
def Served (s : StreamState) : StreamStep → Prop
  | .process => s.unsent = false
  | _ => True

/-! ## 4. Updates in flight -/

/-- An update the publisher queued. -/
structure FrameUpdate.Queued (g : FrameGeometry) (u : FrameUpdate) : Prop where
  geometry : u.geometry = g
  kind : u.kind = .delta
  width : 0 < u.rect.width
  height : 0 < u.rect.height
  right : u.rect.x + u.rect.width ≤ g.width
  stride : u.rect.x + u.rect.width ≤ g.stridePixels
  bottom : u.rect.y + u.rect.height ≤ g.height
  pixels : u.pixels.length = u.rect.height * u.rect.width

/-- An image with the update's rectangle drawn over it. -/
def FrameUpdate.over (u : FrameUpdate) (image : Image) : Image := fun p =>
  if u.rect.Mem p then rectPixelAt u.rect u.pixels p else image p

def overAll (updates : List FrameUpdate) (image : Image) : Image :=
  updates.foldl (fun image u => u.over image) image

/-- The updates in flight, the older first. -/
def StreamState.inFlight (s : StreamState) : List FrameUpdate :=
  s.processing.toList ++ s.queuedFrame.toList

section Updates

variable {g : FrameGeometry} {u : FrameUpdate} {updates : List FrameUpdate} {p : Pixel}
  {producer : ProducerState} {a b : Image}

theorem FrameGeometry.Shows.mem_full (h : g.Shows p) : (FrameRect.full g).Mem p :=
  ⟨Nat.zero_le _, by simpa [FrameRect.full] using h.1, Nat.zero_le _,
    by simpa [FrameRect.full] using h.2⟩

theorem FrameUpdate.over_congr (h : a p = b p) : u.over a p = u.over b p := by
  unfold FrameUpdate.over
  split
  · rfl
  · exact h

theorem overAll_congr (h : a p = b p) : overAll updates a p = overAll updates b p := by
  induction updates generalizing a b with
  | nil => exact h
  | cons u updates ih => exact ih (FrameUpdate.over_congr h)

/-- An update of the whole screen hides what was there. -/
theorem over_full (hu : u.rect = .full g) (hp : g.Shows p) (a b : Image) :
    u.over a p = u.over b p := by
  have hmem : u.rect.Mem p := by
    rw [hu]
    exact hp.mem_full
  unfold FrameUpdate.over
  rw [if_pos hmem, if_pos hmem]

theorem overAll_snoc (updates : List FrameUpdate) (u : FrameUpdate) (a : Image) :
    overAll (updates ++ [u]) a = u.over (overAll updates a) := List.foldl_concat ..

theorem isFullFrame_iff {rect : FrameRect} : isFullFrame g rect = true ↔ rect = .full g := by
  cases rect
  simp [isFullFrame, FrameRect.full, and_assoc]

/-- The worker keeps a whole frame of the geometry. -/
structure ProducerState.Based (g : FrameGeometry) (producer : ProducerState) : Prop where
  geometry : producer.latestGeometry = some g
  length : producer.latestPixels.length = g.stridePixels * g.height
  base : producer.hasFullFrameBase = true

theorem capacity_of_lt (h : g.stridePixels * g.height < 4294967296) :
    ProducerState.capacity g = g.stridePixels * g.height := if_pos h

/-- **What the worker remembers of an update**: over a whole frame, or of a whole frame. -/
theorem remember_spec (hfits : g.stridePixels * g.height < 4294967296) (hu : u.Queued g)
    (h : producer.Based g ∨ u.rect = .full g) :
    (producer.rememberRectPixels u.geometry u.rect u.pixels).Based g ∧
    ∀ p, g.Shows p → p.1 < g.stridePixels →
      pixelAt g.stridePixels
          (producer.rememberRectPixels u.geometry u.rect u.pixels).latestPixels p =
        u.over (pixelAt g.stridePixels producer.latestPixels) p := by
  have hcopy : ∀ latest : List Rgb565, latest.length = g.stridePixels * g.height →
      (copyRectIntoLatest latest g u.rect u.pixels).length = g.stridePixels * g.height ∧
      ∀ p : Pixel, p.1 < g.stridePixels →
        pixelAt g.stridePixels (copyRectIntoLatest latest g u.rect u.pixels) p =
          u.over (pixelAt g.stridePixels latest) p := fun latest hlen =>
    ⟨length_copyRect hu.stride hu.bottom hlen hu.pixels,
      fun p hp => pixelAt_copyRect hu.stride hu.bottom hlen hu.pixels hp⟩
  unfold ProducerState.rememberRectPixels
  rw [hu.geometry, capacity_of_lt hfits]
  dsimp only
  by_cases hreset : producer.latestGeometry ≠ some g ∨
      producer.latestPixels.length ≠ g.stridePixels * g.height
  · rw [if_pos hreset]
    have hfull : u.rect = .full g := by
      obtain hbased | hfull := h
      · exact absurd hreset (by simp [hbased.geometry, hbased.length])
      · exact hfull
    obtain ⟨hlength, hat⟩ := hcopy _ List.length_replicate
    refine ⟨⟨rfl, hlength, ?_⟩, fun p hp hx => (hat p hx).trans (over_full hfull hp _ _)⟩
    rw [isFullFrame_iff.2 hfull]
    rfl
  · rw [if_neg hreset]
    simp only [ne_eq, not_or, not_not] at hreset
    obtain ⟨hlength, hat⟩ := hcopy _ hreset.2
    refine ⟨⟨hreset.1, hlength, ?_⟩, fun p _ hx => hat p hx⟩
    obtain hbased | hfull := h
    · rw [hbased.base]
      rfl
    · rw [isFullFrame_iff.2 hfull, Bool.or_true]

end Updates

/-! ## 5. The invariant -/

section Coherence

variable {g : FrameGeometry} {s t : StreamState} {u : FrameUpdate} {rect : FrameRect}
  {image : List Rgb565} {p : Pixel}

/-- The rectangle a publish sends. -/
def StreamState.sentRect (s : StreamState) (g : FrameGeometry) (rect : FrameRect) : FrameRect :=
  if s.needsKeyframe then .full g else rect

variable (g rect image) in
/-- A publish is dropped, queues one update, or collects nothing. -/
theorem publish_cases (hactive : s.subscriberActive = true)
    (hpending : s.pendingFrame = s.queuedFrame.isSome) :
    (s.queuedFrame.isSome = true ∧ s.publish g rect image =
      { s with image, needsKeyframe := true, unsent := s.unsent || image != s.image }) ∨
    (s.queuedFrame = none ∧ ∃ pixels,
      collectStridedRect image g.stridePixels (s.sentRect g rect).x (s.sentRect g rect).y
        (s.sentRect g rect) = some pixels ∧
      s.publish g rect image =
        { s with
          image
          unsent := false
          pendingFrame := true
          queuedFrame := some ⟨g, s.sentRect g rect, pixels, .delta⟩ }) ∨
    (s.queuedFrame = none ∧
      collectStridedRect image g.stridePixels (s.sentRect g rect).x (s.sentRect g rect).y
        (s.sentRect g rect) = none ∧
      s.publish g rect image = { s with image, unsent := s.unsent || image != s.image }) := by
  have hcached : ({ s with image } : StreamState).publishCachedRect g rect image =
      ({ s with image } : StreamState).publishRect g (s.sentRect g rect) image g.stridePixels
        (s.sentRect g rect).x (s.sentRect g rect).y := by
    unfold StreamState.publishCachedRect StreamState.sentRect
    rw [if_neg (by rw [hactive]; simp)]
    dsimp only
    split <;> rfl
  unfold StreamState.publish
  rw [hcached]
  unfold StreamState.publishRect
  dsimp only
  cases hqueued : s.queuedFrame with
  | some queued =>
      have hset : s.pendingFrame = true := by rw [hpending, hqueued]; rfl
      left
      simp [hset]
  | none =>
      have hclear : s.pendingFrame = false := by rw [hpending, hqueued]; rfl
      right
      cases hcollect : collectStridedRect image g.stridePixels (s.sentRect g rect).x
          (s.sentRect g rect).y (s.sentRect g rect) with
      | some pixels =>
          left
          simp [hclear, StreamState.pushFrame]
      | none =>
          right
          simp [hclear]

/-- What was collected makes an update. -/
theorem queued_of_collect {pixels : List Rgb565} (hright : rect.x + rect.width ≤ g.width)
    (hbottom : rect.y + rect.height ≤ g.height)
    (h : collectStridedRect image g.stridePixels rect.x rect.y rect = some pixels) :
    (⟨g, rect, pixels, .delta⟩ : FrameUpdate).Queued g ∧
      ∀ p, rect.Mem p → rectPixelAt rect pixels p = pixelAt g.stridePixels image p := by
  obtain ⟨hwidth, hheight, hstride, hrows⟩ := collect_eq_some h
  exact ⟨⟨rfl, rfl, hwidth, hheight, hright, hstride, hbottom, length_collectRows hrows⟩,
    fun p hp => rectPixelAt_collectRows hrows hp⟩

/-- Between the steps of a run. -/
structure Coherent (g : FrameGeometry) (s : StreamState) : Prop where
  active : s.subscriberActive = true
  pending : s.pendingFrame = s.queuedFrame.isSome
  waiting : s.queuedSubscriber = true →
    s.processing = none ∧ s.viewer = none ∧ s.needsKeyframe = true
  subscriber : s.queuedSubscriber = false → s.subscriber = true
  started : s.queuedSubscriber = false → s.viewer = none → s.sequence = 0
  queued : ∀ u ∈ s.inFlight, u.Queued g
  /-- Until the worker has a whole frame, only whole frames are queued. -/
  base : s.producer.Based g ∨
    (s.needsKeyframe = true ∧ s.viewer = none ∧ ∀ u ∈ s.inFlight, u.rect = .full g)
  shown : ∀ shown, s.viewer = some shown →
    ∀ p, g.Shows p → shown p = pixelAt g.stridePixels s.producer.latestPixels p
  /-- What is in flight brings what the worker keeps up to the image. -/
  caught : s.needsKeyframe = false ∨ s.unsent = false → ∀ p, g.Shows p →
    overAll s.inFlight (pixelAt g.stridePixels s.producer.latestPixels) p =
      pixelAt g.stridePixels s.image p

theorem sentRect_bottom (h : ChangedIn g rect s.image image) :
    (s.sentRect g rect).y + (s.sentRect g rect).height ≤ g.height := by
  unfold StreamState.sentRect
  split
  · simp [FrameRect.full]
  · exact h.bottom

theorem sentRect_right (h : ChangedIn g rect s.image image) :
    (s.sentRect g rect).x + (s.sentRect g rect).width ≤ g.width := by
  unfold StreamState.sentRect
  split
  · simp [FrameRect.full]
  · exact h.right

/-- A queued update brings what was caught up to the new image. -/
theorem over_queued {pixels : List Rgb565} (h : ChangedIn g rect s.image image)
    (hcaught : s.needsKeyframe = false → ∀ p, g.Shows p →
      overAll s.inFlight (pixelAt g.stridePixels s.producer.latestPixels) p =
        pixelAt g.stridePixels s.image p)
    (hcollect : ∀ p, (s.sentRect g rect).Mem p →
      rectPixelAt (s.sentRect g rect) pixels p = pixelAt g.stridePixels image p)
    (hp : g.Shows p) :
    (⟨g, s.sentRect g rect, pixels, .delta⟩ : FrameUpdate).over
      (overAll s.inFlight (pixelAt g.stridePixels s.producer.latestPixels)) p =
        pixelAt g.stridePixels image p := by
  unfold FrameUpdate.over
  by_cases hmem : (s.sentRect g rect).Mem p
  · rw [if_pos hmem]
    exact hcollect p hmem
  · rw [if_neg hmem]
    cases hneeds : s.needsKeyframe with
    | true =>
        have hfull : s.sentRect g rect = .full g := if_pos hneeds
        rw [hfull] at hmem
        exact absurd hp.mem_full hmem
    | false =>
        have hpart : s.sentRect g rect = rect := if_neg (by rw [hneeds]; simp)
        rw [hpart] at hmem
        rw [hcaught hneeds p hp]
        exact (h.outside p hp hmem).symm

/-- A rectangle of nothing. -/
theorem collect_none (hwide : g.width ≤ g.stridePixels) (h : ChangedIn g rect s.image image)
    (hcollect : collectStridedRect image g.stridePixels (s.sentRect g rect).x
      (s.sentRect g rect).y (s.sentRect g rect) = none) (p : Pixel) :
    ¬ (s.sentRect g rect).Mem p := by
  have hright := (sentRect_right h).trans hwide
  have hrows : ∀ i < (s.sentRect g rect).height, ((s.sentRect g rect).y + i) * g.stridePixels +
      (s.sentRect g rect).x + (s.sentRect g rect).width ≤ image.length := by
    intro i hi
    rw [h.length]
    have hbottom := sentRect_bottom h
    exact row_end_le hright (by omega)
  obtain ⟨out, hout⟩ := collectRows_of_le hrows
  rintro ⟨hx, hx', hy, hy'⟩
  unfold collectStridedRect at hcollect
  rw [if_neg (by omega), hout] at hcollect
  cases hcollect

/-- An image that changed in no pixel that is shown. -/
theorem same_of_not_mem (h : ChangedIn g rect s.image image)
    (hnone : ∀ p, ¬ (s.sentRect g rect).Mem p) (hp : g.Shows p) :
    pixelAt g.stridePixels image p = pixelAt g.stridePixels s.image p := by
  have hmem := hnone p
  unfold StreamState.sentRect at hmem
  split at hmem
  · exact absurd hp.mem_full hmem
  · exact h.outside p hp hmem

theorem inFlight_push (h : s.queuedFrame = none) (u : FrameUpdate) :
    ({ s with image, unsent := false, pendingFrame := true, queuedFrame := some u } :
      StreamState).inFlight = s.inFlight ++ [u] := by
  unfold StreamState.inFlight
  dsimp only
  rw [h]
  simp

theorem coherent_publish (hwide : g.width ≤ g.stridePixels) (h : Coherent g s)
    (hchange : ChangedIn g rect s.image image) : Coherent g (s.publish g rect image) := by
  obtain ⟨hqueued, heq⟩ | ⟨hqueued, pixels, hcollect, heq⟩ | ⟨hqueued, hcollect, heq⟩ :=
    publish_cases g rect image h.active h.pending
  · rw [heq]
    refine ⟨h.active, h.pending, fun hwait => ?_, h.subscriber, h.started, h.queued, ?_, h.shown,
      fun hsent => ?_⟩
    · exact ⟨(h.waiting hwait).1, (h.waiting hwait).2.1, rfl⟩
    · obtain hbased | ⟨-, hviewer, hfull⟩ := h.base
      · exact .inl hbased
      · exact .inr ⟨rfl, hviewer, hfull⟩
    · obtain hneeds | hunsent := hsent
      · cases hneeds
      · simp only [Bool.or_eq_false_iff, bne_eq_false_iff_eq] at hunsent
        obtain ⟨hunsent, rfl⟩ := hunsent
        exact h.caught (.inr hunsent)
  · rw [heq]
    obtain ⟨hnew, hpixels⟩ :=
      queued_of_collect (sentRect_right hchange) (sentRect_bottom hchange) hcollect
    refine ⟨h.active, rfl, h.waiting, h.subscriber, h.started, fun u hu => ?_, ?_, h.shown,
      fun _ p hp => ?_⟩
    · rw [inFlight_push hqueued, List.mem_append, List.mem_singleton] at hu
      obtain hold | rfl := hu
      · exact h.queued u hold
      · exact hnew
    · obtain hbased | ⟨hneeds, hviewer, hfull⟩ := h.base
      · exact .inl hbased
      · refine .inr ⟨hneeds, hviewer, fun u hu => ?_⟩
        rw [inFlight_push hqueued, List.mem_append, List.mem_singleton] at hu
        obtain hold | rfl := hu
        · exact hfull u hold
        · exact if_pos hneeds
    · rw [inFlight_push hqueued, overAll_snoc]
      exact over_queued hchange (fun hneeds => h.caught (.inl hneeds)) hpixels hp
  · rw [heq]
    refine ⟨h.active, h.pending, h.waiting, h.subscriber, h.started, h.queued, h.base, h.shown,
      fun hsent p hp => ?_⟩
    have hold : s.needsKeyframe = false ∨ s.unsent = false :=
      hsent.imp id fun hunsent => (Bool.or_eq_false_iff.1 hunsent).1
    exact (h.caught hold p hp).trans
      (same_of_not_mem hchange (collect_none hwide hchange hcollect) hp).symm

theorem coherent_receive (h : Coherent g s) (hidle : s.processing = none) :
    Coherent g s.receive := by
  unfold StreamState.receive
  split
  · rename_i hwait
    obtain ⟨-, hviewer, hneeds⟩ := h.waiting hwait
    refine ⟨h.active, h.pending, fun hstill => Bool.noConfusion hstill, fun _ => rfl,
      fun _ _ => rfl, h.queued, ?_, h.shown, fun hsent => h.caught (hsent.imp (fun hset => ?_) id)⟩
    · exact h.base.imp id fun hfirst => ⟨rfl, hfirst.2⟩
    · cases hset
  · rename_i hwait
    have hstarted : s.queuedSubscriber = false := by simpa using hwait
    split
    · rename_i frame hframe
      have hflight : ∀ t : StreamState, t.processing = some frame → t.queuedFrame = none →
          t.inFlight = s.inFlight := by
        intro t hprocessing hqueued
        unfold StreamState.inFlight
        rw [hprocessing, hqueued, hidle, hframe]
        rfl
      have hsame := hflight { s with
        queuedFrame := none, pendingFrame := false, processing := some frame } rfl rfl
      refine ⟨h.active, rfl, fun hstill => absurd (hstarted.symm.trans hstill) (by simp),
        h.subscriber, h.started, fun u hu => h.queued u (by rwa [hsame] at hu), ?_, h.shown, ?_⟩
      · rw [hsame]
        exact h.base
      · rw [hsame]
        exact h.caught
    · exact h

/-- An update is processed: a keyframe or a delta that shows what the worker keeps. -/
theorem processFrame_shows (hfits : g.stridePixels * g.height < 4294967296)
    (hwide : g.width ≤ g.stridePixels) (h : Coherent g s) (hu : s.processing = some u) :
    ∃ shown : Image, s.processFrame u =
        { s with
          producer := s.producer.rememberRectPixels u.geometry u.rect u.pixels
          processing := none
          needsKeyframe := false
          sequence := min (s.sequence + 1) 18446744073709551615
          viewer := some shown } ∧
      ∀ p, g.Shows p → shown p = pixelAt g.stridePixels
        (s.producer.rememberRectPixels u.geometry u.rect u.pixels).latestPixels p := by
  have hmem : u ∈ s.inFlight := List.mem_append_left _ (by rw [hu]; exact List.mem_singleton_self u)
  have hqueued := h.queued u hmem
  have hbase : s.producer.Based g ∨ u.rect = .full g := h.base.imp id fun hfirst =>
    hfirst.2.2 u hmem
  obtain ⟨hbased, hat⟩ := remember_spec hfits hqueued hbase
  have hstarted : s.queuedSubscriber = false := by
    cases hwait : s.queuedSubscriber with
    | false => rfl
    | true => exact absurd ((h.waiting hwait).1.symm.trans hu) (by simp)
  unfold StreamState.processFrame
  rw [if_pos hqueued.kind, if_neg (by rw [h.subscriber hstarted]; simp)]
  dsimp only
  generalize hforce : (u.kind == .selfContainedKeyframe || s.needsKeyframe || s.sequence == 0 ||
    s.sequence % StreamState.KEYFRAME_INTERVAL_FRAMES == 0) = force
  cases force with
  | true =>
      have hjob : ∀ t : StreamState, t.producer =
          s.producer.rememberRectPixels u.geometry u.rect u.pixels → t.job u true =
            ⟨g, .full g, .keyframe, t.producer.latestPixels, g.stridePixels⟩ := by
        intro t ht
        unfold StreamState.job
        rw [if_neg (by rw [hqueued.kind]; simp), ht, hbased.base, hbased.geometry]
        rfl
      rw [hjob _ rfl]
      dsimp only
      have hcorner : (FrameRect.full g).Mem (u.rect.x, u.rect.y) :=
        FrameGeometry.Shows.mem_full ⟨by have := hqueued.right; have := hqueued.width; omega,
          by have := hqueued.bottom; have := hqueued.height; omega⟩
      have hwords := (rectWords_latest hwide hbased.length hcorner).1
      rw [if_neg (by simpa using hwords)]
      refine ⟨_, rfl, fun p hp => ?_⟩
      unfold shownAfter
      rw [if_pos hp.mem_full]
      exact (rectWords_latest hwide hbased.length hp.mem_full).2
  | false =>
      have hjob : ∀ t : StreamState, t.job u false =
          ⟨u.geometry, u.rect, .rectDelta, u.pixels, u.rect.width⟩ := by
        intro t
        unfold StreamState.job
        rw [if_neg (by rw [hqueued.kind]; simp), Bool.false_and]
        rfl
      rw [hjob]
      dsimp only
      have hpixels : u.pixels ≠ [] := by
        intro hnil
        have hlen := hqueued.pixels
        rw [hnil, List.length_nil] at hlen
        have := Nat.mul_pos hqueued.height hqueued.width
        omega
      rw [rectWords_dense hqueued.pixels, if_neg (by simpa using hpixels)]
      refine ⟨_, rfl, fun p hp => ?_⟩
      rw [hat p hp (Nat.lt_of_lt_of_le hp.1 hwide)]
      -- no keyframe is due, so the viewer already shows what the worker keeps
      cases hviewer : s.viewer with
      | none =>
          rw [h.started hstarted hviewer] at hforce
          simp at hforce
      | some shown =>
          unfold shownAfter FrameUpdate.over
          split
          · rfl
          · exact h.shown shown hviewer p hp

theorem coherent_process (hfits : g.stridePixels * g.height < 4294967296)
    (hwide : g.width ≤ g.stridePixels) (h : Coherent g s) (hu : s.processing = some u)
    (hserved : s.unsent = false) : Coherent g (s.processFrame u) := by
  obtain ⟨shown, heq, hshown⟩ := processFrame_shows hfits hwide h hu
  have hmem : u ∈ s.inFlight := List.mem_append_left _ (by rw [hu]; exact List.mem_singleton_self u)
  obtain ⟨hbased, hat⟩ := remember_spec hfits (h.queued u hmem) (h.base.imp id fun hfirst =>
    hfirst.2.2 u hmem)
  have hsplit : s.inFlight = u :: s.queuedFrame.toList := by
    unfold StreamState.inFlight
    rw [hu]
    rfl
  rw [heq]
  refine ⟨h.active, h.pending, fun hwait => ?_, h.subscriber, fun _ hnone => ?_, fun v hv => ?_,
    .inl hbased, fun shown' hsome p hp => ?_, fun _ p hp => ?_⟩
  · exact absurd ((h.waiting hwait).1.symm.trans hu) (by simp)
  · cases hnone
  · exact h.queued v (by rw [hsplit]; exact List.mem_cons_of_mem u hv)
  · cases hsome
    exact hshown p hp
  · have hcaught := h.caught (.inr hserved) p hp
    rw [hsplit] at hcaught
    exact (overAll_congr (hat p hp (Nat.lt_of_lt_of_le hp.1 hwide))).trans hcaught

/-! ## 6. Geometries of which no keyframe can be made -/

/-- Rows that overlap, or more pixels than a `u32` counts. -/
def FrameGeometry.Unusable (g : FrameGeometry) : Prop :=
  ¬ (g.stridePixels * g.height < 4294967296 ∧ g.width ≤ g.stridePixels)

/-- The keyframe request stays. -/
structure Mute (g : FrameGeometry) (s : StreamState) : Prop where
  active : s.subscriberActive = true
  pending : s.pendingFrame = s.queuedFrame.isSome
  waiting : s.queuedSubscriber = true → s.processing = none
  subscriber : s.queuedSubscriber = false → s.subscriber = true
  needs : s.needsKeyframe = true
  queued : ∀ u ∈ s.inFlight, u.Queued g ∧ u.rect = .full g

theorem mute_publish (h : Mute g s) (hchange : ChangedIn g rect s.image image) :
    Mute g (s.publish g rect image) := by
  obtain ⟨hqueued, heq⟩ | ⟨hqueued, pixels, hcollect, heq⟩ | ⟨hqueued, hcollect, heq⟩ :=
    publish_cases g rect image h.active h.pending
  · rw [heq]
    exact ⟨h.active, h.pending, h.waiting, h.subscriber, rfl, h.queued⟩
  · rw [heq]
    refine ⟨h.active, rfl, h.waiting, h.subscriber, h.needs, fun u hu => ?_⟩
    rw [inFlight_push hqueued, List.mem_append, List.mem_singleton] at hu
    obtain hold | rfl := hu
    · exact h.queued u hold
    · exact ⟨(queued_of_collect (sentRect_right hchange) (sentRect_bottom hchange) hcollect).1,
        if_pos h.needs⟩
  · rw [heq]
    exact ⟨h.active, h.pending, h.waiting, h.subscriber, h.needs, h.queued⟩

theorem mute_receive (h : Mute g s) : Mute g s.receive := by
  unfold StreamState.receive
  split
  · exact ⟨h.active, h.pending, fun hstill => Bool.noConfusion hstill, fun _ => rfl, rfl, h.queued⟩
  · rename_i hwait
    have hstarted : s.queuedSubscriber = false := by simpa using hwait
    split
    · rename_i frame hframe
      refine ⟨h.active, rfl, fun hstill => absurd (hstarted.symm.trans hstill) (by simp),
        h.subscriber, h.needs, fun u hu => h.queued u ?_⟩
      have hu' : u = frame := by simpa [StreamState.inFlight] using hu
      rw [hu']
      exact List.mem_append_right _ (by rw [hframe]; exact List.mem_singleton_self frame)
    · exact h

/-- Nothing is kept of a geometry with too many pixels. -/
theorem remember_nil (producer : ProducerState)
    (hfits : ¬ g.stridePixels * g.height < 4294967296) (hu : u.Queued g) :
    (producer.rememberRectPixels u.geometry u.rect u.pixels).latestGeometry = some g ∧
      (producer.rememberRectPixels u.geometry u.rect u.pixels).latestPixels = [] := by
  have hcapacity : ProducerState.capacity g = 0 := if_neg hfits
  unfold ProducerState.rememberRectPixels
  rw [hu.geometry, hcapacity]
  dsimp only
  by_cases hreset : producer.latestGeometry ≠ some g ∨ producer.latestPixels.length ≠ 0
  · rw [if_pos hreset]
    exact ⟨rfl, copyRect_nil g hu.width⟩
  · rw [if_neg hreset]
    simp only [ne_eq, not_or, not_not, List.length_eq_zero_iff] at hreset
    rw [hreset.2]
    exact ⟨hreset.1, copyRect_nil g hu.width⟩

theorem mute_process (hunusable : g.Unusable) (h : Mute g s) (hu : s.processing = some u) :
    Mute g (s.processFrame u) := by
  have hmem : u ∈ s.inFlight := List.mem_append_left _ (by rw [hu]; exact List.mem_singleton_self u)
  obtain ⟨hqueued, hfull⟩ := h.queued u hmem
  have hwide : g.width ≤ g.stridePixels := by
    have hstride := hqueued.stride
    rw [hfull] at hstride
    simpa [FrameRect.full] using hstride
  obtain ⟨hgeometry, hnil⟩ := remember_nil s.producer
    (fun hfits => hunusable ⟨hfits, hwide⟩) hqueued
  have hbase : (s.producer.rememberRectPixels u.geometry u.rect u.pixels).hasFullFrameBase =
      true := by
    unfold ProducerState.rememberRectPixels
    rw [isFullFrame_iff.2 (hqueued.geometry ▸ hfull)]
    simp
  have hstarted : s.queuedSubscriber = false := by
    cases hwait : s.queuedSubscriber with
    | false => rfl
    | true => exact absurd ((h.waiting hwait).symm.trans hu) (by simp)
  have hjob : ∀ t : StreamState, t.producer =
      s.producer.rememberRectPixels u.geometry u.rect u.pixels → t.job u true =
        ⟨g, .full g, .keyframe, [], g.stridePixels⟩ := by
    intro t ht
    unfold StreamState.job
    rw [if_neg (by rw [hqueued.kind]; simp), ht, hbase, hgeometry, hnil]
    rfl
  have hempty : rgb565RectWords [] (.full g) g.stridePixels 0 0 = [] := by
    have hwidth : 0 < (FrameRect.full g).width := hfull ▸ hqueued.width
    have hheight : 0 < (FrameRect.full g).height := hfull ▸ hqueued.height
    have harea := Nat.mul_pos hwidth hheight
    unfold rgb565RectWords
    rw [if_neg (by rw [List.length_nil]; omega)]
    obtain ⟨count, hcount⟩ := Nat.exists_eq_succ_of_ne_zero (Nat.pos_iff_ne_zero.1 hheight)
    rw [hcount, collectRows, slice_none (by rw [List.length_nil]; omega)]
    rfl
  have hflight : ∀ t : StreamState, t.processing = none → t.queuedFrame = s.queuedFrame →
      ∀ v ∈ t.inFlight, v.Queued g ∧ v.rect = .full g := by
    intro t hprocessing hsame v hv
    unfold StreamState.inFlight at hv
    rw [hprocessing, hsame] at hv
    exact h.queued v (List.mem_append_right _ hv)
  unfold StreamState.processFrame
  rw [if_pos hqueued.kind, if_neg (by rw [h.subscriber hstarted]; simp)]
  dsimp only
  rw [h.needs, Bool.or_true, Bool.true_or, Bool.true_or, hjob _ rfl]
  dsimp only
  rw [hempty]
  exact ⟨h.active, h.pending, fun _ => rfl, h.subscriber, rfl, hflight _ rfl rfl⟩

/-! ## 7. Every run -/

theorem coherent_init (h : (streamSystem g).init s) : Coherent g s := by
  obtain ⟨image, producer, sequence, -, rfl⟩ := h
  exact ⟨rfl, rfl, fun _ => ⟨rfl, rfl, rfl⟩, fun hstarted => Bool.noConfusion hstarted,
    fun hstarted => Bool.noConfusion hstarted, fun u hu => absurd hu List.not_mem_nil,
    .inr ⟨rfl, rfl, fun u hu => absurd hu List.not_mem_nil⟩, fun _ hnone => (nomatch hnone),
    fun hsent => hsent.elim (fun h => nomatch h) fun h => nomatch h⟩

theorem coherent_run {s₀ : StreamState} {run : List StreamStep}
    (hfits : g.stridePixels * g.height < 4294967296) (hwide : g.width ≤ g.stridePixels)
    (hinit : (streamSystem g).init s₀) (h : ((streamSystem g).guard Served).Run s₀ run s) :
    Coherent g s := by
  refine h.invariant (fun s step t hs hstep => ?_) (coherent_init hinit)
  obtain ⟨hserved, hstep⟩ := hstep
  cases step with
  | publish rect image =>
      obtain ⟨hchange, rfl⟩ := hstep
      exact coherent_publish hwide hs hchange
  | receive =>
      obtain ⟨hidle, rfl⟩ := hstep
      exact coherent_receive hs hidle
  | process =>
      obtain ⟨update, hupdate, rfl⟩ := hstep
      exact coherent_process hfits hwide hs hupdate hserved

theorem mute_run {s₀ : StreamState} {run : List StreamStep} (hunusable : g.Unusable)
    (hinit : (streamSystem g).init s₀) (h : ((streamSystem g).guard Served).Run s₀ run s) :
    Mute g s := by
  have hstart := coherent_init hinit
  obtain ⟨image, producer, sequence, -, rfl⟩ := hinit
  refine h.invariant (fun s step t hs hstep => ?_)
    ⟨hstart.active, hstart.pending, fun _ => rfl, hstart.subscriber, rfl,
      fun u hu => absurd hu List.not_mem_nil⟩
  obtain ⟨-, hstep⟩ := hstep
  cases step with
  | publish rect image =>
      obtain ⟨hchange, rfl⟩ := hstep
      exact mute_publish hs hchange
  | receive =>
      obtain ⟨-, rfl⟩ := hstep
      exact mute_receive hs
  | process =>
      obtain ⟨update, hupdate, rfl⟩ := hstep
      exact mute_process hunusable hs hupdate

end Coherence

/-- **The viewer shows the image in every run whose updates are served in time**: with nothing
    queued or being processed, no keyframe requested and a frame written, every pixel is the
    image's. -/
theorem viewer_coherent (g : FrameGeometry) {s₀ s : StreamState} {run : List StreamStep}
    {shown : Image} (hinit : (streamSystem g).init s₀)
    (hrun : ((streamSystem g).guard Served).Run s₀ run s) (hqueued : s.queuedFrame = none)
    (hprocessing : s.processing = none) (hneeds : s.needsKeyframe = false)
    (hshown : s.viewer = some shown) (p : Pixel) (hp : g.Shows p) :
    shown p = pixelAt g.stridePixels s.image p := by
  by_cases husable : g.stridePixels * g.height < 4294967296 ∧ g.width ≤ g.stridePixels
  · have h := coherent_run husable.1 husable.2 hinit hrun
    have hflight : s.inFlight = [] := by
      unfold StreamState.inFlight
      rw [hqueued, hprocessing]
      rfl
    have hcaught := h.caught (.inl hneeds) p hp
    rw [hflight] at hcaught
    exact (h.shown shown hshown p hp).trans hcaught
  · have h := mute_run husable hinit hrun
    exact absurd (h.needs.symm.trans hneeds) (by simp)

/-! ## 8. A screen of two pixels -/

def twoPixels : FrameGeometry := ⟨2, 1, 2⟩

theorem changed_twoPixels {rect : FrameRect} {old image : List Rgb565}
    (hright : rect.x + rect.width ≤ 2) (hbottom : rect.y + rect.height ≤ 1)
    (hlength : image.length = 2)
    (h : ∀ x < 2, ¬ rect.Mem (x, 0) → pixelAt 2 image (x, 0) = pixelAt 2 old (x, 0)) :
    ChangedIn twoPixels rect old image := by
  refine ⟨hright, hbottom, hlength, fun p hp hmem => ?_⟩
  obtain ⟨x, y⟩ := p
  obtain ⟨hx, hy⟩ := hp
  have hy' : y = 0 := Nat.lt_one_iff.1 hy
  subst hy'
  exact h x hx hmem

/-- A producer with no image yet, and a viewer that connects. -/
def connected : StreamState := (StreamState.idle [0, 0] .new 0).installSubscriber

theorem connected_init : (streamSystem twoPixels).init connected :=
  ⟨[0, 0], .new, 0, rfl, rfl⟩

theorem step_receive {g : FrameGeometry} {s : StreamState} (h : s.processing = none) :
    (streamSystem g).step s .receive s.receive := ⟨h, rfl⟩

theorem step_publish {g : FrameGeometry} {s : StreamState} (rect : FrameRect)
    (image : List Rgb565) (h : ChangedIn g rect s.image image) :
    (streamSystem g).step s (.publish rect image) (s.publish g rect image) := ⟨h, rfl⟩

theorem step_process {g : FrameGeometry} {s : StreamState} {u : FrameUpdate}
    (h : s.processing = some u) : (streamSystem g).step s .process (s.processFrame u) :=
  ⟨u, h, rfl⟩

/-- The first image was written. -/
def firstShown : StreamState :=
  (connected.receive.publish twoPixels ⟨0, 0, 2, 1⟩ [1, 2]).receive.processFrame
    ⟨twoPixels, ⟨0, 0, 2, 1⟩, [1, 2], .delta⟩

theorem firstShown_run : ((streamSystem twoPixels).guard Served).Run connected
    [.receive, .publish ⟨0, 0, 2, 1⟩ [1, 2], .receive, .process] firstShown := by
  have hstart : ((streamSystem twoPixels).guard Served).Run connected [] connected := .nil
  have hready := hstart.snoc (a := StreamStep.receive) ⟨trivial, step_receive rfl⟩
  have hpublished := hready.snoc (a := StreamStep.publish ⟨0, 0, 2, 1⟩ [1, 2]) ⟨trivial,
    step_publish _ _ (changed_twoPixels (by decide) (by decide) rfl (by decide))⟩
  have htaken := hpublished.snoc (a := StreamStep.receive) ⟨trivial, step_receive rfl⟩
  exact htaken.snoc (a := StreamStep.process) ⟨rfl, step_process rfl⟩

/-- The left pixel changes and is queued, the right one while it is queued. -/
def oneDropped : StreamState :=
  (firstShown.publish twoPixels ⟨0, 0, 1, 1⟩ [3, 2]).publish twoPixels ⟨1, 0, 1, 1⟩ [3, 4]

theorem oneDropped_run : ((streamSystem twoPixels).guard Served).Run connected
    [.receive, .publish ⟨0, 0, 2, 1⟩ [1, 2], .receive, .process, .publish ⟨0, 0, 1, 1⟩ [3, 2],
      .publish ⟨1, 0, 1, 1⟩ [3, 4]] oneDropped := by
  have hleft := firstShown_run.snoc (a := StreamStep.publish ⟨0, 0, 1, 1⟩ [3, 2]) ⟨trivial,
    step_publish _ _ (changed_twoPixels (by decide) (by decide) rfl (by decide))⟩
  exact hleft.snoc (a := StreamStep.publish ⟨1, 0, 1, 1⟩ [3, 4]) ⟨trivial,
    step_publish _ _ (changed_twoPixels (by decide) (by decide) rfl (by decide))⟩

/-- The next change comes before the queued update is processed, and is sent as the whole frame. -/
def repaired : StreamState :=
  ((oneDropped.receive.publish twoPixels ⟨0, 0, 1, 1⟩ [5, 4]).processFrame
    ⟨twoPixels, ⟨0, 0, 1, 1⟩, [3], .delta⟩).receive.processFrame
      ⟨twoPixels, ⟨0, 0, 2, 1⟩, [5, 4], .delta⟩

/-- The right pixel was dropped, and the viewer shows it in the end. -/
theorem viewer_coherent_repaired : ∃ shown, repaired.viewer = some shown ∧
    shown (0, 0) = 5 ∧ shown (1, 0) = 4 := by
  have htaken := oneDropped_run.snoc (a := StreamStep.receive) ⟨trivial, step_receive rfl⟩
  have hwhole := htaken.snoc (a := StreamStep.publish ⟨0, 0, 1, 1⟩ [5, 4]) ⟨trivial,
    step_publish _ _ (changed_twoPixels (by decide) (by decide) rfl (by decide))⟩
  have hold := hwhole.snoc (a := StreamStep.process) ⟨rfl,
    step_process (u := ⟨twoPixels, ⟨0, 0, 1, 1⟩, [3], .delta⟩) rfl⟩
  have hlast := hold.snoc (a := StreamStep.receive) ⟨trivial, step_receive rfl⟩
  have hrun := hlast.snoc (a := StreamStep.process) ⟨rfl,
    step_process (u := ⟨twoPixels, ⟨0, 0, 2, 1⟩, [5, 4], .delta⟩) rfl⟩
  exact ⟨_, rfl, viewer_coherent twoPixels connected_init hrun rfl rfl rfl rfl (0, 0) (by decide),
    viewer_coherent twoPixels connected_init hrun rfl rfl rfl rfl (1, 0) (by decide)⟩

/-- The queued update is processed first. -/
def droppedChange : StreamState :=
  oneDropped.receive.processFrame ⟨twoPixels, ⟨0, 0, 1, 1⟩, [3], .delta⟩

/-- **A change dropped because the queue was full is not in the keyframe that serves its
    request.** -/
theorem dropped_change_is_lost : ∃ run shown,
    (streamSystem twoPixels).Run connected run droppedChange ∧
      droppedChange.queuedFrame = none ∧ droppedChange.processing = none ∧
      droppedChange.needsKeyframe = false ∧ droppedChange.viewer = some shown ∧
      twoPixels.Shows (1, 0) ∧ shown (1, 0) ≠ pixelAt 2 droppedChange.image (1, 0) := by
  have htaken := oneDropped_run.unguard.snoc (step_receive rfl)
  have hserved := htaken.snoc (step_process (u := ⟨twoPixels, ⟨0, 0, 1, 1⟩, [3], .delta⟩) rfl)
  exact ⟨_, _, hserved, rfl, rfl, rfl, rfl, by decide, by decide⟩

end MisterMagik.Framebuffer
