/-
  File:      MisterMagik/Parade/Schedule.lean
  Subject:   The schedule of the screenshot parade (`screenshot-parade/src/schedule.rs`): tiles that
             cross the screen in five layers, and a worker that prepares the card each shows next.

  A tile shows a card, holds the next one ready or waits for it. A frame adopts at most one card
  from the worker, moves the active tiles, asks for a successor where a card has left the screen,
  and lets the next tile of a layer enter when its time has come.

  * `ScreenshotParade` -- the state of the parade with the channels to and from its worker;
  * `ScreenshotParade.construct` -- the three constructors;
  * `ScreenshotParade.advance`, `renderAt`, `renderAtPresentationTick` -- a frame;
  * `ScreenshotParade.after` -- one event: a render call, an answer of the worker, its end.

  `usize` and `isize` have 64 bits. Arithmetic that would panic in the debug build is exact here,
  but for `layerIntervalFrames`, where it bounds the width. What only feeds the statistics is left
  out, and so are the drawing order and the pixels.
-/
import MisterMagik.Parade.Deck
import MisterMagik.Scenes.OutputLayout

namespace MisterMagik.Parade

open Scenes (Rgb565OutputLayout)

/-! ## 1. Cards -/

def WIDE_LAYER_TARGETS : List Nat := [28, 21, 17, 14, 10]
def COMPACT_LAYER_TARGETS : List Nat := [25, 18, 15, 12, 9]
def REFERENCE_HEIGHT : Nat := 540
def REFERENCE_WIDTH : Nat := 1920
def CARD_SPEED_NUMERATOR : Int := 3
def CARD_SPEED_DENOMINATOR : Int := 4
def MAX_CARD_ADOPTIONS_PER_FRAME : Nat := 1
def REFERENCE_HZ : Nat := 60
def TICK_ONE : Nat := 65536
def MIN_TILE_SPEED : Nat := 1
def SPEED_COUNT : Nat := 5
def REFERENCE_PLACEMENT_GAP : Nat := 18
def PARADE_SUBPIXEL_ONE : Int := 256
def ALL_SHIFTED_PHASES : UInt16 := 0xfffe
def USIZE_MAX : Nat := 2 ^ 64 - 1
def I64_MAX : Int := 2 ^ 63 - 1
def I64_MIN : Int := -2 ^ 63

/-- The value that saturating `i64` arithmetic yields. -/
def saturateI64 (value : Int) : Int := max I64_MIN (min value I64_MAX)

def scaleDimension (reference screenHeight : Nat) : Nat :=
  max (min (min (reference * screenHeight) USIZE_MAX + REFERENCE_HEIGHT / 2) USIZE_MAX /
    REFERENCE_HEIGHT) 1

/-- The box that a card of a depth fits into, without its tint. -/
def depthStyle (speed screenHeight : Nat) : Nat × Nat :=
  let depth := min (speed - MIN_TILE_SPEED) (SPEED_COUNT - 1)
  let reference := 160 * (depth + MIN_TILE_SPEED) / SPEED_COUNT
  (scaleDimension reference screenHeight, scaleDimension reference screenHeight)

/-- The size of a decoded image. -/
structure ScreenshotImage where
  width : Nat
  height : Nat
  deriving DecidableEq, Repr

def ScreenshotImage.empty : ScreenshotImage := ⟨0, 0⟩

def scaledStyle (image : ScreenshotImage) (speed screenHeight : Nat) : Nat × Nat :=
  let (boxWidth, boxHeight) := depthStyle speed screenHeight
  if image.width * boxHeight > image.height * boxWidth then
    (boxWidth, (boxWidth * image.height + image.width / 2) / image.width)
  else ((boxHeight * image.width + image.height / 2) / image.height, boxHeight)

/-- A card of `raster.rs`: its size and the mask of the shifted phases it holds. -/
structure PreparedScreenshotCard where
  width : Nat
  height : Nat
  shiftedPhases : UInt16
  deriving DecidableEq, Repr

def PreparedScreenshotCard.prepareTimed (source : ScreenshotImage) (speed screenHeight : Nat)
    (phases : UInt16) : PreparedScreenshotCard :=
  if source.width = 0 ∨ source.height = 0 then ⟨0, 0, ALL_SHIFTED_PHASES⟩
  else
    let (width, height) := scaledStyle source speed screenHeight
    ⟨width, height, phases⟩

def PreparedScreenshotCard.prepare (source : ScreenshotImage) (speed screenHeight : Nat) :
    PreparedScreenshotCard :=
  prepareTimed source speed screenHeight ALL_SHIFTED_PHASES

structure PreparedCard where
  imageIndex : Nat
  raster : PreparedScreenshotCard
  deriving DecidableEq, Repr

/-! ## 2. Motion -/

def cardVelocityFp (layerIndex screenWidth : Nat) : Int :=
  let reference1080p := ((layerIndex : Int) + 1) * PARADE_SUBPIXEL_ONE
  let slowedReference := saturateI64 (reference1080p * CARD_SPEED_NUMERATOR) /
    CARD_SPEED_DENOMINATOR
  max (saturateI64 (saturateI64 (slowedReference * screenWidth) + (REFERENCE_WIDTH / 2 : Nat)) /
    REFERENCE_WIDTH) 1

/-- `trailing_zeros` of a positive number, counted up to a limit. -/
def trailingZeros : Nat → Nat → Nat
  | 0, _ => 0
  | limit + 1, value => if value % 2 = 1 then 0 else trailingZeros limit (value / 2) + 1

def reachableShiftedPhases (velocityFp : Int) : UInt16 :=
  let sixteenth := PARADE_SUBPIXEL_ONE / 16
  if velocityFp % sixteenth ≠ 0 then ALL_SHIFTED_PHASES
  else
    let lattice := 2 ^ trailingZeros 4 (velocityFp / sixteenth).toNat
    ((List.range 16).filter fun phase => lattice ≤ phase ∧ phase % lattice = 0).foldl
      (fun mask phase => mask ||| 1 <<< UInt16.ofNat phase) 0

def rasterPhaseKey (xFp : Int) : Int :=
  let x := xFp / PARADE_SUBPIXEL_ONE
  let fraction := xFp % PARADE_SUBPIXEL_ONE
  let phase := (fraction + 8) / 16
  if phase = 16 then (x + 1) * 16 + 0 else x * 16 + phase

/-- The phase that a card at a position is drawn with. -/
def rasterPhase (xFp : Int) : Nat := (rasterPhaseKey xFp % 16).toNat

def onPhaseLattice (xFp velocityFp : Int) : Bool :=
  let mask := reachableShiftedPhases velocityFp
  let phase := rasterPhase xFp
  phase = 0 || (mask &&& 1 <<< UInt16.ofNat phase) != 0

/-- The time in whole ticks; a duration is given by its nanoseconds. -/
def tickDeltaFp (elapsed : Nat) : Nat :=
  let ticks := (elapsed * REFERENCE_HZ + 500000000) / 1000000000
  min ticks (I64_MAX.toNat / TICK_ONE) * TICK_ONE

/-- The frames between two cards of a layer, or the panic of an overflow: for such a width there is
    no slice of pixels either. -/
def layerIntervalFrames (screenWidth tileWidth : Nat) (velocityFp : Int) (targetCount : Nat) :
    Except String Nat :=
  let travelFp := ((screenWidth + tileWidth : Nat) : Int) * PARADE_SUBPIXEL_ONE
  let velocityFp := max velocityFp 1
  if travelFp + velocityFp - 1 ≤ I64_MAX then
    let travelFrames := ((travelFp + velocityFp - 1) / velocityFp).toNat
    .ok (max (travelFrames / max targetCount 1) 1)
  else .error "attempt to multiply with overflow"

def layerTargets (width height : Nat) : List Nat :=
  if min (width * 3) USIZE_MAX ≤ min (height * 4) USIZE_MAX then COMPACT_LAYER_TARGETS
  else WIDE_LAYER_TARGETS

/-! ## 3. The parade -/

structure LayerSchedule where
  nextSpawnFrame : Nat
  intervalFrames : Nat
  deriving DecidableEq, Repr

structure Tile where
  xFp : Int
  y : Int
  layer : Nat
  speed : Nat
  velocityFp : Int
  imageIndex : Nat
  raster : PreparedScreenshotCard
  active : Bool
  next : Option PreparedCard
  pendingImageIndex : Option Nat
  deriving DecidableEq, Repr

def Tile.x (tile : Tile) : Int := tile.xFp / PARADE_SUBPIXEL_ONE

structure ScaleJob where
  tileIndex : Nat
  imageIndex : Nat
  speed : Nat
  screenHeight : Nat
  phases : UInt16
  deriving DecidableEq, Repr

structure ScaleResult where
  tileIndex : Nat
  imageIndex : Nat
  card : Except String PreparedCard

structure ScreenshotParade extends Deck where
  width : Nat
  height : Nat
  outputLen : Nat
  tiles : List Tile
  assetKeys : Nat
  failedImages : List Nat
  /-- The jobs that the worker has not answered, the earliest first. -/
  jobs : List ScaleJob
  /-- The answers that the parade has not received. -/
  results : List ScaleResult
  workerRuns : Bool
  scaleWorkerConnected : Bool
  scaleQueueDepth : Nat
  layerTargets : List Nat
  layers : List LayerSchedule
  previousMotionTicksFp : Nat
  lastElapsed : Nat

namespace ScreenshotParade

variable (p : ScreenshotParade)

def layer (layerIndex : Nat) : LayerSchedule := p.layers.getD layerIndex ⟨0, 1⟩

def target (layerIndex : Nat) : Nat := p.layerTargets.getD layerIndex 0

def queueBound : Nat := p.layerTargets.sum

def setTile (tileIndex : Nat) (tile : Tile) : ScreenshotParade :=
  { p with tiles := p.tiles.set tileIndex tile }

def randomBelow (upper : Nat) : Nat × ScreenshotParade :=
  let rng := advanceRng p.rng
  (rng.toNat % max upper 1, { p with rng })

/-- An image that a tile's successor may show: it has not failed and no other tile shows it, and
    none holds it ready or waits for it. -/
def usable (replacingTile candidate : Nat) : Bool :=
  let failed := p.failedImages.contains candidate
  let alreadyVisible := p.tiles.zipIdx.any fun (tile, index) =>
    (index != replacingTile && tile.active && tile.imageIndex == candidate)
      || tile.next.any (fun next => next.imageIndex == candidate)
      || tile.pendingImageIndex == some candidate
  !failed && !alreadyVisible

def nextImageFor (replacingTile : Nat) : Option Nat × ScreenshotParade :=
  if p.deck.isEmpty then (none, p)
  else
    let (image, deck) := p.toDeck.search (p.usable replacingTile) p.deck.length
    (image, { p with toDeck := deck })

def preparedPhases (speed : Nat) : UInt16 :=
  let layerIndex := speed - MIN_TILE_SPEED
  reachableShiftedPhases (cardVelocityFp layerIndex p.width)

def sendScaleJob (tileIndex imageIndex speed : Nat) : Except String ScreenshotParade :=
  if p.workerRuns then
    .ok { p with
      jobs := p.jobs ++ [⟨tileIndex, imageIndex, speed, p.height, p.preparedPhases speed⟩]
      scaleQueueDepth := p.scaleQueueDepth + 1 }
  else .error "screenshot parade scale worker disconnected"

def queueSuccessor (tileIndex : Nat) : ScreenshotParade :=
  match p.tiles[tileIndex]? with
  | none => p
  | some tile =>
      if tile.next.isSome || tile.pendingImageIndex.isSome then p
      else
        match p.nextImageFor tileIndex with
        | (none, p) => p
        | (some imageIndex, p) =>
            let waiting := { tile with pendingImageIndex := some imageIndex }
            match (p.setTile tileIndex waiting).sendScaleJob tileIndex imageIndex tile.speed with
            | .ok p => p
            | .error _ => { p with scaleWorkerConnected := false }.setTile tileIndex
                { tile with pendingImageIndex := none }

def placementIsClear (x y : Int) (tileWidth tileHeight speed replacingTile : Nat) : Bool :=
  let gap := scaleDimension REFERENCE_PLACEMENT_GAP p.height
  p.tiles.zipIdx.all fun (tile, index) =>
    if index = replacingTile ∨ !tile.active ∨ tile.layer ≠ speed then true
    else
      x + tileWidth + gap ≤ tile.x
        || tile.x + tile.raster.width + gap ≤ x
        || y + tileHeight + gap ≤ tile.y
        || tile.y + tile.raster.height + gap ≤ y

/-- The random tries of `random_tile_y`, with their number. -/
def randomTries (clear : Int → Bool) (minY : Int) (span : Nat) :
    Nat → ScreenshotParade → Option Int × ScreenshotParade
  | 0, p => (none, p)
  | left + 1, p =>
      let (offset, p) := p.randomBelow span
      let y := minY + offset
      if clear y then (some y, p) else randomTries clear minY span left p

def randomTileY (x : Int) (tileWidth tileHeight speed replacingTile : Nat) :
    Option Int × ScreenshotParade :=
  let minY : Int := -(tileHeight * 2 / 3 : Nat)
  let maxY : Int := p.height - (tileHeight / 3 : Nat)
  let span := (max (maxY - minY + 1) 1).toNat
  let clear := fun y => p.placementIsClear x y tileWidth tileHeight speed replacingTile
  match randomTries clear minY span 64 p with
  | (some y, p) => (some y, p)
  | (none, p) =>
      let range := (List.range (maxY - minY + 1).toNat).map fun offset : Nat => minY + offset
      (range.find? clear, p)

def jitteredInterval (base : Nat) : Nat × ScreenshotParade :=
  let variance := max (base / 8) 1
  let (random, p) := p.randomBelow (variance * 2 + 1)
  let offset := (random : Int) - variance
  ((max ((base : Int) + offset) 1).toNat, p)

def pushEmptyTile (layerIndex : Nat) : ScreenshotParade :=
  let speed := MIN_TILE_SPEED + layerIndex
  { p with
    tiles := p.tiles ++ [{
      xFp := 0
      y := 0
      layer := speed
      speed := speed
      velocityFp := cardVelocityFp layerIndex p.width
      imageIndex := USIZE_MAX
      raster := PreparedScreenshotCard.prepare .empty speed p.height
      active := false
      next := none
      pendingImageIndex := none }] }

end ScreenshotParade

/-! ## 4. A frame -/

namespace ScreenshotParade

variable (p : ScreenshotParade)

/-- What one received answer does, with the tile whose image has failed. -/
def receive (result : ScaleResult) : ScreenshotParade × List Nat :=
  let p := { p with scaleQueueDepth := p.scaleQueueDepth - 1 }
  match result.card with
  | .ok card =>
      match p.tiles[result.tileIndex]? with
      | none => (p, [])
      | some tile =>
          (p.setTile result.tileIndex
            { tile with pendingImageIndex := none, next := some card }, [])
  | .error _ =>
      let p := { p with failedImages := result.imageIndex :: p.failedImages }
      match p.tiles[result.tileIndex]? with
      | none => (p, [result.tileIndex])
      | some tile =>
          (p.setTile result.tileIndex { tile with pendingImageIndex := none }, [result.tileIndex])

/-- The loop of `collect_scaled_cards`, with the cards it may still adopt. -/
def collect : Nat → ScreenshotParade → List Nat → ScreenshotParade × List Nat
  | 0, p, failedTiles => (p, failedTiles)
  | limit + 1, p, failedTiles =>
      match p.results with
      | result :: results =>
          let (p, failed) := { p with results }.receive result
          collect limit p (failedTiles ++ failed)
      | [] =>
          if p.workerRuns then (p, failedTiles)
          else ({ p with scaleWorkerConnected := false }, failedTiles)

/-- Without a worker nothing is waited for. -/
def forgetPending : ScreenshotParade :=
  if p.scaleWorkerConnected then p
  else
    { p with
      scaleQueueDepth := 0
      tiles := p.tiles.map fun tile => { tile with pendingImageIndex := none } }

def queueSuccessors (tileIndexes : List Nat) : ScreenshotParade :=
  tileIndexes.foldl queueSuccessor p

def collectScaledCards (limit : Nat) : ScreenshotParade :=
  let (p, failedTiles) := collect limit p []
  p.forgetPending.queueSuccessors failedTiles

/-- A tile after the motion of a frame. -/
def moved (tickDelta : Nat) (tile : Tile) : Tile :=
  if tile.active then
    let motion := saturateI64 (tile.velocityFp * (tickDelta / TICK_ONE : Nat))
    let tile := { tile with xFp := saturateI64 (tile.xFp + motion) }
    { tile with active := tile.x < p.width }
  else tile

def moveTiles (tickDelta : Nat) : ScreenshotParade :=
  let exited := (p.tiles.zipIdx.filter fun (tile, _) =>
    tile.active && !(p.moved tickDelta tile).active).map Prod.snd
  { p with tiles := p.tiles.map (p.moved tickDelta) }.queueSuccessors exited

/-- The empty tile that a layer below its target gets when none of its tiles waits. -/
def growLayer (layerIndex : Nat) : ScreenshotParade :=
  let speed := MIN_TILE_SPEED + layerIndex
  let layerTileCount := p.tiles.countP (·.layer = speed)
  let hasWaitingTile := p.tiles.any fun tile =>
    tile.layer = speed && !tile.active && (tile.next.isSome || tile.pendingImageIndex.isSome)
  if layerTileCount < p.target layerIndex && !hasWaitingTile then
    (p.pushEmptyTile layerIndex).queueSuccessor p.tiles.length
  else p

def spawn (nominalFrame layerIndex : Nat) : ScreenshotParade :=
  if nominalFrame < (p.layer layerIndex).nextSpawnFrame then p
  else
    let speed := MIN_TILE_SPEED + layerIndex
    match p.tiles.zipIdx.find? fun (tile, _) =>
      tile.layer = speed && !tile.active && tile.next.isSome with
    | none => p
    | some (tile, tileIndex) =>
        match tile.next with
        | none => p
        | some next =>
            let x : Int := -next.raster.width
            match (p.setTile tileIndex { tile with next := none }).randomTileY x next.raster.width
              next.raster.height speed tileIndex with
            | (none, p) =>
                let p := p.setTile tileIndex { tile with next := some next }
                { p with
                  layers := p.layers.set layerIndex
                    { p.layer layerIndex with nextSpawnFrame := nominalFrame + 1 } }
            | (some y, p) =>
                let p := p.setTile tileIndex
                  { tile with
                    next := none
                    xFp := x * PARADE_SUBPIXEL_ONE
                    y := y
                    imageIndex := next.imageIndex
                    raster := next.raster
                    active := true }
                let (interval, p) := p.jitteredInterval (p.layer layerIndex).intervalFrames
                { p with
                  layers := p.layers.set layerIndex
                    { p.layer layerIndex with
                      nextSpawnFrame := nominalFrame + interval } }.growLayer layerIndex

def advance (motionTicksFp tickDelta : Nat) : ScreenshotParade :=
  let nominalFrame := motionTicksFp / TICK_ONE
  let p := p.collectScaledCards MAX_CARD_ADOPTIONS_PER_FRAME
  let p := p.moveTiles tickDelta
  (List.range SPEED_COUNT).foldl (fun p layerIndex => p.spawn nominalFrame layerIndex) p

def renderAtMotionTicks (pixels motionTicksFp : Nat) : Except String ScreenshotParade :=
  if pixels ≠ p.outputLen then
    .error ("screenshot parade target has " ++ toString pixels ++ " pixels, expected " ++
      toString p.outputLen)
  else if motionTicksFp < p.previousMotionTicksFp then
    .error "screenshot parade motion clock must be monotonic"
  else
    let delta := motionTicksFp - p.previousMotionTicksFp
    if I64_MAX < delta then .error "screenshot parade motion clock step overflowed"
    else .ok ({ p with previousMotionTicksFp := motionTicksFp }.advance motionTicksFp delta)

def renderAt (pixels elapsed : Nat) : Except String ScreenshotParade :=
  if elapsed < p.lastElapsed then
    .error "screenshot parade elapsed time must be monotonic"
  else do
    let p ← p.renderAtMotionTicks pixels (tickDeltaFp elapsed)
    .ok { p with lastElapsed := elapsed }

def renderAtPresentationTick (pixels presentationTick : Nat) : Except String ScreenshotParade :=
  if presentationTick * TICK_ONE ≤ 2 ^ 64 - 1 then
    p.renderAtMotionTicks pixels (presentationTick * TICK_ONE)
  else .error "screenshot parade presentation tick overflowed"

/-! ## 5. The worker -/

/-- The worker's preparation of a job whose image it has loaded or not. -/
def ScaleJob.prepare (job : ScaleJob) (pixels : Except String ScreenshotImage) : ScaleResult :=
  ⟨job.tileIndex, job.imageIndex, pixels.map fun source =>
    ⟨job.imageIndex, .prepareTimed source job.speed job.screenHeight job.phases⟩⟩

/-- The worker answers the earliest job. -/
def answer (pixels : Except String ScreenshotImage) : ScreenshotParade :=
  match p.jobs with
  | [] => p
  | job :: jobs => { p with jobs, results := p.results ++ [ScaleJob.prepare job pixels] }

/-- The worker ends: both channels lose their other side, and the jobs left in one are lost. -/
def endWorker : ScreenshotParade := { p with workerRuns := false, jobs := [] }

/-! ## 6. Construction -/

def beginLayer (p : ScreenshotParade) (layerIndex : Nat) : Except String ScreenshotParade := do
  let speed := MIN_TILE_SPEED + layerIndex
  let velocityFp := cardVelocityFp layerIndex p.width
  let intervalFrames ← layerIntervalFrames p.width (depthStyle speed p.height).1 velocityFp
    (p.target layerIndex)
  let p := { p with layers := p.layers.set layerIndex ⟨layerIndex * 12, intervalFrames⟩ }
  .ok ((p.pushEmptyTile layerIndex).queueSuccessor p.tiles.length)

def beginStreaming : Except String ScreenshotParade :=
  (List.range SPEED_COUNT).reverse.foldlM beginLayer p

/-- The loop of `prepare_archive_card`, with the images it may still try and what the worker makes
    of the jobs to come. -/
def prepareArchiveCard (tileIndex speed : Nat) :
    Nat → ScreenshotParade → List (Except String ScreenshotImage) →
      Except String (Option PreparedCard × ScreenshotParade × List (Except String ScreenshotImage))
  | 0, p, outcomes => .ok (none, p, outcomes)
  | left + 1, p, outcomes =>
      match p.nextImageFor tileIndex with
      | (none, p) => .ok (none, p, outcomes)
      | (some imageIndex, p) => do
          let p ← p.sendScaleJob tileIndex imageIndex speed
          match outcomes with
          | [] => .error "screenshot parade scale worker disconnected"
          | pixels :: outcomes =>
              let p := p.answer pixels
              match p.results with
              | [] => .error "screenshot parade scale worker disconnected"
              | result :: results =>
                  let p := { p with results, scaleQueueDepth := p.scaleQueueDepth - 1 }
                  match result.card with
                  | .ok card => .ok (some card, p, outcomes)
                  | .error _ =>
                      prepareArchiveCard tileIndex speed left
                        { p with failedImages := result.imageIndex :: p.failedImages } outcomes

/-- The tiles of one layer of the initial population, with the ranks still to fill. -/
def populateLayer (speed phase intervalFrames : Nat) (velocityFp : Int) (target : Nat) :
    Nat → ScreenshotParade → List (Except String ScreenshotImage) →
      Except String (ScreenshotParade × List (Except String ScreenshotImage))
  | 0, p, outcomes => .ok (p, outcomes)
  | left + 1, p, outcomes => do
      let rank := target - (left + 1)
      let tileIndex := p.tiles.length
      match ← prepareArchiveCard tileIndex speed p.assetKeys p outcomes with
      | (none, p, outcomes) => .ok (p, outcomes)
      | (some card, p, outcomes) =>
          let framesUntilExit := phase + rank * intervalFrames
          let xFp := p.width * PARADE_SUBPIXEL_ONE - framesUntilExit * velocityFp
          let x := xFp / PARADE_SUBPIXEL_ONE
          let (y, p) := p.randomTileY x card.raster.width card.raster.height speed tileIndex
          let y := y.getD (-(card.raster.height * 2 / 3 : Nat))
          let active := p.placementIsClear x y card.raster.width card.raster.height speed tileIndex
          let tile : Tile :=
            ⟨xFp, y, speed, speed, velocityFp, card.imageIndex, card.raster, active, none, none⟩
          populateLayer speed phase intervalFrames velocityFp target left
            { p with tiles := p.tiles ++ [tile] } outcomes

def beginPopulation (s : ScreenshotParade × List (Except String ScreenshotImage))
    (layerIndex : Nat) :
    Except String (ScreenshotParade × List (Except String ScreenshotImage)) := do
  let (p, outcomes) := s
  let target := p.target layerIndex
  let speed := MIN_TILE_SPEED + layerIndex
  let velocityFp := cardVelocityFp layerIndex p.width
  let intervalFrames ← layerIntervalFrames p.width (depthStyle speed p.height).1 velocityFp target
  let (phase, p) := p.randomBelow intervalFrames
  let p := { p with layers := p.layers.set layerIndex ⟨phase, intervalFrames⟩ }
  populateLayer speed phase intervalFrames velocityFp target target p outcomes

def prepareInitialPopulation (outcomes : List (Except String ScreenshotImage)) :
    Except String ScreenshotParade := do
  let (p, _) ← (List.range SPEED_COUNT).foldlM beginPopulation (p, outcomes)
  if p.tiles.isEmpty then .error "screenshot archive did not yield a renderable card"
  else .ok (p.queueSuccessors (List.range p.tiles.length))

/-- The constructors, for the number of images in the archive. An offline parade waits for the
    worker, so what it makes of the first jobs comes as a list. -/
def construct (assetKeys width height : Nat) (seed : UInt64)
    (outputLayout : Rgb565OutputLayout USIZE_MAX)
    (offlinePrepared : Option (List (Except String ScreenshotImage))) :
    Except String ScreenshotParade :=
  if outputLayout.logicalWidth ≠ width ∨ outputLayout.logicalHeight ≠ height then
    .error "screenshot parade output layout does not match its logical geometry"
  else if assetKeys = 0 then .error "screenshot archive contains no RGB565 assets"
  else
    let (deck, rng) := shuffle (List.range assetKeys) seed
    let p : ScreenshotParade := {
      deck, rng, width, height, assetKeys
      outputLen := outputLayout.len
      cursor := 0
      tiles := []
      failedImages := []
      jobs := []
      results := []
      workerRuns := true
      scaleWorkerConnected := true
      scaleQueueDepth := 0
      layerTargets := Parade.layerTargets width height
      layers := List.replicate SPEED_COUNT ⟨0, 1⟩
      previousMotionTicksFp := 0
      lastElapsed := 0 }
    match offlinePrepared with
    | some outcomes => p.prepareInitialPopulation outcomes
    | none => p.beginStreaming

/-! ## 7. Events -/

/-- What happens to a parade: a render call with a time or with a tick, an answer of the worker, its
    end. -/
inductive Event where
  | renderAt (pixels elapsed : Nat)
  | renderAtPresentationTick (pixels presentationTick : Nat)
  | answer (pixels : Except String ScreenshotImage)
  | endWorker

/-- The parade after an event; a render call that fails leaves it as it is. -/
def after : Event → ScreenshotParade
  | .renderAt pixels elapsed => (p.renderAt pixels elapsed).toOption.getD p
  | .renderAtPresentationTick pixels presentationTick =>
      (p.renderAtPresentationTick pixels presentationTick).toOption.getD p
  | .answer pixels => p.answer pixels
  | .endWorker => p.endWorker

/-- The layout of a small screen. -/
def smallScreen : Rgb565OutputLayout USIZE_MAX where
  logicalWidth := 320
  logicalHeight := 240
  physicalWidth := 320
  physicalHeight := 240
  physicalStride := 320
  len := 76800
  rotation := .none
  width_pos := by decide
  height_pos := by decide
  physical := rfl
  stride := by decide
  len_eq := rfl
  fits := by decide

end ScreenshotParade

end MisterMagik.Parade
