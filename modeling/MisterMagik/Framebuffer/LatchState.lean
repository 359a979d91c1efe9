/-
  File:      MisterMagik/Framebuffer/LatchState.lean
  Subject:   `TwoBufferLatchState`: what each hidden slot holds, and the plan of the next frame
             (`framebuffer/latch_state.rs`). Definitions, and what each call does to each field.

  A publication is built by `captureOwned` and `forFrame` only; its private fields carry what
  these check, so a publication whose update misses its rectangle cannot be built here either.
  `planNext` returns the state beside the result, because a rejected call may still have changed
  it: the checks of the publications come before the damage is recorded, the choice of a slot
  after it.
-/
import MisterMagik.Framebuffer.DamageLedger

namespace MisterMagik.Framebuffer

/-! ## 1. Layers, updates and publications -/

/-- `Rgb565Pixel`. -/
abbrev Rgb565 := BitVec 16

inductive PhysicalLayerRole where
  | preview
  | arcade
  deriving DecidableEq, Repr

/-- An array `[T; PhysicalLayerRole::COUNT]` indexed by `role.index()`. -/
structure PerRole (α : Type) where
  preview : α
  arcade : α
  deriving DecidableEq, Repr

namespace PerRole

variable {α β : Type}

def both (a : α) : PerRole α := ⟨a, a⟩

def get (s : PerRole α) : PhysicalLayerRole → α
  | .preview => s.preview
  | .arcade => s.arcade

def set (s : PerRole α) (role : PhysicalLayerRole) (a : α) : PerRole α :=
  match role with
  | .preview => { s with preview := a }
  | .arcade => { s with arcade := a }

def map (f : α → β) (s : PerRole α) : PerRole β := ⟨f s.preview, f s.arcade⟩

@[simp] theorem get_both (a : α) (r : PhysicalLayerRole) : (both a).get r = a := by cases r <;> rfl

@[simp] theorem get_map (f : α → β) (s : PerRole α) (r : PhysicalLayerRole) :
    (s.map f).get r = f (s.get r) := by cases r <;> rfl

end PerRole

/-- `i64` components; the source only subtracts them, saturating. -/
structure LayerOffset where
  x : Int
  y : Int
  deriving DecidableEq, Repr

def LayerOffset.ZERO : LayerOffset := ⟨0, 0⟩

structure PhysicalLayerState where
  rect : DirtyRect
  version : Nat
  contentOffset : LayerOffset
  deriving DecidableEq, Repr

inductive PhysicalLayerUpdate where
  | full (rect : DirtyRect)
  | scroll (deltaX deltaY : Int) (rect : DirtyRect) (repairRect : Option DirtyRect)
  deriving DecidableEq, Repr

namespace PhysicalLayerUpdate

def dirtyRect : PhysicalLayerUpdate → DirtyRect
  | full rect => rect
  | scroll _ _ rect _ => rect

def repairRect : PhysicalLayerUpdate → Option DirtyRect
  | full _ => none
  | scroll _ _ _ repair => repair

def isFull : PhysicalLayerUpdate → Bool
  | full _ => true
  | scroll .. => false

@[simp] theorem dirtyRect_full (r : DirtyRect) : (full r).dirtyRect = r := rfl

@[simp] theorem dirtyRect_scroll (dx dy : Int) (r : DirtyRect) (rp : Option DirtyRect) :
    (scroll dx dy r rp).dirtyRect = r := rfl

end PhysicalLayerUpdate

/-- `PhysicalLayerBacking`: dense rows over a non-empty rectangle (`from_dense_pixels`). -/
structure PhysicalLayerBacking where
  rect : DirtyRect
  pixels : List Rgb565
  nonempty : rect.isEmpty = false
  dense : pixels.length = rect.width * (rect.y1 - rect.y0)

/-- The pixel of the backing at a place of the surface; only read inside `rect`. -/
def PhysicalLayerBacking.at (b : PhysicalLayerBacking) (p : Pixel) : Rgb565 :=
  b.pixels.getD ((p.2 - b.rect.y0) * b.rect.width + (p.1 - b.rect.x0)) 0

/-- What a slot remembers of a publication it shows. -/
@[ext] structure PhysicalLayerPublicationIdentity where
  role : PhysicalLayerRole
  layoutGeneration : Nat
  layoutEpoch : Nat
  contentGeneration : Nat
  deriving DecidableEq, Repr

/-- `PhysicalLayerPublication`; the proof fields are the checks of `captureOwned`. -/
structure PhysicalLayerPublication where
  role : PhysicalLayerRole
  layoutGeneration : Nat
  layoutEpoch : Nat
  contentGeneration : Nat
  state : PhysicalLayerState
  update : Option PhysicalLayerUpdate
  backing : PhysicalLayerBacking
  generations : layoutGeneration ≠ 0 ∧ layoutEpoch ≠ 0 ∧ contentGeneration ≠ 0
  backing_rect : state.rect = backing.rect
  update_rect : ∀ u, update = some u → u.dirtyRect = state.rect

namespace PhysicalLayerPublication

def captureOwned (role : PhysicalLayerRole) (layoutGeneration layoutEpoch contentGeneration : Nat)
    (state : PhysicalLayerState) (update : Option PhysicalLayerUpdate)
    (backing : PhysicalLayerBacking) : Option PhysicalLayerPublication :=
  if hg : layoutGeneration ≠ 0 ∧ layoutEpoch ≠ 0 ∧ contentGeneration ≠ 0 then
    if hb : state.rect = backing.rect then
      if hu : ∀ u ∈ update, u.dirtyRect = state.rect then
        some { role, layoutGeneration, layoutEpoch, contentGeneration, state, update, backing,
               generations := hg, backing_rect := hb,
               update_rect := fun u e => hu u (Option.mem_def.mpr e) }
      else none
    else none
  else none

def forFrame (self : PhysicalLayerPublication) (state : PhysicalLayerState)
    (update : Option PhysicalLayerUpdate) : Option PhysicalLayerPublication :=
  if hs : state.rect = self.state.rect then
    if hu : ∀ u ∈ update, u.dirtyRect = state.rect then
      some { self with
        state, update
        backing_rect := hs.trans self.backing_rect
        update_rect := fun u e => hu u (Option.mem_def.mpr e) }
    else none
  else none

/-- `From<&PhysicalLayerPublication> for PhysicalLayerPublicationIdentity`. -/
def identity (p : PhysicalLayerPublication) : PhysicalLayerPublicationIdentity :=
  ⟨p.role, p.layoutGeneration, p.layoutEpoch, p.contentGeneration⟩

end PhysicalLayerPublication

/-! ## 2. Frame plans -/

inductive PhysicalLayerOwnership where
  | cached
  | published
  deriving DecidableEq, Repr

structure PhysicalLayerFrame where
  desired : Option PhysicalLayerState
  update : Option PhysicalLayerUpdate
  publication : Option PhysicalLayerPublication
  ownership : PhysicalLayerOwnership

def PhysicalLayerFrame.cached (desired : Option PhysicalLayerState)
    (update : Option PhysicalLayerUpdate) : PhysicalLayerFrame :=
  { desired, update, publication := none, ownership := .cached }

/-- `published`; the source checks the role in debug builds only, `planNext` checks it always. -/
def PhysicalLayerFrame.published (publication : Option PhysicalLayerPublication) :
    PhysicalLayerFrame :=
  { desired := publication.map (·.state)
    update := publication.bind (·.update)
    publication
    ownership := .published }

structure LatchFramePlan where
  cachedDamage : DirtyRectList
  layers : PerRole PhysicalLayerFrame

namespace LatchFramePlan

def fromCachedLayers (cachedDamage : DirtyRectList) (previewDesired : Option PhysicalLayerState)
    (previewDirty : Option DirtyRect) (arcadeDesired : Option PhysicalLayerState)
    (arcadeDirty : Option PhysicalLayerUpdate) : LatchFramePlan :=
  { cachedDamage
    layers :=
      { preview := .cached previewDesired (previewDirty.map .full)
        arcade := .cached arcadeDesired arcadeDirty } }

def fromPublications (cachedDamage : DirtyRectList)
    (preview arcade : Option PhysicalLayerPublication) : LatchFramePlan :=
  { cachedDamage
    layers := { preview := .published preview, arcade := .published arcade } }

def fromPreviewPublicationAndCachedArcade (cachedDamage : DirtyRectList)
    (preview : Option PhysicalLayerPublication) (arcadeDesired : Option PhysicalLayerState)
    (arcadeDirty : Option PhysicalLayerUpdate) : LatchFramePlan :=
  { cachedDamage
    layers := { preview := .published preview, arcade := .cached arcadeDesired arcadeDirty } }

end LatchFramePlan

structure LatchPresentPlan where
  slotIndex : SlotIndex
  restoreRects : DirtyRectList
  previewRedraw : Option DirtyRect
  arcadeRedraw : Option PhysicalLayerUpdate
  arcadeRedrawDiffSafe : Bool
  previewAfter : Option PhysicalLayerState
  arcadeAfter : Option PhysicalLayerState
  deriving DecidableEq

inductive LatchPlanError where
  | publicationMismatch (role : PhysicalLayerRole)
  | stalePublication (role : PhysicalLayerRole)
      (latestLayoutEpoch latestContentGeneration : Nat)
      (offeredLayoutEpoch offeredContentGeneration : Nat)
  | noWritableSlot
  deriving DecidableEq, Repr

/-! ## 3. The decisions of `plan_for_slot` -/

/-- The pointer width of the ARMv7 device: `isize` is 32 bits wide. -/
def ISIZE_MIN : Int := -(2 ^ 31)

def ISIZE_MAX : Int := 2 ^ 31 - 1

/-- `i64::saturating_sub`. -/
def saturatingSub (a b : Int) : Int := max (-(2 ^ 63)) (min (2 ^ 63 - 1) (a - b))

def clampIsize (v : Int) : Int := max ISIZE_MIN (min ISIZE_MAX v)

def directLayerNeedsRestore (current desired : Option PhysicalLayerState) : Bool :=
  match current with
  | none => false
  | some current =>
      match desired with
      | some desired => !(desired.rect == current.rect && desired.version == current.version)
      | none => true

def directLayerRedrawRect (current desired : Option PhysicalLayerState) (dirty : Option DirtyRect)
    (intersectsRestore publicationChanged : Bool) : Option DirtyRect :=
  match desired with
  | none => none
  | some desired =>
      if current != some desired || intersectsRestore || publicationChanged then
        some desired.rect
      else dirty

def directLayerRedrawUpdate (current desired : Option PhysicalLayerState)
    (dirty : Option PhysicalLayerUpdate) (intersectsRestore publicationRequiresFull : Bool) :
    Option PhysicalLayerUpdate :=
  match desired with
  | none => none
  | some desired =>
      if publicationRequiresFull then some (.full desired.rect)
      -- a content replacement supersedes the scroll catch-up of an older slot
      else if dirty.any (·.isFull) then some (.full desired.rect)
      else match current with
        | none => some (.full desired.rect)
        | some current =>
            if current.rect != desired.rect || current.version != desired.version then
              some (.full desired.rect)
            else if current.contentOffset != desired.contentOffset then
              some (.scroll
                (clampIsize (saturatingSub desired.contentOffset.x current.contentOffset.x))
                (clampIsize (saturatingSub desired.contentOffset.y current.contentOffset.y))
                desired.rect (dirty.bind (·.repairRect)))
            else if intersectsRestore then some (.full desired.rect)
            else dirty

def layerIntersectsRestore (layer : Option PhysicalLayerState) (restoreRects : DirtyRectList) :
    Bool :=
  layer.any fun layer =>
    restoreRects.iter.any fun restore => (restore.intersection layer.rect).isSome

def samePublicationIdentity (retained : Option PhysicalLayerPublicationIdentity)
    (desired : Option PhysicalLayerPublication) : Bool :=
  match retained, desired with
  | none, none => true
  | some retained, some desired =>
      retained.role == desired.role && retained.layoutGeneration == desired.layoutGeneration &&
        retained.layoutEpoch == desired.layoutEpoch &&
        retained.contentGeneration == desired.contentGeneration
  | _, _ => false

def publicationMatches (desired : Option PhysicalLayerState) (update : Option PhysicalLayerUpdate)
    (publication : Option PhysicalLayerPublication) (role : PhysicalLayerRole) : Bool :=
  match desired, publication with
  | none, none => true
  | some desired, some publication =>
      publication.role == role && publication.state == desired && publication.update == update
  | _, _ => false

def layerPublicationMatches (layer : PhysicalLayerFrame) (role : PhysicalLayerRole) : Bool :=
  match layer.ownership with
  | .cached => layer.publication.isNone
  | .published => publicationMatches layer.desired layer.update layer.publication role

/-- `first_publication_mismatch`: the roles in the order of `PhysicalLayerRole::ALL`. -/
def firstPublicationMismatch (input : LatchFramePlan) : Option PhysicalLayerRole :=
  [PhysicalLayerRole.preview, .arcade].find? fun role =>
    !layerPublicationMatches (input.layers.get role) role

def pushWithoutCoveredRect (target : DirtyRectList) (rect : DirtyRect) : DirtyRectList :=
  if target.iter.any (·.contains rect) then target else target.push rect

/-! ## 4. The state -/

inductive LatchSlotHardwareState where
  | unknown
  | writable
  | pending (sequence : BitVec 16)
  | active (sequence : BitVec 16)
  deriving DecidableEq, Repr

structure LatchSlotCoherency where
  layers : PerRole (Option PhysicalLayerState)
  hardware : LatchSlotHardwareState
  deriving DecidableEq, Repr

/-- `TwoBufferLatchState`. -/
structure TwoBufferLatchState where
  slots : PerSlot LatchSlotCoherency
  baseDamage : TwoSlotDamageLedger
  nextSlotIndex : SlotIndex
  plannedPublications : PerRole (Option PhysicalLayerPublication)
  slotPublications : PerSlot (PerRole (Option PhysicalLayerPublicationIdentity))
  latestPublicationGeneration : PerRole (Option (Nat × Nat))

/-- A layer the slot holds whose place or version the frame changes is restored first. -/
def pushLayerRestore (restoreRects : DirtyRectList) (current desired : Option PhysicalLayerState) :
    DirtyRectList :=
  match current with
  | some current =>
      if directLayerNeedsRestore (some current) desired then
        pushWithoutCoveredRect restoreRects current.rect
      else restoreRects
  | none => restoreRects

namespace TwoBufferLatchState

def new (width height : Nat) : TwoBufferLatchState :=
  { slots := .both { layers := .both none, hardware := .unknown }
    baseDamage := .new width height
    nextSlotIndex := .slot1
    plannedPublications := .both none
    slotPublications := .both (.both none)
    latestPublicationGeneration := .both none }

def slot (self : TwoBufferLatchState) (k : SlotIndex) : LatchSlotCoherency := self.slots.get k

def invalidateAll (self : TwoBufferLatchState) : TwoBufferLatchState :=
  { slots := .both { layers := .both none, hardware := .unknown }
    baseDamage := self.baseDamage.invalidateAll
    nextSlotIndex := .slot1
    plannedPublications := .both none
    slotPublications := .both (.both none)
    latestPublicationGeneration := .both none }

def syncHardware (self : TwoBufferLatchState) (activeSlotIndex : Option SlotIndex)
    (activeSequence : BitVec 16) (pending : Bool) (pendingSequence : BitVec 16) :
    TwoBufferLatchState :=
  if pending then
    { self with slots := self.slots.map fun s => { s with hardware := .pending pendingSequence } }
  else
    let slots := self.slots.map fun s => { s with hardware := .writable }
    match activeSlotIndex with
    | some k =>
        { self with
          slots := slots.set k { slots.get k with hardware := .active activeSequence } }
    | none => { self with slots }

def slotIsWritable (self : TwoBufferLatchState) (k : SlotIndex) : Bool :=
  (self.slot k).hardware == .writable

def selectWritableSlot (self : TwoBufferLatchState) : Option SlotIndex :=
  if (self.slot self.nextSlotIndex).hardware == .writable then some self.nextSlotIndex
  else
    let other := self.nextSlotIndex.other
    if (self.slot other).hardware == .writable then some other else none

def writableSlotIndex (self : TwoBufferLatchState) : Option SlotIndex := self.selectWritableSlot

/-- Tuples are compared as Rust compares them: the layout epoch first. -/
def publicationStale (self : TwoBufferLatchState) (p : PhysicalLayerPublication) :
    Option LatchPlanError :=
  match self.latestPublicationGeneration.get p.role with
  | none => none
  | some latest =>
      if p.layoutEpoch < latest.1 ∨
          (p.layoutEpoch = latest.1 ∧ p.contentGeneration < latest.2) then
        some (.stalePublication p.role latest.1 latest.2 p.layoutEpoch p.contentGeneration)
      else none

def stalePublicationError (self : TwoBufferLatchState) (input : LatchFramePlan) :
    Option LatchPlanError :=
  ([input.layers.preview, input.layers.arcade].filterMap (·.publication)).findSome?
    self.publicationStale

/-- The first half of `plan_for_slot`: the debt of the slot and the layers it has to give up. -/
def restoreRectsFor (self : TwoBufferLatchState) (k : SlotIndex) (input : LatchFramePlan) :
    DirtyRectList :=
  let slot := self.slot k
  let restoreRects := self.baseDamage.plan k
  let restoreRects := pushLayerRestore restoreRects slot.layers.preview input.layers.preview.desired
  pushLayerRestore restoreRects slot.layers.arcade input.layers.arcade.desired

/-- The slot shows another publication than the frame's. -/
def publicationChanged (self : TwoBufferLatchState) (k : SlotIndex) (role : PhysicalLayerRole)
    (layer : PhysicalLayerFrame) : Bool :=
  layer.ownership == .published &&
    !samePublicationIdentity ((self.slotPublications.get k).get role) layer.publication

def planForSlot (self : TwoBufferLatchState) (k : SlotIndex) (input : LatchFramePlan) :
    LatchPresentPlan :=
  let slot := self.slot k
  let preview := input.layers.preview
  let arcade := input.layers.arcade
  let restoreRects := self.restoreRectsFor k input
  let previewIntersectsRestore := layerIntersectsRestore preview.desired restoreRects
  let arcadeIntersectsRestore := layerIntersectsRestore arcade.desired restoreRects
  let previewPublicationChanged := self.publicationChanged k .preview preview
  let arcadePublicationChanged := self.publicationChanged k .arcade arcade
  let arcadePublicationRequiresFull := arcadePublicationChanged && arcade.update.isNone
  let previewRedraw := directLayerRedrawRect slot.layers.preview preview.desired
    (preview.update.map (·.dirtyRect)) previewIntersectsRestore previewPublicationChanged
  let arcadeRedraw := directLayerRedrawUpdate slot.layers.arcade arcade.desired arcade.update
    arcadeIntersectsRestore arcadePublicationRequiresFull
  let arcadeRedrawDiffSafe := !arcadeIntersectsRestore && !arcadePublicationRequiresFull &&
    slot.layers.arcade.any fun current => arcade.desired.any fun desired =>
      current.rect == desired.rect && current.version == desired.version
  let directRedraws := (DirtyRectList.new.pushIfSome previewRedraw).pushIfSome
    (arcadeRedraw.map (·.dirtyRect))
  { slotIndex := k
    restoreRects := subtractDirtyRects restoreRects directRedraws
    previewRedraw
    arcadeRedraw
    arcadeRedrawDiffSafe
    previewAfter := preview.desired
    arcadeAfter := arcade.desired }

/-- The loop over the planned publications that moves `latest_publication_generation`. -/
def noteLatest (latest : PerRole (Option (Nat × Nat))) (p : Option PhysicalLayerPublication) :
    PerRole (Option (Nat × Nat)) :=
  match p with
  | some p => latest.set p.role (some (p.layoutEpoch, p.contentGeneration))
  | none => latest

def planNext (self : TwoBufferLatchState) (input : LatchFramePlan) :
    TwoBufferLatchState × Except LatchPlanError LatchPresentPlan :=
  match firstPublicationMismatch input with
  | some role => (self, .error (.publicationMismatch role))
  | none =>
      match self.stalePublicationError input with
      | some error => (self, .error error)
      | none =>
          let self := { self with baseDamage := self.baseDamage.recordDamage input.cachedDamage }
          match self.selectWritableSlot with
          | none => (self, .error .noWritableSlot)
          | some k =>
              let planned := input.layers.map (·.publication)
              let self := { self with
                plannedPublications := planned
                latestPublicationGeneration :=
                  noteLatest (noteLatest self.latestPublicationGeneration planned.preview)
                    planned.arcade }
              (self, .ok (self.planForSlot k input))

def markPostSuccess (self : TwoBufferLatchState) (plan : LatchPresentPlan) : TwoBufferLatchState :=
  { self with
    baseDamage := self.baseDamage.markPresented plan.slotIndex
    slots := self.slots.set plan.slotIndex
      { layers := ⟨plan.previewAfter, plan.arcadeAfter⟩, hardware := .unknown }
    slotPublications := self.slotPublications.set plan.slotIndex
      (self.plannedPublications.map fun p => p.map (·.identity))
    plannedPublications := .both none
    nextSlotIndex := plan.slotIndex.other }

def markAttemptFailed (self : TwoBufferLatchState) (k : SlotIndex) : TwoBufferLatchState :=
  { self with
    baseDamage := self.baseDamage.markAttemptFailed k
    slots := self.slots.set k { layers := .both none, hardware := .unknown }
    plannedPublications := .both none
    slotPublications := self.slotPublications.set k (.both none) }

/-- `restore_bytes_for_slot`: the estimate the source takes before a frame is known. -/
def restoreBytesForSlot (self : TwoBufferLatchState) (k : SlotIndex) : Nat :=
  let addLayer (restoreRects : DirtyRectList) (layer : Option PhysicalLayerState) :=
    match layer with
    | some layer =>
        restoreRects.extendFrom (subtractDirtyRects (.fromOne layer.rect) restoreRects)
    | none => restoreRects
  let layers := (self.slot k).layers
  (addLayer (addLayer (self.baseDamage.plan k) layers.preview) layers.arcade).totalRgb565Bytes

end TwoBufferLatchState

end MisterMagik.Framebuffer
