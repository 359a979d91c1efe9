/-
  File:      MisterMagik/Host/HiddenPresenter.lean
  Subject:   The presenters of the standalone framebuffer tools
             (`framebuffer/hidden_latch.rs`). Definitions only.

  `HiddenLatchPresenter` owns the two hidden slots and posts one frame at a time;
  `CachedHiddenLatchPresenter` keeps in a ledger what each slot still owes the source of the
  caller, and has to be reopened once it does not know what the latch did.

  Not here: the mappings of the slots and their lease, the fence before a post, and the statistics
  of the pipeline.
-/
import MisterMagik.Framebuffer.CachedSlots
import MisterMagik.Framebuffer.LatchState
import MisterMagik.Host.DisplayPlan
import MisterMagik.Host.FullFrameLatch

namespace MisterMagik.Host

open MisterMagik.Base
open MisterMagik.Fpga (SlotBases Word)
open MisterMagik.Framebuffer (DirtyRect DirtyRectList PerSlot Rgb565 Rgb565FrameView SlotIndex)
open MisterMagik.Framebuffer (TwoSlotDamageLedger VerticalCopyStats VerticalRect)
open MisterMagik.Framebuffer (VerticalRgb565Transform)

/-! ## 1. The slots -/

/-- The work of a presenter: pixels of a source are copied into a slot. -/
inductive SlotWork (usizeMax : Nat) where
  | copyRect (slot : SlotIndex) (transform : VerticalRgb565Transform usizeMax)
      (source : Rgb565FrameView Rgb565) (rect : VerticalRect) (stridePixels : Nat)

def SlotWork.Res (usizeMax : Nat) (_ : SlotWork usizeMax) : Type :=
  Reads (Option VerticalCopyStats)

/-- The pixels of both slots. -/
abbrev SlotMemory := PerSlot (List Rgb565)

def baseOf (bases : SlotBases) : SlotIndex → BitVec 32
  | .slot1 => bases.base1
  | .slot2 => bases.base2

def slotWork (usizeMax : Nat) (bases : SlotBases) :
    Work (SlotWork usizeMax) (SlotWork.Res usizeMax) SlotMemory where
  target
    | .copyRect slot _ _ _ _ => some (baseOf bases slot)
  act
    | .copyRect slot transform source rect stridePixels, memory =>
        let copied := transform.copyRect source rect (memory.get slot) stridePixels
        (copied.2, memory.set slot copied.1)

def slotNumber : SlotIndex → Nat
  | .slot1 => 1
  | .slot2 => 2

/-! ## 2. Errors -/

inductive HiddenLatchError where
  | scanout (error : HiddenScanoutError)
  | transport (error : IoError)
  | unsupported (message : String)
  | noWritableSlot (message : String)
  | postNotObserved (message : String)
  | protocol (failure : LatchFailure)
  deriving DecidableEq

/-- How a call of a presenter ends without a result. -/
inductive Halt where
  | failed (error : HiddenLatchError)
  | panicked
  deriving DecidableEq

/-! ## 3. The raw presenter -/

structure HiddenLatchPresentReceipt where
  slotIndex : SlotIndex
  sequence : Word
  flipCount : Word
  postCount : Word
  dropCount : Word
  deriving DecidableEq

structure HiddenLatchPostReceipt where
  slotIndex : SlotIndex
  sequence : Word
  deriving DecidableEq

structure PendingPresentation where
  slotIndex : SlotIndex
  sequence : Word
  base : BitVec 32
  deriving DecidableEq

structure HiddenLatchPresenter where
  fpga : Fpga
  bases : SlotBases
  writableSlot : SlotIndex
  sequence : Word
  width : Word
  height : Word
  geometry : LatchedFbufGeometry
  pending : Option PendingPresentation

variable {usizeMax : Nat}

/-- What a presenter does besides exchanging words. -/
abbrev Presenting (usizeMax : Nat) (σ : Type) : Type → Type :=
  Call (DeviceOp.Res (SlotWork.Res usizeMax)) σ Halt

abbrev SlotDevice (usizeMax : Nat) (ε : Type) : Type → Type :=
  Device (SlotWork.Res usizeMax) ε

def nextSequence (sequence : Word) : Word :=
  let next := sequence + 1#16
  if next = 0#16 then 1#16 else next

def writableSlotForStatus (bases : SlotBases) (status : LatchedFbufStatus) :
    Except HiddenLatchError SlotIndex :=
  if status.pending then
    .error (.noWritableSlot ("pending sequence " ++ toString status.pendingSequence.toNat))
  else .ok (if status.activeBase = bases.base1 then .slot2 else .slot1)

def DEFAULT_SETTLE_TIMEOUT_MS : Nat := 50

/-- `polls` more polls come before the time-out. -/
def waitForSettledStatus (polls : Nat) :
    SlotDevice usizeMax HiddenLatchError LatchedFbufStatus := do
  let status ← readMagikLatchedFbufStatusSample.mapError .transport
  if !status.supported then
    Call.throw (.unsupported ("status magic " ++ hex status.magicHi ++ "/" ++ hex status.magicLo))
  else if !status.pending then pure status
  else
    match polls with
    | 0 =>
        Call.throw (.noWritableSlot
          ("pending sequence " ++ toString status.pendingSequence.toNat ++
            " did not settle within " ++ toString DEFAULT_SETTLE_TIMEOUT_MS ++ " ms"))
    | polls + 1 => waitForSettledStatus polls

def insufficientCapabilities (result : Word × Word × LatchCapabilities) : HiddenLatchError :=
  let capabilities := result.2.2
  .unsupported ("magic=" ++ hex result.1 ++ "/" ++ hex result.2.1 ++ " protocol=" ++
    toString capabilities.protocolVersion.toNat ++ " flags=" ++ hex capabilities.flags ++ " max=" ++
    toString capabilities.maxWidth.toNat ++ "x" ++ toString capabilities.maxHeight.toNat ++
    " stride=" ++ toString capabilities.maxStrideBytes.toNat)

def exceedsCapabilities (width height : Word) (strideBytes : Nat)
    (capabilities : LatchCapabilities) : HiddenLatchError :=
  .unsupported ("requested " ++ toString width.toNat ++ "x" ++ toString height.toNat ++
    " stride=" ++ toString strideBytes ++ " exceeds negotiated maximum " ++
    toString capabilities.maxWidth.toNat ++ "x" ++ toString capabilities.maxHeight.toNat ++
    " stride=" ++ toString capabilities.maxStrideBytes.toNat)

/-- The first post of a presenter has sequence 1. -/
def openWithGeometry (bases : SlotBases) (width height : Word) (geometry : LatchedFbufGeometry)
    (polls : Nat) : SlotDevice usizeMax HiddenLatchError HiddenLatchPresenter := do
  let strideBytes := rgb565StrideBytes width.toNat
  -- each of the two slots is opened with the same geometry
  let _ ← Call.ofExcept ((validateScanoutSlotsGeometryForLayout usizeMax EXPECTED_LAYOUT
    width.toNat height.toNat strideBytes).mapError .scanout)
  let result ← readMagikLatchedFbufCapabilities.mapError .transport
  if !usable result then Call.throw (insufficientCapabilities result)
  else if result.2.2.maxWidth < width ∨ result.2.2.maxHeight < height ∨
      result.2.2.maxStrideBytes.toNat < strideBytes then
    Call.throw (exceedsCapabilities width height strideBytes result.2.2)
  else do
    let initial ← waitForSettledStatus polls
    let writableSlot ← Call.ofExcept (writableSlotForStatus bases initial)
    let fpga ← Call.get
    pure { fpga, bases, writableSlot, sequence := 1#16, width, height, geometry, pending := none }

/-- `u16::try_from`. -/
def tryU16 (value : Nat) (message : String) : Except HiddenLatchError Word :=
  if value < 2 ^ 16 then .ok (BitVec.ofNat 16 value) else .error (.unsupported message)

def openForPlan (bases : SlotBases) (plan : ResolvedDisplayPlan) (polls : Nat) :
    SlotDevice usizeMax HiddenLatchError HiddenLatchPresenter := do
  let width ← Call.ofExcept (tryU16 plan.fbW
    ("framebuffer width " ++ toString plan.fbW ++ " exceeds u16"))
  let height ← Call.ofExcept (tryU16 plan.fbH
    ("framebuffer height " ++ toString plan.fbH ++ " exceeds u16"))
  let route := LauncherFramebufferRoute.forScan plan.scanW plan.scanH plan.outputRoute.isCrt
  openWithGeometry bases width height (.newForRoute width route 0) polls

/-- The status reads of a post. -/
def readLabStatus (bases : SlotBases) (width height : Word) :
    StatusReader (SlotWork.Res usizeMax) := fun budget =>
  match budget.consume with
  | none =>
      Call.throw (.runtime .postVerification .fpgaTransportFailed
        "latch status exhausted its bounded read budget")
  | some budget => do
      let status ← readMagikLatchedFbufStatusSample.mapError
        (latchStatusReadFailure .fpgaStatus)
      let strideBytes := rgb565StrideBytes width.toNat
      if status.activeEnabled &&
          (status.activeBase == bases.base1 || status.activeBase == bases.base2) &&
          (status.activeWidth != width || status.activeHeight != height ||
            status.activeStride != BitVec.ofNat 16 strideBytes) then
        Call.throw (.runtime .postVerification .activeGeometryMismatch
          ("latched framebuffer geometry mismatch active=" ++
            toString status.activeWidth.toNat ++ "x" ++ toString status.activeHeight.toNat ++
            " stride=" ++ toString status.activeStride.toNat ++ " expected=" ++
            toString width.toNat ++ "x" ++ toString height.toNat ++ " stride=" ++
            toString strideBytes))
      else pure (status, budget)

namespace HiddenLatchPresenter

def stridePixels (self : HiddenLatchPresenter) : Nat :=
  rgb565StrideBytes self.width.toNat / RGB565_BYTES_PER_PIXEL

/-- What is done on the port. -/
def onFpga {α : Type} (m : SlotDevice usizeMax HiddenLatchError α) :
    Presenting usizeMax HiddenLatchPresenter α :=
  (m.mapError .failed).zoom (·.fpga) fun fpga self => { self with fpga }

def fail {α : Type} (error : HiddenLatchError) : Presenting usizeMax HiddenLatchPresenter α :=
  Call.throw (.failed error)

/-- `writable_slot_index`, and `pixels_mut`, which asserts the same. -/
def writableSlotIndex : Presenting usizeMax HiddenLatchPresenter SlotIndex := do
  let self ← Call.get
  match self.pending with
  | some _ => Call.throw .panicked
  | none => pure self.writableSlot

def post : Presenting usizeMax HiddenLatchPresenter HiddenLatchPostReceipt := do
  let self ← Call.get
  match self.pending with
  | some pending =>
      fail (.noWritableSlot ("sequence " ++ toString pending.sequence.toNat ++
        " is still pending verification"))
  | none => do
      Call.modify fun self => { self with sequence := nextSequence self.sequence }
      let request : LatchPostRequest :=
        { sequence := self.sequence
          slotIndex := slotNumber self.writableSlot
          baseAddr := baseOf self.bases self.writableSlot
          width := self.width
          height := self.height
          geometry := self.geometry }
      let _ ← onFpga ((postConfirmPreparedFrame request
        (readLabStatus self.bases self.width self.height)).mapError .protocol)
      Call.modify fun self =>
        { self with
          pending := some
            { slotIndex := self.writableSlot
              sequence := request.sequence
              base := request.baseAddr } }
      pure { slotIndex := self.writableSlot, sequence := self.sequence }

def wrongBase (pending : PendingPresentation) (after : LatchedFbufStatus) : HiddenLatchError :=
  .postNotObserved ("posted sequence=" ++ toString pending.sequence.toNat ++ " base=0x" ++
    pending.base.toHex ++ "; active base=0x" ++ after.activeBase.toHex)

def settlePending (polls : Nat) :
    Presenting usizeMax HiddenLatchPresenter (Option HiddenLatchPresentReceipt) := do
  let self ← Call.get
  match self.pending with
  | none => pure none
  | some pending => do
      let completion ← onFpga
        ((waitForLatchCompletion pending.sequence polls).mapError .protocol)
      let after := completion.status
      if after.activeBase ≠ pending.base then fail (wrongBase pending after)
      else do
        Call.modify fun self =>
          { self with pending := none, writableSlot := self.writableSlot.other }
        pure (some
          { slotIndex := pending.slotIndex
            sequence := pending.sequence
            flipCount := after.flipCount
            postCount := after.postCount
            dropCount := after.dropCount })

def presentationTelemetry : Presenting usizeMax HiddenLatchPresenter PresentationTelemetry :=
  onFpga (readMagikPresentationTelemetry.mapError .transport)

end HiddenLatchPresenter

/-! ## 4. The cached presenter -/

structure CachedHiddenLatchCopyStats where
  slotIndex : SlotIndex
  sourceRectCount : Nat
  destinationRectCount : Nat
  sourceBytes : Nat
  destinationBytes : Nat
  fullRestore : Bool
  deriving DecidableEq

structure CachedHiddenLatchPresenter (usizeMax : Nat) where
  raw : HiddenLatchPresenter
  ledger : TwoSlotDamageLedger
  transform : VerticalRgb565Transform usizeMax
  renderWidth : Nat
  renderHeight : Nat
  preparedSlot : Option SlotIndex
  poisoned : Bool

def isFullRestore (restore : DirtyRectList) (width height : Nat) : Bool :=
  restore.iter == [⟨0, 0, width, height⟩]

namespace CachedHiddenLatchPresenter

/-- `open`: its state is the port. -/
def «open» (bases : SlotBases) (plan : ResolvedDisplayPlan) (polls : Nat) :
    SlotDevice usizeMax HiddenLatchError (CachedHiddenLatchPresenter usizeMax) := do
  let raw ← openForPlan bases plan polls
  let transform ← Call.ofExcept
    ((VerticalRgb565Transform.new usizeMax plan.renderW plan.renderH plan.fbH).mapError
      HiddenLatchError.unsupported)
  pure
    { raw
      ledger := .new plan.renderW plan.renderH
      transform
      renderWidth := plan.renderW
      renderHeight := plan.renderH
      preparedSlot := none
      poisoned := false }

abbrev Caching (usizeMax : Nat) : Type → Type :=
  Presenting usizeMax (CachedHiddenLatchPresenter usizeMax)

def onRaw {α : Type} (m : Presenting usizeMax HiddenLatchPresenter α) : Caching usizeMax α :=
  m.zoom (·.raw) fun raw self => { self with raw }

def fail {α : Type} (error : HiddenLatchError) : Caching usizeMax α := Call.throw (.failed error)

def ensureHealthy : Caching usizeMax Unit := do
  let self ← Call.get
  if self.poisoned then
    fail (.postNotObserved "cached presenter requires reopen after ambiguous latch state")
  else pure ()

def poison : Caching usizeMax Unit := Call.modify fun self => { self with poisoned := true }

def changeLedger (f : TwoSlotDamageLedger → TwoSlotDamageLedger) : Caching usizeMax Unit :=
  Call.modify fun self => { self with ledger := f self.ledger }

def needed (self : CachedHiddenLatchPresenter usizeMax) : Nat :=
  min (self.renderWidth * self.renderHeight) usizeMax

def sourceView (self : CachedHiddenLatchPresenter usizeMax) (source : List Rgb565) :
    Rgb565FrameView Rgb565 :=
  { pixels := source
    width := self.renderWidth
    height := self.renderHeight
    stridePixels := self.renderWidth }

def copyRect (slot : SlotIndex) (transform : VerticalRgb565Transform usizeMax)
    (source : Rgb565FrameView Rgb565) (rect : VerticalRect) (stridePixels : Nat) :
    Caching usizeMax (Reads (Option VerticalCopyStats)) :=
  Call.perform (DeviceOp.work (.copyRect slot transform source rect stridePixels) :
    DeviceOp (SlotWork usizeMax))

/-- The copies of a restore; the rectangles and the bytes that were copied. -/
def copyRestore (slot : SlotIndex) (transform : VerticalRgb565Transform usizeMax)
    (source : Rgb565FrameView Rgb565) (stridePixels : Nat) :
    List DirtyRect → Caching usizeMax (Nat × Nat)
  | [] => pure (0, 0)
  | rect :: rects => do
      let copied ← copyRect slot transform source (.ofDirty rect) stridePixels
      match copied with
      | .error .panic => Call.throw .panicked
      | .error (.error message) => do
          changeLedger (·.markAttemptFailed slot)
          fail (.unsupported message)
      | .ok copied => do
          let rest ← copyRestore slot transform source stridePixels rects
          match copied with
          | none => pure rest
          | some stats =>
              pure (min (rest.1 + 1) (2 ^ 32 - 1), min (rest.2 + stats.bytes) usizeMax)

def prepareCached (source : List Rgb565) (damage : DirtyRectList) :
    Caching usizeMax CachedHiddenLatchCopyStats := do
  ensureHealthy
  let self ← Call.get
  if self.preparedSlot.isSome then fail (.noWritableSlot "a cached frame is already prepared")
  else if source.length < self.needed then
    fail (.unsupported ("cached source has " ++ toString source.length ++ " pixels, need " ++
      toString self.needed))
  else do
    changeLedger (·.recordDamage damage)
    let slotIndex ← onRaw HiddenLatchPresenter.writableSlotIndex
    let self ← Call.get
    let restore := self.ledger.plan slotIndex
    let copied ← copyRestore slotIndex self.transform (self.sourceView source)
      self.raw.stridePixels restore.iter
    Call.modify fun self => { self with preparedSlot := some slotIndex }
    pure
      { slotIndex
        sourceRectCount := restore.iter.length
        destinationRectCount := copied.1
        sourceBytes := restore.totalRgb565Bytes
        destinationBytes := copied.2
        fullRestore := isFullRestore restore self.renderWidth self.renderHeight }

def wrongSlot (prepared : String) (what : String) (slot : SlotIndex) : HiddenLatchError :=
  .postNotObserved ("prepared slot " ++ prepared ++ ", " ++ what ++ " slot " ++
    toString (slotNumber slot))

def postPrepared : Caching usizeMax HiddenLatchPostReceipt := do
  ensureHealthy
  let self ← Call.get
  match self.preparedSlot with
  | none => fail (.noWritableSlot "no cached frame has been prepared")
  | some preparedSlot => do
      match ← Call.attempt (onRaw HiddenLatchPresenter.post) with
      | .ok receipt =>
          if receipt.slotIndex = preparedSlot then pure receipt
          else do
            changeLedger (·.invalidateAll)
            poison
            fail (wrongSlot (toString (slotNumber preparedSlot)) "posted" receipt.slotIndex)
      | .error error => do
          changeLedger (·.markAttemptFailed preparedSlot)
          poison
          Call.throw error

def showPrepared : Option SlotIndex → String
  | none => "None"
  | some slot => "Some(" ++ toString (slotNumber slot) ++ ")"

def settlePending (polls : Nat) : Caching usizeMax (Option HiddenLatchPresentReceipt) := do
  ensureHealthy
  match ← Call.attempt (onRaw (HiddenLatchPresenter.settlePending polls)) with
  | .ok (some receipt) => do
      let self ← Call.get
      if self.preparedSlot ≠ some receipt.slotIndex then do
        changeLedger (·.invalidateAll)
        poison
        fail (wrongSlot (showPrepared self.preparedSlot) "settled" receipt.slotIndex)
      else do
        changeLedger (·.markPresented receipt.slotIndex)
        Call.modify fun self => { self with preparedSlot := none }
        pure (some receipt)
  | .ok none => pure none
  | .error error => do
      let self ← Call.get
      match self.preparedSlot with
      | some slotIndex => changeLedger (·.markAttemptFailed slotIndex)
      | none => pure ()
      poison
      Call.throw error

def presentCached (source : List Rgb565) (damage : DirtyRectList) (polls : Nat) :
    Caching usizeMax (CachedHiddenLatchCopyStats × HiddenLatchPresentReceipt) := do
  let copy ← prepareCached source damage
  let _ ← postPrepared
  match ← settlePending polls with
  | some present => pure (copy, present)
  | none => fail (.postNotObserved "posted cached frame lost pending state")

def presentationTelemetry : Caching usizeMax PresentationTelemetry := do
  ensureHealthy
  onRaw HiddenLatchPresenter.presentationTelemetry

end CachedHiddenLatchPresenter

end MisterMagik.Host
