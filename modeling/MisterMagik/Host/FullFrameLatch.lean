/-
  File:      MisterMagik/Host/FullFrameLatch.lean
  Subject:   Posting a prepared frame and confirming it
             (`mister/platform/runtime/src/framebuffer/full_frame_latch.rs`). Definitions only.

  A post holds the lock of the bus for the status in front of it, the SET command, its receipt and
  the statuses behind it. The clock of `wait_for_latch_completion` is a number of polls: it is one
  program for every number of polls the time-out allows.
-/
import MisterMagik.Host.Device

namespace MisterMagik.Host

open MisterMagik.Base
open MisterMagik.Fpga (Word)

variable {C : Type} {A : C → Type}

structure LatchPostRequest where
  sequence : Word
  slotIndex : Nat
  baseAddr : BitVec 32
  width : Word
  height : Word
  geometry : LatchedFbufGeometry
  deriving DecidableEq

structure LatchPostReceipt where
  status : LatchedFbufStatus
  statusReads : Nat
  setSupported : Bool
  statusSupported : Bool
  receiptCrc : Word
  deriving DecidableEq

/-! ## 1. The budget of status reads -/

structure LogicalStatusReadBudget where
  reads : Nat
  deriving DecidableEq

namespace LogicalStatusReadBudget

def MAX_READS : Nat := 3

def new : LogicalStatusReadBudget := ⟨0⟩

def consume (self : LogicalStatusReadBudget) : Option LogicalStatusReadBudget :=
  if MAX_READS ≤ self.reads then none else some ⟨self.reads + 1⟩

def exhausted (self : LogicalStatusReadBudget) : Bool := MAX_READS ≤ self.reads

end LogicalStatusReadBudget

/-- The `read_status` a post is given: a status, and what is left of the budget. -/
abbrev StatusReader {C : Type} (A : C → Type) : Type :=
  LogicalStatusReadBudget → Device A LatchFailure (LatchedFbufStatus × LogicalStatusReadBudget)

def latchStatusReadFailure (stage : LatchFailureStage) (error : IoError) : LatchFailure :=
  .runtime stage .fpgaTransportFailed error.message

/-! ## 2. Posting -/

def postedSequenceObserved (status : LatchedFbufStatus) (sequence : Word) : Bool :=
  status.activeSequence == sequence || (status.pending && status.pendingSequence == sequence)

/-- The loop of `read_post_status`; a reader that consumes its budget ends it before the fuel is
    used up. -/
def readPostStatusLoop (sequence : Word) (readStatus : StatusReader A) :
    Nat → LatchedFbufStatus × LogicalStatusReadBudget →
      Device A LatchFailure (LatchedFbufStatus × LogicalStatusReadBudget)
  | 0, sample => pure sample
  | fuel + 1, sample =>
      if sample.2.exhausted then pure sample
      else if !sample.1.supported || postedSequenceObserved sample.1 sequence then pure sample
      else do
        let next ← readStatus sample.2
        readPostStatusLoop sequence readStatus fuel next

def readPostStatus (sequence : Word) (readStatus : StatusReader A) :
    Device A LatchFailure (LatchedFbufStatus × LogicalStatusReadBudget) := do
  let sample ← readStatus .new
  readPostStatusLoop sequence readStatus LogicalStatusReadBudget.MAX_READS sample

/-- What a failure behind a post is sent with; a rejection is looked up, and not finding it out is
    no failure of its own. -/
def withPostFailureEvidence (failure : LatchFailure) (status : LatchedFbufStatus) :
    Device A LatchFailure LatchFailure := do
  let failure := failure.withStatusObservation status
  if status.rejectionReason ≠ 0#8 then do
    match ← Call.attempt (readMagikLatchedFbufRejectionDiagnostics (A := A)) with
    | .ok (some observation) => pure (failure.withRejectionObservation observation)
    | _ => pure failure
  else pure failure

def failPost {α : Type} (failure : LatchFailure) (status : LatchedFbufStatus) :
    Device A LatchFailure α := do
  let failure ← withPostFailureEvidence failure status
  Call.throw failure

def bit (b : Bool) : String := if b then "1" else "0"

/-- The slot may no longer be posted. -/
def slotTaken (request : LatchPostRequest) (status : LatchedFbufStatus) : Bool :=
  status.pending || (status.activeEnabled && status.activeBase == request.baseAddr)

def slotTakenFailure (request : LatchPostRequest) : LatchFailure :=
  .runtime .postVerification .noWritableHiddenBuffer
    ("slot " ++ toString request.slotIndex ++
      " became active or pending inside locked transaction")

def unsupportedCore (setSupported : Bool) (post : LatchedFbufPostAttempt)
    (status : LatchedFbufStatus) : LatchFailure :=
  .incompatible .fpgaStatus .fpgaStatusUnsupported
    ("unsupported latch core set_supported=" ++ bit setSupported ++ " status_supported=" ++
      bit status.supported ++ " ack_high=" ++ hex post.ackHigh ++ " ack_low=" ++ hex post.ackLow ++
      " status_high=" ++ hex status.magicHi ++ " status_low=" ++ hex status.magicLo)

def sequenceUnverified (sequence : Word) (status : LatchedFbufStatus) : LatchFailure :=
  .runtime .postVerification .postedSequenceUnverified
    ("posted=" ++ toString sequence.toNat ++ " active=" ++
      toString status.activeSequence.toNat ++ " pending=" ++ bit status.pending ++
      " pending_sequence=" ++ toString status.pendingSequence.toNat)

/-- Behind the SET command: the statuses that have to show it. -/
def confirmPost (request : LatchPostRequest) (readStatus : StatusReader A)
    (post : LatchedFbufPostAttempt) : Device A LatchFailure LatchPostReceipt := do
  let (status, budget) ← readPostStatus request.sequence readStatus
  let setSupported := post.ackHigh == Fpga.MAGIK_FBUF_LATCH_MAGIC ||
    post.ackLow == Fpga.MAGIK_FBUF_LATCH_MAGIC
  if !setSupported || !status.supported then
    failPost (unsupportedCore setSupported post status) status
  else if !postedSequenceObserved status request.sequence then
    failPost (sequenceUnverified request.sequence status) status
  else
    pure
      { status
        statusReads := budget.reads
        setSupported
        statusSupported := status.supported
        receiptCrc := post.receiptCrc }

/-- Inside the lock. -/
def postPreparedFrame (request : LatchPostRequest) (readStatus : StatusReader A) :
    Device A LatchFailure LatchPostReceipt := do
  let (lockedBefore, _) ← readStatus .new
  if slotTaken request lockedBefore then Call.throw (slotTakenFailure request)
  else do
    let post ← (postMagikLatchedFbufRgb565Observed (A := A) request.sequence request.baseAddr
      request.width request.height request.geometry).mapError fun error =>
        .runtime .latchPost .latchPostFailed error.message
    confirmPost request readStatus post

def postConfirmPreparedFrame (request : LatchPostRequest) (readStatus : StatusReader A) :
    Device A LatchFailure LatchPostReceipt := do
  (lockUioTransaction (A := A)).mapError fun error =>
    .runtime .latchPost .fpgaTransportFailed
      ("failed to lock complete latch transaction: " ++ error.message)
  (postPreparedFrame request readStatus).ensuring dropUioGuard

/-! ## 3. Completion -/

structure LatchCompletion where
  status : LatchedFbufStatus
  pollCount : Nat
  deriving DecidableEq

def completionTimedOut (postedSequence : Word) (postObserved : Bool) (status : LatchedFbufStatus)
    (pollCount : Nat) : LatchFailure :=
  .runtime .postVerification .postedSequenceUnverified
    ("latch completion timed out posted=" ++ toString postedSequence.toNat ++
      " pending_observed=" ++ bit postObserved ++ " final_active=" ++
      toString status.activeSequence.toNat ++ " final_pending=" ++ bit status.pending ++
      " final_pending_sequence=" ++ toString status.pendingSequence.toNat ++ " polls=" ++
      toString pollCount)

/-- `polls` more polls come before the time-out. -/
def waitForLatchCompletionLoop (postedSequence : Word) :
    Nat → Nat → Bool → Device A LatchFailure LatchCompletion
  | polls, pollCount, postObserved => do
      let status ← (readMagikLatchedFbufStatusSample (A := A)).mapError
        (latchStatusReadFailure .postVerification)
      let pollCount := min (pollCount + 1) (2 ^ 16 - 1)
      if !status.supported then
        Call.throw (.incompatible .postVerification .fpgaStatusUnsupported
          "latch completion status is unsupported")
      else if !status.pending && status.activeSequence == postedSequence then
        pure { status, pollCount }
      else
        let postObserved :=
          postObserved || (status.pending && status.pendingSequence == postedSequence)
        match polls with
        | 0 => Call.throw (completionTimedOut postedSequence postObserved status pollCount)
        | polls + 1 => waitForLatchCompletionLoop postedSequence polls pollCount postObserved

def waitForLatchCompletion (postedSequence : Word) (polls : Nat) :
    Device A LatchFailure LatchCompletion :=
  waitForLatchCompletionLoop postedSequence polls 0 false

end MisterMagik.Host
