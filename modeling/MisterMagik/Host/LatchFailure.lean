/-
  File:      MisterMagik/Host/LatchFailure.lean
  Subject:   Failures of the latch and what the host keeps of them
             (`mister/platform/runtime/src/latch_readiness.rs`). Definitions only.

  Not here: the wire and post diagnostics, which only record times and words, and the codes under
  which failures are reported.
-/
import MisterMagik.Host.LatchContract

namespace MisterMagik.Host

open MisterMagik.Fpga (Word)

/-! ## 1. What failed -/

inductive LatchReadinessState where
  | ready
  | installationFault
  | platformIncompatible
  | runtimeFault
  deriving DecidableEq

inductive LatchFailureStage where
  | frontendIntegrity
  | manifest
  | kernel
  | moduleOpen
  | moduleLayout
  | bufferMap
  | fpgaStatus
  | fpgaCapabilities
  | frameCopy
  | overlayCompose
  | latchPost
  | routeArm
  | postVerification
  deriving DecidableEq

inductive LatchFailureReason where
  | frontendHashMismatch
  | manifestInvalid
  | kernelReleaseUnsupported
  | scanoutDeviceMissing
  | scanoutAbiMismatch
  | scanoutLayoutMismatch
  | scanoutGeometryUnsupported
  | scanoutMapFailed
  | fpgaStatusUnsupported
  | fpgaProtocolUnsupported
  | fpgaCapabilitiesInsufficient
  | fpgaTransportFailed
  | noWritableHiddenBuffer
  | frameCopyFailed
  | overlayComposeFailed
  | latchPostFailed
  | routeArmFailed
  | activeGeometryMismatch
  | postedSequenceUnverified
  deriving DecidableEq

/-! ## 2. Statuses -/

/-- A status that was read, with what the command word was answered. -/
structure LatchedFbufStatus where
  magicHi : Word
  magicLo : Word
  activeSequence : Word
  pendingSequence : Word
  flags : Word
  flipCount : Word
  postCount : Word
  dropCount : Word
  activeBase : BitVec 32
  activeWidth : Word
  activeHeight : Word
  activeStride : Word
  rejectCount : Word
  activeRouteEpoch : Word
  acceptedSequence : Word
  activeTransaction : Word
  pendingTransaction : Word
  acceptedTransaction : Word
  deriving DecidableEq

namespace LatchedFbufStatus

variable (self : LatchedFbufStatus)

def supported : Bool :=
  self.magicHi == Fpga.MAGIK_FBUF_STATUS_MAGIC || self.magicLo == Fpga.MAGIK_FBUF_STATUS_MAGIC

def pending : Bool := self.flags &&& 0x0004#16 ≠ 0

def pendingEnabled : Bool := self.flags &&& 0x0002#16 ≠ 0

def activeEnabled : Bool := self.flags &&& 0x0001#16 ≠ 0

def rejectionReason : BitVec 8 :=
  ((self.flags >>> STATUS_REJECT_REASON_SHIFT) &&&
    ((1#16 <<< STATUS_REJECT_REASON_WIDTH) - 1#16)).setWidth 8

end LatchedFbufStatus

/-! ## 3. Failures -/

structure LatchFailure where
  state : LatchReadinessState
  stage : LatchFailureStage
  reason : LatchFailureReason
  detail : String
  statusObservation : Option LatchedFbufStatus
  rejectionObservation : Option LatchRejectionDiagnostics
  deriving DecidableEq

namespace LatchFailure

def runtime (stage : LatchFailureStage) (reason : LatchFailureReason) (detail : String) :
    LatchFailure :=
  { state := .runtimeFault, stage, reason, detail
    statusObservation := none, rejectionObservation := none }

def incompatible (stage : LatchFailureStage) (reason : LatchFailureReason) (detail : String) :
    LatchFailure :=
  { state := .platformIncompatible, stage, reason, detail
    statusObservation := none, rejectionObservation := none }

def withStatusObservation (self : LatchFailure) (observation : LatchedFbufStatus) : LatchFailure :=
  { self with statusObservation := some observation }

def withRejectionObservation (self : LatchFailure) (observation : LatchRejectionDiagnostics) :
    LatchFailure :=
  { self with rejectionObservation := some observation }

end LatchFailure

end MisterMagik.Host
