/-
  File:      MisterMagik/Host/Device.lean
  Subject:   The latch commands of the host, word by word over the bus
             (`mister/platform/runtime/src/fpga.rs`). Definitions only.

  Every command takes the lock of the bus, which nests, raises `IO_EN` for its frame and lowers it
  again, also where an exchange times out. Reading is repeated once; a post is never sent twice.

  Not here: the registers behind an exchange, the injected faults of development builds, and the
  diagnostics, which only record times and words.
-/
import MisterMagik.Host.Bus
import MisterMagik.Host.LatchFailure

namespace MisterMagik.Host

open MisterMagik.Base
open MisterMagik.Fpga (Word)

/-! ## 1. The port -/

/-- What the host keeps of its port. -/
structure Fpga where
  latchCapabilities : Option LatchCapabilities
  uioLockDepth : Nat
  deriving DecidableEq

/-- `Fpga::open`. -/
def Fpga.opened : Fpga := ⟨none, 0⟩

abbrev Device {C : Type} (A : C → Type) (ε : Type) : Type → Type := Call (DeviceOp.Res A) Fpga ε

section Device

variable {C : Type} {A : C → Type}

def flock : Device A IoError (Except IoError Unit) := Call.perform (DeviceOp.flock : DeviceOp C)

def funlock {ε : Type} : Device A ε Unit := Call.perform (DeviceOp.funlock : DeviceOp C)

def exchange (word : Word) : Device A IoError (Except AckPhase SpiCapture) :=
  Call.perform (DeviceOp.exchange word : DeviceOp C)

def setIo {ε : Type} (level : Bool) : Device A ε Unit :=
  Call.perform (DeviceOp.setIo level : DeviceOp C)

/-- `lock_uio_transaction`. -/
def lockUioTransaction : Device A IoError Unit := do
  let fpga ← Call.get
  if fpga.uioLockDepth = 0 then do
    let locked ← flock
    Call.ofExcept locked
    Call.modify fun fpga => { fpga with uioLockDepth := fpga.uioLockDepth + 1 }
  else Call.modify fun fpga => { fpga with uioLockDepth := fpga.uioLockDepth + 1 }

/-- The guard of the lock is dropped. -/
def dropUioGuard {ε : Type} : Device A ε Unit := do
  Call.modify fun fpga => { fpga with uioLockDepth := fpga.uioLockDepth - 1 }
  let fpga ← Call.get
  if fpga.uioLockDepth ≠ 0 then pure ()
  else funlock

/-- The rest of a function that begins with `lock_uio_transaction`. -/
def locked {α : Type} (m : Device A IoError α) : Device A IoError α := do
  lockUioTransaction
  m.ensuring dropUioGuard

def enableIo : Device A IoError Unit := setIo true

def disableIo {ε : Type} : Device A ε Unit := setIo false

/-- `reset_spi_transport`: the bus is idle. -/
def resetSpiTransport : Device A IoError Unit := disableIo

def AckPhase.label : AckPhase → String
  | high => "high"
  | low => "low"

def spiTimeout (phase : AckPhase) (word : Word) : IoError :=
  ⟨.timedOut, "FPGA SPI timeout waiting for ACK " ++ phase.label ++ " on word " ++ hex word⟩

def spiCapture (word : Word) : Device A IoError SpiCapture := do
  let answer ← exchange word
  Call.ofExcept (match answer with
    | .ok capture => .ok capture
    | .error phase => .error (spiTimeout phase word))

/-- The words of a message, in order: what is captured when the acknowledge drops. -/
def readWords : Nat → Device A IoError (List Word)
  | 0 => pure []
  | n + 1 => do
      let capture ← spiCapture 0#16
      let rest ← readWords n
      pure (capture.ackLow :: rest)

def sendWords : List Word → Device A IoError Unit
  | [] => pure ()
  | word :: words => do
      let _ ← spiCapture word
      sendWords words

def cmdCapture (cmd : Word) : Device A IoError SpiCapture := do
  enableIo
  (spiCapture cmd).onError disableIo

def SpiCapture.hasMagic (capture : SpiCapture) (magic : Word) : Bool :=
  capture.ackHigh == magic || capture.ackLow == magic

/-- What a message decodes to; a wrong one is invalid data. -/
def decoded {α : Type} : Except String α → Device A IoError α
  | .ok a => pure a
  | .error message => Call.throw ⟨.invalidData, message⟩

/-! ## 2. Reading -/

def LatchedFbufStatus.ofDecoded (command : SpiCapture) (decoded : LatchStatus) :
    LatchedFbufStatus :=
  { magicHi := command.ackHigh
    magicLo := command.ackLow
    activeSequence := decoded.activeSeq
    pendingSequence := decoded.pendingSeq
    flags := decoded.flags
    flipCount := decoded.flipCount
    postCount := decoded.postCount
    dropCount := decoded.dropCount
    activeBase := decoded.base
    activeWidth := decoded.width
    activeHeight := decoded.height
    activeStride := decoded.stride
    rejectCount := decoded.rejectCount
    activeRouteEpoch := decoded.activeRouteEpoch
    acceptedSequence := decoded.acceptedSeq
    activeTransaction := decoded.activeTransaction
    pendingTransaction := decoded.pendingTransaction
    acceptedTransaction := decoded.acceptedTransaction }

def readMagikLatchedFbufStatusOnce (protocol : LatchProtocol) :
    Device A IoError LatchedFbufStatus := do
  enableIo
  let command ← (spiCapture GET_FBUF_LATCH).onError disableIo
  let words ← (readWords protocol.statusWordCount).onError disableIo
  disableIo
  let status ← decoded (decodeStatus protocol words)
  pure (.ofDecoded command status)

/-- A status is read again after a time-out and after a wrong message. -/
def retriesStatus (protocol : LatchProtocol) (first : IoError) : Bool :=
  first.kind == .timedOut || (protocol == .V5 && first.kind == .invalidData)

def readMagikLatchedFbufStatusSample : Device A IoError LatchedFbufStatus := locked do
  let fpga ← Call.get
  match fpga.latchCapabilities.map (·.protocol) with
  | none =>
      Call.throw
        ⟨.invalidData, "latch status read requires successful capability negotiation"⟩
  | some protocol => do
      match ← Call.attempt (readMagikLatchedFbufStatusOnce protocol) with
      | .ok status => pure status
      | .error first =>
          if retriesStatus protocol first then do
            resetSpiTransport
            readMagikLatchedFbufStatusOnce protocol
          else Call.throw first

def unsupportedMagic (what : String) (capture : SpiCapture) : IoError :=
  ⟨.invalidData, "unsupported " ++ what ++ " magic high=" ++ hex capture.ackHigh ++ " low=" ++
    hex capture.ackLow⟩

def readMagikLatchedFbufReceiptUnlocked : Device A IoError LatchReceipt := do
  let command ← cmdCapture GET_FBUF_LATCH_RECEIPT
  if command.hasMagic Fpga.MAGIK_FBUF_RECEIPT_MAGIC then do
    let words ← readWords V5_RECEIPT_WORDS
    decoded (decodeReceipt words)
  else Call.throw (unsupportedMagic "latch receipt" command)

/-- The protocol that was observed goes with the error. -/
def readMagikLatchedFbufCapabilitiesOnce :
    Device A (IoError × Option LatchProtocol) (Word × Word × LatchCapabilities) :=
  Call.ensuring (do
    let command ← (cmdCapture GET_FBUF_LATCH_CAPS).mapError fun e => (e, none)
    let version ← (spiCapture 0#16).mapError fun e => (e, none)
    let protocol ← (decoded (LatchProtocol.tryFrom version.ackLow)).mapError fun e => (e, none)
    let rest ← (readWords (protocol.capsWordCount - 1)).mapError fun e => (e, some protocol)
    let capabilities ← (decoded (decodeCapabilities (version.ackLow :: rest))).mapError
      fun e => (e, some protocol)
    pure (command.ackHigh, command.ackLow, capabilities)) disableIo

/-- Capabilities that are kept: those of a latch the host can use. -/
def usable (result : Word × Word × LatchCapabilities) : Bool :=
  (result.1 == Fpga.MAGIK_FBUF_CAPS_MAGIC || result.2.1 == Fpga.MAGIK_FBUF_CAPS_MAGIC) &&
    result.2.2.productionReady

def readMagikLatchedFbufCapabilities : Device A IoError (Word × Word × LatchCapabilities) :=
  locked do
    Call.modify fun fpga => { fpga with latchCapabilities := none }
    let result ← match ← Call.attempt (readMagikLatchedFbufCapabilitiesOnce (A := A)) with
      | .ok result => pure result
      | .error (first, protocol) =>
          if protocol = some .V5 ∧ first.kind = .invalidData then do
            resetSpiTransport
            readMagikLatchedFbufCapabilitiesOnce.mapError (·.1)
          else Call.throw first
    Call.modify fun fpga =>
      if usable result then { fpga with latchCapabilities := some result.2.2 } else fpga
    pure result

def CAP_REJECTION_CONTEXT : Word := 1#16 <<< 7

def CAP_AUTHORITATIVE_PRESENTATION_TELEMETRY : Word := 1#16 <<< 9

def readMagikLatchedFbufRejectionDiagnostics :
    Device A IoError (Option LatchRejectionDiagnostics) := locked do
  let fpga ← Call.get
  match fpga.latchCapabilities with
  | none =>
      Call.throw
        ⟨.invalidData, "latch rejection diagnostics require successful capability negotiation"⟩
  | some capabilities =>
      if capabilities.protocol ≠ .V5 ∨ capabilities.flags &&& CAP_REJECTION_CONTEXT = 0#16 then
        pure none
      else do
        disableIo
        Call.ensuring (do
          let command ← cmdCapture GET_FBUF_LATCH_DIAGNOSTICS
          if command.hasMagic Fpga.MAGIK_FBUF_DIAGNOSTICS_MAGIC then do
            let words ← readWords V5_DIAGNOSTICS_WORDS
            let diagnostics ← decoded (decodeRejectionDiagnostics capabilities.protocol words)
            pure (some diagnostics)
          else Call.throw (unsupportedMagic "latch rejection diagnostics" command)) disableIo

def readMagikPresentationTelemetry : Device A IoError PresentationTelemetry := locked do
  let fpga ← Call.get
  match fpga.latchCapabilities with
  | none =>
      Call.throw
        ⟨.invalidData, "presentation telemetry requires successful capability negotiation"⟩
  | some capabilities =>
      if capabilities.protocol ≠ .V5 ∨
          capabilities.flags &&& CAP_AUTHORITATIVE_PRESENTATION_TELEMETRY = 0#16 then
        Call.throw ⟨.invalidData, "authoritative presentation telemetry is not supported"⟩
      else do
        disableIo
        Call.ensuring (do
          let command ← cmdCapture GET_FBUF_PRESENTATION_TELEMETRY
          if command.hasMagic Fpga.MAGIK_FBUF_PRESENTATION_TELEMETRY_MAGIC then do
            let words ← readWords V5_PRESENTATION_TELEMETRY_WORDS
            decoded (decodePresentationTelemetry words)
          else Call.throw (unsupportedMagic "presentation telemetry" command)) disableIo

/-! ## 3. Posting -/

/-- Where a frame is placed on the screen. -/
structure LatchedFbufGeometry where
  xoff : Word
  right : Word
  yoff : Word
  bottom : Word
  strideBytes : Word
  deriving DecidableEq

def FB_EN : Word := 0x8000#16
def FB_FMT_565 : Word := 0b00100#16
def FB_FMT_RXB : Word := 0b10000#16

/-- What a post answered, and the check word of its receipt. -/
structure LatchedFbufPostAttempt where
  ackHigh : Word
  ackLow : Word
  receiptCrc : Word
  deriving DecidableEq

def setPayload (sequence : Word) (baseAddr : BitVec 32) (fbWidth fbHeight : Word)
    (geometry : LatchedFbufGeometry) : LatchSetPayload :=
  { mode := FB_EN ||| FB_FMT_565 ||| FB_FMT_RXB
    base := baseAddr
    width := fbWidth
    height := fbHeight
    destinationLeft := geometry.xoff
    destinationRight := geometry.right
    destinationTop := geometry.yoff
    destinationBottom := geometry.bottom
    stride := geometry.strideBytes
    sequence }

/-- The receipt is that of the post with this sequence, which is pending or active. -/
def LatchReceipt.confirms (receipt : LatchReceipt) (sequence : Word) : Bool :=
  receipt.accepted && receipt.attemptedSequence == sequence &&
    receipt.acceptedSequence == sequence &&
    receipt.acceptedTransaction == receipt.attemptedTransaction &&
    ((receipt.pendingTransaction == receipt.attemptedTransaction &&
        receipt.pendingSequence == sequence) ||
      (receipt.activeTransaction == receipt.attemptedTransaction &&
        receipt.activeSequence == sequence))

def rejectedOrAmbiguous (receipt : LatchReceipt) : IoError :=
  let number := fun (word : Word) => toString word.toNat
  ⟨.invalidData, "latch SET rejected or ambiguous: attempted_tx=" ++
    number receipt.attemptedTransaction ++ " attempted_seq=" ++ number receipt.attemptedSequence ++
    " disposition=" ++ number receipt.disposition ++ " accepted_tx=" ++
    number receipt.acceptedTransaction ++ " accepted_seq=" ++ number receipt.acceptedSequence ++
    " pending_tx=" ++ number receipt.pendingTransaction ++ " pending_seq=" ++
    number receipt.pendingSequence ++ " active_tx=" ++ number receipt.activeTransaction ++
    " active_seq=" ++ number receipt.activeSequence ++ " reject_reason=" ++
    toString receipt.rejectReason.toNat⟩

/-- The frame of a SET command. -/
def sendSet (words : LatchSetWords) : Device A IoError SpiCapture := do
  enableIo
  let support ← (spiCapture SET_FBUF_LATCH).onError disableIo
  (sendWords (words.words.take words.wordCount)).onError disableIo
  disableIo
  pure support

def postMagikLatchedFbufRgb565Observed (sequence : Word) (baseAddr : BitVec 32)
    (fbWidth fbHeight : Word) (geometry : LatchedFbufGeometry) :
    Device A IoError LatchedFbufPostAttempt := locked do
  disableIo
  let fpga ← Call.get
  match fpga.latchCapabilities.map (·.protocol) with
  | none => Call.throw ⟨.invalidData, "latch post requires successful capability negotiation"⟩
  | some protocol => do
      let support ← sendSet
        (encodeSet protocol (setPayload sequence baseAddr fbWidth fbHeight geometry))
      let receipt ← readMagikLatchedFbufReceiptUnlocked.onError disableIo
      disableIo
      if receipt.confirms sequence then
        pure { ackHigh := support.ackHigh, ackLow := support.ackLow, receiptCrc := receipt.crc }
      else Call.throw (rejectedOrAmbiguous receipt)

end Device

end MisterMagik.Host
