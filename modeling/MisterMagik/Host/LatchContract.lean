/-
  File:      MisterMagik/Host/LatchContract.lean
  Subject:   The host's codec of the latch protocol (`contracts/latch`: `lib.rs`, `generated.rs`):
             the SET words it sends, the messages it decodes, its own constants and check words.

  * `messageCrc_eq` -- the check word is that of the hardware;
  * `verifyCrc_messageCrc` -- a message with its check word passes the check.
-/
import MisterMagik.Fpga.Protocol

namespace MisterMagik.Host

open MisterMagik.Fpga (Word)

/-! ## 1. Constants -/

def SET_FBUF_LATCH : Word := 0x57#16
def GET_FBUF_LATCH : Word := 0x58#16
def GET_FBUF_LATCH_CAPS : Word := 0x59#16
def GET_FBUF_LATCH_DIAGNOSTICS : Word := 0x5a#16
def GET_FBUF_LATCH_RECEIPT : Word := 0x5b#16
def GET_FBUF_PRESENTATION_TELEMETRY : Word := 0x5c#16
def PROTOCOL_V5 : Word := 5#16
def MAX_WIDTH : Word := 1366#16
def MAX_HEIGHT : Word := 768#16
def MAX_STRIDE_BYTES : Word := 2736#16
def V5_CAPS_FLAGS : Word := 0x03ff#16
def V5_CAPS_WORDS : Nat := 6
def V5_SET_WORDS : Nat := 12
def V5_STATUS_WORDS : Nat := 16
def V5_DIAGNOSTICS_WORDS : Nat := 7
def V5_RECEIPT_WORDS : Nat := 11
def V5_PRESENTATION_TELEMETRY_WORDS : Nat := 11
def RECEIPT_NONE : Word := 0#16
def RECEIPT_ACCEPTED : Word := 1#16
def RECEIPT_REJECTED : Word := 2#16
def STATUS_ACTIVE_ENABLED : Nat := 0
def STATUS_PENDING_ENABLED : Nat := 1
def STATUS_PENDING : Nat := 2
def STATUS_MAGIK_OWNERSHIP : Nat := 3
def STATUS_REJECT_REASON_SHIFT : Nat := 4
def STATUS_REJECT_REASON_WIDTH : Nat := 4
def CRC_POLYNOMIAL : Word := 0x1021#16
def CRC_INITIAL : Word := 0xffff#16
def CRC_FINAL_XOR : Word := 0x0000#16

inductive LatchProtocol where
  | V5
  deriving DecidableEq

namespace LatchProtocol

def version (_ : LatchProtocol) : Word := PROTOCOL_V5

def capsWordCount (_ : LatchProtocol) : Nat := V5_CAPS_WORDS

def setWordCount (_ : LatchProtocol) : Nat := V5_SET_WORDS

def statusWordCount (_ : LatchProtocol) : Nat := V5_STATUS_WORDS

def diagnosticsWordCount (_ : LatchProtocol) : Option Nat := some V5_DIAGNOSTICS_WORDS

def tryFrom (version : Word) : Except String LatchProtocol :=
  if version = PROTOCOL_V5 then .ok .V5
  else .error ("unsupported latch protocol version " ++ toString version.toNat ++ "; v5 required")

end LatchProtocol

/-! ## 2. Check words -/

/-- One turn of the loop of `crc16_update_byte`. -/
def crc16UpdateBit (crc : Word) : Word :=
  if crc &&& 0x8000#16 ≠ 0 then (crc <<< 1) ^^^ CRC_POLYNOMIAL else crc <<< 1

def crc16UpdateByte (crc : Word) (byte : BitVec 8) : Word :=
  (List.range 8).foldl (fun crc _ => crc16UpdateBit crc) (crc ^^^ (byte.setWidth 16 <<< 8))

def crc16UpdateWord (crc word : Word) : Word :=
  crc16UpdateByte (crc16UpdateByte crc ((word >>> 8).setWidth 8)) (word.setWidth 8)

def messageCrc (command : Word) (protocol : LatchProtocol) (payload : List Word) : Word :=
  let crc := [command, protocol.version, BitVec.ofNat 16 payload.length].foldl crc16UpdateWord
    CRC_INITIAL
  payload.foldl crc16UpdateWord crc ^^^ CRC_FINAL_XOR

/-- `0x` and four digits. -/
def hex (word : Word) : String := "0x" ++ word.toHex

def verifyCrc (command : Word) (protocol : LatchProtocol) (payload : List Word) (expected : Word) :
    Except String Unit :=
  let actual := messageCrc command protocol payload
  if actual = expected then .ok ()
  else .error ("latch protocol " ++ toString protocol.version.toNat ++ " CRC mismatch expected=" ++
    hex expected ++ " actual=" ++ hex actual)

/-- Masking one bit tests it. -/
theorem and_bit_ne_zero (w : Word) {i : Nat} (hi : i < 16) :
    w &&& (1#16 <<< i) ≠ 0 ↔ w.getLsbD i = true := by
  have hne : BitVec.twoPow 16 i ≠ 0#16 := by
    intro h
    have hb := congrArg (fun v => v.getLsbD i) h
    simp [hi] at hb
  rw [← BitVec.twoPow_eq, BitVec.and_twoPow]
  cases w.getLsbD i with
  | false => simp
  | true => simpa using hne

theorem crc16UpdateBit_eq (crc : Word) : crc16UpdateBit crc = Fpga.crcBit crc := by
  have h : crc &&& 0x8000#16 ≠ 0 ↔ crc.getLsbD 15 = true :=
    and_bit_ne_zero crc (show 15 < 16 by decide)
  unfold crc16UpdateBit Fpga.crcBit
  by_cases h15 : crc.getLsbD 15 = true
  · rw [if_pos (h.mpr h15), if_pos h15]
    rfl
  · rw [if_neg (mt h.mp h15), if_neg h15]

theorem crc16UpdateByte_eq (crc : Word) (byte : BitVec 8) :
    crc16UpdateByte crc byte = Fpga.crcByte crc byte := by
  have h : byte.setWidth 16 <<< 8 = byte ++ 0#8 := by
    apply BitVec.eq_of_getLsbD_eq
    intro i hi
    rw [BitVec.getLsbD_shiftLeft, BitVec.getLsbD_setWidth, BitVec.getLsbD_append]
    by_cases h8 : i < 8
    · simp [h8]
    · simp [h8, hi, show i - 8 < 16 by omega]
  unfold crc16UpdateByte Fpga.crcByte
  rw [h, funext crc16UpdateBit_eq]

theorem crc16UpdateWord_eq (crc word : Word) :
    crc16UpdateWord crc word = Fpga.crcWord crc word := by
  unfold crc16UpdateWord Fpga.crcWord
  rw [crc16UpdateByte_eq, crc16UpdateByte_eq]
  rfl

/-- **The host's check word is the hardware's.** -/
theorem messageCrc_eq (command : BitVec 8) (protocol : LatchProtocol) (payload : List Word) :
    messageCrc (0#8 ++ command) protocol payload = Fpga.messageCrc command payload := by
  unfold messageCrc Fpga.messageCrc Fpga.crcHeader
  rw [funext fun crc => funext (crc16UpdateWord_eq crc)]
  rfl

theorem verifyCrc_messageCrc (command : Word) (protocol : LatchProtocol) (payload : List Word) :
    verifyCrc command protocol payload (messageCrc command protocol payload) = .ok () :=
  if_pos rfl

/-! ## 3. Capabilities -/

structure LatchCapabilities where
  protocol : LatchProtocol
  protocolVersion : Word
  flags : Word
  maxWidth : Word
  maxHeight : Word
  maxStrideBytes : Word
  crc : Option Word
  deriving DecidableEq

def LatchCapabilities.productionReady (self : LatchCapabilities) : Bool :=
  self.protocolVersion == self.protocol.version && self.flags == V5_CAPS_FLAGS &&
    self.maxWidth == MAX_WIDTH && self.maxHeight == MAX_HEIGHT &&
    self.maxStrideBytes == MAX_STRIDE_BYTES

def decodeCapabilities (words : List Word) : Except String LatchCapabilities := do
  let version ← match words.head? with
    | some version => .ok version
    | none => .error "latch capabilities omitted protocol version"
  let protocol ← LatchProtocol.tryFrom version
  if words.length ≠ protocol.capsWordCount then
    .error ("latch protocol " ++ toString protocol.version.toNat ++ " capabilities need " ++
      toString protocol.capsWordCount ++ " words, got " ++ toString words.length)
  else
    verifyCrc GET_FBUF_LATCH_CAPS protocol (words.take 5) (words.getD 5 0#16)
    .ok
      { protocol
        protocolVersion := words.getD 0 0#16
        flags := words.getD 1 0#16
        maxWidth := words.getD 2 0#16
        maxHeight := words.getD 3 0#16
        maxStrideBytes := words.getD 4 0#16
        crc := some (words.getD 5 0#16) }

/-! ## 4. Status -/

structure LatchStatus where
  activeSeq : Word
  pendingSeq : Word
  flags : Word
  flipCount : Word
  postCount : Word
  dropCount : Word
  base : BitVec 32
  width : Word
  height : Word
  stride : Word
  rejectCount : Word
  activeRouteEpoch : Word
  acceptedSeq : Word
  activeTransaction : Word
  pendingTransaction : Word
  acceptedTransaction : Word
  crc : Option Word
  deriving DecidableEq

namespace LatchStatus

variable (self : LatchStatus)

def activeEnabled : Bool := self.flags &&& (1#16 <<< STATUS_ACTIVE_ENABLED) ≠ 0

def pendingEnabled : Bool := self.flags &&& (1#16 <<< STATUS_PENDING_ENABLED) ≠ 0

def pending : Bool := self.flags &&& (1#16 <<< STATUS_PENDING) ≠ 0

def magikOwnership : Bool := self.flags &&& (1#16 <<< STATUS_MAGIK_OWNERSHIP) ≠ 0

def rejectionReason : BitVec 8 :=
  ((self.flags >>> STATUS_REJECT_REASON_SHIFT) &&&
    ((1#16 <<< STATUS_REJECT_REASON_WIDTH) - 1#16)).setWidth 8

end LatchStatus

/-- A 32-bit field in two words, the low one first. -/
def word32 (low high : Word) : BitVec 32 := low.setWidth 32 ||| (high.setWidth 32 <<< 16)

def decodeStatus (protocol : LatchProtocol) (words : List Word) : Except String LatchStatus :=
  if words.length ≠ protocol.statusWordCount then
    .error ("latch protocol " ++ toString protocol.version.toNat ++ " status needs " ++
      toString protocol.statusWordCount ++ " words, got " ++ toString words.length)
  else do
    verifyCrc GET_FBUF_LATCH protocol (words.take 15) (words.getD 15 0#16)
    .ok
      { activeSeq := words.getD 0 0#16
        pendingSeq := words.getD 1 0#16
        flags := words.getD 2 0#16 &&& 0x00ff#16
        flipCount := words.getD 3 0#16
        postCount := words.getD 4 0#16
        dropCount := 0#16
        base := word32 (words.getD 5 0#16) (words.getD 6 0#16)
        width := words.getD 7 0#16 &&& 0x0fff#16
        height := words.getD 8 0#16 &&& 0x0fff#16
        stride := words.getD 9 0#16 &&& 0x3fff#16
        rejectCount := words.getD 10 0#16
        activeRouteEpoch := words.getD 11 0#16
        acceptedSeq := words.getD 1 0#16
        activeTransaction := words.getD 12 0#16
        pendingTransaction := words.getD 13 0#16
        acceptedTransaction := words.getD 14 0#16
        crc := some (words.getD 15 0#16) }

/-! ## 5. Rejection diagnostics -/

structure LatchRejectionDiagnostics where
  rejectCount : Word
  reason : BitVec 8
  expectedIndex : Word
  observedIndex : Word
  observedCommand : Word
  receiverOpen : Bool
  receiverFaulted : Bool
  crc : Word
  deriving DecidableEq

def decodeRejectionDiagnostics (protocol : LatchProtocol) (words : List Word) :
    Except String LatchRejectionDiagnostics :=
  match protocol.diagnosticsWordCount with
  | none => .error "latch rejection diagnostics require protocol v5"
  | some wordCount =>
      if words.length ≠ wordCount then
        .error ("latch protocol " ++ toString protocol.version.toNat ++
          " rejection diagnostics need " ++ toString wordCount ++ " words, got " ++
          toString words.length)
      else do
        verifyCrc GET_FBUF_LATCH_DIAGNOSTICS protocol (words.take (wordCount - 1))
          (words.getD (wordCount - 1) 0#16)
        .ok
          { rejectCount := words.getD 0 0#16
            reason := (words.getD 1 0#16 &&& 0x000f#16).setWidth 8
            expectedIndex := words.getD 2 0#16
            observedIndex := words.getD 3 0#16
            observedCommand := words.getD 4 0#16
            receiverOpen := words.getD 5 0#16 &&& 0x0001#16 ≠ 0
            receiverFaulted := words.getD 5 0#16 &&& 0x0002#16 ≠ 0
            crc := words.getD 6 0#16 }

/-! ## 6. Receipts -/

structure LatchReceipt where
  attemptedTransaction : Word
  attemptedSequence : Word
  disposition : Word
  acceptedTransaction : Word
  acceptedSequence : Word
  pendingTransaction : Word
  pendingSequence : Word
  activeTransaction : Word
  activeSequence : Word
  rejectReason : BitVec 8
  crc : Word
  deriving DecidableEq

def LatchReceipt.accepted (self : LatchReceipt) : Bool := self.disposition == RECEIPT_ACCEPTED

def LatchReceipt.rejected (self : LatchReceipt) : Bool := self.disposition == RECEIPT_REJECTED

def decodeReceipt (words : List Word) : Except String LatchReceipt :=
  if words.length ≠ V5_RECEIPT_WORDS then
    .error ("latch protocol v5 receipt needs " ++ toString V5_RECEIPT_WORDS ++ " words, got " ++
      toString words.length)
  else do
    verifyCrc GET_FBUF_LATCH_RECEIPT .V5 (words.take (V5_RECEIPT_WORDS - 1))
      (words.getD (V5_RECEIPT_WORDS - 1) 0#16)
    if ¬ (words.getD 2 0#16 = RECEIPT_ACCEPTED ∨ words.getD 2 0#16 = RECEIPT_REJECTED) then
      .error ("latch receipt is not terminal: disposition=" ++
        toString (words.getD 2 0#16).toNat)
    else
      .ok
        { attemptedTransaction := words.getD 0 0#16
          attemptedSequence := words.getD 1 0#16
          disposition := words.getD 2 0#16
          acceptedTransaction := words.getD 3 0#16
          acceptedSequence := words.getD 4 0#16
          pendingTransaction := words.getD 5 0#16
          pendingSequence := words.getD 6 0#16
          activeTransaction := words.getD 7 0#16
          activeSequence := words.getD 8 0#16
          rejectReason := (words.getD 9 0#16 &&& 0x000f#16).setWidth 8
          crc := words.getD 10 0#16 }

/-! ## 7. Presentation telemetry -/

structure PresentationTelemetry where
  ownedVblankCount : BitVec 32
  presentedVblankCount : BitVec 32
  repeatedVblankCount : BitVec 32
  ownershipLossCount : BitVec 32
  activeSequence : Word
  flags : Word
  crc : Word
  deriving DecidableEq

def decodePresentationTelemetry (words : List Word) : Except String PresentationTelemetry :=
  if words.length ≠ V5_PRESENTATION_TELEMETRY_WORDS then
    .error ("latch protocol v5 presentation telemetry needs " ++
      toString V5_PRESENTATION_TELEMETRY_WORDS ++ " words, got " ++ toString words.length)
  else do
    verifyCrc GET_FBUF_PRESENTATION_TELEMETRY .V5
      (words.take (V5_PRESENTATION_TELEMETRY_WORDS - 1))
      (words.getD (V5_PRESENTATION_TELEMETRY_WORDS - 1) 0#16)
    let counter := fun low => word32 (words.getD low 0#16) (words.getD (low + 1) 0#16)
    .ok
      { ownedVblankCount := counter 0
        presentedVblankCount := counter 2
        repeatedVblankCount := counter 4
        ownershipLossCount := counter 6
        activeSequence := words.getD 8 0#16
        flags := words.getD 9 0#16 &&& 0x00ff#16
        crc := words.getD 10 0#16 }

/-! ## 8. Posts -/

structure LatchSetPayload where
  mode : Word
  base : BitVec 32
  width : Word
  height : Word
  destinationLeft : Word
  destinationRight : Word
  destinationTop : Word
  destinationBottom : Word
  stride : Word
  sequence : Word
  deriving DecidableEq

def LatchSetPayload.words (self : LatchSetPayload) : List Word :=
  [self.mode, self.base.setWidth 16, (self.base >>> 16).setWidth 16, self.width, self.height,
    self.destinationLeft, self.destinationRight, self.destinationTop, self.destinationBottom,
    self.stride, self.sequence]

structure LatchSetWords where
  words : List Word
  wordCount : Nat
  deriving DecidableEq

def encodeSet (protocol : LatchProtocol) (payload : LatchSetPayload) : LatchSetWords :=
  { words := payload.words ++ [messageCrc SET_FBUF_LATCH protocol payload.words]
    wordCount := protocol.setWordCount }

end MisterMagik.Host
