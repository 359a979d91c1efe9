/-
  File:      MisterMagik/Fpga/Latch.lean
  Subject:   The vertical-blank latch (`mister_magik_vblank_latch.sv`) as a clocked machine: its
             registers, its wires and one clock edge. Definitions only.

  The registers are grouped by the part of the clocked block that writes them; a register keeps
  the source's name, without the prefix its group takes over (`rx_`, `receipt_`, `last_reject_`,
  `tx_`). A clock edge is written as the source writes it: every right-hand side reads the
  registers of before the edge (`old`), the statements are applied in order to the registers of
  after it (`new`), and a later write of the same register replaces an earlier one.
-/
import MisterMagik.Fpga.Protocol

namespace MisterMagik.Fpga

/-! ## 1. Registers -/

/-- `route_*`: the post that is pending, or the last one. -/
structure Route where
  en : Bool
  flt : Bool
  fmt : BitVec 6
  width : BitVec 12
  height : BitVec 12
  hmin : BitVec 12
  hmax : BitVec 12
  vmin : BitVec 12
  vmax : BitVec 12
  base : BitVec 32
  stride : BitVec 14
  deriving DecidableEq

/-- `rx_*`: the SET receiver. -/
structure Receiver where
  isOpen : Bool
  faulted : Bool
  expected : BitVec 4
  mask : BitVec 11
  crc : Word
  mode : Word
  base : BitVec 32
  widthWord : Word
  heightWord : Word
  hminWord : Word
  hmaxWord : Word
  vminWord : Word
  vmaxWord : Word
  strideWord : Word
  seq : Word
  rowSpan : BitVec 26
  addressWrap : Bool
  deriving DecidableEq

/-- `last_reject_*`. -/
structure RejectContext where
  reason : BitVec 4
  expectedIndex : Word
  observedIndex : Word
  command : Word
  receiverFlags : Word
  deriving DecidableEq

/-- `receipt_*`. -/
structure Receipt where
  attemptedTransaction : Word
  attemptedSequence : Word
  disposition : Word
  rejectReason : BitVec 4
  deriving DecidableEq

/-- The vertical blanks counted for the presentation telemetry. -/
structure Telemetry where
  ownedVblankCount : BitVec 32
  presentedVblankCount : BitVec 32
  repeatedVblankCount : BitVec 32
  ownershipLossCount : BitVec 32
  deriving DecidableEq

/-- `response_snapshot` and `tx_*`: the message of a read command. -/
structure Responder where
  snapshot : Vector Word 15
  crc : Word
  expected : BitVec 4
  command : BitVec 8
  deriving DecidableEq

structure Latch where
  vblMeta : Bool
  vblSys : Bool
  vblOld : Bool
  route : Route
  pending : Bool
  pendingSeq : Word
  activeSeq : Word
  postCount : Word
  flipCount : Word
  dropCount : Word
  rejectCount : Word
  activeRouteEpoch : Word
  magikOwnership : Bool
  attemptedTransaction : Word
  acceptedTransaction : Word
  pendingTransaction : Word
  activeTransaction : Word
  acceptedSeq : Word
  rx : Receiver
  lastReject : RejectContext
  receipt : Receipt
  telemetry : Telemetry
  tx : Responder
  deriving DecidableEq

def Route.reset : Route :=
  { en := false, flt := false, fmt := 0, width := 0, height := 0, hmin := 0, hmax := 0, vmin := 0
    vmax := 0, base := 0, stride := 0 }

def Receiver.reset : Receiver :=
  { isOpen := false, faulted := false, expected := 0, mask := 0, crc := 0, mode := 0, base := 0
    widthWord := 0, heightWord := 0, hminWord := 0, hmaxWord := 0, vminWord := 0, vmaxWord := 0
    strideWord := 0, seq := 0, rowSpan := 0, addressWrap := false }

/-- The initial values of the registers. `response_snapshot` has none; nothing is sent from it
    before a read command has filled it. -/
def Latch.reset : Latch :=
  { vblMeta := false, vblSys := false, vblOld := false
    route := .reset
    pending := false, pendingSeq := 0, activeSeq := 0
    postCount := 0, flipCount := 0, dropCount := 0, rejectCount := 0, activeRouteEpoch := 0
    magikOwnership := false
    attemptedTransaction := 0, acceptedTransaction := 0, pendingTransaction := 0
    activeTransaction := 0, acceptedSeq := 0
    rx := .reset
    lastReject := { reason := MAGIK_REJECT_NONE, expectedIndex := 0xFFFF, observedIndex := 0xFFFF
                    command := 0, receiverFlags := 0 }
    receipt := { attemptedTransaction := 0, attemptedSequence := 0
                 disposition := MAGIK_RECEIPT_NONE, rejectReason := MAGIK_REJECT_NONE }
    telemetry := { ownedVblankCount := 0, presentedVblankCount := 0, repeatedVblankCount := 0
                   ownershipLossCount := 0 }
    tx := { snapshot := Vector.replicate 15 0, crc := 0, expected := 0, command := 0 } }

/-- The input ports, `apply_accepted` and `legacy_write` included. -/
structure LatchPorts where
  hdmiVbl : Bool
  cmdStart : Bool
  cmdData : Bool
  cmdId : BitVec 8
  wordIndex : BitVec 4
  dataIn : Word
  activeLfbEn : Bool
  activeLfbBase : BitVec 32
  activeLfbWidth : BitVec 12
  activeLfbHeight : BitVec 12
  activeLfbStride : BitVec 14
  applyAccepted : Bool
  legacyWrite : Bool

/-! ## 2. Wires -/

def Latch.vblRise (s : Latch) : Bool := !s.vblOld && s.vblSys

/-- `apply`. -/
def Latch.apply (s : Latch) : Bool := s.pending && s.vblRise

def Latch.liveStatusFlags (s : Latch) (activeLfbEn : Bool) : Word :=
  ((0#12 ++ s.lastReject.reason) <<< MAGIK_STATUS_REJECT_REASON_SHIFT) |||
  (if activeLfbEn then 1#16 <<< MAGIK_STATUS_ACTIVE_ENABLED else 0#16) |||
  (if s.pending && s.route.en then 1#16 <<< MAGIK_STATUS_PENDING_ENABLED else 0#16) |||
  (if s.pending then 1#16 <<< MAGIK_STATUS_PENDING else 0#16) |||
  (if s.magikOwnership then 1#16 <<< MAGIK_STATUS_MAGIK_OWNERSHIP else 0#16)

namespace Receiver

def reservedFields (rx : Receiver) : Bool :=
  rx.widthWord.extractLsb' 12 4 != 0#4 || rx.heightWord.extractLsb' 12 4 != 0#4 ||
  rx.hminWord.extractLsb' 12 4 != 0#4 || rx.hmaxWord.extractLsb' 12 4 != 0#4 ||
  rx.vminWord.extractLsb' 12 4 != 0#4 || rx.vmaxWord.extractLsb' 12 4 != 0#4 ||
  rx.strideWord.extractLsb' 14 2 != 0#2

def width (rx : Receiver) : BitVec 12 := rx.widthWord.extractLsb' 0 12
def height (rx : Receiver) : BitVec 12 := rx.heightWord.extractLsb' 0 12
def hmin (rx : Receiver) : BitVec 12 := rx.hminWord.extractLsb' 0 12
def hmax (rx : Receiver) : BitVec 12 := rx.hmaxWord.extractLsb' 0 12
def vmin (rx : Receiver) : BitVec 12 := rx.vminWord.extractLsb' 0 12
def vmax (rx : Receiver) : BitVec 12 := rx.vmaxWord.extractLsb' 0 12
def stride (rx : Receiver) : BitVec 14 := rx.strideWord.extractLsb' 0 14

def heightMinusOne (rx : Receiver) : BitVec 12 := rx.height - 1#12

def nextRowSpan (rx : Receiver) (dataIn : Word) : BitVec 26 :=
  rx.heightMinusOne.setWidth 26 * (dataIn.extractLsb' 0 14).setWidth 26

def pipelinedEndAddress (rx : Receiver) : BitVec 33 :=
  (0#1 ++ rx.base) + (0#7 ++ rx.rowSpan) + (0#20 ++ rx.width ++ 0#1)

/-- `semantic_reject`. -/
def semanticReject (rx : Receiver) : BitVec 4 :=
  if !rx.mode.getLsbD 15 then
    if rx.mode != 0 || rx.base != 0 || rx.widthWord != 0 || rx.heightWord != 0 ||
        rx.hminWord != 0 || rx.hmaxWord != 0 || rx.vminWord != 0 || rx.vmaxWord != 0 ||
        rx.strideWord != 0 then
      MAGIK_REJECT_INVALID_MODE
    else MAGIK_REJECT_NONE
  else if rx.mode.extractLsb' 6 8 != 0 || rx.mode.extractLsb' 0 6 != 0x14#6 then
    MAGIK_REJECT_INVALID_MODE
  else if rx.reservedFields then MAGIK_REJECT_RESERVED
  else if rx.base == 0 || rx.base.getLsbD 0 then MAGIK_REJECT_INVALID_BASE
  else if rx.width == 0 || MAGIK_FBUF_MAX_WIDTH < (0#4 ++ rx.width) || rx.height == 0 ||
      MAGIK_FBUF_MAX_HEIGHT < (0#4 ++ rx.height) then
    MAGIK_REJECT_INVALID_GEOMETRY
  else if rx.stride.getLsbD 0 || rx.stride < ((0#2 ++ rx.width) <<< 1) ||
      MAGIK_FBUF_MAX_STRIDE < (0#2 ++ rx.stride) then
    MAGIK_REJECT_INVALID_STRIDE
  else if rx.hmax < rx.hmin || rx.vmax < rx.vmin then MAGIK_REJECT_INVALID_BOUNDS
  else if rx.addressWrap then MAGIK_REJECT_ADDRESS_WRAP
  else MAGIK_REJECT_NONE

/-- The route a received payload asks for. -/
def route (rx : Receiver) : Route :=
  { en := rx.mode.getLsbD 15
    flt := rx.mode.getLsbD 14
    fmt := rx.mode.extractLsb' 0 6
    width := rx.width
    height := rx.height
    hmin := rx.hmin
    hmax := rx.hmax
    vmin := rx.vmin
    vmax := rx.vmax
    base := rx.base
    stride := rx.stride }

end Receiver

/-! ## 3. Responses -/

namespace Latch

def responseValid (p : LatchPorts) : Bool :=
  (p.cmdStart && (p.cmdId == MAGIK_UIO_SET_FBUF_LATCH || p.cmdId == MAGIK_UIO_GET_FBUF_LATCH ||
    p.cmdId == MAGIK_UIO_GET_FBUF_LATCH_CAPS || p.cmdId == MAGIK_UIO_GET_FBUF_LATCH_DIAGNOSTICS ||
    p.cmdId == MAGIK_UIO_GET_FBUF_LATCH_RECEIPT ||
    p.cmdId == MAGIK_UIO_GET_FBUF_PRESENTATION_TELEMETRY)) ||
  (p.cmdData && (p.cmdId == MAGIK_UIO_GET_FBUF_LATCH || p.cmdId == MAGIK_UIO_GET_FBUF_LATCH_CAPS ||
    p.cmdId == MAGIK_UIO_GET_FBUF_LATCH_DIAGNOSTICS ||
    p.cmdId == MAGIK_UIO_GET_FBUF_LATCH_RECEIPT ||
    p.cmdId == MAGIK_UIO_GET_FBUF_PRESENTATION_TELEMETRY))

/-- The magic word a command is answered with. -/
def commandMagic (cmdId : BitVec 8) : Word :=
  if cmdId = MAGIK_UIO_SET_FBUF_LATCH then MAGIK_FBUF_LATCH_MAGIC
  else if cmdId = MAGIK_UIO_GET_FBUF_LATCH then MAGIK_FBUF_STATUS_MAGIC
  else if cmdId = MAGIK_UIO_GET_FBUF_LATCH_CAPS then MAGIK_FBUF_CAPS_MAGIC
  else if cmdId = MAGIK_UIO_GET_FBUF_LATCH_DIAGNOSTICS then MAGIK_FBUF_DIAGNOSTICS_MAGIC
  else if cmdId = MAGIK_UIO_GET_FBUF_LATCH_RECEIPT then MAGIK_FBUF_RECEIPT_MAGIC
  else if cmdId = MAGIK_UIO_GET_FBUF_PRESENTATION_TELEMETRY then
    MAGIK_FBUF_PRESENTATION_TELEMETRY_MAGIC
  else 0#16

/-- The words of the capability message, which no snapshot holds. -/
def capsWord (wordIndex : Nat) : Word :=
  match wordIndex with
  | 0 => MAGIK_FBUF_PROTOCOL_VERSION
  | 1 => MAGIK_FBUF_CAPS_FLAGS
  | 2 => MAGIK_FBUF_MAX_WIDTH
  | 3 => MAGIK_FBUF_MAX_HEIGHT
  | 4 => MAGIK_FBUF_MAX_STRIDE
  | _ => 0#16

/-- A word of the snapshot; the source reads indices below 15 only. -/
def snapshotWord (s : Latch) (wordIndex : Nat) : Word := s.tx.snapshot.toList.getD wordIndex 0#16

/-- A message of `count` words from `word` with its check word behind them. -/
def messageWord (s : Latch) (word : Nat → Word) (count wordIndex : Nat) : Word :=
  if wordIndex < count then word wordIndex
  else if wordIndex = count then s.tx.crc ^^^ MAGIK_CRC_FINAL_XOR
  else 0#16

def responseData (s : Latch) (p : LatchPorts) : Word :=
  if p.cmdStart then commandMagic p.cmdId
  else if p.cmdData then
    if p.cmdId = MAGIK_UIO_GET_FBUF_LATCH then s.messageWord s.snapshotWord 15 p.wordIndex.toNat
    else if p.cmdId = MAGIK_UIO_GET_FBUF_LATCH_CAPS then s.messageWord capsWord 5 p.wordIndex.toNat
    else if p.cmdId = MAGIK_UIO_GET_FBUF_LATCH_DIAGNOSTICS then
      s.messageWord s.snapshotWord 6 p.wordIndex.toNat
    else if p.cmdId = MAGIK_UIO_GET_FBUF_LATCH_RECEIPT then
      s.messageWord s.snapshotWord 10 p.wordIndex.toNat
    else if p.cmdId = MAGIK_UIO_GET_FBUF_PRESENTATION_TELEMETRY then
      s.messageWord s.snapshotWord 10 p.wordIndex.toNat
    else 0#16
  else 0#16

/-! ## 4. One clock edge: the responder -/

/-- `GET_FBUF_LATCH`. -/
def statusSnapshot (s : Latch) (p : LatchPorts) : List Word :=
  [s.activeSeq, s.pendingSeq, s.liveStatusFlags p.activeLfbEn, s.flipCount, s.postCount,
    p.activeLfbBase.extractLsb' 0 16, p.activeLfbBase.extractLsb' 16 16,
    0#4 ++ p.activeLfbWidth, 0#4 ++ p.activeLfbHeight, 0#2 ++ p.activeLfbStride,
    s.rejectCount, s.activeRouteEpoch, s.activeTransaction, s.pendingTransaction,
    s.acceptedTransaction]

/-- `GET_FBUF_LATCH_DIAGNOSTICS`. -/
def diagnosticsSnapshot (s : Latch) : List Word :=
  [s.rejectCount, 0#12 ++ s.lastReject.reason, s.lastReject.expectedIndex,
    s.lastReject.observedIndex, s.lastReject.command, s.lastReject.receiverFlags]

/-- `GET_FBUF_LATCH_RECEIPT`: a receiver that is still open is reported as rejected. -/
def receiptSnapshot (s : Latch) : List Word :=
  [if s.rx.isOpen then s.attemptedTransaction else s.receipt.attemptedTransaction,
    if s.rx.isOpen then s.rx.seq else s.receipt.attemptedSequence,
    if s.rx.isOpen then MAGIK_RECEIPT_REJECTED else s.receipt.disposition,
    s.acceptedTransaction, s.acceptedSeq, s.pendingTransaction, s.pendingSeq,
    s.activeTransaction, s.activeSeq,
    if s.rx.isOpen then 0#12 ++ MAGIK_REJECT_MISSING_WORD else 0#12 ++ s.receipt.rejectReason]

/-- `GET_FBUF_PRESENTATION_TELEMETRY`. -/
def telemetrySnapshot (s : Latch) (p : LatchPorts) : List Word :=
  [s.telemetry.ownedVblankCount.extractLsb' 0 16, s.telemetry.ownedVblankCount.extractLsb' 16 16,
    s.telemetry.presentedVblankCount.extractLsb' 0 16,
    s.telemetry.presentedVblankCount.extractLsb' 16 16,
    s.telemetry.repeatedVblankCount.extractLsb' 0 16,
    s.telemetry.repeatedVblankCount.extractLsb' 16 16,
    s.telemetry.ownershipLossCount.extractLsb' 0 16,
    s.telemetry.ownershipLossCount.extractLsb' 16 16,
    s.activeSeq, s.liveStatusFlags p.activeLfbEn]

/-- The first words of the bank, the rest as they were. -/
def fillSnapshot (old : Vector Word 15) (words : List Word) : Vector Word 15 :=
  Vector.ofFn fun i => words.getD i old[i]

/-- A read command starts: its snapshot, the check word of its header, nothing sent yet. -/
def startResponse (old : Latch) (command : BitVec 8) (words : List Word) (count : Word) :
    Responder :=
  { snapshot := fillSnapshot old.tx.snapshot words
    crc := crcHeader command count
    expected := 0
    command }

/-- The next word of the message has been sent. -/
def sendWord (old : Latch) (word : Word) : Responder :=
  { old.tx with crc := crcWord old.tx.crc word, expected := old.tx.expected + 1 }

def nextResponder (old : Latch) (p : LatchPorts) : Responder :=
  if p.cmdStart && p.cmdId == MAGIK_UIO_GET_FBUF_LATCH then
    old.startResponse MAGIK_UIO_GET_FBUF_LATCH (old.statusSnapshot p) 15#16
  else if p.cmdStart && p.cmdId == MAGIK_UIO_GET_FBUF_LATCH_CAPS then
    old.startResponse MAGIK_UIO_GET_FBUF_LATCH_CAPS [] 5#16
  else if p.cmdStart && p.cmdId == MAGIK_UIO_GET_FBUF_LATCH_DIAGNOSTICS then
    old.startResponse MAGIK_UIO_GET_FBUF_LATCH_DIAGNOSTICS old.diagnosticsSnapshot 6#16
  else if p.cmdStart && p.cmdId == MAGIK_UIO_GET_FBUF_LATCH_RECEIPT then
    old.startResponse MAGIK_UIO_GET_FBUF_LATCH_RECEIPT old.receiptSnapshot 10#16
  else if p.cmdStart && p.cmdId == MAGIK_UIO_GET_FBUF_PRESENTATION_TELEMETRY then
    old.startResponse MAGIK_UIO_GET_FBUF_PRESENTATION_TELEMETRY (old.telemetrySnapshot p) 10#16
  else if p.cmdData && p.cmdId == old.tx.command && p.wordIndex == old.tx.expected then
    if old.tx.command == MAGIK_UIO_GET_FBUF_LATCH && p.wordIndex < 15#4 then
      old.sendWord (old.snapshotWord p.wordIndex.toNat)
    else if old.tx.command == MAGIK_UIO_GET_FBUF_LATCH_CAPS && p.wordIndex < 5#4 then
      old.sendWord (capsWord p.wordIndex.toNat)
    else if old.tx.command == MAGIK_UIO_GET_FBUF_LATCH_DIAGNOSTICS && p.wordIndex < 6#4 then
      old.sendWord (old.snapshotWord p.wordIndex.toNat)
    else if old.tx.command == MAGIK_UIO_GET_FBUF_LATCH_RECEIPT && p.wordIndex < 10#4 then
      old.sendWord (old.snapshotWord p.wordIndex.toNat)
    else if old.tx.command == MAGIK_UIO_GET_FBUF_PRESENTATION_TELEMETRY && p.wordIndex < 10#4 then
      old.sendWord (old.snapshotWord p.wordIndex.toNat)
    else old.tx
  else old.tx

/-! ## 5. One clock edge: counters, apply and legacy writes -/

def nextTelemetry (old : Latch) (p : LatchPorts) : Telemetry :=
  let t := old.telemetry
  let t := if p.legacyWrite && old.magikOwnership then
    { t with ownershipLossCount := old.telemetry.ownershipLossCount + 1 } else t
  if old.vblRise && !p.legacyWrite then
    if p.applyAccepted then
      { t with
        ownedVblankCount := old.telemetry.ownedVblankCount + 1
        presentedVblankCount := old.telemetry.presentedVblankCount + 1 }
    else if old.magikOwnership then
      { t with
        ownedVblankCount := old.telemetry.ownedVblankCount + 1
        repeatedVblankCount := old.telemetry.repeatedVblankCount + 1 }
    else t
  else t

/-- A legacy write takes the display away; an accepted apply makes the pending post active. -/
def applyOrLegacy (old : Latch) (p : LatchPorts) (new : Latch) : Latch :=
  if p.legacyWrite then
    { new with
      magikOwnership := false
      activeSeq := 0
      activeTransaction := 0
      acceptedSeq := 0
      acceptedTransaction := 0
      pendingSeq := 0
      pendingTransaction := 0
      pending := false
      activeRouteEpoch := old.activeRouteEpoch + 1 }
  else if p.applyAccepted then
    { new with
      magikOwnership := true
      activeSeq := old.pendingSeq
      activeTransaction := old.pendingTransaction
      pendingSeq := 0
      pendingTransaction := 0
      activeRouteEpoch := old.activeRouteEpoch + 1
      flipCount := old.flipCount + 1
      pending := false }
  else new

/-! ## 6. One clock edge: the SET receiver -/

/-- The writes every rejection makes. -/
def noteReject (old : Latch) (reason : BitVec 4) (observedIndex command : Word) (new : Latch) :
    Latch :=
  { new with
    rejectCount := old.rejectCount + 1
    lastReject :=
      { reason
        expectedIndex := 0#12 ++ old.rx.expected
        observedIndex
        command
        receiverFlags := 0#14 ++ BitVec.ofBool old.rx.faulted ++ BitVec.ofBool old.rx.isOpen }
    receipt := { new.receipt with
      disposition := MAGIK_RECEIPT_REJECTED
      rejectReason := reason } }

/-- A data word that ends the attempt: the rejection, and the receiver faulted and closed. It was
    closed before where the word comes after the end of a message. -/
def rejectWord (old : Latch) (p : LatchPorts) (reason : BitVec 4) (new : Latch) : Latch :=
  let new := old.noteReject reason (0#12 ++ p.wordIndex) (0#8 ++ p.cmdId) new
  { new with rx := { new.rx with isOpen := false, faulted := true } }

/-- Any command start. An open receiver loses its attempt; a SET opens the next one. -/
def receiveStart (old : Latch) (p : LatchPorts) (new : Latch) : Latch :=
  let new :=
    if old.rx.isOpen then
      let reason := if p.cmdId = MAGIK_UIO_SET_FBUF_LATCH then MAGIK_REJECT_RESTARTED
        else MAGIK_REJECT_MISSING_WORD
      let new := old.noteReject reason 0#16 (0#8 ++ p.cmdId) new
      { new with receipt := { new.receipt with
        attemptedTransaction := old.attemptedTransaction
        attemptedSequence := old.rx.seq } }
    else new
  if p.cmdId = MAGIK_UIO_SET_FBUF_LATCH then
    { new with
      attemptedTransaction := old.attemptedTransaction + 1
      receipt :=
        { attemptedTransaction := old.attemptedTransaction + 1
          attemptedSequence := 0
          disposition := MAGIK_RECEIPT_NONE
          rejectReason := MAGIK_REJECT_NONE }
      rx := { new.rx with
        isOpen := true
        faulted := false
        seq := 0
        expected := 0
        mask := 0
        crc := crcHeader MAGIK_UIO_SET_FBUF_LATCH 11#16
        rowSpan := 0
        addressWrap := false } }
  else { new with rx := { new.rx with isOpen := false, faulted := true } }

/-- The register a payload word goes to. -/
def storeWord (old : Receiver) (wordIndex : Nat) (dataIn : Word) (new : Receiver) : Receiver :=
  match wordIndex with
  | 0 => { new with mode := dataIn }
  | 1 => { new with base := old.base.extractLsb' 16 16 ++ dataIn }
  | 2 => { new with base := dataIn ++ old.base.extractLsb' 0 16 }
  | 3 => { new with widthWord := dataIn }
  | 4 => { new with heightWord := dataIn }
  | 5 => { new with hminWord := dataIn }
  | 6 => { new with hmaxWord := dataIn }
  | 7 => { new with vminWord := dataIn }
  | 8 => { new with vmaxWord := dataIn }
  | 9 => { new with strideWord := dataIn, rowSpan := old.nextRowSpan dataIn }
  | 10 => { new with
            seq := dataIn
            addressWrap := 0x100000000#33 < old.pipelinedEndAddress }
  | _ => new

/-- The expected payload word. -/
def receivePayload (old : Latch) (p : LatchPorts) (new : Latch) : Latch :=
  { new with
    rx := storeWord old.rx p.wordIndex.toNat p.dataIn
      { new.rx with
        mask := old.rx.mask ||| (1#11 <<< p.wordIndex.toNat)
        crc := crcWord old.rx.crc p.dataIn
        expected := old.rx.expected + 1 }
    receipt := if p.wordIndex = 10#4 then { new.receipt with attemptedSequence := p.dataIn }
      else new.receipt }

/-- The post is accepted. -/
def commit (old new : Latch) : Latch :=
  { new with
    route := old.rx.route
    pendingSeq := old.rx.seq
    pendingTransaction := old.attemptedTransaction
    acceptedTransaction := old.attemptedTransaction
    acceptedSeq := old.rx.seq
    pending := true
    postCount := old.postCount + 1
    lastReject := { new.lastReject with reason := MAGIK_REJECT_NONE }
    receipt := { new.receipt with
      disposition := MAGIK_RECEIPT_ACCEPTED
      rejectReason := MAGIK_REJECT_NONE }
    rx := { new.rx with isOpen := false, faulted := false } }

/-- The check word of a complete payload. -/
def receiveCheck (old : Latch) (p : LatchPorts) (new : Latch) : Latch :=
  if old.rx.mask != 0x7FF#11 then old.rejectWord p MAGIK_REJECT_MISSING_WORD new
  else if p.dataIn != old.rx.crc ^^^ MAGIK_CRC_FINAL_XOR then
    old.rejectWord p MAGIK_REJECT_BAD_CRC new
  else if old.pending then
    old.rejectWord p MAGIK_REJECT_PENDING_BUSY { new with dropCount := old.dropCount + 1 }
  else if old.rx.semanticReject != MAGIK_REJECT_NONE then
    old.rejectWord p old.rx.semanticReject new
  else old.commit new

/-- A data word of a SET command. -/
def receiveWord (old : Latch) (p : LatchPorts) (new : Latch) : Latch :=
  if !old.rx.isOpen then
    if !old.rx.faulted then old.rejectWord p MAGIK_REJECT_POST_CLOSE new else new
  else if p.wordIndex < old.rx.expected && p.wordIndex + 1 == old.rx.expected then
    old.rejectWord p MAGIK_REJECT_DUPLICATE_WORD new
  else if p.wordIndex < old.rx.expected then old.rejectWord p MAGIK_REJECT_OUT_OF_ORDER new
  else if p.wordIndex == 11#4 && old.rx.expected != 11#4 then
    old.rejectWord p MAGIK_REJECT_MISSING_WORD new
  else if old.rx.expected < p.wordIndex then old.rejectWord p MAGIK_REJECT_SHIFTED_WORD new
  else if p.wordIndex < 11#4 then old.receivePayload p new
  else old.receiveCheck p new

def receive (old : Latch) (p : LatchPorts) (new : Latch) : Latch :=
  if p.cmdStart then old.receiveStart p new
  else if p.cmdData && p.cmdId == MAGIK_UIO_SET_FBUF_LATCH then old.receiveWord p new
  else new

/-- The synchroniser, the responder and the telemetry. -/
def sample (old : Latch) (p : LatchPorts) : Latch :=
  { old with
    vblMeta := p.hdmiVbl
    vblSys := old.vblMeta
    vblOld := old.vblSys
    tx := old.nextResponder p
    telemetry := old.nextTelemetry p }

/-- One clock edge. -/
def next (old : Latch) (p : LatchPorts) : Latch :=
  old.receive p (old.applyOrLegacy p (old.sample p))

end Latch

end MisterMagik.Fpga
