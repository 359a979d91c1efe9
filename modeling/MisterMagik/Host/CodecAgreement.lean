/-
  File:      MisterMagik/Host/CodecAgreement.lean
  Subject:   The host codec and the latch agree on every message, in both directions.

  * `encodeSet_words`, `delivered_of_length` -- the words of `encode_set`; any latch can be sent them;
  * `Delivered.post_verdict` -- the words of `encode_set`: accepted if valid, else rejected for the
    first rule the payload breaks;
  * `Delivered.burst_verdict` -- the same words, corrupted inside 16 consecutive bits;
  * `decodeStatus_message` and its siblings -- a message decodes to the registers it was taken from;
  * `open_attempt_receipt` -- a receipt read while an attempt is open is not of the registers
    before its command;
  * `codec_agrees` -- all together, over any run from any latch state.
-/
import MisterMagik.Fpga.Delivery
import MisterMagik.Fpga.Responses
import MisterMagik.Host.LatchContract

namespace MisterMagik.Host

open MisterMagik.Fpga

/-! ## 1. Posts -/

theorem encodeSet_words (payload : LatchSetPayload) : (encodeSet .V5 payload).words =
    payload.words ++ [Fpga.messageCrc MAGIK_UIO_SET_FBUF_LATCH payload.words] := by
  unfold encodeSet
  rw [← messageCrc_eq MAGIK_UIO_SET_FBUF_LATCH .V5]
  rfl

@[simp] theorem length_words (payload : LatchSetPayload) : payload.words.length = 11 := rfl

/-- Any latch can be sent any twelve words. -/
theorem delivered_of_length (start : Latch) {received : List Word}
    (h : received.length = V5_SET_WORDS) :
    ∃ input, Delivered { start, input } 0 V5_SET_WORDS received :=
  ⟨_, Nat.zero_add 11 ▸ (strobes_scripted start (0x57#16 :: received) 0).delivered rfl h⟩

/-- The route a payload asks for. -/
def LatchSetPayload.route (payload : LatchSetPayload) : Route :=
  { en := payload.mode.getLsbD 15
    flt := payload.mode.getLsbD 14
    fmt := payload.mode.setWidth 6
    width := payload.width.setWidth 12
    height := payload.height.setWidth 12
    hmin := payload.destinationLeft.setWidth 12
    hmax := payload.destinationRight.setWidth 12
    vmin := payload.destinationTop.setWidth 12
    vmax := payload.destinationBottom.setWidth 12
    base := payload.base
    stride := payload.stride.setWidth 14 }

/-- The two words of an address put together again. -/
theorem append_halves (v : BitVec 32) : (v >>> 16).setWidth 16 ++ v.setWidth 16 = v := by
  apply BitVec.eq_of_getLsbD_eq
  intro i hi
  rw [BitVec.getLsbD_append]
  by_cases h : i < 16
  · simp [h]
  · simp [h, show 16 + (i - 16) = i by omega, show i - 16 < 16 by omega]

theorem routeOf_words (payload : LatchSetPayload) : routeOf payload.words = payload.route := by
  simp only [routeOf, LatchSetPayload.words, LatchSetPayload.route, List.getD_cons_zero,
    List.getD_cons_succ, append_halves]
  rfl

variable {inp : Stimulus} {r n : Nat}

/-- **A payload delivered whole**: accepted if it is valid, else rejected for the first rule it
    breaks. -/
theorem Delivered.post_verdict {payload : LatchSetPayload}
    (h : Delivered inp r n (encodeSet .V5 payload).words)
    (hp : (latchAt inp r).pending = false) :
    (Payload.Valid payload.words → commitAt inp n ∧
      (latchAt inp (n + 1)).posts = (latchAt inp r).posts.committed payload.route payload.sequence
        (latchAt inp n).attemptedTransaction) ∧
    (¬ Payload.Valid payload.words →
      (latchAt inp (n + 1)).RejectedWith (Payload.postReject payload.words) ∧
      (latchAt inp (n + 1)).posts = (latchAt inp r).posts) := by
  rw [encodeSet_words] at h
  have hj := h.judged (length_words payload)
  constructor
  · intro hv
    have hc := hj.accepted hp rfl hv
    refine ⟨hc, ?_⟩
    rw [posts_commit hc, hj.posts_eq hp, hj.loaded.route_eq (length_words payload),
      hj.loaded.seq_eq (length_words payload), routeOf_words]
    rfl
  · intro hv
    obtain ⟨hrej, hc⟩ := hj.bad_payload hp rfl hv
    exact ⟨hrej, hj.posts_of_not_commit hp hc⟩

/-- An error in one word is such a burst. -/
theorem burstError_word (front back : List Word) {sent received : Word} (h : received ≠ sent) :
    BurstError (front ++ sent :: back) (front ++ received :: back) := by
  refine ⟨by simp, by simpa using h, 16 * front.length, fun i hi => ?_⟩
  by_contra hout
  refine hi ?_
  simp only [transmittedBit, List.flatMap_append, List.flatMap_cons]
  by_cases hlt : i < 16 * front.length
  · rw [List.getElem?_append_left (by rwa [length_flatMap_msbBits]),
      List.getElem?_append_left (by rwa [length_flatMap_msbBits])]
  · rw [← List.append_assoc, ← List.append_assoc, List.getElem?_append_right,
      List.getElem?_append_right]
    all_goals simp
    all_goals omega

/-- **A burst of at most 16 bits** in the words of a payload: `BAD_CRC`, and nothing else moves. -/
theorem Delivered.burst_verdict {payload : LatchSetPayload} {received : List Word}
    (h : Delivered inp r n received) (hp : (latchAt inp r).pending = false)
    (hb : BurstError (encodeSet .V5 payload).words received) :
    (latchAt inp (n + 1)).RejectedWith MAGIK_REJECT_BAD_CRC ∧
      (latchAt inp (n + 1)).posts = (latchAt inp r).posts := by
  rw [encodeSet_words] at hb
  have hlen : received.length = 12 := hb.1
  obtain ⟨front, check, rfl⟩ : ∃ front check, received = front ++ [check] :=
    ⟨received.dropLast, received.getLast (by rintro rfl; cases hlen),
      (List.dropLast_append_getLast _).symm⟩
  rw [List.length_append, List.length_singleton] at hlen
  have hfront : front.length = 11 := by omega
  have hj := h.judged hfront
  have hne : check ≠ Fpga.messageCrc MAGIK_UIO_SET_FBUF_LATCH front := by
    intro e
    -- the sent words leave the remainder zero, so the received ones do not
    have hsent := (remainder_eq_zero_iff MAGIK_UIO_SET_FBUF_LATCH payload.words _).mpr rfl
    have hreceived := (remainder_eq_zero_iff MAGIK_UIO_SET_FBUF_LATCH front check).mpr e
    rw [hfront] at hreceived
    exact burst_detected hb _ (hreceived.trans hsent.symm)
  obtain ⟨hrej, hc⟩ := hj.bad_crc hne
  exact ⟨hrej, hj.posts_of_not_commit hp hc⟩

/-! ## 2. Messages -/

/-- The check word of the message of a read command. -/
def messageCheck (c : ReadCommand) (s : Latch) (p : LatchPorts) : Word :=
  Fpga.messageCrc c.byte (c.message s p)

/-- The capabilities of the latch. -/
def capabilitiesOf (check : Word) : LatchCapabilities :=
  { protocol := .V5
    protocolVersion := MAGIK_FBUF_PROTOCOL_VERSION
    flags := MAGIK_FBUF_CAPS_FLAGS
    maxWidth := MAGIK_FBUF_MAX_WIDTH
    maxHeight := MAGIK_FBUF_MAX_HEIGHT
    maxStrideBytes := MAGIK_FBUF_MAX_STRIDE
    crc := some check }

/-- The status registers. `drop_count` and `accepted_seq` have no word of their own: the decoder
    puts zero and the pending sequence there. -/
def statusOf (s : Latch) (p : LatchPorts) (check : Word) : LatchStatus :=
  { activeSeq := s.activeSeq
    pendingSeq := s.pendingSeq
    flags := s.liveStatusFlags p.activeLfbEn &&& 0x00ff#16
    flipCount := s.flipCount
    postCount := s.postCount
    dropCount := 0#16
    base := p.activeLfbBase
    width := p.activeLfbWidth.setWidth 16
    height := p.activeLfbHeight.setWidth 16
    stride := p.activeLfbStride.setWidth 16
    rejectCount := s.rejectCount
    activeRouteEpoch := s.activeRouteEpoch
    acceptedSeq := s.pendingSeq
    activeTransaction := s.activeTransaction
    pendingTransaction := s.pendingTransaction
    acceptedTransaction := s.acceptedTransaction
    crc := some check }

def diagnosticsOf (s : Latch) (check : Word) : LatchRejectionDiagnostics :=
  { rejectCount := s.rejectCount
    reason := s.lastReject.reason.setWidth 8
    expectedIndex := s.lastReject.expectedIndex
    observedIndex := s.lastReject.observedIndex
    observedCommand := s.lastReject.command
    receiverOpen := s.lastReject.receiverFlags.getLsbD 0
    receiverFaulted := s.lastReject.receiverFlags.getLsbD 1
    crc := check }

/-- The registers of the latch, with the receipt `closed`. -/
def receiptOf (s : Latch) (closed : Receipt) (check : Word) : LatchReceipt :=
  { attemptedTransaction := closed.attemptedTransaction
    attemptedSequence := closed.attemptedSequence
    disposition := closed.disposition
    acceptedTransaction := s.acceptedTransaction
    acceptedSequence := s.acceptedSeq
    pendingTransaction := s.pendingTransaction
    pendingSequence := s.pendingSeq
    activeTransaction := s.activeTransaction
    activeSequence := s.activeSeq
    rejectReason := closed.rejectReason.setWidth 8
    crc := check }

def telemetryOf (s : Latch) (p : LatchPorts) (check : Word) : PresentationTelemetry :=
  { ownedVblankCount := s.telemetry.ownedVblankCount
    presentedVblankCount := s.telemetry.presentedVblankCount
    repeatedVblankCount := s.telemetry.repeatedVblankCount
    ownershipLossCount := s.telemetry.ownershipLossCount
    activeSequence := s.activeSeq
    flags := s.liveStatusFlags p.activeLfbEn &&& 0x00ff#16
    crc := check }

/-! ### Fields -/

theorem word32_eq_append (low high : Word) : word32 low high = high ++ low := by
  unfold word32
  apply BitVec.eq_of_getLsbD_eq
  intro i hi
  rw [BitVec.getLsbD_or, BitVec.getLsbD_shiftLeft, BitVec.getLsbD_setWidth, BitVec.getLsbD_setWidth,
    BitVec.getLsbD_append]
  by_cases h : i < 16
  · simp [h, hi]
  · simp [h, hi, show i - 16 < 32 by omega, BitVec.getLsbD_of_ge low i (Nat.le_of_not_lt h)]

/-- A 32-bit register sent as two words. -/
theorem word32_halves (v : BitVec 32) :
    word32 (v.extractLsb' 0 16) (v.extractLsb' 16 16) = v := by
  rw [word32_eq_append]
  apply BitVec.eq_of_getLsbD_eq
  intro i hi
  rw [BitVec.getLsbD_append, BitVec.getLsbD_extractLsb', BitVec.getLsbD_extractLsb']
  by_cases h : i < 16
  · simp [h]
  · simp [h, show 16 + (i - 16) = i by omega, show i - 16 < 16 by omega]

/-- The reserved bits in front of a narrow field are zero, and masking them changes nothing. -/
theorem and_low_bits {m n : Nat} (hmn : m + n = 16) (v : BitVec n) :
    (0#m ++ v).setWidth 16 &&& BitVec.ofNat 16 (2 ^ n - 1) = v.setWidth 16 := by
  apply BitVec.eq_of_toNat_eq
  have hv : v.toNat < 2 ^ n := v.isLt
  have hpow : 2 ^ n ≤ 2 ^ 16 := Nat.pow_le_pow_right (by decide) (by omega)
  rw [BitVec.toNat_and, BitVec.toNat_setWidth, BitVec.toNat_setWidth, toNat_zero_append,
    BitVec.toNat_ofNat, Nat.mod_eq_of_lt (show v.toNat < 2 ^ 16 by omega),
    Nat.mod_eq_of_lt (show 2 ^ n - 1 < 2 ^ 16 by omega), Nat.and_two_pow_sub_one_eq_mod,
    Nat.mod_eq_of_lt hv]

/-- The check word of a message passes the host's check. -/
theorem verifyCrc_check (c : ReadCommand) (s : Latch) (p : LatchPorts) {check : Word}
    (hc : check = messageCheck c s p) :
    verifyCrc (0#8 ++ c.byte) .V5 (c.message s p) check = .ok () := by
  rw [hc, messageCheck, ← messageCrc_eq c.byte .V5]
  exact verifyCrc_messageCrc _ _ _

/-! ### Decoding -/

section Decode

variable (s : Latch) (p : LatchPorts)

theorem decodeCapabilities_message (check : Word)
    (hc : check = messageCheck .capabilities s p) :
    decodeCapabilities (ReadCommand.capabilities.message s p ++ [check]) =
      .ok (capabilitiesOf check) := by
  have hv := verifyCrc_check .capabilities s p hc
  show (verifyCrc GET_FBUF_LATCH_CAPS .V5 (ReadCommand.capabilities.message s p) check).bind _ = _
  exact congrArg (Except.bind · _) hv

theorem decodeStatus_message (check : Word) (hc : check = messageCheck .status s p) :
    decodeStatus .V5 (ReadCommand.status.message s p ++ [check]) = .ok (statusOf s p check) := by
  have hv := verifyCrc_check .status s p hc
  show (verifyCrc GET_FBUF_LATCH .V5 (ReadCommand.status.message s p) check).bind _ = _
  refine (congrArg (Except.bind · _) hv).trans ?_
  refine congrArg Except.ok ?_
  unfold statusOf
  congr 1
  · exact word32_halves p.activeLfbBase
  · exact and_low_bits (m := 4) rfl p.activeLfbWidth
  · exact and_low_bits (m := 4) rfl p.activeLfbHeight
  · exact and_low_bits (m := 2) rfl p.activeLfbStride

theorem decodeRejectionDiagnostics_message (check : Word)
    (hc : check = messageCheck .diagnostics s p) :
    decodeRejectionDiagnostics .V5 (ReadCommand.diagnostics.message s p ++ [check]) =
      .ok (diagnosticsOf s check) := by
  have hv := verifyCrc_check .diagnostics s p hc
  show (verifyCrc GET_FBUF_LATCH_DIAGNOSTICS .V5 (ReadCommand.diagnostics.message s p) check).bind _
    = _
  refine (congrArg (Except.bind · _) hv).trans (congrArg Except.ok ?_)
  unfold diagnosticsOf
  congr 1
  · show ((0#12 ++ s.lastReject.reason) &&& 0x000f#16).setWidth 8 = _
    rw [show (0#12 ++ s.lastReject.reason) &&& 0x000f#16 = s.lastReject.reason.setWidth 16 from
      and_low_bits (m := 12) rfl s.lastReject.reason]
    simp
  · rw [← Bool.coe_iff_coe]
    exact decide_eq_true_iff.trans (and_bit_ne_zero s.lastReject.receiverFlags (i := 0) (by decide))
  · rw [← Bool.coe_iff_coe]
    exact decide_eq_true_iff.trans (and_bit_ne_zero s.lastReject.receiverFlags (i := 1) (by decide))

/-- The receipt message reports the receipt registers as its command start leaves them: an open
    receiver loses its attempt there. -/
theorem receiptSnapshot_eq (hs : p.cmdStart = true) (hid : p.cmdId = ReadCommand.receipt.byte) :
    s.receiptSnapshot =
      let closed := (s.next p).receipt
      [closed.attemptedTransaction, closed.attemptedSequence, closed.disposition,
        s.acceptedTransaction, s.acceptedSeq, s.pendingTransaction, s.pendingSeq,
        s.activeTransaction, s.activeSeq, 0#12 ++ closed.rejectReason] := by
  have hne : p.cmdId ≠ MAGIK_UIO_SET_FBUF_LATCH := hid ▸ ReadCommand.receipt.byte_ne_set
  dsimp only
  rw [Latch.next, Latch.receive, if_pos hs, Latch.receipt_receiveStart, if_neg hne,
    Latch.receiptSnapshot]
  cases s.rx.isOpen with
  | true => rfl
  | false => simp

theorem decodeReceipt_message (hs : p.cmdStart = true) (hid : p.cmdId = ReadCommand.receipt.byte)
    (check : Word) (hc : check = messageCheck .receipt s p) :
    decodeReceipt (ReadCommand.receipt.message s p ++ [check]) =
      if (s.next p).receipt.disposition = RECEIPT_ACCEPTED ∨
          (s.next p).receipt.disposition = RECEIPT_REJECTED then
        .ok (receiptOf s (s.next p).receipt check)
      else .error ("latch receipt is not terminal: disposition=" ++
        toString (s.next p).receipt.disposition.toNat) := by
  have hv := verifyCrc_check .receipt s p hc
  have hm : ReadCommand.receipt.message s p = _ := receiptSnapshot_eq s p hs hid
  generalize (s.next p).receipt = closed at hm ⊢
  rw [hm] at hv ⊢
  show (verifyCrc GET_FBUF_LATCH_RECEIPT .V5 _ check).bind _ = _
  refine (congrArg (Except.bind · _) hv).trans ?_
  show (if ¬ (closed.disposition = RECEIPT_ACCEPTED ∨ closed.disposition = RECEIPT_REJECTED) then _
    else _) = _
  rw [ite_not]
  congr 2
  unfold receiptOf
  congr 1
  show ((0#12 ++ closed.rejectReason) &&& 0x000f#16).setWidth 8 = _
  rw [show (0#12 ++ closed.rejectReason) &&& 0x000f#16 = closed.rejectReason.setWidth 16 from
    and_low_bits (m := 12) rfl closed.rejectReason]
  simp

/-- **What a receipt is read as**, once all its words are read. -/
theorem decodeReceipt_replies {inp : Stimulus} {r n : Nat} (h : ReadOut inp .receipt r n) :
    decodeReceipt (replies inp n) =
      if (latchAt inp (r + 1)).receipt.disposition = RECEIPT_ACCEPTED ∨
          (latchAt inp (r + 1)).receipt.disposition = RECEIPT_REJECTED then
        .ok (receiptOf (latchAt inp r) (latchAt inp (r + 1)).receipt
          (messageCheck .receipt (latchAt inp r) (portsAt inp r)))
      else .error ("latch receipt is not terminal: disposition=" ++
        toString (latchAt inp (r + 1)).receipt.disposition.toNat) := by
  obtain ⟨hs, hid⟩ := h.start
  rw [h.replies, latchAt_succ]
  exact decodeReceipt_message _ _ hs hid _ rfl

theorem decodePresentationTelemetry_message (check : Word)
    (hc : check = messageCheck .telemetry s p) :
    decodePresentationTelemetry (ReadCommand.telemetry.message s p ++ [check]) =
      .ok (telemetryOf s p check) := by
  have hv := verifyCrc_check .telemetry s p hc
  show (verifyCrc GET_FBUF_PRESENTATION_TELEMETRY .V5 (ReadCommand.telemetry.message s p)
    check).bind _ = _
  refine (congrArg (Except.bind · _) hv).trans (congrArg Except.ok ?_)
  unfold telemetryOf
  congr 1
  · exact word32_halves s.telemetry.ownedVblankCount
  · exact word32_halves s.telemetry.presentedVblankCount
  · exact word32_halves s.telemetry.repeatedVblankCount
  · exact word32_halves s.telemetry.ownershipLossCount

end Decode

/-! ## 3. Agreement -/

/-- What the host's predicates on the flags of a status say. -/
structure FlagsReport (status : LatchStatus) (s : Latch) (p : LatchPorts) : Prop where
  activeEnabled : status.activeEnabled = p.activeLfbEn
  pendingEnabled : status.pendingEnabled = (s.pending && s.route.en)
  pending : status.pending = s.pending
  magikOwnership : status.magikOwnership = s.magikOwnership
  rejectionReason : status.rejectionReason = s.lastReject.reason.setWidth 8

/-- Every flag has a bit of its own in the low byte. -/
theorem status_flags : ∀ (reason : BitVec 4)
    (activeEnabled pendingEnabled pending ownership : Bool),
    let flags := (((0#12 ++ reason) <<< MAGIK_STATUS_REJECT_REASON_SHIFT) |||
      (if activeEnabled then 1#16 <<< MAGIK_STATUS_ACTIVE_ENABLED else 0#16) |||
      (if pendingEnabled then 1#16 <<< MAGIK_STATUS_PENDING_ENABLED else 0#16) |||
      (if pending then 1#16 <<< MAGIK_STATUS_PENDING else 0#16) |||
      (if ownership then 1#16 <<< MAGIK_STATUS_MAGIK_OWNERSHIP else 0#16)) &&& 0x00ff#16
    decide (flags &&& (1#16 <<< STATUS_ACTIVE_ENABLED) ≠ 0) = activeEnabled ∧
      decide (flags &&& (1#16 <<< STATUS_PENDING_ENABLED) ≠ 0) = pendingEnabled ∧
      decide (flags &&& (1#16 <<< STATUS_PENDING) ≠ 0) = pending ∧
      decide (flags &&& (1#16 <<< STATUS_MAGIK_OWNERSHIP) ≠ 0) = ownership ∧
      ((flags >>> STATUS_REJECT_REASON_SHIFT) &&&
        ((1#16 <<< STATUS_REJECT_REASON_WIDTH) - 1#16)).setWidth 8 = reason.setWidth 8 := by
  decide +kernel

theorem flagsReport (s : Latch) (p : LatchPorts) (check : Word) :
    FlagsReport (statusOf s p check) s p := by
  obtain ⟨h1, h2, h3, h4, h5⟩ := status_flags s.lastReject.reason p.activeLfbEn
    (s.pending && s.route.en) s.pending s.magikOwnership
  exact ⟨h1, h2, h3, h4, h5⟩

/-- The reasons of the semantic rules. -/
def semanticReasons : List (BitVec 4) :=
  [MAGIK_REJECT_INVALID_MODE, MAGIK_REJECT_RESERVED, MAGIK_REJECT_INVALID_BASE,
    MAGIK_REJECT_INVALID_GEOMETRY, MAGIK_REJECT_INVALID_STRIDE, MAGIK_REJECT_INVALID_BOUNDS,
    MAGIK_REJECT_ADDRESS_WRAP]

theorem postReject_semantic {words : List Word} (h : ¬ Payload.Valid words) :
    Payload.postReject words ∈ semanticReasons := by
  rcases List.mem_cons.mp (Payload.postReject_cases words) with e | hmem
  · exact absurd ((Payload.postReject_eq_none_iff words).mp e) h
  · exact hmem

/-- A post that stops behind its fourth word, and the receipt read after it. -/
def cutRun : Stimulus :=
  .ofReset (scripted ((0x57#16 :: goldenSet.take 4).map some ++ [none, some 0x5B#16] ++
    List.replicate 11 (some 0#16)) 40)

/-- **A receipt is not of the registers before its command** while an attempt is open: they hold no
    verdict yet, and the receipt read is a rejection. -/
theorem open_attempt_receipt :
    ReadOut cutRun .receipt 6 18 ∧
      (latchAt cutRun 6).receipt.disposition = RECEIPT_NONE ∧
      ∃ receipt, decodeReceipt (replies cutRun 18) = .ok receipt ∧
        receipt.disposition = RECEIPT_REJECTED ∧
        receipt.rejectReason = MAGIK_REJECT_MISSING_WORD.setWidth 8 ∧
        receipt.rejectReason ≠ (latchAt cutRun 6).receipt.rejectReason.setWidth 8 := by
  have h : ReadOut cutRun .receipt 6 18 := ⟨List.replicate 11 0#16, by decide +kernel, rfl⟩
  have hclosed : (latchAt cutRun 7).receipt.disposition = RECEIPT_REJECTED := by decide +kernel
  refine ⟨h, by decide +kernel, _,
    (decodeReceipt_replies h).trans (if_pos (.inr hclosed)), hclosed, ?_, ?_⟩
  · decide +kernel
  · decide +kernel

/-- **Host and latch agree on every message**, over any inputs from any latch state.

    * `encode_set` gives twelve words, the payload's own and their check word, and there are inputs
      that deliver any twelve words to any latch.
    * The words of `encode_set`, delivered in order with nothing pending, are accepted with exactly
      their payload if it is valid, and else rejected for the first rule it breaks.
    * The same words with an error inside 16 consecutive transmitted bits are rejected with
      `BAD_CRC`, and no post register moves.
    * There are inputs that read out any command of any latch, and the words read decode to the
      registers of the command start. A receipt is decoded iff it is terminal; it reports the
      receipt registers as its command start leaves them. -/
theorem codec_agrees :
    (∀ payload : LatchSetPayload,
      (encodeSet .V5 payload).words =
        payload.words ++ [Fpga.messageCrc MAGIK_UIO_SET_FBUF_LATCH payload.words] ∧
      (encodeSet .V5 payload).words.length = V5_SET_WORDS) ∧
    (∀ (start : Latch) (received : List Word), received.length = V5_SET_WORDS →
      ∃ input, Delivered { start, input } 0 V5_SET_WORDS received) ∧
    (∀ (inp : Stimulus) (r n : Nat) (payload : LatchSetPayload),
      Delivered inp r n (encodeSet .V5 payload).words → (latchAt inp r).pending = false →
      (Payload.Valid payload.words → commitAt inp n ∧
        (latchAt inp (n + 1)).posts = (latchAt inp r).posts.committed payload.route
          payload.sequence (latchAt inp n).attemptedTransaction) ∧
      (¬ Payload.Valid payload.words →
        (latchAt inp (n + 1)).RejectedWith (Payload.postReject payload.words) ∧
        Payload.postReject payload.words ∈ semanticReasons ∧
        (latchAt inp (n + 1)).posts = (latchAt inp r).posts)) ∧
    (∀ (inp : Stimulus) (r n : Nat) (payload : LatchSetPayload) (received : List Word),
      Delivered inp r n received → (latchAt inp r).pending = false →
      BurstError (encodeSet .V5 payload).words received →
      (latchAt inp (n + 1)).RejectedWith MAGIK_REJECT_BAD_CRC ∧
      (latchAt inp (n + 1)).posts = (latchAt inp r).posts) ∧
    (∀ (start : Latch) (c : ReadCommand),
      ∃ input, ReadOut { start, input } c 0 (c.count + 2)) ∧
    (∀ (inp : Stimulus) (r n : Nat),
      let s := latchAt inp r
      let p := portsAt inp r
      (ReadOut inp .capabilities r n →
        decodeCapabilities (replies inp n) = .ok (capabilitiesOf (messageCheck .capabilities s p)) ∧
        (capabilitiesOf (messageCheck .capabilities s p)).productionReady = true) ∧
      (ReadOut inp .status r n →
        decodeStatus .V5 (replies inp n) = .ok (statusOf s p (messageCheck .status s p)) ∧
        FlagsReport (statusOf s p (messageCheck .status s p)) s p) ∧
      (ReadOut inp .diagnostics r n →
        decodeRejectionDiagnostics .V5 (replies inp n) =
          .ok (diagnosticsOf s (messageCheck .diagnostics s p))) ∧
      (ReadOut inp .receipt r n →
        let closed := (latchAt inp (r + 1)).receipt
        decodeReceipt (replies inp n) =
          if closed.disposition = RECEIPT_ACCEPTED ∨ closed.disposition = RECEIPT_REJECTED then
            .ok (receiptOf s closed (messageCheck .receipt s p))
          else .error ("latch receipt is not terminal: disposition=" ++
            toString closed.disposition.toNat)) ∧
      (ReadOut inp .telemetry r n →
        decodePresentationTelemetry (replies inp n) =
          .ok (telemetryOf s p (messageCheck .telemetry s p)))) := by
  refine ⟨fun payload => ⟨encodeSet_words payload, rfl⟩, fun start received => delivered_of_length
    start, fun inp r n payload h hp => ?_, fun inp r n payload received h hp hb => ?_,
    fun start c => ?_, fun inp r n => ⟨fun h => ⟨?_, rfl⟩, fun h => ⟨?_, flagsReport _ _ _⟩,
      fun h => ?_, decodeReceipt_replies, fun h => ?_⟩⟩
  · obtain ⟨hacc, hrej⟩ := Delivered.post_verdict h hp
    exact ⟨hacc, fun hv => ⟨(hrej hv).1, postReject_semantic hv, (hrej hv).2⟩⟩
  · exact Delivered.burst_verdict h hp hb
  · have hr := (strobes_scripted start ((0#8 ++ c.byte) :: List.replicate (c.count + 1) 0#16)
      0).readOut rfl
    exact ⟨_, Nat.zero_add c.count ▸ hr⟩
  · rw [h.replies]
    exact decodeCapabilities_message _ _ _ rfl
  · rw [h.replies]
    exact decodeStatus_message _ _ _ rfl
  · rw [h.replies]
    exact decodeRejectionDiagnostics_message _ _ _ rfl
  · rw [h.replies]
    exact decodePresentationTelemetry_message _ _ _ rfl

/-- The payload of the protocol's own example. -/
def goldenPayload : LatchSetPayload :=
  { mode := 0x8014#16, base := 0x227E9000#32, width := 0x03C0#16, height := 0x021C#16
    destinationLeft := 0#16, destinationRight := 0x03BF#16, destinationTop := 0#16
    destinationBottom := 0x021B#16, stride := 0x0780#16, sequence := 0x002B#16 }

/-- The example post, sent and then read back as a receipt. -/
def goldenRun : Stimulus :=
  .ofReset (scripted ((0x57#16 :: goldenSet).map some ++ [none, some 0x5B#16] ++
    List.replicate 11 (some 0#16)) 40)

/-- The example with two bits of its eleventh word flipped. -/
def goldenBurst : List Word := goldenSet.set 10 0x002E#16

theorem codec_agrees_golden :
    (encodeSet .V5 goldenPayload).words = goldenSet ∧ commitAt goldenRun 12 ∧
      (latchAt goldenRun 13).posts.pendingSeq = goldenPayload.sequence ∧
      decodeReceipt (replies goldenRun 26) =
        .ok (receiptOf (latchAt goldenRun 14) (latchAt goldenRun 15).receipt
          (messageCheck .receipt (latchAt goldenRun 14) (portsAt goldenRun 14))) ∧
      (∃ input, let inp := Stimulus.ofReset input
        Delivered inp 0 12 goldenBurst ∧
          (latchAt inp 13).RejectedWith MAGIK_REJECT_BAD_CRC) := by
  obtain ⟨hwords, hsend, hpost, hburst, -, hread⟩ := codec_agrees
  obtain ⟨-, -, -, hreceipt, -⟩ := hread goldenRun 14 26
  have hgolden : (encodeSet .V5 goldenPayload).words = goldenSet := by
    rw [(hwords goldenPayload).1]
    decide +kernel
  have hdelivered : Delivered goldenRun 0 12 (encodeSet .V5 goldenPayload).words :=
    ⟨by decide +kernel, by decide +kernel⟩
  have hread : ReadOut goldenRun .receipt 14 26 :=
    ⟨List.replicate 11 0#16, by decide +kernel, rfl⟩
  have hvalid : Payload.Valid goldenPayload.words := by
    rw [← Payload.postReject_eq_none_iff]
    decide +kernel
  obtain ⟨hcommit, hposts⟩ := (hpost goldenRun 0 12 goldenPayload hdelivered (by decide +kernel)).1
    hvalid
  have hseq : (latchAt goldenRun 13).posts.pendingSeq = goldenPayload.sequence := by
    rw [hposts]
    rfl
  have hterminal : (latchAt goldenRun 15).receipt.disposition = RECEIPT_ACCEPTED := by
    decide +kernel
  refine ⟨hgolden, hcommit, hseq, (hreceipt hread).trans (if_pos (.inl hterminal)), ?_⟩
  obtain ⟨input, hin⟩ := hsend .reset goldenBurst rfl
  refine ⟨input, hin, (hburst _ 0 12 goldenPayload goldenBurst hin rfl ?_).1⟩
  rw [hgolden]
  exact burstError_word (goldenSet.take 10) [0x1341#16] (by decide)

end MisterMagik.Host
