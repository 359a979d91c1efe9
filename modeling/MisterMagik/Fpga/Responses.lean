/-
  File:      MisterMagik/Fpga/Responses.lean
  Subject:   What the host reads: the messages of the five read commands, over any run.

  The responder takes its snapshot when the command starts. Whatever the inputs do between the
  words of the frame (a blank that applies the pending post included), the words sent are those of
  that snapshot.

  * `Sends` -- the responder has sent a prefix of a message;
  * `responder_follows` -- in a frame of a read command it has sent as many words as the frame has;
  * `replies_eq` -- the words the host gets, in order: the message and its check word.
-/
import MisterMagik.Fpga.Stream

namespace MisterMagik.Fpga

/-! ## 1. Read commands -/

inductive ReadCommand where
  | status
  | capabilities
  | diagnostics
  | receipt
  | telemetry
  deriving DecidableEq

namespace ReadCommand

def byte : ReadCommand → BitVec 8
  | .status => MAGIK_UIO_GET_FBUF_LATCH
  | .capabilities => MAGIK_UIO_GET_FBUF_LATCH_CAPS
  | .diagnostics => MAGIK_UIO_GET_FBUF_LATCH_DIAGNOSTICS
  | .receipt => MAGIK_UIO_GET_FBUF_LATCH_RECEIPT
  | .telemetry => MAGIK_UIO_GET_FBUF_PRESENTATION_TELEMETRY

/-- The words of the message in front of its check word. -/
def count : ReadCommand → Nat
  | .status => 15
  | .capabilities => 5
  | .diagnostics => 6
  | .receipt => 10
  | .telemetry => 10

/-- What the command start puts in the snapshot; the capabilities are constants. -/
def stored (c : ReadCommand) (s : Latch) (p : LatchPorts) : List Word :=
  match c with
  | .status => s.statusSnapshot p
  | .capabilities => []
  | .diagnostics => s.diagnosticsSnapshot
  | .receipt => s.receiptSnapshot
  | .telemetry => s.telemetrySnapshot p

/-- The message a command started in this state is answered with. -/
def message (c : ReadCommand) (s : Latch) (p : LatchPorts) : List Word :=
  match c with
  | .capabilities =>
      [MAGIK_FBUF_PROTOCOL_VERSION, MAGIK_FBUF_CAPS_FLAGS, MAGIK_FBUF_MAX_WIDTH,
        MAGIK_FBUF_MAX_HEIGHT, MAGIK_FBUF_MAX_STRIDE]
  | c => c.stored s p

/-- The word the responder sends at an index. -/
def word (c : ReadCommand) (tx : Responder) (i : Nat) : Word :=
  match c with
  | .capabilities => Latch.capsWord i
  | _ => tx.snapshot.toList.getD i 0#16

@[simp] theorem length_message (c : ReadCommand) (s : Latch) (p : LatchPorts) :
    (c.message s p).length = c.count := by
  cases c <;> rfl

theorem count_le (c : ReadCommand) : c.count ≤ 15 := by
  cases c <;> decide

theorem byte_ne_set (c : ReadCommand) : c.byte ≠ MAGIK_UIO_SET_FBUF_LATCH := by
  cases c <;> decide

end ReadCommand

/-! ## 2. One clock edge -/

namespace Latch

variable {s : Latch} {p : LatchPorts} {c : ReadCommand}

theorem responseData_data (hs : p.cmdStart = false) (hd : p.cmdData = true)
    (hid : p.cmdId = c.byte) :
    s.responseData p = s.messageWord (c.word s.tx) c.count p.wordIndex.toNat := by
  unfold responseData
  rw [hs, hd, hid]
  cases c <;> rfl

theorem responseValid_data (hd : p.cmdData = true) (hid : p.cmdId = c.byte) :
    responseValid p = true := by
  unfold responseValid
  rw [hd, hid]
  cases c <;> simp [ReadCommand.byte]

theorem nextResponder_start (hs : p.cmdStart = true) (hid : p.cmdId = c.byte) :
    s.nextResponder p = s.startResponse c.byte (c.stored s p) (BitVec.ofNat 16 c.count) := by
  unfold nextResponder
  rw [hs, hid]
  cases c <;> rfl

theorem nextResponder_data (hs : p.cmdStart = false) (hd : p.cmdData = true)
    (hid : p.cmdId = c.byte) (ht : s.tx.command = c.byte) :
    s.nextResponder p =
      if p.wordIndex = s.tx.expected ∧ p.wordIndex.toNat < c.count then
        s.sendWord (c.word s.tx p.wordIndex.toNat)
      else s.tx := by
  unfold nextResponder
  rw [hs, hd, hid, ht]
  by_cases hw : p.wordIndex = s.tx.expected
  · cases c <;>
      simp [ReadCommand.byte, ReadCommand.word, ReadCommand.count, hw, BitVec.lt_def, snapshotWord,
        MAGIK_UIO_GET_FBUF_LATCH, MAGIK_UIO_GET_FBUF_LATCH_CAPS,
        MAGIK_UIO_GET_FBUF_LATCH_DIAGNOSTICS, MAGIK_UIO_GET_FBUF_LATCH_RECEIPT,
        MAGIK_UIO_GET_FBUF_PRESENTATION_TELEMETRY]
  · simp [hw]

theorem nextResponder_quiet (hs : p.cmdStart = false) (hd : p.cmdData = false) :
    s.nextResponder p = s.tx := by
  simp [nextResponder, hs, hd]

/-- The bank holds what was put in it. -/
theorem getD_fillSnapshot (old : Vector Word 15) (words : List Word) {i : Nat} (h : i < 15)
    (hi : i < words.length) :
    (fillSnapshot old words).toList.getD i 0#16 = words.getD i 0#16 := by
  simp [fillSnapshot, List.getD_eq_getElem?_getD, h, hi]

end Latch

/-! ## 3. Over a frame -/

/-- The responder has sent the first `sent` words of a message. -/
structure Sends (tx : Responder) (c : ReadCommand) (words : List Word) (sent : Nat) : Prop where
  command : tx.command = c.byte
  expected : tx.expected = BitVec.ofNat 4 (min sent c.count)
  crc : tx.crc =
    (words.take sent).foldl crcWord (crcHeader c.byte (BitVec.ofNat 16 c.count))
  word : ∀ i, i < c.count → c.word tx i = words.getD i 0#16

namespace Sends

variable {s : Latch} {p : LatchPorts} {c : ReadCommand} {words : List Word} {sent : Nat}

/-- A read command starts: nothing sent yet of the message of this state. -/
theorem start (s : Latch) (p : LatchPorts) (c : ReadCommand) :
    Sends (s.startResponse c.byte (c.stored s p) (BitVec.ofNat 16 c.count)) c (c.message s p)
      0 where
  command := rfl
  expected := by rw [Nat.zero_min]; rfl
  crc := rfl
  word := by
    intro i hi
    have h15 : i < 15 := Nat.lt_of_lt_of_le hi c.count_le
    cases c with
    | capabilities =>
        obtain rfl | rfl | rfl | rfl | rfl : i = 0 ∨ i = 1 ∨ i = 2 ∨ i = 3 ∨ i = 4 := by
          have : i < 5 := hi
          omega
        all_goals rfl
    | status => exact Latch.getD_fillSnapshot _ (s.statusSnapshot p) h15 hi
    | diagnostics => exact Latch.getD_fillSnapshot _ s.diagnosticsSnapshot h15 hi
    | receipt => exact Latch.getD_fillSnapshot _ s.receiptSnapshot h15 hi
    | telemetry => exact Latch.getD_fillSnapshot _ (s.telemetrySnapshot p) h15 hi

/-- **The next word of the frame sends the next word of the message**, while there is one. -/
theorem data (h : Sends s.tx c words sent) (hlen : words.length = c.count)
    (hs : p.cmdStart = false) (hd : p.cmdData = true) (hid : p.cmdId = c.byte)
    (hw : p.wordIndex = BitVec.ofNat 4 sent) : Sends (s.nextResponder p) c words (sent + 1) := by
  have hc := c.count_le
  rw [Latch.nextResponder_data hs hd hid h.command]
  by_cases hlt : sent < c.count
  · have hi : p.wordIndex.toNat = sent := by
      rw [hw, BitVec.toNat_ofNat, Nat.mod_eq_of_lt (by omega)]
    rw [if_pos ⟨by rw [hw, h.expected, Nat.min_eq_left (Nat.le_of_lt hlt)], by omega⟩, hi,
      h.word sent hlt]
    refine ⟨h.command, ?_, ?_, h.word⟩
    · show s.tx.expected + 1 = _
      rw [h.expected, Nat.min_eq_left (Nat.le_of_lt hlt), Nat.min_eq_left hlt,
        Nat.succ_eq_add_one, BitVec.ofNat_add]
      rfl
    · show crcWord s.tx.crc _ = _
      rw [h.crc, List.take_add_one, List.foldl_append,
        List.getElem?_eq_getElem (show sent < words.length by omega), Option.toList_some,
        List.foldl_cons, List.foldl_nil, List.getD_eq_getElem?_getD,
        List.getElem?_eq_getElem (show sent < words.length by omega)]
      rfl
  · -- the message is at its end: the index never meets `expected` again below the count
    rw [if_neg]
    · refine ⟨h.command, ?_, ?_, h.word⟩
      · rw [h.expected, Nat.min_eq_right (by omega), Nat.min_eq_right (by omega)]
      · rw [h.crc, List.take_of_length_le (by omega), List.take_of_length_le (by omega)]
    · rintro ⟨he, hi⟩
      rw [he, h.expected, Nat.min_eq_right (by omega), BitVec.toNat_ofNat,
        Nat.mod_eq_of_lt (by omega)] at hi
      omega

/-- The word on the wire at an index the message or its check word has. -/
theorem reply (h : Sends s.tx c words sent) (hlen : words.length = c.count)
    (hs : p.cmdStart = false) (hd : p.cmdData = true) (hid : p.cmdId = c.byte)
    (hw : p.wordIndex = BitVec.ofNat 4 sent) (hsent : sent ≤ c.count) :
    s.responseData p = (words ++ [messageCrc c.byte words]).getD sent 0#16 := by
  have hc := c.count_le
  have hi : p.wordIndex.toNat = sent := by
    rw [hw, BitVec.toNat_ofNat, Nat.mod_eq_of_lt (by omega)]
  rw [Latch.responseData_data hs hd hid, Latch.messageWord, hi]
  rcases Nat.lt_or_eq_of_le hsent with hlt | rfl
  · rw [if_pos hlt, h.word sent hlt, List.getD_eq_getElem?_getD, List.getD_eq_getElem?_getD,
      List.getElem?_append_left (by omega)]
  · rw [if_neg (Nat.lt_irrefl _), if_pos rfl, h.crc, ← hlen, List.take_length,
      List.getD_eq_getElem?_getD, List.getElem?_append_right (Nat.le_refl _), Nat.sub_self,
      messageCrc]
    rfl

end Sends

section Run

variable {inp : Stimulus} {n : Nat} {f : Frame} {c : ReadCommand}

/-- The message of a read command that starts at cycle `r`. -/
def messageAt (inp : Stimulus) (c : ReadCommand) (r : Nat) : List Word :=
  c.message (latchAt inp r) (portsAt inp r)

@[simp] theorem length_messageAt (inp : Stimulus) (c : ReadCommand) (r : Nat) :
    (messageAt inp c r).length = c.count := ReadCommand.length_message ..

theorem tx_succ (inp : Stimulus) (n : Nat) :
    (latchAt inp (n + 1)).tx = (latchAt inp n).nextResponder (portsAt inp n) := by
  rw [latchAt_succ]
  exact (Latch.next_untouched _ _).2.2.1

/-- **The responder follows the frame**: it has sent as many words as the frame has, of the message
    its command start took. -/
theorem responder_follows (h : frame inp n = some f) (hc : f.command = c.byte) :
    Sends (latchAt inp n).tx c (messageAt inp c f.start) f.words.length := by
  induction n generalizing f with
  | zero => cases h
  | succ n ih =>
      rw [tx_succ]
      cases hst : (portsAt inp n).cmdStart with
      | true =>
          obtain ⟨-, hf⟩ := start_frame hst
          obtain rfl := Option.some.inj (h.symm.trans hf)
          rw [Latch.nextResponder_start hst hc]
          exact Sends.start _ _ c
      | false =>
          cases hd : (portsAt inp n).cmdData with
          | true =>
              obtain ⟨g, hg, hid, hw, hf⟩ := data_frame hd
              obtain rfl := Option.some.inj (h.symm.trans hf)
              rw [List.length_append]
              exact (ih hg hc).data (by simp) hst hd (hid.trans hc) hw
          | false =>
              rcases quiet_frame hst hd with e | e
              · rw [e] at h
                cases h
              · rw [Latch.nextResponder_quiet hst hd]
                exact ih (e.symm.trans h) hc

/-- The words the data words of the frame were answered with, in order. -/
def replies (inp : Stimulus) : Nat → List Word
  | 0 => []
  | n + 1 =>
      if (portsAt inp n).cmdStart then []
      else if (portsAt inp n).cmdData && Latch.responseValid (portsAt inp n) then
        replies inp n ++ [(bridgeRun inp n).responseData (inp.input n)]
      else replies inp n

/-- **What the host reads**: in order, the message of the command start and its check word. -/
theorem replies_eq (h : frame inp n = some f) (hc : f.command = c.byte)
    (hlen : f.words.length ≤ c.count + 1) :
    replies inp n =
      (messageAt inp c f.start ++ [messageCrc c.byte (messageAt inp c f.start)]).take
        f.words.length := by
  induction n generalizing f with
  | zero => cases h
  | succ n ih =>
      cases hst : (portsAt inp n).cmdStart with
      | true =>
          obtain ⟨-, hf⟩ := start_frame hst
          obtain rfl := Option.some.inj (h.symm.trans hf)
          rw [replies, if_pos hst]
          rfl
      | false =>
          cases hd : (portsAt inp n).cmdData with
          | true =>
              obtain ⟨g, hg, hid, hw, hf⟩ := data_frame hd
              obtain rfl := Option.some.inj (h.symm.trans hf)
              rw [List.length_append, List.length_singleton] at hlen
              have hreply : (bridgeRun inp n).responseData (inp.input n) = _ :=
                (responder_follows hg hc).reply (by simp) hst hd (hid.trans hc) hw (by omega)
              have hvalid := Latch.responseValid_data hd (hid.trans hc)
              rw [replies, hst, if_neg Bool.false_ne_true, hd, hvalid, Bool.and_self, if_pos rfl,
                ih hg hc (by omega), hreply, List.length_append, List.length_singleton,
                List.take_add_one, List.getD_eq_getElem?_getD,
                List.getElem?_eq_getElem (by simp; omega)]
              rfl
          | false =>
              rcases quiet_frame hst hd with e | e
              · rw [e] at h
                cases h
              · rw [replies, hst, if_neg Bool.false_ne_true, hd, Bool.false_and,
                  if_neg Bool.false_ne_true]
                exact ih (e.symm.trans h) hc hlen

/-- A read command was started at cycle `r`, and before cycle `n` all its words were read. -/
def ReadOut (inp : Stimulus) (c : ReadCommand) (r n : Nat) : Prop :=
  ∃ words, frame inp n = some { start := r, command := c.byte, words } ∧
    words.length = c.count + 1

/-- Reading a command out is strobing it and one word for each word of its answer. -/
theorem Strobes.readOut {r : Nat}
    (h : Strobes inp r ((0#8 ++ c.byte) :: List.replicate (c.count + 1) 0#16))
    (hr : frame inp r = none) : ReadOut inp c r (r + c.count + 2) := by
  refine ⟨List.replicate (c.count + 1) 0#16, ?_, List.length_replicate⟩
  have hf := h.frame_eq hr (Nat.le_refl _)
  rw [List.take_length, List.length_replicate] at hf
  rw [show (0#8 ++ c.byte).extractLsb' 0 8 = c.byte by cases c <;> rfl] at hf
  exact hf

theorem ReadOut.replies {r : Nat} (h : ReadOut inp c r n) :
    replies inp n = messageAt inp c r ++ [messageCrc c.byte (messageAt inp c r)] := by
  obtain ⟨words, hf, hlen⟩ := h
  rw [replies_eq hf rfl (Nat.le_of_eq hlen)]
  dsimp only
  rw [hlen, List.take_of_length_le (by simp)]

theorem ReadOut.start {r : Nat} (h : ReadOut inp c r n) :
    (portsAt inp r).cmdStart = true ∧ (portsAt inp r).cmdId = c.byte := by
  obtain ⟨words, hf, -⟩ := h
  obtain ⟨-, hs, hid, -⟩ := frame_origin hf
  exact ⟨hs, hid⟩

end Run

end MisterMagik.Fpga
