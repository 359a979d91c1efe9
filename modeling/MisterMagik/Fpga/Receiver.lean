/-
  File:      MisterMagik/Fpga/Receiver.lean
  Subject:   The SET receiver follows the frame of the word stream, over any run.

  While the receiver is open inside a frame, the frame is a SET command and the receive registers
  hold exactly its words so far, each once and in order (`Receiver.Loaded`).

  * `Loaded.receivePayload` -- one more word;
  * `receiver_next` -- what an edge leaves in an open receiver;
  * `receiver_follows` -- at every cycle of every run;
  * `commit_frame` -- what a commit says about the frame it ends.
-/
import MisterMagik.Fpga.Stream

namespace MisterMagik.Fpga

/-! ## 1. The payload registers -/

namespace Receiver

/-- The payload word a receive register holds. -/
def payloadWord (rx : Receiver) : Nat → Word
  | 0 => rx.mode
  | 1 => rx.base.extractLsb' 0 16
  | 2 => rx.base.extractLsb' 16 16
  | 3 => rx.widthWord
  | 4 => rx.heightWord
  | 5 => rx.hminWord
  | 6 => rx.hmaxWord
  | 7 => rx.vminWord
  | 8 => rx.vmaxWord
  | 9 => rx.strideWord
  | 10 => rx.seq
  | _ => 0#16

/-- The receive registers hold the words of a SET frame so far. -/
structure Loaded (rx : Receiver) (words : List Word) : Prop where
  length_le : words.length ≤ 11
  expected : rx.expected = BitVec.ofNat 4 words.length
  mask : rx.mask = BitVec.ofNat 11 (2 ^ words.length - 1)
  crc : rx.crc = words.foldl crcWord (crcHeader MAGIK_UIO_SET_FBUF_LATCH 11#16)
  payload : ∀ i, i < words.length → rx.payloadWord i = words.getD i 0#16
  rowSpan : 10 ≤ words.length →
    rx.rowSpan = rx.heightMinusOne.setWidth 26 * rx.stride.setWidth 26
  addressWrap : 11 ≤ words.length →
    rx.addressWrap = decide (0x100000000#33 < rx.pipelinedEndAddress)

@[simp] theorem hi_append (a b : Word) : (a ++ b).extractLsb' 16 16 = a := by
  apply BitVec.eq_of_getLsbD_eq
  intro i hi
  simp only [BitVec.getLsbD_extractLsb', BitVec.getLsbD_append]
  simp [hi]

@[simp] theorem lo_append (a b : Word) : (a ++ b).extractLsb' 0 16 = b := by
  apply BitVec.eq_of_getLsbD_eq
  intro i hi
  simp only [BitVec.getLsbD_extractLsb', BitVec.getLsbD_append]
  simp [hi]

/-- Storing a word changes that word of the payload and no other. -/
theorem payloadWord_storeWord {old new : Receiver} (hb : new.base = old.base) {j : Nat}
    (hj : j < 11) (dataIn : Word) {i : Nat} :
    (Latch.storeWord old j dataIn new).payloadWord i =
      if i = j then dataIn else new.payloadWord i := by
  match j, hj with
  | 0, _ | 1, _ | 2, _ | 3, _ | 4, _ | 5, _ | 6, _ | 7, _ | 8, _ | 9, _ | 10, _ =>
      match i with
      | 0 | 1 | 2 | 3 | 4 | 5 | 6 | 7 | 8 | 9 | 10 =>
          simp [Latch.storeWord, payloadWord, hb]
      | i + 11 => simp [payloadWord]

/-- A freshly opened receiver holds no word. -/
theorem loaded_nil {rx : Receiver} (he : rx.expected = 0) (hm : rx.mask = 0)
    (hc : rx.crc = crcHeader MAGIK_UIO_SET_FBUF_LATCH 11#16) : rx.Loaded [] where
  length_le := by simp
  expected := by rw [he]; rfl
  mask := by rw [hm]; rfl
  crc := by rw [hc, List.foldl_nil]
  payload := by simp
  rowSpan := by simp
  addressWrap := by simp

theorem mask_concat {n : Nat} (h : n < 11) :
    BitVec.ofNat 11 (2 ^ n - 1) ||| (1#11 <<< n) = BitVec.ofNat 11 (2 ^ (n + 1) - 1) := by
  match n, h with
  | 0, _ | 1, _ | 2, _ | 3, _ | 4, _ | 5, _ | 6, _ | 7, _ | 8, _ | 9, _ | 10, _ => rfl

/-- The registers a stored word leaves alone. -/
theorem storeWord_keeps (old : Receiver) (j : Nat) (dataIn : Word) (new : Receiver) :
    let rx := Latch.storeWord old j dataIn new
    rx.isOpen = new.isOpen ∧ rx.faulted = new.faulted ∧ rx.expected = new.expected ∧
      rx.mask = new.mask ∧ rx.crc = new.crc := by
  unfold Latch.storeWord
  split <;> exact ⟨rfl, rfl, rfl, rfl, rfl⟩

theorem rowSpan_storeWord {old new : Receiver} {j : Nat} (dataIn : Word)
    (hh : new.heightWord = old.heightWord) (h9 : 9 ≤ j)
    (hr : 10 ≤ j → new.rowSpan = new.heightMinusOne.setWidth 26 * new.stride.setWidth 26) :
    (Latch.storeWord old j dataIn new).rowSpan =
      (Latch.storeWord old j dataIn new).heightMinusOne.setWidth 26 *
        (Latch.storeWord old j dataIn new).stride.setWidth 26 := by
  rcases Nat.eq_or_lt_of_le h9 with rfl | h10
  · simp [Latch.storeWord, nextRowSpan, heightMinusOne, height, stride, hh]
  · rcases Nat.eq_or_lt_of_le h10 with rfl | h11
    · exact hr (Nat.le_refl _)
    · obtain ⟨j, rfl⟩ := Nat.exists_eq_add_of_le' h11
      exact hr (by omega)

end Receiver

/-- **One more word of the payload.** -/
theorem Receiver.Loaded.receivePayload {s : Latch} {p : LatchPorts} {new : Latch}
    {words : List Word} (h : s.rx.Loaded words) (hnew : new.rx = s.rx)
    (hw : p.wordIndex = s.rx.expected) (hlt : p.wordIndex < 11#4) :
    (s.receivePayload p new).rx.Loaded (words ++ [p.dataIn]) ∧
      (s.receivePayload p new).rx.isOpen = s.rx.isOpen := by
  have hidx : p.wordIndex.toNat = words.length := by
    rw [hw, h.expected, BitVec.toNat_ofNat]
    exact Nat.mod_eq_of_lt (Nat.lt_of_le_of_lt h.length_le (by decide))
  have hlen : words.length < 11 := by
    rw [← hidx]
    exact BitVec.lt_def.mp hlt
  unfold Latch.receivePayload
  dsimp only
  rw [hidx, hnew]
  generalize hnew' : ({ s.rx with
    mask := s.rx.mask ||| (1#11 <<< words.length)
    crc := crcWord s.rx.crc p.dataIn
    expected := s.rx.expected + 1 } : Receiver) = rx'
  obtain ⟨hopen, -, hexp, hmask, hcrc⟩ := storeWord_keeps s.rx words.length p.dataIn rx'
  have hbase : rx'.base = s.rx.base := by rw [← hnew']
  have hheight : rx'.heightWord = s.rx.heightWord := by rw [← hnew']
  refine ⟨⟨?_, ?_, ?_, ?_, ?_, ?_, ?_⟩, ?_⟩
  · rw [List.length_append]
    exact hlen
  · rw [hexp, ← hnew', h.expected, List.length_append]
    simp [BitVec.ofNat_add]
  · rw [hmask, ← hnew', h.mask, List.length_append]
    exact mask_concat hlen
  · rw [hcrc, ← hnew', h.crc, List.foldl_append]
    rfl
  · intro i hi
    rw [payloadWord_storeWord hbase hlen]
    have hpay : rx'.payloadWord i = s.rx.payloadWord i := by rw [← hnew']; rfl
    rw [List.length_append, List.length_singleton] at hi
    split
    · rename_i e
      rw [e]
      simp
    · rename_i e
      rw [hpay, h.payload i (by omega)]
      simp [List.getElem?_append_left (show i < words.length by omega)]
  · intro h10
    rw [List.length_append, List.length_singleton] at h10
    refine rowSpan_storeWord p.dataIn hheight (by omega) fun h10 => ?_
    have := h.rowSpan h10
    rw [← hnew']
    exact this
  · intro h11
    rw [List.length_append, List.length_singleton] at h11
    rw [show words.length = 10 by omega, ← hnew']
    rfl
  · rw [hopen, ← hnew']

/-- What an edge leaves in an open receiver. -/
theorem Latch.receiver_next (l : Latch) (p : LatchPorts) (ho : (l.next p).rx.isOpen = true) :
    (p.cmdStart = true ∧ p.cmdId = MAGIK_UIO_SET_FBUF_LATCH ∧ (l.next p).rx.Loaded []) ∨
      (p.cmdStart = false ∧ p.setData = false ∧ (l.next p).rx = l.rx) ∨
      (p.setData = true ∧ l.rx.isOpen = true ∧
        ∀ ws, l.rx.Loaded ws → (l.next p).rx.Loaded (ws ++ [p.dataIn])) := by
  have hr := l.next_received p
  have hrx : (l.applyOrLegacy p (l.sample p)).rx = l.rx := by simp
  generalize l.applyOrLegacy p (l.sample p) = new at hr hrx
  generalize l.next p = r at hr ho
  cases hr with
  | start h =>
      rw [Latch.rx_receiveStart] at ho ⊢
      split at ho
      · rename_i hset
        rw [if_pos hset]
        refine .inl ⟨h, hset, Receiver.loaded_nil ?_ ?_ ?_⟩ <;> dsimp only
      · cases ho
  | idle hs hd => exact .inr (.inl ⟨hs, hd, hrx⟩)
  | late hd hc =>
      rw [hrx, hc] at ho
      cases ho
  | postClose | rejected | commit => cases ho
  | payload hd hc hw hlt =>
      exact .inr (.inr ⟨hd, hc, fun ws hl => (hl.receivePayload hrx hw hlt).1⟩)

/-! ## 2. Over a run -/

section Run

variable {inp : Stimulus} {n : Nat}

/-- An open receiver inside a frame has received exactly the words of that frame. -/
def ReceiverFollows (rx : Receiver) (o : Option Frame) : Prop :=
  rx.isOpen = true → ∀ f, o = some f → f.command = MAGIK_UIO_SET_FBUF_LATCH ∧ rx.Loaded f.words

/-- **At every cycle of every run.** -/
theorem receiver_follows (inp : Stimulus) (n : Nat) :
    ReceiverFollows (latchAt inp n).rx (frame inp n) := by
  induction n with
  | zero =>
      rintro - f h
      cases h
  | succ n ih =>
      rw [latchAt_succ]
      have hr := Latch.next_received (latchAt inp n) (portsAt inp n)
      generalize (latchAt inp n).next (portsAt inp n) = r at hr
      intro ho
      cases hr with
      | start h =>
          obtain ⟨-, hf⟩ := start_frame h
          rw [Latch.rx_receiveStart] at ho ⊢
          split at ho
          · rename_i hset
            rw [hf, if_pos hset]
            rintro f e
            obtain rfl := Option.some.inj e
            refine ⟨hset, Receiver.loaded_nil ?_ ?_ ?_⟩ <;> dsimp only
          · cases ho
      | idle hs hd =>
          rw [Latch.rx_applyOrLegacy, Latch.rx_sample] at ho ⊢
          have ih := ih ho
          cases hdata : (portsAt inp n).cmdData with
          | false =>
              rcases quiet_frame hs hdata with e | e
              · rw [e]
                rintro f he
                cases he
              · rwa [e]
          | true =>
              obtain ⟨f, hf, hid, -, -⟩ := data_frame hdata
              have hset : (portsAt inp n).setData = true :=
                setData_iff.mpr ⟨hdata, hid.trans (ih f hf).1⟩
              rw [hset] at hd
              cases hd
      | late hd hc => 
          rw [Latch.rx_applyOrLegacy, Latch.rx_sample, hc] at ho
          cases ho
      | postClose | rejected | commit => cases ho
      | payload hd hc hw hlt =>
          obtain ⟨hdata, -⟩ := setData_iff.mp hd
          obtain ⟨f, hf, -, -, hf'⟩ := data_frame hdata
          obtain ⟨hset, hl⟩ := ih hc f hf
          rw [hf']
          rintro g e
          obtain rfl := Option.some.inj e
          exact ⟨hset, (hl.receivePayload (by simp) hw hlt).1⟩

/-- Cycle `n` accepts a post. -/
def commitAt (inp : Stimulus) (n : Nat) : Prop :=
  (latchAt inp n).commits (portsAt inp n) = true

/-- **What a commit says about the frame it ends**: a SET command with eleven payload words, which
    the receive registers hold, and their check word. -/
theorem commit_frame (h : commitAt inp n) :
    ∃ f, frame inp n = some f ∧ f.command = MAGIK_UIO_SET_FBUF_LATCH ∧ f.words.length = 11 ∧
      (latchAt inp n).rx.Loaded f.words ∧
      (portsAt inp n).dataIn = messageCrc MAGIK_UIO_SET_FBUF_LATCH f.words ∧
      (latchAt inp n).pending = false ∧
      (latchAt inp n).rx.semanticReject = MAGIK_REJECT_NONE ∧
      frame inp (n + 1) = some { f with words := f.words ++ [(portsAt inp n).dataIn] } := by
  unfold commitAt at h
  simp only [Latch.commits, Bool.and_eq_true, beq_iff_eq, Bool.not_eq_true',
    decide_eq_false_iff_not] at h
  obtain ⟨⟨⟨⟨⟨⟨⟨hset, ho⟩, hw⟩, hge⟩, -⟩, hcrc⟩, hpend⟩, hsem⟩ := h
  obtain ⟨hdata, -⟩ := setData_iff.mp hset
  obtain ⟨f, hf, -, -, hf'⟩ := data_frame hdata
  obtain ⟨hcmd, hl⟩ := receiver_follows inp n ho f hf
  have hlen : f.words.length = 11 := by
    have hle := hl.length_le
    rw [hw, hl.expected, BitVec.lt_def, BitVec.toNat_ofNat,
      Nat.mod_eq_of_lt (show f.words.length < 2 ^ 4 by omega)] at hge
    have : (11#4).toNat = 11 := rfl
    omega
  refine ⟨f, hf, hcmd, hlen, hl, ?_, hpend, hsem, hf'⟩
  rw [hcrc, hl.crc, messageCrc, hlen]

end Run

end MisterMagik.Fpga
