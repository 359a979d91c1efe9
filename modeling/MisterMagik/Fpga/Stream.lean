/-
  File:      MisterMagik/Fpga/Stream.lean
  Subject:   The strobes of the word stream as the latch sees them, cycle by cycle of a run.

  * `start_frame`, `data_frame`, `quiet_frame` -- what a cycle does to the frame;
  * `frame_origin` -- a frame goes back to its command word without a break;
  * `Strobes.frame_eq` -- words strobed one after the other are a frame.
-/
import MisterMagik.Fpga.Bridge
import MisterMagik.Fpga.Edge

namespace MisterMagik.Fpga

variable {inp : Stimulus} {n : Nat}

/-- The ports of the latch at cycle `n`. -/
def portsAt (inp : Stimulus) (n : Nat) : LatchPorts :=
  (bridgeRun inp n).latchPorts (inp.input n)

/-- The latch before cycle `n`. -/
def latchAt (inp : Stimulus) (n : Nat) : Latch := (bridgeRun inp n).latch

theorem latchAt_succ (inp : Stimulus) (n : Nat) :
    latchAt inp (n + 1) = (latchAt inp n).next (portsAt inp n) := by
  unfold latchAt
  rw [bridgeRun_succ, Bridge.latch_next]
  rfl

theorem Bridge.driven (s : Bridge) (p : BridgePorts) : s.latch.Driven (s.latchPorts p) where
  apply := rfl
  legacy := by
    intro h
    have hl : s.commandData p = true ∧ s.command = 0x2F#8 := by
      have h : s.legacyWrite p = true := h
      simp only [Bridge.legacyWrite, Bool.and_eq_true, beq_iff_eq] at h
      exact h.1
    obtain ⟨hd, hc⟩ := hl
    simp only [Bridge.commandData, Bool.and_eq_true] at hd
    constructor
    · simp [Bridge.latchPorts, Bridge.commandStart, hd]
    · simp [Bridge.latchPorts, LatchPorts.setData, Bridge.commandId, hd, hc,
        MAGIK_UIO_SET_FBUF_LATCH]

theorem driven_at (inp : Stimulus) (n : Nat) : (latchAt inp n).Driven (portsAt inp n) :=
  Bridge.driven _ _

/-- A strobe outside a frame starts a command; it opens a frame with its low byte. -/
theorem start_frame (h : (portsAt inp n).cmdStart = true) :
    frame inp n = none ∧ frame inp (n + 1) =
      some { start := n, command := (portsAt inp n).cmdId, words := [] } := by
  simp only [portsAt, Bridge.latchPorts, Bridge.commandStart, Bool.and_eq_true,
    Bool.not_eq_true'] at h
  obtain ⟨⟨hu, hs⟩, hc⟩ := h
  have hf := framing inp n
  cases hfr : frame inp n with
  | some f =>
      rw [hfr] at hf
      exact absurd (hf.1.symm.trans hc) (by decide)
  | none =>
      refine ⟨rfl, ?_⟩
      rw [frame_succ, hfr]
      simp [hu, hs, portsAt, Bridge.latchPorts, Bridge.commandId, hc]

/-- A strobe inside a frame is a data word of its command. -/
theorem data_frame (h : (portsAt inp n).cmdData = true) :
    ∃ f, frame inp n = some f ∧ (portsAt inp n).cmdId = f.command ∧
      (portsAt inp n).wordIndex = BitVec.ofNat 4 f.words.length ∧
      frame inp (n + 1) = some { f with words := f.words ++ [(portsAt inp n).dataIn] } := by
  simp only [portsAt, Bridge.latchPorts, Bridge.commandData, Bool.and_eq_true] at h
  obtain ⟨⟨hu, hs⟩, hc⟩ := h
  have hf := framing inp n
  cases hfr : frame inp n with
  | none =>
      rw [hfr] at hf
      exact absurd (hc.symm.trans hf) (by decide)
  | some f =>
      rw [hfr] at hf
      obtain ⟨-, hcmd, hcount⟩ := hf
      refine ⟨f, rfl, ?_, ?_, ?_⟩
      · simp [portsAt, Bridge.latchPorts, Bridge.commandId, hc, hcmd]
      · simp only [portsAt, Bridge.latchPorts, Bridge.activeWordIndex, hcount]
        apply BitVec.eq_of_toNat_eq
        simp only [BitVec.extractLsb'_toNat, BitVec.toNat_ofNat, Nat.shiftRight_zero]
        omega
      · rw [frame_succ, hfr]
        simp [hu, hs, portsAt, Bridge.latchPorts]

/-- Without a strobe a frame goes on or ends. -/
theorem quiet_frame (hs : (portsAt inp n).cmdStart = false) (hd : (portsAt inp n).cmdData = false) :
    frame inp (n + 1) = none ∨ frame inp (n + 1) = frame inp n := by
  rw [frame_succ]
  cases hu : (inp.input n).ioUio with
  | false => exact .inl (by simp)
  | true =>
      refine .inr ?_
      have hst : (inp.input n).ioStrobe = false := by
        simp only [portsAt, Bridge.latchPorts, Bridge.commandStart, Bridge.commandData, hu,
          Bool.true_and] at hs hd
        cases hst : (inp.input n).ioStrobe with
        | false => rfl
        | true =>
            rw [hst, Bool.true_and] at hs hd
            rw [hd] at hs
            cases hs
      simp [hst]

theorem setData_iff : (portsAt inp n).setData = true ↔
    (portsAt inp n).cmdData = true ∧ (portsAt inp n).cmdId = MAGIK_UIO_SET_FBUF_LATCH := by
  have hx : (portsAt inp n).cmdData = true → (portsAt inp n).cmdStart = false := by
    intro h
    simp only [portsAt, Bridge.latchPorts, Bridge.commandData, Bool.and_eq_true] at h
    simp [portsAt, Bridge.latchPorts, Bridge.commandStart, h]
  simp only [LatchPorts.setData, Bool.and_eq_true, Bool.not_eq_true', beq_iff_eq]
  exact ⟨fun h => ⟨h.1.2, h.2⟩, fun h => ⟨⟨hx h.1, h.1⟩, h.2⟩⟩

/-- **A frame goes back to its command word**: up to now the stream was in this frame and no other
    command started. -/
theorem frame_origin {f : Frame} (h : frame inp n = some f) :
    f.start < n ∧ (portsAt inp f.start).cmdStart = true ∧
      (portsAt inp f.start).cmdId = f.command ∧
      ∀ j, f.start < j → j ≤ n →
        ∃ g, frame inp j = some g ∧ g.start = f.start ∧ g.command = f.command := by
  induction n generalizing f with
  | zero => cases h
  | succ n ih =>
      have hlast : ∀ g, frame inp n = some g → g.start = f.start → g.command = f.command →
          f.start < n + 1 ∧ (portsAt inp f.start).cmdStart = true ∧
            (portsAt inp f.start).cmdId = f.command ∧
            ∀ j, f.start < j → j ≤ n + 1 →
              ∃ g, frame inp j = some g ∧ g.start = f.start ∧ g.command = f.command := by
        intro g hg hs hc
        obtain ⟨h1, h2, h3, h4⟩ := ih hg
        rw [hs] at h1 h2 h3 h4
        rw [hc] at h3 h4
        refine ⟨Nat.lt_succ_of_lt h1, h2, h3, fun j hj1 hj2 => ?_⟩
        rcases Nat.le_succ_iff.mp hj2 with hj2 | rfl
        · exact h4 j hj1 hj2
        · exact ⟨f, h, rfl, rfl⟩
      cases hst : (portsAt inp n).cmdStart with
      | true =>
          obtain ⟨-, hf⟩ := start_frame hst
          obtain rfl := Option.some.inj (h.symm.trans hf)
          refine ⟨Nat.lt_succ_self n, hst, rfl, fun j h1 h2 => ?_⟩
          obtain rfl : j = n + 1 := Nat.le_antisymm h2 h1
          exact ⟨_, h, rfl, rfl⟩
      | false =>
          cases hdat : (portsAt inp n).cmdData with
          | true =>
              obtain ⟨g, hg, -, -, hf⟩ := data_frame hdat
              obtain rfl := Option.some.inj (h.symm.trans hf)
              exact hlast g hg rfl rfl
          | false =>
              rcases quiet_frame hst hdat with e | e
              · rw [e] at h
                cases h
              · exact hlast f (e.symm.trans h) rfl rfl

/-- No command starts inside a frame. -/
theorem not_start_of_frame {f : Frame} (h : frame inp n = some f) {j : Nat} (h1 : f.start < j)
    (h2 : j ≤ n) : (portsAt inp j).cmdStart = false := by
  obtain ⟨-, -, -, h4⟩ := frame_origin h
  obtain ⟨g, hg, -, -⟩ := h4 j h1 h2
  cases hst : (portsAt inp j).cmdStart with
  | false => rfl
  | true =>
      rw [(start_frame hst).1] at hg
      cases hg

/-- From cycle `r` on, the host strobes these words, one in each cycle. -/
def Strobes (inp : Stimulus) (r : Nat) (words : List Word) : Prop :=
  ∀ i word, words[i]? = some word →
    (inp.input (r + i)).ioUio = true ∧ (inp.input (r + i)).ioStrobe = true ∧
      (inp.input (r + i)).ioDin = word

/-- **Between two commands, a strobed command and its words are a frame.** -/
theorem Strobes.frame_eq {r : Nat} {command : Word} {words : List Word}
    (h : Strobes inp r (command :: words)) (hr : frame inp r = none) {k : Nat}
    (hk : k ≤ words.length) : frame inp (r + k + 1) =
      some { start := r, command := command.extractLsb' 0 8, words := words.take k } := by
  induction k with
  | zero =>
      obtain ⟨hu, hs, hd⟩ := h 0 command rfl
      rw [Nat.add_zero] at hu hs hd ⊢
      simp [frame_succ, hr, hu, hs, hd]
  | succ k ih =>
      have hget : words[k]? = some words[k] := List.getElem?_eq_getElem hk
      obtain ⟨hu, hs, hd⟩ := h (k + 1) words[k] hget
      rw [← Nat.add_assoc] at hu hs hd ⊢
      rw [frame_succ, ih (Nat.le_of_succ_le hk), hu, hs, hd, List.take_add_one, hget]
      rfl

/-- A strobe inside a frame delivers a data word. -/
theorem Strobes.cmdData {r : Nat} {command : Word} {words : List Word}
    (h : Strobes inp r (command :: words)) (hr : frame inp r = none) {k : Nat}
    (hk : k < words.length) : (portsAt inp (r + k + 1)).cmdData = true := by
  obtain ⟨hu, hs, -⟩ := h (k + 1) words[k] (List.getElem?_eq_getElem hk)
  have hf := framing inp (r + k + 1)
  rw [h.frame_eq hr (Nat.le_of_lt hk)] at hf
  rw [← Nat.add_assoc] at hu hs
  simp [portsAt, Bridge.latchPorts, Bridge.commandData, hu, hs, hf.1]

/-- The inputs that strobe a word in each cycle, or end the frame (`none`); the vertical blank
    begins at cycle `vbl` and the display shows nothing. -/
def scripted (script : List (Option Word)) (vbl n : Nat) : BridgePorts :=
  { hdmiVbl := decide (vbl ≤ n)
    ioUio := (script.getD n none).isSome
    ioStrobe := (script.getD n none).isSome
    ioDin := (script.getD n none).getD 0#16
    activeLfbEn := false, activeLfbBase := 0, activeLfbWidth := 0, activeLfbHeight := 0
    activeLfbStride := 0 }

/-- Any words can be strobed to any latch. -/
theorem strobes_scripted (start : Latch) (words : List Word) (vbl : Nat) :
    Strobes { start, input := scripted (words.map some) vbl } 0 words := by
  intro i word h
  simp [scripted, List.getD_eq_getElem?_getD, h]

/-- The protocol's own example of a post, with its check word. -/
def goldenSet : List Word :=
  [0x8014#16, 0x9000#16, 0x227E#16, 0x03C0#16, 0x021C#16, 0x0000#16, 0x03BF#16, 0x0000#16,
    0x021B#16, 0x0780#16, 0x002B#16, 0x1341#16]

end MisterMagik.Fpga
