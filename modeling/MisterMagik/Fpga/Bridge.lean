/-
  File:      MisterMagik/Fpga/Bridge.lean
  Subject:   The adapter between the word stream of the host and the latch
             (`mister_magik_latch_sys_top_bridge.sv`), its runs, and the frames of the stream.

  A run gives every input freely at every cycle. `frame` is the history the proofs need: the words
  strobed since `io_uio` went high, the command first.

  * `framing` -- the framing registers are what the frame says.
-/
import MisterMagik.Base.Clocked
import MisterMagik.Fpga.Latch

namespace MisterMagik.Fpga

open MisterMagik.Base.Clocked (run)

/-! ## 1. The adapter -/

/-- The input ports, free at every cycle. -/
structure BridgePorts where
  hdmiVbl : Bool
  ioUio : Bool
  ioStrobe : Bool
  ioDin : Word
  activeLfbEn : Bool
  activeLfbBase : BitVec 32
  activeLfbWidth : BitVec 12
  activeLfbHeight : BitVec 12
  activeLfbStride : BitVec 14

structure Bridge where
  command : BitVec 8
  hasCommand : Bool
  wordCount : BitVec 8
  latch : Latch
  deriving DecidableEq

namespace Bridge

variable (s : Bridge) (p : BridgePorts)

def commandStart : Bool := p.ioUio && p.ioStrobe && !s.hasCommand

def commandData : Bool := p.ioUio && p.ioStrobe && s.hasCommand

def commandId : BitVec 8 := if s.hasCommand then s.command else p.ioDin.extractLsb' 0 8

/-- The latch sees the low four bits of the word counter. -/
def activeWordIndex : BitVec 4 := s.wordCount.extractLsb' 0 4

def legacyWrite : Bool := s.commandData p && s.command == 0x2F#8 && s.wordCount < 10#8

def applyAccepted : Bool := s.latch.apply && !s.legacyWrite p

def latchPorts : LatchPorts :=
  { hdmiVbl := p.hdmiVbl
    cmdStart := s.commandStart p
    cmdData := s.commandData p
    cmdId := s.commandId p
    wordIndex := s.activeWordIndex
    dataIn := p.ioDin
    activeLfbEn := p.activeLfbEn
    activeLfbBase := p.activeLfbBase
    activeLfbWidth := p.activeLfbWidth
    activeLfbHeight := p.activeLfbHeight
    activeLfbStride := p.activeLfbStride
    applyAccepted := s.applyAccepted p
    legacyWrite := s.legacyWrite p }

def responseData : Word := s.latch.responseData (s.latchPorts p)

def next : Bridge :=
  let latch := s.latch.next (s.latchPorts p)
  if !p.ioUio then { command := 0, hasCommand := false, wordCount := 0, latch }
  else if p.ioStrobe then
    if !s.hasCommand then
      { command := p.ioDin.extractLsb' 0 8, hasCommand := true, wordCount := 0, latch }
    else { s with wordCount := s.wordCount + 1, latch }
  else { s with latch }

@[simp] theorem latch_next : (s.next p).latch = s.latch.next (s.latchPorts p) := by
  unfold next
  dsimp only
  split
  · rfl
  · split
    · split <;> rfl
    · rfl

end Bridge

/-! ## 2. Runs -/

/-- What a run is given: the latch it starts with, and the inputs of every cycle. -/
structure Stimulus where
  start : Latch
  input : Nat → BridgePorts

/-- A run from reset. -/
def Stimulus.ofReset (input : Nat → BridgePorts) : Stimulus := { start := .reset, input }

/-- The adapter and the latch over a run, which starts between two commands. -/
def bridgeRun (inp : Stimulus) : Nat → Bridge :=
  run Bridge.next { command := 0, hasCommand := false, wordCount := 0, latch := inp.start }
    inp.input

theorem bridgeRun_succ (inp : Stimulus) (n : Nat) :
    bridgeRun inp (n + 1) = (bridgeRun inp n).next (inp.input n) := rfl

/-- What a `GET`, a `SET` or a legacy command has delivered so far. -/
structure Frame where
  /-- The cycle of the command word. -/
  start : Nat
  command : BitVec 8
  /-- The data words, in order. -/
  words : List Word
  deriving DecidableEq

/-- The frame the stream is in before cycle `n`, from its command word on. -/
def frame (inp : Stimulus) : Nat → Option Frame
  | 0 => none
  | n + 1 =>
      if !(inp.input n).ioUio then none
      else if (inp.input n).ioStrobe then
        match frame inp n with
        | none => some { start := n, command := (inp.input n).ioDin.extractLsb' 0 8, words := [] }
        | some f => some { f with words := f.words ++ [(inp.input n).ioDin] }
      else frame inp n

section Frame

variable {inp : Stimulus} {n : Nat}

theorem frame_succ (inp : Stimulus) (n : Nat) : frame inp (n + 1) =
    if !(inp.input n).ioUio then none
    else if (inp.input n).ioStrobe then
      match frame inp n with
      | none => some { start := n, command := (inp.input n).ioDin.extractLsb' 0 8, words := [] }
      | some f => some { f with words := f.words ++ [(inp.input n).ioDin] }
    else frame inp n := rfl

/-- The framing registers agree with a frame. -/
def Framing (s : Bridge) : Option Frame → Prop
  | none => s.hasCommand = false
  | some f => s.hasCommand = true ∧ s.command = f.command ∧
      s.wordCount = BitVec.ofNat 8 f.words.length

/-- **The framing registers are what the frame says.** -/
theorem framing (inp : Stimulus) (n : Nat) : Framing (bridgeRun inp n) (frame inp n) := by
  induction n with
  | zero => rfl
  | succ n ih =>
      rw [frame_succ, bridgeRun_succ]
      generalize bridgeRun inp n = s at ih
      generalize frame inp n = o at ih
      cases hu : (inp.input n).ioUio with
      | false => simp [Framing, Bridge.next, hu]
      | true =>
          cases hs : (inp.input n).ioStrobe with
          | false => cases o <;> simpa [Framing, Bridge.next, hu, hs] using ih
          | true =>
              cases o with
              | none =>
                  have ih : s.hasCommand = false := ih
                  simp [Framing, Bridge.next, hu, hs, ih]
              | some f =>
                  obtain ⟨h1, h2, h3⟩ := ih
                  simp [Framing, Bridge.next, hu, hs, h1, h2, h3, BitVec.ofNat_add]

end Frame

end MisterMagik.Fpga
