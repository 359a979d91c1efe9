/-
  File:      MisterMagik/Host/Bus.lean
  Subject:   The bus between the host and the latch, word by word, and what may go wrong on it.

  The host raises `IO_EN`, exchanges words and lowers it again. Every exchange may time out, with
  the word strobed or not; a word and its answer may be garbled, but a message only so that its
  check word tells: the latch finds the check word of a garbled SET wrong, the host that of a
  garbled answer. Between any two operations the vertical blank may move and the legacy command may
  come, as long as it brings no hidden slot to the display (`Edge.legacy`).

  * `World` -- the board, the words of the open frame, and the memory of the host;
  * `Transfer`, `Legal` -- one exchange, and what the bus may make of it;
  * `bus` -- the surroundings of a host program;
  * `Open.transfer` -- what one exchange is for the latch;
  * `Line.Faithful.legal` -- a bus without faults is among them;
  * `World.actFaultless` -- what it does, as a function.
-/
import MisterMagik.Base.Program
import MisterMagik.Fpga.Responses
import MisterMagik.Fpga.Scanout

namespace MisterMagik.Host

open MisterMagik.Base MisterMagik.Fpga

/-! ## 1. The board -/

/-- The adapter, the latch, the framebuffer registers and the level of `IO_EN`. -/
structure Board where
  bridge : Bridge
  lfb : Lfb
  ioUio : Bool
  deriving DecidableEq

namespace Board

def scanout (b : Board) : Scanout := ⟨b.bridge.latch, b.lfb⟩

def ports (b : Board) (vbl strobe : Bool) (din : Word) : BridgePorts :=
  { hdmiVbl := vbl
    ioUio := b.ioUio
    ioStrobe := strobe
    ioDin := din
    activeLfbEn := b.lfb.en
    activeLfbBase := b.lfb.base
    activeLfbWidth := b.lfb.width
    activeLfbHeight := b.lfb.height
    activeLfbStride := b.lfb.stride }

def latchPorts (b : Board) (vbl strobe : Bool) (din : Word) : LatchPorts :=
  b.bridge.latchPorts (b.ports vbl strobe din)

/-- One clock cycle without a legacy write. -/
def cycle (b : Board) (vbl strobe : Bool) (din : Word) : Board :=
  { b with
    bridge := b.bridge.next (b.ports vbl strobe din)
    lfb := if b.bridge.applyAccepted (b.ports vbl strobe din) then .ofRoute b.bridge.latch.route
      else b.lfb }

end Board

/-! ## 2. Frames -/

/-- The words of the open frame. -/
structure Line where
  /-- Sent by the host, the command word first. -/
  sent : List Word
  /-- Strobed into the latch. -/
  got : List Word
  /-- What the latch answered to the data words. -/
  replies : List Word
  /-- What the host heard. -/
  heard : List Word
  deriving DecidableEq

def Line.empty : Line := ⟨[], [], [], []⟩

/-- The low byte of a word is the command the adapter takes. -/
def commandOf (word : Word) : BitVec 8 := word.extractLsb' 0 8

/-- The read command a word is. -/
def readCommandOf (word : Word) : Option ReadCommand :=
  [ReadCommand.status, .capabilities, .diagnostics, .receipt, .telemetry].find? fun c =>
    word == 0#8 ++ c.byte

/-- The host has heard a whole message, and its check word is right. -/
def Line.Checks (l : Line) : Prop :=
  match l.sent.head?.bind readCommandOf with
  | some c => l.heard.length = c.count + 1 ∧
      Fpga.messageCrc c.byte (l.heard.take c.count) = l.heard.getD c.count 0#16
  | none => False

instance (l : Line) : Decidable l.Checks := by
  unfold Line.Checks
  split
  · exact inferInstance
  · exact inferInstance

/-- `LatchWireErrorPhase`, of an exchange that timed out: the level of the acknowledge the host gave
    up waiting for. -/
inductive AckPhase where
  | high
  | low
  deriving DecidableEq

/-- What the bus makes of one exchange. -/
structure Transfer where
  vbl : Bool
  /-- The word strobed into the latch, if any. -/
  got : Option Word
  /-- The data the host captures while the acknowledge is high and when it has dropped. -/
  reply : Except AckPhase (Word × Word)

def Transfer.heard (t : Transfer) : Option Word := t.reply.toOption.map (·.2)

/-! ## 3. The world -/

/-- The board, the open frame, and what the host may write besides. -/
structure World (M : Type) where
  board : Board
  line : Line
  memory : M

variable {M : Type}

def World.scanout (w : World M) : Scanout := w.board.scanout

section Transfer

variable (w : World M) (word : Word) (t : Transfer)

/-- The ports of the latch in the cycle of the exchange. -/
def World.transferPorts : LatchPorts :=
  w.board.latchPorts t.vbl t.got.isSome (t.got.getD 0#16)

/-- The exchange accepts a post. -/
def World.commits : Bool := w.board.bridge.latch.commits (w.transferPorts t)

/-- The word the latch answers with. -/
def World.driven : Word := w.board.bridge.latch.responseData (w.transferPorts t)

/-- The frame after the exchange. -/
def World.lineAfter : Line :=
  let l := w.line
  let line := { l with sent := l.sent ++ [word], got := l.got ++ t.got.toList }
  if l.sent.isEmpty then line
  else
    { line with
      replies := l.replies ++ (t.got.map fun _ => w.driven t).toList
      heard := l.heard ++ t.heard.toList }

def World.transfer : World M :=
  { w with
    board := w.board.cycle t.vbl t.got.isSome (t.got.getD 0#16)
    line := w.lineAfter word t }

/-- **What the bus may make of an exchange.** -/
structure Legal : Prop where
  /-- Only a word that arrived is acknowledged. -/
  acknowledged : t.reply.isOk = true → t.got.isSome = true
  /-- No word turns into the legacy command, whose words carry no check word. -/
  command : ∀ g ∈ t.got, w.line.got = [] → commandOf g ≠ 0x2F#8
  /-- A SET command word is not turned into another command. -/
  set : ∀ g ∈ t.got, w.line.sent = [] → commandOf word = MAGIK_UIO_SET_FBUF_LATCH →
    commandOf g = MAGIK_UIO_SET_FBUF_LATCH
  /-- A post the latch accepts is the post that was sent. -/
  post : w.commits t = true → (w.lineAfter word t).got = (w.lineAfter word t).sent
  /-- A message the host finds right is the answer of the latch to the command that was sent. -/
  message : (w.lineAfter word t).Checks →
    (w.lineAfter word t).heard = (w.lineAfter word t).replies ∧
      (w.lineAfter word t).got = (w.lineAfter word t).sent

instance : Decidable (Legal w word t) :=
  decidable_of_iff
    ((t.reply.isOk = true → t.got.isSome = true) ∧
      (∀ g ∈ t.got, w.line.got = [] → commandOf g ≠ 0x2F#8) ∧
      (∀ g ∈ t.got, w.line.sent = [] → commandOf word = MAGIK_UIO_SET_FBUF_LATCH →
        commandOf g = MAGIK_UIO_SET_FBUF_LATCH) ∧
      (w.commits t = true → (w.lineAfter word t).got = (w.lineAfter word t).sent) ∧
      ((w.lineAfter word t).Checks →
        (w.lineAfter word t).heard = (w.lineAfter word t).replies ∧
          (w.lineAfter word t).got = (w.lineAfter word t).sent))
    ⟨fun ⟨h1, h2, h3, h4, h5⟩ => ⟨h1, h2, h3, h4, h5⟩,
      fun ⟨h1, h2, h3, h4, h5⟩ => ⟨h1, h2, h3, h4, h5⟩⟩

end Transfer

/-- What happens without the host: a clock edge with any vertical blank, in which the only command
    on the latch is the legacy one. -/
structure World.Env (bases : SlotBases) (p : LatchPorts) (w w' : World M) : Prop where
  foreign : p.cmdStart = true ∨ p.cmdData = true → p.cmdId = 0x2F#8
  edge : Edge bases w.scanout p w'.scanout
  bridge : w'.board.bridge = { w.board.bridge with latch := w'.board.bridge.latch }
  ioUio : w'.board.ioUio = w.board.ioUio
  line : w'.line = w.line
  memory : w'.memory = w.memory

/-! ## 4. Host programs -/

/-- What a host program does: it takes the lock of the bus and drops it, sets `IO_EN`, exchanges
    words, and does work of its own kinds `C`. -/
inductive DeviceOp (C : Type) where
  | flock
  | funlock
  | setIo (level : Bool)
  | exchange (word : Word)
  | work (c : C)

inductive IoErrorKind where
  | timedOut
  | invalidData
  | other
  deriving DecidableEq

structure IoError where
  kind : IoErrorKind
  message : String
  deriving DecidableEq

structure SpiCapture where
  ackHigh : Word
  ackLow : Word
  deriving DecidableEq

/-- The answers, those of the work as given. -/
def DeviceOp.Res {C : Type} (A : C → Type) : DeviceOp C → Type
  | flock => Except IoError Unit
  | funlock => Unit
  | setIo _ => Unit
  | exchange _ => Except AckPhase SpiCapture
  | work c => A c

/-- `IO_EN` is set; where it is lowered, the frame ends. -/
def World.setIo (w : World M) (level vbl : Bool) : World M :=
  { w with
    board := { w.board with ioUio := level }.cycle vbl false 0#16
    line := if level then w.line else .empty }

/-- The base address in the words of a SET frame so far. -/
def sentBase (sent : List Word) : Option (BitVec 32) :=
  match sent with
  | command :: _ :: low :: high :: _ =>
      if commandOf command = MAGIK_UIO_SET_FBUF_LATCH then some (high ++ low) else none
  | _ => none

/-- The work of a host program: the memory it writes at, if any, and what it makes of it. -/
structure Work (C : Type) (A : C → Type) (M : Type) where
  target : C → Option (BitVec 32)
  act : (c : C) → M → A c × M

/-- **The surroundings of a host program.** Words are exchanged inside a frame only. Work may be
    done on a slot only where its address is safe, and words of a SET with a base may be sent only
    where that address is safe and what the memory holds there is fit to be shown. -/
def bus {C : Type} {A : C → Type} (bases : SlotBases) (work : Work C A M)
    (fit : BitVec 32 → M → Prop) : Surroundings (DeviceOp.Res A) (World M) where
  env w w' := ∃ p, World.Env bases p w w'
  allowed
    | .exchange word, w => w.board.ioUio = true ∧
        ∀ base, sentBase (w.line.sent ++ [word]) = some base →
          Safe base w.scanout ∧ fit base w.memory
    | .work c, w => ∀ base, work.target c = some base → Safe base w.scanout
    | _, _ => True
  does
    | .flock, w, _, w' => w' = w
    | .funlock, w, _, w' => w' = w
    | .setIo level, w, _, w' => ∃ vbl, w' = w.setIo level vbl
    | .exchange word, w, r, w' => ∃ t, Legal w word t ∧
        r = t.reply.map (fun a => ⟨a.1, a.2⟩) ∧ w' = w.transfer word t
    | .work c, w, r, w' => (r, w'.memory) = work.act c w.memory ∧ w' = { w with memory := w'.memory }

/-! ## 5. One exchange -/

/-- Between two frames. -/
structure Closed (w : World M) : Prop where
  ioUio : w.board.ioUio = false
  line : w.line = .empty
  hasCommand : w.board.bridge.hasCommand = false

/-- The framing registers of the adapter say which words the latch got. -/
def Framed (bridge : Bridge) : List Word → Prop
  | [] => bridge.hasCommand = false
  | c :: ws => bridge.hasCommand = true ∧ bridge.command = commandOf c ∧
      commandOf c ≠ 0x2F#8 ∧ bridge.wordCount = BitVec.ofNat 8 ws.length

/-- Inside a frame. -/
structure Open (w : World M) : Prop where
  ioUio : w.board.ioUio = true
  framed : Framed w.board.bridge w.line.got

/-- What an exchange is for the latch. -/
inductive Seen (w : World M) (t : Transfer) (p : LatchPorts) : Prop where
  | nothing (hg : t.got = none) (hs : p.cmdStart = false) (hd : p.cmdData = false)
  | command (g : Word) (hg : t.got = some g) (hl : w.line.got = []) (hs : p.cmdStart = true)
      (hid : p.cmdId = commandOf g)
  | data (g c : Word) (ws : List Word) (hg : t.got = some g) (hl : w.line.got = c :: ws)
      (hs : p.cmdStart = false) (hd : p.cmdData = true) (hid : p.cmdId = commandOf c)
      (hw : p.wordIndex = BitVec.ofNat 4 ws.length) (hin : p.dataIn = g)

variable {bases : SlotBases} {w w' : World M} {word : Word} {t : Transfer}

theorem Board.scanout_cycle_edge (b : Board) {vbl strobe : Bool} {din : Word}
    (h : (b.latchPorts vbl strobe din).legacyWrite = false) :
    Edge bases b.scanout (b.latchPorts vbl strobe din) (b.cycle vbl strobe din).scanout where
  driven := Bridge.driven _ _
  readsBack := ⟨rfl, rfl, rfl, rfl, rfl⟩
  latch := Bridge.latch_next _ _
  lfb := fun _ => rfl
  legacy := fun hl => absurd (hl.symm.trans h) (by decide)

theorem Bridge.legacyWrite_eq_false {s : Bridge} {p : BridgePorts}
    (h : s.hasCommand = true → s.command ≠ 0x2F#8) : s.legacyWrite p = false := by
  unfold Bridge.legacyWrite Bridge.commandData
  cases hc : s.hasCommand with
  | false => simp
  | true => simp [h hc]

theorem Framed.not_legacy {bridge : Bridge} {got : List Word} (h : Framed bridge got) :
    bridge.hasCommand = true → bridge.command ≠ 0x2F#8 := by
  intro hc
  cases got with
  | nil =>
      have h : bridge.hasCommand = false := h
      rw [hc] at h
      cases h
  | cons c ws =>
      obtain ⟨-, h2, h3, -⟩ := h
      rwa [h2]

/-- The ports of the latch in an exchange. -/
theorem Open.seen (h : Open w) (t : Transfer) : Seen w t (w.transferPorts t) := by
  obtain ⟨hio, hf⟩ := h
  cases hg : t.got with
  | none =>
      refine .nothing hg ?_ ?_ <;>
        simp [World.transferPorts, Board.latchPorts, Bridge.latchPorts, Board.ports, hg,
          Bridge.commandStart, Bridge.commandData]
  | some g =>
      cases hl : w.line.got with
      | nil =>
          rw [hl] at hf
          have hf : w.board.bridge.hasCommand = false := hf
          refine .command g hg hl ?_ ?_ <;>
            simp [World.transferPorts, Board.latchPorts, Bridge.latchPorts, Board.ports, hg,
              Bridge.commandStart, Bridge.commandId, commandOf, hf, hio]
      | cons c ws =>
          rw [hl] at hf
          obtain ⟨h1, h2, -, h4⟩ := hf
          refine .data g c ws hg hl ?_ ?_ ?_ ?_ ?_
          · simp [World.transferPorts, Board.latchPorts, Bridge.latchPorts, Bridge.commandStart, h1]
          · simp [World.transferPorts, Board.latchPorts, Bridge.latchPorts, Board.ports, hg,
              Bridge.commandData, h1, hio]
          · simp [World.transferPorts, Board.latchPorts, Bridge.latchPorts, Bridge.commandId, h1,
              h2]
          · simp only [World.transferPorts, Board.latchPorts, Bridge.latchPorts,
              Bridge.activeWordIndex, h4]
            apply BitVec.eq_of_toNat_eq
            simp only [BitVec.extractLsb'_toNat, BitVec.toNat_ofNat, Nat.shiftRight_zero]
            omega
          · simp [World.transferPorts, Board.latchPorts, Bridge.latchPorts, Board.ports, hg]

theorem Open.edge (h : Open w) (word : Word) (t : Transfer) :
    Edge bases w.scanout (w.transferPorts t) (w.transfer word t).scanout :=
  Board.scanout_cycle_edge _ (Bridge.legacyWrite_eq_false h.framed.not_legacy)

theorem line_got_transfer (w : World M) (word : Word) (t : Transfer) :
    (w.transfer word t).line.got = w.line.got ++ t.got.toList := by
  unfold World.transfer World.lineAfter
  dsimp only
  split <;> rfl

/-- **An exchange goes on with the frame.** -/
theorem Open.transfer (h : Open w) (hl : Legal w word t) : Open (w.transfer word t) := by
  obtain ⟨hio, hf⟩ := h
  refine ⟨hio, ?_⟩
  rw [line_got_transfer]
  show Framed (w.board.bridge.next (w.board.ports t.vbl t.got.isSome (t.got.getD 0#16))) _
  have hu : (w.board.ports t.vbl t.got.isSome (t.got.getD 0#16)).ioUio = true := hio
  cases hg : t.got with
  | none =>
      rw [hg] at hu
      have e : ∀ got, Framed w.board.bridge got →
          Framed (w.board.bridge.next (w.board.ports t.vbl false 0#16)) got := by
        intro got hgot
        cases got <;> simpa [Framed, Bridge.next, hu, Board.ports, hio] using hgot
      simpa using e _ hf
  | some g =>
      rw [hg] at hu
      cases hgot : w.line.got with
      | nil =>
          have hcmd := hl.command g (by simp [hg]) hgot
          rw [hgot] at hf
          have hf : w.board.bridge.hasCommand = false := hf
          simp [Framed, Bridge.next, Board.ports, hio, hf]
          exact ⟨rfl, hcmd⟩
      | cons c ws =>
          rw [hgot] at hf
          obtain ⟨h1, h2, h3, h4⟩ := hf
          simp [Framed, Bridge.next, Board.ports, hio, h1, h2, h3, h4, BitVec.ofNat_add]

/-! ## 6. With and without faults -/

/-- Nothing was lost or garbled so far. -/
structure Line.Faithful (l : Line) : Prop where
  got : l.got = l.sent
  heard : l.heard = l.replies

/-- The exchange in which nothing is lost or garbled. -/
def World.faultless (w : World M) (word : Word) (vbl : Bool) : Transfer :=
  let answer := w.driven { vbl, got := some word, reply := .error .low }
  { vbl, got := some word, reply := .ok (answer, answer) }

variable {vbl : Bool}

theorem Line.Faithful.exchange (h : w.line.Faithful) :
    (w.lineAfter word (w.faultless word vbl)).Faithful := by
  unfold World.lineAfter
  dsimp only
  split
  · exact ⟨congrArg (· ++ [word]) h.got, h.heard⟩
  · exact ⟨congrArg (· ++ [word]) h.got, congrArg (· ++ [w.driven (w.faultless word vbl)]) h.heard⟩

/-- **A bus without faults is one of them**: there every exchange is legal but the legacy
    command. -/
theorem Line.Faithful.legal (h : w.line.Faithful) (hcommand : commandOf word ≠ 0x2F#8) :
    Legal w word (w.faultless word vbl) := by
  have hafter : (w.lineAfter word (w.faultless word vbl)).Faithful := h.exchange
  refine ⟨fun _ => rfl, fun g hg _ => ?_, fun g hg _ hset => ?_, fun _ => hafter.got,
    fun _ => ⟨hafter.heard, hafter.got⟩⟩
  · obtain rfl := Option.some.inj hg
    exact hcommand
  · obtain rfl := Option.some.inj hg
    exact hset

instance (l : Line) : Decidable l.Faithful :=
  decidable_of_iff (l.got = l.sent ∧ l.heard = l.replies)
    ⟨fun ⟨h1, h2⟩ => ⟨h1, h2⟩, fun h => ⟨h.got, h.heard⟩⟩

/-- What operations answer and do on a bus without faults, with the vertical blank at this level. -/
def World.actFaultless {C : Type} {A : C → Type} (work : Work C A M) (vbl : Bool) :
    (o : DeviceOp C) → World M → Option (DeviceOp.Res A o × World M)
  | .flock, w => some (.ok (), w)
  | .funlock, w => some ((), w)
  | .setIo level, w => some ((), w.setIo level vbl)
  | .exchange word, w =>
      let t := w.faultless word vbl
      if w.line.Faithful ∧ commandOf word ≠ 0x2F#8 then
        some (t.reply.map fun a => ⟨a.1, a.2⟩, w.transfer word t)
      else none
  | .work c, w =>
      let done := work.act c w.memory
      some (done.1, { w with memory := done.2 })

theorem World.actFaultless_does {C : Type} {A : C → Type} {work : Work C A M}
    {fit : BitVec 32 → M → Prop} {o : DeviceOp C} {r : DeviceOp.Res A o}
    (h : World.actFaultless work vbl o w = some (r, w')) : (bus bases work fit).does o w r w' := by
  cases o with
  | flock | funlock =>
      obtain ⟨-, rfl⟩ := Prod.mk.inj (Option.some.inj h)
      rfl
  | setIo level =>
      obtain ⟨-, rfl⟩ := Prod.mk.inj (Option.some.inj h)
      exact ⟨vbl, rfl⟩
  | exchange word =>
      unfold actFaultless at h
      dsimp only at h
      split at h
      · rename_i hline
        obtain ⟨rfl, rfl⟩ := Prod.mk.inj (Option.some.inj h)
        exact ⟨_, hline.1.legal hline.2, rfl, rfl⟩
      · cases h
  | work c =>
      obtain ⟨rfl, rfl⟩ := Prod.mk.inj (Option.some.inj h)
      exact ⟨rfl, rfl⟩

/-- Nothing heard checks as nothing. -/
theorem Line.not_checks {l : Line} (h : l.heard = []) : ¬ l.Checks := by
  unfold Line.Checks
  split
  · rw [h]
    exact fun hcheck => Nat.succ_ne_zero _ hcheck.1.symm
  · exact id

/-- The first word of a frame may be lost. -/
theorem Legal.lost {phase : AckPhase} (h : w.line = .empty) :
    Legal w word { vbl, got := none, reply := .error phase } where
  acknowledged hok := by cases hok
  command _ hg := by cases hg
  set _ hg := by cases hg
  post hcommits := by
    have hquiet : w.board.bridge.latch.commits
        (w.transferPorts { vbl, got := none, reply := .error phase }) = false := by
      refine not_commits_of_no_data ?_
      simp [LatchPorts.setData, World.transferPorts, Board.latchPorts, Bridge.latchPorts,
        Bridge.commandData, Board.ports]
    rw [World.commits, hquiet] at hcommits
    cases hcommits
  message hchecks := by
    refine absurd hchecks (Line.not_checks ?_)
    unfold World.lineAfter
    rw [h]
    rfl

end MisterMagik.Host
