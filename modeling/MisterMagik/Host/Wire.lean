/-
  File:      MisterMagik/Host/Wire.lean
  Subject:   What lasts on the bus, whatever program runs there as long as it does what is allowed.

  * `Wired` -- the framing registers follow the frame, and an open receiver holds its words;
  * `commit_sent` -- so a post the latch accepts is the payload that was sent;
  * `Whole` -- memory the display may come to show is fit to be shown: a slot that is not fit is
    safe. This is what the display shows at any moment;
  * `bus_keeps` -- both last.
-/
import MisterMagik.Fpga.Receipts
import MisterMagik.Host.Bus
import MisterMagik.Host.CodecAgreement

namespace MisterMagik.Host

open MisterMagik.Base
open MisterMagik.Fpga

variable {M C : Type} {A : C → Type} {bases : SlotBases} {w w' : World M} {word : Word}
  {t : Transfer} {p : LatchPorts}

/-! ## 1. The world by itself -/

/-- What happens without the host accepts no post. -/
theorem World.Env.quiet (h : World.Env bases p w w') :
    w.board.bridge.latch.commits p = false := by
  refine not_commits_of_no_data ?_
  unfold LatchPorts.setData
  cases hd : p.cmdData with
  | false => simp
  | true => simp [h.foreign (.inr hd), MAGIK_UIO_SET_FBUF_LATCH]

theorem World.Env.latch (h : World.Env bases p w w') :
    w'.board.bridge.latch = w.board.bridge.latch.next p := h.edge.latch

/-- It opens no receiver, and leaves an open one as it is. -/
theorem World.Env.receiver (h : World.Env bases p w w')
    (ho : w'.board.bridge.latch.rx.isOpen = true) :
    w'.board.bridge.latch.rx = w.board.bridge.latch.rx := by
  rw [h.latch] at ho ⊢
  obtain ⟨hs, hid, -⟩ | ⟨-, -, hrx⟩ | ⟨hd, -⟩ := Latch.receiver_next _ _ ho
  · rw [h.foreign (.inl hs)] at hid
    exact absurd hid (by decide)
  · exact hrx
  · have hquiet : p.setData = false := by
      unfold LatchPorts.setData
      cases hdata : p.cmdData with
      | false => simp
      | true => simp [h.foreign (.inr hdata), MAGIK_UIO_SET_FBUF_LATCH]
    rw [hquiet] at hd
    cases hd

/-! ## 2. The wire -/

/-- The framing registers follow the frame, and an open receiver holds its words. -/
structure Wired (w : World M) : Prop where
  low : w.board.ioUio = false → Closed w
  high : w.board.ioUio = true → Open w
  loaded : ∀ c ws, w.line.got = c :: ws → w.board.bridge.latch.rx.isOpen = true →
    commandOf c = MAGIK_UIO_SET_FBUF_LATCH ∧ w.board.bridge.latch.rx.Loaded ws

theorem Wired.env (h : Wired w) (he : World.Env bases p w w') : Wired w' := by
  have hline := he.line
  refine ⟨fun hio => ?_, fun hio => ?_, fun c ws hgot ho => ?_⟩
  · obtain ⟨-, hempty, hc⟩ := h.low (he.ioUio ▸ hio)
    exact ⟨hio, hline ▸ hempty, by rw [he.bridge]; exact hc⟩
  · obtain ⟨-, hf⟩ := h.high (he.ioUio ▸ hio)
    refine ⟨hio, ?_⟩
    rw [he.bridge, hline]
    cases hgot : w.line.got with
    | nil =>
        rw [hgot] at hf
        exact hf
    | cons c ws =>
        rw [hgot] at hf
        exact hf
  · have hrx := he.receiver ho
    rw [hrx] at ho ⊢
    exact h.loaded c ws (hline ▸ hgot) ho

theorem World.setIo_edge (w : World M) (level vbl : Bool) :
    Edge bases w.scanout
      (Board.latchPorts { w.board with ioUio := level } vbl false 0#16)
      (w.setIo level vbl).scanout := by
  refine Board.scanout_cycle_edge { w.board with ioUio := level } ?_
  show Bridge.legacyWrite _ _ = false
  simp [Bridge.legacyWrite, Bridge.commandData, Board.ports]

theorem setIo_quiet (w : World M) (level vbl : Bool) :
    w.board.bridge.latch.commits
      (Board.latchPorts { w.board with ioUio := level } vbl false 0#16) = false := by
  refine not_commits_of_no_data ?_
  simp [LatchPorts.setData, Board.latchPorts, Bridge.latchPorts, Bridge.commandData, Board.ports]

theorem latch_setIo (w : World M) (level vbl : Bool) :
    (w.setIo level vbl).board.bridge.latch = w.board.bridge.latch.next
      (Board.latchPorts { w.board with ioUio := level } vbl false 0#16) :=
  have he : Edge .expectedLayout w.scanout _ (w.setIo level vbl).scanout := w.setIo_edge level vbl
  he.latch

theorem Wired.setIo (h : Wired w) (level vbl : Bool) : Wired (w.setIo level vbl) := by
  have hrx : (w.setIo level vbl).board.bridge.latch.rx.isOpen = true →
      (w.setIo level vbl).board.bridge.latch.rx = w.board.bridge.latch.rx := by
    intro ho
    rw [latch_setIo] at ho ⊢
    obtain ⟨hs, -⟩ | ⟨-, -, hrx⟩ | ⟨hd, -⟩ := Latch.receiver_next _ _ ho
    · simp [Board.latchPorts, Bridge.latchPorts, Bridge.commandStart, Board.ports] at hs
    · exact hrx
    · simp [LatchPorts.setData, Board.latchPorts, Bridge.latchPorts, Bridge.commandData,
        Board.ports] at hd
  cases level with
  | false =>
      have hclosed : Closed (w.setIo false vbl) :=
        ⟨rfl, rfl, by simp [World.setIo, Board.cycle, Bridge.next, Board.ports]⟩
      refine ⟨fun _ => hclosed, fun hio => absurd (hclosed.ioUio.symm.trans hio) (by decide),
        fun c ws hgot _ => ?_⟩
      rw [hclosed.line] at hgot
      cases hgot
  | true =>
      have hf : Framed w.board.bridge w.line.got := by
        cases hio : w.board.ioUio with
        | true => exact (h.high hio).framed
        | false =>
            obtain ⟨-, hline, hc⟩ := h.low hio
            rw [hline]
            exact hc
      refine ⟨fun hio => (by cases hio), fun _ => ⟨rfl, ?_⟩, fun c ws hgot ho => ?_⟩
      · show Framed (w.board.bridge.next _) w.line.got
        cases hgot : w.line.got with
        | nil =>
            rw [hgot] at hf
            simpa [Framed, Bridge.next, Board.ports] using hf
        | cons c ws =>
            rw [hgot] at hf
            simpa [Framed, Bridge.next, Board.ports] using hf
      · have hopen := hrx ho
        rw [hopen] at ho ⊢
        exact h.loaded c ws hgot ho

theorem latch_transfer (w : World M) (word : Word) (t : Transfer) :
    (w.transfer word t).board.bridge.latch = w.board.bridge.latch.next (w.transferPorts t) :=
  Bridge.latch_next _ _

/-- **An exchange goes on with the frame**, and an open receiver with its words. -/
theorem Wired.transfer (h : Wired w) (hio : w.board.ioUio = true) (hl : Legal w word t) :
    Wired (w.transfer word t) := by
  have hopen := h.high hio
  have hopen' := hopen.transfer hl
  refine ⟨fun hlow => absurd (hopen'.ioUio.symm.trans hlow) (by decide), fun _ => hopen',
    fun c ws hgot ho => ?_⟩
  rw [line_got_transfer] at hgot
  rw [latch_transfer] at ho ⊢
  have hnext := Latch.receiver_next _ _ ho
  cases hopen.seen t with
  | nothing hg hs hd =>
      obtain ⟨hs', -⟩ | ⟨-, -, hrx⟩ | ⟨hd', -⟩ := hnext
      · rw [hs] at hs'
        cases hs'
      · rw [hrx] at ho ⊢
        rw [hg, Option.toList_none, List.append_nil] at hgot
        exact h.loaded c ws hgot ho
      · simp [LatchPorts.setData, hd] at hd'
  | command g hg hempty hs hid =>
      rw [hg, hempty] at hgot
      obtain ⟨rfl, rfl⟩ := List.cons.inj hgot
      obtain ⟨-, hset, hloaded⟩ | ⟨hs', -⟩ | ⟨hd', -⟩ := hnext
      · exact ⟨hid ▸ hset, hloaded⟩
      · rw [hs] at hs'
        cases hs'
      · simp [LatchPorts.setData, hs] at hd'
  | data g c' ws' hg hframe hs hd hid hw hin =>
      rw [hg, hframe] at hgot
      obtain ⟨rfl, rfl⟩ := List.cons.inj hgot
      obtain ⟨hs', -⟩ | ⟨-, hd', hrx⟩ | ⟨hd', ho', hloaded⟩ := hnext
      · rw [hs] at hs'
        cases hs'
      · rw [hrx] at ho
        have hset := (h.loaded c' ws' hframe ho).1
        simp [LatchPorts.setData, hs, hd, hid, hset] at hd'
      · obtain ⟨hset, hl'⟩ := h.loaded c' ws' hframe ho'
        exact ⟨hset, hin ▸ hloaded ws' hl'⟩

/-! ## 3. Accepted posts -/

/-- The words of a SET frame are those of a payload, its check word behind them or not. -/
theorem sentBase_payload {command check : Word} {ws : List Word} (hlen : ws.length = 11)
    (hset : commandOf command = MAGIK_UIO_SET_FBUF_LATCH) :
    sentBase (command :: (ws ++ [check])) = some (ws.getD 2 0#16 ++ ws.getD 1 0#16) := by
  match ws, hlen with
  | [_, _, _, _, _, _, _, _, _, _, _], _ => simp [sentBase, hset]

theorem Receiver.Loaded.base_eq {rx : Receiver} {ws : List Word} (h : rx.Loaded ws)
    (hlen : ws.length = 11) : rx.base = ws.getD 2 0#16 ++ ws.getD 1 0#16 := by
  have h1 := h.payload 1 (by omega)
  have h2 := h.payload 2 (by omega)
  rw [← h1, ← h2]
  apply BitVec.eq_of_getLsbD_eq
  intro i hi
  simp only [Receiver.payloadWord, BitVec.getLsbD_append, BitVec.getLsbD_extractLsb']
  by_cases h16 : i < 16
  · simp [h16]
  · simp [h16, show 16 + (i - 16) = i by omega, show i - 16 < 16 by omega]

/-- **An accepted post is the payload that was sent.** -/
theorem Wired.commit_sent (h : Wired w) (hio : w.board.ioUio = true) (hl : Legal w word t)
    (hc : w.commits t = true) :
    ∃ c ws, w.line.sent ++ [word] = c :: (ws ++ [word]) ∧ ws.length = 11 ∧
      commandOf c = MAGIK_UIO_SET_FBUF_LATCH ∧ w.board.bridge.latch.rx.Loaded ws := by
  have hpost := hl.post hc
  unfold World.commits at hc
  simp only [Latch.commits, Bool.and_eq_true, beq_iff_eq, Bool.not_eq_true',
    decide_eq_false_iff_not] at hc
  obtain ⟨⟨⟨⟨⟨⟨⟨hset, ho⟩, hw⟩, hge⟩, -⟩, -⟩, -⟩, -⟩ := hc
  cases (h.high hio).seen t with
  | nothing _ _ hd => simp [LatchPorts.setData, hd] at hset
  | command _ _ _ hs => simp [LatchPorts.setData, hs] at hset
  | data g c ws hg hframe hs hd hid hwi hin =>
      obtain ⟨hcmd, hloaded⟩ := h.loaded c ws hframe ho
      have hlen : ws.length = 11 := by
        have hle := hloaded.length_le
        rw [hwi, BitVec.lt_def, BitVec.toNat_ofNat,
          Nat.mod_eq_of_lt (show ws.length < 2 ^ 4 by omega)] at hge
        have : (11#4).toNat = 11 := rfl
        omega
      have hsent : (w.lineAfter word t).sent = w.line.sent ++ [word] := by
        unfold World.lineAfter
        dsimp only
        split <;> rfl
      have hgot : (w.lineAfter word t).got = w.line.got ++ t.got.toList :=
        line_got_transfer w word t
      rw [hsent, hgot, hg, hframe] at hpost
      have hword : g = word := by
        exact List.cons.inj (List.append_inj' hpost rfl).2 |>.1
      refine ⟨c, ws, ?_, hlen, hcmd, hloaded⟩
      rw [← hpost, hword]
      rfl

theorem Wired.commit_base (h : Wired w) (hio : w.board.ioUio = true) (hl : Legal w word t)
    (hc : w.commits t = true) :
    sentBase (w.line.sent ++ [word]) = some w.board.bridge.latch.rx.route.base := by
  obtain ⟨c, ws, hsent, hlen, hset, hloaded⟩ := h.commit_sent hio hl hc
  rw [hsent, sentBase_payload hlen hset, ← hloaded.base_eq hlen]
  rfl

/-! ## 4. What the display shows -/

/-- A slot that is not fit to be shown is safe. -/
def Whole (bases : SlotBases) (fit : BitVec 32 → M → Prop) (w : World M) : Prop :=
  ∀ base, bases.Contains base → fit base w.memory ∨ Safe base w.scanout

/-- **What the display shows is fit to be shown.** -/
theorem Whole.shown {fit : BitVec 32 → M → Prop} (h : Whole bases fit w)
    (hshow : w.board.lfb.ShowsSlot bases) : fit w.board.lfb.base w.memory := by
  obtain hfit | hsafe := h w.board.lfb.base hshow.2
  · exact hfit
  · exact absurd ⟨hshow.1, rfl⟩ hsafe.active

/-- Work leaves memory at other addresses as fit as it was. -/
def Confined (bases : SlotBases) (fit : BitVec 32 → M → Prop) (work : Work C A M) : Prop :=
  ∀ c m base, bases.Contains base → work.target c ≠ some base → fit base m →
    fit base (work.act c m).2

variable {fit : BitVec 32 → M → Prop} {work : Work C A M}

theorem Whole.edge (h : Whole bases fit w) (hm : w'.memory = w.memory)
    (he : Edge bases w.scanout p w'.scanout)
    (hc : w.board.bridge.latch.commits p = true →
      fit w.board.bridge.latch.rx.route.base w.memory) : Whole bases fit w' := by
  intro base hb
  rw [hm]
  obtain hfit | hsafe := h base hb
  · exact .inl hfit
  · by_cases hcommit : w.board.bridge.latch.commits p = true ∧
      w.board.bridge.latch.rx.route.base = base
    · exact .inl (hcommit.2 ▸ hc hcommit.1)
    · exact .inr (he.safe hb (fun h1 h2 => hcommit ⟨h1, h2⟩) hsafe)

/-- **The wire and the display, whatever program runs**, as long as it does what is allowed. -/
theorem bus_keeps (hwork : Confined bases fit work) :
    (bus bases work fit).Keeps fun w => Wired w ∧ Whole bases fit w where
  env := by
    intro w w' hw he
    obtain ⟨hwired, hwhole⟩ := hw
    obtain ⟨p, he⟩ := he
    refine ⟨hwired.env he, hwhole.edge he.memory he.edge fun hc => ?_⟩
    rw [he.quiet] at hc
    cases hc
  op := by
    intro o w r w' hw ha hd
    obtain ⟨hwired, hwhole⟩ := hw
    cases o with
    | flock | funlock =>
        obtain rfl : w' = w := hd
        exact ⟨hwired, hwhole⟩
    | setIo level =>
        obtain ⟨vbl, rfl⟩ := hd
        refine ⟨hwired.setIo level vbl, hwhole.edge rfl (w.setIo_edge level vbl) fun hc => ?_⟩
        rw [setIo_quiet] at hc
        cases hc
    | exchange word =>
        obtain ⟨hio, hbase⟩ := ha
        obtain ⟨t, hl, -, rfl⟩ := hd
        refine ⟨hwired.transfer hio hl,
          hwhole.edge rfl ((hwired.high hio).edge word t) fun hc => ?_⟩
        exact (hbase _ (hwired.commit_base hio hl hc)).2
    | work c =>
        obtain ⟨hact, hw'⟩ := hd
        have hm : w'.memory = (work.act c w.memory).2 := congrArg Prod.snd hact
        rw [hw', hm]
        refine ⟨⟨fun hio => ?_, fun hio => ?_, hwired.loaded⟩, fun base hb => ?_⟩
        · obtain ⟨h1, h2, h3⟩ := hwired.low hio
          exact ⟨h1, h2, h3⟩
        · obtain ⟨h1, h2⟩ := hwired.high hio
          exact ⟨h1, h2⟩
        obtain hfit | hsafe := hwhole base hb
        · by_cases htarget : work.target c = some base
          · exact .inr (ha base htarget)
          · exact .inl (hwork c w.memory base hb htarget hfit)
        · exact .inr hsafe

end MisterMagik.Host
