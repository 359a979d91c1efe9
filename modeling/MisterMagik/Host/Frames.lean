/-
  File:      MisterMagik/Host/Frames.lean
  Subject:   The frames of the host, word by word: what holds inside them, whatever the bus makes of
             a word and whatever the vertical blank does between two words.

  * `Since` -- no post was accepted since a state of the display;
  * `Reading` -- a message is being read; once its check word is right it is what the latch answers
    in the state its command came in (`Reading.checked`);
  * `Unaccepted`, `Sending` -- a post is being sent; its last word is all it can be accepted with
    (`Sending.next`).
-/
import MisterMagik.Host.Wire

namespace MisterMagik.Host

open MisterMagik.Base
open MisterMagik.Fpga
open Relation (ReflTransGen)

variable {M : Type} {bases : SlotBases} {w w' : World M} {word : Word} {t : Transfer}
  {s s0 s1 : Scanout} {p0 : LatchPorts} {m : M} {level : Bool}

/-! ## 1. Nothing accepted -/

/-- No post was accepted since `s`, and the memory holds `m`. -/
structure Calm (bases : SlotBases) (s : Scanout) (m : M) (w : World M) : Prop where
  quiet : Quiet bases s w.scanout
  memory : w.memory = m

/-- The same at a level of `IO_EN`. -/
structure Since (bases : SlotBases) (level : Bool) (s : Scanout) (m : M) (w : World M) :
    Prop extends Calm bases s m w where
  ioUio : w.board.ioUio = level

theorem Since.refl (w : World M) : Since bases w.board.ioUio w.scanout w.memory w :=
  ⟨⟨.refl, rfl⟩, rfl⟩

theorem Calm.trans (hs : Quiet bases s s1) (h : Calm bases s1 m w) : Calm bases s m w :=
  ⟨hs.trans h.quiet, h.memory⟩

theorem Since.trans (hs : Quiet bases s s1) (h : Since bases level s1 m w) :
    Since bases level s m w :=
  ⟨h.toCalm.trans hs, h.ioUio⟩

theorem World.Env.step {p : LatchPorts} (h : World.Env bases p w w') :
    QuietStep bases w.scanout w'.scanout := ⟨p, h.edge, h.quiet⟩

theorem Calm.env {p : LatchPorts} (h : Calm bases s m w) (he : World.Env bases p w w') :
    Calm bases s m w' :=
  ⟨h.quiet.tail he.step, he.memory.trans h.memory⟩

theorem Since.env {p : LatchPorts} (h : Since bases level s m w) (he : World.Env bases p w w') :
    Since bases level s m w' :=
  ⟨h.toCalm.env he, he.ioUio.trans h.ioUio⟩

theorem Calm.setIo (h : Calm bases s m w) (level vbl : Bool) :
    Since bases level s m (w.setIo level vbl) :=
  ⟨⟨h.quiet.tail ⟨_, w.setIo_edge level vbl, setIo_quiet w level vbl⟩, h.memory⟩, rfl⟩

/-- The words sent so far are not those of a SET with its check word. -/
def Harmless (sent : List Word) : Prop :=
  ∀ c ws, sent = c :: ws → commandOf c = MAGIK_UIO_SET_FBUF_LATCH → ws.length ≠ 12

theorem Wired.not_commits (h : Wired w) (hio : w.board.ioUio = true) (hl : Legal w word t)
    (hsent : Harmless (w.line.sent ++ [word])) :
    w.board.bridge.latch.commits (w.transferPorts t) = false := by
  cases hc : w.commits t with
  | false => exact hc
  | true =>
      obtain ⟨c, ws, hwords, hlen, hset, -⟩ := h.commit_sent hio hl hc
      exact absurd (by simp [hlen]) (hsent c _ hwords hset)

theorem Since.transfer (h : Since bases true s m w) (hw : Wired w) (hl : Legal w word t)
    (hsent : Harmless (w.line.sent ++ [word])) : Since bases true s m (w.transfer word t) := by
  have hopen := hw.high h.ioUio
  exact ⟨⟨h.quiet.tail ⟨_, hopen.edge word t, hw.not_commits h.ioUio hl hsent⟩, h.memory⟩,
    (hopen.transfer hl).ioUio⟩

/-! ## 2. The words of a frame -/

theorem sent_transfer (w : World M) (word : Word) (t : Transfer) :
    (w.transfer word t).line.sent = w.line.sent ++ [word] := by
  unfold World.transfer World.lineAfter
  dsimp only
  split <;> rfl

theorem heard_transfer (hne : w.line.sent ≠ []) :
    (w.transfer word t).line.heard = w.line.heard ++ t.heard.toList := by
  unfold World.transfer World.lineAfter
  dsimp only
  rw [if_neg (by simpa using hne)]

theorem replies_transfer (hne : w.line.sent ≠ []) :
    (w.transfer word t).line.replies =
      w.line.replies ++ (t.got.map fun _ => w.driven t).toList := by
  unfold World.transfer World.lineAfter
  dsimp only
  rw [if_neg (by simpa using hne)]

theorem line_start (hempty : w.line = .empty) :
    (w.transfer word t).line = ⟨[word], t.got.toList, [], []⟩ := by
  unfold World.transfer World.lineAfter
  rw [hempty]
  rfl

/-- A word that is acknowledged has arrived. -/
theorem Legal.arrived {high low : Word} (hl : Legal w word t) (ht : t.reply = .ok (high, low)) :
    ∃ g, t.got = some g := by
  have hsome := hl.acknowledged (by rw [ht]; rfl)
  exact Option.isSome_iff_exists.mp hsome

@[simp] theorem commandOf_append (b : BitVec 8) : commandOf (0#8 ++ b) = b := by
  unfold commandOf
  apply BitVec.eq_of_getLsbD_eq
  intro i hi
  rw [BitVec.getLsbD_extractLsb', BitVec.getLsbD_append]
  simp [hi]

/-! ## 3. Reading -/

/-- The check word of a message is right: the snapshot of the command, whole. -/
def Answered (c : ReadCommand) (s0 : Scanout) (p0 : LatchPorts) (heard : List Word) : Prop :=
  p0.cmdStart = true ∧ p0.cmdId = c.byte ∧
    heard = c.message s0.latch p0 ++ [messageCheck c s0.latch p0]

/-- A message is being read whose command came in the state `s0`. -/
structure Reading (bases : SlotBases) (c : ReadCommand) (s0 : Scanout) (p0 : LatchPorts) (m : M)
    (heard : List Word) (w : World M) : Prop extends Since bases true s0 m w where
  sent : w.line.sent = (0#8 ++ c.byte) :: List.replicate heard.length 0#16
  hears : w.line.heard = heard
  /-- If every word arrived as it was sent, the latch is answering. -/
  tracks : w.line.got = w.line.sent → heard.length ≤ c.count + 1 →
    p0.cmdStart = true ∧ p0.cmdId = c.byte ∧
      Sends w.board.bridge.latch.tx c (c.message s0.latch p0) heard.length ∧
      w.line.replies =
        (c.message s0.latch p0 ++ [messageCheck c s0.latch p0]).take heard.length
  /-- If the check word is right, this is the answer. -/
  checks : w.line.Checks → Answered c s0 p0 heard

theorem harmless_read (c : ReadCommand) (ws : List Word) : Harmless ((0#8 ++ c.byte) :: ws) := by
  intro c' ws' h hset
  obtain ⟨rfl, -⟩ := List.cons.inj h
  rw [commandOf_append] at hset
  exact absurd hset c.byte_ne_set

theorem tx_next_foreign {l : Latch} {p : LatchPorts} (c : ReadCommand)
    (hforeign : p.cmdStart = true ∨ p.cmdData = true → p.cmdId = 0x2F#8)
    (hc : l.tx.command = c.byte) : (l.next p).tx = l.tx := by
  rw [(Latch.next_untouched l p).2.2.1]
  unfold Latch.nextResponder
  cases hs : p.cmdStart with
  | true =>
      rw [hforeign (.inl hs), hc]
      cases c <;> simp [ReadCommand.byte, MAGIK_UIO_GET_FBUF_LATCH, MAGIK_UIO_GET_FBUF_LATCH_CAPS,
        MAGIK_UIO_GET_FBUF_LATCH_DIAGNOSTICS, MAGIK_UIO_GET_FBUF_LATCH_RECEIPT,
        MAGIK_UIO_GET_FBUF_PRESENTATION_TELEMETRY]
  | false =>
      cases hd : p.cmdData with
      | false => simp
      | true =>
          rw [hforeign (.inr hd), hc]
          cases c <;> simp [ReadCommand.byte, MAGIK_UIO_GET_FBUF_LATCH,
            MAGIK_UIO_GET_FBUF_LATCH_CAPS, MAGIK_UIO_GET_FBUF_LATCH_DIAGNOSTICS,
            MAGIK_UIO_GET_FBUF_LATCH_RECEIPT, MAGIK_UIO_GET_FBUF_PRESENTATION_TELEMETRY]

variable {c : ReadCommand} {heard : List Word}

theorem Reading.env {p : LatchPorts} (h : Reading bases c s0 p0 m heard w)
    (he : World.Env bases p w w') : Reading bases c s0 p0 m heard w' where
  toSince := h.toSince.env he
  sent := by rw [he.line, h.sent]
  hears := by rw [he.line, h.hears]
  tracks := by
    rw [he.line]
    intro hgot hlen
    obtain ⟨h1, h2, h3, h4⟩ := h.tracks hgot hlen
    refine ⟨h1, h2, ?_, h4⟩
    rw [he.latch, tx_next_foreign c he.foreign h3.command]
    exact h3
  checks := by
    rw [he.line]
    exact h.checks

@[simp] theorem readCommandOf_append (c : ReadCommand) : readCommandOf (0#8 ++ c.byte) = some c := by
  cases c <;> decide

/-- What `Line.Checks` is of the frame of a read command. -/
theorem checks_iff {l : Line} {ws : List Word} (h : l.sent = (0#8 ++ c.byte) :: ws) :
    l.Checks ↔ l.heard.length = c.count + 1 ∧
      Fpga.messageCrc c.byte (l.heard.take c.count) = l.heard.getD c.count 0#16 := by
  unfold Line.Checks
  rw [h, List.head?_cons, Option.bind_some, readCommandOf_append]

/-- **A read command**: the message is that of this state. -/
theorem Reading.start {high low : Word} (h : Since bases true s m w) (hempty : w.line = .empty)
    (hw : Wired w) (hl : Legal w (0#8 ++ c.byte) t) (ht : t.reply = .ok (high, low)) :
    Reading bases c w.scanout (w.transferPorts t) m [] (w.transfer (0#8 ++ c.byte) t) := by
  have hself : Since bases true w.scanout m w := ⟨⟨.refl, h.memory⟩, h.ioUio⟩
  have hline : (w.transfer (0#8 ++ c.byte) t).line = ⟨[0#8 ++ c.byte], t.got.toList, [], []⟩ :=
    line_start hempty
  refine
    { toSince := hself.transfer hw hl (by rw [hempty]; exact harmless_read c [])
      sent := by rw [hline]; rfl
      hears := by rw [hline]
      tracks := ?_
      checks := ?_ }
  · rw [hline]
    intro hgot _
    obtain ⟨g, hg⟩ := hl.arrived ht
    rw [hg] at hgot
    have hword : g = 0#8 ++ c.byte := (List.cons.inj hgot).1
    have hseen := (hw.high h.ioUio).seen t
    cases hseen with
    | nothing hn =>
        rw [hg] at hn
        cases hn
    | data _ c' ws _ hframe =>
        rw [hempty] at hframe
        cases hframe
    | command g' hg' _ hs hid =>
        obtain rfl := Option.some.inj (hg.symm.trans hg')
        rw [hword, commandOf_append] at hid
        refine ⟨hs, hid, ?_, rfl⟩
        rw [latch_transfer, (Latch.next_untouched _ _).2.2.1, Latch.nextResponder_start hs hid]
        exact Sends.start _ _ c
  · have hsent : (w.transfer (0#8 ++ c.byte) t).line.sent = [0#8 ++ c.byte] := by rw [hline]
    rw [checks_iff hsent, hline]
    intro hcheck
    exact absurd hcheck.1 (by simp)

/-- **One more word of the message.** -/
theorem Reading.next {high low : Word} (h : Reading bases c s0 p0 m heard w) (hw : Wired w)
    (hl : Legal w 0#16 t) (ht : t.reply = .ok (high, low)) :
    Reading bases c s0 p0 m (heard ++ [low]) (w.transfer 0#16 t) := by
  have hne : w.line.sent ≠ [] := by simp [h.sent]
  have hsent : (w.transfer 0#16 t).line.sent =
      (0#8 ++ c.byte) :: List.replicate (heard ++ [low]).length 0#16 := by
    rw [sent_transfer, h.sent, List.length_append, List.length_singleton, List.replicate_succ']
    rfl
  have hheard : (w.transfer 0#16 t).line.heard = heard ++ [low] := by
    rw [heard_transfer hne, h.hears]
    simp [Transfer.heard, ht, Except.toOption]
  obtain ⟨g, hg⟩ := hl.arrived ht
  have htracks : (w.transfer 0#16 t).line.got = (w.transfer 0#16 t).line.sent →
      (heard ++ [low]).length ≤ c.count + 1 → p0.cmdStart = true ∧ p0.cmdId = c.byte ∧
        Sends (w.transfer 0#16 t).board.bridge.latch.tx c (c.message s0.latch p0)
          (heard ++ [low]).length ∧
        (w.transfer 0#16 t).line.replies =
          (c.message s0.latch p0 ++ [messageCheck c s0.latch p0]).take (heard ++ [low]).length := by
    intro hgot hlen
    rw [line_got_transfer, sent_transfer, hg] at hgot
    obtain ⟨hgot, -⟩ := List.append_inj' hgot rfl
    rw [List.length_append, List.length_singleton] at hlen
    obtain ⟨hstart, hid0, hsends, hreplies⟩ := h.tracks hgot (by omega)
    refine ⟨hstart, hid0, ?_⟩
    cases (hw.high h.ioUio).seen t with
    | nothing hn =>
        rw [hg] at hn
        cases hn
    | command _ _ hempty =>
        rw [hgot, h.sent] at hempty
        cases hempty
    | data g' c' ws _ hframe hs hd hid hwi _ =>
        rw [hgot, h.sent] at hframe
        obtain ⟨rfl, rfl⟩ := List.cons.inj hframe
        rw [commandOf_append] at hid
        rw [List.length_replicate] at hwi
        have hlenmsg := c.length_message s0.latch p0
        rw [List.length_append, List.length_singleton]
        constructor
        · rw [latch_transfer, (Latch.next_untouched _ _).2.2.1]
          exact hsends.data hlenmsg hs hd hid hwi
        · have hreply := hsends.reply hlenmsg hs hd hid hwi (by omega)
          rw [replies_transfer hne, hreplies, hg, Option.map_some, Option.toList_some, World.driven,
            hreply, List.take_add_one, messageCheck, List.getD_eq_getElem?_getD,
            List.getElem?_eq_getElem (by simp [hlenmsg]; omega)]
          rfl
  refine
    { toSince := h.toSince.transfer hw hl (by
        rw [← sent_transfer w 0#16 t, hsent]
        exact harmless_read c _)
      sent := hsent
      hears := hheard
      tracks := htracks
      checks := ?_ }
  intro hcheck
  obtain ⟨hsame, hgot⟩ := hl.message hcheck
  have hlen := ((checks_iff hsent).mp hcheck).1
  rw [hheard] at hlen
  obtain ⟨hstart, hid0, -, hreplies⟩ := htracks hgot (by omega)
  refine ⟨hstart, hid0, ?_⟩
  rw [← hheard]
  refine hsame.trans (hreplies.trans ?_)
  rw [hlen, List.take_of_length_le]
  simp

/-- **A message whose check word is right is the answer of the latch.** -/
theorem Reading.checked (h : Reading bases c s0 p0 m heard w) (hlen : heard.length = c.count + 1)
    (hcrc : verifyCrc (0#8 ++ c.byte) .V5 (heard.take c.count) (heard.getD c.count 0#16) =
      .ok ()) : Answered c s0 p0 heard := by
  refine h.checks ((checks_iff h.sent).mpr ?_)
  rw [h.hears]
  refine ⟨hlen, ?_⟩
  unfold verifyCrc at hcrc
  rw [messageCrc_eq] at hcrc
  dsimp only at hcrc
  split at hcrc
  · assumption
  · cases hcrc

/-! ## 4. Posting -/

/-- No post was accepted since the receiver was opened. -/
def Unaccepted (l : Latch) : Prop :=
  l.rx.isOpen = true ∨ l.receipt.disposition ≠ MAGIK_RECEIPT_ACCEPTED

/-- **It lasts until a post is accepted.** -/
theorem Unaccepted.next {l : Latch} {p : LatchPorts} (h : Unaccepted l)
    (hc : l.commits p = false) : Unaccepted (l.next p) := by
  cases Latch.moves l p with
  | opened _ _ ho' | word _ _ _ ho' => exact .inl ho'
  | closed _ _ _ _ hd' =>
      refine .inr ?_
      rw [hd']
      split
      · decide
      · rename_i ho
        exact h.resolve_left ho
  | idle _ _ ho' _ hd' =>
      obtain ho | hd := h
      · exact .inl (ho'.trans ho)
      · exact .inr (by rw [hd']; exact hd)
  | late _ ho _ _ _ hd' =>
      refine .inr ?_
      rw [hd']
      exact h.resolve_left (by simp [ho])
  | failed _ _ _ _ _ hd' => exact .inr (by rw [hd']; decide)
  | committed hcommit =>
      rw [hc] at hcommit
      cases hcommit

theorem Unaccepted.quiet (hq : Quiet bases s s1) (h : Unaccepted s.latch) :
    Unaccepted s1.latch :=
  hq.keeps (P := fun s => Unaccepted s.latch)
    (fun _ _ _ he hc h => by rw [he.latch]; exact h.next hc) h

/-- The words `done` of the post are sent. -/
structure Sending (bases : SlotBases) (s : Scanout) (m : M) (done : List Word) (w : World M) :
    Prop extends Since bases true s m w where
  sent : w.line.sent = SET_FBUF_LATCH :: done
  unaccepted : Unaccepted w.board.bridge.latch

/-- The latch has accepted a post with this route and sequence. -/
def Accepted (bases : SlotBases) (route : Route) (sequence : Word) (level : Bool) (m : M)
    (w : World M) : Prop :=
  ∃ s1 q, q.route = route ∧ q.sequence = sequence ∧ Fate q s1 ∧ Since bases level s1 m w

theorem Sending.env {p : LatchPorts} {done : List Word} (h : Sending bases s m done w)
    (he : World.Env bases p w w') : Sending bases s m done w' where
  toSince := h.toSince.env he
  sent := by rw [he.line, h.sent]
  unaccepted := by rw [he.latch]; exact h.unaccepted.next he.quiet

theorem Accepted.env {p : LatchPorts} {route : Route} {sequence : Word}
    (h : Accepted bases route sequence level m w) (he : World.Env bases p w w') :
    Accepted bases route sequence level m w' := by
  obtain ⟨s1, q, hr, hs, hf, hw⟩ := h
  exact ⟨s1, q, hr, hs, hf, hw.env he⟩

/-- **The SET command opens the receiver.** -/
theorem Sending.start {high low : Word} (h : Since bases true s m w) (hempty : w.line = .empty)
    (hw : Wired w) (hl : Legal w SET_FBUF_LATCH t) (ht : t.reply = .ok (high, low)) :
    Sending bases s m [] (w.transfer SET_FBUF_LATCH t) := by
  refine
    { toSince := h.transfer hw hl (by
        rw [hempty]
        intro c ws hsent _
        obtain ⟨-, rfl⟩ := List.cons.inj hsent
        decide)
      sent := by rw [line_start hempty]
      unaccepted := .inl ?_ }
  obtain ⟨g, hg⟩ := hl.arrived ht
  have hset : commandOf g = MAGIK_UIO_SET_FBUF_LATCH :=
    hl.set g (by rw [hg]; rfl) (by rw [hempty]; rfl) (by decide)
  rw [latch_transfer]
  cases (hw.high h.ioUio).seen t with
  | nothing hn =>
      rw [hg] at hn
      cases hn
  | data _ c' ws _ hframe =>
      rw [hempty] at hframe
      cases hframe
  | command g' hg' _ hs hid =>
      obtain rfl := Option.some.inj (hg.symm.trans hg')
      rw [hset] at hid
      cases Latch.moves w.board.bridge.latch (w.transferPorts t) with
      | opened _ _ ho' => exact ho'
      | closed _ hid' => exact absurd hid hid'
      | idle hs' =>
          rw [hs] at hs'
          cases hs'
      | late hd | word hd | failed hd => simp [LatchPorts.setData, hs] at hd
      | committed hc =>
          rw [Latch.not_commits_of_start _ _ hs] at hc
          cases hc

/-- **One more word of the post**: only the last one can be accepted, and then the post is what was
    sent. -/
theorem Sending.next {payload : LatchSetPayload} {done rest : List Word}
    (h : Sending bases s m done w) (hw : Wired w) (hl : Legal w word t)
    (hwords : done ++ word :: rest = (encodeSet .V5 payload).words)
    (hidden : Hidden payload.base s) (hb : bases.Contains payload.base) :
    Sending bases s m (done ++ [word]) (w.transfer word t) ∨
      rest = [] ∧ Accepted bases payload.route payload.sequence true m (w.transfer word t) := by
  have hopen := hw.high h.ioUio
  have hsent : w.line.sent ++ [word] = SET_FBUF_LATCH :: (done ++ [word]) := by
    rw [h.sent]
    rfl
  cases hc : w.board.bridge.latch.commits (w.transferPorts t) with
  | false =>
      refine .inl
        { toSince := ⟨⟨h.quiet.tail ⟨_, hopen.edge word t, hc⟩, h.memory⟩,
            (hopen.transfer hl).ioUio⟩
          sent := (sent_transfer w word t).trans hsent
          unaccepted := ?_ }
      rw [latch_transfer]
      exact h.unaccepted.next hc
  | true =>
      obtain ⟨c, ws, hframe, hlen, -, hloaded⟩ := hw.commit_sent h.ioUio hl hc
      rw [hsent] at hframe
      have hdone : done = ws := (List.append_inj' (List.cons.inj hframe).2 rfl).1
      have hpayload : done = payload.words ∧ rest = [] := by
        rw [encodeSet_words] at hwords
        obtain ⟨h1, h2⟩ := List.append_inj hwords (by rw [hdone, hlen, length_words])
        exact ⟨h1, (List.cons.inj h2).2⟩
      have hroute : w.board.bridge.latch.rx.route = payload.route := by
        rw [hloaded.route_eq hlen, ← hdone, hpayload.1, routeOf_words]
      have hseq : w.board.bridge.latch.rx.seq = payload.sequence := by
        rw [hloaded.seq_eq hlen, ← hdone, hpayload.1]
        rfl
      have hhidden := h.quiet.hidden hb hidden
      have hedge : Edge bases w.scanout _ _ := hopen.edge word t
      have hfate := hedge.fate_of_commit hc (by
        show _ → _ ≠ w.board.bridge.latch.rx.route.base
        rw [hroute]
        exact hhidden.unseen)
      refine .inr ⟨hpayload.2, _, _, ?_, ?_, hfate, ⟨⟨.refl, h.memory⟩, (hopen.transfer hl).ioUio⟩⟩
      · exact hroute
      · exact hseq

end MisterMagik.Host
