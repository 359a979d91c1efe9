/-
  File:      MisterMagik/Host/DeviceRules.lean
  Subject:   What the latch commands of the host guarantee, on a bus that loses and garbles words and
             under vertical blanks and legacy writes at any moment.

  * `readStatus_triple` -- a status that is read is that of a state on the way;
  * `post_triple` -- a post that returns was accepted by the latch: it is what was sent, and pending
    or active or already taken away. A post that fails may have been accepted.
-/
import MisterMagik.Host.Frames
import MisterMagik.Host.FullFrameLatch

namespace MisterMagik.Host

open MisterMagik.Base
open MisterMagik.Fpga

variable {M C : Type} {A : C → Type}

/-- The bus as a program sees it that does what is allowed. -/
abbrev wires (bases : SlotBases) (work : Work C A M) (fit : BitVec 32 → M → Prop) :
    Surroundings (DeviceOp.Res A) (World M) :=
  (bus bases work fit).within fun w => Wired w ∧ Whole bases fit w

variable {bases : SlotBases} {work : Work C A M} {fit : BitVec 32 → M → Prop} {w : World M}
  {s s0 : Scanout} {p0 : LatchPorts} {m : M} {level : Bool} {ε α : Type} {word : Word}
  {c : ReadCommand} {heard : List Word}

theorem stable_of_env {P : World M → Prop}
    (h : ∀ w w' p, World.Env bases p w w' → P w → P w') : (wires bases work fit).Stable P := by
  intro w w' hw he
  obtain ⟨p, he⟩ := he.1
  exact h w w' p he hw

theorem stable_calm : (wires bases work fit).Stable (Calm bases s m) :=
  stable_of_env fun _ _ _ he h => h.env he

theorem stable_since : (wires bases work fit).Stable (Since bases level s m) :=
  stable_of_env fun _ _ _ he h => h.env he

/-! ## 1. Operations -/

theorem setIo_triple {E : World M → Prop} :
    (setIo level : Device A ε Unit).Triple (wires bases work fit) (Calm bases s m)
      (fun _ => Since bases level s m) E := by
  refine .perform stable_calm (fun _ _ => trivial) fun w r w' hw hd => ?_
  obtain ⟨vbl, rfl⟩ := hd.1
  exact hw.setIo level vbl

/-- The bus is idle. -/
theorem disableIo_triple {E : World M → Prop} :
    (disableIo : Device A ε Unit).Triple (wires bases work fit) (Calm bases s m)
      (fun _ => Since bases false s m) E := setIo_triple

/-- The frame is open, and no word of it sent yet. -/
def Fresh (bases : SlotBases) (s : Scanout) (m : M) (w : World M) : Prop :=
  Since bases true s m w ∧ w.line = .empty

theorem stable_fresh : (wires bases work fit).Stable (Fresh bases s m) :=
  stable_of_env fun _ _ _ he h => ⟨h.1.env he, he.line.trans h.2⟩

/-- Between frames `IO_EN` opens a new one. -/
theorem enableIo_triple {E : World M → Prop} :
    (enableIo : Device A IoError Unit).Triple (wires bases work fit) (Since bases false s m)
      (fun _ => Fresh bases s m) E := by
  refine .perform stable_since (fun _ _ => trivial) fun w r w' hw hd => ?_
  obtain ⟨⟨vbl, rfl⟩, ⟨hwired, -⟩, -⟩ := hd
  exact ⟨hw.toCalm.setIo true vbl, (hwired.low hw.ioUio).line⟩

theorem spiCapture_triple {P : World M → Prop} {Q : SpiCapture → World M → Prop}
    {E : World M → Prop} (hP : (wires bases work fit).Stable P)
    (ha : ∀ w, P w → w.board.ioUio = true ∧
      ∀ base, sentBase (w.line.sent ++ [word]) = some base →
        Safe base w.scanout ∧ fit base w.memory)
    (hQ : ∀ w t high low, P w → Wired w → Legal w word t → t.reply = .ok (high, low) →
      Q ⟨high, low⟩ (w.transfer word t))
    (hE : ∀ w t, P w → Wired w → Legal w word t → E (w.transfer word t)) :
    (spiCapture word : Device A IoError SpiCapture).Triple (wires bases work fit) P Q E := by
  intro fpga w hw
  refine Call.wp_bind (Call.wp_perform hP hw ha fun w r w' hw hd => ?_)
  obtain ⟨⟨t, hl, rfl, rfl⟩, ⟨hwired, -⟩, -⟩ := hd
  refine Call.wp_ofExcept (fun capture hcapture => ?_) fun _ _ => hE w t hw hwired hl
  cases hreply : t.reply with
  | error phase =>
      rw [hreply] at hcapture
      cases hcapture
  | ok reply =>
      rw [hreply] at hcapture
      obtain rfl := Except.ok.inj hcapture
      exact hQ w t reply.1 reply.2 hw hwired hl hreply

theorem lockUio_triple {P E : World M → Prop} (hP : (wires bases work fit).Stable P)
    (hPE : ∀ w, P w → E w) :
    (lockUioTransaction : Device A IoError Unit).Triple (wires bases work fit) P (fun _ => P) E := by
  refine .bind .get fun fpga => ?_
  split
  · refine .bind (Q := fun _ => P) (.perform hP (fun _ _ => trivial) fun w r w' hw hd => ?_) fun r =>
      .bind (Q := fun _ => P) (.ofExcept (fun _ _ _ h => h) fun _ w _ h => hPE w h) fun _ => .modify
    obtain rfl : w' = w := hd.1
    exact hw
  · exact .modify

theorem dropUioGuard_triple {P E : World M → Prop} (hP : (wires bases work fit).Stable P) :
    (dropUioGuard : Device A ε Unit).Triple (wires bases work fit) P (fun _ => P) E := by
  refine .bind .modify fun _ => .bind .get fun fpga => ?_
  split
  · exact .pure fun _ h => h
  · refine .perform hP (fun _ _ => trivial) fun w r w' hw hd => ?_
    obtain rfl : w' = w := hd.1
    exact hw

/-- What is done under the lock. -/
theorem locked_triple {P E : World M → Prop} {Q : α → World M → Prop} {act : Device A IoError α}
    (hP : (wires bases work fit).Stable P) (hE : (wires bases work fit).Stable E)
    (hQ : ∀ a, (wires bases work fit).Stable (Q a)) (hPE : ∀ w, P w → E w)
    (hact : act.Triple (wires bases work fit) P Q E) :
    (locked act).Triple (wires bases work fit) P Q E :=
  .bind (lockUio_triple hP hPE) fun _ =>
    .ensuring hact (fun a => dropUioGuard_triple (hQ a)) (dropUioGuard_triple hE)

/-! ## 2. Reading -/

theorem stable_reading : (wires bases work fit).Stable (Reading bases c s0 p0 m heard) :=
  stable_of_env fun _ _ _ he h => h.env he

theorem sentBase_read (c : ReadCommand) (ws : List Word) :
    sentBase ((0#8 ++ c.byte) :: ws) = none := by
  unfold sentBase
  split
  · rename_i h
    obtain ⟨rfl, -⟩ := List.cons.inj h
    rw [commandOf_append, if_neg c.byte_ne_set]
  · rfl

/-- The command word of a message. -/
theorem command_triple (c : ReadCommand) :
    (spiCapture (0#8 ++ c.byte) : Device A IoError SpiCapture).Triple (wires bases work fit)
      (Fresh bases s m)
      (fun _ w => ∃ s0 p0, Quiet bases s s0 ∧ p0.ReadsBack s0.lfb ∧
        Reading bases c s0 p0 m [] w)
      (Calm bases s m) := by
  refine spiCapture_triple stable_fresh (fun w h => ⟨h.1.ioUio, fun base hbase => ?_⟩)
    (fun w t high low h hw hl ht => ?_) fun w t h hw hl => ?_
  · rw [h.2, Line.empty, List.nil_append, sentBase_read] at hbase
    cases hbase
  · exact ⟨w.scanout, w.transferPorts t, h.1.quiet, ⟨rfl, rfl, rfl, rfl, rfl⟩,
      .start h.1 h.2 hw hl ht⟩
  · refine (h.1.transfer hw hl ?_).toCalm
    rw [h.2]
    exact harmless_read c []

theorem readWord_triple :
    (spiCapture 0#16 : Device A IoError SpiCapture).Triple (wires bases work fit)
      (Reading bases c s0 p0 m heard)
      (fun capture => Reading bases c s0 p0 m (heard ++ [capture.ackLow]))
      (Calm bases s0 m) := by
  refine spiCapture_triple stable_reading (fun w h => ⟨h.ioUio, fun base hbase => ?_⟩)
    (fun w t high low h hw hl ht => h.next hw hl ht) fun w t h hw hl => ?_
  · rw [h.sent, List.cons_append, sentBase_read] at hbase
    cases hbase
  · refine (h.toSince.transfer hw hl ?_).toCalm
    rw [h.sent]
    exact harmless_read c _

/-- **The words of a message**, one exchange each. -/
theorem readWords_triple (n : Nat) :
    (readWords n : Device A IoError (List Word)).Triple (wires bases work fit)
      (Reading bases c s0 p0 m heard)
      (fun words w => words.length = n ∧ Reading bases c s0 p0 m (heard ++ words) w)
      (Calm bases s0 m) := by
  induction n generalizing heard with
  | zero => exact .pure fun w h => ⟨rfl, by rwa [List.append_nil]⟩
  | succ n ih =>
      refine .bind readWord_triple fun capture => .bind ih fun rest => .pure fun w h => ?_
      obtain ⟨hlen, h⟩ := h
      refine ⟨by rw [List.length_cons, hlen], ?_⟩
      rwa [List.append_assoc] at h

theorem decoded_triple {P : World M → Prop} {x : Except String α} :
    (decoded x : Device A IoError α).Triple (wires bases work fit) P
      (fun a w => x = .ok a ∧ P w) P := by
  cases x with
  | ok a => exact .pure fun w h => ⟨rfl, h⟩
  | error e => exact .throw fun w h => h

/-! ## 3. Statuses -/

/-- The status is that of this state. -/
structure Reports (status : LatchedFbufStatus) (s : Scanout) : Prop where
  pending : status.pending = s.latch.pending
  activeEnabled : status.activeEnabled = s.lfb.en
  activeBase : status.activeBase = s.lfb.base
  activeSequence : status.activeSequence = s.latch.activeSeq
  pendingSequence : status.pendingSequence = s.latch.pendingSeq

theorem decodeStatus_verified {words : List Word} {status : LatchStatus}
    (h : decodeStatus .V5 words = .ok status) :
    words.length = 16 ∧
      verifyCrc (0#8 ++ ReadCommand.status.byte) .V5 (words.take 15) (words.getD 15 0#16) =
        .ok () := by
  unfold decodeStatus at h
  split at h
  · cases h
  · rename_i hlen
    refine ⟨Decidable.not_not.mp hlen, ?_⟩
    cases hv : verifyCrc GET_FBUF_LATCH .V5 (words.take 15) (words.getD 15 0#16) with
    | ok u => exact hv
    | error e =>
        rw [hv] at h
        cases h

theorem Reading.reports {words : List Word} {status : LatchStatus} (command : SpiCapture)
    (h : Reading bases .status s0 p0 m words w) (hback : p0.ReadsBack s0.lfb)
    (hd : decodeStatus .V5 words = .ok status) :
    Reports (.ofDecoded command status) s0 := by
  obtain ⟨hlen, hcrc⟩ := decodeStatus_verified hd
  obtain ⟨-, -, rfl⟩ := h.checked hlen hcrc
  rw [decodeStatus_message _ _ _ rfl] at hd
  obtain rfl := Except.ok.inj hd
  obtain ⟨hactive, -, hpending, -, -⟩ := flagsReport s0.latch p0 (messageCheck .status s0.latch p0)
  exact ⟨hpending, hactive.trans hback.en, hback.base, rfl, rfl⟩

/-- A status read since `s`: it is that of a state on the way. -/
def StatusRead (bases : SlotBases) (s : Scanout) (m : M) (status : LatchedFbufStatus)
    (w : World M) : Prop :=
  ∃ s0, Quiet bases s s0 ∧ Reports status s0 ∧ Since bases false s0 m w

theorem stable_statusRead {status : LatchedFbufStatus} :
    (wires bases work fit).Stable (StatusRead bases s m status) :=
  stable_of_env fun _ _ _ he h => by
    obtain ⟨s0, hq, hr, h⟩ := h
    exact ⟨s0, hq, hr, h.env he⟩

theorem StatusRead.since {status : LatchedFbufStatus} (h : StatusRead bases s m status w) :
    Since bases false s m w := by
  obtain ⟨s0, hq, -, h⟩ := h
  exact h.trans hq

/-- What fails inside a frame leaves the bus idle. -/
theorem disableIo_back (hq : Quiet bases s s0) :
    (disableIo : Device A IoError Unit).Triple (wires bases work fit) (Calm bases s0 m)
      (fun _ => Since bases false s m) (Since bases false s m) :=
  disableIo_triple.mono (fun _ h => h) (fun _ _ h => h.trans hq) fun _ h => h

theorem readStatusOnce_triple (protocol : LatchProtocol) :
    (readMagikLatchedFbufStatusOnce protocol : Device A IoError LatchedFbufStatus).Triple
      (wires bases work fit) (Since bases false s m) (StatusRead bases s m)
      (Since bases false s m) := by
  refine .bind enableIo_triple fun _ =>
    .bind (.onError (command_triple .status) (disableIo_back .refl)) fun command fpga w h => ?_
  obtain ⟨s0, p0, hq, hback, h⟩ := h
  refine (Call.Triple.bind (.onError (readWords_triple 16) (disableIo_back hq)) fun words =>
    ?_) fpga w h
  refine fun fpga w h => ?_
  obtain ⟨-, h⟩ := h
  rw [List.nil_append] at h
  -- what the words decode to does not depend on the world any more
  have hreports : ∀ status : LatchStatus, decodeStatus .V5 words = .ok status →
      Reports (.ofDecoded command status) s0 := fun _ => h.reports command hback
  refine (Call.Triple.bind (disableIo_triple (E := Since bases false s m)) fun _ =>
    .bind (Q := fun status w => decodeStatus .V5 words = .ok status ∧ Since bases false s0 m w)
      (decoded_triple.mono (fun _ h => h) (fun _ _ h => h) fun _ h => h.trans hq) fun status =>
    .pure fun w h => ?_) fpga w h.toSince.toCalm
  exact ⟨s0, hq, hreports status h.1, h.2⟩

/-- **A status that is read is that of a state on the way**, the second time too. -/
theorem readStatus_triple :
    (readMagikLatchedFbufStatusSample : Device A IoError LatchedFbufStatus).Triple
      (wires bases work fit) (Since bases false s m) (StatusRead bases s m)
      (Since bases false s m) := by
  refine locked_triple stable_since stable_since (fun _ => stable_statusRead) (fun _ h => h) ?_
  refine .bind .get fun fpga => ?_
  split
  · exact .throw fun _ h => h
  · rename_i protocol _
    refine .bind (.attempt (readStatusOnce_triple protocol)
      (T := fun r w => Since bases false s m w ∧
        ∀ status, r = .ok status → StatusRead bases s m status w)
      (fun _ _ h => ⟨h.since, fun _ hr => Except.ok.inj hr ▸ h⟩)
      fun _ _ h => ⟨h, fun _ hr => by cases hr⟩) fun r => ?_
    cases r with
    | ok status => exact .pure fun _ h => h.2 status rfl
    | error first =>
        dsimp only
        split
        · exact .bind ((disableIo_back .refl).mono (fun _ h => h.1.toCalm) (fun _ _ h => h)
            fun _ h => h) fun _ => readStatusOnce_triple protocol
        · exact .throw fun _ h => h.1

/-! ## 4. Other messages -/

/-- A command begins a frame; where it fails the bus is idle. -/
theorem cmdCapture_triple (c : ReadCommand) :
    (cmdCapture (0#8 ++ c.byte) : Device A IoError SpiCapture).Triple (wires bases work fit)
      (Since bases false s m)
      (fun _ w => ∃ s0 p0, Quiet bases s s0 ∧ p0.ReadsBack s0.lfb ∧
        Reading bases c s0 p0 m [] w)
      (Since bases false s m) :=
  .bind enableIo_triple fun _ => .onError (command_triple c) (disableIo_back .refl)

/-- Somewhere in a message. -/
def Talking (bases : SlotBases) (c : ReadCommand) (s : Scanout) (m : M) (w : World M) : Prop :=
  ∃ s0 p0 heard, Quiet bases s s0 ∧ Reading bases c s0 p0 m heard w

theorem Talking.calm (h : Talking bases c s m w) : Calm bases s m w := by
  obtain ⟨s0, p0, heard, hq, h⟩ := h
  exact h.toSince.toCalm.trans hq

theorem cmdCapture_talks (c : ReadCommand) :
    (cmdCapture (0#8 ++ c.byte) : Device A IoError SpiCapture).Triple (wires bases work fit)
      (Since bases false s m) (fun _ => Talking bases c s m) (Calm bases s m) := by
  refine (cmdCapture_triple c).mono (fun _ h => h) (fun _ w h => ?_) fun _ h => h.toCalm
  obtain ⟨s0, p0, hq, -, h⟩ := h
  exact ⟨s0, p0, [], hq, h⟩

theorem readWord_talks :
    (spiCapture 0#16 : Device A IoError SpiCapture).Triple (wires bases work fit)
      (Talking bases c s m) (fun _ => Talking bases c s m) (Calm bases s m) := by
  intro fpga w h
  obtain ⟨s0, p0, heard, hq, h⟩ := h
  refine (readWord_triple.mono (fun _ h => h) (fun capture w h => ?_) fun w h => ?_) fpga w h
  · exact ⟨s0, p0, _, hq, h⟩
  · exact h.trans hq

theorem readWords_talks (n : Nat) :
    (readWords n : Device A IoError (List Word)).Triple (wires bases work fit)
      (Talking bases c s m) (fun _ => Talking bases c s m) (Calm bases s m) := by
  intro fpga w h
  obtain ⟨s0, p0, heard, hq, h⟩ := h
  refine ((readWords_triple n).mono (fun _ h => h) (fun words w h => ?_) fun w h => ?_) fpga w h
  · exact ⟨s0, p0, _, hq, h.2⟩
  · exact h.trans hq

theorem decoded_talks {x : Except String α} :
    (decoded x : Device A IoError α).Triple (wires bases work fit) (Talking bases c s m)
      (fun _ => Talking bases c s m) (Calm bases s m) :=
  decoded_triple.mono (fun _ h => h) (fun _ _ h => h.2) fun _ h => h.calm

/-- A call that accepts no post and leaves the bus idle. -/
def Quietly (bases : SlotBases) (work : Work C A M) (fit : BitVec 32 → M → Prop)
    (act : Device A ε α) : Prop :=
  ∀ s m, act.Triple (wires bases work fit) (Since bases false s m)
    (fun _ => Since bases false s m) (Since bases false s m)

/-- What a frame leaves, its guard puts right. -/
theorem quietly_ensuring {act : Device A ε α}
    (h : act.Triple (wires bases work fit) (Since bases false s m) (fun _ => Calm bases s m)
      (Calm bases s m)) :
    (act.ensuring disableIo).Triple (wires bases work fit) (Since bases false s m)
      (fun _ => Since bases false s m) (Since bases false s m) :=
  .ensuring h (fun _ => disableIo_triple) disableIo_triple

theorem quietly_locked {act : Device A IoError α} (h : Quietly bases work fit act) :
    Quietly bases work fit (locked act) :=
  fun s m => locked_triple stable_since stable_since (fun _ => stable_since) (fun _ h => h) (h s m)

theorem readCapabilitiesOnce_triple :
    Quietly bases work fit
      (readMagikLatchedFbufCapabilitiesOnce : Device A (IoError × Option LatchProtocol) _) := by
  intro s m
  refine quietly_ensuring ?_
  refine .bind (.mapError (cmdCapture_talks .capabilities)) fun command =>
    .bind (.mapError readWord_talks) fun version =>
    .bind (.mapError decoded_talks) fun protocol =>
    .bind (.mapError (readWords_talks _)) fun rest =>
    .bind (.mapError decoded_talks) fun capabilities => .pure fun _ h => h.calm

theorem readCapabilities_triple :
    Quietly bases work fit
      (readMagikLatchedFbufCapabilities : Device A IoError (Word × Word × LatchCapabilities)) := by
  refine quietly_locked fun s m => ?_
  refine .bind .modify fun _ => .bind (.attempt (readCapabilitiesOnce_triple s m)
    (T := fun _ => Since bases false s m) (fun _ _ h => h) fun _ _ h => h) fun r => ?_
  have hkeep : ∀ result : Word × Word × LatchCapabilities,
      (Call.Triple (wires bases work fit) (do
        Call.modify fun fpga =>
          if usable result then { fpga with latchCapabilities := some result.2.2 } else fpga
        pure result : Device A IoError _) (Since bases false s m)
        (fun _ => Since bases false s m) (Since bases false s m)) :=
    fun _ => .bind .modify fun _ => .pure fun _ h => h
  cases r with
  | ok result => exact .bind (.pure fun _ h => h) hkeep
  | error e =>
      obtain ⟨first, protocol⟩ := e
      dsimp only
      split
      · exact .bind ((disableIo_back .refl).mono (fun _ h => h.toCalm) (fun _ _ h => h)
          fun _ h => h) fun _ => .bind (.mapError (readCapabilitiesOnce_triple s m)) hkeep
      · exact .bind (Q := fun _ => Since bases false s m) (.throw fun _ h => h) hkeep

/-- A message behind a guard that leaves the bus idle. -/
theorem guarded_triple {act : SpiCapture → Device A IoError α}
    (hact : ∀ s m command, (act command).Triple (wires bases work fit) (Talking bases c s m)
      (fun _ => Talking bases c s m) (Calm bases s m)) (s : Scanout) (m : M) :
    (do
      disableIo
      Call.ensuring (cmdCapture (0#8 ++ c.byte) >>= act) disableIo :
        Device A IoError α).Triple (wires bases work fit) (Since bases false s m)
      (fun _ => Since bases false s m) (Since bases false s m) := by
  refine .bind (disableIo_triple.mono (fun _ h => h.toCalm) (fun _ _ h => h) fun _ h => h) fun _ =>
    quietly_ensuring (.bind (cmdCapture_talks c) fun command => ?_)
  exact (hact s m command).mono (fun _ h => h) (fun _ _ h => h.calm) fun _ h => h

theorem readDiagnostics_triple :
    Quietly bases work fit (readMagikLatchedFbufRejectionDiagnostics :
      Device A IoError (Option LatchRejectionDiagnostics)) := by
  refine quietly_locked fun s m => .bind .get fun fpga => ?_
  split
  · exact .throw fun _ h => h
  · split
    · exact .pure fun _ h => h
    · refine guarded_triple (c := .diagnostics) (fun s m command => ?_) s m
      split
      · exact .bind (readWords_talks _) fun words => .bind decoded_talks fun diagnostics =>
          .pure fun _ h => h
      · exact .throw fun _ h => h.calm

theorem readTelemetry_triple :
    Quietly bases work fit
      (readMagikPresentationTelemetry : Device A IoError PresentationTelemetry) := by
  refine quietly_locked fun s m => .bind .get fun fpga => ?_
  split
  · exact .throw fun _ h => h
  · split
    · exact .throw fun _ h => h
    · refine guarded_triple (c := .telemetry) (fun s m command => ?_) s m
      split
      · exact .bind (readWords_talks _) fun words => decoded_talks
      · exact .throw fun _ h => h.calm

/-! ## 5. Receipts -/

theorem decodeReceipt_verified {words : List Word} {receipt : LatchReceipt}
    (h : decodeReceipt words = .ok receipt) :
    words.length = 11 ∧
      verifyCrc (0#8 ++ ReadCommand.receipt.byte) .V5 (words.take 10) (words.getD 10 0#16) =
        .ok () := by
  unfold decodeReceipt at h
  split at h
  · cases h
  · rename_i hlen
    refine ⟨Decidable.not_not.mp hlen, ?_⟩
    cases hv : verifyCrc GET_FBUF_LATCH_RECEIPT .V5 (words.take (V5_RECEIPT_WORDS - 1))
        (words.getD (V5_RECEIPT_WORDS - 1) 0#16) with
    | ok u => exact hv
    | error e =>
        rw [hv] at h
        cases h

/-- A receipt says "accepted" only if the latch does. -/
theorem Reading.receipt {words : List Word} {receipt : LatchReceipt}
    (h : Reading bases .receipt s0 p0 m words w) (hd : decodeReceipt words = .ok receipt)
    (ha : receipt.accepted = true) : ¬ Unaccepted s0.latch := by
  obtain ⟨hlen, hcrc⟩ := decodeReceipt_verified hd
  obtain ⟨hstart, hid, rfl⟩ := h.checked hlen hcrc
  rw [decodeReceipt_message _ _ hstart hid _ rfl] at hd
  split at hd
  · obtain rfl := Except.ok.inj hd
    have hdisposition : (s0.latch.next p0).receipt.disposition = MAGIK_RECEIPT_ACCEPTED :=
      beq_iff_eq.mp ha
    intro hu
    obtain ho | hne := hu.next (Latch.not_commits_of_start _ p0 hstart)
    · obtain ⟨-, hset, -⟩ | ⟨hs, -⟩ | ⟨hdata, -⟩ := Latch.receiver_next _ _ ho
      · exact ReadCommand.receipt.byte_ne_set (hid.symm.trans hset)
      · rw [hstart] at hs
        cases hs
      · simp [LatchPorts.setData, hstart] at hdata
    · exact hne hdisposition
  · cases hd

theorem readReceipt_triple :
    (readMagikLatchedFbufReceiptUnlocked : Device A IoError LatchReceipt).Triple
      (wires bases work fit) (Since bases false s m)
      (fun receipt w => (Unaccepted s.latch → receipt.accepted = false) ∧ Calm bases s m w)
      (Calm bases s m) := by
  refine .bind ((cmdCapture_triple .receipt).mono (fun _ h => h) (fun _ _ h => h)
    fun _ h => h.toCalm) fun command => ?_
  split
  · intro fpga w h
    obtain ⟨s0, p0, hq, -, h⟩ := h
    refine (Call.Triple.bind (readWords_triple V5_RECEIPT_WORDS) fun words => ?_).mono
      (fun _ h => h) (fun _ _ h => h) (fun _ h => h.trans hq) fpga w h
    refine decoded_triple.mono (fun _ h => h) (fun receipt w h => ?_) fun w h =>
      h.2.toSince.toCalm
    obtain ⟨hd, -, h⟩ := h
    rw [List.nil_append] at h
    refine ⟨fun hu => ?_, h.toSince.toCalm.trans hq⟩
    cases ha : receipt.accepted with
    | false => rfl
    | true => exact absurd (hu.quiet hq) (h.receipt hd ha)
  · refine .throw fun w h => ?_
    obtain ⟨s0, p0, hq, -, h⟩ := h
    exact h.toSince.toCalm.trans hq

/-! ## 6. Posts -/

/-- Between frames, with nothing said of the latch. -/
structure Idle (m : M) (w : World M) : Prop where
  ioUio : w.board.ioUio = false
  memory : w.memory = m

theorem Since.idle (h : Since bases false s m w) : Idle m w := ⟨h.ioUio, h.memory⟩

theorem Idle.since (h : Idle m w) : Since bases false w.scanout m w :=
  ⟨⟨.refl, h.memory⟩, h.ioUio⟩

theorem stable_idle : (wires bases work fit).Stable (Idle m) :=
  stable_of_env fun _ _ _ he h => ⟨he.ioUio.trans h.ioUio, he.memory.trans h.memory⟩

theorem disableIo_idle {E : World M → Prop} :
    (disableIo : Device A ε Unit).Triple (wires bases work fit) (fun w => w.memory = m)
      (fun _ => Idle m) E := by
  intro fpga w hm
  have hcalm : Calm bases w.scanout m w := ⟨.refl, hm⟩
  exact (disableIo_triple.mono (fun _ h => h) (fun _ _ h => h.idle) fun _ h => h) fpga w hcalm

theorem stable_sending {done : List Word} :
    (wires bases work fit).Stable (Sending bases s m done) :=
  stable_of_env fun _ _ _ he h => h.env he

theorem stable_accepted {route : Route} {sequence : Word} :
    (wires bases work fit).Stable (Accepted bases route sequence level m) :=
  stable_of_env fun _ _ _ he h => h.env he

/-- The base in the words of a SET frame is that of its payload. -/
theorem sentBase_prefix {payload : LatchSetPayload} {done rest : List Word} {base : BitVec 32}
    (hwords : done ++ rest = (encodeSet .V5 payload).words)
    (hbase : sentBase (SET_FBUF_LATCH :: done) = some base) : base = payload.base := by
  match done, hbase with
  | mode :: low :: high :: more, hbase =>
      have hset : commandOf SET_FBUF_LATCH = MAGIK_UIO_SET_FBUF_LATCH := by decide
      rw [sentBase, if_pos hset] at hbase
      obtain rfl := Option.some.inj hbase
      obtain ⟨-, h⟩ := List.cons.inj hwords
      obtain ⟨hlow, h⟩ := List.cons.inj h
      obtain ⟨hhigh, -⟩ := List.cons.inj h
      rw [hlow, hhigh]
      exact append_halves payload.base

section Post

variable (payload : LatchSetPayload) (hb : bases.Contains payload.base)
  (hidden : Hidden payload.base s) (hfit : fit payload.base m)
include hb hidden hfit

/-- The words of a post behind its command. -/
theorem sendWords_triple {done words : List Word}
    (hwords : done ++ words = (encodeSet .V5 payload).words) :
    (sendWords words : Device A IoError Unit).Triple (wires bases work fit)
      (Sending bases s m done)
      (fun _ w => (∃ done, Sending bases s m done w) ∨
        Accepted bases payload.route payload.sequence true m w)
      (fun w => w.memory = m) := by
  induction words generalizing done with
  | nil => exact .pure fun w h => .inl ⟨done, h⟩
  | cons word rest ih =>
      refine .bind (Q := fun _ w => Sending bases s m (done ++ [word]) w ∨
        rest = [] ∧ Accepted bases payload.route payload.sequence true m w)
        (spiCapture_triple stable_sending (fun w h => ⟨h.ioUio, fun base hbase => ?_⟩)
          (fun w t high low h hw hl _ => h.next hw hl hwords hidden hb)
          fun w t h _ _ => h.memory) fun _ => ?_
      · rw [h.sent, List.cons_append] at hbase
        have hparts : (done ++ [word]) ++ rest = (encodeSet .V5 payload).words := by
          rw [List.append_assoc]
          exact hwords
        obtain rfl := sentBase_prefix hparts hbase
        exact ⟨(h.quiet.hidden hb hidden).safe, h.memory ▸ hfit⟩
      · intro fpga w h
        obtain h | ⟨rfl, h⟩ := h
        · exact ih (by rw [List.append_assoc]; exact hwords) fpga w h
        · exact Call.Triple.pure (fun _ h => .inr h) fpga w h

/-- A SET frame: the post was accepted, or the receiver says that it was not. -/
theorem sendSet_triple :
    (sendSet (encodeSet .V5 payload) : Device A IoError SpiCapture).Triple (wires bases work fit)
      (Since bases false s m)
      (fun _ w => (∃ s1, Unaccepted s1.latch ∧ Since bases false s1 m w) ∨
        Accepted bases payload.route payload.sequence false m w)
      (Idle m) := by
  refine .bind (enableIo_triple (E := Idle m)) fun _ =>
    .bind (Q := fun _ => Sending bases s m []) (.onError (F := fun w => w.memory = m)
      (spiCapture_triple stable_fresh (fun w h => ⟨h.1.ioUio, fun base hbase => ?_⟩)
        (fun w t high low h hw hl ht => .start h.1 h.2 hw hl ht) fun w t h _ _ => h.1.memory)
      disableIo_idle) fun support =>
    .bind (.onError (sendWords_triple payload hb hidden hfit (List.nil_append _)) disableIo_idle)
      fun _ =>
    .bind (Q := fun _ w => (∃ s1, Unaccepted s1.latch ∧ Since bases false s1 m w) ∨
        Accepted bases payload.route payload.sequence false m w) ?_ fun _ => .pure fun _ h => h
  · rw [h.2] at hbase
    cases hbase
  · intro fpga w h
    obtain ⟨done, h⟩ | ⟨s1, q, hroute, hseq, hfate, h⟩ := h
    · have hcalm : Calm bases w.scanout m w := ⟨.refl, h.memory⟩
      refine (disableIo_triple.mono (fun _ h => h) (fun _ w' h' => ?_) fun _ h => h) fpga w hcalm
      exact .inl ⟨w.scanout, h.unaccepted, h'⟩
    · refine (disableIo_triple.mono (fun _ h => h) (fun _ w' h' => ?_) fun _ h => h) fpga w h.toCalm
      exact .inr ⟨s1, q, hroute, hseq, hfate, h'⟩

end Post

theorem LatchReceipt.accepted_of_confirms {receipt : LatchReceipt} {sequence : Word}
    (h : receipt.confirms sequence = true) : receipt.accepted = true := by
  simp only [LatchReceipt.confirms, Bool.and_eq_true] at h
  exact h.1.1.1.1

/-- **A post that returns was accepted.** -/
theorem post_triple {base : BitVec 32} {sequence width height : Word}
    {geometry : LatchedFbufGeometry} (hb : bases.Contains base) (hidden : Hidden base s)
    (hfit : fit base m) :
    (postMagikLatchedFbufRgb565Observed sequence base width height geometry :
      Device A IoError LatchedFbufPostAttempt).Triple (wires bases work fit) (Since bases false s m)
      (fun _ => Accepted bases (setPayload sequence base width height geometry).route sequence
        false m) (Idle m) := by
  refine (locked_triple stable_since stable_idle (fun _ => stable_accepted) (fun _ h => h.idle)
    (.bind (disableIo_triple.mono (fun _ h => h.toCalm) (fun _ _ h => h) fun _ h => h) fun _ =>
      .bind .get fun fpga => ?_))
  split
  · exact .throw fun _ h => h.idle
  · refine .bind (sendSet_triple (setPayload sequence base width height geometry) hb hidden hfit)
      fun support fpga w h => ?_
    obtain ⟨s1, hu, h⟩ | ⟨s1, q, hroute, hseq, hfate, h⟩ := h
    · -- the receipt cannot confirm a post that was not accepted
      refine (Call.Triple.bind (Q := fun receipt w => receipt.accepted = false ∧ w.memory = m)
        (.onError (F := fun w => w.memory = m) (readReceipt_triple.mono (fun _ h => h)
          (fun _ _ h => ⟨h.1 hu, h.2.memory⟩) fun _ h => h.memory) disableIo_idle)
        fun receipt fpga w h => ?_) fpga w h
      obtain ⟨hrefused, hm⟩ := h
      refine (Call.Triple.bind disableIo_idle fun _ => ?_) fpga w hm
      split
      · rename_i hconfirms
        rw [LatchReceipt.accepted_of_confirms hconfirms] at hrefused
        cases hrefused
      · exact .throw fun _ h => h
    · refine (Call.Triple.bind (Q := fun _ => Calm bases s1 m)
        (.onError (F := fun w => w.memory = m) (readReceipt_triple.mono (fun _ h => h)
          (fun _ _ h => h.2) fun _ h => h.memory) disableIo_idle)
        fun receipt => .bind disableIo_triple fun _ => ?_) fpga w h
      split
      · exact .pure fun w h => ⟨s1, q, hroute, hseq, hfate, h⟩
      · exact .throw fun _ h => h.idle

/-! ## 7. Prepared frames -/

/-- What accepts no post keeps the accepted one. -/
theorem quietly_accepted {act : Device A ε α} {route : Route} {sequence : Word}
    (h : Quietly bases work fit act) :
    act.Triple (wires bases work fit) (Accepted bases route sequence false m)
      (fun _ => Accepted bases route sequence false m) (Idle m) := by
  intro fpga w hw
  obtain ⟨s1, q, hroute, hseq, hfate, hw⟩ := hw
  exact ((h s1 m).mono (fun _ h => h) (fun _ w h => ⟨s1, q, hroute, hseq, hfate, h⟩)
    fun _ h => h.idle) fpga w hw

theorem readStatus_quietly :
    Quietly bases work fit (readMagikLatchedFbufStatusSample : Device A IoError _) :=
  fun _ _ => readStatus_triple.mono (fun _ h => h) (fun _ _ h => h.since) fun _ h => h

section Frames

variable {readStatus : StatusReader A} (hread : ∀ budget, Quietly bases work fit (readStatus budget))
include hread

theorem readPostStatusLoop_quietly (sequence : Word) (fuel : Nat)
    (sample : LatchedFbufStatus × LogicalStatusReadBudget) :
    Quietly bases work fit (readPostStatusLoop sequence readStatus fuel sample) := by
  intro s m
  induction fuel generalizing sample with
  | zero => exact .pure fun _ h => h
  | succ fuel ih =>
      unfold readPostStatusLoop
      split
      · exact .pure fun _ h => h
      · split
        · exact .pure fun _ h => h
        · exact .bind (hread sample.2 s m) fun next => ih next

theorem confirmPost_quietly (request : LatchPostRequest) (post : LatchedFbufPostAttempt) :
    Quietly bases work fit (confirmPost request readStatus post) := by
  have hevidence : ∀ (failure : LatchFailure) (status : LatchedFbufStatus),
      Quietly bases work fit
        (failPost failure status : Device A LatchFailure LatchPostReceipt) := by
    intro failure status s m
    refine .bind (Q := fun _ => Since bases false s m) ?_ fun _ => .throw fun _ h => h
    unfold withPostFailureEvidence
    dsimp only
    split
    · refine .bind (.attempt (readDiagnostics_triple s m) (T := fun _ => Since bases false s m)
        (fun _ _ h => h) fun _ _ h => h) fun r => ?_
      split <;> exact .pure fun _ h => h
    · exact .pure fun _ h => h
  intro s m
  refine .bind (.bind (hread .new s m) fun sample =>
    readPostStatusLoop_quietly hread request.sequence _ sample s m) fun sample => ?_
  obtain ⟨status, budget⟩ := sample
  dsimp only
  split
  · exact hevidence _ _ s m
  · split
    · exact hevidence _ _ s m
    · exact .pure fun _ h => h

/-- The route a request asks for. -/
def LatchPostRequest.route (request : LatchPostRequest) : Route :=
  (setPayload request.sequence request.baseAddr request.width request.height
    request.geometry).route

/-- **A prepared frame that is posted was accepted.** -/
theorem postConfirm_triple {request : LatchPostRequest} (hb : bases.Contains request.baseAddr)
    (hidden : Hidden request.baseAddr s) (hfit : fit request.baseAddr m) :
    (postConfirmPreparedFrame request readStatus).Triple (wires bases work fit)
      (Since bases false s m) (fun _ => Accepted bases request.route request.sequence false m)
      (Idle m) := by
  refine .bind (.mapError (lockUio_triple stable_since fun _ h => h.idle)) fun _ =>
    .ensuring (.bind ((hread .new s m).mono (fun _ h => h) (fun _ _ h => h) fun _ h => h.idle)
      fun before => ?_) (fun _ => dropUioGuard_triple stable_accepted)
      (dropUioGuard_triple stable_idle)
  obtain ⟨lockedBefore, budget⟩ := before
  dsimp only
  split
  · exact .throw fun _ h => h.idle
  · exact .bind (.mapError (post_triple hb hidden hfit)) fun post =>
      quietly_accepted (confirmPost_quietly hread request post)

end Frames

/-! ## 8. Completion -/

/-- A completion was read since `s`. -/
def Completed (bases : SlotBases) (s : Scanout) (m : M) (sequence : Word)
    (completion : LatchCompletion) (w : World M) : Prop :=
  completion.status.pending = false ∧ completion.status.activeSequence = sequence ∧
    StatusRead bases s m completion.status w

theorem completion_triple (sequence : Word) (polls : Nat) :
    (waitForLatchCompletion sequence polls : Device A LatchFailure LatchCompletion).Triple
      (wires bases work fit) (Since bases false s m) (Completed bases s m sequence)
      (Since bases false s m) := by
  have hloop : ∀ (polls pollCount : Nat) (observed : Bool),
      (waitForLatchCompletionLoop sequence polls pollCount observed :
        Device A LatchFailure LatchCompletion).Triple (wires bases work fit)
        (Since bases false s m) (Completed bases s m sequence) (Since bases false s m) := by
    intro polls
    induction polls with
    | zero =>
        intro pollCount observed
        unfold waitForLatchCompletionLoop
        refine .bind (.mapError readStatus_triple) fun status => ?_
        dsimp only
        split
        · exact .throw fun _ h => h.since
        · split
          · rename_i hdone
            simp only [Bool.and_eq_true, Bool.not_eq_true', beq_iff_eq] at hdone
            exact .pure fun _ h => ⟨hdone.1, hdone.2, h⟩
          · exact .throw fun _ h => h.since
    | succ polls ih =>
        intro pollCount observed
        unfold waitForLatchCompletionLoop
        refine .bind (.mapError readStatus_triple) fun status => ?_
        dsimp only
        split
        · exact .throw fun _ h => h.since
        · split
          · rename_i hdone
            simp only [Bool.and_eq_true, Bool.not_eq_true', beq_iff_eq] at hdone
            exact .pure fun _ h => ⟨hdone.1, hdone.2, h⟩
          · exact (ih _ _).mono (fun _ h => h.since) (fun _ _ h => h) fun _ h => h
  exact hloop polls 0 false

/-- **A completed post is on the display**: there is a state on the way that shows it and has
    nothing pending. -/
theorem Completed.shown {completion : LatchCompletion} {q : Post}
    (h : Completed bases s m q.sequence completion w) (hb : bases.Contains q.route.base)
    (hfate : Fate q s) (hne : q.sequence ≠ 0#16) :
    ∃ s0, Quiet bases s s0 ∧ s0.latch.pending = false ∧ s0.lfb = .ofRoute q.route ∧
      Since bases false s0 m w := by
  obtain ⟨hpending, hactive, s0, hq, hr, h⟩ := h
  have hidle : s0.latch.pending = false := hr.pending.symm.trans hpending
  have hseq : s0.latch.activeSeq = q.sequence := hr.activeSequence.symm.trans hactive
  refine ⟨s0, hq, hidle, ?_, h⟩
  cases hq.fate hb hfate with
  | pending hp =>
      rw [hidle] at hp
      cases hp
  | active _ _ _ _ _ hl => exact hl
  | gone _ hs | lingering _ hs => exact absurd (hseq.symm.trans hs) hne

end MisterMagik.Host
