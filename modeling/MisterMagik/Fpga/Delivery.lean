/-
  File:      MisterMagik/Fpga/Delivery.lean
  Subject:   A SET frame delivered word by word, from its command word to the verdict on it.

  * `receiver_open` -- the receiver stays open up to the check word;
  * `posts_in_set_frame` -- with nothing pending, nothing moves the post registers until then;
  * `Delivered.judged` -- the check word is judged on exactly the words delivered;
  * `Judged.accepted`, `Judged.bad_payload`, `Judged.bad_crc` -- the three verdicts.
-/
import MisterMagik.Fpga.Presentation

namespace MisterMagik.Fpga

/-! ## 1. One clock edge -/

namespace Latch

variable {old new : Latch} {p : LatchPorts}

theorem receiveWord_payload (ho : old.rx.isOpen = true) (hw : p.wordIndex = old.rx.expected)
    (hlt : p.wordIndex < 11#4) : old.receiveWord p new = old.receivePayload p new := by
  have h11 : (p.wordIndex == 11#4) = false := beq_false_of_ne (BitVec.ne_of_lt hlt)
  unfold receiveWord
  rw [ho, h11, ← hw]
  simp [BitVec.lt_irrefl, hlt]

theorem receiveWord_check (ho : old.rx.isOpen = true) (hw : p.wordIndex = old.rx.expected)
    (h11 : p.wordIndex = 11#4) : old.receiveWord p new = old.receiveCheck p new := by
  unfold receiveWord
  rw [ho, ← hw, h11]
  simp

theorem receive_data (h : p.setData = true) : old.receive p new = old.receiveWord p new := by
  simp only [LatchPorts.setData, Bool.and_eq_true, Bool.not_eq_true', beq_iff_eq] at h
  simp [receive, h]

/-- The attempt has ended with this reason. -/
structure RejectedWith (s : Latch) (reason : BitVec 4) : Prop where
  disposition : s.receipt.disposition = MAGIK_RECEIPT_REJECTED
  receiptReason : s.receipt.rejectReason = reason
  lastReason : s.lastReject.reason = reason
  closed : s.rx.isOpen = false

theorem rejectedWith_rejectWord (old : Latch) (p : LatchPorts) (reason : BitVec 4) (new : Latch) :
    (old.rejectWord p reason new).RejectedWith reason := ⟨rfl, rfl, rfl, rfl⟩

end Latch

/-! ## 2. Inside the frame -/

variable {inp : Stimulus} {n r : Nat} {f : Frame}

/-- The receiver stays open up to the check word. -/
theorem receiver_open (h : frame inp n = some f) (hc : f.command = MAGIK_UIO_SET_FBUF_LATCH)
    (hlen : f.words.length ≤ 11) : (latchAt inp n).rx.isOpen = true := by
  induction n generalizing f with
  | zero => cases h
  | succ n ih =>
      rw [latchAt_succ]
      cases hst : (portsAt inp n).cmdStart with
      | true =>
          obtain ⟨-, hf⟩ := start_frame hst
          obtain rfl := Option.some.inj (h.symm.trans hf)
          rw [Latch.next, Latch.receive, if_pos hst, Latch.rx_receiveStart, if_pos hc]
      | false =>
          cases hd : (portsAt inp n).cmdData with
          | true =>
              obtain ⟨g, hg, hid, hw, hf⟩ := data_frame hd
              obtain rfl := Option.some.inj (h.symm.trans hf)
              rw [List.length_append, List.length_singleton] at hlen
              have ho := ih hg hc (by omega)
              obtain ⟨-, hl⟩ := receiver_follows inp n ho g hg
              have hwe := hw.trans hl.expected.symm
              have hlt : (portsAt inp n).wordIndex < 11#4 := by
                rw [hw, BitVec.lt_def, BitVec.toNat_ofNat, Nat.mod_eq_of_lt (by omega)]
                exact hlen
              rw [Latch.next, Latch.receive_data (setData_iff.mpr ⟨hd, hid.trans hc⟩),
                Latch.receiveWord_payload ho hwe hlt]
              exact (hl.receivePayload (by simp) hwe hlt).2.trans ho
          | false =>
              rcases quiet_frame hst hd with e | e
              · rw [e] at h
                cases h
              · have ho := ih (e.symm.trans h) hc hlen
                rw [Latch.next, Latch.receive, if_neg (by simp [hst]), if_neg (by simp [hd])]
                simpa using ho

theorem legacyAt_data (h : legacyAt inp n) : (portsAt inp n).cmdData = true := by
  have h : (bridgeRun inp n).legacyWrite (inp.input n) = true := h
  simp only [Bridge.legacyWrite, Bool.and_eq_true] at h
  exact h.1.1

theorem not_applyAt_of_idle (h : (latchAt inp n).pending = false) : ¬ applyAt inp n := by
  intro ha
  rw [(applyAt_iff.mp ha).1] at h
  cases h

theorem commitAt_data (h : commitAt inp n) : (portsAt inp n).setData = true := by
  cases hd : (portsAt inp n).setData with
  | true => rfl
  | false => simp [commitAt, Latch.commits, hd] at h

/-- No legacy write is a word of a SET frame. -/
theorem not_legacyAt_of_setData (h : (portsAt inp n).setData = true) : ¬ legacyAt inp n := by
  intro hl
  rw [((driven_at inp n).legacy hl).2] at h
  cases h

/-- **With nothing pending at its start, nothing moves the post registers inside a SET frame** up to
    its check word. -/
theorem posts_in_set_frame (h : frame inp n = some f) (hc : f.command = MAGIK_UIO_SET_FBUF_LATCH)
    (hlen : f.words.length ≤ 11) (hp : (latchAt inp f.start).pending = false) :
    (latchAt inp n).posts = (latchAt inp f.start).posts := by
  induction n generalizing f with
  | zero => cases h
  | succ n ih =>
      cases hst : (portsAt inp n).cmdStart with
      | true =>
          obtain ⟨-, hf⟩ := start_frame hst
          obtain rfl := Option.some.inj (h.symm.trans hf)
          refine posts_quiet (fun hl => ?_) (not_applyAt_of_idle hp) fun hcm => ?_
          · rw [((driven_at inp n).legacy hl).1] at hst
            cases hst
          · rw [commitAt, Latch.not_commits_of_start _ _ hst] at hcm
            cases hcm
      | false =>
          cases hd : (portsAt inp n).cmdData with
          | true =>
              obtain ⟨g, hg, hid, -, hf⟩ := data_frame hd
              obtain rfl := Option.some.inj (h.symm.trans hf)
              rw [List.length_append, List.length_singleton] at hlen
              have ih := ih hg hc (by omega) hp
              have hidle : (latchAt inp n).pending = false := (congrArg Posts.pending ih).trans hp
              refine (posts_quiet (not_legacyAt_of_setData (setData_iff.mpr ⟨hd, hid.trans hc⟩))
                (not_applyAt_of_idle hidle) fun hcm => ?_).trans ih
              obtain ⟨g', hg', -, hlen', -⟩ := commit_frame hcm
              obtain rfl := Option.some.inj (hg.symm.trans hg')
              omega
          | false =>
              rcases quiet_frame hst hd with e | e
              · rw [e] at h
                cases h
              · have ih := ih (e.symm.trans h) hc hlen hp
                have hidle : (latchAt inp n).pending = false := (congrArg Posts.pending ih).trans hp
                refine (posts_quiet (fun hl => ?_) (not_applyAt_of_idle hidle)
                  fun hcm => ?_).trans ih
                · rw [legacyAt_data hl] at hd
                  cases hd
                · rw [(setData_iff.mp (commitAt_data hcm)).1] at hd
                  cases hd

/-! ## 3. The verdict -/

/-- The words were delivered in order as the data words of one SET command, started at cycle `r`;
    cycle `n` delivers the last one. -/
structure Delivered (inp : Stimulus) (r n : Nat) (words : List Word) : Prop where
  data : (portsAt inp n).cmdData = true
  frame : frame inp (n + 1) =
    some { start := r, command := MAGIK_UIO_SET_FBUF_LATCH, words }

/-- Words strobed behind a SET command are delivered. -/
theorem Strobes.delivered {words : List Word} (h : Strobes inp r (0x57#16 :: words))
    (hr : frame inp r = none) {k : Nat} (hlen : words.length = k + 1) :
    Delivered inp r (r + k + 1) words where
  data := h.cmdData hr (by omega)
  frame := by
    have hf := h.frame_eq hr (Nat.le_refl _)
    rwa [List.take_length, hlen] at hf

/-- At the check word the receiver holds the words in front of it, and judges it. -/
structure Judged (inp : Stimulus) (r n : Nat) (words : List Word) (check : Word) :
    Prop where
  length : words.length = 11
  frame : frame inp n = some { start := r, command := MAGIK_UIO_SET_FBUF_LATCH, words }
  setData : (portsAt inp n).setData = true
  dataIn : (portsAt inp n).dataIn = check
  isOpen : (latchAt inp n).rx.isOpen = true
  loaded : (latchAt inp n).rx.Loaded words
  next : ∃ new, latchAt inp (n + 1) = (latchAt inp n).receiveCheck (portsAt inp n) new

/-- **The check word is judged on exactly the words delivered.** -/
theorem Delivered.judged {words : List Word} {check : Word}
    (h : Delivered inp r n (words ++ [check])) (hlen : words.length = 11) :
    Judged inp r n words check := by
  obtain ⟨⟨start, command, front⟩, hg, hid, hw, hf⟩ := data_frame h.data
  have e := Option.some.inj (hf.symm.trans h.frame)
  simp only [Frame.mk.injEq] at e
  obtain ⟨rfl, rfl, e⟩ := e
  obtain ⟨rfl, hcheck⟩ := List.append_inj' e rfl
  have ho := receiver_open hg rfl (Nat.le_of_eq hlen)
  obtain ⟨-, hl⟩ := receiver_follows inp n ho _ hg
  have hset : (portsAt inp n).setData = true := setData_iff.mpr ⟨h.data, hid⟩
  have h11 : (portsAt inp n).wordIndex = 11#4 := by
    rw [hw]
    dsimp only
    rw [hlen]
  have hnext : latchAt inp (n + 1) = _ :=
    (latchAt_succ inp n).trans ((Latch.receive_data hset).trans
      (Latch.receiveWord_check ho (hw.trans hl.expected.symm) h11))
  exact ⟨hlen, hg, hset, (List.cons.inj hcheck).1, ho, hl, _, hnext⟩

namespace Judged

variable {words : List Word} {check : Word}

theorem mask_full (h : Judged inp r n words check) :
    ((latchAt inp n).rx.mask != 0x7FF#11) = false := by
  rw [h.loaded.mask, h.length]
  rfl

theorem crc_eq (h : Judged inp r n words check) : (latchAt inp n).rx.crc ^^^ MAGIK_CRC_FINAL_XOR =
    messageCrc MAGIK_UIO_SET_FBUF_LATCH words := by
  rw [h.loaded.crc, messageCrc, h.length]

/-- The post registers at the check word are those of the command word. -/
theorem posts_eq (h : Judged inp r n words check) (hp : (latchAt inp r).pending = false) :
    (latchAt inp n).posts = (latchAt inp r).posts :=
  posts_in_set_frame h.frame rfl (Nat.le_of_eq h.length) hp

theorem idle (h : Judged inp r n words check) (hp : (latchAt inp r).pending = false) :
    (latchAt inp n).pending = false :=
  (congrArg Posts.pending (h.posts_eq hp)).trans hp

/-- A post that is not accepted leaves the post registers alone. -/
theorem posts_of_not_commit (h : Judged inp r n words check) (hp : (latchAt inp r).pending = false)
    (hc : ¬ commitAt inp n) : (latchAt inp (n + 1)).posts = (latchAt inp r).posts :=
  (posts_quiet (not_legacyAt_of_setData h.setData) (not_applyAt_of_idle (h.idle hp)) hc).trans
    (h.posts_eq hp)

/-- A wrong check word: `BAD_CRC`, whatever is pending. -/
theorem bad_crc (h : Judged inp r n words check)
    (hne : check ≠ messageCrc MAGIK_UIO_SET_FBUF_LATCH words) :
    (latchAt inp (n + 1)).RejectedWith MAGIK_REJECT_BAD_CRC ∧ ¬ commitAt inp n := by
  constructor
  · obtain ⟨new, e⟩ := h.next
    have hcrc :
        ((portsAt inp n).dataIn != (latchAt inp n).rx.crc ^^^ MAGIK_CRC_FINAL_XOR) = true := by
      rw [bne_iff_ne, h.dataIn, h.crc_eq]
      exact hne
    rw [e, Latch.receiveCheck, h.mask_full, if_neg Bool.false_ne_true, if_pos hcrc]
    exact Latch.rejectedWith_rejectWord _ _ _ _
  · intro hc
    obtain ⟨g, hg, -, -, -, hcrc, -⟩ := commit_frame hc
    obtain rfl := Option.some.inj (h.frame.symm.trans hg)
    exact hne (h.dataIn.symm.trans hcrc)

/-- The right check word behind a payload that breaks a rule: the first such rule. -/
theorem bad_payload (h : Judged inp r n words check) (hp : (latchAt inp r).pending = false)
    (hcrc : check = messageCrc MAGIK_UIO_SET_FBUF_LATCH words) (hv : ¬ Payload.Valid words) :
    (latchAt inp (n + 1)).RejectedWith (Payload.postReject words) ∧ ¬ commitAt inp n := by
  have hsem := semanticReject_eq h.loaded h.length
  have hne : Payload.postReject words ≠ MAGIK_REJECT_NONE :=
    mt (Payload.postReject_eq_none_iff words).mp hv
  constructor
  · obtain ⟨new, e⟩ := h.next
    have hok :
        ((portsAt inp n).dataIn != (latchAt inp n).rx.crc ^^^ MAGIK_CRC_FINAL_XOR) = false := by
      rw [bne_eq_false_iff_eq, h.dataIn, h.crc_eq, hcrc]
    rw [e, Latch.receiveCheck, h.mask_full, if_neg Bool.false_ne_true, hok,
      if_neg Bool.false_ne_true, h.idle hp, if_neg Bool.false_ne_true, hsem,
      if_pos (bne_iff_ne.mpr hne)]
    exact Latch.rejectedWith_rejectWord _ _ _ _
  · intro hc
    obtain ⟨-, -, -, -, -, -, -, hnone, -⟩ := commit_frame hc
    exact hne (hsem.symm.trans hnone)

/-- The right check word behind a valid payload: the post is accepted. -/
theorem accepted (h : Judged inp r n words check) (hp : (latchAt inp r).pending = false)
    (hcrc : check = messageCrc MAGIK_UIO_SET_FBUF_LATCH words) (hv : Payload.Valid words) :
    commitAt inp n := by
  have hsem : (latchAt inp n).rx.semanticReject = MAGIK_REJECT_NONE :=
    (semanticReject_eq h.loaded h.length).trans ((Payload.postReject_eq_none_iff words).mpr hv)
  have hmask : ((latchAt inp n).rx.mask == 0x7FF#11) = true := by
    have hm := h.mask_full
    rwa [bne_eq_false_iff_eq, ← beq_iff_eq] at hm
  obtain ⟨hd, -⟩ := setData_iff.mp h.setData
  obtain ⟨g, hg, -, hw, -⟩ := data_frame hd
  obtain rfl := Option.some.inj (h.frame.symm.trans hg)
  have hwe : (portsAt inp n).wordIndex = (latchAt inp n).rx.expected :=
    hw.trans h.loaded.expected.symm
  have h11 : ((portsAt inp n).wordIndex < 11#4) = False := by
    rw [hw]
    dsimp only
    rw [h.length]
    exact eq_false (BitVec.lt_irrefl _)
  unfold commitAt Latch.commits
  rw [h.setData, h.isOpen, beq_iff_eq.mpr hwe, hmask, h.dataIn, h.crc_eq, hcrc, h.idle hp, hsem]
  simp [h11]

end Judged

end MisterMagik.Fpga
