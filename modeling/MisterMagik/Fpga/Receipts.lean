/-
  File:      MisterMagik/Fpga/Receipts.lean
  Subject:   What a receipt says about the last SET command, over any run.

  After its command word the last attempt is open, accepted, overrun or refused (`Phase`), and one
  edge moves it along. Overrun: a data word came after the accepted check word, in the same frame.
  The receiver then takes back the receipt, not the post.

  * `Phase.step` -- one edge, one case for each thing the receiver can do;
  * `ReadOut.accepted_iff` -- a receipt reports an acceptance exactly if the SET was committed and
    not overrun;
  * `truthful_iff` -- a receipt is truthful exactly if its SET was not overrun.
-/
import MisterMagik.Fpga.Responses
import MisterMagik.Fpga.Delivery

namespace MisterMagik.Fpga

open MisterMagik.Base.Clocked (eq_of_unchanged)

variable {inp : Stimulus} {k m n r : Nat}

/-! ## 1. SET commands and their frames -/

/-- A SET command starts at cycle `n`. -/
def setStartAt (inp : Stimulus) (n : Nat) : Prop :=
  (portsAt inp n).cmdStart = true ∧ (portsAt inp n).cmdId = MAGIK_UIO_SET_FBUF_LATCH

instance (inp : Stimulus) (n : Nat) : Decidable (setStartAt inp n) :=
  inferInstanceAs (Decidable (_ ∧ _))

/-- A data word of a SET command comes at cycle `n`. -/
def setDataAt (inp : Stimulus) (n : Nat) : Prop := (portsAt inp n).setData = true

instance (inp : Stimulus) (n : Nat) : Decidable (setDataAt inp n) :=
  inferInstanceAs (Decidable (_ = true))

/-- The SET command started at cycle `k` is the last one before cycle `r`. -/
structure LastSet (inp : Stimulus) (k r : Nat) : Prop where
  before : k < r
  start : setStartAt inp k
  last : ∀ j, j < r → k < j → ¬ setStartAt inp j

/-- The SET command started at cycle `k` is accepted at cycle `m`. -/
def CommitOf (inp : Stimulus) (k m : Nat) : Prop :=
  commitAt inp m ∧ ∃ f, frame inp m = some f ∧ f.start = k

theorem setDataAt_of_commitAt (h : commitAt inp m) : setDataAt inp m := commitAt_data h

/-- A data word of a SET command goes back to its command word, and nothing started since. -/
theorem setDataAt_origin (h : setDataAt inp n) :
    ∃ f, frame inp n = some f ∧ f.start < n ∧ setStartAt inp f.start ∧
      ∀ j, f.start < j → j ≤ n → (portsAt inp j).cmdStart = false := by
  obtain ⟨hd, hid⟩ := setData_iff.mp h
  obtain ⟨f, hf, hcmd, -, -⟩ := data_frame hd
  obtain ⟨hlt, hs, hid', -⟩ := frame_origin hf
  exact ⟨f, hf, hlt, ⟨hs, hid'.trans (hcmd.symm.trans hid)⟩, fun j h1 h2 =>
    not_start_of_frame hf h1 h2⟩

/-- A data word of a SET command belongs to the last one started. -/
theorem LastSet.frame_start (h : LastSet inp k n) (hd : setDataAt inp n) :
    ∃ f, frame inp n = some f ∧ f.start = k := by
  obtain ⟨f, hf, hlt, hs, hno⟩ := setDataAt_origin hd
  refine ⟨f, hf, ?_⟩
  rcases Nat.lt_trichotomy f.start k with hk | e | hk
  · have := hno k hk (Nat.le_of_lt h.before)
    rw [h.start.1] at this
    cases this
  · exact e
  · exact absurd hs (h.last _ hlt hk)

theorem LastSet.mono (h : LastSet inp k r) (hk : k < n) (hn : n ≤ r) : LastSet inp k n :=
  ⟨hk, h.start, fun j h1 => h.last j (Nat.lt_of_lt_of_le h1 hn)⟩

theorem LastSet.unique {k' : Nat} (h : LastSet inp k r) (h' : LastSet inp k' r) : k = k' := by
  rcases Nat.lt_trichotomy k k' with hlt | e | hlt
  · exact absurd h'.start (h.last k' h'.before hlt)
  · exact e
  · exact absurd h.start (h'.last k h.before hlt)

/-- Once another command has started, no data word of a SET comes before the next SET. -/
theorem LastSet.no_data_after_start {j : Nat} (h : LastSet inp k j) (hr : k < r)
    (hs : (portsAt inp r).cmdStart = true) (hj : r ≤ j) : ¬ setDataAt inp j := by
  intro hd
  obtain ⟨f, hf, e⟩ := h.frame_start hd
  have := not_start_of_frame hf (e ▸ hr) hj
  rw [hs] at this
  cases this

/-- What was committed since the last SET started is that SET. -/
theorem LastSet.commitOf (h : LastSet inp k r) (hm : k < m) (hmr : m < r) (hc : commitAt inp m) :
    CommitOf inp k m :=
  ⟨hc, (h.mono hm (Nat.le_of_lt hmr)).frame_start (setDataAt_of_commitAt hc)⟩

/-- A SET is committed after it started, and before any other command starts. -/
theorem CommitOf.between (h : CommitOf inp k m) (hr : k < r)
    (hs : (portsAt inp r).cmdStart = true) : k < m ∧ m < r := by
  obtain ⟨-, f, hf, rfl⟩ := h
  refine ⟨(frame_origin hf).1, Nat.lt_of_not_le fun hle => ?_⟩
  have := not_start_of_frame hf hr hle
  rw [hs] at this
  cases this

/-! ## 2. One edge of the attempt -/

/-- What an edge does to the control registers of the receiver and to the receipt. -/
inductive Moves (s : Latch) (p : LatchPorts) (s' : Latch) : Prop where
  | opened (h : p.cmdStart = true) (hid : p.cmdId = MAGIK_UIO_SET_FBUF_LATCH)
      (ho' : s'.rx.isOpen = true)
  /-- Another command: an open attempt is refused. -/
  | closed (h : p.cmdStart = true) (hid : p.cmdId ≠ MAGIK_UIO_SET_FBUF_LATCH)
      (ho' : s'.rx.isOpen = false) (hf' : s'.rx.faulted = true)
      (hd' : s'.receipt.disposition =
        if s.rx.isOpen then MAGIK_RECEIPT_REJECTED else s.receipt.disposition)
  | idle (h : p.cmdStart = false) (hd : p.setData = false)
      (ho' : s'.rx.isOpen = s.rx.isOpen) (hf' : s'.rx.faulted = s.rx.faulted)
      (hd' : s'.receipt.disposition = s.receipt.disposition)
  | late (hd : p.setData = true) (ho : s.rx.isOpen = false) (hf : s.rx.faulted = true)
      (ho' : s'.rx.isOpen = false) (hf' : s'.rx.faulted = true)
      (hd' : s'.receipt.disposition = s.receipt.disposition)
  | word (hd : p.setData = true) (ho : s.rx.isOpen = true) (hc : s.commits p = false)
      (ho' : s'.rx.isOpen = true)
  /-- A word the receiver cannot take, or one behind an accepted post. -/
  | failed (hd : p.setData = true) (h : s.rx.isOpen = true ∨ s.rx.faulted = false)
      (hc : s.commits p = false) (ho' : s'.rx.isOpen = false) (hf' : s'.rx.faulted = true)
      (hd' : s'.receipt.disposition = MAGIK_RECEIPT_REJECTED)
  | committed (hc : s.commits p = true) (ho' : s'.rx.isOpen = false) (hf' : s'.rx.faulted = false)
      (hd' : s'.receipt.disposition = MAGIK_RECEIPT_ACCEPTED)

theorem isOpen_receivePayload (s : Latch) (p : LatchPorts) (new : Latch) :
    (s.receivePayload p new).rx.isOpen = new.rx.isOpen :=
  (Receiver.storeWord_keeps _ _ _ _).1

/-- **Everything an edge can do to an attempt.** -/
theorem Latch.moves (s : Latch) (p : LatchPorts) : Moves s p (s.next p) := by
  have hr := s.next_received p
  have hbase : (s.applyOrLegacy p (s.sample p)).rx = s.rx ∧
      (s.applyOrLegacy p (s.sample p)).receipt = s.receipt := by simp
  generalize s.applyOrLegacy p (s.sample p) = new at hr hbase
  generalize s.next p = r at hr
  obtain ⟨hrx, hrec⟩ := hbase
  cases hr with
  | start h =>
      by_cases hid : p.cmdId = MAGIK_UIO_SET_FBUF_LATCH
      · refine .opened h hid ?_
        rw [rx_receiveStart, if_pos hid]
      · refine .closed h hid ?_ ?_ ?_
        · rw [rx_receiveStart, if_neg hid]
        · rw [rx_receiveStart, if_neg hid]
        · rw [receipt_receiveStart, if_neg hid, hrec]
          split <;> rfl
  | idle h hd => exact .idle h hd (by rw [hrx]) (by rw [hrx]) (by rw [hrec])
  | late hd ho hf => exact .late hd ho hf (by rw [hrx, ho]) (by rw [hrx, hf]) (by rw [hrec])
  | postClose hd ho hf => exact .failed hd (.inr hf) (not_commits_of_closed _ _ ho) rfl rfl rfl
  | rejected reason dropCount hd ho hc => exact .failed hd (.inl ho) hc rfl rfl rfl
  | payload hd ho hw hlt =>
      refine .word hd ho (by simp [commits, hlt]) ?_
      rw [isOpen_receivePayload, hrx, ho]
  | commit hc => exact .committed hc rfl rfl rfl

theorem moves_at (inp : Stimulus) (n : Nat) :
    Moves (latchAt inp n) (portsAt inp n) (latchAt inp (n + 1)) := by
  rw [latchAt_succ]
  exact Latch.moves _ _

/-! ## 3. The phases of an attempt -/

/-- A data word came after the accepted check word of the SET started at cycle `k`. -/
def Overrun (inp : Stimulus) (k r : Nat) : Prop :=
  ∃ m j, k < m ∧ m < j ∧ j < r ∧ commitAt inp m ∧ setDataAt inp j

/-- Where the attempt started at cycle `k` is before cycle `n`. -/
inductive Phase (inp : Stimulus) (k n : Nat) : Prop where
  | receiving (ho : (latchAt inp n).rx.isOpen = true)
      (hc : ∀ m, k < m → m < n → ¬ commitAt inp m)
  | accepted (m : Nat) (hkm : k < m) (hmn : m < n) (hc : commitAt inp m)
      (first : ∀ j, k < j → j < m → ¬ commitAt inp j)
      (quiet : ∀ j, m < j → j < n → ¬ setDataAt inp j)
      (ho : (latchAt inp n).rx.isOpen = false)
      (hd : (latchAt inp n).receipt.disposition = MAGIK_RECEIPT_ACCEPTED)
      -- the receiver is faulted only once the frame is over
      (hf : ∀ f, frame inp n = some f → f.command = MAGIK_UIO_SET_FBUF_LATCH →
        (latchAt inp n).rx.faulted = false)
  | overrun (h : Overrun inp k n) (ho : (latchAt inp n).rx.isOpen = false)
      (hf : (latchAt inp n).rx.faulted = true)
      (hd : (latchAt inp n).receipt.disposition = MAGIK_RECEIPT_REJECTED)
  | refused (hc : ∀ m, k < m → m < n → ¬ commitAt inp m)
      (ho : (latchAt inp n).rx.isOpen = false) (hf : (latchAt inp n).rx.faulted = true)
      (hd : (latchAt inp n).receipt.disposition = MAGIK_RECEIPT_REJECTED)

theorem Overrun.mono (h : Overrun inp k n) (hn : n ≤ r) : Overrun inp k r := by
  obtain ⟨m, j, h1, h2, h3, hc, hd⟩ := h
  exact ⟨m, j, h1, h2, Nat.lt_of_lt_of_le h3 hn, hc, hd⟩

theorem forall_lt_succ {P : Nat → Prop} (h : ∀ m, k < m → m < n → P m) (hn : P n) (m : Nat)
    (h1 : k < m) (h2 : m < n + 1) : P m := by
  rcases Nat.lt_succ_iff_lt_or_eq.mp h2 with h2 | rfl
  · exact h m h1 h2
  · exact hn

theorem not_commitAt (h : (latchAt inp n).commits (portsAt inp n) = false) : ¬ commitAt inp n :=
  fun hc => Bool.false_ne_true (h.symm.trans hc)

theorem not_commitAt_of_no_data (h : ¬ setDataAt inp n) : ¬ commitAt inp n :=
  fun hc => h (setDataAt_of_commitAt hc)

theorem not_setDataAt (h : (portsAt inp n).setData = false) : ¬ setDataAt inp n :=
  fun hd => Bool.false_ne_true (h.symm.trans hd)

theorem not_setDataAt_of_start (h : (portsAt inp n).cmdStart = true) : ¬ setDataAt inp n :=
  not_setDataAt (by simp [LatchPorts.setData, h])

/-- A SET command opens its attempt. -/
theorem Phase.start (h : setStartAt inp k) : Phase inp k (k + 1) := by
  cases moves_at inp k with
  | opened _ _ ho' => exact .receiving ho' fun m h1 h2 => by omega
  | closed _ hid => exact absurd h.2 hid
  | idle hs =>
      rw [h.1] at hs
      cases hs
  | late hd | word hd | failed hd => exact absurd hd (not_setDataAt_of_start h.1)
  | committed hc => exact absurd hc (not_commitAt_of_no_data (not_setDataAt_of_start h.1))

/-- The frame of a SET goes on over an edge without a data word of it. -/
theorem frame_of_idle {f : Frame} (hs : (portsAt inp n).cmdStart = false) (hd : ¬ setDataAt inp n)
    (h : frame inp (n + 1) = some f) (hc : f.command = MAGIK_UIO_SET_FBUF_LATCH) :
    frame inp n = some f := by
  cases hdata : (portsAt inp n).cmdData with
  | false =>
      rcases quiet_frame hs hdata with e | e
      · rw [e] at h
        cases h
      · rwa [e] at h
  | true =>
      obtain ⟨g, -, hid, -, hf⟩ := data_frame hdata
      obtain rfl := Option.some.inj (h.symm.trans hf)
      exact absurd (setData_iff.mpr ⟨hdata, hid.trans hc⟩) hd

section Step

variable (hn : ¬ setStartAt inp n)

include hn

theorem Phase.receiving_step (hkn : k < n) (ho : (latchAt inp n).rx.isOpen = true)
    (hc : ∀ m, k < m → m < n → ¬ commitAt inp m) : Phase inp k (n + 1) := by
  cases moves_at inp n with
  | opened h hid => exact absurd ⟨h, hid⟩ hn
  | closed h _ ho' hf' hd' =>
      rw [if_pos ho] at hd'
      have hcm := not_commitAt_of_no_data (not_setDataAt_of_start h)
      exact .refused (forall_lt_succ hc hcm) ho' hf' hd'
  | idle _ hd ho' =>
      exact .receiving (ho'.trans ho)
        (forall_lt_succ hc (not_commitAt_of_no_data (not_setDataAt hd)))
  | late _ hclosed =>
      rw [ho] at hclosed
      cases hclosed
  | word _ _ hcm ho' => exact .receiving ho' (forall_lt_succ hc (not_commitAt hcm))
  | failed _ _ hcm ho' hf' hd' =>
      exact .refused (forall_lt_succ hc (not_commitAt hcm)) ho' hf' hd'
  | committed hcm ho' hf' hd' =>
      exact .accepted n hkn (Nat.lt_succ_self n) hcm hc (fun j h1 h2 => by omega) ho' hd'
        fun _ _ _ => hf'

theorem Phase.accepted_step (hkm : k < m) (hmn : m < n) (hc : commitAt inp m)
    (first : ∀ j, k < j → j < m → ¬ commitAt inp j)
    (quiet : ∀ j, m < j → j < n → ¬ setDataAt inp j) (ho : (latchAt inp n).rx.isOpen = false)
    (hd : (latchAt inp n).receipt.disposition = MAGIK_RECEIPT_ACCEPTED)
    (hf : ∀ f, frame inp n = some f → f.command = MAGIK_UIO_SET_FBUF_LATCH →
      (latchAt inp n).rx.faulted = false) : Phase inp k (n + 1) := by
  have hmn' : m < n + 1 := Nat.lt_succ_of_lt hmn
  cases moves_at inp n with
  | opened h hid => exact absurd ⟨h, hid⟩ hn
  | closed h hid ho' hf' hd' =>
      rw [ho, if_neg Bool.false_ne_true, hd] at hd'
      refine .accepted m hkm hmn' hc first (forall_lt_succ quiet (not_setDataAt_of_start h)) ho' hd'
        fun f hf hcmd => ?_
      obtain ⟨-, hf'⟩ := start_frame h
      obtain rfl := Option.some.inj (hf.symm.trans hf')
      exact absurd hcmd hid
  | idle h hdata ho' hf' hd' =>
      exact .accepted m hkm hmn' hc first (forall_lt_succ quiet (not_setDataAt hdata))
        (ho'.trans ho) (hd'.trans hd) fun f hfr hcmd =>
          hf'.trans (hf f (frame_of_idle h (not_setDataAt hdata) hfr hcmd) hcmd)
  | late hdata _ hfaulted =>
      obtain ⟨hcd, hid⟩ := setData_iff.mp hdata
      obtain ⟨f, hfr, hcmd, -, -⟩ := data_frame hcd
      rw [hf f hfr (hcmd.symm.trans hid)] at hfaulted
      cases hfaulted
  | word _ hopen =>
      rw [ho] at hopen
      cases hopen
  | failed hdata _ _ ho' hf' hd' =>
      exact .overrun ⟨m, n, hkm, hmn, Nat.lt_succ_self n, hc, hdata⟩ ho' hf' hd'
  | committed hcm => exact absurd hcm (not_commitAt (Latch.not_commits_of_closed _ _ ho))

/-- A refused attempt and an overrun one stay as they are. -/
theorem stays_rejected (ho : (latchAt inp n).rx.isOpen = false)
    (hf : (latchAt inp n).rx.faulted = true)
    (hd : (latchAt inp n).receipt.disposition = MAGIK_RECEIPT_REJECTED) :
    ¬ commitAt inp n ∧ (latchAt inp (n + 1)).rx.isOpen = false ∧
      (latchAt inp (n + 1)).rx.faulted = true ∧
      (latchAt inp (n + 1)).receipt.disposition = MAGIK_RECEIPT_REJECTED := by
  have hcm : ¬ commitAt inp n := not_commitAt (Latch.not_commits_of_closed _ _ ho)
  cases moves_at inp n with
  | opened h hid => exact absurd ⟨h, hid⟩ hn
  | closed _ _ ho' hf' hd' =>
      rw [ho, if_neg Bool.false_ne_true] at hd'
      exact ⟨hcm, ho', hf', hd'.trans hd⟩
  | idle _ _ ho' hf' hd' => exact ⟨hcm, ho'.trans ho, hf'.trans hf, hd'.trans hd⟩
  | late _ _ _ ho' hf' hd' => exact ⟨hcm, ho', hf', hd'.trans hd⟩
  | word _ hopen =>
      rw [ho] at hopen
      cases hopen
  | failed _ _ _ ho' hf' hd' => exact ⟨hcm, ho', hf', hd'⟩
  | committed h => exact absurd h hcm

/-- **One edge moves the attempt along**, as long as no other SET starts. -/
theorem Phase.step (hkn : k < n) (h : Phase inp k n) : Phase inp k (n + 1) := by
  cases h with
  | receiving ho hc => exact Phase.receiving_step hn hkn ho hc
  | accepted m hkm hmn hc first quiet ho hd hf =>
      exact Phase.accepted_step hn hkm hmn hc first quiet ho hd hf
  | overrun h ho hf hd =>
      obtain ⟨-, ho', hf', hd'⟩ := stays_rejected hn ho hf hd
      exact .overrun (h.mono (Nat.le_succ n)) ho' hf' hd'
  | refused hc ho hf hd =>
      obtain ⟨hcm, ho', hf', hd'⟩ := stays_rejected hn ho hf hd
      exact .refused (forall_lt_succ hc hcm) ho' hf' hd'

end Step

/-- **The attempt of the last SET is in one of the phases.** -/
theorem LastSet.phase (h : LastSet inp k r) : Phase inp k r := by
  suffices ∀ n, k < n → n ≤ r → Phase inp k n from this r h.before (Nat.le_refl r)
  intro n hkn
  induction hkn with
  | refl => exact fun _ => Phase.start h.start
  | step hkn ih => exact fun hn => (ih (Nat.le_of_lt hn)).step (h.last _ hn hkn) hkn

/-! ## 4. What a receipt reports -/

/-- The SET commands started before cycle `n`. -/
def attempts (inp : Stimulus) : Nat → Nat
  | 0 => 0
  | n + 1 => if setStartAt inp n then attempts inp n + 1 else attempts inp n

/-- The transaction registers of the receiver after an edge. -/
theorem transaction_next (s : Latch) (p : LatchPorts) :
    (s.next p).attemptedTransaction =
        (if p.cmdStart = true ∧ p.cmdId = MAGIK_UIO_SET_FBUF_LATCH then s.attemptedTransaction + 1
        else s.attemptedTransaction) ∧
      (s.receipt.attemptedTransaction = s.attemptedTransaction →
        (s.next p).receipt.attemptedTransaction = (s.next p).attemptedTransaction) := by
  have hr := s.next_received p
  have hbase : (s.applyOrLegacy p (s.sample p)).attemptedTransaction = s.attemptedTransaction ∧
      (s.applyOrLegacy p (s.sample p)).receipt = s.receipt := by simp
  generalize s.applyOrLegacy p (s.sample p) = new at hr hbase
  generalize s.next p = r at hr
  obtain ⟨hatt, hrec⟩ := hbase
  have hquiet : p.cmdStart = false → ¬ (p.cmdStart = true ∧ p.cmdId = MAGIK_UIO_SET_FBUF_LATCH) :=
    fun h hs => Bool.false_ne_true (h.symm.trans hs.1)
  have hdata : p.setData = true → p.cmdStart = false := fun h => by
    simp only [LatchPorts.setData, Bool.and_eq_true, Bool.not_eq_true'] at h
    exact h.1.1
  cases hr with
  | start h =>
      by_cases hid : p.cmdId = MAGIK_UIO_SET_FBUF_LATCH
      · rw [if_pos ⟨h, hid⟩, Latch.receipt_receiveStart, if_pos hid,
          Latch.attemptedTransaction_receiveStart, if_pos hid]
        exact ⟨rfl, fun _ => rfl⟩
      · rw [if_neg fun hs => hid hs.2, Latch.receipt_receiveStart, if_neg hid,
          Latch.attemptedTransaction_receiveStart, if_neg hid]
        refine ⟨hatt, fun e => ?_⟩
        split
        · exact hatt.symm
        · rw [hrec, e, hatt]
  | idle h => exact ⟨hatt.trans (if_neg (hquiet h)).symm, fun e => by rw [hrec, e, hatt]⟩
  | late hd | postClose hd | rejected _ _ hd =>
      exact ⟨hatt.trans (if_neg (hquiet (hdata hd))).symm, fun e =>
        (congrArg Receipt.attemptedTransaction hrec).trans (e.trans hatt.symm)⟩
  | payload hd =>
      refine ⟨hatt.trans (if_neg (hquiet (hdata hd))).symm, fun e => ?_⟩
      unfold Latch.receivePayload
      dsimp only
      split
      · exact (congrArg Receipt.attemptedTransaction hrec).trans (e.trans hatt.symm)
      · exact (congrArg Receipt.attemptedTransaction hrec).trans (e.trans hatt.symm)
  | commit hc =>
      have hd : p.setData = true := by
        simp only [Latch.commits, Bool.and_eq_true] at hc
        simp [hc]
      exact ⟨hatt.trans (if_neg (hquiet (hdata hd))).symm, fun e =>
        (congrArg Receipt.attemptedTransaction hrec).trans (e.trans hatt.symm)⟩

/-- **The attempted transaction counts the SET commands**, also in the receipt. -/
theorem attemptedTransaction_eq (input : Nat → BridgePorts) (n : Nat) :
    let inp := Stimulus.ofReset input
    (latchAt inp n).attemptedTransaction = BitVec.ofNat 16 (attempts inp n) ∧
      (latchAt inp n).receipt.attemptedTransaction = BitVec.ofNat 16 (attempts inp n) := by
  intro inp
  suffices (latchAt inp n).attemptedTransaction = BitVec.ofNat 16 (attempts inp n) ∧
      (latchAt inp n).receipt.attemptedTransaction = (latchAt inp n).attemptedTransaction from
    ⟨this.1, this.2.trans this.1⟩
  induction n with
  | zero => exact ⟨rfl, rfl⟩
  | succ n ih =>
      obtain ⟨h1, h2⟩ := transaction_next (latchAt inp n) (portsAt inp n)
      rw [latchAt_succ]
      refine ⟨h1.trans ?_, h2 ih.2⟩
      rw [attempts, ih.1]
      by_cases h : setStartAt inp n
      · rw [if_pos h, BitVec.ofNat_add]
        exact if_pos h
      · rw [if_neg h]
        exact if_neg h

theorem LastSet.attempts_eq (h : LastSet inp k r) (hkm : k < m) (hmr : m ≤ r) :
    attempts inp r = attempts inp m :=
  eq_of_unchanged hmr fun j h1 h2 =>
    if_neg (h.last j h2 (Nat.lt_of_lt_of_le hkm h1))

/-- A word of the receipt that was read out before cycle `n`. -/
def reported (inp : Stimulus) (n i : Nat) : Word := (replies inp n).getD i 0#16

/-- The words of the receipt message. -/
def ATTEMPTED_TRANSACTION : Nat := 0
def DISPOSITION : Nat := 2
def ACCEPTED_TRANSACTION : Nat := 3

theorem ReadOut.reported_eq {i : Nat} (h : ReadOut inp .receipt r n) (hi : i < 10) :
    reported inp n i = (latchAt inp r).receiptSnapshot.getD i 0#16 := by
  have hlen : (messageAt inp .receipt r).length = 10 := length_messageAt inp .receipt r
  rw [reported, h.replies, List.getD_eq_getElem?_getD, List.getElem?_append_left (by omega),
    ← List.getD_eq_getElem?_getD]
  rfl

/-- **A receipt reports a terminal disposition**, and an acceptance exactly if the last SET was
    committed and not overrun. -/
theorem ReadOut.disposition (h : ReadOut inp .receipt r n) (hk : LastSet inp k r) :
    (reported inp n DISPOSITION = MAGIK_RECEIPT_ACCEPTED ∧
      (∃ m, k < m ∧ m < r ∧ commitAt inp m) ∧ ¬ Overrun inp k r) ∨
    (reported inp n DISPOSITION = MAGIK_RECEIPT_REJECTED ∧
      ((∀ m, k < m → m < r → ¬ commitAt inp m) ∨ Overrun inp k r)) := by
  have e : reported inp n DISPOSITION = if (latchAt inp r).rx.isOpen then MAGIK_RECEIPT_REJECTED
      else (latchAt inp r).receipt.disposition := h.reported_eq (by decide)
  cases hk.phase with
  | receiving ho hc => exact .inr ⟨e.trans (if_pos ho), .inl hc⟩
  | accepted m hkm hmr hc first quiet ho hd =>
      rw [ho, if_neg Bool.false_ne_true, hd] at e
      refine .inl ⟨e, ⟨m, hkm, hmr, hc⟩, fun ⟨m', j, h1, h2, h3, hc', hdata⟩ => ?_⟩
      have hm : m ≤ m' := Nat.le_of_not_lt fun hlt => first m' h1 hlt hc'
      exact quiet j (Nat.lt_of_le_of_lt hm h2) h3 hdata
  | overrun hov ho hf hd =>
      rw [ho, if_neg Bool.false_ne_true, hd] at e
      exact .inr ⟨e, .inr hov⟩
  | refused hc ho hf hd =>
      rw [ho, if_neg Bool.false_ne_true, hd] at e
      exact .inr ⟨e, .inl hc⟩

theorem ReadOut.accepted_iff (h : ReadOut inp .receipt r n) (hk : LastSet inp k r) :
    reported inp n DISPOSITION = MAGIK_RECEIPT_ACCEPTED ↔
      (∃ m, k < m ∧ m < r ∧ commitAt inp m) ∧ ¬ Overrun inp k r := by
  rcases h.disposition hk with ⟨e, hc, hov⟩ | ⟨e, hno⟩
  · exact ⟨fun _ => ⟨hc, hov⟩, fun _ => e⟩
  · rw [e]
    refine ⟨fun hne => absurd hne (by decide), fun ⟨⟨m, h1, h2, hc⟩, hov⟩ => ?_⟩
    rcases hno with hno | hno
    · exact absurd hc (hno m h1 h2)
    · exact absurd hno hov

/-- **A receipt read again before the next SET says the same.** -/
theorem ReadOut.stable {r' n' : Nat} (h : ReadOut inp .receipt r n) (hk : LastSet inp k r)
    (h' : ReadOut inp .receipt r' n') (hk' : LastSet inp k r') (hr : r ≤ r') :
    reported inp n' DISPOSITION = reported inp n DISPOSITION := by
  have hquiet : ∀ j, r ≤ j → j < r' → ¬ setDataAt inp j := fun j h1 h2 =>
    (hk'.mono (Nat.lt_of_lt_of_le hk.before h1) (Nat.le_of_lt h2)).no_data_after_start hk.before
      h.start.1 h1
  have hdata : ∀ j, j < r' → setDataAt inp j → j < r := fun j h1 hd =>
    Nat.lt_of_not_le fun hle => hquiet j hle h1 hd
  have hcommit : (∃ m, k < m ∧ m < r' ∧ commitAt inp m) ↔ ∃ m, k < m ∧ m < r ∧ commitAt inp m :=
    ⟨fun ⟨m, h1, h2, hc⟩ => ⟨m, h1, hdata m h2 (setDataAt_of_commitAt hc), hc⟩,
      fun ⟨m, h1, h2, hc⟩ => ⟨m, h1, Nat.lt_of_lt_of_le h2 hr, hc⟩⟩
  have hover : Overrun inp k r' ↔ Overrun inp k r :=
    ⟨fun ⟨m, j, h1, h2, h3, hc, hd⟩ => ⟨m, j, h1, h2, hdata j h3 hd, hc, hd⟩, fun h => h.mono hr⟩
  have hiff := h'.accepted_iff hk'
  rw [hcommit, hover, ← h.accepted_iff hk] at hiff
  rcases h.disposition hk with ⟨e, -⟩ | ⟨e, -⟩
  · rw [e, hiff.mpr e]
  · rcases h'.disposition hk' with ⟨e', -⟩ | ⟨e', -⟩
    · rw [hiff.mp e'] at e
      exact absurd e (by decide)
    · rw [e, e']

/-! ## 5. Truthful receipts -/

/-- What the host takes from a receipt about the last SET, which started at cycle `k`. -/
structure Truthful (inp : Stimulus) (k r n : Nat) : Prop where
  attempted : reported inp n ATTEMPTED_TRANSACTION = BitVec.ofNat 16 (attempts inp r)
  accepted : reported inp n DISPOSITION = MAGIK_RECEIPT_ACCEPTED →
    ∃ m, CommitOf inp k m ∧ m < r ∧ ((∀ j, m < j → j < r → ¬ legacyAt inp j) →
      reported inp n ACCEPTED_TRANSACTION = reported inp n ATTEMPTED_TRANSACTION)
  rejected : reported inp n DISPOSITION = MAGIK_RECEIPT_REJECTED →
    (∀ m, ¬ CommitOf inp k m) ∧ ∀ m j, Applies inp m j → ¬ CommitOf inp k m
  terminal : reported inp n DISPOSITION ≠ MAGIK_RECEIPT_NONE
  stable : ∀ r' n', ReadOut inp .receipt r' n' → LastSet inp k r' → r ≤ r' →
    reported inp n' DISPOSITION = reported inp n DISPOSITION

/-- Without a legacy write since its commit, a SET is the accepted one. -/
theorem acceptedTransaction_eq {input : Nat → BridgePorts} (hk : LastSet (.ofReset input) k r)
    (hkm : k < m) (hmr : m < r) (hc : commitAt (.ofReset input) m)
    (hlast : ∀ j, m < j → j < r → ¬ commitAt (.ofReset input) j)
    (hl : ∀ j, m < j → j < r → ¬ legacyAt (.ofReset input) j) :
    (latchAt (.ofReset input) r).acceptedTransaction =
      BitVec.ofNat 16 (attempts (.ofReset input) r) := by
  have hstay : (latchAt (.ofReset input) r).posts.acceptedTransaction =
      (latchAt (.ofReset input) (m + 1)).posts.acceptedTransaction := by
    refine eq_of_unchanged (v := fun n => (latchAt (.ofReset input) n).posts.acceptedTransaction)
      hmr fun j h1 h2 => ?_
    rw [posts_succ, if_neg (hl j h1 h2), if_neg (hlast j h1 h2)]
    split <;> rfl
  rw [posts_commit hc] at hstay
  refine hstay.trans ((attemptedTransaction_eq input m).1.trans ?_)
  rw [hk.attempts_eq hkm (Nat.le_of_lt hmr)]

/-- **A receipt is truthful exactly if its SET was not overrun**: no data word came behind the
    accepted check word in the frame. -/
theorem truthful_iff (input : Nat → BridgePorts) (k r n : Nat)
    (h : ReadOut (.ofReset input) .receipt r n) (hk : LastSet (.ofReset input) k r) :
    Truthful (.ofReset input) k r n ↔ ¬ Overrun (.ofReset input) k r := by
  have hattempted : reported (.ofReset input) n ATTEMPTED_TRANSACTION =
      BitVec.ofNat 16 (attempts (.ofReset input) r) := by
    obtain ⟨h1, h2⟩ := attemptedTransaction_eq input r
    refine (h.reported_eq (by decide)).trans ?_
    show (if (latchAt _ r).rx.isOpen then _ else _) = _
    rw [h1, h2, ite_self]
  constructor
  · rintro ht ⟨m, j, h1, h2, h3, hc, hd⟩
    have hrejected : reported (.ofReset input) n DISPOSITION = MAGIK_RECEIPT_REJECTED := by
      rcases h.disposition hk with ⟨-, -, hov⟩ | ⟨e, -⟩
      · exact absurd ⟨m, j, h1, h2, h3, hc, hd⟩ hov
      · exact e
    exact (ht.rejected hrejected).1 m (hk.commitOf h1 (Nat.lt_trans h2 h3) hc)
  · intro hov
    refine ⟨hattempted, fun e => ?_, fun e => ?_, fun e => ?_, fun r' n' h' hk' hr =>
      h.stable hk h' hk' hr⟩
    · obtain ⟨⟨m, h1, h2, hc⟩, -⟩ := (h.accepted_iff hk).mp e
      refine ⟨m, hk.commitOf h1 h2 hc, h2, fun hl => ?_⟩
      rw [hattempted]
      refine (h.reported_eq (by decide)).trans (acceptedTransaction_eq hk h1 h2 hc ?_ hl)
      exact fun j h3 h4 hj => hov ⟨m, j, h1, h3, h4, hc, setDataAt_of_commitAt hj⟩
    · have hno : ∀ m, ¬ CommitOf (.ofReset input) k m := fun m hm => by
        obtain ⟨h1, h2⟩ := hm.between hk.before h.start.1
        rw [(h.accepted_iff hk).mpr ⟨⟨m, h1, h2, hm.1⟩, hov⟩] at e
        exact absurd e (by decide)
      exact ⟨hno, fun m _ _ => hno m⟩
    · rcases h.disposition hk with ⟨e', -⟩ | ⟨e', -⟩ <;> rw [e'] at e <;> exact absurd e (by decide)

/-- The example post, then its receipt. -/
def receiptRun : Nat → BridgePorts :=
  scripted ((0x57#16 :: goldenSet).map some ++ [none, some 0x5B#16] ++
    List.replicate 11 (some 0#16)) 40

theorem truthful_iff_golden : Truthful (.ofReset receiptRun) 0 14 26 := by
  refine (truthful_iff receiptRun 0 14 26 ⟨List.replicate 11 0#16, by decide +kernel, rfl⟩
    ⟨by decide, by decide +kernel, by decide +kernel⟩).mpr ?_
  have hcommit : ∀ m, m < 12 → ¬ commitAt (.ofReset receiptRun) m := by decide +kernel
  have hdata : ¬ setDataAt (.ofReset receiptRun) 13 := by decide +kernel
  rintro ⟨m, j, -, h2, h3, hc, hd⟩
  have h12 : 12 ≤ m := Nat.le_of_not_lt fun hlt => hcommit m hlt hc
  obtain rfl : j = 13 := by omega
  exact hdata hd

/-- The same post with one more data word in its frame. -/
def overrunRun : Nat → BridgePorts :=
  scripted ((0x57#16 :: goldenSet ++ [0#16]).map some ++ [none, some 0x5B#16] ++
    List.replicate 11 (some 0#16)) 40

/-- Its receipt says rejected; the post was committed, and it is applied at the next blank. -/
theorem overrun_receipt_lies :
    ReadOut (.ofReset overrunRun) .receipt 15 27 ∧ LastSet (.ofReset overrunRun) 0 15 ∧
      reported (.ofReset overrunRun) 27 DISPOSITION = MAGIK_RECEIPT_REJECTED ∧
      CommitOf (.ofReset overrunRun) 0 12 ∧ Applies (.ofReset overrunRun) 12 42 ∧
      ¬ Truthful (.ofReset overrunRun) 0 15 27 := by
  have hcommit : CommitOf (.ofReset overrunRun) 0 12 := by
    refine ⟨by decide +kernel, ⟨0, 0x57#8, goldenSet.take 11⟩, by decide +kernel, rfl⟩
  have hrejected : reported (.ofReset overrunRun) 27 DISPOSITION = MAGIK_RECEIPT_REJECTED := by
    decide +kernel
  refine ⟨⟨List.replicate 11 0#16, by decide +kernel, rfl⟩,
    ⟨by decide, by decide +kernel, by decide +kernel⟩, hrejected, hcommit,
    ⟨by decide, by decide +kernel, by decide +kernel, ?_⟩,
    fun h => (h.rejected hrejected).1 12 hcommit⟩
  have hlast : ∀ j, j < 42 → 12 < j → ¬ commitAt (.ofReset overrunRun) j := by decide +kernel
  exact fun j h1 h2 => hlast j h2 h1

end MisterMagik.Fpga
