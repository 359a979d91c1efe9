/-
  File:      MisterMagik/Fpga/Edge.lean
  Subject:   What one clock edge of the latch does, said once.

  The registers that decide what is shown (`Posts`) move by three events only: a commit, an apply
  and a legacy write. The receiver moves as `Received` lists.

  * `receive_spec` -- the cases of the SET receiver, with what each needs;
  * `posts_next` -- the post registers after an edge.
-/
import MisterMagik.Fpga.Latch

namespace MisterMagik.Fpga

/-! ## 1. The cases of the receiver -/

namespace LatchPorts

/-- A data word of a SET command. -/
def setData (p : LatchPorts) : Bool :=
  !p.cmdStart && p.cmdData && p.cmdId == MAGIK_UIO_SET_FBUF_LATCH

end LatchPorts

namespace Latch

variable (old : Latch) (p : LatchPorts)

/-- The edge accepts a post. -/
def commits : Bool :=
  p.setData && old.rx.isOpen && p.wordIndex == old.rx.expected && !(p.wordIndex < 11#4) &&
    old.rx.mask == 0x7FF#11 && p.dataIn == old.rx.crc ^^^ MAGIK_CRC_FINAL_XOR && !old.pending &&
    old.rx.semanticReject == MAGIK_REJECT_NONE

/-- What the receiver makes of an edge, on top of what the edge did before it. -/
inductive Received (new : Latch) : Latch → Prop where
  | start (h : p.cmdStart = true) : Received new (old.receiveStart p new)
  | idle (h : p.cmdStart = false) (hd : p.setData = false) : Received new new
  /-- A word after an attempt that failed. -/
  | late (hd : p.setData = true) (ho : old.rx.isOpen = false) (hf : old.rx.faulted = true) :
      Received new new
  /-- A word after an attempt that succeeded. -/
  | postClose (hd : p.setData = true) (ho : old.rx.isOpen = false) (hf : old.rx.faulted = false) :
      Received new (old.rejectWord p MAGIK_REJECT_POST_CLOSE new)
  | rejected (reason : BitVec 4) (dropCount : Word) (hd : p.setData = true)
      (ho : old.rx.isOpen = true) (hc : old.commits p = false) :
      Received new (old.rejectWord p reason { new with dropCount })
  | payload (hd : p.setData = true) (ho : old.rx.isOpen = true)
      (hw : p.wordIndex = old.rx.expected) (hlt : p.wordIndex < 11#4) :
      Received new (old.receivePayload p new)
  | commit (hc : old.commits p = true) : Received new (old.commit new)

theorem not_commits_of_ne (h : p.wordIndex ≠ old.rx.expected) : old.commits p = false := by
  simp [commits, h]

theorem receiveCheck_spec (new : Latch) (hd : p.setData = true) (ho : old.rx.isOpen = true)
    (hw : p.wordIndex = old.rx.expected) (hge : ¬ p.wordIndex < 11#4) :
    Received old p new (old.receiveCheck p new) := by
  unfold receiveCheck
  split
  · rename_i h
    exact .rejected _ new.dropCount hd ho (by simp_all [commits])
  rename_i hmask
  split
  · rename_i h
    exact .rejected _ new.dropCount hd ho (by simp_all [commits])
  rename_i hcrc
  split
  · rename_i h
    exact .rejected _ _ hd ho (by simp [commits, h])
  rename_i hpend
  split
  · rename_i h
    exact .rejected _ new.dropCount hd ho (by simp_all [commits])
  rename_i hsem
  refine .commit ?_
  simp only [bne_iff_ne, ne_eq, Decidable.not_not, Bool.not_eq_true] at hmask hcrc hpend hsem
  simp [commits, hd, ho, hw ▸ hge, hw, hmask, hcrc, hpend, hsem]

theorem receiveWord_spec (new : Latch) (hd : p.setData = true) :
    Received old p new (old.receiveWord p new) := by
  unfold receiveWord
  split
  · rename_i ho
    have ho : old.rx.isOpen = false := by simpa using ho
    split
    · rename_i hf
      exact .postClose hd ho (by simpa using hf)
    · rename_i hf
      exact .late hd ho (by simpa using hf)
  rename_i ho
  have ho : old.rx.isOpen = true := by simpa using ho
  split
  · rename_i h
    simp only [Bool.and_eq_true, decide_eq_true_eq] at h
    exact .rejected _ new.dropCount hd ho (not_commits_of_ne _ _ (BitVec.ne_of_lt h.1))
  split
  · rename_i h
    exact .rejected _ new.dropCount hd ho (not_commits_of_ne _ _ (BitVec.ne_of_lt h))
  rename_i hlt
  split
  · rename_i h
    simp only [Bool.and_eq_true, beq_iff_eq, bne_iff_ne] at h
    exact .rejected _ new.dropCount hd ho
      (not_commits_of_ne _ _ fun e => h.2 (e.symm.trans h.1))
  split
  · rename_i h
    exact .rejected _ new.dropCount hd ho (not_commits_of_ne _ _ (BitVec.ne_of_lt h).symm)
  rename_i hgt
  have hw : p.wordIndex = old.rx.expected :=
    BitVec.le_antisymm (BitVec.not_lt.mp hgt) (BitVec.not_lt.mp hlt)
  split
  · rename_i h11
    exact .payload hd ho hw h11
  · rename_i h11
    exact receiveCheck_spec old p new hd ho hw h11

/-- **Everything the receiver can do at an edge.** -/
theorem receive_spec (new : Latch) : Received old p new (old.receive p new) := by
  unfold receive
  split
  · rename_i h
    exact .start h
  · rename_i h
    have h : p.cmdStart = false := by simpa using h
    split
    · rename_i hd
      exact receiveWord_spec old p new (by simpa [LatchPorts.setData, h] using hd)
    · rename_i hd
      exact .idle h (by simpa [LatchPorts.setData, h] using hd)

end Latch

/-! ## 2. The post registers -/

/-- The registers that say what is pending, accepted and active. -/
structure Posts where
  route : Route
  pending : Bool
  pendingSeq : Word
  pendingTransaction : Word
  acceptedSeq : Word
  acceptedTransaction : Word
  activeSeq : Word
  activeTransaction : Word
  deriving DecidableEq

def Latch.posts (s : Latch) : Posts :=
  { route := s.route
    pending := s.pending
    pendingSeq := s.pendingSeq
    pendingTransaction := s.pendingTransaction
    acceptedSeq := s.acceptedSeq
    acceptedTransaction := s.acceptedTransaction
    activeSeq := s.activeSeq
    activeTransaction := s.activeTransaction }

namespace Posts

/-- A legacy write: nothing is pending, accepted or active any more. The route stays. -/
def legacy (q : Posts) : Posts :=
  { q with
    pending := false, pendingSeq := 0, pendingTransaction := 0
    acceptedSeq := 0, acceptedTransaction := 0, activeSeq := 0, activeTransaction := 0 }

/-- The pending post becomes active. -/
def applied (q : Posts) : Posts :=
  { q with
    pending := false, pendingSeq := 0, pendingTransaction := 0
    activeSeq := q.pendingSeq, activeTransaction := q.pendingTransaction }

/-- A post is accepted. -/
def committed (q : Posts) (route : Route) (seq transaction : Word) : Posts :=
  { q with
    route
    pending := true, pendingSeq := seq, pendingTransaction := transaction
    acceptedSeq := seq, acceptedTransaction := transaction }

end Posts

namespace Latch

variable (old : Latch) (p : LatchPorts)

theorem posts_applyOrLegacy (new : Latch) (h : new.posts = old.posts) :
    (old.applyOrLegacy p new).posts =
      if p.legacyWrite then old.posts.legacy
      else if p.applyAccepted then old.posts.applied else old.posts := by
  have h' := h
  simp only [posts, Posts.mk.injEq] at h'
  unfold applyOrLegacy
  split
  · simp [posts, Posts.legacy, h']
  · split
    · simp [posts, Posts.applied, h']
    · exact h

@[simp] theorem rx_applyOrLegacy (new : Latch) : (old.applyOrLegacy p new).rx = new.rx := by
  unfold applyOrLegacy
  split
  · rfl
  · split <;> rfl

@[simp] theorem receipt_applyOrLegacy (new : Latch) :
    (old.applyOrLegacy p new).receipt = new.receipt := by
  unfold applyOrLegacy
  split
  · rfl
  · split <;> rfl

@[simp] theorem attemptedTransaction_applyOrLegacy (new : Latch) :
    (old.applyOrLegacy p new).attemptedTransaction = new.attemptedTransaction := by
  unfold applyOrLegacy
  split
  · rfl
  · split <;> rfl

@[simp] theorem rx_sample : (old.sample p).rx = old.rx := rfl

@[simp] theorem receipt_sample : (old.sample p).receipt = old.receipt := rfl

@[simp] theorem attemptedTransaction_sample :
    (old.sample p).attemptedTransaction = old.attemptedTransaction := rfl

theorem rx_receiveStart (new : Latch) : (old.receiveStart p new).rx =
    if p.cmdId = MAGIK_UIO_SET_FBUF_LATCH then
      { new.rx with
        isOpen := true, faulted := false, seq := 0, expected := 0, mask := 0
        crc := crcHeader MAGIK_UIO_SET_FBUF_LATCH 11#16, rowSpan := 0, addressWrap := false }
    else { new.rx with isOpen := false, faulted := true } := by
  unfold receiveStart
  split <;> split <;> rfl

theorem attemptedTransaction_receiveStart (new : Latch) :
    (old.receiveStart p new).attemptedTransaction =
      if p.cmdId = MAGIK_UIO_SET_FBUF_LATCH then old.attemptedTransaction + 1
      else new.attemptedTransaction := by
  unfold receiveStart
  split <;> split <;> rfl

theorem receipt_receiveStart (new : Latch) : (old.receiveStart p new).receipt =
    if p.cmdId = MAGIK_UIO_SET_FBUF_LATCH then
      { attemptedTransaction := old.attemptedTransaction + 1, attemptedSequence := 0
        disposition := MAGIK_RECEIPT_NONE, rejectReason := MAGIK_REJECT_NONE }
    else if old.rx.isOpen then
      { attemptedTransaction := old.attemptedTransaction, attemptedSequence := old.rx.seq
        disposition := MAGIK_RECEIPT_REJECTED, rejectReason := MAGIK_REJECT_MISSING_WORD }
    else new.receipt := by
  unfold receiveStart
  by_cases hset : p.cmdId = MAGIK_UIO_SET_FBUF_LATCH
  · simp only [if_pos hset]
  · simp only [if_neg hset]
    split <;> rfl

theorem next_received : Received old p (old.applyOrLegacy p (old.sample p)) (old.next p) :=
  receive_spec old p _

theorem not_commits_of_start (h : p.cmdStart = true) : old.commits p = false := by
  simp [commits, LatchPorts.setData, h]

theorem not_commits_of_closed (h : old.rx.isOpen = false) : old.commits p = false := by
  simp [commits, h]

variable {old p}

theorem Received.commits_eq {new r : Latch} (h : Received old p new r) :
    (old.commits p = true ∧ r = old.commit new) ∨
      (old.commits p = false ∧ r.posts = new.posts) := by
  cases h with
  | start h =>
      refine .inr ⟨not_commits_of_start _ _ h, ?_⟩
      unfold receiveStart
      split <;> split <;> rfl
  | idle _ hd => exact .inr ⟨by simp [commits, hd], rfl⟩
  | late _ ho => exact .inr ⟨not_commits_of_closed _ _ ho, rfl⟩
  | postClose _ ho => exact .inr ⟨not_commits_of_closed _ _ ho, rfl⟩
  | rejected _ _ _ _ hc => exact .inr ⟨hc, rfl⟩
  | payload _ _ _ hlt => exact .inr ⟨by simp [commits, hlt], rfl⟩
  | commit hc => exact .inl ⟨hc, rfl⟩

/-- The receiver leaves the synchroniser, the responder and the telemetry alone. -/
theorem Received.untouched {new r : Latch} (h : Received old p new r) :
    r.vblOld = new.vblOld ∧ r.vblSys = new.vblSys ∧ r.tx = new.tx ∧
      r.telemetry = new.telemetry := by
  cases h with
  | start h =>
      unfold receiveStart
      split <;> split <;> exact ⟨rfl, rfl, rfl, rfl⟩
  | idle | late | postClose | rejected | payload | commit => exact ⟨rfl, rfl, rfl, rfl⟩

variable (old p)

theorem applyOrLegacy_untouched (new : Latch) :
    (old.applyOrLegacy p new).vblOld = new.vblOld ∧ (old.applyOrLegacy p new).vblSys = new.vblSys ∧
      (old.applyOrLegacy p new).tx = new.tx ∧
      (old.applyOrLegacy p new).telemetry = new.telemetry := by
  unfold applyOrLegacy
  split
  · exact ⟨rfl, rfl, rfl, rfl⟩
  · split <;> exact ⟨rfl, rfl, rfl, rfl⟩

theorem next_untouched : (old.next p).vblOld = old.vblSys ∧ (old.next p).vblSys = old.vblMeta ∧
    (old.next p).tx = old.nextResponder p ∧ (old.next p).telemetry = old.nextTelemetry p := by
  obtain ⟨h1, h2, h3, h4⟩ := (next_received old p).untouched
  obtain ⟨e1, e2, e3, e4⟩ := applyOrLegacy_untouched old p (old.sample p)
  exact ⟨h1.trans e1, h2.trans e2, h3.trans e3, h4.trans e4⟩

/-- Only a commit moves the post registers in the receiver. -/
theorem posts_receive (new : Latch) : (old.receive p new).posts =
    if old.commits p then new.posts.committed old.rx.route old.rx.seq old.attemptedTransaction
    else new.posts := by
  rcases (receive_spec old p new).commits_eq with ⟨hc, e⟩ | ⟨hc, e⟩
  · rw [if_pos hc, e]
    rfl
  · rw [e]
    simp [hc]

/-- The ports as the adapter drives them: a legacy write is a data word of another command, and an
    apply is accepted only of a pending post. -/
structure Driven (old : Latch) (p : LatchPorts) : Prop where
  apply : p.applyAccepted = (old.apply && !p.legacyWrite)
  legacy : p.legacyWrite = true → p.cmdStart = false ∧ p.setData = false

/-- **The post registers after an edge**: at most one of the three events happens. -/
theorem posts_next (h : Driven old p) : (old.next p).posts =
    if p.legacyWrite then old.posts.legacy
    else if p.applyAccepted then old.posts.applied
    else if old.commits p then
      old.posts.committed old.rx.route old.rx.seq old.attemptedTransaction
    else old.posts := by
  rw [next, posts_receive, posts_applyOrLegacy old p (old.sample p) rfl]
  cases hl : p.legacyWrite with
  | true =>
      have hc : old.commits p = false := by simp [commits, (h.legacy hl).2]
      simp [hc]
  | false =>
      cases ha : p.applyAccepted with
      | true =>
          have hp : old.pending = true := by
            have happly := (Bool.and_eq_true_iff.mp (h.apply.symm.trans ha)).1
            exact (Bool.and_eq_true_iff.mp happly).1
          have hc : old.commits p = false := by simp [commits, hp]
          simp [hc]
      | false => simp

end Latch

end MisterMagik.Fpga
