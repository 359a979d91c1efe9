/-
  File:      MisterMagik/Fpga/Scanout.lean
  Subject:   What is scanned out: the latch together with the framebuffer registers (`LFB_*`) it
             reads back, over any clock edges.

  An apply loads the framebuffer registers with the route of the latch; a legacy write changes them
  as it likes, but it never selects one of the two hidden slots.

  * `Edge.effect` -- everything an edge does to the posts and to the display;
  * `Hidden`, `Safe` -- a slot nobody looks at, and its weakest form;
  * `Fate` -- what may have become of an accepted post;
  * `Quiet.hidden`, `Quiet.fate` -- both last as long as no post is accepted.
-/
import Mathlib.Logic.Relation
import MisterMagik.Fpga.Edge

namespace MisterMagik.Fpga

open Relation (ReflTransGen)

/-! ## 1. The display -/

/-- The physical addresses of the two hidden slots. -/
structure SlotBases where
  base1 : BitVec 32
  base2 : BitVec 32
  distinct : base1 ≠ base2

/-- The addresses of `EXPECTED_LAYOUT`. -/
def SlotBases.expectedLayout : SlotBases := ⟨0x227E9000#32, 0x22FD2000#32, by decide⟩

def SlotBases.Contains (bases : SlotBases) (base : BitVec 32) : Prop :=
  base = bases.base1 ∨ base = bases.base2

instance (bases : SlotBases) (base : BitVec 32) : Decidable (bases.Contains base) :=
  inferInstanceAs (Decidable (_ ∨ _))

/-- The `LFB_*` registers the latch reports. -/
structure Lfb where
  en : Bool
  base : BitVec 32
  width : BitVec 12
  height : BitVec 12
  stride : BitVec 14
  deriving DecidableEq

def Lfb.ofRoute (route : Route) : Lfb :=
  { en := route.en, base := route.base, width := route.width, height := route.height
    stride := route.stride }

/-- The display shows one of the hidden slots. -/
def Lfb.ShowsSlot (lfb : Lfb) (bases : SlotBases) : Prop :=
  lfb.en = true ∧ bases.Contains lfb.base

instance (lfb : Lfb) (bases : SlotBases) : Decidable (lfb.ShowsSlot bases) :=
  inferInstanceAs (Decidable (_ ∧ _))

structure Scanout where
  latch : Latch
  lfb : Lfb
  deriving DecidableEq

/-- The latch reads the framebuffer registers. -/
structure LatchPorts.ReadsBack (p : LatchPorts) (lfb : Lfb) : Prop where
  en : p.activeLfbEn = lfb.en
  base : p.activeLfbBase = lfb.base
  width : p.activeLfbWidth = lfb.width
  height : p.activeLfbHeight = lfb.height
  stride : p.activeLfbStride = lfb.stride

/-! ## 2. Edges -/

/-- One clock edge of the latch and the framebuffer registers. A legacy write leaves a hidden slot
    on the display only if it was there before and the write changed nothing of it. -/
structure Edge (bases : SlotBases) (s : Scanout) (p : LatchPorts) (s' : Scanout) : Prop where
  driven : s.latch.Driven p
  readsBack : p.ReadsBack s.lfb
  latch : s'.latch = s.latch.next p
  lfb : p.legacyWrite = false →
    s'.lfb = if p.applyAccepted then .ofRoute s.latch.route else s.lfb
  legacy : p.legacyWrite = true → s'.lfb.ShowsSlot bases → s'.lfb = s.lfb

/-- What an edge can do. -/
inductive Effect (bases : SlotBases) (s : Scanout) (p : LatchPorts) (s' : Scanout) : Prop where
  | legacy (h : p.legacyWrite = true) (hc : s.latch.commits p = false)
      (hq : s'.latch.posts = s.latch.posts.legacy) (hl : s'.lfb.ShowsSlot bases → s'.lfb = s.lfb)
  | applied (h : s.latch.pending = true) (hc : s.latch.commits p = false)
      (hq : s'.latch.posts = s.latch.posts.applied) (hl : s'.lfb = .ofRoute s.latch.route)
  | committed (hc : s.latch.commits p = true) (hp : s.latch.pending = false)
      (hq : s'.latch.posts = s.latch.posts.committed s.latch.rx.route s.latch.rx.seq
        s.latch.attemptedTransaction) (hl : s'.lfb = s.lfb)
  | kept (hc : s.latch.commits p = false) (hq : s'.latch.posts = s.latch.posts)
      (hl : s'.lfb = s.lfb)

theorem pending_of_commits {s : Latch} {p : LatchPorts} (h : s.commits p = true) :
    s.pending = false := by
  simp only [Latch.commits, Bool.and_eq_true, Bool.not_eq_true'] at h
  exact h.1.2

theorem not_commits_of_pending {s : Latch} (p : LatchPorts) (h : s.pending = true) :
    s.commits p = false := by
  simp [Latch.commits, h]

theorem not_commits_of_no_data {s : Latch} {p : LatchPorts} (h : p.setData = false) :
    s.commits p = false := by
  simp [Latch.commits, h]

variable {bases : SlotBases} {s s' : Scanout} {p : LatchPorts} {base : BitVec 32}

/-- **Everything an edge does to the posts and to the display.** -/
theorem Edge.effect (h : Edge bases s p s') : Effect bases s p s' := by
  have hq := Latch.posts_next s.latch p h.driven
  rw [← h.latch] at hq
  cases hl : p.legacyWrite with
  | true =>
      rw [hl, if_pos rfl] at hq
      exact .legacy hl (not_commits_of_no_data (h.driven.legacy hl).2) hq (h.legacy hl)
  | false =>
      have hlfb := h.lfb hl
      rw [hl, if_neg Bool.false_ne_true] at hq
      cases ha : p.applyAccepted with
      | true =>
          rw [ha, if_pos rfl] at hq hlfb
          have happly : s.latch.apply = true :=
            (Bool.and_eq_true_iff.mp (h.driven.apply.symm.trans ha)).1
          have hp := (Bool.and_eq_true_iff.mp happly).1
          exact .applied hp (not_commits_of_pending p hp) hq hlfb
      | false =>
          rw [ha, if_neg Bool.false_ne_true] at hq hlfb
          cases hc : s.latch.commits p with
          | true =>
              rw [hc, if_pos rfl] at hq
              exact .committed hc (pending_of_commits hc) hq hlfb
          | false =>
              rw [hc, if_neg Bool.false_ne_true] at hq
              exact .kept hc hq hlfb

/-- Edges that accept no post. -/
def QuietStep (bases : SlotBases) (s s' : Scanout) : Prop :=
  ∃ p, Edge bases s p s' ∧ s.latch.commits p = false

abbrev Quiet (bases : SlotBases) : Scanout → Scanout → Prop := ReflTransGen (QuietStep bases)

/-- What every edge that accepts no post keeps lasts. -/
theorem Quiet.keeps {P : Scanout → Prop}
    (hP : ∀ s p s', Edge bases s p s' → s.latch.commits p = false → P s → P s')
    (h : Quiet bases s s') (hs : P s) : P s' := by
  induction h with
  | refl => exact hs
  | tail _ hq ih =>
      obtain ⟨p, he, hc⟩ := hq
      exact hP _ p _ he hc ih

/-! ## 3. Hidden slots -/

/-- Nothing is pending, and the display does not show this address. -/
structure Hidden (base : BitVec 32) (s : Scanout) : Prop where
  idle : s.latch.pending = false
  unseen : s.lfb.en = true → s.lfb.base ≠ base

/-- This address is neither the enabled active base nor the base of the pending post. -/
structure Safe (base : BitVec 32) (s : Scanout) : Prop where
  active : ¬ (s.lfb.en = true ∧ s.lfb.base = base)
  pending : ¬ (s.latch.pending = true ∧ s.latch.route.base = base)

theorem Hidden.safe (h : Hidden base s) : Safe base s where
  active := fun ⟨he, hb⟩ => h.unseen he hb
  pending := fun ⟨hp, _⟩ => Bool.false_ne_true (h.idle.symm.trans hp)

/-- A legacy write does not bring a hidden slot to the display. -/
theorem unseen_of_legacy (hb : bases.Contains base) (hl : s'.lfb.ShowsSlot bases → s'.lfb = s.lfb)
    (h : s.lfb.en = true → s.lfb.base ≠ base) : s'.lfb.en = true → s'.lfb.base ≠ base := by
  rintro he rfl
  have e := hl ⟨he, hb⟩
  rw [e] at he
  exact h he (congrArg Lfb.base e).symm

theorem Edge.hidden (he : Edge bases s p s') (hb : bases.Contains base)
    (hc : s.latch.commits p = false) (h : Hidden base s) : Hidden base s' := by
  cases he.effect with
  | legacy _ _ hq hl =>
      have hp := congrArg Posts.pending hq
      exact ⟨hp, unseen_of_legacy hb hl h.unseen⟩
  | applied hp =>
      rw [h.idle] at hp
      cases hp
  | committed h' =>
      rw [hc] at h'
      cases h'
  | kept _ hq hl =>
      have hp : s'.latch.pending = s.latch.pending := congrArg Posts.pending hq
      exact ⟨hp.trans h.idle, by rw [hl]; exact h.unseen⟩

theorem Quiet.hidden (hb : bases.Contains base) (hq : Quiet bases s s') (h : Hidden base s) :
    Hidden base s' :=
  hq.keeps (fun _ _ _ he hc => he.hidden hb hc) h

/-- **A safe address stays safe**, but for a post with that base. -/
theorem Edge.safe (he : Edge bases s p s') (hb : bases.Contains base)
    (hc : s.latch.commits p = true → s.latch.rx.route.base ≠ base) (h : Safe base s) :
    Safe base s' := by
  cases he.effect with
  | legacy _ _ hq hl =>
      have hp : s'.latch.pending = false := congrArg Posts.pending hq
      refine ⟨fun hactive => ?_, fun hpending => ?_⟩
      · exact unseen_of_legacy hb hl (fun hen hbase => h.active ⟨hen, hbase⟩) hactive.1 hactive.2
      · simp [hp] at hpending
  | applied hp _ hq hl =>
      have hp' : s'.latch.pending = false := congrArg Posts.pending hq
      refine ⟨fun hactive => ?_, fun hpending => ?_⟩
      · rw [hl] at hactive
        exact h.pending ⟨hp, hactive.2⟩
      · simp [hp'] at hpending
  | committed hcommit _ hq hl =>
      have hr : s'.latch.route = s.latch.rx.route := congrArg Posts.route hq
      refine ⟨fun hactive => ?_, fun hpending => ?_⟩
      · rw [hl] at hactive
        exact h.active hactive
      · rw [hr] at hpending
        exact hc hcommit hpending.2
  | kept _ hq hl =>
      have hp : s'.latch.pending = s.latch.pending := congrArg Posts.pending hq
      have hr : s'.latch.route = s.latch.route := congrArg Posts.route hq
      refine ⟨fun hactive => ?_, fun hpending => ?_⟩
      · rw [hl] at hactive
        exact h.active hactive
      · rw [hp, hr] at hpending
        exact h.pending hpending

/-! ## 4. Accepted posts -/

/-- A post the latch has accepted. -/
structure Post where
  route : Route
  sequence : Word
  transaction : Word

/-- What may have become of an accepted post since. -/
inductive Fate (q : Post) (s : Scanout) : Prop where
  | pending (hp : s.latch.pending = true) (hr : s.latch.route = q.route)
      (hs : s.latch.pendingSeq = q.sequence) (ht : s.latch.pendingTransaction = q.transaction)
      (has : s.latch.acceptedSeq = q.sequence) (hat : s.latch.acceptedTransaction = q.transaction)
      (hn : s.lfb.en = true → s.lfb.base ≠ q.route.base)
  | active (hp : s.latch.pending = false) (hs : s.latch.activeSeq = q.sequence)
      (ht : s.latch.activeTransaction = q.transaction)
      (has : s.latch.acceptedSeq = q.sequence) (hat : s.latch.acceptedTransaction = q.transaction)
      (hl : s.lfb = .ofRoute q.route)
  /-- A legacy write took it away. -/
  | gone (hp : s.latch.pending = false) (hs : s.latch.activeSeq = 0#16)
      (hn : s.lfb.en = true → s.lfb.base ≠ q.route.base)
  /-- A legacy write took the display away, but has not changed what it shows yet. -/
  | lingering (hp : s.latch.pending = false) (hs : s.latch.activeSeq = 0#16)
      (hl : s.lfb = .ofRoute q.route)

/-- A post is accepted: it is pending. -/
theorem Edge.fate_of_commit (he : Edge bases s p s') (hc : s.latch.commits p = true)
    (hn : s.lfb.en = true → s.lfb.base ≠ s.latch.rx.route.base) :
    Fate ⟨s.latch.rx.route, s.latch.rx.seq, s.latch.attemptedTransaction⟩ s' := by
  cases he.effect with
  | committed _ _ hq hl =>
      exact .pending (congrArg Posts.pending hq) (congrArg Posts.route hq)
        (congrArg Posts.pendingSeq hq) (congrArg Posts.pendingTransaction hq)
        (congrArg Posts.acceptedSeq hq) (congrArg Posts.acceptedTransaction hq) (by rwa [hl])
  | legacy _ h | applied _ h | kept h =>
      rw [hc] at h
      cases h

variable {q : Post}

/-- A legacy write ends every post; where the display goes on showing its slot, it lingers. -/
theorem Fate.legacy (hb : bases.Contains q.route.base)
    (hq : s'.latch.posts = s.latch.posts.legacy) (hl : s'.lfb.ShowsSlot bases → s'.lfb = s.lfb)
    (h : s.lfb = .ofRoute q.route ∨ (s.lfb.en = true → s.lfb.base ≠ q.route.base)) :
    Fate q s' := by
  have hp : s'.latch.pending = false := congrArg Posts.pending hq
  have hs : s'.latch.activeSeq = 0#16 := congrArg Posts.activeSeq hq
  by_cases hshow : s'.lfb.ShowsSlot bases
  · rcases h with h | h
    · exact .lingering hp hs ((hl hshow).trans h)
    · exact .gone hp hs (unseen_of_legacy hb hl h)
  · refine .gone hp hs fun he hbase => hshow ⟨he, ?_⟩
    rwa [hbase]

theorem Edge.fate (he : Edge bases s p s') (hb : bases.Contains q.route.base)
    (hc : s.latch.commits p = false) (h : Fate q s) : Fate q s' := by
  have hshown : s.lfb = .ofRoute q.route ∨ (s.lfb.en = true → s.lfb.base ≠ q.route.base) := by
    cases h with
    | pending _ _ _ _ _ _ hn | gone _ _ hn => exact .inr hn
    | active _ _ _ _ _ hl | lingering _ _ hl => exact .inl hl
  cases he.effect with
  | legacy _ _ hq hl => exact .legacy hb hq hl hshown
  | applied hp _ hq hl =>
      have hp' : s'.latch.pending = false := congrArg Posts.pending hq
      cases h with
      | pending _ hr hs ht has hat =>
          exact .active hp' ((congrArg Posts.activeSeq hq).trans hs)
            ((congrArg Posts.activeTransaction hq).trans ht)
            ((congrArg Posts.acceptedSeq hq).trans has)
            ((congrArg Posts.acceptedTransaction hq).trans hat) (hr ▸ hl)
      | active h | gone h | lingering h =>
          rw [hp] at h
          cases h
  | committed h' =>
      rw [hc] at h'
      cases h'
  | kept _ hq hl =>
      have hp' : s'.latch.pending = s.latch.pending := congrArg Posts.pending hq
      have hs' : s'.latch.activeSeq = s.latch.activeSeq := congrArg Posts.activeSeq hq
      have has' : s'.latch.acceptedSeq = s.latch.acceptedSeq := congrArg Posts.acceptedSeq hq
      have hat' : s'.latch.acceptedTransaction = s.latch.acceptedTransaction :=
        congrArg Posts.acceptedTransaction hq
      cases h with
      | pending hp hr hs ht has hat hn =>
          exact .pending (hp'.trans hp) ((congrArg Posts.route hq).trans hr)
            ((congrArg Posts.pendingSeq hq).trans hs)
            ((congrArg Posts.pendingTransaction hq).trans ht) (has'.trans has) (hat'.trans hat)
            (by rwa [hl])
      | active hp hs ht has hat hlfb =>
          exact .active (hp'.trans hp) (hs'.trans hs)
            ((congrArg Posts.activeTransaction hq).trans ht) (has'.trans has) (hat'.trans hat)
            (hl.trans hlfb)
      | gone hp hs hn => exact .gone (hp'.trans hp) (hs'.trans hs) (by rwa [hl])
      | lingering hp hs hlfb => exact .lingering (hp'.trans hp) (hs'.trans hs) (hl.trans hlfb)

theorem Quiet.fate (hb : bases.Contains q.route.base) (hq : Quiet bases s s') (h : Fate q s) :
    Fate q s' :=
  hq.keeps (fun _ _ _ he hc => he.fate hb hc) h

end MisterMagik.Fpga
