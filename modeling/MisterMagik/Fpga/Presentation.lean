/-
  File:      MisterMagik/Fpga/Presentation.lean
  Subject:   What becomes visible, and when: the commits, applies and legacy writes of a run of the
             adapter and the latch, every input free at every cycle.

  * `posts_succ` -- the post registers move by one of the three events at each edge;
  * `pending_since` -- a pending post was committed by the last commit, and nothing happened to it;
  * `route_changes_only_by_commit` -- the route outputs move only when a post is accepted;
  * `only_valid_posts_visible` -- all together, for every run.
-/
import MisterMagik.Fpga.PostRules

namespace MisterMagik.Fpga

open MisterMagik.Base.Clocked (exists_last_set eq_of_unchanged)

variable {inp : Stimulus} {m n : Nat}

/-! ## 1. Events -/

def applyAt (inp : Stimulus) (n : Nat) : Prop := (portsAt inp n).applyAccepted = true

def legacyAt (inp : Stimulus) (n : Nat) : Prop := (portsAt inp n).legacyWrite = true

instance (inp : Stimulus) (n : Nat) : Decidable (applyAt inp n) :=
  inferInstanceAs (Decidable (_ = true))

instance (inp : Stimulus) (n : Nat) : Decidable (legacyAt inp n) :=
  inferInstanceAs (Decidable (_ = true))

instance (inp : Stimulus) (n : Nat) : Decidable (commitAt inp n) :=
  inferInstanceAs (Decidable (_ = true))

theorem posts_succ (inp : Stimulus) (n : Nat) :
    (latchAt inp (n + 1)).posts =
      if legacyAt inp n then (latchAt inp n).posts.legacy
      else if applyAt inp n then (latchAt inp n).posts.applied
      else if commitAt inp n then
        (latchAt inp n).posts.committed (latchAt inp n).rx.route (latchAt inp n).rx.seq
          (latchAt inp n).attemptedTransaction
      else (latchAt inp n).posts := by
  rw [latchAt_succ]
  exact Latch.posts_next _ _ (driven_at inp n)

/-- What an accepted apply needs. -/
theorem applyAt_iff : applyAt inp n ↔
    (latchAt inp n).pending = true ∧ (latchAt inp n).vblOld = false ∧
      (latchAt inp n).vblSys = true ∧ ¬ legacyAt inp n := by
  unfold applyAt legacyAt
  rw [(driven_at inp n).apply]
  simp [Latch.apply, Latch.vblRise, and_assoc]

theorem commitAt_idle (h : commitAt inp n) : ¬ legacyAt inp n ∧ ¬ applyAt inp n := by
  obtain ⟨-, -, -, -, -, -, hp, -⟩ := commit_frame h
  constructor
  · intro hl
    have := ((driven_at inp n).legacy hl).2
    simp [commitAt, Latch.commits, this] at h
  · intro ha
    rw [(applyAt_iff.mp ha).1] at hp
    cases hp

/-- A post is pending after an edge if the edge committed it, or it was pending and stayed. -/
theorem pending_succ (h : (latchAt inp (n + 1)).pending = true) :
    commitAt inp n ∨ ((latchAt inp n).pending = true ∧ ¬ legacyAt inp n ∧ ¬ applyAt inp n) := by
  have hp : (latchAt inp (n + 1)).posts.pending = true := h
  rw [posts_succ] at hp
  split at hp
  · cases hp
  rename_i hl
  split at hp
  · cases hp
  rename_i ha
  split at hp
  · exact .inl ‹_›
  · exact .inr ⟨hp, hl, ha⟩

/-- **A pending post was committed by the last commit**, and since then nothing was applied, no
    legacy write came and the post stayed pending. -/
theorem pending_since (h0 : inp.start.pending = false) (h : (latchAt inp n).pending = true) :
    ∃ m, m < n ∧ commitAt inp m ∧ ∀ j, m < j → j < n →
      (latchAt inp j).pending = true ∧ ¬ legacyAt inp j ∧ ¬ applyAt inp j ∧ ¬ commitAt inp j := by
  obtain ⟨m, hm, hc, hb⟩ := exists_last_set (fun n => (latchAt inp n).pending = true)
    (commitAt inp) (fun n => ¬ legacyAt inp n ∧ ¬ applyAt inp n)
    (by simp [latchAt, bridgeRun, h0]) (fun n => pending_succ) h
  exact ⟨m, hm, hc, fun j h1 h2 => have ⟨hp, ⟨hl, ha⟩, hs⟩ := hb j h1 h2; ⟨hp, hl, ha, hs⟩⟩

/-! ## 2. The route -/

theorem route_succ (h : ¬ commitAt inp n) :
    (latchAt inp (n + 1)).route = (latchAt inp n).route := by
  have e := congrArg Posts.route (posts_succ inp n)
  simp only [h, if_false] at e
  split at e
  · exact e
  · split at e <;> exact e

/-- **The route outputs move only when a post is accepted**, which needs that none is pending. -/
theorem route_changes_only_by_commit
    (h : (latchAt inp (n + 1)).route ≠ (latchAt inp n).route) :
    commitAt inp n ∧ (latchAt inp n).pending = false := by
  have hc : commitAt inp n := by
    by_contra hc
    exact h (route_succ hc)
  obtain ⟨-, -, -, -, -, -, hp, -⟩ := commit_frame hc
  exact ⟨hc, hp⟩

theorem posts_commit (h : commitAt inp m) : (latchAt inp (m + 1)).posts =
    (latchAt inp m).posts.committed (latchAt inp m).rx.route (latchAt inp m).rx.seq
      (latchAt inp m).attemptedTransaction := by
  obtain ⟨hl, ha⟩ := commitAt_idle h
  rw [posts_succ, if_neg hl, if_neg ha, if_pos h]

theorem posts_quiet (hl : ¬ legacyAt inp n) (ha : ¬ applyAt inp n) (hc : ¬ commitAt inp n) :
    (latchAt inp (n + 1)).posts = (latchAt inp n).posts := by
  rw [posts_succ, if_neg hl, if_neg ha, if_neg hc]

/-! ## 3. Posts that become visible -/

/-- Cycle `m` accepts the SET command whose frame is `f` at the cycle of its check word. -/
structure Accepts (inp : Stimulus) (m : Nat) (f : Frame) : Prop where
  commit : commitAt inp m
  /-- The frame holds the eleven payload words, and the check word of cycle `m` ends it. -/
  before : frame inp m = some f
  after : frame inp (m + 1) =
    some { f with words := f.words ++ [messageCrc MAGIK_UIO_SET_FBUF_LATCH f.words] }
  command : f.command = MAGIK_UIO_SET_FBUF_LATCH
  length : f.words.length = 11
  valid : Payload.Valid f.words

theorem commitAt.accepts (h : commitAt inp m) : ∃ f, Accepts inp m f ∧
    (latchAt inp m).rx.route = routeOf f.words ∧ (latchAt inp m).rx.seq = sequenceOf f.words := by
  obtain ⟨f, hf, hcmd, hlen, hl, hcrc, -, hsem, hf'⟩ := commit_frame h
  refine ⟨f, ⟨h, hf, ?_, hcmd, hlen, ?_⟩, hl.route_eq hlen, hl.seq_eq hlen⟩
  · rw [hf', hcrc]
  · rwa [← Payload.postReject_eq_none_iff, ← semanticReject_eq hl hlen]

/-- The post applied at cycle `n` is the one accepted at cycle `m`: the last one before. -/
structure Applies (inp : Stimulus) (m n : Nat) : Prop where
  before : m < n
  commit : commitAt inp m
  apply : applyAt inp n
  last : ∀ j, m < j → j < n → ¬ commitAt inp j

/-- An applied post was accepted by a last commit, and nothing happened to it in between. -/
theorem Applies.of_apply (h0 : inp.start.pending = false) (h : applyAt inp n) :
    ∃ m, Applies inp m n := by
  obtain ⟨m, hm, hc, hb⟩ := pending_since h0 (applyAt_iff.mp h).1
  exact ⟨m, hm, hc, h, fun j h1 h2 => (hb j h1 h2).2.2.2⟩

theorem Applies.unique {m' : Nat} (h : Applies inp m n) (h' : Applies inp m' n) : m = m' := by
  rcases Nat.lt_trichotomy m m' with hlt | rfl | hlt
  · exact absurd h'.commit (h.last m' hlt h'.before)
  · rfl
  · exact absurd h.commit (h'.last m hlt h.before)

/-- Between its commit and its apply nothing happens to a post. -/
theorem Applies.between (h0 : inp.start.pending = false) (h : Applies inp m n) {j : Nat}
    (h1 : m < j) (h2 : j < n) : ¬ legacyAt inp j ∧ ¬ applyAt inp j ∧ ¬ commitAt inp j := by
  obtain ⟨m', hm', hc, hb⟩ := pending_since h0 (applyAt_iff.mp h.apply).1
  obtain rfl : m = m' :=
    h.unique ⟨hm', hc, h.apply, fun j h1 h2 => (hb j h1 h2).2.2.2⟩
  exact (hb j h1 h2).2

/-- When a post is applied, the post registers still are what its commit wrote. -/
theorem Applies.posts_eq (h0 : inp.start.pending = false) (h : Applies inp m n) :
    (latchAt inp n).posts = (latchAt inp (m + 1)).posts :=
  eq_of_unchanged (v := fun k => (latchAt inp k).posts) h.before fun _ h1 h2 =>
    have ⟨hl, ha, hc⟩ := h.between h0 h1 h2
    posts_quiet hl ha hc

/-- A post is applied once. -/
theorem Applies.once (h0 : inp.start.pending = false) {n' : Nat} (h : Applies inp m n)
    (h' : Applies inp m n') : n = n' := by
  rcases Nat.lt_trichotomy n n' with hlt | rfl | hlt
  · exact absurd h.apply (h'.between h0 h.before hlt).2.1
  · rfl
  · exact absurd h'.apply (h.between h0 h'.before hlt).2.1

/-- Posts are applied in the order of their acceptance. -/
theorem Applies.ordered {m' n' : Nat} (h : Applies inp m n) (h' : Applies inp m' n') (hm : m < m') :
    n < n' := by
  by_contra hn
  exact h.last m' hm (Nat.lt_of_lt_of_le h'.before (Nat.le_of_not_lt hn)) h'.commit

theorem vblOld_succ (inp : Stimulus) (n : Nat) :
    (latchAt inp (n + 1)).vblOld = (latchAt inp n).vblSys := by
  rw [latchAt_succ]
  exact (Latch.next_untouched _ _).1

/-- **Only whole, valid posts become visible, and only at a vertical blank.** In every run:

    * an apply happens at a rising edge of the synchronised blank, with a post pending and no
      legacy write in that cycle;
    * the route outputs then are the fields of one SET command, the last accepted one: its eleven
      payload words and their check word came in order, once each, in one frame, and the payload is
      the all-zero disable or obeys every rule; its sequence becomes active;
    * a post is applied at most once, before any later one, and not after a legacy write;
    * the route outputs move only when a post is accepted, so never while one is pending. -/
theorem only_valid_posts_visible (input : Nat → BridgePorts) :
    let inp := Stimulus.ofReset input
    (∀ n, applyAt inp n →
      (∃ k, n = k + 1 ∧ (latchAt inp k).vblSys = false ∧ (latchAt inp n).vblSys = true) ∧
      (latchAt inp n).pending = true ∧ ¬ legacyAt inp n ∧
      ∃ m f, Applies inp m n ∧ Accepts inp m f ∧ (latchAt inp n).route = routeOf f.words ∧
        (latchAt inp (n + 1)).route = routeOf f.words ∧
        (latchAt inp (n + 1)).activeSeq = sequenceOf f.words) ∧
    (∀ m n n', Applies inp m n → Applies inp m n' → n = n') ∧
    (∀ m n m' n', Applies inp m n → Applies inp m' n' → m < m' → n < n') ∧
    (∀ m n j, Applies inp m n → m < j → j ≤ n → ¬ legacyAt inp j) ∧
    (∀ n, (latchAt inp (n + 1)).route ≠ (latchAt inp n).route →
      commitAt inp n ∧ (latchAt inp n).pending = false) := by
  intro inp
  have h0 : inp.start.pending = false := rfl
  refine ⟨fun n h => ?_, fun m n n' => Applies.once h0, fun m n m' n' => Applies.ordered,
    fun m n j h h1 h2 => ?_, fun n => route_changes_only_by_commit⟩
  · obtain ⟨hp, hold, hsys, hl⟩ := applyAt_iff.mp h
    refine ⟨?_, hp, hl, ?_⟩
    · cases n with
      | zero => cases hp
      | succ k => exact ⟨k, rfl, (vblOld_succ inp k).symm.trans hold, hsys⟩
    · obtain ⟨m, hm⟩ := Applies.of_apply h0 h
      obtain ⟨f, hacc, hroute, hseq⟩ := hm.commit.accepts
      have hposts : (latchAt inp n).posts = _ := (hm.posts_eq h0).trans (posts_commit hm.commit)
      have hr : (latchAt inp n).route = routeOf f.words :=
        (congrArg Posts.route hposts).trans hroute
      have hs : (latchAt inp n).pendingSeq = sequenceOf f.words :=
        (congrArg Posts.pendingSeq hposts).trans hseq
      have hnext : (latchAt inp (n + 1)).posts = (latchAt inp n).posts.applied := by
        rw [posts_succ, if_neg hl, if_pos h]
      exact ⟨m, f, hm, hacc, hr, (congrArg Posts.route hnext).trans hr,
        (congrArg Posts.activeSeq hnext).trans hs⟩
  · rcases Nat.lt_or_eq_of_le h2 with h2 | rfl
    · exact (h.between h0 h1 h2).1
    · exact (applyAt_iff.mp h.apply).2.2.2

/-- The example post is applied two cycles after the blank began. -/
example : applyAt (.ofReset (scripted ((0x57#16 :: goldenSet).map some) 14)) 16 := by
  decide +kernel

end MisterMagik.Fpga
