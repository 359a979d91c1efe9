/-
  File:      MisterMagik/UserState/Recomputation.lean
  Subject:   The summaries that triggers maintain are the ones a recomputation from the base tables
             gives, whenever the backfill ran.

  * `Latest` -- the session of a game with the greatest `(played_at, id)`;
  * `Recomputed` -- what the two summary tables say, read off sessions and favourites;
  * `Sound.step` -- each writer keeps it, and the backfill starts it;
  * `summaries_recomputed` -- for every sequence of writes, split anywhere by the backfill.
-/
import MisterMagik.UserState.Store
import Mathlib.Data.List.Dedup

namespace MisterMagik.UserState

open MisterMagik.Base

namespace Database

/-! ## 1. The latest session of a game -/

/-- Row ids decrease from the newest session on. -/
def Ordered (sessions : List PlaySession) : Prop :=
  sessions.Pairwise fun newer older => older.id < newer.id

/-- The session of `key` with the greatest `(played_at, id)`. -/
structure Latest (sessions : List PlaySession) (key : GameKey) (s : PlaySession) : Prop where
  mem : s ∈ sessions
  key_eq : s.game.key = key
  last : ∀ o ∈ sessions, o.game.key = key → o = s ∨ precedes s o = true

theorem precedes_iff {o s : PlaySession} : precedes o s = true ↔
    s.playedAt < o.playedAt ∨ (s.playedAt = o.playedAt ∧ s.id < o.id) := by
  simp [precedes]

theorem lt_nextRowid {sessions : List PlaySession} (h : Ordered sessions) :
    ∀ o ∈ sessions, o.id < nextRowid sessions := by
  intro o ho
  cases sessions with
  | nil => cases ho
  | cons last rest =>
      have hrest := (List.pairwise_cons.1 h).1
      rcases List.mem_cons.1 ho with rfl | ho
      · exact Int.lt_succ o.id
      · have hid := hrest o ho
        show o.id < last.id + 1
        omega

theorem Ordered.cons {sessions : List PlaySession} (h : Ordered sessions) (game : UserGameIdentity)
    (playedAt : Int) : Ordered (⟨nextRowid sessions, game, playedAt⟩ :: sessions) :=
  List.pairwise_cons.2 ⟨lt_nextRowid h, h⟩

section Latest

variable {sessions : List PlaySession} {key : GameKey} {s new : PlaySession}

theorem Latest.first (hkey : new.game.key = key) (h : ∀ o ∈ sessions, o.game.key ≠ key) :
    Latest (new :: sessions) key new where
  mem := List.mem_cons_self
  key_eq := hkey
  last := by
    intro o ho hk
    rcases List.mem_cons.1 ho with rfl | ho
    · exact Or.inl rfl
    · exact absurd hk (h o ho)

/-- A session at the same time or later takes over: its id is greater than any before. -/
theorem Latest.newer (h : Latest sessions key s) (hkey : new.game.key = key)
    (hid : ∀ o ∈ sessions, o.id < new.id) (hat : s.playedAt ≤ new.playedAt) :
    Latest (new :: sessions) key new where
  mem := List.mem_cons_self
  key_eq := hkey
  last := by
    intro o ho hk
    rcases List.mem_cons.1 ho with rfl | ho
    · exact Or.inl rfl
    · have hlt := hid o ho
      have hle : o.playedAt ≤ s.playedAt := by
        rcases h.last o ho hk with rfl | hprec
        · exact le_rfl
        · rcases precedes_iff.1 hprec with hlt | ⟨heq, -⟩
          · exact le_of_lt hlt
          · exact le_of_eq heq
      exact Or.inr (precedes_iff.2 (by omega))

theorem Latest.older (h : Latest sessions key s) (hat : new.playedAt < s.playedAt) :
    Latest (new :: sessions) key s where
  mem := List.mem_cons_of_mem _ h.mem
  key_eq := h.key_eq
  last := by
    intro o ho hk
    rcases List.mem_cons.1 ho with rfl | ho
    · exact Or.inr (precedes_iff.2 (Or.inl hat))
    · exact h.last o ho hk

theorem Latest.other (h : Latest sessions key s) (hkey : new.game.key ≠ key) :
    Latest (new :: sessions) key s where
  mem := List.mem_cons_of_mem _ h.mem
  key_eq := h.key_eq
  last := by
    intro o ho hk
    rcases List.mem_cons.1 ho with rfl | ho
    · exact absurd hk hkey
    · exact h.last o ho hk

theorem Latest.unique {s' : PlaySession} (h : Latest sessions key s)
    (h' : Latest sessions key s') : s = s' := by
  rcases h.last s' h'.mem h'.key_eq with rfl | hprec
  · rfl
  · rcases h'.last s h.mem h.key_eq with rfl | hprec'
    · rfl
    · have hlt := precedes_iff.1 hprec
      have hlt' := precedes_iff.1 hprec'
      omega

/-- A played game has a latest session. -/
theorem exists_latest (h : Ordered sessions) (hplayed : ∃ o ∈ sessions, o.game.key = key) :
    ∃ s, Latest sessions key s := by
  induction sessions with
  | nil =>
      obtain ⟨o, ho, -⟩ := hplayed
      cases ho
  | cons new rest ih =>
      have hcons := List.pairwise_cons.1 h
      by_cases hrest : ∃ o ∈ rest, o.game.key = key
      · obtain ⟨s, hs⟩ := ih hcons.2 hrest
        by_cases hkey : new.game.key = key
        · by_cases hat : s.playedAt ≤ new.playedAt
          · exact ⟨new, hs.newer hkey hcons.1 hat⟩
          · exact ⟨s, hs.older (not_le.1 hat)⟩
        · exact ⟨s, hs.other hkey⟩
      · obtain ⟨o, ho, hkey⟩ := hplayed
        rcases List.mem_cons.1 ho with rfl | ho
        · exact ⟨o, Latest.first hkey fun o' ho' hk => hrest ⟨o', ho', hk⟩⟩
        · exact absurd ⟨o, ho, hkey⟩ hrest

/-- **Rank one is the latest session of its partition.** -/
theorem rowNumber_eq_one (h : Ordered sessions) (hs : s ∈ sessions) :
    rowNumber sessions s = 1 ↔ Latest sessions s.game.key s := by
  have hzero : rowNumber sessions s = 1 ↔
      ∀ o ∈ sessions, o.game.key = s.game.key → precedes o s = false := by
    unfold rowNumber partition
    rw [Nat.add_eq_right, List.countP_eq_zero]
    simp only [List.mem_filter, decide_eq_true_eq, and_imp, Bool.not_eq_true]
  rw [hzero]
  constructor
  · intro hnone
    obtain ⟨t, ht⟩ := exists_latest h ⟨s, hs, rfl⟩
    have hlast := hnone t ht.mem ht.key_eq
    rcases ht.last s hs rfl with rfl | hprec
    · exact ht
    · rw [hprec] at hlast
      cases hlast
  · intro hl o ho hk
    rcases hl.last o ho hk with rfl | hprec
    · simp [precedes]
    · have hlt := precedes_iff.1 hprec
      rw [Bool.eq_false_iff, ne_eq, precedes_iff]
      omega

end Latest

/-! ## 2. The summaries, recomputed -/

/-- The counts of a system; without a row they are zero. -/
def countsOf (s : Summaries) (system : String) : UserSystemCounts :=
  (s.userSystemCounts.lookup system).getD ⟨0, 0⟩

/-- The number of distinct games of a system that were played. -/
def distinctPlayed (sessions : List PlaySession) (system : String) : Nat :=
  (sessions.map fun s => s.game.key).dedup.countP fun key => key.systemId = system

/-- The number of current favourites of a system. -/
def currentFavourites (db : Database) (system : String) : Nat :=
  Table.countOf db.favourites fun key => key.systemId = system

/-- The summary tables hold what the base tables say. -/
structure Recomputed (db : Database) (s : Summaries) : Prop where
  played : ∀ key, key ∈ s.userRecentGames ↔ ∃ o ∈ db.playSessions, o.game.key = key
  latest : ∀ key row, s.userRecentGames.lookup key = some row →
    ∃ o, Latest db.playSessions key o ∧
      row = Summaries.recentRow o (plays db.playSessions key)
  counts : ∀ system, countsOf s system =
    ⟨distinctPlayed db.playSessions system, db.currentFavourites system⟩

/-- The recent games are the distinct keys of the sessions. -/
theorem countOf_recent {db : Database} {recents : Table GameKey UserRecentGame}
    (h : ∀ key, key ∈ recents ↔ ∃ o ∈ db.playSessions, o.game.key = key) (system : String) :
    Table.countOf recents (fun key => key.systemId = system) =
      distinctPlayed db.playSessions system := by
  have hperm : recents.keys.Perm (db.playSessions.map fun s => s.game.key).dedup := by
    rw [List.perm_ext_iff_of_nodup recents.keys_nodup (List.nodup_dedup _)]
    intro key
    rw [← AList.mem_keys, h, List.mem_dedup, List.mem_map]
  exact hperm.countP_eq _

theorem plays_cons_self (new : PlaySession) (sessions : List PlaySession) :
    plays (new :: sessions) new.game.key = plays sessions new.game.key + 1 := by
  simp [plays, partition]

theorem plays_cons_other {new : PlaySession} {key : GameKey} (h : new.game.key ≠ key)
    (sessions : List PlaySession) : plays (new :: sessions) key = plays sessions key := by
  simp [plays, partition, h]

theorem plays_eq_zero {sessions : List PlaySession} {key : GameKey}
    (h : ∀ o ∈ sessions, o.game.key ≠ key) : plays sessions key = 0 := by
  simpa [plays, partition] using h

theorem distinctPlayed_new {sessions : List PlaySession} {new : PlaySession}
    (h : ∀ o ∈ sessions, o.game.key ≠ new.game.key) (system : String) :
    distinctPlayed (new :: sessions) system =
      distinctPlayed sessions system + if new.game.systemId = system then 1 else 0 := by
  have hnot : new.game.key ∉ sessions.map fun s => s.game.key := by
    intro hmem
    obtain ⟨o, ho, hk⟩ := List.mem_map.1 hmem
    exact h o ho hk
  unfold distinctPlayed
  rw [List.map_cons, List.dedup_cons_of_notMem hnot, List.countP_cons]
  by_cases hsys : new.game.systemId = system
  · simp [UserGameIdentity.key, hsys]
  · simp [UserGameIdentity.key, hsys]

theorem distinctPlayed_again {sessions : List PlaySession} {new : PlaySession}
    (h : ∃ o ∈ sessions, o.game.key = new.game.key) (system : String) :
    distinctPlayed (new :: sessions) system = distinctPlayed sessions system := by
  have hmem : new.game.key ∈ sessions.map fun s => s.game.key := by
    obtain ⟨o, ho, hk⟩ := h
    exact List.mem_map.2 ⟨o, ho, hk⟩
  unfold distinctPlayed
  rw [List.map_cons, List.dedup_cons_of_mem hmem]

/-! ## 3. The triggers keep them -/

theorem countsOf_upsert (s : Summaries) (t : Table String UserSystemCounts) (system : String) :
    countsOf { s with userSystemCounts := t } system = (t.lookup system).getD ⟨0, 0⟩ := rfl

theorem countsOf_userRecentAdded (s : Summaries) (added system : String) :
    countsOf (s.userRecentAdded added) system =
      ⟨(countsOf s system).recentCount + (if added = system then 1 else 0),
        (countsOf s system).favouriteCount⟩ := by
  unfold Summaries.userRecentAdded
  rw [countsOf_upsert]
  by_cases h : added = system
  · subst h
    rw [Table.lookup_upsert]
    unfold countsOf
    cases s.userSystemCounts.lookup added <;> simp
  · rw [Table.lookup_upsert_ne (Ne.symm h)]
    simp [countsOf, h]

theorem countsOf_userFavouriteAdded (s : Summaries) (added system : String) :
    countsOf (s.userFavouriteAdded added) system =
      ⟨(countsOf s system).recentCount,
        (countsOf s system).favouriteCount + (if added = system then 1 else 0)⟩ := by
  unfold Summaries.userFavouriteAdded
  rw [countsOf_upsert]
  by_cases h : added = system
  · subst h
    rw [Table.lookup_upsert]
    unfold countsOf
    cases s.userSystemCounts.lookup added <;> simp
  · rw [Table.lookup_upsert_ne (Ne.symm h)]
    simp [countsOf, h]

/-- The update finds the row: a system with a favourite is counted. -/
theorem countsOf_userFavouriteRemoved {s : Summaries} {removed : String}
    (hpos : 0 < (countsOf s removed).favouriteCount) (system : String) :
    countsOf (s.userFavouriteRemoved removed) system =
      ⟨(countsOf s system).recentCount,
        (countsOf s system).favouriteCount - (if removed = system then 1 else 0)⟩ := by
  unfold Summaries.userFavouriteRemoved
  rw [countsOf_upsert]
  by_cases h : removed = system
  · subst h
    rw [Table.lookup_update]
    unfold countsOf at hpos ⊢
    cases hrow : s.userSystemCounts.lookup removed with
    | none => rw [hrow] at hpos; cases hpos
    | some row => simp
  · rw [Table.lookup_update_ne (Ne.symm h)]
    simp [countsOf, h]

/-- The trigger on a later play: the newer of the two sessions, and one more play. -/
theorem playedAgain_recentRow (new o : PlaySession) (count : Int) :
    Summaries.playedAgain new (Summaries.recentRow o count) =
      Summaries.recentRow (if o.playedAt ≤ new.playedAt then new else o) (count + 1) := by
  by_cases h : o.playedAt ≤ new.playedAt
  · simp [Summaries.playedAgain, Summaries.recentRow, h]
  · simp [Summaries.playedAgain, Summaries.recentRow, h, le_of_lt (not_le.1 h)]

variable {db : Database} {s : Summaries}

/-- **`user_play_recorded`, with `user_recent_added` inside its upsert.** -/
theorem Recomputed.recordPlay (h : Recomputed db s) (hord : Ordered db.playSessions)
    (game : UserGameIdentity) (playedAt : Int) :
    Recomputed (db.recordPlay game playedAt)
      (s.userPlayRecorded ⟨nextRowid db.playSessions, game, playedAt⟩) := by
  set new : PlaySession := ⟨nextRowid db.playSessions, game, playedAt⟩ with hnew
  have hsessions : (db.recordPlay game playedAt).playSessions = new :: db.playSessions := rfl
  have hid : ∀ o ∈ db.playSessions, o.id < new.id := lt_nextRowid hord
  have hother : ∀ key row, key ≠ new.game.key → s.userRecentGames.lookup key = some row →
      ∃ o, Latest (new :: db.playSessions) key o ∧
        row = Summaries.recentRow o (plays (new :: db.playSessions) key) := by
    intro key row hkey hrow
    obtain ⟨o, hl, hrow⟩ := h.latest key row hrow
    refine ⟨o, hl.other (Ne.symm hkey), ?_⟩
    rw [plays_cons_other (Ne.symm hkey), hrow]
  have hplayed : ∀ key, (key = new.game.key ∨ key ∈ s.userRecentGames) ↔
      ∃ o ∈ new :: db.playSessions, o.game.key = key := by
    intro key
    rw [h.played key, List.exists_mem_cons_iff]
    constructor
    · intro hk
      exact hk.imp Eq.symm id
    · intro hk
      exact hk.imp Eq.symm id
  cases hrow : s.userRecentGames.lookup new.game.key with
  | none =>
      have hnone : ∀ o ∈ db.playSessions, o.game.key ≠ new.game.key := by
        intro o ho hk
        have hmem := (h.played new.game.key).2 ⟨o, ho, hk⟩
        exact AList.lookup_eq_none.1 hrow hmem
      unfold Summaries.userPlayRecorded
      rw [hrow]
      refine ⟨?_, ?_, ?_⟩
      · intro key
        rw [hsessions, ← hplayed key]
        exact AList.mem_insert _
      · intro key row hlook
        rw [hsessions]
        by_cases hkey : key = new.game.key
        · subst hkey
          refine ⟨new, Latest.first rfl hnone, ?_⟩
          have heq := (AList.lookup_insert s.userRecentGames).symm.trans hlook
          rw [plays_cons_self, plays_eq_zero hnone]
          exact (Option.some.inj heq).symm
        · exact hother key row hkey ((AList.lookup_insert_ne hkey).symm.trans hlook)
      · intro system
        rw [countsOf_userRecentAdded, hsessions, distinctPlayed_new hnone]
        have hcounts := h.counts system
        unfold countsOf at hcounts ⊢
        simp only [hcounts]
        by_cases hsys : new.game.systemId = system
        · rw [if_pos hsys, if_pos hsys]
          rfl
        · rw [if_neg hsys, if_neg hsys]
          rfl
  | some old =>
      obtain ⟨o, hl, hold⟩ := h.latest _ _ hrow
      unfold Summaries.userPlayRecorded
      rw [hrow]
      refine ⟨?_, ?_, ?_⟩
      · intro key
        rw [hsessions, ← hplayed key]
        exact AList.mem_insert _
      · intro key row hlook
        rw [hsessions]
        by_cases hkey : key = new.game.key
        · subst hkey
          have heq := (AList.lookup_insert s.userRecentGames).symm.trans hlook
          have hrow' := (Option.some.inj heq).symm
          rw [hold, playedAgain_recentRow] at hrow'
          rw [plays_cons_self, hrow']
          by_cases hat : o.playedAt ≤ new.playedAt
          · exact ⟨new, hl.newer rfl hid hat, by rw [if_pos hat]; rfl⟩
          · exact ⟨o, hl.older (not_le.1 hat), by rw [if_neg hat]; rfl⟩
        · exact hother key row hkey ((AList.lookup_insert_ne hkey).symm.trans hlook)
      · intro system
        rw [hsessions, distinctPlayed_again ⟨o, hl.mem, hl.key_eq⟩]
        exact h.counts system

theorem Recomputed.of_favourites {db' : Database} {s' : Summaries} (h : Recomputed db s)
    (hsessions : db'.playSessions = db.playSessions)
    (hrecent : s'.userRecentGames = s.userRecentGames)
    (hcounts : ∀ system, countsOf s' system =
      ⟨(countsOf s system).recentCount, db'.currentFavourites system⟩) : Recomputed db' s' where
  played := by
    rw [hsessions, hrecent]
    exact h.played
  latest := by
    rw [hsessions, hrecent]
    exact h.latest
  counts := by
    intro system
    rw [hcounts, h.counts, hsessions]

/-- **`user_favourite_added` and `user_favourite_removed`: an upsert that finds its row and a
    delete that finds none fire nothing and count nothing.** -/
theorem Recomputed.setFavourite (h : Recomputed db s) (hsome : db.summaries = some s)
    (game : UserGameIdentity) (favourite : Bool) (changedAt : Int) :
    ∃ s', (db.setFavourite game favourite changedAt).summaries = some s' ∧
      Recomputed (db.setFavourite game favourite changedAt) s' := by
  have hcount : ∀ system, (countsOf s system).favouriteCount = db.currentFavourites system := by
    intro system
    rw [h.counts]
  unfold Database.setFavourite
  cases favourite with
  | true =>
      cases hrow : db.favourites.lookup game.key with
      | none =>
          have hnew := AList.lookup_eq_none.1 hrow
          refine ⟨s.userFavouriteAdded game.systemId, by rw [hsome]; rfl, ?_⟩
          refine h.of_favourites rfl rfl fun system => ?_
          rw [countsOf_userFavouriteAdded, hcount]
          unfold currentFavourites
          rw [Table.countOf_insert_new hnew]
          by_cases hsys : game.systemId = system
          · simp [UserGameIdentity.key, hsys]
          · simp [UserGameIdentity.key, hsys]
      | some old =>
          have hold := Table.mem_of_lookup hrow
          refine ⟨s, hsome, h.of_favourites rfl rfl fun system => ?_⟩
          unfold currentFavourites
          rw [Table.countOf_insert_old hold]
          exact h.counts system ▸ rfl
  | false =>
      cases hrow : db.favourites.lookup game.key with
      | none => exact ⟨s, hsome, h⟩
      | some old =>
          have hold := Table.mem_of_lookup hrow
          have hpos : 0 < (countsOf s game.systemId).favouriteCount := by
            rw [hcount]
            exact_mod_cast Table.countOf_pos hold (by simp [UserGameIdentity.key])
          refine ⟨s.userFavouriteRemoved game.systemId, by rw [hsome]; rfl, ?_⟩
          refine h.of_favourites rfl rfl fun system => ?_
          rw [countsOf_userFavouriteRemoved hpos, hcount]
          unfold currentFavourites
          rw [Table.countOf_erase_old hold]
          by_cases hsys : game.systemId = system
          · simp [UserGameIdentity.key, hsys]
          · simp [UserGameIdentity.key, hsys]

/-! ## 4. The backfill starts them -/

/-- No two rows of rank one have one key: the backfill's insert meets no conflict. -/
theorem nodup_rankOne {sessions : List PlaySession} (h : Ordered sessions) :
    ((sessions.filter fun s => rowNumber sessions s = 1).map fun s => s.game.key).Nodup := by
  have hnodup : sessions.Nodup := h.imp fun hlt heq => absurd (congrArg PlaySession.id heq)
    (Int.ne_of_gt hlt)
  refine List.Nodup.map_on ?_ (hnodup.filter _)
  intro a ha b hb hkey
  rw [List.mem_filter, decide_eq_true_eq] at ha hb
  have hla := (rowNumber_eq_one h ha.1).1 ha.2
  have hlb := (rowNumber_eq_one h hb.1).1 hb.2
  exact hla.unique (hkey ▸ hlb)

theorem lookup_backfill {sessions : List PlaySession} (h : Ordered sessions) {key : GameKey}
    {row : UserRecentGame} : (backfillRecentGames sessions).lookup key = some row ↔
      ∃ o, Latest sessions key o ∧ row = Summaries.recentRow o (plays sessions key) := by
  have hnodup := nodup_rankOne h
  unfold backfillRecentGames
  rw [Table.lookup_ofRows (by rw [List.map_map]; exact hnodup), List.mem_map]
  constructor
  · intro hmem
    obtain ⟨o, ho, heq⟩ := hmem
    rw [List.mem_filter, decide_eq_true_eq] at ho
    have hl := (rowNumber_eq_one h ho.1).1 ho.2
    cases heq
    exact ⟨o, hl, rfl⟩
  · intro hl
    obtain ⟨o, hl, rfl⟩ := hl
    obtain rfl := hl.key_eq
    refine ⟨o, ?_, rfl⟩
    rw [List.mem_filter, decide_eq_true_eq]
    exact ⟨hl.mem, (rowNumber_eq_one h hl.mem).2 hl⟩

theorem sum_toList {V : Type} [AddMonoid V] (v : Option V) : v.toList.sum = v.getD 0 := by
  cases v <;> simp

/-- **The union of the two grouped counts, summed by system.** -/
theorem countsOf_backfill (recents : Table GameKey UserRecentGame)
    (favourites : Table GameKey Favourite) (system : String) :
    countsOf ⟨recents, backfillSystemCounts recents favourites⟩ system =
      ⟨Table.countOf recents fun key => key.systemId = system,
        Table.countOf favourites fun key => key.systemId = system⟩ := by
  have hsum : ((Table.groupSum (countRows recents favourites)).lookup system).getD 0 =
      (((Table.countOf recents fun key => key.systemId = system : Nat) : Int),
        ((Table.countOf favourites fun key => key.systemId = system : Nat) : Int)) := by
    rw [Table.getD_lookup_groupSum]
    unfold countRows Table.countOf
    rw [Table.group_append, List.sum_append, Table.group_pairs, Table.group_pairs, sum_toList,
      sum_toList, Table.getD_lookup_groupSum, Table.getD_lookup_groupSum, Table.sum_group_const,
      Table.sum_group_const]
    simp
  have hrow := Table.lookup_ofRows_map (Table.groupSum (countRows recents favourites))
    (fun counts : Int × Int => UserSystemCounts.mk counts.1 counts.2) system
  show ((backfillSystemCounts recents favourites).lookup system).getD ⟨0, 0⟩ = _
  unfold backfillSystemCounts
  rw [hrow]
  cases hlook : (Table.groupSum (countRows recents favourites)).lookup system with
  | none =>
      rw [hlook] at hsum
      exact congrArg (fun c : Int × Int => UserSystemCounts.mk c.1 c.2) hsum
  | some counts =>
      rw [hlook] at hsum
      exact congrArg (fun c : Int × Int => UserSystemCounts.mk c.1 c.2) hsum

theorem Recomputed.backfill (db : Database) (hord : Ordered db.playSessions) :
    Recomputed db ⟨backfillRecentGames db.playSessions,
      backfillSystemCounts (backfillRecentGames db.playSessions) db.favourites⟩ := by
  have hplayed : ∀ key, key ∈ backfillRecentGames db.playSessions ↔
      ∃ o ∈ db.playSessions, o.game.key = key := by
    intro key
    rw [← AList.lookup_isSome, Option.isSome_iff_exists]
    constructor
    · intro hrow
      obtain ⟨row, hrow⟩ := hrow
      obtain ⟨o, hl, -⟩ := (lookup_backfill hord).1 hrow
      exact ⟨o, hl.mem, hl.key_eq⟩
    · intro hk
      obtain ⟨o, hl⟩ := exists_latest hord hk
      exact ⟨_, (lookup_backfill hord).2 ⟨o, hl, rfl⟩⟩
  refine ⟨hplayed, fun key row hrow => (lookup_backfill hord).1 hrow, fun system => ?_⟩
  rw [countsOf_backfill, countOf_recent hplayed]
  rfl

/-! ## 5. Runs -/

end Database

/-- A write to the store, or the backfill when it is opened. -/
inductive StoreOp where
  | recordPlay (game : UserGameIdentity) (playedAt : Int)
  | setFavourite (game : UserGameIdentity) (favourite : Bool) (changedAt : Int)
  | ensureSummaries

namespace Database

def step (db : Database) : StoreOp → Database
  | .recordPlay game playedAt => db.recordPlay game playedAt
  | .setFavourite game favourite changedAt => db.setFavourite game favourite changedAt
  | .ensureSummaries => db.ensureSummaries

def run (db : Database) (ops : List StoreOp) : Database :=
  ops.foldl step db

/-- The invariant: ids are given in order, and the summaries, once there, are the recomputed
    ones. -/
structure Sound (db : Database) : Prop where
  ordered : Ordered db.playSessions
  recomputed : ∀ s, db.summaries = some s → Recomputed db s

theorem Sound.createSchema : Sound createSchema where
  ordered := List.Pairwise.nil
  recomputed := by
    intro s hs
    cases hs

theorem setFavourite_playSessions (db : Database) (game : UserGameIdentity) (favourite : Bool)
    (changedAt : Int) :
    (db.setFavourite game favourite changedAt).playSessions = db.playSessions := by
  unfold setFavourite
  split <;> rfl

theorem setFavourite_summaries_none {db : Database} (h : db.summaries = none)
    (game : UserGameIdentity) (favourite : Bool) (changedAt : Int) :
    (db.setFavourite game favourite changedAt).summaries = none := by
  unfold setFavourite
  split <;> simp [h]

theorem Sound.step {db : Database} (h : Sound db) (op : StoreOp) : Sound (db.step op) := by
  cases op with
  | recordPlay game playedAt =>
      refine ⟨h.ordered.cons game playedAt, fun s hs => ?_⟩
      obtain ⟨s₀, hs₀, rfl⟩ := Option.map_eq_some_iff.1 hs
      exact (h.recomputed s₀ hs₀).recordPlay h.ordered game playedAt
  | setFavourite game favourite changedAt =>
      have hord := setFavourite_playSessions db game favourite changedAt ▸ h.ordered
      refine ⟨hord, fun s hs => ?_⟩
      cases hsum : db.summaries with
      | none =>
          have hnone := setFavourite_summaries_none hsum game favourite changedAt
          exact absurd (hnone.symm.trans hs) (by simp)
      | some s₀ =>
          obtain ⟨s', hs', hrec⟩ :=
            (h.recomputed s₀ hsum).setFavourite hsum game favourite changedAt
          cases hs'.symm.trans hs
          exact hrec
  | ensureSummaries =>
      cases hsum : db.summaries with
      | none =>
          have hback := Recomputed.backfill db h.ordered
          have heq : db.step .ensureSummaries = { db with
              summaries := some (Summaries.mk (backfillRecentGames db.playSessions)
                (backfillSystemCounts (backfillRecentGames db.playSessions) db.favourites)) } := by
            show db.ensureSummaries = _
            unfold ensureSummaries
            rw [hsum]
          rw [heq]
          refine ⟨h.ordered, fun s hs => ?_⟩
          cases hs
          exact ⟨hback.played, hback.latest, hback.counts⟩
      | some s₀ =>
          have heq : db.step .ensureSummaries = db := by
            show db.ensureSummaries = _
            unfold ensureSummaries
            rw [hsum]
          rw [heq]
          exact h

theorem Sound.run {db : Database} (h : Sound db) (ops : List StoreOp) : Sound (db.run ops) := by
  induction ops generalizing db with
  | nil => exact h
  | cons op ops ih => exact ih (h.step op)

/-- Summaries stay once they are there. -/
theorem step_summaries {db : Database} (h : db.summaries.isSome) (op : StoreOp) :
    (db.step op).summaries.isSome := by
  cases op with
  | recordPlay game playedAt => simpa [step, Database.recordPlay] using h
  | setFavourite game favourite changedAt =>
      show (db.setFavourite game favourite changedAt).summaries.isSome
      unfold setFavourite
      split <;> simpa using h
  | ensureSummaries =>
      show db.ensureSummaries.summaries.isSome
      unfold ensureSummaries
      split
      · exact h
      · rfl

theorem run_summaries {db : Database} (h : db.summaries.isSome) (ops : List StoreOp) :
    (db.run ops).summaries.isSome := by
  induction ops generalizing db with
  | nil => exact h
  | cons op ops ih => exact ih (step_summaries h op)

theorem ensureSummaries_isSome (db : Database) : db.ensureSummaries.summaries.isSome := by
  unfold ensureSummaries
  split
  · rename_i hs
    rw [hs]
    rfl
  · rfl

/-- **Every sequence of plays and favourite changes, split at any point by the backfill, leaves
    summaries that a recomputation from the base tables gives.** -/
theorem summaries_recomputed (before after : List StoreOp) :
    ∃ s, (createSchema.run (before ++ .ensureSummaries :: after)).summaries = some s ∧
      Recomputed (createSchema.run (before ++ .ensureSummaries :: after)) s := by
  have hsome : (createSchema.run (before ++ .ensureSummaries :: after)).summaries.isSome := by
    unfold run
    rw [List.foldl_append, List.foldl_cons]
    exact run_summaries (ensureSummaries_isSome _) after
  obtain ⟨s, hs⟩ := Option.isSome_iff_exists.1 hsome
  exact ⟨s, hs, (Sound.createSchema.run _).recomputed s hs⟩

end Database

end MisterMagik.UserState
