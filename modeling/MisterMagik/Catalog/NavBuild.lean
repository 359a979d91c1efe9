/-
  File:      MisterMagik/Catalog/NavBuild.lean
  Subject:   What the navigation indexes say of the games (crates/catalog/src/system_shard.rs:
             `build_navigation_indexes`, `validate_navigation_index_bounds`).

  The loop over the games files each ordinal under its keys, in a rising order. Two tables are
  sorted by `sort_unstable_by` at the end: the titles by a key that no two games share, the launches
  by their references alone.

  * `indexGames_indexed` -- what the loop files, by induction on the games done;
  * `sortedIndexes_describes` -- the indexes describe the games, whatever the sort;
  * `navigation_indexes_iff` -- when they do not depend on it.
-/
import MisterMagik.Catalog.NavWriting
import Mathlib.Data.List.Dedup

namespace MisterMagik.Catalog

open MisterMagik.Base

/-! ## 1. The check of a loaded index -/

def validOrdinal (gameCount : Nat) (ordinal : UInt32) : Bool := ordinal.toNat < gameCount

def postingsValid {κ : Type} (gameCount : Nat) (postings : List (κ × List UInt32)) : Bool :=
  postings.all fun posting => posting.2.all (validOrdinal gameCount)

/-- The set of the titles is counted by its distinct members. -/
def validateNavigationIndexBounds (indexes : SystemNavigationIndexes) (gameCount : Nat) :
    Reads Unit :=
  if indexes.titleOrdinals.length ≠ gameCount ∨
      !indexes.titleOrdinals.all (validOrdinal gameCount) ∨
      indexes.titleOrdinals.dedup.length ≠ gameCount ∨
      !indexes.previewOrdinals.all (validOrdinal gameCount) ∨
      !indexes.launchOrdinals.all (validOrdinal gameCount) ∨
      !postingsValid gameCount indexes.categories ∨
      !postingsValid gameCount indexes.manufacturers ∨
      !postingsValid gameCount indexes.controls ∨
      !postingsValid gameCount indexes.decades ∨
      !postingsValid gameCount indexes.players then
    fail "persisted navigation index contains invalid ordinals"
  else .ok ()

/-! ## 2. What the indexes say -/

/-- `sort_unstable_by`: an order of the list in which no element comes before a lesser one. -/
def SortsUnstably (sort : {α : Type} → (α → α → Bool) → List α → List α) : Prop :=
  ∀ {α : Type} (before : α → α → Bool) (xs : List α),
    (∀ a b c, before a b = true → before b c = true → before a c = true) →
    (∀ a b, (before a b || before b a) = true) →
    (sort before xs).Perm xs ∧ (sort before xs).Pairwise fun a b => before a b = true

/-- The label a game is filed under, where it has one. -/
def labelKey (field : SystemGame → String) (game : SystemGame) : Option String :=
  if trim (field game) = "" then none else some (trim (field game))

def decadeKey (game : SystemGame) : Option UInt16 := game.year.map fun year => year / 10 * 10

/-- Posting lists: rising keys, rising ordinals, and each game under its key. -/
structure Posted {κ : Type} (lt : κ → κ → Bool) (keyOf : SystemGame → Option κ)
    (games : List SystemGame) (postings : List (κ × List UInt32)) : Prop where
  keys : RisingKeys lt postings
  rising : ∀ posting ∈ postings, posting.2.Pairwise (· < ·)
  holds : ∀ key ordinal, (∃ ordinals, (key, ordinals) ∈ postings ∧ ordinal ∈ ordinals) ↔
    ∃ game, games[ordinal.toNat]? = some game ∧ keyOf game = some key

/-- The ordinals of the games of a kind, rising. -/
structure Listed (kind : SystemGame → Bool) (games : List SystemGame) (ordinals : List UInt32) :
    Prop where
  rising : ordinals.Pairwise (· < ·)
  holds : ∀ ordinal, ordinal ∈ ordinals ↔
    ∃ game, games[ordinal.toNat]? = some game ∧ kind game = true

/-- The tables that are filed game by game and not sorted afterwards. -/
structure Filed (games : List SystemGame) (indexes : SystemNavigationIndexes) : Prop where
  previewOrdinals : Listed hasExactPreview games indexes.previewOrdinals
  categories : Posted strLt (labelKey (·.category)) games indexes.categories
  decades : Posted (fun a b => decide (a < b)) decadeKey games indexes.decades
  manufacturers : Posted strLt (labelKey (·.manufacturer)) games indexes.manufacturers
  players : Posted (fun a b => decide (a < b)) (·.players) games indexes.players
  controls : Posted strLt (labelKey (·.control)) games indexes.controls

/-- What the loop has filed. -/
structure Indexed (games : List SystemGame) (indexes : SystemNavigationIndexes) : Prop extends
    Filed games indexes where
  launchOrdinals : Listed (·.launchPlan.isSome) games indexes.launchOrdinals

/-- What the indexes say of the games. -/
structure Describes (games : List SystemGame) (indexes : SystemNavigationIndexes) : Prop extends
    Filed games indexes where
  titles : (indexes.titleOrdinals.map UInt32.toNat).Perm (List.range games.length)
  titlesSorted : (indexes.titleOrdinals.map UInt32.toNat).Pairwise fun a b =>
    titleBefore games a b = true
  launches : indexes.launchOrdinals.Nodup
  launchesHold : ∀ ordinal, ordinal ∈ indexes.launchOrdinals ↔
    ∃ game, games[ordinal.toNat]? = some game ∧ game.launchPlan.isSome = true
  launchesSorted : indexes.launchOrdinals.Pairwise fun a b => launchBefore games a b = true

/-- The launch references of the games that have a launch plan. -/
def launchRefs (games : List SystemGame) : List String :=
  (games.filter (·.launchPlan.isSome)).map (·.launchRef)

/-- One result whatever the sort, which says the right things of the games. -/
def BuildsIndexes (games : List SystemGame) : Prop :=
  ∃ indexes : SystemNavigationIndexes,
    (∀ sort : {α : Type} → (α → α → Bool) → List α → List α, SortsUnstably sort →
      buildNavigationIndexes sort games = .ok indexes) ∧
    Describes games indexes ∧
    validateNavigationIndexBounds indexes games.length = .ok ()

/-! ## 3. One ordinal filed -/

section Filed

variable {κ : Type} [DecidableEq κ] {lt : κ → κ → Bool} {keyOf : SystemGame → Option κ}
  {key : κ} {ordinal : UInt32} {postings : List (κ × List UInt32)} {games : List SystemGame}
  {game : SystemGame}

/-- A game is posted under its key, where it has one. -/
def postKey (lt : κ → κ → Bool) (key : Option κ) (ordinal : UInt32)
    (postings : List (κ × List UInt32)) : List (κ × List UInt32) :=
  match key with
  | some key => post lt key ordinal postings
  | none => postings

theorem mem_post_iff {k : κ} {x : UInt32} :
    (∃ ordinals, (k, ordinals) ∈ post lt key ordinal postings ∧ x ∈ ordinals) ↔
      (∃ ordinals, (k, ordinals) ∈ postings ∧ x ∈ ordinals) ∨ (k = key ∧ x = ordinal) := by
  induction postings with
  | nil => simp [post]
  | cons posting postings ih =>
      obtain ⟨k', ordinals'⟩ := posting
      rw [post]
      by_cases hkey : k' = key
      · subst hkey
        rw [if_pos rfl]
        simp only [List.mem_cons, Prod.mk.injEq, or_and_right, exists_or]
        constructor
        · rintro (⟨_, ⟨rfl, rfl⟩, hx⟩ | hrest)
          · rcases List.mem_append.1 hx with hx | hx
            · exact .inl (.inl ⟨_, ⟨rfl, rfl⟩, hx⟩)
            · exact .inr ⟨rfl, List.mem_singleton.1 hx⟩
          · exact .inl (.inr hrest)
        · rintro ((⟨_, ⟨rfl, rfl⟩, hx⟩ | hrest) | ⟨rfl, rfl⟩)
          · exact .inl ⟨_, ⟨rfl, rfl⟩, List.mem_append_left _ hx⟩
          · exact .inr hrest
          · exact .inl ⟨_, ⟨rfl, rfl⟩, List.mem_append_right _ (List.mem_singleton.2 rfl)⟩
      · rw [if_neg hkey]
        split
        · simp only [List.mem_cons, Prod.mk.injEq, or_and_right, exists_or]
          constructor
          · rintro (⟨_, ⟨rfl, rfl⟩, hx⟩ | hrest)
            · exact .inr ⟨rfl, List.mem_singleton.1 hx⟩
            · exact .inl hrest
          · rintro (hrest | ⟨rfl, rfl⟩)
            · exact .inr hrest
            · exact .inl ⟨_, ⟨rfl, rfl⟩, List.mem_singleton.2 rfl⟩
        · simp only [List.mem_cons, or_and_right, exists_or]
          rw [ih, or_assoc]

/-- An ordinal above all that are filed is filed last. -/
theorem post_ordinals (hbelow : ∀ posting ∈ postings, ∀ x ∈ posting.2, x < ordinal)
    (h : ∀ posting ∈ postings, posting.2.Pairwise (· < ·)) :
    ∀ posting ∈ post lt key ordinal postings, posting.2.Pairwise (· < ·) := by
  have hone : [ordinal].Pairwise (· < ·) := List.pairwise_singleton _ _
  induction postings with
  | nil =>
      intro posting hposting
      rw [List.mem_singleton.1 hposting]
      exact hone
  | cons first postings ih =>
      obtain ⟨k, ordinals⟩ := first
      intro posting hposting
      have hfirst := h (k, ordinals) List.mem_cons_self
      have hrest : ∀ posting ∈ postings, posting.2.Pairwise (· < ·) :=
        fun posting hp => h posting (List.mem_cons_of_mem _ hp)
      rw [post] at hposting
      split at hposting
      · rcases List.mem_cons.1 hposting with rfl | hposting
        · refine List.pairwise_append.2 ⟨hfirst, hone, fun x hx y hy => ?_⟩
          rw [List.mem_singleton.1 hy]
          exact hbelow (k, ordinals) List.mem_cons_self x hx
        · exact hrest posting hposting
      split at hposting
      · rcases List.mem_cons.1 hposting with rfl | hposting
        · exact hone
        · exact h posting hposting
      · rcases List.mem_cons.1 hposting with rfl | hposting
        · exact hfirst
        · exact ih (fun posting hp => hbelow posting (List.mem_cons_of_mem _ hp)) hrest posting
            hposting

/-- The ordinal of the next game is above those of the games before it. -/
theorem lt_next {x : UInt32} (hsize : games.length < 2 ^ 32) (h : x.toNat < games.length) :
    x < UInt32.ofNat games.length := by
  rw [UInt32.lt_iff_toNat_lt, UInt32.toNat_ofNat_of_lt' hsize]
  exact h

theorem lt_of_getElem? {i : Nat} (h : games[i]? = some game) : i < games.length :=
  (List.getElem?_eq_some_iff.1 h).1

/-- The games one further on: those before, and the next. -/
theorem getElem?_next {x : UInt32} (hsize : games.length < 2 ^ 32) {p : SystemGame → Prop} :
    (∃ game', (games ++ [game])[x.toNat]? = some game' ∧ p game') ↔
      (∃ game', games[x.toNat]? = some game' ∧ p game') ∨
        (p game ∧ x = UInt32.ofNat games.length) := by
  rcases Nat.lt_trichotomy x.toNat games.length with hlt | heq | hgt
  · rw [List.getElem?_append_left hlt]
    constructor
    · exact .inl
    · rintro (h | ⟨-, rfl⟩)
      · exact h
      · rw [UInt32.toNat_ofNat_of_lt' hsize] at hlt
        exact absurd hlt (Nat.lt_irrefl _)
  · have hx : x = UInt32.ofNat games.length := by
      rw [← heq, UInt32.ofNat_toNat]
    rw [heq, List.getElem?_concat_length, List.getElem?_eq_none (Nat.le_refl _)]
    constructor
    · rintro ⟨game', hgame, hp⟩
      cases hgame
      exact .inr ⟨hp, hx⟩
    · rintro (⟨game', hgame, -⟩ | ⟨hp, -⟩)
      · cases hgame
      · exact ⟨game, rfl, hp⟩
  · rw [List.getElem?_eq_none (Nat.le_of_lt hgt),
      List.getElem?_eq_none (by rw [List.length_append]; exact hgt)]
    constructor
    · rintro ⟨game', hgame, -⟩
      cases hgame
    · rintro (⟨game', hgame, -⟩ | ⟨-, rfl⟩)
      · cases hgame
      · rw [UInt32.toNat_ofNat_of_lt' hsize] at hgt
        exact absurd hgt (Nat.lt_irrefl _)

/-- **The next game is posted under its key.** -/
theorem Posted.next (h : Posted lt keyOf games postings) (game : SystemGame)
    (hsize : games.length < 2 ^ 32)
    (htrans : ∀ a b c, lt a b → lt b c → lt a c)
    (htotal : ∀ a b, lt a b = false → b ≠ a → lt b a = true) :
    Posted lt keyOf (games ++ [game])
      (postKey lt (keyOf game) (UInt32.ofNat games.length) postings) := by
  have hbelow : ∀ posting ∈ postings, ∀ x ∈ posting.2, x < UInt32.ofNat games.length := by
    intro posting hposting x hx
    obtain ⟨game', hgame, -⟩ := (h.holds posting.1 x).1 ⟨posting.2, hposting, hx⟩
    exact lt_next hsize (lt_of_getElem? hgame)
  cases hkey : keyOf game with
  | none =>
      refine ⟨h.keys, h.rising, fun key x => ?_⟩
      rw [postKey, h.holds, getElem?_next hsize]
      constructor
      · exact .inl
      · rintro (hold | ⟨hnew, -⟩)
        · exact hold
        · rw [hkey] at hnew
          cases hnew
  | some key =>
      refine ⟨post_rising htrans htotal h.keys, post_ordinals hbelow h.rising, fun key' x => ?_⟩
      rw [postKey, mem_post_iff, h.holds, getElem?_next hsize, hkey, Option.some.injEq]
      exact or_congr_right (and_congr_left fun _ => eq_comm)

theorem Listed.nodup {kind : SystemGame → Bool} {ordinals : List UInt32}
    (h : Listed kind games ordinals) : ordinals.Nodup :=
  h.rising.imp fun hlt => UInt32.ne_of_lt hlt

theorem Listed.next {kind : SystemGame → Bool} {ordinals : List UInt32}
    (h : Listed kind games ordinals) (game : SystemGame) (hsize : games.length < 2 ^ 32) :
    Listed kind (games ++ [game])
      (if kind game = true then ordinals ++ [UInt32.ofNat games.length] else ordinals) := by
  by_cases hkind : kind game = true
  · rw [if_pos hkind]
    refine ⟨List.pairwise_append.2 ⟨h.rising, List.pairwise_singleton _ _, fun x hx y hy => ?_⟩,
      fun x => ?_⟩
    · obtain ⟨game', hgame, -⟩ := (h.holds x).1 hx
      rw [List.mem_singleton.1 hy]
      exact lt_next hsize (lt_of_getElem? hgame)
    · rw [List.mem_append, List.mem_singleton, h.holds, getElem?_next hsize]
      exact or_congr_right ⟨fun hx => ⟨hkind, hx⟩, fun hx => hx.2⟩
  · rw [if_neg hkind]
    refine ⟨h.rising, fun x => ?_⟩
    rw [h.holds, getElem?_next hsize]
    exact ⟨.inl, fun hx => hx.resolve_right fun hnew => hkind hnew.1⟩

end Filed

/-! ## 4. The loop -/

section Loop

variable {games before : List SystemGame} {game : SystemGame}
  {indexes indexes' : SystemNavigationIndexes} {ordinal : UInt32}

theorem postLabel_eq (field : SystemGame → String) (postings : List (String × List UInt32)) :
    postLabel (field game) ordinal postings =
      postKey strLt (labelKey field game) ordinal postings := by
  unfold postLabel labelKey
  split
  · rfl
  · rfl

theorem strLt_connected (a b : String) (hab : strLt a b = false) (hne : b ≠ a) :
    strLt b a = true := by
  by_contra hba
  exact hne (strLt_total (Bool.eq_false_iff.2 hba) hab)

theorem decade_trans {a b c : UInt16} (hab : decide (a < b) = true) (hbc : decide (b < c) = true) :
    decide (a < c) = true :=
  decide_eq_true (UInt16.lt_trans (of_decide_eq_true hab) (of_decide_eq_true hbc))

theorem decade_connected (a b : UInt16) (hab : decide (a < b) = false) (hne : b ≠ a) :
    decide (b < a) = true :=
  decide_eq_true (UInt16.lt_of_le_of_ne (UInt16.not_lt.1 (of_decide_eq_false hab)) hne)

theorem count_trans {a b c : UInt8} (hab : decide (a < b) = true) (hbc : decide (b < c) = true) :
    decide (a < c) = true :=
  decide_eq_true (UInt8.lt_trans (of_decide_eq_true hab) (of_decide_eq_true hbc))

theorem count_connected (a b : UInt8) (hab : decide (a < b) = false) (hne : b ≠ a) :
    decide (b < a) = true :=
  decide_eq_true (UInt8.lt_of_le_of_ne (UInt8.not_lt.1 (of_decide_eq_false hab)) hne)

/-- **One game.** -/
theorem Indexed.next (h : Indexed games indexes) (game : SystemGame)
    (hsize : games.length < 2 ^ 32) :
    Indexed (games ++ [game]) (indexGame indexes (UInt32.ofNat games.length) game) where
  previewOrdinals := h.previewOrdinals.next game hsize
  launchOrdinals := h.launchOrdinals.next game hsize
  categories := by
    simp only [indexGame, postLabel_eq (·.category)]
    exact h.categories.next game hsize (fun _ _ _ => strLt_trans) strLt_connected
  decades := by
    have hnext := h.decades.next game hsize (fun _ _ _ => decade_trans) decade_connected
    have hposted : postKey (fun a b => decide (a < b)) (decadeKey game)
        (UInt32.ofNat games.length) indexes.decades =
          (indexGame indexes (UInt32.ofNat games.length) game).decades := by
      unfold decadeKey indexGame
      cases game.year with
      | none => rfl
      | some year => rfl
    rw [hposted] at hnext
    exact hnext
  manufacturers := by
    simp only [indexGame, postLabel_eq (·.manufacturer)]
    exact h.manufacturers.next game hsize (fun _ _ _ => strLt_trans) strLt_connected
  players := by
    have hnext := h.players.next game hsize (fun _ _ _ => count_trans) count_connected
    have hposted : postKey (fun a b => decide (a < b)) game.players (UInt32.ofNat games.length)
        indexes.players = (indexGame indexes (UInt32.ofNat games.length) game).players := by
      unfold indexGame
      cases game.players with
      | none => rfl
      | some count => rfl
    rw [hposted] at hnext
    exact hnext
  controls := by
    simp only [indexGame, postLabel_eq (·.control)]
    exact h.controls.next game hsize (fun _ _ _ => strLt_trans) strLt_connected

theorem indexed_nil : Indexed [] ⟨[], [], [], [], [], [], [], []⟩ := by
  have hnone : ∀ {p : SystemGame → Prop} {x : UInt32},
      ¬ ∃ game, ([] : List SystemGame)[x.toNat]? = some game ∧ p game := by
    rintro p x ⟨game, h, -⟩
    cases h
  have hlisted : ∀ {kind : SystemGame → Bool}, Listed kind [] [] :=
    ⟨.nil, fun x => ⟨fun h => absurd h List.not_mem_nil, fun h => absurd h hnone⟩⟩
  have hposted : ∀ {κ : Type} {lt : κ → κ → Bool} {keyOf : SystemGame → Option κ},
      Posted lt keyOf [] [] :=
    ⟨.nil, fun _ h => absurd h List.not_mem_nil,
      fun key x => ⟨fun ⟨_, h, _⟩ => absurd h List.not_mem_nil, fun h => absurd h hnone⟩⟩
  exact ⟨⟨hlisted, hposted, hposted, hposted, hposted, hposted⟩, hlisted⟩

theorem toOrdinal_ok {i : Nat} :
    toOrdinal i = .ok ordinal ↔ i < 2 ^ 32 ∧ ordinal = UInt32.ofNat i := by
  unfold toOrdinal
  rw [reads_bind_ok]
  constructor
  · rintro ⟨⟨⟩, hcheck, h⟩
    cases h
    exact ⟨of_decide_eq_true (check_ok.1 hcheck), rfl⟩
  · rintro ⟨hi, rfl⟩
    exact ⟨(), check_ok.2 (decide_eq_true hi), rfl⟩

/-- **The loop files every game, while ordinals last.** -/
theorem indexGames_indexed (games : List SystemGame) (h : Indexed before indexes)
    (hsize : before.length + games.length ≤ 2 ^ 32) :
    ∃ indexes', indexGames before.length games indexes = .ok indexes' ∧
      Indexed (before ++ games) indexes' ∧ indexes'.titleOrdinals = indexes.titleOrdinals := by
  induction games generalizing before indexes with
  | nil => exact ⟨indexes, rfl, by rw [List.append_nil]; exact h, rfl⟩
  | cons game games ih =>
      rw [List.length_cons] at hsize
      have hnext := h.next game (by omega)
      have hlength : (before ++ [game]).length = before.length + 1 := List.length_append
      obtain ⟨indexes', hok, hindexed, htitles⟩ := ih hnext (by omega)
      rw [hlength] at hok
      rw [List.append_assoc, List.singleton_append] at hindexed
      refine ⟨indexes', ?_, hindexed, htitles⟩
      exact reads_bind_ok.2 ⟨_, toOrdinal_ok.2 ⟨by omega, rfl⟩, hok⟩

theorem toOrdinals_of_lt {ordinals : List Nat} (h : ∀ i ∈ ordinals, i < 2 ^ 32) :
    toOrdinals ordinals = .ok (ordinals.map UInt32.ofNat) := by
  induction ordinals with
  | nil => rfl
  | cons i ordinals ih =>
      refine reads_bind_ok.2 ⟨_, toOrdinal_ok.2 ⟨h i List.mem_cons_self, rfl⟩, ?_⟩
      exact reads_bind_ok.2 ⟨_, ih fun i hi => h i (List.mem_cons_of_mem _ hi), rfl⟩

theorem lt_of_toOrdinals {ordinals : List Nat} {out : List UInt32}
    (h : toOrdinals ordinals = .ok out) : ∀ i ∈ ordinals, i < 2 ^ 32 := by
  induction ordinals generalizing out with
  | nil => exact fun i hi => absurd hi List.not_mem_nil
  | cons i ordinals ih =>
      obtain ⟨ordinal, hordinal, h⟩ := reads_bind_ok.1 h
      obtain ⟨rest, hrest, -⟩ := reads_bind_ok.1 h
      intro j hj
      rcases List.mem_cons.1 hj with rfl | hj
      · exact (toOrdinal_ok.1 hordinal).1
      · exact ih hrest j hj

end Loop

/-! ## 5. The two orders -/

section Orders

variable {games : List SystemGame} {a b c : Nat}

theorem strLt_irrefl (a : String) : strLt a a = false := decide_eq_false (List.lt_irrefl _)

theorem strLt_asymm {a b : String} (h : strLt a b = true) : strLt b a = false := by
  cases hba : strLt b a with
  | false => rfl
  | true =>
      have hself := strLt_trans h hba
      rw [strLt_irrefl] at hself
      cases hself

/-- `le` on texts. -/
theorem strLe_trans {a b c : String} (hab : strLt b a = false) (hbc : strLt c b = false) :
    strLt c a = false := by
  cases hca : strLt c a with
  | false => rfl
  | true =>
      -- `c < a` and not `b < a` give `c < b`, which is excluded
      cases hba : strLt a b with
      | true =>
          rw [strLt_trans hca hba] at hbc
          cases hbc
      | false =>
          obtain rfl := strLt_total hab hba
          rw [hca] at hbc
          cases hbc

theorem titleBefore_iff : titleBefore games a b = true ↔
    strLt (titleKey games a).1 (titleKey games b).1 = true ∨
      (titleKey games a).1 = (titleKey games b).1 ∧
        strLt (titleKey games b).2 (titleKey games a).2 = false := by
  unfold titleBefore
  simp only [Bool.or_eq_true, Bool.and_eq_true, decide_eq_true_eq, Bool.not_eq_true']

theorem titleBefore_trans (hab : titleBefore games a b = true)
    (hbc : titleBefore games b c = true) :
    titleBefore games a c = true := by
  rw [titleBefore_iff] at *
  rcases hab with hab | ⟨hab, hkey⟩
  · rcases hbc with hbc | ⟨hbc, -⟩
    · exact .inl (strLt_trans hab hbc)
    · exact .inl (hbc ▸ hab)
  · rcases hbc with hbc | ⟨hbc, hkey'⟩
    · exact .inl (hab ▸ hbc)
    · exact .inr ⟨hab.trans hbc, strLe_trans hkey hkey'⟩

theorem titleBefore_total (games : List SystemGame) (a b : Nat) :
    (titleBefore games a b || titleBefore games b a) = true := by
  rw [Bool.or_eq_true, titleBefore_iff, titleBefore_iff]
  cases hab : strLt (titleKey games a).1 (titleKey games b).1 with
  | true => exact .inl (.inl rfl)
  | false =>
      cases hba : strLt (titleKey games b).1 (titleKey games a).1 with
      | true => exact .inr (.inl rfl)
      | false =>
          have htitle := strLt_total hab hba
          cases hkey : strLt (titleKey games b).2 (titleKey games a).2 with
          | false => exact .inl (.inr ⟨htitle, rfl⟩)
          | true => exact .inr (.inr ⟨htitle.symm, strLt_asymm hkey⟩)

/-- Games that no sort can tell apart have one stable key. -/
theorem titleBefore_antisymm (hab : titleBefore games a b = true)
    (hba : titleBefore games b a = true) : (titleKey games a).2 = (titleKey games b).2 := by
  rw [titleBefore_iff] at hab hba
  rcases hab with hab | ⟨htitle, hkey⟩
  · rcases hba with hba | ⟨hba, -⟩
    · rw [strLt_asymm hab] at hba
      cases hba
    · rw [hba, strLt_irrefl] at hab
      cases hab
  · rcases hba with hba | ⟨-, hkey'⟩
    · rw [htitle, strLt_irrefl] at hba
      cases hba
    · exact strLt_total hkey' hkey

theorem launchBefore_trans {a b c : UInt32} (hab : launchBefore games a b = true)
    (hbc : launchBefore games b c = true) : launchBefore games a c = true := by
  unfold launchBefore at *
  rw [Bool.not_eq_true'] at *
  exact strLe_trans hab hbc

theorem launchBefore_total (games : List SystemGame) (a b : UInt32) :
    (launchBefore games a b || launchBefore games b a) = true := by
  unfold launchBefore
  cases hab : strLt (launchRefOf games b) (launchRefOf games a) with
  | false => rfl
  | true =>
      rw [strLt_asymm hab]
      rfl

theorem launchBefore_antisymm {a b : UInt32} (hab : launchBefore games a b = true)
    (hba : launchBefore games b a = true) : launchRefOf games a = launchRefOf games b := by
  unfold launchBefore at *
  rw [Bool.not_eq_true'] at *
  exact strLt_total hba hab

end Orders

/-! ## 6. What is built -/

section Build

variable {games : List SystemGame} {indexes filed : SystemNavigationIndexes}
  {sort sort' : {α : Type} → (α → α → Bool) → List α → List α}

/-- The indexes, for what the loop filed and the order of two tables. -/
def sortedIndexes (sort : {α : Type} → (α → α → Bool) → List α → List α) (games : List SystemGame)
    (filed : SystemNavigationIndexes) : SystemNavigationIndexes :=
  { filed with
    titleOrdinals := (sort (titleBefore games) (List.range games.length)).map UInt32.ofNat
    launchOrdinals := sort (launchBefore games) filed.launchOrdinals }

theorem titles_sorted (hsort : SortsUnstably sort) (games : List SystemGame) :
    (sort (titleBefore games) (List.range games.length)).Perm (List.range games.length) ∧
      (sort (titleBefore games) (List.range games.length)).Pairwise fun a b =>
        titleBefore games a b = true :=
  hsort _ _ (fun _ _ _ => titleBefore_trans) (titleBefore_total games)

theorem launches_sorted (hsort : SortsUnstably sort) (games : List SystemGame)
    (ordinals : List UInt32) :
    (sort (launchBefore games) ordinals).Perm ordinals ∧
      (sort (launchBefore games) ordinals).Pairwise fun a b => launchBefore games a b = true :=
  hsort _ _ (fun _ _ _ => launchBefore_trans) (launchBefore_total games)

/-- The loop is the same for every sort. -/
theorem build_filed (hsize : games.length ≤ 2 ^ 32) :
    ∃ filed, Indexed games filed ∧
      ∀ sort : {α : Type} → (α → α → Bool) → List α → List α, SortsUnstably sort →
        buildNavigationIndexes sort games = .ok (sortedIndexes sort games filed) := by
  obtain ⟨filed, hfiled, hindexed, -⟩ := indexGames_indexed games indexed_nil
    (by rw [List.length_nil]; omega)
  refine ⟨filed, hindexed, fun sort hsort => ?_⟩
  have hlt : ∀ i ∈ sort (titleBefore games) (List.range games.length), i < 2 ^ 32 := by
    intro i hi
    have hmem := List.mem_range.1 ((titles_sorted hsort games).1.mem_iff.1 hi)
    omega
  exact reads_bind_ok.2 ⟨filed, hfiled, reads_bind_ok.2 ⟨_, toOrdinals_of_lt hlt, rfl⟩⟩

/-- More games than ordinals are refused. -/
theorem size_of_build (hsort : SortsUnstably sort)
    (h : buildNavigationIndexes sort games = .ok indexes) : games.length ≤ 2 ^ 32 := by
  obtain ⟨filed, -, h⟩ := reads_bind_ok.1 h
  obtain ⟨titles, htitles, -⟩ := reads_bind_ok.1 h
  by_contra hlong
  have hmem : 2 ^ 32 ∈ sort (titleBefore games) (List.range games.length) :=
    (titles_sorted hsort games).1.mem_iff.2 (List.mem_range.2 (by omega))
  exact Nat.lt_irrefl _ (lt_of_toOrdinals htitles _ hmem)

/-- **What is built describes the games, whatever the sort.** -/
theorem sortedIndexes_describes (hsort : SortsUnstably sort) (hsize : games.length ≤ 2 ^ 32)
    (h : Indexed games filed) : Describes games (sortedIndexes sort games filed) := by
  obtain ⟨htitles, hsorted⟩ := titles_sorted hsort games
  obtain ⟨hlaunches, hlaunchesSorted⟩ := launches_sorted hsort games filed.launchOrdinals
  have hback : ((sortedIndexes sort games filed).titleOrdinals.map UInt32.toNat) =
      sort (titleBefore games) (List.range games.length) := by
    unfold sortedIndexes
    rw [List.map_map]
    refine (List.map_congr_left fun i hi => ?_).trans (List.map_id _)
    have hmem := List.mem_range.1 (htitles.mem_iff.1 hi)
    exact UInt32.toNat_ofNat_of_lt' (Nat.lt_of_lt_of_le hmem hsize)
  have hnodup := h.launchOrdinals.nodup
  refine ⟨⟨h.previewOrdinals, h.categories, h.decades, h.manufacturers, h.players, h.controls⟩,
    ?_, ?_, ?_, ?_, hlaunchesSorted⟩
  · rw [hback]
    exact htitles
  · rw [hback]
    exact hsorted
  · exact hlaunches.nodup_iff.2 hnodup
  · exact fun ordinal => hlaunches.mem_iff.trans (h.launchOrdinals.holds ordinal)

theorem validOrdinals_of {ordinals : List UInt32} {p : SystemGame → Prop}
    (h : ∀ ordinal ∈ ordinals, ∃ game, games[ordinal.toNat]? = some game ∧ p game) :
    ordinals.all (validOrdinal games.length) = true := by
  refine List.all_eq_true.2 fun ordinal hordinal => ?_
  obtain ⟨game, hgame, -⟩ := h ordinal hordinal
  exact decide_eq_true (lt_of_getElem? hgame)

theorem Posted.valid {κ : Type} {lt : κ → κ → Bool} {keyOf : SystemGame → Option κ}
    {postings : List (κ × List UInt32)} (h : Posted lt keyOf games postings) :
    postingsValid games.length postings = true := by
  refine List.all_eq_true.2 fun posting hposting => ?_
  exact validOrdinals_of fun ordinal hordinal =>
    (h.holds posting.1 ordinal).1 ⟨posting.2, hposting, hordinal⟩

/-- **Indexes that describe the games pass the check.** -/
theorem Describes.valid (h : Describes games indexes) :
    validateNavigationIndexBounds indexes games.length = .ok () := by
  have hlength : indexes.titleOrdinals.length = games.length := by
    have hlen := h.titles.length_eq
    rw [List.length_map, List.length_range] at hlen
    exact hlen
  have hvalid : indexes.titleOrdinals.all (validOrdinal games.length) = true := by
    refine List.all_eq_true.2 fun ordinal hordinal => decide_eq_true ?_
    exact List.mem_range.1 (h.titles.mem_iff.1 (List.mem_map_of_mem hordinal))
  have hdistinct : indexes.titleOrdinals.dedup.length = games.length := by
    have hnodup := h.titles.nodup_iff.2 List.nodup_range
    rw [(List.Nodup.of_map _ hnodup).dedup, hlength]
  have hpreviews := validOrdinals_of fun ordinal hordinal =>
    (h.previewOrdinals.holds ordinal).1 hordinal
  have hlaunches := validOrdinals_of fun ordinal hordinal => (h.launchesHold ordinal).1 hordinal
  unfold validateNavigationIndexBounds
  rw [hlength, hvalid, hdistinct, hpreviews, hlaunches, h.categories.valid, h.manufacturers.valid,
    h.controls.valid, h.decades.valid, h.players.valid]
  exact if_neg (by simp)

/-! ## 7. When the sort does not matter -/

theorem titleKey_of_lt {i : Nat} (h : i < games.length) :
    (games.map (·.stableKey))[i]? = some (titleKey games i).2 := by
  unfold titleKey
  rw [List.getElem?_map, List.getElem?_eq_getElem h, Option.map_some]

/-- No two games have one title key, so that their order is one. -/
theorem titles_unique (hkeys : (games.map (·.stableKey)).Nodup) (hsort : SortsUnstably sort)
    (hsort' : SortsUnstably sort') :
    sort (titleBefore games) (List.range games.length) =
      sort' (titleBefore games) (List.range games.length) := by
  obtain ⟨hperm, hsorted⟩ := titles_sorted hsort games
  obtain ⟨hperm', hsorted'⟩ := titles_sorted hsort' games
  refine List.Perm.eq_of_pairwise (fun a b ha hb hab hba => ?_) hsorted hsorted'
    (hperm.trans hperm'.symm)
  have halt := List.mem_range.1 (hperm.mem_iff.1 ha)
  have hblt := List.mem_range.1 (hperm'.mem_iff.1 hb)
  have hkey : (games.map (·.stableKey))[a]? = (games.map (·.stableKey))[b]? := by
    rw [titleKey_of_lt halt, titleKey_of_lt hblt, titleBefore_antisymm hab hba]
  exact (List.getElem?_inj (by rw [List.length_map]; exact halt) hkeys).1 hkey

/-- Two games with a launch plan that share a launch reference. -/
def Tied (games : List SystemGame) (i j : Nat) : Prop :=
  ∃ a b, games[i]? = some a ∧ games[j]? = some b ∧ a.launchPlan.isSome = true ∧
    b.launchPlan.isSome = true ∧ a.launchRef = b.launchRef

theorem launchRefs_nodup_iff : (launchRefs games).Nodup ↔ ∀ i j, i < j → ¬ Tied games i j := by
  unfold launchRefs
  rw [List.Nodup, List.pairwise_map, List.pairwise_filter, List.pairwise_iff_getElem]
  constructor
  · rintro h i j hij ⟨a, b, ha, hb, hplan, hplan', href⟩
    obtain ⟨hi, rfl⟩ := List.getElem?_eq_some_iff.1 ha
    obtain ⟨hj, rfl⟩ := List.getElem?_eq_some_iff.1 hb
    exact h i j hi hj hij hplan hplan' href
  · intro h i j hi hj hij hplan hplan' href
    exact h i j hij ⟨games[i], games[j], List.getElem?_eq_getElem hi, List.getElem?_eq_getElem hj,
      hplan, hplan', href⟩

theorem launches_unique (hrefs : (launchRefs games).Nodup) (h : Indexed games filed)
    (hsort : SortsUnstably sort) (hsort' : SortsUnstably sort') :
    sort (launchBefore games) filed.launchOrdinals =
      sort' (launchBefore games) filed.launchOrdinals := by
  obtain ⟨hperm, hsorted⟩ := launches_sorted hsort games filed.launchOrdinals
  obtain ⟨hperm', hsorted'⟩ := launches_sorted hsort' games filed.launchOrdinals
  refine List.Perm.eq_of_pairwise (fun a b ha hb hab hba => ?_) hsorted hsorted'
    (hperm.trans hperm'.symm)
  obtain ⟨game, hgame, hplan⟩ := (h.launchOrdinals.holds a).1 (hperm.mem_iff.1 ha)
  obtain ⟨game', hgame', hplan'⟩ := (h.launchOrdinals.holds b).1 (hperm'.mem_iff.1 hb)
  have href := launchBefore_antisymm hab hba
  unfold launchRefOf at href
  rw [hgame, hgame'] at href
  rcases Nat.lt_trichotomy a.toNat b.toNat with hlt | heq | hgt
  · exact absurd ⟨game, game', hgame, hgame', hplan, hplan', href⟩
      (launchRefs_nodup_iff.1 hrefs _ _ hlt)
  · exact UInt32.toNat_inj.1 heq
  · exact absurd ⟨game', game, hgame', hgame, hplan', hplan, href.symm⟩
      (launchRefs_nodup_iff.1 hrefs _ _ hgt)

/-- `sort_unstable_by` may keep ties in order. -/
def keepingSort {α : Type} (before : α → α → Bool) (xs : List α) : List α := xs.mergeSort before

/-- It may as well turn them around. -/
def turningSort {α : Type} (before : α → α → Bool) (xs : List α) : List α :=
  xs.reverse.mergeSort before

theorem keepingSort_sorts : SortsUnstably keepingSort := fun before xs htrans htotal =>
  ⟨List.mergeSort_perm xs before, List.pairwise_mergeSort htrans htotal xs⟩

theorem turningSort_sorts : SortsUnstably turningSort := fun before xs htrans htotal =>
  ⟨(List.mergeSort_perm xs.reverse before).trans (List.reverse_perm xs),
    List.pairwise_mergeSort htrans htotal xs.reverse⟩

theorem pair_of_rising {ordinals : List UInt32} {x y : UInt32} (h : ordinals.Pairwise (· < ·))
    (hx : x ∈ ordinals) (hy : y ∈ ordinals) (hxy : x < y) : [x, y].Sublist ordinals := by
  induction ordinals with
  | nil => cases hx
  | cons first ordinals ih =>
      obtain ⟨hfirst, hrest⟩ := List.pairwise_cons.1 h
      rcases List.mem_cons.1 hx with rfl | hx'
      · rcases List.mem_cons.1 hy with rfl | hy'
        · exact absurd hxy (UInt32.lt_irrefl _)
        · exact (List.singleton_sublist.2 hy').cons_cons _
      · rcases List.mem_cons.1 hy with rfl | hy'
        · exact absurd (UInt32.lt_trans hxy (hfirst x hx')) (UInt32.lt_irrefl _)
        · exact (ih hrest hx' hy').cons _

/-- Two elements stand in one order only. -/
theorem not_both_pairs {α : Type} {xs : List α} {x y : α} (hnodup : xs.Nodup)
    (h : [x, y].Sublist xs) (h' : [y, x].Sublist xs) : False := by
  induction xs with
  | nil => cases h
  | cons first xs ih =>
      obtain ⟨hfirst, hrest⟩ := List.nodup_cons.1 hnodup
      cases h with
      | cons _ h =>
          cases h' with
          | cons _ h' => exact ih hrest h h'
          | cons_cons _ h' => exact hfirst (h.subset (List.mem_cons_of_mem _ List.mem_cons_self))
      | cons_cons _ h =>
          cases h' with
          | cons _ h' => exact hfirst (h'.subset (List.mem_cons_of_mem _ List.mem_cons_self))
          | cons_cons _ h' => exact hfirst (h'.subset List.mem_cons_self)

/-- **A tie of the launch references is settled by the sort.** -/
theorem launches_tied {i j : Nat} (hsize : games.length ≤ 2 ^ 32) (h : Indexed games filed)
    (hij : i < j) (htied : Tied games i j) :
    keepingSort (launchBefore games) filed.launchOrdinals ≠
      turningSort (launchBefore games) filed.launchOrdinals := by
  intro heq
  obtain ⟨a, b, ha, hb, hplan, hplan', href⟩ := htied
  have hi : i < 2 ^ 32 := Nat.lt_of_lt_of_le (lt_of_getElem? ha) hsize
  have hj : j < 2 ^ 32 := Nat.lt_of_lt_of_le (lt_of_getElem? hb) hsize
  have hx : (UInt32.ofNat i).toNat = i := UInt32.toNat_ofNat_of_lt' hi
  have hy : (UInt32.ofNat j).toNat = j := UInt32.toNat_ofNat_of_lt' hj
  have hfirst : UInt32.ofNat i ∈ filed.launchOrdinals :=
    (h.launchOrdinals.holds _).2 ⟨a, by rw [hx]; exact ha, hplan⟩
  have hsecond : UInt32.ofNat j ∈ filed.launchOrdinals :=
    (h.launchOrdinals.holds _).2 ⟨b, by rw [hy]; exact hb, hplan'⟩
  have hlt : UInt32.ofNat i < UInt32.ofNat j := by
    rw [UInt32.lt_iff_toNat_lt, hx, hy]
    exact hij
  have hrefs : launchRefOf games (UInt32.ofNat i) = launchRefOf games (UInt32.ofNat j) := by
    unfold launchRefOf
    rw [hx, hy, ha, hb]
    exact href
  have hpair := pair_of_rising h.launchOrdinals.rising hfirst hsecond hlt
  have htrans : ∀ a b c, launchBefore games a b = true → launchBefore games b c = true →
      launchBefore games a c = true := fun _ _ _ => launchBefore_trans
  have hle : launchBefore games (UInt32.ofNat i) (UInt32.ofNat j) = true := by
    unfold launchBefore
    rw [hrefs, strLt_irrefl]
    rfl
  have hge : launchBefore games (UInt32.ofNat j) (UInt32.ofNat i) = true := by
    unfold launchBefore
    rw [hrefs, strLt_irrefl]
    rfl
  -- a stable sort keeps the pair as it stands in the list, or in the list turned around
  have hkept : [UInt32.ofNat i, UInt32.ofNat j].Sublist
      (keepingSort (launchBefore games) filed.launchOrdinals) :=
    List.pair_sublist_mergeSort htrans (launchBefore_total games) hle hpair
  have hturned : [UInt32.ofNat j, UInt32.ofNat i].Sublist
      (turningSort (launchBefore games) filed.launchOrdinals) :=
    List.pair_sublist_mergeSort htrans (launchBefore_total games) hge hpair.reverse
  rw [← heq] at hturned
  have hperm := (launches_sorted keepingSort_sorts games filed.launchOrdinals).1
  exact not_both_pairs (hperm.nodup_iff.2 h.launchOrdinals.nodup) hkept hturned

/-- Two sorts, two results. -/
theorem build_tied {i j : Nat} (hsize : games.length ≤ 2 ^ 32) (hij : i < j)
    (htied : Tied games i j) :
    buildNavigationIndexes keepingSort games ≠ buildNavigationIndexes turningSort games := by
  obtain ⟨filed, hindexed, hbuild⟩ := build_filed hsize
  rw [hbuild _ keepingSort_sorts, hbuild _ turningSort_sorts]
  intro heq
  exact launches_tied hsize hindexed hij htied
    (congrArg SystemNavigationIndexes.launchOrdinals (Except.ok.inj heq))

/-- **The indexes describe the games, pass the check, and do not depend on the sort: exactly when
    the ordinals last and no two games with a launch plan share a launch reference.** -/
theorem navigation_indexes_iff (hkeys : (games.map (·.stableKey)).Nodup) :
    BuildsIndexes games ↔ games.length ≤ 2 ^ 32 ∧ (launchRefs games).Nodup := by
  constructor
  · rintro ⟨indexes, hbuild, -, -⟩
    have hsize := size_of_build keepingSort_sorts (hbuild _ keepingSort_sorts)
    refine ⟨hsize, launchRefs_nodup_iff.2 fun i j hij htied => build_tied hsize hij htied ?_⟩
    rw [hbuild _ keepingSort_sorts, hbuild _ turningSort_sorts]
  · rintro ⟨hsize, hrefs⟩
    obtain ⟨filed, hindexed, hbuild⟩ := build_filed hsize
    have hdescribes := sortedIndexes_describes keepingSort_sorts hsize hindexed
    refine ⟨sortedIndexes keepingSort games filed, fun sort hsort => ?_, hdescribes,
      hdescribes.valid⟩
    rw [hbuild _ hsort]
    dsimp only [sortedIndexes]
    rw [titles_unique hkeys hsort keepingSort_sorts,
      launches_unique hrefs hindexed hsort keepingSort_sorts]

/-- A game with a launch plan. -/
def plannedGame (stableKey title launchRef : String) : SystemGame where
  stableKey
  title
  launchRef
  previewArchivePath := ""
  previewAssetKey := ""
  hasPreview := false
  year := some 1984
  manufacturer := ""
  category := " Action "
  players := none
  control := ""
  isNew := false
  launchPlan := some ⟨launchRef, title, "c64", "", "", "", 0, 0⟩

/-- Two games that differ in all that orders them. -/
def distinctGames : List SystemGame :=
  [plannedGame "c64:b" "alpha" "plan:b", plannedGame "c64:a" "Alpha" "plan:a"]

/-- Two games with one launch reference. -/
def tiedGames : List SystemGame :=
  [plannedGame "c64:a" "Alpha" "plan:a", plannedGame "c64:b" "Beta" "plan:a"]

theorem distinct_games_built : BuildsIndexes distinctGames :=
  (navigation_indexes_iff (by decide)).2 ⟨by decide, by decide⟩

theorem tied_launches_sorted_two_ways :
    (tiedGames.map (·.stableKey)).Nodup ∧
      buildNavigationIndexes keepingSort tiedGames ≠ buildNavigationIndexes turningSort tiedGames ∧
      ¬ BuildsIndexes tiedGames := by
  have htied : Tied tiedGames 0 1 := ⟨_, _, rfl, rfl, rfl, rfl, rfl⟩
  have hne := build_tied (by decide) (by decide) htied
  refine ⟨by decide, hne, fun ⟨indexes, hbuild, _⟩ => hne ?_⟩
  rw [hbuild _ keepingSort_sorts, hbuild _ turningSort_sorts]

end Build

end MisterMagik.Catalog
