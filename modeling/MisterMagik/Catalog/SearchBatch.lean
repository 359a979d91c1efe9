/-
  File:      MisterMagik/Catalog/SearchBatch.lean
  Subject:   Search documents and autocomplete words, batch by batch
             (crates/catalog/src/persisted_search.rs: `prepare_search_batch`,
             `merge_autocomplete_words`).

  A document depends on its game and on its place in the list. A word collects a score from every
  game that has it, and the best rank: the sum is a `u32`, which the release build lets wrap around
  and a build with overflow checks does not.

  * `prepareSearchBatch_tallied` -- the words of a batch are the tally of what its games say;
  * `search_batching` -- batches merged in order are one batch.
-/
import MisterMagik.Catalog.NavEncode
import MisterMagik.Base.Tally

namespace MisterMagik.Catalog

open MisterMagik.Base

/-! ## 1. Texts -/

/-- `is_ascii_alphanumeric`. -/
def isAsciiAlphanumeric (byte : UInt8) : Bool :=
  (48 ≤ byte && byte ≤ 57) || (65 ≤ byte && byte ≤ 90) || (97 ≤ byte && byte ≤ 122)

/-- `byte.to_ascii_lowercase() as char`. -/
def lowerByte (byte : UInt8) : Char := (Char.ofNat byte.toNat).toLower

/-- One byte of `normalize_search_text`: the text so far, and whether a separator is pending. -/
def normalizeByte (state : List Char × Bool) (byte : UInt8) : List Char × Bool :=
  if isAsciiAlphanumeric byte then
    if state.2 ∧ state.1 ≠ [] then (state.1 ++ [' ', lowerByte byte], false)
    else (state.1 ++ [lowerByte byte], false)
  else (state.1, true)

def normalizeSearchText (value : String) : String :=
  String.ofList ((utf8 value).foldl normalizeByte ([], false)).1

def compactIfDifferent (value : String) : String :=
  let compact := String.ofList (value.toList.filter (· ≠ ' '))
  if compact ≠ value then compact else ""

/-- `path.rsplit('/').next()`. -/
def gameBasename (path : String) : String :=
  String.ofList (path.toList.rtakeWhile (· ≠ '/'))

/-- `str::split_whitespace`. -/
def splitWhitespace (value : String) : List String :=
  ((value.toList.splitOnP isWhitespace).filter (· ≠ [])).map String.ofList

def playerCountLabel (players : UInt8) : String :=
  if players = 0 then "Unkown"
  else if players = 1 then "1 Player"
  else
    let count := players.toNat
    s!"{count} Players"

/-- A part of an unknown control, its first letter in upper case. -/
def capitalize : List Char → String
  | [] => ""
  | first :: rest => String.ofList (first.toUpper :: rest)

def canonicalControlLabel (control : String) : String :=
  match (trim control).toLower with
  | "" => ""
  | "joy" | "joystick" => "Joystick"
  | "doublejoy" | "dual joystick" => "Dual Joystick"
  | "triplejoy" | "triple joystick" => "Triple Joystick"
  | "only_buttons" | "buttons only" => "Buttons Only"
  | "paddle" => "Paddle"
  | "dial" => "Dial"
  | "trackball" => "Trackball"
  | "lightgun" | "light gun" => "Light Gun"
  | "positional" => "Positional"
  | "stick" => "Stick"
  | "keyboard" => "Keyboard"
  | "keypad" => "Keypad"
  | "mouse" => "Mouse"
  | "pedal" => "Pedal"
  | "mahjong" | "mahjong panel" => "Mahjong Panel"
  | "hanafuda" | "hanafuda panel" => "Hanafuda Panel"
  | "gambling" | "gambling controls" => "Gambling Controls"
  | other =>
      let parts := (other.toList.splitOnP fun c => c = '_' || c = '-').filter (· ≠ [])
      " ".intercalate (parts.map capitalize)

/-! ## 2. Words -/

inductive AutocompleteSource where
  | title
  | metadata
  | path
  deriving DecidableEq, Repr

@[ext]
structure AutocompleteStats where
  sourceRank : Nat
  score : Nat
  deriving DecidableEq, Repr

namespace AutocompleteStats

instance : Zero AutocompleteStats := ⟨⟨0, 0⟩⟩

/-- The best rank and the sum of the scores. -/
instance : Add AutocompleteStats := ⟨fun a b => ⟨max a.sourceRank b.sourceRank, a.score + b.score⟩⟩

@[simp] theorem zero_sourceRank : (0 : AutocompleteStats).sourceRank = 0 := rfl
@[simp] theorem zero_score : (0 : AutocompleteStats).score = 0 := rfl
@[simp] theorem add_sourceRank (a b : AutocompleteStats) :
    (a + b).sourceRank = max a.sourceRank b.sourceRank := rfl
@[simp] theorem add_score (a b : AutocompleteStats) : (a + b).score = a.score + b.score := rfl

instance : AddCommMonoid AutocompleteStats where
  add_assoc a b c := AutocompleteStats.ext (Nat.max_assoc _ _ _) (Nat.add_assoc _ _ _)
  zero_add a := AutocompleteStats.ext (Nat.zero_max _) (Nat.zero_add _)
  add_zero a := AutocompleteStats.ext (Nat.max_zero _) (Nat.add_zero _)
  add_comm a b := AutocompleteStats.ext (Nat.max_comm _ _) (Nat.add_comm _ _)
  nsmul := nsmulRec

/-- The score is a `u32`. -/
def narrow : Narrow AutocompleteStats where
  wrap stats := { stats with score := stats.score % 2 ^ 32 }
  fits stats := decide (stats.score < 2 ^ 32)
  fits_zero := by decide
  fits_left := fun {a b} h => by
    rw [decide_eq_true_eq, add_score] at h
    exact decide_eq_true (Nat.lt_of_le_of_lt (Nat.le_add_right _ _) h)
  wrap_of_fits := fun {a} h =>
    AutocompleteStats.ext rfl (Nat.mod_eq_of_lt (of_decide_eq_true h))
  wrap_add a b := AutocompleteStats.ext rfl (Nat.mod_add_mod _ _ _)

end AutocompleteStats

/-- `HashMap<String, AutocompleteStats>`. -/
abbrev Words := Table String AutocompleteStats

/-- The words that are left out, besides those of one byte. -/
def isNoisyAutocompleteWord (word : String) : Bool :=
  word ∈ ["a", "an", "and", "the", "of", "in", "on", "to", "for", "with", "world"]

/-- What a source adds to a word. -/
def AutocompleteSource.stats : AutocompleteSource → AutocompleteStats
  | title => ⟨2, 5⟩
  | metadata => ⟨2, 4⟩
  | path => ⟨1, 1⟩

/-- `stats.score += score` where `checked` says whether the build checks for overflow, with the
    better rank. -/
def AutocompleteStats.add (checked : Bool) (a b : AutocompleteStats) : Option AutocompleteStats :=
  AutocompleteStats.narrow.add checked a b

def addNormalizedWord (checked : Bool) (words : Words) (normalized : String)
    (source : AutocompleteSource) : Option Words :=
  if (utf8 normalized).length < 2 ∨ isNoisyAutocompleteWord normalized then some words
  else
    match words.lookup normalized with
    | some stats => (stats.add checked source.stats).map fun stats => words.insert normalized stats
    | none => some (words.insert normalized source.stats)

def addNormalizedWords (checked : Bool) (words : Words) (normalized : String)
    (source : AutocompleteSource) : Option Words :=
  (splitWhitespace normalized).foldlM
    (fun words word => addNormalizedWord checked words word source)
    words

/-- `merge_autocomplete_words`, for the entries of the source in the order they come. -/
def mergeAutocompleteWords (checked : Bool) (destination : Words)
    (source : List (String × AutocompleteStats)) : Option Words :=
  source.foldlM (fun destination entry => do
    let stats ← ((destination.lookup entry.1).getD ⟨0, 0⟩).add checked entry.2
    some (destination.insert entry.1 stats)) destination

/-! ## 3. Batches -/

structure PreparedSearchDocument where
  ordinal : Nat
  title : String
  compactTitle : String
  manufacturer : String
  compactManufacturer : String
  control : String
  compactControl : String
  players : String
  year : String
  decade : String
  path : String
  compactPath : String
  deriving DecidableEq, Repr

structure PreparedSearchBatch where
  documents : List PreparedSearchDocument
  words : Words

/-- `saturating_add`, for a `usize`. -/
def saturatingAdd (usizeMax a b : Nat) : Nat := min (a + b) usizeMax

def playersText (game : SystemGame) : String := (game.players.map playerCountLabel).getD ""

def yearText (game : SystemGame) : String := (game.year.map fun year => toString year.toNat).getD ""

def decadeText (game : SystemGame) : String :=
  (game.year.map fun year =>
    let tens := (year / 10).toNat
    s!"{tens}0s").getD ""

def titleText (game : SystemGame) : String := normalizeSearchText game.title

def manufacturerText (game : SystemGame) : String := normalizeSearchText game.manufacturer

def controlText (game : SystemGame) : String :=
  normalizeSearchText (canonicalControlLabel game.control)

def pathText (game : SystemGame) : String := normalizeSearchText (gameBasename game.launchRef)

/-- A single word, where there is one. -/
def addWordOf (checked : Bool) (words : Words) (value : String) : Option Words :=
  if value = "" then some words else addNormalizedWord checked words value .metadata

/-- The words of one game. -/
def addGameWords (checked : Bool) (words : Words) (game : SystemGame) : Option Words := do
  let words ← addNormalizedWords checked words (titleText game) .title
  let words ← addNormalizedWords checked words (manufacturerText game) .metadata
  let words ← addNormalizedWords checked words (controlText game) .metadata
  let words ← addWordOf checked words (normalizeSearchText (playersText game))
  let words ← addNormalizedWords checked words (pathText game) .path
  let words ← addWordOf checked words (yearText game)
  addWordOf checked words (decadeText game)

def searchDocument (ordinal : Nat) (game : SystemGame) : PreparedSearchDocument where
  ordinal
  title := titleText game
  compactTitle := compactIfDifferent (titleText game)
  manufacturer := manufacturerText game
  compactManufacturer := compactIfDifferent (manufacturerText game)
  control := controlText game
  compactControl := compactIfDifferent (controlText game)
  players := playersText game
  year := yearText game
  decade := decadeText game
  path := pathText game
  compactPath := compactIfDifferent (pathText game)

/-- The loop over the games, from an offset on. -/
def prepareGames (checked : Bool) (usizeMax firstOrdinal : Nat) :
    Nat → List SystemGame → PreparedSearchBatch → Option PreparedSearchBatch
  | _, [], batch => some batch
  | offset, game :: games, batch => do
    let words ← addGameWords checked batch.words game
    let document := searchDocument (saturatingAdd usizeMax firstOrdinal offset) game
    prepareGames checked usizeMax firstOrdinal (offset + 1) games
      ⟨batch.documents ++ [document], words⟩

/-- `usizeMax` is `usize::MAX`; nothing where an overflow check stops the build of the words. -/
def prepareSearchBatch (checked : Bool) (usizeMax firstOrdinal : Nat) (games : List SystemGame) :
    Option PreparedSearchBatch :=
  prepareGames checked usizeMax firstOrdinal 0 games ⟨[], ∅⟩

/-- The batches one after another, each from the ordinal the one before it ended with: documents
    are concatenated, words are merged, in the order that `iterate` lists a batch's words. -/
def prepareInBatches (checked : Bool) (usizeMax : Nat)
    (iterate : Words → List (String × AutocompleteStats)) :
    Nat → List (List SystemGame) → PreparedSearchBatch → Option PreparedSearchBatch
  | _, [], merged => some merged
  | firstOrdinal, games :: batches, merged => do
    let batch ← prepareSearchBatch checked usizeMax firstOrdinal games
    let words ← mergeAutocompleteWords checked merged.words (iterate batch.words)
    prepareInBatches checked usizeMax iterate (saturatingAdd usizeMax firstOrdinal games.length)
      batches ⟨merged.documents ++ batch.documents, words⟩

/-- One outcome: the same documents and the same words, or none at all. -/
def SamePrepared : Option PreparedSearchBatch → Option PreparedSearchBatch → Prop
  | some a, some b => a.documents = b.documents ∧ ∀ word, a.words.lookup word = b.words.lookup word
  | none, none => True
  | _, _ => False

/-! ## 4. The words of a game are rows of a tally -/

open AutocompleteStats (narrow)

section Rows

variable {checked : Bool} {usizeMax firstOrdinal offset : Nat} {words : Words} {game : SystemGame}
  {games : List SystemGame}

/-- What a word adds to the tally. -/
def wordRows (source : AutocompleteSource) (word : String) : List (String × AutocompleteStats) :=
  if (utf8 word).length < 2 ∨ isNoisyAutocompleteWord word then [] else [(word, source.stats)]

def textRows (source : AutocompleteSource) (value : String) :
    List (String × AutocompleteStats) :=
  (splitWhitespace value).flatMap (wordRows source)

def singleRows (value : String) : List (String × AutocompleteStats) :=
  if value = "" then [] else wordRows .metadata value

def gameRows (game : SystemGame) : List (String × AutocompleteStats) :=
  textRows .title (titleText game) ++ (textRows .metadata (manufacturerText game) ++
    (textRows .metadata (controlText game) ++
      (singleRows (normalizeSearchText (playersText game)) ++
      (textRows .path (pathText game) ++ (singleRows (yearText game) ++
        singleRows (decadeText game))))))

theorem foldlM_flatMap {α β σ : Type} (f : σ → β → Option σ) (g : α → List β) (xs : List α)
    (s : σ) : (xs.flatMap g).foldlM f s = xs.foldlM (fun s x => (g x).foldlM f s) s := by
  induction xs generalizing s with
  | nil => rfl
  | cons x xs ih =>
      rw [List.flatMap_cons, List.foldlM_append, List.foldlM_cons]
      exact congrArg _ (funext fun s' => ih s')

/-- Every score of a source is a small number. -/
theorem add_zero_stats (checked : Bool) (source : AutocompleteSource) :
    narrow.add checked 0 source.stats = some source.stats := by
  cases source with
  | title => rfl
  | metadata => rfl
  | path => rfl

theorem addNormalizedWord_eq (source : AutocompleteSource) (word : String) :
    addNormalizedWord checked words word source =
      (wordRows source word).foldlM (narrow.accumulate checked) words := by
  unfold addNormalizedWord wordRows
  by_cases hskip : (utf8 word).length < 2 ∨ isNoisyAutocompleteWord word = true
  · rw [if_pos hskip, if_pos hskip]
    rfl
  · rw [if_neg hskip, if_neg hskip, List.foldlM_cons]
    unfold Narrow.accumulate AutocompleteStats.add
    dsimp only
    cases hlookup : words.lookup word with
    | some stats =>
        rw [Option.getD_some]
        dsimp only
        cases narrow.add checked stats source.stats with
        | none => rfl
        | some sum => rfl
    | none =>
        rw [Option.getD_none, add_zero_stats]
        rfl

theorem addNormalizedWords_eq (source : AutocompleteSource) (value : String) :
    addNormalizedWords checked words value source =
      (textRows source value).foldlM (narrow.accumulate checked) words := by
  unfold addNormalizedWords textRows
  rw [foldlM_flatMap]
  congr 1
  funext words word
  exact addNormalizedWord_eq source word

theorem addWordOf_eq (value : String) :
    addWordOf checked words value =
      (singleRows value).foldlM (narrow.accumulate checked) words := by
  unfold addWordOf singleRows
  split
  · rfl
  · exact addNormalizedWord_eq .metadata value

/-- **The words of a game are its rows, one after the other.** -/
theorem addGameWords_eq (words : Words) (game : SystemGame) :
    addGameWords checked words game = (gameRows game).foldlM (narrow.accumulate checked) words := by
  unfold addGameWords gameRows
  simp only [addNormalizedWords_eq, addWordOf_eq, List.foldlM_append]

/-- The documents of games that follow a place in the list. -/
def documentsFrom (usizeMax firstOrdinal : Nat) : Nat → List SystemGame →
    List PreparedSearchDocument
  | _, [] => []
  | offset, game :: games =>
      searchDocument (saturatingAdd usizeMax firstOrdinal offset) game ::
        documentsFrom usizeMax firstOrdinal (offset + 1) games

theorem documentsFrom_append (games more : List SystemGame) :
    documentsFrom usizeMax firstOrdinal offset (games ++ more) =
      documentsFrom usizeMax firstOrdinal offset games ++
        documentsFrom usizeMax firstOrdinal (offset + games.length) more := by
  induction games generalizing offset with
  | nil => rfl
  | cons game games ih =>
      rw [List.cons_append, documentsFrom, documentsFrom, ih, List.length_cons, Nat.add_assoc,
        Nat.add_comm 1]
      rfl

/-- A later batch counts on from where the one before it ended. -/
theorem documentsFrom_shift (n : Nat) (games : List SystemGame) :
    documentsFrom usizeMax (saturatingAdd usizeMax firstOrdinal n) offset games =
      documentsFrom usizeMax firstOrdinal (n + offset) games := by
  induction games generalizing offset with
  | nil => rfl
  | cons game games ih =>
      have hordinal : saturatingAdd usizeMax (saturatingAdd usizeMax firstOrdinal n) offset =
          saturatingAdd usizeMax firstOrdinal (n + offset) := by
        unfold saturatingAdd
        omega
      rw [documentsFrom, documentsFrom, hordinal, ih, Nat.add_assoc]

theorem prepareGames_eq (batch : PreparedSearchBatch) :
    prepareGames checked usizeMax firstOrdinal offset games batch =
      ((games.flatMap gameRows).foldlM (narrow.accumulate checked) batch.words).map fun words =>
        ⟨batch.documents ++ documentsFrom usizeMax firstOrdinal offset games, words⟩ := by
  induction games generalizing offset batch with
  | nil =>
      rw [documentsFrom, List.append_nil]
      rfl
  | cons game games ih =>
      rw [prepareGames, addGameWords_eq, List.flatMap_cons, List.foldlM_append]
      cases (gameRows game).foldlM (narrow.accumulate checked) batch.words with
      | none => rfl
      | some words =>
          have hgame := @ih (offset + 1) ⟨batch.documents ++
            [searchDocument (saturatingAdd usizeMax firstOrdinal offset) game], words⟩
          rw [List.append_assoc] at hgame
          exact hgame

/-- **A batch: the documents of its games, and the tally of their words.** -/
theorem prepareSearchBatch_tallied (checked : Bool) (usizeMax firstOrdinal : Nat)
    (games : List SystemGame) :
    narrow.Tallied checked (games.flatMap gameRows)
        ((prepareSearchBatch checked usizeMax firstOrdinal games).map (·.words)) ∧
      ∀ batch, prepareSearchBatch checked usizeMax firstOrdinal games = some batch →
        batch.documents = documentsFrom usizeMax firstOrdinal 0 games := by
  unfold prepareSearchBatch
  rw [prepareGames_eq]
  refine ⟨?_, fun batch h => ?_⟩
  · rw [Option.map_map]
    have hrun := Narrow.tallied_foldlM (Narrow.tallied_nil narrow checked) (games.flatMap gameRows)
    rw [List.nil_append] at hrun
    have hwords : ((fun batch : PreparedSearchBatch => batch.words) ∘ fun words : Words =>
        (⟨[] ++ documentsFrom usizeMax firstOrdinal 0 games, words⟩ : PreparedSearchBatch)) = id :=
      rfl
    rw [hwords, Option.map_id, id]
    exact hrun
  · obtain ⟨words, -, rfl⟩ := Option.map_eq_some_iff.1 h
    rfl

end Rows

/-! ## 5. Batches -/

section Batches

variable {checked : Bool}
  {iterate : Words → List (String × AutocompleteStats)}

theorem mergeAutocompleteWords_eq (destination : Words)
    (source : List (String × AutocompleteStats)) :
    mergeAutocompleteWords checked destination source =
      source.foldlM (narrow.accumulate checked) destination := by
  unfold mergeAutocompleteWords
  congr 1
  funext destination entry
  have hzero : (⟨0, 0⟩ : AutocompleteStats) = 0 := rfl
  unfold Narrow.accumulate AutocompleteStats.add
  rw [hzero]
  cases narrow.add checked ((destination.lookup entry.1).getD 0) entry.2 with
  | none => rfl
  | some sum => rfl

/-- **Batches merged into what was merged before.** -/
theorem prepareInBatches_tallied (usizeMax : Nat)
    (hiterate : ∀ words, (iterate words).Perm (Table.pairs words))
    (batches : List (List SystemGame)) (firstOrdinal : Nat) (merged : PreparedSearchBatch)
    {rows : List (String × AutocompleteStats)}
    (h : narrow.Tallied checked rows (some merged.words)) :
    narrow.Tallied checked (rows ++ batches.flatten.flatMap gameRows)
        ((prepareInBatches checked usizeMax iterate firstOrdinal batches merged).map (·.words)) ∧
      ∀ out, prepareInBatches checked usizeMax iterate firstOrdinal batches merged = some out →
        out.documents =
          merged.documents ++ documentsFrom usizeMax firstOrdinal 0 batches.flatten := by
  induction batches generalizing firstOrdinal merged rows with
  | nil =>
      refine ⟨?_, fun out hout => ?_⟩
      · rw [List.flatten_nil, List.flatMap_nil, List.append_nil]
        exact h
      · cases hout
        exact (List.append_nil _).symm
  | cons games batches ih =>
      obtain ⟨hbatch, hdocuments⟩ :=
        prepareSearchBatch_tallied checked usizeMax firstOrdinal games
      rw [prepareInBatches, List.flatten_cons, List.flatMap_append, ← List.append_assoc]
      cases hprepared : prepareSearchBatch checked usizeMax firstOrdinal games with
      | none =>
          rw [hprepared] at hbatch
          exact ⟨Narrow.tallied_none (Narrow.tallied_none_left hbatch rows) _,
            fun out hout => by cases hout⟩
      | some batch =>
          rw [hprepared] at hbatch
          have hmerge := Narrow.tallied_merge h hbatch (hiterate batch.words)
          rw [← mergeAutocompleteWords_eq] at hmerge
          cases hwords : mergeAutocompleteWords checked merged.words (iterate batch.words) with
          | none =>
              rw [hwords] at hmerge
              dsimp only [Option.bind_eq_bind, Option.bind_some]
              rw [hwords]
              exact ⟨Narrow.tallied_none hmerge _, fun out hout => by cases hout⟩
          | some words =>
              rw [hwords] at hmerge
              dsimp only [Option.bind_eq_bind, Option.bind_some]
              rw [hwords]
              obtain ⟨htallied, hout⟩ := ih (saturatingAdd usizeMax firstOrdinal games.length)
                ⟨merged.documents ++ batch.documents, words⟩ hmerge
              refine ⟨htallied, fun out h => ?_⟩
              rw [hout out h, documentsFrom_append, documentsFrom_shift, hdocuments batch hprepared,
                List.append_assoc, Nat.zero_add, Nat.add_zero]

/-- **Batching does not matter:** whatever the batches, whatever the order in which the words of a
    batch are merged, and whether or not the build checks for overflow. -/
theorem search_batching (checked : Bool) (usizeMax firstOrdinal : Nat)
    (iterate : Words → List (String × AutocompleteStats))
    (hiterate : ∀ words, (iterate words).Perm (Table.pairs words))
    (batches : List (List SystemGame)) :
    SamePrepared (prepareInBatches checked usizeMax iterate firstOrdinal batches ⟨[], ∅⟩)
      (prepareSearchBatch checked usizeMax firstOrdinal batches.flatten) := by
  obtain ⟨hbatched, hbatchedDocuments⟩ := prepareInBatches_tallied usizeMax hiterate batches
    firstOrdinal ⟨[], ∅⟩ (Narrow.tallied_nil narrow checked)
  obtain ⟨hwhole, hwholeDocuments⟩ :=
    prepareSearchBatch_tallied checked usizeMax firstOrdinal batches.flatten
  rw [List.nil_append] at hbatched
  rcases Narrow.tallied_unique hbatched hwhole with ⟨hnone, hnone'⟩ | ⟨t, t', ht, ht', hsame⟩
  · rw [Option.map_eq_none_iff.1 hnone, Option.map_eq_none_iff.1 hnone']
    trivial
  · obtain ⟨batched, hbatched, rfl⟩ := Option.map_eq_some_iff.1 ht
    obtain ⟨whole, hwhole, rfl⟩ := Option.map_eq_some_iff.1 ht'
    rw [hbatched, hwhole]
    refine ⟨?_, hsame⟩
    rw [hbatchedDocuments batched hbatched, hwholeDocuments whole hwhole]
    exact List.nil_append _

/-- A game of which only the title is known. -/
def titledGame (stableKey title : String) : SystemGame where
  stableKey
  title
  launchRef := "/media/fat/games/C64/Game.d64"
  previewArchivePath := ""
  previewAssetKey := ""
  hasPreview := false
  year := some 1984
  manufacturer := ""
  category := ""
  players := none
  control := ""
  isNew := false
  launchPlan := none

theorem two_batches_one :
    SamePrepared
      (prepareInBatches true 4294967295 Table.pairs 0
        [[titledGame "c64:a" "Alpha One"], [titledGame "c64:b" "Alpha Two"]] ⟨[], ∅⟩)
      (prepareSearchBatch true 4294967295 0
        [titledGame "c64:a" "Alpha One", titledGame "c64:b" "Alpha Two"]) :=
  search_batching true 4294967295 0 Table.pairs (fun _ => List.Perm.refl _)
    [[titledGame "c64:a" "Alpha One"], [titledGame "c64:b" "Alpha Two"]]

end Batches

end MisterMagik.Catalog
