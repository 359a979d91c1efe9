/-
  File:      MisterMagik/Catalog/Variants.lean
  Subject:   C64 games of one title from several sources, folded into one row
             (crates/catalog/src/fast_five_catalog.rs).

  * `collapseC64CrossSourceVariants` -- what leaves the visible games becomes a variant;
  * `familyOf` -- a game's family, read off the games alone;
  * `Rooted` -- every variant names a game or a variant before it.
-/
import MisterMagik.Base.Lines
import MisterMagik.Base.Table
import MisterMagik.Catalog.Snapshot
import Mathlib.Data.List.Sort

namespace MisterMagik.Catalog

open MisterMagik.Base

/-! ## 1. Titles and markers -/

structure CompactTitle where
  output : List Char
  parenthesisDepth : Nat
  bracketDepth : Nat

/-- One round of the loop of `compact_c64_family_title`. -/
def CompactTitle.push (t : CompactTitle) (character : Char) : CompactTitle :=
  if character = '(' then { t with parenthesisDepth := t.parenthesisDepth + 1 }
  else if character = ')' then { t with parenthesisDepth := t.parenthesisDepth - 1 }
  else if character = '[' then { t with bracketDepth := t.bracketDepth + 1 }
  else if character = ']' then { t with bracketDepth := t.bracketDepth - 1 }
  else if t.parenthesisDepth = 0 ∧ t.bracketDepth = 0 ∧ character.isAlphanum then
    { t with output := t.output ++ [character] }
  else t

def compactC64FamilyTitle (title : String) : String :=
  let characters := (Base.trim title.toList).flatMap toLowercase
  String.ofList (characters.foldl CompactTitle.push ⟨[], 0, 0⟩).output

/-- `compact_c64_family_title(&game.title)`. -/
def familyTitle (game : SystemGame) : String := compactC64FamilyTitle game.title

def containsMarker (value : String) : Bool :=
  "oneload64".toList <:+: value.toList.map Char.toLower

def isOneload64Game (game : SystemGame) : Bool :=
  containsMarker game.launchRef ||
    game.launchPlan.any fun plan => containsMarker plan.launchRef || containsMarker plan.payloadPath

/-- The annotations `has_language_annotation` looks for. -/
def languageAnnotations : List String :=
  ["de", "ger", "german", "deutsch", "fr", "fre", "french", "es", "spa", "spanish", "it", "ita",
    "italian", "nl", "dut", "dutch"]

def hasLanguageAnnotation (title : String) : Bool :=
  let parts := (title.toList.splitOnP fun c => c = '(' || c = '[').drop 1
  let annotations := parts.map fun part => Base.trim (part.takeWhile fun c => !(c = ')' || c = ']'))
  annotations.any fun found =>
    languageAnnotations.contains (String.ofList (found.map Char.toLower))

/-! ## 2. The collapse -/

section Collapse

variable (games : List SystemGame)

/-- `groups.entry(key).or_default().push(index)`, for a game with a title left. -/
def addToGroup (groups : Table String (List Nat)) (row : SystemGame × Nat) :
    Table String (List Nat) :=
  if familyTitle row.1 = "" then groups
  else groups.upsert (familyTitle row.1) [row.2] (· ++ [row.2])

/-- `groups`: the games of each compact title, by index. -/
def groups : Table String (List Nat) := games.zipIdx.foldl addToGroup ∅

/-- `is_oneload64_game(&system.games[index])`. -/
def oneloadAt (index : Nat) : Bool := games[index]?.any isOneload64Game

/-- What one group adds to `family_for_variant`. -/
def groupVariants (indexes : List Nat) : List (Nat × Nat) :=
  match indexes.filter (oneloadAt games) with
  | [family] =>
      (indexes.filter fun index => index ≠ family && !oneloadAt games index).map fun index =>
        (index, family)
  | _ => []

def familyForVariant : Table Nat Nat :=
  Table.insertAll ∅ ((Table.pairs (groups games)).flatMap fun row => groupVariants games row.2)

/-- `family_keys.get(&index)`. -/
def familyKeyAt (index : Nat) : Option String := do
  let family ← (familyForVariant games).lookup index
  let game ← games[family]?
  pure game.stableKey

end Collapse

/-- A collapsed game as a variant. -/
def newVariant (familyStableKey : String) (game : SystemGame) : FastFiveGameVariant where
  familyStableKey := familyStableKey
  relation := if hasLanguageAnnotation game.title then .languageEdition else .titleFormatting
  game := game

/-- The order of the new variants: by family, then by stable key. -/
def variantBefore (left right : FastFiveGameVariant) : Prop :=
  strLt left.familyStableKey right.familyStableKey ∨
    left.familyStableKey = right.familyStableKey ∧
      strLt right.game.stableKey left.game.stableKey = false

instance : DecidableRel variantBefore := fun _ _ => inferInstanceAs (Decidable (_ ∨ _ ∧ _))

/-- The system with its variants collapsed, and their number. -/
def collapseC64CrossSourceVariants (system : FastFiveSystem) : FastFiveSystem × Nat :=
  if system.systemId ≠ "c64" ∨ system.games = [] then (system, 0)
  else if (familyForVariant system.games).keys = [] then (system, 0)
  else
    let rows := system.games.zipIdx
    let visible := (rows.filter fun row => (familyKeyAt system.games row.2).isNone).map Prod.fst
    let variants := rows.filterMap fun row =>
      (familyKeyAt system.games row.2).map fun familyStableKey => newVariant familyStableKey row.1
    ({ system with
        games := visible
        variants := system.variants ++ variants.insertionSort variantBefore },
      variants.length)

/-! ## 3. Families without indexes -/

/-- The one-load games of a compact title. -/
def isFamily (key : String) (game : SystemGame) : Bool :=
  familyTitle game = key && isOneload64Game game

/-- A game's family: the only one-load game of its compact title. -/
def familyOf (games : List SystemGame) (game : SystemGame) : Option SystemGame :=
  if familyTitle game = "" ∨ isOneload64Game game then none
  else match games.filter (isFamily (familyTitle game)) with
    | [family] => some family
    | _ => none

section Families

variable {games : List SystemGame} {game family : SystemGame} {key : String} {i f : Nat}

theorem familyOf_eq_some : familyOf games game = some family ↔
    familyTitle game ≠ "" ∧ isOneload64Game game = false ∧
      games.filter (isFamily (familyTitle game)) = [family] := by
  unfold familyOf
  split
  next hno =>
    refine ⟨nofun, fun ⟨htitle, hload, _⟩ => ?_⟩
    rcases hno with hno | hno
    · exact absurd hno htitle
    · rw [hload] at hno
      cases hno
  next hyes =>
    rw [not_or, Bool.not_eq_true] at hyes
    split
    next family' heq =>
      rw [heq, Option.some.injEq, List.cons.injEq, eq_self, and_true]
      exact ⟨fun h => ⟨hyes.1, hyes.2, h⟩, fun h => h.2.2⟩
    next hmany => exact ⟨nofun, fun h => absurd h.2.2 (hmany family)⟩

/-- The indexes of the games of a compact title. -/
def titled (rows : List (SystemGame × Nat)) (key : String) : List Nat :=
  (rows.filter fun row => familyTitle row.1 = key).map Prod.snd

theorem titled_concat (rows : List (SystemGame × Nat)) (row : SystemGame × Nat) :
    titled (rows ++ [row]) key =
      titled rows key ++ if familyTitle row.1 = key then [row.2] else [] := by
  unfold titled
  rw [List.filter_append, List.map_append]
  by_cases h : familyTitle row.1 = key <;> simp [h]

theorem lookup_groups : (groups games).lookup key =
    if key = "" ∨ titled games.zipIdx key = [] then none else some (titled games.zipIdx key) := by
  unfold groups
  generalize games.zipIdx = rows
  -- the groups of the rows so far, row by row from the left
  induction rows using List.reverseRecOn with
  | nil => simp [titled]
  | append_singleton rows row ih =>
      rw [List.foldl_append, List.foldl_cons, List.foldl_nil, addToGroup, titled_concat]
      by_cases hempty : familyTitle row.1 = ""
      · rw [if_pos hempty, ih]
        by_cases hkey : key = ""
        · rw [if_pos (Or.inl hkey), if_pos (Or.inl hkey)]
        · have hne : familyTitle row.1 ≠ key := fun h => hkey (h.symm.trans hempty)
          rw [if_neg hne, List.append_nil]
      · rw [if_neg hempty]
        by_cases hkey : key = familyTitle row.1
        · subst hkey
          have hsome : ¬(familyTitle row.1 = "" ∨
              titled rows (familyTitle row.1) ++ [row.2] = []) := by
            simp [hempty]
          rw [Table.lookup_upsert, ih, if_pos rfl, if_neg hsome]
          by_cases hnone : titled rows (familyTitle row.1) = []
          · rw [if_pos (Or.inr hnone), hnone]
            rfl
          · rw [if_neg (not_or.2 ⟨hempty, hnone⟩)]
            rfl
        · rw [Table.lookup_upsert_ne hkey, ih, if_neg (Ne.symm hkey), List.append_nil]

/-- The one-load games of a compact title, with their indexes. -/
def families (games : List SystemGame) (key : String) : List (SystemGame × Nat) :=
  games.zipIdx.filter fun row => isFamily key row.1

theorem families_games : (families games key).map Prod.fst = games.filter (isFamily key) := by
  have hmap := List.filter_map (p := isFamily key) (f := Prod.fst) (l := games.zipIdx)
  rw [List.zipIdx_map_fst, Function.comp_def] at hmap
  rw [families, hmap]

theorem families_indexes : (families games key).map Prod.snd =
    (titled games.zipIdx key).filter (oneloadAt games) := by
  rw [titled, List.filter_map, List.filter_filter, Function.comp_def, families]
  refine congrArg _ ?_
  refine List.filter_congr fun row hrow => ?_
  have hat : games[row.2]? = some row.1 := List.mem_zipIdx_iff_getElem?.1 hrow
  simp [isFamily, oneloadAt, hat, Bool.and_comm]

theorem mem_families (row : SystemGame × Nat) (h : row ∈ families games key) :
    games[row.2]? = some row.1 ∧ isFamily key row.1 = true :=
  ⟨List.mem_zipIdx_iff_getElem?.1 (List.mem_of_mem_filter h), (List.mem_filter.1 h).2⟩

theorem mem_groupVariants :
    (i, f) ∈ groupVariants games (titled games.zipIdx key) ↔
      ∃ game family, games[i]? = some game ∧ familyTitle game = key ∧ isOneload64Game game = false ∧
        families games key = [(family, f)] := by
  unfold groupVariants
  rw [← families_indexes]
  constructor
  · intro h
    split at h
    next family heq =>
      obtain ⟨row, hrow, rfl⟩ := List.map_eq_singleton_iff.1 heq
      obtain ⟨index, hindex, heq'⟩ := List.mem_map.1 h
      cases heq'
      obtain ⟨hmem, hother⟩ := List.mem_filter.1 hindex
      obtain ⟨own, hown, rfl⟩ := List.mem_map.1 hmem
      obtain ⟨hzip, htitle⟩ := List.mem_filter.1 hown
      have hat : games[own.2]? = some own.1 := List.mem_zipIdx_iff_getElem?.1 hzip
      refine ⟨own.1, row.1, hat, of_decide_eq_true htitle, ?_, hrow⟩
      have hload : oneloadAt games own.2 = false := by
        rw [Bool.and_eq_true, Bool.not_eq_true'] at hother
        exact hother.2
      simpa [oneloadAt, hat] using hload
    next => cases h
  · rintro ⟨game, family, hat, htitle, hload, hfamilies⟩
    rw [hfamilies]
    have hnot : oneloadAt games i = false := by simp [oneloadAt, hat, hload]
    have hmine : games[f]? = some family ∧ isFamily key family = true :=
      mem_families (family, f) (hfamilies ▸ List.mem_singleton_self _)
    refine List.mem_map.2 ⟨i, List.mem_filter.2 ⟨?_, ?_⟩, rfl⟩
    · exact List.mem_map.2 ⟨(game, i), List.mem_filter.2
        ⟨List.mem_zipIdx_iff_getElem?.2 hat, decide_eq_true htitle⟩, rfl⟩
    · have hne : i ≠ f := by
        rintro rfl
        rw [hat, Option.some.injEq] at hmine
        have hyes := (Bool.and_eq_true _ _ ▸ hmine.2).2
        rw [← hmine.1, hload] at hyes
        cases hyes
      simp [hne, hnot]

/-- **`family_for_variant`: the index of the one one-load game of a collapsed game's title.** -/
theorem lookup_familyForVariant (hat : games[i]? = some game) :
    (familyForVariant games).lookup i = some f ↔
      familyTitle game ≠ "" ∧ isOneload64Game game = false ∧
        ∃ family, families games (familyTitle game) = [(family, f)] := by
  -- an index has one title, so it is in one group only
  have hmem : ∀ f, (i, f) ∈ (Table.pairs (groups games)).flatMap
        (fun row => groupVariants games row.2) ↔
      familyTitle game ≠ "" ∧ isOneload64Game game = false ∧
        ∃ family, families games (familyTitle game) = [(family, f)] := by
    intro f
    rw [List.mem_flatMap]
    constructor
    · rintro ⟨⟨key, indexes⟩, hrow, h⟩
      rw [Table.mem_pairs, lookup_groups] at hrow
      split at hrow
      · cases hrow
      next hkey =>
        rw [Option.some.injEq] at hrow
        obtain ⟨game', family, hat', htitle, hload, hfamilies⟩ :=
          mem_groupVariants.1 (hrow ▸ h)
        rw [hat, Option.some.injEq] at hat'
        subst hat' htitle
        exact ⟨fun hempty => hkey (Or.inl hempty), hload, family, hfamilies⟩
    · rintro ⟨htitle, hload, family, hfamilies⟩
      have hindex : i ∈ titled games.zipIdx (familyTitle game) :=
        List.mem_map.2 ⟨(game, i), List.mem_filter.2
          ⟨List.mem_zipIdx_iff_getElem?.2 hat, decide_eq_true rfl⟩, rfl⟩
      refine ⟨(familyTitle game, titled games.zipIdx (familyTitle game)), ?_,
        mem_groupVariants.2 ⟨game, family, hat, rfl, hload, hfamilies⟩⟩
      rw [Table.mem_pairs, lookup_groups, if_neg]
      exact not_or.2 ⟨htitle, List.ne_nil_of_mem hindex⟩
  unfold familyForVariant
  rw [Table.lookup_insertAll_iff, hmem]
  intro f f' h h'
  obtain ⟨_, _, family, hfamilies⟩ := (hmem f).1 h
  obtain ⟨_, _, family', hfamilies'⟩ := (hmem f').1 h'
  rw [hfamilies, List.cons.injEq, Prod.mk.injEq] at hfamilies'
  exact hfamilies'.1.2

theorem familyKeyAt_eq (hat : games[i]? = some game) :
    familyKeyAt games i = (familyOf games game).map SystemGame.stableKey := by
  unfold familyKeyAt
  cases hlookup : (familyForVariant games).lookup i with
  | some f =>
      obtain ⟨htitle, hload, family, hfamilies⟩ := (lookup_familyForVariant hat).1 hlookup
      have hfamily : games[f]? = some family :=
        (mem_families (family, f) (hfamilies ▸ List.mem_singleton_self _)).1
      have hof : familyOf games game = some family := by
        refine familyOf_eq_some.2 ⟨htitle, hload, ?_⟩
        rw [← families_games, hfamilies]
        rfl
      rw [hof, Option.bind_eq_bind, Option.bind_some, hfamily]
      rfl
  | none =>
      have hof : familyOf games game = none := by
        rw [Option.eq_none_iff_forall_ne_some]
        intro family hsome
        obtain ⟨htitle, hload, hfamily⟩ := familyOf_eq_some.1 hsome
        rw [← families_games] at hfamily
        obtain ⟨row, hrow, _⟩ := List.map_eq_singleton_iff.1 hfamily
        have hf := (lookup_familyForVariant (f := row.2) hat).2 ⟨htitle, hload, row.1, hrow⟩
        rw [hlookup] at hf
        cases hf
      rw [hof]
      rfl

/-! ## 4. What the collapse does -/

/-- The games that stay. -/
def visibleGames (games : List SystemGame) : List SystemGame :=
  games.filter fun game => (familyOf games game).isNone

/-- The games that go, as variants. -/
def collapsedGames (games : List SystemGame) : List FastFiveGameVariant :=
  games.filterMap fun game =>
    (familyOf games game).map fun family => newVariant family.stableKey game

theorem visible_eq : ((games.zipIdx.filter fun row => (familyKeyAt games row.2).isNone).map
    Prod.fst) = visibleGames games := by
  have hmap := List.filter_map (p := fun game => (familyOf games game).isNone) (f := Prod.fst)
    (l := games.zipIdx)
  rw [List.zipIdx_map_fst, Function.comp_def] at hmap
  rw [visibleGames, hmap]
  refine congrArg _ (List.filter_congr fun row hrow => ?_)
  rw [familyKeyAt_eq (List.mem_zipIdx_iff_getElem?.1 hrow), Option.isNone_map]

theorem collapsed_eq : (games.zipIdx.filterMap fun row =>
    (familyKeyAt games row.2).map fun key => newVariant key row.1) = collapsedGames games := by
  have hmap := List.filterMap_map (f := Prod.fst) (l := games.zipIdx) (g := fun game =>
    (familyOf games game).map fun family => newVariant family.stableKey game)
  rw [List.zipIdx_map_fst, Function.comp_def] at hmap
  rw [collapsedGames, hmap]
  refine List.filterMap_congr fun row hrow => ?_
  rw [familyKeyAt_eq (List.mem_zipIdx_iff_getElem?.1 hrow), Option.map_map]
  rfl

theorem collapsedGames_eq_nil : collapsedGames games = [] ↔
    ∀ game ∈ games, familyOf games game = none := by
  unfold collapsedGames
  rw [List.filterMap_eq_nil_iff]
  simp only [Option.map_eq_none_iff]

theorem visibleGames_eq_self (h : collapsedGames games = []) : visibleGames games = games := by
  unfold visibleGames
  rw [List.filter_eq_self]
  intro game hgame
  rw [collapsedGames_eq_nil.1 h game hgame]
  rfl

theorem collapsedGames_of_keys (h : (familyForVariant games).keys = []) :
    collapsedGames games = [] := by
  rw [collapsedGames_eq_nil]
  intro game hgame
  obtain ⟨i, hat⟩ := List.mem_iff_getElem?.1 hgame
  have hnone : (familyForVariant games).lookup i = none := by
    rw [AList.lookup_eq_none, AList.mem_keys, h]
    exact List.not_mem_nil
  have hkey : familyKeyAt games i = none := by
    rw [familyKeyAt, hnone]
    rfl
  rw [familyKeyAt_eq hat, Option.map_eq_none_iff] at hkey
  exact hkey

end Families

section System

variable {system : FastFiveSystem} {games : List SystemGame} {game family : SystemGame}

/-- The system with its variants collapsed, in every branch of the function. -/
def collapsedSystem (system : FastFiveSystem) : FastFiveSystem :=
  { system with
    games := visibleGames system.games
    variants := system.variants ++ (collapsedGames system.games).insertionSort variantBefore }

theorem collapse_other (h : system.systemId ≠ "c64") :
    collapseC64CrossSourceVariants system = (system, 0) := by
  rw [collapseC64CrossSourceVariants, if_pos (Or.inl h)]

theorem collapsedSystem_eq_self (h : collapsedGames system.games = []) :
    collapsedSystem system = system := by
  rw [collapsedSystem, visibleGames_eq_self h, h, List.insertionSort_nil, List.append_nil]

theorem collapse_c64 (h : system.systemId = "c64") : collapseC64CrossSourceVariants system =
    (collapsedSystem system, (collapsedGames system.games).length) := by
  unfold collapseC64CrossSourceVariants
  split
  next hno =>
    have hgames : system.games = [] := hno.resolve_left (not_not.2 h)
    have hnil : collapsedGames system.games = [] := by rw [hgames]; rfl
    rw [collapsedSystem_eq_self hnil, hnil]
    rfl
  next =>
    split
    next hkeys =>
      have hnil := collapsedGames_of_keys hkeys
      rw [collapsedSystem_eq_self hnil, hnil]
      rfl
    next =>
      dsimp only
      rw [visible_eq, collapsed_eq]
      rfl

theorem visible_collapsed_perm : (visibleGames games ++
    (collapsedGames games).map FastFiveGameVariant.game).Perm games := by
  have hgames : (collapsedGames games).map FastFiveGameVariant.game =
      games.filter fun game => !(familyOf games game).isNone := by
    unfold collapsedGames
    generalize familyOf games = choice
    induction games with
    | nil => rfl
    | cons game games ih =>
        cases hchoice : choice game with
        | none => simpa [hchoice] using ih
        | some family => simpa [hchoice, newVariant] using ih
  rw [hgames]
  exact List.filter_append_perm _ games

/-- A one-load game is never collapsed. -/
theorem familyOf_family (h : familyOf games game = some family) :
    family ∈ games ∧ familyTitle family = familyTitle game ∧ familyOf games family = none := by
  obtain ⟨_, _, hfilter⟩ := familyOf_eq_some.1 h
  have hmem : family ∈ games.filter (isFamily (familyTitle game)) :=
    hfilter ▸ List.mem_singleton_self _
  obtain ⟨hgames, hfamily⟩ := List.mem_filter.1 hmem
  rw [isFamily, Bool.and_eq_true, decide_eq_true_eq] at hfamily
  refine ⟨hgames, hfamily.1, ?_⟩
  rw [familyOf, if_pos (Or.inr hfamily.2)]

theorem mem_collapsedGames {variant : FastFiveGameVariant} : variant ∈ collapsedGames games ↔
    ∃ game ∈ games, ∃ family, familyOf games game = some family ∧
      newVariant family.stableKey game = variant := by
  unfold collapsedGames
  simp only [List.mem_filterMap, Option.map_eq_some_iff]

/-- **What is left is collapsed: every family's only one-load game stands alone.** -/
theorem collapsedGames_visible : collapsedGames (visibleGames games) = [] := by
  rw [collapsedGames_eq_nil]
  intro game hgame
  obtain ⟨hmem, hstays⟩ := List.mem_filter.1 hgame
  rw [Option.isNone_iff_eq_none] at hstays
  rw [Option.eq_none_iff_forall_ne_some]
  intro family h
  obtain ⟨htitle, hload, hfilter⟩ := familyOf_eq_some.1 h
  -- the one-load games all stay, so the title has the same ones as before
  have hsame : (visibleGames games).filter (isFamily (familyTitle game)) =
      games.filter (isFamily (familyTitle game)) := by
    rw [visibleGames, List.filter_filter]
    refine List.filter_congr fun other _ => ?_
    cases hother : isFamily (familyTitle game) other with
    | false => rfl
    | true =>
        rw [isFamily, Bool.and_eq_true] at hother
        rw [familyOf, if_pos (Or.inr hother.2)]
        rfl
  rw [hsame] at hfilter
  rw [familyOf_eq_some.2 ⟨htitle, hload, hfilter⟩] at hstays
  cases hstays

end System

/-! ## 5. What the validation asks -/

theorem ensure_ok {condition : Bool} {message : String} :
    ensure condition message = .ok () ↔ condition = true := by
  unfold ensure
  split
  next h => exact ⟨fun _ => h, fun _ => rfl⟩
  next h => exact ⟨nofun, fun h' => absurd h' h⟩

theorem ensure_then_ok {α : Type} {condition : Bool} {message : String} {next : Except String α}
    {a : α} : (ensure condition message >>= fun _ => next) = .ok a ↔
      condition = true ∧ next = .ok a := by
  cases condition with
  | false => exact ⟨nofun, nofun⟩
  | true => exact ⟨fun h => ⟨rfl, h⟩, fun h => h.2⟩

/-- What a row needs beside a key of its own. -/
structure SystemGame.Fits (systemId : String) (game : SystemGame) : Prop where
  own : ownKey systemId game.stableKey = true
  bound : boundPlan systemId game = true

/-- Every variant names a game, or a variant before it. -/
def Rooted : List String → List FastFiveGameVariant → Prop
  | _, [] => True
  | stableKeys, variant :: variants =>
      variant.familyStableKey ∈ stableKeys ∧
        Rooted (variant.game.stableKey :: stableKeys) variants

/-- The stable keys of a system, of its games and its variants. -/
def gameKeys (games : List SystemGame) : List String := games.map SystemGame.stableKey

def variantKeys (variants : List FastFiveGameVariant) : List String :=
  variants.map fun variant => variant.game.stableKey

section Validation

variable {system : FastFiveSystem} {stableKeys keys : List String} {games : List SystemGame}
  {variants old new : List FastFiveGameVariant}

theorem validateGames_ok : system.validateGames stableKeys games = .ok keys ↔
    (∀ game ∈ games, blank game.title = false ∧ blank game.launchRef = false ∧
      game.Fits system.systemId) ∧ (gameKeys games).Nodup ∧ (gameKeys games).Disjoint stableKeys ∧
      keys = (gameKeys games).reverse ++ stableKeys := by
  induction games generalizing stableKeys with
  | nil =>
      constructor
      · rintro ⟨⟩
        exact ⟨fun _ h => absurd h List.not_mem_nil, List.nodup_nil, List.disjoint_nil_left _, rfl⟩
      · rintro ⟨_, _, _, rfl⟩
        rfl
  | cons game games ih =>
      unfold FastFiveSystem.validateGames
      simp only [ensure_then_ok, ih, Bool.and_eq_true, Bool.not_eq_true', gameKeys, List.map_cons,
        List.nodup_cons, List.disjoint_cons_left, List.disjoint_cons_right, List.forall_mem_cons,
        List.reverse_cons, List.append_assoc, List.singleton_append, List.contains_eq_mem,
        decide_eq_false_iff_not]
      constructor
      · rintro ⟨⟨ht, hl⟩, ho, hk, hb, hall, hnd, ⟨hnew, hdis⟩, rfl⟩
        exact ⟨⟨⟨ht, hl, ho, hb⟩, hall⟩, ⟨hnew, hnd⟩, ⟨hk, hdis⟩, rfl⟩
      · rintro ⟨⟨⟨ht, hl, ho, hb⟩, hall⟩, ⟨hnew, hnd⟩, ⟨hk, hdis⟩, rfl⟩
        exact ⟨⟨ht, hl⟩, ho, hk, hb, hall, hnd, ⟨hnew, hdis⟩, rfl⟩

theorem validateVariants_ok : system.validateVariants stableKeys variants = .ok () ↔
    (∀ variant ∈ variants, variant.game.Fits system.systemId) ∧ (variantKeys variants).Nodup ∧
      (variantKeys variants).Disjoint stableKeys ∧ Rooted stableKeys variants := by
  induction variants generalizing stableKeys with
  | nil => simp [FastFiveSystem.validateVariants, variantKeys, Rooted]
  | cons variant variants ih =>
      unfold FastFiveSystem.validateVariants
      simp only [ensure_then_ok, ih, Bool.and_eq_true, Bool.not_eq_true', variantKeys,
        List.map_cons, List.nodup_cons, List.disjoint_cons_left, List.disjoint_cons_right,
        List.forall_mem_cons, Rooted, List.contains_eq_mem, decide_eq_false_iff_not,
        decide_eq_true_eq]
      constructor
      · rintro ⟨hf, ⟨ho, hk⟩, hb, hall, hnd, ⟨hnew, hdis⟩, hroot⟩
        exact ⟨⟨⟨ho, hb⟩, hall⟩, ⟨hnew, hnd⟩, ⟨hk, hdis⟩, hf, hroot⟩
      · rintro ⟨⟨⟨ho, hb⟩, hall⟩, ⟨hnew, hnd⟩, ⟨hk, hdis⟩, hf, hroot⟩
        exact ⟨hf, ⟨ho, hk⟩, hb, hall, hnd, ⟨hnew, hdis⟩, hroot⟩

theorem rooted_append : Rooted stableKeys (old ++ new) ↔
    Rooted stableKeys old ∧ Rooted ((variantKeys old).reverse ++ stableKeys) new := by
  induction old generalizing stableKeys with
  | nil => exact ⟨fun h => ⟨trivial, h⟩, fun h => h.2⟩
  | cons variant old ih =>
      have hkeys : (variantKeys (variant :: old)).reverse ++ stableKeys =
          (variantKeys old).reverse ++ variant.game.stableKey :: stableKeys := by
        simp [variantKeys]
      rw [List.cons_append, Rooted, Rooted, ih, and_assoc, hkeys]

theorem rooted_of_games (h : ∀ variant ∈ variants, variant.familyStableKey ∈ stableKeys) :
    Rooted stableKeys variants := by
  induction variants generalizing stableKeys with
  | nil => trivial
  | cons variant variants ih =>
      refine ⟨h variant List.mem_cons_self, ih fun other hother => ?_⟩
      exact List.mem_cons_of_mem _ (h other (List.mem_cons_of_mem _ hother))

theorem rooted_mono (h : Rooted stableKeys variants)
    (hkeep : ∀ variant ∈ variants, variant.familyStableKey ∈ stableKeys →
      variant.familyStableKey ∈ keys) : Rooted keys variants := by
  induction variants generalizing stableKeys keys with
  | nil => trivial
  | cons variant variants ih =>
      refine ⟨hkeep variant List.mem_cons_self h.1, ih h.2 fun other hother hmem => ?_⟩
      rcases List.mem_cons.1 hmem with heq | hmem
      · exact heq ▸ List.mem_cons_self
      · exact List.mem_cons_of_mem _ (hkeep other (List.mem_cons_of_mem _ hother) hmem)

theorem mem_of_rooted (h : Rooted stableKeys variants) :
    ∀ variant ∈ variants, variant.familyStableKey ∈ stableKeys ∨
      variant.familyStableKey ∈ variantKeys variants := by
  induction variants generalizing stableKeys with
  | nil => exact fun _ h => absurd h List.not_mem_nil
  | cons variant variants ih =>
      intro other hother
      rcases List.mem_cons.1 hother with rfl | hother
      · exact Or.inl h.1
      · rcases ih h.2 other hother with hmem | hmem
        · rcases List.mem_cons.1 hmem with heq | hmem
          · exact Or.inr (heq ▸ List.mem_cons_self)
          · exact Or.inl hmem
        · exact Or.inr (List.mem_cons_of_mem _ hmem)

/-- A system the validation accepts. -/
structure FastFiveSystem.Valid (system : FastFiveSystem) : Prop where
  id : (SystemId.parse system.systemId).isSome = true
  title : blank system.displayTitle = false
  games : ∀ game ∈ system.games, blank game.title = false ∧ blank game.launchRef = false ∧
    game.Fits system.systemId
  variants : ∀ variant ∈ system.variants, variant.game.Fits system.systemId
  distinct : (gameKeys system.games ++ variantKeys system.variants).Nodup
  rooted : Rooted (gameKeys system.games) system.variants

theorem validate_ok : system.validate = .ok () ↔ system.Valid := by
  unfold FastFiveSystem.validate
  rw [ensure_then_ok, ensure_then_ok, Bool.not_eq_true']
  have hmem : ∀ key, key ∈ (gameKeys system.games).reverse ++ [] ↔ key ∈ gameKeys system.games := by
    simp
  have hdis : (variantKeys system.variants).Disjoint ((gameKeys system.games).reverse ++ []) ↔
      (gameKeys system.games).Disjoint (variantKeys system.variants) := by
    rw [List.disjoint_comm, List.append_nil, List.disjoint_reverse_left]
  have hroot : Rooted ((gameKeys system.games).reverse ++ []) system.variants ↔
      Rooted (gameKeys system.games) system.variants :=
    ⟨fun h => rooted_mono h fun _ _ => (hmem _).1, fun h => rooted_mono h fun _ _ => (hmem _).2⟩
  constructor
  · rintro ⟨hid, htitle, h⟩
    cases hg : system.validateGames [] system.games with
    | error message =>
        rw [hg] at h
        cases h
    | ok keys =>
        rw [hg] at h
        obtain ⟨hgames, hnodup, _, rfl⟩ := validateGames_ok.1 hg
        obtain ⟨hvariants, hnodup', hapart, hrooted⟩ := validateVariants_ok.1 h
        exact ⟨hid, htitle, hgames, hvariants,
          List.nodup_append'.2 ⟨hnodup, hnodup', hdis.1 hapart⟩, hroot.1 hrooted⟩
  · rintro ⟨hid, htitle, hgames, hvariants, hnodup, hrooted⟩
    obtain ⟨hnodup, hnodup', hapart⟩ := List.nodup_append'.1 hnodup
    have hg : system.validateGames [] system.games = .ok ((gameKeys system.games).reverse ++ []) :=
      validateGames_ok.2 ⟨hgames, hnodup, List.disjoint_nil_right _, rfl⟩
    refine ⟨hid, htitle, ?_⟩
    rw [hg]
    exact validateVariants_ok.2 ⟨hvariants, hnodup', hdis.2 hapart, hroot.2 hrooted⟩

end Validation

section Collapsed

variable {system : FastFiveSystem} {games : List SystemGame} {variant : FastFiveGameVariant}

/-- The new variants, in their order. -/
def newVariants (system : FastFiveSystem) : List FastFiveGameVariant :=
  (collapsedGames system.games).insertionSort variantBefore

theorem newVariants_perm : (newVariants system).Perm (collapsedGames system.games) :=
  List.perm_insertionSort _ _

theorem keys_collapsed_perm : (gameKeys (visibleGames games) ++
    variantKeys (collapsedGames games)).Perm (gameKeys games) := by
  have hperm := (@visible_collapsed_perm games).map SystemGame.stableKey
  rw [List.map_append, List.map_map] at hperm
  exact hperm

theorem keys_newVariants_perm : (gameKeys (visibleGames system.games) ++
    variantKeys (newVariants system)).Perm (gameKeys system.games) :=
  ((newVariants_perm.map _).append_left _).trans keys_collapsed_perm

/-- **A new variant's family stays, and has its compact title.** -/
theorem newVariant_family (h : variant ∈ newVariants system) :
    ∃ family ∈ visibleGames system.games, family.stableKey = variant.familyStableKey ∧
      familyTitle family = familyTitle variant.game := by
  obtain ⟨game, _, family, hfamily, rfl⟩ := mem_collapsedGames.1 (newVariants_perm.mem_iff.1 h)
  obtain ⟨hmem, htitle, hstays⟩ := familyOf_family hfamily
  refine ⟨family, List.mem_filter.2 ⟨hmem, ?_⟩, rfl, htitle⟩
  rw [hstays]
  rfl

theorem keys_collapsedSystem_perm : (gameKeys (collapsedSystem system).games ++
    variantKeys (collapsedSystem system).variants).Perm
      (gameKeys system.games ++ variantKeys system.variants) := by
  have happ : variantKeys (collapsedSystem system).variants =
      variantKeys system.variants ++ variantKeys (newVariants system) := List.map_append
  rw [happ]
  calc (gameKeys (visibleGames system.games) ++
      (variantKeys system.variants ++ variantKeys (newVariants system))).Perm
        (gameKeys (visibleGames system.games) ++
          (variantKeys (newVariants system) ++ variantKeys system.variants)) :=
        List.perm_append_comm.append_left _
    List.Perm _ (gameKeys system.games ++ variantKeys system.variants) := by
        rw [← List.append_assoc]
        exact keys_newVariants_perm.append_right _

theorem rooted_collapsed (h : system.Valid) :
    Rooted (gameKeys (visibleGames system.games)) system.variants ↔
      ∀ variant ∈ system.variants, variant.familyStableKey ∉ variantKeys (newVariants system) := by
  have hgames : ∀ key, key ∈ gameKeys system.games ↔
      key ∈ gameKeys (visibleGames system.games) ∨ key ∈ variantKeys (newVariants system) :=
    fun key => keys_newVariants_perm.mem_iff.symm.trans List.mem_append
  obtain ⟨hnodup, _, hapart⟩ := List.nodup_append'.1 h.distinct
  have hnew : (gameKeys (visibleGames system.games)).Disjoint (variantKeys (newVariants system)) :=
    (List.nodup_append'.1 (keys_newVariants_perm.nodup_iff.2 hnodup)).2.2
  constructor
  · intro hrooted variant hvariant hgone
    rcases mem_of_rooted hrooted variant hvariant with hmem | hmem
    · exact hnew hmem hgone
    · exact hapart ((hgames _).2 (Or.inr hgone)) hmem
  · intro hstay
    exact rooted_mono h.rooted fun variant hvariant hmem =>
      ((hgames _).1 hmem).resolve_right (hstay variant hvariant)

/-- **The collapse keeps a system valid unless a variant names a game that goes.** -/
theorem collapsedSystem_valid (h : system.Valid) : (collapsedSystem system).Valid ↔
    ∀ variant ∈ system.variants, variant.familyStableKey ∉ variantKeys (newVariants system) := by
  rw [← rooted_collapsed h]
  constructor
  · exact fun hvalid => (rooted_append.1 hvalid.rooted).1
  · intro hrooted
    refine ⟨h.id, h.title, fun game hgame => h.games game (List.mem_of_mem_filter hgame), ?_,
      keys_collapsedSystem_perm.nodup_iff.2 h.distinct, rooted_append.2 ⟨hrooted, ?_⟩⟩
    · intro variant hvariant
      rcases List.mem_append.1 hvariant with hold | hnew
      · exact h.variants variant hold
      · obtain ⟨game, hgame, family, _, rfl⟩ :=
          mem_collapsedGames.1 (newVariants_perm.mem_iff.1 hnew)
        exact (h.games game hgame).2.2
    · have hfamilies : ∀ variant ∈ newVariants system,
          variant.familyStableKey ∈ gameKeys (visibleGames system.games) := by
        intro variant hvariant
        obtain ⟨family, hfamily, hkey, _⟩ := newVariant_family hvariant
        exact hkey ▸ List.mem_map_of_mem hfamily
      refine rooted_of_games fun variant hvariant => ?_
      exact List.mem_append_right _ (hfamilies variant hvariant)

end Collapsed

/-! ## 6. The collapse of an accepted snapshot -/

theorem snapshot_validate_ok {snapshot : FastFiveSnapshot} : snapshot.validate = .ok () ↔
    snapshot.schema = FAST_FIVE_SNAPSHOT_SCHEMA ∧
      validateFingerprint snapshot.sourceFingerprint = .ok () ∧ snapshot.systems ≠ [] ∧
      (snapshot.systems.map FastFiveSystem.systemId).Nodup ∧
      ∀ system ∈ snapshot.systems, system.Valid := by
  have hall : ∀ systems : List FastFiveSystem, systems.forM FastFiveSystem.validate = .ok () ↔
      ∀ system ∈ systems, system.Valid := by
    intro systems
    induction systems with
    | nil => exact ⟨fun _ _ h => absurd h List.not_mem_nil, fun _ => rfl⟩
    | cons system systems ih =>
        have hstep : (system :: systems).forM FastFiveSystem.validate =
            (system.validate >>= fun _ => systems.forM FastFiveSystem.validate) := rfl
        rw [List.forall_mem_cons, ← ih, ← validate_ok, hstep]
        cases system.validate with
        | ok => exact ⟨fun h => ⟨rfl, h⟩, fun h => h.2⟩
        | error message => exact ⟨nofun, nofun⟩
  unfold FastFiveSnapshot.validate validateFingerprint
  simp only [ensure_then_ok, ensure_ok, hall, decide_eq_true_eq, Bool.not_eq_true',
    List.isEmpty_eq_false_iff]

/-- What a collapse makes of a system, `new` being the variants it adds. -/
structure FastFiveSystem.Collapses (system result : FastFiveSystem)
    (new : List FastFiveGameVariant) : Prop where
  named : result.systemId = system.systemId ∧ result.displayTitle = system.displayTitle
  added : result.variants = system.variants ++ new
  nothing_lost : (result.games ++ result.variants.map FastFiveGameVariant.game).Perm
    (system.games ++ system.variants.map FastFiveGameVariant.game)
  in_order : result.games.Sublist system.games
  family : ∀ variant ∈ new, ∃ family ∈ result.games,
    family.stableKey = variant.familyStableKey ∧ familyTitle family = familyTitle variant.game
  kept : ∀ variant ∈ system.variants, variant.familyStableKey ∈ gameKeys system.games →
    variant.familyStableKey ∉ variantKeys new → variant.familyStableKey ∈ gameKeys result.games

theorem collapses_self (system : FastFiveSystem) : system.Collapses system [] where
  named := ⟨rfl, rfl⟩
  added := (List.append_nil _).symm
  nothing_lost := List.Perm.refl _
  in_order := List.Sublist.refl _
  family := fun _ h => absurd h List.not_mem_nil
  kept := fun _ _ h _ => h

theorem collapses_c64 (system : FastFiveSystem) :
    system.Collapses (collapsedSystem system) (newVariants system) where
  named := ⟨rfl, rfl⟩
  added := rfl
  nothing_lost := by
    have happ : (collapsedSystem system).variants.map FastFiveGameVariant.game =
        system.variants.map FastFiveGameVariant.game ++
          (newVariants system).map FastFiveGameVariant.game := List.map_append
    have hperm : (visibleGames system.games ++
        (newVariants system).map FastFiveGameVariant.game).Perm system.games :=
      ((newVariants_perm.map _).append_left _).trans visible_collapsed_perm
    rw [happ]
    refine (List.perm_append_comm.append_left _).trans ?_
    rw [← List.append_assoc]
    exact hperm.append_right _
  in_order := List.filter_sublist
  family := fun _ h => newVariant_family h
  kept := fun _ _ hgames hstays =>
    (List.mem_append.1 (keys_newVariants_perm.mem_iff.2 hgames)).resolve_right hstays

/-- **The collapse of a system of an accepted snapshot loses nothing and is done in one go; the
snapshot is accepted afterwards exactly when no variant it had before names a game that went.** -/
theorem c64_variants_collapsed (snapshot : FastFiveSnapshot) (before after : List FastFiveSystem)
    (system : FastFiveSystem) (hsystems : snapshot.systems = before ++ system :: after)
    (haccepted : snapshot.validate = .ok ()) :
    ∃ new : List FastFiveGameVariant,
      system.Collapses (collapseC64CrossSourceVariants system).1 new ∧
      (collapseC64CrossSourceVariants system).2 = new.length ∧
      (FastFiveSnapshot.validate { snapshot with
          systems := before ++ (collapseC64CrossSourceVariants system).1 :: after } = .ok () ↔
        ∀ variant ∈ system.variants, variant.familyStableKey ∉ variantKeys new) ∧
      collapseC64CrossSourceVariants (collapseC64CrossSourceVariants system).1 =
        ((collapseC64CrossSourceVariants system).1, 0) := by
  obtain ⟨hschema, hfingerprint, _, hnodup, hvalid⟩ := snapshot_validate_ok.1 haccepted
  rw [hsystems] at hnodup hvalid
  have hsystem : system.Valid := hvalid system (by simp)
  have hreplaced : ∀ result : FastFiveSystem, result.systemId = system.systemId →
      (FastFiveSnapshot.validate { snapshot with systems := before ++ result :: after } = .ok () ↔
        result.Valid) := by
    intro result hid
    rw [snapshot_validate_ok]
    constructor
    · exact fun h => h.2.2.2.2 result (by simp)
    · intro hresult
      refine ⟨hschema, hfingerprint, by simp, ?_, fun other hother => ?_⟩
      · rw [List.map_append, List.map_cons, hid, ← List.map_cons, ← List.map_append]
        exact hnodup
      · rcases List.mem_append.1 hother with hb | ha
        · exact hvalid other (List.mem_append_left _ hb)
        · rcases List.mem_cons.1 ha with rfl | ha
          · exact hresult
          · exact hvalid other (List.mem_append_right _ (List.mem_cons_of_mem _ ha))
  by_cases hid : system.systemId = "c64"
  · rw [collapse_c64 hid]
    refine ⟨newVariants system, collapses_c64 system, newVariants_perm.length_eq.symm, ?_, ?_⟩
    · exact (hreplaced (collapsedSystem system) rfl).trans (collapsedSystem_valid hsystem)
    · have hnil : collapsedGames (collapsedSystem system).games = [] := collapsedGames_visible
      have hagain : (collapsedSystem system).systemId = "c64" := hid
      rw [collapse_c64 hagain, collapsedSystem_eq_self hnil, hnil]
      rfl
  · rw [collapse_other hid]
    refine ⟨[], collapses_self system, rfl, ?_, collapse_other hid⟩
    exact (hreplaced system rfl).trans ⟨fun _ _ _ => List.not_mem_nil, fun _ => hsystem⟩

/-! ## 7. Two sources of one title -/

/-- A C64 row with nothing but a stable key, a title and a launch reference. -/
def c64Game (stableKey title launchRef : String) : SystemGame where
  stableKey := stableKey
  title := title
  launchRef := launchRef
  previewArchivePath := ""
  previewAssetKey := ""
  hasPreview := false
  year := none
  manufacturer := ""
  category := ""
  players := none
  control := ""
  isNew := false
  launchPlan := none

def nightOneload : SystemGame := c64Game "c64\x1fa" "Night" "OneLoad64"

def nightDisk : SystemGame := c64Game "c64\x1fb" "Night(de)" "b"

def nightTape : SystemGame := c64Game "c64\x1fc" "Night" "c"

/-- A snapshot of one system. -/
def oneSystem (system : FastFiveSystem) : FastFiveSnapshot where
  schema := FAST_FIVE_SNAPSHOT_SCHEMA
  sourceFingerprint := String.ofList (List.replicate 64 '0')
  systems := [system]

def twoSources : FastFiveSystem := ⟨"c64", "C64", [nightOneload, nightDisk], []⟩

theorem two_sources_collapsed : ∃ new : List FastFiveGameVariant,
    twoSources.Collapses (collapseC64CrossSourceVariants twoSources).1 new ∧
    (collapseC64CrossSourceVariants twoSources).2 = new.length ∧
    (FastFiveSnapshot.validate { oneSystem twoSources with
        systems := [] ++ (collapseC64CrossSourceVariants twoSources).1 :: [] } = .ok () ↔
      ∀ variant ∈ twoSources.variants, variant.familyStableKey ∉ variantKeys new) ∧
    collapseC64CrossSourceVariants (collapseC64CrossSourceVariants twoSources).1 =
      ((collapseC64CrossSourceVariants twoSources).1, 0) :=
  c64_variants_collapsed (oneSystem twoSources) [] [] twoSources rfl (by decide +kernel)

/-- The tape is a variant of the German disk, which goes. -/
def tapeOfDisk : FastFiveSystem :=
  ⟨"c64", "C64", [nightOneload, nightDisk],
    [⟨nightDisk.stableKey, .titleFormatting, nightTape⟩]⟩

/-- The tape is a variant of the German disk, itself a variant. -/
def tapeOfVariant : FastFiveSystem :=
  ⟨"c64", "C64", [nightOneload],
    [⟨nightOneload.stableKey, .languageEdition, nightDisk⟩,
      ⟨nightDisk.stableKey, .titleFormatting, nightTape⟩]⟩

/-- **A variant of a game that goes is left without its family; and a variant of a variant, which
the validation accepts, never had a visible one.** -/
theorem collapse_orphans_a_variant :
    ((oneSystem tapeOfDisk).validate = .ok () ∧
      (oneSystem (collapseC64CrossSourceVariants tapeOfDisk).1).validate ≠ .ok ()) ∧
    ((oneSystem tapeOfVariant).validate = .ok () ∧
      ∃ variant ∈ (collapseC64CrossSourceVariants tapeOfVariant).1.variants,
        variant.familyStableKey ∉
          gameKeys (collapseC64CrossSourceVariants tapeOfVariant).1.games) := by
  decide +kernel

end MisterMagik.Catalog
