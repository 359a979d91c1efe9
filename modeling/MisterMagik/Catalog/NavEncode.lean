/-
  File:      MisterMagik/Catalog/NavEncode.lean
  Subject:   How a navigation pack is written: its indexes and its bytes
             (crates/catalog/src/system_shard.rs, crates/catalog/src/navpack.rs).

  `sort_unstable_by` is any function from a comparison to an order of the ordinals. A `BTreeMap` is
  a list kept in the order of its keys, a `HashMap` of references the list of what was interned.

  * `buildNavigationIndexes` -- ordinals by title, preview and launch, and the postings;
  * `Strings.intern` -- one copy of each text;
  * `encode` -- the sections, the header over them, and the check of what was written.
-/
import MisterMagik.Catalog.NavIndexes
import MisterMagik.Catalog.Snapshot

namespace MisterMagik.Catalog

open MisterMagik.Base

/-! ## 1. The navigation indexes -/

structure SystemNavigationIndexes where
  titleOrdinals : List UInt32
  previewOrdinals : List UInt32
  launchOrdinals : List UInt32
  categories : List (String × List UInt32)
  decades : List (UInt16 × List UInt32)
  manufacturers : List (String × List UInt32)
  players : List (UInt8 × List UInt32)
  controls : List (String × List UInt32)
  deriving DecidableEq

/-- `entry(key).or_default().push(ordinal)`. -/
def post {κ : Type} [DecidableEq κ] (lt : κ → κ → Bool) (key : κ) (ordinal : UInt32) :
    List (κ × List UInt32) → List (κ × List UInt32)
  | [] => [(key, [ordinal])]
  | (k, ordinals) :: rest =>
      if k = key then (k, ordinals ++ [ordinal]) :: rest
      else if lt key k then (key, [ordinal]) :: (k, ordinals) :: rest
      else (k, ordinals) :: post lt key ordinal rest

/-- `trim`. -/
def trim (value : String) : String :=
  String.ofList ((value.toList.dropWhile isWhitespace).rdropWhile isWhitespace)

/-- A label is posted where there is one. -/
def postLabel (value : String) (ordinal : UInt32) (postings : List (String × List UInt32)) :
    List (String × List UInt32) :=
  if trim value = "" then postings else post strLt (trim value) ordinal postings

/-- A row has a preview that can be shown. -/
def hasExactPreview (game : SystemGame) : Bool :=
  game.hasPreview && game.previewArchivePath ≠ "" && game.previewAssetKey ≠ ""

/-- One game, at its ordinal. -/
def indexGame (indexes : SystemNavigationIndexes) (ordinal : UInt32) (game : SystemGame) :
    SystemNavigationIndexes where
  titleOrdinals := indexes.titleOrdinals
  previewOrdinals :=
    if hasExactPreview game then indexes.previewOrdinals ++ [ordinal] else indexes.previewOrdinals
  launchOrdinals :=
    if game.launchPlan.isSome then indexes.launchOrdinals ++ [ordinal] else indexes.launchOrdinals
  categories := postLabel game.category ordinal indexes.categories
  decades := match game.year with
    | some year => post (fun a b => decide (a < b)) (year / 10 * 10) ordinal indexes.decades
    | none => indexes.decades
  manufacturers := postLabel game.manufacturer ordinal indexes.manufacturers
  players := match game.players with
    | some count => post (fun a b => decide (a < b)) count ordinal indexes.players
    | none => indexes.players
  controls := postLabel game.control ordinal indexes.controls

/-- `u32::try_from`, of a row's index. -/
def toOrdinal (i : Nat) : Reads UInt32 := do
  check (i < 2 ^ 32) "game ordinal exceeds u32"
  pure (UInt32.ofNat i)

/-- The loop over the games, from an index on. -/
def indexGames : Nat → List SystemGame → SystemNavigationIndexes → Reads SystemNavigationIndexes
  | _, [], indexes => pure indexes
  | i, game :: games, indexes => do
    let ordinal ← toOrdinal i
    indexGames (i + 1) games (indexGame indexes ordinal game)

/-- `collect::<Result<_, _>>`. -/
def toOrdinals : List Nat → Reads (List UInt32)
  | [] => pure []
  | i :: rest => do
    let ordinal ← toOrdinal i
    let ordinals ← toOrdinals rest
    pure (ordinal :: ordinals)

def titleKey (games : List SystemGame) (ordinal : Nat) : String × String :=
  match games[ordinal]? with
  | some game => (game.title.toLower, game.stableKey)
  | none => ("", "")

/-- Titles without their case, then stable keys. -/
def titleBefore (games : List SystemGame) (left right : Nat) : Bool :=
  let a := titleKey games left
  let b := titleKey games right
  strLt a.1 b.1 || (a.1 = b.1 && !strLt b.2 a.2)

def launchRefOf (games : List SystemGame) (ordinal : UInt32) : String :=
  match games[ordinal.toNat]? with
  | some game => game.launchRef
  | none => ""

def launchBefore (games : List SystemGame) (left right : UInt32) : Bool :=
  !strLt (launchRefOf games right) (launchRefOf games left)

def buildNavigationIndexes (sort : {α : Type} → (α → α → Bool) → List α → List α)
    (games : List SystemGame) : Reads SystemNavigationIndexes := do
  let titles := sort (titleBefore games) (List.range games.length)
  let indexes ← indexGames 0 games ⟨[], [], [], [], [], [], [], []⟩
  let titleOrdinals ← toOrdinals titles
  pure { indexes with
    titleOrdinals := titleOrdinals
    launchOrdinals := sort (launchBefore games) indexes.launchOrdinals }

/-! ## 2. Interned texts -/

structure Strings where
  bytes : List UInt8
  refs : List (String × (Nat × Nat))

abbrev Interning (α : Type) := StateT Strings Reads α

/-- The text is appended. -/
def Strings.append (value : String) : Interning (Nat × Nat) := fun strings => do
  check (strings.bytes.length < 2 ^ 32) "NavPack string table exceeds 32-bit offsets"
  check ((utf8 value).length < 2 ^ 32) "NavPack string exceeds 32-bit length"
  let reference := (strings.bytes.length, (utf8 value).length)
  pure (reference, ⟨strings.bytes ++ utf8 value, (value, reference) :: strings.refs⟩)

def Strings.intern (value : String) : Interning (Nat × Nat) := fun strings =>
  match strings.refs.lookup value with
  | some reference => .ok (reference, strings)
  | none => Strings.append value strings

/-! ## 3. Rows, metadata and launch plans -/

structure Tables where
  rows : List UInt8
  cold : List UInt8
  launches : List UInt8
  nextLaunch : Nat

def flagsOf (game : SystemGame) : Nat :=
  (if game.hasPreview then 1 else 0) + (if game.isNew then 2 else 0)

def encodeRow (game : SystemGame) (ordinal launchIndex : Nat) : Interning (List UInt8) := do
  let title ← Strings.intern game.title
  let launchRef ← Strings.intern game.launchRef
  let archive ← Strings.intern game.previewArchivePath
  let assetKey ← Strings.intern game.previewAssetKey
  liftM (check (ordinal < 2 ^ 32) "NavPack ordinal exceeds 32 bits")
  pure [spellRef title, spellRef launchRef, spellRef archive, spellRef assetKey, leBytes 4 ordinal,
    leBytes 4 launchIndex, leBytes 4 (flagsOf game), leBytes 4 0].flatten

/-- `unwrap_or(u16::MAX)`. -/
def yearCode (year : Option UInt16) : Nat := (year.map UInt16.toNat).getD NONE_U16

/-- `unwrap_or(u8::MAX)`. -/
def playersCode (players : Option UInt8) : Nat := (players.map UInt8.toNat).getD NONE_U8

def encodeMetadata (game : SystemGame) : Interning (List UInt8) := do
  let manufacturer ← Strings.intern game.manufacturer
  let category ← Strings.intern game.category
  let control ← Strings.intern game.control
  pure [leBytes 2 (yearCode game.year), leBytes 1 (playersCode game.players), leBytes 1 0,
    spellRef manufacturer, spellRef category, spellRef control, leBytes 4 0].flatten

def encodeLaunch (plan : SystemLaunchPlan) : Interning (List UInt8) := do
  let launchRef ← Strings.intern plan.launchRef
  let title ← Strings.intern plan.title
  let systemId ← Strings.intern plan.systemId
  let corePath ← Strings.intern plan.corePath
  let payloadPath ← Strings.intern plan.payloadPath
  let mountKind ← Strings.intern plan.mountKind
  pure [spellRef launchRef, spellRef title, spellRef systemId, spellRef corePath,
    spellRef payloadPath, spellRef mountKind, leBytes 1 plan.mountIndex.toNat,
    leBytes 1 plan.delaySecs.toNat, List.replicate (NAVPACK_LAUNCH_BYTES - 50) 0].flatten

/-- A game without a launch plan. -/
def encodeBareGame (tables : Tables) (ordinal : Nat) (game : SystemGame) : Interning Tables := do
  let row ← encodeRow game ordinal NONE_U32
  let metadata ← encodeMetadata game
  pure ⟨tables.rows ++ row, tables.cold ++ metadata, tables.launches, tables.nextLaunch⟩

/-- A game with one: the plan takes the next index. -/
def encodePlannedGame (tables : Tables) (ordinal : Nat) (game : SystemGame)
    (plan : SystemLaunchPlan) : Interning Tables := do
  let row ← encodeRow game ordinal tables.nextLaunch
  liftM (check (tables.nextLaunch + 1 < 2 ^ 32) "NavPack launch count overflow")
  let metadata ← encodeMetadata game
  let launch ← encodeLaunch plan
  pure ⟨tables.rows ++ row, tables.cold ++ metadata, tables.launches ++ launch,
    tables.nextLaunch + 1⟩

def encodeGame (tables : Tables) (ordinal : Nat) (game : SystemGame) : Interning Tables :=
  match game.launchPlan with
  | none => encodeBareGame tables ordinal game
  | some plan => encodePlannedGame tables ordinal game plan

/-- The loop over the games, from an ordinal on. -/
def encodeGames : Nat → List SystemGame → Tables → Interning Tables
  | _, [], tables => pure tables
  | ordinal, game :: games, tables => do
    let tables ← encodeGame tables ordinal game
    encodeGames (ordinal + 1) games tables

/-! ## 4. The index section -/

def putOrdinals (ordinals : List UInt32) : List UInt8 :=
  ordinals.flatMap fun ordinal => leBytes 4 ordinal.toNat

def encodeOrdinals (ordinals : List UInt32) : Reads (List UInt8) := do
  check (ordinals.length < 2 ^ 32) "too many NavPack ordinals"
  pure (leBytes 4 ordinals.length ++ putOrdinals ordinals)

/-- The groups of a table, one after another. -/
def encodeGroups {κ : Type} (encodeKey : κ → Interning (List UInt8)) :
    List (κ × List UInt32) → Interning (List UInt8)
  | [] => pure []
  | (key, ordinals) :: groups => do
    let raw ← encodeKey key
    let list ← liftM (encodeOrdinals ordinals)
    let rest ← encodeGroups encodeKey groups
    pure (raw ++ list ++ rest)

def encodePostings {κ : Type} (encodeKey : κ → Interning (List UInt8))
    (groups : List (κ × List UInt32)) : Interning (List UInt8) := do
  liftM (check (groups.length < 2 ^ 32) "too many NavPack postings")
  let raw ← encodeGroups encodeKey groups
  pure (leBytes 4 groups.length ++ raw)

def encodeStringPostings (groups : List (String × List UInt32)) : Interning (List UInt8) :=
  encodePostings (fun value => do
    let reference ← Strings.intern value
    pure (spellRef reference)) groups

def encodeU16Postings (groups : List (UInt16 × List UInt32)) : Interning (List UInt8) :=
  encodePostings (fun value => pure (leBytes 2 value.toNat ++ leBytes 2 0)) groups

def encodeU8Postings (groups : List (UInt8 × List UInt32)) : Interning (List UInt8) :=
  encodePostings (fun value => pure (leBytes 1 value.toNat ++ [0, 0, 0])) groups

def encodeIndexes (indexes : SystemNavigationIndexes) : Interning (List UInt8) := do
  let titles ← liftM (encodeOrdinals indexes.titleOrdinals)
  let previews ← liftM (encodeOrdinals indexes.previewOrdinals)
  let launches ← liftM (encodeOrdinals indexes.launchOrdinals)
  let categories ← encodeStringPostings indexes.categories
  let decades ← encodeU16Postings indexes.decades
  let manufacturers ← encodeStringPostings indexes.manufacturers
  let players ← encodeU8Postings indexes.players
  let controls ← encodeStringPostings indexes.controls
  pure (titles ++ (previews ++ (launches ++ (categories ++ (decades ++ (manufacturers ++
    (players ++ controls)))))))

/-! ## 5. The prelude -/

/-- What the prelude says of the preview that is selected. -/
structure SelectedPreview where
  ordinal : Nat
  flags : Nat
  title : List UInt8
  archive : List UInt8
  assetKey : List UInt8

/-- The first game's preview, if it can be shown. -/
def selectPreview (games : List SystemGame) : SelectedPreview :=
  match games.head?.filter hasExactPreview with
  | some game => ⟨0, PRELUDE_FLAG_EXACT_PREVIEW, utf8 game.title, utf8 game.previewArchivePath,
      utf8 game.previewAssetKey⟩
  | none => ⟨NONE_U32, PRELUDE_FLAG_TERMINAL_EMPTY, [], [], []⟩

def encodeEntryPrelude (games : List SystemGame) (indexes : SystemNavigationIndexes) :
    Reads (List UInt8) := do
  let viewport := indexes.titleOrdinals.take NAVPACK_ENTRY_VIEWPORT_ROWS
  let selected := selectPreview games
  let totalBytes := PRELUDE_HEADER_BYTES + viewport.length * 4 + selected.title.length +
    selected.archive.length + selected.assetKey.length
  check (totalBytes < 2 ^ 64) "NavPack entry prelude size overflow"
  check (totalBytes < 2 ^ 32) "NavPack entry prelude exceeds 32 bits"
  check (viewport.length < 2 ^ 32) "too many entry viewport ordinals"
  check (selected.title.length < 2 ^ 32 ∧ selected.archive.length < 2 ^ 32 ∧
    selected.assetKey.length < 2 ^ 32) "NavPack entry identity exceeds 32 bits"
  pure [PRELUDE_MAGIC, leBytes 4 PRELUDE_VERSION, leBytes 4 totalBytes, leBytes 4 viewport.length,
    leBytes 4 selected.ordinal, leBytes 4 selected.flags, leBytes 4 0,
    leBytes 4 selected.title.length, leBytes 4 selected.archive.length,
    leBytes 4 selected.assetKey.length, leBytes 4 0, putOrdinals viewport, selected.title,
    selected.archive, selected.assetKey].flatten

/-! ## 6. The file -/

/-- The next multiple of eight after a section. -/
def alignedAfter (offset length : Nat) : Reads Nat := do
  check (offset + length + 7 < 2 ^ 64) "NavPack offset overflow"
  pure ((offset + length + 7) / 8 * 8)

/-- The contents of the sections. -/
structure Contents where
  prelude : List UInt8
  rows : List UInt8
  cold : List UInt8
  launches : List UInt8
  indexes : List UInt8
  strings : List UInt8

/-- Where they go. -/
structure Offsets where
  rows : Nat
  cold : Nat
  launches : Nat
  indexes : Nat
  strings : Nat
  total : Nat

def layOut (contents : Contents) : Reads Offsets := do
  let rows ← alignedAfter NAVPACK_HEADER_BYTES contents.prelude.length
  let cold ← alignedAfter rows contents.rows.length
  let launches ← alignedAfter cold contents.cold.length
  let indexes ← alignedAfter launches contents.launches.length
  let strings ← alignedAfter indexes contents.indexes.length
  check (strings + contents.strings.length < 2 ^ 64) "NavPack size overflow"
  pure ⟨rows, cold, launches, indexes, strings, strings + contents.strings.length⟩

def encodeHeader (generation gameCount launchCount : Nat) (systemRef : Nat × Nat)
    (contents : Contents) (offsets : Offsets) : List UInt8 :=
  [MAGIC, leBytes 4 NAVPACK_SCHEMA_VERSION, leBytes 4 NAVPACK_HEADER_BYTES,
    leBytes 4 ENDIAN_MARKER, leBytes 4 NAVPACK_ROW_BYTES, leBytes 4 NAVPACK_COLD_BYTES,
    leBytes 4 NAVPACK_LAUNCH_BYTES, leBytes 8 generation, leBytes 4 gameCount,
    leBytes 4 launchCount, spellRef systemRef,
    leBytes 8 offsets.rows, leBytes 8 contents.rows.length,
    leBytes 8 offsets.cold, leBytes 8 contents.cold.length,
    leBytes 8 offsets.launches, leBytes 8 contents.launches.length,
    leBytes 8 offsets.indexes, leBytes 8 contents.indexes.length,
    leBytes 8 offsets.strings, leBytes 8 contents.strings.length,
    leBytes 8 NAVPACK_HEADER_BYTES, leBytes 8 contents.prelude.length,
    List.replicate 8 0].flatten

/-- The sections over zeros, in the order they are copied; the header last. -/
def writeFile (header : List UInt8) (contents : Contents) (offsets : Offsets) : List UInt8 :=
  let output := List.replicate offsets.total 0
  let output := overwrite output NAVPACK_HEADER_BYTES contents.prelude
  let output := overwrite output offsets.rows contents.rows
  let output := overwrite output offsets.cold contents.cold
  let output := overwrite output offsets.launches contents.launches
  let output := overwrite output offsets.indexes contents.indexes
  let output := overwrite output offsets.strings contents.strings
  overwrite output 0 header

/-- What is interned, in the order it is. -/
def encodeContents (systemId : String) (games : List SystemGame)
    (indexes : SystemNavigationIndexes) : Interning ((Nat × Nat) × Tables × List UInt8) := do
  let systemRef ← Strings.intern systemId
  let tables ← encodeGames 0 games ⟨[], [], [], 0⟩
  let raw ← encodeIndexes indexes
  pure (systemRef, tables, raw)

def encode (systemId : String) (generation : Nat) (games : List SystemGame)
    (indexes : SystemNavigationIndexes) : Reads (List UInt8) := do
  check (games.length < 2 ^ 32) "too many NavPack rows"
  let launchCount := games.countP fun game => game.launchPlan.isSome
  let ((systemRef, tables, raw), strings) ← encodeContents systemId games indexes ⟨[], []⟩
  let prelude ← encodeEntryPrelude games indexes
  let contents : Contents := ⟨prelude, tables.rows, tables.cold, tables.launches, raw,
    strings.bytes⟩
  let offsets ← layOut contents
  check (launchCount < 2 ^ 32) "too many NavPack launch plans"
  let header := encodeHeader generation games.length launchCount systemRef contents offsets
  let output := writeFile header contents offsets
  let _ ← validate output systemId generation games.length
  pure output

end MisterMagik.Catalog
