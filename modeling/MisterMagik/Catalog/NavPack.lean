/-
  File:      MisterMagik/Catalog/NavPack.lean
  Subject:   A system navigation pack, as it is checked and as it is read
             (crates/catalog/src/navpack.rs).

  Sizes are those of a 64-bit `usize`: every sum the source checks is then bounded by the number of
  bytes, and exact. The header is read before it is compared: its fields lie within its 160 bytes.

  * `validate` -- what a published file is checked against, row by row;
  * `validateHeader`, `MappedNavPack.openPack` -- what is checked when it is opened;
  * `MappedNavPack.row`, `.metadata`, `.launch`, `.entryPrelude`, `.filterCounts` -- the readers.
-/
import MisterMagik.Base.Bytes

namespace MisterMagik.Catalog

open MisterMagik.Base

/-! ## 1. Numbers, sections and texts -/

def NAVPACK_SCHEMA_VERSION : Nat := 2
def NAVPACK_HEADER_BYTES : Nat := 160
def NAVPACK_ROW_BYTES : Nat := 48
def NAVPACK_COLD_BYTES : Nat := 32
def NAVPACK_LAUNCH_BYTES : Nat := 64
def NAVPACK_ENTRY_VIEWPORT_ROWS : Nat := 10
def MAGIC : List UInt8 := utf8 "MGKNAVP2"
def PRELUDE_MAGIC : List UInt8 := utf8 "MGKPREL1"
def PRELUDE_VERSION : Nat := 1
def PRELUDE_HEADER_BYTES : Nat := 48
def PRELUDE_FLAG_TERMINAL_EMPTY : Nat := 1
def PRELUDE_FLAG_EXACT_PREVIEW : Nat := 2
def ENDIAN_MARKER : Nat := 0x01020304
def NONE_U32 : Nat := 0xFFFFFFFF
def NONE_U16 : Nat := 0xFFFF
def NONE_U8 : Nat := 0xFF

def readU16 (bytes : List UInt8) (offset : Nat) : Reads Nat :=
  readLe 2 "truncated NavPack u16" bytes offset

def readU32 (bytes : List UInt8) (offset : Nat) : Reads Nat :=
  readLe 4 "truncated NavPack u32" bytes offset

def readU64 (bytes : List UInt8) (offset : Nat) : Reads Nat :=
  readLe 8 "truncated NavPack u64" bytes offset

def readRef (bytes : List UInt8) (offset : Nat) : Reads (Nat × Nat) := do
  let start ← readU32 bytes offset
  let length ← readU32 bytes (offset + 4)
  pure (start, length)

def readSection (bytes : List UInt8) (offset : Nat) : Reads (Nat × Nat) := do
  let start ← readU64 bytes offset
  let length ← readU64 bytes (offset + 8)
  check (start + length ≤ bytes.length) "NavPack section is out of bounds"
  pure (start, length)

/-- `str::from_utf8`, with the text of its error. -/
def text (notUtf8 : String) (bytes : List UInt8) : Reads String :=
  match utf8? bytes with
  | some value => .ok value
  | none => fail notUtf8

/-- `get`, with the text of its error. -/
def get (truncated : String) (bytes : List UInt8) (start length : Nat) : Reads (List UInt8) :=
  match slice bytes start length with
  | some part => .ok part
  | none => fail truncated

def readString (strings : List UInt8) (reference : Nat × Nat) : Reads String := do
  let raw ← get "NavPack string reference is out of bounds" strings reference.1 reference.2
  text "NavPack string is not UTF-8" raw

/-- `read_string(strings, read_ref(bytes, offset)?)`. -/
def readText (bytes strings : List UInt8) (offset : Nat) : Reads String := do
  let reference ← readRef bytes offset
  readString strings reference

/-! ## 2. The entry prelude -/

structure NavPackPreviewIdentity where
  ordinal : Nat
  title : String
  previewArchivePath : String
  previewAssetKey : String
  deriving DecidableEq

structure NavPackEntryPrelude where
  firstViewportOrdinals : List Nat
  selectedPreview : Option NavPackPreviewIdentity
  terminalEmpty : Bool
  deriving DecidableEq

/-- The ordinals of the first viewport, from the `index`-th on. -/
def viewportOrdinals (bytes : List UInt8) (games : Nat) (index : Nat) : Nat → Reads (List Nat)
  | 0 => pure []
  | count + 1 => do
    let ordinal ← readU32 bytes (PRELUDE_HEADER_BYTES + index * 4)
    check (ordinal < games) "NavPack entry viewport ordinal is out of bounds"
    let ordinals ← viewportOrdinals bytes games (index + 1) count
    pure (ordinal :: ordinals)

/-- The preview that a prelude selects, from its three texts. -/
def selectedIdentity (games selectedOrdinal : Nat) (title archive assetKey : String) :
    Reads NavPackPreviewIdentity := do
  check (selectedOrdinal < games) "NavPack entry selected ordinal is out of bounds"
  check (archive ≠ "" ∧ assetKey ≠ "") "NavPack exact entry preview identity is empty"
  pure ⟨selectedOrdinal, title, archive, assetKey⟩

def parseEntryPrelude (bytes : List UInt8) (games : Nat) : Reads NavPackEntryPrelude := do
  check (PRELUDE_HEADER_BYTES ≤ bytes.length ∧ slice bytes 0 8 = some PRELUDE_MAGIC)
    "invalid NavPack entry prelude"
  let version ← readU32 bytes 8
  let totalBytes ← readU32 bytes 12
  check (version = PRELUDE_VERSION ∧ totalBytes = bytes.length)
    "unsupported NavPack entry prelude version or size"
  let viewportCount ← readU32 bytes 16
  check (viewportCount ≤ NAVPACK_ENTRY_VIEWPORT_ROWS ∧ viewportCount ≤ games)
    "NavPack entry viewport count is out of bounds"
  let selectedOrdinal ← readU32 bytes 20
  let flags ← readU32 bytes 24
  check (flags = PRELUDE_FLAG_TERMINAL_EMPTY ∨ flags = PRELUDE_FLAG_EXACT_PREVIEW)
    "NavPack entry preview state is not terminal"
  let titleBytes ← readU32 bytes 32
  let archiveBytes ← readU32 bytes 36
  let assetKeyBytes ← readU32 bytes 40
  let ordinalsEnd := PRELUDE_HEADER_BYTES + viewportCount * 4
  check (ordinalsEnd + titleBytes + archiveBytes + assetKeyBytes = bytes.length)
    "NavPack entry identity size mismatch"
  let ordinals ← viewportOrdinals bytes games 0 viewportCount
  let title ← get "truncated NavPack entry title" bytes ordinalsEnd titleBytes
  let title ← text "NavPack entry title is not UTF-8" title
  let archive ← get "truncated NavPack entry archive" bytes (ordinalsEnd + titleBytes) archiveBytes
  let archive ← text "NavPack entry archive is not UTF-8" archive
  let assetKey ← get "truncated NavPack entry asset key" bytes
    (ordinalsEnd + titleBytes + archiveBytes) assetKeyBytes
  let assetKey ← text "NavPack entry asset key is not UTF-8" assetKey
  if flags = PRELUDE_FLAG_EXACT_PREVIEW then do
    let identity ← selectedIdentity games selectedOrdinal title archive assetKey
    pure ⟨ordinals, some identity, false⟩
  else do
    check (selectedOrdinal = NONE_U32 ∧ titleBytes = 0 ∧ archiveBytes = 0 ∧ assetKeyBytes = 0)
      "NavPack empty entry preview carries an identity"
    pure ⟨ordinals, none, true⟩

/-! ## 3. The index section -/

def takeU32 : Takes Nat := takeLe 4 "truncated NavPack index"

/-- `read_u32(bytes, 0)`: nothing is taken. -/
def peekU32 : Takes Nat := fun bytes => do
  let value ← readU32 bytes 0
  pure (value, bytes)

/-- What is left is nothing. -/
def takeEnd : Takes Unit := fun bytes => do
  check bytes.isEmpty "NavPack index section has trailing bytes"
  pure ((), bytes)

def takeOrdinal (games : Nat) (_ : Unit) : Takes Unit := do
  let ordinal ← takeU32
  liftM (check (ordinal < games) "NavPack persisted index ordinal is out of bounds")

def takeOrdinals (games : Nat) : Takes Unit := do
  let count ← takeU32
  takeFold (takeOrdinal games) count ()

def takeRef : Takes (Nat × Nat) := do
  let start ← takeU32
  let length ← takeU32
  pure (start, length)

def takeLabel (strings : List UInt8) : Takes String := do
  let reference ← takeRef
  liftM (readString strings reference)

def takeStringPosting (strings : List UInt8) (games : Nat) (_ : Unit) : Takes Unit := do
  let _ ← takeLabel strings
  takeOrdinals games

def takeStringPostings (strings : List UInt8) (games : Nat) : Takes Unit := do
  let count ← takeU32
  takeFold (takeStringPosting strings games) count ()

def takeNumericPosting (keyBytes games : Nat) (_ : Unit) : Takes Unit := do
  let _ ← take keyBytes "truncated NavPack index"
  takeOrdinals games

def takeNumericPostings (keyBytes games : Nat) : Takes Unit := do
  let count ← takeU32
  takeFold (takeNumericPosting keyBytes games) count ()

def takeIndexes (strings : List UInt8) (games : Nat) : Takes Unit := do
  takeOrdinals games
  takeOrdinals games
  takeOrdinals games
  takeStringPostings strings games
  takeNumericPostings 4 games
  takeStringPostings strings games
  takeNumericPostings 4 games
  takeStringPostings strings games
  takeEnd

def validateIndexes (bytes strings : List UInt8) (games : Nat) : Reads Unit := do
  let _ ← takeIndexes strings games bytes
  pure ()

/-- A group is pushed after its label was compared with the last one. -/
def readStringCount (strings : List UInt8) (games : Nat) (groups : List (String × Nat)) :
    Takes (List (String × Nat)) := do
  let label ← takeLabel strings
  let entries ← peekU32
  takeOrdinals games
  liftM (check (groups.getLast?.all fun previous => strLt previous.1 label)
    "NavPack string postings are not strictly ordered")
  pure (groups ++ [(label, entries)])

def readStringCounts (strings : List UInt8) (games : Nat) : Takes (List (String × Nat)) := do
  let count ← takeU32
  takeFold (readStringCount strings games) count []

def readNumericCount (maximum games : Nat) (groups : List (Nat × Nat)) :
    Takes (List (Nat × Nat)) := do
  let key ← takeU32
  liftM (check (key ≤ maximum ∧ groups.getLast?.all fun previous => previous.1 < key)
    "NavPack numeric postings have invalid or unordered keys")
  let entries ← peekU32
  takeOrdinals games
  pure (groups ++ [(key, entries)])

def readNumericCounts (maximum games : Nat) : Takes (List (Nat × Nat)) := do
  let count ← takeU32
  takeFold (readNumericCount maximum games) count []

structure NavPackFilterCounts where
  categories : List (String × Nat)
  decades : List (Nat × Nat)
  manufacturers : List (String × Nat)
  players : List (Nat × Nat)
  controls : List (String × Nat)
  deriving DecidableEq

def takeFilterCounts (strings : List UInt8) (games : Nat) : Takes NavPackFilterCounts := do
  takeOrdinals games
  takeOrdinals games
  takeOrdinals games
  let categories ← readStringCounts strings games
  let decades ← readNumericCounts NONE_U16 games
  let manufacturers ← readStringCounts strings games
  let players ← readNumericCounts NONE_U8 games
  let controls ← readStringCounts strings games
  takeEnd
  pure ⟨categories, decades, manufacturers, players, controls⟩

/-! ## 4. The header -/

structure NavPackIdentity where
  systemId : String
  generation : Nat
  games : Nat
  launches : Nat
  deriving DecidableEq

/-- The five sections, as offset and length, in the order of the header. -/
structure Sections where
  rows : Nat × Nat
  cold : Nat × Nat
  launches : Nat × Nat
  indexes : Nat × Nat
  strings : Nat × Nat

/-- No window of two sections overlaps. -/
def Sections.ordered (sections : Sections) : Bool :=
  sections.rows.1 + sections.rows.2 ≤ sections.cold.1 &&
    sections.cold.1 + sections.cold.2 ≤ sections.launches.1 &&
    sections.launches.1 + sections.launches.2 ≤ sections.indexes.1 &&
    sections.indexes.1 + sections.indexes.2 ≤ sections.strings.1

/-- The magic, the versions and the layout constants. -/
def checkLayout (bytes : List UInt8) : Reads Unit := do
  check (NAVPACK_HEADER_BYTES ≤ bytes.length ∧ slice bytes 0 8 = some MAGIC)
    "invalid NavPack header"
  let version ← readU32 bytes 8
  let headerBytes ← readU32 bytes 12
  check (version = NAVPACK_SCHEMA_VERSION ∧ headerBytes = NAVPACK_HEADER_BYTES)
    "unsupported NavPack schema or header size"
  let endian ← readU32 bytes 16
  let rowBytes ← readU32 bytes 20
  let coldBytes ← readU32 bytes 24
  let launchBytes ← readU32 bytes 28
  check (endian = ENDIAN_MARKER ∧ rowBytes = NAVPACK_ROW_BYTES ∧ coldBytes = NAVPACK_COLD_BYTES ∧
    launchBytes = NAVPACK_LAUNCH_BYTES) "invalid NavPack layout constants"

/-- The generation and the number of rows are as expected; the number of launch plans is read. -/
def readLaunchCount (bytes : List UInt8) (expectedGeneration expectedGames : Nat) :
    Reads Nat := do
  let generation ← readU64 bytes 32
  let games ← readU32 bytes 40
  let launches ← readU32 bytes 44
  check (generation = expectedGeneration ∧ games = expectedGames)
    "NavPack generation or row count mismatch"
  pure launches

def readSections (bytes : List UInt8) : Reads Sections := do
  let rows ← readSection bytes 56
  let cold ← readSection bytes (56 + 1 * 16)
  let launches ← readSection bytes (56 + 2 * 16)
  let indexes ← readSection bytes (56 + 3 * 16)
  let strings ← readSection bytes (56 + 4 * 16)
  pure ⟨rows, cold, launches, indexes, strings⟩

/-- The prelude comes first. -/
def leadingPrelude (bytes : List UInt8) (sections : Sections) (games : Nat) :
    Reads ((Nat × Nat) × NavPackEntryPrelude) := do
  let place ← readSection bytes 136
  check (place.1 = NAVPACK_HEADER_BYTES ∧ place.1 + place.2 ≤ sections.rows.1)
    "NavPack entry prelude is not the leading section"
  let raw ← index bytes place.1 place.2
  let prelude ← parseEntryPrelude raw games
  pure (place, prelude)

/-- The sections follow one another, and the tables are as long as their counts say. -/
def checkSections (sections : Sections) (games launches : Nat) : Reads Unit := do
  check sections.ordered "overlapping or unordered NavPack sections"
  check (sections.rows.2 = games * NAVPACK_ROW_BYTES ∧
    sections.cold.2 = games * NAVPACK_COLD_BYTES ∧
    sections.launches.2 = launches * NAVPACK_LAUNCH_BYTES) "invalid NavPack section size"

structure CheckedHeader where
  identity : NavPackIdentity
  sections : Sections
  prelude : Nat × Nat

def validateHeader (bytes : List UInt8) (expectedSystemId : String)
    (expectedGeneration expectedGames : Nat) : Reads CheckedHeader := do
  checkLayout bytes
  let launches ← readLaunchCount bytes expectedGeneration expectedGames
  let sections ← readSections bytes
  let prelude ← leadingPrelude bytes sections expectedGames
  checkSections sections expectedGames launches
  let strings ← get "NavPack string section is out of bounds" bytes sections.strings.1
    sections.strings.2
  let systemId ← readText bytes strings 48
  check (systemId = expectedSystemId) "NavPack system identity mismatch"
  pure ⟨⟨expectedSystemId, expectedGeneration, expectedGames, launches⟩, sections, prelude.1⟩

/-! ## 5. The whole file -/

/-- The row that the prelude selects carries the preview that the prelude names. -/
def selectedMatches (bytes strings : List UInt8) (row : Nat) (selected : NavPackPreviewIdentity) :
    Reads Bool := do
  let flags ← readU32 bytes (row + 40)
  if flags.testBit 0 = false then pure false else
    let title ← readText bytes strings row
    if title ≠ selected.title then pure false else
      let archive ← readText bytes strings (row + 16)
      if archive ≠ selected.previewArchivePath then pure false else
        let assetKey ← readText bytes strings (row + 24)
        pure (assetKey = selected.previewAssetKey)

def validateSelected (bytes strings : List UInt8) (rowsOffset : Nat) :
    Option NavPackPreviewIdentity → Reads Unit
  | none => pure ()
  | some selected => do
    let same ← selectedMatches bytes strings (rowsOffset + selected.ordinal * NAVPACK_ROW_BYTES)
      selected
    check same "NavPack entry preview identity does not match its selected row"

/-- The texts of a record. -/
def validateTexts (bytes strings : List UInt8) (record : Nat) (offsets : List Nat) : Reads Unit :=
  forEach (fun offset => do
    let _ ← readText bytes strings (record + offset)
    pure ()) offsets

def validateRow (bytes strings : List UInt8) (rowsOffset coldOffset launches ordinal : Nat) :
    Reads Unit := do
  let row := rowsOffset + ordinal * NAVPACK_ROW_BYTES
  validateTexts bytes strings row [0, 8, 16, 24]
  let stored ← readU32 bytes (row + 32)
  check (stored = ordinal) "NavPack row metadata ordinal mismatch"
  let launch ← readU32 bytes (row + 36)
  check (launch = NONE_U32 ∨ launch < launches) "NavPack row launch index is out of bounds"
  let metadata := coldOffset + ordinal * NAVPACK_COLD_BYTES
  validateTexts bytes strings metadata [4, 12, 20]

def validateLaunch (bytes strings : List UInt8) (launchOffset launch : Nat) : Reads Unit :=
  validateTexts bytes strings (launchOffset + launch * NAVPACK_LAUNCH_BYTES) [0, 8, 16, 24, 32, 40]

def validate (bytes : List UInt8) (expectedSystemId : String)
    (expectedGeneration expectedGames : Nat) : Reads NavPackIdentity := do
  checkLayout bytes
  let launches ← readLaunchCount bytes expectedGeneration expectedGames
  let systemRef ← readRef bytes 48
  let sections ← readSections bytes
  let prelude ← leadingPrelude bytes sections expectedGames
  checkSections sections expectedGames launches
  check (sections.strings.1 + sections.strings.2 ≤ bytes.length) "invalid NavPack section size"
  let strings ← index bytes sections.strings.1 sections.strings.2
  let systemId ← readString strings systemRef
  check (systemId = expectedSystemId) "NavPack system identity mismatch"
  validateSelected bytes strings sections.rows.1 prelude.2.selectedPreview
  forRange expectedGames
    (validateRow bytes strings sections.rows.1 sections.cold.1 launches)
  forRange launches (validateLaunch bytes strings sections.launches.1)
  let indexes ← index bytes sections.indexes.1 sections.indexes.2
  validateIndexes indexes strings expectedGames
  pure ⟨expectedSystemId, expectedGeneration, expectedGames, launches⟩

/-! ## 6. The readers -/

structure NavPackRow where
  title : String
  launchRef : String
  previewArchivePath : String
  previewAssetKey : String
  hasPreview : Bool
  isNew : Bool
  launchIndex : Option Nat
  deriving DecidableEq

structure NavPackMetadata where
  year : Option Nat
  manufacturer : String
  category : String
  players : Option Nat
  control : String
  deriving DecidableEq

structure NavPackLaunch where
  launchRef : String
  title : String
  systemId : String
  corePath : String
  payloadPath : String
  mountKind : String
  mountIndex : Nat
  delaySecs : Nat
  deriving DecidableEq

structure MappedNavPack where
  mapping : List UInt8
  header : CheckedHeader

namespace MappedNavPack

/-- `open`, of a file with these bytes. -/
def openPack (file : List UInt8) (expectedBytes : Nat) (expectedSystemId : String)
    (expectedGeneration expectedGames : Nat) : Reads MappedNavPack := do
  check (file.length = expectedBytes) "NavPack size mismatch"
  let header ← validateHeader file expectedSystemId expectedGeneration expectedGames
  pure ⟨file, header⟩

def identity (pack : MappedNavPack) : NavPackIdentity := pack.header.identity

def sections (pack : MappedNavPack) : Sections := pack.header.sections

def strings (pack : MappedNavPack) : Reads (List UInt8) :=
  index pack.mapping pack.sections.strings.1 pack.sections.strings.2

def entryPrelude (pack : MappedNavPack) : Reads NavPackEntryPrelude := do
  let raw ← get "NavPack entry prelude is out of bounds" pack.mapping pack.header.prelude.1
    pack.header.prelude.2
  parseEntryPrelude raw pack.identity.games

def row (pack : MappedNavPack) (ordinal : Nat) : Reads NavPackRow := do
  check (ordinal < pack.identity.games) "NavPack row ordinal is out of bounds"
  let offset := pack.sections.rows.1 + ordinal * NAVPACK_ROW_BYTES
  let strings ← pack.strings
  let flags ← readU32 pack.mapping (offset + 40)
  let launch ← readU32 pack.mapping (offset + 36)
  let title ← readText pack.mapping strings offset
  let launchRef ← readText pack.mapping strings (offset + 8)
  let previewArchivePath ← readText pack.mapping strings (offset + 16)
  let previewAssetKey ← readText pack.mapping strings (offset + 24)
  pure ⟨title, launchRef, previewArchivePath, previewAssetKey, flags.testBit 0, flags.testBit 1,
    if launch = NONE_U32 then none else some launch⟩

def metadata (pack : MappedNavPack) (ordinal : Nat) : Reads NavPackMetadata := do
  check (ordinal < pack.identity.games) "NavPack metadata ordinal is out of bounds"
  let offset := pack.sections.cold.1 + ordinal * NAVPACK_COLD_BYTES
  let strings ← pack.strings
  let year ← readU16 pack.mapping offset
  let players ← readLe 1 "truncated NavPack players" pack.mapping (offset + 2)
  let manufacturer ← readText pack.mapping strings (offset + 4)
  let category ← readText pack.mapping strings (offset + 12)
  let control ← readText pack.mapping strings (offset + 20)
  pure ⟨if year = NONE_U16 then none else some year, manufacturer, category,
    if players = NONE_U8 then none else some players, control⟩

def launch (pack : MappedNavPack) (launchIndex : Nat) : Reads NavPackLaunch := do
  check (launchIndex < pack.identity.launches) "NavPack launch index is out of bounds"
  let offset := pack.sections.launches.1 + launchIndex * NAVPACK_LAUNCH_BYTES
  let strings ← pack.strings
  let launchRef ← readText pack.mapping strings offset
  let title ← readText pack.mapping strings (offset + 8)
  let systemId ← readText pack.mapping strings (offset + 16)
  let corePath ← readText pack.mapping strings (offset + 24)
  let payloadPath ← readText pack.mapping strings (offset + 32)
  let mountKind ← readText pack.mapping strings (offset + 40)
  let mountIndex ← readLe 1 "truncated NavPack mount index" pack.mapping (offset + 48)
  let delaySecs ← readLe 1 "truncated NavPack delay" pack.mapping (offset + 49)
  pure ⟨launchRef, title, systemId, corePath, payloadPath, mountKind, mountIndex, delaySecs⟩

def filterCounts (pack : MappedNavPack) : Reads NavPackFilterCounts := do
  let raw ← get "NavPack index section is out of bounds" pack.mapping pack.sections.indexes.1
    pack.sections.indexes.2
  let strings ← pack.strings
  let counts ← takeFilterCounts strings pack.identity.games raw
  pure counts.1

end MappedNavPack

end MisterMagik.Catalog
