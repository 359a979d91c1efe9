/-
  File:      MisterMagik/Launcher/ReturnCapsule.lean
  Subject:   THE RETURN CAPSULE: one collection, written before a game starts and read after it.

  The writer streams the rows of a collection view, and behind them the structured launch plans,
  each reference once; how many plans there are is filled in at the end. The reader checks every
  count and every text against its own limits before it takes them.

  * `prepareReturnCatalogCapsuleInner`, `decodeReturnCatalogCapsule` -- the two sides;
  * `CapsuleBinding` -- what a capsule is bound to;
  * `plansOf` -- the plans that are written.
-/
import MisterMagik.Base.Codec
import MisterMagik.Catalog.ArcadeCatalog

namespace MisterMagik.Launcher

open Base Catalog

/-! ## 1. Limits and checks -/

def RETURN_CATALOG_CAPSULE_MAGIC : List UInt8 := utf8 "MMRCAP03"
def RETURN_CATALOG_CAPSULE_SCHEMA : UInt32 := 3
def RETURN_CATALOG_CAPSULE_MAX_BYTES : Nat := 8 * 1024 * 1024
def RETURN_CATALOG_CAPSULE_MAX_ROWS : Nat := 10000
def RETURN_CATALOG_CAPSULE_MAX_SYSTEMS : Nat := 4096
def RETURN_CATALOG_CAPSULE_MAX_PLANS : Nat := 10000
def RETURN_CATALOG_CAPSULE_MAX_ROOTS : Nat := 64
def RETURN_CATALOG_CAPSULE_MAX_PATH_MAPS : Nat := 64
def RETURN_CATALOG_CAPSULE_MAX_STRING_BYTES : Nat := 4096

def MIN_ENCODED_STRING_BYTES : Nat := 4
def MIN_ENCODED_SYSTEM_BYTES : Nat := 17
def MIN_ENCODED_GAME_BYTES : Nat := 31
def MIN_ENCODED_PLAN_BYTES : Nat := 26

structure CapsuleBinding where
  namespace_ : String
  appDir : String
  catalogRoot : String
  libraryRoots : List String
  pathMap : List (String × String)
  catalogStampFingerprint : String
  catalogSchema : UInt32
  catalogBuild : UInt32
  binaryVersion : String
  binaryBuild : String
  deriving DecidableEq

def validateString (label value : String) : Reads Unit :=
  let len := (utf8 value).length
  check (len ≤ RETURN_CATALOG_CAPSULE_MAX_STRING_BYTES)
    s!"{label} is {len} bytes; limit is {RETURN_CATALOG_CAPSULE_MAX_STRING_BYTES}"

/-- `for (label, value) in [...]`. -/
def validateStrings (labelled : List (String × String)) : Reads Unit :=
  forEach (fun pair => validateString pair.1 pair.2) labelled

def validateCount (label : String) (value max : Nat) : Reads Unit :=
  check (value ≤ max) s!"return capsule {label} count {value} exceeds {max}"

def isAsciiHexdigit (byte : UInt8) : Bool :=
  (48 ≤ byte && byte ≤ 57) || (65 ≤ byte && byte ≤ 70) || (97 ≤ byte && byte ≤ 102)

def validateCatalogFingerprint (value : String) : Reads Unit := do
  validateString "catalog fingerprint" value
  check (value ≠ "" ∧ (utf8 value).all isAsciiHexdigit)
    "catalog fingerprint must be non-empty hexadecimal text"

def validateBinding (binding : CapsuleBinding) : Reads Unit := do
  validateCount "library roots" binding.libraryRoots.length RETURN_CATALOG_CAPSULE_MAX_ROOTS
  validateCount "path maps" binding.pathMap.length RETURN_CATALOG_CAPSULE_MAX_PATH_MAPS
  validateStrings [("namespace", binding.namespace_), ("app dir", binding.appDir),
    ("catalog root", binding.catalogRoot), ("catalog stamp", binding.catalogStampFingerprint),
    ("binary version", binding.binaryVersion), ("binary build", binding.binaryBuild)]
  validateCatalogFingerprint binding.catalogStampFingerprint
  forEach (validateString "library root") binding.libraryRoots
  forEach (fun rule => validateStrings [("path map source", rule.1),
    ("path map destination", rule.2)]) binding.pathMap

def validateGame (game : ArcadeGameEntry) : Reads Unit :=
  validateStrings [("game title", game.title), ("game path", game.mraPath),
    ("preview archive path", game.previewArchivePath),
    ("preview asset key", game.previewAssetKey), ("game system id", game.systemId),
    ("manufacturer", game.manufacturer), ("category", game.category), ("control", game.control)]

def validatePlan (plan : StructuredLaunchPlan) : Reads Unit :=
  validateStrings [("launch ref", plan.launchRef), ("launch title", plan.title),
    ("launch system id", plan.systemId), ("core path", plan.corePath),
    ("payload path", plan.payloadPath), ("mount kind", plan.mountKind)]

def encodePlatformKind : PlatformKind → UInt8
  | .unknown => 0
  | .arcade => 1
  | .console => 2
  | .handheld => 3
  | .computer => 4

def decodePlatformKind (value : UInt8) : Reads PlatformKind :=
  if value = 0 then .ok .unknown
  else if value = 1 then .ok .arcade
  else if value = 2 then .ok .console
  else if value = 3 then .ok .handheld
  else if value = 4 then .ok .computer
  else fail s!"return capsule platform kind {value} is invalid"

/-! ## 2. The writer -/

namespace CapsuleBinaryWriter

def reserve (additional : Nat) : Puts Unit := fun bytes =>
  if bytes.length + additional ≤ RETURN_CATALOG_CAPSULE_MAX_BYTES then .ok ((), bytes)
  else fail s!"return capsule would exceed {RETURN_CATALOG_CAPSULE_MAX_BYTES} bytes"

def writeBytes (value : List UInt8) : Puts Unit := do
  reserve value.length
  modify (· ++ value)

def writeU8 (value : UInt8) : Puts Unit := writeBytes (leBytes 1 value.toNat)

def writeU16 (value : UInt16) : Puts Unit := writeBytes (leBytes 2 value.toNat)

def writeU32 (value : UInt32) : Puts Unit := writeBytes (leBytes 4 value.toNat)

def writeU64 (value : UInt64) : Puts Unit := writeBytes (leBytes 8 value.toNat)

def writeBool (value : Bool) : Puts Unit := writeU8 (if value then 1 else 0)

def writeCount (value : Nat) (label : String) : Puts Unit := do
  liftM (check (value < 256 ^ 4) s!"{label} count is too large")
  writeBytes (leBytes 4 value)

def writeString (value : String) : Puts Unit := do
  liftM (validateString "encoded string" value)
  writeCount (utf8 value).length "string byte"
  writeBytes (utf8 value)

/-- A count, and behind it the items. -/
def writeAll {ι : Type} (label : String) (write : ι → Puts Unit) (items : List ι) : Puts Unit := do
  writeCount items.length label
  putEach write items

/-- A flag, and behind it the value if there is one. -/
def writeOption {α : Type} (write : α → Puts Unit) (value : Option α) : Puts Unit := do
  writeBool value.isSome
  match value with
  | none => pure ()
  | some value => write value

end CapsuleBinaryWriter

open CapsuleBinaryWriter

def encodeRule (rule : String × String) : Puts Unit := do
  writeString rule.1
  writeString rule.2

def encodeBinding (binding : CapsuleBinding) : Puts Unit := do
  writeString binding.namespace_
  writeString binding.appDir
  writeString binding.catalogRoot
  writeAll "library roots" writeString binding.libraryRoots
  writeAll "path maps" encodeRule binding.pathMap
  writeString binding.catalogStampFingerprint
  writeU32 binding.catalogSchema
  writeU32 binding.catalogBuild
  writeString binding.binaryVersion
  writeString binding.binaryBuild

structure CapsuleSystem where
  id : String
  title : String
  count : UInt64
  platformKind : PlatformKind

def encodeSystem (system : CapsuleSystem) : Puts Unit := do
  writeString system.id
  writeString system.title
  writeU64 system.count
  writeU8 (encodePlatformKind system.platformKind)

/-- One round of `for game in view.iter()`. -/
def encodeGame (game : ArcadeGameEntry) : Puts Unit := do
  liftM (validateGame game)
  writeString game.title
  writeString game.mraPath
  writeString game.previewArchivePath
  writeString game.previewAssetKey
  writeBool game.hasPreview
  writeString game.systemId
  writeOption writeU16 game.year
  writeString game.manufacturer
  writeString game.category
  writeOption writeU8 game.players
  writeString game.control
  writeBool game.isNew

def encodePlan (plan : StructuredLaunchPlan) : Puts Unit := do
  liftM (validatePlan plan)
  writeString plan.launchRef
  writeString plan.title
  writeString plan.systemId
  writeString plan.corePath
  writeString plan.payloadPath
  writeString plan.mountKind
  writeU8 plan.mountIndex
  writeU8 plan.delaySecs

/-- One round of `for ordinal in 0..view.len()`, with the references that have a plan. -/
def encodeTarget (refs : List String) : Option LaunchTarget → Puts (List String)
  | none => liftM (fail "return collection has a missing launch row" : Reads (List String))
  | some (.structured plan) =>
      if plan.launchRef ∈ refs then pure refs
      else do
        liftM (check (refs.length + 1 ≤ RETURN_CATALOG_CAPSULE_MAX_PLANS)
          "return capsule has too many structured launch plans")
        encodePlan plan
        pure (refs ++ [plan.launchRef])
  | some _ => pure refs

def encodeTargets : List String → List (Option LaunchTarget) → Puts (List String)
  | refs, [] => pure refs
  | refs, target :: targets => do
    let refs ← encodeTarget refs target
    encodeTargets refs targets

section Prepare

variable {lookups : Lookups}

/-- The systems as they are written, each with its platform kind. -/
def capsuleSystems (catalog : ArcadeCatalog lookups) : List CapsuleSystem :=
  catalog.systems.map fun system =>
    ⟨system.id, system.title, system.count, catalog.platformKind system.id⟩

/-- What is written before the plans. -/
def encodeRows (catalog : ArcadeCatalog lookups) (view : ArcadeGameView)
    (collectionId returnGamePath : String) (binding : CapsuleBinding) : Puts Unit := do
  writeBytes RETURN_CATALOG_CAPSULE_MAGIC
  writeU32 RETURN_CATALOG_CAPSULE_SCHEMA
  encodeBinding binding
  writeString collectionId
  writeString returnGamePath
  writeAll "systems" encodeSystem (capsuleSystems catalog)
  writeCount view.len "games"
  putEach encodeGame view.iter

/-- The launch targets of a view, by ordinal. -/
def targetsOf (catalog : ArcadeCatalog lookups) (view : ArcadeGameView) :
    List (Option LaunchTarget) :=
  (List.range view.len).map (catalog.launchTargetInView view)

def prepareReturnCatalogCapsuleInner (catalog : ArcadeCatalog lookups)
    (collectionId returnGamePath : String) (binding : CapsuleBinding) : Reads (List UInt8) := do
  validateString "collection id" collectionId
  validateString "return game path" returnGamePath
  let view := catalog.systemGameView collectionId
  let quoted := collectionId.quote
  let rows := view.len
  check (rows ≠ 0) s!"return collection {quoted} has no rows"
  check (rows ≤ RETURN_CATALOG_CAPSULE_MAX_ROWS)
    s!"return collection has {rows} rows; limit is {RETURN_CATALOG_CAPSULE_MAX_ROWS}"
  let systems := catalog.systems.length
  check (systems ≤ RETURN_CATALOG_CAPSULE_MAX_SYSTEMS)
    s!"catalog has {systems} systems; limit is {RETURN_CATALOG_CAPSULE_MAX_SYSTEMS}"
  validateBinding binding
  let head ← encodeRows catalog view collectionId returnGamePath binding []
  check (view.iter.length = rows) "return collection has missing rows"
  check (view.iter.any fun game => game.mraPath = returnGamePath)
    "return game is absent from the current collection"
  let open_ ← writeU32 0 head.2
  let done ← encodeTargets [] (targetsOf catalog view) open_.2
  pure (overwrite done.2 head.2.length (leBytes 4 done.1.length))

end Prepare

/-! ## 3. The reader -/

namespace CapsuleBinaryReader

def truncated (label : String) : String := s!"return capsule is truncated while reading {label}"

def expectMagic (expected : List UInt8) : Takes Unit := do
  let magic ← take expected.length (truncated "magic")
  liftM (check (magic = expected) "return capsule magic mismatch")

def readU8 : Takes UInt8 := do
  let value ← takeLe 1 (truncated "u8")
  pure (UInt8.ofNat value)

def readU16 : Takes UInt16 := do
  let value ← takeLe 2 (truncated "u16")
  pure (UInt16.ofNat value)

def readU32 : Takes UInt32 := do
  let value ← takeLe 4 (truncated "u32")
  pure (UInt32.ofNat value)

def readU64 : Takes UInt64 := do
  let value ← takeLe 8 (truncated "u64")
  pure (UInt64.ofNat value)

/-- A boolean is one of two bytes. -/
def asBool (value : UInt8) : Reads Bool :=
  if value = 0 then .ok false
  else if value = 1 then .ok true
  else fail s!"return capsule boolean {value} is invalid"

def readBool : Takes Bool := do
  let value ← readU8
  liftM (asBool value)

def readCount (label : String) (max minimumEncodedBytes : Nat) : Takes Nat :=
  takeCount (truncated "u32")
    (fun count => s!"return capsule {label} count {count} exceeds {max}")
    (fun count left =>
      s!"return capsule {label} count {count} cannot fit in {left} remaining bytes")
    max minimumEncodedBytes

def readString (label : String) : Takes String := do
  let len ← takeLe 4 (truncated "u32")
  liftM (check (len ≤ RETURN_CATALOG_CAPSULE_MAX_STRING_BYTES)
    s!"return capsule {label} is {len} bytes; limit is {RETURN_CATALOG_CAPSULE_MAX_STRING_BYTES}")
  let raw ← take len (truncated label)
  liftM (text s!"return capsule {label} is not UTF-8" raw)

/-- `read_bool()?.then(|| …).transpose()?`. -/
def readOption {α : Type} (read : Takes α) : Takes (Option α) := do
  let present ← readBool
  if present then do
    let value ← read
    pure (some value)
  else pure none

end CapsuleBinaryReader

open CapsuleBinaryReader

def decodeRule : Takes (String × String) := do
  let source ← readString "path map source"
  let destination ← readString "path map destination"
  pure (source, destination)

def decodeRoots : Takes (List String) := do
  let rootCount ← readCount "library roots" RETURN_CATALOG_CAPSULE_MAX_ROOTS
    MIN_ENCODED_STRING_BYTES
  takeMany (readString "library root") rootCount

def decodeRules : Takes (List (String × String)) := do
  let pathMapCount ← readCount "path maps" RETURN_CATALOG_CAPSULE_MAX_PATH_MAPS
    (MIN_ENCODED_STRING_BYTES * 2)
  takeMany decodeRule pathMapCount

def decodeBinding : Takes CapsuleBinding := do
  let namespace_ ← readString "namespace"
  let appDir ← readString "app dir"
  let catalogRoot ← readString "catalog root"
  let libraryRoots ← decodeRoots
  let pathMap ← decodeRules
  let catalogStampFingerprint ← readString "catalog stamp"
  let catalogSchema ← CapsuleBinaryReader.readU32
  let catalogBuild ← CapsuleBinaryReader.readU32
  let binaryVersion ← readString "binary version"
  let binaryBuild ← readString "binary build"
  pure ⟨namespace_, appDir, catalogRoot, libraryRoots, pathMap, catalogStampFingerprint,
    catalogSchema, catalogBuild, binaryVersion, binaryBuild⟩

/-- `decode_platform_kind(reader.read_u8()?)?`. -/
def readPlatformKind : Takes PlatformKind := do
  let value ← readU8
  liftM (decodePlatformKind value)

def decodeSystem : Takes CapsuleSystem := do
  let id ← readString "system id"
  let title ← readString "system title"
  let count ← CapsuleBinaryReader.readU64
  let platformKind ← readPlatformKind
  pure ⟨id, title, count, platformKind⟩

def decodeSystems : Takes (List CapsuleSystem) := do
  let count ← readCount "systems" RETURN_CATALOG_CAPSULE_MAX_SYSTEMS MIN_ENCODED_SYSTEM_BYTES
  takeMany decodeSystem count

def decodeGame : Takes ArcadeGameEntry := do
  let title ← readString "game title"
  let mraPath ← readString "game path"
  let previewArchivePath ← readString "preview archive path"
  let previewAssetKey ← readString "preview asset key"
  let hasPreview ← readBool
  let systemId ← readString "game system id"
  let year ← readOption CapsuleBinaryReader.readU16
  let manufacturer ← readString "manufacturer"
  let category ← readString "category"
  let players ← readOption readU8
  let control ← readString "control"
  let isNew ← readBool
  pure ⟨title, mraPath, previewArchivePath, previewAssetKey, hasPreview, systemId, year,
    manufacturer, category, players, control, isNew⟩

def decodeGames : Takes (List ArcadeGameEntry) := do
  let count ← readCount "games" RETURN_CATALOG_CAPSULE_MAX_ROWS MIN_ENCODED_GAME_BYTES
  liftM (check (count ≠ 0) "return capsule has no game rows")
  takeMany decodeGame count

def decodePlan : Takes StructuredLaunchPlan := do
  let launchRef ← readString "launch ref"
  let title ← readString "launch title"
  let systemId ← readString "launch system id"
  let corePath ← readString "core path"
  let payloadPath ← readString "payload path"
  let mountKind ← readString "mount kind"
  let mountIndex ← readU8
  let delaySecs ← readU8
  pure ⟨launchRef, title, systemId, corePath, payloadPath, mountKind, mountIndex, delaySecs⟩

def decodeLaunchPlans : Takes (List StructuredLaunchPlan) := do
  let count ← readCount "launch plans" RETURN_CATALOG_CAPSULE_MAX_PLANS MIN_ENCODED_PLAN_BYTES
  takeMany decodePlan count

structure ReturnCatalogCapsule where
  binding : CapsuleBinding
  collectionId : String
  returnGamePath : String
  systems : List CapsuleSystem
  games : List ArcadeGameEntry
  launchPlans : List StructuredLaunchPlan

def checkSchema (schema : UInt32) : Reads Unit :=
  check (schema = RETURN_CATALOG_CAPSULE_SCHEMA) s!"return capsule schema {schema} is unsupported"

/-- What is read before the plans. -/
def decodeRows : Takes ReturnCatalogCapsule := do
  expectMagic RETURN_CATALOG_CAPSULE_MAGIC
  let schema ← CapsuleBinaryReader.readU32
  liftM (checkSchema schema)
  let binding ← decodeBinding
  let collectionId ← readString "collection id"
  let returnGamePath ← readString "return game path"
  let systems ← decodeSystems
  let games ← decodeGames
  pure ⟨binding, collectionId, returnGamePath, systems, games, []⟩

def decodeCapsule : Takes ReturnCatalogCapsule := do
  let rows ← decodeRows
  let launchPlans ← decodeLaunchPlans
  pure { rows with launchPlans := launchPlans }

namespace ReturnCatalogCapsule

/-- The catalog that a capsule makes. -/
def catalog (lookups : Lookups) (capsule : ReturnCatalogCapsule) : ArcadeCatalog lookups :=
  ArcadeCatalog.newWithPlatformKinds lookups capsule.binding.catalogRoot capsule.games
    (capsule.systems.map fun system => ⟨system.id, system.title, system.count⟩)
    capsule.launchPlans
    (Table.insertAll ∅ (capsule.systems.map fun system => (system.id, system.platformKind)))

def intoCatalog (lookups : Lookups) (capsule : ReturnCatalogCapsule) (expected : CapsuleBinding)
    (collectionId returnGamePath : String) : Reads (ArcadeCatalog lookups) := do
  check (capsule.binding = expected) "return capsule binding mismatch"
  check (capsule.collectionId = collectionId ∧ capsule.returnGamePath = returnGamePath)
    "return capsule selection mismatch"
  validateBinding capsule.binding
  check (capsule.games.any fun game => game.mraPath = returnGamePath)
    "return capsule omits selected game"
  check (((capsule.catalog lookups).systemGameView collectionId).len ≠ 0)
    "return capsule cannot reconstruct collection"
  pure (capsule.catalog lookups)

end ReturnCatalogCapsule

def decodeReturnCatalogCapsule (lookups : Lookups) (bytes : List UInt8)
    (expected : CapsuleBinding) (collectionId returnGamePath : String) :
    Reads (ArcadeCatalog lookups) := do
  let parsed ← decodeCapsule bytes
  let left := parsed.2.length
  check (left = 0) s!"return capsule has {left} trailing bytes"
  parsed.1.intoCatalog lookups expected collectionId returnGamePath

end MisterMagik.Launcher
