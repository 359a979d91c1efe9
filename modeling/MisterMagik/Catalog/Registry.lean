/-
  File:      MisterMagik/Catalog/Registry.lean
  Subject:   The dual-slot registry: validation, reading, publication and garbage collection
             (crates/catalog/src/shard_registry.rs).

  The catalogue root is its two slot files and the regular files below it, by the components of
  their paths. A slot file holds a stored manifest, whose JSON the model takes for its bytes, or
  bytes that do not parse. `Disk.jsonSize` is the length of that JSON.

  * `validateManifest`, `readManifestSlots`, `readLatestManifestLazy`;
  * `publishManifest`, `replaceRefreshState` -- by `writeManifestSlot`, which renames at one point;
  * `garbageCollectUnreferenced` -- of what it comes to, what the manifest does not name goes.
-/
import MisterMagik.Base.Table
import MisterMagik.Catalog.Manifest

namespace MisterMagik.Catalog

open MisterMagik.Base

/-! ## 1. The root on storage -/

/-- `registry/manifest-a.json` and `registry/manifest-b.json`. -/
inductive Slot where
  | a
  | b
  deriving DecidableEq, Repr

def Slot.other : Slot → Slot
  | .a => .b
  | .b => .a

inductive SlotFile where
  | stored (manifest : StoredManifest)
  | unparsable (bytes : List UInt8)

structure Root where
  manifestA : Option SlotFile
  manifestB : Option SlotFile
  /-- The regular files of the artifact directories. -/
  files : Table (List Component) (List UInt8)

def Root.slot (root : Root) : Slot → Option SlotFile
  | .a => root.manifestA
  | .b => root.manifestB

/-- The rename onto a slot. -/
def Root.setSlot (root : Root) (slot : Slot) (file : Option SlotFile) : Root :=
  match slot with
  | .a => { root with manifestA := file }
  | .b => { root with manifestB := file }

def Root.file (root : Root) (path : PathBuf) : Option (List UInt8) :=
  root.files.lookup path.components

structure SystemShardLimits where
  maxSqliteBytes : Nat
  maxNavigationCompressedBytes : Nat
  maxNavigationDecodedBytes : Nat
  maxGames : Nat

structure RegistryLimits where
  maxManifestBytes : Nat
  maxSystems : Nat
  shard : SystemShardLimits

structure RegistryError where
  stage : String
  message : String
  deriving DecidableEq, Repr

/-- What a check costs: nothing, or its error. -/
def require (condition : Bool) (stage message : String) : Except RegistryError Unit :=
  if condition then .ok () else .error ⟨stage, message⟩

/-! ## 2. Validation -/

/-- `valid_hash`. -/
def validHash (hash : String) : Bool :=
  hash.toList.length = 16 && hash.toList.all hexDigit

/-- `update_checksum`: FNV-1a. -/
def updateChecksum (hash : UInt64) (bytes : List UInt8) : UInt64 :=
  bytes.foldl (fun hash byte => (hash ^^^ byte.toUInt64) * 0x00000100000001b3) hash

/-- `format!("{hash:016x}")`. -/
def hashText (hash : UInt64) : String :=
  let digits := Nat.toDigits 16 hash.toNat
  String.ofList (List.replicate (16 - digits.length) '0' ++ digits)

/-- `file_checksum`. -/
def fileChecksum (bytes : List UInt8) : String :=
  hashText (updateChecksum 0xcbf29ce484222325 bytes)

/-- `regular_file_size`. -/
def regularFileSize (root : Root) (path : PathBuf) (maximum : Nat) : Except RegistryError Nat :=
  match root.file path with
  | none => .error ⟨"stat catalog artifact", "No such file or directory"⟩
  | some bytes =>
      if bytes.length > maximum then
        .error ⟨"validate-artifact", "catalog artifact exceeds configured size limit"⟩
      else .ok bytes.length

/-- The canonical path of an artifact of a generation. -/
def artifactPath (systemId : SystemId) (generation : Nat) (suffix : String) : PathBuf :=
  ⟨"systems/" ++ systemId.value ++ "/" ++ toString generation ++ suffix⟩

/-- The first of `validate_generation`'s two conditions: every path is the canonical one. -/
def canonicalPaths (systemId : SystemId) (g : PublishedGeneration) (limits : RegistryLimits) :
    Bool :=
  (match g.sqlitePath with
    | some path => path == artifactPath systemId g.generation ".sqlite3" && path.safeRelative
    | none => false) &&
  g.sqliteBytes.isSome && g.sqliteHash.isSome &&
  (g.navigationPath.all fun path =>
    path == artifactPath systemId g.generation ".nav.lz4b" && path.safeRelative) &&
  (g.navigationPath.isSome == g.navigationBytes.isSome) &&
  (g.navigationPath.isSome == g.navigationHash.isSome) &&
  (g.navpack.all fun navpack =>
    navpack.path == artifactPath systemId g.generation ".navpack" && navpack.path.safeRelative &&
      navpack.bytes ≤ limits.shard.maxSqliteBytes && validHash navpack.hash)

/-- The second: sizes, counts and hashes. -/
def withinLimits (g : PublishedGeneration) (limits : RegistryLimits) : Bool :=
  g.games ≤ limits.shard.maxGames &&
  (g.sqliteBytes.all fun bytes => bytes ≤ limits.shard.maxSqliteBytes) &&
  (g.navigationBytes.all fun bytes => bytes ≤ limits.shard.maxNavigationCompressedBytes) &&
  (g.sqliteHash.any validHash) && g.navigationHash.all validHash

/-- An artifact file has the size the manifest gives. -/
def checkSize (root : Root) (path : PathBuf) (maximum bytes : Nat) (message : String) :
    Except RegistryError Unit := do
  let size ← regularFileSize root path maximum
  require (size = bytes) "validate-manifest" message

/-- An artifact file has the hash the manifest gives. -/
def checkHash (root : Root) (path : PathBuf) (hash message : String) :
    Except RegistryError Unit :=
  match root.file path with
  | none => .error ⟨"open artifact for checksum", "No such file or directory"⟩
  | some bytes => require (fileChecksum bytes = hash) "validate-manifest" message

/-- The files of a generation, sizes first. -/
def checkFiles (root : Root) (g : PublishedGeneration) (limits : RegistryLimits)
    (verifyHashes : Bool) : Except RegistryError Unit := do
  let some sqlite := g.sqlitePath
    | .error ⟨"validate-manifest", "manifest SQLite path is missing"⟩
  checkSize root sqlite limits.shard.maxSqliteBytes (g.sqliteBytes.getD 0)
    "manifest artifact size does not match file"
  if let (some navigation, some bytes) := (g.navigationPath, g.navigationBytes) then
    checkSize root navigation limits.shard.maxNavigationCompressedBytes bytes
      "manifest artifact size does not match file"
  if let some navpack := g.navpack then
    checkSize root navpack.path limits.shard.maxSqliteBytes navpack.bytes
      "manifest NavPack size does not match file"
  if verifyHashes then
    checkHash root sqlite (g.sqliteHash.getD "") "manifest artifact hash does not match file"
    if let (some navigation, some hash) := (g.navigationPath, g.navigationHash) then
      checkHash root navigation hash "manifest artifact hash does not match file"
    if let some navpack := g.navpack then
      checkHash root navpack.path navpack.hash "manifest NavPack hash does not match file"

/-- `validate_generation`. -/
def validateGeneration (root : Root) (systemId : SystemId) (g : PublishedGeneration)
    (limits : RegistryLimits) (validateArtifacts verifyHashes : Bool) :
    Except RegistryError Unit :=
  if g.isArtifactless then
    require (g.games = 0) "validate-manifest" "artifact-less generation has games"
  else do
    require (canonicalPaths systemId g limits) "validate-manifest"
      "manifest artifact path is not canonical"
    require (withinLimits g limits) "validate-manifest"
      "manifest generation metadata exceeds limits"
    if validateArtifacts then checkFiles root g limits verifyHashes

/-- `validate_manifest_system_with_options`. -/
def validateSystem (root : Root) (system : ManifestSystem) (limits : RegistryLimits)
    (validateArtifacts verifyHashes : Bool) : Except RegistryError Unit := do
  require (system.displayTitle ≠ "" && system.section_ ≠ "" && system.family ≠ "" &&
      !system.producers.isEmpty) "validate-manifest" "manifest system metadata is incomplete"
  require system.producers.Nodup "validate-manifest" "manifest contains duplicate producers"
  validateGeneration root system.systemId system.active limits validateArtifacts verifyHashes
  if let some previous := system.previous then
    require (previous.generation < system.active.generation) "validate-manifest"
      "previous generation is not older than active generation"
    validateGeneration root system.systemId previous limits validateArtifacts verifyHashes

/-- The loop over the systems, with the identifier before. -/
def validateSystems (root : Root) (limits : RegistryLimits)
    (validateArtifacts verifyHashes : Bool) :
    Option SystemId → List ManifestSystem → Except RegistryError Unit
  | _, [] => .ok ()
  | previousId, system :: systems => do
      require (previousId.all fun id => id.value < system.systemId.value) "validate-manifest"
        "manifest system IDs are duplicate or unsorted"
      validateSystem root system limits validateArtifacts verifyHashes
      validateSystems root limits validateArtifacts verifyHashes (some system.systemId) systems

/-- The reference to the refresh state. -/
def validRefreshState (refresh : PublishedRefreshState) : Bool :=
  refresh.path.safeRelative &&
  [Component.normal "state".toList].isPrefixOf refresh.path.components &&
    refresh.hash.toList.length = 64 && refresh.hash.toList.all hexDigit

/-- `validate_manifest`. -/
def validateManifest (root : Root) (manifest : CatalogManifest) (limits : RegistryLimits)
    (validateArtifacts verifyHashes : Bool) : Except RegistryError Unit := do
  require (manifest.refreshState.all validRefreshState) "validate-manifest"
    "invalid refresh state reference"
  require (manifest.systems.length ≤ limits.maxSystems) "validate-manifest"
    "manifest system count exceeds configured limit"
  validateSystems root limits validateArtifacts verifyHashes none manifest.systems

/-! ## 3. Reading -/

/-- The device a root is on: what it is limited to, and how long JSON gets. -/
structure Disk where
  limits : RegistryLimits
  jsonSize : StoredManifest → Nat

variable (disk : Disk)

/-- One turn of `read_manifest_slots`; a slot with an error is passed over. -/
def readSlot (root : Root) (validateArtifacts : Bool) (slot : Slot) : Option CatalogManifest :=
  match root.slot slot with
  | some (.stored stored) =>
      if disk.jsonSize stored > disk.limits.maxManifestBytes then none
      else
        match stored.fromStored with
        | none => none
        | some manifest =>
            if (validateManifest root manifest disk.limits validateArtifacts false).isOk then
              some manifest
            else none
  | _ => none

/-- `read_manifest_slots`. -/
def readManifestSlots (root : Root) (validateArtifacts : Bool) : List (Slot × CatalogManifest) :=
  [Slot.a, Slot.b].filterMap fun slot =>
    (readSlot disk root validateArtifacts slot).map fun manifest => (slot, manifest)

/-- `max_by_key` of the generation: of equal ones the last. -/
def maxByGeneration : List (Slot × CatalogManifest) → Option (Slot × CatalogManifest)
  | [] => none
  | first :: rest => some (rest.foldl
      (fun best next => if best.2.generation ≤ next.2.generation then next else best) first)

/-- `read_latest_manifest_lazy`. -/
def readLatestManifestLazy (root : Root) : Except RegistryError CatalogManifest :=
  match maxByGeneration (readManifestSlots disk root false) with
  | some (_, manifest) => .ok manifest
  | none => .error ⟨"read-manifest", "no valid manifest slot"⟩

/-- `manifest_slots_present`. -/
def manifestSlotsPresent (root : Root) : Bool :=
  root.manifestA.isSome || root.manifestB.isSome

/-! ## 4. Publication -/

/-- How the file calls of a write go: an error of any call before the rename, and the sync of the
    directory after it. -/
structure WriteConduct where
  fails : Option RegistryError
  sync : Except RegistryError Unit

/-- `write_manifest_slot`. -/
def writeManifestSlot (root : Root) (manifest : CatalogManifest) (target : Slot)
    (conduct : WriteConduct) : Root × Except RegistryError Slot :=
  let stored := manifest.toStored
  if disk.jsonSize stored > disk.limits.maxManifestBytes then
    (root, .error ⟨"publish-manifest", "manifest exceeds configured size limit"⟩)
  else
    match conduct.fails with
    | some error => (root, .error error)
    | none =>
        (root.setSlot target (some (.stored stored)),
          match conduct.sync with
          | .ok () => .ok target
          | .error error => .error error)

/-- The slot a publication writes. -/
def targetSlot : List (Slot × CatalogManifest) → Except RegistryError Slot
  | [] => .ok .a
  | [(slot, _)] => .ok slot.other
  | [first, second] =>
      .ok (if first.2.generation ≤ second.2.generation then first.1 else second.1)
  | _ => .error ⟨"publish-manifest", "invalid slot state"⟩

/-- `publish_manifest_with_hash_policy`. -/
def publishManifest (root : Root) (manifest : CatalogManifest) (verifyHashes : Bool)
    (conduct : WriteConduct) : Root × Except RegistryError Slot :=
  match validateManifest root manifest disk.limits true verifyHashes with
  | .error error => (root, .error error)
  | .ok () =>
      let current := readManifestSlots disk root verifyHashes
      if current.any fun existing => existing.2.generation ≥ manifest.generation then
        (root, .error ⟨"publish-manifest",
          "manifest generation is not newer than committed state"⟩)
      else
        match targetSlot current with
        | .error error => (root, .error error)
        | .ok target => writeManifestSlot disk root manifest target conduct

/-- `publish_manifest_with_trusted_artifacts`. -/
def publishManifestWithTrustedArtifacts (root : Root) (manifest : CatalogManifest)
    (conduct : WriteConduct) : Root × Except RegistryError Slot :=
  publishManifest disk root manifest false conduct

/-- `replace_refresh_state`. -/
def replaceRefreshState (root : Root) (manifest : CatalogManifest) (conduct : WriteConduct) :
    Root × Except RegistryError Unit :=
  match validateManifest root manifest disk.limits false false with
  | .error error => (root, .error error)
  | .ok () =>
      match maxByGeneration (readManifestSlots disk root false) with
      | none => (root, .error ⟨"refresh-state", "no committed catalog"⟩)
      | some (slot, current) =>
          if !({ current with refreshState := manifest.refreshState } == manifest) then
            (root, .error ⟨"refresh-state", "catalog changed during metadata refresh"⟩)
          else
            match writeManifestSlot disk root manifest slot conduct with
            | (root, result) => (root, result.map fun _ => ())

/-! ## 5. Garbage collection -/

/-- The artifact paths of a generation. -/
def PublishedGeneration.paths (g : PublishedGeneration) : List PathBuf :=
  g.sqlitePath.toList ++ g.navigationPath.toList ++ (g.navpack.map PublishedNavPack.path).toList

/-- What the collector retains of a manifest: its active and previous generations. -/
def retained (manifest : CatalogManifest) : List (List Component) :=
  manifest.systems.flatMap fun system =>
    (system.active :: system.previous.toList).flatMap fun g =>
      g.paths.map PathBuf.components

/-- `generation_artifact_name`. -/
def generationArtifactName (name : List Char) : Bool :=
  [".sqlite3", ".nav.lz4b", ".navpack"].any fun suffix =>
    suffix.toList.isSuffixOf name &&
      (let number := name.take (name.length - suffix.toList.length)
      !number.isEmpty && number.all Char.isDigit)

/-- A file the collector comes to: in the directory of a system, under an artifact's name. -/
def collectable (path : List Component) : Bool :=
  match path with
  | [.normal systems, .normal system, .normal name] =>
      systems = "systems".toList &&
        (SystemId.parse (String.ofList system)).any (fun id => id.value.toList = system) &&
        generationArtifactName name
  | _ => false

/-- How a collection goes: the entries it comes to, in their order, and the error it stops at. -/
structure CollectConduct where
  entries : List (List Component)
  fails : Option RegistryError

/-- `garbage_collect_unreferenced`: of the files it comes to, those that are an artifact's and that
    the manifest does not name. -/
def garbageCollectUnreferenced (root : Root) (manifest : CatalogManifest)
    (conduct : CollectConduct) : Root × Except RegistryError (List (List Component)) :=
  let removed := conduct.entries.filter fun path =>
    (root.files.lookup path).isSome && collectable path && !(retained manifest).contains path
  ({ root with files := removed.foldl (fun files path => files.erase path) root.files },
    match conduct.fails with
    | none => .ok removed
    | some error => .error error)

end MisterMagik.Catalog
