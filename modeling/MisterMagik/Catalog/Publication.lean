/-
  File:      MisterMagik/Catalog/Publication.lean
  Subject:   The publication of a snapshot: artifacts first, the manifest last, and the collection
             of what is no longer named (crates/catalog/src/fast_five_catalog.rs,
             crates/catalog/src/shard_registry.rs).

  A publication is a program over the operations of the storage. Any operation may fail, and what
  an operation answers that has nothing to do with slots and artifacts is not said.

  * `StorageOp`, `Does` -- the operations, and what they do to the root;
  * `publishSystemArtifacts`, `prepareSnapshotSelection`, `commitPreparedSnapshot` -- the programs.
-/
import Mathlib.Data.List.Sort
import MisterMagik.Base.Program
import MisterMagik.Catalog.Registry
import MisterMagik.Catalog.Snapshot

namespace MisterMagik.Catalog

open MisterMagik.Base

/-! ## 1. The storage -/

/-- The files staged for a system, and whether they are copied into place or renamed. -/
structure Staged where
  sqlite : List UInt8
  navigation : Option (List UInt8)
  navpack : List UInt8
  copyStaged : Bool

/-- Calls that touch neither the slots nor the artifacts. -/
inductive SideCall where
  | cleanupStagingRoot
  | createRoot
  | cleanupTemporaryFiles
  | createSystemDirectory
  | syncDirectory
  | removeStaging
  | syncArtifactBatch
  | readRefreshManifest

inductive StorageOp where
  | side (call : SideCall)
  /-- The slots are read, or files are looked for. -/
  | read
  /-- The shard of a system is written, or comes prebuilt. -/
  | stage (system : FastFiveSystem) (generation : Nat)
  /-- The refresh state is written beside the catalogue. -/
  | bindRefreshState (manifest : CatalogManifest)
  /-- A staged artifact is put in its place. -/
  | put (path : PathBuf) (bytes : List UInt8)
  | remove (path : PathBuf)
  | publish (manifest : CatalogManifest)
  | collect (manifest : CatalogManifest)

def StorageOp.Answer : StorageOp → Type
  | .side _ => Except String Unit
  | .read => Root
  | .stage _ _ => Except String Staged
  | .bindRefreshState _ => Except String PublishedRefreshState
  | .put _ _ => Except RegistryError Unit
  | .remove _ => Unit
  | .publish _ => Except RegistryError Slot
  | .collect _ => Except RegistryError (List (List Component))

def Root.put (root : Root) (path : PathBuf) (bytes : List UInt8) : Root :=
  { root with files := root.files.insert path.components bytes }

def Root.remove (root : Root) (path : PathBuf) : Root :=
  { root with files := root.files.erase path.components }

/-- What an operation may answer, and what it leaves. -/
def StorageOp.Does (disk : Disk) : (op : StorageOp) → Root → op.Answer → Root → Prop
  | .side _, root, _, root' => root' = root
  | .read, root, answer, root' => answer = root ∧ root' = root
  | .stage _ _, root, _, root' => root' = root
  | .bindRefreshState _, root, _, root' => root' = root
  | .put path bytes, root, answer, root' =>
      match answer with
      | .ok () => root' = root.put path bytes
      | .error _ => root' = root
  | .remove path, root, _, root' => root' = root.remove path ∨ root' = root
  | .publish manifest, root, answer, root' =>
      ∃ conduct, (root', answer) = publishManifestWithTrustedArtifacts disk root manifest conduct
  | .collect manifest, root, answer, root' =>
      ∃ conduct, (root', answer) = garbageCollectUnreferenced root manifest conduct ∧
        (conduct.fails = none → ∀ path ∈ root.files, path ∈ conduct.entries)

/-- A method of the publisher. -/
abbrev Publishing : Type → Type → Type := Call StorageOp.Answer Unit

def perform {ε : Type} (op : StorageOp) : Publishing ε op.Answer :=
  Call.perform op

/-- `map_err`. -/
def mapErr {ε ε' α : Type} (f : ε → ε') (call : Publishing ε α) : Publishing ε' α := do
  Call.ofExcept ((← Call.attempt call).mapError f)

/-- A side call, whose error is the text it comes with. -/
def side (call : SideCall) : Publishing String Unit := do
  Call.ofExcept (← perform (.side call))

/-- The shard of a system, written or prebuilt. -/
def stage (system : FastFiveSystem) (generation : Nat) : Publishing String Staged := do
  Call.ofExcept (← perform (.stage system generation))

def collect (manifest : CatalogManifest) :
    Publishing RegistryError (List (List Component)) := do
  Call.ofExcept (← perform (.collect manifest))

def publish (manifest : CatalogManifest) : Publishing RegistryError Slot := do
  Call.ofExcept (← perform (.publish manifest))

def bindRefreshState (manifest : CatalogManifest) :
    Publishing String PublishedRefreshState := do
  Call.ofExcept (← perform (.bindRefreshState manifest))

def RegistryError.text (error : RegistryError) : String :=
  error.stage ++ ": " ++ error.message

/-! ## 2. Artifacts -/

def navigationPath (systemId : SystemId) (generation : Nat) : PathBuf :=
  artifactPath systemId generation ".nav.lz4b"

def sqlitePath (systemId : SystemId) (generation : Nat) : PathBuf :=
  artifactPath systemId generation ".sqlite3"

def navpackPath (systemId : SystemId) (generation : Nat) : PathBuf :=
  artifactPath systemId generation ".navpack"

/-- The size of a staged file, within its limit. -/
def stagedSize (bytes : List UInt8) (maximum : Nat) : Except RegistryError Nat :=
  if bytes.length > maximum then
    .error ⟨"validate-artifact", "catalog artifact exceeds configured size limit"⟩
  else .ok bytes.length

/-- A side call of the registry. -/
def registrySide (call : SideCall) : Publishing RegistryError Unit := do
  Call.ofExcept (Except.mapError (fun text => ⟨"publish-artifact", text⟩) (← perform (.side call)))

/-- A staged file is put in its place. -/
def place (path : PathBuf) (bytes : List UInt8) : Publishing RegistryError Unit := do
  Call.ofExcept (← perform (.put path bytes))

/-- `let _ = fs::remove_file(path)`. -/
def removeFile (path : PathBuf) : Publishing RegistryError Unit :=
  perform (.remove path)

/-- What is done with the navigation of a system, if it has one. -/
def withNavigation (staged : Staged) (f : List UInt8 → Publishing RegistryError Unit) :
    Publishing RegistryError Unit :=
  match staged.navigation with
  | some navigation => f navigation
  | none => pure ()

/-- The three files, one after the other. -/
def placeAll (systemId : SystemId) (generation : Nat) (staged : Staged) :
    Publishing RegistryError Unit := do
  place (sqlitePath systemId generation) staged.sqlite
  withNavigation staged (place (navigationPath systemId generation))
  place (navpackPath systemId generation) staged.navpack

/-- What a copy that failed leaves is removed again. -/
def withdraw (systemId : SystemId) (generation : Nat) (staged : Staged) :
    Publishing RegistryError Unit :=
  if staged.copyStaged then do
    removeFile (sqlitePath systemId generation)
    withNavigation staged fun _ => removeFile (navigationPath systemId generation)
    removeFile (navpackPath systemId generation)
  else pure ()

/-- The copies or renames of a system, whole or taken back. -/
def placeStaged (systemId : SystemId) (generation : Nat) (staged : Staged) :
    Publishing RegistryError Unit := do
  match ← Call.attempt (placeAll systemId generation staged) with
  | .ok () => pure ()
  | .error error => do
      withdraw systemId generation staged
      Call.throw error

/-- `publish_system_artifacts_with_options`. -/
def publishSystemArtifacts (limits : RegistryLimits) (staged : Staged) (systemId : SystemId)
    (generation games : Nat) : Publishing RegistryError PublishedGeneration := do
  let root ← perform .read
  if (root.file (sqlitePath systemId generation)).isSome ||
      (root.file (navigationPath systemId generation)).isSome ||
      (root.file (navpackPath systemId generation)).isSome then
    Call.throw ⟨"publish-artifact", "immutable generation artifact already exists"⟩
  else do
    let sqliteBytes ← Call.ofExcept (stagedSize staged.sqlite limits.shard.maxSqliteBytes)
    let navigationBytes ← Call.ofExcept (staged.navigation.mapM fun navigation =>
      stagedSize navigation limits.shard.maxNavigationCompressedBytes)
    let navpackBytes ← Call.ofExcept (stagedSize staged.navpack limits.shard.maxSqliteBytes)
    registrySide .createSystemDirectory
    placeStaged systemId generation staged
    registrySide .syncDirectory
    pure {
      generation
      sqlitePath := some (sqlitePath systemId generation)
      navigationPath := staged.navigation.map fun _ => navigationPath systemId generation
      sqliteBytes := some sqliteBytes
      navigationBytes
      sqliteHash := some (fileChecksum staged.sqlite)
      navigationHash := staged.navigation.map fileChecksum
      games
      navpack := some ⟨navpackPath systemId generation, navpackBytes,
        fileChecksum staged.navpack⟩ }

/-! ## 3. Preparation -/

inductive LauncherSection where
  | arcade
  | snkNeogeo
  | consoles
  | handhelds
  | computers
  | other

/-- `section_label`. -/
def LauncherSection.label : LauncherSection → String
  | .arcade => "Arcade"
  | .snkNeogeo => "SNK Neo Geo"
  | .consoles => "Consoles"
  | .handhelds => "Handhelds"
  | .computers => "Computers"
  | .other => "Other"

/-- What the taxonomy says of a system. -/
structure SystemDefinition where
  section_ : LauncherSection
  family : String
  order : Nat

/-- `CatalogFormatDescriptor::current`. -/
def CatalogFormatDescriptor.current : CatalogFormatDescriptor where
  canonicalSchemaVersion := 67
  catalogBuildVersion := 18
  manifestSchemaVersion := MANIFEST_SCHEMA_VERSION
  shardSchemaVersion := 6
  navigationSchemaVersion := 3
  bindingSchemaVersion := 1
  catalogStateSchemaVersion := 1
  scannerCacheSchemaVersion := 1
  builderProtocolVersion := 4
  projectionContract := "rich-game-v2"

/-- The publisher: its device, and the taxonomy (`system_definition`). -/
structure Publisher where
  disk : Disk
  systemDefinition : String → Option SystemDefinition

variable (publisher : Publisher)

/-- The entry of a system in a manifest. -/
def CatalogManifest.entry (manifest : CatalogManifest) (systemId : SystemId) :
    Option ManifestSystem :=
  manifest.systems.find? fun system => system.systemId = systemId

/-- The new entry of a system, with the generation it replaces. -/
def manifestSystem (current : Option CatalogManifest) (source : FastFiveSystem)
    (systemId : SystemId) (active : PublishedGeneration) : Except String ManifestSystem :=
  let definition := publisher.systemDefinition source.systemId
  match ScanUnitId.parse ("fast-five-" ++ source.systemId) with
  | none => .error "create producer id: invalid scan-unit ID"
  | some producer => .ok {
      systemId
      displayTitle := source.displayTitle
      section_ := (definition.map fun value => value.section_.label).getD "Other"
      family := ((definition.map SystemDefinition.family).filter (· ≠ "")).getD "Other"
      order := (definition.map SystemDefinition.order).getD 1000
      producers := [producer]
      active
      previous := (current.bind fun manifest => manifest.entry systemId).map
        ManifestSystem.active }

/-- One turn of the loop over the systems of the snapshot. -/
def prepareSystem (current : Option CatalogManifest) (changed : Option (List String))
    (generation : Nat) (source : FastFiveSystem) : Publishing String ManifestSystem :=
  match SystemId.parse source.systemId with
  | none => Call.throw ("invalid system " ++ source.systemId)
  | some systemId =>
      if changed.any fun changed => !changed.contains source.systemId then
        match current.bind fun manifest => manifest.entry systemId with
        | none => Call.throw ("active catalog is missing " ++ source.systemId)
        | some published => pure published
      else if source.games.isEmpty && source.variants.isEmpty then
        Call.ofExcept (manifestSystem publisher current source systemId (.artifactless generation))
      else do
        let staged ← stage source generation
        let active ← mapErr (fun error => "publish " ++ source.systemId ++ " shard: " ++ error.text)
          (publishSystemArtifacts publisher.disk.limits staged systemId generation
            source.games.length)
        side .removeStaging
        Call.ofExcept (manifestSystem publisher current source systemId active)

/-- The loop. -/
def prepareSystems (current : Option CatalogManifest) (changed : Option (List String))
    (generation : Nat) : List FastFiveSystem → Publishing String (List ManifestSystem)
  | [] => pure []
  | source :: sources => do
      let system ← prepareSystem publisher current changed generation source
      let systems ← prepareSystems current changed generation sources
      pure (system :: systems)

/-- The catalogue before the first. -/
def CatalogManifest.none : CatalogManifest := ⟨.none, .none, 0, []⟩

/-- `checked_add(1)` on the generation. -/
def nextGeneration (current : Option CatalogManifest) : Except String Nat :=
  match current with
  | .none => .ok 1
  | some manifest =>
      if manifest.generation + 1 < 2 ^ 64 then .ok (manifest.generation + 1)
      else .error "fast-five generation overflow"

/-- The catalogue that is replaced, if there is one; slots that hold none are not written over. -/
def currentManifest (root : Root) : Except String (Option CatalogManifest) :=
  match readLatestManifestLazy publisher.disk root with
  | .ok manifest => .ok (some manifest)
  | .error _ =>
      if manifestSlotsPresent root then
        .error "fast-five manifest slots exist but neither is valid"
      else .ok .none

/-- A selection without systems: the catalogue as it is, if it has every system. -/
def emptySelection (current : Option CatalogManifest) (snapshot : FastFiveSnapshot) :
    Except String CatalogManifest :=
  match current with
  | .none => .error "selective publication requires an active catalog"
  | some manifest => do
      snapshot.systems.forM fun source =>
        ensure (manifest.systems.any fun system => system.systemId.value = source.systemId)
          ("active catalog is missing " ++ source.systemId)
      .ok manifest

/-- `prepare_snapshot_selection`. -/
def prepareSnapshotSelection (snapshot : FastFiveSnapshot) (changed : Option (List String)) :
    Publishing String CatalogManifest := do
  Call.ofExcept snapshot.validate
  side .cleanupStagingRoot
  side .createRoot
  side .cleanupTemporaryFiles
  let root ← perform .read
  let current ← Call.ofExcept (currentManifest publisher root)
  if changed.any List.isEmpty then
    Call.ofExcept (emptySelection current snapshot)
  else do
    let _ ← mapErr (fun error => "collect interrupted fast-five artifacts: " ++ error.text)
      (collect (current.getD .none))
    let generation ← Call.ofExcept (nextGeneration current)
    let systems ← prepareSystems publisher current changed generation snapshot.systems
    side .syncArtifactBatch
    pure {
      refreshState := .none
      format := some .current
      generation
      systems := systems.insertionSort fun left right =>
        left.systemId.value ≤ right.systemId.value }

/-! ## 4. Commitment -/

/-- `commit_prepared_snapshot`. -/
def commitPreparedSnapshot (manifest : CatalogManifest) : Publishing String Unit := do
  Call.ofExcept (ensure manifest.refreshState.isSome
    "catalog publication requires bound refresh state")
  side .readRefreshManifest
  let _ ← mapErr (fun error => "publish fast-five manifest: " ++ error.text) (publish manifest)
  -- the manifest is out: what the collection answers is only logged
  let _ ← Call.attempt (collect manifest)
  pure ()

/-- A refresh that publishes: preparation, the refresh state bound to it, commitment. -/
def publishSnapshot (snapshot : FastFiveSnapshot) (changed : Option (List String)) :
    Publishing String Unit := do
  let manifest ← prepareSnapshotSelection publisher snapshot changed
  let refreshState ← bindRefreshState manifest
  commitPreparedSnapshot { manifest with refreshState := some refreshState }

end MisterMagik.Catalog
