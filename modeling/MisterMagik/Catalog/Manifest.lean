/-
  File:      MisterMagik/Catalog/Manifest.lean
  Subject:   The catalogue manifest and its stored form (crates/catalog/src/shard_registry.rs).

  A path is the text it was given and is compared by its components, as `Path` is. System and
  scan-unit identifiers carry that they are in their one form, so that parsing one again gives it
  back. `to_stored` writes paths with forward slashes.

  * `CatalogManifest.toStored`, `StoredManifest.fromStored` -- the two forms;
  * `fromStored_toStored` -- a manifest without backslashes in its artifact paths comes back.
-/
import MisterMagik.Base.Text

namespace MisterMagik.Catalog

open MisterMagik.Base

/-! ## 1. Paths and identifiers -/

/-- `PathBuf`. -/
structure PathBuf where
  raw : String
  deriving Repr

namespace PathBuf

def components (path : PathBuf) : List Component :=
  Base.components path.raw.toList

/-- Paths are equal when their components are. -/
instance : BEq PathBuf := ⟨fun a b => decide (a.components = b.components)⟩

theorem beq_iff {a b : PathBuf} : (a == b) = true ↔ a.components = b.components :=
  decide_eq_true_iff

/-- `path_string`. -/
def pathString (path : PathBuf) : String :=
  String.ofList (path.raw.toList.map forwardSlash)

/-- `safe_relative_path`. -/
def safeRelative (path : PathBuf) : Bool :=
  path.raw ≠ "" && path.raw.toList.head? ≠ some '/' &&
    path.components.all fun c => match c with
      | .normal _ => true
      | _ => false

theorem pathString_eq {path : PathBuf} (h : '\\' ∉ path.raw.toList) :
    PathBuf.mk path.pathString = path := by
  have hmap : path.raw.toList.map forwardSlash = path.raw.toList := by
    refine (List.map_congr_left fun c hc => ?_).trans (List.map_id _)
    unfold forwardSlash
    rw [if_neg]
    · rfl
    · rintro rfl
      exact h hc
  unfold pathString
  rw [hmap, String.ofList_toList]

theorem backslash_congr {a b : PathBuf} (h : (a == b) = true) :
    '\\' ∈ a.raw.toList ↔ '\\' ∈ b.raw.toList := by
  rw [backslash_iff_components, backslash_iff_components]
  have hc : Base.components a.raw.toList = Base.components b.raw.toList := beq_iff.1 h
  rw [hc]

end PathBuf

/-- The names `validate_system_id` reserves. -/
def reservedSystemIds : List String :=
  ["manifest", "registry", "state", "systems", "con", "prn", "aux", "nul", "com1", "lpt1"]

/-- `SystemId`: only `parse` makes one. -/
structure SystemId where
  value : String
  valid : ValidId value.toList
  free : value ∉ reservedSystemIds

/-- `SystemId::parse`, without the text of its error. -/
def SystemId.parse (value : String) : Option SystemId :=
  let normalized := String.ofList (normalizeId value.toList)
  if h : ValidId normalized.toList ∧ normalized ∉ reservedSystemIds then
    some ⟨normalized, h.1, h.2⟩
  else none

instance : DecidableEq SystemId := fun a b =>
  decidable_of_iff (a.value = b.value) ⟨fun h => by cases a; cases b; cases h; rfl, congrArg _⟩

theorem SystemId.parse_value (id : SystemId) : SystemId.parse id.value = some id := by
  obtain ⟨value, valid, free⟩ := id
  have hnorm : String.ofList (normalizeId value.toList) = value := by
    rw [normalizeId_of_valid valid, String.ofList_toList]
  unfold parse
  simp only [hnorm]
  rw [dif_pos ⟨valid, free⟩]

/-- `ScanUnitId`. -/
structure ScanUnitId where
  value : String
  valid : ValidId value.toList

/-- `ScanUnitId::parse`. -/
def ScanUnitId.parse (value : String) : Option ScanUnitId :=
  let normalized := String.ofList (normalizeId value.toList)
  if h : ValidId normalized.toList then some ⟨normalized, h⟩ else none

instance : DecidableEq ScanUnitId := fun a b =>
  decidable_of_iff (a.value = b.value) ⟨fun h => by cases a; cases b; cases h; rfl, congrArg _⟩

theorem ScanUnitId.parse_value (id : ScanUnitId) : ScanUnitId.parse id.value = some id := by
  obtain ⟨value, valid⟩ := id
  have hnorm : String.ofList (normalizeId value.toList) = value := by
    rw [normalizeId_of_valid valid, String.ofList_toList]
  unfold parse
  simp only [hnorm]
  rw [dif_pos valid]

/-! ## 2. The manifest -/

structure PublishedRefreshState where
  path : PathBuf
  hash : String
  deriving BEq

structure CatalogFormatDescriptor where
  canonicalSchemaVersion : Nat
  catalogBuildVersion : Nat
  manifestSchemaVersion : Nat
  shardSchemaVersion : Nat
  navigationSchemaVersion : Nat
  bindingSchemaVersion : Nat
  catalogStateSchemaVersion : Nat
  scannerCacheSchemaVersion : Nat
  builderProtocolVersion : Nat
  projectionContract : String
  deriving BEq

structure PublishedNavPack where
  path : PathBuf
  bytes : Nat
  hash : String
  deriving BEq

structure PublishedGeneration where
  generation : Nat
  sqlitePath : Option PathBuf
  navigationPath : Option PathBuf
  sqliteBytes : Option Nat
  navigationBytes : Option Nat
  sqliteHash : Option String
  navigationHash : Option String
  games : Nat
  navpack : Option PublishedNavPack
  deriving BEq

/-- `is_artifactless`. -/
def PublishedGeneration.isArtifactless (g : PublishedGeneration) : Bool :=
  g.sqlitePath.isNone && g.navigationPath.isNone && g.sqliteBytes.isNone &&
    g.navigationBytes.isNone && g.sqliteHash.isNone && g.navigationHash.isNone && g.navpack.isNone

/-- `artifactless`. -/
def PublishedGeneration.artifactless (generation : Nat) : PublishedGeneration :=
  ⟨generation, none, none, none, none, none, none, 0, none⟩

structure ManifestSystem where
  systemId : SystemId
  displayTitle : String
  section_ : String
  family : String
  order : Nat
  producers : List ScanUnitId
  active : PublishedGeneration
  previous : Option PublishedGeneration
  deriving BEq

structure CatalogManifest where
  refreshState : Option PublishedRefreshState
  format : Option CatalogFormatDescriptor
  generation : Nat
  systems : List ManifestSystem
  deriving BEq

/-! ## 3. The stored form -/

structure StoredNavPack where
  path : String
  bytes : Nat
  hash : String

structure StoredGeneration where
  generation : Nat
  sqlitePath : Option String
  navigationPath : Option String
  sqliteBytes : Option Nat
  navigationBytes : Option Nat
  sqliteHash : Option String
  navigationHash : Option String
  games : Nat
  navpack : Option StoredNavPack

structure StoredSystem where
  systemId : String
  displayTitle : String
  section_ : String
  family : String
  order : Nat
  producers : List String
  active : StoredGeneration
  previous : Option StoredGeneration

structure StoredManifest where
  refreshState : Option PublishedRefreshState
  schemaVersion : Nat
  format : Option CatalogFormatDescriptor
  generation : Nat
  systems : List StoredSystem

def MANIFEST_SCHEMA_VERSION : Nat := 1

/-- `generation_to_stored`. -/
def PublishedGeneration.toStored (g : PublishedGeneration) : StoredGeneration where
  generation := g.generation
  sqlitePath := g.sqlitePath.map PathBuf.pathString
  navigationPath := g.navigationPath.map PathBuf.pathString
  sqliteBytes := g.sqliteBytes
  navigationBytes := g.navigationBytes
  sqliteHash := g.sqliteHash
  navigationHash := g.navigationHash
  games := g.games
  navpack := g.navpack.map fun n => ⟨n.path.pathString, n.bytes, n.hash⟩

def ManifestSystem.toStored (system : ManifestSystem) : StoredSystem where
  systemId := system.systemId.value
  displayTitle := system.displayTitle
  section_ := system.section_
  family := system.family
  order := system.order
  producers := system.producers.map ScanUnitId.value
  active := system.active.toStored
  previous := system.previous.map PublishedGeneration.toStored

/-- `to_stored`. -/
def CatalogManifest.toStored (manifest : CatalogManifest) : StoredManifest where
  refreshState := manifest.refreshState
  schemaVersion := MANIFEST_SCHEMA_VERSION
  format := manifest.format
  generation := manifest.generation
  systems := manifest.systems.map ManifestSystem.toStored

/-- `generation_from_stored`. -/
def StoredGeneration.fromStored (g : StoredGeneration) : PublishedGeneration where
  generation := g.generation
  sqlitePath := g.sqlitePath.map PathBuf.mk
  navigationPath := g.navigationPath.map PathBuf.mk
  sqliteBytes := g.sqliteBytes
  navigationBytes := g.navigationBytes
  sqliteHash := g.sqliteHash
  navigationHash := g.navigationHash
  games := g.games
  navpack := g.navpack.map fun n => ⟨⟨n.path⟩, n.bytes, n.hash⟩

def StoredSystem.fromStored (system : StoredSystem) : Option ManifestSystem := do
  let systemId ← SystemId.parse system.systemId
  let producers ← system.producers.mapM ScanUnitId.parse
  some {
    systemId
    displayTitle := system.displayTitle
    section_ := system.section_
    family := system.family
    order := system.order
    producers
    active := system.active.fromStored
    previous := system.previous.map StoredGeneration.fromStored }

/-- `from_stored`; the reader of the slots drops the error. -/
def StoredManifest.fromStored (stored : StoredManifest) : Option CatalogManifest :=
  if stored.schemaVersion ≠ MANIFEST_SCHEMA_VERSION then none
  else do
    let systems ← stored.systems.mapM StoredSystem.fromStored
    some ⟨stored.refreshState, stored.format, stored.generation, systems⟩

/-! ## 4. The round trip -/

/-- No artifact path of a generation has a backslash. -/
def PublishedGeneration.Plain (g : PublishedGeneration) : Prop :=
  (∀ path ∈ g.sqlitePath, '\\' ∉ path.raw.toList) ∧
    (∀ path ∈ g.navigationPath, '\\' ∉ path.raw.toList) ∧
    ∀ navpack ∈ g.navpack, '\\' ∉ navpack.path.raw.toList

theorem PublishedGeneration.fromStored_toStored {g : PublishedGeneration} (h : g.Plain) :
    g.toStored.fromStored = g := by
  obtain ⟨generation, sqlitePath, navigationPath, sb, nb, sh, nh, games, navpack⟩ := g
  obtain ⟨hs, hn, hp⟩ := h
  have hsql : (sqlitePath.map PathBuf.pathString).map PathBuf.mk = sqlitePath := by
    cases sqlitePath with
    | none => rfl
    | some path => exact congrArg some (PathBuf.pathString_eq (hs path rfl))
  have hnav : (navigationPath.map PathBuf.pathString).map PathBuf.mk = navigationPath := by
    cases navigationPath with
    | none => rfl
    | some path => exact congrArg some (PathBuf.pathString_eq (hn path rfl))
  have hpack : (navpack.map fun n => StoredNavPack.mk n.path.pathString n.bytes n.hash).map
      (fun n => PublishedNavPack.mk ⟨n.path⟩ n.bytes n.hash) = navpack := by
    cases navpack with
    | none => rfl
    | some n =>
        have hpath := PathBuf.pathString_eq (hp n rfl)
        exact congrArg (fun path => some (PublishedNavPack.mk path n.bytes n.hash)) hpath
  unfold toStored StoredGeneration.fromStored
  dsimp only
  rw [hsql, hnav, hpack]

/-- A list of parsed identifiers parses again. -/
theorem mapM_parse (producers : List ScanUnitId) :
    (producers.map ScanUnitId.value).mapM ScanUnitId.parse = some producers := by
  induction producers with
  | nil => rfl
  | cons id producers ih =>
      rw [List.map_cons, List.mapM_cons, ScanUnitId.parse_value, ih]
      rfl

def ManifestSystem.Plain (system : ManifestSystem) : Prop :=
  system.active.Plain ∧ ∀ previous ∈ system.previous, previous.Plain

theorem ManifestSystem.fromStored_toStored {system : ManifestSystem} (h : system.Plain) :
    system.toStored.fromStored = some system := by
  obtain ⟨systemId, displayTitle, section_, family, order, producers, active, previous⟩ := system
  obtain ⟨hactive, hprevious⟩ := h
  have hprev : (previous.map PublishedGeneration.toStored).map StoredGeneration.fromStored =
      previous := by
    cases previous with
    | none => rfl
    | some g => exact congrArg some (PublishedGeneration.fromStored_toStored (hprevious g rfl))
  unfold toStored StoredSystem.fromStored
  dsimp only
  rw [SystemId.parse_value, mapM_parse, PublishedGeneration.fromStored_toStored hactive, hprev]
  rfl

/-- **A manifest without backslashes in its artifact paths comes back from its stored form.** -/
theorem fromStored_toStored {manifest : CatalogManifest}
    (h : ∀ system ∈ manifest.systems, system.Plain) :
    manifest.toStored.fromStored = some manifest := by
  obtain ⟨refreshState, format, generation, systems⟩ := manifest
  have hsystems : (systems.map ManifestSystem.toStored).mapM StoredSystem.fromStored =
      some systems := by
    dsimp only at h
    induction systems with
    | nil => rfl
    | cons system systems ih =>
        have hhead := ManifestSystem.fromStored_toStored (h system List.mem_cons_self)
        have htail := ih fun s hs => h s (List.mem_cons_of_mem _ hs)
        rw [List.map_cons, List.mapM_cons, hhead, htail]
        rfl
  unfold CatalogManifest.toStored StoredManifest.fromStored
  rw [if_neg (fun h => h rfl)]
  dsimp only
  rw [hsystems]
  rfl

end MisterMagik.Catalog
