/-
  File:      MisterMagik/Catalog/Snapshot.lean
  Subject:   What the sources found: systems with their games and variants, and the checks on them
             (crates/catalog/src/system_shard.rs, crates/catalog/src/fast_five_catalog.rs).

  * `SystemGame`, `SystemLaunchPlan` -- a row, and how it is launched;
  * `FastFiveSnapshot.validate` -- distinct systems, and rows bound to their system.
-/
import MisterMagik.Catalog.Manifest

namespace MisterMagik.Catalog

open MisterMagik.Base

structure SystemLaunchPlan where
  launchRef : String
  title : String
  systemId : String
  corePath : String
  payloadPath : String
  mountKind : String
  mountIndex : UInt8
  delaySecs : UInt8
  deriving DecidableEq

structure SystemGame where
  stableKey : String
  title : String
  launchRef : String
  previewArchivePath : String
  previewAssetKey : String
  hasPreview : Bool
  year : Option UInt16
  manufacturer : String
  category : String
  players : Option UInt8
  control : String
  isNew : Bool
  launchPlan : Option SystemLaunchPlan
  deriving DecidableEq

inductive FastFiveVariantRelation where
  | languageEdition
  | titleFormatting
  | arcadeVariant
  | neoGeoVariant
  deriving DecidableEq

structure FastFiveGameVariant where
  familyStableKey : String
  relation : FastFiveVariantRelation
  game : SystemGame
  deriving DecidableEq

structure FastFiveSystem where
  systemId : String
  displayTitle : String
  games : List SystemGame
  variants : List FastFiveGameVariant
  deriving DecidableEq

structure FastFiveSnapshot where
  schema : String
  sourceFingerprint : String
  systems : List FastFiveSystem

def FAST_FIVE_SNAPSHOT_SCHEMA : String := "mister-magik-fast-five-snapshot-v2"

/-- `ensure!`, with the text of its error. -/
def ensure (condition : Bool) (message : String) : Except String Unit :=
  if condition then .ok () else .error message

/-- `validate_fingerprint`. -/
def validateFingerprint (value : String) : Except String Unit :=
  ensure (value.toList.length = 64 && value.toList.all hexDigit)
    "fast-five source fingerprint is not SHA-256"

/-- `trim().is_empty()`. -/
def blank (value : String) : Bool :=
  value.toList.all isWhitespace

/-- `starts_with(&format!("{}\u{1f}", system_id))`. -/
def ownKey (systemId stableKey : String) : Bool :=
  (systemId.toList ++ ['\x1f']).isPrefixOf stableKey.toList

/-- A launch plan is bound to its row and its system. -/
def boundPlan (systemId : String) (game : SystemGame) : Bool :=
  game.launchPlan.all fun plan => plan.launchRef = game.launchRef && plan.systemId = systemId

namespace FastFiveSystem

variable (system : FastFiveSystem)

/-- The loop over the games, with the stable keys before. -/
def validateGames : List String → List SystemGame → Except String (List String)
  | stableKeys, [] => .ok stableKeys
  | stableKeys, game :: games => do
      ensure (!blank game.title && !blank game.launchRef)
        (system.systemId ++ " has an empty title or launch reference")
      ensure (ownKey system.systemId game.stableKey)
        (system.systemId ++ " row has a foreign stable key: " ++ game.stableKey)
      ensure (!stableKeys.contains game.stableKey)
        (system.systemId ++ " contains duplicate stable key " ++ game.stableKey)
      ensure (boundPlan system.systemId game)
        (system.systemId ++ " launch plan is not bound to " ++ game.stableKey)
      validateGames (game.stableKey :: stableKeys) games

/-- The loop over the variants. -/
def validateVariants : List String → List FastFiveGameVariant → Except String Unit
  | _, [] => .ok ()
  | stableKeys, variant :: variants => do
      ensure (stableKeys.contains variant.familyStableKey)
        (system.systemId ++ " variant " ++ variant.game.stableKey ++ " has a missing family " ++
          variant.familyStableKey)
      ensure (ownKey system.systemId variant.game.stableKey &&
          !stableKeys.contains variant.game.stableKey)
        (system.systemId ++ " contains invalid or duplicate variant key " ++
          variant.game.stableKey)
      ensure (boundPlan system.systemId variant.game)
        (system.systemId ++ " variant launch plan is not bound to " ++ variant.game.stableKey)
      validateVariants (variant.game.stableKey :: stableKeys) variants

def validate : Except String Unit := do
  ensure (SystemId.parse system.systemId).isSome ("invalid system " ++ system.systemId)
  ensure (!blank system.displayTitle) (system.systemId ++ " display title is empty")
  let stableKeys ← system.validateGames [] system.games
  system.validateVariants stableKeys system.variants

end FastFiveSystem

/-- `FastFiveSnapshot::validate`. -/
def FastFiveSnapshot.validate (snapshot : FastFiveSnapshot) : Except String Unit := do
  ensure (snapshot.schema = FAST_FIVE_SNAPSHOT_SCHEMA)
    ("unsupported fast-five schema " ++ snapshot.schema)
  validateFingerprint snapshot.sourceFingerprint
  ensure (!snapshot.systems.isEmpty) "fast catalog contains no systems"
  ensure (snapshot.systems.map FastFiveSystem.systemId).Nodup
    "fast catalog contains duplicate system ids"
  snapshot.systems.forM FastFiveSystem.validate

end MisterMagik.Catalog
