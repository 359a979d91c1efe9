/-
  File:      MisterMagik/Launcher/LaunchReturn.lean
  Subject:   A LAUNCH AND THE RETURN FROM IT: the files that are left for the launcher that starts
             after the game, and who writes and takes them. Definitions.

  A launch is staged with what is needed to come back; it is written when the loading frame has been
  shown, and taken out again when the launch fails or when a launcher starts. Any operation on a
  file may fail, with a text of the system's. A process that dies is one that does nothing more: the
  next call is a start.

  * `CapsuleBinding.current` -- what a capsule is bound to;
  * `saveReturnCatalogCapsule`, `takeReturnCatalogCapsule`, `peekReturnCatalogFingerprint`;
  * `LaunchHandoffSession` -- staged, and pending;
  * `startup`, `LaunchCall` -- a launcher starts; the calls.
-/
import MisterMagik.Launcher.ReturnCapsule

namespace MisterMagik.Launcher

open Base Catalog CapsuleBinaryReader

/-! ## 1. Bindings -/

inductive DeviceLayout where
  | public_
  | dev
  deriving DecidableEq

/-- What a process knows of its installation, its libraries and its build. -/
structure CapsuleEnvironment where
  layout : DeviceLayout
  appDir : String
  libraryRoots : List String
  pathMap : List (String × String)
  schemaVersion : UInt32
  catalogBuildVersion : UInt32
  packageVersion : String
  buildTime : String

namespace CapsuleBinding

def forValues (env : CapsuleEnvironment) (catalogRoot stamp : String) : CapsuleBinding where
  namespace_ := match env.layout with
    | .public_ => "mister-magik-public"
    | .dev => "mister-magik-dev"
  appDir := env.appDir
  catalogRoot := catalogRoot
  libraryRoots := env.libraryRoots
  pathMap := env.pathMap
  catalogStampFingerprint := stamp
  catalogSchema := env.schemaVersion
  catalogBuild := env.catalogBuildVersion
  binaryVersion := env.packageVersion
  binaryBuild := env.buildTime

def forCurrentGeneration (env : CapsuleEnvironment) (catalogRoot durableCatalogFingerprint : String) :
    Reads CapsuleBinding := do
  validateCatalogFingerprint durableCatalogFingerprint
  pure (forValues env catalogRoot durableCatalogFingerprint)

/-- The binding of the catalogue that is published now. -/
def current (env : CapsuleEnvironment) (registryFingerprint : Reads String)
    (catalogRoot : String) : Reads CapsuleBinding := do
  let durableCatalogFingerprint ← registryFingerprint
  forCurrentGeneration env catalogRoot durableCatalogFingerprint

end CapsuleBinding

def prepareReturnCatalogCapsule {lookups : Lookups} (env : CapsuleEnvironment)
    (catalog : ArcadeCatalog lookups)
    (collectionId returnGamePath durableCatalogFingerprint : String) : Reads (List UInt8) := do
  let binding ← CapsuleBinding.forCurrentGeneration env catalog.root durableCatalogFingerprint
  prepareReturnCatalogCapsuleInner catalog collectionId returnGamePath binding

/-! ## 2. Files -/

/-- What the launcher goes back to. -/
structure LaunchReturnState where
  collectionId : Option String
  gamePath : String
  deriving DecidableEq

/-- The return state, the capsule, and the file a capsule is written to first. -/
structure ReturnFiles where
  state : Option LaunchReturnState
  capsule : Option (List UInt8)
  temp : Option (List UInt8)
  deriving DecidableEq

/-- Why an operation failed, if it did. -/
abbrev FileFault := Option String

/-- `remove_file_quiet`. -/
def removeQuiet {α : Type} (fault : FileFault) (file : Option α) : Option α :=
  if fault.isSome then file else none

/-- How the operations of a save end, and how much of a write that failed was written. -/
structure SaveFaults where
  directory : FileFault
  removeTemp : FileFault
  create : FileFault
  write : FileFault
  written : Nat
  flush : FileFault
  rename : FileFault

/-- The temp file is created anew; one that is still there is an error. -/
def SaveFaults.createsTemp (faults : SaveFaults) (files : ReturnFiles) : FileFault :=
  if (removeQuiet faults.removeTemp files.temp).isSome then some "File exists (os error 17)"
  else faults.create

def saveReturnCatalogCapsule (faults : SaveFaults) (bytes : List UInt8) (files : ReturnFiles) :
    Reads Unit × ReturnFiles :=
  match faults.directory with
  | some e => (fail s!"create return capsule dir: {e}", files)
  | none =>
      match faults.createsTemp files with
      | some e => (fail s!"create return capsule temp: {e}",
          { files with temp := removeQuiet faults.removeTemp files.temp })
      | none =>
          match faults.write with
          | some e => (fail s!"write return capsule temp: {e}",
              { files with temp := some (bytes.take faults.written) })
          | none =>
              match faults.flush with
              | some e => (fail s!"flush return capsule temp: {e}",
                  { files with temp := some bytes })
              | none =>
                  match faults.rename with
                  | some e => (fail s!"install return capsule: {e}",
                      { files with temp := some bytes })
                  | none => (.ok (), { files with capsule := some bytes, temp := none })

/-- How the two removals end. -/
structure ClearFaults where
  capsule : FileFault
  temp : FileFault

def removeReturnCatalogCapsule (faults : ClearFaults) (files : ReturnFiles) : ReturnFiles :=
  { files with
    capsule := removeQuiet faults.capsule files.capsule
    temp := removeQuiet faults.temp files.temp }

def readReturnCatalogCapsuleBytes (fault : FileFault) (files : ReturnFiles) :
    Reads (List UInt8) :=
  match fault, files.capsule with
  | some e, _ => fail s!"read return capsule: {e}"
  | none, none => fail "read return capsule: No such file or directory (os error 2)"
  | none, some bytes => do
      check (bytes.length ≤ RETURN_CATALOG_CAPSULE_MAX_BYTES) "return capsule exceeds byte limit"
      pure bytes

/-- What a look at a capsule reads of it. -/
def decodePrelude : Takes CapsuleBinding := do
  expectMagic RETURN_CATALOG_CAPSULE_MAGIC
  let schema ← CapsuleBinaryReader.readU32
  liftM (checkSchema schema)
  decodeBinding

def peekReturnCatalogFingerprint (fault : FileFault) (files : ReturnFiles) : Reads String := do
  let bytes ← readReturnCatalogCapsuleBytes fault files
  let parsed ← decodePrelude bytes
  validateBinding parsed.1
  pure parsed.1.catalogStampFingerprint

structure TakenReturnCatalogCapsule (lookups : Lookups) where
  catalog : ArcadeCatalog lookups
  durableCatalogFingerprint : String

section Take

variable (lookups : Lookups)

def readReturnCatalogCapsule (fault : FileFault) (expected : CapsuleBinding)
    (collectionId returnGamePath : String) (files : ReturnFiles) :
    Reads (TakenReturnCatalogCapsule lookups) := do
  let bytes ← readReturnCatalogCapsuleBytes fault files
  let catalog ← decodeReturnCatalogCapsule lookups bytes expected collectionId returnGamePath
  pure ⟨catalog, expected.catalogStampFingerprint⟩

/-- A capsule is read, and gone, whatever was read; one that cannot be bound is gone too. -/
def takeReturnCatalogCapsule (fault : FileFault) (faults : ClearFaults)
    (current : Reads CapsuleBinding) (collectionId returnGamePath : String) (files : ReturnFiles) :
    Reads (TakenReturnCatalogCapsule lookups) × ReturnFiles :=
  match current with
  | .ok expected =>
      (readReturnCatalogCapsule lookups fault expected collectionId returnGamePath files,
        removeReturnCatalogCapsule faults files)
  | .error (.error e) => (fail s!"bind return capsule: {e}", removeReturnCatalogCapsule faults files)
  | .error .panic => (.error .panic, files)

end Take

def saveLaunchReturnState (fault : FileFault) (state : LaunchReturnState) (files : ReturnFiles) :
    Bool × ReturnFiles :=
  if fault.isSome then (false, files) else (true, { files with state := some state })

def removeLaunchReturnState (fault : FileFault) (files : ReturnFiles) : ReturnFiles :=
  { files with state := removeQuiet fault files.state }

/-- A state that could not be read stays where it is. -/
def takeLaunchReturnState (read clear : FileFault) (files : ReturnFiles) :
    Option LaunchReturnState × ReturnFiles :=
  if read.isSome then (none, files) else (files.state, removeLaunchReturnState clear files)

/-! ## 3. A launch -/

structure StagedLaunch where
  launchTarget : LaunchTarget
  returnState : Option LaunchReturnState
  returnCatalog : Option (List UInt8)

/-- The launch that is staged, and the target of the worker that is running. -/
structure LaunchHandoffSession where
  pending : Option LaunchTarget
  staged : Option StagedLaunch

/-- `capture_launch_return_state`, where the collection in view is known by its id. -/
def captureLaunchReturnState (scopeId : Option String) (gamePath : String) :
    Option LaunchReturnState :=
  match scopeId with
  | none => none
  | some id => if id = "" then none else some ⟨some id, gamePath⟩

/-- What a session, its process and the files come to. -/
structure LaunchWorld where
  session : LaunchHandoffSession
  files : ReturnFiles

/-- The capsule of a launch; none where it cannot be prepared. -/
def returnCatalogOf {lookups : Lookups} (env : CapsuleEnvironment) (catalog : ArcadeCatalog lookups)
    (fingerprint : Option String) (state : Option LaunchReturnState) : Option (List UInt8) := do
  let state ← state
  let fingerprint ← fingerprint
  let collectionId ← state.collectionId
  (prepareReturnCatalogCapsule env catalog collectionId state.gamePath fingerprint).toOption

def LaunchHandoffSession.beginLaunch {lookups : Lookups} (env : CapsuleEnvironment)
    (catalog : ArcadeCatalog lookups) (scopeId fingerprint : Option String) (launchRef : String)
    (session : LaunchHandoffSession) : Bool × LaunchHandoffSession :=
  if session.pending.isSome ∨ session.staged.isSome then (false, session)
  else
    let returnState := captureLaunchReturnState scopeId launchRef
    (true, { session with staged := some {
      launchTarget := catalog.launchTargetForRef launchRef
      returnState := returnState
      returnCatalog := returnCatalogOf env catalog fingerprint returnState } })

/-- How what a loading frame writes ends. -/
structure LoadingFrameFaults where
  state : FileFault
  save : SaveFaults
  clear : ClearFaults

/-- The files a staged launch leaves. -/
def StagedLaunch.write (staged : StagedLaunch) (faults : LoadingFrameFaults) (files : ReturnFiles) :
    ReturnFiles :=
  match staged.returnState with
  | none => removeReturnCatalogCapsule faults.clear files
  | some state =>
      let saved := saveLaunchReturnState faults.state state files
      if saved.1 then
        match staged.returnCatalog with
        | some capsule => (saveReturnCatalogCapsule faults.save capsule saved.2).2
        | none => removeReturnCatalogCapsule faults.clear saved.2
      else removeReturnCatalogCapsule faults.clear saved.2

def LaunchWorld.completeLoadingFrame (faults : LoadingFrameFaults) (w : LaunchWorld) :
    LaunchWorld :=
  match w.session.staged with
  | none => w
  | some staged => ⟨⟨some staged.launchTarget, none⟩, staged.write faults w.files⟩

/-- What a worker has reported: nothing yet, a launch, or a failure. A worker that is gone has
    failed. -/
inductive WorkerReport where
  | running
  | launched
  | failed

def LaunchWorld.pollCompletion (report : WorkerReport) (state : FileFault) (clear : ClearFaults)
    (w : LaunchWorld) : LaunchWorld :=
  if w.session.pending.isNone then w
  else
    match report with
    | .running => w
    | .launched => { w with session := { w.session with pending := none } }
    | .failed => ⟨{ w.session with pending := none },
        removeReturnCatalogCapsule clear (removeLaunchReturnState state w.files)⟩

/-! ## 4. A launcher starts -/

/-- What a launcher finds when it starts, and how its operations on the files end. -/
structure Start where
  env : CapsuleEnvironment
  registryFingerprint : Reads String
  catalogRoot : String
  restoreAllowed : Bool
  predecessorMigration : Bool
  readState : FileFault
  clearState : FileFault
  clearUnasked : ClearFaults
  clearPredecessor : ClearFaults
  readCapsule : FileFault
  clearCapsule : ClearFaults

section Startup

variable (lookups : Lookups)

/-- The return state that is asked for. -/
def Start.requested (start : Start) (files : ReturnFiles) : Option LaunchReturnState :=
  (takeLaunchReturnState start.readState start.clearState files).1.filter fun _ =>
    start.restoreAllowed

/-- The files when it is known whether there is something to return to. -/
def Start.unasked (start : Start) (files : ReturnFiles) : ReturnFiles :=
  let files' := (takeLaunchReturnState start.readState start.clearState files).2
  if (start.requested files).isNone then removeReturnCatalogCapsule start.clearUnasked files'
  else files'

def startup (start : Start) (files : ReturnFiles) :
    Option (LaunchReturnState × Reads (TakenReturnCatalogCapsule lookups)) × ReturnFiles :=
  let files' := start.unasked files
  if start.predecessorMigration then
    (none, removeReturnCatalogCapsule start.clearPredecessor files')
  else
    match start.requested files with
    | none => (none, files')
    | some state =>
        match state.collectionId with
        | none => (none, files')
        | some collectionId =>
            let taken := takeReturnCatalogCapsule lookups start.readCapsule start.clearCapsule
              (CapsuleBinding.current start.env start.registryFingerprint start.catalogRoot)
              collectionId state.gamePath files'
            (some (state, taken.1), taken.2)

/-! ## 5. The calls -/

inductive LaunchCall where
  | beginLaunch (env : CapsuleEnvironment) (catalog : ArcadeCatalog lookups)
      (scopeId fingerprint : Option String) (launchRef : String)
  | completeLoadingFrame (faults : LoadingFrameFaults)
  | pollCompletion (report : WorkerReport) (state : FileFault) (clear : ClearFaults)
  | removeReturnCatalogCapsule (faults : ClearFaults)
  | startup (start : Start)

variable {lookups}

def LaunchWorld.next (w : LaunchWorld) : LaunchCall lookups → LaunchWorld
  | .beginLaunch env catalog scopeId fingerprint launchRef =>
      { w with session :=
        (w.session.beginLaunch env catalog scopeId fingerprint launchRef).2 }
  | .completeLoadingFrame faults => w.completeLoadingFrame faults
  | .pollCompletion report state clear => w.pollCompletion report state clear
  | .removeReturnCatalogCapsule faults =>
      { w with files := removeReturnCatalogCapsule faults w.files }
  | .startup start => ⟨⟨none, none⟩, (Launcher.startup lookups start w.files).2⟩

/-- Nothing is staged and nothing is left. -/
def LaunchWorld.first : LaunchWorld := ⟨⟨none, none⟩, ⟨none, none, none⟩⟩

/-- Where a run of calls ends. -/
def LaunchWorld.after (calls : List (LaunchCall lookups)) : LaunchWorld :=
  calls.foldl LaunchWorld.next .first

end Startup

end MisterMagik.Launcher
