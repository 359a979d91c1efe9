/-
  File:      MisterMagik/UserState/Session.lean
  Subject:   The user-state session of the launcher and its worker thread
             (ui_runner/user_state_session.rs), joined by a request and an event channel.

  The session and the worker step independently: a request waits in its channel until the worker
  takes it, an event until the launcher polls. Each step of the worker is given how its store calls
  go. Other connections may record plays; favourites have no other writer.

  * `UserStateSession.refresh`, `.setFavourite`, `.poll` -- the launcher's calls;
  * `Worker.process` -- one request: what happens to the store, the cache and the event;
  * `sessionSystem` -- the machine, with what was accepted, answered and received beside it.

  `load_initial_snapshot` is a refresh and, at the start, a receive that does what `poll` does with
  an event that completes no favourite.
-/
import MisterMagik.Base.Machine
import MisterMagik.UserState.LegacyImport
import Mathlib.Data.Finset.Basic

namespace MisterMagik.UserState

open MisterMagik.Base

/-! ## 1. Requests and events -/

/-- What a refresh reads of the catalogue: the identities of its games and the systems of the
    arcade menu, sorted. -/
structure ArcadeCatalog where
  games : List UserGameIdentity
  arcadeSystems : List String

inductive UserStateRequest where
  | refresh (legacyCatalog : Option (List UserGameIdentity)) (arcadeSystems : List String)
      (now : Int)
  | setFavourite (game : UserGameIdentity) (favourite : Bool) (now : Int)

/-- `completed_favourite` of a request. -/
def UserStateRequest.completedFavourite : UserStateRequest → Option String
  | .refresh _ _ _ => none
  | .setFavourite game _ _ => some game.launchRef

inductive UserStateEvent where
  | snapshot (snapshot : UserStateSnapshot) (completedFavourite : Option String)
  | failed (error : String) (completedFavourite : Option String)
  | unavailable (error : String)

/-- The two channels. A receiver that is dropped closes its channel. -/
structure Channels where
  requests : List UserStateRequest
  requestsOpen : Bool
  events : List UserStateEvent
  eventsOpen : Bool

/-! ## 2. The session -/

structure UserStateSession where
  pendingFavourites : Finset String
  available : Bool
  legacyCatalogSent : Bool

namespace UserStateSession

def start : UserStateSession := ⟨∅, true, false⟩

variable (self : UserStateSession) (link : Channels)

def markUnavailable : UserStateSession :=
  { self with available := false, pendingFavourites := ∅ }

def submit (request : UserStateRequest) : Except String Unit × UserStateSession × Channels :=
  if self.available = false then (.error "user-state worker unavailable", self, link)
  else if link.requestsOpen then
    (.ok (), self, { link with requests := link.requests ++ [request] })
  else (.error "user-state worker disconnected", self.markUnavailable, link)

def refresh (catalog : ArcadeCatalog) (now : Int) :
    Except String Unit × UserStateSession × Channels :=
  let legacyCatalog := if self.legacyCatalogSent then none else some catalog.games
  match self.submit link (.refresh legacyCatalog catalog.arcadeSystems now) with
  | (.ok (), self, link) => (.ok (), { self with legacyCatalogSent := true }, link)
  | (.error error, self, link) => (.error error, self, link)

def setFavourite (game : UserGameIdentity) (favourite : Bool) (now : Int) :
    Except String Unit × UserStateSession × Channels :=
  if game.launchRef ∈ self.pendingFavourites then (.ok (), self, link)
  else
    match self.submit link (.setFavourite game favourite now) with
    | (.ok (), self, link) =>
        (.ok (), { self with
          pendingFavourites := insert game.launchRef self.pendingFavourites }, link)
    | (.error error, self, link) => (.error error, self, link)

/-- What a received event changes. -/
def observe (event : UserStateEvent) : UserStateSession :=
  match event with
  | .snapshot _ completedFavourite | .failed _ completedFavourite =>
      match completedFavourite with
      | some launchRef =>
          { self with pendingFavourites := self.pendingFavourites.erase launchRef }
      | none => self
  | .unavailable _ => self.markUnavailable

def poll : Option UserStateEvent × UserStateSession × Channels :=
  if self.available = false then (none, self, link)
  else
    match link.events with
    | event :: events => (some event, self.observe event, { link with events })
    | [] =>
        if link.eventsOpen then (none, self, link)
        else
          let event := .unavailable "user-state worker disconnected"
          (some event, self.observe event, link)

end UserStateSession

/-! ## 3. The worker -/

/-- How the store calls of one request go: the write of a favourite, the read or projection, and
    the legacy import; and in what order the cached map is iterated. -/
structure Conduct where
  write : Call
  read : Except String Unit
  legacy : ImportRun
  order : MapOrder

structure Worker where
  cached : Option UserStateSnapshot
  arcadeSystems : List String
  pendingImport : Option (List UserGameIdentity)
  importCompleted : Bool

namespace Worker

def start : Worker := ⟨none, [], none, false⟩

/-- A call that goes as it may, with the error of a statement that does not prepare. -/
def readCall (read : Except String Unit) (snapshot : Option UserStateSnapshot) :
    Except String UserStateSnapshot :=
  match read, snapshot with
  | .error error, _ => .error error
  | .ok (), none => .error "prepare count snapshot"
  | .ok (), some snapshot => .ok snapshot

variable (w : Worker) (db : Database)

/-- `if let Some(catalog) = legacy_catalog { pending_import = Some(catalog) }`. -/
def takeCatalog (legacyCatalog : Option (List UserGameIdentity)) : Worker :=
  match legacyCatalog with
  | some games => { w with pendingImport := some games }
  | none => w

/-- `if !import_completed { … }`. -/
def runImport (now : Int) (conduct : Conduct) : Worker × Database × Except String Unit :=
  if w.importCompleted then (w, db, .ok ())
  else
    match w.pendingImport with
    | none => (w, db, .error "legacy import context missing")
    | some games =>
        match importLegacySnes db (games.filter fun game => isSnes game.systemId) now
            conduct.legacy with
        | (db', .error error) => (w, db', .error error)
        | (db', .ok ()) =>
            ({ w with importCompleted := true, pendingImport := none }, db', .ok ())

/-- The `Refresh` arm. -/
def refresh (legacyCatalog : Option (List UserGameIdentity)) (members : List String) (now : Int)
    (conduct : Conduct) : Worker × Database × Except String UserStateSnapshot :=
  match (w.takeCatalog legacyCatalog).runImport db now conduct with
  | (w, db, .error error) => (w, db, .error error)
  | (w, db, .ok ()) =>
      match readCall conduct.read (db.readSnapshot members) with
      | .error error => ({ w with arcadeSystems := members }, db, .error error)
      | .ok snapshot =>
          ({ w with arcadeSystems := members, cached := some snapshot }, db, .ok snapshot)

/-- The snapshot after a write: the cache with the changed system, or a whole read. -/
def changedSnapshot (order : MapOrder) (systemId : String) : Option UserStateSnapshot :=
  match w.cached with
  | some cached => db.refreshFavourites order cached systemId
  | none => db.readSnapshot w.arcadeSystems

/-- The `SetFavourite` arm. -/
def setFavourite (game : UserGameIdentity) (favourite : Bool) (now : Int) (conduct : Conduct) :
    Worker × Database × Except String UserStateSnapshot :=
  let db' := conduct.write.store db (db.setFavourite game favourite now)
  match conduct.write.result with
  | .error error => (w, db', .error error)
  | .ok () =>
      match readCall conduct.read (w.changedSnapshot db' conduct.order game.systemId) with
      | .error error => (w, db', .error error)
      | .ok snapshot => ({ w with cached := some snapshot }, db', .ok snapshot)

/-- One turn of the loop: only a failure that completes a favourite drops the cache. -/
def process (request : UserStateRequest) (conduct : Conduct) :
    Worker × Database × UserStateEvent :=
  let (w', db', result) := match request with
    | .refresh legacyCatalog members now => w.refresh db legacyCatalog members now conduct
    | .setFavourite game favourite now => w.setFavourite db game favourite now conduct
  match result with
  | .ok snapshot => (w', db', .snapshot snapshot request.completedFavourite)
  | .error error =>
      (if request.completedFavourite.isSome then { w' with cached := none } else w', db',
        .failed error request.completedFavourite)

end Worker

/-! ## 4. The machine -/

/-- Where the worker thread is: `UserStateStore::open`, the loop, on its way out after an open that
    failed, or gone with its ends of the channels. -/
inductive WorkerPhase where
  | opening
  | serving (w : Worker)
  | closing
  | exited

/-- A request with its event and the store at the moment the event was made. -/
structure Answer where
  request : UserStateRequest
  event : UserStateEvent
  store : Database

structure SessionSystem where
  session : UserStateSession
  link : Channels
  worker : WorkerPhase
  db : Database
  /-- The requests that went into the channel, the earliest first. -/
  accepted : List UserStateRequest
  answers : List Answer
  /-- What `poll` returned. -/
  received : List UserStateEvent

/-- A step of the launcher, of the worker, or of another connection. -/
inductive SessionAction where
  | refresh (catalog : ArcadeCatalog) (now : Int)
  | setFavourite (game : UserGameIdentity) (favourite : Bool) (now : Int)
  | poll
  | openStore (result : Except String Unit)
  | work (conduct : Conduct)
  | exit
  | recordPlay (game : UserGameIdentity) (playedAt : Int)

namespace SessionSystem

def start (db : Database) : SessionSystem where
  session := .start
  link := ⟨[], true, [], true⟩
  worker := .opening
  db := db
  accepted := []
  answers := []
  received := []

/-- A call of the session that may send a request. -/
def sent (s : SessionSystem) (call : Except String Unit × UserStateSession × Channels) :
    SessionSystem :=
  { s with
    session := call.2.1
    link := call.2.2
    accepted := s.accepted ++ call.2.2.requests.drop s.link.requests.length }

def polled (s : SessionSystem) (call : Option UserStateEvent × UserStateSession × Channels) :
    SessionSystem :=
  { s with session := call.2.1, link := call.2.2, received := s.received ++ call.1.toList }

/-- The open that succeeds leaves the summaries in place; the one that fails is reported. -/
def opened (s : SessionSystem) (result : Except String Unit) : SessionSystem :=
  match result with
  | .ok () => { s with worker := .serving .start, db := s.db.ensureSummaries }
  | .error error =>
      { s with
        worker := .closing
        link := { s.link with events := s.link.events ++ [.unavailable error] } }

/-- The worker `w` takes the first of the waiting requests. -/
def worked (s : SessionSystem) (w : Worker) (request : UserStateRequest)
    (requests : List UserStateRequest) (conduct : Conduct) : SessionSystem :=
  match w.process s.db request conduct with
  | (w', db', event) =>
      { s with
        worker := .serving w'
        db := db'
        link := { s.link with requests, events := s.link.events ++ [event] }
        answers := s.answers ++ [⟨request, event, db'⟩] }

def next (s : SessionSystem) : SessionAction → SessionSystem
  | .refresh catalog now => s.sent (s.session.refresh s.link catalog now)
  | .setFavourite game favourite now =>
      s.sent (s.session.setFavourite s.link game favourite now)
  | .poll => s.polled (s.session.poll s.link)
  | .openStore result =>
      match s.worker with
      | .opening => s.opened result
      | _ => s
  | .work conduct =>
      match s.worker, s.link.requests with
      | .serving w, request :: requests => s.worked w request requests conduct
      | _, _ => s
  | .exit =>
      match s.worker with
      | .closing =>
          { s with
            worker := .exited
            link := { s.link with requestsOpen := false, eventsOpen := false } }
      | _ => s
  | .recordPlay game playedAt => { s with db := s.db.recordPlay game playedAt }

end SessionSystem

/-- The session, its worker and the store. A run starts over any store that the writers and the
    backfill can leave. -/
def sessionSystem : Machine SessionSystem SessionAction :=
  .ofNext (fun s => ∃ db, db.Sound ∧ s = .start db) SessionSystem.next

end MisterMagik.UserState
