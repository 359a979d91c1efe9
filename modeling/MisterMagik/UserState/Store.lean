/-
  File:      MisterMagik/UserState/Store.lean
  Subject:   The durable user state: favourites, play sessions and the summaries kept by triggers
             (crates/catalog/src/user_state.rs).

  A table is its rows under their primary key. `play_sessions` is in the order of its row ids,
  newest first: SQLite gives a new row one more than the largest id in use, and nothing deletes.

  * `recordPlay`, `setFavourite` -- the two writers, with the triggers their statements fire;
  * `ensureSummaries` -- the backfill: window functions and groups over what is there;
  * `readSnapshot`, `refreshFavourites` -- a whole read, and the projection of one system.

  Where SQL leaves the order of equal rows open (favourites of different systems with one time
  and one key) the model takes the order of the primary key.
-/
import MisterMagik.Base.Table
import Mathlib.Data.List.Sort
import Mathlib.Algebra.Group.Prod
import Mathlib.Algebra.Group.Int.Defs

namespace MisterMagik.UserState

open MisterMagik.Base

/-! ## 1. Rows -/

/-- The primary key of `favourites` and `user_recent_games`. -/
structure GameKey where
  systemId : String
  stableKey : String
  deriving DecidableEq, Repr

/-- `UserGameIdentity`. -/
structure UserGameIdentity where
  systemId : String
  stableKey : String
  title : String
  launchRef : String
  payloadPath : String
  deriving DecidableEq, Repr

def UserGameIdentity.key (game : UserGameIdentity) : GameKey :=
  ⟨game.systemId, game.stableKey⟩

/-- `favourites`, beside its key. -/
structure Favourite where
  title : String
  launchRef : String
  payloadPath : String
  favouritedAt : Int
  deriving DecidableEq, Repr

/-- `play_sessions`. -/
structure PlaySession where
  id : Int
  game : UserGameIdentity
  playedAt : Int
  deriving DecidableEq, Repr

/-- `user_recent_games`, beside its key. -/
structure UserRecentGame where
  title : String
  launchRef : String
  payloadPath : String
  lastPlayedAt : Int
  lastSessionId : Int
  playCount : Int
  deriving DecidableEq, Repr

/-- `user_system_counts`, beside its key. -/
structure UserSystemCounts where
  recentCount : Int
  favouriteCount : Int
  deriving DecidableEq, Repr

/-- The derived tables; their triggers are there exactly when they are. -/
structure Summaries where
  userRecentGames : Table GameKey UserRecentGame
  userSystemCounts : Table String UserSystemCounts

structure Database where
  favourites : Table GameKey Favourite
  /-- Newest first. -/
  playSessions : List PlaySession
  /-- `import_sources`: the version of each source. -/
  importSources : Table String Nat
  summaries : Option Summaries

/-- `create_schema`: the base tables, with no summaries yet. -/
def Database.createSchema : Database where
  favourites := ∅
  playSessions := []
  importSources := ∅
  summaries := none

namespace Summaries

/-! ## 2. The triggers -/

/-- `user_recent_added`: after an insert into `user_recent_games`. -/
def userRecentAdded (s : Summaries) (systemId : String) : Summaries :=
  { s with
    userSystemCounts := Table.upsert s.userSystemCounts systemId ⟨1, 0⟩
      (fun counts => { counts with recentCount := counts.recentCount + 1 }) }

/-- `user_favourite_added`: after an insert into `favourites`. -/
def userFavouriteAdded (s : Summaries) (systemId : String) : Summaries :=
  { s with
    userSystemCounts := Table.upsert s.userSystemCounts systemId ⟨0, 1⟩
      (fun counts => { counts with favouriteCount := counts.favouriteCount + 1 }) }

/-- `user_favourite_removed`: after a delete from `favourites`. -/
def userFavouriteRemoved (s : Summaries) (systemId : String) : Summaries :=
  { s with
    userSystemCounts := Table.update s.userSystemCounts systemId
      (fun counts => { counts with favouriteCount := counts.favouriteCount - 1 }) }

/-- The `DO UPDATE` of `user_play_recorded`: every expression reads the old row. -/
def playedAgain (new : PlaySession) (old : UserRecentGame) : UserRecentGame where
  title := if new.playedAt ≥ old.lastPlayedAt then new.game.title else old.title
  launchRef := if new.playedAt ≥ old.lastPlayedAt then new.game.launchRef else old.launchRef
  payloadPath := if new.playedAt ≥ old.lastPlayedAt then new.game.payloadPath else old.payloadPath
  lastSessionId := if new.playedAt ≥ old.lastPlayedAt then new.id else old.lastSessionId
  lastPlayedAt := max old.lastPlayedAt new.playedAt
  playCount := old.playCount + 1

/-- The row a game gets for a session, with a number of plays. -/
def recentRow (session : PlaySession) (plays : Int) : UserRecentGame where
  title := session.game.title
  launchRef := session.game.launchRef
  payloadPath := session.game.payloadPath
  lastPlayedAt := session.playedAt
  lastSessionId := session.id
  playCount := plays

/-- `user_play_recorded`: after an insert into `play_sessions`. An upsert that inserts fires
    `user_recent_added`, one that updates does not. -/
def userPlayRecorded (s : Summaries) (new : PlaySession) : Summaries :=
  match s.userRecentGames.lookup new.game.key with
  | none =>
      userRecentAdded
        { s with userRecentGames := s.userRecentGames.insert new.game.key (recentRow new 1) }
        new.game.systemId
  | some old =>
      { s with userRecentGames := s.userRecentGames.insert new.game.key (playedAgain new old) }

end Summaries

namespace Database

/-! ## 3. The writers -/

/-- The id SQLite gives the next row: one more than the largest in use. -/
def nextRowid (sessions : List PlaySession) : Int :=
  match sessions with
  | [] => 1
  | last :: _ => last.id + 1

/-- `record_play`. -/
def recordPlay (db : Database) (game : UserGameIdentity) (playedAt : Int) : Database :=
  let new : PlaySession := ⟨nextRowid db.playSessions, game, playedAt⟩
  { db with
    playSessions := new :: db.playSessions
    summaries := db.summaries.map (·.userPlayRecorded new) }

/-- The row an insert into `favourites` makes. -/
def favouriteRow (game : UserGameIdentity) (changedAt : Int) : Favourite :=
  ⟨game.title, game.launchRef, game.payloadPath, changedAt⟩

/-- `set_favourite`: the upsert keeps `favourited_at`, and only an insert or a delete of a row
    fires a trigger. -/
def setFavourite (db : Database) (game : UserGameIdentity) (favourite : Bool) (changedAt : Int) :
    Database :=
  match favourite, db.favourites.lookup game.key with
  | true, none =>
      { db with
        favourites := db.favourites.insert game.key (favouriteRow game changedAt)
        summaries := db.summaries.map (·.userFavouriteAdded game.systemId) }
  | true, some old =>
      { db with
        favourites := db.favourites.insert game.key (favouriteRow game old.favouritedAt) }
  | false, none => db
  | false, some _ =>
      { db with
        favourites := db.favourites.erase game.key
        summaries := db.summaries.map (·.userFavouriteRemoved game.systemId) }

/-- `mark_imported`. -/
def markImported (db : Database) (source : String) (version : Nat) : Database :=
  { db with importSources := Table.upsert db.importSources source version fun _ => version }

/-- `imported_version`. -/
def importedVersion (db : Database) (source : String) : Option Nat :=
  db.importSources.lookup source

/-! ## 4. The backfill -/

/-- `o` comes before `s` in `ORDER BY played_at DESC, id DESC`. -/
def precedes (o s : PlaySession) : Bool :=
  s.playedAt < o.playedAt || (s.playedAt = o.playedAt && s.id < o.id)

/-- `PARTITION BY system_id, stable_key`. -/
def partition (sessions : List PlaySession) (key : GameKey) : List PlaySession :=
  sessions.filter fun s => s.game.key = key

/-- `row_number() OVER (PARTITION BY … ORDER BY played_at DESC, id DESC)`. -/
def rowNumber (sessions : List PlaySession) (s : PlaySession) : Nat :=
  (partition sessions s.game.key).countP (precedes · s) + 1

/-- `count(*) OVER (PARTITION BY …)`. -/
def plays (sessions : List PlaySession) (key : GameKey) : Nat :=
  (partition sessions key).length

/-- `INSERT INTO user_recent_games SELECT … WHERE rank = 1`. -/
def backfillRecentGames (sessions : List PlaySession) : Table GameKey UserRecentGame :=
  Table.ofRows ((sessions.filter fun s => rowNumber sessions s = 1).map fun s =>
    (s.game.key, Summaries.recentRow s (plays sessions s.game.key)))

/-- The `UNION ALL` below: a row for each system with recent games, and one for each with
    favourites. -/
def countRows (recents : Table GameKey UserRecentGame) (favourites : Table GameKey Favourite) :
    List (String × (Int × Int)) :=
  Table.pairs (Table.groupSum (recents.keys.map fun key => (GameKey.systemId key, (1, 0)))) ++
  Table.pairs (Table.groupSum (favourites.keys.map fun key => (GameKey.systemId key, (0, 1))))

/-- `INSERT INTO user_system_counts SELECT system_id, sum(…), sum(…) … GROUP BY system_id`. -/
def backfillSystemCounts (recents : Table GameKey UserRecentGame)
    (favourites : Table GameKey Favourite) : Table String UserSystemCounts :=
  Table.ofRows ((Table.pairs (Table.groupSum (countRows recents favourites))).map fun row =>
    (row.1, ⟨row.2.1, row.2.2⟩))

/-- `ensure_summaries`. -/
def ensureSummaries (db : Database) : Database :=
  match db.summaries with
  | some _ => db
  | none =>
      let recents := backfillRecentGames db.playSessions
      { db with summaries := some ⟨recents, backfillSystemCounts recents db.favourites⟩ }

end Database

/-! ## 5. Reads -/

/-- `SystemUserCounts`. -/
structure SystemUserCounts where
  recent : Nat
  favourites : Nat
  deriving DecidableEq, Repr

/-- `row.get::<_, i64>(…)?.max(0) as usize`, for both columns. -/
def UserSystemCounts.read (counts : UserSystemCounts) : SystemUserCounts :=
  ⟨counts.recentCount.toNat, counts.favouriteCount.toNat⟩

/-- In what order a `HashMap` gives its keys; the source leaves it open. -/
structure MapOrder where
  keys : List String → List String
  perm : ∀ systems, (keys systems).Perm systems

/-- The order of a `Table`: what was inserted last comes first. -/
def MapOrder.latestFirst : MapOrder := ⟨id, fun systems => List.Perm.refl systems⟩

/-- `UserStateSnapshot`; a `HashMap` is a table, and a `MapOrder` stands where one is iterated. -/
structure UserStateSnapshot where
  favouriteLaunchRefs : List String
  recentLaunchRefs : List String
  arcadeRecentRefs : List String
  favouritesBySystem : Table String (List String)
  recentBySystem : Table String (List String)
  systemCounts : Table String SystemUserCounts

namespace Database

/-- A row of `favourites` with its key. -/
abbrev FavouriteEntry := GameKey × Favourite

/-- `ORDER BY favourited_at DESC, stable_key`, equal rows in the order of the primary key. -/
def favouriteBefore (a b : FavouriteEntry) : Prop :=
  b.2.favouritedAt < a.2.favouritedAt ∨ (a.2.favouritedAt = b.2.favouritedAt ∧
    (a.1.stableKey < b.1.stableKey ∨ (a.1.stableKey = b.1.stableKey ∧
      a.1.systemId ≤ b.1.systemId)))

instance : DecidableRel favouriteBefore := fun _ _ =>
  inferInstanceAs (Decidable (_ ∨ (_ ∧ (_ ∨ (_ ∧ _)))))

/-- `SELECT … FROM favourites ORDER BY favourited_at DESC, stable_key`. -/
def orderedFavourites (db : Database) : List FavouriteEntry :=
  (Table.pairs db.favourites).insertionSort favouriteBefore

/-- The rows `system_id, launch_ref` of that statement. -/
def favouriteRows (db : Database) : List (String × String) :=
  db.orderedFavourites.map fun row => (row.1.systemId, row.2.launchRef)

/-- The same, `WHERE system_id = …`. -/
def favouritesOf (db : Database) (systemId : String) : List FavouriteEntry :=
  ((Table.pairs db.favourites).filter fun row =>
    row.1.systemId = systemId).insertionSort favouriteBefore

/-- A row of `user_recent_games` with its key. -/
abbrev RecentEntry := GameKey × UserRecentGame

/-- `ORDER BY last_played_at DESC, last_session_id DESC`. -/
def recentBefore (a b : RecentEntry) : Prop :=
  b.2.lastPlayedAt < a.2.lastPlayedAt ∨
    (a.2.lastPlayedAt = b.2.lastPlayedAt ∧ b.2.lastSessionId ≤ a.2.lastSessionId)

instance : DecidableRel recentBefore := fun _ _ => inferInstanceAs (Decidable (_ ∨ (_ ∧ _)))

/-- `SELECT launch_ref FROM user_recent_games WHERE … ORDER BY … LIMIT 16`. -/
def recentRefs (s : Summaries) (choose : String → Bool) : List String :=
  ((((Table.pairs s.userRecentGames).filter fun row => choose row.1.systemId).insertionSort
    recentBefore).take 16).map fun row => row.2.launchRef

/-- One turn of the loop over the favourites: `entry(system).or_default().push(reference)`. -/
def pushFavourite (bySystem : Table String (List String)) (row : String × String) :
    Table String (List String) :=
  Table.upsert bySystem row.1 [row.2] (· ++ [row.2])

/-- `read_snapshot`; without the summary tables the statements do not prepare. -/
def readSnapshot (db : Database) (arcadeSystems : List String) : Option UserStateSnapshot := do
  let s ← db.summaries
  let counts := (Table.pairs s.userSystemCounts).map fun row => (row.1, row.2.read)
  some {
    favouriteLaunchRefs := db.favouriteRows.map Prod.snd
    favouritesBySystem := db.favouriteRows.foldl pushFavourite ∅
    systemCounts := Table.ofRows counts
    recentLaunchRefs := recentRefs s fun _ => true
    arcadeRecentRefs := recentRefs s fun system => arcadeSystems.contains system
    recentBySystem := Table.ofRows ((counts.filter fun row => row.2.recent ≠ 0).map fun row =>
      (row.1, recentRefs s fun system => system = row.1)) }

/-- `refresh_favourites`: the favourites of one system, patched into a snapshot. The references over
    all systems are put together in the order in which the map gives its values. -/
def refreshFavourites (db : Database) (order : MapOrder) (snapshot : UserStateSnapshot)
    (systemId : String) : Option UserStateSnapshot := do
  let s ← db.summaries
  let references := (db.favouritesOf systemId).map fun row => row.2.launchRef
  let counts := ((s.userSystemCounts.lookup systemId).map UserSystemCounts.read).getD ⟨0, 0⟩
  let bySystem := snapshot.favouritesBySystem.insert systemId references
  some { snapshot with
    favouritesBySystem := bySystem
    favouriteLaunchRefs :=
      (order.keys bySystem.keys).flatMap fun system => (bySystem.lookup system).getD []
    systemCounts := snapshot.systemCounts.insert systemId counts }

end Database

end MisterMagik.UserState
