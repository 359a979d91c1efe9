/-
  File:      MisterMagik/UserState/LegacyImport.lean
  Subject:   The one-time import of legacy SNES favourites and recents
             (crates/catalog/src/legacy_user_state_import.rs).

  What the media root holds is not in the store: an import run is given the entries its loops come
  to, in their order, and how each store call went. A call that fails may have written or not.

  * `matchGame` -- the catalogue row of an entry, by normalised path or wrapper text;
  * `importLegacySnes` -- the run, which stops at the first error.
-/
import MisterMagik.Base.Text
import MisterMagik.UserState.Recomputation

namespace MisterMagik.UserState

open MisterMagik.Base

/-! ## 1. Store calls that may fail -/

/-- How a writing store call went. -/
inductive Call where
  | ok
  | failed (durable : Bool) (error : String)
  deriving DecidableEq, Repr

/-- The store after the call, when `db'` is the store with its write. -/
def Call.store (call : Call) (db db' : Database) : Database :=
  match call with
  | .ok => db'
  | .failed durable _ => if durable then db' else db

def Call.result (call : Call) : Except String Unit :=
  match call with
  | .ok => .ok ()
  | .failed _ error => .error error

theorem Call.store_cases (call : Call) (db db' : Database) :
    call.store db db' = db ∨ call.store db db' = db' := by
  cases call with
  | ok => exact Or.inr rfl
  | failed durable error =>
      cases durable
      · exact Or.inl rfl
      · exact Or.inr rfl

/-! ## 2. Matching an entry to a game -/

/-- The loop that replaces `//` by `/` until there is none: a slash after a slash goes. -/
def collapseSlashes (afterSlash : Bool) : List Char → List Char
  | [] => []
  | c :: rest =>
      if c = '/' && afterSlash then collapseSlashes true rest
      else c :: collapseSlashes (c = '/') rest

/-- `normalize_path`. -/
def normalizePath (path : String) : List Char :=
  (collapseSlashes false (path.toList.map forwardSlash)).rdropWhile (· = '/')

/-- `system_id.eq_ignore_ascii_case("snes")`. -/
def isSnes (systemId : String) : Bool :=
  systemId.toList.map Char.toLower = "snes".toList

/-- `match_game`. -/
def matchGame (games : List UserGameIdentity) (candidate : String)
    (wrapperText : Option String) : Option UserGameIdentity :=
  games.find? fun game =>
    isSnes game.systemId &&
      ([game.launchRef, game.payloadPath].any
          (fun path => normalizePath path = normalizePath candidate) ||
        wrapperText.any fun text =>
          ([game.launchRef, game.payloadPath].filter (· ≠ "")).any
            fun path => decide (path.toList <:+: text.toList))

/-! ## 3. The import -/

/-- What one turn of the import's loops comes to: a record of a recent file, a line or a file of
    the favourites, or a file it cannot read or parse. -/
inductive LegacyEntry where
  | recent (path : String) (playedAt : Int) (call : Call)
  | favourite (candidate : String) (wrapperText : Option String) (call : Call)
  | unreadable (error : String)

/-- One import run: whether the version was read, what the loops come to, and the last call. -/
structure ImportRun where
  versionRead : Except String Unit
  entries : List LegacyEntry
  mark : Call

def importSource : String := "legacy-snes"

def importVersion : Nat := 1

/-- One turn: an entry of a known game is written, any other is stored as unresolved. -/
def importEntry (db : Database) (games : List UserGameIdentity) (now : Int) :
    LegacyEntry → Database × Except String Unit
  | .recent path playedAt call =>
      match matchGame games path none with
      | some game => (call.store db (db.recordPlay game playedAt), call.result)
      | none => (db, call.result)
  | .favourite candidate wrapperText call =>
      match matchGame games candidate wrapperText with
      | some game => (call.store db (db.setFavourite game true now), call.result)
      | none => (db, call.result)
  | .unreadable error => (db, .error error)

/-- The loops of `import_legacy_snes`. -/
def importEntries (db : Database) (games : List UserGameIdentity) (now : Int) :
    List LegacyEntry → Database × Except String Unit
  | [] => (db, .ok ())
  | entry :: entries =>
      match importEntry db games now entry with
      | (db', .error error) => (db', .error error)
      | (db', .ok ()) => importEntries db' games now entries

/-- `import_legacy_snes`. -/
def importLegacySnes (db : Database) (games : List UserGameIdentity) (now : Int)
    (run : ImportRun) : Database × Except String Unit :=
  match run.versionRead with
  | .error error => (db, .error error)
  | .ok () =>
      if db.importedVersion importSource = some importVersion then (db, .ok ())
      else
        match importEntries db games now run.entries with
        | (db', .error error) => (db', .error error)
        | (db', .ok ()) =>
            (run.mark.store db' (db'.markImported importSource importVersion), run.mark.result)

/-! ## 4. What an import keeps -/

/-- A property of stores that plays and favourites keep holds after any turn, and with the import
    mark after any run. -/
theorem importEntry_invariant {I : Database → Prop}
    (hplay : ∀ db game playedAt, I db → I (db.recordPlay game playedAt))
    (hfav : ∀ db game at_, I db → I (db.setFavourite game true at_)) {db : Database} (h : I db)
    (games : List UserGameIdentity) (now : Int) (entry : LegacyEntry) :
    I (importEntry db games now entry).1 := by
  cases entry with
  | recent path playedAt call =>
      cases hmatch : matchGame games path none with
      | none =>
          simp only [importEntry, hmatch]
          exact h
      | some game =>
          simp only [importEntry, hmatch]
          rcases call.store_cases db (db.recordPlay game playedAt) with heq | heq
          · rw [heq]
            exact h
          · rw [heq]
            exact hplay db game playedAt h
  | favourite candidate wrapperText call =>
      cases hmatch : matchGame games candidate wrapperText with
      | none =>
          simp only [importEntry, hmatch]
          exact h
      | some game =>
          simp only [importEntry, hmatch]
          rcases call.store_cases db (db.setFavourite game true now) with heq | heq
          · rw [heq]
            exact h
          · rw [heq]
            exact hfav db game now h
  | unreadable error => exact h

theorem importEntries_invariant {I : Database → Prop}
    (hplay : ∀ db game playedAt, I db → I (db.recordPlay game playedAt))
    (hfav : ∀ db game at_, I db → I (db.setFavourite game true at_))
    (games : List UserGameIdentity) (now : Int) (entries : List LegacyEntry) {db : Database}
    (h : I db) : I (importEntries db games now entries).1 := by
  induction entries generalizing db with
  | nil => exact h
  | cons entry entries ih =>
      have hentry := importEntry_invariant hplay hfav h games now entry
      unfold importEntries
      split
      · rename_i heq
        rw [heq] at hentry
        exact hentry
      · rename_i heq
        rw [heq] at hentry
        exact ih hentry

theorem importLegacySnes_invariant {I : Database → Prop}
    (hplay : ∀ db game playedAt, I db → I (db.recordPlay game playedAt))
    (hfav : ∀ db game at_, I db → I (db.setFavourite game true at_))
    (hmark : ∀ db source version, I db → I (db.markImported source version)) {db : Database}
    (h : I db) (games : List UserGameIdentity) (now : Int) (run : ImportRun) :
    I (importLegacySnes db games now run).1 := by
  unfold importLegacySnes
  split
  · exact h
  · split
    · exact h
    · have hentries := importEntries_invariant hplay hfav games now run.entries h
      split
      · rename_i heq
        rw [heq] at hentries
        exact hentries
      · rename_i db' heq
        rw [heq] at hentries
        rcases run.mark.store_cases db' (db'.markImported importSource importVersion) with
          hstore | hstore
        · rw [hstore]
          exact hentries
        · rw [hstore]
          exact hmark db' _ _ hentries

end MisterMagik.UserState
