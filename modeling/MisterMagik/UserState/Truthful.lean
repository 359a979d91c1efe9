/-
  File:      MisterMagik/UserState/Truthful.lean
  Subject:   Snapshots against the store, and favourites against what is in flight, over every
             interleaving of launcher, worker and other connections.

  The worker's cache is patched one system at a time. It stays what the store holds through every
  failure but one: a refresh whose import changed the favourites and which then fails leaves the
  old snapshot, and the next favourite patches that. And the list over all systems is put together
  in the order of a map, which is that of the store only as long as the newest favourites of one
  system do not stand between those of another.

  * `Worker.KeepsCache`, `Worker.KeepsOrder` -- the requests that go well;
  * `Worker.process_kept`, `Worker.process_ordered` -- one request, whatever fails in it;
  * `snapshots_truthful` -- in every run of such requests; `snapshots_by_system` -- all but the
    order over all systems, in every run that keeps the cache;
  * `stale_snapshot`, `regrouped_snapshot` -- runs of other requests.
-/
import MisterMagik.UserState.InFlight
import MisterMagik.UserState.Snapshots

namespace MisterMagik.UserState

open MisterMagik.Base
open UserStateSnapshot (Coherent)

/-! ## 1. A store the worker has opened -/

namespace Database

/-- The writers' invariant, with the summaries in place. -/
structure Ready (db : Database) : Prop where
  sound : Sound db
  summaries : db.summaries.isSome

theorem Ready.recordPlay {db : Database} (h : Ready db) (game : UserGameIdentity)
    (playedAt : Int) : Ready (db.recordPlay game playedAt) :=
  ⟨h.sound.step (.recordPlay game playedAt), step_summaries h.summaries (.recordPlay game playedAt)⟩

theorem Ready.setFavourite {db : Database} (h : Ready db) (game : UserGameIdentity)
    (favourite : Bool) (changedAt : Int) : Ready (db.setFavourite game favourite changedAt) :=
  ⟨h.sound.step (.setFavourite game favourite changedAt),
    step_summaries h.summaries (.setFavourite game favourite changedAt)⟩

theorem Ready.markImported {db : Database} (h : Ready db) (source : String) (version : Nat) :
    Ready (db.markImported source version) := by
  refine ⟨⟨h.sound.ordered, fun s hs => ?_⟩, h.summaries⟩
  have hrec := h.sound.recomputed s hs
  exact ⟨hrec.played, hrec.latest, hrec.counts⟩

theorem Ready.importLegacySnes {db : Database} (h : Ready db) (games : List UserGameIdentity)
    (now : Int) (run : ImportRun) : Ready (importLegacySnes db games now run).1 :=
  importLegacySnes_invariant (fun _ game playedAt h => h.recordPlay game playedAt)
    (fun _ game at_ h => h.setFavourite game true at_)
    (fun _ source version h => h.markImported source version) h games now run

theorem Ready.ensureSummaries {db : Database} (h : Sound db) : Ready db.ensureSummaries :=
  ⟨h.step .ensureSummaries, ensureSummaries_isSome db⟩

theorem Ready.store {call : Call} {db db' : Database} (h : Ready db) (h' : Ready db') :
    Ready (call.store db db') := by
  rcases call.store_cases db db' with heq | heq
  · rw [heq]
    exact h
  · rw [heq]
    exact h'

end Database

/-! ## 2. One request -/

namespace Worker

variable {w : Worker} {db : Database}

/-- The cache says of favourites what the store holds. -/
def CacheCoherent (w : Worker) (db : Database) : Prop :=
  ∀ snapshot, w.cached = some snapshot → Coherent snapshot db.favouriteRows

/-- Each system has the same favourites, in the same order. -/
def SameRows (rows rows' : List (String × String)) : Prop :=
  ∀ system, Table.group rows system = Table.group rows' system

theorem coherent_congr {snapshot : UserStateSnapshot} {rows rows' : List (String × String)}
    (h : SameRows rows' rows) (hsnapshot : Coherent snapshot rows) : Coherent snapshot rows' where
  lists := fun system => (hsnapshot.lists system).trans (h system).symm
  counts := fun system => (hsnapshot.counts system).trans (congrArg List.length (h system).symm)
  refs := hsnapshot.refs.trans (Table.perm_of_groups h).symm

/-- The condition on a refresh: with a snapshot in the cache, an import that changes the favourites
    is followed by no failure, of its own later calls or of the read. -/
def KeepsCache (w : Worker) (db : Database) (legacyCatalog : Option (List UserGameIdentity))
    (now : Int) (conduct : Conduct) : Prop :=
  let imported := (w.takeCatalog legacyCatalog).runImport db now conduct
  w.cached = none ∨ SameRows imported.2.1.favouriteRows db.favouriteRows ∨
    (imported.2.2.isOk = true ∧ conduct.read.isOk = true)

theorem takeCatalog_cached (w : Worker) (legacyCatalog : Option (List UserGameIdentity)) :
    (w.takeCatalog legacyCatalog).cached = w.cached := by
  cases legacyCatalog <;> rfl

theorem runImport_cached (w : Worker) (db : Database) (now : Int) (conduct : Conduct) :
    (w.runImport db now conduct).1.cached = w.cached := by
  unfold runImport
  split
  · rfl
  · split
    · rfl
    · split <;> rfl

theorem runImport_ready (h : db.Ready) (w : Worker) (now : Int) (conduct : Conduct) :
    (w.runImport db now conduct).2.1.Ready := by
  unfold runImport
  split
  · exact h
  · split
    · exact h
    · rename_i games _
      have hready := h.importLegacySnes (games.filter fun game => isSnes game.systemId) now
        conduct.legacy
      split
      · rename_i heq
        rw [heq] at hready
        exact hready
      · rename_i heq
        rw [heq] at hready
        exact hready

theorem readCall_ok {read : Except String Unit} {snapshot : Option UserStateSnapshot}
    {result : UserStateSnapshot} (h : readCall read snapshot = .ok result) :
    snapshot = some result ∧ read.isOk = true := by
  unfold readCall at h
  split at h
  · cases h
  · cases h
  · cases h
    exact ⟨rfl, rfl⟩

theorem readCall_error {read : Except String Unit} {snapshot : UserStateSnapshot} {error : String}
    (h : readCall read (some snapshot) = .error error) : read.isOk = false := by
  unfold readCall at h
  split at h
  · rfl
  · cases ‹some snapshot = none›
  · cases h

/-- What holds after a request when the cache was coherent before it. -/
structure Kept (w' : Worker) (db' : Database) (result : Except String UserStateSnapshot) :
    Prop where
  ready : db'.Ready
  cache : w'.CacheCoherent db'
  result : ∀ snapshot, result = .ok snapshot → Coherent snapshot db'.favouriteRows

theorem refresh_kept (hready : db.Ready) (hcache : w.CacheCoherent db)
    (legacyCatalog : Option (List UserGameIdentity)) (members : List String) (now : Int)
    (conduct : Conduct) (hkeeps : w.KeepsCache db legacyCatalog now conduct) :
    Kept (w.refresh db legacyCatalog members now conduct).1
      (w.refresh db legacyCatalog members now conduct).2.1
      (w.refresh db legacyCatalog members now conduct).2.2 := by
  have hready' := runImport_ready hready (w.takeCatalog legacyCatalog) now conduct
  have hcached := (runImport_cached (w.takeCatalog legacyCatalog) db now conduct).trans
    (takeCatalog_cached w legacyCatalog)
  unfold KeepsCache at hkeeps
  unfold refresh
  generalize hrun : (w.takeCatalog legacyCatalog).runImport db now conduct = run at *
  obtain ⟨w', db', result⟩ := run
  -- a failure after the import leaves the old snapshot, which the condition makes good enough
  have hold : (result.isOk = true ∧ conduct.read.isOk = true → False) → w'.CacheCoherent db' := by
    intro hfail snapshot hsnapshot
    have hsome : w.cached = some snapshot := hcached.symm.trans hsnapshot
    rcases hkeeps with hnone | hrows | hok
    · cases hsome.symm.trans hnone
    · exact coherent_congr hrows (hcache snapshot hsome)
    · exact (hfail hok).elim
  cases result with
  | error error =>
      refine ⟨hready', hold fun hok => ?_, fun snapshot h => ?_⟩
      · cases hok.1
      · cases h
  | ok _ =>
      obtain ⟨s, hs⟩ := Option.isSome_iff_exists.1 hready'.summaries
      obtain ⟨snapshot, hread, hcoherent⟩ :=
        Database.readSnapshot_coherent hready'.sound hs members
      simp only [hread]
      cases hcall : readCall conduct.read (some snapshot) with
      | error error =>
          refine ⟨hready', fun snapshot' h => ?_, fun snapshot h => ?_⟩
          · refine hold (fun hok => ?_) snapshot' h
            rw [readCall_error hcall] at hok
            cases hok.2
          · cases h
      | ok snapshot' =>
          obtain ⟨heq, -⟩ := readCall_ok hcall
          cases heq
          refine ⟨hready', fun snapshot' h => ?_, fun snapshot' h => ?_⟩
          · cases h
            exact hcoherent
          · cases h
            exact hcoherent

/-- **The condition is exact:** a refresh without it leaves a cache that the store contradicts. -/
theorem refresh_coherent_iff (hready : db.Ready) (hcache : w.CacheCoherent db)
    (legacyCatalog : Option (List UserGameIdentity)) (members : List String) (now : Int)
    (conduct : Conduct) : (w.refresh db legacyCatalog members now conduct).1.CacheCoherent
        (w.refresh db legacyCatalog members now conduct).2.1 ↔
      w.KeepsCache db legacyCatalog now conduct := by
  refine ⟨fun hafter => ?_, fun hkeeps =>
    (refresh_kept hready hcache legacyCatalog members now conduct hkeeps).cache⟩
  have hready' := runImport_ready hready (w.takeCatalog legacyCatalog) now conduct
  have hcached := (runImport_cached (w.takeCatalog legacyCatalog) db now conduct).trans
    (takeCatalog_cached w legacyCatalog)
  unfold refresh at hafter
  unfold KeepsCache
  generalize (w.takeCatalog legacyCatalog).runImport db now conduct = run at *
  obtain ⟨w', db', result⟩ := run
  have hsame : w'.CacheCoherent db' →
      w.cached = none ∨ SameRows db'.favouriteRows db.favouriteRows := by
    intro hcoherent
    cases hsome : w.cached with
    | none => exact Or.inl rfl
    | some snapshot =>
        have hnew := hcoherent snapshot (hcached.trans hsome)
        have hold := hcache snapshot hsome
        exact Or.inr fun system => (hnew.lists system).symm.trans (hold.lists system)
  cases result with
  | error error => exact (hsame hafter).imp_right Or.inl
  | ok _ =>
      obtain ⟨s, hs⟩ := Option.isSome_iff_exists.1 hready'.summaries
      obtain ⟨snapshot, hread, -⟩ := Database.readSnapshot_coherent hready'.sound hs members
      simp only [hread] at hafter
      cases hcall : readCall conduct.read (some snapshot) with
      | error error =>
          rw [hcall] at hafter
          exact (hsame hafter).imp_right Or.inl
      | ok snapshot' =>
          exact Or.inr (Or.inr ⟨rfl, (readCall_ok hcall).2⟩)

theorem setFavourite_store (w : Worker) (db : Database) (game : UserGameIdentity)
    (favourite : Bool) (now : Int) (conduct : Conduct) :
    (w.setFavourite db game favourite now conduct).2.1 =
      conduct.write.store db (db.setFavourite game favourite now) := by
  unfold setFavourite
  dsimp only
  split
  · rfl
  · split <;> rfl

/-- A favourite is answered with a snapshot if it was written and read; then that is what stays. -/
theorem setFavourite_ok {game : UserGameIdentity} {favourite : Bool} {now : Int}
    {conduct : Conduct} {snapshot : UserStateSnapshot}
    (h : (w.setFavourite db game favourite now conduct).2.2 = .ok snapshot) :
    conduct.write = .ok ∧ conduct.read.isOk = true ∧
      w.changedSnapshot (db.setFavourite game favourite now) conduct.order game.systemId =
        some snapshot ∧
      (w.setFavourite db game favourite now conduct).1.cached = some snapshot := by
  unfold setFavourite at h ⊢
  cases hwrite : conduct.write with
  | failed durable error =>
      rw [hwrite] at h
      cases h
  | ok =>
      rw [hwrite] at h
      dsimp only [Call.store, Call.result] at h ⊢
      cases hcall : readCall conduct.read (w.changedSnapshot (db.setFavourite game favourite now)
          conduct.order game.systemId) with
      | error error =>
          rw [hcall] at h
          cases h
      | ok snapshot' =>
          rw [hcall] at h
          cases h
          obtain ⟨hchanged, hread⟩ := readCall_ok hcall
          exact ⟨rfl, hread, hchanged, rfl⟩

/-- A whole read lists the favourites in the order of the store. -/
theorem readSnapshot_refs {arcadeSystems : List String} {snapshot : UserStateSnapshot}
    (hready : db.Ready) (h : db.readSnapshot arcadeSystems = some snapshot) :
    snapshot.favouriteLaunchRefs = db.favouriteRows.map Prod.snd := by
  obtain ⟨s, hs⟩ := Option.isSome_iff_exists.1 hready.summaries
  obtain ⟨snapshot', hread, -, -, hrefs⟩ := Database.readSnapshot_fields hs arcadeSystems
  obtain rfl := Option.some.inj (h.symm.trans hread)
  exact hrefs

/-- The snapshot of a change of a favourite, read whole or projected into the cached one. Only
    the projection can put the list over all systems into another order. -/
theorem changedSnapshot_ok (hready : db.Ready) (hcache : w.CacheCoherent db)
    {game : UserGameIdentity} {favourite : Bool} {now : Int} {order : MapOrder}
    {snapshot : UserStateSnapshot}
    (h : w.changedSnapshot (db.setFavourite game favourite now) order game.systemId =
      some snapshot) :
    Coherent snapshot (db.setFavourite game favourite now).favouriteRows ∧
      ((∀ cached, w.cached = some cached → cached.OrderedAfter order game.systemId
          (db.setFavourite game favourite now).favouriteRows) →
        snapshot.favouriteLaunchRefs =
          (db.setFavourite game favourite now).favouriteRows.map Prod.snd) := by
  have hwritten := hready.setFavourite game favourite now
  obtain ⟨s, hs⟩ := Option.isSome_iff_exists.1 hwritten.summaries
  unfold changedSnapshot at h
  cases hcached : w.cached with
  | none =>
      rw [hcached] at h
      obtain ⟨snapshot', hread, hcoherent⟩ :=
        Database.readSnapshot_coherent hwritten.sound hs w.arcadeSystems
      obtain rfl := Option.some.inj (h.symm.trans hread)
      exact ⟨hcoherent, fun _ => readSnapshot_refs hwritten hread⟩
  | some cached =>
      rw [hcached] at h
      obtain ⟨snapshot', hprojected, hcoherent, hordered, -⟩ :=
        Database.refreshFavourites_coherent hwritten.sound hs order (hcache cached hcached)
          fun system hne => Database.setFavourite_group db game favourite now hne
      obtain rfl := Option.some.inj (h.symm.trans hprojected)
      exact ⟨hcoherent, fun horder => hordered (horder cached rfl)⟩

/-- A change of a favourite: whatever fails, what is shown and what stays is of the store. -/
theorem setFavourite_kept (hready : db.Ready) (hcache : w.CacheCoherent db)
    (game : UserGameIdentity) (favourite : Bool) (now : Int) (conduct : Conduct) :
    (w.setFavourite db game favourite now conduct).2.1.Ready ∧
      ∀ snapshot, (w.setFavourite db game favourite now conduct).2.2 = .ok snapshot →
        Kept (w.setFavourite db game favourite now conduct).1
          (w.setFavourite db game favourite now conduct).2.1 (.ok snapshot) := by
  have hwritten := hready.setFavourite game favourite now
  rw [setFavourite_store]
  refine ⟨hready.store hwritten, fun snapshot h => ?_⟩
  obtain ⟨hwrite, -, hchanged, hcached⟩ := setFavourite_ok h
  have hcoherent := (changedSnapshot_ok hready hcache hchanged).1
  rw [hwrite]
  refine ⟨hwritten, fun snapshot' hsnapshot => ?_, fun snapshot' hsnapshot => ?_⟩
  · obtain rfl := Option.some.inj (hcached.symm.trans hsnapshot)
    exact hcoherent
  · cases hsnapshot
    exact hcoherent

/-- The condition on any request: only a refresh can leave an old snapshot behind. -/
def Keeps (w : Worker) (db : Database) (request : UserStateRequest) (conduct : Conduct) : Prop :=
  match request with
  | .refresh legacyCatalog _ now => w.KeepsCache db legacyCatalog now conduct
  | .setFavourite _ _ _ => True

/-- **One request keeps the store, the cache and the truth of its snapshot.** -/
theorem process_kept (hready : db.Ready) (hcache : w.CacheCoherent db)
    (request : UserStateRequest) (conduct : Conduct) (hkeeps : w.Keeps db request conduct) :
    (w.process db request conduct).2.1.Ready ∧
      (w.process db request conduct).1.CacheCoherent (w.process db request conduct).2.1 ∧
      ∀ snapshot completed, (w.process db request conduct).2.2 = .snapshot snapshot completed →
        Coherent snapshot (w.process db request conduct).2.1.favouriteRows := by
  cases request with
  | refresh legacyCatalog members now =>
      have hkept := refresh_kept hready hcache legacyCatalog members now conduct hkeeps
      unfold process
      dsimp only
      generalize w.refresh db legacyCatalog members now conduct = run at *
      obtain ⟨w', db', result⟩ := run
      cases result with
      | ok snapshot =>
          refine ⟨hkept.ready, hkept.cache, fun snapshot' completed h => ?_⟩
          cases h
          exact hkept.result snapshot rfl
      | error error =>
          refine ⟨hkept.ready, hkept.cache, fun snapshot' completed h => ?_⟩
          cases h
  | setFavourite game favourite now =>
      obtain ⟨hready', hkept⟩ := setFavourite_kept hready hcache game favourite now conduct
      unfold process
      dsimp only
      generalize w.setFavourite db game favourite now conduct = run at *
      obtain ⟨w', db', result⟩ := run
      cases result with
      | ok snapshot =>
          have hkept := hkept snapshot rfl
          refine ⟨hready', hkept.cache, fun snapshot' completed h => ?_⟩
          cases h
          exact hkept.result snapshot rfl
      | error error =>
          refine ⟨hready', fun snapshot' h => ?_, fun snapshot' completed h => ?_⟩
          · cases h
          · cases h

/-- The condition on a favourite whose write and read succeed: with a snapshot in the cache, the
    favourites of the store, the newest first, stand system by system in the order of its map. -/
def KeepsOrder (w : Worker) (db : Database) (request : UserStateRequest) (conduct : Conduct) :
    Prop :=
  match request with
  | .refresh _ _ _ => True
  | .setFavourite game favourite now => ∀ cached, w.cached = some cached → conduct.write = .ok →
      conduct.read.isOk = true → cached.OrderedAfter conduct.order game.systemId
        (db.setFavourite game favourite now).favouriteRows

theorem refresh_ordered (hready : db.Ready) (legacyCatalog : Option (List UserGameIdentity))
    (members : List String) (now : Int) (conduct : Conduct) (snapshot : UserStateSnapshot)
    (h : (w.refresh db legacyCatalog members now conduct).2.2 = .ok snapshot) :
    snapshot.favouriteLaunchRefs =
      (w.refresh db legacyCatalog members now conduct).2.1.favouriteRows.map Prod.snd := by
  have hready' := runImport_ready hready (w.takeCatalog legacyCatalog) now conduct
  unfold refresh at h ⊢
  generalize (w.takeCatalog legacyCatalog).runImport db now conduct = run at *
  obtain ⟨w', db', result⟩ := run
  cases result with
  | error error => cases h
  | ok _ =>
      dsimp only at h ⊢
      cases hcall : readCall conduct.read (db'.readSnapshot members) with
      | error error =>
          rw [hcall] at h
          cases h
      | ok snapshot' =>
          rw [hcall] at h
          cases h
          exact readSnapshot_refs hready' (readCall_ok hcall).1

theorem setFavourite_ordered (hready : db.Ready) (hcache : w.CacheCoherent db)
    (game : UserGameIdentity) (favourite : Bool) (now : Int) (conduct : Conduct)
    (horder : w.KeepsOrder db (.setFavourite game favourite now) conduct)
    (snapshot : UserStateSnapshot)
    (h : (w.setFavourite db game favourite now conduct).2.2 = .ok snapshot) :
    snapshot.favouriteLaunchRefs =
      (w.setFavourite db game favourite now conduct).2.1.favouriteRows.map Prod.snd := by
  obtain ⟨hwrite, hread, hchanged, -⟩ := setFavourite_ok h
  rw [setFavourite_store, hwrite]
  exact (changedSnapshot_ok hready hcache hchanged).2 fun cached hcached =>
    horder cached hcached hwrite hread

/-- **The condition is exact** where no reference is a favourite of two systems. -/
theorem setFavourite_order_iff (hready : db.Ready) (hcache : w.CacheCoherent db)
    {cached : UserStateSnapshot} (hcached : w.cached = some cached) (game : UserGameIdentity)
    (favourite : Bool) (now : Int) {conduct : Conduct} (hwrite : conduct.write = .ok)
    (hread : conduct.read = .ok ())
    (hrefs : ∀ a ∈ (db.setFavourite game favourite now).favouriteRows,
      ∀ b ∈ (db.setFavourite game favourite now).favouriteRows, a.2 = b.2 → a.1 = b.1) :
    ∃ snapshot, (w.setFavourite db game favourite now conduct).2.2 = .ok snapshot ∧
      (snapshot.favouriteLaunchRefs =
          (w.setFavourite db game favourite now conduct).2.1.favouriteRows.map Prod.snd ↔
        w.KeepsOrder db (.setFavourite game favourite now) conduct) := by
  have hwritten := hready.setFavourite game favourite now
  obtain ⟨s, hs⟩ := Option.isSome_iff_exists.1 hwritten.summaries
  obtain ⟨snapshot, hprojected, -, hordered, hexact⟩ :=
    Database.refreshFavourites_coherent hwritten.sound hs conduct.order (hcache cached hcached)
      fun system hne => Database.setFavourite_group db game favourite now hne
  unfold setFavourite changedSnapshot
  rw [hcached, hwrite, hread]
  dsimp only [Call.store, Call.result]
  rw [hprojected]
  refine ⟨snapshot, rfl, fun heq cached' hcached' _ _ => ?_, fun horder => ?_⟩
  · obtain rfl := Option.some.inj (hcached.symm.trans hcached')
    exact hexact hrefs heq
  · exact hordered (horder cached hcached hwrite (by rw [hread]; rfl))

/-- **One request that keeps the order answers with the favourites in the order of the store.** -/
theorem process_ordered (hready : db.Ready) (hcache : w.CacheCoherent db)
    (request : UserStateRequest) (conduct : Conduct) (horder : w.KeepsOrder db request conduct)
    (snapshot : UserStateSnapshot) (completed : Option String)
    (h : (w.process db request conduct).2.2 = .snapshot snapshot completed) :
    snapshot.favouriteLaunchRefs =
      (w.process db request conduct).2.1.favouriteRows.map Prod.snd := by
  cases request with
  | refresh legacyCatalog members now =>
      have hordered := refresh_ordered (w := w) hready legacyCatalog members now conduct
      unfold process at h ⊢
      dsimp only at h ⊢
      generalize w.refresh db legacyCatalog members now conduct = run at *
      obtain ⟨w', db', result⟩ := run
      cases result with
      | ok snapshot' =>
          cases h
          exact hordered snapshot rfl
      | error error => cases h
  | setFavourite game favourite now =>
      have hordered := setFavourite_ordered hready hcache game favourite now conduct horder
      unfold process at h ⊢
      dsimp only at h ⊢
      generalize w.setFavourite db game favourite now conduct = run at *
      obtain ⟨w', db', result⟩ := run
      cases result with
      | ok snapshot' =>
          cases h
          exact hordered snapshot rfl
      | error error => cases h

end Worker

/-! ## 3. Every interleaving -/

/-- Two snapshots say the same of each system's favourites, and over all systems have the same
    references. -/
structure SameBySystem (a b : UserStateSnapshot) : Prop where
  lists : ∀ system, a.favouritesIn system = b.favouritesIn system
  counts : ∀ system, a.favouriteCountIn system = b.favouriteCountIn system
  refs : a.favouriteLaunchRefs.Perm b.favouriteLaunchRefs

/-- Two snapshots say the same of favourites: each system has its list and its count, and over all
    systems there is one list. -/
structure SameFavourites (a b : UserStateSnapshot) : Prop where
  lists : ∀ system, a.favouritesIn system = b.favouritesIn system
  counts : ∀ system, a.favouriteCountIn system = b.favouriteCountIn system
  refs : a.favouriteLaunchRefs = b.favouriteLaunchRefs

theorem UserStateSnapshot.Coherent.same {a b : UserStateSnapshot} {rows : List (String × String)}
    (ha : Coherent a rows) (hb : Coherent b rows) : SameBySystem a b where
  lists := fun system => (ha.lists system).trans (hb.lists system).symm
  counts := fun system => (ha.counts system).trans (hb.counts system).symm
  refs := ha.refs.trans hb.refs.symm

def WorkerPhase.failed : WorkerPhase → Bool
  | .opening | .serving _ => false
  | .closing | .exited => true

namespace SessionSystem

/-- What the session promises of a state. -/
structure Truthful (s : SessionSystem) : Prop where
  /-- A snapshot is a fresh read of the store at the moment it was made. -/
  snapshots : ∀ answer ∈ s.answers, ∀ snapshot completed,
    answer.event = .snapshot snapshot completed → ∀ arcadeSystems,
      ∃ fresh, answer.store.readSnapshot arcadeSystems = some fresh ∧
        SameFavourites snapshot fresh
  /-- Requests are answered one by one in their order, and received so. -/
  inOrder : s.worker.failed = false →
    s.accepted = s.answers.map Answer.request ++ s.link.requests ∧
      s.answers.map Answer.event = s.received ++ s.link.events
  kinds : ∀ answer ∈ s.answers, answer.event.Answers answer.request
  /-- What waits is answered by the next turns of the worker. -/
  drains : ∀ w, s.worker = .serving w → ∀ conducts : List Conduct,
    conducts.length = s.link.requests.length →
      ((conducts.map SessionAction.work).foldl next s).answers.map Answer.request = s.accepted
  /-- A store that did not open: the next event ends the session. -/
  failed : s.worker.failed = true → s.answers = [] ∧ (s.session.available = true →
    s.received = [] ∧ ∃ error, s.link.events = [.unavailable error])
  /-- Pending is what is in flight, each launch ref once. -/
  pending : s.session.available = true →
    (∀ launchRef, launchRef ∈ s.session.pendingFavourites ↔ launchRef ∈ s.inFlight) ∧
      s.inFlight.Nodup
  ended : s.session.available = false → ∀ as s', sessionSystem.Run s as s' →
    s'.session.available = false ∧ s'.session.pendingFavourites = ∅

/-- The condition on a step: a refresh that fails after its import changed the favourites finds no
    snapshot in the cache. -/
def KeepsCache (s : SessionSystem) (a : SessionAction) : Prop :=
  match a, s.worker, s.link.requests with
  | .work conduct, .serving w, request :: _ => w.Keeps s.db request conduct
  | _, _, _ => True

/-- The condition on a step: a favourite that is patched into a snapshot finds the favourites in the
    order of its map. -/
def KeepsOrder (s : SessionSystem) (a : SessionAction) : Prop :=
  match a, s.worker, s.link.requests with
  | .work conduct, .serving w, request :: _ => w.KeepsOrder s.db request conduct
  | _, _, _ => True

/-- The invariant behind `snapshots`. -/
structure Sure (s : SessionSystem) : Prop where
  sound : s.db.Sound
  serving : ∀ w, s.worker = .serving w → s.db.Ready ∧ w.CacheCoherent s.db
  answers : ∀ answer ∈ s.answers, ∀ snapshot completed,
    answer.event = .snapshot snapshot completed →
      answer.store.Ready ∧ Coherent snapshot answer.store.favouriteRows

variable {s : SessionSystem}

theorem Sure.start {db : Database} (h : db.Sound) : (start db).Sure where
  sound := h
  serving := by
    intro w hw
    cases hw
  answers := by
    intro answer hmem
    cases hmem

theorem Sure.opened (h : s.Sure) (result : Except String Unit) : (s.opened result).Sure := by
  cases result with
  | ok _ =>
      refine ⟨h.sound.step .ensureSummaries, fun w hw => ?_, h.answers⟩
      cases hw
      refine ⟨Database.Ready.ensureSummaries h.sound, fun snapshot hsome => ?_⟩
      cases hsome
  | error error =>
      refine ⟨h.sound, fun w hw => ?_, h.answers⟩
      cases hw

theorem Sure.worked (h : s.Sure) {w : Worker} (hworker : s.worker = .serving w)
    (request : UserStateRequest) (requests : List UserStateRequest) (conduct : Conduct)
    (hkeeps : w.Keeps s.db request conduct) : (s.worked w request requests conduct).Sure := by
  obtain ⟨hready, hcache⟩ := h.serving w hworker
  have hkept := Worker.process_kept hready hcache request conduct hkeeps
  unfold SessionSystem.worked
  generalize w.process s.db request conduct = run at *
  obtain ⟨w', db', event⟩ := run
  obtain ⟨hready', hcache', hsnapshot⟩ := hkept
  refine ⟨hready'.sound, fun w'' hw => ?_, fun answer hmem snapshot completed hevent => ?_⟩
  · cases hw
    exact ⟨hready', hcache'⟩
  · rcases List.mem_append.1 hmem with hmem | hmem
    · exact h.answers answer hmem snapshot completed hevent
    · obtain rfl := List.mem_singleton.1 hmem
      exact ⟨hready', hsnapshot snapshot completed hevent⟩

/-- **Every step that keeps the cache keeps the snapshots true.** -/
theorem Sure.next (h : s.Sure) (a : SessionAction) (hkeeps : s.KeepsCache a) : (s.next a).Sure := by
  cases a with
  | refresh catalog now => exact ⟨h.sound, h.serving, h.answers⟩
  | setFavourite game favourite now => exact ⟨h.sound, h.serving, h.answers⟩
  | poll => exact ⟨h.sound, h.serving, h.answers⟩
  | openStore result =>
      rcases next_openStore s result with ⟨-, heq⟩ | heq
      · rw [heq]
        exact h.opened result
      · rw [heq]
        exact h
  | work conduct =>
      rcases next_work s conduct with ⟨w, request, requests, hworker, hrequests, heq⟩ | heq
      · have hk : w.Keeps s.db request conduct := by
          unfold KeepsCache at hkeeps
          rw [hworker, hrequests] at hkeeps
          exact hkeeps
        rw [heq]
        exact h.worked hworker request requests conduct hk
      · rw [heq]
        exact h
  | exit =>
      rcases next_exit s with ⟨-, heq⟩ | heq
      · rw [heq]
        refine ⟨h.sound, fun w hw => ?_, h.answers⟩
        cases hw
      · rw [heq]
        exact h
  | recordPlay game playedAt =>
      refine ⟨h.sound.step (.recordPlay game playedAt), fun w hw => ?_, h.answers⟩
      obtain ⟨hready, hcache⟩ := h.serving w hw
      exact ⟨hready.recordPlay game playedAt, hcache⟩

/-- The snapshots list the favourites in the order of the store. -/
def InStoreOrder (s : SessionSystem) : Prop :=
  ∀ answer ∈ s.answers, ∀ snapshot completed, answer.event = .snapshot snapshot completed →
    snapshot.favouriteLaunchRefs = answer.store.favouriteRows.map Prod.snd

theorem InStoreOrder.worked (h : s.InStoreOrder) (hsure : s.Sure) {w : Worker}
    (hworker : s.worker = .serving w) (request : UserStateRequest)
    (requests : List UserStateRequest) (conduct : Conduct)
    (horder : w.KeepsOrder s.db request conduct) :
    (s.worked w request requests conduct).InStoreOrder := by
  obtain ⟨hready, hcache⟩ := hsure.serving w hworker
  have hordered := fun snapshot completed =>
    Worker.process_ordered hready hcache request conduct horder snapshot completed
  unfold SessionSystem.worked
  generalize w.process s.db request conduct = run at *
  obtain ⟨w', db', event⟩ := run
  intro answer hmem snapshot completed hevent
  rcases List.mem_append.1 hmem with hmem | hmem
  · exact h answer hmem snapshot completed hevent
  · obtain rfl := List.mem_singleton.1 hmem
    exact hordered snapshot completed hevent

/-- **Every step that keeps the order answers in the order of the store.** -/
theorem InStoreOrder.next (h : s.InStoreOrder) (hsure : s.Sure) (a : SessionAction)
    (horder : s.KeepsOrder a) : (s.next a).InStoreOrder := by
  cases a with
  | refresh catalog now => exact h
  | setFavourite game favourite now => exact h
  | poll => exact h
  | recordPlay game playedAt => exact h
  | openStore result =>
      rcases next_openStore s result with ⟨-, heq⟩ | heq
      · rw [heq]
        cases result with
        | ok _ => exact h
        | error error => exact h
      · rw [heq]
        exact h
  | work conduct =>
      rcases next_work s conduct with ⟨w, request, requests, hworker, hrequests, heq⟩ | heq
      · unfold KeepsOrder at horder
        rw [hworker, hrequests] at horder
        rw [heq]
        exact h.worked hsure hworker request requests conduct horder
      · rw [heq]
        exact h
  | exit =>
      rcases next_exit s with ⟨-, heq⟩ | heq
      · rw [heq]
        exact h
      · rw [heq]
        exact h

/-- What a snapshot says, against a fresh read of the store at the moment it was made. -/
theorem Sure.fresh (h : s.Sure) {answer : Answer} (hmem : answer ∈ s.answers)
    {snapshot : UserStateSnapshot} {completed : Option String}
    (hevent : answer.event = .snapshot snapshot completed) (arcadeSystems : List String) :
    ∃ fresh, answer.store.readSnapshot arcadeSystems = some fresh ∧ SameBySystem snapshot fresh ∧
      fresh.favouriteLaunchRefs = answer.store.favouriteRows.map Prod.snd := by
  obtain ⟨hready, hcoherent⟩ := h.answers answer hmem snapshot completed hevent
  obtain ⟨sums, hs⟩ := Option.isSome_iff_exists.1 hready.summaries
  obtain ⟨fresh, hread, hfresh⟩ := Database.readSnapshot_coherent hready.sound hs arcadeSystems
  exact ⟨fresh, hread, hcoherent.same hfresh, Worker.readSnapshot_refs hready hread⟩

theorem Orderly.truthful (h : s.Orderly) (hsure : s.Sure) (horder : s.InStoreOrder) :
    s.Truthful where
  snapshots := by
    intro answer hmem snapshot completed hevent arcadeSystems
    obtain ⟨fresh, hread, hsame, hrefs⟩ := hsure.fresh hmem hevent arcadeSystems
    have hlist := (horder answer hmem snapshot completed hevent).trans hrefs.symm
    exact ⟨fresh, hread, hsame.lists, hsame.counts, hlist⟩
  inOrder := by
    intro hfailed
    have hlinked := h.linked
    unfold Linked at hlinked
    cases hworker : s.worker with
    | opening =>
        rw [hworker] at hlinked
        exact ⟨hlinked.1.accepted, hlinked.1.received⟩
    | serving w =>
        rw [hworker] at hlinked
        have ho : s.Open := hlinked
        exact ⟨ho.accepted, ho.received⟩
    | closing => rw [hworker] at hfailed; cases hfailed
    | exited => rw [hworker] at hfailed; cases hfailed
  kinds := h.kinds
  drains := fun w hworker conducts hlength => serving_drains s h hworker conducts hlength
  failed := by
    intro hfailed
    have hlinked := h.linked
    unfold Linked at hlinked
    cases hworker : s.worker with
    | opening => rw [hworker] at hfailed; cases hfailed
    | serving w => rw [hworker] at hfailed; cases hfailed
    | closing =>
        rw [hworker] at hlinked
        have hc : s.Closed := hlinked
        exact ⟨hc.answers, hc.waiting⟩
    | exited =>
        rw [hworker] at hlinked
        have hc : s.Closed := hlinked
        exact ⟨hc.answers, hc.waiting⟩
  pending := h.pending
  ended := fun hno as s' hrun => unavailable_stays h hno hrun

theorem Sure.run {s₀ : SessionSystem} {as : List SessionAction} (hinit : sessionSystem.init s₀)
    (hrun : (sessionSystem.guard KeepsCache).Run s₀ as s) : s.Sure := by
  obtain ⟨db, hsound, rfl⟩ := hinit
  refine hrun.invariant (P := Sure) (fun s a t hs hstep => ?_) (Sure.start hsound)
  obtain ⟨hkeeps, hnext⟩ := hstep
  rw [show t = s.next a from hnext]
  exact hs.next a hkeeps

/-- **Over every interleaving whose refreshes keep the cache, a snapshot differs from a fresh read
    in the order over all systems at most.** -/
theorem snapshots_by_system {s₀ : SessionSystem} {as : List SessionAction}
    (hinit : sessionSystem.init s₀) (hrun : (sessionSystem.guard KeepsCache).Run s₀ as s)
    {answer : Answer} (hmem : answer ∈ s.answers) {snapshot : UserStateSnapshot}
    {completed : Option String} (hevent : answer.event = .snapshot snapshot completed)
    (arcadeSystems : List String) :
    ∃ fresh, answer.store.readSnapshot arcadeSystems = some fresh ∧
      SameBySystem snapshot fresh := by
  obtain ⟨fresh, hread, hsame, -⟩ := (Sure.run hinit hrun).fresh hmem hevent arcadeSystems
  exact ⟨fresh, hread, hsame⟩

/-- **Over every interleaving whose requests keep the cache and the order, snapshots are fresh
    reads, requests are answered in order, and pending is what is in flight.** -/
theorem snapshots_truthful {s₀ : SessionSystem} {as : List SessionAction}
    (hinit : sessionSystem.init s₀)
    (hrun : (sessionSystem.guard fun s a => s.KeepsCache a ∧ s.KeepsOrder a).Run s₀ as s) :
    s.Truthful := by
  obtain ⟨db, hsound, rfl⟩ := hinit
  have hall : s.Orderly ∧ s.Sure ∧ s.InStoreOrder := hrun.invariant
    (P := fun s : SessionSystem => s.Orderly ∧ s.Sure ∧ s.InStoreOrder)
    (fun s a t hs hstep => by
      obtain ⟨⟨hkeeps, horder⟩, hnext⟩ := hstep
      rw [show t = s.next a from hnext]
      exact ⟨hs.1.next a, hs.2.1.next a hkeeps, hs.2.2.next hs.2.1 a horder⟩)
    ⟨Orderly.start db, Sure.start hsound, fun answer hmem => by cases hmem⟩
  exact hall.1.truthful hall.2.1 hall.2.2

def otherGame : UserGameIdentity :=
  ⟨"nes", "one", "One", "/media/fat/games/NES/one.nes", "/media/fat/games/NES/one.nes"⟩

def gameBoyGame : UserGameIdentity :=
  ⟨"gb", "two", "Two", "/media/fat/games/GB/two.gb", "/media/fat/games/GB/two.gb"⟩

/-- Calls that all succeed, with nothing to import. -/
def allSucceed : Conduct := ⟨.ok, .ok (), ⟨.ok (), [], .ok⟩, .latestFirst⟩

/-- A favourite of one system, and a later one of another. -/
def twoFavourites : List SessionAction :=
  [.openStore (.ok ()), .refresh ⟨[otherGame], []⟩ 10, .work allSucceed, .poll,
   .setFavourite otherGame true 20, .work allSucceed, .poll,
   .setFavourite gameBoyGame true 30, .work allSucceed]

theorem snapshots_truthful_favourite :
    (twoFavourites.foldl next (start .createSchema)).Truthful := by
  have hpatched : ∀ {game : UserGameIdentity} {now : Int} {w : Worker} {db : Database},
      (∀ cached ∈ w.cached, cached.OrderedAfter .latestFirst game.systemId
        (db.setFavourite game true now).favouriteRows) →
      w.KeepsOrder db (.setFavourite game true now) allSucceed :=
    fun h cached hcached _ _ => h cached hcached
  exact snapshots_truthful ⟨_, Database.Sound.createSchema, rfl⟩ (Machine.run_ofNext
    ⟨⟨trivial, trivial⟩, ⟨trivial, trivial⟩, ⟨Or.inl rfl, trivial⟩, ⟨trivial, trivial⟩,
      ⟨trivial, trivial⟩, ⟨trivial, hpatched (by decide +kernel)⟩, ⟨trivial, trivial⟩,
      ⟨trivial, trivial⟩, ⟨trivial, hpatched (by decide +kernel)⟩, trivial⟩)

/-! ## 4. Snapshots that are not the store -/

def legacyGame : UserGameIdentity :=
  ⟨"snes", "legacy", "Legacy", "/media/fat/games/SNES/legacy.sfc",
    "/media/fat/games/SNES/legacy.sfc"⟩

/-- Calls that all succeed, beside a legacy list of favourites and a recents file whose last record
    is cut. -/
def truncatedRecents : Conduct where
  write := .ok
  read := .ok ()
  legacy :=
    { versionRead := .ok ()
      entries := [.favourite "/media/fat/games/SNES/legacy.sfc" none .ok,
        .unreadable "legacy recent file has a truncated record"]
      mark := .ok }
  order := .latestFirst

def legacyCatalog : ArcadeCatalog := ⟨[legacyGame], []⟩

/-- The import fails after it wrote the favourite; the launcher takes the favourite back, which
    fills the cache; the next refresh imports it again and fails again; then a favourite of another
    system is patched into the old snapshot. -/
def staleRun : List SessionAction :=
  [.openStore (.ok ()),
   .refresh legacyCatalog 10, .work truncatedRecents, .poll,
   .setFavourite legacyGame false 20, .work truncatedRecents, .poll,
   .refresh legacyCatalog 30, .work truncatedRecents, .poll,
   .setFavourite otherGame true 40, .work truncatedRecents]

/-- What the last snapshot and a fresh read list. -/
def lastShown (list : UserStateSnapshot → List String) (s : SessionSystem) :
    Option (List String × Option (List String)) :=
  s.answers.getLast?.bind fun answer =>
    match answer.event with
    | .snapshot snapshot _ => some (list snapshot, (answer.store.readSnapshot []).map list)
    | _ => none

theorem not_truthful_of_last {list : UserStateSnapshot → List String}
    (hlist : ∀ a b, SameFavourites a b → list a = list b) {shown read : List String}
    (h : lastShown list s = some (shown, some read)) (hne : shown ≠ read) : ¬s.Truthful := by
  intro htruthful
  unfold lastShown at h
  obtain ⟨answer, hanswer, hmatch⟩ := Option.bind_eq_some_iff.1 h
  cases hevent : answer.event with
  | snapshot snapshot completed =>
      obtain ⟨fresh, hread, hsame⟩ := htruthful.snapshots answer (List.mem_of_getLast? hanswer)
        snapshot completed hevent []
      rw [hevent, hread] at hmatch
      simp only [Option.some.injEq, Option.map_some, Prod.mk.injEq] at hmatch
      exact hne (hmatch.1.symm.trans ((hlist _ _ hsame).trans hmatch.2))
  | failed error completed => rw [hevent] at hmatch; cases hmatch
  | unavailable error => rw [hevent] at hmatch; cases hmatch

/-- **A snapshot misses a favourite that the store holds.** -/
theorem stale_snapshot : ∃ as s, sessionSystem.Run (start .createSchema) as s ∧ ¬s.Truthful := by
  have hlast : lastShown (·.favouritesIn "snes") (staleRun.foldl next (start .createSchema)) =
      some ([], some ["/media/fat/games/SNES/legacy.sfc"]) := by
    decide +kernel
  exact ⟨staleRun, _, Machine.run_foldl _ _,
    not_truthful_of_last (fun a b h => h.lists "snes") hlast (List.cons_ne_nil _ _).symm⟩

def thirdGame : UserGameIdentity :=
  ⟨"nes", "three", "Three", "/media/fat/games/NES/three.nes", "/media/fat/games/NES/three.nes"⟩

/-- A favourite of the first system again. -/
def regroupingRun : List SessionAction :=
  twoFavourites ++ [.poll, .setFavourite thirdGame true 40, .work allSucceed]

/-- **A favourite of one system between two of another:** every call succeeds, and the list over all
    systems is not in the order of the store. -/
theorem regrouped_snapshot : ∃ as s, sessionSystem.Run (start .createSchema) as s ∧
    ¬s.Truthful := by
  have hlast : lastShown (·.favouriteLaunchRefs)
      (regroupingRun.foldl next (start .createSchema)) =
      some ([thirdGame.launchRef, otherGame.launchRef, gameBoyGame.launchRef],
        some [thirdGame.launchRef, gameBoyGame.launchRef, otherGame.launchRef]) := by
    decide +kernel
  exact ⟨regroupingRun, _, Machine.run_foldl _ _,
    not_truthful_of_last (fun a b h => h.refs) hlast (by decide)⟩

end SessionSystem

end MisterMagik.UserState
