/-
  File:      MisterMagik/UserState/Projection.lean
  Subject:   The projection of one system after every change, against a whole read
             (crates/catalog/src/user_state.rs).

  * `Mirrors` -- what a snapshot says of a database, whatever the database holds;
  * `changeAndRefresh` -- `set_favourite`, then `refresh_favourites` of its system;
  * `SameState` -- two snapshots that differ in order and empty entries only.
-/
import MisterMagik.UserState.Snapshots

namespace MisterMagik.UserState

open MisterMagik.Base

/-! ## 1. What a snapshot says of a database -/

namespace UserStateSnapshot

/-- The counts of a system; without an entry both are zero. -/
def countsIn (snapshot : UserStateSnapshot) (system : String) : SystemUserCounts :=
  (snapshot.systemCounts.lookup system).getD ⟨0, 0⟩

/-- Two snapshots a reader by system cannot tell apart: equal recents, counts and favourites of each
system, and over all systems the same favourites. -/
structure SameState (a b : UserStateSnapshot) : Prop where
  lists : ∀ system, a.favouritesIn system = b.favouritesIn system
  counts : ∀ system, a.countsIn system = b.countsIn system
  refs : a.favouriteLaunchRefs.Perm b.favouriteLaunchRefs
  recents : a.recentLaunchRefs = b.recentLaunchRefs
  arcade : a.arcadeRecentRefs = b.arcadeRecentRefs
  recentLists : ∀ system, a.recentBySystem.lookup system = b.recentBySystem.lookup system

end UserStateSnapshot

namespace Database

/-- The counts either read gives a system. -/
def readCounts (s : Summaries) (system : String) : SystemUserCounts :=
  ((s.userSystemCounts.lookup system).map UserSystemCounts.read).getD ⟨0, 0⟩

/-- The recents of a system, for a system that has some by its count. -/
def recentsOf (s : Summaries) (system : String) : Option (List String) :=
  if (readCounts s system).recent ≠ 0 then some (recentRefs s fun other => other = system) else none

/-- What a snapshot says, against the rows it was read from. -/
structure Mirrors (arcadeSystems : List String) (snapshot : UserStateSnapshot) (db : Database)
    (s : Summaries) : Prop where
  lists : ∀ system, snapshot.favouritesIn system = Table.group db.favouriteRows system
  counts : ∀ system, snapshot.countsIn system = readCounts s system
  refs : snapshot.favouriteLaunchRefs.Perm (db.favouriteRows.map Prod.snd)
  recents : snapshot.recentLaunchRefs = recentRefs s fun _ => true
  arcade : snapshot.arcadeRecentRefs = recentRefs s fun system => arcadeSystems.contains system
  recentLists : ∀ system, snapshot.recentBySystem.lookup system = recentsOf s system

variable {arcadeSystems : List String} {db : Database} {s : Summaries}
  {a b snapshot : UserStateSnapshot}

theorem Mirrors.same (ha : Mirrors arcadeSystems a db s) (hb : Mirrors arcadeSystems b db s) :
    a.SameState b where
  lists := fun system => (ha.lists system).trans (hb.lists system).symm
  counts := fun system => (ha.counts system).trans (hb.counts system).symm
  refs := ha.refs.trans hb.refs.symm
  recents := ha.recents.trans hb.recents.symm
  arcade := ha.arcade.trans hb.arcade.symm
  recentLists := fun system => (ha.recentLists system).trans (hb.recentLists system).symm

theorem lookup_recentBySystem (system : String) :
    (Table.ofRows ((((Table.pairs s.userSystemCounts).map fun row => (row.1, row.2.read)).filter
      fun row => row.2.recent ≠ 0).map fun row =>
        (row.1, recentRefs s fun other => other = row.1))).lookup system = recentsOf s system := by
  have hnodup : (((((Table.pairs s.userSystemCounts).map fun row => (row.1, row.2.read)).filter
      fun row => row.2.recent ≠ 0).map fun row =>
        (row.1, recentRefs s fun other => other = row.1)).map Prod.fst).Nodup := by
    rw [List.map_map, List.filter_map, List.map_map]
    exact (Table.nodup_pairs s.userSystemCounts).sublist (List.filter_sublist.map Prod.fst)
  refine Option.ext fun references => ?_
  rw [Table.lookup_ofRows hnodup]
  unfold recentsOf readCounts
  constructor
  · intro h
    obtain ⟨row, hrow, heq⟩ := List.mem_map.1 h
    obtain ⟨hmem, hrecent⟩ := List.mem_filter.1 hrow
    obtain ⟨⟨system', counts⟩, hpair, rfl⟩ := List.mem_map.1 hmem
    cases heq
    rw [Table.mem_pairs.1 hpair]
    exact if_pos (of_decide_eq_true hrecent)
  · intro h
    split at h
    next hrecent =>
      cases hlook : s.userSystemCounts.lookup system with
      | none =>
          rw [hlook] at hrecent
          exact absurd rfl hrecent
      | some counts =>
          rw [hlook] at hrecent
          obtain rfl := Option.some.inj h
          exact List.mem_map.2 ⟨(system, counts.read), List.mem_filter.2
            ⟨List.mem_map.2 ⟨(system, counts), Table.mem_pairs.2 hlook, rfl⟩,
              decide_eq_true hrecent⟩, rfl⟩
    next => cases h

/-- **A whole read mirrors its database.** -/
theorem readSnapshot_mirrors (hs : db.summaries = some s)
    (h : db.readSnapshot arcadeSystems = some snapshot) : Mirrors arcadeSystems snapshot db s := by
  unfold readSnapshot at h
  rw [hs] at h
  obtain rfl := Option.some.inj h
  refine ⟨fun system => ?_, fun system => ?_, List.Perm.refl _, rfl, rfl, lookup_recentBySystem⟩
  · rw [UserStateSnapshot.favouritesIn, lookup_foldl_pushFavourite]
    exact List.nil_append _
  · rw [UserStateSnapshot.countsIn, Table.lookup_ofRows_map]
    rfl

theorem readSnapshot_isSome (hs : db.summaries = some s) (arcadeSystems : List String) :
    ∃ snapshot, db.readSnapshot arcadeSystems = some snapshot ∧
      Mirrors arcadeSystems snapshot db s := by
  obtain ⟨snapshot, hread, _⟩ := readSnapshot_fields hs arcadeSystems
  exact ⟨snapshot, hread, readSnapshot_mirrors hs hread⟩

/-! ## 2. A change and its projection -/

/-- What a change of one favourite does to the summaries: the counts of its system, but no count of
recents. -/
structure Follows (s s' : Summaries) (systemId : String) : Prop where
  recentGames : s'.userRecentGames = s.userRecentGames
  others : ∀ system ≠ systemId, s'.userSystemCounts.lookup system = s.userSystemCounts.lookup system
  recent : (readCounts s' systemId).recent = (readCounts s systemId).recent

theorem follows_added (s : Summaries) (systemId : String) :
    Follows s (s.userFavouriteAdded systemId) systemId where
  recentGames := rfl
  others := fun _ h => Table.lookup_upsert_ne h _ _
  recent := by
    unfold readCounts Summaries.userFavouriteAdded
    rw [Table.lookup_upsert]
    cases s.userSystemCounts.lookup systemId <;> rfl

theorem follows_removed (s : Summaries) (systemId : String) :
    Follows s (s.userFavouriteRemoved systemId) systemId where
  recentGames := rfl
  others := fun _ h => Table.lookup_update_ne h _
  recent := by
    unfold readCounts Summaries.userFavouriteRemoved
    rw [Table.lookup_update]
    cases s.userSystemCounts.lookup systemId <;> rfl

theorem follows_refl (s : Summaries) (systemId : String) : Follows s s systemId :=
  ⟨rfl, fun _ _ => rfl, rfl⟩

theorem setFavourite_follows (hs : db.summaries = some s) (game : UserGameIdentity)
    (favourite : Bool) (changedAt : Int) :
    ∃ s', (db.setFavourite game favourite changedAt).summaries = some s' ∧
      Follows s s' game.systemId := by
  unfold setFavourite
  split
  · exact ⟨_, by rw [hs]; rfl, follows_added s game.systemId⟩
  · exact ⟨s, hs, follows_refl s game.systemId⟩
  · exact ⟨s, hs, follows_refl s game.systemId⟩
  · exact ⟨_, by rw [hs]; rfl, follows_removed s game.systemId⟩

theorem Follows.recentsOf {s' : Summaries} {systemId : String} (h : Follows s s' systemId)
    (system : String) : recentsOf s' system = Database.recentsOf s system := by
  have hrefs : ∀ choose, recentRefs s' choose = recentRefs s choose := fun choose => by
    rw [recentRefs, recentRefs, h.recentGames]
  have hrecent : (readCounts s' system).recent = (readCounts s system).recent := by
    by_cases hsys : system = systemId
    · rw [hsys]
      exact h.recent
    · rw [readCounts, readCounts, h.others system hsys]
  rw [Database.recentsOf, Database.recentsOf, hrecent, hrefs]

/-- `set_favourite`, and the order of the map that its projection iterates. -/
structure FavouriteChange where
  game : UserGameIdentity
  favourite : Bool
  changedAt : Int
  order : MapOrder

/-- `set_favourite`, then `refresh_favourites` of the game's system. -/
def changeAndRefresh (state : Database × UserStateSnapshot) (change : FavouriteChange) :
    Option (Database × UserStateSnapshot) :=
  let db := state.1.setFavourite change.game change.favourite change.changedAt
  (db.refreshFavourites change.order state.2 change.game.systemId).map fun snapshot =>
    (db, snapshot)

theorem refreshFavourites_recents (hs : db.summaries = some s) {snapshot' : UserStateSnapshot}
    {order : MapOrder} {systemId : String}
    (h : db.refreshFavourites order snapshot systemId = some snapshot') :
    snapshot'.recentLaunchRefs = snapshot.recentLaunchRefs ∧
      snapshot'.arcadeRecentRefs = snapshot.arcadeRecentRefs ∧
      snapshot'.recentBySystem = snapshot.recentBySystem := by
  unfold refreshFavourites at h
  rw [hs] at h
  obtain rfl := Option.some.inj h
  exact ⟨rfl, rfl, rfl⟩

/-- **A change with its projection takes a mirror of the store to a mirror of the store.** -/
theorem Mirrors.changed (h : Mirrors arcadeSystems snapshot db s) (hs : db.summaries = some s)
    (change : FavouriteChange) :
    ∃ db' snapshot' s', changeAndRefresh (db, snapshot) change = some (db', snapshot') ∧
      db'.summaries = some s' ∧ Mirrors arcadeSystems snapshot' db' s' := by
  obtain ⟨game, favourite, changedAt, order⟩ := change
  obtain ⟨s', hs', hfollows⟩ := setFavourite_follows hs game favourite changedAt
  obtain ⟨snapshot', hread, hbySystem, hcounts, hrefs⟩ :=
    refreshFavourites_fields hs' order snapshot game.systemId
  obtain ⟨hrecents, harcade, hrecentLists⟩ := refreshFavourites_recents hs' hread
  have hlists := refreshFavourites_lists hbySystem h.lists fun system hsys =>
    setFavourite_group db game favourite changedAt hsys
  have hperm := (refreshFavourites_refs hlists hrefs).1
  have hrecentRefs : ∀ choose, recentRefs s' choose = recentRefs s choose := fun choose => by
    rw [recentRefs, recentRefs, hfollows.recentGames]
  refine ⟨_, snapshot', s', ?_, hs', hlists, fun system => ?_, hperm, ?_, ?_, fun system => ?_⟩
  · unfold changeAndRefresh
    dsimp only
    rw [hread]
    rfl
  · rw [UserStateSnapshot.countsIn, hcounts]
    by_cases hsys : system = game.systemId
    · subst hsys
      rw [AList.lookup_insert]
      rfl
    · rw [AList.lookup_insert_ne hsys, readCounts, hfollows.others system hsys]
      exact h.counts system
  · rw [hrecents, hrecentRefs]
    exact h.recents
  · rw [harcade, hrecentRefs]
    exact h.arcade
  · rw [hrecentLists, hfollows.recentsOf]
    exact h.recentLists system

theorem Mirrors.run (h : Mirrors arcadeSystems snapshot db s) (hs : db.summaries = some s)
    (changes : List FavouriteChange) :
    ∃ db' snapshot' s', changes.foldlM changeAndRefresh (db, snapshot) = some (db', snapshot') ∧
      db'.summaries = some s' ∧ Mirrors arcadeSystems snapshot' db' s' := by
  induction changes generalizing db snapshot s with
  | nil => exact ⟨db, snapshot, s, rfl, hs, h⟩
  | cons change changes ih =>
      obtain ⟨db', snapshot', s', hstep, hs', h'⟩ := h.changed hs change
      obtain ⟨db'', snapshot'', s'', hrun, hs'', h''⟩ := ih h' hs'
      refine ⟨db'', snapshot'', s'', ?_, hs'', h''⟩
      rw [List.foldlM_cons, hstep]
      exact hrun

/-! ## 3. The projected snapshot against a whole read -/

/-- The snapshot a run of changes leaves, and what a whole read returns then. -/
def projectedAndRead (db : Database) (arcadeSystems : List String)
    (changes : List FavouriteChange) : Option (UserStateSnapshot × UserStateSnapshot) := do
  let snapshot ← db.readSnapshot arcadeSystems
  let (db, projected) ← changes.foldlM changeAndRefresh (db, snapshot)
  let read ← db.readSnapshot arcadeSystems
  pure (projected, read)

/-- **After any changes, each projected, the snapshot differs from a whole read in the order over
    all systems and in entries that say nothing.** -/
theorem projected_same_state (db : Database) (arcadeSystems : List String)
    (hread : (db.readSnapshot arcadeSystems).isSome) (changes : List FavouriteChange) :
    ∃ projected read, projectedAndRead db arcadeSystems changes = some (projected, read) ∧
      projected.SameState read := by
  obtain ⟨snapshot, hsnapshot⟩ := Option.isSome_iff_exists.1 hread
  cases hs : db.summaries with
  | none =>
      rw [readSnapshot, hs] at hsnapshot
      cases hsnapshot
  | some s =>
      obtain ⟨db', projected, s', hrun, hs', hprojected⟩ :=
        (readSnapshot_mirrors hs hsnapshot).run hs changes
      obtain ⟨read, hread', hmirrors⟩ := readSnapshot_isSome hs' arcadeSystems
      refine ⟨projected, read, ?_, hprojected.same hmirrors⟩
      rw [projectedAndRead, hsnapshot, Option.bind_eq_bind, Option.bind_some, hrun,
        Option.bind_eq_bind, Option.bind_some]
      dsimp only
      rw [hread']
      rfl

def romOf (systemId stableKey : String) : UserGameIdentity :=
  ⟨systemId, stableKey, "", stableKey, ""⟩

/-- A favourite of one system, and a later one of another. -/
def twoSystems : Database :=
  (createSchema.ensureSummaries.setFavourite (romOf "nes" "a") true 1).setFavourite
    (romOf "snes" "b") true 2

theorem two_systems_same_state : ∃ projected read,
    projectedAndRead twoSystems [] [⟨romOf "nes" "c", true, 3, .latestFirst⟩] =
      some (projected, read) ∧ projected.SameState read :=
  projected_same_state twoSystems [] (by decide +kernel)
    [⟨romOf "nes" "c", true, 3, .latestFirst⟩]

/-- **A later favourite of the first system goes before the second's in a whole read with the old
    one after it; the projection keeps a system's together, in whatever order the map is read. A
    system emptied, or one that never had a row, has an entry after its projection only.** -/
theorem projection_regroups :
    ((projectedAndRead twoSystems [] [⟨romOf "nes" "c", true, 3, .latestFirst⟩]).map fun p =>
      (p.1.favouritesIn "nes", p.1.favouritesIn "snes", p.2.favouriteLaunchRefs)) =
        some (["c", "a"], ["b"], ["c", "b", "a"]) ∧
    ((projectedAndRead twoSystems [] [⟨romOf "nes" "c", true, 3, .latestFirst⟩]).map fun p =>
      decide (p.1.favouriteLaunchRefs = p.2.favouriteLaunchRefs)) = some false ∧
    ((projectedAndRead twoSystems [] [⟨romOf "snes" "b", false, 3, .latestFirst⟩]).map fun p =>
      (p.1.favouritesBySystem.lookup "snes", p.2.favouritesBySystem.lookup "snes")) =
        some (some [], none) ∧
    ((projectedAndRead twoSystems [] [⟨romOf "gba" "d", false, 3, .latestFirst⟩]).map fun p =>
      (p.1.systemCounts.lookup "gba", p.2.systemCounts.lookup "gba")) =
        some (some ⟨0, 0⟩, none) := by
  decide +kernel

end Database

end MisterMagik.UserState
