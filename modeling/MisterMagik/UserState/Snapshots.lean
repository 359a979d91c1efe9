/-
  File:      MisterMagik/UserState/Snapshots.lean
  Subject:   What a snapshot says of favourites, against the rows of the favourites statement.

  A whole read folds the ordered rows into a map; the projection of one system reads that system
  alone and patches the map. `Coherent` is what both come to: for each system its favourites in
  their order and how many there are, and over all systems the same references in some order.
  After a projection that order is the map's order of iteration, which the source leaves open;
  `refreshFavourites_refs` says when it is that of the rows.
-/
import MisterMagik.UserState.Recomputation
import Mathlib.Data.String.Basic

namespace MisterMagik.UserState

open MisterMagik.Base

namespace Database

/-! ## 1. The order of favourites -/

instance : IsTrans FavouriteEntry favouriteBefore where
  trans := by
    intro a b c hab hbc
    unfold favouriteBefore at *
    rcases hab with hab | ⟨hab, hab'⟩
    · rcases hbc with hbc | ⟨hbc, -⟩
      · exact Or.inl (lt_trans hbc hab)
      · exact Or.inl (hbc ▸ hab)
    · rcases hbc with hbc | ⟨hbc, hbc'⟩
      · exact Or.inl (hab ▸ hbc)
      · refine Or.inr ⟨hab.trans hbc, ?_⟩
        rcases hab' with hab' | ⟨hab', hle⟩
        · rcases hbc' with hbc' | ⟨hbc', -⟩
          · exact Or.inl (lt_trans hab' hbc')
          · exact Or.inl (hbc' ▸ hab')
        · rcases hbc' with hbc' | ⟨hbc', hle'⟩
          · exact Or.inl (hab' ▸ hbc')
          · exact Or.inr ⟨hab'.trans hbc', le_trans hle hle'⟩

instance : Std.Total (α := FavouriteEntry) favouriteBefore where
  total := by
    intro a b
    unfold favouriteBefore
    rcases lt_trichotomy a.2.favouritedAt b.2.favouritedAt with hat | hat | hat
    · exact Or.inr (Or.inl hat)
    · rcases lt_trichotomy a.1.stableKey b.1.stableKey with hkey | hkey | hkey
      · exact Or.inl (Or.inr ⟨hat, Or.inl hkey⟩)
      · rcases le_total a.1.systemId b.1.systemId with hsys | hsys
        · exact Or.inl (Or.inr ⟨hat, Or.inr ⟨hkey, hsys⟩⟩)
        · exact Or.inr (Or.inr ⟨hat.symm, Or.inr ⟨hkey.symm, hsys⟩⟩)
      · exact Or.inr (Or.inr ⟨hat.symm, Or.inl hkey⟩)
    · exact Or.inl (Or.inl hat)

/-- Entries neither of which is strictly first have one key. -/
theorem key_eq_of_before {a b : FavouriteEntry} (hab : favouriteBefore a b)
    (hba : favouriteBefore b a) : a.1 = b.1 := by
  unfold favouriteBefore at hab hba
  have hat : a.2.favouritedAt = b.2.favouritedAt := by
    rcases hab with hab | ⟨hab, -⟩
    · rcases hba with hba | ⟨hba, -⟩
      · exact absurd hab (lt_asymm hba)
      · exact hba.symm
    · exact hab
  rcases hab with hab | ⟨-, hab⟩
  · exact absurd (hat ▸ hab) (lt_irrefl _)
  · rcases hba with hba | ⟨-, hba⟩
    · exact absurd (hat ▸ hba) (lt_irrefl _)
    · rcases hab with hab | ⟨hkey, hab⟩
      · rcases hba with hba | ⟨hkey, -⟩
        · exact absurd hab (lt_asymm hba)
        · exact absurd (hkey ▸ hab) (lt_irrefl _)
      · rcases hba with hba | ⟨-, hba⟩
        · exact absurd (hkey ▸ hba) (lt_irrefl _)
        · obtain ⟨⟨sa, ka⟩, fa⟩ := a
          obtain ⟨⟨sb, kb⟩, fb⟩ := b
          exact congrArg₂ GameKey.mk (le_antisymm hab hba) hkey

/-- Two sorted lists of the same entries of one table are equal. -/
theorem sorted_entries_unique (t : Table GameKey Favourite) {l l' : List FavouriteEntry}
    (hperm : l.Perm l') (hmem : ∀ e ∈ l, e ∈ Table.pairs t) (hl : l.Pairwise favouriteBefore)
    (hl' : l'.Pairwise favouriteBefore) : l = l' := by
  refine List.Perm.eq_of_pairwise (fun a b ha hb hab hba => ?_) hl hl' hperm
  have hkey := key_eq_of_before hab hba
  obtain ⟨k, v⟩ := a
  obtain ⟨k', v'⟩ := b
  obtain rfl : k = k' := hkey
  have hv := Table.mem_pairs.1 (hmem _ ha)
  have hv' := Table.mem_pairs.1 (hmem _ (hperm.mem_iff.2 hb))
  rw [Option.some.inj (hv.symm.trans hv')]

theorem nodup_entries (t : Table GameKey Favourite) : (Table.pairs t).Nodup :=
  List.Nodup.of_map _ (Table.nodup_pairs t)

/-- The statement for one system gives that system's rows of the statement for all. -/
theorem favouritesOf_eq (db : Database) (system : String) :
    db.favouritesOf system = db.orderedFavourites.filter fun row => row.1.systemId = system := by
  unfold favouritesOf orderedFavourites
  refine sorted_entries_unique db.favourites ?_ ?_ (List.pairwise_insertionSort _ _)
    ((List.pairwise_insertionSort _ _).filter _)
  · exact (List.perm_insertionSort _ _).trans ((List.perm_insertionSort _ _).filter _).symm
  · intro e he
    exact List.mem_of_mem_filter ((List.mem_insertionSort _).1 he)

/-- The favourites of a system depend on the rows of that system alone. -/
theorem favouritesOf_congr {db db' : Database} {system : String}
    (h : ∀ key : GameKey, key.systemId = system →
      db.favourites.lookup key = db'.favourites.lookup key) :
    db.favouritesOf system = db'.favouritesOf system := by
  have hperm : ((Table.pairs db.favourites).filter fun row => row.1.systemId = system).Perm
      ((Table.pairs db'.favourites).filter fun row => row.1.systemId = system) := by
    rw [List.perm_ext_iff_of_nodup ((nodup_entries _).filter _) ((nodup_entries _).filter _)]
    intro e
    rw [List.mem_filter, List.mem_filter, decide_eq_true_eq]
    refine and_congr_left fun hsys => ?_
    obtain ⟨key, row⟩ := e
    rw [Table.mem_pairs, Table.mem_pairs, h key hsys]
  unfold favouritesOf
  refine sorted_entries_unique db.favourites ?_ ?_ (List.pairwise_insertionSort _ _)
    (List.pairwise_insertionSort _ _)
  · exact (List.perm_insertionSort _ _).trans
      (hperm.trans (List.perm_insertionSort _ _).symm)
  · intro e he
    exact List.mem_of_mem_filter ((List.mem_insertionSort _).1 he)

/-- The references of a system, in order. -/
theorem group_favouriteRows (db : Database) (system : String) :
    Table.group db.favouriteRows system =
      (db.favouritesOf system).map fun row => row.2.launchRef := by
  rw [favouritesOf_eq]
  unfold Table.group favouriteRows
  rw [List.filter_map, List.map_map]
  rfl

/-- **A change of one favourite leaves the other systems' rows.** -/
theorem setFavourite_group {system : String} (db : Database) (game : UserGameIdentity)
    (favourite : Bool) (changedAt : Int) (h : system ≠ game.systemId) :
    Table.group (db.setFavourite game favourite changedAt).favouriteRows system =
      Table.group db.favouriteRows system := by
  rw [group_favouriteRows, group_favouriteRows]
  congr 1
  refine favouritesOf_congr fun key hsys => ?_
  have hne : key ≠ game.key := fun heq => h (by rw [← hsys, heq]; rfl)
  unfold setFavourite
  split
  · exact AList.lookup_insert_ne hne
  · exact AList.lookup_insert_ne hne
  · rfl
  · exact AList.lookup_erase_ne hne

/-- **In a sound store the count of a system is the number of its rows.** -/
theorem favouriteCount_eq {db : Database} {s : Summaries} (h : Recomputed db s) (system : String) :
    (countsOf s system).favouriteCount = (Table.group db.favouriteRows system).length := by
  have hlength : (Table.group db.favouriteRows system).length = db.currentFavourites system := by
    rw [group_favouriteRows, List.length_map]
    unfold favouritesOf currentFavourites Table.countOf
    have hkeys : db.favourites.keys = (Table.pairs db.favourites).map Prod.fst := by
      unfold Table.pairs AList.keys List.keys
      rw [List.map_map]
      rfl
    rw [List.length_insertionSort, ← List.countP_eq_length_filter, hkeys, List.countP_map]
    rfl
  rw [h.counts, hlength]

end Database

/-! ## 2. Coherent snapshots -/

namespace UserStateSnapshot

/-- The favourites of a system; without an entry there are none. -/
def favouritesIn (snapshot : UserStateSnapshot) (system : String) : List String :=
  (snapshot.favouritesBySystem.lookup system).getD []

/-- The number of favourites of a system; without an entry it is zero. -/
def favouriteCountIn (snapshot : UserStateSnapshot) (system : String) : Nat :=
  ((snapshot.systemCounts.lookup system).getD ⟨0, 0⟩).favourites

/-- The snapshot says of favourites what the rows say. -/
structure Coherent (snapshot : UserStateSnapshot) (rows : List (String × String)) : Prop where
  lists : ∀ system, snapshot.favouritesIn system = Table.group rows system
  counts : ∀ system, snapshot.favouriteCountIn system = (Table.group rows system).length
  refs : snapshot.favouriteLaunchRefs.Perm (rows.map Prod.snd)

/-- Once the map has an entry of this system, the rows stand system by system in its order. -/
def OrderedAfter (snapshot : UserStateSnapshot) (order : MapOrder) (systemId : String)
    (rows : List (String × String)) : Prop :=
  Table.Grouped (order.keys (snapshot.favouritesBySystem.insert systemId []).keys) rows

instance (snapshot : UserStateSnapshot) (order : MapOrder) (systemId : String)
    (rows : List (String × String)) : Decidable (snapshot.OrderedAfter order systemId rows) :=
  inferInstanceAs (Decidable (Table.Grouped _ _))

end UserStateSnapshot

namespace Database

open UserStateSnapshot (Coherent)

theorem lookup_foldl_pushFavourite (rows : List (String × String))
    (bySystem : Table String (List String)) (system : String) :
    ((rows.foldl pushFavourite bySystem).lookup system).getD [] =
      (bySystem.lookup system).getD [] ++ Table.group rows system := by
  induction rows generalizing bySystem with
  | nil => simp [Table.group]
  | cons row rows ih =>
      obtain ⟨system', reference⟩ := row
      rw [List.foldl_cons, ih]
      unfold pushFavourite
      by_cases h : system' = system
      · subst h
        rw [Table.lookup_upsert, Table.group_cons_self]
        cases bySystem.lookup system' <;> simp
      · rw [Table.lookup_upsert_ne (Ne.symm h), Table.group_cons_ne h]

variable {db : Database} {s : Summaries}

/-- Either read clamps a count that is the number of rows, and clamps nothing. -/
theorem read_favourites (h : Recomputed db s) (system : String) :
    (((s.userSystemCounts.lookup system).map UserSystemCounts.read).getD ⟨0, 0⟩).favourites =
      (Table.group db.favouriteRows system).length := by
  have hcount := favouriteCount_eq h system
  unfold countsOf at hcount
  cases hrow : s.userSystemCounts.lookup system with
  | none =>
      rw [hrow] at hcount
      exact Int.ofNat.inj hcount
  | some counts =>
      rw [hrow] at hcount
      have hcount' : counts.favouriteCount = _ := hcount
      show counts.favouriteCount.toNat = _
      rw [hcount', Int.toNat_natCast]

theorem readSnapshot_fields (hs : db.summaries = some s) (arcadeSystems : List String) :
    ∃ snapshot, db.readSnapshot arcadeSystems = some snapshot ∧
      snapshot.favouritesBySystem = db.favouriteRows.foldl pushFavourite ∅ ∧
      snapshot.systemCounts = Table.ofRows
        ((Table.pairs s.userSystemCounts).map fun row => (row.1, row.2.read)) ∧
      snapshot.favouriteLaunchRefs = db.favouriteRows.map Prod.snd := by
  unfold readSnapshot
  rw [hs]
  exact ⟨_, rfl, rfl, rfl, rfl⟩

/-- **A whole read is coherent.** -/
theorem readSnapshot_coherent (h : Sound db) (hs : db.summaries = some s)
    (arcadeSystems : List String) :
    ∃ snapshot, db.readSnapshot arcadeSystems = some snapshot ∧
      Coherent snapshot db.favouriteRows := by
  obtain ⟨snapshot, hread, hlists, hcounts, hrefs⟩ := readSnapshot_fields hs arcadeSystems
  refine ⟨snapshot, hread, fun system => ?_, fun system => ?_, ?_⟩
  · rw [UserStateSnapshot.favouritesIn, hlists, lookup_foldl_pushFavourite]
    exact List.nil_append _
  · rw [UserStateSnapshot.favouriteCountIn, hcounts, Table.lookup_ofRows_map]
    exact read_favourites (h.recomputed s hs) system
  · rw [hrefs]

theorem refreshFavourites_fields (hs : db.summaries = some s) (order : MapOrder)
    (snapshot : UserStateSnapshot) (systemId : String) :
    ∃ snapshot', db.refreshFavourites order snapshot systemId = some snapshot' ∧
      snapshot'.favouritesBySystem = snapshot.favouritesBySystem.insert systemId
        ((db.favouritesOf systemId).map fun row => row.2.launchRef) ∧
      snapshot'.systemCounts = snapshot.systemCounts.insert systemId
        (((s.userSystemCounts.lookup systemId).map UserSystemCounts.read).getD ⟨0, 0⟩) ∧
      snapshot'.favouriteLaunchRefs =
        (order.keys snapshot'.favouritesBySystem.keys).flatMap snapshot'.favouritesIn := by
  unfold refreshFavourites
  rw [hs]
  exact ⟨_, rfl, rfl, rfl, rfl⟩

/-- The projection reads one system's list anew and leaves the other systems'. -/
theorem refreshFavourites_lists {snapshot snapshot' : UserStateSnapshot} {systemId : String}
    {rows : List (String × String)}
    (hbySystem : snapshot'.favouritesBySystem = snapshot.favouritesBySystem.insert systemId
      ((db.favouritesOf systemId).map fun row => row.2.launchRef))
    (hold : ∀ system, snapshot.favouritesIn system = Table.group rows system)
    (hframe : ∀ system ≠ systemId, Table.group db.favouriteRows system = Table.group rows system)
    (system : String) : snapshot'.favouritesIn system = Table.group db.favouriteRows system := by
  rw [UserStateSnapshot.favouritesIn, hbySystem]
  by_cases hsys : system = systemId
  · subst hsys
    rw [AList.lookup_insert, group_favouriteRows]
    rfl
  · rw [AList.lookup_insert_ne hsys, hframe system hsys]
    exact hold system

/-- Every system with a row has an entry. -/
theorem covered_of_lists {snapshot : UserStateSnapshot} {rows : List (String × String)}
    (hlists : ∀ system, snapshot.favouritesIn system = Table.group rows system) :
    ∀ row ∈ rows, row.1 ∈ snapshot.favouritesBySystem.keys := by
  intro row hrow
  have hmem : row.2 ∈ snapshot.favouritesIn row.1 := by
    rw [hlists]
    exact Table.mem_group.2 hrow
  by_contra hnot
  have hnone : snapshot.favouritesBySystem.lookup row.1 = none :=
    AList.lookup_eq_none.2 fun hkey => hnot (AList.mem_keys.1 hkey)
  rw [UserStateSnapshot.favouritesIn, hnone] at hmem
  cases hmem

/-- The references of a projection: those of the rows, system by system in the order of the map. It
    is the order of the rows if these stand so, and only then where no reference is one of two
    systems. -/
theorem refreshFavourites_refs {snapshot : UserStateSnapshot} {rows : List (String × String)}
    {order : MapOrder}
    (hlists : ∀ system, snapshot.favouritesIn system = Table.group rows system)
    (hrefs : snapshot.favouriteLaunchRefs =
      (order.keys snapshot.favouritesBySystem.keys).flatMap snapshot.favouritesIn) :
    snapshot.favouriteLaunchRefs.Perm (rows.map Prod.snd) ∧
      (Table.Grouped (order.keys snapshot.favouritesBySystem.keys) rows →
        snapshot.favouriteLaunchRefs = rows.map Prod.snd) ∧
      ((∀ a ∈ rows, ∀ b ∈ rows, a.2 = b.2 → a.1 = b.1) →
        snapshot.favouriteLaunchRefs = rows.map Prod.snd →
          Table.Grouped (order.keys snapshot.favouritesBySystem.keys) rows) := by
  have hperm := order.perm snapshot.favouritesBySystem.keys
  have hnodup : (order.keys snapshot.favouritesBySystem.keys).Nodup :=
    hperm.nodup_iff.2 snapshot.favouritesBySystem.keys_nodup
  have hcover : ∀ row ∈ rows, row.1 ∈ order.keys snapshot.favouritesBySystem.keys :=
    fun row hrow => hperm.mem_iff.2 (covered_of_lists hlists row hrow)
  rw [hrefs, funext hlists]
  exact ⟨Table.flatMap_group_perm hnodup rows hcover,
    fun hgrouped => hgrouped.flatMap_group hnodup hcover, Table.grouped_of_flatMap hnodup⟩

/-- **A projection of the changed system makes a coherent snapshot coherent again.** -/
theorem refreshFavourites_coherent (h : Sound db) (hs : db.summaries = some s) (order : MapOrder)
    {snapshot : UserStateSnapshot} {rows : List (String × String)} {systemId : String}
    (hold : Coherent snapshot rows)
    (hframe : ∀ system ≠ systemId, Table.group db.favouriteRows system = Table.group rows system) :
    ∃ snapshot', db.refreshFavourites order snapshot systemId = some snapshot' ∧
      Coherent snapshot' db.favouriteRows ∧
      (snapshot.OrderedAfter order systemId db.favouriteRows →
        snapshot'.favouriteLaunchRefs = db.favouriteRows.map Prod.snd) ∧
      ((∀ a ∈ db.favouriteRows, ∀ b ∈ db.favouriteRows, a.2 = b.2 → a.1 = b.1) →
        snapshot'.favouriteLaunchRefs = db.favouriteRows.map Prod.snd →
          snapshot.OrderedAfter order systemId db.favouriteRows) := by
  obtain ⟨snapshot', hread, hbySystem, hcounts, hrefs⟩ :=
    refreshFavourites_fields hs order snapshot systemId
  have hlists := refreshFavourites_lists hbySystem hold.lists hframe
  obtain ⟨hperm, hgrouped⟩ := refreshFavourites_refs hlists hrefs
  refine ⟨snapshot', hread, ⟨hlists, fun system => ?_, hperm⟩, ?_⟩
  · rw [UserStateSnapshot.favouriteCountIn, hcounts]
    by_cases hsys : system = systemId
    · subst hsys
      rw [AList.lookup_insert]
      exact read_favourites (h.recomputed s hs) system
    · rw [AList.lookup_insert_ne hsys, hframe system hsys]
      exact hold.counts system
  · rw [hbySystem] at hgrouped
    exact hgrouped

end Database

end MisterMagik.UserState
