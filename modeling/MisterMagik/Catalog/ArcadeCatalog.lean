/-
  File:      MisterMagik/Catalog/ArcadeCatalog.lean
  Subject:   THE CATALOG IN MEMORY: systems, rows, views, and where a row launches.

  A catalog holds the rows of all systems with an index by collection, and beside them the
  collections that were published one by one. A published collection owns its rows or reads them
  from a mapped NavPack. What a row launches is looked up by its reference, but a row of a mapped
  collection has a launch index of its own.

  * `iter_eq` -- a view gives its rows by their ordinals;
  * `iter_systemGameView` -- where nothing is published, a view shows the rows of its collection.
-/
import MisterMagik.Base.Table
import MisterMagik.Catalog.NavPack

namespace MisterMagik.Catalog

open Base

/-! ## 1. Rows, systems and plans -/

inductive PlatformKind where
  | unknown
  | arcade
  | console
  | handheld
  | computer
  deriving DecidableEq

structure ArcadeGameEntry where
  title : String
  mraPath : String
  previewArchivePath : String
  previewAssetKey : String
  hasPreview : Bool
  systemId : String
  year : Option UInt16
  manufacturer : String
  category : String
  players : Option UInt8
  control : String
  isNew : Bool
  deriving DecidableEq

structure GameSystemEntry where
  id : String
  title : String
  count : UInt64
  deriving DecidableEq

structure StructuredLaunchPlan where
  launchRef : String
  title : String
  systemId : String
  corePath : String
  payloadPath : String
  mountKind : String
  mountIndex : UInt8
  delaySecs : UInt8
  deriving DecidableEq

inductive PreparedCollectionId where
  | amigaVision
  | zeroMhz
  | neon68k
  | oneLoad64
  deriving DecidableEq

structure PreparedLaunchSelection where
  collectionId : PreparedCollectionId
  launchRef : String
  deriving DecidableEq

inductive LaunchTarget where
  | path (launchRef : String)
  | structured (plan : StructuredLaunchPlan)
  | prepared (selection : PreparedLaunchSelection)
  | missingStructured (launchRef : String)
  deriving DecidableEq

def MENU_ARCADE_SYSTEM_ID : String := "menu:arcade"
def AMIGAVISION_GAME_LAUNCH_PREFIX : String := "magik-amigavision:"
def AMIGAVISION_LAUNCHER_REF : String := "magik-amigavision-launcher"

/-- What the catalog asks of the system taxonomy, and which of several plans of one reference a
    binary search finds. -/
structure Lookups where
  /-- `system_definition(id)` has the section Arcade. -/
  belongsToArcade : String → Bool
  /-- `PlatformKind::inferred_for_system_id`. -/
  inferredForSystemId : String → PlatformKind
  /-- `binary_search_by` on the plans of a collection. -/
  search : List StructuredLaunchPlan → String → Option StructuredLaunchPlan

/-- `starts_with`. -/
def startsWith (text front : String) : Bool := (utf8 front).isPrefixOf (utf8 text)

/-! ## 2. Collections -/

/-- The rows of a mapped pack, and the ordinals of those that were made already. -/
structure NavPackSystemRows where
  pack : MappedNavPack
  systemId : String
  count : Nat
  resident : List Nat

namespace NavPackSystemRows

/-- `row_slot` and `materialize`. -/
def materialize (rows : NavPackSystemRows) (ordinal : Nat) : Option NavPackRow :=
  if ordinal < rows.count then (rows.pack.row ordinal).toOption else none

/-- The entry that is made of a row of the pack. -/
def game (rows : NavPackSystemRows) (row : NavPackRow) : ArcadeGameEntry where
  title := row.title
  mraPath := row.launchRef
  previewArchivePath := row.previewArchivePath
  previewAssetKey := row.previewAssetKey
  hasPreview := row.hasPreview
  systemId := rows.systemId
  year := none
  manufacturer := ""
  category := ""
  players := none
  control := ""
  isNew := row.isNew

def get (rows : NavPackSystemRows) (ordinal : Nat) : Option ArcadeGameEntry :=
  (rows.materialize ordinal).map rows.game

def launchPlan (rows : NavPackSystemRows) (row : NavPackRow) : Option StructuredLaunchPlan := do
  let launchIndex ← row.launchIndex
  let plan ← (rows.pack.launch launchIndex).toOption
  pure ⟨plan.launchRef, plan.title, plan.systemId, plan.corePath, plan.payloadPath,
    plan.mountKind, UInt8.ofNat plan.mountIndex, UInt8.ofNat plan.delaySecs⟩

/-- The row at the ordinal, where it has this reference. -/
def rowFor (rows : NavPackSystemRows) (launchRef : String) (ordinal : Nat) : Option NavPackRow :=
  (rows.materialize ordinal).filter fun row => row.launchRef = launchRef

/-- The rows that were made are asked before the pack is. -/
def launchPlanForRef (rows : NavPackSystemRows) (launchRef : String) :
    Option StructuredLaunchPlan :=
  let made := ((List.range rows.count).filter (· ∈ rows.resident)).findSome? (rows.rowFor launchRef)
  let found := made.or ((List.range rows.count).findSome? (rows.rowFor launchRef))
  found.bind rows.launchPlan

end NavPackSystemRows

inductive SystemCollectionRows where
  | owned (games : List ArcadeGameEntry)
  | navPack (rows : NavPackSystemRows)

namespace SystemCollectionRows

def len : SystemCollectionRows → Nat
  | .owned games => games.length
  | .navPack rows => rows.count

def get : SystemCollectionRows → Nat → Option ArcadeGameEntry
  | .owned games, ordinal => games[ordinal]?
  | .navPack rows, ordinal => rows.get ordinal

theorem get_eq_none {games : SystemCollectionRows} {ordinal : Nat} (h : games.len ≤ ordinal) :
    games.get ordinal = none := by
  cases games with
  | owned games => exact List.getElem?_eq_none h
  | navPack rows =>
      have hout : ¬ ordinal < rows.count := Nat.not_lt.2 h
      rw [get, NavPackSystemRows.get, NavPackSystemRows.materialize, if_neg hout]
      rfl

end SystemCollectionRows

structure SystemCollection where
  systemId : String
  games : SystemCollectionRows
  launchPlans : List StructuredLaunchPlan

def SystemCollection.launchPlanForRef (lookups : Lookups) (collection : SystemCollection)
    (launchRef : String) : Option StructuredLaunchPlan :=
  match collection.games with
  | .owned _ => lookups.search collection.launchPlans launchRef
  | .navPack rows => rows.launchPlanForRef launchRef

/-- `Arc<SystemCollection>`. -/
structure SharedCollection where
  address : Nat
  collection : SystemCollection

/-! ## 3. Views -/

inductive ArcadeGameView where
  | contiguous (games : List ArcadeGameEntry)
  | indexed (games : List ArcadeGameEntry) (indexes : List Nat)
  | collection (shared : SharedCollection)
  | collectionIndexed (shared : SharedCollection) (indexes : List Nat)

namespace ArcadeGameView

def len : ArcadeGameView → Nat
  | .contiguous games => games.length
  | .indexed _ indexes => indexes.length
  | .collection shared => shared.collection.games.len
  | .collectionIndexed _ indexes => indexes.length

def get : ArcadeGameView → Nat → Option ArcadeGameEntry
  | .contiguous games, index => games[index]?
  | .indexed games indexes, index => indexes[index]?.bind fun gameIndex => games[gameIndex]?
  | .collection shared, index => shared.collection.games.get index
  | .collectionIndexed shared indexes, index => indexes[index]?.bind shared.collection.games.get

/-- `ArcadeGameViewIter`, from an index on: it ends at the first row that is not there. -/
def iterFrom (view : ArcadeGameView) (index : Nat) : Nat → List ArcadeGameEntry
  | 0 => []
  | left + 1 =>
      match view.get index with
      | none => []
      | some game => game :: iterFrom view (index + 1) left

def iter (view : ArcadeGameView) : List ArcadeGameEntry := view.iterFrom 0 view.len

/-- The rows of the collection behind the view, and the ordinal among these. -/
def behind : ArcadeGameView → Nat → Option (SharedCollection × Nat)
  | .collection shared, ordinal => some (shared, ordinal)
  | .collectionIndexed shared indexes, ordinal => indexes[ordinal]?.map fun i => (shared, i)
  | _, _ => none

variable {view : ArcadeGameView} {index left : Nat}

/-- Past its end a view has no row, so that the iterator gives no more than `len`. -/
theorem get_eq_none (h : view.len ≤ index) : view.get index = none := by
  cases view with
  | contiguous games => exact List.getElem?_eq_none h
  | indexed games indexes =>
      have hnone : indexes[index]? = none := List.getElem?_eq_none h
      rw [get, hnone]
      rfl
  | collection shared => exact SystemCollectionRows.get_eq_none h
  | collectionIndexed shared indexes =>
      have hnone : indexes[index]? = none := List.getElem?_eq_none h
      rw [get, hnone]
      rfl

theorem iterFrom_eq {rows : List ArcadeGameEntry} (h : ∀ i, view.get i = rows[i]?) :
    view.iterFrom index left = (rows.drop index).take left := by
  induction left generalizing index with
  | zero => rfl
  | succ left ih =>
      rw [iterFrom, h]
      cases hrow : rows[index]? with
      | none =>
          rw [List.drop_eq_nil_of_le (List.getElem?_eq_none_iff.1 hrow)]
          rfl
      | some game =>
          have hdrop : rows.drop index = game :: rows.drop (index + 1) := by
            obtain ⟨hlt, rfl⟩ := List.getElem?_eq_some_iff.1 hrow
            exact List.drop_eq_getElem_cons hlt
          rw [hdrop, List.take_succ_cons, ih]

theorem iter_eq {rows : List ArcadeGameEntry} (hlen : view.len = rows.length)
    (h : ∀ i, view.get i = rows[i]?) : view.iter = rows := by
  rw [iter, iterFrom_eq h, List.drop_zero, hlen, List.take_length]

end ArcadeGameView

/-! ## 4. Systems by title -/

/-- `to_ascii_lowercase`, of one byte. -/
def lowercaseByte (byte : UInt8) : UInt8 := if 65 ≤ byte ∧ byte ≤ 90 then byte + 32 else byte

/-- The key `(title.to_ascii_lowercase(), id)` as bytes. -/
def titleAndId (system : GameSystemEntry) : List UInt8 × List UInt8 :=
  ((utf8 system.title).map lowercaseByte, utf8 system.id)

/-- Keys are compared part by part. -/
def keyLe (left right : List UInt8 × List UInt8) : Bool :=
  left.1 < right.1 || (left.1 = right.1 && left.2 ≤ right.2)

def titleLe (left right : GameSystemEntry) : Bool := keyLe (titleAndId left) (titleAndId right)

/-- `sort_systems_by_title`: the sort by cached keys is stable. -/
def sortSystemsByTitle (systems : List GameSystemEntry) : List GameSystemEntry :=
  systems.mergeSort titleLe

theorem titleLe_iff {left right : GameSystemEntry} : titleLe left right = true ↔
    (titleAndId left).1 < (titleAndId right).1 ∨
      (titleAndId left).1 = (titleAndId right).1 ∧ (titleAndId left).2 ≤ (titleAndId right).2 := by
  simp [titleLe, keyLe]

theorem titleLe_trans (a b c : GameSystemEntry) (hab : titleLe a b = true)
    (hbc : titleLe b c = true) : titleLe a c = true := by
  rw [titleLe_iff] at hab hbc ⊢
  rcases hab with hab | ⟨heq, hab⟩
  · rcases hbc with hbc | ⟨heq', hbc⟩
    · exact .inl (List.lt_trans hab hbc)
    · exact .inl (heq' ▸ hab)
  · rcases hbc with hbc | ⟨heq', hbc⟩
    · exact .inl (heq ▸ hbc)
    · exact .inr ⟨heq.trans heq', List.le_trans hab hbc⟩

theorem titleLe_total (a b : GameSystemEntry) : (titleLe a b || titleLe b a) = true := by
  rw [Bool.or_eq_true, titleLe_iff, titleLe_iff]
  rcases List.le_total (titleAndId a).1 (titleAndId b).1 with h | h
  · rcases List.le_iff_lt_or_eq.1 h with hlt | heq
    · exact .inl (.inl hlt)
    · rcases List.le_total (titleAndId a).2 (titleAndId b).2 with h' | h'
      · exact .inl (.inr ⟨heq, h'⟩)
      · exact .inr (.inr ⟨heq.symm, h'⟩)
  · rcases List.le_iff_lt_or_eq.1 h with hlt | heq
    · exact .inr (.inl hlt)
    · rcases List.le_total (titleAndId a).2 (titleAndId b).2 with h' | h'
      · exact .inl (.inr ⟨heq.symm, h'⟩)
      · exact .inr (.inr ⟨heq, h'⟩)

/-- The systems of a catalog are in this order. -/
def ByTitle (systems : List GameSystemEntry) : Prop :=
  systems.Pairwise fun left right => titleLe left right = true

theorem byTitle_sort (systems : List GameSystemEntry) : ByTitle (sortSystemsByTitle systems) :=
  List.pairwise_mergeSort titleLe_trans titleLe_total systems

theorem sort_of_byTitle {systems : List GameSystemEntry} (h : ByTitle systems) :
    sortSystemsByTitle systems = systems := List.mergeSort_of_pairwise h

/-! ## 5. The catalog -/

def gameCollectionIds (lookups : Lookups) (game : ArcadeGameEntry) : List String :=
  game.systemId :: if lookups.belongsToArcade game.systemId then [MENU_ARCADE_SYSTEM_ID] else []

/-- Each row under each of its collections. -/
def filed (lookups : Lookups) (games : List ArcadeGameEntry) : List (String × List Nat) :=
  games.zipIdx.flatMap fun row => (gameCollectionIds lookups row.1).map fun id => (id, [row.2])

/-- The index of `build_arcade_catalog_indexes` by collection. -/
def buildGamesBySystem (lookups : Lookups) (games : List ArcadeGameEntry) :
    Table String (List Nat) :=
  (filed lookups games).foldl (fun t row => Table.upsert t row.1 row.2 (· ++ row.2)) ∅

def fillMissingPlatformKinds (lookups : Lookups) (systems : List GameSystemEntry)
    (platformKinds : Table String PlatformKind) : Table String PlatformKind :=
  systems.foldl (fun kinds system =>
    Table.upsert kinds system.id (lookups.inferredForSystemId system.id) id) platformKinds

/-- A catalog is made with its systems in order and its rows indexed. -/
structure ArcadeCatalog (lookups : Lookups) where
  root : String
  games : List ArcadeGameEntry
  systems : List GameSystemEntry
  platformKinds : Table String PlatformKind
  gamesBySystem : Table String (List Nat)
  launchPlansByRef : Table String StructuredLaunchPlan
  systemCollections : Table String SharedCollection
  inOrder : ByTitle systems
  indexed : gamesBySystem = buildGamesBySystem lookups games

namespace ArcadeCatalog

variable {lookups : Lookups}

/-- `new_with_launch_plans_and_index_mode_and_platform_kinds`. -/
def newWithPlatformKinds (lookups : Lookups) (root : String) (games : List ArcadeGameEntry)
    (systems : List GameSystemEntry) (launchPlans : List StructuredLaunchPlan)
    (platformKinds : Table String PlatformKind) : ArcadeCatalog lookups where
  root := root
  games := games
  systems := sortSystemsByTitle systems
  platformKinds := fillMissingPlatformKinds lookups (sortSystemsByTitle systems) platformKinds
  gamesBySystem := buildGamesBySystem lookups games
  launchPlansByRef := Table.insertAll ∅ (launchPlans.map fun plan => (plan.launchRef, plan))
  systemCollections := ∅
  inOrder := byTitle_sort systems
  indexed := rfl

def platformKind (catalog : ArcadeCatalog lookups) (systemId : String) : PlatformKind :=
  (catalog.platformKinds.lookup systemId).getD (lookups.inferredForSystemId systemId)

def systemGameIndexes (catalog : ArcadeCatalog lookups) (systemId : String) : List Nat :=
  (catalog.gamesBySystem.lookup systemId).getD []

def systemGameView (catalog : ArcadeCatalog lookups) (systemId : String) : ArcadeGameView :=
  match catalog.systemCollections.lookup systemId with
  | some shared => .collection shared
  | none => .indexed catalog.games (catalog.systemGameIndexes systemId)

/-- `self.system_collections.values()`. -/
def collections (catalog : ArcadeCatalog lookups) : List SharedCollection :=
  (Table.pairs catalog.systemCollections).map Prod.snd

def structuredLaunchPlanForRef (catalog : ArcadeCatalog lookups) (launchRef : String) :
    Option StructuredLaunchPlan :=
  (catalog.collections.findSome? fun shared =>
    shared.collection.launchPlanForRef lookups launchRef).or
    (catalog.launchPlansByRef.lookup launchRef)

end ArcadeCatalog

def launchTargetWithPlan (launchRef : String) (plan : Option StructuredLaunchPlan) :
    LaunchTarget :=
  if startsWith launchRef AMIGAVISION_GAME_LAUNCH_PREFIX || launchRef = AMIGAVISION_LAUNCHER_REF
  then .prepared ⟨.amigaVision, launchRef⟩
  else
    match plan with
    | some plan => .structured plan
    | none =>
        if startsWith launchRef "magik-plan:" then .missingStructured launchRef
        else .path launchRef

namespace ArcadeCatalog

variable {lookups : Lookups}

def launchTargetForRef (catalog : ArcadeCatalog lookups) (launchRef : String) : LaunchTarget :=
  launchTargetWithPlan launchRef (catalog.structuredLaunchPlanForRef launchRef)

/-- The plan of a row: a mapped row is asked itself, and after it the other collections. -/
def planInView (catalog : ArcadeCatalog lookups) (view : ArcadeGameView) (ordinal : Nat)
    (game : ArcadeGameEntry) : Option StructuredLaunchPlan :=
  match view.behind ordinal with
  | none => catalog.structuredLaunchPlanForRef game.mraPath
  | some (shared, rowOrdinal) =>
      match shared.collection.games with
      | .owned _ => catalog.structuredLaunchPlanForRef game.mraPath
      | .navPack rows => do
          let row ← rows.materialize rowOrdinal
          let others := catalog.collections.filter fun other => other.address ≠ shared.address
          (rows.launchPlan row).or <|
            (others.findSome? fun other =>
              other.collection.launchPlanForRef lookups game.mraPath).or
              (catalog.launchPlansByRef.lookup game.mraPath)

def launchTargetInView (catalog : ArcadeCatalog lookups) (view : ArcadeGameView) (ordinal : Nat) :
    Option LaunchTarget := do
  let game ← view.get ordinal
  pure (launchTargetWithPlan game.mraPath (catalog.planInView view ordinal game))

/-- `system.count = collection.len()`, of the first system with the id. -/
def recount (id : String) (len : Nat) : List GameSystemEntry → List GameSystemEntry
  | [] => []
  | system :: systems =>
      if system.id = id then { system with count := UInt64.ofNat len } :: systems
      else system :: recount id len systems

theorem keys_recount (id : String) (len : Nat) (systems : List GameSystemEntry) :
    (recount id len systems).map titleAndId = systems.map titleAndId := by
  induction systems with
  | nil => rfl
  | cons system systems ih =>
      rw [recount]
      by_cases h : system.id = id
      · rw [if_pos h]
        rfl
      · rw [if_neg h, List.map_cons, ih, List.map_cons]

theorem byTitle_recount {systems : List GameSystemEntry} (h : ByTitle systems) (id : String)
    (len : Nat) : ByTitle (recount id len systems) := by
  have hkeys : (systems.map titleAndId).Pairwise fun left right => keyLe left right = true :=
    List.pairwise_map.2 h
  rw [← keys_recount id len] at hkeys
  exact List.pairwise_map.1 hkeys

/-- A collection is published under an id that need not be its own. -/
def withSystemCollectionForId (catalog : ArcadeCatalog lookups) (collectionId : String)
    (shared : SharedCollection) : ArcadeCatalog lookups :=
  { catalog with
    systems := recount collectionId shared.collection.games.len catalog.systems
    systemCollections := catalog.systemCollections.insert collectionId shared
    inOrder := byTitle_recount catalog.inOrder collectionId shared.collection.games.len }

/-! ## 6. The index -/

section Index

variable {games : List ArcadeGameEntry} {id : String}

/-- The ordinals of a collection, from a first one on. -/
def ordinalsFrom (lookups : Lookups) (id : String) (first : Nat) : List ArcadeGameEntry → List Nat
  | [] => []
  | game :: games =>
      List.replicate ((gameCollectionIds lookups game).count id) first ++
        ordinalsFrom lookups id (first + 1) games

/-- The rows of a collection, in order. -/
def rowsOf (lookups : Lookups) (id : String) (games : List ArcadeGameEntry) :
    List ArcadeGameEntry :=
  games.flatMap fun game => List.replicate ((gameCollectionIds lookups game).count id) game

theorem group_ids (ids : List String) (i : Nat) :
    (Table.group (ids.map fun id' => (id', [i])) id).flatten =
      List.replicate (ids.count id) i := by
  induction ids with
  | nil => rfl
  | cons id' ids ih =>
      rw [List.map_cons]
      by_cases h : id' = id
      · rw [h, Table.group_cons_self, List.flatten_cons, ih, List.count_cons_self,
          List.replicate_succ]
        rfl
      · rw [Table.group_cons_ne h, ih, List.count_cons_of_ne h]

theorem group_filed (first : Nat) :
    (Table.group ((games.zipIdx first).flatMap fun row =>
      (gameCollectionIds lookups row.1).map fun id' => (id', [row.2])) id).flatten =
      ordinalsFrom lookups id first games := by
  induction games generalizing first with
  | nil => rfl
  | cons game games ih =>
      rw [List.zipIdx_cons, List.flatMap_cons, Table.group_append, List.flatten_append, group_ids,
        ih, ordinalsFrom]

/-- Lists pushed one after another under one key. -/
theorem foldl_pushed (pushed : List (List Nat)) (old : Option (List Nat)) :
    (pushed.foldl (fun old v => some ((old.map (· ++ v)).getD v)) old).getD [] =
      old.getD [] ++ pushed.flatten := by
  induction pushed generalizing old with
  | nil => simp
  | cons v pushed ih =>
      rw [List.foldl_cons, ih, List.flatten_cons, ← List.append_assoc]
      cases old with
      | none => rfl
      | some old => rfl

theorem lookup_buildGamesBySystem :
    ((buildGamesBySystem lookups games).lookup id).getD [] = ordinalsFrom lookups id 0 games := by
  unfold buildGamesBySystem filed
  rw [Table.lookup_foldl_upsert (fun old v => old ++ v), foldl_pushed, AList.lookup_empty,
    group_filed]
  rfl

theorem systemGameIndexes_eq (catalog : ArcadeCatalog lookups) (id : String) :
    catalog.systemGameIndexes id = ordinalsFrom lookups id 0 catalog.games := by
  unfold systemGameIndexes
  rw [catalog.indexed, lookup_buildGamesBySystem]

theorem ordinalsFrom_games (front : List ArcadeGameEntry) :
    (ordinalsFrom lookups id front.length games).map (fun i => (front ++ games)[i]?) =
      (rowsOf lookups id games).map some := by
  induction games generalizing front with
  | nil => rfl
  | cons game games ih =>
      have hmore := ih (front ++ [game])
      rw [List.length_append, List.length_singleton, List.append_assoc] at hmore
      rw [ordinalsFrom, List.map_append, rowsOf, List.flatMap_cons, List.map_append,
        List.map_replicate, List.map_replicate, ← rowsOf]
      congr 1
      · simp

theorem mem_rowsOf {game : ArcadeGameEntry} :
    game ∈ rowsOf lookups id games ↔ game ∈ games ∧ id ∈ gameCollectionIds lookups game := by
  unfold rowsOf
  rw [List.mem_flatMap]
  constructor
  · intro h
    obtain ⟨game', hmem, hgame⟩ := h
    obtain ⟨hcount, rfl⟩ := List.mem_replicate.1 hgame
    exact ⟨hmem, List.count_pos_iff.1 (Nat.pos_of_ne_zero hcount)⟩
  · intro h
    obtain ⟨hmem, hid⟩ := h
    exact ⟨game, hmem, List.mem_replicate.2 ⟨(List.count_pos_iff.2 hid).ne', rfl⟩⟩

theorem rowsOf_all (h : ∀ game ∈ games, (gameCollectionIds lookups game).count id = 1) :
    rowsOf lookups id games = games := by
  induction games with
  | nil => rfl
  | cons game games ih =>
      obtain ⟨hgame, hgames⟩ := List.forall_mem_cons.1 h
      rw [rowsOf, List.flatMap_cons, hgame, ← rowsOf, ih hgames]
      rfl

/-- **A catalog without published collections shows, under an id, its rows of that collection.** -/
theorem iter_systemGameView (catalog : ArcadeCatalog lookups)
    (h : catalog.systemCollections.lookup id = none) :
    (catalog.systemGameView id).len = (rowsOf lookups id catalog.games).length ∧
      (catalog.systemGameView id).iter = rowsOf lookups id catalog.games := by
  have hrows : (ordinalsFrom lookups id 0 catalog.games).map (fun i => catalog.games[i]?) =
      (rowsOf lookups id catalog.games).map some := ordinalsFrom_games []
  have hview : catalog.systemGameView id =
      .indexed catalog.games (ordinalsFrom lookups id 0 catalog.games) := by
    unfold systemGameView
    rw [h, systemGameIndexes_eq]
  have hlen : (catalog.systemGameView id).len = (rowsOf lookups id catalog.games).length := by
    have hlength := congrArg List.length hrows
    rw [List.length_map, List.length_map] at hlength
    rw [hview]
    exact hlength
  refine ⟨hlen, ArcadeGameView.iter_eq hlen fun i => ?_⟩
  have hrow := congrArg (·[i]?) hrows
  rw [List.getElem?_map, List.getElem?_map] at hrow
  rw [hview]
  show (ordinalsFrom lookups id 0 catalog.games)[i]?.bind (fun j => catalog.games[j]?) = _
  cases hordinal : (ordinalsFrom lookups id 0 catalog.games)[i]? with
  | none =>
      rw [hordinal] at hrow
      cases hrows : (rowsOf lookups id catalog.games)[i]? with
      | none => rfl
      | some row =>
          rw [hrows] at hrow
          cases hrow
  | some j =>
      rw [hordinal] at hrow
      cases hrows : (rowsOf lookups id catalog.games)[i]? with
      | none =>
          rw [hrows] at hrow
          cases hrow
      | some row =>
          rw [hrows] at hrow
          exact Option.some.inj hrow

end Index

end ArcadeCatalog

end MisterMagik.Catalog
