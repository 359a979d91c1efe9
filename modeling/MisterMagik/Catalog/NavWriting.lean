/-
  File:      MisterMagik/Catalog/NavWriting.lean
  Subject:   What the encoder has written when it is done.

  Texts are only appended, so a reference that was handed out stays good: `Interns` says what holds
  of a result whatever is appended later. Tables are only appended too, record after record.

  * `intern_interns` -- a reference names its text;
  * `encodeGames_interns` -- after the loop every game has its row, metadata and launch plan;
  * `encodeIndexes_interns` -- the index section is spelled from tables with the posted labels;
  * `buildNavigationIndexes_rising` -- the posted keys rise.
-/
import MisterMagik.Catalog.NavEncode
import Mathlib.Data.List.Forall2

namespace MisterMagik.Catalog

open MisterMagik.Base

/-! ## 1. Interning -/

/-- A reference to a text. -/
structure Refers (bytes : List UInt8) (reference : Nat × Nat) (value : String) : Prop where
  small : Small reference.1 ∧ Small reference.2
  text : slice bytes reference.1 reference.2 = some (utf8 value)

/-- Every reference handed out names its text. -/
def Strings.Sound (strings : Strings) : Prop :=
  ∀ value reference, strings.refs.lookup value = some reference →
    Refers strings.bytes reference value

/-- The bytes only grow, and the result is good for whatever they grow to. -/
structure Interns {α : Type} (x : Interning α) (Post : List UInt8 → α → Prop) : Prop where
  ok : ∀ strings a strings', x strings = .ok (a, strings') → strings.Sound →
    strings'.Sound ∧ (∃ grown, strings'.bytes = strings.bytes ++ grown) ∧
      ∀ more, Post (strings'.bytes ++ more) a

section Interns

variable {α β : Type} {bytes more : List UInt8} {reference : Nat × Nat} {value : String}

theorem Refers.append (h : Refers bytes reference value) : Refers (bytes ++ more) reference value :=
  ⟨h.small, slice_append_left h.text⟩

theorem interns_pure (a : α) : Interns (pure a) fun _ b => b = a := by
  refine ⟨fun strings b strings' h hsound => ?_⟩
  obtain ⟨rfl, rfl⟩ := takes_pure_ok.1 h
  exact ⟨hsound, ⟨[], (List.append_nil _).symm⟩, fun _ => rfl⟩

theorem interns_lift (x : Reads α) : Interns (liftM x) fun _ a => x = .ok a := by
  refine ⟨fun strings a strings' h hsound => ?_⟩
  obtain ⟨rfl, hx⟩ := takes_lift_ok.1 h
  exact ⟨hsound, ⟨[], (List.append_nil _).symm⟩, fun _ => hx⟩

theorem interns_bind {x : Interning α} {f : α → Interning β} {First : List UInt8 → α → Prop}
    {Then : α → List UInt8 → β → Prop} (hx : Interns x First) (hf : ∀ a, Interns (f a) (Then a)) :
    Interns (x >>= f) fun bytes b => ∃ a, First bytes a ∧ Then a bytes b := by
  refine ⟨fun strings b strings' h hsound => ?_⟩
  obtain ⟨a, mid, hxa, hfb⟩ := takes_bind_ok.1 h
  obtain ⟨hmid, ⟨grown, hgrown⟩, hfirst⟩ := hx.ok _ _ _ hxa hsound
  obtain ⟨hsound', ⟨grown', hgrown'⟩, hthen⟩ := (hf a).ok _ _ _ hfb hmid
  refine ⟨hsound', ⟨grown ++ grown', ?_⟩, fun more => ⟨a, ?_, hthen more⟩⟩
  · rw [hgrown', hgrown, List.append_assoc]
  · rw [hgrown', List.append_assoc]
    exact hfirst _

theorem Interns.mono {x : Interning α} {Post Post' : List UInt8 → α → Prop} (h : Interns x Post)
    (himp : ∀ bytes a, Post bytes a → Post' bytes a) : Interns x Post' := by
  refine ⟨fun strings a strings' hx hsound => ?_⟩
  obtain ⟨hsound', hgrown, hpost⟩ := h.ok _ _ _ hx hsound
  exact ⟨hsound', hgrown, fun more => himp _ _ (hpost more)⟩

/-- **A reference names its text.** -/
theorem intern_interns (value : String) :
    Interns (Strings.intern value) fun bytes reference => Refers bytes reference value := by
  refine ⟨fun strings reference strings' h hsound => ?_⟩
  unfold Strings.intern at h
  cases hlookup : strings.refs.lookup value with
  | some found =>
      rw [hlookup] at h
      cases h
      exact ⟨hsound, ⟨[], (List.append_nil _).symm⟩, fun _ => (hsound _ _ hlookup).append⟩
  | none =>
      rw [hlookup] at h
      obtain ⟨_, hoffset, h⟩ := reads_bind_ok.1 h
      obtain ⟨_, hlength, h⟩ := reads_bind_ok.1 h
      cases h
      have hrefers : Refers (strings.bytes ++ utf8 value)
          (strings.bytes.length, (utf8 value).length) value :=
        ⟨⟨of_decide_eq_true (check_ok.1 hoffset), of_decide_eq_true (check_ok.1 hlength)⟩,
          slice_append_right _ _⟩
      refine ⟨fun other reference hother => ?_, ⟨utf8 value, rfl⟩, fun _ => hrefers.append⟩
      rw [List.lookup_cons] at hother
      by_cases heq : other = value
      · subst heq
        simp only [BEq.rfl] at hother
        cases hother
        exact hrefers
      · simp only [beq_false_of_ne heq] at hother
        exact (hsound _ _ hother).append

end Interns

/-! ## 2. What is written where -/

/-- A reference in a table that names a text. -/
def TextAt (table strings : List UInt8) (offset : Nat) (value : String) : Prop :=
  ∃ reference, Refers strings reference value ∧ slice table offset 8 = some (spellRef reference)

/-- A number in a table. -/
def NumberAt (table : List UInt8) (offset width value : Nat) : Prop :=
  value < 256 ^ width ∧ slice table offset width = some (leBytes width value)

structure RowAt (table strings : List UInt8) (offset ordinal launchIndex : Nat)
    (game : SystemGame) : Prop where
  title : TextAt table strings offset game.title
  launchRef : TextAt table strings (offset + 8) game.launchRef
  archive : TextAt table strings (offset + 16) game.previewArchivePath
  assetKey : TextAt table strings (offset + 24) game.previewAssetKey
  launchIndex : NumberAt table (offset + 36) 4 launchIndex
  flags : NumberAt table (offset + 40) 4 (flagsOf game)

structure MetadataAt (table strings : List UInt8) (offset : Nat) (game : SystemGame) : Prop where
  year : NumberAt table offset 2 (yearCode game.year)
  players : NumberAt table (offset + 2) 1 (playersCode game.players)
  manufacturer : TextAt table strings (offset + 4) game.manufacturer
  category : TextAt table strings (offset + 12) game.category
  control : TextAt table strings (offset + 20) game.control

structure LaunchAt (table strings : List UInt8) (offset : Nat) (plan : SystemLaunchPlan) :
    Prop where
  launchRef : TextAt table strings offset plan.launchRef
  title : TextAt table strings (offset + 8) plan.title
  systemId : TextAt table strings (offset + 16) plan.systemId
  corePath : TextAt table strings (offset + 24) plan.corePath
  payloadPath : TextAt table strings (offset + 32) plan.payloadPath
  mountKind : TextAt table strings (offset + 40) plan.mountKind
  mountIndex : NumberAt table (offset + 48) 1 plan.mountIndex.toNat
  delaySecs : NumberAt table (offset + 49) 1 plan.delaySecs.toNat

section Placed

variable {part table strings : List UInt8} {start offset width value ordinal launchIndex : Nat}
  {game : SystemGame} {plan : SystemLaunchPlan} {text : String}

theorem TextAt.within (h : TextAt part strings offset text) (hw : Within part start table) :
    TextAt table strings (start + offset) text := by
  obtain ⟨reference, hrefers, hslice⟩ := h
  exact ⟨reference, hrefers, hw.slice hslice⟩

theorem NumberAt.within (h : NumberAt part offset width value) (hw : Within part start table) :
    NumberAt table (start + offset) width value := ⟨h.1, hw.slice h.2⟩

theorem RowAt.within (h : RowAt part strings offset ordinal launchIndex game)
    (hw : Within part start table) :
    RowAt table strings (start + offset) ordinal launchIndex game where
  title := h.title.within hw
  launchRef := h.launchRef.within hw
  archive := h.archive.within hw
  assetKey := h.assetKey.within hw
  launchIndex := h.launchIndex.within hw
  flags := h.flags.within hw

theorem MetadataAt.within (h : MetadataAt part strings offset game) (hw : Within part start table) :
    MetadataAt table strings (start + offset) game where
  year := h.year.within hw
  players := h.players.within hw
  manufacturer := h.manufacturer.within hw
  category := h.category.within hw
  control := h.control.within hw

theorem LaunchAt.within (h : LaunchAt part strings offset plan) (hw : Within part start table) :
    LaunchAt table strings (start + offset) plan where
  launchRef := h.launchRef.within hw
  title := h.title.within hw
  systemId := h.systemId.within hw
  corePath := h.corePath.within hw
  payloadPath := h.payloadPath.within hw
  mountKind := h.mountKind.within hw
  mountIndex := h.mountIndex.within hw
  delaySecs := h.delaySecs.within hw

end Placed

@[simp] theorem length_spellRef (reference : Nat × Nat) : (spellRef reference).length = 8 := by
  rw [spellRef, List.length_append, length_leBytes, length_leBytes]

/-! ## 3. One record -/

theorem yearCode_lt (year : Option UInt16) : yearCode year < 256 ^ 2 := by
  cases year with
  | none => decide
  | some year => exact year.toNat_lt

theorem playersCode_lt (players : Option UInt8) : playersCode players < 256 ^ 1 := by
  cases players with
  | none => decide
  | some players => exact players.toNat_lt

theorem flagsOf_lt (game : SystemGame) : flagsOf game < 256 ^ 4 := by
  unfold flagsOf
  cases game.hasPreview <;> cases game.isNew <;> decide

section Records

variable {ordinal launchIndex : Nat} (game : SystemGame) (plan : SystemLaunchPlan)

theorem encodeRow_interns :
    Interns (encodeRow game ordinal launchIndex) fun bytes row =>
      row.length = NAVPACK_ROW_BYTES ∧
        (Small launchIndex → RowAt row bytes 0 ordinal launchIndex game) := by
  refine (interns_bind (intern_interns game.title) fun title =>
    interns_bind (intern_interns game.launchRef) fun launchRef =>
    interns_bind (intern_interns game.previewArchivePath) fun archive =>
    interns_bind (intern_interns game.previewAssetKey) fun assetKey =>
    interns_bind (interns_lift _) fun _ => interns_pure _).mono fun bytes row h => ?_
  obtain ⟨title, htitle, launchRef, hlaunchRef, archive, harchive, assetKey, hassetKey, _, _,
    rfl⟩ := h
  refine ⟨by simp; rfl, fun hindex => ?_⟩
  exact
    { title := ⟨title, htitle, slice_flatten 0 rfl (by simp) (by simp)⟩
      launchRef := ⟨launchRef, hlaunchRef, slice_flatten 1 rfl (by simp) (by simp)⟩
      archive := ⟨archive, harchive, slice_flatten 2 rfl (by simp) (by simp)⟩
      assetKey := ⟨assetKey, hassetKey, slice_flatten 3 rfl (by simp) (by simp)⟩
      launchIndex := ⟨hindex, slice_flatten 5 rfl (by simp) (by simp)⟩
      flags := ⟨flagsOf_lt game, slice_flatten 6 rfl (by simp) (by simp)⟩ }

theorem encodeMetadata_interns :
    Interns (encodeMetadata game) fun bytes metadata =>
      metadata.length = NAVPACK_COLD_BYTES ∧ MetadataAt metadata bytes 0 game := by
  refine (interns_bind (intern_interns game.manufacturer) fun manufacturer =>
    interns_bind (intern_interns game.category) fun category =>
    interns_bind (intern_interns game.control) fun control =>
    interns_pure _).mono fun bytes metadata h => ?_
  obtain ⟨manufacturer, hmanufacturer, category, hcategory, control, hcontrol, rfl⟩ := h
  refine ⟨by simp; rfl, ?_⟩
  exact
    { year := ⟨yearCode_lt game.year, slice_flatten 0 rfl (by simp) (by simp)⟩
      players := ⟨playersCode_lt game.players, slice_flatten 1 rfl (by simp) (by simp)⟩
      manufacturer := ⟨manufacturer, hmanufacturer, slice_flatten 3 rfl (by simp) (by simp)⟩
      category := ⟨category, hcategory, slice_flatten 4 rfl (by simp) (by simp)⟩
      control := ⟨control, hcontrol, slice_flatten 5 rfl (by simp) (by simp)⟩ }

theorem encodeLaunch_interns :
    Interns (encodeLaunch plan) fun bytes launch =>
      launch.length = NAVPACK_LAUNCH_BYTES ∧ LaunchAt launch bytes 0 plan := by
  refine (interns_bind (intern_interns plan.launchRef) fun launchRef =>
    interns_bind (intern_interns plan.title) fun title =>
    interns_bind (intern_interns plan.systemId) fun systemId =>
    interns_bind (intern_interns plan.corePath) fun corePath =>
    interns_bind (intern_interns plan.payloadPath) fun payloadPath =>
    interns_bind (intern_interns plan.mountKind) fun mountKind =>
    interns_pure _).mono fun bytes launch h => ?_
  obtain ⟨launchRef, hlaunchRef, title, htitle, systemId, hsystemId, corePath, hcorePath,
    payloadPath, hpayloadPath, mountKind, hmountKind, rfl⟩ := h
  refine ⟨by simp; rfl, ?_⟩
  exact
    { launchRef := ⟨launchRef, hlaunchRef, slice_flatten 0 rfl (by simp) (by simp)⟩
      title := ⟨title, htitle, slice_flatten 1 rfl (by simp) (by simp)⟩
      systemId := ⟨systemId, hsystemId, slice_flatten 2 rfl (by simp) (by simp)⟩
      corePath := ⟨corePath, hcorePath, slice_flatten 3 rfl (by simp) (by simp)⟩
      payloadPath := ⟨payloadPath, hpayloadPath, slice_flatten 4 rfl (by simp) (by simp)⟩
      mountKind := ⟨mountKind, hmountKind, slice_flatten 5 rfl (by simp) (by simp)⟩
      mountIndex := ⟨plan.mountIndex.toNat_lt, slice_flatten 6 rfl (by simp) (by simp)⟩
      delaySecs := ⟨plan.delaySecs.toNat_lt, slice_flatten 7 rfl (by simp) (by simp)⟩ }

end Records

/-! ## 4. The loop over the games -/

/-- A row's launch plan, under the index it names. -/
def PlanAt (tables : Tables) (bytes : List UInt8) (launchIndex : Nat) :
    Option SystemLaunchPlan → Prop
  | none => launchIndex = NONE_U32
  | some plan => launchIndex < tables.nextLaunch ∧
      LaunchAt tables.launches bytes (launchIndex * NAVPACK_LAUNCH_BYTES) plan

/-- What the tables hold of one game. -/
structure GameAt (tables : Tables) (bytes : List UInt8) (i : Nat) (game : SystemGame) : Prop where
  row : ∃ launchIndex, RowAt tables.rows bytes (i * NAVPACK_ROW_BYTES) i launchIndex game ∧
    PlanAt tables bytes launchIndex game.launchPlan
  metadata : MetadataAt tables.cold bytes (i * NAVPACK_COLD_BYTES) game

/-- The games whose records have been written. -/
structure Written (tables : Tables) (bytes : List UInt8) (games : List SystemGame) : Prop where
  rowsLength : tables.rows.length = games.length * NAVPACK_ROW_BYTES
  coldLength : tables.cold.length = games.length * NAVPACK_COLD_BYTES
  launchesLength : tables.launches.length = tables.nextLaunch * NAVPACK_LAUNCH_BYTES
  launchCount : tables.nextLaunch = games.countP fun game => game.launchPlan.isSome
  nextSmall : tables.nextLaunch < 2 ^ 32
  game : ∀ i game, games[i]? = some game → GameAt tables bytes i game

section Loop

variable {tables tables' : Tables} {bytes : List UInt8} {games : List SystemGame}
  {game : SystemGame} {i launchIndex : Nat}

theorem written_nil (bytes : List UInt8) : Written ⟨[], [], [], 0⟩ bytes [] where
  rowsLength := rfl
  coldLength := rfl
  launchesLength := rfl
  launchCount := rfl
  nextSmall := by decide
  game := fun i game h => by simp at h

/-- Records stay where they are when more are appended. -/
theorem GameAt.append {row metadata launch : List UInt8} {next : Nat}
    (h : GameAt tables bytes i game) (hnext : tables.nextLaunch ≤ next) :
    GameAt ⟨tables.rows ++ row, tables.cold ++ metadata, tables.launches ++ launch, next⟩ bytes i
      game where
  row := by
    obtain ⟨launchIndex, hrow, hplan⟩ := h.row
    refine ⟨launchIndex, ?_, ?_⟩
    · have hrow' := hrow.within (within_left tables.rows row)
      rw [Nat.zero_add] at hrow'
      exact hrow'
    · cases hgame : game.launchPlan with
      | none =>
          rw [hgame] at hplan
          exact hplan
      | some plan =>
          rw [hgame] at hplan
          have hlaunch := hplan.2.within (within_left tables.launches launch)
          rw [Nat.zero_add] at hlaunch
          exact ⟨Nat.lt_of_lt_of_le hplan.1 hnext, hlaunch⟩
  metadata := by
    have hmetadata := h.metadata.within (within_left tables.cold metadata)
    rw [Nat.zero_add] at hmetadata
    exact hmetadata

/-- A record appended to a table of records. -/
theorem within_next {table record : List UInt8} {size count : Nat}
    (h : table.length = count * size) : Within record (count * size) (table ++ record) := by
  rw [← h]
  exact within_right table record

/-- One more game is written. -/
theorem Written.snoc {row metadata : List UInt8} (launch : List UInt8) (next : Nat)
    (game : SystemGame) (h : Written tables bytes games) (hrow : row.length = NAVPACK_ROW_BYTES)
    (hmetadata : metadata.length = NAVPACK_COLD_BYTES)
    (hlaunch : tables.nextLaunch * NAVPACK_LAUNCH_BYTES + launch.length =
      next * NAVPACK_LAUNCH_BYTES)
    (hcount : next = tables.nextLaunch + if game.launchPlan.isSome then 1 else 0)
    (hsmall : next < 2 ^ 32)
    (hgame : GameAt ⟨tables.rows ++ row, tables.cold ++ metadata, tables.launches ++ launch, next⟩
      bytes games.length game) :
    Written ⟨tables.rows ++ row, tables.cold ++ metadata, tables.launches ++ launch, next⟩ bytes
      (games ++ [game]) where
  rowsLength := by
    rw [List.length_append, List.length_append, h.rowsLength, hrow, List.length_singleton,
      Nat.succ_mul]
  coldLength := by
    rw [List.length_append, List.length_append, h.coldLength, hmetadata, List.length_singleton,
      Nat.succ_mul]
  launchesLength := by rw [List.length_append, h.launchesLength, hlaunch]
  launchCount := by rw [List.countP_append, ← h.launchCount, List.countP_singleton, hcount]
  nextSmall := hsmall
  game := fun i other hother => by
    rcases Nat.lt_or_ge i games.length with hlt | hge
    · rw [List.getElem?_append_left hlt] at hother
      exact (h.game i other hother).append (by omega)
    · rw [List.getElem?_append_right hge] at hother
      obtain ⟨hlt, heq⟩ := List.getElem?_eq_some_iff.1 hother
      rw [List.length_singleton] at hlt
      obtain rfl : i = games.length := by omega
      rw [List.getElem_singleton] at heq
      rw [← heq]
      exact hgame

theorem encodeBareGame_interns (game : SystemGame) (ordinal : Nat)
    (hplan : game.launchPlan = none) :
    Interns (encodeBareGame tables ordinal game) fun bytes tables' => ∀ done : List SystemGame,
      done.length = ordinal → Written tables bytes done →
        Written tables' bytes (done ++ [game]) := by
  refine (interns_bind (encodeRow_interns game) fun row =>
    interns_bind (encodeMetadata_interns game) fun metadata => interns_pure _).mono
      fun bytes tables' h => ?_
  obtain ⟨row, ⟨hrowLength, hrow⟩, metadata, ⟨hmetadataLength, hmetadata⟩, rfl⟩ := h
  intro done hdone hwritten
  subst hdone
  have hnew := hwritten.snoc [] tables.nextLaunch game hrowLength hmetadataLength rfl
    (by rw [hplan]; rfl) hwritten.nextSmall
  rw [List.append_nil] at hnew
  refine hnew ⟨⟨NONE_U32, (hrow (by decide)).within (within_next hwritten.rowsLength), ?_⟩,
    hmetadata.within (within_next hwritten.coldLength)⟩
  rw [hplan]
  rfl

theorem encodePlannedGame_interns (game : SystemGame) (plan : SystemLaunchPlan) (ordinal : Nat)
    (hplan : game.launchPlan = some plan) :
    Interns (encodePlannedGame tables ordinal game plan) fun bytes tables' =>
      ∀ done : List SystemGame, done.length = ordinal → Written tables bytes done →
        Written tables' bytes (done ++ [game]) := by
  refine (interns_bind (encodeRow_interns game) fun row =>
    interns_bind (interns_lift _) fun _ =>
    interns_bind (encodeMetadata_interns game) fun metadata =>
    interns_bind (encodeLaunch_interns plan) fun launch => interns_pure _).mono
      fun bytes tables' h => ?_
  obtain ⟨row, ⟨hrowLength, hrow⟩, _, hcheck, metadata, ⟨hmetadataLength, hmetadata⟩, launch,
    ⟨hlaunchLength, hlaunch⟩, rfl⟩ := h
  have hnext : tables.nextLaunch + 1 < 2 ^ 32 := of_decide_eq_true (check_ok.1 hcheck)
  intro done hdone hwritten
  subst hdone
  refine hwritten.snoc launch (tables.nextLaunch + 1) game hrowLength hmetadataLength
    (by rw [hlaunchLength, Nat.succ_mul]) (by rw [hplan]; rfl) hnext ?_
  refine ⟨⟨tables.nextLaunch, (hrow (by omega)).within (within_next hwritten.rowsLength), ?_⟩,
    hmetadata.within (within_next hwritten.coldLength)⟩
  rw [hplan]
  exact ⟨Nat.lt_succ_self _, hlaunch.within (within_next hwritten.launchesLength)⟩

theorem encodeGame_interns (game : SystemGame) (ordinal : Nat) :
    Interns (encodeGame tables ordinal game) fun bytes tables' => ∀ done : List SystemGame,
      done.length = ordinal → Written tables bytes done →
        Written tables' bytes (done ++ [game]) := by
  unfold encodeGame
  cases hplan : game.launchPlan with
  | none => exact encodeBareGame_interns game ordinal hplan
  | some plan => exact encodePlannedGame_interns game plan ordinal hplan

/-- **After the loop every game has its records.** -/
theorem encodeGames_interns (games : List SystemGame) (ordinal : Nat) (tables : Tables) :
    Interns (encodeGames ordinal games tables) fun bytes tables' => ∀ done : List SystemGame,
      done.length = ordinal → Written tables bytes done →
        Written tables' bytes (done ++ games) := by
  induction games generalizing ordinal tables with
  | nil =>
      refine (interns_pure tables).mono fun bytes tables' h done _ hwritten => ?_
      rw [h, List.append_nil]
      exact hwritten
  | cons game games ih =>
      refine (interns_bind (encodeGame_interns game ordinal) fun mid =>
        ih (ordinal + 1) mid).mono fun bytes tables' h done hdone hwritten => ?_
      obtain ⟨mid, hgame, hgames⟩ := h
      have hmid := hgames (done ++ [game]) (by simp [hdone]) (hgame done hdone hwritten)
      rw [List.append_assoc, List.singleton_append] at hmid
      exact hmid

end Loop

/-! ## 5. The index section -/

def plainOrdinals (ordinals : List UInt32) : List Nat := ordinals.map UInt32.toNat

/-- A spelled posting of a posted key. -/
structure PostingOf {ι κ : Type} (KeyOf : ι → κ → Prop) (posting : ι × List Nat)
    (group : κ × List UInt32) : Prop where
  key : KeyOf posting.1 group.1
  ordinals : posting.2 = plainOrdinals group.2
  small : SmallOrdinals posting.2

/-- A spelled table of a posted one. -/
structure TableOf {ι κ : Type} (KeyOf : ι → κ → Prop) (postings : List (ι × List Nat))
    (groups : List (κ × List UInt32)) : Prop where
  small : Small postings.length
  postings : List.Forall₂ (PostingOf KeyOf) postings groups

section Indexes

variable {ι κ : Type} {ordinals : List UInt32} {raw : List UInt8}

theorem encodeOrdinals_spelled (h : encodeOrdinals ordinals = .ok raw) :
    SmallOrdinals (plainOrdinals ordinals) ∧ raw = spellOrdinals (plainOrdinals ordinals) := by
  obtain ⟨_, hcount, h⟩ := reads_bind_ok.1 h
  cases h
  have hlength : (plainOrdinals ordinals).length = ordinals.length := List.length_map _
  refine ⟨⟨?_, fun ordinal hordinal => ?_⟩, ?_⟩
  · rw [hlength]
    exact of_decide_eq_true (check_ok.1 hcount)
  · obtain ⟨value, -, rfl⟩ := List.mem_map.1 hordinal
    exact value.toNat_lt
  · unfold spellOrdinals spellCounted putOrdinals
    rw [hlength, plainOrdinals, List.flatMap_map]

variable {encodeKey : κ → Interning (List UInt8)} {KeyOf : List UInt8 → ι → κ → Prop}
  {spellKey : ι → List UInt8}

theorem encodeGroups_interns
    (hkey : ∀ key, Interns (encodeKey key) fun bytes raw =>
      ∃ k, KeyOf bytes k key ∧ raw = spellKey k) (groups : List (κ × List UInt32)) :
    Interns (encodeGroups encodeKey groups) fun bytes raw => ∃ postings : List (ι × List Nat),
      List.Forall₂ (PostingOf (KeyOf bytes)) postings groups ∧
        raw = postings.flatMap fun posting => spellKey posting.1 ++ spellOrdinals posting.2 := by
  induction groups with
  | nil => exact (interns_pure []).mono fun bytes raw h => ⟨[], List.Forall₂.nil, h⟩
  | cons group groups ih =>
      obtain ⟨key, ordinals⟩ := group
      refine (interns_bind (hkey key) fun rawKey => interns_bind (interns_lift _) fun list =>
        interns_bind ih fun rest => interns_pure _).mono fun bytes raw h => ?_
      obtain ⟨rawKey, ⟨k, hk, rfl⟩, list, hlist, rest, ⟨postings, hpostings, rfl⟩, rfl⟩ := h
      obtain ⟨hsmall, rfl⟩ := encodeOrdinals_spelled hlist
      exact ⟨(k, plainOrdinals ordinals) :: postings,
        List.Forall₂.cons ⟨hk, rfl, hsmall⟩ hpostings, by rw [List.flatMap_cons]⟩

theorem encodePostings_interns
    (hkey : ∀ key, Interns (encodeKey key) fun bytes raw =>
      ∃ k, KeyOf bytes k key ∧ raw = spellKey k) (groups : List (κ × List UInt32)) :
    Interns (encodePostings encodeKey groups) fun bytes raw => ∃ postings : List (ι × List Nat),
      TableOf (KeyOf bytes) postings groups ∧ raw = spellCounted 4
        (fun posting => spellKey posting.1 ++ spellOrdinals posting.2) postings := by
  refine (interns_bind (interns_lift _) fun _ => interns_bind (encodeGroups_interns hkey groups)
    fun raw => interns_pure _).mono fun bytes raw h => ?_
  obtain ⟨_, hcount, raw, ⟨postings, hpostings, rfl⟩, rfl⟩ := h
  have hlength : postings.length = groups.length := hpostings.length_eq
  refine ⟨postings, ⟨?_, hpostings⟩, ?_⟩
  · rw [hlength]
    exact of_decide_eq_true (check_ok.1 hcount)
  · rw [spellCounted, hlength]

theorem encodeStringPostings_interns (groups : List (String × List UInt32)) :
    Interns (encodeStringPostings groups) fun bytes raw => ∃ postings,
      TableOf (Refers bytes) postings groups ∧ raw = spellCounted 4 spellStringPosting postings :=
  encodePostings_interns (fun value => (interns_bind (intern_interns value) fun reference =>
    interns_pure (spellRef reference)).mono fun _ _ h => h) groups

theorem encodeU16Postings_interns (groups : List (UInt16 × List UInt32)) :
    Interns (encodeU16Postings groups) fun _ raw => ∃ postings,
      TableOf (fun k key => k = UInt16.toNat key) postings groups ∧
        raw = spellCounted 4 spellNumericPosting postings :=
  encodePostings_interns (fun value => (interns_pure _).mono fun _ _ h =>
    ⟨value.toNat, rfl, h.trans (leBytes_append 2 value.toNat_lt)⟩) groups

theorem encodeU8Postings_interns (groups : List (UInt8 × List UInt32)) :
    Interns (encodeU8Postings groups) fun _ raw => ∃ postings,
      TableOf (fun k key => k = UInt8.toNat key) postings groups ∧
        raw = spellCounted 4 spellNumericPosting postings :=
  encodePostings_interns (fun value => (interns_pure _).mono fun _ _ h =>
    ⟨value.toNat, rfl, h.trans (leBytes_append 3 value.toNat_lt)⟩) groups

/-- The tables that are spelled, of the indexes. -/
structure TablesOf (bytes : List UInt8) (tables : IndexTables)
    (indexes : SystemNavigationIndexes) : Prop where
  titleOrdinals : SmallOrdinals tables.titleOrdinals
  previewOrdinals : SmallOrdinals tables.previewOrdinals
  launchOrdinals : SmallOrdinals tables.launchOrdinals
  categories : TableOf (Refers bytes) tables.categories indexes.categories
  decades : TableOf (fun k key => k = UInt16.toNat key) tables.decades indexes.decades
  manufacturers : TableOf (Refers bytes) tables.manufacturers indexes.manufacturers
  players : TableOf (fun k key => k = UInt8.toNat key) tables.players indexes.players
  controls : TableOf (Refers bytes) tables.controls indexes.controls

/-- **The index section is spelled from the tables of the indexes.** -/
theorem encodeIndexes_interns (indexes : SystemNavigationIndexes) :
    Interns (encodeIndexes indexes) fun bytes raw => ∃ tables,
      TablesOf bytes tables indexes ∧ raw = tables.spell := by
  refine (interns_bind (interns_lift _) fun titles => interns_bind (interns_lift _) fun previews =>
    interns_bind (interns_lift _) fun launches =>
    interns_bind (encodeStringPostings_interns indexes.categories) fun categories =>
    interns_bind (encodeU16Postings_interns indexes.decades) fun decades =>
    interns_bind (encodeStringPostings_interns indexes.manufacturers) fun manufacturers =>
    interns_bind (encodeU8Postings_interns indexes.players) fun players =>
    interns_bind (encodeStringPostings_interns indexes.controls) fun controls =>
    interns_pure _).mono fun bytes raw h => ?_
  obtain ⟨_, htitles, _, hpreviews, _, hlaunches, _, ⟨categories, hcategories, rfl⟩, _,
    ⟨decades, hdecades, rfl⟩, _, ⟨manufacturers, hmanufacturers, rfl⟩, _,
    ⟨players, hplayers, rfl⟩, _, ⟨controls, hcontrols, rfl⟩, rfl⟩ := h
  obtain ⟨hsmallTitles, rfl⟩ := encodeOrdinals_spelled htitles
  obtain ⟨hsmallPreviews, rfl⟩ := encodeOrdinals_spelled hpreviews
  obtain ⟨hsmallLaunches, rfl⟩ := encodeOrdinals_spelled hlaunches
  refine ⟨⟨plainOrdinals indexes.titleOrdinals, plainOrdinals indexes.previewOrdinals,
    plainOrdinals indexes.launchOrdinals, categories, decades, manufacturers, players, controls⟩,
    ⟨hsmallTitles, hsmallPreviews, hsmallLaunches, hcategories, hdecades, hmanufacturers, hplayers,
      hcontrols⟩, ?_⟩
  rw [IndexTables.spell, List.append_nil]

end Indexes

/-! ## 6. Posted keys rise -/

/-- The keys of a table rise. -/
def RisingKeys {κ : Type} (lt : κ → κ → Bool) (groups : List (κ × List UInt32)) : Prop :=
  (groups.map (·.1)).Pairwise fun a b => lt a b = true

section Posting

variable {κ : Type} [DecidableEq κ] {lt : κ → κ → Bool} {key : κ} {ordinal : UInt32}
  {groups : List (κ × List UInt32)}

theorem mem_post {k : κ} (h : k ∈ (post lt key ordinal groups).map (·.1)) :
    k = key ∨ k ∈ groups.map (·.1) := by
  induction groups with
  | nil => exact Or.inl (by simpa [post] using h)
  | cons group groups ih =>
      obtain ⟨k', ordinals⟩ := group
      rw [post] at h
      by_cases hkey : k' = key
      · rw [if_pos hkey] at h
        exact Or.inr h
      · rw [if_neg hkey] at h
        by_cases hlt : lt key k' = true
        · rw [if_pos hlt] at h
          exact (List.mem_cons.1 h).imp id id
        · rw [if_neg hlt, List.map_cons] at h
          rcases List.mem_cons.1 h with rfl | h
          · exact Or.inr List.mem_cons_self
          · exact (ih h).imp id fun hmem => List.mem_cons_of_mem _ hmem

theorem post_rising (htrans : ∀ a b c, lt a b → lt b c → lt a c)
    (htotal : ∀ a b, lt a b = false → b ≠ a → lt b a = true) (h : RisingKeys lt groups) :
    RisingKeys lt (post lt key ordinal groups) := by
  induction groups with
  | nil => exact List.pairwise_singleton _ _
  | cons group groups ih =>
      obtain ⟨k, ordinals⟩ := group
      obtain ⟨hhead, htail⟩ := List.pairwise_cons.1 h
      unfold RisingKeys
      rw [post]
      by_cases hkey : k = key
      · rw [if_pos hkey]
        exact List.pairwise_cons.2 ⟨hhead, htail⟩
      · rw [if_neg hkey]
        by_cases hlt : lt key k = true
        · rw [if_pos hlt]
          refine List.pairwise_cons.2 ⟨fun k' hk' => ?_, h⟩
          rcases List.mem_cons.1 hk' with rfl | hk'
          · exact hlt
          · exact htrans _ _ _ hlt (hhead k' hk')
        · rw [if_neg hlt]
          refine List.pairwise_cons.2 ⟨fun k' hk' => ?_, ih htail⟩
          rcases mem_post hk' with rfl | hk'
          · exact htotal _ _ (Bool.eq_false_iff.2 hlt) hkey
          · exact hhead k' hk'

end Posting

/-- The keys of every table of the indexes rise. -/
structure SystemNavigationIndexes.Rising (indexes : SystemNavigationIndexes) : Prop where
  categories : RisingKeys strLt indexes.categories
  decades : RisingKeys (fun a b => decide (a < b)) indexes.decades
  manufacturers : RisingKeys strLt indexes.manufacturers
  players : RisingKeys (fun a b => decide (a < b)) indexes.players
  controls : RisingKeys strLt indexes.controls

section Rising

variable {indexes indexes' : SystemNavigationIndexes} {games : List SystemGame}

theorem postLabel_rising {postings : List (String × List UInt32)} (value : String)
    (ordinal : UInt32) (h : RisingKeys strLt postings) :
    RisingKeys strLt (postLabel value ordinal postings) := by
  unfold postLabel
  by_cases hblank : trim value = ""
  · rw [if_pos hblank]
    exact h
  · rw [if_neg hblank]
    refine post_rising (fun _ _ _ => strLt_trans) (fun a b hab hne => ?_) h
    by_contra hba
    exact hne (strLt_total (Bool.eq_false_iff.2 hba) hab)

theorem postYear_rising {postings : List (UInt16 × List UInt32)} (decade : UInt16)
    (ordinal : UInt32) (h : RisingKeys (fun a b => decide (a < b)) postings) :
    RisingKeys (fun a b => decide (a < b))
      (post (fun a b => decide (a < b)) decade ordinal postings) := by
  refine post_rising (fun a b c hab hbc => ?_) (fun a b hab hne => ?_) h
  · exact decide_eq_true (UInt16.lt_trans (of_decide_eq_true hab) (of_decide_eq_true hbc))
  · exact decide_eq_true
      (UInt16.lt_of_le_of_ne (UInt16.not_lt.1 (of_decide_eq_false hab)) hne)

theorem postPlayers_rising {postings : List (UInt8 × List UInt32)} (count : UInt8)
    (ordinal : UInt32) (h : RisingKeys (fun a b => decide (a < b)) postings) :
    RisingKeys (fun a b => decide (a < b))
      (post (fun a b => decide (a < b)) count ordinal postings) := by
  refine post_rising (fun a b c hab hbc => ?_) (fun a b hab hne => ?_) h
  · exact decide_eq_true (UInt8.lt_trans (of_decide_eq_true hab) (of_decide_eq_true hbc))
  · exact decide_eq_true
      (UInt8.lt_of_le_of_ne (UInt8.not_lt.1 (of_decide_eq_false hab)) hne)

theorem indexGame_rising (ordinal : UInt32) (game : SystemGame) (h : indexes.Rising) :
    (indexGame indexes ordinal game).Rising where
  categories := by
    simp only [indexGame]
    exact postLabel_rising game.category ordinal h.categories
  decades := by
    unfold indexGame
    cases game.year with
    | none => exact h.decades
    | some year => exact postYear_rising _ ordinal h.decades
  manufacturers := by
    simp only [indexGame]
    exact postLabel_rising game.manufacturer ordinal h.manufacturers
  players := by
    unfold indexGame
    cases game.players with
    | none => exact h.players
    | some players => exact postPlayers_rising players ordinal h.players
  controls := by
    simp only [indexGame]
    exact postLabel_rising game.control ordinal h.controls

theorem indexGames_rising {i : Nat} (h : indexGames i games indexes = .ok indexes')
    (hrising : indexes.Rising) : indexes'.Rising := by
  induction games generalizing i indexes with
  | nil =>
      cases h
      exact hrising
  | cons game games ih =>
      obtain ⟨ordinal, -, h⟩ := reads_bind_ok.1 h
      exact ih h (indexGame_rising ordinal game hrising)

/-- **The keys of built indexes rise.** -/
theorem buildNavigationIndexes_rising {sort : {α : Type} → (α → α → Bool) → List α → List α}
    (h : buildNavigationIndexes sort games = .ok indexes) : indexes.Rising := by
  obtain ⟨posted, hposted, h⟩ := reads_bind_ok.1 h
  obtain ⟨titleOrdinals, -, h⟩ := reads_bind_ok.1 h
  cases h
  have hempty : RisingKeys strLt [] := List.Pairwise.nil
  have hrising := indexGames_rising hposted
    ⟨hempty, List.Pairwise.nil, hempty, List.Pairwise.nil, hempty⟩
  exact ⟨hrising.categories, hrising.decades, hrising.manufacturers, hrising.players,
    hrising.controls⟩

end Rising

end MisterMagik.Catalog
