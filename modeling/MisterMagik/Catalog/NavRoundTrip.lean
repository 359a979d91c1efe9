/-
  File:      MisterMagik/Catalog/NavRoundTrip.lean
  Subject:   What the encoder writes, the readers read.

  The year 65535 and 255 players are written as the codes for none.

  * `placed_of_laid` -- every section is in the file, under its offset;
  * `row_written`, `plan_written`, `metadata_written`, `prelude_written` -- each reader, on it;
  * `encode_round_trips` -- the pack is accepted, and exact just when no game has a code for none.
-/
import MisterMagik.Catalog.NavReading
import MisterMagik.Catalog.NavWriting
import Mathlib.Data.List.Sort

namespace MisterMagik.Catalog

open MisterMagik.Base

/-! ## 1. The sections in the file -/

/-- The sections follow one another, and their places fit 64 bits. -/
structure Laid (contents : Contents) (offsets : Offsets) : Prop where
  rows : NAVPACK_HEADER_BYTES + contents.prelude.length ≤ offsets.rows
  cold : offsets.rows + contents.rows.length ≤ offsets.cold
  launches : offsets.cold + contents.cold.length ≤ offsets.launches
  indexes : offsets.launches + contents.launches.length ≤ offsets.indexes
  strings : offsets.indexes + contents.indexes.length ≤ offsets.strings
  total : offsets.total = offsets.strings + contents.strings.length
  small : offsets.total < 2 ^ 64

/-- The file holds the header and the sections. -/
structure Placed (output header : List UInt8) (contents : Contents) (offsets : Offsets) : Prop where
  header : slice output 0 header.length = some header
  prelude : slice output NAVPACK_HEADER_BYTES contents.prelude.length = some contents.prelude
  rows : slice output offsets.rows contents.rows.length = some contents.rows
  cold : slice output offsets.cold contents.cold.length = some contents.cold
  launches : slice output offsets.launches contents.launches.length = some contents.launches
  indexes : slice output offsets.indexes contents.indexes.length = some contents.indexes
  strings : slice output offsets.strings contents.strings.length = some contents.strings

section Layout

variable {contents : Contents} {offsets : Offsets} {header : List UInt8}

theorem alignedAfter_le {offset length next : Nat} (h : alignedAfter offset length = .ok next) :
    offset + length ≤ next := by
  obtain ⟨_, -, h⟩ := reads_bind_ok.1 h
  cases h
  omega

theorem laid_of_layOut (h : layOut contents = .ok offsets) : Laid contents offsets := by
  obtain ⟨rows, hrows, h⟩ := reads_bind_ok.1 h
  obtain ⟨cold, hcold, h⟩ := reads_bind_ok.1 h
  obtain ⟨launches, hlaunches, h⟩ := reads_bind_ok.1 h
  obtain ⟨indexes, hindexes, h⟩ := reads_bind_ok.1 h
  obtain ⟨strings, hstrings, h⟩ := reads_bind_ok.1 h
  obtain ⟨_, htotal, h⟩ := reads_bind_ok.1 h
  cases h
  exact ⟨alignedAfter_le hrows, alignedAfter_le hcold, alignedAfter_le hlaunches,
    alignedAfter_le hindexes, alignedAfter_le hstrings, rfl,
    of_decide_eq_true (check_ok.1 htotal)⟩

/-- What is copied into the file, in that order. -/
def fileWrites (header : List UInt8) (contents : Contents) (offsets : Offsets) :
    List (Nat × List UInt8) :=
  [(NAVPACK_HEADER_BYTES, contents.prelude), (offsets.rows, contents.rows),
    (offsets.cold, contents.cold), (offsets.launches, contents.launches),
    (offsets.indexes, contents.indexes), (offsets.strings, contents.strings), (0, header)]

/-- **Every section is in the file.** -/
theorem placed_of_laid (h : Laid contents offsets)
    (hheader : header.length = NAVPACK_HEADER_BYTES) :
    Placed (writeFile header contents offsets) header contents offsets := by
  have hrows := h.rows
  have hcold := h.cold
  have hlaunches := h.launches
  have hindexes := h.indexes
  have hstrings := h.strings
  have htotal := h.total
  have hfits : ∀ write ∈ fileWrites header contents offsets,
      write.1 + write.2.length ≤ (List.replicate offsets.total (0 : UInt8)).length := by
    rw [List.length_replicate]
    simp only [fileWrites, List.forall_mem_cons, hheader]
    refine ⟨?_, ?_, ?_, ?_, ?_, ?_, ?_, fun _ hnone => absurd hnone List.not_mem_nil⟩ <;> omega
  have hapart : (fileWrites header contents offsets).Pairwise Apart := by
    simp only [fileWrites, List.pairwise_cons, List.forall_mem_cons, Apart, hheader,
      List.not_mem_nil, false_imp_iff, forall_const, List.Pairwise.nil, and_true]
    and_intros <;> omega
  have hslice : ∀ write ∈ fileWrites header contents offsets,
      slice (writeFile header contents offsets) write.1 write.2.length = some write.2 :=
    fun write hwrite => slice_overwriteAll hfits hapart hwrite
  exact
    { prelude := hslice (NAVPACK_HEADER_BYTES, contents.prelude) (by simp [fileWrites])
      rows := hslice (offsets.rows, contents.rows) (by simp [fileWrites])
      cold := hslice (offsets.cold, contents.cold) (by simp [fileWrites])
      launches := hslice (offsets.launches, contents.launches) (by simp [fileWrites])
      indexes := hslice (offsets.indexes, contents.indexes) (by simp [fileWrites])
      strings := hslice (offsets.strings, contents.strings) (by simp [fileWrites])
      header := hslice (0, header) (by simp [fileWrites]) }

end Layout

/-! ## 2. The header -/

section Header

variable {bytes output header : List UInt8} {contents : Contents} {offsets : Offsets}
  {generation gameCount launchCount start length offset width value : Nat}
  {systemRef place : Nat × Nat} {truncated : String}

theorem readLe_at (h : NumberAt bytes offset width value) :
    readLe width truncated bytes offset = .ok value := readLe_eq h.2 h.1

theorem readSection_eq (hstart : NumberAt bytes offset 8 start)
    (hlength : NumberAt bytes (offset + 8) 8 length) (h : readSection bytes offset = .ok place) :
    place = (start, length) := by
  obtain ⟨start', hstart', h⟩ := reads_bind_ok.1 h
  obtain ⟨length', hlength', h⟩ := reads_bind_ok.1 h
  obtain ⟨_, -, h⟩ := reads_bind_ok.1 h
  cases h
  obtain rfl : start' = start := Except.ok.inj (hstart'.symm.trans (readLe_at hstart))
  obtain rfl : length' = length := Except.ok.inj (hlength'.symm.trans (readLe_at hlength))
  rfl

@[simp] theorem length_MAGIC : MAGIC.length = 8 := by decide +kernel

@[simp] theorem length_PRELUDE_MAGIC : PRELUDE_MAGIC.length = 8 := by decide +kernel

theorem length_encodeHeader : (encodeHeader generation gameCount launchCount systemRef contents
    offsets).length = NAVPACK_HEADER_BYTES := by
  simp [encodeHeader]
  rfl

/-- The sections that the header of a laid-out file names. -/
def sectionsOf (contents : Contents) (offsets : Offsets) : Sections where
  rows := (offsets.rows, contents.rows.length)
  cold := (offsets.cold, contents.cold.length)
  launches := (offsets.launches, contents.launches.length)
  indexes := (offsets.indexes, contents.indexes.length)
  strings := (offsets.strings, contents.strings.length)

/-- A number of the header, in the file. -/
theorem header_number (hlt : value < 256 ^ width)
    (hheader : slice output 0 (encodeHeader generation gameCount launchCount systemRef contents
      offsets).length = some (encodeHeader generation gameCount launchCount systemRef contents
      offsets))
    (hslice : slice (encodeHeader generation gameCount launchCount systemRef contents offsets)
      offset width = some (leBytes width value)) : NumberAt output offset width value := by
  refine ⟨hlt, ?_⟩
  have h := (within_slice hheader).slice hslice
  rw [Nat.zero_add] at h
  exact h

/-- What an accepted header says of the file. -/
theorem validateHeader_parts {systemId : String} {generation games : Nat} {header : CheckedHeader}
    (h : validateHeader bytes systemId generation games = .ok header) :
    readU32 bytes 44 = .ok header.identity.launches ∧ header.identity.games = games ∧
      readSections bytes = .ok header.sections ∧ readSection bytes 136 = .ok header.prelude := by
  obtain ⟨_, -, h⟩ := reads_bind_ok.1 h
  obtain ⟨launches, hlaunches, h⟩ := reads_bind_ok.1 h
  obtain ⟨sections, hsections, h⟩ := reads_bind_ok.1 h
  obtain ⟨prelude, hprelude, h⟩ := reads_bind_ok.1 h
  obtain ⟨_, -, h⟩ := reads_bind_ok.1 h
  obtain ⟨_, -, h⟩ := reads_bind_ok.1 h
  obtain ⟨_, -, h⟩ := reads_bind_ok.1 h
  obtain ⟨_, -, h⟩ := reads_bind_ok.1 h
  cases h
  obtain ⟨_, -, hlaunches⟩ := reads_bind_ok.1 hlaunches
  obtain ⟨_, -, hlaunches⟩ := reads_bind_ok.1 hlaunches
  obtain ⟨launches', hread, hlaunches⟩ := reads_bind_ok.1 hlaunches
  obtain ⟨_, -, hlaunches⟩ := reads_bind_ok.1 hlaunches
  cases hlaunches
  obtain ⟨place, hplace, hprelude⟩ := reads_bind_ok.1 hprelude
  obtain ⟨_, -, hprelude⟩ := reads_bind_ok.1 hprelude
  obtain ⟨_, -, hprelude⟩ := reads_bind_ok.1 hprelude
  obtain ⟨_, -, hprelude⟩ := reads_bind_ok.1 hprelude
  cases hprelude
  exact ⟨hread, rfl, hsections, hplace⟩

/-- **An accepted header of a laid-out file names its sections.** -/
theorem header_matches {systemId : String} {games : Nat} {checked : CheckedHeader}
    (hlaid : Laid contents offsets) (hcount : Small launchCount)
    (hplaced : Placed output (encodeHeader generation gameCount launchCount systemRef contents
      offsets) contents offsets)
    (h : validateHeader output systemId generation games = .ok checked) :
    checked.identity.games = games ∧ checked.identity.launches = launchCount ∧
      checked.sections = sectionsOf contents offsets ∧
      checked.prelude = (NAVPACK_HEADER_BYTES, contents.prelude.length) := by
  obtain ⟨hlaunches, hgames, hsections, hprelude⟩ := validateHeader_parts h
  have hheader := hplaced.header
  have hrows := hlaid.rows
  have hcold := hlaid.cold
  have hplans := hlaid.launches
  have hindexes := hlaid.indexes
  have hstrings := hlaid.strings
  have htotal := hlaid.total
  have hsmall := hlaid.small
  refine ⟨hgames, ?_, ?_, ?_⟩
  · have hnumber : NumberAt output 44 4 launchCount :=
      header_number hcount hheader (slice_flatten 9 rfl (by simp) (by simp))
    exact Except.ok.inj (hlaunches.symm.trans (readLe_at hnumber))
  · obtain ⟨rows, h1, hsections⟩ := reads_bind_ok.1 hsections
    obtain ⟨cold, h2, hsections⟩ := reads_bind_ok.1 hsections
    obtain ⟨launches, h3, hsections⟩ := reads_bind_ok.1 hsections
    obtain ⟨indexes, h4, hsections⟩ := reads_bind_ok.1 hsections
    obtain ⟨strings, h5, hsections⟩ := reads_bind_ok.1 hsections
    have hall := Except.ok.inj hsections
    have e1 : rows = (offsets.rows, contents.rows.length) := readSection_eq
      (header_number (by omega) hheader (slice_flatten 11 rfl (by simp) (by simp)))
      (header_number (by omega) hheader (slice_flatten 12 rfl (by simp) (by simp))) h1
    have e2 : cold = (offsets.cold, contents.cold.length) := readSection_eq
      (header_number (by omega) hheader (slice_flatten 13 rfl (by simp) (by simp)))
      (header_number (by omega) hheader (slice_flatten 14 rfl (by simp) (by simp))) h2
    have e3 : launches = (offsets.launches, contents.launches.length) := readSection_eq
      (header_number (by omega) hheader (slice_flatten 15 rfl (by simp) (by simp)))
      (header_number (by omega) hheader (slice_flatten 16 rfl (by simp) (by simp))) h3
    have e4 : indexes = (offsets.indexes, contents.indexes.length) := readSection_eq
      (header_number (by omega) hheader (slice_flatten 17 rfl (by simp) (by simp)))
      (header_number (by omega) hheader (slice_flatten 18 rfl (by simp) (by simp))) h4
    have e5 : strings = (offsets.strings, contents.strings.length) := readSection_eq
      (header_number (by omega) hheader (slice_flatten 19 rfl (by simp) (by simp)))
      (header_number (by omega) hheader (slice_flatten 20 rfl (by simp) (by simp))) h5
    rw [← hall, e1, e2, e3, e4, e5]
    rfl
  · exact readSection_eq
      (header_number (by decide) hheader (slice_flatten 21 rfl (by simp) (by simp)))
      (header_number (by omega) hheader (slice_flatten 22 rfl (by simp) (by simp))) hprelude

end Header

/-! ## 3. Records -/

/-- The row of a game, with the launch plan it names. -/
def rowOf (game : SystemGame) (launchIndex : Option Nat) : NavPackRow where
  title := game.title
  launchRef := game.launchRef
  previewArchivePath := game.previewArchivePath
  previewAssetKey := game.previewAssetKey
  hasPreview := game.hasPreview
  isNew := game.isNew
  launchIndex := launchIndex

def metadataOf (game : SystemGame) : NavPackMetadata where
  year := game.year.map UInt16.toNat
  manufacturer := game.manufacturer
  category := game.category
  players := game.players.map UInt8.toNat
  control := game.control

def launchOf (plan : SystemLaunchPlan) : NavPackLaunch where
  launchRef := plan.launchRef
  title := plan.title
  systemId := plan.systemId
  corePath := plan.corePath
  payloadPath := plan.payloadPath
  mountKind := plan.mountKind
  mountIndex := plan.mountIndex.toNat
  delaySecs := plan.delaySecs.toNat

/-- What is read of a code. -/
def decoded (code none' : Nat) : Option Nat := if code = none' then none else some code

/-- The metadata that is read of a game: the codes for none are none. -/
def readMetadata (game : SystemGame) : NavPackMetadata :=
  { metadataOf game with
    year := decoded (yearCode game.year) NONE_U16
    players := decoded (playersCode game.players) NONE_U8 }

section Records

variable {pack : MappedNavPack} {bytes strings table : List UInt8} {tables : Tables}
  {offset i launchIndex : Nat} {game : SystemGame} {plan : SystemLaunchPlan} {value : String}
  {reference : Nat × Nat}

theorem readString_refers (h : Refers strings reference value) :
    readString strings reference = .ok value := by
  refine reads_bind_ok.2 ⟨utf8 value, get_ok.2 h.text, ?_⟩
  unfold text
  rw [utf8?_utf8]

/-- A text that was interned is read. -/
theorem readText_at (h : TextAt table strings offset value) :
    readText table strings offset = .ok value := by
  obtain ⟨reference, hrefers, hslice⟩ := h
  have hfirst : slice (spellRef reference) 0 4 = some (leBytes 4 reference.1) := by
    have hall := slice_all (leBytes 4 reference.1)
    rw [length_leBytes] at hall
    exact slice_append_left hall
  have hsecond : slice (spellRef reference) 4 4 = some (leBytes 4 reference.2) := by
    have hright := slice_append_right (leBytes 4 reference.1) (leBytes 4 reference.2)
    rw [length_leBytes, length_leBytes] at hright
    exact hright
  have hwithin := within_slice hslice
  refine reads_bind_ok.2 ⟨reference, ?_, readString_refers hrefers⟩
  refine reads_bind_ok.2 ⟨reference.1, readLe_eq (hwithin.slice hfirst) hrefers.small.1, ?_⟩
  exact reads_bind_ok.2
    ⟨reference.2, readLe_eq (hwithin.slice hsecond) hrefers.small.2, rfl⟩

theorem flagsOf_testBit (game : SystemGame) : (flagsOf game).testBit 0 = game.hasPreview ∧
    (flagsOf game).testBit 1 = game.isNew := by
  unfold flagsOf
  cases game.hasPreview <;> cases game.isNew <;> decide

/-- **A row that was written is read.** -/
theorem row_written (hi : i < pack.identity.games) (hstrings : pack.strings = .ok strings)
    (h : RowAt pack.mapping strings (pack.sections.rows.1 + i * NAVPACK_ROW_BYTES) i launchIndex
      game) : pack.row i = .ok (rowOf game (decoded launchIndex NONE_U32)) := by
  have hrow := MappedNavPack.row_eq hi rfl hstrings (readLe_at h.flags) (readLe_at h.launchIndex)
    (readText_at h.title) (readText_at h.launchRef) (readText_at h.archive)
    (readText_at h.assetKey)
  rw [(flagsOf_testBit game).1, (flagsOf_testBit game).2] at hrow
  exact hrow

theorem metadata_written (hi : i < pack.identity.games) (hstrings : pack.strings = .ok strings)
    (h : MetadataAt pack.mapping strings (pack.sections.cold.1 + i * NAVPACK_COLD_BYTES) game) :
    pack.metadata i = .ok (readMetadata game) :=
  MappedNavPack.metadata_eq hi rfl hstrings (readLe_at h.year) (readLe_at h.players)
    (readText_at h.manufacturer) (readText_at h.category) (readText_at h.control)

theorem plan_written (hi : i < pack.identity.launches) (hstrings : pack.strings = .ok strings)
    (h : LaunchAt pack.mapping strings (pack.sections.launches.1 + i * NAVPACK_LAUNCH_BYTES)
      plan) : pack.launch i = .ok (launchOf plan) :=
  MappedNavPack.launch_eq hi rfl hstrings (readText_at h.launchRef) (readText_at h.title)
    (readText_at h.systemId) (readText_at h.corePath) (readText_at h.payloadPath)
    (readText_at h.mountKind) (readLe_at h.mountIndex) (readLe_at h.delaySecs)

end Records

/-! ## 4. Counts -/

/-- The counts of the indexes: each key, and how many are posted under it. -/
def countsOf (indexes : SystemNavigationIndexes) : NavPackFilterCounts where
  categories := indexes.categories.map fun group => (group.1, group.2.length)
  decades := indexes.decades.map fun group => (group.1.toNat, group.2.length)
  manufacturers := indexes.manufacturers.map fun group => (group.1, group.2.length)
  players := indexes.players.map fun group => (group.1.toNat, group.2.length)
  controls := indexes.controls.map fun group => (group.1, group.2.length)

section Counts

variable {ι κ γ : Type} {KeyOf : ι → κ → Prop} {postings : List (ι × List Nat)}
  {groups : List (κ × List UInt32)} {strings : List UInt8} {tables : IndexTables}
  {indexes : SystemNavigationIndexes}

theorem postings_forall (h : List.Forall₂ (PostingOf KeyOf) postings groups)
    {P : ι × List Nat → Prop} (hP : ∀ posting group, PostingOf KeyOf posting group → P posting) :
    ∀ posting ∈ postings, P posting := by
  induction h with
  | nil => exact fun _ hnone => absurd hnone List.not_mem_nil
  | cons hgroup _ ih => exact List.forall_mem_cons.2 ⟨hP _ _ hgroup, ih⟩

theorem postings_map (h : List.Forall₂ (PostingOf KeyOf) postings groups)
    {f : ι × List Nat → γ} {g : κ × List UInt32 → γ}
    (hfg : ∀ posting group, PostingOf KeyOf posting group → f posting = g group) :
    postings.map f = groups.map g := by
  induction h with
  | nil => rfl
  | cons hgroup _ ih => rw [List.map_cons, List.map_cons, hfg _ _ hgroup, ih]

theorem PostingOf.length {posting : ι × List Nat} {group : κ × List UInt32}
    (h : PostingOf KeyOf posting group) : posting.2.length = group.2.length := by
  rw [h.ordinals]
  exact List.length_map _

theorem labelOf_refers {reference : Nat × Nat} {value : String}
    (h : Refers strings reference value) : labelOf strings reference = value := by
  unfold labelOf
  rw [readString_refers h]

/-- What is spelled of a table of labels. -/
theorem strings_of_tableOf {postings : List ((Nat × Nat) × List Nat)}
    {groups : List (String × List UInt32)} (h : TableOf (Refers strings) postings groups)
    (hrising : RisingKeys strLt groups) :
    SmallStrings postings ∧ RisingStrings strings postings ∧
      postings.map (stringCount strings) = groups.map fun group => (group.1, group.2.length) := by
  refine ⟨⟨h.small, ?_⟩, ?_, ?_⟩
  · exact postings_forall h.postings fun _ _ hgroup => ⟨hgroup.key.small, hgroup.small⟩
  · have hlabels := postings_map h.postings (f := fun posting => labelOf strings posting.1)
      (g := fun group => group.1) fun _ _ hgroup => labelOf_refers hgroup.key
    unfold RisingStrings
    rw [hlabels]
    exact hrising
  · refine postings_map h.postings fun _ _ hgroup => ?_
    rw [stringCount, labelOf_refers hgroup.key, hgroup.length]

/-- What is spelled of a table of numbers. -/
theorem numbers_of_tableOf {postings : List (Nat × List Nat)} {toNat : κ → Nat} (maximum : Nat)
    (h : TableOf (fun k key => k = toNat key) postings groups)
    (hbound : ∀ key, toNat key ≤ maximum) (hmaximum : Small maximum)
    (hrising : (groups.map fun group => toNat group.1).Pairwise (· < ·)) :
    SmallNumbers postings ∧ RisingNumbers maximum postings ∧
      postings.map numericCount = groups.map fun group => (toNat group.1, group.2.length) := by
  have hkeys : ∀ posting ∈ postings, posting.1 ≤ maximum ∧ SmallOrdinals posting.2 :=
    postings_forall h.postings fun _ _ hgroup =>
      ⟨hgroup.key ▸ hbound _, hgroup.small⟩
  refine ⟨⟨h.small, fun posting hp => ?_⟩, ⟨fun posting hp => (hkeys posting hp).1, ?_⟩, ?_⟩
  · exact ⟨Nat.lt_of_le_of_lt (hkeys posting hp).1 hmaximum, (hkeys posting hp).2⟩
  · rw [postings_map h.postings (g := fun group => toNat group.1) fun _ _ hgroup => hgroup.key]
    exact hrising
  · refine postings_map h.postings fun _ _ hgroup => ?_
    rw [numericCount, hgroup.key, hgroup.length]

/-- **The spelled tables fit, are in order, and count what was posted.** -/
theorem tables_of_indexes (h : TablesOf strings tables indexes) (hrising : indexes.Rising) :
    tables.Sized ∧ tables.Ordered strings ∧ tables.counts strings = countsOf indexes := by
  obtain ⟨hcategories, rcategories, ccategories⟩ :=
    strings_of_tableOf h.categories hrising.categories
  obtain ⟨hmanufacturers, rmanufacturers, cmanufacturers⟩ :=
    strings_of_tableOf h.manufacturers hrising.manufacturers
  obtain ⟨hcontrols, rcontrols, ccontrols⟩ := strings_of_tableOf h.controls hrising.controls
  have hdecadeKeys : (indexes.decades.map fun group => group.1.toNat).Pairwise (· < ·) := by
    have hkeys := List.pairwise_map.1 hrising.decades
    exact List.pairwise_map.2 (hkeys.imp fun hlt =>
      UInt16.lt_iff_toNat_lt.1 (of_decide_eq_true hlt))
  have hplayerKeys : (indexes.players.map fun group => group.1.toNat).Pairwise (· < ·) := by
    have hkeys := List.pairwise_map.1 hrising.players
    exact List.pairwise_map.2 (hkeys.imp fun hlt => UInt8.lt_iff_toNat_lt.1 (of_decide_eq_true hlt))
  obtain ⟨hdecades, rdecades, cdecades⟩ := numbers_of_tableOf NONE_U16 h.decades
    (fun key => Nat.le_of_lt_succ key.toNat_lt) (by decide) hdecadeKeys
  obtain ⟨hplayers, rplayers, cplayers⟩ := numbers_of_tableOf NONE_U8 h.players
    (fun key => Nat.le_of_lt_succ key.toNat_lt) (by decide) hplayerKeys
  refine ⟨⟨h.titleOrdinals, h.previewOrdinals, h.launchOrdinals, hcategories, hdecades,
    hmanufacturers, hplayers, hcontrols⟩, ⟨rcategories, rdecades, rmanufacturers, rplayers,
    rcontrols⟩, ?_⟩
  unfold IndexTables.counts countsOf
  rw [ccategories, cdecades, cmanufacturers, cplayers, ccontrols]

end Counts

/-! ## 5. The prelude -/

section Prelude

variable {bytes : List UInt8} {games : List SystemGame} {indexes : SystemNavigationIndexes}
  {count index : Nat} {viewport : List UInt32} {parsed : NavPackEntryPrelude}

theorem parse_viewport (h : parseEntryPrelude bytes count = .ok parsed) :
    ∃ viewportCount, readU32 bytes 16 = .ok viewportCount ∧
      viewportOrdinals bytes count 0 viewportCount = .ok parsed.firstViewportOrdinals := by
  obtain ⟨_, -, h⟩ := reads_bind_ok.1 h
  obtain ⟨_, -, h⟩ := reads_bind_ok.1 h
  obtain ⟨_, -, h⟩ := reads_bind_ok.1 h
  obtain ⟨_, -, h⟩ := reads_bind_ok.1 h
  obtain ⟨viewportCount, hcount, h⟩ := reads_bind_ok.1 h
  obtain ⟨_, -, h⟩ := reads_bind_ok.1 h
  obtain ⟨_, -, h⟩ := reads_bind_ok.1 h
  obtain ⟨flags, -, h⟩ := reads_bind_ok.1 h
  obtain ⟨_, -, h⟩ := reads_bind_ok.1 h
  obtain ⟨_, -, h⟩ := reads_bind_ok.1 h
  obtain ⟨_, -, h⟩ := reads_bind_ok.1 h
  obtain ⟨_, -, h⟩ := reads_bind_ok.1 h
  obtain ⟨_, -, h⟩ := reads_bind_ok.1 h
  obtain ⟨ordinals, hordinals, h⟩ := reads_bind_ok.1 h
  obtain ⟨_, -, h⟩ := reads_bind_ok.1 h
  obtain ⟨_, -, h⟩ := reads_bind_ok.1 h
  obtain ⟨_, -, h⟩ := reads_bind_ok.1 h
  obtain ⟨_, -, h⟩ := reads_bind_ok.1 h
  obtain ⟨_, -, h⟩ := reads_bind_ok.1 h
  obtain ⟨_, -, h⟩ := reads_bind_ok.1 h
  refine ⟨viewportCount, hcount, ?_⟩
  by_cases hflags : flags = PRELUDE_FLAG_EXACT_PREVIEW
  · rw [if_pos hflags] at h
    obtain ⟨_, -, h⟩ := reads_bind_ok.1 h
    cases h
    exact hordinals
  · rw [if_neg hflags] at h
    obtain ⟨_, -, h⟩ := reads_bind_ok.1 h
    cases h
    exact hordinals

theorem length_putOrdinals (ordinals : List UInt32) :
    (putOrdinals ordinals).length = ordinals.length * 4 := by
  induction ordinals with
  | nil => rfl
  | cons ordinal ordinals ih =>
      rw [putOrdinals, List.flatMap_cons, ← putOrdinals, List.length_append, length_leBytes, ih,
        List.length_cons]
      omega

/-- The ordinals of a viewport are read in their order. -/
theorem viewportOrdinals_put {ordinals : List Nat}
    (h : viewportOrdinals bytes count index viewport.length = .ok ordinals)
    (hslice : slice bytes (PRELUDE_HEADER_BYTES + index * 4) (viewport.length * 4) =
      some (putOrdinals viewport)) : ordinals = plainOrdinals viewport := by
  induction viewport generalizing index ordinals with
  | nil =>
      cases h
      rfl
  | cons ordinal viewport ih =>
      obtain ⟨first, hfirst, h⟩ := reads_bind_ok.1 h
      obtain ⟨_, -, h⟩ := reads_bind_ok.1 h
      obtain ⟨rest, hrest, h⟩ := reads_bind_ok.1 h
      cases h
      have hwithin := within_slice hslice
      have hput : putOrdinals (ordinal :: viewport) =
          leBytes 4 ordinal.toNat ++ putOrdinals viewport := List.flatMap_cons
      rw [hput] at hwithin
      have hhead : slice (leBytes 4 ordinal.toNat ++ putOrdinals viewport) 0 4 =
          some (leBytes 4 ordinal.toNat) := by
        have hall := slice_all (leBytes 4 ordinal.toNat)
        rw [length_leBytes] at hall
        exact slice_append_left hall
      have htail : slice (leBytes 4 ordinal.toNat ++ putOrdinals viewport) 4
          (viewport.length * 4) = some (putOrdinals viewport) := by
        have hright := slice_append_right (leBytes 4 ordinal.toNat) (putOrdinals viewport)
        rw [length_leBytes, length_putOrdinals] at hright
        exact hright
      have hread : readU32 bytes (PRELUDE_HEADER_BYTES + index * 4) = .ok ordinal.toNat :=
        readLe_eq (hwithin.slice hhead) ordinal.toNat_lt
      obtain rfl : first = ordinal.toNat := Except.ok.inj (hfirst.symm.trans hread)
      have hnext : PRELUDE_HEADER_BYTES + index * 4 + 4 =
          PRELUDE_HEADER_BYTES + (index + 1) * 4 := by omega
      have hrestSlice := hwithin.slice htail
      rw [hnext] at hrestSlice
      rw [ih hrest hrestSlice]
      rfl

/-- **The prelude names the first title ordinals, in their order.** -/
theorem prelude_written (h : encodeEntryPrelude games indexes = .ok bytes)
    (hparsed : parseEntryPrelude bytes count = .ok parsed) :
    parsed.firstViewportOrdinals =
      plainOrdinals (indexes.titleOrdinals.take NAVPACK_ENTRY_VIEWPORT_ROWS) := by
  obtain ⟨viewportCount, hcount, hordinals⟩ := parse_viewport hparsed
  obtain ⟨_, -, h⟩ := reads_bind_ok.1 h
  obtain ⟨_, -, h⟩ := reads_bind_ok.1 h
  obtain ⟨_, hviewport, h⟩ := reads_bind_ok.1 h
  obtain ⟨_, -, h⟩ := reads_bind_ok.1 h
  have hsmall := of_decide_eq_true (check_ok.1 hviewport)
  have hbytes := (Except.ok.inj h).symm
  have hcountAt : slice bytes 16 4 = some
      (leBytes 4 (indexes.titleOrdinals.take NAVPACK_ENTRY_VIEWPORT_ROWS).length) := by
    rw [hbytes]
    exact slice_flatten 3 rfl (by simp) (by simp)
  have hviewportAt : slice bytes (PRELUDE_HEADER_BYTES + 0 * 4)
      ((indexes.titleOrdinals.take NAVPACK_ENTRY_VIEWPORT_ROWS).length * 4) =
        some (putOrdinals (indexes.titleOrdinals.take NAVPACK_ENTRY_VIEWPORT_ROWS)) := by
    rw [hbytes]
    exact slice_flatten 11 rfl (by simp; rfl) (length_putOrdinals _)
  obtain rfl := Except.ok.inj (hcount.symm.trans (readLe_eq hcountAt hsmall))
  exact viewportOrdinals_put hordinals hviewportAt

end Prelude

/-! ## 6. What the encoder made -/

/-- A file of the encoder: the records and tables of the games, laid out under a header. -/
structure Encoded (bytes : List UInt8) (systemId : String) (generation : Nat)
    (games : List SystemGame) (indexes : SystemNavigationIndexes) (contents : Contents)
    (offsets : Offsets) (launchCount : Nat) (systemRef : Nat × Nat) : Prop where
  laid : Laid contents offsets
  countSmall : Small launchCount
  placed : Placed bytes (encodeHeader generation games.length launchCount systemRef contents
    offsets) contents offsets
  prelude : encodeEntryPrelude games indexes = .ok contents.prelude
  written : Written ⟨contents.rows, contents.cold, contents.launches, launchCount⟩
    contents.strings games
  tables : ∃ tables, TablesOf contents.strings tables indexes ∧ contents.indexes = tables.spell
  accepted : ∃ identity, validate bytes systemId generation games.length = .ok identity

section Encoder

variable {bytes : List UInt8} {systemId : String} {generation : Nat} {games : List SystemGame}
  {indexes : SystemNavigationIndexes}

theorem encodeContents_interns :
    Interns (encodeContents systemId games indexes) fun bytes result =>
      Written result.2.1 bytes games ∧
        ∃ tables, TablesOf bytes tables indexes ∧ result.2.2 = tables.spell := by
  refine (interns_bind (intern_interns systemId) fun systemRef =>
    interns_bind (encodeGames_interns games 0 ⟨[], [], [], 0⟩) fun tables =>
    interns_bind (encodeIndexes_interns indexes) fun raw =>
    interns_pure (systemRef, tables, raw)).mono fun bytes result h => ?_
  obtain ⟨systemRef, -, tables, hwritten, raw, htables, rfl⟩ := h
  exact ⟨hwritten [] rfl (written_nil bytes), htables⟩

theorem encoded_of_encode (h : encode systemId generation games indexes = .ok bytes) :
    ∃ contents offsets launchCount systemRef,
      Encoded bytes systemId generation games indexes contents offsets launchCount systemRef := by
  obtain ⟨_, -, h⟩ := reads_bind_ok.1 h
  obtain ⟨⟨⟨systemRef, tables, raw⟩, strings⟩, hcontents, h⟩ := reads_bind_ok.1 h
  obtain ⟨prelude, hprelude, h⟩ := reads_bind_ok.1 h
  obtain ⟨offsets, hoffsets, h⟩ := reads_bind_ok.1 h
  obtain ⟨_, -, h⟩ := reads_bind_ok.1 h
  obtain ⟨identity, hvalidate, h⟩ := reads_bind_ok.1 h
  have hsound : Strings.Sound ⟨[], []⟩ := fun _ _ hnone => by cases hnone
  obtain ⟨-, -, hpost⟩ := encodeContents_interns.ok _ _ _ hcontents hsound
  have hpost' := hpost []
  rw [List.append_nil] at hpost'
  obtain ⟨hwritten, htables⟩ := hpost'
  have hlaid := laid_of_layOut hoffsets
  cases h
  refine ⟨⟨prelude, tables.rows, tables.cold, tables.launches, raw, strings.bytes⟩, offsets,
    tables.nextLaunch, systemRef, hlaid, hwritten.nextSmall, ?_, hprelude, hwritten, htables,
    ⟨identity, ?_⟩⟩
  · rw [hwritten.launchCount]
    exact placed_of_laid hlaid length_encodeHeader
  · exact hvalidate

end Encoder

/-! ## 7. The pack that is read -/

/-- The launch plan that a row names. -/
def PlanRead (pack : MappedNavPack) (launchIndex : Option Nat) : Option SystemLaunchPlan → Prop
  | none => launchIndex = none
  | some plan => ∃ i, launchIndex = some i ∧ pack.launch i = .ok (launchOf plan)

/-- Rows, launch plans, the prelude and the counts are read as they were given. -/
structure ReadsBack (pack : MappedNavPack) (games : List SystemGame)
    (indexes : SystemNavigationIndexes) : Prop where
  rows : ∀ i game, games[i]? = some game → ∃ launchIndex,
    pack.row i = .ok (rowOf game launchIndex) ∧ PlanRead pack launchIndex game.launchPlan
  entryPrelude : ∃ prelude, pack.entryPrelude = .ok prelude ∧ prelude.firstViewportOrdinals =
    plainOrdinals (indexes.titleOrdinals.take NAVPACK_ENTRY_VIEWPORT_ROWS)
  filterCounts : pack.filterCounts = .ok (countsOf indexes)

/-- And the metadata. -/
structure RoundTrips (pack : MappedNavPack) (games : List SystemGame)
    (indexes : SystemNavigationIndexes) : Prop where
  readsBack : ReadsBack pack games indexes
  metadata : ∀ i game, games[i]? = some game → pack.metadata i = .ok (metadataOf game)

/-- No game has a year or a number of players that is a code for none. -/
def NoSentinel (games : List SystemGame) : Prop :=
  ∀ game ∈ games, game.year ≠ some 65535 ∧ game.players ≠ some 255

section Pack

variable {pack : MappedNavPack} {strings : List UInt8} {systemId : String} {generation : Nat}
  {games : List SystemGame} {indexes : SystemNavigationIndexes} {contents : Contents}
  {offsets : Offsets} {launchCount : Nat} {systemRef : Nat × Nat}

/-- A pack over a file of the encoder. -/
structure PackOf (pack : MappedNavPack) (games : List SystemGame) (contents : Contents)
    (offsets : Offsets) (launchCount : Nat) : Prop where
  games : pack.identity.games = games.length
  launches : pack.identity.launches = launchCount
  sections : pack.sections = sectionsOf contents offsets
  prelude : pack.header.prelude = (NAVPACK_HEADER_BYTES, contents.prelude.length)
  strings : pack.strings = .ok contents.strings
  checked : Checked pack.mapping contents.strings pack.header

theorem packOf_encoded {checked : CheckedHeader} {bytes : List UInt8}
    (h : Encoded bytes systemId generation games indexes contents offsets launchCount systemRef)
    (hheader : validateHeader bytes systemId generation games.length = .ok checked)
    (hchecked : Checked bytes strings checked) :
    PackOf ⟨bytes, checked⟩ games contents offsets launchCount := by
  obtain ⟨hgames, hlaunches, hsections, hprelude⟩ :=
    header_matches h.laid h.countSmall h.placed hheader
  have hstrings : strings = contents.strings := by
    have hat := hchecked.stringsAt
    rw [hsections] at hat
    exact Option.some.inj (hat.symm.trans h.placed.strings)
  rw [hstrings] at hchecked
  exact ⟨hgames, hlaunches, hsections, hprelude, index_ok.2 hchecked.stringsAt, hchecked⟩

theorem index_lt {i : Nat} {game : SystemGame} (h : games[i]? = some game) : i < games.length :=
  (List.getElem?_eq_some_iff.1 h).1

theorem readsBack_rows
    (h : Encoded pack.mapping systemId generation games indexes contents offsets launchCount
      systemRef) (hpack : PackOf pack games contents offsets launchCount) {i : Nat}
    {game : SystemGame} (hgame : games[i]? = some game) : ∃ launchIndex,
      pack.row i = .ok (rowOf game launchIndex) ∧ PlanRead pack launchIndex game.launchPlan := by
  obtain ⟨⟨launchIndex, hrow, hplan⟩, -⟩ := h.written.game i game hgame
  have hi : i < pack.identity.games := by
    rw [hpack.games]
    exact index_lt hgame
  have hrowAt := hrow.within (within_slice h.placed.rows)
  refine ⟨decoded launchIndex NONE_U32, row_written hi hpack.strings ?_, ?_⟩
  · rw [hpack.sections]
    exact hrowAt
  · cases hnone : game.launchPlan with
    | none =>
        rw [hnone] at hplan
        exact if_pos hplan
    | some plan =>
        rw [hnone] at hplan
        have hlt : launchIndex < launchCount := hplan.1
        have hsmall : launchCount < 2 ^ 32 := h.written.nextSmall
        have hne : launchIndex ≠ NONE_U32 := by
          unfold NONE_U32
          omega
        refine ⟨launchIndex, if_neg hne, plan_written (by rw [hpack.launches]; exact hlt)
          hpack.strings ?_⟩
        rw [hpack.sections]
        exact hplan.2.within (within_slice h.placed.launches)

theorem readsBack_metadata
    (h : Encoded pack.mapping systemId generation games indexes contents offsets launchCount
      systemRef) (hpack : PackOf pack games contents offsets launchCount) {i : Nat}
    {game : SystemGame} (hgame : games[i]? = some game) :
    pack.metadata i = .ok (readMetadata game) := by
  have hi : i < pack.identity.games := by
    rw [hpack.games]
    exact index_lt hgame
  refine metadata_written hi hpack.strings ?_
  rw [hpack.sections]
  exact (h.written.game i game hgame).metadata.within (within_slice h.placed.cold)

theorem readsBack_prelude
    (h : Encoded pack.mapping systemId generation games indexes contents offsets launchCount
      systemRef) (hpack : PackOf pack games contents offsets launchCount) :
    ∃ prelude, pack.entryPrelude = .ok prelude ∧ prelude.firstViewportOrdinals =
      plainOrdinals (indexes.titleOrdinals.take NAVPACK_ENTRY_VIEWPORT_ROWS) := by
  obtain ⟨raw, prelude, hraw, hparsed⟩ := hpack.checked.preludeAt
  refine ⟨prelude, reads_bind_ok.2 ⟨raw, get_ok.2 hraw, hparsed⟩, ?_⟩
  rw [hpack.prelude] at hraw
  obtain rfl := Option.some.inj (hraw.symm.trans h.placed.prelude)
  exact prelude_written h.prelude hparsed

theorem readsBack_counts
    (h : Encoded pack.mapping systemId generation games indexes contents offsets launchCount
      systemRef) (hpack : PackOf pack games contents offsets launchCount)
    (hrising : indexes.Rising) : pack.filterCounts = .ok (countsOf indexes) := by
  obtain ⟨tables, htables, hspell⟩ := h.tables
  obtain ⟨hsized, hordered, hcounts⟩ := tables_of_indexes htables hrising
  obtain ⟨raw, hraw, hindexes⟩ := hpack.checked.indexesAt
  have hat := hraw
  have hsections : pack.header.sections = sectionsOf contents offsets := hpack.sections
  rw [hsections] at hat
  obtain rfl := Option.some.inj (hat.symm.trans h.placed.indexes)
  rw [hspell] at hindexes hraw
  obtain ⟨-, hvalid⟩ := ((takeIndexes_onAll hsized).ok _ _).1 hindexes
  rw [← hcounts]
  exact MappedNavPack.filterCounts_of_all hpack.strings hraw
    (((takeFilterCounts_onAll hsized).ok _ _).2 ⟨rfl, hvalid, hordered, rfl⟩)

/-- The metadata of a game is exact just when neither field is a code for none. -/
theorem readMetadata_eq_iff (game : SystemGame) : readMetadata game = metadataOf game ↔
    game.year ≠ some 65535 ∧ game.players ≠ some 255 := by
  have hyear : decoded (yearCode game.year) NONE_U16 = game.year.map UInt16.toNat ↔
      game.year ≠ some 65535 := by
    cases game.year with
    | none => simp [decoded, yearCode]
    | some year =>
        by_cases hcode : year.toNat = NONE_U16
        · have hsentinel : year = 65535 := UInt16.toNat_inj.1 hcode
          simp [decoded, yearCode, hsentinel, NONE_U16]
        · have hsentinel : year ≠ 65535 := fun heq => hcode (by rw [heq]; rfl)
          simp [decoded, yearCode, hcode, hsentinel]
  have hplayers : decoded (playersCode game.players) NONE_U8 = game.players.map UInt8.toNat ↔
      game.players ≠ some 255 := by
    cases game.players with
    | none => simp [decoded, playersCode]
    | some players =>
        by_cases hcode : players.toNat = NONE_U8
        · have hsentinel : players = 255 := UInt8.toNat_inj.1 hcode
          simp [decoded, playersCode, hsentinel, NONE_U8]
        · have hsentinel : players ≠ 255 := fun heq => hcode (by rw [heq]; rfl)
          simp [decoded, playersCode, hcode, hsentinel]
  rw [← hyear, ← hplayers]
  constructor
  · intro h
    exact ⟨congrArg NavPackMetadata.year h, congrArg NavPackMetadata.players h⟩
  · intro h
    unfold readMetadata
    rw [h.1, h.2]
    rfl

end Pack

/-- **What the encoder writes is accepted, and its rows, launch plans, prelude and counts are read
    as they were given; the metadata are too, just when no game has a code for none.** -/
theorem encode_round_trips (sort : {α : Type} → (α → α → Bool) → List α → List α)
    (systemId : String) (generation : Nat) (games : List SystemGame)
    (indexes : SystemNavigationIndexes) (bytes : List UInt8)
    (hbuild : buildNavigationIndexes sort games = .ok indexes)
    (hencode : encode systemId generation games indexes = .ok bytes) :
    (∃ identity, validate bytes systemId generation games.length = .ok identity) ∧
      ∃ pack, MappedNavPack.openPack bytes bytes.length systemId generation games.length =
        .ok pack ∧ ReadsBack pack games indexes ∧
          (RoundTrips pack games indexes ↔ NoSentinel games) := by
  obtain ⟨contents, offsets, launchCount, systemRef, hencoded⟩ := encoded_of_encode hencode
  obtain ⟨identity, hvalidate⟩ := hencoded.accepted
  obtain ⟨header, strings, hheader, -, hchecked⟩ := checked_of_validate hvalidate
  have hpack := packOf_encoded hencoded hheader hchecked
  have hencoded' : Encoded (MappedNavPack.mk bytes header).mapping systemId generation games
      indexes contents offsets launchCount systemRef := hencoded
  have hreads : ReadsBack ⟨bytes, header⟩ games indexes :=
    { rows := fun i game hgame => readsBack_rows hencoded' hpack hgame
      entryPrelude := readsBack_prelude hencoded' hpack
      filterCounts := readsBack_counts hencoded' hpack (buildNavigationIndexes_rising hbuild) }
  refine ⟨⟨identity, hvalidate⟩, ⟨bytes, header⟩, ?_, hreads, ?_⟩
  · refine reads_bind_ok.2 ⟨(), check_ok.2 (decide_eq_true rfl), ?_⟩
    exact reads_bind_ok.2 ⟨header, hheader, rfl⟩
  · constructor
    · intro hround game hgame
      obtain ⟨i, hi, hget⟩ := List.mem_iff_getElem.1 hgame
      have hsome : games[i]? = some game := by rw [List.getElem?_eq_getElem hi, hget]
      have hsame := (readsBack_metadata hencoded' hpack hsome).symm.trans
        (hround.metadata i game hsome)
      exact (readMetadata_eq_iff game).1 (Except.ok.inj hsame)
    · intro hnone
      refine ⟨hreads, fun i game hgame => ?_⟩
      rw [readsBack_metadata hencoded' hpack hgame,
        (readMetadata_eq_iff game).2 (hnone game (List.mem_of_getElem? hgame))]

/-! ## 8. Three games, and one of the year 65535 -/

/-- A game of a year, with a launch plan. -/
def yearGame (year : UInt16) : SystemGame where
  stableKey := "c64:a"
  title := "Alpha"
  launchRef := "plan:a"
  previewArchivePath := ""
  previewAssetKey := ""
  hasPreview := false
  year := some year
  manufacturer := ""
  category := "Action"
  players := some 1
  control := ""
  isNew := true
  launchPlan := some ⟨"plan:a", "Alpha", "c64", "C64", "/a.d64", "mount", 0, 1⟩

def yearIndexes (decade : UInt16) : SystemNavigationIndexes where
  titleOrdinals := [0]
  previewOrdinals := []
  launchOrdinals := [0]
  categories := [("Action", [0])]
  decades := [(decade, [0])]
  manufacturers := []
  players := [(1, [0])]
  controls := []

/-- A sort by insertion. -/
def insertSort {α : Type} (before : α → α → Bool) (xs : List α) : List α :=
  xs.insertionSort fun a b => before a b = true

/-- The bytes that were written. -/
def written (result : Reads (List UInt8)) : List UInt8 := result.toOption.getD []

def yearPack (year decade : UInt16) : List UInt8 :=
  written (encode "c64" 7 [yearGame year] (yearIndexes decade))

/-- A game without a plan, a year or players, with what the others lack. -/
def plainGame : SystemGame where
  stableKey := "c64:b"
  title := "Beta"
  launchRef := "/b.prg"
  previewArchivePath := "c64.zip"
  previewAssetKey := "beta"
  hasPreview := true
  year := none
  manufacturer := "Maker"
  category := "Action"
  players := none
  control := "Joystick"
  isNew := false
  launchPlan := none

/-- Their order is not that of their titles. -/
def threeGames : List SystemGame :=
  [plainGame, yearGame 1984,
    { yearGame 1991 with
      stableKey := "c64:c"
      title := "Gamma"
      launchRef := "plan:c"
      players := some 4
      manufacturer := "Maker"
      launchPlan := some ⟨"plan:c", "Gamma", "c64", "C64", "/c.d64", "mount", 1, 2⟩ }]

def threeIndexes : SystemNavigationIndexes where
  titleOrdinals := [1, 0, 2]
  previewOrdinals := [0]
  launchOrdinals := [1, 2]
  categories := [("Action", [0, 1, 2])]
  decades := [(1980, [1]), (1990, [2])]
  manufacturers := [("Maker", [0, 2])]
  players := [(1, [1]), (4, [2])]
  controls := [("Joystick", [0])]

def threePack : List UInt8 := written (encode "c64" 7 threeGames threeIndexes)

theorem encode_round_trips_threeGames :
    (∃ identity, validate threePack "c64" 7 3 = .ok identity) ∧
      ∃ pack, MappedNavPack.openPack threePack threePack.length "c64" 7 3 = .ok pack ∧
        RoundTrips pack threeGames threeIndexes := by
  obtain ⟨haccepted, pack, hopen, -, hexact⟩ := encode_round_trips insertSort "c64" 7 threeGames
    threeIndexes threePack (by decide +kernel) (by decide +kernel)
  exact ⟨haccepted, pack, hopen, hexact.2 (by unfold NoSentinel; decide)⟩

/-- The year 65535 is read as no year. -/
theorem year_65535_lost : ¬ ∀ (sort : {α : Type} → (α → α → Bool) → List α → List α)
    (systemId : String) (generation : Nat) (games : List SystemGame)
    (indexes : SystemNavigationIndexes) (bytes : List UInt8),
    buildNavigationIndexes sort games = .ok indexes →
      encode systemId generation games indexes = .ok bytes →
        ∃ pack, MappedNavPack.openPack bytes bytes.length systemId generation games.length =
          .ok pack ∧ RoundTrips pack games indexes := by
  intro hall
  obtain ⟨pack, hopen, hround⟩ := hall insertSort "c64" 7 [yearGame 65535] (yearIndexes 65530)
    (yearPack 65535 65530) (by decide +kernel) (by decide +kernel)
  have hexact := hround.metadata 0 (yearGame 65535) rfl
  have hread : (MappedNavPack.openPack (yearPack 65535 65530) (yearPack 65535 65530).length "c64" 7
      1 >>= fun pack => pack.metadata 0) = .ok ⟨none, "", "Action", some 1, ""⟩ := by
    decide +kernel
  rw [show [yearGame 65535].length = 1 from rfl] at hopen
  rw [hopen] at hread
  have hlost : pack.metadata 0 = .ok ⟨none, "", "Action", some 1, ""⟩ := hread
  rw [hexact] at hlost
  cases congrArg NavPackMetadata.year (Except.ok.inj hlost)

end MisterMagik.Catalog
