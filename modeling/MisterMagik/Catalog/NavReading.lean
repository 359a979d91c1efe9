/-
  File:      MisterMagik/Catalog/NavReading.lean
  Subject:   What the validator accepts, the readers can read.

  The validator and the readers walk the same offsets. Its walk over the index section asks less
  than `filter_counts` does: it reads the keys of the postings and does not compare them.

  * `checked_of_validate` -- what was checked;
  * `addressable_of_checked` -- rows, metadata, launch plans and the prelude are readable;
  * `validated_readable` -- and the counts are, just when the postings are ordered.
-/
import MisterMagik.Catalog.NavIndexes

namespace MisterMagik.Catalog

open MisterMagik.Base

/-! ## 1. What was checked -/

/-- A file that was checked against its header. -/
structure Checked (bytes strings : List UInt8) (header : CheckedHeader) : Prop where
  stringsAt : slice bytes header.sections.strings.1 header.sections.strings.2 = some strings
  preludeAt : ∃ raw prelude, slice bytes header.prelude.1 header.prelude.2 = some raw ∧
    parseEntryPrelude raw header.identity.games = .ok prelude
  rowsEnd : header.sections.rows.1 + header.identity.games * NAVPACK_ROW_BYTES ≤ bytes.length
  coldEnd : header.sections.cold.1 + header.identity.games * NAVPACK_COLD_BYTES ≤ bytes.length
  launchesEnd : header.sections.launches.1 + header.identity.launches * NAVPACK_LAUNCH_BYTES ≤
    bytes.length
  rows : ∀ ordinal < header.identity.games, validateRow bytes strings header.sections.rows.1
    header.sections.cold.1 header.identity.launches ordinal = .ok ()
  launches : ∀ launch < header.identity.launches,
    validateLaunch bytes strings header.sections.launches.1 launch = .ok ()
  indexesAt : ∃ raw, slice bytes header.sections.indexes.1 header.sections.indexes.2 = some raw ∧
    takeIndexes strings header.identity.games raw = .ok ((), [])

section Checks

variable {bytes strings : List UInt8} {systemId : String} {generation games offset : Nat}
  {identity : NavPackIdentity} {header : CheckedHeader} {sections : Sections} {place : Nat × Nat}

theorem readSection_le (h : readSection bytes offset = .ok place) :
    place.1 + place.2 ≤ bytes.length := by
  obtain ⟨start, -, h⟩ := reads_bind_ok.1 h
  obtain ⟨length, -, h⟩ := reads_bind_ok.1 h
  obtain ⟨_, hcheck, h⟩ := reads_bind_ok.1 h
  cases h
  exact of_decide_eq_true (check_ok.1 hcheck)

/-- The sections lie within the file. -/
structure Sections.Within (sections : Sections) (bytes : List UInt8) : Prop where
  rows : sections.rows.1 + sections.rows.2 ≤ bytes.length
  cold : sections.cold.1 + sections.cold.2 ≤ bytes.length
  launches : sections.launches.1 + sections.launches.2 ≤ bytes.length
  indexes : sections.indexes.1 + sections.indexes.2 ≤ bytes.length
  strings : sections.strings.1 + sections.strings.2 ≤ bytes.length

theorem readSections_within (h : readSections bytes = .ok sections) : sections.Within bytes := by
  obtain ⟨rows, hrows, h⟩ := reads_bind_ok.1 h
  obtain ⟨cold, hcold, h⟩ := reads_bind_ok.1 h
  obtain ⟨launches, hlaunches, h⟩ := reads_bind_ok.1 h
  obtain ⟨indexes, hindexes, h⟩ := reads_bind_ok.1 h
  obtain ⟨strings, hstrings, h⟩ := reads_bind_ok.1 h
  cases h
  exact ⟨readSection_le hrows, readSection_le hcold, readSection_le hlaunches,
    readSection_le hindexes, readSection_le hstrings⟩

theorem checkSections_sizes {launches : Nat} (h : checkSections sections games launches = .ok ()) :
    sections.rows.2 = games * NAVPACK_ROW_BYTES ∧ sections.cold.2 = games * NAVPACK_COLD_BYTES ∧
      sections.launches.2 = launches * NAVPACK_LAUNCH_BYTES := by
  obtain ⟨_, -, h⟩ := reads_bind_ok.1 h
  exact of_decide_eq_true (check_ok.1 h)

theorem leadingPrelude_parsed {prelude : (Nat × Nat) × NavPackEntryPrelude}
    (h : leadingPrelude bytes sections games = .ok prelude) :
    ∃ raw, slice bytes prelude.1.1 prelude.1.2 = some raw ∧
      parseEntryPrelude raw games = .ok prelude.2 := by
  obtain ⟨place, -, h⟩ := reads_bind_ok.1 h
  obtain ⟨_, -, h⟩ := reads_bind_ok.1 h
  obtain ⟨raw, hraw, h⟩ := reads_bind_ok.1 h
  obtain ⟨parsed, hparsed, h⟩ := reads_bind_ok.1 h
  cases h
  exact ⟨raw, index_ok.1 hraw, hparsed⟩

theorem get_ok {truncated : String} {start length : Nat} {part : List UInt8} :
    get truncated bytes start length = .ok part ↔ slice bytes start length = some part := by
  unfold get
  cases slice bytes start length with
  | none => simp [fail]
  | some part' => simp

theorem validateIndexes_ok {raw : List UInt8} (h : validateIndexes raw strings games = .ok ()) :
    takeIndexes strings games raw = .ok ((), []) := by
  obtain ⟨⟨_, rest⟩, h, -⟩ := reads_bind_ok.1 h
  obtain ⟨tables, hsized, rfl⟩ := takeIndexes_accepts h
  obtain ⟨rfl, -⟩ := ((takeIndexes_onAll hsized).ok _ _).1 h
  exact h

/-- **What the validator accepts has an accepted header, and is checked against it.** -/
theorem checked_of_validate (h : validate bytes systemId generation games = .ok identity) :
    ∃ header strings, validateHeader bytes systemId generation games = .ok header ∧
      header.identity = identity ∧ Checked bytes strings header := by
  obtain ⟨_, hlayout, h⟩ := reads_bind_ok.1 h
  obtain ⟨launches, hlaunches, h⟩ := reads_bind_ok.1 h
  obtain ⟨systemRef, hsystemRef, h⟩ := reads_bind_ok.1 h
  obtain ⟨sections, hsections, h⟩ := reads_bind_ok.1 h
  obtain ⟨prelude, hprelude, h⟩ := reads_bind_ok.1 h
  obtain ⟨_, hsizes, h⟩ := reads_bind_ok.1 h
  obtain ⟨_, -, h⟩ := reads_bind_ok.1 h
  obtain ⟨strings, hstrings, h⟩ := reads_bind_ok.1 h
  obtain ⟨named, hnamed, h⟩ := reads_bind_ok.1 h
  obtain ⟨_, hsystem, h⟩ := reads_bind_ok.1 h
  obtain ⟨_, -, h⟩ := reads_bind_ok.1 h
  obtain ⟨_, hrows, h⟩ := reads_bind_ok.1 h
  obtain ⟨_, hplans, h⟩ := reads_bind_ok.1 h
  obtain ⟨indexes, hindexes, h⟩ := reads_bind_ok.1 h
  obtain ⟨_, htables, h⟩ := reads_bind_ok.1 h
  cases h
  have hslice := index_ok.1 hstrings
  have hwithin := readSections_within hsections
  obtain ⟨hrowBytes, hcoldBytes, hlaunchBytes⟩ := checkSections_sizes hsizes
  obtain ⟨raw, hraw, hparsed⟩ := leadingPrelude_parsed hprelude
  refine ⟨⟨⟨systemId, generation, games, launches⟩, sections, prelude.1⟩, strings, ?_, rfl, ?_⟩
  · refine reads_bind_ok.2 ⟨(), hlayout, ?_⟩
    refine reads_bind_ok.2 ⟨launches, hlaunches, ?_⟩
    refine reads_bind_ok.2 ⟨sections, hsections, ?_⟩
    refine reads_bind_ok.2 ⟨prelude, hprelude, ?_⟩
    refine reads_bind_ok.2 ⟨(), hsizes, ?_⟩
    refine reads_bind_ok.2 ⟨strings, get_ok.2 hslice, ?_⟩
    refine reads_bind_ok.2 ⟨named, reads_bind_ok.2 ⟨systemRef, hsystemRef, hnamed⟩, ?_⟩
    exact reads_bind_ok.2 ⟨(), hsystem, rfl⟩
  · exact
      { stringsAt := hslice
        preludeAt := ⟨raw, prelude.2, hraw, hparsed⟩
        rowsEnd := hrowBytes ▸ hwithin.rows
        coldEnd := hcoldBytes ▸ hwithin.cold
        launchesEnd := hlaunchBytes ▸ hwithin.launches
        rows := forRange_ok.1 hrows
        launches := forRange_ok.1 hplans
        indexesAt := ⟨indexes, index_ok.1 hindexes, validateIndexes_ok htables⟩ }

end Checks

/-! ## 2. One record, from its fields -/

namespace MappedNavPack

variable {pack : MappedNavPack} {strings : List UInt8} {ordinal i : Nat}

theorem row_eq {offset flags launch : Nat} {title launchRef archive assetKey : String}
    (hordinal : ordinal < pack.identity.games)
    (hoffset : pack.sections.rows.1 + ordinal * NAVPACK_ROW_BYTES = offset)
    (hstrings : pack.strings = .ok strings)
    (hflags : readU32 pack.mapping (offset + 40) = .ok flags)
    (hlaunch : readU32 pack.mapping (offset + 36) = .ok launch)
    (htitle : readText pack.mapping strings offset = .ok title)
    (hlaunchRef : readText pack.mapping strings (offset + 8) = .ok launchRef)
    (harchive : readText pack.mapping strings (offset + 16) = .ok archive)
    (hassetKey : readText pack.mapping strings (offset + 24) = .ok assetKey) :
    pack.row ordinal = .ok ⟨title, launchRef, archive, assetKey, flags.testBit 0, flags.testBit 1,
      if launch = NONE_U32 then none else some launch⟩ := by
  subst hoffset
  refine reads_bind_ok.2 ⟨(), check_ok.2 (decide_eq_true hordinal), ?_⟩
  refine reads_bind_ok.2 ⟨strings, hstrings, ?_⟩
  refine reads_bind_ok.2 ⟨flags, hflags, ?_⟩
  refine reads_bind_ok.2 ⟨launch, hlaunch, ?_⟩
  refine reads_bind_ok.2 ⟨title, htitle, ?_⟩
  refine reads_bind_ok.2 ⟨launchRef, hlaunchRef, ?_⟩
  refine reads_bind_ok.2 ⟨archive, harchive, ?_⟩
  exact reads_bind_ok.2 ⟨assetKey, hassetKey, rfl⟩

theorem metadata_eq {offset year players : Nat} {manufacturer category control : String}
    (hordinal : ordinal < pack.identity.games)
    (hoffset : pack.sections.cold.1 + ordinal * NAVPACK_COLD_BYTES = offset)
    (hstrings : pack.strings = .ok strings)
    (hyear : readU16 pack.mapping offset = .ok year)
    (hplayers : readLe 1 "truncated NavPack players" pack.mapping (offset + 2) = .ok players)
    (hmanufacturer : readText pack.mapping strings (offset + 4) = .ok manufacturer)
    (hcategory : readText pack.mapping strings (offset + 12) = .ok category)
    (hcontrol : readText pack.mapping strings (offset + 20) = .ok control) :
    pack.metadata ordinal = .ok ⟨if year = NONE_U16 then none else some year, manufacturer,
      category, if players = NONE_U8 then none else some players, control⟩ := by
  subst hoffset
  refine reads_bind_ok.2 ⟨(), check_ok.2 (decide_eq_true hordinal), ?_⟩
  refine reads_bind_ok.2 ⟨strings, hstrings, ?_⟩
  refine reads_bind_ok.2 ⟨year, hyear, ?_⟩
  refine reads_bind_ok.2 ⟨players, hplayers, ?_⟩
  refine reads_bind_ok.2 ⟨manufacturer, hmanufacturer, ?_⟩
  refine reads_bind_ok.2 ⟨category, hcategory, ?_⟩
  exact reads_bind_ok.2 ⟨control, hcontrol, rfl⟩

theorem launch_eq {offset mountIndex delaySecs : Nat}
    {launchRef title systemId corePath payloadPath mountKind : String}
    (hi : i < pack.identity.launches)
    (hoffset : pack.sections.launches.1 + i * NAVPACK_LAUNCH_BYTES = offset)
    (hstrings : pack.strings = .ok strings)
    (hlaunchRef : readText pack.mapping strings offset = .ok launchRef)
    (htitle : readText pack.mapping strings (offset + 8) = .ok title)
    (hsystemId : readText pack.mapping strings (offset + 16) = .ok systemId)
    (hcorePath : readText pack.mapping strings (offset + 24) = .ok corePath)
    (hpayloadPath : readText pack.mapping strings (offset + 32) = .ok payloadPath)
    (hmountKind : readText pack.mapping strings (offset + 40) = .ok mountKind)
    (hmountIndex : readLe 1 "truncated NavPack mount index" pack.mapping (offset + 48) =
      .ok mountIndex)
    (hdelaySecs : readLe 1 "truncated NavPack delay" pack.mapping (offset + 49) =
      .ok delaySecs) :
    pack.launch i = .ok ⟨launchRef, title, systemId, corePath, payloadPath, mountKind, mountIndex,
      delaySecs⟩ := by
  subst hoffset
  refine reads_bind_ok.2 ⟨(), check_ok.2 (decide_eq_true hi), ?_⟩
  refine reads_bind_ok.2 ⟨strings, hstrings, ?_⟩
  refine reads_bind_ok.2 ⟨launchRef, hlaunchRef, ?_⟩
  refine reads_bind_ok.2 ⟨title, htitle, ?_⟩
  refine reads_bind_ok.2 ⟨systemId, hsystemId, ?_⟩
  refine reads_bind_ok.2 ⟨corePath, hcorePath, ?_⟩
  refine reads_bind_ok.2 ⟨payloadPath, hpayloadPath, ?_⟩
  refine reads_bind_ok.2 ⟨mountKind, hmountKind, ?_⟩
  refine reads_bind_ok.2 ⟨mountIndex, hmountIndex, ?_⟩
  exact reads_bind_ok.2 ⟨delaySecs, hdelaySecs, rfl⟩

/-! ## 3. The records of a checked file -/

section Records

variable {record count size field width limit : Nat} {offsets : List Nat}
  {truncated : String} (h : Checked pack.mapping strings pack.header)
include h

theorem strings_eq : pack.strings = .ok strings := index_ok.2 h.stringsAt

omit h in
/-- The texts of a checked record are readable. -/
theorem texts_of_validate (hrecord : validateTexts pack.mapping strings record offsets = .ok ())
    {offset : Nat} (hoffset : offset ∈ offsets) :
    ∃ value, readText pack.mapping strings (record + offset) = .ok value := by
  obtain ⟨value, hvalue, -⟩ := reads_bind_ok.1 (forEach_ok.1 hrecord offset hoffset)
  exact ⟨value, hvalue⟩

omit h in
/-- A field of the `i`-th record of a table lies within the file. -/
theorem field_readable {start : Nat} (field : Nat) (hi : i < count) (hfield : field + width ≤ size)
    (hlimit : start + count * size ≤ pack.mapping.length) :
    ∃ value, readLe width truncated pack.mapping (start + i * size + field) = .ok value := by
  have hnext : (i + 1) * size ≤ count * size := Nat.mul_le_mul_right size hi
  rw [Nat.succ_mul] at hnext
  exact readLe_of_le (by omega)

/-- **A row can be read, and the launch plan it names, if any, is in the table.** -/
theorem row_ok (hordinal : ordinal < pack.identity.games) :
    ∃ row, pack.row ordinal = .ok row ∧
      ∀ launch ∈ row.launchIndex, launch < pack.identity.launches := by
  obtain ⟨_, htexts, hrow⟩ := reads_bind_ok.1 (h.rows ordinal hordinal)
  obtain ⟨_, -, hrow⟩ := reads_bind_ok.1 hrow
  obtain ⟨_, -, hrow⟩ := reads_bind_ok.1 hrow
  obtain ⟨launch, hlaunch, hrow⟩ := reads_bind_ok.1 hrow
  obtain ⟨_, hbound, -⟩ := reads_bind_ok.1 hrow
  obtain ⟨title, htitle⟩ := texts_of_validate htexts (by decide : 0 ∈ [0, 8, 16, 24])
  obtain ⟨launchRef, hlaunchRef⟩ := texts_of_validate htexts (by decide : 8 ∈ [0, 8, 16, 24])
  obtain ⟨archive, harchive⟩ := texts_of_validate htexts (by decide : 16 ∈ [0, 8, 16, 24])
  obtain ⟨assetKey, hassetKey⟩ := texts_of_validate htexts (by decide : 24 ∈ [0, 8, 16, 24])
  obtain ⟨flags, hflags⟩ := field_readable 40 hordinal
    (by decide : 40 + 4 ≤ NAVPACK_ROW_BYTES) h.rowsEnd
  refine ⟨_, row_eq hordinal rfl (strings_eq h) hflags hlaunch htitle hlaunchRef harchive hassetKey,
    ?_⟩
  intro named hnamed
  rcases of_decide_eq_true (check_ok.1 hbound) with hnone | hlt
  · rw [if_pos hnone] at hnamed
    cases hnamed
  · by_cases hnone : launch = NONE_U32
    · rw [if_pos hnone] at hnamed
      cases hnamed
    · rw [if_neg hnone] at hnamed
      cases hnamed
      exact hlt

theorem metadata_ok (hordinal : ordinal < pack.identity.games) :
    ∃ metadata, pack.metadata ordinal = .ok metadata := by
  obtain ⟨_, -, hrow⟩ := reads_bind_ok.1 (h.rows ordinal hordinal)
  obtain ⟨_, -, hrow⟩ := reads_bind_ok.1 hrow
  obtain ⟨_, -, hrow⟩ := reads_bind_ok.1 hrow
  obtain ⟨_, -, hrow⟩ := reads_bind_ok.1 hrow
  obtain ⟨_, -, htexts⟩ := reads_bind_ok.1 hrow
  obtain ⟨manufacturer, hmanufacturer⟩ := texts_of_validate htexts (by decide : 4 ∈ [4, 12, 20])
  obtain ⟨category, hcategory⟩ := texts_of_validate htexts (by decide : 12 ∈ [4, 12, 20])
  obtain ⟨control, hcontrol⟩ := texts_of_validate htexts (by decide : 20 ∈ [4, 12, 20])
  obtain ⟨year, hyear⟩ := field_readable 0 hordinal
    (by decide : 0 + 2 ≤ NAVPACK_COLD_BYTES) h.coldEnd
  obtain ⟨players, hplayers⟩ := field_readable 2 hordinal
    (by decide : 2 + 1 ≤ NAVPACK_COLD_BYTES) h.coldEnd
  exact ⟨_, metadata_eq hordinal rfl (strings_eq h) hyear hplayers hmanufacturer hcategory hcontrol⟩

theorem launch_ok (hi : i < pack.identity.launches) : ∃ launch, pack.launch i = .ok launch := by
  have htexts := h.launches i hi
  obtain ⟨launchRef, hlaunchRef⟩ := texts_of_validate htexts
    (by decide : 0 ∈ [0, 8, 16, 24, 32, 40])
  obtain ⟨title, htitle⟩ := texts_of_validate htexts (by decide : 8 ∈ [0, 8, 16, 24, 32, 40])
  obtain ⟨systemId, hsystemId⟩ := texts_of_validate htexts
    (by decide : 16 ∈ [0, 8, 16, 24, 32, 40])
  obtain ⟨corePath, hcorePath⟩ := texts_of_validate htexts
    (by decide : 24 ∈ [0, 8, 16, 24, 32, 40])
  obtain ⟨payloadPath, hpayloadPath⟩ := texts_of_validate htexts
    (by decide : 32 ∈ [0, 8, 16, 24, 32, 40])
  obtain ⟨mountKind, hmountKind⟩ := texts_of_validate htexts
    (by decide : 40 ∈ [0, 8, 16, 24, 32, 40])
  obtain ⟨mountIndex, hmountIndex⟩ := field_readable 48 hi
    (by decide : 48 + 1 ≤ NAVPACK_LAUNCH_BYTES) h.launchesEnd
  obtain ⟨delaySecs, hdelaySecs⟩ := field_readable 49 hi
    (by decide : 49 + 1 ≤ NAVPACK_LAUNCH_BYTES) h.launchesEnd
  exact ⟨_, launch_eq hi rfl (strings_eq h) hlaunchRef htitle hsystemId hcorePath hpayloadPath
    hmountKind hmountIndex hdelaySecs⟩

theorem entryPrelude_ok : ∃ prelude, pack.entryPrelude = .ok prelude := by
  obtain ⟨raw, prelude, hraw, hparsed⟩ := h.preludeAt
  exact ⟨prelude, reads_bind_ok.2 ⟨raw, get_ok.2 hraw, hparsed⟩⟩

end Records

/-! ## 4. The counts -/

/-- The index section is spelled from tables whose keys rise. -/
def PostingsOrdered (pack : MappedNavPack) : Prop :=
  ∃ (strings : List UInt8) (tables : IndexTables),
    slice pack.mapping pack.sections.strings.1 pack.sections.strings.2 = some strings ∧
    slice pack.mapping pack.sections.indexes.1 pack.sections.indexes.2 = some tables.spell ∧
    tables.Sized ∧ tables.Ordered strings

theorem filterCounts_of_all {raw : List UInt8} {counts : NavPackFilterCounts}
    (hstrings : pack.strings = .ok strings)
    (hraw : slice pack.mapping pack.sections.indexes.1 pack.sections.indexes.2 = some raw)
    (hcounts : takeFilterCounts strings pack.identity.games raw = .ok (counts, [])) :
    pack.filterCounts = .ok counts := by
  refine reads_bind_ok.2 ⟨raw, get_ok.2 hraw, ?_⟩
  refine reads_bind_ok.2 ⟨strings, hstrings, ?_⟩
  exact reads_bind_ok.2 ⟨(counts, []), hcounts, rfl⟩

/-- **The counts of a checked file can be read just when its postings are ordered.** -/
theorem filterCounts_ok_iff (h : Checked pack.mapping strings pack.header) :
    (∃ counts, pack.filterCounts = .ok counts) ↔ pack.PostingsOrdered := by
  obtain ⟨raw, hraw, hindexes⟩ := h.indexesAt
  constructor
  · intro hcounts
    obtain ⟨counts, hcounts⟩ := hcounts
    obtain ⟨raw', hraw', hcounts⟩ := reads_bind_ok.1 hcounts
    obtain ⟨strings', hstrings', hcounts⟩ := reads_bind_ok.1 hcounts
    obtain ⟨⟨counts', rest⟩, hcounts, -⟩ := reads_bind_ok.1 hcounts
    have hsame := index_ok.1 hstrings'
    obtain ⟨tables, hsized, rfl⟩ := takeIndexes_accepts hindexes
    obtain rfl : raw' = tables.spell := Option.some.inj ((get_ok.1 hraw').symm.trans hraw)
    obtain ⟨-, -, hordered, -⟩ := ((takeFilterCounts_onAll hsized).ok _ _).1 hcounts
    exact ⟨strings', tables, hsame, hraw, hsized, hordered⟩
  · intro hordered
    obtain ⟨strings', tables, hstrings', hraw', hsized, hordered⟩ := hordered
    obtain rfl : strings' = strings := Option.some.inj (hstrings'.symm.trans h.stringsAt)
    obtain rfl : raw = tables.spell := Option.some.inj (hraw.symm.trans hraw')
    obtain ⟨-, hvalid⟩ := ((takeIndexes_onAll hsized).ok _ _).1 hindexes
    exact ⟨_, filterCounts_of_all (strings_eq h) hraw'
      (((takeFilterCounts_onAll hsized).ok _ _).2 ⟨rfl, hvalid, hordered, rfl⟩)⟩

/-! ## 5. The counts fail with an error, if at all -/

theorem readString_ne_panic (strings : List UInt8) (reference : Nat × Nat) :
    readString strings reference ≠ .error .panic := by
  unfold readString get text
  cases slice strings reference.1 reference.2 with
  | none => simp [fail, bind, Except.bind]
  | some raw => cases hraw : utf8? raw <;> simp [fail, bind, Except.bind, hraw]

theorem careful_takeOrdinals (games : Nat) : Careful (takeOrdinals games) :=
  careful_bind (careful_takeLe _ _) fun _ => careful_fold (fun _ => careful_bind
    (careful_takeLe _ _) fun _ => careful_lift (check_ne_panic _ _)) _ _

theorem careful_peekU32 : Careful peekU32 := by
  refine ⟨fun bytes h => ?_⟩
  rcases reads_bind_panic h with h | ⟨_, -, h⟩
  · exact readLe_ne_panic _ _ _ _ h
  · cases h

theorem careful_takeLabel (strings : List UInt8) : Careful (takeLabel strings) :=
  careful_bind (careful_bind (careful_takeLe _ _) fun _ => careful_bind (careful_takeLe _ _)
    fun _ => careful_pure _) fun _ => careful_lift (readString_ne_panic _ _)

theorem careful_readStringCounts (strings : List UInt8) (games : Nat) :
    Careful (readStringCounts strings games) := by
  refine careful_bind (careful_takeLe _ _) fun _ => careful_fold (fun groups => ?_) _ _
  refine careful_bind (careful_takeLabel strings) fun _ => ?_
  refine careful_bind careful_peekU32 fun _ => ?_
  refine careful_bind (careful_takeOrdinals games) fun _ => ?_
  exact careful_bind (careful_lift (check_ne_panic _ _)) fun _ => careful_pure _

theorem careful_readNumericCounts (maximum games : Nat) :
    Careful (readNumericCounts maximum games) := by
  refine careful_bind (careful_takeLe _ _) fun _ => careful_fold (fun groups => ?_) _ _
  refine careful_bind (careful_takeLe _ _) fun _ => ?_
  refine careful_bind (careful_lift (check_ne_panic _ _)) fun _ => ?_
  refine careful_bind careful_peekU32 fun _ => ?_
  exact careful_bind (careful_takeOrdinals games) fun _ => careful_pure _

theorem careful_takeEnd : Careful takeEnd := by
  refine ⟨fun bytes h => ?_⟩
  rcases reads_bind_panic h with h | ⟨_, -, h⟩
  · exact check_ne_panic _ _ h
  · cases h

theorem careful_takeFilterCounts (strings : List UInt8) (games : Nat) :
    Careful (takeFilterCounts strings games) := by
  refine careful_bind (careful_takeOrdinals games) fun _ => ?_
  refine careful_bind (careful_takeOrdinals games) fun _ => ?_
  refine careful_bind (careful_takeOrdinals games) fun _ => ?_
  refine careful_bind (careful_readStringCounts strings games) fun _ => ?_
  refine careful_bind (careful_readNumericCounts _ games) fun _ => ?_
  refine careful_bind (careful_readStringCounts strings games) fun _ => ?_
  refine careful_bind (careful_readNumericCounts _ games) fun _ => ?_
  refine careful_bind (careful_readStringCounts strings games) fun _ => ?_
  exact careful_bind careful_takeEnd fun _ => careful_pure _

theorem filterCounts_ne_panic (h : Checked pack.mapping strings pack.header) :
    pack.filterCounts ≠ .error .panic := by
  intro hpanic
  rcases reads_bind_panic hpanic with hget | ⟨raw, -, hpanic⟩
  · unfold get at hget
    cases hslice : slice pack.mapping pack.sections.indexes.1 pack.sections.indexes.2 with
    | none => simp [hslice, fail] at hget
    | some part => simp [hslice] at hget
  · rw [strings_eq h] at hpanic
    rcases reads_bind_panic hpanic with hok | ⟨strings', -, hpanic⟩
    · cases hok
    · rcases reads_bind_panic hpanic with hcounts | ⟨_, -, hpure⟩
      · exact (careful_takeFilterCounts strings' pack.identity.games).fails raw hcounts
      · cases hpure

/-! ## 6. The readers as a whole -/

/-- The prelude, every row, its metadata and the launch plan it names can be read. -/
structure Addressable (pack : MappedNavPack) : Prop where
  entryPrelude : ∃ prelude, pack.entryPrelude = .ok prelude
  rows : ∀ ordinal < pack.identity.games, ∃ row, pack.row ordinal = .ok row ∧
    ∀ launch ∈ row.launchIndex, ∃ plan, pack.launch launch = .ok plan
  metadata : ∀ ordinal < pack.identity.games, ∃ metadata, pack.metadata ordinal = .ok metadata

/-- And the counts. -/
structure Readable (pack : MappedNavPack) : Prop where
  addressable : pack.Addressable
  filterCounts : ∃ counts, pack.filterCounts = .ok counts

theorem addressable_of_checked (h : Checked pack.mapping strings pack.header) :
    pack.Addressable where
  entryPrelude := entryPrelude_ok h
  rows := fun _ hordinal => by
    obtain ⟨row, hrow, hlaunch⟩ := row_ok h hordinal
    exact ⟨row, hrow, fun launch hmem => launch_ok h (hlaunch launch hmem)⟩
  metadata := fun _ hordinal => metadata_ok h hordinal

end MappedNavPack

/-- **A file that the validator accepts opens, as what was validated. Its rows, their metadata and
    launch plans and its prelude can be read, its counts do not panic, and every reader succeeds
    just when the postings are ordered.** -/
theorem validated_readable (bytes : List UInt8) (systemId : String) (generation games : Nat)
    (identity : NavPackIdentity) (h : validate bytes systemId generation games = .ok identity) :
    ∃ pack, MappedNavPack.openPack bytes bytes.length systemId generation games = .ok pack ∧
      pack.identity = identity ∧ pack.Addressable ∧ pack.filterCounts ≠ .error .panic ∧
      (pack.Readable ↔ pack.PostingsOrdered) := by
  obtain ⟨header, strings, hheader, hidentity, hchecked⟩ := checked_of_validate h
  refine ⟨⟨bytes, header⟩, ?_, hidentity, ?_⟩
  · refine reads_bind_ok.2 ⟨(), check_ok.2 (decide_eq_true rfl), ?_⟩
    exact reads_bind_ok.2 ⟨header, hheader, rfl⟩
  · have hpack : Checked (MappedNavPack.mk bytes header).mapping strings
        (MappedNavPack.mk bytes header).header := hchecked
    have haddressable := MappedNavPack.addressable_of_checked hpack
    have hcounts := MappedNavPack.filterCounts_ok_iff hpack
    refine ⟨haddressable, MappedNavPack.filterCounts_ne_panic hpack, ?_⟩
    exact ⟨fun hreadable => hcounts.1 hreadable.filterCounts,
      fun hordered => ⟨haddressable, hcounts.2 hordered⟩⟩

/-! ## 7. A file whose decades fall -/

/-- A row without texts, preview or launch plan. -/
def bareRow (ordinal : Nat) : List UInt8 :=
  spellRef (0, 0) ++ spellRef (0, 0) ++ spellRef (0, 0) ++ spellRef (0, 0) ++ leBytes 4 ordinal ++
    leBytes 4 NONE_U32 ++ leBytes 4 0 ++ leBytes 4 0

def bareMetadata (year : Nat) : List UInt8 :=
  leBytes 2 year ++ leBytes 1 NONE_U8 ++ leBytes 1 0 ++ spellRef (0, 0) ++ spellRef (0, 0) ++
    spellRef (0, 0) ++ leBytes 4 0

/-- Two games, of 1991 and 1984, listed under their decades. -/
def fallingTables : IndexTables where
  titleOrdinals := [0, 1]
  previewOrdinals := []
  launchOrdinals := []
  categories := []
  decades := [(1990, [0]), (1980, [1])]
  manufacturers := []
  players := []
  controls := []

def fallingPack : List UInt8 :=
  MAGIC ++ leBytes 4 2 ++ leBytes 4 160 ++ leBytes 4 ENDIAN_MARKER ++ leBytes 4 48 ++
    leBytes 4 32 ++ leBytes 4 64 ++ leBytes 8 7 ++ leBytes 4 2 ++ leBytes 4 0 ++ spellRef (0, 3) ++
    (leBytes 8 208 ++ leBytes 8 96) ++ (leBytes 8 304 ++ leBytes 8 64) ++
    (leBytes 8 368 ++ leBytes 8 0) ++ (leBytes 8 368 ++ leBytes 8 64) ++
    (leBytes 8 432 ++ leBytes 8 3) ++ (leBytes 8 160 ++ leBytes 8 48) ++ leBytes 8 0 ++
    (PRELUDE_MAGIC ++ leBytes 4 1 ++ leBytes 4 48 ++ leBytes 4 0 ++ leBytes 4 NONE_U32 ++
      leBytes 4 1 ++ leBytes 4 0 ++ leBytes 4 0 ++ leBytes 4 0 ++ leBytes 4 0 ++ leBytes 4 0) ++
    bareRow 0 ++ bareRow 1 ++ bareMetadata 1991 ++ bareMetadata 1984 ++ fallingTables.spell ++
    utf8 "c64"

theorem validated_readable_falling :
    validate fallingPack "c64" 7 2 = .ok ⟨"c64", 7, 2, 0⟩ ∧
      ∃ pack, MappedNavPack.openPack fallingPack fallingPack.length "c64" 7 2 = .ok pack ∧
        pack.identity = ⟨"c64", 7, 2, 0⟩ ∧ pack.Addressable ∧
        pack.filterCounts ≠ .error .panic ∧ (pack.Readable ↔ pack.PostingsOrdered) :=
  have h : validate fallingPack "c64" 7 2 = .ok ⟨"c64", 7, 2, 0⟩ := by decide +kernel
  ⟨h, validated_readable fallingPack "c64" 7 2 ⟨"c64", 7, 2, 0⟩ h⟩

/-- The validator accepts decades that fall, and the counts are refused. -/
theorem falling_decades_refused : ¬ ∀ (bytes : List UInt8) (systemId : String)
    (generation games : Nat) (identity : NavPackIdentity),
    validate bytes systemId generation games = .ok identity →
      ∃ pack, MappedNavPack.openPack bytes bytes.length systemId generation games = .ok pack ∧
        pack.Readable := by
  intro hall
  obtain ⟨pack, hopen, hreadable⟩ := hall fallingPack "c64" 7 2 ⟨"c64", 7, 2, 0⟩
    (by decide +kernel)
  obtain ⟨counts, hcounts⟩ := hreadable.filterCounts
  have hread : (MappedNavPack.openPack fallingPack fallingPack.length "c64" 7 2 >>=
      fun pack => pack.filterCounts) =
        fail "NavPack numeric postings have invalid or unordered keys" := by decide +kernel
  rw [hopen] at hread
  have hfail : pack.filterCounts =
      fail "NavPack numeric postings have invalid or unordered keys" := hread
  rw [hcounts] at hfail
  cases hfail

end MisterMagik.Catalog
