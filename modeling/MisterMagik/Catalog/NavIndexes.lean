/-
  File:      MisterMagik/Catalog/NavIndexes.lean
  Subject:   The index section as tables, and what the two walks over it make of them.

  `validate_indexes` and `filter_counts` walk the same bytes. Here the bytes are spelled from
  tables, so that each walk is described by what it asks of the tables.

  * `takeIndexes_onAll` -- the validator asks for `IndexTables.Valid`;
  * `takeFilterCounts_onAll` -- the counts ask for `IndexTables.Ordered` as well;
  * `takeIndexes_accepts` -- what the validator accepts is spelled from tables.
-/
import MisterMagik.Catalog.NavPack

namespace MisterMagik.Catalog

open MisterMagik.Base

/-! ## 1. Tables and their spelling -/

structure IndexTables where
  titleOrdinals : List Nat
  previewOrdinals : List Nat
  launchOrdinals : List Nat
  categories : List ((Nat × Nat) × List Nat)
  decades : List (Nat × List Nat)
  manufacturers : List ((Nat × Nat) × List Nat)
  players : List (Nat × List Nat)
  controls : List ((Nat × Nat) × List Nat)

def spellOrdinals (ordinals : List Nat) : List UInt8 := spellCounted 4 (leBytes 4) ordinals

def spellRef (reference : Nat × Nat) : List UInt8 :=
  leBytes 4 reference.1 ++ leBytes 4 reference.2

def spellStringPosting (posting : (Nat × Nat) × List Nat) : List UInt8 :=
  spellRef posting.1 ++ spellOrdinals posting.2

def spellNumericPosting (posting : Nat × List Nat) : List UInt8 :=
  leBytes 4 posting.1 ++ spellOrdinals posting.2

def IndexTables.spell (tables : IndexTables) : List UInt8 :=
  spellOrdinals tables.titleOrdinals ++
    (spellOrdinals tables.previewOrdinals ++
      (spellOrdinals tables.launchOrdinals ++
        (spellCounted 4 spellStringPosting tables.categories ++
          (spellCounted 4 spellNumericPosting tables.decades ++
            (spellCounted 4 spellStringPosting tables.manufacturers ++
              (spellCounted 4 spellNumericPosting tables.players ++
                (spellCounted 4 spellStringPosting tables.controls ++ [])))))))

/-- A number of 32 bits. -/
abbrev Small (value : Nat) : Prop := value < 256 ^ 4

def SmallOrdinals (ordinals : List Nat) : Prop :=
  Small ordinals.length ∧ ∀ ordinal ∈ ordinals, Small ordinal

def SmallStrings (postings : List ((Nat × Nat) × List Nat)) : Prop :=
  Small postings.length ∧
    ∀ posting ∈ postings, (Small posting.1.1 ∧ Small posting.1.2) ∧ SmallOrdinals posting.2

def SmallNumbers (postings : List (Nat × List Nat)) : Prop :=
  Small postings.length ∧ ∀ posting ∈ postings, Small posting.1 ∧ SmallOrdinals posting.2

/-- The tables can be spelled with 32-bit numbers. -/
structure IndexTables.Sized (tables : IndexTables) : Prop where
  titleOrdinals : SmallOrdinals tables.titleOrdinals
  previewOrdinals : SmallOrdinals tables.previewOrdinals
  launchOrdinals : SmallOrdinals tables.launchOrdinals
  categories : SmallStrings tables.categories
  decades : SmallNumbers tables.decades
  manufacturers : SmallStrings tables.manufacturers
  players : SmallNumbers tables.players
  controls : SmallStrings tables.controls

/-! ## 2. What the walks ask -/

/-- The text a reference names, where it names one. -/
def labelOf (strings : List UInt8) (reference : Nat × Nat) : String :=
  match readString strings reference with
  | .ok label => label
  | .error _ => ""

def Below (games : Nat) (ordinals : List Nat) : Prop := ∀ ordinal ∈ ordinals, ordinal < games

def Named (strings : List UInt8) (reference : Nat × Nat) : Prop :=
  readString strings reference = .ok (labelOf strings reference)

def ValidStrings (strings : List UInt8) (games : Nat)
    (postings : List ((Nat × Nat) × List Nat)) : Prop :=
  ∀ posting ∈ postings, Named strings posting.1 ∧ Below games posting.2

def ValidNumbers (games : Nat) (postings : List (Nat × List Nat)) : Prop :=
  ∀ posting ∈ postings, Below games posting.2

/-- What `validate_indexes` asks. -/
structure IndexTables.Valid (tables : IndexTables) (strings : List UInt8) (games : Nat) :
    Prop where
  titleOrdinals : Below games tables.titleOrdinals
  previewOrdinals : Below games tables.previewOrdinals
  launchOrdinals : Below games tables.launchOrdinals
  categories : ValidStrings strings games tables.categories
  decades : ValidNumbers games tables.decades
  manufacturers : ValidStrings strings games tables.manufacturers
  players : ValidNumbers games tables.players
  controls : ValidStrings strings games tables.controls

/-- The labels rise. -/
def RisingStrings (strings : List UInt8) (postings : List ((Nat × Nat) × List Nat)) : Prop :=
  (postings.map fun posting => labelOf strings posting.1).Pairwise fun a b => strLt a b = true

/-- The keys rise, up to a bound. -/
def RisingNumbers (maximum : Nat) (postings : List (Nat × List Nat)) : Prop :=
  (∀ posting ∈ postings, posting.1 ≤ maximum) ∧ (postings.map (·.1)).Pairwise (· < ·)

/-- What `filter_counts` asks beyond it. -/
structure IndexTables.Ordered (tables : IndexTables) (strings : List UInt8) : Prop where
  categories : RisingStrings strings tables.categories
  decades : RisingNumbers NONE_U16 tables.decades
  manufacturers : RisingStrings strings tables.manufacturers
  players : RisingNumbers NONE_U8 tables.players
  controls : RisingStrings strings tables.controls

def stringCount (strings : List UInt8) (posting : (Nat × Nat) × List Nat) : String × Nat :=
  (labelOf strings posting.1, posting.2.length)

def numericCount (posting : Nat × List Nat) : Nat × Nat := (posting.1, posting.2.length)

def IndexTables.counts (tables : IndexTables) (strings : List UInt8) : NavPackFilterCounts where
  categories := tables.categories.map (stringCount strings)
  decades := tables.decades.map numericCount
  manufacturers := tables.manufacturers.map (stringCount strings)
  players := tables.players.map numericCount
  controls := tables.controls.map (stringCount strings)

/-! ## 3. Ordinals and labels -/

section Walks

variable {bytes strings : List UInt8} {games maximum : Nat} {reference : Nat × Nat}
  {ordinals : List Nat}

theorem named_iff {label : String} :
    readString strings reference = .ok label ↔
      Named strings reference ∧ label = labelOf strings reference := by
  unfold Named labelOf
  cases readString strings reference with
  | error fault => simp
  | ok label' => simp [eq_comm]

theorem takeOrdinals_onSpelled (h : SmallOrdinals ordinals) :
    OnSpelled (takeOrdinals games) (spellOrdinals ordinals) fun _ => Below games ordinals := by
  have hround : ∀ ordinal ∈ ordinals, ∀ kept : Unit, OnSpelled (takeOrdinal games kept)
      (leBytes 4 ordinal) (fun _ => ordinal < games) := by
    intro ordinal hordinal kept
    have hspelled : OnSpelled (takeOrdinal games kept) (leBytes 4 ordinal ++ []) fun _ =>
        decide (ordinal < games) = true := by
      refine onSpelled_then (onSpelled_takeLe (h.2 ordinal hordinal)) ?_
      exact onSpelled_check _ _
    rw [List.append_nil] at hspelled
    exact hspelled.congr fun _ => by rw [decide_eq_true_eq]
  refine (onSpelled_counted () h.1 hround).congr fun _ => ?_
  exact rounds_unit (fun _ => Iff.rfl) ordinals

theorem takeRef_onSpelled (h : Small reference.1 ∧ Small reference.2) :
    OnSpelled takeRef (spellRef reference) (· = reference) := by
  have hspelled : OnSpelled takeRef (leBytes 4 reference.1 ++ (leBytes 4 reference.2 ++ []))
      (· = reference) := by
    refine onSpelled_then (onSpelled_takeLe h.1) ?_
    refine onSpelled_then (onSpelled_takeLe h.2) ?_
    exact onSpelled_pure reference
  rw [List.append_nil] at hspelled
  exact hspelled

theorem takeLabel_onSpelled (h : Small reference.1 ∧ Small reference.2) :
    OnSpelled (takeLabel strings) (spellRef reference)
      fun label => Named strings reference ∧ label = labelOf strings reference := by
  have hspelled : OnSpelled (takeLabel strings) (spellRef reference ++ [])
      fun label => readString strings reference = .ok label := by
    refine onSpelled_then (takeRef_onSpelled h) ?_
    exact onSpelled_lift _
  rw [List.append_nil] at hspelled
  exact hspelled.congr fun label => named_iff

/-- The number that is peeked at is the one that is taken next. -/
theorem onSpelled_peek {β : Type} (h : SmallOrdinals ordinals) {f : Nat → Takes β}
    {more : List UInt8} {Then : β → Prop}
    (hf : OnSpelled (f ordinals.length) (spellOrdinals ordinals ++ more) Then) :
    OnSpelled (peekU32 >>= f) (spellOrdinals ordinals ++ more) Then where
  ok rest b rest' := by
    have hfront : slice (leBytes 4 ordinals.length) 0 4 = some (leBytes 4 ordinals.length) := by
      simpa using slice_all (leBytes 4 ordinals.length)
    have hslice : slice (spellOrdinals ordinals ++ more ++ rest) 0 4 =
        some (leBytes 4 ordinals.length) := by
      unfold spellOrdinals spellCounted
      rw [List.append_assoc, List.append_assoc]
      exact slice_append_left hfront
    have hpeek : peekU32 (spellOrdinals ordinals ++ more ++ rest) =
        .ok (ordinals.length, spellOrdinals ordinals ++ more ++ rest) := by
      unfold peekU32 readU32
      rw [readLe_eq hslice h.1]
      rfl
    rw [← hf.ok rest b rest', takes_bind_ok]
    constructor
    · intro h'
      obtain ⟨entries, mid, hentries, hrest⟩ := h'
      rw [hpeek] at hentries
      cases hentries
      exact hrest
    · intro h'
      exact ⟨_, _, hpeek, h'⟩

/-! ## 4. Postings -/

theorem takeStringPostings_onSpelled {postings : List ((Nat × Nat) × List Nat)}
    (h : SmallStrings postings) :
    OnSpelled (takeStringPostings strings games) (spellCounted 4 spellStringPosting postings)
      fun _ => ValidStrings strings games postings := by
  have hround : ∀ posting ∈ postings, ∀ kept : Unit,
      OnSpelled (takeStringPosting strings games kept) (spellStringPosting posting)
        (fun _ => Named strings posting.1 ∧ Below games posting.2) := by
    intro posting hposting kept
    have hsmall := h.2 posting hposting
    exact onSpelled_given (takeLabel_onSpelled hsmall.1) (takeOrdinals_onSpelled hsmall.2)
  refine (onSpelled_counted () h.1 hround).congr fun _ => ?_
  exact rounds_unit (fun _ => Iff.rfl) postings

theorem takeNumericPostings_onSpelled {postings : List (Nat × List Nat)}
    (h : SmallNumbers postings) :
    OnSpelled (takeNumericPostings 4 games) (spellCounted 4 spellNumericPosting postings)
      fun _ => ValidNumbers games postings := by
  have hround : ∀ posting ∈ postings, ∀ kept : Unit,
      OnSpelled (takeNumericPosting 4 games kept) (spellNumericPosting posting)
        (fun _ => Below games posting.2) := by
    intro posting hposting kept
    have hkey : OnSpelled (take 4 "truncated NavPack index") (leBytes 4 posting.1)
        (· = leBytes 4 posting.1) := by
      have htake := onSpelled_take "truncated NavPack index" (leBytes 4 posting.1)
      rw [length_leBytes] at htake
      exact htake
    exact onSpelled_then hkey (takeOrdinals_onSpelled (h.2 posting hposting).2)
  refine (onSpelled_counted () h.1 hround).congr fun _ => ?_
  exact rounds_unit (fun _ => Iff.rfl) postings

theorem readStringCounts_onSpelled {postings : List ((Nat × Nat) × List Nat)}
    (h : SmallStrings postings) :
    OnSpelled (readStringCounts strings games) (spellCounted 4 spellStringPosting postings)
      fun groups => (ValidStrings strings games postings ∧ RisingStrings strings postings) ∧
        groups = postings.map (stringCount strings) := by
  have hround : ∀ posting ∈ postings, ∀ groups, OnSpelled (readStringCount strings games groups)
      (spellStringPosting posting) (fun groups' => Named strings posting.1 ∧
        Below games posting.2 ∧
          (groups.getLast?.all fun previous =>
            strLt previous.1 (labelOf strings posting.1)) = true ∧
          groups' = groups ++ [stringCount strings posting]) := by
    intro posting hposting groups
    have hsmall := h.2 posting hposting
    refine onSpelled_given (takeLabel_onSpelled hsmall.1) ?_
    rw [← List.append_nil (spellOrdinals posting.2)]
    refine onSpelled_peek hsmall.2 ?_
    refine onSpelled_after (takeOrdinals_onSpelled hsmall.2) ?_
    refine onSpelled_checked ?_
    exact onSpelled_pure _
  refine (onSpelled_counted [] h.1 hround).congr fun groups => ?_
  have hpushed := rounds_pushed (α := String × Nat) (fun a b => strLt a.1 b.1)
    (fun _ _ _ => strLt_trans) (fun posting => Named strings posting.1 ∧ Below games posting.2)
    (stringCount strings) (fun _ _ _ => and_assoc.symm) postings List.Pairwise.nil groups
  rw [List.nil_append, List.pairwise_map] at hpushed
  unfold RisingStrings
  rw [List.pairwise_map, and_assoc]
  exact hpushed

theorem readNumericCounts_onSpelled {postings : List (Nat × List Nat)} (h : SmallNumbers postings) :
    OnSpelled (readNumericCounts maximum games) (spellCounted 4 spellNumericPosting postings)
      fun groups => (ValidNumbers games postings ∧ RisingNumbers maximum postings) ∧
        groups = postings.map numericCount := by
  have hround : ∀ posting ∈ postings, ∀ groups, OnSpelled (readNumericCount maximum games groups)
      (spellNumericPosting posting) (fun groups' =>
        (posting.1 ≤ maximum ∧ Below games posting.2) ∧
          (groups.getLast?.all fun previous => decide (previous.1 < posting.1)) = true ∧
          groups' = groups ++ [numericCount posting]) := by
    intro posting hposting groups
    have hsmall := h.2 posting hposting
    have hspelled : OnSpelled (readNumericCount maximum games groups)
        (leBytes 4 posting.1 ++ (spellOrdinals posting.2 ++ [])) (fun groups' =>
          decide (posting.1 ≤ maximum ∧
            (groups.getLast?.all fun previous => decide (previous.1 < posting.1)) = true) = true ∧
          Below games posting.2 ∧ groups' = groups ++ [numericCount posting]) := by
      refine onSpelled_then (onSpelled_takeLe hsmall.1) ?_
      refine onSpelled_checked ?_
      refine onSpelled_peek hsmall.2 ?_
      refine onSpelled_after (takeOrdinals_onSpelled hsmall.2) ?_
      exact onSpelled_pure _
    rw [List.append_nil] at hspelled
    refine hspelled.congr fun groups' => ?_
    rw [decide_eq_true_eq]
    exact ⟨fun ⟨hkey, hbelow, hpushed⟩ => ⟨⟨hkey.1, hbelow⟩, hkey.2, hpushed⟩,
      fun ⟨hfine, hlast, hpushed⟩ => ⟨⟨hfine.1, hlast⟩, hfine.2, hpushed⟩⟩
  refine (onSpelled_counted [] h.1 hround).congr fun groups => ?_
  have hpushed := rounds_pushed (α := Nat × Nat) (fun a b => decide (a.1 < b.1))
    (fun _ _ _ hab hbc => decide_eq_true
      (Nat.lt_trans (of_decide_eq_true hab) (of_decide_eq_true hbc)))
    (fun posting => posting.1 ≤ maximum ∧ Below games posting.2) numericCount
    (fun _ _ _ => Iff.rfl) postings List.Pairwise.nil groups
  rw [List.nil_append, List.pairwise_map] at hpushed
  unfold RisingNumbers
  rw [List.pairwise_map]
  refine hpushed.trans ?_
  simp only [decide_eq_true_eq]
  exact ⟨fun ⟨hfine, hpairs, hgroups⟩ => ⟨⟨fun posting hp => (hfine posting hp).2,
      fun posting hp => (hfine posting hp).1, hpairs⟩, hgroups⟩,
    fun ⟨⟨hbelow, hkey, hpairs⟩, hgroups⟩ =>
      ⟨fun posting hp => ⟨hkey posting hp, hbelow posting hp⟩, hpairs, hgroups⟩⟩

/-! ## 5. The section as a whole -/

theorem takeEnd_onAll : OnAll takeEnd [] fun _ => True where
  ok a rest := by
    have h : takeEnd [] = .ok ((), []) := rfl
    rw [h]
    exact ⟨fun h' => by cases h'; exact ⟨rfl, trivial⟩, fun h' => by rw [h'.1]⟩

theorem takeEnd_ok {rest : List UInt8} (h : takeEnd bytes = .ok ((), rest)) : bytes = [] := by
  unfold takeEnd at h
  obtain ⟨_, hcheck, -⟩ := reads_bind_ok.1 h
  exact List.isEmpty_iff.1 (check_ok.1 hcheck)

theorem takeEnd_pure_onAll {α : Type} (a : α) :
    OnAll (takeEnd >>= fun _ => pure a) [] (· = a) where
  ok b rest := by
    rw [takes_bind_ok]
    constructor
    · intro h
      obtain ⟨_, mid, hend, hpure⟩ := h
      obtain ⟨rfl, -⟩ := (takeEnd_onAll.ok _ _).1 hend
      exact takes_pure_ok.1 hpure
    · intro h
      exact ⟨(), [], (takeEnd_onAll.ok _ _).2 ⟨rfl, trivial⟩, takes_pure_ok.2 h⟩

/-- **What the validator asks of the tables.** -/
theorem takeIndexes_onAll {tables : IndexTables} (h : tables.Sized) :
    OnAll (takeIndexes strings games) tables.spell fun _ => tables.Valid strings games := by
  have hall : OnAll (takeIndexes strings games) tables.spell fun _ =>
      Below games tables.titleOrdinals ∧ Below games tables.previewOrdinals ∧
        Below games tables.launchOrdinals ∧ ValidStrings strings games tables.categories ∧
        ValidNumbers games tables.decades ∧ ValidStrings strings games tables.manufacturers ∧
        ValidNumbers games tables.players ∧ ValidStrings strings games tables.controls ∧ True := by
    refine onAll_after (takeOrdinals_onSpelled h.titleOrdinals) ?_
    refine onAll_after (takeOrdinals_onSpelled h.previewOrdinals) ?_
    refine onAll_after (takeOrdinals_onSpelled h.launchOrdinals) ?_
    refine onAll_after (takeStringPostings_onSpelled h.categories) ?_
    refine onAll_after (takeNumericPostings_onSpelled h.decades) ?_
    refine onAll_after (takeStringPostings_onSpelled h.manufacturers) ?_
    refine onAll_after (takeNumericPostings_onSpelled h.players) ?_
    refine onAll_after (takeStringPostings_onSpelled h.controls) ?_
    exact takeEnd_onAll
  refine hall.congr fun _ => ?_
  exact ⟨fun ⟨h1, h2, h3, h4, h5, h6, h7, h8, _⟩ => ⟨h1, h2, h3, h4, h5, h6, h7, h8⟩,
    fun ⟨h1, h2, h3, h4, h5, h6, h7, h8⟩ => ⟨h1, h2, h3, h4, h5, h6, h7, h8, trivial⟩⟩

/-- **What the counts ask of the tables, and what they are.** -/
theorem takeFilterCounts_onAll {tables : IndexTables} (h : tables.Sized) :
    OnAll (takeFilterCounts strings games) tables.spell fun counts =>
      tables.Valid strings games ∧ tables.Ordered strings ∧ counts = tables.counts strings := by
  have hall : OnAll (takeFilterCounts strings games) tables.spell fun counts =>
      Below games tables.titleOrdinals ∧ Below games tables.previewOrdinals ∧
        Below games tables.launchOrdinals ∧
        (ValidStrings strings games tables.categories ∧
          RisingStrings strings tables.categories) ∧
        (ValidNumbers games tables.decades ∧ RisingNumbers NONE_U16 tables.decades) ∧
        (ValidStrings strings games tables.manufacturers ∧
          RisingStrings strings tables.manufacturers) ∧
        (ValidNumbers games tables.players ∧ RisingNumbers NONE_U8 tables.players) ∧
        (ValidStrings strings games tables.controls ∧ RisingStrings strings tables.controls) ∧
        counts = tables.counts strings := by
    refine onAll_after (takeOrdinals_onSpelled h.titleOrdinals) ?_
    refine onAll_after (takeOrdinals_onSpelled h.previewOrdinals) ?_
    refine onAll_after (takeOrdinals_onSpelled h.launchOrdinals) ?_
    refine onAll_given (readStringCounts_onSpelled h.categories) ?_
    refine onAll_given (readNumericCounts_onSpelled h.decades) ?_
    refine onAll_given (readStringCounts_onSpelled h.manufacturers) ?_
    refine onAll_given (readNumericCounts_onSpelled h.players) ?_
    refine onAll_given (readStringCounts_onSpelled h.controls) ?_
    exact takeEnd_pure_onAll _
  refine hall.congr fun counts => ?_
  exact ⟨fun ⟨h1, h2, h3, h4, h5, h6, h7, h8, hcounts⟩ =>
      ⟨⟨h1, h2, h3, h4.1, h5.1, h6.1, h7.1, h8.1⟩, ⟨h4.2, h5.2, h6.2, h7.2, h8.2⟩, hcounts⟩,
    fun ⟨⟨h1, h2, h3, h4, h5, h6, h7, h8⟩, ⟨k4, k5, k6, k7, k8⟩, hcounts⟩ =>
      ⟨h1, h2, h3, ⟨h4, k4⟩, ⟨h5, k5⟩, ⟨h6, k6⟩, ⟨h7, k7⟩, ⟨h8, k8⟩, hcounts⟩⟩

/-! ## 6. What the validator accepts is spelled from tables -/

theorem takeOrdinals_accepts :
    Accepts (takeOrdinals games) spellOrdinals SmallOrdinals := by
  refine accepts_counted (fun _ => ⟨fun bytes _ rest h => ?_⟩) ()
  obtain ⟨ordinal, mid, hordinal, hcheck⟩ := takes_bind_ok.1 h
  obtain ⟨rfl, -⟩ := takes_lift_ok.1 hcheck
  exact ⟨ordinal, takeLe_ok.1 hordinal⟩

theorem takeRef_accepts {rest : List UInt8} (h : takeRef bytes = .ok (reference, rest)) :
    (Small reference.1 ∧ Small reference.2) ∧ bytes = spellRef reference ++ rest := by
  obtain ⟨start, mid, hstart, h⟩ := takes_bind_ok.1 h
  obtain ⟨length, mid', hlength, h⟩ := takes_bind_ok.1 h
  obtain ⟨rfl, rfl⟩ := takes_pure_ok.1 h
  obtain ⟨hs, rfl⟩ := takeLe_ok.1 hstart
  obtain ⟨hl, rfl⟩ := takeLe_ok.1 hlength
  exact ⟨⟨hs, hl⟩, by rw [spellRef, List.append_assoc]⟩

theorem takeStringPostings_accepts :
    Accepts (takeStringPostings strings games) (spellCounted 4 spellStringPosting)
      SmallStrings := by
  refine accepts_counted (fun _ => ⟨fun bytes _ rest h => ?_⟩) ()
  obtain ⟨label, mid, hlabel, hordinals⟩ := takes_bind_ok.1 h
  obtain ⟨reference, mid', href, hread⟩ := takes_bind_ok.1 hlabel
  obtain ⟨rfl, -⟩ := takes_lift_ok.1 hread
  obtain ⟨hsmall, rfl⟩ := takeRef_accepts href
  obtain ⟨ordinals, hords, rfl⟩ := takeOrdinals_accepts.spelled _ _ _ hordinals
  exact ⟨(reference, ordinals), ⟨hsmall, hords⟩, by rw [spellStringPosting, List.append_assoc]⟩

theorem takeNumericPostings_accepts :
    Accepts (takeNumericPostings 4 games) (spellCounted 4 spellNumericPosting) SmallNumbers := by
  refine accepts_counted (fun _ => ⟨fun bytes _ rest h => ?_⟩) ()
  obtain ⟨raw, mid, hraw, hordinals⟩ := takes_bind_ok.1 h
  obtain ⟨hlen, rfl⟩ := take_ok.1 hraw
  obtain ⟨ordinals, hords, rfl⟩ := takeOrdinals_accepts.spelled _ _ _ hordinals
  have hkey := leValue_lt raw
  have hspell := leBytes_leValue raw
  rw [hlen] at hkey hspell
  refine ⟨(leValue raw, ordinals), ⟨hkey, hords⟩, ?_⟩
  rw [spellNumericPosting, hspell, List.append_assoc]

/-- **What the validator accepts is spelled from tables.** -/
theorem takeIndexes_accepts {rest : List UInt8}
    (h : takeIndexes strings games bytes = .ok ((), rest)) :
    ∃ tables : IndexTables, tables.Sized ∧ bytes = tables.spell := by
  obtain ⟨_, _, h1, g1⟩ := takes_bind_ok.1 h
  obtain ⟨titles, htitles, rfl⟩ := takeOrdinals_accepts.spelled _ _ _ h1
  obtain ⟨_, _, h2, g2⟩ := takes_bind_ok.1 g1
  obtain ⟨previews, hpreviews, rfl⟩ := takeOrdinals_accepts.spelled _ _ _ h2
  obtain ⟨_, _, h3, g3⟩ := takes_bind_ok.1 g2
  obtain ⟨launches, hlaunches, rfl⟩ := takeOrdinals_accepts.spelled _ _ _ h3
  obtain ⟨_, _, h4, g4⟩ := takes_bind_ok.1 g3
  obtain ⟨categories, hcategories, rfl⟩ := takeStringPostings_accepts.spelled _ _ _ h4
  obtain ⟨_, _, h5, g5⟩ := takes_bind_ok.1 g4
  obtain ⟨decades, hdecades, rfl⟩ := takeNumericPostings_accepts.spelled _ _ _ h5
  obtain ⟨_, _, h6, g6⟩ := takes_bind_ok.1 g5
  obtain ⟨manufacturers, hmanufacturers, rfl⟩ := takeStringPostings_accepts.spelled _ _ _ h6
  obtain ⟨_, _, h7, g7⟩ := takes_bind_ok.1 g6
  obtain ⟨players, hplayers, rfl⟩ := takeNumericPostings_accepts.spelled _ _ _ h7
  obtain ⟨_, _, h8, g8⟩ := takes_bind_ok.1 g7
  obtain ⟨controls, hcontrols, rfl⟩ := takeStringPostings_accepts.spelled _ _ _ h8
  obtain rfl := takeEnd_ok g8
  exact ⟨⟨titles, previews, launches, categories, decades, manufacturers, players, controls⟩,
    ⟨htitles, hpreviews, hlaunches, hcategories, hdecades, hmanufacturers, hplayers, hcontrols⟩,
    rfl⟩

end Walks

end MisterMagik.Catalog
