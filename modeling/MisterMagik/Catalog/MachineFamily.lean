/-
  File:      MisterMagik/Catalog/MachineFamily.lean
  Subject:   Arcade machines, their families, and the families screenshots are filed under
             (crates/catalog/src/machine_family.rs, library_db.rs, runtime_metadata.rs).

  * `normalize` -- the one spelling of a name;
  * `runtimeRow` -- a machine's family, by the chain of its parents;
  * `parseReviewedFamilies` -- the reviewed identities that go before the machines;
  * `MachineFamilyResolver.screenshotFamilies` -- both, one after the other.

  The maps of the source are in the order of their keys; where a loop over one only fills another
  map the order is left open here.
-/
import MisterMagik.Base.Chase
import MisterMagik.Base.Lines
import MisterMagik.Base.Table
import Mathlib.Data.List.Sort

namespace MisterMagik.Catalog.MachineFamily

open MisterMagik.Base

/-! ## 1. Names -/

/-- The text `normalize_id` has so far. -/
structure IdText where
  out : List Char
  lastDash : Bool

/-- One round of its loop. -/
def IdText.push (text : IdText) (ch : Char) : IdText :=
  if ch.isAlphanum then ⟨text.out ++ [ch], false⟩
  else if !text.lastDash && !text.out.isEmpty then ⟨text.out ++ ['-'], true⟩
  else text

/-- The loop, and the dashes at the end popped. -/
def idText (characters : List Char) : List Char :=
  (characters.foldl IdText.push ⟨[], false⟩).out.rdropWhile (· = '-')

/-- `normalize_id`. -/
def normalizeId (value : String) : String :=
  let out := idText ((trim value.toList).flatMap toLowercase)
  if out = [] then "unknown" else String.ofList out

def normalize (value : String) : String :=
  if normalizeId value = "unknown" then "" else normalizeId value

/-! ## 2. Machines -/

inductive RomNamespace where
  | mame
  | hbmame
  deriving DecidableEq

structure ArcadeMachine where
  setname : String
  parentSetname : Option String
  deriving DecidableEq

/-- The parent of a machine, an empty one being none. -/
def ArcadeMachine.parent (machine : ArcadeMachine) : Option String :=
  machine.parentSetname.filter (· ≠ "")

/-- What `decode_arcade` checks of a list of machines. -/
def SortedRows (rows : List ArcadeMachine) : Prop :=
  rows.Pairwise fun a b => strLt a.setname b.setname = true

structure ArcadeShard where
  mame : List ArcadeMachine
  hbmame : List ArcadeMachine
  mameSorted : SortedRows mame
  hbmameSorted : SortedRows hbmame

namespace ArcadeShard

variable (shard : ArcadeShard)

def rows (hbmame : Bool) : List ArcadeMachine := if hbmame then shard.hbmame else shard.mame

/-- `machine`, a binary search in rows no two of which have one name. -/
def machine (hbmame : Bool) (setname : String) : Option ArcadeMachine :=
  (shard.rows hbmame).find? fun row => row.setname = setname

/-- The loop of `runtime_row`: without fuel nothing, in a cycle `some none`, and else where the
parents stop. -/
def walk (hbmame : Bool) : Nat → List String → ArcadeMachine → Option (Option ArcadeMachine)
  | 0, _, _ => none
  | fuel + 1, seen, family =>
      match family.parent with
      | none => some (some family)
      | some parent =>
          if family.setname ∈ seen then some none
          else
            match shard.machine hbmame parent with
            | none => some (some family)
            | some next => walk hbmame fuel (family.setname :: seen) next

end ArcadeShard

inductive MachineSource where
  | mame
  | hbmame
  deriving DecidableEq

structure ResolvedMachine where
  identity : String
  family : String
  source : MachineSource
  deriving DecidableEq

/-- The name of a family: that of the machine the parents stop at, or of the parent it lacks. -/
def familyName (shard : ArcadeShard) (hbmame : Bool) (family : ArcadeMachine) : String :=
  ((family.parent.filter fun parent => (shard.machine hbmame parent).isNone).map normalize).getD
    (normalize family.setname)

/-- The list `runtime_row` finds a name in, and the machine. -/
def located (shard : ArcadeShard) (identity : String) (romNamespace : Option RomNamespace) :
    Option (Bool × ArcadeMachine) :=
  let preferred := decide (romNamespace = some .hbmame)
  [preferred, !preferred].findSome? fun hbmame =>
    (shard.machine hbmame identity).map fun machine => (hbmame, machine)

def runtimeRow (shard : ArcadeShard) (identity : String) (romNamespace : Option RomNamespace) :
    Option ResolvedMachine :=
  match located shard identity romNamespace with
  | none => none
  | some (hbmame, machine) =>
      match shard.walk hbmame ((shard.rows hbmame).length + 1) [] machine with
      | some (some family) =>
          some {
            identity := normalize machine.setname
            family := familyName shard hbmame family
            source := if hbmame then .hbmame else .mame }
      | _ => none

/-! ## 3. The reviewed families -/

/-- `valid_key`. -/
def validKey (key : List Char) : Bool :=
  key.head?.any Char.isAlphanum && key ≠ "unknown".toList && !".zip".toList.isSuffixOf key &&
    key.all fun c => isLower c || c.isDigit || ['_', '.', '-'].contains c

/-- `evidence.strip_prefix("https://").and_then(|url| url.split('/').next())`. -/
def evidenceHost (evidence : List Char) : Option (List Char) :=
  if "https://".toList.isPrefixOf evidence then
    some ((evidence.drop "https://".length).takeWhile (· ≠ '/'))
  else none

/-- One line of the table, with its index. -/
def addReviewed (families : Table String String) (row : List Char × Nat) :
    Except String (Table String String) :=
  if row.1 = [] ∨ row.1.head? = some '#' then .ok families
  else
    match row.1.splitOn '\t' with
    | [key, family, evidence] =>
        if !validKey key || !validKey family then
          .error ("invalid reviewed screenshot family row " ++ toString (row.2 + 1))
        else if normalize (String.ofList key) = normalize (String.ofList family) ∨
            (evidenceHost evidence).all List.isEmpty ∨ evidence.any isWhitespace ∨
            normalize (String.ofList key) ∈ families then
          .error ("duplicate, self-referencing or unverified screenshot family row " ++
            toString (row.2 + 1))
        else .ok (families.insert (normalize (String.ofList key)) (String.ofList family))
    | _ => .error ("invalid reviewed screenshot family row " ++ toString (row.2 + 1))

def parseReviewedFamilies (data : String) : Except String (Table String String) := do
  let families ← (strLines data.toList).zipIdx.foldlM addReviewed ∅
  if (Table.pairs families).any fun row => normalize row.2 ∈ families then
    .error "reviewed screenshot families must point directly to parents"
  else .ok families

/-- `reviewed_screenshot_family`, of a table that is parsed once. -/
def reviewedScreenshotFamily (data identity : String) : Except String (Option String) := do
  let families ← parseReviewedFamilies data
  pure (families.lookup (normalize identity))

/-! ## 4. The resolver -/

structure MachineLookupKey where
  identity : String
  romNamespace : Option RomNamespace
  deriving DecidableEq

abbrev MachineLookupResults : Type := Table MachineLookupKey (Option ResolvedMachine)

structure MachineFamilyResolver where
  /-- The store, if it opened, and the shard it gives. -/
  runtimeMetadata : Option (Option ArcadeShard)
  runtimeArcade : Option ArcadeShard
  runtimeUnavailable : Bool
  cache : MachineLookupResults

namespace MachineFamilyResolver

/-- `for_metadata_path`. -/
def forMetadataPath (store : Option (Option ArcadeShard)) : MachineFamilyResolver :=
  ⟨store, none, false, ∅⟩

variable (r : MachineFamilyResolver)

def runtimeIsAvailable : Bool × MachineFamilyResolver :=
  if r.runtimeUnavailable then (false, r)
  else
    match r.runtimeArcade, r.runtimeMetadata with
    | some _, _ => (true, r)
    | none, some (some shard) => (true, { r with runtimeArcade := some shard })
    | none, _ => (false, { r with runtimeUnavailable := true })

/-- `self.cache.insert` and `output.insert`, for each of the rows found. -/
def record (output : MachineLookupResults)
    (rows : List (MachineLookupKey × Option ResolvedMachine)) :
    MachineLookupResults × MachineFamilyResolver :=
  (output.insertAll rows, { r with cache := r.cache.insertAll rows })

def resolveMany (identities : List MachineLookupKey) :
    MachineLookupResults × MachineFamilyResolver :=
  let requested :=
    ((identities.map fun key => ⟨normalize key.identity, key.romNamespace⟩ :
        List MachineLookupKey).filter
      fun key => key.identity ≠ "").dedup
  let output := Table.ofRows (requested.filterMap fun key => (r.cache.lookup key).map (key, ·))
  let unresolved := requested.filter fun key => (r.cache.lookup key).isNone
  if unresolved = [] then (output, r)
  else
    match r.runtimeIsAvailable with
    | (true, r) =>
        match r.runtimeArcade with
        | none => (output, r)
        | some arcade =>
            r.record output (unresolved.map fun key =>
              (key, runtimeRow arcade key.identity key.romNamespace))
    | (false, r) => r.record output (unresolved.map fun key => (key, none))

/-- The family of one target, among what was resolved. -/
def familyOfTarget (resolved : MachineLookupResults) (target : String) : String :=
  (((resolved.lookup ⟨normalize target, none⟩).join).map ResolvedMachine.family).getD
    (normalize target)

def screenshotFamilies (data : String) (keys : List String) :
    Except String (Table String String × MachineFamilyResolver) := do
  let targets ← keys.foldlM (fun targets key => do
    let family ← reviewedScreenshotFamily data key
    pure (targets.insert key (family.getD key))) (∅ : Table String String)
  let (resolved, r) := r.resolveMany ((Table.pairs targets).map fun row => ⟨row.2, none⟩)
  pure (Table.ofRows ((Table.pairs targets).map fun row => (row.1, familyOfTarget resolved row.2)),
    r)

end MachineFamilyResolver

/-- The order of a map's keys. -/
def keyBefore (a b : String × String) : Prop := strLt b.1 a.1 = false

instance : DecidableRel keyBefore := fun _ _ => inferInstanceAs (Decidable (_ = _))

def availableFamilyScreenshots (families : Table String String) : Table String String :=
  ((Table.pairs families).insertionSort keyBefore).foldl (fun available row =>
    if normalize row.1 = row.2 ∨ row.2 ∉ available then available.insert row.2 row.1
    else available) ∅

/-! ## 5. A normalized name is left as it is -/

/-- A character of a normalized name. -/
def IdChar (c : Char) : Prop := isLower c = true ∨ c.isDigit = true ∨ c = '-'

theorem toLower_of_idChar {c : Char} (h : IdChar c) : c.toLower = c := by
  have hn := idChar_toNat h
  unfold Char.toLower
  rw [dif_neg]
  intro hu
  have hu' : 65 ≤ c.toNat ∧ c.toNat ≤ 90 := hu
  omega

theorem toLowercase_idChar {c : Char} (h : IdChar c) : toLowercase c = [c] := by
  have hn := idChar_toNat h
  have hkelvin : c ≠ '\u212a' := by
    rintro rfl
    simp at hn
  have hdotted : c ≠ '\u0130' := by
    rintro rfl
    simp at hn
  rw [toLowercase, if_neg hkelvin, if_neg hdotted, toLower_of_idChar h]

theorem idChar_of_alphanum {x c : Char} (hc : c ∈ toLowercase x) (h : c.isAlphanum = true) :
    IdChar c := by
  have hlower : ∀ y : Char, y.toLower.isAlphanum = true → IdChar y.toLower := by
    intro y hy
    unfold Char.isAlphanum Char.isAlpha at hy
    rw [isUpper_toLower, Bool.false_or, Bool.or_eq_true] at hy
    refine hy.imp (fun hlow => ?_) Or.inl
    have hbounds : (decide (y.toLower.val ≥ 97) && decide (y.toLower.val ≤ 122)) = true := hlow
    simpa [isLower, Char.le_def] using hbounds
  unfold toLowercase at hc
  split at hc
  · exact Or.inl (List.mem_singleton.1 hc ▸ rfl)
  · split at hc
    · rcases List.mem_cons.1 hc with rfl | hc
      · exact Or.inl rfl
      · rw [List.mem_singleton.1 hc] at h
        exact absurd h (by decide)
    · rw [List.mem_singleton.1 hc] at h ⊢
      exact hlower x h

/-- What the loop has, as a text the loop gives back. -/
structure IdText.Settled (text : IdText) : Prop where
  again : text.out.foldl IdText.push ⟨[], false⟩ = text
  chars : ∀ c ∈ text.out, IdChar c
  plain : text.lastDash = false → text.out.rdropWhile (· = '-') = text.out
  dashed : text.lastDash = true → ∃ out, text.out = out ++ ['-'] ∧
    out.foldl IdText.push ⟨[], false⟩ = ⟨out, false⟩ ∧ out.rdropWhile (· = '-') = out

theorem IdText.Settled.push {text : IdText} (h : text.Settled) {x c : Char}
    (hc : c ∈ toLowercase x) : (text.push c).Settled := by
  unfold IdText.push
  split
  next halnum =>
    have hne : c ≠ '-' := by
      rintro rfl
      exact absurd halnum (by decide)
    have hpush : text.push c = ⟨text.out ++ [c], false⟩ := if_pos halnum
    refine ⟨?_, ?_, fun _ => ?_, nofun⟩
    · rw [List.foldl_append, h.again, List.foldl_cons, List.foldl_nil, hpush]
    · intro d hd
      rcases List.mem_append.1 hd with hd | hd
      · exact h.chars d hd
      · exact List.mem_singleton.1 hd ▸ idChar_of_alphanum hc halnum
    · exact List.rdropWhile_concat_neg _ _ _ (by simpa using hne)
  next halnum =>
    split
    next hdash =>
      rw [Bool.and_eq_true, Bool.not_eq_true', Bool.not_eq_true'] at hdash
      obtain ⟨hlast, hout⟩ := hdash
      have hsame : text = ⟨text.out, false⟩ := by rw [← hlast]
      have hpush : text.push '-' = ⟨text.out ++ ['-'], true⟩ := by
        unfold IdText.push
        rw [if_neg (by decide), hlast, hout]
        rfl
      refine ⟨?_, ?_, nofun, fun _ => ⟨text.out, rfl, h.again.trans hsame, h.plain hlast⟩⟩
      · rw [List.foldl_append, h.again, List.foldl_cons, List.foldl_nil, hpush]
      · intro d hd
        rcases List.mem_append.1 hd with hd | hd
        · exact h.chars d hd
        · exact Or.inr (Or.inr (List.mem_singleton.1 hd))
    next => exact h

theorem settled_foldl {text : IdText} (h : text.Settled) (value : List Char) :
    ((value.flatMap toLowercase).foldl IdText.push text).Settled := by
  have hall : ∀ c ∈ value.flatMap toLowercase, ∃ x, c ∈ toLowercase x := fun c hc => by
    obtain ⟨x, _, hx⟩ := List.mem_flatMap.1 hc
    exact ⟨x, hx⟩
  generalize value.flatMap toLowercase = characters at hall
  induction characters generalizing text with
  | nil => exact h
  | cons c characters ih =>
      obtain ⟨x, hx⟩ := hall c List.mem_cons_self
      exact ih (h.push hx) fun d hd => hall d (List.mem_cons_of_mem _ hd)

/-- What is left of a text is text that nothing is left out of. -/
theorem idText_settled (value : List Char) :
    (∀ c ∈ idText (value.flatMap toLowercase), IdChar c) ∧
      idText (idText (value.flatMap toLowercase)) = idText (value.flatMap toLowercase) := by
  have hstart : (⟨[], false⟩ : IdText).Settled := ⟨rfl, fun _ h => absurd h List.not_mem_nil,
    fun _ => rfl, nofun⟩
  have h := settled_foldl hstart value
  unfold idText
  generalize (value.flatMap toLowercase).foldl IdText.push ⟨[], false⟩ = text at h
  cases hlast : text.lastDash with
  | false =>
      have hplain := h.plain hlast
      rw [hplain]
      refine ⟨h.chars, ?_⟩
      rw [h.again, hplain]
  | true =>
      obtain ⟨out, hout, hagain, hplain⟩ := h.dashed hlast
      have hdrop : text.out.rdropWhile (· = '-') = out := by
        rw [hout, List.rdropWhile_concat_pos _ _ _ (by decide), hplain]
      rw [hdrop, hagain]
      exact ⟨fun c hc => h.chars c (hout ▸ List.mem_append_left _ hc), hplain⟩

theorem normalizeId_ofList {out : List Char} (hchars : ∀ c ∈ out, IdChar c) (hout : out ≠ [])
    (hsettled : idText out = out) : normalizeId (String.ofList out) = String.ofList out := by
  have hflat : out.flatMap toLowercase = out := by
    clear hsettled hout
    induction out with
    | nil => rfl
    | cons c out ih =>
        rw [List.flatMap_cons, toLowercase_idChar (hchars c List.mem_cons_self),
          ih fun d hd => hchars d (List.mem_cons_of_mem _ hd)]
        rfl
  unfold normalizeId
  rw [String.toList_ofList, trim_eq_self fun c hc => idChar_not_whitespace (hchars c hc), hflat,
    hsettled]
  exact if_neg hout

theorem normalizeId_unknown : normalizeId "unknown" = "unknown" := by decide +kernel

theorem normalizeId_normalizeId (value : String) :
    normalizeId (normalizeId value) = normalizeId value := by
  obtain ⟨hchars, hsettled⟩ := idText_settled (trim value.toList)
  have hcases : normalizeId value = if idText ((trim value.toList).flatMap toLowercase) = [] then
      "unknown" else String.ofList (idText ((trim value.toList).flatMap toLowercase)) := rfl
  by_cases hout : idText ((trim value.toList).flatMap toLowercase) = []
  · rw [hcases, if_pos hout, normalizeId_unknown]
  · rw [hcases, if_neg hout, normalizeId_ofList hchars hout hsettled]

/-- **`normalize` gives one spelling.** -/
theorem normalize_normalize (value : String) : normalize (normalize value) = normalize value := by
  by_cases h : normalizeId value = "unknown"
  · have hempty : normalize value = "" := if_pos h
    rw [hempty]
    decide +kernel
  · have hsame : normalize value = normalizeId value := if_neg h
    rw [hsame, normalize, normalizeId_normalizeId, if_neg h]

-- from here on a name is compared, never spelled out
attribute [irreducible] normalize

/-! ## 6. The chain of parents -/

section Machines

variable {shard : ArcadeShard} {hbmame : Bool} {setname : String} {m p root : ArcadeMachine}

/-- The parent of a machine, in the same list. -/
def parentIn (shard : ArcadeShard) (hbmame : Bool) (m : ArcadeMachine) : Option ArcadeMachine :=
  m.parent.bind (shard.machine hbmame)

theorem rows_sorted (shard : ArcadeShard) (hbmame : Bool) : SortedRows (shard.rows hbmame) := by
  cases hbmame
  · exact shard.mameSorted
  · exact shard.hbmameSorted

theorem setnames_nodup (shard : ArcadeShard) (hbmame : Bool) :
    ((shard.rows hbmame).map ArcadeMachine.setname).Nodup := by
  refine List.pairwise_map.2 ((rows_sorted shard hbmame).imp fun hlt heq => ?_)
  rw [heq, strLt_irrefl] at hlt
  cases hlt

theorem eq_of_setname (hm : m ∈ shard.rows hbmame) (hp : p ∈ shard.rows hbmame)
    (h : m.setname = p.setname) : m = p :=
  List.inj_on_of_nodup_map (setnames_nodup shard hbmame) hm hp h

theorem machine_some (h : shard.machine hbmame setname = some m) :
    m ∈ shard.rows hbmame ∧ m.setname = setname := by
  unfold ArcadeShard.machine at h
  exact ⟨List.mem_of_find?_eq_some h, by simpa using List.find?_some h⟩

theorem machine_self (hm : m ∈ shard.rows hbmame) : shard.machine hbmame m.setname = some m := by
  cases h : shard.machine hbmame m.setname with
  | none =>
      unfold ArcadeShard.machine at h
      simpa using List.find?_eq_none.1 h m hm
  | some p =>
      obtain ⟨hp, hname⟩ := machine_some h
      rw [eq_of_setname hp hm hname]

theorem parentIn_closed : ∀ m ∈ shard.rows hbmame, ∀ p, parentIn shard hbmame m = some p →
    p ∈ shard.rows hbmame := by
  intro m _ p h
  obtain ⟨name, _, hname⟩ := Option.bind_eq_some_iff.1 h
  exact (machine_some hname).1

/-- The loop is the walk up the parents that are there. -/
theorem walk_eq_chase {fuel : Nat} (seen : List ArcadeMachine)
    (hseen : ∀ p ∈ seen, p ∈ shard.rows hbmame ∧ (parentIn shard hbmame p).isSome)
    (hm : m ∈ shard.rows hbmame) :
    shard.walk hbmame fuel (seen.map ArcadeMachine.setname) m =
      Chase.chase (parentIn shard hbmame) fuel seen m := by
  induction fuel generalizing seen m with
  | zero => rfl
  | succ fuel ih =>
      have hmem : m.setname ∈ seen.map ArcadeMachine.setname ↔ m ∈ seen := by
        refine ⟨fun h => ?_, List.mem_map_of_mem⟩
        obtain ⟨p, hp, hname⟩ := List.mem_map.1 h
        exact eq_of_setname (hseen p hp).1 hm hname ▸ hp
      unfold ArcadeShard.walk Chase.chase parentIn
      cases hparent : m.parent with
      | none => rfl
      | some parent =>
          dsimp only [Option.bind_some]
          cases hnext : shard.machine hbmame parent with
          | none =>
              -- a machine whose parent is missing was not left before
              have hnew : m ∉ seen := fun h => by
                have hstep := (hseen m h).2
                rw [parentIn, hparent, Option.bind_some, hnext] at hstep
                cases hstep
              exact if_neg fun h => hnew (hmem.1 h)
          | some next =>
              dsimp only
              by_cases hback : m ∈ seen
              · rw [if_pos (hmem.2 hback), if_pos hback]
              · rw [if_neg (hmem.not.2 hback), if_neg hback]
                refine ih (m :: seen) (fun p hp => ?_) (machine_some hnext).1
                rcases List.mem_cons.1 hp with rfl | hp
                · rw [parentIn, hparent, Option.bind_some, hnext]
                  exact ⟨hm, rfl⟩
                · exact hseen p hp

theorem walk_ends_iff {fuel : Nat} (hm : m ∈ shard.rows hbmame)
    (hfuel : (shard.rows hbmame).length < fuel) :
    shard.walk hbmame fuel [] m = some (some root) ↔
      Chase.Ends (parentIn shard hbmame) m root := by
  rw [← Chase.chase_ends_iff parentIn_closed hm hfuel]
  exact iff_of_eq (congrArg (· = _) (walk_eq_chase [] (fun _ h => absurd h
    List.not_mem_nil) hm))

theorem walk_cycles_iff {fuel : Nat} (hm : m ∈ shard.rows hbmame)
    (hfuel : (shard.rows hbmame).length < fuel) :
    shard.walk hbmame fuel [] m = some none ↔ Chase.Cycles (parentIn shard hbmame) m := by
  rw [← Chase.chase_cycles_iff parentIn_closed hm hfuel]
  exact iff_of_eq (congrArg (· = _) (walk_eq_chase [] (fun _ h => absurd h
    List.not_mem_nil) hm))

/-- The loop answers, whatever the fuel beyond the number of rows. -/
theorem walk_answers {fuel : Nat} (hm : m ∈ shard.rows hbmame)
    (hfuel : (shard.rows hbmame).length < fuel) :
    (∃ root, shard.walk hbmame fuel [] m = some (some root) ∧
      Chase.Ends (parentIn shard hbmame) m root) ∨
      (shard.walk hbmame fuel [] m = some none ∧ Chase.Cycles (parentIn shard hbmame) m) := by
  rcases Chase.chase_from parentIn_closed hm hfuel with ⟨root, _, hends⟩ | ⟨_, hcycles⟩
  · exact Or.inl ⟨root, (walk_ends_iff hm hfuel).2 hends, hends⟩
  · exact Or.inr ⟨(walk_cycles_iff hm hfuel).2 hcycles, hcycles⟩

end Machines

/-! ## 7. Families of machines -/

section Families

variable {shard : ArcadeShard} {hbmame : Bool} {identity : String} {m p root : ArcadeMachine}
  {romNamespace : Option RomNamespace}

theorem located_some (h : located shard identity romNamespace = some (hbmame, m)) :
    m ∈ shard.rows hbmame ∧ m.setname = identity := by
  obtain ⟨list, _, hlist⟩ := List.exists_of_findSome?_eq_some h
  obtain ⟨machine, hmachine, heq⟩ := Option.map_eq_some_iff.1 hlist
  cases heq
  exact machine_some hmachine

/-- A machine of the list that goes first is found there. -/
theorem located_preferred (hm : m ∈ shard.rows (decide (romNamespace = some .hbmame))) :
    located shard m.setname romNamespace = some (decide (romNamespace = some .hbmame), m) := by
  unfold located
  dsimp only
  rw [List.findSome?_cons, machine_self hm]
  rfl

/-- A machine's family is read off where its parents stop; in a cycle there is none. -/
theorem runtimeRow_of_ends (h : located shard identity romNamespace = some (hbmame, m))
    (hends : Chase.Ends (parentIn shard hbmame) m root) :
    (runtimeRow shard identity romNamespace).map ResolvedMachine.family =
      some (familyName shard hbmame root) := by
  unfold runtimeRow
  rw [h]
  dsimp only
  rw [(walk_ends_iff (located_some h).1 (Nat.lt_succ_self _)).2 hends]
  rfl

theorem runtimeRow_none_iff (h : located shard identity romNamespace = some (hbmame, m)) :
    runtimeRow shard identity romNamespace = none ↔ Chase.Cycles (parentIn shard hbmame) m := by
  have hm := (located_some h).1
  unfold runtimeRow
  rw [h]
  dsimp only
  rcases walk_answers hm (Nat.lt_succ_self _) with ⟨root, hwalk, hends⟩ | ⟨hwalk, hcycles⟩
  · rw [hwalk]
    exact ⟨nofun, fun hcycles => absurd hcycles (Chase.not_cycles_of_ends hends)⟩
  · rw [hwalk]
    exact ⟨fun _ => hcycles, fun _ => rfl⟩

/-- **A machine and its parent in the list both are found in have one family, or none.** -/
theorem parent_same_family {other : String}
    (hm : located shard identity romNamespace = some (hbmame, m))
    (hp : located shard other romNamespace = some (hbmame, p))
    (hparent : parentIn shard hbmame m = some p) :
    (runtimeRow shard identity romNamespace).map ResolvedMachine.family =
      (runtimeRow shard other romNamespace).map ResolvedMachine.family := by
  rcases walk_answers (located_some hm).1 (Nat.lt_succ_self _) with ⟨root, _, hends⟩ | ⟨_, hcycles⟩
  · rw [runtimeRow_of_ends hm hends, runtimeRow_of_ends hp ((Chase.ends_step hparent).1 hends)]
  · rw [(runtimeRow_none_iff hm).2 hcycles,
      (runtimeRow_none_iff hp).2 ((Chase.cycles_step hparent).1 hcycles)]

theorem normalize_familyName : normalize (familyName shard hbmame root) =
    familyName shard hbmame root := by
  unfold familyName
  cases root.parent.filter fun parent => (shard.machine hbmame parent).isNone with
  | none => exact normalize_normalize _
  | some parent => exact normalize_normalize _

theorem runtimeRow_normalized {row : ResolvedMachine}
    (h : runtimeRow shard identity romNamespace = some row) :
    normalize row.family = row.family := by
  unfold runtimeRow at h
  split at h
  · cases h
  · split at h
    · obtain rfl := Option.some.inj h
      exact normalize_familyName
    · cases h

/-- A machine without a parent is its own family. -/
theorem runtimeRow_of_root (h : located shard identity romNamespace = some (hbmame, m))
    (hparent : m.parent = none) :
    (runtimeRow shard identity romNamespace).map ResolvedMachine.family =
      some (normalize identity) := by
  have hstep : parentIn shard hbmame m = none := by
    rw [parentIn, hparent]
    rfl
  rw [runtimeRow_of_ends h ((Chase.ends_self hstep).2 rfl), familyName, hparent,
    (located_some h).2]
  rfl

end Families

/-! ## 8. Families of screenshots -/

/-- The machine family of a normalized name, by the list that goes first without a namespace. -/
def machineFamily (arcade : Option ArcadeShard) (target : String) : Option String :=
  if target = "" then none
  else (arcade.bind fun shard => runtimeRow shard target none).map ResolvedMachine.family

/-- The name a key is looked up by. -/
def targetOf (families : Table String String) (key : String) : String :=
  normalize ((families.lookup (normalize key)).getD key)

/-- The family of a key. -/
def screenshotFamily (families : Table String String) (arcade : Option ArcadeShard)
    (key : String) : String :=
  (machineFamily arcade (targetOf families key)).getD (targetOf families key)

section Screenshots

variable {families : Table String String} {arcade : Option ArcadeShard} {key : String}

theorem normalize_screenshotFamily (families : Table String String) (arcade : Option ArcadeShard)
    (key : String) :
    normalize (screenshotFamily families arcade key) = screenshotFamily families arcade key := by
  unfold screenshotFamily
  cases h : machineFamily arcade (targetOf families key) with
  | none => exact normalize_normalize _
  | some family =>
      unfold machineFamily at h
      split at h
      · cases h
      · obtain ⟨row, hrow, rfl⟩ := Option.map_eq_some_iff.1 h
        obtain ⟨shard, _, hshard⟩ := Option.bind_eq_some_iff.1 hrow
        exact runtimeRow_normalized hshard

/-- A name no reviewed row starts from is looked up as it is. -/
theorem targetOf_of_not_mem (hnormal : normalize key = key) (h : key ∉ families) :
    targetOf families key = key := by
  rw [targetOf, hnormal, AList.lookup_eq_none.2 h]
  exact hnormal

/-- A target is no reviewed name, the rows pointing to parents directly. -/
theorem targetOf_not_mem (hdirect : ∀ key family, families.lookup key = some family →
    normalize family ∉ families) (key : String) : targetOf families key ∉ families := by
  unfold targetOf
  cases h : families.lookup (normalize key) with
  | none => exact AList.lookup_eq_none.1 h
  | some family => exact hdirect _ family h

/-- **A key whose target no machine answers for is filed under the target, for good.** -/
theorem screenshotFamily_idem_of_none (hdirect : ∀ key family, families.lookup key = some family →
    normalize family ∉ families) (h : machineFamily arcade (targetOf families key) = none) :
    screenshotFamily families arcade (screenshotFamily families arcade key) =
      screenshotFamily families arcade key := by
  have hfamily : screenshotFamily families arcade key = targetOf families key := by
    rw [screenshotFamily, h]
    rfl
  have htarget : targetOf families (targetOf families key) = targetOf families key :=
    targetOf_of_not_mem (normalize_normalize _) (targetOf_not_mem hdirect key)
  rw [hfamily, screenshotFamily, htarget, h]
  rfl

/-- **A family that is no reviewed name, and no machine with a parent, is its own family.** -/
theorem screenshotFamily_idem_of_root
    (hreviewed : screenshotFamily families arcade key ∉ families)
    (hroot : ∀ shard ∈ arcade, ∀ hbmame m,
      located shard (screenshotFamily families arcade key) none = some (hbmame, m) →
        m.parent = none) :
    screenshotFamily families arcade (screenshotFamily families arcade key) =
      screenshotFamily families arcade key := by
  have hnormal := normalize_screenshotFamily families arcade key
  generalize screenshotFamily families arcade key = family at *
  rw [screenshotFamily, targetOf_of_not_mem hnormal hreviewed]
  cases h : machineFamily arcade family with
  | none => rfl
  | some other =>
      unfold machineFamily at h
      split at h
      · cases h
      · obtain ⟨row, hrow, rfl⟩ := Option.map_eq_some_iff.1 h
        obtain ⟨shard, hshard, hrow⟩ := Option.bind_eq_some_iff.1 hrow
        cases hfound : located shard family none with
        | none =>
            rw [runtimeRow, hfound] at hrow
            cases hrow
        | some found =>
            obtain ⟨hbmame, m⟩ := found
            have hsame := runtimeRow_of_root hfound (hroot shard hshard hbmame m hfound)
            rw [hrow, Option.map_some, Option.some.injEq, hnormal] at hsame
            exact hsame

end Screenshots

/-! ## 9. The resolver answers what the tables say -/

namespace MachineFamilyResolver

variable {r : MachineFamilyResolver} {data : String} {families : Table String String}

/-- The shard a resolver answers from, now and later. -/
def arcade (r : MachineFamilyResolver) : Option ArcadeShard :=
  if r.runtimeUnavailable then none else r.runtimeArcade.or r.runtimeMetadata.join

def answer (r : MachineFamilyResolver) (key : MachineLookupKey) : Option ResolvedMachine :=
  r.arcade.bind fun shard => runtimeRow shard key.identity key.romNamespace

/-- What is remembered is what would be answered. -/
def Sound (r : MachineFamilyResolver) : Prop :=
  ∀ key row, r.cache.lookup key = some row → row = r.answer key

theorem forMetadataPath_sound (store : Option (Option ArcadeShard)) :
    (forMetadataPath store).Sound := by
  intro key row h
  rw [forMetadataPath, AList.lookup_empty] at h
  cases h

theorem runtimeIsAvailable_spec (r : MachineFamilyResolver) :
    r.runtimeIsAvailable.2.cache = r.cache ∧ r.runtimeIsAvailable.2.arcade = r.arcade ∧
      (r.runtimeIsAvailable.1 = true → ∃ shard, r.runtimeIsAvailable.2.runtimeArcade = some shard ∧
        r.arcade = some shard) ∧
      (r.runtimeIsAvailable.1 = false → r.arcade = none) := by
  obtain ⟨metadata, shard, unavailable, cache⟩ := r
  unfold runtimeIsAvailable arcade
  cases unavailable with
  | true => exact ⟨rfl, rfl, nofun, fun _ => rfl⟩
  | false =>
      cases shard with
      | some shard => exact ⟨rfl, rfl, fun _ => ⟨shard, rfl, rfl⟩, nofun⟩
      | none =>
          cases metadata with
          | none => exact ⟨rfl, rfl, nofun, fun _ => rfl⟩
          | some metadata =>
              cases metadata with
              | none => exact ⟨rfl, rfl, nofun, fun _ => rfl⟩
              | some shard => exact ⟨rfl, rfl, fun _ => ⟨shard, rfl, rfl⟩, nofun⟩

/-- The names `resolve_many` looks up. -/
def requested (identities : List MachineLookupKey) : List MachineLookupKey :=
  ((identities.map fun key => ⟨normalize key.identity, key.romNamespace⟩ :
      List MachineLookupKey).filter
    fun key => key.identity ≠ "").dedup

/-- What recording the answers of the names not remembered leaves. -/
theorem record_spec (h : r.Sound) {r' : MachineFamilyResolver} (hcache : r'.cache = r.cache)
    (harcade : r'.arcade = r.arcade) (keys : List MachineLookupKey)
    (answers : MachineLookupKey → Option ResolvedMachine)
    (hanswers : ∀ key, answers key = r.answer key) :
    let output := Table.ofRows (keys.filterMap fun key => (r.cache.lookup key).map (key, ·))
    let rows := (keys.filter fun key => (r.cache.lookup key).isNone).map fun key =>
      (key, answers key)
    (r'.record output rows).2.Sound ∧ (r'.record output rows).2.arcade = r.arcade ∧
      ∀ key, (r'.record output rows).1.lookup key =
        if key ∈ keys then some (r.answer key) else none := by
  intro output rows
  have hsame : ∀ key, (r'.record output rows).2.answer key = r.answer key := fun key => by
    have : (r'.record output rows).2.arcade = r'.arcade := rfl
    rw [answer, this, harcade, answer]
  refine ⟨fun key row hrow => ?_, harcade, fun key => ?_⟩
  · have hlook : ((r'.cache).insertAll rows).lookup key = some row := hrow
    rw [Table.lookup_insertAll_keys] at hlook
    rw [hsame]
    split at hlook
    · rw [← hanswers]
      exact (Option.some.inj hlook).symm
    · rw [hcache] at hlook
      exact h key row hlook
  · have hlook : (r'.record output rows).1.lookup key = (output.insertAll rows).lookup key := rfl
    rw [hlook, Table.lookup_insertAll_keys, Table.lookup_ofRows_filterMap]
    by_cases hkey : key ∈ keys
    · rw [if_pos hkey, if_pos hkey]
      cases hold : r.cache.lookup key with
      | none =>
          have hmem : key ∈ keys.filter fun key => (r.cache.lookup key).isNone :=
            List.mem_filter.2 ⟨hkey, by rw [hold]; rfl⟩
          rw [if_pos hmem, hanswers]
      | some row =>
          have hmem : key ∉ keys.filter fun key => (r.cache.lookup key).isNone := fun hmem => by
            have hnone := (List.mem_filter.1 hmem).2
            rw [hold] at hnone
            cases hnone
          rw [if_neg hmem, h key row hold]
    · have hmem : key ∉ keys.filter fun key => (r.cache.lookup key).isNone := fun hmem =>
        hkey (List.mem_of_mem_filter hmem)
      rw [if_neg hmem, if_neg hkey, if_neg hkey]

/-- **A batch is answered name by name, and what is remembered stays right.** -/
theorem resolveMany_spec (h : r.Sound) (identities : List MachineLookupKey) :
    (r.resolveMany identities).2.Sound ∧ (r.resolveMany identities).2.arcade = r.arcade ∧
      ∀ key, (r.resolveMany identities).1.lookup key =
        if key ∈ requested identities then some (r.answer key) else none := by
  obtain ⟨hcache, harcade, hyes, hno⟩ := runtimeIsAvailable_spec r
  have hrequested : ((identities.map fun key => ⟨normalize key.identity, key.romNamespace⟩ :
      List MachineLookupKey).filter fun key => key.identity ≠ "").dedup =
        requested identities := rfl
  unfold resolveMany
  dsimp only
  rw [hrequested]
  split
  next hall =>
    refine ⟨h, rfl, fun key => ?_⟩
    rw [Table.lookup_ofRows_filterMap]
    by_cases hkey : key ∈ requested identities
    · rw [if_pos hkey, if_pos hkey]
      cases hold : r.cache.lookup key with
      | none =>
          have hmem := List.filter_eq_nil_iff.1 hall key hkey
          rw [hold] at hmem
          exact absurd rfl hmem
      | some row => rw [h key row hold]
    · rw [if_neg hkey, if_neg hkey]
  next =>
    generalize r.runtimeIsAvailable = available at hcache harcade hyes hno
    obtain ⟨available, r'⟩ := available
    cases available with
    | true =>
        obtain ⟨shard, hshard, hanswer⟩ := hyes rfl
        dsimp only at hshard ⊢
        rw [hshard]
        refine record_spec h hcache harcade (requested identities) _ fun key => ?_
        rw [answer, hanswer]
        rfl
    | false =>
        refine record_spec h hcache harcade (requested identities) _ fun key => ?_
        rw [answer, hno rfl]
        rfl

theorem familyOfTarget_eq {resolved : MachineLookupResults} {identities : List MachineLookupKey}
    {target : String} (hmem : ⟨target, none⟩ ∈ identities)
    (hresolved : ∀ key, resolved.lookup key =
      if key ∈ requested identities then some (r.answer key) else none) :
    familyOfTarget resolved target =
      (machineFamily r.arcade (normalize target)).getD (normalize target) := by
  have hrequested : (⟨normalize target, none⟩ : MachineLookupKey) ∈ requested identities ↔
      normalize target ≠ "" := by
    rw [requested, List.mem_dedup, List.mem_filter, decide_eq_true_eq]
    exact and_iff_right (List.mem_map.2 ⟨_, hmem, rfl⟩)
  rw [familyOfTarget, machineFamily, hresolved]
  by_cases hempty : normalize target = ""
  · rw [if_neg fun h => hrequested.1 h hempty, if_pos hempty]
    rfl
  · rw [if_pos (hrequested.2 hempty), if_neg hempty]
    rfl

/-- The targets of a list of keys. -/
theorem targets_spec (hparse : parseReviewedFamilies data = .ok families) (keys : List String)
    (targets : Table String String) :
    ∃ targets', keys.foldlM (fun targets key => do
        let family ← reviewedScreenshotFamily data key
        pure (targets.insert key (family.getD key))) targets = Except.ok targets' ∧
      ∀ key, targets'.lookup key =
        if key ∈ keys then some ((families.lookup (normalize key)).getD key)
        else targets.lookup key := by
  have hone : ∀ key, reviewedScreenshotFamily data key =
      Except.ok (families.lookup (normalize key)) := fun key => by
    rw [reviewedScreenshotFamily, hparse]
    rfl
  induction keys generalizing targets with
  | nil => exact ⟨targets, rfl, fun _ => rfl⟩
  | cons key keys ih =>
      obtain ⟨targets', hrun, hlook⟩ :=
        ih (targets.insert key ((families.lookup (normalize key)).getD key))
      refine ⟨targets', ?_, fun other => ?_⟩
      · rw [List.foldlM_cons, hone]
        exact hrun
      · rw [hlook]
        by_cases hother : other = key
        · subst hother
          rw [AList.lookup_insert, if_pos List.mem_cons_self, ite_self]
        · rw [AList.lookup_insert_ne hother]
          simp only [List.mem_cons, hother, false_or]

/-- **The screenshot families of a list of keys, whatever the resolver answered before.** -/
theorem screenshotFamilies_spec (h : r.Sound) (hparse : parseReviewedFamilies data = .ok families)
    (keys : List String) :
    ∃ map r', r.screenshotFamilies data keys = .ok (map, r') ∧ r'.Sound ∧ r'.arcade = r.arcade ∧
      ∀ key, map.lookup key =
        if key ∈ keys then some (screenshotFamily families r.arcade key) else none := by
  obtain ⟨targets, hrun, htargets⟩ := targets_spec hparse keys ∅
  obtain ⟨hsound, harcade, hresolved⟩ :=
    resolveMany_spec h ((Table.pairs targets).map fun row => ⟨row.2, none⟩)
  let resolved := r.resolveMany ((Table.pairs targets).map fun row => ⟨row.2, none⟩)
  refine ⟨Table.ofRows ((Table.pairs targets).map fun row =>
    (row.1, familyOfTarget resolved.1 row.2)), resolved.2, ?_, hsound, harcade, fun key => ?_⟩
  · unfold screenshotFamilies
    rw [hrun]
    rfl
  · rw [Table.lookup_ofRows_map, htargets]
    by_cases hkey : key ∈ keys
    · rw [if_pos hkey, if_pos hkey, Option.map_some, Option.some.injEq]
      have htarget : targets.lookup key = some ((families.lookup (normalize key)).getD key) := by
        rw [htargets, if_pos hkey]
      exact familyOfTarget_eq (List.mem_map.2 ⟨_, Table.mem_pairs.2 htarget, rfl⟩) hresolved
    · rw [if_neg hkey, if_neg hkey, AList.lookup_empty]
      rfl

/-- A resolver of a store, after some batches. -/
def resolverAfter (store : Option (Option ArcadeShard))
    (batches : List (List MachineLookupKey)) : MachineFamilyResolver :=
  batches.foldl (fun r identities => (r.resolveMany identities).2) (forMetadataPath store)

theorem resolverAfter_sound (store : Option (Option ArcadeShard))
    (batches : List (List MachineLookupKey)) :
    (resolverAfter store batches).Sound ∧ (resolverAfter store batches).arcade = store.join := by
  have hrun : ∀ r : MachineFamilyResolver, r.Sound →
      (batches.foldl (fun r identities => (r.resolveMany identities).2) r).Sound ∧
        (batches.foldl (fun r identities => (r.resolveMany identities).2) r).arcade = r.arcade := by
    induction batches with
    | nil => exact fun r h => ⟨h, rfl⟩
    | cons identities batches ih =>
        intro r h
        obtain ⟨hsound, harcade, _⟩ := resolveMany_spec h identities
        obtain ⟨hsound', harcade'⟩ := ih _ hsound
        exact ⟨hsound', harcade'.trans harcade⟩
  exact hrun _ (forMetadataPath_sound store)

end MachineFamilyResolver

/-! ## 10. Representatives -/

/-- What the loop over the families has filed, having seen `done`. -/
structure Filed (done : List (String × String)) (available : Table String String) : Prop where
  filed : ∀ key family, (key, family) ∈ done → family ∈ available
  member : ∀ family key, available.lookup family = some key → (key, family) ∈ done
  own : ∀ key family, (key, family) ∈ done → normalize key = family →
    ∀ other, available.lookup family = some other → normalize other = family

theorem Filed.next {done : List (String × String)} {available : Table String String}
    (h : Filed done available) (row : String × String) :
    Filed (done ++ [row]) (if normalize row.1 = row.2 ∨ row.2 ∉ available then
      available.insert row.2 row.1 else available) := by
  obtain ⟨key, family⟩ := row
  dsimp only
  by_cases hfile : normalize key = family ∨ family ∉ available
  · rw [if_pos hfile]
    refine ⟨fun k f hmem => ?_, fun f k hlook => ?_, fun k f hmem hown other hlook => ?_⟩
    · rw [AList.mem_insert]
      rcases List.mem_append.1 hmem with hmem | hmem
      · exact Or.inr (h.filed k f hmem)
      · cases List.mem_singleton.1 hmem
        exact Or.inl rfl
    · by_cases hf : f = family
      · subst hf
        rw [AList.lookup_insert, Option.some.injEq] at hlook
        exact List.mem_append_right _ (List.mem_singleton.2 (hlook ▸ rfl))
      · rw [AList.lookup_insert_ne hf] at hlook
        exact List.mem_append_left _ (h.member f k hlook)
    · by_cases hf : f = family
      · subst hf
        rw [AList.lookup_insert, Option.some.injEq] at hlook
        subst hlook
        rcases hfile with hkey | hnew
        · exact hkey
        · rcases List.mem_append.1 hmem with hmem | hmem
          · exact absurd (h.filed k f hmem) hnew
          · cases List.mem_singleton.1 hmem
            exact hown
      · rw [AList.lookup_insert_ne hf] at hlook
        rcases List.mem_append.1 hmem with hmem | hmem
        · exact h.own k f hmem hown other hlook
        · cases List.mem_singleton.1 hmem
          exact absurd rfl hf
  · rw [if_neg hfile]
    rw [not_or, not_not] at hfile
    refine ⟨fun k f hmem => ?_, fun f k hlook => List.mem_append_left _ (h.member f k hlook),
      fun k f hmem hown other hlook => ?_⟩
    · rcases List.mem_append.1 hmem with hmem | hmem
      · exact h.filed k f hmem
      · cases List.mem_singleton.1 hmem
        exact hfile.2
    · rcases List.mem_append.1 hmem with hmem | hmem
      · exact h.own k f hmem hown other hlook
      · cases List.mem_singleton.1 hmem
        exact absurd hown hfile.1

theorem availableFamilyScreenshots_filed (families : Table String String) :
    Filed ((Table.pairs families).insertionSort keyBefore)
      (availableFamilyScreenshots families) := by
  unfold availableFamilyScreenshots
  generalize (Table.pairs families).insertionSort keyBefore = rows
  induction rows using List.reverseRecOn with
  | nil =>
      refine ⟨fun _ _ h => absurd h List.not_mem_nil, fun family key h => ?_,
        fun _ _ h => absurd h List.not_mem_nil⟩
      rw [List.foldl_nil, AList.lookup_empty] at h
      cases h
  | append_singleton rows row ih =>
      rw [List.foldl_append, List.foldl_cons, List.foldl_nil]
      exact ih.next row

/-- **Every family has one representative, of its own keys; the family itself, where it is one.** -/
theorem available_representative {families : Table String String} {key family : String}
    (h : families.lookup key = some family) :
    ∃ other, (availableFamilyScreenshots families).lookup family = some other ∧
      families.lookup other = some family ∧
        (normalize key = family → normalize other = family) := by
  have hfiled := availableFamilyScreenshots_filed families
  have hmem : ∀ key, (key, family) ∈ (Table.pairs families).insertionSort keyBefore ↔
      families.lookup key = some family := fun key =>
    (List.mem_insertionSort _).trans Table.mem_pairs
  have hdone := (hmem key).2 h
  obtain ⟨other, hother⟩ :=
    Option.isSome_iff_exists.1 (AList.lookup_isSome.2 (hfiled.filed key family hdone))
  exact ⟨other, hother, (hmem other).1 (hfiled.member family other hother),
    fun hown => hfiled.own key family hdone hown other hother⟩

/-! ## 11. Families are canonical -/

open MachineFamilyResolver (resolverAfter)

/-- What holds of every shard and every accepted table. -/
structure Canonical (shard : ArcadeShard) (data : String) (families : Table String String) :
    Prop where
  walk_ends : ∀ hbmame, ∀ m ∈ shard.rows hbmame, ∀ fuel, (shard.rows hbmame).length < fuel →
    shard.walk hbmame fuel [] m ≠ none ∧ (shard.walk hbmame fuel [] m = some none ↔
      Chase.Cycles (parentIn shard hbmame) m)
  preferred : ∀ romNamespace, ∀ m ∈ shard.rows (decide (romNamespace = some .hbmame)),
    located shard m.setname romNamespace = some (decide (romNamespace = some .hbmame), m)
  parents : ∀ romNamespace hbmame m p,
    located shard m.setname romNamespace = some (hbmame, m) →
    located shard p.setname romNamespace = some (hbmame, p) → m.parent = some p.setname →
    (runtimeRow shard m.setname romNamespace).map ResolvedMachine.family =
      (runtimeRow shard p.setname romNamespace).map ResolvedMachine.family ∧
    (runtimeRow shard m.setname romNamespace = none ↔ Chase.Cycles (parentIn shard hbmame) m)
  resolved : ∀ batches keys, ∃ map r,
    (resolverAfter (some (some shard)) batches).screenshotFamilies data keys = .ok (map, r) ∧
      ∀ key ∈ keys, map.lookup key = some (screenshotFamily families (some shard) key)
  unanswered : ∀ key, machineFamily (some shard) (targetOf families key) = none →
    screenshotFamily families (some shard) (screenshotFamily families (some shard) key) =
      screenshotFamily families (some shard) key
  idempotent : ∀ key, screenshotFamily families (some shard) key ∉ families →
    (∀ hbmame m, located shard (screenshotFamily families (some shard) key) none =
      some (hbmame, m) → m.parent = none) →
    screenshotFamily families (some shard) (screenshotFamily families (some shard) key) =
      screenshotFamily families (some shard) key
  representative : ∀ (map : Table String String) key family, map.lookup key = some family →
    ∃ other, (availableFamilyScreenshots map).lookup family = some other ∧
      map.lookup other = some family ∧ (normalize key = family → normalize other = family)

theorem parse_direct {data : String} {families : Table String String}
    (h : parseReviewedFamilies data = .ok families) (key family : String)
    (hlook : families.lookup key = some family) : normalize family ∉ families := by
  unfold parseReviewedFamilies at h
  cases hrun : (strLines data.toList).zipIdx.foldlM addReviewed ∅ with
  | error message =>
      rw [hrun] at h
      cases h
  | ok table =>
      rw [hrun] at h
      have h' : (if ((Table.pairs table).any fun row => normalize row.2 ∈ table) = true then
          Except.error "reviewed screenshot families must point directly to parents"
        else Except.ok table) = Except.ok families := h
      split at h'
      · cases h'
      next hdirect =>
        cases h'
        intro hmem
        exact hdirect (List.any_eq_true.2 ⟨(key, family), Table.mem_pairs.2 hlook,
          decide_eq_true hmem⟩)

/-- **Machine families are canonical where one list answers for a machine and its parent, and
screenshot families where a family is the source of neither relation.** -/
theorem machine_families_canonical (shard : ArcadeShard) (data : String)
    (families : Table String String) (hparse : parseReviewedFamilies data = .ok families) :
    Canonical shard data families where
  walk_ends := fun hbmame m hm fuel hfuel => by
    refine ⟨?_, walk_cycles_iff hm hfuel⟩
    rcases walk_answers hm hfuel with ⟨root, hwalk, _⟩ | ⟨hwalk, _⟩ <;> rw [hwalk] <;> nofun
  preferred := fun _ _ hm => located_preferred hm
  parents := fun romNamespace hbmame m p hm hp hparent => by
    have hstep : parentIn shard hbmame m = some p := by
      rw [parentIn, hparent]
      exact machine_self (located_some hp).1
    exact ⟨parent_same_family hm hp hstep, runtimeRow_none_iff hm⟩
  resolved := fun batches keys => by
    obtain ⟨hsound, harcade⟩ :=
      MachineFamilyResolver.resolverAfter_sound (some (some shard)) batches
    obtain ⟨map, r, hrun, _, _, hlook⟩ :=
      MachineFamilyResolver.screenshotFamilies_spec hsound hparse keys
    refine ⟨map, r, hrun, fun key hkey => ?_⟩
    rw [hlook, if_pos hkey, harcade]
    rfl
  unanswered := fun _ h => screenshotFamily_idem_of_none (parse_direct hparse) h
  idempotent := fun _ hreviewed hroot => screenshotFamily_idem_of_root hreviewed
    fun _ hshard => Option.some.inj hshard ▸ hroot
  representative := fun _ _ _ h => available_representative h

/-! ## 12. Where the two relations meet -/

theorem clone_sorted : SortedRows [⟨"bar", none⟩, ⟨"foo", some "bar"⟩] := by
  unfold SortedRows
  decide

theorem nothing_sorted : SortedRows [] := List.Pairwise.nil

/-- A clone and its parent. -/
def cloneShard : ArcadeShard :=
  ⟨[⟨"bar", none⟩, ⟨"foo", some "bar"⟩], [], clone_sorted, nothing_sorted⟩

/-- The parent, filed under another name. -/
def barToBaz : String := "bar\tbaz\thttps://example.test/x"

def barToBazFamilies : Table String String := (∅ : Table String String).insert "bar" "baz"

theorem barToBaz_parsed : parseReviewedFamilies barToBaz = .ok barToBazFamilies := by
  have hentries : (parseReviewedFamilies barToBaz).map AList.entries =
      .ok [⟨"bar", "baz"⟩] := by decide +kernel
  cases hparse : parseReviewedFamilies barToBaz with
  | error message =>
      rw [hparse] at hentries
      cases hentries
  | ok families =>
      rw [hparse] at hentries
      exact congrArg Except.ok (AList.ext (Except.ok.inj hentries))

theorem clone_families_canonical : Canonical cloneShard barToBaz barToBazFamilies :=
  machine_families_canonical cloneShard barToBaz barToBazFamilies barToBaz_parsed

theorem dangling_sorted : SortedRows [⟨"foo", some "q"⟩] := List.pairwise_singleton _ _

theorem pair_sorted : SortedRows [⟨"m", some "p"⟩, ⟨"p", some "q"⟩] := by
  unfold SortedRows
  decide

/-- A clone whose parent is in the other list, a clone there of a third. -/
def danglingShard : ArcadeShard :=
  ⟨[⟨"foo", some "q"⟩], [⟨"q", some "z"⟩], dangling_sorted, List.pairwise_singleton _ _⟩

/-- Two machines of one list, the parent in the other as well. -/
def sharedShard : ArcadeShard :=
  ⟨[⟨"p", none⟩], [⟨"m", some "p"⟩, ⟨"p", some "q"⟩], List.pairwise_singleton _ _, pair_sorted⟩

/-- The families one call gives two keys. -/
def familiesOfTwo (shard : ArcadeShard) (data first second : String) :
    Option (Option String × Option String) :=
  match (MachineFamilyResolver.forMetadataPath (some (some shard))).screenshotFamilies data
      [first, second] with
  | .ok (map, _) => some (map.lookup first, map.lookup second)
  | .error _ => none

/-- **A parent the other list answers for has a family of its own; the family of a clone is moved on
where it is a reviewed name, and where the other list has it as a clone.** -/
theorem families_split :
    (sharedShard.machine true "m" = some ⟨"m", some "p"⟩ ∧
      (sharedShard.machine true "p").isSome ∧
      (runtimeRow sharedShard "m" none).map ResolvedMachine.family = some "q" ∧
      (runtimeRow sharedShard "p" none).map ResolvedMachine.family = some "p") ∧
    ((parseReviewedFamilies barToBaz).isOk ∧
      familiesOfTwo cloneShard barToBaz "foo" "bar" = some (some "bar", some "baz")) ∧
    ((parseReviewedFamilies "").isOk ∧
      familiesOfTwo danglingShard "" "foo" "q" = some (some "q", some "z")) := by
  decide +kernel

end MisterMagik.Catalog.MachineFamily
