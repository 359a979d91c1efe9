/-
  File:      MisterMagik/Controllers/Migration.lean
  Subject:   The migration of a version 1 registry (`controller-registry/src/db.rs`).

  A version 1 key names the USB port before the device. The entries of one device are merged into
  one, in the order in which a hash map lists them.

  * `logicalIdFromV1Key_eq_some` -- the logical id is what follows the port;
  * `mergeAll_contents` -- the merged entry is the first survivor with the last port among the
    survivors, which are the completed entries where there is one;
  * **`migrates_alike_iff`** -- the migration is independent of the order exactly when the survivors
    of every device agree.
-/
import MisterMagik.Base.Lines
import MisterMagik.Controllers.Registry

namespace MisterMagik.Controllers

open MisterMagik.Base

/-! ## 1. Keys of version 1 -/

def looksLikeUsbPort (s : List Char) : Bool := ['1', '-'].isPrefixOf s && s.contains '.'

def logicalIdFromV1Key (key : String) : Option String :=
  match splitn 4 ':' key.toList with
  | [] => none
  | first :: rest =>
      if !looksLikeUsbPort first then none
      else if 2 ≤ rest.length then some (String.ofList (List.intercalate [':'] rest))
      else none

/-- The key of version 2. -/
def migratedKey (key : String) : String := (logicalIdFromV1Key key).getD key

theorem length_splitn_colon {n : Nat} {text : List Char} :
    2 ≤ (splitn (n + 2) ':' text).length ↔ ':' ∈ text := by
  unfold splitn
  constructor
  · intro h
    by_contra hnot
    rw [splitOnce_none hnot, List.length_singleton] at h
    exact absurd h (by decide)
  · intro h
    obtain ⟨front, back, rfl, hfront⟩ := List.eq_append_cons_of_mem h
    rw [splitOnce_append hfront]
    have hpos := List.length_pos_iff.mpr (splitn_ne_nil n ':' back)
    simp only [List.length_cons]
    omega

/-- **A port prefix is stripped.** The logical id of a key is what follows the first colon, if a
port stands before it and another colon after it. -/
theorem logicalIdFromV1Key_eq_some {key id : String} :
    logicalIdFromV1Key key = some id ↔
      ∃ port, key.toList = port ++ ':' :: id.toList ∧ ':' ∉ port ∧ looksLikeUsbPort port = true ∧
        ':' ∈ id.toList := by
  unfold logicalIdFromV1Key
  constructor
  · intro h
    unfold splitn at h
    cases hsplit : splitOnce ':' key.toList with
    | none =>
        rw [hsplit] at h
        simp at h
    | some parts =>
        obtain ⟨port, back⟩ := parts
        obtain ⟨hkey, hport⟩ := splitOnce_some hsplit
        simp only [hsplit] at h
        split at h
        · cases h
        · rename_i hlooks
          split at h
          · rename_i hlen
            rw [intercalate_splitn] at h
            cases h
            exact ⟨port, by rw [hkey, String.toList_ofList], hport, by simpa using hlooks,
              by rw [String.toList_ofList]; exact length_splitn_colon.mp hlen⟩
          · cases h
  · rintro ⟨port, hkey, hport, hlooks, hcolon⟩
    unfold splitn
    rw [hkey, splitOnce_append hport]
    simp only [hlooks, Bool.not_true, Bool.false_eq_true, if_false]
    rw [if_pos (length_splitn_colon.mpr hcolon), intercalate_splitn, String.ofList_toList]

/-! ## 2. The merge -/

/-- An entry of a device that has one already. -/
def mergeEntry (existing entry : ControllerEntry) : ControllerEntry :=
  if entry.setupComplete && !existing.setupComplete then entry
  else if entry.setupComplete = existing.setupComplete ∧ entry.lastUsbPort.text ≠ "" then
    { existing with lastUsbPort := entry.lastUsbPort.clone }
  else existing

/-- The entries in the order of the iteration. -/
def migrateV1Entries (old : List (String × ControllerEntry)) : ControllerDb :=
  old.foldl (fun out row => Table.upsert out (migratedKey row.1) row.2 (mergeEntry · row.2)) ∅

/-- The entries of one device, merged. -/
def mergeAll : List ControllerEntry → Option ControllerEntry
  | [] => none
  | entry :: entries => some (entries.foldl mergeEntry entry)

/-- The entries that leave something in the merge. -/
def survivors (entries : List ControllerEntry) : List ControllerEntry :=
  if entries.any (·.setupComplete) then entries.filter (·.setupComplete) else entries

/-- The last port there is. -/
def lastPort (entries : List ControllerEntry) : String :=
  ((entries.filter (·.lastUsbPort.text ≠ "")).getLast?.map (·.lastUsbPort.text)).getD ""

/-- The first entry with the last port. -/
def surviving (entries : List ControllerEntry) : Option ControllerEntry :=
  entries.head?.map fun first =>
    { first.clone with lastUsbPort := .exact (lastPort entries) }

theorem mergeAll_concat (entries : List ControllerEntry) (entry : ControllerEntry) :
    mergeAll (entries ++ [entry]) =
      some (((mergeAll entries).map (mergeEntry · entry)).getD entry) := by
  cases entries with
  | nil => rfl
  | cons first entries =>
      show some ((entries ++ [entry]).foldl mergeEntry first) = _
      rw [List.foldl_append]
      rfl

theorem mergeAll_eq_foldl (entries : List ControllerEntry) :
    entries.foldl (fun old entry => some ((old.map (mergeEntry · entry)).getD entry)) none =
      mergeAll entries := by
  induction entries using List.reverseRecOn with
  | nil => rfl
  | append_singleton entries entry ih =>
      rw [List.foldl_append, ih, mergeAll_concat]
      rfl

/-- A merged entry is complete when one of the entries is. -/
theorem mergeEntry_complete (existing entry : ControllerEntry) :
    (mergeEntry existing entry).setupComplete =
      (existing.setupComplete || entry.setupComplete) := by
  unfold mergeEntry
  split
  · rename_i h
    rw [Bool.and_eq_true] at h
    rw [h.1, Bool.or_true]
  · rename_i h
    split
    · rename_i hsame
      rw [← hsame.1, Bool.or_self]
    · cases hx : existing.setupComplete <;> cases he : entry.setupComplete <;> simp_all

theorem mergeAll_complete {entries : List ControllerEntry} {merged : ControllerEntry}
    (h : mergeAll entries = some merged) :
    merged.setupComplete = entries.any (·.setupComplete) := by
  induction entries using List.reverseRecOn generalizing merged with
  | nil => cases h
  | append_singleton entries entry ih =>
      rw [mergeAll_concat, Option.some.injEq] at h
      rw [List.any_append, List.any_cons, List.any_nil, Bool.or_false]
      cases hm : mergeAll entries with
      | none =>
          have hnil : entries = [] := by
            cases entries with
            | nil => rfl
            | cons _ _ => cases hm
          rw [hm] at h
          subst hnil h
          rfl
      | some before =>
          rw [hm] at h
          subst h
          rw [← ih hm]
          exact mergeEntry_complete before entry

theorem survivors_concat (entries : List ControllerEntry) (entry : ControllerEntry) :
    survivors (entries ++ [entry]) =
      if entry.setupComplete && !entries.any (·.setupComplete) then [entry]
      else if entry.setupComplete = entries.any (·.setupComplete) then survivors entries ++ [entry]
      else survivors entries := by
  have hany : (entries ++ [entry]).any (·.setupComplete) =
      (entries.any (·.setupComplete) || entry.setupComplete) := by
    rw [List.any_append, List.any_cons, List.any_nil, Bool.or_false]
  unfold survivors
  rw [hany, List.filter_append]
  cases ha : entries.any (·.setupComplete) with
  | false =>
      have hnone : entries.filter (·.setupComplete) = [] := by
        rw [List.filter_eq_nil_iff]
        exact fun e he hc => absurd (List.any_eq_true.mpr ⟨e, he, hc⟩) (by rw [ha]; exact nofun)
      cases he : entry.setupComplete <;> simp [hnone, he]
  | true => cases he : entry.setupComplete <;> simp [he]

theorem survivors_ne_nil {entries : List ControllerEntry} (h : entries ≠ []) :
    survivors entries ≠ [] := by
  unfold survivors
  split
  · rename_i hany
    obtain ⟨e, he, hc⟩ := List.any_eq_true.mp hany
    exact List.ne_nil_of_mem (List.mem_filter.mpr ⟨he, hc⟩)
  · exact h

theorem lastPort_concat (entries : List ControllerEntry) (entry : ControllerEntry) :
    lastPort (entries ++ [entry]) =
      if entry.lastUsbPort.text ≠ "" then entry.lastUsbPort.text else lastPort entries := by
  unfold lastPort
  rw [List.filter_append]
  by_cases h : entry.lastUsbPort.text ≠ ""
  · rw [if_pos h, List.filter_cons_of_pos (by simpa using h), List.filter_nil,
      List.getLast?_concat]
    rfl
  · rw [if_neg h, List.filter_cons_of_neg (by simpa using h), List.filter_nil, List.append_nil]

theorem lastPort_singleton (entry : ControllerEntry) :
    lastPort [entry] = entry.lastUsbPort.text := by
  have hport := lastPort_concat [] entry
  rw [List.nil_append] at hport
  rw [hport]
  split
  · rfl
  · rename_i h
    exact (not_not.mp h).symm

theorem surviving_singleton (entry : ControllerEntry) : surviving [entry] = some entry.clone := by
  unfold surviving
  rw [lastPort_singleton]
  rfl

theorem surviving_concat {entries : List ControllerEntry} (h : entries ≠ [])
    (entry : ControllerEntry) :
    surviving (entries ++ [entry]) = (surviving entries).map fun first =>
      if entry.lastUsbPort.text ≠ "" then { first with lastUsbPort := entry.lastUsbPort.clone }
      else first := by
  obtain ⟨first, rest, rfl⟩ := List.exists_cons_of_ne_nil h
  unfold surviving
  rw [lastPort_concat]
  split <;> rfl

/-- **The merge.** The merged entry is the first survivor with the last port. -/
theorem mergeAll_contents (entries : List ControllerEntry) :
    (mergeAll entries).map ControllerEntry.clone = surviving (survivors entries) := by
  induction entries using List.reverseRecOn with
  | nil => rfl
  | append_singleton entries entry ih =>
      rw [mergeAll_concat, survivors_concat]
      cases hm : mergeAll entries with
      | none =>
          have hnil : entries = [] := by
            cases entries with
            | nil => rfl
            | cons _ _ => cases hm
          subst hnil
          cases he : entry.setupComplete <;> exact (surviving_singleton entry).symm
      | some merged =>
          have hne : entries ≠ [] := by
            rintro rfl
            cases hm
          have hcomplete := mergeAll_complete hm
          rw [hm] at ih
          show some (mergeEntry merged entry).clone = _
          rw [← hcomplete]
          unfold mergeEntry
          by_cases hfirst : (entry.setupComplete && !merged.setupComplete) = true
          · rw [if_pos hfirst, if_pos hfirst]
            exact (surviving_singleton entry).symm
          · rw [if_neg hfirst, if_neg hfirst]
            by_cases hsame : entry.setupComplete = merged.setupComplete
            · rw [if_pos hsame, surviving_concat (survivors_ne_nil hne), ← ih, Option.map_some,
                Option.map_some]
              by_cases hport : entry.lastUsbPort.text ≠ ""
              · rw [if_pos ⟨hsame, hport⟩, if_pos hport]
                rfl
              · rw [if_neg (fun h => hport h.2), if_neg hport]
            · rw [if_neg (fun h => hsame h.1), if_neg hsame, ← ih]
              rfl

/-! ## 3. Orders -/

/-- The entries under the keys of version 2. -/
def migratedRows (old : List (String × ControllerEntry)) : List (String × ControllerEntry) :=
  old.map fun row => (migratedKey row.1, row.2)

theorem lookup_migrate (old : List (String × ControllerEntry)) (id : String) :
    (migrateV1Entries old).lookup id = mergeAll (Table.group (migratedRows old) id) := by
  rw [← mergeAll_eq_foldl, ← AList.lookup_empty (β := fun _ => ControllerEntry) id,
    ← Table.lookup_foldl_upsert]
  unfold migrateV1Entries migratedRows
  rw [List.foldl_map]

theorem mem_group_migrated {old : List (String × ControllerEntry)} {id : String}
    {entry : ControllerEntry} :
    entry ∈ Table.group (migratedRows old) id ↔
      ∃ key, (key, entry) ∈ old ∧ migratedKey key = id := by
  rw [Table.mem_group]
  unfold migratedRows
  rw [List.mem_map]
  constructor
  · rintro ⟨⟨key, entry'⟩, hmem, he⟩
    obtain ⟨rfl, rfl⟩ := Prod.mk.inj he
    exact ⟨key, hmem, rfl⟩
  · rintro ⟨key, hmem, rfl⟩
    exact ⟨(key, entry), hmem, rfl⟩

/-- A list of entries of the device, in an order of the map. -/
theorem mem_group_pairs {old : ControllerDb} {rows : List (String × ControllerEntry)}
    (h : rows.Perm (Table.pairs old)) {id : String} {entry : ControllerEntry} :
    entry ∈ Table.group (migratedRows rows) id ↔
      ∃ key, old.lookup key = some entry ∧ migratedKey key = id := by
  rw [mem_group_migrated]
  simp only [h.mem_iff, Table.mem_pairs]

/-! ## 4. Survivors -/

theorem mem_survivors {entries : List ControllerEntry} {entry : ControllerEntry} :
    entry ∈ survivors entries ↔
      entry ∈ entries ∧
        (entry.setupComplete = true ∨ ∀ other ∈ entries, other.setupComplete = false) := by
  unfold survivors
  split
  · rename_i hany
    obtain ⟨some_, hsome, hcomplete⟩ := List.any_eq_true.mp hany
    rw [List.mem_filter]
    refine and_congr_right fun _ => ⟨Or.inl, fun h => h.resolve_right fun hnone => ?_⟩
    rw [hnone _ hsome] at hcomplete
    cases hcomplete
  · rename_i hany
    refine ⟨fun h => ⟨h, .inr fun other hother => ?_⟩, And.left⟩
    by_contra hc
    exact hany (List.any_eq_true.mpr ⟨other, hother, by simpa using hc⟩)

theorem survivors_complete {entries : List ControllerEntry} {entry : ControllerEntry}
    (h : entry ∈ survivors entries) : entry.setupComplete = entries.any (·.setupComplete) := by
  obtain ⟨hmem, hc | hnone⟩ := mem_survivors.mp h
  · rw [hc]
    exact (List.any_eq_true.mpr ⟨entry, hmem, hc⟩).symm
  · rw [hnone _ hmem]
    symm
    rw [List.any_eq_false]
    intro other hother
    rw [hnone other hother]
    exact Bool.false_ne_true

theorem survivors_perm {entries entries' : List ControllerEntry} (h : entries.Perm entries') :
    (survivors entries).Perm (survivors entries') := by
  unfold survivors
  rw [h.any_eq]
  split
  · exact h.filter _
  · exact h

/-- A survivor that comes first is the first survivor. -/
theorem head_survivors {entry : ControllerEntry} {entries : List ControllerEntry}
    (h : entry ∈ survivors (entry :: entries)) :
    (survivors (entry :: entries)).head? = some entry := by
  have hcomplete := survivors_complete h
  unfold survivors
  split
  · rename_i hany
    rw [hany] at hcomplete
    rw [List.filter_cons_of_pos hcomplete, List.head?_cons]
  · rfl

/-- The port of a survivor that comes last is the last port. -/
theorem lastPort_survivors {entry : ControllerEntry} {entries : List ControllerEntry}
    (h : entry ∈ survivors (entries ++ [entry])) (hport : entry.lastUsbPort.text ≠ "") :
    lastPort (survivors (entries ++ [entry])) = entry.lastUsbPort.text := by
  have hcomplete := survivors_complete h
  rw [List.any_append, List.any_cons, List.any_nil, Bool.or_false] at hcomplete
  rw [survivors_concat]
  split
  · rw [lastPort_singleton]
  · split
    · rw [lastPort_concat, if_pos hport]
    · rename_i hfirst hsame
      cases he : entry.setupComplete <;> cases ha : entries.any (·.setupComplete) <;> simp_all

theorem lastPort_eq_nil_iff {entries : List ControllerEntry} :
    lastPort entries = "" ↔ ∀ entry ∈ entries, entry.lastUsbPort.text = "" := by
  induction entries using List.reverseRecOn with
  | nil => exact ⟨fun _ _ h => absurd h List.not_mem_nil, fun _ => rfl⟩
  | append_singleton entries entry ih =>
      rw [lastPort_concat]
      simp only [List.mem_append, List.mem_singleton, or_imp, forall_and, forall_eq, ← ih]
      split <;> simp_all

theorem lastPort_mem {entries : List ControllerEntry} (h : lastPort entries ≠ "") :
    ∃ entry ∈ entries, entry.lastUsbPort.text = lastPort entries := by
  induction entries using List.reverseRecOn with
  | nil => exact absurd rfl h
  | append_singleton entries entry ih =>
      rw [lastPort_concat] at h ⊢
      split
      · exact ⟨entry, List.mem_append_right _ List.mem_cons_self, rfl⟩
      · rename_i hport
        rw [if_neg hport] at h
        obtain ⟨e, he, heq⟩ := ih h
        exact ⟨e, List.mem_append_left _ he, heq⟩

/-- Two entries that leave the same in a merge. -/
structure Alike (a b : ControllerEntry) : Prop where
  label : a.label.text = b.label.text
  kernelName : a.kernelName.text = b.kernelName.text
  kind : a.kind = b.kind
  port : a.lastUsbPort.text ≠ "" → b.lastUsbPort.text ≠ "" →
    a.lastUsbPort.text = b.lastUsbPort.text

/-- Survivors that are alike leave the same entry in every order. -/
theorem surviving_perm {entries entries' : List ControllerEntry} (h : entries.Perm entries')
    (halike : ∀ a ∈ entries, ∀ b ∈ entries, Alike a b)
    (hcomplete : ∀ a ∈ entries, ∀ b ∈ entries, a.setupComplete = b.setupComplete) :
    surviving entries = surviving entries' := by
  have hport : lastPort entries = lastPort entries' := by
    by_cases hnil : lastPort entries = ""
    · rw [hnil, eq_comm, lastPort_eq_nil_iff]
      exact fun e he => lastPort_eq_nil_iff.mp hnil e (h.mem_iff.mpr he)
    · have hnil' : lastPort entries' ≠ "" := fun hnil' => hnil (lastPort_eq_nil_iff.mpr fun e he =>
        lastPort_eq_nil_iff.mp hnil' e (h.mem_iff.mp he))
      obtain ⟨a, ha, hpa⟩ := lastPort_mem hnil
      obtain ⟨b, hb, hpb⟩ := lastPort_mem hnil'
      rw [← hpa, ← hpb]
      exact (halike a ha b (h.mem_iff.mpr hb)).port (hpa ▸ hnil) (hpb ▸ hnil')
  cases entries with
  | nil => rw [h.nil_eq]
  | cons a entries =>
      cases entries' with
      | nil => exact absurd h.length_eq (by simp)
      | cons b entries' =>
          have ha : a ∈ a :: entries := List.mem_cons_self
          have hb : b ∈ a :: entries := h.mem_iff.mpr List.mem_cons_self
          have hab := halike a ha b hb
          unfold surviving
          rw [hport]
          simp only [List.head?_cons, Option.map_some, ControllerEntry.clone, Allocated.clone,
            hab.label, hab.kernelName, hab.kind, hcomplete a ha b hb]

/-! ## 5. The whole map -/

/-- An entry of the map that is completed, or whose device has no completed entry. -/
def Survives (old : ControllerDb) (key : String) (entry : ControllerEntry) : Prop :=
  old.lookup key = some entry ∧
    (entry.setupComplete = true ∨ ∀ key' entry', old.lookup key' = some entry' →
      migratedKey key' = migratedKey key → entry'.setupComplete = false)

/-- The survivors of a device have one label, kernel name and kind, and one port if any. -/
def SurvivorsAgree (old : ControllerDb) : Prop :=
  ∀ key key' entry entry', Survives old key entry → Survives old key' entry' →
    migratedKey key = migratedKey key' → Alike entry entry'

/-- The migration of a map, in every order of its entries. -/
structure MigratesAlike (old : ControllerDb) : Prop where
  orderless : ∀ rows rows', rows.Perm (Table.pairs old) → rows'.Perm (Table.pairs old) →
    (migrateV1Entries rows).contents = (migrateV1Entries rows').contents
  keys : ∀ rows, rows.Perm (Table.pairs old) → ∀ id,
    id ∈ migrateV1Entries rows ↔ ∃ key ∈ old, migratedKey key = id
  complete : ∀ rows, rows.Perm (Table.pairs old) → ∀ id entry,
    (migrateV1Entries rows).lookup id = some entry →
      (entry.setupComplete = true ↔
        ∃ key e, old.lookup key = some e ∧ migratedKey key = id ∧ e.setupComplete = true)
  source : ∀ rows, rows.Perm (Table.pairs old) → ∀ id entry,
    (migrateV1Entries rows).lookup id = some entry →
      ∃ key e, old.lookup key = some e ∧ migratedKey key = id ∧
        e.setupComplete = entry.setupComplete ∧ e.label.text = entry.label.text ∧
        e.kind = entry.kind

section Whole

variable {old : ControllerDb} {rows : List (String × ControllerEntry)}

theorem mem_survivors_pairs (h : rows.Perm (Table.pairs old)) {id : String}
    {entry : ControllerEntry} :
    entry ∈ survivors (Table.group (migratedRows rows) id) ↔
      ∃ key, Survives old key entry ∧ migratedKey key = id := by
  rw [mem_survivors, mem_group_pairs h]
  constructor
  · rintro ⟨⟨key, hkey, rfl⟩, hc⟩
    refine ⟨key, ⟨hkey, hc.imp_right fun hnone key' entry' hkey' he => ?_⟩, rfl⟩
    exact hnone entry' ((mem_group_pairs h).mpr ⟨key', hkey', he⟩)
  · rintro ⟨key, ⟨hkey, hc⟩, rfl⟩
    refine ⟨⟨key, hkey, rfl⟩, hc.imp_right fun hnone other hother => ?_⟩
    obtain ⟨key', hkey', he⟩ := (mem_group_pairs h).mp hother
    exact hnone key' other hkey' he

theorem contents_migrate (rows : List (String × ControllerEntry)) (id : String) :
    (migrateV1Entries rows).contents id =
      surviving (survivors (Table.group (migratedRows rows) id)) := by
  unfold ControllerDb.contents
  rw [lookup_migrate, mergeAll_contents]

theorem migrate_keys (h : rows.Perm (Table.pairs old)) (id : String) :
    id ∈ migrateV1Entries rows ↔ ∃ key ∈ old, migratedKey key = id := by
  rw [← AList.lookup_isSome, lookup_migrate]
  have hnil : (mergeAll (Table.group (migratedRows rows) id)).isSome ↔
      ∃ entry, entry ∈ Table.group (migratedRows rows) id := by
    cases Table.group (migratedRows rows) id with
    | nil => simp [mergeAll]
    | cons e es => exact ⟨fun _ => ⟨e, List.mem_cons_self⟩, fun _ => rfl⟩
  rw [hnil]
  simp only [mem_group_pairs h]
  constructor
  · rintro ⟨entry, key, hkey, he⟩
    exact ⟨key, Table.mem_of_lookup hkey, he⟩
  · rintro ⟨key, hkey, he⟩
    obtain ⟨entry, hentry⟩ := Option.isSome_iff_exists.mp (AList.lookup_isSome.mpr hkey)
    exact ⟨entry, key, hentry, he⟩

theorem migrate_complete (h : rows.Perm (Table.pairs old)) {id : String}
    {entry : ControllerEntry} (he : (migrateV1Entries rows).lookup id = some entry) :
    entry.setupComplete = true ↔
      ∃ key e, old.lookup key = some e ∧ migratedKey key = id ∧ e.setupComplete = true := by
  rw [lookup_migrate] at he
  rw [mergeAll_complete he, List.any_eq_true]
  simp only [mem_group_pairs h]
  constructor
  · rintro ⟨e, ⟨key, hkey, hid⟩, hc⟩
    exact ⟨key, e, hkey, hid, hc⟩
  · rintro ⟨key, e, hkey, hid, hc⟩
    exact ⟨e, ⟨key, hkey, hid⟩, hc⟩

theorem migrate_source (h : rows.Perm (Table.pairs old)) {id : String}
    {entry : ControllerEntry} (he : (migrateV1Entries rows).lookup id = some entry) :
    ∃ key e, old.lookup key = some e ∧ migratedKey key = id ∧
      e.setupComplete = entry.setupComplete ∧ e.label.text = entry.label.text ∧
      e.kind = entry.kind := by
  rw [lookup_migrate] at he
  have hmerge := mergeAll_contents (Table.group (migratedRows rows) id)
  rw [he] at hmerge
  unfold surviving at hmerge
  obtain ⟨first, hfirst, heq⟩ := Option.map_eq_some_iff.mp hmerge.symm
  have hmem := List.mem_of_mem_head? hfirst
  obtain ⟨key, hkey, hid⟩ := (mem_survivors_pairs h).mp hmem
  refine ⟨key, first, hkey.1, hid, ?_, ?_, ?_⟩
  · rw [mergeAll_complete he, survivors_complete hmem]
  · exact congrArg (·.label.text) heq
  · exact congrArg (·.kind) heq

theorem group_migrated_append (rows rows' : List (String × ControllerEntry)) (id : String) :
    Table.group (migratedRows (rows ++ rows')) id =
      Table.group (migratedRows rows) id ++ Table.group (migratedRows rows') id := by
  unfold migratedRows
  rw [List.map_append, Table.group_append]

theorem group_migrated_singleton (key : String) (entry : ControllerEntry) :
    Table.group (migratedRows [(key, entry)]) (migratedKey key) = [entry] :=
  Table.group_cons_self (migratedKey key) entry []

/-- Every survivor comes first in some order, and last in some order. -/
theorem survives_first_last {key : String} {entry : ControllerEntry}
    (h : Survives old key entry) :
    (∃ rows, rows.Perm (Table.pairs old) ∧
      (survivors (Table.group (migratedRows rows) (migratedKey key))).head? = some entry) ∧
    ∃ rows, rows.Perm (Table.pairs old) ∧ (entry.lastUsbPort.text ≠ "" →
      lastPort (survivors (Table.group (migratedRows rows) (migratedKey key))) =
        entry.lastUsbPort.text) := by
  have hperm := List.perm_cons_erase (Table.mem_pairs.mpr h.1)
  have hlast : ((Table.pairs old).erase (key, entry) ++ [(key, entry)]).Perm (Table.pairs old) :=
    (List.perm_append_singleton _ _).trans hperm.symm
  constructor
  · refine ⟨_, hperm.symm, ?_⟩
    have hmem := (mem_survivors_pairs hperm.symm).mpr ⟨key, h, rfl⟩
    rw [← List.singleton_append, group_migrated_append, group_migrated_singleton,
      List.singleton_append] at hmem ⊢
    exact head_survivors hmem
  · refine ⟨_, hlast, fun hport => ?_⟩
    have hmem := (mem_survivors_pairs hlast).mpr ⟨key, h, rfl⟩
    rw [group_migrated_append, group_migrated_singleton] at hmem ⊢
    exact lastPort_survivors hmem hport

theorem surviving_of_head {entries : List ControllerEntry} {entry : ControllerEntry}
    (h : entries.head? = some entry) :
    surviving entries = some { entry.clone with lastUsbPort := .exact (lastPort entries) } := by
  unfold surviving
  rw [h, Option.map_some]

/-- Two entries whose merges are one are alike. -/
theorem alike_of_orderless (h : MigratesAlike old) {key key' : String}
    {entry entry' : ControllerEntry} (hs : Survives old key entry) (hs' : Survives old key' entry')
    (hkey : migratedKey key = migratedKey key') : Alike entry entry' := by
  have hsame : ∀ {rows rows'}, rows.Perm (Table.pairs old) → rows'.Perm (Table.pairs old) →
      surviving (survivors (Table.group (migratedRows rows) (migratedKey key))) =
        surviving (survivors (Table.group (migratedRows rows') (migratedKey key))) :=
    fun hr hr' => by rw [← contents_migrate, ← contents_migrate, h.orderless _ _ hr hr']
  obtain ⟨⟨first, hfirst, hhead⟩, last, hlast, hport⟩ := survives_first_last hs
  obtain ⟨⟨first', hfirst', hhead'⟩, last', hlast', hport'⟩ := survives_first_last hs'
  rw [← hkey] at hhead' hport'
  have heads := hsame hfirst hfirst'
  rw [surviving_of_head hhead, surviving_of_head hhead', Option.some.injEq] at heads
  have hlabel := congrArg (·.label.text) heads
  have hkernel := congrArg (·.kernelName.text) heads
  have hkind := congrArg (·.kind) heads
  refine ⟨hlabel, hkernel, hkind, fun hp hp' => ?_⟩
  have hports : ∀ {rows}, rows.Perm (Table.pairs old) →
      lastPort (survivors (Table.group (migratedRows rows) (migratedKey key))) =
        lastPort (survivors (Table.group (migratedRows first) (migratedKey key))) := by
    intro rows hr
    have hone := hsame hr hfirst
    rw [surviving_of_head hhead] at hone
    obtain ⟨e, -, he⟩ := Option.map_eq_some_iff.mp hone
    exact congrArg (·.lastUsbPort.text) he
  rw [← hport hp, ← hport' hp', hports hlast, hports hlast']

end Whole

/-- **When the migration is independent of the order.** For every map: the migrations in all its
orders are one map, with the logical ids of its keys and for each of them the setup state, label and
kind of an entry that survives, exactly when the survivors of each device agree. -/
theorem migrates_alike_iff (old : ControllerDb) : MigratesAlike old ↔ SurvivorsAgree old := by
  constructor
  · exact fun h _ _ _ _ hs hs' hkey => alike_of_orderless h hs hs' hkey
  · intro h
    refine ⟨fun rows rows' hr hr' => ?_, fun rows hr => migrate_keys hr,
      fun rows hr id entry => migrate_complete hr, fun rows hr id entry => migrate_source hr⟩
    funext id
    rw [contents_migrate, contents_migrate]
    have hperm : (migratedRows rows).Perm (migratedRows rows') := (hr.trans hr'.symm).map _
    refine surviving_perm (survivors_perm (Table.group_perm hperm id)) ?_ ?_
    · intro a ha b hb
      obtain ⟨key, hsa, hka⟩ := (mem_survivors_pairs hr).mp ha
      obtain ⟨key', hsb, hkb⟩ := (mem_survivors_pairs hr).mp hb
      exact h key key' a b hsa hsb (hka.trans hkb.symm)
    · intro a ha b hb
      rw [survivors_complete ha, survivors_complete hb]

/-! ## 6. Two ports of one device -/

def padEntry (label port : String) : ControllerEntry :=
  ⟨.exact label, .exact "Test Pad", .gamepad, true, .exact port⟩

/-- One device that was set up on two ports. -/
def twoPorts : ControllerDb :=
  Table.ofRows [("1-1.3:2563:0575", padEntry "Left" "1-1.3"),
    ("1-1.7:2563:0575", padEntry "Right" "1-1.7")]

/-- The label of the migrated entry is that of the entry which the map lists first. -/
theorem two_ports_migrate_unlike :
    ((migrateV1Entries (Table.pairs twoPorts)).contents "2563:0575").map (·.label.text) =
        some "Left" ∧
      ((migrateV1Entries (Table.pairs twoPorts).reverse).contents "2563:0575").map (·.label.text) =
        some "Right" ∧
      ¬ MigratesAlike twoPorts := by
  have hleft : ((migrateV1Entries (Table.pairs twoPorts)).contents "2563:0575").map
      (·.label.text) = some "Left" := by decide +kernel
  have hright : ((migrateV1Entries (Table.pairs twoPorts).reverse).contents "2563:0575").map
      (·.label.text) = some "Right" := by decide +kernel
  refine ⟨hleft, hright, fun h => ?_⟩
  have hsame := h.orderless _ _ (.refl _) (List.reverse_perm (Table.pairs twoPorts))
  rw [hsame, hright] at hleft
  exact absurd hleft (by decide)

end MisterMagik.Controllers
