/-
  File:      MisterMagik/Catalog/Slots.lean
  Subject:   The two manifest slots: what is read from them and what a call leaves in them.

  What is validated with its artifacts is valid without them on any storage, so a manifest that
  was written is read back. A publication writes the slot that does not hold the latest readable
  manifest, a replacement of the refresh state the one that does.

  * `validateManifest_plain`, `readSlot_write` -- what is validated is read back;
  * `latest_iff` -- which manifest is the latest;
  * `publish_cases`, `replace_cases` -- what a call leaves.
-/
import MisterMagik.Catalog.Registry

namespace MisterMagik.Catalog

open MisterMagik.Base

/-! ## 1. What validation gives -/

theorem bind_ok {α β : Type} {x : Except RegistryError α} {f : α → Except RegistryError β} {b : β} :
    (x >>= f) = .ok b ↔ ∃ a, x = .ok a ∧ f a = .ok b := by
  cases x with
  | error error =>
      constructor
      · intro h
        cases h
      · intro h
        obtain ⟨a, h, -⟩ := h
        cases h
  | ok a =>
      constructor
      · intro h
        exact ⟨a, rfl, h⟩
      · intro h
        obtain ⟨a', h, hf⟩ := h
        cases h
        exact hf

theorem require_ok {condition : Bool} {stage message : String} :
    require condition stage message = .ok () ↔ condition = true := by
  unfold require
  split
  · simp [*]
  · simp [*]

section Validation

variable {root root' : Root} {limits : RegistryLimits} {validateArtifacts verifyHashes : Bool}

/-- Without the artifacts the storage is not looked at. -/
theorem validateGeneration_weaken {systemId : SystemId} {g : PublishedGeneration}
    {verifyHashes' : Bool}
    (h : validateGeneration root systemId g limits validateArtifacts verifyHashes = .ok ()) :
    validateGeneration root' systemId g limits false verifyHashes' = .ok () := by
  unfold validateGeneration at h ⊢
  split
  · rw [if_pos ‹_›] at h
    exact h
  · rw [if_neg ‹_›] at h
    obtain ⟨_, hpaths, h⟩ := bind_ok.1 h
    obtain ⟨_, hlimits, -⟩ := bind_ok.1 h
    exact bind_ok.2 ⟨(), hpaths, bind_ok.2 ⟨(), hlimits, rfl⟩⟩

/-- A canonical path has no backslash: identifiers, digits and suffixes have none. -/
theorem artifactPath_plain (systemId : SystemId) (generation : Nat) {suffix : String}
    (hsuffix : '\\' ∉ suffix.toList) :
    '\\' ∉ (artifactPath systemId generation suffix).raw.toList := by
  have hid : '\\' ∉ systemId.value.toList := by
    intro hmem
    have hchar := systemId.valid.chars _ hmem
    revert hchar
    decide
  have hdigits : '\\' ∉ (toString generation).toList := by
    intro hmem
    have hrepr : (toString generation).toList = Nat.toDigits 10 generation := Nat.toList_repr
    rw [hrepr] at hmem
    have hdigit := Nat.isDigit_of_mem_toDigits (by decide) (by decide) hmem
    revert hdigit
    decide
  have hdir : '\\' ∉ "systems/".toList := by decide
  have hslash : '\\' ∉ "/".toList := by decide
  unfold artifactPath
  simp only [String.toList_append, List.mem_append, not_or]
  exact ⟨⟨⟨⟨hdir, hid⟩, hslash⟩, hdigits⟩, hsuffix⟩

theorem artifact_plain {systemId : SystemId} {generation : Nat} {suffix : String}
    (hsuffix : '\\' ∉ suffix.toList) {path : PathBuf}
    (h : (path == artifactPath systemId generation suffix) = true) : '\\' ∉ path.raw.toList :=
  (PathBuf.backslash_congr h).not.2 (artifactPath_plain systemId generation hsuffix)

theorem validateGeneration_plain {systemId : SystemId} {g : PublishedGeneration}
    (h : validateGeneration root systemId g limits validateArtifacts verifyHashes = .ok ()) :
    g.Plain := by
  unfold validateGeneration at h
  split at h
  · rename_i hless
    simp only [PublishedGeneration.isArtifactless, Bool.and_eq_true, Option.isNone_iff_eq_none]
      at hless
    obtain ⟨⟨⟨⟨⟨⟨hs, hn⟩, -⟩, -⟩, -⟩, -⟩, hp⟩ := hless
    refine ⟨fun path hpath => ?_, fun path hpath => ?_, fun navpack hpack => ?_⟩
    · rw [hs] at hpath
      cases hpath
    · rw [hn] at hpath
      cases hpath
    · rw [hp] at hpack
      cases hpack
  · obtain ⟨_, hpaths, -⟩ := bind_ok.1 h
    have hcanonical := require_ok.1 hpaths
    simp only [canonicalPaths, Bool.and_eq_true] at hcanonical
    obtain ⟨⟨⟨⟨⟨⟨hs, -⟩, -⟩, hn⟩, -⟩, -⟩, hp⟩ := hcanonical
    refine ⟨fun path hpath => ?_, fun path hpath => ?_, fun navpack hpack => ?_⟩
    · rw [hpath] at hs
      simp only [Bool.and_eq_true] at hs
      exact artifact_plain (by decide) hs.1
    · rw [hpath, Option.all_some, Bool.and_eq_true] at hn
      exact artifact_plain (by decide) hn.1
    · rw [hpack, Option.all_some] at hp
      simp only [Bool.and_eq_true] at hp
      exact artifact_plain (by decide) hp.1.1.1

/-- What the checks of one system come to. -/
theorem validateSystem_ok {system : ManifestSystem}
    (h : validateSystem root system limits validateArtifacts verifyHashes = .ok ()) :
    validateGeneration root system.systemId system.active limits validateArtifacts verifyHashes =
        .ok () ∧
      ∀ previous ∈ system.previous, validateGeneration root system.systemId previous limits
        validateArtifacts verifyHashes = .ok () := by
  unfold validateSystem at h
  obtain ⟨_, -, h⟩ := bind_ok.1 h
  obtain ⟨_, -, h⟩ := bind_ok.1 h
  obtain ⟨_, hactive, h⟩ := bind_ok.1 h
  refine ⟨hactive, fun previous hprevious => ?_⟩
  rw [hprevious] at h
  obtain ⟨_, -, h⟩ := bind_ok.1 h
  exact h

theorem validateSystem_weaken {system : ManifestSystem} {verifyHashes' : Bool}
    (h : validateSystem root system limits validateArtifacts verifyHashes = .ok ()) :
    validateSystem root' system limits false verifyHashes' = .ok () := by
  unfold validateSystem at h ⊢
  obtain ⟨_, hmetadata, h⟩ := bind_ok.1 h
  obtain ⟨_, hproducers, h⟩ := bind_ok.1 h
  obtain ⟨_, hactive, h⟩ := bind_ok.1 h
  refine bind_ok.2 ⟨(), hmetadata, bind_ok.2 ⟨(), hproducers, bind_ok.2
    ⟨(), validateGeneration_weaken hactive, ?_⟩⟩⟩
  cases hprevious : system.previous with
  | none => rfl
  | some previous =>
      rw [hprevious] at h
      obtain ⟨_, holder, h⟩ := bind_ok.1 h
      exact bind_ok.2 ⟨(), holder, validateGeneration_weaken h⟩

theorem validateSystems_weaken {systems : List ManifestSystem} {previousId : Option SystemId}
    {verifyHashes' : Bool}
    (h : validateSystems root limits validateArtifacts verifyHashes previousId systems = .ok ()) :
    validateSystems root' limits false verifyHashes' previousId systems = .ok () := by
  induction systems generalizing previousId with
  | nil => rfl
  | cons system systems ih =>
      obtain ⟨_, hsorted, h⟩ := bind_ok.1 h
      obtain ⟨_, hsystem, h⟩ := bind_ok.1 h
      exact bind_ok.2 ⟨(), hsorted, bind_ok.2 ⟨(), validateSystem_weaken hsystem, ih h⟩⟩

theorem validateSystems_mem {systems : List ManifestSystem} {previousId : Option SystemId}
    (h : validateSystems root limits validateArtifacts verifyHashes previousId systems = .ok ()) :
    ∀ system ∈ systems, validateSystem root system limits validateArtifacts verifyHashes =
      .ok () := by
  induction systems generalizing previousId with
  | nil =>
      intro system hmem
      cases hmem
  | cons system systems ih =>
      obtain ⟨_, -, h⟩ := bind_ok.1 h
      obtain ⟨_, hsystem, h⟩ := bind_ok.1 h
      intro system' hmem
      rcases List.mem_cons.1 hmem with rfl | hmem
      · exact hsystem
      · exact ih h system' hmem

variable {manifest : CatalogManifest}

theorem validateManifest_systems
    (h : validateManifest root manifest limits validateArtifacts verifyHashes = .ok ()) :
    validateSystems root limits validateArtifacts verifyHashes none manifest.systems = .ok () := by
  obtain ⟨_, -, h⟩ := bind_ok.1 h
  obtain ⟨_, -, h⟩ := bind_ok.1 h
  exact h

/-- **What is validated with its artifacts is valid without them, on any storage.** -/
theorem validateManifest_weaken {verifyHashes' : Bool}
    (h : validateManifest root manifest limits validateArtifacts verifyHashes = .ok ()) :
    validateManifest root' manifest limits false verifyHashes' = .ok () := by
  obtain ⟨_, hrefresh, h⟩ := bind_ok.1 h
  obtain ⟨_, hcount, h⟩ := bind_ok.1 h
  exact bind_ok.2 ⟨(), hrefresh, bind_ok.2 ⟨(), hcount, validateSystems_weaken h⟩⟩

/-- **A valid manifest comes back from its stored form.** -/
theorem validateManifest_plain
    (h : validateManifest root manifest limits validateArtifacts verifyHashes = .ok ()) :
    manifest.toStored.fromStored = some manifest := by
  refine fromStored_toStored fun system hmem => ?_
  have hsystem := validateSystems_mem (validateManifest_systems h) system hmem
  obtain ⟨hactive, hprevious⟩ := validateSystem_ok hsystem
  exact ⟨validateGeneration_plain hactive, fun previous hp =>
    validateGeneration_plain (hprevious previous hp)⟩

end Validation

/-! ## 2. Reading the slots -/

section Slots

variable {disk : Disk} {root : Root} {manifest : CatalogManifest} {slot target : Slot}

@[simp] theorem slot_setSlot (root : Root) (slot : Slot) (file : Option SlotFile) :
    (root.setSlot slot file).slot slot = file := by
  cases slot <;> rfl

theorem slot_setSlot_ne (root : Root) (h : slot ≠ target) (file : Option SlotFile) :
    (root.setSlot target file).slot slot = root.slot slot := by
  cases slot <;> cases target <;> first | rfl | exact absurd rfl h

theorem other_ne (slot : Slot) : slot.other ≠ slot := by
  cases slot <;> decide

theorem eq_other (h : slot ≠ target) : slot = target.other := by
  cases slot <;> cases target <;> first | rfl | exact absurd rfl h

/-- Without artifacts a slot reads as its file does, on any storage. -/
theorem readSlot_congr (disk : Disk) {root root' : Root} (h : root'.slot slot = root.slot slot) :
    readSlot disk root' false slot = readSlot disk root false slot := by
  have hvalid : ∀ m : CatalogManifest,
      (validateManifest root' m disk.limits false false).isOk =
        (validateManifest root m disk.limits false false).isOk := by
    intro m
    cases hm : validateManifest root m disk.limits false false with
    | ok _ => rw [validateManifest_weaken hm]
    | error error =>
        cases hm' : validateManifest root' m disk.limits false false with
        | ok _ =>
            have hback : validateManifest root m disk.limits false false = .ok () :=
              validateManifest_weaken hm'
            rw [hm] at hback
            cases hback
        | error error' => rfl
  unfold readSlot
  rw [h]
  simp only [hvalid]

/-- **What was written reads back.** -/
theorem readSlot_write {validateArtifacts verifyHashes : Bool}
    (hvalid : validateManifest root manifest disk.limits validateArtifacts verifyHashes = .ok ())
    (hsize : ¬disk.jsonSize manifest.toStored > disk.limits.maxManifestBytes) {root' : Root}
    (hslot : root'.slot slot = some (.stored manifest.toStored)) :
    readSlot disk root' false slot = some manifest := by
  have hback : validateManifest root' manifest disk.limits false false = .ok () :=
    validateManifest_weaken hvalid
  unfold readSlot
  rw [hslot]
  dsimp only
  rw [if_neg hsize, validateManifest_plain hvalid]
  dsimp only
  rw [hback]
  rfl

/-- The slot `slot` holds the latest readable manifest. -/
def Latest (disk : Disk) (root : Root) (slot : Slot) (manifest : CatalogManifest) : Prop :=
  maxByGeneration (readManifestSlots disk root false) = some (slot, manifest)

/-- **The latest manifest is the readable one of the greatest generation, the second slot's at a
    tie.** -/
theorem latest_iff : Latest disk root slot manifest ↔
    readSlot disk root false slot = some manifest ∧
      ∀ m, readSlot disk root false slot.other = some m →
        m.generation < manifest.generation ∨ (slot = .b ∧ m.generation = manifest.generation) := by
  unfold Latest readManifestSlots
  cases ha : readSlot disk root false .a with
  | none =>
      cases hb : readSlot disk root false .b with
      | none => cases slot <;> simp [maxByGeneration, ha, hb]
      | some y => cases slot <;> simp [maxByGeneration, Slot.other, ha, hb]
  | some x =>
      cases hb : readSlot disk root false .b with
      | none => cases slot <;> simp [maxByGeneration, Slot.other, ha, hb]
      | some y =>
          by_cases hle : x.generation ≤ y.generation
          · cases slot with
            | a =>
                simp only [maxByGeneration, Slot.other, ha, hb, hle, List.filterMap_cons,
                  List.filterMap_nil, Option.map_some, List.foldl_cons, List.foldl_nil, if_pos]
                constructor
                · intro h
                  cases h
                · intro h
                  obtain ⟨hx, hy⟩ := h
                  cases hx
                  have hnewer := hy y rfl
                  rcases hnewer with hlt | ⟨hslot, -⟩
                  · omega
                  · cases hslot
            | b =>
                simp only [maxByGeneration, Slot.other, ha, hb, hle, List.filterMap_cons,
                  List.filterMap_nil, Option.map_some, List.foldl_cons, List.foldl_nil, if_pos]
                constructor
                · intro h
                  cases h
                  refine ⟨rfl, fun m hm => ?_⟩
                  cases hm
                  rcases Nat.lt_or_eq_of_le hle with hlt | heq
                  · exact Or.inl hlt
                  · exact Or.inr ⟨trivial, heq⟩
                · intro h
                  obtain ⟨hy, -⟩ := h
                  cases hy
                  rfl
          · cases slot with
            | a =>
                simp only [maxByGeneration, Slot.other, ha, hb, List.filterMap_cons,
                  List.filterMap_nil, Option.map_some, List.foldl_cons, List.foldl_nil,
                  if_neg hle]
                constructor
                · intro h
                  cases h
                  refine ⟨rfl, fun m hm => ?_⟩
                  cases hm
                  exact Or.inl (Nat.lt_of_not_le hle)
                · intro h
                  obtain ⟨hx, -⟩ := h
                  cases hx
                  rfl
            | b =>
                simp only [maxByGeneration, Slot.other, ha, hb, List.filterMap_cons,
                  List.filterMap_nil, Option.map_some, List.foldl_cons, List.foldl_nil,
                  if_neg hle]
                constructor
                · intro h
                  cases h
                · intro h
                  obtain ⟨hy, hx⟩ := h
                  cases hy
                  have hnewer := hx x rfl
                  rcases hnewer with hlt | ⟨-, heq⟩
                  · omega
                  · omega

theorem readLatest_iff : readLatestManifestLazy disk root = .ok manifest ↔
    ∃ slot, Latest disk root slot manifest := by
  unfold readLatestManifestLazy Latest
  cases hmax : maxByGeneration (readManifestSlots disk root false) with
  | none =>
      constructor
      · intro h
        cases h
      · intro h
        obtain ⟨slot, h⟩ := h
        cases h
  | some best =>
      obtain ⟨slot, m⟩ := best
      constructor
      · intro h
        cases h
        exact ⟨slot, rfl⟩
      · intro h
        obtain ⟨slot', h⟩ := h
        cases h
        rfl

/-- A manifest newer than whatever the other slot holds is the latest. -/
theorem latest_of_newer (hread : readSlot disk root false slot = some manifest)
    (hnewer : ∀ m, readSlot disk root false slot.other = some m →
      m.generation < manifest.generation) : Latest disk root slot manifest :=
  latest_iff.2 ⟨hread, fun m hm => Or.inl (hnewer m hm)⟩

theorem latest_of_alone (hread : readSlot disk root false slot = some manifest)
    (hother : readSlot disk root false slot.other = none) : Latest disk root slot manifest := by
  refine latest_of_newer hread fun m hm => ?_
  rw [hother] at hm
  cases hm

/-! ## 3. What a call leaves -/

/-- **A publication never writes the slot of the latest manifest.** -/
theorem target_spares (htarget : targetSlot (readManifestSlots disk root false) = .ok target)
    (hlatest : Latest disk root slot manifest) : slot ≠ target := by
  intro heq
  subst heq
  obtain ⟨hread, hother⟩ := latest_iff.1 hlatest
  unfold readManifestSlots at htarget
  cases slot with
  | a =>
      cases hb : readSlot disk root false .b with
      | none => simp [targetSlot, Slot.other, hread, hb] at htarget
      | some m =>
          have hlt := hother m hb
          simp [targetSlot, hread, hb] at htarget
          rcases hlt with hlt | ⟨hslot, -⟩
          · omega
          · cases hslot
  | b =>
      cases ha : readSlot disk root false .a with
      | none => simp [targetSlot, Slot.other, hread, ha] at htarget
      | some m =>
          have hlt := hother m ha
          simp [targetSlot, hread, ha] at htarget
          rcases hlt with hlt | ⟨-, heq⟩
          · omega
          · omega

/-- What a publication has found when it writes. -/
structure Writes (disk : Disk) (root : Root) (manifest : CatalogManifest) (target : Slot) :
    Prop where
  valid : validateManifest root manifest disk.limits true false = .ok ()
  size : ¬disk.jsonSize manifest.toStored > disk.limits.maxManifestBytes
  newer : ∀ slot m, readSlot disk root false slot = some m → m.generation < manifest.generation
  spares : ∀ slot m, Latest disk root slot m → slot ≠ target

theorem writeManifestSlot_cases (disk : Disk) (root : Root) (manifest : CatalogManifest)
    (target : Slot)
    (conduct : WriteConduct) :
    (∃ error, writeManifestSlot disk root manifest target conduct = (root, .error error)) ∨
      (¬disk.jsonSize manifest.toStored > disk.limits.maxManifestBytes ∧
        writeManifestSlot disk root manifest target conduct =
          (root.setSlot target (some (.stored manifest.toStored)),
            conduct.sync.map fun _ => target)) := by
  unfold writeManifestSlot
  dsimp only
  by_cases hsize : disk.jsonSize manifest.toStored > disk.limits.maxManifestBytes
  · rw [if_pos hsize]
    exact Or.inl ⟨_, rfl⟩
  · rw [if_neg hsize]
    cases conduct.fails with
    | some error => exact Or.inl ⟨_, rfl⟩
    | none =>
        refine Or.inr ⟨hsize, ?_⟩
        cases conduct.sync <;> rfl

theorem mem_readManifestSlots {m : CatalogManifest} (h : readSlot disk root false slot = some m) :
    (slot, m) ∈ readManifestSlots disk root false := by
  refine List.mem_filterMap.2 ⟨slot, ?_, ?_⟩
  · cases slot <;> decide
  · rw [h]
    rfl

/-- **What a publication leaves: everything as it was, or its manifest in the slot to spare.** -/
theorem publish_cases (disk : Disk) (root : Root) (manifest : CatalogManifest)
    (conduct : WriteConduct) :
    (∃ error, publishManifestWithTrustedArtifacts disk root manifest conduct =
      (root, .error error)) ∨
    ∃ target, Writes disk root manifest target ∧
      publishManifestWithTrustedArtifacts disk root manifest conduct =
        (root.setSlot target (some (.stored manifest.toStored)),
          conduct.sync.map fun _ => target) := by
  unfold publishManifestWithTrustedArtifacts publishManifest
  cases hvalid : validateManifest root manifest disk.limits true false with
  | error error => exact Or.inl ⟨error, rfl⟩
  | ok _ =>
      dsimp only
      by_cases hnewer : ((readManifestSlots disk root false).any fun existing =>
          existing.2.generation ≥ manifest.generation) = true
      · rw [if_pos hnewer]
        exact Or.inl ⟨_, rfl⟩
      · rw [if_neg hnewer]
        cases htarget : targetSlot (readManifestSlots disk root false) with
        | error error => exact Or.inl ⟨error, rfl⟩
        | ok target =>
            rcases writeManifestSlot_cases disk root manifest target conduct with herror | hwrite
            · exact Or.inl herror
            · obtain ⟨hsize, hwrite⟩ := hwrite
              refine Or.inr ⟨target, ⟨hvalid, hsize, fun slot m hm => ?_,
                fun slot m hm => target_spares htarget hm⟩, hwrite⟩
              by_contra hge
              refine hnewer (List.any_eq_true.2 ⟨(slot, m), mem_readManifestSlots hm, ?_⟩)
              exact decide_eq_true (Nat.le_of_not_lt hge)

/-- **What a replacement leaves: everything as it was, or its manifest in the slot of the
    latest, with the same catalogue.** -/
theorem replace_cases (disk : Disk) (root : Root) (manifest : CatalogManifest)
    (conduct : WriteConduct) :
    (∃ error, replaceRefreshState disk root manifest conduct = (root, .error error)) ∨
    ∃ slot current, Latest disk root slot current ∧
      ({ current with refreshState := manifest.refreshState } == manifest) = true ∧
      validateManifest root manifest disk.limits false false = .ok () ∧
      ¬disk.jsonSize manifest.toStored > disk.limits.maxManifestBytes ∧
      replaceRefreshState disk root manifest conduct =
        (root.setSlot slot (some (.stored manifest.toStored)), conduct.sync) := by
  unfold replaceRefreshState
  cases hvalid : validateManifest root manifest disk.limits false false with
  | error error => exact Or.inl ⟨error, rfl⟩
  | ok _ =>
      dsimp only
      cases hmax : maxByGeneration (readManifestSlots disk root false) with
      | none => exact Or.inl ⟨_, rfl⟩
      | some best =>
          obtain ⟨slot, current⟩ := best
          dsimp only
          by_cases hsame : ({ current with refreshState := manifest.refreshState } == manifest) =
              true
          · rw [hsame]
            rcases writeManifestSlot_cases disk root manifest slot conduct with herror | hwrite
            · obtain ⟨error, herror⟩ := herror
              refine Or.inl ⟨error, ?_⟩
              rw [herror]
              rfl
            · obtain ⟨hsize, hwrite⟩ := hwrite
              refine Or.inr ⟨slot, current, hmax, hsame, rfl, hsize, ?_⟩
              rw [hwrite]
              cases conduct.sync <;> rfl
          · rw [Bool.not_eq_true] at hsame
            rw [hsame]
            exact Or.inl ⟨_, rfl⟩

/-- The same catalogue has the same generation. -/
theorem same_generation {current manifest : CatalogManifest}
    (h : ({ current with refreshState := manifest.refreshState } == manifest) = true) :
    current.generation = manifest.generation := by
  obtain ⟨r, f, g, s⟩ := current
  obtain ⟨r', f', g', s'⟩ := manifest
  have hbeq : (r' == r' && (f == f' && (g == g' && s == s'))) = true := h
  simp only [Bool.and_eq_true, beq_iff_eq] at hbeq
  exact hbeq.2.2.1

end Slots

end MisterMagik.Catalog
