/-
  File:      MisterMagik/Catalog/Selection.lean
  Subject:   What a preparation keeps, and what the manifest it makes names of the current one.

  An entry made from a source is the current one, or names it as the generation before. So the next
  manifest names what the current one has in use, as long as the snapshot has its systems.

  * `entry_of_mem` -- a system has one entry in a valid manifest;
  * `DropsNothing` -- no system in use is missing from a snapshot;
  * `keeps_prepareSnapshotSelection` -- a preparation keeps what is in use, and its manifest names
    it.
-/
import MisterMagik.Catalog.InUse

namespace MisterMagik.Catalog

open MisterMagik.Base

/-! ## 1. Entries -/

theorem readSlot_valid {disk : Disk} {root : Root} {slot : Slot} {manifest : CatalogManifest}
    (h : readSlot disk root false slot = some manifest) :
    validateManifest root manifest disk.limits false false = .ok () := by
  unfold readSlot at h
  split at h
  · split at h
    · cases h
    · split at h
      · cases h
      · split at h
        · rename_i hvalid
          cases h
          cases hresult : validateManifest root manifest disk.limits false false with
          | ok _ => rfl
          | error error =>
              rw [hresult] at hvalid
              cases hvalid
        · cases h
  · cases h

/-- The identifiers of a valid manifest come in their order. -/
theorem validateSystems_sorted {root : Root} {limits : RegistryLimits}
    {validateArtifacts verifyHashes : Bool} {previousId : Option SystemId}
    {systems : List ManifestSystem}
    (h : validateSystems root limits validateArtifacts verifyHashes previousId systems = .ok ()) :
    (∀ system ∈ systems, ∀ id ∈ previousId, id.value < system.systemId.value) ∧
      systems.Pairwise fun left right => left.systemId.value < right.systemId.value := by
  induction systems generalizing previousId with
  | nil => exact ⟨fun _ h => absurd h List.not_mem_nil, .nil⟩
  | cons system systems ih =>
      obtain ⟨_, hsorted, h⟩ := bind_ok.1 h
      obtain ⟨_, -, h⟩ := bind_ok.1 h
      obtain ⟨hlater, hpairs⟩ := ih h
      have hfirst : ∀ id ∈ previousId, id.value < system.systemId.value := by
        intro id hid
        have hall := require_ok.1 hsorted
        rw [hid, Option.all_some, decide_eq_true_eq] at hall
        exact hall
      refine ⟨fun system' hmem id hid => ?_, List.pairwise_cons.2 ⟨fun system' hmem => ?_, hpairs⟩⟩
      · rcases List.mem_cons.1 hmem with rfl | hmem
        · exact hfirst id hid
        · exact String.lt_trans (hfirst id hid) (hlater system' hmem _ rfl)
      · exact hlater system' hmem _ rfl

/-- In a valid manifest the entry of a system is the only one. -/
theorem entry_of_mem {manifest : CatalogManifest} {system : ManifestSystem}
    (hsorted : manifest.systems.Pairwise fun left right =>
      left.systemId.value < right.systemId.value)
    (h : system ∈ manifest.systems) : manifest.entry system.systemId = some system := by
  unfold CatalogManifest.entry
  generalize manifest.systems = systems at h hsorted
  induction systems with
  | nil => cases h
  | cons first systems ih =>
      obtain ⟨hfirst, hrest⟩ := List.pairwise_cons.1 hsorted
      rcases List.mem_cons.1 h with rfl | h
      · rw [List.find?_cons_of_pos (by simp)]
      · have hne : ¬first.systemId = system.systemId := by
          intro heq
          have hlt := hfirst system h
          rw [heq] at hlt
          exact String.lt_irrefl _ hlt
        rw [List.find?_cons_of_neg (by simpa using hne)]
        exact ih h hrest

/-! ## 2. The next manifest -/

/-- The entry made from a source is the current one, or names it as the one before. -/
def Follows (current : Option CatalogManifest) (source : FastFiveSystem) (entry : ManifestSystem) :
    Prop :=
  ∃ systemId, SystemId.parse source.systemId = some systemId ∧
    ∀ found, (current.bind fun manifest => manifest.entry systemId) = some found →
      entry = found ∨ entry.previous = some found.active

/-- No system whose artifacts the latest manifest has in use is missing from the snapshot. -/
def DropsNothing (disk : Disk) (root : Root) (snapshot : FastFiveSnapshot) : Prop :=
  ∀ slot latest, Latest disk root slot latest → ∀ system ∈ latest.systems,
    system.active.paths ≠ [] →
      ∃ source ∈ snapshot.systems, SystemId.parse source.systemId = some system.systemId

section Preparation

variable {publisher : Publisher} {base : Root} {current : Option CatalogManifest}
  {changed : Option (List String)} {generation : Nat} {source : FastFiveSystem}

theorem manifestSystem_follows {systemId : SystemId} {active : PublishedGeneration}
    {entry : ManifestSystem} (hid : SystemId.parse source.systemId = some systemId)
    (h : manifestSystem publisher current source systemId active = .ok entry) :
    Follows current source entry := by
  unfold manifestSystem at h
  dsimp only at h
  split at h
  · cases h
  · cases h
    refine ⟨systemId, hid, fun found hfound => Or.inr ?_⟩
    dsimp only
    rw [hfound]
    rfl

variable (hbase : Sound publisher.disk base)

include hbase

theorem keeps_stage (system : FastFiveSystem) :
    Keeps publisher.disk base (stage system generation) fun _ => True :=
  keeps_bind (keeps_op hbase fun _ _ _ h => h) fun _ _ => keeps_ofExcept fun _ _ => trivial

theorem keeps_prepareSystem : Keeps publisher.disk base
    (prepareSystem publisher current changed generation source) (Follows current source) := by
  unfold prepareSystem
  cases hid : SystemId.parse source.systemId with
  | none => exact keeps_throw _
  | some systemId =>
      have hfollows : ∀ active entry,
          manifestSystem publisher current source systemId active = .ok entry →
            Follows current source entry := fun _ _ h => manifestSystem_follows hid h
      dsimp only
      by_cases hkeep : (changed.any fun changed => !changed.contains source.systemId) = true
      · rw [if_pos hkeep]
        cases hfound : current.bind fun manifest => manifest.entry systemId with
        | none => exact keeps_throw _
        | some published =>
            refine keeps_pure ⟨systemId, hid, fun found heq => Or.inl ?_⟩
            exact Option.some.inj (hfound.symm.trans heq)
      · rw [if_neg hkeep]
        by_cases hempty : (source.games.isEmpty && source.variants.isEmpty) = true
        · rw [if_pos hempty]
          exact keeps_ofExcept (hfollows _)
        · rw [if_neg hempty]
          refine keeps_bind (keeps_stage hbase source) fun staged _ => ?_
          refine keeps_bind (keeps_mapErr (keeps_publishSystemArtifacts hbase _ _))
            fun active _ => ?_
          refine keeps_bind (keeps_side hbase .removeStaging) fun _ _ => ?_
          exact keeps_ofExcept (hfollows _)

theorem keeps_prepareSystems (sources : List FastFiveSystem) : Keeps publisher.disk base
    (prepareSystems publisher current changed generation sources)
    fun systems => ∀ source ∈ sources, ∃ entry ∈ systems, Follows current source entry := by
  induction sources with
  | nil => exact keeps_pure fun _ h => absurd h List.not_mem_nil
  | cons first sources ih =>
      refine keeps_bind (keeps_prepareSystem hbase) fun entry hentry => ?_
      refine keeps_bind ih fun systems hsystems => keeps_pure fun source hmem => ?_
      rcases List.mem_cons.1 hmem with rfl | hmem
      · exact ⟨entry, List.mem_cons_self, hentry⟩
      · obtain ⟨entry', hmem', hfollows⟩ := hsystems source hmem
        exact ⟨entry', List.mem_cons_of_mem _ hmem', hfollows⟩

theorem keeps_read {ε : Type} : Keeps publisher.disk base
    (perform .read : Publishing ε Root) fun root => Kept publisher.disk base root := by
  refine ⟨fun root hkept => wp_op (hkept.sound hbase) fun answer root' hdoes => ?_⟩
  have hanswer : answer = root ∧ root' = root := hdoes
  obtain ⟨rfl, rfl⟩ := hanswer
  exact ⟨hkept, hkept⟩

end Preparation

/-- What a preparation takes for the current catalogue is the latest manifest, or nothing is
    readable. -/
def IsCurrent (disk : Disk) (base : Root) : Option CatalogManifest → Prop
  | some manifest => ∃ slot, Latest disk base slot manifest
  | none => ∀ slot, readSlot disk base false slot = none

section Selection

variable {publisher : Publisher} {base : Root} {current : Option CatalogManifest}

theorem latest_unique {disk : Disk} {root : Root} {slot slot' : Slot}
    {manifest manifest' : CatalogManifest} (h : Latest disk root slot manifest)
    (h' : Latest disk root slot' manifest') : slot = slot' ∧ manifest = manifest' := by
  have hbest : (slot, manifest) = (slot', manifest') := Option.some.inj (Eq.trans (Eq.symm h) h')
  exact Prod.mk.inj hbest

theorem readSlot_absent {disk : Disk} {root : Root} {slot : Slot} (h : root.slot slot = none) :
    readSlot disk root false slot = none := by
  unfold readSlot
  rw [h]

theorem currentManifest_isCurrent {root : Root} (hkept : Kept publisher.disk base root)
    (h : currentManifest publisher root = .ok current) : IsCurrent publisher.disk base current := by
  unfold currentManifest at h
  split at h
  · rename_i manifest hread
    cases h
    obtain ⟨slot, hlatest⟩ := readLatest_iff.1 hread
    exact ⟨slot, hkept.latest.1 hlatest⟩
  · split at h
    · cases h
    · rename_i habsent
      cases h
      unfold manifestSlotsPresent at habsent
      simp only [Bool.or_eq_true, not_or, Option.not_isSome_iff_eq_none] at habsent
      intro slot
      rw [← hkept.readSlot slot]
      refine readSlot_absent ?_
      cases slot with
      | a => exact habsent.1
      | b => exact habsent.2

/-- The current catalogue, or the one before the first, names what is in use. -/
theorem inUse_retained (hbase : Sound publisher.disk base)
    (hcurrent : IsCurrent publisher.disk base current) {path : List Component}
    (h : InUse publisher.disk base path) : path ∈ retained (current.getD .none) := by
  cases current with
  | some manifest =>
      obtain ⟨slot, hlatest⟩ := hcurrent
      exact hbase.named path h slot manifest hlatest
  | none =>
      obtain ⟨slot, manifest, hread, -⟩ := h
      rw [hcurrent slot] at hread
      cases hread

/-- **Entries that follow the current ones name what those have in use.** -/
theorem follows_retained {sources : List FastFiveSystem} {manifest latest : CatalogManifest}
    {slot : Slot} (hlatest : Latest publisher.disk base slot latest)
    (hkeeps : ∀ system ∈ latest.systems, system.active.paths ≠ [] →
      ∃ source ∈ sources, SystemId.parse source.systemId = some system.systemId)
    (hfollows : ∀ source ∈ sources, ∃ entry ∈ manifest.systems, Follows (some latest) source entry)
    {path : List Component} (hpath : path ∈ latest.activePaths) : path ∈ retained manifest := by
  obtain ⟨system, hsystem, hactive⟩ := List.mem_flatMap.1 hpath
  have hpaths : system.active.paths ≠ [] := by
    intro hnil
    rw [hnil] at hactive
    cases hactive
  obtain ⟨source, hsource, hid⟩ := hkeeps system hsystem hpaths
  obtain ⟨entry, hentry, systemId, hid', hentries⟩ := hfollows source hsource
  have hsame : systemId = system.systemId := Option.some.inj (hid'.symm.trans hid)
  have hvalid := readSlot_valid (latest_iff.1 hlatest).1
  have hsorted := (validateSystems_sorted (validateManifest_systems hvalid)).2
  have hfound : ((some latest).bind fun manifest => manifest.entry systemId) = some system := by
    rw [hsame]
    exact entry_of_mem hsorted hsystem
  refine mem_retained.2 ⟨entry, hentry, system.active, ?_, hactive⟩
  rcases hentries system hfound with rfl | hprevious
  · exact Or.inl rfl
  · exact Or.inr hprevious

/-- **A preparation keeps what is in use, and its manifest names what the latest one has in
    use.** -/
theorem keeps_prepareSnapshotSelection (hbase : Sound publisher.disk base)
    {snapshot : FastFiveSnapshot} (hdrops : DropsNothing publisher.disk base snapshot)
    (changed : Option (List String)) : Keeps publisher.disk base
      (prepareSnapshotSelection publisher snapshot changed)
      fun manifest => ∀ slot latest, Latest publisher.disk base slot latest →
        ∀ path ∈ latest.activePaths, path ∈ retained manifest := by
  unfold prepareSnapshotSelection
  refine keeps_bind (keeps_ofExcept fun _ _ => trivial) fun _ _ => ?_
  refine keeps_bind (keeps_side hbase .cleanupStagingRoot) fun _ _ => ?_
  refine keeps_bind (keeps_side hbase .createRoot) fun _ _ => ?_
  refine keeps_bind (keeps_side hbase .cleanupTemporaryFiles) fun _ _ => ?_
  refine keeps_bind (keeps_read hbase) fun root hroot => ?_
  refine keeps_bind (keeps_ofExcept fun _ h => currentManifest_isCurrent hroot h) ?_
  intro current hcurrent
  by_cases hempty : changed.any List.isEmpty = true
  · rw [if_pos hempty]
    refine keeps_ofExcept fun manifest hmanifest slot latest hlatest path hpath => ?_
    cases current with
    | none => cases hmanifest
    | some manifest' =>
        have hsame : manifest' = manifest := by
          unfold emptySelection at hmanifest
          dsimp only at hmanifest
          cases hall : snapshot.systems.forM fun source =>
              ensure (manifest'.systems.any fun system => system.systemId.value = source.systemId)
                ("active catalog is missing " ++ source.systemId) with
          | ok _ =>
              rw [hall] at hmanifest
              exact Except.ok.inj hmanifest
          | error error =>
              rw [hall] at hmanifest
              cases hmanifest
        obtain ⟨slot', hlatest'⟩ := hcurrent
        obtain ⟨-, rfl⟩ := latest_unique hlatest hlatest'
        rw [← hsame]
        exact activePaths_retained hpath
  · rw [if_neg hempty]
    have hcollect := keeps_collect hbase fun path h => inUse_retained hbase hcurrent h
    refine keeps_bind (keeps_mapErr hcollect) fun _ _ => ?_
    refine keeps_bind (keeps_ofExcept fun _ _ => trivial) fun generation _ => ?_
    refine keeps_bind (keeps_prepareSystems hbase snapshot.systems) fun systems hsystems => ?_
    refine keeps_bind (keeps_side hbase .syncArtifactBatch) fun _ _ => keeps_pure ?_
    intro slot latest hlatest path hpath
    cases current with
    | none =>
        have hread := (latest_iff.1 hlatest).1
        rw [hcurrent slot] at hread
        cases hread
    | some manifest' =>
        obtain ⟨slot', hlatest'⟩ := hcurrent
        obtain ⟨-, rfl⟩ := latest_unique hlatest hlatest'
        refine follows_retained hlatest (hdrops slot latest hlatest)
          (fun source hsource => ?_) hpath
        obtain ⟨entry, hentry, hfollows⟩ := hsystems source hsource
        exact ⟨entry, (List.mem_insertionSort _).2 hentry, hfollows⟩

end Selection

end MisterMagik.Catalog
