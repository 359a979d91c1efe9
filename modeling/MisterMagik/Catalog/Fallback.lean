/-
  File:      MisterMagik/Catalog/Fallback.lean
  Subject:   The manifest to fall back on, over every run of publications and losses of a slot, cut
             short anywhere.

  The collector retains what the newest manifest names, as active or as the generation before. That
  covers the manifest in the other slot as long as every snapshot has the systems whose artifacts
  the manifest it replaces has in use.

  * `sound_publish`, `wp_publishSnapshot` -- a publication that drops no such system goes from sound
    to sound;
  * `fallback_openable` -- so in every state of every run what is in use is there;
  * `dropped_system_lost` -- and what happens to a system that is dropped.
-/
import MisterMagik.Catalog.Protocol
import MisterMagik.Catalog.Selection

namespace MisterMagik.Catalog

open MisterMagik.Base

/-! ## 1. The commitment -/

section Commitment

variable {disk : Disk} {root : Root} {limits : RegistryLimits} {manifest : CatalogManifest}

theorem checkSize_file {path : PathBuf} {maximum bytes : Nat} {message : String}
    (h : checkSize root path maximum bytes message = .ok ()) : path.components ∈ root.files := by
  obtain ⟨size, hsize, -⟩ := bind_ok.1 h
  unfold regularFileSize at hsize
  split at hsize
  · cases hsize
  · rename_i content hfile
    have hsome : (root.files.lookup path.components).isSome = true := by
      unfold Root.file at hfile
      rw [hfile]
      rfl
    exact AList.lookup_isSome.1 hsome

/-- The files that are there once the sizes have been checked. -/
theorem checkFiles_present {g : PublishedGeneration} {verifyHashes : Bool}
    (h : checkFiles root g limits verifyHashes = .ok ())
    (hboth : g.navigationPath.isSome = g.navigationBytes.isSome) :
    ∀ path ∈ g.paths, path.components ∈ root.files := by
  obtain ⟨generation, sqlitePath, navigationPath, sb, navigationBytes, sh, nh, games, navpack⟩ := g
  unfold checkFiles at h
  cases sqlitePath with
  | none => cases h
  | some sqlite =>
      obtain ⟨_, hsqlite, h⟩ := bind_ok.1 h
      have hfile := checkSize_file hsqlite
      have hnavpack : ∀ {x : Except RegistryError Unit} {rest : Unit → Except RegistryError Unit},
          x >>= rest = .ok () → x = .ok () := fun hx => by
        obtain ⟨_, hx, -⟩ := bind_ok.1 hx
        exact hx
      cases navigationPath with
      | none =>
          cases navpack with
          | none =>
              intro path hpath
              obtain rfl := List.mem_singleton.1 hpath
              exact hfile
          | some pack =>
              have hpack := checkSize_file (hnavpack h)
              intro path hpath
              rcases List.mem_cons.1 hpath with rfl | hpath
              · exact hfile
              · obtain rfl := List.mem_singleton.1 hpath
                exact hpack
      | some navigation =>
          cases navigationBytes with
          | none => cases hboth
          | some bytes =>
              obtain ⟨_, hnavigation, h⟩ := bind_ok.1 h
              have hnav := checkSize_file hnavigation
              cases navpack with
              | none =>
                  intro path hpath
                  rcases List.mem_cons.1 hpath with rfl | hpath
                  · exact hfile
                  · obtain rfl := List.mem_singleton.1 hpath
                    exact hnav
              | some pack =>
                  have hpack := checkSize_file (hnavpack h)
                  intro path hpath
                  rcases List.mem_cons.1 hpath with rfl | hpath
                  · exact hfile
                  · rcases List.mem_cons.1 hpath with rfl | hpath
                    · exact hnav
                    · obtain rfl := List.mem_singleton.1 hpath
                      exact hpack

/-- A generation validated with its artifacts has its files. -/
theorem validateGeneration_files {systemId : SystemId} {g : PublishedGeneration}
    {verifyHashes : Bool}
    (h : validateGeneration root systemId g limits true verifyHashes = .ok ()) :
    ∀ path ∈ g.paths.map PathBuf.components, path ∈ root.files := by
  unfold validateGeneration at h
  split at h
  · rename_i hless
    simp only [PublishedGeneration.isArtifactless, Bool.and_eq_true, Option.isNone_iff_eq_none]
      at hless
    obtain ⟨⟨⟨⟨⟨⟨hs, hn⟩, -⟩, -⟩, -⟩, -⟩, hp⟩ := hless
    unfold PublishedGeneration.paths
    rw [hs, hn, hp]
    exact fun path hpath => absurd hpath List.not_mem_nil
  · obtain ⟨_, hcanonical, h⟩ := bind_ok.1 h
    obtain ⟨_, -, h⟩ := bind_ok.1 h
    rw [if_pos rfl] at h
    have hpaths := require_ok.1 hcanonical
    simp only [canonicalPaths, Bool.and_eq_true, beq_iff_eq] at hpaths
    intro path hpath
    obtain ⟨artifact, hartifact, rfl⟩ := List.mem_map.1 hpath
    exact checkFiles_present h hpaths.1.1.2 artifact hartifact

/-- **What a manifest validated with its artifacts has in use is there.** -/
theorem validateManifest_files
    (h : validateManifest root manifest limits true false = .ok ()) :
    ∀ path ∈ manifest.activePaths, path ∈ root.files := by
  intro path hpath
  obtain ⟨system, hsystem, hactive⟩ := List.mem_flatMap.1 hpath
  have hvalid := validateSystems_mem (validateManifest_systems h) system hsystem
  exact validateGeneration_files (validateSystem_ok hvalid).1 path hactive

theorem exists_latest {slot : Slot} (h : readSlot disk root false slot = some manifest) :
    ∃ slot' latest, Latest disk root slot' latest := by
  have hmem := mem_readManifestSlots h
  unfold Latest
  cases hslots : readManifestSlots disk root false with
  | nil =>
      rw [hslots] at hmem
      cases hmem
  | cons first rest => exact ⟨_, _, rfl⟩

/-- **A publication of a manifest that names what the latest has in use leaves the storage
    sound.** -/
theorem sound_publish (hsound : Sound disk root)
    (hnames : ∀ slot latest, Latest disk root slot latest →
      ∀ path ∈ latest.activePaths, path ∈ retained manifest) (conduct : WriteConduct) :
    Sound disk (publishManifestWithTrustedArtifacts disk root manifest conduct).1 ∧
      ∀ target, (publishManifestWithTrustedArtifacts disk root manifest conduct).2 = .ok target →
        ∃ slot, Latest disk (publishManifestWithTrustedArtifacts disk root manifest conduct).1 slot
          manifest := by
  rcases publish_cases disk root manifest conduct with herror | hwrote
  · obtain ⟨error, herror⟩ := herror
    rw [herror]
    refine ⟨hsound, fun target h => ?_⟩
    cases h
  · obtain ⟨target, hwrites, hcall⟩ := hwrote
    rw [hcall]
    have hlatest := hwrites.latest
    refine ⟨?_, fun _ _ => ⟨target, hlatest⟩⟩
    have hread := (latest_iff.1 hlatest).1
    -- in the slot written: the manifest; in the other: what was the latest
    have huse : ∀ path, InUse disk (root.setSlot target (some (.stored manifest.toStored))) path →
        path ∈ root.files ∧ path ∈ retained manifest := by
      intro path hpath
      obtain ⟨slot, m, hm, hactive⟩ := hpath
      by_cases hslot : slot = target
      · subst hslot
        rw [hread] at hm
        cases hm
        exact ⟨validateManifest_files hwrites.valid path hactive, activePaths_retained hactive⟩
      · have hsame := readSlot_congr disk (slot_setSlot_ne root hslot
          (some (.stored manifest.toStored)))
        rw [hsame] at hm
        obtain ⟨slot', latest, hold⟩ := exists_latest hm
        have hother := eq_other (hwrites.spares slot' latest hold)
        have hslots : slot' = slot := hother.trans (eq_other hslot).symm
        subst hslots
        have hm' := (latest_iff.1 hold).1
        rw [hm] at hm'
        cases hm'
        exact ⟨hsound.present path ⟨slot', m, hm, hactive⟩, hnames slot' m hold path hactive⟩
    refine ⟨fun path hpath => ?_, fun path hpath slot latest h => ?_⟩
    · rw [setSlot_files]
      exact (huse path hpath).1
    · obtain ⟨-, rfl⟩ := latest_unique hlatest h
      exact (huse path hpath).2

theorem wp_mapErr {ε ε' α : Type} {g : ε → ε'} {call : Publishing ε α}
    {Q : α → Unit → Root → Prop} {E : ε' → Unit → Root → Prop}
    (h : Call.wp (storage disk) call Q (fun error s root' => E (g error) s root') () root) :
    Call.wp (storage disk) (mapErr g call) Q E () root := by
  refine Call.wp_bind (Call.wp_attempt (Call.wp_mono h ?_ ?_))
  · exact fun a _ root' ha => Call.wp_ofExcept (fun a' heq => by cases heq; exact ha)
      fun error heq => by cases heq
  · exact fun error _ root' he => Call.wp_ofExcept (fun a heq => by cases heq)
      fun error' heq => by cases heq; exact he

/-- The commitment of a manifest that names what the latest has in use. -/
theorem wp_commitPreparedSnapshot {base : Root} (hbase : Sound disk base)
    (hkept : Kept disk base root)
    (hnames : ∀ slot latest, Latest disk base slot latest →
      ∀ path ∈ latest.activePaths, path ∈ retained manifest) :
    Call.wp (storage disk) (commitPreparedSnapshot manifest) (fun _ _ root' => Sound disk root')
      (fun _ _ root' => Sound disk root') () root := by
  have hsound := hkept.sound hbase
  unfold commitPreparedSnapshot
  refine Call.wp_bind (Call.wp_ofExcept (fun _ _ => ?_) fun _ _ => hsound)
  have hside := (keeps_side hbase .readRefreshManifest).wp root hkept
  refine Call.wp_bind (Call.wp_mono hside ?_ fun _ _ _ h => h.sound hbase)
  intro _ _ root₁ h₁
  obtain ⟨hkept₁, -⟩ := h₁
  have hsound₁ := hkept₁.sound hbase
  have hnames₁ : ∀ slot latest, Latest disk root₁ slot latest →
      ∀ path ∈ latest.activePaths, path ∈ retained manifest :=
    fun slot latest h => hnames slot latest (hkept₁.latest.1 h)
  refine Call.wp_bind (wp_mapErr (Call.wp_bind (wp_op hsound₁ fun answer root₂ hdoes => ?_)))
  obtain ⟨conduct, hcall⟩ := hdoes
  obtain ⟨rfl, rfl⟩ := Prod.mk.inj hcall
  obtain ⟨hsound₂, hlatest₂⟩ := sound_publish hsound₁ hnames₁ conduct
  refine Call.wp_ofExcept (fun target htarget => ?_) fun _ _ => hsound₂
  obtain ⟨slot, hlatest⟩ := hlatest₂ target htarget
  have hcollect := keeps_collect hsound₂ fun path h => hsound₂.named path h slot manifest hlatest
  have hrest := (keeps_attempt String hcollect).wp _ (Kept.refl hsound₂)
  refine Call.wp_bind (Call.wp_mono hrest ?_ fun _ _ _ h => h.sound hsound₂)
  intro _ _ root₃ h₃
  exact Call.wp_pure.2 (h₃.1.sound hsound₂)

end Commitment

/-- **A publication that drops no system in use goes from sound to sound, over sound storage
    only.** -/
theorem wp_publishSnapshot {publisher : Publisher} {root : Root} {snapshot : FastFiveSnapshot}
    (hsound : Sound publisher.disk root) (hdrops : DropsNothing publisher.disk root snapshot)
    (changed : Option (List String)) :
    Call.wp (storage publisher.disk) (publishSnapshot publisher snapshot changed)
      (fun _ _ root' => Sound publisher.disk root') (fun _ _ root' => Sound publisher.disk root')
      () root := by
  unfold publishSnapshot
  have hprepare := (keeps_prepareSnapshotSelection hsound hdrops changed).wp root (.refl hsound)
  refine Call.wp_bind (Call.wp_mono hprepare ?_ fun _ _ _ h => h.sound hsound)
  intro manifest _ root₁ h₁
  obtain ⟨hkept₁, hnames⟩ := h₁
  have hbind : Keeps publisher.disk root (bindRefreshState manifest) fun _ => True :=
    keeps_bind (keeps_op hsound fun _ _ _ h => h) fun _ _ => keeps_ofExcept fun _ _ => trivial
  refine Call.wp_bind (Call.wp_mono (hbind.wp root₁ hkept₁) ?_ fun _ _ _ h => h.sound hsound)
  intro refreshState _ root₂ h₂
  exact wp_commitPreparedSnapshot hsound h₂.1 hnames

/-! ## 2. Runs -/

/-- What runs, and the storage: a publication under way, or none. -/
abbrev CatalogState : Type := Prog StorageOp.Answer (Except String Unit × Unit) × Root

/-- No publication is under way. -/
def idle : Prog StorageOp.Answer (Except String Unit × Unit) := .ret (.ok (), ())

inductive CatalogAction where
  /-- The next operation of the publication. -/
  | advance
  | publish (snapshot : FastFiveSnapshot) (changed : Option (List String))
  /-- The publication ends wherever it is: the power goes. -/
  | cut
  /-- A slot comes to hold what is not read as a manifest, or nothing. -/
  | lose (slot : Slot) (file : Option SlotFile)

/-- The catalogue: publications one after the other, from a root without a manifest. -/
def catalog (publisher : Publisher) : Machine CatalogState CatalogAction where
  init state := state.1 = idle ∧ ∀ slot, state.2.slot slot = none
  step state action state' :=
    match action with
    | .advance => Prog.Step (storage publisher.disk) state state'
    | .publish snapshot changed =>
        (∃ result, state.1 = .ret result) ∧
          state' = (publishSnapshot publisher snapshot changed (), state.2)
    | .cut => state' = (idle, state.2)
    | .lose slot file =>
        (∃ result, state.1 = .ret result) ∧ state' = (state.1, state.2.setSlot slot file) ∧
          readSlot publisher.disk state'.2 false slot = none

/-- The condition on a step: a publication drops no system whose artifacts the catalogue it replaces
    has in use. -/
def Keeping (publisher : Publisher) (state : CatalogState) : CatalogAction → Prop
  | .publish snapshot _ => DropsNothing publisher.disk state.2 snapshot
  | _ => True

/-- The storage is sound, and stays so wherever the publication under way comes to. -/
def Safe (disk : Disk) (state : CatalogState) : Prop :=
  state.1.wp (storage disk) (fun _ root => Sound disk root) state.2

theorem Safe.sound {disk : Disk} {state : CatalogState} (h : Safe disk state) :
    Sound disk state.2 := by
  obtain ⟨program, root⟩ := state
  cases program with
  | ret result => exact h
  | op o k => exact Prog.wp_allowed h

theorem sound_of_absent {disk : Disk} {root : Root} (h : ∀ slot, root.slot slot = none) :
    Sound disk root := by
  have hnone : ∀ path, ¬InUse disk root path := by
    intro path huse
    obtain ⟨slot, manifest, hread, -⟩ := huse
    rw [readSlot_absent (h slot)] at hread
    cases hread
  exact ⟨fun path huse => absurd huse (hnone path), fun path huse => absurd huse (hnone path)⟩

/-- With a slot lost, the other one's manifest is the latest, and all that is in use is its. -/
theorem Sound.lose {disk : Disk} {root : Root} (h : Sound disk root) {slot : Slot}
    {file : Option SlotFile} (hlost : readSlot disk (root.setSlot slot file) false slot = none) :
    Sound disk (root.setSlot slot file) := by
  have huse : ∀ path, InUse disk (root.setSlot slot file) path →
      ∃ manifest, Latest disk (root.setSlot slot file) slot.other manifest ∧
        readSlot disk root false slot.other = some manifest ∧ path ∈ manifest.activePaths := by
    intro path hpath
    obtain ⟨slot', manifest, hread, hactive⟩ := hpath
    have hne : slot' ≠ slot := by
      intro heq
      rw [heq, hlost] at hread
      cases hread
    have hsame := readSlot_congr disk (slot_setSlot_ne root hne file)
    rw [hsame] at hread
    have hlatest := latest_of_lost hne hread hlost
    rw [eq_other hne] at hread hlatest
    exact ⟨manifest, hlatest, hread, hactive⟩
  refine ⟨fun path hpath => ?_, fun path hpath slot' latest hlatest => ?_⟩
  · obtain ⟨manifest, -, hread, hactive⟩ := huse path hpath
    rw [setSlot_files]
    exact h.present path ⟨slot.other, manifest, hread, hactive⟩
  · obtain ⟨manifest, hlatest', -, hactive⟩ := huse path hpath
    obtain ⟨-, rfl⟩ := latest_unique hlatest hlatest'
    exact activePaths_retained hactive

theorem Safe.step {publisher : Publisher} {state state' : CatalogState} {action : CatalogAction}
    (h : Safe publisher.disk state) (hkeeping : Keeping publisher state action)
    (hs : (catalog publisher).step state action state') : Safe publisher.disk state' := by
  cases action with
  | advance => exact Prog.wp_step (fun _ => storage_stable _) h hs
  | publish snapshot changed =>
      obtain ⟨-, rfl⟩ := hs
      have hpublish := wp_publishSnapshot h.sound hkeeping changed
      exact Prog.wp_mono hpublish fun result root hr => match result, hr with
        | (.ok _, _), hr => hr
        | (.error _, _), hr => hr
  | cut =>
      have hstate : state' = (idle, state.2) := hs
      rw [hstate]
      exact h.sound
  | lose slot file =>
      obtain ⟨⟨result, hidle⟩, rfl, hlost⟩ := hs
      have hsound := h.sound.lose hlost
      unfold Safe
      dsimp only
      rw [hidle]
      exact hsound

/-- **The fallback can be opened**: in every state of every run whose publications drop no system in
    use, every artifact that either readable manifest has in use is there; so when the slot of the
    latest manifest is lost, what is read is the other one, with all its artifacts. -/
theorem fallback_openable {publisher : Publisher} {start state : CatalogState}
    {actions : List CatalogAction} (hstart : (catalog publisher).init start)
    (hrun : ((catalog publisher).guard (Keeping publisher)).Run start actions state) :
    (∀ slot manifest, readSlot publisher.disk state.2 false slot = some manifest →
      ∀ path ∈ manifest.activePaths, (state.2.files.lookup path).isSome) ∧
    ∀ slot latest fallback file, Latest publisher.disk state.2 slot latest →
      readSlot publisher.disk state.2 false slot.other = some fallback →
      readSlot publisher.disk (state.2.setSlot slot file) false slot = none →
      readLatestManifestLazy publisher.disk (state.2.setSlot slot file) = .ok fallback ∧
        ∀ path ∈ fallback.activePaths,
          ((state.2.setSlot slot file).files.lookup path).isSome := by
  have hsafe : Safe publisher.disk state := by
    refine hrun.invariant (fun s action s' h hs => ?_) ?_
    · exact h.step hs.1 hs.2
    · obtain ⟨program, root⟩ := start
      obtain ⟨hidle, habsent⟩ := hstart
      have hprogram : program = idle := hidle
      rw [hprogram]
      exact sound_of_absent habsent
  have hpresent := hsafe.sound.present
  refine ⟨fun slot manifest hread path hpath => ?_, ?_⟩
  · exact AList.lookup_isSome.2 (hpresent path ⟨slot, manifest, hread, hpath⟩)
  · intro slot latest fallback file _ hread hlost
    have hlatest := latest_of_lost (other_ne slot) hread hlost
    refine ⟨readLatest_iff.2 ⟨slot.other, hlatest⟩, fun path hpath => ?_⟩
    rw [setSlot_files]
    exact AList.lookup_isSome.2 (hpresent path ⟨slot.other, fallback, hread, hpath⟩)

/-! ### Two publications -/

/-- Storage on which everything goes well. -/
def smooth (disk : Disk) : (op : StorageOp) → Root → op.Answer × Root
  | .side _, root => (.ok (), root)
  | .read, root => (root, root)
  | .stage _ _, root => (.ok ⟨[1], none, [2], true⟩, root)
  | .bindRefreshState _, root =>
      (.ok ⟨⟨"state/commits/1.bin"⟩, String.ofList (List.replicate 64 '0')⟩, root)
  | .put path bytes, root => (.ok (), root.put path bytes)
  | .remove path, root => ((), root.remove path)
  | .publish manifest, root =>
      let result := publishManifestWithTrustedArtifacts disk root manifest ⟨none, .ok ()⟩
      (result.2, result.1)
  | .collect manifest, root =>
      let result := garbageCollectUnreferenced root manifest ⟨root.files.keys, none⟩
      (result.2, result.1)

theorem smooth_does (disk : Disk) (op : StorageOp) (root : Root) :
    op.Does disk root (smooth disk op root).1 (smooth disk op root).2 := by
  cases op with
  | read => exact ⟨rfl, rfl⟩
  | remove path => exact Or.inl rfl
  | publish manifest => exact ⟨⟨none, .ok ()⟩, rfl⟩
  | collect manifest => exact ⟨⟨root.files.keys, none⟩, rfl, fun _ _ h => h⟩
  | _ => rfl

/-- The storage after a publication that goes well. -/
def publishedOn (publisher : Publisher) (snapshot : FastFiveSnapshot) (root : Root) : Root :=
  ((publishSnapshot publisher snapshot none ()).play (smooth publisher.disk) root).2

/-- A publication that goes well is a run. -/
theorem publication_runs (publisher : Publisher) {C : CatalogState → CatalogAction → Prop}
    (hadvance : ∀ state, C state .advance) {state : CatalogState}
    (hret : ∃ result, state.1 = .ret result) (snapshot : FastFiveSnapshot)
    (hpublish : C state (.publish snapshot none)) :
    ∃ actions state', ((catalog publisher).guard C).Run state actions state' ∧
      (∃ result, state'.1 = .ret result) ∧ state'.2 = publishedOn publisher snapshot state.2 := by
  have hsteps := Prog.play_steps (S := storage publisher.disk) (smooth_does publisher.disk)
    (publishSnapshot publisher snapshot none ()) state.2
  have hrest : ∀ c, Relation.ReflTransGen (Prog.Step (storage publisher.disk))
      (publishSnapshot publisher snapshot none (), state.2) c →
        ∃ actions, ((catalog publisher).guard C).Run state actions c := by
    intro c hc
    induction hc with
    | refl => exact ⟨_, .one ⟨hpublish, hret, rfl⟩⟩
    | tail _ hs ih =>
        obtain ⟨actions, hrun⟩ := ih
        exact ⟨_, hrun.snoc ⟨hadvance _, hs⟩⟩
  obtain ⟨actions, hrun⟩ := hrest _ hsteps
  exact ⟨actions, _, hrun, ⟨_, rfl⟩, rfl⟩

def plainPublisher : Publisher := ⟨plainDisk, fun _ => none⟩

/-- Systems of one game each. -/
def snapshotOf (systemIds : List String) : FastFiveSnapshot where
  schema := FAST_FIVE_SNAPSHOT_SCHEMA
  sourceFingerprint := String.ofList (List.replicate 64 '0')
  systems := systemIds.map fun systemId => ⟨systemId, systemId,
    [⟨systemId ++ "\x1fgame", "Game", "game", "", "", false, none, "", "", none, "", false, none⟩],
    []⟩

def freshRoot : Root := ⟨none, none, ∅⟩

/-- The root after a publication of two systems. -/
def twoSystems : Root := publishedOn plainPublisher (snapshotOf ["snes", "gamegear"]) freshRoot

/-- The artifacts a readable slot has in use. -/
def activeIn (root : Root) (slot : Slot) : List (List Component) :=
  ((readSlot plainDisk root false slot).map CatalogManifest.activePaths).getD []

theorem first_publication {C : CatalogState → CatalogAction → Prop}
    (hadvance : ∀ state, C state .advance) (snapshot : FastFiveSnapshot)
    (hpublish : C (idle, freshRoot) (.publish snapshot none)) :
    ∃ actions state, ((catalog plainPublisher).guard C).Run (idle, freshRoot) actions state ∧
      (∃ result, state.1 = .ret result) ∧
        state.2 = publishedOn plainPublisher snapshot freshRoot :=
  publication_runs plainPublisher hadvance ⟨_, rfl⟩ snapshot hpublish

theorem freshRoot_init : (catalog plainPublisher).init (idle, freshRoot) :=
  ⟨rfl, fun slot => by cases slot <;> rfl⟩

theorem freshRoot_keeping (snapshot : FastFiveSnapshot) :
    Keeping plainPublisher (idle, freshRoot) (.publish snapshot none) := by
  intro slot latest hlatest
  have hread : readSlot plainPublisher.disk freshRoot false slot = some latest :=
    (latest_iff.1 hlatest).1
  rw [readSlot_absent (by cases slot <;> rfl)] at hread
  cases hread

/-- The root after the same systems are published again. -/
def twoSystemsAgain : Root :=
  publishedOn plainPublisher (snapshotOf ["snes", "gamegear"]) twoSystems

theorem twoSystems_named :
    DropsNothing plainDisk twoSystems (snapshotOf ["snes", "gamegear"]) := by
  have h : ((maxByGeneration (readManifestSlots plainDisk twoSystems false)).all fun latest =>
      latest.2.systems.all fun system => decide (∃ source ∈
        (snapshotOf ["snes", "gamegear"]).systems,
          SystemId.parse source.systemId = some system.systemId)) = true := by
    decide +kernel
  intro slot latest hlatest system hsystem _
  rw [show maxByGeneration _ = some (slot, latest) from hlatest] at h
  exact of_decide_eq_true (List.all_eq_true.1 h system hsystem)

/-- The generations of the slots, and how many artifacts they have in use. -/
theorem twoSystemsAgain_slots :
    [Slot.a, .b].map (fun slot =>
      (readSlot plainDisk twoSystemsAgain false slot).map fun manifest =>
        (manifest.generation, manifest.activePaths.length)) = [some (1, 4), some (2, 4)] := by
  decide +kernel

/-- Two systems are published twice; then the newer slot is lost. Both manifests have four artifacts
    in use, all there, and the older one is read in the end. -/
theorem fallback_openable_slot_lost : ∃ latest fallback : CatalogManifest,
    latest.activePaths.length = 4 ∧ fallback.activePaths.length = 4 ∧
      readLatestManifestLazy plainDisk twoSystemsAgain = .ok latest ∧
      (∀ path ∈ latest.activePaths, (twoSystemsAgain.files.lookup path).isSome) ∧
      readLatestManifestLazy plainDisk (twoSystemsAgain.setSlot .b none) = .ok fallback ∧
      ∀ path ∈ fallback.activePaths,
        ((twoSystemsAgain.setSlot .b none).files.lookup path).isSome := by
  obtain ⟨actions, first, hrun, hret, hfirst⟩ := first_publication (C := Keeping plainPublisher)
    (fun _ => trivial) _ (freshRoot_keeping (snapshotOf ["snes", "gamegear"]))
  have hagain : Keeping plainPublisher first (.publish (snapshotOf ["snes", "gamegear"]) none) := by
    have hroot : first.2 = twoSystems := hfirst
    unfold Keeping
    rw [hroot]
    exact twoSystems_named
  obtain ⟨actions', second, hrun', -, hsecond⟩ := publication_runs plainPublisher
    (fun _ => trivial) hret _ hagain
  have hroot : second.2 = twoSystemsAgain := hsecond.trans (congrArg _ hfirst)
  obtain ⟨hopen, hfallback⟩ := fallback_openable freshRoot_init (hrun.append hrun')
  rw [hroot] at hopen hfallback
  have hslots := twoSystemsAgain_slots
  simp only [List.map_cons, List.map_nil, List.cons.injEq, and_true, Option.map_eq_some_iff,
    Prod.mk.injEq] at hslots
  obtain ⟨⟨fallback, ha, hold, hfour⟩, latest, hb, hnew, hfour'⟩ := hslots
  have hlatest : Latest plainDisk twoSystemsAgain .b latest := by
    refine latest_iff.2 ⟨hb, fun m hm => .inl ?_⟩
    obtain rfl := Option.some.inj (ha.symm.trans hm)
    omega
  have hlost : readSlot plainDisk (twoSystemsAgain.setSlot .b none) false .b = none :=
    readSlot_absent rfl
  obtain ⟨hread, hthere⟩ := hfallback .b latest fallback none hlatest ha hlost
  exact ⟨latest, fallback, hfour', hfour, readLatest_iff.2 ⟨.b, hlatest⟩, hopen .b latest hb, hread,
    hthere⟩

/-- The second publication leaves a system out: its artifacts go, and the first slot, still
    readable, has them in use. -/
theorem dropped_system_lost : ∃ start actions state, (catalog plainPublisher).init start ∧
    (catalog plainPublisher).Run start actions state ∧
      ∃ slot manifest path, readSlot plainDisk state.2 false slot = some manifest ∧
        path ∈ manifest.activePaths ∧ state.2.files.lookup path = none := by
  obtain ⟨actions, first, hrun, hret, hfirst⟩ := first_publication (C := fun _ _ => True)
    (fun _ => trivial) (snapshotOf ["snes", "gamegear"]) trivial
  obtain ⟨actions', second, hrun', -, hsecond⟩ := publication_runs plainPublisher
    (C := fun _ _ => True) (fun _ => trivial) hret (snapshotOf ["snes"]) trivial
  have hroot : second.2 = publishedOn plainPublisher (snapshotOf ["snes"]) twoSystems :=
    hsecond.trans (congrArg _ hfirst)
  have hlost :
      (activeIn second.2 .a).any (fun path => second.2.files.lookup path = none) = true := by
    rw [hroot]
    decide +kernel
  obtain ⟨path, hpath, hgone⟩ := List.any_eq_true.1 hlost
  refine ⟨_, _, second, freshRoot_init, (hrun.append hrun').unguard, ?_⟩
  unfold activeIn at hpath
  cases hread : readSlot plainDisk second.2 false .a with
  | none =>
      rw [hread] at hpath
      cases hpath
  | some manifest =>
      rw [hread] at hpath
      exact ⟨.a, manifest, path, hread, hpath, of_decide_eq_true hgone⟩

end MisterMagik.Catalog
