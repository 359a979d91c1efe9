/-
  File:      MisterMagik/Catalog/Protocol.lean
  Subject:   The publication protocol, over every run of publications, refresh-state replacements
             and losses of the slot that does not hold the latest manifest.

  Calls may fail anywhere before their rename, and the directory's sync may fail after it. A slot
  that is lost holds whatever is not read as a manifest. Artifacts come and go as they like.

  * `registry` -- the machine of the root;
  * `protocol_holds` -- what a call does, from any root;
  * `publication_protocol` -- the protocol in every state of every run, and that no run loses the
    catalogue it began with.
-/
import MisterMagik.Base.Machine
import MisterMagik.Catalog.Slots

namespace MisterMagik.Catalog

open MisterMagik.Base

variable {disk : Disk}

/-! ## 1. One call -/

section Call

variable {root root' : Root} {manifest : CatalogManifest} {conduct : WriteConduct}

/-- After a publication that wrote, its manifest is the latest. -/
theorem Writes.latest {target : Slot} (h : Writes disk root manifest target) :
    Latest disk (root.setSlot target (some (.stored manifest.toStored))) target manifest := by
  have hread := readSlot_write h.valid h.size (slot_setSlot root target
    (some (.stored manifest.toStored)))
  refine latest_of_newer hread fun m hm => ?_
  have hother := readSlot_congr disk (slot_setSlot_ne root (other_ne target)
    (some (.stored manifest.toStored)))
  rw [hother] at hm
  exact h.newer target.other m hm

/-- What the other slot holds is what is read when one slot is lost. -/
theorem latest_of_lost {slot target : Slot} {file : Option SlotFile} (hne : slot ≠ target)
    (hread : readSlot disk root false slot = some manifest)
    (hlost : readSlot disk (root.setSlot target file) false target = none) :
    Latest disk (root.setSlot target file) slot manifest := by
  have hsame := readSlot_congr disk (slot_setSlot_ne root hne file)
  refine latest_of_alone (hsame.trans hread) ?_
  have hother : slot.other = target := (eq_other hne.symm).symm
  rw [hother]
  exact hlost

/-- After a replacement that wrote, its manifest is the latest, in the same slot. -/
theorem latest_of_replaced {slot : Slot} {current : CatalogManifest}
    (hlatest : Latest disk root slot current)
    (hsame : ({ current with refreshState := manifest.refreshState } == manifest) = true)
    (hvalid : validateManifest root manifest disk.limits false false = .ok ())
    (hsize : ¬disk.jsonSize manifest.toStored > disk.limits.maxManifestBytes) :
    Latest disk (root.setSlot slot (some (.stored manifest.toStored))) slot manifest := by
  have hread := readSlot_write hvalid hsize (slot_setSlot root slot
    (some (.stored manifest.toStored)))
  have hother := readSlot_congr disk (slot_setSlot_ne root (other_ne slot)
    (some (.stored manifest.toStored)))
  have hgen := same_generation hsame
  obtain ⟨-, hnewest⟩ := latest_iff.1 hlatest
  refine latest_iff.2 ⟨hread, fun m hm => ?_⟩
  rw [hother] at hm
  rw [← hgen]
  exact hnewest m hm

end Call

/-! ## 2. The protocol -/

/-- What holds of the calls on a root. -/
structure Protocol (disk : Disk) (root : Root) : Prop where
  /-- A publication that succeeds is what is read from then on, and is newer than all there was. -/
  published : ∀ manifest conduct root' target,
    publishManifestWithTrustedArtifacts disk root manifest conduct = (root', .ok target) →
    readLatestManifestLazy disk root' = .ok manifest ∧
      ∀ slot old, readSlot disk root false slot = some old →
        old.generation < manifest.generation
  /-- No publication writes the slot of the latest manifest. -/
  spared : ∀ manifest conduct root' result slot old,
    publishManifestWithTrustedArtifacts disk root manifest conduct = (root', result) →
    Latest disk root slot old →
    root'.slot slot = root.slot slot ∧ readSlot disk root' false slot = some old
  /-- When the slot it did write is lost, that manifest is read again. -/
  fallback : ∀ manifest conduct root' target slot old,
    publishManifestWithTrustedArtifacts disk root manifest conduct = (root', .ok target) →
    Latest disk root slot old → slot ≠ target ∧
      ∀ file, readSlot disk (root'.setSlot target file) false target = none →
        readLatestManifestLazy disk (root'.setSlot target file) = .ok old
  /-- A call that fails before its rename leaves everything as it was. -/
  failedPublish : ∀ manifest conduct root' error, conduct.sync = .ok () →
    publishManifestWithTrustedArtifacts disk root manifest conduct = (root', .error error) →
    root' = root
  failedReplace : ∀ manifest conduct root' error, conduct.sync = .ok () →
    replaceRefreshState disk root manifest conduct = (root', .error error) → root' = root
  /-- A replacement that succeeds changes the refresh state of the latest manifest, and nothing
      else. -/
  replaced : ∀ manifest conduct root',
    replaceRefreshState disk root manifest conduct = (root', .ok ()) →
    ∃ slot current, Latest disk root slot current ∧ Latest disk root' slot manifest ∧
      ({ current with refreshState := manifest.refreshState } == manifest) = true ∧
      root'.slot slot.other = root.slot slot.other ∧ root'.files = root.files

theorem setSlot_files (root : Root) (slot : Slot) (file : Option SlotFile) :
    (root.setSlot slot file).files = root.files := by
  cases slot <;> rfl

theorem setSlot_setSlot (root : Root) (slot : Slot) (file file' : Option SlotFile) :
    (root.setSlot slot file).setSlot slot file' = root.setSlot slot file' := by
  cases slot <;> rfl

/-- **The protocol holds of the calls on any root.** -/
theorem protocol_holds (root : Root) : Protocol disk root where
  published manifest conduct root' target h := by
    rcases publish_cases disk root manifest conduct with herror | hwrote
    · obtain ⟨error, herror⟩ := herror
      rw [herror] at h
      cases h
    · obtain ⟨slot, hwrites, hcall⟩ := hwrote
      rw [hcall] at h
      obtain ⟨rfl, -⟩ := Prod.mk.inj h
      exact ⟨readLatest_iff.2 ⟨slot, hwrites.latest⟩, hwrites.newer⟩
  spared manifest conduct root' result slot old h hlatest := by
    have hread := (latest_iff.1 hlatest).1
    rcases publish_cases disk root manifest conduct with herror | hwrote
    · obtain ⟨error, herror⟩ := herror
      rw [herror] at h
      obtain ⟨rfl, -⟩ := Prod.mk.inj h
      exact ⟨rfl, hread⟩
    · obtain ⟨target, hwrites, hcall⟩ := hwrote
      rw [hcall] at h
      obtain ⟨rfl, -⟩ := Prod.mk.inj h
      have hfile := slot_setSlot_ne root (hwrites.spares slot old hlatest)
        (some (.stored manifest.toStored))
      exact ⟨hfile, (readSlot_congr disk hfile).trans hread⟩
  fallback manifest conduct root' target slot old h hlatest := by
    have hread := (latest_iff.1 hlatest).1
    rcases publish_cases disk root manifest conduct with herror | hwrote
    · obtain ⟨error, herror⟩ := herror
      rw [herror] at h
      cases h
    · obtain ⟨written, hwrites, hcall⟩ := hwrote
      rw [hcall] at h
      obtain ⟨rfl, hresult⟩ := Prod.mk.inj h
      have htarget : written = target := by
        cases hsync : conduct.sync with
        | error error =>
            rw [hsync] at hresult
            cases hresult
        | ok _ =>
            rw [hsync] at hresult
            exact Except.ok.inj hresult
      subst htarget
      have hne := hwrites.spares slot old hlatest
      refine ⟨hne, fun file hlost => ?_⟩
      rw [setSlot_setSlot] at hlost ⊢
      exact readLatest_iff.2 ⟨slot, latest_of_lost hne hread hlost⟩
  failedPublish manifest conduct root' error hsync h := by
    rcases publish_cases disk root manifest conduct with herror | hwrote
    · obtain ⟨error', herror⟩ := herror
      rw [herror] at h
      exact (Prod.mk.inj h).1.symm
    · obtain ⟨target, -, hcall⟩ := hwrote
      rw [hcall, hsync] at h
      cases (Prod.mk.inj h).2
  failedReplace manifest conduct root' error hsync h := by
    rcases replace_cases disk root manifest conduct with herror | hwrote
    · obtain ⟨error', herror⟩ := herror
      rw [herror] at h
      exact (Prod.mk.inj h).1.symm
    · obtain ⟨slot, current, -, -, -, -, hcall⟩ := hwrote
      rw [hcall, hsync] at h
      cases (Prod.mk.inj h).2
  replaced manifest conduct root' h := by
    rcases replace_cases disk root manifest conduct with herror | hwrote
    · obtain ⟨error, herror⟩ := herror
      rw [herror] at h
      cases h
    · obtain ⟨slot, current, hlatest, hsame, hvalid, hsize, hcall⟩ := hwrote
      rw [hcall] at h
      obtain ⟨rfl, -⟩ := Prod.mk.inj h
      exact ⟨slot, current, hlatest, latest_of_replaced hlatest hsame hvalid hsize, hsame,
        slot_setSlot_ne root (other_ne slot) _, setSlot_files root slot _⟩

/-! ## 3. Runs -/

inductive RegistryAction where
  | publish (manifest : CatalogManifest) (conduct : WriteConduct)
  | replaceRefreshState (manifest : CatalogManifest) (conduct : WriteConduct)
  /-- A slot comes to hold what is not read as a manifest, or nothing. -/
  | lose (slot : Slot) (file : Option SlotFile)
  /-- Artifacts are written and removed. -/
  | artifacts (files : Table (List Component) (List UInt8))

/-- The root, with the slot that does not hold the latest manifest at the mercy of its storage. -/
def registry (disk : Disk) : Machine Root RegistryAction where
  init _ := True
  step root action root' :=
    match action with
    | .publish manifest conduct =>
        root' = (publishManifestWithTrustedArtifacts disk root manifest conduct).1
    | .replaceRefreshState manifest conduct =>
        root' = (replaceRefreshState disk root manifest conduct).1
    | .lose slot file =>
        (∀ manifest, ¬Latest disk root slot manifest) ∧ root' = root.setSlot slot file ∧
          readSlot disk root' false slot = none
    | .artifacts files => root' = { root with files := files }

/-- A catalogue of at least this generation is read. -/
def AtLeast (disk : Disk) (generation : Nat) (root : Root) : Prop :=
  ∃ slot manifest, Latest disk root slot manifest ∧ generation ≤ manifest.generation

theorem registry_step {generation : Nat} {root root' : Root} {action : RegistryAction}
    (h : AtLeast disk generation root) (hs : (registry disk).step root action root') :
    AtLeast disk generation root' := by
  obtain ⟨slot, current, hlatest, hle⟩ := h
  cases action with
  | publish manifest conduct =>
      rcases publish_cases disk root manifest conduct with herror | hwrote
      · obtain ⟨error, herror⟩ := herror
        have hroot : root' = root := hs.trans (congrArg Prod.fst herror)
        rw [hroot]
        exact ⟨slot, current, hlatest, hle⟩
      · obtain ⟨target, hwrites, hcall⟩ := hwrote
        have hroot := hs.trans (congrArg Prod.fst hcall)
        have hnewer := hwrites.newer slot current (latest_iff.1 hlatest).1
        rw [hroot]
        exact ⟨target, manifest, hwrites.latest, by omega⟩
  | replaceRefreshState manifest conduct =>
      rcases replace_cases disk root manifest conduct with herror | hwrote
      · obtain ⟨error, herror⟩ := herror
        have hroot : root' = root := hs.trans (congrArg Prod.fst herror)
        rw [hroot]
        exact ⟨slot, current, hlatest, hle⟩
      · obtain ⟨slot', current', hlatest', hsame, hvalid, hsize, hcall⟩ := hwrote
        have hroot := hs.trans (congrArg Prod.fst hcall)
        have hbest : (slot, current) = (slot', current') :=
          Option.some.inj (Eq.trans (Eq.symm hlatest) hlatest')
        obtain ⟨rfl, rfl⟩ := Prod.mk.inj hbest
        have hgen := same_generation hsame
        rw [hroot]
        exact ⟨slot, manifest, latest_of_replaced hlatest hsame hvalid hsize, by omega⟩
  | lose lost file =>
      obtain ⟨hspare, rfl, hlost⟩ := hs
      have hne : slot ≠ lost := by
        intro heq
        subst heq
        exact hspare current hlatest
      exact ⟨slot, current, latest_of_lost hne (latest_iff.1 hlatest).1 hlost, hle⟩
  | artifacts files =>
      have hroot : root' = { root with files := files } := hs
      have hsame : ∀ slot, readSlot disk root' false slot = readSlot disk root false slot := by
        intro slot
        refine readSlot_congr disk ?_
        rw [hroot]
        cases slot <;> rfl
      obtain ⟨hread, hnewest⟩ := latest_iff.1 hlatest
      refine ⟨slot, current, latest_iff.2 ⟨(hsame slot).trans hread, fun m hm => ?_⟩, hle⟩
      rw [hsame] at hm
      exact hnewest m hm

/-- **The publication protocol**: in every state of every run a publication that succeeds is what
    is read, never wrote over the latest manifest and leaves it to fall back on; a call that fails
    leaves everything as it was; a replacement changes the refresh state alone; and no run loses
    the catalogue it began with. -/
theorem publication_protocol {root₀ root : Root} {actions : List RegistryAction}
    (hrun : (registry disk).Run root₀ actions root) :
    Protocol disk root ∧
      ∀ first, readLatestManifestLazy disk root₀ = .ok first →
        ∃ last, readLatestManifestLazy disk root = .ok last ∧
          first.generation ≤ last.generation := by
  refine ⟨protocol_holds root, fun first hfirst => ?_⟩
  obtain ⟨slot, hlatest⟩ := readLatest_iff.1 hfirst
  have hstart : AtLeast disk first.generation root₀ := ⟨slot, first, hlatest, Nat.le_refl _⟩
  have hend := hrun.invariant (P := AtLeast disk first.generation)
    (fun _ _ _ h hs => registry_step h hs) hstart
  obtain ⟨slot', last, hlast, hle⟩ := hend
  exact ⟨last, readLatest_iff.2 ⟨slot', hlast⟩, hle⟩

def plainDisk : Disk where
  limits := ⟨65536, 64, ⟨65536, 65536, 65536, 1024⟩⟩
  jsonSize _ := 128

/-- A manifest without systems. -/
def bareManifest (generation : Nat) : CatalogManifest := ⟨none, none, generation, []⟩

/-- The root with a bare manifest in its first slot. -/
def bareRoot : Root := ⟨some (.stored (bareManifest 1).toStored), none, ∅⟩

/-- The second generation goes to the second slot, and the first slot is lost. -/
theorem publication_protocol_bare :
    let conduct : WriteConduct := ⟨none, .ok ()⟩
    let root := (publishManifestWithTrustedArtifacts plainDisk bareRoot (bareManifest 2) conduct).1
    Protocol plainDisk (root.setSlot .a none) ∧
      ∃ last, readLatestManifestLazy plainDisk (root.setSlot .a none) = .ok last ∧
        1 ≤ last.generation := by
  intro conduct root
  have hfirst : readLatestManifestLazy plainDisk bareRoot = .ok (bareManifest 1) := rfl
  have hpublish : (registry plainDisk).step bareRoot (.publish (bareManifest 2) conduct) root := rfl
  have hlose : (registry plainDisk).step root (.lose .a none) (root.setSlot .a none) := by
    refine ⟨fun manifest h => ?_, rfl, rfl⟩
    have hbest : Latest plainDisk root .b (bareManifest 2) := rfl
    have heq := Option.some.inj (Eq.trans (Eq.symm h) hbest)
    cases (Prod.mk.inj heq).1
  obtain ⟨hprotocol, hlast⟩ := publication_protocol (.snoc (.one hpublish) hlose)
  exact ⟨hprotocol, hlast _ hfirst⟩

end MisterMagik.Catalog
