/-
  File:      MisterMagik/Catalog/InUse.lean
  Subject:   What is in use on the storage -- the artifacts that either readable manifest names as
             active -- and the programs that keep it.

  * `Sound` -- what is in use is there, and the newest manifest names it;
  * `Kept`, `Keeps` -- slots and what is in use as they were, and programs that leave it so;
  * `keeps_publishSystemArtifacts` -- the artifacts of a system come in beside what is in use.
-/
import MisterMagik.Catalog.Publication
import MisterMagik.Catalog.Slots

namespace MisterMagik.Catalog

open MisterMagik.Base

/-! ## 1. Artifacts in use -/

/-- The artifacts of the active generations. -/
def CatalogManifest.activePaths (manifest : CatalogManifest) : List (List Component) :=
  manifest.systems.flatMap fun system => system.active.paths.map PathBuf.components

/-- A readable manifest names the artifact as active. -/
def InUse (disk : Disk) (root : Root) (path : List Component) : Prop :=
  ∃ slot manifest, readSlot disk root false slot = some manifest ∧ path ∈ manifest.activePaths

/-- The artifacts in use are there, and the newest manifest names them. -/
structure Sound (disk : Disk) (root : Root) : Prop where
  present : ∀ path, InUse disk root path → path ∈ root.files
  named : ∀ path, InUse disk root path → ∀ slot latest, Latest disk root slot latest →
    path ∈ retained latest

theorem mem_retained {manifest : CatalogManifest} {path : List Component} :
    path ∈ retained manifest ↔ ∃ system ∈ manifest.systems,
      ∃ g, (g = system.active ∨ system.previous = some g) ∧
        path ∈ g.paths.map PathBuf.components := by
  unfold retained
  simp only [List.mem_flatMap, List.mem_cons, Option.mem_toList]

theorem activePaths_retained {manifest : CatalogManifest} {path : List Component}
    (h : path ∈ manifest.activePaths) : path ∈ retained manifest := by
  obtain ⟨system, hsystem, hpath⟩ := List.mem_flatMap.1 h
  exact mem_retained.2 ⟨system, hsystem, system.active, Or.inl rfl, hpath⟩

section Kept

variable {disk : Disk} {base root : Root}

/-- Only artifacts that are not in use have come and gone. -/
structure Kept (disk : Disk) (base root : Root) : Prop where
  slots : ∀ slot, root.slot slot = base.slot slot
  files : ∀ path, InUse disk base path → path ∈ root.files

theorem Kept.refl (h : Sound disk base) : Kept disk base base where
  slots _ := rfl
  files := h.present

theorem Kept.readSlot (h : Kept disk base root) (slot : Slot) :
    readSlot disk root false slot = readSlot disk base false slot :=
  readSlot_congr disk (h.slots slot)

theorem Kept.inUse (h : Kept disk base root) {path : List Component} :
    InUse disk root path ↔ InUse disk base path := by
  unfold InUse
  simp only [h.readSlot]

theorem Kept.latest (h : Kept disk base root) {slot : Slot} {manifest : CatalogManifest} :
    Latest disk root slot manifest ↔ Latest disk base slot manifest := by
  rw [latest_iff, latest_iff, h.readSlot, h.readSlot]

theorem Kept.sound (h : Kept disk base root) (hbase : Sound disk base) : Sound disk root where
  present path hpath := h.files path (h.inUse.1 hpath)
  named path hpath slot latest hlatest :=
    hbase.named path (h.inUse.1 hpath) slot latest (h.latest.1 hlatest)

theorem Kept.put (h : Kept disk base root) (path : PathBuf) (bytes : List UInt8) :
    Kept disk base (root.put path bytes) where
  slots slot := by
    rw [← h.slots slot]
    cases slot <;> rfl
  files path' hpath := AList.mem_insert _ |>.2 (Or.inr (h.files path' hpath))

theorem Kept.remove (h : Kept disk base root) {path : PathBuf}
    (hfree : ¬InUse disk base path.components) : Kept disk base (root.remove path) where
  slots slot := by
    rw [← h.slots slot]
    cases slot <;> rfl
  files path' hpath := by
    refine AList.mem_erase.2 ⟨?_, h.files path' hpath⟩
    intro heq
    exact hfree (heq ▸ hpath)

theorem mem_foldl_erase {files : Table (List Component) (List UInt8)}
    {removed : List (List Component)} {path : List Component} (h : path ∈ files)
    (hfree : path ∉ removed) :
    path ∈ removed.foldl (fun files path => files.erase path) files := by
  induction removed generalizing files with
  | nil => exact h
  | cons gone removed ih =>
      rw [List.mem_cons, not_or] at hfree
      exact ih (AList.mem_erase.2 ⟨hfree.1, h⟩) hfree.2

/-- A collection spares what its manifest names. -/
theorem Kept.collect (h : Kept disk base root) {manifest : CatalogManifest}
    (hnamed : ∀ path, InUse disk base path → path ∈ retained manifest) (conduct : CollectConduct) :
    Kept disk base (garbageCollectUnreferenced root manifest conduct).1 where
  slots slot := by
    rw [← h.slots slot]
    cases slot <;> rfl
  files path hpath := by
    refine mem_foldl_erase (h.files path hpath) fun hmem => ?_
    have hgoes := (List.mem_filter.1 hmem).2
    simp only [Bool.and_eq_true, Bool.not_eq_true', List.contains_eq_mem,
      decide_eq_false_iff_not] at hgoes
    exact hgoes.2 (hnamed path hpath)

end Kept

/-! ## 2. Programs that keep what is in use -/

/-- The storage as the surroundings of a publication; wanted is that it is sound wherever an
    operation is performed. -/
def storage (disk : Disk) : Surroundings StorageOp.Answer Root where
  env _ _ := False
  allowed _ root := Sound disk root
  does op root answer root' := op.Does disk root answer root'

section Keeps

variable {disk : Disk} {base : Root} {ε ε' α β : Type}

theorem storage_stable (P : Root → Prop) : (storage disk).Stable P :=
  fun _ _ _ h => h.elim

/-- The call keeps what is in use, and what it returns is as said. -/
structure Keeps (disk : Disk) (base : Root) (call : Publishing ε α) (P : α → Prop) : Prop where
  wp : ∀ root, Kept disk base root → Call.wp (storage disk) call
    (fun a _ root' => Kept disk base root' ∧ P a) (fun _ _ root' => Kept disk base root') () root

variable {call : Publishing ε α} {f : α → Publishing ε β} {P : α → Prop} {Q : β → Prop}

theorem wp_op {op : StorageOp} {root : Root} {Q : op.Answer → Unit → Root → Prop}
    {E : ε → Unit → Root → Prop} (hsound : Sound disk root)
    (h : ∀ answer root', op.Does disk root answer root' → Q answer () root') :
    Call.wp (storage disk) (perform op : Publishing ε op.Answer) Q E () root := by
  refine Call.wp_perform (P := fun root' => root' = root) (storage_stable _) rfl ?_ ?_
  · intro root' heq
    rw [heq]
    exact hsound
  · intro root' answer root'' heq hdoes
    rw [heq] at hdoes
    exact h answer root'' hdoes

theorem keeps_pure {a : α} (h : P a) : Keeps disk base (pure a : Publishing ε α) P :=
  ⟨fun _ hkept => Call.wp_pure.2 ⟨hkept, h⟩⟩

theorem keeps_throw (error : ε) : Keeps disk base (Call.throw error : Publishing ε α) P :=
  ⟨fun _ hkept => Call.wp_throw.2 hkept⟩

theorem keeps_bind (h : Keeps disk base call P) (hf : ∀ a, P a → Keeps disk base (f a) Q) :
    Keeps disk base (call >>= f) Q := by
  refine ⟨fun root hkept => ?_⟩
  refine Call.wp_bind (Call.wp_mono (h.wp root hkept) ?_ fun _ _ _ h => h)
  intro a _ root' hroot
  exact (hf a hroot.2).wp root' hroot.1

theorem keeps_ofExcept {x : Except ε α} (h : ∀ a, x = .ok a → P a) :
    Keeps disk base (Call.ofExcept x : Publishing ε α) P :=
  ⟨fun _ hkept => Call.wp_ofExcept (fun a ha => ⟨hkept, h a ha⟩) fun _ _ => hkept⟩

theorem keeps_attempt (δ : Type) (h : Keeps disk base call P) :
    Keeps disk base (Call.attempt call : Publishing δ (Except ε α))
      fun result => ∀ a, result = .ok a → P a := by
  refine ⟨fun root hkept => Call.wp_attempt (Call.wp_mono (h.wp root hkept) ?_ ?_)⟩
  · intro a _ root' hroot
    refine ⟨hroot.1, fun a' heq => ?_⟩
    cases heq
    exact hroot.2
  · intro error _ root' hroot
    exact ⟨hroot, fun a heq => by cases heq⟩

theorem keeps_mapErr {g : ε → ε'} (h : Keeps disk base call P) :
    Keeps disk base (mapErr g call) P := by
  refine keeps_bind (keeps_attempt _ h) fun result hresult => keeps_ofExcept fun a ha => ?_
  cases result with
  | error error => cases ha
  | ok a' =>
      cases ha
      exact hresult a rfl

variable (hbase : Sound disk base)

include hbase

/-- An operation that leaves the storage alone. -/
theorem keeps_op {op : StorageOp}
    (h : ∀ root answer root', op.Does disk root answer root' → root' = root) :
    Keeps disk base (perform op : Publishing ε op.Answer) fun _ => True := by
  refine ⟨fun root hkept => wp_op (hkept.sound hbase) fun answer root' hdoes => ⟨?_, trivial⟩⟩
  rw [h root answer root' hdoes]
  exact hkept

theorem keeps_side (sideCall : SideCall) :
    Keeps disk base (side sideCall) fun _ => True :=
  keeps_bind (keeps_op hbase fun _ _ _ h => h) fun _ _ => keeps_ofExcept fun _ _ => trivial

theorem keeps_registrySide (sideCall : SideCall) :
    Keeps disk base (registrySide sideCall) fun _ => True :=
  keeps_bind (keeps_op hbase fun _ _ _ h => h) fun _ _ => keeps_ofExcept fun _ _ => trivial

theorem keeps_place (path : PathBuf) (bytes : List UInt8) :
    Keeps disk base (place path bytes) fun _ => True := by
  refine keeps_bind (P := fun _ => True) ?_ fun _ _ => keeps_ofExcept fun _ _ => trivial
  refine ⟨fun root hkept => wp_op (hkept.sound hbase) fun answer root' hdoes => ⟨?_, trivial⟩⟩
  cases answer with
  | ok _ =>
      have hroot : root' = root.put path bytes := hdoes
      rw [hroot]
      exact hkept.put path bytes
  | error error =>
      have hroot : root' = root := hdoes
      rw [hroot]
      exact hkept

theorem keeps_removeFile {path : PathBuf} (hfree : ¬InUse disk base path.components) :
    Keeps disk base (removeFile path) fun _ => True := by
  refine ⟨fun root hkept => wp_op (hkept.sound hbase) fun answer root' hdoes => ⟨?_, trivial⟩⟩
  have hroot : root' = root.remove path ∨ root' = root := hdoes
  rcases hroot with hroot | hroot
  · rw [hroot]
    exact hkept.remove hfree
  · rw [hroot]
    exact hkept

theorem keeps_collect {manifest : CatalogManifest}
    (hnamed : ∀ path, InUse disk base path → path ∈ retained manifest) :
    Keeps disk base (collect manifest) fun _ => True := by
  refine keeps_bind (P := fun _ => True) ?_ fun _ _ => keeps_ofExcept fun _ _ => trivial
  refine ⟨fun root hkept => wp_op (hkept.sound hbase) fun answer root' hdoes => ⟨?_, trivial⟩⟩
  obtain ⟨conduct, hcall, -⟩ := hdoes
  rw [(Prod.mk.inj hcall).1]
  exact hkept.collect hnamed conduct

omit hbase in
theorem keeps_withNavigation {staged : Staged} {f : List UInt8 → Publishing RegistryError Unit}
    (h : ∀ navigation, Keeps disk base (f navigation) fun _ => True) :
    Keeps disk base (withNavigation staged f) fun _ => True := by
  unfold withNavigation
  split
  · exact h _
  · exact keeps_pure trivial

theorem keeps_placeAll (systemId : SystemId) (generation : Nat) (staged : Staged) :
    Keeps disk base (placeAll systemId generation staged) fun _ => True := by
  refine keeps_bind (keeps_place hbase _ _) fun _ _ => ?_
  refine keeps_bind (keeps_withNavigation fun _ => keeps_place hbase _ _) fun _ _ => ?_
  exact keeps_place hbase _ _

variable {systemId : SystemId} {generation : Nat} {staged : Staged}

/-- None of the three paths is in use. -/
def Unused (disk : Disk) (base : Root) (systemId : SystemId) (generation : Nat) : Prop :=
  ¬InUse disk base (sqlitePath systemId generation).components ∧
    ¬InUse disk base (navigationPath systemId generation).components ∧
    ¬InUse disk base (navpackPath systemId generation).components

theorem keeps_withdraw (h : Unused disk base systemId generation) :
    Keeps disk base (withdraw systemId generation staged) fun _ => True := by
  unfold withdraw
  by_cases hcopy : staged.copyStaged = true
  · rw [if_pos hcopy]
    refine keeps_bind (keeps_removeFile hbase h.1) fun _ _ => ?_
    refine keeps_bind (keeps_withNavigation fun _ => keeps_removeFile hbase h.2.1) fun _ _ => ?_
    exact keeps_removeFile hbase h.2.2
  · rw [if_neg hcopy]
    exact keeps_pure trivial

theorem keeps_placeStaged (h : Unused disk base systemId generation) :
    Keeps disk base (placeStaged systemId generation staged) fun _ => True := by
  refine keeps_bind (keeps_attempt _ (keeps_placeAll hbase _ _ _)) fun result _ => ?_
  cases result with
  | ok _ => exact keeps_pure trivial
  | error error =>
      refine keeps_bind (keeps_withdraw hbase h) fun _ _ => ?_
      exact keeps_throw error

/-- **The artifacts of a system come in without touching what is in use**: where one of their paths
    is taken nothing is done. -/
theorem keeps_publishSystemArtifacts (limits : RegistryLimits) (games : Nat) :
    Keeps disk base (publishSystemArtifacts limits staged systemId generation games)
      fun _ => True := by
  unfold publishSystemArtifacts
  refine ⟨fun root hkept => Call.wp_bind (wp_op (hkept.sound hbase) fun answer root' hdoes => ?_)⟩
  have hanswer : answer = root ∧ root' = root := hdoes
  obtain ⟨rfl, rfl⟩ := hanswer
  by_cases htaken : ((root'.file (sqlitePath systemId generation)).isSome ||
      (root'.file (navigationPath systemId generation)).isSome ||
      (root'.file (navpackPath systemId generation)).isSome) = true
  · rw [if_pos htaken]
    exact (keeps_throw (P := fun _ => True) _).wp root' hkept
  · rw [if_neg htaken]
    have hpath : ∀ path : PathBuf, ¬(root'.file path).isSome = true →
        ¬InUse disk base path.components := by
      intro path hnone huse
      have hmem := hkept.files _ huse
      exact hnone (AList.lookup_isSome.2 hmem)
    simp only [Bool.or_eq_true, not_or] at htaken
    have hunused : Unused disk base systemId generation :=
      ⟨hpath _ htaken.1.1, hpath _ htaken.1.2, hpath _ htaken.2⟩
    refine Keeps.wp (P := fun _ => True) ?_ root' hkept
    refine keeps_bind (keeps_ofExcept fun _ _ => trivial) fun sqliteBytes _ => ?_
    refine keeps_bind (keeps_ofExcept fun _ _ => trivial) fun navigationBytes _ => ?_
    refine keeps_bind (keeps_ofExcept fun _ _ => trivial) fun navpackBytes _ => ?_
    refine keeps_bind (keeps_registrySide hbase .createSystemDirectory) fun _ _ => ?_
    refine keeps_bind (keeps_placeStaged hbase hunused) fun _ _ => ?_
    refine keeps_bind (keeps_registrySide hbase .syncDirectory) fun _ _ => ?_
    exact keeps_pure trivial

end Keeps

end MisterMagik.Catalog
