/-
  File:      MisterMagik/Launcher/ReturnRuns.lean
  Subject:   WHAT A LAUNCHER RETURNS TO, over every run of launches, failures and starts.

  A capsule is installed by a rename, so the file is a whole capsule or none. It stands where the
  last loading frame that installed one put it, and no call took it away since. What a launcher
  restores was therefore written by a launch, for this collection, this game and this generation of
  the catalogue.

  * `LeftBy` -- the loading frame that left a capsule, in a run;
  * `capsule_step` -- what a call does to the capsule;
  * `left_by_a_launch` -- every capsule that is there was left by a launch;
  * `returns_to_a_launch` -- what is restored.
-/
import MisterMagik.Launcher.CapsuleRoundTrip
import MisterMagik.Launcher.LaunchReturn

namespace MisterMagik.Launcher

open Base Catalog CapsuleBinaryWriter CapsuleBinaryReader

/-! ## 1. A capsule that was prepared can be read -/

section Size

/-- Whatever was there before, a write that succeeds has kept to the limit. -/
theorem length_of_written {value bytes bytes' : List UInt8} {a : Unit}
    (h : writeBytes value bytes = .ok (a, bytes')) :
    bytes'.length ≤ RETURN_CATALOG_CAPSULE_MAX_BYTES := by
  obtain ⟨_, mid, hreserve, hmodify⟩ := takes_bind_ok.1 h
  unfold reserve at hreserve
  split at hreserve
  · rename_i hroom
    cases hreserve
    cases hmodify
    rwa [List.length_append]
  · cases hreserve

theorem bounded_writeBytes (value : List UInt8) :
    Bounded RETURN_CATALOG_CAPSULE_MAX_BYTES (writeBytes value) :=
  ⟨fun _ _ _ _ h => length_of_written h⟩

theorem bounded_writeString (value : String) :
    Bounded RETURN_CATALOG_CAPSULE_MAX_BYTES (writeString value) := by
  unfold writeString writeCount
  refine bounded_bind (bounded_lift _) fun _ => ?_
  exact bounded_bind (bounded_bind (bounded_lift _) fun _ => bounded_writeBytes _) fun _ =>
    bounded_writeBytes _

theorem bounded_encodePlan (plan : StructuredLaunchPlan) :
    Bounded RETURN_CATALOG_CAPSULE_MAX_BYTES (encodePlan plan) := by
  unfold encodePlan
  refine bounded_bind (bounded_lift _) fun _ => ?_
  refine bounded_bind (bounded_writeString _) fun _ => ?_
  refine bounded_bind (bounded_writeString _) fun _ => ?_
  refine bounded_bind (bounded_writeString _) fun _ => ?_
  refine bounded_bind (bounded_writeString _) fun _ => ?_
  refine bounded_bind (bounded_writeString _) fun _ => ?_
  refine bounded_bind (bounded_writeString _) fun _ => ?_
  exact bounded_bind (bounded_writeBytes _) fun _ => bounded_writeBytes _

theorem bounded_encodeTarget (refs : List String) (target : Option LaunchTarget) :
    Bounded RETURN_CATALOG_CAPSULE_MAX_BYTES (encodeTarget refs target) := by
  cases target with
  | none => exact bounded_lift _
  | some target =>
      cases target with
      | path launchRef => exact bounded_pure _
      | prepared selection => exact bounded_pure _
      | missingStructured launchRef => exact bounded_pure _
      | structured plan =>
          rw [encodeTarget_structured]
          split
          · exact bounded_pure _
          · exact bounded_bind (bounded_lift _) fun _ =>
              bounded_bind (bounded_encodePlan plan) fun _ => bounded_pure _

theorem bounded_encodeTargets (refs : List String) (targets : List (Option LaunchTarget)) :
    Bounded RETURN_CATALOG_CAPSULE_MAX_BYTES (encodeTargets refs targets) := by
  induction targets generalizing refs with
  | nil => exact bounded_pure _
  | cons target targets ih => exact bounded_bind (bounded_encodeTarget refs target) ih

variable {lookups : Lookups} {catalog : ArcadeCatalog lookups}
  {collectionId returnGamePath : String} {binding : CapsuleBinding} {bytes : List UInt8}

/-- What was prepared is within the limit of what is read. -/
theorem length_of_prepared
    (h : prepareReturnCatalogCapsuleInner catalog collectionId returnGamePath binding =
      .ok bytes) : bytes.length ≤ RETURN_CATALOG_CAPSULE_MAX_BYTES := by
  unfold prepareReturnCatalogCapsuleInner at h
  obtain ⟨_, -, h⟩ := reads_bind_ok.1 h
  obtain ⟨_, -, h⟩ := reads_bind_ok.1 h
  obtain ⟨_, -, h⟩ := reads_bind_ok.1 h
  obtain ⟨_, -, h⟩ := reads_bind_ok.1 h
  obtain ⟨_, -, h⟩ := reads_bind_ok.1 h
  obtain ⟨_, -, h⟩ := reads_bind_ok.1 h
  obtain ⟨⟨_, front⟩, -, h⟩ := reads_bind_ok.1 h
  obtain ⟨_, -, h⟩ := reads_bind_ok.1 h
  obtain ⟨_, -, h⟩ := reads_bind_ok.1 h
  obtain ⟨⟨_, opened⟩, hopened, h⟩ := reads_bind_ok.1 h
  obtain ⟨⟨refs, written⟩, hwritten, h⟩ := reads_bind_ok.1 h
  have hall := (bounded_encodeTargets _ _).ok _ _ _ (length_of_written hopened) hwritten
  obtain ⟨hopened, -⟩ := (appends_writeBytes _).ok _ _ _ hopened
  obtain ⟨more, hmore, -⟩ := encodeTargets_written hwritten
  subst hopened hmore
  cases h
  rw [List.append_assoc, overwrite_between (by simp)]
  simpa using hall

/-- The binding is read off the front. -/
theorem decodePrelude_prepared (h : PreparedCapsule catalog collectionId returnGamePath binding
    bytes) : ∃ rest, decodePrelude bytes = .ok (binding, rest) := by
  have hreads := h.reads
  unfold decodeCapsule at hreads
  obtain ⟨rows, mid, hrows, hplans⟩ := takes_bind_ok.1 hreads
  obtain ⟨plans, mid', -, hpure⟩ := takes_bind_ok.1 hplans
  obtain ⟨-, hcaptured⟩ := takes_pure_ok.1 hpure
  unfold decodeRows at hrows
  obtain ⟨_, mid1, hmagic, hrows⟩ := takes_bind_ok.1 hrows
  obtain ⟨schema, mid2, hschema, hrows⟩ := takes_bind_ok.1 hrows
  obtain ⟨_, mid3, hcheck, hrows⟩ := takes_bind_ok.1 hrows
  obtain ⟨found, mid4, hfound, hrows⟩ := takes_bind_ok.1 hrows
  obtain ⟨_, mid5, -, hrows⟩ := takes_bind_ok.1 hrows
  obtain ⟨_, mid6, -, hrows⟩ := takes_bind_ok.1 hrows
  obtain ⟨_, mid7, -, hrows⟩ := takes_bind_ok.1 hrows
  obtain ⟨_, mid8, -, hrows⟩ := takes_bind_ok.1 hrows
  obtain ⟨-, rfl⟩ := takes_pure_ok.1 hrows
  have hbinding : binding = found := congrArg (fun capsule => capsule.binding) hcaptured
  subst hbinding
  exact ⟨mid4, takes_bind_ok.2 ⟨_, mid1, hmagic, takes_bind_ok.2 ⟨schema, mid2, hschema,
    takes_bind_ok.2 ⟨_, mid3, hcheck, hfound⟩⟩⟩⟩

end Size

/-! ## 2. What a call does to the capsule -/

section Steps

variable {lookups : Lookups} {w : LaunchWorld} {files : ReturnFiles} {bytes : List UInt8}

theorem removeQuiet_cases {α : Type} (fault : FileFault) (file : Option α) :
    removeQuiet fault file = file ∨ removeQuiet fault file = none := by
  unfold removeQuiet
  split
  · exact .inl rfl
  · exact .inr rfl

/-- A save installs the whole capsule, or leaves the one that was there. -/
theorem capsule_save (faults : SaveFaults) (bytes : List UInt8) (files : ReturnFiles) :
    ((saveReturnCatalogCapsule faults bytes files).1 = .ok () ∧
      (saveReturnCatalogCapsule faults bytes files).2.capsule = some bytes) ∨
    ((∃ message, (saveReturnCatalogCapsule faults bytes files).1 = fail message) ∧
      (saveReturnCatalogCapsule faults bytes files).2.capsule = files.capsule) := by
  unfold saveReturnCatalogCapsule
  cases faults.directory with
  | some e => exact .inr ⟨⟨_, rfl⟩, rfl⟩
  | none =>
      dsimp only
      cases faults.createsTemp files with
      | some e => exact .inr ⟨⟨_, rfl⟩, rfl⟩
      | none =>
          dsimp only
          cases faults.write with
          | some e => exact .inr ⟨⟨_, rfl⟩, rfl⟩
          | none =>
              dsimp only
              cases faults.flush with
              | some e => exact .inr ⟨⟨_, rfl⟩, rfl⟩
              | none =>
                  dsimp only
                  cases faults.rename with
                  | some e => exact .inr ⟨⟨_, rfl⟩, rfl⟩
                  | none => exact .inl ⟨rfl, rfl⟩

theorem capsule_remove (faults : ClearFaults) (files : ReturnFiles) :
    (removeReturnCatalogCapsule faults files).capsule = files.capsule ∨
      (removeReturnCatalogCapsule faults files).capsule = none := removeQuiet_cases _ _

theorem capsule_saveState (fault : FileFault) (state : LaunchReturnState) (files : ReturnFiles) :
    (saveLaunchReturnState fault state files).2.capsule = files.capsule := by
  unfold saveLaunchReturnState
  split
  · rfl
  · rfl

theorem capsule_takeState (read clear : FileFault) (files : ReturnFiles) :
    (takeLaunchReturnState read clear files).2.capsule = files.capsule := by
  unfold takeLaunchReturnState
  split
  · rfl
  · rfl

theorem capsule_take (fault : FileFault) (faults : ClearFaults) (current : Reads CapsuleBinding)
    (collectionId path : String) (files : ReturnFiles) :
    (takeReturnCatalogCapsule lookups fault faults current collectionId path files).2.capsule =
        files.capsule ∨
      (takeReturnCatalogCapsule lookups fault faults current collectionId path files).2.capsule =
        none := by
  unfold takeReturnCatalogCapsule
  cases current with
  | ok expected => exact capsule_remove faults files
  | error fault =>
      cases fault with
      | error e => exact capsule_remove faults files
      | panic => exact .inl rfl

theorem capsule_unasked (start : Start) (files : ReturnFiles) :
    (start.unasked files).capsule = files.capsule ∨ (start.unasked files).capsule = none := by
  unfold Start.unasked
  dsimp only
  have htake := capsule_takeState start.readState start.clearState files
  split
  · rw [← htake]
    exact capsule_remove _ _
  · exact .inl htake

/-- What stays or goes, and then stays or goes. -/
theorem kept_or_gone {α : Type} {a b c : Option α} (hab : b = a ∨ b = none)
    (hbc : c = b ∨ c = none) : c = a ∨ c = none := by
  rcases hbc with hc | hc
  · rw [hc]
    exact hab
  · exact .inr hc

theorem capsule_startup (start : Start) (files : ReturnFiles) :
    (startup lookups start files).2.capsule = files.capsule ∨
      (startup lookups start files).2.capsule = none := by
  refine kept_or_gone (capsule_unasked start files) ?_
  unfold startup
  dsimp only
  split
  · exact capsule_remove _ _
  · split
    · exact .inl rfl
    · split
      · exact .inl rfl
      · exact capsule_take _ _ _ _ _ _

/-- The files a launch leaves have its capsule, the one that was there, or none. -/
theorem capsule_write (staged : StagedLaunch) (faults : LoadingFrameFaults) (files : ReturnFiles) :
    (∃ bytes, staged.returnCatalog = some bytes ∧
      (staged.write faults files).capsule = some bytes) ∨
    (staged.write faults files).capsule = files.capsule ∨
    (staged.write faults files).capsule = none := by
  unfold StagedLaunch.write
  split
  · exact .inr (capsule_remove _ _)
  · rename_i state _
    have hsaved := capsule_saveState faults.state state files
    dsimp only
    split
    · split
      · rename_i capsule hcapsule
        rcases capsule_save faults.save capsule (saveLaunchReturnState faults.state state files).2
          with ⟨-, hok⟩ | ⟨-, hkept⟩
        · exact .inl ⟨capsule, hcapsule, hok⟩
        · exact .inr (.inl (hkept.trans hsaved))
      · rw [← hsaved]
        exact .inr (capsule_remove _ _)
    · rw [← hsaved]
      exact .inr (capsule_remove _ _)

/-- A loading frame that installs the capsule of the launch that is staged. -/
def Installs (w : LaunchWorld) (call : LaunchCall lookups) (bytes : List UInt8) : Prop :=
  (∃ faults, call = .completeLoadingFrame faults) ∧
    ∃ staged, w.session.staged = some staged ∧ staged.returnCatalog = some bytes

theorem capsule_completeLoadingFrame (w : LaunchWorld) (faults : LoadingFrameFaults) :
    (∃ staged bytes, w.session.staged = some staged ∧ staged.returnCatalog = some bytes ∧
      (w.completeLoadingFrame faults).files.capsule = some bytes) ∨
    (w.completeLoadingFrame faults).files.capsule = w.files.capsule ∨
    (w.completeLoadingFrame faults).files.capsule = none := by
  unfold LaunchWorld.completeLoadingFrame
  cases hstaged : w.session.staged with
  | none => exact .inr (.inl rfl)
  | some staged =>
      rcases capsule_write staged faults w.files with ⟨bytes, hbytes, hcapsule⟩ | hkept
      · exact .inl ⟨staged, bytes, rfl, hbytes, hcapsule⟩
      · exact .inr hkept

theorem capsule_pollCompletion (w : LaunchWorld) (report : WorkerReport) (state : FileFault)
    (clear : ClearFaults) :
    (w.pollCompletion report state clear).files.capsule = w.files.capsule ∨
      (w.pollCompletion report state clear).files.capsule = none := by
  unfold LaunchWorld.pollCompletion
  split
  · exact .inl rfl
  · cases report with
    | running => exact .inl rfl
    | launched => exact .inl rfl
    | failed => exact capsule_remove clear _

/-- **What a call does to the capsule**: it stays, it goes, or a loading frame installs one. -/
theorem capsule_step (w : LaunchWorld) (call : LaunchCall lookups) :
    (w.next call).files.capsule = w.files.capsule ∨ (w.next call).files.capsule = none ∨
      ∃ bytes, (w.next call).files.capsule = some bytes ∧ Installs w call bytes := by
  cases call with
  | beginLaunch env catalog scopeId fingerprint launchRef => exact .inl rfl
  | completeLoadingFrame faults =>
      rcases capsule_completeLoadingFrame w faults with ⟨staged, bytes, hstaged, hbytes, h⟩ | hkept
      · exact .inr (.inr ⟨bytes, h, ⟨faults, rfl⟩, staged, hstaged, hbytes⟩)
      · exact hkept.imp_right .inl
  | pollCompletion report state clear =>
      exact (capsule_pollCompletion w report state clear).imp_right .inl
  | removeReturnCatalogCapsule faults => exact (capsule_remove faults w.files).imp_right .inl
  | startup start => exact (capsule_startup start w.files).imp_right .inl

/-! ## 3. What is staged -/

/-- The capsule of a launch was prepared for the selection of its return state. -/
def StagedLaunch.Prepared (lookups : Lookups) (staged : StagedLaunch) : Prop :=
  ∀ bytes, staged.returnCatalog = some bytes →
    ∃ (env : CapsuleEnvironment) (catalog : ArcadeCatalog lookups)
      (collectionId gamePath fingerprint : String),
      staged.returnState = some ⟨some collectionId, gamePath⟩ ∧
        prepareReturnCatalogCapsule env catalog collectionId gamePath fingerprint = .ok bytes

theorem prepared_of_returnCatalog {env : CapsuleEnvironment} {catalog : ArcadeCatalog lookups}
    {fingerprint : Option String} {state : Option LaunchReturnState}
    (h : returnCatalogOf env catalog fingerprint state = some bytes) :
    ∃ collectionId gamePath fingerprint, state = some ⟨some collectionId, gamePath⟩ ∧
      prepareReturnCatalogCapsule env catalog collectionId gamePath fingerprint = .ok bytes := by
  unfold returnCatalogOf at h
  obtain ⟨⟨id, gamePath⟩, hstate, h⟩ := Option.bind_eq_some_iff.1 h
  obtain ⟨fingerprint, -, h⟩ := Option.bind_eq_some_iff.1 h
  obtain ⟨collectionId, hid, h⟩ := Option.bind_eq_some_iff.1 h
  dsimp only at hid
  subst hid
  refine ⟨collectionId, gamePath, fingerprint, hstate, ?_⟩
  revert h
  cases prepareReturnCatalogCapsule env catalog collectionId gamePath fingerprint with
  | error fault => exact fun h => by cases h
  | ok bytes' =>
      intro h
      cases h
      rfl

theorem staged_pollCompletion (w : LaunchWorld) (report : WorkerReport) (state : FileFault)
    (clear : ClearFaults) :
    (w.pollCompletion report state clear).session.staged = w.session.staged := by
  unfold LaunchWorld.pollCompletion
  split
  · rfl
  · cases report with
    | running => rfl
    | launched => rfl
    | failed => rfl

/-- **What is staged was prepared**, after every run. -/
theorem prepared_after (calls : List (LaunchCall lookups)) :
    ∀ staged, (LaunchWorld.after calls).session.staged = some staged →
      staged.Prepared lookups := by
  unfold LaunchWorld.after
  induction calls using List.reverseRecOn with
  | nil => exact fun staged h => by cases h
  | append_singleton calls call ih =>
      rw [List.foldl_concat]
      generalize calls.foldl LaunchWorld.next LaunchWorld.first = w at ih ⊢
      intro staged hstaged
      cases call with
      | beginLaunch env catalog scopeId fingerprint launchRef =>
          unfold LaunchWorld.next LaunchHandoffSession.beginLaunch at hstaged
          dsimp only at hstaged
          split at hstaged
          · exact ih staged hstaged
          · cases hstaged
            intro bytes hbytes
            obtain ⟨collectionId, gamePath, fingerprint, hstate, hprepared⟩ :=
              prepared_of_returnCatalog hbytes
            exact ⟨env, catalog, collectionId, gamePath, fingerprint, hstate, hprepared⟩
      | completeLoadingFrame faults =>
          rw [LaunchWorld.next, LaunchWorld.completeLoadingFrame] at hstaged
          split at hstaged
          · exact ih staged hstaged
          · cases hstaged
      | pollCompletion report state clear =>
          refine ih staged ?_
          rw [← hstaged]
          exact (staged_pollCompletion w report state clear).symm
      | removeReturnCatalogCapsule faults => exact ih staged hstaged
      | startup start => cases hstaged

end Steps

/-! ## 4. What is restored -/

section Runs

variable {lookups : Lookups} {calls : List (LaunchCall lookups)} {bytes : List UInt8}
  {start : Start} {state : LaunchReturnState} {taken : TakenReturnCatalogCapsule lookups}

theorem after_concat (calls : List (LaunchCall lookups)) (call : LaunchCall lookups) :
    LaunchWorld.after (calls ++ [call]) = (LaunchWorld.after calls).next call :=
  List.foldl_concat ..

/-- The loading frame that left a capsule: it was installed for a launch that was staged then, and it
    was there ever since. -/
structure LeftBy (calls before later : List (LaunchCall lookups)) (faults : LoadingFrameFaults)
    (staged : StagedLaunch) (bytes : List UInt8) : Prop where
  split : calls = before ++ .completeLoadingFrame faults :: later
  launch : (LaunchWorld.after before).session.staged = some staged
  capsule : staged.returnCatalog = some bytes
  since : ∀ front back, later = front ++ back →
    (LaunchWorld.after (before ++ .completeLoadingFrame faults :: front)).files.capsule =
      some bytes

/-- **Every capsule that is there was left by a launch.** -/
theorem left_by_a_launch (calls : List (LaunchCall lookups)) :
    ∀ bytes, (LaunchWorld.after calls).files.capsule = some bytes →
      ∃ before later faults staged, LeftBy calls before later faults staged bytes := by
  induction calls using List.reverseRecOn with
  | nil => exact fun bytes h => by cases h
  | append_singleton calls call ih =>
      intro bytes h
      have hnow := h
      rw [after_concat] at h
      rcases capsule_step (LaunchWorld.after calls) call with hkept | hgone | ⟨bytes', hbytes, hinstalls⟩
      · rw [hkept] at h
        obtain ⟨before, later, faults, staged, hleft⟩ := ih bytes h
        refine ⟨before, later ++ [call], faults, staged, ?_, hleft.launch, hleft.capsule, ?_⟩
        · rw [hleft.split, List.append_assoc, List.cons_append]
        · intro front back hsplit
          rcases List.eq_nil_or_concat' back with rfl | ⟨init, last, rfl⟩
          · rw [List.append_nil] at hsplit
            rw [← hsplit, ← List.cons_append, ← List.append_assoc, ← hleft.split]
            exact hnow
          · rw [← List.append_assoc] at hsplit
            exact hleft.since front init (List.append_inj_left' hsplit rfl)
      · rw [hgone] at h
        cases h
      · rw [hbytes] at h
        cases h
        obtain ⟨⟨faults, rfl⟩, staged, hstaged, hcapsule⟩ := hinstalls
        refine ⟨calls, [], faults, staged, rfl, hstaged, hcapsule, fun front back hsplit => ?_⟩
        obtain ⟨rfl, -⟩ := List.append_eq_nil_iff.1 hsplit.symm
        exact hnow

/-- What is read of a capsule that was prepared. -/
theorem read_prepared {env : CapsuleEnvironment} {catalog : ArcadeCatalog lookups}
    {collectionId gamePath fingerprint id path : String} {expected : CapsuleBinding}
    {files : ReturnFiles} (hfiles : files.capsule = some bytes)
    (h : prepareReturnCatalogCapsule env catalog collectionId gamePath fingerprint = .ok bytes) :
    (peekReturnCatalogFingerprint none files = .ok fingerprint) ∧
    (readReturnCatalogCapsule lookups none expected id path files = .ok taken ↔
      (expected = CapsuleBinding.forValues env catalog.root fingerprint ∧ id = collectionId ∧
        path = gamePath ∧ ∃ game ∈ (catalog.systemGameView collectionId).iter,
          collectionId ∈ gameCollectionIds lookups game) ∧
      taken = ⟨(captured catalog collectionId gamePath
        (CapsuleBinding.forValues env catalog.root fingerprint)).catalog lookups, fingerprint⟩) := by
  obtain ⟨binding, hbinding, hinner⟩ := reads_bind_ok.1 h
  obtain ⟨_, -, hpure⟩ := reads_bind_ok.1 hbinding
  cases hpure
  have hprepared := prepared_of_ok hinner
  have hread : readReturnCatalogCapsuleBytes none files = .ok bytes := by
    unfold readReturnCatalogCapsuleBytes
    rw [hfiles]
    exact reads_bind_ok.2 ⟨(), check_ok.2 (decide_eq_true (length_of_prepared hinner)), rfl⟩
  constructor
  · obtain ⟨rest, hprelude⟩ := decodePrelude_prepared hprepared
    exact reads_bind_ok.2 ⟨bytes, hread, reads_bind_ok.2 ⟨_, hprelude,
      reads_bind_ok.2 ⟨(), hprepared.bound, rfl⟩⟩⟩
  · unfold readReturnCatalogCapsule
    rw [reads_bind_ok]
    constructor
    · intro hok
      obtain ⟨bytes', hbytes', hok⟩ := hok
      rw [hread] at hbytes'
      cases hbytes'
      obtain ⟨restored, hrestored, hpure⟩ := reads_bind_ok.1 hok
      obtain ⟨⟨hbound, hid, hpath, hgame⟩, rfl⟩ := (decode_ok hprepared).1 hrestored
      cases hpure
      subst hbound hid hpath
      exact ⟨⟨rfl, rfl, rfl, hgame⟩, rfl⟩
    · intro hok
      obtain ⟨⟨rfl, rfl, rfl, hgame⟩, rfl⟩ := hok
      exact ⟨bytes, hread, reads_bind_ok.2 ⟨_, (decode_ok hprepared).2
        ⟨⟨rfl, rfl, rfl, hgame⟩, rfl⟩, rfl⟩⟩

/-- What a start looks at when it restores. -/
theorem startup_restores {files : ReturnFiles}
    (h : (startup lookups start files).1 = some (state, .ok taken)) :
    ∃ collectionId expected,
      start.requested files = some state ∧ state.collectionId = some collectionId ∧
      CapsuleBinding.current start.env start.registryFingerprint start.catalogRoot = .ok expected ∧
      start.readCapsule = none ∧
      readReturnCatalogCapsule lookups none expected collectionId state.gamePath
        (start.unasked files) = .ok taken := by
  unfold startup at h
  dsimp only at h
  split at h
  · cases h
  · split at h
    · cases h
    · rename_i state' hrequested
      split at h
      · cases h
      · rename_i collectionId hid
        obtain ⟨rfl, htaken⟩ := Prod.mk.inj (Option.some.inj h)
        unfold takeReturnCatalogCapsule at htaken
        cases hcurrent : CapsuleBinding.current start.env start.registryFingerprint
            start.catalogRoot with
        | error fault =>
            rw [hcurrent] at htaken
            cases fault with
            | error e => cases htaken
            | panic => cases htaken
        | ok expected =>
            rw [hcurrent] at htaken
            dsimp only at htaken
            cases hfault : start.readCapsule with
            | some e =>
                rw [hfault] at htaken
                cases htaken
            | none =>
                rw [hfault] at htaken
                exact ⟨collectionId, expected, hrequested, hid, rfl, rfl, htaken⟩

theorem unasked_of_requested {files : ReturnFiles} (h : start.requested files = some state) :
    (start.unasked files).capsule = files.capsule := by
  unfold Start.unasked
  dsimp only
  rw [h, if_neg (by simp)]
  exact capsule_takeState _ _ _

theorem binding_of_current {expected : CapsuleBinding}
    (h : CapsuleBinding.current start.env start.registryFingerprint start.catalogRoot =
      .ok expected) : start.registryFingerprint = .ok expected.catalogStampFingerprint := by
  obtain ⟨fingerprint, hfingerprint, h⟩ := reads_bind_ok.1 h
  obtain ⟨_, -, hpure⟩ := reads_bind_ok.1 h
  cases hpure
  exact hfingerprint

/-- A start that restores takes the capsule with it, where the removal works. -/
theorem capsule_restored {files : ReturnFiles}
    (h : (startup lookups start files).1 = some (state, .ok taken))
    (hclear : start.clearCapsule.capsule = none) :
    (startup lookups start files).2.capsule = none := by
  obtain ⟨collectionId, expected, hrequested, hid, hcurrent, -, -⟩ := startup_restores h
  unfold startup at h ⊢
  dsimp only at h ⊢
  split at h
  · cases h
  · rename_i hpredecessor
    rw [if_neg hpredecessor, hrequested]
    dsimp only
    rw [hid]
    dsimp only
    rw [hcurrent]
    unfold takeReturnCatalogCapsule removeReturnCatalogCapsule removeQuiet
    dsimp only
    rw [hclear]
    rfl

/-- Without a loading frame no capsule comes back. -/
theorem capsule_stays_gone {w : LaunchWorld} (hw : w.files.capsule = none)
    {more : List (LaunchCall lookups)}
    (hmore : ∀ call ∈ more, ∀ faults, call ≠ .completeLoadingFrame faults) :
    (more.foldl LaunchWorld.next w).files.capsule = none := by
  induction more generalizing w with
  | nil => exact hw
  | cons call more ih =>
      refine ih ?_ fun call hcall => hmore call (List.mem_cons_of_mem _ hcall)
      rcases capsule_step w call with hkept | hgone | ⟨bytes, -, ⟨faults, hcall⟩, -⟩
      · exact hkept.trans hw
      · exact hgone
      · exact absurd hcall (hmore call List.mem_cons_self faults)

/-- **What a launcher returns to was left by a launch.** A start that restores a catalog restores it
    from a capsule that a loading frame of the run installed, that nothing touched since, and that
    was prepared for the collection and the game of the return state and for the generation of the
    catalogue that is published; what it restores of that catalog is what a capsule gives back.
    Where the removal works, no start after it restores anything before another loading frame. -/
theorem returns_to_a_launch
    (h : (startup lookups start (LaunchWorld.after calls).files).1 = some (state, .ok taken)) :
    (∃ (before later : List (LaunchCall lookups)) (faults : LoadingFrameFaults)
      (staged : StagedLaunch) (bytes : List UInt8) (env : CapsuleEnvironment)
      (catalog : ArcadeCatalog lookups) (collectionId : String),
      LeftBy calls before later faults staged bytes ∧ state.collectionId = some collectionId ∧
        prepareReturnCatalogCapsule env catalog collectionId state.gamePath
          taken.durableCatalogFingerprint = .ok bytes ∧
        Restores catalog collectionId taken.catalog) ∧
    start.registryFingerprint = .ok taken.durableCatalogFingerprint ∧
    (start.clearCapsule.capsule = none → ∀ (more : List (LaunchCall lookups)) (start' : Start)
      (state' : LaunchReturnState) (taken' : TakenReturnCatalogCapsule lookups),
      (∀ call ∈ more, ∀ faults, call ≠ .completeLoadingFrame faults) →
      (startup lookups start' (LaunchWorld.after (calls ++ .startup start :: more)).files).1 ≠
        some (state', .ok taken')) := by
  have hrestores := h
  obtain ⟨collectionId, expected, hrequested, hid, hcurrent, -, hread⟩ := startup_restores h
  have hunasked := unasked_of_requested hrequested
  obtain ⟨bytes, hbytes⟩ : ∃ bytes, (LaunchWorld.after calls).files.capsule = some bytes := by
    cases hcapsule : (LaunchWorld.after calls).files.capsule with
    | some bytes => exact ⟨bytes, rfl⟩
    | none =>
        rw [hcapsule] at hunasked
        unfold readReturnCatalogCapsule readReturnCatalogCapsuleBytes at hread
        rw [hunasked] at hread
        cases hread
  obtain ⟨before, later, faults, staged, hleft⟩ := left_by_a_launch calls bytes hbytes
  obtain ⟨env, catalog, id, gamePath, fingerprint, -, hprepared⟩ :=
    prepared_after before staged hleft.launch bytes hleft.capsule
  obtain ⟨⟨hexpected, rfl, rfl, -⟩, rfl⟩ :=
    (read_prepared (hunasked.trans hbytes) hprepared).2.1 hread
  refine ⟨⟨before, later, faults, staged, bytes, env, catalog, collectionId, hleft, hid,
    hprepared, restores_captured _ _ _ _⟩, ?_, ?_⟩
  · rw [binding_of_current hcurrent, hexpected]
    rfl
  · intro hclear more start' state' taken' hmore hagain
    obtain ⟨_, _, hrequested', -, -, -, hread'⟩ := startup_restores hagain
    have hgone : (LaunchWorld.after (calls ++ .startup start :: more)).files.capsule = none := by
      unfold LaunchWorld.after
      rw [List.foldl_append, List.foldl_cons]
      exact capsule_stays_gone (capsule_restored hrestores hclear) hmore
    unfold readReturnCatalogCapsule readReturnCatalogCapsuleBytes at hread'
    rw [unasked_of_requested hrequested', hgone] at hread'
    cases hread'

end Runs

/-! ## 5. A run -/

def devEnvironment : CapsuleEnvironment where
  layout := .dev
  appDir := "/a"
  libraryRoots := ["/g"]
  pathMap := []
  schemaVersion := 67
  catalogBuildVersion := 18
  packageVersion := "1"
  buildTime := "b"

/-- Nothing fails. -/
def calmStart : Start where
  env := devEnvironment
  registryFingerprint := .ok "0f"
  catalogRoot := "/c"
  restoreAllowed := true
  predecessorMigration := false
  readState := none
  clearState := none
  clearUnasked := ⟨none, none⟩
  clearPredecessor := ⟨none, none⟩
  readCapsule := none
  clearCapsule := ⟨none, none⟩

/-- A game is launched, behind a launch whose capsule could not be installed and that failed. -/
def launchedCalls : List (LaunchCall plainLookups) :=
  [.beginLaunch devEnvironment (aliasCatalog "c64") (some "c64") (some "0e") "p",
    .completeLoadingFrame ⟨none, ⟨none, none, none, none, 0, none, some "busy"⟩, ⟨none, none⟩⟩,
    .pollCompletion .failed none ⟨none, none⟩,
    .beginLaunch devEnvironment (aliasCatalog "c64") (some "c64") (some "0f") "p",
    .completeLoadingFrame ⟨none, ⟨none, none, none, none, 0, none, none⟩, ⟨none, none⟩⟩,
    .pollCompletion .launched none ⟨none, none⟩]

theorem returns_to_a_launch_c64 : ∃ state taken,
    (startup plainLookups calmStart (LaunchWorld.after launchedCalls).files).1 =
        some (state, .ok taken) ∧
      taken.durableCatalogFingerprint = "0f" ∧
      ∃ (catalog : ArcadeCatalog plainLookups) (collectionId : String),
        Restores catalog collectionId taken.catalog := by
  obtain ⟨⟨state, result⟩, hstartup⟩ : ∃ found,
      (startup plainLookups calmStart (LaunchWorld.after launchedCalls).files).1 = some found :=
    Option.isSome_iff_exists.1 (by decide +kernel)
  have hok : ((startup plainLookups calmStart (LaunchWorld.after launchedCalls).files).1.any
      fun found => found.2.toOption.isSome) = true := by decide +kernel
  rw [hstartup] at hok
  obtain ⟨taken, rfl⟩ := exists_of_isSome hok
  obtain ⟨⟨_, _, _, _, _, _, catalog, collectionId, -, -, -, hrestores⟩, hfingerprint, -⟩ :=
    returns_to_a_launch hstartup
  exact ⟨state, taken, hstartup, (Except.ok.inj hfingerprint).symm, catalog, collectionId, hrestores⟩

end MisterMagik.Launcher
