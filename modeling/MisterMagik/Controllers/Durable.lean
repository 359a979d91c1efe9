/-
  File:      MisterMagik/Controllers/Durable.lean
  Subject:   NO CONTROLLER CHANGE IS LOST: what an accepted call does, and what of it is on disk.

  A save writes the registry of the input side as it was at one moment of the run. The moment is no
  earlier than the save request it answers, so whatever was accepted before that request is in the
  file, unless a later call changed the same entry.

  * `Done`, `call_done` -- a call that returns `Ok` has put its entry into the registry, touched no
    other, and requested the revision it returns;
  * `Holds` -- a registry has every change accepted before a save request;
  * `no_change_lost` -- over every run.
-/
import MisterMagik.Controllers.Persistence

namespace MisterMagik.Controllers

open MisterMagik.Base
open PersistenceState (change claimExisting noteSighting)

/-! ## 1. Accepted calls -/

/-- The revision returned is a new save request. -/
structure Requests (s : PersistenceState) (accepted : Accepted) (t : PersistenceState) : Prop where
  returned : accepted = .revision t.pending.status.requested
  raised : t.pending.status.requested = s.pending.status.requested + 1

/-- The registry of the input side has this entry, and is else as it was. -/
def Puts (s : PersistenceState) (id : String) (entry : ControllerEntry) (t : PersistenceState) :
    Prop :=
  t.db.contents = Function.update s.db.contents id (some entry.clone)

/-- What an accepted call has done. A sighting requests no save, and says whether the device has
    its entry at this port. -/
def Done (target : Target) (s : PersistenceState) :
    InputCall → Accepted → PersistenceState → Prop
  | .registerNew info labelCapacity, accepted, t =>
      Requests s accepted t ∧ Puts s (logicalId info) (defaultEntry info labelCapacity) t
  | .claimExisting info index, accepted, t =>
      Requests s accepted t ∧ ∃ id found, s.db.listEntryId target.toLowercase index = some id ∧
        s.db.lookup id = some found ∧
        Puts s id { found with
          kernelName :=
            if found.kernelName.text = "" then .exact info.name else found.kernelName
          lastUsbPort := .exact info.usbPort } t
  | .finishSetup info label kind, accepted, t =>
      Requests s accepted t ∧ Puts s (logicalId info)
        { label, kind, kernelName := .exact info.name, setupComplete := true
          lastUsbPort := .exact info.usbPort } t
  | .noteSighting info, accepted, t =>
      t.pending.status.requested = s.pending.status.requested ∧
        (accepted = .sighted false ∧ t = s ∨
          accepted = .sighted true ∧ ∃ found, s.db.get info = some found ∧
            Puts s (logicalId info) { found with lastUsbPort := .exact info.usbPort } t)
  | .retry, accepted, t => Requests s accepted t ∧ t.db = s.db

section Calls

variable {target : Target} {s t : PersistenceState} {id : String} {entry : ControllerEntry}
  {save : Bool} {accepted : Nat → Accepted} {result : Accepted}

/-- An accepted change is submitted and made. -/
theorem change_ok (h : (s.change target id entry save accepted).1 = .ok result) :
    ∃ revision pending, result = accepted revision ∧
      Submitted target s.pending (.exact id) entry save revision pending ∧
      (s.change target id entry save accepted).2 =
        { s with pending, db := s.db.replaceEntry id entry } := by
  unfold change at h ⊢
  split at h
  · rename_i revision pending hsubmit
    exact ⟨revision, pending, (Except.ok.inj h).symm, submit_ok hsubmit, rfl⟩
  · cases h

theorem change_puts (h : (s.change target id entry save accepted).1 = .ok result) :
    Puts s id entry (s.change target id entry save accepted).2 := by
  obtain ⟨revision, pending, -, -, hafter⟩ := change_ok h
  rw [hafter]
  exact s.db.contents_replaceEntry id entry

theorem change_requests (h : (s.change target id entry true .revision).1 = .ok result) :
    Requests s result (s.change target id entry true .revision).2 := by
  obtain ⟨revision, pending, rfl, hsubmit, hafter⟩ := change_ok h
  rw [hafter]
  exact ⟨congrArg Accepted.revision hsubmit.revision, hsubmit.requested⟩

/-- A sighting at the port that is known already changes nothing. -/
theorem puts_same_port {info : PadInfo} {found : ControllerEntry}
    (hfound : s.db.get info = some found) (hport : found.lastUsbPort.text = info.usbPort) :
    Puts s (logicalId info) { found with lastUsbPort := .exact info.usbPort } s := by
  have hclone : ({ found with lastUsbPort := .exact info.usbPort } : ControllerEntry).clone =
      found.clone := by
    rw [← hport]
    rfl
  have hentry : s.db.contents (logicalId info) = some found.clone := congrArg _ hfound
  unfold Puts
  rw [hclone, ← hentry, Function.update_eq_self]

theorem claimExisting_done (info : PadInfo) (index : Nat)
    (h : (s.claimExisting target info index).1 = .ok result) :
    Done target s (.claimExisting info index) result (s.claimExisting target info index).2 := by
  unfold claimExisting at h ⊢
  split at h
  · cases h
  · rename_i id hid
    split at h
    · cases h
    · rename_i found hfound
      refine ⟨change_requests h, id, found, hid, hfound, ?_⟩
      have hputs := change_puts h
      unfold Puts at hputs ⊢
      rw [hputs]
      by_cases hname : found.kernelName.text = ""
      · rw [if_pos (show found.clone.kernelName.text = "" from hname), if_pos hname]
        rfl
      · rw [if_neg (show ¬ found.clone.kernelName.text = "" from hname), if_neg hname]
        rfl

/-- A sighting changes the entry only where the port is another one. -/
theorem noteSighting_done (info : PadInfo) (h : (s.noteSighting target info).1 = .ok result) :
    Done target s (.noteSighting info) result (s.noteSighting target info).2 := by
  unfold noteSighting at h ⊢
  cases hfound : s.db.get info with
  | none =>
      rw [hfound] at h
      exact ⟨rfl, .inl ⟨(Except.ok.inj h).symm, rfl⟩⟩
  | some found =>
      rw [hfound] at h
      dsimp only at h ⊢
      split at h
      · rename_i hmoved
        rw [if_pos hmoved]
        exact ⟨rfl, .inl ⟨(Except.ok.inj h).symm, rfl⟩⟩
      · rename_i hmoved
        rw [if_neg hmoved]
        split at h
        · rename_i hport
          rw [if_pos hport]
          exact ⟨rfl, .inr ⟨(Except.ok.inj h).symm, found, hfound, puts_same_port hfound hport⟩⟩
        · rename_i hport
          rw [if_neg hport]
          obtain ⟨revision, pending, hresult, hsubmit, hafter⟩ := change_ok h
          refine ⟨?_, .inr ⟨hresult, found, hfound, change_puts h⟩⟩
          rw [hafter]
          exact hsubmit.requested

theorem retry_done (h : s.retry.1 = .ok result) : Done target s .retry result s.retry.2 := by
  unfold PersistenceState.retry at h ⊢
  split at h
  · cases h
  · rename_i hopen
    rw [if_neg hopen]
    split at h
    · cases h
    · rename_i hroom
      rw [if_neg hroom]
      exact ⟨⟨(Except.ok.inj h).symm, rfl⟩, rfl⟩

/-- **An accepted call is done.** -/
theorem call_done (call : InputCall) (h : (s.call target call).1 = .ok result) :
    Done target s call result (s.call target call).2 := by
  cases call with
  | registerNew info labelCapacity => exact ⟨change_requests h, change_puts h⟩
  | claimExisting info index => exact claimExisting_done info index h
  | finishSetup info label kind => exact ⟨change_requests h, change_puts h⟩
  | noteSighting info => exact noteSighting_done info h
  | retry => exact retry_done h

end Calls

/-! ## 2. Changes of a run -/

/-- A call of a run that was accepted: it was made at `v`, and `after` followed it. -/
structure Change (target : Target) (s₀ : PersistenceState) (run : List PersistenceStep)
    (s v : PersistenceState) (call : InputCall) (after : List PersistenceStep) : Prop where
  before : ∃ before, run = before ++ (.call call :: after) ∧ (persistence target).Run s₀ before v
  accepted : ∃ accepted, (v.call target call).1 = .ok accepted
  rest : (persistence target).Run (v.call target call).2 after s

/-- The input side's entry stays what it is at `u`. -/
def Stays (target : Target) (u : PersistenceState) (after : List PersistenceStep) (id : String) :
    Prop :=
  ∀ mid w, mid <+: after → (persistence target).Run u mid w → w.db.contents id = u.db.contents id

/-- A registry has every change that was accepted before a save request, and not overwritten. -/
def Holds (target : Target) (s₀ : PersistenceState) (run : List PersistenceStep)
    (s : PersistenceState) (request : Nat) (registry : Registry) : Prop :=
  ∀ v call after id, Change target s₀ run s v call after → v.pending.status.requested < request →
    Stays target (v.call target call).2 after id →
      registry id = (v.call target call).2.db.contents id

section Runs

variable {target : Target} {s₀ s t v : PersistenceState} {run after : List PersistenceStep}
  {step : PersistenceStep} {call : InputCall} {request : Nat} {registry : Registry}

theorem persistence_deterministic : (persistence target).Deterministic := by
  intro s step t u ht hu
  cases step with
  | call call => exact ht.trans hu.symm
  | stop => exact ht.trans hu.symm
  | takeCompletion => exact ht.trans hu.symm
  | take => exact ht.2.2.trans hu.2.2.symm
  | apply =>
      obtain ⟨entries, save, revision, hphase, rfl⟩ := ht
      obtain ⟨entries', save', revision', hphase', rfl⟩ := hu
      cases hphase.symm.trans hphase'
      rfl
  | save error replaced =>
      obtain ⟨revision, hphase, rfl⟩ := ht
      obtain ⟨revision', hphase', rfl⟩ := hu
      cases hphase.symm.trans hphase'
      rfl
  | report =>
      obtain ⟨revision, error, hphase, rfl⟩ := ht
      obtain ⟨revision', error', hphase', rfl⟩ := hu
      cases hphase.symm.trans hphase'
      rfl
  | exit => exact ht.2.2.2.2.trans hu.2.2.2.2.symm

/-- The input side's registry and its save requests are left alone by all steps but its calls. -/
theorem step_of_not_call (hstep : (persistence target).step s step t)
    (hcall : ∀ call, step ≠ .call call) :
    t.db = s.db ∧ t.pending.status.requested = s.pending.status.requested := by
  cases step with
  | call call => exact absurd rfl (hcall call)
  | stop | takeCompletion =>
      subst hstep
      exact ⟨rfl, rfl⟩
  | take =>
      obtain ⟨-, -, rfl⟩ := hstep
      exact ⟨rfl, rfl⟩
  | apply =>
      obtain ⟨entries, save, revision, -, rfl⟩ := hstep
      exact ⟨rfl, rfl⟩
  | save error replaced =>
      obtain ⟨revision, -, rfl⟩ := hstep
      exact ⟨rfl, rfl⟩
  | report =>
      obtain ⟨revision, error, -, rfl⟩ := hstep
      cases error <;> exact ⟨rfl, rfl⟩
  | exit =>
      obtain ⟨-, -, -, -, rfl⟩ := hstep
      exact ⟨rfl, rfl⟩

/-- No step takes a save request back. -/
theorem requested_step (hstep : (persistence target).step s step t) :
    s.pending.status.requested ≤ t.pending.status.requested := by
  by_cases hcall : ∃ call, step = .call call
  · obtain ⟨call, rfl⟩ := hcall
    rw [show t = _ from hstep]
    exact (leavesWriter_call (call_spec (e := ⟨.other, ""⟩) s target call).1).requested
  · exact (step_of_not_call hstep fun call h => hcall ⟨call, h⟩).2.ge

theorem requested_run (hrun : (persistence target).Run s run t) :
    s.pending.status.requested ≤ t.pending.status.requested := by
  induction hrun with
  | nil => exact le_refl _
  | snoc _ hstep ih => exact ih.trans (requested_step hstep)

/-- Only a call changes the registry of the input side. -/
theorem stays_of_writer {u : PersistenceState} {id : String}
    (h : ∀ step ∈ after, ∀ call, step ≠ .call call) : Stays target u after id := by
  intro mid w hmid hrun
  have hcalls : ∀ step ∈ mid, ∀ call, step ≠ .call call := fun step hstep =>
    h step (hmid.subset hstep)
  clear hmid
  induction hrun with
  | nil => rfl
  | snoc _ hstep ih =>
      rw [(step_of_not_call hstep (hcalls _ (by simp))).1]
      exact ih fun step hmem => hcalls step (List.mem_append_left _ hmem)

/-- **A registry complete as of a save request has every change accepted before it.** -/
theorem Complete.holds (h : Complete target s₀ run s request registry) :
    Holds target s₀ run s request registry := by
  intro v call after id hchange hbefore hstays
  obtain ⟨m, ⟨first, rest, hrun, hfirst, hrest⟩, hrequest, rfl⟩ := h
  obtain ⟨before, hsplit, hv⟩ := hchange.before
  rcases List.append_eq_append_iff.1 (hrun.symm.trans hsplit) with
    ⟨mid, hmid, -⟩ | ⟨mid, hmid, hrest'⟩
  · -- the moment is no later than the call, so the request was not accepted yet
    rw [hmid] at hv
    obtain ⟨m', hm', hmv⟩ := hv.cut
    obtain rfl := hm'.unique persistence_deterministic hfirst
    exact absurd (requested_run hmv) (Nat.not_le_of_lt (Nat.lt_of_lt_of_le hbefore hrequest))
  · cases mid with
    | nil =>
        rw [List.append_nil] at hmid
        rw [hmid] at hfirst
        obtain rfl := hv.unique persistence_deterministic hfirst
        exact absurd hbefore (Nat.not_lt_of_le hrequest)
    | cons step mid =>
        obtain ⟨rfl, hafter⟩ := List.cons.inj hrest'
        rw [hmid, List.append_cons] at hfirst
        obtain ⟨u, hu, hum⟩ := hfirst.cut
        obtain rfl := hu.unique persistence_deterministic
          (hv.snoc (a := PersistenceStep.call call) rfl)
        exact hstays mid m ⟨rest, hafter.symm⟩ hum

end Runs

/-! ## 3. Every run -/

/-- **No controller change is lost, in every run.** The writer's registry with what is queued over
    it is the input side's. `committed` never decreases, and what is committed is on disk, complete
    as of a moment no earlier than the request, with every change accepted before it; so it is when
    `flush` or `shutdown` returns `Ok`. An accepted call has put its entry into the input side's
    registry and raised the save request to the revision it returns; a refused call changes
    nothing. The queue stays in its bounds, its bytes are those of its rows, and what a submit
    subtracts is part of them. -/
theorem no_change_lost (target : Target) {s₀ s : PersistenceState} {run : List PersistenceStep}
    (hinit : (persistence target).init s₀) (hrun : (persistence target).Run s₀ run s) :
    s.view = s.db.contents ∧
    (1 ≤ s.pending.status.committed → ∃ registry, s.file = some registry ∧
      Complete target s₀ run s s.pending.status.committed registry ∧
      Holds target s₀ run s s.pending.status.committed registry) ∧
    (∀ more t, (persistence target).Run s more t →
      s.pending.status.committed ≤ t.pending.status.committed ∧
      ∀ remaining, 1 ≤ s.pending.status.requested →
        t.pending.flush s.pending.status.requested remaining = some (.ok ()) →
        ∃ registry, t.file = some registry ∧
          Complete target s₀ (run ++ more) t s.pending.status.requested registry ∧
          Holds target s₀ (run ++ more) t s.pending.status.requested registry) ∧
    (∀ remaining, 1 ≤ s.pending.status.requested →
      s.pending.shutdown remaining = some (.ok ()) → ∃ registry, s.file = some registry ∧
        Complete target s₀ run s s.pending.status.requested registry ∧
        Holds target s₀ run s s.pending.status.requested registry) ∧
    (∀ call accepted, (s.call target call).1 = .ok accepted →
      Done target s call accepted (s.call target call).2) ∧
    (∀ call e, (s.call target call).1 = .error e → (s.call target call).2 = s) ∧
    s.pending.entries.keys.length ≤ MAX_PENDING_CONTROLLERS ∧
    s.pending.bytes ≤ MAX_PENDING_BYTES ∧
    s.pending.bytes = Table.sumOf s.pending.entries (QueuedEntry.charge target) ∧
    ∀ id, (s.pending.replaced target id).1 ≤ s.pending.bytes := by
  have hcaught := caught_run hinit hrun
  have haccounted := accounted_run hinit hrun
  refine ⟨hcaught.view, fun hpos => ?_, fun more t hmore => ⟨committed_run hinit hrun hmore,
    fun remaining hasked hflush => ?_⟩, fun remaining hasked hshutdown => ?_,
    fun call accepted => call_done call, fun call e => (call_spec s target call).2,
    haccounted.count, haccounted.bound, haccounted.bytes, replaced_le haccounted⟩
  · obtain ⟨registry, hfile, hcomplete⟩ := hcaught.disk hpos
    exact ⟨registry, hfile, hcomplete, hcomplete.holds⟩
  · obtain ⟨registry, hfile, hcomplete⟩ :=
      disk_of_flush (caught_run hinit (hrun.append hmore)) hasked hflush
    exact ⟨registry, hfile, hcomplete, hcomplete.holds⟩
  · obtain ⟨registry, hfile, hcomplete⟩ := disk_of_shutdown hcaught hasked hshutdown
    exact ⟨registry, hfile, hcomplete, hcomplete.holds⟩

def armTarget : Target := ⟨52, id⟩

def newPad : PadInfo := ⟨"Test Pad", "0x2563", "0x0575", "", "1-1.3", 13, 6⟩

def noControllers : PersistenceState := ⟨∅, .new, ∅, .waiting, none⟩

/-- A new controller, which the writer takes. -/
def registered : PersistenceState :=
  (noControllers.call armTarget (.registerNew newPad 0)).2.take

/-- Its setup is finished while the writer is about to save the first change. -/
def setupCall : InputCall := .finishSetup newPad ⟨"Left stick", 10⟩ .arcade

/-- Then `flush`, which waits for a second save, returns; and the file has the setup. -/
theorem no_change_lost_saved :
    ∃ t : PersistenceState, t.pending.flush 2 true = some (.ok ()) ∧ ∃ registry,
      t.file = some registry ∧
        (registry "2563:0575").map (fun entry => (entry.label.text, entry.setupComplete)) =
          some ("Left stick", true) := by
  have hstart : (persistence armTarget).Run noControllers [] noControllers := .nil
  have hcalled := hstart.snoc (a := PersistenceStep.call (.registerNew newPad 0)) rfl
  have htaken : (persistence armTarget).Run noControllers _ registered :=
    hcalled.snoc (a := PersistenceStep.take) ⟨rfl, .inr (by decide +kernel), rfl⟩
  have hasked := htaken.snoc (a := PersistenceStep.call setupCall) rfl
  -- the first save, and a second one
  have happlied := Machine.Run.one (M := persistence armTarget)
    (s := (registered.call armTarget setupCall).2) (a := PersistenceStep.apply) ⟨_, _, _, rfl, rfl⟩
  have hsaved := happlied.snoc (a := PersistenceStep.save none false) ⟨_, rfl, rfl⟩
  have hreported := hsaved.snoc (a := PersistenceStep.report) ⟨_, _, rfl, rfl⟩
  have hagain := hreported.snoc (a := PersistenceStep.take) ⟨rfl, .inr (by decide +kernel), rfl⟩
  have happlied' := hagain.snoc (a := PersistenceStep.apply) ⟨_, _, _, rfl, rfl⟩
  have hsaved' := happlied'.snoc (a := PersistenceStep.save none false) ⟨_, rfl, rfl⟩
  have hdone := hsaved'.snoc (a := PersistenceStep.report) ⟨_, _, rfl, rfl⟩
  obtain ⟨-, -, hflush, -⟩ := no_change_lost armTarget ⟨∅, none, rfl⟩ hasked
  obtain ⟨registry, hfile, -, hholds⟩ :=
    (hflush _ _ hdone).2 true (by decide +kernel) (by decide +kernel)
  have hchange : Change armTarget noControllers _ _ registered setupCall _ :=
    ⟨⟨_, (List.append_cons _ _ _).symm, htaken⟩, ⟨.revision 2, by decide +kernel⟩, hdone⟩
  have hentry := hholds registered setupCall _ "2563:0575" hchange (by decide +kernel)
    (stays_of_writer fun step hstep call => by
      rintro rfl
      simp at hstep)
  refine ⟨_, by decide +kernel, registry, hfile, ?_⟩
  rw [hentry]
  decide +kernel

end MisterMagik.Controllers
