/-
  File:      MisterMagik/Controllers/Persistence.lean
  Subject:   `ControllerPersistence`: the queue between the input side and the one writer of the
             registry's file (`controller-registry/src/persistence.rs`).

  A call of the input side is one step: it holds the queue's lock once. The writer takes the lock to
  take the queue and to report a save; between them it applies, and writes the file. A save that
  fails may have replaced the file already. A writer that panics is left out.

  * `submit`, `call` -- the input side; `PersistenceStep` -- with the writer's steps;
  * `Accounted` -- the queue's counters, over every run;
  * `Caught` -- what the writer has and what it still gets, over every run.
-/
import MisterMagik.Base.Machine
import MisterMagik.Controllers.Registry

namespace MisterMagik.Controllers

open MisterMagik.Base

/-! ## 1. The queue -/

/-- `size_of::<(String, ControllerEntry)>()` of the target, and `str::to_lowercase`. -/
structure Target where
  entrySize : Nat
  toLowercase : String → String

def MAX_PENDING_CONTROLLERS : Nat := 64

def MAX_PENDING_BYTES : Nat := 256 * 1024

def U64_MAX : Nat := 18446744073709551615

inductive ErrorKind where
  | invalidInput
  | notFound
  | brokenPipe
  | wouldBlock
  | timedOut
  | other
  deriving DecidableEq, Repr

structure IoError where
  kind : ErrorKind
  message : String
  deriving DecidableEq, Repr

structure SaveStatus where
  requested : Nat
  committed : Nat
  error : Option String
  failedRevision : Nat
  deriving DecidableEq, Repr

structure SaveCompletion where
  revision : Nat
  error : Option String
  deriving DecidableEq, Repr

/-- A row of the queue: the key it was inserted under first keeps its capacity. -/
structure QueuedEntry where
  keyCapacity : Nat
  entry : ControllerEntry
  deriving DecidableEq, Repr

structure Pending where
  entries : Table String QueuedEntry
  bytes : Nat
  save : Bool
  stopping : Bool
  exited : Bool
  status : SaveStatus
  completion : Option SaveCompletion

def Pending.new : Pending := ⟨∅, 0, false, false, false, ⟨0, 0, none, 0⟩, none⟩

def charge (target : Target) (idCapacity : Nat) (entry : ControllerEntry) : Nat :=
  target.entrySize + idCapacity + entry.label.capacity + entry.kernelName.capacity +
    entry.lastUsbPort.capacity

def QueuedEntry.charge (target : Target) (queued : QueuedEntry) : Nat :=
  Controllers.charge target queued.keyCapacity queued.entry

namespace Pending

/-- What the row of an id is charged, and the capacity of its key. -/
def replaced (pending : Pending) (target : Target) (id : Allocated) : Nat × Nat :=
  match pending.entries.lookup id.text with
  | some queued => (queued.charge target, queued.keyCapacity)
  | none => (0, id.capacity)

def submit (pending : Pending) (target : Target) (id : Allocated) (entry : ControllerEntry)
    (save : Bool) : Except IoError Nat × Pending :=
  if MAX_PENDING_BYTES < charge target id.capacity entry then
    (.error ⟨.invalidInput, "controller change exceeds persistence byte bound"⟩, pending)
  else
    let snapshot := entry.clone
    if pending.stopping || pending.exited then
      (.error ⟨.brokenPipe, "controller writer stopped"⟩, pending)
    else
      let old := (pending.replaced target id).1
      let keyCapacity := (pending.replaced target id).2
      let bytes := charge target keyCapacity snapshot
      if (pending.entries.lookup id.text = none ∧
            MAX_PENDING_CONTROLLERS ≤ pending.entries.keys.length) ∨
          MAX_PENDING_BYTES < pending.bytes - old + bytes then
        (.error ⟨.wouldBlock, "controller persistence queue is full"⟩, pending)
      else if save = true ∧ pending.status.requested = U64_MAX then
        (.error ⟨.other, "controller revision exhausted"⟩, pending)
      else
        let revision := if save then pending.status.requested + 1 else pending.status.requested
        let queued := { pending with
          bytes := pending.bytes - old + bytes
          entries := pending.entries.insert id.text ⟨keyCapacity, snapshot⟩ }
        if save then
          (.ok revision, { queued with
            status := { queued.status with requested := revision, error := none }
            save := true })
        else (.ok revision, queued)

/-- The loop of `flush`, once around; `remaining` when the deadline has not passed. -/
def flush (pending : Pending) (target : Nat) (remaining : Bool) : Option (Except IoError Unit) :=
  if target ≤ pending.status.committed then some (.ok ())
  else if target ≤ pending.status.failedRevision ∨ pending.exited then
    some (.error ⟨.other,
      pending.status.error.getD "controller writer exited before committing changes"⟩)
  else if remaining then none
  else some (.error ⟨.timedOut, "controller save remains pending"⟩)

/-- The loop of `shutdown`, once around, and its result. -/
def shutdown (pending : Pending) (remaining : Bool) : Option (Except IoError Unit) :=
  if pending.exited = false then
    if remaining then none
    else some (.error ⟨.timedOut, "controller shutdown has pending work"⟩)
  else if pending.status.requested ≤ pending.status.committed then some (.ok ())
  else some (.error ⟨.other,
    pending.status.error.getD "controller save failed during shutdown"⟩)

end Pending

/-! ## 2. The input side -/

/-- Where `run_owner` is. -/
inductive WriterPhase where
  | waiting
  | took (entries : Table String QueuedEntry) (save : Bool) (revision : Nat)
  | saving (revision : Nat)
  | saved (revision : Nat) (error : Option String)
  | exited

structure PersistenceState where
  /-- The registry of the input side. -/
  db : ControllerDb
  pending : Pending
  /-- The registry of the writer. -/
  writerDb : ControllerDb
  phase : WriterPhase
  /-- What the file says. -/
  file : Option Registry

inductive InputCall where
  | registerNew (info : PadInfo) (labelCapacity : Nat)
  | claimExisting (info : PadInfo) (index : Nat)
  | finishSetup (info : PadInfo) (label : Allocated) (kind : ControllerKind)
  | noteSighting (info : PadInfo)
  | retry
  deriving DecidableEq

/-- What a call that is not refused returns. -/
inductive Accepted where
  | revision (revision : Nat)
  | sighted (known : Bool)
  deriving DecidableEq, Repr

namespace PersistenceState

/-- `submit(id.clone(), &entry, save)?; db.replace_entry(id, entry)`. -/
def change (s : PersistenceState) (target : Target) (id : String) (entry : ControllerEntry)
    (save : Bool) (accepted : Nat → Accepted) : Except IoError Accepted × PersistenceState :=
  match s.pending.submit target (.exact id) entry save with
  | (.ok revision, pending) =>
      (.ok (accepted revision), { s with pending, db := s.db.replaceEntry id entry })
  | (.error e, pending) => (.error e, { s with pending })

def registerNew (s : PersistenceState) (target : Target) (info : PadInfo) (labelCapacity : Nat) :
    Except IoError Accepted × PersistenceState :=
  s.change target (logicalId info) (defaultEntry info labelCapacity) true .revision

def claimExisting (s : PersistenceState) (target : Target) (info : PadInfo) (index : Nat) :
    Except IoError Accepted × PersistenceState :=
  match s.db.listEntryId target.toLowercase index with
  | none => (.error ⟨.invalidInput, "list index out of range"⟩, s)
  | some id =>
      match s.db.lookup id with
      | none => (.error ⟨.notFound, "controller entry disappeared"⟩, s)
      | some found =>
          let entry := { found.clone with lastUsbPort := .exact info.usbPort }
          let entry :=
            if entry.kernelName.text = "" then { entry with kernelName := .exact info.name }
            else entry
          s.change target id entry true .revision

/-- The default entry's label is replaced, whatever it allocated. -/
def finishSetup (s : PersistenceState) (target : Target) (info : PadInfo) (label : Allocated)
    (kind : ControllerKind) : Except IoError Accepted × PersistenceState :=
  let entry := ((s.db.get info).map ControllerEntry.clone).getD (defaultEntry info 0)
  s.change target (logicalId info)
    { entry with
      label
      kind
      kernelName := .exact info.name
      setupComplete := true
      lastUsbPort := .exact info.usbPort } true .revision

def noteSighting (s : PersistenceState) (target : Target) (info : PadInfo) :
    Except IoError Accepted × PersistenceState :=
  match s.db.get info with
  | none => (.ok (.sighted false), s)
  | some entry =>
      if entry.setupComplete && s.db.portChanged info then (.ok (.sighted false), s)
      else if entry.lastUsbPort.text = info.usbPort then (.ok (.sighted true), s)
      else
        s.change target (logicalId info)
          { entry.clone with lastUsbPort := .exact info.usbPort } false fun _ => .sighted true

def retry (s : PersistenceState) : Except IoError Accepted × PersistenceState :=
  if s.pending.stopping || s.pending.exited then
    (.error ⟨.brokenPipe, "controller writer stopped"⟩, s)
  else if s.pending.status.requested = U64_MAX then
    (.error ⟨.other, "controller revision exhausted"⟩, s)
  else
    let revision := s.pending.status.requested + 1
    (.ok (.revision revision), { s with pending := { s.pending with
      status := { s.pending.status with requested := revision, error := none }
      save := true } })

def call (s : PersistenceState) (target : Target) :
    InputCall → Except IoError Accepted × PersistenceState
  | .registerNew info labelCapacity => s.registerNew target info labelCapacity
  | .claimExisting info index => s.claimExisting target info index
  | .finishSetup info label kind => s.finishSetup target info label kind
  | .noteSighting info => s.noteSighting target info
  | .retry => s.retry

/-! ## 3. The writer -/

/-- `for (id, entry) in entries { db.replace_entry(id, entry) }`. -/
def applied (db : ControllerDb) (entries : Table String QueuedEntry) : ControllerDb :=
  Table.insertAll db ((Table.pairs entries).map fun row => (row.1, row.2.entry))

/-- The writer takes the queue. -/
def take (s : PersistenceState) : PersistenceState :=
  { s with
    pending := { s.pending with entries := ∅, bytes := 0, save := false }
    phase := .took s.pending.entries s.pending.save s.pending.status.requested }

/-- The save's result is reported. -/
def report (s : PersistenceState) (revision : Nat) (error : Option String) : PersistenceState :=
  { s with
    phase := .waiting
    pending := { s.pending with
      completion := some ⟨revision, error⟩
      status :=
        match error with
        | none => { s.pending.status with
            committed := revision, failedRevision := 0, error := none }
        | some _ => { s.pending.status with failedRevision := revision, error } } }

end PersistenceState

inductive PersistenceStep where
  | call (call : InputCall)
  | stop
  | takeCompletion
  | take
  | apply
  /-- The file is written, or not; one that fails may have replaced it. -/
  | save (error : Option String) (replaced : Bool)
  | report
  | exit
  deriving DecidableEq

open PersistenceState

def persistence (target : Target) : Machine PersistenceState PersistenceStep where
  init s := ∃ db file, s = ⟨db, .new, db, .waiting, file⟩
  step s step t :=
    match step with
    | .call call => t = (s.call target call).2
    | .stop => t = { s with pending := { s.pending with stopping := true } }
    | .takeCompletion => t = { s with pending := { s.pending with completion := none } }
    | .take => s.phase = .waiting ∧ (s.pending.entries ≠ ∅ ∨ s.pending.save = true) ∧ t = s.take
    | .apply => ∃ entries save revision, s.phase = .took entries save revision ∧
        t = { s with
          writerDb := applied s.writerDb entries
          phase := if save then .saving revision else .waiting }
    | .save error replaced => ∃ revision, s.phase = .saving revision ∧
        t = { s with
          phase := .saved revision error
          file := if error = none ∨ replaced = true then some s.writerDb.contents else s.file }
    | .report => ∃ revision error, s.phase = .saved revision error ∧ t = s.report revision error
    | .exit => s.phase = .waiting ∧ s.pending.entries = ∅ ∧ s.pending.save = false ∧
        s.pending.stopping = true ∧
        t = { s with phase := .exited, pending := { s.pending with exited := true } }

/-! ## 4. What a call does -/

section Calls

variable {target : Target} {pending pending' : Pending} {id : Allocated} {entry : ControllerEntry}
  {save : Bool} {s : PersistenceState} {e : IoError} {revision : Nat}

/-- A submit that was not refused. -/
structure Submitted (target : Target) (pending : Pending) (id : Allocated) (entry : ControllerEntry)
    (save : Bool) (revision : Nat) (pending' : Pending) : Prop where
  room : pending.entries.lookup id.text = none →
    pending.entries.keys.length < MAX_PENDING_CONTROLLERS
  fits : pending'.bytes ≤ MAX_PENDING_BYTES
  bytes : pending'.bytes = pending.bytes - (pending.replaced target id).1 +
    charge target (pending.replaced target id).2 entry.clone
  entries : pending'.entries =
    pending.entries.insert id.text ⟨(pending.replaced target id).2, entry.clone⟩
  requested : pending'.status.requested =
    if save then pending.status.requested + 1 else pending.status.requested
  committed : pending'.status.committed = pending.status.committed
  revision : revision = pending'.status.requested

theorem submit_ok (h : pending.submit target id entry save = (.ok revision, pending')) :
    Submitted target pending id entry save revision pending' := by
  unfold Pending.submit at h
  split at h
  · cases h
  · dsimp only at h
    split at h
    · cases h
    · split at h
      · cases h
      · rename_i hroom
        rw [not_or, not_and, Nat.not_le, Nat.not_lt] at hroom
        split at h
        · cases h
        · cases save with
          | true =>
              cases h
              exact ⟨hroom.1, hroom.2, rfl, rfl, rfl, rfl, rfl⟩
          | false =>
              cases h
              exact ⟨hroom.1, hroom.2, rfl, rfl, rfl, rfl, rfl⟩

theorem submit_error (h : pending.submit target id entry save = (.error e, pending')) :
    pending' = pending := by
  unfold Pending.submit at h
  split at h
  · cases h
    rfl
  · dsimp only at h
    split at h
    · cases h
      rfl
    · split at h
      · cases h
        rfl
      · split at h
        · cases h
          rfl
        · split at h <;> cases h

/-- What a call that is not refused may do. -/
inductive CallMove (target : Target) (s : PersistenceState) : PersistenceState → Prop where
  | kept : CallMove target s s
  | changed (id : String) (entry : ControllerEntry) (save : Bool) (revision : Nat)
      (pending : Pending) (h : Submitted target s.pending (.exact id) entry save revision pending) :
      CallMove target s { s with pending, db := s.db.replaceEntry id entry }
  | retried : CallMove target s { s with pending := { s.pending with
      status := { s.pending.status with requested := s.pending.status.requested + 1, error := none }
      save := true } }

/-- **A change is queued and made, or refused and nothing is.** -/
theorem change_spec (s : PersistenceState) (target : Target) (id : String)
    (entry : ControllerEntry) (save : Bool) (accepted : Nat → Accepted) :
    CallMove target s (s.change target id entry save accepted).2 ∧
    ((s.change target id entry save accepted).1 = .error e →
      (s.change target id entry save accepted).2 = s) := by
  unfold change
  split
  · rename_i revision pending h
    exact ⟨.changed id entry save revision pending (submit_ok h), fun hok => nomatch hok⟩
  · rename_i e' pending h
    rw [submit_error h]
    exact ⟨.kept, fun _ => rfl⟩

theorem call_spec (s : PersistenceState) (target : Target) (call : InputCall) :
    CallMove target s (s.call target call).2 ∧
      ((s.call target call).1 = .error e → (s.call target call).2 = s) := by
  cases call with
  | registerNew info labelCapacity => exact change_spec s target _ _ _ _
  | claimExisting info index =>
      simp only [PersistenceState.call, claimExisting]
      split
      · exact ⟨.kept, fun _ => rfl⟩
      · split
        · exact ⟨.kept, fun _ => rfl⟩
        · exact change_spec s target _ _ _ _
  | finishSetup info label kind => exact change_spec s target _ _ _ _
  | noteSighting info =>
      simp only [PersistenceState.call, noteSighting]
      split
      · exact ⟨.kept, fun _ => rfl⟩
      · split
        · exact ⟨.kept, fun _ => rfl⟩
        · split
          · exact ⟨.kept, fun _ => rfl⟩
          · exact change_spec s target _ _ _ _
  | retry =>
      simp only [PersistenceState.call, retry]
      split
      · exact ⟨.kept, fun _ => rfl⟩
      · split
        · exact ⟨.kept, fun _ => rfl⟩
        · exact ⟨.retried, fun hok => nomatch hok⟩

end Calls

/-! ## 5. The queue's counters -/

/-- The queue within its bounds, its bytes those of its rows. -/
structure Accounted (target : Target) (pending : Pending) : Prop where
  count : pending.entries.keys.length ≤ MAX_PENDING_CONTROLLERS
  bound : pending.bytes ≤ MAX_PENDING_BYTES
  bytes : pending.bytes = Table.sumOf pending.entries (QueuedEntry.charge target)

section Counters

variable {target : Target} {pending pending' : Pending} {id : Allocated} {entry : ControllerEntry}
  {save : Bool} {revision : Nat}

/-- What is subtracted is part of the sum. -/
theorem replaced_le (h : Accounted target pending) (id : Allocated) :
    (pending.replaced target id).1 ≤ pending.bytes := by
  rw [h.bytes]
  unfold Pending.replaced
  split
  · rename_i queued hqueued
    exact Table.le_sumOf hqueued (QueuedEntry.charge target)
  · exact Nat.zero_le _

theorem accounted_submit (h : Accounted target pending)
    (hsubmit : Submitted target pending id entry save revision pending') :
    Accounted target pending' := by
  have hold := replaced_le h id
  refine ⟨?_, hsubmit.fits, ?_⟩
  · rw [hsubmit.entries, AList.keys_insert, List.length_cons]
    cases hlook : pending.entries.lookup id.text with
    | none =>
        have hroom := hsubmit.room hlook
        have herase := List.length_erase_le (a := id.text) (l := pending.entries.keys)
        omega
    | some queued =>
        have hkey : id.text ∈ pending.entries.keys :=
          AList.mem_keys.1 (Table.mem_of_lookup hlook)
        have hpos := List.length_pos_of_mem hkey
        have hcount := h.count
        rw [List.length_erase_of_mem hkey]
        omega
  · rw [hsubmit.bytes, hsubmit.entries]
    cases hlook : pending.entries.lookup id.text with
    | none =>
        have hnone : pending.replaced target id = (0, id.capacity) := by
          unfold Pending.replaced
          rw [hlook]
        rw [Table.sumOf_insert_new hlook, hnone, ← h.bytes]
        rfl
    | some queued =>
        have hsome : pending.replaced target id = (queued.charge target, queued.keyCapacity) := by
          unfold Pending.replaced
          rw [hlook]
        have hsum := Table.sumOf_insert_old hlook ⟨queued.keyCapacity, entry.clone⟩
          (QueuedEntry.charge target)
        have hnew : QueuedEntry.charge target ⟨queued.keyCapacity, entry.clone⟩ =
            charge target queued.keyCapacity entry.clone := rfl
        rw [hsome] at hold ⊢
        dsimp only at hold ⊢
        rw [← h.bytes, hnew] at hsum
        omega

end Counters

/-! ## 6. What the writer has, and what it still gets -/

/-- A registry with rows of a queue over it. -/
def overlay (entries : Table String QueuedEntry) (registry : Registry) : Registry := fun id =>
  ((entries.lookup id).map fun queued => queued.entry.clone).or (registry id)

/-- What the writer took and has not applied. -/
def WriterPhase.taken : WriterPhase → Table String QueuedEntry
  | .took entries _ _ => entries
  | _ => ∅

/-- The revision being saved. -/
def WriterPhase.revision : WriterPhase → Option Nat
  | .took _ _ revision | .saving revision | .saved revision _ => some revision
  | _ => none

/-- The writer's registry with everything queued over it. -/
def PersistenceState.view (s : PersistenceState) : Registry :=
  overlay s.pending.entries (overlay s.phase.taken s.writerDb.contents)

section Overlays

variable {entries : Table String QueuedEntry} {registry : Registry}

theorem overlay_insert (entries : Table String QueuedEntry) (id : String) (queued : QueuedEntry)
    (registry : Registry) : overlay (entries.insert id queued) registry =
      Function.update (overlay entries registry) id (some queued.entry.clone) := by
  funext id'
  unfold overlay
  by_cases h : id' = id
  · subst h
    rw [AList.lookup_insert, Function.update_self]
    rfl
  · rw [AList.lookup_insert_ne h, Function.update_of_ne h]

theorem contents_applied (db : ControllerDb) (entries : Table String QueuedEntry) :
    (applied db entries).contents = overlay entries db.contents := by
  funext id
  unfold ControllerDb.contents applied overlay
  rw [Table.lookup_insertAll_pairs, Option.map_or, Option.map_map]
  rfl

end Overlays

/-- A moment of a run: a state it went through. -/
def Moment (target : Target) (s₀ : PersistenceState) (run : List PersistenceStep)
    (s u : PersistenceState) : Prop :=
  ∃ before after, run = before ++ after ∧ (persistence target).Run s₀ before u ∧
    (persistence target).Run u after s

/-- A registry is the input side's, complete, at a moment no earlier than when a save request was
    accepted. -/
def Complete (target : Target) (s₀ : PersistenceState) (run : List PersistenceStep)
    (s : PersistenceState) (request : Nat) (registry : Registry) : Prop :=
  ∃ u, Moment target s₀ run s u ∧ request ≤ u.pending.status.requested ∧
    registry = u.db.contents

/-- What the writer is about to say or has said was the input side's registry. -/
structure Caught (target : Target) (s₀ : PersistenceState) (run : List PersistenceStep)
    (s : PersistenceState) : Prop where
  view : s.view = s.db.contents
  committed : s.pending.status.committed ≤ s.pending.status.requested
  revision : ∀ revision, s.phase.revision = some revision →
    s.pending.status.committed ≤ revision ∧ revision ≤ s.pending.status.requested
  took : ∀ entries save revision, s.phase = .took entries save revision →
    Complete target s₀ run s revision (overlay entries s.writerDb.contents)
  saving : ∀ revision, s.phase = .saving revision →
    Complete target s₀ run s revision s.writerDb.contents
  saved : ∀ revision, s.phase = .saved revision none →
    ∃ registry, s.file = some registry ∧ Complete target s₀ run s revision registry
  disk : 1 ≤ s.pending.status.committed → ∃ registry, s.file = some registry ∧
    Complete target s₀ run s s.pending.status.committed registry

section Runs

variable {target : Target} {s₀ s t u : PersistenceState} {run : List PersistenceStep}
  {step : PersistenceStep} {request request' : Nat} {registry : Registry}

theorem Moment.snoc (h : Moment target s₀ run s u) (hstep : (persistence target).step s step t) :
    Moment target s₀ (run ++ [step]) t u := by
  obtain ⟨before, after, rfl, hbefore, hafter⟩ := h
  exact ⟨before, after ++ [step], List.append_assoc .., hbefore, hafter.snoc hstep⟩

theorem Complete.snoc (h : Complete target s₀ run s request registry)
    (hstep : (persistence target).step s step t) :
    Complete target s₀ (run ++ [step]) t request registry := by
  obtain ⟨u, hu, hrequest, hregistry⟩ := h
  exact ⟨u, hu.snoc hstep, hrequest, hregistry⟩

theorem Complete.earlier (h : Complete target s₀ run s request registry)
    (hle : request' ≤ request) :
    Complete target s₀ run s request' registry := by
  obtain ⟨u, hu, hrequest, hregistry⟩ := h
  exact ⟨u, hu, hle.trans hrequest, hregistry⟩

/-- Now is a moment. -/
theorem Complete.now (hrun : (persistence target).Run s₀ run s)
    (hrequest : request ≤ s.pending.status.requested) :
    Complete target s₀ run s request s.db.contents :=
  ⟨s, ⟨run, [], (List.append_nil run).symm, hrun, .nil⟩, hrequest, rfl⟩

/-- What a step leaves of the writer's side. -/
structure LeavesWriter (s t : PersistenceState) : Prop where
  phase : t.phase = s.phase
  writerDb : t.writerDb = s.writerDb
  file : t.file = s.file
  requested : s.pending.status.requested ≤ t.pending.status.requested
  committed : t.pending.status.committed = s.pending.status.committed

/-- A step of the input side. -/
theorem caught_input (h : Caught target s₀ run s) (hstep : (persistence target).step s step t)
    (hleaves : LeavesWriter s t) (hview : t.view = t.db.contents) :
    Caught target s₀ (run ++ [step]) t := by
  refine ⟨hview, ?_, ?_, ?_, ?_, ?_, ?_⟩
  · rw [hleaves.committed]
    exact h.committed.trans hleaves.requested
  · intro revision hrevision
    rw [hleaves.phase] at hrevision
    rw [hleaves.committed]
    exact ⟨(h.revision revision hrevision).1,
      (h.revision revision hrevision).2.trans hleaves.requested⟩
  · intro entries save revision hphase
    rw [hleaves.phase] at hphase
    rw [hleaves.writerDb]
    exact (h.took entries save revision hphase).snoc hstep
  · intro revision hphase
    rw [hleaves.phase] at hphase
    rw [hleaves.writerDb]
    exact (h.saving revision hphase).snoc hstep
  · intro revision hphase
    rw [hleaves.phase] at hphase
    rw [hleaves.file]
    obtain ⟨registry, hfile, hcomplete⟩ := h.saved revision hphase
    exact ⟨registry, hfile, hcomplete.snoc hstep⟩
  · rw [hleaves.committed, hleaves.file]
    intro hpos
    obtain ⟨registry, hfile, hcomplete⟩ := h.disk hpos
    exact ⟨registry, hfile, hcomplete.snoc hstep⟩

theorem leavesWriter_call (h : CallMove target s t) : LeavesWriter s t := by
  cases h with
  | kept => exact ⟨rfl, rfl, rfl, le_refl _, rfl⟩
  | changed id entry save revision pending hsubmit =>
      refine ⟨rfl, rfl, rfl, ?_, hsubmit.committed⟩
      have hrequested := hsubmit.requested
      dsimp only
      rw [hrequested]
      split
      · exact Nat.le_succ _
      · exact le_refl _
  | retried => exact ⟨rfl, rfl, rfl, Nat.le_succ _, rfl⟩

theorem view_call (h : CallMove target s t) (hview : s.view = s.db.contents) :
    t.view = t.db.contents := by
  cases h with
  | kept => exact hview
  | changed id entry save revision pending hsubmit =>
      have hentries := hsubmit.entries
      unfold PersistenceState.view at hview ⊢
      dsimp only
      rw [hentries, overlay_insert, ControllerDb.contents_replaceEntry, hview]
      rfl
  | retried => exact hview

/-- The queue is taken: what the writer will have is the input side's registry now. -/
theorem caught_take (h : Caught target s₀ run s) (hrun : (persistence target).Run s₀ run s)
    (hphase : s.phase = .waiting) (hstep : (persistence target).step s step s.take) :
    Caught target s₀ (run ++ [step]) s.take := by
  have hview : overlay s.pending.entries s.writerDb.contents = s.db.contents := by
    have hview := h.view
    unfold PersistenceState.view at hview
    rwa [hphase] at hview
  refine ⟨hview, h.committed, ?_, ?_, ?_, ?_, ?_⟩
  · rintro revision ⟨⟩
    exact ⟨h.committed, le_refl _⟩
  · rintro entries save revision ⟨⟩
    have hnow := Complete.now hrun (le_refl s.pending.status.requested)
    rw [← hview] at hnow
    exact hnow.snoc hstep
  · rintro revision ⟨⟩
  · rintro revision ⟨⟩
  · intro hpos
    obtain ⟨registry, hfile, hcomplete⟩ := h.disk hpos
    exact ⟨registry, hfile, hcomplete.snoc hstep⟩

theorem caught_apply {entries : Table String QueuedEntry} {save : Bool} {revision : Nat}
    (h : Caught target s₀ run s) (hphase : s.phase = .took entries save revision)
    (ht : t = { s with
      writerDb := applied s.writerDb entries
      phase := if save then .saving revision else .waiting })
    (hstep : (persistence target).step s step t) : Caught target s₀ (run ++ [step]) t := by
  have hrevision := h.revision revision (by rw [hphase]; rfl)
  have htook := h.took entries save revision hphase
  have hview := h.view
  unfold PersistenceState.view at hview
  rw [hphase] at hview
  subst ht
  refine ⟨?_, h.committed, ?_, ?_, ?_, ?_, ?_⟩
  · unfold PersistenceState.view
    dsimp only
    rw [contents_applied]
    cases save <;> exact hview
  · intro revision' hsome
    cases save with
    | true =>
        cases hsome
        exact hrevision
    | false => cases hsome
  · intro entries' save' revision' htaken
    cases save <;> cases htaken
  · intro revision' hsaving
    cases save with
    | true =>
        cases hsaving
        dsimp only
        rw [contents_applied]
        exact htook.snoc hstep
    | false => cases hsaving
  · intro revision' hsaved
    cases save <;> cases hsaved
  · intro hpos
    obtain ⟨registry, hfile, hcomplete⟩ := h.disk hpos
    exact ⟨registry, hfile, hcomplete.snoc hstep⟩

theorem caught_save {error : Option String} {replaced : Bool} {revision : Nat}
    (h : Caught target s₀ run s) (hphase : s.phase = .saving revision)
    (ht : t = { s with
      phase := .saved revision error
      file := if error = none ∨ replaced = true then some s.writerDb.contents else s.file })
    (hstep : (persistence target).step s step t) : Caught target s₀ (run ++ [step]) t := by
  have hrevision := h.revision revision (by rw [hphase]; rfl)
  have hsaving := h.saving revision hphase
  have hview := h.view
  unfold PersistenceState.view at hview
  rw [hphase] at hview
  subst ht
  refine ⟨hview, h.committed, ?_, ?_, ?_, ?_, ?_⟩
  · rintro revision' ⟨⟩
    exact hrevision
  · rintro entries save revision' ⟨⟩
  · rintro revision' ⟨⟩
  · rintro revision' hsaved
    cases hsaved
    have hwritten : (if (none : Option String) = none ∨ replaced = true then
        some s.writerDb.contents else s.file) = some s.writerDb.contents := if_pos (.inl rfl)
    exact ⟨_, hwritten, hsaving.snoc hstep⟩
  · intro hpos
    by_cases hreplaced : error = none ∨ replaced = true
    · exact ⟨_, if_pos hreplaced, (hsaving.snoc hstep).earlier hrevision.1⟩
    · obtain ⟨registry, hfile, hcomplete⟩ := h.disk hpos
      exact ⟨registry, (if_neg hreplaced).trans hfile, hcomplete.snoc hstep⟩

theorem caught_report {error : Option String} {revision : Nat} (h : Caught target s₀ run s)
    (hphase : s.phase = .saved revision error) (ht : t = s.report revision error)
    (hstep : (persistence target).step s step t) : Caught target s₀ (run ++ [step]) t := by
  have hrevision := h.revision revision (by rw [hphase]; rfl)
  have hview := h.view
  unfold PersistenceState.view at hview
  rw [hphase] at hview
  subst ht
  refine ⟨hview, ?_, ?_, ?_, ?_, ?_, ?_⟩
  · cases error with
    | none => exact hrevision.2
    | some _ => exact h.committed
  · rintro revision' ⟨⟩
  · rintro entries save revision' ⟨⟩
  · rintro revision' ⟨⟩
  · rintro revision' ⟨⟩
  · intro hpos
    cases error with
    | none =>
        obtain ⟨registry, hfile, hcomplete⟩ := h.saved revision hphase
        exact ⟨registry, hfile, hcomplete.snoc hstep⟩
    | some _ =>
        obtain ⟨registry, hfile, hcomplete⟩ := h.disk hpos
        exact ⟨registry, hfile, hcomplete.snoc hstep⟩

theorem caught_exit (h : Caught target s₀ run s) (hphase : s.phase = .waiting)
    (ht : t = { s with phase := .exited, pending := { s.pending with exited := true } })
    (hstep : (persistence target).step s step t) : Caught target s₀ (run ++ [step]) t := by
  have hview := h.view
  unfold PersistenceState.view at hview
  rw [hphase] at hview
  subst ht
  refine ⟨hview, h.committed, ?_, ?_, ?_, ?_, ?_⟩
  · rintro revision' ⟨⟩
  · rintro entries save revision' ⟨⟩
  · rintro revision' ⟨⟩
  · rintro revision' ⟨⟩
  · intro hpos
    obtain ⟨registry, hfile, hcomplete⟩ := h.disk hpos
    exact ⟨registry, hfile, hcomplete.snoc hstep⟩

theorem caught_step (h : Caught target s₀ run s) (hrun : (persistence target).Run s₀ run s)
    (hstep : (persistence target).step s step t) : Caught target s₀ (run ++ [step]) t := by
  have hstep' := hstep
  cases step with
  | call call =>
      subst hstep
      have hmove := (call_spec (e := ⟨.other, ""⟩) s target call).1
      exact caught_input h hstep' (leavesWriter_call hmove) (view_call hmove h.view)
  | stop | takeCompletion =>
      subst hstep
      exact caught_input h hstep' ⟨rfl, rfl, rfl, le_refl _, rfl⟩ h.view
  | take =>
      obtain ⟨hphase, -, rfl⟩ := hstep
      exact caught_take h hrun hphase hstep'
  | apply =>
      obtain ⟨entries, save, revision, hphase, ht⟩ := hstep
      exact caught_apply h hphase ht hstep'
  | save error replaced =>
      obtain ⟨revision, hphase, ht⟩ := hstep
      exact caught_save h hphase ht hstep'
  | report =>
      obtain ⟨revision, error, hphase, ht⟩ := hstep
      exact caught_report h hphase ht hstep'
  | exit =>
      obtain ⟨hphase, -, -, -, ht⟩ := hstep
      exact caught_exit h hphase ht hstep'

theorem caught_run (hinit : (persistence target).init s₀)
    (hrun : (persistence target).Run s₀ run s) : Caught target s₀ run s := by
  induction hrun with
  | nil =>
      obtain ⟨db, file, rfl⟩ := hinit
      refine ⟨rfl, le_refl _, ?_, ?_, ?_, ?_, fun hpos => absurd hpos (Nat.not_succ_le_zero 0)⟩
      · rintro revision ⟨⟩
      · rintro entries save revision ⟨⟩
      · rintro revision ⟨⟩
      · rintro revision ⟨⟩
  | snoc hrun hstep ih => exact caught_step ih hrun hstep

theorem accounted_step (h : Accounted target s.pending)
    (hstep : (persistence target).step s step t) : Accounted target t.pending := by
  cases step with
  | call call =>
      subst hstep
      have hmove := (call_spec (e := ⟨.other, ""⟩) s target call).1
      generalize (s.call target call).2 = t at hmove
      cases hmove with
      | kept => exact h
      | changed id entry save revision pending hsubmit => exact accounted_submit h hsubmit
      | retried => exact ⟨h.count, h.bound, h.bytes⟩
  | stop | takeCompletion =>
      subst hstep
      exact ⟨h.count, h.bound, h.bytes⟩
  | take =>
      obtain ⟨-, -, rfl⟩ := hstep
      exact ⟨Nat.zero_le _, Nat.zero_le _, rfl⟩
  | apply =>
      obtain ⟨entries, save, revision, -, rfl⟩ := hstep
      exact h
  | save error replaced =>
      obtain ⟨revision, -, rfl⟩ := hstep
      exact h
  | report =>
      obtain ⟨revision, error, -, rfl⟩ := hstep
      exact ⟨h.count, h.bound, h.bytes⟩
  | exit =>
      obtain ⟨-, -, -, -, rfl⟩ := hstep
      exact ⟨h.count, h.bound, h.bytes⟩

theorem accounted_run (hinit : (persistence target).init s₀)
    (hrun : (persistence target).Run s₀ run s) : Accounted target s.pending := by
  obtain ⟨db, file, rfl⟩ := hinit
  exact hrun.invariant (P := fun s => Accounted target s.pending)
    (fun _ _ _ h hstep => accounted_step h hstep) ⟨Nat.zero_le _, Nat.zero_le _, rfl⟩

theorem committed_step (h : Caught target s₀ run s) (hstep : (persistence target).step s step t) :
    s.pending.status.committed ≤ t.pending.status.committed := by
  cases step with
  | call call =>
      subst hstep
      exact (leavesWriter_call (call_spec (e := ⟨.other, ""⟩) s target call).1).committed.ge
  | stop | takeCompletion =>
      subst hstep
      exact le_refl _
  | take =>
      obtain ⟨-, -, rfl⟩ := hstep
      exact le_refl _
  | apply =>
      obtain ⟨entries, save, revision, -, rfl⟩ := hstep
      exact le_refl _
  | save error replaced =>
      obtain ⟨revision, -, rfl⟩ := hstep
      exact le_refl _
  | report =>
      obtain ⟨revision, error, hphase, rfl⟩ := hstep
      cases error with
      | none => exact (h.revision revision (by rw [hphase]; rfl)).1
      | some _ => exact le_refl _
  | exit =>
      obtain ⟨-, -, -, -, rfl⟩ := hstep
      exact le_refl _

/-- `committed` never decreases. -/
theorem committed_run {more : List PersistenceStep} (hinit : (persistence target).init s₀)
    (hrun : (persistence target).Run s₀ run s) (hmore : (persistence target).Run s more t) :
    s.pending.status.committed ≤ t.pending.status.committed := by
  induction hmore with
  | nil => exact le_refl _
  | snoc hmore hstep ih =>
      exact ih.trans (committed_step (caught_run hinit (hrun.append hmore)) hstep)

theorem disk_of_flush {asked : Nat} {remaining : Bool} (h : Caught target s₀ run s)
    (hasked : 1 ≤ asked) (hflush : s.pending.flush asked remaining = some (.ok ())) :
    ∃ registry, s.file = some registry ∧ Complete target s₀ run s asked registry := by
  have hcommitted : asked ≤ s.pending.status.committed := by
    unfold Pending.flush at hflush
    split at hflush
    · assumption
    · split at hflush
      · cases hflush
      · split at hflush <;> cases hflush
  obtain ⟨registry, hfile, hcomplete⟩ := h.disk (hasked.trans hcommitted)
  exact ⟨registry, hfile, hcomplete.earlier hcommitted⟩

theorem disk_of_shutdown {remaining : Bool} (h : Caught target s₀ run s)
    (hasked : 1 ≤ s.pending.status.requested)
    (hshutdown : s.pending.shutdown remaining = some (.ok ())) :
    ∃ registry, s.file = some registry ∧
      Complete target s₀ run s s.pending.status.requested registry := by
  have hcommitted : s.pending.status.requested ≤ s.pending.status.committed := by
    unfold Pending.shutdown at hshutdown
    split at hshutdown
    · split at hshutdown <;> cases hshutdown
    · split at hshutdown
      · assumption
      · cases hshutdown
  obtain ⟨registry, hfile, hcomplete⟩ := h.disk (hasked.trans hcommitted)
  exact ⟨registry, hfile, hcomplete.earlier hcommitted⟩

end Runs

end MisterMagik.Controllers
