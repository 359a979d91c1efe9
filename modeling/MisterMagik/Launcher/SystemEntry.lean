/-
  File:      MisterMagik/Launcher/SystemEntry.lean
  Subject:   System entry: requests, the worker that prepares one at a time, and what is delivered
             (`ui_runner/launcher_scheduler.rs`).

  What a request carries besides its id is passed through and left out, and so is what was prepared:
  the worker answers with an error or without. A request keeps the number it was accepted under, a
  terminal message the number and the generation it was prepared for: the code has neither, only
  statements speak of them. `try_take` finds the mailbox locked only while the worker publishes.

  * `SystemEntries`, `systemEntry` -- the scheduler with its worker and mailbox;
  * `Ordered` -- one preparation at a time, terminal messages in the order of the requests;
  * `Answered` -- every attempted id is in flight, queued or delivered;
  * `requests_are_answered` -- both, in every run in which no request loses its worker.
-/
import Mathlib.Data.Finset.Basic
import MisterMagik.Base.Machine

namespace MisterMagik.Launcher

open MisterMagik.Base

/-! ## 1. The scheduler and its worker -/

structure SystemShardRequest where
  systemId : String
  /-- How many were accepted before it. -/
  ticket : Nat
  deriving DecidableEq, Repr

inductive SystemShardJobState where
  | idle
  | running (systemId : String) (generation : Option String) (sequence : Nat)
  deriving DecidableEq, Repr

structure SystemEntryPrepareRequest where
  sequence : Nat
  generation : Option String
  request : SystemShardRequest
  deriving DecidableEq, Repr

inductive SystemEntryPrepareCommand where
  | prepare (work : SystemEntryPrepareRequest)
  | retireOutcome
  deriving DecidableEq, Repr

/-- What a command asks to prepare. -/
def SystemEntryPrepareCommand.work : SystemEntryPrepareCommand → Option SystemEntryPrepareRequest
  | .prepare work => some work
  | .retireOutcome => none

/-- `SystemEntryPrepareOutcome`: prepared, or failed with an error. -/
structure SystemEntryPrepareOutcome where
  work : SystemEntryPrepareRequest
  error : Option String
  deriving DecidableEq, Repr

/-- `SystemShardReady` or, with an error, `SystemShardFailed`. -/
structure Terminal where
  systemId : String
  error : Option String
  generation : Option String
  ticket : Nat
  /-- The generation period it was delivered in. -/
  period : Nat
  deriving DecidableEq, Repr

structure SystemEntries where
  systemShard : SystemShardJobState
  attempted : Finset String
  queue : List SystemShardRequest
  generation : Option String
  nextSequence : Nat
  /-- `system_entry_prepare` is there. -/
  hasWorker : Bool
  /-- The commands sent and not received. -/
  channel : List SystemEntryPrepareCommand
  working : Option SystemEntryPrepareRequest
  /-- The mailbox. -/
  newest : Option SystemEntryPrepareOutcome
  /-- The worker's thread has ended: its ends of the channels are gone. -/
  ended : Bool
  accepted : Nat
  period : Nat
  delivered : List Terminal

inductive CatalogPollScope where
  | idle
  | interactive (systemEntryHandoff : Bool)
  | transition (systemEntryHandoff : Bool)
  deriving DecidableEq, Repr

def CATALOG_MESSAGES_PER_FRAME : Nat := 2

namespace SystemEntries

def new (hasWorker : Bool) : SystemEntries :=
  { systemShard := .idle
    attempted := ∅
    queue := []
    generation := none
    nextSequence := 1
    hasWorker
    channel := []
    working := none
    newest := none
    ended := false
    accepted := 0
    period := 0
    delivered := [] }

def systemShardLoading (s : SystemEntries) (systemId : String) : Bool :=
  match s.systemShard with
  | .running active _ _ => active == systemId
  | .idle => false

/-- A command can be sent. -/
def alive (s : SystemEntries) : Bool := s.hasWorker && !s.ended

/-- `wrapping_add(1).max(1)` on `u64`. -/
def sequenceAfter (sequence : Nat) : Nat := max ((sequence + 1) % 18446744073709551616) 1

/-- `start_next_system_shard_load` of an idle scheduler: a request that cannot be sent is dropped
    and the next one is tried. -/
def startFrom (s : SystemEntries) : List SystemShardRequest → SystemEntries
  | [] => { s with queue := [] }
  | request :: queue =>
      if s.alive then
        { s with
          queue
          nextSequence := sequenceAfter s.nextSequence
          systemShard := .running request.systemId s.generation s.nextSequence
          channel := s.channel ++ [.prepare ⟨s.nextSequence, s.generation, request⟩] }
      else startFrom { s with nextSequence := sequenceAfter s.nextSequence } queue

def startNext (s : SystemEntries) : SystemEntries :=
  match s.systemShard with
  | .running _ _ _ => s
  | .idle => s.startFrom s.queue

def requestSystemShard (s : SystemEntries) (systemId : String) : Bool × SystemEntries :=
  if s.generation = none then (false, s)
  else if systemId ∈ s.attempted then (false, s)
  else
    (true, ({ s with
      attempted := insert systemId s.attempted
      queue := s.queue ++ [⟨systemId, s.accepted⟩]
      accepted := s.accepted + 1 } : SystemEntries).startNext)

def setSystemShardGeneration (s : SystemEntries) (generation : Option String) :
    Bool × SystemEntries :=
  if s.generation = generation then (false, s)
  else (true, { s with generation, attempted := ∅, queue := [], period := s.period + 1 })

def retrySystemShard (s : SystemEntries) (systemId : String) : Bool × SystemEntries :=
  if s.systemShardLoading systemId then (false, s)
  else
    ({ s with
      attempted := s.attempted.erase systemId
      queue := s.queue.filter fun request => request.systemId != systemId } :
        SystemEntries).requestSystemShard systemId

def tryTake (s : SystemEntries) (contended : Bool) : Option SystemEntryPrepareOutcome :=
  if contended then none else s.newest

/-- `events` is how many messages the frame already has. -/
def pollSystemEntryInto (s : SystemEntries) (events : Nat) (contended : Bool) : SystemEntries :=
  match s.systemShard with
  | .idle => s
  | .running _ generation sequence =>
      if CATALOG_MESSAGES_PER_FRAME ≤ events ∨ s.hasWorker = false then s
      else
        match s.tryTake contended with
        | some outcome =>
            if sequence = outcome.work.sequence ∧ generation = outcome.work.generation ∧
                generation = s.generation then
              ({ s with
                newest := none
                systemShard := .idle
                delivered := s.delivered ++ [⟨outcome.work.request.systemId, outcome.error,
                  outcome.work.generation, outcome.work.request.ticket, s.period⟩] } :
                SystemEntries).startNext
            else
              ({ s with
                newest := none
                systemShard := .idle
                channel := if s.ended then s.channel else s.channel ++ [.retireOutcome] } :
                SystemEntries).startNext
        | none =>
            if s.ended then
              ({ s with hasWorker := false, systemShard := .idle } : SystemEntries).startNext
            else s

/-- `others` is how many messages the catalog and the search put first. -/
def pollCatalog (s : SystemEntries) (scope : CatalogPollScope) (others : Nat) (contended : Bool) :
    SystemEntries :=
  match scope with
  | .interactive true | .transition true => s.pollSystemEntryInto 0 contended
  | .interactive false | .transition false => s
  | .idle => s.pollSystemEntryInto others contended

/-- `PreparedSystemEntryMailbox::publish`. -/
def publish (s : SystemEntries) (outcome : SystemEntryPrepareOutcome) : SystemEntries :=
  match s.newest with
  | some current => if outcome.work.sequence < current.work.sequence then s
      else { s with newest := some outcome }
  | none => { s with newest := some outcome }

end SystemEntries

/-! ## 2. The machine -/

inductive SystemEntryStep where
  | request (systemId : String)
  | retry (systemId : String)
  | setGeneration (generation : Option String)
  | poll (scope : CatalogPollScope) (others : Nat) (contended : Bool)
  | workerTakes
  | workerPublishes (error : Option String)
  | workerEnds
  deriving DecidableEq

def systemEntry : Machine SystemEntries SystemEntryStep where
  init s := ∃ hasWorker, s = .new hasWorker
  step s step t :=
    match step with
    | .request systemId => t = (s.requestSystemShard systemId).2
    | .retry systemId => t = (s.retrySystemShard systemId).2
    | .setGeneration generation => t = (s.setSystemShardGeneration generation).2
    | .poll scope others contended =>
        (contended = true → s.working.isSome = true) ∧ t = s.pollCatalog scope others contended
    | .workerTakes => s.working = none ∧ ∃ command channel, s.channel = command :: channel ∧
        t = { s with
          channel
          working := command.work }
    | .workerPublishes error => ∃ work, s.working = some work ∧
        t = ({ s with working := none } : SystemEntries).publish ⟨work, error⟩
    | .workerEnds => t = { s with ended := true, channel := [], working := none }

/-- What is being prepared, the older first. -/
def SystemEntries.inFlight (s : SystemEntries) : List SystemEntryPrepareRequest :=
  (s.newest.map SystemEntryPrepareOutcome.work).toList ++ (s.working.toList ++
    s.channel.filterMap SystemEntryPrepareCommand.work)

/-- A poll that comes to the system entries. -/
def CatalogPollScope.Reaches (scope : CatalogPollScope) (others : Nat) : Prop :=
  match scope with
  | .interactive systemEntryHandoff | .transition systemEntryHandoff => systemEntryHandoff = true
  | .idle => others < CATALOG_MESSAGES_PER_FRAME

/-- **The condition on a step**: the worker does not end with work for the current generation that
    it has not published, and nothing queued or accepted is to be sent to a worker that is gone. -/
def Staffed (s : SystemEntries) : SystemEntryStep → Prop
  | .request systemId => s.alive = true ∨ s.systemShard ≠ .idle ∨
      s.generation = none ∨ systemId ∈ s.attempted
  | .retry _ => s.alive = true ∨ s.systemShard ≠ .idle ∨ s.generation = none
  | .poll scope others _ => scope.Reaches others → s.alive = true ∨ s.queue = []
  | .workerEnds => ∀ work ∈ s.working.toList ++ s.channel.filterMap SystemEntryPrepareCommand.work,
      work.generation ≠ s.generation
  | _ => True

/-! ## 3. One preparation at a time, in order -/

/-- The tickets given out: delivered, in flight, queued, and the next one. -/
def SystemEntries.tickets (s : SystemEntries) : List Nat :=
  s.delivered.map Terminal.ticket ++ (s.inFlight.map (·.request.ticket) ++
    (s.queue.map SystemShardRequest.ticket ++ [s.accepted]))

/-- In every run. -/
structure Ordered (s : SystemEntries) : Prop where
  one : s.inFlight.length ≤ 1
  idle : s.systemShard = .idle → s.inFlight = []
  running : ∀ systemId generation sequence, s.systemShard = .running systemId generation sequence →
    ∀ work ∈ s.inFlight, work.sequence = sequence ∧ work.generation = generation
  ended : s.ended = true → s.channel = [] ∧ s.working = none
  tickets : s.tickets.Pairwise (· < ·)

section Queue

variable {s t : SystemEntries} {step : SystemEntryStep} {request : SystemShardRequest}
  {queue : List SystemShardRequest}

/-- The scheduler with its next request sent. -/
def SystemEntries.sent (s : SystemEntries) (request : SystemShardRequest)
    (queue : List SystemShardRequest) : SystemEntries :=
  { s with
    queue
    nextSequence := SystemEntries.sequenceAfter s.nextSequence
    systemShard := .running request.systemId s.generation s.nextSequence
    channel := s.channel ++ [.prepare ⟨s.nextSequence, s.generation, request⟩] }

theorem startFrom_dead (h : s.alive = false) (queue : List SystemShardRequest) :
    ∃ nextSequence, s.startFrom queue = { s with queue := [], nextSequence } := by
  induction queue generalizing s with
  | nil => exact ⟨s.nextSequence, rfl⟩
  | cons request queue ih =>
      unfold SystemEntries.startFrom
      rw [if_neg (by rw [h]; simp)]
      obtain ⟨nextSequence, hnext⟩ :=
        ih (s := { s with nextSequence := SystemEntries.sequenceAfter s.nextSequence }) h
      exact ⟨nextSequence, hnext⟩

/-- Nothing to start, one request sent, or every request dropped. -/
theorem startNext_cases (h : s.systemShard = .idle) :
    (s.queue = [] ∧ s.startNext = s) ∨
    (∃ request queue, s.alive = true ∧ s.queue = request :: queue ∧
      s.startNext = s.sent request queue) ∨
    (s.alive = false ∧ ∃ nextSequence, s.startNext = { s with queue := [], nextSequence }) := by
  have hstart : s.startNext = s.startFrom s.queue := by
    unfold SystemEntries.startNext
    rw [h]
  rw [hstart]
  cases hqueue : s.queue with
  | nil =>
      left
      refine ⟨rfl, ?_⟩
      unfold SystemEntries.startFrom
      rw [← hqueue]
  | cons request queue =>
      right
      cases halive : s.alive with
      | true =>
          left
          refine ⟨request, queue, rfl, rfl, ?_⟩
          unfold SystemEntries.startFrom
          rw [if_pos halive]
          rfl
      | false =>
          right
          exact ⟨rfl, startFrom_dead halive _⟩

theorem inFlight_sent (s : SystemEntries) (request : SystemShardRequest)
    (queue : List SystemShardRequest) : (s.sent request queue).inFlight =
      s.inFlight ++ [⟨s.nextSequence, s.generation, request⟩] := by
  unfold SystemEntries.inFlight SystemEntries.sent
  simp only [List.filterMap_append, List.append_assoc]
  rfl

/-- Fewer tickets are still in order. -/
theorem Ordered.sublist (h : Ordered s) (ht : t.tickets.Sublist s.tickets)
    (hone : t.inFlight.length ≤ 1) (hidle : t.systemShard = .idle → t.inFlight = [])
    (hrunning : ∀ systemId generation sequence,
      t.systemShard = .running systemId generation sequence →
      ∀ work ∈ t.inFlight, work.sequence = sequence ∧ work.generation = generation)
    (hended : t.ended = true → t.channel = [] ∧ t.working = none) : Ordered t :=
  ⟨hone, hidle, hrunning, hended, h.tickets.sublist ht⟩

theorem ordered_startNext (h : Ordered s) : Ordered s.startNext := by
  cases hshard : s.systemShard with
  | running systemId generation sequence =>
      have hsame : s.startNext = s := by
        unfold SystemEntries.startNext
        rw [hshard]
      rwa [hsame]
  | idle =>
      have hnone := h.idle hshard
      obtain ⟨-, heq⟩ | ⟨request, queue, halive, hqueue, heq⟩ | ⟨-, nextSequence, heq⟩ :=
        startNext_cases hshard
      · rwa [heq]
      · have hflight : (s.sent request queue).inFlight =
            [⟨s.nextSequence, s.generation, request⟩] := by
          rw [inFlight_sent, hnone]
          rfl
        rw [heq]
        refine h.sublist ?_ (by rw [hflight]; exact le_refl 1) (fun hidle => nomatch hidle) ?_ ?_
        · unfold SystemEntries.tickets
          rw [hflight, hnone, hqueue]
          exact List.Sublist.refl _
        · intro systemId generation sequence hrunning work hwork
          rw [hflight, List.mem_singleton] at hwork
          cases hrunning
          rw [hwork]
          exact ⟨rfl, rfl⟩
        · intro hended
          have hended' : s.ended = true := hended
          unfold SystemEntries.alive at halive
          rw [hended'] at halive
          simp at halive
      · rw [heq]
        refine h.sublist ?_ h.one h.idle h.running h.ended
        unfold SystemEntries.tickets
        refine (List.Sublist.refl _).append ((List.Sublist.refl _).append ?_)
        exact (List.nil_sublist _).append (List.Sublist.refl _)

/-- A request is queued under the next ticket. -/
theorem ordered_accept (h : Ordered s) (systemId : String) (attempted : Finset String) :
    Ordered { s with
      attempted
      queue := s.queue ++ [⟨systemId, s.accepted⟩]
      accepted := s.accepted + 1 } := by
  refine ⟨h.one, h.idle, h.running, h.ended, ?_⟩
  have htickets := h.tickets
  unfold SystemEntries.tickets at htickets ⊢
  simp only [SystemEntries.inFlight, List.map_append, List.map_cons, List.map_nil,
    ← List.append_assoc] at htickets ⊢
  refine List.pairwise_append.2 ⟨htickets, List.pairwise_singleton _ _, fun a ha b hb => ?_⟩
  rw [List.mem_singleton.1 hb]
  obtain ha | ha := List.mem_append.1 ha
  · have hlast := (List.pairwise_append.1 htickets).2.2 a ha _ (List.mem_singleton_self _)
    exact Nat.lt_succ_of_lt hlast
  · rw [List.mem_singleton.1 ha]
    exact Nat.lt_succ_self _

theorem ordered_request (h : Ordered s) (systemId : String) :
    Ordered (s.requestSystemShard systemId).2 := by
  unfold SystemEntries.requestSystemShard
  split
  · exact h
  · split
    · exact h
    · exact ordered_startNext (ordered_accept h systemId _)

theorem ordered_retry (h : Ordered s) (systemId : String) :
    Ordered (s.retrySystemShard systemId).2 := by
  unfold SystemEntries.retrySystemShard
  split
  · exact h
  · have hkept : Ordered { s with
        attempted := s.attempted.erase systemId
        queue := s.queue.filter fun request => request.systemId != systemId } :=
      h.sublist ((List.Sublist.refl _).append ((List.Sublist.refl _).append
        ((List.filter_sublist.map _).append (List.Sublist.refl _)))) h.one h.idle h.running h.ended
    exact ordered_request hkept systemId

theorem ordered_setGeneration (h : Ordered s) (generation : Option String) :
    Ordered (s.setSystemShardGeneration generation).2 := by
  unfold SystemEntries.setSystemShardGeneration
  split
  · exact h
  · refine h.sublist ?_ h.one h.idle h.running h.ended
    exact (List.Sublist.refl _).append ((List.Sublist.refl _).append
      ((List.nil_sublist _).append (List.Sublist.refl _)))

/-- The one outcome in the mailbox is all there is in flight. -/
theorem inFlight_newest {outcome : SystemEntryPrepareOutcome} (h : Ordered s)
    (hnewest : s.newest = some outcome) :
    s.inFlight = [outcome.work] ∧ ∀ t : SystemEntries, t.newest = none → t.working = s.working →
      t.channel = s.channel ∨ t.channel = s.channel ++ [.retireOutcome] → t.inFlight = [] := by
  have hone := h.one
  unfold SystemEntries.inFlight at hone ⊢
  rw [hnewest] at hone ⊢
  simp only [Option.map_some, Option.toList_some, List.singleton_append, List.length_cons] at hone ⊢
  have hrest : s.working.toList ++ s.channel.filterMap SystemEntryPrepareCommand.work = [] :=
    List.length_eq_zero_iff.1 (Nat.le_zero.1 (Nat.le_of_succ_le_succ hone))
  refine ⟨by rw [hrest], fun t ht hworking hchannel => ?_⟩
  rw [ht, hworking]
  obtain hchannel | hchannel := hchannel
  · rw [hchannel]
    exact hrest
  · rw [hchannel, List.filterMap_append, ← List.append_assoc, ← List.append_assoc]
    exact List.append_eq_nil_iff.2 ⟨hrest, rfl⟩

/-- What a poll does before it starts the next request: nothing, a delivery, an outcome put aside,
    or the loss of the worker. -/
inductive PollMove (s : SystemEntries) : SystemEntries → Prop where
  | kept : PollMove s s
  | delivered (outcome : SystemEntryPrepareOutcome) (hnewest : s.newest = some outcome)
      (hcurrent : outcome.work.generation = s.generation) :
      PollMove s { s with
        newest := none
        systemShard := .idle
        delivered := s.delivered ++ [⟨outcome.work.request.systemId, outcome.error,
          outcome.work.generation, outcome.work.request.ticket, s.period⟩] }
  | retired (outcome : SystemEntryPrepareOutcome) (channel : List SystemEntryPrepareCommand)
      (hnewest : s.newest = some outcome) (hstale : outcome.work.generation ≠ s.generation)
      (hchannel : channel = s.channel ∨
        s.ended = false ∧ channel = s.channel ++ [.retireOutcome]) :
      PollMove s { s with newest := none, systemShard := .idle, channel }
  | lost (hnewest : s.newest = none) (hended : s.ended = true) :
      PollMove s { s with hasWorker := false, systemShard := .idle }

theorem pollSystemEntryInto_move (h : Ordered s) (events : Nat) {contended : Bool}
    (hcontended : contended = true → s.working.isSome = true) :
    ∃ t, PollMove s t ∧
      (s.pollSystemEntryInto events contended = t.startNext ∨
        t = s ∧ s.pollSystemEntryInto events contended = s) := by
  unfold SystemEntries.pollSystemEntryInto
  split
  · exact ⟨s, .kept, .inr ⟨rfl, rfl⟩⟩
  · rename_i systemId generation sequence hshard
    split
    · exact ⟨s, .kept, .inr ⟨rfl, rfl⟩⟩
    · split
      · rename_i outcome htake
        have hnewest : s.newest = some outcome := by
          unfold SystemEntries.tryTake at htake
          split at htake
          · cases htake
          · exact htake
        obtain ⟨hsequence, hgeneration⟩ := h.running _ _ _ hshard outcome.work (by
          rw [(inFlight_newest h hnewest).1]
          exact List.mem_singleton_self _)
        split
        · rename_i hcurrent
          exact ⟨_, .delivered outcome hnewest (hgeneration.trans hcurrent.2.2), .inl rfl⟩
        · rename_i hstale
          refine ⟨_, .retired outcome _ hnewest (fun heq => hstale ⟨hsequence.symm,
            hgeneration.symm, hgeneration.symm.trans heq⟩) ?_, .inl rfl⟩
          cases s.ended with
          | true => exact .inl rfl
          | false => exact .inr ⟨rfl, rfl⟩
      · rename_i htake
        split
        · rename_i hended
          have hnewest : s.newest = none := by
            cases contended with
            | false => exact htake
            | true =>
                have hworking := hcontended rfl
                rw [(h.ended hended).2] at hworking
                cases hworking
          exact ⟨_, .lost hnewest hended, .inl rfl⟩
        · exact ⟨s, .kept, .inr ⟨rfl, rfl⟩⟩

theorem ordered_pollMove (h : Ordered s) (hmove : PollMove s t) : Ordered t := by
  cases hmove with
  | kept => exact h
  | delivered outcome hnewest hcurrent =>
      obtain ⟨hflight, hnone⟩ := inFlight_newest h hnewest
      have hnil := hnone { s with
        newest := none
        systemShard := .idle
        delivered := s.delivered ++ [⟨outcome.work.request.systemId, outcome.error,
          outcome.work.generation, outcome.work.request.ticket, s.period⟩] } rfl rfl (.inl rfl)
      refine h.sublist ?_ (by rw [hnil]; exact Nat.zero_le _) (fun _ => hnil)
        (fun _ _ _ hrunning => nomatch hrunning) h.ended
      unfold SystemEntries.tickets
      rw [hnil, hflight, List.map_append]
      simp
  | retired outcome channel hnewest hstale hchannel =>
      obtain ⟨hflight, hnone⟩ := inFlight_newest h hnewest
      have hnil := hnone { s with newest := none, systemShard := .idle, channel } rfl rfl
        (hchannel.imp id And.right)
      refine h.sublist ?_ (by rw [hnil]; exact Nat.zero_le _) (fun _ => hnil)
        (fun _ _ _ hrunning => nomatch hrunning) fun hended => ?_
      · unfold SystemEntries.tickets
        rw [hnil]
        exact (List.Sublist.refl _).append ((List.nil_sublist _).append (List.Sublist.refl _))
      · obtain hchannel | ⟨halive, -⟩ := hchannel
        · exact ⟨hchannel.trans (h.ended hended).1, (h.ended hended).2⟩
        · exact absurd (halive.symm.trans hended) (by simp)
  | lost hnewest hended =>
      have hnil : s.inFlight = [] := by
        unfold SystemEntries.inFlight
        rw [hnewest, (h.ended hended).1, (h.ended hended).2]
        rfl
      exact h.sublist (List.Sublist.refl _) h.one (fun _ => hnil)
        (fun _ _ _ hrunning => nomatch hrunning) h.ended

theorem ordered_poll (h : Ordered s) (events : Nat) {contended : Bool}
    (hcontended : contended = true → s.working.isSome = true) :
    Ordered (s.pollSystemEntryInto events contended) := by
  obtain ⟨t, hmove, heq | ⟨-, heq⟩⟩ := pollSystemEntryInto_move h events hcontended
  · rw [heq]
    exact ordered_startNext (ordered_pollMove h hmove)
  · rwa [heq]

theorem inFlight_workerTakes {command : SystemEntryPrepareCommand}
    {channel : List SystemEntryPrepareCommand} (hworking : s.working = none)
    (hchannel : s.channel = command :: channel) :
    ({ s with channel, working := command.work } : SystemEntries).inFlight = s.inFlight := by
  unfold SystemEntries.inFlight
  dsimp only
  rw [hworking, hchannel]
  cases command <;> rfl

theorem inFlight_workerPublishes {work : SystemEntryPrepareRequest} (h : Ordered s)
    (hworking : s.working = some work) (error : Option String) :
    ({ s with working := none } : SystemEntries).publish ⟨work, error⟩ =
        { s with working := none, newest := some ⟨work, error⟩ } ∧
      ({ s with working := none, newest := some ⟨work, error⟩ } : SystemEntries).inFlight =
        s.inFlight := by
  have hone := h.one
  have hnewest : s.newest = none := by
    unfold SystemEntries.inFlight at hone
    cases hnewest : s.newest with
    | none => rfl
    | some outcome =>
        rw [hnewest, hworking] at hone
        simp at hone
  unfold SystemEntries.publish SystemEntries.inFlight
  dsimp only
  rw [hnewest, hworking]
  exact ⟨rfl, rfl⟩

/-- With as much in flight, in the same job. -/
theorem Ordered.same (h : Ordered s) (hflight : t.inFlight = s.inFlight)
    (hshard : t.systemShard = s.systemShard) (hdelivered : t.delivered = s.delivered)
    (hqueue : t.queue = s.queue) (haccepted : t.accepted = s.accepted)
    (hended : t.ended = true → t.channel = [] ∧ t.working = none) : Ordered t := by
  refine ⟨by rw [hflight]; exact h.one, ?_, ?_, hended, ?_⟩
  · rw [hflight, hshard]
    exact h.idle
  · rw [hflight, hshard]
    exact h.running
  · unfold SystemEntries.tickets
    rw [hflight, hdelivered, hqueue, haccepted]
    exact h.tickets

theorem ordered_step (h : Ordered s) (hstep : systemEntry.step s step t) : Ordered t := by
  cases step with
  | request systemId =>
      subst hstep
      exact ordered_request h systemId
  | retry systemId =>
      subst hstep
      exact ordered_retry h systemId
  | setGeneration generation =>
      subst hstep
      exact ordered_setGeneration h generation
  | poll scope others contended =>
      obtain ⟨hcontended, rfl⟩ := hstep
      unfold SystemEntries.pollCatalog
      split
      · exact ordered_poll h 0 hcontended
      · exact ordered_poll h 0 hcontended
      · exact h
      · exact h
      · exact ordered_poll h others hcontended
  | workerTakes =>
      obtain ⟨hworking, command, channel, hchannel, rfl⟩ := hstep
      refine h.same (inFlight_workerTakes hworking hchannel) rfl rfl rfl rfl fun hended => ?_
      rw [(h.ended hended).1] at hchannel
      cases hchannel
  | workerPublishes error =>
      obtain ⟨work, hworking, rfl⟩ := hstep
      obtain ⟨heq, hflight⟩ := inFlight_workerPublishes h hworking error
      rw [heq]
      exact h.same hflight rfl rfl rfl rfl fun hended => ⟨(h.ended hended).1, rfl⟩
  | workerEnds =>
      subst hstep
      have hsub : (({ s with ended := true, channel := [], working := none } :
          SystemEntries).inFlight).Sublist s.inFlight :=
        (List.Sublist.refl _).append (List.nil_sublist _)
      refine h.sublist ((List.Sublist.refl _).append ((hsub.map _).append (List.Sublist.refl _)))
        (hsub.length_le.trans h.one) (fun hidle => ?_) (fun _ _ _ hrunning work hwork => ?_)
        fun _ => ⟨rfl, rfl⟩
      · have hnone := h.idle hidle
        rw [hnone] at hsub
        exact List.sublist_nil.1 hsub
      · exact h.running _ _ _ hrunning work (hsub.subset hwork)

/-! ## 4. Every attempted id is answered or waits -/

/-- In every run in which no request loses its worker. -/
structure Answered (s : SystemEntries) : Prop where
  attempted : ∀ systemId ∈ s.attempted,
    (∃ work ∈ s.inFlight, work.request.systemId = systemId ∧ work.generation = s.generation) ∨
    (∃ request ∈ s.queue, request.systemId = systemId) ∨
    ∃ terminal ∈ s.delivered, terminal.systemId = systemId ∧ terminal.period = s.period

theorem answered_startNext (h : Answered s)
    (hstaffed : s.systemShard = .idle → s.alive = true ∨ s.queue = []) : Answered s.startNext := by
  cases hshard : s.systemShard with
  | running systemId generation sequence =>
      have hsame : s.startNext = s := by
        unfold SystemEntries.startNext
        rw [hshard]
      rwa [hsame]
  | idle =>
      obtain ⟨-, heq⟩ | ⟨request, queue, halive, hqueue, heq⟩ | ⟨hdead, nextSequence, heq⟩ :=
        startNext_cases hshard
      · rwa [heq]
      · rw [heq]
        refine ⟨fun systemId hattempted => ?_⟩
        rw [inFlight_sent]
        obtain ⟨work, hwork, hid⟩ | ⟨waiting, hwaiting, hid⟩ | hdelivered :=
          h.attempted systemId hattempted
        · exact .inl ⟨work, List.mem_append_left _ hwork, hid⟩
        · rw [hqueue] at hwaiting
          obtain hfirst | hrest := List.mem_cons.1 hwaiting
          · refine .inl ⟨_, List.mem_append_right _ (List.mem_singleton_self _), ?_, rfl⟩
            rw [← hfirst, hid]
          · exact .inr (.inl ⟨waiting, hrest, hid⟩)
        · exact .inr (.inr hdelivered)
      · have hqueue : s.queue = [] := by
          obtain halive | hqueue := hstaffed hshard
          · rw [hdead] at halive
            cases halive
          · exact hqueue
        rw [heq]
        refine ⟨fun systemId hattempted => ?_⟩
        obtain hflight | ⟨waiting, hwaiting, -⟩ | hdelivered := h.attempted systemId hattempted
        · exact .inl hflight
        · rw [hqueue] at hwaiting
          cases hwaiting
        · exact .inr (.inr hdelivered)

theorem answered_request (h : Answered s) {systemId : String}
    (hguard : Staffed s (.request systemId)) : Answered (s.requestSystemShard systemId).2 := by
  unfold SystemEntries.requestSystemShard
  split
  · exact h
  · rename_i hgeneration
    split
    · exact h
    · rename_i hattempted
      refine answered_startNext ⟨fun other hother => ?_⟩ fun hidle => .inl ?_
      · obtain rfl | hother := Finset.mem_insert.1 hother
        · exact .inr (.inl ⟨_, List.mem_append_right _ (List.mem_singleton_self _), rfl⟩)
        · obtain hflight | ⟨waiting, hwaiting, hid⟩ | hdelivered := h.attempted other hother
          · exact .inl hflight
          · exact .inr (.inl ⟨waiting, List.mem_append_left _ hwaiting, hid⟩)
          · exact .inr (.inr hdelivered)
      · obtain halive | hrunning | hnone | hmem := hguard
        · exact halive
        · exact absurd hidle hrunning
        · exact absurd hnone hgeneration
        · exact absurd hmem hattempted

theorem answered_retry (h : Answered s) {systemId : String}
    (hguard : Staffed s (.retry systemId)) : Answered (s.retrySystemShard systemId).2 := by
  unfold SystemEntries.retrySystemShard
  split
  · exact h
  · have hkept : Answered { s with
        attempted := s.attempted.erase systemId
        queue := s.queue.filter fun request => request.systemId != systemId } := by
      refine ⟨fun other hother => ?_⟩
      obtain ⟨hne, hother⟩ := Finset.mem_erase.1 hother
      obtain hflight | ⟨waiting, hwaiting, hid⟩ | hdelivered := h.attempted other hother
      · exact .inl hflight
      · refine .inr (.inl ⟨waiting, List.mem_filter.2 ⟨hwaiting, ?_⟩, hid⟩)
        rw [hid]
        exact bne_iff_ne.2 hne
      · exact .inr (.inr hdelivered)
    refine answered_request hkept ?_
    obtain halive | hrunning | hnone := hguard
    · exact .inl halive
    · exact .inr (.inl hrunning)
    · exact .inr (.inr (.inl hnone))

theorem answered_pollMove (hs : Ordered s) (h : Answered s) (hmove : PollMove s t) :
    Answered t := by
  cases hmove with
  | kept => exact h
  | delivered outcome hnewest hcurrent =>
      refine ⟨fun systemId hattempted => ?_⟩
      obtain ⟨work, hwork, hid, -⟩ | hqueue | ⟨terminal, hterminal, hid⟩ :=
        h.attempted systemId hattempted
      · rw [(inFlight_newest hs hnewest).1, List.mem_singleton] at hwork
        refine .inr (.inr ⟨_, List.mem_append_right _ (List.mem_singleton_self _), ?_, rfl⟩)
        rw [← hwork, hid]
      · exact .inr (.inl hqueue)
      · exact .inr (.inr ⟨terminal, List.mem_append_left _ hterminal, hid⟩)
  | retired outcome channel hnewest hstale hchannel =>
      refine ⟨fun systemId hattempted => ?_⟩
      obtain ⟨work, hwork, -, hcurrent⟩ | hrest := h.attempted systemId hattempted
      · rw [(inFlight_newest hs hnewest).1, List.mem_singleton] at hwork
        rw [hwork] at hcurrent
        exact absurd hcurrent hstale
      · exact .inr hrest
  | lost hnewest hended => exact ⟨h.attempted⟩

theorem staffed_pollMove (hmove : PollMove s t) (h : s.alive = true ∨ s.queue = []) :
    t.alive = true ∨ t.queue = [] := by
  cases hmove with
  | kept => exact h
  | delivered outcome hnewest hcurrent => exact h
  | retired outcome channel hnewest hstale hchannel => exact h
  | lost hnewest hended =>
      refine .inr (h.resolve_left fun halive => ?_)
      unfold SystemEntries.alive at halive
      rw [hended, Bool.not_true, Bool.and_false] at halive
      cases halive

theorem answered_poll (hs : Ordered s) (h : Answered s) (events : Nat) {contended : Bool}
    (hcontended : contended = true → s.working.isSome = true)
    (hguard : events < CATALOG_MESSAGES_PER_FRAME → s.alive = true ∨ s.queue = []) :
    Answered (s.pollSystemEntryInto events contended) := by
  by_cases hevents : events < CATALOG_MESSAGES_PER_FRAME
  · obtain ⟨t, hmove, heq | ⟨-, heq⟩⟩ := pollSystemEntryInto_move hs events hcontended
    · rw [heq]
      exact answered_startNext (answered_pollMove hs h hmove)
        fun _ => staffed_pollMove hmove (hguard hevents)
    · rwa [heq]
  · have hsame : s.pollSystemEntryInto events contended = s := by
      unfold SystemEntries.pollSystemEntryInto
      split
      · rfl
      · rw [if_pos (.inl (Nat.not_lt.1 hevents))]
    rwa [hsame]

/-- With as much in flight, asked for by the same scheduler. -/
theorem Answered.same (h : Answered s) (hflight : t.inFlight = s.inFlight)
    (hattempted : t.attempted = s.attempted) (hgeneration : t.generation = s.generation)
    (hqueue : t.queue = s.queue) (hdelivered : t.delivered = s.delivered)
    (hperiod : t.period = s.period) : Answered t := by
  refine ⟨?_⟩
  rw [hflight, hattempted, hgeneration, hqueue, hdelivered, hperiod]
  exact h.attempted

theorem answered_step (hs : Ordered s) (h : Answered s)
    (hstep : (systemEntry.guard Staffed).step s step t) : Answered t := by
  obtain ⟨hguard, hstep⟩ := hstep
  cases step with
  | request systemId =>
      subst hstep
      exact answered_request h hguard
  | retry systemId =>
      subst hstep
      exact answered_retry h hguard
  | setGeneration generation =>
      subst hstep
      unfold SystemEntries.setSystemShardGeneration
      split
      · exact h
      · exact ⟨fun _ hnone => absurd hnone (Finset.notMem_empty _)⟩
  | poll scope others contended =>
      obtain ⟨hcontended, rfl⟩ := hstep
      unfold SystemEntries.pollCatalog
      split
      · exact answered_poll hs h 0 hcontended fun _ => hguard rfl
      · exact answered_poll hs h 0 hcontended fun _ => hguard rfl
      · exact h
      · exact h
      · exact answered_poll hs h others hcontended hguard
  | workerTakes =>
      obtain ⟨hworking, command, channel, hchannel, rfl⟩ := hstep
      exact h.same (inFlight_workerTakes hworking hchannel) rfl rfl rfl rfl rfl
  | workerPublishes error =>
      obtain ⟨work, hworking, rfl⟩ := hstep
      obtain ⟨heq, hflight⟩ := inFlight_workerPublishes hs hworking error
      rw [heq]
      exact h.same hflight rfl rfl rfl rfl rfl
  | workerEnds =>
      subst hstep
      refine ⟨fun systemId hattempted => ?_⟩
      obtain ⟨work, hwork, hid, hcurrent⟩ | hrest := h.attempted systemId hattempted
      · obtain hnewest | hlost := List.mem_append.1 hwork
        · exact .inl ⟨work, List.mem_append_left _ hnewest, hid, hcurrent⟩
        · exact absurd hcurrent (hguard work hlost)
      · exact .inr hrest

/-! ## 5. Runs -/

theorem ordered_init (h : systemEntry.init s) : Ordered s := by
  obtain ⟨hasWorker, rfl⟩ := h
  refine ⟨Nat.zero_le _, fun _ => rfl, fun _ _ _ hrunning => (nomatch hrunning),
    fun hended => (nomatch hended), ?_⟩
  exact List.pairwise_singleton _ _

theorem answered_init (h : systemEntry.init s) : Answered s := by
  obtain ⟨hasWorker, rfl⟩ := h
  exact ⟨fun _ hnone => absurd hnone (Finset.notMem_empty _)⟩

theorem ordered_run {s₀ : SystemEntries} {run : List SystemEntryStep} (hinit : systemEntry.init s₀)
    (hrun : systemEntry.Run s₀ run s) : Ordered s :=
  hrun.invariant (P := Ordered) (fun _ _ _ h hstep => ordered_step h hstep) (ordered_init hinit)

theorem answered_run {s₀ : SystemEntries} {run : List SystemEntryStep}
    (hinit : systemEntry.init s₀) (hrun : (systemEntry.guard Staffed).Run s₀ run s) :
    Answered s := by
  have hboth : Ordered s ∧ Answered s :=
    hrun.invariant (P := fun s => Ordered s ∧ Answered s)
      (fun _ _ _ h hstep =>
        ⟨ordered_step h.1 (And.right hstep), answered_step h.1 h.2 hstep⟩)
      ⟨ordered_init hinit, answered_init hinit⟩
  exact hboth.2

theorem startFrom_delivered (queue : List SystemShardRequest) :
    (s.startFrom queue).delivered = s.delivered := by
  induction queue generalizing s with
  | nil => rfl
  | cons request queue ih =>
      unfold SystemEntries.startFrom
      split
      · rfl
      · exact ih

theorem startNext_delivered (s : SystemEntries) : s.startNext.delivered = s.delivered := by
  unfold SystemEntries.startNext
  split
  · rfl
  · exact startFrom_delivered _

/-- A terminal message that was not there before is for the generation of now. -/
def DeliversCurrent (s t : SystemEntries) : Prop :=
  ∀ terminal ∈ t.delivered,
    terminal ∈ s.delivered ∨ terminal.generation = s.generation ∧ terminal.period = s.period

theorem deliversCurrent_of_eq (h : t.delivered = s.delivered) : DeliversCurrent s t :=
  fun _ hterminal => .inl (h ▸ hterminal)

theorem deliversCurrent_poll (h : Ordered s) (events : Nat) {contended : Bool}
    (hcontended : contended = true → s.working.isSome = true) :
    DeliversCurrent s (s.pollSystemEntryInto events contended) := by
  obtain ⟨t, hmove, heq⟩ := pollSystemEntryInto_move h events hcontended
  have hdelivered : (s.pollSystemEntryInto events contended).delivered = t.delivered := by
    obtain heq | ⟨rfl, heq⟩ := heq
    · rw [heq, startNext_delivered]
    · rw [heq]
  unfold DeliversCurrent
  rw [hdelivered]
  cases hmove with
  | kept => exact fun _ hterminal => .inl hterminal
  | delivered outcome hnewest hcurrent =>
      intro terminal hterminal
      obtain hold | hnew := List.mem_append.1 hterminal
      · exact .inl hold
      · rw [List.mem_singleton.1 hnew]
        exact .inr ⟨hcurrent, rfl⟩
  | retired outcome channel hnewest hstale hchannel => exact fun _ hterminal => .inl hterminal
  | lost hnewest hended => exact fun _ hterminal => .inl hterminal

theorem requestSystemShard_delivered (s : SystemEntries) (systemId : String) :
    (s.requestSystemShard systemId).2.delivered = s.delivered := by
  unfold SystemEntries.requestSystemShard
  split
  · rfl
  · split
    · rfl
    · exact startNext_delivered _

theorem deliversCurrent_step (h : Ordered s) (hstep : systemEntry.step s step t) :
    DeliversCurrent s t := by
  cases step with
  | request systemId =>
      subst hstep
      exact deliversCurrent_of_eq (requestSystemShard_delivered s systemId)
  | retry systemId =>
      subst hstep
      unfold SystemEntries.retrySystemShard
      split
      · exact deliversCurrent_of_eq rfl
      · exact deliversCurrent_of_eq (requestSystemShard_delivered _ systemId)
  | setGeneration generation =>
      subst hstep
      unfold SystemEntries.setSystemShardGeneration
      split
      · exact deliversCurrent_of_eq rfl
      · exact deliversCurrent_of_eq rfl
  | poll scope others contended =>
      obtain ⟨hcontended, rfl⟩ := hstep
      unfold SystemEntries.pollCatalog
      split
      · exact deliversCurrent_poll h 0 hcontended
      · exact deliversCurrent_poll h 0 hcontended
      · exact deliversCurrent_of_eq rfl
      · exact deliversCurrent_of_eq rfl
      · exact deliversCurrent_poll h others hcontended
  | workerTakes =>
      obtain ⟨hworking, command, channel, hchannel, rfl⟩ := hstep
      exact deliversCurrent_of_eq rfl
  | workerPublishes error =>
      obtain ⟨work, hworking, rfl⟩ := hstep
      rw [(inFlight_workerPublishes h hworking error).1]
      exact deliversCurrent_of_eq rfl
  | workerEnds =>
      subst hstep
      exact deliversCurrent_of_eq rfl

end Queue

/-- **A request is answered once or still waits**: in every run in which no request loses its worker
    at most one preparation is in flight, a terminal message is delivered for the generation that is
    current then, the terminal messages come in the order of their requests and none twice, and
    every attempted id is in flight for the current generation, queued, or delivered in this
    period. -/
theorem requests_are_answered {s₀ s : SystemEntries} {run : List SystemEntryStep}
    (hinit : systemEntry.init s₀) (hrun : (systemEntry.guard Staffed).Run s₀ run s) :
    s.inFlight.length ≤ 1 ∧
    (∀ step t, systemEntry.step s step t → DeliversCurrent s t) ∧
    (s.delivered.map Terminal.ticket).Pairwise (· < ·) ∧
    Answered s := by
  have hordered := ordered_run hinit hrun.unguard
  exact ⟨hordered.one, fun step t hstep => deliversCurrent_step hordered hstep,
    (List.pairwise_append.1 hordered.tickets).1, answered_run hinit hrun⟩

/-! ## 6. One request -/

/-- A launcher with a worker, a generation, and one request that the worker has received. -/
def oneRequest : SystemEntries :=
  let s := (((SystemEntries.new true).setSystemShardGeneration (some "a")).2.requestSystemShard
    "c64").2
  { s with channel := [], working := some ⟨1, some "a", ⟨"c64", 0⟩⟩ }

theorem oneRequest_run : (systemEntry.guard Staffed).Run (.new true)
    [.setGeneration (some "a"), .request "c64", .workerTakes] oneRequest := by
  have hstart : (systemEntry.guard Staffed).Run (.new true) [] (.new true) := .nil
  have hset := hstart.snoc (a := SystemEntryStep.setGeneration (some "a")) ⟨trivial, rfl⟩
  have hrequest := hset.snoc (a := SystemEntryStep.request "c64") ⟨.inl rfl, rfl⟩
  exact hrequest.snoc (a := SystemEntryStep.workerTakes) ⟨trivial, rfl, _, _, rfl, rfl⟩

/-- The worker has answered, and the scheduler has polled. -/
def oneAnswer : SystemEntries :=
  (({ oneRequest with working := none } : SystemEntries).publish
    ⟨⟨1, some "a", ⟨"c64", 0⟩⟩, none⟩).pollCatalog .idle 0 false

theorem requests_are_answered_once :
    oneAnswer.delivered = [⟨"c64", none, some "a", 0, 1⟩] ∧ oneAnswer.inFlight.length ≤ 1 ∧
      (oneAnswer.delivered.map Terminal.ticket).Pairwise (· < ·) ∧ Answered oneAnswer := by
  have hpublished := oneRequest_run.snoc (a := SystemEntryStep.workerPublishes none)
    ⟨trivial, _, rfl, rfl⟩
  have hpolled := hpublished.snoc (a := SystemEntryStep.poll .idle 0 false)
    ⟨fun _ => .inl rfl, fun h => (nomatch h), rfl⟩
  have h := requests_are_answered ⟨true, rfl⟩ hpolled
  exact ⟨by decide +kernel, h.1, h.2.2.1, h.2.2.2⟩

/-- The worker has ended instead. -/
def lostRequest : SystemEntries :=
  ({ oneRequest with ended := true, channel := [], working := none } : SystemEntries).pollCatalog
    .idle 0 false

/-- **A worker that ends takes its request with it**: nothing is in flight, queued or delivered, and
    the request is refused from then on. -/
theorem lost_request_is_refused : ∃ run, systemEntry.Run (.new true) run lostRequest ∧
    "c64" ∈ lostRequest.attempted ∧ lostRequest.inFlight = [] ∧ lostRequest.queue = [] ∧
      lostRequest.delivered = [] ∧ (lostRequest.requestSystemShard "c64").1 = false := by
  have hended := oneRequest_run.unguard.snoc (a := SystemEntryStep.workerEnds) rfl
  have hpolled := hended.snoc (a := SystemEntryStep.poll .idle 0 false)
    ⟨fun h => (nomatch h), rfl⟩
  exact ⟨_, hpolled, Finset.mem_insert_self _ _, rfl, rfl, rfl, by decide +kernel⟩

end MisterMagik.Launcher
