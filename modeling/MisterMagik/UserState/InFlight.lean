/-
  File:      MisterMagik/UserState/InFlight.lean
  Subject:   Requests, answers and pending favourites, over every interleaving of the launcher and
             the worker.

  While the worker serves, what was accepted is what it answered and what still waits, and what it
  answered is what the launcher received and what still waits. When the open failed there is one
  event, and the session is over once it is received.

  * `Orderly` -- the invariant; `Orderly.next` -- every step keeps it;
  * `unavailable_stays` -- a session that is over has nothing pending, ever.
-/
import MisterMagik.UserState.Session

namespace MisterMagik.UserState

open MisterMagik.Base

/-! ## 1. The invariant -/

/-- An event answers a request: a snapshot or a failure that completes what the request asked. -/
def UserStateEvent.Answers (event : UserStateEvent) (request : UserStateRequest) : Prop :=
  match event with
  | .snapshot _ completedFavourite | .failed _ completedFavourite =>
      completedFavourite = request.completedFavourite
  | .unavailable _ => False

theorem Worker.process_answers (w : Worker) (db : Database) (request : UserStateRequest)
    (conduct : Conduct) : (w.process db request conduct).2.2.Answers request := by
  unfold process
  cases request with
  | refresh legacyCatalog members now =>
      dsimp only
      split <;> rfl
  | setFavourite game favourite now =>
      dsimp only
      split <;> rfl

/-- The session after an event that answers a request. -/
theorem UserStateSession.observe_answer (session : UserStateSession) {event : UserStateEvent}
    {request : UserStateRequest} (h : event.Answers request) :
    session.observe event =
      match request.completedFavourite with
      | some launchRef =>
          { session with pendingFavourites := session.pendingFavourites.erase launchRef }
      | none => session := by
  cases event with
  | snapshot snapshot completed =>
      obtain rfl : completed = request.completedFavourite := h
      rfl
  | failed error completed =>
      obtain rfl : completed = request.completedFavourite := h
      rfl
  | unavailable error => exact h.elim

namespace SessionSystem

/-- The launch refs whose request was sent and whose event was not polled, in order. -/
def inFlight (s : SessionSystem) : List String :=
  (s.accepted.drop s.received.length).filterMap UserStateRequest.completedFavourite

/-- Both channels are open and nothing is lost or reordered in them. -/
structure Open (s : SessionSystem) : Prop where
  available : s.session.available = true
  requestsOpen : s.link.requestsOpen = true
  eventsOpen : s.link.eventsOpen = true
  accepted : s.accepted = s.answers.map Answer.request ++ s.link.requests
  received : s.answers.map Answer.event = s.received ++ s.link.events

/-- The open failed: one event, nothing answered. -/
structure Closed (s : SessionSystem) : Prop where
  answers : s.answers = []
  waiting : s.session.available = true →
    s.received = [] ∧ ∃ error, s.link.events = [.unavailable error]

def Linked (s : SessionSystem) : Prop :=
  match s.worker with
  | .opening => s.Open ∧ s.answers = []
  | .serving _ => s.Open
  | .closing | .exited => s.Closed

/-- The invariant of the channels and the pending set. -/
structure Orderly (s : SessionSystem) : Prop where
  linked : s.Linked
  kinds : ∀ answer ∈ s.answers, answer.event.Answers answer.request
  pending : s.session.available = true →
    (∀ launchRef, launchRef ∈ s.session.pendingFavourites ↔ launchRef ∈ s.inFlight) ∧
      s.inFlight.Nodup
  cleared : s.session.available = false → s.session.pendingFavourites = ∅

variable {s : SessionSystem}

theorem Orderly.start (db : Database) : (start db).Orderly where
  linked := ⟨⟨rfl, rfl, rfl, rfl, rfl⟩, rfl⟩
  kinds := by
    intro answer h
    cases h
  pending := by
    intro _
    exact ⟨fun launchRef => by simp [SessionSystem.start, UserStateSession.start, inFlight],
      List.nodup_nil⟩
  cleared := by
    intro h
    cases h

/-- While the session is available it received at most what was accepted. -/
theorem Orderly.received_le (h : s.Orderly) (hav : s.session.available = true) :
    s.received.length ≤ s.accepted.length := by
  have hopen : s.Open → s.received.length ≤ s.accepted.length := by
    intro hopen
    have hlength := congrArg List.length hopen.received
    rw [List.length_map, List.length_append] at hlength
    rw [hopen.accepted, List.length_append, List.length_map]
    omega
  have hlinked := h.linked
  unfold Linked at hlinked
  split at hlinked
  · exact hopen hlinked.1
  · exact hopen hlinked
  · rw [(hlinked.waiting hav).1]
    exact Nat.zero_le _
  · rw [(hlinked.waiting hav).1]
    exact Nat.zero_le _

/-! ## 2. The launcher -/

/-- A state that differs in the session's flags only. -/
theorem Linked.of_session {s' : SessionSystem} (h : s.Linked) (hworker : s'.worker = s.worker)
    (hlink : s'.link = s.link) (hacc : s'.accepted = s.accepted) (hans : s'.answers = s.answers)
    (hrec : s'.received = s.received) (hav : s'.session.available = s.session.available) :
    s'.Linked := by
  have hopen : s.Open → s'.Open := by
    intro ho
    refine ⟨hav ▸ ho.available, hlink ▸ ho.requestsOpen, hlink ▸ ho.eventsOpen, ?_, ?_⟩
    · rw [hacc, hans, hlink]
      exact ho.accepted
    · rw [hans, hrec, hlink]
      exact ho.received
  have hclosed : s.Closed → s'.Closed := by
    intro hc
    refine ⟨hans ▸ hc.answers, ?_⟩
    rw [hav, hrec, hlink]
    exact hc.waiting
  unfold Linked at h ⊢
  rw [hworker]
  split at h
  · exact ⟨hopen h.1, hans ▸ h.2⟩
  · exact hopen h
  · exact hclosed h
  · exact hclosed h

/-- A request that went out: its launch ref, if it has one, was not pending. -/
theorem Orderly.accept (h : s.Orderly) (hav : s.session.available = true)
    (hopen : s.link.requestsOpen = true) (request : UserStateRequest) (pending : Finset String)
    (sent : Bool)
    (hpending : match request.completedFavourite with
      | none => pending = s.session.pendingFavourites
      | some launchRef => launchRef ∉ s.session.pendingFavourites ∧
          pending = insert launchRef s.session.pendingFavourites) :
    Orderly { s with
      session := ⟨pending, s.session.available, sent⟩
      link := { s.link with requests := s.link.requests ++ [request] }
      accepted := s.accepted ++ [request] } where
  linked := by
    have hlinked := h.linked
    have hopened : s.Open → Open { s with
        session := ⟨pending, s.session.available, sent⟩
        link := { s.link with requests := s.link.requests ++ [request] }
        accepted := s.accepted ++ [request] } := by
      intro ho
      refine ⟨hav, hopen, ho.eventsOpen, ?_, ho.received⟩
      show s.accepted ++ [request] = _ ++ (s.link.requests ++ [request])
      rw [ho.accepted, List.append_assoc]
    unfold Linked at hlinked ⊢
    dsimp only
    split at hlinked
    · exact ⟨hopened hlinked.1, hlinked.2⟩
    · exact hopened hlinked
    · exact ⟨hlinked.answers, hlinked.waiting⟩
    · exact ⟨hlinked.answers, hlinked.waiting⟩
  kinds := h.kinds
  pending := by
    intro _
    obtain ⟨hmem, hnodup⟩ := h.pending hav
    have hflight : inFlight { s with
        session := ⟨pending, s.session.available, sent⟩
        link := { s.link with requests := s.link.requests ++ [request] }
        accepted := s.accepted ++ [request] } =
        s.inFlight ++ request.completedFavourite.toList := by
      unfold inFlight
      rw [List.drop_append_of_le_length (h.received_le hav), List.filterMap_append]
      cases hcompleted : request.completedFavourite <;> simp [hcompleted]
    rw [hflight]
    cases hcompleted : request.completedFavourite with
    | none =>
        rw [hcompleted] at hpending
        dsimp only at hpending ⊢
        rw [hpending, Option.toList_none, List.append_nil]
        exact ⟨hmem, hnodup⟩
    | some launchRef =>
        rw [hcompleted] at hpending
        obtain ⟨hnew, hpending⟩ := hpending
        dsimp only
        rw [hpending, Option.toList_some]
        constructor
        · intro r
          rw [Finset.mem_insert, List.mem_append, List.mem_singleton, hmem, or_comm]
        · rw [List.nodup_append_comm]
          exact List.nodup_cons.2 ⟨(hmem launchRef).not.1 hnew, hnodup⟩
  cleared := by
    intro hno
    exact absurd (hav.symm.trans hno) (by simp)

theorem sent_unchanged (s : SessionSystem) (result : Except String Unit) :
    s.sent (result, s.session, s.link) = s := by
  unfold sent
  dsimp only
  rw [List.drop_length, List.append_nil]

theorem sent_request (s : SessionSystem) (result : Except String Unit)
    (session : UserStateSession) (request : UserStateRequest) :
    s.sent (result, session, { s.link with requests := s.link.requests ++ [request] }) =
      { s with
        session := session
        link := { s.link with requests := s.link.requests ++ [request] }
        accepted := s.accepted ++ [request] } := by
  unfold sent
  dsimp only
  rw [List.drop_left]

/-- A session that finds the worker gone, or receives that it is. -/
theorem Orderly.markUnavailable (h : s.Orderly) (hclosed : ∀ w, s.worker ≠ .serving w)
    (hopening : s.worker ≠ .opening) (link : Channels) (received : List UserStateEvent) :
    Orderly { s with session := s.session.markUnavailable, link, received } where
  linked := by
    have hlinked := h.linked
    unfold Linked at hlinked ⊢
    dsimp only
    cases hworker : s.worker with
    | opening => exact absurd hworker hopening
    | serving w => exact absurd hworker (hclosed w)
    | closing =>
        rw [hworker] at hlinked
        exact ⟨hlinked.answers, fun hav => by cases hav⟩
    | exited =>
        rw [hworker] at hlinked
        exact ⟨hlinked.answers, fun hav => by cases hav⟩
  kinds := h.kinds
  pending := by
    intro hav
    cases hav
  cleared := by
    intro _
    rfl

/-- The worker is past its loop when its end of the request channel is gone. -/
theorem Orderly.not_open (h : s.Orderly) (hno : ¬s.Open) :
    s.worker ≠ .opening ∧ ∀ w, s.worker ≠ .serving w := by
  have hlinked := h.linked
  unfold Linked at hlinked
  constructor
  · intro hworker
    rw [hworker] at hlinked
    exact hno hlinked.1
  · intro w hworker
    rw [hworker] at hlinked
    exact hno hlinked

/-- What `submit` does, in the three cases it has. -/
theorem submit_cases (session : UserStateSession) (link : Channels) (request : UserStateRequest) :
    (session.available = false ∧
      session.submit link request = (.error "user-state worker unavailable", session, link)) ∨
    (session.available = true ∧ link.requestsOpen = true ∧ session.submit link request =
      (.ok (), session, { link with requests := link.requests ++ [request] })) ∨
    (link.requestsOpen = false ∧ session.submit link request =
      (.error "user-state worker disconnected", session.markUnavailable, link)) := by
  unfold UserStateSession.submit
  cases hav : session.available with
  | false => exact Or.inl ⟨rfl, rfl⟩
  | true =>
      cases hopen : link.requestsOpen with
      | false => exact Or.inr (Or.inr ⟨rfl, rfl⟩)
      | true => exact Or.inr (Or.inl ⟨rfl, rfl, rfl⟩)

/-- A call that finds the worker gone. -/
theorem Orderly.disconnected (h : s.Orderly) (hgone : s.link.requestsOpen = false)
    (result : Except String Unit) :
    (s.sent (result, s.session.markUnavailable, s.link)).Orderly := by
  have hno : ¬s.Open := by
    intro ho
    have hopen := ho.requestsOpen
    rw [hgone] at hopen
    cases hopen
  obtain ⟨hopening, hserving⟩ := h.not_open hno
  have hsent : s.sent (result, s.session.markUnavailable, s.link) =
      { s with session := s.session.markUnavailable, link := s.link, received := s.received } := by
    unfold sent
    dsimp only
    rw [List.drop_length, List.append_nil]
  rw [hsent]
  exact h.markUnavailable hserving hopening s.link s.received

theorem Orderly.refresh (h : s.Orderly) (catalog : ArcadeCatalog) (now : Int) :
    (s.sent (s.session.refresh s.link catalog now)).Orderly := by
  unfold UserStateSession.refresh
  dsimp only
  generalize (if s.session.legacyCatalogSent = true then none else some catalog.games) =
    legacyCatalog
  rcases submit_cases s.session s.link (.refresh legacyCatalog catalog.arcadeSystems now) with
    ⟨-, hsub⟩ | ⟨hav, hopen, hsub⟩ | ⟨hgone, hsub⟩
  · rw [hsub]
    dsimp only
    rw [sent_unchanged]
    exact h
  · rw [hsub]
    dsimp only
    rw [sent_request]
    exact h.accept hav hopen _ s.session.pendingFavourites true rfl
  · rw [hsub]
    exact h.disconnected hgone _

theorem Orderly.setFavourite (h : s.Orderly) (game : UserGameIdentity) (favourite : Bool)
    (now : Int) : (s.sent (s.session.setFavourite s.link game favourite now)).Orderly := by
  unfold UserStateSession.setFavourite
  by_cases hpending : game.launchRef ∈ s.session.pendingFavourites
  · rw [if_pos hpending, sent_unchanged]
    exact h
  · rw [if_neg hpending]
    rcases submit_cases s.session s.link (.setFavourite game favourite now) with
      ⟨-, hsub⟩ | ⟨hav, hopen, hsub⟩ | ⟨hgone, hsub⟩
    · rw [hsub]
      dsimp only
      rw [sent_unchanged]
      exact h
    · rw [hsub]
      dsimp only
      rw [sent_request]
      exact h.accept hav hopen _ _ s.session.legacyCatalogSent ⟨hpending, rfl⟩
    · rw [hsub]
      exact h.disconnected hgone _

theorem polled_unchanged (s : SessionSystem) : s.polled (none, s.session, s.link) = s := by
  unfold polled
  dsimp only
  rw [Option.toList_none, List.append_nil]

/-- The next event of an open channel answers the oldest request in flight. -/
theorem Orderly.receive (h : s.Orderly) (ho : s.Open) {event : UserStateEvent}
    {events : List UserStateEvent} (hevents : s.link.events = event :: events) :
    (s.polled (some event, s.session.observe event, { s.link with events })).Orderly := by
  -- the answer that the event is of
  have hsplit : s.answers.map Answer.event = s.received ++ event :: events := by
    rw [ho.received, hevents]
  obtain ⟨done, waiting, hanswers, hdone, hwaiting⟩ := List.map_eq_append_iff.1 hsplit
  obtain ⟨answer, rest, rfl, hevent, hrest⟩ := List.map_eq_cons_iff.1 hwaiting
  have hkind : event.Answers answer.request := by
    have hmem : answer ∈ s.answers := by
      rw [hanswers]
      exact List.mem_append_right _ List.mem_cons_self
    exact hevent ▸ h.kinds answer hmem
  have hlength : s.received.length = done.length := by
    rw [← hdone, List.length_map]
  have hflight : s.inFlight = answer.request.completedFavourite.toList ++
      (rest.map Answer.request ++ s.link.requests).filterMap
        UserStateRequest.completedFavourite := by
    unfold inFlight
    rw [ho.accepted, hanswers, List.map_append, List.append_assoc, hlength]
    rw [List.drop_left' (List.length_map _), List.map_cons, List.cons_append, List.filterMap_cons]
    cases answer.request.completedFavourite <;> rfl
  have hobserve := UserStateSession.observe_answer s.session hkind
  have hav : (s.session.observe event).available = s.session.available := by
    rw [hobserve]
    split <;> rfl
  have hflight' :
      inFlight (s.polled (some event, s.session.observe event, { s.link with events })) =
      (rest.map Answer.request ++ s.link.requests).filterMap
        UserStateRequest.completedFavourite := by
    unfold inFlight polled
    dsimp only
    rw [ho.accepted, hanswers, List.map_append, List.append_assoc, List.map_cons,
      Option.toList_some, List.length_append, hlength, List.length_singleton,
      ← List.length_map (f := Answer.request), List.drop_length_add_append, List.cons_append,
      List.drop_succ_cons, List.drop_zero]
  refine ⟨?_, h.kinds, fun _ => ?_, fun hno => ?_⟩
  · have hlinked := h.linked
    have hopen : Open (s.polled (some event, s.session.observe event, { s.link with events })) := by
      refine ⟨hav.trans ho.available, ho.requestsOpen, ho.eventsOpen, ho.accepted, ?_⟩
      show s.answers.map Answer.event = (s.received ++ [event]) ++ events
      rw [hsplit, List.append_assoc]
      rfl
    unfold Linked at hlinked ⊢
    show match s.worker with
      | .opening => _
      | .serving _ => _
      | .closing | .exited => _
    split at hlinked
    · exact ⟨hopen, hlinked.2⟩
    · exact hopen
    · rw [hlinked.answers] at hsplit
      simp at hsplit
    · rw [hlinked.answers] at hsplit
      simp at hsplit
  · obtain ⟨hmem, hnodup⟩ := h.pending ho.available
    rw [hflight']
    rw [hflight] at hmem hnodup
    show (∀ launchRef, launchRef ∈ (s.session.observe event).pendingFavourites ↔ _) ∧ _
    rw [hobserve]
    cases hcompleted : answer.request.completedFavourite with
    | none =>
        rw [hcompleted, Option.toList_none, List.nil_append] at hmem hnodup
        exact ⟨hmem, hnodup⟩
    | some launchRef =>
        rw [hcompleted, Option.toList_some, List.singleton_append] at hmem hnodup
        obtain ⟨hnot, hnodup⟩ := List.nodup_cons.1 hnodup
        refine ⟨fun r => ?_, hnodup⟩
        dsimp only
        rw [Finset.mem_erase, hmem, List.mem_cons]
        constructor
        · intro hr
          exact hr.2.resolve_left hr.1
        · intro hr
          exact ⟨fun heq => hnot (heq ▸ hr), Or.inr hr⟩
  · have hno' := hav.symm.trans hno
    exact absurd (ho.available.symm.trans hno') (by simp)

theorem Orderly.poll (h : s.Orderly) : (s.polled (s.session.poll s.link)).Orderly := by
  unfold UserStateSession.poll
  by_cases hav : s.session.available = false
  · rw [if_pos hav, polled_unchanged]
    exact h
  · rw [if_neg hav]
    have hav' : s.session.available = true := by simpa using hav
    by_cases ho : s.Open
    · cases hevents : s.link.events with
      | nil =>
          dsimp only
          rw [if_pos ho.eventsOpen, polled_unchanged]
          exact h
      | cons event events => exact h.receive ho hevents
    · obtain ⟨hopening, hserving⟩ := h.not_open ho
      -- the one event of a failed open
      have hlinked := h.linked
      have hevents : ∃ error, s.link.events = [.unavailable error] := by
        unfold Linked at hlinked
        split at hlinked
        · exact absurd hlinked.1 ho
        · exact absurd hlinked ho
        · exact (hlinked.waiting hav').2
        · exact (hlinked.waiting hav').2
      obtain ⟨error, hevents⟩ := hevents
      rw [hevents]
      exact h.markUnavailable hserving hopening _ _

/-! ## 3. The worker and other connections -/

theorem Orderly.opened (h : s.Orderly) (hworker : s.worker = .opening)
    (result : Except String Unit) : (s.opened result).Orderly := by
  have hlinked := h.linked
  unfold Linked at hlinked
  rw [hworker] at hlinked
  obtain ⟨ho, hanswers⟩ := hlinked
  cases result with
  | ok _ =>
      have hopen : Open (s.opened (.ok ())) :=
        ⟨ho.available, ho.requestsOpen, ho.eventsOpen, ho.accepted, ho.received⟩
      exact ⟨hopen, h.kinds, h.pending, h.cleared⟩
  | error error =>
      have hnil : s.received = [] ∧ s.link.events = [] := by
        have hreceived := ho.received
        rw [hanswers] at hreceived
        exact List.append_eq_nil_iff.1 hreceived.symm
      refine ⟨⟨hanswers, fun _ => ⟨hnil.1, error, ?_⟩⟩, h.kinds, h.pending, h.cleared⟩
      show s.link.events ++ [UserStateEvent.unavailable error] = _
      rw [hnil.2]
      rfl

/-- **The worker takes one request and answers it.** -/
theorem Orderly.worked (h : s.Orderly) {w : Worker} (hworker : s.worker = .serving w)
    {request : UserStateRequest} {requests : List UserStateRequest}
    (hrequests : s.link.requests = request :: requests) (conduct : Conduct) :
    (s.worked w request requests conduct).Orderly := by
  have ho := h.linked
  unfold Linked at ho
  rw [hworker] at ho
  have hkind := w.process_answers s.db request conduct
  unfold SessionSystem.worked
  generalize w.process s.db request conduct = run at *
  obtain ⟨w', db', event⟩ := run
  refine ⟨?_, fun answer hmem => ?_, h.pending, h.cleared⟩
  · refine Open.mk ho.available ho.requestsOpen ho.eventsOpen ?_ ?_
    · show s.accepted = (s.answers ++ [_]).map Answer.request ++ requests
      rw [ho.accepted, hrequests, List.map_append, List.append_assoc]
      rfl
    · show (s.answers ++ [_]).map Answer.event = s.received ++ (s.link.events ++ [event])
      rw [List.map_append, ho.received, List.append_assoc]
      rfl
  · rcases List.mem_append.1 hmem with hmem | hmem
    · exact h.kinds answer hmem
    · obtain rfl := List.mem_singleton.1 hmem
      exact hkind

theorem Orderly.exit (h : s.Orderly) (hworker : s.worker = .closing) :
    Orderly { s with
      worker := .exited
      link := { s.link with requestsOpen := false, eventsOpen := false } } := by
  have hc := h.linked
  unfold Linked at hc
  rw [hworker] at hc
  exact ⟨⟨hc.answers, hc.waiting⟩, h.kinds, h.pending, h.cleared⟩

theorem Orderly.recordPlay (h : s.Orderly) (game : UserGameIdentity) (playedAt : Int) :
    Orderly { s with db := s.db.recordPlay game playedAt } :=
  ⟨h.linked.of_session rfl rfl rfl rfl rfl rfl, h.kinds, h.pending, h.cleared⟩

theorem next_openStore (s : SessionSystem) (result : Except String Unit) :
    (s.worker = .opening ∧ s.next (.openStore result) = s.opened result) ∨
      s.next (.openStore result) = s := by
  cases hworker : s.worker with
  | opening => exact Or.inl ⟨rfl, by simp only [next, hworker]⟩
  | serving w => exact Or.inr (by simp only [next, hworker])
  | closing => exact Or.inr (by simp only [next, hworker])
  | exited => exact Or.inr (by simp only [next, hworker])

theorem next_work (s : SessionSystem) (conduct : Conduct) :
    (∃ w request requests, s.worker = .serving w ∧ s.link.requests = request :: requests ∧
      s.next (.work conduct) = s.worked w request requests conduct) ∨
      s.next (.work conduct) = s := by
  cases hworker : s.worker with
  | opening => exact Or.inr (by simp only [next, hworker])
  | serving w =>
      cases hrequests : s.link.requests with
      | nil => exact Or.inr (by simp only [next, hworker, hrequests])
      | cons request requests =>
          exact Or.inl ⟨w, request, requests, rfl, rfl, by simp only [next, hworker, hrequests]⟩
  | closing => exact Or.inr (by simp only [next, hworker])
  | exited => exact Or.inr (by simp only [next, hworker])

theorem next_exit (s : SessionSystem) :
    (s.worker = .closing ∧ s.next .exit = { s with
      worker := .exited
      link := { s.link with requestsOpen := false, eventsOpen := false } }) ∨
      s.next .exit = s := by
  cases hworker : s.worker with
  | opening => exact Or.inr (by simp only [next, hworker])
  | serving w => exact Or.inr (by simp only [next, hworker])
  | closing => exact Or.inl ⟨rfl, by simp only [next, hworker]⟩
  | exited => exact Or.inr (by simp only [next, hworker])

/-- **Every step keeps the channels and the pending set in order.** -/
theorem Orderly.next (h : s.Orderly) (a : SessionAction) : (s.next a).Orderly := by
  cases a with
  | refresh catalog now => exact h.refresh catalog now
  | setFavourite game favourite now => exact h.setFavourite game favourite now
  | poll => exact h.poll
  | openStore result =>
      rcases next_openStore s result with ⟨hworker, heq⟩ | heq
      · rw [heq]
        exact h.opened hworker result
      · rw [heq]
        exact h
  | work conduct =>
      rcases next_work s conduct with ⟨w, request, requests, hworker, hrequests, heq⟩ | heq
      · rw [heq]
        exact h.worked hworker hrequests conduct
      · rw [heq]
        exact h
  | exit =>
      rcases next_exit s with ⟨hworker, heq⟩ | heq
      · rw [heq]
        exact h.exit hworker
      · rw [heq]
        exact h
  | recordPlay game playedAt => exact h.recordPlay game playedAt

theorem Orderly.run {as : List SessionAction} {s' : SessionSystem} (h : s.Orderly)
    (hrun : sessionSystem.Run s as s') : s'.Orderly :=
  hrun.invariant (fun s a t hs hstep => by rw [show t = s.next a from hstep]; exact hs.next a) h

/-! ## 4. A session that is over -/

/-- No step makes a session available again. -/
theorem next_unavailable (h : s.session.available = false) (a : SessionAction) :
    (s.next a).session.available = false := by
  have hsubmit : ∀ request, s.session.submit s.link request =
      (.error "user-state worker unavailable", s.session, s.link) := by
    intro request
    unfold UserStateSession.submit
    rw [if_pos h]
  cases a with
  | refresh catalog now =>
      show (s.session.refresh s.link catalog now).2.1.available = false
      unfold UserStateSession.refresh
      dsimp only
      rw [hsubmit]
      exact h
  | setFavourite game favourite now =>
      show (s.session.setFavourite s.link game favourite now).2.1.available = false
      unfold UserStateSession.setFavourite
      rw [hsubmit]
      split
      · exact h
      · exact h
  | poll =>
      show (s.session.poll s.link).2.1.available = false
      unfold UserStateSession.poll
      rw [if_pos h]
      exact h
  | openStore result =>
      rcases next_openStore s result with ⟨-, heq⟩ | heq
      · rw [heq]
        cases result with
        | ok _ => exact h
        | error error => exact h
      · rw [heq]
        exact h
  | work conduct =>
      rcases next_work s conduct with ⟨w, request, requests, -, -, heq⟩ | heq
      · rw [heq]
        exact h
      · rw [heq]
        exact h
  | exit =>
      rcases next_exit s with ⟨-, heq⟩ | heq
      · rw [heq]
        exact h
      · rw [heq]
        exact h
  | recordPlay game playedAt => exact h

/-- **Once a session is unavailable it stays so, with nothing pending.** -/
theorem unavailable_stays {as : List SessionAction} {s' : SessionSystem} (h : s.Orderly)
    (hno : s.session.available = false) (hrun : sessionSystem.Run s as s') :
    s'.session.available = false ∧ s'.session.pendingFavourites = ∅ := by
  have hno' : s'.session.available = false := hrun.invariant
    (P := fun s : SessionSystem => s.session.available = false)
    (fun s a t hs hstep => by rw [show t = s.next a from hstep]; exact next_unavailable hs a) hno
  exact ⟨hno', (h.run hrun).cleared hno'⟩

/-! ## 5. Every request is answered -/

/-- **A serving worker answers what waits, in order, whatever its store calls do.** -/
theorem serving_drains (s : SessionSystem) (h : s.Orderly) {w : Worker}
    (hworker : s.worker = .serving w) (conducts : List Conduct)
    (hlength : conducts.length = s.link.requests.length) :
    ((conducts.map SessionAction.work).foldl SessionSystem.next s).answers.map Answer.request =
      s.accepted := by
  induction conducts generalizing s w with
  | nil =>
      have ho := h.linked
      unfold Linked at ho
      rw [hworker] at ho
      have hnil : s.link.requests = [] := List.length_eq_zero_iff.1 hlength.symm
      rw [ho.accepted, hnil, List.append_nil]
      rfl
  | cons conduct conducts ih =>
      cases hrequests : s.link.requests with
      | nil => rw [hrequests] at hlength; cases hlength
      | cons request requests =>
          have hnext : s.next (.work conduct) = s.worked w request requests conduct := by
            simp only [next, hworker, hrequests]
          rw [List.map_cons, List.foldl_cons, hnext]
          have hacc : (s.worked w request requests conduct).accepted = s.accepted := rfl
          rw [← hacc]
          refine ih _ (h.worked hworker hrequests conduct) rfl ?_
          rw [hrequests, List.length_cons, List.length_cons] at hlength
          exact Nat.succ.inj hlength

end SessionSystem

end MisterMagik.UserState
