/-
  File:      MisterMagik/Host/CachedSessions.lean
  Subject:   THE DISPLAY SHOWS WHOLE FRAMES: sessions of the cached presenter.

  A session is any sequence of calls, reopening included, each of which may fail at any word. The
  legacy command may come between any two words, but not bring a hidden slot to the display.

  * `call_wp` -- every call keeps the invariant;
  * `cached_frames_whole` -- so in every session pixels are written and posts are sent only where
    nobody looks, and what the display shows is one frame of the caller, whole.
-/
import MisterMagik.Host.CachedFrames

namespace MisterMagik.Host

open MisterMagik.Base
open MisterMagik.Fpga
open MisterMagik.Framebuffer (Agrees DirtyRectList Rgb565)
open Relation (ReflTransGen)

variable {usizeMax : Nat} {bases : SlotBases} {plan : ResolvedDisplayPlan}
  {frames : List Rgb565 → Prop} {start : SlotMemory} {w w0 : World SlotMemory}

/-! ## 1. Calls -/

/-- The calls of a caller. -/
inductive ToolCall where
  | «open» (polls : Nat)
  | prepareCached (source : List Rgb565) (damage : DirtyRectList)
  | postPrepared
  | settlePending (polls : Nat)
  | presentCached (source : List Rgb565) (damage : DirtyRectList) (polls : Nat)
  | presentationTelemetry

/-- What a call leaves of a session. A presenter that panics is lost; the ledger was told about the
    source of a call that returns. -/
def Tool.after {α : Type} (tool : Tool usizeMax) (latest : Option (List Rgb565)) :
    Except Halt α × CachedHiddenLatchPresenter usizeMax → Tool usizeMax
  | (.ok _, p) => ⟨some p, latest⟩
  | (.error (.failed _), p) => ⟨some p, tool.latest⟩
  | (.error .panicked, _) => ⟨none, none⟩

/-- A call of the presenter, if there is one. -/
def Tool.onPresenter {α : Type} (tool : Tool usizeMax) (latest : Option (List Rgb565))
    (act : CachedHiddenLatchPresenter.Caching usizeMax α) :
    Prog (DeviceOp.Res (SlotWork.Res usizeMax)) (Tool usizeMax) :=
  match tool.presenter with
  | none => pure tool
  | some p => do
      let result ← act p
      pure (tool.after latest result)

/-- Opening drops the presenter there was. -/
def Tool.call (bases : SlotBases) (plan : ResolvedDisplayPlan) :
    ToolCall → Tool usizeMax → Prog (DeviceOp.Res (SlotWork.Res usizeMax)) (Tool usizeMax)
  | .open polls, _ => do
      let result ← CachedHiddenLatchPresenter.open bases plan polls Fpga.opened
      pure ⟨result.1.toOption, none⟩
  | .prepareCached source damage, tool =>
      tool.onPresenter (some source) (CachedHiddenLatchPresenter.prepareCached source damage)
  | .postPrepared, tool => tool.onPresenter tool.latest CachedHiddenLatchPresenter.postPrepared
  | .settlePending polls, tool =>
      tool.onPresenter tool.latest (CachedHiddenLatchPresenter.settlePending polls)
  | .presentCached source damage polls, tool =>
      tool.onPresenter (some source) (CachedHiddenLatchPresenter.presentCached source damage polls)
  | .presentationTelemetry, tool =>
      tool.onPresenter tool.latest CachedHiddenLatchPresenter.presentationTelemetry

/-- What a caller keeps to: its damage covers every change. -/
def May (frames : List Rgb565 → Prop) (call : ToolCall) (tool : Tool usizeMax) : Prop :=
  match call with
  | .prepareCached source damage | .presentCached source damage _ =>
      frames source ∧ source.length ≤ usizeMax ∧
        ∀ p, tool.presenter = some p → Agrees p.transform tool.latest source damage
  | _ => True

/-! ## 2. Every call keeps the invariant -/

theorem onPresenter_wp {tool : Tool usizeMax} {latest : Option (List Rgb565)} {α : Type}
    {act : CachedHiddenLatchPresenter.Caching usizeMax α} (h : ToolInv bases plan frames tool w)
    (hact : ∀ p, tool.presenter = some p →
      Call.wp (slotWires usizeMax bases plan frames start) act
        (fun _ p' w' => ToolInv bases plan frames ⟨some p', latest⟩ w')
        (fun e p' w' => (∃ error, e = .failed error) ∧
          ToolInv bases plan frames ⟨some p', tool.latest⟩ w') p w) :
    (tool.onPresenter latest act).wp (slotWires usizeMax bases plan frames start)
      (ToolInv bases plan frames) w := by
  unfold Tool.onPresenter
  cases hp : tool.presenter with
  | none => exact h
  | some p =>
      refine Prog.wp_bind (Prog.wp_mono (hact p hp) fun result w' hresult => ?_)
      obtain ⟨outcome, p'⟩ := result
      cases outcome with
      | ok a => exact hresult
      | error e =>
          obtain ⟨⟨error, rfl⟩, h'⟩ := hresult
          exact h'

/-- **Every call keeps the invariant.** -/
theorem call_wp (hsame : plan.renderW = plan.fbW) {call : ToolCall} {tool : Tool usizeMax}
    (hmay : May frames call tool) (h : ToolInv bases plan frames tool w) :
    (tool.call bases plan call).wp (slotWires usizeMax bases plan frames start)
      (ToolInv bases plan frames) w := by
  have hself : ∀ {p}, tool.presenter = some p →
      ToolInv bases plan frames ⟨some p, tool.latest⟩ w := by
    intro p hp
    rw [← hp]
    exact h
  cases call with
  | «open» polls =>
      have hopened : Call.wp (slotWires usizeMax bases plan frames start)
          (CachedHiddenLatchPresenter.open bases plan polls) _ _ Fpga.opened w :=
        open_triple polls hsame h.mapped Fpga.opened w h.since
      refine Prog.wp_bind (Prog.wp_mono hopened fun result w' hresult => ?_)
      obtain ⟨outcome, fpga⟩ := result
      cases outcome with
      | ok p => exact hresult
      | error e =>
          have hidle : Idle w.memory w' := hresult
          exact ⟨hidle.ioUio, hidle.memory ▸ h.mapped, fun p hp => by cases hp⟩
  | prepareCached source damage =>
      obtain ⟨hframe, hsize, hagrees⟩ := hmay
      exact onPresenter_wp h fun p hp => Call.wp_mono
        (prepare_wp (hself hp) hframe hsize (hagrees p hp)) (fun _ _ _ hq => hq.1) fun _ _ _ he => he
  | postPrepared =>
      exact onPresenter_wp h fun p hp => Call.wp_mono (post_wp (hself hp)) (fun _ _ _ hq => hq.1)
        fun _ _ _ he => ⟨he.1, he.2.1⟩
  | settlePending polls =>
      exact onPresenter_wp h fun p hp => Call.wp_mono (settle_wp (hself hp)) (fun _ _ _ hq => hq.1)
        fun _ _ _ he => ⟨he.1, he.2.1⟩
  | presentCached source damage polls =>
      obtain ⟨hframe, hsize, hagrees⟩ := hmay
      exact onPresenter_wp h fun p hp => present_wp (hself hp) hframe hsize (hagrees p hp)
  | presentationTelemetry => exact onPresenter_wp h fun p hp => telemetry_wp (hself hp)

/-! ## 3. Runs -/

/-- The bus of a session that began with these slots. -/
abbrev slotBus (usizeMax : Nat) (bases : SlotBases) (plan : ResolvedDisplayPlan)
    (frames : List Rgb565 → Prop) (start : SlotMemory) :
    Surroundings (DeviceOp.Res (SlotWork.Res usizeMax)) (World SlotMemory) :=
  bus bases (slotWork usizeMax bases) (Fit usizeMax bases plan frames start)

/-- The steps of a session: those of the running call, of the bus and of the display, and the next
    call. -/
abbrev SessionStep (usizeMax : Nat) (bases : SlotBases) (plan : ResolvedDisplayPlan)
    (frames : List Rgb565 → Prop) (start : SlotMemory) :=
  Session.Step (slotBus usizeMax bases plan frames start) (May frames) (Tool.call bases plan)

/-- **The display shows whole frames.** In every session, whatever the bus does to its words, where
    the display shows a slot it is a frame of the caller or what was there at the start; and pixels
    are written and posts are sent only where nobody looks. -/
theorem cached_frames_whole (geometry : DisplayGeometry) (outputRoute : ResolvedOutputRoute)
    (fbPolicy : FramebufferSizePolicy) (crt240Composition : Crt240Composition)
    (hplan : plan = .fromGeometry geometry outputRoute fbPolicy crt240Composition)
    (hclosed : Closed w0) (hmapped : ∀ k, (w0.memory.get k).length = strideOf plan * plan.fbH)
    {c : Prog (DeviceOp.Res (SlotWork.Res usizeMax)) (Tool usizeMax) × World SlotMemory}
    (hrun : ReflTransGen (SessionStep usizeMax bases plan frames w0.memory)
      (.ret ⟨none, none⟩, w0) c) :
    (∀ k, c.2.board.lfb.en = true → c.2.board.lfb.base = baseOf bases k →
      c.2.memory.get k = w0.memory.get k ∨
        ∃ source, frames source ∧ ShowsFrame usizeMax plan source (c.2.memory.get k)) ∧
    ∀ o k, c.1 = .op o k → (slotBus usizeMax bases plan frames w0.memory).allowed o c.2 := by
  have hsame : plan.renderW = plan.fbW := by
    rw [hplan]
    exact fromGeometry_width geometry outputRoute fbPolicy crt240Composition
  have hkeeps : (slotBus usizeMax bases plan frames w0.memory).Keeps _ :=
    bus_keeps slotWork_confined
  have hwired : Wired w0 := by
    refine ⟨fun _ => hclosed, fun hio => ?_, fun c ws hgot => ?_⟩
    · rw [hclosed.ioUio] at hio
      cases hio
    · rw [hclosed.line] at hgot
      cases hgot
  have hwhole : Whole bases (Fit usizeMax bases plan frames w0.memory) w0 :=
    fun _ _ => .inl fun _ _ => .inl rfl
  have hstart : ToolInv bases plan frames (⟨none, none⟩ : Tool usizeMax) w0 :=
    ⟨hclosed.ioUio, hmapped, fun p hp => by cases hp⟩
  obtain ⟨⟨-, hshown⟩, hwp⟩ := Session.reachable_wp hkeeps
    (fun tool w w' h he => by
      obtain ⟨p, he⟩ := he
      exact ToolInv.env h he)
    (fun call tool w hmay hw h => Prog.wp_within hkeeps hw (call_wp hsame hmay h))
    ⟨hwired, hwhole⟩ (show Prog.wp _ (.ret ⟨none, none⟩) (ToolInv bases plan frames) w0 from hstart)
    hrun
  refine ⟨fun k hen hbase => ?_, fun o k hop => ?_⟩
  · have hfit := hshown.shown ⟨hen, hbase ▸ baseOf_contains bases k⟩
    exact hfit k hbase.symm
  · rw [hop] at hwp
    exact Prog.wp_allowed hwp

def onePixelPlan : ResolvedDisplayPlan :=
  .fromGeometry ⟨1#16, 1#16, 1#16, 1#16⟩ .hdmi .auto .legacy480

/-- The display shows the first slot, in the geometry of the plan. -/
def firstSlotShown : World SlotMemory :=
  { board :=
      { bridge := ⟨0#8, false, 0#8, .reset⟩
        lfb :=
          { en := true, base := SlotBases.expectedLayout.base1, width := 1#12, height := 1#12
            stride := 16#14 }
        ioUio := false }
    line := .empty
    memory := ⟨List.replicate 8 7#16, List.replicate 8 0#16⟩ }

/-- The first word of the first command is lost. -/
def afterLostWord : World SlotMemory :=
  (((firstSlotShown.setIo true false).transfer GET_FBUF_LATCH_CAPS
    ⟨false, none, .error .high⟩).setIo false false).setIo false false

abbrev onePixelBus : Surroundings (DeviceOp.Res (SlotWork.Res (2 ^ 32 - 1))) (World SlotMemory) :=
  slotBus (2 ^ 32 - 1) .expectedLayout onePixelPlan (· = [9#16]) firstSlotShown.memory

abbrev OnePixelStep :=
  SessionStep (2 ^ 32 - 1) .expectedLayout onePixelPlan (· = [9#16]) firstSlotShown.memory

/-- A word is lost, and opening fails. -/
theorem open_loses_word :
    ReflTransGen OnePixelStep (.ret ⟨none, none⟩, firstSlotShown)
      (.ret ⟨none, none⟩, afterLostWord) := by
  have hcall : May (· = [9#16]) (.open 3) (⟨none, none⟩ : Tool (2 ^ 32 - 1)) := trivial
  have hlegal : Legal (firstSlotShown.setIo true false) GET_FBUF_LATCH_CAPS
      ⟨false, none, .error .high⟩ := .lost rfl
  have hlock : ∀ w, onePixelBus.does .flock w (.ok () : Except IoError Unit) w := fun _ => rfl
  have hlevel : ∀ level w, onePixelBus.does (.setIo level) w () (w.setIo level false) :=
    fun _ _ => ⟨false, rfl⟩
  have hlost : onePixelBus.does (.exchange GET_FBUF_LATCH_CAPS) (firstSlotShown.setIo true false)
      (.error .high : Except AckPhase SpiCapture) _ := ⟨_, hlegal, rfl, rfl⟩
  have hunlock : ∀ w, onePixelBus.does .funlock w () w := fun _ => rfl
  refine .head (.call (.open 3) _ _ hcall) ?_
  refine .head (.run (.op _ (hlock _))) ?_
  refine .head (.run (.op _ (hlevel true _))) ?_
  refine .head (.run (.op _ hlost)) ?_
  refine .head (.run (.op _ (hlevel false _))) ?_
  refine .head (.run (.op _ (hlevel false _))) ?_
  exact .single (.run (.op _ (hunlock _)))

/-- Opening again, and the first frame. -/
def firstFrame : List ToolCall :=
  [.open 3, .prepareCached [9#16] .new, .postPrepared, .settlePending 3]

/-- The vertical blank comes while the post settles. -/
def blankComes : ToolCall → Bool
  | .settlePending _ => true
  | _ => false

/-- The source is the one frame, and the presenter has returned for none before. -/
def mayFirst (call : ToolCall) (tool : Tool (2 ^ 32 - 1)) : Bool :=
  match call with
  | .prepareCached source _ | .presentCached source _ _ =>
      source == [9#16] && tool.latest.isNone
  | _ => true

theorem may_of_mayFirst {call : ToolCall} {tool : Tool (2 ^ 32 - 1)}
    (h : mayFirst call tool = true) : May (· = [9#16]) call tool := by
  cases call with
  | prepareCached source damage | presentCached source damage polls =>
      simp only [mayFirst, Bool.and_eq_true, beq_iff_eq, Option.isNone_iff_eq_none] at h
      obtain ⟨rfl, hlatest⟩ := h
      refine ⟨rfl, by decide, fun p _ old hold => ?_⟩
      rw [hlatest] at hold
      cases hold
  | «open» | postPrepared | settlePending | presentationTelemetry => trivial

/-- The frame is prepared, posted and applied: the display shows the second slot, with new pixels
    in it. -/
theorem firstFrame_applied : ∃ tool w,
    ReflTransGen OnePixelStep (.ret ⟨none, none⟩, afterLostWord) (.ret tool, w) ∧
      w.board.lfb.en = true ∧ w.board.lfb.base = baseOf .expectedLayout .slot2 ∧
      w.memory.get .slot2 ≠ firstSlotShown.memory.get .slot2 := by
  have h : ((Session.play mayFirst (Tool.call .expectedLayout onePixelPlan)
      (fun call => World.actFaultless (slotWork (2 ^ 32 - 1) .expectedLayout) (blankComes call))
      firstFrame ⟨none, none⟩ afterLostWord).any fun c =>
        c.2.board.lfb.en && c.2.board.lfb.base == baseOf .expectedLayout .slot2 &&
          c.2.memory.get .slot2 != firstSlotShown.memory.get .slot2) = true := by
    decide +kernel
  obtain ⟨⟨tool, w⟩, hplay, hend⟩ := (Option.any_eq_true _ _).mp h
  simp only [Bool.and_eq_true, beq_iff_eq, bne_iff_ne] at hend
  obtain ⟨⟨hen, hbase⟩, hnew⟩ := hend
  exact ⟨tool, w, Session.play_steps (fun _ _ => may_of_mayFirst)
    (fun _ _ _ _ _ => World.actFaultless_does) hplay, hen, hbase, hnew⟩

/-- A word is lost, opening fails and is done again; then a frame is prepared, posted and applied,
    and the display shows it whole. -/
theorem cached_frames_whole_first_frame : ∃ tool w,
    ReflTransGen OnePixelStep (.ret ⟨none, none⟩, firstSlotShown) (.ret tool, w) ∧
      w.board.lfb.en = true ∧ w.board.lfb.base = baseOf .expectedLayout .slot2 ∧
      w.memory.get .slot2 ≠ firstSlotShown.memory.get .slot2 ∧
      ShowsFrame (2 ^ 32 - 1) onePixelPlan [9#16] (w.memory.get .slot2) := by
  obtain ⟨tool, w, hrun, hen, hbase, hnew⟩ := firstFrame_applied
  have hrun : ReflTransGen OnePixelStep (.ret ⟨none, none⟩, firstSlotShown) (.ret tool, w) :=
    open_loses_word.trans hrun
  obtain ⟨hshown, -⟩ := cached_frames_whole _ _ _ _ rfl ⟨rfl, rfl, rfl⟩
    (fun k => by cases k <;> rfl) hrun
  obtain hold | ⟨source, rfl, hframe⟩ := hshown .slot2 hen hbase
  · exact absurd hold hnew
  · exact ⟨tool, w, hrun, hen, hbase, hnew, hframe⟩

end MisterMagik.Host
