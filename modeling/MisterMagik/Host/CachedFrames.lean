/-
  File:      MisterMagik/Host/CachedFrames.lean
  Subject:   The calls of the cached presenter, on a bus that loses and garbles words and under
             vertical blanks and legacy writes at any moment.

  The invariant says in which phase a presenter is (`Phase`) and what the latch and the slots are
  then; a presenter that does not know what became of its post is poisoned and says nothing.

  * `Fit` -- what may be shown: a frame of the caller, whole, or what was there at the start;
  * `prepare_wp`, `post_wp`, `settle_wp`, `present_wp`, `telemetry_wp`, `open_triple` -- every call
    keeps the invariant, whether it returns or fails at any word.
-/
import MisterMagik.Host.DeviceRules
import MisterMagik.Host.HiddenPresenter

namespace MisterMagik.Host

open MisterMagik.Base
open MisterMagik.Fpga
open MisterMagik.Framebuffer (Agrees Cached DirtyRect DirtyRectList PerSlot Rgb565)
open MisterMagik.Framebuffer (Rgb565FrameView SlotIndex TwoSlotDamageLedger VerticalCopyStats)
open MisterMagik.Framebuffer (VerticalRect VerticalRgb565Transform cached_new)
open Relation (ReflTransGen)

/-! ## 1. Frames -/

variable {usizeMax : Nat} {bases : SlotBases} {plan : ResolvedDisplayPlan}

/-- The row length of the slots. -/
def strideOf (plan : ResolvedDisplayPlan) : Nat := rgb565StrideBytes plan.fbW / 2

/-- A slot holds this frame, scaled to the framebuffer. -/
def ShowsFrame (usizeMax : Nat) (plan : ResolvedDisplayPlan) (source content : List Rgb565) :
    Prop :=
  ∃ t, VerticalRgb565Transform.new usizeMax plan.renderW plan.renderH plan.fbH = .ok t ∧
    t.HoldsScaling (t.viewOf source) content (strideOf plan)

/-- Fit to be shown: a frame of the caller, whole, or what was there at the start. -/
def Fit (usizeMax : Nat) (bases : SlotBases) (plan : ResolvedDisplayPlan)
    (frames : List Rgb565 → Prop) (start : SlotMemory) (base : BitVec 32) (memory : SlotMemory) :
    Prop :=
  ∀ k, baseOf bases k = base → memory.get k = start.get k ∨
    ∃ source, frames source ∧ ShowsFrame usizeMax plan source (memory.get k)

theorem baseOf_contains (bases : SlotBases) (k : SlotIndex) : bases.Contains (baseOf bases k) := by
  cases k with
  | slot1 => exact .inl rfl
  | slot2 => exact .inr rfl

theorem baseOf_injective {j k : SlotIndex} (h : baseOf bases j = baseOf bases k) : j = k := by
  cases j <;> cases k
  · rfl
  · exact absurd h bases.distinct
  · exact absurd h.symm bases.distinct
  · rfl

variable {frames : List Rgb565 → Prop} {start : SlotMemory}

theorem fit_of_shows {k : SlotIndex} {memory : SlotMemory} {source : List Rgb565}
    (hf : frames source) (h : ShowsFrame usizeMax plan source (memory.get k)) :
    Fit usizeMax bases plan frames start (baseOf bases k) memory := by
  intro j hj
  obtain rfl := baseOf_injective hj
  exact .inr ⟨source, hf, h⟩

theorem other_ne (k : SlotIndex) : k.other ≠ k := by cases k <;> decide

/-- Copying into one slot leaves the other as it was. -/
theorem slotWork_confined :
    Confined bases (Fit usizeMax bases plan frames start) (slotWork usizeMax bases) := by
  intro c memory base _ htarget hfit
  cases c with
  | copyRect slot t source rect stride =>
      intro k hk
      have hne : k ≠ slot := by
        rintro rfl
        exact htarget (congrArg some hk)
      have hget : ((slotWork usizeMax bases).act (.copyRect slot t source rect stride) memory).2.get k
          = memory.get k := PerSlot.get_set_of_ne _ hne _
      rw [hget]
      exact hfit k hk

/-! ## 2. The invariant -/

/-- The raw presenter of a plan. -/
structure Built (bases : SlotBases) (plan : ResolvedDisplayPlan) (raw : HiddenLatchPresenter) :
    Prop where
  bases : raw.bases = bases
  width : raw.width.toNat = plan.fbW
  sequence : raw.sequence ≠ 0#16

/-- What a presenter that is not poisoned is doing. -/
inductive Phase (bases : SlotBases) (frames : List Rgb565 → Prop)
    (p : CachedHiddenLatchPresenter usizeMax) (latest : Option (List Rgb565)) (stride : Nat)
    (w : World SlotMemory) : Prop where
  | idle (hpending : p.raw.pending = none) (hprepared : p.preparedSlot = none)
      (hidden : Hidden (baseOf bases p.raw.writableSlot) w.scanout)
  | prepared (source : List Rgb565) (hpending : p.raw.pending = none)
      (hprepared : p.preparedSlot = some p.raw.writableSlot)
      (hidden : Hidden (baseOf bases p.raw.writableSlot) w.scanout) (hframe : frames source)
      (hlatest : latest = some source)
      (holds : p.transform.HoldsScaling (p.transform.viewOf source)
        (w.memory.get p.raw.writableSlot) stride)
  | posted (source : List Rgb565) (q : Post)
      (hpending : p.raw.pending = some ⟨p.raw.writableSlot, q.sequence, q.route.base⟩)
      (hprepared : p.preparedSlot = some p.raw.writableSlot)
      (hbase : q.route.base = baseOf bases p.raw.writableSlot) (hen : q.route.en = true)
      (hseq : q.sequence ≠ 0#16) (fate : Fate q w.scanout) (hframe : frames source)
      (hlatest : latest = some source)
      (holds : p.transform.HoldsScaling (p.transform.viewOf source)
        (w.memory.get p.raw.writableSlot) stride)

/-- The presenter agrees with the plan, and as long as it is not poisoned with the latch and the
    slots. -/
structure Coherent (bases : SlotBases) (plan : ResolvedDisplayPlan) (frames : List Rgb565 → Prop)
    (p : CachedHiddenLatchPresenter usizeMax) (latest : Option (List Rgb565))
    (w : World SlotMemory) : Prop where
  built : Built bases plan p.raw
  renderWidth : p.renderWidth = plan.renderW
  renderHeight : p.renderHeight = plan.renderH
  transform : VerticalRgb565Transform.new usizeMax plan.renderW plan.renderH plan.fbH =
    .ok p.transform
  cached : p.poisoned = false → Cached p.transform (strideOf plan) p.ledger latest w.memory
  phase : p.poisoned = false → Phase bases frames p latest (strideOf plan) w

/-- A session: the presenter, and the source its ledger was last told about. -/
structure Tool (usizeMax : Nat) where
  presenter : Option (CachedHiddenLatchPresenter usizeMax)
  latest : Option (List Rgb565)

/-- Between two calls. -/
structure ToolInv (bases : SlotBases) (plan : ResolvedDisplayPlan) (frames : List Rgb565 → Prop)
    (tool : Tool usizeMax) (w : World SlotMemory) : Prop where
  ioUio : w.board.ioUio = false
  mapped : ∀ k, (w.memory.get k).length = strideOf plan * plan.fbH
  presenter : ∀ p, tool.presenter = some p → Coherent bases plan frames p tool.latest w

variable {p : CachedHiddenLatchPresenter usizeMax} {latest : Option (List Rgb565)}
  {w w' : World SlotMemory}

theorem Phase.quiet {stride : Nat} (h : Phase bases frames p latest stride w)
    (hq : Quiet bases w.scanout w'.scanout) (hm : w'.memory = w.memory) :
    Phase bases frames p latest stride w' := by
  cases h with
  | idle hpending hprepared hidden =>
      exact .idle hpending hprepared (hq.hidden (baseOf_contains _ _) hidden)
  | prepared source hpending hprepared hidden hframe hlatest holds =>
      exact .prepared source hpending hprepared (hq.hidden (baseOf_contains _ _) hidden) hframe
        hlatest (hm ▸ holds)
  | posted source q hpending hprepared hbase hen hseq fate hframe hlatest holds =>
      exact .posted source q hpending hprepared hbase hen hseq
        (hq.fate (hbase ▸ baseOf_contains _ _) fate) hframe hlatest (hm ▸ holds)

theorem Coherent.quiet (h : Coherent bases plan frames p latest w)
    (hq : Quiet bases w.scanout w'.scanout) (hm : w'.memory = w.memory) :
    Coherent bases plan frames p latest w' :=
  { h with
    cached := fun hp => hm ▸ h.cached hp
    phase := fun hp => (h.phase hp).quiet hq hm }

theorem ToolInv.env {ports : LatchPorts} {tool : Tool usizeMax}
    (h : ToolInv bases plan frames tool w) (he : World.Env bases ports w w') :
    ToolInv bases plan frames tool w' where
  ioUio := he.ioUio.trans h.ioUio
  mapped := he.memory ▸ h.mapped
  presenter p hp := (h.presenter p hp).quiet (.single he.step) he.memory

/-- A poisoned presenter says nothing of the latch and the slots. -/
theorem Coherent.poisoned {p' : CachedHiddenLatchPresenter usizeMax} {latest' : Option (List Rgb565)}
    (h : Coherent bases plan frames p latest w) (hraw : Built bases plan p'.raw)
    (hwidth : p'.renderWidth = p.renderWidth) (hheight : p'.renderHeight = p.renderHeight)
    (ht : p'.transform = p.transform) (hp : p'.poisoned = true) :
    Coherent bases plan frames p' latest' w' where
  built := hraw
  renderWidth := hwidth.trans h.renderWidth
  renderHeight := hheight.trans h.renderHeight
  transform := ht ▸ h.transform
  cached hlive := by rw [hp] at hlive; cases hlive
  phase hlive := by rw [hp] at hlive; cases hlive

/-! ## 3. The raw presenter -/

/-- The bus of a session. -/
abbrev slotWires (usizeMax : Nat) (bases : SlotBases) (plan : ResolvedDisplayPlan)
    (frames : List Rgb565 → Prop) (start : SlotMemory) :
    Surroundings (DeviceOp.Res (SlotWork.Res usizeMax)) (World SlotMemory) :=
  wires bases (slotWork usizeMax bases) (Fit usizeMax bases plan frames start)

variable {α ε : Type} {s : Scanout} {m : SlotMemory}

theorem wp_onFpga {act : SlotDevice usizeMax HiddenLatchError α} {P : World SlotMemory → Prop}
    {Q : α → World SlotMemory → Prop} {E : World SlotMemory → Prop} {raw : HiddenLatchPresenter}
    {Q' : α → HiddenLatchPresenter → World SlotMemory → Prop}
    {E' : Halt → HiddenLatchPresenter → World SlotMemory → Prop}
    (h : act.Triple (slotWires usizeMax bases plan frames start) P Q E) (hw : P w)
    (hQ : ∀ a fpga w, Q a w → Q' a { raw with fpga } w)
    (hE : ∀ e fpga w, E w → E' (.failed e) { raw with fpga } w) :
    (HiddenLatchPresenter.onFpga act).wp (slotWires usizeMax bases plan frames start) Q' E' raw
      w :=
  Call.wp_zoom (Call.wp_mapError (Call.wp_mono (h raw.fpga w hw) hQ hE))

theorem readLabStatus_quietly (width height : Word) (budget : LogicalStatusReadBudget) :
    Quietly bases (slotWork usizeMax bases) (Fit usizeMax bases plan frames start)
      (readLabStatus bases width height budget) := by
  intro s m
  unfold readLabStatus
  split
  · exact .throw fun _ h => h
  · refine .bind (.mapError (readStatus_quietly s m)) fun status => ?_
    dsimp only
    split
    · exact .throw fun _ h => h
    · exact .pure fun _ h => h

theorem nextSequence_ne_zero (sequence : Word) : nextSequence sequence ≠ 0#16 := by
  unfold nextSequence
  dsimp only
  split
  · decide
  · assumption

/-- The request of a post asks for an enabled route of its base. -/
theorem route_request (request : LatchPostRequest) :
    request.route.base = request.baseAddr ∧ request.route.en = true := by
  refine ⟨rfl, ?_⟩
  unfold LatchPostRequest.route LatchSetPayload.route setPayload
  dsimp only
  decide

/-- What a successful post leaves of a raw presenter. -/
structure Posted (bases : SlotBases) (raw raw' : HiddenLatchPresenter) (q : Post) : Prop where
  pending : raw'.pending = some ⟨raw.writableSlot, q.sequence, q.route.base⟩
  writableSlot : raw'.writableSlot = raw.writableSlot
  base : q.route.base = baseOf bases raw.writableSlot
  en : q.route.en = true
  sequence : q.sequence = raw.sequence

/-- **A post of the raw presenter**: it returns only if the latch accepted the frame. -/
theorem rawPost_wp {raw : HiddenLatchPresenter} (hbuilt : Built bases plan raw)
    (hpending : raw.pending = none) (hidden : Hidden (baseOf bases raw.writableSlot) s)
    (hfit : Fit usizeMax bases plan frames start (baseOf bases raw.writableSlot) m)
    (h : Since bases false s m w) :
    Call.wp (slotWires usizeMax bases plan frames start) HiddenLatchPresenter.post
      (fun receipt raw' w' => Built bases plan raw' ∧ receipt.slotIndex = raw.writableSlot ∧
        ∃ q s1, Posted bases raw raw' q ∧ Fate q s1 ∧ Since bases false s1 m w')
      (fun e raw' w' => (∃ error, e = .failed error) ∧ Built bases plan raw' ∧ Idle m w') raw w := by
  have hnext := nextSequence_ne_zero raw.sequence
  obtain ⟨rfl, hwidth, -⟩ := hbuilt
  unfold HiddenLatchPresenter.post
  refine Call.wp_bind (Call.wp_get.mpr ?_)
  rw [hpending]
  dsimp only
  refine Call.wp_bind (Call.wp_modify.mpr (Call.wp_bind ?_))
  refine wp_onFpga (.mapError (postConfirm_triple (readLabStatus_quietly raw.width raw.height)
    (baseOf_contains raw.bases raw.writableSlot) hidden hfit)) h (fun receipt fpga w' h => ?_)
    fun e fpga w' h => ⟨⟨e, rfl⟩, ⟨rfl, hwidth, hnext⟩, h⟩
  refine Call.wp_bind (Call.wp_modify.mpr (Call.wp_pure.mpr ⟨⟨rfl, hwidth, hnext⟩, rfl, ?_⟩))
  obtain ⟨s1, q, hroute, hseq, hfate, h⟩ := h
  have hrequest := route_request
    { sequence := raw.sequence
      slotIndex := slotNumber raw.writableSlot
      baseAddr := baseOf raw.bases raw.writableSlot
      width := raw.width
      height := raw.height
      geometry := raw.geometry }
  rw [← hroute] at hrequest
  exact ⟨q, s1, ⟨by rw [hseq, hrequest.1], rfl, hrequest.1, hrequest.2, hseq⟩, hfate, h⟩

/-- With a post pending, nothing is sent. -/
theorem rawPost_pending {raw : HiddenLatchPresenter} {pending : PendingPresentation}
    (hpending : raw.pending = some pending) :
    Call.wp (slotWires usizeMax bases plan frames start) HiddenLatchPresenter.post
      (fun _ _ _ => False)
      (fun e raw' w' => (∃ error, e = .failed error) ∧ raw' = raw ∧ w' = w) raw w := by
  unfold HiddenLatchPresenter.post
  refine Call.wp_bind (Call.wp_get.mpr ?_)
  rw [hpending]
  exact ⟨⟨_, rfl⟩, rfl, rfl⟩

/-- **Settling**: it returns a receipt only for a frame the display has shown. -/
theorem rawSettle_wp {raw : HiddenLatchPresenter} {q : Post} {polls : Nat}
    (hbuilt : Built bases plan raw)
    (hpending : raw.pending = some ⟨raw.writableSlot, q.sequence, q.route.base⟩)
    (hbase : q.route.base = baseOf bases raw.writableSlot) (hseq : q.sequence ≠ 0#16)
    (hfate : Fate q s) (h : Since bases false s m w) :
    Call.wp (slotWires usizeMax bases plan frames start) (HiddenLatchPresenter.settlePending polls)
      (fun receipt raw' w' => Built bases plan raw' ∧
        (∃ r, receipt = some r ∧ r.slotIndex = raw.writableSlot) ∧ raw'.pending = none ∧
        raw'.writableSlot = raw.writableSlot.other ∧
        ∃ s0, s0.latch.pending = false ∧ s0.lfb = .ofRoute q.route ∧ Since bases false s0 m w')
      (fun e raw' w' => (∃ error, e = .failed error) ∧ Built bases plan raw' ∧ Idle m w') raw w := by
  obtain ⟨hbases, hwidth, hsequence⟩ := hbuilt
  unfold HiddenLatchPresenter.settlePending
  refine Call.wp_bind (Call.wp_get.mpr ?_)
  rw [hpending]
  dsimp only
  refine Call.wp_bind ?_
  refine wp_onFpga (.mapError (completion_triple q.sequence polls)) h
    (fun completion fpga w' h => ?_)
    fun e fpga w' h => ⟨⟨e, rfl⟩, ⟨hbases, hwidth, hsequence⟩, h.idle⟩
  split
  · have hidle := h.2.2.since.idle
    exact ⟨⟨_, rfl⟩, ⟨hbases, hwidth, hsequence⟩, hidle⟩
  · refine Call.wp_bind (Call.wp_modify.mpr (Call.wp_pure.mpr
      ⟨⟨hbases, hwidth, hsequence⟩, ⟨_, rfl, rfl⟩, rfl, rfl, ?_⟩))
    obtain ⟨s0, -, hidle, hlfb, h⟩ := h.shown (hbase ▸ baseOf_contains _ _) hfate hseq
    exact ⟨s0, hidle, hlfb, h⟩

theorem rawSettle_none {raw : HiddenLatchPresenter} {polls : Nat} (hpending : raw.pending = none) :
    Call.wp (slotWires usizeMax bases plan frames start) (HiddenLatchPresenter.settlePending polls)
      (fun receipt raw' w' => receipt = none ∧ raw' = raw ∧ w' = w) (fun _ _ _ => False) raw w := by
  unfold HiddenLatchPresenter.settlePending
  refine Call.wp_bind (Call.wp_get.mpr ?_)
  rw [hpending]
  exact ⟨rfl, rfl, rfl⟩

/-! ## 4. Preparing -/

theorem set_get (memory : SlotMemory) (k : SlotIndex) : memory.set k (memory.get k) = memory := by
  cases k <;> rfl

theorem set_set (memory : SlotMemory) (k : SlotIndex) (a b : List Rgb565) :
    (memory.set k a).set k b = memory.set k b := by
  cases k <;> rfl

/-- The copies of a restore go into one slot; where one fails, the ledger is told. -/
theorem copyRestore_wp {slot : SlotIndex} {t : VerticalRgb565Transform usizeMax}
    {source : Rgb565FrameView Rgb565} {stride : Nat} (hsource : t.FrameOf source)
    (hidden : Hidden (baseOf bases slot) s) (rects : List DirtyRect)
    (htarget : t.TargetOf (m.get slot) stride) (h : Since bases false s m w) :
    Call.wp (slotWires usizeMax bases plan frames start)
      (CachedHiddenLatchPresenter.copyRestore slot t source stride rects)
      (fun _ p' w' => p' = p ∧ Since bases false s
        (m.set slot (t.copyRects source (rects.map .ofDirty) (m.get slot) stride)) w')
      (fun e p' w' => (∃ error, e = .failed error) ∧
        p' = { p with ledger := p.ledger.markAttemptFailed slot } ∧
        ∃ content, content.length = (m.get slot).length ∧
          Since bases false s (m.set slot content) w') p w := by
  induction rects generalizing m w with
  | nil =>
      refine ⟨rfl, ?_⟩
      show Since bases false s (m.set slot (m.get slot)) w
      rwa [set_get]
  | cons rect rects ih =>
      obtain ⟨hlength, -, -, hsafe⟩ :=
        VerticalRgb565Transform.copyRect_redrawn hsource htarget (.ofDirty rect)
      have htarget' :=
        VerticalRgb565Transform.targetOf_copyRect hsource htarget (.ofDirty rect)
      refine Call.wp_bind (Call.wp_perform stable_since h (fun w hw base hbase => ?_)
        fun w r w' hw hd => ?_)
      · obtain rfl := Option.some.inj hbase
        exact (hw.quiet.hidden (baseOf_contains bases slot) hidden).safe
      · obtain ⟨⟨hact, hw'⟩, -⟩ := hd
        have hr : r = (t.copyRect source (.ofDirty rect) (w.memory.get slot) stride).2 :=
          congrArg Prod.fst hact
        have hm : w'.memory = w.memory.set slot
            (t.copyRect source (.ofDirty rect) (w.memory.get slot) stride).1 :=
          congrArg Prod.snd hact
        rw [hw.memory] at hr hm
        have hsince : Since bases false s
            (m.set slot (t.copyRect source (.ofDirty rect) (m.get slot) stride).1) w' := by
          rw [hw', hm]
          exact ⟨⟨hw.quiet, rfl⟩, hw.ioUio⟩
        cases hcopied : (t.copyRect source (.ofDirty rect) (m.get slot) stride).2 with
        | error fault =>
            rw [hcopied] at hr
            obtain rfl := hr
            cases fault with
            | panic => exact absurd hcopied hsafe
            | error message => exact ⟨⟨_, rfl⟩, rfl, _, hlength, hsince⟩
        | ok copied =>
            rw [hcopied] at hr
            obtain rfl := hr
            have hslot := PerSlot.get_set_self m slot
              (t.copyRect source (.ofDirty rect) (m.get slot) stride).1
            refine Call.wp_bind (Call.wp_mono (ih (by rwa [hslot]) hsince) (fun rest p' w' h => ?_)
              fun e p' w' h => ?_)
            · rw [hslot, set_set] at h
              cases copied with
              | none => exact h
              | some stats => exact h
            · obtain ⟨herror, hp', content, hcontent, h⟩ := h
              rw [hslot, hlength] at hcontent
              rw [set_set] at h
              exact ⟨herror, hp', content, hcontent, h⟩

theorem transform_of_new {a b c : Nat} {t : VerticalRgb565Transform usizeMax}
    (h : VerticalRgb565Transform.new usizeMax a b c = .ok t) :
    t.width = a ∧ t.sourceHeight = b ∧ t.destinationHeight = c := by
  unfold VerticalRgb565Transform.new VerticalRgb565Transform.newWithSampling at h
  split at h
  · split at h
    · split at h
      · obtain rfl := Except.ok.inj h
        exact ⟨rfl, rfl, rfl⟩
      · cases h
    · cases h
  · cases h

theorem copyRects_length {t : VerticalRgb565Transform usizeMax} {source : Rgb565FrameView Rgb565}
    {before : List Rgb565} {stride : Nat} (hsource : t.FrameOf source)
    (htarget : t.TargetOf before stride) (rects : List VerticalRect) :
    (t.copyRects source rects before stride).length = before.length := by
  induction rects generalizing before with
  | nil => rfl
  | cons r rects ih =>
      rw [VerticalRgb565Transform.copyRects_cons,
        ih (VerticalRgb565Transform.targetOf_copyRect hsource htarget r)]
      exact (VerticalRgb565Transform.copyRect_redrawn hsource htarget r).1

/-- What a presenter copies from is a frame of its transform. -/
theorem Coherent.view (h : Coherent bases plan frames p latest w) (source : List Rgb565) :
    p.sourceView source = p.transform.viewOf source := by
  obtain ⟨hw, hh, -⟩ := transform_of_new h.transform
  unfold CachedHiddenLatchPresenter.sourceView VerticalRgb565Transform.viewOf
  rw [h.renderWidth, h.renderHeight, hw, hh]

theorem Coherent.frameOf (h : Coherent bases plan frames p latest w) {source : List Rgb565}
    (hsize : source.length ≤ usizeMax) (hneeded : ¬ source.length < p.needed) :
    p.transform.FrameOf (p.transform.viewOf source) := by
  have hsource := p.transform.source_fits
  obtain ⟨hw, hh, -⟩ := transform_of_new h.transform
  refine ⟨rfl, rfl, Nat.le_refl _, ?_, hsize⟩
  show p.transform.width * p.transform.sourceHeight ≤ source.length
  unfold CachedHiddenLatchPresenter.needed at hneeded
  rw [h.renderWidth, h.renderHeight, ← hw, ← hh] at hneeded
  omega

theorem Built.stride {raw : HiddenLatchPresenter} (h : Built bases plan raw) :
    raw.stridePixels = strideOf plan := by
  unfold HiddenLatchPresenter.stridePixels strideOf
  rw [h.width]
  rfl

/-- Where nothing is prepared, nothing is pending, and the next slot is hidden. -/
theorem Phase.unprepared {stride : Nat} (h : Phase bases frames p latest stride w)
    (hprepared : p.preparedSlot = none) :
    p.raw.pending = none ∧ Hidden (baseOf bases p.raw.writableSlot) w.scanout := by
  cases h with
  | idle hpending _ hidden => exact ⟨hpending, hidden⟩
  | prepared _ _ hsome => rw [hprepared] at hsome; cases hsome
  | posted _ _ _ hsome => rw [hprepared] at hsome; cases hsome

theorem ensureHealthy_wp {Q : Unit → CachedHiddenLatchPresenter usizeMax → World SlotMemory → Prop}
    {E : Halt → CachedHiddenLatchPresenter usizeMax → World SlotMemory → Prop}
    (hlive : p.poisoned = false → Q () p w)
    (hpoisoned : p.poisoned = true → ∀ error, E (.failed error) p w) :
    Call.wp (slotWires usizeMax bases plan frames start) CachedHiddenLatchPresenter.ensureHealthy
      Q E p w := by
  unfold CachedHiddenLatchPresenter.ensureHealthy
  refine Call.wp_bind (Call.wp_get.mpr ?_)
  cases hp : p.poisoned with
  | true =>
      rw [if_pos rfl]
      exact hpoisoned hp _
  | false =>
      rw [if_neg (by decide)]
      exact hlive hp

/-- The bus of a call that finds it idle. -/
theorem ToolInv.since {tool : Tool usizeMax} (h : ToolInv bases plan frames tool w) :
    Since bases false w.scanout w.memory w :=
  ⟨⟨.refl, rfl⟩, h.ioUio⟩

/-- A copy keeps the length of its slot. -/
theorem ToolInv.mapped_set {tool : Tool usizeMax} (h : ToolInv bases plan frames tool w)
    {slot : SlotIndex} {content : List Rgb565}
    (hlength : content.length = (w.memory.get slot).length) (k : SlotIndex) :
    ((w.memory.set slot content).get k).length = strideOf plan * plan.fbH := by
  rw [PerSlot.get_set]
  split
  · rename_i hk
    rw [hlength, hk]
    exact h.mapped k
  · exact h.mapped k

/-- A presenter that gives up is poisoned, and the bus is idle. -/
theorem ToolInv.gives_up {p' : CachedHiddenLatchPresenter usizeMax}
    {latest' : Option (List Rgb565)} (h : ToolInv bases plan frames ⟨some p, latest⟩ w)
    (hidle : Idle w.memory w') (hraw : Built bases plan p'.raw)
    (hwidth : p'.renderWidth = p.renderWidth) (hheight : p'.renderHeight = p.renderHeight)
    (ht : p'.transform = p.transform) (hp : p'.poisoned = true) :
    ToolInv bases plan frames ⟨some p', latest'⟩ w' where
  ioUio := hidle.ioUio
  mapped := hidle.memory ▸ h.mapped
  presenter q hq := by
    obtain rfl := Option.some.inj hq
    exact (h.presenter p rfl).poisoned hraw hwidth hheight ht hp

/-- **Preparing**: the slot nobody looks at holds the source whole. -/
theorem prepare_wp {source : List Rgb565} {damage : DirtyRectList}
    (h : ToolInv bases plan frames ⟨some p, latest⟩ w) (hframe : frames source)
    (hsize : source.length ≤ usizeMax) (hagrees : Agrees p.transform latest source damage) :
    Call.wp (slotWires usizeMax bases plan frames start)
      (CachedHiddenLatchPresenter.prepareCached source damage)
      (fun _ p' w' => ToolInv bases plan frames ⟨some p', some source⟩ w' ∧
        p'.poisoned = false ∧ p'.preparedSlot ≠ none)
      (fun e p' w' => (∃ error, e = .failed error) ∧
        ToolInv bases plan frames ⟨some p', latest⟩ w') p w := by
  have hp := h.presenter p rfl
  unfold CachedHiddenLatchPresenter.prepareCached
  refine Call.wp_bind (ensureHealthy_wp (fun hlive => ?_) fun _ error => ⟨⟨error, rfl⟩, h⟩)
  refine Call.wp_bind (Call.wp_get.mpr ?_)
  split
  · exact ⟨⟨_, rfl⟩, h⟩
  · rename_i hprepared
    rw [Bool.not_eq_true, Option.isSome_eq_false_iff, Option.isNone_iff_eq_none] at hprepared
    split
    · exact ⟨⟨_, rfl⟩, h⟩
    · rename_i hneeded
      obtain ⟨hpending, hidden⟩ := (hp.phase hlive).unprepared hprepared
      refine Call.wp_bind (Call.wp_modify.mpr (Call.wp_bind (Call.wp_zoom ?_)))
      unfold HiddenLatchPresenter.writableSlotIndex
      refine Call.wp_bind (Call.wp_get.mpr ?_)
      dsimp only
      rw [hpending]
      refine Call.wp_bind (Call.wp_get.mpr (Call.wp_bind ?_))
      have hsource := hp.frameOf hsize hneeded
      have hcached := hp.cached hlive
      have hrecorded := hcached.record hagrees
      have hview : ({ p with ledger := p.ledger.recordDamage damage } :
          CachedHiddenLatchPresenter usizeMax).sourceView source = p.transform.viewOf source :=
        hp.view source
      dsimp only
      rw [hview, hp.built.stride]
      refine Call.wp_mono (copyRestore_wp hsource hidden _ (hrecorded.target _) h.since)
        (fun copied p' w' hcopied => ?_) fun e p' w' hfailed => ?_
      · obtain ⟨rfl, hsince⟩ := hcopied
        obtain ⟨hcached', hholds⟩ := hrecorded.restored hsource rfl
          (copyRects_length hsource (hrecorded.target p.raw.writableSlot) _)
        refine ⟨⟨hsince.ioUio, fun k => ?_, fun q hq => ?_⟩, hlive, by simp⟩
        · rw [hsince.memory]
          exact h.mapped_set (copyRects_length hsource (hrecorded.target _) _) k
        · obtain rfl := Option.some.inj hq
          refine { hp with
            cached := fun _ => by rw [hsince.memory]; exact hcached'
            phase := fun _ => .prepared source hpending rfl ?_ hframe rfl ?_ }
          · exact hsince.quiet.hidden (baseOf_contains bases _) hidden
          · show p.transform.HoldsScaling _ (w'.memory.get p.raw.writableSlot) _
            rw [hsince.memory, PerSlot.get_set_self]
            exact hholds
      · obtain ⟨herror, rfl, content, hcontent, hsince⟩ := hfailed
        refine ⟨herror, ⟨hsince.ioUio, fun k => ?_, fun q hq => ?_⟩⟩
        · rw [hsince.memory]
          exact h.mapped_set hcontent k
        · obtain rfl := Option.some.inj hq
          refine { hp with
            cached := fun _ => by rw [hsince.memory]; exact (hcached.owes damage).failed hcontent
            phase := fun _ => .idle hpending hprepared ?_ }
          exact hsince.quiet.hidden (baseOf_contains bases _) hidden

/-! ## 5. Posting and settling -/

/-- A presenter that goes on after a call of its raw presenter. -/
theorem ToolInv.goes_on {p' : CachedHiddenLatchPresenter usizeMax}
    (h : ToolInv bases plan frames ⟨some p, latest⟩ w) (hidle : Idle w.memory w')
    (hraw : Built bases plan p'.raw) (hwidth : p'.renderWidth = p.renderWidth)
    (hheight : p'.renderHeight = p.renderHeight) (ht : p'.transform = p.transform)
    (hcached : Cached p.transform (strideOf plan) p'.ledger latest w.memory)
    (hphase : Phase bases frames p' latest (strideOf plan) w') :
    ToolInv bases plan frames ⟨some p', latest⟩ w' where
  ioUio := hidle.ioUio
  mapped := hidle.memory ▸ h.mapped
  presenter q hq := by
    obtain rfl := Option.some.inj hq
    have hp := h.presenter p rfl
    refine ⟨hraw, hwidth.trans hp.renderWidth, hheight.trans hp.renderHeight, ht ▸ hp.transform,
      fun _ => ?_, fun _ => hphase⟩
    rw [ht, hidle.memory]
    exact hcached

/-- **Posting**: a post that fails poisons the presenter. -/
theorem post_wp (h : ToolInv bases plan frames ⟨some p, latest⟩ w) :
    Call.wp (slotWires usizeMax bases plan frames start) CachedHiddenLatchPresenter.postPrepared
      (fun _ p' w' => ToolInv bases plan frames ⟨some p', latest⟩ w' ∧ p'.raw.pending ≠ none)
      (fun e p' w' => (∃ error, e = .failed error) ∧
        ToolInv bases plan frames ⟨some p', latest⟩ w' ∧
        (p'.poisoned = true ∨ p.preparedSlot = none)) p w := by
  have hp := h.presenter p rfl
  unfold CachedHiddenLatchPresenter.postPrepared
  refine Call.wp_bind (ensureHealthy_wp (fun hlive => ?_)
    fun hpoisoned error => ⟨⟨error, rfl⟩, h, .inl hpoisoned⟩)
  refine Call.wp_bind (Call.wp_get.mpr ?_)
  cases hprepared : p.preparedSlot with
  | none => exact ⟨⟨_, rfl⟩, h, .inr rfl⟩
  | some slot =>
      dsimp only
      refine Call.wp_bind (Call.wp_attempt (Call.wp_zoom ?_))
      cases hp.phase hlive with
      | idle _ hnone =>
          rw [hprepared] at hnone
          cases hnone
      | prepared source hpending hsome hidden hframe hlatest holds =>
          obtain rfl := Option.some.inj (hprepared.symm.trans hsome)
          have hfit : Fit usizeMax bases plan frames start (baseOf bases p.raw.writableSlot)
              w.memory := fit_of_shows hframe ⟨p.transform, hp.transform, holds⟩
          refine Call.wp_mono (rawPost_wp hp.built hpending hidden hfit h.since)
            (fun receipt raw' w' hposted => ?_) fun e raw' w' hfailed => ?_
          · obtain ⟨hbuilt, hslot, q, s1, hq, hfate, hsince⟩ := hposted
            dsimp only
            rw [if_pos hslot]
            have hnext : raw'.writableSlot = p.raw.writableSlot := hq.writableSlot
            refine ⟨h.goes_on hsince.idle hbuilt rfl rfl rfl (hp.cached hlive) ?_, ?_⟩
            · refine .posted source q ?_ ?_ ?_ hq.en (hq.sequence ▸ hp.built.sequence) ?_ hframe
                hlatest ?_
              · dsimp only
                rw [hnext]
                exact hq.pending
              · dsimp only
                rw [hnext]
                exact hsome
              · dsimp only
                rw [hnext]
                exact hq.base
              · exact hsince.quiet.fate (hq.base ▸ baseOf_contains _ _) hfate
              · dsimp only
                rw [hnext, hsince.memory]
                exact holds
            · dsimp only
              rw [hq.pending]
              exact Option.some_ne_none _
          · obtain ⟨⟨error, rfl⟩, hbuilt, hidle⟩ := hfailed
            exact ⟨⟨error, rfl⟩, h.gives_up hidle hbuilt rfl rfl rfl rfl, .inl rfl⟩
      | posted source q hpending hsome hbase hen hseq fate hframe hlatest holds =>
          refine Call.wp_mono (rawPost_pending hpending) (fun _ _ _ hfalse => hfalse.elim)
            fun e raw' w' hfailed => ?_
          obtain ⟨⟨error, rfl⟩, rfl, rfl⟩ := hfailed
          exact ⟨⟨error, rfl⟩, h.gives_up h.since.idle hp.built rfl rfl rfl rfl, .inl rfl⟩

/-- **Settling**: the frame was on the display, and the other slot is hidden now. -/
theorem settle_wp {polls : Nat} (h : ToolInv bases plan frames ⟨some p, latest⟩ w) :
    Call.wp (slotWires usizeMax bases plan frames start)
      (CachedHiddenLatchPresenter.settlePending polls)
      (fun receipt p' w' => ToolInv bases plan frames ⟨some p', latest⟩ w' ∧
        (receipt = none → p.raw.pending = none))
      (fun e p' w' => (∃ error, e = .failed error) ∧
        ToolInv bases plan frames ⟨some p', latest⟩ w' ∧ p'.poisoned = true) p w := by
  have hp := h.presenter p rfl
  unfold CachedHiddenLatchPresenter.settlePending
  refine Call.wp_bind (ensureHealthy_wp (fun hlive => ?_)
    fun hpoisoned error => ⟨⟨error, rfl⟩, h, hpoisoned⟩)
  have hunsettled : p.raw.pending = none →
      Call.wp (slotWires usizeMax bases plan frames start)
        (CachedHiddenLatchPresenter.onRaw (HiddenLatchPresenter.settlePending polls))
        (fun receipt p' w' => receipt = none ∧ p' = p ∧ w' = w) (fun _ _ _ => False) p w := by
    intro hpending
    refine Call.wp_zoom (Call.wp_mono (rawSettle_none hpending) (fun receipt raw' w' h' => ?_)
      fun _ _ _ hfalse => hfalse)
    obtain ⟨rfl, rfl, rfl⟩ := h'
    exact ⟨rfl, rfl, rfl⟩
  have hphase := hp.phase hlive
  by_cases hpending : p.raw.pending = none
  · refine Call.wp_bind (Call.wp_attempt (Call.wp_mono (hunsettled hpending)
      (fun receipt p' w' h' => ?_) fun _ _ _ hfalse => hfalse.elim))
    obtain ⟨rfl, rfl, rfl⟩ := h'
    exact ⟨h, fun _ => hpending⟩
  · cases hphase with
    | idle hnone => exact absurd hnone hpending
    | prepared _ hnone => exact absurd hnone hpending
    | posted source q hsome hprepared hbase hen hseq fate hframe hlatest holds =>
        refine Call.wp_bind (Call.wp_attempt (Call.wp_zoom (Call.wp_mono
          (rawSettle_wp hp.built hsome hbase hseq fate h.since)
          (fun receipt raw' w' hsettled => ?_) fun e raw' w' hfailed => ?_)))
        · obtain ⟨hbuilt, ⟨r, rfl, hslot⟩, hnone, hother, s0, hidle, hlfb, hsince⟩ := hsettled
          dsimp only
          refine Call.wp_bind (Call.wp_get.mpr ?_)
          rw [if_neg (by rw [hprepared, hslot]; exact fun hne => hne rfl)]
          refine Call.wp_bind (Call.wp_modify.mpr (Call.wp_bind (Call.wp_modify.mpr
            (Call.wp_pure.mpr ⟨h.goes_on hsince.idle hbuilt rfl rfl rfl ?_ ?_, ?_⟩))))
          · subst hlatest
            dsimp only
            rw [hslot]
            exact (hp.cached hlive).presented holds
          · refine .idle hnone rfl (hsince.quiet.hidden (baseOf_contains _ _) ⟨hidle, fun _ => ?_⟩)
            dsimp only
            rw [hlfb, hother]
            show q.route.base ≠ _
            rw [hbase]
            intro heq
            exact other_ne _ (baseOf_injective heq).symm
          · intro hcontra
            cases hcontra
        · obtain ⟨⟨error, rfl⟩, hbuilt, hidle⟩ := hfailed
          dsimp only
          refine Call.wp_bind (Call.wp_get.mpr ?_)
          dsimp only
          rw [hprepared]
          exact ⟨⟨error, rfl⟩, h.gives_up hidle hbuilt rfl rfl rfl rfl, rfl⟩

/-- A poisoned presenter agrees with any source. -/
theorem ToolInv.any_latest {latest' : Option (List Rgb565)}
    (h : ToolInv bases plan frames ⟨some p, latest⟩ w) (hp : p.poisoned = true) :
    ToolInv bases plan frames ⟨some p, latest'⟩ w :=
  h.gives_up h.since.idle (h.presenter p rfl).built rfl rfl rfl hp

/-- **Presenting**: the frame was on the display. -/
theorem present_wp {source : List Rgb565} {damage : DirtyRectList} {polls : Nat}
    (h : ToolInv bases plan frames ⟨some p, latest⟩ w) (hframe : frames source)
    (hsize : source.length ≤ usizeMax) (hagrees : Agrees p.transform latest source damage) :
    Call.wp (slotWires usizeMax bases plan frames start)
      (CachedHiddenLatchPresenter.presentCached source damage polls)
      (fun _ p' w' => ToolInv bases plan frames ⟨some p', some source⟩ w')
      (fun e p' w' => (∃ error, e = .failed error) ∧
        ToolInv bases plan frames ⟨some p', latest⟩ w') p w := by
  refine Call.wp_bind (Call.wp_mono (prepare_wp h hframe hsize hagrees)
    (fun copy p1 w1 hprepared => ?_) fun _ _ _ hfailed => hfailed)
  obtain ⟨h1, -, hsome⟩ := hprepared
  refine Call.wp_bind (Call.wp_mono (post_wp h1) (fun _ p2 w2 hposted => ?_)
    fun e p2 w2 hfailed => ?_)
  · obtain ⟨h2, hpending⟩ := hposted
    refine Call.wp_bind (Call.wp_mono (settle_wp h2) (fun receipt p3 w3 hsettled => ?_)
      fun e p3 w3 hfailed => ?_)
    · obtain ⟨h3, hnone⟩ := hsettled
      cases receipt with
      | some present => exact h3
      | none => exact absurd (hnone rfl) hpending
    · obtain ⟨herror, h3, hpoisoned⟩ := hfailed
      exact ⟨herror, h3.any_latest hpoisoned⟩
  · obtain ⟨herror, h2, hpoisoned | hnone⟩ := hfailed
    · exact ⟨herror, h2.any_latest hpoisoned⟩
    · exact absurd hnone hsome

/-- Reading the telemetry changes nothing. -/
theorem telemetry_wp (h : ToolInv bases plan frames ⟨some p, latest⟩ w) :
    Call.wp (slotWires usizeMax bases plan frames start)
      CachedHiddenLatchPresenter.presentationTelemetry
      (fun _ p' w' => ToolInv bases plan frames ⟨some p', latest⟩ w')
      (fun e p' w' => (∃ error, e = .failed error) ∧
        ToolInv bases plan frames ⟨some p', latest⟩ w') p w := by
  have hkeep : ∀ fpga w', Since bases false w.scanout w.memory w' →
      ToolInv bases plan frames ⟨some { p with raw := { p.raw with fpga } }, latest⟩ w' := by
    intro fpga w' hsince
    refine ⟨hsince.ioUio, hsince.memory ▸ h.mapped, fun q hq => ?_⟩
    obtain rfl := Option.some.inj hq
    have hp := (h.presenter p rfl).quiet hsince.quiet hsince.memory
    refine ⟨⟨hp.built.bases, hp.built.width, hp.built.sequence⟩, hp.renderWidth, hp.renderHeight,
      hp.transform, hp.cached, fun hlive => ?_⟩
    cases hp.phase hlive with
    | idle hpending hprepared hidden => exact .idle hpending hprepared hidden
    | prepared source hpending hprepared hidden hframe hlatest holds =>
        exact .prepared source hpending hprepared hidden hframe hlatest holds
    | posted source q hpending hprepared hbase hen hseq fate hframe hlatest holds =>
        exact .posted source q hpending hprepared hbase hen hseq fate hframe hlatest holds
  refine Call.wp_bind (ensureHealthy_wp (fun _ => ?_) fun _ error => ⟨⟨error, rfl⟩, h⟩)
  exact Call.wp_zoom (wp_onFpga (.mapError (readTelemetry_triple _ _)) h.since
    (fun _ fpga w' hsince => hkeep fpga w' hsince)
    fun e fpga w' hsince => ⟨⟨e, rfl⟩, hkeep fpga w' hsince⟩)

/-! ## 6. Opening -/

theorem tryU16_eq {value : Nat} {message : String} {word : Word}
    (h : tryU16 value message = .ok word) : word.toNat = value := by
  unfold tryU16 at h
  split at h
  · rename_i hlt
    obtain rfl := Except.ok.inj h
    rw [BitVec.toNat_ofNat, Nat.mod_eq_of_lt hlt]
  · cases h

theorem waitForSettled_triple (polls : Nat) :
    (waitForSettledStatus polls : SlotDevice usizeMax HiddenLatchError LatchedFbufStatus).Triple
      (slotWires usizeMax bases plan frames start) (Since bases false s m)
      (fun status w => status.pending = false ∧ StatusRead bases s m status w)
      (Since bases false s m) := by
  induction polls with
  | zero =>
      unfold waitForSettledStatus
      refine .bind (.mapError readStatus_triple) fun status => ?_
      split
      · exact .throw fun _ h => h.since
      · split
        · rename_i hidle
          exact .pure fun _ h => ⟨by simpa using hidle, h⟩
        · exact .throw fun _ h => h.since
  | succ polls ih =>
      unfold waitForSettledStatus
      refine .bind (.mapError readStatus_triple) fun status => ?_
      split
      · exact .throw fun _ h => h.since
      · split
        · rename_i hidle
          exact .pure fun _ h => ⟨by simpa using hidle, h⟩
        · exact ih.mono (fun _ h => h.since) (fun _ _ h => h) fun _ h => h

/-- The slot a new presenter writes first is not on the display. -/
theorem writableSlot_hidden {status : LatchedFbufStatus} {slot : SlotIndex}
    (h : writableSlotForStatus bases status = .ok slot) (hr : Reports status s) :
    Hidden (baseOf bases slot) s := by
  unfold writableSlotForStatus at h
  split at h
  · cases h
  · rename_i hpending
    rw [Bool.not_eq_true] at hpending
    obtain rfl := Except.ok.inj h
    refine ⟨hr.pending.symm.trans hpending, fun _ => ?_⟩
    rw [← hr.activeBase]
    split
    · rename_i hbase
      rw [hbase]
      exact bases.distinct
    · rename_i hbase
      exact hbase

theorem ok_of_mapError {α ε ε' : Type} {x : Except ε α} {g : ε → ε'} {a : α}
    (h : x.mapError g = .ok a) : x = .ok a := by
  cases x with
  | ok b => exact congrArg Except.ok (Except.ok.inj h)
  | error e => cases h

/-- What opening leaves. -/
structure Opened (bases : SlotBases) (plan : ResolvedDisplayPlan) (s : Scanout) (m : SlotMemory)
    (raw : HiddenLatchPresenter) (w : World SlotMemory) : Prop where
  built : Built bases plan raw
  pending : raw.pending = none
  hidden : ∃ s0, Hidden (baseOf bases raw.writableSlot) s0 ∧ Since bases false s0 m w

theorem openForPlan_triple (polls : Nat) :
    (openForPlan bases plan polls : SlotDevice usizeMax HiddenLatchError _).Triple
      (slotWires usizeMax bases plan frames start) (Since bases false s m)
      (fun raw w => Opened bases plan s m raw w ∧ rgb565StrideBytes plan.fbW * plan.fbH ≤ usizeMax)
      (Idle m) := by
  refine .bind (Q := fun width w => width.toNat = plan.fbW ∧ Since bases false s m w)
    (.ofExcept (fun width w h hw => ⟨tryU16_eq h, hw⟩) fun _ _ _ h => h.idle) fun width => ?_
  refine .bind (Q := fun height w => height.toNat = plan.fbH ∧ width.toNat = plan.fbW ∧
      Since bases false s m w)
    (.ofExcept (fun height w h hw => ⟨tryU16_eq h, hw⟩) fun _ _ _ h => h.2.idle) fun height => ?_
  intro fpga w h
  obtain ⟨hheight, hwidth, h⟩ := h
  refine (Call.Triple.bind (Q := fun _ w => rgb565StrideBytes plan.fbW * plan.fbH ≤ usizeMax ∧
      Since bases false s m w)
    (.ofExcept (fun frameLen w hlen hw => ⟨?_, hw⟩) fun _ _ _ h => h.idle) fun _ => ?_) fpga w h
  · have hfits := frame_fits (ok_of_mapError hlen)
    rwa [hwidth, hheight] at hfits
  · intro fpga w h
    obtain ⟨hfits, h⟩ := h
    refine (Call.Triple.bind (.mapError ((readCapabilities_triple s m).mono (fun _ h => h)
      (fun _ _ h => h) fun _ h => h.idle)) fun result => ?_) fpga w h
    split
    · exact .throw fun _ h => h.idle
    · split
      · exact .throw fun _ h => h.idle
      · refine .bind ((waitForSettled_triple polls).mono (fun _ h => h) (fun _ _ h => h)
          fun _ h => h.idle) fun initial => ?_
        refine .bind (Q := fun slot w => ∃ s0, Hidden (baseOf bases slot) s0 ∧
          Since bases false s0 m w) (.ofExcept (fun slot w hslot hw => ?_)
          fun _ _ _ h => h.2.since.idle) fun slot => .bind .get fun fpga => .pure fun w hw => ?_
        · obtain ⟨-, s0, -, hr, hw⟩ := hw
          exact ⟨s0, writableSlot_hidden hslot hr, hw⟩
        · have hfirst : (1#16 : Word) ≠ 0#16 := by decide
          exact ⟨⟨⟨rfl, hwidth, hfirst⟩, rfl, hw⟩, hfits⟩

/-- **Opening**: the new presenter owes both slots everything. -/
theorem open_triple (polls : Nat) (hsame : plan.renderW = plan.fbW)
    (hmapped : ∀ k, (m.get k).length = strideOf plan * plan.fbH) :
    (CachedHiddenLatchPresenter.open bases plan polls :
      SlotDevice usizeMax HiddenLatchError _).Triple (slotWires usizeMax bases plan frames start)
      (Since bases false s m)
      (fun p w => ToolInv bases plan frames ⟨some p, none⟩ w) (Idle m) := by
  refine .bind (openForPlan_triple polls) fun raw => ?_
  refine .bind (Q := fun t w => VerticalRgb565Transform.new usizeMax plan.renderW plan.renderH
      plan.fbH = .ok t ∧ Opened bases plan s m raw w ∧
      rgb565StrideBytes plan.fbW * plan.fbH ≤ usizeMax)
    (.ofExcept (fun t w ht hw => ⟨ok_of_mapError ht, hw⟩) fun _ w _ hw => ?_)
    fun t => .pure fun w hw => ?_
  · obtain ⟨s0, -, hsince⟩ := hw.1.hidden
    exact hsince.idle
  · obtain ⟨ht, ⟨hbuilt, hpending, s0, hhidden, hsince⟩, hfits⟩ := hw
    obtain ⟨htw, hth, htd⟩ := transform_of_new ht
    have htarget : ∀ k, t.TargetOf (w.memory.get k) (strideOf plan) := by
      intro k
      rw [hsince.memory]
      have hstride := width_le_stride plan.fbW
      have hhalf : strideOf plan * plan.fbH ≤ rgb565StrideBytes plan.fbW * plan.fbH :=
        Nat.mul_le_mul_right _ (Nat.div_le_self _ 2)
      refine ⟨?_, ?_, ?_⟩
      · rw [htw, hsame]
        exact hstride
      · rw [htd, hmapped]
      · rw [hmapped]
        exact Nat.le_trans hhalf hfits
    refine ⟨hsince.ioUio, fun k => hsince.memory ▸ hmapped k, fun p hp => ?_⟩
    obtain rfl := Option.some.inj hp
    refine ⟨hbuilt, rfl, rfl, ht, fun _ => ?_, fun _ => ?_⟩
    · rw [← htw, ← hth]
      exact cached_new htarget
    · exact .idle hpending rfl (hsince.quiet.hidden (baseOf_contains _ _) hhidden)

end MisterMagik.Host
