/-
  File:      MisterMagik/Framebuffer/PlanCapacity.lean
  Subject:   The capacity assertion of `DirtyRectList::push` (`damage.rs`, `latch_state.rs`).

  A debug build panics where a rectangle is pushed on a list of `DIRTY_RECT_LIST_CAP`. The debt of
  a slot may hold that many, and planning pushes the layers on top that the slot has to give up.

  * `extendCanonical_spec` -- the debt after damage is the outermost rectangles of both, or the
    whole surface once they were too many;
  * `restoreRectsForDebug_isSome_iff`, `restoreBytesForSlotDebug_isSome_iff` -- when there is room;
  * `restoreRectsForDebug_eq`, `planningRunDebug_eq` -- where there is, a debug build does what a
    release build does;
  * **`planning_has_room_iff`** -- every call after every run, and every run;
  * `full_debt_overruns` -- 32 dots of damage and a preview that goes.
-/
import MisterMagik.Base.Outermost
import MisterMagik.Framebuffer.LayerRedraw
import MisterMagik.Framebuffer.Subtraction

namespace MisterMagik.Framebuffer

open Base (insertOuter outermost Incomparable)

/-! ## 1. Pushes of a debug build -/

/-- Rectangles are ordered by inclusion. -/
instance : PartialOrder DirtyRect where
  le r s := s.contains r = true
  le_refl r := r.contains_refl
  le_trans r s t hrs hst := by
    rw [DirtyRect.contains_iff] at *
    omega
  le_antisymm r s hrs hsr := by
    rw [DirtyRect.contains_iff] at hrs hsr
    cases r
    cases s
    simp only [DirtyRect.mk.injEq] at *
    omega

instance : DecidableLE DirtyRect := fun r s => inferInstanceAs (Decidable (s.contains r = true))

namespace DirtyRectList

/-- `push`, `none` where `debug_assert!(false, "dirty rect list capacity exceeded")` fails. -/
def pushDebug (l : DirtyRectList) (rect : DirtyRect) : Option DirtyRectList :=
  if rect.isEmpty then some l else l.tryPush rect

def fromOneDebug (rect : DirtyRect) : Option DirtyRectList := new.pushDebug rect

def pushIfSomeDebug (l : DirtyRectList) : Option DirtyRect → Option DirtyRectList
  | some rect => l.pushDebug rect
  | none => some l

def extendFromDebug (l other : DirtyRectList) : Option DirtyRectList :=
  other.iter.foldlM pushDebug l

end DirtyRectList

def pushWithoutCoveredRectDebug (target : DirtyRectList) (rect : DirtyRect) :
    Option DirtyRectList :=
  if target.iter.any (·.contains rect) then some target else target.pushDebug rect

def pushLayerRestoreDebug (restoreRects : DirtyRectList)
    (current desired : Option PhysicalLayerState) : Option DirtyRectList :=
  match current with
  | some current =>
      if directLayerNeedsRestore (some current) desired then
        pushWithoutCoveredRectDebug restoreRects current.rect
      else some restoreRects
  | none => some restoreRects

namespace TwoBufferLatchState

def restoreRectsForDebug (self : TwoBufferLatchState) (k : SlotIndex) (input : LatchFramePlan) :
    Option DirtyRectList := do
  let slot := self.slot k
  let restoreRects ← pushLayerRestoreDebug (self.baseDamage.plan k) slot.layers.preview
    input.layers.preview.desired
  pushLayerRestoreDebug restoreRects slot.layers.arcade input.layers.arcade.desired

/-- The plan, after the pushes on `restore_rects` and on `direct_redraws`. -/
def planForSlotDebug (self : TwoBufferLatchState) (k : SlotIndex) (input : LatchFramePlan) :
    Option LatchPresentPlan := do
  let _ ← self.restoreRectsForDebug k input
  let plan := self.planForSlot k input
  let directRedraws ← DirtyRectList.new.pushIfSomeDebug plan.previewRedraw
  let _ ← directRedraws.pushIfSomeDebug (plan.arcadeRedraw.map (·.dirtyRect))
  some plan

def planNextDebug (self : TwoBufferLatchState) (input : LatchFramePlan) :
    Option (TwoBufferLatchState × Except LatchPlanError LatchPresentPlan) :=
  match self.planNext input with
  | (after, .error error) => some (after, .error error)
  | (after, .ok plan) =>
      (after.planForSlotDebug plan.slotIndex input).map fun plan => (after, .ok plan)

def addLayerDebug (restoreRects : DirtyRectList) (layer : Option PhysicalLayerState) :
    Option DirtyRectList :=
  match layer with
  | some layer => do
      let one ← DirtyRectList.fromOneDebug layer.rect
      restoreRects.extendFromDebug (subtractDirtyRects one restoreRects)
  | none => some restoreRects

def restoreBytesForSlotDebug (self : TwoBufferLatchState) (k : SlotIndex) : Option Nat := do
  let layers := (self.slot k).layers
  let restoreRects ← addLayerDebug (self.baseDamage.plan k) layers.preview
  let restoreRects ← addLayerDebug restoreRects layers.arcade
  some restoreRects.totalRgb565Bytes

end TwoBufferLatchState

/-- A call that changes a latch state, or the estimate before a frame is known. -/
inductive PlanningCall where
  | change (call : LatchCall)
  | restoreBytes (slotIndex : SlotIndex)

namespace PlanningCall

def apply (self : TwoBufferLatchState) : PlanningCall → TwoBufferLatchState
  | change call => call.apply self
  | restoreBytes _ => self

/-- The call in a debug build. -/
def applyDebug (self : TwoBufferLatchState) : PlanningCall → Option TwoBufferLatchState
  | change (.planNext input) => (self.planNextDebug input).map (·.1)
  | change call => some (call.apply self)
  | restoreBytes k => (self.restoreBytesForSlotDebug k).map fun _ => self

end PlanningCall

def planningRun (width height : Nat) (calls : List PlanningCall) : TwoBufferLatchState :=
  calls.foldl PlanningCall.apply (.new width height)

def planningRunDebug (width height : Nat) (calls : List PlanningCall) :
    Option TwoBufferLatchState :=
  calls.foldlM PlanningCall.applyDebug (.new width height)

/-! ## 2. Room for a plan -/

/-- The rectangles a slot owes after damage, without a capacity: the outermost ones of its debt and
    of the damage on the surface. -/
def owedWith (fullRect : DirtyRect) (debt damage : List DirtyRect) : Finset DirtyRect :=
  outermost (debt.toFinset ∪ (damage.filterMap (·.intersection fullRect)).toFinset)

/-- On the way they are more than a list holds. -/
def Overruns (fullRect : DirtyRect) (debt damage : List DirtyRect) : Prop :=
  ∃ n ≤ damage.length, DIRTY_RECT_LIST_CAP < (owedWith fullRect debt (damage.take n)).card

/-- With the rectangle of a layer that goes and lies in no other one. -/
def withRestore (rects : Finset DirtyRect) (current desired : Option PhysicalLayerState) :
    Finset DirtyRect :=
  match current with
  | some current =>
      if directLayerNeedsRestore (some current) desired = true ∧ current.rect.isEmpty = false ∧
          ∀ e ∈ rects, e.contains current.rect = false then insert current.rect rects
      else rects
  | none => rects

/-- **The slot has room for the plan**: the debt gives way to the whole surface, or what is owed and
    the layers that go are not more than a list holds. -/
def PlanRoom (self : TwoBufferLatchState) (k : SlotIndex) (input : LatchFramePlan) : Prop :=
  let debt := (self.baseDamage.plan k).iter
  let damage := input.cachedDamage.iter
  let layers := (self.slot k).layers
  Overruns self.baseDamage.fullRect debt damage ∨
    (withRestore (withRestore (owedWith self.baseDamage.fullRect debt damage) layers.preview
      input.layers.preview.desired) layers.arcade input.layers.arcade.desired).card ≤
        DIRTY_RECT_LIST_CAP

instance {rects cuts : List DirtyRect} : Decidable (Fits rects cuts) :=
  inferInstanceAs (Decidable (∀ n ≤ cuts.length, _))

/-- What the rectangles leave of a layer; all of it where its pieces do not fit in a list. -/
def uncovered (rects : List DirtyRect) (layer : Option PhysicalLayerState) : List DirtyRect :=
  match layer with
  | some layer =>
      if layer.rect.isEmpty then []
      else if Fits [layer.rect] rects then rects.foldl cutThrough [layer.rect]
      else [layer.rect]
  | none => []

/-- **The slot has room for its estimate**: the debt and the parts of the layers outside of it. -/
def RestoreRoom (self : TwoBufferLatchState) (k : SlotIndex) : Prop :=
  let debt := (self.baseDamage.plan k).iter
  let layers := (self.slot k).layers
  let preview := uncovered debt layers.preview
  (debt ++ preview ++ uncovered (debt ++ preview) layers.arcade).length ≤ DIRTY_RECT_LIST_CAP

/-- **The call has room.** -/
def PlanningCall.Room (self : TwoBufferLatchState) : PlanningCall → Prop
  | change (.planNext input) => ∀ k, firstPublicationMismatch input = none →
      self.stalePublicationError input = none → self.selectWritableSlot = some k →
        PlanRoom self k input
  | change _ => True
  | restoreBytes k => RestoreRoom self k

/-! ## 3. The debt after damage -/

namespace DirtyRectList

variable {self : DirtyRectList} {rect fullRect t : DirtyRect}

theorem length_iter_le (l : DirtyRectList) : l.iter.length ≤ DIRTY_RECT_LIST_CAP := by
  rw [length_iter]
  exact l.len_le

/-- **One rectangle** is inserted, or the list gives way to the whole surface. -/
theorem addCanonical_spec (hi : rect.intersection fullRect = some t) :
    ((insertOuter self.iter t).length ≤ DIRTY_RECT_LIST_CAP →
      (self.addCanonical rect fullRect).iter = insertOuter self.iter t) ∧
    (DIRTY_RECT_LIST_CAP < (insertOuter self.iter t).length →
      self.addCanonical rect fullRect = fromOne fullRect) := by
  have hlen := self.length_iter_le
  unfold addCanonical insertOuter
  rw [hi]
  dsimp only
  by_cases hcovered : ∃ e ∈ self.iter, t ≤ e
  · have hany : self.iter.any (·.contains t) = true := List.any_eq_true.mpr hcovered
    rw [if_pos hcovered, if_pos hany]
    exact ⟨fun _ => rfl, fun h => absurd hlen (by omega)⟩
  · have hany : ¬self.iter.any (·.contains t) = true := fun h =>
      hcovered (List.any_eq_true.mp h)
    rw [if_neg hcovered, if_neg hany]
    have hkept : self.iter.filter (fun e => !t.contains e) =
        self.iter.filter (fun e => decide ¬e ≤ t) := by
      refine List.filter_congr fun e _ => ?_
      show (!t.contains e) = decide ¬t.contains e = true
      cases t.contains e <;> rfl
    rw [hkept]
    have hfilter := List.length_filter_le (fun e => decide ¬e ≤ t) self.iter
    cases hk : (self.iter.filter fun e => decide ¬e ≤ t).foldlM tryPush self.clear with
    | none =>
        have hroom := foldlM_tryPush_eq_none_iff.mp hk
        have hclear : self.clear.len = 0 := rfl
        omega
    | some kept =>
        have hiter := iter_of_foldlM_tryPush hk
        rw [iter_clear, List.nil_append] at hiter
        have hlength := congrArg List.length hiter
        rw [length_iter] at hlength
        dsimp only
        rw [List.length_append, List.length_singleton]
        cases hp : kept.tryPush t with
        | none =>
            have hfull := tryPush_eq_none_iff.mp hp
            exact ⟨fun h => by omega, fun _ => rfl⟩
        | some pushed =>
            have hne : ¬kept.len = DIRTY_RECT_LIST_CAP := fun h => by
              rw [tryPush_eq_none_iff.mpr h] at hp
              cases hp
            have hle := kept.len_le
            refine ⟨fun _ => ?_, fun h => by omega⟩
            rw [← hiter]
            exact iter_of_tryPush hp

/-- The clipped rectangles, one after the other. -/
def insertClipped (fullRect : DirtyRect) (l : List DirtyRect) (rect : DirtyRect) :
    List DirtyRect :=
  match rect.intersection fullRect with
  | none => l
  | some t => insertOuter l t

theorem foldl_insertClipped (fullRect : DirtyRect) (rects l : List DirtyRect) :
    rects.foldl (insertClipped fullRect) l =
      (rects.filterMap (·.intersection fullRect)).foldl insertOuter l := by
  induction rects generalizing l with
  | nil => rfl
  | cons rect rects ih =>
      rw [List.foldl_cons, ih, List.filterMap_cons]
      unfold insertClipped
      cases rect.intersection fullRect <;> rfl

theorem iter_fromOne_of_isEmpty (h : rect.isEmpty = true) : (fromOne rect).iter = [] := by
  have hnew : fromOne rect = new := push_of_isEmpty h
  rw [hnew, iter_new]

/-- On the whole surface nothing is inserted. -/
theorem foldl_insertClipped_full (rects : List DirtyRect) :
    rects.foldl (insertClipped fullRect) (fromOne fullRect).iter = (fromOne fullRect).iter := by
  rw [foldl_insertClipped]
  refine Base.foldl_insertOuter_top fun t ht => ?_
  obtain ⟨rect, -, hi⟩ := List.mem_filterMap.mp ht
  have hfull : fullRect.isEmpty = false := by
    rw [DirtyRect.isEmpty_eq_false_iff]
    rw [DirtyRect.intersection_eq_some_iff] at hi
    omega
  rw [iter_fromOne hfull]
  exact ⟨fullRect, List.mem_singleton_self _, DirtyRect.contains_intersection_right hi⟩

variable (fullRect) in
theorem extendCanonicalLoop_spec (rects : List DirtyRect) (self : DirtyRectList) :
    ((∀ n ≤ rects.length,
        ((rects.take n).foldl (insertClipped fullRect) self.iter).length ≤ DIRTY_RECT_LIST_CAP) →
      (extendCanonicalLoop fullRect rects self).iter =
        rects.foldl (insertClipped fullRect) self.iter) ∧
    ((∃ n ≤ rects.length, DIRTY_RECT_LIST_CAP <
        ((rects.take n).foldl (insertClipped fullRect) self.iter).length) →
      extendCanonicalLoop fullRect rects self = fromOne fullRect) := by
  induction rects generalizing self with
  | nil =>
      refine ⟨fun _ => rfl, fun hover => absurd self.length_iter_le ?_⟩
      obtain ⟨n, hn, hlt⟩ := hover
      rw [List.take_nil, List.foldl_nil] at hlt
      omega
  | cons rect rects ih =>
      have hstep : ((insertClipped fullRect self.iter rect).length ≤ DIRTY_RECT_LIST_CAP →
            (self.addCanonical rect fullRect).iter = insertClipped fullRect self.iter rect) ∧
          (DIRTY_RECT_LIST_CAP < (insertClipped fullRect self.iter rect).length →
            self.addCanonical rect fullRect = fromOne fullRect) := by
        unfold insertClipped
        cases hi : rect.intersection fullRect with
        | none =>
            have hsame : self.addCanonical rect fullRect = self := by
              unfold addCanonical
              rw [hi]
            have hlen := self.length_iter_le
            exact ⟨fun _ => congrArg iter hsame, fun h => absurd hlen (Nat.not_le.mpr h)⟩
        | some t => exact addCanonical_spec hi
      unfold extendCanonicalLoop
      dsimp only
      by_cases hroom : (insertClipped fullRect self.iter rect).length ≤ DIRTY_RECT_LIST_CAP
      · have hiter := hstep.1 hroom
        split
        · -- the early exit: what follows changes nothing
          rename_i hfull
          rw [hfull] at hiter
          have hrest : ∀ rest : List DirtyRect, rest.foldl (insertClipped fullRect)
              (insertClipped fullRect self.iter rect) = insertClipped fullRect self.iter rect := by
            intro rest
            rw [← hiter]
            exact foldl_insertClipped_full rest
          refine ⟨fun _ => ?_, fun _ => hfull⟩
          rw [hfull, List.foldl_cons, hrest, hiter]
        · rw [← hiter] at hroom
          obtain ⟨hfits, hover⟩ := ih (self.addCanonical rect fullRect)
          rw [List.foldl_cons, ← hiter]
          refine ⟨fun h => hfits fun n hn => ?_, fun hlong => hover ?_⟩
          · have hn' := h (n + 1) (Nat.succ_le_succ hn)
            rw [List.take_succ_cons, List.foldl_cons, ← hiter] at hn'
            exact hn'
          · obtain ⟨n, hn, hlt⟩ := hlong
            cases n with
            | zero =>
                rw [List.take_zero] at hlt
                exact absurd self.length_iter_le (Nat.not_le.mpr hlt)
            | succ n =>
                rw [List.take_succ_cons, List.foldl_cons, ← hiter] at hlt
                exact ⟨n, Nat.le_of_succ_le_succ hn, hlt⟩
      · have hfull := hstep.2 (Nat.not_le.mp hroom)
        rw [if_pos hfull]
        refine ⟨fun h => absurd (h 1 (Nat.succ_le_succ (Nat.zero_le _))) hroom, fun _ => hfull⟩

theorem incomparable_fromOne (rect : DirtyRect) : Incomparable (fromOne rect).iter := by
  cases h : rect.isEmpty with
  | true =>
      rw [iter_fromOne_of_isEmpty h]
      exact List.Pairwise.nil
  | false =>
      rw [iter_fromOne h]
      exact List.pairwise_singleton _ rect

variable {debt damage : DirtyRectList}

theorem overruns_iff (h : Incomparable debt.iter) (damage : List DirtyRect) :
    Overruns fullRect debt.iter damage ↔ ∃ n ≤ damage.length, DIRTY_RECT_LIST_CAP <
      ((damage.take n).foldl (insertClipped fullRect) debt.iter).length := by
  unfold Overruns owedWith
  simp only [foldl_insertClipped, Base.length_foldl_insertOuter h]

variable (fullRect damage) in
/-- **The debt after damage**: its rectangles are those that are owed, none twice, or they were too
    many and it is the whole surface. -/
theorem extendCanonical_spec (h : Incomparable debt.iter) :
    (¬Overruns fullRect debt.iter damage.iter →
      (debt.extendCanonical damage fullRect).iter.Nodup ∧
      (debt.extendCanonical damage fullRect).iter.toFinset =
        owedWith fullRect debt.iter damage.iter) ∧
    (Overruns fullRect debt.iter damage.iter →
      debt.extendCanonical damage fullRect = fromOne fullRect) := by
  obtain ⟨hfits, hover⟩ := extendCanonicalLoop_spec fullRect damage.iter debt
  rw [overruns_iff h]
  refine ⟨fun hnot => ?_, hover⟩
  have hiter : (debt.extendCanonical damage fullRect).iter = _ :=
    hfits fun n hn => Nat.not_lt.mp fun hlt => hnot ⟨n, hn, hlt⟩
  rw [hiter, foldl_insertClipped]
  exact ⟨h.foldl.nodup, Base.toFinset_foldl_insertOuter h⟩

theorem incomparable_extendCanonical (h : Incomparable debt.iter) :
    Incomparable (debt.extendCanonical damage fullRect).iter := by
  obtain ⟨hfits, hover⟩ := extendCanonicalLoop_spec fullRect damage.iter debt
  by_cases hoverruns : ∃ n ≤ damage.iter.length, DIRTY_RECT_LIST_CAP <
      ((damage.iter.take n).foldl (insertClipped fullRect) debt.iter).length
  · have hfull : debt.extendCanonical damage fullRect = fromOne fullRect := hover hoverruns
    rw [hfull]
    exact incomparable_fromOne fullRect
  · have hiter : (debt.extendCanonical damage fullRect).iter = _ :=
      hfits fun n hn => Nat.not_lt.mp fun hlt => hoverruns ⟨n, hn, hlt⟩
    rw [hiter, foldl_insertClipped]
    exact h.foldl

end DirtyRectList

/-! ## 4. Debts of a run -/

section Run

variable {self : TwoBufferLatchState} {fullRect : DirtyRect}

theorem incomparable_apply (h : ∀ k, Incomparable (self.baseDamage.plan k).iter) (c : LatchCall)
    (k : SlotIndex) : Incomparable ((c.apply self).baseDamage.plan k).iter := by
  cases c with
  | syncHardware active activeSequence pending pendingSequence =>
      have hkeeps := TwoBufferLatchState.syncHardware_keeps self active activeSequence pending
        pendingSequence
      unfold LatchCall.apply
      rw [hkeeps.2.2]
      exact h k
  | invalidateAll =>
      show Incomparable (self.baseDamage.invalidateAll.plan k).iter
      rw [TwoSlotDamageLedger.plan_invalidateAll]
      exact DirtyRectList.incomparable_fromOne _
  | planNext input =>
      have hrecord : Incomparable
          ((self.baseDamage.recordDamage input.cachedDamage).plan k).iter := by
        rw [TwoSlotDamageLedger.plan_recordDamage]
        exact DirtyRectList.incomparable_extendCanonical (h k)
      show Incomparable ((self.planNext input).1.baseDamage.plan k).iter
      rcases TwoBufferLatchState.planNext_cases self input with
        ⟨e, -, heq⟩ | ⟨-, -, ⟨-, heq⟩ | ⟨j, -, heq⟩⟩
      · rw [heq]
        exact h k
      · rw [heq]
        exact hrecord
      · rw [heq]
        exact hrecord
  | markPostSuccess plan =>
      show Incomparable ((self.baseDamage.markPresented plan.slotIndex).plan k).iter
      rw [TwoSlotDamageLedger.plan_markPresented]
      split
      · rw [DirtyRectList.iter_clear]
        exact List.Pairwise.nil
      · exact h k
  | markAttemptFailed j =>
      show Incomparable ((self.baseDamage.markAttemptFailed j).plan k).iter
      rw [TwoSlotDamageLedger.plan_markAttemptFailed]
      split
      · exact DirtyRectList.incomparable_fromOne _
      · exact h k

end Run

/-! ## 5. Pushes with room -/

section Room

variable {l l' : DirtyRectList} {rect : DirtyRect} {current desired : Option PhysicalLayerState}

theorem push_of_pushDebug (h : l.pushDebug rect = some l') : l' = l.push rect := by
  unfold DirtyRectList.pushDebug at h
  unfold DirtyRectList.push
  split at h
  · rename_i hempty
    rw [if_pos hempty]
    exact (Option.some.inj h).symm
  · rename_i hempty
    rw [if_neg hempty, h]

theorem pushDebug_of_lt (h : l.len < DIRTY_RECT_LIST_CAP) :
    ∃ l', l.pushDebug rect = some l' ∧ l'.len ≤ l.len + 1 := by
  unfold DirtyRectList.pushDebug
  split
  · exact ⟨l, rfl, Nat.le_succ _⟩
  · cases hpush : l.tryPush rect with
    | none => exact absurd (DirtyRectList.tryPush_eq_none_iff.mp hpush) (Nat.ne_of_lt h)
    | some l' => exact ⟨l', rfl, Nat.le_of_eq (DirtyRectList.len_of_tryPush hpush)⟩

theorem pushLayerRestore_of_debug (h : pushLayerRestoreDebug l current desired = some l') :
    l' = pushLayerRestore l current desired := by
  unfold pushLayerRestoreDebug at h
  unfold pushLayerRestore
  cases current with
  | none => exact (Option.some.inj h).symm
  | some current =>
      dsimp only at h ⊢
      split at h
      · rename_i hneeds
        rw [if_pos hneeds]
        unfold pushWithoutCoveredRectDebug at h
        unfold pushWithoutCoveredRect
        split at h
        · rename_i hcovered
          rw [if_pos hcovered]
          exact (Option.some.inj h).symm
        · rename_i hcovered
          rw [if_neg hcovered]
          exact push_of_pushDebug h
      · rename_i hneeds
        rw [if_neg hneeds]
        exact (Option.some.inj h).symm

theorem card_iter (h : l.iter.Nodup) : l.iter.toFinset.card = l.len := by
  rw [List.toFinset_card_of_nodup h, DirtyRectList.length_iter]

variable (current desired) in
/-- **A layer that goes** takes one more place, or none. -/
theorem pushLayerRestoreDebug_spec (h : l.iter.Nodup) :
    ((withRestore l.iter.toFinset current desired).card ≤ DIRTY_RECT_LIST_CAP →
      ∃ l', pushLayerRestoreDebug l current desired = some l' ∧ l'.iter.Nodup ∧
        l'.iter.toFinset = withRestore l.iter.toFinset current desired) ∧
    (DIRTY_RECT_LIST_CAP < (withRestore l.iter.toFinset current desired).card →
      pushLayerRestoreDebug l current desired = none) := by
  have hkeep : (l.iter.toFinset.card ≤ DIRTY_RECT_LIST_CAP → ∃ l', some l = some l' ∧
        l'.iter.Nodup ∧ l'.iter.toFinset = l.iter.toFinset) ∧
      (DIRTY_RECT_LIST_CAP < l.iter.toFinset.card → some l = none) := by
    refine ⟨fun _ => ⟨l, rfl, h, rfl⟩, fun hlt => ?_⟩
    rw [card_iter h] at hlt
    exact absurd l.len_le (Nat.not_le.mpr hlt)
  unfold pushLayerRestoreDebug withRestore
  cases current with
  | none => exact hkeep
  | some current =>
      dsimp only
      by_cases hneeds : directLayerNeedsRestore (some current) desired = true
      · rw [if_pos hneeds]
        unfold pushWithoutCoveredRectDebug DirtyRectList.pushDebug
        by_cases hcovered : l.iter.any (·.contains current.rect) = true
        · obtain ⟨e, he, hec⟩ := List.any_eq_true.mp hcovered
          have hno : ¬(directLayerNeedsRestore (some current) desired = true ∧
              current.rect.isEmpty = false ∧
                ∀ e ∈ l.iter.toFinset, e.contains current.rect = false) := fun hall => by
            rw [hall.2.2 e (List.mem_toFinset.mpr he)] at hec
            cases hec
          rw [if_pos hcovered, if_neg hno]
          exact hkeep
        · rw [if_neg hcovered]
          cases hempty : current.rect.isEmpty with
          | true =>
              rw [if_pos rfl, if_neg fun hall => by cases hall.2.1]
              exact hkeep
          | false =>
              have houtside : ∀ e ∈ l.iter.toFinset, e.contains current.rect = false := by
                intro e he
                cases hec : e.contains current.rect with
                | false => rfl
                | true =>
                    exact absurd (List.any_eq_true.mpr ⟨e, List.mem_toFinset.mp he, hec⟩) hcovered
              have hnew : current.rect ∉ l.iter.toFinset := fun hmem => by
                have hself := houtside _ hmem
                rw [DirtyRect.contains_refl] at hself
                cases hself
              rw [if_pos ⟨hneeds, rfl, houtside⟩, if_neg Bool.false_ne_true,
                Finset.card_insert_of_notMem hnew, card_iter h]
              cases hpush : l.tryPush current.rect with
              | none =>
                  have hfull := DirtyRectList.tryPush_eq_none_iff.mp hpush
                  exact ⟨fun hle => by omega, fun _ => rfl⟩
              | some l' =>
                  have hlen := DirtyRectList.len_of_tryPush hpush
                  have hle := l'.len_le
                  have hiter := DirtyRectList.iter_of_tryPush hpush
                  refine ⟨fun _ => ⟨l', rfl, ?_, ?_⟩, fun hlt => by omega⟩
                  · rw [hiter, List.nodup_append]
                    refine ⟨h, List.nodup_singleton _, fun a ha b hb hab => ?_⟩
                    rw [List.mem_singleton] at hb
                    exact hnew (List.mem_toFinset.mpr (hb ▸ hab ▸ ha))
                  · rw [hiter, List.toFinset_append, List.toFinset_cons, List.toFinset_nil,
                      Finset.union_comm]
                    rfl
      · rw [if_neg hneeds, if_neg fun hall => hneeds hall.1]
        exact hkeep

theorem card_withRestore (rects : Finset DirtyRect)
    (current desired : Option PhysicalLayerState) :
    rects.card ≤ (withRestore rects current desired).card ∧
      (withRestore rects current desired).card ≤ rects.card + 1 := by
  unfold withRestore
  cases current with
  | none => exact ⟨Nat.le_refl _, Nat.le_succ _⟩
  | some current =>
      dsimp only
      split
      · exact ⟨Finset.card_le_card (Finset.subset_insert _ _), Finset.card_insert_le _ _⟩
      · exact ⟨Nat.le_refl _, Nat.le_succ _⟩

end Room

/-! ## 6. Plans -/

namespace TwoBufferLatchState

variable {self : TwoBufferLatchState} {k : SlotIndex} {input : LatchFramePlan}

theorem restoreRectsForDebug_isSome_iff (h : Incomparable (self.baseDamage.plan k).iter) :
    ((self.accepted input).restoreRectsForDebug k input).isSome = true ↔
      PlanRoom self k input := by
  obtain ⟨hexact, hfull⟩ := DirtyRectList.extendCanonical_spec self.baseDamage.fullRect
    input.cachedDamage h
  unfold restoreRectsForDebug PlanRoom
  dsimp only
  rw [slot_accepted, baseDamage_accepted, TwoSlotDamageLedger.plan_recordDamage]
  generalize hdebt : (self.baseDamage.plan k).extendCanonical input.cachedDamage
    self.baseDamage.fullRect = debt at hexact hfull
  have hnodup : debt.iter.Nodup :=
    hdebt ▸ (DirtyRectList.incomparable_extendCanonical h).nodup
  have hpreview := pushLayerRestoreDebug_spec (self.slot k).layers.preview
    input.layers.preview.desired hnodup
  by_cases hover : Overruns self.baseDamage.fullRect (self.baseDamage.plan k).iter
      input.cachedDamage.iter
  · -- the whole surface leaves room for two layers
    refine iff_of_true ?_ (.inl hover)
    have hone : debt.iter.toFinset.card ≤ 1 := by
      rw [card_iter hnodup, hfull hover, ← DirtyRectList.length_iter]
      cases hempty : self.baseDamage.fullRect.isEmpty with
      | true => simp [DirtyRectList.iter_fromOne_of_isEmpty hempty]
      | false => simp [DirtyRectList.iter_fromOne hempty]
    have hcap : DIRTY_RECT_LIST_CAP = 32 := rfl
    have htwo := (card_withRestore debt.iter.toFinset
      (self.slot k).layers.preview input.layers.preview.desired).2
    obtain ⟨first, hfirst, hnodup', hset⟩ := hpreview.1 (by omega)
    have hthree := (card_withRestore first.iter.toFinset
      (self.slot k).layers.arcade input.layers.arcade.desired).2
    rw [hset] at hthree
    obtain ⟨second, hsecond, -, -⟩ := (pushLayerRestoreDebug_spec
      (self.slot k).layers.arcade input.layers.arcade.desired hnodup').1 (by rw [hset]; omega)
    rw [hfirst, Option.bind_eq_bind, Option.bind_some, hsecond]
    rfl
  · obtain ⟨-, howed⟩ := hexact hover
    rw [← howed]
    have hmono := (card_withRestore (withRestore debt.iter.toFinset
      (self.slot k).layers.preview input.layers.preview.desired)
      (self.slot k).layers.arcade input.layers.arcade.desired).1
    simp only [hover, false_or]
    by_cases hroom : (withRestore debt.iter.toFinset (self.slot k).layers.preview
        input.layers.preview.desired).card ≤ DIRTY_RECT_LIST_CAP
    · obtain ⟨first, hfirst, hnodup', hset⟩ := hpreview.1 hroom
      have harcade := pushLayerRestoreDebug_spec (self.slot k).layers.arcade
        input.layers.arcade.desired hnodup'
      rw [hfirst, Option.bind_eq_bind, Option.bind_some, ← hset]
      by_cases hroom' : (withRestore first.iter.toFinset (self.slot k).layers.arcade
          input.layers.arcade.desired).card ≤ DIRTY_RECT_LIST_CAP
      · obtain ⟨second, hsecond, -, -⟩ := harcade.1 hroom'
        rw [hsecond]
        exact iff_of_true rfl hroom'
      · rw [harcade.2 (Nat.not_le.mp hroom')]
        exact iff_of_false Bool.false_ne_true hroom'
    · rw [hpreview.2 (Nat.not_le.mp hroom)]
      exact iff_of_false Bool.false_ne_true fun hle => hroom (hmono.trans hle)

/-- The restore list of a debug build is that of a release build. -/
theorem restoreRectsForDebug_eq {restoreRects : DirtyRectList}
    (h : self.restoreRectsForDebug k input = some restoreRects) :
    restoreRects = self.restoreRectsFor k input := by
  obtain ⟨first, hfirst, hsecond⟩ := Option.bind_eq_some_iff.mp h
  rw [pushLayerRestore_of_debug hsecond, pushLayerRestore_of_debug hfirst]
  rfl

/-- The list of redraws has two places, and takes them. -/
theorem planForSlotDebug_eq (self : TwoBufferLatchState) (k : SlotIndex) (input : LatchFramePlan) :
    self.planForSlotDebug k input =
      (self.restoreRectsForDebug k input).map fun _ => self.planForSlot k input := by
  unfold planForSlotDebug
  cases self.restoreRectsForDebug k input with
  | none => rfl
  | some restoreRects =>
      have hpush : ∀ (l : DirtyRectList) (rect : Option DirtyRect), l.len < DIRTY_RECT_LIST_CAP →
          ∃ l', l.pushIfSomeDebug rect = some l' ∧ l'.len ≤ l.len + 1 := by
        intro l rect hlt
        cases rect with
        | none => exact ⟨l, rfl, Nat.le_succ _⟩
        | some rect => exact pushDebug_of_lt hlt
      obtain ⟨first, hfirst, hlen⟩ := hpush DirtyRectList.new
        (self.planForSlot k input).previewRedraw (by decide)
      have hzero : DirtyRectList.new.len = 0 := rfl
      have hcap : DIRTY_RECT_LIST_CAP = 32 := rfl
      obtain ⟨second, hsecond, -⟩ := hpush first
        ((self.planForSlot k input).arcadeRedraw.map (·.dirtyRect)) (by omega)
      simp only [Option.bind_eq_bind, Option.bind_some, hfirst, hsecond, Option.map_some]

variable (input) in
theorem planNextDebug_spec (h : ∀ k, Incomparable (self.baseDamage.plan k).iter) :
    ((self.planNextDebug input).isSome = true ↔
      (PlanningCall.change (.planNext input)).Room self) ∧
    ∀ result, self.planNextDebug input = some result → result = self.planNext input := by
  unfold planNextDebug PlanningCall.Room
  rcases planNext_cases self input with ⟨e, -, heq⟩ | ⟨hmatch, hstale, ⟨hnone, heq⟩ | ⟨k, hk, heq⟩⟩
  · rw [heq]
    refine ⟨iff_of_true rfl fun k hmatch hstale hk => ?_,
      fun result hsome => (Option.some.inj hsome).symm⟩
    have hselect : ({ self with baseDamage := self.baseDamage.recordDamage input.cachedDamage }
        : TwoBufferLatchState).selectWritableSlot = some k := hk
    unfold planNext at heq
    rw [hmatch, hstale] at heq
    dsimp only at heq
    rw [hselect] at heq
    cases (Prod.ext_iff.mp heq).2
  · rw [heq]
    refine ⟨iff_of_true rfl fun k _ _ hk => ?_, fun result hsome => (Option.some.inj hsome).symm⟩
    rw [hnone] at hk
    cases hk
  · rw [heq]
    dsimp only
    rw [slotIndex_planForSlot, planForSlotDebug_eq, Option.map_map, Option.isSome_map,
      restoreRectsForDebug_isSome_iff (h k)]
    refine ⟨⟨fun hroom j _ _ hj => ?_, fun hall => hall k hmatch hstale hk⟩, fun result hsome => ?_⟩
    · obtain rfl := Option.some.inj (hk.symm.trans hj)
      exact hroom
    · obtain ⟨restoreRects, -, rfl⟩ := Option.map_eq_some_iff.mp hsome
      rfl

/-! ## 7. Estimates -/

theorem nonempty_remnants {cut rect r : DirtyRect} (h : rect.isEmpty = false)
    (hr : r ∈ remnants cut rect) : r.isEmpty = false := by
  unfold remnants at hr
  cases hi : rect.intersection cut with
  | none =>
      rw [hi] at hr
      rw [List.mem_singleton.mp hr]
      exact h
  | some overlap =>
      rw [hi] at hr
      have ho := DirtyRect.intersection_eq_some_iff.mp hi
      rw [DirtyRect.isEmpty_eq_false_iff] at h ⊢
      simp only [subtractRectPieces, List.mem_append, List.mem_ite_nil_right,
        List.mem_singleton] at hr
      rcases hr with ((⟨hlt, rfl⟩ | ⟨hlt, rfl⟩) | ⟨hlt, rfl⟩) | ⟨hlt, rfl⟩ <;> dsimp only <;> omega

theorem nonempty_foldl_cutThrough {cuts rects : List DirtyRect}
    (h : ∀ r ∈ rects, r.isEmpty = false) :
    ∀ r ∈ cuts.foldl cutThrough rects, r.isEmpty = false := by
  induction cuts generalizing rects with
  | nil => exact h
  | cons cut cuts ih =>
      refine ih fun r hr => ?_
      obtain ⟨rect, hrect, hr⟩ := List.mem_flatMap.mp hr
      exact nonempty_remnants (h rect hrect) hr

theorem nonempty_uncovered {rects : List DirtyRect} {layer : Option PhysicalLayerState} :
    ∀ r ∈ uncovered rects layer, r.isEmpty = false := by
  unfold uncovered
  cases layer with
  | none => exact fun r hr => absurd hr List.not_mem_nil
  | some layer =>
      dsimp only
      split
      · exact fun r hr => absurd hr List.not_mem_nil
      · rename_i hempty
        have hone : ∀ r ∈ [layer.rect], r.isEmpty = false := by
          intro r hr
          rw [List.mem_singleton.mp hr]
          exact Bool.not_eq_true _ ▸ hempty
        split
        · exact nonempty_foldl_cutThrough hone
        · exact hone

/-- The source's subtraction leaves the parts of a layer that are not covered. -/
theorem iter_subtract_layer (l : DirtyRectList) (layer : PhysicalLayerState) :
    (subtractDirtyRects (.fromOne layer.rect) l).iter = uncovered l.iter (some layer) := by
  obtain ⟨hfits, hover⟩ := subtractLoop_spec (.fromOne layer.rect) l.iter (.fromOne layer.rect)
    DirtyRectList.new
  unfold uncovered
  dsimp only
  cases hempty : layer.rect.isEmpty with
  | true =>
      rw [DirtyRectList.iter_fromOne_of_isEmpty hempty] at hfits
      rw [if_pos rfl]
      exact (hfits fits_nil).trans foldl_cutThrough_nil
  | false =>
      rw [DirtyRectList.iter_fromOne hempty] at hfits hover
      rw [if_neg Bool.false_ne_true]
      split
      · rename_i h
        exact hfits h
      · rename_i h
        have hsame : subtractDirtyRects (.fromOne layer.rect) l = .fromOne layer.rect := hover h
        rw [hsame, DirtyRectList.iter_fromOne hempty]

theorem foldlM_pushDebug {rects : List DirtyRect} (h : ∀ r ∈ rects, r.isEmpty = false)
    (l : DirtyRectList) :
    rects.foldlM DirtyRectList.pushDebug l = rects.foldlM DirtyRectList.tryPush l := by
  induction rects generalizing l with
  | nil => rfl
  | cons rect rects ih =>
      have hpush : l.pushDebug rect = l.tryPush rect := by
        unfold DirtyRectList.pushDebug
        rw [h rect List.mem_cons_self, if_neg Bool.false_ne_true]
      rw [List.foldlM_cons, List.foldlM_cons, hpush]
      simp only [ih fun r hr => h r (List.mem_cons_of_mem rect hr)]

theorem fromOneDebug_eq (rect : DirtyRect) :
    DirtyRectList.fromOneDebug rect = some (.fromOne rect) := by
  obtain ⟨l, hl, -⟩ : ∃ l, DirtyRectList.new.pushDebug rect = some l ∧ _ :=
    pushDebug_of_lt (by decide)
  unfold DirtyRectList.fromOneDebug
  rw [hl, push_of_pushDebug hl]
  rfl

/-- **A layer of the estimate** takes as many places as it has parts outside of the list. -/
theorem addLayerDebug_spec (l : DirtyRectList) (layer : Option PhysicalLayerState) :
    ((l.iter ++ uncovered l.iter layer).length ≤ DIRTY_RECT_LIST_CAP →
      ∃ l', addLayerDebug l layer = some l' ∧ l'.iter = l.iter ++ uncovered l.iter layer) ∧
    (DIRTY_RECT_LIST_CAP < (l.iter ++ uncovered l.iter layer).length →
      addLayerDebug l layer = none) := by
  have hcap := l.len_le
  cases layer with
  | none =>
      have hnil : l.iter ++ uncovered l.iter none = l.iter := List.append_nil _
      rw [hnil, DirtyRectList.length_iter]
      exact ⟨fun _ => ⟨l, rfl, rfl⟩, fun h => absurd hcap (Nat.not_le.mpr h)⟩
  | some layer =>
      have hadd : addLayerDebug l (some layer) =
          (uncovered l.iter (some layer)).foldlM DirtyRectList.tryPush l := by
        unfold addLayerDebug
        dsimp only
        rw [fromOneDebug_eq, Option.bind_eq_bind, Option.bind_some]
        unfold DirtyRectList.extendFromDebug
        rw [iter_subtract_layer, foldlM_pushDebug nonempty_uncovered]
      rw [hadd, List.length_append, DirtyRectList.length_iter]
      cases hfold : (uncovered l.iter (some layer)).foldlM DirtyRectList.tryPush l with
      | none =>
          have hfull := DirtyRectList.foldlM_tryPush_eq_none_iff.mp hfold
          exact ⟨fun h => absurd h (Nat.not_le.mpr hfull), fun _ => rfl⟩
      | some l' =>
          refine ⟨fun _ => ⟨l', rfl, DirtyRectList.iter_of_foldlM_tryPush hfold⟩, fun h => ?_⟩
          rw [DirtyRectList.foldlM_tryPush_eq_none_iff.mpr h] at hfold
          cases hfold

theorem restoreBytesForSlotDebug_isSome_iff (self : TwoBufferLatchState) (k : SlotIndex) :
    (self.restoreBytesForSlotDebug k).isSome = true ↔ RestoreRoom self k := by
  unfold restoreBytesForSlotDebug RestoreRoom
  dsimp only
  have hpreview := addLayerDebug_spec (self.baseDamage.plan k) (self.slot k).layers.preview
  by_cases hroom : ((self.baseDamage.plan k).iter ++ uncovered (self.baseDamage.plan k).iter
      (self.slot k).layers.preview).length ≤ DIRTY_RECT_LIST_CAP
  · obtain ⟨first, hfirst, hiter⟩ := hpreview.1 hroom
    have harcade := addLayerDebug_spec first (self.slot k).layers.arcade
    rw [hfirst, Option.bind_eq_bind, Option.bind_some, ← hiter]
    by_cases hroom' : (first.iter ++ uncovered first.iter (self.slot k).layers.arcade).length ≤
        DIRTY_RECT_LIST_CAP
    · obtain ⟨second, hsecond, -⟩ := harcade.1 hroom'
      rw [hsecond]
      exact iff_of_true rfl hroom'
    · rw [harcade.2 (Nat.not_le.mp hroom')]
      exact iff_of_false Bool.false_ne_true hroom'
  · rw [hpreview.2 (Nat.not_le.mp hroom)]
    refine iff_of_false Bool.false_ne_true fun hle => hroom ?_
    rw [List.length_append] at hle
    omega

end TwoBufferLatchState

/-! ## 8. Runs -/

section Runs

variable {self : TwoBufferLatchState}

theorem incomparable_planningRun (width height : Nat) (calls : List PlanningCall)
    (k : SlotIndex) :
    Incomparable ((planningRun width height calls).baseDamage.plan k).iter := by
  induction calls using List.reverseRecOn generalizing k with
  | nil =>
      show Incomparable ((TwoSlotDamageLedger.new width height).plan k).iter
      rw [TwoSlotDamageLedger.plan_new]
      exact DirtyRectList.incomparable_fromOne _
  | append_singleton calls c ih =>
      unfold planningRun at ih ⊢
      rw [List.foldl_append, List.foldl_cons, List.foldl_nil]
      cases c with
      | change call => exact incomparable_apply ih call k
      | restoreBytes j => exact ih k

/-- **One call** panics in a debug build exactly where it has no room, and does the same
    otherwise. -/
theorem applyDebug_spec (h : ∀ k, Incomparable (self.baseDamage.plan k).iter) (c : PlanningCall) :
    (c.Room self → c.applyDebug self = some (c.apply self)) ∧
      (¬c.Room self → c.applyDebug self = none) := by
  cases c with
  | change call =>
      cases call with
      | planNext input =>
          obtain ⟨hroom, hsame⟩ := TwoBufferLatchState.planNextDebug_spec input h
          rw [← hroom]
          unfold PlanningCall.applyDebug
          dsimp only
          cases hdebug : self.planNextDebug input with
          | none => exact ⟨fun h => absurd h Bool.false_ne_true, fun _ => rfl⟩
          | some result =>
              rw [hsame result hdebug]
              exact ⟨fun _ => rfl, fun h => absurd rfl h⟩
      | syncHardware | invalidateAll | markPostSuccess | markAttemptFailed =>
          exact ⟨fun _ => rfl, fun h => absurd trivial h⟩
  | restoreBytes k =>
      have hroom := TwoBufferLatchState.restoreBytesForSlotDebug_isSome_iff self k
      unfold PlanningCall.Room PlanningCall.applyDebug
      dsimp only
      rw [← hroom]
      cases self.restoreBytesForSlotDebug k with
      | none => exact ⟨fun h => absurd h Bool.false_ne_true, fun _ => rfl⟩
      | some n => exact ⟨fun _ => rfl, fun h => absurd rfl h⟩

theorem planningRunDebug_concat (width height : Nat) (calls : List PlanningCall)
    (c : PlanningCall) : planningRunDebug width height (calls ++ [c]) =
      (planningRunDebug width height calls).bind fun self => c.applyDebug self := by
  unfold planningRunDebug
  rw [List.foldlM_append]
  simp only [List.foldlM_cons, List.foldlM_nil, bind_pure]
  rfl

theorem planningRun_concat (width height : Nat) (calls : List PlanningCall) (c : PlanningCall) :
    planningRun width height (calls ++ [c]) = c.apply (planningRun width height calls) := by
  unfold planningRun
  rw [List.foldl_append, List.foldl_cons, List.foldl_nil]

/-- A debug build that does not panic is where a release build is. -/
theorem planningRunDebug_eq {width height : Nat} {calls : List PlanningCall}
    {after : TwoBufferLatchState} (h : planningRunDebug width height calls = some after) :
    after = planningRun width height calls := by
  induction calls using List.reverseRecOn generalizing after with
  | nil => exact (Option.some.inj h).symm
  | append_singleton calls c ih =>
      rw [planningRunDebug_concat] at h
      obtain ⟨before, hbefore, hlast⟩ := Option.bind_eq_some_iff.mp h
      obtain rfl := ih hbefore
      obtain ⟨hroom, hnone⟩ := applyDebug_spec (incomparable_planningRun width height calls) c
      rw [planningRun_concat]
      by_cases hc : c.Room (planningRun width height calls)
      · rw [hroom hc] at hlast
        exact (Option.some.inj hlast).symm
      · rw [hnone hc] at hlast
        cases hlast

/-- **PLANNING HAS ROOM EXACTLY WHERE IT SHOULD.** In every state a run reaches, a call pushes on a
    full list if and only if it has no room; and a run of a debug build goes to its end, with the
    state of a release build, if and only if every call of it has room. -/
theorem planning_has_room_iff (width height : Nat) (calls : List PlanningCall) :
    (∀ c : PlanningCall, c.applyDebug (planningRun width height calls) ≠ none ↔
      c.Room (planningRun width height calls)) ∧
    (planningRunDebug width height calls = some (planningRun width height calls) ↔
      ∀ pre c post, calls = pre ++ c :: post → c.Room (planningRun width height pre)) := by
  have hcall : ∀ (calls : List PlanningCall) (c : PlanningCall),
      c.applyDebug (planningRun width height calls) ≠ none ↔
        c.Room (planningRun width height calls) := by
    intro calls c
    obtain ⟨hroom, hnone⟩ := applyDebug_spec (incomparable_planningRun width height calls) c
    constructor
    · intro hne
      by_contra h
      exact hne (hnone h)
    · intro h hnone'
      rw [hroom h] at hnone'
      cases hnone'
  refine ⟨hcall calls, ?_⟩
  induction calls using List.reverseRecOn with
  | nil => exact iff_of_true rfl fun pre c post h => by simp at h
  | append_singleton calls c ih =>
      rw [planningRunDebug_concat, planningRun_concat]
      constructor
      · intro hrun pre d post h
        obtain ⟨before, hbefore, hlast⟩ := Option.bind_eq_some_iff.mp hrun
        obtain rfl := planningRunDebug_eq hbefore
        rcases List.eq_nil_or_concat post with rfl | ⟨init, last, rfl⟩
        · obtain ⟨rfl, hd⟩ := List.append_inj' h rfl
          obtain rfl := (List.cons.inj hd).1
          refine (hcall calls c).mp fun hnone => ?_
          rw [hnone] at hlast
          cases hlast
        · rw [List.concat_eq_append, ← List.cons_append, ← List.append_assoc] at h
          exact ih.mp hbefore pre d init (List.append_inj' h rfl).1
      · intro hall
        have hfirst := ih.mpr fun pre d post h => hall pre d (post ++ [c]) (by simp [h])
        rw [hfirst, Option.bind_some]
        exact (applyDebug_spec (incomparable_planningRun width height calls) c).1
          (hall calls c [] rfl)

end Runs

/-! ## 9. A run without room -/

/-- Dots of damage, as many as a list holds. -/
def dots : DirtyRectList :=
  ((List.range 32).map fun i => (⟨2 * i, 0, 2 * i + 1, 1⟩ : DirtyRect)).foldl
    DirtyRectList.push .new

/-- A preview below the dots. -/
def previewBelow : PhysicalLayerState := ⟨⟨0, 1, 1, 2⟩, 1, .ZERO⟩

def shownFrame : LatchFramePlan := .fromCachedLayers .new (some previewBelow) none none none

/-- The preview posted into slot 1, and slot 2 shown. -/
def previewShown : List PlanningCall :=
  [.change (.syncHardware none 0 false 0), .change (.planNext shownFrame),
    .change (.markPostSuccess ((planningRun 64 2 [.change (.syncHardware none 0 false 0),
      .change (.planNext shownFrame)]).planForSlot .slot1 shownFrame)),
    .change (.syncHardware (some .slot2) 0 false 0)]

/-- The frame with the dots and without the preview is accepted, and planned on a full list. With
    the preview it is planned, and the estimate for its slot is then made on a full list. -/
theorem full_debt_overruns :
    ((planningRun 64 2 previewShown).planNext
        (.fromCachedLayers dots none none none none)).2.toOption.isSome = true ∧
      (PlanningCall.change (.planNext (.fromCachedLayers dots none none none none))).applyDebug
        (planningRun 64 2 previewShown) = none ∧
      (PlanningCall.restoreBytes .slot1).applyDebug (planningRun 64 2 (previewShown ++
        [.change (.planNext (.fromCachedLayers dots (some previewBelow) none none none))])) =
          none := by
  refine ⟨by decide +kernel, ?_, ?_⟩
  · exact Option.not_isSome_iff_eq_none.mp (by decide +kernel)
  · exact Option.not_isSome_iff_eq_none.mp (by decide +kernel)

end MisterMagik.Framebuffer
