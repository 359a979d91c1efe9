/-
  File:      MisterMagik/Framebuffer/CachedSlots.lean
  Subject:   The damage ledger and the pixels of the slots: what a slot does not owe it shows.

  The ledger knows nothing of pixels. Read against the memory of the slots it is an invariant
  (`Cached`): where the debt of a slot covers no source pixel, the slot shows the source the ledger
  was last told about, scaled. Every call of the ledger keeps it:

  * `Cached.record` -- a new source, which differs from the last one only inside the damage;
  * `Cached.restored` -- the debt of a slot is copied, and the slot holds the source whole;
  * `Cached.failed`, `Cached.presented` -- after a failed attempt and after a presentation.
-/
import MisterMagik.Framebuffer.DamageLedger
import MisterMagik.Framebuffer.VerticalScale

namespace MisterMagik.Framebuffer

variable {usizeMax : Nat} {P : Type} {t : VerticalRgb565Transform usizeMax} {stride : Nat}

/-! ## 1. The invariant -/

/-- A dense source of the geometry of the transform. -/
def VerticalRgb565Transform.viewOf (t : VerticalRgb565Transform usizeMax) (source : List P) :
    Rgb565FrameView P :=
  { pixels := source, width := t.width, height := t.sourceHeight, stridePixels := t.width }

/-- The ledger of a source and what the slots show of it. -/
structure Cached (t : VerticalRgb565Transform usizeMax) (stride : Nat)
    (ledger : TwoSlotDamageLedger) (latest : Option (List P)) (memory : PerSlot (List P)) :
    Prop where
  full : ledger.fullRect = ⟨0, 0, t.width, t.sourceHeight⟩
  canonical : ∀ k, (ledger.plan k).Canonical ledger.fullRect
  target : ∀ k, t.TargetOf (memory.get k) stride
  /-- What a slot does not owe it shows. -/
  shows : ∀ k x y sy, x < t.width → t.sourceRowForDestination y = some sy →
    ¬ (ledger.plan k).Covers (x, sy) →
    ∃ source, latest = some source ∧
      (memory.get k)[y * stride + x]? = (t.viewOf source).at x sy

variable {ledger : TwoSlotDamageLedger} {latest : Option (List P)} {memory : PerSlot (List P)}
  {source : List P} {k : SlotIndex} {damage : DirtyRectList} {content : List P}

theorem full_nonempty (t : VerticalRgb565Transform usizeMax) :
    (⟨0, 0, t.width, t.sourceHeight⟩ : DirtyRect).isEmpty = false :=
  DirtyRect.isEmpty_eq_false_iff.mpr ⟨t.width_pos, t.source_pos⟩

theorem mem_full {x sy : Nat} (hx : x < t.width) (hsy : sy < t.sourceHeight) :
    (⟨0, 0, t.width, t.sourceHeight⟩ : DirtyRect).Mem (x, sy) :=
  ⟨Nat.zero_le _, hx, Nat.zero_le _, hsy⟩

/-- A new ledger owes everything. -/
theorem cached_new (htarget : ∀ k, t.TargetOf (memory.get k) stride) :
    Cached t stride (.new t.width t.sourceHeight) none memory where
  full := rfl
  canonical k := by
    rw [TwoSlotDamageLedger.plan_new]
    exact DirtyRectList.canonical_fromOne (full_nonempty t)
  target := htarget
  shows k x y sy hx hrow hnot := by
    rw [TwoSlotDamageLedger.plan_new, DirtyRectList.covers_fromOne] at hnot
    exact absurd (mem_full hx (VerticalRgb565Transform.sourceRow_lt_source hrow)) hnot

theorem Cached.canonical_op (h : Cached t stride ledger latest memory) (o : LedgerOp)
    (k : SlotIndex) : ((o.apply ledger).plan k).Canonical ledger.fullRect :=
  canonical_apply (h.full ▸ full_nonempty t) h.canonical o k

/-! ## 2. A new source -/

/-- The source differs from the last one only inside the damage. -/
def Agrees (t : VerticalRgb565Transform usizeMax) (latest : Option (List P)) (source : List P)
    (damage : DirtyRectList) : Prop :=
  ∀ old, latest = some old → ∀ x sy, x < t.width → sy < t.sourceHeight →
    ¬ damage.Covers (x, sy) → (t.viewOf old).at x sy = (t.viewOf source).at x sy

/-- **Damage that covers every change** makes the ledger one of the new source. -/
theorem Cached.record (h : Cached t stride ledger latest memory)
    (hagrees : Agrees t latest source damage) :
    Cached t stride (ledger.recordDamage damage) (some source) memory where
  full := h.full
  canonical := h.canonical_op (.recordDamage damage)
  target := h.target
  shows k x y sy hx hrow hnot := by
    have hsy := VerticalRgb565Transform.sourceRow_lt_source hrow
    have hmem := mem_full hx hsy
    rw [TwoSlotDamageLedger.plan_recordDamage, h.full] at hnot
    have hold : ¬ (ledger.plan k).Covers (x, sy) := fun hc =>
      hnot (DirtyRectList.covers_extendCanonical hmem (.inl hc))
    have hnew : ¬ damage.Covers (x, sy) := fun hc =>
      hnot (DirtyRectList.covers_extendCanonical hmem (.inr hc))
    obtain ⟨old, hlatest, hshows⟩ := h.shows k x y sy hx hrow hold
    exact ⟨source, rfl, hshows.trans (hagrees old hlatest x sy hx hsy hnew)⟩

/-- Damage that nobody drew only adds to what is owed. -/
theorem Cached.owes (h : Cached t stride ledger latest memory) (damage : DirtyRectList) :
    Cached t stride (ledger.recordDamage damage) latest memory where
  full := h.full
  canonical := h.canonical_op (.recordDamage damage)
  target := h.target
  shows k x y sy hx hrow hnot := by
    have hmem := mem_full hx (VerticalRgb565Transform.sourceRow_lt_source hrow)
    rw [TwoSlotDamageLedger.plan_recordDamage, h.full] at hnot
    exact h.shows k x y sy hx hrow fun hc =>
      hnot (DirtyRectList.covers_extendCanonical hmem (.inl hc))

/-! ## 3. Copies -/

def VerticalRect.ofDirty (rect : DirtyRect) : VerticalRect := ⟨rect.x0, rect.y0, rect.x1, rect.y1⟩

theorem target_set (h : Cached t stride ledger latest memory)
    (hcontent : content.length = (memory.get k).length) (j : SlotIndex) :
    t.TargetOf ((memory.set k content).get j) stride := by
  rw [PerSlot.get_set]
  split
  · have hk := h.target k
    exact ⟨hk.wide, hcontent ▸ hk.holds, hcontent ▸ hk.usize⟩
  · exact h.target j

/-- **What a slot owes is copied**: it holds the source whole. -/
theorem Cached.restored (h : Cached t stride ledger (some source) memory)
    (hsource : t.FrameOf (t.viewOf source))
    (hcontent : content = t.copyRects (t.viewOf source)
      ((ledger.plan k).iter.map .ofDirty) (memory.get k) stride)
    (hlength : content.length = (memory.get k).length) :
    Cached t stride ledger (some source) (memory.set k content) ∧
      t.HoldsScaling (t.viewOf source) content stride := by
  have hholds : t.HoldsScaling (t.viewOf source) content stride := by
    intro x y sy hx hrow
    have hsy := VerticalRgb565Transform.sourceRow_lt_source hrow
    obtain ⟨hcovered, hrest⟩ := VerticalRgb565Transform.copyRects_at hsource (h.target k)
      ((ledger.plan k).iter.map .ofDirty) hx hrow
    rw [hcontent]
    by_cases hc : (ledger.plan k).Covers (x, sy)
    · obtain ⟨r, hr, hmem⟩ := hc
      refine hcovered ⟨.ofDirty r, List.mem_map_of_mem hr, ?_, hmem⟩
      have hnonempty := DirtyRect.isEmpty_eq_false_iff.mp ((h.canonical k).nonempty r hr)
      have hinside := (h.canonical k).inside r hr
      rw [h.full, DirtyRect.contains_iff] at hinside
      exact ⟨hnonempty.1, hnonempty.2, hinside.2.2.1, hinside.2.2.2⟩
    · obtain ⟨old, hlatest, hshows⟩ := h.shows k x y sy hx hrow hc
      obtain rfl := Option.some.inj hlatest
      rw [hrest, hshows]
      rintro ⟨r', hr', -, hmem⟩
      obtain ⟨r, hr, rfl⟩ := List.mem_map.mp hr'
      exact hc ⟨r, hr, hmem⟩
  refine ⟨⟨h.full, h.canonical, target_set h hlength, fun j x y sy hx hrow hnot => ?_⟩, hholds⟩
  rw [PerSlot.get_set]
  split
  · exact ⟨source, rfl, hholds x y sy hx hrow⟩
  · exact h.shows j x y sy hx hrow hnot

/-- **A failed attempt**: whatever the slot holds, it owes everything. -/
theorem Cached.failed (h : Cached t stride ledger latest memory)
    (hlength : content.length = (memory.get k).length) :
    Cached t stride (ledger.markAttemptFailed k) latest (memory.set k content) where
  full := h.full
  canonical := h.canonical_op (.markAttemptFailed k)
  target := target_set h hlength
  shows j x y sy hx hrow hnot := by
    rw [TwoSlotDamageLedger.plan_markAttemptFailed] at hnot
    rw [PerSlot.get_set]
    split at hnot
    · rw [DirtyRectList.covers_fromOne, h.full] at hnot
      exact absurd (mem_full hx (VerticalRgb565Transform.sourceRow_lt_source hrow)) hnot
    · rename_i hne
      rw [if_neg hne]
      exact h.shows j x y sy hx hrow hnot

/-- **A presentation**: the slot holds the source and owes nothing. -/
theorem Cached.presented (h : Cached t stride ledger (some source) memory)
    (hholds : t.HoldsScaling (t.viewOf source) (memory.get k) stride) :
    Cached t stride (ledger.markPresented k) (some source) memory where
  full := h.full
  canonical := h.canonical_op (.markPresented k)
  target := h.target
  shows j x y sy hx hrow hnot := by
    rw [TwoSlotDamageLedger.plan_markPresented] at hnot
    split at hnot
    · rename_i hkj
      obtain rfl := hkj
      exact ⟨source, rfl, hholds x y sy hx hrow⟩
    · exact h.shows j x y sy hx hrow hnot

end MisterMagik.Framebuffer
