/-
  File:      MisterMagik/Framebuffer/DamageLedger.lean
  Subject:   `TwoSlotDamageLedger`: what each hidden slot still owes the cached frame.

  Every change of the cached frame is a debt of both slots; presenting a slot clears its debt, a
  failed attempt or an invalidation makes it the whole surface. The list of debts is bounded, so
  it may grow to the whole surface but may never lose a pixel.

  * `covers_run` -- after any history the debt of a slot covers every pixel of the surface the
    slot owes, `Owes` read off that history (`Base.owed_iff`);
  * `canonical_run` -- and its list stays canonical;
  * `ledger_debt_complete` -- both at once.
-/
import MisterMagik.Base.Lag
import MisterMagik.Framebuffer.Damage

namespace MisterMagik.Framebuffer

open MisterMagik.Base (LagOp SpoiledSince owed owed_iff owed_concat)

/-! ## 1. Slots -/

/-- The `u8` slot numbers `slot_offset` accepts: 1 and 2. Any other number panics there. -/
inductive SlotIndex where
  | slot1
  | slot2
  deriving DecidableEq, Repr

/-- `other_slot`. -/
def SlotIndex.other : SlotIndex → SlotIndex
  | slot1 => slot2
  | slot2 => slot1

@[simp] theorem SlotIndex.other_ne (k : SlotIndex) : k.other ≠ k := by cases k <;> decide

@[simp] theorem SlotIndex.ne_other (k : SlotIndex) : k ≠ k.other := by cases k <;> decide

@[simp] theorem SlotIndex.other_other (k : SlotIndex) : k.other.other = k := by cases k <;> rfl

/-- An array `[T; 2]` indexed by `slot_offset`. -/
structure PerSlot (α : Type) where
  slot1 : α
  slot2 : α
  deriving DecidableEq, Repr

namespace PerSlot

variable {α : Type}

def both (a : α) : PerSlot α := ⟨a, a⟩

def get (s : PerSlot α) : SlotIndex → α
  | .slot1 => s.slot1
  | .slot2 => s.slot2

def set (s : PerSlot α) (k : SlotIndex) (a : α) : PerSlot α :=
  match k with
  | .slot1 => { s with slot1 := a }
  | .slot2 => { s with slot2 := a }

def map {β : Type} (f : α → β) (s : PerSlot α) : PerSlot β := ⟨f s.slot1, f s.slot2⟩

@[simp] theorem get_both (a : α) (k : SlotIndex) : (both a).get k = a := by cases k <;> rfl

@[simp] theorem get_map {β : Type} (f : α → β) (s : PerSlot α) (k : SlotIndex) :
    (s.map f).get k = f (s.get k) := by cases k <;> rfl

@[simp] theorem get_set_self (s : PerSlot α) (k : SlotIndex) (a : α) : (s.set k a).get k = a := by
  cases k <;> rfl

theorem get_set_of_ne (s : PerSlot α) {j k : SlotIndex} (h : j ≠ k) (a : α) :
    (s.set k a).get j = s.get j := by
  cases j <;> cases k <;> first | rfl | exact absurd rfl h

theorem get_set (s : PerSlot α) (j k : SlotIndex) (a : α) :
    (s.set k a).get j = if k = j then a else s.get j := by
  cases j <;> cases k <;> rfl

end PerSlot

/-! ## 2. The ledger -/

structure TwoSlotDamageLedger where
  debts : PerSlot DirtyRectList
  fullRect : DirtyRect
  deriving DecidableEq, Repr

namespace TwoSlotDamageLedger

def new (width height : Nat) : TwoSlotDamageLedger :=
  let fullRect : DirtyRect := ⟨0, 0, width, height⟩
  { debts := .both (.fromOne fullRect), fullRect }

def recordDamage (self : TwoSlotDamageLedger) (damage : DirtyRectList) : TwoSlotDamageLedger :=
  { self with debts := self.debts.map fun debt => debt.extendCanonical damage self.fullRect }

def plan (self : TwoSlotDamageLedger) (slotIndex : SlotIndex) : DirtyRectList :=
  self.debts.get slotIndex

def markPresented (self : TwoSlotDamageLedger) (slotIndex : SlotIndex) : TwoSlotDamageLedger :=
  { self with debts := self.debts.set slotIndex (self.debts.get slotIndex).clear }

def invalidateSlot (self : TwoSlotDamageLedger) (slotIndex : SlotIndex) : TwoSlotDamageLedger :=
  { self with debts := self.debts.set slotIndex (.fromOne self.fullRect) }

def markAttemptFailed (self : TwoSlotDamageLedger) (slotIndex : SlotIndex) :
    TwoSlotDamageLedger :=
  self.invalidateSlot slotIndex

def invalidateAll (self : TwoSlotDamageLedger) : TwoSlotDamageLedger :=
  { self with debts := .both (.fromOne self.fullRect) }

def invalidBytes (self : TwoSlotDamageLedger) (slotIndex : SlotIndex) : Nat :=
  (self.plan slotIndex).totalRgb565Bytes

@[simp] theorem fullRect_new (w h : Nat) : (new w h).fullRect = ⟨0, 0, w, h⟩ := rfl

@[simp] theorem fullRect_recordDamage (l : TwoSlotDamageLedger) (d : DirtyRectList) :
    (l.recordDamage d).fullRect = l.fullRect := rfl

@[simp] theorem fullRect_markPresented (l : TwoSlotDamageLedger) (k : SlotIndex) :
    (l.markPresented k).fullRect = l.fullRect := rfl

@[simp] theorem fullRect_markAttemptFailed (l : TwoSlotDamageLedger) (k : SlotIndex) :
    (l.markAttemptFailed k).fullRect = l.fullRect := rfl

@[simp] theorem fullRect_invalidateAll (l : TwoSlotDamageLedger) :
    l.invalidateAll.fullRect = l.fullRect := rfl

@[simp] theorem plan_new (w h : Nat) (k : SlotIndex) :
    (new w h).plan k = .fromOne ⟨0, 0, w, h⟩ := by simp [plan, new]

@[simp] theorem plan_recordDamage (l : TwoSlotDamageLedger) (d : DirtyRectList) (k : SlotIndex) :
    (l.recordDamage d).plan k = (l.plan k).extendCanonical d l.fullRect := by
  simp [plan, recordDamage]

@[simp] theorem plan_markPresented (l : TwoSlotDamageLedger) (j k : SlotIndex) :
    (l.markPresented j).plan k = if j = k then (l.plan j).clear else l.plan k := by
  simp [plan, markPresented, PerSlot.get_set]

@[simp] theorem plan_invalidateSlot (l : TwoSlotDamageLedger) (j k : SlotIndex) :
    (l.invalidateSlot j).plan k = if j = k then .fromOne l.fullRect else l.plan k := by
  simp [plan, invalidateSlot, PerSlot.get_set]

@[simp] theorem plan_markAttemptFailed (l : TwoSlotDamageLedger) (j k : SlotIndex) :
    (l.markAttemptFailed j).plan k = if j = k then .fromOne l.fullRect else l.plan k :=
  plan_invalidateSlot l j k

@[simp] theorem plan_invalidateAll (l : TwoSlotDamageLedger) (k : SlotIndex) :
    l.invalidateAll.plan k = .fromOne l.fullRect := by simp [plan, invalidateAll]

end TwoSlotDamageLedger

/-! ## 3. Histories -/

/-- The calls that change a ledger. -/
inductive LedgerOp where
  | recordDamage (damage : DirtyRectList)
  | markPresented (slotIndex : SlotIndex)
  | markAttemptFailed (slotIndex : SlotIndex)
  | invalidateSlot (slotIndex : SlotIndex)
  | invalidateAll
  deriving DecidableEq

namespace LedgerOp

def apply (l : TwoSlotDamageLedger) : LedgerOp → TwoSlotDamageLedger
  | recordDamage damage => l.recordDamage damage
  | markPresented k => l.markPresented k
  | markAttemptFailed k => l.markAttemptFailed k
  | invalidateSlot k => l.invalidateSlot k
  | invalidateAll => l.invalidateAll

/-- The call puts pixel `p` of slot `k` out of date. -/
def Damages (k : SlotIndex) (p : Pixel) : LedgerOp → Prop
  | recordDamage damage => damage.Covers p
  | markPresented _ => False
  | markAttemptFailed j => j = k
  | invalidateSlot j => j = k
  | invalidateAll => True

/-- The call, as an operation on two copies of the frame that lag behind it. -/
def toLag : LedgerOp → LagOp SlotIndex Pixel
  | recordDamage damage => .touch {p | damage.Covers p}
  | markPresented k => .settle k
  | markAttemptFailed k => .lose k
  | invalidateSlot k => .lose k
  | invalidateAll => .loseAll

theorem mem_spoils_toLag (o : LedgerOp) (k : SlotIndex) (p : Pixel) :
    p ∈ o.toLag.spoils k ↔ o.Damages k p := by
  cases o <;> simp [toLag, LagOp.spoils, Damages]

theorem toLag_eq_settle {o : LedgerOp} {k : SlotIndex} :
    o.toLag = .settle k ↔ o = .markPresented k := by
  cases o <;> simp [toLag]

end LedgerOp

/-- A ledger over a `width × height` surface after a history. -/
def ledgerRun (width height : Nat) (ops : List LedgerOp) : TwoSlotDamageLedger :=
  ops.foldl LedgerOp.apply (.new width height)

@[simp] theorem ledgerRun_nil (w h : Nat) : ledgerRun w h [] = .new w h := rfl

@[simp] theorem ledgerRun_concat (w h : Nat) (ops : List LedgerOp) (o : LedgerOp) :
    ledgerRun w h (ops ++ [o]) = o.apply (ledgerRun w h ops) := by simp [ledgerRun]

/-- Pixel `p` of slot `k` is out of date after a history: the slot was never marked presented, or
    something damaged the pixel after which the slot was not marked presented. -/
def Owes (ops : List LedgerOp) (k : SlotIndex) (p : Pixel) : Prop :=
  .markPresented k ∉ ops ∨
    ∃ pre op post, ops = pre ++ op :: post ∧ op.Damages k p ∧ .markPresented k ∉ post

theorem owes_iff_owed (ops : List LedgerOp) (k : SlotIndex) (p : Pixel) :
    Owes ops k p ↔ p ∈ owed k (ops.map LedgerOp.toLag) := by
  have hset : ∀ os : List LedgerOp, LagOp.settle k ∉ os.map LedgerOp.toLag ↔
      .markPresented k ∉ os := by
    intro os
    simp [List.mem_map, LedgerOp.toLag_eq_settle]
  rw [owed_iff, hset]
  refine or_congr Iff.rfl ⟨?_, ?_⟩
  · rintro ⟨pre, op, post, rfl, hd, hn⟩
    exact ⟨pre.map LedgerOp.toLag, op.toLag, post.map LedgerOp.toLag, by simp,
      (LedgerOp.mem_spoils_toLag _ _ _).mpr hd, (hset _).mpr hn⟩
  · rintro ⟨pre', o', post', h, hx, hn⟩
    obtain ⟨pre, rest, rfl, rfl, hrest⟩ := List.map_eq_append_iff.mp h
    obtain ⟨op, post, rfl, rfl, rfl⟩ := List.map_eq_cons_iff.mp hrest
    exact ⟨pre, op, post, rfl, (LedgerOp.mem_spoils_toLag _ _ _).mp hx, (hset _).mp hn⟩

section Run

variable (w h : Nat)

theorem fullRect_ledgerRun (ops : List LedgerOp) :
    (ledgerRun w h ops).fullRect = ⟨0, 0, w, h⟩ := by
  induction ops using List.reverseRecOn with
  | nil => rfl
  | append_singleton ops o ih => rw [ledgerRun_concat, ← ih]; cases o <;> rfl

/-- One call: the debt covers what the slot owes after it. -/
theorem covers_apply {l : TwoSlotDamageLedger} {k : SlotIndex} {p : Pixel} {S : Set Pixel}
    (hp : l.fullRect.Mem p) (hS : p ∈ S → (l.plan k).Covers p) (o : LedgerOp)
    (ho : p ∈ o.toLag.apply k S) : ((o.apply l).plan k).Covers p := by
  cases o with
  | recordDamage damage =>
      simp only [LedgerOp.apply, TwoSlotDamageLedger.plan_recordDamage]
      exact DirtyRectList.covers_extendCanonical hp (ho.imp hS id)
  | markPresented j =>
      simp only [LedgerOp.toLag, LagOp.apply] at ho
      split at ho
      · exact absurd ho (Set.notMem_empty p)
      · rename_i hj
        simpa [LedgerOp.apply, hj] using hS ho
  | markAttemptFailed j | invalidateSlot j =>
      simp only [LedgerOp.toLag, LagOp.apply] at ho
      by_cases hj : j = k
      · simpa [LedgerOp.apply, hj] using hp
      · rw [if_neg hj] at ho
        simpa [LedgerOp.apply, hj] using hS ho
  | invalidateAll => simpa [LedgerOp.apply] using hp

/-- **No pixel of debt is lost over any history.** -/
theorem covers_run (ops : List LedgerOp) (k : SlotIndex) {p : Pixel}
    (hp : (⟨0, 0, w, h⟩ : DirtyRect).Mem p) (ho : Owes ops k p) :
    ((ledgerRun w h ops).plan k).Covers p := by
  rw [owes_iff_owed] at ho
  induction ops using List.reverseRecOn with
  | nil => simpa using hp
  | append_singleton ops o ih =>
      rw [List.map_append, List.map_cons, List.map_nil, owed_concat] at ho
      rw [ledgerRun_concat]
      exact covers_apply (by rwa [fullRect_ledgerRun]) ih o ho

theorem canonical_apply {l : TwoSlotDamageLedger} (hf : l.fullRect.isEmpty = false)
    (hl : ∀ k, (l.plan k).Canonical l.fullRect) (o : LedgerOp) (k : SlotIndex) :
    ((o.apply l).plan k).Canonical l.fullRect := by
  have hfull := DirtyRectList.canonical_fromOne hf
  cases o with
  | recordDamage damage => simpa [LedgerOp.apply] using (hl k).extendCanonical hf damage
  | markPresented j =>
      simp only [LedgerOp.apply, TwoSlotDamageLedger.plan_markPresented]
      split
      · exact DirtyRectList.canonical_clear _ _
      · exact hl k
  | markAttemptFailed j | invalidateSlot j =>
      simp only [LedgerOp.apply, TwoSlotDamageLedger.plan_markAttemptFailed,
        TwoSlotDamageLedger.plan_invalidateSlot]
      split
      · exact hfull
      · exact hl k
  | invalidateAll => simpa [LedgerOp.apply] using hfull

/-- The lists stay canonical over any history. -/
theorem canonical_run (hw : 0 < w) (hh : 0 < h) (ops : List LedgerOp) (k : SlotIndex) :
    ((ledgerRun w h ops).plan k).Canonical ⟨0, 0, w, h⟩ := by
  have hf : (⟨0, 0, w, h⟩ : DirtyRect).isEmpty = false :=
    DirtyRect.isEmpty_eq_false_iff.mpr ⟨hw, hh⟩
  induction ops using List.reverseRecOn generalizing k with
  | nil => simpa using DirtyRectList.canonical_fromOne hf
  | append_singleton ops o ih =>
      rw [ledgerRun_concat]
      have hr := fullRect_ledgerRun w h ops
      have := canonical_apply (l := ledgerRun w h ops) (by rwa [hr])
        (fun k => by rw [hr]; exact ih k) o k
      rwa [hr] at this

end Run

/-- **The debt of a slot is complete and canonical after any history** of a ledger over a
    non-empty surface: it covers every surface pixel damaged since the slot was last marked
    presented (every one, if the slot was never presented, failed or was invalidated since), its
    rectangles are non-empty and inside the surface, none contains another, and they fit. -/
theorem ledger_debt_complete (width height : Nat) (hw : 0 < width) (hh : 0 < height)
    (ops : List LedgerOp) (k : SlotIndex) :
    (∀ p : Pixel, p.1 < width → p.2 < height → Owes ops k p →
      ∃ r ∈ ((ledgerRun width height ops).plan k).iter, r.Mem p) ∧
    (∀ r ∈ ((ledgerRun width height ops).plan k).iter,
      r.isEmpty = false ∧ r.x1 ≤ width ∧ r.y1 ≤ height) ∧
    (((ledgerRun width height ops).plan k).iter.Pairwise fun a b =>
      a.contains b = false ∧ b.contains a = false) ∧
    ((ledgerRun width height ops).plan k).iter.length ≤ DIRTY_RECT_LIST_CAP := by
  have hc := canonical_run width height hw hh ops k
  refine ⟨fun p h1 h2 ho => covers_run width height ops k ⟨Nat.zero_le _, h1, Nat.zero_le _, h2⟩ ho,
    fun r hr => ⟨hc.nonempty r hr, ?_⟩, hc.incomparable, ?_⟩
  · have := DirtyRect.contains_iff.mp (hc.inside r hr)
    exact ⟨this.2.2.1, this.2.2.2⟩
  · rw [DirtyRectList.length_iter]
    exact DirtyRectList.len_le _

/-- The two-slot history of `alternating_slots_retain_every_cached_mutation`. -/
theorem ledger_debt_complete_alternating :
    ∃ r ∈ ((ledgerRun 100 80 [.markPresented .slot1, .markPresented .slot2,
        .recordDamage (.fromOne ⟨10, 10, 20, 20⟩), .markPresented .slot1,
        .recordDamage (.fromOne ⟨30, 30, 40, 40⟩)]).plan .slot2).iter, r.Mem (15, 15) := by
  refine (ledger_debt_complete 100 80 (by decide) (by decide) _ .slot2).1 (15, 15) (by decide)
    (by decide) (.inr ⟨[.markPresented .slot1, .markPresented .slot2], _, _, rfl, ?_, ?_⟩)
  · exact DirtyRectList.covers_fromOne.mpr (by decide)
  · simp

end MisterMagik.Framebuffer
