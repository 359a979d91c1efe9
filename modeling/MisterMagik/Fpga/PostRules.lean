/-
  File:      MisterMagik/Fpga/PostRules.lean
  Subject:   The semantic rules of a post, over the integers, and that the comparators of the
             latch decide exactly them.

  * `semanticReject_eq` -- the reject reason the wires compute is the first rule the payload
    breaks (`postReject`), no comparison and no address overflowing;
  * `postReject_eq_none_iff` -- no rule is broken: the payload is the all-zero disable or obeys
    every rule.
-/
import MisterMagik.Fpga.Receiver

namespace MisterMagik.Fpga

/-! ## 1. The payload as numbers -/

/-- The route the payload words ask for. -/
def routeOf (words : List Word) : Route :=
  { en := (words.getD 0 0#16).getLsbD 15
    flt := (words.getD 0 0#16).getLsbD 14
    fmt := (words.getD 0 0#16).extractLsb' 0 6
    width := (words.getD 3 0#16).extractLsb' 0 12
    height := (words.getD 4 0#16).extractLsb' 0 12
    hmin := (words.getD 5 0#16).extractLsb' 0 12
    hmax := (words.getD 6 0#16).extractLsb' 0 12
    vmin := (words.getD 7 0#16).extractLsb' 0 12
    vmax := (words.getD 8 0#16).extractLsb' 0 12
    base := words.getD 2 0#16 ++ words.getD 1 0#16
    stride := (words.getD 9 0#16).extractLsb' 0 14 }

/-- The sequence the payload carries. -/
def sequenceOf (words : List Word) : Word := words.getD 10 0#16

namespace Payload

variable (words : List Word)

/-- The payload that disables the display: every word but the sequence is zero. -/
def Disable : Prop := ∀ i, i < 10 → words.getD i 0#16 = 0#16

/-- RGB565, either filter flag, everything else clear. -/
def ModeRule : Prop :=
  (words.getD 0 0#16).toNat = 0x8014 ∨ (words.getD 0 0#16).toNat = 0xC014

/-- Sizes and bounds have twelve bits, the stride fourteen. -/
def ReservedRule : Prop :=
  (∀ i, 3 ≤ i → i ≤ 8 → (words.getD i 0#16).toNat < 2 ^ 12) ∧ (words.getD 9 0#16).toNat < 2 ^ 14

def BaseRule : Prop := (routeOf words).base.toNat ≠ 0 ∧ (routeOf words).base.toNat % 2 = 0

def GeometryRule : Prop :=
  (1 ≤ (routeOf words).width.toNat ∧ (routeOf words).width.toNat ≤ 1366) ∧
    1 ≤ (routeOf words).height.toNat ∧ (routeOf words).height.toNat ≤ 768

def StrideRule : Prop :=
  (routeOf words).stride.toNat % 2 = 0 ∧
    2 * (routeOf words).width.toNat ≤ (routeOf words).stride.toNat ∧
    (routeOf words).stride.toNat ≤ 2736

def BoundsRule : Prop :=
  (routeOf words).hmin.toNat ≤ (routeOf words).hmax.toNat ∧
    (routeOf words).vmin.toNat ≤ (routeOf words).vmax.toNat

/-- The last row ends inside the address space. -/
def SpanRule : Prop :=
  (routeOf words).base.toNat + ((routeOf words).height.toNat - 1) * (routeOf words).stride.toNat +
    2 * (routeOf words).width.toNat ≤ 2 ^ 32

/-- Every rule of an enabling payload. -/
structure Enable : Prop where
  mode : ModeRule words
  reserved : ReservedRule words
  base : BaseRule words
  geometry : GeometryRule words
  stride : StrideRule words
  bounds : BoundsRule words
  span : SpanRule words

/-- What may be posted. -/
def Valid : Prop := Disable words ∨ Enable words

instance : Decidable (Disable words) := Nat.decidableBallLT 10 _
instance : Decidable (ModeRule words) := inferInstanceAs (Decidable (_ ∨ _))
instance : Decidable (BaseRule words) := inferInstanceAs (Decidable (_ ∧ _))
instance : Decidable (GeometryRule words) := inferInstanceAs (Decidable (_ ∧ _))
instance : Decidable (StrideRule words) := inferInstanceAs (Decidable (_ ∧ _))
instance : Decidable (BoundsRule words) := inferInstanceAs (Decidable (_ ∧ _))
instance : Decidable (SpanRule words) := inferInstanceAs (Decidable (_ ≤ _))

theorem reservedRule_iff : ReservedRule words ↔
    (words.getD 3 0#16).toNat < 2 ^ 12 ∧ (words.getD 4 0#16).toNat < 2 ^ 12 ∧
    (words.getD 5 0#16).toNat < 2 ^ 12 ∧ (words.getD 6 0#16).toNat < 2 ^ 12 ∧
    (words.getD 7 0#16).toNat < 2 ^ 12 ∧ (words.getD 8 0#16).toNat < 2 ^ 12 ∧
    (words.getD 9 0#16).toNat < 2 ^ 14 := by
  constructor
  · rintro ⟨h, h9⟩
    exact ⟨h 3 (by omega) (by omega), h 4 (by omega) (by omega), h 5 (by omega) (by omega),
      h 6 (by omega) (by omega), h 7 (by omega) (by omega), h 8 (by omega) (by omega), h9⟩
  · rintro ⟨h3, h4, h5, h6, h7, h8, h9⟩
    refine ⟨fun i h1 h2 => ?_, h9⟩
    obtain rfl | rfl | rfl | rfl | rfl | rfl :
      i = 3 ∨ i = 4 ∨ i = 5 ∨ i = 6 ∨ i = 7 ∨ i = 8 := by omega
    all_goals assumption

instance : Decidable (ReservedRule words) := decidable_of_iff _ (reservedRule_iff words).symm

/-- The first rule the payload breaks, in the order of the latch. -/
def postReject : BitVec 4 :=
  if (words.getD 0 0#16).getLsbD 15 = false then
    if Disable words then MAGIK_REJECT_NONE else MAGIK_REJECT_INVALID_MODE
  else if ¬ ModeRule words then MAGIK_REJECT_INVALID_MODE
  else if ¬ ReservedRule words then MAGIK_REJECT_RESERVED
  else if ¬ BaseRule words then MAGIK_REJECT_INVALID_BASE
  else if ¬ GeometryRule words then MAGIK_REJECT_INVALID_GEOMETRY
  else if ¬ StrideRule words then MAGIK_REJECT_INVALID_STRIDE
  else if ¬ BoundsRule words then MAGIK_REJECT_INVALID_BOUNDS
  else if ¬ SpanRule words then MAGIK_REJECT_ADDRESS_WRAP
  else MAGIK_REJECT_NONE

/-- The reasons `postReject` gives: none of them is a framing or a check reason. -/
theorem postReject_cases : postReject words ∈
    [MAGIK_REJECT_NONE, MAGIK_REJECT_INVALID_MODE, MAGIK_REJECT_RESERVED,
      MAGIK_REJECT_INVALID_BASE, MAGIK_REJECT_INVALID_GEOMETRY, MAGIK_REJECT_INVALID_STRIDE,
      MAGIK_REJECT_INVALID_BOUNDS, MAGIK_REJECT_ADDRESS_WRAP] := by
  unfold postReject
  repeat' split
  all_goals simp

theorem getLsbD_15_of_modeRule {words : List Word} (h : ModeRule words) :
    (words.getD 0 0#16).getLsbD 15 = true := by
  rcases h with h | h <;> rw [BitVec.getLsbD, h] <;> decide

/-- **No rule is broken** exactly by a valid payload. -/
theorem postReject_eq_none_iff : postReject words = MAGIK_REJECT_NONE ↔ Valid words := by
  constructor
  · intro h
    unfold postReject at h
    split at h
    · split at h
      · exact .inl ‹_›
      · exact absurd h (by decide)
    refine .inr ?_
    split at h
    · exact absurd h (by decide)
    rename_i hmode
    split at h
    · exact absurd h (by decide)
    rename_i hreserved
    split at h
    · exact absurd h (by decide)
    rename_i hbase
    split at h
    · exact absurd h (by decide)
    rename_i hgeometry
    split at h
    · exact absurd h (by decide)
    rename_i hstride
    split at h
    · exact absurd h (by decide)
    rename_i hbounds
    split at h
    · exact absurd h (by decide)
    rename_i hspan
    exact
      { mode := not_not.mp hmode, reserved := not_not.mp hreserved, base := not_not.mp hbase
        geometry := not_not.mp hgeometry, stride := not_not.mp hstride
        bounds := not_not.mp hbounds, span := not_not.mp hspan }
  · rintro (hd | he)
    · have h0 : (words.getD 0 0#16).getLsbD 15 = false := by rw [hd 0 (by omega)]; decide
      rw [postReject, if_pos h0, if_pos hd]
    · have h15 : ¬ (words.getD 0 0#16).getLsbD 15 = false := by
        rw [getLsbD_15_of_modeRule he.mode]
        decide
      rw [postReject, if_neg h15]
      simp [he.mode, he.reserved, he.base, he.geometry, he.stride, he.bounds, he.span]

end Payload

/-! ## 2. The comparators -/

namespace Receiver.Loaded

variable {rx : Receiver} {words : List Word}

theorem base_eq (h : rx.Loaded words) (hlen : words.length = 11) :
    rx.base = words.getD 2 0#16 ++ words.getD 1 0#16 := by
  have h1 := h.payload 1 (by omega)
  have h2 := h.payload 2 (by omega)
  rw [← h1, ← h2]
  simp only [payloadWord]
  apply BitVec.eq_of_getLsbD_eq
  intro i hi
  simp only [BitVec.getLsbD_append, BitVec.getLsbD_extractLsb']
  by_cases h16 : i < 16
  · simp [h16]
  · simp [h16, show 16 + (i - 16) = i by omega, show i - 16 < 16 by omega]

/-- The payload registers, read off the words. -/
structure PayloadRegs (rx : Receiver) (words : List Word) : Prop where
  mode : rx.mode = words.getD 0 0#16
  base : rx.base = words.getD 2 0#16 ++ words.getD 1 0#16
  width : rx.widthWord = words.getD 3 0#16
  height : rx.heightWord = words.getD 4 0#16
  hmin : rx.hminWord = words.getD 5 0#16
  hmax : rx.hmaxWord = words.getD 6 0#16
  vmin : rx.vminWord = words.getD 7 0#16
  vmax : rx.vmaxWord = words.getD 8 0#16
  stride : rx.strideWord = words.getD 9 0#16
  seq : rx.seq = words.getD 10 0#16

theorem payloadRegs (h : rx.Loaded words) (hlen : words.length = 11) : PayloadRegs rx words where
  mode := h.payload 0 (by omega)
  base := h.base_eq hlen
  width := h.payload 3 (by omega)
  height := h.payload 4 (by omega)
  hmin := h.payload 5 (by omega)
  hmax := h.payload 6 (by omega)
  vmin := h.payload 7 (by omega)
  vmax := h.payload 8 (by omega)
  stride := h.payload 9 (by omega)
  seq := h.payload 10 (by omega)

theorem route_eq (h : rx.Loaded words) (hlen : words.length = 11) : rx.route = routeOf words := by
  have w := h.payloadRegs hlen
  simp only [route, routeOf, Receiver.width, Receiver.height, Receiver.hmin, Receiver.hmax,
    Receiver.vmin, Receiver.vmax, Receiver.stride, w.mode, w.base, w.width, w.height, w.hmin,
    w.hmax, w.vmin, w.vmax, w.stride]

theorem seq_eq (h : rx.Loaded words) (hlen : words.length = 11) : rx.seq = sequenceOf words :=
  (h.payloadRegs hlen).seq

end Receiver.Loaded

section Comparators

theorem toNat_zero_append {m n : Nat} (x : BitVec n) : (0#m ++ x).toNat = x.toNat := by
  simp [BitVec.toNat_append]

theorem mode_bits (m : Word) (h15 : m.getLsbD 15 = true) :
    (m.extractLsb' 6 8 != 0 || m.extractLsb' 0 6 != 0x14#6) = false ↔
      m.toNat = 0x8014 ∨ m.toNat = 0xC014 := by
  have hlt := m.isLt
  rw [BitVec.getLsbD, Nat.testBit_eq_decide_div_mod_eq, decide_eq_true_eq] at h15
  simp only [Bool.or_eq_false_iff, bne_eq_false_iff_eq, ← BitVec.toNat_inj,
    BitVec.extractLsb'_toNat, Nat.shiftRight_eq_div_pow]
  have e0 : (0 : BitVec 8).toNat = 0 := rfl
  have e14 : (0x14#6).toNat = 20 := rfl
  rw [e0, e14]
  omega

theorem high_bits_12 (v : Word) : (v.extractLsb' 12 4 != 0#4) = false ↔ v.toNat < 2 ^ 12 := by
  have hlt := v.isLt
  rw [bne_eq_false_iff_eq, ← BitVec.toNat_inj, BitVec.extractLsb'_toNat,
    Nat.shiftRight_eq_div_pow]
  have e0 : (0#4).toNat = 0 := rfl
  rw [e0]
  omega

theorem high_bits_14 (v : Word) : (v.extractLsb' 14 2 != 0#2) = false ↔ v.toNat < 2 ^ 14 := by
  have hlt := v.isLt
  rw [bne_eq_false_iff_eq, ← BitVec.toNat_inj, BitVec.extractLsb'_toNat,
    Nat.shiftRight_eq_div_pow]
  have e0 : (0#2).toNat = 0 := rfl
  rw [e0]
  omega

variable {rx : Receiver} {words : List Word}

theorem reservedFields_eq (w : Receiver.Loaded.PayloadRegs rx words) :
    rx.reservedFields = false ↔ Payload.ReservedRule words := by
  rw [Payload.reservedRule_iff]
  unfold Receiver.reservedFields
  simp only [Bool.or_eq_false_iff, high_bits_12, high_bits_14, w.width, w.height, w.hmin, w.hmax,
    w.vmin, w.vmax, w.stride, and_assoc]

theorem baseRule_eq (w : Receiver.Loaded.PayloadRegs rx words) :
    (rx.base == 0 || rx.base.getLsbD 0) = false ↔ Payload.BaseRule words := by
  have e : (routeOf words).base = rx.base := w.base.symm
  unfold Payload.BaseRule
  rw [e, Bool.or_eq_false_iff, beq_eq_false_iff_ne, BitVec.getLsbD,
    Nat.testBit_eq_decide_div_mod_eq, decide_eq_false_iff_not, ne_eq, ← BitVec.toNat_inj]
  have e0 : (0 : BitVec 32).toNat = 0 := rfl
  rw [e0]
  omega

theorem geometryRule_eq (w : Receiver.Loaded.PayloadRegs rx words) :
    (rx.width == 0 || MAGIK_FBUF_MAX_WIDTH < (0#4 ++ rx.width) || rx.height == 0 ||
      MAGIK_FBUF_MAX_HEIGHT < (0#4 ++ rx.height)) = false ↔ Payload.GeometryRule words := by
  have ew : (routeOf words).width = rx.width := by rw [Receiver.width, w.width]; rfl
  have eh : (routeOf words).height = rx.height := by rw [Receiver.height, w.height]; rfl
  unfold Payload.GeometryRule
  rw [ew, eh]
  simp only [Bool.or_eq_false_iff, beq_eq_false_iff_ne, ne_eq, ← BitVec.toNat_inj,
    decide_eq_false_iff_not, BitVec.lt_def, toNat_zero_append]
  have e0 : (0 : BitVec 12).toNat = 0 := rfl
  have e1 : MAGIK_FBUF_MAX_WIDTH.toNat = 1366 := rfl
  have e2 : MAGIK_FBUF_MAX_HEIGHT.toNat = 768 := rfl
  rw [e0, e1, e2]
  omega

theorem strideRule_eq (w : Receiver.Loaded.PayloadRegs rx words) :
    (rx.stride.getLsbD 0 || rx.stride < ((0#2 ++ rx.width) <<< 1) ||
      MAGIK_FBUF_MAX_STRIDE < (0#2 ++ rx.stride)) = false ↔ Payload.StrideRule words := by
  have ew : (routeOf words).width = rx.width := by rw [Receiver.width, w.width]; rfl
  have es : (routeOf words).stride = rx.stride := by rw [Receiver.stride, w.stride]; rfl
  unfold Payload.StrideRule
  rw [ew, es]
  have hw := rx.width.isLt
  simp only [Bool.or_eq_false_iff, decide_eq_false_iff_not, BitVec.lt_def, BitVec.toNat_shiftLeft,
    toNat_zero_append, BitVec.getLsbD, Nat.testBit_eq_decide_div_mod_eq, Nat.shiftLeft_eq]
  have e1 : MAGIK_FBUF_MAX_STRIDE.toNat = 2736 := rfl
  rw [e1, Nat.mod_eq_of_lt (show rx.width.toNat * 2 ^ 1 < 2 ^ 14 by omega)]
  omega

theorem boundsRule_eq (w : Receiver.Loaded.PayloadRegs rx words) :
    (rx.hmax < rx.hmin || rx.vmax < rx.vmin : Bool) = false ↔ Payload.BoundsRule words := by
  have e1 : (routeOf words).hmin = rx.hmin := by rw [Receiver.hmin, w.hmin]; rfl
  have e2 : (routeOf words).hmax = rx.hmax := by rw [Receiver.hmax, w.hmax]; rfl
  have e3 : (routeOf words).vmin = rx.vmin := by rw [Receiver.vmin, w.vmin]; rfl
  have e4 : (routeOf words).vmax = rx.vmax := by rw [Receiver.vmax, w.vmax]; rfl
  unfold Payload.BoundsRule
  rw [e1, e2, e3, e4]
  simp only [Bool.or_eq_false_iff, decide_eq_false_iff_not, BitVec.lt_def, Nat.not_lt]

theorem rowSpan_toNat (h : rx.Loaded words) (hlen : words.length = 11) (hh : 1 ≤ rx.height.toNat) :
    rx.rowSpan.toNat = (rx.height.toNat - 1) * rx.stride.toNat := by
  have h1 : rx.heightMinusOne.toNat = rx.height.toNat - 1 := by
    have hlt := rx.height.isLt
    rw [Receiver.heightMinusOne, BitVec.toNat_sub]
    have e1 : (1#12).toNat = 1 := rfl
    rw [e1]
    omega
  have hhlt := rx.height.isLt
  have hslt := rx.stride.isLt
  -- twelve bits times fourteen bits
  have hmul : (rx.height.toNat - 1) * rx.stride.toNat < 2 ^ 26 := by
    calc (rx.height.toNat - 1) * rx.stride.toNat
        ≤ (2 ^ 12 - 1) * rx.stride.toNat := Nat.mul_le_mul_right _ (by omega)
      _ < 2 ^ 26 := by omega
  rw [h.rowSpan (by omega), BitVec.toNat_mul, BitVec.toNat_setWidth, BitVec.toNat_setWidth, h1,
    Nat.mod_eq_of_lt (show rx.height.toNat - 1 < 2 ^ 26 by omega),
    Nat.mod_eq_of_lt (show rx.stride.toNat < 2 ^ 26 by omega), Nat.mod_eq_of_lt hmul]

theorem toNat_append_zero_bit {n : Nat} (x : BitVec n) : (x ++ 0#1).toNat = 2 * x.toNat := by
  rw [BitVec.toNat_append, show (0#1).toNat = 0 from rfl, Nat.or_zero, Nat.shiftLeft_eq]
  omega

theorem spanRule_eq (h : rx.Loaded words) (hlen : words.length = 11)
    (hg : Payload.GeometryRule words) : rx.addressWrap = false ↔ Payload.SpanRule words := by
  have w := h.payloadRegs hlen
  have ew : (routeOf words).width = rx.width := by rw [Receiver.width, w.width]; rfl
  have eh : (routeOf words).height = rx.height := by rw [Receiver.height, w.height]; rfl
  have es : (routeOf words).stride = rx.stride := by rw [Receiver.stride, w.stride]; rfl
  have eb : (routeOf words).base = rx.base := w.base.symm
  obtain ⟨-, hh, hh'⟩ := hg
  rw [eh] at hh hh'
  have hspan := rowSpan_toNat h hlen hh
  have hrlt := rx.rowSpan.isLt
  have hblt := rx.base.isLt
  have hwlt := rx.width.isLt
  have hend : rx.pipelinedEndAddress.toNat =
      rx.base.toNat + rx.rowSpan.toNat + 2 * rx.width.toNat := by
    unfold Receiver.pipelinedEndAddress
    rw [BitVec.toNat_add, BitVec.toNat_add, toNat_zero_append, toNat_zero_append,
      toNat_append_zero_bit, toNat_zero_append]
    omega
  unfold Payload.SpanRule
  rw [h.addressWrap (by omega), decide_eq_false_iff_not, BitVec.lt_def, hend, hspan, ew, eh, es, eb]
  have e : (0x100000000#33).toNat = 2 ^ 32 := rfl
  rw [e]
  omega

theorem disable_eq (w : Receiver.Loaded.PayloadRegs rx words) :
    (rx.mode != 0 || rx.base != 0 || rx.widthWord != 0 || rx.heightWord != 0 || rx.hminWord != 0 ||
      rx.hmaxWord != 0 || rx.vminWord != 0 || rx.vmaxWord != 0 || rx.strideWord != 0) = false ↔
      Payload.Disable words := by
  have hb : words.getD 2 0#16 ++ words.getD 1 0#16 = (0 : BitVec 32) ↔
      words.getD 2 0#16 = 0#16 ∧ words.getD 1 0#16 = 0#16 := by
    constructor
    · intro h
      have h2 := Receiver.hi_append (words.getD 2 0#16) (words.getD 1 0#16)
      have h1 := Receiver.lo_append (words.getD 2 0#16) (words.getD 1 0#16)
      rw [h] at h1 h2
      exact ⟨h2.symm, h1.symm⟩
    · rintro ⟨h2, h1⟩
      rw [h2, h1]
      rfl
  simp only [Bool.or_eq_false_iff, bne_eq_false_iff_eq, w.mode, w.base, w.width, w.height, w.hmin,
    w.hmax, w.vmin, w.vmax, w.stride, hb]
  constructor
  · rintro ⟨⟨⟨⟨⟨⟨⟨⟨h0, h2, h1⟩, h3⟩, h4⟩, h5⟩, h6⟩, h7⟩, h8⟩, h9⟩ i hi
    obtain rfl | rfl | rfl | rfl | rfl | rfl | rfl | rfl | rfl | rfl :
      i = 0 ∨ i = 1 ∨ i = 2 ∨ i = 3 ∨ i = 4 ∨ i = 5 ∨ i = 6 ∨ i = 7 ∨ i = 8 ∨ i = 9 := by omega
    all_goals assumption
  · intro h
    exact ⟨⟨⟨⟨⟨⟨⟨⟨h 0 (by omega), h 2 (by omega), h 1 (by omega)⟩, h 3 (by omega)⟩, h 4 (by omega)⟩,
      h 5 (by omega)⟩, h 6 (by omega)⟩, h 7 (by omega)⟩, h 8 (by omega)⟩, h 9 (by omega)⟩

theorem ite_of_false_iff {α : Type} {b : Bool} {P : Prop} [Decidable P] (h : b = false ↔ P)
    (x y : α) : (if b then x else y) = if ¬ P then x else y := by
  cases b with
  | false => rw [if_neg Bool.false_ne_true, if_neg (not_not.mpr (h.mp rfl))]
  | true => rw [if_pos rfl, if_pos fun hp => Bool.noConfusion (h.mpr hp)]

/-- **The wires compute the first rule the payload breaks.** -/
theorem semanticReject_eq (h : rx.Loaded words) (hlen : words.length = 11) :
    rx.semanticReject = Payload.postReject words := by
  have w := h.payloadRegs hlen
  unfold Receiver.semanticReject Payload.postReject
  rw [← w.mode]
  cases h15 : rx.mode.getLsbD 15 with
  | false =>
      rw [ite_of_false_iff (disable_eq w)]
      by_cases hd : Payload.Disable words <;> simp [hd]
  | true =>
      have hmode : (rx.mode.extractLsb' 6 8 != 0 || rx.mode.extractLsb' 0 6 != 0x14#6) = false ↔
          Payload.ModeRule words := by
        rw [mode_bits _ h15, w.mode]
        rfl
      rw [ite_of_false_iff hmode, ite_of_false_iff (reservedFields_eq w),
        ite_of_false_iff (baseRule_eq w), ite_of_false_iff (geometryRule_eq w),
        ite_of_false_iff (strideRule_eq w), ite_of_false_iff (boundsRule_eq w)]
      by_cases hg : Payload.GeometryRule words
      · rw [ite_of_false_iff (spanRule_eq h hlen hg)]
        simp
      · -- the address is only looked at behind the geometry
        simp [hg]

end Comparators

end MisterMagik.Fpga
