/-
  File:      MisterMagik/Base/Crc.lean
  Subject:   CYCLIC REDUNDANCY CHECKS, bit by bit: a remainder register of any width fed with bits,
             most significant first, over any polynomial.

  * `feedAll_xor` -- the register is linear in its start value and in the bits together;
  * `feedAll_eq_shifts` -- feeding at most a register's width of bits is shifting their packed word,
    so a byte-wise or word-wise implementation computes the same remainder;
  * `feedAll_ne_of_burst` -- two messages of one length that differ, but only inside a window of the
    register's width, have different remainders, if the polynomial has a constant term.
-/
import Mathlib.Data.List.Basic
import Mathlib.Data.BitVec

namespace MisterMagik.Base.Crc

variable {w : Nat} (poly : BitVec w)

/-! ## 1. The register -/

/-- One step of the register without an input bit. -/
def shift (r : BitVec w) : BitVec w := if r.msb then (r <<< 1) ^^^ poly else r <<< 1

def shifts : Nat → BitVec w → BitVec w
  | 0, r => r
  | n + 1, r => shifts n (shift poly r)

/-- The input bit meets the outgoing one. -/
def feed (r : BitVec w) (b : Bool) : BitVec w :=
  shift poly (r ^^^ if b then BitVec.intMin w else 0#w)

def feedAll (r : BitVec w) (bits : List Bool) : BitVec w := bits.foldl (feed poly) r

@[simp] theorem feedAll_nil (r : BitVec w) : feedAll poly r [] = r := rfl

@[simp] theorem feedAll_cons (r : BitVec w) (b : Bool) (bits : List Bool) :
    feedAll poly r (b :: bits) = feedAll poly (feed poly r b) bits := rfl

theorem feedAll_append (r : BitVec w) (a b : List Bool) :
    feedAll poly r (a ++ b) = feedAll poly (feedAll poly r a) b := List.foldl_append

/-! ## 2. Linearity -/

theorem xor_cancel_right (a b p : BitVec w) : (a ^^^ p) ^^^ (b ^^^ p) = a ^^^ b := by
  rw [BitVec.xor_assoc, BitVec.xor_comm b p, ← BitVec.xor_assoc p p b, BitVec.xor_self,
    BitVec.zero_xor]

theorem shift_xor (a b : BitVec w) : shift poly (a ^^^ b) = shift poly a ^^^ shift poly b := by
  unfold shift
  rw [BitVec.msb_xor, BitVec.shiftLeft_xor_distrib]
  cases a.msb <;> cases b.msb
  · rfl
  · simp [BitVec.xor_assoc]
  · simp only [Bool.xor_false, if_true, Bool.false_eq_true, if_false]
    ac_rfl
  · simpa using (xor_cancel_right _ _ poly).symm

@[simp] theorem shift_zero : shift poly 0#w = 0#w := by
  simp [shift]

@[simp] theorem shifts_zero (n : Nat) : shifts poly n 0#w = 0#w := by
  induction n with
  | zero => rfl
  | succ n ih => rw [shifts, shift_zero, ih]

theorem feed_xor (r s : BitVec w) (a b : Bool) :
    feed poly (r ^^^ s) (a ^^ b) = feed poly r a ^^^ feed poly s b := by
  unfold feed
  rw [← shift_xor]
  congr 1
  cases a <;> cases b
  · simp
  · simp [BitVec.xor_assoc]
  · simp only [Bool.xor_false, if_true, Bool.false_eq_true, if_false, BitVec.xor_zero]
    ac_rfl
  · simpa using (xor_cancel_right _ _ _).symm

/-- **The register is linear.** -/
theorem feedAll_xor (r s : BitVec w) :
    ∀ a b : List Bool, a.length = b.length →
      feedAll poly (r ^^^ s) (List.zipWith (· ^^ ·) a b) = feedAll poly r a ^^^ feedAll poly s b
  | [], [], _ => rfl
  | x :: a, y :: b, h => by
      rw [List.zipWith_cons_cons, feedAll_cons, feed_xor]
      exact feedAll_xor _ _ a b (by simpa using h)

/-! ## 3. Whole words -/

/-- The bits of a word, most significant first. -/
def msbBits {n : Nat} (v : BitVec n) : List Bool := List.ofFn fun i : Fin n => v.getMsbD i

@[simp] theorem length_msbBits {n : Nat} (v : BitVec n) : (msbBits v).length = n := by
  simp [msbBits]

theorem getElem?_msbBits {n : Nat} (v : BitVec n) (i : Nat) :
    (msbBits v)[i]? = if i < n then some (v.getMsbD i) else none := by
  unfold msbBits
  split
  · rename_i h
    rw [List.getElem?_eq_getElem (by simpa using h), List.getElem_ofFn]
  · rename_i h
    exact List.getElem?_eq_none (by simpa using h)

theorem getD_msbBits {n : Nat} (v : BitVec n) (i : Nat) :
    (msbBits v).getD i false = v.getMsbD i := by
  rw [List.getD_eq_getElem?_getD, getElem?_msbBits]
  split
  · rfl
  · rename_i h
    exact (BitVec.getMsbD_of_ge v i (Nat.le_of_not_lt h)).symm

/-- Bits packed at the top of a word. -/
def pack (w : Nat) : List Bool → BitVec w
  | [] => 0#w
  | b :: bits => (if b then BitVec.intMin w else 0#w) ^^^ (pack w bits >>> 1)

theorem getMsbD_pack (bits : List Bool) {i : Nat} (hi : i < w) :
    (pack w bits).getMsbD i = bits.getD i false := by
  induction bits generalizing i with
  | nil => simp [pack]
  | cons b bits ih =>
      rw [pack, BitVec.getMsbD_xor, BitVec.getMsbD_ushiftRight]
      cases i with
      | zero =>
          have h0 : (BitVec.intMin w).getMsbD 0 = true := by
            simp [BitVec.getMsbD_intMin, hi]
          cases b <;> simp [h0]
      | succ i =>
          have h1 : (BitVec.intMin w).getMsbD (i + 1) = false := by
            simp [BitVec.getMsbD_intMin]
          have h2 := ih (i := i) (by omega)
          cases b <;> simp_all

theorem pack_msbBits (v : BitVec w) : pack w (msbBits v) = v := by
  apply BitVec.eq_of_getMsbD_eq
  intro i hi
  rw [getMsbD_pack _ hi, getD_msbBits]

/-- Nothing is packed below the last bit, so a shift of the tail loses nothing. -/
theorem shift_pack_ushiftRight {bits : List Bool} (h : bits.length < w) :
    shift poly (pack w bits >>> 1) = pack w bits := by
  have hmsb : (pack w bits >>> 1).msb = false := by
    rw [BitVec.msb_eq_getMsbD_zero, BitVec.getMsbD_ushiftRight]
    simp
  rw [shift, if_neg (by simp [hmsb])]
  apply BitVec.eq_of_getMsbD_eq
  intro i hi
  rw [BitVec.getMsbD_shiftLeft, BitVec.getMsbD_ushiftRight]
  by_cases hlast : i + 1 < w
  · simp [hlast]
  · -- the last place is free
    have : bits.getD i false = false := by
      rw [List.getD_eq_getElem?_getD, List.getElem?_eq_none (by omega)]
      rfl
    rw [getMsbD_pack _ hi, this]
    simp [hlast]

/-- **Feeding bits is shifting their packed word.** -/
theorem feedAll_eq_shifts (bits : List Bool) (h : bits.length ≤ w) (r : BitVec w) :
    feedAll poly r bits = shifts poly bits.length (r ^^^ pack w bits) := by
  induction bits generalizing r with
  | nil => simp [pack, shifts]
  | cons b bits ih =>
      have hlt : bits.length < w := h
      rw [feedAll_cons, ih (Nat.le_of_lt hlt), List.length_cons, shifts, pack, ← BitVec.xor_assoc,
        shift_xor, shift_pack_ushiftRight poly hlt]
      rfl

/-! ## 4. Error bursts -/

section Burst

variable {poly}

/-- A polynomial with a constant term makes the shift reversible. -/
theorem shift_eq_zero (hp : poly.getLsbD 0 = true) {r : BitVec w} (h : shift poly r = 0#w) :
    r = 0#w := by
  have hw : 0 < w := BitVec.lt_of_getLsbD hp
  unfold shift at h
  split at h
  · have h0 := congrArg (fun v => v.getLsbD 0) h
    simp [hp] at h0
  · rename_i hmsb
    apply BitVec.eq_of_getMsbD_eq
    intro i hi
    cases i with
    | zero => simpa [BitVec.msb_eq_getMsbD_zero] using hmsb
    | succ i =>
        have hi' := congrArg (fun v => v.getMsbD i) h
        simpa [BitVec.getMsbD_shiftLeft, hi, Nat.add_comm, Nat.lt_of_succ_lt hi] using hi'

theorem shifts_eq_zero (hp : poly.getLsbD 0 = true) {n : Nat} {r : BitVec w}
    (h : shifts poly n r = 0#w) : r = 0#w := by
  induction n generalizing r with
  | zero => exact h
  | succ n ih => exact shift_eq_zero hp (ih h)

theorem feedAll_replicate_false (n : Nat) (r : BitVec w) :
    feedAll poly r (List.replicate n false) = shifts poly n r := by
  induction n generalizing r with
  | zero => rfl
  | succ n ih => simp [List.replicate_succ, ih, feed, shifts]

/-- A pattern of at most `w` bits that is not all zero, followed by zeros, is never forgotten. -/
theorem feedAll_burst_ne_zero (hp : poly.getLsbD 0 = true) {pre window post : List Bool}
    (hpre : ∀ b ∈ pre, b = false) (hpost : ∀ b ∈ post, b = false) (hlen : window.length ≤ w)
    (hne : true ∈ window) : feedAll poly 0#w (pre ++ window ++ post) ≠ 0#w := by
  rw [List.eq_replicate_of_mem hpre, List.eq_replicate_of_mem hpost, feedAll_append, feedAll_append,
    feedAll_replicate_false, feedAll_replicate_false, shifts_zero]
  intro h
  have h := shifts_eq_zero hp h
  rw [feedAll_eq_shifts poly window hlen, BitVec.zero_xor] at h
  have h := shifts_eq_zero hp h
  obtain ⟨i, hi, hb⟩ := List.mem_iff_getElem.mp hne
  have hm := getMsbD_pack window (w := w) (Nat.lt_of_lt_of_le hi hlen)
  rw [h, List.getD_eq_getElem?_getD, List.getElem?_eq_getElem hi, hb] at hm
  simp at hm

/-- **A burst no longer than the register is always detected.** -/
theorem feedAll_ne_of_burst (hp : poly.getLsbD 0 = true) (r : BitVec w) {a b : List Bool}
    (hlen : a.length = b.length) (hne : a ≠ b) {s : Nat}
    (hs : ∀ i, a[i]? ≠ b[i]? → s ≤ i ∧ i < s + w) : feedAll poly r a ≠ feedAll poly r b := by
  intro h
  have hx := feedAll_xor poly r r a b hlen
  rw [h, BitVec.xor_self, BitVec.xor_self] at hx
  generalize hd : List.zipWith (· ^^ ·) a b = d at hx
  have hdlen : d.length = a.length := by simp [← hd, hlen]
  -- a set bit of the difference is a place where the messages differ
  have hbit : ∀ i (hi : i < d.length), d[i] = true → a[i]? ≠ b[i]? := by
    intro i hi hdi
    have ha : i < a.length := hdlen ▸ hi
    have hb : i < b.length := hlen ▸ ha
    rw [List.getElem?_eq_getElem ha, List.getElem?_eq_getElem hb]
    subst hd
    simpa using hdi
  have hfalse : ∀ i (hi : i < d.length), (i < s ∨ s + w ≤ i) → d[i] = false := by
    intro i hi hout
    cases hdi : d[i] with
    | false => rfl
    | true => have := hs i (hbit i hi hdi); omega
  have hsplit : d = d.take s ++ (d.drop s).take w ++ (d.drop s).drop w := by
    rw [List.append_assoc, List.take_append_drop, List.take_append_drop]
  have hpre : ∀ x ∈ d.take s, x = false := by
    intro x hxm
    obtain ⟨i, hi, rfl⟩ := List.mem_iff_getElem.mp hxm
    rw [List.getElem_take]
    have : i < s := by simp at hi; omega
    exact hfalse i _ (.inl this)
  have hpost : ∀ x ∈ (d.drop s).drop w, x = false := by
    intro x hxm
    obtain ⟨i, hi, rfl⟩ := List.mem_iff_getElem.mp hxm
    rw [List.getElem_drop, List.getElem_drop]
    exact hfalse _ _ (.inr (by omega))
  have htrue : true ∈ (d.drop s).take w := by
    -- the messages differ somewhere
    by_contra hno
    apply hne
    apply List.ext_getElem hlen
    intro i ha hb
    have hi : i < d.length := hdlen ▸ ha
    have hdi : d[i] = false := by
      cases hdi : d[i] with
      | false => rfl
      | true =>
          have hw := hs i (hbit i hi hdi)
          refine absurd (List.mem_iff_getElem.mpr ⟨i - s, ?_, ?_⟩) hno
          · simp; omega
          · rw [List.getElem_take, List.getElem_drop]
            simpa [Nat.add_sub_cancel' hw.1] using hdi
    subst hd
    simpa using hdi
  rw [hsplit] at hx
  exact feedAll_burst_ne_zero hp hpre hpost (by simp) htrue hx

end Burst

end MisterMagik.Base.Crc
