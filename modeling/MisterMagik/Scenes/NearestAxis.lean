/-
  File:      MisterMagik/Scenes/NearestAxis.lean
  Subject:   Nearest-neighbour coordinates without division in the loop (`nearest_axis.rs`).

  A scaled row takes pixel `floor(x * source / destination)` for each `x` of a clipped range. The
  iterator divides once, then adds the quotient of the two extents and carries their remainder.

  * `div_succ`, `mod_succ_carry`, `mod_succ_keep` -- one step of a quotient and a remainder, as general facts;
  * `At` -- the fields before the value with number `k`, kept by `next` (`At.next`);
  * **`nearest_axis_exact`** -- every call of `next` after `new`: the values are the exact
    quotients, there are `count` of them, and no addition or subtraction on the way leaves the
    machine word.
-/
import Mathlib.Algebra.Ring.Nat
import Mathlib.Data.List.Range

namespace MisterMagik.Scenes

/-! ## 1. Machine words -/

/-- `a + b` on a `usize` of `w` bits, `none` where it overflows. -/
def checkedAdd {w : Nat} (a b : BitVec w) : Option (BitVec w) :=
  if a.toNat + b.toNat < 2 ^ w then some (a + b) else none

/-- `a - b` on a `usize` of `w` bits, `none` where it underflows. -/
def checkedSub {w : Nat} (a b : BitVec w) : Option (BitVec w) :=
  if b.toNat ≤ a.toNat then some (a - b) else none

theorem checkedAdd_some {w : Nat} {a b : BitVec w} (h : a.toNat + b.toNat < 2 ^ w) :
    ∃ c, checkedAdd a b = some c ∧ c.toNat = a.toNat + b.toNat :=
  ⟨_, if_pos h, by rw [BitVec.toNat_add, Nat.mod_eq_of_lt h]⟩

theorem checkedAdd_eq_some {w : Nat} {a b c : BitVec w} (h : checkedAdd a b = some c) :
    c.toNat = a.toNat + b.toNat := by
  unfold checkedAdd at h
  split at h
  · rename_i hlt
    cases h
    rw [BitVec.toNat_add, Nat.mod_eq_of_lt hlt]
  · cases h

theorem checkedSub_some {w : Nat} {a b : BitVec w} (h : b.toNat ≤ a.toNat) :
    ∃ c, checkedSub a b = some c ∧ c.toNat = a.toNat - b.toNat :=
  ⟨_, if_pos h, BitVec.toNat_sub_of_le h⟩

/-! ## 2. Quotients, one step at a time -/

section Step

variable {n s d : Nat}

/-- The remainders add up, with a carry where they reach the divisor. -/
theorem div_succ (hd : 0 < d) :
    (n + s) / d = n / d + s / d + if d ≤ n % d + s % d then 1 else 0 := by
  rw [Nat.add_div hd]

theorem mod_succ_carry (hd : 0 < d) (h : d ≤ n % d + s % d) :
    (n + s) % d = n % d + s % d - d := by
  have hn := Nat.mod_lt n hd
  have hs := Nat.mod_lt s hd
  rw [Nat.add_mod, Nat.mod_eq_sub_mod h, Nat.mod_eq_of_lt (by omega)]

theorem mod_succ_keep (h : n % d + s % d < d) : (n + s) % d = n % d + s % d := by
  rw [Nat.add_mod, Nat.mod_eq_of_lt h]

end Step

/-! ## 3. The iterator -/

structure NearestAxis (w : Nat) where
  index : BitVec w
  step : BitVec w
  error : BitVec w
  remainder : BitVec w
  denominator : BitVec w
  remaining : BitVec w
  deriving DecidableEq, Repr

namespace NearestAxis

variable {w : Nat}

def new (source destination start count : BitVec w) : Option (NearestAxis w) :=
  if source = 0 ∨ destination = 0 then none
  else
    match checkedAdd start count with
    | none => none
    | some stop =>
        if destination < stop then none
        else
          -- `start as u128 * source as u128`
          let initial := start.setWidth 128 * source.setWidth 128
          some
            { index := (initial / destination.setWidth 128).setWidth w
              error := (initial % destination.setWidth 128).setWidth w
              step := source / destination
              remainder := source % destination
              denominator := destination
              remaining := count }

/-- The fields of the next value; `none` where an addition or a subtraction overflows. -/
def advance (self : NearestAxis w) : Option (NearestAxis w) := do
  let index ← checkedAdd self.index self.step
  let untilCarry ← checkedSub self.denominator self.remainder
  if untilCarry ≤ self.error then
    let error ← checkedSub self.error untilCarry
    let index ← checkedAdd index 1
    pure { self with index, error }
  else
    let error ← checkedAdd self.error self.remainder
    pure { self with index, error }

/-- `Iterator::next`; the outer `none` is an overflow. -/
def next (self : NearestAxis w) : Option (Option (BitVec w) × NearestAxis w) :=
  if self.remaining = 0 then some (none, self)
  else do
    let remaining ← checkedSub self.remaining 1
    let self' := { self with remaining }
    if remaining ≠ 0 then
      let self' ← self'.advance
      pure (some self.index, self')
    else pure (some self.index, self')

def sizeHint (self : NearestAxis w) : BitVec w × Option (BitVec w) :=
  (self.remaining, some self.remaining)

/-- What `n` calls of `next` return, and the iterator after them. -/
def calls (self : NearestAxis w) : Nat → Option (List (Option (BitVec w)) × NearestAxis w)
  | 0 => some ([], self)
  | n + 1 => do
      let (results, self) ← self.calls n
      let (result, self) ← self.next
      pure (results ++ [result], self)

/-! ## 4. Where an iterator stands -/

/-- The axis of `floor(x * source / destination)` for `x` in `start..start + count`, before its
value with number `k`. -/
structure At (source destination start count k : Nat) (axis : NearestAxis w) : Prop where
  le : k ≤ count
  within : start + count ≤ destination
  step : axis.step.toNat = source / destination
  remainder : axis.remainder.toNat = source % destination
  denominator : axis.denominator.toNat = destination
  remaining : axis.remaining.toNat = count - k
  index : k < count → axis.index.toNat = (start + k) * source / destination
  error : k < count → axis.error.toNat = (start + k) * source % destination

variable {source destination start count k : Nat} {axis : NearestAxis w}

theorem toNat_one (h : 1 < 2 ^ w) : (1 : BitVec w).toNat = 1 := by
  show (BitVec.ofNat w 1).toNat = 1
  rw [BitVec.toNat_ofNat, Nat.mod_eq_of_lt h]

/-- A quotient of the range is a coordinate of the source. -/
theorem quotient_lt {x : Nat} (hs : 0 < source) (hx : x < destination) :
    x * source / destination < source := by
  rw [Nat.div_lt_iff_lt_mul (by omega), Nat.mul_comm source]
  exact Nat.mul_lt_mul_of_pos_right hx hs

/-- **The step.** From one value to the next nothing overflows. -/
theorem At.advance (h : At source destination start count k axis) (hs : 0 < source)
    (hfits : source < 2 ^ w) (hk : k + 1 < count) {remaining : BitVec w}
    (hremaining : remaining.toNat = count - (k + 1)) :
    ∃ axis', NearestAxis.advance { axis with remaining } = some axis' ∧
      At source destination start count (k + 1) axis' := by
  have hwithin := h.within
  have hd : 0 < destination := by omega
  have hrem := Nat.mod_lt source hd
  have hindex := h.index (by omega)
  have herror := h.error (by omega)
  have hone := toNat_one (w := w) (by omega)
  -- the quotient of the next value bounds every sum that is formed
  have hsucc : (start + (k + 1)) * source = (start + k) * source + source := by
    rw [← Nat.add_assoc, Nat.succ_mul]
  have hlt := quotient_lt (x := start + (k + 1)) hs (by omega : _ < destination)
  have hquot := div_succ (n := (start + k) * source) (s := source) hd
  rw [hsucc] at hlt
  have hdenominator : destination < 2 ^ w := h.denominator ▸ axis.denominator.isLt
  obtain ⟨index, hadd, hindexAt⟩ := checkedAdd_some (a := axis.index) (b := axis.step)
    (by rw [hindex, h.step]; omega)
  obtain ⟨untilCarry, hsub, huntil⟩ := checkedSub_some (a := axis.denominator)
    (b := axis.remainder) (by rw [h.denominator, h.remainder]; omega)
  rw [hindex, h.step] at hindexAt
  rw [h.denominator, h.remainder] at huntil
  unfold NearestAxis.advance
  simp only [hadd, hsub, Option.bind_eq_bind, Option.bind_some, BitVec.le_def]
  by_cases hcarry : destination ≤ (start + k) * source % destination + source % destination
  · rw [if_pos hcarry] at hquot
    obtain ⟨error, hsubError, herrorAt⟩ := checkedSub_some (a := axis.error) (b := untilCarry)
      (by omega)
    obtain ⟨index', haddOne, hindexOne⟩ := checkedAdd_some (a := index) (b := 1) (by omega)
    rw [if_pos (by omega), hsubError]
    refine ⟨{ axis with remaining, index := index', error }, ?_, ?_⟩
    · simp only [Option.bind_some, haddOne, Option.pure_def]
    · exact
        { h with
          le := by omega
          remaining := hremaining
          index := fun _ => by
            show index'.toNat = _
            rw [hsucc]
            omega
          error := fun _ => by
            show error.toNat = _
            rw [hsucc, mod_succ_carry hd hcarry]
            omega }
  · rw [if_neg hcarry] at hquot
    obtain ⟨error, haddError, herrorAt⟩ := checkedAdd_some (a := axis.error)
      (b := axis.remainder) (by rw [herror, h.remainder]; omega)
    rw [herror, h.remainder] at herrorAt
    rw [if_neg (by omega), haddError]
    refine ⟨{ axis with remaining, index, error }, rfl, ?_⟩
    exact
      { h with
        le := by omega
        remaining := hremaining
        index := fun _ => by
          show index.toNat = _
          rw [hsucc]
          omega
        error := fun _ => by
          show error.toNat = _
          rw [hsucc, mod_succ_keep (by omega)]
          omega }

/-- One call before the last value returns it and goes on. -/
theorem At.next (h : At source destination start count k axis) (hs : 0 < source)
    (hfits : source < 2 ^ w) (hk : k < count) :
    ∃ axis', axis.next = some (some axis.index, axis') ∧
      At source destination start count (k + 1) axis' := by
  have hremaining := h.remaining
  have hfitsCount : count - k < 2 ^ w := hremaining ▸ axis.remaining.isLt
  have hone := toNat_one (w := w) (by omega)
  have hne : axis.remaining ≠ 0 := by
    intro e
    rw [e] at hremaining
    have : (0 : BitVec w).toNat = 0 := rfl
    omega
  obtain ⟨remaining, hsub, hrest⟩ := checkedSub_some (a := axis.remaining) (b := 1) (by omega)
  unfold NearestAxis.next
  rw [if_neg hne]
  simp only [hsub, Option.bind_eq_bind, Option.bind_some, Option.pure_def]
  by_cases hlast : k + 1 = count
  · have hzero : remaining = 0 := BitVec.eq_of_toNat_eq (by
      show remaining.toNat = 0
      omega)
    rw [if_neg (not_not.mpr hzero)]
    refine ⟨_, rfl, ?_⟩
    exact
      { h with
        le := by omega
        remaining := by
          show remaining.toNat = _
          omega
        index := fun h => absurd hlast (by omega)
        error := fun h => absurd hlast (by omega) }
  · have hmore : remaining ≠ 0 := by
      rintro rfl
      have : (0 : BitVec w).toNat = 0 := rfl
      omega
    rw [if_pos hmore]
    obtain ⟨axis', hadvance, hat⟩ := h.advance hs hfits (by omega)
      (show remaining.toNat = count - (k + 1) by omega)
    exact ⟨axis', by rw [hadvance]; rfl, hat⟩

/-- After the last value every call returns `None`. -/
theorem At.finished (h : At source destination start count k axis) (hk : k = count) :
    axis.next = some (none, axis) := by
  have hzero : axis.remaining = 0 := BitVec.eq_of_toNat_eq (by
    rw [h.remaining, hk, Nat.sub_self]
    rfl)
  unfold NearestAxis.next
  rw [if_pos hzero]

/-- What the call with number `k` returns. -/
def valueAt (source destination start count k : Nat) : Option Nat :=
  if k < count then some ((start + k) * source / destination) else none

/-- **The run.** From the first value on, every call returns the exact quotient or `None`. -/
theorem At.calls (h : At source destination start count 0 axis) (hs : 0 < source)
    (hfits : source < 2 ^ w) (n : Nat) :
    ∃ results axis', axis.calls n = some (results, axis') ∧
      results.map (·.map BitVec.toNat) =
        (List.range n).map (valueAt source destination start count) ∧
      At source destination start count (min n count) axis' := by
  induction n with
  | zero => exact ⟨[], axis, rfl, rfl, by rwa [Nat.zero_min]⟩
  | succ n ih =>
      obtain ⟨results, axis', hcalls, hresults, hat⟩ := ih
      have hstep : ∃ result axis'', axis'.next = some (result, axis'') ∧
          result.map BitVec.toNat = valueAt source destination start count n ∧
          At source destination start count (min (n + 1) count) axis'' := by
        unfold valueAt
        by_cases hn : n < count
        · rw [Nat.min_eq_left (Nat.le_of_lt hn)] at hat
          obtain ⟨axis'', hnext, hat'⟩ := hat.next hs hfits hn
          rw [Nat.min_eq_left hn, if_pos hn]
          exact ⟨_, axis'', hnext, congrArg some (hat.index hn), hat'⟩
        · rw [Nat.min_eq_right (Nat.not_lt.mp hn)] at hat
          rw [Nat.min_eq_right (by omega), if_neg hn]
          exact ⟨none, axis', hat.finished rfl, rfl, hat⟩
      obtain ⟨result, axis'', hnext, hresult, hat'⟩ := hstep
      refine ⟨results ++ [result], axis'', ?_, ?_, hat'⟩
      · rw [NearestAxis.calls, hcalls]
        simp only [Option.bind_eq_bind, Option.bind_some, hnext, Option.pure_def]
      · rw [List.map_append, hresults, List.range_succ, List.map_append, List.map_singleton,
          List.map_singleton, hresult]

/-! ## 5. A new axis -/

theorem toNat_lt_64 (hw : w ≤ 64) (a : BitVec w) : a.toNat < 2 ^ 64 :=
  Nat.lt_of_lt_of_le a.isLt (Nat.pow_le_pow_right (by decide) hw)

theorem toNat_setWidth_128 (hw : w ≤ 64) (a : BitVec w) : (a.setWidth 128).toNat = a.toNat := by
  have ha := toNat_lt_64 hw a
  rw [BitVec.toNat_setWidth, Nat.mod_eq_of_lt (by omega)]

theorem toNat_initial (hw : w ≤ 64) (a b : BitVec w) :
    (a.setWidth 128 * b.setWidth 128).toNat = a.toNat * b.toNat := by
  have hprod : a.toNat * b.toNat < 2 ^ 128 :=
    Nat.lt_of_lt_of_le (Nat.mul_lt_mul'' (toNat_lt_64 hw a) (toNat_lt_64 hw b)) (by decide)
  rw [BitVec.toNat_mul, toNat_setWidth_128 hw, toNat_setWidth_128 hw, Nat.mod_eq_of_lt hprod]

/-- What `new` accepts, and where it stands. -/
theorem new_at {source destination start count : BitVec w} {axis : NearestAxis w} (hw : w ≤ 64)
    (h : new source destination start count = some axis) :
    0 < source.toNat ∧
      At source.toNat destination.toNat start.toNat count.toNat 0 axis := by
  unfold new at h
  split at h
  · cases h
  · rename_i hne
    rw [not_or] at hne
    have hs : 0 < source.toNat := Nat.pos_of_ne_zero fun e => hne.1 (BitVec.eq_of_toNat_eq e)
    have hd : 0 < destination.toNat := Nat.pos_of_ne_zero fun e => hne.2 (BitVec.eq_of_toNat_eq e)
    cases hadd : checkedAdd start count with
    | none =>
        rw [hadd] at h
        cases h
    | some stop =>
        simp only [hadd] at h
        split at h
        · cases h
        · rename_i hle
          rw [BitVec.lt_def, Nat.not_lt, checkedAdd_eq_some hadd] at hle
          cases h
          refine ⟨hs, ⟨Nat.zero_le _, hle, BitVec.toNat_udiv, BitVec.toNat_umod, rfl,
            (Nat.sub_zero _).symm, fun hk => ?_, fun hk => ?_⟩⟩
          · have hlt := quotient_lt (x := start.toNat) hs (by omega : _ < destination.toNat)
            have hfits : source.toNat < 2 ^ w := source.isLt
            show (BitVec.setWidth w _).toNat = _
            rw [BitVec.toNat_setWidth, BitVec.toNat_udiv, toNat_initial hw, toNat_setWidth_128 hw,
              Nat.mod_eq_of_lt (by omega), Nat.add_zero]
          · have hlt := Nat.mod_lt (start.toNat * source.toNat) hd
            have hfits : destination.toNat < 2 ^ w := destination.isLt
            show (BitVec.setWidth w _).toNat = _
            rw [BitVec.toNat_setWidth, BitVec.toNat_umod, toNat_initial hw, toNat_setWidth_128 hw,
              Nat.mod_eq_of_lt (by omega), Nat.add_zero]

/-- **Sampling without division is exact.** For every word size that `u128` holds twice and all
arguments that `new` accepts, any number of calls of `next` overflows nowhere; the call with number
`k` returns `floor((start + k) * source / destination)`, a coordinate of the source, for the first
`count` calls and `None` from then on, and `size_hint` counts the values that are left. -/
theorem nearest_axis_exact {source destination start count : BitVec w} {axis : NearestAxis w}
    (hw : w ≤ 64) (h : new source destination start count = some axis) (n : Nat) :
    ∃ results axis', axis.calls n = some (results, axis') ∧
      results.map (·.map BitVec.toNat) =
        (List.range n).map (valueAt source.toNat destination.toNat start.toNat count.toNat) ∧
      (∀ value, some value ∈ results → value < source) ∧
      axis'.remaining.toNat = count.toNat - min n count.toNat := by
  obtain ⟨hs, hat⟩ := new_at hw h
  obtain ⟨results, axis', hcalls, hresults, hat'⟩ := hat.calls hs source.isLt n
  refine ⟨results, axis', hcalls, hresults, fun value hvalue => ?_, hat'.remaining⟩
  have hmem : some value.toNat ∈ results.map (·.map BitVec.toNat) :=
    List.mem_map.mpr ⟨some value, hvalue, rfl⟩
  rw [hresults] at hmem
  obtain ⟨k, -, hk⟩ := List.mem_map.mp hmem
  unfold valueAt at hk
  split at hk
  · rename_i hlt
    have hwithin := hat.within
    rw [BitVec.lt_def, ← Option.some.inj hk]
    exact quotient_lt hs (by omega)
  · cases hk

/-- Nine of the largest extents of a 64-bit word, and one call after them. -/
theorem nearest_axis_large : ∃ axis : NearestAxis 64,
    new 0xffffffffffffffff 0xfffffffffffffffc 0xfffffffffffffff3 9 = some axis ∧
      ∃ results axis', axis.calls 10 = some (results, axis') ∧
        results.map (·.map BitVec.toNat) = (List.range 10).map
          (valueAt 0xffffffffffffffff 0xfffffffffffffffc 0xfffffffffffffff3 9) := by
  have hnew : ∃ axis : NearestAxis 64,
      new 0xffffffffffffffff 0xfffffffffffffffc 0xfffffffffffffff3 9 = some axis :=
    Option.isSome_iff_exists.mp (by decide +kernel)
  obtain ⟨axis, hnew⟩ := hnew
  obtain ⟨results, axis', hcalls, hresults, -⟩ := nearest_axis_exact (by decide) hnew 10
  exact ⟨axis, hnew, results, axis', hcalls, hresults⟩

end NearestAxis

end MisterMagik.Scenes
