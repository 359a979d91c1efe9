/-
  File:      MisterMagik/Base/Bytes.lean
  Subject:   Binary formats: slices, little-endian numbers, UTF-8, and reads that may fail.

  Bytes are lists and numbers are `Nat`: a number that was read is below the bound of its width, and
  a sum that the source checks for overflow is bounded by a length. `bytes.get(a..b)` is `slice`;
  `bytes[a..b]` is `index`, which panics where there is nothing.

  * `slice_slice`, `slice_append_left` -- a part of a part, a part of what was appended to;
  * `slice_overwrite`, `slice_overwrite_ne` -- `copy_from_slice`;
  * `readLe_eq` -- a number that was written is read;
  * `utf8?_utf8` -- a text that was written is read.
-/
import Mathlib.Algebra.Ring.Nat
import Mathlib.Data.List.Basic

namespace MisterMagik.Base

/-! ## 1. Slices -/

/-- `get(start..start + length)`. -/
def slice {α : Type} (bytes : List α) (start length : Nat) : Option (List α) :=
  if start + length ≤ bytes.length then some ((bytes.drop start).take length) else none

section Slices

variable {α : Type} {bytes part more : List α} {start length i k : Nat}

theorem slice_eq_some : slice bytes start length = some part ↔
    start + length ≤ bytes.length ∧ (bytes.drop start).take length = part := by
  unfold slice
  by_cases h : start + length ≤ bytes.length
  · simp [h]
  · simp [h]

theorem slice_of_le (h : start + length ≤ bytes.length) :
    slice bytes start length = some ((bytes.drop start).take length) := if_pos h

theorem slice_none (h : bytes.length < start + length) : slice bytes start length = none :=
  if_neg (by omega)

theorem length_of_slice (h : slice bytes start length = some part) : part.length = length := by
  obtain ⟨hle, rfl⟩ := slice_eq_some.1 h
  rw [List.length_take, List.length_drop]
  omega

theorem le_of_slice (h : slice bytes start length = some part) :
    start + length ≤ bytes.length := (slice_eq_some.1 h).1

theorem getElem?_slice (h : slice bytes start length = some part) (hi : i < length) :
    part[i]? = bytes[start + i]? := by
  obtain ⟨-, rfl⟩ := slice_eq_some.1 h
  rw [List.getElem?_take_of_lt hi, List.getElem?_drop]

/-- A part of a part. -/
theorem slice_slice (h : slice bytes start length = some part) (hk : i + k ≤ length) :
    slice bytes (start + i) k = slice part i k := by
  have hlen := length_of_slice h
  obtain ⟨hle, rfl⟩ := slice_eq_some.1 h
  rw [slice_of_le (by omega), slice_of_le (by omega), List.drop_take, List.drop_drop,
    List.take_take]
  congr 2
  omega

theorem slice_append_left (h : slice bytes start length = some part) :
    slice (bytes ++ more) start length = some part := by
  obtain ⟨hle, rfl⟩ := slice_eq_some.1 h
  rw [slice_of_le (by rw [List.length_append]; omega), List.drop_append_of_le_length (by omega),
    List.take_append_of_le_length (by rw [List.length_drop]; omega)]

theorem slice_append_right (bytes part : List α) :
    slice (bytes ++ part) bytes.length part.length = some part := by
  rw [slice_of_le (Nat.le_of_eq List.length_append.symm), List.drop_left, List.take_length]

theorem slice_all (bytes : List α) : slice bytes 0 bytes.length = some bytes := by
  rw [slice_of_le (by omega), List.drop_zero, List.take_length]

/-- `output[start..start + part.len()].copy_from_slice(part)`. -/
def overwrite (output : List α) (start : Nat) (part : List α) : List α :=
  output.take start ++ part ++ output.drop (start + part.length)

theorem length_overwrite (h : start + part.length ≤ bytes.length) :
    (overwrite bytes start part).length = bytes.length := by
  unfold overwrite
  simp only [List.length_append, List.length_take, List.length_drop]
  omega

theorem getElem?_overwrite (h : start + part.length ≤ bytes.length) (i : Nat) :
    (overwrite bytes start part)[i]? =
      if start ≤ i ∧ i < start + part.length then part[i - start]? else bytes[i]? := by
  have hstart : (bytes.take start).length = start := by
    rw [List.length_take]
    omega
  unfold overwrite
  rcases Nat.lt_or_ge i start with hlt | hge
  · rw [if_neg (by omega), List.append_assoc, List.getElem?_append_left (by omega),
      List.getElem?_take_of_lt hlt]
  · rcases Nat.lt_or_ge i (start + part.length) with hlt | hend
    · rw [if_pos ⟨hge, hlt⟩, List.append_assoc, List.getElem?_append_right (by omega), hstart,
        List.getElem?_append_left (by omega)]
    · have hfront : (bytes.take start ++ part).length = start + part.length := by
        rw [List.length_append, hstart]
      rw [if_neg (by omega), List.getElem?_append_right (by omega), hfront, List.getElem?_drop]
      congr 1
      omega

theorem slice_overwrite (h : start + part.length ≤ bytes.length) :
    slice (overwrite bytes start part) start part.length = some part := by
  have hstart : (bytes.take start).length = start := by
    rw [List.length_take]
    omega
  have hpart := slice_append_right (bytes.take start) part
  rw [hstart] at hpart
  exact slice_append_left hpart

/-- What is written elsewhere is left alone. -/
theorem slice_overwrite_ne (h : start + part.length ≤ bytes.length)
    (hne : i + k ≤ start ∨ start + part.length ≤ i) :
    slice (overwrite bytes start part) i k = slice bytes i k := by
  have hlen := length_overwrite h
  by_cases hle : i + k ≤ bytes.length
  · rw [slice_of_le (by omega), slice_of_le hle]
    congr 1
    unfold overwrite
    have hstart : (bytes.take start).length = start := by
      rw [List.length_take]
      omega
    rcases hne with hbefore | hafter
    · rw [List.append_assoc, List.drop_append_of_le_length (by omega), List.drop_take,
        List.take_append_of_le_length (by rw [List.length_take, List.length_drop]; omega),
        List.take_take]
      congr 1
      omega
    · have hfront : (bytes.take start ++ part).length = start + part.length := by
        rw [List.length_append, hstart]
      obtain ⟨d, rfl⟩ := Nat.exists_eq_add_of_le hafter
      have hdrop : List.drop (start + part.length + d)
          (bytes.take start ++ part ++ bytes.drop (start + part.length)) =
            bytes.drop (start + part.length + d) := by
        rw [← hfront, ← List.drop_drop, List.drop_left, List.drop_drop, hfront]
      rw [hdrop]
  · rw [slice_none (by omega), slice_none (by omega)]

/-- Parts copied one after another. -/
def overwriteAll (output : List α) (writes : List (Nat × List α)) : List α :=
  writes.foldl (fun output write => overwrite output write.1 write.2) output

/-- Two parts that do not share a byte. -/
def Apart (a b : Nat × List α) : Prop :=
  a.1 + a.2.length ≤ b.1 ∨ b.1 + b.2.length ≤ a.1

/-- What lies apart from all that is copied is left alone. -/
theorem slice_overwriteAll_ne {writes : List (Nat × List α)}
    (h : ∀ write ∈ writes, write.1 + write.2.length ≤ bytes.length)
    (hapart : ∀ write ∈ writes, Apart (start, part) write) :
    slice (overwriteAll bytes writes) start part.length = slice bytes start part.length := by
  induction writes generalizing bytes with
  | nil => rfl
  | cons write writes ih =>
      have hlength := length_overwrite (h write List.mem_cons_self)
      rw [overwriteAll, List.foldl_cons, ← overwriteAll, ih]
      · exact slice_overwrite_ne (h write List.mem_cons_self) (hapart write List.mem_cons_self)
      · intro other hother
        rw [hlength]
        exact h other (List.mem_cons_of_mem _ hother)
      · exact fun other hother => hapart other (List.mem_cons_of_mem _ hother)

/-- Parts that are apart are all there. -/
theorem slice_overwriteAll {writes : List (Nat × List α)}
    (h : ∀ write ∈ writes, write.1 + write.2.length ≤ bytes.length)
    (hapart : writes.Pairwise Apart) {write : Nat × List α} (hwrite : write ∈ writes) :
    slice (overwriteAll bytes writes) write.1 write.2.length = some write.2 := by
  induction writes generalizing bytes with
  | nil => cases hwrite
  | cons first writes ih =>
      obtain ⟨hfirst, hrest⟩ := List.pairwise_cons.1 hapart
      have hlength := length_overwrite (h first List.mem_cons_self)
      have hfits : ∀ other ∈ writes, other.1 + other.2.length ≤
          (overwrite bytes first.1 first.2).length := by
        intro other hother
        rw [hlength]
        exact h other (List.mem_cons_of_mem _ hother)
      rw [overwriteAll, List.foldl_cons, ← overwriteAll]
      rcases List.mem_cons.1 hwrite with rfl | hwrite
      · rw [slice_overwriteAll_ne hfits hfirst]
        exact slice_overwrite (h write List.mem_cons_self)
      · exact ih hfits hrest hwrite

theorem length_overwriteAll {writes : List (Nat × List α)}
    (h : ∀ write ∈ writes, write.1 + write.2.length ≤ bytes.length) :
    (overwriteAll bytes writes).length = bytes.length := by
  induction writes generalizing bytes with
  | nil => rfl
  | cons write writes ih =>
      have hlength := length_overwrite (h write List.mem_cons_self)
      rw [overwriteAll, List.foldl_cons, ← overwriteAll, ih, hlength]
      intro other hother
      rw [hlength]
      exact h other (List.mem_cons_of_mem _ hother)

/-- Parts that a text holds are copied to where it holds them. -/
theorem getElem?_overwriteAll {text : List α} {writes : List (Nat × List α)}
    (hlength : bytes.length = text.length)
    (h : ∀ write ∈ writes, slice text write.1 write.2.length = some write.2) (i : Nat) :
    (overwriteAll bytes writes)[i]? =
      if ∃ write ∈ writes, write.1 ≤ i ∧ i < write.1 + write.2.length then text[i]?
      else bytes[i]? := by
  induction writes generalizing bytes with
  | nil => rw [if_neg (by rintro ⟨write, hwrite, -⟩; cases hwrite)]; rfl
  | cons write writes ih =>
      have hwrite := h write List.mem_cons_self
      have hfits : write.1 + write.2.length ≤ bytes.length := by
        rw [hlength]
        exact le_of_slice hwrite
      rw [overwriteAll, List.foldl_cons, ← overwriteAll,
        ih ((length_overwrite hfits).trans hlength)
          fun other hother => h other (List.mem_cons_of_mem _ hother),
        getElem?_overwrite hfits]
      by_cases hlater : ∃ other ∈ writes, other.1 ≤ i ∧ i < other.1 + other.2.length
      · obtain ⟨other, hother, hi⟩ := hlater
        rw [if_pos ⟨other, hother, hi⟩, if_pos ⟨other, List.mem_cons_of_mem _ hother, hi⟩]
      rw [if_neg hlater]
      by_cases hi : write.1 ≤ i ∧ i < write.1 + write.2.length
      · rw [if_pos hi, if_pos ⟨write, List.mem_cons_self, hi⟩]
        rw [getElem?_slice hwrite (by omega), Nat.add_sub_cancel' hi.1]
      · rw [if_neg hi, if_neg]
        rintro ⟨other, hother, hi'⟩
        rcases List.mem_cons.1 hother with rfl | hother
        · exact hi hi'
        · exact hlater ⟨other, hother, hi'⟩

/-- What a part holds, the whole holds further on. -/
structure Within (part : List α) (start : Nat) (bytes : List α) : Prop where
  slice : ∀ {i k : Nat} {x : List α}, slice part i k = some x → slice bytes (start + i) k = some x

theorem within_left (front back : List α) : Within front 0 (front ++ back) :=
  ⟨fun h => by rw [Nat.zero_add]; exact slice_append_left h⟩

theorem within_slice (h : slice bytes start length = some part) : Within part start bytes := by
  refine ⟨fun hx => ?_⟩
  have hle := le_of_slice hx
  rw [length_of_slice h] at hle
  rw [slice_slice h hle]
  exact hx

theorem within_right (front back : List α) : Within back front.length (front ++ back) :=
  within_slice (slice_append_right front back)

/-- A part of a sequence of parts. -/
theorem slice_flatten {parts : List (List α)} (j : Nat) (hpart : parts[j]? = some part)
    (hstart : ((parts.take j).map List.length).sum = start) (hlength : part.length = length) :
    slice parts.flatten start length = some part := by
  have hsplit : parts = parts.take j ++ part :: parts.drop (j + 1) := by
    obtain ⟨hj, hget⟩ := List.getElem?_eq_some_iff.1 hpart
    rw [← hget, ← List.drop_eq_getElem_cons hj, List.take_append_drop]
  have hflat : parts.flatten =
      (parts.take j).flatten ++ (part ++ (parts.drop (j + 1)).flatten) := by
    conv_lhs => rw [hsplit]
    rw [List.flatten_append, List.flatten_cons]
  rw [hflat, ← hstart, ← List.length_flatten, ← hlength]
  exact (within_right _ _).slice (slice_append_left (slice_all part))

end Slices

/-! ## 2. Little-endian numbers -/

/-- `to_le_bytes`, of a width. -/
def leBytes : Nat → Nat → List UInt8
  | 0, _ => []
  | width + 1, value => UInt8.ofNat (value % 256) :: leBytes width (value / 256)

/-- `from_le_bytes`. -/
def leValue : List UInt8 → Nat
  | [] => 0
  | byte :: bytes => byte.toNat + 256 * leValue bytes

@[simp] theorem length_leBytes (width value : Nat) : (leBytes width value).length = width := by
  induction width generalizing value with
  | zero => rfl
  | succ width ih => rw [leBytes, List.length_cons, ih]

theorem leValue_leBytes {width value : Nat} (h : value < 256 ^ width) :
    leValue (leBytes width value) = value := by
  induction width generalizing value with
  | zero =>
      have hzero : value = 0 := by simpa using h
      rw [hzero]
      rfl
  | succ width ih =>
      have hdiv : value / 256 < 256 ^ width := by
        rw [Nat.div_lt_iff_lt_mul (by decide), ← Nat.pow_succ]
        exact h
      have hbyte : (UInt8.ofNat (value % 256)).toNat = value % 256 := by
        rw [UInt8.toNat_ofNat']
        omega
      rw [leBytes, leValue, ih hdiv, hbyte]
      omega

theorem leValue_lt (bytes : List UInt8) : leValue bytes < 256 ^ bytes.length := by
  induction bytes with
  | nil => decide
  | cons byte bytes ih =>
      have hbyte := byte.toNat_lt
      rw [leValue, List.length_cons, Nat.pow_succ]
      omega

theorem leBytes_leValue (bytes : List UInt8) : leBytes bytes.length (leValue bytes) = bytes := by
  induction bytes with
  | nil => rfl
  | cons byte bytes ih =>
      have hbyte := byte.toNat_lt
      have hlow : (byte.toNat + 256 * leValue bytes) % 256 = byte.toNat := by omega
      have hhigh : (byte.toNat + 256 * leValue bytes) / 256 = leValue bytes := by omega
      rw [leValue, List.length_cons, leBytes, hlow, hhigh, ih, UInt8.ofNat_toNat]

/-- A number that fits is padded with zeros. -/
theorem leBytes_append {width value : Nat} (more : Nat) (h : value < 256 ^ width) :
    leBytes width value ++ leBytes more 0 = leBytes (width + more) value := by
  induction width generalizing value with
  | zero =>
      have hzero : value = 0 := by simpa using h
      rw [hzero, Nat.zero_add]
      rfl
  | succ width ih =>
      have hdiv : value / 256 < 256 ^ width := by
        rw [Nat.div_lt_iff_lt_mul (by decide), ← Nat.pow_succ]
        exact h
      rw [Nat.succ_add, leBytes, leBytes, List.cons_append, ih hdiv]

/-! ## 3. Reads -/

/-- How a reader fails. -/
inductive Fault where
  | error (message : String)
  | panic
  deriving DecidableEq

abbrev Reads (α : Type) := Except Fault α

def fail {α : Type} (message : String) : Reads α := .error (.error message)

/-- A condition that a reader checks. -/
def check (condition : Bool) (message : String) : Reads Unit :=
  if condition then .ok () else fail message

/-- `bytes[start..start + length]`. -/
def index (bytes : List UInt8) (start length : Nat) : Reads (List UInt8) :=
  match slice bytes start length with
  | some part => .ok part
  | none => .error .panic

/-- A number of some width. -/
def readLe (width : Nat) (truncated : String) (bytes : List UInt8) (offset : Nat) : Reads Nat :=
  match slice bytes offset width with
  | some raw => .ok (leValue raw)
  | none => fail truncated

section Reads

variable {α β : Type} {bytes part : List UInt8} {start length offset width : Nat}
  {truncated message : String}

theorem reads_bind_ok {x : Reads α} {f : α → Reads β} {b : β} :
    (x >>= f) = .ok b ↔ ∃ a, x = .ok a ∧ f a = .ok b := by
  cases x with
  | error error =>
      constructor
      · intro h
        cases h
      · intro h
        obtain ⟨a, h, -⟩ := h
        cases h
  | ok a =>
      constructor
      · intro h
        exact ⟨a, rfl, h⟩
      · intro h
        obtain ⟨a', h, hf⟩ := h
        cases h
        exact hf

theorem check_ok {condition : Bool} : check condition message = .ok () ↔ condition = true := by
  unfold check
  by_cases h : condition = true
  · simp [h]
  · simp [h, fail]

theorem index_ok : index bytes start length = .ok part ↔ slice bytes start length = some part := by
  unfold index
  cases slice bytes start length with
  | none => simp
  | some part' => simp

theorem readLe_ok {value : Nat} : readLe width truncated bytes offset = .ok value ↔
    ∃ raw, slice bytes offset width = some raw ∧ leValue raw = value := by
  unfold readLe
  cases slice bytes offset width with
  | none => simp [fail]
  | some raw => simp

/-- A read within the bytes succeeds. -/
theorem readLe_of_le (h : offset + width ≤ bytes.length) :
    ∃ value, readLe width truncated bytes offset = .ok value :=
  ⟨_, readLe_ok.2 ⟨_, slice_of_le h, rfl⟩⟩

/-- **A number that was written is read.** -/
theorem readLe_eq {value : Nat} (h : slice bytes offset width = some (leBytes width value))
    (hlt : value < 256 ^ width) : readLe width truncated bytes offset = .ok value :=
  readLe_ok.2 ⟨_, h, leValue_leBytes hlt⟩

end Reads

/-- `for x in xs`. -/
def forEach {α : Type} (body : α → Reads Unit) : List α → Reads Unit
  | [] => pure ()
  | x :: xs => do
    body x
    forEach body xs

/-- `for i in 0..count`. -/
def forRange (count : Nat) (body : Nat → Reads Unit) : Reads Unit :=
  forEach body (List.range count)

theorem forEach_ok {α : Type} {xs : List α} {body : α → Reads Unit} :
    forEach body xs = .ok () ↔ ∀ x ∈ xs, body x = .ok () := by
  induction xs with
  | nil => simp [forEach, pure, Except.pure]
  | cons x xs ih =>
      rw [forEach, reads_bind_ok]
      constructor
      · intro h
        obtain ⟨_, hx, hxs⟩ := h
        intro y hy
        rcases List.mem_cons.1 hy with rfl | hy
        · exact hx
        · exact ih.1 hxs y hy
      · intro h
        exact ⟨(), h x List.mem_cons_self, ih.2 fun y hy => h y (List.mem_cons_of_mem _ hy)⟩

theorem forRange_ok {count : Nat} {body : Nat → Reads Unit} :
    forRange count body = .ok () ↔ ∀ i < count, body i = .ok () := by
  unfold forRange
  rw [forEach_ok]
  simp only [List.mem_range]

/-! ## 4. Reading from the front -/

/-- A reader that takes what it reads off the front of the bytes. -/
abbrev Takes (α : Type) := StateT (List UInt8) Reads α

/-- `split_at_checked`. -/
def take (count : Nat) (truncated : String) : Takes (List UInt8) := fun bytes =>
  if count ≤ bytes.length then .ok (bytes.take count, bytes.drop count) else fail truncated

/-- A number of some width, off the front. -/
def takeLe (width : Nat) (truncated : String) : Takes Nat := do
  let raw ← take width truncated
  pure (leValue raw)

/-- `for _ in 0..count`, each round adding to what is kept. -/
def takeFold {σ : Type} (round : σ → Takes σ) : Nat → σ → Takes σ
  | 0, kept => pure kept
  | count + 1, kept => do
    let kept ← round kept
    takeFold round count kept

/-- On bytes that begin with `spelled` the reader gives what `Gives` says, and takes these. -/
structure OnSpelled {α : Type} (x : Takes α) (spelled : List UInt8) (Gives : α → Prop) :
    Prop where
  ok : ∀ rest a rest', x (spelled ++ rest) = .ok (a, rest') ↔ rest' = rest ∧ Gives a

/-- What the reader accepts begins with the spelling of an item. -/
structure Accepts {α ι : Type} (x : Takes α) (spell : ι → List UInt8) (Item : ι → Prop) :
    Prop where
  spelled : ∀ bytes a rest, x bytes = .ok (a, rest) →
    ∃ item, Item item ∧ bytes = spell item ++ rest

/-- On these bytes the reader gives what `Gives` says, and takes them all. -/
structure OnAll {α : Type} (x : Takes α) (bytes : List UInt8) (Gives : α → Prop) : Prop where
  ok : ∀ a rest, x bytes = .ok (a, rest) ↔ rest = [] ∧ Gives a

/-- How many items, and then the items. -/
def spellCounted {ι : Type} (width : Nat) (spell : ι → List UInt8) (items : List ι) : List UInt8 :=
  leBytes width items.length ++ items.flatMap spell

section Takes

variable {α β σ ι : Type} {bytes rest : List UInt8} {truncated message : String}

theorem takes_bind_ok {s s' : σ} {x : StateT σ Reads α} {f : α → StateT σ Reads β} {b : β} :
    (x >>= f) s = .ok (b, s') ↔ ∃ a mid, x s = .ok (a, mid) ∧ f a mid = .ok (b, s') := by
  have h : (x >>= f) s = (x s >>= fun p => f p.1 p.2) := rfl
  rw [h, reads_bind_ok]
  constructor
  · intro h
    obtain ⟨⟨a, mid⟩, hx, hf⟩ := h
    exact ⟨a, mid, hx, hf⟩
  · intro h
    obtain ⟨a, mid, hx, hf⟩ := h
    exact ⟨(a, mid), hx, hf⟩

theorem takes_pure_ok {s s' : σ} {a b : α} :
    (pure a : StateT σ Reads α) s = .ok (b, s') ↔ s' = s ∧ b = a := by
  have h : (pure a : StateT σ Reads α) s = .ok (a, s) := rfl
  rw [h]
  constructor
  · intro h
    cases h
    exact ⟨rfl, rfl⟩
  · intro h
    rw [h.1, h.2]

theorem takes_lift_ok {s s' : σ} {x : Reads α} {a : α} :
    (liftM x : StateT σ Reads α) s = .ok (a, s') ↔ s' = s ∧ x = .ok a := by
  have h : (liftM x : StateT σ Reads α) s = (x >>= fun a => .ok (a, s)) := rfl
  rw [h, reads_bind_ok]
  constructor
  · intro h
    obtain ⟨a', hx, h⟩ := h
    cases h
    exact ⟨rfl, hx⟩
  · intro h
    exact ⟨a, h.2, by rw [h.1]⟩

theorem take_ok {count : Nat} {part : List UInt8} :
    take count truncated bytes = .ok (part, rest) ↔ part.length = count ∧ bytes = part ++ rest := by
  unfold take
  by_cases h : count ≤ bytes.length
  · rw [if_pos h]
    constructor
    · intro h'
      cases h'
      exact ⟨List.length_take_of_le h, (List.take_append_drop count bytes).symm⟩
    · intro h'
      obtain ⟨rfl, rfl⟩ := h'
      rw [List.take_left, List.drop_left]
  · rw [if_neg h]
    constructor
    · intro h'
      cases h'
    · intro h'
      obtain ⟨rfl, rfl⟩ := h'
      rw [List.length_append] at h
      omega

theorem takeLe_ok {width value : Nat} : takeLe width truncated bytes = .ok (value, rest) ↔
    value < 256 ^ width ∧ bytes = leBytes width value ++ rest := by
  unfold takeLe
  rw [takes_bind_ok]
  constructor
  · intro h
    obtain ⟨raw, mid, hraw, h⟩ := h
    obtain ⟨rfl, rfl⟩ := takes_pure_ok.1 h
    obtain ⟨rfl, rfl⟩ := take_ok.1 hraw
    exact ⟨leValue_lt raw, by rw [leBytes_leValue]⟩
  · intro h
    obtain ⟨hlt, rfl⟩ := h
    refine ⟨leBytes width value, rest, take_ok.2 ⟨length_leBytes width value, rfl⟩, ?_⟩
    exact takes_pure_ok.2 ⟨rfl, (leValue_leBytes hlt).symm⟩

/-! ### What is spelled -/

theorem onSpelled_pure (a : α) : OnSpelled (pure a) [] (· = a) :=
  ⟨fun rest b rest' => by rw [takes_pure_ok, List.nil_append]⟩

theorem onSpelled_lift (x : Reads α) : OnSpelled (liftM x) [] (fun a => x = .ok a) :=
  ⟨fun rest b rest' => by rw [takes_lift_ok, List.nil_append]⟩

theorem onSpelled_take (truncated : String) (part : List UInt8) :
    OnSpelled (take part.length truncated) part (· = part) where
  ok rest a rest' := by
    rw [take_ok]
    constructor
    · intro h
      obtain ⟨rfl, rfl⟩ := List.append_inj h.2 h.1.symm
      exact ⟨rfl, rfl⟩
    · intro h
      obtain ⟨rfl, rfl⟩ := h
      exact ⟨rfl, rfl⟩

theorem onSpelled_takeLe {width value : Nat} (h : value < 256 ^ width) :
    OnSpelled (takeLe width truncated) (leBytes width value) (· = value) where
  ok rest a rest' := by
    rw [takeLe_ok]
    constructor
    · intro h'
      obtain ⟨hspelled, rfl⟩ := List.append_inj h'.2 (by simp)
      refine ⟨rfl, ?_⟩
      rw [← leValue_leBytes h, hspelled, leValue_leBytes h'.1]
    · intro h'
      obtain ⟨rfl, rfl⟩ := h'
      exact ⟨h, rfl⟩

/-- One part after another. -/
theorem onSpelled_bind {x : Takes α} {f : α → Takes β} {first second : List UInt8}
    {Gives : α → Prop} {Then : α → β → Prop} (hx : OnSpelled x first Gives)
    (hf : ∀ a, Gives a → OnSpelled (f a) second (Then a)) :
    OnSpelled (x >>= f) (first ++ second) (fun b => ∃ a, Gives a ∧ Then a b) where
  ok rest b rest' := by
    rw [takes_bind_ok, List.append_assoc]
    constructor
    · intro h
      obtain ⟨a, mid, hxa, hfb⟩ := h
      obtain ⟨rfl, ha⟩ := (hx.ok _ _ _).1 hxa
      obtain ⟨hrest, hb⟩ := ((hf a ha).ok _ _ _).1 hfb
      exact ⟨hrest, a, ha, hb⟩
    · intro h
      obtain ⟨hrest, a, ha, hb⟩ := h
      exact ⟨a, second ++ rest, (hx.ok _ _ _).2 ⟨rfl, ha⟩, ((hf a ha).ok _ _ _).2 ⟨hrest, hb⟩⟩

/-- The same reader, with what it gives said another way. -/
theorem OnSpelled.congr {x : Takes α} {spelled : List UInt8} {Gives Gives' : α → Prop}
    (h : OnSpelled x spelled Gives) (hiff : ∀ a, Gives a ↔ Gives' a) :
    OnSpelled x spelled Gives' :=
  ⟨fun rest a rest' => by rw [h.ok, hiff]⟩

/-- The first part gives one value, if anything. -/
theorem onSpelled_given {x : Takes α} {f : α → Takes β} {first second : List UInt8} {a : α}
    {If : Prop} {Then : β → Prop} (hx : OnSpelled x first fun a' => If ∧ a' = a)
    (hf : OnSpelled (f a) second Then) :
    OnSpelled (x >>= f) (first ++ second) (fun b => If ∧ Then b) := by
  have hcont : ∀ a', If ∧ a' = a → OnSpelled (f a') second Then := by
    intro a' h
    rw [h.2]
    exact hf
  refine (onSpelled_bind hx hcont).congr fun b => ?_
  exact ⟨fun ⟨_, h, hb⟩ => ⟨h.1, hb⟩, fun h => ⟨a, ⟨h.1, rfl⟩, h.2⟩⟩

theorem onSpelled_then {x : Takes α} {f : α → Takes β} {first second : List UInt8} {a : α}
    {Then : β → Prop} (hx : OnSpelled x first (· = a)) (hf : OnSpelled (f a) second Then) :
    OnSpelled (x >>= f) (first ++ second) Then := by
  have hgiven : OnSpelled x first fun a' => True ∧ a' = a := hx.congr fun a' => by simp
  exact (onSpelled_given hgiven hf).congr fun b => by simp

theorem onSpelled_after {x : Takes Unit} {f : Unit → Takes β} {first second : List UInt8}
    {If : Prop} {Then : β → Prop} (hx : OnSpelled x first fun _ => If)
    (hf : OnSpelled (f ()) second Then) :
    OnSpelled (x >>= f) (first ++ second) (fun b => If ∧ Then b) :=
  onSpelled_given (hx.congr fun _ => by simp) hf

theorem onSpelled_check (message : String) (condition : Bool) :
    OnSpelled (liftM (check condition message)) [] fun _ => condition = true :=
  (onSpelled_lift _).congr fun _ => check_ok

theorem onSpelled_checked {condition : Bool} {f : Unit → Takes β} {spelled : List UInt8}
    {Then : β → Prop} (hf : OnSpelled (f ()) spelled Then) :
    OnSpelled (liftM (check condition message) >>= f) spelled
      (fun b => condition = true ∧ Then b) := by
  have h := onSpelled_after (onSpelled_check message condition) hf
  rw [List.nil_append] at h
  exact h

theorem onAll_bind {x : Takes α} {f : α → Takes β} {first second : List UInt8}
    {Gives : α → Prop} {Then : α → β → Prop} (hx : OnSpelled x first Gives)
    (hf : ∀ a, Gives a → OnAll (f a) second (Then a)) :
    OnAll (x >>= f) (first ++ second) (fun b => ∃ a, Gives a ∧ Then a b) where
  ok b rest := by
    rw [takes_bind_ok]
    constructor
    · intro h
      obtain ⟨a, mid, hxa, hfb⟩ := h
      obtain ⟨rfl, ha⟩ := (hx.ok _ _ _).1 hxa
      obtain ⟨hrest, hb⟩ := ((hf a ha).ok _ _).1 hfb
      exact ⟨hrest, a, ha, hb⟩
    · intro h
      obtain ⟨hrest, a, ha, hb⟩ := h
      exact ⟨a, second, (hx.ok _ _ _).2 ⟨rfl, ha⟩, ((hf a ha).ok _ _).2 ⟨hrest, hb⟩⟩

theorem OnAll.congr {x : Takes α} {Gives Gives' : α → Prop} (h : OnAll x bytes Gives)
    (hiff : ∀ a, Gives a ↔ Gives' a) : OnAll x bytes Gives' :=
  ⟨fun a rest => by rw [h.ok, hiff]⟩

theorem onAll_given {x : Takes α} {f : α → Takes β} {first second : List UInt8} {a : α}
    {If : Prop} {Then : β → Prop} (hx : OnSpelled x first fun a' => If ∧ a' = a)
    (hf : OnAll (f a) second Then) : OnAll (x >>= f) (first ++ second) (fun b => If ∧ Then b) := by
  have hcont : ∀ a', If ∧ a' = a → OnAll (f a') second Then := by
    intro a' h
    rw [h.2]
    exact hf
  refine (onAll_bind hx hcont).congr fun b => ?_
  exact ⟨fun ⟨_, h, hb⟩ => ⟨h.1, hb⟩, fun h => ⟨a, ⟨h.1, rfl⟩, h.2⟩⟩

theorem onAll_after {x : Takes Unit} {f : Unit → Takes β} {first second : List UInt8}
    {If : Prop} {Then : β → Prop} (hx : OnSpelled x first fun _ => If)
    (hf : OnAll (f ()) second Then) :
    OnAll (x >>= f) (first ++ second) (fun b => If ∧ Then b) :=
  onAll_given (hx.congr fun _ => by simp) hf

/-- A run of rounds over one item after another. -/
def Rounds (Round : σ → ι → σ → Prop) : σ → List ι → σ → Prop
  | kept, [], kept' => kept' = kept
  | kept, item :: items, kept' => ∃ mid, Round kept item mid ∧ Rounds Round mid items kept'

/-- A loop over spelled items. -/
theorem onSpelled_fold {round : σ → Takes σ} {spell : ι → List UInt8}
    {Round : σ → ι → σ → Prop} {items : List ι} (kept : σ)
    (h : ∀ item ∈ items, ∀ kept, OnSpelled (round kept) (spell item) (Round kept item)) :
    OnSpelled (takeFold round items.length kept) (items.flatMap spell)
      (Rounds Round kept items) := by
  induction items generalizing kept with
  | nil => exact onSpelled_pure kept
  | cons item items ih =>
      rw [List.flatMap_cons]
      exact onSpelled_bind (h item List.mem_cons_self kept)
        (fun mid _ => ih mid fun item hitem => h item (List.mem_cons_of_mem _ hitem))

theorem onSpelled_counted {width : Nat} {round : σ → Takes σ} {spell : ι → List UInt8}
    {Round : σ → ι → σ → Prop} {items : List ι} (kept : σ) (hcount : items.length < 256 ^ width)
    (h : ∀ item ∈ items, ∀ kept, OnSpelled (round kept) (spell item) (Round kept item)) :
    OnSpelled (takeLe width truncated >>= fun count => takeFold round count kept)
      (spellCounted width spell items) (Rounds Round kept items) :=
  onSpelled_then (onSpelled_takeLe hcount) (onSpelled_fold kept h)

/-- Rounds that keep nothing are tests. -/
theorem rounds_unit {Fine : ι → Prop} {Round : Unit → ι → Unit → Prop}
    (h : ∀ item, Round () item () ↔ Fine item) (items : List ι) :
    Rounds Round () items () ↔ ∀ item ∈ items, Fine item := by
  induction items with
  | nil => simp [Rounds]
  | cons item items ih =>
      rw [Rounds, List.forall_mem_cons, ← ih, ← h item]
      exact ⟨fun ⟨_, hitem, hitems⟩ => ⟨hitem, hitems⟩, fun ⟨hitem, hitems⟩ => ⟨(), hitem, hitems⟩⟩

/-- In a rising list, what is above the last is above all. -/
theorem all_last_iff (lt : α → α → Bool) (htrans : ∀ a b c, lt a b → lt b c → lt a c)
    {kept : List α} (hkept : kept.Pairwise (lt · ·)) (x : α) :
    (kept.getLast?.all fun y => lt y x) = true ↔ ∀ y ∈ kept, lt y x = true := by
  rcases List.eq_nil_or_concat kept with rfl | ⟨front, last, rfl⟩
  · simp
  · rw [List.concat_eq_append] at hkept ⊢
    rw [List.getLast?_concat, Option.all_some]
    constructor
    · intro hlast y hy
      rcases List.mem_append.1 hy with hfront | hy
      · exact htrans y last x ((List.pairwise_append.1 hkept).2.2 y hfront last (by simp)) hlast
      · rw [List.mem_singleton.1 hy]
        exact hlast
    · intro hall
      exact hall last (by simp)

/-- Rounds that push what is above the last keep a rising list. -/
theorem rounds_pushed (lt : α → α → Bool) (htrans : ∀ a b c, lt a b → lt b c → lt a c)
    (Fine : ι → Prop) (f : ι → α) {Round : List α → ι → List α → Prop}
    (h : ∀ kept item kept', Round kept item kept' ↔
      Fine item ∧ (kept.getLast?.all fun y => lt y (f item)) = true ∧ kept' = kept ++ [f item])
    (items : List ι) {kept : List α} (hkept : kept.Pairwise (lt · ·)) (kept' : List α) :
    Rounds Round kept items kept' ↔ (∀ item ∈ items, Fine item) ∧
      (kept ++ items.map f).Pairwise (lt · ·) ∧ kept' = kept ++ items.map f := by
  induction items generalizing kept with
  | nil => simp [Rounds, hkept]
  | cons item items ih =>
      have hmap : kept ++ (item :: items).map f = (kept ++ [f item]) ++ items.map f := by simp
      have hpush : (kept ++ [f item]).Pairwise (lt · ·) ↔ ∀ y ∈ kept, lt y (f item) = true := by
        rw [List.pairwise_append]
        simp [hkept]
      rw [Rounds, List.forall_mem_cons, hmap]
      constructor
      · intro hrounds
        obtain ⟨mid, hround, hrounds⟩ := hrounds
        obtain ⟨hfine, hlast, rfl⟩ := (h _ _ _).1 hround
        have hmid := hpush.2 ((all_last_iff lt htrans hkept _).1 hlast)
        obtain ⟨hitems, hpairs, rfl⟩ := (ih hmid).1 hrounds
        exact ⟨⟨hfine, hitems⟩, hpairs, rfl⟩
      · intro hall
        obtain ⟨⟨hfine, hitems⟩, hpairs, hkept'⟩ := hall
        have hmid := (List.pairwise_append.1 hpairs).1
        refine ⟨kept ++ [f item], (h _ _ _).2 ⟨hfine, ?_, rfl⟩,
          (ih hmid).2 ⟨hitems, hpairs, hkept'⟩⟩
        exact (all_last_iff lt htrans hkept _).2 (hpush.1 hmid)

/-! ### What is accepted -/

/-- What a loop accepts is a list of what its rounds accept. -/
theorem accepts_fold {round : σ → Takes σ} {spell : ι → List UInt8} {Item : ι → Prop}
    (h : ∀ kept, Accepts (round kept) spell Item) (count : Nat) (kept : σ) :
    Accepts (takeFold round count kept) (fun items : List ι => items.flatMap spell)
      (fun items => items.length = count ∧ ∀ item ∈ items, Item item) := by
  induction count generalizing kept with
  | zero =>
      refine ⟨fun bytes a rest h => ?_⟩
      obtain ⟨rfl, -⟩ := takes_pure_ok.1 h
      exact ⟨[], ⟨rfl, fun _ hitem => absurd hitem (by simp)⟩, rfl⟩
  | succ count ih =>
      refine ⟨fun bytes a rest h' => ?_⟩
      obtain ⟨mid, bytes', hround, hloop⟩ := takes_bind_ok.1 h'
      obtain ⟨item, hitem, rfl⟩ := (h kept).spelled _ _ _ hround
      obtain ⟨items, ⟨hlen, hitems⟩, rfl⟩ := (ih mid).spelled _ _ _ hloop
      refine ⟨item :: items, ⟨by rw [List.length_cons, hlen], ?_⟩, ?_⟩
      · intro x hx
        rcases List.mem_cons.1 hx with rfl | hx
        · exact hitem
        · exact hitems x hx
      · rw [List.flatMap_cons, List.append_assoc]

theorem accepts_counted {width : Nat} {round : σ → Takes σ} {spell : ι → List UInt8}
    {Item : ι → Prop} (h : ∀ kept, Accepts (round kept) spell Item) (kept : σ) :
    Accepts (takeLe width truncated >>= fun count => takeFold round count kept)
      (spellCounted width spell)
      (fun items => items.length < 256 ^ width ∧ ∀ item ∈ items, Item item) := by
  refine ⟨fun bytes a rest h' => ?_⟩
  obtain ⟨count, mid, hcount, hloop⟩ := takes_bind_ok.1 h'
  obtain ⟨hlt, rfl⟩ := takeLe_ok.1 hcount
  obtain ⟨items, ⟨rfl, hitems⟩, rfl⟩ := (accepts_fold h count kept).spelled _ _ _ hloop
  exact ⟨items, ⟨hlt, hitems⟩, by rw [spellCounted, List.append_assoc]⟩

end Takes

/-! ### Nothing panics -/

/-- The reader fails with an error, if at all. -/
structure Careful {α : Type} (x : Takes α) : Prop where
  fails : ∀ bytes, x bytes ≠ .error .panic

section Careful

variable {α β σ : Type}

theorem reads_bind_panic {x : Reads α} {f : α → Reads β} (h : (x >>= f) = .error .panic) :
    x = .error .panic ∨ ∃ a, x = .ok a ∧ f a = .error .panic := by
  cases x with
  | error fault =>
      cases h
      exact Or.inl rfl
  | ok a => exact Or.inr ⟨a, rfl, h⟩

theorem careful_bind {x : Takes α} {f : α → Takes β} (hx : Careful x)
    (hf : ∀ a, Careful (f a)) : Careful (x >>= f) := by
  refine ⟨fun bytes h => ?_⟩
  have hbind : (x >>= f) bytes = (x bytes >>= fun p => f p.1 p.2) := rfl
  rw [hbind] at h
  rcases reads_bind_panic h with h | ⟨p, -, h⟩
  · exact hx.fails bytes h
  · exact (hf p.1).fails p.2 h

theorem careful_pure (a : α) : Careful (pure a) := ⟨fun _ h => by cases h⟩

theorem careful_lift {x : Reads α} (hx : x ≠ .error .panic) : Careful (liftM x) := by
  refine ⟨fun bytes h => ?_⟩
  have hlift : (liftM x : Takes α) bytes = (x >>= fun a => .ok (a, bytes)) := rfl
  rw [hlift] at h
  rcases reads_bind_panic h with h | ⟨a, -, h⟩
  · exact hx h
  · cases h

theorem check_ne_panic (condition : Bool) (message : String) :
    check condition message ≠ .error .panic := by
  unfold check
  by_cases h : condition = true
  · simp [h]
  · simp [h, fail]

theorem readLe_ne_panic (width : Nat) (truncated : String) (bytes : List UInt8) (offset : Nat) :
    readLe width truncated bytes offset ≠ .error .panic := by
  unfold readLe
  cases slice bytes offset width with
  | none => simp [fail]
  | some raw => simp

theorem careful_take (count : Nat) (truncated : String) : Careful (take count truncated) := by
  refine ⟨fun bytes h => ?_⟩
  unfold take at h
  by_cases hle : count ≤ bytes.length
  · rw [if_pos hle] at h
    cases h
  · rw [if_neg hle] at h
    cases h

theorem careful_takeLe (width : Nat) (truncated : String) : Careful (takeLe width truncated) :=
  careful_bind (careful_take width truncated) fun _ => careful_pure _

theorem careful_fold {round : σ → Takes σ} (h : ∀ kept, Careful (round kept)) (count : Nat)
    (kept : σ) : Careful (takeFold round count kept) := by
  induction count generalizing kept with
  | zero => exact careful_pure kept
  | succ count ih => exact careful_bind (h kept) ih

end Careful

/-! ## 5. Text -/

/-- `as_bytes`. -/
def utf8 (text : String) : List UInt8 := text.toByteArray.data.toList

/-- `str::from_utf8`. -/
def utf8? (bytes : List UInt8) : Option String := String.fromUTF8? ⟨bytes.toArray⟩

/-- **A text that was written is read.** -/
theorem utf8?_utf8 (text : String) : utf8? (utf8 text) = some text := by
  unfold utf8? utf8 String.fromUTF8?
  rw [Array.toArray_toList]
  have h : (ByteArray.mk text.toByteArray.data).IsValidUTF8 := text.isValidUTF8
  rw [dif_pos h]
  rfl

theorem utf8_injective {a b : String} (h : utf8 a = utf8 b) : a = b := by
  have hb := utf8?_utf8 b
  rw [← h, utf8?_utf8] at hb
  exact Option.some.inj hb

/-- `str` is ordered by its bytes. -/
def strLt (a b : String) : Bool := utf8 a < utf8 b

theorem strLt_irrefl (a : String) : strLt a a = false :=
  decide_eq_false (List.lt_irrefl (utf8 a))

theorem strLt_trans {a b c : String} (h : strLt a b = true) (h' : strLt b c = true) :
    strLt a c = true :=
  decide_eq_true (List.lt_trans (of_decide_eq_true h) (of_decide_eq_true h'))

theorem strLt_total {a b : String} (h : strLt a b = false) (h' : strLt b a = false) : a = b :=
  utf8_injective (List.le_antisymm (of_decide_eq_false h') (of_decide_eq_false h))

end MisterMagik.Base
