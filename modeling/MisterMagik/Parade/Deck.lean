/-
  File:      MisterMagik/Parade/Deck.lean
  Subject:   The deck of images of the screenshot parade (`shuffle` and the loop of
             `next_image_for` in `screenshot-parade/src/schedule.rs`).

  The parade goes through a shuffled deck of all images and shuffles it again when the cursor has
  reached the end. A search for a usable image looks at as many cards as the deck has, and such a
  reshuffle may fall into the middle of it.

  * `Deck.examined` -- the cards a search looks at: the rest of the deck, then the beginning of the
    deck that the next shuffle makes;
  * **`Deck.search_eq`** -- the search finds the first usable one of these;
  * `Deck.Whole` -- the deck holds every image once and the cursor is in range, kept by a search.
-/
import Mathlib.Data.List.Perm.Basic
import Mathlib.Data.List.Range

namespace MisterMagik.Parade

/-! ## 1. The generator and the shuffle -/

def advanceRng (rng : UInt64) : UInt64 :=
  let rng := rng ^^^ (rng <<< 13)
  let rng := rng ^^^ (rng >>> 7)
  rng ^^^ (rng <<< 17)

section Shuffle

variable {α : Type}

/-- `values.swap(index, other)`; both are in range wherever it is used. -/
def swap (values : List α) (index other : Nat) : List α :=
  match values[index]?, values[other]? with
  | some a, some b => (values.set index b).set other a
  | _, _ => values

/-- The swaps of a shuffle from an index down to 1. -/
def shuffleFrom : Nat → List α → UInt64 → List α × UInt64
  | 0, values, rng => (values, rng)
  | index + 1, values, rng =>
      let rng := advanceRng rng
      let other := rng.toNat % (index + 1 + 1)
      shuffleFrom index (swap values (index + 1) other) rng

def shuffle (values : List α) (rng : UInt64) : List α × UInt64 :=
  shuffleFrom (values.length - 1) values rng

theorem swap_perm (values : List α) (index other : Nat) :
    (swap values index other).Perm values := by
  unfold swap
  split
  case h_1 a b ha hb =>
    obtain ⟨hindex, rfl⟩ := List.getElem?_eq_some_iff.mp ha
    obtain ⟨hother, rfl⟩ := List.getElem?_eq_some_iff.mp hb
    exact List.set_set_perm hindex hother
  case h_2 => exact .refl _

theorem shuffleFrom_perm (index : Nat) (values : List α) (rng : UInt64) :
    (shuffleFrom index values rng).1.Perm values := by
  induction index generalizing values rng with
  | zero => exact .refl _
  | succ index ih => exact (ih _ _).trans (swap_perm _ _ _)

theorem shuffle_perm (values : List α) (rng : UInt64) : (shuffle values rng).1.Perm values :=
  shuffleFrom_perm _ _ _

@[simp]
theorem length_shuffle (values : List α) (rng : UInt64) :
    (shuffle values rng).1.length = values.length := (shuffle_perm values rng).length_eq

end Shuffle

/-! ## 2. The deck -/

structure Deck where
  deck : List Nat
  cursor : Nat
  rng : UInt64
  deriving DecidableEq, Repr

namespace Deck

/-- What happens before a card is looked at: at the end of the deck it is shuffled. -/
def turned (d : Deck) : Deck :=
  if d.cursor = d.deck.length then
    ⟨(shuffle d.deck d.rng).1, 0, (shuffle d.deck d.rng).2⟩
  else d

/-- The deck once the card at its cursor has been taken. -/
def passed (d : Deck) : Deck := ⟨d.deck, d.cursor + 1, d.rng⟩

/-- The loop of a search, with the number of cards it may still look at. -/
def search (usable : Nat → Bool) : Nat → Deck → Option Nat × Deck
  | 0, d => (none, d)
  | left + 1, d =>
      let d := d.turned
      match d.deck[d.cursor]? with
      | none => (none, d)
      | some candidate =>
          if usable candidate then (some candidate, d.passed) else search usable left d.passed

/-- All the images once, and the cursor in range. -/
structure Whole (images : Nat) (d : Deck) : Prop where
  perm : d.deck.Perm (List.range images)
  cursor : d.cursor ≤ images

/-- The cards that a search of the whole deck looks at. -/
def examined (d : Deck) : List Nat :=
  d.deck.drop d.cursor ++ (shuffle d.deck d.rng).1.take d.cursor

variable {usable : Nat → Bool} {images left : Nat} {d : Deck}

theorem Whole.length (h : d.Whole images) : d.deck.length = images := by
  rw [h.perm.length_eq, List.length_range]

theorem Whole.mem (h : d.Whole images) {m : Nat} : m ∈ d.deck ↔ m < images := by
  rw [h.perm.mem_iff, List.mem_range]

theorem Whole.turned (h : d.Whole images) : d.turned.Whole images := by
  unfold Deck.turned
  split
  · exact ⟨(shuffle_perm _ _).trans h.perm, Nat.zero_le _⟩
  · exact h

/-- After it the cursor stands on a card. -/
theorem Whole.turned_lt (h : d.Whole images) (hpos : 0 < images) : d.turned.cursor < images := by
  have hlen := h.length
  have hcursor := h.cursor
  unfold Deck.turned
  split
  · exact hpos
  · omega

theorem Whole.passed (h : d.Whole images) (hcursor : d.cursor < images) :
    d.passed.Whole images := ⟨h.perm, hcursor⟩

theorem search_succ (usable : Nat → Bool) (left : Nat) (hpos : 0 < images) (h : d.Whole images) :
    ∃ candidate, d.turned.deck[d.turned.cursor]? = some candidate ∧
      search usable (left + 1) d =
        if usable candidate then (some candidate, d.turned.passed)
        else search usable left d.turned.passed := by
  have hlt := h.turned_lt hpos
  rw [← h.turned.length] at hlt
  refine ⟨_, List.getElem?_eq_getElem hlt, ?_⟩
  rw [search]
  simp only [List.getElem?_eq_getElem hlt]

theorem Whole.search (hpos : 0 < images) (h : d.Whole images) :
    (search usable left d).2.Whole images := by
  induction left generalizing d with
  | zero => exact h
  | succ left ih =>
      have hpassed := h.turned.passed (h.turned_lt hpos)
      obtain ⟨candidate, -, e⟩ := search_succ usable left hpos h
      rw [e]
      split
      · exact hpassed
      · exact ih hpassed

/-! ## 3. What a search looks at -/

/-- The cards to come: the rest of the deck, then all of the next one. -/
def coming (d : Deck) : List Nat := d.deck.drop d.cursor ++ (shuffle d.deck d.rng).1

theorem coming_next {candidate : Nat} (hcandidate : d.deck[d.cursor]? = some candidate) :
    d.coming = candidate :: d.passed.coming := by
  obtain ⟨hlt, rfl⟩ := List.getElem?_eq_some_iff.mp hcandidate
  rw [coming, ← List.getElem_cons_drop hlt]
  rfl

/-- At the end of the deck it is the reshuffled one that comes, and nothing is left of the old. -/
theorem coming_turned (left : Nat) (h : d.Whole images) (hle : left ≤ images) :
    d.turned.coming.take left = d.coming.take left ∨ d.turned = d := by
  have hlen := h.length
  unfold turned
  split
  case isTrue hend =>
    left
    have hlen' : (shuffle d.deck d.rng).1.length = images := by rw [length_shuffle, hlen]
    simp only [coming, hend, List.drop_length, List.nil_append, List.drop_zero]
    exact List.take_append_of_le_length (by omega)
  case isFalse => exact .inr rfl

/-- The bound of the induction leaves room for one reshuffle and no second one. -/
theorem search_take (hpos : 0 < images) (h : d.Whole images)
    (hle : left ≤ (images - d.cursor) + images) :
    (search usable left d).1 = (d.coming.take left).find? usable := by
  induction left generalizing d with
  | zero => rfl
  | succ left ih =>
      have hlen := h.length
      have hcursor := h.cursor
      obtain ⟨candidate, hcandidate, e⟩ := search_succ usable left hpos h
      have hlt := h.turned_lt hpos
      have hnext : d.turned.coming = candidate :: d.turned.passed.coming :=
        coming_next hcandidate
      have hroom : left ≤ images - d.turned.passed.cursor + images ∧
          d.turned.coming.take (left + 1) = d.coming.take (left + 1) := by
        by_cases hend : d.cursor = images
        · have hzero : d.turned.cursor = 0 := by
            rw [turned, if_pos (by omega)]
          have hpassed : d.turned.passed.cursor = 1 := by rw [passed, hzero]
          refine ⟨by omega, ?_⟩
          rcases coming_turned (left + 1) h (by omega) with htake | hsame
          · exact htake
          · rw [hsame]
        · have hsame : d.turned = d := by rw [turned, if_neg (by omega)]
          have hpassed : d.turned.passed.cursor = d.cursor + 1 := by rw [hsame, passed]
          exact ⟨by omega, by rw [hsame]⟩
      rw [e, ← hroom.2, hnext, List.take_succ_cons, List.find?_cons]
      cases usable candidate
      · exact ih (h.turned.passed hlt) hroom.1
      · rfl

/-- **A search of as many cards as the deck has finds the first usable one among the cards it looks
    at**: those from the cursor on, and then as many of the reshuffled deck as had been passed. -/
theorem search_eq (h : d.Whole images) :
    (search usable d.deck.length d).1 = d.examined.find? usable := by
  have hlen := h.length
  have hcursor := h.cursor
  rcases Nat.eq_zero_or_pos images with rfl | hpos
  · have hdeck : d.deck = [] := List.length_eq_zero_iff.mp hlen
    have hzero : d.cursor = 0 := by omega
    simp [examined, hdeck, hzero, search]
  · rw [hlen, search_take hpos h (by omega), coming, List.take_append]
    have hrest : images - (d.deck.drop d.cursor).length = d.cursor := by
      rw [List.length_drop]
      omega
    rw [hrest, List.take_of_length_le (by rw [List.length_drop]; omega), examined]

theorem search_isSome (h : d.Whole images) :
    (search usable d.deck.length d).1.isSome ↔
      (∃ m ∈ d.deck.drop d.cursor, usable m) ∨
        ∃ m ∈ (shuffle d.deck d.rng).1.take d.cursor, usable m := by
  rw [search_eq h, List.find?_isSome, examined]
  simp only [List.mem_append]
  constructor
  · rintro ⟨m, hm | hm, hu⟩
    · exact .inl ⟨m, hm, hu⟩
    · exact .inr ⟨m, hm, hu⟩
  · rintro (⟨m, hm, hu⟩ | ⟨m, hm, hu⟩)
    · exact ⟨m, .inl hm, hu⟩
    · exact ⟨m, .inr hm, hu⟩

theorem search_usable (h : d.Whole images) {m : Nat}
    (hm : (search usable d.deck.length d).1 = some m) : m < images ∧ usable m := by
  rw [search_eq h] at hm
  refine ⟨?_, List.find?_some hm⟩
  have hmem := List.mem_of_find?_eq_some hm
  rw [examined, List.mem_append] at hmem
  rcases hmem with hmem | hmem
  · exact h.mem.mp (List.mem_of_mem_drop hmem)
  · exact h.mem.mp ((shuffle_perm _ _).mem_iff.mp (List.mem_of_mem_take hmem))

end Deck

end MisterMagik.Parade
