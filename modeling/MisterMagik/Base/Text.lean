/-
  File:      MisterMagik/Base/Text.lean
  Subject:   Text as the source handles it: paths split at slashes, identifiers brought to one form.

  Strings are worked on as lists of characters. `components` is `Path::components`: a path is
  compared, looked up and checked by its components, and written as the text it was given.

  * `backslash_iff_components` -- a backslash is in the text exactly when it is in a component;
  * `normalizeId_of_valid` -- an identifier in its one form is left as it is.
-/
import Mathlib.Data.List.DropRight
import Mathlib.Data.List.Infix

namespace MisterMagik.Base

/-! ## 1. Paths -/

/-- `replace('\\', "/")`, for one character. -/
def forwardSlash (c : Char) : Char :=
  if c = '\\' then '/' else c

/-- The text between slashes. -/
def segments : List Char → List (List Char)
  | [] => [[]]
  | c :: rest =>
      if c = '/' then [] :: segments rest
      else
        match segments rest with
        | [] => [[c]]
        | segment :: more => (c :: segment) :: more

/-- `std::path::Component`, on Unix. -/
inductive Component where
  | rootDir
  | curDir
  | parentDir
  | normal (name : List Char)
  deriving DecidableEq, Repr

def Component.ofSegment (segment : List Char) : Component :=
  if segment = ['.', '.'] then .parentDir else .normal segment

/-- `Path::components`: empty segments and dots go, but for a leading root or dot. -/
def components (path : List Char) : List Component :=
  (if path.head? = some '/' then [.rootDir]
    else if (segments path).head? = some ['.'] then [.curDir] else []) ++
  ((segments path).filter fun s => s ≠ [] && s ≠ ['.']).map Component.ofSegment

theorem mem_of_mem_segments {path s : List Char} {c : Char} (hs : s ∈ segments path)
    (hc : c ∈ s) : c ∈ path := by
  induction path generalizing s with
  | nil =>
      rw [segments, List.mem_singleton] at hs
      subst hs
      cases hc
  | cons d rest ih =>
      by_cases hd : d = '/'
      · rw [segments, if_pos hd, List.mem_cons] at hs
        rcases hs with rfl | hs
        · cases hc
        · exact List.mem_cons_of_mem _ (ih hs hc)
      · rw [segments, if_neg hd] at hs
        cases hrest : segments rest with
        | nil =>
            rw [hrest] at hs
            obtain rfl := List.mem_singleton.1 hs
            obtain rfl := List.mem_singleton.1 hc
            exact List.mem_cons_self
        | cons segment more =>
            rw [hrest] at hs ih
            rcases List.mem_cons.1 hs with rfl | hs
            · rcases List.mem_cons.1 hc with rfl | hc
              · exact List.mem_cons_self
              · exact List.mem_cons_of_mem _ (ih List.mem_cons_self hc)
            · exact List.mem_cons_of_mem _ (ih (List.mem_cons_of_mem _ hs) hc)

theorem exists_segment {path : List Char} {c : Char} (hc : c ∈ path) (hslash : c ≠ '/') :
    ∃ s ∈ segments path, c ∈ s := by
  induction path with
  | nil => cases hc
  | cons d rest ih =>
      by_cases hd : d = '/'
      · rw [segments, if_pos hd]
        rcases List.mem_cons.1 hc with rfl | hc
        · exact absurd hd hslash
        · obtain ⟨s, hs, hcs⟩ := ih hc
          exact ⟨s, List.mem_cons_of_mem _ hs, hcs⟩
      · rw [segments, if_neg hd]
        cases hrest : segments rest with
        | nil =>
            rcases List.mem_cons.1 hc with rfl | hc
            · exact ⟨[c], List.mem_cons_self, List.mem_cons_self⟩
            · obtain ⟨s, hs, -⟩ := ih hc
              rw [hrest] at hs
              cases hs
        | cons segment more =>
            rw [hrest] at ih
            rcases List.mem_cons.1 hc with rfl | hc
            · exact ⟨_, List.mem_cons_self, List.mem_cons_self⟩
            · obtain ⟨s, hs, hcs⟩ := ih hc
              rcases List.mem_cons.1 hs with rfl | hs
              · exact ⟨_, List.mem_cons_self, List.mem_cons_of_mem _ hcs⟩
              · exact ⟨s, List.mem_cons_of_mem _ hs, hcs⟩

/-- **A backslash is in a path exactly when it is in the name of a component.** -/
theorem backslash_iff_components (path : List Char) :
    '\\' ∈ path ↔ ∃ name, Component.normal name ∈ components path ∧ '\\' ∈ name := by
  constructor
  · intro h
    obtain ⟨s, hs, hcs⟩ := exists_segment h (by decide)
    have hnil : s ≠ [] := List.ne_nil_of_mem hcs
    have hdot : s ≠ ['.'] := by
      rintro rfl
      exact absurd hcs (by decide)
    have hdots : s ≠ ['.', '.'] := by
      rintro rfl
      exact absurd hcs (by decide)
    refine ⟨s, List.mem_append_right _ (List.mem_map.2 ⟨s, ?_, ?_⟩), hcs⟩
    · exact List.mem_filter.2 ⟨hs, by simp [hnil, hdot]⟩
    · rw [Component.ofSegment, if_neg hdots]
  · intro h
    obtain ⟨name, hmem, hc⟩ := h
    rcases List.mem_append.1 hmem with hmem | hmem
    · split at hmem
      · cases List.mem_singleton.1 hmem
      · split at hmem
        · cases List.mem_singleton.1 hmem
        · cases hmem
    · obtain ⟨s, hs, heq⟩ := List.mem_map.1 hmem
      have hname : s = name := by
        unfold Component.ofSegment at heq
        split at heq
        · cases heq
        · exact Component.normal.inj heq
      exact mem_of_mem_segments (List.mem_filter.1 hs).1 (hname ▸ hc)

/-! ## 2. Identifiers -/

/-- `char::is_whitespace`. -/
def isWhitespace (c : Char) : Bool :=
  (0x9 ≤ c.toNat && c.toNat ≤ 0xd) || c.toNat = 0x20 || c.toNat = 0x85 || c.toNat = 0xa0 ||
    c.toNat = 0x1680 || (0x2000 ≤ c.toNat && c.toNat ≤ 0x200a) || c.toNat = 0x2028 ||
    c.toNat = 0x2029 || c.toNat = 0x202f || c.toNat = 0x205f || c.toNat = 0x3000

/-- `is_ascii_hexdigit`. -/
def hexDigit (c : Char) : Bool :=
  c.isDigit || ('a' ≤ c && c ≤ 'f') || ('A' ≤ c && c ≤ 'F')

/-- `to_ascii_lowercase().replace('_', "-")`, for one character. -/
def lowerHyphen (c : Char) : Char :=
  if c.toLower = '_' then '-' else c.toLower

/-- `char::to_lowercase`. Outside ASCII only the Kelvin sign and the dotted capital I have an ASCII
character in their lower case; another stands for its own, which is outside ASCII as well. -/
def toLowercase (c : Char) : List Char :=
  if c = '\u212a' then ['k'] else if c = '\u0130' then ['i', '\u0307'] else [c.toLower]

theorem isUpper_toLower (x : Char) : x.toLower.isUpper = false := by
  unfold Char.toLower
  split
  next h =>
    have hlow : 65 ≤ x.val.toNat := h.1
    have hhigh : x.val.toNat ≤ 90 := h.2
    have hsum : (x.val + ('a'.val - 'A'.val)).toNat = x.val.toNat + 32 := by
      have h32 : ('a'.val - 'A'.val).toNat = 32 := rfl
      rw [UInt32.toNat_add]
      omega
    refine decide_eq_false fun hupper => ?_
    have hle : (x.val + ('a'.val - 'A'.val)).toNat ≤ 90 := hupper.2
    omega
  next h => exact decide_eq_false h

/-- `trim().to_ascii_lowercase().replace('_', "-")`. -/
def normalizeId (value : List Char) : List Char :=
  ((value.dropWhile isWhitespace).rdropWhile isWhitespace).map lowerHyphen

def isLower (c : Char) : Bool := 'a' ≤ c && c ≤ 'z'

/-- Lower-case words of letters and digits, joined by single hyphens. -/
structure ValidId (value : List Char) : Prop where
  nonempty : value ≠ []
  short : value.length ≤ 64
  start : value.head? ≠ some '-'
  stop : value.getLast? ≠ some '-'
  single : ¬['-', '-'] <:+: value
  chars : ∀ c ∈ value, isLower c = true ∨ c.isDigit = true ∨ c = '-'

instance (value : List Char) : Decidable (ValidId value) :=
  decidable_of_iff (value ≠ [] ∧ value.length ≤ 64 ∧ value.head? ≠ some '-' ∧
      value.getLast? ≠ some '-' ∧ ¬['-', '-'] <:+: value ∧
      value.all (fun c => isLower c || c.isDigit || c == '-') = true)
    ⟨fun h => ⟨h.1, h.2.1, h.2.2.1, h.2.2.2.1, h.2.2.2.2.1, by simpa [or_assoc] using h.2.2.2.2.2⟩,
      fun h => ⟨h.nonempty, h.short, h.start, h.stop, h.single, by simpa [or_assoc] using h.chars⟩⟩

theorem idChar_toNat {c : Char} (h : isLower c = true ∨ c.isDigit = true ∨ c = '-') :
    (97 ≤ c.toNat ∧ c.toNat ≤ 122) ∨ (48 ≤ c.toNat ∧ c.toNat ≤ 57) ∨ c.toNat = 45 := by
  rcases h with h | h | rfl
  · unfold isLower at h
    rw [Bool.and_eq_true, decide_eq_true_eq, decide_eq_true_eq] at h
    exact Or.inl h
  · have hdigit := Char.isDigit_iff_toNat.1 h
    exact Or.inr (Or.inl hdigit)
  · exact Or.inr (Or.inr rfl)

theorem idChar_not_whitespace {c : Char} (h : isLower c = true ∨ c.isDigit = true ∨ c = '-') :
    isWhitespace c = false := by
  have hn := idChar_toNat h
  unfold isWhitespace
  simp only [Bool.or_eq_false_iff, Bool.and_eq_false_iff, decide_eq_false_iff_not]
  omega

theorem lowerHyphen_idChar {c : Char} (h : isLower c = true ∨ c.isDigit = true ∨ c = '-') :
    lowerHyphen c = c := by
  have hn := idChar_toNat h
  have hlower : c.toLower = c := by
    unfold Char.toLower
    rw [dif_neg]
    intro hu
    have hu' : 65 ≤ c.toNat ∧ c.toNat ≤ 90 := hu
    omega
  unfold lowerHyphen
  rw [hlower, if_neg]
  rintro rfl
  have hunder : ('_' : Char).toNat = 95 := rfl
  omega

/-- **An identifier in its one form is left as it is.** -/
theorem normalizeId_of_valid {value : List Char} (h : ValidId value) :
    normalizeId value = value := by
  have hspace : ∀ c ∈ value, isWhitespace c = false := fun c hc =>
    idChar_not_whitespace (h.chars c hc)
  have hdrop : value.dropWhile isWhitespace = value := by
    rw [List.dropWhile_eq_self_iff]
    intro hlen
    simp [hspace _ (List.getElem_mem hlen)]
  have hrdrop : value.rdropWhile isWhitespace = value := by
    rw [List.rdropWhile_eq_self_iff]
    intro hne
    simp [hspace _ (List.getLast_mem hne)]
  unfold normalizeId
  rw [hdrop, hrdrop]
  exact (List.map_congr_left fun c hc => lowerHyphen_idChar (h.chars c hc)).trans (List.map_id _)

end MisterMagik.Base
