/-
  File:      MisterMagik/Base/Lines.lean
  Subject:   Lines of text: what `str::lines`, `trim` and `split_once` give.

  A text is a list of characters. It is cut after each line feed; the last piece has none when the
  text does not end in one, and there is no last piece when the text is empty.

  * `trim_pad` -- white space around a text that has none at its ends;
  * `splitOnce_append` -- a text is split at the first of a character;
  * `cut_written`, `cut_spec` -- what was written line by line is cut into these lines.
-/
import Mathlib.Data.List.DropRight
import MisterMagik.Base.Bytes
import MisterMagik.Base.Text

namespace MisterMagik.Base

/-! ## 1. White space -/

def trimStart (text : List Char) : List Char := text.dropWhile isWhitespace

def trimEnd (text : List Char) : List Char := text.rdropWhile isWhitespace

def trim (text : List Char) : List Char := trimEnd (trimStart text)

/-- `eq_ignore_ascii_case`. -/
def eqIgnoreAsciiCase (a b : List Char) : Bool := a.map Char.toLower == b.map Char.toLower

section Blank

variable {p : Char → Bool} {a b text : List Char}

def Blank (text : List Char) : Prop := ∀ c ∈ text, isWhitespace c = true

theorem dropWhile_append_all (h : ∀ c ∈ a, p c = true) : (a ++ b).dropWhile p = b.dropWhile p := by
  induction a with
  | nil => rfl
  | cons c a ih =>
      rw [List.cons_append, List.dropWhile_cons_of_pos (h c List.mem_cons_self),
        ih fun c hc => h c (List.mem_cons_of_mem _ hc)]

theorem takeWhile_append_all (h : ∀ c ∈ a, p c = true) :
    (a ++ b).takeWhile p = a ++ b.takeWhile p := by
  induction a with
  | nil => rfl
  | cons c a ih =>
      rw [List.cons_append, List.takeWhile_cons_of_pos (h c List.mem_cons_self),
        ih fun c hc => h c (List.mem_cons_of_mem _ hc), List.cons_append]

theorem rdropWhile_append_all (h : ∀ c ∈ b, p c = true) :
    (a ++ b).rdropWhile p = a.rdropWhile p := by
  unfold List.rdropWhile
  rw [List.reverse_append, dropWhile_append_all fun c hc => h c (List.mem_reverse.1 hc)]

/-- The first character of a kind. -/
theorem exists_first {p : Char → Bool} (h : ∃ c ∈ text, p c = true) :
    ∃ front c back, text = front ++ c :: back ∧ (∀ d ∈ front, p d = false) ∧ p c = true := by
  induction text with
  | nil =>
      obtain ⟨c, hc, -⟩ := h
      cases hc
  | cons d text ih =>
      by_cases hd : p d = true
      · exact ⟨[], d, text, rfl, fun e he => absurd he List.not_mem_nil, hd⟩
      · obtain ⟨c, hc, hpc⟩ := h
        rcases List.mem_cons.1 hc with rfl | hc
        · exact absurd hpc hd
        · obtain ⟨front, c, back, rfl, hfront, hpc⟩ := ih ⟨c, hc, hpc⟩
          refine ⟨d :: front, c, back, rfl, fun e he => ?_, hpc⟩
          rcases List.mem_cons.1 he with rfl | he
          · exact Bool.eq_false_iff.2 hd
          · exact hfront e he

theorem mem_trimStart {c : Char} (h : c ∈ trimStart text) : c ∈ text :=
  (List.dropWhile_sublist _).subset h

theorem trimEnd_append_blank (h : Blank b) : trimEnd (a ++ b) = trimEnd a := rdropWhile_append_all h

theorem trimStart_append_blank (h : Blank a) : trimStart (a ++ b) = trimStart b :=
  dropWhile_append_all h

theorem trimStart_eq_nil (h : Blank a) : trimStart a = [] := by
  have happend := trimStart_append_blank (b := []) h
  rw [List.append_nil] at happend
  exact happend

/-- A text that begins with no white space, or is empty. -/
theorem trim_eq_self (h : ∀ c ∈ text, isWhitespace c = false) : trim text = text := by
  have hstart : trimStart text = text := by
    unfold trimStart
    rw [List.dropWhile_eq_self_iff]
    intro hlen
    simp [h _ (List.getElem_mem hlen)]
  unfold trim trimEnd
  rw [hstart, List.rdropWhile_eq_self_iff]
  intro hne
  simp [h _ (List.getLast_mem hne)]

theorem trimStart_of_head {c : Char} (h : isWhitespace c = false) :
    trimStart (c :: a) = c :: a := by
  unfold trimStart
  rw [List.dropWhile_cons_of_neg (by rw [h]; exact Bool.false_ne_true)]

theorem trimEnd_of_last {c : Char} (h : isWhitespace c = false) :
    trimEnd (a ++ [c]) = a ++ [c] := by
  unfold trimEnd
  rw [List.rdropWhile_concat_neg _ _ _ (by rw [h]; exact Bool.false_ne_true)]

/-- A trimmed text is its own front and its own end. -/
theorem trimmed_iff : trim a = a ↔ trimStart a = a ∧ trimEnd a = a := by
  constructor
  · intro h
    have hlen := congrArg List.length h
    have hend := (List.rdropWhile_prefix isWhitespace (trimStart a)).length_le
    have hstart := List.IsSuffix.length_le (List.dropWhile_suffix (l := a) isWhitespace)
    have hfront : trimStart a = a := by
      refine (List.dropWhile_suffix (l := a) isWhitespace).eq_of_length ?_
      unfold trim trimEnd at hlen
      unfold trimStart at hlen hend
      omega
    refine ⟨hfront, ?_⟩
    unfold trim at h
    rw [hfront] at h
    exact h
  · rintro ⟨hstart, hend⟩
    unfold trim
    rw [hstart, hend]

/-- White space around a trimmed text. -/
theorem trim_pad {front back : List Char} (hfront : Blank front) (hback : Blank back)
    (h : trim text = text) : trim (front ++ text ++ back) = text := by
  obtain ⟨hstart, hend⟩ := trimmed_iff.1 h
  unfold trim
  rw [List.append_assoc, trimStart_append_blank hfront]
  cases text with
  | nil =>
      rw [List.nil_append, trimStart_eq_nil hback]
      rfl
  | cons c text =>
      have hc : isWhitespace c = false := by
        by_contra hne
        unfold trimStart at hstart
        rw [List.dropWhile_cons_of_pos (by simpa using hne)] at hstart
        have hlen := List.IsSuffix.length_le (List.dropWhile_suffix (l := text) isWhitespace)
        rw [hstart, List.length_cons] at hlen
        omega
      rw [List.cons_append, trimStart_of_head hc, ← List.cons_append, trimEnd_append_blank hback,
        hend]

theorem blank_nil : Blank [] := fun _ h => absurd h List.not_mem_nil

theorem blank_append (h : Blank a) (h' : Blank b) : Blank (a ++ b) := fun c hc =>
  (List.mem_append.1 hc).elim (h c) (h' c)

theorem blank_takeWhile (text : List Char) : Blank (text.takeWhile isWhitespace) := fun _ h =>
  List.mem_takeWhile_imp h

/-- A text is white space and what is left without it, at the front and at the end. -/
theorem trimStart_split (text : List Char) :
    text = text.takeWhile isWhitespace ++ trimStart text := List.takeWhile_append_dropWhile.symm

theorem trimEnd_split (text : List Char) : ∃ pad, text = trimEnd text ++ pad ∧ Blank pad := by
  refine ⟨(text.reverse.takeWhile isWhitespace).reverse, ?_, fun c hc =>
    blank_takeWhile _ c (List.mem_reverse.1 hc)⟩
  unfold trimEnd List.rdropWhile
  rw [← List.reverse_append, List.takeWhile_append_dropWhile, List.reverse_reverse]

theorem head_trimStart {c : Char} (h : (trimStart text).head? = some c) :
    isWhitespace c = false := by
  induction text with
  | nil => cases h
  | cons d text ih =>
      by_cases hd : isWhitespace d = true
      · unfold trimStart at h ih
        rw [List.dropWhile_cons_of_pos hd] at h
        exact ih h
      · have hfalse : isWhitespace d = false := Bool.eq_false_iff.2 hd
        rw [trimStart_of_head hfalse] at h
        cases h
        exact hfalse

/-- White space behind what is not blank is taken off alone. -/
theorem trimEnd_append {c : Char} (hc : isWhitespace c = false) (front back : List Char) :
    trimEnd (front ++ c :: back) = front ++ trimEnd (c :: back) := by
  obtain ⟨pad, hsplit, hblank⟩ := trimEnd_split (c :: back)
  have hne : trimEnd (c :: back) ≠ [] := by
    intro hnil
    rw [hnil, List.nil_append] at hsplit
    have hspace := hblank c (hsplit ▸ List.mem_cons_self)
    rw [hc] at hspace
    cases hspace
  have hself : trimEnd (front ++ trimEnd (c :: back)) = front ++ trimEnd (c :: back) := by
    obtain ⟨init, last, hlast⟩ := List.eq_nil_or_concat' (trimEnd (c :: back)) |>.resolve_left hne
    have hspace : isWhitespace last = false := by
      have hnot := List.rdropWhile_last_not isWhitespace (c :: back) hne
      have hget : (List.rdropWhile isWhitespace (c :: back)).getLast hne = last := by
        have hlast' : List.rdropWhile isWhitespace (c :: back) = init ++ [last] := hlast
        simp only [hlast', List.getLast_concat]
      rw [hget] at hnot
      exact Bool.eq_false_iff.2 hnot
    rw [hlast, ← List.append_assoc, trimEnd_of_last hspace]
  conv => lhs; rw [hsplit, ← List.append_assoc, trimEnd_append_blank hblank]
  exact hself

/-- A text that is not blank has a first character after the white space. -/
theorem exists_text (h : ¬ Blank text) : ∃ front c back,
    text = front ++ c :: back ∧ Blank front ∧ isWhitespace c = false := by
  obtain ⟨c, hc⟩ := not_forall.1 h
  obtain ⟨hmem, hspace⟩ := Classical.not_imp.1 hc
  obtain ⟨front, d, back, hsplit, hfront, hd⟩ := exists_first (p := fun d => !isWhitespace d)
    ⟨c, hmem, by rw [Bool.eq_false_iff.2 hspace]; rfl⟩
  refine ⟨front, d, back, hsplit, fun e he => ?_, by simpa using hd⟩
  have hspace' := hfront e he
  rw [Bool.not_eq_false'] at hspace'
  exact hspace'

theorem trimEnd_suffix (h : a <:+ b) : trimEnd a <:+ trimEnd b := by
  obtain ⟨front, rfl⟩ := h
  by_cases hblank : Blank a
  · have hnil : trimEnd a = [] := trimEnd_append_blank (a := []) hblank
    rw [hnil]
    exact List.nil_suffix
  · obtain ⟨before, c, back, rfl, -, hfalse⟩ := exists_text hblank
    rw [trimEnd_append hfalse, ← List.append_assoc, trimEnd_append hfalse, List.append_assoc]
    exact List.suffix_append front _

theorem head_trim {c : Char} (h : isWhitespace c = false) (text : List Char) :
    (trim (c :: text)).head? = some c := by
  unfold trim
  rw [trimStart_of_head h]
  obtain ⟨pad, hsplit, hblank⟩ := trimEnd_split (c :: text)
  cases htrim : trimEnd (c :: text) with
  | nil =>
      rw [htrim, List.nil_append] at hsplit
      have hspace := hblank c (hsplit ▸ List.mem_cons_self)
      rw [h] at hspace
      cases hspace
  | cons d rest =>
      rw [htrim, List.cons_append] at hsplit
      rw [(List.cons.inj hsplit).1]
      rfl

theorem trim_append_blank (h : Blank b) (text : List Char) : trim (text ++ b) = trim text := by
  unfold trim
  by_cases htext : Blank text
  · rw [trimStart_eq_nil htext, trimStart_eq_nil (blank_append htext h)]
  · obtain ⟨front, c, back, rfl, hfront, hc⟩ := exists_text htext
    rw [List.append_assoc, trimStart_append_blank hfront, trimStart_append_blank hfront,
      List.cons_append, trimStart_of_head hc, trimStart_of_head hc, ← List.cons_append,
      trimEnd_append_blank h]

/-- White space at the end of a text stands behind its last character of another kind. -/
theorem blank_suffix {c : Char} {front pad x y : List Char} (h : front ++ pad = x ++ c :: y)
    (hpad : Blank pad) (hc : isWhitespace c = false) :
    ∃ y', y = y' ++ pad ∧ front = x ++ c :: y' := by
  rcases List.append_eq_append_iff.1 h with ⟨m, hx, hpad'⟩ | ⟨m, hfront, hy⟩
  · have hspace := hpad c (hpad' ▸ List.mem_append_right _ List.mem_cons_self)
    rw [hc] at hspace
    cases hspace
  · cases m with
    | nil =>
        have hspace := hpad c (by
          rw [List.nil_append] at hy
          exact hy ▸ List.mem_cons_self)
        rw [hc] at hspace
        cases hspace
    | cons d m =>
        rw [List.cons_append] at hy
        obtain ⟨rfl, rfl⟩ := List.cons.inj hy
        exact ⟨m, rfl, hfront⟩

end Blank

section Case

variable {a b c : List Char}

theorem eqIgnoreAsciiCase_iff :
    eqIgnoreAsciiCase a b = true ↔ a.map Char.toLower = b.map Char.toLower := by
  unfold eqIgnoreAsciiCase
  rw [beq_iff_eq]

theorem eqIgnoreAsciiCase_refl (a : List Char) : eqIgnoreAsciiCase a a = true :=
  eqIgnoreAsciiCase_iff.2 rfl

theorem eqIgnoreAsciiCase_comm (a b : List Char) :
    eqIgnoreAsciiCase a b = eqIgnoreAsciiCase b a := by
  unfold eqIgnoreAsciiCase
  exact Bool.eq_iff_iff.2 (by rw [beq_iff_eq, beq_iff_eq, eq_comm])

/-- Texts that agree ignoring case agree with the same texts. -/
theorem eqIgnoreAsciiCase_congr (h : eqIgnoreAsciiCase a b = true) (c : List Char) :
    eqIgnoreAsciiCase a c = eqIgnoreAsciiCase b c := by
  rw [eqIgnoreAsciiCase_iff] at h
  unfold eqIgnoreAsciiCase
  rw [h]

end Case

/-! ## 2. Splitting -/

/-- `split_once` at a character. -/
def splitOnce (at_ : Char) (text : List Char) : Option (List Char × List Char) :=
  if at_ ∈ text then
    some (text.takeWhile (· ≠ at_), (text.dropWhile (· ≠ at_)).tail)
  else none

section Split

variable {c : Char} {text front back : List Char}

theorem splitOnce_append (h : c ∉ front) (back : List Char) :
    splitOnce c (front ++ c :: back) = some (front, back) := by
  have hall : ∀ d ∈ front, decide (d ≠ c) = true := fun d hd => by
    rw [decide_eq_true_eq]
    rintro rfl
    exact h hd
  unfold splitOnce
  rw [if_pos (List.mem_append_right _ List.mem_cons_self), takeWhile_append_all hall,
    dropWhile_append_all hall]
  simp

theorem splitOnce_none (h : c ∉ text) : splitOnce c text = none := if_neg h

/-- The text is what stands before the character, the character and what stands behind it. -/
theorem splitOnce_some (h : splitOnce c text = some (front, back)) :
    text = front ++ c :: back ∧ c ∉ front := by
  unfold splitOnce at h
  split at h
  · rename_i hmem
    obtain ⟨a, b, rfl, ha⟩ := List.eq_append_cons_of_mem hmem
    have hsplit := splitOnce_append ha b
    unfold splitOnce at hsplit
    rw [if_pos hmem, h] at hsplit
    cases hsplit
    exact ⟨rfl, ha⟩
  · cases h

/-- `splitn` at a character: at most `n` parts, the last with everything that is left. -/
def splitn : Nat → Char → List Char → List (List Char)
  | 0, _, _ => []
  | 1, _, text => [text]
  | n + 2, c, text =>
      match splitOnce c text with
      | none => [text]
      | some (front, back) => front :: splitn (n + 1) c back

theorem splitn_ne_nil (n : Nat) (c : Char) (text : List Char) : splitn (n + 1) c text ≠ [] := by
  cases n with
  | zero => exact List.cons_ne_nil _ _
  | succ n =>
      unfold splitn
      split
      · exact List.cons_ne_nil _ _
      · exact List.cons_ne_nil _ _

/-- The parts, joined, are the text. -/
theorem intercalate_splitn (n : Nat) (c : Char) (text : List Char) :
    List.intercalate [c] (splitn (n + 1) c text) = text := by
  induction n generalizing text with
  | zero => exact List.append_nil _
  | succ n ih =>
      unfold splitn
      split
      · exact List.append_nil _
      · rename_i front back h
        obtain ⟨part, parts, hparts⟩ := List.exists_cons_of_ne_nil (splitn_ne_nil n c back)
        have hback := ih back
        rw [hparts] at hback ⊢
        rw [(splitOnce_some h).1, ← hback]
        simp [List.intercalate, List.intersperse]

end Split

/-! ## 3. Lines -/

/-- What stands before each line feed, and what stands behind the last. -/
def cut : List Char → List (List Char) × List Char
  | [] => ([], [])
  | c :: text =>
      if c = '\n' then ([] :: (cut text).1, (cut text).2)
      else
        match cut text with
        | ([], rest) => ([], c :: rest)
        | (line :: lines, rest) => ((c :: line) :: lines, rest)

/-- `strip_suffix('\r')`, or the line. -/
def stripCr (line : List Char) : List Char :=
  if line.getLast? = some '\r' then line.dropLast else line

/-- `str::lines`: a carriage return is taken off before a line feed only. -/
def strLines (text : List Char) : List (List Char) :=
  (cut text).1.map stripCr ++ if (cut text).2 = [] then [] else [(cut text).2]

section Cut

variable {text rest line : List Char} {lines : List (List Char)}

theorem cut_line (h : '\n' ∉ line) (text : List Char) :
    cut (line ++ '\n' :: text) = (line :: (cut text).1, (cut text).2) := by
  induction line with
  | nil =>
      rw [List.nil_append, cut, if_pos rfl]
  | cons c line ih =>
      have hc : c ≠ '\n' := fun heq => h (heq ▸ List.mem_cons_self)
      rw [List.cons_append, cut, if_neg hc, ih fun hmem => h (List.mem_cons_of_mem _ hmem)]

theorem cut_rest (h : '\n' ∉ rest) : cut rest = ([], rest) := by
  induction rest with
  | nil => rfl
  | cons c rest ih =>
      have hc : c ≠ '\n' := fun heq => h (heq ▸ List.mem_cons_self)
      rw [cut, if_neg hc, ih fun hmem => h (List.mem_cons_of_mem _ hmem)]

/-- **What was written line by line is cut into these lines.** -/
theorem cut_written (hlines : ∀ line ∈ lines, '\n' ∉ line) (hrest : '\n' ∉ rest) :
    cut (lines.flatMap (· ++ ['\n']) ++ rest) = (lines, rest) := by
  induction lines with
  | nil => exact cut_rest hrest
  | cons line lines ih =>
      rw [List.flatMap_cons, List.append_assoc, List.append_assoc, List.singleton_append,
        cut_line (hlines line List.mem_cons_self),
        ih fun line hline => hlines line (List.mem_cons_of_mem _ hline)]

/-- A text is its lines and the rest, none of which has a line feed. -/
theorem cut_spec (text : List Char) :
    text = (cut text).1.flatMap (· ++ ['\n']) ++ (cut text).2 ∧
      (∀ line ∈ (cut text).1, '\n' ∉ line) ∧ '\n' ∉ (cut text).2 := by
  induction text with
  | nil => exact ⟨rfl, fun line h => absurd h List.not_mem_nil, List.not_mem_nil⟩
  | cons c text ih =>
      obtain ⟨htext, hlines, hrest⟩ := ih
      rw [cut]
      split
      · rename_i hc
        refine ⟨?_, fun line hline => ?_, hrest⟩
        · rw [List.flatMap_cons, hc, List.append_assoc, ← htext]
          rfl
        · rcases List.mem_cons.1 hline with rfl | hline
          · exact List.not_mem_nil
          · exact hlines line hline
      · rename_i hc
        cases hcut : cut text with
        | mk lines rest =>
            rw [hcut] at htext hlines hrest
            cases lines with
            | nil =>
                refine ⟨?_, hlines, ?_⟩
                · rw [htext]
                  rfl
                · intro hmem
                  rcases List.mem_cons.1 hmem with heq | hmem
                  · exact hc heq.symm
                  · exact hrest hmem
            | cons line lines =>
                refine ⟨?_, fun line' hline' => ?_, hrest⟩
                · rw [htext]
                  rfl
                · rcases List.mem_cons.1 hline' with rfl | hline'
                  · intro hmem
                    rcases List.mem_cons.1 hmem with heq | hmem
                    · exact hc heq.symm
                    · exact hlines line List.mem_cons_self hmem
                  · exact hlines line' (List.mem_cons_of_mem _ hline')

end Cut

/-! ## 4. Bytes -/

section Utf8

variable {b : UInt8} {c : Char} {text rest : List Char} {block more : List UInt8}

theorem utf8_ofList (text : List Char) :
    utf8 (String.ofList text) = text.flatMap String.utf8EncodeChar := by
  unfold utf8
  rw [String.toByteArray_ofList]
  exact List.toList_data_toByteArray

theorem utf8_of_utf8? {bytes : List UInt8} {text : String} (h : utf8? bytes = some text) :
    utf8 text = bytes := by
  unfold utf8? String.fromUTF8? at h
  split at h
  · cases h
    rfl
  · cases h

/-- A character is one byte, or bytes none of which is that of such a character. -/
theorem utf8EncodeChar_cases (c : Char) :
    (c.toNat < 128 ∧ String.utf8EncodeChar c = [UInt8.ofNat c.toNat]) ∨
      (128 ≤ c.toNat ∧ ∀ b ∈ String.utf8EncodeChar c, 128 ≤ b.toNat) := by
  have hbyte : ∀ n m : Nat, 0 < m → m ≤ 64 → ∀ base : Nat, 128 ≤ base → base + m ≤ 256 →
      128 ≤ (UInt8.ofNat (n % m + base)).toNat := by
    intro n m hm _ base hbase hsum
    have hmod := Nat.mod_lt n hm
    rw [UInt8.toNat_ofNat', Nat.mod_eq_of_lt (by omega)]
    omega
  have hnat : c.toNat = c.val.toNat := rfl
  fun_cases String.utf8EncodeChar c with
  | case1 v h => exact Or.inl ⟨by omega, rfl⟩
  | case2 v h h' =>
      refine Or.inr ⟨by omega, fun b hb => ?_⟩
      simp only [List.mem_cons, List.not_mem_nil, or_false] at hb
      rcases hb with rfl | rfl
      · exact hbyte _ _ (by omega) (by omega) _ (by omega) (by omega)
      · exact hbyte _ _ (by omega) (by omega) _ (by omega) (by omega)
  | case3 v h h' h'' =>
      refine Or.inr ⟨by omega, fun b hb => ?_⟩
      simp only [List.mem_cons, List.not_mem_nil, or_false] at hb
      rcases hb with rfl | rfl | rfl
      · exact hbyte _ _ (by omega) (by omega) _ (by omega) (by omega)
      · exact hbyte _ _ (by omega) (by omega) _ (by omega) (by omega)
      · exact hbyte _ _ (by omega) (by omega) _ (by omega) (by omega)
  | case4 v h h' h'' =>
      refine Or.inr ⟨by omega, fun b hb => ?_⟩
      simp only [List.mem_cons, List.not_mem_nil, or_false] at hb
      rcases hb with rfl | rfl | rfl | rfl
      · exact hbyte _ _ (by omega) (by omega) _ (by omega) (by omega)
      · exact hbyte _ _ (by omega) (by omega) _ (by omega) (by omega)
      · exact hbyte _ _ (by omega) (by omega) _ (by omega) (by omega)
      · exact hbyte _ _ (by omega) (by omega) _ (by omega) (by omega)

/-- The byte of an ASCII character is its own only. -/
theorem ascii_byte {a : Char} (ha : a.toNat < 128) (hc : c.toNat < 128) :
    UInt8.ofNat c.toNat = UInt8.ofNat a.toNat ↔ c = a := by
  refine ⟨fun h => ?_, fun h => by rw [h]⟩
  have hnat := congrArg UInt8.toNat h
  rw [UInt8.toNat_ofNat', UInt8.toNat_ofNat', Nat.mod_eq_of_lt (by omega),
    Nat.mod_eq_of_lt (by omega)] at hnat
  exact Char.toNat_inj.1 hnat

theorem not_byte {a : Char} (ha : a.toNat < 128) (h : ∀ b ∈ block, 128 ≤ b.toNat) :
    ∀ b ∈ block, b ≠ UInt8.ofNat a.toNat := by
  rintro b hb rfl
  have hge := h _ hb
  rw [UInt8.toNat_ofNat', Nat.mod_eq_of_lt (by omega)] at hge
  omega

/-- The byte of an ASCII character stands where the character does. -/
theorem byte_mem {a : Char} (ha : a.toNat < 128) (text : List Char) :
    UInt8.ofNat a.toNat ∈ utf8 (String.ofList text) ↔ a ∈ text := by
  rw [utf8_ofList, List.mem_flatMap]
  constructor
  · rintro ⟨c, hc, hb⟩
    rcases utf8EncodeChar_cases c with ⟨hlt, heq⟩ | ⟨-, hge⟩
    · rw [heq, List.mem_singleton] at hb
      rw [← (ascii_byte ha hlt).1 hb.symm]
      exact hc
    · exact absurd rfl (not_byte ha hge _ hb)
  · intro hmem
    rcases utf8EncodeChar_cases a with ⟨-, heq⟩ | ⟨hge, -⟩
    · exact ⟨_, hmem, by rw [heq, List.mem_singleton]⟩
    · omega

theorem pair_append_other (h : ∀ x ∈ block, x ≠ b) (more : List UInt8) :
    [b, b] <:+: block ++ more ↔ [b, b] <:+: more := by
  induction block with
  | nil => rfl
  | cons x block ih =>
      have hx : x ≠ b := h x List.mem_cons_self
      rw [List.cons_append, List.infix_cons_iff, ih fun y hy => h y (List.mem_cons_of_mem _ hy)]
      refine ⟨fun hor => hor.resolve_left fun hfront => ?_, Or.inr⟩
      obtain ⟨t, ht⟩ := hfront
      exact hx (List.cons.inj ht).1.symm

theorem byte_head {a : Char} (ha : a.toNat < 128) (text : List Char) :
    [UInt8.ofNat a.toNat] <+: text.flatMap String.utf8EncodeChar ↔ [a] <+: text := by
  cases text with
  | nil => simp
  | cons c text =>
      rw [List.flatMap_cons, List.cons_prefix_cons, and_iff_left List.nil_prefix]
      rcases utf8EncodeChar_cases c with ⟨hlt, heq⟩ | ⟨hge, hbytes⟩
      · rw [heq, List.singleton_append, List.cons_prefix_cons, and_iff_left List.nil_prefix,
          eq_comm, ascii_byte ha hlt, eq_comm]
      · cases hblock : String.utf8EncodeChar c with
        | nil => exact absurd hblock String.utf8EncodeChar_ne_nil
        | cons b block =>
            rw [List.cons_append, List.cons_prefix_cons, and_iff_left List.nil_prefix]
            refine ⟨fun h => ?_, fun h => ?_⟩
            · exact absurd h.symm (not_byte ha hbytes b (hblock ▸ List.mem_cons_self))
            · rw [h] at ha
              omega

/-- Two bytes of an ASCII character stand side by side where the characters do. -/
theorem byte_pair {a : Char} (ha : a.toNat < 128) (text : List Char) :
    [UInt8.ofNat a.toNat, UInt8.ofNat a.toNat] <:+: utf8 (String.ofList text) ↔
      [a, a] <:+: text := by
  rw [utf8_ofList]
  induction text with
  | nil => simp
  | cons c text ih =>
      rw [List.flatMap_cons]
      rcases utf8EncodeChar_cases c with ⟨hlt, heq⟩ | ⟨hge, hbytes⟩
      · rw [heq, List.singleton_append, List.infix_cons_iff, List.infix_cons_iff, ih,
          List.cons_prefix_cons, List.cons_prefix_cons, eq_comm (b := UInt8.ofNat c.toNat),
          ascii_byte ha hlt, eq_comm (b := c), byte_head ha]
      · have hne : a ≠ c := by
          rintro rfl
          omega
        rw [pair_append_other (not_byte ha hbytes), ih, List.infix_cons_iff, List.cons_prefix_cons]
        exact ⟨Or.inr, fun h => h.resolve_left fun hfront => hne hfront.1⟩

end Utf8

end MisterMagik.Base
