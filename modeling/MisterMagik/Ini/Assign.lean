/-
  File:      MisterMagik/Ini/Assign.lean
  Subject:   Setting one assignment of a document (`Document::set`).

  The value of the first active assignment is replaced between the white space before it and its
  comment, and the other active ones become comments; where there is none, the assignment is put
  behind the last block of its section, or behind a new header. What is written is read again with
  white space gone from the ends of lines, which no reader sees.

  * `Holds`, `replace_holds` -- a line whose value is replaced holds the value, once;
  * `set_lines` -- what `set` does to the lines;
  * `assignmentHolds_set` -- what holds of a document after `set`, and of what is read from it;
  * `set_contract` -- both, for a document that was read.
-/
import Mathlib.Data.List.Forall2
import MisterMagik.Ini.Render
import MisterMagik.Ini.Sections

namespace MisterMagik.Ini

open MisterMagik.Base

/-! ## 1. Active lines -/

/-- What `set` is called with. -/
structure WellFormed (section_ key value : Line) : Prop where
  sectionTrimmed : trim section_ = section_
  keyTrimmed : trim key = key
  valueTrimmed : trim value = value
  sectionLine : '\n' ∉ section_
  keyLine : '\n' ∉ key
  valueLine : '\n' ∉ value
  sectionEnd : ']' ∉ section_
  keyEq : '=' ∉ key
  keyStart : ∀ c, key.head? = some c → c ≠ ';' ∧ c ≠ '#' ∧ c ≠ '['
  valueComment : ∀ c ∈ value, isCommentStart c = false

/-- White space, a name and `=`. -/
structure NameSplit (line pad name rest : Line) : Prop where
  split : line = pad ++ (name ++ '=' :: rest)
  blank : Blank pad
  noEq : '=' ∉ name
  head : ∀ c, name.head? = some c → isWhitespace c = false ∧ c ≠ ';' ∧ c ≠ '#'

section Lines

variable {line line' pad name rest key other value : Line}

theorem isWhitespace_eq : isWhitespace '=' = false := by decide

theorem not_whitespace_commentStart {c : Char} (h : isCommentStart c = true) :
    isWhitespace c = false := by
  unfold isCommentStart at h
  rw [Bool.or_eq_true, decide_eq_true_eq, decide_eq_true_eq] at h
  rcases h with rfl | rfl
  · decide
  · decide

theorem blank_no_comment (h : Blank pad) : ∀ c ∈ pad, isCommentStart c = false := by
  intro c hc
  by_contra hne
  have hspace := not_whitespace_commentStart (Bool.of_not_eq_false hne)
  rw [h c hc] at hspace
  cases hspace

theorem blank_no_eq (h : Blank pad) : '=' ∉ pad := fun hmem => by
  have hspace := h '=' hmem
  rw [isWhitespace_eq] at hspace
  cases hspace

theorem NameSplit.trimStart (h : NameSplit line pad name rest) :
    Base.trimStart line = name ++ '=' :: rest := by
  rw [h.split, trimStart_append_blank h.blank]
  cases hname : name with
  | nil => exact trimStart_of_head isWhitespace_eq
  | cons c name => exact trimStart_of_head (h.head c (by rw [hname]; rfl)).1

theorem NameSplit.splitOnce (h : NameSplit line pad name rest) :
    Base.splitOnce '=' line = some (pad ++ name, rest) := by
  have hfront : '=' ∉ pad ++ name := fun hmem =>
    (List.mem_append.1 hmem).elim (blank_no_eq h.blank) h.noEq
  rw [h.split, ← List.append_assoc]
  exact splitOnce_append hfront rest

/-- The first character of a name, or the `=` behind none. -/
theorem NameSplit.first (h : NameSplit line pad name rest) {c : Char}
    (hc : (name ++ '=' :: rest).head? = some c) :
    isWhitespace c = false ∧ c ≠ ';' ∧ c ≠ '#' := by
  cases hname : name with
  | nil =>
      rw [hname] at hc
      cases hc
      exact ⟨by decide, by decide, by decide⟩
  | cons d name =>
      rw [hname] at hc
      cases hc
      exact h.head _ (by rw [hname]; rfl)

theorem NameSplit.no_comment (h : NameSplit line pad name rest) :
    (Base.trimStart line).head? ≠ some ';' ∧ (Base.trimStart line).head? ≠ some '#' := by
  rw [h.trimStart]
  exact ⟨fun hsemi => (h.first hsemi).2.1 rfl, fun hhash => (h.first hhash).2.2 rfl⟩

/-- **A line is active for a key when its name is the key.** -/
theorem activeKeyEq_split (h : NameSplit line pad name rest) :
    activeKeyEq line key = eqIgnoreAsciiCase (trim name) key := by
  have hcomment := h.no_comment
  unfold activeKeyEq
  rw [h.trimStart] at hcomment ⊢
  dsimp only
  rw [if_neg, splitOnce_append h.noEq]
  · rfl
  · rintro (hnil | hsemi | hhash)
    · exact absurd hnil (by simp)
    · exact hcomment.1 hsemi
    · exact hcomment.2 hhash

theorem nameSplit_of_active (h : activeKeyEq line key = true) :
    ∃ pad name rest, NameSplit line pad name rest := by
  unfold activeKeyEq at h
  dsimp only at h
  split at h
  · cases h
  · rename_i hcomment
    rw [Option.any_eq_true] at h
    obtain ⟨⟨name, rest⟩, hsplit, -⟩ := h
    obtain ⟨htrim, hname⟩ := splitOnce_some hsplit
    refine
      ⟨line.takeWhile isWhitespace, name, rest, ?_, blank_takeWhile line, hname, fun c hc => ?_⟩
    · rw [← htrim]
      exact trimStart_split line
    · have hhead : (trimStart line).head? = some c := by
        rw [htrim, List.head?_append, hc]
        rfl
      rw [not_or, not_or, hhead] at hcomment
      exact ⟨head_trimStart hhead, fun heq => hcomment.2.1 (by rw [heq]),
        fun heq => hcomment.2.2 (by rw [heq])⟩

/-- A line is active for one key only. -/
theorem activeKeyEq_unique (h : activeKeyEq line key = true) (h' : activeKeyEq line other = true) :
    eqIgnoreAsciiCase key other = true := by
  obtain ⟨pad, name, rest, hsplit⟩ := nameSplit_of_active h
  rw [activeKeyEq_split hsplit] at h h'
  rw [eqIgnoreAsciiCase_congr ((eqIgnoreAsciiCase_comm key (trim name)).trans h)]
  exact h'

theorem toLower_bracket {c : Char} (h : c.toLower = '[') : c = '[' := by
  unfold Char.toLower at h
  split at h
  · rename_i hup
    have hnat := congrArg Char.toNat h
    have hlow : 65 ≤ c.val.toNat := hup.1
    have hhigh : c.val.toNat ≤ 90 := hup.2
    have hsum : (c.val + ('a'.val - 'A'.val)).toNat = 91 := hnat
    have hdiff : ('a'.val - 'A'.val).toNat = 32 := rfl
    rw [UInt32.toNat_add, hdiff, Nat.mod_eq_of_lt (by omega)] at hsum
    omega
  · exact h

/-- A line whose name is a key is no header. -/
theorem sectionName_split (h : NameSplit line pad name rest)
    (hkey : eqIgnoreAsciiCase (trim name) key = true) (hstart : ∀ c, key.head? = some c → c ≠ '[') :
    sectionName line = none := by
  have hhead : ∀ c, (name ++ '=' :: rest).head? = some c → isWhitespace c = false ∧ c ≠ '[' := by
    intro c hc
    cases hname : name with
    | nil =>
        rw [hname] at hc
        cases hc
        exact ⟨by decide, by decide⟩
    | cons d tail =>
        rw [hname] at hc
        cases hc
        have hspace := (h.head c (by rw [hname]; rfl)).1
        refine ⟨hspace, fun hbracket => ?_⟩
        -- the key would begin with the bracket, too
        have hfirst := head_trim hspace tail
        rw [hname, eqIgnoreAsciiCase_iff] at hkey
        have hmap := congrArg List.head? hkey
        rw [List.head?_map, List.head?_map, hfirst, hbracket] at hmap
        obtain ⟨e, he, hlow⟩ := Option.map_eq_some_iff.1 hmap.symm
        exact hstart e he (toLower_bracket hlow)
  have htrim : (trim line).head? ≠ some '[' := by
    unfold trim
    rw [h.trimStart]
    obtain ⟨c, tail, hc⟩ : ∃ c tail, name ++ '=' :: rest = c :: tail :=
      List.exists_cons_of_ne_nil (by simp)
    obtain ⟨hspace, hbracket⟩ := hhead c (by rw [hc]; rfl)
    rw [hc]
    have hfirst := head_trim hspace tail
    unfold trim at hfirst
    rw [trimStart_of_head hspace] at hfirst
    rw [hfirst]
    exact fun heq => hbracket (Option.some.inj heq)
  unfold sectionName
  exact if_pos (Or.inr (Or.inr htrim))

end Lines

/-! ## 2. Values -/

/-- What may stand behind a value. -/
inductive Comment : Line → Prop
  | none : Comment []
  | some {pad rest : Line} {c : Char} : Blank pad → isCommentStart c = true →
      Comment (pad ++ c :: rest)

/-- A line whose value is replaced by the same value as it stands. -/
structure Holds (line front pad value comment : Line) : Prop where
  split : line = front ++ '=' :: (pad ++ (value ++ comment))
  noEq : '=' ∉ front
  blank : Blank pad
  comment : Comment comment

section Values

variable {line line' front pad name rest key value comment : Line}

/-- A comment is found with the white space before it. -/
theorem trailingComment_split {before back : Line} {c : Char}
    (hbefore : ∀ d ∈ before, isCommentStart d = false) (hc : isCommentStart c = true) :
    ∃ pad, trailingComment (before ++ c :: back) = pad ++ c :: back ∧ Blank pad := by
  have hall : ∀ d ∈ before, (!isCommentStart d) = true := fun d hd => by rw [hbefore d hd]; rfl
  have htake : (before ++ c :: back).takeWhile (fun d => !isCommentStart d) = before := by
    rw [takeWhile_append_all hall, List.takeWhile_cons_of_neg (by rw [hc]; decide),
      List.append_nil]
  obtain ⟨pad, hsplit, hblank⟩ := trimEnd_split before
  refine ⟨pad, ?_, hblank⟩
  unfold trailingComment
  rw [if_pos (List.any_eq_true.2 ⟨c, List.mem_append_right _ List.mem_cons_self, hc⟩)]
  dsimp only
  rw [htake]
  conv => lhs; arg 2; rw [hsplit]
  rw [List.append_assoc, List.drop_left]

theorem trailingComment_none {after : Line} (h : ∀ c ∈ after, isCommentStart c = false) :
    trailingComment after = [] := by
  unfold trailingComment
  refine if_neg fun hany => ?_
  obtain ⟨c, hc, hstart⟩ := List.any_eq_true.1 hany
  rw [h c hc] at hstart
  cases hstart

theorem comment_trailing (after : Line) : Comment (trailingComment after) := by
  by_cases hany : ∃ c ∈ after, isCommentStart c = true
  · obtain ⟨before, c, back, rfl, hbefore, hc⟩ := exists_first hany
    obtain ⟨pad, hsplit, hblank⟩ := @trailingComment_split _ back _ hbefore hc
    rw [hsplit]
    exact .some hblank hc
  · rw [trailingComment_none fun c hc => Bool.eq_false_iff.2 fun hstart => hany ⟨c, hc, hstart⟩]
    exact .none

theorem replace_split (h : splitOnce '=' line = some (front, rest)) :
    replaceAssignmentValue line value =
      front ++ '=' ::
        (rest.takeWhile isWhitespace ++ (value ++ trailingComment (trimStart rest))) := by
  unfold replaceAssignmentValue
  rw [h]
  simp only [List.append_assoc, List.cons_append]

/-- **A line whose value is replaced holds the value.** -/
theorem holds_replace (h : splitOnce '=' line = some (front, rest)) :
    Holds (replaceAssignmentValue line value) front (rest.takeWhile isWhitespace) value
      (trailingComment (trimStart rest)) :=
  ⟨replace_split h, (splitOnce_some h).2, blank_takeWhile rest, comment_trailing _⟩

theorem takeWhile_comment (hvalue : ∀ c ∈ value, isCommentStart c = false)
    (hcomment : Comment comment) :
    ∃ pad, (value ++ comment).takeWhile (fun c => !isCommentStart c) = value ++ pad ∧
      Blank pad := by
  have hall : ∀ c ∈ value, (!isCommentStart c) = true := fun c hc => by rw [hvalue c hc]; rfl
  rw [takeWhile_append_all hall]
  cases hcomment with
  | none => exact ⟨[], rfl, blank_nil⟩
  | @some pad rest c hblank hc =>
      refine ⟨pad, ?_, hblank⟩
      rw [takeWhile_append_all fun d hd => by rw [blank_no_comment hblank d hd]; rfl,
        List.takeWhile_cons_of_neg (by rw [hc]; decide), List.append_nil]

/-- **The value a line holds is the value it assigns.** -/
theorem assignmentValue_holds (h : Holds line front pad value comment) (htrim : trim value = value)
    (hvalue : ∀ c ∈ value, isCommentStart c = false) : assignmentValue line = some value := by
  obtain ⟨back, hback, hblank⟩ := takeWhile_comment hvalue h.comment
  have hall : ∀ c ∈ pad, (!isCommentStart c) = true := fun c hc => by
    rw [blank_no_comment h.blank c hc]
    rfl
  unfold assignmentValue
  rw [h.split, splitOnce_append h.noEq, Option.map_some, takeWhile_append_all hall, hback,
    ← List.append_assoc, trim_pad h.blank hblank htrim]

theorem trimmed_head (htrim : trim value = value) {c : Char} (hc : value.head? = some c) :
    isWhitespace c = false := by
  have hstart := (trimmed_iff.1 htrim).1
  have hself : (trimStart value).head? = some c := by
    rw [hstart]
    exact hc
  exact head_trimStart hself

/-- The comment behind a value is found with the white space before it. -/
theorem trailingComment_append (hend : trimEnd value = value)
    (hvalue : ∀ c ∈ value, isCommentStart c = false) (h : Comment comment) :
    trailingComment (value ++ comment) = comment := by
  obtain ⟨back, hback, hblank⟩ := takeWhile_comment hvalue h
  unfold trailingComment
  rw [hback]
  dsimp only
  rw [trimEnd_append_blank hblank, hend, List.drop_left]
  cases h with
  | none =>
      split
      · rfl
      · rfl
  | some hpad hc =>
      rw [if_pos]
      rw [List.any_eq_true]
      exact ⟨_, List.mem_append_right _ (List.mem_append_right _ List.mem_cons_self), hc⟩

/-- **A line that holds a value stays as it is when the value is set again.** -/
theorem replace_holds (h : Holds line front pad value comment) (htrim : trim value = value)
    (hvalue : ∀ c ∈ value, isCommentStart c = false) :
    replaceAssignmentValue line value = line := by
  have hsplit : splitOnce '=' line = some (front, pad ++ (value ++ comment)) := by
    rw [h.split]
    exact splitOnce_append h.noEq _
  have hend := (trimmed_iff.1 htrim).2
  rw [replace_split hsplit, takeWhile_append_all h.blank, trimStart_append_blank h.blank]
  conv => rhs; rw [h.split]
  have hrest : (value ++ comment).takeWhile isWhitespace ++
      (value ++ trailingComment (trimStart (value ++ comment))) = value ++ comment := by
    cases hcase : value with
    | cons c tail =>
        have hspace := trimmed_head htrim (c := c) (by rw [hcase]; rfl)
        rw [List.cons_append, List.takeWhile_cons_of_neg (by rw [hspace]; decide),
          trimStart_of_head hspace, List.nil_append, ← List.cons_append, ← hcase,
          trailingComment_append hend hvalue h.comment]
    | nil =>
        -- the white space before the comment is taken for that before the value
        have hcomment := h.comment
        cases hcomment with
        | none => rfl
        | @some pad' tail c hpad' hc =>
            have hspace := not_whitespace_commentStart hc
            have hself := @trailingComment_append [] ([] ++ c :: tail) rfl
              (fun d hd => absurd hd List.not_mem_nil) (.some blank_nil hc)
            rw [List.nil_append, List.nil_append, takeWhile_append_all hpad',
              List.takeWhile_cons_of_neg (by rw [hspace]; decide), List.append_nil,
              trimStart_append_blank hpad', trimStart_of_head hspace]
            exact congrArg (pad' ++ ·) hself
  rw [List.append_assoc, hrest]

end Values

/-! ## 3. What the loops do -/

/-- Lines whose active assignments are made comments. -/
def commentAll (section_ key : Line) : Line → List Line → List Line
  | _, [] => []
  | current, line :: lines =>
      match sectionName line with
      | some name => line :: commentAll section_ key name lines
      | none =>
          (if eqIgnoreAsciiCase current section_ && activeKeyEq line key then ';' :: line
            else line) :: commentAll section_ key current lines

section Loops

variable {section_ key current name line other otherKey : Line} {lines rest : List Line}
  {index firstIndex : Nat}

theorem commentAll_header (h : sectionName line = some name) :
    commentAll section_ key current (line :: lines) =
      line :: commentAll section_ key name lines := by
  rw [commentAll, h]

theorem commentAll_cons (h : sectionName line = none) :
    commentAll section_ key current (line :: lines) =
      (if eqIgnoreAsciiCase current section_ && activeKeyEq line key then ';' :: line else line) ::
        commentAll section_ key current lines := by
  rw [commentAll, h]

theorem sectionName_comment (line : Line) : sectionName (';' :: line) = none := by
  have hhead := head_trim (c := ';') (by decide) line
  unfold sectionName
  exact if_pos (Or.inl hhead)

theorem activeKeyEq_comment (line key : Line) : activeKeyEq (';' :: line) key = false := by
  unfold activeKeyEq
  rw [trimStart_of_head (by decide)]
  exact if_pos (Or.inr (Or.inl rfl))

/-- What is made a comment is assigned no more. -/
theorem assigned_commentAll (current : Line) (lines : List Line) :
    assigned section_ key current (commentAll section_ key current lines) = [] := by
  induction lines generalizing current with
  | nil => rfl
  | cons line lines ih =>
      cases h : sectionName line with
      | some name => rw [commentAll_header h, assigned_header h, ih]
      | none =>
          rw [commentAll_cons h]
          split
          · rw [assigned_cons (sectionName_comment line), activeKeyEq_comment, Bool.and_false, ih]
            rfl
          · rename_i hactive
            rw [assigned_cons h, if_neg hactive, ih]
            rfl

/-- An assignment of another section or key. -/
def Other (section_ key other otherKey : Line) : Prop :=
  ¬ (eqIgnoreAsciiCase other section_ = true ∧ eqIgnoreAsciiCase otherKey key = true)

/-- What is active for one section and key is active for no other. -/
theorem not_active_other (h : Other section_ key other otherKey)
    (hactive : (eqIgnoreAsciiCase current section_ && activeKeyEq line key) = true) :
    (eqIgnoreAsciiCase current other && activeKeyEq line otherKey) = false := by
  rw [Bool.and_eq_true] at hactive
  by_contra hne
  have hboth := Bool.of_not_eq_false hne
  rw [Bool.and_eq_true] at hboth
  refine h ⟨?_, activeKeyEq_unique hboth.2 hactive.2⟩
  rw [eqIgnoreAsciiCase_congr ((eqIgnoreAsciiCase_comm other current).trans hboth.1)]
  exact hactive.1

theorem assigned_commentAll_other (h : Other section_ key other otherKey) (current : Line)
    (lines : List Line) :
    assigned other otherKey current (commentAll section_ key current lines) =
      assigned other otherKey current lines := by
  induction lines generalizing current with
  | nil => rfl
  | cons line lines ih =>
      cases hname : sectionName line with
      | some name => rw [commentAll_header hname, assigned_header hname, assigned_header hname, ih]
      | none =>
          rw [commentAll_cons hname]
          split
          · rename_i hactive
            rw [assigned_cons (sectionName_comment line), activeKeyEq_comment, Bool.and_false, ih,
              assigned_cons hname, not_active_other h hactive]
            rfl
          · rw [assigned_cons hname, assigned_cons hname, ih]

/-- Where nothing is assigned nothing is made a comment. -/
theorem commentAll_of_nil (h : assigned section_ key current lines = []) :
    commentAll section_ key current lines = lines := by
  induction lines generalizing current with
  | nil => rfl
  | cons line lines ih =>
      cases hname : sectionName line with
      | some name =>
          rw [assigned_header hname] at h
          rw [commentAll_header hname, ih h]
      | none =>
          rw [assigned_cons hname, List.append_eq_nil_iff] at h
          rw [commentAll_cons hname, ih h.2]
          split
          · rename_i hactive
            rw [if_pos hactive] at h
            cases h.1
          · rfl

theorem commentOthers_after (h : firstIndex < index) (current : Line) (lines : List Line) :
    Document.commentOthers section_ key firstIndex index current lines =
      commentAll section_ key current lines := by
  induction lines generalizing index current with
  | nil => rfl
  | cons line lines ih =>
      rw [Document.commentOthers]
      cases hname : sectionName line with
      | some name =>
          dsimp only
          rw [commentAll_header hname, ih (by omega)]
      | none =>
          have hne : index ≠ firstIndex := by omega
          rw [commentAll_cons hname, ih (by omega)]
          simp only [ne_eq, hne, not_false_eq_true, true_and, Bool.and_eq_true]

theorem commentOthers_before (hnil : assigned section_ key current lines = [])
    (h : index + lines.length ≤ firstIndex) (rest : List Line) :
    Document.commentOthers section_ key firstIndex index current (lines ++ rest) =
      lines ++ Document.commentOthers section_ key firstIndex (index + lines.length)
        (sectionAfter current lines) rest := by
  induction lines generalizing index current with
  | nil => rfl
  | cons line lines ih =>
      rw [List.length_cons] at h ⊢
      rw [List.cons_append, Document.commentOthers]
      have hindex : index + (lines.length + 1) = index + 1 + lines.length := by omega
      cases hname : sectionName line with
      | some name =>
          rw [assigned_header hname] at hnil
          dsimp only
          rw [ih hnil (by omega), sectionAfter_header hname, hindex]
          rfl
      | none =>
          rw [assigned_cons hname, List.append_eq_nil_iff] at hnil
          dsimp only
          rw [ih hnil.2 (by omega), sectionAfter_cons hname, hindex, if_neg]
          · rfl
          · rintro ⟨-, hsection, hactive⟩
            rw [hsection, hactive] at hnil
            cases hnil.1

end Loops

/-- The first active assignment of a section and a key. -/
inductive FirstActive (section_ key : Line) : List Line → Nat → Prop
  | mk {front back : List Line} {line : Line} : assigned section_ key [] front = [] →
      sectionName line = none →
      (eqIgnoreAsciiCase (sectionAfter [] front) section_ && activeKeyEq line key) = true →
      FirstActive section_ key (front ++ line :: back) front.length

/-- A header behind a block of a section. -/
inductive EndsBlock (section_ : Line) : List Line → Nat → Prop
  | mk {front back : List Line} {header : Line} : isHeader header = true →
      eqIgnoreAsciiCase (sectionAfter [] front) section_ = true →
      EndsBlock section_ (front ++ header :: back) front.length

/-- What the first loop knows of the lines behind it. -/
structure Scanned (section_ key : Line) (lines : List Line) (s : Document.Scan) : Prop where
  current : s.current = sectionAfter [] lines
  first : (s.first = none ∧ assigned section_ key [] lines = []) ∨
    ∃ index, s.first = some index ∧ FirstActive section_ key lines index
  saw : s.sawSection = (section_.isEmpty || lines.any (isHeaderOf section_))
  insert : (∃ index, s.insertAt = some index ∧ EndsBlock section_ lines index) ∨
    (s.insertAt = none ∧ (s.sawSection = true → eqIgnoreAsciiCase s.current section_ = true))

section Scans

variable {section_ key line : Line} {lines : List Line} {s : Document.Scan}

theorem FirstActive.append {index : Nat} (h : FirstActive section_ key lines index)
    (more : List Line) : FirstActive section_ key (lines ++ more) index := by
  cases h with
  | mk hnil hname hactive =>
      rw [List.append_assoc, List.cons_append]
      exact .mk hnil hname hactive

theorem EndsBlock.append {index : Nat} (h : EndsBlock section_ lines index) (more : List Line) :
    EndsBlock section_ (lines ++ more) index := by
  cases h with
  | mk hheader hin =>
      rw [List.append_assoc, List.cons_append]
      exact .mk hheader hin

theorem scanned_header (h : Scanned section_ key lines s) {name : Line}
    (hname : sectionName line = some name) :
    Scanned section_ key (lines ++ [line]) (s.next section_ key (line, lines.length)) := by
  obtain ⟨hcurrent, hfirst, hsaw, hinsert⟩ := h
  have hafter := sectionAfter_append [] lines [line]
  have hassigned := @assigned_append section_ key [] lines [line]
  have hheader : isHeaderOf section_ line = eqIgnoreAsciiCase name section_ := by
    unfold isHeaderOf
    rw [hname]
    rfl
  rw [sectionAfter_header hname] at hafter
  rw [assigned_header hname] at hassigned
  unfold Document.Scan.next
  rw [hname]
  refine ⟨hafter.symm, ?_, ?_, ?_⟩
  · rcases hfirst with ⟨hnone, hnil⟩ | ⟨index, hsome, hfound⟩
    · exact Or.inl ⟨hnone, by rw [hassigned, hnil]; rfl⟩
    · exact Or.inr ⟨index, hsome, hfound.append _⟩
  · dsimp only
    rw [hsaw, List.any_append, List.any_cons, List.any_nil, hheader, Bool.or_false, Bool.or_assoc]
  · dsimp only
    by_cases hin : eqIgnoreAsciiCase s.current section_ = true
    · rw [if_pos hin]
      exact Or.inl ⟨lines.length, rfl, .mk (isHeader_iff.2 ⟨name, hname⟩) (hcurrent ▸ hin)⟩
    · rw [if_neg hin]
      rcases hinsert with ⟨index, hsome, hplace⟩ | ⟨hnone, hin'⟩
      · exact Or.inl ⟨index, hsome, hplace.append _⟩
      · refine Or.inr ⟨hnone, fun hor => ?_⟩
        rw [Bool.or_eq_true] at hor
        exact hor.resolve_left fun hsaw' => hin (hin' hsaw')

theorem scanned_line (h : Scanned section_ key lines s) (hname : sectionName line = none) :
    Scanned section_ key (lines ++ [line]) (s.next section_ key (line, lines.length)) := by
  obtain ⟨hcurrent, hfirst, hsaw, hinsert⟩ := h
  have hafter := sectionAfter_append [] lines [line]
  have hassigned := @assigned_append section_ key [] lines [line]
  have hheader : isHeaderOf section_ line = false := by
    unfold isHeaderOf
    rw [hname]
    rfl
  rw [sectionAfter_cons hname] at hafter
  rw [assigned_cons hname] at hassigned
  have hcurrent' : s.current = sectionAfter [] (lines ++ [line]) := hcurrent.trans hafter.symm
  have hsaw' : s.sawSection =
      (section_.isEmpty || (lines ++ [line]).any (isHeaderOf section_)) := by
    rw [hsaw, List.any_append, List.any_cons, List.any_nil, hheader, Bool.or_false, Bool.or_false]
  have hinsert' := hinsert.imp_left fun ⟨index, hsome, hplace⟩ =>
    (⟨index, hsome, hplace.append [line]⟩ : ∃ index, s.insertAt = some index ∧
      EndsBlock section_ (lines ++ [line]) index)
  unfold Document.Scan.next
  rw [hname]
  dsimp only
  split
  · rename_i hactive
    rw [hcurrent] at hactive
    refine ⟨hcurrent', Or.inr ?_, hsaw', hinsert'⟩
    dsimp only
    rcases hfirst with ⟨hnone, hnil⟩ | ⟨index, hsome, hfound⟩
    · rw [hnone]
      exact ⟨lines.length, rfl, .mk hnil hname hactive⟩
    · rw [hsome]
      exact ⟨index, rfl, hfound.append _⟩
  · rename_i hactive
    rw [hcurrent] at hactive
    refine ⟨hcurrent', ?_, hsaw', hinsert'⟩
    rcases hfirst with ⟨hnone, hnil⟩ | ⟨index, hsome, hfound⟩
    · refine Or.inl ⟨hnone, ?_⟩
      rw [hassigned, hnil, if_neg hactive]
      rfl
    · exact Or.inr ⟨index, hsome, hfound.append _⟩

theorem scanned (section_ key : Line) (lines : List Line) :
    Scanned section_ key lines (Document.scan section_ key lines) := by
  unfold Document.scan
  induction lines using List.reverseRecOn with
  | nil =>
      refine ⟨rfl, Or.inl ⟨rfl, rfl⟩, ?_, Or.inr ⟨rfl, fun hempty => ?_⟩⟩
      · exact (Bool.or_false _).symm
      · rw [List.isEmpty_iff.1 hempty]
        rfl
  | append_singleton lines line ih =>
      rw [List.zipIdx_append, List.foldl_append]
      rw [Nat.zero_add]
      cases hname : sectionName line with
      | some name => exact scanned_header ih hname
      | none => exact scanned_line ih hname

/-- What `set` makes of the lines of a document. -/
inductive SetLines (section_ key value : Line) : List Line → List Line → Prop
  | replaced {front back : List Line} {line : Line} : assigned section_ key [] front = [] →
      sectionName line = none →
      (eqIgnoreAsciiCase (sectionAfter [] front) section_ && activeKeyEq line key) = true →
      SetLines section_ key value (front ++ line :: back)
        (front ++ replaceAssignmentValue line value ::
          commentAll section_ key (sectionAfter [] front) back)
  | inserted {front back : List Line} : assigned section_ key [] (front ++ back) = [] →
      Headed back → eqIgnoreAsciiCase (sectionAfter [] front) section_ = true →
      SetLines section_ key value (front ++ back) (front ++ (key ++ '=' :: value) :: back)
  | appended {lines : List Line} : section_ ≠ [] →
      (∀ line ∈ lines, ¬ isHeaderOf section_ line = true) →
      SetLines section_ key value lines
        (Document.appendSection lines section_ (key ++ '=' :: value))

theorem insertIdx_front (front rest : List Line) (line : Line) :
    (front ++ rest).insertIdx front.length line = front ++ line :: rest := by
  induction front with
  | nil => rfl
  | cons first front ih =>
      rw [List.cons_append, List.length_cons, List.insertIdx_succ_cons, ih]
      rfl

theorem modify_front (front rest : List Line) (line : Line) (f : Line → Line) :
    (front ++ line :: rest).modify front.length f = front ++ f line :: rest := by
  induction front with
  | nil => rfl
  | cons first front ih =>
      rw [List.cons_append, List.length_cons, List.modify_succ_cons, ih]
      rfl

/-- **`set` replaces the first assignment, or inserts one behind a block, or appends a section.** -/
theorem setLines_spec (lines : List Line) (section_ key value : Line)
    (hplain : ∀ line : Line, activeKeyEq line key = true →
      sectionName (replaceAssignmentValue line value) = none) :
    SetLines section_ key value lines (Document.setLines lines section_ key value) := by
  obtain ⟨hcurrent, hfirst, hsaw, hinsert⟩ := scanned section_ key lines
  unfold Document.setLines
  rcases hfirst with ⟨hnone, hnil⟩ | ⟨index, hsome, hfound⟩
  · rw [hnone]
    dsimp only
    split
    · rename_i hsaw'
      unfold Document.insertionPoint
      by_cases hin : eqIgnoreAsciiCase (Document.scan section_ key lines).current section_ = true
      · have hend : SetLines section_ key value (lines ++ [])
            (lines ++ (key ++ '=' :: value) :: []) :=
          .inserted (by rw [List.append_nil]; exact hnil) headed_nil (hcurrent ▸ hin)
        rw [List.append_nil] at hend
        rw [if_pos hin, Option.getD_some, List.insertIdx_length_self]
        exact hend
      · rw [if_neg hin]
        rcases hinsert with ⟨index, hsome, hplace⟩ | ⟨-, hin'⟩
        · rw [hsome, Option.getD_some]
          cases hplace with
          | mk hheader hsection =>
              rw [insertIdx_front]
              exact .inserted hnil (headed_cons hheader _) hsection
        · exact absurd (hin' hsaw') hin
    · rename_i hsaw'
      refine .appended ?_ ?_
      · rintro rfl
        rw [hsaw] at hsaw'
        exact hsaw' rfl
      · intro line hline hof
        rw [hsaw, Bool.or_eq_true, not_or] at hsaw'
        exact hsaw'.2 (List.any_eq_true.2 ⟨line, hline, hof⟩)
  · rw [hsome]
    dsimp only
    cases hfound with
    | @mk front back line hnil hname hactive =>
        have hkey := hplain line (Bool.and_eq_true_iff.1 hactive).2
        rw [modify_front, commentOthers_before hnil (by omega), Document.commentOthers, hkey,
          Nat.zero_add]
        dsimp only
        rw [if_neg fun h => h.1 rfl, commentOthers_after (by omega)]
        exact .replaced hnil hname hactive

end Scans

/-! ## 4. Comments -/

def isAssignment (line : Line) : Bool :=
  (sectionName line).isNone && (trimStart line).head? ≠ some ';' &&
    (trimStart line).head? ≠ some '#'

/-- The comment of a line: of an assignment what follows its value, else what begins anywhere. -/
def commentText (line : Line) : Line :=
  match if isAssignment line then splitOnce '=' line else none with
  | some (_, rest) => trimEnd (rest.dropWhile fun c => !isCommentStart c)
  | none => trimEnd (line.dropWhile fun c => !isCommentStart c)

/-- The comments there are. -/
def comments (lines : List Line) : List Line := (lines.map commentText).filter (· ≠ [])

/-- Every comment ends a line of its own, in the same order. -/
def KeepsComments (lines lines' : List Line) : Prop :=
  List.SublistForall₂ (fun comment line => comment <:+ trimEnd line) (comments lines) lines'

section Comments

variable {section_ key value line line' front rest : Line} {lines lines' : List Line}

theorem commentText_suffix (line : Line) : commentText line <:+ trimEnd line := by
  unfold commentText
  split
  · rename_i hsplit
    split at hsplit
    · obtain ⟨hline, -⟩ := splitOnce_some hsplit
      refine trimEnd_suffix ((List.dropWhile_suffix _).trans ?_)
      conv => rhs; rw [hline]
      exact (List.suffix_cons _ _).trans (List.suffix_append _ _)
    · cases hsplit
  · exact trimEnd_suffix (List.dropWhile_suffix _)

theorem keepsComments_cons (hline : commentText line <:+ trimEnd line')
    (h : KeepsComments lines lines') : KeepsComments (line :: lines) (line' :: lines') := by
  unfold KeepsComments comments at h ⊢
  rw [List.map_cons, List.filter_cons]
  split
  · exact .cons hline h
  · exact .cons_right h

theorem keepsComments_refl (lines : List Line) : KeepsComments lines lines := by
  induction lines with
  | nil => exact .nil
  | cons line lines ih => exact keepsComments_cons (commentText_suffix line) ih

theorem keepsComments_front (front : List Line) (h : KeepsComments lines lines') :
    KeepsComments (front ++ lines) (front ++ lines') := by
  induction front with
  | nil => exact h
  | cons line front ih => exact keepsComments_cons (commentText_suffix line) ih

theorem keepsComments_more (lines more : List Line) : KeepsComments lines (lines ++ more) := by
  have h := @keepsComments_front [] more lines .nil
  rw [List.append_nil] at h
  exact h

theorem keepsComments_commentAll (section_ key current : Line) (lines : List Line) :
    KeepsComments lines (commentAll section_ key current lines) := by
  induction lines generalizing current with
  | nil => exact .nil
  | cons line lines ih =>
      cases hname : sectionName line with
      | some name =>
          rw [commentAll_header hname]
          exact keepsComments_cons (commentText_suffix line) (ih name)
      | none =>
          rw [commentAll_cons hname]
          refine keepsComments_cons ?_ (ih current)
          split
          · exact (commentText_suffix line).trans (trimEnd_suffix (List.suffix_cons ';' line))
          · exact commentText_suffix line

/-- The comment of an assignment is kept when its value is replaced. -/
theorem comment_trailing_suffix (rest : Line) :
    (rest.dropWhile fun c => !isCommentStart c) <:+ trailingComment (trimStart rest) := by
  by_cases hany : ∃ c ∈ trimStart rest, isCommentStart c = true
  · obtain ⟨before, c, back, hsplit, hbefore, hc⟩ := exists_first hany
    have hall : ∀ d ∈ rest.takeWhile isWhitespace ++ before, (!isCommentStart d) = true := by
      intro d hd
      rcases List.mem_append.1 hd with hd | hd
      · rw [blank_no_comment (blank_takeWhile rest) d hd]
        rfl
      · rw [hbefore d hd]
        rfl
    have hrest : rest = (rest.takeWhile isWhitespace ++ before) ++ c :: back := by
      rw [List.append_assoc, ← hsplit]
      exact trimStart_split rest
    have hdrop : (rest.dropWhile fun c => !isCommentStart c) = c :: back := by
      conv => lhs; rw [hrest, dropWhile_append_all hall]
      exact List.dropWhile_cons_of_neg (by rw [hc]; decide)
    obtain ⟨pad, htrailing, -⟩ := @trailingComment_split _ back _ hbefore hc
    rw [hdrop, hsplit, htrailing]
    exact List.suffix_append pad _
  · have hnone : ∀ c ∈ rest, (!isCommentStart c) = true := by
      intro c hc
      rw [trimStart_split rest] at hc
      rcases List.mem_append.1 hc with hc | hc
      · rw [blank_no_comment (blank_takeWhile rest) c hc]
        rfl
      · by_contra hne
        exact hany ⟨c, hc, by simpa using hne⟩
    rw [List.dropWhile_eq_nil_iff.2 hnone]
    exact List.nil_suffix

end Comments

/-! ## 5. After `set` -/

/-- What holds of a document after an assignment was set in another. -/
structure AssignmentHolds (d d' : Document) (section_ key value : Line) : Prop where
  once : d'.activeCount section_ key = 1
  effective : d'.effectiveValue section_ key = some value
  others : ∀ other otherKey, Other section_ key other otherKey →
    d'.effectiveValue other otherKey = d.effectiveValue other otherKey ∧
      d'.activeCount other otherKey = d.activeCount other otherKey
  comments : KeepsComments d.lines d'.lines
  stable : d'.set section_ key value = d'

/-- A line that holds a value. -/
def HoldsValue (line value : Line) : Prop :=
  ∃ front pad comment, Holds line front pad value comment

section After

variable {section_ key value line other otherKey current : Line} {lines lines' : List Line}

/-- The line `set` writes. -/
theorem nameSplit_new (h : WellFormed section_ key value) :
    NameSplit (key ++ '=' :: value) [] key value where
  split := rfl
  blank := blank_nil
  noEq := h.keyEq
  head := fun c hc =>
    ⟨trimmed_head h.keyTrimmed hc, (h.keyStart c hc).1, (h.keyStart c hc).2.1⟩

theorem new_active (h : WellFormed section_ key value) :
    activeKeyEq (key ++ '=' :: value) key = true := by
  rw [activeKeyEq_split (nameSplit_new h), h.keyTrimmed]
  exact eqIgnoreAsciiCase_refl key

theorem new_plain (h : WellFormed section_ key value) :
    sectionName (key ++ '=' :: value) = none := by
  refine @sectionName_split _ _ _ _ key (nameSplit_new h) ?_ fun c hc => (h.keyStart c hc).2.2
  rw [h.keyTrimmed]
  exact eqIgnoreAsciiCase_refl key

theorem new_holds (h : WellFormed section_ key value) :
    Holds (key ++ '=' :: value) key [] value [] :=
  ⟨by rw [List.append_nil, List.nil_append], h.keyEq, blank_nil, .none⟩

/-- A replaced line keeps its name. -/
theorem nameSplit_replace {pad name rest : Line} (h : NameSplit line pad name rest)
    (value : Line) : NameSplit (replaceAssignmentValue line value) pad name
      (rest.takeWhile isWhitespace ++ (value ++ trailingComment (trimStart rest))) := by
  refine ⟨?_, h.blank, h.noEq, h.head⟩
  rw [replace_split h.splitOnce, List.append_assoc]

theorem replace_active (h : activeKeyEq line key = true) (value : Line) :
    activeKeyEq (replaceAssignmentValue line value) key = true := by
  obtain ⟨pad, name, rest, hsplit⟩ := nameSplit_of_active h
  rw [activeKeyEq_split (nameSplit_replace hsplit value), ← activeKeyEq_split hsplit]
  exact h

theorem replace_plain (h : activeKeyEq line key = true)
    (hstart : ∀ c, key.head? = some c → c ≠ '[') (value : Line) :
    sectionName (replaceAssignmentValue line value) = none := by
  obtain ⟨pad, name, rest, hsplit⟩ := nameSplit_of_active h
  rw [activeKeyEq_split hsplit] at h
  exact sectionName_split (nameSplit_replace hsplit value) h hstart

theorem set_lines (d : Document) (h : WellFormed section_ key value) :
    SetLines section_ key value d.lines (d.set section_ key value).lines :=
  setLines_spec d.lines section_ key value fun _ hactive =>
    replace_plain hactive (fun c hc => (h.keyStart c hc).2.2) value

theorem assigned_single (hname : sectionName line = none)
    (hactive : (eqIgnoreAsciiCase current section_ && activeKeyEq line key) = true)
    (lines : List Line) : assigned section_ key current (line :: lines) =
      line :: assigned section_ key current lines := by
  rw [assigned_cons hname, if_pos hactive]
  rfl

theorem assigned_skip (hname : sectionName line = none)
    (hother : Other section_ key other otherKey)
    (hactive : (eqIgnoreAsciiCase current section_ && activeKeyEq line key) = true)
    (lines : List Line) : assigned other otherKey current (line :: lines) =
      assigned other otherKey current lines := by
  rw [assigned_cons hname, not_active_other hother hactive]
  rfl

/-- The header `set` writes is that of its section. -/
theorem sectionName_new (h : WellFormed section_ key value) :
    sectionName ('[' :: section_ ++ [']']) = some section_ := by
  have hbracket : isWhitespace '[' = false := by decide
  have hclose : isWhitespace ']' = false := by decide
  have htrim : trim ('[' :: section_ ++ [']']) = '[' :: (section_ ++ [']']) := by
    unfold trim
    rw [List.cons_append, trimStart_of_head hbracket, ← List.cons_append, trimEnd_of_last hclose]
  have hall : ∀ c ∈ section_, decide (c ≠ ']') = true := fun c hc =>
    decide_eq_true fun heq => h.sectionEnd (heq ▸ hc)
  unfold sectionName
  dsimp only
  rw [htrim, if_neg (by simp), if_pos (by simp), List.tail_cons, takeWhile_append_all hall]
  simp only [ne_eq, not_true_eq_false, decide_false, Bool.false_eq_true, not_false_eq_true,
    List.takeWhile_cons_of_neg, List.append_nil, h.sectionTrimmed]

/-- What is assigned in the lines of a new section, which nothing assigned before. -/
theorem assigned_appendSection (h : WellFormed section_ key value)
    (other otherKey : Line) (lines : List Line) :
    assigned other otherKey [] (Document.appendSection lines section_ line) =
      assigned other otherKey [] lines ++ assigned other otherKey section_ [line] := by
  have hblank : ∀ current, assigned other otherKey current [[]] = [] := by
    intro current
    have hactive : activeKeyEq [] otherKey = false := rfl
    rw [assigned_cons rfl, hactive, Bool.and_false]
    rfl
  have hnew := @assigned_header other otherKey [] _ _ [line] (sectionName_new h)
  have hheaded : Headed ['[' :: section_ ++ [']'], line] :=
    headed_cons (isHeader_iff.2 ⟨section_, sectionName_new h⟩) [line]
  unfold Document.appendSection
  rw [assigned_append_headed hheaded, hnew]
  congr 1
  split
  · rw [assigned_append, hblank, List.append_nil]
  · rfl

theorem keepsComments_appendSection (lines : List Line) (section_ line : Line) :
    KeepsComments lines (Document.appendSection lines section_ line) := by
  unfold Document.appendSection
  split
  · rw [List.append_assoc]
    exact keepsComments_more lines _
  · exact keepsComments_more lines _

/-- Lines before any header stand in no named section. -/
theorem global_ne (h : section_ ≠ []) : eqIgnoreAsciiCase [] section_ = false := by
  refine Bool.eq_false_iff.2 fun heq => h ?_
  rw [eqIgnoreAsciiCase_iff] at heq
  exact List.map_eq_nil_iff.1 heq.symm

/-- **After `set` one line assigns the value.** -/
theorem assigned_one (h : WellFormed section_ key value)
    (hset : SetLines section_ key value lines lines') :
    ∃ line, assigned section_ key [] lines' = [line] ∧ HoldsValue line value := by
  cases hset with
  | @replaced front back line hnil hname hactive =>
      obtain ⟨hin, hkey⟩ := Bool.and_eq_true_iff.1 hactive
      have hplain := replace_plain hkey (fun c hc => (h.keyStart c hc).2.2) value
      have hactive' : (eqIgnoreAsciiCase (sectionAfter [] front) section_ &&
          activeKeyEq (replaceAssignmentValue line value) key) = true := by
        rw [hin, replace_active hkey value]
        rfl
      obtain ⟨pad, name, rest, hsplit⟩ := nameSplit_of_active hkey
      refine ⟨_, ?_, _, _, _, holds_replace hsplit.splitOnce⟩
      rw [assigned_append, hnil, assigned_single hplain hactive', assigned_commentAll]
      rfl
  | @inserted front back hnil hheaded hin =>
      rw [assigned_append_headed hheaded, List.append_eq_nil_iff] at hnil
      have hactive : (eqIgnoreAsciiCase (sectionAfter [] front) section_ &&
          activeKeyEq (key ++ '=' :: value) key) = true := by
        rw [hin, new_active h]
        rfl
      refine ⟨_, ?_, _, _, _, new_holds h⟩
      rw [assigned_append, hnil.1, assigned_single (new_plain h) hactive,
        assigned_headed hheaded _ [], hnil.2]
      rfl
  | appended hne hnone =>
      have hactive : (eqIgnoreAsciiCase section_ section_ &&
          activeKeyEq (key ++ '=' :: value) key) = true := by
        rw [eqIgnoreAsciiCase_refl, new_active h]
        rfl
      refine ⟨_, ?_, _, _, _, new_holds h⟩
      rw [assigned_appendSection h, assigned_nil (global_ne hne) hnone,
        assigned_single (new_plain h) hactive]
      rfl

/-- **`set` leaves what other sections and keys are assigned.** -/
theorem assigned_others (h : WellFormed section_ key value)
    (hset : SetLines section_ key value lines lines') (hother : Other section_ key other otherKey) :
    assigned other otherKey [] lines' = assigned other otherKey [] lines := by
  cases hset with
  | @replaced front back line hnil hname hactive =>
      obtain ⟨hin, hkey⟩ := Bool.and_eq_true_iff.1 hactive
      have hplain := replace_plain hkey (fun c hc => (h.keyStart c hc).2.2) value
      have hactive' : (eqIgnoreAsciiCase (sectionAfter [] front) section_ &&
          activeKeyEq (replaceAssignmentValue line value) key) = true := by
        rw [hin, replace_active hkey value]
        rfl
      rw [assigned_append, assigned_append, assigned_skip hplain hother hactive',
        assigned_skip hname hother hactive, assigned_commentAll_other hother]
  | @inserted front back hnil hheaded hin =>
      have hactive : (eqIgnoreAsciiCase (sectionAfter [] front) section_ &&
          activeKeyEq (key ++ '=' :: value) key) = true := by
        rw [hin, new_active h]
        rfl
      rw [assigned_append, assigned_append, assigned_skip (new_plain h) hother hactive]
  | appended hne hnone =>
      have hactive : (eqIgnoreAsciiCase section_ section_ &&
          activeKeyEq (key ++ '=' :: value) key) = true := by
        rw [eqIgnoreAsciiCase_refl, new_active h]
        rfl
      rw [assigned_appendSection h, assigned_skip (new_plain h) hother hactive]
      exact List.append_nil _

/-- **`set` keeps every comment.** -/
theorem keepsComments_set (hset : SetLines section_ key value lines lines') :
    KeepsComments lines lines' := by
  cases hset with
  | @replaced front back line hnil hname hactive =>
      obtain ⟨pad, name, rest, hsplit⟩ :=
        nameSplit_of_active (Bool.and_eq_true_iff.1 hactive).2
      refine keepsComments_front front (keepsComments_cons ?_ (keepsComments_commentAll _ _ _ _))
      have hassignment : isAssignment line = true := by
        obtain ⟨hsemi, hhash⟩ := hsplit.no_comment
        unfold isAssignment
        rw [hname, decide_eq_true hsemi, decide_eq_true hhash]
        rfl
      unfold commentText
      rw [if_pos hassignment, hsplit.splitOnce, replace_split hsplit.splitOnce]
      refine trimEnd_suffix ((comment_trailing_suffix rest).trans ?_)
      rw [← List.append_assoc, ← List.cons_append, ← List.append_assoc]
      exact List.suffix_append _ _
  | inserted hnil hheaded hin =>
      exact keepsComments_front _ (.cons_right (keepsComments_refl _))
  | appended hne hnone => exact keepsComments_appendSection _ _ _

/-- **Nothing is left to set where one line assigns the value.** -/
theorem set_stable (d : Document) (h : WellFormed section_ key value)
    (hone : assigned section_ key [] d.lines = [line]) (hholds : HoldsValue line value) :
    d.set section_ key value = d := by
  have hset := set_lines d h
  have hlines : (d.set section_ key value).lines = d.lines := by
    generalize d.lines = lines at hone hset ⊢
    generalize (d.set section_ key value).lines = lines' at hset
    cases hset with
    | @replaced front back first hnil hname hactive =>
        rw [assigned_append, hnil, assigned_single hname hactive] at hone
        obtain ⟨hfirst, hback⟩ := List.cons.inj hone
        obtain ⟨before, pad, comment, hvalue⟩ := hholds
        rw [commentAll_of_nil hback, hfirst,
          replace_holds hvalue h.valueTrimmed h.valueComment]
    | inserted hnil _ _ =>
        rw [hnil] at hone
        cases hone
    | appended hne hnone =>
        rw [assigned_nil (global_ne hne) hnone] at hone
        cases hone
  exact congrArg (fun lines => { d with lines }) hlines

end After

/-! ## 6. Reading it again -/

/-- White space gone from the ends of lines, and an empty line from the end. -/
inductive Reread : List Line → List Line → Prop
  | nil : Reread [] []
  | dropped : Reread [[]] []
  | cons {line pad : Line} {lines lines' : List Line} : Blank pad → Reread lines lines' →
      Reread ((line ++ pad) :: lines) (line :: lines')

/-- A line without white space at its end. -/
def Padded (line line' : Line) : Prop := ∃ pad, line = line' ++ pad ∧ Blank pad

section Reading

variable {section_ key value line line' pad current : Line} {lines lines' rest rest' : List Line}

theorem sectionName_pad (h : Blank pad) (line : Line) :
    sectionName (line ++ pad) = sectionName line := by
  unfold sectionName
  rw [trim_append_blank h]

theorem splitOnce_pad (h : Blank pad) (line : Line) :
    splitOnce '=' (line ++ pad) =
      (splitOnce '=' line).map fun split => (split.1, split.2 ++ pad) := by
  by_cases hmem : '=' ∈ line
  · obtain ⟨front, back, rfl, hfront⟩ := List.eq_append_cons_of_mem hmem
    rw [List.append_assoc, List.cons_append, splitOnce_append hfront, splitOnce_append hfront]
    rfl
  · have hnone : '=' ∉ line ++ pad := fun hin =>
      (List.mem_append.1 hin).elim hmem (blank_no_eq h)
    rw [splitOnce_none hmem, splitOnce_none hnone]
    rfl

theorem assignmentValue_pad (h : Blank pad) (line : Line) :
    assignmentValue (line ++ pad) = assignmentValue line := by
  unfold assignmentValue
  rw [splitOnce_pad h, Option.map_map]
  congr 1
  funext split
  have hall : ∀ c ∈ pad, (!isCommentStart c) = true := fun c hc => by
    rw [blank_no_comment h c hc]
    rfl
  dsimp only [Function.comp_apply]
  by_cases hany : ∃ c ∈ split.2, isCommentStart c = true
  · obtain ⟨before, c, back, hsplit, hbefore, hc⟩ := exists_first hany
    have hall' : ∀ d ∈ before, (!isCommentStart d) = true := fun d hd => by rw [hbefore d hd]; rfl
    rw [hsplit, List.append_assoc, List.cons_append, takeWhile_append_all hall',
      takeWhile_append_all hall', List.takeWhile_cons_of_neg (by rw [hc]; decide),
      List.takeWhile_cons_of_neg (by rw [hc]; decide)]
  · have hnone : ∀ c ∈ split.2, (!isCommentStart c) = true := fun c hc => by
      by_contra hne
      exact hany ⟨c, hc, by simpa using hne⟩
    have htake := takeWhile_append_all (b := pad) hnone
    rw [htake, List.takeWhile_eq_self_iff.2 hall, List.takeWhile_eq_self_iff.2 hnone,
      trim_append_blank h]

theorem activeKeyEq_pad (h : Blank pad) (line key : Line) :
    activeKeyEq (line ++ pad) key = activeKeyEq line key := by
  by_cases hblank : Blank line
  · unfold activeKeyEq
    rw [trimStart_eq_nil hblank, trimStart_eq_nil (blank_append hblank h)]
  · obtain ⟨front, c, back, rfl, hfront, hc⟩ := exists_text hblank
    have htrim : trimStart (front ++ c :: back) = c :: back := by
      rw [trimStart_append_blank hfront, trimStart_of_head hc]
    have htrim' : trimStart (front ++ c :: back ++ pad) = c :: back ++ pad := by
      rw [List.append_assoc, trimStart_append_blank hfront, List.cons_append,
        trimStart_of_head hc]
    unfold activeKeyEq
    rw [htrim, htrim']
    dsimp only
    rw [splitOnce_pad h, Option.any_map]
    have hne : (c :: back ++ pad = []) = (c :: back = []) := by simp
    simp only [hne]
    rfl

/-- The readers see the same lines, without the white space at their ends. -/
theorem assigned_reread (h : Reread lines lines') (current : Line) :
    List.Forall₂ Padded (assigned section_ key current lines)
      (assigned section_ key current lines') := by
  induction h generalizing current with
  | nil => exact .nil
  | dropped =>
      have hactive : activeKeyEq [] key = false := rfl
      rw [assigned_cons rfl, hactive, Bool.and_false]
      exact .nil
  | @cons line pad lines lines' hblank hrest ih =>
      have hname := sectionName_pad hblank line
      cases hline : sectionName line with
      | some name =>
          rw [hline] at hname
          rw [assigned_header hname, assigned_header hline]
          exact ih name
      | none =>
          rw [hline] at hname
          rw [assigned_cons hname, assigned_cons hline, activeKeyEq_pad hblank]
          split
          · exact .cons ⟨pad, rfl, hblank⟩ (ih current)
          · exact ih current

theorem comments_ne_nil {comment : Line} (h : comment ∈ comments lines) : comment ≠ [] := by
  have hne := (List.mem_filter.1 h).2
  simpa using hne

/-- Comments are kept when the document is read again. -/
theorem keepsComments_reread {kept : List Line} (hne : ∀ comment ∈ kept, comment ≠ [])
    (h : List.SublistForall₂ (fun comment line => comment <:+ trimEnd line) kept lines)
    (hread : Reread lines lines') :
    List.SublistForall₂ (fun comment line => comment <:+ trimEnd line) kept lines' := by
  induction hread generalizing kept with
  | nil => exact h
  | dropped =>
      cases h with
      | nil => exact .nil
      | cons hfirst _ =>
          exact absurd (List.suffix_nil.1 hfirst) (hne _ List.mem_cons_self)
      | cons_right hrest => exact hrest
  | @cons line pad lines lines' hblank _ ih =>
      cases h with
      | nil => exact .nil
      | cons hfirst hrest =>
          rw [trimEnd_append_blank hblank] at hfirst
          exact .cons hfirst (ih (fun comment hc => hne comment (List.mem_cons_of_mem _ hc)) hrest)
      | cons_right hrest => exact .cons_right (ih hne hrest)

/-- A line that holds a value holds it without the white space at its end. -/
theorem holdsValue_padded (h : HoldsValue line value) (htrim : trim value = value)
    (hpad : Padded line line') : HoldsValue line' value := by
  obtain ⟨front, space, comment, hsplit, hnoEq, hblank, hcomment⟩ := h
  obtain ⟨pad, hline, hpadBlank⟩ := hpad
  rw [hline] at hsplit
  cases hcomment with
  | @some before back c hbefore hc =>
      have hfind : line' ++ pad =
          (front ++ '=' :: (space ++ (value ++ before))) ++ c :: back := by
        rw [hsplit]
        simp only [List.append_assoc, List.cons_append]
      obtain ⟨back', -, hfront⟩ := blank_suffix hfind hpadBlank (not_whitespace_commentStart hc)
      refine ⟨front, space, before ++ c :: back', ?_, hnoEq, hblank, .some hbefore hc⟩
      rw [hfront]
      simp only [List.append_assoc, List.cons_append]
  | none =>
      rw [List.append_nil] at hsplit
      rcases List.eq_nil_or_concat' value with rfl | ⟨init, last, rfl⟩
      · rw [List.append_nil] at hsplit
        obtain ⟨space', hspace, hfront⟩ := blank_suffix hsplit hpadBlank isWhitespace_eq
        refine ⟨front, space', [], ?_, hnoEq, fun c hc => hblank c ?_, .none⟩
        · rw [hfront, List.append_nil, List.append_nil]
        · rw [hspace]
          exact List.mem_append_left _ hc
      · -- the value ends the line, so nothing was taken off
        have hlast : isWhitespace last = false := by
          by_contra hne
          have hspace := Bool.of_not_eq_false hne
          have hend := (trimmed_iff.1 htrim).2
          have hshort : trimEnd (init ++ [last]) = trimEnd init :=
            trimEnd_append_blank fun c hc => by rw [List.mem_singleton.1 hc]; exact hspace
          rw [hshort] at hend
          have hlen := congrArg List.length hend
          have hle := (List.rdropWhile_prefix isWhitespace init).length_le
          unfold trimEnd at hlen
          rw [List.length_append, List.length_singleton] at hlen
          omega
        have hfind : line' ++ pad = (front ++ '=' :: (space ++ init)) ++ last :: [] := by
          rw [hsplit]
          simp only [List.append_assoc, List.cons_append]
        obtain ⟨back', hnil, hfront⟩ := blank_suffix hfind hpadBlank hlast
        obtain ⟨rfl, -⟩ := List.append_eq_nil_iff.1 hnil.symm
        refine ⟨front, space, [], ?_, hnoEq, hblank, .none⟩
        rw [hfront]
        simp only [List.append_assoc, List.cons_append, List.append_nil]

theorem padded_stripCr (line : Line) : Padded line (stripCr line) := by
  by_cases hlast : line.getLast? = some '\r'
  · obtain ⟨front, rfl⟩ := exists_of_getLast hlast
    rw [stripCr_concat]
    exact ⟨['\r'], rfl, fun c hc => by rw [List.mem_singleton.1 hc]; decide⟩
  · rw [stripCr_of_ne hlast]
    exact ⟨[], (List.append_nil _).symm, blank_nil⟩

theorem padded_trans {line'' : Line} (h : Padded line line') (h' : Padded line' line'') :
    Padded line line'' := by
  obtain ⟨pad, rfl, hpad⟩ := h
  obtain ⟨pad', rfl, hpad'⟩ := h'
  exact ⟨pad' ++ pad, List.append_assoc _ _ _, blank_append hpad' hpad⟩

theorem padded_readTerminated (nl : Newline) (line : Line) :
    Padded line (readTerminated (line ++ nl.cr)) := by
  unfold readTerminated
  cases nl with
  | lf =>
      rw [Newline.cr, List.append_nil]
      exact padded_trans (padded_stripCr line) (padded_stripCr _)
  | crlf =>
      rw [Newline.cr, stripCr_concat]
      exact padded_stripCr line

theorem reread_cons (h : Padded line line') (hrest : Reread lines lines') :
    Reread (line :: lines) (line' :: lines') := by
  obtain ⟨pad, rfl, hblank⟩ := h
  exact .cons hblank hrest

theorem reread_map (nl : Newline) (lines : List Line) (h : Reread rest rest') :
    Reread (lines ++ rest) ((lines.map (· ++ nl.cr)).map readTerminated ++ rest') := by
  induction lines with
  | nil => exact h
  | cons line lines ih => exact reread_cons (padded_readTerminated nl line) ih

/-- **What was written is read again without white space at the ends of lines.** -/
theorem reread_ofText (d : Document) (hfinal : d.finalNewline = true → d.lines ≠ [])
    (hplain : ∀ line ∈ d.lines, '\n' ∉ line) (bom : Bool) :
    Reread d.lines (Document.ofText bom d.body).lines := by
  obtain ⟨lines, last, hwritten⟩ := Document.exists_written hfinal
  rw [Document.lines_ofText, Document.cut_body hwritten hplain]
  dsimp only
  cases hwritten with
  | terminated _ hlines _ =>
      have hread := reread_map d.newline lines .nil
      rw [List.append_nil] at hread
      rw [if_pos rfl, hlines]
      exact hread
  | open_ _ hlines =>
      rw [hlines]
      refine reread_map d.newline lines ?_
      split
      · rename_i hnil
        rw [hnil]
        exact .dropped
      · exact reread_cons (padded_stripCr last) .nil
  | empty _ hlines =>
      rw [hlines, if_pos rfl]
      exact .nil

end Reading

/-! ## 7. The contract -/

section Contract

variable {section_ key value line : Line} {lines lines' : List Line} {d d' : Document} {c : Char}

theorem mem_trailingComment {after : Line} (h : c ∈ trailingComment after) : c ∈ after := by
  unfold trailingComment at h
  split at h
  · exact (List.drop_suffix _ _).subset h
  · cases h

theorem mem_replace {value : Line} (h : c ∈ replaceAssignmentValue line value) :
    c ∈ line ∨ c ∈ value := by
  cases hsplit : splitOnce '=' line with
  | none =>
      unfold replaceAssignmentValue at h
      rw [hsplit] at h
      exact Or.inl h
  | some split =>
      obtain ⟨hline, -⟩ := splitOnce_some hsplit
      rw [replace_split hsplit] at h
      rw [hline]
      rcases List.mem_append.1 h with h | h
      · exact Or.inl (List.mem_append_left _ h)
      · refine (List.mem_cons.1 h).elim (fun heq => Or.inl ?_) fun h => ?_
        · rw [heq]
          exact List.mem_append_right _ List.mem_cons_self
        · rcases List.mem_append.1 h with h | h
          · exact Or.inl (List.mem_append_right _ (List.mem_cons_of_mem _
              ((List.takeWhile_prefix _).subset h)))
          · rcases List.mem_append.1 h with h | h
            · exact Or.inr h
            · exact Or.inl (List.mem_append_right _ (List.mem_cons_of_mem _
                (mem_trimStart (mem_trailingComment h))))

theorem mem_commentAll {current : Line} (hline : line ∈ commentAll section_ key current lines)
    (hc : c ∈ line) : c = ';' ∨ ∃ old ∈ lines, c ∈ old := by
  induction lines generalizing current with
  | nil => cases hline
  | cons first lines ih =>
      have hrest : ∀ current, line ∈ commentAll section_ key current lines →
          c = ';' ∨ ∃ old ∈ first :: lines, c ∈ old := fun current hmem =>
        (ih hmem).imp_right fun ⟨old, hold, hc⟩ => ⟨old, List.mem_cons_of_mem _ hold, hc⟩
      cases hname : sectionName first with
      | some name =>
          rw [commentAll_header hname] at hline
          rcases List.mem_cons.1 hline with rfl | hline
          · exact Or.inr ⟨line, List.mem_cons_self, hc⟩
          · exact hrest name hline
      | none =>
          rw [commentAll_cons hname] at hline
          rcases List.mem_cons.1 hline with rfl | hline
          · split at hc
            · exact (List.mem_cons.1 hc).imp_right fun hc => ⟨first, List.mem_cons_self, hc⟩
            · exact Or.inr ⟨first, List.mem_cons_self, hc⟩
          · exact hrest current hline

/-- A character `set` adds to a document is one of what it was given, or of the syntax. -/
theorem mem_set (hset : SetLines section_ key value lines lines') (hline : line ∈ lines')
    (hc : c ∈ line) : (∃ old ∈ lines, c ∈ old) ∨ (c ∈ section_ ∨ c ∈ key ∨ c ∈ value) ∨
      (c = '=' ∨ c = ';' ∨ c = '[' ∨ c = ']') := by
  have hnew : c ∈ key ++ '=' :: value → (c ∈ key ∨ c ∈ value) ∨ c = '=' := fun hc => by
    rcases List.mem_append.1 hc with hc | hc
    · exact Or.inl (Or.inl hc)
    · exact (List.mem_cons.1 hc).elim Or.inr fun hc => Or.inl (Or.inr hc)
  cases hset with
  | @replaced front back old _ _ _ =>
      rcases List.mem_append.1 hline with hline | hline
      · exact Or.inl ⟨line, List.mem_append_left _ hline, hc⟩
      · rcases List.mem_cons.1 hline with rfl | hline
        · rcases mem_replace hc with hc | hc
          · exact Or.inl ⟨old, List.mem_append_right _ List.mem_cons_self, hc⟩
          · exact Or.inr (Or.inl (Or.inr (Or.inr hc)))
        · rcases mem_commentAll hline hc with hc | ⟨other, hother, hc⟩
          · exact Or.inr (Or.inr (Or.inr (Or.inl hc)))
          · exact Or.inl ⟨other, List.mem_append_right _ (List.mem_cons_of_mem _ hother), hc⟩
  | @inserted front back _ _ _ =>
      rcases List.mem_append.1 hline with hline | hline
      · exact Or.inl ⟨line, List.mem_append_left _ hline, hc⟩
      · rcases List.mem_cons.1 hline with rfl | hline
        · exact Or.inr ((hnew hc).imp Or.inr Or.inl)
        · exact Or.inl ⟨line, List.mem_append_right _ hline, hc⟩
  | appended _ _ =>
      unfold Document.appendSection at hline
      rcases List.mem_append.1 hline with hline | hline
      · split at hline
        · rcases List.mem_append.1 hline with hline | hline
          · exact Or.inl ⟨line, hline, hc⟩
          · rw [List.mem_singleton.1 hline] at hc
            cases hc
        · exact Or.inl ⟨line, hline, hc⟩
      · rcases List.mem_cons.1 hline with rfl | hline
        · rcases List.mem_cons.1 hc with hc | hc
          · exact Or.inr (Or.inr (Or.inr (Or.inr (Or.inl hc))))
          · rcases List.mem_append.1 hc with hc | hc
            · exact Or.inr (Or.inl (Or.inl hc))
            · exact Or.inr (Or.inr (Or.inr (Or.inr (Or.inr (List.mem_singleton.1 hc)))))
        · rw [List.mem_singleton.1 hline] at hc
          exact Or.inr ((hnew hc).imp Or.inr Or.inl)

theorem set_ne_nil (hset : SetLines section_ key value lines lines') : lines' ≠ [] := by
  cases hset with
  | replaced _ _ _ => exact List.append_ne_nil_of_right_ne_nil _ (List.cons_ne_nil _ _)
  | inserted _ _ _ => exact List.append_ne_nil_of_right_ne_nil _ (List.cons_ne_nil _ _)
  | appended _ _ => exact List.append_ne_nil_of_right_ne_nil _ (List.cons_ne_nil _ _)

/-- What begins a document after `set` began it before, or is the new assignment or header. -/
theorem head?_set (hset : SetLines section_ key value lines lines')
    (hfirst : lines'.head? = some line) (hc : line.head? = some c) (heq : c ≠ '=')
    (hbracket : c ≠ '[') : (∃ old, lines.head? = some old ∧ old.head? = some c) ∨
      (line = key ++ '=' :: value ∧ key.head? = some c) := by
  cases hset with
  | @replaced front back old _ _ hactive =>
      cases front with
      | cons first front =>
          cases hfirst
          exact Or.inl ⟨line, rfl, hc⟩
      | nil =>
          cases hfirst
          obtain ⟨pad, name, rest, hsplit⟩ :=
            nameSplit_of_active (Bool.and_eq_true_iff.1 hactive).2
          refine Or.inl ⟨old, rfl, ?_⟩
          rw [(nameSplit_replace hsplit value).split, ← List.append_assoc, List.head?_append] at hc
          rw [hsplit.split, ← List.append_assoc, List.head?_append]
          cases hhead : (pad ++ name).head? with
          | some first =>
              rw [hhead] at hc
              exact hc
          | none =>
              rw [hhead] at hc
              exact absurd (Option.some.inj hc).symm heq
  | @inserted front back _ _ _ =>
      cases front with
      | cons first front =>
          cases hfirst
          exact Or.inl ⟨line, rfl, hc⟩
      | nil =>
          cases hfirst
          refine Or.inr ⟨rfl, ?_⟩
          rw [List.head?_append] at hc
          cases hhead : key.head? with
          | some first =>
              rw [hhead] at hc
              exact hc
          | none =>
              rw [hhead] at hc
              exact absurd (Option.some.inj hc).symm heq
  | appended _ _ =>
      cases lines with
      | cons first lines =>
          refine Or.inl ⟨first, rfl, ?_⟩
          unfold Document.appendSection at hfirst
          split at hfirst
          · cases hfirst
            exact hc
          · cases hfirst
            exact hc
      | nil =>
          cases hfirst
          exact absurd (Option.some.inj hc).symm hbracket

/-- **After `set` the assignment holds.** -/
theorem assignmentHolds_set (d : Document) (h : WellFormed section_ key value) :
    AssignmentHolds d (d.set section_ key value) section_ key value := by
  have hset := set_lines d h
  obtain ⟨line, hone, hholds⟩ := assigned_one h hset
  obtain ⟨front, pad, comment, hvalue⟩ := hholds
  refine ⟨?_, ?_, fun other otherKey hother => ?_, keepsComments_set hset,
    set_stable _ h hone ⟨front, pad, comment, hvalue⟩⟩
  · rw [activeCount_eq, hone]
    rfl
  · rw [effectiveValue_eq, hone]
    exact assignmentValue_holds hvalue h.valueTrimmed h.valueComment
  · rw [effectiveValue_eq, effectiveValue_eq, activeCount_eq, activeCount_eq,
      assigned_others h hset hother]
    exact ⟨rfl, rfl⟩

/-- What is read again assigns the same values. -/
theorem effectiveValue_padded {found found' : List Line} (h : List.Forall₂ Padded found found') :
    found.getLast?.bind assignmentValue = found'.getLast?.bind assignmentValue := by
  have hmap : found.map assignmentValue = found'.map assignmentValue := by
    induction h with
    | nil => rfl
    | cons hpad _ ih =>
        obtain ⟨pad, rfl, hblank⟩ := hpad
        rw [List.map_cons, List.map_cons, assignmentValue_pad hblank, ih]
  have hlast := congrArg List.getLast? hmap
  rw [List.getLast?_map, List.getLast?_map] at hlast
  have hjoin : ∀ last : Option Line, last.bind assignmentValue =
      (last.map assignmentValue).join := by
    rintro (_ | last)
    · rfl
    · rfl
  rw [hjoin, hjoin, hlast]

/-- **It holds of the document that is read again.** -/
theorem assignmentHolds_reread (h : WellFormed section_ key value)
    (hread : Reread (d.set section_ key value).lines d'.lines) :
    AssignmentHolds d d' section_ key value := by
  have hset := set_lines d h
  have hd := assignmentHolds_set d h
  obtain ⟨line, hone, hholds⟩ := assigned_one h hset
  have hassigned := @assigned_reread section_ key _ _ hread []
  rw [hone] at hassigned
  obtain ⟨line', rest, hpad, hrest, hone'⟩ := List.forall₂_cons_left_iff.1 hassigned
  rw [List.forall₂_nil_left_iff] at hrest
  subst hrest
  have hholds' := holdsValue_padded hholds h.valueTrimmed hpad
  obtain ⟨front, pad, comment, hvalue⟩ := hholds'
  refine ⟨?_, ?_, fun other otherKey hother => ?_, ?_,
    set_stable d' h hone' ⟨front, pad, comment, hvalue⟩⟩
  · rw [activeCount_eq, hone']
    rfl
  · rw [effectiveValue_eq, hone']
    exact assignmentValue_holds hvalue h.valueTrimmed h.valueComment
  · have hother' := @assigned_reread other otherKey _ _ hread []
    obtain ⟨hvalues, hcounts⟩ := hd.others other otherKey hother
    rw [effectiveValue_eq] at hvalues
    rw [activeCount_eq] at hcounts
    rw [effectiveValue_eq d', activeCount_eq d']
    exact ⟨(effectiveValue_padded hother').symm.trans hvalues, hother'.length_eq.symm.trans hcounts⟩
  · exact keepsComments_reread (fun comment hc => comments_ne_nil hc) hd.comments hread

/-- **Setting an assignment in a document that was read: it is active once, with its value, in the
    document and in what is read from it when it was written; nothing else changes.** -/
theorem set_contract (input : List UInt8) (d : Document) (hparse : Document.parse input = .ok d)
    (section_ key value : Line) (h : WellFormed section_ key value) :
    AssignmentHolds d (d.set section_ key value) section_ key value ∧
      ((d.set section_ key value).render.length ≤ MAX_INI_BYTES →
        '\x00' ∉ section_ ∧ '\x00' ∉ key ∧ '\x00' ∉ value →
        d.bom = true ∨ key.head? ≠ some BOM ∨
          (d.set section_ key value).lines.head? ≠ some (key ++ '=' :: value) →
        ∃ d', Document.parse (d.set section_ key value).render = .ok d' ∧
          AssignmentHolds d d' section_ key value) := by
  refine ⟨assignmentHolds_set d h, fun hsize hnul hbom => ?_⟩
  obtain ⟨text, -, -, hd, htext⟩ := Document.parse_eq hparse
  obtain ⟨hchars, hfirst⟩ := Document.splitBom_eq text.toList
  have hset := set_lines d h
  have hfinal : (d.set section_ key value).finalNewline = true →
      (d.set section_ key value).lines ≠ [] := fun _ => set_ne_nil hset
  obtain ⟨lines, last, hwritten⟩ := Document.exists_written hfinal
  have hread : ∀ c, c ≠ '=' → c ≠ ';' → c ≠ '[' → c ≠ ']' →
      (∀ old ∈ d.lines, c ∉ old) → c ∉ section_ → c ∉ key → c ∉ value →
      ∀ line ∈ (d.set section_ key value).lines, c ∉ line := by
    intro c h1 h2 h3 h4 hold hsection hkey hvalue line hline hc
    rcases mem_set hset hline hc with ⟨old, hmem, hc⟩ | (hc | hc | hc) | (hc | hc | hc | hc)
    · exact hold old hmem hc
    · exact hsection hc
    · exact hkey hc
    · exact hvalue hc
    · exact h1 hc
    · exact h2 hc
    · exact h3 hc
    · exact h4 hc
  have hplain : ∀ line ∈ (d.set section_ key value).lines, '\n' ∉ line :=
    hread '\n' (by decide) (by decide) (by decide) (by decide)
      (by rw [hd]; exact Document.plain_ofText _ _) h.sectionLine h.keyLine h.valueLine
  have hclean : ∀ line ∈ (d.set section_ key value).lines, '\x00' ∉ line := by
    refine hread '\x00' (by decide) (by decide) (by decide) (by decide) ?_ hnul.1 hnul.2.1
      hnul.2.2
    intro old hold hc
    rw [hd] at hold
    exact htext (hchars ▸ List.mem_append_right _ (Document.mem_ofText hold hc))
  refine ⟨_, Document.parse_render_of (fun hmem => ?_) (fun hnone hhead => ?_) hsize,
    assignmentHolds_reread h (reread_ofText _ hfinal hplain _)⟩
  · obtain ⟨line, hline, hc⟩ := Document.mem_body hwritten (by decide) (by decide) hmem
    exact hclean line hline hc
  · obtain ⟨line, hline, hc⟩ := Document.head?_body hwritten (by decide) (by decide) hhead
    have hbom' : d.bom = false := hnone
    rcases head?_set hset hline hc (by decide) (by decide) with ⟨old, hold, hc⟩ | ⟨rfl, hkey⟩
    · rw [hd] at hold hbom'
      exact hfirst hbom' (Document.head?_ofText hold hc)
    · rcases hbom with htrue | hne | hne
      · rw [hbom'] at htrue
        cases htrue
      · exact hne hkey
      · exact hne hline

end Contract

/-- `k=2` in the section `m`. -/
theorem wellFormed_m_k : WellFormed ['m'] ['k'] ['2'] where
  sectionTrimmed := by decide
  keyTrimmed := by decide
  valueTrimmed := by decide
  sectionLine := by decide
  keyLine := by decide
  valueLine := by decide
  sectionEnd := by decide
  keyEq := by decide
  keyStart := fun c hc => by
    cases hc
    decide
  valueComment := fun c hc => by
    obtain rfl := List.mem_singleton.1 hc
    decide

theorem set_contract_m_k :
    ∃ d, Document.parse (utf8 "[m]\nk=1 ; n\n") = .ok d ∧
      AssignmentHolds d (d.set ['m'] ['k'] ['2']) ['m'] ['k'] ['2'] ∧
      ∃ d', Document.parse (d.set ['m'] ['k'] ['2']).render = .ok d' ∧
        AssignmentHolds d d' ['m'] ['k'] ['2'] := by
  have hparse : Document.parse (utf8 "[m]\nk=1 ; n\n") =
      .ok ⟨["[m]".toList, "k=1 ; n".toList], .lf, true, false⟩ := rfl
  obtain ⟨hset, hread⟩ := set_contract _ _ hparse ['m'] ['k'] ['2'] wellFormed_m_k
  exact ⟨_, hparse, hset, hread (by decide +kernel) (by decide) (Or.inr (Or.inl (by decide)))⟩

theorem wellFormed_nul : WellFormed [] ['k'] ['\x00'] where
  sectionTrimmed := by decide
  keyTrimmed := by decide
  valueTrimmed := by decide
  sectionLine := by decide
  keyLine := by decide
  valueLine := by decide
  sectionEnd := by decide
  keyEq := by decide
  keyStart := fun c hc => by
    cases hc
    decide
  valueComment := fun c hc => by
    obtain rfl := List.mem_singleton.1 hc
    decide

theorem wellFormed_bom : WellFormed [] [BOM, 'k'] ['1'] where
  sectionTrimmed := by decide
  keyTrimmed := by decide
  valueTrimmed := by decide
  sectionLine := by decide
  keyLine := by decide
  valueLine := by decide
  sectionEnd := by decide
  keyEq := by decide
  keyStart := fun c hc => by
    cases hc
    decide
  valueComment := fun c hc => by
    obtain rfl := List.mem_singleton.1 hc
    decide

/-- A NUL in the value is refused when the document is read again, and a byte order mark that
    begins the key of the first line is read as the document's. -/
theorem set_not_reread :
    ∃ d, Document.parse [] = .ok d ∧ WellFormed [] ['k'] ['\x00'] ∧
      (d.set [] ['k'] ['\x00']).render.length ≤ MAX_INI_BYTES ∧
      Document.parse (d.set [] ['k'] ['\x00']).render = .error .interiorNul ∧
      WellFormed [] [BOM, 'k'] ['1'] ∧
      ∃ d', Document.parse (d.set [] [BOM, 'k'] ['1']).render = .ok d' ∧
        d'.activeCount [] [BOM, 'k'] = 0 := by
  refine ⟨⟨[], .lf, false, false⟩, rfl, wellFormed_nul, by decide +kernel, rfl, wellFormed_bom,
    ⟨[['k', '=', '1']], .lf, false, true⟩, rfl, by decide +kernel⟩

end MisterMagik.Ini
