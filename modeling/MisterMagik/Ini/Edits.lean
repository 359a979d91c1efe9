/-
  File:      MisterMagik/Ini/Edits.lean
  Subject:   WHAT A DOCUMENT ASSIGNS, and scripts of edits as functions on it.

  To its readers a document is a function: for every section and key the values that are assigned,
  in order. Names are compared without ASCII case. `set`, `remove` and `comment_if_value` change
  that function at one section and key, whatever stands on the lines; and what is written is read
  again as the same function.

  * `Assignments`, `Document.assignments` -- the function, and that of a document;
  * `Edit.onAssignments` -- what an edit means;
  * `edits_refine` -- a script of edits does what it means, in memory and in what is read again.

  Not here: `ensure_section_after`, which moves blocks and may change which value is the last.
-/
import MisterMagik.Ini.Assign

namespace MisterMagik.Ini

open MisterMagik.Base

/-! ## 1. What a document assigns -/

/-- The values of every section and key, in order. -/
abbrev Assignments := Line → Line → List Line

def Document.assignments (d : Document) : Assignments := fun section_ key =>
  (assigned section_ key [] d.lines).filterMap assignmentValue

/-- Two names of a section, and two of a key. -/
def sameSetting (section_ key other otherKey : Line) : Bool :=
  eqIgnoreAsciiCase other section_ && eqIgnoreAsciiCase otherKey key

/-- The values of one section and key are changed. -/
def Assignments.change (a : Assignments) (section_ key : Line) (f : List Line → List Line) :
    Assignments := fun other otherKey =>
  if sameSetting section_ key other otherKey then f (a other otherKey) else a other otherKey

section Values

variable {section_ key other otherKey current line : Line} {lines lines' : List Line}

theorem other_iff : Other section_ key other otherKey ↔
    sameSetting section_ key other otherKey = false := by
  unfold Other sameSetting
  rw [← Bool.and_eq_true, Bool.not_eq_true]

/-- What is active has a value. -/
theorem exists_value (h : activeKeyEq line key = true) :
    ∃ value, assignmentValue line = some value := by
  obtain ⟨pad, name, rest, hsplit⟩ := nameSplit_of_active h
  unfold assignmentValue
  rw [hsplit.splitOnce]
  exact ⟨_, rfl⟩

theorem active_of_assigned (h : line ∈ assigned section_ key current lines) :
    activeKeyEq line key = true := by
  induction lines generalizing current with
  | nil => cases h
  | cons first lines ih =>
      cases hname : sectionName first with
      | some name =>
          rw [assigned_header hname] at h
          exact ih h
      | none =>
          rw [assigned_cons hname] at h
          rcases List.mem_append.1 h with h | h
          · split at h
            · rename_i hactive
              rw [List.mem_singleton.1 h]
              exact (Bool.and_eq_true_iff.1 hactive).2
            · cases h
          · exact ih h

/-- Every active line gives its value. -/
theorem map_some_values (h : ∀ line ∈ lines, activeKeyEq line key = true) :
    (lines.filterMap assignmentValue).map some = lines.map assignmentValue := by
  induction lines with
  | nil => rfl
  | cons line lines ih =>
      obtain ⟨value, hvalue⟩ := exists_value (h line List.mem_cons_self)
      rw [List.filterMap_cons_some hvalue, List.map_cons, List.map_cons, hvalue,
        ih fun line hline => h line (List.mem_cons_of_mem _ hline)]

theorem assignments_some (d : Document) (section_ key : Line) :
    (d.assignments section_ key).map some =
      (assigned section_ key [] d.lines).map assignmentValue :=
  map_some_values fun _ => active_of_assigned

/-- **The readers read off the function how many values there are, and the last.** -/
theorem readers_of_assignments (d : Document) (section_ key : Line) :
    d.activeCount section_ key = (d.assignments section_ key).length ∧
      d.effectiveValue section_ key = (d.assignments section_ key).getLast? := by
  have hsome := assignments_some d section_ key
  constructor
  · have hlength := congrArg List.length hsome
    rw [List.length_map, List.length_map] at hlength
    rw [activeCount_eq, hlength]
  · have hlast := congrArg (fun values => values.getLast?.join) hsome
    simp only [List.getLast?_map] at hlast
    rw [effectiveValue_eq]
    cases hvalues : (d.assignments section_ key).getLast? with
    | none =>
        rw [hvalues] at hlast
        cases hlines : (assigned section_ key [] d.lines).getLast? with
        | none => rfl
        | some line =>
            rw [hlines] at hlast
            exact hlast.symm
    | some value =>
        rw [hvalues] at hlast
        cases hlines : (assigned section_ key [] d.lines).getLast? with
        | none =>
            rw [hlines] at hlast
            cases hlast
        | some line =>
            rw [hlines] at hlast
            exact hlast.symm

theorem activeKeyEq_congr (h : eqIgnoreAsciiCase otherKey key = true) (line : Line) :
    activeKeyEq line otherKey = activeKeyEq line key := by
  rw [Bool.eq_iff_iff]
  constructor
  · intro hactive
    obtain ⟨pad, name, rest, hsplit⟩ := nameSplit_of_active hactive
    rw [activeKeyEq_split hsplit] at hactive ⊢
    rw [eqIgnoreAsciiCase_congr hactive]
    exact h
  · intro hactive
    obtain ⟨pad, name, rest, hsplit⟩ := nameSplit_of_active hactive
    rw [activeKeyEq_split hsplit] at hactive ⊢
    rw [eqIgnoreAsciiCase_congr hactive, eqIgnoreAsciiCase_comm]
    exact h

/-- The lines assigned under another spelling of the names. -/
theorem assigned_congr (h : sameSetting section_ key other otherKey = true) (current : Line)
    (lines : List Line) :
    assigned other otherKey current lines = assigned section_ key current lines := by
  obtain ⟨hsection, hkey⟩ := Bool.and_eq_true_iff.1 h
  have hactive : ∀ current line, (eqIgnoreAsciiCase current other && activeKeyEq line otherKey) =
      (eqIgnoreAsciiCase current section_ && activeKeyEq line key) := fun current line => by
    rw [activeKeyEq_congr hkey, eqIgnoreAsciiCase_comm current other,
      eqIgnoreAsciiCase_congr hsection, eqIgnoreAsciiCase_comm section_ current]
  induction lines generalizing current with
  | nil => rfl
  | cons line lines ih =>
      cases hname : sectionName line with
      | some name => rw [assigned_header hname, assigned_header hname, ih]
      | none => rw [assigned_cons hname, assigned_cons hname, hactive, ih]

theorem assignments_congr (d : Document) (h : sameSetting section_ key other otherKey = true) :
    d.assignments other otherKey = d.assignments section_ key := by
  unfold Document.assignments
  rw [assigned_congr h]

end Values

/-! ## 2. Edits -/

inductive Edit where
  | set (section_ key value : Line)
  | remove (section_ key reason : Line)
  | commentIfValue (section_ key : Line) (values : List Line) (reason : Line)

def Document.edit (d : Document) : Edit → Document
  | .set section_ key value => d.set section_ key value
  | .remove section_ key reason => d.remove section_ key reason
  | .commentIfValue section_ key values reason => d.commentIfValue section_ key values reason

/-- What an edit means. -/
def Edit.onAssignments (a : Assignments) : Edit → Assignments
  | .set section_ key value => a.change section_ key fun _ => [value]
  | .remove section_ key _ => a.change section_ key fun _ => []
  | .commentIfValue section_ key values _ => a.change section_ key fun found =>
      found.filter fun value => !values.any fun expected => eqIgnoreAsciiCase value expected

/-- An edit whose assignment is read as it is meant. What is taken out needs no care: its line is a
    comment, whatever the reason says. -/
def Edit.WellFormed : Edit → Prop
  | .set section_ key value => Ini.WellFormed section_ key value
  | .remove .. => True
  | .commentIfValue .. => True

/-- An edit whose texts can be read again: a reason on one line, no NUL, and no key that begins with
    the byte order mark, since it may begin the document. -/
def Edit.Clean : Edit → Prop
  | .set section_ key value =>
      '\x00' ∉ section_ ∧ '\x00' ∉ key ∧ '\x00' ∉ value ∧ key.head? ≠ some BOM
  | .remove _ _ reason => '\n' ∉ reason ∧ '\x00' ∉ reason
  | .commentIfValue _ _ _ reason => '\n' ∉ reason ∧ '\x00' ∉ reason

section Retire

variable {section_ key reason other otherKey current name line : Line} {lines : List Line}
  {retired : Line → Bool}

open Document

theorem retire_header (h : sectionName line = some name) :
    retireLines section_ key reason retired current (line :: lines) =
      line :: retireLines section_ key reason retired name lines := by
  rw [retireLines, h]

theorem retire_cons (h : sectionName line = none) :
    retireLines section_ key reason retired current (line :: lines) =
      (if eqIgnoreAsciiCase current section_ && activeKeyEq line key && retired line then
        ';' :: line ++ [' ', ';', ' '] ++ reason else line) ::
        retireLines section_ key reason retired current lines := by
  rw [retireLines, h]

/-- **What is retired is assigned no more; the rest stays.** -/
theorem assigned_retire (current : Line) (lines : List Line) :
    assigned section_ key current (retireLines section_ key reason retired current lines) =
      (assigned section_ key current lines).filter fun line => !retired line := by
  induction lines generalizing current with
  | nil => rfl
  | cons line lines ih =>
      cases hname : sectionName line with
      | some name => rw [retire_header hname, assigned_header hname, assigned_header hname, ih]
      | none =>
          rw [retire_cons hname, assigned_cons hname, List.filter_append]
          cases hactive : eqIgnoreAsciiCase current section_ && activeKeyEq line key with
          | false =>
              rw [Bool.false_and, if_neg Bool.false_ne_true, assigned_cons hname, hactive, ih]
              simp
          | true =>
              cases hretired : retired line with
              | true =>
                  have hcomment := activeKeyEq_comment (line ++ [' ', ';', ' '] ++ reason) key
                  simp only [List.cons_append] at hcomment ⊢
                  rw [Bool.true_and, if_pos rfl, assigned_cons (sectionName_comment _), hcomment, ih]
                  simp [hretired]
              | false =>
                  rw [Bool.true_and, if_neg Bool.false_ne_true, assigned_cons hname, hactive, ih]
                  simp [hretired]

theorem assigned_retire_other (h : Other section_ key other otherKey) (current : Line)
    (lines : List Line) :
    assigned other otherKey current (retireLines section_ key reason retired current lines) =
      assigned other otherKey current lines := by
  induction lines generalizing current with
  | nil => rfl
  | cons line lines ih =>
      cases hname : sectionName line with
      | some name => rw [retire_header hname, assigned_header hname, assigned_header hname, ih]
      | none =>
          rw [retire_cons hname]
          split
          · rename_i hactive
            have hother := not_active_other h (Bool.and_eq_true_iff.1 hactive).1
            have hcomment := activeKeyEq_comment (line ++ [' ', ';', ' '] ++ reason) otherKey
            simp only [List.cons_append] at hcomment ⊢
            rw [assigned_cons (sectionName_comment _), hcomment, ih, assigned_cons hname, hother]
            simp
          · rw [assigned_cons hname, assigned_cons hname, ih]

theorem mem_retire {c : Char} (hline : line ∈ retireLines section_ key reason retired current lines)
    (hc : c ∈ line) : (∃ old ∈ lines, c ∈ old) ∨ c ∈ reason ∨ c = ';' ∨ c = ' ' := by
  induction lines generalizing current with
  | nil => cases hline
  | cons first lines ih =>
      have hrest : ∀ current, line ∈ retireLines section_ key reason retired current lines →
          (∃ old ∈ first :: lines, c ∈ old) ∨ c ∈ reason ∨ c = ';' ∨ c = ' ' := fun current hmem =>
        (ih hmem).imp_left fun ⟨old, hold, hc⟩ => ⟨old, List.mem_cons_of_mem _ hold, hc⟩
      cases hname : sectionName first with
      | some name =>
          rw [retire_header hname] at hline
          rcases List.mem_cons.1 hline with rfl | hline
          · exact Or.inl ⟨line, List.mem_cons_self, hc⟩
          · exact hrest name hline
      | none =>
          rw [retire_cons hname] at hline
          rcases List.mem_cons.1 hline with rfl | hline
          · split at hc
            · simp only [List.cons_append, List.mem_cons, List.mem_append, List.not_mem_nil,
                or_false] at hc
              have hfirst := @List.mem_cons_self _ first lines
              grind
            · exact Or.inl ⟨first, List.mem_cons_self, hc⟩
          · exact hrest current hline

/-- The first line of a document is as it was, or begins with a semicolon. -/
theorem head?_retire {c : Char}
    (hfirst : (retireLines section_ key reason retired current lines).head? = some line)
    (hc : line.head? = some c) (hne : c ≠ ';') : lines.head? = some line := by
  cases lines with
  | nil => cases hfirst
  | cons first lines =>
      cases hname : sectionName first with
      | some name =>
          rw [retire_header hname] at hfirst
          exact hfirst
      | none =>
          rw [retire_cons hname] at hfirst
          simp only [List.head?_cons, Option.some.injEq] at hfirst
          split at hfirst
          · subst hfirst
            cases hc
            exact absurd rfl hne
          · exact congrArg some hfirst

theorem retire_ne_nil (h : lines ≠ []) :
    retireLines section_ key reason retired current lines ≠ [] := by
  cases lines with
  | nil => exact absurd rfl h
  | cons first lines =>
      cases hname : sectionName first with
      | some name => simp [retire_header hname]
      | none => simp [retire_cons hname]

end Retire

/-! ## 3. What an edit does to the assignments -/

section Meaning

variable {section_ key reason other otherKey value : Line} {lines lines' : List Line}
  {retired : Line → Bool} {d d' : Document}

/-- A change of the lines at one section and key is one of the function there. -/
theorem assignments_change {f : List Line → List Line}
    (hthere : d'.assignments section_ key = f (d.assignments section_ key))
    (hothers : ∀ other otherKey, Other section_ key other otherKey →
      assigned other otherKey [] d'.lines = assigned other otherKey [] d.lines) :
    d'.assignments = d.assignments.change section_ key f := by
  funext other otherKey
  unfold Assignments.change
  cases hsame : sameSetting section_ key other otherKey with
  | true => rw [if_pos rfl, assignments_congr d' hsame, assignments_congr d hsame, hthere]
  | false =>
      rw [if_neg Bool.false_ne_true]
      exact congrArg (List.filterMap assignmentValue) (hothers other otherKey (other_iff.2 hsame))

theorem assignments_set (d : Document) (h : WellFormed section_ key value) :
    (d.set section_ key value).assignments =
      d.assignments.change section_ key fun _ => [value] := by
  have hset := set_lines d h
  refine assignments_change ?_ fun other otherKey => assigned_others h hset
  obtain ⟨line, hone, front, pad, comment, hholds⟩ := assigned_one h hset
  unfold Document.assignments
  rw [hone, List.filterMap_cons_some (assignmentValue_holds hholds h.valueTrimmed h.valueComment)]
  rfl

/-- The values that stay are those of the lines that stay. -/
theorem values_of_kept {kept : Line → Bool}
    (h : ∀ line value, assignmentValue line = some value → retired line = !kept value)
    (lines : List Line) :
    (lines.filter fun line => !retired line).filterMap assignmentValue =
      (lines.filterMap assignmentValue).filter kept := by
  induction lines with
  | nil => rfl
  | cons line lines ih =>
      cases hvalue : assignmentValue line with
      | none =>
          rw [List.filterMap_cons_none hvalue, List.filter_cons]
          split
          · rw [List.filterMap_cons_none hvalue, ih]
          · exact ih
      | some value =>
          have hretired := h line value hvalue
          rw [List.filterMap_cons_some hvalue, List.filter_cons, List.filter_cons, hretired,
            Bool.not_not]
          split
          · rw [List.filterMap_cons_some hvalue, ih]
          · exact ih

theorem assignments_retire {kept : Line → Bool}
    (hlines : d'.lines = Document.retireLines section_ key reason retired [] d.lines)
    (h : ∀ line value, assignmentValue line = some value → retired line = !kept value) :
    d'.assignments = d.assignments.change section_ key (List.filter kept) := by
  refine assignments_change ?_ fun other otherKey hother => ?_
  · unfold Document.assignments
    rw [hlines, assigned_retire, values_of_kept h]
  · rw [hlines, assigned_retire_other hother]

theorem assignments_remove (d : Document) (section_ key reason : Line) :
    (d.remove section_ key reason).assignments = d.assignments.change section_ key fun _ => [] := by
  have hnone : (List.filter fun _ : Line => false) = fun _ => [] :=
    funext fun lines => List.filter_false lines
  rw [← hnone]
  exact assignments_retire rfl fun _ _ _ => rfl

theorem assignments_commentIfValue (d : Document) (section_ key : Line) (values : List Line)
    (reason : Line) : (d.commentIfValue section_ key values reason).assignments =
      d.assignments.change section_ key fun found => found.filter fun value =>
        !values.any fun expected => eqIgnoreAsciiCase value expected := by
  refine assignments_retire rfl fun line value hvalue => ?_
  unfold Document.hasValueOf
  rw [hvalue, Option.any_some, Bool.not_not]

/-- **An edit does to the assignments what it means.** -/
theorem assignments_edit (d : Document) {edit : Edit} (h : edit.WellFormed) :
    (d.edit edit).assignments = edit.onAssignments d.assignments := by
  cases edit with
  | set section_ key value => exact assignments_set d h
  | remove section_ key reason => exact assignments_remove d section_ key reason
  | commentIfValue section_ key values reason =>
      exact assignments_commentIfValue d section_ key values reason

theorem assignments_edits (d : Document) {edits : List Edit}
    (h : ∀ edit ∈ edits, edit.WellFormed) :
    (edits.foldl Document.edit d).assignments = edits.foldl Edit.onAssignments d.assignments := by
  induction edits generalizing d with
  | nil => rfl
  | cons edit edits ih =>
      rw [List.foldl_cons, List.foldl_cons, ih _ fun edit hedit =>
        h edit (List.mem_cons_of_mem _ hedit), assignments_edit d (h edit List.mem_cons_self)]

end Meaning

/-! ## 4. Reading it again -/

/-- A document whose text is read as it was written. -/
structure Document.Writable (d : Document) : Prop where
  ended : d.finalNewline = true → d.lines ≠ []
  plain : ∀ line ∈ d.lines, '\n' ∉ line
  clean : ∀ line ∈ d.lines, '\x00' ∉ line
  mark : d.bom = false → ∀ line, d.lines.head? = some line → line.head? ≠ some BOM

section Writable

variable {d d' : Document} {section_ key value reason : Line}

theorem Document.writable_parse {input : List UInt8} (h : Document.parse input = .ok d) :
    d.Writable := by
  obtain ⟨text, -, -, rfl, htext⟩ := Document.parse_eq h
  obtain ⟨hchars, hfirst⟩ := Document.splitBom_eq text.toList
  refine ⟨fun hended hnil => ?_, Document.plain_ofText _ _, fun line hline hc => ?_,
    fun hbom line hline hhead => hfirst hbom (Document.head?_ofText hline hhead)⟩
  · have hcut : cut (splitBom text.toList).2 = ((cut (splitBom text.toList).2).1, _) := rfl
    rw [Document.finalNewline_ofText hcut] at hended
    rw [Document.lines_ofText, List.append_eq_nil_iff, List.map_eq_nil_iff] at hnil
    exact (of_decide_eq_true hended).1 hnil.1
  · exact htext (hchars ▸ List.mem_append_right _ (Document.mem_ofText hline hc))

theorem Document.Writable.set (hd : d.Writable) (h : WellFormed section_ key value)
    (hclean : (Edit.set section_ key value).Clean) : (d.set section_ key value).Writable := by
  have hset := set_lines d h
  obtain ⟨hsection, hkey, hvalue, hmark⟩ := hclean
  refine ⟨fun _ => set_ne_nil hset, fun line hline hc => ?_, fun line hline hc => ?_,
    fun hbom line hline hhead => ?_⟩
  · rcases mem_set hset hline hc with ⟨old, hold, hc⟩ | (hc | hc | hc) | hc
    · exact hd.plain old hold hc
    · exact h.sectionLine hc
    · exact h.keyLine hc
    · exact h.valueLine hc
    · revert hc
      decide
  · rcases mem_set hset hline hc with ⟨old, hold, hc⟩ | (hc | hc | hc) | hc
    · exact hd.clean old hold hc
    · exact hsection hc
    · exact hkey hc
    · exact hvalue hc
    · revert hc
      decide
  · rcases head?_set hset hline hhead (by decide) (by decide) with ⟨old, hold, hc⟩ | ⟨-, hc⟩
    · exact hd.mark hbom old hold hc
    · exact hmark hc

theorem Document.Writable.retire (hd : d.Writable) {retired : Line → Bool}
    (hlines : d'.lines = Document.retireLines section_ key reason retired [] d.lines)
    (hbom : d'.bom = d.bom) (hfinal : d'.finalNewline = d.finalNewline) (hplain : '\n' ∉ reason)
    (hclean : '\x00' ∉ reason) : d'.Writable := by
  refine ⟨fun hended => ?_, fun line hline hc => ?_, fun line hline hc => ?_,
    fun hnone line hline hhead => ?_⟩
  · rw [hlines]
    exact retire_ne_nil (hd.ended (hfinal ▸ hended))
  · rw [hlines] at hline
    rcases mem_retire hline hc with ⟨old, hold, hc⟩ | hc | hc
    · exact hd.plain old hold hc
    · exact hplain hc
    · revert hc
      decide
  · rw [hlines] at hline
    rcases mem_retire hline hc with ⟨old, hold, hc⟩ | hc | hc
    · exact hd.clean old hold hc
    · exact hclean hc
    · revert hc
      decide
  · rw [hlines] at hline
    exact hd.mark (hbom ▸ hnone) line (head?_retire hline hhead (by decide)) hhead

theorem Document.Writable.edit (hd : d.Writable) {edit : Edit} (h : edit.WellFormed)
    (hclean : edit.Clean) : (d.edit edit).Writable := by
  cases edit with
  | set section_ key value => exact hd.set h hclean
  | remove section_ key reason => exact hd.retire rfl rfl rfl hclean.1 hclean.2
  | commentIfValue section_ key values reason => exact hd.retire rfl rfl rfl hclean.1 hclean.2

theorem Document.Writable.edits (hd : d.Writable) {edits : List Edit}
    (h : ∀ edit ∈ edits, edit.WellFormed) (hclean : ∀ edit ∈ edits, edit.Clean) :
    (edits.foldl Document.edit d).Writable := by
  induction edits generalizing d with
  | nil => exact hd
  | cons edit edits ih =>
      exact ih (hd.edit (h edit List.mem_cons_self) (hclean edit List.mem_cons_self))
        (fun edit hedit => h edit (List.mem_cons_of_mem _ hedit))
        fun edit hedit => hclean edit (List.mem_cons_of_mem _ hedit)

theorem values_padded {found found' : List Line} (h : List.Forall₂ Padded found found') :
    found.filterMap assignmentValue = found'.filterMap assignmentValue := by
  induction h with
  | nil => rfl
  | cons hpad _ ih =>
      obtain ⟨pad, rfl, hblank⟩ := hpad
      rw [List.filterMap_cons, List.filterMap_cons, assignmentValue_pad hblank, ih]

/-- **What was written is read as a document of the same assignments.** -/
theorem Document.Writable.reread (hd : d.Writable) (hsize : d.render.length ≤ MAX_INI_BYTES) :
    ∃ d', Document.parse d.render = .ok d' ∧ d'.assignments = d.assignments := by
  obtain ⟨lines, last, hwritten⟩ := Document.exists_written hd.ended
  refine ⟨_, Document.parse_render_of (fun hmem => ?_) (fun hnone hhead => ?_) hsize, ?_⟩
  · obtain ⟨line, hline, hc⟩ := Document.mem_body hwritten (by decide) (by decide) hmem
    exact hd.clean line hline hc
  · obtain ⟨line, hline, hc⟩ := Document.head?_body hwritten (by decide) (by decide) hhead
    exact hd.mark hnone line hline hc
  · funext section_ key
    exact (values_padded (assigned_reread (reread_ofText d hd.ended hd.plain d.bom) [])).symm

end Writable

/-! ## 5. Scripts -/

/-- **A script of edits does what it means.** The document that was read and edited assigns what the
    edits make of the assignments, one edit after the other; both readers read it off; and when the
    edits are clean and the text is within the limit, it is read again with the same assignments. -/
theorem edits_refine {input : List UInt8} {d : Document} (hparse : Document.parse input = .ok d)
    {edits : List Edit} (h : ∀ edit ∈ edits, edit.WellFormed) :
    (edits.foldl Document.edit d).assignments = edits.foldl Edit.onAssignments d.assignments ∧
    (∀ section_ key,
      (edits.foldl Document.edit d).activeCount section_ key =
        (edits.foldl Edit.onAssignments d.assignments section_ key).length ∧
      (edits.foldl Document.edit d).effectiveValue section_ key =
        (edits.foldl Edit.onAssignments d.assignments section_ key).getLast?) ∧
    ((∀ edit ∈ edits, edit.Clean) →
      (edits.foldl Document.edit d).render.length ≤ MAX_INI_BYTES →
      ∃ d', Document.parse (edits.foldl Document.edit d).render = .ok d' ∧
        d'.assignments = edits.foldl Edit.onAssignments d.assignments) := by
  have hmeaning := assignments_edits d h
  refine ⟨hmeaning, fun section_ key => ?_, fun hclean hsize => ?_⟩
  · rw [← hmeaning]
    exact readers_of_assignments _ section_ key
  · obtain ⟨d', hread, hsame⟩ := ((Document.writable_parse hparse).edits h hclean).reread hsize
    exact ⟨d', hread, hsame.trans hmeaning⟩

/-- `k` of the section `m` is set, and the old values of `j` are taken out. -/
def sampleEdits : List Edit :=
  [.set ['m'] ['k'] ['2'], .commentIfValue ['M'] ['J'] [['O', 'N']] ['o', 'l', 'd'],
    .remove [] ['g'] ['n']]

theorem edits_refine_sample :
    ∃ d d', Document.parse (utf8 "g=1\n[m]\nk=1 ; n\nj=off\nj=on\n") = .ok d ∧
      Document.parse (sampleEdits.foldl Document.edit d).render = .ok d' ∧
      d'.assignments = sampleEdits.foldl Edit.onAssignments d.assignments ∧
      d'.assignments ['m'] ['k'] = [['2']] ∧ d'.assignments ['m'] ['j'] = [['o', 'f', 'f']] ∧
      d'.assignments [] ['g'] = [] := by
  have hparse : Document.parse (utf8 "g=1\n[m]\nk=1 ; n\nj=off\nj=on\n") = .ok ⟨["g=1".toList,
    "[m]".toList, "k=1 ; n".toList, "j=off".toList, "j=on".toList], .lf, true, false⟩ := rfl
  have hwell : ∀ edit ∈ sampleEdits, edit.WellFormed := by
    intro edit hedit
    simp only [sampleEdits, List.mem_cons, List.not_mem_nil, or_false] at hedit
    rcases hedit with rfl | rfl | rfl
    · exact wellFormed_m_k
    · trivial
    · trivial
  have hclean : ∀ edit ∈ sampleEdits, edit.Clean := by
    intro edit hedit
    simp only [sampleEdits, List.mem_cons, List.not_mem_nil, or_false] at hedit
    rcases hedit with rfl | rfl | rfl
    · exact ⟨by decide, by decide, by decide, by decide⟩
    · exact ⟨by decide, by decide⟩
    · exact ⟨by decide, by decide⟩
  obtain ⟨-, -, hread⟩ := edits_refine hparse hwell
  obtain ⟨d', hd', hsame⟩ := hread hclean (by decide +kernel)
  refine ⟨_, d', hparse, hd', hsame, ?_⟩
  rw [hsame]
  decide +kernel

end MisterMagik.Ini
