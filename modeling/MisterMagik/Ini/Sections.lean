/-
  File:      MisterMagik/Ini/Sections.lean
  Subject:   The assignments of a section, and moving one block behind another (`mister-ini`).

  The readers walk over the lines; what they say of a section and a key is said of the list of its
  assignments, the last of which counts. A block begins with its header, so what it assigns does not
  depend on what stands before it.

  * `assigned`, `effectiveValue_eq`, `activeCount_eq` -- the readers over the list of assignments;
  * `sectionRange_some` -- the first block of a section, and what stands around it;
  * `ensureSectionAfter_iff` -- the move keeps what is assigned and puts the sections in order
    exactly when at most one header of the later section stood before the earlier one.
-/
import MisterMagik.Ini.Document

namespace MisterMagik.Ini

open MisterMagik.Base

/-! ## 1. Assignments -/

/-- The active assignments of a section and a key, in lines that begin in a section. -/
def assigned (section_ key : Line) : Line → List Line → List Line
  | _, [] => []
  | current, line :: lines =>
      match sectionName line with
      | some name => assigned section_ key name lines
      | none =>
          if eqIgnoreAsciiCase current section_ && activeKeyEq line key then
            line :: assigned section_ key current lines
          else assigned section_ key current lines

/-- The section the lines end in. -/
def sectionAfter (current : Line) (lines : List Line) : Line :=
  lines.foldl (fun current line => (sectionName line).getD current) current

section Assigned

variable {section_ key current name line : Line} {lines rest : List Line}

theorem assigned_header (h : sectionName line = some name) :
    assigned section_ key current (line :: lines) = assigned section_ key name lines := by
  rw [assigned, h]

theorem assigned_cons (h : sectionName line = none) :
    assigned section_ key current (line :: lines) =
      (if eqIgnoreAsciiCase current section_ && activeKeyEq line key then [line] else []) ++
        assigned section_ key current lines := by
  rw [assigned, h]
  split
  · rename_i heq
    cases heq
  · rename_i heq
    split
    · rfl
    · rfl

theorem sectionAfter_header (h : sectionName line = some name) :
    sectionAfter current (line :: lines) = sectionAfter name lines := by
  unfold sectionAfter
  rw [List.foldl_cons, h, Option.getD_some]

theorem sectionAfter_cons (h : sectionName line = none) :
    sectionAfter current (line :: lines) = sectionAfter current lines := by
  unfold sectionAfter
  rw [List.foldl_cons, h, Option.getD_none]

theorem sectionAfter_append (current : Line) (lines rest : List Line) :
    sectionAfter current (lines ++ rest) = sectionAfter (sectionAfter current lines) rest :=
  List.foldl_append

theorem assigned_append (current : Line) (lines rest : List Line) :
    assigned section_ key current (lines ++ rest) =
      assigned section_ key current lines ++
        assigned section_ key (sectionAfter current lines) rest := by
  induction lines generalizing current with
  | nil => rfl
  | cons line lines ih =>
      rw [List.cons_append]
      cases h : sectionName line with
      | some name => rw [assigned_header h, assigned_header h, sectionAfter_header h, ih]
      | none =>
          rw [assigned_cons h, assigned_cons h, sectionAfter_cons h, ih, List.append_assoc]

/-- **A reader sees the assignments one after the other.** -/
theorem readLine_walk {σ : Type} (onActive : σ → Line → σ) (lines : List Line) (current : Line)
    (found : σ) :
    lines.foldl (Document.readLine section_ key onActive) (current, found) =
      (sectionAfter current lines, (assigned section_ key current lines).foldl onActive found) := by
  induction lines generalizing current found with
  | nil => rfl
  | cons line lines ih =>
      rw [List.foldl_cons]
      cases h : sectionName line with
      | some name =>
          rw [sectionAfter_header h, assigned_header h, ← ih]
          unfold Document.readLine
          rw [h]
      | none =>
          rw [sectionAfter_cons h, assigned_cons h, List.foldl_append]
          unfold Document.readLine
          rw [h]
          dsimp only
          split
          · exact ih current _
          · exact ih current found

theorem activeCount_eq (d : Document) (section_ key : Line) :
    d.activeCount section_ key = (assigned section_ key [] d.lines).length := by
  unfold Document.activeCount
  rw [readLine_walk]
  dsimp only
  induction assigned section_ key [] d.lines using List.reverseRecOn with
  | nil => rfl
  | append_singleton lines line ih => rw [List.foldl_concat, ih, List.length_append]; rfl

theorem effectiveValue_eq (d : Document) (section_ key : Line) :
    d.effectiveValue section_ key =
      (assigned section_ key [] d.lines).getLast?.bind assignmentValue := by
  unfold Document.effectiveValue
  rw [readLine_walk]
  dsimp only
  induction assigned section_ key [] d.lines using List.reverseRecOn with
  | nil => rfl
  | append_singleton lines line ih => rw [List.foldl_concat, List.getLast?_concat]; rfl

end Assigned

/-! ## 2. Blocks -/

/-- Lines that begin with a header, or no lines. -/
def Headed (lines : List Line) : Prop := ∀ line ∈ lines.head?, isHeader line = true

section Blocks

variable {section_ key current name line : Line} {lines rest front body : List Line}

theorem headed_nil : Headed [] := fun _ h => by cases h

theorem headed_append (h : Headed lines) (hrest : Headed rest) : Headed (lines ++ rest) := by
  cases lines with
  | nil => exact hrest
  | cons line lines => exact h

theorem headed_cons (h : isHeader line = true) (lines : List Line) : Headed (line :: lines) :=
  fun first hfirst => by
    cases hfirst
    exact h

theorem isHeader_iff : isHeader line = true ↔ ∃ name, sectionName line = some name := by
  unfold isHeader
  rw [Option.isSome_iff_exists]

theorem isHeaderOf_iff : isHeaderOf section_ line = true ↔
    ∃ name, sectionName line = some name ∧ eqIgnoreAsciiCase name section_ = true := by
  unfold isHeaderOf
  rw [Option.any_eq_true]

theorem isHeader_of (h : isHeaderOf section_ line = true) : isHeader line = true := by
  obtain ⟨name, hname, -⟩ := isHeaderOf_iff.1 h
  exact isHeader_iff.2 ⟨name, hname⟩

/-- A header of two names, of which one is another's in other case. -/
theorem isHeaderOf_trans {other line' : Line} (h : isHeaderOf section_ line = true)
    (h' : isHeaderOf other line = true) (hline : isHeaderOf section_ line' = true) :
    isHeaderOf other line' = true := by
  obtain ⟨name, hname, heq⟩ := isHeaderOf_iff.1 h
  obtain ⟨name', hname', heq'⟩ := isHeaderOf_iff.1 h'
  obtain ⟨name'', hname'', heq''⟩ := isHeaderOf_iff.1 hline
  rw [hname] at hname'
  cases hname'
  rw [eqIgnoreAsciiCase_iff] at heq heq' heq''
  exact isHeaderOf_iff.2
    ⟨name'', hname'', eqIgnoreAsciiCase_iff.2 (heq''.trans (heq.symm.trans heq'))⟩

/-- What a block assigns does not depend on the section before it. -/
theorem assigned_headed (h : Headed lines) (current other : Line) :
    assigned section_ key current lines = assigned section_ key other lines := by
  cases lines with
  | nil => rfl
  | cons line lines =>
      obtain ⟨name, hname⟩ := isHeader_iff.1 (h line rfl)
      rw [assigned_header hname, assigned_header hname]

/-- What stands behind a list is read in the section the list ends in, or from its own header. -/
theorem assigned_append_headed (h : Headed rest) :
    assigned section_ key current (lines ++ rest) =
      assigned section_ key current lines ++ assigned section_ key [] rest := by
  rw [assigned_append, assigned_headed h]

/-- In a section of another name nothing is assigned. -/
theorem assigned_nil (hcurrent : eqIgnoreAsciiCase current section_ = false)
    (h : ∀ line ∈ lines, ¬ isHeaderOf section_ line = true) :
    assigned section_ key current lines = [] := by
  induction lines generalizing current with
  | nil => rfl
  | cons line lines ih =>
      have hrest := fun line hline => h line (List.mem_cons_of_mem _ hline)
      cases hname : sectionName line with
      | some name =>
          rw [assigned_header hname]
          refine ih ?_ hrest
          by_contra hne
          exact h line List.mem_cons_self
            (isHeaderOf_iff.2 ⟨name, hname, Bool.of_not_eq_false hne⟩)
      | none =>
          rw [assigned_cons hname, hcurrent, ih hcurrent hrest]
          rfl

theorem assigned_nil_headed (hheaded : Headed lines)
    (h : ∀ line ∈ lines, ¬ isHeaderOf section_ line = true) :
    assigned section_ key current lines = [] := by
  cases lines with
  | nil => rfl
  | cons line lines =>
      obtain ⟨name, hname⟩ := isHeader_iff.1 (hheaded line rfl)
      rw [assigned_header hname]
      refine assigned_nil ?_ fun line hline => h line (List.mem_cons_of_mem _ hline)
      by_contra hne
      exact h line List.mem_cons_self (isHeaderOf_iff.2 ⟨name, hname, Bool.of_not_eq_false hne⟩)

/-- A block of the first header of a section: what stands around it. -/
structure FirstBlock (section_ : Line) (lines front : List Line) (header : Line)
    (body rest : List Line) : Prop where
  lines : lines = front ++ (header :: body ++ rest)
  first : ∀ line ∈ front, ¬ isHeaderOf section_ line = true
  header : isHeaderOf section_ header = true
  body : ∀ line ∈ body, ¬ isHeader line = true
  rest : Headed rest

theorem findIdx?_split {α : Type} {p : α → Bool} {xs : List α} {i : Nat}
    (h : xs.findIdx? p = some i) :
    ∃ front x back, xs = front ++ x :: back ∧ front.length = i ∧ (∀ y ∈ front, ¬ p y = true) ∧
      p x = true := by
  obtain ⟨hlt, hp, hbefore⟩ := List.findIdx?_eq_some_iff_getElem.1 h
  refine ⟨xs.take i, xs[i], xs.drop (i + 1), ?_, ?_, fun y hy => ?_, hp⟩
  · rw [List.getElem_cons_drop, List.take_append_drop]
  · rw [List.length_take]
    omega
  · obtain ⟨j, hj, rfl⟩ := List.mem_take_iff_getElem.1 hy
    exact hbefore j (by omega)

/-- **The range of a section is its first block.** -/
theorem sectionRange_some {start stop : Nat}
    (h : sectionRange lines section_ = some (start, stop)) :
    ∃ front header body rest, FirstBlock section_ lines front header body rest ∧
      front.length = start ∧ stop = start + 1 + body.length := by
  unfold sectionRange at h
  cases hstart : lines.findIdx? (isHeaderOf section_) with
  | none =>
      rw [hstart] at h
      cases h
  | some i =>
      rw [hstart] at h
      obtain ⟨front, header, back, rfl, rfl, hfirst, hheader⟩ := findIdx?_split hstart
      have hdrop : (front ++ header :: back).drop (front.length + 1) = back := by
        rw [List.drop_append]
        simp
      dsimp only at h
      rw [hdrop] at h
      cases hstop : back.findIdx? isHeader with
      | none =>
          rw [hstop] at h
          cases h
          refine ⟨front, header, back, [], ⟨by rw [List.append_nil], hfirst, hheader, ?_,
            headed_nil⟩, rfl, ?_⟩
          · intro line hline
            rw [List.findIdx?_eq_none_iff.1 hstop line hline]
            exact Bool.false_ne_true
          · dsimp only
            rw [List.length_append, List.length_cons]
            omega
      | some j =>
          rw [hstop] at h
          cases h
          obtain ⟨body, next, rest, rfl, rfl, hbody, hnext⟩ := findIdx?_split hstop
          refine ⟨front, header, body, next :: rest, ⟨rfl, hfirst, hheader, hbody, ?_⟩, rfl, rfl⟩
          intro line hline
          cases hline
          exact hnext

theorem sectionRange_none (h : sectionRange lines section_ = none) :
    ∀ line ∈ lines, ¬ isHeaderOf section_ line = true := by
  unfold sectionRange at h
  cases hstart : lines.findIdx? (isHeaderOf section_) with
  | none =>
      intro line hline
      rw [List.findIdx?_eq_none_iff.1 hstart line hline]
      exact Bool.false_ne_true
  | some i =>
      rw [hstart] at h
      cases h

end Blocks

/-! ## 3. Moving a block -/

/-- The headers of a section that stand before the first header of another. -/
def laterHeadersBefore (lines : List Line) (earlier later : Line) : Nat :=
  match lines.findIdx? (isHeaderOf earlier) with
  | none => 0
  | some first => (lines.take first).countP (isHeaderOf later)

/-- What a move is to do: the lines in another order that assigns the same, with no header of
    `later` before the first of `earlier`, and nothing left to do. -/
structure Reordered (d d' : Document) (earlier later : Line) : Prop where
  rest : d' = { d with lines := d'.lines }
  permuted : d'.lines.Perm d.lines
  values : ∀ section_ key, d'.effectiveValue section_ key = d.effectiveValue section_ key
  counts : ∀ section_ key, d'.activeCount section_ key = d.activeCount section_ key
  ordered : laterHeadersBefore d'.lines earlier later = 0
  stable : d'.ensureSectionAfter earlier later = d'

section Move

variable {earlier later header other : Line} {lines front middle body otherBody rest : List Line}

theorem laterHeadersBefore_none (h : ∀ line ∈ lines, ¬ isHeaderOf earlier line = true) :
    laterHeadersBefore lines earlier later = 0 := by
  unfold laterHeadersBefore
  rw [List.findIdx?_eq_none_iff.2 fun line hline => Bool.of_not_eq_true (h line hline)]

theorem laterHeadersBefore_eq (hfront : ∀ line ∈ front, ¬ isHeaderOf earlier line = true)
    (hheader : isHeaderOf earlier header = true) :
    laterHeadersBefore (front ++ header :: rest) earlier later =
      front.countP (isHeaderOf later) := by
  have hfirst : (front ++ header :: rest).findIdx? (isHeaderOf earlier) = some front.length := by
    rw [List.findIdx?_append, List.findIdx?_eq_none_iff.2 fun line hline =>
      Bool.of_not_eq_true (hfront line hline), Option.none_or, List.findIdx?_cons, hheader]
    simp
  unfold laterHeadersBefore
  rw [hfirst]
  dsimp only
  rw [List.take_left]

/-- A block of `later`, what stands between, and the first block of `earlier` behind it. -/
structure Behind (earlier later : Line) (lines front : List Line) (header : Line)
    (body middle : List Line) (other : Line) (otherBody rest : List Line) : Prop where
  split : lines = front ++ (header :: body ++ (middle ++ (other :: otherBody ++ rest)))
  first : ∀ line ∈ front, ¬ isHeaderOf later line = true
  isLater : isHeaderOf later header = true
  bodyLines : ∀ line ∈ body, ¬ isHeader line = true
  headedMiddle : Headed middle
  earlierFirst : ∀ line ∈ front ++ (header :: body ++ middle), ¬ isHeaderOf earlier line = true
  isEarlier : isHeaderOf earlier other = true
  otherLines : ∀ line ∈ otherBody, ¬ isHeader line = true
  headedRest : Headed rest

/-- Of two first blocks the one that begins first ends before the other. -/
theorem behind_of_blocks (hearlier : FirstBlock earlier lines front other otherBody rest)
    {before after : List Line} (hlater : FirstBlock later lines before header body after)
    (hlt : before.length < front.length) :
    ∃ middle, Behind earlier later lines before header body middle other otherBody rest ∧
      front = before ++ (header :: body ++ middle) := by
  have hsplit : front ++ (other :: otherBody ++ rest) = (before ++ header :: body) ++ after := by
    rw [List.append_assoc]
    exact hearlier.lines.symm.trans hlater.lines
  obtain ⟨middle, hfront, hafter⟩ : ∃ middle, front = (before ++ header :: body) ++ middle ∧
      after = middle ++ (other :: otherBody ++ rest) := by
    rcases List.append_eq_append_iff.1 hsplit with ⟨m, hbefore, hother⟩ | ⟨m, hfront, hafter⟩
    · -- the other header would stand in the body of this block
      cases m with
      | nil =>
          rw [List.append_nil] at hbefore
          exact ⟨[], by rw [List.append_nil, hbefore], hother.symm⟩
      | cons line m =>
          have hline : line = other := (List.cons.inj hother).1.symm
          subst hline
          rcases List.append_eq_append_iff.1 hbefore with ⟨k, hk, hbody⟩ | ⟨k, hk, _⟩
          · cases k with
            | nil =>
                rw [List.append_nil] at hk
                rw [hk] at hlt
                exact absurd hlt (Nat.lt_irrefl _)
            | cons first k =>
                have hmem : line ∈ body := by
                  have htail := (List.cons.inj hbody).2
                  rw [htail]
                  exact List.mem_append_right _ List.mem_cons_self
                exact absurd (isHeader_of hearlier.header) (hlater.body line hmem)
          · rw [hk, List.length_append] at hlt
            omega
    · exact ⟨m, hfront, hafter⟩
  rw [List.append_assoc] at hfront
  refine ⟨middle, ⟨?_, hlater.first, hlater.header, hlater.body, ?_, ?_, hearlier.header,
    hearlier.body, hearlier.rest⟩, hfront⟩
  · rw [hlater.lines, hafter]
  · intro line hline
    refine hlater.rest line ?_
    rw [hafter]
    cases middle with
    | nil => cases hline
    | cons first middle => exact hline
  · exact hfront ▸ hearlier.first

theorem sectionRange_stop {start stop stop' : Nat}
    (h : sectionRange lines earlier = some (start, stop))
    (h' : sectionRange lines later = some (start, stop')) : stop = stop' := by
  unfold sectionRange at h h'
  cases hstart : lines.findIdx? (isHeaderOf earlier) with
  | none =>
      rw [hstart] at h
      cases h
  | some i =>
      cases hstart' : lines.findIdx? (isHeaderOf later) with
      | none =>
          rw [hstart'] at h'
          cases h'
      | some i' =>
          rw [hstart] at h
          rw [hstart'] at h'
          simp only [Option.some.injEq, Prod.mk.injEq] at h h'
          obtain ⟨rfl, rfl⟩ := h
          obtain ⟨rfl, rfl⟩ := h'
          rfl

/-- A block that is put back where it was. -/
theorem move_back {start stop : Nat} (hstart : start ≤ stop) (hstop : stop ≤ lines.length) :
    (lines.take start ++ lines.drop stop).take start ++
        (lines.drop start).take (stop - start) ++
      (lines.take start ++ lines.drop stop).drop start = lines := by
  have hlen : (lines.take start).length = start := by
    rw [List.length_take]
    omega
  rw [List.take_left' hlen, List.drop_left' hlen, List.append_assoc]
  have hrest : (lines.drop start).take (stop - start) ++ lines.drop stop = lines.drop start := by
    have hsum : start + (stop - start) = stop := by omega
    have hsplit := List.take_append_drop (stop - start) (lines.drop start)
    rw [List.drop_drop, hsum] at hsplit
    exact hsplit
  rw [hrest, List.take_append_drop]

/-- A block taken out and put in behind two others. -/
theorem move_behind {α : Type} (front block middle other rest : List α) {start stop insertion : Nat}
    (hstart : start = front.length) (hstop : stop = start + block.length)
    (hinsertion : insertion = front.length + (middle.length + other.length)) :
    let lines := front ++ (block ++ (middle ++ (other ++ rest)))
    (lines.take start ++ lines.drop stop).take insertion ++
          (lines.drop start).take (stop - start) ++
        (lines.take start ++ lines.drop stop).drop insertion =
      front ++ (middle ++ (other ++ (block ++ rest))) := by
  intro lines
  have htake : lines.take start = front := List.take_left' hstart.symm
  have hdrop : lines.drop start = block ++ (middle ++ (other ++ rest)) :=
    List.drop_left' hstart.symm
  have hkept : lines.drop stop = middle ++ (other ++ rest) := by
    rw [hstop, ← List.drop_drop, hdrop, List.drop_left]
  have hlen : (front ++ (middle ++ other)).length = insertion := by
    rw [List.length_append, List.length_append, hinsertion]
  have hall : front ++ (middle ++ (other ++ rest)) = (front ++ (middle ++ other)) ++ rest := by
    simp only [List.append_assoc]
  have hcount : stop - start = block.length := by omega
  rw [htake, hdrop, hkept, hall, List.take_left' hlen, List.drop_left' hlen, hcount, List.take_left]
  simp only [List.append_assoc]

/-- **The move does nothing, or takes the block of `later` behind that of `earlier`.** -/
theorem ensureSectionAfter_cases (d : Document) (earlier later : Line) :
    (d.ensureSectionAfter earlier later = d ∧ laterHeadersBefore d.lines earlier later = 0) ∨
    ∃ front header body middle other otherBody rest,
      Behind earlier later d.lines front header body middle other otherBody rest ∧
      d.ensureSectionAfter earlier later = { d with
        lines := front ++ (middle ++ (other :: otherBody ++ (header :: body ++ rest))) } := by
  unfold Document.ensureSectionAfter
  cases hearlier : sectionRange d.lines earlier with
  | none => exact Or.inl ⟨rfl, laterHeadersBefore_none (sectionRange_none hearlier)⟩
  | some earlierRange =>
      obtain ⟨earlierStart, earlierEnd⟩ := earlierRange
      obtain ⟨front, other, otherBody, rest, hblock, rfl, rfl⟩ := sectionRange_some hearlier
      have hbefore : laterHeadersBefore d.lines earlier later =
          front.countP (isHeaderOf later) := by
        rw [hblock.lines]
        exact laterHeadersBefore_eq hblock.first hblock.header
      cases hlater : sectionRange d.lines later with
      | none =>
          refine Or.inl ⟨rfl, ?_⟩
          rw [hbefore]
          refine List.countP_eq_zero.2 fun line hline => sectionRange_none hlater line ?_
          rw [hblock.lines]
          exact List.mem_append_left _ hline
      | some laterRange =>
          obtain ⟨laterStart, laterEnd⟩ := laterRange
          obtain ⟨before, header, body, after, hmoved, rfl, rfl⟩ := sectionRange_some hlater
          dsimp only
          rcases Nat.lt_or_ge before.length front.length with hlt | hge
          · obtain ⟨middle, hbehind, rfl⟩ := behind_of_blocks hblock hmoved hlt
            refine Or.inr ⟨before, header, body, middle, other, otherBody, rest, hbehind, ?_⟩
            rw [if_neg (by omega), hbehind.split]
            have hstop : before.length + 1 + body.length =
                before.length + (header :: body).length := by
              rw [List.length_cons]
              omega
            have hinsertion : (before ++ (header :: body ++ middle)).length + 1 + otherBody.length -
                (before.length + 1 + body.length - before.length) =
                  before.length + (middle.length + (other :: otherBody).length) := by
              simp only [List.length_append, List.length_cons]
              omega
            exact congrArg (fun lines => { d with lines }) (move_behind before (header :: body)
              middle (other :: otherBody) rest rfl hstop hinsertion)
          · have hfront : front <+: before :=
              List.prefix_of_prefix_length_le ⟨_, hblock.lines.symm⟩ ⟨_, hmoved.lines.symm⟩ hge
            refine Or.inl ⟨?_, ?_⟩
            · split
              · rfl
              · have heq : before.length = front.length := by omega
                rw [heq] at hlater ⊢
                have hstop := sectionRange_stop hearlier hlater
                rw [← hstop]
                have hlen := congrArg List.length hblock.lines
                rw [List.length_append, List.length_append, List.length_cons] at hlen
                have hinsert : front.length + 1 + otherBody.length -
                    (front.length + 1 + otherBody.length - front.length) = front.length := by omega
                rw [hinsert, move_back (by omega) (by omega)]
            · rw [hbefore]
              exact List.countP_eq_zero.2 fun line hline =>
                hmoved.first line (hfront.subset hline)

variable {d : Document}

/-- Only headers of `later` in the middle tell the two orders apart. -/
theorem assigned_behind (h : Behind earlier later lines front header body middle other otherBody
    rest) (hmiddle : ∀ line ∈ middle, ¬ isHeaderOf later line = true) (section_ key : Line) :
    assigned section_ key []
        (front ++ (middle ++ (other :: otherBody ++ (header :: body ++ rest)))) =
      assigned section_ key [] lines := by
  have hblock := headed_cons (isHeader_of h.isLater) body
  have hother := headed_cons (isHeader_of h.isEarlier) otherBody
  have hrest := h.headedRest
  have hend := headed_append hblock hrest
  have hend' := headed_append hother hrest
  rw [h.split, assigned_append_headed (headed_append h.headedMiddle (headed_append hother hend)),
    assigned_append_headed (headed_append hother hend), assigned_append_headed hend,
    assigned_append_headed hrest,
    assigned_append_headed (headed_append hblock (headed_append h.headedMiddle hend')),
    assigned_append_headed (headed_append h.headedMiddle hend'), assigned_append_headed hend',
    assigned_append_headed hrest]
  by_cases hsame : isHeaderOf section_ header = true
  · have hmiddle' : assigned section_ key [] middle = [] :=
      assigned_nil_headed h.headedMiddle fun line hline hof =>
        hmiddle line hline (isHeaderOf_trans hsame h.isLater hof)
    have hother' : assigned section_ key [] (other :: otherBody) = [] := by
      refine assigned_nil_headed hother fun line hline hof => ?_
      rcases List.mem_cons.1 hline with rfl | hline
      · have hheader : header ∈ front ++ (header :: body ++ middle) :=
          List.mem_append_right _ List.mem_cons_self
        exact h.earlierFirst header hheader (isHeaderOf_trans hof h.isEarlier hsame)
      · exact h.otherLines line hline (isHeader_of hof)
    rw [hmiddle', hother', List.nil_append, List.nil_append, List.nil_append, List.nil_append]
  · have hblock' : assigned section_ key [] (header :: body) = [] := by
      refine assigned_nil_headed hblock fun line hline hof => ?_
      rcases List.mem_cons.1 hline with rfl | hline
      · exact hsame hof
      · exact h.bodyLines line hline (isHeader_of hof)
    rw [hblock', List.nil_append, List.nil_append]

/-- Two headers of `later` before `earlier`: one of them is left there. -/
theorem laterHeadersBefore_behind
    (h : Behind earlier later lines front header body middle other otherBody rest) :
    laterHeadersBefore lines earlier later = middle.countP (isHeaderOf later) + 1 ∧
      laterHeadersBefore
          (front ++ (middle ++ (other :: otherBody ++ (header :: body ++ rest)))) earlier later =
        middle.countP (isHeaderOf later) := by
  have hfront : front.countP (isHeaderOf later) = 0 := List.countP_eq_zero.2 h.first
  have hbody : body.countP (isHeaderOf later) = 0 :=
    List.countP_eq_zero.2 fun line hline hof => h.bodyLines line hline (isHeader_of hof)
  constructor
  · have hall : lines = (front ++ (header :: body ++ middle)) ++ other :: (otherBody ++ rest) := by
      rw [h.split]
      simp only [List.append_assoc, List.cons_append]
    rw [hall, laterHeadersBefore_eq h.earlierFirst h.isEarlier]
    simp only [List.countP_append, List.countP_cons, h.isLater, hfront, hbody, if_true]
    omega
  · have hall : front ++ (middle ++ (other :: otherBody ++ (header :: body ++ rest))) =
        (front ++ middle) ++ other :: (otherBody ++ (header :: body ++ rest)) := by
      simp only [List.append_assoc, List.cons_append]
    rw [hall, laterHeadersBefore_eq (fun line hline => h.earlierFirst line ?_) h.isEarlier,
      List.countP_append, hfront, Nat.zero_add]
    rcases List.mem_append.1 hline with hline | hline
    · exact List.mem_append_left _ hline
    · exact List.mem_append_right _ (List.mem_append_right _ hline)

theorem ensureSectionAfter_of_zero (hzero : laterHeadersBefore d.lines earlier later = 0) :
    d.ensureSectionAfter earlier later = d := by
  rcases ensureSectionAfter_cases d earlier later with ⟨hsame, -⟩ |
    ⟨front, header, body, middle, other, otherBody, rest, hbehind, -⟩
  · exact hsame
  · have hbefore := (laterHeadersBefore_behind hbehind).1
    omega

/-- **A move keeps what is assigned, puts the sections in order and is done once, exactly when at
    most one header of `later` stood before the first header of `earlier`.** -/
theorem ensureSectionAfter_iff (d : Document) (earlier later : Line) :
    Reordered d (d.ensureSectionAfter earlier later) earlier later ↔
      laterHeadersBefore d.lines earlier later ≤ 1 := by
  rcases ensureSectionAfter_cases d earlier later with ⟨hsame, hzero⟩ |
    ⟨front, header, body, middle, other, otherBody, rest, hbehind, hmoved⟩
  · rw [hsame]
    exact ⟨fun _ => by omega,
      fun _ => ⟨rfl, .refl _, fun _ _ => rfl, fun _ _ => rfl, hzero, hsame⟩⟩
  · obtain ⟨hbefore, hafter⟩ := laterHeadersBefore_behind hbehind
    rw [hmoved]
    constructor
    · intro h
      have hordered := h.ordered
      rw [hafter] at hordered
      omega
    · intro hone
      have hmiddle : ∀ line ∈ middle, ¬ isHeaderOf later line = true :=
        List.countP_eq_zero.1 (by omega)
      have hassigned := assigned_behind hbehind hmiddle
      have hzero : middle.countP (isHeaderOf later) = 0 := by omega
      refine ⟨rfl, ?_, fun section_ key => ?_, fun section_ key => ?_, hafter.trans hzero, ?_⟩
      · dsimp only
        rw [hbehind.split]
        refine List.Perm.append_left front ?_
        have hperm := List.perm_append_comm_assoc (middle ++ (other :: otherBody)) (header :: body)
          rest
        rw [List.append_assoc, List.append_assoc] at hperm
        exact hperm
      · rw [effectiveValue_eq, effectiveValue_eq, hassigned]
      · rw [activeCount_eq, activeCount_eq, hassigned]
      · exact ensureSectionAfter_of_zero (hafter.trans hzero)

/-- Two blocks of `later` before `earlier`: only the first is moved, and its value counts last. -/
theorem repeated_section_not_reordered :
    let d : Document := ⟨["[b]".toList, "k=1".toList, "[b]".toList, "k=2".toList, "[a]".toList],
      .lf, true, false⟩
    ¬ Reordered d (d.ensureSectionAfter "a".toList "b".toList) "a".toList "b".toList ∧
      d.effectiveValue "b".toList "k".toList = some "2".toList ∧
      (d.ensureSectionAfter "a".toList "b".toList).effectiveValue "b".toList "k".toList =
        some "1".toList := by
  refine ⟨fun h => ?_, by decide +kernel, by decide +kernel⟩
  exact absurd h.ordered (by decide +kernel)

end Move

end MisterMagik.Ini
