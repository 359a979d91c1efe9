/-
  File:      MisterMagik/Ini/Render.lean
  Subject:   Reading what was written (`Document::parse`, `Document::render`).

  A line that was read has lost the carriage returns of its ending, one behind the line feed's own
  and one more. What was written is read as the same document unless a carriage return is left at
  the end of a line: it is then taken for a part of the ending.

  * `cut_body` -- what is written is cut into the lines of the document;
  * `parse_render_of` -- what is written is accepted within the limit;
  * `normalForm_iff` -- reading and writing are each other's inverse, and no carriage return stands
    before another, exactly when no line is left with a carriage return to lose.
-/
import MisterMagik.Ini.Document

namespace MisterMagik.Ini

open MisterMagik.Base

/-! ## 1. Carriage returns -/

/-- What the ending of a line has before its line feed. -/
def Newline.cr : Newline → List Char
  | lf => []
  | crlf => ['\r']

/-- A line of a text that ends in a line feed, as it is read. -/
def readTerminated (line : Line) : Line := stripCr (stripCr line)

section Cr

variable {line : Line}

theorem chars_eq (nl : Newline) : nl.chars = nl.cr ++ ['\n'] := by
  cases nl with
  | lf => rfl
  | crlf => rfl

theorem stripCr_concat (line : Line) : stripCr (line ++ ['\r']) = line := by
  unfold stripCr
  rw [if_pos List.getLast?_concat, List.dropLast_concat]

theorem stripCr_of_ne (h : line.getLast? ≠ some '\r') : stripCr line = line := if_neg h

/-- A line that ends in a carriage return is one less without it. -/
theorem exists_of_getLast (h : line.getLast? = some '\r') : ∃ front, line = front ++ ['\r'] :=
  List.getLast?_eq_some_iff.1 h

theorem stripCr_self_iff : stripCr line = line ↔ line.getLast? ≠ some '\r' := by
  refine ⟨fun h hlast => ?_, stripCr_of_ne⟩
  obtain ⟨front, rfl⟩ := exists_of_getLast hlast
  rw [stripCr_concat] at h
  have hlen := congrArg List.length h
  rw [List.length_append, List.length_singleton] at hlen
  omega

theorem stripCr_front (line : Line) : stripCr line <+: line := by
  unfold stripCr
  split
  · exact List.dropLast_prefix line
  · exact List.prefix_refl line

theorem mem_stripCr {c : Char} (h : c ∈ stripCr line) : c ∈ line := (stripCr_front line).subset h

theorem mem_readTerminated {c : Char} (h : c ∈ readTerminated line) : c ∈ line :=
  mem_stripCr (mem_stripCr h)

theorem stripCr_of_not_mem (h : '\r' ∉ line) : stripCr line = line :=
  stripCr_of_ne fun hlast => h (List.mem_of_getLast? hlast)

theorem readTerminated_of_ne (h : line.getLast? ≠ some '\r') : readTerminated line = line := by
  unfold readTerminated
  rw [stripCr_of_ne h, stripCr_of_ne h]

theorem readTerminated_append (nl : Newline) (h : line.getLast? ≠ some '\r') :
    readTerminated (line ++ nl.cr) = line := by
  unfold readTerminated
  cases nl with
  | lf => rw [Newline.cr, List.append_nil, stripCr_of_ne h, stripCr_of_ne h]
  | crlf => rw [Newline.cr, stripCr_concat, stripCr_of_ne h]

variable {rest : Line} {lines : List Line}

theorem getLast?_cons_of_ne {c : Char} (h : line ≠ []) : (c :: line).getLast? = line.getLast? := by
  rw [← List.singleton_append, List.getLast?_append_of_ne_nil _ h]

theorem crlf_line (h : '\n' ∉ line) (rest : Line) :
    ['\r', '\n'] <:+: line ++ '\n' :: rest ↔
      line.getLast? = some '\r' ∨ ['\r', '\n'] <:+: rest := by
  induction line with
  | nil => simp [List.infix_cons_iff]
  | cons c line ih =>
      rw [List.cons_append, List.infix_cons_iff, ih fun hmem => h (List.mem_cons_of_mem _ hmem),
        List.cons_prefix_cons, ← or_assoc]
      refine or_congr_left ?_
      cases line with
      | nil => simp [eq_comm]
      | cons d line =>
          have hd : '\n' ≠ d := fun heq =>
            h (heq ▸ List.mem_cons_of_mem _ List.mem_cons_self)
          rw [getLast?_cons_of_ne (List.cons_ne_nil d line), List.cons_append,
            List.cons_prefix_cons]
          exact ⟨fun hor => hor.resolve_left fun hfront => hd hfront.2.1, Or.inr⟩

theorem crlf_lines (hlines : ∀ line ∈ lines, '\n' ∉ line) (hrest : '\n' ∉ rest) :
    ['\r', '\n'] <:+: lines.flatMap (· ++ ['\n']) ++ rest ↔
      ∃ line ∈ lines, line.getLast? = some '\r' := by
  induction lines with
  | nil =>
      rw [List.flatMap_nil, List.nil_append]
      refine ⟨fun hinfix => absurd ?_ hrest, fun hex => ?_⟩
      · exact hinfix.subset (List.mem_cons_of_mem _ List.mem_cons_self)
      · obtain ⟨line, hline, -⟩ := hex
        cases hline
  | cons line lines ih =>
      rw [List.flatMap_cons, List.append_assoc, List.append_assoc, List.singleton_append,
        crlf_line (hlines line List.mem_cons_self),
        ih fun line hline => hlines line (List.mem_cons_of_mem _ hline), List.exists_mem_cons_iff]

theorem pair_line (line rest : Line) :
    ['\r', '\r'] <:+: line ++ '\n' :: rest ↔ ['\r', '\r'] <:+: line ∨ ['\r', '\r'] <:+: rest := by
  induction line with
  | nil => simp [List.infix_cons_iff]
  | cons c line ih =>
      rw [List.cons_append, List.infix_cons_iff, ih, List.infix_cons_iff, or_assoc,
        List.cons_prefix_cons, List.cons_prefix_cons]
      refine or_congr_left ?_
      cases line with
      | nil => simp
      | cons d line => rw [List.cons_append, List.cons_prefix_cons, List.cons_prefix_cons,
          and_iff_left List.nil_prefix, and_iff_left List.nil_prefix]

theorem pair_lines (lines : List Line) (rest : Line) :
    ['\r', '\r'] <:+: lines.flatMap (· ++ ['\n']) ++ rest ↔
      (∃ line ∈ lines, ['\r', '\r'] <:+: line) ∨ ['\r', '\r'] <:+: rest := by
  induction lines with
  | nil => simp
  | cons line lines ih =>
      rw [List.flatMap_cons, List.append_assoc, List.append_assoc, List.singleton_append,
        pair_line, ih, List.exists_mem_cons_iff, or_assoc]

theorem pair_concat (line : Line) :
    ['\r', '\r'] <:+: line ++ ['\r'] ↔ ['\r', '\r'] <:+: line ∨ line.getLast? = some '\r' := by
  induction line with
  | nil => simp [List.infix_cons_iff]
  | cons c line ih =>
      rw [List.cons_append, List.infix_cons_iff, ih, List.infix_cons_iff, List.cons_prefix_cons,
        List.cons_prefix_cons]
      cases line with
      | nil =>
          have hc : c = '\r' ↔ '\r' = c := eq_comm
          simp [hc]
      | cons d line =>
          rw [getLast?_cons_of_ne (List.cons_ne_nil d line), List.cons_append,
            List.cons_prefix_cons, List.cons_prefix_cons, and_iff_left List.nil_prefix,
            and_iff_left List.nil_prefix, or_assoc]

end Cr

/-! ## 2. Documents of a text -/

namespace Document

section Text

variable {text rest : List Char} {lines : List Line} {bom : Bool}

theorem lines_ofText (bom : Bool) (text : List Char) :
    (ofText bom text).lines = (cut text).1.map readTerminated ++
      if (cut text).2 = [] then [] else [stripCr (cut text).2] := by
  unfold ofText strLines
  dsimp only
  rw [List.map_append, List.map_map]
  congr 1
  split
  · rfl
  · rfl

theorem text_eq (h : cut text = (lines, rest)) :
    text = lines.flatMap (· ++ ['\n']) ++ rest := by
  have hspec := (cut_spec text).1
  rw [h] at hspec
  exact hspec

theorem plain_of_cut (h : cut text = (lines, rest)) :
    (∀ line ∈ lines, '\n' ∉ line) ∧ '\n' ∉ rest := by
  have hspec := (cut_spec text).2
  rw [h] at hspec
  exact hspec

/-- The text ends in a line feed when it has lines and nothing behind them. -/
theorem finalNewline_ofText (h : cut text = (lines, rest)) :
    (ofText bom text).finalNewline = decide (lines ≠ [] ∧ rest = []) := by
  have hrest := (plain_of_cut h).2
  have htext := text_eq h
  have hiff : text.getLast? = some '\n' ↔ lines ≠ [] ∧ rest = [] := by
    constructor
    · intro hlast
      have hnil : rest = [] := by
        by_contra hne
        rw [htext, List.getLast?_append_of_ne_nil _ hne] at hlast
        exact hrest (List.mem_of_getLast? hlast)
      refine ⟨fun hlines => ?_, hnil⟩
      rw [htext, hlines, hnil] at hlast
      cases hlast
    · rintro ⟨hne, rfl⟩
      obtain ⟨front, line, rfl⟩ := List.eq_nil_or_concat' lines |>.resolve_left hne
      rw [htext, List.append_nil, List.flatMap_append, List.flatMap_singleton, ← List.append_assoc,
        List.getLast?_concat]
  unfold ofText
  exact decide_eq_decide.2 hiff

/-- A text is written with carriage returns when a line that ends in a line feed has one. -/
theorem newline_ofText (h : cut text = (lines, rest)) :
    (ofText bom text).newline =
      if ∃ line ∈ lines, line.getLast? = some '\r' then .crlf else .lf := by
  obtain ⟨hlines, hrest⟩ := plain_of_cut h
  have hiff : ['\r', '\n'] <:+: text ↔ ∃ line ∈ lines, line.getLast? = some '\r' := by
    rw [text_eq h]
    exact crlf_lines hlines hrest
  unfold ofText
  dsimp only
  by_cases hcr : ∃ line ∈ lines, line.getLast? = some '\r'
  · rw [if_pos hcr, if_pos (hiff.2 hcr)]
  · rw [if_neg hcr, if_neg fun hmem => hcr (hiff.1 hmem)]

end Text

/-! ## 3. What is written -/

/-- The lines of a document that are written with an ending, and the one that is not. -/
inductive Written (d : Document) : List Line → Line → Prop
  | terminated {lines : List Line} : d.finalNewline = true → d.lines = lines → lines ≠ [] →
      Written d lines []
  | open_ {lines : List Line} {last : Line} : d.finalNewline = false → d.lines = lines ++ [last] →
      Written d lines last
  | empty : d.finalNewline = false → d.lines = [] → Written d [] []

section Body

variable {d : Document} {lines : List Line} {last : Line}

theorem exists_written (h : d.finalNewline = true → d.lines ≠ []) :
    ∃ lines last, Written d lines last := by
  cases hfinal : d.finalNewline with
  | true => exact ⟨_, _, .terminated hfinal rfl (h hfinal)⟩
  | false =>
      rcases List.eq_nil_or_concat' d.lines with hnil | ⟨lines, last, hlines⟩
      · exact ⟨_, _, .empty hfinal hnil⟩
      · exact ⟨lines, last, .open_ hfinal hlines⟩

theorem intercalate_concat (nl : List Char) (lines : List Line) (last : Line) :
    nl.intercalate (lines ++ [last]) = lines.flatMap (· ++ nl) ++ last := by
  induction lines with
  | nil => simp
  | cons line lines ih =>
      obtain ⟨next, rest, hrest⟩ : ∃ next rest, lines ++ [last] = next :: rest :=
        List.exists_cons_of_ne_nil (by simp)
      rw [List.cons_append, hrest, List.intercalate_cons_cons, ← hrest, ih, List.flatMap_cons]
      simp only [List.append_assoc]

/-- **What is written is the lines with their endings, and the line without one.** -/
theorem body_eq (h : Written d lines last) :
    d.body = (lines.map (· ++ d.newline.cr)).flatMap (· ++ ['\n']) ++ last := by
  have hflat : (lines.map (· ++ d.newline.cr)).flatMap (· ++ ['\n']) =
      lines.flatMap (· ++ d.newline.chars) := by
    rw [List.flatMap_map]
    congr 1
    funext line
    rw [chars_eq, List.append_assoc]
  rw [hflat]
  unfold body
  cases h with
  | terminated hfinal hlines hne =>
      obtain ⟨front, line, rfl⟩ := List.eq_nil_or_concat' lines |>.resolve_left hne
      rw [hfinal, if_pos rfl, hlines, intercalate_concat, List.flatMap_append,
        List.flatMap_singleton, List.append_nil, List.append_assoc]
  | open_ hfinal hlines =>
      rw [hfinal, if_neg Bool.false_ne_true, hlines, intercalate_concat, List.append_nil]
  | empty hfinal hlines =>
      rw [hfinal, if_neg Bool.false_ne_true, hlines]
      rfl

theorem mem_cr {nl : Newline} {c : Char} (h : c ∈ nl.cr) : c = '\r' := by
  cases nl with
  | lf => cases h
  | crlf => exact List.mem_singleton.1 h

theorem cut_body (h : Written d lines last) (hplain : ∀ line ∈ d.lines, '\n' ∉ line) :
    cut d.body = (lines.map (· ++ d.newline.cr), last) := by
  have hparts : (∀ line ∈ lines, '\n' ∉ line) ∧ '\n' ∉ last := by
    cases h with
    | terminated _ hlines _ => exact ⟨hlines ▸ hplain, List.not_mem_nil⟩
    | open_ _ hlines =>
        rw [hlines] at hplain
        exact ⟨fun line hline => hplain line (List.mem_append_left _ hline),
          hplain last (List.mem_append_right _ (List.mem_singleton_self last))⟩
    | empty _ _ => exact ⟨fun line hline => absurd hline List.not_mem_nil, List.not_mem_nil⟩
  rw [body_eq h]
  refine cut_written (fun line hline => ?_) hparts.2
  obtain ⟨plain, hmem, rfl⟩ := List.mem_map.1 hline
  intro hnl
  rcases List.mem_append.1 hnl with hnl | hnl
  · exact hparts.1 plain hmem hnl
  · exact absurd (mem_cr hnl) (by decide)

/-- What is written has no characters but those of the lines and the endings. -/
theorem mem_body {c : Char} (h : Written d lines last) (hcr : c ≠ '\r') (hlf : c ≠ '\n')
    (hmem : c ∈ d.body) : ∃ line ∈ d.lines, c ∈ line := by
  have hparts : (∀ line ∈ lines, line ∈ d.lines) ∧ (c ∈ last → last ∈ d.lines) := by
    cases h with
    | terminated _ hlines _ => exact ⟨hlines ▸ fun _ hline => hline, fun hc => by cases hc⟩
    | open_ _ hlines =>
        rw [hlines]
        exact ⟨fun _ hline => List.mem_append_left _ hline,
          fun _ => List.mem_append_right _ (List.mem_singleton_self last)⟩
    | empty _ _ =>
        exact ⟨fun line hline => absurd hline List.not_mem_nil, fun hc => by cases hc⟩
  rw [body_eq h] at hmem
  rcases List.mem_append.1 hmem with hmem | hmem
  · obtain ⟨written, hwritten, hc⟩ := List.mem_flatMap.1 hmem
    obtain ⟨line, hline, rfl⟩ := List.mem_map.1 hwritten
    rcases List.mem_append.1 hc with hc | hc
    · rcases List.mem_append.1 hc with hc | hc
      · exact ⟨line, hparts.1 line hline, hc⟩
      · exact absurd (mem_cr hc) hcr
    · exact absurd (List.mem_singleton.1 hc) hlf
  · exact ⟨last, hparts.2 hmem, hmem⟩

/-- What is written begins as the first line does, or with an ending. -/
theorem head?_body {c : Char} (h : Written d lines last) (hcr : c ≠ '\r') (hlf : c ≠ '\n')
    (hhead : d.body.head? = some c) : ∃ line, d.lines.head? = some line ∧ line.head? = some c := by
  rw [body_eq h] at hhead
  cases hlines : lines with
  | nil =>
      rw [hlines] at hhead h
      refine ⟨last, ?_, hhead⟩
      cases h with
      | terminated _ _ hne => exact absurd rfl hne
      | open_ _ hsplit => rw [hsplit]; rfl
      | empty _ _ => cases hhead
  | cons line rest =>
      have hfirst : d.lines.head? = some line := by
        rw [hlines] at h
        cases h with
        | terminated _ hsplit _ => rw [hsplit]; rfl
        | open_ _ hsplit => rw [hsplit]; rfl
      refine ⟨line, hfirst, ?_⟩
      rw [hlines, List.map_cons, List.flatMap_cons, List.append_assoc, List.append_assoc,
        List.append_assoc, List.head?_append] at hhead
      cases hline : line.head? with
      | some first =>
          rw [hline] at hhead
          exact hhead
      | none =>
          rw [hline, Option.none_or] at hhead
          cases hnl : d.newline with
          | lf =>
              rw [hnl] at hhead
              exact absurd (Option.some.inj hhead).symm hlf
          | crlf =>
              rw [hnl] at hhead
              exact absurd (Option.some.inj hhead).symm hcr

/-- **What is written is accepted, within the limit.** -/
theorem parse_render_of (hnul : '\x00' ∉ d.body)
    (hbom : d.bom = false → d.body.head? ≠ some BOM) (hsize : d.render.length ≤ MAX_INI_BYTES) :
    parse d.render = .ok (ofText d.bom d.body) := by
  have hzero : (0 : UInt8) ∉ d.render := by
    unfold render
    have hbyte := byte_mem (a := '\x00') (by decide) ((if d.bom then [BOM] else []) ++ d.body)
    intro hmem
    rcases List.mem_append.1 (hbyte.1 hmem) with hmem | hmem
    · split at hmem
      · exact absurd (List.mem_singleton.1 hmem) (by decide)
      · cases hmem
    · exact hnul hmem
  unfold parse
  rw [if_neg (by omega), if_neg hzero]
  unfold render
  rw [utf8?_utf8]
  dsimp only
  rw [String.toList_ofList]
  unfold splitBom
  cases hd : d.bom with
  | true => rfl
  | false =>
      rw [if_neg Bool.false_ne_true, List.nil_append, if_neg (hbom hd)]

end Body

end Document

/-! ## 4. The normal form -/

/-- The text of an input, behind its byte order mark if it has one. -/
def inputText (input : List UInt8) : Bool × List Char :=
  splitBom (((utf8? input).map String.toList).getD [])

/-- A text of one line ending, with no other carriage return. -/
def Uniform (text : List Char) : Prop :=
  ∃ (plain : List Char) (nl : Newline), '\r' ∉ plain ∧
    text = plain.flatMap fun c => if c = '\n' then nl.chars else [c]

/-- What reading and writing are to keep. -/
structure NormalForm (input : List UInt8) (d : Document) : Prop where
  reparsed : d.render.length ≤ MAX_INI_BYTES → Document.parse d.render = .ok d
  fixed : ∀ d', Document.parse d.render = .ok d' → d'.render = d.render
  noStray : ¬ [13, 13] <:+: d.render
  identical : Uniform (inputText input).2 → d.render = input

/-- The bytes a text is written with. -/
def writtenSize (bom : Bool) (text : List Char) : Nat :=
  (if bom then 3 else 0) +
    ((cut text).1.map fun line => (utf8 (String.ofList (readTerminated line))).length +
      if ∃ line ∈ (cut text).1, line.getLast? = some '\r' then 2 else 1).sum +
    (utf8 (String.ofList (stripCr (cut text).2))).length

/-- Without the carriage returns of its ending no line has two side by side, or, with a line feed
    behind it, one at its end; and what stands behind the last line feed is not a lone carriage
    return and has one at its end at most, unless the whole is too long to be read again. -/
structure Settled (bom : Bool) (text : List Char) : Prop where
  pairs : ∀ line ∈ (cut text).1, ¬ ['\r', '\r'] <:+: readTerminated line
  ends : ∀ line ∈ (cut text).1, (readTerminated line).getLast? ≠ some '\r'
  restPair : ¬ ['\r', '\r'] <:+: stripCr (cut text).2
  rest : writtenSize bom text ≤ MAX_INI_BYTES → (cut text).2 = [] ∨
    (stripCr (cut text).2 ≠ [] ∧ (stripCr (cut text).2).getLast? ≠ some '\r')

namespace Document

section Normal

variable {text rest : List Char} {lines : List Line} {bom : Bool}

theorem written_ofText (bom : Bool) (h : cut text = (lines, rest)) :
    Written (ofText bom text) (lines.map readTerminated) (stripCr rest) := by
  have hlines := lines_ofText bom text
  have hfinal := @finalNewline_ofText _ _ _ bom h
  rw [h] at hlines
  by_cases hrest : rest = []
  · subst hrest
    rw [if_pos rfl, List.append_nil] at hlines
    by_cases hnil : lines = []
    · subst hnil
      exact .empty (by rw [hfinal]; exact decide_eq_false fun hand => hand.1 rfl) hlines
    · refine .terminated (by rw [hfinal]; exact decide_eq_true ⟨hnil, rfl⟩) hlines ?_
      exact fun hmap => hnil (List.map_eq_nil_iff.1 hmap)
  · rw [if_neg hrest] at hlines
    exact .open_ (by rw [hfinal]; exact decide_eq_false fun hand => hrest hand.2) hlines

theorem plain_ofText (bom : Bool) (text : List Char) :
    ∀ line ∈ (ofText bom text).lines, '\n' ∉ line := by
  obtain ⟨hlines, hrest⟩ := (cut_spec text).2
  intro line hline hmem
  rw [lines_ofText] at hline
  rcases List.mem_append.1 hline with hline | hline
  · obtain ⟨source, hsource, rfl⟩ := List.mem_map.1 hline
    exact hlines source hsource (mem_readTerminated hmem)
  · split at hline
    · cases hline
    · rw [List.mem_singleton.1 hline] at hmem
      exact hrest (mem_stripCr hmem)

/-- The lines behind the last line feed, as they are read and read again. -/
theorem last_eq_iff (rest : List Char) :
    (if stripCr rest = [] then [] else [stripCr (stripCr rest)]) =
        (if rest = [] then [] else [stripCr rest]) ↔
      rest = [] ∨ (stripCr rest ≠ [] ∧ (stripCr rest).getLast? ≠ some '\r') := by
  by_cases hrest : rest = []
  · subst hrest
    exact ⟨fun _ => Or.inl rfl, fun _ => rfl⟩
  · rw [if_neg hrest, or_iff_right hrest]
    by_cases hlone : stripCr rest = []
    · rw [if_pos hlone]
      exact ⟨fun h => absurd h (List.cons_ne_nil _ _).symm, fun h => absurd hlone h.1⟩
    · rw [if_neg hlone, List.singleton_inj, stripCr_self_iff, and_iff_right hlone]

/-- The lines with their endings are read as they were. -/
theorem reread_lines {nl : Newline}
    (hends : ∀ line ∈ lines, (readTerminated line).getLast? ≠ some '\r') :
    ((lines.map readTerminated).map (· ++ nl.cr)).map readTerminated =
      lines.map readTerminated := by
  rw [List.map_map, List.map_map]
  exact List.map_congr_left fun line hline => readTerminated_append nl (hends line hline)

theorem reread_newline {nl : Newline}
    (hends : ∀ line ∈ lines, (readTerminated line).getLast? ≠ some '\r')
    (hcrlf : nl = .crlf → lines ≠ []) :
    (if ∃ line ∈ (lines.map readTerminated).map (· ++ nl.cr), line.getLast? = some '\r' then
      Newline.crlf else .lf) = nl := by
  cases nl with
  | lf =>
      refine if_neg ?_
      rintro ⟨line, hline, hlast⟩
      obtain ⟨read, hread, rfl⟩ := List.mem_map.1 hline
      obtain ⟨source, hsource, rfl⟩ := List.mem_map.1 hread
      rw [Newline.cr, List.append_nil] at hlast
      exact hends source hsource hlast
  | crlf =>
      obtain ⟨line, hline⟩ := List.exists_mem_of_ne_nil lines (hcrlf rfl)
      refine if_pos ⟨readTerminated line ++ ['\r'], ?_, List.getLast?_concat⟩
      exact List.mem_map_of_mem (List.mem_map_of_mem hline)

/-- **What was written is read as the same document when the last line has nothing to lose.** -/
theorem reread_eq_iff (bom : Bool) (h : cut text = (lines, rest))
    (hends : ∀ line ∈ lines, (readTerminated line).getLast? ≠ some '\r') :
    ofText bom (ofText bom text).body = ofText bom text ↔
      rest = [] ∨ (stripCr rest ≠ [] ∧ (stripCr rest).getLast? ≠ some '\r') := by
  have hcut := cut_body (written_ofText bom h) (plain_ofText bom text)
  have hlines := lines_ofText bom text
  have hreread := lines_ofText bom (ofText bom text).body
  rw [h] at hlines
  rw [hcut] at hreread
  dsimp only at hlines hreread
  rw [reread_lines hends] at hreread
  constructor
  · intro heq
    rw [heq, hlines] at hreread
    exact (last_eq_iff rest).1 (List.append_cancel_left hreread).symm
  · intro hlast
    have hnewline : (ofText bom (ofText bom text).body).newline = (ofText bom text).newline := by
      rw [newline_ofText hcut]
      refine reread_newline hends fun hcrlf hnil => ?_
      rw [newline_ofText h, hnil, if_neg fun ⟨line, hline, _⟩ => absurd hline List.not_mem_nil]
        at hcrlf
      cases hcrlf
    have hfinal : (ofText bom (ofText bom text).body).finalNewline =
        (ofText bom text).finalNewline := by
      rw [finalNewline_ofText hcut, finalNewline_ofText h]
      refine decide_eq_decide.2 (and_congr ?_ ?_)
      · rw [ne_eq, List.map_eq_nil_iff, List.map_eq_nil_iff]
      rcases hlast with hnil | ⟨hne, -⟩
      · rw [hnil]
        exact Iff.rfl
      · refine ⟨fun hstrip => absurd hstrip hne, fun hnil => ?_⟩
        rw [hnil]
        rfl
    have hsame : (ofText bom (ofText bom text).body).lines = (ofText bom text).lines := by
      rw [hreread, hlines, (last_eq_iff rest).2 hlast]
    have hext : ∀ d d' : Document, d.lines = d'.lines → d.newline = d'.newline →
        d.finalNewline = d'.finalNewline → d.bom = d'.bom → d = d' := by
      rintro ⟨_, _, _, _⟩ ⟨_, _, _, _⟩ rfl rfl rfl rfl
      rfl
    exact hext _ _ hsame hnewline hfinal rfl

/-- **No two carriage returns are written side by side when no line has two, or one at its end.** -/
theorem noStray_iff (bom : Bool) (h : cut text = (lines, rest)) :
    ¬ [13, 13] <:+: (ofText bom text).render ↔
      (∀ line ∈ lines, ¬ ['\r', '\r'] <:+: readTerminated line) ∧
      (∀ line ∈ lines, (readTerminated line).getLast? ≠ some '\r') ∧
      ¬ ['\r', '\r'] <:+: stripCr rest := by
  have hmark : ∀ (mark : Bool) (body : List Char),
      ['\r', '\r'] <:+: (if mark then [BOM] else []) ++ body ↔ ['\r', '\r'] <:+: body := by
    intro mark body
    cases mark with
    | false => exact Iff.rfl
    | true =>
        rw [if_pos rfl, List.singleton_append, List.infix_cons_iff, List.cons_prefix_cons]
        exact or_iff_right fun hfront => absurd hfront.1 (by decide)
  have hbytes : [13, 13] <:+: (ofText bom text).render ↔
      (∃ line ∈ lines, ['\r', '\r'] <:+: readTerminated line ++ (ofText bom text).newline.cr) ∨
        ['\r', '\r'] <:+: stripCr rest := by
    unfold render
    refine (byte_pair (a := '\r') (by decide) _).trans ?_
    rw [hmark, body_eq (written_ofText bom h), pair_lines, List.map_map]
    simp only [List.mem_map, exists_exists_and_eq_and, Function.comp_apply]
  rw [hbytes, newline_ofText h]
  by_cases hcr : ∃ line ∈ lines, line.getLast? = some '\r'
  · rw [if_pos hcr]
    simp only [Newline.cr, pair_concat, not_or, not_exists, not_and]
    exact ⟨fun hnone => ⟨fun line hline => (hnone.1 line hline).1,
        fun line hline => (hnone.1 line hline).2, hnone.2⟩,
      fun hnone => ⟨fun line hline => ⟨hnone.1 line hline, hnone.2.1 line hline⟩, hnone.2.2⟩⟩
  · rw [if_neg hcr]
    have hends : ∀ line ∈ lines, (readTerminated line).getLast? ≠ some '\r' := by
      intro line hline hlast
      have hplain : line.getLast? ≠ some '\r' := fun hlast => hcr ⟨line, hline, hlast⟩
      rw [readTerminated_of_ne hplain] at hlast
      exact hplain hlast
    simp only [Newline.cr, List.append_nil, not_or, not_exists, not_and]
    exact ⟨fun hnone => ⟨hnone.1, hends, hnone.2⟩, fun hnone => ⟨hnone.1, hnone.2.2⟩⟩

/-- What is read is accepted text. -/
theorem parse_eq {input : List UInt8} {d : Document} (h : parse input = .ok d) :
    ∃ text : String, input = utf8 text ∧ utf8? input = some text ∧
      d = ofText (splitBom text.toList).1 (splitBom text.toList).2 ∧ '\x00' ∉ text.toList := by
  unfold parse at h
  split at h
  · cases h
  · split at h
    · cases h
    · rename_i hzero
      split at h
      · cases h
      · rename_i text htext
        cases h
        have hinput := utf8_of_utf8? htext
        refine ⟨text, hinput.symm, htext, rfl, fun hmem => hzero ?_⟩
        rw [← hinput, ← String.ofList_toList (s := text)]
        exact (byte_mem (a := '\x00') (by decide) text.toList).2 hmem

theorem flatMap_endings (nl : Newline) {line : Line} (h : '\n' ∉ line) :
    (line.flatMap fun c => if c = '\n' then nl.chars else [c]) = line := by
  induction line with
  | nil => rfl
  | cons c line ih =>
      have hc : c ≠ '\n' := fun heq => h (heq ▸ List.mem_cons_self)
      rw [List.flatMap_cons, if_neg hc, ih fun hmem => h (List.mem_cons_of_mem _ hmem)]
      rfl

/-- A uniform text is plain lines with one ending. -/
theorem uniform_lines (h : Uniform text) : ∃ (lines : List Line) (rest : Line) (nl : Newline),
    text = (lines.map (· ++ nl.cr)).flatMap (· ++ ['\n']) ++ rest ∧
      (∀ line ∈ lines, '\n' ∉ line ∧ '\r' ∉ line) ∧ '\n' ∉ rest ∧ '\r' ∉ rest := by
  obtain ⟨plain, nl, hcr, rfl⟩ := h
  obtain ⟨hplain, hlines, hrest⟩ := cut_spec plain
  refine ⟨(cut plain).1, (cut plain).2, nl, ?_, fun line hline => ⟨hlines line hline, ?_⟩, hrest,
    ?_⟩
  · conv => lhs; rw [hplain]
    rw [List.flatMap_append, flatMap_endings nl hrest, List.flatMap_assoc, List.flatMap_map]
    congr 1
    refine List.flatMap_congr fun line hline => ?_
    rw [List.flatMap_append, flatMap_endings nl (hlines line hline), List.flatMap_singleton,
      if_pos rfl, chars_eq, List.append_assoc]
  · intro hmem
    refine hcr (hplain ▸ List.mem_append_left _ (List.mem_flatMap.2 ⟨line, hline, ?_⟩))
    exact List.mem_append_left _ hmem
  · intro hmem
    exact hcr (hplain ▸ List.mem_append_right _ hmem)

/-- **A uniform text is written as it was.** -/
theorem body_uniform (h : Uniform text) (bom : Bool) : (ofText bom text).body = text := by
  obtain ⟨lines, rest, nl, htext, hlines, hrest, hcr⟩ := uniform_lines h
  have hends : ∀ line ∈ lines, line.getLast? ≠ some '\r' := fun line hline hlast =>
    (hlines line hline).2 (List.mem_of_getLast? hlast)
  have hcut : cut text = (lines.map (· ++ nl.cr), rest) := by
    rw [htext]
    refine cut_written (fun line hline hmem => ?_) hrest
    obtain ⟨source, hsource, rfl⟩ := List.mem_map.1 hline
    rcases List.mem_append.1 hmem with hmem | hmem
    · exact (hlines source hsource).1 hmem
    · exact absurd (mem_cr hmem) (by decide)
  have hread : (lines.map (· ++ nl.cr)).map readTerminated = lines := by
    rw [List.map_map]
    refine (List.map_congr_left fun line hline => ?_).trans (List.map_id lines)
    exact readTerminated_append nl (hends line hline)
  have hself : lines.map readTerminated = lines :=
    (List.map_congr_left fun line hline => readTerminated_of_ne (hends line hline)).trans
      (List.map_id lines)
  have hnewline : lines ≠ [] → (ofText bom text).newline = nl := by
    intro hne
    have hreread := @reread_newline lines nl
      (fun line hline => (readTerminated_of_ne (hends line hline)).symm ▸ hends line hline)
      fun _ => hne
    rw [hself] at hreread
    rw [newline_ofText hcut]
    exact hreread
  rw [body_eq (written_ofText bom hcut), hread, stripCr_of_not_mem hcr]
  conv => rhs; rw [htext]
  congr 2
  refine List.map_congr_left fun line hline => ?_
  rw [hnewline (List.ne_nil_of_mem hline)]

theorem length_utf8_append (a b : List Char) :
    (utf8 (String.ofList (a ++ b))).length =
      (utf8 (String.ofList a)).length + (utf8 (String.ofList b)).length := by
  rw [utf8_ofList, utf8_ofList, utf8_ofList, List.flatMap_append, List.length_append]

theorem length_utf8_flatten (lines : List Line) :
    (utf8 (String.ofList lines.flatten)).length =
      (lines.map fun line => (utf8 (String.ofList line)).length).sum := by
  induction lines with
  | nil => rfl
  | cons line lines ih =>
      rw [List.flatten_cons, length_utf8_append, ih, List.map_cons, List.sum_cons]

/-- A document has the size its text is written with. -/
theorem render_length (bom : Bool) (text : List Char) :
    (ofText bom text).render.length = writtenSize bom text := by
  have hmark : (utf8 (String.ofList (if bom then [BOM] else []))).length =
      if bom then 3 else 0 := by
    cases bom with
    | false => rfl
    | true =>
        rw [utf8_ofList]
        rfl
  have hending : ∀ nl : Newline, (utf8 (String.ofList (nl.cr ++ ['\n']))).length =
      if nl = .crlf then 2 else 1 := by
    rintro (_ | _)
    · rw [utf8_ofList]
      rfl
    · rw [utf8_ofList]
      rfl
  have hnewline := @newline_ofText text _ _ bom rfl
  have hbom : (ofText bom text).bom = bom := rfl
  unfold render writtenSize
  rw [length_utf8_append, hbom, hmark, body_eq (written_ofText bom rfl), length_utf8_append,
    ← Nat.add_assoc, List.flatMap_def, length_utf8_flatten, List.map_map, List.map_map,
    List.map_map]
  congr 3
  refine List.map_congr_left fun line _ => ?_
  rw [Function.comp_apply, Function.comp_apply, Function.comp_apply, List.append_assoc,
    length_utf8_append, hending, hnewline]
  congr 1
  split
  · rfl
  · rfl

theorem head?_of_front {c : Char} {a b : List Char} (h : a <+: b) (ha : a.head? = some c) :
    b.head? = some c := by
  obtain ⟨t, rfl⟩ := h
  rw [List.head?_append, ha]
  rfl

/-- A document of a text has its characters. -/
theorem mem_ofText {c : Char} {line : Line} (hline : line ∈ (ofText bom text).lines)
    (hc : c ∈ line) : c ∈ text := by
  obtain ⟨htext, -, -⟩ := cut_spec text
  rw [htext]
  rw [lines_ofText] at hline
  rcases List.mem_append.1 hline with hline | hline
  · obtain ⟨source, hsource, rfl⟩ := List.mem_map.1 hline
    exact List.mem_append_left _ (List.mem_flatMap.2
      ⟨source, hsource, List.mem_append_left _ (mem_readTerminated hc)⟩)
  · split at hline
    · cases hline
    · rw [List.mem_singleton.1 hline] at hc
      exact List.mem_append_right _ (mem_stripCr hc)

/-- A document of a text begins as the text does. -/
theorem head?_ofText {c : Char} {line : Line} (hfirst : (ofText bom text).lines.head? = some line)
    (hc : line.head? = some c) : text.head? = some c := by
  obtain ⟨htext, -, -⟩ := cut_spec text
  rw [lines_ofText] at hfirst
  rw [htext]
  cases hlines : (cut text).1 with
  | cons source sources =>
      rw [hlines] at hfirst
      cases hfirst
      rw [List.flatMap_cons, List.append_assoc, List.append_assoc]
      refine head?_of_front (List.prefix_append source _) (head?_of_front ?_ hc)
      exact (stripCr_front _).trans (stripCr_front _)
  | nil =>
      rw [hlines, List.map_nil, List.nil_append] at hfirst
      rw [List.flatMap_nil, List.nil_append]
      split at hfirst
      · cases hfirst
      · cases hfirst
        exact head?_of_front (stripCr_front _) hc

theorem splitBom_eq (text : List Char) :
    text = (if (splitBom text).1 then [BOM] else []) ++ (splitBom text).2 ∧
      ((splitBom text).1 = false → (splitBom text).2.head? ≠ some BOM) := by
  unfold splitBom
  split
  · rename_i hhead
    cases text with
    | nil => cases hhead
    | cons c text =>
        cases hhead
        exact ⟨rfl, fun h => by cases h⟩
  · rename_i hhead
    exact ⟨rfl, fun _ => hhead⟩

theorem size_of_parse {input : List UInt8} {d : Document} (h : parse input = .ok d) :
    input.length ≤ MAX_INI_BYTES := by
  unfold parse at h
  split at h
  · cases h
  · omega

end Normal

end Document

open Document

/-- **Reading and writing are each other's inverse, no carriage return is written before another and
    a uniform text is written as it was, exactly when no line is left with a carriage return to
    lose.** -/
theorem normalForm_iff (input : List UInt8) (d : Document) (h : parse input = .ok d) :
    NormalForm input d ↔ Settled (inputText input).1 (inputText input).2 := by
  obtain ⟨text, hinput, hutf8, hd, hnul⟩ := parse_eq h
  have htext : inputText input = splitBom text.toList := by
    unfold inputText
    rw [hutf8]
    rfl
  obtain ⟨hchars, hfirst⟩ := splitBom_eq text.toList
  rw [← htext] at hd hchars hfirst
  cases hsplit : inputText input with
  | mk bom plain =>
      rw [hsplit] at hd hchars hfirst
      dsimp only at hd hchars hfirst ⊢
      subst hd
      have hreread (hsize : (ofText bom plain).render.length ≤ MAX_INI_BYTES) :
          parse (ofText bom plain).render = .ok (ofText bom (ofText bom plain).body) := by
        refine parse_render_of (fun hmem => hnul ?_) (fun hbom hhead => ?_) hsize
        · obtain ⟨line, hline, hc⟩ :=
            mem_body (written_ofText bom rfl) (by decide) (by decide) hmem
          rw [hchars]
          exact List.mem_append_right _ (mem_ofText hline hc)
        · obtain ⟨line, hline, hc⟩ :=
            head?_body (written_ofText bom rfl) (by decide) (by decide) hhead
          exact hfirst hbom (head?_ofText hline hc)
      have hstray := @noStray_iff plain _ _ bom rfl
      constructor
      · intro hnormal
        obtain ⟨hpairs, hends, hrest⟩ := hstray.1 hnormal.noStray
        refine ⟨hpairs, hends, hrest, fun hsize => (reread_eq_iff bom rfl hends).1 ?_⟩
        rw [← render_length] at hsize
        have hsame := hnormal.reparsed hsize
        rw [hreread hsize] at hsame
        exact Except.ok.inj hsame
      · intro hsettled
        have hsame (hsize : (ofText bom plain).render.length ≤ MAX_INI_BYTES) :
            parse (ofText bom plain).render = .ok (ofText bom plain) := by
          rw [hreread hsize, (reread_eq_iff bom rfl hsettled.ends).2
            (hsettled.rest (render_length bom plain ▸ hsize))]
        refine ⟨hsame, fun d' hd' => ?_, hstray.2 ⟨hsettled.pairs, hsettled.ends,
          hsettled.restPair⟩, fun huniform => ?_⟩
        · rw [hsame (size_of_parse hd')] at hd'
          cases hd'
          rfl
        · have hbody := body_uniform huniform bom
          rw [hsplit] at hbody
          dsimp only at hbody
          unfold render
          rw [hbody, hinput, ← String.ofList_toList (s := text), hchars]
          rfl

/-- Three carriage returns before a line feed: one is left in the line, and is lost when it is read
    again. -/
theorem stray_return_not_kept :
    ∃ d, parse [97, 13, 13, 13, 10] = .ok d ∧ ¬ NormalForm [97, 13, 13, 13, 10] d ∧
      d.render = [97, 13, 13, 10] := by
  refine ⟨⟨[['a', '\r']], .crlf, true, false⟩, rfl, fun h => ?_, rfl⟩
  exact h.noStray ⟨[97], [10], rfl⟩

theorem plain_input_settled :
    ∃ d, parse [97, 13, 10, 98] = .ok d ∧ NormalForm [97, 13, 10, 98] d := by
  refine ⟨⟨[['a'], ['b']], .crlf, false, false⟩, rfl, ?_⟩
  refine (normalForm_iff [97, 13, 10, 98] _ rfl).2 ⟨?_, ?_, ?_, fun _ => Or.inr ?_⟩
  · decide +kernel
  · decide +kernel
  · decide +kernel
  · decide +kernel

end MisterMagik.Ini
