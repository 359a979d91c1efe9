/-
  File:      MisterMagik/Ini/Document.lean
  Subject:   `MiSTer.ini` as it is read and changed (`mister-ini`).

  A document is its lines, the line ending it is written with, and whether it ends in one and begins
  with a byte order mark. A line is a header, an active assignment of the section it stands in, or
  neither; the readers and the changes walk over the lines and keep the section they are in.

  * `Document.parse`, `Document.render` -- bytes to a document and back;
  * `Document.effectiveValue`, `Document.activeCount` -- the readers;
  * `Document.set`, `Document.remove`, `Document.commentIfValue`, `Document.ensureSectionAfter` --
    the changes.
-/
import MisterMagik.Base.Bytes
import MisterMagik.Base.Lines

namespace MisterMagik.Ini

open MisterMagik.Base

/-! ## 1. Lines -/

abbrev Line := List Char

def isCommentStart (c : Char) : Bool := c = ';' || c = '#'

def sectionName (line : Line) : Option Line :=
  let trimmed := trim line
  if trimmed.head? = some ';' ∨ trimmed.head? = some '#' ∨ trimmed.head? ≠ some '[' then none
  else if ']' ∈ trimmed then some (trim (trimmed.tail.takeWhile (· ≠ ']')))
  else none

def activeKeyEq (line expected : Line) : Bool :=
  let trimmed := trimStart line
  if trimmed = [] ∨ trimmed.head? = some ';' ∨ trimmed.head? = some '#' then false
  else (splitOnce '=' trimmed).any fun split => eqIgnoreAsciiCase (trim split.1) expected

def assignmentValue (line : Line) : Option Line :=
  (splitOnce '=' line).map fun split => trim (split.2.takeWhile fun c => !isCommentStart c)

/-- The comment of what stands behind `=` from its first character on, with the white space before
    it. -/
def trailingComment (valueAndComment : Line) : Line :=
  if valueAndComment.any isCommentStart then
    let before := valueAndComment.takeWhile fun c => !isCommentStart c
    valueAndComment.drop (trimEnd before).length
  else []

def replaceAssignmentValue (line value : Line) : Line :=
  match splitOnce '=' line with
  | none => line
  | some (key, afterEq) =>
      key ++ '=' :: afterEq.takeWhile isWhitespace ++ value ++ trailingComment (trimStart afterEq)

/-! ## 2. Documents -/

def MAX_INI_BYTES : Nat := 1024 * 1024

inductive Error where
  | tooLarge (bytes : Nat)
  | invalidUtf8
  | interiorNul
  deriving DecidableEq

inductive Newline where
  | lf
  | crlf
  deriving DecidableEq

def Newline.chars : Newline → List Char
  | lf => ['\n']
  | crlf => ['\r', '\n']

structure Document where
  lines : List Line
  newline : Newline
  finalNewline : Bool
  bom : Bool
  deriving DecidableEq

/-- The byte order mark. -/
def BOM : Char := '\ufeff'

/-- `strip_prefix` of the byte order mark: whether there was one, and the text behind it. -/
def splitBom (text : List Char) : Bool × List Char :=
  if text.head? = some BOM then (true, text.tail) else (false, text)

namespace Document

/-- A text without its byte order mark. -/
def ofText (bom : Bool) (text : List Char) : Document where
  lines := (strLines text).map stripCr
  newline := if ['\r', '\n'] <:+: text then .crlf else .lf
  finalNewline := text.getLast? = some '\n'
  bom := bom

def parse (input : List UInt8) : Except Error Document :=
  if MAX_INI_BYTES < input.length then .error (.tooLarge input.length)
  else if 0 ∈ input then .error .interiorNul
  else
    match utf8? input with
    | none => .error .invalidUtf8
    | some text =>
        let (bom, text) := splitBom text.toList
        .ok (ofText bom text)

/-- The text that is written behind the byte order mark. -/
def body (d : Document) : List Char :=
  d.newline.chars.intercalate d.lines ++ if d.finalNewline then d.newline.chars else []

def render (d : Document) : List UInt8 :=
  utf8 (String.ofList ((if d.bom then [BOM] else []) ++ d.body))

/-- One line of a reader, which keeps the section it is in and what it has found. -/
def readLine {σ : Type} (section_ key : Line) (onActive : σ → Line → σ) (s : Line × σ)
    (line : Line) : Line × σ :=
  match sectionName line with
  | some name => (name, s.2)
  | none =>
      if eqIgnoreAsciiCase s.1 section_ && activeKeyEq line key then (s.1, onActive s.2 line) else s

def effectiveValue (d : Document) (section_ key : Line) : Option Line :=
  (d.lines.foldl (readLine section_ key fun _ line => assignmentValue line) ([], none)).2

def activeCount (d : Document) (section_ key : Line) : Nat :=
  (d.lines.foldl (readLine section_ key fun count _ => count + 1) ([], 0)).2

/-- What the first loop of `set` knows. -/
structure Scan where
  current : Line
  first : Option Nat
  sawSection : Bool
  insertAt : Option Nat

def Scan.next (section_ key : Line) (s : Scan) (entry : Line × Nat) : Scan :=
  match sectionName entry.1 with
  | some name =>
      { s with
        insertAt := if eqIgnoreAsciiCase s.current section_ then some entry.2 else s.insertAt
        current := name
        sawSection := s.sawSection || eqIgnoreAsciiCase name section_ }
  | none =>
      if eqIgnoreAsciiCase s.current section_ && activeKeyEq entry.1 key then
        { s with first := s.first.or (some entry.2) }
      else s

def scan (section_ key : Line) (lines : List Line) : Scan :=
  lines.zipIdx.foldl (Scan.next section_ key) ⟨[], none, section_.isEmpty, none⟩

/-- The second loop of `set`: the assignments other than the first become comments. -/
def commentOthers (section_ key : Line) (firstIndex : Nat) : Nat → Line → List Line → List Line
  | _, _, [] => []
  | index, current, line :: lines =>
      match sectionName line with
      | some name => line :: commentOthers section_ key firstIndex (index + 1) name lines
      | none =>
          (if index ≠ firstIndex ∧ eqIgnoreAsciiCase current section_ = true ∧
              activeKeyEq line key = true then ';' :: line else line) ::
            commentOthers section_ key firstIndex (index + 1) current lines

/-- The lines of a document without the section, and a section of one assignment behind them. -/
def appendSection (lines : List Line) (section_ assignment : Line) : List Line :=
  (if lines.getLast?.any fun line => trim line ≠ [] then lines ++ [[]] else lines) ++
    ['[' :: section_ ++ [']'], assignment]

/-- Where an assignment is put when its section is there: behind the last block of it. -/
def insertionPoint (section_ : Line) (s : Scan) (length : Nat) : Nat :=
  (if eqIgnoreAsciiCase s.current section_ then some length else s.insertAt).getD length

def setLines (lines : List Line) (section_ key value : Line) : List Line :=
  match (scan section_ key lines).first with
  | some firstIndex =>
      commentOthers section_ key firstIndex 0 []
        (lines.modify firstIndex fun line => replaceAssignmentValue line value)
  | none =>
      if (scan section_ key lines).sawSection then
        lines.insertIdx (insertionPoint section_ (scan section_ key lines) lines.length)
          (key ++ '=' :: value)
      else appendSection lines section_ (key ++ '=' :: value)

def set (d : Document) (section_ key value : Line) : Document :=
  { d with lines := setLines d.lines section_ key value }

/-- Those assignments of a section and a key that are retired become comments, with the reason
    behind them. -/
def retireLines (section_ key reason : Line) (retired : Line → Bool) :
    Line → List Line → List Line
  | _, [] => []
  | current, line :: lines =>
      match sectionName line with
      | some name => line :: retireLines section_ key reason retired name lines
      | none =>
          (if eqIgnoreAsciiCase current section_ && activeKeyEq line key && retired line then
            ';' :: line ++ [' ', ';', ' '] ++ reason else line) ::
            retireLines section_ key reason retired current lines

def remove (d : Document) (section_ key reason : Line) : Document :=
  { d with lines := retireLines section_ key reason (fun _ => true) [] d.lines }

/-- `assignment_value(line).is_some_and(|value| values.iter().any(..))`. -/
def hasValueOf (values : List Line) (line : Line) : Bool :=
  (assignmentValue line).any fun value =>
    values.any fun expected => eqIgnoreAsciiCase value expected

def commentIfValue (d : Document) (section_ key : Line) (values : List Line) (reason : Line) :
    Document :=
  { d with lines := retireLines section_ key reason (hasValueOf values) [] d.lines }

end Document

def isHeader (line : Line) : Bool := (sectionName line).isSome

def isHeaderOf (section_ line : Line) : Bool :=
  (sectionName line).any fun name => eqIgnoreAsciiCase name section_

/-- The first block of a section: its header and the lines up to the next header. -/
def sectionRange (lines : List Line) (section_ : Line) : Option (Nat × Nat) :=
  match lines.findIdx? (isHeaderOf section_) with
  | none => none
  | some start =>
      some (start, match (lines.drop (start + 1)).findIdx? isHeader with
        | some offset => start + 1 + offset
        | none => lines.length)

namespace Document

/-- The first block of `later` is put behind the first block of `earlier`. -/
def ensureSectionAfter (d : Document) (earlier later : Line) : Document :=
  match sectionRange d.lines earlier, sectionRange d.lines later with
  | some (earlierStart, earlierEnd), some (laterStart, laterEnd) =>
      if earlierStart < laterStart then d
      else
        let moved := (d.lines.drop laterStart).take (laterEnd - laterStart)
        let kept := d.lines.take laterStart ++ d.lines.drop laterEnd
        let insertion := earlierEnd - (laterEnd - laterStart)
        { d with lines := kept.take insertion ++ moved ++ kept.drop insertion }
  | _, _ => d

end Document

end MisterMagik.Ini
