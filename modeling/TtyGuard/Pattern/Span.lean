/-
# TtyGuard.Pattern.Span — places in the text of a pattern, and how they are shown

A place is a line and a column.  A fault in a pattern is shown by repeating the text with carets
under the part at fault; lines are numbered if there are several, and a part that spans lines is
described in words.
-/

namespace TtyGuard.Pattern

/-! ## Positions and spans -/

/-- In front of a character: its line and its column, both counted from one. -/
structure Position where
  line : Nat
  column : Nat
deriving DecidableEq, Repr

namespace Position

/-- Where a text begins. -/
def start : Position := ⟨1, 1⟩

/-- Behind the character that stands at the position. -/
def after (p : Position) (c : Char) : Position :=
  if c = '\n' then ⟨p.line + 1, 1⟩ else ⟨p.line, p.column + 1⟩

/-- Whether a position comes first or is the same. -/
def atMost (p q : Position) : Bool :=
  p.line < q.line || (p.line = q.line && p.column ≤ q.column)

end Position

/-- A part of a text, from one position to another. -/
structure Span where
  start : Position
  stop : Position
deriving DecidableEq, Repr

namespace Span

/-- The empty part at a position. -/
def point (p : Position) : Span := ⟨p, p⟩

/-- From the start of one part to the end of another. -/
def through (s t : Span) : Span := ⟨s.start, t.stop⟩

/-- Whether the part ends on the line that it begins on. -/
def isOneLine (s : Span) : Bool := s.start.line = s.stop.line

/-- Whether a part comes first: it begins first or, if both begin together, ends first. -/
def atMost (s t : Span) : Bool :=
  if s.start = t.start then s.stop.atMost t.stop else s.start.atMost t.start

/-! ## Carets -/

/-- Carets below the parts of one line, at least one for each. -/
def carets (spans : List Span) : String :=
  spans.foldl (fun text s =>
    let padded := text.pushn ' ' (s.start.column - 1 - text.length)
    padded.pushn '^' (max 1 (s.stop.column - s.start.column))) ""

/-- The lines of a text, without what ends them. -/
def linesOf (text : String) : List String :=
  let ended (line : String) : String :=
    match line.toList.reverse with
    | '\x0d' :: cs => .ofList cs.reverse
    | _ => line
  let pieces := text.splitOn "\n"
  let last := pieces.getLast?.getD ""
  pieces.dropLast.map ended ++ if last.isEmpty then [] else [last]

/-- A text with carets under its parts, every line between two given texts. -/
def marked (text : String) (spans : List Span) (lead : Nat → String) : String :=
  let lines := (linesOf text).zipIdx 1
  "".intercalate <| lines.map fun (line, number) =>
    let below := spans.filter fun s => s.isOneLine && s.start.line = number
    let notes :=
      if below.isEmpty then "" else "".pushn ' ' (lead number).length ++ carets below ++ "\n"
    lead number ++ line ++ "\n" ++ notes

/-- A part that spans lines, in words. -/
def inWords (s : Span) : String :=
  s!"on line {s.start.line} (column {s.start.column}) through line {s.stop.line} (column {s.stop.column - 1})"

/-- What is shown of a text with faulty parts. -/
def shown (text : String) (spans : List Span) : String :=
  let spans := spans.mergeSort atMost
  if text.contains '\n' then
    let count := (linesOf text).length + if text.endsWith "\n" then 1 else 0
    let width := if count ≤ 1 then 0 else (toString count).length
    let lead (number : Nat) : String :=
      if width = 0 then "    "
      else "".pushn ' ' (width - (toString number).length) ++ s!"{number}: "
    let divider := "".pushn '~' 79 ++ "\n"
    let words := (spans.filter fun s => !s.isOneLine).map inWords
    divider ++ marked text spans lead ++ divider ++
      if words.isEmpty then "" else "\n".intercalate words ++ "\n"
  else marked text spans fun _ => "    "

end Span

end TtyGuard.Pattern
