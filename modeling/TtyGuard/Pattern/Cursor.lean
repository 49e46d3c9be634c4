/-
# TtyGuard.Pattern.Cursor — reading the text of a pattern

A cursor stands in front of what is still to be read.  Where a pattern is verbose, blanks in it do
not count and neither does a comment, from `#` to the end of the line.
-/
import TtyGuard.CharSet.Basic
import TtyGuard.Pattern.Fault

namespace TtyGuard.Pattern

/-! ## Cursors -/

/-- How far a text has been read. -/
structure Cursor where
  rest : List Char
  position : Position
  /-- Whether blanks and comments are stepped over. -/
  isVerbose : Bool
  /-- The names of groups so far. -/
  names : List (String × Span)
deriving DecidableEq, Repr

namespace Cursor

/-- In front of a text. -/
def ofText (text : String) : Cursor := ⟨text.toList, .start, false, []⟩

/-- Behind the next character. -/
def next (c : Cursor) : Cursor :=
  match c.rest with
  | [] => c
  | char :: rest => { c with rest, position := c.position.after char }

/-- What is left of a text, and where, behind blanks and comments. -/
def behindBlanks (inComment : Bool) : List Char → Position → List Char × Position
  | [], p => ([], p)
  | c :: cs, p =>
    if inComment then behindBlanks (c ≠ '\n') cs (p.after c)
    else if isBlank c then behindBlanks false cs (p.after c)
    else if c = '#' then behindBlanks true cs (p.after c)
    else (c :: cs, p)

/-- In front of the next character that counts. -/
def skipBlanks (c : Cursor) : Cursor :=
  if c.isVerbose then
    let (rest, position) := behindBlanks false c.rest c.position
    { c with rest, position }
  else c

/-- The first character that is no blank; the `#` of a comment is none, but what is in the comment
counts. -/
def firstShown (inComment : Bool) : List Char → Option Char
  | [] => none
  | c :: cs =>
    if isBlank c then firstShown inComment cs
    else if c = '#' && !inComment then firstShown true cs
    else some c

/-- The character behind the next one, over blanks if the pattern is verbose. -/
def second (c : Cursor) : Option Char :=
  let behind := c.rest.tail
  if c.isVerbose then (firstShown false behind).or behind.head? else behind.head?

end Cursor

/-! ## Reading -/

/-- Reads a part of a pattern, or finds a fault in it. -/
abbrev Reading := StateT Cursor (Except Fault)

namespace Reading

/-- Reports a fault. -/
def fail {α : Type} (kind : FaultKind) (span : Span) (earlier : Option Span) : Reading α :=
  throw ⟨kind, span, earlier⟩

/-- The next character. -/
def peek : Reading (Option Char) := return (← get).rest.head?

/-- Whether the text has been read to its end. -/
def isAtEnd : Reading Bool := return (← get).rest.isEmpty

/-- Where the cursor stands. -/
def position : Reading Position := return (← get).position

/-- The part from a position to the cursor. -/
def since (start : Position) : Reading Span := return ⟨start, ← position⟩

/-- The empty part at the cursor. -/
def here : Reading Span := return .point (← position)

/-- The part that the next character takes. -/
def nextSpan : Reading Span := do
  let c ← get
  return ⟨c.position, c.next.position⟩

/-- Steps over a character. -/
def bump : Reading Unit := modify Cursor.next

/-- Steps over blanks and comments where they do not count. -/
def skipBlanks : Reading Unit := modify Cursor.skipBlanks

/-- Steps over a character and over blanks behind it. -/
def step : Reading Unit := do
  bump
  skipBlanks

/-- Steps over a character and over blanks behind it, after which something has to be left: the text
since `start` is at fault otherwise. -/
def stepInside (kind : FaultKind) (start : Position) : Reading Unit := do
  step
  if ← isAtEnd then fail kind (← since start) none

/-- Steps over a given text if it comes next. -/
def skips (text : String) : Reading Bool := do
  let chars := text.toList
  if chars.isPrefixOf (← get).rest then
    for _ in chars do bump
    return true
  else return false

/-- Reads characters, and steps over blanks between them, as long as a condition holds. -/
def readWhile (condition : Char → Bool) : Reading String := do
  let mut text := ""
  for _ in (← get).rest do
    match ← peek with
    | some c =>
      unless condition c do break
      text := text.push c
      step
    | none => break
  return text

/-- The largest number that a count can be. -/
def maxCount : Nat := 0xffffffff

/-- Reads a number.  What is wrong with it is not reported but given back. -/
def count : Reading (Except Fault Nat) := do
  let _ ← readWhile isBlank
  let start ← position
  let digits ← readWhile Char.isDigit
  let span ← since start
  let _ ← readWhile isBlank
  let value := digits.foldl (fun n c => 10 * n + (c.toNat - '0'.toNat)) 0
  return if digits.isEmpty then .error ⟨.repetitionCountEmpty, span, none⟩
    else if maxCount < value then .error ⟨.decimalInvalid, span, none⟩
    else .ok value

end Reading

end TtyGuard.Pattern
