/-
# TtyGuard.Pattern.Escape — atoms and how they are escaped

A backslash makes a character of the pattern language stand for itself, or a letter stand for
something else: a character by its number, a set, or a demand on the place.
-/
import TtyGuard.Pattern.Cursor
import TtyGuard.Pattern.Node

namespace TtyGuard.Pattern

namespace Reading

/-! ## Characters by their numbers -/

/-- Whether a character is a hexadecimal digit. -/
def isHexDigit (c : Char) : Bool :=
  c.isDigit || ('a' ≤ c && c ≤ 'f') || ('A' ≤ c && c ≤ 'F')

/-- The character that hexadecimal digits stand for. -/
def hexChar? (digits : String) : Option Char :=
  let digitValue (c : Char) : Nat :=
    if c.isDigit then c.toNat - '0'.toNat else c.toLower.toNat - 'a'.toNat + 10
  let value := digits.foldl (fun n c => 16 * n + digitValue c) 0
  if value.isValidChar then some (.ofNat value) else none

/-- Reads a given count of hexadecimal digits. -/
def fixedHex (count : Nat) : Reading Char := do
  let start ← position
  let mut digits := ""
  for _ in List.range count do
    match ← peek with
    | none => fail .escapeUnexpectedEnd (← here) none
    | some c =>
      unless isHexDigit c do fail .escapeHexInvalidDigit (← nextSpan) none
      digits := digits.push c
      step
  match hexChar? digits with
  | some c => return c
  | none => fail .escapeHexInvalid (← since start) none

/-- Reads hexadecimal digits in braces. -/
def bracedHex : Reading Char := do
  let opening ← position
  let inner := (← nextSpan).stop
  step
  let digits ← readWhile isHexDigit
  let span : Span := ⟨inner, ← position⟩
  match ← peek with
  | none => fail .escapeUnexpectedEnd (← since opening) none
  | some '}' =>
    step
    if digits.isEmpty then fail .escapeHexEmpty (← since opening) none
    match hexChar? digits with
    | some c => return c
    | none => fail .escapeHexInvalid span none
  | some _ => fail .escapeHexInvalidDigit (← nextSpan) none

/-- Reads the number of a character behind the letter for it, after a backslash at `start`. -/
def numbered (start : Position) (letter : Char) : Reading Literal := do
  step
  if (← peek) = some '{' then
    let char ← bracedHex
    return ⟨← since start, char, false⟩
  else
    let char ← fixedHex (if letter = 'x' then 2 else if letter = 'u' then 4 else 8)
    return ⟨← since start, char, letter = 'x'⟩

/-! ## Sets and places -/

/-- Reads the name of a property behind the letter for it, after a backslash at `start`. -/
def property (start : Position) : Reading Atom := do
  step
  match ← peek with
  | none => fail .escapeUnexpectedEnd (← here) none
  | some '{' =>
    step
    let name ← readWhile (· ≠ '}')
    if ← isAtEnd then fail .escapeUnexpectedEnd (← here) none
    bump
    return .property (← since start) name
  | some c =>
    if c = '\\' then fail .propertyInvalid (← nextSpan) none
    step
    return .property (← since start) (.singleton c)

/-- Reads the name of a word's edge in braces, after a backslash at `start`; braces around anything
but a name are left alone. -/
def edge? (start : Position) : Reading (Option WordEdge) := do
  let isNameChar (c : Char) : Bool := c.isAlpha || c = '-'
  let opening ← get
  stepInside .wordBoundaryUnexpectedEnd start
  let inner ← position
  if (← peek).all isNameChar then
    let name ← readWhile isNameChar
    if (← peek) ≠ some '}' then fail .wordBoundaryUnclosed (← since opening.position) none
    let span ← since inner
    bump
    match WordEdge.named.lookup name with
    | some edge => return edge
    | none => fail .wordBoundaryUnrecognized span none
  else
    set opening
    return none

/-! ## Escapes -/

/-- The letters that stand for one control character. -/
def controls : List (Char × Char) :=
  [('a', '\x07'), ('f', '\x0c'), ('t', '\t'), ('n', '\n'), ('r', '\x0d'), ('v', '\x0b')]

/-- The letters that stand for a place. -/
def places : List (Char × Assertion) :=
  [('A', .textStart), ('z', .textEnd), ('b', .word .boundary), ('B', .word .inside),
    ('<', .word .start), ('>', .word .stop)]

/-- The letters that stand for a set, and whether it is negated. -/
def shorthands : List (Char × Shorthand × Bool) :=
  [('d', .digit, false), ('s', .space, false), ('w', .word, false), ('D', .digit, true),
    ('S', .space, true), ('W', .word, true)]

/-- Reads what a letter stands for after a backslash at `start`. -/
def lettered (start : Position) (c : Char) : Reading Atom := do
  bump
  let span ← since start
  if c.toNat < 0x80 && !c.isAlphanum && c ≠ '<' && c ≠ '>' then return .literal ⟨span, c, false⟩
  match controls.lookup c, places.lookup c, shorthands.lookup c with
  | some char, _, _ => return .literal ⟨span, char, false⟩
  | _, some place, _ =>
    if c = 'b' && (← peek) = some '{' then
      match ← edge? start with
      | some edge => return .assertion (← since start) (.word edge)
      | none => return .assertion span place
    else return .assertion span place
  | _, _, some (set, isNegated) => return .shorthand span set isNegated
  | _, _, _ => fail .escapeUnrecognized span none

/-- Reads an escape. -/
def escape : Reading Atom := do
  let start ← position
  bump
  match ← peek with
  | none => fail .escapeUnexpectedEnd (← since start) none
  | some c =>
    if c.isDigit then fail .backreference ⟨start, (← nextSpan).stop⟩ none
    else if c = 'x' || c = 'u' || c = 'U' then return .literal (← numbered start c)
    else if c = 'p' || c = 'P' then property start
    else lettered start c

/-- Reads a character that stands for itself. -/
def verbatim (c : Char) : Reading Literal := do
  let span ← nextSpan
  bump
  return ⟨span, c, false⟩

end Reading

end TtyGuard.Pattern
