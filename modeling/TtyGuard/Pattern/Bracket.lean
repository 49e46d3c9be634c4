/-
# TtyGuard.Pattern.Bracket — classes in brackets

A class lists characters, ranges and other classes, and classes can be intersected and subtracted.
Brackets are nested, so the reader keeps the classes that it is inside of, the innermost apart.
-/
import TtyGuard.Pattern.Escape

namespace TtyGuard.Pattern

/-! ## Open brackets -/

/-- A class whose closing bracket has not been read. -/
structure OpenClass where
  /-- The opening bracket and what belongs to it. -/
  span : Span
  isNegated : Bool
  /-- The class in front of the last operator. -/
  pending : Option (ClassOperator × ClassNode)
  /-- Where the items behind it begin. -/
  itemsStart : Position
  /-- The items behind it, the last one first. -/
  items : List ClassNode
deriving Repr

namespace OpenClass

/-- Adds an item. -/
def add (o : OpenClass) (item : ClassNode) : OpenClass := { o with items := item :: o.items }

/-- The items behind the last operator as one class. -/
def operand (o : OpenClass) : ClassNode :=
  match o.items, o.items.reverse with
  | last :: _, [_] => last
  | last :: _, first :: rest => .union (first.span.through last.span) (first :: rest)
  | _, _ => .empty (.point o.itemsStart)

/-- What has been read as one class. -/
def content (o : OpenClass) : ClassNode :=
  match o.pending with
  | none => o.operand
  | some (operator, left) => .joined (left.span.through o.operand.span) operator left o.operand

/-- Goes on behind an operator. -/
def join (o : OpenClass) (operator : ClassOperator) (position : Position) : OpenClass :=
  { o with pending := some (operator, o.content), itemsStart := position, items := [] }

end OpenClass

/-- A class in brackets. -/
structure Bracketed where
  span : Span
  isNegated : Bool
  content : ClassNode
deriving Repr

/-- The class whose closing bracket ends at a position. -/
def OpenClass.close (o : OpenClass) (stop : Position) : Bracketed :=
  ⟨⟨o.span.start, stop⟩, o.isNegated, o.content⟩

namespace Reading

/-! ## Items -/

/-- Reads a set of ASCII by its name between colons, such as `[:alpha:]`; what has another form is
left alone. -/
def namedClass? : Reading (Option ClassNode) := do
  let opening ← get
  if ← skips "[:" then
    let isNegated ← skips "^"
    let name := (← get).rest.takeWhile (· ≠ ':')
    for _ in name do bump
    if ← skips ":]" then
      if let some set := CharSet.named.lookup (.ofList name) then
        return some (.named (← since opening.position) set isNegated)
  set opening
  return none

/-- The item that an atom is, unless it is no character. -/
def classItem : Atom → Reading ClassNode
  | .literal l => return .literal l
  | .shorthand span kind isNegated => return .shorthand span kind isNegated
  | .property span name => return .property span name
  | .anything span | .assertion span _ => fail .classEscapeInvalid span none

/-- The character that an end of a range is. -/
def rangeEnd : Atom → Reading Literal
  | .literal l => return l
  | a => fail .classRangeLiteral a.span none

/-- Reads one character of a class, or an escape. -/
def classAtom (c : Char) : Reading Atom := do
  if c = '\\' then escape else return .literal (← verbatim c)

/-- Reads an item that may be a range; `o` is the class it belongs to. -/
def classRange (o : OpenClass) (c : Char) : Reading ClassNode := do
  let first ← classAtom c
  skipBlanks
  if ← isAtEnd then fail .classUnclosed o.span none
  let second := (← get).second
  if (← peek) ≠ some '-' || second = some ']' || second = some '-' then classItem first
  else
    step
    match ← peek with
    | none => fail .classUnclosed o.span none
    | some c =>
      let last ← classAtom c
      let span := first.span.through last.span
      let first ← rangeEnd first
      let last ← rangeEnd last
      if last.char < first.char then fail .classRangeInvalid span none
      return .range span first last

/-- The operator that comes next. -/
def classOperator? : Reading (Option ClassOperator) := do
  if ← skips "&&" then return some .intersection
  else if ← skips "--" then return some .difference
  else if ← skips "~~" then return some .symmetricDifference
  else return none

/-! ## Classes -/

/-- Reads an opening bracket, a negation and what can only be a character behind them: minus signs,
or a closing bracket. -/
def openClass : Reading OpenClass := do
  let start ← position
  stepInside .classUnclosed start
  let isNegated := (← peek) = some '^'
  if isNegated then stepInside .classUnclosed start
  let itemsStart ← position
  let mut items := []
  for _ in (← get).rest do
    if (← peek) ≠ some '-' then break
    items := .literal ⟨← nextSpan, '-', false⟩ :: items
    step
    if ← isAtEnd then fail .classUnclosed (.point start) none
  if items.isEmpty && (← peek) = some ']' then
    items := [.literal ⟨← nextSpan, ']', false⟩]
    stepInside .classUnclosed start
  return ⟨← since start, isNegated, none, itemsStart, items⟩

/-- Reads a class in brackets. -/
def bracketed : Reading Bracketed := do
  let mut inner ← openClass
  let mut outer : List OpenClass := []
  for _ in (← get).rest do
    skipBlanks
    match ← peek with
    | none => fail .classUnclosed inner.span none
    | some '[' =>
      match ← namedClass? with
      | some item => inner := inner.add item
      | none =>
        let opened ← openClass
        outer := inner :: outer
        inner := opened
    | some ']' =>
      bump
      let read := inner.close (← position)
      match outer with
      | [] => return read
      | o :: os =>
        inner := o.add (.bracketed read.span read.isNegated read.content)
        outer := os
    | some c =>
      match ← classOperator? with
      | some operator => inner := inner.join operator (← position)
      | none => inner := inner.add (← classRange inner c)
  fail .classUnclosed inner.span none

end Reading

end TtyGuard.Pattern
