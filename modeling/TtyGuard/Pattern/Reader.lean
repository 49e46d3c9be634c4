/-
# TtyGuard.Pattern.Reader — from a text to nodes

A pattern is a choice between runs of atoms, classes, repetitions and groups.  Groups are nested, so
the reader keeps those that it is inside of, the innermost apart.
-/
import TtyGuard.CharSet.Alphabet
import TtyGuard.Pattern.Bracket

namespace TtyGuard.Pattern

/-! ## Open groups -/

/-- The parenthesis that a group begins with, and what belongs to it. -/
structure Opening where
  span : Span
  /-- The flags switched inside; none for a group that captures. -/
  flags : Option Switches
  /-- Whether the text around the group is verbose. -/
  wasVerbose : Bool
deriving Repr

/-- A group whose closing parenthesis has not been read, or the whole pattern. -/
structure OpenGroup where
  opening : Option Opening
  start : Position
  /-- The finished branches, the last one first. -/
  branches : List Node
  /-- Where the branch that is read begins. -/
  runStart : Position
  /-- The items of this branch, the last one first. -/
  items : List Node
deriving Repr

namespace OpenGroup

/-- A group of which nothing has been read. -/
def begun (opening : Option Opening) (start : Position) : OpenGroup := ⟨opening, start, [], start, []⟩

/-- Adds an item to the branch that is read. -/
def add (g : OpenGroup) (item : Node) : OpenGroup := { g with items := item :: g.items }

/-- The branch that is read, up to a position. -/
def run (g : OpenGroup) (stop : Position) : Node :=
  match g.items with
  | [] => .empty ⟨g.runStart, stop⟩
  | [item] => item
  | items => .sequence ⟨g.runStart, stop⟩ items.reverse

/-- Begins another branch; the sign between them lies between two positions. -/
def branch (g : OpenGroup) (stop next : Position) : OpenGroup :=
  { g with branches := g.run stop :: g.branches, runStart := next, items := [] }

/-- All that has been read, up to a position. -/
def body (g : OpenGroup) (stop : Position) : Node :=
  if g.branches.isEmpty then g.run stop
  else .either ⟨g.start, stop⟩ (g.run stop :: g.branches).reverse

/-- Takes the last item off, which is then repeated; directives cannot be. -/
def repeatable? (g : OpenGroup) : Option (Node × OpenGroup) :=
  match g.items with
  | [] | .switches .. :: _ => none
  | item :: items => some (item, { g with items })

end OpenGroup

/-- Whether and how a flag is switched. -/
def Switches.state? (flags : Switches) (flag : Flag) : Option Bool := flags.lookup flag

namespace Reading

/-! ## Repetition -/

/-- The item in front of a repetition, and the group without it. -/
def repeated (g : OpenGroup) : Reading (Node × OpenGroup) :=
  match g.repeatable? with
  | some found => return found
  | none => do fail .repetitionMissing (← here) none

/-- Reads a repetition without a count.  A question mark behind it says which match is preferred; that
there is one does not depend on it. -/
def uncounted (g : OpenGroup) (least : Nat) (most : Option Nat) : Reading OpenGroup := do
  let (item, g) ← repeated g
  bump
  let _ ← skips "?"
  return g.add (.repeated ⟨item.span.start, ← position⟩ least most item)

/-- Reads a repetition with counts in braces. -/
def counted (g : OpenGroup) : Reading OpenGroup := do
  let start ← position
  let (item, g) ← repeated g
  stepInside .repetitionCountUnclosed start
  let first ← count
  if ← isAtEnd then fail .repetitionCountUnclosed (← since start) none
  let isRange := (← peek) = some ','
  if isRange then stepInside .repetitionCountUnclosed start
  let least ← MonadExcept.ofExcept first
  let mut most := some least
  if isRange then
    most := none
    if (← peek) ≠ some '}' then most := some (← MonadExcept.ofExcept (← count))
  if (← peek) ≠ some '}' then fail .repetitionCountUnclosed (← since start) none
  step
  let _ ← skips "?"
  let span ← since start
  if most.any (· < least) then fail .repetitionCountInvalid span none
  return g.add (.repeated ⟨item.span.start, ← position⟩ least most item)

/-! ## Groups -/

/-- Whether a character may stand in the name of a group. -/
def isNameChar (isFirst : Bool) (c : Char) : Bool :=
  c = '_' || CharSet.letter.contains c ||
    !isFirst && (c = '.' || c = '[' || c = ']' || CharSet.numeral.contains c)

/-- Reads the name of a group and the bracket behind it, and keeps the name. -/
def groupName : Reading Unit := do
  let start ← position
  let mut name := ""
  for _ in (← get).rest do
    match ← peek with
    | none => break
    | some c =>
      if c = '>' then break
      unless isNameChar name.isEmpty c do fail .groupNameInvalid (← nextSpan) none
      name := name.push c
      bump
  if ← isAtEnd then fail .groupNameUnexpectedEnd (← here) none
  let span ← since start
  bump
  if name.isEmpty then fail .groupNameEmpty (.point start) none
  if let some earlier := (← get).names.lookup name then fail .groupNameDuplicate span (some earlier)
  let given := name
  modify fun c => { c with names := (given, span) :: c.names }

/-- Reads flags up to a colon or a closing parenthesis.  A minus sign switches those behind it off. -/
def switches : Reading Switches := do
  let mut flags : List (Flag × Bool × Span) := []
  let mut negation : Option Span := none
  let mut isDangling := false
  for _ in (← get).rest do
    let span ← nextSpan
    match ← peek with
    | none => break
    | some c =>
      if c = ':' || c = ')' then break
      if c = '-' then
        if negation.isSome then fail .flagRepeatedNegation span negation
        negation := some span
        isDangling := true
      else
        match Flag.lettered.lookup c with
        | none => fail .flagUnrecognized span none
        | some flag =>
          if let some (_, earlier) := flags.lookup flag then fail .flagDuplicate span (some earlier)
          flags := flags ++ [(flag, negation.isNone, span)]
          isDangling := false
      bump
      if ← isAtEnd then fail .flagUnexpectedEnd (← here) none
  if isDangling then
    if let some span := negation then fail .flagDanglingNegation span none
  return flags.map fun (flag, isOn, _) => (flag, isOn)

/-- Reads what a group begins with: an opening, or a directive that only switches flags. -/
def groupStart : Reading (Node ⊕ Opening) := do
  let opening ← nextSpan
  let wasVerbose := (← get).isVerbose
  bump
  skipBlanks
  let inner ← here
  for look in ["?=", "?!", "?<=", "?<!"] do
    if ← skips look then fail .lookAround (← since opening.start) none
  let isNamed ← if ← skips "?P<" then pure true else skips "?<"
  if isNamed then
    groupName
    return .inr ⟨opening, none, wasVerbose⟩
  else if ← skips "?" then
    if ← isAtEnd then fail .groupUnclosed opening none
    let flags ← switches
    let verbose := (flags.state? .verbose).getD wasVerbose
    let isDirective := (← peek) = some ')'
    bump
    if isDirective && flags.isEmpty then fail .repetitionMissing inner none
    modify fun c => { c with isVerbose := verbose }
    if isDirective then return .inl (.switches ⟨opening.start, ← position⟩ flags)
    else return .inr ⟨opening, some flags, wasVerbose⟩
  else return .inr ⟨opening, none, wasVerbose⟩

/-! ## Patterns -/

/-- Reads an atom. -/
def atom (c : Char) : Reading Atom := do
  if c = '\\' then escape
  else
    let span ← nextSpan
    bump
    return match c with
      | '.' => .anything span
      | '^' => .assertion span .lineStart
      | '$' => .assertion span .lineEnd
      | _ => .literal ⟨span, c, false⟩

/-- Reads a pattern to the end of the text. -/
def pattern : Reading Node := do
  let mut inner := OpenGroup.begun none (← position)
  let mut outer : List OpenGroup := []
  for _ in (← get).rest do
    skipBlanks
    match ← peek with
    | none => break
    | some '(' =>
      match ← groupStart with
      | .inl directive => inner := inner.add directive
      | .inr opening =>
        outer := inner :: outer
        inner := .begun (some opening) (← position)
    | some ')' =>
      let stop ← position
      match inner.opening, outer with
      | some opening, o :: os =>
        bump
        modify fun c => { c with isVerbose := opening.wasVerbose }
        let span : Span := ⟨opening.span.start, ← position⟩
        inner := o.add (.group span opening.flags (inner.body stop))
        outer := os
      | _, _ => fail .groupUnopened (← nextSpan) none
    | some '|' =>
      let stop ← position
      bump
      inner := inner.branch stop (← position)
    | some '[' =>
      let read ← bracketed
      inner := inner.add (.bracketed read.span read.isNegated read.content)
    | some '?' => inner ← uncounted inner 0 (some 1)
    | some '*' => inner ← uncounted inner 0 none
    | some '+' => inner ← uncounted inner 1 none
    | some '{' => inner ← counted inner
    | some c => inner := inner.add (.atom (← atom c))
  if let some opening := inner.opening then fail .groupUnclosed opening.span none
  return inner.body (← position)

end Reading

/-- Reads the text of a pattern. -/
def Node.ofText (text : String) : Except Fault Node := do
  let (node, _) ← (Reading.pattern.run (Cursor.ofText text))
  node.checkNesting 0
  return node

end TtyGuard.Pattern
