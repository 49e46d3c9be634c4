/-
# TtyGuard.Pattern.Meaning — from nodes to expressions

What a node means depends on the flags.  Texts are made of whole characters, so what could match a
single byte beyond ASCII is refused; and of the tables of Unicode none is at hand, so the sets, the
properties and the pairs of upper and lower case that hang on them are refused as well.
-/
import TtyGuard.Pattern.Expression

namespace TtyGuard.Pattern

/-! ## Modes -/

/-- The flags that have a say in what a node means. -/
structure Mode where
  ignoreCase : Bool
  multiLine : Bool
  dotAll : Bool
  /-- Off, sets and classes are made of ASCII only. -/
  unicode : Bool
  crlf : Bool
deriving DecidableEq, Repr

namespace Mode

/-- How a pattern begins. -/
def standard : Mode := ⟨false, false, false, true, false⟩

/-- The mode with a flag switched. -/
def switch (m : Mode) (flag : Flag) (isOn : Bool) : Mode :=
  match flag with
  | .ignoreCase => { m with ignoreCase := isOn }
  | .multiLine => { m with multiLine := isOn }
  | .dotAll => { m with dotAll := isOn }
  | .unicode => { m with unicode := isOn }
  | .crlf => { m with crlf := isOn }
  | .swapGreed | .verbose => m

/-- The mode with flags switched. -/
def switched (m : Mode) (flags : Switches) : Mode :=
  flags.foldl (fun m (flag, isOn) => m.switch flag isOn) m

end Mode

/-- Reports a fault without an earlier part. -/
def refuse {α : Type} (kind : FaultKind) (span : Span) : Except Fault α :=
  .error ⟨kind, span, none⟩

/-! ## Classes -/

/-- A set of characters, with whether it is known to have both cases of each of its letters. -/
structure CasedSet where
  set : CharSet
  hasBothCases : Bool
deriving DecidableEq, Repr

namespace CasedSet

/-- A set of which nothing is known. -/
def plain (set : CharSet) : CasedSet := ⟨set, set.isEmpty⟩

/-- The characters of either set. -/
def union (s t : CasedSet) : CasedSet := ⟨s.set.union t.set, s.hasBothCases && t.hasBothCases⟩

/-- The set with both cases of its letters, if that is asked for. -/
def fold (s : CasedSet) (mode : Mode) (span : Span) : Except Fault CasedSet :=
  if !mode.ignoreCase || s.hasBothCases then .ok s
  else if mode.unicode then refuse .caseUnknown span
  else .ok ⟨s.set.withBothCases, true⟩

/-- The characters that are not in the set.  Without Unicode that would be bytes. -/
def negate (s : CasedSet) (isNegated : Bool) (mode : Mode) (span : Span) : Except Fault CasedSet :=
  if !isNegated then .ok s
  else if mode.unicode then .ok ⟨s.set.complement, s.hasBothCases || s.set.isEmpty⟩
  else refuse .invalidBytes span

/-- Two sets joined. -/
def join (operator : ClassOperator) (s t : CasedSet) : CasedSet :=
  let set :=
    match operator with
    | .intersection => s.set.inter t.set
    | .difference => s.set.diff t.set
    | .symmetricDifference => s.set.symmDiff t.set
  ⟨set, set.isEmpty || s.hasBothCases && t.hasBothCases⟩

end CasedSet

/-- The character that a literal of a class stands for. -/
def Literal.member (l : Literal) (mode : Mode) : Except Fault Char :=
  if mode.unicode || l.char.toNat < 0x80 then .ok l.char
  else if l.isByte then refuse .invalidBytes l.span
  else refuse .unicodeNotAllowed l.span

/-- The members of a shorthand. -/
def Shorthand.members (kind : Shorthand) (isNegated : Bool) (mode : Mode) (span : Span) :
    Except Fault CharSet :=
  if mode.unicode then refuse .shorthandNotFound span
  else if isNegated then refuse .invalidBytes span
  else .ok kind.set

/-- The name of a property as it is compared: in lower case, without `is` in front of it, separators
and all that is not ASCII. -/
def normalizedName (name : String) : String :=
  let lower := name.toList.map Char.toLower
  let bare := if ['i', 's'].isPrefixOf lower then lower.drop 2 else lower
  .ofList (bare.filter fun c => c.toNat < 0x80 && c ≠ ' ' && c ≠ '_' && c ≠ '-')

/-- The fault of asking for a property. -/
def propertyFault (name : String) (mode : Mode) : FaultKind :=
  let isPlain := name.toList.all fun c => c ≠ ':' && c ≠ '='
  if !mode.unicode then .unicodeNotAllowed
  else if isPlain && ["cf", "sc", "lc"].contains (normalizedName name) then .propertyValueNotFound
  else .propertyNotFound

mutual

/-- The members of a class. -/
def ClassNode.members (mode : Mode) : ClassNode → Except Fault CasedSet
  | empty _ => .ok (.plain .empty)
  | literal l => do
    let char ← l.member mode
    return .plain (.singleton char)
  | range _ first last => do
    let first ← first.member mode
    let last ← last.member mode
    return .plain (.ofRange first last)
  | named span set isNegated => do (← (CasedSet.plain set).fold mode span).negate isNegated mode span
  | shorthand span kind isNegated => return .plain (← kind.members isNegated mode span)
  | property span name => refuse (propertyFault name mode) span
  | bracketed span isNegated content => do
    (← (← content.members mode).fold mode span).negate isNegated mode span
  | union _ items => membersOfAll mode items
  | joined _ operator left right => do
    let leftSet ← left.members mode
    let rightSet ← right.members mode
    let rightSet ← rightSet.fold mode right.span
    let leftSet ← leftSet.fold mode left.span
    return .join operator leftSet rightSet

/-- The members of several classes. -/
def ClassNode.membersOfAll (mode : Mode) : List ClassNode → Except Fault CasedSet
  | [] => .ok (.plain .empty)
  | item :: items => do
    let set ← item.members mode
    return set.union (← membersOfAll mode items)

end

/-! ## Atoms -/

/-- The expression for a literal. -/
def Literal.expression (l : Literal) (mode : Mode) : Except Fault Expression := do
  if !mode.unicode && l.isByte && 0x80 ≤ l.char.toNat then refuse .invalidBytes l.span
  let set ← (CasedSet.plain (.singleton l.char)).fold mode l.span
  return .chars set.set

/-- The characters that a dot stands for. -/
def Mode.dot (mode : Mode) : CharSet :=
  if mode.dotAll then CharSet.empty.complement
  else if mode.crlf then ((CharSet.singleton '\n').union (.singleton '\x0d')).complement
  else (CharSet.singleton '\n').complement

/-- What an assertion asks for. -/
def Assertion.look (mode : Mode) : Assertion → Look
  | lineStart => if mode.multiLine then .lineStart mode.crlf else .textStart
  | lineEnd => if mode.multiLine then .lineEnd mode.crlf else .textEnd
  | textStart => .textStart
  | textEnd => .textEnd
  | word edge => .word edge mode.unicode

/-- The expression for an atom. -/
def Atom.expression (mode : Mode) : Atom → Except Fault Expression
  | literal l => l.expression mode
  | anything span => if mode.unicode then .ok (.chars mode.dot) else refuse .invalidBytes span
  | assertion _ kind => .ok (.look (kind.look mode))
  | shorthand span kind isNegated => return .chars (← kind.members isNegated mode span)
  | property span name => refuse (propertyFault name mode) span

/-! ## Nodes -/

mutual

/-- The expression for a node, and the mode behind it. -/
def Node.meaning (mode : Mode) : Node → Except Fault (Expression × Mode)
  | empty _ => .ok (.empty, mode)
  | switches _ flags => .ok (.empty, mode.switched flags)
  | atom a => return (← a.expression mode, mode)
  | bracketed span isNegated content => do
    let set ← (← (← content.members mode).fold mode span).negate isNegated mode span
    return (.chars set.set, mode)
  | repeated _ least most body => do
    let (e, mode) ← body.meaning mode
    return (e.times least most, mode)
  | group _ none body => do
    let (e, _) ← body.meaning mode
    return (.capture e, mode)
  | group _ (some flags) body => do
    let (e, _) ← body.meaning (mode.switched flags)
    return (e, mode)
  | either _ nodes => do
    let (es, mode) ← meaningOfAll mode nodes
    return (.choice es, mode)
  | sequence _ nodes => do
    let (es, mode) ← meaningOfAll mode nodes
    return (es.foldr Expression.andThen .empty, mode)

/-- The expressions for nodes one behind another, and the mode behind them. -/
def Node.meaningOfAll (mode : Mode) : List Node → Except Fault (List Expression × Mode)
  | [] => .ok ([], mode)
  | node :: nodes => do
    let (e, mode) ← node.meaning mode
    let (es, mode) ← meaningOfAll mode nodes
    return (e :: es, mode)

end

end TtyGuard.Pattern
