/-
# TtyGuard.Pattern.Node — patterns as they are written

A pattern is read into nodes that keep the part of the text they stand for, so that a fault which
only their meaning shows can still be located.  `Node.checkNesting` refuses nodes that are nested too
deeply.
-/
import TtyGuard.CharSet.Basic
import TtyGuard.Pattern.Fault

namespace TtyGuard.Pattern

/-! ## What stands for itself -/

/-- A character that stands for itself. -/
structure Literal where
  span : Span
  char : Char
  /-- The character is written as a byte, with two hexadecimal digits. -/
  isByte : Bool
deriving DecidableEq, Repr

/-- Where a place lies with regard to words. -/
inductive WordEdge where
  | boundary
  | inside
  | start
  | stop
  /-- No word stands in front of the place. -/
  | startHalf
  /-- No word stands behind the place. -/
  | stopHalf
deriving DecidableEq, Repr

/-- The edges that are written with a name in braces. -/
def WordEdge.named : List (String × WordEdge) :=
  [("start", start), ("end", stop), ("start-half", startHalf), ("end-half", stopHalf)]

/-- What is asked of a place in a text. -/
inductive Assertion where
  | lineStart
  | lineEnd
  | textStart
  | textEnd
  | word (edge : WordEdge)
deriving DecidableEq, Repr

/-- A set that is written as an escaped letter. -/
inductive Shorthand where
  | digit
  | space
  | word
deriving DecidableEq, Repr

/-- The members in ASCII. -/
def Shorthand.set : Shorthand → CharSet
  | digit => .digit
  | space => .space
  | word => .word

/-- The smallest parts of a pattern. -/
inductive Atom where
  | literal (l : Literal)
  /-- Any character. -/
  | anything (span : Span)
  | assertion (span : Span) (kind : Assertion)
  | shorthand (span : Span) (kind : Shorthand) (isNegated : Bool)
  /-- The characters that have a property in the tables of Unicode. -/
  | property (span : Span) (name : String)
deriving DecidableEq, Repr

/-- The part of the text that an atom stands for. -/
def Atom.span : Atom → Span
  | literal l => l.span
  | anything span | assertion span _ | shorthand span .. | property span _ => span

/-! ## Classes -/

/-- How two classes are joined. -/
inductive ClassOperator where
  | intersection
  | difference
  | symmetricDifference
deriving DecidableEq, Repr

/-- A set of characters as it is written in brackets. -/
inductive ClassNode where
  | empty (span : Span)
  | literal (l : Literal)
  | range (span : Span) (first last : Literal)
  | named (span : Span) (set : CharSet) (isNegated : Bool)
  | shorthand (span : Span) (kind : Shorthand) (isNegated : Bool)
  | property (span : Span) (name : String)
  | bracketed (span : Span) (isNegated : Bool) (content : ClassNode)
  | union (span : Span) (items : List ClassNode)
  | joined (span : Span) (operator : ClassOperator) (left right : ClassNode)
deriving Repr

/-- The part of the text that a class stands for. -/
def ClassNode.span : ClassNode → Span
  | literal l => l.span
  | empty span | range span .. | named span .. | shorthand span .. | property span _
  | bracketed span .. | union span _ | joined span .. => span

/-! ## Patterns -/

/-- What may be switched for a part of a pattern. -/
inductive Flag where
  | ignoreCase
  | multiLine
  | dotAll
  | swapGreed
  | unicode
  | crlf
  | verbose
deriving DecidableEq, Repr

/-- The letters of the flags. -/
def Flag.lettered : List (Char × Flag) :=
  [('i', ignoreCase), ('m', multiLine), ('s', dotAll), ('U', swapGreed), ('u', unicode), ('R', crlf),
    ('x', verbose)]

/-- Flags, each with whether it is switched on or off. -/
abbrev Switches := List (Flag × Bool)

/-- A pattern as it is written. -/
inductive Node where
  | empty (span : Span)
  /-- Switches flags up to the end of the group around it. -/
  | switches (span : Span) (flags : Switches)
  | atom (a : Atom)
  | bracketed (span : Span) (isNegated : Bool) (content : ClassNode)
  | repeated (span : Span) (least : Nat) (most : Option Nat) (body : Node)
  /-- A group that captures, or one that switches flags. -/
  | group (span : Span) (flags : Option Switches) (body : Node)
  | either (span : Span) (branches : List Node)
  | sequence (span : Span) (items : List Node)
deriving Repr

/-- The part of the text that a node stands for. -/
def Node.span : Node → Span
  | atom a => a.span
  | empty span | switches span _ | bracketed span .. | repeated span .. | group span ..
  | either span _ | sequence span _ => span

/-! ## Nesting -/

/-- Refuses a node with others inside it if it stands at a depth of `maxNesting`. -/
def checkDepth (depth : Nat) (span : Span) : Except Fault Unit :=
  if depth < maxNesting then .ok () else .error ⟨.nestingTooDeep, span, none⟩

mutual

/-- Refuses a class if it or a part of it is nested too deeply. -/
def ClassNode.checkNesting (depth : Nat) : ClassNode → Except Fault Unit
  | bracketed span _ content => do
    checkDepth depth span
    content.checkNesting (depth + 1)
  | union span items => do
    checkDepth depth span
    checkNestingOfAll (depth + 1) items
  | joined span _ left right => do
    checkDepth depth span
    left.checkNesting (depth + 1)
    right.checkNesting (depth + 1)
  | _ => .ok ()

/-- Refuses the first of the classes that is nested too deeply. -/
def ClassNode.checkNestingOfAll (depth : Nat) : List ClassNode → Except Fault Unit
  | [] => .ok ()
  | item :: items => do
    item.checkNesting depth
    checkNestingOfAll depth items

end

mutual

/-- Refuses a pattern if it or a part of it is nested too deeply. -/
def Node.checkNesting (depth : Nat) : Node → Except Fault Unit
  | empty _ | switches .. | atom _ => .ok ()
  | bracketed span _ content => do
    checkDepth depth span
    content.checkNesting (depth + 1)
  | repeated span _ _ body | group span _ body => do
    checkDepth depth span
    body.checkNesting (depth + 1)
  | either span nodes | sequence span nodes => do
    checkDepth depth span
    checkNestingOfAll (depth + 1) nodes

/-- Refuses the first of the nodes that is nested too deeply. -/
def Node.checkNestingOfAll (depth : Nat) : List Node → Except Fault Unit
  | [] => .ok ()
  | node :: nodes => do
    node.checkNesting depth
    checkNestingOfAll depth nodes

end

end TtyGuard.Pattern
