/-
# TtyGuard.Pattern.Expression — what a pattern means, and where it matches

A text of `n` characters has `n + 1` places, in front of each character and behind the last.  An
expression leads from places to the places behind what it matches there; it occurs in a text if it
leads anywhere from all of them.  Expressions are put together by `andThen`, `choice` and `times`,
which leave out what matches nothing but the empty text for sure.
-/
import TtyGuard.Pattern.Node

namespace TtyGuard.Pattern

/-! ## Looks -/

/-- What is asked of a place, the flags taken into account. -/
inductive Look where
  | textStart
  | textEnd
  | lineStart (crlf : Bool)
  | lineEnd (crlf : Bool)
  /-- At the edge of a word, in ASCII or in any script. -/
  | word (edge : WordEdge) (isUnicode : Bool)
deriving DecidableEq, Repr

/-- Whether a character may stand in a word. -/
def isWordChar (c : Char) : Bool := CharSet.word.contains c

/-- Whether the edge of a word lies between two things, each in a word or not. -/
def WordEdge.lies : WordEdge → (before behind : Bool) → Bool
  | boundary, before, behind => before != behind
  | inside, before, behind => before == behind
  | start, before, behind => !before && behind
  | stop, before, behind => before && !behind
  | startHalf, before, _ => !before
  | stopHalf, _, behind => !behind

/-- Whether a place between two characters is as asked.  Only the words of ASCII are known. -/
def Look.holds : Look → (before behind : Option Char) → Bool
  | textStart, before, _ => before.isNone
  | textEnd, _, behind => behind.isNone
  | lineStart false, before, _ => before.all (· = '\n')
  | lineEnd false, _, behind => behind.all (· = '\n')
  | lineStart true, before, behind =>
    before.all fun c => c = '\n' || c = '\x0d' && behind ≠ some '\n'
  | lineEnd true, before, behind =>
    behind.all fun c => c = '\x0d' || c = '\n' && before ≠ some '\x0d'
  | word edge _, before, behind => edge.lies (before.any isWordChar) (behind.any isWordChar)

/-! ## Expressions -/

/-- What a pattern means. -/
inductive Expression where
  /-- The empty text. -/
  | empty
  /-- One character of a set. -/
  | chars (s : CharSet)
  | look (l : Look)
  | seq (first second : Expression)
  | either (left right : Expression)
  | capture (e : Expression)
  | loop (least : Nat) (most : Option Nat) (e : Expression)
deriving DecidableEq, Repr

namespace Expression

/-- Whether no more than the empty text is matched. -/
def isThin : Expression → Bool
  | empty | look _ => true
  | chars _ => false
  | seq a b | either a b => a.isThin && b.isThin
  | capture e | loop _ _ e => e.isThin

/-- Whether all that is matched has a character. -/
def consumes : Expression → Bool
  | empty | look _ => false
  | chars s => !s.isEmpty
  | seq a b => a.consumes || b.consumes
  | either a b => a.consumes && b.consumes
  | capture e => e.consumes
  | loop least _ e => least ≠ 0 && e.consumes

/-- Whether a match has to begin where the text does. -/
def isAnchored : Expression → Bool
  | look .textStart => true
  | empty | look _ | chars _ => false
  | seq a b => a.isAnchored || a.isThin && b.isAnchored
  | either a b => a.isAnchored && b.isAnchored
  | capture e => e.isAnchored
  | loop least _ e => least ≠ 0 && e.isAnchored

/-- Whether it is asked for words in any script. -/
def asksForUnicodeWords : Expression → Bool
  | look (.word _ isUnicode) => isUnicode
  | empty | look _ | chars _ => false
  | seq a b | either a b => a.asksForUnicodeWords || b.asksForUnicodeWords
  | capture e | loop _ _ e => e.asksForUnicodeWords

/-! ## Putting expressions together -/

/-- One expression behind another. -/
def andThen : Expression → Expression → Expression
  | empty, b => b
  | a, empty => a
  | a, b => seq a b

/-- The branches of a choice, however they are nested. -/
def branches : Expression → List Expression
  | either a b => a.branches ++ b.branches
  | e => [e]

/-- The set of characters that an expression is. -/
def set? : Expression → Option CharSet
  | chars s => some s
  | _ => none

/-- One of several expressions.  Sets of characters become one set. -/
def choice (es : List Expression) : Expression :=
  let all := es.flatMap branches
  match all.mapM set? with
  | some sets => chars (sets.foldl CharSet.union .empty)
  | none => (all.dropLast.foldr either (all.getLast?.getD empty))

/-- An expression between `least` and `most` times.  What matches no more than the empty text need not
be matched twice. -/
def times (least : Nat) (most : Option Nat) (e : Expression) : Expression :=
  let (least, most) := if e.isThin then (min least 1, some (min 1 (most.getD 1))) else (least, most)
  if most = some 0 then empty
  else if least = 1 && most = some 1 then e
  else loop least most e

/-! ## Places -/

/-- Which places of a text are meant, from the first to the last. -/
abbrev Places := List Bool

/-- The places where a look holds. -/
def placesOf (l : Look) (text : List Char) : Places :=
  ((none :: text.map some).zip (text.map some ++ [none])).map fun (before, behind) =>
    l.holds before behind

/-- A step taken a number of times. -/
def exactly (step : Places → Places) : Nat → Places → Places
  | 0, places => places
  | n + 1, places => exactly step n (step places)

/-- The places that are reached by a number of steps at most; of those `seen`, only the `fresh` ones
have steps to be taken from. -/
def upTo (step : Places → Places) : Nat → (seen fresh : Places) → Places
  | 0, seen, _ => seen
  | n + 1, seen, fresh =>
    let reached := (step fresh).zipWith (fun r s => r && !s) seen
    if reached.contains true then upTo step n (seen.zipWith or reached) reached else seen

/-- The places behind what is matched at given places.  More steps than there are places lead
nowhere else. -/
def ends (text : List Char) : Expression → Places → Places
  | empty, places => places
  | chars s, places => false :: places.zipWith (fun isMeant c => isMeant && s.contains c) text
  | look l, places => places.zipWith and (placesOf l text)
  | seq a b, places => b.ends text (a.ends text places)
  | either a b, places => (a.ends text places).zipWith or (b.ends text places)
  | capture e, places => e.ends text places
  | loop least most e, places =>
    let limit := text.length + 1
    let reached := exactly (e.ends text) (min least limit) places
    upTo (e.ends text) (most.elim limit fun most => min (most - least) limit) reached reached

/-- Whether a text has a part that is matched. -/
def occursIn (e : Expression) (text : String) : Bool :=
  (e.ends text.toList (.replicate (text.length + 1) true)).contains true

end Expression

end TtyGuard.Pattern
