/-
# TtyGuard.Pattern.Size — how large the automaton of an expression is

A pattern is only taken if its automaton over bytes, and the one that reads backwards, stay below a
limit.  The size of an automaton is computed without building it: every state takes the same space,
and so does every way out of a state with several of them.
-/
import TtyGuard.Pattern.Expression

namespace TtyGuard.Pattern

/-! ## Sequences of bytes -/

/-- A range of bytes. -/
abbrev ByteRange := Nat × Nat

/-- The ranges of bytes that the last `count` bytes of the code points between two are in; `lead` is
added to the first of these bytes. -/
def byteRuns (lead : Nat) : (count : Nat) → (first last : Nat) → List (List ByteRange)
  | 0, _, _ => [[]]
  | 1, first, last => [[(lead + first, lead + last)]]
  | count + 2, first, last =>
    let block := 1 <<< (6 * (count + 1))
    let runs (digits : Nat × Nat) (first last : Nat) : List (List ByteRange) :=
      (byteRuns 0x80 (count + 1) first last).map ((lead + digits.1, lead + digits.2) :: ·)
    let low := first / block
    let high := last / block
    if low = high then runs (low, low) (first % block) (last % block)
    else
      let isLowWhole := first % block = 0
      let isHighWhole := last % block = block - 1
      let middle := (if isLowWhole then low else low + 1, if isHighWhole then high + 1 else high)
      (if isLowWhole then [] else runs (low, low) (first % block) (block - 1)) ++
        (if middle.1 < middle.2 then runs (middle.1, middle.2 - 1) 0 (block - 1) else []) ++
        if isHighWhole then [] else runs (high, high) 0 (last % block)

/-- The ranges of code points that are encoded alike: first, last, count of bytes, and what is added
to the first byte. -/
def encodings : List (Nat × Nat × Nat × Nat) :=
  [(0, 0x7f, 1, 0), (0x80, 0x7ff, 2, 0xc0), (0x800, 0xd7ff, 3, 0xe0), (0xe000, 0xffff, 3, 0xe0),
    (0x10000, 0x10ffff, 4, 0xf0)]

/-- The sequences of ranges of bytes that encode the characters of a set. -/
def byteSequences (s : CharSet) : List (List ByteRange) :=
  s.ranges.flatMap fun (first, last) =>
    encodings.flatMap fun (least, most, count, lead) =>
      if last < least || most < first then []
      else byteRuns lead count (max first least) (min last most)

/-! ## Sizes -/

/-- What a state takes. -/
def stateSize : Nat := 32

/-- What a way out of a state takes if it depends on the byte that is read. -/
def transitionSize : Nat := 8

/-- What a way out of a state takes if no byte is read. -/
def branchSize : Nat := 4

/-- The size for one sequence of ranges after another, read forwards.  States from which the same can
follow are one. -/
def forwardSetSize (sequences : List (List ByteRange)) : Nat :=
  let beginnings := sequences.flatMap fun s => (List.range s.length).map s.take
  let following (beginning : List ByteRange) : List (List ByteRange) :=
    (sequences.filter beginning.isPrefixOf).map (·.drop beginning.length)
  let states := (beginnings.eraseDups.map following).eraseDups
  let sizes := states.map fun state =>
    stateSize + transitionSize * (state.map List.head?).eraseDups.length
  stateSize + sizes.foldl (· + ·) 0

/-- The size for the same sequences read backwards.  They share what they begin with. -/
def backwardSetSize (sequences : List (List ByteRange)) : Nat :=
  let beginnings := sequences.flatMap fun s => (List.range s.length).map fun n => s.take (n + 1)
  2 * stateSize + stateSize * beginnings.eraseDups.length + branchSize * sequences.length

/-- The two directions of reading. -/
inductive Direction where
  | forward
  | backward
deriving DecidableEq, Repr

/-- The size for a character of a set. -/
def setSize (direction : Direction) (s : CharSet) : Nat :=
  match s.only? with
  | some c => stateSize * c.utf8Size
  | none =>
    if s.isAscii then 2 * stateSize + transitionSize * s.ranges.length
    else
      match direction with
      | .forward => forwardSetSize (byteSequences s)
      | .backward => backwardSetSize (byteSequences s)

/-- What it takes to go on or not. -/
def forkSize : Nat := stateSize + 2 * branchSize

/-- The size for a choice between branches of given sizes. -/
def choiceSize : List Nat → Nat
  | [size] => size
  | sizes => 2 * stateSize + branchSize * sizes.length + sizes.foldl (· + ·) 0

/-- The size for something of a given size, between `least` and `most` times. -/
def loopSize (least : Nat) (most : Option Nat) (size : Nat) (consumes : Bool) : Nat :=
  match least, most with
  | 0, some 1 => forkSize + size + stateSize
  | 0, none => if consumes then forkSize + size else 2 * forkSize + size + stateSize
  | least, none => least * size + forkSize
  | least, some most =>
    if least = most then least * size
    else
      (if least = 0 then stateSize else least * size) + stateSize +
        (most - least) * (forkSize + size)

/-- The sizes for the branches of an expression.  What is captured is marked on both sides, but not
when it is read backwards. -/
def Expression.branchSizes (direction : Direction) : Expression → List Nat
  | empty | look _ => [stateSize]
  | chars s => [setSize direction s]
  | seq a b => [choiceSize (a.branchSizes direction) + choiceSize (b.branchSizes direction)]
  | either a b => a.branchSizes direction ++ b.branchSizes direction
  | capture e =>
    let marks := if direction = .forward then 2 * stateSize else 0
    [choiceSize (e.branchSizes direction) + marks]
  | loop least most e =>
    [loopSize least most (choiceSize (e.branchSizes direction)) e.consumes]

/-- The size of the automaton that looks for an expression.  Forwards a match is marked on both sides
and may begin anywhere, unless it has to begin where the text does. -/
def Expression.size (e : Expression) (direction : Direction) : Nat :=
  let start :=
    match direction with
    | .backward => stateSize
    | .forward =>
      let skip := 2 * stateSize + transitionSize
      2 * stateSize + if e.isAnchored then stateSize else forkSize + skip
  start + choiceSize (e.branchSizes direction) + stateSize

/-- The largest size that is taken. -/
def maxSize : Nat := 10485760

end TtyGuard.Pattern
