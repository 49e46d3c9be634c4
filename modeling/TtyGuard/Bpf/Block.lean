/-
# TtyGuard.Bpf.Block — nested statements, their code and their meaning

A block is a sequence of loads, returns and conditional statements that may hold blocks in turn.
`compile` lays it out as code; `meaning` reads it directly, without code, positions or jumps.
-/
import TtyGuard.Bpf.Statement
import TtyGuard.Bpf.Machine

namespace TtyGuard.Bpf

/-- A sequence of statements; every statement carries what comes after it. -/
inductive Block where
  /-- Nothing is left. -/
  | done
  /-- Put the input's word at `offset` into the accumulator. -/
  | load (offset : UInt32) (next : Block)
  /-- End with the value `k`. -/
  | ret (k : UInt32) (next : Block)
  /-- Do `body` if the term holds. -/
  | when (term : Term) (body next : Block)
  /-- Do `body` unless the term holds. -/
  | whenNot (term : Term) (body next : Block)
  /-- Do `matched` if some term holds and `fallback` otherwise. -/
  | whenAnyElse (terms : List Term) (matched fallback next : Block)

/-- How a block ends. -/
inductive Reading where
  /-- With a value. -/
  | returned (k : UInt32)
  /-- At a load outside of the input. -/
  | faulted (offset : UInt32)
  /-- At its end, with this accumulator. -/
  | fell (acc : UInt32)
deriving DecidableEq, Repr

/-- Goes on with `next` if the end was reached. -/
def Reading.andThen (next : UInt32 → Reading) : Reading → Reading
  | fell acc => next acc
  | ended => ended

namespace Block

/-- The code of a block: its statements one after the other, inner blocks first. -/
def compile : Block → Except StatementError (List Instruction)
  | done => .ok []
  | load offset next => do
    return .load offset :: (← next.compile)
  | ret k next => do
    return .ret k :: (← next.compile)
  | when term body next => do
    let statement ← Statement.when term (← body.compile)
    return statement ++ (← next.compile)
  | whenNot term body next => do
    let statement ← Statement.whenNot term (← body.compile)
    return statement ++ (← next.compile)
  | whenAnyElse terms matched fallback next => do
    let matchedCode ← matched.compile
    let fallbackCode ← fallback.compile
    let statement ← Statement.whenAnyElse terms matchedCode fallbackCode
    return statement ++ (← next.compile)

/-- What a block does with an input, starting from an accumulator. -/
def meaning (input : List UInt8) : Block → UInt32 → Reading
  | done, acc => .fell acc
  | load offset next, _ =>
    match wordAt? input offset with
    | some word => next.meaning input word
    | none => .faulted offset
  | ret k _, _ => .returned k
  | when term body next, acc =>
    (if term.holds acc then body.meaning input acc else .fell acc).andThen (next.meaning input)
  | whenNot term body next, acc =>
    (if term.holds acc then .fell acc else body.meaning input acc).andThen (next.meaning input)
  | whenAnyElse terms matched fallback next, acc =>
    (if terms.any (·.holds acc) then matched.meaning input acc
      else fallback.meaning input acc).andThen (next.meaning input)

end Block

end TtyGuard.Bpf
