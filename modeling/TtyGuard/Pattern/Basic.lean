/-
# TtyGuard.Pattern.Basic — patterns that texts are searched for

A text is read, its meaning is found, and the pattern is taken if its automaton does not get too
large.  A fault in the text is reported before a size that is too large.
-/
import TtyGuard.Pattern.Meaning
import TtyGuard.Pattern.Reader
import TtyGuard.Pattern.Size

namespace TtyGuard

/-- A pattern that texts are searched for. -/
structure Pattern where
  /-- How it is written. -/
  text : String
  expression : Pattern.Expression
deriving DecidableEq, Repr

/-- Why a text is not taken as a pattern. -/
inductive PatternError where
  | malformed (text : String) (fault : Pattern.Fault)
  /-- It is asked for words in any script, which are not known. -/
  | unknownWords
  | tooLarge
deriving DecidableEq, Repr

/-- The text shown for an error. -/
def PatternError.message : PatternError → String
  | malformed text fault => fault.message text
  | unknownWords => "error building NFA"
  | tooLarge => s!"Compiled regex exceeds size limit of {Pattern.maxSize} bytes."

namespace Pattern

/-- Reads a pattern. -/
def ofText (text : String) : Except PatternError Pattern := do
  let read : Except Fault Expression := do
    let node ← Node.ofText text
    let (e, _) ← node.meaning .standard
    return e
  match read with
  | .error fault => .error (.malformed text fault)
  | .ok e =>
    if maxSize < e.size .forward then .error .tooLarge
    else if e.asksForUnicodeWords then .error .unknownWords
    else if maxSize < e.size .backward then .error .tooLarge
    else .ok ⟨text, e⟩

/-- Whether a text has a part that the pattern matches. -/
def occursIn (p : Pattern) (text : String) : Bool := p.expression.occursIn text

end Pattern

end TtyGuard
