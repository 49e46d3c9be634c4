/-
# TtyGuard.Pattern.Fault — why a text is no pattern

A fault has a kind and the part of the text where it shows; a few kinds name an earlier part as well,
the one that is repeated.
-/
import TtyGuard.Pattern.Span

namespace TtyGuard.Pattern

/-- The deepest nesting that a pattern may have. -/
def maxNesting : Nat := 250

/-- What is wrong with a part of a text. -/
inductive FaultKind where
  /-- Something that is no character stands in a class. -/
  | classEscapeInvalid
  /-- The last character of a range comes before its first. -/
  | classRangeInvalid
  /-- One end of a range is no character. -/
  | classRangeLiteral
  | classUnclosed
  /-- A number is too large. -/
  | decimalInvalid
  | escapeHexEmpty
  /-- Hexadecimal digits stand for no character. -/
  | escapeHexInvalid
  | escapeHexInvalidDigit
  | escapeUnexpectedEnd
  | escapeUnrecognized
  /-- A minus sign stands behind all flags. -/
  | flagDanglingNegation
  | flagDuplicate
  | flagRepeatedNegation
  | flagUnexpectedEnd
  | flagUnrecognized
  | groupNameDuplicate
  | groupNameEmpty
  | groupNameInvalid
  | groupNameUnexpectedEnd
  | groupUnclosed
  | groupUnopened
  | nestingTooDeep
  /-- A repetition has to end before it begins. -/
  | repetitionCountInvalid
  | repetitionCountEmpty
  | repetitionCountUnclosed
  /-- There is nothing to repeat. -/
  | repetitionMissing
  | wordBoundaryUnclosed
  | wordBoundaryUnrecognized
  /-- The text ends after the brace behind a word boundary. -/
  | wordBoundaryUnexpectedEnd
  | propertyInvalid
  | backreference
  | lookAround
  /-- A class without Unicode holds a character beyond ASCII, or a property. -/
  | unicodeNotAllowed
  /-- A part could match bytes that are no character. -/
  | invalidBytes
  | propertyNotFound
  | propertyValueNotFound
  /-- A class of all scripts that is not known. -/
  | shorthandNotFound
  /-- Upper and lower case of all scripts are not known. -/
  | caseUnknown
deriving DecidableEq, Repr

/-- The text shown for a kind of fault. -/
def FaultKind.message : FaultKind → String
  | classEscapeInvalid => "invalid escape sequence found in character class"
  | classRangeInvalid => "invalid character class range, the start must be <= the end"
  | classRangeLiteral => "invalid range boundary, must be a literal"
  | classUnclosed => "unclosed character class"
  | decimalInvalid => "decimal literal invalid"
  | escapeHexEmpty => "hexadecimal literal empty"
  | escapeHexInvalid => "hexadecimal literal is not a Unicode scalar value"
  | escapeHexInvalidDigit => "invalid hexadecimal digit"
  | escapeUnexpectedEnd => "incomplete escape sequence, reached end of pattern prematurely"
  | escapeUnrecognized => "unrecognized escape sequence"
  | flagDanglingNegation => "dangling flag negation operator"
  | flagDuplicate => "duplicate flag"
  | flagRepeatedNegation => "flag negation operator repeated"
  | flagUnexpectedEnd => "expected flag but got end of regex"
  | flagUnrecognized => "unrecognized flag"
  | groupNameDuplicate => "duplicate capture group name"
  | groupNameEmpty => "empty capture group name"
  | groupNameInvalid => "invalid capture group character"
  | groupNameUnexpectedEnd => "unclosed capture group name"
  | groupUnclosed => "unclosed group"
  | groupUnopened => "unopened group"
  | nestingTooDeep =>
    s!"exceed the maximum number of nested parentheses/brackets ({maxNesting})"
  | repetitionCountInvalid =>
    "invalid repetition count range, the start must be <= the end"
  | repetitionCountEmpty => "repetition quantifier expects a valid decimal"
  | repetitionCountUnclosed => "unclosed counted repetition"
  | repetitionMissing => "repetition operator missing expression"
  | wordBoundaryUnclosed =>
    "special word boundary assertion is either unclosed or contains an invalid character"
  | wordBoundaryUnrecognized =>
    "unrecognized special word boundary assertion, valid choices are: start, end, start-half or end-half"
  | wordBoundaryUnexpectedEnd =>
    "found either the beginning of a special word boundary or a bounded repetition on a \\b with an opening brace, but no closing brace"
  | propertyInvalid => "invalid Unicode character class"
  | backreference => "backreferences are not supported"
  | lookAround => "look-around, including look-ahead and look-behind, is not supported"
  | unicodeNotAllowed => "Unicode not allowed here"
  | invalidBytes => "pattern can match invalid UTF-8"
  | propertyNotFound => "Unicode property not found"
  | propertyValueNotFound => "Unicode property value not found"
  | shorthandNotFound =>
    "Unicode-aware Perl class not found (make sure the unicode-perl feature is enabled)"
  | caseUnknown =>
    "Unicode-aware case insensitivity matching is not available (make sure the unicode-case feature is enabled)"

/-- A fault, the part of the text where it shows, and an earlier part that is repeated there. -/
structure Fault where
  kind : FaultKind
  span : Span
  earlier : Option Span
deriving DecidableEq, Repr

/-- The text shown for a fault in a pattern of this text. -/
def Fault.message (f : Fault) (text : String) : String :=
  s!"regex parse error:\n{Span.shown text (f.span :: f.earlier.toList)}error: {f.kind.message}"

end TtyGuard.Pattern
