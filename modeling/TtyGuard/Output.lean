/-
# TtyGuard.Output — what a program shows while it runs

Output goes to two streams, as plain text: control characters and the sequences that steer a terminal
are taken out of it, since it may end up in a file.  Log records are part of the output, if they are
shown at all.
-/
import TtyGuard.Log

namespace TtyGuard

/-! ## Plain text -/

/-- Which sequence for a terminal a text is in the middle of. -/
inductive Sequence where
  /-- None. -/
  | ground
  /-- After the character that begins a sequence. -/
  | escape
  /-- After an escape and characters that come in front of its last one. -/
  | intermediate
  /-- A control sequence, which ends with a letter or the like. -/
  | control
  /-- A string for the terminal that a bell ends. -/
  | command
  /-- The head of a string for a device, before any parameter. -/
  | deviceHead
  /-- The parameters of a string for a device. -/
  | deviceParameters
  /-- What stands between the parameters and the last character of such a head. -/
  | deviceIntermediate
  /-- A string for the terminal that another sequence or the terminator `0x9c` ends. -/
  | string
deriving DecidableEq, Repr

/-- Whether the byte `0x9c`, which ends a string for a terminal, is among those that a character
beyond ASCII is encoded with. -/
def holdsTerminator (c : Char) : Bool :=
  (String.singleton c).toUTF8.toList.contains 0x9c

namespace Sequence

/-- The sequence that a character leaves a text in, the character being part of it. -/
def next (s : Sequence) (c : Char) : Sequence :=
  if c = '\x1b' then escape
  else if c = '\x18' || c = '\x1a' then ground
  else
    match s with
    | ground => ground
    | escape =>
      if c = '[' then control
      else if c = ']' then command
      else if c = 'P' then deviceHead
      else if c = 'X' || c = '^' || c = '_' then string
      else if ' ' ≤ c && c ≤ '/' then intermediate
      else if '0' ≤ c && c ≤ '~' then ground
      else escape
    | intermediate => if '0' ≤ c && c ≤ '~' then ground else intermediate
    | control => if '@' ≤ c && c ≤ '~' then ground else control
    | command => if c = '\x07' then ground else command
    | deviceHead =>
      if ' ' ≤ c && c ≤ '/' then deviceIntermediate
      else if '0' ≤ c && c ≤ '?' then deviceParameters
      else if '@' ≤ c && c ≤ '~' then string
      else deviceHead
    | deviceParameters =>
      if ' ' ≤ c && c ≤ '/' then deviceIntermediate
      else if '<' ≤ c && c ≤ '~' then string
      else deviceParameters
    | deviceIntermediate => if '0' ≤ c && c ≤ '~' then string else deviceIntermediate
    | string => if holdsTerminator c then ground else string

/-- Whether blanks in the middle of the sequence are shown. -/
def showsBlanks : Sequence → Bool
  | ground | escape | intermediate | control => true
  | command | deviceHead | deviceParameters | deviceIntermediate | string => false

/-- Whether a character is shown: blanks are, except in a string for the terminal, and all else that
is neither part of a sequence nor a control character. -/
def shows (s : Sequence) (c : Char) : Bool :=
  if c = '\t' || c = '\n' || c = '\x0c' || c = '\x0d' then s.showsBlanks
  else s = ground && ' ' ≤ c && c ≠ '\x7f'

end Sequence

/-- The characters that are shown of a text in the middle of a sequence.  Once a character is shown,
those behind it are shown as if there were no sequence, up to the first that cannot be: there the
sequence goes on, unless a character beyond ASCII was shown, which ends it. -/
def plainChars : Sequence → Bool → List Char → List Char
  | _, _, [] => []
  | s, isRun, c :: cs =>
    if (if isRun then Sequence.ground else s).shows c then
      c :: plainChars (if c.toNat < 0x80 then s else .ground) true cs
    else plainChars (s.next c) false cs

/-- A text without what only a terminal understands. -/
def plainText (text : String) : String := .ofList (plainChars .ground false text.toList)

/-! ## Events -/

/-- Where output goes. -/
inductive Stream where
  | out
  | err
deriving DecidableEq, Repr

/-- Something that is seen of a program. -/
inductive Event where
  /-- A record is logged. -/
  | logged (r : Log.Record)
  /-- Bytes appear on a stream. -/
  | emitted (s : Stream) (bytes : List UInt8)
deriving DecidableEq, Repr

namespace Event

/-- A text appears on a stream. -/
def printed (s : Stream) (text : String) : Event := emitted s text.toUTF8.toList

/-- Whether the event is seen when the filter decides about records. -/
def isShown (f : Log.Filter) : Event → Bool
  | logged r => f.shows r
  | emitted .. => true

/-- The bytes that the event leaves on a stream. -/
def output : Event → Stream × List UInt8
  | logged r => (.err, (plainText r.line).toUTF8.toList)
  | emitted s bytes => (s, bytes)

end Event

end TtyGuard
