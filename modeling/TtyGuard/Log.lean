/-
# TtyGuard.Log — log records, which of them are shown, and their lines

A record has a level, a target and a text.  What is shown is decided by a specification such as
`warn,tiocsti_filter::output=debug`: directives that give a threshold to the targets beginning with
a name.  The longest such name decides.  Behind a slash, a pattern may follow that the text of a
record has to match.  What is no directive or no pattern is reported in a warning.
-/
import TtyGuard.Pattern.Basic

namespace TtyGuard.Log

/-! ## Records -/

/-- How important a record is, the most important first. -/
inductive Level where
  | error
  | warn
  | info
  | debug
  | trace
deriving DecidableEq, Repr

namespace Level

/-- The levels in order of importance, which is also the order of their ranks. -/
def all : List Level := [error, warn, info, debug, trace]

/-- Position of the level: the larger, the more detail it stands for. -/
def rank : Level → Nat
  | error => 1
  | warn => 2
  | info => 3
  | debug => 4
  | trace => 5

/-- The level's name as it is printed. -/
def name : Level → String
  | error => "ERROR"
  | warn => "WARN"
  | info => "INFO"
  | debug => "DEBUG"
  | trace => "TRACE"

end Level

/-- One message, with the part of the program it comes from. -/
structure Record where
  level : Level
  target : String
  text : String
deriving DecidableEq, Repr

/-- The record as one line: the level in five columns, the target, the text; the further lines of a
text are indented by four blanks. -/
def Record.line (r : Record) : String :=
  let level := r.level.name.pushn ' ' (5 - r.level.name.length)
  let text := "\n    ".intercalate (r.text.splitOn "\n")
  s!"[{level} {r.target}] {text}\n"

/-! ## Specifications -/

/-- The highest rank that is shown; at `0` nothing is. -/
abbrev Threshold := Nat

/-- A threshold's name, in any case: `off` or a level. -/
def threshold? (text : String) : Option Threshold :=
  let name := text.map Char.toUpper
  if name = "OFF" then some 0 else (Level.all.find? (·.name = name)).map Level.rank

/-- A threshold for the targets that begin with a name, or for those that no name fits. -/
structure Directive where
  name : Option String
  threshold : Threshold
deriving DecidableEq, Repr

namespace Directive

/-- Whether the directive has a say about a target. -/
def covers (d : Directive) (target : String) : Bool :=
  d.name.all fun name => target.startsWith name

/-- How specific the directive is: the length of its name. -/
def weight (d : Directive) : Nat :=
  d.name.elim 0 String.utf8ByteSize

/-- Reads one entry: a threshold for everything, a name for all levels, or `name=threshold`.  What
cannot be read is given back. -/
def ofEntry (entry : String) : Except String Directive :=
  match entry.splitOn "=" with
  | [single] =>
    match threshold? single with
    | some threshold => .ok ⟨none, threshold⟩
    | none => .ok ⟨some single, Level.trace.rank⟩
  | [name, value] =>
    let value := trimmed value
    if value.isEmpty then .ok ⟨some name, Level.trace.rank⟩
    else
      match threshold? value with
      | some threshold => .ok ⟨some name, threshold⟩
      | none => .error value
  | _ => .error entry

end Directive

/-- Which records are shown. -/
structure Filter where
  directives : List Directive
  /-- What has to occur in the text of a record. -/
  pattern : Option Pattern
deriving DecidableEq, Repr

namespace Filter

/-- Adds a directive; one of the same name gives way to it. -/
def insertDirective (ds : List Directive) (d : Directive) : List Directive :=
  if ds.any (·.name = d.name) then ds.map fun old => if old.name = d.name then d else old
  else ds ++ [d]

/-- The directive with the longest name, of two equally long ones the later. -/
def mostSpecific (ds : List Directive) : Option Directive :=
  ds.foldl (fun best d => if best.any (d.weight < ·.weight) then best else some d) none

/-- Whether a record is shown.  Without any directive only errors are. -/
def shows (f : Filter) (r : Record) : Bool :=
  let directives := if f.directives.isEmpty then [⟨none, Level.error.rank⟩] else f.directives
  let decides := mostSpecific (directives.filter (·.covers r.target))
  decides.any (r.level.rank ≤ ·.threshold) &&
    f.pattern.all (·.occursIn r.text)

/-- Reads a specification: entries between commas, then perhaps a slash and a pattern.  What cannot be
read is listed beside the filter, entries first. -/
def ofSpec (spec : String) : Filter × List String :=
  let ofEntries (entries : String) : List Directive × List String :=
    let entries := (entries.splitOn ",").map trimmed
    let read := (entries.filter (!·.isEmpty)).map Directive.ofEntry
    let directives := read.filterMap fun r => r.toOption
    let faults := read.filterMap fun
      | .ok _ => none
      | .error entry => some s!"invalid logging spec '{entry}'"
    (directives.foldl insertDirective [], faults)
  match spec.splitOn "/" with
  | [entries] =>
    let (directives, faults) := ofEntries entries
    (⟨directives, none⟩, faults)
  | [entries, pattern] =>
    let (directives, faults) := ofEntries entries
    match Pattern.ofText pattern with
    | .ok pattern => (⟨directives, some pattern⟩, faults)
    | .error e => (⟨directives, none⟩, faults ++ [s!"invalid regex filter - {e.message}"])
  | _ => (⟨[], none⟩, [s!"invalid logging spec '{spec}' (too many '/'s)"])

/-- What is shown where nothing is specified: all but details. -/
def standardSpec : String := "info"

end Filter

end TtyGuard.Log
