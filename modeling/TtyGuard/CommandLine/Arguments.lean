/-
# TtyGuard.CommandLine.Arguments — what the arguments ask for

Arguments are read from left to right.  Options act as soon as they are met; the one other argument
names the output, and two dashes let everything after them count as such.  An argument is a text: one
that is not UTF-8 is not covered.
-/
import TtyGuard.CommandLine.Similarity
import TtyGuard.Output

namespace TtyGuard.CommandLine

/-! ## Requests and usage errors -/

/-- An option of the program. -/
inductive Switch where
  | help
  | version
deriving DecidableEq, Repr

namespace Switch

/-- All options. -/
def all : List Switch := [help, version]

/-- The option's name after two dashes. -/
def name : Switch → String
  | help => "help"
  | version => "version"

/-- The option's letter after one dash. -/
def letter : Switch → Char
  | help => 'h'
  | version => 'V'

end Switch

/-- What the program is to do. -/
inductive Request where
  /-- Show what the option stands for. -/
  | inform (s : Switch)
  /-- Write the filter to a path. -/
  | write (output : String)
deriving DecidableEq, Repr

/-- Advice beside an argument that is not understood. -/
inductive Tip where
  /-- There is an option of nearly that name. -/
  | similar (s : Switch)
  /-- The argument may stand after two dashes. -/
  | afterDashes
deriving DecidableEq, Repr

/-- Why the arguments ask for nothing. -/
inductive UsageError where
  /-- There is no output. -/
  | missingOutput
  /-- The output is an empty text. -/
  | emptyOutput
  /-- An argument has no place. -/
  | unexpectedArgument (arg : String) (tip : Option Tip)
  /-- An option has a value. -/
  | unexpectedValue (s : Switch) (value : String)
deriving DecidableEq, Repr

/-! ## Texts -/

/-- The line that shows how the program is called, perhaps with an option. -/
def usage (s : Option Switch) : String :=
  match s with
  | none => "Usage: tiocsti-filter <OUTPUT>\n"
  | some s => s!"Usage: tiocsti-filter --{s.name} <OUTPUT>\n"

/-- The line that ends every usage error. -/
def moreHelp : String := "For more information, try '--help'.\n"

/-- The text shown for a usage error; what is quoted from the arguments is made plain. -/
def UsageError.message : UsageError → String
  | missingOutput =>
    s!"error: the following required arguments were not provided:\n  <OUTPUT>\n\n{usage none}\n{moreHelp}"
  | emptyOutput =>
    s!"error: a value is required for '<OUTPUT>' but none was supplied\n\n{moreHelp}"
  | unexpectedArgument arg tip =>
    let arg := plainText arg
    let (tipText, shown) := match tip with
      | none => ("", none)
      | some (.similar s) => (s!"  tip: a similar argument exists: '--{s.name}'\n\n", some s)
      | some .afterDashes => (s!"  tip: to pass '{arg}' as a value, use '-- {arg}'\n\n", none)
    s!"error: unexpected argument '{arg}' found\n\n{tipText}{usage shown}\n{moreHelp}"
  | unexpectedValue s value =>
    s!"error: unexpected value '{plainText value}' for '--{s.name}' found; no more were expected\n\n{usage (some s)}\n{moreHelp}"

/-- What the program says about itself. -/
def helpText : String :=
  "Generates a seccomp BPF filter that blocks the TIOCSTI and TIOCLINUX ioctls.\n\n" ++
  usage none ++
  "\nArguments:\n" ++
  "  <OUTPUT>  File path the raw BPF program is written to.\n\n" ++
  "Options:\n" ++
  "  -h, --help     Print help\n" ++
  "  -V, --version  Print version\n\n" ++
  "The output file can be used with bubblewrap's --seccomp option:\n" ++
  "  tiocsti-filter /tmp/filter.bpf\n" ++
  "  bwrap --seccomp 3 3</tmp/filter.bpf --ro-bind / / /bin/sh\n"

/-- The program's name and version. -/
def versionText : String := "tiocsti-filter v0.1.0\n"

/-- The text that an option asks for. -/
def Switch.text : Switch → String
  | help => helpText
  | version => versionText

/-! ## Reading -/

/-- The form of an argument. -/
inductive Form where
  /-- Two dashes alone. -/
  | dashes
  /-- Two dashes, a name, and perhaps a value after an equals sign. -/
  | long (name : String) (value : Option String)
  /-- One dash and a letter, perhaps followed by more of them. -/
  | short (letter : Char)
  /-- Anything else, a lone dash among it. -/
  | plain
deriving DecidableEq, Repr

/-- The form that an argument has. -/
def Form.ofArgument (arg : String) : Form :=
  match arg.toList with
  | ['-', '-'] => dashes
  | '-' :: '-' :: cs =>
    let name := cs.takeWhile (· ≠ '=')
    long (.ofList name) ((cs.drop name.length).tail?.map .ofList)
  | '-' :: c :: _ => short c
  | _ => plain

/-- The option whose name is most like a word, if one is like it at all. -/
def similarSwitch? (word : String) : Option Switch :=
  let likeness (s : Switch) : Float := similarity word s.name
  let alike := Switch.all.filter fun s => 0.7 < likeness s
  alike.foldl (fun best s => if best.any fun b => likeness s < likeness b then best else some s) none

/-- What stands in front of an option has to be a possible output. -/
def acting (output : Option String) (s : Switch) : Except UsageError Request :=
  if output = some "" then .error .emptyOutput else .ok (.inform s)

/-- Reads arguments after an output that was met, if any; `dashed` says that two dashes were. -/
def readFrom (output : Option String) (dashed : Bool) : List String → Except UsageError Request
  | [] =>
    match output with
    | none => .error .missingOutput
    | some "" => .error .emptyOutput
    | some text => .ok (.write text)
  | arg :: args =>
    match if dashed then Form.plain else Form.ofArgument arg with
    | .dashes => readFrom output true args
    | .long name value =>
      match Switch.all.find? (·.name = name), value with
      | some s, none => acting output s
      | some s, some value => .error (.unexpectedValue s value)
      | none, _ =>
        .error (.unexpectedArgument s!"--{name}"
          (some ((similarSwitch? name).elim .afterDashes .similar)))
    | .short letter =>
      match Switch.all.find? (·.letter = letter) with
      | some s => acting output s
      | none => .error (.unexpectedArgument s!"-{letter}" (some .afterDashes))
    | .plain =>
      if output.isSome then .error (.unexpectedArgument arg none)
      else readFrom (some arg) dashed args

/-- Reads the arguments of a call. -/
def read (args : List String) : Except UsageError Request := readFrom none false args

end TtyGuard.CommandLine
