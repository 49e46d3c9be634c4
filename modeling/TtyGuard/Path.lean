/-
# TtyGuard.Path — the text of a path, and how it is read

A path is text divided by slashes.  It is read in two ways that differ in their treatment of links:
lexically, for the name of a file and the directory part before it, and step by step, the way the
kernel walks it.  Main statement: `text_ofText`, which says that dividing a text loses nothing.

Names are texts, so that a name whose bytes are not UTF-8 is not covered.
-/

namespace TtyGuard

/-! ## Text and segments -/

/-- A path as its segments, the parts between slashes.  There is always a first one, which is empty
if the text begins with a slash; the others are empty where slashes meet. -/
structure Path where
  first : String
  rest : List String
deriving DecidableEq, Repr

namespace Path

/-- All segments in order. -/
def segments (p : Path) : List String := p.first :: p.rest

/-- The path that a text denotes. -/
def ofText (text : String) : Path :=
  match text.toList.splitOn '/' with
  | [] => ⟨"", []⟩
  | first :: rest => ⟨.ofList first, rest.map .ofList⟩

/-- The text of a path. -/
def text (p : Path) : String := "/".intercalate p.segments

/-- Whether the path begins at the root. -/
def isAbsolute (p : Path) : Bool := p.first.isEmpty && !p.rest.isEmpty

/-- Whether the text of the path is empty. -/
def isEmpty (p : Path) : Bool := p.first.isEmpty && p.rest.isEmpty

/-- Whether the text holds the character NUL, which would end it for the kernel. -/
def hasNul (p : Path) : Bool := p.segments.any (·.toList.contains '\x00')

/-- Bytes in the path's text. -/
def byteLength (p : Path) : Nat := p.text.utf8ByteSize

/-! ## Lexical parts -/

/-- Segments without the empty ones and the dots at their end. -/
def withoutTail (segments : List String) : List String :=
  (segments.reverse.dropWhile fun s => s.isEmpty || s = ".").reverse

/-- The last segment that counts, unless it leads upwards. -/
def fileName? (p : Path) : Option String :=
  (withoutTail p.segments).getLast?.filter (· ≠ "..")

/-- The path in front of the last segment that counts: the root or the working directory if there is
nothing else. -/
def parent (p : Path) : Path :=
  match withoutTail (withoutTail p.segments).dropLast with
  | [] => if p.isAbsolute then ⟨"", [""]⟩ else ⟨".", []⟩
  | first :: rest => ⟨first, rest⟩

/-- The relative path `p` as seen from `dir`; no slash is doubled. -/
def under (dir p : Path) : Path :=
  match dir.segments.reverse with
  | "" :: before =>
    match before.reverse ++ p.segments with
    | first :: rest => ⟨first, rest⟩
    | [] => p
  | _ => ⟨dir.first, dir.rest ++ p.segments⟩

/-! ## Steps -/

/-- What the kernel does for one part of a path. -/
inductive Step where
  /-- Stay, which is possible only in a directory. -/
  | here
  /-- Go to the directory above. -/
  | up
  /-- Go to the entry of this name. -/
  | down (name : String)
  /-- Slashes at the end, which ask for a directory. -/
  | slash
deriving DecidableEq, Repr

/-- The step that a segment stands for. -/
def Step.ofSegment (segment : String) : Step :=
  if segment = "." then .here else if segment = ".." then .up else .down segment

/-- The steps of a path from where it begins. -/
def steps (p : Path) : List Step :=
  let named := p.segments.filter (!·.isEmpty)
  let ending := p.segments.getLast?.any String.isEmpty && !named.isEmpty
  named.map Step.ofSegment ++ if ending then [.slash] else []

/-! ## Dividing a text loses nothing -/

@[simp] theorem text_ofText (text : String) : (ofText text).text = text := by
  have hjoin : ['/'].intercalate (text.toList.splitOn '/') = text.toList :=
    List.intercalate_splitOn '/'
  apply String.toList_inj.mp
  unfold ofText
  split
  · next h => exact absurd h (List.splitOn_ne_nil _ _)
  · next first rest h =>
    rw [h] at hjoin
    simpa [Path.text, segments, String.toList_intercalate] using hjoin

end Path

end TtyGuard
