/-
# TtyGuard.CharSet.Basic — sets of characters as ranges

A set lists closed ranges of code points, ascending and apart, so that equal sets are listed alike.
Sets are put together by `insertRange` and `gaps`, which keep this form.
-/

namespace TtyGuard

/-- A set of characters: closed ranges of code points, ascending and apart. -/
structure CharSet where
  ranges : List (Nat × Nat)
deriving DecidableEq, Repr

namespace CharSet

/-! ## Ranges -/

/-- Whether a code point lies in one of the ranges. -/
def covers (ranges : List (Nat × Nat)) (n : Nat) : Bool :=
  ranges.any fun (first, last) => first ≤ n && n ≤ last

/-- Adds a range and joins it with those that it meets. -/
def insertRange (first last : Nat) : List (Nat × Nat) → List (Nat × Nat)
  | [] => [(first, last)]
  | (a, b) :: rest =>
    if last + 1 < a then (first, last) :: (a, b) :: rest
    else if b + 1 < first then (a, b) :: insertRange first last rest
    else insertRange (min first a) (max last b) rest

/-- The code points from `next` on that lie between the ranges. -/
def gaps (next limit : Nat) : List (Nat × Nat) → List (Nat × Nat)
  | [] => if next ≤ limit then [(next, limit)] else []
  | (a, b) :: rest =>
    if next < a then (next, a - 1) :: gaps (b + 1) limit rest else gaps (b + 1) limit rest

/-! ## Sets -/

/-- The largest code point. -/
def maxCodePoint : Nat := 0x10ffff

/-- The set without characters. -/
def empty : CharSet := ⟨[]⟩

/-- The characters between two, these included. -/
def ofRange (first last : Char) : CharSet := ⟨[(first.toNat, last.toNat)]⟩

/-- The set of one character. -/
def singleton (c : Char) : CharSet := ofRange c c

/-- Whether a character is in the set. -/
def contains (s : CharSet) (c : Char) : Bool := covers s.ranges c.toNat

/-- The characters of either set. -/
def union (s t : CharSet) : CharSet :=
  ⟨t.ranges.foldl (fun ranges (first, last) => insertRange first last ranges) s.ranges⟩

/-- The characters that are not in the set. -/
def complement (s : CharSet) : CharSet := ⟨gaps 0 maxCodePoint s.ranges⟩

/-- The characters of both sets. -/
def inter (s t : CharSet) : CharSet := (s.complement.union t.complement).complement

/-- The characters of the first set that are not in the second. -/
def diff (s t : CharSet) : CharSet := s.inter t.complement

/-- The characters of exactly one of the sets. -/
def symmDiff (s t : CharSet) : CharSet := (s.union t).diff (s.inter t)

/-- Whether there is no character in the set. -/
def isEmpty (s : CharSet) : Bool := s.ranges.isEmpty

/-- Whether the set has characters of ASCII only. -/
def isAscii (s : CharSet) : Bool := s.ranges.all fun (_, last) => last < 0x80

/-- The only character of the set, if there is one only. -/
def only? (s : CharSet) : Option Char :=
  match s.ranges with
  | [(first, last)] => if first = last then some (Char.ofNat first) else none
  | _ => none

/-- The set with the ASCII letters of the other case. -/
def withBothCases (s : CharSet) : CharSet :=
  let shifted (letters : CharSet) (shift : Nat → Nat) : CharSet :=
    ⟨(s.inter letters).ranges.map fun (first, last) => (shift first, shift last)⟩
  (s.union (shifted (ofRange 'a' 'z') (· - 0x20))).union (shifted (ofRange 'A' 'Z') (· + 0x20))

/-! ## White space and the sets of ASCII that have a name -/

/-- White space, in any script. -/
def blank : CharSet :=
  ⟨[(0x09, 0x0d), (0x20, 0x20), (0x85, 0x85), (0xa0, 0xa0), (0x1680, 0x1680), (0x2000, 0x200a),
    (0x2028, 0x2029), (0x202f, 0x202f), (0x205f, 0x205f), (0x3000, 0x3000)]⟩

/-- The digits of ASCII. -/
def digit : CharSet := ofRange '0' '9'

/-- The letters of ASCII. -/
def alpha : CharSet := (ofRange 'A' 'Z').union (ofRange 'a' 'z')

/-- The letters and digits of ASCII. -/
def alnum : CharSet := alpha.union digit

/-- What a word may consist of. -/
def word : CharSet := alnum.union (singleton '_')

/-- The white space of ASCII. -/
def space : CharSet := (ofRange '\t' '\x0d').union (singleton ' ')

/-- The sets of ASCII that have a name. -/
def named : List (String × CharSet) :=
  [("alnum", alnum), ("alpha", alpha), ("ascii", ofRange '\x00' '\x7f'),
    ("blank", (singleton '\t').union (singleton ' ')),
    ("cntrl", (ofRange '\x00' '\x1f').union (singleton '\x7f')), ("digit", digit),
    ("graph", ofRange '!' '~'), ("lower", ofRange 'a' 'z'), ("print", ofRange ' ' '~'),
    ("punct", (ofRange '!' '~').diff alnum), ("space", space), ("upper", ofRange 'A' 'Z'),
    ("word", word), ("xdigit", digit.union ((ofRange 'A' 'F').union (ofRange 'a' 'f')))]

end CharSet

/-! ## White space -/

/-- Whether a character is white space. -/
def isBlank (c : Char) : Bool := CharSet.blank.contains c

/-- A text without the white space around it. -/
def trimmed (text : String) : String :=
  .ofList ((text.toList.dropWhile isBlank).reverse.dropWhile isBlank).reverse

end TtyGuard
