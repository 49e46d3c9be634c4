/-
# TtyGuard.CommandLine.Similarity — how alike two words are

The Jaro similarity counts the characters that two words share at about the same place and how many
of them are out of order.  It lies between zero and one and is the mean of three quotients, each of
them rounded to double precision, and so are their sum and the mean itself.
-/

namespace TtyGuard.CommandLine

/-- The places in `b` that the characters of `a` are matched with, in the order of `a`.  A character
takes the first free place of its own kind that is less than `reach` further left or right. -/
def matchedPlaces (a b : List Char) (reach : Nat) : List (Char × Nat) :=
  a.zipIdx.foldl (fun taken (c, i) =>
    let place := b.zipIdx.find? fun (c', j) =>
      c' = c && i < j + reach && j < i + reach && !taken.any (·.2 = j)
    match place with
    | some (_, j) => taken ++ [(c, j)]
    | none => taken) []

/-- The Jaro similarity of two words. -/
def similarity (a b : String) : Float :=
  let a := a.toList
  let b := b.toList
  let places := matchedPlaces a b (max 1 (max a.length b.length / 2))
  let count := places.length
  if count = 0 then if a.isEmpty && b.isEmpty then 1 else 0
  else
    let inOrder := (b.zipIdx.filter fun (_, j) => places.any (·.2 = j)).map (·.1)
    let differing := ((places.map (·.1)).zip inOrder).countP fun (c, c') => c ≠ c'
    let kept := count - differing / 2
    (count.toFloat / a.length.toFloat + count.toFloat / b.length.toFloat +
      kept.toFloat / count.toFloat) / 3

end TtyGuard.CommandLine
