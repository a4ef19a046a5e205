/-!
# Similar names

How alike two texts are, for proposing what a mistyped name was meant to be. The measure is the
share of characters in matching blocks: the longest common block, then, on either side of it, the
longest common blocks of what is left.
-/

namespace SchemaCodegen.Similarity

/-- The length of the longest common beginning of two texts. -/
def commonStart : List Char → List Char → Nat
  | a :: as, b :: bs => if a = b then commonStart as bs + 1 else 0
  | _, _ => 0

/-- A block of equal characters: where it begins in each text, and its length. -/
structure Block where
  first : Nat
  second : Nat
  size : Nat
  deriving DecidableEq, Repr

/-- The longest block, of several the one that begins first in the first text, then in the
second. -/
def longest (as bs : List Char) : Block :=
  (List.range as.length).foldl
    (fun best i =>
      (List.range bs.length).foldl
        (fun best j =>
          let size := commonStart (as.drop i) (bs.drop j)
          if best.size < size then ⟨i, j, size⟩ else best)
        best)
    ⟨0, 0, 0⟩

/-- The number of characters in matching blocks, looking `depth` times to either side. -/
def matched : Nat → List Char → List Char → Nat
  | 0, _, _ => 0
  | depth + 1, as, bs =>
    let block := longest as bs
    if block.size = 0 then 0
    else
      block.size + matched depth (as.take block.first) (bs.take block.second) +
        matched depth (as.drop (block.first + block.size)) (bs.drop (block.second + block.size))

/-- Matching characters of two texts; each block takes at least one character of the first. -/
def matching (as bs : List Char) : Nat := matched (as.length + 1) as bs

/-- Whether the share of matching characters is at least six tenths. -/
def isClose (a b : String) : Bool :=
  let total := a.length + b.length
  total == 0 || 3 * total ≤ 10 * matching a.toList b.toList

/-- At most `count` of the candidates that are close to the text, the closest first; of equally
close ones the greater in the order of texts. -/
def closest (count : Nat) (text : String) (candidates : List String) : List String :=
  let share (candidate : String) : Nat × Nat :=
    (2 * matching candidate.toList text.toList, candidate.length + text.length)
  let before (a b : String) : Bool :=
    let (p, q) := share a
    let (r, s) := share b
    r * q < p * s || (r * q == p * s && b ≤ a)
  ((candidates.filter fun candidate => isClose candidate text).mergeSort before).take count

end SchemaCodegen.Similarity
