/-!
# Sets of characters as ranges

A property of characters is given by the code points that have it, as closed ranges in increasing
order. The tables beside this module list only what lies outside ASCII; the ASCII part of each
property is a test on the character.
-/

namespace SchemaCodegen.Text

/-- Closed ranges of code points. -/
abbrev Ranges := List (Nat × Nat)

/-- Whether some range holds the character. -/
def Ranges.contains (ranges : Ranges) (c : Char) : Bool :=
  ranges.any fun (first, last) => first ≤ c.toNat && c.toNat ≤ last

theorem Ranges.contains_iff {ranges : Ranges} {c : Char} :
    ranges.contains c = true ↔ ∃ r ∈ ranges, r.1 ≤ c.toNat ∧ c.toNat ≤ r.2 := by
  simp [Ranges.contains]

end SchemaCodegen.Text
