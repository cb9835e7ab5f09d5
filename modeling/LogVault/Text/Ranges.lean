/-!
# LogVault.Text.Ranges — sets of code points

A property of characters is a table: a list of ranges of code points with both ends. Where every
second code point has the property, as in alphabets that list each capital before its small letter,
one entry with a step stands for all of them.
-/

namespace LogVault.Text

/-- A code point that lies in one of the ranges. -/
def inRanges (ranges : List (Nat × Nat)) (n : Nat) : Bool :=
  ranges.any fun r => r.1 ≤ n && n ≤ r.2

/-- A code point that one of the ranges reaches from its start by its step. -/
def inSteppedRanges (ranges : List (Nat × Nat × Nat)) (n : Nat) : Bool :=
  ranges.any fun r => r.1 ≤ n && n ≤ r.2.1 && (n - r.1) % r.2.2 == 0

/-- What the ranges say of a code point. -/
def classIn {α : Type} (ranges : List (Nat × Nat × α)) (n : Nat) : Option α :=
  (ranges.find? fun r => r.1 ≤ n && n ≤ r.2.1).map fun r => r.2.2

end LogVault.Text
