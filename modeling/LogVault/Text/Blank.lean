/-!
# LogVault.Text.Blank — white space around a value

The class is Unicode's `White_Space`, so it holds more than the ASCII blanks: the next-line control,
the no-break space, the line and paragraph separators and the typographic spaces.
-/

namespace LogVault.Text

/-- A character with the property `White_Space`. -/
def isBlank (c : Char) : Bool :=
  let n := c.toNat
  (0x09 ≤ n && n ≤ 0x0D) || n == 0x20 || n == 0x85 || n == 0xA0 || n == 0x1680 ||
    (0x2000 ≤ n && n ≤ 0x200A) || n == 0x2028 || n == 0x2029 || n == 0x202F || n == 0x205F ||
    n == 0x3000

/-- A list without the members of a class at its end. -/
def dropTrailing {α : Type} (p : α → Bool) (l : List α) : List α := (l.reverse.dropWhile p).reverse

/-- A list of characters without the blanks at its two ends. -/
def trimmed (l : List Char) : List Char := dropTrailing isBlank (l.dropWhile isBlank)

end LogVault.Text
