import LogVault.Json.Value
import LogVault.Number.Shortest
import LogVault.Text.Hex

/-!
# LogVault.Json.Printer — documents as text

Two layouts: `compact`, without any blank, is what gets signed; `pretty`, with one member or item a
line and two spaces a level, is what gets answered. Both escape in a text only what must be escaped:
the quote, the backslash and the control characters below the space.
-/

namespace LogVault.Json

open LogVault (Decimal.ofInt)

/-! ## Leaves -/

/-- How a character stands in a text. -/
def escapeChar (c : Char) : List Char :=
  if c = '"' then ['\\', '"']
  else if c = '\\' then ['\\', '\\']
  else if c = '\x08' then ['\\', 'b']
  else if c = '\x0c' then ['\\', 'f']
  else if c = '\n' then ['\\', 'n']
  else if c = '\r' then ['\\', 'r']
  else if c = '\t' then ['\\', 't']
  else if c.toNat < 0x20 then
    ['\\', 'u', '0', '0', Hex.digit (c.toNat / 16), Hex.digit (c.toNat % 16)]
  else [c]

/-- A text between quotes. -/
def writeText (s : String) : List Char := '"' :: (s.toList.flatMap escapeChar ++ ['"'])

/-- Doubles are positional from `10^-5` up to below `10^16`. -/
def realLayout : Number.Layout := ⟨-5, 15⟩

/-- A real number; what is not finite has no JSON form and becomes `null`. -/
def writeReal (x : Float) : List Char :=
  if x.isFinite then realLayout.writeDouble x else ['n', 'u', 'l', 'l']

/-- The four words and numbers, which look the same in both layouts. -/
def Value.leaf : Value → List Char
  | .null => ['n', 'u', 'l', 'l']
  | .bool true => ['t', 'r', 'u', 'e']
  | .bool false => ['f', 'a', 'l', 's', 'e']
  | .whole i => LogVault.Decimal.ofInt i
  | .real x => writeReal x
  | .text s => writeText s
  | .array _ => ['[', ']']
  | .object _ => ['\x7b', '\x7d']

/-! ## Without blanks -/

mutual

/-- **The document without blanks.** -/
def Value.compact : Value → List Char
  | .array (v :: vs) => '[' :: (v.compact ++ compactItems vs ++ [']'])
  | .object ((name, v) :: ms) =>
    '\x7b' :: (writeText name ++ ':' :: v.compact ++ compactMembers ms ++ ['\x7d'])
  | v => v.leaf

/-- The items after the first one. -/
def compactItems : List Value → List Char
  | [] => []
  | v :: vs => ',' :: (v.compact ++ compactItems vs)

/-- The members after the first one. -/
def compactMembers : List (String × Value) → List Char
  | [] => []
  | (name, v) :: ms => ',' :: (writeText name ++ ':' :: v.compact ++ compactMembers ms)

end

/-! ## One item a line -/

/-- The start of a line at a level. -/
def line (depth : Nat) : List Char := '\n' :: List.replicate (2 * depth) ' '

mutual

/-- The document inside `depth` others. -/
def Value.prettyAt (depth : Nat) : Value → List Char
  | .array (v :: vs) =>
    '[' :: (line (depth + 1) ++ v.prettyAt (depth + 1) ++ prettyItems (depth + 1) vs ++
      line depth ++ [']'])
  | .object ((name, v) :: ms) =>
    '\x7b' :: (line (depth + 1) ++ writeText name ++ ':' :: ' ' :: v.prettyAt (depth + 1) ++
      prettyMembers (depth + 1) ms ++ line depth ++ ['\x7d'])
  | v => v.leaf

/-- The items after the first one. -/
def prettyItems (depth : Nat) : List Value → List Char
  | [] => []
  | v :: vs => ',' :: (line depth ++ v.prettyAt depth ++ prettyItems depth vs)

/-- The members after the first one. -/
def prettyMembers (depth : Nat) : List (String × Value) → List Char
  | [] => []
  | (name, v) :: ms =>
    ',' :: (line depth ++ writeText name ++ ':' :: ' ' :: v.prettyAt depth ++
      prettyMembers depth ms)

end

/-- **The document with one item or member a line.** -/
def Value.pretty (v : Value) : List Char := v.prettyAt 0

end LogVault.Json
