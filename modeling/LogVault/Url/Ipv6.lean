import LogVault.Url.Ipv4

/-!
# LogVault.Url.Ipv6 — hosts in brackets

An IPv6 address is eight numbers of sixteen bits in hexadecimal, with colons between them. A double
colon stands for one or more zeros, once, and the last two numbers may be written as an IPv4 address.
Writing shortens the first of the longest runs of two or more zeros.
-/

namespace LogVault.Url

/-- An IPv6 address as its eight numbers. -/
structure Ipv6 where
  pieces : List Nat
  deriving Repr, DecidableEq

namespace Ipv6

/-- The number of one to four hexadecimal digits. -/
def piece? (l : List Char) : Option Nat :=
  if l.isEmpty || 4 < l.length then none else Ipv4.hexValue? l

/-- A decimal number of one octet without needless zeros. -/
def octet? (l : List Char) : Option Nat :=
  match l with
  | [] => none
  | '0' :: _ :: _ => none
  | _ => if l.all Char.isDigit && Decimal.value l ≤ 255 then some (Decimal.value l) else none

/-- The two numbers of four octets with points between them. -/
def dotted? (l : List Char) : Option (List Nat) :=
  match (l.splitOn '.').mapM octet? with
  | some [a, b, c, d] => some [256 * a + b, 256 * c + d]
  | _ => none

/-- The numbers of groups, of which the last may be dotted. -/
def groups? : List (List Char) → Option (List Nat)
  | [] => some []
  | [g] => if g.contains '.' then dotted? g else (piece? g).map ([·])
  | g :: gs => do return (← piece? g) :: (← groups? gs)

/-- The text before the first double colon and the text after it. -/
def cut : List Char → Option (List Char × List Char)
  | ':' :: ':' :: rest => some ([], rest)
  | c :: rest => (cut rest).map fun p => (c :: p.1, p.2)
  | [] => none

/-- The groups of a text between colons; none if it is empty. -/
def colonGroups (l : List Char) : List (List Char) := if l.isEmpty then [] else l.splitOn ':'

/-- **The address** that a text spells. -/
def ofText? (l : List Char) : Option Ipv6 :=
  match cut l with
  | none =>
    match groups? (colonGroups l) with
    | some pieces => if pieces.length = 8 then some ⟨pieces⟩ else none
    | none => none
  | some (before, after) =>
    match (colonGroups before).mapM piece?, groups? (colonGroups after) with
    | some front, some back =>
      if front.length + back.length < 8 then
        some ⟨front ++ List.replicate (8 - front.length - back.length) 0 ++ back⟩
      else none
    | _, _ => none

/-! ## Writing -/

/-- How many zeros stand at the front. -/
def zeros (pieces : List Nat) : Nat := (pieces.takeWhile (· = 0)).length

/-- The place and the length of the first of the longest runs of zeros, the earlier one `best`. -/
def longestRun (best : Nat × Nat) (place : Nat) : List Nat → Nat × Nat
  | [] => best
  | p :: rest =>
    let here := zeros (p :: rest)
    longestRun (if best.2 < here then (place, here) else best) (place + 1) rest

/-- Numbers in hexadecimal with colons between them. -/
def joined (pieces : List Nat) : List Char := [':'].intercalate (pieces.map (Nat.toDigits 16))

/-- The shortened form. -/
def write (a : Ipv6) : List Char :=
  let run := longestRun (0, 0) 0 a.pieces
  if run.2 < 2 then joined a.pieces
  else joined (a.pieces.take run.1) ++ ':' :: ':' :: joined (a.pieces.drop (run.1 + run.2))

end Ipv6

end LogVault.Url
