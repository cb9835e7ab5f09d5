import LogVault.Text.Decimal
import LogVault.Text.Hex

/-!
# LogVault.Url.Ipv4 — hosts that are numbers

A host whose last label is a number is an IPv4 address, written as one to four numbers in decimal,
octal (with a leading `0`) or hexadecimal (with a leading `0x`). The last number fills all octets
that are left. Every address has one dotted form with four decimal numbers.
-/

namespace LogVault.Url

/-- An IPv4 address as a number below `2^32`. -/
structure Ipv4 where
  value : Nat
  deriving Repr, DecidableEq

namespace Ipv4

/-- The number of a sequence of hexadecimal digits. -/
def hexValue? (l : List Char) : Option Nat :=
  l.foldl (fun acc c => do return 16 * (← acc) + (← Hex.value? c)) (some 0)

/-- The number that a label spells. -/
def labelValue? (label : List Char) : Option Nat :=
  match label with
  | [] => none
  | '0' :: 'x' :: rest => hexValue? rest
  | '0' :: 'X' :: rest => hexValue? rest
  | '0' :: c :: rest =>
    if (c :: rest).all fun d => '0' ≤ d && d ≤ '7' then some (Nat.ofDigitChars 8 (c :: rest) 0)
    else none
  | _ => if label.all Char.isDigit then some (Decimal.value label) else none

/-- The labels of a host; an empty one at the end is dropped. -/
def labels (host : List Char) : List (List Char) :=
  let ls := host.splitOn '.'
  if ls.getLast? = some [] then ls.dropLast else ls

/-- The host ends in a number, so it has to be an address. -/
def endsInNumber (host : List Char) : Bool :=
  match (labels host).getLast? with
  | none => false
  | some label => !label.isEmpty && (label.all Char.isDigit || (labelValue? label).isSome)

/-- The address of numbers of which the last one fills what is left. -/
def ofNumbers? (numbers : List Nat) : Option Ipv4 :=
  match numbers.getLast? with
  | none => none
  | some last =>
    let front := numbers.dropLast
    if 3 < front.length || front.any (255 < ·) || Nat.pow 256 (4 - front.length) ≤ last then none
    else some ⟨front.foldl (256 * · + ·) 0 * Nat.pow 256 (4 - front.length) + last⟩

/-- **The address** that a host spells. -/
def ofHost? (host : List Char) : Option Ipv4 := do ofNumbers? (← (labels host).mapM labelValue?)

/-- The dotted form. -/
def write (a : Ipv4) : List Char :=
  Decimal.ofNat ((a.value >>> 24) % 256) ++ '.' :: Decimal.ofNat ((a.value >>> 16) % 256) ++
    '.' :: Decimal.ofNat ((a.value >>> 8) % 256) ++ '.' :: Decimal.ofNat (a.value % 256)

end Ipv4

end LogVault.Url
