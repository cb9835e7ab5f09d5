import LogVault.Json.Value
import LogVault.Text.Decimal
import LogVault.Text.Hex

/-!
# LogVault.Json.Reader — text as a document

The reader accepts the JSON grammar and nothing else. A number without fraction and exponent that
fits 64 bits stays whole; every other number becomes a double: its leading digits are taken as one
whole number, as many as fit 64 bits, and that number is scaled once by a power of ten.

Nesting is bounded by the length of the text (`parse`), so the reader is total.
-/

namespace LogVault.Json

/-- The rest of a text after the blanks in front. -/
def skipBlanks (l : List Char) : List Char :=
  l.dropWhile fun c => c = ' ' || c = '\n' || c = '\t' || c = '\r'

/-! ## Texts -/

/-- A piece of a text: a character, or the UTF-16 unit of a numeric escape. -/
inductive Piece where
  | char (c : Char)
  | unit (n : Nat)
  deriving Repr, DecidableEq

/-- The character of an escape with one letter. -/
def letterEscape? (c : Char) : Option Char :=
  if c = '"' ∨ c = '\\' ∨ c = '/' then some c
  else if c = 'b' then some '\x08'
  else if c = 'f' then some '\x0c'
  else if c = 'n' then some '\n'
  else if c = 'r' then some '\r'
  else if c = 't' then some '\t'
  else none

/-- The value of four hexadecimal digits. -/
def unit? (a b c d : Char) : Option Nat := do
  let a ← Hex.value? a
  let b ← Hex.value? b
  let c ← Hex.value? c
  let d ← Hex.value? d
  return ((a * 16 + b) * 16 + c) * 16 + d

/-- The pieces up to the closing quote, and what follows it. -/
def readPieces : List Char → Option (List Piece × List Char)
  | [] => none
  | '"' :: rest => some ([], rest)
  | '\\' :: 'u' :: a :: b :: c :: d :: rest => do
    let n ← unit? a b c d
    let (ps, rest) ← readPieces rest
    return (.unit n :: ps, rest)
  | '\\' :: e :: rest => do
    let c ← letterEscape? e
    let (ps, rest) ← readPieces rest
    return (.char c :: ps, rest)
  | c :: rest => do
    if c.toNat < 0x20 ∨ c = '\\' then none
    let (ps, rest) ← readPieces rest
    return (.char c :: ps, rest)

/-- A unit that is the first of a pair. -/
def isLead (n : Nat) : Bool := 0xD800 ≤ n && n < 0xDC00

/-- A unit that is the second of a pair. -/
def isTrail (n : Nat) : Bool := 0xDC00 ≤ n && n < 0xE000

/-- The characters of a sequence of pieces. Two units can make one character; half a pair is no
character. -/
def joinPieces : List Piece → Option (List Char)
  | [] => some []
  | .char c :: rest => (joinPieces rest).map (c :: ·)
  | .unit n :: .unit m :: rest =>
    if isLead n then
      if isTrail m then
        (joinPieces rest).map (Char.ofNat (0x10000 + (n - 0xD800) * 0x400 + (m - 0xDC00)) :: ·)
      else none
    else if isTrail n then none
    else (joinPieces (.unit m :: rest)).map (Char.ofNat n :: ·)
  | .unit n :: rest =>
    if isLead n || isTrail n then none else (joinPieces rest).map (Char.ofNat n :: ·)

/-- A text after its opening quote. -/
def readText (l : List Char) : Option (String × List Char) := do
  let (pieces, rest) ← readPieces l
  let cs ← joinPieces pieces
  return (String.ofList cs, rest)

/-! ## Numbers -/

/-- The largest whole number that the digits of a number are collected in. -/
def mostDigits : Nat := 0xFFFFFFFFFFFFFFFF

/-- Digits collected into a whole number until one more would exceed `mostDigits`; the digits that
were not taken follow. -/
def collect (n : Nat) : List Char → Nat × List Char
  | [] => (n, [])
  | c :: rest =>
    let next := 10 * n + (c.toNat - 48)
    if mostDigits < next then (n, c :: rest) else collect next rest

/-- `significand · 10^exponent`, scaled in steps that a double can hold. -/
def scale (x : Float) (exponent : Int) : Nat → Option Float
  | 0 => some 0
  | steps + 1 =>
    if exponent.natAbs ≤ 308 then
      let power := Float.ofScientific 1 false exponent.natAbs
      if 0 ≤ exponent then
        let y := x * power
        if y.isFinite then some y else none
      else some (x / power)
    else if x == 0 then some x
    else if 0 ≤ exponent then none
    else scale (x / Float.ofScientific 1 false 308) (exponent + 308) steps

/-- The value of the digits before and after the point with an exponent. A digit before the point
that was not taken counts as a power of ten, and so does, downwards, each one taken after it. -/
def realOf (whole fraction : List Char) (exponent : Int) : Option Float :=
  let (n, untaken) := collect 0 whole
  let (m, left) := collect n fraction
  scale (Float.ofNat m) (untaken.length - (fraction.length - left.length : Nat) + exponent) 16

/-- The exponent of a number: its sign and digits, if there is one. -/
def readExponent (l : List Char) : Option (Option (Bool × List Char) × List Char) :=
  match l with
  | e :: rest =>
    if e = 'e' ∨ e = 'E' then
      let (negative, rest) := match rest with
        | '+' :: r => (false, r)
        | '-' :: r => (true, r)
        | r => (false, r)
      let digits := rest.takeWhile Char.isDigit
      if digits.isEmpty then none else some (some (negative, digits), rest.dropWhile Char.isDigit)
    else some (none, l)
  | [] => some (none, [])

/-- The fraction of a number: its digits, if there is one. -/
def readFraction (l : List Char) : Option (Option (List Char) × List Char) :=
  match l with
  | '.' :: rest =>
    let digits := rest.takeWhile Char.isDigit
    if digits.isEmpty then none else some (some digits, rest.dropWhile Char.isDigit)
  | _ => some (none, l)

/-- Digits without needless zeros in front. -/
def isWhole (digits : List Char) : Bool :=
  match digits with
  | [] => false
  | '0' :: _ :: _ => false
  | _ => true

/-- The document of a number with the given parts. -/
def numberOf (negative : Bool) (whole : List Char) (fraction : Option (List Char))
    (exponent : Option (Bool × List Char)) : Option Value :=
  let n := LogVault.Decimal.value whole
  let signed (x : Float) : Value := .real (if negative then -x else x)
  match fraction, exponent with
  | none, none =>
    if negative then
      if n = 0 ∨ 0x8000000000000000 < n then (realOf whole [] 0).map signed else some (.whole (-n))
    else if n ≤ mostDigits then some (.whole n)
    else (realOf whole [] 0).map signed
  | _, none => (realOf whole (fraction.getD []) 0).map signed
  | _, some (down, digits) =>
    let e := LogVault.Decimal.value digits
    (realOf whole (fraction.getD []) (if down then -(e : Int) else e)).map signed

/-- A number. -/
def readNumber (l : List Char) : Option (Value × List Char) := do
  let (negative, l) := match l with
    | '-' :: r => (true, r)
    | r => (false, r)
  let whole := l.takeWhile Char.isDigit
  guard (isWhole whole)
  let (fraction, rest) ← readFraction (l.dropWhile Char.isDigit)
  let (exponent, rest) ← readExponent rest
  let v ← numberOf negative whole fraction exponent
  return (v, rest)

/-! ## Documents -/

mutual

/-- A document at the front of a text, nested at most `fuel` deep, and what follows it. -/
def readValue (fuel : Nat) (l : List Char) : Option (Value × List Char) :=
  match fuel with
  | 0 => none
  | fuel + 1 =>
    match skipBlanks l with
    | 'n' :: 'u' :: 'l' :: 'l' :: rest => some (.null, rest)
    | 't' :: 'r' :: 'u' :: 'e' :: rest => some (.bool true, rest)
    | 'f' :: 'a' :: 'l' :: 's' :: 'e' :: rest => some (.bool false, rest)
    | '"' :: rest => (readText rest).map fun (s, r) => (.text s, r)
    | '[' :: rest =>
      match skipBlanks rest with
      | ']' :: rest => some (.array [], rest)
      | rest => (readItems fuel rest).map fun (vs, r) => (.array vs, r)
    | '\x7b' :: rest =>
      match skipBlanks rest with
      | '\x7d' :: rest => some (.object [], rest)
      | rest => (readMembers fuel rest).map fun (ms, r) => (.object ms, r)
    | rest => readNumber rest

/-- The items of an array up to its end. -/
def readItems (fuel : Nat) (l : List Char) : Option (List Value × List Char) :=
  match fuel with
  | 0 => none
  | fuel + 1 => do
    let (v, rest) ← readValue fuel l
    match skipBlanks rest with
    | ',' :: rest => (readItems fuel rest).map fun (vs, r) => (v :: vs, r)
    | ']' :: rest => some ([v], rest)
    | _ => none

/-- The members of an object up to its end. -/
def readMembers (fuel : Nat) (l : List Char) : Option (List (String × Value) × List Char) :=
  match fuel with
  | 0 => none
  | fuel + 1 => do
    match skipBlanks l with
    | '"' :: rest =>
      let (name, rest) ← readText rest
      match skipBlanks rest with
      | ':' :: rest =>
        let (v, rest) ← readValue fuel rest
        match skipBlanks rest with
        | ',' :: rest => (readMembers fuel rest).map fun (ms, r) => ((name, v) :: ms, r)
        | '\x7d' :: rest => some ([(name, v)], rest)
        | _ => none
      | _ => none
    | _ => none

end

/-- **The document that a text spells**, blanks around it allowed. -/
def parse (l : List Char) : Option Value :=
  match readValue (l.length + 1) l with
  | some (v, rest) => if (skipBlanks rest).isEmpty then some v else none
  | none => none

/-- The document that a text spells. -/
def ofString? (s : String) : Option Value := parse s.toList

end LogVault.Json
