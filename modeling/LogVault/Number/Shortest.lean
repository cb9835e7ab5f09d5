import LogVault.Text.Decimal

/-!
# LogVault.Number.Shortest — the fewest digits that name a double

A finite double is `m · 2^q` for whole `m` and `q`, and every real number between the midpoints to
its two neighbours rounds to it (the midpoints themselves too when `m` is even). `shortest` finds
the decimal grid with the fewest digits that has a point in this interval and takes the point of it
nearest to the double. All arithmetic is exact, on natural numbers.

`Layout` says how digits and an exponent are laid out as a text; that choice belongs to the
format that is written.
-/

namespace LogVault.Number

/-- A positive decimal `digits · 10^exponent`. -/
structure Decimal where
  digits : Nat
  exponent : Int
  deriving Repr, DecidableEq

/-- A positive dyadic number `mantissa · 2^exponent`. `lowGap` holds when the neighbour below is half
as far away as the neighbour above, so that fewer reals below it round to it. -/
structure Dyadic where
  mantissa : Nat
  exponent : Int
  lowGap : Bool
  deriving Repr, DecidableEq

/-- The magnitude of a finite double that is not zero, from its 64 bits. -/
def Dyadic.ofBits (bits : UInt64) : Dyadic :=
  let fraction := (bits &&& 0xFFFFFFFFFFFFF).toNat
  let biased := ((bits >>> 52) &&& 0x7FF).toNat
  if biased = 0 then ⟨fraction, -1074, false⟩
  else ⟨fraction + 0x10000000000000, (biased : Int) - 1075, fraction = 0 && 1 < biased⟩

/-- `x · 2^a · 10^b` as a fraction of natural numbers. -/
def scaled (x : Nat) (a b : Int) : Nat × Nat :=
  (x * Nat.pow 2 a.toNat * Nat.pow 10 b.toNat, Nat.pow 2 (-a).toNat * Nat.pow 10 (-b).toNat)

/-- Comparison of two fractions with positive denominators. -/
def fracLe (p q : Nat × Nat) : Bool := p.1 * q.2 ≤ q.1 * p.2

@[inherit_doc fracLe]
def fracLt (p q : Nat × Nat) : Bool := p.1 * q.2 < q.1 * p.2

/-- A point of a decimal grid lies among the reals that round to the double. -/
def Dyadic.covers (d : Dyadic) (c : Decimal) : Bool :=
  let here := scaled c.digits 0 c.exponent
  let above := scaled (2 * d.mantissa + 1) (d.exponent - 1) 0
  let below :=
    if d.lowGap then scaled (4 * d.mantissa - 1) (d.exponent - 2) 0
    else scaled (2 * d.mantissa - 1) (d.exponent - 1) 0
  if d.mantissa % 2 = 0 then fracLe below here && fracLe here above
  else fracLt below here && fracLt here above

/-- The exponent of the first decimal digit, counting up from a guess that is not too large. -/
def Dyadic.magnitudeFrom (d : Dyadic) : Nat → Int → Int
  | 0, e => e
  | fuel + 1, e =>
    if fracLe (scaled 1 0 (e + 1)) (scaled d.mantissa d.exponent 0)
    then d.magnitudeFrom fuel (e + 1) else e

/-- The exponent `e` with `10^e ≤ d < 10^(e+1)`. -/
def Dyadic.magnitude (d : Dyadic) : Int :=
  let bits : Int := (Nat.log2 d.mantissa : Int) + d.exponent
  d.magnitudeFrom 4 (bits * 30103 / 100000 - 1)

/-- The two points of the grid of step `10^k` next to the double, the nearer one first. At equal
distance the even one is first. -/
def Dyadic.neighbours (d : Dyadic) (k : Int) : List Decimal :=
  let f := scaled d.mantissa d.exponent (-k)
  let low := f.1 / f.2
  let rest := 2 * (f.1 % f.2)
  if rest < f.2 || (rest == f.2 && low % 2 == 0) then [⟨low, k⟩, ⟨low + 1, k⟩]
  else [⟨low + 1, k⟩, ⟨low, k⟩]

/-- The point for a digit count, if the grid of that count has one. -/
def Dyadic.withDigits? (d : Dyadic) (n : Nat) : Option Decimal :=
  (d.neighbours (d.magnitude + 1 - n)).find? d.covers

/-- **The shortest decimal** that rounds to the double. -/
def Dyadic.shortest (d : Dyadic) : Decimal :=
  ((List.range' 1 17).findSome? d.withDigits?).getD ⟨d.mantissa, 0⟩

/-! ## Layout -/

/-- How digits and an exponent become a text: positional from `10^least` up to below
`10^(greatest + 1)`, and with an exponent outside. -/
structure Layout where
  least : Int
  greatest : Int
  deriving Repr

/-- Digits without the zeros at their end, and how many of them there were. -/
def stripZeros (l : List Char) : List Char × Nat :=
  let kept := (l.reverse.dropWhile (· == '0')).reverse
  (kept, l.length - kept.length)

/-- The text of a positive decimal. A positional text always has a digit after the point; an
exponent always has a sign. -/
def Layout.write (f : Layout) (c : Decimal) : List Char :=
  let (digits, zeros) := stripZeros (Decimal.ofNat c.digits)
  let exponent := c.exponent + zeros + digits.length - 1
  if f.least ≤ exponent ∧ exponent ≤ f.greatest then
    if exponent < 0 then
      ['0', '.'] ++ List.replicate ((-exponent).toNat - 1) '0' ++ digits
    else
      let whole := exponent.toNat + 1
      let padded := digits ++ List.replicate (whole + 1 - digits.length) '0'
      padded.take whole ++ ['.'] ++ padded.drop whole
  else
    let mantissa := match digits with
      | first :: second :: rest => first :: '.' :: second :: rest
      | _ => digits
    let sign := if exponent < 0 then '-' else '+'
    mantissa ++ ['e', sign] ++ Decimal.ofNat exponent.natAbs

/-- The text of a finite double. -/
def Layout.writeDouble (f : Layout) (x : Float) : List Char :=
  let bits := x.toBits
  let sign := if bits >>> 63 = 1 then ['-'] else []
  let magnitude := bits &&& 0x7FFFFFFFFFFFFFFF
  if magnitude = 0 then sign ++ ['0', '.', '0']
  else sign ++ f.write (Dyadic.ofBits magnitude).shortest

end LogVault.Number
