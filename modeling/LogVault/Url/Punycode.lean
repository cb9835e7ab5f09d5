/-!
# LogVault.Url.Punycode — any script in letters and digits

A label in another script is written in ASCII as its ASCII characters, a hyphen, and one number for
each other character: how far the point of insertion moves on, where all characters of one code
point come before those of the next. The numbers have digits from `a` to `9`, the least significant
one first; a digit below its threshold is the last, and the thresholds follow the numbers that came
before.

`decode?` reads such a label, and refuses numbers that 32 bits do not hold. `encode` writes it: it
goes over the text once for every code point in it, from the lowest to the highest, and counts the
characters that it passes by.
-/

namespace LogVault.Url.Punycode

/-! ## Numbers -/

/-- The value of a digit. -/
def digitValue? (c : Char) : Option Nat :=
  if 'a' ≤ c ∧ c ≤ 'z' then some (c.toNat - 'a'.toNat)
  else if '0' ≤ c ∧ c ≤ '9' then some (c.toNat - '0'.toNat + 26)
  else none

/-- How many digits there are. -/
def base : Nat := 36

/-- The largest number. -/
def greatest : Nat := 0xFFFFFFFF

/-- The threshold of a digit, from its place and from what the numbers before it were like. -/
def threshold (place bias : Nat) : Nat :=
  if place ≤ bias then 1 else if bias + 26 ≤ place then 26 else place - bias

theorem threshold_pos (place bias : Nat) : 0 < threshold place bias := by
  unfold threshold
  split
  · omega
  · split <;> omega

/-- How often a distance can be divided until it is small, and what is left of it. -/
def shrink (steps distance : Nat) : Nat × Nat :=
  if 455 < distance then shrink (steps + 1) (distance / 35) else (steps, distance)
termination_by distance
decreasing_by exact Nat.div_lt_self (by omega) (by omega)

/-- What the thresholds follow after a number, of which `count` have been read. -/
def adapt (distance count : Nat) (first : Bool) : Nat :=
  let halved := if first then distance / 700 else distance / 2
  let (steps, rest) := shrink 0 (halved + halved / count)
  steps * base + base * rest / (rest + 38)

/-- A number added to `sum`, and what follows it. -/
def readNumber (bias place weight sum : Nat) : List Char → Option (Nat × List Char)
  | [] => none
  | c :: rest =>
    match digitValue? c with
    | none => none
    | some digit =>
      let sum := sum + digit * weight
      if greatest < sum then none
      else if digit < threshold place bias then some (sum, rest)
      else
        let weight := weight * (base - threshold place bias)
        if greatest < weight then none else readNumber bias (place + base) weight sum rest

theorem length_lt_of_readNumber {bias place weight sum : Nat} {l : List Char} {r : Nat × List Char}
    (h : readNumber bias place weight sum l = some r) : r.2.length < l.length := by
  induction l generalizing place weight sum with
  | nil => simp [readNumber] at h
  | cons c rest ih =>
    simp only [readNumber] at h
    split at h
    · cases h
    · split at h
      · cases h
      · split at h
        · cases h
          simp
        · split at h
          · cases h
          · exact Nat.lt_succ_of_lt (ih h)

/-! ## Reading -/

/-- The character of a code point, if there is one. -/
def character? (n : Nat) : Option Char :=
  if h : n.isValidChar then some (Char.ofNatAux n h) else none

/-- A text with the characters that numbers put into it, from a code point and a place on. -/
def insertAll (bias code place : Nat) (done l : List Char) : Option (List Char) :=
  if l.isEmpty then some done
  else
    match _h : readNumber bias base 1 place l with
    | none => none
    | some (sum, rest) =>
      let count := done.length + 1
      match character? (code + sum / count) with
      | none => none
      | some c =>
        insertAll (adapt (sum - place) count (place == 0)) (code + sum / count) (sum % count + 1)
          (done.take (sum % count) ++ c :: done.drop (sum % count)) rest
termination_by l.length
decreasing_by exact length_lt_of_readNumber _h

/-- **The text** of a label after its mark `xn--`. -/
def decode? (l : List Char) : Option (List Char) :=
  let numbers := (l.reverse.takeWhile (· != '-')).reverse
  match l.reverse.dropWhile (· != '-') with
  | [] => insertAll 72 0x80 0 [] l
  | [_] => none
  | _ :: before => insertAll 72 0x80 0 before.reverse numbers

/-! ## Writing -/

/-- The digit of a value. -/
def digit (value : Nat) : Char :=
  if value < 26 then Char.ofNat ('a'.toNat + value) else Char.ofNat ('0'.toNat + (value - 26))

/-- The digits of a number, from a place on. -/
def writeNumber (bias place value : Nat) : List Char :=
  let least := threshold place bias
  if value < least then [digit value]
  else
    digit (least + (value - least) % (base - least)) ::
      writeNumber bias (place + base) ((value - least) / (base - least))
termination_by value
decreasing_by
  have := threshold_pos place bias
  exact Nat.lt_of_le_of_lt (Nat.div_le_self _ _) (by omega)

/-- **How far writing has come**: all code points below `code` are written, `count` characters in
all, and so many characters were passed by since then. -/
structure Progress where
  written : List Char
  code : Nat
  count : Nat
  passed : Nat
  bias : Nat
  first : Bool

namespace Progress

/-- A text of which the characters of ASCII are written. -/
def start (ascii : List Char) : Progress :=
  { written := if ascii.isEmpty then [] else ascii ++ ['-']
    code := 0x80, count := ascii.length, passed := 0, bias := 72, first := true }

/-- One character of the text, which is written if it has the code point that is looked for. -/
def step (code : Nat) (p : Progress) (c : Char) : Progress :=
  if c.toNat < code then { p with passed := p.passed + 1 }
  else if c.toNat = code then
    { p with
      written := p.written ++ writeNumber p.bias base p.passed
      count := p.count + 1
      passed := 0
      bias := adapt p.passed (p.count + 1) p.first
      first := false }
  else p

/-- All characters of a code point, the lowest one that is left. -/
def pass (text : List Char) (p : Progress) (code : Nat) : Progress :=
  let skipped := { p with passed := p.passed + (code - p.code) * (p.count + 1) }
  let p := text.foldl (step code) skipped
  { p with code := code + 1, passed := p.passed + 1 }

end Progress

/-- **The label** of a text, without its mark `xn--`. -/
def encode (text : List Char) : List Char :=
  let codes := ((text.map Char.toNat).filter (0x80 ≤ ·)).eraseDups.mergeSort
  (codes.foldl (Progress.pass text) (.start (text.filter (·.toNat < 0x80)))).written

end LogVault.Url.Punycode
