/-!
# LogVault.Text.Decimal — whole numbers in decimal digits

Settings, command-line values and the expiry of a link are read by one grammar: an optional sign
and one or more ASCII digits, with a value inside a given range. Blanks, separators and digits of
other scripts are not part of it.

`Flaw` says which of the three ways a text can fail; its wording belongs to the vault's messages.
-/

namespace LogVault.Decimal

/-- Why a text is no number of the wanted range. -/
inductive Flaw where
  | empty
  | notDigit
  | tooLarge
  | tooSmall
  deriving Repr, DecidableEq

/-- The sentence for a flaw. -/
def Flaw.message : Flaw → String
  | .empty => "cannot parse integer from empty string"
  | .notDigit => "invalid digit found in string"
  | .tooLarge => "number too large to fit in target type"
  | .tooSmall => "number too small to fit in target type"

/-- The value of a sequence of digits, the first one the most significant. -/
def value (l : List Char) : Nat := Nat.ofDigitChars 10 l 0

/-- A sequence of one or more ASCII digits. -/
def isDigits (l : List Char) : Bool := !l.isEmpty && l.all Char.isDigit

/-- The value of digits that must not exceed `max`. A value that has grown too large is reported
before a character further on that is no digit. -/
def readDigits (max : Nat) (l : List Char) : Except Flaw Nat :=
  if max < value (l.takeWhile Char.isDigit) then .error .tooLarge
  else if isDigits l then .ok (value l)
  else .error .notDigit

/-- **Reading a natural number** that is at most `max`. A plus sign may stand in front. -/
def readNat (max : Nat) (l : List Char) : Except Flaw Nat :=
  match l with
  | [] => .error .empty
  | '+' :: rest => readDigits max rest
  | _ => readDigits max l

/-- **Reading an integer** between `-(max + 1)` and `max`. Either sign may stand in front. -/
def readInt (max : Nat) (l : List Char) : Except Flaw Int :=
  match l with
  | '-' :: rest =>
    match readDigits (max + 1) rest with
    | .ok n => .ok (-(n : Int))
    | .error .tooLarge => .error .tooSmall
    | .error e => .error e
  | _ => (readNat max l).map Int.ofNat

/-- The digits of a natural number. -/
def ofNat (n : Nat) : List Char := Nat.toDigits 10 n

/-- The digits of an integer, with a minus sign when it is negative. -/
def ofInt : Int → List Char
  | .ofNat n => ofNat n
  | .negSucc n => '-' :: ofNat (n + 1)

/-- The text of a natural number. -/
def natText (n : Nat) : String := String.ofList (ofNat n)

/-- The text of an integer. -/
def intText (i : Int) : String := String.ofList (ofInt i)

/-- A natural number in at least `width` digits, with zeros in front. -/
def padded (width n : Nat) : List Char :=
  let digits := ofNat n
  List.replicate (width - digits.length) '0' ++ digits

/-! ## Laws -/

theorem isDigits_ofNat (n : Nat) : isDigits (ofNat n) = true := by
  have h : 0 < (ofNat n).length := Nat.length_toDigits_pos
  simp only [isDigits, Bool.and_eq_true, Bool.not_eq_true', List.isEmpty_eq_false_iff,
    List.all_eq_true]
  exact ⟨List.ne_nil_of_length_pos h,
    fun c hc => Nat.isDigit_of_mem_toDigits (by decide) (by decide) hc⟩

theorem value_ofNat (n : Nat) : value (ofNat n) = n :=
  Nat.ofDigitChars_toDigits (by decide) (by decide)

end LogVault.Decimal
