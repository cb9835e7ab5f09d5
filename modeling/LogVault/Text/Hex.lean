import LogVault.Text.Utf8

/-!
# LogVault.Text.Hex — octets as pairs of hexadecimal digits

Writing is lower case; reading takes either case and refuses an odd number of digits and every
character that is no digit. The two are inverse on what is written (`decode_encode`).
-/

namespace LogVault.Hex

/-- The digits in the order of their values. -/
def digits : List Char :=
  ['0', '1', '2', '3', '4', '5', '6', '7', '8', '9', 'a', 'b', 'c', 'd', 'e', 'f']

/-- The digit of a value below sixteen. -/
def digit (n : Nat) : Char := digits.getD n '0'

/-- The value of a digit, in either case. -/
def value? (c : Char) : Option Nat :=
  if '0' ≤ c ∧ c ≤ '9' then some (c.toNat - 48)
  else if 'a' ≤ c ∧ c ≤ 'f' then some (c.toNat - 87)
  else if 'A' ≤ c ∧ c ≤ 'F' then some (c.toNat - 55)
  else none

/-- The two digits of an octet, the high one first. -/
def pair (b : UInt8) : List Char := [digit (b.toNat / 16), digit (b.toNat % 16)]

/-- The digits of a sequence of octets. -/
def encode (l : Bytes) : List Char := l.flatMap pair

/-- The octets that a sequence of digits spells. -/
def decode : List Char → Option Bytes
  | [] => some []
  | [_] => none
  | h :: l :: rest =>
    match value? h, value? l with
    | some a, some b => (decode rest).map (UInt8.ofNat (16 * a + b) :: ·)
    | _, _ => none

/-- The digits of a sequence of octets, as a text. -/
def text (l : Bytes) : String := String.ofList (encode l)

/-! ## Laws -/

theorem value_digit : ∀ n, n < 16 → value? (digit n) = some n := by decide

theorem length_encode (l : Bytes) : (encode l).length = 2 * l.length := by
  induction l with
  | nil => rfl
  | cons b r ih =>
    simp only [encode, List.flatMap_cons, pair, List.length_append, List.length_cons,
      List.length_nil] at ih ⊢
    omega

theorem decode_encode (l : Bytes) : decode (encode l) = some l := by
  induction l with
  | nil => rfl
  | cons b r ih =>
    have hb : b.toNat < 256 := b.toNat_lt
    have h₁ := value_digit (b.toNat / 16) (by omega)
    have h₂ := value_digit (b.toNat % 16) (by omega)
    simp only [encode] at ih
    simp only [encode, List.flatMap_cons, pair, List.cons_append, List.nil_append, decode, h₁, h₂,
      ih, Option.map_some, Nat.div_add_mod, UInt8.ofNat_toNat]

end LogVault.Hex
