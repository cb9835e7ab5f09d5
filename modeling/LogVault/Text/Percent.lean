import LogVault.Text.Hex

/-!
# LogVault.Text.Percent — octets inside a URL

An octet that a part of a URL cannot hold is written as a percent sign and two hexadecimal digits.
Which octets stand for themselves differs from part to part, so the writer takes that as an
argument; the reader is the same everywhere and leaves a percent sign alone that no two digits
follow.
-/

namespace LogVault.Percent

/-- The percent sign as an octet. -/
def sign : UInt8 := 0x25

/-- A hexadecimal digit in upper case. -/
def upperDigit (n : Nat) : Char := (Hex.digit n).toUpper

/-- The escape of an octet. -/
def escape (b : UInt8) : List Char :=
  ['%', upperDigit (b.toNat / 16), upperDigit (b.toNat % 16)]

/-- Octets written with the ones in `keep` as themselves. -/
def encode (keep : UInt8 → Bool) (l : Bytes) : List Char :=
  l.flatMap fun b => if keep b then [Char.ofNat b.toNat] else escape b

/-- The octets of a text, written with the ones in `keep` as themselves. -/
def encodeText (keep : UInt8 → Bool) (l : List Char) : List Char :=
  encode keep (l.flatMap String.utf8EncodeChar)

/-- The value of an octet that is a hexadecimal digit. -/
def digitValue? (b : UInt8) : Option Nat := Hex.value? (Char.ofNat b.toNat)

/-- The octets behind the escapes. -/
def decode : Bytes → Bytes
  | [] => []
  | b :: h :: l :: rest =>
    if b = sign then
      match digitValue? h, digitValue? l with
      | some x, some y => UInt8.ofNat (16 * x + y) :: decode rest
      | _, _ => b :: decode (h :: l :: rest)
    else b :: decode (h :: l :: rest)
  | b :: rest => b :: decode rest

end LogVault.Percent
