import LogVault.Text.Percent

/-!
# LogVault.Text.Form — names and values in a query string

Queries carry pairs of a name and a value in the format `application/x-www-form-urlencoded`: pairs
are joined by `&`, a name and its value by `=`, a space is a plus sign and other octets may be
escaped. Reading never fails: empty pieces are skipped, a piece without `=` is a name with an empty
value, and octets that are no UTF-8 become U+FFFD.
-/

namespace LogVault.Form

/-- Octets that stand for themselves: ASCII letters and digits and the four marks `*`, `-`, `.`
and `_`. -/
def keeps (b : UInt8) : Bool :=
  (0x30 ≤ b && b ≤ 0x39) || (0x41 ≤ b && b ≤ 0x5A) || (0x61 ≤ b && b ≤ 0x7A) ||
    b == 0x2A || b == 0x2D || b == 0x2E || b == 0x5F

/-- One octet of a name or a value. -/
def encodeByte (b : UInt8) : List Char :=
  if b = 0x20 then ['+'] else if keeps b then [Char.ofNat b.toNat] else Percent.escape b

/-- A name or a value. -/
def encode (s : String) : List Char := (Text.bytes s).flatMap encodeByte

/-- One pair. -/
def encodePair (p : String × String) : List Char := encode p.1 ++ '=' :: encode p.2

/-- **Writing** a list of pairs. -/
def write (pairs : List (String × String)) : List Char :=
  ['&'].intercalate (pairs.map encodePair)

/-- The text of a list of pairs. -/
def text (pairs : List (String × String)) : String := String.ofList (write pairs)

/-- The octets of a name or a value, with plus signs for spaces. -/
def decode (l : Bytes) : String :=
  Utf8.textLossy (Percent.decode (l.map fun b => if b = 0x2B then 0x20 else b))

/-- One piece, cut at its first `=`. -/
def decodePiece (l : Bytes) : String × String :=
  (decode (l.takeWhile (· != 0x3D)), decode ((l.dropWhile (· != 0x3D)).drop 1))

/-- **Reading** the pairs of a sequence of octets. -/
def readBytes (l : Bytes) : List (String × String) :=
  ((l.splitOn 0x26).filter (!·.isEmpty)).map decodePiece

/-- The pairs of a query string. -/
def read (query : String) : List (String × String) := readBytes (Text.bytes query)

end LogVault.Form
