/-!
# LogVault.Text.Utf8 — texts as bytes

Every text of the vault crosses a byte boundary: keys are hashed and signed, bodies are written,
queries are decoded. This module fixes the one encoding, UTF-8, and the two ways of reading it back.

`Utf8.items` splits any byte sequence into characters and the maximal pieces that cannot belong to
one. A strict reader (`Utf8.decode?`) wants characters only and can say where the first other piece
stands (`Utf8.flaw?`); a lossy reader (`Utf8.decodeLossy`) puts U+FFFD in the place of each.
-/

namespace LogVault

/-- A sequence of octets. -/
abbrev Bytes := List UInt8

namespace Text

/-- The octets of a text. -/
def bytes (s : String) : Bytes := s.toList.flatMap String.utf8EncodeChar

@[simp] theorem bytes_append (s t : String) : bytes (s ++ t) = bytes s ++ bytes t := by
  simp [bytes]

end Text

namespace Utf8

/-! ## Splitting off the front -/

/-- **One piece of a byte sequence**: a character, a piece of `size` octets that no character can
contain, or a character of which the end is missing. -/
inductive Item where
  | char (c : Char)
  | broken (size : Nat)
  | cut (size : Nat)
  deriving Repr, DecidableEq

/-- How many octets follow the first octet `a` of a character. -/
def following (a : UInt8) : Option Nat :=
  if a < 0x80 then some 0
  else if 0xC2 ≤ a ∧ a ≤ 0xDF then some 1
  else if 0xE0 ≤ a ∧ a ≤ 0xEF then some 2
  else if 0xF0 ≤ a ∧ a ≤ 0xF4 then some 3
  else none

/-- An octet that continues a character. -/
def isTail (b : UInt8) : Bool := 0x80 ≤ b && b ≤ 0xBF

/-- An octet that may stand second after `a`: a tail, less those that would spell a code point in
too many octets, a surrogate, or a value above U+10FFFF. -/
def maySecond (a b : UInt8) : Bool :=
  if a = 0xE0 then 0xA0 ≤ b && b ≤ 0xBF
  else if a = 0xED then 0x80 ≤ b && b ≤ 0x9F
  else if a = 0xF0 then 0x90 ≤ b && b ≤ 0xBF
  else if a = 0xF4 then 0x80 ≤ b && b ≤ 0x8F
  else isTail b

/-- The character of two, three or four octets. -/
def join2 (a b : UInt8) : Char := Char.ofNat (a.toNat % 32 * 64 + b.toNat % 64)

@[inherit_doc join2]
def join3 (a b c : UInt8) : Char :=
  Char.ofNat (a.toNat % 16 * 4096 + b.toNat % 64 * 64 + c.toNat % 64)

@[inherit_doc join2]
def join4 (a b c d : UInt8) : Char :=
  Char.ofNat (a.toNat % 8 * 262144 + b.toNat % 64 * 4096 + c.toNat % 64 * 64 + d.toNat % 64)

/-- The first piece of the sequence `a :: rest`, and what is left after it. A broken piece is as
long as it could have been the start of a character. -/
def front (a : UInt8) (rest : Bytes) : Item × Bytes :=
  match following a, rest with
  | none, _ => (.broken 1, rest)
  | some 0, _ => (.char (Char.ofNat a.toNat), rest)
  | some _, [] => (.cut 1, [])
  | some n, b :: r₁ =>
    if maySecond a b then
      if n = 1 then (.char (join2 a b), r₁)
      else match r₁ with
        | [] => (.cut 2, [])
        | c :: r₂ =>
          if isTail c then
            if n = 2 then (.char (join3 a b c), r₂)
            else match r₂ with
              | [] => (.cut 3, [])
              | d :: r₃ => if isTail d then (.char (join4 a b c d), r₃) else (.broken 3, r₂)
          else (.broken 2, r₁)
    else (.broken 1, rest)

theorem length_front_le (a : UInt8) (rest : Bytes) : (front a rest).2.length ≤ rest.length := by
  unfold front
  repeat' split
  all_goals simp_all <;> omega

/-- All pieces of a byte sequence, in order. -/
def items : Bytes → List Item
  | [] => []
  | a :: rest => (front a rest).1 :: items (front a rest).2
termination_by l => l.length
decreasing_by
  have := length_front_le a rest
  simp only [List.length_cons]
  omega

/-! ## Reading -/

/-- The character of a piece, if it is one. -/
def Item.char? : Item → Option Char
  | .char c => some c
  | _ => none

/-- The characters of a sequence that holds nothing else. -/
def decode? (l : Bytes) : Option (List Char) := (items l).mapM Item.char?

/-- The text of a sequence in which U+FFFD stands for every piece that is no character. -/
def decodeLossy (l : Bytes) : List Char := (items l).map fun i => i.char?.getD '\uFFFD'

/-- The text of a sequence of characters. -/
def text? (l : Bytes) : Option String := (decode? l).map String.ofList

/-- The lossy text of a sequence. -/
def textLossy (l : Bytes) : String := String.ofList (decodeLossy l)

/-! ## Where a sequence stops being a text -/

/-- The first piece that is no character, at the octet where it starts. -/
structure Flaw where
  index : Nat
  item : Item
  deriving Repr, DecidableEq

/-- The octets of a character. -/
def width (c : Char) : Nat := (String.utf8EncodeChar c).length

/-- The first flaw among pieces of which the first starts at `index`. -/
def flawFrom (index : Nat) : List Item → Option Flaw
  | [] => none
  | .char c :: rest => flawFrom (index + width c) rest
  | item :: _ => some ⟨index, item⟩

/-- The first flaw of a sequence. -/
def flaw? (l : Bytes) : Option Flaw := flawFrom 0 (items l)

/-- The sentence that names a flaw. -/
def Flaw.message (f : Flaw) : String :=
  match f.item with
  | .broken n => s!"invalid utf-8 sequence of {n} bytes from index {f.index}"
  | _ => s!"incomplete utf-8 byte sequence from index {f.index}"

end Utf8

end LogVault
