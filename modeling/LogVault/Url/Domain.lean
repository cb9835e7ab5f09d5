import LogVault.Text.Utf8
import LogVault.Url.Composed
import LogVault.Url.Direction
import LogVault.Url.Folding
import LogVault.Url.Joining
import LogVault.Url.Punycode

/-!
# LogVault.Url.Domain — labels in other scripts

A label that begins with `xn--` stands for one in another script. It is admitted if it can be read
and if what it stands for is the one form that such a label has: characters of the repertoire,
composed, no mark in front, and joiners only where they matter. Where one label runs from right to
left, every label has to keep its order among others.

A domain in another script is put into ASCII (`toAscii?`): each character is replaced by its one
form, the text composed, and every label that is no ASCII then is written after the mark. The labels
that come of it are admitted or not like those that were written so from the start.
-/

namespace LogVault.Url.Domain

/-- The longest label in another script, and the longest one in letters and digits, without its
mark. -/
def longestText : Nat := 1000

@[inherit_doc longestText]
def longestCode : Nat := 2000

/-- The mark of a label that stands for another. -/
def mark : List Char := "xn--".toList

/-- A text is the one form of a label in another script. -/
def isText (l : List Char) : Bool :=
  l.all (fun c => c.toNat < 0x80 || isRegistered c) && isComposed l && !l.head?.any Text.isMark &&
    Joining.admitsAll [] l && l.length ≤ longestText

/-- What a label in lower case stands for. -/
def labelText? (label : List Char) : Option (List Char) :=
  match label with
  | 'x' :: 'n' :: '-' :: '-' :: code =>
    if code.isEmpty || code.getLast? == some '-' || longestCode < code.length then none
    else (Punycode.decode? code).filter isText
  | _ => some label

/-- A character that shows of itself how it runs. -/
def runsRight (c : Char) : Bool := 0x80 ≤ c.toNat && (Direction.of c).isRight

/-- Labels that may stand beside each other. -/
def agree (texts : List (List Char)) : Bool :=
  !texts.any (·.any runsRight) || texts.all Direction.admitsLabel

/-- **A domain** in lower case of which every label can stand for something. -/
def isValid (name : List Char) : Bool := ((name.splitOn '.').mapM labelText?).any agree

/-! ## The form in ASCII -/

/-- A label in ASCII. One in another script has no mark of its own. -/
def labelName? (text : List Char) : Option (List Char) :=
  if text.all (·.toNat < 0x80) then some text
  else if mark.isPrefixOf text || longestText < text.length then none
  else some (mark ++ Punycode.encode text)

/-- The ASCII form of a domain, as far as its characters have a form in domains. -/
def toAscii? (text : List Char) : Option (List Char) := do
  let forms ← text.mapM fold?
  let names ← ((composed forms.flatten).splitOn '.').mapM labelName?
  return ['.'].intercalate names

/-- **The domain in ASCII** that octets spell. What is ASCII has only to be put into lower case. -/
def ofOctets? (octets : Bytes) : Option (List Char) :=
  if octets.all (· < 0x80) then some (octets.map fun b => (Char.ofNat b.toNat).toLower)
  else (Utf8.decode? octets).bind toAscii?

end LogVault.Url.Domain
