import LogVault.Url.Domain
import LogVault.Url.Ipv6
import LogVault.Text.Percent

/-!
# LogVault.Url.Host — who a URL points at

Three readings of the text between the slashes and the path. Schemes of the web know domains, which
are compared without regard to case, and addresses; other schemes take the text as it is, with only
what no URL can hold escaped. Brackets always hold an IPv6 address.

A domain is kept in its ASCII form, into which a domain in another script is put when it is read.
Its escapes are read before, as octets of a text.
-/

namespace LogVault.Url

/-- **Why a text is no URL.** -/
inductive Flaw where
  | emptyHost
  | invalidDomain
  | invalidNumber
  | invalidIpv4
  | invalidIpv6
  | invalidHostCharacter
  | relative
  deriving Repr, DecidableEq

/-- The sentence for a flaw. -/
def Flaw.message : Flaw → String
  | .emptyHost => "empty host"
  | .invalidDomain => "invalid international domain name"
  | .invalidNumber => "invalid port number"
  | .invalidIpv4 => "invalid IPv4 address"
  | .invalidIpv6 => "invalid IPv6 address"
  | .invalidHostCharacter => "invalid domain character"
  | .relative => "relative URL without a base"

/-- An octet that no part of a URL holds as itself: a control, or what is not ASCII. -/
def isRaw (b : UInt8) : Bool := b < 0x20 || 0x7F ≤ b

/-- **The host** of a URL, in the form in which it is written. -/
inductive Host where
  | domain (name : List Char)
  | ipv4 (address : Ipv4)
  | ipv6 (address : Ipv6)
  deriving Repr, DecidableEq

namespace Host

/-- The host as written. -/
def write : Host → List Char
  | .domain name => name
  | .ipv4 address => address.write
  | .ipv6 address => '[' :: (address.write ++ [']'])

/-- The host is there. -/
def isEmpty : Host → Bool
  | .domain name => name.isEmpty
  | _ => false

/-- Characters that a host in any scheme cannot have. -/
def isForbidden (c : Char) : Bool :=
  ['\x00', '\t', '\n', '\r', ' ', '#', '/', ':', '<', '>', '?', '@', '[', '\\', ']', '^',
    '|'].contains c

/-- A character that can stand in a domain in its ASCII form. -/
def isNameChar (c : Char) : Bool :=
  0x20 < c.toNat && c.toNat < 0x7F && c != '%' && !isForbidden c && c.toLower == c

/-- The address between brackets. -/
def bracketed (l : List Char) : Except Flaw Host :=
  if l.getLast? = some ']' then
    match Ipv6.ofText? l.dropLast with
    | some a => .ok (.ipv6 a)
    | none => .error .invalidIpv6
  else .error .invalidIpv6

/-- The domain or address of a text, in schemes of the web. -/
def ofDomain (l : List Char) : Except Flaw Host :=
  match l with
  | '[' :: rest => bracketed rest
  | _ =>
    match Domain.ofOctets? (Percent.decode (Text.bytes (String.ofList l))) with
    | none => .error .invalidDomain
    | some name =>
      if !(name.all isNameChar && Domain.isValid name) then .error .invalidDomain
      else if name.isEmpty then .error .emptyHost
      else if Ipv4.endsInNumber name then
        match Ipv4.ofHost? name with
        | some a => .ok (.ipv4 a)
        | none => .error .invalidIpv4
      else .ok (.domain name)

/-- The host of a text in other schemes. -/
def ofPlain (l : List Char) : Except Flaw Host :=
  match l with
  | '[' :: rest => bracketed rest
  | _ =>
    if l.any isForbidden then .error .invalidHostCharacter
    else .ok (.domain (Percent.encodeText (!isRaw ·) l))

end Host

end LogVault.Url
