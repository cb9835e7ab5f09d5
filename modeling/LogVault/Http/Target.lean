import LogVault.Text.Utf8

/-!
# LogVault.Http.Target — what a request asks for

A request target is a path with perhaps a query (`/blob?key=a`), a whole URL, a host alone or `*`. A
client that sends anything else is refused before its request is looked at; `parse` says which
targets are let through, what their path and their query are, and why another text is no target.
Neither part is decoded. What follows a `#` is dropped.
-/

namespace LogVault.Http

/-- **The target of a request.** -/
structure Target where
  path : List Char
  query : Option (List Char)
  deriving Repr, DecidableEq

namespace Target

/-- **Why a text is no target.** -/
inductive Flaw where
  | empty
  | tooLong
  | longScheme
  | character
  | host
  | shape
  deriving Repr, DecidableEq

/-- The sentence for a flaw. -/
def Flaw.message : Flaw → String
  | .empty => "empty string"
  | .tooLong => "uri too long"
  | .longScheme => "scheme too long"
  | .character => "invalid uri character"
  | .host => "invalid authority"
  | .shape => "invalid format"

/-- The longest target, in octets. -/
def longest : Nat := 65534

/-- A character that does not belong to ASCII. The control U+007F does, and is refused in a path and
in a query like the controls below the blank. -/
def isHigh (n : Nat) : Bool := 0x80 ≤ n

/-- A character that may stand in a path. -/
def isPathChar (c : Char) : Bool :=
  let n := c.toNat
  isHigh n || n == 0x21 || n == 0x22 || (0x24 ≤ n && n ≤ 0x3B) || n == 0x3D ||
    (0x40 ≤ n && n ≤ 0x5F) || (0x61 ≤ n && n ≤ 0x7E)

/-- A character that may stand in a query. -/
def isQueryChar (c : Char) : Bool :=
  let n := c.toNat
  isHigh n || n == 0x21 || (0x24 ≤ n && n ≤ 0x3B) || n == 0x3D || (0x3F ≤ n && n ≤ 0x7E)

/-- A path that may be empty, which then is the shortest one, with perhaps a query. -/
def ofPath (l : List Char) : Except Flaw Target :=
  let path := l.takeWhile fun c => c != '?' && c != '#'
  let named := if path.isEmpty then ['/'] else path
  if path.all isPathChar then
    match l.dropWhile fun c => c != '?' && c != '#' with
    | '?' :: rest =>
      let query := rest.takeWhile (· != '#')
      if query.all isQueryChar then .ok ⟨named, some query⟩ else .error .character
    | _ => .ok ⟨named, none⟩
  else .error .character

/-! ## Hosts -/

/-- A character that may stand in a host with what belongs to it. -/
def isHostChar (c : Char) : Bool :=
  c.isAlphanum || "!$&'()*+,-.:;=@[]_~%".toList.contains c

/-- What has been seen of a host so far. -/
structure Seen where
  colons : Nat
  opened : Bool
  closed : Bool
  percent : Bool
  deriving Repr, DecidableEq

/-- What has been seen after one more character, if it may stand there. Colons and percent signs
before an `@` or inside brackets do not count. -/
def Seen.next (s : Seen) (c : Char) : Except Flaw Seen :=
  if c = ':' then if 8 ≤ s.colons then .error .host else .ok { s with colons := s.colons + 1 }
  else if c = '[' then if s.percent || s.opened then .error .host else .ok { s with opened := true }
  else if c = ']' then
    if !s.opened || s.closed then .error .host
    else .ok { s with closed := true, colons := 0, percent := false }
  else if c = '@' then .ok { s with colons := 0, percent := false }
  else if c = '%' then .ok { s with percent := true }
  else if isHostChar c then .ok s
  else .error .character

/-- What stands against a host with what belongs to it: brackets have to be a pair, and there may be
at most one colon and no percent sign outside, and not nothing after an `@`. -/
def hostFlaw? (l : List Char) : Option Flaw :=
  match l.foldlM Seen.next ⟨0, false, false, false⟩ with
  | .ok s =>
    if s.opened == s.closed && s.colons ≤ 1 && !s.percent && l.getLast? != some '@' then none
    else some .host
  | .error flaw => some flaw

/-- A character of a scheme. -/
def isSchemeChar (c : Char) : Bool := c.isAlphanum || "+-.~".toList.contains c

/-- The longest scheme. -/
def longestScheme : Nat := 64

/-- What follows the scheme of a target, if the target has one. -/
def afterScheme (l : List Char) : Except Flaw (Option (List Char)) :=
  let scheme := l.takeWhile isSchemeChar
  match l.dropWhile isSchemeChar with
  | ':' :: '/' :: '/' :: rest =>
    if longestScheme < scheme.length then .error .longScheme else .ok (some rest)
  | _ => .ok none

/-- A character that ends a host. -/
def endsHost (c : Char) : Bool := c == '/' || c == '?' || c == '#'

/-- The target of a text that is a host, or has one in front of a path. Only a whole URL has both. -/
def ofHost (isUrl : Bool) (l : List Char) : Except Flaw Target :=
  let host := l.takeWhile (!endsHost ·)
  let way := l.dropWhile (!endsHost ·)
  match hostFlaw? host with
  | some flaw => .error flaw
  | none =>
    if isUrl then if host.isEmpty then .error .shape else ofPath way
    else if way.isEmpty then .ok ⟨[], none⟩
    else .error .shape

/-- **The target** that a text spells. -/
def parse (s : String) : Except Flaw Target :=
  let l := s.toList
  if longest < (Text.bytes s).length then .error .tooLong
  else match l with
    | [] => .error .empty
    | '/' :: _ => ofPath l
    | ['*'] => .ok ⟨['*'], none⟩
    | _ =>
      match afterScheme l with
      | .error flaw => .error flaw
      | .ok none => ofHost false l
      | .ok (some rest) => ofHost true rest

end Target

end LogVault.Http
