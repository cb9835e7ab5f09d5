import LogVault.Text.Blank
import LogVault.Url.Host
import LogVault.Url.Path

/-!
# LogVault.Url.Basic — URLs

A URL is read by the rules of the web: blanks and controls around it do not count, nor do tabs and
line ends inside; scheme and domain lose their case; in the schemes of the web a backslash is a slash,
the slashes before the host may be too many or too few, and the path is never empty. What follows the
first `#` is for the reader of a page alone: it is no part of a `Url`, and `Url.fragment` gives it.

`Url.parse` gives the parts in the form in which `Url.write` puts them together, so a URL that was
read is written in one way only.
-/

namespace LogVault

namespace Url

/-! ## Parts -/

/-- A scheme of the web, in which host and path follow stricter rules; `file` has rules of its own. -/
def isWeb (scheme : List Char) : Bool :=
  ["http", "https", "ws", "wss", "ftp", "file"].contains (String.ofList scheme)

/-- The number that a scheme of the web has when a URL gives none. -/
def usualNumber? (scheme : List Char) : Option Nat :=
  match String.ofList scheme with
  | "http" => some 80
  | "ws" => some 80
  | "https" => some 443
  | "wss" => some 443
  | "ftp" => some 21
  | _ => none

/-- The part between `//` and the path: who asks, as written with the closing `@`, the host, and a
number unless it is the usual one. -/
structure Authority where
  user : List Char
  host : List Char
  number : Option Nat
  deriving Repr, DecidableEq

/-- The way to the resource: segments after slashes, or a text without structure. -/
inductive Way where
  | segments (path : List (List Char))
  | plain (text : List Char)
  deriving Repr, DecidableEq

end Url

/-- **A URL** without its fragment. `guarded` holds when the path would otherwise be taken for a
host, and then `/.` stands before it. -/
structure Url where
  scheme : List Char
  authority : Option Url.Authority
  guarded : Bool
  way : Url.Way
  query : Option (List Char)
  deriving Repr, DecidableEq

namespace Url

/-! ## Writing -/

/-- An authority as written. -/
def Authority.write (a : Authority) : List Char :=
  a.user ++ a.host ++ (match a.number with
    | some n => ':' :: Decimal.ofNat n
    | none => [])

/-- A way as written. -/
def Way.write : Way → List Char
  | .segments path => writePath path
  | .plain text => text

/-- The URL up to its query, as written. -/
def writeStem (u : Url) : List Char :=
  u.scheme ++ ':' :: ((match u.authority with
    | some a => '/' :: '/' :: a.write
    | none => []) ++ (if u.guarded then ['/', '.'] else []) ++ u.way.write)

/-- **The URL as written.** -/
def write (u : Url) : List Char :=
  u.writeStem ++ (match u.query with
    | some q => '?' :: q
    | none => [])

/-! ## Reading -/

/-- A blank or control at an end of the text. -/
def isOuter (c : Char) : Bool := c.toNat ≤ 0x20

/-- The text without the blanks and controls at its ends. -/
def inner (l : List Char) : List Char := Text.dropTrailing isOuter (l.dropWhile isOuter)

/-- A character of a scheme after its first. -/
def isSchemeChar (c : Char) : Bool := c.isAlphanum || c == '+' || c == '-' || c == '.'

/-- The scheme in lower case, and what follows its colon. -/
def readScheme (l : List Char) : Option (List Char × List Char) :=
  let reads (c : Char) : Bool := isSchemeChar c || isIgnored c
  let scheme := counted (l.takeWhile reads)
  match scheme, l.dropWhile reads with
  | c :: _, ':' :: rest => if c.isAlpha then some (scheme.map Char.toLower, rest) else none
  | _, _ => none

/-- An octet that stands for itself in a query. -/
def keepsInQuery (web : Bool) (b : UInt8) : Bool :=
  0x20 < b && b < 0x7F && !([0x22, 0x23, 0x3C, 0x3E] : List UInt8).contains b &&
    !(web && b == 0x27)

/-- A character that ends the part of a URL before its query. -/
def endsStem (c : Char) : Bool := c == '?' || c == '#'

/-- The query of what follows the stem. -/
def readQuery (web : Bool) : List Char → Option (List Char)
  | '?' :: rest => some (Percent.encodeText (keepsInQuery web) (rest.takeWhile (· != '#')))
  | _ => none

/-- A slash, or what passes for one. -/
def isSlash (web : Bool) (c : Char) : Bool := c == '/' || (web && c == '\\')

/-- An octet that stands for itself in the user part. -/
def keepsInUser (b : UInt8) : Bool :=
  keepsInPath b &&
    !([0x2F, 0x3A, 0x3B, 0x3D, 0x40, 0x5B, 0x5C, 0x5D, 0x5E, 0x7C] : List UInt8).contains b

/-- The user part as written, from the text before the `@`. An empty password is dropped, and so is
a user part without name and password. -/
def writeUser (l : List Char) : List Char :=
  let name := Percent.encodeText keepsInUser (l.takeWhile (· != ':'))
  let word := Percent.encodeText keepsInUser ((l.dropWhile (· != ':')).drop 1)
  let user := if word.isEmpty then name else name ++ ':' :: word
  if user.isEmpty then [] else user ++ ['@']

/-- The text before the last `@` and the text after it. -/
def cutUser (l : List Char) : Option (List Char × List Char) :=
  let after := l.reverse.takeWhile (· != '@')
  match l.reverse.dropWhile (· != '@') with
  | [] => none
  | _ :: before => some (before.reverse, after.reverse)

/-- The host of a text and what follows it: a colon inside brackets belongs to the host. -/
def cutHost (inside : Bool) : List Char → List Char × List Char
  | [] => ([], [])
  | ':' :: rest =>
    if inside then
      let p := cutHost inside rest
      (':' :: p.1, p.2)
    else ([], ':' :: rest)
  | c :: rest =>
    let p := cutHost (if c = '[' then true else if c = ']' then false else inside) rest
    (c :: p.1, p.2)

/-- The number after a host, which is none where no digit stands or the number is the usual one. It
ends at a backslash, and nothing else may follow it. -/
def readNumber (scheme : List Char) (l : List Char) : Except Flaw (Option Nat × List Char) :=
  let digits := l.takeWhile Char.isDigit
  let rest := l.dropWhile Char.isDigit
  let n := Decimal.value digits
  if 65535 < n || !(rest.isEmpty || rest.head? == some '\\') then .error .invalidNumber
  else .ok (if digits.isEmpty || some n = usualNumber? scheme then none else some n, rest)

/-- The host and the number of the text after the user part, and what belongs to the path. -/
def readPlace (scheme user l : List Char) : Except Flaw (Authority × List Char) := do
  let web := isWeb scheme
  let (name, rest) := cutHost false l
  if web && name.isEmpty then throw .emptyHost
  let host ← if web then Host.ofDomain name else Host.ofPlain name
  match rest with
  | ':' :: rest =>
    if host.isEmpty then throw .emptyHost
    let (number, rest) ← readNumber scheme rest
    return (⟨user, host.write, number⟩, rest)
  | rest =>
    if host.isEmpty && !user.isEmpty then throw .emptyHost
    return (⟨user, host.write, none⟩, rest)

/-- **The authority** of a text, and what of the text belongs to the path. `followed` holds when
something follows the text: a lone `@` is no host then. -/
def readAuthority (scheme : List Char) (followed : Bool) (l : List Char) :
    Except Flaw (Authority × List Char) :=
  match cutUser l with
  | none => readPlace scheme [] l
  | some ([], []) => if followed then .error .emptyHost else readPlace scheme [] []
  | some (before, after) => readPlace scheme (writeUser before) after

/-- A path without the empty segments in front of others. -/
def trimLeading : List (List Char) → List (List Char)
  | [] :: segment :: rest => trimLeading (segment :: rest)
  | path => path

/-- A URL on the web, from the text after its scheme. -/
def readWeb (scheme stem tail : List Char) : Except Flaw Url := do
  let l := stem.dropWhile (isSlash true)
  let way := l.dropWhile (!isSlash true ·)
  let (authority, _) ←
    readAuthority scheme (!(way ++ tail).isEmpty) (l.takeWhile (!isSlash true ·))
  return ⟨scheme, some authority, false, .segments (pathOf .web (way.drop 1)), readQuery true tail⟩

/-- The URL of a file on a host. A drive says that the file is on the machine itself. -/
def fileAt (scheme host : List Char) (trail : Trail) (tail : List Char) : Url :=
  ⟨scheme, some ⟨[], if trail.onMachine then [] else host, none⟩, false,
    .segments (trimLeading trail.segments), readQuery true tail⟩

/-- What follows a slash that a text begins with. -/
def afterSlash? (l : List Char) : Option (List Char) :=
  match l.dropWhile isIgnored with
  | c :: rest => if isSlash true c then some rest else none
  | [] => none

/-- A file, from the text after the scheme, in which tabs and line ends still stand. It may name a
host after two slashes, but the name of a drive there belongs to the path, and the machine itself
needs no name. -/
def readFile (scheme stem tail : List Char) : Except Flaw Url := do
  let here (path : List Char) : Url := fileAt scheme [] (trailOf .file path) tail
  match afterSlash? stem with
  | none => return here stem
  | some rest =>
    match afterSlash? rest with
    | none => return here rest
    | some rest =>
      let name := counted (rest.takeWhile (!isSlash true ·))
      let path := rest.dropWhile (!isSlash true ·)
      if isDrive name then return here rest
      else if name.isEmpty then return here path
      else
        let host ← Host.ofDomain name
        if host.write = "localhost".toList then return here path
        else return fileAt scheme host.write (trailOf .file (path.drop 1)) tail

/-- A URL of another scheme, from the text after the scheme. -/
def readOther (scheme stem tail : List Char) : Except Flaw Url := do
  let query := readQuery false tail
  match stem with
  | '/' :: '/' :: l =>
    let way := l.dropWhile (!isSlash false ·)
    let (authority, rest) ←
      readAuthority scheme (!(way ++ tail).isEmpty) (l.takeWhile (!isSlash false ·))
    let path := match rest ++ way with
      | [] => []
      | '/' :: path => pathOf .plain path
      | path => pathOf .plain path
    return ⟨scheme, some authority, false, .segments path, query⟩
  | '/' :: l =>
    let path := pathOf .plain l
    let guarded := match path with
      | [] :: _ :: _ => true
      | _ => false
    return ⟨scheme, none, guarded, .segments path, query⟩
  | l => return ⟨scheme, none, false, .plain (Percent.encodeText (!isRaw ·) l), query⟩

/-- **Reading a URL.** -/
def parse (s : String) : Except Flaw Url :=
  match readScheme (inner s.toList) with
  | none => .error .relative
  | some (scheme, rest) =>
    let stem := rest.takeWhile (!endsStem ·)
    let tail := counted (rest.dropWhile (!endsStem ·))
    if scheme = "file".toList then readFile scheme stem tail
    else if isWeb scheme then readWeb scheme (counted stem) tail
    else readOther scheme (counted stem) tail

/-! ## Fragments -/

/-- An octet that stands for itself in a fragment. -/
def keepsInFragment (b : UInt8) : Bool :=
  0x20 < b && b < 0x7F && !([0x22, 0x3C, 0x3E, 0x60] : List UInt8).contains b

/-- The fragment of a text as it is written in a URL, with its `#`. -/
def fragment (s : String) : List Char :=
  match (inner s.toList).dropWhile (· != '#') with
  | '#' :: rest => '#' :: Percent.encodeText keepsInFragment (counted rest)
  | _ => []

/-! ## Going down -/

/-- A path with segments put at its end. An empty segment at the end of the path gives way. -/
def descend (path segments : List (List Char)) : List (List Char) :=
  let kept := if path.getLast? = some [] ∧ 2 ≤ path.length then path.dropLast else path
  (if kept = [[]] then [] else kept) ++ segments

/-- The URL without its query and further down, if its way has segments. -/
def below? (u : Url) (segments : List (List Char)) : Option Url :=
  match u.way with
  | .segments path => some { u with way := .segments (descend path segments), query := none }
  | .plain _ => none

end Url

end LogVault
