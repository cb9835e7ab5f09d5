import LogVault.Fault
import LogVault.Text.Quoted

/-!
# LogVault.Storage.Key — where a blob lies

A blob belongs to an account, has a log key within it and may be one of several snapshots. Its
storage key spells all three as `account/key` or `account/key@snapshot`. An account has no `/`, and
neither a log key nor a snapshot has an `@`, so the first `/` ends the account and the first `@`
after it ends the log key: no two blobs share a storage key.

`Flaw` lists what can be wrong with the three parts; `StorageKey.build` reports the first flaw, of
the account first, then of the log key, then of the snapshot.
-/

namespace LogVault

/-- **The place of a blob** in a store. -/
structure StorageKey where
  text : String
  deriving Repr, DecidableEq, Inhabited

namespace StorageKey

/-! ## Flaws -/

/-- What is wrong with an account, a log key or a snapshot. -/
inductive Flaw where
  | accountEmpty
  | accountSeparator
  | accountDots
  | accountControl
  | keyEmpty
  | keyMarker
  | keyBackslashOrControl
  | keyEmptySegment
  | keyDotSegment
  | snapshotEmpty
  | snapshotSeparator
  | snapshotInvalid (snapshot : String)
  deriving Repr, DecidableEq

/-- The sentence for a flaw. -/
def Flaw.message : Flaw → String
  | .accountEmpty => "accountID must not be empty"
  | .accountSeparator => "accountID must not contain '/'"
  | .accountDots => "accountID must not be '.' or '..'"
  | .accountControl => "accountID must not contain control characters"
  | .keyEmpty => "key must not be empty"
  | .keyMarker => "key must not contain '@'"
  | .keyBackslashOrControl => "key must not contain backslashes or control characters"
  | .keyEmptySegment => "key must not start or end with '/' or contain empty segments"
  | .keyDotSegment => "key must not contain '.' or '..' segments"
  | .snapshotEmpty => "snapshot must not be empty"
  | .snapshotSeparator => "snapshot must not contain '/' or '@'"
  | .snapshotInvalid snapshot => "invalid snapshot name: " ++ Text.quoted snapshot

/-- The fault for a flaw. -/
def Flaw.fault (f : Flaw) : Fault := .invalidArgument f.message

/-! ## The parts -/

/-- The names that a directory has for itself and for its parent. -/
def isDots (l : List Char) : Bool := l == ['.'] || l == ['.', '.']

/-- A control character, of ASCII or of the block after it. -/
def isControl (c : Char) : Bool := c.toNat < 0x20 || (0x7F ≤ c.toNat && c.toNat < 0xA0)

/-- The first flaw of an account. -/
def accountFlaw? (account : List Char) : Option Flaw :=
  if account.isEmpty then some .accountEmpty
  else if account.contains '/' then some .accountSeparator
  else if isDots account then some .accountDots
  else if account.any isControl then some .accountControl
  else none

/-- The flaw of one of the segments of a log key. -/
def segmentFlaw? (segment : List Char) : Option Flaw :=
  if segment.isEmpty then some .keyEmptySegment
  else if isDots segment then some .keyDotSegment
  else none

/-- The first flaw of a log key. -/
def keyFlaw? (key : List Char) : Option Flaw :=
  if key.isEmpty then some .keyEmpty
  else if key.contains '@' then some .keyMarker
  else if key.contains '\\' || key.any isControl then some .keyBackslashOrControl
  else (key.splitOn '/').findSome? segmentFlaw?

/-- The first flaw of a snapshot. -/
def snapshotFlaw? (snapshot : List Char) : Option Flaw :=
  if snapshot.isEmpty then some .snapshotEmpty
  else if snapshot.contains '/' || snapshot.contains '@' then some .snapshotSeparator
  else if isDots snapshot || snapshot.contains '\\' || snapshot.any isControl then
    some (.snapshotInvalid (String.ofList snapshot))
  else none

/-! ## Building and splitting -/

/-- The spelling of three parts. -/
def spell (account key : List Char) : Option (List Char) → List Char
  | none => account ++ '/' :: key
  | some snapshot => account ++ '/' :: key ++ '@' :: snapshot

/-- The first flaw of three parts. -/
def flaw? (account key : List Char) (snapshot : Option (List Char)) : Option Flaw :=
  (accountFlaw? account).or ((keyFlaw? key).or (snapshot.bind snapshotFlaw?))

/-- **The storage key** of an account, a log key and perhaps a snapshot. -/
def build (account key : String) (snapshot : Option String) : Except Flaw StorageKey :=
  match flaw? account.toList key.toList (snapshot.map String.toList) with
  | some flaw => .error flaw
  | none => .ok ⟨String.ofList (spell account.toList key.toList (snapshot.map String.toList))⟩

/-- The account, the log key and the snapshot that a storage key spells: cut at the first `/`, and
what follows at its first `@`. -/
def split (key : StorageKey) : String × String × Option String :=
  let l := key.text.toList
  let rest := (l.dropWhile (· != '/')).drop 1
  (String.ofList (l.takeWhile (· != '/')), String.ofList (rest.takeWhile (· != '@')),
    match rest.dropWhile (· != '@') with
    | [] => none
    | _ :: snapshot => some (String.ofList snapshot))

end StorageKey

end LogVault
