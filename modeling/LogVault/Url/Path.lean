import LogVault.Text.Percent

/-!
# LogVault.Url.Path — the way to a resource

A path is a list of segments. While a path is read, a segment `.` is dropped and a segment `..` takes
the one before it away, and either leaves an empty segment behind when it is the last one. Tabs and
line ends do not count.

A segment that looks like the name of a drive is never taken away. As the first segment of a file's
path it is written with a colon, and says that the file is on the machine itself; if a tab or a line
end stands right behind its colon, what follows there is a segment of its own, even if it is `..`.
-/

namespace LogVault.Url

/-- Octets that stand for themselves in a path. -/
def keepsInPath (b : UInt8) : Bool :=
  0x20 < b && b < 0x7F && !([0x22, 0x23, 0x3C, 0x3E, 0x3F, 0x60, 0x7B, 0x7D] : List UInt8).contains b

/-- A segment with the characters that a path cannot hold escaped. -/
def encodeSegment (l : List Char) : List Char := Percent.encodeText keepsInPath l

/-- What a segment does to the path before it. -/
inductive Step where
  | stay
  | up
  | down (segment : List Char)
  deriving Repr, DecidableEq

/-- A segment in which an escaped point is a point. -/
def plainPoints : List Char → List Char
  | '%' :: '2' :: e :: rest =>
    if e = 'e' ∨ e = 'E' then '.' :: plainPoints rest else '%' :: '2' :: e :: rest
  | '.' :: rest => '.' :: plainPoints rest
  | l => l

/-- The step of a segment. -/
def Step.ofSegment (segment : List Char) : Step :=
  if plainPoints segment = ['.'] then .stay
  else if plainPoints segment = ['.', '.'] then .up
  else .down segment

/-- The name of a drive: a letter and a colon or a bar. -/
def isDrive (segment : List Char) : Bool :=
  match segment with
  | [c, d] => c.isAlpha && (d == ':' || d == '|')
  | _ => false

/-- The name of a drive, with nothing or a backslash after it. -/
def startsWithDrive (segment : List Char) : Bool :=
  isDrive (segment.take 2) && (segment.length == 2 || segment[2]? == some '\\')

/-- **The rules for a path**: those of files, of the other schemes of the web, or of any scheme. -/
inductive Rules where
  | file
  | web
  | plain
  deriving Repr, DecidableEq

/-- A backslash is a slash. -/
def Rules.takesBackslash : Rules → Bool
  | .plain => false
  | _ => true

/-- A tab or line end, which does not count anywhere in a URL. -/
def isIgnored (c : Char) : Bool := c == '\t' || c == '\n' || c == '\r'

/-- A text without the characters that do not count. -/
def counted (l : List Char) : List Char := l.filter (!isIgnored ·)

/-- A text that goes on behind characters that do not count. -/
def afterGap? (l : List Char) : Option (List Char) :=
  match l with
  | c :: rest => if isIgnored c && !(counted rest).isEmpty then some (counted rest) else none
  | [] => none

/-- A drive with a gap right behind it, and the text behind the gap. -/
def cutDrive? (l : List Char) : Option (List Char × List Char) :=
  match l.dropWhile isIgnored with
  | letter :: rest =>
    match rest.dropWhile isIgnored with
    | ':' :: rest =>
      if letter.isAlpha then (afterGap? rest).map fun text => ([letter, ':'], text) else none
    | _ => none
  | [] => none

/-- **A path while it is read.** `onMachine` holds once its first segment was a drive. -/
structure Trail where
  segments : List (List Char)
  onMachine : Bool
  deriving Repr, DecidableEq

namespace Trail

/-- Nothing has been read. -/
def start : Trail := ⟨[], false⟩

/-- The trail with one more segment. -/
def push (t : Trail) (segment : List Char) : Trail := { t with segments := t.segments ++ [segment] }

/-- The trail without its last segment, unless that is a drive. -/
def parent (t : Trail) : Trail :=
  if t.segments.getLast?.any startsWithDrive then t
  else { t with segments := t.segments.dropLast }

/-- The drive of a segment with a colon in place of a bar. -/
def driveWithColon (segment : List Char) : List Char := segment.take 1 ++ [':']

/-- The trail with one more segment, which names a drive if it comes first in a file's path. -/
def append (rules : Rules) (t : Trail) (segment : List Char) : Trail :=
  if rules = .file ∧ t.segments = [] ∧ isDrive segment then ⟨[driveWithColon segment], true⟩
  else t.push segment

/-- The trail after a text between slashes, which `last` says is the last one. -/
def step (rules : Rules) (t : Trail) (last : Bool) (text : List Char) : Trail :=
  match if rules = .file ∧ t.segments = [] then cutDrive? text else none with
  | some (drive, rest) => (t.push drive).push (encodeSegment rest)
  | none =>
    match Step.ofSegment (encodeSegment (counted text)) with
    | .stay => if last then t.push [] else t
    | .up => if last then t.parent.push [] else t.parent
    | .down segment => t.append rules segment

/-- **The trail** after further texts between slashes. -/
def follow (rules : Rules) (t : Trail) : List (List Char) → Trail
  | [] => t
  | text :: rest => follow rules (t.step rules rest.isEmpty text) rest

end Trail

/-- The texts between the slashes of a text. -/
def cutSlashes (rules : Rules) (l : List Char) : List (List Char) :=
  (l.map fun c => if rules.takesBackslash && c = '\\' then '/' else c).splitOn '/'

/-- **The trail** of a text after its first slash. -/
def trailOf (rules : Rules) (l : List Char) : Trail := Trail.start.follow rules (cutSlashes rules l)

/-- The path of a text after its first slash. -/
def pathOf (rules : Rules) (l : List Char) : List (List Char) := (trailOf rules l).segments

/-- A path as written. -/
def writePath (path : List (List Char)) : List Char := path.flatMap ('/' :: ·)

end LogVault.Url
