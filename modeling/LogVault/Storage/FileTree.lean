import LogVault.Text.Utf8

/-!
# LogVault.Storage.FileTree — directories and files

A tree of directories and regular files, with the operations that a store and a command line need:
reading, writing, making directories, renaming and removing. Each either fails with one of the
system's own causes and leaves the tree alone, or does exactly one thing to it.

Paths start at the top of the tree. A `Route` is a path as it is written, with `.` and `..` and the
slashes at its end; a place in the tree is the list of names that leads there (`locate`).
-/

namespace LogVault

/-! ## Causes -/

/-- **Why a file operation fails.** -/
inductive FileError where
  | noEntry
  | alreadyThere
  | notDirectory
  | isDirectory
  | nameTooLong
  | nulInName
  deriving Repr, DecidableEq

/-- The system's sentence for a cause. -/
def FileError.message : FileError → String
  | .noEntry => "No such file or directory (os error 2)"
  | .alreadyThere => "File exists (os error 17)"
  | .notDirectory => "Not a directory (os error 20)"
  | .isDirectory => "Is a directory (os error 21)"
  | .nameTooLong => "File name too long (os error 36)"
  | .nulInName => "file name contained an unexpected NUL byte"

/-! ## Routes -/

namespace Route

/-- A piece of a path. -/
inductive Step where
  | stay
  | up
  | down (name : String)
  deriving Repr, DecidableEq

/-- The step of a piece of a path that is not empty. -/
def Step.ofName (name : List Char) : Step :=
  if name = ['.'] then .stay else if name = ['.', '.'] then .up else .down (String.ofList name)

end Route

/-- **A path as it is written.** `slashed` holds when it ends in a slash. -/
structure Route where
  steps : List Route.Step
  slashed : Bool
  deriving Repr, DecidableEq

namespace Route

/-- The longest name of an entry and the longest path, in octets. -/
def longestName : Nat := 255

@[inherit_doc longestName]
def longestPath : Nat := 4095

/-- The steps of a path. Between two slashes may be nothing, which is no step. -/
def stepsOf (s : String) : List Step :=
  ((s.toList.splitOn '/').filter (!·.isEmpty)).map Step.ofName

/-- The path that a text spells. -/
def ofText (s : String) : Except FileError Route :=
  if s.isEmpty then .error .noEntry
  else if s.toList.contains '\x00' then .error .nulInName
  else if longestPath < (Text.bytes s).length then .error .nameTooLong
  else .ok ⟨stepsOf s, s.toList.getLast? == some '/'⟩

/-- A path and a name below it, as they are written. -/
def join (path name : String) : String :=
  if path.isEmpty then name
  else if path.toList.getLast? = some '/' then path ++ name
  else path ++ "/" ++ name

end Route

/-! ## Trees -/

/-- An entry of a tree. -/
inductive Node where
  | directory
  | file (content : Bytes)
  deriving Repr, DecidableEq

/-- **A tree**, as a table from places to entries. The top is a directory without an entry. -/
structure FileTree where
  entries : List (List String × Node)
  deriving Repr, DecidableEq

namespace FileTree

/-- Only the top. -/
def empty : FileTree := ⟨[]⟩

instance : Inhabited FileTree := ⟨empty⟩

/-- What is at a place. -/
def node? (t : FileTree) (place : List String) : Option Node :=
  if place.isEmpty then some .directory else (t.entries.find? fun e => e.1 = place).map (·.2)

/-- The tree without what is at a place. -/
def erase (t : FileTree) (place : List String) : FileTree :=
  ⟨t.entries.filter fun e => e.1 ≠ place⟩

/-- The tree with an entry at a place. -/
def set (t : FileTree) (place : List String) (node : Node) : FileTree :=
  ⟨(place, node) :: (t.erase place).entries⟩

/-- A name that an entry may have. -/
def fits (name : String) : Bool := (Text.bytes name).length ≤ Route.longestName

/-- The directory one step from a directory. -/
def enter (t : FileTree) (place : List String) : Route.Step → Except FileError (List String)
  | .stay => .ok place
  | .up => .ok place.dropLast
  | .down name =>
    if fits name then
      match t.node? (place ++ [name]) with
      | some .directory => .ok (place ++ [name])
      | some (.file _) => .error .notDirectory
      | none => .error .noEntry
    else .error .nameTooLong

/-- The directory at the end of several steps. -/
def walk (t : FileTree) (place : List String) : List Route.Step → Except FileError (List String)
  | [] => .ok place
  | step :: rest =>
    match t.enter place step with
    | .ok next => t.walk next rest
    | .error e => .error e

/-- Where a path leads: to a directory by going through it, or to a name in a directory, whether or
not there is an entry of that name. -/
inductive Goal where
  | through (place : List String)
  | entry (place : List String)
  deriving Repr, DecidableEq

/-- The place of a goal. -/
def Goal.place : Goal → List String
  | .through place => place
  | .entry place => place

/-- **Where a path leads.** -/
def locate (t : FileTree) (route : Route) : Except FileError Goal :=
  match route.steps.getLast? with
  | none => .ok (.through [])
  | some last =>
    match t.walk [] route.steps.dropLast with
    | .error e => .error e
    | .ok place =>
      match last with
      | .down name => if fits name then .ok (.entry (place ++ [name])) else .error .nameTooLong
      | step => (t.enter place step).map .through

/-! ## Operations -/

/-- The path leads to a directory. -/
def isDirectory (t : FileTree) (route : Route) : Bool :=
  match t.locate route with
  | .ok (.through _) => true
  | .ok (.entry place) => t.node? place == some .directory
  | .error _ => false

/-- **Reading a file.** -/
def read (t : FileTree) (route : Route) : Except FileError Bytes :=
  match t.locate route with
  | .error e => .error e
  | .ok (.through _) => .error .isDirectory
  | .ok (.entry place) =>
    match t.node? place with
    | none => .error .noEntry
    | some .directory => .error .isDirectory
    | some (.file content) => if route.slashed then .error .notDirectory else .ok content

/-- Making one directory. -/
def makeDir (t : FileTree) (route : Route) : Except FileError FileTree :=
  match t.locate route with
  | .error e => .error e
  | .ok (.through _) => .error .alreadyThere
  | .ok (.entry place) =>
    match t.node? place with
    | some _ => .error .alreadyThere
    | none => .ok (t.set place .directory)

/-- Opening a file to write it: an empty file is there afterwards. A path with a slash at its end is
refused as that of a directory before its last name is looked at. -/
def create (t : FileTree) (route : Route) : Except FileError FileTree :=
  match t.walk [] route.steps.dropLast with
  | .error e => .error e
  | .ok _ =>
    if route.slashed then .error .isDirectory
    else match t.locate route with
      | .error e => .error e
      | .ok (.through _) => .error .isDirectory
      | .ok (.entry place) =>
        if t.node? place == some .directory then .error .isDirectory
        else .ok (t.set place (.file []))

/-- Writing the content of a file that has been opened. -/
def fill (t : FileTree) (route : Route) (content : Bytes) : Except FileError FileTree :=
  match t.locate route with
  | .error e => .error e
  | .ok (.through _) => .error .isDirectory
  | .ok (.entry place) => .ok (t.set place (.file content))

/-- **Writing a file**, in place of one that was there. -/
def write (t : FileTree) (route : Route) (content : Bytes) : Except FileError FileTree :=
  match t.create route with
  | .error e => .error e
  | .ok t => t.fill route content

/-- Giving a file another name, in place of a file that had it. -/
def rename (t : FileTree) (source target : Route) : Except FileError FileTree :=
  match t.locate source, t.locate target with
  | .error e, _ => .error e
  | _, .error e => .error e
  | .ok (.entry here), .ok (.entry there) =>
    match t.node? here with
    | none => .error .noEntry
    | some .directory => .error .notDirectory
    | some (.file content) =>
      if t.node? there = some .directory then .error .isDirectory
      else .ok ((t.erase here).set there (.file content))
  | _, _ => .error .isDirectory

/-- Removing a file. -/
def remove (t : FileTree) (route : Route) : Except FileError FileTree :=
  match t.locate route with
  | .error e => .error e
  | .ok (.through _) => .error .isDirectory
  | .ok (.entry place) =>
    match t.node? place with
    | none => .error .noEntry
    | some .directory => .error .isDirectory
    | some (.file _) => .ok (t.erase place)

/-- The outcome of making a directory where making it at once gave `first` and `above` makes the
directories above it. -/
def makeAfter (t : FileTree) (route : Route) (above : Except FileError Unit × FileTree) :
    Except FileError Unit × FileTree :=
  match t.makeDir route with
  | .ok t' => (.ok (), t')
  | .error .noEntry =>
    match above with
    | (.error e, t') => (.error e, t')
    | (.ok (), t') =>
      match t'.makeDir route with
      | .ok t'' => (.ok (), t'')
      | .error e => (if t'.isDirectory route then .ok () else .error e, t')
  | .error e => (if t.isDirectory route then .ok () else .error e, t)

/-- Making a directory and those above it, the steps given from the last to the first. -/
def makeDirsUp (t : FileTree) : List Route.Step → Except FileError Unit × FileTree
  | [] => (.ok (), t)
  | step :: above => t.makeAfter ⟨(step :: above).reverse, false⟩ (t.makeDirsUp above)

/-- The steps above a path, from the last to the first; a step that stays does not count. -/
def stepsAbove (route : Route) : List Route.Step :=
  ((route.steps.filter (· ≠ .stay)).reverse).drop 1

/-- **Making a directory and those above it**, as far as they are missing. -/
def makeDirs (t : FileTree) (route : Route) : Except FileError Unit × FileTree :=
  t.makeAfter route (t.makeDirsUp (stepsAbove route))

/-- Everything below a directory that a path leads to, with the names that lead on from there. -/
def below (t : FileTree) (route : Route) : List (List String × Node) :=
  match t.locate route with
  | .error _ => []
  | .ok goal =>
    let place := goal.place
    t.entries.filterMap fun e =>
      if place.isPrefixOf e.1 && place.length < e.1.length then some (e.1.drop place.length, e.2)
      else none

end FileTree

end LogVault
