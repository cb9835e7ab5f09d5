import LogVault.Settings.Basic
import LogVault.Text.Alphanumeric
import LogVault.Text.Utf8

/-!
# LogVault.Settings.File — variables from a file

Variables may stand in a file, one `NAME=value` a line. A value may be quoted, and then go on over
line ends: between single quotes everything is itself, between double quotes and outside a backslash
escapes and `$NAME` or `${NAME}` stands for a variable, a name without braces being as long as letters
and numbers of any script follow. A `#` after a blank starts a comment.

A variable that is set already keeps its text. The file is read up to its first line that cannot be
read; what came before stays set.
-/

namespace LogVault.Settings.File

/-! ## Lines -/

/-- Where a reader of lines is: between words, after a blank, after a backslash, in a comment, or
inside one of the two kinds of quotes. -/
inductive Place where
  | word
  | blank
  | escape
  | comment
  | single
  | singleEscape
  | double
  | doubleEscape
  deriving Repr, DecidableEq

/-- The place after a character, in a line without a comment so far. -/
def Place.next (p : Place) (c : Char) : Place :=
  match p with
  | .single => if c = '\\' then .singleEscape else if c = '\'' then .word else .single
  | .singleEscape => .single
  | .double => if c = '\\' then .doubleEscape else if c = '"' then .word else .double
  | .doubleEscape => .double
  | .escape => .word
  | .comment => .comment
  | .word =>
    if Text.isBlank c && c != '\n' && c != '\r' then .blank
    else if c = '\\' then .escape
    else if c = '"' then .double
    else if c = '\'' then .single
    else .word
  | .blank =>
    if c = '#' then .comment
    else if c = '\\' then .escape
    else if c = '"' then .double
    else if c = '\'' then .single
    else .word

/-- The place after a line, and the line up to a comment. -/
def scan (p : Place) : List Char → Place × List Char
  | [] => (p, [])
  | c :: rest =>
    let p' := p.next c
    if p' = .comment then (.comment, [])
    else
      let (q, kept) := scan p' rest
      (q, c :: kept)

/-- A line without its end. -/
def withoutEnd (l : List Char) : List Char :=
  match l.reverse with
  | '\n' :: '\r' :: rest => rest.reverse
  | '\n' :: rest => rest.reverse
  | _ => l

/-- Lines joined where a quote or a backslash keeps one open; `none` stands for what cannot be read,
and `held` is what has been held back so far. -/
def join (held : List Char) (p : Place) : List (Option (List Char)) → List (Option (List Char))
  | [] => if p = .word then [] else [none]
  | none :: _ => [none]
  | some line :: rest =>
    let all := held ++ line
    if (all.dropWhile Text.isBlank).head? = some '#' then some [] :: join [] .word rest
    else match scan p line with
      | (.word, _) => some (withoutEnd all) :: join [] .word rest
      | (.comment, kept) => some (held ++ kept) :: join [] .word rest
      | (q, _) => join all q rest

/-- The octets of the lines of a file, each with its end. -/
def cutLines (current : Bytes) : Bytes → List Bytes
  | [] => if current.isEmpty then [] else [current.reverse]
  | b :: rest =>
    if b = 0x0A then (b :: current).reverse :: cutLines [] rest else cutLines (b :: current) rest

/-- A file without the mark of its encoding. -/
def withoutMark : Bytes → Bytes
  | 0xEF :: 0xBB :: 0xBF :: rest => rest
  | l => l

/-- The lines of a file. -/
def lines (file : Bytes) : List (Option (List Char)) :=
  join [] .word ((cutLines [] (withoutMark file)).map Utf8.decode?)

/-! ## Values -/

/-- Where a reader of a value is: in plain text, after a backslash, inside single quotes, in the name
of a variable without or with braces, or after the value. -/
inductive Spot where
  | plain
  | escaped
  | single
  | name (n : List Char)
  | braced (n : List Char)
  | ended
  deriving Repr, DecidableEq

/-- The text of a value, `look` giving the text of a variable; `double` holds inside double quotes. -/
def readValue (look : List Char → List Char) (double : Bool) (spot : Spot) :
    List Char → Option (List Char)
  | [] =>
    match spot with
    | .plain => if double then none else some []
    | .escaped => if double then none else some []
    | .single => none
    | .name n => if double then none else some (look n)
    | .braced _ => none
    | .ended => some []
  | c :: rest =>
    match spot with
    | .ended =>
      if c = ' ' ∨ c = '\t' then readValue look double .ended rest
      else if c = '#' then some []
      else none
    | .escaped =>
      if ['\\', '\'', '"', '$', ' '].contains c then (readValue look double .plain rest).map (c :: ·)
      else if c = 'n' then (readValue look double .plain rest).map ('\n' :: ·)
      else none
    | .single =>
      if c = '\'' then readValue look double .plain rest
      else (readValue look double .single rest).map (c :: ·)
    | .name n =>
      if Text.isAlphanumeric c then readValue look double (.name (n ++ [c])) rest
      else if c = '\x7b' && n.isEmpty then readValue look double (.braced []) rest
      else if c = '$' then (readValue look double (.name []) rest).map (look n ++ ·)
      else (readValue look double .plain rest).map fun r => look n ++ c :: r
    | .braced n =>
      if c = '\x7d' then (readValue look double .plain rest).map (look n ++ ·)
      else readValue look double (.braced (n ++ [c])) rest
    | .plain =>
      if c = '$' then readValue look double (.name []) rest
      else if c = '\\' then readValue look double .escaped rest
      else if double then
        if c = '"' then readValue look false .plain rest
        else (readValue look true .plain rest).map (c :: ·)
      else if c = '\'' then readValue look false .single rest
      else if c = '"' then readValue look true .plain rest
      else if c = ' ' ∨ c = '\t' then readValue look false .ended rest
      else (readValue look false .plain rest).map (c :: ·)

/-! ## Assignments -/

/-- A character of a name after its first. -/
def isNameChar (c : Char) : Bool := c.isAlphanum || c == '_' || c == '.'

/-- A name at the front, and what follows it and blanks. -/
def readName (l : List Char) : Option (List Char × List Char) :=
  match l with
  | c :: _ =>
    if c.isAlpha || c == '_' then
      some (l.takeWhile isNameChar, (l.dropWhile isNameChar).dropWhile Text.isBlank)
    else none
  | [] => none

/-- The name that a line assigns to, and the value as it stands there. The word `export` may come
first. -/
def readAssignment (l : List Char) : Option (List Char × List Char) := do
  let (name, rest) ← readName l
  match rest with
  | '=' :: rest => return (name, rest.dropWhile Text.isBlank)
  | _ =>
    if name ≠ "export".toList then none
    let (name, rest) ← readName rest
    match rest with
    | '=' :: rest => return (name, rest.dropWhile Text.isBlank)
    | _ => none

/-- Variables by name, the first entry of a name counting. -/
abbrev Table := List (String × String)

/-- The text of a variable in a table. -/
def Table.get? (t : Table) (name : String) : Option String :=
  (t.find? fun e => e.1 = name).map (·.2)

/-- What the lines read so far have set: the variables, and what they said themselves. -/
structure State where
  table : Table
  said : Table

/-- The text that stands for a variable in a value: as it is set, or else as the file said. -/
def State.look (s : State) (name : List Char) : List Char :=
  let name := String.ofList name
  (((s.table.get? name).or (s.said.get? name)).getD "").toList

/-- The state after an assignment. -/
def State.assign (s : State) (name value : String) : State :=
  { table := if (s.table.get? name).isSome then s.table else s.table ++ [(name, value)]
    said := (name, value) :: s.said }

/-- The state after a line, if the line can be read. -/
def State.readLine (s : State) (line : List Char) : Option State := do
  let line := (Text.dropTrailing Text.isBlank line).dropWhile Text.isBlank
  match line with
  | [] => return s
  | '#' :: _ => return s
  | _ =>
    let (name, value) ← readAssignment line
    match value with
    | [] => return s.assign (String.ofList name) ""
    | '#' :: _ => return s.assign (String.ofList name) ""
    | _ =>
      let text ← readValue s.look false .plain value
      return s.assign (String.ofList name) (String.ofList text)

/-- The state after lines, up to the first that cannot be read. -/
def State.readLines (s : State) : List (Option (List Char)) → State
  | [] => s
  | none :: _ => s
  | some line :: rest =>
    match s.readLine line with
    | some t => t.readLines rest
    | none => s

/-- **The variables** that are set after a file has been read where `table` was set before. -/
def load (table : Table) (file : Bytes) : Table := (State.readLines ⟨table, []⟩ (lines file)).table

end LogVault.Settings.File
