import LogVault.Command.Basic
import LogVault.Text.Decimal

/-!
# LogVault.Command.Arguments — arguments as a command

Arguments are words. A word that starts with two dashes is a long option, perhaps with a value after
`=`; one that starts with one dash is a short one, perhaps with a value at once; `--` alone ends the
options; every other word is the value that an option waits for, or else an argument of its own.

A value given as a word of its own counts only when the next option or argument comes, or at the end.
A word that is no option of the command, and an argument too many, are reported before a mistake in
that value; a mistake in a further option is reported after it. No option can be given twice.
-/

namespace LogVault

namespace Arguments

/-! ## Words -/

/-- **How a word reads.** -/
inductive Word where
  | dashes
  | long (name : String) (value : Option String)
  | short (letter : Char) (rest : List Char)
  | plain (text : String)
  deriving Repr, DecidableEq

/-- The reading of a word before `--`. -/
def Word.of (s : String) : Word :=
  match s.toList with
  | ['-', '-'] => .dashes
  | '-' :: '-' :: rest =>
    .long (String.ofList (rest.takeWhile (· != '=')))
      (match rest.dropWhile (· != '=') with
        | [] => none
        | _ :: value => some (String.ofList value))
  | '-' :: letter :: rest => .short letter rest
  | _ => .plain s

/-- The value at once after a short option: none if nothing follows, and an `=` in front of it does
not count. -/
def attached : List Char → Option String
  | [] => none
  | '=' :: value => some (String.ofList value)
  | value => some (String.ofList value)

/-! ## Commands about a blob -/

/-- **The four commands about a blob**, by name. -/
inductive Verb where
  | download
  | downloadLink
  | upload
  | uploadLink
  deriving Repr, DecidableEq

/-- The verb of a word. -/
def Verb.ofWord? (s : String) : Option Verb :=
  match s with
  | "download" => some .download
  | "download-link" => some .downloadLink
  | "upload" => some .upload
  | "upload-link" => some .uploadLink
  | _ => none

/-- An option with a value: the snapshot, or the one that belongs to the verb. -/
inductive Slot where
  | snapshot
  | own
  deriving Repr, DecidableEq

/-- The long name of a verb's own option. -/
def Verb.ownName : Verb → String
  | .download => "output"
  | .upload => "file"
  | _ => "ttl-secs"

/-- The letter of a verb's own option, if it has one. -/
def Verb.ownLetter? : Verb → Option Char
  | .download => some 'o'
  | .upload => some 'f'
  | _ => none

/-- The option of a long name. -/
def Verb.slot? (v : Verb) (name : String) : Option Slot :=
  if name = "snapshot" then some .snapshot else if name = v.ownName then some .own else none

/-- The value of a verb's own option: a path that is not empty, or a number of seconds. -/
inductive OwnValue where
  | path (text : String)
  | seconds (n : Nat)
  deriving Repr, DecidableEq

/-- The own value of a text. -/
def Verb.readOwn (v : Verb) (text : String) : Except Usage OwnValue :=
  match v with
  | .download | .upload => if text.isEmpty then .error .invalidValue else .ok (.path text)
  | .downloadLink | .uploadLink =>
    match Decimal.readNat 0xFFFFFFFFFFFFFFFF text.toList with
    | .ok n => .ok (.seconds n)
    | .error _ => .error .valueValidation

/-- What has been read: the arguments and options that count, an option of which the value has not
been counted yet, whether the next word is that value, and whether `--` has come. -/
structure Reading where
  account : Option String
  key : Option String
  snapshot : Option String
  own : Option OwnValue
  pending : Option (Slot × Option String)
  waiting : Bool
  ended : Bool
  deriving Repr, DecidableEq

namespace Reading

/-- Nothing has been read. -/
def start : Reading := ⟨none, none, none, none, none, false, false⟩

/-- An option counts with a value. -/
def give (v : Verb) (r : Reading) (slot : Slot) (value : Option String) : Except Usage Reading :=
  match value with
  | none => .error .invalidValue
  | some text =>
    match slot with
    | .snapshot =>
      if r.snapshot.isSome then .error .conflict else .ok { r with snapshot := some text }
    | .own =>
      if r.own.isSome then .error .conflict
      else (v.readOwn text).map fun own => { r with own := some own }

/-- The option that has not been counted yet counts. -/
def settle (v : Verb) (r : Reading) : Except Usage Reading :=
  match r.pending with
  | none => .ok r
  | some (slot, value) => give v { r with pending := none, waiting := false } slot value

/-- An option came, with a value at once or with a word to wait for. -/
def option (v : Verb) (r : Reading) (slot : Slot) (value : Option String) :
    Except Usage Reading := do
  let r ← settle v r
  match value with
  | some text => give v r slot (some text)
  | none => return { r with pending := some (slot, none), waiting := true }

/-- The option that asks for help came. -/
def askHelp (v : Verb) (r : Reading) : Except Usage Reading := do
  let _ ← settle v r
  throw .help

/-- An argument of its own came. -/
def argument (v : Verb) (r : Reading) (text : String) : Except Usage Reading :=
  if r.key.isSome then .error .unknownArgument
  else (settle v r).map fun r =>
    if r.account.isSome then { r with key := some text } else { r with account := some text }

/-- A word came. -/
def word (v : Verb) (r : Reading) (text : String) : Except Usage Reading :=
  if r.ended then r.argument v text
  else match Word.of text with
    | .dashes => .ok { r with ended := true }
    | .long name value =>
      if name = "help" then if value.isSome then .error .tooManyValues else r.askHelp v
      else match v.slot? name with
        | some slot => r.option v slot value
        | none => .error .unknownArgument
    | .short letter rest =>
      if letter = 'h' then r.askHelp v
      else if v.ownLetter? = some letter then r.option v .own (attached rest)
      else .error .unknownArgument
    | .plain text =>
      if r.waiting then
        .ok { r with pending := r.pending.map fun p => (p.1, some text), waiting := false }
      else r.argument v text

/-- All words came. -/
def words (v : Verb) (r : Reading) : List String → Except Usage Reading
  | [] => r.settle v
  | text :: rest =>
    match r.word v text with
    | .ok r => r.words v rest
    | .error e => .error e

/-- The path of an own value. -/
def path? (r : Reading) : Option String :=
  match r.own with
  | some (.path text) => some text
  | _ => none

/-- The seconds of an own value. -/
def seconds? (r : Reading) : Option Nat :=
  match r.own with
  | some (.seconds n) => some n
  | _ => none

/-- The snapshot as it was given, which may be empty. -/
def blob? (r : Reading) : Option BlobRef := do return ⟨← r.account, ← r.key, r.snapshot⟩

end Reading

/-- The command of a verb and the words after it. -/
def readVerb (v : Verb) (words : List String) : Except Usage StoreCommand :=
  match Reading.start.words v words with
  | .error e => .error e
  | .ok r =>
    match r.blob? with
    | none => .error .missingRequired
    | some blob =>
      match v with
      | .download => .ok (.download blob r.path?)
      | .downloadLink => .ok (.downloadLink blob r.seconds?)
      | .upload => .ok (.upload blob r.path?)
      | .uploadLink => .ok (.uploadLink blob r.seconds?)

/-! ## Groups of commands -/

/-- A group of commands: the names it knows, help among them, and the letters of what it shows. -/
structure Group where
  names : List String
  shows : List (Char × String × Usage)

/-- What a group of commands says to a word that is none of its names. -/
def Group.refuse (g : Group) (text : String) (rest : List String) : Usage :=
  match Word.of text with
  | .dashes =>
    match rest with
    | [] => .helpForMissing
    | next :: _ => if g.names.contains next then .unknownArgument else .invalidSubcommand
  | .long name value =>
    match g.shows.find? fun s => s.2.1 = name with
    | some s => if value.isSome then .tooManyValues else s.2.2
    | none => .unknownArgument
  | .short letter _ =>
    match g.shows.find? fun s => s.1 = letter with
    | some s => s.2.2
    | none => .unknownArgument
  | .plain _ => .invalidSubcommand

/-- All commands. -/
def topGroup : Group :=
  ⟨["server", "store", "help"], [('h', "help", .help), ('V', "version", .version)]⟩

/-- The commands about a blob. -/
def storeGroup : Group :=
  ⟨["download", "download-link", "upload", "upload-link", "help"], [('h', "help", .help)]⟩

/-- What `help` says, which may be followed by the names of a command. -/
def helpFor : List String → Usage
  | [] => .help
  | [name] => if topGroup.names.contains name then .help else .invalidSubcommand
  | ["store", name] => if storeGroup.names.contains name then .help else .invalidSubcommand
  | _ => .invalidSubcommand

/-- What the server command says to the words after it. -/
def readServer : List String → Except Usage Command
  | [] => .ok .server
  | text :: rest =>
    match Word.of text with
    | .dashes => if rest.isEmpty then .ok .server else .error .unknownArgument
    | .long name value =>
      if name = "help" then .error (if value.isSome then .tooManyValues else .help)
      else .error .unknownArgument
    | .short letter _ => .error (if letter = 'h' then .help else .unknownArgument)
    | .plain _ => .error .unknownArgument

/-- The command about a blob that words spell. -/
def readStore : List String → Except Usage Command
  | [] => .error .helpForMissing
  | text :: rest =>
    match Verb.ofWord? text with
    | some v => (readVerb v rest).map .store
    | none => .error (if text = "help" then helpFor ("store" :: rest) else storeGroup.refuse text rest)

/-- **The command** that arguments spell. -/
def read : List String → Except Usage Command
  | [] => .error .helpForMissing
  | "server" :: rest => readServer rest
  | "store" :: rest => readStore rest
  | "help" :: rest => .error (helpFor rest)
  | text :: rest => .error (topGroup.refuse text rest)

end Arguments

end LogVault
