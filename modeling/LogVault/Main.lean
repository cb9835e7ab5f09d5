import LogVault.Command.Arguments
import LogVault.Command.Execute
import LogVault.Settings.File
import Std.Time.DateTime.Timestamp

/-!
# LogVault.Main — the command line

The program reads its arguments, its settings and the clock, lets `Launch.run` say what comes of them,
and makes it so. A process touches few files, and which ones is known before it runs: the blob of the
command and the file it is copied from or to (`Errand`). What the system has at those places is put
into a tree, and where the tree is another one afterwards the difference is written back.

There is no network here: the server command ends with a sentence, and an `s3` store is out of reach.
-/

namespace LogVault

/-! ## Sentences -/

/-- How to call the program. -/
def Usage.summary : String := "Usage: logstore server\n" ++
  "       logstore store download      ACCOUNT_ID KEY [--snapshot NAME] [-o, --output FILE]\n" ++
  "       logstore store download-link ACCOUNT_ID KEY [--snapshot NAME] [--ttl-secs SECONDS]\n" ++
  "       logstore store upload        ACCOUNT_ID KEY [--snapshot NAME] [-f, --file FILE]\n" ++
  "       logstore store upload-link   ACCOUNT_ID KEY [--snapshot NAME] [--ttl-secs SECONDS]"

/-- What the program says to arguments that are no command. -/
def Usage.sentence : Usage → String
  | .unknownArgument => "error: unexpected argument found"
  | .invalidSubcommand => "error: unrecognized subcommand"
  | .missingRequired => "error: the account or the key was not provided"
  | .invalidValue => "error: an option needs a value"
  | .valueValidation => "error: a number of seconds was expected"
  | .conflict => "error: an option cannot be used multiple times"
  | .tooManyValues => "error: an unexpected value was found"
  | .help | .helpForMissing => summary
  | .version => "logstore 0.1.0"

/-- Arguments that ask for a sentence, and get what they asked for. -/
def Usage.isWanted : Usage → Bool
  | .help | .version => true
  | _ => false

/-- An event as a line. -/
def Event.line (e : Event) : String :=
  let about := match e.operation?, e.phase? with
    | some operation, some phase => " op=" ++ operation.name ++ " phase=" ++ phase.name
    | _, _ => ""
  e.level.name ++ " " ++ e.message ++ about

/-! ## Files -/

/-- **The files that a process touches**: those of which it needs the content, those that it only
needs to know about, and the one that it writes in place. -/
structure Errand where
  contents : List String
  places : List String
  output : Option String

namespace Errand

/-- The path of the blob of a command, if blobs are files. -/
def blobPath? (s : StorageSettings) (blob : BlobRef) : Option String :=
  if s.provider = "filesystem" then
    match (StoreCommand.named blob).resolve with
    | .ok key => some (Directory.blobPath s.path key)
    | .error _ => none
  else none

/-- The errand of a command. -/
def of (s : StorageSettings) : Command → Errand
  | .store (.download blob output) => ⟨(blobPath? s blob).toList, s.path :: output.toList, output⟩
  | .store (.upload blob file) => ⟨file.toList, s.path :: (blobPath? s blob).toList, none⟩
  | _ => ⟨[], [s.path], none⟩

end Errand

/-- A command with its files named from the top of the file system. -/
def Command.fromTop (top : String → String) : Command → Command
  | .store (.download blob output) => .store (.download blob (output.map top))
  | .store (.upload blob file) => .store (.upload blob (file.map top))
  | command => command

/-- Settings with their directory named from the top of the file system. -/
def Settings.fromTop (top : String → String) (s : Settings) : Settings :=
  { s with storage := { s.storage with path := top s.storage.path } }

/-- The paths that lead to a path, and the path itself. -/
def pathsTo (passed : List Char) : List Char → List String
  | [] => [String.ofList passed.reverse]
  | '/' :: rest => String.ofList passed.reverse :: pathsTo ('/' :: passed) rest
  | c :: rest => pathsTo (c :: passed) rest

/-- The entries of a tree that another one has not, those of directories before what is in them. -/
def FileTree.since (after before : FileTree) : List (List String × Node) :=
  (after.entries.filter fun e => before.node? e.1 ≠ some e.2).mergeSort
    fun a b => a.1.length ≤ b.1.length

/-- The names of the variables of settings. -/
def Settings.names : List String :=
  ["PORT", "HOST", "MAX_UPLOAD_BYTES", "STORAGE_PROVIDER", "STORAGE_PATH", "S3_BUCKET", "S3_REGION",
    "AWS_ACCESS_KEY_ID", "AWS_SECRET_ACCESS_KEY", "S3_ENDPOINT", "LINK_SECRET", "LINK_TTL_SECS",
    "LINK_MAX_TTL_SECS", "PUBLIC_URL"]

/-- The path of a place. -/
def placePath (place : List String) : String := "/" ++ "/".intercalate place

/-- The words of a file that may be names of variables. -/
def wordsOf (file : Bytes) : List String :=
  ((Utf8.textLossy file).toList.splitOnP fun c => !Settings.File.isNameChar c).map String.ofList

namespace Console

/-- What the system has at a path and on the way to it, added to a tree. -/
def survey (wantsContent : Bool) (tree : FileTree) (path : String) : IO FileTree := do
  let here ← IO.currentDir
  let mut tree := tree
  for step in pathsTo [] path.toList do
    if !step.isEmpty then
      let place := here / step
      if ← place.isDir then
        tree := (Directory.makeDirs tree step).2
      else if ← place.pathExists then
        if step ≠ path then
          tree := (Directory.onPath step fun r => tree.write r []).toOption.getD tree
        else if wantsContent then
          let content ← IO.FS.readBinFile place
          tree := (Directory.onPath step fun r => tree.write r content.toList).toOption.getD tree
  return tree

/-- Writing a file: in place, or else beside its place, from where it is moved once it is complete. -/
def save (inPlace : Bool) (path : String) (content : Bytes) : IO Unit := do
  let data := ByteArray.mk content.toArray
  if inPlace then
    IO.FS.writeBinFile path data
  else
    let scratch := path ++ "." ++ Hex.text (← IO.getRandomBytes 16).toList ++ ".tmp"
    IO.FS.writeBinFile scratch data
    IO.FS.rename scratch path

/-- Making the system have what the tree `after` has, where `before` has not. -/
def store (errand : Errand) (before after : FileTree) : IO Unit := do
  let output := errand.output.bind fun path => (Directory.onPath path after.locate).toOption
  for (place, node) in after.since before do
    match node with
    | .directory => IO.FS.createDirAll (placePath place)
    | .file content => save (output.map (·.place) = some place) (placePath place) content

/-- The file of variables in a directory or in the nearest one above it that has one. -/
def variablesFile (directory : String) : IO Bytes := do
  for step in (pathsTo [] directory.toList).reverse do
    let content? ← try pure (some (← IO.FS.readBinFile (step ++ "/.env"))) catch _ => pure none
    if let some content := content? then
      return content.toList
  return []

/-- The variables of the process that settings or a file of variables speak of. -/
def environment (file : Bytes) : IO Settings.File.Table := do
  let mut table : Settings.File.Table := []
  for name in Settings.names ++ wordsOf file do
    if let some text ← IO.getEnv name then
      table := table ++ [(name, text)]
  return table

/-- The clock. -/
def now : IO Instant := do
  let stamp ← Std.Time.Timestamp.now
  return (Instant.ofNanos? stamp.toNanosecondsSinceUnixEpoch.val).getD default

/-- Everything that a stream holds, after `passed`. -/
partial def readAll (stream : IO.FS.Stream) (passed : ByteArray) : IO ByteArray := do
  let piece ← stream.read 65536
  if piece.isEmpty then return passed else readAll stream (passed ++ piece)

/-- Standard input, or what the system says when it cannot be read. -/
def readInput : IO (Except String Bytes) := do
  try
    return .ok (← readAll (← IO.getStdin) .empty).toList
  catch e =>
    return .error (toString e)

/-- Saying how a process ended. -/
def conclude : Ending → IO UInt32
  | .report r => do
    let output ← IO.getStdout
    output.write ⟨r.output.toArray⟩
    output.flush
    let errors ← IO.getStderr
    errors.write ⟨r.errors.toArray⟩
    return if r.success then 0 else 1
  | .refused message => do
    IO.eprintln ("Error: " ++ message)
    return 1
  | .serving address => do
    IO.eprintln ("Error: cannot listen on " ++ address)
    return 1

/-- One command. -/
def perform (command : Command) : IO UInt32 := do
  let here := (← IO.currentDir).toString
  let file ← variablesFile here
  let table := Settings.File.load (← environment file) file
  match Settings.ofVariables table.get? with
  | .error flaw => conclude (.refused flaw.message)
  | .ok settings =>
    let top (path : String) : String :=
      if path.startsWith "/" then path else here ++ "/" ++ path
    let settings := settings.fromTop top
    let command := command.fromTop top
    let errand := Errand.of settings.storage command
    let before ← errand.places.foldlM (survey false) FileTree.empty
    let before ← errand.contents.foldlM (survey true) before
    let input ← match command with
      | .store (.upload _ none) => readInput
      | _ => pure (.ok [])
    let spare := (← IO.getRandomBytes 32).toList
    let world : World := { World.empty with disk := { Disk.empty with files := before } }
    let (ending, after, events) :=
      Launch.run settings spare input (← now) command world
    for event in events do
      IO.eprintln event.line
    store errand before after.disk.files
    conclude ending

end Console

end LogVault

/-- The program. -/
def main (args : List String) : IO UInt32 :=
  match LogVault.Arguments.read args with
  | .ok command => LogVault.Console.perform command
  | .error usage => do
    if usage.isWanted then
      IO.println usage.sentence
      return 0
    else
      IO.eprintln usage.sentence
      return 2
