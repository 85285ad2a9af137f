import CatalogDdl.Command.Basic
import Std.Time

/-! # Command line

The program: it hands the arguments, the environment and the file of the database to the library, and carries
out what comes back. The log goes to the standard output, mistakes in the arguments to the standard error.
-/

namespace CatalogDdl.Main
set_option autoImplicit false

/-- The variables of the environment that stand in for options. -/
def environment : IO (List (String × String)) := do
  let mut found := []
  for name in (Setting.databasePath :: Setting.ofTarget).filterMap Setting.variableName do
    if let some value ← IO.getEnv name then
      found := found ++ [(name, value)]
  return found

/-- What the file of a database holds, if it is in a file that can be read. Bytes that are no text are no
database either. -/
def content : Except SourceFault Address → IO (Option FileContent)
  | .ok (.file path _ _) => do
    try
      let bytes ← IO.FS.readBinFile (Text.decoded path)
      return some (.text ((String.fromUTF8? bytes).getD "\x00"))
    catch _ =>
      return none
  | _ => return none

/-- A machine that has one file and reaches no server. Other files can be created everywhere. -/
def machine (file : Option FileContent) : Machine where
  openSource text :=
    match Address.parse text, file with
    | .error fault, _ => .error (.source fault)
    | .ok .memory, _ => .ok ⟨Disk.contentSource text (.text ""), .ok (), none⟩
    | .ok (.file ..), some content => .ok ⟨Disk.contentSource text content, .ok (), none⟩
    | .ok (.file path .create _), none =>
      .ok ⟨Disk.contentSource text (.text ""), .ok (), some (Text.decoded path)⟩
    | .ok (.file ..), none => .error (.source (.cannotOpen text))
  createFile path := some (some path, .unlimited)
  route _ := ⟨[], .absent⟩

def fieldText : String × Event.Field → String
  | (key, .text value) => s!"{key}={value}"
  | (key, .number value) => s!"{key}={value}"

def logLine (event : Event) : String :=
  let level := match event.level with
    | .info => "INFO"
    | .warning => "WARN"
  " ".intercalate (level :: event.message :: event.fields.map fieldText)

def usageText : UsageError → String
  | .displayVersion => "0.0.4"
  | .displayHelp | .nothingGiven =>
    "commands: analyze [--json FILE], export [--path FILE] [--no-row-counts], apply, check\n" ++
      "database: --sqlite-db-path PATH, before the command\n" ++
      "server: --target-db-host, --target-db-port, --target-db-user, --target-db-password, --target-db-name"
  | .missingCommand => "a command is missing"
  | .unknownCommand => "there is no such command"
  | .missingRequired => "a required option is missing"
  | .unknownArgument => "there is no such option, or a word too many"
  | .missingValue => "the value of an option is missing"
  | .repeated => "an option is given twice"
  | .unexpectedValue => "a flag has no value"
  | .invalidValue => "the value of an option is not valid"

/-- Prints what a command did, writes its files, and gives its exit code. -/
def carryOut (performance : Performance) : IO Nat := do
  for event in performance.log do
    IO.println (logLine event)
  for (path, bytes) in performance.files do
    IO.FS.writeBinFile path ⟨bytes⟩
  if let .error failure := performance.result then
    IO.println s!"ERROR {failure.message}"
  return performance.exitCode

end CatalogDdl.Main

open CatalogDdl CatalogDdl.Main in
def main (arguments : List String) : IO UInt32 := do
  match Invocation.parse arguments (← environment) with
  | .error mistake =>
    IO.eprintln (usageText mistake)
    return mistake.exitCode.toUInt32
  | .ok invocation =>
    let file ← content (Address.parse invocation.databasePath)
    let now := (Std.Time.DateTime.ofTimestampWithZone (← Std.Time.Timestamp.now) .UTC).toISO8601String
    try
      return (← carryOut ((machine file).perform invocation now)).toUInt32
    catch problem =>
      IO.println s!"ERROR {Failure.message (.io (toString problem))}"
      return 1
