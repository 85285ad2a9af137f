import CatalogDdl.Connection.Parameters
import CatalogDdl.Text.Basic

/-! # Arguments

The command line: a database, a command, and the options of the command. What is not given as an option may be
given as an environment variable.

* `Command`: a command with its values. `Invocation`: a command and the database that it is about.
* `Setting`: what an option sets, with the name of the option and the variable that stands in for it.
* `UsageError`: why a command line is not accepted, or which text it asks for instead.
* `Words.scan`: reads words from left to right. The value of an option is checked when the next option is
  accepted or the words end, so a mistake in a later word can come first.
* `Invocation.parse`: reads a command line together with the environment.
-/

namespace CatalogDdl
set_option autoImplicit false
open Text

/-! ## Command lines -/

/-- A target of which parts may be missing. -/
structure TargetRequest where
  host : Option String
  tcpPort : Nat
  user : String
  password : String
  database : Option String
deriving DecidableEq, Repr

/-- The target, if there is a host. The database is named like the user if it has no name. -/
def TargetRequest.target? (request : TargetRequest) : Option Target :=
  request.host.map fun host => {
    host := host
    tcpPort := request.tcpPort
    user := request.user
    password := request.password
    database := request.database.getD request.user }

/-- A command. -/
inductive Command
  | analyze (json : Option String)
  | export (path : String) (noRowCounts : Bool)
  | apply (target : Target)
  | check (request : TargetRequest)
deriving DecidableEq, Repr

/-- A command with the database that it is about. -/
structure Invocation where
  databasePath : String
  command : Command
deriving DecidableEq, Repr

/-- Why there is no command to run. -/
inductive UsageError
  | displayHelp
  | displayVersion
  | nothingGiven
  | missingCommand
  | unknownCommand
  | missingRequired
  | unknownArgument
  | missingValue
  | repeated
  | unexpectedValue
  | invalidValue
deriving DecidableEq, Repr

/-- Asking for a text is no mistake. -/
def UsageError.exitCode : UsageError → Nat
  | displayHelp | displayVersion => 0
  | _ => 2

/-! ## Settings -/

/-- What an option sets. -/
inductive Setting
  | databasePath | json | path | noRowCounts | host | tcpPort | user | password | database
deriving DecidableEq, Repr

namespace Setting

/-- The name of the option, without its dashes. -/
def name : Setting → String
  | databasePath => "sqlite-db-path"
  | json => "json"
  | path => "path"
  | noRowCounts => "no-row-counts"
  | host => "target-db-host"
  | tcpPort => "target-db-port"
  | user => "target-db-user"
  | password => "target-db-password"
  | database => "target-db-name"

/-- The environment variable that stands in for the option. -/
def variableName : Setting → Option String
  | databasePath => some "SQLITE_DB_PATH"
  | host => some "PGHOST"
  | tcpPort => some "PGPORT"
  | user => some "PGUSER"
  | password => some "PGPASSWORD"
  | database => some "PGDATABASE"
  | _ => none

def isFlag (setting : Setting) : Bool :=
  setting == noRowCounts

def accepts (setting : Setting) (value : String) : Bool :=
  setting != tcpPort || (signedNumeral? 0 65535 value.toList).isSome

def ofTarget : List Setting :=
  [host, tcpPort, user, password, database]

end Setting

inductive CommandName
  | analyze | export | apply | check
deriving DecidableEq, Repr

namespace CommandName

def ofText? : String → Option CommandName
  | "analyze" => some analyze
  | "export" => some .export
  | "apply" => some apply
  | "check" => some check
  | _ => none

end CommandName

/-- Where a word stands: before the command or after it. -/
inductive Level
  | top
  | command (name : CommandName)
deriving DecidableEq, Repr

def Level.settings : Level → List Setting
  | top => [.databasePath]
  | command .analyze => [.json]
  | command .export => [.path, .noRowCounts]
  | command .apply | command .check => Setting.ofTarget

/-! ## Words -/

/-- The values given so far, and the option that is waiting for its value or for the check of it. -/
structure Words where
  given : List (Setting × String)
  pending : Option (Setting × Option String)

/-- What a word means by its form alone. A long option may have its value attached. -/
inductive Word
  | escape
  | long (name : String) (value : Option String)
  | short (letter : Char)
  | plain

def Word.ofText (text : String) : Word :=
  match text.toList with
  | ['-', '-'] => .escape
  | '-' :: '-' :: rest =>
    match rest.dropWhile (· != '=') with
    | [] => .long (.ofList rest) none
    | _ :: value => .long (.ofList (rest.takeWhile (· != '='))) (some (.ofList value))
  | '-' :: letter :: _ => .short letter
  | _ => .plain

namespace Words

def empty : Words :=
  ⟨[], none⟩

/-- Takes a value. Every setting is given once, and its value is checked. -/
def record (words : Words) (setting : Setting) (value : String) : Except UsageError Words :=
  if words.given.any (·.1 == setting) then .error .repeated
  else if setting.accepts value then .ok ⟨words.given ++ [(setting, value)], words.pending⟩
  else .error .invalidValue

def settle (words : Words) : Except UsageError Words :=
  match words.pending with
  | none => .ok words
  | some (_, none) => .error .missingValue
  | some (setting, some value) => Words.record ⟨words.given, none⟩ setting value

/-- Takes an option, with its value if that is attached. -/
def option (words : Words) (setting : Setting) (value : Option String) : Except UsageError Words :=
  match value with
  | some value =>
    if setting.isFlag then .error .unexpectedValue else do (← words.settle).record setting value
  | none => do
    let words ← words.settle
    if setting.isFlag then words.record setting "true" else .ok ⟨words.given, some (setting, none)⟩

/-- Ends with a text to display, once the pending option is settled. -/
def display (words : Words) (text : UsageError) : UsageError :=
  match words.settle with
  | .ok _ => text
  | .error mistake => mistake

def long (words : Words) (level : Level) (name : String) (value : Option String) :
    Except UsageError Words :=
  match level.settings.find? (·.name == name) with
  | some setting => words.option setting value
  | none =>
    if name == "help" || name == "version" then
      if value.isSome then .error .unexpectedValue
      else .error (words.display (if name == "help" then .displayHelp else .displayVersion))
    else .error .unknownArgument

def short (words : Words) (letter : Char) : UsageError :=
  if letter == 'h' then words.display .displayHelp
  else if letter == 'V' then words.display .displayVersion
  else .unknownArgument

/-- Takes a plain word as the value of the option that waits for one. -/
def plain? (words : Words) (text : String) : Option Words :=
  match words.pending with
  | some (setting, none) => some ⟨words.given, some (setting, some text)⟩
  | _ => none

/-- Whether a word names a command, or asks for help on one. -/
def namesCommand (text : String) : Bool :=
  text == "help" || (CommandName.ofText? text).isSome

/-- A word that nothing can be made of. -/
def stray (level : Level) (escaped : Bool) (text : String) : UsageError :=
  match level with
  | .top => if escaped && namesCommand text then .unknownArgument else .unknownCommand
  | .command _ => .unknownArgument

/-- Asks for help on a command, or in general. -/
def help : List String → UsageError
  | [] => .displayHelp
  | [text] => if namesCommand text then .displayHelp else .unknownCommand
  | _ => .unknownCommand

/-- Reads words up to the end, or up to the command and the words that follow it. -/
def scan (level : Level) (words : Words) :
    List String → Except UsageError (Words × Option (CommandName × List String))
  | [] => .ok (words, none)
  | text :: rest =>
    if level == .top && (words.plain? text).isNone && namesCommand text then
      match CommandName.ofText? text with
      | some name => .ok (words, some (name, rest))
      | none => .error (help rest)
    else
      match Word.ofText text with
      | .escape =>
        match rest with
        | [] => .ok (words, none)
        | text :: _ => .error (stray level true text)
      | .long name value => do scan level (← words.long level name value) rest
      | .short letter => .error (words.short letter)
      | .plain =>
        match words.plain? text with
        | some words => scan level words rest
        | none => .error (stray level false text)

/-! ## Values -/

def withVariables (words : Words) (environment : List (String × String)) :
    List Setting → Except UsageError Words
  | [] => .ok words
  | setting :: settings =>
    match setting.variableName.bind (environment.lookup ·) with
    | some value =>
      if words.given.any (·.1 == setting) then words.withVariables environment settings
      else do (← words.record setting value).withVariables environment settings
    | none => words.withVariables environment settings

def value? (words : Words) (setting : Setting) : Option String :=
  words.given.lookup setting

def required (words : Words) (setting : Setting) : Except UsageError String :=
  match words.value? setting with
  | some value => .ok value
  | none => .error .missingRequired

/-- The TCP port of the target: 5432 if it is not given. -/
def tcpPort (words : Words) : Nat :=
  ((words.value? .tcpPort).bind fun text => signedNumeral? 0 65535 text.toList).elim 5432 Int.toNat

/-- The values of a level: those of its words, then those of the environment. -/
def complete (level : Level) (environment : List (String × String)) (words : Words) :
    Except UsageError Words := do
  (← words.settle).withVariables environment level.settings

end Words

/-! ## Reading -/

namespace Command

def ofWords (words : Words) : CommandName → Except UsageError Command
  | .analyze => .ok (analyze (words.value? .json))
  | .export =>
    .ok (.export ((words.value? .path).getD "postgresql_ddl.sql") (words.value? .noRowCounts).isSome)
  | .apply => do
    let host ← words.required .host
    let user ← words.required .user
    let password ← words.required .password
    let database ← words.required .database
    .ok (apply ⟨host, words.tcpPort, user, password, database⟩)
  | .check =>
    .ok (check {
      host := words.value? .host
      tcpPort := words.tcpPort
      user := (words.value? .user).getD "postgres"
      password := (words.value? .password).getD ""
      database := words.value? .database })

def parse (name : CommandName) (environment : List (String × String)) (texts : List String) :
    Except UsageError Command := do
  let (words, _) ← Words.empty.scan (.command name) texts
  ofWords (← words.complete (.command name) environment) name

end Command

/-- Reads a command line. The mistakes in and after a command come before what is missing ahead of it. -/
def Invocation.parse (texts : List String) (environment : List (String × String)) :
    Except UsageError Invocation := do
  let (words, rest) ← Words.empty.scan .top texts
  match rest with
  | some (name, rest) => do
    let command ← Command.parse name environment rest
    let words ← words.complete .top environment
    .ok ⟨← words.required .databasePath, command⟩
  | none => do
    let words ← words.complete .top environment
    .error (if words.given.isEmpty then .nothingGiven else .missingCommand)

end CatalogDdl
