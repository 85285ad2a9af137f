import CatalogDdl.Command.Arguments
import CatalogDdl.Connection.Network
import CatalogDdl.Disk.Basic

/-! # Commands

What the commands do, as a function of the machine that they run on.

* `Machine`: opening databases, creating files, and connecting to servers.
* `Performance`: all that a command did: its result, its log, what it wrote, and what a server saw.
* `Machine.perform`: runs a command. `Performance.exitCode` is 0 for a complete result, 2 for one with tables
  missing, and 1 for a failure.
-/

namespace CatalogDdl
set_option autoImplicit false

/-- The surroundings of a command: the databases by their paths, the files that can be created, each with a name if
it is to be kept, and where connection strings lead. -/
structure Machine where
  openSource : String → Except Failure OpenedSource
  createFile : String → Option (Option String × Device)
  route : String → Route

/-- Whether a command covered all tables. -/
inductive Completion
  | complete
  | partly
deriving DecidableEq, Repr

def Completion.ofRun (run : Run) : Completion :=
  if run.isPartial then .partly else .complete

/-- All that a command did. -/
structure Performance where
  result : Except Failure Completion
  log : List Event
  files : List (String × Array UInt8)
  seen : List ServerEvent

namespace Performance

/-- A command that touched neither files nor servers. -/
def quiet (result : Traced (Except Failure Completion)) : Performance :=
  ⟨result.value, result.events, [], []⟩

def exitCode (performance : Performance) : Nat :=
  match performance.result with
  | .ok .complete => 0
  | .ok .partly => 2
  | .error _ => 1

def after (events : List Event) (performance : Performance) : Performance :=
  { performance with log := events ++ performance.log }

end Performance

namespace Machine

/-- Reads the schema of a database and closes it. Missing tables are reported. -/
def readSchema (machine : Machine) (path : String) (countRows : Bool) : Traced (Except Failure Run) :=
  match machine.openSource path with
  | .error failure => pure (.error failure)
  | .ok opened => do
    match ← opened.source.run countRows with
    | .error failure => pure (.error failure)
    | .ok run =>
      match opened.close with
      | .error failure => pure (.error failure)
      | .ok () => do
        if run.isPartial then
          Traced.report (.tablesMissing run.report.skipped.length run.report.totalTables)
        pure (.ok run)

def withSchema (machine : Machine) (path : String) (countRows : Bool) (next : Run → Performance) :
    Performance :=
  match machine.readSchema path countRows with
  | ⟨.ok run, events⟩ => (next run).after events
  | ⟨.error failure, events⟩ => .quiet ⟨.error failure, events⟩

def kept (name : Option String) (delivery : Delivery) : List (String × Array UInt8) :=
  (name.map (·, delivery.received)).toList

/-! ## Commands -/

def analysis (report : Report) : Event :=
  .analysed report.database report.tables.length (report.total (·.columnCount))
    (report.total (·.foreignKeyCount)) (report.total (·.indexCount))

def writeReport (machine : Machine) (path text : String) (run : Run) : Performance :=
  match machine.createFile path with
  | none => .quiet (pure (.error (.output (.write path))))
  | some (name, device) =>
    let delivery := device.writeOut [text]
    if delivery.complete then ⟨.ok (.ofRun run), [.reportWritten path], kept name delivery, []⟩
    else ⟨.error (.output (.write path)), [], kept name delivery, []⟩

/-- Reads a schema with the rows counted, and writes the report of it if there is a path. -/
def analyze (machine : Machine) (database : String) (json : Option String) (now : String) : Performance :=
  machine.withSchema database true fun run =>
    Performance.after [analysis run.report] <|
      match json with
      | none => .quiet (pure (.ok (.ofRun run)))
      | some path => machine.writeReport path (run.report.json now) run

def writeScript (machine : Machine) (database path : String) (countRows : Bool) : Performance :=
  machine.withSchema database countRows fun run =>
    match machine.createFile path with
    | none => .quiet (pure (.error (.output (.create path))))
    | some (name, device) =>
      match device.deliverScript run with
      | (delivery, .ok ()) =>
        ⟨.ok (.ofRun run), [.scriptWritten path run.document.blocks.length], kept name delivery, []⟩
      | (delivery, .error failure) => ⟨.error failure, [], kept name delivery, []⟩

def withServer (machine : Machine) (target : Target) (next : Server → Performance) : Performance :=
  let route := machine.route target.connectionString
  let performance := next route.server
  { performance with seen := route.asked ++ performance.seen }

def applyTo (machine : Machine) (database : String) (target : Target) : Performance :=
  machine.withSchema database false fun run =>
    machine.withServer target fun server =>
      let applied := server.apply run.document
      ⟨applied.value.result.map fun () => .ofRun run, applied.events, [], applied.value.seen⟩

def countEvent (source : Source) (table : String) : Event :=
  match source.rowCount table with
  | .ok rows => .tableFound table rows
  | .error cause => .countFailed table cause

/-- Opens a database, counts the rows of its tables, and closes it. -/
def checkSource (machine : Machine) (database : String) : Traced (Except Failure Unit) :=
  match machine.openSource database with
  | .error failure => pure (.error failure)
  | .ok opened =>
    match opened.source.tableNames with
    | .error failure => pure (.error failure)
    | .ok names =>
      let opening := .databaseOpened opened.source.databaseName names.length
      ⟨opened.close, opening :: names.map (countEvent opened.source)⟩

def checkTarget (machine : Machine) (target : Target) : Performance :=
  machine.withServer target fun server =>
    match server.askVersion with
    | ⟨.ok version, seen⟩ => ⟨.ok .complete, [.serverReached target.host version], [], seen⟩
    | ⟨.error failure, seen⟩ => ⟨.error failure, [], [], seen⟩

/-- Checks that a database can be read, and that a server can be reached if one is given. -/
def check (machine : Machine) (database : String) (request : TargetRequest) : Performance :=
  match machine.checkSource database with
  | ⟨.error failure, events⟩ => .quiet ⟨.error failure, events⟩
  | ⟨.ok (), events⟩ =>
    Performance.after events <|
      match request.target? with
      | none => .quiet (pure (.ok .complete))
      | some target => machine.checkTarget target

/-- What a command does with the database that it is given. `now` is the time that a report bears. -/
def carryOut (machine : Machine) (invocation : Invocation) (now : String) : Performance :=
  match invocation.command with
  | .analyze json => machine.analyze invocation.databasePath json now
  | .export path noRowCounts => machine.writeScript invocation.databasePath path (!noRowCounts)
  | .apply target => machine.applyTo invocation.databasePath target
  | .check request => machine.check invocation.databasePath request

def createdBy (machine : Machine) (path : String) : List (String × Array UInt8) :=
  match machine.openSource path with
  | .ok opened => (opened.created.map fun name => (name, #[])).toList
  | .error _ => []

def perform (machine : Machine) (invocation : Invocation) (now : String) : Performance :=
  let performance := machine.carryOut invocation now
  { performance with files := machine.createdBy invocation.databasePath ++ performance.files }

end Machine

/-- A directory and a network as the surroundings of a command. -/
def Disk.machine (disk : Disk) (network : Network) : Machine where
  openSource := disk.openSource
  createFile := disk.createFile
  route := network.route

end CatalogDdl
