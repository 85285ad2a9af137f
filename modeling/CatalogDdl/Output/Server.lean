import CatalogDdl.Run.Document
import CatalogDdl.Traced

/-! # Servers

Executing a document on a PostgreSQL server, in one transaction.

* `Server`: how a server behaves at each step. `ServerEvent`: a step that reached it, and whether it succeeded.
* `Session`: the outcome of a conversation with a server, with the steps that it saw.
* `Server.apply`: connects and executes a document. `Server.askVersion` asks for the server's version.
-/

namespace CatalogDdl
set_option autoImplicit false

/-- The points of a conversation at which a server can fail. Statements are numbered from 0. -/
inductive Server.Point
  | begin | statement (number : Nat) | commit | version
deriving DecidableEq, Repr

/-- The behaviour of a server. The questions for its version and for the mode in which it works are answered
without a row where there is none. -/
structure Server where
  acceptsConnection : Bool
  acceptsLogin : Bool
  accepts : Server.Point → Bool
  version : Option String
  mode : Option String := none

/-- What a server is asked to do. -/
inductive Server.Step
  | begin | statement (sql : String) | commit | version
deriving DecidableEq, Repr

/-- A step that a server saw. -/
structure ServerEvent where
  step : Server.Step
  ok : Bool
deriving DecidableEq, Repr

/-- The outcome of a conversation, and what the server saw of it. -/
structure Session (α : Type) where
  result : Except Failure α
  seen : List ServerEvent

namespace Session

/-- Asks a server for a step, and goes on if it succeeds. -/
def step {α : Type} (step : Server.Step) (ok : Bool) (failure : Failure) (next : Session α) :
    Session α :=
  if ok then ⟨next.result, ⟨step, true⟩ :: next.seen⟩ else ⟨.error failure, [⟨step, false⟩]⟩

end Session

namespace Server

/-- A server that nobody can connect to. -/
def absent : Server :=
  ⟨false, false, fun _ => false, none, none⟩

def isReachable (server : Server) : Bool :=
  server.acceptsConnection && server.acceptsLogin

/-- The failure of a statement, which names it both as what failed and as the cause. -/
def statementFailure (sql : String) : Failure :=
  .outputBy (.statement sql) (.query sql)

/-- Whether a statement can be sent: the text of a statement ends at a null character. -/
def canSend (sql : String) : Bool :=
  !sql.toList.contains '\x00'

/-- Executes statements from the one with the given number on, then commits. -/
def execute (server : Server) (number : Nat) : List String → Session Unit
  | [] => .step .commit (server.accepts .commit) (.output .commit) ⟨.ok (), []⟩
  | sql :: rest =>
    if canSend sql then
      .step (.statement sql) (server.accepts (.statement number)) (statementFailure sql)
        (server.execute (number + 1) rest)
    else ⟨.error (statementFailure sql), []⟩

/-- Executes all statements of a document in one transaction. -/
def transact (server : Server) (document : Document) : Session Unit :=
  .step .begin (server.accepts .begin) (.output .begin) (server.execute 0 document.statements)

/-- Connects to a server and goes on if that succeeds. The server sees nothing before a login. -/
def connected {α : Type} (server : Server) (session : Session α) : Session α :=
  if server.isReachable then session else ⟨.error (.output .connect), []⟩

/-- Connects to a server and executes a document. Success is reported. -/
def apply (server : Server) (document : Document) : Traced (Session Unit) :=
  let session := server.connected (server.transact document)
  match session.result with
  | .ok () => ⟨session, [.applied document.blocks.length]⟩
  | .error _ => ⟨session, []⟩

def askVersion (server : Server) : Session String :=
  server.connected <|
    .step .version (server.accepts .version) .server
      ⟨match server.version with
        | some version => .ok version
        | none => .error .versionMissing, []⟩

end Server

end CatalogDdl
