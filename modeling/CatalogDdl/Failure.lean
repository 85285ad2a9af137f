/-! # Failures

Everything that can go wrong in a run, by cause.

* `Inconsistency`: what is wrong with the rows that describe a table.
* `SourceFault`, `OutputFault`: what failed at the database, and at a file or server.
* `Failure`: a failure with its cause; `Failure.message` is its text.
* `Failure.isTableLocal`: whether the other tables of a run can still be read.
-/

namespace CatalogDdl
set_option autoImplicit false

/-! ## Causes -/

inductive Inconsistency
  | noColumns
  | ordinal (column : String) (found : Int) (expected : Nat)
  | unknownLocalColumn (column : String)
  | reported (text : String)
deriving DecidableEq, Repr

def Inconsistency.message : Inconsistency → String
  | noColumns => "no columns were reported"
  | ordinal column found expected => s!"column `{column}` has ordinal {found}, expected {expected}"
  | unknownLocalColumn column => s!"foreign key references unknown local column `{column}`"
  | reported text => text

inductive SourceFault
  | noSuchTable (table : String)
  | circularView (view : String)
  | unknownToken (token statement : String) (offset : Nat)
  | incompleteText (length : Nat)
  | cannotOpen (path : String)
  | notADatabase
  | unreadable
  | nullInPath (position : Nat)
  | foreignAuthority (authority : String)
  | unknownMode (kind mode : String)
  | forbiddenMode (mode : String)
  | unknownDriver (name : String)
  | reported (text : String)
deriving DecidableEq, Repr

def SourceFault.message : SourceFault → String
  | noSuchTable table => s!"no such table: {table}"
  | circularView view => s!"view {view} is circularly defined"
  | unknownToken token statement offset =>
    s!"unrecognized token: \"{token}\" in {statement} at offset {offset}"
  | incompleteText length =>
    s!"Conversion error from type Text at index: 2, incomplete utf-8 byte sequence from index {length}"
  | cannotOpen path => s!"unable to open database file: {path}"
  | notADatabase => "file is not a database"
  | unreadable => "disk I/O error"
  | nullInPath position => s!"nul byte found in provided data at position: {position}"
  | foreignAuthority authority => s!"invalid uri authority: {authority}"
  | unknownMode kind mode => s!"no such {kind} mode: {mode}"
  | forbiddenMode mode => s!"access mode not allowed: {mode}"
  | unknownDriver name => s!"no such vfs: {name}"
  | reported text => text

inductive OutputFault
  | create (path : String)
  | write (path : String)
  | writeScript
  | connect
  | begin
  | statement (sql : String)
  | commit
  | reported (text : String)
deriving DecidableEq, Repr

def OutputFault.message : OutputFault → String
  | create path => s!"Failed to create `{path}`"
  | write path => s!"Failed to write `{path}`"
  | writeScript => "Failed to write sql file"
  | connect => "Failed to connect to postgres"
  | begin => "Failed to start transaction"
  | statement sql => s!"Failed to execute `{sql}`"
  | commit => "Failed to commit transaction"
  | reported text => text

/-! ## Failures -/

/-- A failure with its cause. `outputBy` is an `output` whose cause is a failure of its own. -/
inductive Failure
  | metadataUnavailable (table : String) (cause : Failure)
  | inconsistentMetadata (table : String) (cause : Inconsistency)
  | source (cause : SourceFault)
  | output (fault : OutputFault)
  | outputBy (fault : OutputFault) (cause : Failure)
  | query (sql : String)
  | server
  | versionMissing
  | io (text : String)
deriving DecidableEq, Repr

namespace Failure

/-- The text of a failure. What the server itself says about a failed query is not part of it. -/
def message : Failure → String
  | metadataUnavailable table cause => s!"Failed to read metadata for table `{table}`: {cause.message}"
  | inconsistentMetadata table cause => s!"Inconsistent metadata for table `{table}`: {cause.message}"
  | source cause => s!"Error from sqlite: `{cause.message}`"
  | output fault | outputBy fault _ => s!"Failed to write the generated ddl: {fault.message}"
  | query sql => s!"Error from postgres: `{sql}`"
  | server => "Error from postgres"
  | versionMissing => "Invalid response when asking postgres for its version"
  | io text => s!"io error: `{text}`"

/-- The failure that lies behind a failure, if it is one of these too. -/
def cause? : Failure → Option Failure
  | metadataUnavailable _ cause | outputBy _ cause => some cause
  | _ => none

/-- Whether a failure concerns one table only, so that the others can still be read. -/
def isTableLocal : Failure → Bool
  | metadataUnavailable .. | inconsistentMetadata .. => true
  | _ => false

end Failure

end CatalogDdl
