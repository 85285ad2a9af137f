import CatalogDdl.Database.Inspection
import CatalogDdl.Disk.Address
import CatalogDdl.Output.File

/-! # Disks

A directory with databases and other files, as far as opening and creating files goes.

* `Disk.openSource`: opens a database for reading. `OpenedSource` is its source, with the outcome of closing
  it.
* `Disk.createFile`: creates a file, if its path is one that files can have.
-/

namespace CatalogDdl
set_option autoImplicit false
open Text

/-- What a file holds. -/
inductive FileContent
  | database (database : Database)
  | text (text : String)

/-- The files of a directory by name. -/
structure Disk where
  files : List (String × FileContent)

/-- A database that is open. Opening it may have created an empty file in the directory, of this name. -/
structure OpenedSource where
  source : Source
  close : Except Failure Unit
  created : Option String

namespace Disk

def fileSystem (disk : Disk) : FileSystem :=
  ⟨disk.files.map (·.1)⟩

/-! ## Databases -/

def failingSource (name : String) (failure : Failure) : Source where
  databaseName := name
  tableNames := .error failure
  columns _ := .error failure
  foreignKeys _ := .error failure
  indexes _ := .error failure
  rowCount _ := .error failure

/-- The source of a file. An empty file is an empty database, and other text is none at all. -/
def contentSource (name : String) : FileContent → Source
  | .database database => database.source name
  | .text text =>
    if text.isEmpty then Database.empty.source name
    else failingSource name (.source .notADatabase)

/-- A database with the name of the file that is created for it. -/
abbrev Found := FileContent × Option String

/-- What is at a place as a database. A special file holds nothing. A directory can be opened, but not read. -/
def found (disk : Disk) (text : String) (location : Location) (access : Address.Access) :
    Except SourceFault Found :=
  match disk.fileSystem.occupant location with
  | .special _ => .ok (.text "", none)
  | .directory => .error (if access == .readOnly then .unreadable else .cannotOpen text)
  | .entry name => .ok ((disk.files.lookup name).getD (.text ""), none)
  | .missing =>
    if access == .create && FileSystem.isWritable location then
      .ok (.text "", FileSystem.entryName? location)
    else .error (.cannotOpen text)

/-- What is at an address. A database in memory is new. -/
def foundAt (disk : Disk) (text : String) : Except SourceFault Found := do
  match ← Address.parse text with
  | .memory => .ok (.database .empty, none)
  | .file path access modeOf =>
    match disk.fileSystem.opened? path with
    | none => .error (.cannotOpen text)
    | some location =>
      if modeOf.any (!disk.fileSystem.hasPath ·) then .error .unreadable
      else disk.found text location access

def openSource (disk : Disk) (text : String) : Except Failure OpenedSource :=
  match disk.foundAt text with
  | .ok (content, created) => .ok ⟨contentSource text content, .ok (), created⟩
  | .error fault => .error (.source fault)

/-! ## Files -/

/-- Creates a file and gives the device behind it, with the name of the file if it is in the directory. -/
def createFile (disk : Disk) (path : String) : Option (Option String × Device) := do
  let location ← disk.fileSystem.created? (encoded path)
  match disk.fileSystem.occupant location with
  | .special .full => some (none, .full)
  | .special .sink => some (none, .unlimited)
  | .entry name => some (some name, .unlimited)
  | .directory => none
  | .missing =>
    if FileSystem.isWritable location then some (FileSystem.entryName? location, .unlimited) else none

end Disk

end CatalogDdl
