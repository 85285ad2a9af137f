import CatalogDdl.Text.Basic
import CatalogDdl.Text.Utf8

/-! # Paths

A file system as far as it matters to a program that works in one directory: that directory, the one above it,
the root, and devices.

* `Path`: the bytes of a path. `Path.steps`: the names between its slashes.
* `Location`: a place in the file system, by the names that lead to it from the root.
* `FileSystem.created?`: the place at which a path creates or replaces a file. Every directory on the way has
  to exist.
* `FileSystem.opened?`: the place that a path names when its steps up are taken by name alone, so that what
  they lead out of need not exist.
-/

namespace CatalogDdl
set_option autoImplicit false
open Text

abbrev Path := List UInt8

abbrev Location := List Path

namespace Path

def steps (path : Path) : List Path :=
  pieces '/'.toUInt8 path

def isAbsolute (path : Path) : Bool :=
  path.head? == some '/'.toUInt8

def isIdle (step : Path) : Bool :=
  step == [] || step == encoded "."

def isUp (step : Path) : Bool :=
  step == encoded ".."

/-- Whether a name is short enough for a file. -/
def fits (name : Path) : Bool :=
  name.length ≤ 255

end Path

/-- A file that takes what is written to it, or nothing, and keeps none of it. -/
inductive SpecialFile
  | sink | full
deriving DecidableEq, Repr

/-- What is at a place. -/
inductive Occupant
  | directory
  | special (file : SpecialFile)
  | entry (name : String)
  | missing
deriving DecidableEq, Repr

/-- The files in the directory of a program, by name. -/
structure FileSystem where
  entries : List String

namespace FileSystem

/-- The place above the directory of the program. -/
def above : Location :=
  [encoded "tmp"]

/-- The directory of the program, under a name that no step of a path can spell. -/
def home : Location :=
  above ++ [encoded "."]

def devices : Location :=
  [encoded "dev"]

def specialFiles : List (String × SpecialFile) :=
  [("null", .sink), ("zero", .sink), ("full", .full), ("random", .sink), ("urandom", .sink)]

def occupant (files : FileSystem) (location : Location) : Occupant :=
  if [[], above, home, devices].contains location then .directory
  else
    match location.getLast? with
    | none => .directory
    | some name =>
      if location.dropLast == devices then
        match specialFiles.find? (encoded ·.1 == name) with
        | some (_, file) => .special file
        | none => .missing
      else if location.dropLast == home then
        match files.entries.find? (encoded · == name) with
        | some entry => .entry entry
        | none => .missing
      else .missing

def isDirectory (files : FileSystem) (location : Location) : Bool :=
  files.occupant location == .directory

/-- Whether files can be created at a place: in the directory of the program and in the one above it. -/
def isWritable (location : Location) : Bool :=
  location.dropLast == home || location.dropLast == above

def entryName? (location : Location) : Option String :=
  if location.dropLast == home then location.getLast?.map decoded else none

def start (path : Path) : Location :=
  if path.isAbsolute then [] else home

/-! ## Creating -/

/-- Follows steps through directories that exist. The last step has to be the name of a file. -/
def descend (files : FileSystem) (location : Location) : List Path → Option Location
  | [] => none
  | [name] =>
    let target := location ++ [name]
    if name.isIdle || name.isUp || !name.fits || files.isDirectory target then none
    else some target
  | step :: rest =>
    if step.isIdle then files.descend location rest
    else if step.isUp then files.descend location.dropLast rest
    else if files.isDirectory (location ++ [step]) then files.descend (location ++ [step]) rest
    else none

/-- The place of the file that a path creates or replaces. A path has no null character and less than 4096
bytes. -/
def created? (files : FileSystem) (path : Path) : Option Location :=
  if path.contains 0 || 4096 ≤ path.length then none
  else files.descend (start path) path.steps

/-- Whether steps lead to something that exists. Only a directory leads on. -/
def leads (files : FileSystem) (location : Location) : List Path → Bool
  | [] => true
  | step :: rest =>
    let next :=
      if step.isIdle then location else if step.isUp then location.dropLast else location ++ [step]
    files.isDirectory location && files.occupant next != .missing && files.leads next rest

def hasPath (files : FileSystem) (path : Path) : Bool :=
  !path.isEmpty && files.leads (start path) path.steps

/-! ## Opening -/

/-- The length of the name of the directory of the program, which is new and named at random. -/
def homeNameLength : Nat :=
  10

def pathLength : Location → Nat
  | [] => 0
  | name :: rest => 1 + (if name == encoded "." then homeNameLength else name.length) + pathLength rest

/-- Follows one step by name. No name in a directory is longer than a file can have, none follows a file, and no
path on the way has more than 511 bytes. -/
def follow? (files : FileSystem) (location : Location) (step : Path) : Option Location :=
  if step.isIdle then some location
  else if step.isUp then some location.dropLast
  else
    let next := if pathLength (location ++ [step]) ≤ 511 then some (location ++ [step]) else none
    match files.occupant location with
    | .special _ | .entry _ => none
    | .directory => if step.fits then next else none
    | .missing => next

/-- The place that a path names. The root itself is none, and a full path has at most 504 bytes. -/
def opened? (files : FileSystem) (path : Path) : Option Location := do
  let location ← path.steps.foldlM files.follow? (start path)
  if location.isEmpty || pathLength location > 504 then none else some location

end FileSystem

end CatalogDdl
