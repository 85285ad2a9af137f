import CatalogDdl.Disk.Path
import CatalogDdl.Failure
import CatalogDdl.Text.Basic

/-! # Database addresses

The text that says which database to open: a path, or `file:` with a path and options.

* `Address.resolved`: the bytes of a text with its escapes resolved. `Address.options`: the options of a query.
* `Address.Access`: how a database is opened; options can only narrow it.
* `Address.parse`: what a text means.
-/

namespace CatalogDdl
set_option autoImplicit false
open Text

namespace Address

/-! ## Escapes -/

/-- The bytes of a text in which `%` and two hexadecimal digits stand for a byte. A zero byte ends the text. -/
def resolved : List Char → List UInt8
  | [] => []
  | '%' :: a :: b :: rest =>
    match hexValue? a, hexValue? b with
    | some high, some low =>
      if high == 0 && low == 0 then [] else (16 * high + low).toUInt8 :: resolved rest
    | _, _ => 0x25 :: resolved (a :: b :: rest)
  | c :: rest => String.utf8EncodeChar c ++ resolved rest

/-! ## Options -/

/-- A text up to a character, and what follows the character. -/
def cut (separator : Char) (cs : List Char) : List Char × List Char :=
  (cs.takeWhile (· != separator), (cs.dropWhile (· != separator)).drop 1)

/-- The options of a query, by name. An option without a name is none. -/
def options (query : List Char) : List (String × List UInt8) :=
  ((pieces '&' query).map fun piece =>
    (decoded (resolved (cut '=' piece).1), resolved (cut '=' piece).2)).filter fun (name, _) => name != ""

/-- How a database is opened. -/
inductive Access
  | readOnly | readWrite | create | memory
deriving DecidableEq, Repr

namespace Access

def ofText? : String → Option Access
  | "ro" => some readOnly
  | "rw" => some readWrite
  | "rwc" => some create
  | "memory" => some memory
  | _ => none

/-- What an access asks for. Memory asks for nothing. -/
def demand : Access → Nat
  | readOnly => 1
  | readWrite => 2
  | create => 6
  | memory => 0

/-- What may be asked for after an access. After memory it is everything. -/
def allowance : Access → Nat
  | memory => 128
  | access => access.demand

end Access

def drivers : List String :=
  ["unix", "unix-none", "unix-dotfile", "unix-excl", "memdb"]

/-- The access, the driver, and the file to take the mode of, as options ask for them. -/
structure Request where
  access : Access
  driver : Option String
  modeOf : Option Path

/-- Reading, with nothing else asked for. -/
def Request.plain : Request :=
  ⟨.readOnly, none, none⟩

/-- Adds one option. Options of other names have no meaning here. -/
def Request.add (request : Request) : String × List UInt8 → Except SourceFault Request
  | ("vfs", name) => .ok { request with driver := some (decoded name) }
  | ("modeof", path) => .ok { request with modeOf := request.modeOf.or (some path) }
  | ("cache", mode) =>
    if ["shared", "private"].contains (decoded mode) then .ok request
    else .error (.unknownMode "cache" (decoded mode))
  | ("mode", mode) =>
    match Access.ofText? (decoded mode) with
    | none => .error (.unknownMode "access" (decoded mode))
    | some access =>
      if access.demand ≤ request.access.allowance then .ok { request with access := access }
      else .error (.forbiddenMode (decoded mode))
  | _ => .ok request

end Address

/-- The place of a database: in memory, where it is new and empty, or in a file. -/
inductive Address
  | memory
  | file (path : Path) (access : Address.Access) (modeOf : Option Path)
deriving DecidableEq, Repr

namespace Address

/-- What a request means for the database at a path. -/
def Request.address (request : Request) (path : Path) : Except SourceFault Address :=
  match request.driver.filter (!drivers.contains ·) with
  | some name => .error (.unknownDriver name)
  | none =>
    if request.access == .memory || request.driver == some "memdb" || path.isEmpty ||
        path == encoded ":memory:" then
      .ok .memory
    else .ok (.file path request.access request.modeOf)

/-! ## Texts -/

/-- The text after the authority, if there is one. It can only be this machine. -/
def withoutAuthority : List Char → Except SourceFault (List Char)
  | '/' :: '/' :: rest =>
    let authority := String.ofList (rest.takeWhile (· != '/'))
    if authority == "" || authority == "localhost" then .ok (rest.dropWhile (· != '/'))
    else .error (.foreignAuthority authority)
  | rest => .ok rest

/-- The meaning of what follows `file:`. A number sign ends it. -/
def ofUri (cs : List Char) : Except SourceFault Address := do
  let rest := (← withoutAuthority cs).takeWhile (· != '#')
  let request ← (options (cut '?' rest).2).foldlM Request.add .plain
  request.address (resolved (cut '?' rest).1)

/-- The place of the first null character, in bytes. -/
def nullPosition? (text : String) : Option Nat :=
  let before := text.toList.takeWhile (· != '\x00')
  if before.length < text.length then some (String.ofList before).utf8ByteSize else none

def parse (text : String) : Except SourceFault Address :=
  match nullPosition? text with
  | some position => .error (.nullInPath position)
  | none =>
    match text.toList with
    | 'f' :: 'i' :: 'l' :: 'e' :: ':' :: rest => ofUri rest
    | _ => Request.plain.address (encoded text)

end Address

end CatalogDdl
