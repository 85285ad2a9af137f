import CatalogDdl.Connection.IpAddress
import CatalogDdl.Connection.Parameters

/-! # Connection settings

What the parameters of a connection string mean.

* `Form`: the form of a value. `Connection.keys`: the keys there are, with the form of their values.
* `Settings.ofText?`: the parameters of a connection string, each with a value that its key can have.
* `Settings.addresses?`: the addresses to try, in order.
* `Settings.isOpen`: whether a server that asks for no encryption and no proof of identity is acceptable.
* `Settings.asksMode`: whether it matters if the server takes changes. `Settings.takesMode`: whether its answer will do.
-/

namespace CatalogDdl.Connection
set_option autoImplicit false
open Text

/-! ## Keys -/

/-- The form of a value. -/
inductive Form
  | text
  | oneOf (values : List String)
  | number (lowest highest : Nat)
  | tcpPorts
  | ipAddresses

/-- The TCP port of an item. An empty item is the usual one. -/
def tcpPort? (item : List Char) : Option Nat :=
  if item.isEmpty then some 5432 else plusNumeral? 65535 item

def listItems (value : String) : List (List Char) :=
  pieces ',' value.toList

/-- Whether a value has a form. A number may have a sign; below zero it goes down to `-lowest`. -/
def Form.accepts : Form → String → Bool
  | text, _ => true
  | oneOf values, value => values.contains value
  | number 0 highest, value => (plusNumeral? highest value.toList).isSome
  | number lowest highest, value => (signedNumeral? lowest highest value.toList).isSome
  | tcpPorts, value => (listItems value).all fun item => (tcpPort? item).isSome
  | ipAddresses, value => (listItems value).all fun item => isIpAddress (String.ofList item)

/-- A signed number of 64 bits. -/
def Form.signed : Form :=
  number 0x8000000000000000 0x7FFFFFFFFFFFFFFF

/-- The keys of parameters, with the form of their values. -/
def keys : List (String × Form) := [
  ("user", .text), ("password", .text), ("dbname", .text), ("options", .text), ("application_name", .text),
  ("sslmode", .oneOf ["disable", "prefer", "require"]), ("sslnegotiation", .oneOf ["postgres", "direct"]),
  ("host", .text), ("hostaddr", .ipAddresses), ("port", .tcpPorts),
  ("connect_timeout", .signed), ("tcp_user_timeout", .signed),
  ("keepalives", .number 0 0xFFFFFFFFFFFFFFFF), ("keepalives_idle", .signed),
  ("keepalives_interval", .signed), ("keepalives_retries", .number 0 0xFFFFFFFF),
  ("target_session_attrs", .oneOf ["any", "read-write", "read-only"]),
  ("channel_binding", .oneOf ["disable", "prefer", "require"]),
  ("load_balance_hosts", .oneOf ["disable", "random"])]

/-! ## Settings -/

/-- Parameters of which each has a value that its key can have. -/
structure Settings where
  parameters : List (String × String)

namespace Settings

def ofText? (text : String) : Option Settings := do
  let parameters ← parameters? text
  if parameters.all fun (key, value) => (keys.lookup key).any (·.accepts value) then some ⟨parameters⟩
  else none

/-- The values of a key, in order. -/
def values (settings : Settings) (key : String) : List String :=
  (settings.parameters.filter (·.1 == key)).map (·.2)

/-- The value of a key: the last one counts. -/
def value? (settings : Settings) (key : String) : Option String :=
  (settings.values key).getLast?

/-- The items of the values of a key, which add up. -/
def items (settings : Settings) (key : String) : List (List Char) :=
  (settings.values key).flatMap listItems

/-- The addresses with their TCP ports. A host may have an address of its own, and then all of them have. A
single TCP port serves all; otherwise there is one for each. -/
def addresses? (settings : Settings) : Option (List (String × Nat)) :=
  let hosts := settings.items "host"
  let ipAddresses := settings.items "hostaddr"
  let tcpPorts := (settings.items "port").filterMap tcpPort?
  let places := if ipAddresses.isEmpty then hosts else ipAddresses
  if !hosts.isEmpty && hosts.length != places.length then none
  else if tcpPorts.length > 1 && tcpPorts.length != places.length then none
  else
    some (places.zipIdx.map fun (place, i) =>
      (String.ofList place, tcpPorts[i]?.getD (tcpPorts.head?.getD 5432)))

/-- The values that are sent to the server at the beginning. -/
def announced (settings : Settings) : List String :=
  ["user", "dbname", "options", "application_name"].filterMap settings.value?

/-- Whether a server that encrypts nothing and asks for no proof will do, and can be told everything that it has
to know. -/
def isOpen (settings : Settings) : Bool :=
  settings.value? "sslmode" != some "require" && settings.value? "channel_binding" != some "require" &&
    settings.announced.all (!·.toList.contains '\x00')

/-- Whether a server has to say in which mode it works. -/
def asksMode (settings : Settings) : Bool :=
  (settings.value? "target_session_attrs").any (· != "any")

/-- Whether a server will do that says whether it is for reading only, with the word `on` or `off`. -/
def takesMode (settings : Settings) (mode : String) : Bool :=
  match settings.value? "target_session_attrs" with
  | some "read-write" => mode != "on"
  | some "read-only" => mode != "off"
  | _ => true

end Settings

end CatalogDdl.Connection
