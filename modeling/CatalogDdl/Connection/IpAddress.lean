import CatalogDdl.Text.Basic

/-! # Internet addresses

Which texts are addresses.

* `isIpv4`: four numbers below 256 with points between them.
* `isIpv6`: eight groups of hexadecimal digits with colons between them. Two colons stand for the groups that
  are missing, and the last two groups may have the form of the shorter address.
-/

namespace CatalogDdl.Connection
set_option autoImplicit false
open Text

/-- A number below 256 without leading zeros. -/
def isOctet (cs : List Char) : Bool :=
  (numeral? 255 cs).isSome && (cs.head? != some '0' || cs.length == 1)

def isIpv4 (cs : List Char) : Bool :=
  (pieces '.' cs).length == 4 && (pieces '.' cs).all isOctet

/-- One to four hexadecimal digits. -/
def isGroup (cs : List Char) : Bool :=
  !cs.isEmpty && cs.length ≤ 4 && cs.all isHexDigit

/-- The number of groups between colons. The last one may count twice. -/
def groupCount? : List (List Char) → Option Nat
  | [] => some 0
  | [last] => if isGroup last then some 1 else if isIpv4 last then some 2 else none
  | group :: more => if isGroup group then (groupCount? more).map (· + 1) else none

/-- The number of groups in a text, which may have none. -/
def groupsIn? (cs : List Char) : Option Nat :=
  if cs.isEmpty then some 0 else groupCount? (pieces ':' cs)

/-- A text up to the first two colons, and what follows them. -/
def cutAtColons : List Char → Option (List Char × List Char)
  | [] => none
  | c :: rest =>
    if c == ':' && rest.head? == some ':' then some ([], rest.tail)
    else (cutAtColons rest).map fun (before, after) => (c :: before, after)

def isIpv6 (cs : List Char) : Bool :=
  match cutAtColons cs with
  | none => groupsIn? cs == some 8
  | some (before, after) =>
    match groupsIn? before, groupsIn? after with
    | some m, some n => m + n ≤ 7 && !before.contains '.'
    | _, _ => false

def isIpAddress (text : String) : Bool :=
  isIpv4 text.toList || isIpv6 text.toList

end CatalogDdl.Connection
