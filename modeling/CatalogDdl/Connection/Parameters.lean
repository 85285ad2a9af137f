import CatalogDdl.Text.Basic

/-! # Connection strings

* `Connection.value?`: a value, bare or in single quotes.
* `Connection.parameter?`: a key, an equals sign and a value. `Connection.parameters?`: all of them, as a string
  lists them.
* `Target`: a database on a server, and the connection string made of it.
-/

namespace CatalogDdl.Connection
set_option autoImplicit false
open Text

/-! ## Values -/

/-- The value before the closing quote, and what follows the quote. A backslash keeps the next character. -/
def quotedValue? : List Char → Option (List Char × List Char)
  | [] => none
  | '\x27' :: rest => some ([], rest)
  | ['\\'] => none
  | '\\' :: c :: rest => (quotedValue? rest).map fun (value, rest) => (c :: value, rest)
  | c :: rest => (quotedValue? rest).map fun (value, rest) => (c :: value, rest)

/-- The value up to the next blank, and what follows. A backslash keeps the next character. -/
def bareValue : List Char → List Char × List Char
  | [] => ([], [])
  | ['\\'] => ([], [])
  | '\\' :: c :: rest => (c :: (bareValue rest).1, (bareValue rest).2)
  | c :: rest => if isBlank c then ([], c :: rest) else (c :: (bareValue rest).1, (bareValue rest).2)

/-- A value, in quotes or bare. A bare value is not empty. -/
def value? : List Char → Option (List Char × List Char)
  | '\x27' :: rest => quotedValue? rest
  | cs => if (bareValue cs).1.isEmpty then none else some (bareValue cs)

theorem length_quotedValue? {cs value rest : List Char} (h : quotedValue? cs = some (value, rest)) :
    rest.length ≤ cs.length := by
  fun_induction quotedValue? cs generalizing value with
  | case1 => simp at h
  | case2 => simp_all
  | case3 => simp at h
  | case4 c cs ih =>
    obtain ⟨⟨v, r⟩, hr, e⟩ := Option.map_eq_some_iff.1 h
    simp only [Prod.mk.injEq] at e
    have := ih (e.2 ▸ hr)
    simp only [List.length_cons]
    omega
  | case5 c cs _ _ _ ih =>
    obtain ⟨⟨v, r⟩, hr, e⟩ := Option.map_eq_some_iff.1 h
    simp only [Prod.mk.injEq] at e
    have := ih (e.2 ▸ hr)
    simp only [List.length_cons]
    omega

theorem length_bareValue_le (cs : List Char) : (bareValue cs).2.length ≤ cs.length := by
  fun_induction bareValue cs with
  | case1 => simp
  | case2 => simp
  | case3 c cs ih => simp only [List.length_cons]; omega
  | case4 => simp
  | case5 c cs _ _ ih => simp only [List.length_cons]; omega

theorem length_value? {cs value rest : List Char} (h : value? cs = some (value, rest)) :
    rest.length ≤ cs.length := by
  unfold value? at h
  split at h
  · have := length_quotedValue? h
    simp only [List.length_cons]
    omega
  · split at h
    · simp at h
    · have := length_bareValue_le cs
      simp_all

/-! ## Parameters -/

def inKey (c : Char) : Bool :=
  !isBlank c && c != '='

/-- One parameter, and what follows it. Blanks may stand before and after the equals sign. -/
def parameter? (cs : List Char) : Option ((String × String) × List Char) :=
  match skipBlanks (cs.dropWhile inKey) with
  | '=' :: rest =>
    (value? (skipBlanks rest)).map fun (value, rest) =>
      ((.ofList (cs.takeWhile inKey), .ofList value), rest)
  | _ => none

theorem length_parameter? {cs rest : List Char} {entry : String × String}
    (h : parameter? cs = some (entry, rest)) : rest.length < cs.length := by
  unfold parameter? at h
  split at h
  · next more e =>
    obtain ⟨⟨v, r⟩, hr, e'⟩ := Option.map_eq_some_iff.1 h
    simp only [Prod.mk.injEq] at e'
    have h1 := length_value? (e'.2 ▸ hr)
    have h2 := length_skipBlanks_le more
    have h3 := length_skipBlanks_le (cs.dropWhile inKey)
    have h4 := (List.dropWhile_suffix (l := cs) inKey).length_le
    rw [e, List.length_cons] at h3
    omega
  · simp at h

/-- The parameters up to the end of a text, or up to a place where a key is missing. -/
def readParameters (cs : List Char) : Option (List (String × String)) :=
  if ((skipBlanks cs).takeWhile inKey).isEmpty then some []
  else
    match _h : parameter? (skipBlanks cs) with
    | none => none
    | some (entry, rest) => (readParameters rest).map (entry :: ·)
termination_by cs.length
decreasing_by
  have h1 := length_parameter? _h
  have h2 := length_skipBlanks_le cs
  omega

def parameters? (text : String) : Option (List (String × String)) :=
  readParameters text.toList

end CatalogDdl.Connection

/-! ## Targets -/

namespace CatalogDdl

/-- A database on a server, and who asks for it. -/
structure Target where
  host : String
  tcpPort : Nat
  user : String
  password : String
  database : String
deriving DecidableEq, Repr

namespace Target

/-- The parameters of a target, with the keys by which a connection string names them. -/
def parameters (target : Target) : List (String × String) :=
  [("host", target.host), ("port", toString target.tcpPort), ("user", target.user),
    ("password", target.password), ("dbname", target.database)]

/-- The connection string of a target. The values stand in it as they are. -/
def connectionString (target : Target) : String :=
  " ".intercalate (target.parameters.map fun (key, value) => s!"{key}={value}")

end Target

end CatalogDdl
