import Mathlib.Data.List.DropRight
import CatalogDdl.Command.Arguments
import CatalogDdl.Connection.Parameters
import CatalogDdl.Proofs.Sql.Declaration

/-! # What a connection string says

The values of a target stand in its connection string as they are. Some of them are read as other values there, and
some take in what stands after them.

* `IsBare`: a value that is not empty, holds neither blanks nor backslashes and does not begin with a quote.
* `parametersText`: parameters as a text. `length_of_readParameters`: no text is read as longer parameters.
* `readParameters_text_iff`: parameters are read back exactly if their values are bare.
* `Target.parameters?_connectionString_iff`: the same for a target, and for one that is made of what is asked for.
-/

namespace CatalogDdl.Connection
set_option autoImplicit false
open Text

def isBareChar (c : Char) : Bool :=
  !isBlank c && c != '\\'

/-- Whether a value stands for itself where it is written without quotes. -/
def IsBare (value : String) : Prop :=
  value ≠ "" ∧ value.toList.head? ≠ some '\x27' ∧ ∀ c ∈ value.toList, isBareChar c = true

instance (value : String) : Decidable (IsBare value) :=
  decidable_of_iff (value ≠ "" ∧ value.toList.head? ≠ some '\x27' ∧ value.toList.all isBareChar = true)
    (by rw [List.all_eq_true, IsBare])

def IsKey (key : String) : Prop :=
  key ≠ "" ∧ ∀ c ∈ key.toList, inKey c = true

instance (key : String) : Decidable (IsKey key) :=
  decidable_of_iff (key ≠ "" ∧ key.toList.all inKey = true) (by rw [List.all_eq_true, IsKey])

/-- Parameters as they stand in a connection string. -/
def parametersText : List (String × String) → List Char
  | [] => []
  | [(key, value)] => key.toList ++ '=' :: value.toList
  | (key, value) :: next :: more => key.toList ++ '=' :: (value.toList ++ ' ' :: parametersText (next :: more))

theorem toList_intercalate_parameters (parameters : List (String × String)) :
    (" ".intercalate (parameters.map fun (key, value) => s!"{key}={value}")).toList = parametersText parameters := by
  induction parameters with
  | nil => rfl
  | cons parameter parameters ih =>
    obtain ⟨key, value⟩ := parameter
    have hp : (s!"{key}={value}").toList = key.toList ++ '=' :: value.toList := by simp [toString]
    cases parameters with
    | nil => simpa [parametersText] using hp
    | cons next more =>
      rw [List.map_cons] at ih
      rw [List.map_cons, List.map_cons, String.intercalate_cons_cons, String.toList_append, String.toList_append, ih,
        parametersText]
      change (s!"{key}={value}").toList ++ " ".toList ++ _ = _
      rw [hp]
      simp

theorem length_parametersText_pos {parameters : List (String × String)} (h : parameters ≠ []) :
    0 < (parametersText parameters).length := by
  cases parameters with
  | nil => contradiction
  | cons parameter parameters =>
    cases parameters <;> simp only [parametersText, List.length_append, List.length_cons] <;> omega

/-! ## Bare values are read back -/

theorem exists_cons {text : String} (h : text ≠ "") : ∃ c cs, text.toList = c :: cs :=
  List.exists_cons_of_ne_nil fun e => h (String.toList_inj.1 e)

theorem isBareChar_iff {c : Char} : isBareChar c = true ↔ isBlank c = false ∧ c ≠ '\\' := by
  simp [isBareChar]

theorem bareValue_cons {c : Char} (h : isBareChar c = true) (cs : List Char) :
    bareValue (c :: cs) = (c :: (bareValue cs).1, (bareValue cs).2) := by
  obtain ⟨hb, hc⟩ := isBareChar_iff.1 h
  rw [bareValue.eq_def]
  split <;> simp_all

theorem bareValue_stop {cs : List Char} (h : ∀ c ∈ cs.head?, isBlank c = true) : bareValue cs = ([], cs) := by
  cases cs with
  | nil => rfl
  | cons c cs =>
    have hb : isBlank c = true := h c rfl
    have hc : c ≠ '\\' := by
      rintro rfl
      contradiction
    rw [bareValue.eq_def]
    split <;> simp_all

theorem bareValue_append {value rest : List Char} (h : ∀ c ∈ value, isBareChar c = true)
    (hr : ∀ c ∈ rest.head?, isBlank c = true) : bareValue (value ++ rest) = (value, rest) := by
  induction value with
  | nil => exact bareValue_stop hr
  | cons c value ih =>
    have hv := ih fun d hd => h d (List.mem_cons_of_mem c hd)
    rw [List.cons_append, bareValue_cons (h c List.mem_cons_self), hv]

theorem value?_append {value : String} (h : IsBare value) {rest : List Char}
    (hr : ∀ c ∈ rest.head?, isBlank c = true) : value? (value.toList ++ rest) = some (value.toList, rest) := by
  obtain ⟨hn, hq, hc⟩ := h
  obtain ⟨c, cs, e⟩ := exists_cons hn
  have hv := bareValue_append hc hr
  rw [e] at hq hv ⊢
  have hne : c ≠ '\x27' := Sql.ne_of_head?_ne hq
  rw [List.cons_append] at hv ⊢
  rw [value?.eq_def]
  split
  · next he =>
    obtain ⟨rfl, -⟩ := List.cons.inj he
    contradiction
  · rw [hv]
    rfl

theorem skipBlanks_of_head {cs : List Char} (h : ∀ c ∈ cs.head?, isBlank c = false) : skipBlanks cs = cs := by
  cases cs with
  | nil => rfl
  | cons c cs => exact List.dropWhile_cons_of_neg (by simp [h c rfl])

theorem skipBlanks_skipBlanks (cs : List Char) : skipBlanks (skipBlanks cs) = skipBlanks cs :=
  List.dropWhile_idempotent isBlank cs

theorem readParameters_skipBlanks (cs : List Char) : readParameters (skipBlanks cs) = readParameters cs := by
  rw [readParameters, readParameters.eq_def cs, skipBlanks_skipBlanks]

theorem isBlank_of_inKey {c : Char} (h : inKey c = true) : isBlank c = false := by
  rw [inKey, Bool.and_eq_true, Bool.not_eq_true'] at h
  exact h.1

theorem isBlank_of_isBareChar {c : Char} (h : isBareChar c = true) : isBlank c = false :=
  (isBareChar_iff.1 h).1

section
variable {key value : String}

theorem takeWhile_key (hk : IsKey key) (rest : List Char) :
    (key.toList ++ '=' :: rest).takeWhile inKey = key.toList :=
  Sql.takeWhile_append_stop hk.2 (by simp [inKey])

theorem head_key (hk : IsKey key) (rest : List Char) :
    ∀ c ∈ (key.toList ++ '=' :: rest).head?, isBlank c = false := by
  obtain ⟨d, ds, e⟩ := exists_cons hk.1
  intro c hc
  rw [e] at hc
  obtain rfl := Option.some.inj hc
  exact isBlank_of_inKey (hk.2 d (e ▸ List.mem_cons_self))

theorem parameter?_append {rest : List Char} (hk : IsKey key) (hv : IsBare value)
    (hr : ∀ c ∈ rest.head?, isBlank c = true) :
    parameter? (key.toList ++ '=' :: (value.toList ++ rest)) = some ((key, value), rest) := by
  have hd : (key.toList ++ '=' :: (value.toList ++ rest)).dropWhile inKey = '=' :: (value.toList ++ rest) :=
    Sql.dropWhile_append_stop hk.2 (by simp [inKey])
  have he : skipBlanks ('=' :: (value.toList ++ rest)) = '=' :: (value.toList ++ rest) :=
    skipBlanks_of_head (by simp [isBlank])
  have hs : skipBlanks (value.toList ++ rest) = value.toList ++ rest := by
    obtain ⟨d, ds, e⟩ := exists_cons hv.1
    refine skipBlanks_of_head fun c hc => ?_
    rw [e] at hc
    obtain rfl := Option.some.inj hc
    exact isBlank_of_isBareChar (hv.2.2 d (e ▸ List.mem_cons_self))
  rw [parameter?, hd, he]
  simp only [hs, value?_append hv hr, takeWhile_key hk, Option.map_some, String.ofList_toList]

theorem readParameters_append (hk : IsKey key) (hv : IsBare value) (rest : List Char)
    (hr : ∀ c ∈ rest.head?, isBlank c = true) :
    readParameters (key.toList ++ '=' :: (value.toList ++ rest)) =
      (readParameters rest).map ((key, value) :: ·) := by
  have hs : skipBlanks (key.toList ++ '=' :: (value.toList ++ rest)) = key.toList ++ '=' :: (value.toList ++ rest) :=
    skipBlanks_of_head (head_key hk _)
  have hne : key.toList ≠ [] := fun e => hk.1 (String.toList_inj.1 e)
  rw [readParameters, hs, takeWhile_key hk, if_neg (by simpa using hne)]
  split
  · next hp =>
    rw [parameter?_append hk hv hr] at hp
    contradiction
  · next hp =>
    rw [parameter?_append hk hv hr] at hp
    obtain ⟨rfl, rfl⟩ := Prod.mk.inj (Option.some.inj hp)
    rfl

end

theorem readParameters_nil : readParameters [] = some [] := by
  rw [readParameters]
  rfl

theorem readParameters_text {parameters : List (String × String)} (hk : ∀ entry ∈ parameters, IsKey entry.1)
    (hv : ∀ entry ∈ parameters, IsBare entry.2) : readParameters (parametersText parameters) = some parameters := by
  induction parameters with
  | nil => exact readParameters_nil
  | cons parameter parameters ih =>
    rw [List.forall_mem_cons] at hk hv
    have ih := ih hk.2 hv.2
    obtain ⟨key, value⟩ := parameter
    cases parameters with
    | nil =>
      have h := readParameters_append hk.1 hv.1 [] (by simp)
      rw [List.append_nil, readParameters_nil] at h
      exact h
    | cons next more =>
      have h := readParameters_append hk.1 hv.1 (' ' :: parametersText (next :: more)) (by simp [isBlank])
      have hs : skipBlanks (' ' :: parametersText (next :: more)) = skipBlanks (parametersText (next :: more)) := rfl
      rw [← readParameters_skipBlanks (' ' :: _), hs, readParameters_skipBlanks, ih] at h
      exact h

/-! ## No other values are read back -/

theorem head?_bareValue (cs : List Char) : ∀ c ∈ (bareValue cs).2.head?, isBlank c = true := by
  fun_induction bareValue cs with
  | case1 => simp
  | case2 => simp
  | case3 c rest ih => exact ih
  | case4 => simp_all
  | case5 c rest _ _ _ ih => exact ih

/-- A bare value is no longer than its text. If it is as long, it is the text itself. -/
theorem length_bareValue (cs : List Char) :
    (bareValue cs).1.length + (bareValue cs).2.length ≤ cs.length ∧
      (cs.length ≤ (bareValue cs).1.length + (bareValue cs).2.length →
        cs = (bareValue cs).1 ++ (bareValue cs).2 ∧ ∀ c ∈ (bareValue cs).1, isBareChar c = true) := by
  fun_induction bareValue cs with
  | case1 => simp
  | case2 => simp
  | case3 c rest ih =>
    have hl := ih.1
    simp only [List.length_cons]
    exact ⟨by omega, fun h => by omega⟩
  | case4 => simp
  | case5 c rest hn hc hb ih =>
    have hl := ih.1
    simp only [List.length_cons]
    refine ⟨by omega, fun h => ?_⟩
    obtain ⟨he, ha⟩ := ih.2 (by omega)
    have hne : c ≠ '\\' := by
      rintro rfl
      cases rest with
      | nil => exact hn rfl rfl
      | cons d rest => exact hc d rest rfl rfl
    exact ⟨congrArg (c :: ·) he, List.forall_mem_cons.2 ⟨isBareChar_iff.2 ⟨by simpa using hb, hne⟩, ha⟩⟩

theorem length_quotedValue {cs value rest : List Char} (h : quotedValue? cs = some (value, rest)) :
    value.length + rest.length + 1 ≤ cs.length := by
  fun_induction quotedValue? cs generalizing value with
  | case1 => simp at h
  | case2 => simp_all
  | case3 => simp at h
  | case4 c cs ih =>
    obtain ⟨⟨v, r⟩, hr, e⟩ := Option.map_eq_some_iff.1 h
    obtain ⟨rfl, rfl⟩ := Prod.mk.inj e
    have := ih hr
    simp only [List.length_cons]
    omega
  | case5 c cs _ _ _ ih =>
    obtain ⟨⟨v, r⟩, hr, e⟩ := Option.map_eq_some_iff.1 h
    obtain ⟨rfl, rfl⟩ := Prod.mk.inj e
    have := ih hr
    simp only [List.length_cons]
    omega

/-- A value takes up at least its own length, and two quotes if it has them. Without quotes a blank or the end of the
text comes next. -/
theorem value?_cases {cs value rest : List Char} (h : value? cs = some (value, rest)) :
    value.length + rest.length + 2 ≤ cs.length ∨
      value.length + rest.length ≤ cs.length ∧ (∀ c ∈ rest.head?, isBlank c = true) ∧
        (cs.length ≤ value.length + rest.length → IsBare (String.ofList value)) := by
  rw [value?.eq_def] at h
  split at h
  · have := length_quotedValue h
    simp only [List.length_cons]
    exact .inl (by omega)
  · next hq =>
    split at h
    · contradiction
    · next hn =>
      obtain rfl : (bareValue cs).1 = value := congrArg Prod.fst (Option.some.inj h)
      obtain rfl : (bareValue cs).2 = rest := congrArg Prod.snd (Option.some.inj h)
      have hl := length_bareValue cs
      refine .inr ⟨hl.1, head?_bareValue cs, fun hle => ?_⟩
      obtain ⟨he, ha⟩ := hl.2 hle
      have hv : (bareValue cs).1 ≠ [] := by simpa using hn
      obtain ⟨c, more, e⟩ := List.exists_cons_of_ne_nil hv
      rw [IsBare, String.toList_ofList]
      refine ⟨fun h0 => hv (by simpa using congrArg String.toList h0), fun h0 => ?_, ha⟩
      rw [e, List.head?_cons, Option.some.injEq] at h0
      rw [e, h0, List.cons_append] at he
      exact hq _ he

theorem parameter?_cases {cs rest : List Char} {entry : String × String}
    (h : parameter? cs = some (entry, rest)) :
    entry.1.toList.length + 1 + entry.2.toList.length + rest.length + 2 ≤ cs.length ∨
      entry.1.toList.length + 1 + entry.2.toList.length + rest.length ≤ cs.length ∧
        (∀ c ∈ rest.head?, isBlank c = true) ∧
        (cs.length ≤ entry.1.toList.length + 1 + entry.2.toList.length + rest.length → IsBare entry.2) := by
  have hk : (cs.takeWhile inKey).length + (cs.dropWhile inKey).length = cs.length := by
    rw [← List.length_append, List.takeWhile_append_dropWhile]
  have hs := length_skipBlanks_le (cs.dropWhile inKey)
  unfold parameter? at h
  split at h
  · next more e =>
    obtain ⟨⟨value, left⟩, hv, he⟩ := Option.map_eq_some_iff.1 h
    obtain ⟨rfl, rfl⟩ := Prod.mk.inj he
    have hm := length_skipBlanks_le more
    rw [e, List.length_cons] at hs
    simp only [String.toList_ofList]
    rcases value?_cases hv with hl | ⟨hl, hb, hi⟩
    · exact .inl (by omega)
    · exact .inr ⟨by omega, hb, fun hle => hi (by omega)⟩
  · contradiction

/-- **Nothing is read that is longer than its text.** Parameters that take up all of the text have bare values. -/
theorem length_of_readParameters {cs : List Char} {parameters : List (String × String)}
    (h : readParameters cs = some parameters) :
    (parametersText parameters).length ≤ (skipBlanks cs).length ∧
      ((skipBlanks cs).length ≤ (parametersText parameters).length → ∀ entry ∈ parameters, IsBare entry.2) := by
  induction parameters generalizing cs with
  | nil => exact ⟨Nat.zero_le _, fun _ => by simp⟩
  | cons entry parameters ih =>
    rw [readParameters] at h
    split at h
    · simp at h
    · split at h
      · contradiction
      · next found rest hp =>
        obtain ⟨read, hr, e⟩ := Option.map_eq_some_iff.1 h
        obtain ⟨rfl, rfl⟩ := List.cons.inj e
        obtain ⟨hl, hi⟩ := ih hr
        have hs := length_skipBlanks_le rest
        rw [List.forall_mem_cons]
        cases read with
        | nil =>
          have hw : (parametersText [found]).length = found.1.toList.length + 1 + found.2.toList.length := by
            simp only [parametersText, List.length_append, List.length_cons]
            omega
          rcases parameter?_cases hp with hc | ⟨hc, -, hb⟩
          · exact ⟨by omega, fun hle => by omega⟩
          · exact ⟨by omega, fun hle => ⟨hb (by omega), by simp⟩⟩
        | cons next more =>
          have hw : (parametersText (found :: next :: more)).length =
              found.1.toList.length + 1 + found.2.toList.length + 1 + (parametersText (next :: more)).length := by
            simp only [parametersText, List.length_append, List.length_cons]
            omega
          have hm := length_parametersText_pos (List.cons_ne_nil next more)
          rcases parameter?_cases hp with hc | ⟨hc, hb, hv⟩
          · exact ⟨by omega, fun hle => by omega⟩
          · -- A bare value ends at a blank, so that one character at least stands between two parameters.
            have hg : (skipBlanks rest).length + 1 ≤ rest.length := by
              cases rest with
              | nil => simp only [skipBlanks, List.dropWhile_nil, List.length_nil] at hl; omega
              | cons c rest =>
                have hc : skipBlanks (c :: rest) = skipBlanks rest := List.dropWhile_cons_of_pos (hb c rfl)
                have := length_skipBlanks_le rest
                rw [hc, List.length_cons]
                omega
            exact ⟨by omega, fun hle => ⟨hv (by omega), hi (by omega)⟩⟩

theorem readParameters_text_iff {parameters : List (String × String)}
    (hk : ∀ entry ∈ parameters, IsKey entry.1) :
    readParameters (parametersText parameters) = some parameters ↔ ∀ entry ∈ parameters, IsBare entry.2 := by
  constructor
  · intro h
    exact (length_of_readParameters h).2 (length_skipBlanks_le _)
  · exact readParameters_text hk

example : IsBare "it\x27s" ∧ ¬ IsBare "" ∧ ¬ IsBare "two words" ∧ ¬ IsBare "\x27quoted" ∧ ¬ IsBare "C:\\" := by decide

theorem isBareChar_of_isDigit {c : Char} (h : c.isDigit = true) : isBareChar c = true ∧ c ≠ '\x27' := by
  have hd : 48 ≤ c.toNat ∧ c.toNat ≤ 57 := Char.isDigit_iff_toNat.1 h
  refine ⟨isBareChar_iff.2 ⟨?_, ?_⟩, ?_⟩
  · simp [isBlank]
    omega
  · rintro rfl
    contradiction
  · rintro rfl
    contradiction

theorem isBare_toString (n : Nat) : IsBare (toString n) := by
  have hd : ∀ c ∈ (toString n).toList, c.isDigit = true := fun c hc => Sql.isDigit_toString n hc
  have hn : (toString n).toList ≠ [] := by
    rw [Nat.toString_eq_repr, Nat.toList_repr]
    exact Nat.toDigits_ne_nil
  refine ⟨fun e => hn (by rw [e]; rfl), fun e => ?_, fun c hc => (isBareChar_of_isDigit (hd c hc)).1⟩
  exact (isBareChar_of_isDigit (hd _ (List.mem_of_mem_head? e))).2 rfl

end CatalogDdl.Connection

/-! ## Targets -/

namespace CatalogDdl
open Connection

namespace Target
variable (target : Target)

theorem toList_connectionString : target.connectionString.toList = parametersText target.parameters :=
  toList_intercalate_parameters target.parameters

theorem isKey_parameters : ∀ entry ∈ target.parameters, IsKey entry.1 := by
  have hk : ∀ key ∈ ["host", "port", "user", "password", "dbname"], IsKey key := by decide
  intro entry h
  exact hk entry.1 (List.mem_map_of_mem h)

/-- Whether every text of a target stands for itself in a connection string. -/
def IsPlain (target : Target) : Prop :=
  IsBare target.host ∧ IsBare target.user ∧ IsBare target.password ∧ IsBare target.database

theorem isBare_parameters_iff : (∀ entry ∈ target.parameters, IsBare entry.2) ↔ target.IsPlain := by
  have ht := isBare_toString target.tcpPort
  simp only [parameters, IsPlain, List.forall_mem_cons, List.not_mem_nil, false_implies, implies_true, and_true]
  tauto

theorem parameters?_eq_some_iff :
    parameters? target.connectionString = some target.parameters ↔ target.IsPlain := by
  rw [parameters?, toList_connectionString, readParameters_text_iff target.isKey_parameters,
    isBare_parameters_iff]

end Target

theorem isBare_getD_iff {user : String} (database : Option String) (h : IsBare user) :
    IsBare (database.getD user) ↔ ∀ name ∈ database, IsBare name := by
  cases database with
  | none => exact iff_of_true h (by simp)
  | some name => simp

/-- **A connection string says what its target is exactly if all texts of the target are bare.** For a target that is
made of what is asked for, these are the texts that are asked for. -/
theorem Target.parameters?_connectionString_iff (target : Target) (host : String) (tcpPort : Nat)
    (user password : String) (database : Option String) :
    (parameters? target.connectionString =
        some [("host", target.host), ("port", toString target.tcpPort), ("user", target.user),
          ("password", target.password), ("dbname", target.database)] ↔
      IsBare target.host ∧ IsBare target.user ∧ IsBare target.password ∧ IsBare target.database) ∧
    ∃ asked, TargetRequest.target? ⟨some host, tcpPort, user, password, database⟩ = some asked ∧
      (parameters? asked.connectionString =
          some [("host", host), ("port", toString tcpPort), ("user", user), ("password", password),
            ("dbname", database.getD user)] ↔
        IsBare host ∧ IsBare user ∧ IsBare password ∧ ∀ name ∈ database, IsBare name) := by
  have h := parameters?_eq_some_iff ⟨host, tcpPort, user, password, database.getD user⟩
  refine ⟨target.parameters?_eq_some_iff, _, rfl, h.trans ⟨fun ⟨hh, hu, hp, hd⟩ => ?_, fun ⟨hh, hu, hp, hd⟩ => ?_⟩⟩
  · exact ⟨hh, hu, hp, (isBare_getD_iff database hu).1 hd⟩
  · exact ⟨hh, hu, hp, (isBare_getD_iff database hu).2 hd⟩

/-- What is asked for where no password is given. -/
def withoutPassword : TargetRequest :=
  ⟨some "localhost", 5432, "postgres", "", some "formula_one"⟩

/-- **An empty password takes in what follows it**: the name of the database is read as the password. -/
theorem Target.parameters?_withoutPassword :
    ∃ target, withoutPassword.target? = some target ∧
      target = ⟨"localhost", 5432, "postgres", "", "formula_one"⟩ ∧
      target.connectionString = "host=localhost port=5432 user=postgres password= dbname=formula_one" ∧
      parameters? target.connectionString =
        some [("host", "localhost"), ("port", "5432"), ("user", "postgres"), ("password", "dbname=formula_one")] ∧
      parameters? target.connectionString ≠
        some [("host", target.host), ("port", toString target.tcpPort), ("user", target.user),
          ("password", target.password), ("dbname", target.database)] := by
  have hr : parameters? "host=localhost port=5432 user=postgres password= dbname=formula_one" =
      some [("host", "localhost"), ("port", "5432"), ("user", "postgres"), ("password", "dbname=formula_one")] := by
    decide +kernel
  have hs : (⟨"localhost", 5432, "postgres", "", "formula_one"⟩ : Target).connectionString =
      "host=localhost port=5432 user=postgres password= dbname=formula_one" := by decide
  refine ⟨⟨"localhost", 5432, "postgres", "", "formula_one"⟩, rfl, rfl, hs, ?_, fun e => ?_⟩
  · rw [hs, hr]
  · rw [hs, hr] at e
    exact absurd (congrArg (Option.map List.length) e) (by decide)

end CatalogDdl
