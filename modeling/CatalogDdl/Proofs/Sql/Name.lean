import Mathlib.Algebra.BigOperators.Group.List.Defs
import CatalogDdl.Sql.Quoting

/-! # Reading names

The way back from quoted texts and lists of names.

* `after?`: what follows a fixed text; `readWord`: one of several fixed texts.
* `readEnclosed`: a text between two quotes; `readIdentifier`, `readIdentifiers`: a name in double quotes, and
  names separated by commas.
* `readTableName`: a name as the server takes it, bare or in double quotes.

Each reader gives back exactly what was written and leaves exactly what follows it
(`readEnclosed_enclosed`, `readIdentifiers_identifiers`, `readTableName_plainIdentifier`), and names in double
quotes are read from nothing else (`eq_append_of_readIdentifiers`).
-/

namespace CatalogDdl.Sql
set_option autoImplicit false

/-! ## Fixed texts -/

/-- What follows a fixed text at the beginning of another. -/
def after? (word : String) (cs : List Char) : Option (List Char) :=
  word.toList.isPrefixOf? cs

@[simp] theorem after?_append (word : String) (rest : List Char) :
    after? word (word.toList ++ rest) = some rest := by
  rw [after?, List.isPrefixOf?_eq_some_iff_append_eq]

theorem after?_eq_none {word other : String} (h : ¬ word.toList <+: other.toList)
    (h' : ¬ other.toList <+: word.toList) (rest : List Char) : after? word (other.toList ++ rest) = none := by
  rw [Option.eq_none_iff_forall_ne_some]
  intro more e
  rw [after?, List.isPrefixOf?_eq_some_iff_append_eq] at e
  have hw : word.toList <+: other.toList ++ rest := ⟨more, e⟩
  rcases List.prefix_or_prefix_of_prefix hw (List.prefix_append _ _) with hp | hp
  · exact h hp
  · exact h' hp

def readWord {α : Type} (text : α → String) (items : List α) (cs : List Char) : Option (α × List Char) :=
  items.findSome? fun item => (after? (text item) cs).map fun rest => (item, rest)

/-- An item is read back where no text begins with that of another item. -/
theorem readWord_text {α : Type} {text : α → String} {items : List α}
    (h : ∀ a ∈ items, ∀ b ∈ items, a ≠ b → ¬ (text a).toList <+: (text b).toList) {item : α} (hi : item ∈ items)
    (rest : List Char) : readWord text items ((text item).toList ++ rest) = some (item, rest) := by
  obtain ⟨before, more, e, hb⟩ := List.eq_append_cons_of_mem hi
  rw [readWord, List.findSome?_eq_some_iff]
  refine ⟨before, item, more, e, by rw [after?_append]; rfl, fun other ho => ?_⟩
  have hne : other ≠ item := fun he => hb (he ▸ ho)
  have hm : other ∈ items := by rw [e]; exact List.mem_append_left _ ho
  rw [after?_eq_none (h _ hm _ hi hne) (h _ hi _ hm hne.symm)]
  rfl

theorem ne_of_head?_ne {c d : Char} {cs : List Char} (h : (c :: cs).head? ≠ some d) : c ≠ d :=
  fun e => h (congrArg some e)

theorem ne_of_test {p : Char → Bool} {c : Char} (h : p c = true) (d : Char) (hd : p d = false) : c ≠ d := by
  rintro rfl
  rw [h] at hd
  contradiction

section
variable {p : Char → Bool} {cs rest : List Char}

theorem takeWhile_append_stop (h : ∀ c ∈ cs, p c = true) (hr : ∀ c ∈ rest.head?, p c = false) :
    (cs ++ rest).takeWhile p = cs := by
  rw [List.takeWhile_append_of_pos h]
  cases rest with
  | nil => simp
  | cons r more => simp [hr r rfl]

theorem dropWhile_append_stop (h : ∀ c ∈ cs, p c = true) (hr : ∀ c ∈ rest.head?, p c = false) :
    (cs ++ rest).dropWhile p = rest := by
  rw [List.dropWhile_append_of_pos h]
  cases rest with
  | nil => rfl
  | cons r more => rw [List.dropWhile_cons_of_neg (by simp [hr r rfl])]

end

/-! ## Quoted texts -/

/-- Reads a text in which quotes are doubled, up to the quote that closes it. -/
def readDoubled (quote : Char) : List Char → Option (List Char × List Char)
  | [] => none
  | c :: rest =>
    if c = quote then
      match rest with
      | [] => some ([], [])
      | d :: more =>
        if d = quote then (readDoubled quote more).map fun (text, left) => (quote :: text, left)
        else some ([], rest)
    else (readDoubled quote rest).map fun (text, left) => (c :: text, left)

def readEnclosed (quote : Char) : List Char → Option (List Char × List Char)
  | [] => none
  | c :: cs => if c = quote then readDoubled quote cs else none

theorem readDoubled_of_ne {quote c : Char} (h : c ≠ quote) (cs : List Char) :
    readDoubled quote (c :: cs) = (readDoubled quote cs).map fun (text, left) => (c :: text, left) := by
  rw [readDoubled.eq_def]
  simp [h]

theorem readDoubled_doubled (quote : Char) (cs : List Char) {rest : List Char}
    (h : rest.head? ≠ some quote) :
    readDoubled quote (doubled quote cs ++ quote :: rest) = some (cs, rest) := by
  induction cs with
  | nil =>
    cases rest with
    | nil => simp [doubled, readDoubled]
    | cons d more =>
      simp [doubled, readDoubled, ne_of_head?_ne h]
  | cons c cs ih =>
    by_cases hc : c = quote
    · simp [doubled, readDoubled, hc, ih]
    · rw [doubled, if_neg hc, List.cons_append, readDoubled_of_ne hc, ih]
      rfl

theorem readEnclosed_enclosed (quote : Char) (cs : List Char) {rest : List Char}
    (h : rest.head? ≠ some quote) :
    readEnclosed quote (enclosed quote cs ++ rest) = some (cs, rest) := by
  have e : enclosed quote cs ++ rest = quote :: (doubled quote cs ++ quote :: rest) := by simp [enclosed]
  rw [e, readEnclosed, if_pos rfl, readDoubled_doubled quote cs h]

/-- What is read is there, with its quotes doubled, and so is the quote behind it. -/
theorem eq_append_of_readDoubled {quote : Char} {cs text rest : List Char}
    (h : readDoubled quote cs = some (text, rest)) : cs = doubled quote text ++ quote :: rest := by
  fun_induction readDoubled quote cs generalizing text with
  | case1 => cases h
  | case2 =>
    cases h
    rfl
  | case3 more ih =>
    obtain ⟨⟨inner, left⟩, hr, he⟩ := Option.map_eq_some_iff.1 h
    cases he
    rw [ih hr, doubled, if_pos rfl]
    rfl
  | case4 d more hd =>
    cases h
    rfl
  | case5 c cs hc ih =>
    obtain ⟨⟨inner, left⟩, hr, he⟩ := Option.map_eq_some_iff.1 h
    cases he
    rw [ih hr, doubled, if_neg hc]
    rfl

theorem length_readDoubled {quote : Char} {cs text rest : List Char}
    (h : readDoubled quote cs = some (text, rest)) : rest.length < cs.length := by
  rw [eq_append_of_readDoubled h, List.length_append, List.length_cons]
  omega

/-! ## Names in double quotes -/

def readIdentifier (cs : List Char) : Option (String × List Char) :=
  (readEnclosed '"' cs).map fun (name, rest) => (String.ofList name, rest)

theorem readIdentifier_identifier (name : String) {rest : List Char} (h : rest.head? ≠ some '"') :
    readIdentifier ((identifier name).toList ++ rest) = some (name, rest) := by
  rw [readIdentifier, toList_identifier, readEnclosed_enclosed _ _ h]
  simp

theorem eq_append_of_readIdentifier {cs rest : List Char} {name : String}
    (h : readIdentifier cs = some (name, rest)) : cs = (identifier name).toList ++ rest := by
  obtain ⟨⟨text, left⟩, hr, he⟩ := Option.map_eq_some_iff.1 h
  cases he
  cases cs with
  | nil => cases hr
  | cons c cs =>
    rw [readEnclosed] at hr
    split at hr
    · next hc =>
      rw [hc, eq_append_of_readDoubled hr]
      simp [enclosed]
    · cases hr

theorem length_readIdentifier {cs rest : List Char} {name : String}
    (h : readIdentifier cs = some (name, rest)) : rest.length < cs.length := by
  rw [eq_append_of_readIdentifier h, toList_identifier, enclosed, List.cons_append, List.length_cons,
    List.length_append]
  omega

/-- Reads names in double quotes for as long as a comma and another quote follow. -/
def readIdentifiers (cs : List Char) : List String × List Char :=
  match _h : readIdentifier cs with
  | none => ([], cs)
  | some (name, rest) =>
    if [',', ' ', '"'].isPrefixOf rest then
      let more := readIdentifiers (rest.drop 2)
      (name :: more.1, more.2)
    else ([name], rest)
termination_by cs.length
decreasing_by
  have := length_readIdentifier _h
  rw [List.length_drop]
  omega

theorem readIdentifiers_none {cs : List Char} (h : cs.head? ≠ some '"') : readIdentifiers cs = ([], cs) := by
  have e : readIdentifier cs = none := by
    cases cs with
    | nil => rfl
    | cons c cs => simp [readIdentifier, readEnclosed, ne_of_head?_ne h]
  rw [readIdentifiers]
  split
  · rfl
  · simp_all

theorem readIdentifiers_last {cs rest : List Char} {name : String}
    (h : readIdentifier cs = some (name, rest)) (hr : ¬ [',', ' ', '"'] <+: rest) :
    readIdentifiers cs = ([name], rest) := by
  rw [readIdentifiers]
  split
  · simp_all
  · next e =>
    rw [h, Option.some.injEq, Prod.mk.injEq] at e
    obtain ⟨rfl, rfl⟩ := e
    rw [if_neg (by simpa using hr)]

theorem readIdentifiers_more {cs rest : List Char} {name : String}
    (h : readIdentifier cs = some (name, ',' :: ' ' :: '"' :: rest)) :
    readIdentifiers cs =
      (name :: (readIdentifiers ('"' :: rest)).1, (readIdentifiers ('"' :: rest)).2) := by
  rw [readIdentifiers]
  split
  · simp_all
  · next e =>
    rw [h, Option.some.injEq, Prod.mk.injEq] at e
    obtain ⟨rfl, rfl⟩ := e
    rw [if_pos (by simp)]
    rfl

theorem toList_identifiers (names : List String) :
    (identifiers names).toList = [',', ' '].intercalate (names.map fun name => (identifier name).toList) := by
  rw [identifiers, String.toList_intercalate, List.map_map]
  rfl

/-- **A list of names is read back**, whatever follows it, unless that goes on like a name or like the list. -/
theorem readIdentifiers_identifiers (names : List String) {rest : List Char} (h : rest.head? ≠ some '"')
    (hr : names ≠ [] → ¬ [',', ' ', '"'] <+: rest) :
    readIdentifiers ((identifiers names).toList ++ rest) = (names, rest) := by
  rw [toList_identifiers]
  induction names with
  | nil => exact readIdentifiers_none h
  | cons name names ih =>
    cases names with
    | nil =>
      have e := readIdentifier_identifier name h
      simpa using readIdentifiers_last e (hr (by simp))
    | cons next names =>
      have ih := ih fun _ => hr (by simp)
      -- The rest of the list begins with a quote, by which the reader knows that the list goes on.
      have hq : ∃ more, [',', ' '].intercalate ((next :: names).map fun name => (identifier name).toList) ++ rest =
          '"' :: more := by
        cases names <;> simp [enclosed]
      obtain ⟨more, hm⟩ := hq
      rw [hm] at ih
      have e : readIdentifier ((identifier name).toList ++ ',' :: ' ' :: '"' :: more) =
          some (name, ',' :: ' ' :: '"' :: more) := readIdentifier_identifier name (by simp)
      have hs : [',', ' '].intercalate ((name :: next :: names).map fun name => (identifier name).toList) ++ rest =
          (identifier name).toList ++ ',' :: ' ' :: '"' :: more := by
        rw [← hm, List.map_cons, List.map_cons, List.intercalate_cons_cons]
        simp
      rw [hs, readIdentifiers_more e, ih]

theorem readIdentifiers_parenthesis (names : List String) (rest : List Char) :
    readIdentifiers ((identifiers names).toList ++ ')' :: rest) = (names, ')' :: rest) :=
  readIdentifiers_identifiers names (by simp) (by simp)

theorem identifiers_singleton (name : String) : identifiers [name] = identifier name := by
  rw [identifiers, List.map_singleton, String.intercalate_singleton]

theorem toList_identifiers_cons (name : String) {names : List String} (h : names ≠ []) :
    (identifiers (name :: names)).toList = (identifier name).toList ++ (", ".toList ++ (identifiers names).toList) := by
  rw [identifiers, List.map_cons, String.intercalate_cons_of_ne_nil (by simpa using h), String.toList_append,
    String.toList_append, List.append_assoc, identifiers]

/-- Names are read from their own list only, if what is left does not look like another name. -/
theorem eq_append_of_readIdentifiers {cs rest : List Char} {names : List String}
    (h : readIdentifiers cs = (names, rest)) (hr : rest.head? ≠ some '"') :
    cs = (identifiers names).toList ++ rest := by
  fun_induction readIdentifiers cs generalizing names rest with
  | case1 cs hn =>
    cases h
    rfl
  | case2 cs name left he hp more =>
    rename_i ih
    cases h
    obtain ⟨tail, rfl⟩ := List.isPrefixOf_iff_prefix.1 hp
    have ht : '"' :: tail = (identifiers more.1).toList ++ more.2 := ih rfl hr
    -- A quote comes behind the comma, so a name is read there, or else the quote would be left.
    have hne : more.1 ≠ [] := by
      intro e
      rw [e] at ht
      have hm : '"' :: tail = more.2 := ht
      rw [← hm] at hr
      exact hr rfl
    rw [eq_append_of_readIdentifier he, toList_identifiers_cons name hne, List.append_assoc, List.append_assoc, ← ht]
    rfl
  | case3 cs name left he hp =>
    cases h
    rw [eq_append_of_readIdentifier he, identifiers_singleton]

/-! ## Names of tables -/

def isNameChar (c : Char) : Bool :=
  c.isAlphanum || c == '_' || c == '$' || 0x80 ≤ c.toNat

/-- Reads a name without quotes. Its letters are folded to lower case, and it is no reserved word. -/
def readBare (cs : List Char) : Option (String × List Char) :=
  let name := String.ofList ((cs.takeWhile isNameChar).map Char.toLower)
  if name.isEmpty || (cs.head?.any Char.isDigit) || reservedWords.contains name then none
  else some (name, cs.dropWhile isNameChar)

/-- Reads the name of a table as the server takes it: in double quotes to the letter, bare with its case
folded. -/
def readTableName (cs : List Char) : Option (String × List Char) :=
  if cs.head? = some '"' then readIdentifier cs else readBare cs

theorem isNameChar_of_continuesPlain {c : Char} (h : continuesPlain c = true) : isNameChar c = true := by
  have ha : c.isAlphanum = (c.isUpper || c.isLower || c.isDigit) := rfl
  simp only [continuesPlain, opensPlain, Bool.or_eq_true] at h
  simp only [isNameChar, ha, Bool.or_eq_true]
  rcases h with (h | h) | h
  · exact .inl (.inl (.inl (.inl (.inr h))))
  · exact .inl (.inl (.inr h))
  · exact .inl (.inl (.inl (.inr h)))

theorem le_toNat_of_isLower {c : Char} (h : c.isLower = true) : 97 ≤ c.toNat := by
  have e : c.isLower = (decide ('a'.val ≤ c.val) && decide (c.val ≤ 'z'.val)) := rfl
  rw [e, Bool.and_eq_true] at h
  exact UInt32.le_iff_toNat_le.1 (of_decide_eq_true h.1)

theorem toNat_le_of_isDigit {c : Char} (h : c.isDigit = true) : c.toNat ≤ 57 :=
  (Char.isDigit_iff_toNat.1 h).2

theorem toLower_of_continuesPlain {c : Char} (h : continuesPlain c = true) : c.toLower = c := by
  have hu : ¬ ('A'.val ≤ c.val ∧ c.val ≤ 'Z'.val) := by
    rintro ⟨hA, hZ⟩
    have hA : 65 ≤ c.toNat := UInt32.le_iff_toNat_le.1 hA
    have hZ : c.toNat ≤ 90 := UInt32.le_iff_toNat_le.1 hZ
    simp only [continuesPlain, opensPlain, Bool.or_eq_true, beq_iff_eq] at h
    rcases h with (h | rfl) | h
    · have := le_toNat_of_isLower h
      omega
    · contradiction
    · have := toNat_le_of_isDigit h
      omega
  exact dif_neg hu

theorem isDigit_of_opensPlain {c : Char} (h : opensPlain c = true) : c.isDigit = false := by
  simp only [opensPlain, Bool.or_eq_true, beq_iff_eq] at h
  rcases h with h | rfl
  · rw [Bool.eq_false_iff]
    intro hd
    have := le_toNat_of_isLower h
    have := toNat_le_of_isDigit hd
    omega
  · rfl

/-- What a plain name is like. -/
theorem exists_cons_of_isPlain {name : String} (h : isPlain name = true) :
    ∃ c cs, name.toList = c :: cs ∧ opensPlain c = true ∧ (∀ d ∈ c :: cs, continuesPlain d = true) ∧
      reservedWords.contains name = false := by
  rw [isPlain] at h
  cases e : name.toList with
  | nil => simp [e] at h
  | cons c cs =>
    simp only [e, Bool.and_eq_true, Bool.not_eq_true'] at h
    obtain ⟨⟨ho, hc⟩, hw⟩ := h
    refine ⟨c, cs, rfl, ho, ?_, hw⟩
    exact List.forall_mem_cons.2 ⟨Bool.or_eq_true_iff.2 (.inl ho), List.all_eq_true.1 hc⟩

theorem all_continuesPlain {name : String} (h : isPlain name = true) :
    ∀ c ∈ name.toList, continuesPlain c = true := by
  obtain ⟨c, cs, e, -, hall, -⟩ := exists_cons_of_isPlain h
  rwa [e]

theorem map_toLower_of_continuesPlain {cs : List Char} (h : ∀ c ∈ cs, continuesPlain c = true) :
    cs.map Char.toLower = cs := by
  rw [List.map_congr_left fun c hc => toLower_of_continuesPlain (h c hc), List.map_id']

theorem readBare_plain {name : String} (h : isPlain name = true) {rest : List Char}
    (hr : ∀ c ∈ rest.head?, isNameChar c = false) : readBare (name.toList ++ rest) = some (name, rest) := by
  obtain ⟨c, cs, e, ho, hall, hw⟩ := exists_cons_of_isPlain h
  have hname : ∀ d ∈ c :: cs, isNameChar d = true := fun d hd => isNameChar_of_continuesPlain (hall d hd)
  have hn : String.ofList (c :: cs) = name := by rw [← e, String.ofList_toList]
  have hne : name.isEmpty = false := by rw [← hn]; simp
  rw [e, readBare, takeWhile_append_stop hname hr, dropWhile_append_stop hname hr, map_toLower_of_continuesPlain hall,
    hn, hne, hw, List.cons_append, List.head?_cons, Option.any_some, isDigit_of_opensPlain ho]
  rfl

/-- **The name of a table is read back**, bare or quoted. -/
theorem readTableName_plainIdentifier (name : String) {rest : List Char}
    (h : ∀ c ∈ rest.head?, isNameChar c = false ∧ c ≠ '"') :
    readTableName ((plainIdentifier name).toList ++ rest) = some (name, rest) := by
  rw [plainIdentifier]
  split
  · next hp =>
    obtain ⟨c, cs, e, ho, -, -⟩ := exists_cons_of_isPlain hp
    have hq : (name.toList ++ rest).head? ≠ some '"' := by
      rw [e, List.cons_append, List.head?_cons]
      exact fun hc => ne_of_test ho '"' rfl (Option.some.inj hc)
    rw [readTableName, if_neg hq, readBare_plain hp fun c hc => (h c hc).1]
  · have hq : ((identifier name).toList ++ rest).head? = some '"' := by simp [enclosed]
    rw [readTableName, if_pos hq]
    exact readIdentifier_identifier name fun e => (h _ e).2 rfl

end CatalogDdl.Sql
