import CatalogDdl.Ordering
import CatalogDdl.Text.Utf8
import Mathlib.Tactic.SplitIfs

/-! # The order of texts

Texts are compared character by character, which is the same as to compare their bytes.

* `Text.encoded_le_encoded`: the order of texts is that of the bytes that encode them.
* `InByteOrder`: names in the order of their bytes; `orderedBy` puts names into it.
-/

namespace CatalogDdl
set_option autoImplicit false

namespace Text

/-! ## Characters -/

theorem digit_lt {v w : Nat} (h : v < w) : v / 64 < w / 64 ∨ v / 64 = w / 64 ∧ v % 64 < w % 64 := by omega

/-- The bytes of a character are its digits to the base 64, with marks that grow with their number. -/
theorem encodeChar_lt {c d : Char} (h : c < d) (xs ys : List UInt8) :
    String.utf8EncodeChar c ++ xs < String.utf8EncodeChar d ++ ys := by
  have hv : c.val.toNat < d.val.toNat := UInt32.lt_iff_toNat_lt.1 h
  have hm : d.val.toNat < 0x110000 := by
    rcases d.valid with h | h <;> omega
  unfold String.utf8EncodeChar
  generalize c.val.toNat = v at *
  generalize d.val.toNat = w at *
  have e2 (n : Nat) : n / 4096 = n / 64 / 64 := by omega
  have e3 (n : Nat) : n / 262144 = n / 64 / 64 / 64 := by omega
  have hl := digit_lt hv
  simp only [e2, e3]
  -- One case for each pair of lengths; in each the first bytes that differ decide.
  split_ifs
  all_goals
    simp only [List.cons_append, List.nil_append, List.cons_lt_cons_iff, UInt8.lt_iff_toNat_lt, UInt8.toNat_ofNat',
      ← UInt8.toNat_inj]
    omega

/-! ## Texts -/

theorem encoded_eq (text : String) : encoded text = text.toList.flatMap String.utf8EncodeChar := by
  obtain ⟨cs, rfl⟩ : ∃ cs, text = String.ofList cs := ⟨text.toList, String.ofList_toList.symm⟩
  rw [encoded, String.toUTF8_eq_toByteArray, String.toByteArray_ofList, String.toList_ofList, List.utf8Encode,
    List.data_toByteArray]

theorem flatMap_encodeChar_lt {cs ds : List Char} (h : cs < ds) :
    cs.flatMap String.utf8EncodeChar < ds.flatMap String.utf8EncodeChar := by
  induction h with
  | @nil d ds =>
    obtain ⟨b, bs, e⟩ := List.exists_cons_of_ne_nil (String.utf8EncodeChar_ne_nil (c := d))
    rw [List.flatMap_cons, e]
    exact .nil
  | rel h => exact encodeChar_lt h _ _
  | cons _ ih => exact List.append_left_lt ih

theorem encoded_lt_encoded {a b : String} (h : a < b) : encoded a < encoded b := by
  rw [encoded_eq, encoded_eq]
  exact flatMap_encodeChar_lt h

/-- **Texts are in the order of their bytes.** -/
theorem encoded_le_encoded {a b : String} : encoded a ≤ encoded b ↔ a ≤ b := by
  constructor
  · exact fun h hl => h (encoded_lt_encoded hl)
  · intro h hl
    have hn : a ≠ b := fun e => List.lt_irrefl _ (e ▸ hl)
    exact List.lt_asymm hl (encoded_lt_encoded (Std.lt_of_le_of_ne h hn))

end Text

/-! ## Names -/

/-- Whether names are in the order of their bytes. -/
def InByteOrder (names : List String) : Prop :=
  names.Pairwise fun a b => Text.encoded a ≤ Text.encoded b

theorem inByteOrder_orderedBy (names : List String) : InByteOrder (orderedBy id names) :=
  (pairwise_orderedBy id names).imp Text.encoded_le_encoded.2

theorem InByteOrder.sublist {names others : List String} (h : InByteOrder names) (hs : others.Sublist names) :
    InByteOrder others :=
  List.Pairwise.sublist hs h

end CatalogDdl
