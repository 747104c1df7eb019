import Mathlib.Data.Nat.Digits.Defs
import StreamPolicy.Data.Uuid

/-!
# Numbers in digits

A number is the value of its digits (`ofDigits?`), however many zeros stand before them, and an
identifier is the value of its groups (`ofGrouped?`).
-/

namespace StreamPolicy

namespace Text

variable {base n width : Nat} {c : Char} {cs ds : List Char}

/-! ## The value of digits -/

theorem foldl_digits (cs : List Char) (n : Nat) :
    cs.foldl (fun n c => n * base + hexValue c) n =
      n * base ^ cs.length + ofDigits base cs := by
  induction cs generalizing n with
  | nil => simp [ofDigits]
  | cons c cs ih =>
    rw [List.foldl_cons, ih, ofDigits, ofDigits, List.foldl_cons, ih (0 * base + hexValue c),
      List.length_cons, Nat.pow_succ, ofDigits]
    ring

theorem ofDigits_append (cs ds : List Char) :
    ofDigits base (cs ++ ds) = ofDigits base cs * base ^ ds.length + ofDigits base ds := by
  rw [ofDigits, List.foldl_append]
  exact foldl_digits ds _

theorem ofDigits_singleton (c : Char) : ofDigits base [c] = hexValue c := by
  simp [ofDigits]

theorem ofDigits_zeros (k : Nat) : ofDigits base (List.replicate k '0') = 0 := by
  induction k with
  | zero => rfl
  | succ k ih =>
    rw [List.replicate_succ', ofDigits_append, ih, ofDigits_singleton]
    simp [hexValue]

theorem ofDigits_padLeft (width : Nat) (cs : List Char) :
    ofDigits base (padLeft width '0' cs) = ofDigits base cs := by
  rw [padLeft, ofDigits_append, ofDigits_zeros, Nat.zero_mul, Nat.zero_add]

theorem ofDigits_padRight (width : Nat) (cs : List Char) :
    ofDigits base (padRight width '0' cs) = ofDigits base cs * base ^ (width - cs.length) := by
  rw [padRight, ofDigits_append, ofDigits_zeros, List.length_replicate, Nat.add_zero]

/-! ## Decimal digits -/

theorem hexValue_digitChar (h : n < 10) : hexValue n.digitChar = n := by
  unfold hexValue
  rw [Nat.isDigit_digitChar, decide_eq_true h, if_pos rfl, Nat.toNat_digitChar_of_lt_ten h,
    Nat.add_sub_cancel_left]

theorem ofDigits_toDigits (n : Nat) : ofDigits 10 (Nat.toDigits 10 n) = n := by
  induction n using Nat.strongRecOn with
  | ind n ih =>
    rw [Nat.toDigits_eq_if (by omega)]
    split
    · rename_i h
      rw [ofDigits_singleton, hexValue_digitChar h]
    · rename_i h
      rw [ofDigits_append, ih (n / 10) (by omega), ofDigits_singleton,
        hexValue_digitChar (Nat.mod_lt n (by omega)), List.length_singleton, Nat.pow_one]
      omega

theorem toList_padDigits : (padDigits width n).toList = padLeft width '0' (Nat.toDigits 10 n) :=
  String.toList_ofList

theorem ofDigits_padDigits (width n : Nat) : ofDigits 10 (padDigits width n).toList = n := by
  rw [toList_padDigits, ofDigits_padLeft, ofDigits_toDigits]

theorem isDigit_of_mem_padDigits (h : c ∈ (padDigits width n).toList) : c.isDigit = true := by
  rw [toList_padDigits, padLeft, List.mem_append] at h
  rcases h with h | h
  · rw [List.eq_of_mem_replicate h]
    rfl
  · exact Nat.isDigit_of_mem_toDigits (by omega) (by omega) h

theorem padDigits_ne_nil : (padDigits width n).toList ≠ [] := by
  rw [toList_padDigits, padLeft]
  exact List.append_ne_nil_of_right_ne_nil _ Nat.toDigits_ne_nil

theorem length_padDigits (hwidth : 0 < width) (h : n < 10 ^ width) :
    (padDigits width n).toList.length = width := by
  have hle := (Nat.length_toDigits_le_iff (b := 10) (by omega) hwidth).2 h
  rw [toList_padDigits, padLeft, List.length_append, List.length_replicate]
  omega

/-! ## Hexadecimal digits -/

theorem hexDigit_spec (h : n < 16) :
    isHexDigit (hexDigit n) = true ∧ hexValue (hexDigit n) = n := by
  have hall : ∀ n : Fin 16, isHexDigit (hexDigit n) = true ∧ hexValue (hexDigit n) = n := by decide
  exact hall ⟨n, h⟩

end Text

namespace Uuid

variable {ds : List Char}

theorem length_hexDigits (count n : Nat) : (hexDigits count n).length = count := by
  induction count generalizing n with
  | zero => rfl
  | succ count ih => rw [hexDigits, List.length_append, ih, List.length_singleton]

theorem all_hexDigits (count n : Nat) : (hexDigits count n).all Text.isHexDigit = true := by
  induction count generalizing n with
  | zero => rfl
  | succ count ih =>
    rw [hexDigits, List.all_append, ih, Bool.true_and, List.all_cons, List.all_nil, Bool.and_true]
    exact (Text.hexDigit_spec (Nat.mod_lt n (by omega))).1

theorem ofDigits_hexDigits (count n : Nat) :
    Text.ofDigits 16 (hexDigits count n) = n % 16 ^ count := by
  induction count generalizing n with
  | zero => rw [hexDigits, Nat.pow_zero, Nat.mod_one]; rfl
  | succ count ih =>
    rw [hexDigits, Text.ofDigits_append, ih, Text.ofDigits_singleton,
      (Text.hexDigit_spec (Nat.mod_lt n (by omega))).2, List.length_singleton, Nat.pow_one,
      Nat.pow_succ, Nat.mul_comm (16 ^ count) 16, Nat.mod_mul]
    omega

theorem ofDigits?_hexDigits (u : Uuid) : ofDigits? (hexDigits 32 u.toNat) = some u := by
  have hlt : u.toNat < 16 ^ 32 := u.bits.isLt
  simp only [ofDigits?, length_hexDigits, all_hexDigits, beq_self_eq_true, Bool.and_self, if_true,
    ofDigits_hexDigits, Nat.mod_eq_of_lt hlt, Option.some.injEq]
  show (⟨BitVec.ofNat 128 u.bits.toNat⟩ : Uuid) = u
  rw [BitVec.ofNat_toNat, BitVec.setWidth_eq]

theorem length_grouped (h : ds.length = 32) : (grouped ds).length = 36 := by
  simp [grouped, h]

theorem groups_append (ds : List Char) :
    ds.take 8 ++ ((ds.drop 8).take 4 ++ ((ds.drop 12).take 4 ++ ((ds.drop 16).take 4 ++
      ds.drop 20))) = ds := by
  have h12 : ds.drop 12 = (ds.drop 8).drop 4 := by rw [List.drop_drop]
  have h16 : ds.drop 16 = (ds.drop 12).drop 4 := by rw [List.drop_drop]
  have h20 : ds.drop 20 = (ds.drop 16).drop 4 := by rw [List.drop_drop]
  rw [h20, List.take_append_drop, h16, List.take_append_drop, h12, List.take_append_drop,
    List.take_append_drop]

/-- Taking the hyphens out again gives the digits. -/
theorem ofGrouped?_grouped (h : ds.length = 32) : ofGrouped? (grouped ds) = ofDigits? ds := by
  have hdigits : (grouped ds).take 8 ++ ((grouped ds).drop 9).take 4 ++
      ((grouped ds).drop 14).take 4 ++ ((grouped ds).drop 19).take 4 ++ (grouped ds).drop 24 =
      ds := by
    simp only [grouped, List.append_assoc, List.cons_append]
    simp [List.drop_append, List.drop_of_length_le, h, groups_append]
  simp only [ofGrouped?, hdigits, beq_self_eq_true, if_true]

theorem parse?_text (u : Uuid) : parse? u.text = some u := by
  have hlen := length_grouped (length_hexDigits 32 u.toNat)
  simp only [parse?, text, String.toList_ofList, hlen]
  simp only [ofGrouped?_grouped (length_hexDigits 32 u.toNat), ofDigits?_hexDigits]
  rfl

end Uuid

end StreamPolicy
