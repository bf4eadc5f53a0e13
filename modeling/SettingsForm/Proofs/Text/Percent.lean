import SettingsForm.Text.Number
import SettingsForm.Text.Percent
import Mathlib.Data.List.Basic

/-!
# Reading percent-coded text

`percentDecode?` reads percent-coded text: two hexadecimal digits behind a percent sign are a byte,
every other character its own UTF-8 form, and the bytes must be those of some text. It undoes
`percentEncode` for every text (`percentDecode?_percentEncode`). Coded text holds letters, digits and
five marks only (`isPlain_of_mem_percentEncode`), so whatever else separates pieces of it does not
occur inside them.
-/

namespace SettingsForm.Text

/-- The bytes that percent-coded text stands for. A percent sign without two hexadecimal digits
behind it stands for itself. -/
def percentBytes : List Char → List UInt8
  | [] => []
  | '%' :: h :: l :: rest =>
    match digitValue? 16 h, digitValue? 16 l with
    | some m, some n => .ofNat (m * 16 + n) :: percentBytes rest
    | _, _ => String.utf8EncodeChar '%' ++ percentBytes (h :: l :: rest)
  | c :: rest => String.utf8EncodeChar c ++ percentBytes rest

/-- The text that percent-coded text stands for, if its bytes are those of a text. -/
def percentDecode? (cs : List Char) : Option String :=
  (percentBytes cs).toByteArray.utf8Decode?.map fun text => String.ofList text.toList

/-! ## One byte -/

theorem digitValue?_hexDigit : ∀ n < 16, digitValue? 16 (hexDigit n) = some n := by decide

theorem toNat_lt_of_isUnreserved {b : UInt8} (hb : isUnreserved b = true) :
    b.toNat < 128 ∧ b.toNat ≠ 37 := by
  simp only [isUnreserved, Bool.or_eq_true, Bool.and_eq_true, decide_eq_true_eq, beq_iff_eq,
    UInt8.le_iff_toNat_le, ← UInt8.toNat_inj] at hb
  simp only [UInt8.reduceToNat] at hb
  omega

theorem percentBytes_cons {c : Char} (hc : c ≠ '%') (rest : List Char) :
    percentBytes (c :: rest) = String.utf8EncodeChar c ++ percentBytes rest := by
  rw [percentBytes.eq_def]
  split
  · rename_i h; cases h
  · rename_i h; cases h; exact absurd rfl hc
  · rename_i h; cases h; rfl

theorem toNat_ofNat_toNat {b : UInt8} (hb : b.toNat < 128) :
    (Char.ofNat b.toNat).val.toNat = b.toNat := by
  rw [Char.ofNat, dif_pos (.inl (by omega))]
  rfl

theorem utf8EncodeChar_ofNat {b : UInt8} (hb : b.toNat < 128) :
    String.utf8EncodeChar (Char.ofNat b.toNat) = [b] := by
  unfold String.utf8EncodeChar
  simp only [toNat_ofNat_toNat hb]
  rw [if_pos (by omega), UInt8.ofNat_toNat]

/-- A coded byte is read as that byte. -/
theorem percentBytes_percentByte (b : UInt8) (rest : List Char) :
    percentBytes (percentByte b ++ rest) = b :: percentBytes rest := by
  unfold percentByte
  split
  · rename_i hb
    obtain ⟨hlt, hmark⟩ := toNat_lt_of_isUnreserved hb
    rw [List.cons_append, List.nil_append, percentBytes_cons, utf8EncodeChar_ofNat hlt]
    · rfl
    · intro h
      have hnat := toNat_ofNat_toNat hlt
      rw [h] at hnat
      exact hmark hnat.symm
  · have hlt := b.toNat_lt
    simp only [List.cons_append, List.nil_append, percentBytes,
      digitValue?_hexDigit (b.toNat / 16) (by omega), digitValue?_hexDigit (b.toNat % 16) (by omega)]
    rw [Nat.div_add_mod', UInt8.ofNat_toNat]

/-! ## A text -/

theorem percentBytes_flatMap (bytes : List UInt8) (rest : List Char) :
    percentBytes (bytes.flatMap percentByte ++ rest) = bytes ++ percentBytes rest := by
  induction bytes with
  | nil => rfl
  | cons b bytes ih =>
    rw [List.flatMap_cons, List.append_assoc, percentBytes_percentByte, ih, List.cons_append]

theorem percentBytes_percentEncode (s : String) (rest : List Char) :
    percentBytes ((percentEncode s).toList ++ rest) = utf8Bytes s.toList ++ percentBytes rest := by
  rw [percentEncode, String.toList_ofList, percentBytes_flatMap]

theorem percentDecode?_of_percentBytes {cs : List Char} {s : String}
    (hcs : percentBytes cs = utf8Bytes s.toList) : percentDecode? cs = some s := by
  rw [percentDecode?, hcs, utf8Bytes, ← List.utf8Encode.eq_1, List.utf8Decode?_utf8Encode,
    Option.map_some, List.toList_toArray, String.ofList_toList]

/-- Coded text is read as the text that was coded. -/
theorem percentDecode?_percentEncode (s : String) :
    percentDecode? (percentEncode s).toList = some s := by
  have hbytes := percentBytes_percentEncode s []
  rw [List.append_nil, percentBytes, List.append_nil] at hbytes
  exact percentDecode?_of_percentBytes hbytes

/-- The character may stand in percent-coded text. -/
def isPlain (c : Char) : Bool :=
  c.isAlphanum || c = '-' || c = '_' || c = '.' || c = '~' || c = '%'

theorem isPlain_percentByte : ∀ n < 256, (percentByte (.ofNat n)).all isPlain = true := by
  decide +kernel

theorem isPlain_of_mem_percentEncode {s : String} {c : Char} (hc : c ∈ (percentEncode s).toList) :
    isPlain c = true := by
  rw [percentEncode, String.toList_ofList] at hc
  obtain ⟨b, -, hcb⟩ := List.mem_flatMap.mp hc
  have hb := isPlain_percentByte b.toNat b.toNat_lt
  rw [UInt8.ofNat_toNat] at hb
  exact List.all_eq_true.mp hb c hcb

end SettingsForm.Text
