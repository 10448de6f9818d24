import ClassDiagram.Proofs.Text.Splitting
import ClassDiagram.Text.Form
import ClassDiagram.Text.Percent

/-! Reading forms. Every text is read back from its written form, whatever characters it is made of,
so that a form with one field carries exactly that field.
-/

namespace ClassDiagram.Text

-----------------------------------------------------------------------------------------
-- Fields of a form
-----------------------------------------------------------------------------------------

/-- Plus signs of a form stand for spaces. -/
def plusAsSpace (c : Char) : Char :=
  if c = '+' then ' ' else c

/-- The text that part of a form stands for, unless its bytes are no text. -/
def decodeFormPart (part : List Char) : Option String :=
  String.fromUTF8? ⟨(percentDecode (part.map plusAsSpace)).toArray⟩

/-- The name and the value of a field, which are before and after its first equals sign. -/
def decodeFormField (field : List Char) : Option (String × String) := do
  let name ← decodeFormPart (field.takeWhile (· ≠ '='))
  let value ← decodeFormPart ((field.dropWhile (· ≠ '=')).drop 1)
  pure (name, value)

/-- The fields of a form, which stand between ampersands. -/
def decodeForm (form : String) : Option (List (String × String)) :=
  ((split '&' form.toList).filter (!·.isEmpty)).mapM decodeFormField

-----------------------------------------------------------------------------------------
-- Bytes are read back
-----------------------------------------------------------------------------------------

theorem percentDecode_cons_of_ne {c : Char} (plain : c ≠ '%') (rest : List Char)
    : percentDecode (c :: rest) = String.utf8EncodeChar c ++ percentDecode rest := by
  rw [percentDecode]
  simp [plain]

theorem forall_byte {motive : UInt8 → Prop}
    (all : ∀ value : Fin 256, motive (UInt8.ofNat value.val)) (byte : UInt8)
    : motive byte := by
  have this := all ⟨byte.toNat, byte.toNat_lt⟩
  rwa [UInt8.ofNat_toNat] at this

/-- Characters that stand for themselves are neither read as signs of the form nor cut into several
bytes.
-/
theorem plain_of_isFormSafe
    : ∀ byte : UInt8,
        isFormSafe (Char.ofNat byte.toNat)
        → Char.ofNat byte.toNat ≠ '%'
          ∧ Char.ofNat byte.toNat ≠ '+'
          ∧ String.utf8EncodeChar (Char.ofNat byte.toNat) = [byte] :=
  forall_byte (by decide +kernel)

theorem eq_of_ofNat_eq_space : ∀ byte : UInt8, Char.ofNat byte.toNat = ' ' → byte = 32 :=
  forall_byte (by decide +kernel)

/-- The signs that divide a form never occur in a written byte. -/
theorem notMem_formByte : ∀ byte : UInt8, '&' ∉ formByte byte ∧ '=' ∉ formByte byte :=
  forall_byte (by decide +kernel)

theorem percentDecode_hexDigits (byte : UInt8) (rest : List Char)
    : percentDecode ('%' :: hexDigit (byte.toNat / 16) :: hexDigit (byte.toNat % 16) :: rest)
      = byte :: percentDecode rest := by
  have small := byte.toNat_lt
  have high : hexValue? (hexDigit (byte.toNat / 16)) = some (byte.toNat / 16) :=
    hexValue?_hexDigit (by omega)
  have low : hexValue? (hexDigit (byte.toNat % 16)) = some (byte.toNat % 16) :=
    hexValue?_hexDigit (by omega)
  have whole : 16 * (byte.toNat / 16) + byte.toNat % 16 = byte.toNat := by omega
  rw [percentDecode, high, low]
  simp only [whole, UInt8.ofNat_toNat]

theorem plusAsSpace_hexDigit {value : Nat} (h : value < 16)
    : plusAsSpace (hexDigit value) = hexDigit value := by
  have all : ∀ value : Fin 16, plusAsSpace (hexDigit value.val) = hexDigit value.val := by decide
  exact all ⟨value, h⟩

/-- A byte is read back from its written form, whatever follows. -/
theorem percentDecode_formByte (byte : UInt8) (rest : List Char)
    : percentDecode ((formByte byte).map plusAsSpace ++ rest) = byte :: percentDecode rest := by
  have small := byte.toNat_lt
  rw [formByte]
  split
  · next safe =>
      obtain ⟨noPercent, noPlus, encoded⟩ := plain_of_isFormSafe byte safe
      rw [List.map_singleton, plusAsSpace, if_neg noPlus, List.singleton_append,
        percentDecode_cons_of_ne noPercent, encoded, List.singleton_append]
  · split
    · next space =>
        rw [eq_of_ofNat_eq_space byte space]
        rfl
    · have high := plusAsSpace_hexDigit (show byte.toNat / 16 < 16 by omega)
      have low := plusAsSpace_hexDigit (show byte.toNat % 16 < 16 by omega)
      have percent : plusAsSpace '%' = '%' := rfl
      simp only [List.map_cons, List.map_nil, high, low, percent, List.cons_append, List.nil_append]
      exact percentDecode_hexDigits byte rest

/-- Written bytes are read back, by induction on the bytes. -/
theorem percentDecode_flatMap_formByte (bytes : List UInt8)
    : percentDecode ((bytes.flatMap formByte).map plusAsSpace) = bytes := by
  induction bytes with
  | nil => rfl
  | cons byte rest ih => rw [List.flatMap_cons, List.map_append, percentDecode_formByte, ih]

-----------------------------------------------------------------------------------------
-- Texts and fields are read back
-----------------------------------------------------------------------------------------

theorem fromUTF8?_toUTF8 (text : String) : String.fromUTF8? text.toUTF8 = some text := by
  rw [String.fromUTF8?, String.toUTF8_eq_toByteArray, dif_pos text.isValidUTF8]
  rfl

theorem decodeFormPart_formEncode (text : String)
    : decodeFormPart (formEncode text).toList = some text := by
  rw [decodeFormPart, formEncode, String.toList_ofList, percentDecode_flatMap_formByte]
  exact fromUTF8?_toUTF8 text

theorem notMem_formEncode (text : String)
    : '&' ∉ (formEncode text).toList ∧ '=' ∉ (formEncode text).toList := by
  rw [formEncode, String.toList_ofList]
  simp only [List.mem_flatMap, not_exists, not_and]
  exact ⟨fun byte _ => (notMem_formByte byte).1, fun byte _ => (notMem_formByte byte).2⟩

/-- A form with one field is read back as that field, for all texts. -/
theorem decodeForm_formField (name value : String)
    : decodeForm (formField name value) = some [(name, value)] := by
  obtain ⟨nameEnd, nameEquals⟩ := notMem_formEncode name
  obtain ⟨valueEnd, -⟩ := notMem_formEncode value
  have form : (formField name value).toList
      = (formEncode name).toList ++ '=' :: (formEncode value).toList := by
    simp [formField, String.toList_append]
  have whole : '&' ∉ (formField name value).toList := by
    rw [form]
    simp [nameEnd, valueEnd]
  have front : ∀ c ∈ (formEncode name).toList, decide (c ≠ '=') = true := by
    intro c member
    exact decide_eq_true fun same => nameEquals (same ▸ member)
  have field : decodeFormField (formField name value).toList = some (name, value) := by
    rw [form, decodeFormField, List.takeWhile_append_of_pos front,
      List.dropWhile_append_of_pos front]
    simp [decodeFormPart_formEncode]
  have nonempty : (formField name value).toList.isEmpty = false := by
    rw [form]
    simp
  rw [decodeForm, split_of_notMem whole]
  simp [nonempty, field]

end ClassDiagram.Text
