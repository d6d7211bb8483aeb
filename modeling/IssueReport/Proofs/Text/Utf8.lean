import IssueReport.Text.Utf8
/-!
The bytes of a text, character by character. A text is read back from its bytes, and the bytes of a
character outside of ASCII are none of ASCII.
-/

namespace IssueReport.Text

def encode (characters : List Char) : List UInt8 :=
  characters.flatMap String.utf8EncodeChar

theorem encode_cons (character : Char) (characters : List Char) :
    encode (character :: characters) =
      String.utf8EncodeChar character ++ encode characters :=
  List.flatMap_cons

theorem encode_append (left right : List Char) :
    encode (left ++ right) = encode left ++ encode right :=
  List.flatMap_append

theorem utf8_ofList (characters : List Char) :
    utf8 (String.ofList characters) = encode characters := by
  rw [utf8, String.toUTF8_eq_toByteArray, String.toByteArray_ofList, List.utf8Encode,
    List.toList_data_toByteArray]
  rfl

theorem utf8_eq_encode (text : String) : utf8 text = encode text.toList := by
  rw [← utf8_ofList, String.ofList_toList]

theorem decode?_encode (characters : List Char) :
    decode? (encode characters) = some (String.ofList characters) := by
  have bytes : (⟨(encode characters).toArray⟩ : ByteArray) = characters.utf8Encode := by
    apply ByteArray.ext
    rw [List.utf8Encode, List.data_toByteArray]
    rfl
  rw [decode?, bytes, String.fromUTF8?, dif_pos ByteArray.isValidUTF8_utf8Encode]
  rfl

theorem decode?_utf8 (text : String) : decode? (utf8 text) = some text := by
  rw [utf8_eq_encode, decode?_encode, String.ofList_toList]

/-- The text that is read has the bytes that it is read from. -/
theorem utf8_of_decode? {bytes : List UInt8} {text : String} (decoded : decode? bytes = some text) :
    utf8 text = bytes := by
  unfold decode? String.fromUTF8? at decoded
  split at decoded
  · cases decoded
    rfl
  · cases decoded

theorem utf8EncodeChar_of_ascii {character : Char} (ascii : character.toNat < 0x80) :
    String.utf8EncodeChar character = [UInt8.ofNat character.toNat] := by
  have narrow : character.val.toNat ≤ 0x7F := Nat.le_of_lt_succ ascii
  unfold String.utf8EncodeChar
  exact if_pos narrow

theorem le_of_mem_utf8EncodeChar {character : Char} (wide : 0x80 ≤ character.toNat)
    {byte : UInt8} (present : byte ∈ String.utf8EncodeChar character) : 0x80 ≤ byte.toNat := by
  have notNarrow : ¬ character.val.toNat ≤ 0x7F := Nat.not_le.mpr wide
  unfold String.utf8EncodeChar at present
  dsimp only at present
  rw [if_neg notNarrow] at present
  have trailing : ∀ bits, bits < 0x40 → 0x80 ≤ (UInt8.ofNat (bits + 0x80)).toNat := by
    intro bits small
    rw [UInt8.toNat_ofNat']
    omega
  split at present
  · simp only [List.mem_cons, List.not_mem_nil, or_false] at present
    rcases present with same | same
    · rw [same, UInt8.toNat_ofNat']
      omega
    · rw [same]
      exact trailing _ (by omega)
  · split at present
    · simp only [List.mem_cons, List.not_mem_nil, or_false] at present
      rcases present with same | same | same
      · rw [same, UInt8.toNat_ofNat']
        omega
      · rw [same]
        exact trailing _ (by omega)
      · rw [same]
        exact trailing _ (by omega)
    · simp only [List.mem_cons, List.not_mem_nil, or_false] at present
      rcases present with same | same | same | same
      · rw [same, UInt8.toNat_ofNat']
        omega
      · rw [same]
        exact trailing _ (by omega)
      · rw [same]
        exact trailing _ (by omega)
      · rw [same]
        exact trailing _ (by omega)

end IssueReport.Text
