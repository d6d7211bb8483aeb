import IssueReport.Proofs.Text.Utf8
import Mathlib.Data.String.Basic
/-!
The order of texts is that of their bytes: UTF-8 keeps the order of characters, and no character is
encoded by the beginning of another.
-/

namespace IssueReport.Text

theorem ofNat_cons_lt {left right : Nat} (leftByte : left < 256) (rightByte : right < 256)
    {lefts rights : List UInt8} :
    UInt8.ofNat left :: lefts < UInt8.ofNat right :: rights ↔
      left < right ∨ left = right ∧ lefts < rights := by
  rw [List.cons_lt_cons_iff, UInt8.lt_iff_toNat_lt, ← UInt8.toNat_inj,
    UInt8.toNat_ofNat_of_lt' leftByte, UInt8.toNat_ofNat_of_lt' rightByte]

theorem toNat_lt_of_char (character : Char) : character.val.toNat < 0x110000 := by
  rcases character.valid with low | ⟨_, high⟩
  · exact Nat.lt_trans low (by decide)
  · exact high

/-- Characters in ascending order are encoded in ascending order, whatever follows them. -/
theorem utf8EncodeChar_append_lt {left right : Char} (ascending : left < right)
    (lefts rights : List UInt8) :
    String.utf8EncodeChar left ++ lefts < String.utf8EncodeChar right ++ rights := by
  have values : left.val.toNat < right.val.toNat :=
    UInt32.lt_iff_toNat_lt.mp (Char.lt_def.mp ascending)
  have bounded := toNat_lt_of_char right
  unfold String.utf8EncodeChar
  dsimp only
  generalize left.val.toNat = low at values
  generalize right.val.toNat = high at values bounded
  have lowLead : low / 262144 % 8 = low / 262144 := Nat.mod_eq_of_lt (by omega)
  have highLead : high / 262144 % 8 = high / 262144 := Nat.mod_eq_of_lt (by omega)
  -- a longer encoding begins with a greater byte; of two that are as long the bits are compared
  split_ifs
  all_goals
    simp (disch := omega) only [List.cons_append, ofNat_cons_lt, lowLead, highLead]
  all_goals omega

theorem encode_lt {left right : List Char} (ascending : left < right) :
    encode left < encode right := by
  induction ascending with
  | @nil first rest =>
      rw [encode_cons]
      have positive : 0 < (String.utf8EncodeChar first).length := by
        rw [String.length_utf8EncodeChar]
        exact Char.utf8Size_pos first
      obtain ⟨byte, bytes, same⟩ := List.exists_cons_of_length_pos positive
      rw [same]
      exact List.nil_lt_cons _ _
  | rel smaller =>
      rw [encode_cons, encode_cons]
      exact utf8EncodeChar_append_lt smaller _ _
  | cons _ ih =>
      rw [encode_cons, encode_cons]
      exact List.append_left_lt ih

/-- Texts in ascending order have bytes in ascending order. -/
theorem utf8_lt {left right : String} (ascending : left < right) : utf8 left < utf8 right := by
  rw [utf8_eq_encode, utf8_eq_encode]
  exact encode_lt (String.lt_iff_toList_lt.mp ascending)

def Ascending (texts : List String) : Prop :=
  texts.Pairwise fun first second => utf8 first < utf8 second

theorem ascending_of_lt {texts : List String} (ascending : texts.Pairwise (· < ·)) :
    Ascending texts :=
  ascending.imp utf8_lt

theorem Ascending.nodup {texts : List String} (ascending : Ascending texts) : texts.Nodup := by
  apply List.Pairwise.imp _ ascending
  intro first second before same
  rw [same] at before
  exact List.lt_irrefl _ before

end IssueReport.Text
