import IssueReport.Proofs.Text.Utf8
import Mathlib.Algebra.Group.Nat.Defs
/-!
Reading that never fails. Well-formed bytes are read as the text that they are the bytes of, and what
is read starts with characters of ASCII exactly if the bytes do.
-/

namespace IssueReport.Text

variable {bits missing value : Nat} {low high : UInt8} {rest : List UInt8}

/-! ### Characters -/

theorem decodeAfter_next (small : value < 64) (above : low.toNat ≤ value + 128)
    (below : value + 128 ≤ high.toNat) :
    decodeAfter (some ⟨bits, missing + 2, low, high⟩) (UInt8.ofNat (value + 128) :: rest) =
      decodeAfter (some ⟨bits * 64 + value, missing + 1, 0x80, 0xBF⟩) rest := by
  have byte : (UInt8.ofNat (value + 128)).toNat = value + 128 := by
    rw [UInt8.toNat_ofNat']
    omega
  have inside : low ≤ UInt8.ofNat (value + 128) ∧ UInt8.ofNat (value + 128) ≤ high := by
    rw [UInt8.le_iff_toNat_le, UInt8.le_iff_toNat_le, byte]
    exact ⟨above, below⟩
  rw [decodeAfter, if_pos inside, byte, Nat.add_sub_cancel]

theorem decodeAfter_last (small : value < 64) (above : low.toNat ≤ value + 128)
    (below : value + 128 ≤ high.toNat) :
    decodeAfter (some ⟨bits, 1, low, high⟩) (UInt8.ofNat (value + 128) :: rest) =
      Char.ofNat (bits * 64 + value) :: decodeAfter none rest := by
  have byte : (UInt8.ofNat (value + 128)).toNat = value + 128 := by
    rw [UInt8.toNat_ofNat']
    omega
  have inside : low ≤ UInt8.ofNat (value + 128) ∧ UInt8.ofNat (value + 128) ≤ high := by
    rw [UInt8.le_iff_toNat_le, UInt8.le_iff_toNat_le, byte]
    exact ⟨above, below⟩
  rw [decodeAfter, if_pos inside, byte, Nat.add_sub_cancel]

theorem ofByte_two (wide : 0xC2 ≤ value) (narrow : value < 0xE0) :
    Lead.ofByte (UInt8.ofNat value) = .opens ⟨value - 0xC0, 1, 0x80, 0xBF⟩ := by
  have byte : (UInt8.ofNat value).toNat = value := by
    rw [UInt8.toNat_ofNat']
    omega
  rw [Lead.ofByte, byte, if_neg (by omega), if_neg (by omega), if_pos narrow]

theorem ofByte_three (wide : 0xE0 ≤ value) (narrow : value < 0xF0) :
    Lead.ofByte (UInt8.ofNat value) =
      .opens ⟨value - 0xE0, 2, if value = 0xE0 then 0xA0 else 0x80,
        if value = 0xED then 0x9F else 0xBF⟩ := by
  have byte : (UInt8.ofNat value).toNat = value := by
    rw [UInt8.toNat_ofNat']
    omega
  rw [Lead.ofByte, byte, if_neg (by omega), if_neg (by omega), if_neg (by omega)]
  by_cases first : value = 0xE0
  · rw [if_pos first, if_pos first, if_neg (by omega), first]
  · rw [if_neg first, if_neg first]
    by_cases surrogate : value = 0xED
    · rw [if_pos surrogate, if_pos surrogate, surrogate]
    · rw [if_neg surrogate, if_neg surrogate, if_pos narrow]

theorem ofByte_four (wide : 0xF0 ≤ value) (narrow : value ≤ 0xF4) :
    Lead.ofByte (UInt8.ofNat value) =
      .opens ⟨value - 0xF0, 3, if value = 0xF0 then 0x90 else 0x80,
        if value = 0xF4 then 0x8F else 0xBF⟩ := by
  have byte : (UInt8.ofNat value).toNat = value := by
    rw [UInt8.toNat_ofNat']
    omega
  rw [Lead.ofByte, byte, if_neg (by omega), if_neg (by omega), if_neg (by omega), if_neg (by omega),
    if_neg (by omega), if_neg (by omega)]
  by_cases first : value = 0xF0
  · rw [if_pos first, if_pos first, if_neg (by omega), first]
  · rw [if_neg first, if_neg first]
    by_cases last : value = 0xF4
    · rw [if_neg (by omega), if_pos last, if_pos last, last]
    · rw [if_pos (by omega), if_neg last]

theorem decodeAfter_opens {byte : UInt8} {unfinished : Unfinished}
    (opens : Lead.ofByte byte = .opens unfinished) :
    decodeAfter none (byte :: rest) = decodeAfter (some unfinished) rest := by
  rw [decodeAfter, decodeAfter.start, opens]

/-- A character is read from its bytes. -/
theorem decodeAfter_utf8EncodeChar (character : Char) (rest : List UInt8) :
    decodeAfter none (String.utf8EncodeChar character ++ rest) =
      character :: decodeAfter none rest := by
  have back : Char.ofNat character.val.toNat = character := Char.ofNat_toNat character
  have valid : character.val.toNat < 0xD800 ∨
      0xDFFF < character.val.toNat ∧ character.val.toNat < 0x110000 := character.valid
  unfold String.utf8EncodeChar
  dsimp only
  generalize character.val.toNat = code at back valid ⊢
  split
  · have byte : (UInt8.ofNat code).toNat = code := by
      rw [UInt8.toNat_ofNat']
      omega
    have whole : Lead.ofByte (UInt8.ofNat code) = .whole character := by
      rw [Lead.ofByte, byte, if_pos (by omega), back]
    rw [List.singleton_append, decodeAfter, decodeAfter.start, whole]
  split
  · rw [List.cons_append, List.cons_append, List.nil_append,
      decodeAfter_opens (ofByte_two (by omega) (by omega)),
      decodeAfter_last (Nat.mod_lt _ (by decide)) (by simp) (by simp; omega)]
    congr 1
    rw [← back]
    congr 1
    omega
  split
  · rw [List.cons_append, List.cons_append, List.cons_append, List.nil_append,
      decodeAfter_opens (ofByte_three (by omega) (by omega)),
      decodeAfter_next (Nat.mod_lt _ (by decide)) (by split <;> simp; omega)
        (by split <;> simp <;> omega),
      decodeAfter_last (Nat.mod_lt _ (by decide)) (by simp) (by simp; omega)]
    congr 1
    rw [← back]
    congr 1
    omega
  · rw [List.cons_append, List.cons_append, List.cons_append, List.cons_append, List.nil_append,
      decodeAfter_opens (ofByte_four (by omega) (by omega)),
      decodeAfter_next (Nat.mod_lt _ (by decide)) (by split <;> simp; omega)
        (by split <;> simp <;> omega),
      decodeAfter_next (Nat.mod_lt _ (by decide)) (by simp) (by simp; omega),
      decodeAfter_last (Nat.mod_lt _ (by decide)) (by simp) (by simp; omega)]
    congr 1
    rw [← back]
    congr 1
    omega

theorem decodeAfter_encode_append (characters : List Char) :
    decodeAfter none (encode characters ++ rest) = characters ++ decodeAfter none rest := by
  induction characters with
  | nil => rfl
  | cons character characters ih =>
      rw [encode_cons, List.append_assoc, decodeAfter_utf8EncodeChar, ih]
      rfl

theorem decodeAfter_encode (characters : List Char) :
    decodeAfter none (encode characters) = characters := by
  have read := @decodeAfter_encode_append [] characters
  rw [List.append_nil, decodeAfter, List.append_nil] at read
  exact read

/-- A character that is not finished is replaced, and what follows is read on its own. -/
theorem decodeAfter_broken {byte next : UInt8} {unfinished : Unfinished}
    (opens : Lead.ofByte byte = .opens unfinished)
    (outside : ¬ (unfinished.low ≤ next ∧ next ≤ unfinished.high)) :
    decodeAfter none (byte :: next :: rest) = replacement :: decodeAfter none (next :: rest) := by
  rw [decodeAfter_opens opens, decodeAfter, decodeAfter, if_neg outside]

/-- A text is read from its bytes. -/
theorem decodeLossy_utf8 (text : String) : decodeLossy (utf8 text) = text := by
  rw [decodeLossy, utf8_eq_encode, decodeAfter_encode, String.ofList_toList]

/-! ### ASCII -/

/-- What is begun can only become a character outside of ASCII. -/
def Unfinished.Wide (unfinished : Unfinished) : Prop :=
  0x80 ≤ (unfinished.bits * 64 + (unfinished.low.toNat - 0x80)) * 64 ^ (unfinished.missing - 1)

theorem wide_of_opens {byte : UInt8} {unfinished : Unfinished}
    (opens : Lead.ofByte byte = .opens unfinished) : unfinished.Wide := by
  have lead : ∀ {bits missing : Nat} {low high : UInt8},
      0x80 ≤ (bits * 64 + (low.toNat - 0x80)) * 64 ^ (missing - 1) →
        Lead.opens ⟨bits, missing, low, high⟩ = .opens unfinished → unfinished.Wide := by
    rintro bits missing low high wide same
    rw [Lead.opens.injEq] at same
    rw [← same]
    exact wide
  rw [Lead.ofByte] at opens
  split at opens
  · cases opens
  split at opens
  · cases opens
  split at opens
  · exact lead (by simp; omega) opens
  split at opens
  · exact lead (by decide) opens
  split at opens
  · exact lead (by decide) opens
  split at opens
  · exact lead (by simp; omega) opens
  split at opens
  · exact lead (by decide) opens
  split at opens
  · exact lead (by simp; omega) opens
  split at opens
  · exact lead (by decide) opens
  · cases opens

theorem toNat_ofNat_of_wide {code : Nat} (wide : 0x80 ≤ code) :
    Char.ofNat code = '\x00' ∨ 0x80 ≤ (Char.ofNat code).toNat := by
  by_cases valid : code.isValidChar
  · right
    rw [Char.ofNat, dif_pos valid]
    exact wide
  · left
    rw [Char.ofNat, dif_neg valid]
    rfl

theorem decodeAfter_wide {bytes : List UInt8} {unfinished : Unfinished} (wide : unfinished.Wide)
    {first : Char} {others : List Char}
    (read : decodeAfter (some unfinished) bytes = first :: others) :
    first = '\x00' ∨ 0x80 ≤ first.toNat := by
  have replaced : 0x80 ≤ replacement.toNat := by decide
  induction bytes generalizing unfinished with
  | nil =>
      rw [decodeAfter] at read
      rw [← (List.cons.inj read).1]
      exact .inr replaced
  | cons byte bytes ih =>
      obtain ⟨bits, missing, low, high⟩ := unfinished
      rw [decodeAfter] at read
      simp only [Unfinished.Wide] at wide
      split at read
      · rename_i inside
        have above : low.toNat ≤ byte.toNat := UInt8.le_iff_toNat_le.mp inside.1
        have gathered : bits * 64 + (low.toNat - 0x80) ≤ bits * 64 + (byte.toNat - 0x80) := by omega
        split at read
        · rename_i more several
          dsimp only at several
          rw [several] at wide
          apply ih _ read
          simp only [Unfinished.Wide]
          have power : 64 ^ (more.succ.succ - 1) = 64 * 64 ^ (more + 1 - 1) := by
            rw [Nat.mul_comm]
            exact Nat.pow_succ 64 more
          rw [power, ← Nat.mul_assoc] at wide
          have shifted : (bits * 64 + (low.toNat - 0x80)) * 64 ≤
              (bits * 64 + (byte.toNat - 0x80)) * 64 + (UInt8.toNat 0x80 - 0x80) := by omega
          exact Nat.le_trans wide (Nat.mul_le_mul_right (64 ^ (more + 1 - 1)) shifted)
        · rename_i last
          rw [← (List.cons.inj read).1]
          apply toNat_ofNat_of_wide
          have few : missing - 1 = 0 := by
            cases missing with
            | zero => rfl
            | succ missing =>
                cases missing with
                | zero => rfl
                | succ missing => exact absurd rfl (last missing)
          rw [few, Nat.pow_zero, Nat.mul_one] at wide
          exact Nat.le_trans wide gathered
      · rw [← (List.cons.inj read).1]
        exact .inr replaced

/-- What is read starts with a character of ASCII only if the bytes do. -/
theorem exists_of_decodeAfter_eq_cons {bytes : List UInt8} {first : Char} {others : List Char}
    (ascii : first.toNat < 0x80) (notNul : first ≠ '\x00')
    (read : decodeAfter none bytes = first :: others) :
    ∃ left, bytes = UInt8.ofNat first.toNat :: left ∧ others = decodeAfter none left := by
  cases bytes with
  | nil =>
      rw [decodeAfter] at read
      cases read
  | cons byte bytes =>
      rw [decodeAfter, decodeAfter.start] at read
      split at read
      · rename_i character whole
        obtain ⟨rfl, rfl⟩ := List.cons.inj read
        refine ⟨bytes, ?_, rfl⟩
        rw [Lead.ofByte] at whole
        split at whole
        · rename_i narrow
          rw [Lead.whole.injEq] at whole
          have code : (Char.ofNat byte.toNat).toNat = byte.toNat := by
            rw [Char.ofNat, dif_pos (.inl (by omega))]
            rfl
          rw [← whole, code, UInt8.ofNat_toNat]
        · repeat' split at whole
          all_goals cases whole
      · rename_i unfinished opens
        rcases decodeAfter_wide (wide_of_opens opens) read with nul | wide
        · exact absurd nul notNul
        · omega
      · rw [← (List.cons.inj read).1] at ascii
        exact absurd ascii (by decide)

/-- Characters of ASCII other than the one that ends texts elsewhere. -/
def IsPlain (characters : List Char) : Prop :=
  ∀ character ∈ characters, character.toNat < 0x80 ∧ character ≠ '\x00'

instance : DecidablePred IsPlain :=
  fun characters => List.decidableBAll _ characters

theorem utf8EncodeChar_eq_cons {character : Char} {byte : UInt8} {others more : List UInt8}
    (narrow : byte.toNat < 0x80)
    (starts : byte :: others = String.utf8EncodeChar character ++ more) :
    character.toNat < 0x80 := by
  apply Nat.lt_of_not_le
  intro wide
  cases bytes : String.utf8EncodeChar character with
  | nil => exact absurd bytes String.utf8EncodeChar_ne_nil
  | cons first rest =>
      rw [bytes, List.cons_append] at starts
      have present : byte ∈ String.utf8EncodeChar character := by
        rw [bytes, (List.cons.inj starts).1]
        exact List.mem_cons_self
      have high := le_of_mem_utf8EncodeChar wide present
      omega

theorem encode_isPrefix_decodeAfter {start : List Char} (plain : IsPlain start)
    {bytes : List UInt8} :
    encode start <+: encode (decodeAfter none bytes) ↔ encode start <+: bytes := by
  induction start generalizing bytes with
  | nil => simp [encode]
  | cons character start ih =>
      obtain ⟨ascii, notNul⟩ := plain character List.mem_cons_self
      have later : IsPlain start := fun other member => plain other (List.mem_cons_of_mem _ member)
      have code : (UInt8.ofNat character.toNat).toNat = character.toNat := by
        rw [UInt8.toNat_ofNat']
        omega
      have alone : String.utf8EncodeChar character = [UInt8.ofNat character.toNat] :=
        utf8EncodeChar_of_ascii ascii
      rw [encode_cons, alone, List.singleton_append]
      constructor
      · intro starts
        cases read : decodeAfter none bytes with
        | nil =>
            rw [read] at starts
            exact absurd (List.prefix_nil.mp starts) (List.cons_ne_nil _ _)
        | cons first others =>
            rw [read, encode_cons] at starts
            obtain ⟨rest, whole⟩ := starts
            rw [List.cons_append] at whole
            have narrow := utf8EncodeChar_eq_cons (by omega) whole
            rw [utf8EncodeChar_of_ascii narrow, List.singleton_append] at whole
            obtain ⟨head, tail⟩ := List.cons.inj whole
            have same := congrArg UInt8.toNat head
            rw [code, UInt8.toNat_ofNat', Nat.mod_eq_of_lt (by omega)] at same
            rw [← Char.toNat_inj.mp same] at read
            obtain ⟨left, rfl, rfl⟩ := exists_of_decodeAfter_eq_cons ascii notNul read
            exact List.cons_prefix_cons.mpr ⟨rfl, (ih later).mp ⟨rest, tail⟩⟩
      · rintro ⟨rest, rfl⟩
        have read := decodeAfter_utf8EncodeChar character (encode start ++ rest)
        rw [alone, List.singleton_append] at read
        rw [List.cons_append, read, encode_cons, alone, List.singleton_append]
        exact List.cons_prefix_cons.mpr ⟨rfl, (ih later).mpr (List.prefix_append _ _)⟩

end IssueReport.Text
