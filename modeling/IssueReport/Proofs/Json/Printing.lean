import IssueReport.Proofs.Json.Written
import IssueReport.Proofs.Text.Utf8
import IssueReport.Json.Printer
/-!
What is written is read back. The text of a value without floats, whose integers fit and which is
not nested too deep, denotes that value, however it is spaced and whatever follows it.
-/

namespace IssueReport.Json

open Text (encode encode_cons encode_append)

variable {Reason : Type}

/-! ### Strings -/

theorem stringBytes_append {bytes : List UInt8}
    (ordinary : ∀ byte ∈ bytes,
      byte ≠ Byte.quote ∧ byte ≠ Byte.backslash ∧ Byte.isControl byte = false)
    (gathered : List UInt8) (rest : Input) :
    @stringBytes Reason .plain gathered (bytes ++ rest) =
      stringBytes .plain (bytes.reverse ++ gathered) rest := by
  induction bytes generalizing gathered with
  | nil => rfl
  | cons byte bytes ih =>
      obtain ⟨notQuote, notBackslash, notControl⟩ := ordinary byte List.mem_cons_self
      have tail := ih (fun other present => ordinary other (List.mem_cons_of_mem byte present))
        (byte :: gathered)
      rw [List.cons_append, stringBytes, if_neg notQuote, if_neg notBackslash, notControl,
        if_neg Bool.false_ne_true, tail, List.reverse_cons, List.append_assoc]
      rfl

theorem encode_singleton (character : Char) :
    encode [character] = String.utf8EncodeChar character := by
  rw [encode_cons]
  exact List.append_nil _

theorem codePointBytes_toNat (character : Char) :
    codePointBytes character.toNat = encode [character] := by
  rw [codePointBytes, Char.ofNat_toNat]
  exact Text.utf8_ofList [character]

/-- An escape of four digits, the first two of which are zero. -/
theorem stringBytes_escape {code : Nat} (small : code < 0x20) (gathered : List UInt8)
    (rest : Input) :
    @stringBytes Reason .plain gathered
        (encode ['\\', 'u', '0', '0', hexDigit (code / 16), hexDigit (code % 16)] ++ rest) =
      stringBytes .plain ((codePointBytes code).reverse ++ gathered) rest := by
  have digits : ∀ code : Fin 0x20,
      encode ['\\', 'u', '0', '0', hexDigit (code / 16), hexDigit (code % 16)] =
        [0x5C, 0x75, 0x30, 0x30, UInt8.ofNat (hexDigit (code / 16)).toNat,
          UInt8.ofNat (hexDigit (code % 16)).toNat] ∧
        Byte.hexValues? [0x30, 0x30, UInt8.ofNat (hexDigit (code / 16)).toNat,
          UInt8.ofNat (hexDigit (code % 16)).toNat] = some code := by
    decide
  obtain ⟨bytes, value⟩ := digits ⟨code, small⟩
  have resolved : resolveDigits none [0x30, 0x30, UInt8.ofNat (hexDigit (code / 16)).toNat,
      UInt8.ofNat (hexDigit (code % 16)).toNat] = some (codePointBytes code, .plain) := by
    have notHigh : ¬ (0xD800 ≤ code ∧ code ≤ 0xDBFF) := by omega
    have notLow : ¬ (0xDC00 ≤ code ∧ code ≤ 0xDFFF) := by omega
    unfold resolveDigits
    rw [value]
    change (if _ then _ else if _ then _ else _) = _
    rw [if_neg notHigh, if_neg notLow]
  rw [bytes]
  change @stringBytes Reason
    (.digits none [0x30, 0x30, UInt8.ofNat (hexDigit (code / 16)).toNat]) gathered
    (UInt8.ofNat (hexDigit (code % 16)).toNat :: rest) = _
  simp only [stringBytes, List.length_cons, List.length_nil, List.cons_append, List.nil_append,
    Nat.lt_irrefl, if_false, resolved]

theorem ordinary_of_character {character : Char} (notQuote : character ≠ '"')
    (notBackslash : character ≠ '\\') (notControl : ¬ character.toNat < 0x20) :
    ∀ byte ∈ encode [character],
      byte ≠ Byte.quote ∧ byte ≠ Byte.backslash ∧ Byte.isControl byte = false := by
  intro byte present
  rw [encode_singleton] at present
  have value : 0x20 ≤ byte.toNat ∧ byte.toNat ≠ 0x22 ∧ byte.toNat ≠ 0x5C := by
    by_cases ascii : character.toNat < 0x80
    · rw [Text.utf8EncodeChar_of_ascii ascii, List.mem_singleton] at present
      have same : byte.toNat = character.toNat := by
        rw [present, UInt8.toNat_ofNat']
        omega
      rw [same]
      refine ⟨Nat.le_of_not_lt notControl, ?_, ?_⟩
      · intro quote
        exact notQuote (Char.toNat_inj.mp quote)
      · intro backslash
        exact notBackslash (Char.toNat_inj.mp backslash)
    · have wide := Text.le_of_mem_utf8EncodeChar (Nat.le_of_not_lt ascii) present
      omega
  obtain ⟨printed, noQuote, noBackslash⟩ := value
  refine ⟨?_, ?_, ?_⟩
  · rintro rfl
    exact noQuote rfl
  · rintro rfl
    exact noBackslash rfl
  · rw [Byte.isControl, decide_eq_false_iff_not, UInt8.lt_iff_toNat_lt]
    exact Nat.not_lt.mpr printed

theorem stringBytes_writeCharacter (character : Char) (gathered : List UInt8) (rest : Input) :
    @stringBytes Reason .plain gathered (encode (writeCharacter character) ++ rest) =
      stringBytes .plain ((encode [character]).reverse ++ gathered) rest := by
  unfold writeCharacter
  split
  · rfl
  · rfl
  · rfl
  · rfl
  · rfl
  · rfl
  · rfl
  · rename_i notQuote notBackslash _ _ _ _ _
    split
    · rename_i control
      rw [stringBytes_escape control, codePointBytes_toNat]
    · rename_i notControl
      exact stringBytes_append (ordinary_of_character notQuote notBackslash notControl) gathered
        rest

theorem stringBytes_writeText (characters : List Char) (gathered : List UInt8) (rest : Input) :
    @stringBytes Reason .plain gathered
        (encode (characters.flatMap writeCharacter) ++ Byte.quote :: rest) =
      .ok (gathered.reverse ++ encode characters, rest) := by
  induction characters generalizing gathered with
  | nil =>
      change Except.ok (gathered.reverse, rest) = _
      rw [encode, List.flatMap_nil, List.append_nil]
  | cons character characters ih =>
      rw [List.flatMap_cons, encode_append, List.append_assoc, stringBytes_writeCharacter, ih,
        List.reverse_append, List.reverse_reverse, List.append_assoc, encode_singleton,
        encode_cons]

theorem encode_writeText (text : String) :
    encode (writeText text) =
      Byte.quote :: (encode (text.toList.flatMap writeCharacter) ++ [Byte.quote]) := by
  rw [writeText, List.cons_append, encode_cons, encode_append]
  rfl

theorem stringText_writeText (text : String) (rest : Input) :
    @stringText Reason (encode (text.toList.flatMap writeCharacter) ++ Byte.quote :: rest) =
      .ok (text, rest) := by
  have bytes := @stringBytes_writeText Reason text.toList [] rest
  simp only [stringText, bytes, List.reverse_nil, List.nil_append, Text.decode?_encode,
    String.ofList_toList]

/-! ### Integers -/

def digitBytes (value : Nat) : List UInt8 :=
  encode (Nat.toDigits 10 value)

theorem encode_digitChar {digit : Nat} (small : digit < 10) :
    encode [digit.digitChar] = [UInt8.ofNat (0x30 + digit)] := by
  have each : ∀ digit : Fin 10, encode [Nat.digitChar digit] = [UInt8.ofNat (0x30 + digit)] := by
    decide
  exact each ⟨digit, small⟩

theorem digitBytes_of_lt {value : Nat} (small : value < 10) :
    digitBytes value = [UInt8.ofNat (0x30 + value)] := by
  rw [digitBytes, Nat.toDigits_of_lt_base small, encode_digitChar small]

theorem digitBytes_of_le {value : Nat} (large : 10 ≤ value) :
    digitBytes value = digitBytes (value / 10) ++ [UInt8.ofNat (0x30 + value % 10)] := by
  rw [digitBytes, Nat.toDigits_of_base_le (by decide) large, encode_append,
    encode_digitChar (Nat.mod_lt value (by decide))]
  rfl

theorem digit_facts {digit : Nat} (small : digit < 10) :
    Byte.isDigit (UInt8.ofNat (0x30 + digit)) = true ∧
      Byte.digitValue (UInt8.ofNat (0x30 + digit)) = digit := by
  have each : ∀ digit : Fin 10, Byte.isDigit (UInt8.ofNat (0x30 + digit)) = true ∧
      Byte.digitValue (UInt8.ofNat (0x30 + digit)) = digit := by
    decide
  exact each ⟨digit, small⟩

theorem isDigit_of_mem_digitBytes {value : Nat} :
    ∀ byte ∈ digitBytes value, Byte.isDigit byte = true := by
  induction value using Nat.strongRecOn with
  | ind value ih =>
      intro byte present
      by_cases small : value < 10
      · rw [digitBytes_of_lt small, List.mem_singleton] at present
        rw [present]
        exact (digit_facts small).1
      · rw [digitBytes_of_le (Nat.le_of_not_lt small), List.mem_append,
          List.mem_singleton] at present
        rcases present with early | last
        · exact ih (value / 10) (by omega) byte early
        · rw [last]
          exact (digit_facts (Nat.mod_lt value (by decide))).1

theorem absorb_append {digits : List UInt8} {start value : Nat}
    (absorbed : absorb start digits = (value, [])) (digit : UInt8)
    (fits : value * 10 + Byte.digitValue digit < significandLimit) :
    absorb start (digits ++ [digit]) = (value * 10 + Byte.digitValue digit, []) := by
  induction digits generalizing start with
  | nil =>
      cases absorbed
      exact if_pos fits
  | cons first digits ih =>
      rw [List.cons_append]
      unfold absorb at absorbed ⊢
      dsimp only at absorbed ⊢
      split at absorbed
      · rename_i small
        rw [if_pos small]
        exact ih absorbed
      · cases absorbed

/-- Digits that fit are gathered to the number that they were written for. -/
theorem absorb_digitBytes {value : Nat} (fits : value < significandLimit) :
    absorb 0 (digitBytes value) = (value, []) := by
  induction value using Nat.strongRecOn with
  | ind value ih =>
      by_cases small : value < 10
      · have whole := (digit_facts small).2
        have absorbed := @absorb_append [] 0 0 rfl (UInt8.ofNat (0x30 + value))
        rw [whole, Nat.zero_mul, Nat.zero_add] at absorbed
        rw [digitBytes_of_lt small]
        exact absorbed fits
      · have lastDigit := (digit_facts (Nat.mod_lt value (by decide))).2
        have shorter := ih (value / 10) (by omega) (by omega)
        have absorbed := absorb_append shorter (UInt8.ofNat (0x30 + value % 10))
        have whole : value / 10 * 10 + value % 10 = value := by omega
        rw [lastDigit, whole] at absorbed
        rw [digitBytes_of_le (Nat.le_of_not_lt small)]
        exact absorbed fits

/-- Only zero is written with a leading zero. -/
theorem digitBytes_eq_cons (value : Nat) :
    ∃ byte digits, digitBytes value = byte :: digits ∧ (byte = Byte.zero → value = 0) := by
  induction value using Nat.strongRecOn with
  | ind value ih =>
      by_cases small : value < 10
      · refine ⟨_, [], digitBytes_of_lt small, ?_⟩
        intro zero
        have whole := (digit_facts small).2
        rw [zero] at whole
        exact whole.symm
      · obtain ⟨byte, digits, same, leading⟩ := ih (value / 10) (by omega)
        refine ⟨byte, digits ++ [UInt8.ofNat (0x30 + value % 10)], ?_, ?_⟩
        · rw [digitBytes_of_le (Nat.le_of_not_lt small), same]
          rfl
        · intro zero
          have none := leading zero
          omega

/-- What follows does not go on with a number. -/
def EndsNumber (rest : Input) : Prop :=
  ∀ byte after, rest = byte :: after →
    Byte.isDigit byte = false ∧ byte ≠ Byte.point ∧ byte ≠ Byte.letterE ∧ byte ≠ Byte.capitalE

theorem digits_append {written : List UInt8} {rest : Input}
    (allDigits : ∀ byte ∈ written, Byte.isDigit byte = true) (ends : EndsNumber rest) :
    (written ++ rest).takeWhile Byte.isDigit = written ∧
      (written ++ rest).dropWhile Byte.isDigit = rest := by
  induction written with
  | nil =>
      cases rest with
      | nil => exact ⟨rfl, rfl⟩
      | cons byte after =>
          have notDigit : ¬ Byte.isDigit byte = true := by
            rw [(ends byte after rfl).1]
            exact Bool.false_ne_true
          exact ⟨List.takeWhile_cons_of_neg notDigit, List.dropWhile_cons_of_neg notDigit⟩
  | cons byte written ih =>
      have digit := allDigits byte List.mem_cons_self
      obtain ⟨taken, dropped⟩ :=
        ih fun other present => allDigits other (List.mem_cons_of_mem byte present)
      rw [List.cons_append, List.takeWhile_cons_of_pos digit, List.dropWhile_cons_of_pos digit,
        taken, dropped]
      exact ⟨rfl, rfl⟩

theorem afterWhole_of_ends {rest : Input} (ends : EndsNumber rest) (positive : Bool)
    (significand : Nat) :
    @afterWhole Reason positive significand 0 rest =
      .ok (integerOf positive significand, rest) := by
  cases rest with
  | nil => rfl
  | cons byte after =>
      obtain ⟨-, noPoint, noLetter, noCapital⟩ := ends byte after rfl
      simp [afterWhole, noPoint, noLetter, noCapital]

theorem unsignedNumber_digitBytes {value : Nat} (fits : value < significandLimit) (positive : Bool)
    {rest : Input} (ends : EndsNumber rest) :
    @unsignedNumber Reason positive (digitBytes value ++ rest) =
      .ok (integerOf positive value, rest) := by
  obtain ⟨byte, digits, same, leading⟩ := digitBytes_eq_cons value
  obtain ⟨taken, dropped⟩ := digits_append (@isDigit_of_mem_digitBytes value) ends
  have alone : ¬ (byte = Byte.zero ∧ (digits ++ rest).head?.any Byte.isDigit) := by
    rintro ⟨zero, more⟩
    have nothing : digits = [] := by
      have only : digitBytes value = [0x30] := by
        rw [leading zero]
        rfl
      rw [same] at only
      exact (List.cons.inj only).2
    rw [nothing, List.nil_append] at more
    cases rest with
    | nil => cases more
    | cons next after =>
        have notDigit := (ends next after rfl).1
        rw [List.head?_cons, Option.any_some, notDigit] at more
        cases more
  have start : digitBytes value ++ rest = byte :: (digits ++ rest) := by
    rw [same]
    rfl
  unfold unsignedNumber Json.digits
  rw [taken, dropped, start]
  dsimp only
  rw [if_neg alone, absorb_digitBytes fits, same]
  exact afterWhole_of_ends ends positive value

theorem encode_writeInteger (value : Int) :
    encode (writeInteger value) =
      (if value < 0 then [Byte.minus] else []) ++ digitBytes value.natAbs := by
  rw [writeInteger, encode_append]
  split <;> rfl

def FitsWord (value : Int) : Prop :=
  -(signedLimit : Int) ≤ value ∧ value < (significandLimit : Int)

theorem readNumber_writeInteger {value : Int} (fits : FitsWord value) {rest : Input}
    (ends : EndsNumber rest) :
    @readNumber Reason (encode (writeInteger value) ++ rest) = .ok (.integer value, rest) := by
  obtain ⟨low, high⟩ := fits
  have limits : signedLimit < significandLimit := by decide
  have absFits : value.natAbs < significandLimit := by omega
  rw [encode_writeInteger]
  by_cases negative : value < 0
  · have inRange : 0 < value.natAbs ∧ value.natAbs ≤ signedLimit := by omega
    have same : -(value.natAbs : Int) = value := by omega
    rw [if_pos negative]
    change unsignedNumber false (digitBytes value.natAbs ++ rest) = _
    rw [unsignedNumber_digitBytes absFits false ends, integerOf, if_neg Bool.false_ne_true,
      if_pos inRange, same]
  · obtain ⟨byte, digits, start, -⟩ := digitBytes_eq_cons value.natAbs
    have same : (value.natAbs : Int) = value := by omega
    have notMinus : byte ≠ Byte.minus := by
      rintro rfl
      have digit := @isDigit_of_mem_digitBytes value.natAbs Byte.minus
        (by rw [start]; exact List.mem_cons_self)
      exact absurd digit (by decide)
    have unsigned : @readNumber Reason (digitBytes value.natAbs ++ rest) =
        unsignedNumber true (digitBytes value.natAbs ++ rest) := by
      rw [start, List.cons_append]
      simp [readNumber, notMinus]
    rw [if_neg negative, List.nil_append, unsigned, unsignedNumber_digitBytes absFits true ends,
      integerOf, if_pos rfl, same]

theorem writeInteger_starts (value : Int) :
    ∃ byte tail, encode (writeInteger value) = byte :: tail ∧ startsNumber byte = true := by
  rw [encode_writeInteger]
  by_cases negative : value < 0
  · rw [if_pos negative]
    exact ⟨Byte.minus, _, rfl, rfl⟩
  · obtain ⟨byte, digits, start, -⟩ := digitBytes_eq_cons value.natAbs
    have digit := @isDigit_of_mem_digitBytes value.natAbs byte
      (by rw [start]; exact List.mem_cons_self)
    refine ⟨byte, digits, ?_, ?_⟩
    · rw [if_neg negative, List.nil_append, start]
    · rw [startsNumber, digit, Bool.or_true]

theorem not_blank_of_startsNumber {byte : UInt8} (starts : startsNumber byte = true) :
    Byte.isBlank byte = false := by
  cases blank : Byte.isBlank byte with
  | false => rfl
  | true =>
      simp only [Byte.isBlank, Bool.or_eq_true, decide_eq_true_eq] at blank
      rcases blank with ((same | same) | same) | same
      · exact absurd same (ne_of_startsNumber starts rfl)
      · exact absurd same (ne_of_startsNumber starts rfl)
      · exact absurd same (ne_of_startsNumber starts rfl)
      · exact absurd same (ne_of_startsNumber starts rfl)

/-! ### Values -/

/-- A value without floats, whose integers fit and which is nested at most so deep. -/
def Printable : Nat → Json → Prop
  | _, .null => True
  | _, .boolean _ => True
  | _, .number (.integer value) => FitsWord value
  | _, .number (.float _) => False
  | _, .text _ => True
  | 0, .array _ => False
  | 0, .object _ => False
  | inner + 1, .array items => ∀ item ∈ items, Printable inner item
  | inner + 1, .object members => ∀ member ∈ members, Printable inner member.2

variable {spacing : Spacing}

theorem blank_lineBreak (level : Nat) :
    ∀ byte ∈ encode (spacing.lineBreak level), Byte.isBlank byte = true := by
  intro byte present
  cases spacing with
  | compact => cases present
  | indented =>
      obtain ⟨character, spaced, encoded⟩ := List.mem_flatMap.mp present
      rw [Spacing.lineBreak, List.mem_cons] at spaced
      have blank : character = '\n' ∨ character = ' ' := by
        rcases spaced with line | space
        · exact Or.inl line
        · exact Or.inr (List.eq_of_mem_replicate space)
      rcases blank with same | same
      · rw [same] at encoded
        rw [List.mem_singleton.mp encoded]
        rfl
      · rw [same] at encoded
        rw [List.mem_singleton.mp encoded]
        rfl

theorem blank_afterColon :
    ∀ byte ∈ encode spacing.afterColon, Byte.isBlank byte = true := by
  intro byte present
  cases spacing with
  | compact => cases present
  | indented =>
      rw [List.mem_singleton.mp present]
      rfl

theorem skipBlanks_append {blanks : List UInt8}
    (blank : ∀ byte ∈ blanks, Byte.isBlank byte = true) (input : Input) :
    skipBlanks (blanks ++ input) = skipBlanks input :=
  List.dropWhile_append_of_pos blank

theorem readWritten_append {blanks : List UInt8}
    (blank : ∀ byte ∈ blanks, Byte.isBlank byte = true) (depth : Nat) (input : Input) :
    @readWritten Reason depth (blanks ++ input) = readWritten depth input := by
  have skipped := skipBlanks_append blank input
  cases depth <;> simp only [readWritten, Reader.look, skipped]

/-- A value is written from a mark that is no blank and closes nothing. -/
theorem write_starts {depth : Nat} {value : Json} (printable : Printable depth value)
    (level : Nat) :
    ∃ byte tail, encode (write spacing level value) = byte :: tail ∧
      Byte.isBlank byte = false ∧ byte ≠ Byte.closeBracket := by
  cases value with
  | null => exact ⟨_, _, rfl, rfl, by decide⟩
  | boolean value => cases value <;> exact ⟨_, _, rfl, rfl, by decide⟩
  | number number =>
      cases number with
      | float value =>
          cases depth <;> cases printable
      | integer value =>
          obtain ⟨byte, tail, same, starts⟩ := writeInteger_starts value
          exact ⟨byte, tail, same, not_blank_of_startsNumber starts,
            ne_of_startsNumber starts rfl⟩
  | text value => exact ⟨_, _, rfl, rfl, by decide⟩
  | array items => cases items <;> exact ⟨_, _, rfl, rfl, by decide⟩
  | object members => cases members <;> exact ⟨_, _, rfl, rfl, by decide⟩

theorem endsNumber_of_mark {byte : UInt8} {rest : Input}
    (mark : byte = Byte.comma ∨ byte = Byte.closeBracket ∨ byte = Byte.closeBrace ∨
      Byte.isBlank byte = true) : EndsNumber (byte :: rest) := by
  intro other after same
  cases same
  rcases mark with rfl | rfl | rfl | blank
  · decide
  · decide
  · decide
  · simp only [Byte.isBlank, Bool.or_eq_true, decide_eq_true_eq] at blank
    rcases blank with ((rfl | rfl) | rfl) | rfl <;> decide

theorem endsNumber_append {blanks : List UInt8}
    (blank : ∀ byte ∈ blanks, Byte.isBlank byte = true) {input : Input}
    (ends : EndsNumber input) : EndsNumber (blanks ++ input) := by
  cases blanks with
  | nil => exact ends
  | cons byte blanks =>
      have first := blank byte List.mem_cons_self
      exact endsNumber_of_mark (Or.inr (Or.inr (Or.inr first)))

/-- Where an entry may start: after blanks, and after a comma if it is not the first. -/
def entryStart (first : Bool) (blanks : List UInt8) : List UInt8 :=
  if first then blanks else Byte.comma :: blanks

theorem anotherItem_entryStart {blanks : List UInt8}
    (blank : ∀ byte ∈ blanks, Byte.isBlank byte = true) {byte : UInt8} {tail : Input}
    (mark : Byte.isBlank byte = false) (another : byte ≠ Byte.closeBracket) (first : Bool) :
    @anotherItem Reason first (entryStart first blanks ++ byte :: tail) =
      .ok (true, byte :: tail) := by
  have skipped : skipBlanks (blanks ++ byte :: tail) = byte :: tail := by
    rw [skipBlanks_append blank, skipBlanks_cons mark]
  rw [anotherItem_eq_ok_true]
  refine ⟨byte, tail, rfl, another, ?_⟩
  cases first with
  | true => exact skipped
  | false => exact ⟨blanks ++ byte :: tail, skipBlanks_cons rfl, skipped⟩

theorem anotherName_entryStart {blanks : List UInt8}
    (blank : ∀ byte ∈ blanks, Byte.isBlank byte = true) (name : String) (tail : Input)
    (first : Bool) :
    @anotherName Reason first (entryStart first blanks ++ (encode (writeText name) ++ tail)) =
      .ok (some name, tail) := by
  have quoted : encode (writeText name) ++ tail =
      Byte.quote :: (encode (name.toList.flatMap writeCharacter) ++ Byte.quote :: tail) := by
    rw [encode_writeText, List.cons_append, List.append_assoc]
    rfl
  have skipped : skipBlanks (blanks ++ (encode (writeText name) ++ tail)) =
      Byte.quote :: (encode (name.toList.flatMap writeCharacter) ++ Byte.quote :: tail) := by
    rw [quoted, skipBlanks_append blank, skipBlanks_cons rfl]
  rw [anotherName_eq_ok_some]
  refine ⟨_, stringText_writeText name tail, ?_⟩
  cases first with
  | true => exact skipped
  | false => exact ⟨blanks ++ (encode (writeText name) ++ tail), skipBlanks_cons rfl, skipped⟩

def ReadBack (Reason : Type) (spacing : Spacing) (depth : Nat) : Prop :=
  ∀ value, Printable depth value → ∀ level rest, EndsNumber rest →
    @readWritten Reason depth (encode (write spacing level value) ++ rest) = .ok (value, rest)

theorem endsNumber_writeItems {level outer : Nat} (items : List Json) (rest : Input) :
    EndsNumber (encode (writeItems spacing level items) ++
      (encode (spacing.lineBreak outer) ++ Byte.closeBracket :: rest)) := by
  cases items with
  | nil =>
      exact endsNumber_append (blank_lineBreak outer) (endsNumber_of_mark (Or.inr (Or.inl rfl)))
  | cons item items => exact endsNumber_of_mark (Or.inl rfl)

/-- One item and those after it. -/
theorem itemsWithin_entry {depth bound level : Nat} {first : Bool} {item : Json}
    {others : List Json} {tail rest : Input} (readBack : ReadBack Reason spacing depth)
    (printable : Printable depth item) (ends : EndsNumber tail)
    (tailRead : itemsWithin (@readWritten Reason depth) bound false tail = .ok (others, rest)) :
    itemsWithin (@readWritten Reason depth) (bound + 1) first
        (entryStart first (encode (spacing.lineBreak level)) ++
          (encode (write spacing level item) ++ tail)) =
      .ok (item :: others, rest) := by
  obtain ⟨byte, after, start, mark, another⟩ := @write_starts spacing depth item printable level
  have begun := @anotherItem_entryStart Reason _ (@blank_lineBreak spacing level) byte
    (after ++ tail) mark another first
  rw [← List.cons_append, ← start] at begun
  unfold itemsWithin
  rw [andThen_of_ok begun, if_pos rfl, andThen_of_ok (readBack item printable level tail ends)]
  exact map_of_ok tailRead

theorem itemsWithin_writeItems {depth level outer : Nat} (readBack : ReadBack Reason spacing depth)
    {items : List Json} (printable : ∀ item ∈ items, Printable depth item) {bound : Nat}
    (enough : items.length < bound) (rest : Input) :
    itemsWithin (@readWritten Reason depth) bound false
        (encode (writeItems spacing level items) ++
          (encode (spacing.lineBreak outer) ++ Byte.closeBracket :: rest)) =
      .ok (items, Byte.closeBracket :: rest) := by
  induction items generalizing bound with
  | nil =>
      obtain ⟨spare, same⟩ : ∃ spare, bound = spare + 1 := ⟨bound - 1, by
        rw [List.length_nil] at enough
        omega⟩
      have closed : @anotherItem Reason false
          (encode (spacing.lineBreak outer) ++ Byte.closeBracket :: rest) =
            .ok (false, Byte.closeBracket :: rest) := by
        rw [anotherItem_eq_ok_false]
        refine ⟨rest, ?_, rfl⟩
        rw [skipBlanks_append (blank_lineBreak outer), skipBlanks_cons rfl]
      rw [same]
      exact andThen_of_ok closed
  | cons item items ih =>
      rw [List.length_cons] at enough
      obtain ⟨spare, same⟩ : ∃ spare, bound = spare + 1 := ⟨bound - 1, by omega⟩
      have tailRead := @ih
        (fun other present => printable other (List.mem_cons_of_mem item present)) spare (by omega)
      have entry := @itemsWithin_entry Reason spacing depth spare level false item items _ _
        readBack (printable item List.mem_cons_self) (endsNumber_writeItems items rest) tailRead
      rw [same, writeItems, encode_append, encode_append, List.append_assoc, List.append_assoc]
      exact entry

theorem length_le_writeItems (level : Nat) (items : List Json) :
    items.length ≤ (encode (writeItems spacing level items)).length := by
  induction items with
  | nil => exact Nat.zero_le _
  | cons item items ih =>
      rw [writeItems, encode_append, List.length_append, List.length_cons]
      have comma :
          1 ≤ (encode (',' :: spacing.lineBreak level ++ write spacing level item)).length := by
        rw [List.cons_append, encode_cons, List.length_append]
        exact Nat.le_add_right 1 _
      omega

/-- All items of an array that has some, from its first line break to its closing bracket. -/
theorem items_write {depth level outer : Nat} (readBack : ReadBack Reason spacing depth)
    {item : Json} {items : List Json} (printable : ∀ entry ∈ item :: items, Printable depth entry)
    (rest : Input) :
    Json.items (@readWritten Reason depth) (encode (spacing.lineBreak level) ++
        (encode (write spacing level item) ++ (encode (writeItems spacing level items) ++
          (encode (spacing.lineBreak outer) ++ Byte.closeBracket :: rest)))) =
      .ok (item :: items, Byte.closeBracket :: rest) := by
  apply itemsWithin_entry readBack (printable item List.mem_cons_self)
    (endsNumber_writeItems items rest)
  apply itemsWithin_writeItems readBack
  · exact fun other present => printable other (List.mem_cons_of_mem item present)
  · have shorter := @length_le_writeItems spacing level items
    simp only [List.length_append, List.length_cons]
    omega

theorem readWritten_array {depth level : Nat} (readBack : ReadBack Reason spacing depth)
    {items : List Json} (printable : ∀ item ∈ items, Printable depth item) (rest : Input) :
    @readWritten Reason (depth + 1) (encode (write spacing level (.array items)) ++ rest) =
      .ok (.array items, rest) := by
  cases items with
  | nil => rfl
  | cons item items =>
      have read := @items_write Reason spacing depth (level + 1) level readBack item items
        printable rest
      have layout : encode (write spacing level (.array (item :: items))) ++ rest =
          Byte.openBracket :: (encode (spacing.lineBreak (level + 1)) ++
            (encode (write spacing (level + 1) item) ++
              (encode (writeItems spacing (level + 1) items) ++
                (encode (spacing.lineBreak level) ++ Byte.closeBracket :: rest)))) := by
        simp only [write, List.cons_append, encode_cons, encode_append, List.append_assoc]
        rfl
      rw [layout]
      change ((Json.items (@readWritten Reason depth)).andThen _) _ = _
      rw [andThen_of_ok read]
      rfl

theorem endsNumber_writeMembers {level outer : Nat} (members : List (String × Json))
    (rest : Input) :
    EndsNumber (encode (writeMembers spacing level members) ++
      (encode (spacing.lineBreak outer) ++ Byte.closeBrace :: rest)) := by
  cases members with
  | nil =>
      exact endsNumber_append (blank_lineBreak outer)
        (endsNumber_of_mark (Or.inr (Or.inr (Or.inl rfl))))
  | cons member members => exact endsNumber_of_mark (Or.inl rfl)

/-- One member and those after it. -/
theorem membersWithin_entry {depth bound level : Nat} {first : Bool}
    {before found : List (String × Json)} {name : String} {value : Json} {tail rest : Input}
    (readBack : ReadBack Reason spacing depth) (printable : Printable depth value)
    (ends : EndsNumber tail)
    (tailRead : membersWithin (readWrittenMember (@readWritten Reason depth)) bound false
      (before ++ [(name, value)]) tail = .ok (found, rest)) :
    membersWithin (readWrittenMember (@readWritten Reason depth)) (bound + 1) first before
        (entryStart first (encode (spacing.lineBreak level)) ++ (encode (writeText name) ++
          (Byte.colon :: (encode spacing.afterColon ++
            (encode (write spacing level value) ++ tail))))) =
      .ok (found, rest) := by
  have named := @anotherName_entryStart Reason _ (@blank_lineBreak spacing level) name
    (Byte.colon :: (encode spacing.afterColon ++ (encode (write spacing level value) ++ tail)))
    first
  have mark : @colon Reason (Byte.colon :: (encode spacing.afterColon ++
      (encode (write spacing level value) ++ tail))) =
        .ok ((), encode spacing.afterColon ++ (encode (write spacing level value) ++ tail)) :=
    colon_eq_ok.mpr (skipBlanks_cons rfl)
  have valueRead : @readWritten Reason depth (encode spacing.afterColon ++
      (encode (write spacing level value) ++ tail)) = .ok (value, tail) := by
    rw [readWritten_append blank_afterColon]
    exact readBack value printable level tail ends
  have memberRead : readWrittenMember (@readWritten Reason depth) before name
      (Byte.colon :: (encode spacing.afterColon ++ (encode (write spacing level value) ++ tail))) =
        .ok (before ++ [(name, value)], tail) := by
    unfold readWrittenMember
    rw [andThen_of_ok mark]
    exact map_of_ok valueRead
  unfold membersWithin
  rw [andThen_of_ok named]
  change ((readWrittenMember (@readWritten Reason depth) before name).andThen _) _ = _
  rw [andThen_of_ok memberRead]
  exact tailRead

theorem membersWithin_writeMembers {depth level outer : Nat}
    (readBack : ReadBack Reason spacing depth) {members : List (String × Json)}
    (printable : ∀ member ∈ members, Printable depth member.2) {bound : Nat}
    (enough : members.length < bound) (before : List (String × Json)) (rest : Input) :
    membersWithin (readWrittenMember (@readWritten Reason depth)) bound false before
        (encode (writeMembers spacing level members) ++
          (encode (spacing.lineBreak outer) ++ Byte.closeBrace :: rest)) =
      .ok (before ++ members, Byte.closeBrace :: rest) := by
  induction members generalizing bound before with
  | nil =>
      obtain ⟨spare, same⟩ : ∃ spare, bound = spare + 1 := ⟨bound - 1, by
        rw [List.length_nil] at enough
        omega⟩
      have closed : @anotherName Reason false
          (encode (spacing.lineBreak outer) ++ Byte.closeBrace :: rest) =
            .ok (none, Byte.closeBrace :: rest) := by
        rw [anotherName_eq_ok_none]
        refine ⟨rest, ?_, rfl⟩
        rw [skipBlanks_append (blank_lineBreak outer), skipBlanks_cons rfl]
      rw [same, List.append_nil]
      exact andThen_of_ok closed
  | cons member members ih =>
      obtain ⟨name, value⟩ := member
      rw [List.length_cons] at enough
      obtain ⟨spare, same⟩ : ∃ spare, bound = spare + 1 := ⟨bound - 1, by omega⟩
      have tailRead := @ih
        (fun other present => printable other (List.mem_cons_of_mem _ present)) spare (by omega)
        (before ++ [(name, value)])
      rw [List.append_assoc] at tailRead
      have entry := @membersWithin_entry Reason spacing depth spare level false before _ name value
        _ _ readBack (printable (name, value) List.mem_cons_self)
        (endsNumber_writeMembers members rest) tailRead
      rw [same]
      simp only [writeMembers, writeName, List.cons_append, encode_cons, encode_append,
        List.append_assoc]
      exact entry

theorem length_le_writeMembers (level : Nat) (members : List (String × Json)) :
    members.length ≤ (encode (writeMembers spacing level members)).length := by
  induction members with
  | nil => exact Nat.zero_le _
  | cons member members ih =>
      rw [writeMembers, encode_append, List.length_append, List.length_cons]
      have comma : 1 ≤ (encode (',' :: spacing.lineBreak level ++
          writeName spacing member.1 ++ write spacing level member.2)).length := by
        rw [List.cons_append, List.cons_append, encode_cons, List.length_append]
        exact Nat.le_add_right 1 _
      omega

/-- All members of an object that has some, from its first line break to its closing brace. -/
theorem members_write {depth level outer : Nat} (readBack : ReadBack Reason spacing depth)
    {name : String} {value : Json} {members : List (String × Json)}
    (printable : ∀ entry ∈ (name, value) :: members, Printable depth entry.2) (rest : Input) :
    Json.members (readWrittenMember (@readWritten Reason depth)) []
        (encode (spacing.lineBreak level) ++ (encode (writeText name) ++
          (Byte.colon :: (encode spacing.afterColon ++ (encode (write spacing level value) ++
            (encode (writeMembers spacing level members) ++
              (encode (spacing.lineBreak outer) ++ Byte.closeBrace :: rest))))))) =
      .ok ((name, value) :: members, Byte.closeBrace :: rest) := by
  apply membersWithin_entry readBack (printable (name, value) List.mem_cons_self)
    (endsNumber_writeMembers members rest)
  apply membersWithin_writeMembers readBack
  · exact fun other present => printable other (List.mem_cons_of_mem _ present)
  · have shorter := @length_le_writeMembers spacing level members
    simp only [List.length_append, List.length_cons]
    omega

theorem readWritten_object {depth level : Nat} (readBack : ReadBack Reason spacing depth)
    {members : List (String × Json)} (printable : ∀ member ∈ members, Printable depth member.2)
    (rest : Input) :
    @readWritten Reason (depth + 1) (encode (write spacing level (.object members)) ++ rest) =
      .ok (.object members, rest) := by
  cases members with
  | nil => rfl
  | cons member members =>
      obtain ⟨name, value⟩ := member
      have read := @members_write Reason spacing depth (level + 1) level readBack name value members
        printable rest
      have layout : encode (write spacing level (.object ((name, value) :: members))) ++ rest =
          Byte.openBrace :: (encode (spacing.lineBreak (level + 1)) ++ (encode (writeText name) ++
            (Byte.colon :: (encode spacing.afterColon ++
              (encode (write spacing (level + 1) value) ++
                (encode (writeMembers spacing (level + 1) members) ++
                  (encode (spacing.lineBreak level) ++ Byte.closeBrace :: rest))))))) := by
        simp only [write, writeName, List.cons_append, encode_cons, encode_append,
          List.append_assoc]
        rfl
      rw [layout]
      change ((Json.members (readWrittenMember (@readWritten Reason depth)) []).andThen _) _ = _
      rw [andThen_of_ok read]
      rfl

theorem readWritten_number {depth level : Nat} {value : Int} (fits : FitsWord value)
    {rest : Input} (ends : EndsNumber rest) :
    @readWritten Reason depth (encode (write spacing level (.number (.integer value))) ++ rest) =
      .ok (.number (.integer value), rest) := by
  have read := @readNumber_writeInteger Reason value fits rest ends
  obtain ⟨byte, tail, same, starts⟩ := writeInteger_starts value
  change @readWritten Reason depth (encode (writeInteger value) ++ rest) = _
  rw [same, List.cons_append] at read ⊢
  have scalar : @readScalar Reason byte (tail ++ rest) (byte :: (tail ++ rest)) =
      .ok (.number (.integer value), rest) := by
    rw [readScalar_of_startsNumber starts]
    exact map_of_ok read
  have notBracket : byte ≠ Byte.openBracket := ne_of_startsNumber starts rfl
  have notBrace : byte ≠ Byte.openBrace := ne_of_startsNumber starts rfl
  have found := @skipBlanks_cons byte (tail ++ rest) (not_blank_of_startsNumber starts)
  cases depth with
  | zero =>
      unfold readWritten
      rw [look_of_cons found]
      exact scalar
  | succ inner =>
      unfold readWritten
      rw [look_of_cons found, if_neg notBracket, if_neg notBrace]
      exact scalar

theorem readWritten_text {depth level : Nat} (value : String) (rest : Input) :
    @readWritten Reason depth (encode (write spacing level (.text value)) ++ rest) =
      .ok (.text value, rest) := by
  have read := @stringText_writeText Reason value rest
  have layout : encode (write spacing level (.text value)) ++ rest =
      Byte.quote :: (encode (value.toList.flatMap writeCharacter) ++ Byte.quote :: rest) := by
    rw [write, encode_writeText, List.cons_append, List.append_assoc]
    rfl
  rw [layout]
  cases depth <;> exact map_of_ok read

/-- What is written is read back. -/
theorem readBack (depth : Nat) : ReadBack Reason spacing depth := by
  -- on the depth and not on the value, since the reader goes by the depth
  induction depth with
  | zero =>
      intro value printable level rest ends
      cases value with
      | null => rfl
      | boolean value => cases value <;> rfl
      | number number =>
          cases number with
          | integer value => exact readWritten_number printable ends
          | float value => cases printable
      | text value => exact readWritten_text value rest
      | array items => cases printable
      | object members => cases printable
  | succ inner ih =>
      intro value printable level rest ends
      cases value with
      | null => rfl
      | boolean value => cases value <;> rfl
      | number number =>
          cases number with
          | integer value => exact readWritten_number printable ends
          | float value => cases printable
      | text value => exact readWritten_text value rest
      | array items => exact readWritten_array ih printable rest
      | object members => exact readWritten_object ih printable rest

/-- A printed value is parsed to itself, also with blanks after it. -/
theorem parseWritten_write {value : Json} (printable : Printable depthLimit value) (level : Nat)
    {blanks : List UInt8} (blank : ∀ byte ∈ blanks, Byte.isBlank byte = true) :
    parseWritten (encode (write spacing level value) ++ blanks) = .ok value := by
  have ends : EndsNumber blanks := by
    cases blanks with
    | nil =>
        intro byte after same
        cases same
    | cons byte blanks =>
        exact endsNumber_of_mark (Or.inr (Or.inr (Or.inr (blank byte List.mem_cons_self))))
  have nothing : skipBlanks blanks = [] := by
    have skipped := skipBlanks_append blank []
    rw [List.append_nil] at skipped
    exact skipped
  exact readAll_eq_ok.mpr ⟨blanks, readBack depthLimit value printable level blanks ends, nothing⟩

theorem parse_toText {value : Json} (printable : Printable depthLimit value)
    (settled : settle value = value) :
    parse (Text.utf8 (toText spacing value)) = .ok value := by
  have written := @parseWritten_write spacing value printable 0 [] fun _ present => by
    cases present
  rw [List.append_nil] at written
  rw [toText, Text.utf8_ofList]
  exact parse_eq_ok.mpr ⟨value, written, settled⟩

end IssueReport.Json
