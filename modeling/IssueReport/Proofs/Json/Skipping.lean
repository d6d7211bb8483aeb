import IssueReport.Proofs.Json.Written
/-!
Passing over what can be read. Skipping asks less of a value than reading does; where a value is
read, skipping it ends at the same place.
-/

namespace IssueReport.Json

variable {Reason : Type}

/-! ### Strings -/

def StringState.skipping : StringState → SkipState
  | .plain => .plain
  | .escape => .escape
  | .digits _ seen => .digits (3 - seen.length) (seen.all fun byte => (Byte.hexValue? byte).isSome)
  | .pairBackslash _ => .plain
  | .pairLetter _ => .escape

/-- Between the digits of an escape at most three have been seen. -/
def StringState.Sound : StringState → Prop
  | .digits _ seen => seen.length ≤ 3
  | _ => True

theorem all_of_hexValues? {bytes : List UInt8} {value : Nat}
    (hexadecimal : Byte.hexValues? bytes = some value) :
    bytes.all (fun byte => (Byte.hexValue? byte).isSome) = true := by
  unfold Byte.hexValues? at hexadecimal
  generalize 0 = start at hexadecimal
  induction bytes generalizing start with
  | nil => rfl
  | cons byte bytes ih =>
      rw [List.foldlM_cons] at hexadecimal
      cases digit : Byte.hexValue? byte with
      | none =>
          rw [digit] at hexadecimal
          cases hexadecimal
      | some found =>
          rw [digit] at hexadecimal
          rw [List.all_cons, digit, ih _ hexadecimal]
          rfl

theorem resolveDigits_eq_some {high : Option Nat} {digits bytes : List UInt8} {next : StringState}
    (resolved : resolveDigits high digits = some (bytes, next)) :
    digits.all (fun byte => (Byte.hexValue? byte).isSome) = true ∧
      next.skipping = .plain ∧ next.Sound := by
  unfold resolveDigits at resolved
  cases value : Byte.hexValues? digits with
  | none =>
      rw [value] at resolved
      cases resolved
  | some code =>
      refine ⟨all_of_hexValues? value, ?_⟩
      rw [value] at resolved
      cases high with
      | none =>
          dsimp only at resolved
          split at resolved
          · cases resolved
            exact ⟨rfl, trivial⟩
          · split at resolved
            · cases resolved
            · rw [Option.some.injEq, Prod.mk.injEq] at resolved
              rw [← resolved.2]
              exact ⟨rfl, trivial⟩
      | some high =>
          dsimp only at resolved
          split at resolved
          · rw [Option.some.injEq, Prod.mk.injEq] at resolved
            rw [← resolved.2]
            exact ⟨rfl, trivial⟩
          · cases resolved

theorem skipStringFrom_of_stringBytes {state : StringState} (sound : state.Sound)
    {gathered bytes : List UInt8} {input rest : Input}
    (read : @stringBytes Reason state gathered input = .ok (bytes, rest)) :
    @skipStringFrom Reason state.skipping input = .ok ((), rest) ∧
      rest.length < input.length := by
  induction input generalizing state gathered with
  | nil => cases read
  | cons byte after ih =>
      have step : ∀ (next : StringState) {longer : List UInt8}, next.Sound →
          @stringBytes Reason next longer after = .ok (bytes, rest) →
          @skipStringFrom Reason next.skipping after = .ok ((), rest) ∧
            rest.length < (byte :: after).length := by
        intro next longer nextSound nextRead
        have skipped := ih nextSound nextRead
        rw [List.length_cons]
        exact ⟨skipped.1, by omega⟩
      cases state with
      | plain =>
          simp only [StringState.skipping, stringBytes, skipStringFrom] at read ⊢
          split at read
          · rename_i closing
            rw [if_pos closing]
            cases read
            rw [List.length_cons]
            exact ⟨rfl, by omega⟩
          · rename_i notClosing
            rw [if_neg notClosing]
            split at read
            · rename_i escaping
              rw [if_pos escaping]
              exact step .escape trivial read
            · rename_i notEscaping
              rw [if_neg notEscaping]
              split at read
              · cases read
              · rename_i notControl
                rw [if_neg notControl]
                exact step .plain trivial read
      | escape =>
          simp only [StringState.skipping, stringBytes, skipStringFrom] at read ⊢
          split at read
          · rename_i coded
            rw [if_pos coded]
            exact step (.digits none []) (Nat.zero_le 3) read
          · rename_i notCoded
            rw [if_neg notCoded]
            cases short : shortEscape? byte with
            | none =>
                rw [short] at read
                cases read
            | some denoted =>
                rw [short] at read
                exact step .plain trivial read
      | digits high seen =>
          have few : seen.length ≤ 3 := sound
          simp only [StringState.skipping, stringBytes, skipStringFrom] at read ⊢
          split at read
          · rename_i more
            have missing : 3 - seen.length = (3 - (seen ++ [byte]).length) + 1 := by
              rw [List.length_append, List.length_singleton]
              omega
            rw [missing]
            have nextSound : (StringState.digits high (seen ++ [byte])).Sound := by
              change (seen ++ [byte]).length ≤ 3
              rw [List.length_append, List.length_singleton]
              omega
            have skipped := step _ nextSound read
            rw [StringState.skipping, List.all_append] at skipped
            simpa using skipped
          · rename_i last
            have missing : 3 - seen.length = 0 := by omega
            rw [missing]
            cases resolved : resolveDigits high (seen ++ [byte]) with
            | none =>
                rw [resolved] at read
                cases read
            | some denoted =>
                obtain ⟨hexadecimal, plain, nextSound⟩ := resolveDigits_eq_some resolved
                rw [resolved] at read
                have skipped := step _ nextSound read
                rw [List.all_append, List.all_cons, List.all_nil, Bool.and_true] at hexadecimal
                rw [plain] at skipped
                simp only [hexadecimal, if_true]
                exact skipped
      | pairBackslash high =>
          simp only [StringState.skipping, stringBytes, skipStringFrom] at read ⊢
          split at read
          · rename_i escaping
            have notClosing : ¬ byte = Byte.quote := by
              rw [escaping]
              decide
            rw [if_neg notClosing, if_pos escaping]
            exact step (.pairLetter high) trivial read
          · cases read
      | pairLetter high =>
          simp only [StringState.skipping, stringBytes, skipStringFrom] at read ⊢
          split at read
          · rename_i coded
            rw [if_pos coded]
            exact step (.digits (some high) []) (Nat.zero_le 3) read
          · cases read

theorem skipString_of_stringText {input rest : Input} {text : String}
    (read : @stringText Reason input = .ok (text, rest)) :
    @skipString Reason input = .ok ((), rest) ∧ rest.length < input.length := by
  unfold stringText at read
  cases bytes : @stringBytes Reason .plain [] input with
  | error fault =>
      rw [bytes] at read
      cases read
  | ok output =>
      obtain ⟨found, after⟩ := output
      rw [bytes] at read
      dsimp only at read
      cases decoded : Text.decode? found with
      | none =>
          rw [decoded] at read
          cases read
      | some text =>
          rw [decoded] at read
          cases read
          exact @skipStringFrom_of_stringBytes Reason .plain trivial _ _ _ _ bytes

theorem word_length_le {letters : List Char} {input rest : Input}
    (read : @word Reason letters input = .ok ((), rest)) : rest.length ≤ input.length := by
  induction letters generalizing input with
  | nil =>
      cases read
      exact Nat.le_refl _
  | cons letter letters ih =>
      cases input with
      | nil => cases read
      | cons byte after =>
          simp only [word] at read
          split at read
          · exact Nat.le_succ_of_le (ih read)
          · cases read

/-! ### Numbers -/

theorem exists_digit_of_takeWhile {input : Input}
    (written : ¬ (input.takeWhile Byte.isDigit).isEmpty) :
    ∃ byte rest, input = byte :: rest ∧ Byte.isDigit byte = true := by
  cases input with
  | nil => exact absurd rfl written
  | cons byte rest =>
      refine ⟨byte, rest, rfl, ?_⟩
      cases digit : Byte.isDigit byte with
      | true => rfl
      | false =>
          rw [List.takeWhile_cons_of_neg (by rw [digit]; exact Bool.false_ne_true)] at written
          exact absurd rfl written

theorem floatOf_rest {positive : Bool} {significand : Nat} {power : Int} {input rest : Input}
    {number : Number}
    (read : @floatOf Reason positive significand power input = .ok (number, rest)) :
    rest = input := by
  unfold floatOf at read
  cases scaled : scale (Binary64.ofNat significand) power with
  | none =>
      rw [scaled] at read
      cases read
  | some value =>
      rw [scaled] at read
      cases read
      rfl

theorem skipExponent_eq (input : Input) :
    @skipExponent Reason input =
      match (exponentSign input).2 with
      | byte :: rest =>
          if Byte.isDigit byte then .ok ((), rest.dropWhile Byte.isDigit) else .error .malformed
      | [] => .error .malformed := by
  cases input with
  | nil => rfl
  | cons byte rest =>
      by_cases upwards : byte = Byte.plus
      · rw [upwards]
        rfl
      · by_cases downwards : byte = Byte.minus
        · rw [downwards]
          rfl
        · have unsigned : exponentSign (byte :: rest) = (true, byte :: rest) := by
            simp [exponentSign, upwards, downwards]
          rw [unsigned]
          simp [skipExponent, upwards, downwards]

theorem exponentSign_length_le (input : Input) : (exponentSign input).2.length ≤ input.length := by
  unfold exponentSign
  split
  · exact Nat.le_succ _
  · exact Nat.le_succ _
  · exact Nat.le_refl _

theorem skipExponent_of_exponentPart {positive : Bool} {significand : Nat} {power : Int}
    {input rest : Input} {number : Number}
    (read : @exponentPart Reason positive significand power input = .ok (number, rest)) :
    @skipExponent Reason input = .ok ((), rest) ∧ rest.length ≤ input.length := by
  rw [exponentPart_eq] at read
  unfold exponentAfterSign digits at read
  dsimp only at read
  split at read
  · split at read <;> cases read
  · rename_i written
    obtain ⟨byte, after, unsigned, digit⟩ := exists_digit_of_takeWhile written
    have ends : rest = (exponentSign input).2.dropWhile Byte.isDigit := by
      split at read
      · split at read
        · cases read
        · cases read
          rfl
      · exact floatOf_rest read
    have shorter := (List.dropWhile_sublist Byte.isDigit (l := (exponentSign input).2)).length_le
    have unsignedLength := exponentSign_length_le input
    rw [ends]
    refine ⟨?_, by omega⟩
    rw [skipExponent_eq, unsigned, List.dropWhile_cons_of_pos digit]
    exact if_pos digit

theorem skipAfterDigits_of_afterDigits {positive : Bool} {significand : Nat} {power : Int}
    {input rest : Input} {number : Number}
    (read : @afterDigits Reason positive significand power input = .ok (number, rest)) :
    @skipAfterDigits Reason input = .ok ((), rest) ∧ rest.length ≤ input.length := by
  unfold afterDigits at read
  split at read
  · have skipped := skipExponent_of_exponentPart read
    exact ⟨skipped.1, Nat.le_succ_of_le skipped.2⟩
  · have skipped := skipExponent_of_exponentPart read
    exact ⟨skipped.1, Nat.le_succ_of_le skipped.2⟩
  · rw [floatOf_rest read]
    refine ⟨?_, Nat.le_refl _⟩
    simp [skipAfterDigits]

def skipAfterWhole : Reader Reason Unit
  | Byte.point :: after =>
      if after.head?.any Byte.isDigit then skipAfterDigits (after.dropWhile Byte.isDigit)
      else .error .malformed
  | rest => skipAfterDigits rest

theorem skipAfterWhole_of_afterWhole {positive : Bool} {significand dropped : Nat}
    {input rest : Input} {number : Number}
    (read : @afterWhole Reason positive significand dropped input = .ok (number, rest)) :
    @skipAfterWhole Reason input = .ok ((), rest) ∧ rest.length ≤ input.length := by
  unfold afterWhole at read
  split at read
  · rename_i after
    unfold fractionPart digits at read
    dsimp only at read
    split at read
    · split at read <;> cases read
    · rename_i written
      obtain ⟨byte, tail, same, digit⟩ := exists_digit_of_takeWhile written
      have skipped := skipAfterDigits_of_afterDigits read
      have shorter := (List.dropWhile_sublist Byte.isDigit (l := after)).length_le
      have digits : after.head?.any Byte.isDigit = true := by
        rw [same]
        exact digit
      rw [List.length_cons]
      refine ⟨?_, by omega⟩
      exact (if_pos digits).trans skipped.1
  · have skipped := skipExponent_of_exponentPart read
    exact ⟨skipped.1, Nat.le_succ_of_le skipped.2⟩
  · have skipped := skipExponent_of_exponentPart read
    exact ⟨skipped.1, Nat.le_succ_of_le skipped.2⟩
  · have ends : rest = input := by
      split at read
      · cases read
        rfl
      · exact floatOf_rest read
    rw [ends]
    refine ⟨?_, Nat.le_refl _⟩
    simp [skipAfterWhole, skipAfterDigits]

theorem skipUnsigned_of_unsignedNumber {positive : Bool} {input rest : Input} {number : Number}
    (read : @unsignedNumber Reason positive input = .ok (number, rest)) :
    @skipUnsigned Reason input = .ok ((), rest) ∧ rest.length < input.length := by
  cases input with
  | nil => cases read
  | cons byte after =>
      unfold unsignedNumber digits at read
      dsimp only at read
      by_cases written : ((byte :: after).takeWhile Byte.isDigit).isEmpty
      · rw [if_pos written] at read
        cases read
      · obtain ⟨first, tail, same, digit⟩ := exists_digit_of_takeWhile written
        cases same
        rw [if_neg written, List.dropWhile_cons_of_pos digit] at read
        by_cases leadingZero : byte = Byte.zero ∧ after.head?.any Byte.isDigit
        · rw [if_pos leadingZero] at read
          cases read
        · rw [if_neg leadingZero] at read
          have skipped := skipAfterWhole_of_afterWhole read
          have shorter := (List.dropWhile_sublist Byte.isDigit (l := after)).length_le
          rw [List.length_cons]
          refine ⟨?_, by omega⟩
          rw [← skipped.1, skipUnsigned, digit, if_neg (by decide), if_neg leadingZero]
          rfl

theorem skipUnsigned_of_readNumber {byte : UInt8} {input rest : Input} {number : Number}
    (read : @readNumber Reason (byte :: input) = .ok (number, rest)) :
    @skipUnsigned Reason (if byte = Byte.minus then input else byte :: input) = .ok ((), rest) ∧
      rest.length ≤ input.length := by
  by_cases negative : byte = Byte.minus
  · rw [negative] at read
    rw [if_pos negative]
    have skipped := @skipUnsigned_of_unsignedNumber Reason false _ _ _ read
    exact ⟨skipped.1, Nat.le_of_lt skipped.2⟩
  · rw [if_neg negative]
    have unsigned : @readNumber Reason (byte :: input) = unsignedNumber true (byte :: input) := by
      simp [readNumber, negative]
    rw [unsigned] at read
    have skipped := skipUnsigned_of_unsignedNumber read
    exact ⟨skipped.1, Nat.le_of_lt_succ skipped.2⟩

/-! ### Scalars -/

theorem skipScalar_of_readScalar {byte : UInt8} {input rest : Input} {value : Json}
    (read : @readScalar Reason byte input (byte :: input) = .ok (value, rest)) :
    @skipScalar Reason byte input = .ok ((), rest) ∧ rest.length ≤ input.length := by
  unfold readScalar at read
  unfold skipScalar
  split at read
  · rename_i letter
    obtain ⟨_, skipped, -⟩ := map_eq_ok.mp read
    rw [if_pos letter]
    exact ⟨skipped, word_length_le skipped⟩
  · rename_i notNull
    rw [if_neg notNull]
    split at read
    · rename_i letter
      obtain ⟨_, skipped, -⟩ := map_eq_ok.mp read
      rw [if_pos letter]
      exact ⟨skipped, word_length_le skipped⟩
    · rename_i notTrue
      rw [if_neg notTrue]
      split at read
      · rename_i letter
        obtain ⟨_, skipped, -⟩ := map_eq_ok.mp read
        rw [if_pos letter]
        exact ⟨skipped, word_length_le skipped⟩
      · rename_i notFalse
        rw [if_neg notFalse]
        split at read
        · rename_i starts
          obtain ⟨number, found, -⟩ := map_eq_ok.mp read
          have skipped := skipUnsigned_of_readNumber found
          have notQuote : ¬ byte = Byte.quote := ne_of_startsNumber starts rfl
          rw [if_neg notQuote]
          by_cases negative : byte = Byte.minus
          · rw [if_pos negative] at skipped ⊢
            exact skipped
          · have digit : Byte.isDigit byte = true := by
              simpa [startsNumber, negative] using starts
            rw [if_neg negative] at skipped ⊢
            rw [if_pos digit]
            exact skipped
        · split at read
          · rename_i quote
            obtain ⟨text, found, -⟩ := map_eq_ok.mp read
            have skipped := skipString_of_stringText found
            rw [if_pos quote]
            exact ⟨skipped.1, Nat.le_of_lt skipped.2⟩
          · cases read

/-! ### Values -/

variable (Reason) in
/-- A value is passed over wherever it stands, and leaves the rest. Every byte of it pays for two
steps. -/
def Skips (input rest : Input) : Prop :=
  ∃ steps, steps + 1 + 2 * rest.length ≤ 2 * input.length ∧
    ∀ bound frames, @skipWithin Reason (bound + steps + 1) .beforeValue frames input =
      skipWithin bound .afterValue frames rest

theorem skipWithin_step {place next : SkipPlace} {frames opened : List Frame} {input rest : Input}
    (step : @skipStep Reason place frames input = .ok (some (next, opened), rest)) (bound : Nat) :
    @skipWithin Reason (bound + 1) place frames input = skipWithin bound next opened rest := by
  simp only [skipWithin, step]

theorem skipStep_beforeValue_skipBlanks {input rest : Input} {byte : UInt8}
    (found : skipBlanks input = byte :: rest) (frames : List Frame) :
    @skipStep Reason .beforeValue frames input = skipStep .beforeValue frames (byte :: rest) := by
  simp only [skipStep]
  rw [look_of_cons found, look_of_cons (skipBlanks_idem found)]

theorem Skips.blanks {input here rest : Input} {byte : UInt8}
    (skips : Skips Reason (byte :: here) rest)
    (found : skipBlanks input = byte :: here) : Skips Reason input rest := by
  obtain ⟨steps, enough, passed⟩ := skips
  have shorter := skipBlanks_length_le input
  rw [found] at shorter
  refine ⟨steps, by omega, ?_⟩
  intro bound frames
  rw [← passed bound frames]
  simp only [skipWithin, skipStep_beforeValue_skipBlanks found]

theorem skips_scalar {input here rest : Input} {byte : UInt8} {value : Json}
    (found : skipBlanks input = byte :: here)
    (read : @readScalar Reason byte here (byte :: here) = .ok (value, rest)) :
    Skips Reason input rest := by
  obtain ⟨skipped, shorter⟩ := skipScalar_of_readScalar read
  have notBracket : ¬ byte = Byte.openBracket := by
    intro bracket
    rw [bracket] at read
    cases read
  have notBrace : ¬ byte = Byte.openBrace := by
    intro brace
    rw [brace] at read
    cases read
  have skipBlanksLength := skipBlanks_length_le input
  rw [found, List.length_cons] at skipBlanksLength
  refine ⟨0, by omega, ?_⟩
  intro bound frames
  apply skipWithin_step
  simp only [skipStep]
  rw [look_of_cons found, if_neg notBracket, if_neg notBrace]
  exact map_of_ok skipped

/-! ### Arrays and objects -/

def SkipPlace.inside (first : Bool) : SkipPlace :=
  if first then .opened else .afterValue

variable (Reason) in
/-- The rest of a frame is passed over. Before the first entry one step takes no byte. -/
def SkipsFrame (frame : Frame) (first : Bool) (input rest : Input) : Prop :=
  ∃ steps, steps + 2 * rest.length ≤ 2 * input.length + first.toNat ∧
    ∀ bound frames,
      @skipWithin Reason (bound + steps) (.inside first) (frame :: frames) input =
        skipWithin bound .afterValue frames rest

theorem SkipsFrame.closed {frame : Frame} {input rest : Input}
    (found : skipBlanks input = frame.closing :: rest) (first : Bool) :
    SkipsFrame Reason frame first input rest := by
  have shorter := skipBlanks_length_le input
  rw [found, List.length_cons] at shorter
  refine ⟨1, by omega, ?_⟩
  intro bound frames
  apply skipWithin_step
  cases first with
  | true =>
      change Reader.look _ input = _
      rw [look_of_cons found, if_pos rfl]
  | false =>
      change Reader.look _ input = _
      rw [look_of_cons found, if_pos rfl]

/-- An entry and what follows it are passed over one after the other. -/
theorem SkipsFrame.entry {frame : Frame} {value after rest : Input}
    (tail : SkipsFrame Reason frame false after rest) (skips : Skips Reason value after) :
    ∃ steps, steps + 2 * rest.length ≤ 2 * value.length ∧
      ∀ bound frames, @skipWithin Reason (bound + steps) .beforeValue (frame :: frames) value =
        skipWithin bound .afterValue frames rest := by
  obtain ⟨steps, enough, passed⟩ := skips
  obtain ⟨more, tailEnough, tailPassed⟩ := tail
  have noSpare : false.toNat = 0 := rfl
  refine ⟨more + steps + 1, by omega, ?_⟩
  intro bound frames
  have count : bound + (more + steps + 1) = bound + more + steps + 1 := by omega
  rw [count]
  exact (passed (bound + more) (frame :: frames)).trans (tailPassed bound frames)

theorem SkipsFrame.ofFirst {frame : Frame} {input here value after rest : Input} {byte : UInt8}
    (tail : SkipsFrame Reason frame false after rest) (skips : Skips Reason value after)
    (found : skipBlanks input = byte :: here) (another : ¬ byte = frame.closing)
    (before : @skipBefore Reason frame (byte :: here) = .ok ((), value))
    (shorter : value.length ≤ (byte :: here).length) :
    SkipsFrame Reason frame true input rest := by
  obtain ⟨steps, enough, passed⟩ := tail.entry skips
  have blanks := skipBlanks_length_le input
  rw [found] at blanks
  have spare : true.toNat = 1 := rfl
  refine ⟨steps + 1, by omega, ?_⟩
  intro bound frames
  rw [← passed bound frames]
  apply skipWithin_step
  change Reader.look _ input = _
  rw [look_of_cons found, if_neg another]
  exact map_of_ok before

theorem SkipsFrame.ofNext {frame : Frame} {input here value after rest : Input}
    (tail : SkipsFrame Reason frame false after rest) (skips : Skips Reason value after)
    (found : skipBlanks input = Byte.comma :: here)
    (before : @skipBefore Reason frame here = .ok ((), value))
    (shorter : value.length ≤ here.length) : SkipsFrame Reason frame false input rest := by
  obtain ⟨steps, enough, passed⟩ := tail.entry skips
  have blanks := skipBlanks_length_le input
  rw [found, List.length_cons] at blanks
  have another : ¬ Byte.comma = frame.closing := by
    cases frame <;> decide
  refine ⟨steps + 1, by omega, ?_⟩
  intro bound frames
  rw [← passed bound frames]
  apply skipWithin_step
  change Reader.look _ input = _
  rw [look_of_cons found, if_neg another, if_pos rfl]
  exact map_of_ok before

theorem skipsFrame_of_itemsWithin {item : Reader Reason Json}
    (sound : ∀ input value rest, item input = .ok (value, rest) → Skips Reason input rest)
    {bound : Nat} {first : Bool} {input after rest : Input} {found : List Json}
    (read : itemsWithin item bound first input = .ok (found, after))
    (closing : @endOfArray Reason after = .ok ((), rest)) :
    SkipsFrame Reason .array first input rest := by
  induction bound generalizing first input found with
  | zero => cases read
  | succ bound ih =>
      obtain ⟨another, start, mark, read⟩ := andThen_eq_ok.mp read
      cases another with
      | false =>
          obtain ⟨here, blanks, same⟩ := anotherItem_eq_ok_false.mp mark
          cases read
          rw [endOfArray_eq_ok, same, skipBlanks_cons rfl] at closing
          cases closing
          exact SkipsFrame.closed blanks first
      | true =>
          obtain ⟨next, here, same, notClosing, blanks⟩ := anotherItem_eq_ok_true.mp mark
          rw [if_pos rfl] at read
          obtain ⟨value, between, itemRead, read⟩ := andThen_eq_ok.mp read
          obtain ⟨values, tailRead, -⟩ := map_eq_ok.mp read
          have tail := ih tailRead
          rw [same] at itemRead
          have skips := sound _ _ _ itemRead
          cases first with
          | true =>
              rw [if_pos rfl] at blanks
              exact tail.ofFirst skips blanks notClosing rfl (Nat.le_refl _)
          | false =>
              rw [if_neg Bool.false_ne_true] at blanks
              obtain ⟨behind, comma, blanks⟩ := blanks
              exact tail.ofNext (skips.blanks blanks) comma rfl (Nat.le_refl _)

theorem skipName_of_read {input after between value : Input} {name : String}
    (blanks : skipBlanks input = Byte.quote :: after)
    (named : @stringText Reason after = .ok (name, between))
    (mark : @colon Reason between = .ok ((), value)) :
    @skipName Reason input = .ok ((), value) ∧ value.length ≤ input.length := by
  obtain ⟨skipped, shorter⟩ := skipString_of_stringText named
  have inputLength := skipBlanks_length_le input
  rw [blanks, List.length_cons] at inputLength
  have markLength := skipBlanks_length_le between
  rw [colon_eq_ok.mp mark, List.length_cons] at markLength
  refine ⟨?_, by omega⟩
  have quoted : (Reader.look fun byte rest _ =>
      if byte = Byte.quote then @skipString Reason rest else .error .malformed) input =
        .ok ((), between) := by
    rw [look_of_cons blanks, if_pos rfl]
    exact skipped
  exact (andThen_of_ok quoted).trans mark

theorem skipsFrame_of_membersWithin {memberValue : Reader Reason Json}
    (sound : ∀ input value rest, memberValue input = .ok (value, rest) → Skips Reason input rest)
    {bound : Nat} {first : Bool} {input after rest : Input} {before found : List (String × Json)}
    (read : membersWithin (readWrittenMember memberValue) bound first before input =
      .ok (found, after))
    (closing : @endOfObject Reason after = .ok ((), rest)) :
    SkipsFrame Reason .object first input rest := by
  induction bound generalizing first input before with
  | zero => cases read
  | succ bound ih =>
      obtain ⟨name?, start, mark, read⟩ := andThen_eq_ok.mp read
      cases name? with
      | none =>
          obtain ⟨here, blanks, same⟩ := anotherName_eq_ok_none.mp mark
          cases read
          rw [endOfObject_eq_ok, same, skipBlanks_cons rfl] at closing
          cases closing
          exact SkipsFrame.closed blanks first
      | some name =>
          obtain ⟨here, named, blanks⟩ := anotherName_eq_ok_some.mp mark
          obtain ⟨longer, between, memberRead, tailRead⟩ := andThen_eq_ok.mp read
          obtain ⟨_, valueStart, colonRead, valueRead⟩ := andThen_eq_ok.mp memberRead
          obtain ⟨value, valueRead, -⟩ := map_eq_ok.mp valueRead
          have tail := ih tailRead
          have skips := sound _ _ _ valueRead
          cases first with
          | true =>
              rw [if_pos rfl] at blanks
              have nameSkipped := skipName_of_read (skipBlanks_cons rfl) named colonRead
              exact tail.ofFirst skips blanks (by decide) nameSkipped.1 nameSkipped.2
          | false =>
              rw [if_neg Bool.false_ne_true] at blanks
              obtain ⟨behind, comma, blanks⟩ := blanks
              have nameSkipped := skipName_of_read blanks named colonRead
              exact tail.ofNext skips comma nameSkipped.1 nameSkipped.2

theorem SkipsFrame.value {frame : Frame} {opening : UInt8} {input here rest : Input}
    (inside : SkipsFrame Reason frame true here rest) (found : skipBlanks input = opening :: here)
    (opens : ∀ frames, @skipStep Reason .beforeValue frames input =
      .ok (some (.opened, frame :: frames), here)) : Skips Reason input rest := by
  obtain ⟨steps, enough, passed⟩ := inside
  have shorter := skipBlanks_length_le input
  rw [found, List.length_cons] at shorter
  have spare : true.toNat = 1 := rfl
  refine ⟨steps, by omega, ?_⟩
  intro bound frames
  rw [← passed bound frames]
  exact skipWithin_step (opens frames) (bound + steps)

/-- What can be read is passed over. -/
theorem skips_of_readWritten {depth : Nat} {input rest : Input} {written : Json}
    (read : @readWritten Reason depth input = .ok (written, rest)) : Skips Reason input rest := by
  -- values inside an array or object are read to a smaller depth
  induction depth generalizing input rest written with
  | zero =>
      obtain ⟨byte, here, found, scalar⟩ := look_eq_ok.mp read
      exact skips_scalar found scalar
  | succ inner ih =>
      have sound : ∀ input value rest,
          @readWritten Reason inner input = .ok (value, rest) → Skips Reason input rest :=
        fun _ _ _ valueRead => ih valueRead
      obtain ⟨byte, here, found, read⟩ := look_eq_ok.mp read
      split at read
      · rename_i opening
        rw [opening] at found
        obtain ⟨values, after, itemsRead, closed⟩ := andThen_eq_ok.mp read
        obtain ⟨_, closing, -⟩ := map_eq_ok.mp closed
        apply (skipsFrame_of_itemsWithin sound itemsRead closing).value found
        intro frames
        change Reader.look _ input = _
        rw [look_of_cons found, if_pos rfl]
      · split at read
        · rename_i opening
          rw [opening] at found
          obtain ⟨members, after, membersRead, closed⟩ := andThen_eq_ok.mp read
          obtain ⟨_, closing, -⟩ := map_eq_ok.mp closed
          apply (skipsFrame_of_membersWithin sound membersRead closing).value found
          intro frames
          change Reader.look _ input = _
          rw [look_of_cons found, if_neg (by decide), if_pos rfl]
        · exact skips_scalar found read

theorem skipValue_of_readWritten {depth : Nat} {input rest : Input} {written : Json}
    (read : @readWritten Reason depth input = .ok (written, rest)) :
    @skipValue Reason input = .ok ((), rest) := by
  obtain ⟨steps, enough, passed⟩ := skips_of_readWritten read
  obtain ⟨spare, count⟩ : ∃ spare, 2 * input.length + 2 = spare + 1 + steps + 1 :=
    ⟨2 * input.length - steps, by omega⟩
  unfold skipValue
  rw [count, passed (spare + 1) []]
  rfl

end IssueReport.Json
