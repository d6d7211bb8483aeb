import IssueReport.Proofs.Json.Printing
import Mathlib.Data.List.Induction
import Mathlib.Data.List.TakeWhile
/-!
Number literals. The reader of numbers takes a literal from the text that it is given. A literal
without fraction and exponent is read as the integer of its digits if that fits 64 bits, and any
other literal as a float.
-/

namespace IssueReport.Json

open Text (encode)

variable {Reason : Type}

/-- Neither a fraction nor an exponent is written. -/
def IsPlain (literal : Input) : Prop :=
  ∀ byte ∈ literal, byte = Byte.minus ∨ Byte.isDigit byte = true

def minusZero : Input :=
  [Byte.minus, Byte.zero]

def digitsFrom (start : Nat) (digits : List UInt8) : Nat :=
  digits.foldl (fun value digit => value * 10 + Byte.digitValue digit) start

def plainValue : Input → Int
  | Byte.minus :: digits => -digitsFrom 0 digits
  | digits => digitsFrom 0 digits

structure IntegerLiteral (literal : Input) (value : Int) : Prop where
  plain : IsPlain literal
  unsignedZero : literal ≠ minusZero
  value_eq : plainValue literal = value
  fits : FitsWord value

structure Reads (literal : Input) (number : Number) : Prop where
  integer : ∀ value, number = .integer value ↔ IntegerLiteral literal value
  written : ∀ value, number = .integer value → literal = encode (writeInteger value)

/-! ### Digits -/

theorem le_digitsFrom (start : Nat) (digits : List UInt8) : start ≤ digitsFrom start digits := by
  induction digits generalizing start with
  | nil => exact Nat.le_refl start
  | cons digit digits ih =>
      have onward := ih (start * 10 + Byte.digitValue digit)
      change start ≤ digitsFrom (start * 10 + Byte.digitValue digit) digits
      omega

theorem digitsFrom_append (start : Nat) (digits : List UInt8) (digit : UInt8) :
    digitsFrom start (digits ++ [digit]) = digitsFrom start digits * 10 + Byte.digitValue digit :=
  List.foldl_concat ..

/-- Digits are absorbed to the end exactly if their number stays below the limit. -/
theorem absorb_of_lt {start : Nat} {digits : List UInt8}
    (fits : digitsFrom start digits < significandLimit) :
    absorb start digits = (digitsFrom start digits, []) := by
  induction digits generalizing start with
  | nil => rfl
  | cons digit digits ih =>
      change digitsFrom (start * 10 + Byte.digitValue digit) digits < significandLimit at fits
      have small := le_digitsFrom (start * 10 + Byte.digitValue digit) digits
      unfold absorb
      dsimp only
      rw [if_pos (by omega), ih fits]
      rfl

theorem absorb_of_le {start : Nat} {digits : List UInt8} (begins : start < significandLimit)
    (exceeds : significandLimit ≤ digitsFrom start digits) : (absorb start digits).2 ≠ [] := by
  induction digits generalizing start with
  | nil =>
      change significandLimit ≤ start at exceeds
      omega
  | cons digit digits ih =>
      unfold absorb
      dsimp only
      split
      · rename_i small
        exact ih small exceeds
      · exact List.cons_ne_nil digit digits

theorem digitValue_lt {digit : UInt8} (isDigit : Byte.isDigit digit = true) :
    Byte.digitValue digit < 10 ∧ UInt8.ofNat (0x30 + Byte.digitValue digit) = digit := by
  unfold Byte.isDigit at isDigit
  rw [Bool.and_eq_true, decide_eq_true_eq, decide_eq_true_eq, UInt8.le_iff_toNat_le,
    UInt8.le_iff_toNat_le] at isDigit
  have low : 48 ≤ digit.toNat := isDigit.1
  have high : digit.toNat ≤ 57 := isDigit.2
  have same : 0x30 + Byte.digitValue digit = digit.toNat := by
    unfold Byte.digitValue
    omega
  refine ⟨by unfold Byte.digitValue; omega, ?_⟩
  rw [same, UInt8.ofNat_toNat]

theorem pos_digitsFrom {byte : UInt8} {digits : List UInt8} (isDigit : Byte.isDigit byte = true)
    (leading : byte ≠ Byte.zero) : 0 < digitsFrom 0 (byte :: digits) := by
  have onward := le_digitsFrom (0 * 10 + Byte.digitValue byte) digits
  have positive : 0 < Byte.digitValue byte := by
    apply Nat.pos_of_ne_zero
    intro zero
    have same := (digitValue_lt isDigit).2
    rw [zero] at same
    exact leading same.symm
  change 0 < digitsFrom (0 * 10 + Byte.digitValue byte) digits
  omega

/-- Digits without a leading zero are those that their number is written with. -/
theorem digitBytes_digitsFrom {written : List UInt8} (nonempty : written ≠ [])
    (allDigits : ∀ byte ∈ written, Byte.isDigit byte = true)
    (leading : written.head? = some Byte.zero → written = [Byte.zero]) :
    digitBytes (digitsFrom 0 written) = written := by
  -- the last digit comes off the end of the digits as it does in printing
  induction written using List.reverseRecOn with
  | nil => exact absurd rfl nonempty
  | append_singleton before digit ih =>
      obtain ⟨small, same⟩ := digitValue_lt (allDigits digit List.mem_concat_self)
      rw [digitsFrom_append]
      cases before with
      | nil =>
          change digitBytes (0 * 10 + Byte.digitValue digit) = [digit]
          rw [Nat.zero_mul, Nat.zero_add, digitBytes_of_lt small, same]
      | cons first others =>
          have nonzero : first ≠ Byte.zero := by
            intro zero
            have lengths := congrArg List.length (leading (by rw [zero]; rfl))
            simp at lengths
          have digitsBefore : ∀ byte ∈ first :: others, Byte.isDigit byte = true :=
            fun byte member => allDigits byte (List.mem_append_left [digit] member)
          have positive := @pos_digitsFrom first others (digitsBefore first List.mem_cons_self)
            nonzero
          have shorter := ih (List.cons_ne_nil first others) digitsBefore
            (fun starts => absurd (Option.some.inj starts) nonzero)
          have quotient : (digitsFrom 0 (first :: others) * 10 + Byte.digitValue digit) / 10 =
              digitsFrom 0 (first :: others) := by omega
          have remainder : (digitsFrom 0 (first :: others) * 10 + Byte.digitValue digit) % 10 =
              Byte.digitValue digit := by omega
          rw [digitBytes_of_le (by omega), quotient, remainder, shorter, same]

/-! ### Floats -/

/-- A reader that gives only floats, and leaves an end of what it is given. -/
def GivesFloats (reader : Reader Reason Number) : Prop :=
  ∀ input number rest, reader input = .ok (number, rest) →
    ∃ taken value, input = taken ++ rest ∧ number = .float value

theorem givesFloats_floatOf (positive : Bool) (significand : Nat) (power : Int) :
    GivesFloats (@floatOf Reason positive significand power) := by
  intro input number rest read
  unfold floatOf at read
  split at read
  · cases read
    exact ⟨[], _, rfl, rfl⟩
  · cases read

theorem exists_append_digits (input : Input) : ∃ taken, input = taken ++ (digits input).2 :=
  ⟨(digits input).1, (List.takeWhile_append_dropWhile).symm⟩

theorem exists_append_exponentSign (input : Input) :
    ∃ taken, input = taken ++ (exponentSign input).2 := by
  unfold exponentSign
  split
  · exact ⟨[Byte.plus], rfl⟩
  · exact ⟨[Byte.minus], rfl⟩
  · exact ⟨[], rfl⟩

theorem givesFloats_exponentPart (positive : Bool) (significand : Nat) (power : Int) :
    GivesFloats (@exponentPart Reason positive significand power) := by
  intro input number rest read
  obtain ⟨sign, inputSplit⟩ := exists_append_exponentSign input
  obtain ⟨written, afterSign⟩ := exists_append_digits (exponentSign input).2
  rw [exponentPart_eq] at read
  unfold exponentAfterSign at read
  split at read
  · split at read <;> cases read
  · split at read
    · split at read
      · cases read
      · cases read
        refine ⟨sign ++ written, _, ?_, rfl⟩
        rw [List.append_assoc, ← afterSign, ← inputSplit]
    · obtain ⟨taken, value, split, same⟩ := givesFloats_floatOf _ _ _ _ _ _ read
      refine ⟨sign ++ (written ++ taken), value, ?_, same⟩
      rw [List.append_assoc, List.append_assoc, ← split, ← afterSign, ← inputSplit]

theorem givesFloats_afterDigits (positive : Bool) (significand : Nat) (power : Int) :
    GivesFloats (@afterDigits Reason positive significand power) := by
  intro input number rest read
  unfold afterDigits at read
  split at read
  · obtain ⟨taken, value, split, same⟩ := givesFloats_exponentPart _ _ _ _ _ _ read
    exact ⟨_ :: taken, value, by rw [split]; rfl, same⟩
  · obtain ⟨taken, value, split, same⟩ := givesFloats_exponentPart _ _ _ _ _ _ read
    exact ⟨_ :: taken, value, by rw [split]; rfl, same⟩
  · exact givesFloats_floatOf _ _ _ _ _ _ read

theorem givesFloats_fractionPart (positive : Bool) (significand : Nat) (power : Int) :
    GivesFloats (@fractionPart Reason positive significand power) := by
  intro input number rest read
  obtain ⟨written, inputSplit⟩ := exists_append_digits input
  unfold fractionPart at read
  dsimp only at read
  split at read
  · split at read <;> cases read
  · obtain ⟨taken, value, split, same⟩ := givesFloats_afterDigits _ _ _ _ _ _ read
    exact ⟨written ++ taken, value, by rw [List.append_assoc, ← split, ← inputSplit], same⟩

/-! ### Literals -/

/-- What follows the digits before a point is nothing, or what makes a float of the number. -/
theorem afterWhole_eq_ok {positive : Bool} {significand dropped : Nat} {input rest : Input}
    {number : Number}
    (read : @afterWhole Reason positive significand dropped input = .ok (number, rest)) :
    (input = rest ∧ if dropped = 0 then number = integerOf positive significand
      else ∃ value, number = .float value) ∨
    ∃ mark taken value, input = mark :: (taken ++ rest) ∧
      (mark ≠ Byte.minus ∧ Byte.isDigit mark = false) ∧ number = .float value := by
  unfold afterWhole at read
  split at read
  · obtain ⟨taken, value, split, same⟩ := givesFloats_fractionPart _ _ _ _ _ _ read
    exact .inr ⟨Byte.point, taken, value, congrArg (Byte.point :: ·) split, by decide, same⟩
  · obtain ⟨taken, value, split, same⟩ := givesFloats_exponentPart _ _ _ _ _ _ read
    exact .inr ⟨Byte.letterE, taken, value, congrArg (Byte.letterE :: ·) split, by decide, same⟩
  · obtain ⟨taken, value, split, same⟩ := givesFloats_exponentPart _ _ _ _ _ _ read
    exact .inr ⟨Byte.capitalE, taken, value, congrArg (Byte.capitalE :: ·) split, by decide, same⟩
  · left
    split at read
    · rename_i all
      cases read
      rw [if_pos all]
      exact ⟨rfl, rfl⟩
    · rename_i some
      rw [if_neg some]
      unfold floatOf at read
      split at read
      · cases read
        exact ⟨rfl, _, rfl⟩
      · cases read

def signed (positive : Bool) (digits : List UInt8) : Input :=
  if positive then digits else Byte.minus :: digits

section Digits

variable {written : List UInt8} (nonempty : written ≠ [])
  (allDigits : ∀ byte ∈ written, Byte.isDigit byte = true)
  (leading : written.head? = some Byte.zero → written = [Byte.zero])

include allDigits in
theorem plain_signed (positive : Bool) : IsPlain (signed positive written) := by
  intro byte member
  cases positive with
  | true => exact .inr (allDigits byte member)
  | false =>
      rcases List.mem_cons.mp member with sign | digit
      · exact .inl sign
      · exact .inr (allDigits byte digit)

include nonempty allDigits in
theorem head_ne_minus : ∃ first others, written = first :: others ∧ first ≠ Byte.minus := by
  cases written with
  | nil => exact absurd rfl nonempty
  | cons first others =>
      refine ⟨first, others, rfl, ?_⟩
      intro sign
      have digit := allDigits first List.mem_cons_self
      rw [sign] at digit
      cases digit

include nonempty allDigits in
theorem plainValue_signed (positive : Bool) :
    plainValue (signed positive written) =
      if positive then (digitsFrom 0 written : Int) else -digitsFrom 0 written := by
  cases positive with
  | false => rfl
  | true =>
      obtain ⟨first, others, same, noSign⟩ := head_ne_minus nonempty allDigits
      rw [same]
      simp [signed, plainValue, noSign]

include nonempty allDigits leading in
theorem signed_eq_minusZero {positive : Bool} :
    signed positive written = minusZero ↔ positive = false ∧ digitsFrom 0 written = 0 := by
  have zero : digitsFrom 0 written = 0 ↔ written = [Byte.zero] := by
    constructor
    · intro none
      rw [← digitBytes_digitsFrom nonempty allDigits leading, none]
      rfl
    · intro same
      rw [same]
      rfl
  rw [zero]
  cases positive with
  | true =>
      obtain ⟨first, others, same, noSign⟩ := head_ne_minus nonempty allDigits
      rw [same]
      simp [signed, minusZero, noSign]
  | false => simp [signed, minusZero]

include nonempty allDigits leading in
theorem integerLiteral_signed {positive : Bool} {value : Int} :
    IntegerLiteral (signed positive written) value ↔
      digitsFrom 0 written < significandLimit ∧
        integerOf positive (digitsFrom 0 written) = .integer value := by
  have limits : signedLimit < significandLimit := by decide
  have value_eq := plainValue_signed nonempty allDigits positive
  have minusZero_iff := @signed_eq_minusZero _ nonempty allDigits leading positive
  constructor
  · intro isLiteral
    obtain ⟨_, unsignedZero, same, low, high⟩ := isLiteral
    rw [Ne, minusZero_iff] at unsignedZero
    rw [← same, value_eq] at low high ⊢
    cases positive with
    | true =>
        rw [if_pos rfl] at high
        exact ⟨by omega, rfl⟩
    | false =>
        rw [if_neg Bool.false_ne_true] at low
        have nonzero : digitsFrom 0 written ≠ 0 := fun zero => unsignedZero ⟨rfl, zero⟩
        have inRange : 0 < digitsFrom 0 written ∧ digitsFrom 0 written ≤ signedLimit := by omega
        exact ⟨by omega, by simp [integerOf, inRange]⟩
  · intro read
    obtain ⟨small, same⟩ := read
    have plain := plain_signed allDigits positive
    cases positive with
    | true =>
        have integer : (digitsFrom 0 written : Int) = value := by simpa [integerOf] using same
        rw [if_pos rfl] at value_eq
        refine ⟨plain, ?_, value_eq.trans integer, by unfold FitsWord; omega⟩
        intro zero
        cases (minusZero_iff.mp zero).1
    | false =>
        by_cases inRange : 0 < digitsFrom 0 written ∧ digitsFrom 0 written ≤ signedLimit
        · have integer : -(digitsFrom 0 written : Int) = value := by
            simpa [integerOf, inRange] using same
          rw [if_neg Bool.false_ne_true] at value_eq
          refine ⟨plain, ?_, value_eq.trans integer, by unfold FitsWord; omega⟩
          intro zero
          have none := (minusZero_iff.mp zero).2
          omega
        · simp [integerOf, inRange] at same

include nonempty allDigits leading in
theorem encode_writeInteger_of_integerOf {positive : Bool} {value : Int}
    (same : integerOf positive (digitsFrom 0 written) = .integer value) :
    encode (writeInteger value) = signed positive written := by
  have bytes := digitBytes_digitsFrom nonempty allDigits leading
  rw [encode_writeInteger]
  cases positive with
  | true =>
      have integer : (digitsFrom 0 written : Int) = value := by simpa [integerOf] using same
      have notNegative : ¬ value < 0 := by omega
      rw [if_neg notNegative, ← integer, Int.natAbs_natCast, bytes]
      rfl
  | false =>
      by_cases inRange : 0 < digitsFrom 0 written ∧ digitsFrom 0 written ≤ signedLimit
      · have integer : -(digitsFrom 0 written : Int) = value := by
          simpa [integerOf, inRange] using same
        have negative : value < 0 := by omega
        rw [if_pos negative, ← integer, Int.natAbs_neg, Int.natAbs_natCast, bytes]
        rfl
      · simp [integerOf, inRange] at same

include nonempty allDigits leading in
/-- Digits alone are the number that they are absorbed to, if they are absorbed to the end. -/
theorem reads_signed {positive : Bool} {number : Number}
    (found : if (absorb 0 written).2.length = 0 then
        number = integerOf positive (absorb 0 written).1
      else ∃ value, number = .float value) :
    Reads (signed positive written) number := by
  have literal_iff := @integerLiteral_signed _ nonempty allDigits leading positive
  by_cases small : digitsFrom 0 written < significandLimit
  · rw [absorb_of_lt small, List.length_nil, if_pos rfl] at found
    rw [found]
    constructor
    · intro value
      rw [literal_iff, and_iff_right small]
    · intro value same
      exact (encode_writeInteger_of_integerOf nonempty allDigits leading same).symm
  · have dropped := absorb_of_le (by decide : 0 < significandLimit) (Nat.le_of_not_lt small)
    rw [if_neg (fun nothing => dropped (List.length_eq_zero_iff.mp nothing))] at found
    obtain ⟨float, same⟩ := found
    rw [same]
    constructor
    · intro value
      rw [literal_iff]
      constructor
      · intro impossible
        cases impossible
      · intro fits
        exact absurd fits.1 small
    · intro value impossible
      cases impossible

end Digits

theorem reads_of_mark {literal : Input} {mark : UInt8} (present : mark ∈ literal)
    (other : mark ≠ Byte.minus ∧ Byte.isDigit mark = false) (value : Binary64) :
    Reads literal (.float value) := by
  constructor
  · intro integer
    constructor
    · intro impossible
      cases impossible
    · intro isInteger
      rcases isInteger.plain mark present with sign | digit
      · exact absurd sign other.1
      · rw [other.2] at digit
        cases digit
  · intro integer impossible
    cases impossible

theorem head?_takeWhile_isDigit {byte : UInt8} {after : Input}
    (alone : ¬ (byte = Byte.zero ∧ after.head?.any Byte.isDigit = true))
    (starts : ((byte :: after).takeWhile Byte.isDigit).head? = some Byte.zero) :
    (byte :: after).takeWhile Byte.isDigit = [Byte.zero] := by
  by_cases digit : Byte.isDigit byte = true
  · rw [List.takeWhile_cons_of_pos digit, List.head?_cons, Option.some.injEq] at starts
    rw [List.takeWhile_cons_of_pos digit, starts]
    cases after with
    | nil => rfl
    | cons next after =>
        have other : ¬ Byte.isDigit next = true := fun another => alone ⟨starts, another⟩
        rw [List.takeWhile_cons_of_neg other]
  · rw [List.takeWhile_cons_of_neg digit] at starts
    cases starts

theorem exists_reads_of_unsignedNumber {positive : Bool} {input rest : Input} {number : Number}
    (read : @unsignedNumber Reason positive input = .ok (number, rest)) :
    ∃ literal, signed positive input = literal ++ rest ∧ Reads literal number := by
  have signed_append : ∀ first second, signed positive (first ++ second) =
      signed positive first ++ second := by
    intro first second
    cases positive <;> rfl
  cases input with
  | nil => cases read
  | cons byte after =>
      unfold unsignedNumber digits at read
      dsimp only at read
      by_cases none : ((byte :: after).takeWhile Byte.isDigit).isEmpty = true
      · rw [if_pos none] at read
        cases read
      by_cases padded : byte = Byte.zero ∧ after.head?.any Byte.isDigit = true
      · rw [if_neg none, if_pos padded] at read
        cases read
      rw [if_neg none, if_neg padded] at read
      have nonempty : (byte :: after).takeWhile Byte.isDigit ≠ [] :=
        fun nothing => none (List.isEmpty_iff.mpr nothing)
      have allDigits : ∀ other ∈ (byte :: after).takeWhile Byte.isDigit,
          Byte.isDigit other = true := fun other member => List.mem_takeWhile_imp member
      have whole : byte :: after = (byte :: after).takeWhile Byte.isDigit ++
          (byte :: after).dropWhile Byte.isDigit := List.takeWhile_append_dropWhile.symm
      rcases afterWhole_eq_ok read with ⟨ended, found⟩ | ⟨mark, taken, value, onward, other, same⟩
      · refine ⟨_, ?_, reads_signed nonempty allDigits (head?_takeWhile_isDigit padded) found⟩
        rw [← signed_append, ← ended, ← whole]
      · refine ⟨signed positive ((byte :: after).takeWhile Byte.isDigit ++ mark :: taken), ?_, ?_⟩
        · rw [← signed_append, List.append_assoc, List.cons_append, ← onward, ← whole]
        · rw [same]
          refine reads_of_mark ?_ other value
          rw [signed_append]
          exact List.mem_append_right _ List.mem_cons_self

/-- What is read as a number stands at the start of the text. -/
theorem exists_reads_of_readNumber {input rest : Input} {number : Number}
    (read : @readNumber Reason input = .ok (number, rest)) :
    ∃ literal, input = literal ++ rest ∧ Reads literal number := by
  unfold readNumber at read
  split at read
  · exact exists_reads_of_unsignedNumber read
  · exact exists_reads_of_unsignedNumber read

end IssueReport.Json
