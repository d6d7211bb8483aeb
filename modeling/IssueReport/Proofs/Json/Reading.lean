import IssueReport.Json.Parse
import Mathlib.Data.List.Forall2
/-!
Laws of readers. What a reader makes of a text does not depend on the reasons for which records may
be rejected: two readers that are built alike read the same texts with the same results.
-/

namespace IssueReport

/-! ### Outcomes -/

theorem outcome_bind_eq_ok {Fault Value Next : Type} {outcome : Except Fault Value}
    {next : Value → Except Fault Next} {result : Next} :
    (outcome >>= next) = .ok result ↔
      ∃ value, outcome = .ok value ∧ next value = .ok result := by
  cases outcome with
  | error fault =>
      constructor
      · intro impossible
        cases impossible
      · rintro ⟨value, impossible, -⟩
        cases impossible
  | ok value =>
      constructor
      · intro found
        exact ⟨value, rfl, found⟩
      · rintro ⟨other, same, found⟩
        cases same
        exact found

theorem outcome_map_eq_ok {Fault Value Next : Type} {outcome : Except Fault Value}
    {change : Value → Next} {result : Next} :
    outcome.map change = .ok result ↔ ∃ value, outcome = .ok value ∧ change value = result := by
  cases outcome with
  | error fault =>
      constructor
      · intro impossible
        cases impossible
      · rintro ⟨value, impossible, -⟩
        cases impossible
  | ok value =>
      rw [Except.map, Except.ok.injEq]
      constructor
      · intro same
        exact ⟨value, rfl, same⟩
      · rintro ⟨other, same, changed⟩
        cases same
        exact changed

theorem outcome_mapError_eq_ok {Fault Other Value : Type} {outcome : Except Fault Value}
    {change : Fault → Other} {value : Value} :
    outcome.mapError change = .ok value ↔ outcome = .ok value := by
  cases outcome with
  | error fault =>
      constructor <;> intro impossible <;> cases impossible
  | ok found =>
      constructor <;> intro same <;> cases same <;> rfl

/-- A list is mapped without a fault exactly if each of its elements is. -/
theorem outcome_mapM_eq_ok {Fault Before After : Type} {change : Before → Except Fault After}
    {before : List Before} {after : List After} :
    before.mapM change = .ok after ↔
      List.Forall₂ (fun first second => change first = .ok second) before after := by
  induction before generalizing after with
  | nil =>
      rw [List.forall₂_nil_left_iff]
      constructor
      · intro same
        cases same
        rfl
      · rintro rfl
        rfl
  | cons first before ih =>
      rw [List.mapM_cons, outcome_bind_eq_ok, List.forall₂_cons_left_iff]
      constructor
      · rintro ⟨second, changed, rest⟩
        obtain ⟨others, othersChanged, same⟩ := outcome_bind_eq_ok.mp rest
        cases same
        exact ⟨second, others, changed, ih.mp othersChanged, rfl⟩
      · rintro ⟨second, others, changed, othersChanged, rfl⟩
        refine ⟨second, changed, ?_⟩
        exact outcome_bind_eq_ok.mpr ⟨others, ih.mpr othersChanged, rfl⟩

theorem exists_forall₂_iff {Before After : Type} {related : Before → After → Prop}
    {before : List Before} :
    (∃ after, List.Forall₂ related before after) ↔
      ∀ first ∈ before, ∃ second, related first second := by
  induction before with
  | nil =>
      constructor
      · intro _ first member
        cases member
      · exact fun _ => ⟨[], .nil⟩
  | cons first before ih =>
      rw [List.forall_mem_cons, ← ih]
      constructor
      · rintro ⟨after, whole⟩
        cases whole with
        | cons head tail => exact ⟨⟨_, head⟩, ⟨_, tail⟩⟩
      · rintro ⟨⟨second, head⟩, ⟨after, tail⟩⟩
        exact ⟨second :: after, .cons head tail⟩

theorem outcome_toOption_eq_some {Fault Value : Type} {outcome : Except Fault Value}
    {value : Value} : outcome.toOption = some value ↔ outcome = .ok value := by
  cases outcome <;> simp [Except.toOption]

namespace Json

variable {Reason Other Result Next : Type}

/-! ### Sequences of readers -/

theorem andThen_of_ok {reader : Reader Reason Result} {next : Result → Reader Reason Next}
    {input rest : Input} {result : Result} (read : reader input = .ok (result, rest)) :
    reader.andThen next input = next result rest := by
  simp only [Reader.andThen, read]

theorem andThen_of_error {reader : Reader Reason Result} {next : Result → Reader Reason Next}
    {input : Input} {fault : ReadError Reason} (failed : reader input = .error fault) :
    reader.andThen next input = .error fault := by
  simp only [Reader.andThen, failed]

theorem andThen_eq_ok {reader : Reader Reason Result} {next : Result → Reader Reason Next}
    {input : Input} {output : Next × Input} :
    reader.andThen next input = .ok output ↔
      ∃ result rest, reader input = .ok (result, rest) ∧ next result rest = .ok output := by
  constructor
  · intro read
    cases first : reader input with
    | error fault =>
        rw [andThen_of_error first] at read
        cases read
    | ok found =>
        rw [andThen_of_ok first] at read
        exact ⟨found.1, found.2, rfl, read⟩
  · rintro ⟨result, rest, first, second⟩
    rw [andThen_of_ok first, second]

theorem map_of_ok {reader : Reader Reason Result} {change : Result → Next} {input rest : Input}
    {result : Result} (read : reader input = .ok (result, rest)) :
    reader.map change input = .ok (change result, rest) :=
  andThen_of_ok read

theorem map_of_error {reader : Reader Reason Result} {change : Result → Next} {input : Input}
    {fault : ReadError Reason} (failed : reader input = .error fault) :
    reader.map change input = .error fault :=
  andThen_of_error failed

theorem map_eq_ok {reader : Reader Reason Result} {change : Result → Next} {input rest : Input}
    {next : Next} :
    reader.map change input = .ok (next, rest) ↔
      ∃ result, reader input = .ok (result, rest) ∧ change result = next := by
  unfold Reader.map
  rw [andThen_eq_ok]
  constructor
  · rintro ⟨result, after, read, same⟩
    cases same
    exact ⟨result, read, rfl⟩
  · rintro ⟨result, read, same⟩
    rw [← same]
    exact ⟨result, rest, read, rfl⟩

theorem map_apply (reader : Reader Reason Result) (change : Result → Next) (input : Input) :
    reader.map change input =
      (reader input).map fun output => (change output.1, output.2) := by
  cases read : reader input with
  | error fault => rw [map_of_error read, Except.map]
  | ok output => rw [map_of_ok read, Except.map]

theorem andThen_assoc {Last : Type} (reader : Reader Reason Result)
    (next : Result → Reader Reason Next) (last : Next → Reader Reason Last) :
    (reader.andThen next).andThen last =
      reader.andThen fun result => (next result).andThen last := by
  funext input
  cases read : reader input with
  | error fault =>
      rw [andThen_of_error read]
      exact andThen_of_error (andThen_of_error read)
  | ok output =>
      rw [andThen_of_ok read]
      unfold Reader.andThen
      rw [read]

theorem map_andThen {Last : Type} (reader : Reader Reason Result) (change : Result → Next)
    (last : Next → Reader Reason Last) :
    (reader.map change).andThen last = reader.andThen fun result => last (change result) :=
  andThen_assoc reader _ last

theorem andThen_map {Last : Type} (reader : Reader Reason Result)
    (next : Result → Reader Reason Next) (change : Next → Last) :
    (reader.andThen next).map change = reader.andThen fun result => (next result).map change :=
  andThen_assoc reader next _

theorem map_map {Last : Type} (reader : Reader Reason Result) (change : Result → Next)
    (last : Next → Last) :
    (reader.map change).map last = reader.map fun result => last (change result) :=
  map_andThen reader change _

theorem look_of_cons {next : UInt8 → Input → Reader Reason Result} {input rest : Input}
    {byte : UInt8} (found : skipBlanks input = byte :: rest) :
    Reader.look next input = next byte rest (byte :: rest) := by
  simp only [Reader.look, found]

theorem look_eq_ok {next : UInt8 → Input → Reader Reason Result} {input : Input}
    {output : Result × Input} :
    Reader.look next input = .ok output ↔
      ∃ byte rest, skipBlanks input = byte :: rest ∧
        next byte rest (byte :: rest) = .ok output := by
  constructor
  · intro read
    cases found : skipBlanks input with
    | nil => simp only [Reader.look, found, reduceCtorEq] at read
    | cons byte rest =>
        rw [look_of_cons found] at read
        exact ⟨byte, rest, rfl, read⟩
  · rintro ⟨byte, rest, found, read⟩
    rw [look_of_cons found, read]

theorem look_map (next : UInt8 → Input → Reader Reason Result) (change : Result → Next) :
    (Reader.look next).map change =
      Reader.look fun byte rest => (next byte rest).map change := by
  funext input
  rw [map_apply]
  unfold Reader.look
  cases skipBlanks input with
  | nil => rfl
  | cons byte rest => exact (map_apply (next byte rest) change (byte :: rest)).symm

theorem ne_of_startsNumber {byte mark : UInt8} (starts : startsNumber byte = true)
    (other : startsNumber mark = false) : byte ≠ mark := by
  intro same
  rw [same, other] at starts
  cases starts

theorem skipBlanks_cons {byte : UInt8} {rest : Input} (mark : Byte.isBlank byte = false) :
    skipBlanks (byte :: rest) = byte :: rest := by
  rw [skipBlanks, List.dropWhile_cons_of_neg]
  rw [mark]
  exact Bool.false_ne_true

theorem skipBlanks_idem {input rest : Input} {byte : UInt8}
    (found : skipBlanks input = byte :: rest) : skipBlanks (byte :: rest) = byte :: rest := by
  induction input with
  | nil => cases found
  | cons head tail ih =>
      cases blank : Byte.isBlank head with
      | true =>
          rw [skipBlanks, List.dropWhile_cons_of_pos blank] at found
          exact ih found
      | false =>
          rw [skipBlanks_cons blank] at found
          rw [← found, skipBlanks_cons blank]

theorem skipBlanks_length_le (input : Input) : (skipBlanks input).length ≤ input.length :=
  (List.dropWhile_sublist Byte.isBlank).length_le

/-! ### Marks between the parts -/

theorem colon_eq_ok {input rest : Input} :
    @colon Reason input = .ok ((), rest) ↔ skipBlanks input = Byte.colon :: rest := by
  unfold colon
  rw [look_eq_ok]
  constructor
  · rintro ⟨byte, after, found, read⟩
    split at read
    · rename_i mark
      cases read
      rw [found, mark]
    · cases read
  · intro found
    exact ⟨_, _, found, if_pos rfl⟩

theorem endOfArray_eq_ok {input rest : Input} :
    @endOfArray Reason input = .ok ((), rest) ↔ skipBlanks input = Byte.closeBracket :: rest := by
  unfold endOfArray
  rw [look_eq_ok]
  constructor
  · rintro ⟨byte, after, found, read⟩
    split at read
    · rename_i closing
      cases read
      rw [found, closing]
    · cases read
  · intro found
    exact ⟨_, _, found, if_pos rfl⟩

theorem endOfObject_eq_ok {input rest : Input} :
    @endOfObject Reason input = .ok ((), rest) ↔ skipBlanks input = Byte.closeBrace :: rest := by
  unfold endOfObject
  rw [look_eq_ok]
  constructor
  · rintro ⟨byte, after, found, read⟩
    split at read
    · rename_i closing
      cases read
      rw [found, closing]
    · cases read
  · intro found
    exact ⟨_, _, found, if_pos rfl⟩

theorem anotherItem_eq_ok_false {first : Bool} {input rest : Input} :
    @anotherItem Reason first input = .ok (false, rest) ↔
      ∃ here, skipBlanks input = Byte.closeBracket :: here ∧ rest = Byte.closeBracket :: here := by
  unfold anotherItem
  rw [look_eq_ok]
  constructor
  · rintro ⟨byte, here, found, read⟩
    split at read
    · rename_i closing
      cases read
      rw [closing] at found
      exact ⟨here, found, by rw [closing]⟩
    · split at read
      · cases read
      · split at read
        · cases blanks : skipBlanks here with
          | nil =>
              rw [blanks] at read
              cases read
          | cons next after =>
              rw [blanks] at read
              dsimp only at read
              split at read <;> cases read
        · cases read
  · rintro ⟨here, found, same⟩
    refine ⟨_, here, found, ?_⟩
    rw [if_pos rfl, same]

theorem anotherItem_eq_ok_true {first : Bool} {input rest : Input} :
    @anotherItem Reason first input = .ok (true, rest) ↔
      ∃ next after, rest = next :: after ∧ next ≠ Byte.closeBracket ∧
        if first then skipBlanks input = next :: after
        else ∃ here, skipBlanks input = Byte.comma :: here ∧ skipBlanks here = next :: after := by
  unfold anotherItem
  rw [look_eq_ok]
  constructor
  · rintro ⟨byte, here, found, read⟩
    split at read
    · cases read
    · rename_i notClosing
      split at read
      · rename_i start
        cases read
        exact ⟨byte, here, rfl, notClosing, by rw [if_pos start]; exact found⟩
      · rename_i later
        split at read
        · rename_i mark
          rw [mark] at found
          cases blanks : skipBlanks here with
          | nil =>
              rw [blanks] at read
              cases read
          | cons next after =>
              rw [blanks] at read
              dsimp only at read
              split at read
              · cases read
              · rename_i another
                cases read
                refine ⟨next, after, rfl, another, ?_⟩
                rw [if_neg later]
                exact ⟨here, found, blanks⟩
        · cases read
  · rintro ⟨next, after, same, another, found⟩
    cases first with
    | true =>
        refine ⟨next, after, found, ?_⟩
        rw [if_neg another, if_pos rfl, same]
    | false =>
        obtain ⟨here, comma, blanks⟩ := found
        refine ⟨Byte.comma, here, comma, ?_⟩
        rw [if_neg (by decide), if_neg Bool.false_ne_true, if_pos rfl, blanks]
        dsimp only
        rw [if_neg another, same]

theorem anotherName_eq_ok_none {first : Bool} {input rest : Input} :
    @anotherName Reason first input = .ok (none, rest) ↔
      ∃ here, skipBlanks input = Byte.closeBrace :: here ∧ rest = Byte.closeBrace :: here := by
  unfold anotherName
  rw [look_eq_ok]
  constructor
  · rintro ⟨byte, here, found, read⟩
    split at read
    · rename_i closing
      cases read
      rw [closing] at found
      exact ⟨here, found, by rw [closing]⟩
    · split at read
      · split at read
        · obtain ⟨name, -, same⟩ := map_eq_ok.mp read
          cases same
        · cases read
      · split at read
        · cases blanks : skipBlanks here with
          | nil =>
              rw [blanks] at read
              cases read
          | cons next after =>
              rw [blanks] at read
              dsimp only at read
              split at read
              · obtain ⟨name, -, same⟩ := map_eq_ok.mp read
                cases same
              · cases read
        · cases read
  · rintro ⟨here, found, same⟩
    refine ⟨_, here, found, ?_⟩
    rw [if_pos rfl, same]

theorem anotherName_eq_ok_some {first : Bool} {input rest : Input} {name : String} :
    @anotherName Reason first input = .ok (some name, rest) ↔
      ∃ after, @stringText Reason after = .ok (name, rest) ∧
        if first then skipBlanks input = Byte.quote :: after
        else ∃ here, skipBlanks input = Byte.comma :: here ∧
          skipBlanks here = Byte.quote :: after := by
  unfold anotherName
  rw [look_eq_ok]
  constructor
  · rintro ⟨byte, here, found, read⟩
    split at read
    · cases read
    · split at read
      · rename_i start
        split at read
        · rename_i quote
          obtain ⟨text, named, same⟩ := map_eq_ok.mp read
          cases same
          rw [quote] at found
          refine ⟨here, named, ?_⟩
          rw [if_pos start]
          exact found
        · cases read
      · rename_i later
        split at read
        · rename_i mark
          rw [mark] at found
          cases blanks : skipBlanks here with
          | nil =>
              rw [blanks] at read
              cases read
          | cons next after =>
              rw [blanks] at read
              dsimp only at read
              split at read
              · rename_i quote
                obtain ⟨text, named, same⟩ := map_eq_ok.mp read
                cases same
                rw [quote] at blanks
                refine ⟨after, named, ?_⟩
                rw [if_neg later]
                exact ⟨here, found, blanks⟩
              · cases read
        · cases read
  · rintro ⟨after, named, found⟩
    cases first with
    | true =>
        refine ⟨Byte.quote, after, found, ?_⟩
        rw [if_neg (by decide), if_pos rfl, if_pos rfl]
        exact map_of_ok named
    | false =>
        obtain ⟨here, comma, blanks⟩ := found
        refine ⟨Byte.comma, here, comma, ?_⟩
        rw [if_neg (by decide), if_neg Bool.false_ne_true, if_pos rfl, blanks]
        dsimp only
        rw [if_pos rfl]
        exact map_of_ok named

/-! ### Reasons do not matter -/

def Alike (first : Reader Reason Result) (second : Reader Other Result) : Prop :=
  ∀ input, (first input).toOption = (second input).toOption

namespace Alike

theorem ok {first : Reader Reason Result} {second : Reader Other Result}
    (alike : Alike first second) {input : Input} {output : Result × Input}
    (read : first input = .ok output) : second input = .ok output := by
  have same := alike input
  rw [read] at same
  cases found : second input with
  | error fault =>
      rw [found] at same
      cases same
  | ok other =>
      rw [found] at same
      exact congrArg Except.ok (Option.some.inj same).symm

theorem symm {first : Reader Reason Result} {second : Reader Other Result}
    (alike : Alike first second) : Alike second first :=
  fun input => (alike input).symm

theorem pure (result : Result) :
    Alike (Reader.pure result : Reader Reason Result) (Reader.pure result : Reader Other Result) :=
  fun _ => rfl

theorem andThen {first : Reader Reason Result} {second : Reader Other Result}
    {afterFirst : Result → Reader Reason Next} {afterSecond : Result → Reader Other Next}
    (alike : Alike first second)
    (after : ∀ result, Alike (afterFirst result) (afterSecond result)) :
    Alike (first.andThen afterFirst) (second.andThen afterSecond) := by
  intro input
  cases read : first input with
  | error fault =>
      have same := alike input
      rw [read] at same
      cases found : second input with
      | error _ =>
          rw [andThen_of_error read, andThen_of_error found]
          rfl
      | ok output =>
          rw [found] at same
          cases same
  | ok output =>
      rw [andThen_of_ok read, andThen_of_ok (alike.ok read)]
      exact after output.1 output.2

theorem map {first : Reader Reason Result} {second : Reader Other Result}
    (alike : Alike first second) (change : Result → Next) :
    Alike (first.map change) (second.map change) :=
  alike.andThen fun result => Alike.pure (change result)

theorem look {first : UInt8 → Input → Reader Reason Result}
    {second : UInt8 → Input → Reader Other Result}
    (alike : ∀ byte rest, Alike (first byte rest) (second byte rest)) :
    Alike (Reader.look first) (Reader.look second) := by
  intro input
  unfold Reader.look
  cases skipBlanks input with
  | nil => rfl
  | cons byte rest => exact alike byte rest (byte :: rest)

end Alike

variable (Reason Other)

theorem alike_word (letters : List Char) : Alike (@word Reason letters) (@word Other letters) := by
  intro input
  induction letters generalizing input with
  | nil => rfl
  | cons letter letters ih =>
      cases input with
      | nil => rfl
      | cons byte rest =>
          simp only [word]
          by_cases same : byte.toNat = letter.toNat
          · rw [if_pos same, if_pos same]
            exact ih rest
          · rw [if_neg same, if_neg same]
            rfl

theorem alike_stringBytes (state : StringState) (gathered : List UInt8) :
    Alike (@stringBytes Reason state gathered) (@stringBytes Other state gathered) := by
  intro input
  induction input generalizing state gathered with
  | nil => rfl
  | cons byte rest ih =>
      cases state with
      | plain =>
          simp only [stringBytes]
          split
          · rfl
          · split
            · exact ih _ _
            · split
              · rfl
              · exact ih _ _
      | escape =>
          simp only [stringBytes]
          split
          · exact ih _ _
          · cases shortEscape? byte with
            | some denoted => exact ih _ _
            | none => rfl
      | digits high seen =>
          simp only [stringBytes]
          split
          · exact ih _ _
          · cases resolveDigits high (seen ++ [byte]) with
            | some resolved => exact ih _ _
            | none => rfl
      | pairBackslash high =>
          simp only [stringBytes]
          split
          · exact ih _ _
          · rfl
      | pairLetter high =>
          simp only [stringBytes]
          split
          · exact ih _ _
          · rfl

theorem alike_stringText : Alike (@stringText Reason) (@stringText Other) := by
  intro input
  have bytes := alike_stringBytes Reason Other .plain [] input
  unfold stringText
  cases first : @stringBytes Reason .plain [] input with
  | error fault =>
      rw [first] at bytes
      cases second : @stringBytes Other .plain [] input with
      | error _ => rfl
      | ok output =>
          rw [second] at bytes
          cases bytes
  | ok output =>
      rw [(alike_stringBytes Reason Other .plain []).ok first]
      simp only []
      cases Text.decode? output.1 <;> rfl

/-! ### Numbers -/

def exponentSign (input : Input) : Bool × Input :=
  match input with
  | Byte.plus :: rest => (true, rest)
  | Byte.minus :: rest => (false, rest)
  | _ => (true, input)

def exponentAfterSign {Reason : Type} (positive : Bool) (significand : Nat) (power : Int)
    (upwards : Bool) : Reader Reason Number :=
  fun unsigned =>
    if (digits unsigned).1.isEmpty then
      if unsigned.isEmpty then .error .ended else .error .malformed
    else if exponentValue (digits unsigned).1 = exponentLimit then
      if significand ≠ 0 ∧ upwards then .error .malformed
      else
        .ok (.float (if positive then Binary64.ofNat 0 else (Binary64.ofNat 0).neg),
          (digits unsigned).2)
    else
      floatOf positive significand
        (if upwards then power + exponentValue (digits unsigned).1
          else power - exponentValue (digits unsigned).1) (digits unsigned).2

omit Other in
theorem exponentPart_eq (positive : Bool) (significand : Nat) (power : Int) (input : Input) :
    @exponentPart Reason positive significand power input =
      exponentAfterSign positive significand power (exponentSign input).1
        (exponentSign input).2 :=
  rfl

theorem alike_floatOf (positive : Bool) (significand : Nat) (power : Int) :
    Alike (@floatOf Reason positive significand power)
      (@floatOf Other positive significand power) := by
  intro input
  unfold floatOf
  cases scale (Binary64.ofNat significand) power <;> rfl

theorem alike_exponentPart (positive : Bool) (significand : Nat) (power : Int) :
    Alike (@exponentPart Reason positive significand power)
      (@exponentPart Other positive significand power) := by
  intro input
  rw [exponentPart_eq, exponentPart_eq]
  unfold exponentAfterSign
  split
  · split <;> rfl
  · split
    · split <;> rfl
    · exact alike_floatOf Reason Other positive significand _ _

theorem alike_afterDigits (positive : Bool) (significand : Nat) (power : Int) :
    Alike (@afterDigits Reason positive significand power)
      (@afterDigits Other positive significand power) := by
  intro input
  unfold afterDigits
  split
  · exact alike_exponentPart Reason Other positive significand power _
  · exact alike_exponentPart Reason Other positive significand power _
  · exact alike_floatOf Reason Other positive significand power _

theorem alike_fractionPart (positive : Bool) (significand : Nat) (power : Int) :
    Alike (@fractionPart Reason positive significand power)
      (@fractionPart Other positive significand power) := by
  intro input
  unfold fractionPart
  dsimp only
  split
  · split <;> rfl
  · exact alike_afterDigits Reason Other positive _ _ _

theorem alike_afterWhole (positive : Bool) (significand dropped : Nat) :
    Alike (@afterWhole Reason positive significand dropped)
      (@afterWhole Other positive significand dropped) := by
  intro input
  unfold afterWhole
  split
  · exact alike_fractionPart Reason Other positive significand dropped _
  · exact alike_exponentPart Reason Other positive significand dropped _
  · exact alike_exponentPart Reason Other positive significand dropped _
  · split
    · rfl
    · exact alike_floatOf Reason Other positive significand dropped _

theorem alike_unsignedNumber (positive : Bool) :
    Alike (@unsignedNumber Reason positive) (@unsignedNumber Other positive) := by
  intro input
  cases input with
  | nil => rfl
  | cons byte after =>
      simp only [unsignedNumber]
      split
      · rfl
      · split
        · rfl
        · exact alike_afterWhole Reason Other positive _ _ _

theorem alike_readNumber : Alike (@readNumber Reason) (@readNumber Other) := by
  intro input
  unfold readNumber
  split
  · exact alike_unsignedNumber Reason Other false _
  · exact alike_unsignedNumber Reason Other true _

/-! ### Marks -/

theorem alike_colon : Alike (@colon Reason) (@colon Other) := by
  apply Alike.look
  intro byte rest input
  split <;> rfl

theorem alike_endOfArray : Alike (@endOfArray Reason) (@endOfArray Other) := by
  apply Alike.look
  intro byte rest input
  split <;> rfl

theorem alike_endOfObject : Alike (@endOfObject Reason) (@endOfObject Other) := by
  apply Alike.look
  intro byte rest input
  split <;> rfl

theorem alike_anotherItem (first : Bool) :
    Alike (@anotherItem Reason first) (@anotherItem Other first) := by
  apply Alike.look
  intro byte rest input
  split
  · rfl
  · split
    · rfl
    · split
      · cases skipBlanks rest with
        | nil => rfl
        | cons next after =>
            simp only []
            split <;> rfl
      · rfl

theorem alike_anotherName (first : Bool) :
    Alike (@anotherName Reason first) (@anotherName Other first) := by
  apply Alike.look
  intro byte rest input
  split
  · rfl
  · split
    · split
      · exact (alike_stringText Reason Other).map some rest
      · rfl
    · split
      · cases skipBlanks rest with
        | nil => rfl
        | cons next after =>
            simp only []
            split
            · exact (alike_stringText Reason Other).map some after
            · rfl
      · rfl

variable {Reason Other}

namespace Alike

theorem itemsWithin {item : Reader Reason Result} {itemOther : Reader Other Result}
    (alike : Alike item itemOther) (bound : Nat) (first : Bool) :
    Alike (Json.itemsWithin item bound first) (Json.itemsWithin itemOther bound first) := by
  induction bound generalizing first with
  | zero =>
      intro input
      rfl
  | succ bound ih =>
      apply (alike_anotherItem Reason Other first).andThen
      intro another
      cases another with
      | false => exact Alike.pure []
      | true => exact alike.andThen fun result => (ih false).map (result :: ·)

theorem items {item : Reader Reason Result} {itemOther : Reader Other Result}
    (alike : Alike item itemOther) : Alike (Json.items item) (Json.items itemOther) :=
  fun input => alike.itemsWithin (input.length + 1) true input

theorem membersWithin {member : Result → String → Reader Reason Result}
    {memberOther : Result → String → Reader Other Result}
    (alike : ∀ result name, Alike (member result name) (memberOther result name)) (bound : Nat)
    (first : Bool) (result : Result) :
    Alike (Json.membersWithin member bound first result)
      (Json.membersWithin memberOther bound first result) := by
  induction bound generalizing first result with
  | zero =>
      intro input
      rfl
  | succ bound ih =>
      apply (alike_anotherName Reason Other first).andThen
      intro name
      cases name with
      | none => exact Alike.pure result
      | some name => exact (alike result name).andThen fun next => ih false next

theorem members {member : Result → String → Reader Reason Result}
    {memberOther : Result → String → Reader Other Result}
    (alike : ∀ result name, Alike (member result name) (memberOther result name))
    (initial : Result) : Alike (Json.members member initial) (Json.members memberOther initial) :=
  fun input => Alike.membersWithin alike (input.length + 1) true initial input

end Alike

theorem alike_readScalar (byte : UInt8) (rest : Input) :
    Alike (@readScalar Reason byte rest) (@readScalar Other byte rest) := by
  intro input
  unfold readScalar
  split
  · exact (alike_word Reason Other _).map _ rest
  · split
    · exact (alike_word Reason Other _).map _ rest
    · split
      · exact (alike_word Reason Other _).map _ rest
      · split
        · exact (alike_readNumber Reason Other).map _ input
        · split
          · exact (alike_stringText Reason Other).map _ rest
          · rfl

end Json

end IssueReport
