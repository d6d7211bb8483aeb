import IssueReport.Proofs.Json.Skipping
import IssueReport.Json.Record
/-!
What typed readers make of a text, said by what they make of its written value. A reader of a record
takes the members as they come; the same record is decoded from the list of the members, or from
the values of an array, without the text.
-/

namespace IssueReport.Json

variable {Reason Result Next Draft : Type}

/-- A reader makes of a text what a function makes of its written value, and leaves the same
rest. -/
def Decodes (depth : Nat) (reader : Reader Reason Result)
    (decode : Json → Except (ReadError Reason) Result) : Prop :=
  ∀ input written rest, @readWritten Reason depth input = .ok (written, rest) →
    reader input = (decode written).map fun result => (result, rest)

theorem Decodes.map {depth : Nat} {reader : Reader Reason Result}
    {decode : Json → Except (ReadError Reason) Result} (decodes : Decodes depth reader decode)
    (change : Result → Next) :
    Decodes depth (reader.map change) fun written => (decode written).map change := by
  intro input written rest read
  rw [map_apply, decodes input written rest read]
  dsimp only
  cases decode written <;> rfl

/-- A whole text is read as its written value is decoded. -/
theorem Decodes.readAll {reader : Reader Reason Result}
    {decode : Json → Except (ReadError Reason) Result} (decodes : Decodes depthLimit reader decode)
    {text : Input} {written : Json} (parsed : parseWritten text = .ok written) :
    Json.readAll reader text = decode written := by
  obtain ⟨rest, read, ended⟩ := readAll_eq_ok.mp parsed
  have alike : @readWritten Reason depthLimit text = .ok (written, rest) :=
    (alike_readWritten depthLimit).ok read
  unfold Json.readAll
  rw [decodes text written rest alike]
  cases decode written with
  | error fault => rfl
  | ok result =>
      change (if (skipBlanks rest).isEmpty then Except.ok result else _) = _
      rw [ended]
      rfl

theorem decodes_readValue (depth : Nat) :
    Decodes depth (@readValue Reason depth) fun written => .ok (settle written) := by
  intro input written rest read
  rw [readValue_eq_settle]
  exact map_of_ok read

/-! ### Scalars -/

def foundOf : Json → Found
  | .null => .null
  | .boolean value => .boolean value
  | .number (.integer value) => .integer value
  | .number (.float value) => .float value
  | .text value => .text value
  | .array _ => .sequence
  | .object _ => .map

def mismatched (expected : Expected) (written : Json) : Except (ReadError Reason) Result :=
  .error (.mismatch (.wrongType (foundOf written) expected))

theorem readFound_of_denotes {depth : Nat} {input here rest : Input} {byte : UInt8}
    {written : Json} (blanks : skipBlanks input = byte :: here)
    (denotes : Denotes Reason depth byte here rest written) :
    ∃ after, @readFound Reason input = .ok (foundOf written, after) := by
  unfold readFound
  rw [look_of_cons blanks]
  cases denotes with
  | null starts read =>
      rw [starts]
      exact ⟨rest, map_of_ok read⟩
  | yes starts read =>
      rw [starts]
      exact ⟨rest, map_of_ok read⟩
  | no starts read =>
      rw [starts]
      exact ⟨rest, map_of_ok read⟩
  | @number value starts read =>
      have notNull : ¬ byte = Byte.letterN := ne_of_startsNumber starts rfl
      have notTrue : ¬ byte = Byte.letterT := ne_of_startsNumber starts rfl
      have notFalse : ¬ byte = Byte.letterF := ne_of_startsNumber starts rfl
      refine ⟨rest, ?_⟩
      rw [if_neg notNull, if_neg notTrue, if_neg notFalse, if_pos starts, map_of_ok read]
      cases value <;> rfl
  | text starts read =>
      rw [starts]
      exact ⟨rest, map_of_ok read⟩
  | array nested starts read closed =>
      rw [starts]
      exact ⟨_, rfl⟩
  | object nested starts read closed =>
      rw [starts]
      exact ⟨_, rfl⟩

theorem wrongType_of_denotes (Result : Type) {depth : Nat} {input here rest : Input}
    {byte : UInt8} {written : Json} (blanks : skipBlanks input = byte :: here)
    (denotes : Denotes Reason depth byte here rest written) (expected : Expected) :
    (wrongType expected : Reader Reason Result) (byte :: here) = mismatched expected written := by
  obtain ⟨after, found⟩ := readFound_of_denotes (skipBlanks_idem blanks) denotes
  exact andThen_of_ok found

def decodeInteger : Json → Except (ReadError Reason) Int
  | .number (.integer value) =>
      if value < signedLimit then .ok value else .error (.mismatch (.integerOutOfRange value))
  | written => mismatched .integer written

theorem decodes_readInteger (depth : Nat) :
    Decodes depth (@readInteger Reason) decodeInteger := by
  intro input written rest read
  obtain ⟨byte, here, blanks, denotes⟩ := denotes_of_readWritten read
  have wrong := wrongType_of_denotes Int blanks denotes
  unfold readInteger
  rw [look_of_cons blanks]
  cases denotes with
  | @number value starts numberRead =>
      rw [if_pos starts, andThen_of_ok numberRead]
      cases value with
      | integer value =>
          simp only [decodeInteger]
          split <;> rfl
      | float value => rfl
  | _ =>
      subst_vars
      exact wrong .integer

def decodeText : Json → Except (ReadError Reason) String
  | .text value => .ok value
  | written => mismatched .text written

theorem decodes_readText (depth : Nat) : Decodes depth (@readText Reason) decodeText := by
  intro input written rest read
  obtain ⟨byte, here, blanks, denotes⟩ := denotes_of_readWritten read
  have wrong := wrongType_of_denotes String blanks denotes
  unfold readText
  rw [look_of_cons blanks]
  cases denotes with
  | text starts textRead =>
      rw [if_pos starts]
      exact textRead
  | @number value starts numberRead =>
      have notQuote : ¬ byte = Byte.quote := ne_of_startsNumber starts rfl
      rw [if_neg notQuote]
      exact wrong .text
  | _ =>
      subst_vars
      exact wrong .text

/-! ### Lists -/

theorem itemsWithin_eq_mapM {inner : Nat} {item : Reader Reason Result}
    {decode : Json → Except (ReadError Reason) Result} (decodes : Decodes inner item decode)
    {bound : Nat} {first : Bool} {input rest : Input} {values : List Json}
    (read : itemsWithin (@readWritten Reason inner) bound first input = .ok (values, rest)) :
    itemsWithin item bound first input =
      (values.mapM decode).map fun results => (results, rest) := by
  induction bound generalizing first input values with
  | zero => cases read
  | succ bound ih =>
      obtain ⟨another, start, mark, read⟩ := andThen_eq_ok.mp read
      unfold itemsWithin
      rw [andThen_of_ok mark]
      cases another with
      | false =>
          cases read
          rfl
      | true =>
          rw [if_pos rfl] at read ⊢
          obtain ⟨value, between, itemRead, read⟩ := andThen_eq_ok.mp read
          obtain ⟨others, tailRead, same⟩ := map_eq_ok.mp read
          have decoded := decodes _ _ _ itemRead
          rw [← same, List.mapM_cons]
          cases result : decode value with
          | error fault =>
              rw [result] at decoded
              exact andThen_of_error decoded
          | ok found =>
              rw [result] at decoded
              rw [andThen_of_ok decoded, map_apply, ih tailRead]
              change _ = Except.map _ (Except.bind (others.mapM decode) _)
              cases others.mapM decode <;> rfl

def decodeList (decode : Json → Except (ReadError Reason) Result) :
    Json → Except (ReadError Reason) (List Result)
  | .array values => values.mapM decode
  | written => mismatched .sequence written

theorem decodes_readList {inner : Nat} {item : Reader Reason Result}
    {decode : Json → Except (ReadError Reason) Result} (decodes : Decodes inner item decode) :
    Decodes (inner + 1) (readList item) (decodeList decode) := by
  intro input written rest read
  obtain ⟨byte, here, blanks, denotes⟩ := denotes_of_readWritten read
  have wrong := wrongType_of_denotes (List Result) blanks denotes
  unfold readList
  rw [look_of_cons blanks]
  cases denotes with
  | @array depth values after nested starts itemsRead closed =>
      cases nested
      rw [if_pos starts]
      have listed : items item here = (values.mapM decode).map fun results => (results, after) :=
        itemsWithin_eq_mapM decodes itemsRead
      change ((items item).andThen _) here = Except.map _ (values.mapM decode)
      cases results : values.mapM decode with
      | error fault =>
          rw [results] at listed
          exact andThen_of_error listed
      | ok found =>
          rw [results] at listed
          rw [andThen_of_ok listed]
          exact map_of_ok closed
  | @number value starts numberRead =>
      have notBracket : ¬ byte = Byte.openBracket := ne_of_startsNumber starts rfl
      rw [if_neg notBracket]
      exact wrong .sequence
  | _ =>
      subst_vars
      exact wrong .sequence

/-! ### Records -/

theorem membersWithin_eq_foldlM {inner : Nat} {member : Draft → String → Reader Reason Draft}
    {step : Draft → String × Json → Except (ReadError Reason) Draft}
    (follows : ∀ draft name input value rest,
      (@colon Reason).andThen (fun _ => @readWritten Reason inner) input = .ok (value, rest) →
        member draft name input = (step draft (name, value)).map fun next => (next, rest))
    {bound : Nat} {first : Bool} {input rest : Input} {before found : List (String × Json)}
    (read : membersWithin (readWrittenMember (@readWritten Reason inner)) bound first before input =
      .ok (found, rest)) :
    ∃ entries, found = before ++ entries ∧
      ∀ draft, membersWithin member bound first draft input =
        (entries.foldlM step draft).map fun next => (next, rest) := by
  induction bound generalizing first input before with
  | zero => cases read
  | succ bound ih =>
      obtain ⟨name?, start, mark, read⟩ := andThen_eq_ok.mp read
      cases name? with
      | none =>
          cases read
          refine ⟨[], (List.append_nil _).symm, ?_⟩
          intro draft
          exact andThen_of_ok mark
      | some name =>
          obtain ⟨longer, between, memberRead, tailRead⟩ := andThen_eq_ok.mp read
          unfold readWrittenMember at memberRead
          rw [← andThen_map] at memberRead
          obtain ⟨value, valueRead, same⟩ := map_eq_ok.mp memberRead
          rw [← same] at tailRead
          obtain ⟨entries, split, tail⟩ := ih tailRead
          refine ⟨(name, value) :: entries, ?_, ?_⟩
          · rw [split, List.append_assoc]
            rfl
          · intro draft
            have followed := follows draft name start value between valueRead
            unfold membersWithin
            rw [andThen_of_ok mark, List.foldlM_cons]
            change (member draft name).andThen _ start = _
            cases result : step draft (name, value) with
            | error fault =>
                rw [result] at followed
                exact andThen_of_error followed
            | ok next =>
                rw [result] at followed
                rw [andThen_of_ok followed]
                exact tail next

/-- The members read so far stand before those that are still to be read. -/
theorem membersWithin_append {inner bound : Nat} {first : Bool} {input rest : Input}
    {before found : List (String × Json)}
    (read : membersWithin (readWrittenMember (@readWritten Reason inner)) bound first before input =
      .ok (found, rest)) :
    ∃ entries, found = before ++ entries := by
  obtain ⟨entries, same, -⟩ := @membersWithin_eq_foldlM _ _ inner
    (readWrittenMember (@readWritten Reason inner)) (fun draft member => .ok (draft ++ [member]))
    (fun draft name input value rest valueRead => by
      unfold readWrittenMember
      rw [← andThen_map]
      exact map_of_ok valueRead) _ _ _ _ _ _ read
  exact ⟨entries, same⟩

theorem endOfObject_of_surplus {inner bound : Nat} {input after rest : Input}
    {before surplus : List (String × Json)}
    (read : membersWithin (readWrittenMember (@readWritten Reason inner)) bound false before input =
      .ok (before ++ surplus, after))
    (closed : @endOfObject Reason after = .ok ((), rest)) :
    @endOfObject Reason input =
      if surplus.isEmpty then .ok ((), rest) else .error .malformed := by
  cases bound with
  | zero => cases read
  | succ bound =>
      obtain ⟨name?, start, mark, read⟩ := andThen_eq_ok.mp read
      cases name? with
      | none =>
          obtain ⟨here, blanks, same⟩ := anotherName_eq_ok_none.mp mark
          have nothing : surplus = [] := by
            have found := congrArg (Except.map Prod.fst) read
            have equal : before = before ++ surplus := Except.ok.inj found
            exact List.append_right_eq_self.mp equal.symm
          have ends : after = start := by
            have found := congrArg (Except.map Prod.snd) read
            exact (Except.ok.inj found).symm
          rw [ends, endOfObject_eq_ok, same, skipBlanks_cons rfl, ← blanks] at closed
          rw [nothing]
          exact endOfObject_eq_ok.mpr closed
      | some name =>
          obtain ⟨here, named, blanks⟩ := anotherName_eq_ok_some.mp mark
          obtain ⟨longer, between, memberRead, tailRead⟩ := andThen_eq_ok.mp read
          unfold readWrittenMember at memberRead
          rw [← andThen_map] at memberRead
          obtain ⟨value, -, same⟩ := map_eq_ok.mp memberRead
          rw [← same] at tailRead
          obtain ⟨entries, split⟩ := membersWithin_append tailRead
          rw [List.append_assoc, List.append_cancel_left_eq] at split
          obtain ⟨behind, comma, -⟩ := blanks
          rw [split]
          unfold endOfObject
          rw [look_of_cons comma]
          rfl

namespace Shape

variable (shape : Shape Reason Draft Result)
  (take : String → Draft → Json → Except (ReadError Reason) Draft)

def decodeMember (draft : Draft) (member : String × Json) : Except (ReadError Reason) Draft :=
  match shape.field? member.1 with
  | some field =>
      if field.isRead draft then .error (.mismatch (.duplicateField member.1))
      else take member.1 draft member.2
  | none => .ok draft

def decodeDraft (draft : Draft) : Except (ReadError Reason) Result :=
  (shape.finish draft).mapError .mismatch

def decodeFields (draft : Draft) (position : Nat) :
    List (Field Reason Draft) → List Json → Except (ReadError Reason) (Draft × List Json)
  | [], values => .ok (draft, values)
  | field :: fields, value :: values =>
      take field.name draft value >>= fun next => decodeFields next (position + 1) fields values
  | field :: fields, [] =>
      if field.isOptional then decodeFields draft (position + 1) fields []
      else .error (.mismatch (.wrongLength position shape.name shape.fields.length))

def decodeArray (values : List Json) : Except (ReadError Reason) Result := do
  let (draft, surplus) ← shape.decodeFields take shape.initial 0 shape.fields values
  let result ← shape.decodeDraft draft
  if surplus.isEmpty then .ok result else .error .malformed

def decodeObject (members : List (String × Json)) : Except (ReadError Reason) Result := do
  let draft ← members.foldlM (shape.decodeMember take) shape.initial
  shape.decodeDraft draft

def decode : Json → Except (ReadError Reason) Result
  | .object members => shape.decodeObject take members
  | .array values => shape.decodeArray take values
  | written => mismatched (.record shape.name) written

/-- Fields take one value each, and only optional ones may be left without. -/
theorem length_of_decodeFields {fields : List (Field Reason Draft)} {values surplus : List Json}
    {draft next : Draft} {position : Nat}
    (decoded : shape.decodeFields take draft position fields values = .ok (next, surplus)) :
    values.length ≤ fields.length + surplus.length ∧
      ∀ field ∈ fields.drop values.length, field.isOptional = true := by
  induction fields generalizing values draft position with
  | nil =>
      cases decoded
      exact ⟨Nat.le_add_left _ _, fun field member => by simp at member⟩
  | cons field fields ih =>
      cases values with
      | nil =>
          unfold decodeFields at decoded
          split at decoded
          · rename_i optional
            obtain ⟨_, later⟩ := ih decoded
            refine ⟨Nat.zero_le _, ?_⟩
            intro other member
            rcases List.mem_cons.mp member with same | rest
            · rw [same]
              exact optional
            · exact later other rest
          · cases decoded
      | cons value values =>
          unfold decodeFields at decoded
          obtain ⟨filled, _, rest⟩ := outcome_bind_eq_ok.mp decoded
          obtain ⟨bounded, later⟩ := ih rest
          refine ⟨?_, later⟩
          rw [List.length_cons, List.length_cons]
          omega

/-- An array that is decoded holds no more values than there are fields. -/
theorem length_of_decodeArray {values : List Json} {result : Result}
    (decoded : shape.decodeArray take values = .ok result) :
    values.length ≤ shape.fields.length ∧
      ∀ field ∈ shape.fields.drop values.length, field.isOptional = true := by
  unfold decodeArray at decoded
  obtain ⟨⟨draft, surplus⟩, fieldsTaken, rest⟩ := outcome_bind_eq_ok.mp decoded
  obtain ⟨found, _, whole⟩ := outcome_bind_eq_ok.mp rest
  obtain ⟨bounded, optional⟩ := shape.length_of_decodeFields take fieldsTaken
  refine ⟨?_, optional⟩
  split at whole
  · rename_i nothing
    rw [List.isEmpty_iff.mp nothing] at bounded
    exact bounded
  · cases whole

theorem complete_eq (draft : Draft) (input : Input) :
    shape.complete draft input = (shape.decodeDraft draft).map fun result => (result, input) := by
  unfold complete decodeDraft
  cases shape.finish draft <;> rfl

theorem field?_eq_some {shape : Shape Reason Draft Result} {name : String}
    {field : Field Reason Draft} (found : shape.field? name = some field) :
    field ∈ shape.fields ∧ field.name = name := by
  refine ⟨List.mem_of_find?_eq_some found, ?_⟩
  have named := List.find?_some found
  simpa using named

variable {shape take}

theorem readMember_eq {inner : Nat}
    (fields : ∀ field ∈ shape.fields, ∀ draft,
      Decodes inner (field.read draft) (take field.name draft))
    {draft : Draft} {name : String} {input rest : Input} {value : Json}
    (read : (@colon Reason).andThen (fun _ => @readWritten Reason inner) input =
      .ok (value, rest)) :
    shape.readMember draft name input =
      (shape.decodeMember take draft (name, value)).map fun next => (next, rest) := by
  obtain ⟨_, between, mark, valueRead⟩ := andThen_eq_ok.mp read
  unfold readMember decodeMember
  dsimp only
  cases found : shape.field? name with
  | none =>
      dsimp only
      rw [andThen_of_ok mark]
      exact map_of_ok (skipValue_of_readWritten valueRead)
  | some field =>
      obtain ⟨declared, named⟩ := field?_eq_some found
      dsimp only
      split
      · rfl
      · rw [andThen_of_ok mark, fields field declared draft _ _ _ valueRead, named]

theorem readObject_eq {inner : Nat}
    (fields : ∀ field ∈ shape.fields, ∀ draft,
      Decodes inner (field.read draft) (take field.name draft))
    {input after rest : Input} {found : List (String × Json)}
    (read : members (readWrittenMember (@readWritten Reason inner)) [] input = .ok (found, after))
    (closed : @endOfObject Reason after = .ok ((), rest)) :
    shape.readObject input = (shape.decodeObject take found).map fun result => (result, rest) := by
  obtain ⟨entries, same, gathered⟩ :=
    @membersWithin_eq_foldlM _ _ inner shape.readMember (shape.decodeMember take)
      (fun _ _ _ _ _ valueRead => readMember_eq fields valueRead) _ _ _ _ _ _ read
  rw [List.nil_append] at same
  have membersRead : members shape.readMember shape.initial input =
      (found.foldlM (shape.decodeMember take) shape.initial).map fun next => (next, after) := by
    rw [same]
    exact gathered shape.initial
  unfold readObject decodeObject
  cases drafted : found.foldlM (shape.decodeMember take) shape.initial with
  | error fault =>
      rw [drafted] at membersRead
      exact andThen_of_error membersRead
  | ok draft =>
      rw [drafted] at membersRead
      rw [andThen_of_ok membersRead]
      have completed := shape.complete_eq draft after
      change _ = Except.map _ (shape.decodeDraft draft)
      cases finished : shape.decodeDraft draft with
      | error fault =>
          rw [finished] at completed
          exact andThen_of_error completed
      | ok result =>
          rw [finished] at completed
          rw [andThen_of_ok completed]
          exact map_of_ok closed

/-- The values that are left over stand where the reader of the fields stops. -/
theorem readFields_eq {inner : Nat} {fields : List (Field Reason Draft)}
    (typed : ∀ field ∈ fields, ∀ draft,
      Decodes inner (field.read draft) (take field.name draft))
    {draft : Draft} {position bound : Nat} {input rest : Input} {values : List Json}
    (read : itemsWithin (@readWritten Reason inner) bound (position = 0) input =
      .ok (values, rest)) :
    ∃ here left first,
      shape.readFields draft position fields input =
        (shape.decodeFields take draft position fields values).map (fun taken => (taken.1, here)) ∧
      ∀ next surplus,
        shape.decodeFields take draft position fields values = .ok (next, surplus) →
          itemsWithin (@readWritten Reason inner) left first here = .ok (surplus, rest) := by
  induction fields generalizing draft position bound input values with
  | nil =>
      refine ⟨input, bound, decide (position = 0), rfl, ?_⟩
      intro next surplus taken
      cases taken
      exact read
  | cons field fields ih =>
      have typedTail : ∀ field ∈ fields, ∀ draft,
          Decodes inner (field.read draft) (take field.name draft) :=
        fun other declared => typed other (List.mem_cons_of_mem field declared)
      have later : decide (position + 1 = 0) = false := decide_eq_false (Nat.succ_ne_zero position)
      cases bound with
      | zero => cases read
      | succ bound =>
          obtain ⟨another, start, mark, read⟩ := andThen_eq_ok.mp read
          unfold readFields
          rw [andThen_of_ok mark]
          cases another with
          | false =>
              cases read
              obtain ⟨here, blanks, same⟩ := anotherItem_eq_ok_false.mp mark
              have ended : itemsWithin (@readWritten Reason inner) 1 (decide (position + 1 = 0))
                  rest = .ok ([], rest) := by
                have stays : @anotherItem Reason false rest = .ok (false, rest) := by
                  rw [same]
                  exact anotherItem_eq_ok_false.mpr ⟨here, skipBlanks_cons rfl, rfl⟩
                rw [later]
                exact andThen_of_ok stays
              unfold decodeFields
              rw [if_neg Bool.false_ne_true]
              split
              · exact ih typedTail ended
              · refine ⟨rest, 0, false, rfl, ?_⟩
                intro next surplus taken
                cases taken
          | true =>
              rw [if_pos rfl] at read ⊢
              obtain ⟨value, between, itemRead, read⟩ := andThen_eq_ok.mp read
              obtain ⟨others, tailRead, same⟩ := map_eq_ok.mp read
              have decoded := typed field List.mem_cons_self draft _ _ _ itemRead
              rw [← same]
              unfold decodeFields
              cases result : take field.name draft value with
              | error fault =>
                  rw [result] at decoded
                  refine ⟨start, 0, false, andThen_of_error decoded, ?_⟩
                  intro next surplus taken
                  cases taken
              | ok next =>
                  rw [result] at decoded
                  rw [andThen_of_ok decoded]
                  rw [← later] at tailRead
                  exact ih typedTail tailRead

theorem endOfArray_of_surplus {inner left : Nat} {first : Bool} {input after rest : Input}
    {surplus : List Json}
    (read : itemsWithin (@readWritten Reason inner) left first input = .ok (surplus, after))
    (closed : @endOfArray Reason after = .ok ((), rest)) :
    @endOfArray Reason input =
      if surplus.isEmpty then .ok ((), rest) else .error .malformed := by
  cases left with
  | zero => cases read
  | succ left =>
      obtain ⟨another, start, mark, read⟩ := andThen_eq_ok.mp read
      cases another with
      | false =>
          cases read
          obtain ⟨here, blanks, same⟩ := anotherItem_eq_ok_false.mp mark
          rw [endOfArray_eq_ok, same, skipBlanks_cons rfl, ← blanks] at closed
          exact endOfArray_eq_ok.mpr closed
      | true =>
          obtain ⟨next, here, same, notClosing, blanks⟩ := anotherItem_eq_ok_true.mp mark
          rw [if_pos rfl] at read
          obtain ⟨value, between, itemRead, read⟩ := andThen_eq_ok.mp read
          obtain ⟨others, tailRead, same⟩ := map_eq_ok.mp read
          rw [← same]
          change _ = Except.error ReadError.malformed
          unfold endOfArray
          cases first with
          | true =>
              rw [if_pos rfl] at blanks
              rw [look_of_cons blanks, if_neg notClosing]
          | false =>
              rw [if_neg Bool.false_ne_true] at blanks
              obtain ⟨behind, comma, -⟩ := blanks
              rw [look_of_cons comma]
              rfl

theorem readArray_eq {inner : Nat}
    (fields : ∀ field ∈ shape.fields, ∀ draft,
      Decodes inner (field.read draft) (take field.name draft))
    {input after rest : Input} {values : List Json}
    (read : items (@readWritten Reason inner) input = .ok (values, after))
    (closed : @endOfArray Reason after = .ok ((), rest)) :
    shape.readArray input = (shape.decodeArray take values).map fun result => (result, rest) := by
  obtain ⟨here, left, first, fieldsRead, stopped⟩ :=
    @readFields_eq _ _ _ shape take inner shape.fields fields shape.initial 0 _ _ _ _ read
  unfold readArray decodeArray
  cases taken : shape.decodeFields take shape.initial 0 shape.fields values with
  | error fault =>
      rw [taken] at fieldsRead
      exact andThen_of_error fieldsRead
  | ok output =>
      obtain ⟨draft, surplus⟩ := output
      rw [taken] at fieldsRead
      rw [andThen_of_ok fieldsRead]
      have completed := shape.complete_eq draft here
      have ending := endOfArray_of_surplus (stopped draft surplus taken) closed
      change _ = Except.map _ (shape.decodeDraft draft >>= fun result =>
        if surplus.isEmpty then .ok result else .error .malformed)
      cases finished : shape.decodeDraft draft with
      | error fault =>
          rw [finished] at completed
          exact andThen_of_error completed
      | ok result =>
          rw [finished] at completed
          rw [andThen_of_ok completed, map_apply, ending]
          cases surplus <;> rfl

/-- A record is decoded from the written value, if its fields are. -/
theorem decodes_read {inner : Nat}
    (fields : ∀ field ∈ shape.fields, ∀ draft,
      Decodes inner (field.read draft) (take field.name draft)) :
    Decodes (inner + 1) shape.read (shape.decode take) := by
  intro input written rest read
  obtain ⟨byte, here, blanks, denotes⟩ := denotes_of_readWritten read
  have wrong := wrongType_of_denotes Result blanks denotes
  unfold Shape.read
  rw [look_of_cons blanks]
  cases denotes with
  | array nested starts itemsRead closed =>
      cases nested
      rw [starts]
      exact readArray_eq fields itemsRead closed
  | object nested starts membersRead closed =>
      cases nested
      rw [starts]
      exact readObject_eq fields membersRead closed
  | number starts numberRead =>
      have notBrace : ¬ byte = Byte.openBrace := ne_of_startsNumber starts rfl
      have notBracket : ¬ byte = Byte.openBracket := ne_of_startsNumber starts rfl
      rw [if_neg notBrace, if_neg notBracket]
      exact wrong _
  | _ =>
      subst_vars
      exact wrong _

end Shape

end IssueReport.Json
