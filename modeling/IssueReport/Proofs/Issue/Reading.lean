import IssueReport.Proofs.Json.Slots
import IssueReport.Proofs.Payload.Conversion
/-!
The two ways from a JSON text to an issue. One reads the nine values straight from the text, the
other reads a value and asks it for nine members; they agree on every object that names no member
of the contract twice, and the first way also takes the nine values as an array.
-/

namespace IssueReport

open Json (decodeInteger decodeText member?)

variable {Reason : Type}

/-! ### Members as answers -/

theorem decodeInteger_eq_ok {written : Json} {accessor : String} {value : Int} :
    @decodeInteger Reason written = .ok value ↔
      Payload.observeMember accessor written = .ok (.integer value) := by
  cases written with
  | number number =>
      cases number with
      | float other =>
          constructor <;> intro impossible <;> cases impossible
      | integer other =>
          unfold decodeInteger Payload.observeMember
          dsimp only
          by_cases inRange : other < Json.signedLimit
          · rw [if_pos inRange, if_pos inRange, Except.ok.injEq, Except.ok.injEq,
              Observation.integer.injEq]
          · rw [if_neg inRange, if_neg inRange]
            constructor <;> intro impossible <;> cases impossible
  | null | boolean | text | array | object =>
      constructor <;> intro impossible <;> cases impossible

theorem decodeText_eq_ok {written : Json} {accessor : String} {value : String} :
    @decodeText Reason written = .ok value ↔
      Payload.observeMember accessor written = .ok (.text value) := by
  cases written with
  | text other =>
      unfold decodeText Payload.observeMember
      rw [Except.ok.injEq, Except.ok.injEq, Observation.text.injEq]
  | number number =>
      cases number with
      | float other =>
          constructor <;> intro impossible <;> cases impossible
      | integer other =>
          unfold decodeText Payload.observeMember
          dsimp only
          split <;> constructor <;> intro impossible <;> cases impossible
  | null | boolean | array | object =>
      constructor <;> intro impossible <;> cases impossible

theorem observeMember_settle (accessor : String) (written : Json) :
    Payload.observeMember accessor (Json.settle written) =
      Payload.observeMember accessor written := by
  cases written <;> rfl

namespace IssueDraft

def answer (draft : IssueDraft) : Accessor → Option Observation
  | .startLine => draft.startLine.map .integer
  | .startLineOffset => draft.startLineOffset.map .integer
  | .endLine => draft.endLine.map .integer
  | .endLineOffset => draft.endLineOffset.map .integer
  | .ruleId => draft.ruleId.map .text
  | .message => draft.message.map .text
  | .issueType => draft.issueType.map .text
  | .fileName => draft.fileName.map .text
  | .reportedFilePath => draft.reportedFilePath.map .text

def full (parts : IssueParts) : IssueDraft where
  startLine := some parts.startLine
  startLineOffset := some parts.startLineOffset
  endLine := some parts.endLine
  endLineOffset := some parts.endLineOffset
  ruleId := some parts.ruleId
  message := some parts.message
  issueType := some parts.issueType
  fileName := some parts.fileName
  reportedFilePath := some parts.reportedFilePath

theorem answer_full (parts : IssueParts) (accessor : Accessor) :
    (full parts).answer accessor = some (Payload.observePart parts accessor) := by
  cases accessor <;> rfl

theorem isRead_eq_isSome (accessor : Accessor) (draft : IssueDraft) :
    isRead accessor draft = (draft.answer accessor).isSome := by
  cases accessor <;> exact Option.isSome_map.symm

theorem eq_of_answer {left right : IssueDraft}
    (same : ∀ accessor, left.answer accessor = right.answer accessor) : left = right := by
  have integers : ∀ {first second : Option Int},
      first.map Observation.integer = second.map Observation.integer → first = second :=
    fun equal => Option.map_injective (fun _ _ => Observation.integer.inj) equal
  have texts : ∀ {first second : Option String},
      first.map Observation.text = second.map Observation.text → first = second :=
    fun equal => Option.map_injective (fun _ _ => Observation.text.inj) equal
  cases left
  cases right
  rw [IssueDraft.mk.injEq]
  exact ⟨integers (same .startLine), integers (same .startLineOffset), integers (same .endLine),
    integers (same .endLineOffset), texts (same .ruleId), texts (same .message),
    texts (same .issueType), texts (same .fileName), texts (same .reportedFilePath)⟩

theorem finish_full (parts : IssueParts) : (full parts).finish = .ok parts :=
  rfl

theorem eq_full_of_finish {draft : IssueDraft} {parts : IssueParts}
    (finished : draft.finish = .ok parts) : draft = full parts := by
  unfold finish at finished
  simp only [outcome_bind_eq_ok, Json.required_eq_ok] at finished
  obtain ⟨startLine, hasStartLine, startLineOffset, hasStartLineOffset, endLine, hasEndLine,
    endLineOffset, hasEndLineOffset, ruleId, hasRuleId, message, hasMessage, issueType,
    hasIssueType, fileName, hasFileName, reportedFilePath, hasReportedFilePath, same⟩ := finished
  cases same
  cases draft
  rw [full, IssueDraft.mk.injEq]
  exact ⟨hasStartLine, hasStartLineOffset, hasEndLine, hasEndLineOffset, hasRuleId, hasMessage,
    hasIssueType, hasFileName, hasReportedFilePath⟩

/-- The nine values are there if every accessor has its part. -/
theorem finish_eq_ok {draft : IssueDraft} {parts : IssueParts} :
    draft.finish = .ok parts ↔
      ∀ accessor, draft.answer accessor = some (Payload.observePart parts accessor) := by
  constructor
  · intro finished accessor
    rw [eq_full_of_finish finished, answer_full]
  · intro answers
    have whole : draft = full parts := by
      apply eq_of_answer
      intro accessor
      rw [answers accessor, answer_full]
    rw [whole, finish_full]

/-! ### Taking values into a draft -/

def answerOf (accessor : Accessor) (written : Json) : Except (Json.ReadError Reason) Observation :=
  match accessor with
  | .startLine => (decodeInteger written).map .integer
  | .startLineOffset => (decodeInteger written).map .integer
  | .endLine => (decodeInteger written).map .integer
  | .endLineOffset => (decodeInteger written).map .integer
  | .ruleId => (decodeText written).map .text
  | .message => (decodeText written).map .text
  | .issueType => (decodeText written).map .text
  | .fileName => (decodeText written).map .text
  | .reportedFilePath => (decodeText written).map .text

def decode (accessor : Accessor) (draft : IssueDraft) (written : Json) :
    Except (Json.ReadError Reason) IssueDraft :=
  match accessor with
  | .startLine => (decodeInteger written).map fun value => { draft with startLine := some value }
  | .startLineOffset =>
      (decodeInteger written).map fun value => { draft with startLineOffset := some value }
  | .endLine => (decodeInteger written).map fun value => { draft with endLine := some value }
  | .endLineOffset =>
      (decodeInteger written).map fun value => { draft with endLineOffset := some value }
  | .ruleId => (decodeText written).map fun value => { draft with ruleId := some value }
  | .message => (decodeText written).map fun value => { draft with message := some value }
  | .issueType => (decodeText written).map fun value => { draft with issueType := some value }
  | .fileName => (decodeText written).map fun value => { draft with fileName := some value }
  | .reportedFilePath =>
      (decodeText written).map fun value => { draft with reportedFilePath := some value }

theorem decodes_read (depth : Nat) (accessor : Accessor) (draft : IssueDraft) :
    Json.Decodes depth (@read Reason accessor draft) (decode accessor draft) := by
  cases accessor with
  | startLine => exact (Json.decodes_readInteger depth).map _
  | startLineOffset => exact (Json.decodes_readInteger depth).map _
  | endLine => exact (Json.decodes_readInteger depth).map _
  | endLineOffset => exact (Json.decodes_readInteger depth).map _
  | ruleId => exact (Json.decodes_readText depth).map _
  | message => exact (Json.decodes_readText depth).map _
  | issueType => exact (Json.decodes_readText depth).map _
  | fileName => exact (Json.decodes_readText depth).map _
  | reportedFilePath => exact (Json.decodes_readText depth).map _

theorem decode_eq_ok {accessor : Accessor} {draft next : IssueDraft} {written : Json} :
    @decode Reason accessor draft written = .ok next ↔
      ∃ observation, @answerOf Reason accessor written = .ok observation ∧
        ∀ other, next.answer other =
          if other = accessor then some observation else draft.answer other := by
  constructor
  · intro decoded
    cases accessor
    all_goals
      obtain ⟨value, found, same⟩ := outcome_map_eq_ok.mp decoded
      refine ⟨_, outcome_map_eq_ok.mpr ⟨value, found, rfl⟩, ?_⟩
      intro other
      rw [← same]
      cases other <;> rfl
  · rintro ⟨observation, answered, answers⟩
    cases accessor
    all_goals
      obtain ⟨value, found, same⟩ := outcome_map_eq_ok.mp answered
      refine outcome_map_eq_ok.mpr ⟨value, found, eq_of_answer ?_⟩
      intro other
      rw [answers other, ← same]
      cases other <;> rfl

theorem exists_decode {accessor : Accessor} {written : Json} {observation : Observation}
    (answered : @answerOf Reason accessor written = .ok observation) (draft : IssueDraft) :
    ∃ next, @decode Reason accessor draft written = .ok next := by
  cases accessor
  all_goals
    obtain ⟨value, found, -⟩ := outcome_map_eq_ok.mp answered
    exact ⟨_, outcome_map_eq_ok.mpr ⟨value, found, rfl⟩⟩

theorem answerOf_eq_ok {accessor : Accessor} {written : Json} {parts : IssueParts} :
    @answerOf Reason accessor written = .ok (Payload.observePart parts accessor) ↔
      Payload.observeMember accessor.name written =
        .ok (Payload.observePart parts accessor) := by
  have integers : ∀ value : Int,
      (@decodeInteger Reason written).map Observation.integer = .ok (.integer value) ↔
        Payload.observeMember accessor.name written = .ok (.integer value) := by
    intro value
    rw [← @decodeInteger_eq_ok Reason, outcome_map_eq_ok]
    simp
  have texts : ∀ value : String,
      (@decodeText Reason written).map Observation.text = .ok (.text value) ↔
        Payload.observeMember accessor.name written = .ok (.text value) := by
    intro value
    rw [← @decodeText_eq_ok Reason, outcome_map_eq_ok]
    simp
  cases accessor
  · exact integers _
  · exact integers _
  · exact integers _
  · exact integers _
  · exact texts _
  · exact texts _
  · exact texts _
  · exact texts _
  · exact texts _

/-! ### The members of an object -/

def field (accessor : Accessor) : Json.Field Reason IssueDraft where
  name := accessor.name
  isOptional := false
  isRead := isRead accessor
  read := read accessor

def slots : Json.Slots (@IssueParts.shape Reason) Accessor Observation where
  name := Accessor.name
  slot? := Accessor.ofName?
  field := field
  held := answer
  decode := answerOf
  fill := decode
  slot?_name := Accessor.ofName?_name
  name_of_slot? := Accessor.name_of_ofName?
  eq_of_held := eq_of_answer
  field?_eq := by
    intro name
    unfold Json.Shape.field? IssueParts.shape Accessor.ofName?
    dsimp only
    rw [List.find?_map]
    rfl
  name_field := fun _ => rfl
  isRead_field := isRead_eq_isSome
  fill_eq_ok := decode_eq_ok
  exists_fill := exists_decode

theorem answer_initial (accessor : Accessor) :
    (@IssueParts.shape Reason).initial.answer accessor = none := by
  cases accessor <;> rfl

end IssueDraft

namespace IssueParts

open IssueDraft (slots)

/-- The parts of an object in which no accessor is named twice are what its members answer. -/
theorem decodeObject_eq_ok {entries : List (String × Json)} {parts : IssueParts}
    (unrepeated : ∀ accessor : Accessor, (entries.map (·.1)).count accessor.name ≤ 1) :
    (@IssueParts.shape Reason).decodeObject slots.take entries = .ok parts ↔
      ∀ accessor : Accessor, ∃ written, member? accessor.name entries = some written ∧
        Payload.observeMember accessor.name written =
          .ok (Payload.observePart parts accessor) := by
  rw [@Json.Slots.decodeObject_eq_ok _ _ _ _ _ _ _ slots IssueDraft.answer_initial entries
    unrepeated parts]
  constructor
  · rintro ⟨draft, finished, gathered⟩ accessor
    have held := IssueDraft.finish_eq_ok.mp finished accessor
    have member := gathered accessor
    change slots.Holds accessor (member? accessor.name entries) (draft.answer accessor) at member
    cases found : member? accessor.name entries with
    | none =>
        rw [found] at member
        have impossible := held.symm.trans member
        cases impossible
    | some written =>
        rw [found] at member
        obtain ⟨observation, answered, kept⟩ := member
        rw [held, Option.some.injEq] at kept
        rw [← kept] at answered
        exact ⟨written, rfl, IssueDraft.answerOf_eq_ok.mp answered⟩
  · intro answers
    refine ⟨IssueDraft.full parts, IssueDraft.finish_full parts, ?_⟩
    intro accessor
    obtain ⟨written, found, observed⟩ := answers accessor
    change slots.Holds accessor (member? accessor.name entries)
      ((IssueDraft.full parts).answer accessor)
    rw [found]
    exact ⟨_, IssueDraft.answerOf_eq_ok.mpr observed, IssueDraft.answer_full parts accessor⟩

theorem decodeArray_eq_decodeObject (valueOf : Accessor → Json) :
    (@IssueParts.shape Reason).decodeArray slots.take (Accessor.all.map valueOf) =
      (@IssueParts.shape Reason).decodeObject slots.take
        (Accessor.all.map fun accessor => (accessor.name, valueOf accessor)) :=
  slots.decodeArray_eq_decodeObject IssueDraft.answer_initial Accessor.all [] rfl (by decide)
    (fun _ impossible => by cases impossible) valueOf

end IssueParts

/-! ### Both ways -/

theorem Payload.answers_ofJson {members : List (String × Json)} {parts : IssueParts} :
    (ofJson (.object members)).Answers parts ↔
      ∀ accessor : Accessor, ∃ value, member? accessor.name members = some value ∧
        observeMember accessor.name value = .ok (observePart parts accessor) := by
  apply forall_congr'
  intro accessor
  change observeJson (.object members) accessor.name = _ ↔ _
  unfold observeJson
  dsimp only
  cases member? accessor.name members with
  | none =>
      constructor
      · intro impossible
        cases impossible
      · rintro ⟨value, impossible, -⟩
        cases impossible
  | some value =>
      constructor
      · intro observed
        exact ⟨value, rfl, observed⟩
      · rintro ⟨other, same, observed⟩
        cases same
        exact observed

namespace Issue

def decodeParts (written : Json) : Except (Json.ReadError InvalidIssue) IssueParts :=
  IssueParts.shape.decode IssueDraft.slots.take written

def decode (written : Json) : Except (Json.ReadError InvalidIssue) Issue := do
  let parts ← decodeParts written
  (ofParts parts).mapError .rejected

theorem decodes_nested (inner : Nat) : Json.Decodes (inner + 1) read decode := by
  intro input written rest found
  have partsRead : IssueParts.shape.read input =
      (decodeParts written).map fun parts => (parts, rest) :=
    IssueDraft.slots.decodes_read rfl (IssueDraft.decodes_read inner) input written rest found
  unfold read decode
  cases decoded : decodeParts written with
  | error fault =>
      rw [decoded] at partsRead
      exact Json.andThen_of_error partsRead
  | ok parts =>
      rw [decoded] at partsRead
      rw [Json.andThen_of_ok partsRead]
      change _ = Except.map _ ((ofParts parts).mapError _)
      cases ofParts parts <;> rfl

theorem decodes_read : Json.Decodes Json.depthLimit read decode :=
  decodes_nested 126

theorem decode_eq_ok {written : Json} {issue : Issue} :
    decode written = .ok issue ↔
      ∃ parts, decodeParts written = .ok parts ∧ ofParts parts = .ok issue := by
  unfold decode
  rw [outcome_bind_eq_ok]
  apply exists_congr
  intro parts
  rw [outcome_mapError_eq_ok]

/-- As many values as distinct keys are the values of a function. -/
theorem exists_map_eq {Key Value : Type} [DecidableEq Key] {keys : List Key}
    (distinct : keys.Nodup) {values : List Value} (paired : values.length = keys.length)
    (otherwise : Key → Value) : ∃ valueOf : Key → Value, values = keys.map valueOf := by
  induction keys generalizing values with
  | nil => exact ⟨otherwise, List.length_eq_zero_iff.mp paired⟩
  | cons key keys ih =>
      obtain ⟨fresh, distinctTail⟩ := List.nodup_cons.mp distinct
      cases values with
      | nil => cases paired
      | cons value values =>
          obtain ⟨valueOf, same⟩ := ih distinctTail (Nat.succ.inj paired)
          refine ⟨fun other => if other = key then value else valueOf other, ?_⟩
          rw [List.map_cons, if_pos rfl, same, List.cons.injEq]
          refine ⟨rfl, List.map_congr_left ?_⟩
          intro other present
          have different : ¬ other = key := by
            intro equal
            rw [equal] at present
            exact fresh present
          rw [if_neg different]

theorem member?_all (valueOf : Accessor → Json) (accessor : Accessor) :
    member? accessor.name (Accessor.all.map fun accessor => (accessor.name, valueOf accessor)) =
      some (valueOf accessor) := by
  cases accessor <;> rfl

theorem count_name_all (valueOf : Accessor → Json) (accessor : Accessor) :
    ((Accessor.all.map fun accessor => (accessor.name, valueOf accessor)).map (·.1)).count
      accessor.name ≤ 1 := by
  rw [List.map_map]
  change (Accessor.all.map Accessor.name).count accessor.name ≤ 1
  cases accessor <;> decide

theorem decodeParts_object_eq_ok {written : List (String × Json)} {parts : IssueParts}
    (unrepeated : ∀ accessor : Accessor, (written.map (·.1)).count accessor.name ≤ 1) :
    decodeParts (.object written) = .ok parts ↔
      (Payload.ofJson (.object (Json.settleMembers [] written))).Answers parts := by
  rw [Payload.answers_ofJson]
  change IssueParts.shape.decodeObject IssueDraft.slots.take written = _ ↔ _
  rw [IssueParts.decodeObject_eq_ok unrepeated]
  apply forall_congr'
  intro accessor
  rw [Json.member?_settleMembers (unrepeated accessor) rfl]
  constructor
  · rintro ⟨value, held, observed⟩
    rw [held]
    exact ⟨_, rfl, (observeMember_settle _ value).trans observed⟩
  · rintro ⟨value, held, observed⟩
    obtain ⟨kept, heldKept, same⟩ := Option.map_eq_some_iff.mp held
    rw [← same, observeMember_settle] at observed
    exact ⟨kept, heldKept, observed⟩

theorem decodeParts_array_eq_ok {written : List Json} {members : List (String × Json)}
    {parts : IssueParts}
    (inOrder : (written.map Json.settle).map some =
      Accessor.all.map fun accessor => member? accessor.name members) :
    decodeParts (.array written) = .ok parts ↔
      (Payload.ofJson (.object members)).Answers parts := by
  have paired : written.length = Accessor.all.length := by
    have lengths := congrArg List.length inOrder
    simpa using lengths
  obtain ⟨valueOf, same⟩ := exists_map_eq (by decide : Accessor.all.Nodup) paired fun _ => .null
  rw [same, List.map_map, List.map_map, List.map_inj_left] at inOrder
  rw [Payload.answers_ofJson, same]
  change IssueParts.shape.decodeArray IssueDraft.slots.take (Accessor.all.map valueOf) = _ ↔ _
  rw [IssueParts.decodeArray_eq_decodeObject,
    IssueParts.decodeObject_eq_ok (count_name_all valueOf)]
  apply forall_congr'
  intro accessor
  rw [member?_all, ← inOrder accessor (Accessor.mem_all accessor)]
  constructor
  · rintro ⟨value, held, observed⟩
    cases held
    exact ⟨_, rfl, (observeMember_settle _ _).trans observed⟩
  · rintro ⟨value, held, observed⟩
    cases held
    exact ⟨_, rfl, (observeMember_settle _ _).symm.trans observed⟩

/-- The two ways from a text that denotes an object to an issue agree: they accept the same issues,
and if the nine members are there but make no issue, they fail for the same reason. The nine values
in the order of the contract may also stand in an array. -/
structure ReadsAlike (text : Json.Input) (members : List (String × Json)) : Prop where
  accepted : ∀ issue,
    parse text = .ok issue ↔ (Payload.ofJson (.object members)).convert = .ok issue
  rejected : ∀ parts fault, (Payload.ofJson (.object members)).Answers parts →
    ofParts parts = .error fault →
      parse text = .error (.rejected fault) ∧
        (Payload.ofJson (.object members)).convert = .error (.invalid "json object" fault)
  inOrder : ∀ arrayText values, Json.parse arrayText = .ok (.array values) →
    values.map some = Accessor.all.map (fun accessor => member? accessor.name members) →
      ∀ issue, parse arrayText = .ok issue ↔ parse text = .ok issue

theorem readsAlike_of_parsed {text : Json.Input} {members : List (String × Json)}
    (parsed : Json.parse text = .ok (.object members))
    (unrepeated : ∀ accessor : Accessor, (Json.writtenNames text).count accessor.name ≤ 1) :
    ReadsAlike text members := by
  obtain ⟨written, found, settled, names⟩ := Json.written_of_parse_object parsed
  rw [names] at unrepeated
  have parseText : parse text = decode (.object written) := decodes_read.readAll found
  have answers : ∀ parts, decodeParts (.object written) = .ok parts ↔
      (Payload.ofJson (.object members)).Answers parts := by
    intro parts
    rw [decodeParts_object_eq_ok unrepeated, settled]
  have accepted : ∀ issue,
      parse text = .ok issue ↔ (Payload.ofJson (.object members)).convert = .ok issue := by
    intro issue
    rw [parseText, decode_eq_ok, Payload.convert_eq_ok]
    exact exists_congr fun parts => and_congr_left' (answers parts)
  refine ⟨accepted, ?_, ?_⟩
  · intro parts fault answered invalid
    constructor
    · rw [parseText]
      unfold decode
      rw [(answers parts).mpr answered]
      change (ofParts parts).mapError _ = _
      rw [invalid]
      rfl
    · exact Payload.convert_eq_invalid.mpr ⟨rfl, parts, answered, invalid⟩
  · intro arrayText values arrayParsed inOrder issue
    obtain ⟨arrayWritten, arrayFound, arraySettled⟩ := Json.written_of_parse_array arrayParsed
    rw [← arraySettled] at inOrder
    have parseArray : parse arrayText = decode (.array arrayWritten) :=
      decodes_read.readAll arrayFound
    rw [accepted, parseArray, decode_eq_ok, Payload.convert_eq_ok]
    exact exists_congr fun parts => and_congr_left' (decodeParts_array_eq_ok inOrder)

def shuffledText : Json.Input := Text.utf8
  "\x7b\"message\": \"m\", \"ruleID\": \"r\", \"extra\": [1, \x7b\x7d], \"startLine\": 1,
    \"startLineOffset\": 2, \"endLine\": 3, \"endLineOffset\": 4, \"issueType\": \"t\",
    \"fileName\": \"f\", \"reportedFilePath\": \"p\"\x7d"

def shuffledMembers : List (String × Json) :=
  [("message", .text "m"), ("ruleID", .text "r"),
    ("extra", .array [.number (.integer 1), .object []]), ("startLine", .number (.integer 1)),
    ("startLineOffset", .number (.integer 2)), ("endLine", .number (.integer 3)),
    ("endLineOffset", .number (.integer 4)), ("issueType", .text "t"), ("fileName", .text "f"),
    ("reportedFilePath", .text "p")]

set_option maxRecDepth 20000 in
theorem readsAlike_shuffled :
    Json.parse shuffledText = .ok (.object shuffledMembers) ∧
      (∀ accessor : Accessor, (Json.writtenNames shuffledText).count accessor.name ≤ 1) ∧
        ReadsAlike shuffledText shuffledMembers := by
  have parsed : Json.parse shuffledText = .ok (.object shuffledMembers) := by rfl
  have names : Json.writtenNames shuffledText = shuffledMembers.map (·.1) := by rfl
  have unrepeated : ∀ accessor : Accessor,
      (Json.writtenNames shuffledText).count accessor.name ≤ 1 := by
    intro accessor
    rw [names]
    cases accessor <;> decide
  exact ⟨parsed, unrepeated, readsAlike_of_parsed parsed unrepeated⟩

end Issue

end IssueReport
