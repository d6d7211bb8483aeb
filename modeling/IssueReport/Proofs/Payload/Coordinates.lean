import IssueReport.Proofs.Json.Spelling
import IssueReport.Proofs.Payload.FirstFault
/-!
Coordinates that stand in a text. What becomes of a coordinate is told by its literal alone: the
integer that it denotes is the coordinate, is out of range as a coordinate or needs more than 63
bits, and any other number is a float. It is never rounded to an integer that is in range.
-/

namespace IssueReport

def Accessor.Admits (accessor : Accessor) : Observation → Prop
  | .integer value => accessor.isCoordinate = true ∧ 0 ≤ value ∧ value ≤ 4294967295
  | .text _ => accessor.isCoordinate = false
  | _ => False

/-! ### One value alone -/

namespace IssueParts

variable {parts : IssueParts} {accessor : Accessor} {value : Int}

/-- A coordinate out of range is reported if the others are in range. -/
theorem head?_violations (here : Payload.observePart parts accessor = .integer value)
    (outside : ¬ (0 ≤ value ∧ value ≤ 4294967295))
    (others : ∀ other, other ≠ accessor → other.Admits (Payload.observePart parts other)) :
    parts.violations.head? = some (.coordinate accessor value) := by
  unfold violations outOfRange
  cases accessor with
  | startLine =>
      cases here
      simp [outside]
  | startLineOffset =>
      cases here
      have startLine := (others .startLine (by decide)).2
      simp [startLine, outside]
  | endLine =>
      cases here
      have startLine := (others .startLine (by decide)).2
      have startLineOffset := (others .startLineOffset (by decide)).2
      simp [startLine, startLineOffset, outside]
  | endLineOffset =>
      cases here
      have startLine := (others .startLine (by decide)).2
      have startLineOffset := (others .startLineOffset (by decide)).2
      have endLine := (others .endLine (by decide)).2
      simp [startLine, startLineOffset, endLine, outside]
  | ruleId | message | issueType | fileName | reportedFilePath => cases here

theorem ne_coordinate_of_mem_violations
    (admitted : ∀ other : Accessor, other.Admits (Payload.observePart parts other))
    {fault : InvalidIssue} (failed : fault ∈ parts.violations) :
    ∀ other found, fault ≠ .coordinate other found := by
  have startLine := (admitted .startLine).2
  have startLineOffset := (admitted .startLineOffset).2
  have endLine := (admitted .endLine).2
  have endLineOffset := (admitted .endLineOffset).2
  unfold violations outOfRange at failed
  rw [if_pos startLine, if_pos startLineOffset, if_pos endLine, if_pos endLineOffset] at failed
  intro other found same
  simp [same] at failed

end IssueParts

namespace Payload

variable {payload : Payload} {accessor : Accessor}

theorem fault?_of_admits {observation : Observation}
    (answered : payload.observe accessor.name = .ok observation)
    (admitted : accessor.Admits observation) : payload.fault? accessor = none := by
  unfold fault?
  rw [answered]
  cases observation with
  | integer value => rw [admitted.1]
  | text value =>
      change accessor.isCoordinate = false at admitted
      rw [admitted]
  | float | boolean | null => cases admitted

theorem convert_of_fault? {fault : ShapeFault} (faulty : payload.fault? accessor = some fault)
    (others : ∀ other, other ≠ accessor → payload.fault? other = none) :
    payload.convert = .error (.incompatible accessor payload.typeName fault) := by
  cases @follows_parts payload with
  | toEnd sound _ _ =>
      rw [sound accessor (Accessor.mem_all accessor)] at faulty
      cases faulty
  | @upTo _ _ first found _ _ firstFaulty _ refused =>
      have same : first = accessor := by
        by_contra different
        rw [others first different] at firstFaulty
        cases firstFaulty
      rw [same, faulty] at firstFaulty
      cases firstFaulty
      rw [convert, refused, same]

theorem exists_answers (sound : ∀ other, payload.fault? other = none) :
    ∃ parts, payload.Answers parts := by
  cases @follows_parts payload with
  | toEnd _ _ answered => exact ⟨_, parts_eq_ok.mp answered⟩
  | @upTo _ _ first _ _ _ faulty _ _ =>
      rw [sound first] at faulty
      cases faulty

theorem convert_of_answers {parts : IssueParts} (answers : payload.Answers parts) :
    payload.convert = (Issue.ofParts parts).mapError (.invalid payload.typeName) := by
  rw [convert, parts_eq_ok.mpr answers]
  dsimp only
  cases Issue.ofParts parts <;> rfl

/-- Where all answers are as the contract says and in range, no coordinate is at fault. -/
theorem invalid_of_admitted {parts : IssueParts} (answers : payload.Answers parts)
    (admitted : ∀ other : Accessor, other.Admits (observePart parts other))
    {error : ConversionError} (failed : payload.convert = .error error) :
    ∃ fault, error = .invalid payload.typeName fault ∧
      ∀ other found, fault ≠ .coordinate other found := by
  rw [convert_of_answers answers] at failed
  cases built : Issue.ofParts parts with
  | ok issue =>
      rw [built] at failed
      cases failed
  | error fault =>
      rw [built] at failed
      cases failed
      have reported := List.mem_of_head? (Issue.ofParts_eq_error.mp built)
      exact ⟨fault, rfl, IssueParts.ne_coordinate_of_mem_violations admitted reported⟩

theorem toParts_of_convert {parts : IssueParts} {issue : Issue} (answers : payload.Answers parts)
    (converted : payload.convert = .ok issue) : issue.toParts = parts := by
  rw [convert_of_answers answers] at converted
  exact (Issue.ofParts_eq_ok.mp (outcome_mapError_eq_ok.mp converted)).2

/-! ### Literals -/

open Json (Input IsPlain minusZero plainValue spelling?)

/-- All members of the contract stand in the object of a text. One coordinate is a number literal;
the answers of the others are as the contract says and in range. -/
structure LiteralAt (text : Input) (members : List (String × Json)) (coordinate : Accessor)
    (literal : Input) : Prop where
  parsed : Json.parse text = .ok (.object members)
  isCoordinate : coordinate.isCoordinate = true
  spelled : spelling? coordinate.name text = some literal
  isNumber : literal.head?.any Json.startsNumber = true
  others : ∀ other, other ≠ coordinate →
    ∃ observation, (ofJson (.object members)).observe other.name = .ok observation ∧
      other.Admits observation

/-- What a conversion makes of a coordinate, by the literal of the coordinate. -/
structure FollowsLiteral (payload : Payload) (coordinate : Accessor) (literal : Input) : Prop where
  passes : ∀ value, IsPlain literal → literal ≠ minusZero → plainValue literal = value →
    0 ≤ value → value ≤ 0xFFFFFFFF →
      (∃ parts, payload.Answers parts ∧ observePart parts coordinate = .integer value) ∧
      (∀ error, payload.convert = .error error →
        ∃ fault, error = .invalid payload.typeName fault ∧
          ∀ other found, fault ≠ .coordinate other found) ∧
      ∀ issue, payload.convert = .ok issue →
        observePart issue.toParts coordinate = .integer value ∧
          ∀ spacing, spelling? coordinate.name (Text.utf8 (issue.toJson.toText spacing)) =
            some literal
  outOfRange : ∀ value, IsPlain literal → plainValue literal = value →
    (-0x8000000000000000 ≤ value ∧ value ≤ -1 ∨
        0x100000000 ≤ value ∧ value ≤ 0x7FFFFFFFFFFFFFFF) →
      payload.convert = .error (.invalid payload.typeName (.coordinate coordinate value))
  unsigned : ∀ value, IsPlain literal → plainValue literal = value →
    0x8000000000000000 ≤ value → value ≤ 0xFFFFFFFFFFFFFFFF →
      ∃ digits, Text.utf8 digits = literal ∧ payload.convert =
        .error (.incompatible coordinate payload.typeName (.access (.outOfRange digits)))
  float : (¬ IsPlain literal ∨ literal = minusZero ∨ plainValue literal < -0x8000000000000000 ∨
      0x10000000000000000 ≤ plainValue literal) →
    ∃ value, payload.convert =
      .error (.incompatible coordinate payload.typeName (.notInteger (.float value)))

/-- The integer of a coordinate is printed with the digits that it is read from. -/
theorem spelling?_toText {issue : Issue} {coordinate : Accessor} {value : Int}
    (part : observePart issue.toParts coordinate = .integer value) (spacing : Json.Spacing) :
    spelling? coordinate.name (Text.utf8 (issue.toJson.toText spacing)) =
      some (Text.encode (Json.writeInteger value)) := by
  have printed : issue.written coordinate = .number (.integer value) := by
    cases coordinate <;> cases part <;> rfl
  have parsed : Json.parse (Text.utf8 (issue.toJson.toText spacing)) = .ok issue.toJson :=
    Json.parse_toText (Issue.printable_toJson issue 126) (Issue.settle_toJson issue)
  rw [Issue.toJson_eq_object] at parsed ⊢
  rcases Json.spells_of_parse parsed coordinate.name with
    ⟨absent, _⟩ | ⟨_, literal, held, spelled, spells⟩
  · rw [Issue.member?_all] at absent
    cases absent
  · rw [Issue.member?_all, printed, Option.some.injEq] at held
    rw [spelled, (spells.reads _ held.symm).written value rfl]

theorem utf8_toString {value : Int} (unsigned : 0 ≤ value) :
    Text.utf8 (toString value) = Text.encode (Json.writeInteger value) := by
  obtain ⟨magnitude, same⟩ := Int.eq_ofNat_of_zero_le unsigned
  rw [same]
  exact Text.utf8_ofList _

namespace LiteralAt

variable {text : Input} {members : List (String × Json)} {coordinate : Accessor} {literal : Input}
  (stands : LiteralAt text members coordinate literal)

include stands

theorem exists_reads : ∃ number, Json.Reads literal number ∧
    (ofJson (.object members)).observe coordinate.name =
      observeMember coordinate.name (.number number) := by
  rcases Json.spells_of_parse stands.parsed coordinate.name with
    ⟨_, absent⟩ | ⟨value, other, held, spelled, spells⟩
  · rw [stands.spelled] at absent
    cases absent
  · rw [stands.spelled] at spelled
    cases spelled
    obtain ⟨number, same⟩ := spells.starts stands.isNumber
    refine ⟨number, spells.reads number same, ?_⟩
    change observeJson (.object members) coordinate.name = _
    unfold observeJson
    dsimp only
    rw [held, same]

theorem fault?_other (other : Accessor) (different : other ≠ coordinate) :
    (ofJson (.object members)).fault? other = none := by
  obtain ⟨observation, answered, admitted⟩ := stands.others other different
  exact fault?_of_admits answered admitted

theorem exists_answers {value : Int}
    (observed : (ofJson (.object members)).observe coordinate.name = .ok (.integer value)) :
    ∃ parts, (ofJson (.object members)).Answers parts ∧
      observePart parts coordinate = .integer value ∧
        ∀ other, other ≠ coordinate → other.Admits (observePart parts other) := by
  have sound : ∀ other, (ofJson (.object members)).fault? other = none := by
    intro other
    by_cases same : other = coordinate
    · rw [same, fault?, observed, stands.isCoordinate]
    · exact stands.fault?_other other same
  obtain ⟨parts, answers⟩ := Payload.exists_answers sound
  have here := answers coordinate
  rw [observed, Except.ok.injEq] at here
  refine ⟨parts, answers, here.symm, ?_⟩
  intro other different
  obtain ⟨observation, answered, admitted⟩ := stands.others other different
  rw [answers other] at answered
  cases answered
  exact admitted

theorem convert_of_access {fault : ShapeFault}
    (faulty : (ofJson (.object members)).fault? coordinate = some fault) :
    (ofJson (.object members)).convert =
      .error (.incompatible coordinate (ofJson (.object members)).typeName fault) :=
  convert_of_fault? faulty stands.fault?_other

/-- The literal of an integer of 64 bits is read as this integer, with no other digits. -/
theorem observe_of_integer {value : Int} (plain : IsPlain literal)
    (unsignedZero : literal ≠ minusZero) (denotes : plainValue literal = value)
    (low : -0x8000000000000000 ≤ value) (high : value ≤ 0xFFFFFFFFFFFFFFFF) :
    Text.encode (Json.writeInteger value) = literal ∧
      (ofJson (.object members)).observe coordinate.name =
        if value < 0x8000000000000000 then .ok (.integer value)
        else .error (.outOfRange (toString value)) := by
  obtain ⟨number, reads, observed⟩ := stands.exists_reads
  have limits : (Json.signedLimit : Int) = 0x8000000000000000 ∧
      (Json.significandLimit : Int) = 0x10000000000000000 :=
    ⟨rfl, rfl⟩
  have fits : Json.FitsWord value := by
    unfold Json.FitsWord
    omega
  have integer := (reads.integer value).mpr ⟨plain, unsignedZero, denotes, fits⟩
  rw [integer] at observed
  exact ⟨(reads.written value integer).symm, observed⟩

theorem observe_of_float
    (other : ¬ IsPlain literal ∨ literal = minusZero ∨ plainValue literal < -0x8000000000000000 ∨
      0x10000000000000000 ≤ plainValue literal) :
    ∃ value, (ofJson (.object members)).observe coordinate.name = .ok (.float value) := by
  obtain ⟨number, reads, observed⟩ := stands.exists_reads
  have limits : (Json.signedLimit : Int) = 0x8000000000000000 ∧
      (Json.significandLimit : Int) = 0x10000000000000000 :=
    ⟨rfl, rfl⟩
  cases number with
  | float value => exact ⟨value, observed⟩
  | integer value =>
      obtain ⟨plain, unsignedZero, denotes, low, high⟩ := (reads.integer value).mp rfl
      rcases other with notPlain | zero | below | above
      · exact absurd plain notPlain
      · exact absurd zero unsignedZero
      · omega
      · omega

/-- With the coordinate in range, all answers are as the contract says and in range. -/
theorem admits {parts : IssueParts} {value : Int}
    (here : observePart parts coordinate = .integer value)
    (inRange : 0 ≤ value ∧ value ≤ 4294967295)
    (others : ∀ other, other ≠ coordinate → other.Admits (observePart parts other))
    (other : Accessor) : other.Admits (observePart parts other) := by
  by_cases same : other = coordinate
  · rw [same, here]
    exact ⟨stands.isCoordinate, inRange⟩
  · exact others other same

end LiteralAt

theorem ne_minusZero {literal : Input} (nonzero : plainValue literal ≠ 0) :
    literal ≠ minusZero := by
  intro same
  rw [same] at nonzero
  exact nonzero rfl

theorem followsLiteral_of_literalAt {text : Input} {members : List (String × Json)}
    {coordinate : Accessor} {literal : Input}
    (stands : LiteralAt text members coordinate literal) :
    (ofJson (.object members)).FollowsLiteral coordinate literal where
  passes := by
    intro value plain unsignedZero denotes low high
    obtain ⟨digits, observed⟩ :=
      stands.observe_of_integer plain unsignedZero denotes (by omega) (by omega)
    rw [if_pos (by omega)] at observed
    obtain ⟨parts, answers, here, others⟩ := stands.exists_answers observed
    have admitted := stands.admits here (by omega) others
    refine ⟨⟨parts, answers, here⟩, fun _ => invalid_of_admitted answers admitted, ?_⟩
    intro issue converted
    rw [← toParts_of_convert answers converted] at here
    refine ⟨here, ?_⟩
    intro spacing
    rw [spelling?_toText here, digits]
  outOfRange := by
    intro value plain denotes outside
    have unsignedZero : literal ≠ minusZero := ne_minusZero (by omega)
    obtain ⟨_, observed⟩ :=
      stands.observe_of_integer plain unsignedZero denotes (by omega) (by omega)
    rw [if_pos (by omega)] at observed
    obtain ⟨parts, answers, here, others⟩ := stands.exists_answers observed
    have failed : Issue.ofParts parts = .error (.coordinate coordinate value) :=
      Issue.ofParts_eq_error.mpr (IssueParts.head?_violations here (by omega) others)
    rw [convert_of_answers answers, failed]
    rfl
  unsigned := by
    intro value plain denotes low high
    have unsignedZero : literal ≠ minusZero := ne_minusZero (by omega)
    obtain ⟨digits, observed⟩ :=
      stands.observe_of_integer plain unsignedZero denotes (by omega) high
    rw [if_neg (by omega)] at observed
    refine ⟨toString value, ?_, stands.convert_of_access ?_⟩
    · rw [utf8_toString (by omega), digits]
    · rw [fault?, observed]
  float := by
    intro other
    obtain ⟨value, observed⟩ := stands.observe_of_float other
    refine ⟨value, stands.convert_of_access ?_⟩
    rw [fault?, observed, stands.isCoordinate]

def longText : Input := Text.utf8
  "\x7b\"startLine\": 7, \"startLineOffset\": 0, \"endLine\": 4294967296, \"endLineOffset\": 4,
    \"ruleID\": \"r\", \"message\": \"m\", \"issueType\": \"t\", \"fileName\": \"f\",
    \"reportedFilePath\": \"p\"\x7d"

def longMembers : List (String × Json) :=
  [("startLine", .number (.integer 7)), ("startLineOffset", .number (.integer 0)),
    ("endLine", .number (.integer 4294967296)), ("endLineOffset", .number (.integer 4)),
    ("ruleID", .text "r"), ("message", .text "m"), ("issueType", .text "t"),
    ("fileName", .text "f"), ("reportedFilePath", .text "p")]

set_option maxRecDepth 20000 in
theorem literalAt_longText :
    LiteralAt longText longMembers .endLine (Text.utf8 "4294967296") where
  parsed := by rfl
  isCoordinate := rfl
  spelled := by rfl
  isNumber := by rfl
  others := by
    intro other different
    cases other with
    | startLine => exact ⟨.integer 7, rfl, rfl, by decide⟩
    | startLineOffset => exact ⟨.integer 0, rfl, rfl, by decide⟩
    | endLine => exact absurd rfl different
    | endLineOffset => exact ⟨.integer 4, rfl, rfl, by decide⟩
    | ruleId => exact ⟨.text "r", rfl, rfl⟩
    | message => exact ⟨.text "m", rfl, rfl⟩
    | issueType => exact ⟨.text "t", rfl, rfl⟩
    | fileName => exact ⟨.text "f", rfl, rfl⟩
    | reportedFilePath => exact ⟨.text "p", rfl, rfl⟩

theorem convert_longText :
    LiteralAt longText longMembers .endLine (Text.utf8 "4294967296") ∧
      (ofJson (.object longMembers)).FollowsLiteral .endLine (Text.utf8 "4294967296") ∧
        (ofJson (.object longMembers)).convert =
          .error (.invalid "json object" (.coordinate .endLine 4294967296)) := by
  have follows := followsLiteral_of_literalAt literalAt_longText
  have digits : (Text.utf8 "4294967296").all Json.Byte.isDigit = true := by decide
  refine ⟨literalAt_longText, follows, ?_⟩
  apply follows.outOfRange 4294967296
  · intro byte member
    exact .inr (List.all_eq_true.mp digits byte member)
  · decide
  · decide

end Payload

end IssueReport
