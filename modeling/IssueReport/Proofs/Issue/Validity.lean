import IssueReport.Proofs.Issue.Printing
import Mathlib.Data.List.Forall2
/-!
What makes an issue. Nine values do exactly if they are valid, and the issue has just these values;
values that are not are rejected for the first check that they fail.
A text makes one if it holds nine valid values; where it is the text of a JSON value, they are
members of an object, each named once, or stand in an array in the order of the contract.
-/

namespace IssueReport

/-- The values that make an issue. The type, the name and the path are free. -/
structure IssueParts.Valid (parts : IssueParts) : Prop where
  startLine : 0 ≤ parts.startLine ∧ parts.startLine ≤ 4294967295
  startLineOffset : 0 ≤ parts.startLineOffset ∧ parts.startLineOffset ≤ 4294967295
  endLine : 0 ≤ parts.endLine ∧ parts.endLine ≤ 4294967295
  endLineOffset : 0 ≤ parts.endLineOffset ∧ parts.endLineOffset ≤ 4294967295
  ordered : parts.startLine < parts.endLine ∨
    parts.startLine = parts.endLine ∧ parts.startLineOffset ≤ parts.endLineOffset
  ruleId : parts.ruleId ≠ ""
  message : parts.message ≠ ""

namespace Issue

/-! ### Building -/

theorem valid_toParts (issue : Issue) : issue.toParts.Valid := by
  have limit : greatestCoordinate = 4294967295 := rfl
  obtain ⟨startLine, startLineOffset⟩ := issue.start_bounded
  obtain ⟨endLine, endLineOffset⟩ := issue.finish_bounded
  have ordered : issue.start.line < issue.finish.line ∨
      issue.start.line = issue.finish.line ∧ issue.start.offset ≤ issue.finish.offset :=
    issue.start_le_finish
  rw [limit] at startLine startLineOffset endLine endLineOffset
  constructor
  case ruleId => exact issue.ruleId_ne_empty
  case message => exact issue.message_ne_empty
  all_goals
    simp only [toParts]
    omega

theorem val_of_coordinate {accessor : Accessor} {value : Int}
    {found : { coordinate : Nat // coordinate ≤ greatestCoordinate }}
    (checked : coordinate accessor value = .ok found) : (found.val : Int) = value := by
  unfold coordinate at checked
  split at checked
  · rename_i inRange
    cases checked
    exact Int.toNat_of_nonneg inRange.1
  · cases checked

theorem toParts_of_ofParts {parts : IssueParts} {issue : Issue}
    (built : ofParts parts = .ok issue) : issue.toParts = parts := by
  unfold ofParts at built
  obtain ⟨startLine, hasStartLine, built⟩ := outcome_bind_eq_ok.mp built
  obtain ⟨startLineOffset, hasStartLineOffset, built⟩ := outcome_bind_eq_ok.mp built
  obtain ⟨endLine, hasEndLine, built⟩ := outcome_bind_eq_ok.mp built
  obtain ⟨endLineOffset, hasEndLineOffset, built⟩ := outcome_bind_eq_ok.mp built
  split at built
  · split at built
    · cases built
    · split at built
      · cases built
      · cases built
        simp only [toParts, val_of_coordinate hasStartLine, val_of_coordinate hasStartLineOffset,
          val_of_coordinate hasEndLine, val_of_coordinate hasEndLineOffset]
  · cases built

theorem exists_toParts {parts : IssueParts} (valid : parts.Valid) :
    ∃ issue : Issue, issue.toParts = parts := by
  have limit : greatestCoordinate = 4294967295 := rfl
  obtain ⟨startLine, startLineOffset, endLine, endLineOffset, ordered, ruleId, message⟩ := valid
  have start : Position.Bounded ⟨parts.startLine.toNat, parts.startLineOffset.toNat⟩ := by
    simp only [Position.Bounded]
    omega
  have finish : Position.Bounded ⟨parts.endLine.toNat, parts.endLineOffset.toNat⟩ := by
    simp only [Position.Bounded]
    omega
  have inOrder : parts.startLine.toNat < parts.endLine.toNat ∨
      parts.startLine.toNat = parts.endLine.toNat ∧
        parts.startLineOffset.toNat ≤ parts.endLineOffset.toNat := by
    omega
  refine ⟨⟨_, _, parts.ruleId, parts.message, parts.issueType, parts.fileName,
    parts.reportedFilePath, start, finish, inOrder, ruleId, message⟩, ?_⟩
  simp only [toParts, Int.toNat_of_nonneg startLine.1, Int.toNat_of_nonneg startLineOffset.1,
    Int.toNat_of_nonneg endLine.1, Int.toNat_of_nonneg endLineOffset.1]

/-- The issue that nine values make has these values, and they are valid. -/
theorem ofParts_eq_ok {parts : IssueParts} {issue : Issue} :
    ofParts parts = .ok issue ↔ parts.Valid ∧ issue.toParts = parts := by
  constructor
  · intro built
    have same := toParts_of_ofParts built
    rw [← same]
    exact ⟨issue.valid_toParts, rfl⟩
  · rintro ⟨-, same⟩
    rw [← same, ofParts_toParts]

/-- Valid values make an issue. -/
theorem exists_ofParts {parts : IssueParts} (valid : parts.Valid) :
    ∃ issue, ofParts parts = .ok issue := by
  obtain ⟨issue, same⟩ := exists_toParts valid
  exact ⟨issue, ofParts_eq_ok.mpr ⟨valid, same⟩⟩

end Issue

/-! ### Checks that fail -/

namespace IssueParts

def outOfRange (accessor : Accessor) (value : Int) : List InvalidIssue :=
  if 0 ≤ value ∧ value ≤ 4294967295 then [] else [.coordinate accessor value]

def violations (parts : IssueParts) : List InvalidIssue :=
  List.flatten [
    outOfRange .startLine parts.startLine,
    outOfRange .startLineOffset parts.startLineOffset,
    outOfRange .endLine parts.endLine,
    outOfRange .endLineOffset parts.endLineOffset,
    if parts.startLine < parts.endLine ∨
        parts.startLine = parts.endLine ∧ parts.startLineOffset ≤ parts.endLineOffset then []
      else [.reversed parts.startLine.toNat parts.startLineOffset.toNat parts.endLine.toNat
        parts.endLineOffset.toNat],
    if parts.ruleId = "" then [.empty .ruleId] else [],
    if parts.message = "" then [.empty .message] else []]

theorem violations_eq_nil {parts : IssueParts} : parts.violations = [] ↔ parts.Valid := by
  unfold violations outOfRange
  simp only [List.flatten_eq_nil_iff, List.forall_mem_cons, ite_eq_left_iff, ite_eq_right_iff,
    List.cons_ne_nil, imp_false, not_not, List.not_mem_nil, false_imp_iff, implies_true, and_true]
  constructor
  · intro ⟨startLine, startLineOffset, endLine, endLineOffset, ordered, ruleId, message⟩
    exact ⟨startLine, startLineOffset, endLine, endLineOffset, ordered, ruleId, message⟩
  · intro ⟨startLine, startLineOffset, endLine, endLineOffset, ordered, ruleId, message⟩
    exact ⟨startLine, startLineOffset, endLine, endLineOffset, ordered, ruleId, message⟩

end IssueParts

namespace Issue

open IssueParts (outOfRange)

theorem coordinate_bind_eq_error {Value : Type} {accessor : Accessor} {value : Int}
    {next : { coordinate : Nat // coordinate ≤ greatestCoordinate } → Except InvalidIssue Value}
    {fault : InvalidIssue} {others : List InvalidIssue}
    (onward : 0 ≤ value ∧ value ≤ 4294967295 → ∀ bounded,
      next ⟨value.toNat, bounded⟩ = .error fault ↔ others.head? = some fault) :
    (coordinate accessor value >>= next) = .error fault ↔
      (outOfRange accessor value ++ others).head? = some fault := by
  have limit : (greatestCoordinate : Int) = 4294967295 := rfl
  unfold outOfRange coordinate
  by_cases inRange : 0 ≤ value ∧ value ≤ 4294967295
  · have checked : 0 ≤ value ∧ value ≤ greatestCoordinate := by omega
    rw [dif_pos checked, if_pos inRange, List.nil_append]
    exact onward inRange _
  · have unchecked : ¬ (0 ≤ value ∧ value ≤ greatestCoordinate) := by omega
    rw [dif_neg unchecked, if_neg inRange, List.singleton_append, List.head?_cons,
      Option.some.injEq]
    change Except.error _ = Except.error fault ↔ _
    rw [Except.error.injEq]

/-- Of the checks that fail, the first is reported. -/
theorem ofParts_eq_error {parts : IssueParts} {fault : InvalidIssue} :
    ofParts parts = .error fault ↔ parts.violations.head? = some fault := by
  unfold ofParts IssueParts.violations
  simp only [List.flatten_cons]
  apply coordinate_bind_eq_error
  intro startLine _
  apply coordinate_bind_eq_error
  intro startLineOffset _
  apply coordinate_bind_eq_error
  intro endLine _
  apply coordinate_bind_eq_error
  intro endLineOffset _
  have sameOrder : Position.mk parts.startLine.toNat parts.startLineOffset.toNat ≤
      Position.mk parts.endLine.toNat parts.endLineOffset.toNat ↔
        parts.startLine < parts.endLine ∨
          parts.startLine = parts.endLine ∧ parts.startLineOffset ≤ parts.endLineOffset := by
    change (_ < _ ∨ _ = _ ∧ _ ≤ _) ↔ _
    dsimp only
    omega
  simp only [sameOrder]
  by_cases ordered : parts.startLine < parts.endLine ∨
      parts.startLine = parts.endLine ∧ parts.startLineOffset ≤ parts.endLineOffset
  · rw [dif_pos ordered, if_pos ordered]
    by_cases noRule : parts.ruleId = ""
    · rw [dif_pos noRule, if_pos noRule]
      simp
    · rw [dif_neg noRule, if_neg noRule]
      by_cases noMessage : parts.message = ""
      · simp [noMessage]
      · simp [noMessage]
  · rw [dif_neg ordered, if_neg ordered]
    simp

end Issue

/-! ### Values in a text -/

def IssueParts.parse (text : Json.Input) : Except (Json.ReadError InvalidIssue) IssueParts :=
  Json.readAll IssueParts.shape.read text

/-- Nine values stand in a JSON value: as members of an object, or in an array in the order of the
contract. -/
inductive IssueParts.StandIn (parts : IssueParts) : Json → Prop
  | members {members : List (String × Json)}
      (answers : (Payload.ofJson (.object members)).Answers parts) : StandIn parts (.object members)
  | values {values : List Json}
      (inOrder : List.Forall₂
        (fun accessor value =>
          Payload.observeMember accessor.name value = .ok (Payload.observePart parts accessor))
        Accessor.all values) :
      StandIn parts (.array values)

namespace Issue

open Json (settle)

/-- An array of values is decoded if each answers the accessor in its place. -/
theorem forall₂_of_decodeParts {values : List Json} {parts : IssueParts}
    (decoded : decodeParts (.array values) = .ok parts) :
    List.Forall₂
      (fun accessor value =>
        Payload.observeMember accessor.name value = .ok (Payload.observePart parts accessor))
      Accessor.all (values.map settle) := by
  change IssueParts.shape.decodeArray IssueDraft.slots.take values = _ at decoded
  obtain ⟨atMost, optional⟩ := IssueParts.shape.length_of_decodeArray IssueDraft.slots.take decoded
  -- no field may be left without a value, so there are as many values as accessors
  have atLeast : (@IssueParts.shape InvalidIssue).fields.length ≤ values.length := by
    apply List.drop_eq_nil_iff.mp
    apply List.eq_nil_iff_forall_not_mem.mpr
    intro field member
    obtain ⟨accessor, -, same⟩ := List.mem_map.mp (List.mem_of_mem_drop member)
    have left := optional field member
    rw [← same] at left
    cases left
  have paired : values.length = Accessor.all.length := Nat.le_antisymm atMost atLeast
  obtain ⟨valueOf, same⟩ := exists_map_eq (by decide : Accessor.all.Nodup) paired fun _ => .null
  rw [same, IssueParts.decodeArray_eq_decodeObject,
    IssueParts.decodeObject_eq_ok (count_name_all valueOf)] at decoded
  rw [same, List.map_map, List.forall₂_map_right_iff]
  apply List.forall₂_same.mpr
  intro accessor _
  obtain ⟨value, held, observed⟩ := decoded accessor
  rw [member?_all] at held
  cases held
  exact (observeMember_settle _ _).trans observed

theorem standIn_settle {written : Json} {parts : IssueParts}
    (decoded : decodeParts written = .ok parts) : parts.StandIn (settle written) := by
  cases written with
  | null | boolean | number | text => cases decoded
  | object members =>
      have unrepeated := IssueDraft.slots.unrepeated_of_decodeObject decoded
      exact .members ((decodeParts_object_eq_ok unrepeated).mp decoded)
  | array values =>
      rw [settle, Json.settleItems_eq_map]
      exact .values (forall₂_of_decodeParts decoded)

/-- The values that are read from the text of a JSON value stand in it. -/
theorem standIn_of_parsed {text : Json.Input} {value : Json} {parts : IssueParts}
    (found : IssueParts.parse text = .ok parts)
    (parsed : Json.parse text = .ok value) : parts.StandIn value := by
  obtain ⟨written, read, same⟩ := Json.parse_eq_ok.mp parsed
  have decodes : Json.Decodes Json.depthLimit (@IssueParts.shape InvalidIssue).read decodeParts :=
    IssueDraft.slots.decodes_read rfl (IssueDraft.decodes_read 126)
  rw [IssueParts.parse, decodes.readAll read] at found
  rw [← same]
  exact standIn_settle found

theorem parse_eq_ok {text : Json.Input} {issue : Issue} :
    parse text = .ok issue ↔
      ∃ parts, IssueParts.parse text = .ok parts ∧ ofParts parts = .ok issue := by
  unfold parse read IssueParts.parse
  simp only [Json.readAll_eq_ok, Json.andThen_eq_ok]
  constructor
  · rintro ⟨rest, ⟨parts, between, partsRead, built⟩, ended⟩
    cases checked : ofParts parts with
    | error fault =>
        rw [checked] at built
        cases built
    | ok other =>
        rw [checked] at built
        cases built
        exact ⟨parts, ⟨rest, partsRead, ended⟩, checked⟩
  · rintro ⟨parts, ⟨rest, partsRead, ended⟩, built⟩
    refine ⟨rest, ⟨parts, rest, partsRead, ?_⟩, ended⟩
    rw [built]

end Issue

end IssueReport
