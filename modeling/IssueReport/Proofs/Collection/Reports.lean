import IssueReport.Collection
import IssueReport.Proofs.Diagnostic.Forms
import IssueReport.Proofs.Issue.Printing
/-!
Reports that are read again. The report of a collection is one array with a line end after it; a
reader of issues finds in it the issues of the collection in their order. So a report tells which
collection it was written for, and the text of an issue tells which issue.
-/

namespace IssueReport

namespace Json

/-- An array is written between its brackets. -/
theorem write_array (spacing : Spacing) (level : Nat) (items : List Json) :
    ∃ body, write spacing level (.array items) = '[' :: body ++ [']'] := by
  cases items with
  | nil => exact ⟨[], rfl⟩
  | cons item items =>
      exact ⟨spacing.lineBreak (level + 1) ++ write spacing (level + 1) item ++
        writeItems spacing (level + 1) items ++ spacing.lineBreak level, rfl⟩

end Json

namespace Issue

theorem decodeParts_toJson (issue : Issue) : decodeParts issue.toJson = .ok issue.toParts := by
  have answers := answers_toJson issue
  rw [toJson_eq_object] at answers ⊢
  apply (decodeParts_object_eq_ok (count_name_all issue.written)).mpr
  exact answers

theorem decode_toJson (issue : Issue) : decode issue.toJson = .ok issue :=
  decode_eq_ok.mpr ⟨issue.toParts, decodeParts_toJson issue, ofParts_toParts issue⟩

theorem parse_toText (spacing : Json.Spacing) (issue : Issue) :
    parse (Text.utf8 (Json.toText spacing issue.toJson)) = .ok issue := by
  have written := @Json.parseWritten_write spacing _ (printable_toJson issue 126) 0 []
    (fun _ impossible => by cases impossible)
  rw [List.append_nil] at written
  rw [Json.toText, Text.utf8_ofList]
  exact (decodes_read.readAll written).trans (decode_toJson issue)

end Issue

namespace Collection

def read : Json.Reader InvalidIssue (List Issue) :=
  Json.readList Issue.read

def parse (text : Json.Input) : Except (Json.ReadError InvalidIssue) (List Issue) :=
  Json.readAll read text

theorem decodes_read : Json.Decodes Json.depthLimit read (Json.decodeList Issue.decode) :=
  Json.decodes_readList (Issue.decodes_nested 125)

variable (collection : Collection)

theorem decode_toJson :
    Json.decodeList Issue.decode collection.toJson = .ok collection.issues := by
  apply outcome_mapM_eq_ok.mpr
  rw [List.forall₂_map_left_iff]
  exact List.forall₂_same.mpr fun issue _ => issue.decode_toJson

theorem printable_toJson : Json.Printable Json.depthLimit collection.toJson := by
  intro item present
  obtain ⟨issue, -, same⟩ := List.mem_map.mp present
  rw [← same]
  exact issue.printable_toJson 125

theorem settle_toJson : Json.settle collection.toJson = collection.toJson := by
  rw [toJson, Json.settle, Json.settleItems_eq_map, List.map_map]
  rfl

theorem parseWritten_reportText :
    Json.parseWritten (Text.utf8 collection.reportText) = .ok collection.toJson := by
  have lineEnd : ∀ byte ∈ Text.encode ['\n'], Json.Byte.isBlank byte = true := by
    intro byte present
    rw [List.mem_singleton.mp present]
    rfl
  have text : collection.reportText =
      String.ofList (Json.write .indented 0 collection.toJson ++ ['\n']) := by
    rw [String.ofList_append]
    rfl
  rw [text, Text.utf8_ofList, Text.encode_append]
  exact Json.parseWritten_write collection.printable_toJson 0 lineEnd

theorem parse_reportText :
    parse (Text.utf8 collection.reportText) = .ok collection.issues :=
  (decodes_read.readAll collection.parseWritten_reportText).trans collection.decode_toJson

/-- The report is one array and a line end, and the issues of the collection are read back from
it. -/
structure ReadsBack (collection : Collection) : Prop where
  bracketed : ∃ body, collection.render.toList = '[' :: body ++ [']']
  ended : collection.reportText = collection.render ++ "\n"
  array : Json.parse (Text.utf8 collection.reportText) =
    .ok (.array (collection.issues.map Issue.toJson))
  issues : parse (Text.utf8 collection.reportText) = .ok collection.issues

/-- Reports and the texts of issues are read back, and equal reports are those of equal
collections. -/
theorem reports_readBack :
    (∀ collection : Collection, collection.ReadsBack) ∧
      (∀ issue : Issue, Issue.parse (Text.utf8 issue.compactText) = .ok issue) ∧
        ∀ left right : Collection, left.reportText = right.reportText ↔ left = right := by
  refine ⟨?_, Issue.parse_toText .compact, ?_⟩
  · intro collection
    refine ⟨?_, rfl, ?_, collection.parse_reportText⟩
    · obtain ⟨body, written⟩ := Json.write_array .indented 0 (collection.issues.map Issue.toJson)
      exact ⟨body, String.toList_ofList.trans written⟩
    · exact Json.parse_eq_ok.mpr
        ⟨_, collection.parseWritten_reportText, collection.settle_toJson⟩
  · intro left right
    constructor
    · intro same
      have issues := left.parse_reportText
      rw [same, right.parse_reportText, Except.ok.injEq] at issues
      cases left
      cases right
      exact congrArg Collection.mk issues.symm
    · exact congrArg reportText

end Collection

end IssueReport
