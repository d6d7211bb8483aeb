import IssueReport.Collection
import IssueReport.Proofs.Issue.Validity
/-!
Writing to a collection. A check reports what it has found in a document, and issues that were built
elsewhere are pushed, in any order. Each write is answered; one that is answered with an error leaves
no trace, and the collection holds the accepted issues in the order of their writes.
-/

namespace IssueReport

structure Issue.Tells (issue : Issue) (finding : Finding) (document : Document) : Prop where
  startLine : issue.start.line = finding.startLine
  startLineOffset : issue.start.offset = finding.startLineOffset
  endLine : issue.finish.line = finding.endLine
  endLineOffset : issue.finish.offset = finding.endLineOffset
  ruleId : issue.ruleId = finding.ruleId
  message : issue.message = finding.message
  issueType : issue.issueType = finding.issueType
  fileName : issue.fileName = document.name
  reportedFilePath : issue.reportedFilePath = document.path

theorem Issue.tells_iff {issue : Issue} {finding : Finding} {document : Document} :
    issue.Tells finding document ↔ issue.toParts = finding.inDocument document := by
  rw [toParts, Finding.inDocument, IssueParts.mk.injEq]
  constructor
  · intro tells
    exact ⟨tells.startLine, tells.startLineOffset, tells.endLine, tells.endLineOffset, tells.ruleId,
      tells.message, tells.issueType, tells.fileName, tells.reportedFilePath⟩
  · intro same
    obtain ⟨startLine, startLineOffset, endLine, endLineOffset, ruleId, message, issueType,
      fileName, reportedFilePath⟩ := same
    exact ⟨startLine, startLineOffset, endLine, endLineOffset, ruleId, message, issueType,
      fileName, reportedFilePath⟩

namespace Collection

inductive Write where
  | report (finding : Finding) (document : Document)
  | push (issue : Issue)

def write (collection : Collection) : Write → Except InvalidIssue Unit × Collection
  | .report finding document =>
      match collection.report finding document with
      | .ok next => (.ok (), next)
      | .error fault => (.error fault, collection)
  | .push issue => (.ok (), collection.push issue)

def writeAll (collection : Collection) :
    List Write → List (Except InvalidIssue Unit) × Collection
  | [] => ([], collection)
  | write :: writes =>
      let (answer, next) := collection.write write
      let (answers, last) := writeAll next writes
      (answer :: answers, last)

namespace Write

def Gives : Write → Issue → Prop
  | .report finding document, issue =>
      (finding.inDocument document).Valid ∧ issue.Tells finding document
  | .push pushed, issue => pushed = issue

/-- The first check that a write fails. -/
def Fails : Write → InvalidIssue → Prop
  | .report finding document, fault =>
      (finding.inDocument document).violations.head? = some fault
  | .push _, _ => False

/-- A write of which an issue comes appends it; any other leaves the collection as it was. -/
inductive Takes (write : Write) (before : Collection) :
    Except InvalidIssue Unit → Collection → Prop
  | accepted {issue : Issue} (gives : write.Gives issue) :
      Takes write before (.ok ()) ⟨before.issues ++ [issue]⟩
  | rejected {fault : InvalidIssue} (fails : write.Fails fault) :
      Takes write before (.error fault) before

theorem gives_report_iff {finding : Finding} {document : Document} {issue : Issue} :
    (Write.report finding document).Gives issue ↔
      Issue.ofParts (finding.inDocument document) = .ok issue := by
  rw [Gives, Issue.tells_iff, Issue.ofParts_eq_ok]

theorem takes_write (collection : Collection) (write : Write) :
    write.Takes collection (collection.write write).1 (collection.write write).2 := by
  cases write with
  | push issue => exact .accepted rfl
  | report finding document =>
      cases built : Issue.ofParts (finding.inDocument document) with
      | ok issue =>
          have reported : collection.report finding document = .ok (collection.push issue) := by
            rw [Collection.report, add, built]
            rfl
          simp only [Collection.write, reported]
          exact .accepted (gives_report_iff.mpr built)
      | error fault =>
          have refused : collection.report finding document = .error fault := by
            rw [Collection.report, add, built]
            rfl
          simp only [Collection.write, refused]
          exact .rejected (Issue.ofParts_eq_error.mp built)

theorem Gives.unique {write : Write} {first second : Issue} (givesFirst : write.Gives first)
    (givesSecond : write.Gives second) : first = second := by
  cases write with
  | push issue => exact givesFirst.symm.trans givesSecond
  | report finding document =>
      rw [gives_report_iff] at givesFirst givesSecond
      rw [givesFirst] at givesSecond
      exact Except.ok.inj givesSecond

theorem Gives.not_fails {write : Write} {issue : Issue} (gives : write.Gives issue)
    (fault : InvalidIssue) : ¬ write.Fails fault := by
  intro fails
  cases write with
  | push issue => exact fails
  | report finding document =>
      have built := gives_report_iff.mp gives
      rw [Issue.ofParts_eq_error.mpr fails] at built
      cases built

inductive Accepts : List Write → List Issue → Prop
  | none : Accepts [] []
  | accepted {write : Write} {writes : List Write} {issue : Issue} {issues : List Issue}
      (gives : write.Gives issue) (rest : Accepts writes issues) :
      Accepts (write :: writes) (issue :: issues)
  | rejected {write : Write} {writes : List Write} {fault : InvalidIssue} {issues : List Issue}
      (fails : write.Fails fault) (rest : Accepts writes issues) : Accepts (write :: writes) issues

theorem Accepts.unique {writes : List Write} {first second : List Issue}
    (acceptsFirst : Accepts writes first) (acceptsSecond : Accepts writes second) :
    first = second := by
  induction acceptsFirst generalizing second with
  | none =>
      cases acceptsSecond
      rfl
  | @accepted write writes issue issues gives _ ih =>
      cases acceptsSecond with
      | accepted otherGives rest => rw [gives.unique otherGives, ih rest]
      | rejected fails _ => exact absurd fails (gives.not_fails _)
  | @rejected write writes fault issues fails _ ih =>
      cases acceptsSecond with
      | accepted gives _ => exact absurd fails (gives.not_fails fault)
      | rejected _ rest => exact ih rest

end Write

/-! ### Several writes -/

theorem writeAll_append (collection : Collection) (first second : List Write) :
    collection.writeAll (first ++ second) =
      ((collection.writeAll first).1 ++ ((collection.writeAll first).2.writeAll second).1,
        ((collection.writeAll first).2.writeAll second).2) := by
  induction first generalizing collection with
  | nil => rfl
  | cons write first ih =>
      simp only [List.cons_append, writeAll, ih]

theorem length_answers (collection : Collection) (writes : List Write) :
    (collection.writeAll writes).1.length = writes.length := by
  induction writes generalizing collection with
  | nil => rfl
  | cons write writes ih =>
      rw [writeAll, List.length_cons, ih, List.length_cons]

theorem accepts_writeAll (collection : Collection) (writes : List Write) :
    ∃ issues, Write.Accepts writes issues ∧
      (collection.writeAll writes).2.issues = collection.issues ++ issues := by
  -- from any collection, since each write starts from what the one before it has left
  induction writes generalizing collection with
  | nil => exact ⟨[], .none, (List.append_nil _).symm⟩
  | cons write writes ih =>
      obtain ⟨issues, accepts, final⟩ := ih (collection.write write).2
      have taken := Write.takes_write collection write
      rw [writeAll]
      generalize collection.write write = outcome at taken final ⊢
      obtain ⟨answer, next⟩ := outcome
      cases taken with
      | @accepted issue gives =>
          refine ⟨issue :: issues, .accepted gives accepts, ?_⟩
          rw [final, List.append_assoc, List.singleton_append]
      | rejected fails => exact ⟨issues, .rejected fails accepts, final⟩

structure Collects (collection : Collection) (writes : List Write) : Prop where
  /-- Each write is answered in its place, and appends its issue or changes nothing. -/
  steps : ∀ before write after, writes = before ++ write :: after →
    ∃ answer, (collection.writeAll writes).1[before.length]? = some answer ∧
      write.Takes (collection.writeAll before).2 answer
        (collection.writeAll (before ++ [write])).2
  answers : (collection.writeAll writes).1.length = writes.length
  /-- What is in the collection at one time stays in its place. -/
  kept : ∀ before after, writes = before ++ after →
    (collection.writeAll before).2.issues <+: (collection.writeAll writes).2.issues
  /-- In the end it holds what it held before and the accepted issues, and nothing else. -/
  accepted : ∃ issues, (collection.writeAll writes).2.issues = collection.issues ++ issues ∧
    ∀ others, Write.Accepts writes others ↔ others = issues

theorem collects_writes (collection : Collection) (writes : List Write) :
    collection.Collects writes := by
  refine ⟨?_, collection.length_answers writes, ?_, ?_⟩
  · intro before write after split
    have taken := Write.takes_write (collection.writeAll before).2 write
    have answered := collection.length_answers before
    refine ⟨((collection.writeAll before).2.write write).1, ?_, ?_⟩
    · rw [split, writeAll_append, List.getElem?_append_right (Nat.le_of_eq answered), answered,
        Nat.sub_self]
      rfl
    · rw [writeAll_append]
      exact taken
  · intro before after split
    obtain ⟨issues, -, final⟩ := accepts_writeAll (collection.writeAll before).2 after
    rw [split, writeAll_append, final]
    exact List.prefix_append _ _
  · obtain ⟨issues, accepts, final⟩ := accepts_writeAll collection writes
    refine ⟨issues, final, ?_⟩
    intro others
    constructor
    · intro acceptsOthers
      exact acceptsOthers.unique accepts
    · intro same
      rw [same]
      exact accepts

end Collection

end IssueReport
