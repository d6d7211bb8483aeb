import IssueReport.Collection
import IssueReport.Proofs.Issue.Validity
/-!
Where the issues of a collection come from. Each way to an issue first finds nine values, and the
issue comes to be exactly if these are valid. What is done to a collection adds such issues at its
end and changes nothing else.
-/

namespace IssueReport

namespace Issue

/-- The ways to an issue. -/
inductive Origin where
  | parts (parts : IssueParts)
  | text (input : Json.Input)
  | payload (payload : Payload)
  | finding (finding : Finding) (document : Document)

namespace Origin

def issue? : Origin → Option Issue
  | .parts given => (ofParts given).toOption
  | .text input => (parse input).toOption
  | .payload source => source.convert.toOption
  | .finding found document => (ofParts (found.inDocument document)).toOption

/-- The nine values that it gives. Those of a text stand in its JSON value, if it has one: a text
that is no JSON value can still hold an issue beside a member that is passed over. -/
def Gives (origin : Origin) (values : IssueParts) : Prop :=
  match origin with
  | .parts given => given = values
  | .text input =>
      IssueParts.parse input = .ok values ∧
        ∀ value, Json.parse input = .ok value → values.StandIn value
  | .payload source => source.Answers values
  | .finding found document => found.inDocument document = values

theorem issue?_eq_some {origin : Origin} {issue : Issue} :
    origin.issue? = some issue ↔ ∃ parts, origin.Gives parts ∧ ofParts parts = .ok issue := by
  cases origin with
  | parts given => simp [issue?, Gives, outcome_toOption_eq_some]
  | finding finding document => simp [issue?, Gives, outcome_toOption_eq_some]
  | payload payload => exact outcome_toOption_eq_some.trans Payload.convert_eq_ok
  | text input =>
      rw [issue?, outcome_toOption_eq_some, parse_eq_ok]
      apply exists_congr
      intro parts
      constructor
      · rintro ⟨found, built⟩
        exact ⟨⟨found, fun _ parsed => standIn_of_parsed found parsed⟩, built⟩
      · rintro ⟨⟨found, -⟩, built⟩
        exact ⟨found, built⟩

end Origin

/-- The issue has the values that an origin gives, and they are valid. -/
def ComesFrom (issue : Issue) (origin : Origin) : Prop :=
  ∃ parts, origin.Gives parts ∧ parts.Valid ∧ issue.toParts = parts

theorem comesFrom_iff {issue : Issue} {origin : Origin} :
    issue.ComesFrom origin ↔ origin.issue? = some issue := by
  simp only [ComesFrom, Origin.issue?_eq_some, ofParts_eq_ok]

/-- An issue comes of an origin exactly if it gives valid values. -/
theorem Origin.exists_issue_iff {origin : Origin} :
    (∃ issue, origin.issue? = some issue) ↔ ∃ parts, origin.Gives parts ∧ parts.Valid := by
  constructor
  · rintro ⟨issue, found⟩
    obtain ⟨parts, gives, valid, -⟩ := comesFrom_iff.mpr found
    exact ⟨parts, gives, valid⟩
  · rintro ⟨parts, gives, valid⟩
    obtain ⟨issue, built⟩ := exists_ofParts valid
    exact ⟨issue, issue?_eq_some.mpr ⟨parts, gives, built⟩⟩

end Issue

namespace Collection

open Issue (Origin)

inductive Operation where
  | push (origin : Origin)
  | append (origins : List Origin)
  | add (parts : IssueParts)
  | report (finding : Finding) (document : Document)

def Operation.origins : Operation → List Origin
  | .push origin => [origin]
  | .append origins => origins
  | .add parts => [.parts parts]
  | .report finding document => [.finding finding document]

def perform (collection : Collection) : Operation → Collection
  | .push origin => (origin.issue?.map collection.push).getD collection
  | .append origins => collection.append (origins.filterMap Origin.issue?)
  | .add parts => (collection.add parts).toOption.getD collection
  | .report finding document => (collection.report finding document).toOption.getD collection

theorem issues_add (collection : Collection) (parts : IssueParts) :
    ((collection.add parts).toOption.getD collection).issues =
      collection.issues ++ (Issue.ofParts parts).toOption.toList := by
  unfold add
  cases Issue.ofParts parts with
  | error fault => exact (List.append_nil _).symm
  | ok issue => rfl

/-- An operation adds the issues of its origins. -/
theorem issues_perform (collection : Collection) (operation : Operation) :
    (collection.perform operation).issues =
      collection.issues ++ operation.origins.filterMap Origin.issue? := by
  have single : ∀ origin : Origin, [origin].filterMap Origin.issue? = origin.issue?.toList := by
    intro origin
    cases found : origin.issue? <;> simp [found]
  cases operation with
  | append origins => rfl
  | add parts =>
      rw [Operation.origins, single]
      exact collection.issues_add parts
  | report finding document =>
      rw [Operation.origins, single]
      exact collection.issues_add (finding.inDocument document)
  | push origin =>
      rw [Operation.origins, single, perform]
      cases origin.issue? with
      | none => exact (List.append_nil _).symm
      | some issue => rfl

def performAll (collection : Collection) (operations : List Operation) : Collection :=
  operations.foldl perform collection

/-- The issues of a collection are those of the origins, in the order of the operations. -/
theorem issues_performAll (collection : Collection) (operations : List Operation) :
    (collection.performAll operations).issues =
      collection.issues ++ (operations.flatMap Operation.origins).filterMap Origin.issue? := by
  unfold performAll
  induction operations generalizing collection with
  | nil => exact (List.append_nil _).symm
  | cons operation operations ih =>
      rw [List.foldl_cons, ih, issues_perform, List.flatMap_cons, List.filterMap_append,
        List.append_assoc]

theorem mem_performAll {operations : List Operation} {issue : Issue} :
    issue ∈ (empty.performAll operations).issues ↔
      ∃ origin ∈ operations.flatMap Operation.origins, issue.ComesFrom origin := by
  simp only [issues_performAll, empty, List.nil_append, List.mem_filterMap, Issue.comesFrom_iff]

/-! ### Growing -/

/-- A collection comes of another by operations on origins of a kind. -/
def GrowsFrom (kind : Origin → Prop) (before after : Collection) : Prop :=
  ∃ operations : List Operation, before.performAll operations = after ∧
    ∀ operation ∈ operations, ∀ origin ∈ operation.origins, kind origin

namespace GrowsFrom

variable {kind wider : Origin → Prop} {before between after : Collection}

theorem refl (collection : Collection) : GrowsFrom kind collection collection :=
  ⟨[], rfl, fun _ impossible => by cases impossible⟩

theorem trans (first : GrowsFrom kind before between) (second : GrowsFrom kind between after) :
    GrowsFrom kind before after := by
  obtain ⟨early, earlyMakes, earlyKind⟩ := first
  obtain ⟨late, lateMakes, lateKind⟩ := second
  refine ⟨early ++ late, ?_, ?_⟩
  · rw [performAll, List.foldl_append]
    change (before.performAll early).performAll late = after
    rw [earlyMakes, lateMakes]
  · intro operation member
    rcases List.mem_append.mp member with isEarly | isLate
    · exact earlyKind operation isEarly
    · exact lateKind operation isLate

theorem mono (grows : GrowsFrom kind before after) (wide : ∀ origin, kind origin → wider origin) :
    GrowsFrom wider before after := by
  obtain ⟨operations, makes, kinds⟩ := grows
  exact ⟨operations, makes, fun operation member origin inside =>
    wide origin (kinds operation member origin inside)⟩

theorem single (collection : Collection) (operation : Operation)
    (kinds : ∀ origin ∈ operation.origins, kind origin) :
    GrowsFrom kind collection (collection.perform operation) := by
  refine ⟨[operation], rfl, ?_⟩
  intro other member
  rw [List.mem_singleton.mp member]
  exact kinds

/-- What has grown from nothing holds issues of the kind alone. -/
theorem comesFrom (grows : GrowsFrom kind empty after) {issue : Issue}
    (member : issue ∈ after.issues) : ∃ origin, kind origin ∧ issue.ComesFrom origin := by
  obtain ⟨operations, makes, kinds⟩ := grows
  rw [← makes] at member
  obtain ⟨origin, inside, comes⟩ := mem_performAll.mp member
  obtain ⟨operation, listed, among⟩ := List.mem_flatMap.mp inside
  exact ⟨origin, kinds operation listed origin among, comes⟩

end GrowsFrom

end Collection

end IssueReport
