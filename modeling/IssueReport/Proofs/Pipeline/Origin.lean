import IssueReport.Proofs.Collection.Origin
import IssueReport.Proofs.Pipeline.Isolation
/-!
Where the issues of a run come from. Every step of a run makes the collection grow, if at all, from
the local finding in the document that is visited and from the payloads in the diagnostics of the
project. So no issue comes to be that was not made of nine valid values, whatever the plugins
answer and in whatever state the walk is.
-/

namespace IssueReport.Pipeline

open Issue (Origin)

/-- Where a run takes issues from, if it knows diagnostics of the whole project. -/
inductive Draws (pipeline : Pipeline) (whole : Option (List Diagnostic)) : Origin → Prop
  | localCheck {document : Document} (wanted : pipeline.localCheck = true)
      (visited : document ∈ pipeline.walker.visited) :
      Draws pipeline whole (.finding localFinding document)
  | plugin {diagnostics : List Diagnostic} {payload : Payload} (known : whole = some diagnostics)
      (held : payload ∈ payloadsIn pipeline.code diagnostics) :
      Draws pipeline whole (.payload payload)

variable {pipeline : Pipeline}

theorem Draws.keep {whole later : Option (List Diagnostic)} {origin : Origin}
    (draws : pipeline.Draws whole origin)
    (kept : ∀ known, whole = some known → later = some known) : pipeline.Draws later origin := by
  cases draws with
  | localCheck wanted visited => exact .localCheck wanted visited
  | plugin known held => exact .plugin (kept _ known) held

/-! ### Steps -/

section Steps

variable {kind : Origin → Prop} {run : Run}

theorem grows_checkDocument (report : Report) {document : Document}
    (allowed : pipeline.localCheck = true → kind (.finding localFinding document)) :
    Collection.GrowsFrom kind report.issues (pipeline.checkDocument report document).issues := by
  cases wanted : pipeline.localCheck with
  | false =>
      simp only [checkDocument, wanted, Bool.false_eq_true, if_false]
      exact .refl _
  | true =>
      have performed : (pipeline.checkDocument report document).issues =
          report.issues.perform (.report localFinding document) := by
        simp only [checkDocument, wanted, if_true, Collection.perform, report_localFinding]
        rfl
      rw [performed]
      apply Collection.GrowsFrom.single
      intro origin member
      rw [List.mem_singleton.mp member]
      exact allowed wanted

theorem grows_scanDiagnostic {position : Nat} {diagnostic : Diagnostic}
    (allowed : ∀ payload ∈ payloadsIn pipeline.code [diagnostic], kind (.payload payload)) :
    Collection.GrowsFrom kind run.report.issues
      (pipeline.scanDiagnostic run position diagnostic).report.issues := by
  by_cases converted : diagnostic.code = pipeline.code → position ∈ run.converted
  · rw [scanDiagnostic_of_converted pipeline converted]
    exact .refl _
  · obtain ⟨coded, new⟩ := Classical.not_imp.mp converted
    rw [payloadsIn_cons, if_pos coded] at allowed
    have performed : (pipeline.scanDiagnostic run position diagnostic).report.issues =
        run.report.issues.perform
          (.append ((diagnostic.properties.filterMap Property.payload?).map .payload)) := by
      rw [scanDiagnostic_of_new pipeline new, if_pos coded, if_pos coded, Collection.perform,
        List.filterMap_map]
      simp only [Run.absorb, extraction, issues_eq_filterMap, payloadsOf_map_payload]
      rfl
    rw [performed]
    apply Collection.GrowsFrom.single
    intro origin member
    obtain ⟨payload, held, same⟩ := List.mem_map.mp member
    rw [← same]
    exact allowed payload (List.mem_append_left _ held)

theorem whole_scanDiagnostic (position : Nat) (diagnostic : Diagnostic) :
    (pipeline.scanDiagnostic run position diagnostic).walk.whole = run.walk.whole := by
  unfold scanDiagnostic
  split <;> rfl

theorem grows_scan {position : Nat} {diagnostics : List Diagnostic}
    (allowed : ∀ payload ∈ payloadsIn pipeline.code diagnostics, kind (.payload payload)) :
    Collection.GrowsFrom kind run.report.issues
      (pipeline.scan run position diagnostics).report.issues := by
  induction diagnostics generalizing run position with
  | nil => exact .refl _
  | cons diagnostic diagnostics ih =>
      rw [payloadsIn_eq_flatMap, List.flatMap_cons] at allowed
      rw [payloadsIn_eq_flatMap] at ih
      have first : ∀ payload ∈ payloadsIn pipeline.code [diagnostic], kind (.payload payload) :=
        fun payload held => allowed payload (List.mem_append_left _ held)
      exact (grows_scanDiagnostic first).trans
        (ih fun payload held => allowed payload (List.mem_append_right _ held))

theorem whole_scan (position : Nat) (diagnostics : List Diagnostic) :
    (pipeline.scan run position diagnostics).walk.whole = run.walk.whole := by
  induction diagnostics generalizing run position with
  | nil => rfl
  | cons diagnostic diagnostics ih => rw [scan, ih, whole_scanDiagnostic]

end Steps

/-! ### Visits -/

/-- After a visit the diagnostics of the project are known, and stay what they were. -/
theorem whole_visit (run : Run) (pair : Module × Document) :
    ∃ found, (pipeline.visit run pair).walk.whole = some found ∧
      ∀ known, run.walk.whole = some known → known = found := by
  simp only [visit, whole_scan, Walker.whole_projectDiagnostics]
  refine ⟨_, rfl, ?_⟩
  intro known earlier
  have kept : (pipeline.walker.compile pair.1 run.walk).2.whole = some known := by
    rw [Walker.whole_compile]
    exact earlier
  rw [Walker.projectDiagnostics_of_known kept]

theorem grows_visit (run : Run) {pair : Module × Document}
    (visited : pair.2 ∈ pipeline.walker.visited) :
    Collection.GrowsFrom (pipeline.Draws (pipeline.visit run pair).walk.whole) run.report.issues
      (pipeline.visit run pair).report.issues := by
  have checked : Collection.GrowsFrom (pipeline.Draws (pipeline.visit run pair).walk.whole)
      run.report.issues (pipeline.checkDocument run.report pair.2).issues :=
    grows_checkDocument run.report fun wanted => .localCheck wanted visited
  apply checked.trans
  simp only [visit, whole_scan, Walker.whole_projectDiagnostics]
  refine @grows_scan pipeline _ ⟨_, _, _⟩ 0 _ ?_
  intro payload held
  exact .plugin rfl held

/-- Visits only add to the collection, from what they draw on, and what is known of the project
stays known. -/
theorem grows_visits {pairs : List (Module × Document)} (run : Run)
    (visited : ∀ pair ∈ pairs, pair.2 ∈ pipeline.walker.visited) :
    Collection.GrowsFrom (pipeline.Draws (pairs.foldl pipeline.visit run).walk.whole)
        run.report.issues (pairs.foldl pipeline.visit run).report.issues ∧
      ∀ known, run.walk.whole = some known →
        (pairs.foldl pipeline.visit run).walk.whole = some known := by
  induction pairs generalizing run with
  | nil => exact ⟨.refl _, fun _ known => known⟩
  | cons pair pairs ih =>
      have first := grows_visit run (visited pair List.mem_cons_self)
      obtain ⟨later, kept⟩ := ih (pipeline.visit run pair) fun other member =>
        visited other (List.mem_cons_of_mem pair member)
      -- what the first visit draws on is still known after the others
      obtain ⟨found, here, same⟩ := @whole_visit pipeline run pair
      refine ⟨(first.mono fun origin draws => draws.keep kept).trans later, ?_⟩
      intro known earlier
      apply kept
      rw [here, same known earlier]

theorem grows_run (state : WalkState) :
    Collection.GrowsFrom (pipeline.Draws (pipeline.run state).2.whole) Collection.empty
      (pipeline.run state).1.issues := by
  have visited : ∀ pair ∈ pipeline.walker.pairs, pair.2 ∈ pipeline.walker.visited := by
    intro pair member
    rw [← Walker.pairs_map_snd]
    exact List.mem_map_of_mem member
  exact (grows_visits _ visited).1

/-- Every issue has nine valid values of its origin: those that are given, those that a text holds,
those that a payload answers or those of a finding in a document; and valid values are not refused.
The issues of a collection are those of the operations on it, and the issues of a run those of what
it draws on. -/
theorem issues_comeFrom :
    (∀ (origin : Origin) (issue : Issue), origin.issue? = some issue ↔ issue.ComesFrom origin) ∧
      (∀ origin : Origin,
        (∃ issue, origin.issue? = some issue) ↔ ∃ parts, origin.Gives parts ∧ parts.Valid) ∧
      (∀ (operations : List Collection.Operation) (issue : Issue),
        issue ∈ (Collection.empty.performAll operations).issues ↔
          ∃ origin ∈ operations.flatMap Collection.Operation.origins, issue.ComesFrom origin) ∧
      ∀ (pipeline : Pipeline) (state : WalkState), ∀ issue ∈ (pipeline.run state).1.issues.issues,
        ∃ origin, pipeline.Draws (pipeline.run state).2.whole origin ∧ issue.ComesFrom origin := by
  refine ⟨?_, ?_, ?_, ?_⟩
  · intro origin issue
    exact Issue.comesFrom_iff.symm
  · intro origin
    exact Origin.exists_issue_iff
  · intro operations issue
    exact Collection.mem_performAll
  · intro pipeline state issue member
    exact (grows_run state).comesFrom member

def markerPipeline : Pipeline :=
  ⟨⟨Walker.smallProject, [marker], .none⟩, pluginCode, false⟩

def mainDocument : Document :=
  ⟨⟨⟨0⟩, 0⟩, "main.bal", ["shop", "main.bal"]⟩

theorem issues_comeFrom_marker :
    localIssue mainDocument ∈ (markerPipeline.run Walker.smallState).1.issues.issues ∧
      ∃ origin, markerPipeline.Draws (markerPipeline.run Walker.smallState).2.whole origin ∧
        (localIssue mainDocument).ComesFrom origin := by
  have found : localIssue mainDocument ∈
      (markerPipeline.run Walker.smallState).1.issues.issues := by
    decide +kernel
  exact ⟨found, issues_comeFrom.2.2.2 markerPipeline Walker.smallState _ found⟩

end IssueReport.Pipeline
