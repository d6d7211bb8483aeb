import IssueReport.Proofs.Pipeline.Scan
import IssueReport.Proofs.Walker.Snapshots
/-!
The report of a run in two phases. A run scans the diagnostics of the whole project after every
document, but only the scan after the first document converts anything; so the report is that of
one scan, between the local issue of the first document and those of the others.
-/

namespace IssueReport

namespace Walker

/-- The documents of the project that are not excluded, in its order. -/
def visited (walker : Walker) : List Document :=
  (walker.project.modules.flatMap (·.documents)).filter fun document =>
    !walker.isExcluded document

theorem pairs_map_snd (walker : Walker) : walker.pairs.map (·.2) = walker.visited := by
  unfold pairs visited
  induction walker.project.modules with
  | nil => rfl
  | cons module modules ih =>
      rw [List.flatMap_cons, List.map_append, ih, List.flatMap_cons, List.filter_append,
        List.map_map]
      congr 1
      exact List.map_id _

theorem pairs_of_unvisited {walker : Walker} (unvisited : walker.visited = []) :
    walker.pairs = [] := by
  rw [← pairs_map_snd] at unvisited
  exact List.map_eq_nil_iff.mp unvisited

theorem mem_modules_of_mem_pairs (walker : Walker) {pair : Module × Document}
    (member : pair ∈ walker.pairs) : pair.1 ∈ walker.project.modules := by
  obtain ⟨module, moduleMember, found⟩ := List.mem_flatMap.mp member
  obtain ⟨document, _visited, same⟩ := List.mem_map.mp found
  rw [← same]
  exact moduleMember

end Walker

namespace Pipeline

variable (pipeline : Pipeline)

def localIssues (documents : List Document) : List Issue :=
  if pipeline.localCheck then documents.map localIssue else []

/-- The report that one scan over diagnostics makes, after the first document has been counted and
before the others are. -/
def twoPhase (diagnostics : List Diagnostic) : Report :=
  match pipeline.walker.visited with
  | [] => ⟨0, Collection.empty, []⟩
  | first :: rest =>
      let located := payloads pipeline.code diagnostics
      { documents := (first :: rest).length
        issues := ⟨pipeline.localIssues [first] ++ located.filterMap Located.issue? ++
          pipeline.localIssues rest⟩
        failures := located.filterMap Located.failure? }

/-! ### Documents -/

/-- The local issue is accepted in every document. -/
theorem report_localFinding (collection : Collection) (document : Document) :
    collection.report localFinding document = .ok (collection.push (localIssue document)) := by
  rw [Collection.report, Collection.add, ofParts_localFinding]
  rfl

theorem localIssues_cons (document : Document) (documents : List Document) :
    pipeline.localIssues (document :: documents) =
      pipeline.localIssues [document] ++ pipeline.localIssues documents := by
  unfold localIssues
  cases pipeline.localCheck <;> rfl

theorem checkDocument_eq (report : Report) (document : Document) :
    pipeline.checkDocument report document =
      { report with
        documents := report.documents + 1
        issues := report.issues.append (pipeline.localIssues [document]) } := by
  unfold checkDocument localIssues
  cases pipeline.localCheck with
  | false => simp [Collection.append]
  | true =>
      rw [if_pos rfl, if_pos rfl, report_localFinding]
      rfl

/-! ### Visits -/

variable {pipeline}

/-- Nothing is left to be done for the diagnostics of the project: they are known, and those with
the code have been converted. -/
structure Scanned (pipeline : Pipeline) (run : Run) (diagnostics : List Diagnostic) : Prop where
  whole : run.walk.whole = some diagnostics
  converted : ∀ position ∈ positionsFrom pipeline.code 0 diagnostics, position ∈ run.converted
  coherent : pipeline.walker.Coherent run.walk

theorem Scanned.visit {run : Run} {diagnostics : List Diagnostic}
    (scanned : pipeline.Scanned run diagnostics) {pair : Module × Document}
    (member : pair.1 ∈ pipeline.walker.project.modules) :
    pipeline.visit run pair =
      { run with report := pipeline.checkDocument run.report pair.2 } := by
  have compiled := (scanned.coherent _ scanned.whole).1 pair.1 member
  have known := WalkState.diagnostics?_of_known compiled
  simp only [Pipeline.visit, Walker.compile_of_known _ _ _ known,
    Walker.projectDiagnostics_of_known scanned.whole]
  exact scan_of_converted pipeline scanned.converted

theorem Scanned.visits {run : Run} {diagnostics : List Diagnostic}
    (scanned : pipeline.Scanned run diagnostics) {pairs : List (Module × Document)}
    (within : ∀ pair ∈ pairs, pair.1 ∈ pipeline.walker.project.modules) :
    pairs.foldl pipeline.visit run =
      { run with report :=
          { run.report with
            documents := run.report.documents + pairs.length
            issues := run.report.issues.append (pipeline.localIssues (pairs.map (·.2))) } } := by
  induction pairs generalizing run with
  | nil => simp [localIssues, Collection.append]
  | cons pair pairs ih =>
      have first := within pair List.mem_cons_self
      have later : pipeline.Scanned
          { run with report := pipeline.checkDocument run.report pair.2 } diagnostics :=
        ⟨scanned.whole, scanned.converted, scanned.coherent⟩
      rw [List.foldl_cons, scanned.visit first,
        ih later fun other member => within other (List.mem_cons_of_mem pair member),
        checkDocument_eq, List.map_cons, pipeline.localIssues_cons pair.2 (pairs.map (·.2)),
        List.length_cons]
      simp only [Collection.append, List.append_assoc, Nat.add_assoc, Nat.add_comm 1]

/-- The first visit of a run compiles the module of the document, then the others, and converts
all that is to be converted. -/
theorem visit_first (state : WalkState) (pair : Module × Document) :
    pipeline.visit ⟨⟨0, Collection.empty, []⟩, [], state⟩ pair =
      let asked := pipeline.walker.projectDiagnostics (pipeline.walker.compile pair.1 state).2
      Run.absorb
        { report := ⟨1, ⟨pipeline.localIssues [pair.2]⟩, []⟩, converted := [], walk := asked.2 }
        (positionsFrom pipeline.code 0 asked.1) (extraction (payloads pipeline.code asked.1)) := by
  simp only [Pipeline.visit, checkDocument_eq, Collection.append, Collection.empty,
    List.nil_append, Nat.zero_add]
  exact scan_of_new pipeline (by
    intro seen member
    cases member)

theorem coherent_log {walker : Walker} {state : WalkState} (coherent : walker.Coherent state)
    (events : List Event) : walker.Coherent (state.log events) :=
  coherent.extend (WalkState.Extends.refl state) rfl

theorem scanned_first {state : WalkState} (coherent : pipeline.walker.Coherent state)
    (pair : Module × Document) :
    pipeline.Scanned (pipeline.visit ⟨⟨0, Collection.empty, []⟩, [], state⟩ pair)
      (pipeline.walker.projectDiagnostics (pipeline.walker.compile pair.1 state).2).1 := by
  rw [visit_first]
  constructor
  · exact Walker.whole_projectDiagnostics
  · intro position member
    exact List.mem_append_right _ member
  · exact coherent_log (coherent.compile pair.1).projectDiagnostics _

/-! ### Runs -/

/-- The diagnostics of the first scan of a run, and the state of the walk after it. -/
def firstScan (pipeline : Pipeline) (state : WalkState) : List Diagnostic × WalkState :=
  match pipeline.walker.pairs with
  | [] => ([], state)
  | (module, _) :: _ =>
      pipeline.walker.projectDiagnostics (pipeline.walker.compile module state).2

/-- A run is its first scan and the local issues. -/
theorem run_eq_firstScan {state : WalkState} (coherent : pipeline.walker.Coherent state) :
    pipeline.run state =
      (pipeline.twoPhase (pipeline.firstScan state).1,
        (pipeline.firstScan state).2.log
          ((pipeline.twoPhase (pipeline.firstScan state).1).failures.map failureEvent)) := by
  unfold Pipeline.run twoPhase firstScan
  rw [← Walker.pairs_map_snd]
  cases paired : pipeline.walker.pairs with
  | nil => simp [WalkState.log]
  | cons pair pairs =>
      have within : ∀ other ∈ pairs, other.1 ∈ pipeline.walker.project.modules := by
        intro other member
        apply Walker.mem_modules_of_mem_pairs
        rw [paired]
        exact List.mem_cons_of_mem pair member
      rw [List.foldl_cons, (scanned_first coherent pair).visits within, visit_first]
      simp only [Run.absorb, extraction, Collection.append, List.map_cons, List.length_cons,
        List.length_map, List.nil_append, List.append_assoc, Nat.add_comm 1]

/-- The diagnostics of the modules, in the order of the project, as they are known after a run. -/
def collected (pipeline : Pipeline) (state : WalkState) : List Diagnostic :=
  pipeline.walker.project.modules.flatMap fun module =>
    (pipeline.walker.compile module (pipeline.run state).2).1

theorem firstScan_of_visited (state : WalkState) (visited : pipeline.walker.visited ≠ []) :
    ∃ module ∈ pipeline.walker.project.modules, pipeline.firstScan state =
      pipeline.walker.projectDiagnostics (pipeline.walker.compile module state).2 := by
  rw [← Walker.pairs_map_snd] at visited
  unfold firstScan
  cases paired : pipeline.walker.pairs with
  | nil =>
      rw [paired] at visited
      exact absurd rfl visited
  | cons pair pairs =>
      refine ⟨pair.1, ?_, rfl⟩
      apply Walker.mem_modules_of_mem_pairs
      rw [paired]
      exact List.mem_cons_self

/-- After a run with a document the walk knows the diagnostics of its first scan, those of every
module. -/
theorem firstScan_eq_collected {state : WalkState} (coherent : pipeline.walker.Coherent state)
    (visited : pipeline.walker.visited ≠ []) :
    (pipeline.firstScan state).1 = pipeline.collected state := by
  obtain ⟨module, -, scanned⟩ := firstScan_of_visited state visited
  unfold collected
  rw [run_eq_firstScan coherent, scanned]
  have asked := coherent.compile module
  rw [asked.projectDiagnostics_eq, List.flatMap_def, List.flatMap_def]
  congr 1
  apply List.map_congr_left
  intro other member
  have compiled := asked.isCompiled_projectDiagnostics member
  have known := WalkState.diagnostics?_of_known compiled
  rw [Walker.compile_of_known pipeline.walker (WalkState.log _ _) other known]

theorem whole_run {state : WalkState} (coherent : pipeline.walker.Coherent state)
    (visited : pipeline.walker.visited ≠ []) :
    (pipeline.run state).2.whole = some (pipeline.collected state) := by
  rw [← firstScan_eq_collected coherent visited]
  obtain ⟨module, -, scanned⟩ := firstScan_of_visited state visited
  rw [run_eq_firstScan coherent, scanned]
  exact Walker.whole_projectDiagnostics

/-- The report of a run is that of two phases. -/
theorem run_report {state : WalkState} (coherent : pipeline.walker.Coherent state) :
    (pipeline.run state).1 = pipeline.twoPhase (pipeline.collected state) := by
  have report := congrArg Prod.fst (run_eq_firstScan coherent)
  by_cases visited : pipeline.walker.visited = []
  · rw [report]
    simp only [twoPhase, visited]
  · rw [report, firstScan_eq_collected coherent visited]

/-- What holds of a run that starts in a state of the walk: it makes the report of one scan over the
diagnostics of the modules. -/
structure ScansOnce (pipeline : Pipeline) (state : WalkState) : Prop where
  report : (pipeline.run state).1 = pipeline.twoPhase (pipeline.collected state)
  /-- Where a document is visited, these diagnostics are those of the project as a whole. -/
  whole : pipeline.walker.visited ≠ [] →
    (pipeline.walker.projectDiagnostics (pipeline.run state).2).1 = pipeline.collected state
  /-- The payloads to be converted are those of opaque properties in diagnostics with the code, each
  at positions of its own. -/
  located : ∀ located, located ∈ payloads pipeline.code (pipeline.collected state) ↔
    ∃ diagnostic, (pipeline.collected state)[located.diagnostic]? = some diagnostic ∧
      diagnostic.code = pipeline.code ∧
      diagnostic.properties[located.property]?.bind Property.payload? = some located.payload
  positions : ((payloads pipeline.code (pipeline.collected state)).map Located.place).Nodup
  /-- Each of them becomes one issue or one failure. -/
  outcomes : ((payloads pipeline.code (pipeline.collected state)).filterMap
        Located.issue?).length +
      ((payloads pipeline.code (pipeline.collected state)).filterMap Located.failure?).length =
    (payloads pipeline.code (pipeline.collected state)).length
  /-- The local issue is never rejected. -/
  accepted : ∀ (collection : Collection) (document : Document),
    collection.report localFinding document = .ok (collection.push (localIssue document))

/-- A run on an opened walker, whatever has been asked of it and has happened to the files before,
scans the diagnostics of the project once. -/
theorem scansOnce_of_opened {tree : FileTree} {here : Location} {path : String}
    {plugins : List Plugin} {exclusions : Exclusions} {walker : Walker} {state : WalkState}
    (opened : Walker.load tree here path plugins exclusions = .ok (walker, state))
    (steps : List WalkStep) (code : String) (localCheck : Bool) :
    ScansOnce ⟨walker, code, localCheck⟩ (walker.run state steps).2 := by
  have coherent := (Walker.coherent_of_opened opened).run steps
  constructor
  · exact run_report coherent
  · intro visited
    rw [Walker.projectDiagnostics_of_known (whole_run coherent visited)]
  · intro located
    exact mem_payloads
  · exact payloads_nodup _ _
  · exact issues_add_failures _
  · exact report_localFinding

def marker : Plugin :=
  Plugin.ofFunction "marker" fun input =>
    .ok (input.module.documents.map fun document =>
      ⟨pluginCode, "", [.other (Payload.ofParts "mark" (localFinding.inDocument document))]⟩)

/-- Finds something in the default module of a small package, and fails on the other. -/
def brittle : Plugin :=
  Plugin.ofFunction "brittle" fun input =>
    if input.module.id = ⟨0⟩ then .ok [⟨pluginCode, "", [.other (Payload.ofJson .null)]⟩]
    else .error (.failed "out of order")

/-- In the small package there are two issues to be converted and one failure. -/
theorem scansOnce_smallPackage :
    Walker.load Walker.smallPackage [] "/shop" [brittle, marker] Exclusions.none =
        .ok (⟨Walker.smallProject, [brittle, marker], Exclusions.none⟩, Walker.smallState) ∧
      ScansOnce ⟨⟨Walker.smallProject, [brittle, marker], Exclusions.none⟩, pluginCode, true⟩
        (Walker.run ⟨Walker.smallProject, [brittle, marker], Exclusions.none⟩ Walker.smallState
          Walker.editedSteps).2 ∧
      ((payloads pluginCode (collected
          ⟨⟨Walker.smallProject, [brittle, marker], Exclusions.none⟩, pluginCode, true⟩
          (Walker.run ⟨Walker.smallProject, [brittle, marker], Exclusions.none⟩ Walker.smallState
            Walker.editedSteps).2)).map fun located =>
        ((Located.issue? located).isSome, (Located.failure? located).isSome)) =
          [(false, true), (true, false), (true, false)] :=
  ⟨Walker.load_smallPackage [brittle, marker] Exclusions.none,
    scansOnce_of_opened (Walker.load_smallPackage [brittle, marker] Exclusions.none)
      Walker.editedSteps pluginCode true, by decide +kernel⟩

end Pipeline

end IssueReport
