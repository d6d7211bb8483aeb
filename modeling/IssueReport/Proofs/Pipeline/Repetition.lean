import IssueReport.Proofs.Pipeline.Isolation
import IssueReport.Proofs.Walker.Trace
/-!
Runs of one pipeline after each other, with changes of the files between them. The first run leaves
the diagnostics of the project known, so that every later one makes the same report without compiling
anything; what was converted before is not remembered, so that every run tells of the same failures.
-/

namespace IssueReport

def Event.isSkippedIssue : Event → Bool
  | .issueSkipped _ _ _ => true
  | _ => false

/-- A plugin does not itself log what the pipeline logs of failures. -/
def Plugin.LeavesFailures (plugin : Plugin) : Prop :=
  ∀ tree input, ∀ event ∈ (plugin.analyze tree input).events, event.isSkippedIssue = false

namespace Pipeline

/-! ### What a run records -/

/-- The modules whose diagnostics a run asks for: that of the first document, then all. -/
def asked (pipeline : Pipeline) : List Module :=
  match pipeline.walker.pairs with
  | [] => []
  | (module, _) :: _ => module :: pipeline.walker.project.modules

variable {pipeline : Pipeline} {state : WalkState}

theorem mem_modules_of_mem_asked {module : Module} (member : module ∈ pipeline.asked) :
    module ∈ pipeline.walker.project.modules := by
  unfold asked at member
  cases paired : pipeline.walker.pairs with
  | nil =>
      rw [paired] at member
      cases member
  | cons pair pairs =>
      rw [paired] at member
      rcases List.mem_cons.mp member with first | listed
      · rw [first]
        apply Walker.mem_modules_of_mem_pairs
        rw [paired]
        exact List.mem_cons_self
      · exact listed

theorem records_firstScan (coherent : pipeline.walker.Coherent state) :
    pipeline.walker.Records state (pipeline.walker.turns state pipeline.asked)
      (pipeline.firstScan state).2 := by
  unfold firstScan asked
  cases pipeline.walker.pairs with
  | nil => exact pipeline.walker.records_nothing state
  | cons pair pairs =>
      rw [Walker.turns_cons]
      exact (pipeline.walker.records_compile state pair.1).append
        (coherent.compile pair.1).records_projectDiagnostics

/-- A run logs what it compiles, and then its failures. -/
theorem run_events (coherent : pipeline.walker.Coherent state) :
    (pipeline.run state).2.events =
      state.events ++ (pipeline.walker.turnEvents (pipeline.walker.turns state pipeline.asked) ++
        (pipeline.run state).1.failures.map failureEvent) := by
  rw [run_eq_firstScan coherent]
  simp only [WalkState.log, (records_firstScan coherent).events, List.append_assoc]

theorem run_calls (coherent : pipeline.walker.Coherent state) :
    (pipeline.run state).2.calls =
      state.calls ++ pipeline.walker.turnCalls (pipeline.walker.turns state pipeline.asked) := by
  rw [run_eq_firstScan coherent]
  exact (records_firstScan coherent).calls

theorem coherent_run (coherent : pipeline.walker.Coherent state) :
    pipeline.walker.Coherent (pipeline.run state).2 := by
  rw [run_eq_firstScan coherent]
  apply coherent_log
  unfold firstScan
  cases pipeline.walker.pairs with
  | nil => exact coherent
  | cons pair pairs => exact (coherent.compile pair.1).projectDiagnostics

/-! ### Runs that find the diagnostics known -/

/-- Nothing is left to be compiled for a run: it has no document, or the diagnostics of the project
are known. -/
structure Settled (pipeline : Pipeline) (diagnostics : List Diagnostic) (state : WalkState) :
    Prop where
  coherent : pipeline.walker.Coherent state
  whole : pipeline.walker.visited ≠ [] → state.whole = some diagnostics

theorem settled_run (coherent : pipeline.walker.Coherent state) :
    pipeline.Settled (pipeline.collected state) (pipeline.run state).2 :=
  ⟨coherent_run coherent, whole_run coherent⟩

namespace Settled

variable {diagnostics : List Diagnostic} (settled : pipeline.Settled diagnostics state)

include settled

theorem edit (tree : FileTree) : pipeline.Settled diagnostics { state with tree := tree } :=
  ⟨settled.coherent.edit tree, settled.whole⟩

theorem log (events : List Event) : pipeline.Settled diagnostics (state.log events) :=
  ⟨coherent_log settled.coherent events, settled.whole⟩

theorem run :
    pipeline.run state =
      (pipeline.twoPhase diagnostics,
        state.log ((pipeline.twoPhase diagnostics).failures.map failureEvent)) := by
  rw [run_eq_firstScan settled.coherent]
  by_cases visited : pipeline.walker.visited = []
  · have paired := Walker.pairs_of_unvisited visited
    simp only [firstScan, paired, twoPhase, visited]
  · obtain ⟨module, member, scanned⟩ := firstScan_of_visited state visited
    have whole := settled.whole visited
    have known := WalkState.diagnostics?_of_known ((settled.coherent _ whole).1 module member)
    rw [scanned, Walker.compile_of_known pipeline.walker state module known,
      Walker.projectDiagnostics_of_known whole]

end Settled

/-! ### Several runs -/

structure Session where
  report : Report
  events : List Event
  calls : List PluginCall

def session (pipeline : Pipeline) (state : WalkState) (change : FileTree → FileTree) :
    Session × WalkState :=
  let (report, next) := pipeline.run { state with tree := change state.tree }
  (⟨report, next.events.drop state.events.length, next.calls.drop state.calls.length⟩, next)

def sessions (pipeline : Pipeline) (state : WalkState) :
    List (FileTree → FileTree) → List Session
  | [] => []
  | change :: changes =>
      let (first, next) := pipeline.session state change
      first :: sessions pipeline next changes

theorem session_of_coherent (coherent : pipeline.walker.Coherent state)
    (change : FileTree → FileTree) :
    ∃ turns, (pipeline.session state change).1 =
      ⟨(pipeline.run { state with tree := change state.tree }).1,
        pipeline.walker.turnEvents turns ++
          (pipeline.run { state with tree := change state.tree }).1.failures.map failureEvent,
        pipeline.walker.turnCalls turns⟩ := by
  have edited := coherent.edit (change state.tree)
  refine ⟨pipeline.walker.turns { state with tree := change state.tree } pipeline.asked, ?_⟩
  simp only [session, run_events edited, run_calls edited, List.drop_left]

def warm (pipeline : Pipeline) (diagnostics : List Diagnostic) : Session where
  report := pipeline.twoPhase diagnostics
  events := (pipeline.twoPhase diagnostics).failures.map failureEvent
  calls := []

theorem Settled.session {diagnostics : List Diagnostic}
    (settled : pipeline.Settled diagnostics state) (change : FileTree → FileTree) :
    ∃ next, pipeline.session state change = (pipeline.warm diagnostics, next) ∧
      pipeline.Settled diagnostics next := by
  have edited := settled.edit (change state.tree)
  refine ⟨_, ?_, edited.log ((pipeline.twoPhase diagnostics).failures.map failureEvent)⟩
  simp only [Pipeline.session, edited.run, warm, WalkState.log, List.drop_left, List.drop_length]

theorem Settled.sessions {diagnostics : List Diagnostic}
    (settled : pipeline.Settled diagnostics state) (changes : List (FileTree → FileTree)) :
    pipeline.sessions state changes =
      List.replicate changes.length (pipeline.warm diagnostics) := by
  induction changes generalizing state with
  | nil => rfl
  | cons change changes ih =>
      obtain ⟨next, first, later⟩ := settled.session change
      simp only [Pipeline.sessions, first, ih later, List.length_cons, List.replicate_succ]

/-! ### Failures in the log -/

theorem filter_failureEvent (failures : List ExtractionFailure) :
    (failures.map failureEvent).filter Event.isSkippedIssue = failures.map failureEvent := by
  rw [List.filter_eq_self]
  intro event member
  obtain ⟨failure, _, same⟩ := List.mem_map.mp member
  rw [← same]
  rfl

theorem filter_turnEvents {walker : Walker}
    (leave : ∀ plugin ∈ walker.plugins, plugin.LeavesFailures) (turns : List Walker.Turn) :
    (walker.turnEvents turns).filter Event.isSkippedIssue = [] := by
  rw [Walker.filter_turnEvents (fun _ _ _ => rfl) (fun _ => rfl) leave, List.filter_eq_nil_iff]
  intro event member
  obtain ⟨turn, -, same⟩ := List.mem_map.mp member
  rw [← same]
  exact Bool.false_ne_true

/-! ### All runs alike -/

structure Repeats (pipeline : Pipeline) (sessions : List Session) : Prop where
  reports : ∀ first ∈ sessions, ∀ second ∈ sessions, first.report = second.report
  /-- The first run may compile modules; after that it logs its failures in their order. -/
  cold : ∀ session ∈ sessions.head?, ∃ turns,
    session.events =
        pipeline.walker.turnEvents turns ++ session.report.failures.map failureEvent ∧
      session.calls = pipeline.walker.turnCalls turns
  /-- Every later run logs its failures in their order and nothing else, and calls no plugin. -/
  warm : ∀ session ∈ sessions.tail,
    session.events = session.report.failures.map failureEvent ∧ session.calls = []
  /-- Wherever they stand in the log, the failures in it are those of the run. -/
  failures : (∀ plugin ∈ pipeline.walker.plugins, plugin.LeavesFailures) →
    ∀ session ∈ sessions,
      session.events.filter Event.isSkippedIssue = session.report.failures.map failureEvent

theorem repeats_of_coherent (coherent : pipeline.walker.Coherent state)
    (changes : List (FileTree → FileTree)) :
    pipeline.Repeats (pipeline.sessions state changes) := by
  cases changes with
  | nil => constructor <;> simp [sessions]
  | cons change changes =>
      have edited := coherent.edit (change state.tree)
      obtain ⟨turns, first⟩ := session_of_coherent coherent change
      have report := run_report edited
      generalize found : pipeline.collected { state with tree := change state.tree } = diagnostics
        at report
      have later : pipeline.sessions (pipeline.session state change).2 changes =
          List.replicate changes.length (pipeline.warm diagnostics) := by
        rw [← found]
        exact (settled_run edited).sessions changes
      rw [report] at first
      have listed : pipeline.sessions state (change :: changes) =
          ⟨pipeline.twoPhase diagnostics,
            pipeline.walker.turnEvents turns ++
              (pipeline.twoPhase diagnostics).failures.map failureEvent,
            pipeline.walker.turnCalls turns⟩ ::
              List.replicate changes.length (pipeline.warm diagnostics) := by
        rw [sessions, ← later, ← first]
      have same : ∀ session ∈ pipeline.sessions state (change :: changes),
          session.report = pipeline.twoPhase diagnostics := by
        rw [listed]
        intro session member
        rcases List.mem_cons.mp member with here | after
        · rw [here]
        · rw [List.eq_of_mem_replicate after, warm]
      refine ⟨?_, ?_, ?_, ?_⟩
      · intro one oneMember other otherMember
        rw [same one oneMember, same other otherMember]
      · rw [listed]
        intro session member
        refine ⟨turns, ?_⟩
        rw [← Option.mem_some.mp member]
        exact ⟨rfl, rfl⟩
      · rw [listed]
        intro session member
        rw [List.eq_of_mem_replicate member]
        exact ⟨rfl, rfl⟩
      · intro leave session member
        rw [listed] at member
        rcases List.mem_cons.mp member with here | after
        · rw [here, List.filter_append, filter_turnEvents leave, filter_failureEvent,
            List.nil_append]
        · rw [List.eq_of_mem_replicate after]
          exact filter_failureEvent _

theorem length_sessions (pipeline : Pipeline) (state : WalkState)
    (changes : List (FileTree → FileTree)) :
    (pipeline.sessions state changes).length = changes.length := by
  induction changes generalizing state with
  | nil => rfl
  | cons change changes ih =>
      rw [sessions, List.length_cons, ih, List.length_cons]

/-- Runs on an opened walker, whatever was asked of it before and whatever happens to the files
between them. -/
theorem repeats_of_opened {tree : FileTree} {here : Location} {path : String}
    {plugins : List Plugin} {exclusions : Exclusions} {walker : Walker} {state : WalkState}
    (opened : Walker.load tree here path plugins exclusions = .ok (walker, state))
    (steps : List WalkStep) (code : String) (localCheck : Bool)
    (changes : List (FileTree → FileTree)) :
    (sessions ⟨walker, code, localCheck⟩ (walker.run state steps).2 changes).length =
        changes.length ∧
      Repeats ⟨walker, code, localCheck⟩
        (sessions ⟨walker, code, localCheck⟩ (walker.run state steps).2 changes) :=
  ⟨length_sessions _ _ changes,
    repeats_of_coherent ((Walker.coherent_of_opened opened).run steps) changes⟩

/-- Nothing happens before the first run; then a source is removed, and another one written. -/
def threeChanges : List (FileTree → FileTree) :=
  [id, fun tree => (tree.remove? [] "/shop/main.bal").getD tree,
    fun tree => (tree.write? [] "/shop/modules/cart/cart.bal" [0x64]).getD tree]

theorem repeats_threeChanges :
    Walker.load Walker.smallPackage [] "/shop" [brittle, Walker.echo] Exclusions.none =
        .ok (⟨Walker.smallProject, [brittle, Walker.echo], Exclusions.none⟩,
          Walker.smallState) ∧
      (sessions ⟨⟨Walker.smallProject, [brittle, Walker.echo], Exclusions.none⟩, pluginCode, true⟩
        Walker.smallState threeChanges).length = 3 ∧
      Repeats ⟨⟨Walker.smallProject, [brittle, Walker.echo], Exclusions.none⟩, pluginCode, true⟩
        (sessions
          ⟨⟨Walker.smallProject, [brittle, Walker.echo], Exclusions.none⟩, pluginCode, true⟩
          Walker.smallState threeChanges) :=
  ⟨Walker.load_smallPackage [brittle, Walker.echo] Exclusions.none,
    repeats_of_opened (Walker.load_smallPackage [brittle, Walker.echo] Exclusions.none) []
      pluginCode true threeChanges⟩

end Pipeline

end IssueReport
