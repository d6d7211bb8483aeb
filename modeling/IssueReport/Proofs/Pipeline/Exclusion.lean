import IssueReport.Proofs.Pipeline.Repetition
import IssueReport.Proofs.Project.Placement
/-!
Excluded documents. With plugins that answer from their input, a run depends on the files only
through those of the documents that are not excluded. A document that is excluded or cannot be read is
no source of any call; but only the excluded one is also neither counted nor given a local issue.
-/

namespace IssueReport

/-- A plugin answers from its input alone, and does nothing to the files. -/
structure Plugin.OfInput (plugin : Plugin) : Prop where
  keeps : plugin.KeepsFiles
  answers : ∀ first second input,
    (plugin.analyze first input).outcome = (plugin.analyze second input).outcome

theorem Plugin.ofInput_ofFunction (name : String)
    (answer : PluginInput → Except PluginFailure (List Diagnostic)) :
    (Plugin.ofFunction name answer).OfInput :=
  ⟨Plugin.keepsFiles_ofFunction name answer, fun _ _ _ => rfl⟩

theorem Plugin.OfInput.found_eq {plugin : Plugin} (ofInput : plugin.OfInput)
    (first second : FileTree) (input : PluginInput) :
    (plugin.analyze first input).found = (plugin.analyze second input).found := by
  rw [Analysis.found, Analysis.found, ofInput.answers first second input]

namespace Walker

variable {walker : Walker} {state : WalkState}

theorem mem_visited {document : Document} :
    document ∈ walker.visited ↔
      document ∈ walker.project.documents ∧ walker.isExcluded document = false := by
  simp only [visited, Project.documents, List.mem_filter, Bool.not_eq_true']

theorem mem_visited_of_mem_documents {module : Module} {document : Document}
    (moduleMember : module ∈ walker.project.modules)
    (member : document ∈ walker.documents module) : document ∈ walker.visited := by
  obtain ⟨inModule, included⟩ := List.mem_filter.mp member
  apply List.mem_filter.mpr
  exact ⟨List.mem_flatMap.mpr ⟨module, moduleMember, inModule⟩, included⟩

/-! ### Trees that agree on the visited documents -/

/-- The documents that are not excluded have the same content, or cannot be read in either tree. -/
def Agree (walker : Walker) (first second : FileTree) : Prop :=
  ∀ document ∈ walker.visited,
    first.read? [] document.path = second.read? [] document.path

theorem Agree.sources {first second : FileTree} (agree : walker.Agree first second)
    {module : Module} (member : module ∈ walker.project.modules) :
    walker.sources first module = walker.sources second module := by
  apply List.filterMap_congr
  intro document inModule
  rw [source?, source?, agree document (mem_visited_of_mem_documents member inModule)]

theorem Agree.findings {first second : FileTree} (agree : walker.Agree first second)
    {plugins : List Plugin} (ofInput : ∀ plugin ∈ plugins, plugin.OfInput) :
    walker.findings first plugins = walker.findings second plugins := by
  unfold Walker.findings
  rw [List.flatMap_def, List.flatMap_def]
  congr 1
  apply List.map_congr_left
  intro module member
  rw [List.flatMap_def, List.flatMap_def]
  congr 1
  apply List.map_congr_left
  intro plugin registered
  rw [pluginInput, pluginInput, agree.sources member]
  exact (ofInput plugin registered).found_eq first second _

/-! ### Sources of calls -/

theorem tree_of_mem_turns (keep : ∀ plugin ∈ walker.plugins, plugin.KeepsFiles)
    {modules : List Module} {turn : Turn} (member : turn ∈ walker.turns state modules) :
    turn.tree = state.tree := by
  induction modules generalizing state with
  | nil => cases member
  | cons module modules ih =>
      have kept : (walker.compile module state).2.tree = state.tree :=
        compile_tree_of_keepsFiles keep module
      simp only [turns] at member
      split at member
      · exact (ih member).trans kept
      · rcases List.mem_cons.mp member with here | later
        · rw [here]
        · exact (ih later).trans kept

def IsSource (walker : Walker) (tree : FileTree) (source : SourceFile) : Prop :=
  ∃ document ∈ walker.visited, ∃ content, tree.read? [] document.path = some content ∧
    source = ⟨document.id, document.location, Text.decodeLossy content⟩

theorem isSource_of_mem_sources {tree : FileTree} {module : Module} {source : SourceFile}
    (moduleMember : module ∈ walker.project.modules)
    (member : source ∈ walker.sources tree module) : walker.IsSource tree source := by
  obtain ⟨document, inModule, read⟩ := List.mem_filterMap.mp member
  obtain ⟨content, found, same⟩ := Option.map_eq_some_iff.mp read
  exact ⟨document, mem_visited_of_mem_documents moduleMember inModule, content, found, same.symm⟩

/-- No call has the document among its sources, neither by its id nor by its path. -/
def Unsourced (calls : List PluginCall) (document : Document) : Prop :=
  ∀ call ∈ calls, ∀ source ∈ call.input.sources,
    source.document ≠ document.id ∧ source.location.text ≠ document.path

variable {tree : FileTree} {calls : List PluginCall}
  (sourced : ∀ call ∈ calls, ∀ source ∈ call.input.sources, walker.IsSource tree source)
  (placed : walker.project.Placed)

include sourced placed

theorem unsourced_of_isExcluded {document : Document}
    (member : document ∈ walker.project.documents)
    (excluded : walker.isExcluded document = true) : Unsourced calls document := by
  intro call called source given
  obtain ⟨other, visited, content, -, same⟩ := sourced call called source given
  obtain ⟨otherMember, included⟩ := mem_visited.mp visited
  rw [same]
  constructor
  · intro ids
    rw [placed.eq_of_document_id_eq otherMember member ids, excluded] at included
    cases included
  · intro paths
    have seen := placed.seenPath_of_path_eq otherMember member paths
    rw [isExcluded, seen, ← isExcluded, excluded] at included
    cases included

theorem unsourced_of_unreadable {document : Document} (visited : document ∈ walker.visited)
    (unreadable : tree.read? [] document.path = none) : Unsourced calls document := by
  intro call called source given
  obtain ⟨other, otherVisited, content, found, same⟩ := sourced call called source given
  rw [same]
  constructor
  · intro ids
    rw [placed.eq_of_document_id_eq (mem_visited.mp otherVisited).1 (mem_visited.mp visited).1 ids,
      unreadable] at found
    cases found
  · intro paths
    change other.path = document.path at paths
    rw [paths, unreadable] at found
    cases found

end Walker

namespace Pipeline

variable {pipeline : Pipeline} {state : WalkState}

theorem isSource_of_call (coherent : pipeline.walker.Coherent state) (uncalled : state.calls = [])
    (keep : ∀ plugin ∈ pipeline.walker.plugins, plugin.KeepsFiles) :
    ∀ call ∈ (pipeline.run state).2.calls, ∀ source ∈ call.input.sources,
      pipeline.walker.IsSource state.tree source := by
  intro call called source given
  rw [run_calls coherent, uncalled, List.nil_append] at called
  obtain ⟨turn, taken, made⟩ := List.mem_flatMap.mp called
  rw [((Walker.mem_callsIn pipeline.walker turn.tree turn.module).mp made).2,
    Walker.tree_of_mem_turns keep taken] at given
  have asked := pipeline.walker.module_of_mem_turns state taken
  exact Walker.isSource_of_mem_sources (mem_modules_of_mem_asked asked) given

/-! ### Local issues -/

theorem mem_localIssues {documents : List Document} {issue : Issue} :
    issue ∈ pipeline.localIssues documents ↔
      pipeline.localCheck = true ∧ ∃ document ∈ documents, localIssue document = issue := by
  unfold localIssues
  cases pipeline.localCheck <;> simp

theorem mem_around_of_visited {document : Document} (visited : document ∈ pipeline.walker.visited)
    (checked : pipeline.localCheck = true) (found : List Issue) :
    localIssue document ∈ (pipeline.around found).issues := by
  have split := List.take_append_drop 1 pipeline.walker.visited
  rw [← split] at visited
  unfold around
  rcases List.mem_append.mp visited with first | later
  · apply List.mem_append_left
    apply List.mem_append_left
    exact mem_localIssues.mpr ⟨checked, document, first, rfl⟩
  · apply List.mem_append_right
    exact mem_localIssues.mpr ⟨checked, document, later, rfl⟩

/-! ### Runs -/

/-- How a run treats the documents that it does not read: its report has the local issues of the
documents that are not excluded, and what the plugins find in a tree. -/
structure Disregards (pipeline : Pipeline) (tree : FileTree) (plugins : List Plugin)
    (report : Report) (calls : List PluginCall) : Prop where
  reports : Reports pipeline tree plugins report
  excluded : ∀ document ∈ pipeline.walker.project.documents,
    pipeline.walker.isExcluded document = true →
      Walker.Unsourced calls document ∧
        ∀ issue ∈ pipeline.localIssues pipeline.walker.visited,
          issue.reportedFilePath ≠ document.path
  /-- A document that cannot be read is among those that are counted. -/
  unreadable : ∀ document ∈ pipeline.walker.visited,
    tree.read? [] document.path = none →
      Walker.Unsourced calls document ∧
        (pipeline.localCheck = true → localIssue document ∈ report.issues.issues)

theorem disregards_of_unknown (placed : pipeline.walker.project.Placed)
    (keep : ∀ plugin ∈ pipeline.walker.plugins, plugin.KeepsFiles)
    (whole : state.whole = none) (unknown : ∀ id, state.diagnostics? id = none)
    (uncalled : state.calls = []) :
    pipeline.Disregards state.tree pipeline.walker.plugins (pipeline.run state).1
      (pipeline.run state).2.calls := by
  have coherent : pipeline.walker.Coherent state := Walker.coherent_of_unknown whole
  have sourced := isSource_of_call coherent uncalled keep
  have reports := reports_twoPhase pipeline state.tree pipeline.walker.plugins
  rw [← run_of_unknown placed.modules keep whole unknown] at reports
  refine ⟨reports, ?_, ?_⟩
  · intro document member excluded
    refine ⟨Walker.unsourced_of_isExcluded sourced placed member excluded, ?_⟩
    intro issue local' same
    obtain ⟨-, other, visited, made⟩ := mem_localIssues.mp local'
    obtain ⟨otherMember, included⟩ := Walker.mem_visited.mp visited
    rw [← made] at same
    have seen := placed.seenPath_of_path_eq otherMember member same
    rw [Walker.isExcluded, seen, ← Walker.isExcluded, excluded] at included
    cases included
  · intro document visited unreadable
    refine ⟨Walker.unsourced_of_unreadable sourced placed visited unreadable, ?_⟩
    intro checked
    rw [reports.issues]
    exact mem_around_of_visited visited checked _

def mixedPackage : FileTree :=
  ⟨[(["shop"], .directory), (["shop", "Ballerina.toml"], .file []),
    (["shop", "main.bal"], .file [0x61]), (["shop", "skip.bal"], .file [0x62]),
    (["shop", "modules"], .directory), (["shop", "modules", "cart"], .directory),
    (["shop", "modules", "cart", "cart.bal"], .file [0x63])], []⟩

def mixedProject : Project where
  root := ["shop"]
  kind := .package
  modules := [
    ⟨⟨0⟩, "shop", [⟨⟨⟨0⟩, 0⟩, "main.bal", ["shop", "main.bal"]⟩,
      ⟨⟨⟨0⟩, 1⟩, "skip.bal", ["shop", "skip.bal"]⟩]⟩,
    ⟨⟨1⟩, "shop.cart", [⟨⟨⟨1⟩, 0⟩, "cart.bal", ["shop", "modules", "cart", "cart.bal"]⟩]⟩]

def skipped : Exclusions :=
  ⟨[⟨"skip*", [.literal 's', .literal 'k', .literal 'i', .literal 'p', .star]⟩]⟩

def mixedState : WalkState :=
  (WalkState.initial mixedPackage).log [.projectLoaded ["shop"] .package 2]

def mixedLater : FileTree :=
  mixedPackage.erase ["shop", "modules", "cart", "cart.bal"]

theorem load_mixedPackage (plugins : List Plugin) (exclusions : Exclusions) :
    Walker.load mixedPackage [] "/shop" plugins exclusions =
      .ok (⟨mixedProject, plugins, exclusions⟩, mixedState) := by
  have loaded : Project.load mixedPackage [] "/shop" = .ok mixedProject := by rfl
  exact Walker.load_eq_ok.mpr ⟨mixedProject, loaded, rfl, rfl⟩

theorem visited_mixedPackage (plugins : List Plugin) :
    Walker.visited ⟨mixedProject, plugins, skipped⟩ =
      [⟨⟨⟨0⟩, 0⟩, "main.bal", ["shop", "main.bal"]⟩,
        ⟨⟨⟨1⟩, 0⟩, "cart.bal", ["shop", "modules", "cart", "cart.bal"]⟩] := by
  rfl

theorem ofInput_of_mem {plugin : Plugin} (member : plugin ∈ [marker, Walker.echo]) :
    plugin.OfInput := by
  rcases List.mem_cons.mp member with first | later
  · rw [first]
    exact Plugin.ofInput_ofFunction _ _
  · rw [List.mem_singleton.mp later]
    exact Plugin.ofInput_ofFunction _ _

theorem agree_mixedLater (plugins : List Plugin) :
    Walker.Agree ⟨mixedProject, plugins, skipped⟩
      (mixedLater.insert ["shop", "skip.bal"] (.file [0x64]))
      (mixedLater.erase ["shop", "skip.bal"]) := by
  unfold Walker.Agree
  rw [visited_mixedPackage]
  decide +kernel

end Pipeline

end IssueReport
