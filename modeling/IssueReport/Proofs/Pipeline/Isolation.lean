import IssueReport.Proofs.Pipeline.TwoPhase
import IssueReport.Proofs.Walker.Undisturbed
/-!
Plugins beside each other. A report has the issues of every plugin that does nothing to the files,
whichever others are registered: where the plugins are split into two parts, the issues and failures
of all of them merge those of the parts, although the positions of diagnostics differ.
-/

namespace IssueReport

/-! ### Merging lists -/

/-- The third list merges the first two, each of which keeps its order. -/
inductive Interleaves {Item : Type} : List Item → List Item → List Item → Prop
  | nil : Interleaves [] [] []
  | left {item : Item} {left right merged : List Item} :
      Interleaves left right merged → Interleaves (item :: left) right (item :: merged)
  | right {item : Item} {left right merged : List Item} :
      Interleaves left right merged → Interleaves left (item :: right) (item :: merged)

namespace Interleaves

variable {Item Result : Type} {left right merged : List Item}

theorem symm (merge : Interleaves left right merged) : Interleaves right left merged := by
  induction merge with
  | nil => exact .nil
  | left _ ih => exact ih.right
  | right _ ih => exact ih.left

theorem mem_of_left (merge : Interleaves left right merged) {item : Item}
    (member : item ∈ left) : item ∈ merged := by
  induction merge with
  | nil => exact member
  | left _ ih =>
      rcases List.mem_cons.mp member with here | later
      · rw [here]
        exact List.mem_cons_self
      · exact List.mem_cons_of_mem _ (ih later)
  | right _ ih => exact List.mem_cons_of_mem _ (ih member)

theorem forall_left (merge : Interleaves left right merged) {holds : Item → Prop}
    (every : ∀ item ∈ merged, holds item) : ∀ item ∈ left, holds item :=
  fun item member => every item (merge.mem_of_left member)

theorem forall_right (merge : Interleaves left right merged) {holds : Item → Prop}
    (every : ∀ item ∈ merged, holds item) : ∀ item ∈ right, holds item :=
  merge.symm.forall_left every

theorem prepend_left (merge : Interleaves left right merged) (items : List Item) :
    Interleaves (items ++ left) right (items ++ merged) := by
  induction items with
  | nil => exact merge
  | cons item items ih => exact ih.left

theorem append (merge : Interleaves left right merged) {left' right' merged' : List Item}
    (merge' : Interleaves left' right' merged') :
    Interleaves (left ++ left') (right ++ right') (merged ++ merged') := by
  induction merge with
  | nil => exact merge'
  | left _ ih => exact ih.left
  | right _ ih => exact ih.right

theorem filterMap (merge : Interleaves left right merged) (select : Item → Option Result) :
    Interleaves (left.filterMap select) (right.filterMap select) (merged.filterMap select) := by
  induction merge with
  | nil => exact .nil
  | @left item left right merged _ ih =>
      rw [List.filterMap_cons, List.filterMap_cons]
      cases select item with
      | none => exact ih
      | some result => exact ih.left
  | @right item left right merged _ ih =>
      rw [List.filterMap_cons, List.filterMap_cons]
      cases select item with
      | none => exact ih
      | some result => exact ih.right

theorem flatMap (merge : Interleaves left right merged) (results : Item → List Result) :
    Interleaves (left.flatMap results) (right.flatMap results) (merged.flatMap results) := by
  induction merge with
  | nil => exact .nil
  | left _ ih => exact ih.prepend_left _
  | right _ ih => exact (ih.symm.prepend_left _).symm

theorem nested {Source : Type} (merge : Interleaves left right merged) (sources : List Source)
    (results : Source → Item → List Result) :
    Interleaves (sources.flatMap fun source => left.flatMap (results source))
      (sources.flatMap fun source => right.flatMap (results source))
      (sources.flatMap fun source => merged.flatMap (results source)) := by
  induction sources with
  | nil => exact .nil
  | cons source sources ih => exact (merge.flatMap (results source)).append ih

theorem eq_left (merge : Interleaves left [] merged) : merged = left := by
  generalize nothing : ([] : List Item) = right at merge
  induction merge with
  | nil => rfl
  | left _ ih => rw [ih nothing]
  | right _ _ => cases nothing

end Interleaves

namespace Pipeline

def conversionError? (payload : Payload) : Option ConversionError :=
  match payload.convert with
  | .ok _ => none
  | .error error => some error

theorem errors_eq_filterMap (located : List Located) :
    (located.filterMap Located.failure?).map ExtractionFailure.error =
      (located.map Located.payload).filterMap conversionError? := by
  rw [List.filterMap_map, List.map_filterMap]
  congr 1
  funext one
  simp only [Located.failure?, conversionError?, Function.comp_apply]
  cases one.payload.convert <;> rfl

variable (pipeline : Pipeline) (diagnostics : List Diagnostic)

/-- Issues of plugins among the local ones: after that of the first document, before those of the
others. -/
def around (found : List Issue) : Collection :=
  ⟨pipeline.localIssues (pipeline.walker.visited.take 1) ++ found ++
    pipeline.localIssues (pipeline.walker.visited.drop 1)⟩

/-- The payloads that a run converts; without a document, it asks for no diagnostics. -/
def scannedPayloads : List Payload :=
  if pipeline.walker.visited = [] then [] else payloadsIn pipeline.code diagnostics

theorem documents_twoPhase :
    (pipeline.twoPhase diagnostics).documents = pipeline.walker.visited.length := by
  unfold twoPhase
  cases pipeline.walker.visited <;> rfl

theorem issues_twoPhase :
    (pipeline.twoPhase diagnostics).issues =
      pipeline.around ((pipeline.scannedPayloads diagnostics).filterMap fun payload =>
        payload.convert.toOption) := by
  unfold twoPhase around scannedPayloads
  cases pipeline.walker.visited with
  | nil => simp [localIssues, Collection.empty]
  | cons document documents =>
      simp only [issues_eq_filterMap, payloads, payloadsFrom_map_payload, reduceCtorEq, if_false,
        List.take_succ_cons, List.take_zero, List.drop_succ_cons, List.drop_zero]

theorem errors_twoPhase :
    (pipeline.twoPhase diagnostics).failures.map ExtractionFailure.error =
      (pipeline.scannedPayloads diagnostics).filterMap conversionError? := by
  unfold twoPhase scannedPayloads
  cases pipeline.walker.visited with
  | nil => rfl
  | cons document documents =>
      simp only [errors_eq_filterMap, payloads, payloadsFrom_map_payload, reduceCtorEq, if_false]

variable {pipeline} {diagnostics}

/-! ### Runs with plugins that do nothing to the files -/

section KeepsFiles

variable {tree : FileTree} {here : Location} {path : String} {exclusions : Exclusions}

/-- A run on a walk that knows nothing finds what the plugins find in the tree of its files. -/
theorem run_of_unknown {state : WalkState} (numbered : pipeline.walker.project.Numbered)
    (keep : ∀ plugin ∈ pipeline.walker.plugins, plugin.KeepsFiles)
    (whole : state.whole = none) (unknown : ∀ id, state.diagnostics? id = none) :
    (pipeline.run state).1 =
      pipeline.twoPhase (pipeline.walker.findings state.tree pipeline.walker.plugins) := by
  have coherent : pipeline.walker.Coherent state := Walker.coherent_of_unknown whole
  have undisturbed := @Walker.undisturbed_of_unknown pipeline.walker state unknown
  rw [run_eq_firstScan coherent]
  by_cases visited : pipeline.walker.visited = []
  · simp only [twoPhase, visited]
  · obtain ⟨module, member, scanned⟩ := firstScan_of_visited state visited
    have asked := (undisturbed.compile keep numbered member).2
    have fresh : (pipeline.walker.compile module state).2.whole = none := by
      rw [Walker.whole_compile]
      exact whole
    rw [scanned, asked.projectDiagnostics keep numbered fresh]

theorem run_of_keepsFiles {plugins : List Plugin} {state : WalkState}
    (opened : Walker.load tree here path plugins exclusions = .ok (pipeline.walker, state))
    (keep : ∀ plugin ∈ plugins, plugin.KeepsFiles) :
    (pipeline.run state).1 = pipeline.twoPhase (pipeline.walker.findings tree plugins) := by
  obtain ⟨-, whole, -, same⟩ := Walker.state_of_opened opened
  have registered := Walker.plugins_of_opened opened
  rw [← registered] at keep ⊢
  rw [run_of_unknown (Walker.numbered_of_opened opened) keep whole
    (Walker.unknown_of_opened opened), same]

end KeepsFiles

/-! ### Two parts of the plugins -/

def pluginIssues (pipeline : Pipeline) (tree : FileTree) (plugins : List Plugin) : List Issue :=
  (pipeline.scannedPayloads (pipeline.walker.findings tree plugins)).filterMap fun payload =>
    payload.convert.toOption

def pluginErrors (pipeline : Pipeline) (tree : FileTree) (plugins : List Plugin) :
    List ConversionError :=
  (pipeline.scannedPayloads (pipeline.walker.findings tree plugins)).filterMap conversionError?

structure Reports (pipeline : Pipeline) (tree : FileTree) (plugins : List Plugin)
    (report : Report) : Prop where
  issues : report.issues = pipeline.around (pipeline.pluginIssues tree plugins)
  errors : report.failures.map ExtractionFailure.error = pipeline.pluginErrors tree plugins
  documents : report.documents = pipeline.walker.visited.length

theorem reports_twoPhase (pipeline : Pipeline) (tree : FileTree) (plugins : List Plugin) :
    Reports pipeline tree plugins
      (pipeline.twoPhase (pipeline.walker.findings tree plugins)) where
  issues := issues_twoPhase pipeline _
  errors := errors_twoPhase pipeline _
  documents := documents_twoPhase pipeline _

/-- What holds of the reports of three runs on the same files: one with all of some plugins, and one
with each of the two parts into which they are split. -/
structure Isolated (pipeline : Pipeline) (tree : FileTree) (all first second : List Plugin)
    (allReport firstReport secondReport : Report) : Prop where
  reportsAll : Reports pipeline tree all allReport
  reportsFirst : Reports pipeline tree first firstReport
  reportsSecond : Reports pipeline tree second secondReport
  issues : Interleaves (pipeline.pluginIssues tree first) (pipeline.pluginIssues tree second)
    (pipeline.pluginIssues tree all)
  errors : Interleaves (pipeline.pluginErrors tree first) (pipeline.pluginErrors tree second)
    (pipeline.pluginErrors tree all)
  /-- Plugins that fail on every module could as well be left out. -/
  failing : (∀ plugin ∈ second, pipeline.walker.Fails tree plugin) → allReport = firstReport

section Parts

variable {all first second : List Plugin} (merge : Interleaves first second all)

include merge

theorem interleaves_findings (walker : Walker) (tree : FileTree) :
    Interleaves (walker.findings tree first) (walker.findings tree second)
      (walker.findings tree all) :=
  merge.nested walker.project.modules _

theorem interleaves_scannedPayloads (pipeline : Pipeline) (tree : FileTree) :
    Interleaves (pipeline.scannedPayloads (pipeline.walker.findings tree first))
      (pipeline.scannedPayloads (pipeline.walker.findings tree second))
      (pipeline.scannedPayloads (pipeline.walker.findings tree all)) := by
  have found := interleaves_findings merge pipeline.walker tree
  unfold scannedPayloads
  split
  · exact .nil
  · rw [payloadsIn_eq_flatMap, payloadsIn_eq_flatMap, payloadsIn_eq_flatMap]
    exact found.flatMap _

theorem findings_of_fails {walker : Walker} {tree : FileTree}
    (fails : ∀ plugin ∈ second, walker.Fails tree plugin) :
    walker.findings tree all = walker.findings tree first := by
  have nothing : walker.findings tree second = [] := by
    apply List.flatMap_eq_nil_iff.mpr
    intro module member
    apply List.flatMap_eq_nil_iff.mpr
    intro plugin registered
    obtain ⟨failure, failed⟩ := fails plugin registered module member
    exact Analysis.found_of_error failed
  have found := interleaves_findings merge walker tree
  rw [nothing] at found
  exact found.eq_left

theorem isolated_twoPhase (pipeline : Pipeline) (tree : FileTree) :
    Isolated pipeline tree all first second
      (pipeline.twoPhase (pipeline.walker.findings tree all))
      (pipeline.twoPhase (pipeline.walker.findings tree first))
      (pipeline.twoPhase (pipeline.walker.findings tree second)) := by
  have scanned := interleaves_scannedPayloads merge pipeline tree
  refine ⟨reports_twoPhase pipeline tree all, reports_twoPhase pipeline tree first,
    reports_twoPhase pipeline tree second, scanned.filterMap _, scanned.filterMap _, ?_⟩
  intro fails
  rw [findings_of_fails merge fails]

end Parts

/-- Whatever else is registered, plugins that do nothing to the files contribute the same. -/
theorem isolated_of_opened {tree : FileTree} {here : Location} {path : String}
    {exclusions : Exclusions} {all first second : List Plugin}
    {allWalker firstWalker secondWalker : Walker} {allState firstState secondState : WalkState}
    (allOpened : Walker.load tree here path all exclusions = .ok (allWalker, allState))
    (firstOpened : Walker.load tree here path first exclusions = .ok (firstWalker, firstState))
    (secondOpened : Walker.load tree here path second exclusions = .ok (secondWalker, secondState))
    (keep : ∀ plugin ∈ all, plugin.KeepsFiles) (merge : Interleaves first second all)
    (code : String) (localCheck : Bool) :
    Isolated ⟨allWalker, code, localCheck⟩ tree all first second
      (Pipeline.run ⟨allWalker, code, localCheck⟩ allState).1
      (Pipeline.run ⟨firstWalker, code, localCheck⟩ firstState).1
      (Pipeline.run ⟨secondWalker, code, localCheck⟩ secondState).1 := by
  rw [@run_of_keepsFiles ⟨allWalker, code, localCheck⟩ tree here path exclusions all allState
      allOpened keep,
    @run_of_keepsFiles ⟨firstWalker, code, localCheck⟩ tree here path exclusions first firstState
      firstOpened (merge.forall_left keep),
    @run_of_keepsFiles ⟨secondWalker, code, localCheck⟩ tree here path exclusions second
      secondState secondOpened (merge.forall_right keep)]
  obtain ⟨project, loaded, rfl, -⟩ := Walker.load_eq_ok.mp allOpened
  obtain ⟨firstProject, firstLoaded, rfl, -⟩ := Walker.load_eq_ok.mp firstOpened
  obtain ⟨secondProject, secondLoaded, rfl, -⟩ := Walker.load_eq_ok.mp secondOpened
  obtain rfl : project = firstProject := Except.ok.inj (loaded.symm.trans firstLoaded)
  obtain rfl : project = secondProject := Except.ok.inj (loaded.symm.trans secondLoaded)
  -- neither documents nor what a plugin is given depend on the plugins of a walker
  exact isolated_twoPhase merge ⟨⟨project, all, exclusions⟩, code, localCheck⟩ tree

def broken : Plugin :=
  Plugin.ofFunction "broken" fun _ => .error (.failed "out of order")

theorem isolated_marker_broken :
    Isolated ⟨⟨Walker.smallProject, [brittle, broken, marker], .none⟩, pluginCode, true⟩
      Walker.smallPackage [brittle, broken, marker] [brittle, marker] [broken]
      (Pipeline.run ⟨⟨Walker.smallProject, [brittle, broken, marker], .none⟩, pluginCode, true⟩
        Walker.smallState).1
      (Pipeline.run ⟨⟨Walker.smallProject, [brittle, marker], .none⟩, pluginCode, true⟩
        Walker.smallState).1
      (Pipeline.run ⟨⟨Walker.smallProject, [broken], .none⟩, pluginCode, true⟩
        Walker.smallState).1 :=
  isolated_of_opened (Walker.load_smallPackage [brittle, broken, marker] .none)
    (Walker.load_smallPackage [brittle, marker] .none) (Walker.load_smallPackage [broken] .none)
    (by simp [marker, brittle, broken, Plugin.keepsFiles_ofFunction])
    (.left (.right (.left .nil))) pluginCode true

end Pipeline

end IssueReport
