import IssueReport.Plugin.Command
import IssueReport.Proofs.Diagnostic.Listing
import IssueReport.Proofs.Pipeline.CompileOrder
/-!
Reports that come back. A program that prints the issues of a report as payloads of diagnostics, in
groups of any size, gives a run the same issues in the same order, once for each module.
-/

namespace IssueReport

/-! ### Programs that print issues -/

namespace CommandPlugin

variable (starter : Starter) (plugin : CommandPlugin)

theorem analyze_of_printed {tree : FileTree} {input : PluginInput} {result : Command.Result}
    {found : List Wire.Diagnostic} (started : startOn starter plugin tree input = .ok result)
    (succeeded : result.ending = .exit 0) (parsed : Wire.parse result.output = .ok found) :
    (plugin.analyze starter tree input).found = found.map Wire.Diagnostic.accept ∧
      (plugin.analyze starter tree input).tree = result.tree := by
  have analysis : plugin.analyze starter tree input =
      diagnosticsOf plugin.command result.tree result.output := by
    unfold analyze
    simp only [started]
    rw [if_pos succeeded]
  rw [analysis]
  unfold diagnosticsOf
  rw [parsed]
  exact ⟨rfl, rfl⟩

/-- The program prints issues for one module after the other, each in the tree that the one before
left. -/
inductive Prints (walker : Walker) (code : String) (issues : List Issue) :
    FileTree → List Module → Prop
  | none (tree : FileTree) : Prints walker code issues tree []
  | next {tree : FileTree} {module : Module} {modules : List Module} {result : Command.Result}
      {groups : List (List Issue)}
      (started : startOn starter plugin tree (walker.pluginInput tree module) = .ok result)
      (succeeded : result.ending = .exit 0) (lists : Wire.Lists code result.output groups)
      (whole : groups.flatten = issues) (rest : Prints walker code issues result.tree modules) :
      Prints walker code issues tree (module :: modules)

end CommandPlugin

/-! ### Walks of such a program -/

namespace Walker

def HoldsIssues (code : String) (issues : List Issue) (state : WalkState) (module : Module) :
    Prop :=
  ∃ found, state.diagnostics? module.id = some found ∧
    Pipeline.payloadsIn code found = issues.map fun issue => Payload.ofJson issue.toJson

theorem HoldsIssues.extend {code : String} {issues : List Issue} {before after : WalkState}
    {module : Module} (holds : HoldsIssues code issues before module)
    (kept : before.Extends after) : HoldsIssues code issues after module := by
  obtain ⟨found, known, payloads⟩ := holds
  exact ⟨found, kept _ _ known, payloads⟩

variable {walker : Walker} {starter : CommandPlugin.Starter} {plugin : CommandPlugin}
  {code : String} {issues : List Issue}

/-- What one run of the program adds to a walk. -/
theorem compile_of_printed (only : walker.plugins = [plugin.pluginOf starter]) {state : WalkState}
    {module : Module} (unknown : state.diagnostics? module.id = none) {result : Command.Result}
    {groups : List (List Issue)}
    (started : CommandPlugin.startOn starter plugin state.tree
      (walker.pluginInput state.tree module) = .ok result)
    (succeeded : result.ending = .exit 0) (lists : Wire.Lists code result.output groups)
    (whole : groups.flatten = issues) :
    HoldsIssues code issues (walker.compile module state).2 module ∧
      (walker.compile module state).2.tree = result.tree := by
  obtain ⟨found, parsed, payloads⟩ := lists.parse_eq
  obtain ⟨analysisFound, analysisTree⟩ :=
    CommandPlugin.analyze_of_printed starter plugin started succeeded parsed
  have diagnostics : walker.diagnosticsIn state.tree module =
      found.map Wire.Diagnostic.accept := by
    unfold diagnosticsIn
    rw [only]
    change (plugin.analyze starter _ _).found ++ [] = _
    rw [List.append_nil, analysisFound]
  constructor
  · refine ⟨_, diagnostics?_compile_self walker state module, ?_⟩
    rw [compile_of_unknown walker state module unknown, diagnostics, payloads, whole]
  · rw [compile_of_unknown walker state module unknown]
    change (walker.compileFresh state.tree module).tree = _
    rw [compileFresh_tree, only]
    exact analysisTree

theorem compileAll_of_printed (only : walker.plugins = [plugin.pluginOf starter]) {tree : FileTree}
    {modules : List Module} (prints : plugin.Prints starter walker code issues tree modules)
    {state : WalkState} (here : state.tree = tree) (untouched : Untouched state modules) :
    ∀ module ∈ modules, HoldsIssues code issues (walker.compileAll state modules).2 module := by
  induction prints generalizing state with
  | none => exact fun module impossible => nomatch impossible
  | @next tree first modules result groups started succeeded lists whole rest ih =>
      rw [← here] at started
      obtain ⟨holds, left⟩ := compile_of_printed only
        (untouched.unknown first List.mem_cons_self) started succeeded lists whole
      intro module member
      rcases List.mem_cons.mp member with same | later
      · rw [same]
        exact holds.extend (extends_compileAll walker _ modules)
      · exact ih left untouched.compile module later

/-- The diagnostics of a project whose program prints issues hold them once for each module. -/
theorem payloadsIn_projectDiagnostics (numbered : walker.project.Numbered)
    (only : walker.plugins = [plugin.pluginOf starter]) {state : WalkState}
    (fresh : state.whole = none) (unknown : ∀ module, state.diagnostics? module = none)
    {first : Module} {document : Document} {pairs : List (Module × Document)}
    (paired : walker.pairs = (first, document) :: pairs)
    (prints : plugin.Prints starter walker code issues state.tree walker.compileOrder) :
    Pipeline.payloadsIn code (walker.projectDiagnostics (walker.compile first state).2).1 =
      (List.replicate walker.project.modules.length issues).flatten.map fun issue =>
        Payload.ofJson issue.toJson := by
  have holds := compileAll_of_printed only prints rfl (untouched_of_unknown numbered unknown)
  have after := compileAll_compileOrder state paired
  have known : ∀ module ∈ walker.project.modules,
      Pipeline.payloadsIn code
          ((walker.compileAll state walker.compileOrder).2.known module) =
        issues.map fun issue => Payload.ofJson issue.toJson := by
    intro module member
    obtain ⟨found, settled, payloads⟩ := holds module ((mem_compileOrder paired numbered).mpr member)
    rw [WalkState.known, settled]
    exact payloads
  rw [projectDiagnostics_of_unknown ((whole_compile walker state first).trans fresh)]
  change Pipeline.payloadsIn code (walker.compileAll _ _).1 = _
  rw [compileAll_eq_flatMap, after, Pipeline.payloadsIn_flatMap, List.flatMap_def,
    List.map_congr_left known, List.map_const', List.map_flatten, List.map_replicate]

end Walker

/-! ### Reports -/

namespace Pipeline

/-- A report that gives issues back: nothing else is in it, and nothing has failed. -/
structure GivesBack (report : Report) (printed : List Issue) : Prop where
  issues : report.issues = ⟨printed⟩
  failures : report.failures = []
  render : report.issues.render = (⟨printed⟩ : Collection).render
  reportText : report.issues.reportText = (⟨printed⟩ : Collection).reportText

theorem givesBack_of_payloads {pipeline : Pipeline} (unchecked : pipeline.localCheck = false)
    (visited : pipeline.walker.visited ≠ []) {diagnostics : List Diagnostic}
    {printed : List Issue}
    (payloads : payloadsIn pipeline.code diagnostics =
      printed.map fun issue => Payload.ofJson issue.toJson) :
    GivesBack (pipeline.twoPhase diagnostics) printed := by
  have converted : ((Pipeline.payloads pipeline.code diagnostics).map Located.payload).map
      Payload.convert = printed.map .ok := by
    unfold Pipeline.payloads
    rw [payloadsFrom_map_payload, payloads, List.map_map]
    apply List.map_congr_left
    intro issue _member
    rw [Function.comp_apply, issue.convert_toJson]
  obtain ⟨found, failed⟩ := issues_of_convert converted
  have unlisted : ∀ documents, pipeline.localIssues documents = [] := by
    intro documents
    rw [localIssues, unchecked, if_neg Bool.false_ne_true]
  have issues : (pipeline.twoPhase diagnostics).issues = ⟨printed⟩ := by
    unfold twoPhase
    cases listed : pipeline.walker.visited with
    | nil => exact absurd listed visited
    | cons first rest =>
        simp only [unlisted, List.nil_append, List.append_nil, found]
  have failures : (pipeline.twoPhase diagnostics).failures = [] := by
    unfold twoPhase
    cases listed : pipeline.walker.visited with
    | nil => rfl
    | cons first rest => exact failed
  exact ⟨issues, failures, congrArg Collection.render issues,
    congrArg Collection.reportText issues⟩

/-- If the program of the only plugin prints issues, however it is started and however they are
grouped, a run without the local check gives them back, once for each module. -/
theorem givesBack_of_opened {tree : FileTree} {here : Location} {path : String}
    {starter : CommandPlugin.Starter} {plugin : CommandPlugin} {exclusions : Exclusions}
    {walker : Walker} {state : WalkState}
    (opened : Walker.load tree here path [plugin.pluginOf starter] exclusions =
      .ok (walker, state))
    (visited : walker.visited ≠ []) {code : String} {issues : List Issue}
    (prints : plugin.Prints starter walker code issues tree walker.compileOrder) :
    GivesBack ((⟨walker, code, false⟩ : Pipeline).run state).1
        (List.replicate walker.project.modules.length issues).flatten ∧
      (walker.project.modules.length = 1 →
        GivesBack ((⟨walker, code, false⟩ : Pipeline).run state).1 issues) := by
  have repeated : GivesBack ((⟨walker, code, false⟩ : Pipeline).run state).1
      (List.replicate walker.project.modules.length issues).flatten := by
    rw [run_eq_firstScan (Walker.coherent_of_opened opened)]
    apply givesBack_of_payloads rfl visited
    obtain ⟨_compiled, fresh, _calls, sameTree⟩ := Walker.state_of_opened opened
    rw [← sameTree] at prints
    unfold firstScan
    cases paired : walker.pairs with
    | nil =>
        rw [← Walker.pairs_map_snd, paired] at visited
        exact absurd rfl visited
    | cons pair pairs =>
        exact Walker.payloadsIn_projectDiagnostics (Walker.numbered_of_opened opened)
          (Walker.plugins_of_opened opened) fresh (Walker.unknown_of_opened opened) paired prints
  refine ⟨repeated, ?_⟩
  intro single
  rw [single, List.replicate_one, List.flatten_singleton] at repeated
  exact repeated

def listingSource (text : List UInt8) : FileTree :=
  ⟨[(["main.bal"], .file text)], []⟩

def listingPackage (text : List UInt8) : FileTree :=
  ⟨[(["shop"], .directory), (["shop", "Ballerina.toml"], .file []),
    (["shop", "main.bal"], .file text), (["shop", "modules"], .directory),
    (["shop", "modules", "cart"], .directory),
    (["shop", "modules", "cart", "cart.bal"], .file text)], []⟩

theorem load_listingPackage (text : List UInt8) :
    Project.load (listingPackage text) [] "/shop" = .ok Walker.smallProject := by
  have found : (listingPackage text).canonicalize [] "/shop" = .ok ["shop"] := by rfl
  have directory : (listingPackage text).nodeAt? ["shop"] = some .directory := by rfl
  have manifested : (listingPackage text).isFileIn ["shop"] Project.manifest = true := by rfl
  have listed : Project.unlisted? (listingPackage text) ["shop"] = none := by rfl
  have package : Project.ofPackage (listingPackage text) ["shop"] = Walker.smallProject := by rfl
  have loaded := Project.loadPackage_eq_ok.mpr ⟨manifested, listed, package.symm⟩
  unfold Project.load
  rw [found]
  dsimp only
  rw [directory]
  dsimp only
  rw [loaded]
  rfl

def printer : CommandPlugin := ⟨"printer", "cat", []⟩

def printingWalker (project : Project) : Walker :=
  ⟨project, [printer.toPlugin], Exclusions.none⟩

def printingState (tree : FileTree) (project : Project) : WalkState :=
  (WalkState.initial tree).log
    [.projectLoaded project.root project.kind project.modules.length]

theorem load_printing {tree : FileTree} {path : String} {project : Project}
    (loaded : Project.load tree [] path = .ok project) :
    Walker.load tree [] path [printer.toPlugin] Exclusions.none =
      .ok (printingWalker project, printingState tree project) :=
  Walker.load_eq_ok.mpr ⟨project, loaded, rfl, rfl⟩

theorem prints_listingSource {code : String} {text : List UInt8} {groups : List (List Issue)}
    (lists : Wire.Lists code text groups) :
    printer.Prints CommandPlugin.start (printingWalker (Project.ofSource ["main.bal"])) code
      groups.flatten (listingSource text)
      (printingWalker (Project.ofSource ["main.bal"])).compileOrder := by
  have started : CommandPlugin.start (listingSource text)
      ⟨[], [(CommandPlugin.moduleVariable, "main")]⟩ "cat" ["/main.bal"] =
        .ok (Command.Program.quiet (listingSource text) text 0) := by rfl
  exact .next started rfl lists rfl (.none _)

theorem prints_listingPackage {code : String} {text : List UInt8} {groups : List (List Issue)}
    (lists : Wire.Lists code text groups) :
    printer.Prints CommandPlugin.start (printingWalker Walker.smallProject) code groups.flatten
      (listingPackage text) (printingWalker Walker.smallProject).compileOrder := by
  have main : CommandPlugin.start (listingPackage text)
      ⟨["shop"], [(CommandPlugin.moduleVariable, "shop")]⟩ "cat" ["/shop/main.bal"] =
        .ok (Command.Program.quiet (listingPackage text) text 0) := by rfl
  have cart : CommandPlugin.start (listingPackage text)
      ⟨["shop"], [(CommandPlugin.moduleVariable, "shop.cart")]⟩ "cat"
        ["/shop/modules/cart/cart.bal"] =
        .ok (Command.Program.quiet (listingPackage text) text 0) := by rfl
  exact .next main rfl lists rfl (.next cart rfl lists rfl (.none _))

/-- An issue with texts that have to be escaped and the greatest coordinate. -/
def quotedIssue : Issue where
  start := ⟨0, 3⟩
  finish := ⟨4294967295, 0⟩
  ruleId := "S\"1\""
  message := "a\ttab, a \\ and \u00e9"
  issueType := ""
  fileName := "main.bal"
  reportedFilePath := "/shop/main.bal"
  start_bounded := by decide
  finish_bounded := by decide
  start_le_finish := by decide
  ruleId_ne_empty := by decide
  message_ne_empty := by decide

def printedGroups : List (List Issue) :=
  [[quotedIssue, quotedIssue], [], [quotedIssue]]

def printedText : Json.Input :=
  Text.utf8 (Json.toText .indented (.array (printedGroups.map (Wire.element pluginCode)))) ++
    [0x0A]

theorem lists_printedText : Wire.Lists pluginCode printedText printedGroups := by
  apply Wire.lists_elements
  intro byte present
  rw [List.mem_singleton.mp present]
  rfl

/-- A project of one module gives the issues back, one of two modules gives them twice. -/
theorem givesBack_listings :
    GivesBack
        ((⟨printingWalker (Project.ofSource ["main.bal"]), pluginCode, false⟩ : Pipeline).run
          (printingState (listingSource printedText) (Project.ofSource ["main.bal"]))).1
        printedGroups.flatten ∧
      GivesBack
        ((⟨printingWalker Walker.smallProject, pluginCode, false⟩ : Pipeline).run
          (printingState (listingPackage printedText) Walker.smallProject)).1
        (printedGroups.flatten ++ printedGroups.flatten) := by
  have source : Project.load (listingSource printedText) [] "/main.bal" =
      .ok (Project.ofSource ["main.bal"]) := by rfl
  constructor
  · exact (givesBack_of_opened (load_printing source) (by decide)
      (prints_listingSource lists_printedText)).2 rfl
  · exact (givesBack_of_opened (load_printing (load_listingPackage printedText)) (by decide)
      (prints_listingPackage lists_printedText)).1

end Pipeline

end IssueReport
