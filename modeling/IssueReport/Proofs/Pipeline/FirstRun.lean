import IssueReport.Proofs.Diagnostic.Acceptance
import IssueReport.Proofs.Pipeline.CompileOrder
import IssueReport.Proofs.Pipeline.Exclusion
/-!
What the first run on a walk calls and compiles. If a document is visited, every plugin is called once
on every module, also on those without a visited document, and each module is compiled once, the one
of the first visited document before the others. Otherwise nothing happens at all.
-/

namespace IssueReport

def Event.isModuleCompiled : Event → Bool
  | .moduleCompiled _ _ _ => true
  | _ => false

theorem CommandPlugin.leavesOut_isModuleCompiled (starter : Starter) (plugin : CommandPlugin) :
    (plugin.pluginOf starter).LeavesOut Event.isModuleCompiled := by
  intro tree input event member
  obtain ⟨code, kind, same⟩ := dropped_of_mem_events member
  rw [same]
  rfl

theorem Plugin.leavesOut_ofFunction (name : String)
    (answer : PluginInput → Except PluginFailure (List Diagnostic)) (kind : Event → Bool) :
    (Plugin.ofFunction name answer).LeavesOut kind := by
  intro tree input event member
  cases member

namespace Project

theorem Placed.module?_of_mem {project : Project} (placed : project.Placed) {module : Module}
    (member : module ∈ project.modules) {document : Document}
    (inModule : document ∈ module.documents) :
    project.module? document.id.module = some module := by
  obtain ⟨place, atPlace⟩ := List.getElem?_of_mem inModule
  obtain ⟨position, atPosition⟩ := List.getElem?_of_mem member
  rw [placed.documents module member place document atPlace,
    placed.modules position module atPosition]
  exact atPosition

end Project

namespace Walker

theorem mem_documents_of_mem_pairs (walker : Walker) {pair : Module × Document}
    (member : pair ∈ walker.pairs) : pair.2 ∈ pair.1.documents := by
  obtain ⟨module, -, found⟩ := List.mem_flatMap.mp member
  obtain ⟨document, listed, same⟩ := List.mem_map.mp found
  rw [← same]
  exact (List.mem_filter.mp listed).1

theorem compileOrder_of_numbered {walker : Walker} (numbered : walker.project.Numbered)
    {first : Module} {document : Document} {pairs : List (Module × Document)}
    (paired : walker.pairs = (first, document) :: pairs) :
    walker.compileOrder = first :: walker.project.modules.filter fun module => module ≠ first := by
  rw [compileOrder_of_pairs paired]
  congr 1
  apply List.filter_congr
  intro module member
  rw [decide_eq_decide, not_iff_not]
  constructor
  · exact numbered.eq_of_id_eq member (first_mem_modules paired)
  · intro same
    rw [same]

theorem sources_of_excluded {walker : Walker} {module : Module}
    (excluded : ∀ document ∈ module.documents, walker.isExcluded document = true)
    (tree : FileTree) : walker.sources tree module = [] := by
  have nothing : walker.documents module = [] := by
    rw [documents, List.filter_eq_nil_iff]
    intro document member
    rw [excluded document member]
    exact Bool.false_ne_true
  rw [sources, nothing]
  rfl

end Walker

namespace Pipeline

/-- What a run calls and logs that compiles modules in an order, each in the tree that the one before
it leaves. -/
structure CompilesOnce (pipeline : Pipeline) (before : WalkState) (order : List Module)
    (report : Report) (after : WalkState) : Prop where
  /-- Module after module, the plugins are called in the order of their registration, all of them on
  the sources that could be read before the first. -/
  calls : after.calls = (pipeline.walker.turnsFrom before.tree order).flatMap fun turn =>
    pipeline.walker.plugins.mapIdx fun position _ =>
      ⟨position, pipeline.walker.project.root, turn.module,
        pipeline.walker.sources turn.tree turn.module⟩
  /-- Every plugin is called once on every module of the project, and there are no other calls. -/
  once : ∀ position module,
    (after.calls.map fun call => (call.plugin, call.input.module)).count (position, module) =
      if position < pipeline.walker.plugins.length ∧ module ∈ pipeline.walker.project.modules then 1
      else 0
  excluded : ∀ call ∈ after.calls,
    (∀ document ∈ call.input.module.documents, pipeline.walker.isExcluded document = true) →
      call.input.sources = []
  known : ∀ turn ∈ pipeline.walker.turnsFrom before.tree order,
    after.diagnostics? turn.module.id = some (pipeline.walker.diagnosticsIn turn.tree turn.module)
  /-- A module is done when the number of its sources and of its diagnostics has been logged. -/
  events : after.events =
    before.events ++
      (pipeline.walker.turnsFrom before.tree order).flatMap (fun turn =>
        (pipeline.walker.unreadable turn.tree turn.module).map
            (fun document => .unreadableSource document.location) ++
          Walker.pluginEvents (pipeline.walker.pluginInput turn.tree turn.module) turn.tree
            pipeline.walker.plugins ++
          [.moduleCompiled turn.module.name
            (pipeline.walker.sources turn.tree turn.module).length
            (pipeline.walker.diagnosticsIn turn.tree turn.module).length]) ++
      report.failures.map failureEvent
  /-- There is one such event for each module, if no plugin pretends to have compiled one. -/
  logged : (∀ plugin ∈ pipeline.walker.plugins, plugin.LeavesOut Event.isModuleCompiled) →
    after.events.filter Event.isModuleCompiled =
      (pipeline.walker.turnsFrom before.tree order).map fun turn =>
        .moduleCompiled turn.module.name (pipeline.walker.sources turn.tree turn.module).length
          (pipeline.walker.diagnosticsIn turn.tree turn.module).length

variable {pipeline : Pipeline} {state : WalkState}

theorem calledOnce_run (coherent : pipeline.walker.Coherent state)
    (once : pipeline.walker.CalledOnce state) :
    pipeline.walker.CalledOnce (pipeline.run state).2 := by
  have scanned : pipeline.walker.CalledOnce (pipeline.firstScan state).2 := by
    unfold firstScan
    cases pipeline.walker.pairs with
    | nil => exact once
    | cons pair pairs => exact (once.compile pair.1).projectDiagnostics
  rw [run_eq_firstScan coherent]
  exact scanned.congr rfl rfl

theorem run_of_unvisited (coherent : pipeline.walker.Coherent state)
    (unvisited : pipeline.walker.visited = []) : (pipeline.run state).2 = state := by
  have paired := Walker.pairs_of_unvisited unvisited
  rw [run_eq_firstScan coherent]
  simp only [firstScan, paired, twoPhase, unvisited, List.map_nil, WalkState.log, List.append_nil]

/-! ### Walks of which nothing is known -/

structure Fresh (state : WalkState) : Prop where
  whole : state.whole = none
  unknown : ∀ id, state.diagnostics? id = none
  uncalled : state.calls = []
  unlogged : state.events.filter Event.isModuleCompiled = []

theorem Fresh.calledOnce (fresh : Fresh state) : pipeline.walker.CalledOnce state := by
  have nobody : ∀ call, call ∉ state.calls := by
    rw [fresh.uncalled]
    exact fun call => List.not_mem_nil
  refine ⟨?_, fun call called => absurd called (nobody call),
    fun call called => absurd called (nobody call)⟩
  rw [fresh.uncalled]
  exact List.nodup_nil

theorem Fresh.coherent (fresh : Fresh state) : pipeline.walker.Coherent state :=
  Walker.coherent_of_unknown fresh.whole

theorem filter_isModuleCompiled_failures (failures : List ExtractionFailure) :
    (failures.map failureEvent).filter Event.isModuleCompiled = [] := by
  rw [List.filter_eq_nil_iff]
  intro event member
  obtain ⟨failure, -, same⟩ := List.mem_map.mp member
  rw [← same]
  exact Bool.false_ne_true

theorem filter_isModuleCompiled_turns {walker : Walker} (turns : List Walker.Turn) :
    (turns.map walker.compilationEvent).filter Event.isModuleCompiled =
      turns.map walker.compilationEvent := by
  rw [List.filter_eq_self]
  intro event member
  obtain ⟨turn, -, same⟩ := List.mem_map.mp member
  rw [← same]
  rfl

section Fresh

variable (fresh : Fresh state) {first : Module} {document : Document}
  {pairs : List (Module × Document)} (paired : pipeline.walker.pairs = (first, document) :: pairs)

include fresh paired

theorem diagnostics?_run_of_fresh (id : ModuleId) :
    (pipeline.run state).2.diagnostics? id =
      (pipeline.walker.compileAll state pipeline.walker.compileOrder).2.diagnostics? id := by
  have whole : (pipeline.walker.compile first state).2.whole = none := by
    rw [Walker.whole_compile]
    exact fresh.whole
  rw [run_eq_firstScan fresh.coherent, firstScan, paired,
    ← Walker.compileAll_compileOrder state paired]
  dsimp only
  rw [Walker.projectDiagnostics_of_unknown whole]
  rfl

variable (numbered : pipeline.walker.project.Numbered)

include numbered

theorem turns_of_fresh :
    pipeline.walker.turns state pipeline.asked =
      pipeline.walker.turnsFrom state.tree pipeline.walker.compileOrder := by
  have untouched := Walker.untouched_of_unknown numbered fresh.unknown
  unfold asked
  rw [paired, Walker.turns_compileOrder state paired, untouched.turns_eq]

theorem calls_of_fresh :
    (pipeline.run state).2.calls =
      pipeline.walker.turnCalls
        (pipeline.walker.turnsFrom state.tree pipeline.walker.compileOrder) := by
  rw [run_calls fresh.coherent, turns_of_fresh fresh paired numbered, fresh.uncalled,
    List.nil_append]

theorem mem_calls_of_fresh {position : Nat} {module : Module} :
    (position, module) ∈
        ((pipeline.run state).2.calls.map fun call => (call.plugin, call.input.module)) ↔
      position < pipeline.walker.plugins.length ∧ module ∈ pipeline.walker.project.modules := by
  have listed := @Walker.turnsFrom_map_module pipeline.walker state.tree
    pipeline.walker.compileOrder
  rw [calls_of_fresh fresh paired numbered, ← Walker.mem_compileOrder paired numbered, List.mem_map]
  constructor
  · intro called
    obtain ⟨call, made, same⟩ := called
    obtain ⟨turn, taken, among⟩ := List.mem_flatMap.mp made
    obtain ⟨bounded, input⟩ := (Walker.mem_callsIn _ turn.tree turn.module).mp among
    rw [Prod.mk.injEq, input] at same
    rw [← same.1, ← same.2]
    refine ⟨bounded, ?_⟩
    rw [← listed]
    exact List.mem_map_of_mem taken
  · intro expected
    obtain ⟨bounded, member⟩ := expected
    rw [← listed] at member
    obtain ⟨turn, taken, same⟩ := List.mem_map.mp member
    refine ⟨⟨position, pipeline.walker.pluginInput turn.tree turn.module⟩, ?_, ?_⟩
    · exact List.mem_flatMap.mpr ⟨turn, taken, (Walker.mem_callsIn _ _ _).mpr ⟨bounded, rfl⟩⟩
    · rw [← same]
      rfl

theorem compilesOnce_of_fresh :
    pipeline.CompilesOnce state pipeline.walker.compileOrder (pipeline.run state).1
      (pipeline.run state).2 := by
  have turns := turns_of_fresh fresh paired numbered
  have calls := calls_of_fresh fresh paired numbered
  have events := @run_events pipeline state fresh.coherent
  rw [turns] at events
  constructor
  · exact calls
  · -- no call is made twice, and there is one for each plugin and module
    intro position module
    have distinct := (@calledOnce_run pipeline state fresh.coherent fresh.calledOnce).calls_nodup
    have called := @mem_calls_of_fresh pipeline state fresh first document pairs paired numbered
      position module
    split
    next expected => exact List.count_eq_one_of_mem distinct (called.mpr expected)
    next unexpected => exact List.count_eq_zero.mpr fun present => unexpected (called.mp present)
  · intro call made everything
    rw [calls] at made
    obtain ⟨turn, -, among⟩ := List.mem_flatMap.mp made
    have input := ((Walker.mem_callsIn _ turn.tree turn.module).mp among).2
    rw [input] at everything ⊢
    exact Walker.sources_of_excluded everything turn.tree
  · intro turn taken
    rw [diagnostics?_run_of_fresh fresh paired]
    exact (Walker.untouched_of_unknown numbered fresh.unknown).diagnostics?_compileAll taken
  · rw [events, List.append_assoc]
    unfold Walker.turnEvents
    simp only [Walker.compileFresh_events]
  · intro leave
    rw [events, List.filter_append, List.filter_append, fresh.unlogged,
      filter_isModuleCompiled_failures,
      Walker.filter_turnEvents (fun _ _ _ => rfl) (fun _ => rfl) leave,
      filter_isModuleCompiled_turns, List.nil_append, List.append_nil]
    rfl

end Fresh

/-- The first run on an opened walker, whatever has happened to the files since it was opened. -/
theorem compilesOnce_of_opened {tree : FileTree} {here : Location} {path : String}
    {plugins : List Plugin} {exclusions : Exclusions} {walker : Walker} {state : WalkState}
    (opened : Walker.load tree here path plugins exclusions = .ok (walker, state))
    (changed : FileTree) (code : String) (localCheck : Bool) :
    (walker.visited = [] →
      (run ⟨walker, code, localCheck⟩ { state with tree := changed }).2 =
          { state with tree := changed } ∧
        state.calls = [] ∧ state.compiled = []) ∧
      ∀ document documents, walker.visited = document :: documents →
        ∃ first, walker.project.module? document.id.module = some first ∧
          document ∈ first.documents ∧
          CompilesOnce ⟨walker, code, localCheck⟩ { state with tree := changed }
            (first :: walker.project.modules.filter fun module => module ≠ first)
            (run ⟨walker, code, localCheck⟩ { state with tree := changed }).1
            (run ⟨walker, code, localCheck⟩ { state with tree := changed }).2 := by
  obtain ⟨project, loaded, same, started⟩ := Walker.load_eq_ok.mp opened
  obtain ⟨compiled, whole, uncalled, -⟩ := Walker.state_of_opened opened
  have unknown := Walker.unknown_of_opened opened
  have placed : walker.project.Placed := by
    rw [same]
    exact Project.placed_of_load loaded
  have fresh : Fresh { state with tree := changed } := by
    refine ⟨whole, unknown, uncalled, ?_⟩
    rw [started]
    rfl
  constructor
  · intro unvisited
    exact ⟨@run_of_unvisited ⟨walker, code, localCheck⟩ _ fresh.coherent unvisited, uncalled,
      compiled⟩
  · intro document documents visited
    rw [← Walker.pairs_map_snd] at visited
    obtain ⟨⟨first, visitedFirst⟩, pairs, paired, sameDocument, -⟩ := List.map_eq_cons_iff.mp visited
    have listed : (first, visitedFirst) ∈ walker.pairs := by
      rw [paired]
      exact List.mem_cons_self
    have inModule := walker.mem_documents_of_mem_pairs listed
    rw [← sameDocument]
    refine ⟨first, placed.module?_of_mem (walker.mem_modules_of_mem_pairs listed) inModule,
      inModule, ?_⟩
    rw [← Walker.compileOrder_of_numbered placed.modules paired]
    exact @compilesOnce_of_fresh ⟨walker, code, localCheck⟩ _ fresh first visitedFirst pairs paired
      placed.modules

def defaultSkipped : Exclusions :=
  ⟨[⟨"main*", [.literal 'm', .literal 'a', .literal 'i', .literal 'n', .star]⟩,
    ⟨"skip*", [.literal 's', .literal 'k', .literal 'i', .literal 'p', .star]⟩]⟩

def allSkipped : Exclusions :=
  ⟨[⟨"*", [.star]⟩]⟩

/-- The only source that is visited there is written again after the package was opened. -/
def mixedRewritten : FileTree :=
  mixedPackage.insert ["shop", "modules", "cart", "cart.bal"] (.file [0x64])

/-- Two plugins, the first of which fails on one of the modules, and a program that prints sources. -/
def mixedPlugins : List Plugin :=
  [brittle, Walker.echo, CommandPlugin.toPlugin ⟨"printer", "cat", []⟩]

theorem leavesOut_of_mem_mixedPlugins {plugin : Plugin} (member : plugin ∈ mixedPlugins) :
    plugin.LeavesOut Event.isModuleCompiled := by
  rcases List.mem_cons.mp member with first | later
  · rw [first]
    exact Plugin.leavesOut_ofFunction _ _ _
  · rcases List.mem_cons.mp later with second | third
    · rw [second]
      exact Plugin.leavesOut_ofFunction _ _ _
    · rw [List.mem_singleton.mp third]
      exact CommandPlugin.leavesOut_isModuleCompiled _ _

/-- The module with the only visited document comes first, though it is the last of the project. -/
theorem compilesOnce_mixedPackage :
    (∃ cart shop, mixedProject.modules = [shop, cart] ∧
      CompilesOnce ⟨⟨mixedProject, mixedPlugins, defaultSkipped⟩, pluginCode, true⟩
        { mixedState with tree := mixedRewritten } [cart, shop]
        (run ⟨⟨mixedProject, mixedPlugins, defaultSkipped⟩, pluginCode, true⟩
          { mixedState with tree := mixedRewritten }).1
        (run ⟨⟨mixedProject, mixedPlugins, defaultSkipped⟩, pluginCode, true⟩
          { mixedState with tree := mixedRewritten }).2) ∧
      ((run ⟨⟨mixedProject, mixedPlugins, defaultSkipped⟩, pluginCode, true⟩
          { mixedState with tree := mixedRewritten }).2.calls.map fun call =>
            (call.plugin, call.input.module.name, call.input.sources.length)) =
        [(0, "shop.cart", 1), (1, "shop.cart", 1), (2, "shop.cart", 1), (0, "shop", 0),
          (1, "shop", 0), (2, "shop", 0)] ∧
      (run ⟨⟨mixedProject, mixedPlugins, defaultSkipped⟩, pluginCode, true⟩
          { mixedState with tree := mixedRewritten }).2.events.filter Event.isModuleCompiled =
        [.moduleCompiled "shop.cart" 1 1, .moduleCompiled "shop" 0 1] ∧
      (run ⟨⟨mixedProject, mixedPlugins, allSkipped⟩, pluginCode, true⟩
        { mixedState with tree := mixedRewritten }).2 =
          { mixedState with tree := mixedRewritten } := by
  have visited : Walker.visited ⟨mixedProject, mixedPlugins, defaultSkipped⟩ =
      [⟨⟨⟨1⟩, 0⟩, "cart.bal", ["shop", "modules", "cart", "cart.bal"]⟩] := by
    rfl
  have unvisited : Walker.visited ⟨mixedProject, mixedPlugins, allSkipped⟩ = [] := by
    rfl
  obtain ⟨first, found, -, compiles⟩ := (compilesOnce_of_opened
    (load_mixedPackage mixedPlugins defaultSkipped) mixedRewritten pluginCode true).2 _ _ visited
  have same := Option.some.inj found
  rw [← same] at compiles
  refine ⟨⟨_, _, rfl, compiles⟩, ?_, ?_, ((compilesOnce_of_opened
    (load_mixedPackage mixedPlugins allSkipped) mixedRewritten pluginCode true).1 unvisited).1⟩
  · rw [compiles.calls]
    rfl
  · rw [compiles.logged fun plugin member => leavesOut_of_mem_mixedPlugins member]
    rfl

end Pipeline

end IssueReport
