import IssueReport.Proofs.Walker.Steps
/-!
What the answers of a run depend on. A module is compiled in the tree that stands when a run first
asks for its diagnostics, directly or for the whole project, and every answer about it, before or
after changes of the files, comes from that tree.
-/

namespace IssueReport

namespace Walker

variable (walker : Walker) (module : Module)

def firstTreeAmong? (state : WalkState) : List Module → Option FileTree
  | [] => none
  | next :: modules =>
      if next = module then some state.tree
      else firstTreeAmong? (walker.compile next state).2 modules

/-- The tree that stands when a run first asks for the diagnostics of a module. -/
def firstTree? (state : WalkState) : List WalkStep → Option FileTree
  | [] => none
  | step :: steps =>
      (walker.firstTreeAmong? module state (walker.asked step)).or
        (firstTree? (walker.step state step).2 steps)

/-- The diagnostics of a module in the tree in which a run first asks for them. -/
def settledIn (state : WalkState) (steps : List WalkStep) : List Diagnostic :=
  ((walker.firstTree? module state steps).map fun tree => walker.diagnosticsIn tree module).getD []

theorem firstTreeAmong?_isSome (state : WalkState) {modules : List Module}
    (member : module ∈ modules) : (walker.firstTreeAmong? module state modules).isSome := by
  induction modules generalizing state with
  | nil => cases member
  | cons next modules ih =>
      simp only [firstTreeAmong?]
      by_cases same : next = module
      · rw [if_pos same]
        rfl
      · rw [if_neg same]
        have later := (List.mem_cons.mp member).resolve_left fun equal => same equal.symm
        exact ih (walker.compile next state).2 later

theorem firstTree?_isSome (state : WalkState) {steps : List WalkStep} {step : WalkStep}
    (stepMember : step ∈ steps) (member : module ∈ walker.asked step) :
    (walker.firstTree? module state steps).isSome := by
  induction steps generalizing state with
  | nil => cases stepMember
  | cons first steps ih =>
      simp only [firstTree?, Option.isSome_or, Bool.or_eq_true]
      rcases List.mem_cons.mp stepMember with same | later
      · subst same
        exact Or.inl (firstTreeAmong?_isSome walker module state member)
      · exact Or.inr (ih (walker.step state first).2 later)

variable {walker} {module} {state : WalkState}

theorem diagnostics?_compileAll (numbered : walker.project.Numbered) {modules : List Module}
    (within : ∀ other ∈ modules, other ∈ walker.project.modules)
    (member : module ∈ walker.project.modules)
    (unknown : state.diagnostics? module.id = none) :
    (walker.compileAll state modules).2.diagnostics? module.id =
      (walker.firstTreeAmong? module state modules).map fun tree =>
        walker.diagnosticsIn tree module := by
  induction modules generalizing state with
  | nil => exact unknown
  | cons next modules ih =>
      simp only [compileAll, firstTreeAmong?]
      by_cases same : next = module
      · subst same
        rw [if_pos rfl, Option.map_some]
        have known := diagnostics?_compile_self walker state next
        rw [compile_of_unknown walker state next unknown] at known ⊢
        exact extends_compileAll walker _ modules _ _ known
      · rw [if_neg same]
        have different : module.id ≠ next.id := by
          intro ids
          have nextMember := within next List.mem_cons_self
          exact same (numbered.eq_of_id_eq member nextMember ids).symm
        apply ih fun other otherMember => within other (List.mem_cons_of_mem next otherMember)
        rw [diagnostics?_compile_of_ne walker state next different]
        exact unknown

/-- A run knows of a module what the tree of its first compilation gives. -/
theorem diagnostics?_run (numbered : walker.project.Numbered) (coherent : walker.Coherent state)
    (member : module ∈ walker.project.modules)
    (unknown : state.diagnostics? module.id = none) (steps : List WalkStep) :
    (walker.run state steps).2.diagnostics? module.id =
      (walker.firstTree? module state steps).map fun tree =>
        walker.diagnosticsIn tree module := by
  induction steps generalizing state with
  | nil => exact unknown
  | cons step steps ih =>
      simp only [Walker.run, firstTree?]
      have within : ∀ other ∈ walker.asked step, other ∈ walker.project.modules :=
        fun other asked => mem_modules_of_asked walker asked
      have stepped := diagnostics?_compileAll numbered within member unknown
      rw [← diagnostics?_step coherent] at stepped
      cases first : walker.firstTreeAmong? module state (walker.asked step) with
      | some tree =>
          rw [first, Option.map_some] at stepped
          rw [Option.some_or, Option.map_some]
          exact extends_run (coherent.step step) steps _ _ stepped
      | none =>
          rw [first, Option.map_none] at stepped
          rw [Option.none_or]
          exact ih (coherent.step step) stepped

theorem known_run_eq_settledIn (numbered : walker.project.Numbered)
    (coherent : walker.Coherent state) (member : module ∈ walker.project.modules)
    (unknown : state.diagnostics? module.id = none) (steps : List WalkStep) :
    (walker.run state steps).2.known module = walker.settledIn module state steps := by
  unfold WalkState.known settledIn
  rw [diagnostics?_run numbered coherent member unknown]

/-! ### Opened walkers -/

section Opened

variable {tree : FileTree} {here : Location} {path : String} {plugins : List Plugin}
  {exclusions : Exclusions}

theorem load_eq_ok :
    Walker.load tree here path plugins exclusions = .ok (walker, state) ↔
      ∃ project, Project.load tree here path = .ok project ∧
        walker = ⟨project, plugins, exclusions⟩ ∧
        state = (WalkState.initial tree).log
          [.projectLoaded project.root project.kind project.modules.length] := by
  unfold Walker.load
  constructor
  · intro opened
    cases loaded : Project.load tree here path with
    | error error =>
        rw [loaded] at opened
        cases opened
    | ok project =>
        rw [loaded] at opened
        cases opened
        exact ⟨project, rfl, rfl, rfl⟩
  · rintro ⟨project, loaded, rfl, rfl⟩
    rw [loaded]

theorem numbered_of_opened
    (opened : Walker.load tree here path plugins exclusions = .ok (walker, state)) :
    walker.project.Numbered := by
  obtain ⟨project, loaded, same, -⟩ := load_eq_ok.mp opened
  rw [same]
  exact Project.numbered_of_load loaded

theorem plugins_of_opened
    (opened : Walker.load tree here path plugins exclusions = .ok (walker, state)) :
    walker.plugins = plugins := by
  obtain ⟨project, -, same, -⟩ := load_eq_ok.mp opened
  rw [same]

/-- A walker that has just been opened knows nothing and has called nobody. -/
theorem state_of_opened
    (opened : Walker.load tree here path plugins exclusions = .ok (walker, state)) :
    state.compiled = [] ∧ state.whole = none ∧ state.calls = [] ∧ state.tree = tree := by
  obtain ⟨project, -, -, same⟩ := load_eq_ok.mp opened
  rw [same]
  exact ⟨rfl, rfl, rfl, rfl⟩

theorem coherent_of_opened
    (opened : Walker.load tree here path plugins exclusions = .ok (walker, state)) :
    walker.Coherent state :=
  coherent_of_unknown (state_of_opened opened).2.1

theorem calledOnce_of_opened
    (opened : Walker.load tree here path plugins exclusions = .ok (walker, state)) :
    walker.CalledOnce state := by
  obtain ⟨compiled, _whole, calls, _tree⟩ := state_of_opened opened
  exact (calledOnce_initial tree).congr compiled calls

theorem unknown_of_opened
    (opened : Walker.load tree here path plugins exclusions = .ok (walker, state))
    (id : ModuleId) : state.diagnostics? id = none := by
  rw [WalkState.diagnostics?, (state_of_opened opened).1]
  rfl

end Opened

/-! ### Settled runs -/

/-- What holds of the answers and the calls of a run in which every module is compiled once, in the
tree that stands when it is first asked for. -/
structure SettledRun (walker : Walker) (state : WalkState) (steps : List WalkStep) : Prop where
  /-- Every answer about a module is the same; those about the whole project join the modules in
  their order; the modules, documents and pairs never change. -/
  answers : (walker.run state steps).1 =
    steps.map (walker.settledAnswer fun module => walker.settledIn module state steps)
  /-- The diagnostics of a module are what the plugins that did not fail found in the sources that
  could be read when the module was first asked for. -/
  snapshots : ∀ step ∈ steps, ∀ module ∈ walker.asked step,
    ∃ first, walker.firstTree? module state steps = some first ∧
      walker.settledIn module state steps =
        (analyses (walker.pluginInput first module) first walker.plugins).flatMap Analysis.found
  /-- No plugin is asked twice about a module. -/
  calledOnce : ((walker.run state steps).2.calls.map fun call =>
    (call.plugin, call.input.module)).Nodup
  registered : ∀ call ∈ (walker.run state steps).2.calls, call.plugin < walker.plugins.length

variable {tree : FileTree} {here : Location} {path : String} {plugins : List Plugin}
  {exclusions : Exclusions}

/-- Whatever is asked of a walker and whatever happens to its files in between. -/
theorem settledRun_of_opened
    (opened : Walker.load tree here path plugins exclusions = .ok (walker, state))
    (steps : List WalkStep) : walker.SettledRun state steps := by
  have numbered := numbered_of_opened opened
  have coherent := coherent_of_opened opened
  have once := (calledOnce_of_opened opened).run steps
  refine ⟨?_, ?_, once.calls_nodup, once.registered⟩
  · rw [run_answers coherent]
    apply List.map_congr_left
    intro step _stepMember
    apply settledAnswer_congr
    intro module member
    exact known_run_eq_settledIn numbered coherent (mem_modules_of_asked walker member)
      (unknown_of_opened opened module.id) steps
  · intro step stepMember module member
    obtain ⟨first, found⟩ := Option.isSome_iff_exists.mp
      (firstTree?_isSome walker module state stepMember member)
    refine ⟨first, found, ?_⟩
    rw [settledIn, found]
    rfl

def smallPackage : FileTree :=
  ⟨[(["shop"], .directory), (["shop", "Ballerina.toml"], .file []),
    (["shop", "main.bal"], .file [0x61]), (["shop", "modules"], .directory),
    (["shop", "modules", "cart"], .directory),
    (["shop", "modules", "cart", "cart.bal"], .file [0x62])], []⟩

def smallProject : Project where
  root := ["shop"]
  kind := .package
  modules := [
    ⟨⟨0⟩, "shop", [⟨⟨⟨0⟩, 0⟩, "main.bal", ["shop", "main.bal"]⟩]⟩,
    ⟨⟨1⟩, "shop.cart", [⟨⟨⟨1⟩, 0⟩, "cart.bal", ["shop", "modules", "cart", "cart.bal"]⟩]⟩]

def smallState : WalkState :=
  (WalkState.initial smallPackage).log [.projectLoaded ["shop"] .package 2]

theorem load_smallPackage (plugins : List Plugin) (exclusions : Exclusions) :
    Walker.load smallPackage [] "/shop" plugins exclusions =
      .ok (⟨smallProject, plugins, exclusions⟩, smallState) := by
  have loaded : Project.load smallPackage [] "/shop" = .ok smallProject := by rfl
  exact load_eq_ok.mpr ⟨smallProject, loaded, rfl, rfl⟩

def echo : Plugin :=
  Plugin.ofFunction "echo" fun input =>
    .ok (input.sources.map fun source => ⟨"ECHO", source.text, []⟩)

/-- The second module is asked for before its source is removed, the first one after its source is
written. -/
def editedSteps : List WalkStep :=
  [.compile 1, .write [] "/shop/main.bal" [0x63], .remove [] "/shop/modules/cart/cart.bal",
    .diagnostics, .compile 1]

theorem settledRun_smallPackage :
    Walker.load smallPackage [] "/shop" [echo] Exclusions.none =
        .ok (⟨smallProject, [echo], Exclusions.none⟩, smallState) ∧
      SettledRun ⟨smallProject, [echo], Exclusions.none⟩ smallState editedSteps :=
  ⟨load_smallPackage [echo] Exclusions.none,
    settledRun_of_opened (load_smallPackage [echo] Exclusions.none) editedSteps⟩

end Walker

end IssueReport
