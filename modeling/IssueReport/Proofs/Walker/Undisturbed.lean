import IssueReport.Proofs.Walker.Snapshots
/-!
Plugins that do nothing to the files, such as those that are functions of their input. With such
plugins every module is compiled in the tree in which the walk began, and what one of them finds
does not depend on the others that are registered.
-/

namespace IssueReport

/-- A plugin does nothing to the files, although it may read them. -/
def Plugin.KeepsFiles (plugin : Plugin) : Prop :=
  ∀ tree input, (plugin.analyze tree input).tree = tree

/-- Functions of the input do nothing to the files. -/
theorem Plugin.keepsFiles_ofFunction (name : String)
    (answer : PluginInput → Except PluginFailure (List Diagnostic)) :
    (Plugin.ofFunction name answer).KeepsFiles :=
  fun _ _ => rfl

theorem Analysis.found_of_error {analysis : Analysis} {failure : PluginFailure}
    (failed : analysis.outcome = .error failure) : analysis.found = [] := by
  rw [Analysis.found, failed]

namespace Walker

/-! ### A module -/

section Module

variable {plugins : List Plugin}

theorem analyses_of_keepsFiles (keep : ∀ plugin ∈ plugins, plugin.KeepsFiles)
    (input : PluginInput) (tree : FileTree) :
    analyses input tree plugins = plugins.map fun plugin => plugin.analyze tree input := by
  induction plugins with
  | nil => rfl
  | cons plugin plugins ih =>
      have first := keep plugin List.mem_cons_self tree input
      have rest := ih fun other member => keep other (List.mem_cons_of_mem plugin member)
      simp only [analyses, List.map_cons, first, rest]

theorem treeAfter_of_keepsFiles (keep : ∀ plugin ∈ plugins, plugin.KeepsFiles)
    (input : PluginInput) (tree : FileTree) : treeAfter input tree plugins = tree := by
  induction plugins with
  | nil => rfl
  | cons plugin plugins ih =>
      have first := keep plugin List.mem_cons_self tree input
      rw [treeAfter, first]
      exact ih fun other member => keep other (List.mem_cons_of_mem plugin member)

end Module

variable {walker : Walker} {tree : FileTree} {state : WalkState}

theorem diagnosticsIn_of_keepsFiles (keep : ∀ plugin ∈ walker.plugins, plugin.KeepsFiles)
    (module : Module) :
    walker.diagnosticsIn tree module =
      walker.plugins.flatMap fun plugin =>
        (plugin.analyze tree (walker.pluginInput tree module)).found := by
  rw [diagnosticsIn, analyses_of_keepsFiles keep, List.flatMap_map]

/-! ### A walk -/

/-- What plugins find in a tree: one after the other in each module, module by module. -/
def findings (walker : Walker) (tree : FileTree) (plugins : List Plugin) : List Diagnostic :=
  walker.project.modules.flatMap fun module =>
    plugins.flatMap fun plugin => (plugin.analyze tree (walker.pluginInput tree module)).found

def Fails (walker : Walker) (tree : FileTree) (plugin : Plugin) : Prop :=
  ∀ module ∈ walker.project.modules, ∃ failure,
    (plugin.analyze tree (walker.pluginInput tree module)).outcome = .error failure

/-- Nothing has happened to the files of a walk, and what it knows of a module comes from them. -/
structure Undisturbed (walker : Walker) (tree : FileTree) (state : WalkState) : Prop where
  tree_eq : state.tree = tree
  known : ∀ module ∈ walker.project.modules, ∀ found,
    state.diagnostics? module.id = some found → found = walker.diagnosticsIn tree module

theorem undisturbed_of_unknown (unknown : ∀ id, state.diagnostics? id = none) :
    walker.Undisturbed state.tree state where
  tree_eq := rfl
  known := by
    intro module _member found known
    rw [unknown] at known
    cases known

theorem compile_tree_of_keepsFiles (keep : ∀ plugin ∈ walker.plugins, plugin.KeepsFiles)
    (module : Module) : (walker.compile module state).2.tree = state.tree := by
  cases known : state.diagnostics? module.id with
  | some found => rw [compile_of_known walker state module known]
  | none =>
      rw [compile_of_unknown walker state module known]
      simp only [compileFresh_tree, treeAfter_of_keepsFiles keep]

variable (keep : ∀ plugin ∈ walker.plugins, plugin.KeepsFiles)
  (numbered : walker.project.Numbered)

include keep numbered

/-- Compiling a module keeps the files, and gives what is found in them. -/
theorem Undisturbed.compile (undisturbed : walker.Undisturbed tree state) {module : Module}
    (member : module ∈ walker.project.modules) :
    (walker.compile module state).1 = walker.diagnosticsIn tree module ∧
      walker.Undisturbed tree (walker.compile module state).2 := by
  cases known : state.diagnostics? module.id with
  | some found =>
      rw [compile_of_known walker state module known]
      exact ⟨undisturbed.known module member found known, undisturbed⟩
  | none =>
      have kept : (walker.compile module state).2.tree = tree := by
        rw [compile_tree_of_keepsFiles keep, undisturbed.tree_eq]
      have fresh : (walker.compile module state).1 = walker.diagnosticsIn tree module := by
        rw [compile_of_unknown walker state module known, undisturbed.tree_eq]
      refine ⟨fresh, kept, ?_⟩
      intro other otherMember found foundKnown
      -- ids tell modules apart, so what is new is known of this module only
      by_cases same : other.id = module.id
      · have equal := numbered.eq_of_id_eq otherMember member same
        rw [equal, diagnostics?_compile_self, fresh] at foundKnown
        rw [equal]
        exact (Option.some.inj foundKnown).symm
      · rw [diagnostics?_compile_of_ne walker state module same] at foundKnown
        exact undisturbed.known other otherMember found foundKnown

theorem Undisturbed.compileAll (undisturbed : walker.Undisturbed tree state)
    {modules : List Module} (within : ∀ module ∈ modules, module ∈ walker.project.modules) :
    (walker.compileAll state modules).1 = modules.flatMap (walker.diagnosticsIn tree) := by
  induction modules generalizing state with
  | nil => rfl
  | cons module modules ih =>
      have first := within module List.mem_cons_self
      obtain ⟨found, later⟩ := undisturbed.compile keep numbered first
      have rest := ih later fun other member => within other (List.mem_cons_of_mem module member)
      simp only [Walker.compileAll, found, rest, List.flatMap_cons]

theorem Undisturbed.projectDiagnostics (undisturbed : walker.Undisturbed tree state)
    (unknown : state.whole = none) :
    (walker.projectDiagnostics state).1 = walker.findings tree walker.plugins := by
  have found := undisturbed.compileAll keep numbered fun module member => member
  rw [projectDiagnostics_of_unknown unknown, found, findings]
  congr 1
  funext module
  exact diagnosticsIn_of_keepsFiles keep module

end Walker

end IssueReport
