import IssueReport.Proofs.Walker.Cache
import Mathlib.Data.List.Forall2
/-!
Walks with plugins that find alike. What a walk knows and the files that it leaves depend on a plugin
only through what it finds and the files that it leaves. So two walks of one project, whose plugins
do not differ in this, know the same after each step, whatever the plugins are called and log.
-/

namespace IssueReport

/-- Two plugins find the same, or fail alike, and leave the same files. -/
structure Plugin.FindsAlike (first second : Plugin) : Prop where
  outcome : ∀ tree input,
    (first.analyze tree input).outcome = (second.analyze tree input).outcome
  tree : ∀ tree input, (first.analyze tree input).tree = (second.analyze tree input).tree

theorem Plugin.FindsAlike.refl (plugin : Plugin) : plugin.FindsAlike plugin :=
  ⟨fun _ _ => rfl, fun _ _ => rfl⟩

structure WalkState.KnowsAlike (first second : WalkState) : Prop where
  tree : first.tree = second.tree
  compiled : first.compiled = second.compiled
  whole : first.whole = second.whole

namespace WalkState.KnowsAlike

variable {first second : WalkState} (knows : first.KnowsAlike second)

include knows

theorem diagnostics?_eq (id : ModuleId) : first.diagnostics? id = second.diagnostics? id := by
  rw [WalkState.diagnostics?, WalkState.diagnostics?, knows.compiled]

theorem log (events others : List Event) : (first.log events).KnowsAlike (second.log others) :=
  ⟨knows.tree, knows.compiled, knows.whole⟩

end WalkState.KnowsAlike

namespace Walker

/-- Two walkers of one project leave out the same documents, and their plugins find alike. -/
structure Alike (first second : Walker) : Prop where
  project : first.project = second.project
  exclusions : first.exclusions = second.exclusions
  plugins : List.Forall₂ Plugin.FindsAlike first.plugins second.plugins

/-! ### Plugins one after the other -/

section Plugins

variable {plugins others : List Plugin} (alike : List.Forall₂ Plugin.FindsAlike plugins others)

include alike

theorem found_of_alike (input : PluginInput) (tree : FileTree) :
    (analyses input tree plugins).flatMap Analysis.found =
      (analyses input tree others).flatMap Analysis.found := by
  induction alike generalizing tree with
  | nil => rfl
  | @cons plugin other plugins others first _ ih =>
      have found : (plugin.analyze tree input).found = (other.analyze tree input).found := by
        rw [Analysis.found, Analysis.found, first.outcome]
      simp only [analyses, List.flatMap_cons, found]
      rw [first.tree, ih]

theorem treeAfter_of_alike (input : PluginInput) (tree : FileTree) :
    treeAfter input tree plugins = treeAfter input tree others := by
  induction alike generalizing tree with
  | nil => rfl
  | cons first _ ih =>
      rw [treeAfter, treeAfter, first.tree]
      exact ih _

end Plugins

/-! ### Modules -/

namespace Alike

variable {first second : Walker} (alike : first.Alike second)

include alike

theorem documents_eq (module : Module) : first.documents module = second.documents module := by
  unfold documents isExcluded
  rw [alike.project, alike.exclusions]

theorem pairs_eq : first.pairs = second.pairs := by
  unfold pairs
  rw [alike.project]
  simp only [alike.documents_eq]

theorem pluginInput_eq (tree : FileTree) (module : Module) :
    first.pluginInput tree module = second.pluginInput tree module := by
  unfold pluginInput sources
  rw [alike.project, alike.documents_eq]

theorem diagnosticsIn_eq (tree : FileTree) (module : Module) :
    first.diagnosticsIn tree module = second.diagnosticsIn tree module := by
  rw [diagnosticsIn, diagnosticsIn, alike.pluginInput_eq, found_of_alike alike.plugins]

theorem compileFresh_tree_eq (tree : FileTree) (module : Module) :
    (first.compileFresh tree module).tree = (second.compileFresh tree module).tree := by
  rw [compileFresh_tree, compileFresh_tree, alike.pluginInput_eq,
    treeAfter_of_alike alike.plugins]

/-! ### Steps -/

variable {state other : WalkState}

theorem compile (knows : state.KnowsAlike other) (module : Module) :
    (first.compile module state).1 = (second.compile module other).1 ∧
      (first.compile module state).2.KnowsAlike (second.compile module other).2 := by
  have sameKnown := knows.diagnostics?_eq module.id
  cases known : state.diagnostics? module.id with
  | some found =>
      rw [known] at sameKnown
      rw [compile_of_known first state module known,
        compile_of_known second other module sameKnown.symm]
      exact ⟨rfl, knows⟩
  | none =>
      rw [known] at sameKnown
      have found := alike.diagnosticsIn_eq state.tree module
      have left := alike.compileFresh_tree_eq state.tree module
      rw [compile_of_unknown first state module known,
        compile_of_unknown second other module sameKnown.symm, ← knows.tree, found, left,
        knows.compiled]
      exact ⟨rfl, rfl, rfl, knows.whole⟩

theorem compileAll (knows : state.KnowsAlike other) (modules : List Module) :
    (first.compileAll state modules).1 = (second.compileAll other modules).1 ∧
      (first.compileAll state modules).2.KnowsAlike (second.compileAll other modules).2 := by
  induction modules generalizing state other with
  | nil => exact ⟨rfl, knows⟩
  | cons module modules ih =>
      obtain ⟨found, later⟩ := alike.compile knows module
      obtain ⟨others, last⟩ := ih later
      refine ⟨?_, last⟩
      rw [Walker.compileAll, Walker.compileAll]
      dsimp only
      rw [found, others]

theorem projectDiagnostics (knows : state.KnowsAlike other) :
    (first.projectDiagnostics state).1 = (second.projectDiagnostics other).1 ∧
      (first.projectDiagnostics state).2.KnowsAlike (second.projectDiagnostics other).2 := by
  have sameKnown := knows.whole
  cases known : state.whole with
  | some found =>
      rw [known] at sameKnown
      rw [projectDiagnostics_of_known known, projectDiagnostics_of_known sameKnown.symm]
      exact ⟨rfl, knows⟩
  | none =>
      rw [known] at sameKnown
      obtain ⟨found, last⟩ := alike.compileAll knows first.project.modules
      rw [projectDiagnostics_of_unknown known, projectDiagnostics_of_unknown sameKnown.symm,
        ← alike.project]
      exact ⟨found, last.tree, last.compiled, congrArg some found⟩

end Alike

end Walker

end IssueReport
