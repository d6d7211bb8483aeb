import IssueReport.Proofs.Project.Numbering
import IssueReport.Proofs.Walker.Compilation
/-!
The diagnostics that a walk knows. A module is compiled at most once; what is known of a module is
never forgotten or changed; and what is known of the whole project is what is known of its modules,
in their order.
-/

namespace IssueReport

namespace WalkState

def known (state : WalkState) (module : Module) : List Diagnostic :=
  (state.diagnostics? module.id).getD []

def IsCompiled (state : WalkState) (module : Module) : Prop :=
  (state.diagnostics? module.id).isSome

def Extends (before after : WalkState) : Prop :=
  ∀ id found, before.diagnostics? id = some found → after.diagnostics? id = some found

theorem Extends.refl (state : WalkState) : state.Extends state :=
  fun _ _ known => known

theorem Extends.trans {first second third : WalkState} (early : first.Extends second)
    (late : second.Extends third) : first.Extends third :=
  fun id found known => late id found (early id found known)

theorem IsCompiled.extend {before after : WalkState} {module : Module}
    (compiled : before.IsCompiled module) (kept : before.Extends after) :
    after.IsCompiled module := by
  obtain ⟨found, known⟩ := Option.isSome_iff_exists.mp compiled
  exact Option.isSome_iff_exists.mpr ⟨found, kept _ _ known⟩

theorem IsCompiled.known_eq {before after : WalkState} {module : Module}
    (compiled : before.IsCompiled module) (kept : before.Extends after) :
    after.known module = before.known module := by
  obtain ⟨found, known⟩ := Option.isSome_iff_exists.mp compiled
  simp only [WalkState.known, known, kept _ _ known]

theorem diagnostics?_of_known {state : WalkState} {module : Module}
    (compiled : state.IsCompiled module) :
    state.diagnostics? module.id = some (state.known module) := by
  obtain ⟨found, known⟩ := Option.isSome_iff_exists.mp compiled
  simp only [WalkState.known, known, Option.getD_some]

end WalkState

namespace Walker

variable (walker : Walker) (state : WalkState) (module : Module)

/-! ### Compiling a module -/

theorem compile_of_known {found : List Diagnostic}
    (known : state.diagnostics? module.id = some found) :
    walker.compile module state = (found, state) := by
  simp only [compile, known]

theorem compile_of_unknown (unknown : state.diagnostics? module.id = none) :
    walker.compile module state =
      (walker.diagnosticsIn state.tree module,
        { state with
          tree := (walker.compileFresh state.tree module).tree
          compiled := state.compiled ++ [(module.id, walker.diagnosticsIn state.tree module)]
          events := state.events ++ (walker.compileFresh state.tree module).events
          calls := state.calls ++ walker.callsIn state.tree module }) := by
  simp only [compile, unknown, compileFresh_diagnostics, compileFresh_calls]

theorem diagnostics?_compile_self :
    (walker.compile module state).2.diagnostics? module.id =
      some (walker.compile module state).1 := by
  cases known : state.diagnostics? module.id with
  | some found =>
      rw [compile_of_known walker state module known]
      exact known
  | none =>
      rw [compile_of_unknown walker state module known]
      simp only [WalkState.diagnostics?, Option.map_eq_none_iff] at known ⊢
      simp only [List.find?_append, known, Option.none_or, List.find?_singleton, decide_true,
        if_true, Option.map_some]

theorem diagnostics?_compile_of_ne {id : ModuleId} (different : id ≠ module.id) :
    (walker.compile module state).2.diagnostics? id = state.diagnostics? id := by
  cases known : state.diagnostics? module.id with
  | some found => rw [compile_of_known walker state module known]
  | none =>
      rw [compile_of_unknown walker state module known]
      simp only [WalkState.diagnostics?, List.find?_append, List.find?_singleton,
        decide_eq_true_eq, if_neg different.symm, Option.or_none]

theorem extends_compile : state.Extends (walker.compile module state).2 := by
  intro id found known
  by_cases same : id = module.id
  · subst same
    rw [compile_of_known walker state module known]
    exact known
  · rw [diagnostics?_compile_of_ne walker state module same]
    exact known

theorem isCompiled_compile : (walker.compile module state).2.IsCompiled module := by
  unfold WalkState.IsCompiled
  rw [diagnostics?_compile_self]
  rfl

theorem known_compile :
    (walker.compile module state).2.known module = (walker.compile module state).1 := by
  simp only [WalkState.known, diagnostics?_compile_self, Option.getD_some]

theorem whole_compile : (walker.compile module state).2.whole = state.whole := by
  cases known : state.diagnostics? module.id with
  | some found => rw [compile_of_known walker state module known]
  | none => rw [compile_of_unknown walker state module known]

/-! ### Compiling modules one after the other -/

theorem extends_compileAll (modules : List Module) :
    state.Extends (walker.compileAll state modules).2 := by
  induction modules generalizing state with
  | nil => exact WalkState.Extends.refl state
  | cons module modules ih =>
      exact (extends_compile walker state module).trans (ih (walker.compile module state).2)

theorem isCompiled_compileAll {modules : List Module} (member : module ∈ modules) :
    (walker.compileAll state modules).2.IsCompiled module := by
  induction modules generalizing state with
  | nil => cases member
  | cons first modules ih =>
      rcases List.mem_cons.mp member with same | later
      · subst same
        exact (isCompiled_compile walker state module).extend
          (extends_compileAll walker (walker.compile module state).2 modules)
      · exact ih (walker.compile first state).2 later

theorem compileAll_eq_flatMap (modules : List Module) :
    (walker.compileAll state modules).1 =
      modules.flatMap (walker.compileAll state modules).2.known := by
  induction modules generalizing state with
  | nil => rfl
  | cons module modules ih =>
      simp only [compileAll, List.flatMap_cons]
      rw [ih (walker.compile module state).2]
      congr 1
      rw [(isCompiled_compile walker state module).known_eq (extends_compileAll walker _ modules)]
      exact (known_compile walker state module).symm

/-- Modules that are known already take no part in compiling. -/
theorem compileAll_of_compiled {modules : List Module}
    (compiled : ∀ module ∈ modules, state.IsCompiled module) :
    walker.compileAll state modules = (modules.flatMap state.known, state) := by
  induction modules with
  | nil => rfl
  | cons module modules ih =>
      have first := WalkState.diagnostics?_of_known (compiled module List.mem_cons_self)
      have rest := ih fun other member => compiled other (List.mem_cons_of_mem module member)
      simp only [compileAll, compile_of_known walker state module first, rest, List.flatMap_cons]

/-! ### The whole project -/

end Walker

/-- What is known of the whole project is what is known of each of its modules. -/
def Walker.Coherent (walker : Walker) (state : WalkState) : Prop :=
  ∀ found, state.whole = some found →
    (∀ module ∈ walker.project.modules, state.IsCompiled module) ∧
      found = walker.project.modules.flatMap state.known

namespace Walker

variable {walker : Walker} {state : WalkState}

theorem coherent_of_unknown (unknown : state.whole = none) : walker.Coherent state := by
  intro found known
  rw [unknown] at known
  cases known

/-- What is known is coherent with what is known later, as long as the whole project is known from
the same modules. -/
theorem Coherent.extend {after : WalkState} (coherent : walker.Coherent state)
    (kept : state.Extends after) (whole : after.whole = state.whole) :
    walker.Coherent after := by
  intro found known
  rw [whole] at known
  obtain ⟨compiled, same⟩ := coherent found known
  constructor
  · intro module member
    exact (compiled module member).extend kept
  · rw [same, List.flatMap_def, List.flatMap_def]
    congr 1
    apply List.map_congr_left
    intro module member
    exact ((compiled module member).known_eq kept).symm

/-- What happens to the files does not change what is known. -/
theorem Coherent.edit (coherent : walker.Coherent state) (tree : FileTree) :
    walker.Coherent { state with tree := tree } :=
  coherent.extend (WalkState.Extends.refl state) rfl

theorem Coherent.compile (coherent : walker.Coherent state) (module : Module) :
    walker.Coherent (walker.compile module state).2 :=
  coherent.extend (extends_compile walker state module) (whole_compile walker state module)

theorem projectDiagnostics_of_known {found : List Diagnostic} (known : state.whole = some found) :
    walker.projectDiagnostics state = (found, state) := by
  simp only [projectDiagnostics, known]

theorem projectDiagnostics_of_unknown (unknown : state.whole = none) :
    walker.projectDiagnostics state =
      ((walker.compileAll state walker.project.modules).1,
        { (walker.compileAll state walker.project.modules).2 with
          whole := some (walker.compileAll state walker.project.modules).1 }) := by
  simp only [projectDiagnostics, unknown]

theorem whole_projectDiagnostics :
    (walker.projectDiagnostics state).2.whole = some (walker.projectDiagnostics state).1 := by
  cases known : state.whole with
  | some found =>
      rw [projectDiagnostics_of_known known]
      exact known
  | none => rw [projectDiagnostics_of_unknown known]

theorem Coherent.projectDiagnostics (coherent : walker.Coherent state) :
    walker.Coherent (walker.projectDiagnostics state).2 := by
  cases known : state.whole with
  | some found =>
      rw [projectDiagnostics_of_known known]
      exact coherent
  | none =>
      rw [projectDiagnostics_of_unknown known]
      intro found same
      have found_eq := Option.some.inj same
      constructor
      · intro module member
        exact isCompiled_compileAll walker state module member
      · rw [← found_eq]
        exact compileAll_eq_flatMap walker state walker.project.modules

/-- Asking for the diagnostics of the whole project gives what is then known of its modules. -/
theorem Coherent.projectDiagnostics_eq (coherent : walker.Coherent state) :
    (walker.projectDiagnostics state).1 =
      walker.project.modules.flatMap (walker.projectDiagnostics state).2.known :=
  (coherent.projectDiagnostics _ whole_projectDiagnostics).2

theorem Coherent.isCompiled_projectDiagnostics (coherent : walker.Coherent state)
    {module : Module} (member : module ∈ walker.project.modules) :
    (walker.projectDiagnostics state).2.IsCompiled module :=
  (coherent.projectDiagnostics _ whole_projectDiagnostics).1 module member

end Walker

end IssueReport
