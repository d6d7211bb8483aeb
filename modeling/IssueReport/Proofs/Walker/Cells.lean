import IssueReport.Proofs.Project.Lookup
import IssueReport.Proofs.Walker.Snapshots
/-!
The cells in which a walker keeps diagnostics. There is one for each module of its project, and the
id of a module is the position of its cell: whatever has been asked before, compiling a module reads
and fills this cell and no other, and nothing is kept outside the cells.
-/

namespace IssueReport

namespace Walker

def cells (walker : Walker) (state : WalkState) : List (Option (List Diagnostic)) :=
  walker.project.modules.mapIdx fun position _ => state.diagnostics? ⟨position⟩

/-- Only modules of the project have been compiled. -/
def InBounds (walker : Walker) (state : WalkState) : Prop :=
  ∀ entry ∈ state.compiled, entry.1.index < walker.project.modules.length

variable {walker : Walker} {state : WalkState} {module : Module}

theorem length_cells : (walker.cells state).length = walker.project.modules.length :=
  List.length_mapIdx

theorem getElem?_cells (position : Nat) :
    (walker.cells state)[position]? =
      (walker.project.modules[position]?).map fun _ => state.diagnostics? ⟨position⟩ :=
  List.getElem?_mapIdx

section Numbered

variable (numbered : walker.project.Numbered) (member : module ∈ walker.project.modules)

include numbered member

theorem index_lt : module.id.index < walker.project.modules.length := by
  obtain ⟨position, found⟩ := List.getElem?_of_mem member
  have bounded := (List.getElem?_eq_some_iff.mp found).1
  rw [numbered position module found]
  exact bounded

theorem cell_of_id :
    (walker.cells state)[module.id.index]? = some (state.diagnostics? module.id) := by
  rw [getElem?_cells, List.getElem?_eq_getElem (index_lt numbered member)]
  rfl

/-- Compiling a module fills its own cell and leaves the others. -/
theorem cells_compile :
    walker.cells (walker.compile module state).2 =
      (walker.cells state).set module.id.index (some (walker.compile module state).1) := by
  have bounded := index_lt numbered member
  apply List.ext_getElem?
  intro position
  rw [getElem?_cells, List.getElem?_set, length_cells, if_pos bounded, getElem?_cells]
  by_cases same : module.id.index = position
  · rw [if_pos same, ← same, List.getElem?_eq_getElem bounded, Option.map_some]
    exact congrArg some (diagnostics?_compile_self walker state module)
  · have different : (⟨position⟩ : ModuleId) ≠ module.id :=
      fun equal => same (congrArg ModuleId.index equal).symm
    rw [if_neg same, diagnostics?_compile_of_ne walker state module different]

/-! ### Nothing outside the cells -/

theorem InBounds.compile (bounded : walker.InBounds state) :
    walker.InBounds (walker.compile module state).2 := by
  cases known : state.diagnostics? module.id with
  | some found =>
      rw [compile_of_known walker state module known]
      exact bounded
  | none =>
      rw [compile_of_unknown walker state module known]
      intro entry entryMember
      rcases List.mem_append.mp entryMember with old | new
      · exact bounded entry old
      · rw [List.mem_singleton.mp new]
        exact index_lt numbered member

end Numbered

theorem InBounds.compileAll (numbered : walker.project.Numbered) (bounded : walker.InBounds state)
    {modules : List Module} (members : ∀ module ∈ modules, module ∈ walker.project.modules) :
    walker.InBounds (walker.compileAll state modules).2 := by
  induction modules generalizing state with
  | nil => exact bounded
  | cons module modules ih =>
      obtain ⟨first, others⟩ := List.forall_mem_cons.mp members
      exact ih (bounded.compile numbered first) others

theorem InBounds.projectDiagnostics (numbered : walker.project.Numbered)
    (bounded : walker.InBounds state) : walker.InBounds (walker.projectDiagnostics state).2 := by
  cases known : state.whole with
  | some found =>
      rw [projectDiagnostics_of_known known]
      exact bounded
  | none =>
      rw [projectDiagnostics_of_unknown known]
      exact bounded.compileAll numbered fun module member => member

theorem InBounds.step (numbered : walker.project.Numbered) (bounded : walker.InBounds state)
    (step : WalkStep) : walker.InBounds (walker.step state step).2 := by
  cases step with
  | compile position =>
      simp only [Walker.step]
      cases found : walker.project.modules[position]? with
      | none => exact bounded
      | some module => exact bounded.compile numbered (List.mem_of_getElem? found)
  | diagnostics => exact bounded.projectDiagnostics numbered
  | documents position =>
      simp only [Walker.step]
      cases walker.project.modules[position]? <;> exact bounded
  | modules | pairs | edit => exact bounded

theorem InBounds.run (numbered : walker.project.Numbered) (bounded : walker.InBounds state)
    (steps : List WalkStep) : walker.InBounds (walker.run state steps).2 := by
  induction steps generalizing state with
  | nil => exact bounded
  | cons step steps ih => exact ih (bounded.step numbered step)

/-! ### Cells of opened walkers -/

/-- The cells are enough: everything that is known is in one of them, and compiling a module reads
the cell at its id and fills that one alone. -/
structure KeepsToCells (walker : Walker) (state : WalkState) : Prop where
  inside : ∀ entry ∈ state.compiled, entry.1.index < (walker.cells state).length
  reads : ∀ module ∈ walker.project.modules,
    (walker.cells state)[module.id.index]? = some (state.diagnostics? module.id)
  fills : ∀ module ∈ walker.project.modules,
    walker.cells (walker.compile module state).2 =
      (walker.cells state).set module.id.index (some (walker.compile module state).1)

variable {tree otherTree : FileTree} {here elsewhere : Location} {path otherPath : String}

theorem keepsToCells_of_opened {plugins : List Plugin} {exclusions : Exclusions}
    (opened : Walker.load tree here path plugins exclusions = .ok (walker, state))
    (steps : List WalkStep) : walker.KeepsToCells (walker.run state steps).2 := by
  have numbered := numbered_of_opened opened
  have nothing : walker.InBounds state := by
    intro entry member
    rw [(state_of_opened opened).1] at member
    cases member
  refine ⟨?_, fun module => cell_of_id numbered, fun module => cells_compile numbered⟩
  rw [length_cells]
  exact nothing.run numbered steps

end Walker

namespace Project

variable {tree otherTree : FileTree} {here elsewhere : Location} {path otherPath : String}
  {project other : Project}

/-- The ids in a loaded project are positions, for looking up its modules and documents there or in
any other loaded project, and for what a walker keeps of its modules. -/
theorem identifiesByPosition_of_load (loaded : load tree here path = .ok project)
    (otherLoaded : load otherTree elsewhere otherPath = .ok other) :
    project.KnownByPosition ∧ AnswersByPosition project other ∧
      ∀ plugins exclusions walker state,
        Walker.load tree here path plugins exclusions = .ok (walker, state) →
          walker.project = project ∧
            ∀ steps, walker.KeepsToCells (walker.run state steps).2 := by
  have known := (placed_of_load loaded).knownByPosition
  refine ⟨known, known.answers (numbered_of_load otherLoaded), ?_⟩
  intro plugins exclusions walker state opened
  obtain ⟨found, foundLoaded, same, -⟩ := Walker.load_eq_ok.mp opened
  rw [loaded] at foundLoaded
  cases foundLoaded
  exact ⟨congrArg Walker.project same, Walker.keepsToCells_of_opened opened⟩

def loneProject : Project := ofSource ["shop", "main.bal"]

theorem identifiesByPosition_smallPackage :
    load Walker.smallPackage [] "/shop" = .ok Walker.smallProject ∧
      load Walker.smallPackage [] "/shop/main.bal" = .ok loneProject ∧
      AnswersByPosition Walker.smallProject loneProject ∧
      ∀ steps, Walker.KeepsToCells ⟨Walker.smallProject, [Walker.echo], Exclusions.none⟩
        (Walker.run ⟨Walker.smallProject, [Walker.echo], Exclusions.none⟩ Walker.smallState
          steps).2 := by
  have loaded : load Walker.smallPackage [] "/shop" = .ok Walker.smallProject := by rfl
  have loneLoaded : load Walker.smallPackage [] "/shop/main.bal" = .ok loneProject := by rfl
  obtain ⟨_, answers, keeps⟩ := identifiesByPosition_of_load loaded loneLoaded
  have opened := Walker.load_smallPackage [Walker.echo] Exclusions.none
  exact ⟨loaded, loneLoaded, answers, (keeps _ _ _ _ opened).2⟩

end Project

end IssueReport
