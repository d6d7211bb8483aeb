import IssueReport.Proofs.Pipeline.TwoPhase
import IssueReport.Proofs.Walker.Trace
/-!
The order in which a run compiles modules. The module of the first visited document comes first,
before the whole project is asked for; then it is known already, so that the others follow in the
order of the project. Each is compiled in the tree that the one before it leaves.
-/

namespace IssueReport.Walker

/-- The modules in the order in which a run compiles them: the one of the first document that is
visited, then the others in the order of the project. -/
def compileOrder (walker : Walker) : List Module :=
  match walker.pairs with
  | [] => []
  | (first, _) :: _ =>
      first :: walker.project.modules.filter fun module => module.id ≠ first.id

def turnsFrom (walker : Walker) (tree : FileTree) : List Module → List Turn
  | [] => []
  | module :: modules =>
      ⟨tree, module⟩ :: walker.turnsFrom (walker.compileFresh tree module).tree modules

variable {walker : Walker}

theorem turnsFrom_map_module (tree : FileTree) (modules : List Module) :
    (walker.turnsFrom tree modules).map (·.module) = modules := by
  induction modules generalizing tree with
  | nil => rfl
  | cons module modules ih => rw [turnsFrom, List.map_cons, ih]

/-! ### The order -/

section Order

variable {first : Module} {document : Document} {pairs : List (Module × Document)}
  (paired : walker.pairs = (first, document) :: pairs)

include paired

theorem compileOrder_of_pairs :
    walker.compileOrder =
      first :: walker.project.modules.filter fun module => module.id ≠ first.id := by
  rw [compileOrder, paired]

theorem first_mem_modules : first ∈ walker.project.modules := by
  have listed : (first, document) ∈ walker.pairs := by
    rw [paired]
    exact List.mem_cons_self
  exact mem_modules_of_mem_pairs walker listed

theorem mem_compileOrder (numbered : walker.project.Numbered) {module : Module} :
    module ∈ walker.compileOrder ↔ module ∈ walker.project.modules := by
  rw [compileOrder_of_pairs paired, List.mem_cons, List.mem_filter]
  constructor
  · intro listed
    rcases listed with same | ⟨member, -⟩
    · rw [same]
      exact first_mem_modules paired
    · exact member
  · intro member
    by_cases same : module.id = first.id
    · exact Or.inl (numbered.eq_of_id_eq member (first_mem_modules paired) same)
    · exact Or.inr ⟨member, decide_eq_true same⟩

end Order

theorem compileOrder_ids_nodup (numbered : walker.project.Numbered) :
    (walker.compileOrder.map (·.id)).Nodup := by
  unfold compileOrder
  cases walker.pairs with
  | nil => exact List.nodup_nil
  | cons pair pairs =>
      rw [List.map_cons, List.nodup_cons]
      constructor
      · intro present
        obtain ⟨module, kept, same⟩ := List.mem_map.mp present
        have different := (List.mem_filter.mp kept).2
        simp only [same, ne_eq, not_true_eq_false, decide_false, Bool.false_eq_true] at different
      · exact (List.filter_sublist.map _).nodup numbered.ids_nodup

/-! ### Modules that are known -/

theorem compileAll_skip (walker : Walker) {state : WalkState} {known : Module}
    (compiled : state.IsCompiled known) (modules : List Module) :
    (walker.compileAll state modules).2 =
      (walker.compileAll state (modules.filter fun module => module.id ≠ known.id)).2 := by
  induction modules generalizing state with
  | nil => rfl
  | cons module modules ih =>
      rw [List.filter_cons]
      by_cases same : module.id = known.id
      · have found := WalkState.diagnostics?_of_known compiled
        rw [← same] at found
        simp only [same, ne_eq, not_true_eq_false, decide_false, Bool.false_eq_true, if_false]
        rw [compileAll, compile_of_known walker state module found]
        exact ih compiled
      · have later := compiled.extend (extends_compile walker state module)
        simp only [same, ne_eq, not_false_eq_true, decide_true, if_true, compileAll]
        exact ih later

theorem turns_skip {state : WalkState} {known : Module} (compiled : state.IsCompiled known)
    (modules : List Module) :
    walker.turns state modules =
      walker.turns state (modules.filter fun module => module.id ≠ known.id) := by
  induction modules generalizing state with
  | nil => rfl
  | cons module modules ih =>
      rw [List.filter_cons]
      by_cases same : module.id = known.id
      · have found := WalkState.diagnostics?_of_known compiled
        rw [← same] at found
        simp only [same, ne_eq, not_true_eq_false, decide_false, Bool.false_eq_true, if_false]
        rw [turns_cons, ih (compiled.extend (extends_compile walker state module)), turns]
        simp only [found, Option.isSome_some, if_true, turns, List.nil_append,
          compile_of_known walker state module found]
      · have later := compiled.extend (extends_compile walker state module)
        simp only [same, ne_eq, not_false_eq_true, decide_true, if_true]
        rw [turns_cons, turns_cons walker state module (modules.filter _), ih later]

section Known

variable (state : WalkState) {first : Module} {document : Document}
  {pairs : List (Module × Document)} (paired : walker.pairs = (first, document) :: pairs)

include paired

/-- When all modules are asked for, the first one is known already. -/
theorem compileAll_compileOrder :
    (walker.compileAll (walker.compile first state).2 walker.project.modules).2 =
      (walker.compileAll state walker.compileOrder).2 := by
  rw [compileAll_skip walker (isCompiled_compile walker state first),
    compileOrder_of_pairs paired]
  rfl

theorem turns_compileOrder :
    walker.turns state (first :: walker.project.modules) =
      walker.turns state walker.compileOrder := by
  rw [turns_cons, turns_skip (isCompiled_compile walker state first), ← turns_cons,
    compileOrder_of_pairs paired]

end Known

/-! ### Modules of which nothing is known -/

/-- Nothing is known of some modules, which have ids of their own. -/
structure Untouched (state : WalkState) (modules : List Module) : Prop where
  distinct : (modules.map (·.id)).Nodup
  unknown : ∀ module ∈ modules, state.diagnostics? module.id = none

theorem untouched_of_unknown {state : WalkState} (numbered : walker.project.Numbered)
    (unknown : ∀ id, state.diagnostics? id = none) : Untouched state walker.compileOrder :=
  ⟨compileOrder_ids_nodup numbered, fun module _ => unknown module.id⟩

theorem Untouched.compile {state : WalkState} {module : Module} {modules : List Module}
    (untouched : Untouched state (module :: modules)) :
    Untouched (walker.compile module state).2 modules := by
  have distinct := untouched.distinct
  rw [List.map_cons, List.nodup_cons] at distinct
  refine ⟨distinct.2, ?_⟩
  intro other member
  have different : other.id ≠ module.id := by
    intro same
    rw [← same] at distinct
    exact distinct.1 (List.mem_map_of_mem member)
  rw [diagnostics?_compile_of_ne walker state module different]
  exact untouched.unknown other (List.mem_cons_of_mem module member)

theorem Untouched.compile_eq {state : WalkState} {module : Module} {modules : List Module}
    (untouched : Untouched state (module :: modules)) :
    (walker.compile module state).1 = walker.diagnosticsIn state.tree module ∧
      (walker.compile module state).2.tree = (walker.compileFresh state.tree module).tree := by
  rw [compile_of_unknown walker state module (untouched.unknown module List.mem_cons_self)]
  exact ⟨rfl, rfl⟩

theorem Untouched.turns_eq {state : WalkState} {modules : List Module}
    (untouched : Untouched state modules) :
    walker.turns state modules = walker.turnsFrom state.tree modules := by
  induction modules generalizing state with
  | nil => rfl
  | cons module modules ih =>
      have unknown := untouched.unknown module List.mem_cons_self
      rw [turns, ih untouched.compile, unknown, untouched.compile_eq.2, turnsFrom]
      rfl

theorem Untouched.diagnostics?_compileAll {state : WalkState} {modules : List Module}
    (untouched : Untouched state modules) {turn : Turn}
    (member : turn ∈ walker.turnsFrom state.tree modules) :
    (walker.compileAll state modules).2.diagnostics? turn.module.id =
      some (walker.diagnosticsIn turn.tree turn.module) := by
  induction modules generalizing state with
  | nil => cases member
  | cons module modules ih =>
      obtain ⟨found, left⟩ := @Untouched.compile_eq walker state module modules untouched
      rw [turnsFrom, ← left] at member
      rcases List.mem_cons.mp member with here | later
      · subst here
        have known := diagnostics?_compile_self walker state module
        rw [found] at known
        exact extends_compileAll walker _ modules _ _ known
      · exact ih untouched.compile later

end IssueReport.Walker
