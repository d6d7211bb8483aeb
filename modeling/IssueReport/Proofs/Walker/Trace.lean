import IssueReport.Proofs.Walker.Cache
/-!
What a walk records. Asking for the diagnostics of modules one after the other compiles those that
are not known, each in the tree that stands at its turn. The log and the calls of the walk grow by
what these compilations add and by nothing else.
-/

namespace IssueReport

def Plugin.LeavesOut (kind : Event → Bool) (plugin : Plugin) : Prop :=
  ∀ tree input, ∀ event ∈ (plugin.analyze tree input).events, kind event = false

namespace Walker

structure Turn where
  tree : FileTree
  module : Module

variable (walker : Walker)

/-- The modules that are compiled where the diagnostics of some are asked for. -/
def turns (state : WalkState) : List Module → List Turn
  | [] => []
  | module :: modules =>
      let later := turns (walker.compile module state).2 modules
      if (state.diagnostics? module.id).isSome then later else ⟨state.tree, module⟩ :: later

def turnEvents (turns : List Turn) : List Event :=
  turns.flatMap fun turn => (walker.compileFresh turn.tree turn.module).events

def turnCalls (turns : List Turn) : List PluginCall :=
  turns.flatMap fun turn => walker.callsIn turn.tree turn.module

/-- The log and the calls of a walk have grown by what turns add. -/
structure Records (before : WalkState) (turns : List Turn) (after : WalkState) : Prop where
  events : after.events = before.events ++ walker.turnEvents turns
  calls : after.calls = before.calls ++ walker.turnCalls turns

variable {walker} in
theorem Records.append {before between after : WalkState} {early late : List Turn}
    (first : walker.Records before early between) (second : walker.Records between late after) :
    walker.Records before (early ++ late) after where
  events := by
    rw [second.events, first.events, turnEvents, turnEvents, turnEvents, List.flatMap_append,
      List.append_assoc]
  calls := by
    rw [second.calls, first.calls, turnCalls, turnCalls, turnCalls, List.flatMap_append,
      List.append_assoc]

theorem records_nothing (state : WalkState) : walker.Records state [] state :=
  ⟨(List.append_nil _).symm, (List.append_nil _).symm⟩

variable (state : WalkState)

theorem turns_cons (module : Module) (modules : List Module) :
    walker.turns state (module :: modules) =
      walker.turns state [module] ++ walker.turns (walker.compile module state).2 modules := by
  simp only [turns]
  split <;> rfl

theorem records_compile (module : Module) :
    walker.Records state (walker.turns state [module]) (walker.compile module state).2 := by
  cases known : state.diagnostics? module.id with
  | some found =>
      simp only [turns, compile_of_known walker state module known, known, Option.isSome_some,
        if_true]
      exact walker.records_nothing state
  | none =>
      simp only [turns, compile_of_unknown walker state module known, known]
      exact ⟨by simp [turnEvents], by simp [turnCalls]⟩

theorem records_compileAll (modules : List Module) :
    walker.Records state (walker.turns state modules) (walker.compileAll state modules).2 := by
  induction modules generalizing state with
  | nil => exact walker.records_nothing state
  | cons module modules ih =>
      rw [turns_cons]
      exact (walker.records_compile state module).append (ih (walker.compile module state).2)

theorem module_of_mem_turns {modules : List Module} {turn : Turn}
    (member : turn ∈ walker.turns state modules) : turn.module ∈ modules := by
  induction modules generalizing state with
  | nil => cases member
  | cons module modules ih =>
      simp only [turns] at member
      split at member
      · exact List.mem_cons_of_mem module (ih _ member)
      · rcases List.mem_cons.mp member with same | later
        · rw [same]
          exact List.mem_cons_self
        · exact List.mem_cons_of_mem module (ih _ later)

variable {walker} {state}

theorem turns_of_compiled {modules : List Module}
    (compiled : ∀ module ∈ modules, state.IsCompiled module) :
    walker.turns state modules = [] := by
  induction modules with
  | nil => rfl
  | cons module modules ih =>
      have first := compiled module List.mem_cons_self
      have found := WalkState.diagnostics?_of_known first
      unfold WalkState.IsCompiled at first
      rw [turns, if_pos first, compile_of_known walker state module found]
      exact ih fun other member => compiled other (List.mem_cons_of_mem module member)

/-! ### The whole project -/

theorem Coherent.turns_eq_nil (coherent : walker.Coherent state) {found : List Diagnostic}
    (known : state.whole = some found) : walker.turns state walker.project.modules = [] :=
  turns_of_compiled (coherent found known).1

theorem Coherent.records_projectDiagnostics (coherent : walker.Coherent state) :
    walker.Records state (walker.turns state walker.project.modules)
      (walker.projectDiagnostics state).2 := by
  cases known : state.whole with
  | some found =>
      rw [projectDiagnostics_of_known known, coherent.turns_eq_nil known]
      exact walker.records_nothing state
  | none =>
      obtain ⟨events, calls⟩ := walker.records_compileAll state walker.project.modules
      rw [projectDiagnostics_of_unknown known]
      exact ⟨events, calls⟩

/-! ### Events of a kind -/

def compilationEvent (walker : Walker) (turn : Turn) : Event :=
  .moduleCompiled turn.module.name (walker.sources turn.tree turn.module).length
    (walker.diagnosticsIn turn.tree turn.module).length

section Kind

variable {kind : Event → Bool}
  (failures : ∀ plugin module reason, kind (.pluginFailed plugin module reason) = false)

include failures

theorem filter_pluginEvents {plugins : List Plugin}
    (leave : ∀ plugin ∈ plugins, plugin.LeavesOut kind) (input : PluginInput) (tree : FileTree) :
    (pluginEvents input tree plugins).filter kind = [] := by
  induction plugins generalizing tree with
  | nil => rfl
  | cons plugin plugins ih =>
      have first : (plugin.noted tree input).filter kind = [] := by
        rw [List.filter_eq_nil_iff]
        intro event member
        rcases List.mem_append.mp member with own | failed
        · rw [leave plugin List.mem_cons_self tree input event own]
          exact Bool.false_ne_true
        · split at failed
          · cases failed
          · rw [List.mem_singleton.mp failed, failures]
            exact Bool.false_ne_true
      have rest := ih (fun other member => leave other (List.mem_cons_of_mem plugin member))
        (plugin.analyze tree input).tree
      rw [pluginEvents, List.filter_append, first, rest, List.nil_append]

/-- Of a kind to which neither failures of plugins nor unread documents belong, a turn logs at most
that its module has been compiled. -/
theorem filter_turnEvents (unread : ∀ document, kind (.unreadableSource document) = false)
    (leave : ∀ plugin ∈ walker.plugins, plugin.LeavesOut kind) (turns : List Turn) :
    (walker.turnEvents turns).filter kind = (turns.map walker.compilationEvent).filter kind := by
  induction turns with
  | nil => rfl
  | cons turn turns ih =>
      have unlogged : ((walker.unreadable turn.tree turn.module).map fun document =>
          Event.unreadableSource document.location).filter kind = [] := by
        rw [List.filter_eq_nil_iff]
        intro event member
        obtain ⟨document, -, same⟩ := List.mem_map.mp member
        rw [← same, unread]
        exact Bool.false_ne_true
      unfold turnEvents at ih ⊢
      rw [List.flatMap_cons, List.filter_append, ih, compileFresh_events, List.filter_append,
        List.filter_append, unlogged, filter_pluginEvents failures leave, List.nil_append,
        List.nil_append, List.map_cons, ← List.filter_append, List.singleton_append]
      rfl

end Kind

end Walker

end IssueReport
