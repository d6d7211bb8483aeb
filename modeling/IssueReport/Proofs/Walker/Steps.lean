import IssueReport.FileTree.Edit
import IssueReport.Proofs.Walker.Cache
/-!
Runs of a walker: questions in any order, with changes of the files between them. Every answer of
a run is what the last state of the run knows.
-/

namespace IssueReport

/-- A question to a walker, or a change of the files that it walks. Modules are asked for by their
positions. -/
inductive WalkStep where
  | modules
  | documents (position : Nat)
  | pairs
  | compile (position : Nat)
  | diagnostics
  | edit (change : FileTree → FileTree)

inductive WalkAnswer where
  | modules (modules : List Module)
  | documents (documents : List Document)
  | pairs (pairs : List (Module × Document))
  | diagnostics (diagnostics : List Diagnostic)
  | noModule
  | done

namespace WalkStep

def write (here : Location) (path : String) (content : List UInt8) : WalkStep :=
  .edit fun tree => (tree.write? here path content).getD tree

def remove (here : Location) (path : String) : WalkStep :=
  .edit fun tree => (tree.remove? here path).getD tree

end WalkStep

namespace Walker

variable (walker : Walker)

def step (state : WalkState) : WalkStep → WalkAnswer × WalkState
  | .modules => (.modules walker.project.modules, state)
  | .documents position =>
      match walker.project.modules[position]? with
      | some module => (.documents (walker.documents module), state)
      | none => (.noModule, state)
  | .pairs => (.pairs walker.pairs, state)
  | .compile position =>
      match walker.project.modules[position]? with
      | some module =>
          let (found, next) := walker.compile module state
          (.diagnostics found, next)
      | none => (.noModule, state)
  | .diagnostics =>
      let (found, next) := walker.projectDiagnostics state
      (.diagnostics found, next)
  | .edit change => (.done, { state with tree := change state.tree })

def run (state : WalkState) : List WalkStep → List WalkAnswer × WalkState
  | [] => ([], state)
  | step :: steps =>
      let (answer, next) := walker.step state step
      let (answers, last) := run next steps
      (answer :: answers, last)

/-- The modules whose diagnostics a step asks for, in the order in which it does. -/
def asked : WalkStep → List Module
  | .compile position => (walker.project.modules[position]?).toList
  | .diagnostics => walker.project.modules
  | _ => []

theorem mem_modules_of_asked {step : WalkStep} {module : Module}
    (member : module ∈ walker.asked step) : module ∈ walker.project.modules := by
  cases step with
  | compile position =>
      exact List.mem_of_getElem? (Option.mem_toList.mp member)
  | diagnostics => exact member
  | _ => cases member

def settledAnswer (settled : Module → List Diagnostic) : WalkStep → WalkAnswer
  | .modules => .modules walker.project.modules
  | .documents position =>
      match walker.project.modules[position]? with
      | some module => .documents (walker.documents module)
      | none => .noModule
  | .pairs => .pairs walker.pairs
  | .compile position =>
      match walker.project.modules[position]? with
      | some module => .diagnostics (settled module)
      | none => .noModule
  | .diagnostics => .diagnostics (walker.project.modules.flatMap settled)
  | .edit _ => .done

/-- Only the modules that a step asks for matter to its answer. -/
theorem settledAnswer_congr {first second : Module → List Diagnostic} {step : WalkStep}
    (same : ∀ module ∈ walker.asked step, first module = second module) :
    walker.settledAnswer first step = walker.settledAnswer second step := by
  cases step with
  | compile position =>
      simp only [settledAnswer]
      cases found : walker.project.modules[position]? with
      | none => rfl
      | some module =>
          have member : module ∈ walker.asked (.compile position) := by
            rw [asked, found]
            exact List.mem_singleton_self module
          simp only [same module member]
  | diagnostics =>
      have answers := List.map_congr_left same
      simp only [asked] at answers
      simp only [settledAnswer, List.flatMap_def, answers]
  | _ => rfl

/-! ### One step -/

variable {walker} {state : WalkState}

/-- A step compiles the modules that it asks for, and nothing else. -/
theorem diagnostics?_step (coherent : walker.Coherent state) (step : WalkStep) (id : ModuleId) :
    (walker.step state step).2.diagnostics? id =
      (walker.compileAll state (walker.asked step)).2.diagnostics? id := by
  cases step with
  | compile position =>
      simp only [Walker.step, asked]
      cases walker.project.modules[position]? with
      | none => rfl
      | some module => rfl
  | diagnostics =>
      simp only [Walker.step, asked]
      cases known : state.whole with
      | none =>
          rw [projectDiagnostics_of_unknown known]
          rfl
      | some found =>
          rw [projectDiagnostics_of_known known,
            compileAll_of_compiled walker state (coherent found known).1]
  | documents position =>
      simp only [Walker.step, asked]
      cases walker.project.modules[position]? <;> rfl
  | _ => rfl

theorem extends_step (coherent : walker.Coherent state) (step : WalkStep) :
    state.Extends (walker.step state step).2 := by
  intro id found known
  rw [diagnostics?_step coherent]
  exact extends_compileAll walker state _ id found known

theorem isCompiled_step (coherent : walker.Coherent state) {step : WalkStep} {module : Module}
    (member : module ∈ walker.asked step) : (walker.step state step).2.IsCompiled module := by
  unfold WalkState.IsCompiled
  rw [diagnostics?_step coherent]
  exact isCompiled_compileAll walker state module member

theorem Coherent.step (coherent : walker.Coherent state) (step : WalkStep) :
    walker.Coherent (walker.step state step).2 := by
  cases step with
  | compile position =>
      simp only [Walker.step]
      cases walker.project.modules[position]? with
      | none => exact coherent
      | some module => exact coherent.compile module
  | diagnostics => exact coherent.projectDiagnostics
  | documents position =>
      simp only [Walker.step]
      cases walker.project.modules[position]? <;> exact coherent
  | _ => exact coherent

/-- A step answers with what is known after it. -/
theorem step_answer (coherent : walker.Coherent state) (step : WalkStep) :
    (walker.step state step).1 =
      walker.settledAnswer (walker.step state step).2.known step := by
  cases step with
  | compile position =>
      simp only [Walker.step, settledAnswer]
      cases walker.project.modules[position]? with
      | none => rfl
      | some module => simp only [known_compile]
  | diagnostics =>
      simp only [Walker.step, settledAnswer]
      rw [coherent.projectDiagnostics_eq]
  | documents position =>
      simp only [Walker.step, settledAnswer]
      cases walker.project.modules[position]? <;> rfl
  | _ => rfl

/-! ### Runs -/

theorem Coherent.run (coherent : walker.Coherent state) (steps : List WalkStep) :
    walker.Coherent (walker.run state steps).2 := by
  induction steps generalizing state with
  | nil => exact coherent
  | cons step steps ih => exact ih (coherent.step step)

theorem extends_run (coherent : walker.Coherent state) (steps : List WalkStep) :
    state.Extends (walker.run state steps).2 := by
  induction steps generalizing state with
  | nil => exact WalkState.Extends.refl state
  | cons step steps ih =>
      exact (extends_step coherent step).trans (ih (coherent.step step))

/-- Every answer of a run is what is known at its end. -/
theorem run_answers (coherent : walker.Coherent state) (steps : List WalkStep) :
    (walker.run state steps).1 =
      steps.map (walker.settledAnswer (walker.run state steps).2.known) := by
  induction steps generalizing state with
  | nil => rfl
  | cons step steps ih =>
      simp only [Walker.run, List.map_cons]
      rw [ih (coherent.step step), step_answer coherent]
      congr 1
      apply settledAnswer_congr
      intro module member
      have compiled := isCompiled_step coherent member
      exact (compiled.known_eq (extends_run (coherent.step step) steps)).symm

/-! ### Calls -/

variable (walker) (state)

/-- No plugin has been called twice for a module, and only modules that are known had calls. -/
structure CalledOnce : Prop where
  distinct : (state.calls.map fun call => (call.plugin, call.input.module.id)).Nodup
  compiled : ∀ call ∈ state.calls, state.IsCompiled call.input.module
  registered : ∀ call ∈ state.calls, call.plugin < walker.plugins.length

variable {walker} {state}

theorem calledOnce_initial (tree : FileTree) : walker.CalledOnce (WalkState.initial tree) where
  distinct := List.nodup_nil
  compiled := by
    intro call member
    cases member
  registered := by
    intro call member
    cases member

theorem callsIn_nodup (tree : FileTree) (module : Module) :
    ((walker.callsIn tree module).map fun call => (call.plugin, call.input.module.id)).Nodup := by
  rw [List.nodup_iff_pairwise_ne, List.pairwise_iff_getElem]
  intro first second firstBound secondBound before same
  simp only [callsIn, List.getElem_map, List.getElem_mapIdx, Prod.mk.injEq] at same
  exact Nat.ne_of_lt before same.1

theorem CalledOnce.compile (once : walker.CalledOnce state) (module : Module) :
    walker.CalledOnce (walker.compile module state).2 := by
  cases known : state.diagnostics? module.id with
  | some found =>
      rw [compile_of_known walker state module known]
      exact once
  | none =>
      have kept := extends_compile walker state module
      have compiled := isCompiled_compile walker state module
      rw [compile_of_unknown walker state module known] at kept compiled ⊢
      constructor
      · simp only [List.map_append]
        apply List.nodup_append.mpr
        refine ⟨once.distinct, callsIn_nodup state.tree module, ?_⟩
        -- the module has had no calls, since it is not known
        rintro old oldMember _new newMember rfl
        obtain ⟨oldCall, oldAt, rfl⟩ := List.mem_map.mp oldMember
        obtain ⟨newCall, newAt, same⟩ := List.mem_map.mp newMember
        have ids : newCall.input.module.id = oldCall.input.module.id := congrArg Prod.snd same
        rw [((mem_callsIn walker state.tree module).mp newAt).2] at ids
        have impossible := once.compiled oldCall oldAt
        rw [WalkState.IsCompiled, ← ids] at impossible
        simp only [pluginInput, known, Option.isSome_none, Bool.false_eq_true] at impossible
      · intro call member
        rcases List.mem_append.mp member with old | new
        · exact (once.compiled call old).extend kept
        · rw [((mem_callsIn walker state.tree module).mp new).2]
          exact compiled
      · intro call member
        rcases List.mem_append.mp member with old | new
        · exact once.registered call old
        · exact ((mem_callsIn walker state.tree module).mp new).1

theorem CalledOnce.compileAll (once : walker.CalledOnce state) (modules : List Module) :
    walker.CalledOnce (walker.compileAll state modules).2 := by
  induction modules generalizing state with
  | nil => exact once
  | cons module modules ih => exact ih (once.compile module)

/-- Calls depend on what is known by module and on the calls so far. -/
theorem CalledOnce.congr {after : WalkState} (once : walker.CalledOnce state)
    (compiled : after.compiled = state.compiled) (calls : after.calls = state.calls) :
    walker.CalledOnce after where
  distinct := by
    rw [calls]
    exact once.distinct
  compiled := by
    intro call member
    rw [calls] at member
    have known := once.compiled call member
    simp only [WalkState.IsCompiled, WalkState.diagnostics?, compiled] at known ⊢
    exact known
  registered := by
    rw [calls]
    exact once.registered

theorem CalledOnce.projectDiagnostics (once : walker.CalledOnce state) :
    walker.CalledOnce (walker.projectDiagnostics state).2 := by
  cases known : state.whole with
  | some found =>
      rw [projectDiagnostics_of_known known]
      exact once
  | none =>
      rw [projectDiagnostics_of_unknown known]
      exact (once.compileAll walker.project.modules).congr rfl rfl

theorem CalledOnce.step (once : walker.CalledOnce state) (step : WalkStep) :
    walker.CalledOnce (walker.step state step).2 := by
  cases step with
  | compile position =>
      simp only [Walker.step]
      cases walker.project.modules[position]? with
      | none => exact once
      | some module => exact once.compile module
  | diagnostics => exact once.projectDiagnostics
  | documents position =>
      simp only [Walker.step]
      cases walker.project.modules[position]? <;> exact once
  | edit change => exact once.congr rfl rfl
  | _ => exact once

theorem CalledOnce.run (once : walker.CalledOnce state) (steps : List WalkStep) :
    walker.CalledOnce (walker.run state steps).2 := by
  induction steps generalizing state with
  | nil => exact once
  | cons step steps ih => exact ih (once.step step)

/-- The calls so far differ in the plugin or in the module. -/
theorem CalledOnce.calls_nodup (once : walker.CalledOnce state) :
    (state.calls.map fun call => (call.plugin, call.input.module)).Nodup := by
  have distinct := once.distinct
  have projected : state.calls.map (fun call => (call.plugin, call.input.module.id)) =
      (state.calls.map fun call => (call.plugin, call.input.module)).map
        fun key => (key.1, key.2.id) := by
    rw [List.map_map]
    rfl
  rw [projected] at distinct
  exact List.Pairwise.of_map (fun key => (key.1, key.2.id))
    (fun _ _ different same => different (by rw [same])) distinct

end Walker

end IssueReport
