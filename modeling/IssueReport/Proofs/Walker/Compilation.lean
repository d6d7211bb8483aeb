import IssueReport.Walker
/-!
What a fresh compilation finds. The plugins run one after the other on the same sources, each in
the tree that the ones before it leave; the diagnostics of a module are those of the plugins that
do not fail, in the order of their registration.
-/

namespace IssueReport

/-- What a plugin has found; a plugin that fails has found nothing. -/
def Analysis.found (analysis : Analysis) : List Diagnostic :=
  match analysis.outcome with
  | .ok diagnostics => diagnostics
  | .error _ => []

def Plugin.noted (plugin : Plugin) (tree : FileTree) (input : PluginInput) : List Event :=
  (plugin.analyze tree input).events ++
    match (plugin.analyze tree input).outcome with
    | .ok _ => []
    | .error failure => [.pluginFailed plugin.name input.module.name failure.message]

namespace Walker

def analyses (input : PluginInput) (tree : FileTree) : List Plugin → List Analysis
  | [] => []
  | plugin :: plugins =>
      let analysis := plugin.analyze tree input
      analysis :: analyses input analysis.tree plugins

def treeAfter (input : PluginInput) (tree : FileTree) : List Plugin → FileTree
  | [] => tree
  | plugin :: plugins => treeAfter input (plugin.analyze tree input).tree plugins

def pluginEvents (input : PluginInput) (tree : FileTree) : List Plugin → List Event
  | [] => []
  | plugin :: plugins =>
      plugin.noted tree input ++ pluginEvents input (plugin.analyze tree input).tree plugins

variable (input : PluginInput) (compilation : Compilation)

/-! ### One plugin -/

theorem runPlugin_tree (position : Nat) (plugin : Plugin) :
    (runPlugin input compilation position plugin).tree =
      (plugin.analyze compilation.tree input).tree := by
  unfold runPlugin
  cases outcome : (plugin.analyze compilation.tree input).outcome with
  | ok found => simp only [outcome]
  | error failure => simp only [outcome]

theorem runPlugin_diagnostics (position : Nat) (plugin : Plugin) :
    (runPlugin input compilation position plugin).diagnostics =
      compilation.diagnostics ++ (plugin.analyze compilation.tree input).found := by
  unfold runPlugin Analysis.found
  cases outcome : (plugin.analyze compilation.tree input).outcome with
  | ok found => simp only [outcome]
  | error failure => simp only [outcome, List.append_nil]

theorem runPlugin_events (position : Nat) (plugin : Plugin) :
    (runPlugin input compilation position plugin).events =
      compilation.events ++ plugin.noted compilation.tree input := by
  unfold runPlugin Plugin.noted
  cases outcome : (plugin.analyze compilation.tree input).outcome with
  | ok found => simp only [outcome, List.append_nil]
  | error failure => simp only [outcome, List.append_assoc]

theorem runPlugin_calls (position : Nat) (plugin : Plugin) :
    (runPlugin input compilation position plugin).calls =
      compilation.calls ++ [⟨position, input⟩] := by
  unfold runPlugin
  cases outcome : (plugin.analyze compilation.tree input).outcome with
  | ok found => simp only [outcome]
  | error failure => simp only [outcome]

/-! ### All plugins -/

theorem runPlugins_tree (position : Nat) (plugins : List Plugin) :
    (runPlugins input compilation position plugins).tree =
      treeAfter input compilation.tree plugins := by
  induction plugins generalizing compilation position with
  | nil => rfl
  | cons plugin plugins ih =>
      simp only [runPlugins, treeAfter]
      rw [ih, runPlugin_tree]

theorem runPlugins_diagnostics (position : Nat) (plugins : List Plugin) :
    (runPlugins input compilation position plugins).diagnostics =
      compilation.diagnostics ++
        (analyses input compilation.tree plugins).flatMap Analysis.found := by
  induction plugins generalizing compilation position with
  | nil => simp only [runPlugins, analyses, List.flatMap_nil, List.append_nil]
  | cons plugin plugins ih =>
      simp only [runPlugins, analyses, List.flatMap_cons]
      rw [ih, runPlugin_tree, runPlugin_diagnostics, List.append_assoc]

theorem runPlugins_events (position : Nat) (plugins : List Plugin) :
    (runPlugins input compilation position plugins).events =
      compilation.events ++ pluginEvents input compilation.tree plugins := by
  induction plugins generalizing compilation position with
  | nil => simp only [runPlugins, pluginEvents, List.append_nil]
  | cons plugin plugins ih =>
      simp only [runPlugins, pluginEvents]
      rw [ih, runPlugin_tree, runPlugin_events, List.append_assoc]

theorem runPlugins_calls (position : Nat) (plugins : List Plugin) :
    (runPlugins input compilation position plugins).calls =
      compilation.calls ++
        plugins.mapIdx fun index _ => ⟨position + index, input⟩ := by
  induction plugins generalizing compilation position with
  | nil => simp only [runPlugins, List.mapIdx_nil, List.append_nil]
  | cons plugin plugins ih =>
      simp only [runPlugins, List.mapIdx_cons]
      rw [ih, runPlugin_calls, List.append_assoc, List.singleton_append]
      simp only [Nat.add_zero, Nat.add_right_comm position 1, Nat.add_assoc]

/-! ### A module -/

variable (walker : Walker) (tree : FileTree) (module : Module)

/-- The diagnostics of a module that is compiled in a tree. -/
def diagnosticsIn : List Diagnostic :=
  (analyses (walker.pluginInput tree module) tree walker.plugins).flatMap Analysis.found

/-- The calls that compiling a module in a tree makes: one of each plugin, on the same sources. -/
def callsIn : List PluginCall :=
  walker.plugins.mapIdx fun position _ => ⟨position, walker.pluginInput tree module⟩

theorem compileFresh_diagnostics :
    (walker.compileFresh tree module).diagnostics = walker.diagnosticsIn tree module := by
  simp only [compileFresh, runPlugins_diagnostics, List.nil_append]
  rfl

theorem compileFresh_calls :
    (walker.compileFresh tree module).calls = walker.callsIn tree module := by
  simp only [compileFresh, runPlugins_calls, List.nil_append, Nat.zero_add]
  rfl

/-- A compilation logs the documents that cannot be read, then its plugins, then itself. -/
theorem compileFresh_events :
    (walker.compileFresh tree module).events =
      (walker.unreadable tree module).map (fun document => .unreadableSource document.location) ++
        pluginEvents (walker.pluginInput tree module) tree walker.plugins ++
        [.moduleCompiled module.name (walker.sources tree module).length
          (walker.diagnosticsIn tree module).length] := by
  simp only [compileFresh, runPlugins_events, runPlugins_diagnostics, List.nil_append]
  rfl

theorem compileFresh_tree :
    (walker.compileFresh tree module).tree =
      treeAfter (walker.pluginInput tree module) tree walker.plugins := by
  simp only [compileFresh, runPlugins_tree]

theorem mem_callsIn {call : PluginCall} :
    call ∈ walker.callsIn tree module ↔
      call.plugin < walker.plugins.length ∧ call.input = walker.pluginInput tree module := by
  constructor
  · intro member
    obtain ⟨position, bounded, same⟩ := List.mem_mapIdx.mp member
    rw [← same]
    exact ⟨bounded, rfl⟩
  · rintro ⟨bounded, same⟩
    refine List.mem_mapIdx.mpr ⟨call.plugin, bounded, ?_⟩
    rw [← same]

end Walker

end IssueReport
