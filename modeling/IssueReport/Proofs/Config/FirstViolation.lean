import IssueReport.Proofs.Config.Validation
import Mathlib.Data.List.TakeWhile
/-!
What the check of a configuration says. It tells the first of all violations: that of the code, then
those of the plugins one after the other, the name before the command, and then those of the
patterns. What passes it has exclusions, and they exclude what at least one pattern matches.
-/

namespace IssueReport

theorem Text.trim_eq_empty_iff {text : String} : trim text = "" ↔ isBlankText text = true := by
  unfold trim isBlankText
  rw [← String.toList_eq_nil_iff, String.toList_ofList, List.reverse_eq_nil_iff, List.all_eq_true]
  constructor
  · intro nothing character member
    have behind : ∀ other ∈ text.toList.dropWhile isBlank, isBlank other = true := by
      intro other inside
      exact List.dropWhile_eq_nil_iff.mp nothing other (List.mem_reverse.mpr inside)
    rw [← @List.takeWhile_append_dropWhile _ isBlank text.toList, List.mem_append] at member
    rcases member with start | rest
    · exact List.mem_takeWhile_imp start
    · exact behind character rest
  · intro blank
    rw [List.dropWhile_eq_nil_iff.mpr blank]
    rfl

def Glob.Covers (pattern path : String) : Prop :=
  ∃ glob, Glob.parse pattern = .ok glob ∧ glob.matchesPath path = true

namespace Config

/-! ### Violations in their order -/

def codeViolations (code? : Option String) : List ConfigError :=
  match code? with
  | some code => if Text.trim code = "" then [.blankCode] else []
  | none => []

def pluginViolations (number : Nat) (plugin : CommandPlugin) : List ConfigError :=
  (if Text.trim plugin.name = "" then [.unnamedPlugin number] else []) ++
    if Text.trim plugin.command = "" then [.noCommand plugin.name] else []

def patternViolations (pattern : String) : List ConfigError :=
  match Glob.parse pattern with
  | .error error => [.invalidPattern pattern error]
  | .ok _ => []

/-- Everything that is wrong with a configuration. Plugins are counted from one. -/
def violations (config : Config) : List ConfigError :=
  codeViolations config.diagnosticCode ++
    ((config.plugins.mapIdx fun position => pluginViolations (position + 1)).flatten ++
      config.excludedPaths.flatMap patternViolations)

def verdict : List ConfigError → Except ConfigError Unit
  | [] => .ok ()
  | error :: _ => .error error

theorem verdict_append (first second : List ConfigError) :
    verdict (first ++ second) = (verdict first >>= fun _ => verdict second) := by
  cases first with
  | nil => rfl
  | cons error others => rfl

theorem validateCode_eq (code? : Option String) :
    validateCode code? = verdict (codeViolations code?) := by
  cases code? with
  | none => rfl
  | some code =>
      simp only [validateCode, codeViolations, Option.any_some, Text.trim_eq_empty_iff]
      split <;> rfl

theorem validatePlugins_eq (plugins : List CommandPlugin) (number : Nat) :
    validatePlugins number plugins =
      verdict (plugins.mapIdx fun position => pluginViolations (number + position)).flatten := by
  induction plugins generalizing number with
  | nil => rfl
  | cons plugin plugins ih =>
      have later : (fun position => pluginViolations (number + (position + 1))) =
          fun position => pluginViolations (number + 1 + position) := by
        funext position
        rw [Nat.add_right_comm, Nat.add_assoc]
      rw [List.mapIdx_cons, List.flatten_cons, later, verdict_append, ← ih, validatePlugins]
      simp only [pluginViolations, Text.trim_eq_empty_iff, Nat.add_zero]
      split
      · rfl
      · split <;> rfl

theorem validatePatterns_eq (patterns : List String) :
    validatePatterns patterns = verdict (patterns.flatMap patternViolations) := by
  induction patterns with
  | nil => rfl
  | cons pattern patterns ih =>
      rw [List.flatMap_cons, verdict_append, ← ih, validatePatterns]
      unfold patternViolations
      cases Glob.parse pattern <;> rfl

theorem validate_eq_verdict (config : Config) : config.validate = verdict config.violations := by
  have numbers : (fun position => pluginViolations (1 + position)) =
      fun position => pluginViolations (position + 1) := by
    funext position
    rw [Nat.add_comm]
  rw [violations, verdict_append, verdict_append, ← validateCode_eq, ← validatePatterns_eq,
    ← numbers, ← validatePlugins_eq]
  rfl

theorem verdict_eq_error {violations : List ConfigError} {error : ConfigError} :
    verdict violations = .error error ↔ violations.head? = some error := by
  cases violations with
  | nil => simp [verdict]
  | cons first others => simp [verdict]

/-! ### Exclusions -/

theorem exists_glob_iff {patterns : List String} {globs : List Glob} {good : Glob → Prop}
    (compiled : List.Forall₂ (fun pattern glob => Glob.parse pattern = .ok glob) patterns globs) :
    (∃ glob ∈ globs, good glob) ↔
      ∃ pattern ∈ patterns, ∃ glob, Glob.parse pattern = .ok glob ∧ good glob := by
  induction compiled with
  | nil => simp
  | cons parsed rest ih => simp [parsed, ih]

/-- Patterns are refused together only if one of them nests too deeply. -/
theorem builds_of_shallow {config : Config}
    (shallow : ∀ pattern ∈ config.excludedPaths, ∀ glob, Glob.parse pattern = .ok glob →
      ¬ glob.isTooDeep = true) : config.Builds := by
  intro globs compiled
  have noneDeep : ∀ glob ∈ globs, ¬ glob.isTooDeep = true := by
    intro glob member deep
    have origin := @exists_glob_iff _ _ (fun glob => glob.isTooDeep = true)
      (outcome_mapM_eq_ok.mp compiled)
    obtain ⟨pattern, patternMember, other, parsed, otherDeep⟩ := origin.mp ⟨glob, member, deep⟩
    exact shallow pattern patternMember other parsed otherDeep
  have extensions : (Exclusions.ofForm .extension globs).find? Glob.isTooDeep = none :=
    List.find?_eq_none.mpr fun glob member => noneDeep glob (List.mem_of_mem_filter member)
  have others : (Exclusions.ofForm .general globs).findIdx? Glob.isTooDeep = none :=
    List.findIdx?_eq_none_iff.mpr fun glob member =>
      Bool.eq_false_iff.mpr (noneDeep glob (List.mem_of_mem_filter member))
  refine ⟨⟨globs⟩, ?_⟩
  simp only [Exclusions.ofGlobs, Exclusions.tooDeep?, extensions, others, Option.map_none]

/-- A set of patterns holds the globs that they compile to. -/
theorem globs_of_ofPatterns {patterns : List String} {set : Exclusions}
    (built : Exclusions.ofPatterns patterns = .ok set) :
    List.Forall₂ (fun pattern glob => Glob.parse pattern = .ok glob) patterns set.globs := by
  unfold Exclusions.ofPatterns at built
  split at built
  · rename_i globs compiled
    unfold Exclusions.ofGlobs at built
    split at built
    · cases built
    · cases built
      exact outcome_mapM_eq_ok.mp compiled
  · cases built

theorem excludes_iff {patterns : List String} {set : Exclusions} {path : String}
    (built : Exclusions.ofPatterns patterns = .ok set) :
    set.excludes path = true ↔ ∃ pattern ∈ patterns, Glob.Covers pattern path := by
  unfold Exclusions.excludes Glob.Covers
  rw [List.any_eq_true, exists_glob_iff (globs_of_ofPatterns built)]

theorem exclusions_eq_ok {config : Config} {exclusions? : Option Exclusions} :
    config.exclusions = .ok exclusions? ↔
      config.excludedPaths = [] ∧ exclusions? = none ∨
        config.excludedPaths ≠ [] ∧ ∃ set, exclusions? = some set ∧
          Exclusions.ofPatterns config.excludedPaths = .ok set := by
  unfold exclusions
  by_cases empty : config.excludedPaths = []
  · simp [empty, eq_comm]
  · rw [if_neg (by simpa using empty), outcome_map_eq_ok]
    simp [empty, eq_comm, and_comm]

/-! ### The check as a whole -/

/-- A configuration passes its check exactly if nothing is wrong with it, and otherwise the first
violation is told. Where each pattern compiles and they make a set, the exclusions are theirs. -/
structure TellsFirst (config : Config) : Prop where
  accepts : config.validate = .ok () ↔
    (∀ code, config.diagnosticCode = some code → Text.trim code ≠ "") ∧
    (∀ plugin ∈ config.plugins, Text.trim plugin.name ≠ "" ∧ Text.trim plugin.command ≠ "") ∧
    ∀ pattern ∈ config.excludedPaths, ∃ glob, Glob.parse pattern = .ok glob
  refuses : ∀ error, config.validate = .error error ↔ config.violations.head? = some error
  excludes : config.validate = .ok () → config.Builds →
    ∃ exclusions?, config.exclusions = .ok exclusions? ∧
      (exclusions? = none ↔ config.excludedPaths = []) ∧
      ∀ set, exclusions? = some set → ∀ path,
        set.excludes path = true ↔ ∃ pattern ∈ config.excludedPaths, Glob.Covers pattern path

theorem tellsFirst (config : Config) : config.TellsFirst where
  accepts := by
    rw [validate_eq_ok]
    simp only [ne_eq, Text.trim_eq_empty_iff]
    constructor
    · intro valid
      exact ⟨valid.code, valid.plugins, valid.patterns⟩
    · intro ⟨code, plugins, patterns⟩
      exact ⟨code, plugins, patterns⟩
  refuses := by
    intro error
    rw [validate_eq_verdict, verdict_eq_error]
  excludes := by
    intro passed builds
    obtain ⟨exclusions?, excluded⟩ := (validate_eq_ok.mp passed).exists_exclusions builds
    refine ⟨exclusions?, excluded, ?_⟩
    rcases exclusions_eq_ok.mp excluded with ⟨empty, nothing⟩ | ⟨patterns, set, found, built⟩
    · simp [empty, nothing]
    · rw [found]
      refine ⟨by simp [patterns], ?_⟩
      intro other same path
      cases same
      exact excludes_iff built

def generatedConfig : Config :=
  ⟨[⟨"scan", "bal-scan", ["--json"]⟩], some "SCAN", ["modules/gen*/**", "*_test.bal", "**/x.bal"],
    none⟩

theorem builds_generatedConfig : generatedConfig.Builds := by
  apply builds_of_shallow
  have shallow : ∀ pattern ∈ generatedConfig.excludedPaths,
      (Glob.parse pattern).toOption.all fun glob => !glob.isTooDeep := by decide +kernel
  intro pattern member glob parsed
  have checked := shallow pattern member
  rw [outcome_toOption_eq_some.mpr parsed] at checked
  simpa using checked

/-- It passes, and its exclusions are those of its three patterns. -/
theorem tellsFirst_generatedConfig :
    generatedConfig.validate = .ok () ∧ generatedConfig.Builds ∧
      ∃ set, generatedConfig.exclusions = .ok (some set) ∧ ∀ path, set.excludes path = true ↔
        ∃ pattern ∈ generatedConfig.excludedPaths, Glob.Covers pattern path := by
  have passed : generatedConfig.validate = .ok () := by
    have checked : generatedConfig.validate.toOption = some () := by decide +kernel
    exact outcome_toOption_eq_some.mp checked
  obtain ⟨exclusions?, excluded, present, covers⟩ :=
    (tellsFirst generatedConfig).excludes passed builds_generatedConfig
  refine ⟨passed, builds_generatedConfig, ?_⟩
  cases exclusions? with
  | none => exact absurd (present.mp rfl) (by decide)
  | some set => exact ⟨set, excluded, covers set rfl⟩

example : violations ⟨[⟨"a", "cat", []⟩, ⟨" ", "\t", []⟩], none, ["["], none⟩ =
    [.unnamedPlugin 2, .noCommand " ", .invalidPattern "[" ⟨"[", .unclosedClass⟩] := by
  decide +kernel

end Config

end IssueReport
