import IssueReport.Config
import IssueReport.Proofs.Json.Reading
/-!
Configurations that can be used. A configuration passes the check exactly if its code is not blank,
its plugins have names and commands, and its patterns compile; after that only the patterns together
can still be refused.
-/

namespace IssueReport.Config

structure Valid (config : Config) : Prop where
  code : ∀ code, config.diagnosticCode = some code → ¬ Text.isBlankText code = true
  plugins : ∀ plugin ∈ config.plugins,
    ¬ Text.isBlankText plugin.name = true ∧ ¬ Text.isBlankText plugin.command = true
  patterns : ∀ pattern ∈ config.excludedPaths, ∃ glob, Glob.parse pattern = .ok glob

theorem validateCode_eq_ok {code? : Option String} :
    validateCode code? = .ok () ↔ ∀ code, code? = some code → ¬ Text.isBlankText code = true := by
  cases code? with
  | none => simp [validateCode]
  | some code => simp [validateCode]

theorem validatePlugins_eq_ok {plugins : List CommandPlugin} {number : Nat} :
    validatePlugins number plugins = .ok () ↔ ∀ plugin ∈ plugins,
      ¬ Text.isBlankText plugin.name = true ∧ ¬ Text.isBlankText plugin.command = true := by
  induction plugins generalizing number with
  | nil => simp [validatePlugins]
  | cons plugin plugins ih =>
      rw [validatePlugins, List.forall_mem_cons]
      by_cases unnamed : Text.isBlankText plugin.name = true
      · simp [unnamed]
      · by_cases idle : Text.isBlankText plugin.command = true
        · simp [unnamed, idle]
        · rw [if_neg unnamed, if_neg idle, ih]
          simp [unnamed, idle]

theorem validatePatterns_eq_ok {patterns : List String} :
    validatePatterns patterns = .ok () ↔
      ∀ pattern ∈ patterns, ∃ glob, Glob.parse pattern = .ok glob := by
  induction patterns with
  | nil => simp [validatePatterns]
  | cons pattern patterns ih =>
      rw [validatePatterns, List.forall_mem_cons]
      cases compiled : Glob.parse pattern with
      | error error => simp
      | ok glob =>
          dsimp only
          rw [ih]
          simp

theorem validate_eq_ok {config : Config} : config.validate = .ok () ↔ config.Valid := by
  unfold validate
  simp only [outcome_bind_eq_ok]
  constructor
  · rintro ⟨_, coded, _, named, compiled⟩
    exact ⟨validateCode_eq_ok.mp coded, validatePlugins_eq_ok.mp named,
      validatePatterns_eq_ok.mp compiled⟩
  · rintro ⟨coded, named, compiled⟩
    exact ⟨(), validateCode_eq_ok.mpr coded, (), validatePlugins_eq_ok.mpr named,
      validatePatterns_eq_ok.mpr compiled⟩

/-- The patterns make a set, if each of them compiles. -/
def Builds (config : Config) : Prop :=
  ∀ globs, config.excludedPaths.mapM Glob.parse = .ok globs →
    ∃ exclusions, Exclusions.ofGlobs globs = .ok exclusions

theorem exists_mapM_parse {patterns : List String}
    (compiled : ∀ pattern ∈ patterns, ∃ glob, Glob.parse pattern = .ok glob) :
    ∃ globs, patterns.mapM Glob.parse = .ok globs := by
  obtain ⟨globs, related⟩ := exists_forall₂_iff.mpr compiled
  exact ⟨globs, outcome_mapM_eq_ok.mpr related⟩

/-- After the check, the exclusions are there as well. -/
theorem Valid.exists_exclusions {config : Config} (valid : config.Valid) (builds : config.Builds) :
    ∃ exclusions, config.exclusions = .ok exclusions := by
  obtain ⟨globs, compiled⟩ := exists_mapM_parse valid.patterns
  obtain ⟨built, set⟩ := builds globs compiled
  unfold exclusions Exclusions.ofPatterns
  split
  · exact ⟨none, rfl⟩
  · refine ⟨some built, ?_⟩
    rw [compiled]
    dsimp only
    rw [set]
    rfl

end IssueReport.Config
