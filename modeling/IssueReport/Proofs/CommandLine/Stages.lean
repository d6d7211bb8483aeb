import IssueReport.CommandLine.Run
import IssueReport.Proofs.Config.Denotation
import IssueReport.Proofs.Config.Validation
import IssueReport.Proofs.Walker.Snapshots
/-!
How a run of the command line ends. There are five stages, in a fixed order, and at each of them the
run either ends, with an outcome that is known from there, or goes on. The last one always writes a
whole report, however programs are started.
-/

namespace IssueReport.CommandLine

variable (tree : FileTree) (here : Location)

def AsksHelp (arguments : Arguments) : Prop :=
  arguments.help = true ∨ ∃ path, arguments.path = some path ∧ Path.sameNames path "?" = true

inductive Unusable (file : String) : Failure → Prop
  | unread (missing : tree.read? here file = none) :
      Unusable file (.configUnread file .unreadable)
  | unparsed {content : List UInt8} {error : ConfigReadError}
      (read : tree.read? here file = some content)
      (meaningless : ∀ config, ¬ Config.Denotes content config)
      (faulty : Config.parse content = .error error) : Unusable file (.configUnread file error)
  | invalid {content : List UInt8} {config : Config} {error : ConfigError}
      (read : tree.read? here file = some content) (denoted : Config.Denotes content config)
      (invalid : ¬ config.Valid) (refused : config.validate = .error error) :
      Unusable file (.configInvalid error)

/-- The configuration of a run, and what is logged of it: what the file denotes, if there is one. -/
inductive Configured (given : Option String) (path : String) : Config → List Event → Prop
  | absent (nowhere : configPath tree here given path = none) :
      Configured given path Config.default []
  | file {file : String} {content : List UInt8} {config : Config}
      (chosen : configPath tree here given path = some file)
      (read : tree.read? here file = some content) (denoted : Config.Denotes content config)
      (valid : config.Valid) :
      Configured given path config [.loadingConfiguration file]

/-- What a run leaves that has made a report. Failures of plugins are events, and failed conversions
are counted in the log. -/
def reported (events : List Event) (pipeline : Pipeline) (state : WalkState) : Outcome where
  code := 0
  output := (pipeline.run state).1.issues.reportText
  failure := none
  events := events ++ (pipeline.run state).2.events ++
    skippedEvents (pipeline.run state).1.failures.length
  tree := (pipeline.run state).2.tree

inductive Stage where
  | help
  | path
  | configuration
  | project
  | report
  deriving DecidableEq

inductive EndsAt (starter : CommandPlugin.Starter) (arguments : Arguments) : Stage → Outcome → Prop
  | help (asked : AsksHelp arguments) : EndsAt starter arguments .help ⟨0, helpText, none, [], tree⟩
  | path {error : PathError} (unasked : ¬ AsksHelp arguments)
      (rejected : Path.check tree here arguments.path = .error error) :
      EndsAt starter arguments .path ⟨2, error.message ++ "\n", some (.pathRejected error), [], tree⟩
  | configuration {path file : String} {failure : Failure} (unasked : ¬ AsksHelp arguments)
      (accepted : Path.check tree here arguments.path = .ok path)
      (chosen : configPath tree here arguments.config path = some file)
      (unusable : Unusable tree here file failure) :
      EndsAt starter arguments .configuration ⟨2, "", some failure, [.loadingConfiguration file], tree⟩
  | project {path : String} {config : Config} {events : List Event} {error : LoadError}
      (unasked : ¬ AsksHelp arguments) (accepted : Path.check tree here arguments.path = .ok path)
      (configured : Configured tree here arguments.config path config events)
      (unloaded : Project.load tree here path = .error error) :
      EndsAt starter arguments .project ⟨2, "", some (.projectUnloaded error), events, tree⟩
  | report {path : String} {config : Config} {events : List Event}
      {exclusions : Option Exclusions} {walker : Walker} {state : WalkState}
      (unasked : ¬ AsksHelp arguments) (accepted : Path.check tree here arguments.path = .ok path)
      (configured : Configured tree here arguments.config path config events)
      (excluded : config.exclusions = .ok exclusions)
      (opened : Walker.load tree here path (config.plugins.map (CommandPlugin.pluginOf starter))
        (exclusions.getD Exclusions.none) = .ok (walker, state)) :
      EndsAt starter arguments .report
        (reported events ⟨walker, config.effectiveCode, config.effectiveCheck⟩ state)

def PatternsBuild (arguments : Arguments) : Prop :=
  ∀ path config events, Path.check tree here arguments.path = .ok path →
    Configured tree here arguments.config path config events → config.Builds

/-- The stage at which a run ends: the first that it does not get through. -/
def stageOf (arguments : Arguments) : Stage :=
  if wantsHelp arguments then .help
  else
    match Path.check tree here arguments.path with
    | .error _ => .path
    | .ok path =>
        match (configPath tree here arguments.config path).map (loadConfig tree here) with
        | some (.error _) => .configuration
        | _ =>
            match Project.load tree here path with
            | .error _ => .project
            | .ok _ => .report

variable {tree here} {starter : CommandPlugin.Starter} {arguments : Arguments}

/-! ### Single stages -/

theorem wantsHelp_iff : wantsHelp arguments = true ↔ AsksHelp arguments := by
  unfold wantsHelp AsksHelp helpPath
  rw [Bool.or_eq_true, Option.any_eq_true]

theorem not_wantsHelp (unasked : ¬ AsksHelp arguments) : ¬ wantsHelp arguments = true :=
  fun wanted => unasked (wantsHelp_iff.mp wanted)

theorem loadConfig_of_valid {file : String} {content : List UInt8} {config : Config}
    (read : tree.read? here file = some content) (denoted : Config.Denotes content config)
    (valid : config.Valid) : loadConfig tree here file = .ok config := by
  simp only [loadConfig, read, Config.parse_eq_ok.mpr denoted, Config.validate_eq_ok.mpr valid]

theorem loadConfig_of_unusable {file : String} {failure : Failure}
    (unusable : Unusable tree here file failure) :
    loadConfig tree here file = .error failure := by
  cases unusable with
  | unread missing => simp only [loadConfig, missing]
  | unparsed read _ faulty => simp only [loadConfig, read, faulty]
  | invalid read denoted _ refused =>
      simp only [loadConfig, read, Config.parse_eq_ok.mpr denoted, refused]

/-- A chosen configuration file is either used or unusable. -/
theorem configured_or_unusable {given : Option String} {path file : String}
    (chosen : configPath tree here given path = some file) :
    (∃ config, Configured tree here given path config [.loadingConfiguration file]) ∨
      ∃ failure, Unusable tree here file failure := by
  cases read : tree.read? here file with
  | none => exact .inr ⟨_, .unread read⟩
  | some content =>
      cases parsed : Config.parse content with
      | error error =>
          refine .inr ⟨_, .unparsed read ?_ parsed⟩
          intro config denoted
          rw [Config.parse_eq_ok.mpr denoted] at parsed
          cases parsed
      | ok config =>
          have denoted := Config.parse_eq_ok.mp parsed
          cases checked : config.validate with
          | error error =>
              refine .inr ⟨_, .invalid read denoted ?_ checked⟩
              intro valid
              rw [Config.validate_eq_ok.mpr valid] at checked
              cases checked
          | ok done =>
              have valid := Config.validate_eq_ok.mp checked
              exact .inl ⟨config, .file chosen read denoted valid⟩

/-- A run has one configuration. -/
theorem Configured.unique {given : Option String} {path : String} {config other : Config}
    {events others : List Event} (configured : Configured tree here given path config events)
    (again : Configured tree here given path other others) : config = other := by
  cases configured with
  | absent nowhere =>
      cases again with
      | absent => rfl
      | file chosen =>
          rw [nowhere] at chosen
          cases chosen
  | file chosen read denoted valid =>
      cases again with
      | absent nowhere =>
          rw [nowhere] at chosen
          cases chosen
      | file chosenAgain readAgain denotedAgain validAgain =>
          rw [chosen] at chosenAgain
          cases chosenAgain
          rw [read] at readAgain
          cases readAgain
          have parsed := Config.parse_eq_ok.mpr denoted
          rw [Config.parse_eq_ok.mpr denotedAgain] at parsed
          exact (Except.ok.inj parsed).symm

theorem Configured.exists_exclusions {given : Option String} {path : String} {config : Config}
    {events : List Event} (configured : Configured tree here given path config events)
    (builds : config.Builds) : ∃ exclusions, config.exclusions = .ok exclusions := by
  cases configured with
  | absent nowhere => exact ⟨none, rfl⟩
  | file chosen read denoted valid => exact valid.exists_exclusions builds

theorem report_of_unloaded {path : String} {error : LoadError} (events : List Event)
    (config : Config) (unloaded : Project.load tree here path = .error error) :
    report tree here starter events path config =
      ⟨2, "", some (.projectUnloaded error), events, tree⟩ := by
  simp only [report, Walker.load, unloaded]
  rfl

theorem report_of_opened {path : String} {config : Config} {exclusions : Option Exclusions}
    {walker : Walker} {state : WalkState} (events : List Event)
    (excluded : config.exclusions = .ok exclusions)
    (opened : Walker.load tree here path (config.plugins.map (CommandPlugin.pluginOf starter))
      (exclusions.getD Exclusions.none) = .ok (walker, state)) :
    report tree here starter events path config =
      reported events ⟨walker, config.effectiveCode, config.effectiveCheck⟩ state := by
  obtain ⟨project, loaded, rfl, rfl⟩ := Walker.load_eq_ok.mp opened
  simp only [report, Walker.load, loaded, excluded]
  rfl

/-! ### Whole runs -/

section Run

variable {path : String} {config : Config} {events : List Event}

/-- A run that is configured goes on to its report. -/
theorem run_of_configured (unasked : ¬ AsksHelp arguments)
    (accepted : Path.check tree here arguments.path = .ok path)
    (configured : Configured tree here arguments.config path config events) :
    runWith tree here starter arguments = report tree here starter events path config := by
  unfold runWith
  rw [if_neg (not_wantsHelp unasked), accepted]
  dsimp only
  cases configured with
  | absent nowhere => rw [nowhere]
  | file chosen read denoted valid =>
      rw [chosen]
      dsimp only
      rw [loadConfig_of_valid read denoted valid]

theorem stageOf_of_configured (unasked : ¬ AsksHelp arguments)
    (accepted : Path.check tree here arguments.path = .ok path)
    (configured : Configured tree here arguments.config path config events) :
    stageOf tree here arguments =
      match Project.load tree here path with
      | .error _ => .project
      | .ok _ => .report := by
  unfold stageOf
  rw [if_neg (not_wantsHelp unasked), accepted]
  dsimp only
  cases configured with
  | absent nowhere =>
      rw [nowhere]
      rfl
  | file chosen read denoted valid =>
      rw [chosen, Option.map_some, loadConfig_of_valid read denoted valid]

end Run

/-- What ends at a stage ends there alone, and is the run. -/
theorem EndsAt.eq_run {stage : Stage} {outcome : Outcome}
    (ends : EndsAt tree here starter arguments stage outcome) :
    stage = stageOf tree here arguments ∧ outcome = runWith tree here starter arguments := by
  cases ends with
  | help asked =>
      have wanted := wantsHelp_iff.mpr asked
      unfold stageOf runWith
      rw [if_pos wanted, if_pos wanted]
      exact ⟨rfl, rfl⟩
  | path unasked rejected =>
      have unwanted := not_wantsHelp unasked
      unfold stageOf runWith
      rw [if_neg unwanted, if_neg unwanted, rejected]
      exact ⟨rfl, rfl⟩
  | configuration unasked accepted chosen unusable =>
      have unwanted := not_wantsHelp unasked
      unfold stageOf runWith
      rw [if_neg unwanted, if_neg unwanted, accepted]
      dsimp only
      rw [chosen]
      dsimp only [Option.map_some]
      rw [loadConfig_of_unusable unusable]
      refine ⟨rfl, ?_⟩
      cases unusable <;> rfl
  | project unasked accepted configured unloaded =>
      rw [stageOf_of_configured unasked accepted configured, unloaded,
        run_of_configured unasked accepted configured, report_of_unloaded _ _ unloaded]
      exact ⟨rfl, rfl⟩
  | report unasked accepted configured excluded opened =>
      obtain ⟨project, loaded, -, -⟩ := Walker.load_eq_ok.mp opened
      rw [stageOf_of_configured unasked accepted configured, loaded,
        run_of_configured unasked accepted configured, report_of_opened _ excluded opened]
      exact ⟨rfl, rfl⟩

/-- Every run ends at some stage. -/
theorem exists_endsAt (builds : PatternsBuild tree here arguments) :
    ∃ stage outcome, EndsAt tree here starter arguments stage outcome := by
  by_cases asked : AsksHelp arguments
  · exact ⟨_, _, .help asked⟩
  cases checked : Path.check tree here arguments.path with
  | error error => exact ⟨_, _, .path asked checked⟩
  | ok path =>
      -- from a configuration on, only the project can still be missing
      have onward : ∀ {config events}, Configured tree here arguments.config path config events →
          ∃ stage outcome, EndsAt tree here starter arguments stage outcome := by
        intro config events configured
        obtain ⟨exclusions, excluded⟩ :=
          configured.exists_exclusions (builds path config events checked configured)
        cases loaded : Project.load tree here path with
        | error error => exact ⟨_, _, .project asked checked configured loaded⟩
        | ok project =>
            exact ⟨_, _, .report asked checked configured excluded
              (Walker.load_eq_ok.mpr ⟨project, loaded, rfl, rfl⟩)⟩
      cases chosen : configPath tree here arguments.config path with
      | none => exact onward (.absent chosen)
      | some file =>
          rcases configured_or_unusable chosen with ⟨config, configured⟩ | ⟨failure, unusable⟩
          · exact onward configured
          · exact ⟨_, _, .configuration asked checked chosen unusable⟩

/-! ### What the outcomes have in common -/

section Outcomes

variable {stage : Stage} {outcome : Outcome} (ends : EndsAt tree here starter arguments stage outcome)

include ends

theorem EndsAt.code_eq : outcome.code = if outcome.failure = none then 0 else 2 := by
  cases ends <;> rfl

theorem EndsAt.failure_ne (error : ExclusionsError) :
    outcome.failure ≠ some (.patternInvalid error) := by
  cases ends with
  | configuration unasked accepted chosen unusable => cases unusable <;> simp
  | help | path | project | report => simp [reported]

theorem EndsAt.untouched (early : stage ≠ .report) :
    outcome.tree = tree ∧ ∀ event ∈ outcome.events, ∃ file, event = .loadingConfiguration file := by
  cases ends with
  | help | path | configuration => simp
  | project unasked accepted configured unloaded => cases configured <;> simp
  | report => exact absurd rfl early

end Outcomes

theorem run_of_asked (asked : AsksHelp arguments) :
    runWith tree here starter arguments = ⟨0, helpText, none, [], tree⟩ :=
  (EndsAt.help asked).eq_run.2.symm

theorem run_of_rejected {error : PathError} {other : CommandPlugin.Starter}
    (rejected : Path.check tree here arguments.path = .error error) (config : Option String) :
    runWith tree here other { arguments with config := config } =
      runWith tree here starter arguments := by
  by_cases asked : AsksHelp arguments
  · rw [run_of_asked asked]
    exact run_of_asked asked
  · have same := (@EndsAt.path tree here starter _ _ asked rejected).eq_run.2
    rw [← same]
    exact (@EndsAt.path tree here other { arguments with config := config } error asked
      rejected).eq_run.2.symm

/-- Programs are started at the last stage only. -/
theorem EndsAt.unstarted {stage : Stage} {outcome : Outcome}
    (ends : EndsAt tree here starter arguments stage outcome) (early : stage ≠ .report)
    (other : CommandPlugin.Starter) : EndsAt tree here other arguments stage outcome := by
  cases ends with
  | help asked => exact .help asked
  | path unasked rejected => exact .path unasked rejected
  | configuration unasked accepted chosen unusable =>
      exact .configuration unasked accepted chosen unusable
  | project unasked accepted configured unloaded =>
      exact .project unasked accepted configured unloaded
  | report => exact absurd rfl early

/-- How runs with some arguments end, given how programs are started: at one stage, with the outcome
that belongs to it. -/
structure EndsOnce (tree : FileTree) (here : Location) (starter : CommandPlugin.Starter)
    (arguments : Arguments) : Prop where
  ends : ∀ stage outcome, EndsAt tree here starter arguments stage outcome ↔
    stage = stageOf tree here arguments ∧ outcome = runWith tree here starter arguments
  code : (runWith tree here starter arguments).code =
    if (runWith tree here starter arguments).failure = none then 0 else 2
  /-- After the check of a configuration its patterns are not refused. -/
  compiled : ∀ error, (runWith tree here starter arguments).failure ≠ some (.patternInvalid error)
  /-- Before the last stage no project is loaded, no program is started, and nothing happens to the
  files. -/
  untouched : stageOf tree here arguments ≠ .report →
    (runWith tree here starter arguments).tree = tree ∧
      (∀ event ∈ (runWith tree here starter arguments).events,
        ∃ file, event = .loadingConfiguration file) ∧
      ∀ other, runWith tree here other arguments = runWith tree here starter arguments
  /-- Help does not depend on the files or on the configuration. -/
  help : AsksHelp arguments → ∀ otherTree elsewhere other config,
    runWith otherTree elsewhere other { arguments with config := config } =
      ⟨0, helpText, none, [], otherTree⟩
  /-- Where the path is rejected, it does not matter which configuration is given. -/
  rejected : ∀ error, Path.check tree here arguments.path = .error error →
    ∀ config, runWith tree here starter { arguments with config := config } =
      runWith tree here starter arguments

def bridgeText : List UInt8 := Text.utf8
  "plugins:\n- name: scan\n  command: cat\nexcluded_paths: [modules/**]\n"

def bridgeConfig : Config := ⟨[⟨"scan", "cat", []⟩], none, ["modules/**"], none⟩

def bridgedPackage : FileTree :=
  Walker.smallPackage.insert ["shop", "bridge.yaml"] (.file bridgeText)

def bridgedArguments : Arguments := ⟨some "/shop", none, false⟩

set_option maxRecDepth 20000 in
theorem parse_bridgeText : Config.parse bridgeText = .ok bridgeConfig := by
  have found : (Config.parse bridgeText).toOption = some bridgeConfig := by decide +kernel
  exact outcome_toOption_eq_some.mp found

theorem builds_bridgeConfig : bridgeConfig.Builds := by
  intro globs compiled
  have built : (Exclusions.ofPatterns bridgeConfig.excludedPaths).isOk = true := by decide +kernel
  rw [Exclusions.ofPatterns, compiled] at built
  dsimp only at built
  cases found : Exclusions.ofGlobs globs with
  | error error =>
      rw [found] at built
      cases built
  | ok exclusions => exact ⟨exclusions, rfl⟩

theorem check_bridgedPackage :
    Path.check bridgedPackage [] bridgedArguments.path = .ok "/shop" :=
  rfl

theorem configured_bridgedPackage :
    Configured bridgedPackage [] bridgedArguments.config "/shop" bridgeConfig
      [.loadingConfiguration "/shop/bridge.yaml"] := by
  have checked : bridgeConfig.validate.toOption = some () := by decide +kernel
  have valid := Config.validate_eq_ok.mp (outcome_toOption_eq_some.mp checked)
  exact .file rfl rfl (Config.parse_eq_ok.mp parse_bridgeText) valid

theorem patternsBuild_bridgedPackage : PatternsBuild bridgedPackage [] bridgedArguments := by
  intro path config events accepted configured
  rw [check_bridgedPackage] at accepted
  cases accepted
  rw [configured.unique configured_bridgedPackage]
  exact builds_bridgeConfig

end IssueReport.CommandLine
