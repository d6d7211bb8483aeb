import IssueReport.Proofs.CommandLine.Stages
import IssueReport.Proofs.FileTree.Parents
import IssueReport.Proofs.Project.ReturnedPath
/-!
Which configuration a run uses. It is looked for along the path to the project and found in its
root: the directory of a source, as its path says it, is the one that holds the source in the end,
as long as the last step is no link. A chosen file that cannot be used ends the run.
-/

namespace IssueReport.CommandLine

open Project (load)

variable {tree : FileTree} {here : Location} {path : String} {project : Project}

def configuration (tree : FileTree) (here : Location) (given : Option String) (path : String) :
    Except Failure Config :=
  match configPath tree here given path with
  | some file => loadConfig tree here file
  | none => .ok Config.default

/-! ### The directory of a source -/

theorem resolve_of_names {directory : String} {place : Location} {steps : List String} {links : Nat}
    (free : '\x00' ∉ directory.toList) (nonempty : directory ≠ "") (few : links ≤ FileTree.linkLimit)
    (leads : tree.Leads links (FileTree.startOf here directory) steps place)
    (isDirectory : tree.node? place = some .directory)
    (same : steps.filter (· ≠ ".") = (Path.names directory).map String.ofList) :
    tree.resolve here directory = .ok place := by
  refine FileTree.resolve_eq_ok.mpr ⟨free, nonempty, links, few, ?_⟩
  apply FileTree.LeadsBy.of_filter_here isDirectory
  rw [Path.filter_steps, ← same]
  exact leads.filter_here

theorem isAbsolute_of_prefix {first whole : String} (initial : first.toList <+: whole.toList)
    (nonempty : first ≠ "") : Path.isAbsolute first = Path.isAbsolute whole := by
  obtain ⟨character, rest, start⟩ := List.exists_cons_of_ne_nil
    (fun nothing => nonempty (String.toList_eq_nil_iff.mp nothing))
  obtain ⟨others, same⟩ := initial
  unfold Path.isAbsolute
  rw [← same, start]
  rfl

/-- Where its last step is no link, the path of a source says the directory that holds it. -/
theorem resolve_parent (grounded : tree.Grounded) (ordinary : ¬ tree.EndsAtLink here path)
    {location : Location} {content : List UInt8}
    (resolved : tree.resolve here path = .ok location)
    (found : tree.node? location = some (.file content)) :
    ∃ parent, Path.parent? path = some parent ∧
      tree.resolve here (if parent = "" then "." else parent) = .ok location.dropLast := by
  obtain ⟨before, last, taken⟩ := Path.exists_steps path
  obtain ⟨notHere, _, links, directory, few, leads, isDirectory, same⟩ :=
    FileTree.leads_of_file grounded resolved found ordinary taken
  obtain ⟨others, piece, split, lastPiece, moves⟩ := Path.exists_last_piece taken notHere
  obtain ⟨parent, parentFound, initial, names, absolute⟩ := Path.exists_parent split moves
  obtain ⟨free, _⟩ := FileTree.resolve_eq_ok.mp resolved
  have beforeNames : before.filter (· ≠ ".") = (Path.names parent).map String.ofList := by
    have all := Path.filter_steps path
    rw [taken, names, List.filter_append, List.filter_singleton, List.map_append,
      decide_eq_true notHere, List.map_singleton, lastPiece] at all
    exact List.append_cancel_right all
  refine ⟨parent, parentFound, ?_⟩
  rw [same, List.dropLast_concat]
  by_cases nothing : parent = ""
  · -- the source is in the directory from which its path starts
    have relative : Path.isAbsolute path = false := by
      apply Bool.eq_false_iff.mpr
      intro starts
      exact absolute starts nothing
    rw [FileTree.startOf, relative] at leads
    rw [nothing] at beforeNames
    rw [if_pos nothing]
    exact resolve_of_names (by decide) (by decide) few leads isDirectory beforeNames
  · have starts := isAbsolute_of_prefix initial nothing
    rw [FileTree.startOf, ← starts] at leads
    rw [if_neg nothing]
    exact resolve_of_names (fun nul => free (initial.subset nul)) nothing few leads isDirectory
      beforeNames

theorem configDirectory_of_parent {parent : String} (isFile : tree.isFile here path = true)
    (found : Path.parent? path = some parent) :
    configDirectory tree here path = if parent = "" then "." else parent := by
  unfold configDirectory
  rw [if_pos isFile, found]
  split
  · rename_i empty
    rw [Option.some.inj empty, if_pos rfl]
  · rename_i other notEmpty same
    rw [Option.some.inj same, if_neg notEmpty]
  · rename_i impossible
    cases impossible

/-- The directory in which a configuration is looked for is the root of the project. -/
theorem resolve_configDirectory (grounded : tree.Grounded)
    (ordinary : ¬ tree.EndsAtLink here path) (short : path.utf8ByteSize ≤ FileTree.pathLimit)
    (loaded : load tree here path = .ok project) :
    tree.resolve here (configDirectory tree here path) = .ok project.root := by
  obtain ⟨location, resolved, ⟨⟨content, found⟩, rfl⟩ | ⟨directory, -, rfl⟩⟩ :=
    Project.cases_of_load loaded
  · have isFile : tree.isFile here path = true :=
      FileTree.isFile_iff.mpr ⟨short, location, content, resolved, found⟩
    obtain ⟨parent, parentFound, parentResolved⟩ :=
      resolve_parent grounded ordinary resolved found
    rw [configDirectory_of_parent isFile parentFound]
    exact parentResolved
  · have notFile : ¬ tree.isFile here path = true := by
      intro isFile
      obtain ⟨_, target, content, alsoResolved, found⟩ := FileTree.isFile_iff.mp isFile
      rw [resolved] at alsoResolved
      cases alsoResolved
      rw [directory] at found
      cases found
    rw [configDirectory, if_neg notFile]
    exact resolved

/-! ### Choosing a file -/

theorem isFileName_config {name : String} (member : name ∈ Config.fileNames) : IsFileName name := by
  rcases List.mem_cons.mp member with first | second
  · rw [first]
    exact ⟨⟨by decide, by decide, by decide⟩, by decide, by decide⟩
  · rw [List.mem_singleton.mp second]
    exact ⟨⟨by decide, by decide, by decide⟩, by decide, by decide⟩

/-- The root of the project has a configuration file with a name, and it is in reach. -/
def IsBeside (tree : FileTree) (here : Location) (path : String) (root : Location) (name : String) :
    Prop :=
  tree.isFile root name = true ∧ tree.InReach here (configDirectory tree here path) name

/-- Where no configuration is given, the file with a name in the root of the project is read. -/
def Reads (tree : FileTree) (here : Location) (path : String) (root : Location) (name : String) :
    Prop :=
  ∃ file location content, configPath tree here none path = some file ∧
    tree.resolve here file = .ok location ∧ tree.resolve root name = .ok location ∧
    tree.node? location = some (.file content) ∧ tree.read? here file = some content

theorem configPath_none (tree : FileTree) (here : Location) (path : String) :
    configPath tree here none path =
      if tree.isFile here (Path.join (configDirectory tree here path) "bridge.yaml") = true then
        some (Path.join (configDirectory tree here path) "bridge.yaml")
      else if tree.isFile here (Path.join (configDirectory tree here path) ".bridge.yaml") = true
      then some (Path.join (configDirectory tree here path) ".bridge.yaml")
      else none := by
  simp only [configPath, Config.discover, Config.fileNames, List.map_cons, List.map_nil,
    List.find?_cons, List.find?_nil]
  split <;> split <;> simp_all

section Root

variable {root : Location} {name : String}
  (resolved : tree.resolve here (configDirectory tree here path) = .ok root)

include resolved

theorem isFile_join_iff_isBeside (member : name ∈ Config.fileNames) :
    tree.isFile here (Path.join (configDirectory tree here path) name) = true ↔
      IsBeside tree here path root name :=
  FileTree.isFile_join_iff (isFileName_config member) resolved

theorem reads_of_isBeside (member : name ∈ Config.fileNames)
    (beside : IsBeside tree here path root name)
    (chosen : configPath tree here none path =
      some (Path.join (configDirectory tree here path) name)) : Reads tree here path root name := by
  have joined := (isFile_join_iff_isBeside resolved member).mpr beside
  obtain ⟨short, location, content, fileResolved, found⟩ := FileTree.isFile_iff.mp joined
  refine ⟨_, location, content, chosen, fileResolved, ?_, found, ?_⟩
  · exact FileTree.resolve_of_join (isFileName_config member) resolved fileResolved
  · rw [FileTree.read?, FileTree.at?_of_resolve fileResolved short, found]

end Root

/-! ### Using it -/

theorem configuration_eq_error {given : Option String} {failure : Failure} :
    configuration tree here given path = .error failure ↔
      ∃ file, configPath tree here given path = some file ∧ Unusable tree here file failure := by
  unfold configuration
  cases chosen : configPath tree here given path with
  | none => simp
  | some file =>
      simp only [Option.some.injEq, exists_eq_left']
      constructor
      · intro failed
        rcases configured_or_unusable chosen with ⟨config, configured⟩ | ⟨other, unusable⟩
        · cases configured with
          | file alsoChosen read denoted valid =>
              rw [chosen] at alsoChosen
              cases alsoChosen
              rw [loadConfig_of_valid read denoted valid] at failed
              cases failed
        · rw [loadConfig_of_unusable unusable] at failed
          cases failed
          exact unusable
      · exact loadConfig_of_unusable

theorem configuration_eq_ok {given : Option String} {config : Config} :
    configuration tree here given path = .ok config ↔
      ∃ events, Configured tree here given path config events := by
  constructor
  · intro configured
    unfold configuration at configured
    cases chosen : configPath tree here given path with
    | none =>
        rw [chosen] at configured
        cases configured
        exact ⟨_, .absent chosen⟩
    | some file =>
        rw [chosen] at configured
        rcases configured_or_unusable chosen with ⟨other, found⟩ | ⟨failure, unusable⟩
        · cases found with
          | file alsoChosen read denoted valid =>
              rw [chosen] at alsoChosen
              cases alsoChosen
              dsimp only at configured
              rw [loadConfig_of_valid read denoted valid] at configured
              cases configured
              exact ⟨_, .file chosen read denoted valid⟩
        · dsimp only at configured
          rw [loadConfig_of_unusable unusable] at configured
          cases configured
  · intro ⟨events, configured⟩
    unfold configuration
    cases configured with
    | absent nowhere => rw [nowhere]
    | file chosen read denoted valid =>
        rw [chosen]
        exact loadConfig_of_valid read denoted valid

/-- A run whose path is taken goes on with its configuration or ends with the failure of it. -/
theorem run_eq_configuration {arguments : Arguments} (unasked : ¬ AsksHelp arguments)
    (accepted : Path.check tree here arguments.path = .ok path) (starter : CommandPlugin.Starter) :
    runWith tree here starter arguments =
      match configuration tree here arguments.config path with
      | .error failure =>
          fail tree ((configPath tree here arguments.config path).toList.map
            .loadingConfiguration) failure
      | .ok config =>
          report tree here starter ((configPath tree here arguments.config path).toList.map
            .loadingConfiguration) path config := by
  unfold runWith configuration
  rw [if_neg (not_wantsHelp unasked), accepted]
  dsimp only
  cases configPath tree here arguments.config path with
  | none => rfl
  | some file => rfl

/-- The configuration of runs in a directory with an argument for the path, which is taken. -/
structure ChoosesBeside (tree : FileTree) (here : Location) (argument : Option String)
    (path : String) (root : Location) : Prop where
  first : IsBeside tree here path root "bridge.yaml" → Reads tree here path root "bridge.yaml"
  second : ¬ IsBeside tree here path root "bridge.yaml" →
    IsBeside tree here path root ".bridge.yaml" → Reads tree here path root ".bridge.yaml"
  neither : ¬ IsBeside tree here path root "bridge.yaml" →
    ¬ IsBeside tree here path root ".bridge.yaml" →
      configPath tree here none path = none ∧
        configuration tree here none path = .ok Config.default
  /-- Nothing but the content of a given file matters. -/
  given : ∀ file, configPath tree here (some file) path = some file ∧
    ∀ otherTree elsewhere otherPath, otherTree.read? elsewhere file = tree.read? here file →
      configuration otherTree elsewhere (some file) otherPath =
        configuration tree here (some file) path
  fails : ∀ given failure, configuration tree here given path = .error failure ↔
    ∃ file, configPath tree here given path = some file ∧ Unusable tree here file failure
  succeeds : ∀ given config, configuration tree here given path = .ok config ↔
    ∃ events, Configured tree here given path config events
  used : ∀ starter arguments, ¬ AsksHelp arguments → arguments.path = argument →
    runWith tree here starter arguments =
      match configuration tree here arguments.config path with
      | .error failure =>
          fail tree ((configPath tree here arguments.config path).toList.map
            .loadingConfiguration) failure
      | .ok config =>
          report tree here starter ((configPath tree here arguments.config path).toList.map
            .loadingConfiguration) path config

theorem choosesBeside_of_load {argument : Option String} (grounded : tree.Grounded)
    (checked : Path.check tree here argument = .ok path)
    (ordinary : ¬ tree.EndsAtLink here path) (loaded : load tree here path = .ok project) :
    ChoosesBeside tree here argument path project.root := by
  have resolved := resolve_configDirectory grounded ordinary (Path.short_of_check checked) loaded
  have firstName : "bridge.yaml" ∈ Config.fileNames := List.mem_cons_self
  have secondName : ".bridge.yaml" ∈ Config.fileNames :=
    List.mem_cons_of_mem _ (List.mem_singleton_self _)
  have firstFound := isFile_join_iff_isBeside resolved firstName
  have secondFound := isFile_join_iff_isBeside resolved secondName
  have chosen := configPath_none tree here path
  constructor
  case first =>
    intro beside
    rw [if_pos (firstFound.mpr beside)] at chosen
    exact reads_of_isBeside resolved firstName beside chosen
  case second =>
    intro missing beside
    rw [if_neg (missing ∘ firstFound.mp), if_pos (secondFound.mpr beside)] at chosen
    exact reads_of_isBeside resolved secondName beside chosen
  case neither =>
    intro missing alsoMissing
    rw [if_neg (missing ∘ firstFound.mp), if_neg (alsoMissing ∘ secondFound.mp)] at chosen
    refine ⟨chosen, ?_⟩
    rw [configuration, chosen]
  case given =>
    intro file
    refine ⟨rfl, ?_⟩
    intro otherTree elsewhere otherPath same
    simp only [configuration, configPath, loadConfig, same]
  case fails => exact fun _ _ => configuration_eq_error
  case succeeds => exact fun _ _ => configuration_eq_ok
  case used =>
    intro starter arguments unasked same
    exact run_eq_configuration unasked (same ▸ checked) starter

/-- A source that is reached over a link, with a hidden configuration in its directory and another
one beside the link. -/
def linkedSource : FileTree := ⟨[
  (["w"], .directory), (["w", "real"], .directory), (["w", "real", "x.bal"], .file []),
  (["w", "real", ".bridge.yaml"], .file (Text.utf8 "local_check: false\n")),
  (["bridge.yaml"], .file []), (["l"], .link "w/./real")], []⟩

theorem choosesBeside_linkedSource :
    linkedSource.Grounded ∧
      Path.check linkedSource ["w"] (some "./../l/.//x.bal") = .ok "../l/.//x.bal" ∧
      ¬ linkedSource.EndsAtLink ["w"] "../l/.//x.bal" ∧
      load linkedSource ["w"] "../l/.//x.bal" = .ok (Project.ofSource ["w", "real", "x.bal"]) ∧
      ChoosesBeside linkedSource ["w"] (some "./../l/.//x.bal") "../l/.//x.bal" ["w", "real"] ∧
      Reads linkedSource ["w"] "../l/.//x.bal" ["w", "real"] ".bridge.yaml" := by
  have grounded : linkedSource.Grounded := by
    unfold FileTree.Grounded
    decide +kernel
  have checked : Path.check linkedSource ["w"] (some "./../l/.//x.bal") = .ok "../l/.//x.bal" := by
    decide +kernel
  have placed : linkedSource.placeOf? ["w"] "../l/.//x.bal" = some ["w", "real", "x.bal"] := by
    decide +kernel
  have ordinary := FileTree.not_endsAtLink placed fun target impossible => by cases impossible
  have loaded : load linkedSource ["w"] "../l/.//x.bal" =
      .ok (Project.ofSource ["w", "real", "x.bal"]) := by
    decide +kernel
  have chooses := choosesBeside_of_load grounded checked ordinary loaded
  have missing : ¬ linkedSource.isFile ["w", "real"] "bridge.yaml" = true := by decide +kernel
  have joined : linkedSource.isFile ["w"] (Path.join (configDirectory linkedSource ["w"]
      "../l/.//x.bal") ".bridge.yaml") = true := by
    decide +kernel
  have resolved : linkedSource.resolve ["w"] (configDirectory linkedSource ["w"]
      "../l/.//x.bal") = .ok ["w", "real"] := by
    decide +kernel
  have beside := (isFile_join_iff_isBeside resolved (by decide)).mp joined
  have second := chooses.second (fun first => missing first.1) beside
  exact ⟨grounded, checked, ordinary, loaded, chooses, second⟩

/-! ### Beyond the limits -/

/-- The root of a project has a configuration, and none is read. -/
structure MissesConfig (tree : FileTree) (here : Location) (argument : Option String)
    (path : String) : Prop where
  grounded : tree.Grounded
  checked : Path.check tree here argument = .ok path
  ordinary : ¬ tree.EndsAtLink here path
  beside : ∃ project, load tree here path = .ok project ∧
    tree.isFile project.root "bridge.yaml" = true
  unread : configPath tree here none path = none

/-- A link to the directory that it is in, and a package whose configuration is a link. -/
def loopedConfig : FileTree := ⟨[
  (["pkg"], .directory), (["pkg", "Ballerina.toml"], .file []), (["pkg", "real.yaml"], .file []),
  (["pkg", "bridge.yaml"], .link "real.yaml"), (["l"], .link ".")], []⟩

theorem missesConfig_loopedConfig :
    MissesConfig loopedConfig [] (some Path.loopedPath) Path.loopedPath := by
  have placed : loopedConfig.placeOf? [] Path.loopedPath = some ["pkg"] := by decide +kernel
  constructor
  case grounded =>
    unfold FileTree.Grounded
    decide +kernel
  case checked => decide +kernel
  case ordinary => exact FileTree.not_endsAtLink placed fun target impossible => by cases impossible
  case beside =>
    have loaded : load loopedConfig [] Path.loopedPath =
        .ok (Project.ofPackage loopedConfig ["pkg"]) := by
      decide +kernel
    exact ⟨_, loaded, by decide +kernel⟩
  case unread => decide +kernel

def besideSource : FileTree := ⟨[
  (["d"], .directory), (["d", "e"], .directory), (["d", "e", "x.bal"], .file []),
  (["d", "e", "bridge.yaml"], .file [])], []⟩

/-- Something in a directory, so many slashes away that the source in it has a longest path. -/
def farIn (rest : String) : String :=
  "d" ++ Path.slashes (FileTree.pathLimit - 8) ++ rest

theorem toList_farIn (rest : String) :
    (farIn rest).toList = ['d'] ++ '/' :: (Path.slashes (FileTree.pathLimit - 9) ++ rest).toList := by
  have first : Path.slashes (FileTree.pathLimit - 8) =
      "/" ++ Path.slashes (FileTree.pathLimit - 9) := rfl
  rw [farIn, first, String.append_assoc, String.append_assoc, String.toList_append,
    String.toList_append]
  rfl

theorem farIn_ne_empty (rest : String) : farIn rest ≠ "" := by
  intro nothing
  have characters := congrArg String.toList nothing
  rw [toList_farIn] at characters
  cases characters

theorem utf8ByteSize_farIn (rest : String) :
    (farIn rest).utf8ByteSize + 7 = FileTree.pathLimit + rest.utf8ByteSize := by
  have letter : "d".utf8ByteSize = 1 := by decide
  have limit : FileTree.pathLimit = 4095 := rfl
  rw [farIn, String.utf8ByteSize_append, String.utf8ByteSize_append, Path.utf8ByteSize_slashes,
    letter, limit]
  omega

theorem steps_farIn (rest : String) : Path.steps (farIn rest) = "d" :: Path.steps rest := by
  rw [Path.steps_of_slash (toList_farIn rest) (by decide), Path.steps_slashes]
  rfl

theorem mem_farIn {rest : String} {character : Char} (member : character ∈ (farIn rest).toList) :
    character = 'd' ∨ character = '/' ∨ character ∈ rest.toList := by
  rw [farIn, String.toList_append, String.toList_append, List.mem_append, List.mem_append] at member
  rcases member with (letter | slash) | behind
  · exact .inl (List.mem_singleton.mp letter)
  · exact .inr (.inl (Path.mem_slashes slash))
  · exact .inr (.inr behind)

theorem parent?_farIn : Path.parent? (farIn "e/x.bal") = some (farIn "e") := by
  have taken : Path.steps (farIn "e") = ["d"] ++ ["e"] := steps_farIn "e"
  obtain ⟨others, piece, split, _, moves⟩ := Path.exists_last_piece taken (by decide)
  have whole : farIn "e/x.bal" = farIn "e" ++ "/" ++ "x.bal" := by
    have name : "e/x.bal" = "e" ++ "/" ++ "x.bal" := rfl
    simp only [farIn, name, String.append_assoc]
  rw [whole]
  exact Path.parent?_of_join split moves (by decide) (by decide)

theorem leads_farIn :
    besideSource.Leads 0 (FileTree.startOf [] (farIn "e/x.bal")) ["d", "e"] ["d", "e"] := by
  rw [FileTree.startOf, ite_self]
  exact .into rfl ⟨by decide, by decide, by decide, rfl⟩ rfl (by simp) rfl
    (.into rfl ⟨by decide, by decide, by decide, rfl⟩ rfl (by simp) rfl .done)

theorem canonicalize_farIn :
    besideSource.canonicalize [] (farIn "e/x.bal") = .ok ["d", "e", "x.bal"] := by
  have taken : Path.steps (farIn "e/x.bal") = ["d", "e", "x.bal"] := steps_farIn "e/x.bal"
  refine FileTree.resolveBy_eq_ok.mpr ⟨?_, ?_, 0, Nat.zero_le _, ?_⟩
  · intro nul
    rcases mem_farIn nul with letter | slash | behind
    · exact absurd letter (by decide)
    · exact absurd slash (by decide)
    · exact absurd behind (by decide)
  · exact farIn_ne_empty "e/x.bal"
  · rw [taken, FileTree.startOf, ite_self]
    have short : ∀ place ∈ [["d"], ["d", "e"], ["d", "e", "x.bal"]],
        ∀ steps ∈ [[], ["x.bal"], ["e", "x.bal"]],
          FileTree.Lookup.absolute.asks place steps = true := by
      decide +kernel
    refine .into rfl ⟨by decide, by decide, by decide, short _ ?_ _ ?_⟩ rfl (by simp)
      (short _ ?_ _ ?_) (.into rfl ⟨by decide, by decide, by decide, short _ ?_ _ ?_⟩ rfl (by simp)
        (short _ ?_ _ ?_) (.into rfl ⟨by decide, by decide, by decide, short _ ?_ _ ?_⟩ rfl
          (by simp) (short _ ?_ _ ?_) .done))
    all_goals simp

theorem resolve_farIn : besideSource.resolve [] (farIn "e/x.bal") = .ok ["d", "e", "x.bal"] :=
  FileTree.resolve_of_canonicalize canonicalize_farIn

theorem at?_farIn : besideSource.atBy .utf8 [] (farIn "e/x.bal") = some (.file []) := by
  have size := utf8ByteSize_farIn "e/x.bal"
  have behind : "e/x.bal".utf8ByteSize = 7 := by decide
  have short : (farIn "e/x.bal").utf8ByteSize ≤ FileTree.pathLimit := by omega
  rw [FileTree.atBy_of_resolveBy resolve_farIn short]
  rfl

theorem configDirectory_farIn : configDirectory besideSource [] (farIn "e/x.bal") = farIn "e" := by
  have isFile : besideSource.isFile [] (farIn "e/x.bal") = true := by
    change besideSource.isFileBy .utf8 [] (farIn "e/x.bal") = true
    rw [FileTree.isFileBy, at?_farIn]
  rw [configDirectory_of_parent isFile parent?_farIn, if_neg (farIn_ne_empty "e")]

theorem missesConfig_besideSource :
    MissesConfig besideSource [] (some (farIn "e/x.bal")) (farIn "e/x.bal") := by
  have taken : Path.steps (farIn "e/x.bal") = ["d", "e"] ++ ["x.bal"] := steps_farIn "e/x.bal"
  have notHere : "x.bal" ≠ "." := by decide
  have notUp : "x.bal" ≠ ".." := by decide
  have placed := FileTree.placeOf?_of_leads taken leads_farIn (Nat.zero_le _) rfl notHere notUp
  have unfound : ∀ name, '/' ∉ name.toList → 7 ≤ name.utf8ByteSize →
      ¬ besideSource.isFile [] (Path.join (farIn "e") name) = true := by
    intro name slashFree long isFile
    have short := (FileTree.isFile_iff.mp isFile).1
    have size := utf8ByteSize_farIn "e"
    have letter : "e".utf8ByteSize = 1 := by decide
    have joined := Path.le_utf8ByteSize_join (farIn_ne_empty "e") slashFree
    omega
  constructor
  case grounded =>
    unfold FileTree.Grounded
    decide +kernel
  case checked =>
    have source : Path.isSource (farIn "e/x.bal") = true := by
      rw [Path.isSource_of_steps taken notHere notUp]
      decide
    have kept : Path.dropHere .utf8 (farIn "e/x.bal") = farIn "e/x.bal" := by
      have shown : Path.Reading.utf8.shown (farIn "e/x.bal") = farIn "e/x.bal" := rfl
      rw [Path.dropHere, shown, toList_farIn]
      rfl
    rw [Path.check, @Path.check_of_file besideSource [] .utf8 (some (farIn "e/x.bal")) [] at?_farIn]
    change (if Path.isSource (farIn "e/x.bal") = true then _ else _) = _
    rw [if_pos source]
    exact congrArg Except.ok kept
  case ordinary => exact FileTree.not_endsAtLink placed fun target impossible => by cases impossible
  case beside =>
    have loaded : load besideSource [] (farIn "e/x.bal") =
        .ok (Project.ofSource ["d", "e", "x.bal"]) := by
      have held : besideSource.nodeAt? ["d", "e", "x.bal"] = some (.file []) := by decide +kernel
      rw [Project.load_of_file canonicalize_farIn held]
      rfl
    exact ⟨_, loaded, by decide +kernel⟩
  case unread =>
    have first := unfound "bridge.yaml" (by decide) (by decide)
    have second := unfound ".bridge.yaml" (by decide) (by decide)
    rw [configPath_none, configDirectory_farIn, if_neg first, if_neg second]

/-- A path at the limit of links and one at the limit of bytes, each with a configuration in the
root of its project. -/
theorem missesConfig_beyondLimits :
    MissesConfig loopedConfig [] (some Path.loopedPath) Path.loopedPath ∧
      MissesConfig besideSource [] (some (farIn "e/x.bal")) (farIn "e/x.bal") :=
  ⟨missesConfig_loopedConfig, missesConfig_besideSource⟩

end IssueReport.CommandLine
