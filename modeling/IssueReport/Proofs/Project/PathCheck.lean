import IssueReport.Project.PathCheck
import IssueReport.Proofs.Project.Listings
/-!
The check of a path and the loader. The check looks along the path that is given, the loader along the
absolute paths of the places on it. Each of them says what the other says, as long as the paths that
the other asks for stay within the limits of the system.
-/

namespace IssueReport

open Project (load loadPackage manifest ManifestShort FirstRefused)

variable {tree : FileTree} {here location : Location} {path : String}

namespace FileTree

/-- The path, and the path of a manifest in the directory that it leads to, can be looked up in one
go: they are short enough, and there are not too many links on the way. -/
structure WithinLimits (tree : FileTree) (here : Location) (path : String) : Prop where
  path_short : path.utf8ByteSize ≤ pathLimit
  manifest_short : tree.isFile here path = false →
    (Path.join path manifest).utf8ByteSize ≤ pathLimit
  few_links : ∀ location target links more,
    tree.Leads links (startOf here path) (Path.steps path) location →
      tree.Leads more location [manifest] target → links + more ≤ linkLimit

/-- The places on the way, and a manifest in the directory that the path leads to, can be asked for by
their absolute paths. -/
structure WithinAbsolute (tree : FileTree) (here : Location) (path : String) : Prop where
  places : tree.AsksShort here path
  manifest_short : ∀ root, tree.resolve here path = .ok root →
    tree.isFile root manifest = true → ManifestShort root

/-- A manifest that is found along the path is found from where the path leads. -/
theorem isFile_manifest_of_join (resolved : tree.resolve here path = .ok location)
    (found : tree.isFile here (Path.join path manifest) = true) :
    tree.isFile location manifest = true :=
  ((isFile_join_iff Project.isFileName_manifest resolved).mp found).1

theorem isFile_join_of_manifest (resolved : tree.resolve here path = .ok location)
    (limits : tree.WithinLimits here path) (other : tree.isFile here path = false)
    (found : tree.isFile location manifest = true) :
    tree.isFile here (Path.join path manifest) = true := by
  have reach : tree.InReach here path manifest := ⟨limits.manifest_short other, limits.few_links⟩
  exact (isFile_join_iff Project.isFileName_manifest resolved).mpr ⟨found, reach⟩

end FileTree

namespace Path

variable {reading : Reading} {argument : Option String}

/-! ### What the check and the loader say -/

theorem check_of_missing (missing : tree.atBy reading here (given here argument) = none) :
    checkBy tree here reading argument = .error (.notFound (given here argument)) := by
  unfold checkBy
  dsimp only
  rw [missing]

theorem check_of_file {content : List UInt8}
    (found : tree.atBy reading here (given here argument) = some (.file content)) :
    checkBy tree here reading argument =
      if isSource (given here argument) then .ok (dropHere reading (given here argument))
      else .error (.invalidFormat (given here argument)) := by
  unfold checkBy
  dsimp only
  rw [found]

theorem check_of_other {node : FileTree.Node}
    (found : tree.atBy reading here (given here argument) = some node)
    (other : ∀ content, node ≠ .file content) :
    checkBy tree here reading argument =
      if tree.isFileBy reading here (join (given here argument) manifest) then
        .ok (given here argument)
      else .error (.invalidPackage (given here argument)) := by
  unfold checkBy
  dsimp only
  rw [found]
  cases node with
  | file content => exact absurd rfl (other content)
  | directory | link | device => rfl

end Path

namespace Project

theorem load_of_refused {error : LookupError}
    (refused : tree.canonicalize here path = .error error) :
    load tree here path = .error (.unresolved path error) := by
  unfold load
  rw [refused]

theorem load_of_file {content : List UInt8} (found : tree.canonicalize here path = .ok location)
    (isFile : tree.nodeAt? location = some (.file content)) :
    load tree here path =
      if Path.isSourceName (lastName location) then .ok (ofSource location)
      else .error (.notProject (.unsuited location)) := by
  unfold load
  rw [found]
  dsimp only
  rw [isFile]

/-- What the loader says of a directory with a manifest that it can ask for. -/
theorem loadPackage_of_manifest {root : Location} (holds : tree.isFileIn root manifest = true) :
    loadPackage tree root = .ok (ofPackage tree root) ∨
      ∃ directory error, loadPackage tree root = .error (.unlisted directory error) ∧
        FirstRefused tree root directory error := by
  unfold loadPackage
  rw [if_pos holds]
  cases found : unlisted? tree root with
  | none => exact .inl rfl
  | some fault =>
      obtain ⟨directory, error, rfl, first⟩ := firstRefused_of_unlisted? found
      exact .inr ⟨directory, error, rfl, first⟩

end Project

/-! ### One verdict -/

/-- The check and the loader both take a path, both find nothing there, or both refuse what they
find. The loader takes a package even if it cannot list all of its directories. -/
inductive SameVerdict : Except PathError String → Except LoadError Project → Prop
  | taken {path : String} {project : Project} : SameVerdict (.ok path) (.ok project)
  | unlisted {path : String} {directory : Location} {error : LookupError} :
      SameVerdict (.ok path) (.error (.notProject (.unlisted directory error)))
  | missing {path other : String} {error : LookupError} :
      SameVerdict (.error (.notFound path)) (.error (.unresolved other error))
  | noSource {path : String} {location : Location} :
      SameVerdict (.error (.invalidFormat path)) (.error (.notProject (.unsuited location)))
  | noPackage {path : String} {location : Location} :
      SameVerdict (.error (.invalidPackage path)) (.error (.notProject (.unsuited location)))

inductive CheckRefuses : Except PathError String → Except LoadError Project → Prop
  | missing {path : String} {loaded : Except LoadError Project}
      (found : ∀ path error, loaded ≠ .error (.unresolved path error)) :
      CheckRefuses (.error (.notFound path)) loaded
  | noPackage {path : String} {loaded : Except LoadError Project}
      (found : ∀ path error, loaded ≠ .error (.unresolved path error)) :
      CheckRefuses (.error (.invalidPackage path)) loaded

inductive LoaderRefuses : Except PathError String → Except LoadError Project → Prop
  | missing {path : String} {error : LookupError} {checked : Except PathError String}
      (found : ∀ path, checked ≠ .error (.notFound path)) :
      LoaderRefuses checked (.error (.unresolved path error))
  | noPackage {location : Location} {checked : Except PathError String}
      (found : ∀ path, checked ≠ .error (.notFound path)) :
      LoaderRefuses checked (.error (.notProject (.unsuited location)))

/-- The verdicts are the same, or one differs where a limit keeps it from what is there. -/
inductive Verdicts (tree : FileTree) (here : Location) (path : String)
    (checked : Except PathError String) (loaded : Except LoadError Project) : Prop
  | same (same : SameVerdict checked loaded)
  | checkRefuses (beyond : ¬ tree.WithinLimits here path) (refuses : CheckRefuses checked loaded)
  | loaderRefuses (beyond : ¬ tree.WithinAbsolute here path) (refuses : LoaderRefuses checked loaded)
  | bothBeyond (beyond : ¬ tree.WithinLimits here path) (also : ¬ tree.WithinAbsolute here path)

namespace Path

variable {argument : Option String}

theorem verdicts_of_unresolved {error : LookupError}
    (unresolved : tree.resolve here (given here argument) = .error error) :
    Verdicts tree here (given here argument) (check tree here argument)
      (load tree here (given here argument)) := by
  have missing : tree.atBy .utf8 here (given here argument) = none := by
    unfold FileTree.atBy
    change tree.resolveBy _ here (given here argument) = _ at unresolved
    rw [unresolved]
    split <;> rfl
  refine .same ?_
  rw [check, check_of_missing missing]
  rcases FileTree.canonicalize_eq_resolve_or here (given here argument) with same | refused
  · rw [Project.load_of_refused (same.trans unresolved)]
    exact .missing
  · rw [Project.load_of_refused refused]
    exact .missing

theorem verdicts_of_file (grounded : tree.Grounded)
    (ordinary : ¬ tree.EndsAtLink here (given here argument)) {content : List UInt8}
    (resolved : tree.resolve here (given here argument) = .ok location)
    (found : tree.canonicalize here (given here argument) = .ok location)
    (short : (given here argument).utf8ByteSize ≤ FileTree.pathLimit)
    (held : tree.node? location = some (.file content)) :
    SameVerdict (check tree here argument) (load tree here (given here argument)) := by
  have foundAlong : tree.atBy .utf8 here (given here argument) = some (.file content) := by
    rw [FileTree.atBy_of_resolveBy resolved short, held]
  obtain ⟨before, last, steps⟩ := exists_steps (given here argument)
  obtain ⟨notHere, notUp, _, directory, _, _, _, same⟩ :=
    FileTree.leads_of_file grounded resolved held ordinary steps
  have lastName : Project.lastName location = last := by
    rw [Project.lastName, same, List.getLast?_concat]
    rfl
  rw [check, check_of_file foundAlong,
    Project.load_of_file found (FileTree.nodeAt?_of_canonicalize grounded found held), lastName,
    isSource_of_steps steps notHere notUp]
  split
  · exact .taken
  · exact .noSource

theorem notFile_of_other (resolved : tree.resolve here path = .ok location)
    (other : ∀ content, tree.node? location ≠ some (.file content)) :
    tree.isFile here path = false := by
  apply Bool.eq_false_iff.mpr
  intro isFile
  obtain ⟨_, target, content, alsoResolved, isFile⟩ := FileTree.isFile_iff.mp isFile
  rw [resolved] at alsoResolved
  cases alsoResolved
  exact other content isFile

/-- A path that the loader can ask for is found, whatever the loader then says of it. -/
theorem load_ne_unresolved (found : tree.canonicalize here path = .ok location) (other : String)
    (error : LookupError) : load tree here path ≠ .error (.unresolved other error) := by
  intro impossible
  unfold load at impossible
  rw [found] at impossible
  dsimp only at impossible
  split at impossible
  · split at impossible <;> cases impossible
  · cases package : loadPackage tree location with
    | ok project =>
        rw [package] at impossible
        cases impossible
    | error fault =>
        rw [package] at impossible
        cases impossible

theorem verdicts_of_other {node : FileTree.Node}
    (resolved : tree.resolve here (given here argument) = .ok location)
    (found : tree.canonicalize here (given here argument) = .ok location)
    (short : (given here argument).utf8ByteSize ≤ FileTree.pathLimit)
    (held : tree.node? location = some node) (other : ∀ content, node ≠ .file content) :
    Verdicts tree here (given here argument) (check tree here argument)
      (load tree here (given here argument)) := by
  have foundAlong : tree.atBy .utf8 here (given here argument) = some node := by
    rw [FileTree.atBy_of_resolveBy resolved short, held]
  have noFile : ∀ content, tree.node? location ≠ some (.file content) := by
    intro content same
    rw [held] at same
    exact other content (Option.some.inj same)
  have notFile := notFile_of_other resolved noFile
  rw [check, check_of_other foundAlong other, Project.load_of_other found noFile]
  by_cases joined : tree.isFileBy .utf8 here (join (given here argument) manifest) = true
  · rw [if_pos joined]
    have direct := FileTree.isFile_manifest_of_join resolved joined
    by_cases manifestShort : ManifestShort location
    · refine .same ?_
      rcases Project.loadPackage_of_manifest
        (FileTree.isFileIn_iff.mpr ⟨manifestShort, direct⟩) with taken | ⟨_, _, refused, _⟩
      · rw [taken]
        exact .taken
      · rw [refused]
        exact .unlisted
    · refine .loaderRefuses (fun limits => ?_) ?_
      · exact manifestShort (limits.manifest_short location resolved direct)
      · have missing : ¬ tree.isFileIn location manifest = true :=
          fun holds => manifestShort (FileTree.isFileIn_iff.mp holds).1
        rw [loadPackage, if_neg missing]
        exact .noPackage (by simp)
  · rw [if_neg joined]
    by_cases direct : tree.isFileIn location manifest = true
    · refine .checkRefuses (fun limits => ?_) ?_
      · have manifested := (FileTree.isFileIn_iff.mp direct).2
        exact joined (FileTree.isFile_join_of_manifest resolved limits notFile manifested)
      · rw [← Project.load_of_other found noFile]
        exact .noPackage (load_ne_unresolved found)
    · rw [loadPackage, if_neg direct]
      exact .same .noPackage

/-- A path that the check can look up is found, whatever the check then says of it. -/
theorem check_ne_notFound (grounded : tree.Grounded)
    (resolved : tree.resolve here (given here argument) = .ok location)
    (short : (given here argument).utf8ByteSize ≤ FileTree.pathLimit) (other : String) :
    check tree here argument ≠ .error (.notFound other) := by
  obtain ⟨node, held⟩ :=
    Option.isSome_iff_exists.mp (FileTree.isSome_node?_of_resolve grounded resolved)
  have found : tree.atBy .utf8 here (given here argument) = some node := by
    rw [FileTree.atBy_of_resolveBy resolved short, held]
  intro impossible
  unfold check checkBy at impossible
  dsimp only at impossible
  rw [found] at impossible
  split at impossible
  · cases ‹some node = none›
  · split at impossible <;> cases impossible
  · split at impossible <;> cases impossible

theorem verdicts_of_grounded (grounded : tree.Grounded)
    (ordinary : ¬ tree.EndsAtLink here (given here argument)) :
    Verdicts tree here (given here argument) (check tree here argument)
      (load tree here (given here argument)) := by
  cases resolved : tree.resolve here (given here argument) with
  | error error => exact verdicts_of_unresolved resolved
  | ok location =>
  have missing : ¬ (given here argument).utf8ByteSize ≤ FileTree.pathLimit →
      check tree here argument = .error (.notFound (given here argument)) := by
    intro long
    apply check_of_missing
    rw [FileTree.atBy]
    exact if_pos (Nat.not_le.mp long)
  by_cases asked : tree.AsksShort here (given here argument)
  · have found := FileTree.canonicalize_eq_ok.mpr ⟨resolved, asked⟩
    by_cases short : (given here argument).utf8ByteSize ≤ FileTree.pathLimit
    · have present := FileTree.isSome_node?_of_resolve grounded resolved
      obtain ⟨node, held⟩ := Option.isSome_iff_exists.mp present
      cases node with
      | file content => exact .same (verdicts_of_file grounded ordinary resolved found short held)
      | directory | link | device => exact verdicts_of_other resolved found short held (by simp)
    · refine .checkRefuses (fun limits => short limits.path_short) ?_
      rw [missing short]
      exact .missing (load_ne_unresolved found)
  · have refused := Project.load_of_refused (FileTree.canonicalize_eq_nameTooLong resolved asked)
    by_cases short : (given here argument).utf8ByteSize ≤ FileTree.pathLimit
    · refine .loaderRefuses (fun limits => asked limits.places) ?_
      rw [refused]
      exact .missing (check_ne_notFound grounded resolved short)
    · exact .bothBeyond (fun limits => short limits.path_short) (fun limits => asked limits.places)

/-! ### Agreement -/

/-- The loader takes a path as the check does: it finds a project, even if not all of its directories
can be listed. -/
def Takes (loaded : Except LoadError Project) : Prop :=
  (∃ project, loaded = .ok project) ∨
    ∃ directory error, loaded = .error (.notProject (.unlisted directory error))

/-- Within all limits each answer of the check goes with an answer of the loader. Without those for
the path as it is given the check is only stricter, and without those for absolute paths the
loader. -/
structure AgreesWithLoader (tree : FileTree) (here : Location) (argument : Option String) :
    Prop where
  accepted : tree.WithinLimits here (given here argument) →
    tree.WithinAbsolute here (given here argument) →
      ((∃ path, check tree here argument = .ok path) ↔
        Takes (load tree here (given here argument)))
  missing : tree.WithinLimits here (given here argument) →
    tree.WithinAbsolute here (given here argument) →
      ((∃ path, check tree here argument = .error (.notFound path)) ↔
        ∃ path error, load tree here (given here argument) = .error (.unresolved path error))
  refused : tree.WithinLimits here (given here argument) →
    tree.WithinAbsolute here (given here argument) →
      ((∃ path, check tree here argument = .error (.invalidFormat path) ∨
          check tree here argument = .error (.invalidPackage path)) ↔
        ∃ location,
          load tree here (given here argument) = .error (.notProject (.unsuited location)))
  /-- A package is not listed only if the system refuses one of its directories. -/
  unlisted : ∀ directory error,
    load tree here (given here argument) = .error (.notProject (.unlisted directory error)) →
      ∃ root, tree.resolve here (given here argument) = .ok root ∧
        FirstRefused tree root directory error
  checkStricter : tree.WithinAbsolute here (given here argument) →
    (∀ path, check tree here argument = .ok path →
        Takes (load tree here (given here argument))) ∧
      (∀ path error, load tree here (given here argument) = .error (.unresolved path error) →
        ∃ other, check tree here argument = .error (.notFound other)) ∧
      ∀ path, check tree here argument = .error (.invalidFormat path) →
        ∃ location, load tree here (given here argument) = .error (.notProject (.unsuited location))
  loaderStricter : tree.WithinLimits here (given here argument) →
    (Takes (load tree here (given here argument)) →
        ∃ path, check tree here argument = .ok path) ∧
      ∀ path, check tree here argument = .error (.notFound path) →
        ∃ other error, load tree here (given here argument) = .error (.unresolved other error)

theorem firstRefused_of_load {directory : Location} {error : LookupError}
    (unlisted : load tree here path = .error (.notProject (.unlisted directory error))) :
    ∃ root, tree.resolve here path = .ok root ∧ FirstRefused tree root directory error := by
  unfold load at unlisted
  split at unlisted
  · cases unlisted
  · rename_i root found
    refine ⟨root, FileTree.resolve_of_canonicalize found, ?_⟩
    split at unlisted
    · split at unlisted <;> cases unlisted
    · by_cases holds : tree.isFileIn root manifest = true
      · rcases Project.loadPackage_of_manifest holds with taken | ⟨_, _, refused, first⟩
        · rw [taken] at unlisted
          cases unlisted
        · rw [refused] at unlisted
          cases unlisted
          exact first
      · rw [loadPackage, if_neg holds] at unlisted
        cases unlisted

section Verdicts

variable {checked : Except PathError String} {loaded : Except LoadError Project}

theorem accepted_of_same (same : SameVerdict checked loaded) :
    (∃ path, checked = .ok path) ↔ Takes loaded := by
  cases same <;> simp [Takes]

theorem missing_of_same (same : SameVerdict checked loaded) :
    (∃ path, checked = .error (.notFound path)) ↔
      ∃ path error, loaded = .error (.unresolved path error) := by
  cases same <;> simp

theorem refused_of_same (same : SameVerdict checked loaded) :
    (∃ path, checked = .error (.invalidFormat path) ∨ checked = .error (.invalidPackage path)) ↔
      ∃ location, loaded = .error (.notProject (.unsuited location)) := by
  cases same <;> simp

variable (verdicts : Verdicts tree here path checked loaded)

include verdicts

theorem same_of_verdicts (limits : tree.WithinLimits here path)
    (absolute : tree.WithinAbsolute here path) : SameVerdict checked loaded := by
  cases verdicts with
  | same same => exact same
  | checkRefuses beyond | bothBeyond beyond => exact absurd limits beyond
  | loaderRefuses beyond => exact absurd absolute beyond

theorem checkStricter_of_verdicts (absolute : tree.WithinAbsolute here path) :
    (∀ other, checked = .ok other → Takes loaded) ∧
      (∀ other error, loaded = .error (.unresolved other error) →
        ∃ path, checked = .error (.notFound path)) ∧
      ∀ other, checked = .error (.invalidFormat other) →
        ∃ location, loaded = .error (.notProject (.unsuited location)) := by
  cases verdicts with
  | same same => cases same <;> simp [Takes]
  | checkRefuses beyond refuses => cases refuses <;> simp [*]
  | loaderRefuses beyond => exact absurd absolute beyond
  | bothBeyond _ also => exact absurd absolute also

theorem loaderStricter_of_verdicts (limits : tree.WithinLimits here path) :
    (Takes loaded → ∃ path, checked = .ok path) ∧
      ∀ other, checked = .error (.notFound other) →
        ∃ path error, loaded = .error (.unresolved path error) := by
  cases verdicts with
  | same same => cases same <;> simp [Takes]
  | loaderRefuses beyond refuses => cases refuses <;> simp [Takes, *]
  | checkRefuses beyond | bothBeyond beyond => exact absurd limits beyond

end Verdicts

theorem agreesWithLoader (grounded : tree.Grounded)
    (ordinary : ¬ tree.EndsAtLink here (given here argument)) :
    AgreesWithLoader tree here argument := by
  have verdicts := verdicts_of_grounded grounded ordinary
  constructor
  case accepted =>
    intro limits absolute
    exact accepted_of_same (same_of_verdicts verdicts limits absolute)
  case missing =>
    intro limits absolute
    exact missing_of_same (same_of_verdicts verdicts limits absolute)
  case refused =>
    intro limits absolute
    exact refused_of_same (same_of_verdicts verdicts limits absolute)
  case unlisted =>
    intro directory error unlisted
    exact firstRefused_of_load unlisted
  case checkStricter => exact checkStricter_of_verdicts verdicts
  case loaderStricter => exact loaderStricter_of_verdicts verdicts

def linkedPackage : FileTree := ⟨[
  (["w"], .directory), (["w", "real"], .directory), (["w", "manifest"], .file []),
  (["w", "real", "Ballerina.toml"], .link "../manifest"), (["l"], .link "w/./real/..")], []⟩

theorem withinLimits_linkedPackage : linkedPackage.WithinLimits [] "l/real" where
  path_short := by decide +kernel
  manifest_short := fun _ => by decide +kernel
  few_links := by
    intro location target links more leads last
    have walked : linkedPackage.walk 1 [] ["l", "real"] = .ok ["w", "real"] := by decide +kernel
    have manifestWalked :
        linkedPackage.walk 1 ["w", "real"] ["Ballerina.toml"] = .ok ["w", "manifest"] := by
      decide +kernel
    obtain ⟨few, same⟩ := leads.of_walk walked
    rw [same] at last
    have fewMore := (last.of_walk manifestWalked).1
    have enough : 1 + 1 ≤ FileTree.linkLimit := by decide
    omega

theorem withinAbsolute_linkedPackage : linkedPackage.WithinAbsolute [] "l/real" := by
  have found : linkedPackage.canonicalize [] "l/real" = .ok ["w", "real"] := by decide +kernel
  obtain ⟨resolved, asked⟩ := FileTree.canonicalize_eq_ok.mp found
  refine ⟨asked, ?_⟩
  intro root alsoResolved _
  rw [resolved] at alsoResolved
  cases alsoResolved
  unfold ManifestShort
  decide +kernel

theorem agreesWithLoader_linkedPackage :
    linkedPackage.Grounded ∧ ¬ linkedPackage.EndsAtLink [] "l/real" ∧
      linkedPackage.WithinLimits [] "l/real" ∧ linkedPackage.WithinAbsolute [] "l/real" ∧
        AgreesWithLoader linkedPackage [] (some "l/real") ∧
          check linkedPackage [] (some "l/real") = .ok "l/real" ∧
            load linkedPackage [] "l/real" =
              .ok (Project.ofPackage linkedPackage ["w", "real"]) := by
  have grounded : linkedPackage.Grounded := by
    unfold FileTree.Grounded
    decide +kernel
  have placed : linkedPackage.placeOf? [] "l/real" = some ["w", "real"] := by decide +kernel
  have ordinary := FileTree.not_endsAtLink placed fun target impossible => by cases impossible
  have checked : check linkedPackage [] (some "l/real") = .ok "l/real" := by decide +kernel
  have loaded : load linkedPackage [] "l/real" =
      .ok (Project.ofPackage linkedPackage ["w", "real"]) := by decide +kernel
  exact ⟨grounded, ordinary, withinLimits_linkedPackage, withinAbsolute_linkedPackage,
    agreesWithLoader grounded ordinary, checked, loaded⟩

/-! ### Beyond the limits -/

/-- A link to the directory that it is in, and a package whose manifest is a link. -/
def loopedPackage : FileTree := ⟨[
  (["pkg"], .directory), (["pkg", "real.toml"], .file []),
  (["pkg", "Ballerina.toml"], .link "real.toml"), (["l"], .link ".")], []⟩

def loopedPath : String :=
  "l/l/l/l/l/l/l/l/l/l/l/l/l/l/l/l/l/l/l/l/l/l/l/l/l/l/l/l/l/l/l/l/l/l/l/l/l/l/l/l/pkg"

def loneSource : FileTree := ⟨[(["x.bal"], .file [])], []⟩

def slashes : Nat → String
  | 0 => ""
  | count + 1 => "/" ++ slashes count

def longPath : String :=
  slashes FileTree.pathLimit ++ "x.bal"

theorem utf8ByteSize_slashes (count : Nat) : (slashes count).utf8ByteSize = count := by
  induction count with
  | zero => rfl
  | succ count ih =>
      rw [slashes, String.utf8ByteSize_append, ih]
      exact Nat.add_comm 1 count

theorem mem_slashes {count : Nat} {character : Char} (member : character ∈ (slashes count).toList) :
    character = '/' := by
  induction count with
  | zero => cases member
  | succ count ih =>
      rw [slashes, String.toList_append, List.mem_append] at member
      rcases member with first | later
      · exact List.mem_singleton.mp first
      · exact ih later

theorem steps_slashes (count : Nat) (path : String) :
    steps (slashes count ++ path) = steps path := by
  induction count with
  | zero => rw [slashes, String.empty_append]
  | succ count ih =>
      have whole : (slashes (count + 1) ++ path).toList =
          [] ++ '/' :: (slashes count ++ path).toList := by
        rw [slashes, String.append_assoc, String.toList_append]
        rfl
      rw [steps_of_slash whole (List.not_mem_nil), if_pos rfl, ih, List.nil_append]

theorem steps_longPath : steps longPath = [] ++ ["x.bal"] := by
  rw [longPath, steps_slashes]
  rfl

theorem leads_loneSource : loneSource.Leads 0 [] ([] ++ ["x.bal"]) ["x.bal"] :=
  .into rfl ⟨by decide, by decide, by decide, rfl⟩ rfl (by simp) rfl .done

theorem resolve_longPath : loneSource.resolve [] longPath = .ok ["x.bal"] := by
  rw [FileTree.resolve_eq_ok]
  refine ⟨?_, ?_, 0, Nat.zero_le _, ?_⟩
  · intro nul
    rw [longPath, String.toList_append, List.mem_append] at nul
    rcases nul with slash | named
    · exact absurd (mem_slashes slash) (by decide)
    · exact absurd named (by decide)
  · intro empty
    have length := congrArg String.utf8ByteSize empty
    rw [longPath, String.utf8ByteSize_append, utf8ByteSize_slashes] at length
    exact absurd length (by decide)
  · rw [FileTree.startOf, ite_self, steps_longPath]
    exact leads_loneSource

theorem check_loneSource : check loneSource [] (some longPath) = .error (.notFound longPath) := by
  have long : FileTree.pathLimit < longPath.utf8ByteSize := by
    rw [longPath, String.utf8ByteSize_append, utf8ByteSize_slashes]
    decide
  apply check_of_missing
  rw [FileTree.atBy]
  exact if_pos long

theorem load_loneSource : load loneSource [] longPath = .ok (Project.ofSource ["x.bal"]) := by
  have asked : loneSource.AsksShort [] longPath := by
    intro place left asks
    rw [FileTree.startOf, ite_self, steps_longPath] at asks
    cases asks with
    | name | pass => decide +kernel
    | stay stays => exact absurd stays (by decide)
    | up upwards => exact absurd upwards (by decide)
    | into _ _ _ _ onward => cases onward
    | along _ _ found => cases found
  have found := FileTree.canonicalize_eq_ok.mpr ⟨resolve_longPath, asked⟩
  have held : loneSource.nodeAt? ["x.bal"] = some (.file []) := by decide +kernel
  rw [Project.load_of_file found held]
  rfl

theorem not_endsAtLink_loneSource : ¬ loneSource.EndsAtLink [] longPath := by
  have before : loneSource.Leads 0 (FileTree.startOf [] longPath) [] [] := by
    rw [FileTree.startOf, ite_self]
    exact .done
  have place := FileTree.placeOf?_of_leads steps_longPath before (Nat.zero_le _) rfl (by decide)
    (by decide)
  exact FileTree.not_endsAtLink place fun target impossible => by cases impossible

theorem not_endsAtLink_here : ¬ tree.EndsAtLink here "." := by
  rintro ⟨place, target, placed, -⟩
  obtain ⟨before, last, directory, taken, notHere, -⟩ := FileTree.exists_of_placeOf? placed
  have alone : steps "." = [] ++ ["."] := by decide
  rw [alone] at taken
  have same := List.append_inj_right' taken rfl
  exact notHere (List.singleton_inj.mp same).symm

section Deep

open Project (deepPackage deepDirectory)

theorem isFileName_main : IsFileName "main.bal" :=
  ⟨⟨by decide, by decide, by decide⟩, by decide, by decide⟩

theorem leads_main : deepPackage.Leads 0 deepDirectory ["main.bal"] (deepDirectory ++ ["main.bal"]) :=
  Project.leads_packageAt isFileName_main (by decide) (by decide)
    (List.mem_cons_of_mem _ List.mem_cons_self)

theorem node?_main : deepPackage.node? (deepDirectory ++ ["main.bal"]) = some (.file []) :=
  Project.file_packageAt (List.mem_cons_of_mem _ List.mem_cons_self)

theorem resolve_main :
    deepPackage.resolve deepDirectory "main.bal" = .ok (deepDirectory ++ ["main.bal"]) :=
  (FileTree.resolve_name isFileName_main).mpr ⟨0, Nat.zero_le _, leads_main⟩

theorem check_deepPackage : check deepPackage deepDirectory (some ".") = .ok "." := by
  have found : deepPackage.atBy .utf8 deepDirectory "." = some .directory := by
    rw [FileTree.atBy_of_resolveBy Project.resolve_deepPackage (by decide)]
    exact Project.directory_packageAt List.prefix_rfl
  have joined : deepPackage.isFileBy .utf8 deepDirectory (join "." manifest) = true := by
    apply FileTree.isFileBy_iff.mpr
    refine ⟨by decide, deepDirectory ++ [manifest], [], ?_,
      Project.file_packageAt List.mem_cons_self⟩
    refine FileTree.resolveBy_eq_ok.mpr ⟨by decide, by decide, 0, Nat.zero_le _, ?_⟩
    exact .stay (Project.directory_packageAt List.prefix_rfl) rfl
      (Project.leads_packageAt Project.isFileName_manifest (by decide) (by decide)
        List.mem_cons_self)
  rw [check, @check_of_other _ _ _ (some ".") _ found (by simp)]
  exact if_pos joined

theorem check_main : check deepPackage deepDirectory (some "main.bal") = .ok "main.bal" := by
  have found : deepPackage.atBy .utf8 deepDirectory "main.bal" = some (.file []) := by
    rw [FileTree.atBy_of_resolveBy resolve_main (by decide), node?_main]
  rw [check, @check_of_file _ _ _ (some "main.bal") _ found]
  decide

theorem load_main :
    load deepPackage deepDirectory "main.bal" = .error (.unresolved "main.bal" .nameTooLong) := by
  have long : ¬ deepPackage.AsksShort deepDirectory "main.bal" :=
    Project.not_asksShort_below ⟨by decide, by decide⟩ (by decide) rfl deepPackage
  exact Project.load_of_refused (FileTree.canonicalize_eq_nameTooLong resolve_main long)

theorem not_endsAtLink_main : ¬ deepPackage.EndsAtLink deepDirectory "main.bal" := by
  have taken : steps "main.bal" = [] ++ ["main.bal"] := by decide
  have place := @FileTree.placeOf?_of_leads deepPackage 0 deepDirectory deepDirectory _ _ _ taken
    .done (Nat.zero_le _) (Project.directory_packageAt List.prefix_rfl) (by decide) (by decide)
  refine FileTree.not_endsAtLink place ?_
  rw [node?_main]
  intro target impossible
  cases impossible

end Deep

/-- A path at the limit of links that leads to a package, and one over the limit of bytes that leads
to a source: the loader takes both, and the check none. In a directory whose path is as long as paths
may be the check takes a package and a source, and the loader none; nor does it take a package that
cannot be listed. -/
theorem disagree_beyondLimits :
    (loopedPackage.Grounded ∧ ¬ loopedPackage.EndsAtLink [] loopedPath ∧
      check loopedPackage [] (some loopedPath) = .error (.invalidPackage loopedPath) ∧
      load loopedPackage [] loopedPath = .ok (Project.ofPackage loopedPackage ["pkg"])) ∧
    (loneSource.Grounded ∧ ¬ loneSource.EndsAtLink [] longPath ∧
      check loneSource [] (some longPath) = .error (.notFound longPath) ∧
      load loneSource [] longPath = .ok (Project.ofSource ["x.bal"])) ∧
    (Project.deepPackage.Grounded ∧
      (¬ Project.deepPackage.EndsAtLink Project.deepDirectory "." ∧
        check Project.deepPackage Project.deepDirectory (some ".") = .ok "." ∧
        load Project.deepPackage Project.deepDirectory "." =
          .error (.notProject (.unsuited Project.deepDirectory))) ∧
      ¬ Project.deepPackage.EndsAtLink Project.deepDirectory "main.bal" ∧
        check Project.deepPackage Project.deepDirectory (some "main.bal") = .ok "main.bal" ∧
        load Project.deepPackage Project.deepDirectory "main.bal" =
          .error (.unresolved "main.bal" .nameTooLong)) ∧
    Project.sealedPackage.Grounded ∧ ¬ Project.sealedPackage.EndsAtLink [] "shop" ∧
      check Project.sealedPackage [] (some "shop") = .ok "shop" ∧
      load Project.sealedPackage [] "shop" = .error (.notProject (.unlisted ["shop"] .denied)) := by
  have grounded : loopedPackage.Grounded ∧ loneSource.Grounded ∧ Project.sealedPackage.Grounded := by
    unfold FileTree.Grounded
    decide +kernel
  have loopedPlace : loopedPackage.placeOf? [] loopedPath = some ["pkg"] := by decide +kernel
  have sealedPlace : Project.sealedPackage.placeOf? [] "shop" = some ["shop"] := by decide +kernel
  refine ⟨⟨grounded.1, ?_, by decide +kernel, by decide +kernel⟩,
    ⟨grounded.2.1, not_endsAtLink_loneSource, check_loneSource, load_loneSource⟩,
    ⟨Project.grounded_packageAt, ⟨not_endsAtLink_here, check_deepPackage, Project.load_deepPackage⟩,
      not_endsAtLink_main, check_main, load_main⟩,
    grounded.2.2, ?_, by decide +kernel, by decide +kernel⟩
  · exact FileTree.not_endsAtLink loopedPlace fun target impossible => by cases impossible
  · exact FileTree.not_endsAtLink sealedPlace fun target impossible => by cases impossible

end Path

end IssueReport
