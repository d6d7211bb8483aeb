import IssueReport.Proofs.FileTree.Joins
import IssueReport.Proofs.Project.Enumeration
import Mathlib.Data.List.Infix
import Mathlib.Algebra.Ring.Nat
/-!
Loading packages. The directories of a package are listed one after the other. The package is loaded
if the system answers all that it is asked, and it depends neither on the order in which the files
were made nor on what the system was not asked.
-/

namespace IssueReport.Project

variable {tree : FileTree} {root : Location}

/-! ### Listings -/

/-- A directory is listed for a package by a path: the one of the package itself, the one that holds
its modules, and those of the modules. -/
inductive IsListed (tree : FileTree) (root : Location) : Location → Location → Prop
  | default : IsListed tree root root root
  | holder {holder : Location} (holds : HoldsModules tree root holder) :
      IsListed tree root (root ++ [modulesDirectory]) holder
  | module {holder : Location} {name : String} (holds : HoldsModules tree root holder)
      (found : tree.node? (holder ++ [name]) = some .directory) :
      IsListed tree root (root ++ [modulesDirectory, name]) (holder ++ [name])

/-- The first of these directories that the system refuses to list, and why. Those of the modules come
last, in ascending order of their names. -/
inductive FirstRefused (tree : FileTree) (root : Location) : Location → LookupError → Prop
  | default {error : LookupError} (refused : tree.refusal? root root = some error) :
      FirstRefused tree root root error
  | holder {holder : Location} {error : LookupError} (holds : HoldsModules tree root holder)
      (earlier : tree.refusal? root root = none)
      (refused : tree.refusal? (root ++ [modulesDirectory]) holder = some error) :
      FirstRefused tree root (root ++ [modulesDirectory]) error
  | module {holder : Location} {name : String} {error : LookupError}
      (holds : HoldsModules tree root holder)
      (found : tree.node? (holder ++ [name]) = some .directory)
      (above : tree.refusal? root root = none ∧
        tree.refusal? (root ++ [modulesDirectory]) holder = none)
      (earlier : ∀ other, tree.node? (holder ++ [other]) = some .directory →
        Text.utf8 other < Text.utf8 name →
          tree.refusal? (root ++ [modulesDirectory, other]) (holder ++ [other]) = none)
      (refused : tree.refusal? (root ++ [modulesDirectory, name]) (holder ++ [name]) =
        some error) :
      FirstRefused tree root (root ++ [modulesDirectory, name]) error

theorem listings_cases (tree : FileTree) (root : Location) :
    (∃ holder, HoldsModules tree root holder ∧ listings tree root =
      (root, root) :: (root ++ [modulesDirectory], holder) ::
        (directoryNames tree holder).map fun name =>
          (root ++ [modulesDirectory, name], holder ++ [name])) ∨
    ((∀ holder, ¬ HoldsModules tree root holder) ∧ listings tree root = [(root, root)]) := by
  have found := modulesHolder?_cases tree root
  unfold listings
  rcases found with ⟨holder, holds, same⟩ | ⟨missing, same⟩
  · rw [same]
    exact .inl ⟨holder, holds, rfl⟩
  · rw [same]
    exact .inr ⟨missing, rfl⟩

theorem mem_listings {path directory : Location} :
    (path, directory) ∈ listings tree root ↔ IsListed tree root path directory := by
  constructor
  · intro member
    rcases listings_cases tree root with ⟨holder, holds, same⟩ | ⟨-, same⟩
    · rw [same, List.mem_cons, List.mem_cons, List.mem_map] at member
      rcases member with first | second | ⟨name, named, third⟩
      · cases first
        exact .default
      · cases second
        exact .holder holds
      · cases third
        exact .module holds (mem_directoryNames.mp named)
    · rw [same, List.mem_singleton] at member
      cases member
      exact .default
  · intro listed
    rcases listings_cases tree root with ⟨holder, holds, same⟩ | ⟨missing, same⟩
    · rw [same, List.mem_cons, List.mem_cons, List.mem_map]
      cases listed with
      | default => exact .inl rfl
      | holder also =>
          rw [holds.unique also]
          exact .inr (.inl rfl)
      | module also found =>
          rw [holds.unique also]
          exact .inr (.inr ⟨_, mem_directoryNames.mpr found, rfl⟩)
    · rw [same, List.mem_singleton]
      cases listed with
      | default => rfl
      | holder holds | module holds => exact absurd holds (missing _)

theorem unlisted?_eq_none :
    unlisted? tree root = none ↔
      ∀ path directory, IsListed tree root path directory → tree.refusal? path directory = none := by
  unfold unlisted?
  rw [List.findSome?_eq_none_iff]
  constructor
  · intro clear path directory listed
    exact Option.map_eq_none_iff.mp (clear (path, directory) (mem_listings.mpr listed))
  · intro clear (path, directory) member
    exact Option.map_eq_none_iff.mpr (clear path directory (mem_listings.mp member))

/-- The first refusal among the directories of modules, whose names are in ascending order. -/
theorem exists_first_name {names : List String} (ascending : Text.Ascending names)
    {refusal : String → Option LookupError} {shown : String → Location} {fault : ProjectFault}
    (found : names.findSome? (fun name => (refusal name).map (.unlisted (shown name))) =
      some fault) :
    ∃ name ∈ names, ∃ error, fault = .unlisted (shown name) error ∧ refusal name = some error ∧
      ∀ other ∈ names, Text.utf8 other < Text.utf8 name → refusal other = none := by
  obtain ⟨before, name, after, rfl, refused, earlier⟩ := List.findSome?_eq_some_iff.mp found
  obtain ⟨error, known, rfl⟩ := Option.map_eq_some_iff.mp refused
  refine ⟨name, List.mem_append_right _ List.mem_cons_self, error, rfl, known, ?_⟩
  intro other member less
  rcases List.mem_append.mp member with first | here
  · exact Option.map_eq_none_iff.mp (earlier other first)
  -- behind the name there are greater ones only
  have later := (List.pairwise_append.mp ascending).2.1
  rcases List.mem_cons.mp here with same | last
  · rw [same] at less
    exact absurd less (List.lt_irrefl _)
  · have greater := List.rel_of_pairwise_cons later last
    exact absurd (List.lt_trans less greater) (List.lt_irrefl _)

theorem firstRefused_of_unlisted? {fault : ProjectFault}
    (found : unlisted? tree root = some fault) :
    ∃ path error, fault = .unlisted path error ∧ FirstRefused tree root path error := by
  unfold unlisted? at found
  rcases listings_cases tree root with ⟨holder, holds, same⟩ | ⟨-, same⟩
  · rw [same, List.findSome?_cons, List.findSome?_cons, List.findSome?_map] at found
    dsimp only at found
    cases first : tree.refusal? root root with
    | some error =>
        rw [first] at found
        exact ⟨root, error, (Option.some.inj found).symm, .default first⟩
    | none =>
    cases second : tree.refusal? (root ++ [modulesDirectory]) holder with
    | some error =>
        rw [first, second] at found
        exact ⟨_, error, (Option.some.inj found).symm, .holder holds first second⟩
    | none =>
        rw [first, second] at found
        obtain ⟨name, named, error, same, refused, earlier⟩ :=
          exists_first_name (directoryNames_ascending holder) found
        refine ⟨_, error, same, .module holds (mem_directoryNames.mp named) ⟨first, second⟩ ?_
          refused⟩
        intro other isDirectory less
        exact earlier other (mem_directoryNames.mpr isDirectory) less
  · rw [same, List.findSome?_cons] at found
    dsimp only at found
    cases first : tree.refusal? root root with
    | none =>
        rw [first] at found
        cases found
    | some error =>
        rw [first] at found
        exact ⟨root, error, (Option.some.inj found).symm, .default first⟩

/-! ### Packages that are loaded, and those that are not -/

theorem isFileName_manifest : IsFileName manifest :=
  ⟨⟨by decide, by decide, by decide⟩, by decide, by decide⟩

/-- The manifest of a package can be asked for by its absolute path. -/
def ManifestShort (root : Location) : Prop :=
  (Location.text (root ++ [manifest])).utf8ByteSize ≤ FileTree.pathLimit

/-- What a path to a directory with a manifest is loaded as. It takes that the system answers all that
it is asked; else the first question that it refuses is the error. -/
structure LoadsPackage (tree : FileTree) (here : Location) (path : String) (root : Location) :
    Prop where
  enumerates : tree.AsksShort here path → ManifestShort root →
    (∀ path directory, IsListed tree root path directory → tree.refusal? path directory = none) →
      ∃ project, load tree here path = .ok project ∧ Enumerates tree root project
  unresolved : ¬ tree.AsksShort here path →
    load tree here path = .error (.unresolved path .nameTooLong)
  unsuited : tree.AsksShort here path → ¬ ManifestShort root →
    load tree here path = .error (.notProject (.unsuited root))
  unlisted : tree.AsksShort here path → ManifestShort root →
    ∀ listed directory, IsListed tree root listed directory →
      tree.refusal? listed directory ≠ none →
        ∃ first error, FirstRefused tree root first error ∧
          load tree here path = .error (.notProject (.unlisted first error))

theorem load_of_other {here : Location} {path : String}
    (found : tree.canonicalize here path = .ok root)
    (other : ∀ content, tree.node? root ≠ some (.file content)) :
    load tree here path = (loadPackage tree root).mapError .notProject := by
  unfold load
  rw [found]
  dsimp only
  split
  · exact absurd (FileTree.node?_of_nodeAt? ‹_›) (other _)
  · rfl

theorem loadsPackage_of_manifest {here : Location} {path : String}
    (resolved : tree.resolve here path = .ok root) (holds : tree.isFile root manifest = true) :
    LoadsPackage tree here path root := by
  have directory := directory_of_manifest holds
  have loads : tree.AsksShort here path →
      load tree here path = (loadPackage tree root).mapError .notProject := fun short =>
    load_of_other (FileTree.canonicalize_eq_ok.mpr ⟨resolved, short⟩) (by simp [directory])
  have isFileIn : ManifestShort root → tree.isFileIn root manifest = true :=
    fun short => FileTree.isFileIn_iff.mpr ⟨short, holds⟩
  constructor
  · intro short manifestShort listed
    have package := loadPackage_eq_ok.mpr
      ⟨isFileIn manifestShort, unlisted?_eq_none.mpr listed, rfl⟩
    refine ⟨ofPackage tree root, ?_, enumerates_ofPackage directory⟩
    rw [loads short, package]
    rfl
  · intro long
    rw [load, FileTree.canonicalize_eq_nameTooLong resolved long]
  · intro short manifestLong
    rw [loads short, loadPackage, if_neg]
    · rfl
    · intro found
      exact manifestLong (FileTree.isFileIn_iff.mp found).1
  · intro short manifestShort listed place isListed refused
    cases found : unlisted? tree root with
    | none => exact absurd (unlisted?_eq_none.mp found listed place isListed) refused
    | some fault =>
        obtain ⟨first, error, rfl, firstRefused⟩ := firstRefused_of_unlisted? found
        refine ⟨first, error, firstRefused, ?_⟩
        rw [loads short, loadPackage, if_pos (isFileIn manifestShort), found]
        rfl

/-! ### Trees with the same nodes -/

section SameNodes

variable {first second : FileTree} (same : first.SameNodes second)

section Nodes

include same

theorem sourceNames_congr (directory : Location) :
    sourceNames first directory = sourceNames second directory := by
  simp only [sourceNames, same.namesIn, same _]

theorem directoryNames_congr (directory : Location) :
    directoryNames first directory = directoryNames second directory := by
  simp only [directoryNames, same.namesIn, same _]

theorem modulesHolder?_congr (root : Location) :
    modulesHolder? first root = modulesHolder? second root := by
  simp only [modulesHolder?, FileTree.resolve, same.resolveBy, same _]

theorem ofPackage_congr (root : Location) : ofPackage first root = ofPackage second root := by
  simp only [ofPackage, packageModules, moduleNames, modulesHolder?_congr same,
    sourceNames_congr same, directoryNames_congr same]

theorem listings_congr (root : Location) : listings first root = listings second root := by
  simp only [listings, modulesHolder?_congr same, directoryNames_congr same]

end Nodes

variable (alsoSealed : ∀ directory, directory ∈ first.sealed ↔ directory ∈ second.sealed)

include same alsoSealed

/-- Loading depends only on the nodes of a tree and on which directories can be listed. -/
theorem load_congr (here : Location) (path : String) :
    load first here path = load second here path := by
  have refusals : first.refusal? = second.refusal? := by
    funext path directory
    simp only [FileTree.refusal?, alsoSealed]
  have packages : ∀ root, loadPackage first root = loadPackage second root := by
    intro root
    simp only [loadPackage, FileTree.isFileIn, FileTree.isFile, same.isFileBy, unlisted?,
      listings_congr same, refusals, ofPackage_congr same]
    rfl
  simp only [load, FileTree.canonicalize, same.resolveBy, FileTree.nodeAt?, same _, packages]

end SameNodes

/-! ### Packages at any depth -/

theorem utf8ByteSize_text {location : Location} (below : location ≠ []) :
    location.text.utf8ByteSize = (location.map fun name => name.utf8ByteSize + 1).sum := by
  have joined : ∀ names : List String,
      (String.join (names.map fun name => "/" ++ name)).utf8ByteSize =
        (names.map fun name => name.utf8ByteSize + 1).sum := by
    intro names
    induction names with
    | nil => rfl
    | cons name names ih =>
        rw [List.map_cons, String.join_cons, String.utf8ByteSize_append,
          String.utf8ByteSize_append, ih, List.map_cons, List.sum_cons, Nat.add_comm name.utf8ByteSize]
        rfl
  cases location with
  | nil => exact absurd rfl below
  | cons name location => exact joined (name :: location)

def packageAt (root : Location) (files : List String) : FileTree where
  entries :=
    files.map (fun name => (root ++ [name], .file [])) ++
      root.inits.map fun above => (above, .directory)
  sealed := []

section PackageAt

variable {files : List String}

theorem mem_packageAt {location : Location} {node : FileTree.Node} :
    (location, node) ∈ (packageAt root files).entries ↔
      (∃ name ∈ files, location = root ++ [name] ∧ node = .file []) ∨
        location <+: root ∧ node = .directory := by
  rw [packageAt, List.mem_append, List.mem_map, List.mem_map]
  simp only [Prod.mk.injEq, List.mem_inits]
  constructor
  · rintro (⟨name, member, rfl, rfl⟩ | ⟨above, isPrefix, rfl, rfl⟩)
    · exact .inl ⟨name, member, rfl, rfl⟩
    · exact .inr ⟨isPrefix, rfl⟩
  · rintro (⟨name, member, rfl, rfl⟩ | ⟨isPrefix, rfl⟩)
    · exact .inl ⟨name, member, rfl, rfl⟩
    · exact .inr ⟨location, isPrefix, rfl, rfl⟩

theorem not_isPrefix_concat (name : String) : ¬ root ++ [name] <+: root := by
  intro impossible
  have longer := impossible.length_le
  rw [List.length_append, List.length_singleton] at longer
  omega

/-- Something is held where a package has an entry, and it is that of an entry. -/
theorem exists_node_packageAt {location : Location} {node : FileTree.Node} (below : location ≠ [])
    (member : (location, node) ∈ (packageAt root files).entries) :
    ∃ other, (packageAt root files).node? location = some other ∧
      (location, other) ∈ (packageAt root files).entries := by
  have present := (FileTree.node?_isSome_iff below).mpr ⟨_, member, rfl⟩
  obtain ⟨other, found⟩ := Option.isSome_iff_exists.mp present
  exact ⟨other, found, FileTree.mem_of_node? below found⟩

theorem directory_packageAt {above : Location} (isPrefix : above <+: root) :
    (packageAt root files).node? above = some .directory := by
  by_cases below : above = []
  · rw [below]
    rfl
  · obtain ⟨node, found, member⟩ :=
      exists_node_packageAt below (mem_packageAt.mpr (.inr ⟨isPrefix, rfl⟩))
    rcases mem_packageAt.mp member with ⟨name, -, rfl, -⟩ | ⟨-, rfl⟩
    · exact absurd isPrefix (not_isPrefix_concat name)
    · exact found

theorem file_packageAt {name : String} (named : name ∈ files) :
    (packageAt root files).node? (root ++ [name]) = some (.file []) := by
  obtain ⟨node, found, member⟩ := exists_node_packageAt (List.concat_ne_nil name root)
    (mem_packageAt.mpr (.inl ⟨name, named, rfl, rfl⟩))
  rcases mem_packageAt.mp member with ⟨_, -, -, rfl⟩ | ⟨isPrefix, -⟩
  · exact found
  · exact absurd isPrefix (not_isPrefix_concat name)

theorem grounded_packageAt : (packageAt root files).Grounded := by
  rintro ⟨location, node⟩ member
  apply directory_packageAt
  rcases mem_packageAt.mp member with ⟨name, -, rfl, -⟩ | ⟨isPrefix, -⟩
  · rw [List.dropLast_concat]
  · exact (List.dropLast_prefix location).trans isPrefix

variable {name : String} (named : IsFileName name) (notUp : name ≠ "..")
  (short : name.utf8ByteSize ≤ FileTree.nameLimit) (member : name ∈ files)

include named notUp short member

theorem leads_packageAt : (packageAt root files).Leads 0 root [name] (root ++ [name]) :=
  .into (directory_packageAt List.prefix_rfl) ⟨named.notHere, notUp, short, rfl⟩
    (file_packageAt member) (by simp) rfl .done

theorem isFile_packageAt : (packageAt root files).isFile root name = true :=
  FileTree.isFile_iff.mpr ⟨named.short, root ++ [name], [],
    (FileTree.resolve_name named).mpr ⟨0, Nat.zero_le _, leads_packageAt named notUp short member⟩,
    file_packageAt member⟩

end PackageAt

/-! ### Any package -/

/-- What loading gives for a path to a directory with a manifest, however the tree was made. -/
theorem enumerates_of_manifest {here : Location} {path : String}
    (resolved : tree.resolve here path = .ok root) (holds : tree.isFile root manifest = true) :
    LoadsPackage tree here path root ∧
      (∀ other : FileTree, tree.SameNodes other →
        (∀ directory, directory ∈ tree.sealed ↔ directory ∈ other.sealed) →
          load other here path = load tree here path) ∧
      ((tree.entries.map (·.1)).Nodup → ∀ other : FileTree, tree.entries.Perm other.entries →
        tree.sealed.Perm other.sealed → load other here path = load tree here path) := by
  refine ⟨loadsPackage_of_manifest resolved holds, ?_, ?_⟩
  · intro other same alsoSealed
    exact (load_congr same alsoSealed here path).symm
  · intro distinct other permuted sealedPermuted
    have same := FileTree.sameNodes_of_perm permuted distinct
    exact (load_congr same (fun _ => sealedPermuted.mem_iff) here path).symm

/-- A package whose modules are behind a link, with sources that are none: a hidden name, a link, a
directory, and one that is too deep. The sealed directories are no modules. -/
def tangledPackage : FileTree where
  entries :=
    [(["shop"], .directory), (["shop", "z.bal"], .file []), (["shop", "Ballerina.toml"], .file []),
      (["shop", "modules"], .link "../parts"), (["parts"], .directory),
      (["parts", "stock"], .directory), (["parts", "stock", "deep"], .directory),
      (["parts", "stock", "deep", "d.bal"], .file []), (["parts", "stock", "s.bal"], .file []),
      (["parts", "other"], .link "stock"), (["parts", "cart"], .directory),
      (["shop", ".bal"], .file []), (["shop", "l.bal"], .link "z.bal"),
      (["shop", "x.bal"], .directory), (["shop", "é.bal"], .file []),
      (["shop", "B.bal"], .file [])]
  sealed := [["parts", "stock", "deep"], ["shop", "x.bal"]]

theorem enumerates_tangledPackage :
    tangledPackage.resolve ["parts"] "../shop/." = .ok ["shop"] ∧
      tangledPackage.isFile ["shop"] manifest = true ∧
      (∃ project, load tangledPackage ["parts"] "../shop/." = .ok project ∧
        Enumerates tangledPackage ["shop"] project) ∧
      ∀ other : FileTree, tangledPackage.entries.Perm other.entries →
        tangledPackage.sealed.Perm other.sealed →
          load other ["parts"] "../shop/." = load tangledPackage ["parts"] "../shop/." := by
  have found : tangledPackage.canonicalize ["parts"] "../shop/." = .ok ["shop"] := by
    decide +kernel
  obtain ⟨resolved, short⟩ := FileTree.canonicalize_eq_ok.mp found
  have holds : tangledPackage.isFile ["shop"] manifest = true := by decide +kernel
  have manifestShort : ManifestShort ["shop"] := by
    unfold ManifestShort
    decide +kernel
  have listed : unlisted? tangledPackage ["shop"] = none := by decide +kernel
  have distinct : (tangledPackage.entries.map (·.1)).Nodup := by decide +kernel
  obtain ⟨loads, -, permuted⟩ := enumerates_of_manifest resolved holds
  exact ⟨resolved, holds, loads.enumerates short manifestShort (unlisted?_eq_none.mp listed),
    permuted distinct⟩

example :
    (load tangledPackage ["parts"] "../shop/.").map (fun project =>
      project.modules.map fun module => (module.name, module.documents.map Document.name)) =
      .ok [("shop", ["B.bal", "z.bal", "é.bal"]), ("shop.cart", []),
        ("shop.stock", ["s.bal"])] := by
  decide +kernel

def sealedPackage : FileTree :=
  { packageAt ["shop"] [manifest] with sealed := [["shop"]] }

/-- A directory whose path has as many bytes as a path may have. -/
def deepDirectory : Location :=
  List.replicate 21 (String.ofList (List.replicate 194 'a'))

theorem utf8ByteSize_deepDirectory (names : List String) :
    (Location.text (deepDirectory ++ names)).utf8ByteSize =
      4095 + (names.map fun name => name.utf8ByteSize + 1).sum := by
  have name : (String.ofList (List.replicate 194 'a')).utf8ByteSize = 194 := by decide +kernel
  have below : deepDirectory ++ names ≠ [] := by
    rw [deepDirectory, List.replicate_succ, List.cons_append]
    exact List.cons_ne_nil _ _
  rw [utf8ByteSize_text below, List.map_append, List.sum_append, deepDirectory, List.map_replicate,
    name]
  rfl

def deepPackage : FileTree :=
  packageAt deepDirectory [manifest, "main.bal"]

def deeperPackage : FileTree :=
  packageAt (deepDirectory ++ ["shop"]) [manifest]

theorem resolve_deepPackage : deepPackage.resolve deepDirectory "." = .ok deepDirectory :=
  FileTree.resolve_eq_ok.mpr ⟨by decide, by decide, 0, Nat.zero_le _,
    .stay (directory_packageAt List.prefix_rfl) rfl .done⟩

theorem resolve_deeperPackage :
    deeperPackage.resolve deepDirectory "shop" = .ok (deepDirectory ++ ["shop"]) :=
  FileTree.resolve_eq_ok.mpr ⟨by decide, by decide, 0, Nat.zero_le _,
    .into (directory_packageAt (List.prefix_append _ _)) ⟨by decide, by decide, by decide, rfl⟩
      (directory_packageAt List.prefix_rfl) (by simp) rfl .done⟩

theorem asksShort_deepPackage : deepPackage.AsksShort deepDirectory "." := by
  intro place left asks
  change FileTree.Asks _ _ ["."] _ _ at asks
  cases asks with
  | stay _ onward | up _ onward => cases onward
  | name notHere | pass notHere | into notHere | along notHere => exact absurd rfl notHere

theorem not_asksShort_below {name : String} (named : name ≠ "." ∧ name ≠ "..")
    (step : Path.steps name = [name]) (relative : FileTree.startOf deepDirectory name = deepDirectory)
    (tree : FileTree) : ¬ tree.AsksShort deepDirectory name := by
  intro short
  have asks : tree.Asks (FileTree.startOf deepDirectory name) (Path.steps name)
      (deepDirectory ++ [name]) [] := by
    rw [step, relative]
    exact .name named.1 named.2
  have fits := FileTree.Lookup.absolute_asks.mp (short _ _ asks)
  rw [utf8ByteSize_deepDirectory, List.map_cons, List.sum_cons, FileTree.pathLimit] at fits
  omega

theorem isFile_deepPackage : deepPackage.isFile deepDirectory manifest = true :=
  isFile_packageAt isFileName_manifest (by decide) (by decide) List.mem_cons_self

theorem load_deepPackage :
    load deepPackage deepDirectory "." = .error (.notProject (.unsuited deepDirectory)) := by
  have manifestLong : ¬ ManifestShort deepDirectory := by
    rw [ManifestShort, utf8ByteSize_deepDirectory]
    decide
  exact (loadsPackage_of_manifest resolve_deepPackage isFile_deepPackage).unsuited
    asksShort_deepPackage manifestLong

/-- A package that is not loaded because it is sealed, because the path of its manifest is too long,
or because its own path is. -/
theorem refused_beyondLimits :
    (sealedPackage.resolve [] "shop" = .ok ["shop"] ∧
      sealedPackage.isFile ["shop"] manifest = true ∧
        load sealedPackage [] "shop" = .error (.notProject (.unlisted ["shop"] .denied))) ∧
    (deepPackage.resolve deepDirectory "." = .ok deepDirectory ∧
      deepPackage.isFile deepDirectory manifest = true ∧
        load deepPackage deepDirectory "." = .error (.notProject (.unsuited deepDirectory))) ∧
    (deeperPackage.resolve deepDirectory "shop" = .ok (deepDirectory ++ ["shop"]) ∧
      deeperPackage.isFile (deepDirectory ++ ["shop"]) manifest = true ∧
        load deeperPackage deepDirectory "shop" = .error (.unresolved "shop" .nameTooLong)) := by
  have deeperHolds : deeperPackage.isFile (deepDirectory ++ ["shop"]) manifest = true :=
    isFile_packageAt isFileName_manifest (by decide) (by decide) List.mem_cons_self
  have long : ¬ deeperPackage.AsksShort deepDirectory "shop" :=
    not_asksShort_below ⟨by decide, by decide⟩ (by decide) rfl deeperPackage
  refine ⟨⟨by decide +kernel, by decide +kernel, by decide +kernel⟩,
    ⟨resolve_deepPackage, isFile_deepPackage, load_deepPackage⟩, resolve_deeperPackage,
    deeperHolds, ?_⟩
  exact (loadsPackage_of_manifest resolve_deeperPackage deeperHolds).unresolved long

end IssueReport.Project
