import IssueReport.Proofs.FileTree.LocationTexts
import IssueReport.Proofs.Project.Placement
import IssueReport.Walker
/-!
Documents as seen from the root of a project. What is seen, joined to the root, is the path of the
document again; it is relative exactly if the names of the root are the first names of the path. A
project sees its own documents below its root, each of them differently.
-/

namespace IssueReport.Project

variable {tree otherTree : FileTree} {here elsewhere : Location} {path otherPath : String}
  {project other : Project} {document : Document}

/-! ### Names on the way to documents -/

theorem wellNamed_of_load (treeNamed : tree.WellNamed) (loaded : load tree here path = .ok project) :
    project.root.WellNamed ∧
      ∀ document ∈ project.documents, document.location ≠ [] ∧ document.location.WellNamed := by
  obtain ⟨location, -, ⟨⟨content, found⟩, rfl⟩ | ⟨-, holds, rfl⟩⟩ := cases_of_load loaded
  · have named := treeNamed.of_node (Option.isSome_of_eq_some found)
    refine ⟨fun name member => named name ((List.dropLast_subset location) member), ?_⟩
    intro document member
    rw [List.mem_singleton.mp member]
    refine ⟨?_, named⟩
    intro atRoot
    change location = [] at atRoot
    rw [atRoot] at found
    cases found
  · have directory := directory_of_manifest holds
    have named := treeNamed.of_node (Option.isSome_of_eq_some directory)
    obtain ⟨default, names, others, all, modules⟩ := hasModules_packageModules tree location
    refine ⟨named, ?_⟩
    rw [documents, ofPackage, all]
    exact modules.forall_names treeNamed (by decide) named

theorem locations_nodup_of_load (loaded : load tree here path = .ok project) :
    (project.documents.map Document.location).Nodup := by
  obtain ⟨location, -, ⟨-, rfl⟩ | ⟨-, -, rfl⟩⟩ := cases_of_load loaded
  · exact List.nodup_singleton _
  · obtain ⟨default, names, others, all, modules⟩ := hasModules_packageModules tree location
    rw [documents, ofPackage, all]
    exact modules.locations_nodup

/-! ### Any document -/

theorem seenPath_cases (project : Project) (document : Document) :
    (∃ names, project.root ++ names = document.location ∧
        project.seenPath document = .relative names) ∨
      ¬ project.root <+: document.location ∧
        project.seenPath document = .absolute document.location := by
  unfold seenPath
  cases found : Location.below? project.root document.location with
  | some names => exact .inl ⟨names, Location.below?_eq_some_iff.mp found, rfl⟩
  | none =>
      refine .inr ⟨?_, rfl⟩
      intro ⟨names, whole⟩
      rw [Location.below?_eq_some_iff.mpr whole] at found
      cases found

/-- What a project sees of a document, its own or another's. -/
structure SeesFromRoot (project : Project) (document : Document) : Prop where
  /-- The root joined with what is seen takes the names of the path of the document. -/
  joined : Path.sameNames (Path.join project.root.text (project.seenPath document).text)
    document.path = true
  joinedText : document.location ≠ project.root →
    Path.join project.root.text (project.seenPath document).text = document.path
  relative : Path.isAbsolute (project.seenPath document).text = false ↔
    Path.names project.root.text <+: Path.names document.path
  /-- Where only the start of a name is that of the root, the whole path is seen. -/
  namesake : ∀ above name more below, project.root = above ++ [name] → more ≠ "" →
    document.location = above ++ (name ++ more) :: below →
      (project.seenPath document).text = document.path

theorem sameNames_refl (path : String) : Path.sameNames path path = true := by
  unfold Path.sameNames
  rw [decide_eq_true rfl, decide_eq_true rfl]
  rfl

theorem names_prefix_iff {root location : Location} (rootNamed : root.WellNamed)
    (named : location.WellNamed) :
    Path.names root.text <+: Path.names location.text ↔ root <+: location := by
  rw [Location.names_text rootNamed, Location.names_text named]
  constructor
  · intro ⟨rest, whole⟩
    obtain ⟨before, after, same, first, -⟩ := List.map_eq_append_iff.mp whole.symm
    have root_eq := (List.map_inj_right fun _ _ => String.toList_inj.mp).mp first
    exact ⟨after, by rw [same, root_eq]⟩
  · intro inside
    exact inside.map String.toList

theorem not_prefix_namesake {above below : Location} {name more : String} (longer : more ≠ "") :
    ¬ above ++ [name] <+: above ++ (name ++ more) :: below := by
  rw [List.prefix_append_right_inj, List.cons_prefix_cons]
  intro ⟨same, _⟩
  have lengths := congrArg String.length same
  rw [String.length_append] at lengths
  have nothing : more.length = 0 := by omega
  exact longer (String.length_eq_zero_iff.mp nothing)

theorem sameNames_of_absolute {left right : String} (leftAbsolute : Path.isAbsolute left = true)
    (rightAbsolute : Path.isAbsolute right = true) (same : Path.names left = Path.names right) :
    Path.sameNames left right = true := by
  have starts : ∀ {path : String}, Path.isAbsolute path = true →
      (Path.splitStart path.toList).1 = ['/'] := by
    intro path absolute
    obtain ⟨rest, split⟩ := List.head?_eq_some_iff.mp (of_decide_eq_true absolute)
    rw [split]
    rfl
  unfold Path.sameNames
  rw [starts leftAbsolute, starts rightAbsolute, same, decide_eq_true rfl, decide_eq_true rfl]
  rfl

theorem names_append_slash (path : String) : Path.names (path ++ "/") = Path.names path := by
  rw [Path.names_eq, Path.names_eq, String.toList_append]
  change List.filter _ (Path.pieces (path.toList ++ '/' :: [])) = _
  rw [Path.pieces_append_slash, List.filter_append]
  exact List.append_nil _

theorem joined_root {root : Location} (below : root ≠ []) (named : root.WellNamed) :
    Path.sameNames (Path.join root.text "") root.text = true := by
  have absolute := Location.isAbsolute_text root
  have someText : root.text ≠ "" := by
    intro nothing
    rw [nothing] at absolute
    cases absolute
  have joined : Path.join root.text "" = root.text ++ "/" := by
    unfold Path.join
    rw [decide_eq_false someText, if_neg (by decide), if_neg (Location.getLast?_text below named),
      String.append_empty]
  have alsoAbsolute : Path.isAbsolute (root.text ++ "/") = true := by
    have starts := of_decide_eq_true absolute
    rw [Path.isAbsolute, String.toList_append, List.head?_append, starts]
    rfl
  rw [joined]
  exact sameNames_of_absolute alsoAbsolute absolute (names_append_slash root.text)

theorem seesFromRoot (rootNamed : project.root.WellNamed) (below : document.location ≠ [])
    (named : document.location.WellNamed) : project.SeesFromRoot document := by
  have atRoot := names_prefix_iff rootNamed named
  rcases seenPath_cases project document with ⟨names, whole, seen⟩ | ⟨outside, seen⟩
  · have namesNamed : Location.WellNamed names := by
      intro name member
      exact named name (whole ▸ List.mem_append_right _ member)
    have joinedText : document.location ≠ project.root →
        Path.join project.root.text (project.seenPath document).text = document.path := by
      intro elsewhere
      have nonempty : names ≠ [] := by
        intro nothing
        rw [nothing, List.append_nil] at whole
        exact elsewhere whole.symm
      rw [seen, SeenPath.text, Location.join_intercalate rootNamed namesNamed nonempty, whole]
      rfl
    refine ⟨?_, joinedText, ?_, ?_⟩
    · by_cases same : document.location = project.root
      · rw [same] at whole
        have nothing : names = [] := List.append_right_eq_self.mp whole
        rw [seen, nothing, Document.path, same]
        exact joined_root (same ▸ below) rootNamed
      · rw [joinedText same]
        exact sameNames_refl _
    · rw [Document.path, atRoot, seen, SeenPath.text, Location.isAbsolute_intercalate namesNamed]
      exact iff_of_true rfl ⟨names, whole⟩
    · intro above name more beyond rootSplit longer split
      have inside : project.root <+: document.location := ⟨names, whole⟩
      rw [rootSplit, split] at inside
      exact absurd inside (not_prefix_namesake longer)
  · have joinedText : Path.join project.root.text (project.seenPath document).text =
        document.path := by
      have absolute := Location.isAbsolute_text document.location
      unfold Path.join
      rw [seen, SeenPath.text, absolute, if_pos (by rfl)]
      rfl
    refine ⟨?_, fun _ => joinedText, ?_, fun _ _ _ _ _ _ _ => by rw [seen]; rfl⟩
    · rw [joinedText]
      exact sameNames_refl _
    · rw [Document.path, atRoot, seen, SeenPath.text, Location.isAbsolute_text]
      exact iff_of_false (by decide) outside

/-! ### Documents of a project itself -/

structure SeesItsOwn (project : Project) : Prop where
  first : ∀ module, project.modules[0]? = some module → ∀ document ∈ module.documents,
    project.seenPath document = .relative [document.name] ∧
      ∀ plugins exclusions, Walker.isExcluded ⟨project, plugins, exclusions⟩ document =
        exclusions.excludes document.name
  others : ∀ (position : Nat) (module : Module), project.modules[position + 1]? = some module →
    ∃ directory, module.name = lastName project.root ++ "." ++ directory ∧
      ∀ document ∈ module.documents,
        project.seenPath document = .relative ["modules", directory, document.name] ∧
          ∀ plugins exclusions, Walker.isExcluded ⟨project, plugins, exclusions⟩ document =
            exclusions.excludes ("modules/" ++ directory ++ "/" ++ document.name)
  injective : ∀ left ∈ project.documents, ∀ right ∈ project.documents,
    (project.seenPath left).text = (project.seenPath right).text → left = right

theorem first_seen (located : document.location = project.root ++ [document.name]) :
    project.seenPath document = .relative [document.name] ∧
      ∀ plugins exclusions, Walker.isExcluded ⟨project, plugins, exclusions⟩ document =
        exclusions.excludes document.name := by
  have seen := seenPath_of_location located
  refine ⟨seen, ?_⟩
  intro plugins exclusions
  have text : (SeenPath.relative [document.name]).text = document.name := by
    simp [SeenPath.text]
  rw [Walker.isExcluded, seen, text]

theorem other_seen {directory : String}
    (located : document.location = project.root ++ ["modules", directory, document.name]) :
    project.seenPath document = .relative ["modules", directory, document.name] ∧
      ∀ plugins exclusions, Walker.isExcluded ⟨project, plugins, exclusions⟩ document =
        exclusions.excludes ("modules/" ++ directory ++ "/" ++ document.name) := by
  have seen := seenPath_of_location located
  refine ⟨seen, ?_⟩
  intro plugins exclusions
  have text : (SeenPath.relative ["modules", directory, document.name]).text =
      "modules/" ++ directory ++ "/" ++ document.name := by
    simp [SeenPath.text, ← String.toList_inj]
  rw [Walker.isExcluded, seen, text]

theorem injective_of_load (treeNamed : tree.WellNamed)
    (loaded : load tree here path = .ok project) {left right : Document}
    (leftMember : left ∈ project.documents) (rightMember : right ∈ project.documents)
    (same : (project.seenPath left).text = (project.seenPath right).text) : left = right := by
  have placed := placed_of_load loaded
  have paths : left.path = right.path := by
    rw [← String.toList_inj, placed.toList_path leftMember, placed.toList_path rightMember, same]
  obtain ⟨-, named⟩ := wellNamed_of_load treeNamed loaded
  obtain ⟨leftBelow, leftNamed⟩ := named left leftMember
  obtain ⟨rightBelow, rightNamed⟩ := named right rightMember
  have locations := Location.eq_of_text_eq leftBelow rightBelow leftNamed.slashFree
    rightNamed.slashFree paths
  exact List.inj_on_of_nodup_map (locations_nodup_of_load loaded) leftMember rightMember locations

theorem seesItsOwn_of_load (treeNamed : tree.WellNamed)
    (loaded : load tree here path = .ok project) : project.SeesItsOwn := by
  have injective := fun left leftMember right rightMember =>
    @injective_of_load tree here path project treeNamed loaded left right leftMember rightMember
  obtain ⟨location, -, ⟨⟨content, found⟩, rfl⟩ | ⟨-, -, rfl⟩⟩ := cases_of_load loaded
  · refine ⟨?_, ?_, injective⟩
    · intro module moduleFound document member
      cases moduleFound
      have below : location ≠ [] := by
        intro atRoot
        rw [atRoot] at found
        cases found
      apply first_seen
      rw [List.mem_singleton.mp member]
      change location = location.dropLast ++ [lastName location]
      rw [lastName, List.getLast?_eq_some_getLast below, Option.getD_some]
      exact (List.dropLast_append_getLast below).symm
    · intro position module moduleFound
      simp [ofSource] at moduleFound
  · obtain ⟨default, names, others, all, modules⟩ := hasModules_packageModules tree location
    refine ⟨?_, ?_, injective⟩
    · intro module moduleFound document member
      rw [ofPackage, all, List.getElem?_cons_zero] at moduleFound
      cases moduleFound
      exact first_seen (modules.default_lists.located document member)
    · intro position module moduleFound
      rw [ofPackage, all, List.getElem?_cons_succ] at moduleFound
      obtain ⟨directory, -, found⟩ := exists_name_of_mem modules.each (List.mem_of_getElem? moduleFound)
      obtain ⟨holder, -, -, lists⟩ := found.lists
      refine ⟨directory, found.name_eq, ?_⟩
      intro document member
      apply other_seen
      rw [lists.located document member, List.append_assoc]
      rfl

/-- What a loaded project sees of the documents of any loaded project, and of its own. -/
theorem seesFromRoot_of_load (treeNamed : tree.WellNamed) (otherNamed : otherTree.WellNamed)
    (loaded : load tree here path = .ok project)
    (otherLoaded : load otherTree elsewhere otherPath = .ok other) :
    (∀ document ∈ other.documents, project.SeesFromRoot document) ∧ project.SeesItsOwn := by
  refine ⟨?_, seesItsOwn_of_load treeNamed loaded⟩
  intro document member
  obtain ⟨below, named⟩ := (wellNamed_of_load otherNamed otherLoaded).2 document member
  exact seesFromRoot (wellNamed_of_load treeNamed loaded).1 below named

def namesakes : FileTree := ⟨[
  (["ws"], .directory), (["ws", "shop"], .directory), (["ws", "shop", "Ballerina.toml"], .file []),
  (["ws", "shop", "a.bal"], .file []), (["ws", "shop", "modules"], .link "../parts"),
  (["ws", "parts"], .directory), (["ws", "parts", "cart"], .directory),
  (["ws", "parts", "cart", "a.bal"], .file []), (["ws", "shopping"], .directory),
  (["ws", "shopping", "Ballerina.toml"], .file []), (["ws", "shopping", "b.bal"], .file [])], []⟩

theorem seesFromRoot_namesakes :
    namesakes.WellNamed ∧
      load namesakes ["ws"] "shop" = .ok (ofPackage namesakes ["ws", "shop"]) ∧
      load namesakes ["ws"] "./shopping" = .ok (ofPackage namesakes ["ws", "shopping"]) ∧
      (∀ document ∈ (ofPackage namesakes ["ws", "shopping"]).documents,
        (ofPackage namesakes ["ws", "shop"]).SeesFromRoot document) ∧
      (ofPackage namesakes ["ws", "shop"]).SeesItsOwn := by
  have named : namesakes.WellNamed := by decide +kernel
  have loaded : load namesakes ["ws"] "shop" = .ok (ofPackage namesakes ["ws", "shop"]) := by
    decide +kernel
  have otherLoaded :
      load namesakes ["ws"] "./shopping" = .ok (ofPackage namesakes ["ws", "shopping"]) := by
    decide +kernel
  exact ⟨named, loaded, otherLoaded, seesFromRoot_of_load named named loaded otherLoaded⟩

example :
    (ofPackage namesakes ["ws", "shop"]).documents.map
        (fun document => ((ofPackage namesakes ["ws", "shop"]).seenPath document).text) =
      ["a.bal", "modules/cart/a.bal"] ∧
    (ofPackage namesakes ["ws", "shopping"]).documents.map
        (fun document => ((ofPackage namesakes ["ws", "shop"]).seenPath document).text) =
      ["/ws/shopping/b.bal"] := by
  decide +kernel

end IssueReport.Project
