import IssueReport.Proofs.FileTree.Names
import IssueReport.Proofs.Project.Numbering
import IssueReport.Proofs.Text.ByteOrder
/-!
What the loading of a package enumerates. The modules are the directories that are found directly
below one directory, and the documents of a module are the sources directly in its directory; both
stand in the order of the bytes of their names, each once, and nothing else is found. The order in
which the files were made plays no part.
-/

namespace IssueReport.Project

variable {tree : FileTree} {root : Location}

theorem mem_sourceNames {directory : Location} {name : String} :
    name ∈ sourceNames tree directory ↔
      (∃ content, tree.node? (directory ++ [name]) = some (.file content)) ∧
        Path.HasSourceEnding name := by
  unfold sourceNames
  rw [List.mem_filter, FileTree.mem_namesIn, Bool.and_eq_true, Path.isSourceName_iff]
  constructor
  · rintro ⟨-, ending, kind⟩
    split at kind
    · exact ⟨⟨_, ‹_›⟩, ending⟩
    · cases kind
  · rintro ⟨⟨content, found⟩, ending⟩
    rw [found]
    exact ⟨rfl, ending, rfl⟩

theorem mem_directoryNames {directory : Location} {name : String} :
    name ∈ directoryNames tree directory ↔
      tree.node? (directory ++ [name]) = some .directory := by
  unfold directoryNames
  rw [List.mem_filter, FileTree.mem_namesIn, decide_eq_true_eq, and_iff_right_iff_imp]
  intro found
  rw [found]
  rfl

theorem sourceNames_ascending (directory : Location) :
    Text.Ascending (sourceNames tree directory) :=
  Text.ascending_of_lt ((FileTree.namesIn_ascending tree directory).filter _)

theorem directoryNames_ascending (directory : Location) :
    Text.Ascending (directoryNames tree directory) :=
  Text.ascending_of_lt ((FileTree.namesIn_ascending tree directory).filter _)

/-! ### Modules -/

/-- The documents of a module are the sources directly in a directory, each once and in ascending
order; they are located below the place where the directory is shown. -/
structure Lists (tree : FileTree) (directory shown : Location) (module : Module) : Prop where
  names : ∀ name, name ∈ module.documents.map Document.name ↔
    (∃ content, tree.node? (directory ++ [name]) = some (.file content)) ∧
      Path.HasSourceEnding name
  ascending : Text.Ascending (module.documents.map Document.name)
  located : ∀ document ∈ module.documents, document.location = shown ++ [document.name]
  numbered : ∀ (position : Nat) (document : Document),
    module.documents[position]? = some document → document.id = ⟨module.id, position⟩

theorem documentsOf_map_name (id : ModuleId) (shown : Location) (names : List String) :
    (documentsOf id shown names).map Document.name = names := by
  apply List.ext_getElem
  · simp only [documentsOf, List.length_map, List.length_mapIdx]
  · intro position _ _
    simp only [documentsOf, List.getElem_map, List.getElem_mapIdx]

theorem lists_sourceNames (id : ModuleId) (name : String) (directory shown : Location) :
    Lists tree directory shown
      ⟨id, name, documentsOf id shown (sourceNames tree directory)⟩ where
  names := by
    intro source
    rw [documentsOf_map_name]
    exact mem_sourceNames
  ascending := by
    rw [documentsOf_map_name]
    exact sourceNames_ascending directory
  located := by
    intro document member
    obtain ⟨position, bounded, same⟩ := List.mem_mapIdx.mp member
    rw [← same]
  numbered := by
    intro position document found
    simp only [documentsOf, List.getElem?_mapIdx, Option.map_eq_some_iff] at found
    obtain ⟨source, _, same⟩ := found
    rw [← same]

theorem Lists.location_eq {directory shown : Location} {module : Module}
    (lists : Lists tree directory shown module) :
    module.documents.map Document.location =
      (module.documents.map Document.name).map fun name => shown ++ [name] := by
  rw [List.map_map]
  exact List.map_congr_left lists.located

theorem Lists.locations_nodup {directory shown : Location} {module : Module}
    (lists : Lists tree directory shown module) :
    (module.documents.map Document.location).Nodup := by
  rw [lists.location_eq]
  apply lists.ascending.nodup.map
  intro first second same
  exact List.singleton_inj.mp (List.append_cancel_left same)

/-- The directory that holds the modules of a package; the last name on the way may be a link. -/
def HoldsModules (tree : FileTree) (root holder : Location) : Prop :=
  tree.resolve root modulesDirectory = .ok holder ∧ tree.node? holder = some .directory

structure IsModuleIn (tree : FileTree) (root : Location) (name : String) (module : Module) :
    Prop where
  name_eq : module.name = lastName root ++ "." ++ name
  lists : ∃ holder, HoldsModules tree root holder ∧
    tree.node? (holder ++ [name]) = some .directory ∧
    Lists tree (holder ++ [name]) (root ++ [modulesDirectory, name]) module

theorem modulesHolder?_cases (tree : FileTree) (root : Location) :
    (∃ holder, HoldsModules tree root holder ∧ modulesHolder? tree root = some holder) ∨
    ((∀ holder, ¬ HoldsModules tree root holder) ∧ modulesHolder? tree root = none) := by
  unfold modulesHolder? HoldsModules
  cases resolved : tree.resolve root modulesDirectory with
  | error error =>
      refine Or.inr ⟨?_, rfl⟩
      rintro holder ⟨impossible, -⟩
      cases impossible
  | ok location =>
      by_cases directory : tree.node? location = some .directory
      · exact Or.inl ⟨location, ⟨rfl, directory⟩, if_pos directory⟩
      · refine Or.inr ⟨?_, if_neg directory⟩
        rintro holder ⟨same, other⟩
        cases same
        exact directory other

theorem moduleNames_cases (tree : FileTree) (root : Location) :
    (∃ holder, HoldsModules tree root holder ∧
      moduleNames tree root = (holder, directoryNames tree holder)) ∨
    ((∀ holder, ¬ HoldsModules tree root holder) ∧ moduleNames tree root = ([], [])) := by
  have found := modulesHolder?_cases tree root
  unfold moduleNames
  rcases found with ⟨holder, holds, same⟩ | ⟨missing, same⟩
  · rw [same]
    exact .inl ⟨holder, holds, rfl⟩
  · rw [same]
    exact .inr ⟨missing, rfl⟩

theorem HoldsModules.unique {first second : Location} (holds : HoldsModules tree root first)
    (alsoHolds : HoldsModules tree root second) : first = second :=
  Except.ok.inj (holds.1.symm.trans alsoHolds.1)

theorem mem_moduleNames {name : String} :
    name ∈ (moduleNames tree root).2 ↔
      ∃ holder, HoldsModules tree root holder ∧
        tree.node? (holder ++ [name]) = some .directory := by
  rcases moduleNames_cases tree root with ⟨holder, holds, same⟩ | ⟨missing, same⟩
  · rw [same, mem_directoryNames]
    constructor
    · intro found
      exact ⟨holder, holds, found⟩
    · rintro ⟨other, alsoHolds, found⟩
      rw [holds.unique alsoHolds]
      exact found
  · rw [same]
    constructor
    · intro member
      cases member
    · rintro ⟨holder, holds, -⟩
      exact absurd holds (missing holder)

theorem holds_of_mem_moduleNames {name : String} (member : name ∈ (moduleNames tree root).2) :
    HoldsModules tree root (moduleNames tree root).1 ∧
      tree.node? ((moduleNames tree root).1 ++ [name]) = some .directory := by
  rcases moduleNames_cases tree root with ⟨holder, holds, same⟩ | ⟨-, same⟩
  · rw [same] at member ⊢
    exact ⟨holds, mem_directoryNames.mp member⟩
  · rw [same] at member
    cases member

theorem moduleNames_ascending (tree : FileTree) (root : Location) :
    Text.Ascending (moduleNames tree root).2 := by
  rcases moduleNames_cases tree root with ⟨holder, -, same⟩ | ⟨-, same⟩
  · rw [same]
    exact directoryNames_ascending holder
  · rw [same]
    exact List.Pairwise.nil

/-- The modules of a package: that of its own directory, and one for each of some names. -/
structure HasModules (tree : FileTree) (root : Location) (default : Module) (names : List String)
    (others : List Module) : Prop where
  default_name : default.name = lastName root
  default_lists : Lists tree root root default
  each : List.Forall₂ (IsModuleIn tree root) names others
  ascending : Text.Ascending names
  names : ∀ name, name ∈ names ↔
    ∃ holder, HoldsModules tree root holder ∧ tree.node? (holder ++ [name]) = some .directory

theorem forall₂_mapIdx {Item Result : Type} {related : Item → Result → Prop} {items : List Item}
    {place : Nat → Item → Result}
    (holds : ∀ item ∈ items, ∀ position, related item (place position item)) :
    List.Forall₂ related items (items.mapIdx place) := by
  induction items generalizing place with
  | nil => exact .nil
  | cons item items ih =>
      rw [List.mapIdx_cons]
      refine .cons (holds item List.mem_cons_self 0) (ih ?_)
      intro other member position
      exact holds other (List.mem_cons_of_mem item member) (position + 1)

theorem hasModules_packageModules (tree : FileTree) (root : Location) :
    ∃ default names others, packageModules tree root = default :: others ∧
      HasModules tree root default names others := by
  refine ⟨_, (moduleNames tree root).2, _, rfl, ?_⟩
  constructor
  · rfl
  · exact lists_sourceNames ⟨0⟩ (lastName root) root root
  · apply forall₂_mapIdx
    intro name member position
    obtain ⟨holds, directory⟩ := holds_of_mem_moduleNames member
    exact ⟨rfl, _, holds, directory, lists_sourceNames ⟨position + 1⟩ _ _ _⟩
  · exact moduleNames_ascending tree root
  · intro name
    exact mem_moduleNames

theorem exists_name_of_mem {names : List String} {others : List Module} {module : Module}
    (each : List.Forall₂ (IsModuleIn tree root) names others) (member : module ∈ others) :
    ∃ name ∈ names, IsModuleIn tree root name module := by
  induction each with
  | nil => cases member
  | @cons name first names others found rest ih =>
      rcases List.mem_cons.mp member with here | later
      · rw [here]
        exact ⟨name, List.mem_cons_self, found⟩
      · obtain ⟨other, otherMember, otherFound⟩ := ih later
        exact ⟨other, List.mem_cons_of_mem name otherMember, otherFound⟩

/-! ### Where documents are -/

section Documents

variable {default : Module} {names : List String} {others : List Module}

theorem IsModuleIn.locations {name : String} {module : Module}
    (found : IsModuleIn tree root name module) :
    (module.documents.map Document.location).Nodup ∧
      ∀ location ∈ module.documents.map Document.location,
        ∃ source, location = root ++ [modulesDirectory, name, source] := by
  obtain ⟨_, _, _, lists⟩ := found.lists
  refine ⟨lists.locations_nodup, ?_⟩
  intro location member
  obtain ⟨document, documentMember, rfl⟩ := List.mem_map.mp member
  refine ⟨document.name, ?_⟩
  rw [lists.located document documentMember, List.append_assoc]
  rfl

theorem locations_of_forall₂ (each : List.Forall₂ (IsModuleIn tree root) names others)
    (distinct : names.Nodup) :
    ((others.flatMap (·.documents)).map Document.location).Nodup ∧
      ∀ location ∈ (others.flatMap (·.documents)).map Document.location,
        ∃ name ∈ names, ∃ source, location = root ++ [modulesDirectory, name, source] := by
  induction each with
  | nil =>
      refine ⟨List.nodup_nil, ?_⟩
      intro location member
      cases member
  | @cons name module names others found rest ih =>
      obtain ⟨new, distinctRest⟩ := List.nodup_cons.mp distinct
      obtain ⟨restNodup, restPlaces⟩ := ih distinctRest
      obtain ⟨firstNodup, firstPlaces⟩ := found.locations
      rw [List.flatMap_cons, List.map_append]
      constructor
      · apply List.nodup_append.mpr
        refine ⟨firstNodup, restNodup, ?_⟩
        -- a location in common would give two modules one name
        rintro first firstMember second secondMember rfl
        obtain ⟨source, place⟩ := firstPlaces first firstMember
        obtain ⟨other, otherMember, otherSource, otherPlace⟩ := restPlaces first secondMember
        rw [place] at otherPlace
        have same := List.append_cancel_left otherPlace
        simp only [List.cons.injEq, true_and] at same
        rw [same.1] at new
        exact new otherMember
      · intro location member
        rcases List.mem_append.mp member with here | later
        · exact ⟨name, List.mem_cons_self, firstPlaces location here⟩
        · obtain ⟨other, otherMember, place⟩ := restPlaces location later
          exact ⟨other, List.mem_cons_of_mem name otherMember, place⟩

/-- No two documents of a package are at the same location. -/
theorem HasModules.locations_nodup (modules : HasModules tree root default names others) :
    (((default :: others).flatMap (·.documents)).map Document.location).Nodup := by
  obtain ⟨restNodup, restPlaces⟩ := locations_of_forall₂ modules.each modules.ascending.nodup
  rw [List.flatMap_cons, List.map_append]
  apply List.nodup_append.mpr
  refine ⟨modules.default_lists.locations_nodup, restNodup, ?_⟩
  -- the documents of the package itself stand two names higher than those of its other modules
  rintro first firstMember second secondMember rfl
  obtain ⟨document, documentMember, same⟩ := List.mem_map.mp firstMember
  obtain ⟨name, _, source, place⟩ := restPlaces first secondMember
  rw [← same, modules.default_lists.located document documentMember] at place
  simp at place

section Names

variable {good : String → Prop} (treeNamed : ∀ entry ∈ tree.entries, ∀ name ∈ entry.1, good name)

include treeNamed

theorem Lists.forall_names {directory shown : Location} {module : Module}
    (lists : Lists tree directory shown module) (shownNamed : ∀ name ∈ shown, good name) :
    ∀ document ∈ module.documents,
      document.location ≠ [] ∧ ∀ name ∈ document.location, good name := by
  intro document member
  have listed := (lists.names document.name).mp (List.mem_map_of_mem member)
  obtain ⟨⟨content, found⟩, -⟩ := listed
  have placeNamed := FileTree.forall_names_of_node treeNamed (Option.isSome_of_eq_some found)
  rw [lists.located document member]
  refine ⟨List.concat_ne_nil _ _, ?_⟩
  intro name nameMember
  rcases List.mem_append.mp nameMember with above | last
  · exact shownNamed name above
  · exact placeNamed name (List.mem_append_right _ last)

variable (modulesNamed : good modulesDirectory) (rootNamed : ∀ name ∈ root, good name)

include modulesNamed rootNamed

theorem forall_names_of_forall₂ (each : List.Forall₂ (IsModuleIn tree root) names others) :
    ∀ module ∈ others, ∀ document ∈ module.documents,
      document.location ≠ [] ∧ ∀ name ∈ document.location, good name := by
  induction each with
  | nil =>
      intro module member
      cases member
  | @cons name first names others found rest ih =>
      obtain ⟨holder, -, directory, lists⟩ := found.lists
      have placeNamed :=
        FileTree.forall_names_of_node treeNamed (Option.isSome_of_eq_some directory)
      have shownNamed : ∀ other ∈ root ++ [modulesDirectory, name], good other := by
        intro other member
        rcases List.mem_append.mp member with above | below
        · exact rootNamed other above
        · rcases List.mem_cons.mp below with here | last
          · rw [here]
            exact modulesNamed
          · exact placeNamed other (List.mem_append_right _ last)
      intro module member
      rcases List.mem_cons.mp member with here | later
      · rw [here]
        exact lists.forall_names treeNamed shownNamed
      · exact ih module later

/-- The names on the way to a document are that of the directory of all modules, and names that are
in the tree or on the way to the package. -/
theorem HasModules.forall_names (modules : HasModules tree root default names others) :
    ∀ document ∈ (default :: others).flatMap (·.documents),
      document.location ≠ [] ∧ ∀ name ∈ document.location, good name := by
  intro document member
  obtain ⟨module, moduleMember, inModule⟩ := List.mem_flatMap.mp member
  rcases List.mem_cons.mp moduleMember with here | later
  · rw [here] at inModule
    exact modules.default_lists.forall_names treeNamed rootNamed document inModule
  · exact forall_names_of_forall₂ treeNamed modulesNamed rootNamed modules.each module later document
      inModule

end Names

/-- Nor do they have the same path, as long as names hold no slash. -/
theorem HasModules.paths_nodup (modules : HasModules tree root default names others)
    (treeFree : tree.SlashFree) (rootFree : root.SlashFree) :
    (((default :: others).flatMap (·.documents)).map Document.path).Nodup := by
  have paths : ((default :: others).flatMap (·.documents)).map Document.path =
      (((default :: others).flatMap (·.documents)).map Document.location).map Location.text :=
    List.map_map.symm
  rw [paths]
  apply modules.locations_nodup.map_on
  intro first firstMember second secondMember same
  obtain ⟨left, leftMember, rfl⟩ := List.mem_map.mp firstMember
  obtain ⟨right, rightMember, rfl⟩ := List.mem_map.mp secondMember
  have named := @HasModules.forall_names tree root default names others
    (fun name => '/' ∉ name.toList) treeFree (by decide) rootFree modules
  obtain ⟨leftBelow, leftFree⟩ := named left leftMember
  obtain ⟨rightBelow, rightFree⟩ := named right rightMember
  exact Location.eq_of_text_eq leftBelow rightBelow leftFree rightFree same

end Documents

/-! ### Loading -/

/-- A project has the modules of a package with their documents, and nothing else. -/
structure Enumerates (tree : FileTree) (root : Location) (project : Project) : Prop where
  root_eq : project.root = root
  kind_eq : project.kind = .package
  modules : ∃ default names others, project.modules = default :: others ∧
    HasModules tree root default names others
  numbered : project.Numbered
  /-- No two documents are at the same location. -/
  locations : ((project.modules.flatMap (·.documents)).map Document.location).Nodup
  /-- Nor do they have the same path, as the names in a directory hold no slash. -/
  paths : tree.SlashFree → ((project.modules.flatMap (·.documents)).map Document.path).Nodup

theorem enumerates_ofPackage (directory : tree.node? root = some .directory) :
    Enumerates tree root (ofPackage tree root) := by
  obtain ⟨default, names, others, same, modules⟩ := hasModules_packageModules tree root
  have all : (ofPackage tree root).modules = default :: others := same
  refine ⟨rfl, rfl, ⟨default, names, others, all, modules⟩, numbered_ofPackage tree root, ?_, ?_⟩
  · rw [all]
    exact modules.locations_nodup
  · intro treeFree
    rw [all]
    exact modules.paths_nodup treeFree (treeFree.of_node (Option.isSome_of_eq_some directory))

end IssueReport.Project
