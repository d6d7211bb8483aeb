import IssueReport.Project.Load
import IssueReport.Proofs.FileTree.Walks
/-!
Ids of modules. What is loaded is a source or a package, and both number their modules by their
positions, so that a module is known by its id.
-/

namespace IssueReport.Project

def Numbered (project : Project) : Prop :=
  ∀ (position : Nat) (module : Module),
    project.modules[position]? = some module → module.id = ⟨position⟩

theorem numbered_ofSource (location : Location) : (ofSource location).Numbered := by
  intro position module found
  cases position with
  | zero =>
      have same : _ = module := Option.some.inj found
      rw [← same]
  | succ position => simp [ofSource] at found

theorem numbered_ofPackage (tree : FileTree) (root : Location) :
    (ofPackage tree root).Numbered := by
  intro position module found
  cases position with
  | zero =>
      have same : _ = module := Option.some.inj found
      rw [← same]
  | succ position =>
      simp only [ofPackage, packageModules, List.getElem?_cons_succ, List.getElem?_mapIdx,
        Option.map_eq_some_iff] at found
      obtain ⟨name, _named, same⟩ := found
      rw [← same]

/-- Only a directory holds a manifest. -/
theorem directory_of_manifest {tree : FileTree} {root : Location}
    (holds : tree.isFile root manifest = true) :
    tree.node? root = some .directory := by
  obtain ⟨_, location, _, resolved, _⟩ := FileTree.isFile_iff.mp holds
  obtain ⟨_, _, links, _, leads⟩ := FileTree.resolve_eq_ok.mp resolved
  exact leads.directory_of_ne_nil (Path.steps_ne_nil manifest)

theorem loadPackage_eq_ok {tree : FileTree} {root : Location} {project : Project} :
    loadPackage tree root = .ok project ↔
      tree.isFileIn root manifest = true ∧ unlisted? tree root = none ∧
        project = ofPackage tree root := by
  unfold loadPackage
  by_cases holds : tree.isFileIn root manifest = true
  · rw [if_pos holds]
    cases unlisted : unlisted? tree root <;> simp [holds, eq_comm]
  · rw [if_neg holds]
    simp [holds]

/-- A path that is loaded leads to a source, or else to a directory with a manifest. -/
theorem cases_of_load {tree : FileTree} {here : Location} {path : String} {project : Project}
    (loaded : load tree here path = .ok project) :
    ∃ location, tree.resolve here path = .ok location ∧
      ((∃ content, tree.node? location = some (.file content)) ∧ project = ofSource location ∨
        tree.node? location = some .directory ∧
          tree.isFile location manifest = true ∧ project = ofPackage tree location) := by
  unfold load at loaded
  split at loaded
  · cases loaded
  · rename_i location found
    refine ⟨location, FileTree.resolve_of_canonicalize found, ?_⟩
    split at loaded
    · rename_i content held
      split at loaded
      · cases loaded
        exact .inl ⟨⟨content, FileTree.node?_of_nodeAt? held⟩, rfl⟩
      · cases loaded
    · cases package : loadPackage tree location with
      | error fault =>
          rw [package] at loaded
          cases loaded
      | ok found =>
          rw [package] at loaded
          cases loaded
          obtain ⟨holds, -, same⟩ := loadPackage_eq_ok.mp package
          have manifested := (FileTree.isFileIn_iff.mp holds).2
          exact .inr ⟨directory_of_manifest manifested, manifested, same⟩

theorem numbered_of_load {tree : FileTree} {here : Location} {path : String} {project : Project}
    (loaded : load tree here path = .ok project) : project.Numbered := by
  obtain ⟨location, -, ⟨-, rfl⟩ | ⟨-, -, rfl⟩⟩ := cases_of_load loaded
  · exact numbered_ofSource location
  · exact numbered_ofPackage tree location

variable {project : Project}

theorem Numbered.eq_of_id_eq (numbered : project.Numbered) {left right : Module}
    (leftMember : left ∈ project.modules) (rightMember : right ∈ project.modules)
    (same : left.id = right.id) : left = right := by
  obtain ⟨leftPosition, leftAt⟩ := List.getElem?_of_mem leftMember
  obtain ⟨rightPosition, rightAt⟩ := List.getElem?_of_mem rightMember
  have positions : leftPosition = rightPosition := by
    have ids := (numbered _ _ leftAt).symm.trans (same.trans (numbered _ _ rightAt))
    exact congrArg ModuleId.index ids
  rw [positions, rightAt] at leftAt
  exact (Option.some.inj leftAt).symm

theorem Numbered.ids_nodup (numbered : project.Numbered) :
    (project.modules.map (·.id)).Nodup := by
  rw [List.nodup_iff_pairwise_ne, List.pairwise_iff_getElem]
  intro first second firstBound secondBound before same
  rw [List.length_map] at firstBound secondBound
  rw [List.getElem_map, List.getElem_map] at same
  have firstId := numbered first _ (List.getElem?_eq_getElem firstBound)
  have secondId := numbered second _ (List.getElem?_eq_getElem secondBound)
  have ids := firstId.symm.trans (same.trans secondId)
  exact Nat.ne_of_lt before (congrArg ModuleId.index ids)

end IssueReport.Project
