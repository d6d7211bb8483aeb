import IssueReport.Proofs.Project.Enumeration
/-!
Where the documents of a loaded project stand. Every document has its position as its id and lies
below the root of the project; what is seen of it from the root is its path without that of the root.
-/

namespace IssueReport

namespace Project

def documents (project : Project) : List Document :=
  project.modules.flatMap (·.documents)

structure Placed (project : Project) : Prop where
  modules : project.Numbered
  documents : ∀ module ∈ project.modules, ∀ (position : Nat) (document : Document),
    module.documents[position]? = some document → document.id = ⟨module.id, position⟩
  below : ∀ module ∈ project.modules, ∀ document ∈ module.documents,
    ∃ names, names ≠ [] ∧ document.location = project.root ++ names

theorem placed_ofSource {location : Location} (below : location ≠ []) :
    (ofSource location).Placed where
  modules := numbered_ofSource location
  documents := by
    intro module member position document found
    rw [List.mem_singleton.mp member] at found ⊢
    cases position with
    | zero => rw [← Option.some.inj found]
    | succ position => cases found
  below := by
    intro module member document inModule
    rw [List.mem_singleton.mp member] at inModule
    rw [List.mem_singleton.mp inModule]
    refine ⟨[location.getLast below], List.cons_ne_nil _ _, ?_⟩
    exact (List.dropLast_append_getLast below).symm

theorem HasModules.lists {tree : FileTree} {root : Location} {default : Module}
    {names : List String} {others : List Module}
    (modules : HasModules tree root default names others) {module : Module}
    (member : module ∈ default :: others) :
    ∃ directory above, Lists tree directory (root ++ above) module := by
  rcases List.mem_cons.mp member with here | later
  · rw [here]
    refine ⟨root, [], ?_⟩
    rw [List.append_nil]
    exact modules.default_lists
  · obtain ⟨_, -, found⟩ := exists_name_of_mem modules.each later
    obtain ⟨_, -, -, lists⟩ := found.lists
    exact ⟨_, _, lists⟩

theorem placed_ofPackage (tree : FileTree) (root : Location) : (ofPackage tree root).Placed := by
  obtain ⟨default, names, others, all, modules⟩ := hasModules_packageModules tree root
  refine ⟨numbered_ofPackage tree root, ?_, ?_⟩
  · intro module member
    have listed : module ∈ default :: others := all ▸ member
    obtain ⟨_, _, lists⟩ := modules.lists listed
    exact lists.numbered
  · intro module member document inModule
    have listed : module ∈ default :: others := all ▸ member
    obtain ⟨_, above, lists⟩ := modules.lists listed
    refine ⟨above ++ [document.name], List.concat_ne_nil _ _, ?_⟩
    rw [← List.append_assoc]
    exact lists.located document inModule

theorem placed_of_load {tree : FileTree} {here : Location} {path : String} {project : Project}
    (loaded : load tree here path = .ok project) : project.Placed := by
  obtain ⟨location, -, ⟨⟨content, found⟩, rfl⟩ | ⟨-, -, rfl⟩⟩ := cases_of_load loaded
  · apply placed_ofSource
    intro atRoot
    rw [atRoot] at found
    cases found
  · exact placed_ofPackage tree location

/-! ### Ids -/

variable {project : Project}

theorem Placed.eq_of_document_id_eq (placed : project.Placed) {left right : Document}
    (leftMember : left ∈ project.documents) (rightMember : right ∈ project.documents)
    (same : left.id = right.id) : left = right := by
  obtain ⟨leftModule, leftModuleMember, inLeft⟩ := List.mem_flatMap.mp leftMember
  obtain ⟨rightModule, rightModuleMember, inRight⟩ := List.mem_flatMap.mp rightMember
  obtain ⟨leftPosition, leftAt⟩ := List.getElem?_of_mem inLeft
  obtain ⟨rightPosition, rightAt⟩ := List.getElem?_of_mem inRight
  rw [placed.documents leftModule leftModuleMember leftPosition left leftAt,
    placed.documents rightModule rightModuleMember rightPosition right rightAt,
    DocumentId.mk.injEq] at same
  have modules := placed.modules.eq_of_id_eq leftModuleMember rightModuleMember same.1
  rw [modules, same.2, rightAt] at leftAt
  exact (Option.some.inj leftAt).symm

/-! ### Paths -/

theorem seenPath_of_location {document : Document} {names : Location}
    (located : document.location = project.root ++ names) :
    project.seenPath document = .relative names := by
  unfold seenPath
  rw [Location.below?_eq_some_iff.mpr located.symm]

/-- The path of a document is that of the root, a slash, and what is seen from the root. -/
theorem Placed.toList_path (placed : project.Placed) {document : Document}
    (member : document ∈ project.documents) :
    document.path.toList =
      (project.root.flatMap fun name => '/' :: name.toList) ++
        '/' :: (project.seenPath document).text.toList := by
  obtain ⟨module, moduleMember, inModule⟩ := List.mem_flatMap.mp member
  obtain ⟨names, nonempty, located⟩ := placed.below module moduleMember document inModule
  have seen := seenPath_of_location located
  have below : project.root ++ names ≠ [] :=
    fun nothing => nonempty (List.append_eq_nil_iff.mp nothing).2
  rw [seen, SeenPath.text, Path.toList_intercalate nonempty, ← List.flatMap_append, Document.path,
    located, Location.toList_text below]

/-- Documents with one path are seen alike. -/
theorem Placed.seenPath_of_path_eq (placed : project.Placed) {left right : Document}
    (leftMember : left ∈ project.documents) (rightMember : right ∈ project.documents)
    (same : left.path = right.path) :
    (project.seenPath left).text = (project.seenPath right).text := by
  have characters := congrArg String.toList same
  rw [placed.toList_path leftMember, placed.toList_path rightMember] at characters
  have seen := List.append_cancel_left characters
  rw [List.cons.injEq] at seen
  exact String.toList_inj.mp seen.2

end Project

end IssueReport
