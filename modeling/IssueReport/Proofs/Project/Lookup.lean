import IssueReport.Proofs.Project.Placement
/-!
Looking up modules and documents by their ids. In a loaded project an id is a position, so a look-up
finds what carries the id; in another project it finds what stands at the same position there, if
anything does.
-/

namespace IssueReport

def Module.documentIds (module : Module) : List DocumentId :=
  module.documents.map (·.id)

/-- A module answers an id only if it is the module of that id, and then by position. -/
theorem Module.document?_eq_some {module : Module} {id : DocumentId} {document : Document} :
    module.document? id = some document ↔
      id.module = module.id ∧ module.documents[id.index]? = some document := by
  unfold Module.document?
  by_cases same : id.module = module.id
  · rw [if_pos same, and_iff_right same]
  · rw [if_neg same]
    simp [same]

namespace Project

variable {project : Project}

theorem Numbered.document?_eq (numbered : project.Numbered) (id : DocumentId) :
    project.document? id =
      (project.modules[id.module.index]?).bind fun module => module.documents[id.index]? := by
  unfold document? module?
  cases found : project.modules[id.module.index]? with
  | none => rfl
  | some module =>
      have same : id.module = module.id := (numbered _ _ found).symm
      rw [Option.bind_some, Option.bind_some, Module.document?, if_pos same]

theorem Numbered.eq_position (numbered : project.Numbered) {position : Nat} {module : Module}
    {id : DocumentId} {document : Document} (found : project.modules[position]? = some module)
    (answered : module.document? id = some document) :
    id.module.index = position ∧ module.documents[id.index]? = some document := by
  obtain ⟨same, held⟩ := Module.document?_eq_some.mp answered
  rw [numbered position module found] at same
  exact ⟨congrArg ModuleId.index same, held⟩

theorem Placed.documentIds_nodup (placed : project.Placed) {module : Module}
    (member : module ∈ project.modules) : module.documentIds.Nodup := by
  rw [List.nodup_iff_pairwise_ne, List.pairwise_iff_getElem]
  intro first second firstBound secondBound before same
  simp only [Module.documentIds, List.length_map] at firstBound secondBound
  simp only [Module.documentIds, List.getElem_map] at same
  rw [placed.documents module member first _ (List.getElem?_eq_getElem firstBound),
    placed.documents module member second _ (List.getElem?_eq_getElem secondBound),
    DocumentId.mk.injEq] at same
  omega

theorem Placed.allIds_nodup (placed : project.Placed) :
    (project.modules.flatMap Module.documentIds).Nodup := by
  rw [List.nodup_flatMap]
  refine ⟨fun module member => placed.documentIds_nodup member, ?_⟩
  have distinct := placed.modules.ids_nodup
  rw [List.nodup_iff_pairwise_ne, List.pairwise_map] at distinct
  apply List.Pairwise.imp_of_mem _ distinct
  intro left right leftMember rightMember different id inLeft inRight
  -- the id of a document names its module
  have owner : ∀ module ∈ project.modules, id ∈ module.documentIds → id.module = module.id := by
    intro module member inside
    obtain ⟨document, documentMember, same⟩ := List.mem_map.mp inside
    obtain ⟨position, found⟩ := List.getElem?_of_mem documentMember
    rw [← same, placed.documents module member position document found]
  exact different ((owner left leftMember inLeft).symm.trans (owner right rightMember inRight))

/-! ### One project -/

/-- The ids in a project are positions, and looking them up gives what carries them. -/
structure KnownByPosition (project : Project) : Prop where
  moduleId : ∀ (position : Nat) (module : Module),
    project.modules[position]? = some module → module.id = ⟨position⟩
  documentId : ∀ (position index : Nat) (module : Module) (document : Document),
    project.modules[position]? = some module → module.documents[index]? = some document →
      document.id = ⟨⟨position⟩, index⟩
  modulesDistinct : (project.modules.map (·.id)).Nodup
  documentsDistinct : (project.modules.flatMap Module.documentIds).Nodup
  moduleFound : ∀ module ∈ project.modules, project.module? module.id = some module
  documentFound : ∀ module ∈ project.modules, ∀ document ∈ module.documents,
    project.document? document.id = some document

theorem Placed.knownByPosition (placed : project.Placed) : project.KnownByPosition := by
  have documentId : ∀ (position index : Nat) (module : Module) (document : Document),
      project.modules[position]? = some module → module.documents[index]? = some document →
        document.id = ⟨⟨position⟩, index⟩ := by
    intro position index module document moduleFound documentFound
    rw [placed.documents module (List.mem_of_getElem? moduleFound) index document documentFound,
      placed.modules position module moduleFound]
  refine ⟨placed.modules, documentId, placed.modules.ids_nodup, placed.allIds_nodup, ?_, ?_⟩
  · intro module member
    obtain ⟨position, found⟩ := List.getElem?_of_mem member
    rw [placed.modules position module found]
    exact found
  · intro module member document inModule
    obtain ⟨position, moduleFound⟩ := List.getElem?_of_mem member
    obtain ⟨index, documentFound⟩ := List.getElem?_of_mem inModule
    rw [documentId position index module document moduleFound documentFound,
      placed.modules.document?_eq, moduleFound]
    exact documentFound

/-! ### Two projects -/

/-- What a project answers to the ids of the documents of another: what is at the same positions. -/
structure AnswersByPosition (asking answering : Project) : Prop where
  whole : ∀ (position index : Nat) (module : Module) (document : Document),
    asking.modules[position]? = some module → module.documents[index]? = some document →
      answering.document? document.id =
        (answering.modules[position]?).bind fun other => other.documents[index]?
  single : ∀ (position index : Nat) (module : Module) (document : Document),
    asking.modules[position]? = some module → module.documents[index]? = some document →
      ∀ (place : Nat) (other : Module) (answer : Document),
        answering.modules[place]? = some other → other.document? document.id = some answer →
          place = position ∧ other.documents[index]? = some answer

theorem KnownByPosition.answers {asking answering : Project} (known : asking.KnownByPosition)
    (numbered : answering.Numbered) : AnswersByPosition asking answering where
  whole := by
    intro position index module document moduleFound documentFound
    rw [known.documentId position index module document moduleFound documentFound,
      numbered.document?_eq]
  single := by
    intro position index module document moduleFound documentFound place other answer otherFound
      answered
    rw [known.documentId position index module document moduleFound documentFound] at answered
    obtain ⟨same, held⟩ := numbered.eq_position otherFound answered
    exact ⟨same.symm, held⟩

end Project

end IssueReport
