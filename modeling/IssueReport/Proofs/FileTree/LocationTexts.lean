import IssueReport.Proofs.FileTree.Grounded
import IssueReport.Proofs.FileTree.Steps
/-!
Paths of locations. In a tree whose names are those that nodes can have, the path of a location has
its names, and the path of a place below it is joined to it by a slash. Edits leave such a tree so.
-/

namespace IssueReport

structure IsNodeName (name : String) : Prop where
  nonempty : name ≠ ""
  notHere : name ≠ "."
  slashFree : '/' ∉ name.toList

def Location.WellNamed (location : Location) : Prop :=
  ∀ name ∈ location, IsNodeName name

/-- Every node has a name that nodes can have, and so have the directories above it. -/
def FileTree.WellNamed (tree : FileTree) : Prop :=
  ∀ entry ∈ tree.entries, Location.WellNamed entry.1

instance (name : String) : Decidable (IsNodeName name) :=
  decidable_of_iff (name ≠ "" ∧ name ≠ "." ∧ '/' ∉ name.toList)
    ⟨fun ⟨nonempty, notHere, slashFree⟩ => ⟨nonempty, notHere, slashFree⟩,
      fun named => ⟨named.nonempty, named.notHere, named.slashFree⟩⟩

instance (tree : FileTree) : Decidable tree.WellNamed :=
  inferInstanceAs (Decidable (∀ entry ∈ tree.entries, ∀ name ∈ entry.1, IsNodeName name))

theorem IsNodeName.moves {name : String} (named : IsNodeName name) :
    Path.isIdle name.toList = false := by
  have characters : name.toList ≠ [] :=
    fun nothing => named.nonempty (String.toList_eq_nil_iff.mp nothing)
  have notDot : name.toList ≠ ['.'] := fun dot => named.notHere (String.toList_inj.mp dot)
  rw [Path.isIdle, decide_eq_false characters, decide_eq_false notDot]
  rfl

/-- Every step of a path that is not on the spot is a name for a node. -/
theorem isNodeName_of_mem_steps {path step : String} (member : step ∈ Path.steps path)
    (notHere : step ≠ ".") : IsNodeName step := by
  have inTrail : step ∈ Path.trail path := by
    rw [Path.steps_eq, List.mem_append] at member
    rcases member with inside | last
    · exact inside
    · split at last
      · exact absurd (List.mem_singleton.mp last) notHere
      · cases last
  obtain ⟨piece, kept, same⟩ := List.mem_map.mp inTrail
  obtain ⟨inPieces, nonempty⟩ := List.mem_filter.mp kept
  have characters : step.toList = piece := by rw [← same, String.toList_ofList]
  refine ⟨?_, notHere, ?_⟩
  · intro nothing
    rw [nothing] at characters
    exact of_decide_eq_true nonempty characters.symm
  · rw [characters]
    exact Path.slashFree_of_mem_pieces inPieces

namespace FileTree

theorem WellNamed.slashFree {tree : FileTree} (named : tree.WellNamed) : tree.SlashFree :=
  fun entry member name inside => (named entry member name inside).slashFree

theorem WellNamed.of_node {tree : FileTree} (named : tree.WellNamed) {location : Location}
    (present : (tree.node? location).isSome) : location.WellNamed :=
  forall_names_of_node named present

/-! ### Edits -/

variable {tree edited : FileTree} {here place : Location} {path : String} {node : Node}

theorem WellNamed.insert (named : tree.WellNamed) (placeNamed : place.WellNamed) :
    (tree.insert place node).WellNamed := by
  intro entry member
  rcases List.mem_cons.mp member with new | kept
  · rw [new]
    exact placeNamed
  · exact named entry (List.mem_of_mem_filter kept)

theorem WellNamed.erase (named : tree.WellNamed) : (tree.erase place).WellNamed :=
  fun entry member => named entry (List.mem_of_mem_filter member)

/-- The place of a path is in a directory of the tree and has a name that the path says. -/
theorem WellNamed.of_placeOf? (named : tree.WellNamed)
    (placed : tree.placeOf? here path = some place) : place.WellNamed := by
  obtain ⟨before, last, directory, taken, notHere, isDirectory, same⟩ := exists_of_placeOf? placed
  have lastNamed := isNodeName_of_mem_steps (taken ▸ List.mem_concat_self) notHere
  have above := named.of_node (Option.isSome_of_eq_some isDirectory)
  intro name member
  rw [same] at member
  rcases List.mem_append.mp member with inside | here
  · exact above name inside
  · rw [List.mem_singleton.mp here]
    exact lastNamed

theorem WellNamed.write? (named : tree.WellNamed) {content : List UInt8}
    (written : tree.write? here path content = some edited) : edited.WellNamed := by
  unfold FileTree.write? at written
  split at written
  · cases written
  · rename_i _ found
    obtain ⟨_, _, placed⟩ := exists_of_targetOf? found
    split at written
    · cases written
    · cases written
      exact named
    · cases written
      exact named.insert (named.of_placeOf? placed)

theorem WellNamed.remove? (named : tree.WellNamed)
    (removed : tree.remove? here path = some edited) : edited.WellNamed := by
  unfold FileTree.remove? at removed
  split at removed
  · cases removed
  · split at removed
    · cases removed
    · cases removed
    · cases removed
      exact named.erase

theorem WellNamed.link? (named : tree.WellNamed) {target : String}
    (linked : tree.link? here path target = some edited) : edited.WellNamed := by
  unfold FileTree.link? at linked
  split at linked
  · cases linked
  · rename_i _ placed
    split at linked
    · cases linked
      exact named.insert (named.of_placeOf? placed)
    · cases linked

end FileTree

namespace Location

variable {root location names : Location}

theorem WellNamed.slashFree (named : location.WellNamed) : location.SlashFree :=
  fun name member => (named name member).slashFree

/-- The names of the path of a location are those on the way to it. -/
theorem names_text (named : location.WellNamed) :
    Path.names location.text = location.map String.toList := by
  rw [Path.names_eq]
  by_cases below : location = []
  · rw [below]
    rfl
  · have moving : ∀ piece ∈ location.map String.toList, (!Path.isIdle piece) = true := by
      intro piece member
      obtain ⟨name, nameMember, same⟩ := List.mem_map.mp member
      rw [← same, (named name nameMember).moves]
      rfl
    rw [toList_text below, Path.pieces_flatMap named.slashFree, List.filter_cons_of_neg (by decide),
      List.filter_eq_self.mpr moving]

theorem isAbsolute_text (location : Location) : Path.isAbsolute location.text = true := by
  unfold Path.isAbsolute
  cases location with
  | nil => rfl
  | cons name location =>
      rw [toList_text (List.cons_ne_nil name location)]
      rfl

/-- What is seen below a root does not start with a slash. -/
theorem isAbsolute_intercalate (named : names.WellNamed) :
    Path.isAbsolute (String.intercalate "/" names) = false := by
  unfold Path.isAbsolute
  rw [decide_eq_false_iff_not]
  intro starts
  cases names with
  | nil => simp at starts
  | cons name names =>
      obtain ⟨nonempty, -, slashFree⟩ := named name List.mem_cons_self
      obtain ⟨first, rest, same⟩ := List.exists_cons_of_ne_nil
        (fun nothing => nonempty (String.toList_eq_nil_iff.mp nothing))
      have characters := Path.toList_intercalate (List.cons_ne_nil name names)
      rw [List.flatMap_cons, same, List.cons_append, List.cons_append, List.cons.injEq] at characters
      rw [characters.2, List.head?_cons] at starts
      rw [same, Option.some.inj starts] at slashFree
      exact slashFree List.mem_cons_self

theorem getLast?_text (below : location ≠ []) (named : location.WellNamed) :
    location.text.toList.getLast? ≠ some '/' := by
  obtain ⟨before, last, same⟩ : ∃ before last, location = before ++ [last] :=
    ⟨_, _, (List.dropLast_append_getLast below).symm⟩
  obtain ⟨nonempty, -, slashFree⟩ := named last (same ▸ List.mem_concat_self)
  have characters : last.toList ≠ [] := fun nothing => nonempty (String.toList_eq_nil_iff.mp nothing)
  rw [toList_text below, same, List.flatMap_append, List.flatMap_singleton,
    List.getLast?_append_of_ne_nil _ (List.cons_ne_nil _ _), List.getLast?_cons_of_ne_nil characters]
  intro slash
  exact slashFree (List.mem_of_getLast? slash)

/-- The path of a root joined with what is seen below it is the path of the place. -/
theorem join_intercalate (rootNamed : root.WellNamed) (named : names.WellNamed) (below : names ≠ []) :
    Path.join root.text (String.intercalate "/" names) = Location.text (root ++ names) := by
  have nonempty : root ++ names ≠ [] := fun nothing => below (List.append_eq_nil_iff.mp nothing).2
  unfold Path.join
  rw [isAbsolute_intercalate named]
  rw [← String.toList_inj, toList_text nonempty, List.flatMap_append, ← Path.toList_intercalate below]
  by_cases atTop : root = []
  · rw [atTop, if_neg (by decide), if_pos (by decide), String.toList_append]
    rfl
  · have someText : root.text ≠ "" := by
      intro nothing
      have absolute := isAbsolute_text root
      rw [nothing] at absolute
      cases absolute
    rw [Bool.false_or, decide_eq_false someText, if_neg Bool.false_ne_true,
      if_neg (getLast?_text atTop rootNamed), String.toList_append, String.toList_append,
      toList_text atTop, List.append_assoc]
    rfl

end Location

end IssueReport
