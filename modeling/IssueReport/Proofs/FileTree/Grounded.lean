import IssueReport.FileTree.Edit
import IssueReport.Proofs.FileTree.Names
/-!
Trees in which nothing hangs in the air. Writing and removing files and making links keep every node
in a directory: an edit puts a node where a directory is above it, and takes no directory away.
-/

namespace IssueReport.FileTree

/-- Every node lies in a directory. -/
def Grounded (tree : FileTree) : Prop :=
  ∀ entry ∈ tree.entries, tree.node? entry.1.dropLast = some .directory

variable {tree edited : FileTree} {here location place : Location} {path target : String} {node : Node}

theorem Grounded.directory_dropLast (grounded : tree.Grounded)
    (present : (tree.node? place).isSome) : tree.node? place.dropLast = some .directory := by
  by_cases below : place = []
  · rw [below]
    rfl
  · obtain ⟨entry, member, same⟩ := (node?_isSome_iff below).mp present
    rw [← same]
    exact grounded entry member

/-! ### One node -/

theorem node?_erase_of_ne (other : place ≠ location) :
    (tree.erase location).node? place = tree.node? place := by
  unfold node? erase
  split
  · rfl
  · congr 1
    rw [List.find?_filter]
    congr 1
    funext entry
    by_cases found : entry.1 = place
    · simp [found, other]
    · simp [found]

theorem node?_insert_of_ne (other : place ≠ location) :
    (tree.insert location node).node? place = tree.node? place := by
  have first : (tree.insert location node).node? place = (tree.erase location).node? place := by
    rw [node?, node?, insert, List.find?_cons, decide_eq_false (Ne.symm other)]
    rfl
  rw [first, node?_erase_of_ne other]

theorem Grounded.insert (grounded : tree.Grounded)
    (parent : tree.node? location.dropLast = some .directory)
    (replaces : tree.node? location ≠ some .directory) : (tree.insert location node).Grounded := by
  have kept : ∀ place, tree.node? place = some .directory →
      (tree.insert location node).node? place = some .directory := by
    intro place directory
    have other : place ≠ location := by
      intro same
      rw [same] at directory
      exact replaces directory
    rw [node?_insert_of_ne other, directory]
  intro entry member
  rcases List.mem_cons.mp member with here | there
  · rw [here]
    exact kept _ parent
  · exact kept _ (grounded entry (List.mem_of_mem_filter there))

theorem Grounded.erase (grounded : tree.Grounded)
    (removes : tree.node? location ≠ some .directory) : (tree.erase location).Grounded := by
  intro entry member
  have parent := grounded entry (List.mem_of_mem_filter member)
  have other : entry.1.dropLast ≠ location := by
    intro same
    rw [same] at parent
    exact removes parent
  rw [node?_erase_of_ne other, parent]

/-! ### Edits by paths -/

theorem exists_of_placeOf? (placed : tree.placeOf? here path = some place) :
    ∃ before last directory, Path.steps path = before ++ [last] ∧ last ≠ "." ∧
      tree.node? directory = some .directory ∧ place = directory ++ [last] := by
  unfold placeOf? at placed
  split at placed
  · cases placed
  · rename_i before last taken
    split at placed
    · cases placed
    · rename_i directory _
      split at placed
      · cases placed
      · rename_i allowed
        cases placed
        simp only [Bool.or_eq_true, decide_eq_true_eq, not_or, not_not] at allowed
        refine ⟨before, last, directory, ?_, allowed.1.2, allowed.1.1, rfl⟩
        unfold splitLast? at taken
        split at taken
        · rename_i reversed
          cases taken
          rw [← List.reverse_cons, ← reversed, List.reverse_reverse]
        · cases taken

/-- Where links at the last step lead is the place of some path. -/
theorem exists_of_targetOf? {links : Nat} (found : tree.targetOf? links here path = some place) :
    ∃ elsewhere other, tree.placeOf? elsewhere other = some place := by
  -- every link that is followed leaves one link less
  induction links generalizing here path with
  | zero => cases found
  | succ links ih =>
      unfold targetOf? at found
      split at found
      · cases found
      · rename_i _ placed
        split at found
        · exact ih found
        · cases found
          exact ⟨here, path, placed⟩

theorem directory_of_placeOf? (placed : tree.placeOf? here path = some place) :
    tree.node? place.dropLast = some .directory := by
  obtain ⟨_, _, directory, -, -, isDirectory, same⟩ := exists_of_placeOf? placed
  rw [same, List.dropLast_concat]
  exact isDirectory

theorem Grounded.write? (grounded : tree.Grounded) {content : List UInt8}
    (written : tree.write? here path content = some edited) : edited.Grounded := by
  unfold FileTree.write? at written
  split at written
  · cases written
  · rename_i _ found
    split at written
    · cases written
    · cases written
      exact grounded
    · rename_i noDirectory _
      cases written
      obtain ⟨_, _, placed⟩ := exists_of_targetOf? found
      exact grounded.insert (directory_of_placeOf? placed) noDirectory

theorem Grounded.remove? (grounded : tree.Grounded)
    (removed : tree.remove? here path = some edited) : edited.Grounded := by
  unfold FileTree.remove? at removed
  split at removed
  · cases removed
  · split at removed
    · cases removed
    · cases removed
    · rename_i _ other held
      cases removed
      apply grounded.erase
      rw [held]
      intro directory
      cases directory
      exact other rfl

theorem Grounded.link? (grounded : tree.Grounded)
    (linked : tree.link? here path target = some edited) : edited.Grounded := by
  unfold FileTree.link? at linked
  split at linked
  · cases linked
  · rename_i _ placed
    split at linked
    · rename_i free
      cases linked
      apply grounded.insert (directory_of_placeOf? placed)
      rw [free]
      exact fun impossible => by cases impossible
    · cases linked

end IssueReport.FileTree
