import IssueReport.FileTree.Resolve
import IssueReport.Proofs.FileTree.Paths
import Mathlib.Data.List.Nodup
import Mathlib.Data.String.Basic
/-!
Names in file trees. What a tree answers depends on the nodes at its locations and on nothing else;
in particular the names in a directory are those of its nodes in ascending order, whatever the order
of the entries.
-/

namespace IssueReport.FileTree

/-! ### Ascending names -/

theorem mem_insertName {name other : String} {names : List String} :
    other ∈ insertName name names ↔ other = name ∨ other ∈ names := by
  induction names with
  | nil => simp only [insertName, List.mem_singleton, List.not_mem_nil, or_false]
  | cons first names ih =>
      unfold insertName
      by_cases before : name < first
      · rw [if_pos before, List.mem_cons]
      · rw [if_neg before]
        by_cases same : name = first
        · rw [if_pos same, same, List.mem_cons, or_self_left]
        · rw [if_neg same, List.mem_cons, List.mem_cons, ih, or_left_comm]

theorem insertName_ascending {name : String} {names : List String}
    (ascending : names.Pairwise (· < ·)) : (insertName name names).Pairwise (· < ·) := by
  induction names with
  | nil => exact List.pairwise_singleton _ name
  | cons first names ih =>
      obtain ⟨above, rest⟩ := List.pairwise_cons.mp ascending
      unfold insertName
      by_cases before : name < first
      · rw [if_pos before]
        apply List.pairwise_cons.mpr
        refine ⟨?_, ascending⟩
        intro other member
        rcases List.mem_cons.mp member with here | later
        · rw [here]
          exact before
        · exact before.trans (above other later)
      · rw [if_neg before]
        by_cases same : name = first
        · rw [if_pos same]
          exact ascending
        · rw [if_neg same]
          apply List.pairwise_cons.mpr
          refine ⟨?_, ih rest⟩
          intro other member
          rcases mem_insertName.mp member with here | later
          · rw [here]
            exact lt_of_le_of_ne (not_lt.mp before) (Ne.symm same)
          · exact above other later

theorem mem_foldr_insertName {name : String} {names : List String} :
    name ∈ names.foldr insertName [] ↔ name ∈ names := by
  induction names with
  | nil => rfl
  | cons first names ih => rw [List.foldr_cons, mem_insertName, ih, List.mem_cons]

theorem foldr_insertName_ascending (names : List String) :
    (names.foldr insertName []).Pairwise (· < ·) := by
  induction names with
  | nil => exact List.Pairwise.nil
  | cons first names ih => exact insertName_ascending ih

/-- Lists of names that ascend are the same if they have the same names. -/
theorem eq_of_ascending {first second : List String} (firstAscending : first.Pairwise (· < ·))
    (secondAscending : second.Pairwise (· < ·)) (same : ∀ name, name ∈ first ↔ name ∈ second) :
    first = second := by
  have permuted : first.Perm second := by
    apply (List.perm_ext_iff_of_nodup _ _).mpr same
    · exact firstAscending.imp ne_of_lt
    · exact secondAscending.imp ne_of_lt
  apply permuted.eq_of_pairwise _ firstAscending secondAscending
  intro left right _ _ before after
  exact absurd (before.trans after) (lt_irrefl left)

/-! ### The names in a directory -/

theorem nameIn?_eq_some_iff {directory location : Location} {name : String} :
    nameIn? directory location = some name ↔ location = directory ++ [name] := by
  unfold nameIn?
  constructor
  · intro found
    by_cases inside : location.dropLast = directory
    · rw [if_pos inside] at found
      obtain ⟨before, same⟩ := List.getLast?_eq_some_iff.mp found
      rw [same, List.dropLast_concat] at inside
      rw [same, inside]
    · rw [if_neg inside] at found
      cases found
  · intro same
    rw [same, List.dropLast_concat, if_pos rfl, List.getLast?_concat]

theorem node?_isSome_iff {tree : FileTree} {location : Location} (below : location ≠ []) :
    (tree.node? location).isSome ↔ ∃ entry ∈ tree.entries, entry.1 = location := by
  rw [node?, if_neg below, Option.isSome_map, List.find?_isSome]
  simp only [decide_eq_true_eq]

theorem mem_of_node? {tree : FileTree} {location : Location} {node : Node} (below : location ≠ [])
    (found : tree.node? location = some node) : (location, node) ∈ tree.entries := by
  rw [node?, if_neg below, Option.map_eq_some_iff] at found
  obtain ⟨entry, first, holds⟩ := found
  have key : entry.1 = location := by simpa using List.find?_some first
  rw [← key, ← holds]
  exact List.mem_of_find?_eq_some first

theorem mem_namesIn {tree : FileTree} {directory : Location} {name : String} :
    name ∈ tree.namesIn directory ↔ (tree.node? (directory ++ [name])).isSome := by
  rw [namesIn, mem_foldr_insertName, List.mem_filterMap, node?_isSome_iff (by simp)]
  simp only [nameIn?_eq_some_iff]

theorem namesIn_ascending (tree : FileTree) (directory : Location) :
    (tree.namesIn directory).Pairwise (· < ·) :=
  foldr_insertName_ascending _

/-! ### Where paths lead -/

def SlashFree (tree : FileTree) : Prop :=
  ∀ entry ∈ tree.entries, Location.SlashFree entry.1

/-- What holds of all names in a tree holds of the names on the way to a node. -/
theorem forall_names_of_node {tree : FileTree} {good : String → Prop}
    (named : ∀ entry ∈ tree.entries, ∀ name ∈ entry.1, good name) {location : Location}
    (present : (tree.node? location).isSome) : ∀ name ∈ location, good name := by
  by_cases below : location = []
  · rw [below]
    intro name member
    cases member
  · obtain ⟨entry, member, same⟩ := (node?_isSome_iff below).mp present
    rw [← same]
    exact named entry member

theorem SlashFree.of_node {tree : FileTree} (slashFree : tree.SlashFree) {location : Location}
    (present : (tree.node? location).isSome) : location.SlashFree :=
  forall_names_of_node slashFree present

/-! ### Trees with the same nodes -/

def SameNodes (first second : FileTree) : Prop :=
  ∀ location, first.node? location = second.node? location

section SameNodes

variable {first second : FileTree} (same : first.SameNodes second) (lookup : Lookup)
  (reading : Path.Reading)

include same

theorem SameNodes.namesIn (directory : Location) :
    first.namesIn directory = second.namesIn directory := by
  apply eq_of_ascending (namesIn_ascending first directory) (namesIn_ascending second directory)
  intro name
  rw [mem_namesIn, mem_namesIn, same]

theorem SameNodes.walkWith
    (follow : Location → List String → Except LookupError Location) (place : Location)
    (steps : List String) :
    first.walkWith lookup follow place steps = second.walkWith lookup follow place steps := by
  induction steps generalizing place with
  | nil => rfl
  | cons step steps ih => simp only [FileTree.walkWith, same _, ih]

theorem SameNodes.walkBy (links : Nat) (place : Location) (steps : List String) :
    first.walkBy lookup links place steps = second.walkBy lookup links place steps := by
  -- every link that is followed leaves one link less for the rest of the way
  induction links generalizing place steps with
  | zero => exact SameNodes.walkWith same lookup _ place steps
  | succ links ih =>
      have follow : first.walkBy lookup links = second.walkBy lookup links := by
        funext place steps
        exact ih place steps
      rw [FileTree.walkBy, FileTree.walkBy, follow]
      exact SameNodes.walkWith same lookup _ place steps

theorem SameNodes.resolveBy (here : Location) (path : String) :
    first.resolveBy lookup here path = second.resolveBy lookup here path := by
  unfold FileTree.resolveBy
  rw [SameNodes.walkBy same]

theorem SameNodes.isFileBy (here : Location) (path : String) :
    first.isFileBy reading here path = second.isFileBy reading here path := by
  unfold FileTree.isFileBy FileTree.atBy
  simp only [SameNodes.resolveBy same, same _]

end SameNodes

theorem node?_eq_some_iff {tree : FileTree} (distinct : (tree.entries.map (·.1)).Nodup)
    {location : Location} (below : location ≠ []) {node : Node} :
    tree.node? location = some node ↔ (location, node) ∈ tree.entries := by
  constructor
  · exact mem_of_node? below
  · intro member
    rw [node?, if_neg below, Option.map_eq_some_iff]
    have present : (tree.entries.find? fun entry => entry.1 = location).isSome := by
      rw [List.find?_isSome]
      exact ⟨(location, node), member, decide_eq_true rfl⟩
    obtain ⟨entry, found⟩ := Option.isSome_iff_exists.mp present
    have key : entry.1 = location := by simpa using List.find?_some found
    have same := List.inj_on_of_nodup_map distinct (List.mem_of_find?_eq_some found) member key
    exact ⟨entry, found, congrArg Prod.snd same⟩

/-- The order of the entries does not matter, as long as no two are for one location. -/
theorem sameNodes_of_perm {first second : FileTree} (permuted : first.entries.Perm second.entries)
    (distinct : (first.entries.map (·.1)).Nodup) : first.SameNodes second := by
  have alsoDistinct := (permuted.map (·.1)).nodup_iff.mp distinct
  intro location
  by_cases below : location = []
  · rw [node?, node?, if_pos below, if_pos below]
  · apply Option.ext
    intro node
    rw [node?_eq_some_iff distinct below, node?_eq_some_iff alsoDistinct below, permuted.mem_iff]

end IssueReport.FileTree
