import IssueReport.Proofs.FileTree.Paths
/-!
Steps of paths. A path takes the pieces between its slashes one after the other, and its last name
is its last step where that is a name.
-/

namespace IssueReport

namespace Path

/-! ### Pieces -/

theorem pieces_ne_nil (characters : List Char) : pieces characters ≠ [] := by
  cases characters with
  | nil => exact List.cons_ne_nil _ _
  | cons first rest =>
      unfold pieces
      split
      · exact List.cons_ne_nil _ _
      · split <;> exact List.cons_ne_nil _ _

theorem pieces_append_slash (before after : List Char) :
    pieces (before ++ '/' :: after) = pieces before ++ pieces after := by
  induction before with
  | nil => rfl
  | cons first before ih =>
      rw [List.cons_append, pieces, ih, pieces]
      by_cases slash : first = '/'
      · rw [if_pos slash, if_pos slash, List.cons_append]
      · rw [if_neg slash, if_neg slash]
        cases cut : pieces before with
        | nil => exact absurd cut (pieces_ne_nil before)
        | cons piece others => rfl

theorem pieces_of_slashFree {name : List Char} (slashFree : '/' ∉ name) : pieces name = [name] := by
  have whole := pieces_append slashFree (rfl : pieces [] = [[]])
  rw [List.append_nil] at whole
  exact whole

theorem slashFree_of_mem_pieces {characters piece : List Char} (member : piece ∈ pieces characters) :
    '/' ∉ piece := by
  induction characters generalizing piece with
  | nil =>
      rw [List.mem_singleton.mp member]
      exact List.not_mem_nil
  | cons first rest ih =>
      rw [pieces] at member
      split at member
      · rcases List.mem_cons.mp member with here | later
        · rw [here]
          exact List.not_mem_nil
        · exact ih later
      · rename_i other
        split at member
        · rw [List.mem_singleton.mp member]
          simpa using Ne.symm other
        · rename_i next others cut
          rcases List.mem_cons.mp member with here | later
          · have free := ih (cut ▸ List.mem_cons_self)
            rw [here, List.mem_cons, not_or]
            exact ⟨Ne.symm other, free⟩
          · exact ih (cut ▸ List.mem_cons_of_mem next later)

/-- The steps of a path without the one on the spot for a slash at its end. -/
def trail (path : String) : List String :=
  ((pieces path.toList).filter (· ≠ [])).map String.ofList

theorem steps_eq (path : String) :
    steps path =
      trail path ++ if (pieces path.toList).getLast? = some [] then ["."] else [] := by
  unfold steps trail
  rw [List.map_append]
  congr 1
  split <;> rfl

section Join

variable {directory name : String} (nonempty : directory ≠ "") (slashFree : '/' ∉ name.toList)

include nonempty slashFree

theorem join_of_slashFree :
    join directory name =
      if directory.toList.getLast? = some '/' then directory ++ name
      else directory ++ "/" ++ name := by
  have relative : isAbsolute name = false := by
    unfold isAbsolute
    rw [decide_eq_false_iff_not]
    intro starts
    exact slashFree (List.mem_of_head? starts)
  unfold join
  rw [relative, Bool.false_or, decide_eq_false nonempty, if_neg Bool.false_ne_true]

/-- A name in a directory is taken after the steps to the directory. -/
theorem steps_join (named : name ≠ "") :
    steps (join directory name) = trail directory ++ [name] := by
  have alone := pieces_of_slashFree slashFree
  have characters : name.toList ≠ [] := fun none => named (String.toList_eq_nil_iff.mp none)
  have taken : ∀ start, (pieces start ++ [name.toList]).filter (· ≠ []) =
      (pieces start).filter (· ≠ []) ++ [name.toList] := by
    intro start
    rw [List.filter_append, List.filter_singleton, decide_eq_true characters]
    rfl
  rw [join_of_slashFree nonempty slashFree, steps_eq]
  by_cases slash : directory.toList.getLast? = some '/'
  · obtain ⟨start, split⟩ := List.getLast?_eq_some_iff.mp slash
    have whole : pieces (directory ++ name).toList = pieces start ++ [name.toList] := by
      rw [String.toList_append, split, List.append_assoc, List.singleton_append,
        pieces_append_slash, alone]
    have before : (pieces directory.toList).filter (· ≠ []) = (pieces start).filter (· ≠ []) := by
      rw [split, pieces_append_slash, List.filter_append]
      exact List.append_nil _
    rw [if_pos slash, whole, List.getLast?_concat, if_neg (by simp [characters]), List.append_nil,
      trail, trail, whole, before, taken, List.map_append, List.map_singleton, String.ofList_toList]
  · have whole : pieces (directory ++ "/" ++ name).toList =
        pieces directory.toList ++ [name.toList] := by
      rw [String.toList_append, String.toList_append, List.append_assoc]
      exact (pieces_append_slash directory.toList name.toList).trans (by rw [alone])
    rw [if_neg slash, whole, List.getLast?_concat, if_neg (by simp [characters]), List.append_nil,
      trail, trail, whole, taken, List.map_append, List.map_singleton, String.ofList_toList]

theorem isAbsolute_join : isAbsolute (join directory name) = isAbsolute directory := by
  obtain ⟨first, rest, same⟩ := List.exists_cons_of_ne_nil
    (fun none => nonempty (String.toList_eq_nil_iff.mp none))
  rw [join_of_slashFree nonempty slashFree]
  unfold isAbsolute
  split <;> simp [same]

theorem mem_join {character : Char} (other : character ≠ '/')
    (absent : character ∉ name.toList) :
    character ∈ (join directory name).toList ↔ character ∈ directory.toList := by
  rw [join_of_slashFree nonempty slashFree]
  split <;> simp [absent, other]

theorem le_utf8ByteSize_join :
    directory.utf8ByteSize + name.utf8ByteSize ≤ (join directory name).utf8ByteSize := by
  rw [join_of_slashFree nonempty slashFree]
  split
  · exact Nat.le_of_eq (String.utf8ByteSize_append ..).symm
  · rw [String.utf8ByteSize_append, String.utf8ByteSize_append]
    omega

theorem join_ne_empty : join directory name ≠ "" := by
  intro nothing
  rw [join_of_slashFree nonempty slashFree] at nothing
  split at nothing <;> simp [nonempty] at nothing

end Join

/-! ### The last step -/

theorem exists_pieces (path : String) :
    ∃ before piece, pieces path.toList = before ++ [piece] :=
  ⟨_, _, (List.dropLast_append_getLast (pieces_ne_nil path.toList)).symm⟩

theorem steps_of_pieces {path : String} {before : List (List Char)} {piece : List Char}
    (split : pieces path.toList = before ++ [piece]) :
    steps path = (before.filter (· ≠ [])).map String.ofList ++
      [if piece = [] then "." else String.ofList piece] := by
  rw [steps_eq, trail, split, List.getLast?_concat, List.filter_append, List.map_append,
    List.filter_singleton, List.append_assoc]
  congr 1
  by_cases nothing : piece = []
  · rw [nothing]
    rfl
  · rw [decide_eq_true nothing, if_neg (by simpa using nothing), if_neg nothing]
    rfl

theorem exists_steps (path : String) : ∃ before last, steps path = before ++ [last] := by
  obtain ⟨before, piece, split⟩ := exists_pieces path
  exact ⟨_, _, steps_of_pieces split⟩

/-- A path takes the piece before its first slash, if there is one, and then the steps behind. -/
theorem steps_of_slash {path rest : String} {piece : List Char}
    (whole : path.toList = piece ++ '/' :: rest.toList) (slashFree : '/' ∉ piece) :
    steps path = (if piece = [] then [] else [String.ofList piece]) ++ steps rest := by
  obtain ⟨before, last, split⟩ := exists_pieces rest
  have pieces_eq : pieces path.toList = (piece :: before) ++ [last] := by
    rw [whole, pieces_append_slash, pieces_of_slashFree slashFree, split]
    rfl
  rw [steps_of_pieces pieces_eq, steps_of_pieces split, ← List.append_assoc]
  congr 1
  by_cases nothing : piece = []
  · rw [if_pos nothing, List.filter_cons_of_neg (by simpa using nothing), List.nil_append]
  · rw [if_neg nothing, List.filter_cons_of_pos (by simpa using nothing), List.map_cons]
    rfl

theorem steps_ne_nil (path : String) : steps path ≠ [] := by
  obtain ⟨before, last, same⟩ := exists_steps path
  rw [same]
  exact List.concat_ne_nil last before

theorem names_eq (path : String) :
    names path = (pieces path.toList).filter fun piece => !isIdle piece := by
  unfold names splitStart
  split
  · rename_i rest same
    rw [same]
    rfl
  · rename_i same
    rw [same]
    rfl
  · rename_i rest same
    rw [same]
    rfl
  · rfl

/-- A last step that is not on the spot is the last piece. -/
theorem exists_last_piece {path last : String} {before : List String}
    (taken : steps path = before ++ [last]) (notHere : last ≠ ".") :
    ∃ others piece, pieces path.toList = others ++ [piece] ∧ String.ofList piece = last ∧
      isIdle piece = false := by
  obtain ⟨others, piece, split⟩ := exists_pieces path
  rw [steps_of_pieces split] at taken
  have same : (if piece = [] then "." else String.ofList piece) = last :=
    List.singleton_inj.mp (List.append_inj_right' taken rfl)
  have nonempty : piece ≠ [] := by
    intro nothing
    rw [if_pos nothing] at same
    exact notHere same.symm
  rw [if_neg nonempty] at same
  have notDot : piece ≠ ['.'] := by
    intro dot
    rw [dot] at same
    exact notHere same.symm
  refine ⟨others, piece, split, same, ?_⟩
  unfold isIdle
  rw [decide_eq_false nonempty, decide_eq_false notDot]
  rfl

/-- The last step of a path is its last name if it is a name. -/
theorem isSource_of_steps {path last : String} {before : List String}
    (taken : steps path = before ++ [last]) (notHere : last ≠ ".") (notUp : last ≠ "..") :
    isSource path = isSourceName last := by
  obtain ⟨others, piece, split, same, moves⟩ := exists_last_piece taken notHere
  have notDots : piece ≠ ['.', '.'] := by
    intro dots
    rw [dots] at same
    exact notUp same.symm
  have found : (names path).getLast? = some piece := by
    rw [names_eq, split, List.filter_append, List.filter_singleton, moves]
    exact List.getLast?_concat
  have lastName : lastName? path = some piece := by
    unfold lastName?
    rw [found]
    split
    · rename_i dots
      exact absurd (Option.some.inj dots) notDots
    · rfl
  rw [isSource, lastName, Option.any_some, same]

end Path

end IssueReport
