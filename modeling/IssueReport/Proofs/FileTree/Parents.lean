import IssueReport.Proofs.FileTree.Steps
import Mathlib.Data.List.TakeWhile
/-!
Parents of paths. Where the last piece of a path is a name, its parent is an initial part of it and
has all of its names but the last.
-/

namespace IssueReport.Path

/-! ### Pieces put together -/

theorem ofPieces_cons {piece : List Char} {others : List (List Char)} (more : others ≠ []) :
    ofPieces (piece :: others) = piece ++ '/' :: ofPieces others := by
  cases others with
  | nil => exact absurd rfl more
  | cons second others => rfl

theorem ofPieces_pieces (characters : List Char) : ofPieces (pieces characters) = characters := by
  induction characters with
  | nil => rfl
  | cons first rest ih =>
      rw [pieces]
      split
      · rename_i slash
        rw [ofPieces_cons (pieces_ne_nil rest), ih, slash]
        rfl
      · split
        · rename_i cut
          exact absurd cut (pieces_ne_nil rest)
        · rename_i piece others cut
          rw [cut] at ih
          rw [← ih]
          cases others <;> rfl

theorem ofPieces_prefix (kept others : List (List Char)) :
    ofPieces kept <+: ofPieces (kept ++ others) := by
  induction kept with
  | nil => exact List.nil_prefix
  | cons piece kept ih =>
      by_cases last : kept = []
      · rw [last, List.singleton_append]
        cases others with
        | nil => exact List.prefix_rfl
        | cons second others => exact List.prefix_append piece _
      · have more : kept ++ others ≠ [] := fun nothing => last (List.append_eq_nil_iff.mp nothing).1
        rw [List.cons_append, ofPieces_cons last, ofPieces_cons more, List.prefix_append_right_inj,
          List.cons_prefix_cons]
        exact ⟨rfl, ih⟩

theorem pieces_ofPieces {kept : List (List Char)} (slashFree : ∀ piece ∈ kept, '/' ∉ piece)
    (some : kept ≠ []) : pieces (ofPieces kept) = kept := by
  induction kept with
  | nil => exact absurd rfl some
  | cons piece kept ih =>
      obtain ⟨first, others⟩ := List.forall_mem_cons.mp slashFree
      by_cases last : kept = []
      · rw [last]
        exact pieces_of_slashFree first
      · rw [ofPieces_cons last, pieces_append_slash, pieces_of_slashFree first, ih others last]
        rfl

/-! ### Names -/

/-- The pieces of a path that lead somewhere. -/
def moving (kept : List (List Char)) : List (List Char) :=
  kept.filter fun piece => !isIdle piece

theorem moving_append (first second : List (List Char)) :
    moving (first ++ second) = moving first ++ moving second :=
  List.filter_append ..

theorem moving_of_idle {kept : List (List Char)} (idle : ∀ piece ∈ kept, isIdle piece = true) :
    moving kept = [] := by
  apply List.filter_eq_nil_iff.mpr
  intro piece member
  rw [idle piece member]
  exact Bool.false_ne_true

theorem moving_pieces_ofPieces {kept : List (List Char)}
    (slashFree : ∀ piece ∈ kept, '/' ∉ piece) : moving (pieces (ofPieces kept)) = moving kept := by
  by_cases nothing : kept = []
  · rw [nothing]
    rfl
  · rw [pieces_ofPieces slashFree nothing]

/-- The names of a path are its steps, but for those on the spot. -/
theorem filter_steps (path : String) :
    (steps path).filter (· ≠ ".") = (names path).map String.ofList := by
  have kept : ∀ taken : List (List Char),
      ((taken.filter (· ≠ [])).map String.ofList).filter (· ≠ ".") =
        (moving taken).map String.ofList := by
    intro taken
    have dot : ∀ piece, String.ofList piece = "." ↔ piece = ['.'] := by
      intro piece
      rw [← String.toList_inj, String.toList_ofList]
      rfl
    rw [List.filter_map, List.filter_filter]
    congr 1
    apply List.filter_congr
    intro piece _
    simp only [Function.comp_apply, ne_eq, dot, isIdle]
    by_cases empty : piece = [] <;> by_cases here : piece = ['.'] <;> simp [empty, here]
  rw [steps_eq, List.filter_append, trail, kept, names_eq]
  split
  · exact List.append_nil _
  · exact List.append_nil _

/-! ### Parents -/

theorem splitStart_append (characters : List Char) :
    (splitStart characters).1 ++ (splitStart characters).2 = characters := by
  unfold splitStart
  split <;> rfl

/-- The last piece of a path that is a name stands behind its start. -/
theorem exists_front {path : String} {others : List (List Char)} {piece : List Char}
    (split : pieces path.toList = others ++ [piece]) (moves : isIdle piece = false) :
    ∃ front, pieces (splitStart path.toList).2 = front ++ [piece] := by
  have behind : ∀ {first rest}, first :: pieces rest = others ++ [piece] →
      ∃ front, pieces rest = front ++ [piece] := by
    intro first rest whole
    cases others with
    | nil => exact absurd (List.cons.inj whole).2 (pieces_ne_nil rest)
    | cons other front => exact ⟨front, (List.cons.inj whole).2⟩
  unfold splitStart
  split
  · rename_i rest start
    rw [start, pieces, if_pos rfl] at split
    exact behind split
  · rename_i start
    rw [start] at split
    have last := congrArg List.getLast? split
    rw [List.getLast?_concat] at last
    cases last
    cases moves
  · rename_i rest start
    rw [start] at split
    obtain ⟨front, found⟩ := behind split
    exact ⟨[] :: front, congrArg (List.cons []) found⟩
  · exact ⟨others, split⟩

def trimmed (front : List (List Char)) : List (List Char) :=
  (front.reverse.dropWhile isIdle).reverse

theorem trimmed_append (front : List (List Char)) :
    ∃ idle, front = trimmed front ++ idle ∧ ∀ piece ∈ idle, isIdle piece = true := by
  refine ⟨(front.reverse.takeWhile isIdle).reverse, ?_, ?_⟩
  · rw [trimmed, ← List.reverse_append, List.takeWhile_append_dropWhile, List.reverse_reverse]
  · intro piece member
    exact List.mem_takeWhile_imp (List.mem_reverse.mp member)

theorem parent?_of_front {path : String} {front : List (List Char)} {piece : List Char}
    (split : pieces (splitStart path.toList).2 = front ++ [piece]) (moves : isIdle piece = false) :
    parent? path =
      some (String.ofList ((splitStart path.toList).1 ++ ofPieces (trimmed front))) := by
  have kept : ((front ++ [piece]).reverse).dropWhile isIdle = piece :: front.reverse := by
    rw [List.reverse_concat, List.dropWhile_cons_of_neg (by simp [moves])]
  unfold parent?
  simp only [split, kept]
  rfl

theorem moving_start {path : String} {kept : List (List Char)}
    (initial : kept <+: pieces (splitStart path.toList).2) :
    moving (pieces ((splitStart path.toList).1 ++ ofPieces kept)) = moving kept := by
  have slashFree : ∀ piece ∈ kept, '/' ∉ piece :=
    fun piece member => slashFree_of_mem_pieces (initial.subset member)
  unfold splitStart at initial ⊢
  split at initial
  · change moving (pieces ([] ++ '/' :: ofPieces kept)) = _
    rw [pieces_append_slash, moving_append]
    exact moving_pieces_ofPieces slashFree
  · rcases List.prefix_cons_iff.mp initial with nothing | ⟨rest, same, restInitial⟩
    · rw [nothing]
      rfl
    · rw [same, List.prefix_nil.mp restInitial]
      rfl
  · rcases List.prefix_cons_iff.mp initial with nothing | ⟨rest, same, _⟩
    · rw [nothing]
      rfl
    · -- the dot becomes part of the empty piece before the slash
      have cut := pieces_ofPieces slashFree (same ▸ List.cons_ne_nil [] rest)
      have dotFree : '/' ∉ ['.'] := by decide
      change moving (pieces (['.'] ++ ofPieces kept)) = _
      rw [pieces_append dotFree (cut.trans same), same]
      rfl
  · exact moving_pieces_ofPieces slashFree

/-- A path whose last piece is a name has a parent, with all the names before it. -/
theorem exists_parent {path : String} {others : List (List Char)} {piece : List Char}
    (split : pieces path.toList = others ++ [piece]) (moves : isIdle piece = false) :
    ∃ parent, parent? path = some parent ∧ parent.toList <+: path.toList ∧
      names path = names parent ++ [piece] ∧ (isAbsolute path = true → parent ≠ "") := by
  obtain ⟨front, whole⟩ := exists_front split moves
  obtain ⟨idle, trimming, allIdle⟩ := trimmed_append front
  have bodyNames : names path = moving (trimmed front) ++ [piece] := by
    change moving (pieces (splitStart path.toList).2) = _
    have lastMoves : moving [piece] = [piece] := List.filter_cons_of_pos (by simp [moves])
    rw [whole, moving_append, lastMoves]
    congr 1
    rw [trimming, moving_append, moving_of_idle allIdle, List.append_nil, ← trimming]
  refine ⟨_, parent?_of_front whole moves, ?_, ?_, ?_⟩
  · have body : ofPieces (trimmed front ++ (idle ++ [piece])) = (splitStart path.toList).2 := by
      rw [← List.append_assoc, ← trimming, ← whole, ofPieces_pieces]
    have initial := ofPieces_prefix (trimmed front) (idle ++ [piece])
    rw [body] at initial
    rw [String.toList_ofList]
    have together := (List.prefix_append_right_inj (splitStart path.toList).1).mpr initial
    rw [splitStart_append] at together
    exact together
  · have initial : trimmed front <+: pieces (splitStart path.toList).2 := by
      rw [whole]
      exact ⟨idle ++ [piece], by rw [← List.append_assoc, ← trimming]⟩
    rw [bodyNames, names_eq, String.toList_ofList]
    congr 1
    exact (moving_start initial).symm
  · intro absolute nothing
    obtain ⟨rest, start⟩ := List.head?_eq_some_iff.mp (of_decide_eq_true absolute)
    rw [start, ← String.toList_inj, String.toList_ofList] at nothing
    cases nothing

theorem splitStart_append_slash {characters : List Char} (some : characters ≠ [])
    (notHere : characters ≠ ['.']) (after : List Char) :
    splitStart (characters ++ '/' :: after) =
      ((splitStart characters).1, (splitStart characters).2 ++ '/' :: after) := by
  match characters with
  | [] => exact absurd rfl some
  | ['.'] => exact absurd rfl notHere
  | '.' :: '/' :: rest => rfl
  | [first] =>
      by_cases slash : first = '/'
      · rw [slash]
        rfl
      · unfold splitStart
        split <;> simp_all
  | first :: second :: rest =>
      by_cases slash : first = '/'
      · rw [slash]
        rfl
      · unfold splitStart
        split <;> simp_all

/-- The parent of a name in a directory is the path of the directory, if this ends in a name. -/
theorem parent?_of_join {directory name : String} {before : List (List Char)} {piece : List Char}
    (split : pieces directory.toList = before ++ [piece]) (moves : isIdle piece = false)
    (slashFree : '/' ∉ name.toList) (nameMoves : isIdle name.toList = false) :
    parent? (directory ++ "/" ++ name) = some directory := by
  have notAlone : ∀ alone, isIdle alone = true → pieces directory.toList ≠ [alone] := by
    intro alone idle impossible
    have last := congrArg List.getLast? split
    rw [impossible, List.getLast?_concat, List.getLast?_singleton] at last
    rw [← Option.some.inj last, idle] at moves
    cases moves
  have someText : directory.toList ≠ [] := fun nothing => notAlone [] rfl (by rw [nothing]; rfl)
  have notHere : directory.toList ≠ ['.'] := fun same => notAlone ['.'] rfl (by rw [same]; rfl)
  have whole : (directory ++ "/" ++ name).toList = directory.toList ++ '/' :: name.toList := by
    rw [String.toList_append, String.toList_append, List.append_assoc]
    rfl
  have start := splitStart_append_slash someText notHere name.toList
  obtain ⟨front, body⟩ := exists_front split moves
  have bodyPieces : pieces (splitStart (directory ++ "/" ++ name).toList).2 =
      (front ++ [piece]) ++ [name.toList] := by
    rw [whole, start, pieces_append_slash, body, pieces_of_slashFree slashFree]
  have untrimmed : trimmed (front ++ [piece]) = front ++ [piece] := by
    rw [trimmed, List.reverse_concat, List.dropWhile_cons_of_neg (by simp [moves]),
      ← List.reverse_concat, List.reverse_reverse]
  rw [parent?_of_front bodyPieces nameMoves, untrimmed, ← body, ofPieces_pieces, whole, start,
    splitStart_append, String.ofList_toList]

end IssueReport.Path
