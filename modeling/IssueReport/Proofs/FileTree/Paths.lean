import IssueReport.FileTree.Basic
import Mathlib.Data.List.Basic
/-!
Paths as texts. Where names hold no slash, the path of a location tells it from all others; the
extension of a name is what stands after its last point.
-/

namespace IssueReport

/-! ### Paths of locations -/

def Location.SlashFree (location : Location) : Prop :=
  ∀ name ∈ location, '/' ∉ name.toList

namespace Path

theorem pieces_append {name rest piece : List Char} {others : List (List Char)}
    (slashFree : '/' ∉ name) (cut : pieces rest = piece :: others) :
    pieces (name ++ rest) = (name ++ piece) :: others := by
  induction name with
  | nil => exact cut
  | cons first name ih =>
      obtain ⟨different, later⟩ := List.ne_and_not_mem_of_not_mem_cons slashFree
      rw [List.cons_append, pieces, if_neg different.symm, ih later]
      rfl

theorem pieces_flatMap {location : Location} (slashFree : location.SlashFree) :
    pieces (location.flatMap fun name => '/' :: name.toList) =
      [] :: location.map String.toList := by
  induction location with
  | nil => rfl
  | cons name location ih =>
      have rest := ih fun other member => slashFree other (List.mem_cons_of_mem name member)
      have first := pieces_append (slashFree name List.mem_cons_self) rest
      rw [List.flatMap_cons, List.cons_append, pieces, if_pos rfl, first, List.append_nil,
        List.map_cons]

theorem toList_intercalate {names : List String} (nonempty : names ≠ []) :
    '/' :: (String.intercalate "/" names).toList = names.flatMap fun name => '/' :: name.toList := by
  rw [String.toList_intercalate]
  induction names with
  | nil => exact absurd rfl nonempty
  | cons first names ih =>
      cases names with
      | nil => simp
      | cons second names =>
          rw [List.flatMap_cons, ← ih (List.cons_ne_nil second names)]
          simp [List.intercalate_cons_cons]

end Path

namespace Location

theorem toList_text {location : Location} (below : location ≠ []) :
    location.text.toList = location.flatMap fun name => '/' :: name.toList := by
  cases location with
  | nil => exact absurd rfl below
  | cons name location =>
      change (String.join ((name :: location).map fun name => "/" ++ name)).toList = _
      rw [String.toList_join, List.flatMap_map]
      simp only [String.toList_append]
      rfl

theorem eq_of_text_eq {left right : Location} (leftBelow : left ≠ []) (rightBelow : right ≠ [])
    (leftFree : left.SlashFree) (rightFree : right.SlashFree) (same : left.text = right.text) :
    left = right := by
  have characters := congrArg String.toList same
  rw [toList_text leftBelow, toList_text rightBelow] at characters
  have cut := congrArg Path.pieces characters
  rw [Path.pieces_flatMap leftFree, Path.pieces_flatMap rightFree, List.cons.injEq] at cut
  exact (List.map_inj_right fun _ _ => String.toList_inj.mp).mp cut.2

end Location

/-! ### Extensions -/

namespace Path

theorem takeWhile_reverse {extension rest : List Char} (free : '.' ∉ extension) :
    (extension.reverse ++ rest).takeWhile (fun character => decide (character ≠ '.')) =
      extension.reverse ++ rest.takeWhile fun character => decide (character ≠ '.') := by
  apply List.takeWhile_append_of_pos
  intro character member
  rw [decide_eq_true_eq]
  rintro rfl
  exact free (List.mem_reverse.mp member)

theorem splitExtension?_of_free {name : List Char} (free : '.' ∉ name) :
    splitExtension? name = none := by
  have taken := @takeWhile_reverse name [] free
  rw [List.append_nil, List.takeWhile_nil, List.append_nil] at taken
  rw [splitExtension?, taken]
  simp only [List.drop_length]

/-- The extension stands after the last point, unless that is the first character. -/
theorem splitExtension?_append {stem extension : List Char} (free : '.' ∉ extension) :
    splitExtension? (stem ++ '.' :: extension) =
      if stem = [] then none else some (stem, extension) := by
  have reversed : (stem ++ '.' :: extension).reverse =
      extension.reverse ++ '.' :: stem.reverse := by
    rw [List.reverse_append, List.reverse_cons, List.append_assoc, List.singleton_append]
  have taken := @takeWhile_reverse extension ('.' :: stem.reverse) free
  rw [List.takeWhile_cons_of_neg (by decide), List.append_nil] at taken
  rw [splitExtension?, reversed, taken]
  simp only [List.drop_left]
  by_cases nothing : stem = []
  · rw [if_pos nothing, nothing]
    rfl
  · rw [if_neg nothing]
    obtain ⟨last, before, same⟩ := List.exists_cons_of_ne_nil (List.reverse_ne_nil_iff.mpr nothing)
    rw [same]
    simp only [← same, List.reverse_reverse]

theorem splitExtension?_eq_some_iff {name stem extension : List Char} :
    splitExtension? name = some (stem, extension) ↔
      name = stem ++ '.' :: extension ∧ stem ≠ [] ∧ '.' ∉ extension := by
  constructor
  · intro found
    -- the last point of a name is the first one from its end
    by_cases point : '.' ∈ name.reverse
    · obtain ⟨after, before, whole, free⟩ := List.eq_append_cons_of_mem point
      have cut : name = before.reverse ++ '.' :: after.reverse := by
        rw [← List.reverse_reverse name, whole, List.reverse_append, List.reverse_cons,
          List.append_assoc, List.singleton_append]
      have alsoFree : '.' ∉ after.reverse := fun member => free (List.mem_reverse.mp member)
      rw [cut, splitExtension?_append alsoFree] at found
      split at found
      · cases found
      · cases found
        exact ⟨cut, ‹_›, alsoFree⟩
    · rw [splitExtension?_of_free fun member => point (List.mem_reverse.mpr member)] at found
      cases found
  · rintro ⟨rfl, present, free⟩
    rw [splitExtension?_append free, if_neg present]

def HasSourceEnding (name : String) : Prop :=
  ".bal".toList <:+ name.toList ∧ ".bal".length < name.length

theorem isSourceName_iff {name : String} : isSourceName name = true ↔ HasSourceEnding name := by
  unfold isSourceName HasSourceEnding
  rw [Option.any_eq_true]
  constructor
  · rintro ⟨⟨stem, extension⟩, found, same⟩
    obtain ⟨whole, present, -⟩ := splitExtension?_eq_some_iff.mp found
    have extension_eq : extension = sourceExtension := of_decide_eq_true same
    rw [extension_eq] at whole
    refine ⟨⟨stem, whole.symm⟩, ?_⟩
    have length := congrArg List.length whole
    have positive := List.length_pos_of_ne_nil present
    rw [List.length_append, String.length_toList] at length
    change 4 < name.length
    change name.length = stem.length + 4 at length
    omega
  · rintro ⟨⟨stem, whole⟩, longer⟩
    refine ⟨(stem, sourceExtension), ?_, decide_eq_true rfl⟩
    apply splitExtension?_eq_some_iff.mpr
    refine ⟨whole.symm, ?_, by decide⟩
    rintro rfl
    have length := congrArg List.length whole
    rw [List.nil_append, String.length_toList, String.length_toList] at length
    omega

end Path

end IssueReport
