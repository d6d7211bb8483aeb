import IssueReport.Proofs.FileTree.LocationTexts
import IssueReport.Proofs.FileTree.Walks
/-!
Files that are looked for in a directory, along a path to it or from the place that the path leads
to. Both find the same file, except where the path with the name of the file is too long or leads
over too many links.
-/

namespace IssueReport

/-- A name by which a file can be looked for. -/
structure IsFileName (name : String) : Prop extends IsNodeName name where
  nulFree : '\x00' ∉ name.toList
  short : name.utf8ByteSize ≤ FileTree.pathLimit

theorem IsFileName.steps_eq {name : String} (named : IsFileName name) : Path.steps name = [name] := by
  have nonempty : name.toList ≠ [] :=
    fun nothing => named.nonempty (String.toList_eq_nil_iff.mp nothing)
  have alone : Path.pieces name.toList = [] ++ [name.toList] :=
    Path.pieces_of_slashFree named.slashFree
  rw [Path.steps_of_pieces alone, if_neg nonempty, String.ofList_toList]
  rfl

namespace FileTree

variable {tree : FileTree} {here location target : Location} {path name : String}

/-- Along a path to a directory and from there to a name, a look-up stays within the limits: the
path of the name is short enough, and there are not too many links on the way. -/
structure InReach (tree : FileTree) (here : Location) (path name : String) : Prop where
  short : (Path.join path name).utf8ByteSize ≤ pathLimit
  few_links : ∀ location target links more,
    tree.Leads links (startOf here path) (Path.steps path) location →
      tree.Leads more location [name] target → links + more ≤ linkLimit

theorem leads_trail {links : Nat}
    (leads : tree.Leads links (startOf here path) (Path.steps path) location) :
    tree.Leads links (startOf here path) (Path.trail path) location := by
  rw [Path.steps_eq] at leads
  split at leads
  · obtain ⟨first, second, middle, total, before, last⟩ := leads.split
    cases last.of_here.2
    rw [total]
    exact before
  · rw [List.append_nil] at leads
    exact leads

section Name

variable (named : IsFileName name)

include named

theorem resolve_name :
    tree.resolve location name = .ok target ↔
      ∃ more ≤ linkLimit, tree.Leads more location [name] target := by
  have relative : Path.isAbsolute name = false := by
    unfold Path.isAbsolute
    rw [decide_eq_false_iff_not]
    intro starts
    exact named.slashFree (List.mem_of_head? starts)
  rw [resolve_eq_ok, and_iff_right named.nulFree, and_iff_right named.nonempty, named.steps_eq,
    startOf, relative]
  rfl

variable (resolved : tree.resolve here path = .ok location)

include resolved

theorem resolve_join :
    tree.resolve here (Path.join path name) = .ok target ↔
      ∃ links ≤ linkLimit,
        tree.Leads links (startOf here path) (Path.trail path ++ [name]) target := by
  obtain ⟨free, nonempty, _⟩ := resolve_eq_ok.mp resolved
  have notNul : '\x00' ≠ '/' := by decide
  have alsoFree : '\x00' ∉ (Path.join path name).toList := by
    rwa [Path.mem_join nonempty named.slashFree notNul named.nulFree]
  rw [resolve_eq_ok, and_iff_right alsoFree,
    and_iff_right (Path.join_ne_empty nonempty named.slashFree), startOf,
    Path.isAbsolute_join nonempty named.slashFree,
    Path.steps_join nonempty named.slashFree named.nonempty]
  rfl

/-- What is found along the path is found from where the path leads. -/
theorem resolve_of_join (joined : tree.resolve here (Path.join path name) = .ok target) :
    tree.resolve location name = .ok target := by
  obtain ⟨links, few, leads⟩ := (resolve_join named resolved).mp joined
  obtain ⟨_, _, _, _, direct⟩ := resolve_eq_ok.mp resolved
  obtain ⟨first, second, middle, total, before, last⟩ := leads.split
  rw [before.unique (leads_trail direct)] at last
  exact (resolve_name named).mpr ⟨second, by omega, last⟩

theorem inReach_of_join (joined : tree.resolve here (Path.join path name) = .ok target)
    (short : (Path.join path name).utf8ByteSize ≤ pathLimit) : tree.InReach here path name := by
  obtain ⟨all, few, leads⟩ := (resolve_join named resolved).mp joined
  refine ⟨short, ?_⟩
  intro middle other links more before last
  have walked : tree.walkBy (.stepwise .utf8) linkLimit (startOf here path)
      (Path.trail path ++ [name]) = .ok target := by
    rw [leads.walkBy, if_pos few]
  exact (((leads_trail before).append last).of_walk walked).1

theorem resolve_join_of_inReach (reach : tree.InReach here path name)
    (found : tree.resolve location name = .ok target) :
    tree.resolve here (Path.join path name) = .ok target := by
  obtain ⟨more, _, last⟩ := (resolve_name named).mp found
  obtain ⟨_, _, links, _, direct⟩ := resolve_eq_ok.mp resolved
  have few := reach.few_links location target links more direct last
  exact (resolve_join named resolved).mpr ⟨_, few, (leads_trail direct).append last⟩

/-- A file is found along the path exactly if it is there and in reach. -/
theorem isFile_join_iff :
    tree.isFile here (Path.join path name) = true ↔
      tree.isFile location name = true ∧ tree.InReach here path name := by
  rw [isFile_iff, isFile_iff, and_iff_right named.short]
  constructor
  · intro ⟨short, target, content, joined, isFile⟩
    have found := resolve_of_join named resolved joined
    exact ⟨⟨target, content, found, isFile⟩, inReach_of_join named resolved joined short⟩
  · intro ⟨⟨target, content, found, isFile⟩, reach⟩
    have joined := resolve_join_of_inReach named resolved reach found
    exact ⟨reach.short, target, content, joined, isFile⟩

end Name

end FileTree

end IssueReport
