import IssueReport.Proofs.FileTree.Grounded
import IssueReport.Proofs.FileTree.Steps
/-!
Ways through a file tree. A walk succeeds exactly if there is a way with no more links than it may
follow. The links on a way are counted, so that ways can be put together and taken apart. The way that
asks for places by their absolute paths is the way of the system as long as these are short.
-/

namespace IssueReport.FileTree

structure IsName (lookup : Lookup) (place : Location) (step : String) : Prop where
  notHere : step ≠ "."
  notUp : step ≠ ".."
  short : lookup.size step ≤ nameLimit
  asked : lookup.asks (place ++ [step]) [] = true

/-- Steps from a place lead to a location, over a number of links. -/
inductive LeadsBy (tree : FileTree) (lookup : Lookup) :
    Nat → Location → List String → Location → Prop
  | done {place : Location} : LeadsBy tree lookup 0 place [] place
  | stay {links : Nat} {place location : Location} {step : String} {steps : List String}
      (directory : tree.node? place = some .directory) (stays : step = ".")
      (onward : LeadsBy tree lookup links place steps location) :
      LeadsBy tree lookup links place (step :: steps) location
  | up {links : Nat} {place location : Location} {step : String} {steps : List String}
      (directory : tree.node? place = some .directory) (upwards : step = "..")
      (onward : LeadsBy tree lookup links place.dropLast steps location) :
      LeadsBy tree lookup links place (step :: steps) location
  | into {links : Nat} {place location : Location} {step : String} {steps : List String}
      {node : Node} (directory : tree.node? place = some .directory)
      (named : IsName lookup place step) (found : tree.node? (place ++ [step]) = some node)
      (noLink : ∀ target, node ≠ .link target)
      (passed : lookup.asks (place ++ [step]) steps = true)
      (onward : LeadsBy tree lookup links (place ++ [step]) steps location) :
      LeadsBy tree lookup links place (step :: steps) location
  | along {links : Nat} {place location : Location} {step : String} {steps : List String}
      {target : String} (directory : tree.node? place = some .directory)
      (named : IsName lookup place step)
      (found : tree.node? (place ++ [step]) = some (.link target))
      (onward : LeadsBy tree lookup links (startOf place target) (Path.steps target ++ steps)
        location) :
      LeadsBy tree lookup (links + 1) place (step :: steps) location

abbrev Leads (tree : FileTree) : Nat → Location → List String → Location → Prop :=
  tree.LeadsBy (.stepwise .utf8)

theorem Lookup.absolute_asks {place : Location} {steps : List String} :
    Lookup.absolute.asks place steps = true ↔
      place.text.utf8ByteSize + (if needsDirectory steps then 1 else 0) ≤ pathLimit :=
  decide_eq_true_iff

variable {tree : FileTree} {lookup : Lookup}

/-! ### Walks -/

def followWith (tree : FileTree) (lookup : Lookup) : (links : Nat) → Location → List String →
    Except LookupError Location
  | 0 => fun _ _ => .error .tooManyLinks
  | links + 1 => tree.walkBy lookup links

theorem walkBy_eq_walkWith (tree : FileTree) (lookup : Lookup) (links : Nat) :
    tree.walkBy lookup links = tree.walkWith lookup (tree.followWith lookup links) := by
  cases links <;> rfl

theorem walkWith_of_isName {follow : Location → List String → Except LookupError Location}
    {place : Location} {step : String} {steps : List String}
    (directory : tree.node? place = some .directory) (named : IsName lookup place step) :
    tree.walkWith lookup follow place (step :: steps) =
      match tree.node? (place ++ [step]) with
      | none => .error .notFound
      | some (.link target) => follow (startOf place target) (Path.steps target ++ steps)
      | some _ =>
          if lookup.asks (place ++ [step]) steps then
            tree.walkWith lookup follow (place ++ [step]) steps
          else .error .nameTooLong := by
  have fits : ¬ (decide (nameLimit < lookup.size step) || !lookup.asks (place ++ [step]) []) = true := by
    rw [named.asked, decide_eq_false (Nat.not_lt.mpr named.short)]
    exact Bool.false_ne_true
  rw [walkWith, if_neg (not_not.mpr directory), if_neg named.notHere, if_neg named.notUp,
    if_neg fits]
  rfl

theorem leads_of_walkWith {follow : Location → List String → Except LookupError Location}
    {limit : Nat}
    (followed : ∀ place steps location, follow place steps = .ok location →
      ∃ links, links + 1 ≤ limit ∧ tree.LeadsBy lookup links place steps location)
    {place location : Location} {steps : List String}
    (walked : tree.walkWith lookup follow place steps = .ok location) :
    ∃ links ≤ limit, tree.LeadsBy lookup links place steps location := by
  induction steps generalizing place with
  | nil =>
      cases walked
      exact ⟨0, Nat.zero_le limit, .done⟩
  | cons step steps ih =>
      by_cases directory : tree.node? place = some .directory
      · by_cases stays : step = "."
        · rw [walkWith, if_neg (not_not.mpr directory), if_pos stays] at walked
          obtain ⟨links, few, onward⟩ := ih walked
          exact ⟨links, few, .stay directory stays onward⟩
        by_cases upwards : step = ".."
        · rw [walkWith, if_neg (not_not.mpr directory), if_neg stays, if_pos upwards] at walked
          obtain ⟨links, few, onward⟩ := ih walked
          exact ⟨links, few, .up directory upwards onward⟩
        by_cases fits : nameLimit < lookup.size step ∨ lookup.asks (place ++ [step]) [] = false
        · rw [walkWith, if_neg (not_not.mpr directory), if_neg stays, if_neg upwards,
            if_pos (by simpa using fits)] at walked
          cases walked
        rw [not_or, Nat.not_lt, Bool.not_eq_false] at fits
        have named : IsName lookup place step := ⟨stays, upwards, fits.1, fits.2⟩
        rw [walkWith_of_isName directory named] at walked
        cases found : tree.node? (place ++ [step]) with
        | none =>
            rw [found] at walked
            cases walked
        | some node =>
            rw [found] at walked
            cases node with
            | link target =>
                obtain ⟨links, few, onward⟩ := followed _ _ _ walked
                exact ⟨links + 1, few, .along directory named found onward⟩
            | directory | file | device =>
                dsimp only at walked
                split at walked
                · rename_i passed
                  obtain ⟨links, few, onward⟩ := ih walked
                  exact ⟨links, few, .into directory named found (by simp) passed onward⟩
                · cases walked
      · rw [walkWith, if_pos directory] at walked
        cases walked

theorem leads_of_walk {limit : Nat} {place location : Location} {steps : List String}
    (walked : tree.walkBy lookup limit place steps = .ok location) :
    ∃ links ≤ limit, tree.LeadsBy lookup links place steps location := by
  induction limit generalizing place steps location with
  | zero =>
      refine leads_of_walkWith ?_ walked
      intro place steps location impossible
      cases impossible
  | succ limit ih =>
      refine leads_of_walkWith ?_ walked
      intro place steps location onward
      obtain ⟨links, few, leads⟩ := ih onward
      exact ⟨links, Nat.succ_le_succ few, leads⟩

/-- A walk along a way goes to its end, or to the first link too many. -/
theorem LeadsBy.walkBy {links : Nat} {place location : Location} {steps : List String}
    (leads : tree.LeadsBy lookup links place steps location) (limit : Nat) :
    tree.walkBy lookup limit place steps =
      if links ≤ limit then .ok location else .error .tooManyLinks := by
  induction leads generalizing limit with
  | done => cases limit <;> rfl
  | stay directory stays _ ih =>
      rw [← ih limit, walkBy_eq_walkWith, walkWith, if_neg (not_not.mpr directory), if_pos stays]
  | up directory upwards _ ih =>
      rw [← ih limit, walkBy_eq_walkWith, walkWith, if_neg (not_not.mpr directory),
        if_neg (upwards ▸ by decide), if_pos upwards]
  | @into _ _ _ _ _ node directory named found noLink passed _ ih =>
      rw [← ih limit, walkBy_eq_walkWith, walkWith_of_isName directory named, found]
      cases node with
      | link target => exact absurd rfl (noLink target)
      | directory | file | device => exact if_pos passed
  | along directory named found _ ih =>
      rw [walkBy_eq_walkWith, walkWith_of_isName directory named, found]
      cases limit with
      | zero => rfl
      | succ limit =>
          simp only [Nat.add_le_add_iff_right]
          exact ih limit

theorem walk_eq_ok {limit : Nat} {place location : Location} {steps : List String} :
    tree.walkBy lookup limit place steps = .ok location ↔
      ∃ links ≤ limit, tree.LeadsBy lookup links place steps location := by
  constructor
  · exact leads_of_walk
  · intro ⟨links, few, leads⟩
    rw [leads.walkBy, if_pos few]

/-- A walk by absolute paths goes as the system does, or ends at a place whose path is too long. -/
theorem walkWith_absolute {byPaths bySteps : Location → List String → Except LookupError Location}
    (followed : ∀ place steps, byPaths place steps = bySteps place steps ∨
      byPaths place steps = .error .nameTooLong)
    (place : Location) (steps : List String) :
    tree.walkWith .absolute byPaths place steps =
        tree.walkWith (.stepwise .utf8) bySteps place steps ∨
      tree.walkWith .absolute byPaths place steps = .error .nameTooLong := by
  induction steps generalizing place with
  | nil => exact .inl rfl
  | cons step steps ih =>
      by_cases directory : tree.node? place = some .directory
      swap
      · rw [walkWith, walkWith, if_pos directory, if_pos directory]
        exact .inl rfl
      by_cases stays : step = "."
      · rw [walkWith, walkWith, if_neg (not_not.mpr directory), if_neg (not_not.mpr directory),
          if_pos stays, if_pos stays]
        exact ih place
      by_cases upwards : step = ".."
      · rw [walkWith, walkWith, if_neg (not_not.mpr directory), if_neg (not_not.mpr directory),
          if_neg stays, if_neg stays, if_pos upwards, if_pos upwards]
        exact ih place.dropLast
      by_cases fits : step.utf8ByteSize ≤ nameLimit ∧
          Lookup.absolute.asks (place ++ [step]) [] = true
      · have named : IsName (.stepwise .utf8) place step := ⟨stays, upwards, fits.1, rfl⟩
        have asked : IsName .absolute place step := ⟨stays, upwards, fits.1, fits.2⟩
        rw [walkWith_of_isName directory named, walkWith_of_isName directory asked]
        cases tree.node? (place ++ [step]) with
        | none => exact .inl rfl
        | some node =>
            cases node with
            | link target => exact followed _ _
            | directory | file | device =>
                dsimp only
                split
                · exact ih (place ++ [step])
                · exact .inr rfl
      · rw [not_and_or, Nat.not_le, Bool.not_eq_true, ← Bool.not_eq_true'] at fits
        refine .inr ?_
        rw [walkWith, if_neg (not_not.mpr directory), if_neg stays, if_neg upwards, if_pos]
        rw [Bool.or_eq_true, decide_eq_true_eq]
        exact fits

theorem walkBy_absolute (limit : Nat) (place : Location) (steps : List String) :
    tree.walkBy .absolute limit place steps = tree.walkBy (.stepwise .utf8) limit place steps ∨
      tree.walkBy .absolute limit place steps = .error .nameTooLong := by
  induction limit generalizing place steps with
  | zero => exact walkWith_absolute (fun _ _ => .inl rfl) place steps
  | succ limit ih => exact walkWith_absolute ih place steps

/-! ### Ways compared -/

theorem LeadsBy.of_walk {limit links : Nat} {place location other : Location} {steps : List String}
    (leads : tree.LeadsBy lookup links place steps location)
    (walked : tree.walkBy lookup limit place steps = .ok other) :
    links ≤ limit ∧ location = other := by
  rw [leads.walkBy] at walked
  split at walked
  · rename_i few
    exact ⟨few, Except.ok.inj walked⟩
  · cases walked

theorem LeadsBy.unique {links more : Nat} {place location other : Location} {steps : List String}
    (leads : tree.LeadsBy lookup links place steps location)
    (also : tree.LeadsBy lookup more place steps other) : location = other := by
  have walked : tree.walkBy lookup more place steps = .ok other := by
    rw [also.walkBy, if_pos (Nat.le_refl more)]
  exact (leads.of_walk walked).2

/-- On the way from a place by steps another place is asked for, with the steps that are left if it is
no link. -/
inductive Asks (tree : FileTree) : Location → List String → Location → List String → Prop
  | name {place : Location} {step : String} {steps : List String} (notHere : step ≠ ".")
      (notUp : step ≠ "..") : Asks tree place (step :: steps) (place ++ [step]) []
  | pass {place : Location} {step : String} {steps : List String} {node : Node}
      (notHere : step ≠ ".") (notUp : step ≠ "..")
      (found : tree.node? (place ++ [step]) = some node) (noLink : ∀ target, node ≠ .link target) :
      Asks tree place (step :: steps) (place ++ [step]) steps
  | stay {place next : Location} {step : String} {steps left : List String} (stays : step = ".")
      (onward : Asks tree place steps next left) : Asks tree place (step :: steps) next left
  | up {place next : Location} {step : String} {steps left : List String} (upwards : step = "..")
      (onward : Asks tree place.dropLast steps next left) :
      Asks tree place (step :: steps) next left
  | into {place next : Location} {step : String} {steps left : List String} {node : Node}
      (notHere : step ≠ ".") (notUp : step ≠ "..")
      (found : tree.node? (place ++ [step]) = some node) (noLink : ∀ target, node ≠ .link target)
      (onward : Asks tree (place ++ [step]) steps next left) :
      Asks tree place (step :: steps) next left
  | along {place next : Location} {step : String} {steps left : List String} {target : String}
      (notHere : step ≠ ".") (notUp : step ≠ "..")
      (found : tree.node? (place ++ [step]) = some (.link target))
      (onward : Asks tree (startOf place target) (Path.steps target ++ steps) next left) :
      Asks tree place (step :: steps) next left

/-- The system asks for no place by its absolute path, so it takes every way that is found so. -/
theorem LeadsBy.leads {links : Nat} {place location : Location} {steps : List String}
    (leads : tree.LeadsBy .absolute links place steps location) :
    tree.Leads links place steps location := by
  have named : ∀ {place step}, IsName .absolute place step →
      IsName (.stepwise .utf8) place step :=
    fun name => ⟨name.notHere, name.notUp, name.short, rfl⟩
  induction leads with
  | done => exact .done
  | stay directory stays _ ih => exact .stay directory stays ih
  | up directory upwards _ ih => exact .up directory upwards ih
  | into directory name found noLink _ _ ih => exact .into directory (named name) found noLink rfl ih
  | along directory name found _ ih => exact .along directory (named name) found ih

/-- A way is found by absolute paths if none of those that are asked for is too long. -/
theorem LeadsBy.absolute {links : Nat} {place location : Location} {steps : List String}
    (leads : tree.Leads links place steps location)
    (asked : ∀ next left, tree.Asks place steps next left →
      Lookup.absolute.asks next left = true) :
    tree.LeadsBy .absolute links place steps location := by
  induction leads with
  | done => exact .done
  | stay directory stays _ ih =>
      exact .stay directory stays (ih fun next left asks => asked next left (.stay stays asks))
  | up directory upwards _ ih =>
      exact .up directory upwards (ih fun next left asks => asked next left (.up upwards asks))
  | into directory name found noLink _ _ ih =>
      have onward := ih fun next left asks =>
        asked next left (.into name.notHere name.notUp found noLink asks)
      have first := asked _ _ (.name name.notHere name.notUp)
      have passed := asked _ _ (.pass name.notHere name.notUp found noLink)
      exact .into directory ⟨name.notHere, name.notUp, name.short, first⟩ found noLink passed onward
  | along directory name found _ ih =>
      have onward := ih fun next left asks =>
        asked next left (.along name.notHere name.notUp found asks)
      have first := asked _ _ (.name name.notHere name.notUp)
      exact .along directory ⟨name.notHere, name.notUp, name.short, first⟩ found onward

/-- Those that are asked for on a way that is found by absolute paths are not too long. -/
theorem LeadsBy.asked {links : Nat} {place location next : Location} {steps left : List String}
    (leads : tree.LeadsBy .absolute links place steps location)
    (asks : tree.Asks place steps next left) : Lookup.absolute.asks next left = true := by
  induction leads generalizing next left with
  | done => cases asks
  | stay _ stays _ ih =>
      cases asks with
      | stay _ onward => exact ih onward
      | up upwards => exact absurd (stays ▸ upwards) (by decide)
      | name notHere | pass notHere | into notHere | along notHere => exact absurd stays notHere
  | up _ upwards _ ih =>
      cases asks with
      | stay stays => exact absurd (upwards ▸ stays) (by decide)
      | up _ onward => exact ih onward
      | name _ notUp | pass _ notUp | into _ notUp | along _ notUp => exact absurd upwards notUp
  | into _ named found noLink passed _ ih =>
      cases asks with
      | name => exact named.asked
      | pass => exact passed
      | stay stays => exact absurd stays named.notHere
      | up upwards => exact absurd upwards named.notUp
      | into _ _ _ _ onward => exact ih onward
      | along _ _ link =>
          rw [found] at link
          exact absurd (Option.some.inj link) (noLink _)
  | along _ named found _ ih =>
      cases asks with
      | name => exact named.asked
      | pass _ _ other noLink =>
          rw [found] at other
          exact absurd (Option.some.inj other).symm (noLink _)
      | stay stays => exact absurd stays named.notHere
      | up upwards => exact absurd upwards named.notUp
      | into _ _ other noLink =>
          rw [found] at other
          exact absurd (Option.some.inj other).symm (noLink _)
      | along _ _ link onward =>
          rw [found] at link
          cases link
          exact ih onward

/-! ### Ways put together and taken apart -/

section Stepwise

variable {reading : Path.Reading}

theorem LeadsBy.append {links more : Nat} {place middle location : Location}
    {before after : List String}
    (first : tree.LeadsBy (.stepwise reading) links place before middle)
    (second : tree.LeadsBy (.stepwise reading) more middle after location) :
    tree.LeadsBy (.stepwise reading) (links + more) place (before ++ after) location := by
  induction first with
  | done =>
      rw [Nat.zero_add]
      exact second
  | stay directory stays _ ih => exact .stay directory stays (ih second)
  | up directory upwards _ ih => exact .up directory upwards (ih second)
  | into directory named found noLink _ _ ih =>
      exact .into directory named found noLink rfl (ih second)
  | along directory named found _ ih =>
      have onward := ih second
      rw [List.append_assoc] at onward
      rw [Nat.add_right_comm]
      exact .along directory named found onward

theorem LeadsBy.split {links : Nat} {place location : Location} {before after : List String}
    (leads : tree.LeadsBy (.stepwise reading) links place (before ++ after) location) :
    ∃ first second middle, links = first + second ∧
      tree.LeadsBy (.stepwise reading) first place before middle ∧
        tree.LeadsBy (.stepwise reading) second middle after location := by
  -- the way ends within the steps before only where all of them are taken
  cases before with
  | nil => exact ⟨0, links, place, (Nat.zero_add links).symm, .done, leads⟩
  | cons step before =>
      cases leads with
      | stay directory stays onward =>
          obtain ⟨first, second, middle, total, taken, left⟩ := onward.split
          exact ⟨first, second, middle, total, .stay directory stays taken, left⟩
      | up directory upwards onward =>
          obtain ⟨first, second, middle, total, taken, left⟩ := onward.split
          exact ⟨first, second, middle, total, .up directory upwards taken, left⟩
      | into directory named found noLink passed onward =>
          obtain ⟨first, second, middle, total, taken, left⟩ := onward.split
          exact ⟨first, second, middle, total, .into directory named found noLink rfl taken, left⟩
      | @along _ _ _ _ _ target directory named found onward =>
          change tree.LeadsBy _ _ _ (Path.steps target ++ (before ++ after)) location at onward
          rw [← List.append_assoc] at onward
          obtain ⟨first, second, middle, total, taken, left⟩ := onward.split
          refine ⟨first + 1, second, middle, ?_, .along directory named found taken, left⟩
          rw [total, Nat.add_right_comm]

end Stepwise

/-! ### Where ways end -/

theorem LeadsBy.isSome_node? (grounded : tree.Grounded) {links : Nat} {place location : Location}
    {steps : List String} (leads : tree.LeadsBy lookup links place steps location)
    (present : (tree.node? place).isSome) : (tree.node? location).isSome := by
  induction leads with
  | done => exact present
  | stay _ _ _ ih => exact ih present
  | up _ _ _ ih =>
      rw [grounded.directory_dropLast present] at ih
      exact ih rfl
  | into _ _ found _ _ _ ih =>
      rw [found] at ih
      exact ih rfl
  | along _ _ _ _ ih =>
      apply ih
      unfold startOf
      split
      · rfl
      · exact present

/-- What is found by absolute paths and is no directory has a short one. -/
theorem LeadsBy.short_of_noDirectory (grounded : tree.Grounded) {links : Nat}
    {place location : Location} {steps : List String}
    (leads : tree.LeadsBy .absolute links place steps location)
    (start : tree.node? place = some .directory ∨ place.text.utf8ByteSize ≤ pathLimit) :
    tree.node? location = some .directory ∨ location.text.utf8ByteSize ≤ pathLimit := by
  induction leads with
  | done => exact start
  | stay _ _ _ ih => exact ih start
  | up directory _ _ ih =>
      exact ih (.inl (grounded.directory_dropLast (Option.isSome_of_eq_some directory)))
  | into _ named _ _ _ _ ih =>
      exact ih (.inr (Nat.le_trans (Nat.le_add_right _ _) (Lookup.absolute_asks.mp named.asked)))
  | along directory _ _ _ ih =>
      apply ih
      unfold startOf
      split
      · exact .inl rfl
      · exact .inl directory

theorem LeadsBy.directory_of_ne_nil {links : Nat} {place location : Location} {steps : List String}
    (leads : tree.LeadsBy lookup links place steps location) (some : steps ≠ []) :
    tree.node? place = .some .directory := by
  cases leads with
  | done => exact absurd rfl some
  | stay directory => exact directory
  | up directory => exact directory
  | into directory => exact directory
  | along directory => exact directory

theorem LeadsBy.of_here {links : Nat} {place location : Location} {steps : List String}
    (leads : tree.LeadsBy lookup links place ("." :: steps) location) :
    tree.node? place = some .directory ∧ tree.LeadsBy lookup links place steps location := by
  cases leads with
  | stay directory _ onward => exact ⟨directory, onward⟩
  | up _ upwards => exact absurd upwards (by decide)
  | into _ named => exact absurd rfl named.notHere
  | along _ named => exact absurd rfl named.notHere

/-- Steps on the spot can be left out. -/
theorem LeadsBy.filter_here {links : Nat} {place location : Location} {steps : List String}
    (leads : tree.Leads links place steps location) :
    tree.Leads links place (steps.filter (· ≠ ".")) location := by
  induction steps generalizing links place with
  | nil => exact leads
  | cons step steps ih =>
      obtain ⟨first, second, middle, total, taken, left⟩ :=
        @LeadsBy.split tree .utf8 links place location [step] steps leads
      rw [total]
      by_cases stays : step = "."
      · rw [stays] at taken ⊢
        cases taken.of_here.2
        rw [List.filter_cons_of_neg (by decide), Nat.zero_add]
        exact ih left
      · rw [List.filter_cons_of_pos (by simpa using stays)]
        exact taken.append (ih left)

/-- They can be put in as well if the way ends in a directory. -/
theorem LeadsBy.of_filter_here {links : Nat} {place location : Location} {steps : List String}
    (directory : tree.node? location = some .directory)
    (leads : tree.Leads links place (steps.filter (· ≠ ".")) location) :
    tree.Leads links place steps location := by
  induction steps generalizing links place with
  | nil => exact leads
  | cons step steps ih =>
      by_cases stays : step = "."
      · rw [stays, List.filter_cons_of_neg (by decide)] at leads
        have onward := ih leads
        have standing : tree.node? place = some .directory := by
          by_cases done : steps = []
          · rw [done] at onward
            cases onward
            exact directory
          · exact onward.directory_of_ne_nil done
        exact .stay standing stays onward
      · rw [List.filter_cons_of_pos (by simpa using stays)] at leads
        obtain ⟨first, second, middle, total, taken, left⟩ :=
          @LeadsBy.split tree .utf8 links place location [step] _ leads
        rw [total]
        exact taken.append (ih left)

/-! ### Paths -/

theorem resolveBy_eq_ok {here location : Location} {path : String} :
    tree.resolveBy lookup here path = .ok location ↔
      '\x00' ∉ path.toList ∧ path ≠ "" ∧
        ∃ links ≤ linkLimit,
          tree.LeadsBy lookup links (startOf here path) (Path.steps path) location := by
  rw [← walk_eq_ok]
  unfold resolveBy
  by_cases nul : '\x00' ∈ path.toList
  · rw [if_pos (List.contains_iff_mem.mpr nul)]
    constructor
    · intro impossible
      cases impossible
    · intro ⟨free, _⟩
      exact absurd nul free
  · rw [if_neg (fun found => nul (List.contains_iff_mem.mp found))]
    by_cases empty : path = ""
    · rw [if_pos empty]
      constructor
      · intro impossible
        cases impossible
      · intro ⟨_, nonempty, _⟩
        exact absurd empty nonempty
    · rw [if_neg empty, and_iff_right nul, and_iff_right empty]
      rfl

theorem resolve_eq_ok {here location : Location} {path : String} :
    tree.resolve here path = .ok location ↔
      '\x00' ∉ path.toList ∧ path ≠ "" ∧
        ∃ links ≤ linkLimit, tree.Leads links (startOf here path) (Path.steps path) location :=
  resolveBy_eq_ok

/-- Absolute paths change what is found to an error only. -/
theorem canonicalize_eq_resolve_or (here : Location) (path : String) :
    tree.canonicalize here path = tree.resolve here path ∨
      tree.canonicalize here path = .error .nameTooLong := by
  unfold canonicalize resolve resolveBy
  by_cases nul : path.toList.contains '\x00' = true
  · exact .inl (by rw [if_pos nul, if_pos nul])
  rw [if_neg nul, if_neg nul]
  by_cases empty : path = ""
  · exact .inl (by rw [if_pos empty, if_pos empty])
  rw [if_neg empty, if_neg empty]
  exact walkBy_absolute linkLimit _ _

/-- The location without links is where the path leads. -/
theorem resolve_of_canonicalize {here location : Location} {path : String}
    (found : tree.canonicalize here path = .ok location) :
    tree.resolve here path = .ok location := by
  obtain ⟨free, nonempty, links, few, leads⟩ := resolveBy_eq_ok.mp found
  exact resolve_eq_ok.mpr ⟨free, nonempty, links, few, leads.leads⟩

/-- Every place on the way along a path can be asked for by its absolute path. -/
def AsksShort (tree : FileTree) (here : Location) (path : String) : Prop :=
  ∀ place left, tree.Asks (startOf here path) (Path.steps path) place left →
    Lookup.absolute.asks place left = true

theorem canonicalize_eq_ok {here location : Location} {path : String} :
    tree.canonicalize here path = .ok location ↔
      tree.resolve here path = .ok location ∧ tree.AsksShort here path := by
  unfold canonicalize
  constructor
  · intro found
    obtain ⟨_, _, _, _, leads⟩ := resolveBy_eq_ok.mp found
    exact ⟨resolve_of_canonicalize found, fun _ _ asks => leads.asked asks⟩
  · intro ⟨resolved, short⟩
    obtain ⟨free, nonempty, links, few, leads⟩ := resolve_eq_ok.mp resolved
    exact resolveBy_eq_ok.mpr ⟨free, nonempty, links, few, leads.absolute short⟩

/-- A file that is found by absolute paths can be asked for by its own. -/
theorem nodeAt?_of_canonicalize (grounded : tree.Grounded) {here location : Location}
    {path : String} {content : List UInt8} (found : tree.canonicalize here path = .ok location)
    (isFile : tree.node? location = some (.file content)) :
    tree.nodeAt? location = some (.file content) := by
  obtain ⟨_, _, links, _, leads⟩ := resolveBy_eq_ok.mp found
  have start := leads.directory_of_ne_nil (Path.steps_ne_nil path)
  rcases leads.short_of_noDirectory grounded (.inl start) with directory | short
  · rw [isFile] at directory
    cases directory
  · rw [nodeAt?, if_neg (Nat.not_lt.mpr short), isFile]

/-- A path that leads somewhere is not found only if a place on the way has too long a path. -/
theorem canonicalize_eq_nameTooLong {here location : Location} {path : String}
    (resolved : tree.resolve here path = .ok location) (long : ¬ tree.AsksShort here path) :
    tree.canonicalize here path = .error .nameTooLong := by
  rcases canonicalize_eq_resolve_or here path with same | refused
  · exact absurd (canonicalize_eq_ok.mp (same.trans resolved)).2 long
  · exact refused

theorem isSome_node?_of_resolve (grounded : tree.Grounded) {here location : Location}
    {path : String} (resolved : tree.resolve here path = .ok location) :
    (tree.node? location).isSome := by
  obtain ⟨_, _, links, _, leads⟩ := resolve_eq_ok.mp resolved
  have start := leads.directory_of_ne_nil (Path.steps_ne_nil path)
  exact leads.isSome_node? grounded (Option.isSome_of_eq_some start)

theorem atBy_of_resolveBy {reading : Path.Reading} {here location : Location} {path : String}
    (resolved : tree.resolveBy (.stepwise reading) here path = .ok location)
    (short : reading.size path ≤ pathLimit) :
    tree.atBy reading here path = tree.node? location := by
  rw [atBy, if_neg (Nat.not_lt.mpr short), resolved]

theorem at?_of_resolve {here location : Location} {path : String}
    (resolved : tree.resolve here path = .ok location) (short : path.utf8ByteSize ≤ pathLimit) :
    tree.at? here path = tree.node? location :=
  atBy_of_resolveBy resolved short

theorem isFileBy_iff {reading : Path.Reading} {here : Location} {path : String} :
    tree.isFileBy reading here path = true ↔
      reading.size path ≤ pathLimit ∧ ∃ location content,
        tree.resolveBy (.stepwise reading) here path = .ok location ∧
          tree.node? location = some (.file content) := by
  unfold isFileBy atBy
  by_cases long : pathLimit < reading.size path
  · rw [if_pos long]
    simp [Nat.not_le.mpr long]
  · rw [if_neg long]
    cases tree.resolveBy (.stepwise reading) here path with
    | error error => simp
    | ok location =>
        simp only [Nat.le_of_not_lt long, true_and, Except.ok.injEq, exists_and_left,
          exists_eq_left']
        cases tree.node? location with
        | none => simp
        | some node => cases node <;> simp

theorem isFile_iff {here : Location} {path : String} :
    tree.isFile here path = true ↔
      path.utf8ByteSize ≤ pathLimit ∧ ∃ location content,
        tree.resolve here path = .ok location ∧ tree.node? location = some (.file content) :=
  isFileBy_iff

theorem node?_of_nodeAt? {location : Location} {node : Node}
    (found : tree.nodeAt? location = some node) : tree.node? location = some node := by
  unfold nodeAt? at found
  split at found
  · cases found
  · exact found

theorem isFileIn_iff {directory : Location} {name : String} :
    tree.isFileIn directory name = true ↔
      (Location.text (directory ++ [name])).utf8ByteSize ≤ pathLimit ∧
        tree.isFile directory name = true := by
  rw [isFileIn, Bool.and_eq_true, decide_eq_true_eq]

def EndsAtLink (tree : FileTree) (here : Location) (path : String) : Prop :=
  ∃ place target, tree.placeOf? here path = some place ∧ tree.node? place = some (.link target)

theorem not_endsAtLink {here place : Location} {path : String}
    (placed : tree.placeOf? here path = some place)
    (noLink : ∀ target, tree.node? place ≠ some (.link target)) : ¬ tree.EndsAtLink here path := by
  intro ⟨other, target, alsoPlaced, link⟩
  rw [placed] at alsoPlaced
  cases alsoPlaced
  exact noLink target link

theorem placeOf?_of_leads {links : Nat} {here directory : Location} {path last : String}
    {before : List String} (taken : Path.steps path = before ++ [last])
    (leads : tree.Leads links (startOf here path) before directory) (few : links ≤ linkLimit)
    (isDirectory : tree.node? directory = some .directory) (notHere : last ≠ ".")
    (notUp : last ≠ "..") : tree.placeOf? here path = some (directory ++ [last]) := by
  unfold placeOf? splitLast?
  rw [taken, List.reverse_append, List.reverse_singleton, List.singleton_append]
  dsimp only
  rw [List.reverse_reverse, walk, leads.walkBy, if_pos few]
  simp [isDirectory, notHere, notUp]

/-- Where the last step is no link, the steps before it lead to the directory of a file, and it has
the name of the last step. -/
theorem leads_of_file (grounded : tree.Grounded) {here location : Location} {path : String}
    {content : List UInt8} (resolved : tree.resolve here path = .ok location)
    (isFile : tree.node? location = some (.file content)) (ordinary : ¬ tree.EndsAtLink here path)
    {before : List String} {last : String} (taken : Path.steps path = before ++ [last]) :
    last ≠ "." ∧ last ≠ ".." ∧ ∃ links directory, links ≤ linkLimit ∧
      tree.Leads links (startOf here path) before directory ∧
        tree.node? directory = some .directory ∧ location = directory ++ [last] := by
  obtain ⟨_, _, links, few, leads⟩ := resolve_eq_ok.mp resolved
  rw [taken] at leads
  obtain ⟨first, second, middle, total, leadsBefore, leadsLast⟩ := leads.split
  have firstFew : first ≤ linkLimit := by omega
  cases leadsLast with
  | stay directory _ onward =>
      cases onward
      rw [directory] at isFile
      cases isFile
  | up directory _ onward =>
      cases onward
      have above := grounded.directory_dropLast (Option.isSome_of_eq_some directory)
      rw [above] at isFile
      cases isFile
  | into directory named found noLink _ onward =>
      cases onward
      exact ⟨named.notHere, named.notUp, first, middle, firstFew, leadsBefore, directory, rfl⟩
  | @along _ _ _ _ _ target directory named found onward =>
      have place :=
        placeOf?_of_leads taken leadsBefore firstFew directory named.notHere named.notUp
      exact absurd ⟨_, target, place, found⟩ ordinary

end IssueReport.FileTree
