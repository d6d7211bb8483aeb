import IssueReport.Pipeline
/-!
One scan over diagnostics. The payloads in the diagnostics with the code of plugins are converted in
the order of their positions, and each becomes one issue or one failure. A scan that finds every
such diagnostic converted changes nothing.
-/

namespace IssueReport.Pipeline

/-- A payload with the positions of its diagnostic and of its property. -/
structure Located where
  diagnostic : Nat
  property : Nat
  payload : Payload

namespace Located

def issue? (located : Located) : Option Issue :=
  match located.payload.convert with
  | .ok issue => some issue
  | .error _ => none

def failure? (located : Located) : Option ExtractionFailure :=
  match located.payload.convert with
  | .ok _ => none
  | .error error => some ⟨located.diagnostic, located.property, error⟩

end Located

def payloadsOf (diagnostic position : Nat) (properties : List Property) : List Located :=
  (properties.zipIdx position).filterMap fun entry =>
    entry.1.payload?.map fun payload => ⟨diagnostic, entry.2, payload⟩

def payloadsFrom (code : String) (position : Nat) (diagnostics : List Diagnostic) : List Located :=
  ((diagnostics.zipIdx position).filter fun entry => entry.1.code = code).flatMap fun entry =>
    payloadsOf entry.2 0 entry.1.properties

/-- The payloads in those of the diagnostics that have a code. -/
def payloads (code : String) (diagnostics : List Diagnostic) : List Located :=
  payloadsFrom code 0 diagnostics

/-! ### Positions -/

theorem mem_payloadsOf {diagnostic position : Nat} {properties : List Property}
    {located : Located} :
    located ∈ payloadsOf diagnostic position properties ↔
      located.diagnostic = diagnostic ∧
        ∃ offset, located.property = position + offset ∧
          properties[offset]?.bind Property.payload? = some located.payload := by
  unfold payloadsOf
  rw [List.mem_filterMap]
  constructor
  · rintro ⟨⟨property, place⟩, member, found⟩
    obtain ⟨payload, held, same⟩ := Option.map_eq_some_iff.mp found
    obtain ⟨after, at_place⟩ := List.mk_mem_zipIdx_iff_le_and_getElem?_sub.mp member
    subst same
    refine ⟨rfl, place - position, (Nat.add_sub_cancel' after).symm, ?_⟩
    rw [at_place]
    exact held
  · rintro ⟨sameDiagnostic, offset, sameProperty, found⟩
    obtain ⟨property, at_offset, held⟩ := Option.bind_eq_some_iff.mp found
    refine ⟨(property, position + offset), ?_, ?_⟩
    · apply List.mk_mem_zipIdx_iff_le_and_getElem?_sub.mpr
      rw [Nat.add_sub_cancel_left]
      exact ⟨Nat.le_add_right position offset, at_offset⟩
    · simp only [held, Option.map_some, ← sameDiagnostic, ← sameProperty]

/-- The payloads of diagnostics with a code are those at the positions of their properties. -/
theorem mem_payloads {code : String} {diagnostics : List Diagnostic} {located : Located} :
    located ∈ payloads code diagnostics ↔
      ∃ diagnostic, diagnostics[located.diagnostic]? = some diagnostic ∧
        diagnostic.code = code ∧
        diagnostic.properties[located.property]?.bind Property.payload? =
          some located.payload := by
  unfold payloads payloadsFrom
  rw [List.mem_flatMap]
  constructor
  · rintro ⟨⟨diagnostic, index⟩, member, found⟩
    obtain ⟨inList, coded⟩ := List.mem_filter.mp member
    obtain ⟨sameDiagnostic, offset, sameProperty, held⟩ := mem_payloadsOf.mp found
    rw [Nat.zero_add] at sameProperty
    refine ⟨diagnostic, ?_, of_decide_eq_true coded, ?_⟩
    · rw [sameDiagnostic]
      exact List.mk_mem_zipIdx_iff_getElem?.mp inList
    · rw [sameProperty]
      exact held
  · rintro ⟨diagnostic, at_index, coded, held⟩
    refine ⟨(diagnostic, located.diagnostic), ?_, ?_⟩
    · apply List.mem_filter.mpr
      exact ⟨List.mk_mem_zipIdx_iff_getElem?.mpr at_index, decide_eq_true coded⟩
    · exact mem_payloadsOf.mpr ⟨rfl, located.property, (Nat.zero_add _).symm, held⟩

theorem payloadsOf_cons (diagnostic position : Nat) (property : Property)
    (properties : List Property) :
    payloadsOf diagnostic position (property :: properties) =
      (property.payload?.map fun payload => ⟨diagnostic, position, payload⟩).toList ++
        payloadsOf diagnostic (position + 1) properties := by
  unfold payloadsOf
  rw [List.zipIdx_cons, List.filterMap_cons]
  cases property.payload? <;> rfl

theorem payloadsFrom_cons (code : String) (position : Nat) (diagnostic : Diagnostic)
    (diagnostics : List Diagnostic) :
    payloadsFrom code position (diagnostic :: diagnostics) =
      (if diagnostic.code = code then payloadsOf position 0 diagnostic.properties else []) ++
        payloadsFrom code (position + 1) diagnostics := by
  unfold payloadsFrom
  rw [List.zipIdx_cons, List.filter_cons]
  by_cases coded : diagnostic.code = code
  · simp only [coded, decide_true, if_true, List.flatMap_cons]
  · simp only [coded, decide_false, Bool.false_eq_true, if_false, List.nil_append]

def Located.place (located : Located) : Nat × Nat :=
  (located.diagnostic, located.property)

theorem payloadsOf_nodup (diagnostic position : Nat) (properties : List Property) :
    ((payloadsOf diagnostic position properties).map Located.place).Nodup := by
  induction properties generalizing position with
  | nil => exact List.nodup_nil
  | cons property properties ih =>
      rw [payloadsOf_cons]
      cases held : property.payload? with
      | none => exact ih (position + 1)
      | some payload =>
          simp only [Option.map_some, Option.toList_some, List.singleton_append, List.map_cons]
          apply List.nodup_cons.mpr
          refine ⟨?_, ih (position + 1)⟩
          intro member
          obtain ⟨located, found, same⟩ := List.mem_map.mp member
          obtain ⟨_, offset, later, _⟩ := mem_payloadsOf.mp found
          have equal : located.property = position := congrArg Prod.snd same
          omega

theorem payloadsFrom_le {code : String} {position : Nat} {diagnostics : List Diagnostic}
    {located : Located} (member : located ∈ payloadsFrom code position diagnostics) :
    position ≤ located.diagnostic := by
  obtain ⟨⟨diagnostic, index⟩, inList, found⟩ := List.mem_flatMap.mp member
  rw [(mem_payloadsOf.mp found).1]
  exact List.le_snd_of_mem_zipIdx (List.mem_filter.mp inList).1

theorem payloadsFrom_nodup (code : String) (position : Nat) (diagnostics : List Diagnostic) :
    ((payloadsFrom code position diagnostics).map Located.place).Nodup := by
  induction diagnostics generalizing position with
  | nil => exact List.nodup_nil
  | cons diagnostic diagnostics ih =>
      rw [payloadsFrom_cons]
      by_cases coded : diagnostic.code = code
      · rw [if_pos coded, List.map_append]
        apply List.nodup_append.mpr
        refine ⟨payloadsOf_nodup _ _ _, ih (position + 1), ?_⟩
        rintro first firstMember second secondMember rfl
        obtain ⟨early, earlyAt, rfl⟩ := List.mem_map.mp firstMember
        obtain ⟨late, lateAt, same⟩ := List.mem_map.mp secondMember
        have equal : late.diagnostic = early.diagnostic := congrArg Prod.fst same
        have earlyPosition := (mem_payloadsOf.mp earlyAt).1
        have latePosition := payloadsFrom_le lateAt
        omega
      · rw [if_neg coded]
        exact ih (position + 1)

theorem payloads_nodup (code : String) (diagnostics : List Diagnostic) :
    ((payloads code diagnostics).map Located.place).Nodup :=
  payloadsFrom_nodup code 0 diagnostics

/-- Every payload becomes one issue or one failure. -/
theorem issues_add_failures (located : List Located) :
    (located.filterMap Located.issue?).length + (located.filterMap Located.failure?).length =
      located.length := by
  induction located with
  | nil => rfl
  | cons first located ih =>
      simp only [List.filterMap_cons, Located.issue?, Located.failure?, List.length_cons] at ih ⊢
      cases first.payload.convert with
      | ok issue =>
          simp only [List.length_cons]
          omega
      | error error =>
          simp only [List.length_cons]
          omega

/-! ### Payloads without positions -/

def payloadsIn (code : String) (diagnostics : List Diagnostic) : List Payload :=
  (diagnostics.filter fun diagnostic => diagnostic.code = code).flatMap fun diagnostic =>
    diagnostic.properties.filterMap Property.payload?

theorem payloadsIn_cons (code : String) (diagnostic : Diagnostic)
    (diagnostics : List Diagnostic) :
    payloadsIn code (diagnostic :: diagnostics) =
      (if diagnostic.code = code then diagnostic.properties.filterMap Property.payload? else []) ++
        payloadsIn code diagnostics := by
  unfold payloadsIn
  rw [List.filter_cons]
  by_cases coded : diagnostic.code = code
  · simp only [coded, decide_true, if_true, List.flatMap_cons]
  · simp only [coded, decide_false, Bool.false_eq_true, if_false, List.nil_append]

theorem payloadsIn_flatMap {Source : Type} (code : String) (sources : List Source)
    (found : Source → List Diagnostic) :
    payloadsIn code (sources.flatMap found) =
      sources.flatMap fun source => payloadsIn code (found source) := by
  unfold payloadsIn
  induction sources with
  | nil => rfl
  | cons source sources ih =>
      rw [List.flatMap_cons, List.filter_append, List.flatMap_append, ih, List.flatMap_cons]

theorem payloadsIn_eq_flatMap (code : String) (diagnostics : List Diagnostic) :
    payloadsIn code diagnostics =
      diagnostics.flatMap fun diagnostic => payloadsIn code [diagnostic] := by
  rw [← payloadsIn_flatMap, List.flatMap_singleton']

theorem payloadsOf_map_payload (diagnostic position : Nat) (properties : List Property) :
    (payloadsOf diagnostic position properties).map Located.payload =
      properties.filterMap Property.payload? := by
  induction properties generalizing position with
  | nil => rfl
  | cons property properties ih =>
      rw [payloadsOf_cons, List.map_append, ih, List.filterMap_cons]
      cases property.payload? <;> rfl

theorem payloadsFrom_map_payload (code : String) (position : Nat)
    (diagnostics : List Diagnostic) :
    (payloadsFrom code position diagnostics).map Located.payload =
      payloadsIn code diagnostics := by
  induction diagnostics generalizing position with
  | nil => rfl
  | cons diagnostic diagnostics ih =>
      rw [payloadsFrom_cons, payloadsIn_cons, List.map_append, ih]
      by_cases coded : diagnostic.code = code
      · rw [if_pos coded, if_pos coded, payloadsOf_map_payload]
      · rw [if_neg coded, if_neg coded, List.map_nil]

theorem issues_eq_filterMap (located : List Located) :
    located.filterMap Located.issue? =
      (located.map Located.payload).filterMap fun payload => payload.convert.toOption := by
  rw [List.filterMap_map]
  congr 1
  funext one
  simp only [Located.issue?, Function.comp_apply]
  cases one.payload.convert <;> rfl

/-- Payloads that are all converted give their issues, and no failures. -/
theorem issues_of_convert {located : List Located} {issues : List Issue}
    (converted : (located.map Located.payload).map Payload.convert = issues.map .ok) :
    located.filterMap Located.issue? = issues ∧ located.filterMap Located.failure? = [] := by
  induction located generalizing issues with
  | nil =>
      have nothing := List.map_eq_nil_iff.mp converted.symm
      rw [nothing]
      exact ⟨rfl, rfl⟩
  | cons first located ih =>
      cases issues with
      | nil => cases converted
      | cons issue issues =>
          simp only [List.map_cons, List.cons.injEq] at converted
          obtain ⟨head, tail⟩ := converted
          obtain ⟨found, failed⟩ := ih tail
          have isIssue : first.issue? = some issue := by
            rw [Located.issue?, head]
          have isNoFailure : first.failure? = none := by
            rw [Located.failure?, head]
          rw [List.filterMap_cons_some isIssue, List.filterMap_cons_none isNoFailure, found,
            failed]
          exact ⟨rfl, rfl⟩

/-! ### Extracting -/

def extraction (located : List Located) : Extraction :=
  ⟨located.filterMap Located.issue?, located.filterMap Located.failure?⟩

theorem extraction_append (first second : List Located) :
    extraction (first ++ second) = (extraction first).append (extraction second) := by
  simp only [extraction, Extraction.append, List.filterMap_append]

theorem extractProperty_eq (diagnostic position : Nat) (property : Property) :
    extractProperty diagnostic position property =
      extraction (property.payload?.map fun payload =>
        (⟨diagnostic, position, payload⟩ : Located)).toList := by
  unfold extractProperty
  cases property.payload? with
  | none => rfl
  | some payload =>
      cases converted : payload.convert with
      | ok issue => simp [extraction, Located.issue?, Located.failure?, converted]
      | error error => simp [extraction, Located.issue?, Located.failure?, converted]

theorem extractProperties_eq (diagnostic position : Nat) (properties : List Property) :
    extractProperties diagnostic position properties =
      extraction (payloadsOf diagnostic position properties) := by
  induction properties generalizing position with
  | nil => rfl
  | cons property properties ih =>
      rw [extractProperties, ih, extractProperty_eq, payloadsOf_cons, extraction_append]

theorem extract_eq (position : Nat) (diagnostic : Diagnostic) :
    extract position diagnostic = extraction (payloadsOf position 0 diagnostic.properties) :=
  extractProperties_eq position 0 diagnostic.properties

/-! ### Scanning -/

variable (pipeline : Pipeline)

def Run.absorb (run : Run) (positions : List Nat) (found : Extraction) : Run where
  report :=
    { run.report with
      issues := run.report.issues.append found.issues
      failures := run.report.failures ++ found.failures }
  converted := run.converted ++ positions
  walk := run.walk.log (found.failures.map failureEvent)

theorem Run.absorb_nothing (run : Run) : run.absorb [] (extraction []) = run := by
  simp [Run.absorb, extraction, Collection.append, WalkState.log]

theorem Run.absorb_absorb (run : Run) (early late : List Nat) (first second : Extraction) :
    (run.absorb early first).absorb late second =
      run.absorb (early ++ late) (first.append second) := by
  simp [Run.absorb, Extraction.append, Collection.append, WalkState.log]

def positionsFrom (code : String) (position : Nat) (diagnostics : List Diagnostic) : List Nat :=
  ((diagnostics.zipIdx position).filter fun entry => entry.1.code = code).map (·.2)

theorem positionsFrom_cons (code : String) (position : Nat) (diagnostic : Diagnostic)
    (diagnostics : List Diagnostic) :
    positionsFrom code position (diagnostic :: diagnostics) =
      (if diagnostic.code = code then [position] else []) ++
        positionsFrom code (position + 1) diagnostics := by
  unfold positionsFrom
  rw [List.zipIdx_cons, List.filter_cons]
  by_cases coded : diagnostic.code = code
  · simp only [coded, decide_true, if_true, List.map_cons, List.singleton_append]
  · simp only [coded, decide_false, Bool.false_eq_true, if_false, List.nil_append]

theorem scanDiagnostic_of_new {run : Run} {position : Nat} {diagnostic : Diagnostic}
    (new : position ∉ run.converted) :
    pipeline.scanDiagnostic run position diagnostic =
      run.absorb (if diagnostic.code = pipeline.code then [position] else [])
        (extraction (if diagnostic.code = pipeline.code then
          payloadsOf position 0 diagnostic.properties else [])) := by
  unfold scanDiagnostic
  have unseen : run.converted.contains position = false := by
    rw [List.contains_eq_mem, decide_eq_false_iff_not]
    exact new
  by_cases coded : diagnostic.code = pipeline.code
  · rw [if_pos coded, if_pos coded, ← extract_eq]
    simp only [coded, unseen, ne_eq, not_true_eq_false, decide_false, Bool.or_self,
      Bool.false_eq_true, if_false]
    rfl
  · rw [if_neg coded, if_neg coded, Run.absorb_nothing]
    simp only [ne_eq, coded, not_false_eq_true, decide_true, Bool.true_or, if_true]

theorem scanDiagnostic_of_converted {run : Run} {position : Nat} {diagnostic : Diagnostic}
    (converted : diagnostic.code = pipeline.code → position ∈ run.converted) :
    pipeline.scanDiagnostic run position diagnostic = run := by
  unfold scanDiagnostic
  by_cases coded : diagnostic.code = pipeline.code
  · have seen : run.converted.contains position = true := by
      rw [List.contains_eq_mem, decide_eq_true_eq]
      exact converted coded
    simp only [seen, Bool.or_true, if_true]
  · simp only [ne_eq, coded, not_false_eq_true, decide_true, Bool.true_or, if_true]

/-- A scan that meets no converted position converts every diagnostic with the code. -/
theorem scan_of_new {run : Run} {position : Nat} {diagnostics : List Diagnostic}
    (new : ∀ seen ∈ run.converted, seen < position) :
    pipeline.scan run position diagnostics =
      run.absorb (positionsFrom pipeline.code position diagnostics)
        (extraction (payloadsFrom pipeline.code position diagnostics)) := by
  induction diagnostics generalizing run position with
  | nil => exact (Run.absorb_nothing run).symm
  | cons diagnostic diagnostics ih =>
      have unseen : position ∉ run.converted := fun member => Nat.lt_irrefl _ (new _ member)
      rw [scan, scanDiagnostic_of_new pipeline unseen, ih, Run.absorb_absorb,
        positionsFrom_cons, payloadsFrom_cons, extraction_append]
      intro seen member
      rcases List.mem_append.mp member with old | here
      · exact Nat.lt_succ_of_lt (new seen old)
      · split at here
        · rw [List.mem_singleton.mp here]
          exact Nat.lt_succ_self position
        · cases here

/-- A scan that meets only converted positions changes nothing. -/
theorem scan_of_converted {run : Run} {position : Nat} {diagnostics : List Diagnostic}
    (converted : ∀ seen ∈ positionsFrom pipeline.code position diagnostics,
      seen ∈ run.converted) :
    pipeline.scan run position diagnostics = run := by
  induction diagnostics generalizing position with
  | nil => rfl
  | cons diagnostic diagnostics ih =>
      rw [positionsFrom_cons] at converted
      have first : diagnostic.code = pipeline.code → position ∈ run.converted := by
        intro coded
        apply converted
        rw [if_pos coded]
        exact List.mem_append_left _ (List.mem_singleton_self position)
      rw [scan, scanDiagnostic_of_converted pipeline first]
      exact ih fun seen member => converted seen (List.mem_append_right _ member)

end IssueReport.Pipeline
