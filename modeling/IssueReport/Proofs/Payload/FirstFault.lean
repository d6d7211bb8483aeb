import IssueReport.Proofs.Issue.Validity
/-!
What a conversion asks of a payload and what it says of the first fault. Accessors are asked in the
order of the contract, each once, up to the first that does not answer as the contract says; only if
all of them do are the values checked.
-/

namespace IssueReport

def Accessor.isCoordinate : Accessor → Bool
  | .startLine => true
  | .startLineOffset => true
  | .endLine => true
  | .endLineOffset => true
  | .ruleId => false
  | .message => false
  | .issueType => false
  | .fileName => false
  | .reportedFilePath => false

namespace Payload

variable (payload : Payload)

def fault? (accessor : Accessor) : Option ShapeFault :=
  match payload.observe accessor.name, accessor.isCoordinate with
  | .error error, _ => some (.access error)
  | .ok (.integer _), true => none
  | .ok observation, true => some (.notInteger observation)
  | .ok (.text _), false => none
  | .ok observation, false => some (.notText observation)

end Payload

/-! ### Accessors in turn -/

namespace Inquiry

variable {Value Next : Type}

/-- An inquiry asks accessors in turn: all of them if every one answers as the contract says, and
otherwise up to the first that does not. -/
inductive Follows (payload : Payload) (accessors : List Accessor) (inquiry : Inquiry Value) : Prop
  | toEnd {value : Value} (sound : ∀ accessor ∈ accessors, payload.fault? accessor = none)
      (asked : inquiry.asked = accessors) (answered : inquiry.outcome = .ok value) :
      Follows payload accessors inquiry
  | upTo {before after : List Accessor} {accessor : Accessor} {fault : ShapeFault}
      (split : accessors = before ++ accessor :: after)
      (sound : ∀ earlier ∈ before, payload.fault? earlier = none)
      (faulty : payload.fault? accessor = some fault)
      (asked : inquiry.asked = before ++ [accessor])
      (refused : inquiry.outcome = .error (.incompatible accessor payload.typeName fault)) :
      Follows payload accessors inquiry

variable {payload : Payload}

theorem Follows.pure (value : Value) : Follows payload [] (pure value : Inquiry Value) :=
  .toEnd (List.forall_mem_nil _) rfl rfl

theorem Follows.bind {inquiry : Inquiry Value} {next : Value → Inquiry Next}
    {first second : List Accessor} (follows : Follows payload first inquiry)
    (onward : ∀ value, Follows payload second (next value)) :
    Follows payload (first ++ second) (inquiry >>= next) := by
  cases follows with
  | @upTo before after accessor fault split sound faulty asked refused =>
      have whole : first ++ second = before ++ accessor :: (after ++ second) := by
        rw [split, List.append_assoc, List.cons_append]
      rw [bind_of_error next refused]
      exact .upTo whole sound faulty asked rfl
  | @toEnd value sound asked answered =>
      rw [bind_of_ok next answered, asked]
      cases onward value with
      | toEnd soundNext askedNext answeredNext =>
          have askedAll : first ++ (next value).asked = first ++ second := by rw [askedNext]
          exact .toEnd (List.forall_mem_append.mpr ⟨sound, soundNext⟩) askedAll answeredNext
      | @upTo before after accessor fault split soundNext faulty askedNext refused =>
          have whole : first ++ second = (first ++ before) ++ accessor :: after := by
            rw [split, List.append_assoc]
          have askedAll : first ++ (next value).asked = (first ++ before) ++ [accessor] := by
            rw [askedNext, List.append_assoc]
          exact .upTo whole (List.forall_mem_append.mpr ⟨sound, soundNext⟩) faulty askedAll refused

end Inquiry

namespace Payload

variable {payload : Payload}

theorem follows_of_fault?_eq {Value : Type} {accessor : Accessor} {inquiry : Inquiry Value}
    (asked : inquiry.asked = [accessor])
    (sound : payload.fault? accessor = none → ∃ value, inquiry.outcome = .ok value)
    (faulty : ∀ fault, payload.fault? accessor = some fault →
      inquiry.outcome = .error (.incompatible accessor payload.typeName fault)) :
    Inquiry.Follows payload [accessor] inquiry := by
  cases found : payload.fault? accessor with
  | none =>
      obtain ⟨value, answered⟩ := sound found
      exact .toEnd (List.forall_mem_singleton.mpr found) asked answered
  | some fault =>
      have whole : [accessor] = [] ++ accessor :: [] := rfl
      exact .upTo whole (List.forall_mem_nil _) found asked (faulty fault found)

theorem follows_integer {accessor : Accessor} (wanted : accessor.isCoordinate = true) :
    Inquiry.Follows payload [accessor] (payload.integer accessor) := by
  apply follows_of_fault?_eq
  case asked => rfl
  all_goals
    unfold fault? integer
    rw [wanted]
    cases payload.observe accessor.name with
    | error error => simp
    | ok observation => cases observation <;> simp

theorem follows_text {accessor : Accessor} (wanted : accessor.isCoordinate = false) :
    Inquiry.Follows payload [accessor] (payload.text accessor) := by
  apply follows_of_fault?_eq
  case asked => rfl
  all_goals
    unfold fault? text
    rw [wanted]
    cases payload.observe accessor.name with
    | error error => simp
    | ok observation => cases observation <;> simp

/-- The nine parts are asked for in the order of the contract. -/
theorem follows_parts : Inquiry.Follows payload Accessor.all payload.parts :=
  (follows_integer rfl).bind fun _ => (follows_integer rfl).bind fun _ =>
    (follows_integer rfl).bind fun _ => (follows_integer rfl).bind fun _ =>
      (follows_text rfl).bind fun _ => (follows_text rfl).bind fun _ =>
        (follows_text rfl).bind fun _ => (follows_text rfl).bind fun _ =>
          (follows_text rfl).bind fun _ => .pure _

theorem queried_nodup : payload.queried.Nodup := by
  have distinct : Accessor.all.Nodup := by decide
  unfold queried
  cases @follows_parts payload with
  | toEnd _ asked _ =>
      rw [asked]
      exact distinct
  | @upTo before after accessor _ split _ _ asked _ =>
      have whole : Accessor.all = (before ++ [accessor]) ++ after := by
        rw [split, List.append_assoc, List.singleton_append]
      rw [whole] at distinct
      rw [asked]
      exact (List.nodup_append.mp distinct).1

/-! ### Conversions -/

/-- A conversion takes all nine answers or none. It fails for the first accessor of the contract
that does not answer as the contract says, whatever the values before it are, and only without one
for the first check that the values fail. -/
structure ReportsFirstFault (payload : Payload) : Prop where
  accepted : ∀ issue, payload.convert = .ok issue ↔
    ∃ parts, payload.Answers parts ∧ parts.Valid ∧ issue.toParts = parts
  incompatible : ∀ other, payload.fault? other ≠ none →
    ∃ before accessor after fault, Accessor.all = before ++ accessor :: after ∧
      (∀ earlier ∈ before, payload.fault? earlier = none) ∧
      payload.fault? accessor = some fault ∧
      payload.convert = .error (.incompatible accessor payload.typeName fault) ∧
      payload.queried = before ++ [accessor]
  invalid : (∀ accessor, payload.fault? accessor = none) →
    payload.queried = Accessor.all ∧
      ∃ parts, payload.Answers parts ∧
        ∀ fault others, parts.violations = fault :: others →
          payload.convert = .error (.invalid payload.typeName fault)
  queriedOnce : payload.queried.Nodup

theorem reportsFirstFault (payload : Payload) : payload.ReportsFirstFault where
  accepted := by
    intro issue
    simp only [convert_eq_ok, Issue.ofParts_eq_ok]
  incompatible := by
    intro other faulty
    cases @follows_parts payload with
    | toEnd sound _ _ => exact absurd (sound other (Accessor.mem_all other)) faulty
    | @upTo before after accessor fault split sound found asked refused =>
        refine ⟨before, accessor, after, fault, split, sound, found, ?_, asked⟩
        rw [convert, refused]
  invalid := by
    intro sound
    cases @follows_parts payload with
    | @toEnd parts _ asked answered =>
        have answers := parts_eq_ok.mp answered
        refine ⟨asked, parts, answers, ?_⟩
        intro fault others failed
        have rejected : Issue.ofParts parts = .error fault := by
          rw [Issue.ofParts_eq_error, failed, List.head?_cons]
        exact convert_eq_invalid.mpr ⟨rfl, parts, answers, rejected⟩
    | @upTo _ _ accessor _ _ _ found _ _ =>
        rw [sound accessor] at found
        cases found
  queriedOnce := queried_nodup

end Payload

end IssueReport
