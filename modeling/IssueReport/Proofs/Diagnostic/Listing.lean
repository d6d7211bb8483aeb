import IssueReport.Proofs.Diagnostic.Forms
import IssueReport.Proofs.Issue.Printing
import IssueReport.Proofs.Pipeline.Scan
/-!
Diagnostics that carry issues. A text that lists issues in groups is read to diagnostics whose
payloads are the values of these issues, in their order; and issues can be listed in such a text,
whatever they are and however they are grouped.
-/

namespace IssueReport.Wire

/-- A property carries an issue: it is of the open kind, and its value is that of the text of the
issue. -/
structure Property.Carries (property : Property) (issue : Issue) : Prop where
  kind : property.kind = .other
  value : Json.parse (Text.utf8 issue.compactText) = .ok property.value

structure Diagnostic.Carries (code : String) (diagnostic : Diagnostic) (issues : List Issue) :
    Prop where
  code : diagnostic.code = code
  properties : List.Forall₂ Property.Carries diagnostic.properties issues

/-- A text lists diagnostics that carry issues, each diagnostic a group of them. -/
def Lists (code : String) (text : Json.Input) (groups : List (List Issue)) : Prop :=
  ∃ elements diagnostics, Json.parseWritten text = .ok (.array elements) ∧
    List.Forall₂ DiagnosticForm elements diagnostics ∧
      List.Forall₂ (Diagnostic.Carries code) diagnostics groups

theorem Property.Carries.accept?_eq {property : Property} {issue : Issue}
    (carries : property.Carries issue) :
    property.accept? = some (.other (Payload.ofJson issue.toJson)) := by
  obtain ⟨kind, value⟩ := property
  obtain ⟨isOther, parsed⟩ := carries
  dsimp only at isOther parsed
  rw [issue.parse_compactText, Except.ok.injEq] at parsed
  rw [isOther, ← parsed]
  rfl

theorem payloads_of_carried {properties : List Property} {issues : List Issue}
    (carried : List.Forall₂ Property.Carries properties issues) :
    (properties.filterMap Property.accept?).filterMap IssueReport.Property.payload? =
      issues.map fun issue => Payload.ofJson issue.toJson := by
  induction carried with
  | nil => rfl
  | cons carries _ ih =>
      rw [List.filterMap_cons_some carries.accept?_eq, List.map_cons, ← ih]
      rfl

theorem payloadsIn_of_carried {code : String} {diagnostics : List Diagnostic}
    {groups : List (List Issue)}
    (carried : List.Forall₂ (Diagnostic.Carries code) diagnostics groups) :
    Pipeline.payloadsIn code (diagnostics.map Diagnostic.accept) =
      groups.flatten.map fun issue => Payload.ofJson issue.toJson := by
  induction carried with
  | nil => rfl
  | @cons diagnostic group diagnostics groups carries _ ih =>
      have coded : diagnostic.accept.code = code := carries.code
      rw [List.map_cons, Pipeline.payloadsIn_cons, if_pos coded, ih, List.flatten_cons,
        List.map_append, ← payloads_of_carried carries.properties]
      rfl

def element (code : String) (group : List Issue) : Json :=
  .object [("code", .text code), ("properties", .array (group.map fun issue =>
    .object [("kind", .text PropertyKind.other.name), ("value", issue.toJson)]))]

def elementDiagnostic (code : String) (group : List Issue) : Diagnostic :=
  ⟨code, "", group.map fun issue => ⟨.other, issue.toJson⟩⟩

theorem element_form (code : String) (group : List Issue) :
    DiagnosticForm (element code group) (elementDiagnostic code group) := by
  have properties : List.Forall₂ PropertyForm
      (group.map fun issue =>
        .object [("kind", .text PropertyKind.other.name), ("value", issue.toJson)])
      (group.map fun issue => ⟨.other, issue.toJson⟩) := by
    rw [List.forall₂_map_left_iff, List.forall₂_map_right_iff]
    apply List.forall₂_same.mpr
    intro issue _member
    have unrepeated : ∀ slot : PropertySlot, ["kind", "value"].count slot.name ≤ 1 := by
      intro slot
      cases slot <;> decide
    rw [← issue.settle_toJson]
    exact .members unrepeated rfl (.name .other) rfl
  have unrepeated : ∀ slot : DiagnosticSlot, ["code", "properties"].count slot.name ≤ 1 := by
    intro slot
    cases slot <;> decide
  exact .members unrepeated rfl .absent (.list properties)

theorem element_carries (code : String) (group : List Issue) :
    (elementDiagnostic code group).Carries code group := by
  refine ⟨rfl, ?_⟩
  change List.Forall₂ _ (group.map _) group
  rw [List.forall₂_map_left_iff]
  apply List.forall₂_same.mpr
  intro issue _member
  exact ⟨rfl, issue.parse_compactText⟩

theorem printable_elements (code : String) (groups : List (List Issue)) :
    Json.Printable Json.depthLimit (.array (groups.map (element code))) := by
  intro item itemMember
  obtain ⟨group, -, sameItem⟩ := List.mem_map.mp itemMember
  rw [← sameItem]
  intro member present
  rcases List.mem_cons.mp present with same | rest
  · rw [same]
    trivial
  · rw [List.mem_singleton.mp rest]
    intro property propertyMember
    obtain ⟨issue, -, sameProperty⟩ := List.mem_map.mp propertyMember
    rw [← sameProperty]
    intro entry entryPresent
    rcases List.mem_cons.mp entryPresent with same | rest
    · rw [same]
      trivial
    · rw [List.mem_singleton.mp rest]
      exact issue.printable_toJson _

/-- The elements for groups of issues list these issues, however they are spaced and if blanks
follow them. -/
theorem lists_elements (spacing : Json.Spacing) (code : String) (groups : List (List Issue))
    {blanks : List UInt8} (blank : ∀ byte ∈ blanks, Json.Byte.isBlank byte = true) :
    Lists code (Text.utf8 (Json.toText spacing (.array (groups.map (element code)))) ++ blanks)
      groups := by
  refine ⟨groups.map (element code), groups.map (elementDiagnostic code), ?_, ?_, ?_⟩
  · rw [Json.toText, Text.utf8_ofList]
    exact Json.parseWritten_write (printable_elements code groups) 0 blank
  · rw [List.forall₂_map_left_iff, List.forall₂_map_right_iff]
    exact List.forall₂_same.mpr fun group _ => element_form code group
  · rw [List.forall₂_map_left_iff]
    exact List.forall₂_same.mpr fun group _ => element_carries code group

/-- A text that lists issues is read to diagnostics with the payloads of these issues. -/
theorem Lists.parse_eq {code : String} {text : Json.Input} {groups : List (List Issue)}
    (lists : Lists code text groups) :
    ∃ found, parse text = .ok found ∧
      Pipeline.payloadsIn code (found.map Diagnostic.accept) =
        groups.flatten.map fun issue => Payload.ofJson issue.toJson := by
  obtain ⟨elements, diagnostics, parsed, forms, carried⟩ := lists
  exact ⟨diagnostics, parse_of_forms parsed forms, payloadsIn_of_carried carried⟩

end IssueReport.Wire
