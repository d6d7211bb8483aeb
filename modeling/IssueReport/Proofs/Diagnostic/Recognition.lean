import IssueReport.Proofs.Diagnostic.Forms
/-!
Only the forms of diagnostics are read. A written value in which no member that the reader wants
stands twice is decoded to a diagnostic only if it has the form of that diagnostic.
-/

namespace IssueReport.Wire

open Json (member? settle)

variable {Reason : Type}

/-! ### Members that are written once -/

def KindOnce : Json → Prop
  | .object ((name, _) :: others) => name ∉ others.map (·.1)
  | _ => True

def PropertyOnce : Json → Prop
  | .object members =>
      (∀ slot : PropertySlot, (members.map (·.1)).count slot.name ≤ 1) ∧
        ∀ written, member? "kind" members = some written → KindOnce written
  | .array (written :: _) => KindOnce written
  | _ => True

def DiagnosticOnce : Json → Prop
  | .object members =>
      (∀ slot : DiagnosticSlot, (members.map (·.1)).count slot.name ≤ 1) ∧
        ∀ items, member? "properties" members = some (.array items) →
          ∀ item ∈ items, PropertyOnce item
  | .array (_ :: _ :: .array items :: _) => ∀ item ∈ items, PropertyOnce item
  | _ => True

/-- No object that is read as a diagnostic or a property has a member of the format twice, and none
that is read as a kind has its member twice. -/
def ListingOnce : Json → Prop
  | .array items => ∀ item ∈ items, DiagnosticOnce item
  | _ => True

/-! ### Only the forms are decoded -/

theorem decodeUnit_eq_ok {written : Json} :
    @decodeUnit Reason written = .ok () ↔ written = .null := by
  cases written with
  | null => exact ⟨fun _ => rfl, fun _ => rfl⟩
  | boolean | number | text | array | object =>
      constructor <;> intro impossible <;> cases impossible

theorem kindForm_iff {written : Json} {kind : PropertyKind} :
    KindForm written kind ↔
      written = .text kind.name ∨ written = .object [(kind.name, .null)] := by
  constructor
  · intro form
    cases form with
    | name => exact Or.inl rfl
    | member => exact Or.inr rfl
  · intro spelled
    rcases spelled with same | same
    · rw [same]
      exact .name kind
    · rw [same]
      exact .member kind

theorem decodeKind_eq_ok {written : Json} {kind : PropertyKind} :
    @decodeKind Reason written = .ok kind ↔ KindForm written kind := by
  constructor
  · intro decoded
    cases written with
    | text name =>
        rw [← decodeName_eq_ok.mp decoded]
        exact .name kind
    | object members =>
        cases members with
        | nil => cases decoded
        | cons member others =>
            obtain ⟨name, value⟩ := member
            change (decodeName name >>= fun found => decodeUnit value >>= fun _ =>
              if others.isEmpty then Except.ok found else .error .malformed) = _ at decoded
            obtain ⟨found, named, rest⟩ := outcome_bind_eq_ok.mp decoded
            obtain ⟨_, unit, ended⟩ := outcome_bind_eq_ok.mp rest
            split at ended
            · rename_i alone
              cases ended
              rw [decodeUnit_eq_ok.mp unit, List.isEmpty_iff.mp alone, ← decodeName_eq_ok.mp named]
              exact .member kind
            · cases ended
    | null | boolean | number | array => cases decoded
  · exact KindForm.decodeKind_eq

theorem PropertyDraft.finish_eq_ok {draft : PropertyDraft} {property : Property} :
    draft.finish = .ok property ↔
      draft.kind = some property.kind ∧ draft.value = some property.value := by
  unfold PropertyDraft.finish
  simp only [outcome_bind_eq_ok, Json.required_eq_ok]
  constructor
  · rintro ⟨kind, hasKind, value, hasValue, same⟩
    cases same
    exact ⟨hasKind, hasValue⟩
  · rintro ⟨hasKind, hasValue⟩
    exact ⟨_, hasKind, _, hasValue, rfl⟩

/-- The members that a property was decoded from. -/
theorem Property.members_of_decodeObject {members : List (String × Json)} {property : Property}
    (unrepeated : ∀ slot : PropertySlot, (members.map (·.1)).count slot.name ≤ 1)
    (decoded : (@Property.shape Reason).decodeObject PropertyDraft.slots.take members =
      .ok property) :
    ∃ kindWritten valueWritten, member? "kind" members = some kindWritten ∧
      KindForm kindWritten property.kind ∧ member? "value" members = some valueWritten ∧
        property.value = settle valueWritten := by
  obtain ⟨draft, finished, held⟩ :=
    (PropertyDraft.slots.decodeObject_eq_ok PropertyDraft.held_initial unrepeated).mp decoded
  obtain ⟨hasKind, hasValue⟩ := PropertyDraft.finish_eq_ok.mp finished
  have kindHeld := held .kind
  have valueHeld := held .value
  change PropertyDraft.slots.Holds .kind (member? "kind" members) (draft.kind.map .inl) at kindHeld
  change PropertyDraft.slots.Holds .value (member? "value" members) (draft.value.map .inr)
    at valueHeld
  rw [hasKind, Option.map_some, Json.Slots.holds_some] at kindHeld
  rw [hasValue, Option.map_some, Json.Slots.holds_some] at valueHeld
  obtain ⟨kindWritten, kindFound, kindDecoded⟩ := kindHeld
  obtain ⟨valueWritten, valueFound, valueDecoded⟩ := valueHeld
  obtain ⟨kind, named, same⟩ := outcome_map_eq_ok.mp kindDecoded
  cases same
  have settled : settle valueWritten = property.value :=
    Sum.inr.inj (Except.ok.inj valueDecoded)
  exact ⟨kindWritten, valueWritten, kindFound, decodeKind_eq_ok.mp named, valueFound,
    settled.symm⟩

theorem Property.form_of_decode {written : Json} {property : Property}
    (once : PropertyOnce written)
    (decoded : (@Property.shape Reason).decode PropertyDraft.slots.take written = .ok property) :
    PropertyForm written property := by
  cases written with
  | object members =>
      obtain ⟨kindWritten, valueWritten, hasKind, kindForm, hasValue, same⟩ :=
        Property.members_of_decodeObject once.1 decoded
      cases property
      cases same
      exact .members once.1 hasKind kindForm hasValue
  | array values =>
      obtain ⟨bounded, optional⟩ := Property.shape.length_of_decodeArray _ decoded
      -- both fields have to be there, so the array has just their values
      rcases values with _ | ⟨kindWritten, _ | ⟨valueWritten, _ | ⟨third, rest⟩⟩⟩
      · exact absurd (optional kindField List.mem_cons_self) Bool.false_ne_true
      · exact absurd (optional valueField List.mem_cons_self) Bool.false_ne_true
      · have arranged := @Property.decodeArray_eq_decodeObject Reason kindWritten valueWritten
        obtain ⟨_, _, hasKind, kindForm, hasValue, same⟩ :=
          Property.members_of_decodeObject
            (fun slot => slot.count_le_one kindWritten valueWritten) (arranged.symm.trans decoded)
        cases hasKind
        cases hasValue
        cases property
        cases same
        exact .values kindForm valueWritten
      · have short : rest.length + 3 ≤ 2 := bounded
        omega
  | null | boolean | number | text => cases decoded

theorem forms_of_decodeProperties {written : Json} {properties : List Property}
    (once : ∀ items, written = .array items → ∀ item ∈ items, PropertyOnce item)
    (decoded : @decodeProperties Reason written = .ok properties) :
    PropertiesForm (some written) properties := by
  obtain ⟨items, same, found⟩ := Json.decodeList_eq_ok.mp decoded
  rw [same]
  apply PropertiesForm.list
  apply forall₂_of_mem _ found
  intro item present property itemDecoded
  exact Property.form_of_decode (once items same item present) itemDecoded

theorem DiagnosticDraft.finish_eq_ok {draft : DiagnosticDraft} {diagnostic : Diagnostic} :
    draft.finish = .ok diagnostic ↔
      draft.code = some diagnostic.code ∧ draft.message.getD "" = diagnostic.message ∧
        draft.properties.getD [] = diagnostic.properties := by
  unfold DiagnosticDraft.finish
  simp only [outcome_bind_eq_ok, Json.required_eq_ok]
  constructor
  · rintro ⟨code, hasCode, same⟩
    cases same
    exact ⟨hasCode, rfl, rfl⟩
  · rintro ⟨hasCode, hasMessage, hasProperties⟩
    refine ⟨_, hasCode, ?_⟩
    rw [hasMessage, hasProperties]
    rfl

theorem text_of_decodeText {written : Json} {text : String}
    (decoded : @Json.decodeText Reason written = .ok text) : written = .text text := by
  cases written with
  | text other =>
      cases decoded
      rfl
  | null | boolean | number | array | object => cases decoded

/-- The members that a diagnostic was decoded from. -/
theorem Diagnostic.members_of_decodeObject {members : List (String × Json)}
    {diagnostic : Diagnostic}
    (unrepeated : ∀ slot : DiagnosticSlot, (members.map (·.1)).count slot.name ≤ 1)
    (once : ∀ items, member? "properties" members = some (.array items) →
      ∀ item ∈ items, PropertyOnce item)
    (decoded : (@Diagnostic.shape Reason).decodeObject DiagnosticDraft.slots.take members =
      .ok diagnostic) :
    member? "code" members = some (.text diagnostic.code) ∧
      MessageForm (member? "message" members) diagnostic.message ∧
        PropertiesForm (member? "properties" members) diagnostic.properties := by
  obtain ⟨draft, finished, held⟩ :=
    (DiagnosticDraft.slots.decodeObject_eq_ok DiagnosticDraft.held_initial unrepeated).mp decoded
  obtain ⟨hasCode, hasMessage, hasProperties⟩ := DiagnosticDraft.finish_eq_ok.mp finished
  have codeHeld := held .code
  have messageHeld := held .message
  have propertiesHeld := held .properties
  change DiagnosticDraft.slots.Holds .code (member? "code" members) (draft.code.map .inl)
    at codeHeld
  change DiagnosticDraft.slots.Holds .message (member? "message" members) (draft.message.map .inl)
    at messageHeld
  change DiagnosticDraft.slots.Holds .properties (member? "properties" members)
    (draft.properties.map .inr) at propertiesHeld
  rw [← hasMessage, ← hasProperties]
  refine ⟨?_, ?_, ?_⟩
  · rw [hasCode, Option.map_some, Json.Slots.holds_some] at codeHeld
    obtain ⟨written, found, codeDecoded⟩ := codeHeld
    obtain ⟨code, read, same⟩ := outcome_map_eq_ok.mp codeDecoded
    cases same
    rw [found, text_of_decodeText read]
  · cases message : draft.message with
    | none =>
        rw [message, Option.map_none, Json.Slots.holds_none] at messageHeld
        rw [messageHeld]
        exact .absent
    | some text =>
        rw [message, Option.map_some, Json.Slots.holds_some] at messageHeld
        obtain ⟨written, found, messageDecoded⟩ := messageHeld
        obtain ⟨_, read, same⟩ := outcome_map_eq_ok.mp messageDecoded
        cases same
        rw [found, text_of_decodeText read]
        exact .text text
  · cases properties : draft.properties with
    | none =>
        rw [properties, Option.map_none, Json.Slots.holds_none] at propertiesHeld
        rw [propertiesHeld]
        exact .absent
    | some listed =>
        rw [properties, Option.map_some, Json.Slots.holds_some] at propertiesHeld
        obtain ⟨written, found, propertiesDecoded⟩ := propertiesHeld
        obtain ⟨_, read, same⟩ := outcome_map_eq_ok.mp propertiesDecoded
        cases same
        rw [found] at once ⊢
        exact forms_of_decodeProperties (fun items isArray => once items (congrArg some isArray))
          read

theorem Diagnostic.members_of_decodeArray (valueOf : DiagnosticSlot → Json)
    (order later : List DiagnosticSlot) (ordered : DiagnosticSlot.all = order ++ later)
    (optional : .code ∉ later) {diagnostic : Diagnostic}
    (once : ∀ items,
      member? "properties" (order.map fun slot => (slot.name, valueOf slot)) =
        some (.array items) → ∀ item ∈ items, PropertyOnce item)
    (decoded : (@Diagnostic.shape Reason).decodeArray DiagnosticDraft.slots.take
      (order.map valueOf) = .ok diagnostic) :
    member? "code" (order.map fun slot => (slot.name, valueOf slot)) =
        some (.text diagnostic.code) ∧
      MessageForm (member? "message" (order.map fun slot => (slot.name, valueOf slot)))
          diagnostic.message ∧
        PropertiesForm (member? "properties" (order.map fun slot => (slot.name, valueOf slot)))
          diagnostic.properties := by
  rw [Diagnostic.decodeArray_eq_decodeObject valueOf order later ordered optional] at decoded
  exact Diagnostic.members_of_decodeObject
    (DiagnosticSlot.count_le_one order later ordered valueOf) once decoded

theorem MessageForm.eq_empty {message : String} (form : MessageForm none message) :
    message = "" := by
  cases form
  rfl

theorem MessageForm.eq_text {written : Json} {message : String}
    (form : MessageForm (some written) message) : written = .text message := by
  cases form
  rfl

theorem PropertiesForm.eq_nil {properties : List Property}
    (form : PropertiesForm none properties) : properties = [] := by
  cases form
  rfl

theorem PropertiesForm.exists_array {written : Json} {properties : List Property}
    (form : PropertiesForm (some written) properties) :
    ∃ items, written = .array items ∧ List.Forall₂ PropertyForm items properties := by
  cases form with
  | list forms => exact ⟨_, rfl, forms⟩

theorem Diagnostic.form_of_decode {written : Json} {diagnostic : Diagnostic}
    (once : DiagnosticOnce written)
    (decoded : (@Diagnostic.shape Reason).decode DiagnosticDraft.slots.take written =
      .ok diagnostic) : DiagnosticForm written diagnostic := by
  cases written with
  | object members =>
      obtain ⟨hasCode, messageForm, propertiesForm⟩ :=
        Diagnostic.members_of_decodeObject once.1 once.2 decoded
      exact .members once.1 hasCode messageForm propertiesForm
  | array values =>
      obtain ⟨bounded, optional⟩ := Diagnostic.shape.length_of_decodeArray _ decoded
      obtain ⟨code, message, properties⟩ := diagnostic
      -- the code has to be there, and there are no more than three fields
      rcases values with _ | ⟨first, _ | ⟨second, _ | ⟨third, _ | ⟨fourth, rest⟩⟩⟩⟩
      · exact absurd (optional codeField List.mem_cons_self) Bool.false_ne_true
      · obtain ⟨hasCode, messageForm, propertiesForm⟩ :=
          Diagnostic.members_of_decodeArray (fun _ => first) [.code] [.message, .properties] rfl
            (by decide) (fun _ impossible => by cases impossible) decoded
        have isCode : first = .text code := Option.some.inj hasCode
        have isMessage : message = "" := MessageForm.eq_empty messageForm
        have isProperties : properties = [] := PropertiesForm.eq_nil propertiesForm
        rw [isCode, isMessage, isProperties]
        exact .code code
      · obtain ⟨hasCode, messageForm, propertiesForm⟩ :=
          Diagnostic.members_of_decodeArray (DiagnosticSlot.pick first second .null)
            [.code, .message] [.properties] rfl (by decide)
            (fun _ impossible => by cases impossible) decoded
        have isCode : first = .text code := Option.some.inj hasCode
        have isMessage : second = .text message := MessageForm.eq_text messageForm
        have isProperties : properties = [] := PropertiesForm.eq_nil propertiesForm
        rw [isCode, isMessage, isProperties]
        exact .message code message
      · have arrayOnce : ∀ items, third = .array items → ∀ item ∈ items, PropertyOnce item := by
          intro items same
          rw [same] at once
          exact once
        obtain ⟨hasCode, messageForm, propertiesForm⟩ :=
          Diagnostic.members_of_decodeArray (DiagnosticSlot.pick first second third)
            DiagnosticSlot.all [] rfl (by decide)
            (fun items same => arrayOnce items (Option.some.inj same)) decoded
        have isCode : first = .text code := Option.some.inj hasCode
        have isMessage : second = .text message := MessageForm.eq_text messageForm
        have isProperties : ∃ items, third = .array items ∧
            List.Forall₂ PropertyForm items properties :=
          PropertiesForm.exists_array propertiesForm
        obtain ⟨items, isArray, forms⟩ := isProperties
        rw [isCode, isMessage, isArray]
        exact .properties code message forms
      · have short : rest.length + 4 ≤ 3 := bounded
        omega
  | null | boolean | number | text => cases decoded

end IssueReport.Wire
