import IssueReport.Proofs.Diagnostic.Decoding
import Mathlib.Data.List.Forall2
/-!
The forms in which diagnostics may be printed. A kind has two spellings; a property and a diagnostic
are objects with their members in any order, or arrays with their values in order. A list in which
every element has its form is read to the diagnostics of the elements.
-/

namespace IssueReport

/-- A relation that implies another for the elements of a list does so for the list. -/
theorem forall₂_of_mem {Before After : Type} {given wanted : Before → After → Prop}
    {before : List Before} {after : List After}
    (implies : ∀ first ∈ before, ∀ second, given first second → wanted first second)
    (related : List.Forall₂ given before after) : List.Forall₂ wanted before after := by
  induction related with
  | nil => exact .nil
  | @cons first second before after holds _ ih =>
      refine .cons (implies first List.mem_cons_self second holds) (ih ?_)
      exact fun other present => implies other (List.mem_cons_of_mem first present)

/-- A list is decoded exactly from an array, each element from its value. -/
theorem Json.decodeList_eq_ok {Reason Result : Type}
    {decode : Json → Except (Json.ReadError Reason) Result} {written : Json}
    {results : List Result} :
    Json.decodeList decode written = .ok results ↔
      ∃ values, written = .array values ∧
        List.Forall₂ (fun value result => decode value = .ok result) values results := by
  cases written with
  | array values =>
      rw [Json.decodeList, outcome_mapM_eq_ok]
      simp
  | null | boolean | number | text | object =>
      constructor
      · intro impossible
        cases impossible
      · rintro ⟨values, impossible, -⟩
        cases impossible

namespace Wire

open Json (ReadError member?)

variable {Reason : Type}

/-! ### Kinds -/

/-- A kind is written as its name, or as an object with a member of that name, which is null. -/
inductive KindForm : Json → PropertyKind → Prop
  | name (kind : PropertyKind) : KindForm (.text kind.name) kind
  | member (kind : PropertyKind) : KindForm (.object [(kind.name, .null)]) kind

theorem decodeName_eq_ok {name : String} {kind : PropertyKind} :
    @decodeName Reason name = .ok kind ↔ kind.name = name := by
  unfold decodeName
  constructor
  · intro decoded
    cases found : PropertyKind.ofName? name with
    | none =>
        rw [found] at decoded
        cases decoded
    | some known =>
        rw [found] at decoded
        cases decoded
        exact PropertyKind.name_of_ofName? found
  · rintro rfl
    rw [PropertyKind.ofName?_name]

theorem KindForm.decodeKind_eq {written : Json} {kind : PropertyKind}
    (form : KindForm written kind) : @decodeKind Reason written = .ok kind := by
  have named := (@decodeName_eq_ok Reason kind.name kind).mpr rfl
  cases form with
  | name => exact named
  | member =>
      change (decodeName kind.name >>= fun kind => decodeUnit .null >>= fun _ => _) = _
      rw [named]
      rfl

/-! ### Properties -/

inductive PropertyForm : Json → Property → Prop
  | members {members : List (String × Json)} {kindWritten valueWritten : Json}
      {kind : PropertyKind}
      (unrepeated : ∀ slot : PropertySlot, (members.map (·.1)).count slot.name ≤ 1)
      (hasKind : member? "kind" members = some kindWritten) (kindForm : KindForm kindWritten kind)
      (hasValue : member? "value" members = some valueWritten) :
      PropertyForm (.object members) ⟨kind, Json.settle valueWritten⟩
  | values {kindWritten : Json} {kind : PropertyKind} (kindForm : KindForm kindWritten kind)
      (valueWritten : Json) :
      PropertyForm (.array [kindWritten, valueWritten]) ⟨kind, Json.settle valueWritten⟩

theorem PropertyDraft.held_initial (slot : PropertySlot) :
    (@Property.shape Reason).initial.held slot = none := by
  cases slot <;> rfl

theorem Property.decodeObject_of_members {members : List (String × Json)}
    {kindWritten valueWritten : Json} {kind : PropertyKind}
    (unrepeated : ∀ slot : PropertySlot, (members.map (·.1)).count slot.name ≤ 1)
    (hasKind : member? "kind" members = some kindWritten) (kindForm : KindForm kindWritten kind)
    (hasValue : member? "value" members = some valueWritten) :
    (@Property.shape Reason).decodeObject PropertyDraft.slots.take members =
      .ok ⟨kind, Json.settle valueWritten⟩ := by
  apply (PropertyDraft.slots.decodeObject_eq_ok PropertyDraft.held_initial unrepeated).mpr
  refine ⟨⟨some kind, some (Json.settle valueWritten)⟩, rfl, ?_⟩
  intro slot
  cases slot with
  | kind =>
      change PropertyDraft.slots.Holds .kind (member? "kind" members) (some (.inl kind))
      rw [hasKind]
      exact ⟨_, outcome_map_eq_ok.mpr ⟨kind, kindForm.decodeKind_eq, rfl⟩, rfl⟩
  | value =>
      change PropertyDraft.slots.Holds .value (member? "value" members)
        (some (.inr (Json.settle valueWritten)))
      rw [hasValue]
      exact ⟨_, rfl, rfl⟩

/-- The two values of an array stand for the members of an object. -/
theorem Property.decodeArray_eq_decodeObject (kindWritten valueWritten : Json) :
    (@Property.shape Reason).decodeArray PropertyDraft.slots.take [kindWritten, valueWritten] =
      (@Property.shape Reason).decodeObject PropertyDraft.slots.take
        [("kind", kindWritten), ("value", valueWritten)] :=
  PropertyDraft.slots.decodeArray_eq_decodeObject PropertyDraft.held_initial PropertySlot.all
    [] rfl (by decide) (fun _ impossible => by cases impossible)
    (PropertySlot.pick kindWritten valueWritten)

theorem PropertySlot.count_le_one (slot : PropertySlot) (kindWritten valueWritten : Json) :
    ([("kind", kindWritten), ("value", valueWritten)].map (·.1)).count slot.name ≤ 1 := by
  change (PropertySlot.all.map PropertySlot.name).count slot.name ≤ 1
  cases slot <;> decide

theorem PropertyForm.decode_eq {written : Json} {property : Property}
    (form : PropertyForm written property) :
    (@Property.shape Reason).decode PropertyDraft.slots.take written = .ok property := by
  cases form with
  | members unrepeated hasKind kindForm hasValue =>
      exact Property.decodeObject_of_members unrepeated hasKind kindForm hasValue
  | @values kindWritten kind kindForm valueWritten =>
      exact (Property.decodeArray_eq_decodeObject kindWritten valueWritten).trans
        (Property.decodeObject_of_members
          (fun slot => slot.count_le_one kindWritten valueWritten) rfl kindForm rfl)

/-! ### Diagnostics -/

inductive MessageForm : Option Json → String → Prop
  | absent : MessageForm none ""
  | text (message : String) : MessageForm (some (.text message)) message

inductive PropertiesForm : Option Json → List Property → Prop
  | absent : PropertiesForm none []
  | list {written : List Json} {properties : List Property}
      (forms : List.Forall₂ PropertyForm written properties) :
      PropertiesForm (some (.array written)) properties

inductive DiagnosticForm : Json → Diagnostic → Prop
  | members {members : List (String × Json)} {code message : String} {properties : List Property}
      (unrepeated : ∀ slot : DiagnosticSlot, (members.map (·.1)).count slot.name ≤ 1)
      (hasCode : member? "code" members = some (.text code))
      (messageForm : MessageForm (member? "message" members) message)
      (propertiesForm : PropertiesForm (member? "properties" members) properties) :
      DiagnosticForm (.object members) ⟨code, message, properties⟩
  | code (code : String) : DiagnosticForm (.array [.text code]) ⟨code, "", []⟩
  | message (code message : String) :
      DiagnosticForm (.array [.text code, .text message]) ⟨code, message, []⟩
  | properties (code message : String) {written : List Json} {properties : List Property}
      (forms : List.Forall₂ PropertyForm written properties) :
      DiagnosticForm (.array [.text code, .text message, .array written])
        ⟨code, message, properties⟩

theorem decodeProperties_of_forms {written : List Json} {properties : List Property}
    (forms : List.Forall₂ PropertyForm written properties) :
    @decodeProperties Reason (.array written) = .ok properties :=
  outcome_mapM_eq_ok.mpr (forms.imp fun _ _ form => form.decode_eq)

theorem DiagnosticDraft.held_initial (slot : DiagnosticSlot) :
    (@Diagnostic.shape Reason).initial.held slot = none := by
  cases slot <;> rfl

theorem MessageForm.holds {written? : Option Json} {message : String}
    (form : MessageForm written? message) :
    ∃ message? : Option String, message?.getD "" = message ∧
      (@DiagnosticDraft.slots Reason).Holds .message written? (message?.map .inl) := by
  cases form with
  | absent => exact ⟨none, rfl, rfl⟩
  | text => exact ⟨some message, rfl, .inl message, rfl, rfl⟩

theorem PropertiesForm.holds {written? : Option Json} {properties : List Property}
    (form : PropertiesForm written? properties) :
    ∃ properties? : Option (List Property), properties?.getD [] = properties ∧
      (@DiagnosticDraft.slots Reason).Holds .properties written? (properties?.map .inr) := by
  cases form with
  | absent => exact ⟨none, rfl, rfl⟩
  | list forms =>
      refine ⟨some properties, rfl, .inr properties, ?_, rfl⟩
      exact outcome_map_eq_ok.mpr ⟨properties, decodeProperties_of_forms forms, rfl⟩

theorem Diagnostic.decodeObject_of_members {members : List (String × Json)}
    {code message : String} {properties : List Property}
    (unrepeated : ∀ slot : DiagnosticSlot, (members.map (·.1)).count slot.name ≤ 1)
    (hasCode : member? "code" members = some (.text code))
    (messageForm : MessageForm (member? "message" members) message)
    (propertiesForm : PropertiesForm (member? "properties" members) properties) :
    (@Diagnostic.shape Reason).decodeObject DiagnosticDraft.slots.take members =
      .ok ⟨code, message, properties⟩ := by
  obtain ⟨message?, messageGiven, messageHeld⟩ := @MessageForm.holds Reason _ _ messageForm
  obtain ⟨properties?, propertiesGiven, propertiesHeld⟩ :=
    @PropertiesForm.holds Reason _ _ propertiesForm
  apply (DiagnosticDraft.slots.decodeObject_eq_ok DiagnosticDraft.held_initial unrepeated).mpr
  refine ⟨⟨some code, message?, properties?⟩, ?_, ?_⟩
  · change Except.ok (⟨code, message?.getD "", properties?.getD []⟩ : Diagnostic) = _
    rw [messageGiven, propertiesGiven]
  · intro slot
    cases slot with
    | code =>
        change DiagnosticDraft.slots.Holds .code (member? "code" members) (some (.inl code))
        rw [hasCode]
        exact ⟨_, rfl, rfl⟩
    | message => exact messageHeld
    | properties => exact propertiesHeld

/-- The values of an array stand for the first fields; the others are absent. -/
theorem Diagnostic.decodeArray_eq_decodeObject (valueOf : DiagnosticSlot → Json)
    (order later : List DiagnosticSlot) (ordered : DiagnosticSlot.all = order ++ later)
    (optional : .code ∉ later) :
    (@Diagnostic.shape Reason).decodeArray DiagnosticDraft.slots.take (order.map valueOf) =
      (@Diagnostic.shape Reason).decodeObject DiagnosticDraft.slots.take
        (order.map fun slot => (slot.name, valueOf slot)) := by
  have distinct : DiagnosticSlot.all.Nodup := by decide
  rw [ordered] at distinct
  have fields : (@Diagnostic.shape Reason).fields =
      (order ++ later).map DiagnosticDraft.slots.field := by
    rw [← ordered]
    rfl
  apply DiagnosticDraft.slots.decodeArray_eq_decodeObject DiagnosticDraft.held_initial order later
    fields (List.nodup_append.mp distinct).1
  intro slot absent
  cases slot with
  | code => exact (optional absent).elim
  | message => rfl
  | properties => rfl

theorem DiagnosticSlot.count_le_one (order later : List DiagnosticSlot)
    (ordered : DiagnosticSlot.all = order ++ later) (valueOf : DiagnosticSlot → Json)
    (slot : DiagnosticSlot) :
    ((order.map fun slot => (slot.name, valueOf slot)).map (·.1)).count slot.name ≤ 1 := by
  have distinct : (DiagnosticSlot.all.map DiagnosticSlot.name).Nodup := by decide
  rw [ordered, List.map_append] at distinct
  rw [List.map_map]
  exact List.nodup_iff_count.mp (List.nodup_append.mp distinct).1 slot.name

theorem Diagnostic.decodeArray_of_values (valueOf : DiagnosticSlot → Json)
    (order later : List DiagnosticSlot) (ordered : DiagnosticSlot.all = order ++ later)
    (optional : .code ∉ later) {code message : String} {properties : List Property}
    (hasCode : member? "code" (order.map fun slot => (slot.name, valueOf slot)) =
      some (.text code))
    (messageForm : MessageForm
      (member? "message" (order.map fun slot => (slot.name, valueOf slot))) message)
    (propertiesForm : PropertiesForm
      (member? "properties" (order.map fun slot => (slot.name, valueOf slot))) properties) :
    (@Diagnostic.shape Reason).decodeArray DiagnosticDraft.slots.take (order.map valueOf) =
      .ok ⟨code, message, properties⟩ := by
  rw [Diagnostic.decodeArray_eq_decodeObject valueOf order later ordered optional]
  exact Diagnostic.decodeObject_of_members (DiagnosticSlot.count_le_one order later ordered valueOf)
    hasCode messageForm propertiesForm

theorem DiagnosticForm.decode_eq {written : Json} {diagnostic : Diagnostic}
    (form : DiagnosticForm written diagnostic) :
    (@Diagnostic.shape Reason).decode DiagnosticDraft.slots.take written = .ok diagnostic := by
  cases form with
  | members unrepeated hasCode messageForm propertiesForm =>
      exact Diagnostic.decodeObject_of_members unrepeated hasCode messageForm propertiesForm
  | code code =>
      exact Diagnostic.decodeArray_of_values (fun _ => .text code) [.code]
        [.message, .properties] rfl (by decide) rfl .absent .absent
  | message code message =>
      exact Diagnostic.decodeArray_of_values
        (DiagnosticSlot.pick (.text code) (.text message) .null) [.code, .message] [.properties]
        rfl (by decide) rfl (.text message) .absent
  | @properties code message written properties forms =>
      exact Diagnostic.decodeArray_of_values
        (DiagnosticSlot.pick (.text code) (.text message) (.array written)) DiagnosticSlot.all []
        rfl (by decide) rfl (.text message) (.list forms)

/-- A text whose elements have the forms of diagnostics is read to these diagnostics. -/
theorem parse_of_forms {text : Json.Input} {elements : List Json} {diagnostics : List Diagnostic}
    (parsed : Json.parseWritten text = .ok (.array elements))
    (forms : List.Forall₂ DiagnosticForm elements diagnostics) :
    parse text = .ok diagnostics := by
  rw [parse_eq_decode parsed]
  exact outcome_mapM_eq_ok.mpr (forms.imp fun _ _ form => form.decode_eq)

end Wire

end IssueReport
