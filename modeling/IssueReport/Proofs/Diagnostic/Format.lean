import IssueReport.Plugin.Command
import IssueReport.Proofs.Diagnostic.Recognition
/-!
The format of diagnostics, said of the value that a text denotes. The reader takes the text in one
pass and meets every member that is written; the value keeps one member of a name. Where no member
that the reader wants is written twice, it reads exactly the values of the format, and a text of
any other value gives no diagnostic.
-/

namespace IssueReport.Wire

open Json (member? settle member?_settle eq_text_of_settle eq_null_of_settle eq_array_of_settle)

/-! ### The format -/

/-- The values that a property is read from: an object with a kind and a value, whatever else it
has, or an array of these two. -/
inductive PropertyValue : Json → Property → Prop
  | members {members : List (String × Json)} {kindValue value : Json} {kind : PropertyKind}
      (hasKind : member? "kind" members = some kindValue) (kindForm : KindForm kindValue kind)
      (hasValue : member? "value" members = some value) :
      PropertyValue (.object members) ⟨kind, value⟩
  | values {kindValue : Json} {kind : PropertyKind} (kindForm : KindForm kindValue kind)
      (value : Json) : PropertyValue (.array [kindValue, value]) ⟨kind, value⟩

inductive PropertiesValue : Option Json → List Property → Prop
  | absent : PropertiesValue none []
  | list {items : List Json} {properties : List Property}
      (values : List.Forall₂ PropertyValue items properties) :
      PropertiesValue (some (.array items)) properties

theorem PropertiesValue.exists_array {value : Json} {properties : List Property}
    (listed : PropertiesValue (some value) properties) :
    ∃ items, value = .array items ∧ List.Forall₂ PropertyValue items properties := by
  cases listed with
  | list values => exact ⟨_, rfl, values⟩

/-- The values that a diagnostic is read from: an object with a code, or an array that starts with
one. -/
inductive DiagnosticValue : Json → Diagnostic → Prop
  | members {members : List (String × Json)} {code message : String} {properties : List Property}
      (hasCode : member? "code" members = some (.text code))
      (messageForm : MessageForm (member? "message" members) message)
      (propertiesValue : PropertiesValue (member? "properties" members) properties) :
      DiagnosticValue (.object members) ⟨code, message, properties⟩
  | code (code : String) : DiagnosticValue (.array [.text code]) ⟨code, "", []⟩
  | message (code message : String) :
      DiagnosticValue (.array [.text code, .text message]) ⟨code, message, []⟩
  | properties (code message : String) {items : List Json} {properties : List Property}
      (values : List.Forall₂ PropertyValue items properties) :
      DiagnosticValue (.array [.text code, .text message, .array items])
        ⟨code, message, properties⟩

/-! ### From the text to its value -/

theorem KindForm.of_settle {written : Json} {kind : PropertyKind} (once : KindOnce written)
    (form : KindForm (settle written) kind) : KindForm written kind := by
  rcases kindForm_iff.mp form with isText | isObject
  · rw [eq_text_of_settle isText]
    exact .name kind
  · cases written with
    | object members =>
        rcases members with _ | ⟨⟨name, value⟩, _ | ⟨⟨other, next⟩, rest⟩⟩
        · cases isObject
        · change Json.object [(name, settle value)] = _ at isObject
          simp only [Json.object.injEq, List.cons.injEq, Prod.mk.injEq, and_true] at isObject
          rw [isObject.1, eq_null_of_settle isObject.2]
          exact .member kind
        · have different : ¬ name = other := by
            intro same
            apply once
            rw [same]
            exact List.mem_cons_self
          -- a second name stays beside the first, so the value is no object of one member
          have two := Json.length_le_settleMembers [(name, settle value), (other, settle next)] rest
          have settled : settle (.object ((name, value) :: (other, next) :: rest)) =
              .object (Json.settleMembers [(name, settle value), (other, settle next)] rest) := by
            simp only [settle, Json.settleMembers, Json.setMember, if_neg different]
          rw [settled, Json.object.injEq] at isObject
          rw [isObject] at two
          simp at two
    | null | boolean | number | text | array => cases isObject

theorem KindForm.settle_form {written : Json} {kind : PropertyKind} (form : KindForm written kind) :
    KindForm (settle written) kind := by
  cases form with
  | name => exact .name kind
  | member => exact .member kind

theorem propertyForm_iff {written : Json} {property : Property} (once : PropertyOnce written) :
    PropertyForm written property ↔ PropertyValue (settle written) property := by
  constructor
  · intro form
    cases form with
    | members unrepeated hasKind kindForm hasValue =>
        have keptKind := member?_settle (unrepeated .kind)
        have keptValue := member?_settle (unrepeated .value)
        change member? "kind" _ = (member? "kind" _).map settle at keptKind
        change member? "value" _ = (member? "value" _).map settle at keptValue
        rw [hasKind] at keptKind
        rw [hasValue] at keptValue
        exact .members keptKind kindForm.settle_form keptValue
    | values kindForm valueWritten => exact .values kindForm.settle_form (settle valueWritten)
  · intro value
    cases written with
    | object members =>
        have keptKind := member?_settle (once.1 .kind)
        have keptValue := member?_settle (once.1 .value)
        change member? "kind" _ = (member? "kind" _).map settle at keptKind
        change member? "value" _ = (member? "value" _).map settle at keptValue
        rw [settle] at value
        cases value with
        | members hasKind kindForm hasValue =>
            rw [hasKind] at keptKind
            rw [hasValue] at keptValue
            obtain ⟨kindWritten, foundKind, sameKind⟩ := Option.map_eq_some_iff.mp keptKind.symm
            obtain ⟨valueWritten, foundValue, sameValue⟩ :=
              Option.map_eq_some_iff.mp keptValue.symm
            rw [← sameKind] at kindForm
            rw [← sameValue]
            exact .members once.1 foundKind (kindForm.of_settle (once.2 kindWritten foundKind))
              foundValue
    | array items =>
        rcases items with _ | ⟨kindWritten, _ | ⟨valueWritten, _ | ⟨third, rest⟩⟩⟩
        · cases value
        · cases value
        · cases value with
          | values kindForm => exact .values (kindForm.of_settle once) valueWritten
        · cases value
    | null | boolean | number | text => cases value

theorem propertyForms_iff {items : List Json} {properties : List Property}
    (once : ∀ item ∈ items, PropertyOnce item) :
    List.Forall₂ PropertyForm items properties ↔
      List.Forall₂ PropertyValue (items.map settle) properties := by
  rw [List.forall₂_map_left_iff]
  constructor
  · intro forms
    exact forall₂_of_mem (fun item present _ => (propertyForm_iff (once item present)).mp) forms
  · intro values
    exact forall₂_of_mem (fun item present _ => (propertyForm_iff (once item present)).mpr) values

theorem messageForm_iff {written? : Option Json} {message : String} :
    MessageForm written? message ↔ MessageForm (written?.map settle) message := by
  cases written? with
  | none => exact Iff.rfl
  | some written =>
      rw [Option.map_some]
      constructor
      · intro form
        rw [form.eq_text]
        exact .text message
      · intro form
        rw [eq_text_of_settle form.eq_text]
        exact .text message

theorem propertiesForm_iff {written? : Option Json} {properties : List Property}
    (once : ∀ items, written? = some (.array items) → ∀ item ∈ items, PropertyOnce item) :
    PropertiesForm written? properties ↔ PropertiesValue (written?.map settle) properties := by
  cases written? with
  | none =>
      constructor
      · intro form
        rw [form.eq_nil]
        exact .absent
      · intro value
        cases value
        exact .absent
  | some written =>
      rw [Option.map_some]
      constructor
      · intro form
        obtain ⟨items, same, forms⟩ := form.exists_array
        rw [same] at once ⊢
        rw [settle, Json.settleItems_eq_map]
        exact .list ((propertyForms_iff (once items rfl)).mp forms)
      · intro listed
        obtain ⟨items, isArray, values⟩ := listed.exists_array
        obtain ⟨writtenItems, same, settled⟩ := eq_array_of_settle isArray
        rw [← settled] at values
        rw [same] at once ⊢
        exact .list ((propertyForms_iff (once writtenItems rfl)).mpr values)

theorem diagnosticForm_iff {written : Json} {diagnostic : Diagnostic}
    (once : DiagnosticOnce written) :
    DiagnosticForm written diagnostic ↔ DiagnosticValue (settle written) diagnostic := by
  constructor
  · intro form
    cases form with
    | members unrepeated hasCode messageForm propertiesForm =>
        have keptCode := member?_settle (unrepeated .code)
        have keptMessage := member?_settle (unrepeated .message)
        have keptProperties := member?_settle (unrepeated .properties)
        change member? "code" _ = (member? "code" _).map settle at keptCode
        change member? "message" _ = (member? "message" _).map settle at keptMessage
        change member? "properties" _ = (member? "properties" _).map settle at keptProperties
        rw [hasCode] at keptCode
        rw [messageForm_iff, ← keptMessage] at messageForm
        rw [propertiesForm_iff once.2, ← keptProperties] at propertiesForm
        exact .members keptCode messageForm propertiesForm
    | code code => exact .code code
    | message code message => exact .message code message
    | @properties code message items properties forms =>
        have values := (propertyForms_iff once).mp forms
        rw [← Json.settleItems_eq_map] at values
        exact .properties code message values
  · intro value
    cases written with
    | object members =>
        have keptCode := member?_settle (once.1 .code)
        have keptMessage := member?_settle (once.1 .message)
        have keptProperties := member?_settle (once.1 .properties)
        change member? "code" _ = (member? "code" _).map settle at keptCode
        change member? "message" _ = (member? "message" _).map settle at keptMessage
        change member? "properties" _ = (member? "properties" _).map settle at keptProperties
        rw [settle] at value
        cases value with
        | members hasCode messageForm propertiesValue =>
            rw [hasCode] at keptCode
            obtain ⟨codeWritten, foundCode, sameCode⟩ := Option.map_eq_some_iff.mp keptCode.symm
            rw [eq_text_of_settle sameCode] at foundCode
            rw [keptMessage, ← messageForm_iff] at messageForm
            rw [keptProperties, ← propertiesForm_iff once.2] at propertiesValue
            exact .members once.1 foundCode messageForm propertiesValue
    | array items =>
        rw [settle, Json.settleItems_eq_map] at value
        generalize settled : items.map settle = found at value
        cases value with
        | code code =>
            obtain ⟨first, _, rfl, isCode, isEnd⟩ := List.map_eq_cons_iff.mp settled
            rw [eq_text_of_settle isCode, List.map_eq_nil_iff.mp isEnd]
            exact .code code
        | message code message =>
            obtain ⟨first, _, rfl, isCode, rest⟩ := List.map_eq_cons_iff.mp settled
            obtain ⟨second, _, rfl, isMessage, isEnd⟩ := List.map_eq_cons_iff.mp rest
            rw [eq_text_of_settle isCode, eq_text_of_settle isMessage,
              List.map_eq_nil_iff.mp isEnd]
            exact .message code message
        | properties code message values =>
            obtain ⟨first, _, rfl, isCode, rest⟩ := List.map_eq_cons_iff.mp settled
            obtain ⟨second, _, rfl, isMessage, rest⟩ := List.map_eq_cons_iff.mp rest
            obtain ⟨third, _, rfl, isArray, isEnd⟩ := List.map_eq_cons_iff.mp rest
            obtain ⟨writtenItems, same, settledItems⟩ := eq_array_of_settle isArray
            rw [← settledItems] at values
            rw [same] at once ⊢
            rw [eq_text_of_settle isCode, eq_text_of_settle isMessage,
              List.map_eq_nil_iff.mp isEnd]
            exact .properties code message ((propertyForms_iff once).mpr values)
    | null | boolean | number | text => cases value

theorem decode_eq_ok {written : Json} {diagnostics : List Diagnostic}
    (once : ListingOnce written) :
    decode written = .ok diagnostics ↔
      ∃ items, settle written = .array items ∧
        List.Forall₂ DiagnosticValue items diagnostics := by
  rw [decode, Json.decodeList_eq_ok]
  constructor
  · rintro ⟨items, same, decoded⟩
    rw [same] at once ⊢
    refine ⟨items.map settle, ?_, ?_⟩
    · rw [settle, Json.settleItems_eq_map]
    · rw [List.forall₂_map_left_iff]
      apply forall₂_of_mem _ decoded
      intro item present diagnostic itemDecoded
      have itemOnce := once item present
      exact (diagnosticForm_iff itemOnce).mp (Diagnostic.form_of_decode itemOnce itemDecoded)
  · rintro ⟨items, isArray, values⟩
    obtain ⟨writtenItems, same, settled⟩ := eq_array_of_settle isArray
    rw [← settled, List.forall₂_map_left_iff] at values
    rw [same] at once
    refine ⟨writtenItems, same, ?_⟩
    apply forall₂_of_mem _ values
    intro item present diagnostic value
    exact ((diagnosticForm_iff (once item present)).mpr value).decode_eq

/-! ### Texts -/

def IsListing (value : Json) : Prop :=
  ∃ items, value = .array items ∧ ∀ item ∈ items, ∃ diagnostic, DiagnosticValue item diagnostic

theorem isListing_iff {value : Json} :
    IsListing value ↔
      ∃ diagnostics items, value = .array items ∧
        List.Forall₂ DiagnosticValue items diagnostics := by
  unfold IsListing
  simp only [← exists_forall₂_iff]
  constructor
  · rintro ⟨items, same, diagnostics, values⟩
    exact ⟨diagnostics, items, same, values⟩
  · rintro ⟨diagnostics, items, same, values⟩
    exact ⟨items, same, diagnostics, values⟩

/-- What the reader makes of a text that denotes a value, and what a plugin gets of it that printed
the text. -/
structure AcceptsExactly (text : Json.Input) (value : Json) : Prop where
  accepted : (∃ diagnostics, parse text = .ok diagnostics) ↔ IsListing value
  /-- One diagnostic an element, in order. -/
  read : ∀ diagnostics, parse text = .ok diagnostics ↔
    ∃ items, value = .array items ∧ List.Forall₂ DiagnosticValue items diagnostics
  found : ∀ command tree diagnostics, parse text = .ok diagnostics →
    (CommandPlugin.diagnosticsOf command tree text).outcome =
      .ok (diagnostics.map Diagnostic.accept)
  refused : ∀ command tree, ¬ IsListing value →
    ∃ fault, CommandPlugin.diagnosticsOf command tree text =
      ⟨.error (.invalidOutput command fault), [], tree⟩

/-- Where no member of the format is written twice, a text is read exactly if its value is a list of
values of diagnostics. -/
theorem acceptsExactly_of_parsed {text : Json.Input} {value : Json}
    (parsed : Json.parse text = .ok value)
    (once : ∀ written, Json.parseWritten text = .ok written → ListingOnce written) :
    AcceptsExactly text value := by
  obtain ⟨written, found, settled⟩ := Json.parse_eq_ok.mp parsed
  have read : ∀ diagnostics, parse text = .ok diagnostics ↔
      ∃ items, value = .array items ∧ List.Forall₂ DiagnosticValue items diagnostics := by
    intro diagnostics
    rw [parse_eq_decode found, decode_eq_ok (once written found), settled]
  have accepted : (∃ diagnostics, parse text = .ok diagnostics) ↔ IsListing value := by
    rw [isListing_iff]
    exact exists_congr read
  refine ⟨accepted, read, ?_, ?_⟩
  · intro command tree diagnostics success
    rw [CommandPlugin.diagnosticsOf, success]
  · intro command tree unlisted
    cases outcome : parse text with
    | ok diagnostics => exact absurd (accepted.mp ⟨diagnostics, outcome⟩) unlisted
    | error fault =>
        refine ⟨fault, ?_⟩
        rw [CommandPlugin.diagnosticsOf, outcome]

def mixedText : Json.Input := Text.utf8
  "[\x7b\"properties\": [\x7b\"value\": [1, null], \"kind\": \x7b\"other\": null\x7d\x7d,
    [\"string\", \"s\"]], \"level\": 2, \"level\": 3, \"code\": \"A\"\x7d, [\"B\", \"m\"]]"

def mixedProperties : Json :=
  .array [.object [("value", .array [.number (.integer 1), .null]),
    ("kind", .object [("other", .null)])], .array [.text "string", .text "s"]]

def mixedValue : Json :=
  .array [.object [("properties", mixedProperties), ("level", .number (.integer 3)),
    ("code", .text "A")], .array [.text "B", .text "m"]]

def mixedWritten : Json :=
  .array [.object [("properties", mixedProperties), ("level", .number (.integer 2)),
    ("level", .number (.integer 3)), ("code", .text "A")], .array [.text "B", .text "m"]]

theorem listingOnce_mixedWritten : ListingOnce mixedWritten := by
  have propertiesOnce : ∀ items, mixedProperties = .array items →
      ∀ item ∈ items, PropertyOnce item := by
    intro items same item present
    cases same
    rcases List.mem_cons.mp present with isObject | rest
    · rw [isObject]
      refine ⟨?_, ?_⟩
      · intro slot
        cases slot <;> decide
      · intro written found
        cases found
        exact List.not_mem_nil
    · rw [List.mem_singleton.mp rest]
      trivial
  intro element present
  rcases List.mem_cons.mp present with isObject | rest
  · rw [isObject]
    refine ⟨?_, fun items found => propertiesOnce items (Option.some.inj found)⟩
    intro slot
    cases slot <;> decide
  · rw [List.mem_singleton.mp rest]
    trivial

set_option maxRecDepth 20000 in
theorem acceptsExactly_mixed :
    Json.parse mixedText = .ok mixedValue ∧
      (∀ written, Json.parseWritten mixedText = .ok written → ListingOnce written) ∧
        AcceptsExactly mixedText mixedValue := by
  have parsed : Json.parse mixedText = .ok mixedValue := by rfl
  have found : Json.parseWritten mixedText = .ok mixedWritten := by rfl
  have once : ∀ written, Json.parseWritten mixedText = .ok written → ListingOnce written := by
    intro written same
    rw [found] at same
    cases same
    exact listingOnce_mixedWritten
  exact ⟨parsed, once, acceptsExactly_of_parsed parsed once⟩

end IssueReport.Wire
