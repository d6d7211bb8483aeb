import IssueReport.Proofs.Json.Slots
import IssueReport.Diagnostic.Wire
/-!
What the reader of diagnostics makes of a text, said by its written value: which values denote a
kind, a property and a diagnostic, wherever the members of their objects stand.
-/

namespace IssueReport.Wire

open Json (Reader ReadError Field Decodes member? mismatched decodeText decodeList)

variable {Reason : Type}

/-! ### Kinds -/

def decodeName (name : String) : Except (ReadError Reason) PropertyKind :=
  match PropertyKind.ofName? name with
  | some kind => .ok kind
  | none => .error (.mismatch (.unknownChoice name (PropertyKind.all.map (·.name))))

def decodeUnit : Json → Except (ReadError Reason) Unit
  | .null => .ok ()
  | written => mismatched .unit written

def decodeKind : Json → Except (ReadError Reason) PropertyKind
  | .text name => decodeName name
  | .object ((name, value) :: others) => do
      let kind ← decodeName name
      decodeUnit value
      if others.isEmpty then .ok kind else .error .malformed
  | _ => .error .malformed

theorem kindNamed_eq (name : String) (input : Json.Input) :
    @kindNamed Reason name input = (decodeName name).map fun kind => (kind, input) := by
  unfold kindNamed decodeName
  cases PropertyKind.ofName? name <;> rfl

theorem decodes_readUnit (depth : Nat) : Decodes depth (@readUnit Reason) decodeUnit := by
  intro input written rest read
  obtain ⟨byte, here, blanks, denotes⟩ := Json.denotes_of_readWritten read
  have wrong := Json.wrongType_of_denotes Unit blanks denotes
  unfold readUnit
  rw [Json.look_of_cons blanks]
  cases denotes with
  | null starts wordRead =>
      rw [if_pos starts]
      exact wordRead
  | @number value starts numberRead =>
      have notNull : ¬ byte = Json.Byte.letterN := Json.ne_of_startsNumber starts rfl
      rw [if_neg notNull]
      exact wrong .unit
  | _ =>
      subst_vars
      exact wrong .unit

/-- An object whose first member is to name a kind, read to its end. -/
theorem readChoice_object {inner bound : Nat} {here before input after rest final : Json.Input}
    {name : String} {value : Json} {others : List (String × Json)}
    (blanks : Json.skipBlanks here = Json.Byte.quote :: before)
    (named : @Json.stringText Reason before = .ok (name, input))
    (valueRead : (@Json.colon Reason).andThen (fun _ => @Json.readWritten Reason inner) input =
      .ok (value, after))
    (othersRead : Json.membersWithin (Json.readWrittenMember (@Json.readWritten Reason inner)) bound
      false [(name, value)] after = .ok ([(name, value)] ++ others, rest))
    (closed : @Json.endOfObject Reason rest = .ok ((), final)) :
    (readChoice.andThen fun kind => Json.colon.andThen fun _ => readUnit.andThen fun _ =>
      Json.endOfObject.map fun _ => kind) here =
      (@decodeKind Reason (.object ((name, value) :: others))).map fun kind => (kind, final) := by
  have choice : @readChoice Reason here = (decodeName name).map fun kind => (kind, input) := by
    unfold readChoice
    rw [Json.look_of_cons blanks, if_pos rfl, Json.andThen_of_ok named]
    exact kindNamed_eq name input
  obtain ⟨_, start, mark, unitRead⟩ := Json.andThen_eq_ok.mp valueRead
  have unit := decodes_readUnit inner start value after unitRead
  have ending := Json.endOfObject_of_surplus othersRead closed
  change _ = Except.map _ (@decodeName Reason name >>= fun kind =>
    decodeUnit value >>= fun _ => if others.isEmpty then .ok kind else .error .malformed)
  cases kindName : @decodeName Reason name with
  | error fault =>
      rw [kindName] at choice
      exact Json.andThen_of_error choice
  | ok kind =>
      rw [kindName] at choice
      rw [Json.andThen_of_ok choice, Json.andThen_of_ok mark]
      change _ = Except.map _ (decodeUnit value >>= fun _ =>
        if others.isEmpty then .ok kind else .error .malformed)
      cases null : @decodeUnit Reason value with
      | error fault =>
          rw [null] at unit
          exact Json.andThen_of_error unit
      | ok _ =>
          rw [null] at unit
          rw [Json.andThen_of_ok unit, Json.map_apply, ending]
          cases others <;> rfl

theorem decodes_readKind (depth : Nat) : Decodes depth (@readKind Reason) decodeKind := by
  intro input written rest read
  obtain ⟨byte, here, blanks, denotes⟩ := Json.denotes_of_readWritten read
  unfold readKind
  rw [Json.look_of_cons blanks]
  cases denotes with
  | @text name starts textRead =>
      rw [if_pos starts, Json.andThen_of_ok textRead]
      exact kindNamed_eq name rest
  | @object inner found after nested starts membersRead closed =>
      subst_vars
      rw [if_neg (by decide), if_pos rfl]
      obtain ⟨name?, start, mark, read⟩ := Json.andThen_eq_ok.mp membersRead
      cases name? with
      | none =>
          cases read
          obtain ⟨behind, blanks, -⟩ := Json.anotherName_eq_ok_none.mp mark
          have wrong : @readChoice Reason here = .error .malformed := by
            unfold readChoice
            rw [Json.look_of_cons blanks]
            rfl
          exact Json.andThen_of_error wrong
      | some name =>
          obtain ⟨before, named, blanks⟩ := Json.anotherName_eq_ok_some.mp mark
          obtain ⟨longer, between, memberRead, tailRead⟩ := Json.andThen_eq_ok.mp read
          unfold Json.readWrittenMember at memberRead
          rw [← Json.andThen_map] at memberRead
          obtain ⟨value, valueRead, same⟩ := Json.map_eq_ok.mp memberRead
          rw [← same, List.nil_append] at tailRead
          obtain ⟨others, split⟩ := Json.membersWithin_append tailRead
          rw [split] at tailRead ⊢
          exact readChoice_object blanks named valueRead tailRead closed
  | @number value starts numberRead =>
      have notQuote : ¬ byte = Json.Byte.quote := Json.ne_of_startsNumber starts rfl
      have notBrace : ¬ byte = Json.Byte.openBrace := Json.ne_of_startsNumber starts rfl
      rw [if_neg notQuote, if_neg notBrace]
      rfl
  | _ =>
      subst_vars
      rfl

/-! ### Properties -/

inductive PropertySlot where
  | kind
  | value
  deriving DecidableEq

namespace PropertySlot

def name : PropertySlot → String
  | .kind => "kind"
  | .value => "value"

def all : List PropertySlot :=
  [.kind, .value]

def pick (kind value : Json) : PropertySlot → Json
  | .kind => kind
  | .value => value

def ofName? (name : String) : Option PropertySlot :=
  all.find? fun slot => slot.name = name

theorem ofName?_name (slot : PropertySlot) : ofName? slot.name = some slot := by
  cases slot <;> decide

theorem name_of_ofName? {name : String} {slot : PropertySlot} (found : ofName? name = some slot) :
    slot.name = name := by
  simpa using List.find?_some found

end PropertySlot

namespace PropertyDraft

def held (draft : PropertyDraft) : PropertySlot → Option (PropertyKind ⊕ Json)
  | .kind => draft.kind.map .inl
  | .value => draft.value.map .inr

def decode (slot : PropertySlot) (written : Json) :
    Except (ReadError Reason) (PropertyKind ⊕ Json) :=
  match slot with
  | .kind => (decodeKind written).map .inl
  | .value => .ok (.inr (Json.settle written))

def fill (slot : PropertySlot) (draft : PropertyDraft) (written : Json) :
    Except (ReadError Reason) PropertyDraft :=
  match slot with
  | .kind => (decodeKind written).map fun kind => { draft with kind := some kind }
  | .value => .ok { draft with value := some (Json.settle written) }

theorem eq_of_held {left right : PropertyDraft} (same : ∀ slot, left.held slot = right.held slot) :
    left = right := by
  cases left
  cases right
  rw [PropertyDraft.mk.injEq]
  exact ⟨Option.map_injective (fun _ _ => Sum.inl.inj) (same .kind),
    Option.map_injective (fun _ _ => Sum.inr.inj) (same .value)⟩

theorem fill_eq_ok {slot : PropertySlot} {draft next : PropertyDraft} {written : Json} :
    @fill Reason slot draft written = .ok next ↔
      ∃ found, @decode Reason slot written = .ok found ∧
        ∀ other, next.held other = if other = slot then some found else draft.held other := by
  cases slot with
  | kind =>
      constructor
      · intro filled
        obtain ⟨kind, decoded, same⟩ := outcome_map_eq_ok.mp filled
        refine ⟨.inl kind, outcome_map_eq_ok.mpr ⟨kind, decoded, rfl⟩, ?_⟩
        intro other
        rw [← same]
        cases other <;> rfl
      · rintro ⟨found, decoded, held⟩
        obtain ⟨kind, kindDecoded, same⟩ := outcome_map_eq_ok.mp decoded
        refine outcome_map_eq_ok.mpr ⟨kind, kindDecoded, eq_of_held ?_⟩
        intro other
        rw [held other, ← same]
        cases other <;> rfl
  | value =>
      constructor
      · intro filled
        refine ⟨_, rfl, ?_⟩
        intro other
        cases filled
        cases other <;> rfl
      · rintro ⟨found, decoded, held⟩
        cases decoded
        apply congrArg Except.ok
        apply eq_of_held
        intro other
        rw [held other]
        cases other <;> rfl

theorem exists_fill {slot : PropertySlot} {written : Json} {found : PropertyKind ⊕ Json}
    (decoded : @decode Reason slot written = .ok found) (draft : PropertyDraft) :
    ∃ next, @fill Reason slot draft written = .ok next := by
  cases slot with
  | kind =>
      obtain ⟨kind, kindDecoded, -⟩ := outcome_map_eq_ok.mp decoded
      exact ⟨_, outcome_map_eq_ok.mpr ⟨kind, kindDecoded, rfl⟩⟩
  | value => exact ⟨_, rfl⟩

def field : PropertySlot → Field Reason PropertyDraft
  | .kind => kindField
  | .value => valueField

def slots : Json.Slots (@Property.shape Reason) PropertySlot (PropertyKind ⊕ Json) where
  name := PropertySlot.name
  slot? := PropertySlot.ofName?
  field := field
  held := held
  decode := decode
  fill := fill
  slot?_name := PropertySlot.ofName?_name
  name_of_slot? := PropertySlot.name_of_ofName?
  eq_of_held := eq_of_held
  field?_eq := by
    intro name
    change (PropertySlot.all.map field).find? _ = _
    rw [List.find?_map]
    rfl
  name_field := by
    intro slot
    cases slot <;> rfl
  isRead_field := by
    intro slot draft
    cases slot <;> exact Option.isSome_map.symm
  fill_eq_ok := fill_eq_ok
  exists_fill := exists_fill

theorem decodes_read (slot : PropertySlot) (draft : PropertyDraft) :
    Decodes valueDepth ((@field Reason slot).read draft) (fill slot draft) := by
  cases slot with
  | kind => exact (decodes_readKind valueDepth).map _
  | value => exact (Json.decodes_readValue valueDepth).map _

end PropertyDraft

theorem Property.decodes_read :
    Decodes (valueDepth + 1) (@Property.shape Reason).read
      (Property.shape.decode PropertyDraft.slots.take) := by
  have ordered : (@Property.shape Reason).fields =
      PropertySlot.all.map PropertyDraft.slots.field := rfl
  exact PropertyDraft.slots.decodes_read ordered PropertyDraft.decodes_read

/-! ### Diagnostics -/

def decodeProperties : Json → Except (ReadError Reason) (List Property) :=
  decodeList (Property.shape.decode PropertyDraft.slots.take)

inductive DiagnosticSlot where
  | code
  | message
  | properties
  deriving DecidableEq

namespace DiagnosticSlot

def name : DiagnosticSlot → String
  | .code => "code"
  | .message => "message"
  | .properties => "properties"

def all : List DiagnosticSlot :=
  [.code, .message, .properties]

def pick (code message properties : Json) : DiagnosticSlot → Json
  | .code => code
  | .message => message
  | .properties => properties

def ofName? (name : String) : Option DiagnosticSlot :=
  all.find? fun slot => slot.name = name

theorem ofName?_name (slot : DiagnosticSlot) : ofName? slot.name = some slot := by
  cases slot <;> decide

theorem name_of_ofName? {name : String} {slot : DiagnosticSlot}
    (found : ofName? name = some slot) : slot.name = name := by
  simpa using List.find?_some found

end DiagnosticSlot

namespace DiagnosticDraft

def held (draft : DiagnosticDraft) : DiagnosticSlot → Option (String ⊕ List Property)
  | .code => draft.code.map .inl
  | .message => draft.message.map .inl
  | .properties => draft.properties.map .inr

def decode (slot : DiagnosticSlot) (written : Json) :
    Except (ReadError Reason) (String ⊕ List Property) :=
  match slot with
  | .code => (decodeText written).map .inl
  | .message => (decodeText written).map .inl
  | .properties => (decodeProperties written).map .inr

def fill (slot : DiagnosticSlot) (draft : DiagnosticDraft) (written : Json) :
    Except (ReadError Reason) DiagnosticDraft :=
  match slot with
  | .code => (decodeText written).map fun code => { draft with code := some code }
  | .message => (decodeText written).map fun message => { draft with message := some message }
  | .properties =>
      (decodeProperties written).map fun properties => { draft with properties := some properties }

theorem eq_of_held {left right : DiagnosticDraft}
    (same : ∀ slot, left.held slot = right.held slot) : left = right := by
  cases left
  cases right
  rw [DiagnosticDraft.mk.injEq]
  exact ⟨Option.map_injective (fun _ _ => Sum.inl.inj) (same .code),
    Option.map_injective (fun _ _ => Sum.inl.inj) (same .message),
    Option.map_injective (fun _ _ => Sum.inr.inj) (same .properties)⟩

theorem fill_eq_ok {slot : DiagnosticSlot} {draft next : DiagnosticDraft} {written : Json} :
    @fill Reason slot draft written = .ok next ↔
      ∃ found, @decode Reason slot written = .ok found ∧
        ∀ other, next.held other = if other = slot then some found else draft.held other := by
  constructor
  · intro filled
    cases slot
    all_goals
      obtain ⟨value, decoded, same⟩ := outcome_map_eq_ok.mp filled
      refine ⟨_, outcome_map_eq_ok.mpr ⟨value, decoded, rfl⟩, ?_⟩
      intro other
      rw [← same]
      cases other <;> rfl
  · rintro ⟨found, decoded, held⟩
    cases slot
    all_goals
      obtain ⟨value, valueDecoded, same⟩ := outcome_map_eq_ok.mp decoded
      refine outcome_map_eq_ok.mpr ⟨value, valueDecoded, eq_of_held ?_⟩
      intro other
      rw [held other, ← same]
      cases other <;> rfl

theorem exists_fill {slot : DiagnosticSlot} {written : Json} {found : String ⊕ List Property}
    (decoded : @decode Reason slot written = .ok found) (draft : DiagnosticDraft) :
    ∃ next, @fill Reason slot draft written = .ok next := by
  cases slot
  all_goals
    obtain ⟨value, valueDecoded, -⟩ := outcome_map_eq_ok.mp decoded
    exact ⟨_, outcome_map_eq_ok.mpr ⟨value, valueDecoded, rfl⟩⟩

def field : DiagnosticSlot → Field Reason DiagnosticDraft
  | .code => codeField
  | .message => messageField
  | .properties => propertiesField

def slots :
    Json.Slots (@Diagnostic.shape Reason) DiagnosticSlot (String ⊕ List Property) where
  name := DiagnosticSlot.name
  slot? := DiagnosticSlot.ofName?
  field := field
  held := held
  decode := decode
  fill := fill
  slot?_name := DiagnosticSlot.ofName?_name
  name_of_slot? := DiagnosticSlot.name_of_ofName?
  eq_of_held := eq_of_held
  field?_eq := by
    intro name
    change (DiagnosticSlot.all.map field).find? _ = _
    rw [List.find?_map]
    rfl
  name_field := by
    intro slot
    cases slot <;> rfl
  isRead_field := by
    intro slot draft
    cases slot <;> exact Option.isSome_map.symm
  fill_eq_ok := fill_eq_ok
  exists_fill := exists_fill

theorem decodes_read (slot : DiagnosticSlot) (draft : DiagnosticDraft) :
    Decodes (valueDepth + 2) ((@field Reason slot).read draft) (fill slot draft) := by
  cases slot with
  | code => exact (Json.decodes_readText _).map _
  | message => exact (Json.decodes_readText _).map _
  | properties => exact (Json.decodes_readList Property.decodes_read).map _

end DiagnosticDraft

theorem Diagnostic.decodes_read :
    Decodes (valueDepth + 3) (@Diagnostic.shape Reason).read
      (Diagnostic.shape.decode DiagnosticDraft.slots.take) := by
  have ordered : (@Diagnostic.shape Reason).fields =
      DiagnosticSlot.all.map DiagnosticDraft.slots.field := rfl
  exact DiagnosticDraft.slots.decodes_read ordered DiagnosticDraft.decodes_read

def decode : Json → Except (ReadError Empty) (List Diagnostic) :=
  decodeList (Diagnostic.shape.decode DiagnosticDraft.slots.take)

/-- A text is read as its written value is decoded. -/
theorem parse_eq_decode {text : Json.Input} {written : Json}
    (parsed : Json.parseWritten text = .ok written) : parse text = decode written :=
  (Json.decodes_readList Diagnostic.decodes_read).readAll parsed

end IssueReport.Wire
