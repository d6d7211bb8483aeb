import IssueReport.Proofs.Json.Decoding
/-!
Drafts as tables. Every field of a record has a slot, which is empty or holds what the field was
read to be. If no field is named twice, the members of an object fill the slots in any order; the
values of an array fill them in the order of the fields.
-/

namespace IssueReport.Json

variable {Reason Draft Result Slot Value : Type} [DecidableEq Slot]

theorem required_eq_ok {name : String} {value? : Option Value} {value : Value} :
    required name value? = .ok value ↔ value? = some value := by
  cases value? with
  | none =>
      constructor <;> intro impossible <;> cases impossible
  | some other => rw [required, Except.ok.injEq, Option.some.injEq]

/-- How a draft is filled: which field fills which slot, and with what. -/
structure Slots (shape : Shape Reason Draft Result) (Slot Value : Type) [DecidableEq Slot] where
  name : Slot → String
  slot? : String → Option Slot
  field : Slot → Field Reason Draft
  held : Draft → Slot → Option Value
  decode : Slot → Json → Except (ReadError Reason) Value
  fill : Slot → Draft → Json → Except (ReadError Reason) Draft
  slot?_name : ∀ slot, slot? (name slot) = some slot
  name_of_slot? : ∀ {text slot}, slot? text = some slot → name slot = text
  eq_of_held : ∀ {left right : Draft}, (∀ slot, held left slot = held right slot) → left = right
  field?_eq : ∀ text, shape.field? text = (slot? text).map field
  name_field : ∀ slot, (field slot).name = name slot
  isRead_field : ∀ slot draft, (field slot).isRead draft = (held draft slot).isSome
  fill_eq_ok : ∀ {slot draft next written}, fill slot draft written = .ok next ↔
    ∃ value, decode slot written = .ok value ∧
      ∀ other, held next other = if other = slot then some value else held draft other
  exists_fill : ∀ {slot written value}, decode slot written = .ok value → ∀ draft,
    ∃ next, fill slot draft written = .ok next

namespace Slots

variable {shape : Shape Reason Draft Result} (slots : Slots shape Slot Value)

def take (name : String) (draft : Draft) (written : Json) : Except (ReadError Reason) Draft :=
  match slots.slot? name with
  | some slot => slots.fill slot draft written
  | none => .ok draft

theorem name_injective {left right : Slot} (same : slots.name left = slots.name right) :
    left = right := by
  have found := slots.slot?_name left
  rw [same, slots.slot?_name] at found
  exact (Option.some.inj found).symm

theorem take_name (slot : Slot) (draft : Draft) (written : Json) :
    slots.take (slots.name slot) draft written = slots.fill slot draft written := by
  rw [take, slots.slot?_name]

theorem decodeMember_name {slot : Slot} {draft : Draft} (fresh : slots.held draft slot = none)
    (written : Json) :
    shape.decodeMember slots.take draft (slots.name slot, written) =
      slots.fill slot draft written := by
  have unread : ¬ (slots.field slot).isRead draft = true := by
    rw [slots.isRead_field, fresh]
    exact Bool.false_ne_true
  unfold Shape.decodeMember
  rw [slots.field?_eq, slots.slot?_name]
  exact (if_neg unread).trans (slots.take_name slot draft written)

theorem decodeMember_other {text : String} (foreign : slots.slot? text = none) (draft : Draft)
    (written : Json) : shape.decodeMember slots.take draft (text, written) = .ok draft := by
  unfold Shape.decodeMember
  rw [slots.field?_eq, foreign]
  rfl

/-- A record is decoded from its written value, if each of its slots is. -/
theorem decodes_read {inner : Nat} {order : List Slot}
    (ordered : shape.fields = order.map slots.field)
    (fields : ∀ slot draft, Decodes inner ((slots.field slot).read draft) (slots.fill slot draft)) :
    Decodes (inner + 1) shape.read (shape.decode slots.take) := by
  apply Shape.decodes_read
  intro field declared draft
  rw [ordered] at declared
  obtain ⟨slot, -, same⟩ := List.mem_map.mp declared
  have taken : slots.take (slots.field slot).name draft = slots.fill slot draft := by
    funext written
    rw [slots.name_field, take_name]
  rw [← same, taken]
  exact fields slot draft

/-- The values of an array stand for members in the order of the fields, as far as they go. -/
theorem decodeFields_eq_foldlM {order later : List Slot} (distinct : order.Nodup)
    (optional : ∀ slot ∈ later, (slots.field slot).isOptional = true) (valueOf : Slot → Json)
    {draft : Draft} (fresh : ∀ slot ∈ order, slots.held draft slot = none) (position : Nat) :
    shape.decodeFields slots.take draft position ((order ++ later).map slots.field)
        (order.map valueOf) =
      ((order.map fun slot => (slots.name slot, valueOf slot)).foldlM
        (shape.decodeMember slots.take) draft).map fun next => (next, []) := by
  induction order generalizing draft position with
  | nil =>
      rw [List.nil_append]
      induction later generalizing position with
      | nil => rfl
      | cons slot later ih =>
          have here := optional slot List.mem_cons_self
          have rest := ih (fun other present => optional other (List.mem_cons_of_mem slot present))
            (position + 1)
          rw [List.map_cons, List.map_nil, Shape.decodeFields, if_pos here]
          exact rest
  | cons slot order ih =>
      have headFresh := fresh slot List.mem_cons_self
      rw [List.cons_append, List.map_cons, List.map_cons, List.map_cons, List.foldlM_cons,
        slots.decodeMember_name headFresh, Shape.decodeFields, slots.name_field, slots.take_name]
      cases filled : slots.fill slot draft (valueOf slot) with
      | error fault => rfl
      | ok next =>
          apply ih (List.nodup_cons.mp distinct).2
          intro other present
          obtain ⟨value, -, held⟩ := slots.fill_eq_ok.mp filled
          have different : ¬ other = slot := by
            intro same
            rw [same] at present
            exact (List.nodup_cons.mp distinct).1 present
          rw [held other, if_neg different]
          exact fresh other (List.mem_cons_of_mem slot present)

/-- A record is decoded from the values of an array as from members that name the fields. -/
theorem decodeArray_eq_decodeObject (empty : ∀ slot, slots.held shape.initial slot = none)
    (order later : List Slot) (ordered : shape.fields = (order ++ later).map slots.field)
    (distinct : order.Nodup)
    (optional : ∀ slot ∈ later, (slots.field slot).isOptional = true) (valueOf : Slot → Json) :
    shape.decodeArray slots.take (order.map valueOf) =
      shape.decodeObject slots.take
        (order.map fun slot => (slots.name slot, valueOf slot)) := by
  have fields := slots.decodeFields_eq_foldlM distinct optional valueOf
    (fun slot _ => empty slot) 0
  unfold Shape.decodeArray Shape.decodeObject
  rw [ordered, fields]
  cases (order.map fun slot => (slots.name slot, valueOf slot)).foldlM
      (shape.decodeMember slots.take) shape.initial with
  | error fault => rfl
  | ok draft =>
      change (shape.decodeDraft draft >>= fun result => .ok result) = shape.decodeDraft draft
      cases shape.decodeDraft draft <;> rfl

def Holds (slot : Slot) (written? : Option Json) (value? : Option Value) : Prop :=
  match written? with
  | none => value? = none
  | some written => ∃ value, slots.decode slot written = .ok value ∧ value? = some value

theorem holds_some {slot : Slot} {written? : Option Json} {value : Value} :
    slots.Holds slot written? (some value) ↔
      ∃ written, written? = some written ∧ slots.decode slot written = .ok value := by
  cases written? with
  | none => simp [Holds]
  | some written => simp [Holds, eq_comm]

theorem holds_none {slot : Slot} {written? : Option Json} :
    slots.Holds slot written? none ↔ written? = none := by
  cases written? with
  | none => simp [Holds]
  | some written => simp [Holds]

def Unrepeated (members : List (String × Json)) : Prop :=
  ∀ slot, (members.map (·.1)).count (slots.name slot) ≤ 1

/-- The next draft holds what its members denote, and keeps what they leave. -/
def Gathers (members : List (String × Json)) (draft next : Draft) : Prop :=
  ∀ slot,
    match member? (slots.name slot) members with
    | none => slots.held next slot = slots.held draft slot
    | some written =>
        ∃ value, slots.decode slot written = .ok value ∧ slots.held next slot = some value

variable {slots}

theorem gathers_other {text : String} (foreign : slots.slot? text = none) (written : Json)
    {members : List (String × Json)} {draft next : Draft} :
    slots.Gathers ((text, written) :: members) draft next ↔ slots.Gathers members draft next := by
  have skipped : ∀ slot, member? (slots.name slot) ((text, written) :: members) =
      member? (slots.name slot) members := by
    intro slot
    apply member?_cons_of_ne
    intro same
    rw [same, slots.slot?_name] at foreign
    cases foreign
  unfold Gathers
  simp only [skipped]

theorem gathers_name {slot : Slot} {written : Json} {members : List (String × Json)}
    {draft mid next : Draft} (absent : slots.name slot ∉ members.map (·.1))
    (filled : slots.fill slot draft written = .ok mid) :
    slots.Gathers ((slots.name slot, written) :: members) draft next ↔
      slots.Gathers members mid next := by
  obtain ⟨value, decoded, held⟩ := slots.fill_eq_ok.mp filled
  have others : ∀ other, ¬ other = slot →
      member? (slots.name other) ((slots.name slot, written) :: members) =
          member? (slots.name other) members ∧
        slots.held mid other = slots.held draft other := by
    intro other different
    refine ⟨member?_cons_of_ne ?_ written members, ?_⟩
    · intro same
      exact different (slots.name_injective same).symm
    · rw [held other, if_neg different]
  have head := member?_cons_self (slots.name slot) written members
  have tail := member?_eq_none absent
  have present : slots.held mid slot = some value := by
    rw [held slot, if_pos rfl]
  constructor
  · intro gathers other
    have gathered := gathers other
    by_cases same : other = slot
    · rw [same, head] at gathered
      obtain ⟨found, foundDecoded, kept⟩ := gathered
      rw [decoded] at foundDecoded
      cases foundDecoded
      rw [same, tail, kept, present]
    · obtain ⟨member, unchanged⟩ := others other same
      rw [member, ← unchanged] at gathered
      exact gathered
  · intro gathers other
    have gathered := gathers other
    by_cases same : other = slot
    · rw [same, tail] at gathered
      rw [same, head]
      exact ⟨value, decoded, gathered.trans present⟩
    · obtain ⟨member, unchanged⟩ := others other same
      rw [member, ← unchanged]
      exact gathered

/-- Members are gathered in any order. -/
theorem foldlM_eq_ok {members : List (String × Json)} (unrepeated : slots.Unrepeated members)
    {draft next : Draft}
    (fresh : ∀ slot, slots.name slot ∈ members.map (·.1) → slots.held draft slot = none) :
    members.foldlM (shape.decodeMember slots.take) draft = .ok next ↔
      slots.Gathers members draft next := by
  induction members generalizing draft with
  | nil =>
      constructor
      · intro same slot
        cases same
        rfl
      · intro kept
        exact congrArg Except.ok (slots.eq_of_held fun slot => (kept slot).symm)
  | cons member members ih =>
      obtain ⟨text, written⟩ := member
      rw [List.foldlM_cons, outcome_bind_eq_ok]
      have tailUnrepeated : slots.Unrepeated members :=
        fun slot => Nat.le_trans List.count_le_count_cons (unrepeated slot)
      have tailFresh : ∀ slot, slots.name slot ∈ members.map (·.1) →
          slots.held draft slot = none :=
        fun slot named => fresh slot (List.mem_cons_of_mem text named)
      cases named : slots.slot? text with
      | none =>
          rw [gathers_other named, ← ih tailUnrepeated tailFresh, slots.decodeMember_other named]
          constructor
          · rintro ⟨kept, same, rest⟩
            cases same
            exact rest
          · intro rest
            exact ⟨draft, rfl, rest⟩
      | some slot =>
          have same := slots.name_of_slot? named
          -- no later member names the slot, so what it holds from here on is settled
          have absent : slots.name slot ∉ members.map (·.1) := by
            have once := unrepeated slot
            rw [← same, List.map_cons, List.count_cons_self] at once
            rw [← List.count_eq_zero]
            omega
          have headFresh : slots.held draft slot = none := by
            apply fresh
            rw [same]
            exact List.mem_cons_self
          have midFresh : ∀ mid, slots.fill slot draft written = .ok mid →
              ∀ other, slots.name other ∈ members.map (·.1) → slots.held mid other = none := by
            intro mid filled other present
            obtain ⟨value, -, held⟩ := slots.fill_eq_ok.mp filled
            have different : ¬ other = slot := by
              intro equal
              rw [equal] at present
              exact absent present
            rw [held other, if_neg different]
            exact tailFresh other present
          rw [← same, slots.decodeMember_name headFresh]
          constructor
          · rintro ⟨mid, filled, rest⟩
            rw [gathers_name absent filled]
            exact (ih tailUnrepeated (midFresh mid filled)).mp rest
          · intro gathers
            have gathered := gathers slot
            rw [member?_cons_self] at gathered
            obtain ⟨value, decoded, -⟩ := gathered
            obtain ⟨mid, filled⟩ := slots.exists_fill decoded draft
            rw [gathers_name absent filled] at gathers
            exact ⟨mid, filled, (ih tailUnrepeated (midFresh mid filled)).mpr gathers⟩

/-- Members that are gathered name no slot twice, and no slot that is filled already. -/
theorem unrepeated_of_foldlM {members : List (String × Json)} {draft next : Draft}
    (folded : members.foldlM (shape.decodeMember slots.take) draft = .ok next) (slot : Slot) :
    (members.map (·.1)).count (slots.name slot) ≤
      if (slots.held draft slot).isSome then 0 else 1 := by
  induction members generalizing draft with
  | nil => exact Nat.zero_le _
  | cons member members ih =>
      obtain ⟨text, written⟩ := member
      rw [List.foldlM_cons] at folded
      obtain ⟨mid, taken, rest⟩ := outcome_bind_eq_ok.mp folded
      have tail := ih rest
      rw [List.map_cons, List.count_cons]
      cases named : slots.slot? text with
      | none =>
          have other : ¬ text = slots.name slot := by
            intro same
            rw [same, slots.slot?_name] at named
            cases named
          rw [slots.decodeMember_other named] at taken
          cases taken
          simpa [other] using tail
      | some here =>
          have same := slots.name_of_slot? named
          rw [← same] at taken ⊢
          -- a second member for a slot is refused, so this one is the first and the last
          cases full : slots.held draft here with
          | some value =>
              have read : (slots.field here).isRead draft = true := by
                rw [slots.isRead_field, full]
                rfl
              unfold Shape.decodeMember at taken
              rw [slots.field?_eq, slots.slot?_name] at taken
              have refused := (if_pos read).symm.trans taken
              cases refused
          | none =>
              rw [slots.decodeMember_name full] at taken
              obtain ⟨value, -, held⟩ := slots.fill_eq_ok.mp taken
              rw [held slot] at tail
              by_cases equal : slot = here
              · rw [if_pos equal] at tail
                rw [equal] at tail ⊢
                simpa [full] using tail
              · have different : ¬ slots.name here = slots.name slot :=
                  fun agree => equal (slots.name_injective agree).symm
                rw [if_neg equal] at tail
                simpa [different] using tail

theorem unrepeated_of_decodeObject {members : List (String × Json)} {result : Result}
    (decoded : shape.decodeObject slots.take members = .ok result) :
    slots.Unrepeated members := by
  intro slot
  obtain ⟨draft, folded, -⟩ := outcome_bind_eq_ok.mp decoded
  have bounded := unrepeated_of_foldlM folded slot
  split at bounded <;> omega

/-- A record is decoded from members exactly if they fill a draft that can be finished. -/
theorem decodeObject_eq_ok (empty : ∀ slot, slots.held shape.initial slot = none)
    {members : List (String × Json)} (unrepeated : slots.Unrepeated members) {result : Result} :
    shape.decodeObject slots.take members = .ok result ↔
      ∃ draft, shape.finish draft = .ok result ∧
        ∀ slot, slots.Holds slot (member? (slots.name slot) members) (slots.held draft slot) := by
  have gathers : ∀ draft, slots.Gathers members shape.initial draft ↔
      ∀ slot,
        slots.Holds slot (member? (slots.name slot) members) (slots.held draft slot) := by
    intro draft
    unfold Gathers Holds
    simp only [empty]
  unfold Shape.decodeObject
  rw [outcome_bind_eq_ok]
  apply exists_congr
  intro draft
  rw [foldlM_eq_ok unrepeated (fun slot _ => empty slot), Shape.decodeDraft,
    outcome_mapError_eq_ok, gathers]
  exact and_comm

end Slots

end IssueReport.Json
