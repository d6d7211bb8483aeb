import IssueReport.Config.Yaml
import IssueReport.Proofs.Text.Utf8
/-!
What a document says as a configuration. There is a relation for each kind of value, with a
constructor for each form that it is written in, and the relations count the aliases that are
followed. The reader finds what is said, and nothing else.
-/

namespace IssueReport.Config

open Yaml (Node Graph)

/-! ### What is said -/

section Says

variable (graph : Graph)

/-- What stands at a node. An alias stands for another node; one without such a node is no value. -/
inductive Follows : Nat → Node → Node → Prop
  | direct {node : Node} (noAlias : ∀ number, node ≠ .alias number) : Follows 0 node node
  | along {number : Nat} :
      Follows 1 (.alias number) ((graph.target? number).getD (.alias number))

inductive SaysText : Nat → Node → String → Prop
  | scalar {cost : Nat} {node : Node} {tag : Option String} {style : Yaml.ScalarStyle}
      {text : String} (follows : Follows graph cost node (.scalar tag style text)) :
      SaysText cost node text

inductive Spells : String → Bool → Prop
  | yes {text : String} (spelled : text ∈ ["true", "True", "TRUE"]) : Spells text true
  | no {text : String} (spelled : text ∈ ["false", "False", "FALSE"]) : Spells text false

inductive SaysBoolean : Nat → Node → Bool → Prop
  | plain {cost : Nat} {node : Node} {tag : Option String} {text : String} {value : Bool}
      (follows : Follows graph cost node (.scalar tag .plain text)) (spells : Spells text value) :
      SaysBoolean cost node value
  | literal {cost : Nat} {node : Node} {text : String} {value : Bool}
      (follows : Follows graph cost node (.scalar (some booleanTag) .literal text))
      (spells : Spells text value) : SaysBoolean cost node value

inductive IsNothing : Node → Prop
  | untagged {text : String} (spelled : text ∈ ["", "~", "null", "Null", "NULL"]) :
      IsNothing (.scalar none .plain text)
  | tagged {text : String} (spelled : text ∈ ["~", "null", "Null", "NULL"]) :
      IsNothing (.scalar (some nullTag) .plain text)

section Generic

variable {Value : Type} (means : Nat → Node → Value → Prop)

/-- A value that may be missing. What has the tag of null must be spelled so. -/
inductive SaysOptional : Nat → Node → Option Value → Prop
  | nothing {cost : Nat} {node target : Node} (follows : Follows graph cost node target)
      (isNothing : IsNothing target) : SaysOptional cost node none
  | something {cost more : Nat} {node target : Node} {value : Value}
      (follows : Follows graph cost node target)
      (untagged : ∀ text, target ≠ .scalar (some nullTag) .plain text)
      (notNothing : ¬ IsNothing target) (said : means more target value) :
      SaysOptional (cost + more) node (some value)

inductive SaysEach : Nat → List Node → List Value → Prop
  | nil : SaysEach 0 [] []
  | cons {cost more : Nat} {item : Node} {items : List Node} {value : Value} {values : List Value}
      (first : means cost item value) (rest : SaysEach more items values) :
      SaysEach (cost + more) (item :: items) (value :: values)

inductive SaysList : Nat → Node → List Value → Prop
  | items {cost more : Nat} {node : Node} {items : List Node} {values : List Value}
      (follows : Follows graph cost node (.sequence items)) (each : SaysEach means more items values) :
      SaysList (cost + more) node values
  | empty {cost : Nat} {node : Node} {tag : Option String}
      (follows : Follows graph cost node (.scalar tag .plain "")) : SaysList cost node []

end Generic

inductive HasEntries : Nat → Node → List (Node × Node) → Prop
  | mapping {cost : Nat} {node : Node} {entries : List (Node × Node)}
      (follows : Follows graph cost node (.mapping entries)) : HasEntries cost node entries
  | empty {cost : Nat} {node : Node} {tag : Option String}
      (follows : Follows graph cost node (.scalar tag .plain "")) : HasEntries cost node []

inductive Collects {Draft : Type} (adds : Nat → Draft × (Node × Node) → Draft → Prop) :
    Nat → Draft × List (Node × Node) → Draft → Prop
  | done {draft : Draft} : Collects adds 0 (draft, []) draft
  | step {cost more : Nat} {draft next last : Draft} {entry : Node × Node}
      {entries : List (Node × Node)} (first : adds cost (draft, entry) next)
      (rest : Collects adds more (next, entries) last) :
      Collects adds (cost + more) (draft, entry :: entries) last

/-- The fields of a plugin, each of which may be there once. -/
inductive AddsPluginField : Nat → PluginDraft × (Node × Node) → PluginDraft → Prop
  | name {cost more : Nat} {draft : PluginDraft} {key value : Node} {text : String}
      (keyed : SaysText graph cost key "name") (new : draft.name = none)
      (said : SaysText graph more value text) :
      AddsPluginField (cost + more) (draft, key, value) { draft with name := some text }
  | command {cost more : Nat} {draft : PluginDraft} {key value : Node} {text : String}
      (keyed : SaysText graph cost key "command") (new : draft.command = none)
      (said : SaysText graph more value text) :
      AddsPluginField (cost + more) (draft, key, value) { draft with command := some text }
  | arguments {cost more : Nat} {draft : PluginDraft} {key value : Node} {texts : List String}
      (keyed : SaysText graph cost key "args") (new : draft.arguments = none)
      (said : SaysList graph (SaysText graph) more value texts) :
      AddsPluginField (cost + more) (draft, key, value) { draft with arguments := some texts }
  | other {cost : Nat} {draft : PluginDraft} {key value : Node} {text : String}
      (keyed : SaysText graph cost key text) (unknown : text ∉ ["name", "command", "args"]) :
      AddsPluginField cost (draft, key, value) draft

inductive SaysPlugin : Nat → Node → CommandPlugin → Prop
  | plugin {cost more : Nat} {node : Node} {entries : List (Node × Node)} {name command : String}
      {arguments : Option (List String)} (fields : HasEntries graph cost node entries)
      (collected : Collects (AddsPluginField graph) more ({}, entries)
        ⟨some name, some command, arguments⟩) :
      SaysPlugin (cost + more) node ⟨name, command, arguments.getD []⟩

inductive AddsField : Nat → Draft × (Node × Node) → Draft → Prop
  | plugins {cost more : Nat} {draft : Draft} {key value : Node} {plugins : List CommandPlugin}
      (keyed : SaysText graph cost key "plugins") (new : draft.plugins = none)
      (said : SaysList graph (SaysPlugin graph) more value plugins) :
      AddsField (cost + more) (draft, key, value) { draft with plugins := some plugins }
  | diagnosticCode {cost more : Nat} {draft : Draft} {key value : Node} {code : Option String}
      (keyed : SaysText graph cost key "diagnostic_code") (new : draft.diagnosticCode = none)
      (said : SaysOptional graph (SaysText graph) more value code) :
      AddsField (cost + more) (draft, key, value) { draft with diagnosticCode := some code }
  | excludedPaths {cost more : Nat} {draft : Draft} {key value : Node} {patterns : List String}
      (keyed : SaysText graph cost key "excluded_paths") (new : draft.excludedPaths = none)
      (said : SaysList graph (SaysText graph) more value patterns) :
      AddsField (cost + more) (draft, key, value) { draft with excludedPaths := some patterns }
  | localCheck {cost more : Nat} {draft : Draft} {key value : Node} {check : Option Bool}
      (keyed : SaysText graph cost key "local_check") (new : draft.localCheck = none)
      (said : SaysOptional graph (SaysBoolean graph) more value check) :
      AddsField (cost + more) (draft, key, value) { draft with localCheck := some check }
  | other {cost : Nat} {draft : Draft} {key value : Node} {text : String}
      (keyed : SaysText graph cost key text)
      (unknown : text ∉ ["plugins", "diagnostic_code", "excluded_paths", "local_check"]) :
      AddsField cost (draft, key, value) draft

inductive SaysConfig : Nat → Node → Config → Prop
  | config {cost more : Nat} {node : Node} {entries : List (Node × Node)} {draft : Draft}
      (fields : HasEntries graph cost node entries)
      (collected : Collects (AddsField graph) more ({}, entries) draft) :
      SaysConfig (cost + more) node
        ⟨draft.plugins.getD [], draft.diagnosticCode.getD none, draft.excludedPaths.getD [],
          draft.localCheck.getD none⟩

end Says

/-- The configuration that the content of a file denotes. Nothing is said by a document without a
node, nor by one that takes too many aliases to read. -/
inductive Denotes : List UInt8 → Config → Prop
  | bare {text : String} {graph : Graph} (parsed : Graph.parse text = .ok graph)
      (empty : graph.root = none) : Denotes (Text.utf8 text) ⟨[], none, [], none⟩
  | document {text : String} {graph : Graph} {node : Node} {cost : Nat} {config : Config}
      (parsed : Graph.parse text = .ok graph) (root : graph.root = some node)
      (means : SaysConfig graph cost node config) (few : cost ≤ graph.aliasLimit) :
      Denotes (Text.utf8 text) config

/-! ### What is read -/

/-- A reader finds what is said if it may follow as many aliases as that takes. -/
def Reads {Input Value : Type} (decode : Input → Decoded Value)
    (means : Nat → Input → Value → Prop) : Prop :=
  ∀ input left value after, (decode input).run left = .ok (value, after) ↔
    ∃ cost, left = cost + after ∧ means cost input value

theorem run_bind_eq_ok {First Second : Type} {first : Decoded First} {next : First → Decoded Second}
    {left after : Nat} {value : Second} :
    (first >>= next).run left = .ok (value, after) ↔
      ∃ found between, first.run left = .ok (found, between) ∧
        (next found).run between = .ok (value, after) := by
  rw [StateT.run_bind]
  cases found : first.run left with
  | error fault =>
      constructor
      · intro impossible
        cases impossible
      · rintro ⟨_, _, impossible, -⟩
        cases impossible
  | ok pair =>
      constructor
      · intro onward
        exact ⟨pair.1, pair.2, rfl, onward⟩
      · rintro ⟨_, _, same, onward⟩
        cases same
        exact onward

theorem run_lift_eq_ok {Value : Type} {outcome : Except ConfigShapeFault Value} {left after : Nat}
    {value : Value} :
    (liftM outcome : Decoded Value).run left = .ok (value, after) ↔
      outcome = .ok value ∧ left = after := by
  cases outcome with
  | error fault =>
      constructor
      · intro impossible
        cases impossible
      · rintro ⟨impossible, -⟩
        cases impossible
  | ok found =>
      constructor
      · intro same
        cases same
        exact ⟨rfl, rfl⟩
      · rintro ⟨same, rfl⟩
        cases same
        rfl

theorem run_pure_eq_ok {Value : Type} {found value : Value} {left after : Nat} :
    (pure found : Decoded Value).run left = .ok (value, after) ↔ found = value ∧ left = after := by
  constructor
  · intro same
    cases same
    exact ⟨rfl, rfl⟩
  · rintro ⟨rfl, rfl⟩
    rfl

/-- What is read in two parts is said in two parts. -/
theorem Reads.bind {Input First Second : Type} {decode : Input → Decoded First}
    {means : Nat → Input → First → Prop} (reads : Reads decode means) (input : Input)
    (next : First → Decoded Second) (left after : Nat) (value : Second) :
    (decode input >>= next).run left = .ok (value, after) ↔
      ∃ cost found between, left = cost + between ∧ means cost input found ∧
        (next found).run between = .ok (value, after) := by
  rw [run_bind_eq_ok]
  constructor
  · rintro ⟨found, between, first, onward⟩
    obtain ⟨cost, same, said⟩ := (reads _ _ _ _).mp first
    exact ⟨cost, found, between, same, said, onward⟩
  · rintro ⟨cost, found, between, same, said, onward⟩
    exact ⟨found, between, (reads _ _ _ _).mpr ⟨cost, same, said⟩, onward⟩

section Readers

variable (graph : Graph)

theorem reads_follow : Reads (follow graph) (Follows graph) := by
  intro node left target after
  cases node with
  | scalar | sequence | mapping =>
      constructor
      · intro found
        cases found
        exact ⟨0, (Nat.zero_add _).symm, .direct (by simp)⟩
      · rintro ⟨cost, same, follows⟩
        cases follows
        rw [same, Nat.zero_add]
        rfl
  | _ number =>
      -- an alias takes one of those that may still be followed
      cases left with
      | zero =>
          constructor
          · intro impossible
            cases impossible
          · rintro ⟨cost, none, follows⟩
            cases follows with
            | direct noAlias => exact absurd rfl (noAlias number)
            | along => omega
      | succ left =>
          constructor
          · intro found
            cases found
            exact ⟨1, Nat.add_comm _ _, .along⟩
          · rintro ⟨cost, same, follows⟩
            cases follows with
            | direct noAlias => exact absurd rfl (noAlias number)
            | along =>
                have left_eq : left = after := by omega
                rw [left_eq]
                rfl

/-- A value that is read off the node that is followed to. -/
theorem run_follow_lift {Value : Type} {leaf : Node → Except ConfigShapeFault Value} {node : Node}
    {left after : Nat} {value : Value} :
    (follow graph node >>= fun target => (liftM (leaf target) : Decoded Value)).run left =
        .ok (value, after) ↔
      ∃ cost target, left = cost + after ∧ Follows graph cost node target ∧
        leaf target = .ok value := by
  rw [(reads_follow graph).bind]
  constructor
  · rintro ⟨cost, target, between, same, follows, read⟩
    obtain ⟨leafRead, rfl⟩ := run_lift_eq_ok.mp read
    exact ⟨cost, target, same, follows, leafRead⟩
  · rintro ⟨cost, target, same, follows, read⟩
    exact ⟨cost, target, after, same, follows, run_lift_eq_ok.mpr ⟨read, rfl⟩⟩

theorem textOf_eq_ok {node : Node} {text : String} :
    textOf node = .ok text ↔ ∃ tag style, node = .scalar tag style text := by
  cases node <;> simp [textOf, eq_comm]

theorem boolean?_eq_some {text : String} {value : Bool} :
    boolean? text = some value ↔ Spells text value := by
  unfold boolean?
  by_cases yes : text ∈ ["true", "True", "TRUE"]
  · rw [if_pos (List.contains_iff_mem.mpr yes)]
    constructor
    · intro same
      cases same
      exact .yes yes
    · intro spells
      cases spells with
      | yes => rfl
      | no spelled =>
          simp only [List.mem_cons, List.not_mem_nil, or_false] at yes spelled
          rcases yes with rfl | rfl | rfl <;> revert spelled <;> decide
  · rw [if_neg (fun found => yes (List.contains_iff_mem.mp found))]
    by_cases no : text ∈ ["false", "False", "FALSE"]
    · rw [if_pos (List.contains_iff_mem.mpr no)]
      constructor
      · intro same
        cases same
        exact .no no
      · intro spells
        cases spells with
        | yes spelled => exact absurd spelled yes
        | no => rfl
    · rw [if_neg (fun found => no (List.contains_iff_mem.mp found))]
      constructor
      · intro impossible
        cases impossible
      · intro spells
        cases spells with
        | yes spelled => exact absurd spelled yes
        | no spelled => exact absurd spelled no

theorem booleanOf_eq_ok {node : Node} {value : Bool} :
    booleanOf node = .ok value ↔
      (∃ tag text, node = .scalar tag .plain text ∧ Spells text value) ∨
        ∃ text, node = .scalar (some booleanTag) .literal text ∧ Spells text value := by
  simp only [← boolean?_eq_some]
  cases node with
  | scalar tag style text =>
      cases style with
      | plain =>
          have read : booleanOf (.scalar tag .plain text) = .ok value ↔
              boolean? text = some value := by
            cases found : boolean? text <;> simp [booleanOf, found]
          rw [read]
          constructor
          · intro spells
            exact .inl ⟨tag, text, rfl, spells⟩
          · rintro (⟨_, _, same, spells⟩ | ⟨_, impossible, _⟩)
            · cases same
              exact spells
            · cases impossible
      | literal =>
          cases tag with
          | none => simp [booleanOf]
          | some tag =>
              by_cases same : tag = booleanTag
              · cases found : boolean? text <;> simp [booleanOf, found, same]
              · simp [booleanOf, same]
      | _ => cases tag <;> simp [booleanOf]
  | _ => simp [booleanOf]

theorem reads_text : Reads (decodeText graph) (SaysText graph) := by
  intro node left text after
  unfold decodeText
  rw [run_follow_lift]
  constructor
  · rintro ⟨cost, target, same, follows, read⟩
    obtain ⟨tag, style, rfl⟩ := textOf_eq_ok.mp read
    exact ⟨cost, same, .scalar follows⟩
  · rintro ⟨cost, same, ⟨follows⟩⟩
    exact ⟨cost, _, same, follows, rfl⟩

theorem reads_boolean : Reads (decodeBoolean graph) (SaysBoolean graph) := by
  intro node left value after
  unfold decodeBoolean
  rw [run_follow_lift]
  constructor
  · rintro ⟨cost, target, same, follows, read⟩
    rcases booleanOf_eq_ok.mp read with ⟨tag, text, rfl, spells⟩ | ⟨text, rfl, spells⟩
    · exact ⟨cost, same, .plain follows spells⟩
    · exact ⟨cost, same, .literal follows spells⟩
  · rintro ⟨cost, same, said⟩
    cases said with
    | plain follows spells =>
        exact ⟨cost, _, same, follows, booleanOf_eq_ok.mpr (.inl ⟨_, _, rfl, spells⟩)⟩
    | literal follows spells =>
        exact ⟨cost, _, same, follows, booleanOf_eq_ok.mpr (.inr ⟨_, rfl, spells⟩)⟩

theorem reads_entries : Reads (decodeEntries graph) (HasEntries graph) := by
  intro node left entries after
  unfold decodeEntries
  rw [run_follow_lift]
  constructor
  · rintro ⟨cost, target, same, follows, read⟩
    unfold entriesOf at read
    split at read
    · cases read
      exact ⟨cost, same, .mapping follows⟩
    · cases read
      exact ⟨cost, same, .empty follows⟩
    · cases read
  · rintro ⟨cost, same, said⟩
    cases said with
    | mapping follows => exact ⟨cost, _, same, follows, rfl⟩
    | empty follows => exact ⟨cost, _, same, follows, rfl⟩

section Generic

variable {Value : Type} {decode : Node → Decoded Value} {means : Nat → Node → Value → Prop}
  (reads : Reads decode means)

theorem isNull_eq_true {node : Node} : isNull node = .ok true ↔ IsNothing node := by
  constructor
  · intro same
    unfold isNull at same
    split at same
    · refine .untagged ?_
      simpa [isNullText] using same
    · rename_i tag text
      by_cases tagged : tag = nullTag
      · by_cases spelled : isNullText text = true
        · rw [tagged]
          exact .tagged (by simpa [isNullText] using spelled)
        · simp [tagged, spelled] at same
      · simp [tagged] at same
    · cases same
  · intro isNothing
    cases isNothing with
    | untagged spelled => simpa [isNull, isNullText] using spelled
    | tagged spelled =>
        have named : isNullText _ = true := List.contains_iff_mem.mpr spelled
        rw [isNull, if_neg (by simp), if_pos named]

theorem isNull_eq_false {node : Node} :
    isNull node = .ok false ↔
      (∀ text, node ≠ .scalar (some nullTag) .plain text) ∧ ¬ IsNothing node := by
  rw [← isNull_eq_true]
  unfold isNull
  split
  · rename_i text
    cases decide (text = "") || isNullText text <;> simp
  · rename_i tag text
    by_cases tagged : tag = nullTag
    · by_cases spelled : isNullText text = true <;> simp [tagged, spelled]
    · simp [tagged]
  · rename_i untagged tagged
    constructor
    · intro _
      exact ⟨tagged nullTag, by simp⟩
    · intro _
      rfl

include reads

theorem reads_optional : Reads (decodeOptional graph decode) (SaysOptional graph means) := by
  intro node left value after
  unfold decodeOptional
  rw [(reads_follow graph).bind]
  constructor
  · rintro ⟨cost, target, between, same, follows, onward⟩
    obtain ⟨isNothing, _, lifted, onward⟩ := run_bind_eq_ok.mp onward
    obtain ⟨checked, rfl⟩ := run_lift_eq_ok.mp lifted
    cases isNothing with
    | true =>
        obtain ⟨rfl, rfl⟩ := run_pure_eq_ok.mp onward
        exact ⟨cost, same, .nothing follows (isNull_eq_true.mp checked)⟩
    | false =>
        obtain ⟨more, found, _, rest, said, last⟩ := (reads.bind _ _ _ _ _).mp onward
        obtain ⟨rfl, rfl⟩ := run_pure_eq_ok.mp last
        obtain ⟨untagged, notNothing⟩ := isNull_eq_false.mp checked
        exact ⟨cost + more, by omega, .something follows untagged notNothing said⟩
  · rintro ⟨_, same, said⟩
    cases said with
    | nothing follows isNothing =>
        rename_i target
        refine ⟨_, target, after, same, follows, run_bind_eq_ok.mpr ?_⟩
        exact ⟨true, after, run_lift_eq_ok.mpr ⟨isNull_eq_true.mpr isNothing, rfl⟩, rfl⟩
    | @something cost more _ target value follows untagged notNothing said =>
        refine ⟨cost, target, more + after, ?_, follows, run_bind_eq_ok.mpr ?_⟩
        · rw [same, Nat.add_assoc]
        · refine ⟨false, more + after,
            run_lift_eq_ok.mpr ⟨isNull_eq_false.mpr ⟨untagged, notNothing⟩, rfl⟩, ?_⟩
          exact (reads.bind _ _ _ _ _).mpr ⟨more, value, after, rfl, said, rfl⟩

theorem reads_each : Reads (fun items => items.mapM decode) (SaysEach means) := by
  intro items
  induction items with
  | nil =>
      intro left values after
      dsimp only
      rw [List.mapM_nil, run_pure_eq_ok]
      constructor
      · rintro ⟨rfl, rfl⟩
        exact ⟨0, (Nat.zero_add _).symm, .nil⟩
      · rintro ⟨cost, same, said⟩
        cases said
        exact ⟨rfl, by rw [same, Nat.zero_add]⟩
  | cons item items ih =>
      intro left values after
      dsimp only
      rw [List.mapM_cons, reads.bind]
      constructor
      · rintro ⟨cost, value, between, same, first, onward⟩
        obtain ⟨others, _, rest, last⟩ := run_bind_eq_ok.mp onward
        obtain ⟨rfl, rfl⟩ := run_pure_eq_ok.mp last
        obtain ⟨more, total, each⟩ := (ih _ _ _).mp rest
        exact ⟨cost + more, by omega, .cons first each⟩
      · rintro ⟨_, same, said⟩
        cases said with
        | @cons cost more _ _ value others first each =>
            refine ⟨cost, value, more + after, ?_, first, run_bind_eq_ok.mpr ?_⟩
            · rw [same, Nat.add_assoc]
            · exact ⟨others, after, (ih _ _ _).mpr ⟨more, rfl, each⟩, rfl⟩

theorem reads_list : Reads (decodeList graph decode) (SaysList graph means) := by
  intro node left values after
  unfold decodeList
  rw [(reads_follow graph).bind]
  constructor
  · rintro ⟨cost, target, between, same, follows, onward⟩
    obtain ⟨items, _, lifted, onward⟩ := run_bind_eq_ok.mp onward
    obtain ⟨found, rfl⟩ := run_lift_eq_ok.mp lifted
    obtain ⟨more, total, each⟩ := (reads_each reads _ _ _ _).mp onward
    unfold itemsOf at found
    split at found
    · cases found
      exact ⟨cost + more, by omega, .items follows each⟩
    · cases found
      cases each
      refine ⟨cost, ?_, .empty follows⟩
      rw [same, total, Nat.zero_add]
    · cases found
  · rintro ⟨_, same, said⟩
    cases said with
    | @items cost more _ items _ follows each =>
        refine ⟨cost, .sequence items, more + after, ?_, follows, run_bind_eq_ok.mpr ?_⟩
        · rw [same, Nat.add_assoc]
        · exact ⟨items, more + after, run_lift_eq_ok.mpr ⟨rfl, rfl⟩,
            (reads_each reads _ _ _ _).mpr ⟨more, rfl, each⟩⟩
    | empty follows =>
        rename_i tag
        refine ⟨_, .scalar tag .plain "", after, same, follows, run_bind_eq_ok.mpr ?_⟩
        exact ⟨[], after, run_lift_eq_ok.mpr ⟨rfl, rfl⟩, rfl⟩

/-- A field is set to what is said, if it has not been set before. -/
theorem run_once {Draft : Type} {name : String} {field : Option Value} {node : Node}
    {set : Option Value → Draft} {left after : Nat} {next : Draft} :
    (once name field (decode node) >>= fun found => (pure (set found) : Decoded Draft)).run left =
        .ok (next, after) ↔
      ∃ cost value, left = cost + after ∧ field = none ∧ means cost node value ∧
        next = set (some value) := by
  rw [run_bind_eq_ok]
  cases field with
  | some old =>
      constructor
      · rintro ⟨_, _, impossible, -⟩
        cases impossible
      · rintro ⟨_, _, _, impossible, -⟩
        cases impossible
  | none =>
      have mapped : once name none (decode node) =
          (decode node >>= fun value => (pure (some value) : Decoded (Option Value))) :=
        map_eq_pure_bind some (decode node)
      rw [mapped]
      constructor
      · rintro ⟨found, between, setting, last⟩
        obtain ⟨cost, value, _, same, said, kept⟩ := (reads.bind _ _ _ _ _).mp setting
        obtain ⟨rfl, rfl⟩ := run_pure_eq_ok.mp kept
        obtain ⟨rfl, rfl⟩ := run_pure_eq_ok.mp last
        exact ⟨cost, value, same, rfl, said, rfl⟩
      · rintro ⟨cost, value, same, -, said, rfl⟩
        refine ⟨some value, after, ?_, rfl⟩
        exact (reads.bind _ _ _ _ _).mpr ⟨cost, value, after, same, said, rfl⟩

end Generic

theorem reads_collect {Draft : Type} {add : Draft → Node × Node → Decoded Draft}
    {adds : Nat → Draft × (Node × Node) → Draft → Prop}
    (reads : Reads (fun input => add input.1 input.2) adds) :
    Reads (fun input : Draft × List (Node × Node) => input.2.foldlM add input.1) (Collects adds) := by
  rintro ⟨draft, entries⟩
  dsimp only
  induction entries generalizing draft with
  | nil =>
      intro left last after
      rw [List.foldlM_nil, run_pure_eq_ok]
      constructor
      · rintro ⟨rfl, rfl⟩
        exact ⟨0, (Nat.zero_add _).symm, .done⟩
      · rintro ⟨cost, same, collected⟩
        cases collected
        exact ⟨rfl, by rw [same, Nat.zero_add]⟩
  | cons entry entries ih =>
      intro left last after
      rw [List.foldlM_cons]
      have first := reads.bind (draft, entry) (fun next => entries.foldlM add next) left after last
      dsimp only at first
      rw [first]
      constructor
      · rintro ⟨cost, next, between, same, added, onward⟩
        obtain ⟨more, total, collected⟩ := (ih _ _ _ _).mp onward
        exact ⟨cost + more, by omega, .step added collected⟩
      · rintro ⟨_, same, collected⟩
        cases collected with
        | @step cost more _ next _ _ _ added rest =>
            refine ⟨cost, next, more + after, ?_, added, (ih _ _ _ _).mpr ⟨more, rfl, rest⟩⟩
            rw [same, Nat.add_assoc]

theorem reads_pluginField :
    Reads (fun input => addPluginField graph input.1 input.2) (AddsPluginField graph) := by
  rintro ⟨draft, key, value⟩ left next after
  dsimp only
  unfold addPluginField
  rw [(reads_text graph).bind]
  constructor
  · rintro ⟨cost, text, between, same, keyed, onward⟩
    split at onward
    · obtain ⟨more, found, total, new, said, rfl⟩ := (run_once (reads_text graph)).mp onward
      exact ⟨cost + more, by omega, .name keyed new said⟩
    · obtain ⟨more, found, total, new, said, rfl⟩ := (run_once (reads_text graph)).mp onward
      exact ⟨cost + more, by omega, .command keyed new said⟩
    · obtain ⟨more, found, total, new, said, rfl⟩ :=
        (run_once (reads_list graph (reads_text graph))).mp onward
      exact ⟨cost + more, by omega, .arguments keyed new said⟩
    · rename_i notName notCommand notArguments
      obtain ⟨rfl, rfl⟩ := run_pure_eq_ok.mp onward
      refine ⟨cost, same, .other keyed ?_⟩
      simp only [List.mem_cons, List.not_mem_nil, or_false, not_or]
      exact ⟨notName, notCommand, notArguments⟩
  · rintro ⟨_, same, added⟩
    cases added with
    | @name cost more _ _ _ text keyed new said =>
        refine ⟨cost, "name", more + after, by omega, keyed, ?_⟩
        exact (run_once (reads_text graph)).mpr ⟨more, text, rfl, new, said, rfl⟩
    | @command cost more _ _ _ text keyed new said =>
        refine ⟨cost, "command", more + after, by omega, keyed, ?_⟩
        exact (run_once (reads_text graph)).mpr ⟨more, text, rfl, new, said, rfl⟩
    | @arguments cost more _ _ _ texts keyed new said =>
        refine ⟨cost, "args", more + after, by omega, keyed, ?_⟩
        exact (run_once (reads_list graph (reads_text graph))).mpr ⟨more, texts, rfl, new, said, rfl⟩
    | other keyed unknown =>
        rename_i text
        refine ⟨_, text, after, same, keyed, ?_⟩
        simp only [List.mem_cons, List.not_mem_nil, or_false, not_or] at unknown
        split
        · exact absurd rfl unknown.1
        · exact absurd rfl unknown.2.1
        · exact absurd rfl unknown.2.2
        · rfl

theorem run_require {Value : Type} {name : String} {field : Option Value} {left after : Nat}
    {value : Value} :
    (require name field).run left = .ok (value, after) ↔ field = some value ∧ left = after := by
  cases field with
  | none =>
      constructor
      · intro impossible
        cases impossible
      · rintro ⟨impossible, -⟩
        cases impossible
  | some found =>
      rw [require, run_pure_eq_ok, Option.some_inj]

theorem reads_plugin : Reads (decodePlugin graph) (SaysPlugin graph) := by
  intro node left plugin after
  unfold decodePlugin
  rw [(reads_entries graph).bind]
  constructor
  · rintro ⟨cost, entries, between, same, fields, onward⟩
    obtain ⟨draft, _, folded, last⟩ := run_bind_eq_ok.mp onward
    obtain ⟨more, total, collected⟩ :=
      (reads_collect (reads_pluginField graph) ({}, entries) _ _ _).mp folded
    obtain ⟨name, _, named, last⟩ := run_bind_eq_ok.mp last
    obtain ⟨nameSome, rfl⟩ := run_require.mp named
    obtain ⟨command, _, commanded, last⟩ := run_bind_eq_ok.mp last
    obtain ⟨commandSome, rfl⟩ := run_require.mp commanded
    obtain ⟨rfl, rfl⟩ := run_pure_eq_ok.mp last
    obtain ⟨_, _, arguments⟩ := draft
    cases nameSome
    cases commandSome
    exact ⟨cost + more, by omega, .plugin fields collected⟩
  · rintro ⟨_, same, said⟩
    cases said with
    | @plugin cost more _ entries name command arguments fields collected =>
        refine ⟨cost, entries, more + after, by omega, fields, run_bind_eq_ok.mpr ?_⟩
        refine ⟨_, after, (reads_collect (reads_pluginField graph) ({}, entries) _ _ _).mpr
          ⟨more, rfl, collected⟩, run_bind_eq_ok.mpr ⟨name, after, rfl, ?_⟩⟩
        exact run_bind_eq_ok.mpr ⟨command, after, rfl, rfl⟩

theorem reads_field : Reads (fun input => addField graph input.1 input.2) (AddsField graph) := by
  have plugins := reads_list graph (reads_plugin graph)
  have code := reads_optional graph (reads_text graph)
  have patterns := reads_list graph (reads_text graph)
  have check := reads_optional graph (reads_boolean graph)
  rintro ⟨draft, key, value⟩ left next after
  dsimp only
  unfold addField
  rw [(reads_text graph).bind]
  constructor
  · rintro ⟨cost, text, between, same, keyed, onward⟩
    split at onward
    · obtain ⟨more, found, total, new, said, rfl⟩ := (run_once plugins).mp onward
      exact ⟨cost + more, by omega, .plugins keyed new said⟩
    · obtain ⟨more, found, total, new, said, rfl⟩ := (run_once code).mp onward
      exact ⟨cost + more, by omega, .diagnosticCode keyed new said⟩
    · obtain ⟨more, found, total, new, said, rfl⟩ := (run_once patterns).mp onward
      exact ⟨cost + more, by omega, .excludedPaths keyed new said⟩
    · obtain ⟨more, found, total, new, said, rfl⟩ := (run_once check).mp onward
      exact ⟨cost + more, by omega, .localCheck keyed new said⟩
    · rename_i notPlugins notCode notPatterns notCheck
      obtain ⟨rfl, rfl⟩ := run_pure_eq_ok.mp onward
      refine ⟨cost, same, .other keyed ?_⟩
      simp only [List.mem_cons, List.not_mem_nil, or_false, not_or]
      exact ⟨notPlugins, notCode, notPatterns, notCheck⟩
  · rintro ⟨_, same, added⟩
    cases added with
    | @plugins cost more _ _ _ found keyed new said =>
        refine ⟨cost, "plugins", more + after, by omega, keyed, ?_⟩
        exact (run_once plugins).mpr ⟨more, found, rfl, new, said, rfl⟩
    | @diagnosticCode cost more _ _ _ found keyed new said =>
        refine ⟨cost, "diagnostic_code", more + after, by omega, keyed, ?_⟩
        exact (run_once code).mpr ⟨more, found, rfl, new, said, rfl⟩
    | @excludedPaths cost more _ _ _ found keyed new said =>
        refine ⟨cost, "excluded_paths", more + after, by omega, keyed, ?_⟩
        exact (run_once patterns).mpr ⟨more, found, rfl, new, said, rfl⟩
    | @localCheck cost more _ _ _ found keyed new said =>
        refine ⟨cost, "local_check", more + after, by omega, keyed, ?_⟩
        exact (run_once check).mpr ⟨more, found, rfl, new, said, rfl⟩
    | other keyed unknown =>
        rename_i text
        refine ⟨_, text, after, same, keyed, ?_⟩
        simp only [List.mem_cons, List.not_mem_nil, or_false, not_or] at unknown
        split
        · exact absurd rfl unknown.1
        · exact absurd rfl unknown.2.1
        · exact absurd rfl unknown.2.2.1
        · exact absurd rfl unknown.2.2.2
        · rfl

theorem reads_config : Reads (decodeConfig graph) (SaysConfig graph) := by
  intro node left config after
  unfold decodeConfig
  rw [(reads_entries graph).bind]
  constructor
  · rintro ⟨cost, entries, between, same, fields, onward⟩
    obtain ⟨draft, _, folded, last⟩ := run_bind_eq_ok.mp onward
    obtain ⟨more, total, collected⟩ :=
      (reads_collect (reads_field graph) ({}, entries) _ _ _).mp folded
    obtain ⟨rfl, rfl⟩ := run_pure_eq_ok.mp last
    exact ⟨cost + more, by omega, .config fields collected⟩
  · rintro ⟨_, same, said⟩
    cases said with
    | @config cost more _ entries draft fields collected =>
        refine ⟨cost, entries, more + after, by omega, fields, run_bind_eq_ok.mpr ?_⟩
        exact ⟨draft, after, (reads_collect (reads_field graph) ({}, entries) _ _ _).mpr
          ⟨more, rfl, collected⟩, rfl⟩

end Readers

theorem decode_eq_ok {graph : Graph} {node : Node} (root : graph.root = some node)
    {config : Config} :
    decode graph = .ok config ↔ ∃ cost ≤ graph.aliasLimit, SaysConfig graph cost node config := by
  unfold decode
  rw [root]
  change (fun found => found.1) <$> (decodeConfig graph node).run graph.aliasLimit = _ ↔ _
  constructor
  · intro read
    cases found : (decodeConfig graph node).run graph.aliasLimit with
    | error fault =>
        rw [found] at read
        cases read
    | ok pair =>
        rw [found] at read
        cases read
        obtain ⟨cost, same, said⟩ := (reads_config graph _ _ _ _).mp found
        exact ⟨cost, by omega, said⟩
  · rintro ⟨cost, few, said⟩
    have enough : graph.aliasLimit = cost + (graph.aliasLimit - cost) := by omega
    rw [(reads_config graph _ _ _ _).mpr ⟨cost, enough, said⟩]
    rfl

theorem parse_eq_ok {content : List UInt8} {config : Config} :
    parse content = .ok config ↔ Denotes content config := by
  unfold parse
  constructor
  · intro read
    split at read
    · cases read
    rename_i text decoded
    split at read
    · cases read
    rename_i graph parsed
    split at read
    · cases read
    rename_i found decodes
    cases read
    rw [← Text.utf8_of_decode? decoded]
    cases root : graph.root with
    | none =>
        rw [decode, root] at decodes
        cases decodes
        exact .bare parsed root
    | some node =>
        obtain ⟨cost, few, said⟩ := (decode_eq_ok root).mp decodes
        exact .document parsed root said few
  · intro denotes
    cases denotes with
    | @bare text graph parsed empty =>
        rw [Text.decode?_utf8]
        dsimp only
        rw [parsed]
        dsimp only
        rw [decode, empty]
        rfl
    | @document text graph node cost _ parsed root means few =>
        rw [Text.decode?_utf8]
        dsimp only
        rw [parsed]
        dsimp only
        rw [(decode_eq_ok root).mpr ⟨cost, few, means⟩]

end IssueReport.Config
