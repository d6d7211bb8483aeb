import IssueReport.Proofs.Payload.FirstFault
/-!
Two renditions of the same nine values: a value whose type is known, and a JSON object that holds
them. They answer alike, and since a conversion knows of a payload only what it answers, they are
converted alike; only the name of the type in an error tells them apart.
-/

namespace IssueReport

def ConversionError.retype (typeName : String) : ConversionError → ConversionError
  | .incompatible accessor _ fault => .incompatible accessor typeName fault
  | .invalid _ fault => .invalid typeName fault

namespace Inquiry

variable {Value Next : Type}

def retype (typeName : String) (inquiry : Inquiry Value) : Inquiry Value :=
  ⟨inquiry.asked, inquiry.outcome.mapError (ConversionError.retype typeName)⟩

theorem retype_pure (typeName : String) (value : Value) :
    (pure value : Inquiry Value).retype typeName = pure value :=
  rfl

theorem retype_bind (typeName : String) (inquiry : Inquiry Value) (next : Value → Inquiry Next) :
    (inquiry >>= next).retype typeName =
      inquiry.retype typeName >>= fun value => (next value).retype typeName := by
  cases answered : inquiry.outcome with
  | error error =>
      have refused : (inquiry.retype typeName).outcome = .error (error.retype typeName) := by
        rw [retype, answered]
        rfl
      rw [bind_of_error next answered, bind_of_error _ refused]
      rfl
  | ok value =>
      have unchanged : (inquiry.retype typeName).outcome = .ok value := by
        rw [retype, answered]
        rfl
      rw [bind_of_ok next answered, bind_of_ok _ unchanged]
      rfl

end Inquiry

namespace Payload

/-! ### Payloads that answer the contract alike -/

def Alike (first second : Payload) : Prop :=
  ∀ accessor : Accessor, first.observe accessor.name = second.observe accessor.name

variable {first second : Payload}

theorem Alike.symm (alike : Alike first second) : Alike second first :=
  fun accessor => (alike accessor).symm

theorem Alike.integer (alike : Alike first second) (accessor : Accessor) :
    second.integer accessor = (first.integer accessor).retype second.typeName := by
  unfold Payload.integer Inquiry.retype
  rw [alike accessor]
  cases second.observe accessor.name with
  | error error => rfl
  | ok observation => cases observation <;> rfl

theorem Alike.text (alike : Alike first second) (accessor : Accessor) :
    second.text accessor = (first.text accessor).retype second.typeName := by
  unfold Payload.text Inquiry.retype
  rw [alike accessor]
  cases second.observe accessor.name with
  | error error => rfl
  | ok observation => cases observation <;> rfl

theorem Alike.parts (alike : Alike first second) :
    second.parts = first.parts.retype second.typeName := by
  unfold Payload.parts
  simp only [Inquiry.retype_bind, Inquiry.retype_pure, alike.integer, alike.text]

theorem Alike.queried (alike : Alike first second) : second.queried = first.queried := by
  rw [Payload.queried, alike.parts]
  rfl

theorem Alike.convert (alike : Alike first second) :
    second.convert = first.convert.mapError (ConversionError.retype second.typeName) := by
  have outcome : second.parts.outcome =
      first.parts.outcome.mapError (ConversionError.retype second.typeName) := by
    rw [alike.parts]
    rfl
  unfold Payload.convert
  rw [outcome]
  cases first.parts.outcome with
  | error error => rfl
  | ok parts =>
      dsimp only [Except.mapError]
      cases Issue.ofParts parts <;> rfl

end Payload

/-! ### Objects that hold nine values -/

def Accessor.names : List String :=
  ["startLine", "startLineOffset", "endLine", "endLineOffset", "ruleID", "message", "issueType",
    "fileName", "reportedFilePath"]

theorem Accessor.mem_names_iff {name : String} :
    name ∈ names ↔ ∃ accessor : Accessor, accessor.name = name := by
  have listed : names = all.map Accessor.name := rfl
  rw [listed, List.mem_map]
  constructor
  · intro member
    obtain ⟨accessor, -, same⟩ := member
    exact ⟨accessor, same⟩
  · intro named
    obtain ⟨accessor, same⟩ := named
    exact ⟨accessor, mem_all accessor, same⟩

namespace IssueParts

structure Signed (parts : IssueParts) : Prop where
  startLine : -0x8000000000000000 ≤ parts.startLine ∧ parts.startLine ≤ 0x7FFFFFFFFFFFFFFF
  startLineOffset :
    -0x8000000000000000 ≤ parts.startLineOffset ∧ parts.startLineOffset ≤ 0x7FFFFFFFFFFFFFFF
  endLine : -0x8000000000000000 ≤ parts.endLine ∧ parts.endLine ≤ 0x7FFFFFFFFFFFFFFF
  endLineOffset :
    -0x8000000000000000 ≤ parts.endLineOffset ∧ parts.endLineOffset ≤ 0x7FFFFFFFFFFFFFFF

/-- The members of the contract hold the values; there may be others, in any places. -/
structure HeldIn (parts : IssueParts) (members : List (String × Json)) : Prop where
  startLine : Json.member? "startLine" members = some (.number (.integer parts.startLine))
  startLineOffset :
    Json.member? "startLineOffset" members = some (.number (.integer parts.startLineOffset))
  endLine : Json.member? "endLine" members = some (.number (.integer parts.endLine))
  endLineOffset :
    Json.member? "endLineOffset" members = some (.number (.integer parts.endLineOffset))
  ruleId : Json.member? "ruleID" members = some (.text parts.ruleId)
  message : Json.member? "message" members = some (.text parts.message)
  issueType : Json.member? "issueType" members = some (.text parts.issueType)
  fileName : Json.member? "fileName" members = some (.text parts.fileName)
  reportedFilePath :
    Json.member? "reportedFilePath" members = some (.text parts.reportedFilePath)

theorem heldIn_toJson (parts : IssueParts) :
    ∃ members, parts.toJson = .object members ∧ parts.HeldIn members ∧
      ∀ member ∈ members, member.1 ∈ Accessor.names := by
  refine ⟨_, rfl, ?_, ?_⟩
  · constructor <;> rfl
  · intro member listed
    have named : member.1 ∈ Accessor.all.map Accessor.name := List.mem_map_of_mem listed
    exact named

end IssueParts

namespace Payload

theorem observeJson_of_integer {members : List (String × Json)} {name : String} {value : Int}
    (found : Json.member? name members = some (.number (.integer value)))
    (fits : value ≤ 0x7FFFFFFFFFFFFFFF) :
    observeJson (.object members) name = .ok (.integer value) := by
  have below : value < Json.signedLimit := by
    unfold Json.signedLimit
    omega
  simp only [observeJson, found, observeMember, if_pos below]

theorem observeJson_of_text {members : List (String × Json)} {name value : String}
    (found : Json.member? name members = some (.text value)) :
    observeJson (.object members) name = .ok (.text value) := by
  simp only [observeJson, found, observeMember]

theorem observeJson_of_notMem {members : List (String × Json)} {name : String}
    (absent : ∀ member ∈ members, member.1 ≠ name) :
    observeJson (.object members) name = .error .missing := by
  have notFound : Json.member? name members = none := by
    rw [Json.member?, Option.map_eq_none_iff, List.find?_eq_none]
    intro member listed found
    exact absent member listed (of_decide_eq_true found)
  simp only [observeJson, notFound]

theorem answers_ofParts (typeName : String) (parts : IssueParts) :
    (ofParts typeName parts).Answers parts := by
  intro accessor
  simp only [ofParts, Accessor.ofName?_name]

theorem observe_ofParts_of_notMem (typeName : String) (parts : IssueParts) {name : String}
    (outside : name ∉ Accessor.names) :
    (ofParts typeName parts).observe name = .error .missing := by
  unfold ofParts
  cases found : Accessor.ofName? name with
  | none => simp only [found]
  | some accessor =>
      exact absurd (Accessor.mem_names_iff.mpr ⟨accessor, Accessor.name_of_ofName? found⟩) outside

variable {parts : IssueParts} {members : List (String × Json)}

theorem answers_of_heldIn (signed : parts.Signed) (held : parts.HeldIn members) :
    (ofJson (.object members)).Answers parts := by
  intro accessor
  cases accessor with
  | startLine => exact observeJson_of_integer held.startLine signed.startLine.2
  | startLineOffset => exact observeJson_of_integer held.startLineOffset signed.startLineOffset.2
  | endLine => exact observeJson_of_integer held.endLine signed.endLine.2
  | endLineOffset => exact observeJson_of_integer held.endLineOffset signed.endLineOffset.2
  | ruleId => exact observeJson_of_text held.ruleId
  | message => exact observeJson_of_text held.message
  | issueType => exact observeJson_of_text held.issueType
  | fileName => exact observeJson_of_text held.fileName
  | reportedFilePath => exact observeJson_of_text held.reportedFilePath

/-- The value of a known type and the object cannot be told apart. -/
structure SameRenditions (typeName : String) (parts : IssueParts)
    (members : List (String × Json)) : Prop where
  /-- An object without further members answers every string alike. -/
  observe : (∀ member ∈ members, member.1 ∈ Accessor.names) → ∀ accessor : String,
    (ofParts typeName parts).observe accessor = (ofJson (.object members)).observe accessor
  missing : (∀ member ∈ members, member.1 ∈ Accessor.names) → ∀ accessor ∉ Accessor.names,
    (ofParts typeName parts).observe accessor = .error .missing ∧
      (ofJson (.object members)).observe accessor = .error .missing
  /-- Whatever other members there are, the object is converted alike, after the same questions. -/
  convert : (ofJson (.object members)).convert =
    (ofParts typeName parts).convert.mapError (ConversionError.retype "json object")
  convertBack : (ofParts typeName parts).convert =
    (ofJson (.object members)).convert.mapError (ConversionError.retype typeName)
  queried : (ofJson (.object members)).queried = (ofParts typeName parts).queried

theorem sameRenditions_of_heldIn (signed : parts.Signed) (held : parts.HeldIn members)
    (typeName : String) : SameRenditions typeName parts members := by
  have answered := answers_of_heldIn signed held
  have alike : Alike (ofParts typeName parts) (ofJson (.object members)) :=
    fun accessor => (answers_ofParts typeName parts accessor).trans (answered accessor).symm
  have missing : (∀ member ∈ members, member.1 ∈ Accessor.names) → ∀ accessor ∉ Accessor.names,
      (ofParts typeName parts).observe accessor = .error .missing ∧
        (ofJson (.object members)).observe accessor = .error .missing := by
    intro only accessor outside
    refine ⟨observe_ofParts_of_notMem typeName parts outside, observeJson_of_notMem ?_⟩
    intro member listed same
    rw [← same] at outside
    exact outside (only member listed)
  refine ⟨?_, missing, alike.convert, alike.symm.convert, alike.queried⟩
  intro only accessor
  -- both answer a name of the contract with its part, and neither answers any other string
  by_cases inside : accessor ∈ Accessor.names
  · obtain ⟨named, same⟩ := Accessor.mem_names_iff.mp inside
    rw [← same]
    exact alike named
  · obtain ⟨typed, json⟩ := missing only accessor inside
    rw [typed, json]

/-- Extreme coordinates and empty texts, which are answered though no issue can have them. -/
def extremeParts : IssueParts :=
  ⟨-0x8000000000000000, 0x7FFFFFFFFFFFFFFF, 0x7FFFFFFFFFFFFFFF, -0x8000000000000000, "", "", "", "",
    ""⟩

def extendedMembers : List (String × Json) :=
  [("message", .text ""), ("ruleID", .text ""), ("ruleId", .object [("ruleID", .null)]),
    ("endLineOffset", .number (.integer (-0x8000000000000000))),
    ("endLine", .number (.integer 0x7FFFFFFFFFFFFFFF)), ("issueType", .text ""),
    ("", .array [.text "startLine"]), ("reportedFilePath", .text ""), ("fileName", .text ""),
    ("startLineOffset", .number (.integer 0x7FFFFFFFFFFFFFFF)),
    ("startLine", .number (.integer (-0x8000000000000000))),
    ("STARTLINE", .boolean false)]

theorem signed_extremeParts : extremeParts.Signed := by
  constructor <;> decide

theorem heldIn_extendedMembers : extremeParts.HeldIn extendedMembers := by
  constructor <;> rfl

theorem sameRenditions_extremeParts :
    (∃ members, extremeParts.toJson = .object members ∧
        SameRenditions "rules::Finding" extremeParts members ∧
        ∀ accessor : String, (ofParts "rules::Finding" extremeParts).observe accessor =
          (ofJson extremeParts.toJson).observe accessor) ∧
      SameRenditions "rules::Finding" extremeParts extendedMembers ∧
      (ofJson (.object extendedMembers)).convert =
        .error (.invalid "json object" (.coordinate .startLine (-0x8000000000000000))) := by
  constructor
  · obtain ⟨members, printed, held, only⟩ := extremeParts.heldIn_toJson
    have same := sameRenditions_of_heldIn signed_extremeParts held "rules::Finding"
    rw [printed]
    exact ⟨members, rfl, same, same.observe only⟩
  · have same := sameRenditions_of_heldIn signed_extremeParts heldIn_extendedMembers
      "rules::Finding"
    refine ⟨same, ?_⟩
    rw [same.convert]
    rfl

end Payload

end IssueReport
