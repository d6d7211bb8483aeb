import IssueReport.Proofs.Json.Literals
/-!
How the members of an object are spelled. The reader of this module takes the bytes of every value
along; of the members of one name the value that is kept is the last, so this is the one whose bytes
are given for the name.
-/

namespace IssueReport.Json

variable {Reason Result : Type}

/-- A result with the bytes that it is read from. Blanks before it are none of them. -/
def Reader.spelled (reader : Reader Reason Result) : Reader Reason (Result × Input) :=
  fun input =>
    let start := skipBlanks input
    (reader input).map fun (result, rest) =>
      ((result, start.take (start.length - rest.length)), rest)

structure SpelledMember where
  name : String
  value : Json
  spelling : Input

def readSpelledMember (memberValue : Reader Reason Json) (found : List SpelledMember)
    (name : String) : Reader Reason (List SpelledMember) :=
  colon.andThen fun _ => memberValue.spelled.map fun (value, spelling) =>
    found ++ [⟨name, value, spelling⟩]

def readSpelledObject (memberValue : Reader Reason Json) : Reader Reason (List SpelledMember) :=
  (members (readSpelledMember memberValue) []).andThen fun found => endOfObject.map fun _ => found

def readSpelled : Reader Reason (List SpelledMember) :=
  Reader.look fun byte rest _ =>
    if byte = Byte.openBrace then readSpelledObject (readValue (depthLimit - 1)) rest
    else .error .malformed

def spelledMembers (text : Input) : List SpelledMember :=
  match @readAll Empty _ readSpelled text with
  | .ok found => found
  | .error _ => []

def spelling? (name : String) (text : Input) : Option Input :=
  ((spelledMembers text).reverse.find? fun member => member.name = name).map (·.spelling)

def lastValues (members : List SpelledMember) : List (String × Json) :=
  members.foldl (fun found member => setMember member.name member.value found) []

/-- Bytes are those of a value, as far as numbers go. -/
structure Spells (literal : Input) (value : Json) : Prop where
  reads : ∀ number, value = .number number → Reads literal number
  starts : literal.head?.any startsNumber = true → ∃ number, value = .number number

/-! ### Values -/

theorem lastValues_append (members : List SpelledMember) (member : SpelledMember) :
    lastValues (members ++ [member]) = setMember member.name member.value (lastValues members) :=
  List.foldl_concat ..

theorem member?_lastValues (name : String) (members : List SpelledMember) :
    member? name (lastValues members) =
      (members.reverse.find? fun member => member.name = name).map (·.value) := by
  induction members using List.reverseRecOn with
  | nil => rfl
  | append_singleton members member ih =>
      rw [lastValues_append, List.reverse_append, List.reverse_singleton, List.singleton_append]
      by_cases same : member.name = name
      · rw [List.find?_cons, decide_eq_true same, ← same, member?_setMember_self]
        rfl
      · rw [List.find?_cons, decide_eq_false same, member?_setMember_of_ne (Ne.symm same), ih]

theorem spelled_map_fst (reader : Reader Reason Result) : reader.spelled.map Prod.fst = reader := by
  funext input
  rw [map_apply]
  unfold Reader.spelled
  cases reader input <;> rfl

theorem readSpelledMember_map (memberValue : Reader Reason Json) (found : List SpelledMember)
    (name : String) :
    (readSpelledMember memberValue found name).map lastValues =
      keepMember memberValue (lastValues found) name := by
  unfold readSpelledMember keepMember
  rw [andThen_map]
  congr 1
  funext _
  conv => rhs; rw [← spelled_map_fst memberValue, map_map]
  rw [map_map]
  congr 1
  funext read
  exact lastValues_append found ⟨name, read.1, read.2⟩

theorem readSpelledObject_map (memberValue : Reader Reason Json) :
    (readSpelledObject memberValue).map (fun found => Json.object (lastValues found)) =
      readObject memberValue := by
  have kept : members (keepMember memberValue) (lastValues []) =
      (members (readSpelledMember memberValue) []).map lastValues :=
    members_map (fun found name => (readSpelledMember_map memberValue found name).symm) []
  unfold readSpelledObject readObject
  rw [andThen_map]
  change _ = Reader.andThen (members (keepMember memberValue) (lastValues [])) _
  rw [kept, map_andThen]
  congr 1
  funext found
  exact map_map endOfObject _ _

/-! ### Bytes -/

/-- What every member keeps of a growing result holds of the result for all of them. -/
theorem membersWithin_holds {member : Result → String → Reader Reason Result}
    (Holds : Result → Prop)
    (kept : ∀ result name input next rest, Holds result →
      member result name input = .ok (next, rest) → Holds next)
    {bound : Nat} {first : Bool} {initial found : Result} {input rest : Input}
    (read : membersWithin member bound first initial input = .ok (found, rest))
    (start : Holds initial) : Holds found := by
  induction bound generalizing first initial input with
  | zero => cases read
  | succ bound ih =>
      obtain ⟨name?, behind, mark, read⟩ := andThen_eq_ok.mp read
      cases name? with
      | none =>
          cases read
          exact start
      | some name =>
          obtain ⟨next, between, memberRead, tailRead⟩ := andThen_eq_ok.mp read
          exact ih tailRead (kept initial name behind next between start memberRead)

theorem startsNumber_of_take {byte : UInt8} {here : Input} {count : Nat}
    (starts : ((byte :: here).take count).head?.any startsNumber = true) :
    startsNumber byte = true := by
  cases count with
  | zero => cases starts
  | succ count => exact starts

theorem spells_of_readValue {depth : Nat} {input rest : Input} {value : Json} {literal : Input}
    (read : (@readValue Reason depth).spelled input = .ok ((value, literal), rest)) :
    Spells literal value := by
  obtain ⟨output, found, same⟩ := outcome_map_eq_ok.mp read
  rw [readValue_eq_settle] at found
  obtain ⟨written, writtenRead, settled⟩ := map_eq_ok.mp found
  obtain ⟨byte, here, blanks, denotes⟩ := denotes_of_readWritten writtenRead
  rw [blanks] at same
  cases same
  rw [← settled]
  cases denotes with
  | @number number starts numberRead =>
      obtain ⟨taken, split, reads⟩ := exists_reads_of_readNumber numberRead
      have bytes : (byte :: here).take ((byte :: here).length - output.2.length) = taken := by
        rw [split, List.length_append, Nat.add_sub_cancel, List.take_left]
      rw [bytes]
      constructor
      · intro other equal
        cases equal
        exact reads
      · intro _
        exact ⟨number, rfl⟩
  | _ =>
      subst_vars
      constructor
      · intro number impossible
        cases impossible
      · intro starts
        exact absurd (startsNumber_of_take starts) (by decide)

theorem spells_of_readSpelledObject {depth : Nat} {input rest : Input}
    {found : List SpelledMember}
    (read : readSpelledObject (@readValue Reason depth) input = .ok (found, rest)) :
    ∀ member ∈ found, Spells member.spelling member.value := by
  obtain ⟨members, after, membersRead, closed⟩ := andThen_eq_ok.mp read
  obtain ⟨_, -, same⟩ := map_eq_ok.mp closed
  rw [← same]
  refine membersWithin_holds
    (fun found => ∀ member ∈ found, Spells member.spelling member.value) ?_ membersRead
    (List.forall_mem_nil _)
  intro result name input next rest spelled memberRead
  obtain ⟨_, between, -, valueRead⟩ := andThen_eq_ok.mp memberRead
  obtain ⟨⟨value, literal⟩, spelledRead, same⟩ := map_eq_ok.mp valueRead
  rw [← same]
  exact List.forall_mem_append.mpr
    ⟨spelled, List.forall_mem_singleton.mpr (spells_of_readValue spelledRead)⟩

/-! ### Texts of objects -/

theorem spelledMembers_of_parse {text : Input} {members : List (String × Json)}
    (parsed : parse text = .ok (.object members)) :
    lastValues (spelledMembers text) = members ∧
      ∀ member ∈ spelledMembers text, Spells member.spelling member.value := by
  obtain ⟨rest, read, ended⟩ := readAll_eq_ok.mp parsed
  obtain ⟨byte, here, blanks, read⟩ := look_eq_ok.mp read
  by_cases bracket : byte = Byte.openBracket
  · rw [if_pos bracket] at read
    obtain ⟨items, after, -, closed⟩ := andThen_eq_ok.mp read
    obtain ⟨_, -, impossible⟩ := map_eq_ok.mp closed
    cases impossible
  rw [if_neg bracket] at read
  by_cases brace : byte = Byte.openBrace
  · rw [if_pos brace, ← readSpelledObject_map] at read
    obtain ⟨found, objectRead, same⟩ := map_eq_ok.mp read
    cases same
    have whole : @readAll Empty _ readSpelled text = .ok found := by
      refine readAll_eq_ok.mpr ⟨rest, look_eq_ok.mpr ⟨byte, here, blanks, ?_⟩, ended⟩
      rw [if_pos brace]
      exact objectRead
    have same : spelledMembers text = found := by
      rw [spelledMembers, whole]
    rw [same]
    exact ⟨rfl, spells_of_readSpelledObject objectRead⟩
  · rw [if_neg brace] at read
    cases @denotes_of_readScalar _ 0 _ _ _ _ read with
    | object nested => cases nested

/-- A member of a parsed object has a value exactly if the text spells one for it. -/
theorem spells_of_parse {text : Input} {members : List (String × Json)}
    (parsed : parse text = .ok (.object members)) (name : String) :
    (member? name members = none ∧ spelling? name text = none) ∨
      ∃ value literal, member? name members = some value ∧ spelling? name text = some literal ∧
        Spells literal value := by
  obtain ⟨kept, spelled⟩ := spelledMembers_of_parse parsed
  rw [← kept, member?_lastValues, spelling?]
  cases found : (spelledMembers text).reverse.find? fun member => member.name = name with
  | none => exact .inl ⟨rfl, rfl⟩
  | some member =>
      have present := List.mem_reverse.mp (List.mem_of_find?_eq_some found)
      exact .inr ⟨_, _, rfl, rfl, spelled member present⟩

end IssueReport.Json
