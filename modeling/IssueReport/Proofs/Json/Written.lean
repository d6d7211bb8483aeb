import IssueReport.Proofs.Json.Reading
/-!
JSON texts with every member that is written. A reader of values keeps the last of the members of
one name; this module says what it keeps of a text in which they all still stand.
-/

namespace IssueReport.Json

variable {Reason Other Result Next : Type}

def readWrittenMember (memberValue : Reader Reason Json) (found : List (String × Json))
    (name : String) : Reader Reason (List (String × Json)) :=
  colon.andThen fun _ => memberValue.map fun value => found ++ [(name, value)]

def keepMember (memberValue : Reader Reason Json) (found : List (String × Json))
    (name : String) : Reader Reason (List (String × Json)) :=
  colon.andThen fun _ => memberValue.map fun value => setMember name value found

def readWrittenObject (memberValue : Reader Reason Json) : Reader Reason Json :=
  (members (readWrittenMember memberValue) []).andThen fun found =>
    endOfObject.map fun _ => Json.object found

/-- A value of which every member of every object is kept, repeated ones included. -/
def readWritten : (depth : Nat) → Reader Reason Json
  | 0 => Reader.look readScalar
  | inner + 1 =>
      Reader.look fun byte rest =>
        if byte = Byte.openBracket then fun _ => readArray (readWritten inner) rest
        else if byte = Byte.openBrace then fun _ => readWrittenObject (readWritten inner) rest
        else readScalar byte rest

def parseWritten (input : Input) : Except (ReadError Empty) Json :=
  readAll (readWritten depthLimit) input

/-- What a text of a known first byte denotes, and what it leaves. -/
inductive Denotes (Reason : Type) (depth : Nat) (byte : UInt8) (here rest : Input) : Json → Prop
  | null (starts : byte = Byte.letterN) (read : @wordNull Reason here = .ok ((), rest)) :
      Denotes Reason depth byte here rest .null
  | yes (starts : byte = Byte.letterT) (read : @wordTrue Reason here = .ok ((), rest)) :
      Denotes Reason depth byte here rest (.boolean true)
  | no (starts : byte = Byte.letterF) (read : @wordFalse Reason here = .ok ((), rest)) :
      Denotes Reason depth byte here rest (.boolean false)
  | number {value : Number} (starts : startsNumber byte = true)
      (read : @readNumber Reason (byte :: here) = .ok (value, rest)) :
      Denotes Reason depth byte here rest (.number value)
  | text {value : String} (starts : byte = Byte.quote)
      (read : @stringText Reason here = .ok (value, rest)) :
      Denotes Reason depth byte here rest (.text value)
  | array {inner : Nat} {values : List Json} {after : Input} (nested : depth = inner + 1)
      (starts : byte = Byte.openBracket)
      (read : items (@readWritten Reason inner) here = .ok (values, after))
      (closed : @endOfArray Reason after = .ok ((), rest)) :
      Denotes Reason depth byte here rest (.array values)
  | object {inner : Nat} {found : List (String × Json)} {after : Input}
      (nested : depth = inner + 1) (starts : byte = Byte.openBrace)
      (read : members (readWrittenMember (@readWritten Reason inner)) [] here = .ok (found, after))
      (closed : @endOfObject Reason after = .ok ((), rest)) :
      Denotes Reason depth byte here rest (.object found)

theorem denotes_of_readScalar {depth : Nat} {byte : UInt8} {here rest : Input} {value : Json}
    (read : @readScalar Reason byte here (byte :: here) = .ok (value, rest)) :
    Denotes Reason depth byte here rest value := by
  unfold readScalar at read
  split at read
  · rename_i starts
    obtain ⟨_, word, same⟩ := map_eq_ok.mp read
    rw [← same]
    exact .null starts word
  · split at read
    · rename_i starts
      obtain ⟨_, word, same⟩ := map_eq_ok.mp read
      rw [← same]
      exact .yes starts word
    · split at read
      · rename_i starts
        obtain ⟨_, word, same⟩ := map_eq_ok.mp read
        rw [← same]
        exact .no starts word
      · split at read
        · rename_i starts
          obtain ⟨number, found, same⟩ := map_eq_ok.mp read
          rw [← same]
          exact .number starts found
        · split at read
          · rename_i starts
            obtain ⟨text, found, same⟩ := map_eq_ok.mp read
            rw [← same]
            exact .text starts found
          · cases read

theorem denotes_of_readWritten {depth : Nat} {input rest : Input} {written : Json}
    (read : @readWritten Reason depth input = .ok (written, rest)) :
    ∃ byte here, skipBlanks input = byte :: here ∧ Denotes Reason depth byte here rest written := by
  cases depth with
  | zero =>
      obtain ⟨byte, here, found, scalar⟩ := look_eq_ok.mp read
      exact ⟨byte, here, found, denotes_of_readScalar scalar⟩
  | succ inner =>
      obtain ⟨byte, here, found, read⟩ := look_eq_ok.mp read
      refine ⟨byte, here, found, ?_⟩
      split at read
      · rename_i starts
        obtain ⟨values, after, itemsRead, closed⟩ := andThen_eq_ok.mp read
        obtain ⟨_, closed, same⟩ := map_eq_ok.mp closed
        rw [← same]
        exact .array rfl starts itemsRead closed
      · split at read
        · rename_i starts
          obtain ⟨entries, after, membersRead, closed⟩ := andThen_eq_ok.mp read
          obtain ⟨_, closed, same⟩ := map_eq_ok.mp closed
          rw [← same]
          exact .object rfl starts membersRead closed
        · exact denotes_of_readScalar read

theorem readScalar_of_startsNumber {byte : UInt8} (starts : startsNumber byte = true)
    (here input : Input) :
    @readScalar Reason byte here input = readNumber.map Json.number input := by
  have notNull : ¬ byte = Byte.letterN := ne_of_startsNumber starts rfl
  have notTrue : ¬ byte = Byte.letterT := ne_of_startsNumber starts rfl
  have notFalse : ¬ byte = Byte.letterF := ne_of_startsNumber starts rfl
  unfold readScalar
  rw [if_neg notNull, if_neg notTrue, if_neg notFalse, if_pos starts]

mutual

/-- The value that is kept of a written value: a repeated member has its last value. -/
def settle : Json → Json
  | .null => .null
  | .boolean value => .boolean value
  | .number value => .number value
  | .text value => .text value
  | .array items => .array (settleItems items)
  | .object members => .object (settleMembers [] members)

def settleItems : List Json → List Json
  | [] => []
  | item :: items => settle item :: settleItems items

def settleMembers (found : List (String × Json)) :
    List (String × Json) → List (String × Json)
  | [] => found
  | (name, value) :: members => settleMembers (setMember name (settle value) found) members

end

theorem settleItems_eq_map (items : List Json) : settleItems items = items.map settle := by
  induction items with
  | nil => rfl
  | cons item items ih => rw [settleItems, ih, List.map_cons]

theorem settleMembers_append (found : List (String × Json)) (members : List (String × Json))
    (name : String) (value : Json) :
    settleMembers found (members ++ [(name, value)]) =
      setMember name (settle value) (settleMembers found members) := by
  induction members generalizing found with
  | nil => rfl
  | cons member members ih => exact ih (setMember member.1 (settle member.2) found)

theorem member?_cons_self (name : String) (value : Json) (members : List (String × Json)) :
    member? name ((name, value) :: members) = some value := by
  simp [member?]

theorem member?_cons_of_ne {name other : String} (different : name ≠ other) (value : Json)
    (members : List (String × Json)) :
    member? other ((name, value) :: members) = member? other members := by
  simp [member?, different]

theorem member?_eq_none {name : String} {members : List (String × Json)}
    (absent : name ∉ members.map (·.1)) : member? name members = none := by
  induction members with
  | nil => rfl
  | cons member members ih =>
      rw [List.map_cons, List.mem_cons, not_or] at absent
      rw [← ih absent.2]
      exact member?_cons_of_ne (Ne.symm absent.1) member.2 members

theorem member?_settleMembers_of_notMem {name : String} {members : List (String × Json)}
    (absent : name ∉ members.map (·.1)) (found : List (String × Json)) :
    member? name (settleMembers found members) = member? name found := by
  induction members generalizing found with
  | nil => rfl
  | cons member members ih =>
      rw [List.map_cons, List.mem_cons, not_or] at absent
      change member? name (settleMembers (setMember member.1 (settle member.2) found) members) = _
      rw [ih absent.2, member?_setMember_of_ne absent.1]

/-- A member that is written once keeps its value. -/
theorem member?_settleMembers {name : String} {members : List (String × Json)}
    (unrepeated : (members.map (·.1)).count name ≤ 1) {found : List (String × Json)}
    (fresh : member? name found = none) :
    member? name (settleMembers found members) = (member? name members).map settle := by
  induction members generalizing found with
  | nil => exact fresh
  | cons member members ih =>
      change member? name (settleMembers (setMember member.1 (settle member.2) found) members) = _
      rw [List.map_cons] at unrepeated
      by_cases same : member.1 = name
      · rw [← same, List.count_cons_self] at unrepeated
        have absent : member.1 ∉ members.map (·.1) := by
          rw [← List.count_eq_zero]
          omega
        rw [← same, member?_settleMembers_of_notMem absent, member?_setMember_self]
        exact (congrArg (Option.map settle) (member?_cons_self member.1 member.2 members)).symm
      · rw [List.count_cons_of_ne same] at unrepeated
        have tailFresh : member? name (setMember member.1 (settle member.2) found) = none := by
          rw [member?_setMember_of_ne (Ne.symm same)]
          exact fresh
        rw [ih unrepeated tailFresh]
        exact (congrArg (Option.map settle) (member?_cons_of_ne same member.2 members)).symm

theorem member?_settle {members : List (String × Json)} {name : String}
    (unrepeated : (members.map (·.1)).count name ≤ 1) :
    member? name (settleMembers [] members) = (member? name members).map settle :=
  member?_settleMembers unrepeated rfl

theorem length_le_setMember (name : String) (value : Json) (members : List (String × Json)) :
    members.length ≤ (setMember name value members).length := by
  induction members with
  | nil => exact Nat.zero_le _
  | cons member members ih =>
      unfold setMember
      split
      · exact Nat.le_refl _
      · exact Nat.succ_le_succ ih

theorem length_le_settleMembers (found members : List (String × Json)) :
    found.length ≤ (settleMembers found members).length := by
  induction members generalizing found with
  | nil => exact Nat.le_refl _
  | cons member members ih =>
      exact Nat.le_trans (length_le_setMember member.1 (settle member.2) found) (ih _)

theorem eq_text_of_settle {written : Json} {text : String} (same : settle written = .text text) :
    written = .text text := by
  cases written with
  | text other => exact same
  | null | boolean | number | array | object => cases same

theorem eq_null_of_settle {written : Json} (same : settle written = .null) : written = .null := by
  cases written with
  | null => rfl
  | boolean | number | text | array | object => cases same

theorem eq_array_of_settle {written : Json} {items : List Json}
    (same : settle written = .array items) :
    ∃ writtenItems, written = .array writtenItems ∧ writtenItems.map settle = items := by
  cases written with
  | array writtenItems =>
      rw [settle, array.injEq, settleItems_eq_map] at same
      exact ⟨writtenItems, rfl, same⟩
  | null | boolean | number | text | object => cases same

/-! ### What a reader keeps -/

theorem itemsWithin_map (item : Reader Reason Result) (change : Result → Next) (bound : Nat)
    (first : Bool) :
    itemsWithin (item.map change) bound first =
      (itemsWithin item bound first).map (List.map change) := by
  induction bound generalizing first with
  | zero => rfl
  | succ bound ih =>
      rw [itemsWithin, itemsWithin, andThen_map, ih]
      congr 1
      funext another
      cases another with
      | false => rfl
      | true =>
          rw [if_pos rfl, if_pos rfl, map_andThen, andThen_map]
          congr 1
          funext result
          rw [map_map, map_map]
          rfl

/-- A reader of members that goes along with another gathers what is kept of the other's result. -/
theorem membersWithin_map {member : Result → String → Reader Reason Result}
    {kept : Next → String → Reader Reason Next} {change : Result → Next}
    (along : ∀ result name, kept (change result) name = (member result name).map change)
    (bound : Nat) (first : Bool) (result : Result) :
    membersWithin kept bound first (change result) =
      (membersWithin member bound first result).map change := by
  induction bound generalizing first result with
  | zero => rfl
  | succ bound ih =>
      rw [membersWithin, membersWithin, andThen_map]
      congr 1
      funext name
      cases name with
      | none => rfl
      | some name =>
          change (kept (change result) name).andThen _ = ((member result name).andThen _).map change
          rw [along, map_andThen, andThen_map]
          congr 1
          funext next
          exact ih false next

theorem members_map {member : Result → String → Reader Reason Result}
    {kept : Next → String → Reader Reason Next} {change : Result → Next}
    (along : ∀ result name, kept (change result) name = (member result name).map change)
    (initial : Result) :
    members kept (change initial) = (members member initial).map change := by
  funext input
  exact congrFun (membersWithin_map along (input.length + 1) true initial) input

theorem readScalar_map_settle (byte : UInt8) (rest : Input) :
    (@readScalar Reason byte rest).map settle = readScalar byte rest := by
  funext input
  rw [map_apply]
  unfold readScalar
  split
  · rw [← map_apply, map_map]
    rfl
  · split
    · rw [← map_apply, map_map]
      rfl
    · split
      · rw [← map_apply, map_map]
        rfl
      · split
        · rw [← map_apply, map_map]
          rfl
        · split
          · rw [← map_apply, map_map]
            rfl
          · rfl

theorem readArray_map_settle (item : Reader Reason Json) :
    (readArray item).map settle = readArray (item.map settle) := by
  have settled : items (item.map settle) = (items item).map (List.map settle) := by
    funext input
    exact congrFun (itemsWithin_map item settle (input.length + 1) true) input
  unfold readArray
  rw [settled, map_andThen, andThen_map]
  congr 1
  funext found
  rw [map_map]
  congr 1
  funext _
  rw [settle, settleItems_eq_map]

theorem readWrittenMember_map_settle (memberValue : Reader Reason Json)
    (found : List (String × Json)) (name : String) :
    (readWrittenMember memberValue found name).map (settleMembers []) =
      keepMember (memberValue.map settle) (settleMembers [] found) name := by
  unfold readWrittenMember keepMember
  rw [andThen_map]
  congr 1
  funext _
  rw [map_map, map_map]
  congr 1
  funext value
  exact settleMembers_append [] found name value

theorem readWrittenObject_map_settle (memberValue : Reader Reason Json) :
    (readWrittenObject memberValue).map settle = readObject (memberValue.map settle) := by
  have kept :
      members (keepMember (memberValue.map settle)) (settleMembers [] []) =
        (members (readWrittenMember memberValue) []).map (settleMembers []) :=
    members_map (fun found name => (readWrittenMember_map_settle memberValue found name).symm) []
  unfold readWrittenObject readObject
  rw [andThen_map]
  change _ = Reader.andThen
    (members (keepMember (memberValue.map settle)) (settleMembers [] [])) _
  rw [kept, map_andThen]
  congr 1
  funext found
  exact map_map endOfObject _ settle

/-- A value is read as a written value of which the last of the members of one name are kept. -/
theorem readValue_eq_settle (depth : Nat) :
    (readValue depth : Reader Reason Json) = (readWritten depth).map settle := by
  induction depth with
  | zero =>
      rw [readValue, readWritten, look_map]
      congr 1
      funext byte rest
      exact (readScalar_map_settle byte rest).symm
  | succ inner ih =>
      rw [readValue, readWritten, look_map]
      congr 1
      funext byte rest
      split
      · rw [ih, ← readArray_map_settle]
        rfl
      · split
        · rw [ih, ← readWrittenObject_map_settle]
          rfl
        · exact (readScalar_map_settle byte rest).symm

theorem alike_readWritten (depth : Nat) :
    Alike (@readWritten Reason depth) (@readWritten Other depth) := by
  induction depth with
  | zero => exact Alike.look fun byte rest => alike_readScalar byte rest
  | succ inner ih =>
      apply Alike.look
      intro byte rest
      have array : Alike (readArray (@readWritten Reason inner))
          (readArray (@readWritten Other inner)) :=
        ih.items.andThen fun found => (alike_endOfArray Reason Other).map _
      have object : Alike (readWrittenObject (@readWritten Reason inner))
          (readWrittenObject (@readWritten Other inner)) :=
        (Alike.members (fun found name => (alike_colon Reason Other).andThen fun _ => ih.map _)
          []).andThen fun found => (alike_endOfObject Reason Other).map _
      split
      · exact fun _ => array rest
      · split
        · exact fun _ => object rest
        · exact alike_readScalar byte rest

/-! ### Whole texts -/

theorem readAll_eq_ok {reader : Reader Reason Result} {input : Input} {result : Result} :
    readAll reader input = .ok result ↔
      ∃ rest, reader input = .ok (result, rest) ∧ skipBlanks rest = [] := by
  unfold readAll
  constructor
  · intro read
    cases first : reader input with
    | error fault =>
        rw [first] at read
        cases read
    | ok output =>
        rw [first] at read
        dsimp only at read
        by_cases ended : (skipBlanks output.2).isEmpty
        · rw [if_pos ended] at read
          cases read
          exact ⟨output.2, rfl, List.isEmpty_iff.mp ended⟩
        · rw [if_neg ended] at read
          cases read
  · rintro ⟨rest, read, ended⟩
    rw [read]
    dsimp only
    rw [ended]
    rfl

theorem parse_eq_ok {text : Input} {value : Json} :
    parse text = .ok value ↔
      ∃ written, parseWritten text = .ok written ∧ settle written = value := by
  unfold parse parseWritten
  rw [readAll_eq_ok, readValue_eq_settle]
  constructor
  · rintro ⟨rest, read, ended⟩
    obtain ⟨written, found, same⟩ := map_eq_ok.mp read
    exact ⟨written, readAll_eq_ok.mpr ⟨rest, found, ended⟩, same⟩
  · rintro ⟨written, read, same⟩
    obtain ⟨rest, found, ended⟩ := readAll_eq_ok.mp read
    exact ⟨rest, map_eq_ok.mpr ⟨written, found, same⟩, ended⟩

def writtenNames (text : Input) : List String :=
  match parseWritten text with
  | .ok (.object members) => members.map (·.1)
  | _ => []

theorem written_of_parse_object {text : Input} {members : List (String × Json)}
    (parsed : parse text = .ok (.object members)) :
    ∃ written, parseWritten text = .ok (.object written) ∧
      settleMembers [] written = members ∧ writtenNames text = written.map (·.1) := by
  obtain ⟨value, read, same⟩ := parse_eq_ok.mp parsed
  cases value with
  | object written =>
      rw [settle, Json.object.injEq] at same
      refine ⟨written, read, same, ?_⟩
      rw [writtenNames, read]
  | null => cases same
  | boolean value => cases same
  | number value => cases same
  | text value => cases same
  | array items => cases same

theorem written_of_parse_array {text : Input} {items : List Json}
    (parsed : parse text = .ok (.array items)) :
    ∃ written, parseWritten text = .ok (.array written) ∧ written.map settle = items := by
  obtain ⟨value, read, same⟩ := parse_eq_ok.mp parsed
  obtain ⟨written, isArray, settled⟩ := eq_array_of_settle same
  rw [isArray] at read
  exact ⟨written, read, settled⟩

end IssueReport.Json
