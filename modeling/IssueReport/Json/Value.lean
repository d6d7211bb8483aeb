import IssueReport.Binary64.Basic
/-!
JSON values. An object keeps the order in which its members were first named; naming a member again
replaces its value.
-/

namespace IssueReport

/-- A number is an integer if it was written as one and fits 64 bits with or without a sign. -/
inductive Json.Number where
  | integer (value : Int)
  | float (value : Binary64)
  deriving DecidableEq

inductive Json where
  | null
  | boolean (value : Bool)
  | number (value : Json.Number)
  | text (value : String)
  | array (items : List Json)
  | object (members : List (String × Json))

namespace Json

def signedLimit : Nat := 0x8000000000000000

def Number.toBinary64 : Number → Binary64
  | .integer value => Binary64.ofInt value
  | .float value => value

def setMember (name : String) (value : Json) : List (String × Json) → List (String × Json)
  | [] => [(name, value)]
  | member :: members =>
      if member.1 = name then (name, value) :: members
      else member :: setMember name value members

def member? (name : String) (members : List (String × Json)) : Option Json :=
  (members.find? fun member => member.1 = name).map (·.2)

theorem member?_setMember_self (name : String) (value : Json) (members : List (String × Json)) :
    member? name (setMember name value members) = some value := by
  induction members with
  | nil => simp [setMember, member?]
  | cons head tail ih =>
      by_cases same : head.1 = name
      · simp [setMember, member?, same]
      · simpa [setMember, member?, same] using ih

theorem member?_setMember_of_ne {name other : String} (different : other ≠ name) (value : Json)
    (members : List (String × Json)) :
    member? other (setMember name value members) = member? other members := by
  induction members with
  | nil => simp [setMember, member?, different.symm]
  | cons head tail ih =>
      by_cases same : head.1 = name
      · simp [setMember, member?, same, different.symm]
      · by_cases found : head.1 = other
        · simp [setMember, member?, found, different]
        · simpa [setMember, member?, same, found] using ih

end Json

end IssueReport
