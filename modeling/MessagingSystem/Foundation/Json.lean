import Mathlib.Data.List.Basic

/-!
# JSON values

The values that `JSON.stringify` writes and `JSON.parse` reads back, as data.
Numbers keep their literal. An object is the list of its members; a member
that is `undefined` is not written.
-/
namespace MessagingSystem.Foundation

inductive Json where
  | null
  | bool (value : Bool)
  | number (literal : String)
  | string (value : String)
  | array (items : List Json)
  | object (members : List (String × Json))

namespace Json

/-- `o[name]` of an object, `undefined` being `none`. -/
def member (members : List (String × Json)) (name : String) : Option Json :=
  (members.find? fun m => m.1 = name).map fun m => m.2

/-- `typeof x === 'string'`, with the string. -/
def asString : Option Json → Option String
  | some (.string s) => some s
  | _ => none

/-- `x !== null && typeof x === 'object'` for a value that is not an array, with its members. -/
def asObject : Option Json → Option (List (String × Json))
  | some (.object members) => some members
  | _ => none

@[simp] theorem member_cons_self (name : String) (value : Json) (rest : List (String × Json)) :
    member ((name, value) :: rest) name = some value := by
  simp [member]

@[simp] theorem member_cons_of_ne {name other : String} (h : other ≠ name) (value : Json)
    (rest : List (String × Json)) : member ((other, value) :: rest) name = member rest name := by
  simp [member, h]

@[simp] theorem member_nil (name : String) : member [] name = none := rfl

theorem member_append (first second : List (String × Json)) (name : String) :
    member (first ++ second) name = (member first name).or (member second name) := by
  unfold member
  rw [List.find?_append]
  cases first.find? fun m => m.1 = name <;> rfl

end Json

end MessagingSystem.Foundation
