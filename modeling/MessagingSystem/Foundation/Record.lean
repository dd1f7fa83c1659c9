import Mathlib.Data.Finmap
import Mathlib.Data.Finset.Sort
import Mathlib.Data.String.Basic

/-!
# Plain objects used as dictionaries

`Record α` is a finite map from property names to values, without an order on
the keys. `Nullable α` is an optional, nullable property. `readProperty` and
`assignProperty` are the two dictionary operations for which a plain object
differs from a map: a name that is not an own property is looked up on the
prototype, and an assignment to `__proto__` does not create a property.
-/
namespace MessagingSystem.Foundation

/-- A finite dictionary with string keys. -/
def Record (α : Type*) : Type _ := Finmap fun _ : String => α

namespace Record

variable {α : Type*} {r s : Record α} {k j : String} {v w : α}

instance [DecidableEq α] : DecidableEq (Record α) :=
  inferInstanceAs (DecidableEq (Finmap fun _ : String => α))

instance : EmptyCollection (Record α) := ⟨(∅ : Finmap fun _ : String => α)⟩

instance : Inhabited (Record α) := ⟨∅⟩

def get (r : Record α) (k : String) : Option α := Finmap.lookup k r

def set (r : Record α) (k : String) (v : α) : Record α := Finmap.insert k v r

def delete (r : Record α) (k : String) : Record α := Finmap.erase k r

/-- `Object.keys(r).length`. -/
def size (r : Record α) : Nat := (Finmap.keys r).card

/-- The property names, in ascending order. -/
def names (r : Record α) : List String := (Finmap.keys r).sort

/-- The record with the given entries, the first entry of a name winning. -/
def ofList (entries : List (String × α)) : Record α :=
  entries.foldr (fun entry r => r.set entry.1 entry.2) ∅

theorem ext (h : ∀ k, r.get k = s.get k) : r = s := Finmap.ext_lookup h

@[simp] theorem get_empty (k : String) : (∅ : Record α).get k = none := Finmap.lookup_empty k

@[simp] theorem get_set_self (r : Record α) (k : String) (v : α) : (r.set k v).get k = some v :=
  Finmap.lookup_insert r

@[simp] theorem get_set_of_ne (r : Record α) (v : α) (h : j ≠ k) : (r.set k v).get j = r.get j :=
  Finmap.lookup_insert_of_ne r h

theorem get_set (r : Record α) (k j : String) (v : α) :
    (r.set k v).get j = if j = k then some v else r.get j := by
  by_cases h : j = k
  · subst h
    simp
  · simp [h]

@[simp] theorem get_delete_self (r : Record α) (k : String) : (r.delete k).get k = none :=
  Finmap.lookup_erase k r

@[simp] theorem get_delete_of_ne (r : Record α) (h : j ≠ k) : (r.delete k).get j = r.get j :=
  Finmap.lookup_erase_ne h

theorem get_delete (r : Record α) (k j : String) :
    (r.delete k).get j = if j = k then none else r.get j := by
  by_cases h : j = k
  · subst h
    simp
  · simp [h]

/-- A loop that deletes the names of a list that are not kept. -/
theorem get_foldl_delete (keep : String → Bool) (names : List String) (r : Record α) (j : String) :
    (names.foldl (fun r k => if keep k then r else r.delete k) r).get j =
      if j ∈ names ∧ keep j = false then none else r.get j := by
  induction names generalizing r with
  | nil => simp
  | cons k rest ih =>
    rw [List.foldl_cons, ih]
    by_cases hj : j = k
    · subst hj
      cases hk : keep j <;> simp
    · cases hk : keep k <;> simp [hj]

theorem mem_names {r : Record α} {k : String} : k ∈ r.names ↔ (r.get k).isSome = true :=
  (Finset.mem_sort _).trans (Finmap.mem_keys.trans Finmap.lookup_isSome.symm)

theorem get_of_size (empty : r.size = 0) (k : String) : r.get k = none := by
  have absent : k ∉ Finmap.keys r := by
    rw [Finset.card_eq_zero.mp empty]
    exact Finset.notMem_empty k
  exact Finmap.lookup_eq_none.mpr absent

theorem get_ofList_of_absent {entries : List (String × α)} (absent : k ∉ entries.map Prod.fst) :
    (ofList entries).get k = none := by
  induction entries with
  | nil => rfl
  | cons e rest ih =>
    rw [List.map_cons, List.mem_cons, not_or] at absent
    obtain ⟨other, others⟩ := absent
    unfold ofList at ih ⊢
    rw [List.foldr_cons, get_set, if_neg other]
    exact ih others

/-- The record with a value for each of the names. -/
def tabulate (names : List String) (f : String → α) : Record α :=
  ofList (names.map fun k => (k, f k))

theorem get_tabulate (names : List String) (f : String → α) (k : String) :
    (tabulate names f).get k = if k ∈ names then some (f k) else none := by
  unfold tabulate ofList
  induction names with
  | nil => simp
  | cons name rest ih =>
    rw [List.map_cons, List.foldr_cons, get_set, ih]
    by_cases here : k = name
    · simp [here]
    · simp [here]

end Record

/-- An optional, nullable property `p?: T | null`. -/
inductive Nullable (α : Type*) where
  | undefined
  | null
  | value (a : α)
  deriving DecidableEq

namespace Nullable

variable {α : Type*}

instance : Inhabited (Nullable α) := ⟨.undefined⟩

/-- The value, when the property is neither `undefined` nor `null`. -/
def toOption : Nullable α → Option α
  | .value a => some a
  | _ => none

/-- `x ?? y`. -/
def orElse : Nullable α → Nullable α → Nullable α
  | .value a, _ => .value a
  | _, other => other

/-- `x ?? null`. -/
def orNull : Nullable α → Nullable α
  | .value a => .value a
  | _ => .null

@[simp] theorem toOption_value (a : α) : (Nullable.value a).toOption = some a := rfl
@[simp] theorem toOption_null : (Nullable.null : Nullable α).toOption = none := rfl
@[simp] theorem toOption_undefined : (Nullable.undefined : Nullable α).toOption = none := rfl

@[simp] theorem toOption_eq_some {f : Nullable α} {a : α} : f.toOption = some a ↔ f = .value a := by
  cases f <;> simp [toOption]

end Nullable

/-- The names a plain object inherits from `Object.prototype`. -/
def objectPrototypeNames : List String :=
  ["__proto__", "constructor", "__defineGetter__", "__defineSetter__", "hasOwnProperty",
    "__lookupGetter__", "__lookupSetter__", "isPrototypeOf", "propertyIsEnumerable",
    "toString", "valueOf", "toLocaleString"]

/-- What reading a property of a plain object of strings yields: an own value,
an inherited object or function, or `undefined`. -/
inductive PropertyRead (α : Type*) where
  | own (value : α)
  | inherited
  | absent
  deriving DecidableEq

/-- `object[name]`. -/
def readProperty {α : Type*} (object : Record α) (name : String) : PropertyRead α :=
  match object.get name with
  | some value => .own value
  | none => if name ∈ objectPrototypeNames then .inherited else .absent

/-- `object[name] = value` for a primitive value: the `__proto__` setter
ignores it, every other name becomes an own property. -/
def assignProperty {α : Type*} (object : Record α) (name : String) (value : α) : Record α :=
  if name = "__proto__" then object else object.set name value

theorem get_assignProperty {α : Type*} (object : Record α) (name other : String) (value : α) :
    (assignProperty object name value).get other =
      if other = name ∧ name ≠ "__proto__" then some value else object.get other := by
  by_cases hp : name = "__proto__"
  · simp [assignProperty, hp]
  · simp [assignProperty, hp, Record.get_set]

@[simp] theorem readProperty_eq_own {α : Type*} {object : Record α} {name : String} {value : α} :
    readProperty object name = .own value ↔ object.get name = some value := by
  unfold readProperty
  cases object.get name with
  | none => by_cases h : name ∈ objectPrototypeNames <;> simp [h]
  | some w => simp

end MessagingSystem.Foundation
