import MessagingSystem.Foundation.Json
import MessagingSystem.Foundation.OrderedMap

/-!
# Field paths with dots

A filter or an update names a field of a nested document by a path, whose names
are what its dots separate. A name that has a dot itself is therefore two names.
-/
namespace MessagingSystem.Foundation.DottedPath

/-- The names of a path. -/
def names (path : String) : List String := (path.toList.splitOn '.').map String.ofList

/-- The value that a filter compares: a field of a value that is no object is missing. -/
def read : List String → Json → Option Json
  | [], value => some value
  | name :: rest, .object members => (Json.member members name).bind (read rest)
  | _ :: _, _ => none

/-- `$set`: an object that is missing on the way is created, and a value on the way that is no object is an
error. -/
def write (value : Json) : List String → Json → Option Json
  | [], _ => some value
  | name :: rest, .object members =>
      (write value rest ((Json.member members name).getD (.object []))).map fun inner =>
        .object (OrderedMap.set name inner members)
  | _ :: _, _ => none

/-- Two names without dots are the names of their path. -/
theorem names_pair {outer inner : String} (outerPlain : '.' ∉ outer.toList) (innerPlain : '.' ∉ inner.toList) :
    names (outer ++ "." ++ inner) = [outer, inner] := by
  have joined : (outer ++ "." ++ inner).toList = ['.'].intercalate [outer.toList, inner.toList] := by
    simp [List.intercalate]
  have plain : ∀ l ∈ [outer.toList, inner.toList], '.' ∉ l := by
    intro l among
    rcases List.mem_pair.mp among with rfl | rfl
    · exact outerPlain
    · exact innerPlain
  unfold names
  rw [joined, List.splitOn_intercalate '.' plain (List.cons_ne_nil _ _)]
  simp

section Pairs

variable {outer : String} {fields entries : List (String × Json)}

theorem read_pair (inner : String) (map : Json.member fields outer = some (.object entries)) :
    read [outer, inner] (.object fields) = Json.member entries inner := by
  simp only [read, map, Option.bind_some]
  cases Json.member entries inner <;> rfl

theorem write_pair (inner : String) (value : Json) (map : Json.member fields outer = some (.object entries)) :
    write value [outer, inner] (.object fields) =
      some (.object (OrderedMap.set outer (.object (OrderedMap.set inner value entries)) fields)) := by
  simp only [write, map, Option.getD_some, Option.map_some]

end Pairs

end MessagingSystem.Foundation.DottedPath
