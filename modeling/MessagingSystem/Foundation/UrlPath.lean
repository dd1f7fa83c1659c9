import Mathlib.Data.List.Induction

/-!
# Paths of URLs

The path of a hierarchical URL as the list of its segments, and the removal of dot
segments that a URL parser does: a dot may also be written `%2e`. A path that is
walked from a place keeps some of the place and adds names of its own.
-/
namespace MessagingSystem.Foundation.UrlPath

/-- A segment for the same directory. -/
def isSingleDot (segment : List Char) : Bool := decide (segment.map Char.toLower ∈ [['.'], ['%', '2', 'e']])

/-- A segment for the parent directory. -/
def isDoubleDot (segment : List Char) : Bool :=
  decide (segment.map Char.toLower ∈
    [['.', '.'], ['.', '%', '2', 'e'], ['%', '2', 'e', '.'], ['%', '2', 'e', '%', '2', 'e']])

/-- The directory that a segment leads to. -/
def enter (path : List (List Char)) (segment : List Char) : List (List Char) :=
  if isDoubleDot segment then path.dropLast else if isSingleDot segment then path else path ++ [segment]

/-- A path that ends in a dot segment is that of a directory, with an empty last segment. -/
def removeDotSegments (segments : List (List Char)) : List (List Char) :=
  segments.foldl enter [] ++
    if segments.getLast?.any fun last => isSingleDot last || isDoubleDot last then [[]] else []

/-- The segments of the path of an absolute URL, after its scheme and its authority. -/
def pathSegments (url : List Char) : List (List Char) :=
  ((url.takeWhile fun c => c ≠ '?' && c ≠ '#').splitOn '/').drop 3

section Walk

variable {N S : Type*}

/-- What a segment of a relative path does: up, nothing, or down to a name. -/
inductive Move (N : Type*) where
  | up
  | stay
  | down (name : N)

/-- The place that moves lead to from a place, with each name as it stands in the place. -/
def walk (place : List S) (mark : N → S) (moves : List (Move N)) : List S :=
  moves.foldl (fun place move =>
    match move with
    | .up => place.dropLast
    | .stay => place
    | .down name => place ++ [mark name]) place

theorem walk_append (place : List S) (mark : N → S) (first second : List (Move N)) :
    walk place mark (first ++ second) = walk (walk place mark first) mark second := List.foldl_append

/-- A walk ends at a part of its place, and names of its own. -/
theorem walk_eq (place : List S) (mark : N → S) (moves : List (Move N)) :
    ∃ (kept : Nat) (names : List N), kept ≤ place.length ∧ walk place mark moves = place.take kept ++ names.map mark ∧
      ∀ name ∈ names, Move.down name ∈ moves := by
  induction moves using List.reverseRecOn with
  | nil => exact ⟨place.length, [], Nat.le_refl _, by simp [walk], fun name none => absurd none List.not_mem_nil⟩
  | append_singleton moves move ih =>
    obtain ⟨kept, names, bound, here, among⟩ := ih
    have earlier : ∀ name ∈ names, Move.down name ∈ moves ++ [move] :=
      fun name member => List.mem_append_left _ (among name member)
    rw [walk_append, here]
    cases move with
    | stay => exact ⟨kept, names, bound, rfl, earlier⟩
    | up =>
      rcases List.eq_nil_or_concat names with none | ⟨front, last, cut⟩
      · refine ⟨kept - 1, [], by omega, ?_, fun name none => absurd none List.not_mem_nil⟩
        simp only [walk, List.foldl_cons, List.foldl_nil, none, List.map_nil, List.append_nil]
        rw [List.dropLast_eq_take, List.take_take, List.length_take, Nat.min_eq_left bound,
          Nat.min_eq_left (Nat.sub_le _ _)]
      · rw [List.concat_eq_append] at cut
        subst cut
        refine ⟨kept, front, bound, ?_, fun name member => earlier name (List.mem_append_left _ member)⟩
        simp [walk, ← List.append_assoc]
    | down name =>
      refine ⟨kept, names ++ [name], bound, by simp [walk], ?_⟩
      intro other member
      rcases List.mem_append.mp member with before | new
      · exact earlier other before
      · rw [List.mem_singleton.mp new]
        exact List.mem_append_right _ (List.mem_singleton.mpr rfl)

/-- Names alone lead down. -/
theorem walk_down (place : List S) (mark : N → S) (names : List N) :
    walk place mark (names.map .down) = place ++ names.map mark := by
  induction names generalizing place with
  | nil => simp [walk]
  | cons name rest ih =>
    have next := ih (place ++ [mark name])
    simp only [walk, List.map_cons, List.foldl_cons] at next ⊢
    rw [next]
    simp

end Walk

end MessagingSystem.Foundation.UrlPath
