import Mathlib.Data.List.Infix

/-!
# Patterns that spell a text

A pattern language has syntax characters, and a backslash before one of them takes
it as it is. Of such a language only the patterns that spell a text are described:
ordinary characters and escaped syntax characters.
-/
namespace MessagingSystem.Foundation.LiteralPattern

/-- The pattern spells the text, one ordinary or escaped character after the other. -/
inductive Spells (isSyntax : Char → Bool) : List Char → List Char → Prop
  | nil : Spells isSyntax [] []
  | ordinary {c : Char} {p text : List Char} (plain : isSyntax c = false)
      (rest : Spells isSyntax p text) : Spells isSyntax (c :: p) (c :: text)
  | escaped {c : Char} {p text : List Char} (special : isSyntax c = true)
      (rest : Spells isSyntax p text) : Spells isSyntax ('\\' :: c :: p) (c :: text)

/-- A backslash before each syntax character. -/
def escape (isSyntax : Char → Bool) (text : List Char) : List Char :=
  text.flatMap fun c => if isSyntax c then ['\\', c] else [c]

theorem spells_escape (isSyntax : Char → Bool) (text : List Char) :
    Spells isSyntax (escape isSyntax text) text := by
  induction text with
  | nil => exact .nil
  | cons c text ih =>
    unfold escape
    rw [List.flatMap_cons]
    by_cases special : isSyntax c = true
    · rw [if_pos special]
      exact .escaped special ih
    · rw [if_neg special]
      exact .ordinary (Bool.eq_false_iff.mpr special) ih

/-- The text that a pattern spells, if it spells one. -/
def unescape : List Char → List Char
  | '\\' :: c :: rest => c :: unescape rest
  | c :: rest => c :: unescape rest
  | [] => []

theorem Spells.unescape_eq {isSyntax : Char → Bool} (backslash : isSyntax '\\' = true) {p text : List Char}
    (spells : Spells isSyntax p text) : unescape p = text := by
  induction spells with
  | nil => rfl
  | @ordinary c p text plain rest ih =>
    have other : c ≠ '\\' := by
      intro same
      rw [same, backslash] at plain
      cases plain
    rw [unescape, ih]
    intro d rest' same _
    exact other same
  | escaped special rest ih => rw [unescape, ih]

/-- Somewhere in the text. -/
def occursIn (needle text : List Char) : Bool := text.tails.any fun rest => needle.isPrefixOf rest

theorem occursIn_iff {needle text : List Char} : occursIn needle text = true ↔ needle <:+: text := by
  unfold occursIn
  rw [List.any_eq_true, List.infix_iff_prefix_suffix]
  constructor
  · intro ⟨rest, member, starts⟩
    exact ⟨rest, List.isPrefixOf_iff_prefix.mp starts, (List.mem_tails _ _).mp member⟩
  · intro ⟨rest, starts, ends⟩
    exact ⟨rest, (List.mem_tails _ _).mpr ends, List.isPrefixOf_iff_prefix.mpr starts⟩

end MessagingSystem.Foundation.LiteralPattern
