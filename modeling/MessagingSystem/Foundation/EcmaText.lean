import Mathlib.Data.List.DropRight

/-!
# ECMAScript string operations

`trim`, `length` and `startsWith` as the language defines them, on strings of
Unicode scalar values. `trim` removes WhiteSpace and LineTerminator code
points, which includes the byte order mark; `length` counts UTF-16 code units.
-/
namespace MessagingSystem.Foundation.EcmaText

/-- WhiteSpace and LineTerminator code points. -/
def isSpace (c : Char) : Bool :=
  let n := c.toNat
  (0x9 ≤ n && n ≤ 0xD) || n == 0x20 || n == 0xA0 || n == 0x1680 || (0x2000 ≤ n && n ≤ 0x200A) ||
    n == 0x2028 || n == 0x2029 || n == 0x202F || n == 0x205F || n == 0x3000 || n == 0xFEFF

def trimChars (cs : List Char) : List Char := (cs.dropWhile isSpace).rdropWhile isSpace

/-- `s.trim()`. -/
def trim (s : String) : String := String.ofList (trimChars s.toList)

/-- The number of code units of a character. -/
def charUnits (c : Char) : Nat := if c.toNat < 0x10000 then 1 else 2

/-- `s.length`. -/
def codeUnitLength (s : String) : Nat := s.toList.foldr (fun c units => charUnits c + units) 0

/-- The UTF-16 code units, which the default `sort` compares. -/
def codeUnits (s : String) : List Nat :=
  s.toList.flatMap fun c =>
    if c.toNat < 0x10000 then [c.toNat]
    else [0xD800 + (c.toNat - 0x10000) / 0x400, 0xDC00 + (c.toNat - 0x10000) % 0x400]

/-- `[a, b].sort()`. -/
def sortPair (a b : String) : String × String := if codeUnits b < codeUnits a then (b, a) else (a, b)

/-- The code units of one character. -/
def unitsOf (c : Char) : List Nat :=
  if c.toNat < 0x10000 then [c.toNat]
  else [0xD800 + (c.toNat - 0x10000) / 0x400, 0xDC00 + (c.toNat - 0x10000) % 0x400]

/-- No character's code units begin another's: surrogates are no characters. -/
theorem unitsOf_append_inj {c d : Char} {xs ys : List Nat}
    (same : unitsOf c ++ xs = unitsOf d ++ ys) : c = d ∧ xs = ys := by
  have scalarC : c.toNat < 0xD800 ∨ 0xDFFF < c.toNat ∧ c.toNat < 0x110000 := c.valid
  have scalarD : d.toNat < 0xD800 ∨ 0xDFFF < d.toNat ∧ d.toNat < 0x110000 := d.valid
  have ofNat : c.toNat = d.toNat → c = d := fun h => Char.toNat_inj.mp h
  unfold unitsOf at same
  split at same <;> split at same <;>
    simp only [List.cons_append, List.nil_append, List.cons.injEq] at same
  · exact ⟨ofNat same.1, same.2⟩
  · omega
  · omega
  · exact ⟨ofNat (by omega), same.2.2⟩

theorem codeUnits_inj {s t : String} (same : codeUnits s = codeUnits t) : s = t := by
  have lists : ∀ xs ys : List Char, xs.flatMap unitsOf = ys.flatMap unitsOf → xs = ys := by
    intro xs
    have nonempty : ∀ (c : Char) (rest : List Nat), unitsOf c ++ rest ≠ [] := by
      intro c rest
      unfold unitsOf
      split <;> simp
    induction xs with
    | nil =>
      intro ys same
      cases ys with
      | nil => rfl
      | cons d rest => exact absurd same.symm (nonempty d _)
    | cons c rest ih =>
      intro ys same
      cases ys with
      | nil => exact absurd same (nonempty c _)
      | cons d more =>
        obtain ⟨rfl, tails⟩ := unitsOf_append_inj same
        rw [ih more tails]
  exact String.toList_inj.mp (lists s.toList t.toList same)

theorem sortPair_cases (a b : String) : sortPair a b = (a, b) ∨ sortPair a b = (b, a) := by
  unfold sortPair
  split
  · exact .inr rfl
  · exact .inl rfl

/-- Sorting forgets the order in which two strings are given. -/
theorem sortPair_comm (a b : String) : sortPair a b = sortPair b a := by
  unfold sortPair
  by_cases less : codeUnits b < codeUnits a
  · rw [if_pos less, if_neg (List.lt_asymm less)]
  · by_cases more : codeUnits a < codeUnits b
    · rw [if_neg less, if_pos more]
    · obtain rfl := codeUnits_inj (List.le_antisymm (List.not_lt.mp less) (List.not_lt.mp more))
      rfl

theorem mem_sortPair {a b x : String} (member : x ∈ [(sortPair a b).1, (sortPair a b).2]) :
    x = a ∨ x = b := by
  unfold sortPair at member
  split at member
  · simpa [or_comm] using member
  · simpa using member

/-- `s.startsWith(start)`. -/
def startsWith (s start : String) : Bool := start.toList.isPrefixOf s.toList

/-- `s.slice(start.length)` of a string that starts with `start`. -/
def dropStart (s start : String) : String := String.ofList (s.toList.drop start.toList.length)

@[simp] theorem startsWith_append (start s : String) : startsWith (start ++ s) start = true := by
  simp [startsWith]

@[simp] theorem dropStart_append (start s : String) : dropStart (start ++ s) start = s := by
  simp [dropStart]

/-- `s.trim().length > 0`. -/
def isNonBlank (s : String) : Bool := !(trim s).isEmpty

theorem trimChars_trimChars (cs : List Char) : trimChars (trimChars cs) = trimChars cs := by
  have front : (trimChars cs).dropWhile isSpace = trimChars cs := by
    rw [List.dropWhile_eq_self_iff]
    intro nonempty
    have isPrefix : trimChars cs <+: cs.dropWhile isSpace := List.rdropWhile_prefix _ _
    have longer : 0 < (cs.dropWhile isSpace).length :=
      Nat.lt_of_lt_of_le nonempty isPrefix.length_le
    have head : (trimChars cs)[0] = (cs.dropWhile isSpace)[0] := isPrefix.getElem nonempty
    rw [head]
    have notSpace := List.head_dropWhile_not isSpace (l := cs) (by
      intro empty
      rw [empty] at isPrefix
      simp [List.prefix_nil.mp isPrefix] at nonempty)
    simpa [List.head_eq_getElem] using notSpace
  unfold trimChars at front ⊢
  rw [front, List.rdropWhile_idempotent]

@[simp] theorem trim_trim (s : String) : trim (trim s) = trim s := by
  simp [trim, trimChars_trimChars]

@[simp] theorem trim_empty : trim "" = "" := by decide

theorem isNonBlank_iff {s : String} : isNonBlank s = true ↔ trim s ≠ "" := by
  simp [isNonBlank]

/-- One character that is not white space keeps a string from being blank. -/
theorem isNonBlank_of_mem {s : String} {c : Char} (member : c ∈ s.toList)
    (solid : isSpace c = false) : isNonBlank s = true := by
  rw [isNonBlank_iff]
  intro blank
  have empty : trimChars s.toList = [] := by
    simpa [trim] using congrArg String.toList blank
  have front : c ∈ s.toList.dropWhile isSpace := by
    rw [← List.takeWhile_append_dropWhile (p := isSpace) (l := s.toList)] at member
    rcases List.mem_append.mp member with taken | left
    · exact absurd (List.mem_takeWhile_imp taken) (by simp [solid])
    · exact left
  have spaces := List.rdropWhile_eq_nil_iff.mp empty c front
  simp [solid] at spaces

/-- A string that is its own trimmed form, as every stored identifier is. -/
def Trimmed (s : String) : Prop := trim s = s

instance (s : String) : Decidable (Trimmed s) := inferInstanceAs (Decidable (trim s = s))

/-- A string without white space is its own trimmed form. -/
theorem trimmed_of_plain {s : String} (plain : ∀ c ∈ s.toList, isSpace c = false) : Trimmed s := by
  have front : s.toList.dropWhile isSpace = s.toList := by
    rw [List.dropWhile_eq_self_iff]
    intro nonempty
    simp [plain _ (List.getElem_mem nonempty)]
  have back : s.toList.rdropWhile isSpace = s.toList := by
    rw [List.rdropWhile_eq_self_iff]
    intro nonempty
    simp [plain _ (List.getLast_mem nonempty)]
  unfold Trimmed trim trimChars
  rw [front, back, String.ofList_toList]

/-- A string between two characters that are not white space is its own trimmed form. -/
theorem trimmed_of_ends (first last : Char) (middle : List Char) (solid : isSpace first = false)
    (solid' : isSpace last = false) :
    Trimmed (String.ofList (first :: (middle ++ [last]))) := by
  have back : (first :: (middle ++ [last])).rdropWhile isSpace = first :: (middle ++ [last]) := by
    rw [List.rdropWhile_eq_self_iff]
    intro nonempty
    simp [solid']
  unfold Trimmed trim trimChars
  rw [String.toList_ofList, List.dropWhile_cons_of_neg (by simp [solid]), back]

theorem trimmed_trim (s : String) : Trimmed (trim s) := trim_trim s

end MessagingSystem.Foundation.EcmaText
