import MessagingSystem.Foundation.EcmaNumber
import MessagingSystem.Foundation.Json
import MessagingSystem.Foundation.OrderedMap
import MessagingSystem.Foundation.TextCoding

/-!
# JSON text

`JSON.stringify` without indentation and `JSON.parse`. A number keeps its
literal, an object that repeats a name has the last value of it, and a lone
surrogate in an escape is read as U+FFFD. What is written is read back
(`parse_stringify`), and a string that was read is shorter than the text
(`size_member_lt`).
-/
namespace MessagingSystem.Foundation.Json

section Write

/-- A character in a string literal. -/
def quoteChar (c : Char) : List Char :=
  if c = '"' then ['\\', '"']
  else if c = '\\' then ['\\', '\\']
  else if c.toNat = 8 then ['\\', 'b']
  else if c.toNat = 12 then ['\\', 'f']
  else if c = '\n' then ['\\', 'n']
  else if c = '\r' then ['\\', 'r']
  else if c = '\t' then ['\\', 't']
  else if c.toNat < 32 then
    ['\\', 'u', '0', '0', Nat.digitChar (c.toNat / 16), Nat.digitChar (c.toNat % 16)]
  else [c]

def quote (s : String) : List Char := '"' :: (s.toList.flatMap quoteChar ++ ['"'])

mutual

def write : Json → List Char
  | .null => "null".toList
  | .bool true => "true".toList
  | .bool false => "false".toList
  | .number literal => literal.toList
  | .string s => quote s
  | .array items => '[' :: List.intercalate [','] (writeItems items) ++ [']']
  | .object members => '{' :: List.intercalate [','] (writeMembers members) ++ ['}']

def writeItems : List Json → List (List Char)
  | [] => []
  | item :: rest => write item :: writeItems rest

def writeMembers : List (String × Json) → List (List Char)
  | [] => []
  | (name, value) :: rest => (quote name ++ ':' :: write value) :: writeMembers rest

end

/-- `JSON.stringify(v)`. -/
def stringify (v : Json) : String := String.ofList (write v)

end Write

section Read

def isJsonSpace (c : Char) : Bool := c = ' ' || c = '\n' || c = '\r' || c = '\t'

def skipSpace (text : List Char) : List Char := text.dropWhile isJsonSpace

def hexValue (c : Char) : Option Nat :=
  if c.isDigit then some (c.toNat - 48)
  else if 'a' ≤ c ∧ c ≤ 'f' then some (c.toNat - 87)
  else if 'A' ≤ c ∧ c ≤ 'F' then some (c.toNat - 55)
  else none

/-- The code unit of an escape with four digits. -/
def hexUnit (a b c d : Char) : Option UInt16 := do
  let a ← hexValue a
  let b ← hexValue b
  let c ← hexValue c
  let d ← hexValue d
  some (UInt16.ofNat (a * 4096 + b * 256 + c * 16 + d))

/-- The code unit of an escape with one letter. -/
def escaped (c : Char) : Option UInt16 :=
  if c = '"' ∨ c = '\\' ∨ c = '/' then some (UInt16.ofNat c.toNat)
  else if c = 'b' then some 8
  else if c = 'f' then some 12
  else if c = 'n' then some 10
  else if c = 'r' then some 13
  else if c = 't' then some 9
  else none

/-- The code units of a string literal after its opening quote, and what follows it. -/
def readString : List Char → Option (CodeUnits × List Char)
  | [] => none
  | c :: rest =>
      if c = '"' then some ([], rest)
      else if c = '\\' then
        match rest with
        | 'u' :: a :: b :: x :: y :: rest =>
            (hexUnit a b x y).bind fun u => (readString rest).map fun r => (u :: r.1, r.2)
        | e :: rest => (escaped e).bind fun u => (readString rest).map fun r => (u :: r.1, r.2)
        | [] => none
      else if c.toNat < 32 then none
      else (readString rest).map fun r => (TextCoding.unitsOfChar c ++ r.1, r.2)

/-- A string literal after its opening quote. -/
def readText (text : List Char) : Option (String × List Char) :=
  (readString text).map fun r => (String.ofList (TextCoding.scalars r.1), r.2)

/-- The characters of a number or a keyword. -/
def isWordChar (c : Char) : Bool := c.isAlphanum || c = '-' || c = '+' || c = '.'

def readWord (text : List Char) : Option (Json × List Char) :=
  let word := text.takeWhile isWordChar
  let rest := text.dropWhile isWordChar
  if word = "null".toList then some (.null, rest)
  else if word = "true".toList then some (.bool true, rest)
  else if word = "false".toList then some (.bool false, rest)
  else if (EcmaNumber.readLiteral word).isSome then some (.number (String.ofList word), rest)
  else none

/-- The name of a member, and what follows its colon. -/
def readName (text : List Char) : Option (String × List Char) :=
  match skipSpace text with
  | '"' :: rest => (readText rest).bind fun name =>
      match skipSpace name.2 with
      | ':' :: rest => some (name.1, rest)
      | _ => none
  | _ => none

mutual

/-- A value at the front of the text; the fuel bounds the text's length. -/
def readValue : Nat → List Char → Option (Json × List Char)
  | 0, _ => none
  | fuel + 1, text =>
      match skipSpace text with
      | '"' :: rest => (readText rest).map fun r => (.string r.1, r.2)
      | '[' :: rest =>
          if (skipSpace rest).head? = some ']' then some (.array [], (skipSpace rest).tail)
          else (readItems fuel rest).map fun r => (.array r.1, r.2)
      | '{' :: rest =>
          if (skipSpace rest).head? = some '}' then some (.object [], (skipSpace rest).tail)
          else (readMembers fuel rest).map fun r => (.object (OrderedMap.ofEntries r.1), r.2)
      | rest => readWord rest

/-- Items up to the closing bracket. -/
def readItems : Nat → List Char → Option (List Json × List Char)
  | 0, _ => none
  | fuel + 1, text =>
      (readValue fuel text).bind fun item =>
        match skipSpace item.2 with
        | ',' :: rest => (readItems fuel rest).map fun r => (item.1 :: r.1, r.2)
        | ']' :: rest => some ([item.1], rest)
        | _ => none

/-- Members up to the closing brace. -/
def readMembers : Nat → List Char → Option (List (String × Json) × List Char)
  | 0, _ => none
  | fuel + 1, text =>
      (readName text).bind fun name =>
        (readValue fuel name.2).bind fun value =>
          match skipSpace value.2 with
          | ',' :: rest => (readMembers fuel rest).map fun r => ((name.1, value.1) :: r.1, r.2)
          | '}' :: rest => some ([(name.1, value.1)], rest)
          | _ => none

end

/-- `JSON.parse(s)`, a `SyntaxError` being `none`. -/
def parse (s : String) : Option Json :=
  (readValue s.toList.length s.toList).bind fun r => if skipSpace r.2 = [] then some r.1 else none

end Read

section RoundTrip

mutual

/-- Numbers are literals, and no object repeats a name. -/
def wellFormed : Json → Bool
  | .number literal =>
      literal.toList.all isWordChar && (EcmaNumber.readLiteral literal.toList).isSome
  | .array items => itemsWellFormed items
  | .object members => decide (members.map Prod.fst).Nodup && membersWellFormed members
  | _ => true

def itemsWellFormed : List Json → Bool
  | [] => true
  | item :: rest => wellFormed item && itemsWellFormed rest

def membersWellFormed : List (String × Json) → Bool
  | [] => true
  | (_, value) :: rest => wellFormed value && membersWellFormed rest

end

theorem membersWellFormed_strings (names : List String) (text : String → String) :
    membersWellFormed (names.map fun name => (name, .string (text name))) = true := by
  induction names with
  | nil => rfl
  | cons name rest ih =>
    rw [List.map_cons, membersWellFormed, ih]
    simp [wellFormed]

theorem hexValue_digitChar : ∀ d < 16, hexValue (Nat.digitChar d) = some d := by decide

theorem hexUnit_control {n : Nat} (control : n < 32) :
    hexUnit '0' '0' (Nat.digitChar (n / 16)) (Nat.digitChar (n % 16)) = some (UInt16.ofNat n) := by
  have zero : hexValue '0' = some 0 := by decide
  have high := hexValue_digitChar (n / 16) (by omega)
  have low := hexValue_digitChar (n % 16) (by omega)
  have value : 0 * 4096 + 0 * 256 + n / 16 * 16 + n % 16 = n := by omega
  unfold hexUnit
  simp only [zero, high, low, Option.bind_eq_bind, Option.bind_some, value]

theorem unitsOfChar_small {c : Char} (small : c.toNat < 0x10000) :
    TextCoding.unitsOfChar c = [UInt16.ofNat c.toNat] := if_pos small

/-- A quoted character is read as its code units. -/
theorem readString_quoteChar (c : Char) (rest : List Char) :
    readString (quoteChar c ++ rest) =
      (readString rest).map fun r => (TextCoding.unitsOfChar c ++ r.1, r.2) := by
  have letter : ∀ (e : Char) (u : UInt16), e ≠ 'u' → escaped e = some u →
      TextCoding.unitsOfChar c = [u] → readString ('\\' :: e :: rest) =
        (readString rest).map fun r => (TextCoding.unitsOfChar c ++ r.1, r.2) := by
    intro e u plain unit units
    rw [readString, if_neg (by decide), if_pos rfl, units]
    · rw [unit]
      rfl
    · exact fun _ _ _ _ _ same => absurd same plain
  unfold quoteChar
  split
  · rename_i same
    subst same
    exact letter '"' 34 (by decide) (by decide) (by decide)
  split
  · rename_i same
    subst same
    exact letter '\\' 92 (by decide) (by decide) (by decide)
  split
  · rename_i same
    refine letter 'b' 8 (by decide) (by decide) ?_
    rw [unitsOfChar_small (by omega), same]
    rfl
  split
  · rename_i same
    refine letter 'f' 12 (by decide) (by decide) ?_
    rw [unitsOfChar_small (by omega), same]
    rfl
  split
  · rename_i same
    subst same
    exact letter 'n' 10 (by decide) (by decide) (by decide)
  split
  · rename_i same
    subst same
    exact letter 'r' 13 (by decide) (by decide) (by decide)
  split
  · rename_i same
    subst same
    exact letter 't' 9 (by decide) (by decide) (by decide)
  split
  · rename_i control
    simp only [List.cons_append, List.nil_append]
    rw [readString, if_neg (by decide), if_pos rfl]
    simp only [hexUnit_control control, Option.bind_some]
    rw [unitsOfChar_small (by omega)]
    rfl
  · rename_i quote slash _ _ _ _ _ control
    rw [List.cons_append, List.nil_append, readString.eq_def]
    simp only [quote, slash, control, if_false]

theorem readString_quoted (cs rest : List Char) :
    readString (cs.flatMap quoteChar ++ '"' :: rest) = some (TextCoding.units cs, rest) := by
  induction cs with
  | nil =>
    rw [List.flatMap_nil, List.nil_append, readString.eq_def]
    simp only [if_true]
    rfl
  | cons c cs ih =>
    rw [List.flatMap_cons, List.append_assoc, readString_quoteChar, ih]
    rfl

theorem readText_quote (s : String) (rest : List Char) :
    readText ((quote s).tail ++ rest) = some (s, rest) := by
  unfold readText quote
  rw [List.tail_cons, List.append_assoc, List.singleton_append, readString_quoted, Option.map_some,
    TextCoding.scalars_units, String.ofList_toList]

/-- What follows a value does not continue its word. -/
def Stops (rest : List Char) : Prop := ∀ c, rest.head? = some c → isWordChar c = false

theorem Stops.of_cons {c : Char} {rest : List Char} (stop : isWordChar c = false) : Stops (c :: rest) := by
  intro d first
  rw [← Option.some.inj first]
  exact stop

theorem skipSpace_cons {c : Char} (solid : isJsonSpace c = false) (rest : List Char) :
    skipSpace (c :: rest) = c :: rest := List.dropWhile_cons_of_neg (by simp [solid])

theorem isWordChar_plain {c : Char} (word : isWordChar c = true) :
    isJsonSpace c = false ∧ c ≠ '"' ∧ c ≠ '[' ∧ c ≠ '{' ∧ c ≠ ']' ∧ c ≠ '}' := by
  refine ⟨?_, ?_, ?_, ?_, ?_, ?_⟩
  · cases space : isJsonSpace c with
    | false => rfl
    | true =>
      simp only [isJsonSpace, Bool.or_eq_true, decide_eq_true_eq] at space
      rcases space with ((rfl | rfl) | rfl) | rfl <;> cases word
  all_goals
    rintro rfl
    cases word

theorem word_append {word rest : List Char} (all : ∀ c ∈ word, isWordChar c = true) (stops : Stops rest) :
    (word ++ rest).takeWhile isWordChar = word ∧ (word ++ rest).dropWhile isWordChar = rest := by
  rw [List.takeWhile_append_of_pos all, List.dropWhile_append_of_pos all]
  cases rest with
  | nil => exact ⟨by simp, rfl⟩
  | cons c rest =>
    have stop := stops c rfl
    simp [stop]

/-- A value that begins with a word character is read as a word. -/
theorem readValue_word {word rest : List Char} {fuel : Nat} (all : ∀ c ∈ word, isWordChar c = true)
    (nonempty : word ≠ []) : readValue (fuel + 1) (word ++ rest) = readWord (word ++ rest) := by
  cases word with
  | nil => exact absurd rfl nonempty
  | cons c word =>
    obtain ⟨solid, quote, bracket, brace, -, -⟩ := isWordChar_plain (all c (List.mem_cons_self))
    rw [readValue, List.cons_append, skipSpace_cons solid]
    split
    · rename_i same
      exact absurd (List.cons.inj same).1 quote
    · rename_i same
      exact absurd (List.cons.inj same).1 bracket
    · rename_i same
      exact absurd (List.cons.inj same).1 brace
    · rfl

theorem number_word {literal : String} (wf : wellFormed (.number literal) = true) :
    (∀ c ∈ literal.toList, isWordChar c = true) ∧ literal.toList ≠ [] ∧
      (EcmaNumber.readLiteral literal.toList).isSome = true := by
  rw [wellFormed, Bool.and_eq_true, List.all_eq_true] at wf
  refine ⟨wf.1, fun empty => ?_, wf.2⟩
  rw [empty] at wf
  exact absurd wf.2 (by decide)

/-- The first character of what is written. -/
theorem write_head {v : Json} (wf : wellFormed v = true) :
    ∃ c rest, write v = c :: rest ∧ isJsonSpace c = false ∧ c ≠ ']' ∧ c ≠ '}' := by
  cases v with
  | number literal =>
    obtain ⟨all, nonempty, -⟩ := number_word wf
    obtain ⟨c, rest, text⟩ := List.exists_cons_of_ne_nil nonempty
    obtain ⟨solid, -, -, -, bracket, brace⟩ := isWordChar_plain (all c (by simp [text]))
    exact ⟨c, rest, text, solid, bracket, brace⟩
  | bool b => cases b <;> exact ⟨_, _, rfl, by decide, by decide, by decide⟩
  | null => exact ⟨_, _, rfl, by decide, by decide, by decide⟩
  | string s => exact ⟨_, _, rfl, by decide, by decide, by decide⟩
  | array items => exact ⟨_, _, rfl, by decide, by decide, by decide⟩
  | object members => exact ⟨_, _, rfl, by decide, by decide, by decide⟩

/-- The text of items up to the closing bracket, of members up to the closing brace. -/
theorem closed_cons (close : Char) (piece next : List Char) (pieces : List (List Char)) :
    List.intercalate [','] (piece :: next :: pieces) ++ [close] =
      piece ++ ',' :: (List.intercalate [','] (next :: pieces) ++ [close]) := by
  simp [List.intercalate]

theorem closed_single (close : Char) (piece : List Char) :
    List.intercalate [','] [piece] ++ [close] = piece ++ [close] := by
  simp [List.intercalate]

theorem readName_write (name : String) (rest : List Char) :
    readName (quote name ++ ':' :: rest) = some (name, rest) := by
  have read := readText_quote name (':' :: rest)
  rw [quote, List.tail_cons] at read
  rw [quote, List.cons_append, readName, skipSpace_cons (by decide)]
  simp only [read, Option.bind_some, skipSpace_cons (show isJsonSpace ':' = false by decide)]

mutual

theorem readValue_write : ∀ (v : Json) (fuel : Nat) (rest : List Char), wellFormed v = true →
    (write v).length ≤ fuel → Stops rest → readValue fuel (write v ++ rest) = some (v, rest)
  | v, 0, rest, wf, enough, stops => by
    obtain ⟨c, tail, text, -⟩ := write_head wf
    rw [text, List.length_cons] at enough
    omega
  | .null, fuel + 1, rest, wf, enough, stops => by
    have all : ∀ c ∈ "null".toList, isWordChar c = true := List.all_eq_true.mp (by decide)
    obtain ⟨taken, dropped⟩ := word_append all stops
    rw [write, readValue_word all (by decide), readWord, taken, dropped]
    rfl
  | .bool true, fuel + 1, rest, wf, enough, stops => by
    have all : ∀ c ∈ "true".toList, isWordChar c = true := List.all_eq_true.mp (by decide)
    obtain ⟨taken, dropped⟩ := word_append all stops
    rw [write, readValue_word all (by decide), readWord, taken, dropped]
    rfl
  | .bool false, fuel + 1, rest, wf, enough, stops => by
    have all : ∀ c ∈ "false".toList, isWordChar c = true := List.all_eq_true.mp (by decide)
    obtain ⟨taken, dropped⟩ := word_append all stops
    rw [write, readValue_word all (by decide), readWord, taken, dropped]
    rfl
  | .number literal, fuel + 1, rest, wf, enough, stops => by
    obtain ⟨all, nonempty, parsed⟩ := number_word wf
    obtain ⟨taken, dropped⟩ := word_append all stops
    have keyword : ∀ word : String, EcmaNumber.readLiteral word.toList = none →
        literal.toList ≠ word.toList := by
      intro word none same
      rw [same, none] at parsed
      cases parsed
    rw [write, readValue_word all nonempty, readWord, taken, dropped, if_neg (keyword "null" (by decide)),
      if_neg (keyword "true" (by decide)), if_neg (keyword "false" (by decide)), if_pos parsed,
      String.ofList_toList]
  | .string s, fuel + 1, rest, wf, enough, stops => by
    have read := readText_quote s rest
    rw [quote, List.tail_cons] at read
    rw [write, quote, List.cons_append, readValue, skipSpace_cons (by decide)]
    simp only [read, Option.map_some]
  | .array [], fuel + 1, rest, wf, enough, stops => by
    have empty : write (.array []) = ['[', ']'] := by decide
    rw [empty, List.cons_append, readValue, skipSpace_cons (by decide)]
    have close : skipSpace ([']'] ++ rest) = ']' :: rest := skipSpace_cons (by decide) rest
    simp only [close, List.head?_cons, if_true, List.tail_cons]
  | .array (item :: items), fuel + 1, rest, wf, enough, stops => by
    have wfItems : itemsWellFormed (item :: items) = true := wf
    have itemWf : wellFormed item = true := (Bool.and_eq_true _ _ ▸ wfItems).1
    rw [write, List.cons_append, List.length_cons] at enough
    have read := readItems_write (item :: items) fuel rest (by simp) wfItems (by omega)
    obtain ⟨c, tail, text, solid, bracket, -⟩ := write_head itemWf
    have first : ∃ more, List.intercalate [','] (writeItems (item :: items)) ++ [']'] ++ rest = c :: more := by
      rw [writeItems, text]
      cases writeItems items with
      | nil => exact ⟨_, by rw [closed_single]; rfl⟩
      | cons next pieces => exact ⟨_, by rw [closed_cons]; rfl⟩
    obtain ⟨more, starts⟩ := first
    rw [write, List.cons_append, List.cons_append, readValue, skipSpace_cons (by decide)]
    have other : (skipSpace (List.intercalate [','] (writeItems (item :: items)) ++ [']'] ++ rest)).head? ≠
        some ']' := by
      rw [starts, skipSpace_cons solid]
      simpa using bracket
    simp only [other, if_false, read, Option.map_some]
  | .object [], fuel + 1, rest, wf, enough, stops => by
    have empty : write (.object []) = ['{', '}'] := by decide
    rw [empty, List.cons_append, readValue, skipSpace_cons (by decide)]
    have close : skipSpace (['}'] ++ rest) = '}' :: rest := skipSpace_cons (by decide) rest
    simp only [close, List.head?_cons, if_true, List.tail_cons]
  | .object (m :: members), fuel + 1, rest, wf, enough, stops => by
    obtain ⟨distinct, wfMembers⟩ := (Bool.and_eq_true _ _ ▸ wf : _ ∧ membersWellFormed (m :: members) = true)
    rw [write, List.cons_append, List.length_cons] at enough
    have read := readMembers_write (m :: members) fuel rest (by simp) wfMembers (by omega)
    have first : ∃ more, List.intercalate [','] (writeMembers (m :: members)) ++ ['}'] ++ rest =
        '"' :: more := by
      obtain ⟨name, value⟩ := m
      rw [writeMembers, quote]
      cases writeMembers members with
      | nil => exact ⟨_, by rw [closed_single]; rfl⟩
      | cons next pieces => exact ⟨_, by rw [closed_cons]; rfl⟩
    obtain ⟨more, starts⟩ := first
    rw [write, List.cons_append, List.cons_append, readValue, skipSpace_cons (by decide)]
    have other : (skipSpace (List.intercalate [','] (writeMembers (m :: members)) ++ ['}'] ++ rest)).head? ≠
        some '}' := by
      rw [starts, skipSpace_cons (by decide)]
      simp
    simp only [other, if_false, read, Option.map_some,
      OrderedMap.ofEntries_of_nodup (of_decide_eq_true distinct)]

theorem readItems_write : ∀ (items : List Json) (fuel : Nat) (rest : List Char), items ≠ [] →
    itemsWellFormed items = true →
    (List.intercalate [','] (writeItems items) ++ [']']).length ≤ fuel →
    readItems fuel (List.intercalate [','] (writeItems items) ++ [']'] ++ rest) = some (items, rest)
  | [], _, _, nonempty, _, _ => absurd rfl nonempty
  | item :: items, 0, _, _, _, enough => by
    rw [List.length_append, List.length_singleton] at enough
    omega
  | [item], fuel + 1, rest, _, wf, enough => by
    have wfItem : wellFormed item = true := by simpa [itemsWellFormed] using wf
    have pieces : writeItems [item] = [write item] := rfl
    rw [pieces, closed_single] at enough ⊢
    rw [List.length_append, List.length_singleton] at enough
    have read := readValue_write item fuel (']' :: rest) wfItem (by omega) (.of_cons (by decide))
    rw [List.append_assoc, List.singleton_append, readItems, read, Option.bind_some]
    simp only [skipSpace_cons (show isJsonSpace ']' = false by decide)]
  | item :: next :: items, fuel + 1, rest, _, wf, enough => by
    have both : wellFormed item = true ∧ itemsWellFormed (next :: items) = true := by
      rw [itemsWellFormed, Bool.and_eq_true] at wf
      exact wf
    have pieces : writeItems (item :: next :: items) = write item :: write next :: writeItems items := rfl
    have tailPieces : writeItems (next :: items) = write next :: writeItems items := rfl
    rw [pieces, closed_cons] at enough ⊢
    rw [List.length_append, List.length_cons] at enough
    have read := readValue_write item fuel (',' :: (List.intercalate [',']
      (write next :: writeItems items) ++ [']'] ++ rest)) both.1 (by omega) (.of_cons (by decide))
    have more := readItems_write (next :: items) fuel rest (by simp) both.2 (by rw [tailPieces]; omega)
    rw [tailPieces] at more
    rw [List.append_assoc, List.cons_append, readItems, read, Option.bind_some]
    simp only [skipSpace_cons (show isJsonSpace ',' = false by decide), more, Option.map_some]

theorem readMembers_write : ∀ (members : List (String × Json)) (fuel : Nat) (rest : List Char),
    members ≠ [] → membersWellFormed members = true →
    (List.intercalate [','] (writeMembers members) ++ ['}']).length ≤ fuel →
    readMembers fuel (List.intercalate [','] (writeMembers members) ++ ['}'] ++ rest) =
      some (members, rest)
  | [], _, _, nonempty, _, _ => absurd rfl nonempty
  | m :: members, 0, _, _, _, enough => by
    rw [List.length_append, List.length_singleton] at enough
    omega
  | [(name, value)], fuel + 1, rest, _, wf, enough => by
    have wfValue : wellFormed value = true := by simpa [membersWellFormed] using wf
    have pieces : writeMembers [(name, value)] = [quote name ++ ':' :: write value] := rfl
    rw [pieces, closed_single] at enough ⊢
    rw [List.length_append, List.length_append, List.length_cons, List.length_singleton] at enough
    have read := readValue_write value fuel ('}' :: rest) wfValue (by omega) (.of_cons (by decide))
    have named := readName_write name (write value ++ '}' :: rest)
    rw [List.append_assoc, List.append_assoc, List.cons_append, List.singleton_append, readMembers, named,
      Option.bind_some]
    simp only [read, Option.bind_some, skipSpace_cons (show isJsonSpace '}' = false by decide)]
  | (name, value) :: next :: members, fuel + 1, rest, _, wf, enough => by
    have both : wellFormed value = true ∧ membersWellFormed (next :: members) = true := by
      rw [membersWellFormed, Bool.and_eq_true] at wf
      exact wf
    obtain ⟨piece, pieces, tailPieces⟩ : ∃ piece pieces, writeMembers (next :: members) = piece :: pieces :=
      ⟨_, _, rfl⟩
    have all : writeMembers ((name, value) :: next :: members) =
        (quote name ++ ':' :: write value) :: piece :: pieces := by
      rw [← tailPieces]
      rfl
    rw [all, closed_cons] at enough ⊢
    rw [List.length_append, List.length_append, List.length_cons, List.length_cons] at enough
    have read := readValue_write value fuel (',' :: (List.intercalate [','] (piece :: pieces) ++ ['}'] ++
      rest)) both.1 (by omega) (.of_cons (by decide))
    have more := readMembers_write (next :: members) fuel rest (by simp) both.2 (by rw [tailPieces]; omega)
    have named := readName_write name (write value ++ ',' :: (List.intercalate [','] (piece :: pieces) ++
      ['}'] ++ rest))
    rw [tailPieces] at more
    rw [List.append_assoc, List.append_assoc, List.cons_append, List.cons_append, readMembers, named,
      Option.bind_some]
    simp only [read, Option.bind_some, skipSpace_cons (show isJsonSpace ',' = false by decide), more,
      Option.map_some]

end

/-- What is written is read back. -/
theorem parse_stringify {v : Json} (wf : wellFormed v = true) : parse (stringify v) = some v := by
  have read := readValue_write v (write v).length [] wf (Nat.le_refl _) (fun c none => by cases none)
  rw [List.append_nil] at read
  unfold parse stringify
  rw [String.toList_ofList, read, Option.bind_some]
  rfl

end RoundTrip

section Literals

theorem isWordChar_of_isDigit {c : Char} (digit : c.isDigit = true) : isWordChar c = true := by
  simp [isWordChar, Char.isAlphanum, digit]

theorem isWordChar_of_split {cs : List Char} (later : ∀ c ∈ cs.dropWhile Char.isDigit, isWordChar c = true) :
    ∀ c ∈ cs, isWordChar c = true := by
  induction cs with
  | nil => exact fun c member => by cases member
  | cons d rest ih =>
    by_cases digit : d.isDigit = true
    · rw [List.dropWhile_cons_of_pos digit] at later
      intro c member
      rcases List.mem_cons.mp member with rfl | tail
      · exact isWordChar_of_isDigit digit
      · exact ih later c tail
    · rw [List.dropWhile_cons_of_neg digit] at later
      exact later

theorem isWordChar_of_tail {cs : List Char} (first : ∀ c, cs.head? = some c → isWordChar c = true)
    (later : ∀ c ∈ cs.tail, isWordChar c = true) : ∀ c ∈ cs, isWordChar c = true := by
  cases cs with
  | nil => exact fun c member => by cases member
  | cons d rest =>
    intro c member
    rcases List.mem_cons.mp member with rfl | tail
    · exact first c rfl
    · exact later c tail

theorem readExponent_word {cs : List Char} {exponent : Int}
    (read : EcmaNumber.readExponent cs = some exponent) : ∀ c ∈ cs, isWordChar c = true := by
  cases cs with
  | nil => exact fun c member => by cases member
  | cons e rest =>
    unfold EcmaNumber.readExponent at read
    simp only [Option.ite_none_right_eq_some] at read
    obtain ⟨⟨letter, -, digits⟩, -⟩ := read
    apply isWordChar_of_tail
    · rintro c same
      cases same
      rcases letter with rfl | rfl <;> decide
    · by_cases signed : rest.head? = some '-' ∨ rest.head? = some '+'
      · have sign : ∀ c, rest.head? = some c → isWordChar c = true := by
          intro c same
          rcases signed with minus | plus
          · rw [minus] at same
            cases same
            decide
          · rw [plus] at same
            cases same
            decide
        simp only [signed, if_true] at digits
        exact isWordChar_of_tail sign fun c member => isWordChar_of_isDigit (List.all_eq_true.mp digits c member)
      · simp only [signed, if_false] at digits
        exact fun c member => isWordChar_of_isDigit (List.all_eq_true.mp digits c member)

theorem readFraction_word {cs : List Char} {parts : List Char × List Char}
    (read : EcmaNumber.readFraction cs = some parts) (later : ∀ c ∈ parts.2, isWordChar c = true) :
    ∀ c ∈ cs, isWordChar c = true := by
  unfold EcmaNumber.readFraction at read
  split at read
  · rename_i rest
    simp only [Option.ite_none_left_eq_some, Option.some.injEq] at read
    obtain ⟨-, rfl⟩ := read
    apply isWordChar_of_tail
    · rintro c same
      cases same
      decide
    · exact isWordChar_of_split later
  · cases read
    exact later

/-- What the grammar of a number accepts is a word. -/
theorem readLiteral_word {cs : List Char} {l : EcmaNumber.Literal} (read : EcmaNumber.readLiteral cs = some l) :
    ∀ c ∈ cs, isWordChar c = true := by
  unfold EcmaNumber.readLiteral at read
  simp only [Option.ite_none_right_eq_some] at read
  obtain ⟨-, parse⟩ := read
  obtain ⟨parts, fraction, rest⟩ := Option.bind_eq_some_iff.mp parse
  obtain ⟨exponent, ends, -⟩ := Option.map_eq_some_iff.mp rest
  have unsigned := isWordChar_of_split (readFraction_word fraction (readExponent_word ends))
  by_cases minus : cs.head? = some '-'
  · simp only [minus, if_true] at unsigned
    apply isWordChar_of_tail _ unsigned
    intro c same
    rw [minus] at same
    cases same
    decide
  · simp only [minus, if_false] at unsigned
    exact unsigned

theorem wellFormed_of_readLiteral {literal : String} {l : EcmaNumber.Literal}
    (read : EcmaNumber.readLiteral literal.toList = some l) : wellFormed (.number literal) = true := by
  rw [wellFormed, read, Option.isSome_some, Bool.and_true, List.all_eq_true]
  exact readLiteral_word read

end Literals

section Size

/-- The number of code units of a text. -/
def size (text : List Char) : Nat := (TextCoding.units text).length

theorem size_append (a b : List Char) : size (a ++ b) = size a + size b := by
  simp [size, TextCoding.units]

theorem size_cons (c : Char) (rest : List Char) :
    size (c :: rest) = (TextCoding.unitsOfChar c).length + size rest := by
  simp [size, TextCoding.units]

theorem unitsOfChar_pos (c : Char) : 0 < (TextCoding.unitsOfChar c).length := by
  unfold TextCoding.unitsOfChar
  split <;> simp

theorem size_dropWhile_le (p : Char → Bool) (text : List Char) :
    size (text.dropWhile p) ≤ size text := by
  have whole := congrArg size (List.takeWhile_append_dropWhile (p := p) (l := text))
  rw [size_append] at whole
  omega

theorem size_skipSpace_le (text : List Char) : size (skipSpace text) ≤ size text :=
  size_dropWhile_le _ text

theorem size_tail_le (text : List Char) : size text.tail ≤ size text := by
  cases text with
  | nil => exact Nat.le_refl _
  | cons c rest =>
    rw [List.tail_cons, size_cons]
    omega

/-- Decoding code units keeps their number. -/
theorem size_scalars (u : CodeUnits) : size (TextCoding.scalars u) = u.length := by
  have one : ∀ v : UInt16, (TextCoding.unitsOfChar (TextCoding.scalarOfUnit v)).length = 1 := by
    intro v
    have small : (TextCoding.scalarOfUnit v).toNat < 0x10000 := by
      unfold TextCoding.scalarOfUnit
      split
      · decide
      · have bound := v.toNat_lt
        rw [TextCoding.toNat_ofNat]
        split
        · omega
        · decide
    rw [TextCoding.unitsOfChar, if_pos small]
    rfl
  induction u using TextCoding.scalars.induct with
  | case1 => rfl
  | case2 v => simp [TextCoding.scalars, one, size, TextCoding.units]
  | case3 high low rest pair ih =>
    have large : ¬ (TextCoding.scalarOfPair high low).toNat < 0x10000 := by
      simp only [TextCoding.isHighSurrogate, TextCoding.isLowSurrogate, Bool.and_eq_true,
        decide_eq_true_eq] at pair
      have valid : (0x10000 + (high.toNat - 0xD800) * 0x400 +
          (low.toNat - 0xDC00)).isValidChar := .inr (by omega)
      rw [TextCoding.scalarOfPair, TextCoding.toNat_ofNat, if_pos valid]
      omega
    have two : (TextCoding.unitsOfChar (TextCoding.scalarOfPair high low)).length = 2 := by
      rw [TextCoding.unitsOfChar, if_neg large]
      rfl
    rw [TextCoding.scalars, if_pos pair, size_cons, two, ih, List.length_cons, List.length_cons]
    omega
  | case4 v w rest single ih =>
    rw [TextCoding.scalars, if_neg single, size_cons, one, ih, List.length_cons, List.length_cons]
    simp only [List.length_cons]
    omega

/-- A string literal is longer than its code units, and what follows it is shorter. -/
theorem size_readString (text : List Char) : ∀ r, readString text = some r →
    r.1.length + size r.2 < size text := by
  induction text using readString.induct with
  | case1 => intro r read; cases read
  | case2 rest =>
    intro r read
    rw [readString.eq_def] at read
    simp only [if_true, Option.some.injEq] at read
    subst read
    have one := unitsOfChar_pos '"'
    simp only [size_cons, List.length_nil]
    omega
  | case3 a b x y rest open_ ih =>
    intro r read
    rw [readString.eq_def] at read
    simp only [open_, if_false, if_true, Option.bind_eq_some_iff, Option.map_eq_some_iff] at read
    obtain ⟨u, -, tail, later, rfl⟩ := read
    have shorter := ih tail later
    have one := unitsOfChar_pos '\\'
    simp only [size_cons, List.length_cons] at shorter ⊢
    omega
  | case4 e rest plain open_ ih =>
    intro r read
    rw [readString, if_neg open_, if_pos rfl] at read
    · simp only [Option.bind_eq_some_iff, Option.map_eq_some_iff] at read
      obtain ⟨u, -, tail, later, rfl⟩ := read
      have shorter := ih tail later
      have one := unitsOfChar_pos '\\'
      simp only [size_cons, List.length_cons] at shorter ⊢
      omega
    · exact plain
  | case5 open_ =>
    intro r read
    rw [readString.eq_def] at read
    simp [open_] at read
  | case6 c rest quote slash control =>
    intro r read
    rw [readString.eq_def] at read
    simp [quote, slash, control] at read
  | case7 c rest quote slash plain ih =>
    intro r read
    rw [readString.eq_def] at read
    simp only [quote, slash, plain, if_false, Option.map_eq_some_iff] at read
    obtain ⟨tail, later, rfl⟩ := read
    have shorter := ih tail later
    simp only [size_cons, List.length_append]
    omega

theorem size_readText {text : List Char} {r : String × List Char} (read : readText text = some r) :
    size r.1.toList + size r.2 < size text := by
  obtain ⟨raw, literal, rfl⟩ := Option.map_eq_some_iff.mp read
  have shorter := size_readString text raw literal
  rw [String.toList_ofList, size_scalars]
  exact shorter

/-- A word is neither a string nor an object. -/
theorem size_readWord {text : List Char} {r : Json × List Char} (read : readWord text = some r) :
    size r.2 ≤ size text ∧ (∀ s, r.1 ≠ .string s) ∧ ∀ members, r.1 ≠ .object members := by
  have shorter := size_dropWhile_le isWordChar text
  unfold readWord at read
  dsimp only at read
  split at read
  · cases read
    exact ⟨shorter, fun s => nofun, fun members => nofun⟩
  split at read
  · cases read
    exact ⟨shorter, fun s => nofun, fun members => nofun⟩
  split at read
  · cases read
    exact ⟨shorter, fun s => nofun, fun members => nofun⟩
  split at read
  · cases read
    exact ⟨shorter, fun s => nofun, fun members => nofun⟩
  · cases read

theorem size_of_skipSpace {text rest : List Char} {c : Char} (starts : skipSpace text = c :: rest) :
    size rest < size text := by
  have shorter := size_skipSpace_le text
  have one := unitsOfChar_pos c
  rw [starts, size_cons] at shorter
  omega

theorem size_readName {text : List Char} {r : String × List Char} (read : readName text = some r) :
    size r.2 ≤ size text := by
  unfold readName at read
  split at read
  · rename_i rest starts
    obtain ⟨name, named, colon⟩ := Option.bind_eq_some_iff.mp read
    have literal := size_readText named
    have first := size_of_skipSpace starts
    split at colon
    · rename_i tail separator
      have second := size_of_skipSpace separator
      cases colon
      dsimp only
      omega
    · cases colon
  · cases read

/-- A value that was read: what follows it is no longer than the text, and a
string is shorter. -/
def ReadShorter (text : List Char) (r : Json × List Char) : Prop :=
  size r.2 ≤ size text ∧ ∀ s, r.1 = .string s → size s.toList < size text

mutual

theorem size_readValue : ∀ (fuel : Nat) (text : List Char) (r : Json × List Char),
    readValue fuel text = some r → ReadShorter text r
  | 0, text, r, read => by cases read
  | fuel + 1, text, r, read => by
    rw [readValue] at read
    split at read
    · rename_i rest starts
      obtain ⟨literal, named, rfl⟩ := Option.map_eq_some_iff.mp read
      have shorter := size_readText named
      have first := size_of_skipSpace starts
      refine ⟨by dsimp only; omega, fun s same => ?_⟩
      cases same
      omega
    · rename_i rest starts
      have first := size_of_skipSpace starts
      split at read
      · cases read
        have closed := (size_tail_le (skipSpace rest)).trans (size_skipSpace_le rest)
        exact ⟨by dsimp only; omega, fun s => nofun⟩
      · obtain ⟨items, later, rfl⟩ := Option.map_eq_some_iff.mp read
        have shorter := size_readItems fuel rest items later
        exact ⟨by dsimp only; omega, fun s => nofun⟩
    · rename_i rest starts
      have first := size_of_skipSpace starts
      split at read
      · cases read
        have closed := (size_tail_le (skipSpace rest)).trans (size_skipSpace_le rest)
        exact ⟨by dsimp only; omega, fun s => nofun⟩
      · obtain ⟨members, later, rfl⟩ := Option.map_eq_some_iff.mp read
        have shorter := (size_readMembers fuel rest members later).1
        exact ⟨by dsimp only; omega, fun s => nofun⟩
    · obtain ⟨shorter, plain, -⟩ := size_readWord read
      exact ⟨shorter.trans (size_skipSpace_le text), fun s same => absurd same (plain s)⟩

theorem size_readItems : ∀ (fuel : Nat) (text : List Char) (r : List Json × List Char),
    readItems fuel text = some r → size r.2 ≤ size text
  | 0, text, r, read => by cases read
  | fuel + 1, text, r, read => by
    rw [readItems] at read
    obtain ⟨item, value, next⟩ := Option.bind_eq_some_iff.mp read
    have first := (size_readValue fuel text item value).1
    split at next
    · rename_i rest separator
      have second := size_of_skipSpace separator
      obtain ⟨items, later, rfl⟩ := Option.map_eq_some_iff.mp next
      have shorter := size_readItems fuel rest items later
      dsimp only
      omega
    · rename_i rest separator
      have second := size_of_skipSpace separator
      cases next
      dsimp only
      omega
    · cases next

theorem size_readMembers : ∀ (fuel : Nat) (text : List Char) (r : List (String × Json) × List Char),
    readMembers fuel text = some r → size r.2 ≤ size text ∧
      ∀ name s, (name, .string s) ∈ r.1 → size s.toList < size text
  | 0, text, r, read => by cases read
  | fuel + 1, text, r, read => by
    rw [readMembers] at read
    obtain ⟨name, named, read⟩ := Option.bind_eq_some_iff.mp read
    obtain ⟨value, valued, next⟩ := Option.bind_eq_some_iff.mp read
    have colon := size_readName named
    obtain ⟨first, string⟩ := size_readValue fuel name.2 value valued
    split at next
    · rename_i rest separator
      have second := size_of_skipSpace separator
      obtain ⟨members, later, rfl⟩ := Option.map_eq_some_iff.mp next
      obtain ⟨shorter, strings⟩ := size_readMembers fuel rest members later
      refine ⟨by dsimp only; omega, fun other s member => ?_⟩
      rcases List.mem_cons.mp member with same | member
      · have here := string s (congrArg Prod.snd same).symm
        omega
      · have there := strings other s member
        omega
    · rename_i rest separator
      have second := size_of_skipSpace separator
      cases next
      refine ⟨by dsimp only; omega, fun other s member => ?_⟩
      have here := string s (congrArg Prod.snd (List.mem_singleton.mp member)).symm
      omega
    · cases next

end

theorem mem_of_member {members : List (String × Json)} {name : String} {value : Json}
    (found : member members name = some value) : (name, value) ∈ members := by
  obtain ⟨entry, located, rfl⟩ := Option.map_eq_some_iff.mp found
  have same : entry.1 = name := by simpa using List.find?_some located
  exact same ▸ List.mem_of_find?_eq_some located

/-- A string member of a parsed object is shorter than the text. -/
theorem size_member_lt {text : String} {members : List (String × Json)} {name s : String}
    (parsed : parse text = some (.object members)) (found : member members name = some (.string s)) :
    size s.toList < size text.toList := by
  obtain ⟨r, read, whole⟩ := Option.bind_eq_some_iff.mp parsed
  split at whole
  · rw [Option.some.injEq] at whole
    have listed := mem_of_member found
    generalize text.toList.length = fuel at read
    cases fuel with
    | zero => cases read
    | succ fuel =>
      rw [readValue] at read
      split at read
      · obtain ⟨literal, -, rfl⟩ := Option.map_eq_some_iff.mp read
        cases whole
      · split at read
        · cases read
          cases whole
        · obtain ⟨items, -, rfl⟩ := Option.map_eq_some_iff.mp read
          cases whole
      · rename_i rest starts
        have first := size_of_skipSpace starts
        split at read
        · cases read
          cases whole
          cases listed
        · obtain ⟨entries, later, rfl⟩ := Option.map_eq_some_iff.mp read
          cases whole
          have shorter := (size_readMembers fuel rest entries later).2 name s
            (OrderedMap.mem_of_mem_ofEntries listed)
          omega
      · exact absurd whole ((size_readWord read).2.2 members)
  · cases whole

end Size

end MessagingSystem.Foundation.Json
