import MessagingSystem.Foundation.UrlPath
import MessagingSystem.Source.Client.MediaPublicUrl

/-!
# The segments that `encodeURIComponent` makes

An encoded segment has no character that ends a segment, a path or a query, it is
a dot segment only if the text is one, and it stands for one text.
-/
namespace MessagingSystem.Source.Client
open Foundation UrlPath

/-- The characters that stand for one character. -/
def encodeOne (c : Char) : List Char :=
  if isUnescaped c then [c] else (TextCoding.encodeChar c).flatMap percentByte

/-- `encodeURIComponent` on characters. -/
def encodeSegment (segment : List Char) : List Char := segment.flatMap encodeOne

theorem encodeURIComponent_toList (s : String) : (encodeURIComponent s).toList = encodeSegment s.toList := by
  unfold encodeURIComponent
  rw [String.toList_ofList]
  rfl

section Bytes

/-- The value of a hexadecimal digit. -/
def hexValue (c : Char) : Nat :=
  if '0' ≤ c ∧ c ≤ '9' then c.toNat - 48 else c.toNat - 55

theorem digit_reads : ∀ n : Fin 16, hexValue (Nat.digitChar n.val).toUpper = n.val := by decide

theorem digit_plain : ∀ n : Fin 16, (Nat.digitChar n.val).toUpper ∉ ['/', '?', '#'] := by decide

theorem digit_lower : ∀ n : Fin 16, (Nat.digitChar n.val).toUpper.toLower = Nat.digitChar n.val := by decide

/-- The two digits of a byte. -/
def highDigit (b : UInt8) : Fin 16 := ⟨b.toNat / 16, by have := b.toNat_lt; omega⟩

def lowDigit (b : UInt8) : Fin 16 := ⟨b.toNat % 16, by omega⟩

theorem percentByte_eq (b : UInt8) :
    percentByte b = ['%', (Nat.digitChar (highDigit b).val).toUpper, (Nat.digitChar (lowDigit b).val).toUpper] := rfl

/-- The bytes that encoded characters stand for. -/
def percentDecode : List Char → List UInt8
  | '%' :: high :: low :: rest => UInt8.ofNat (16 * hexValue high + hexValue low) :: percentDecode rest
  | c :: rest => UInt8.ofNat c.toNat :: percentDecode rest
  | [] => []

theorem percentDecode_percentByte (b : UInt8) (rest : List Char) :
    percentDecode (percentByte b ++ rest) = b :: percentDecode rest := by
  rw [percentByte_eq, List.cons_append, List.cons_append, List.cons_append, List.nil_append, percentDecode,
    digit_reads, digit_reads]
  have value : 16 * (highDigit b).val + (lowDigit b).val = b.toNat := Nat.div_add_mod b.toNat 16
  rw [value, UInt8.ofNat_toNat]

theorem percentDecode_bytes (bytes : List UInt8) (rest : List Char) :
    percentDecode (bytes.flatMap percentByte ++ rest) = bytes ++ percentDecode rest := by
  induction bytes with
  | nil => rfl
  | cons b bytes ih =>
    rw [List.flatMap_cons, List.append_assoc, percentDecode_percentByte, ih, List.cons_append]

end Bytes

section Characters

variable {c : Char}

theorem unescaped_ascii (unescaped : isUnescaped c = true) : c.toNat < 128 ∧ c ≠ '%' := by
  unfold isUnescaped at unescaped
  rw [Bool.or_eq_true] at unescaped
  rcases unescaped with letter | mark
  · constructor
    · have shape : ((decide ('A'.val ≤ c.val ∧ c.val ≤ 'Z'.val) ||
          (decide ('a'.val ≤ c.val) && decide (c.val ≤ 'z'.val))) ||
          (decide ('0'.val ≤ c.val) && decide (c.val ≤ '9'.val))) = true := letter
      simp only [Bool.or_eq_true, Bool.and_eq_true, decide_eq_true_eq] at shape
      have bounds : c.val.toNat < 128 := by
        rcases shape with (⟨-, upper⟩ | ⟨-, lower⟩) | ⟨-, digit⟩
        · exact lt_of_le_of_lt upper (by decide)
        · exact lt_of_le_of_lt lower (by decide)
        · exact lt_of_le_of_lt digit (by decide)
      exact bounds
    · rintro rfl
      exact absurd letter (by decide)
  · have marks : ("-_.!~*'()".toList.all fun d => decide (d.toNat < 128 ∧ d ≠ '%')) = true := by decide
    exact of_decide_eq_true (List.all_eq_true.mp marks c (List.contains_iff_mem.mp mark))

theorem percentDecode_unescaped (unescaped : isUnescaped c = true) (rest : List Char) :
    percentDecode (c :: rest) = TextCoding.encodeChar c ++ percentDecode rest := by
  obtain ⟨ascii, sign⟩ := unescaped_ascii unescaped
  have bytes : TextCoding.encodeChar c = [UInt8.ofNat c.toNat] := if_pos ascii
  rw [bytes, List.singleton_append]
  rw [percentDecode.eq_2]
  intro high low more same
  exact absurd same sign

theorem percentDecode_encodeOne (c : Char) (rest : List Char) :
    percentDecode (encodeOne c ++ rest) = TextCoding.encodeChar c ++ percentDecode rest := by
  unfold encodeOne
  by_cases unescaped : isUnescaped c = true
  · rw [if_pos unescaped, List.singleton_append]
    exact percentDecode_unescaped unescaped rest
  · rw [if_neg unescaped]
    exact percentDecode_bytes _ rest

/-- Decoding an encoded segment gives its text. -/
theorem encodeSegment_injective : Function.Injective encodeSegment := by
  have decodes (segment : List Char) : percentDecode (encodeSegment segment) =
      segment.flatMap TextCoding.encodeChar := by
    induction segment with
    | nil => rfl
    | cons c rest ih =>
      unfold encodeSegment at ih ⊢
      rw [List.flatMap_cons, percentDecode_encodeOne, ih, List.flatMap_cons]
  intro first second same
  have bytes := (decodes first).symm.trans ((congrArg percentDecode same).trans (decodes second))
  rw [← TextCoding.decodeFrom_encode first, bytes, TextCoding.decodeFrom_encode]

end Characters

section Dots

variable {c : Char} {segment : List Char}

/-- The characters that are no letters are those of the same lower case. -/
theorem eq_of_toLower {d : Char} (lower : c.toLower = d) (mark : d.toNat < 97) : c = d := by
  unfold Char.toLower at lower
  split at lower
  · rename_i letter
    have value : c.toNat + 32 = d.toNat := by
      rw [← lower]
      have bound : c.val.toNat ≤ 90 := letter.2
      show c.val.toNat + 32 = (c.val + 32).toNat
      rw [UInt32.toNat_add]
      have small : (32 : UInt32).toNat = 32 := rfl
      omega
    have first : 65 ≤ c.toNat := letter.1
    omega
  · exact lower

/-- A byte that is written `%2e` is a dot, which is not escaped. -/
theorem encodeOne_escaped (escaped : ¬ isUnescaped c = true) :
    ∃ b rest, encodeOne c = percentByte b ++ rest ∧ b ≠ 46 := by
  have unescapedDot : c ≠ '.' := by
    rintro rfl
    exact escaped (by decide)
  unfold encodeOne TextCoding.encodeChar
  rw [if_neg escaped]
  dsimp only
  have valid := TextCoding.toNat_valid c
  have apart (n : Nat) (bound : n < 256) (other : n ≠ 46) : UInt8.ofNat n ≠ 46 := by
    intro same
    have numbers := congrArg UInt8.toNat same
    rw [UInt8.toNat_ofNat_of_lt' bound] at numbers
    exact other numbers
  split
  · rename_i ascii
    have other : c.toNat ≠ 46 := fun same => unescapedDot (Char.toNat_inj.mp same)
    exact ⟨_, [], rfl, apart _ (by omega) other⟩
  · split
    · exact ⟨_, _, rfl, apart _ (by omega) (by omega)⟩
    · split
      · exact ⟨_, _, rfl, apart _ (by omega) (by omega)⟩
      · exact ⟨_, _, rfl, apart _ (by omega) (by omega)⟩

theorem encodeOne_ne_nil (c : Char) : encodeOne c ≠ [] := by
  by_cases unescaped : isUnescaped c = true
  · rw [encodeOne, if_pos unescaped]
    exact List.cons_ne_nil _ _
  · obtain ⟨b, more, bytes, -⟩ := encodeOne_escaped unescaped
    rw [bytes, percentByte_eq]
    exact List.cons_ne_nil _ _

theorem lower_dot_cons {rest tail : List Char}
    (lower : (encodeOne c ++ rest).map Char.toLower = '.' :: tail) : c = '.' ∧ rest.map Char.toLower = tail := by
  by_cases unescaped : isUnescaped c = true
  · have one : encodeOne c = [c] := if_pos unescaped
    rw [one, List.singleton_append, List.map_cons] at lower
    obtain ⟨head, tails⟩ := List.cons.inj lower
    exact ⟨eq_of_toLower head (by decide), tails⟩
  · obtain ⟨b, more, bytes, -⟩ := encodeOne_escaped unescaped
    rw [bytes, percentByte_eq] at lower
    cases (List.cons.inj lower).1

theorem lower_escape_ne {rest tail : List Char} :
    (encodeOne c ++ rest).map Char.toLower ≠ '%' :: '2' :: 'e' :: tail := by
  intro lower
  by_cases unescaped : isUnescaped c = true
  · have one : encodeOne c = [c] := if_pos unescaped
    rw [one, List.singleton_append, List.map_cons] at lower
    exact (unescaped_ascii unescaped).2 (eq_of_toLower (List.cons.inj lower).1 (by decide))
  · obtain ⟨b, more, bytes, other⟩ := encodeOne_escaped unescaped
    rw [bytes, percentByte_eq] at lower
    simp only [List.cons_append, List.map_cons, digit_lower, List.cons.injEq] at lower
    have digits : ∀ high low : Fin 16, Nat.digitChar high.val = '2' → Nat.digitChar low.val = 'e' →
        high.val = 2 ∧ low.val = 14 := by decide
    obtain ⟨high, low⟩ := digits _ _ lower.2.1 lower.2.2.1
    have value : b.toNat = 46 := by
      have parts : 16 * (highDigit b).val + (lowDigit b).val = b.toNat := Nat.div_add_mod b.toNat 16
      omega
    exact other (UInt8.toNat_inj.mp value)

theorem isSingleDot_encodeSegment (segment : List Char) :
    isSingleDot (encodeSegment segment) = decide (segment = ['.']) := by
  unfold isSingleDot
  apply decide_eq_decide.mpr
  constructor
  · intro dot
    cases segment with
    | nil => exact absurd dot (by decide)
    | cons c rest =>
      unfold encodeSegment at dot
      rw [List.flatMap_cons] at dot
      rcases List.mem_pair.mp dot with plain | escaped
      · obtain ⟨rfl, nothing⟩ := lower_dot_cons plain
        cases rest with
        | nil => rfl
        | cons d more =>
          have none : encodeOne d = [] := by
            rw [List.map_eq_nil_iff, List.flatMap_cons] at nothing
            exact (List.append_eq_nil_iff.mp nothing).1
          exact absurd none (encodeOne_ne_nil d)
      · exact absurd escaped lower_escape_ne
  · rintro rfl
    decide

theorem isDoubleDot_encodeSegment (segment : List Char) :
    isDoubleDot (encodeSegment segment) = decide (segment = ['.', '.']) := by
  unfold isDoubleDot
  apply decide_eq_decide.mpr
  constructor
  · intro dots
    cases segment with
    | nil => exact absurd dots (by decide)
    | cons c rest =>
      unfold encodeSegment at dots
      rw [List.flatMap_cons] at dots
      have single : isSingleDot (encodeSegment rest) = true → c = '.' → c :: rest = ['.', '.'] := by
        intro last first
        rw [isSingleDot_encodeSegment] at last
        rw [first, of_decide_eq_true last]
      simp only [List.mem_cons, List.not_mem_nil, or_false] at dots
      rcases dots with plain | escaped | escaped | escaped
      · obtain ⟨first, last⟩ := lower_dot_cons plain
        exact single (decide_eq_true (List.mem_cons.mpr (.inl last))) first
      · obtain ⟨first, last⟩ := lower_dot_cons escaped
        exact single (decide_eq_true (List.mem_cons_of_mem _ (List.mem_singleton.mpr last))) first
      · exact absurd escaped lower_escape_ne
      · exact absurd escaped lower_escape_ne
  · rintro rfl
    decide

/-- An encoded segment ends no segment, no path and no query. -/
theorem encodeSegment_plain {mark : Char} (reserved : mark ∈ ['/', '?', '#']) (segment : List Char) :
    mark ∉ encodeSegment segment := by
  unfold encodeSegment
  intro inside
  obtain ⟨c, -, among⟩ := List.mem_flatMap.mp inside
  unfold encodeOne at among
  split at among
  · rename_i unescaped
    rw [List.mem_singleton.mp among] at reserved
    have escaped : (['/', '?', '#'].all fun d => !isUnescaped d) = true := by decide
    have refused := List.all_eq_true.mp escaped c reserved
    rw [unescaped] at refused
    cases refused
  · obtain ⟨b, -, digits⟩ := List.mem_flatMap.mp among
    rw [percentByte_eq] at digits
    simp only [List.mem_cons, List.not_mem_nil, or_false] at digits
    rcases digits with same | same | same
    · rw [same] at reserved
      exact absurd reserved (by decide)
    · exact digit_plain (highDigit b) (same ▸ reserved)
    · exact digit_plain (lowDigit b) (same ▸ reserved)

end Dots

end MessagingSystem.Source.Client
