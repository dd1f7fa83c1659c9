import MessagingSystem.Foundation.EcmaText

/-!
# Numbers in text

`Number.parseInt` with radix 10, the JSON grammar of a number, the Web IDL
conversion of a number to `[EnforceRange] unsigned long`, and `String(x)` of a
number. The value of a literal is exact in the conversion where an engine rounds it
to the nearest double; the comparison with 1 and the text round.
-/
namespace MessagingSystem.Foundation.EcmaNumber

/-- The value of the digits the text begins with, if any. -/
def leadingDigits (cs : List Char) : Option Nat :=
  let digits := cs.takeWhile Char.isDigit
  if digits = [] then none else some (Nat.ofDigitChars 10 digits 0)

/-- `Number.parseInt(s, 10)`, `NaN` being `none`. -/
def parseInt (s : String) : Option Int :=
  match s.toList.dropWhile EcmaText.isSpace with
  | '-' :: rest => (leadingDigits rest).map fun n => -(n : Int)
  | '+' :: rest => (leadingDigits rest).map Int.ofNat
  | rest => (leadingDigits rest).map Int.ofNat

/-- A number literal, taken apart. -/
structure Literal where
  negative : Bool
  whole : List Char
  fraction : List Char
  exponent : Int

/-- The digits after the point, and what follows them. -/
def readFraction : List Char → Option (List Char × List Char)
  | '.' :: rest =>
      if rest.takeWhile Char.isDigit = [] then none
      else some (rest.takeWhile Char.isDigit, rest.dropWhile Char.isDigit)
  | rest => some ([], rest)

/-- The exponent a literal ends with. -/
def readExponent : List Char → Option Int
  | [] => some 0
  | e :: rest =>
      let negative := rest.head? = some '-'
      let digits := if negative ∨ rest.head? = some '+' then rest.tail else rest
      if (e = 'e' ∨ e = 'E') ∧ digits ≠ [] ∧ digits.all Char.isDigit then
        let n : Int := Nat.ofDigitChars 10 digits 0
        some (if negative then -n else n)
      else none

/-- The JSON grammar of a number. -/
def readLiteral (cs : List Char) : Option Literal :=
  let negative := cs.head? = some '-'
  let unsigned := if negative then cs.tail else cs
  let whole := unsigned.takeWhile Char.isDigit
  if whole = ['0'] ∨ (whole ≠ [] ∧ whole.head? ≠ some '0') then
    (readFraction (unsigned.dropWhile Char.isDigit)).bind fun f =>
      (readExponent f.2).map fun exponent => ⟨negative, whole, f.1, exponent⟩
  else none

/-- The absolute value of a literal, without its fraction. -/
def Literal.magnitude (l : Literal) : Nat :=
  let mantissa := Nat.ofDigitChars 10 (l.whole ++ l.fraction) 0
  let scale := l.exponent - l.fraction.length
  if 0 ≤ scale then mantissa * Nat.pow 10 scale.toNat else mantissa / Nat.pow 10 (-scale).toNat

/-- The conversion of a number to `[EnforceRange] unsigned long`; `none` is a `TypeError`. -/
def unsignedLong (literal : String) : Option Nat :=
  (readLiteral literal.toList).bind fun l =>
    if (l.negative ∧ l.magnitude ≠ 0) ∨ 4294967295 < l.magnitude then none else some l.magnitude

/-- The nearest integer of a quotient, ties to the even one. -/
def roundQuotient (up down : Nat) : Nat :=
  let low := up / down
  let above := 2 * (up % down)
  if above < down ∨ (above = down ∧ low % 2 = 0) then low else low + 1

/-- The nearest double of a natural number, ties to the even mantissa; `Infinity` is `none`. -/
def nearestDouble (n : Nat) : Option Nat :=
  let step := Nat.pow 2 (n.log2 - 52)
  let value := roundQuotient n step * step
  if value.log2 < 1024 then some value else none

/-- The nearest double of a literal is 1: the value lies between the midpoints
below and above 1, where ties go to the even mantissa of 1. -/
def Literal.isOne (l : Literal) : Bool :=
  let mantissa := Nat.ofDigitChars 10 (l.whole ++ l.fraction) 0
  let scale := l.exponent - l.fraction.length
  let up := Nat.pow 10 scale.toNat
  let down := Nat.pow 10 (-scale).toNat
  !l.negative && decide ((Nat.pow 2 54 - 1) * down ≤ Nat.pow 2 54 * (mantissa * up)) &&
    decide (Nat.pow 2 53 * (mantissa * up) ≤ (Nat.pow 2 53 + 1) * down)

/-- `x === 1` for a number with this literal. -/
def isOne (literal : String) : Bool := (readLiteral literal.toList).any Literal.isOne

section Text

/-- The nearest double of the quotient, as a quotient; `Infinity` is `none`. -/
def nearestQuotient (up down : Nat) : Option (Nat × Nat) :=
  let size : Int := up.log2 - down.log2
  let reached := Nat.pow 2 size.toNat * down ≤ up * Nat.pow 2 (-size).toNat
  let exponent := max ((if reached then size else size - 1) - 52) (-1074)
  let mantissa := roundQuotient (up * Nat.pow 2 (-exponent).toNat) (down * Nat.pow 2 exponent.toNat)
  let value := (mantissa * Nat.pow 2 exponent.toNat, Nat.pow 2 (-exponent).toNat)
  if value.1 / value.2 < Nat.pow 2 1024 then some value else none

/-- How many digits the quotient has before its point; as many as it lacks after the point are negative. -/
def wholeDigits (x : Nat × Nat) : Int :=
  if x.2 ≤ x.1 then (Nat.toDigits 10 (x.1 / x.2)).length
  else -(((List.range 400).find? fun zeros => x.2 ≤ x.1 * Nat.pow 10 (zeros + 1)).getD 0 : Nat)

/-- The decimal `s * 10 ^ p` with the fewest digits whose nearest double is `x`, the nearest of those. -/
def shortestDecimal (x : Nat × Nat) : Nat × Int :=
  let rounds (s : Nat) (p : Int) : Bool :=
    (nearestQuotient (s * Nat.pow 10 p.toNat) (Nat.pow 10 (-p).toNat)).any fun y => x.1 * y.2 = y.1 * x.2
  let withDigits (k : Nat) : Option (Nat × Int) :=
    let p := wholeDigits x - k
    let up := x.1 * Nat.pow 10 (-p).toNat
    let down := x.2 * Nat.pow 10 p.toNat
    ([roundQuotient up down, up / down, up / down + 1].find? fun s => rounds s p).map fun s => (s, p)
  ((List.range 17).findSome? fun i => withDigits (i + 1)).getD (0, 0)

/-- `Number::toString` of a positive double: plain from `1e-6` to below `1e21`, else with an exponent. -/
def positiveText (x : Nat × Nat) : List Char :=
  let s := (shortestDecimal x).1
  let digits := ((Nat.toDigits 10 s).reverse.dropWhile fun c => c = '0').reverse
  let n := (shortestDecimal x).2 + (Nat.toDigits 10 s).length
  let zeros (count : Int) := List.replicate count.toNat '0'
  if digits.length ≤ n ∧ n ≤ 21 then digits ++ zeros (n - digits.length)
  else if 0 < n ∧ n ≤ 21 then digits.take n.toNat ++ '.' :: digits.drop n.toNat
  else if -6 < n ∧ n ≤ 0 then '0' :: '.' :: zeros (-n) ++ digits
  else
    digits.take 1 ++ (if digits.length = 1 then [] else '.' :: digits.drop 1) ++
      ('e' :: (if n ≤ 0 then '-' else '+') :: Nat.toDigits 10 (n - 1).natAbs)

def Literal.text (l : Literal) : String :=
  let mantissa := Nat.ofDigitChars 10 (l.whole ++ l.fraction) 0
  let scale := l.exponent - l.fraction.length
  let sign := if l.negative then "-" else ""
  match nearestQuotient (mantissa * Nat.pow 10 scale.toNat) (Nat.pow 10 (-scale).toNat) with
  | none => sign ++ "Infinity"
  | some x => if x.1 = 0 then "0" else sign ++ String.ofList (positiveText x)

/-- `String(x)` for a number with this literal. -/
def numberText (literal : String) : String := (readLiteral literal.toList).elim literal Literal.text

end Text

section Decimal

theorem toList_toString (n : Nat) : (toString n).toList = Nat.toDigits 10 n := by
  rw [Nat.toString_eq_ofList_toDigits, String.toList_ofList]

theorem isDigit_toDigits {n : Nat} {c : Char} (member : c ∈ Nat.toDigits 10 n) : c.isDigit = true :=
  Nat.isDigit_of_mem_toDigits (by decide) (by decide) member

/-- A decimal begins with no other digit than its own, and with 0 only if it is 0. -/
theorem head_toDigits (n : Nat) :
    ∃ c rest, Nat.toDigits 10 n = c :: rest ∧ c.isDigit = true ∧ (c = '0' → rest = []) := by
  induction n using Nat.strongRecOn with
  | _ n ih =>
    by_cases small : n < 10
    · refine ⟨n.digitChar, [], Nat.toDigits_of_lt_base small, ?_, fun _ => rfl⟩
      apply @isDigit_toDigits n
      rw [Nat.toDigits_of_lt_base small]
      exact List.mem_singleton.mpr rfl
    · obtain ⟨c, rest, digits, digit, zero⟩ := ih (n / 10) (by omega)
      refine ⟨c, rest ++ [(n % 10).digitChar], ?_, digit, fun first => ?_⟩
      · rw [Nat.toDigits_of_base_le (by decide) (by omega), digits, List.cons_append]
      · -- a quotient that is written '0' is zero, and `n` is at least ten
        rw [zero first, first] at digits
        have value := @Nat.ofDigitChars_ten_toDigits (n / 10)
        rw [digits] at value
        have none : Nat.ofDigitChars 10 ['0'] 0 = 0 := by decide
        omega

theorem takeWhile_toDigits (n : Nat) {rest : List Char} (stop : ∀ c, rest.head? = some c → c.isDigit = false) :
    (Nat.toDigits 10 n ++ rest).takeWhile Char.isDigit = Nat.toDigits 10 n ∧
      (Nat.toDigits 10 n ++ rest).dropWhile Char.isDigit = rest := by
  have digits : ∀ c ∈ Nat.toDigits 10 n, c.isDigit = true := fun c member => isDigit_toDigits member
  rw [List.takeWhile_append_of_pos digits, List.dropWhile_append_of_pos digits]
  cases rest with
  | nil => exact ⟨by simp, rfl⟩
  | cons c rest =>
    have no := stop c rfl
    simp [no]

theorem leadingDigits_toDigits (n : Nat) : leadingDigits (Nat.toDigits 10 n) = some n := by
  obtain ⟨taken, -⟩ := @takeWhile_toDigits n [] (fun c none => by cases none)
  rw [List.append_nil] at taken
  unfold leadingDigits
  rw [taken, if_neg Nat.toDigits_ne_nil, Nat.ofDigitChars_ten_toDigits]

theorem isSpace_of_isDigit {c : Char} (digit : c.isDigit = true) :
    EcmaText.isSpace c = false ∧ c ≠ '-' ∧ c ≠ '+' := by
  have range : 48 ≤ c.toNat ∧ c.toNat ≤ 57 := by
    rw [Char.isDigit, Bool.and_eq_true, decide_eq_true_eq, decide_eq_true_eq] at digit
    exact digit
  refine ⟨?_, ?_, ?_⟩
  · cases space : EcmaText.isSpace c with
    | false => rfl
    | true =>
      simp [EcmaText.isSpace] at space
      omega
  · rintro rfl
    exact absurd range (by decide)
  · rintro rfl
    exact absurd range (by decide)

theorem parseInt_toString (n : Nat) : parseInt (toString n) = some (n : Int) := by
  obtain ⟨c, rest, digits, digit, -⟩ := head_toDigits n
  obtain ⟨space, minus, plus⟩ := isSpace_of_isDigit digit
  have body : (toString n).toList.dropWhile EcmaText.isSpace = Nat.toDigits 10 n := by
    rw [toList_toString, digits, List.dropWhile_cons_of_neg (by simp [space])]
  have leading := leadingDigits_toDigits n
  unfold parseInt
  rw [body]
  rw [digits] at leading ⊢
  split
  · rename_i same
    exact absurd (List.cons.inj same).1 minus
  · rename_i same
    exact absurd (List.cons.inj same).1 plus
  · rw [leading]
    rfl

/-- A decimal is a literal. -/
theorem readLiteral_toString (n : Nat) :
    readLiteral (toString n).toList = some ⟨false, Nat.toDigits 10 n, [], 0⟩ := by
  obtain ⟨c, rest, digits, digit, zero⟩ := head_toDigits n
  obtain ⟨-, minus, -⟩ := isSpace_of_isDigit digit
  obtain ⟨taken, dropped⟩ := @takeWhile_toDigits n [] (fun c none => by cases none)
  rw [List.append_nil] at taken dropped
  have positive : (Nat.toDigits 10 n).head? ≠ some '-' := by
    rw [digits]
    simpa using minus
  have canonical : Nat.toDigits 10 n = ['0'] ∨
      (Nat.toDigits 10 n ≠ [] ∧ (Nat.toDigits 10 n).head? ≠ some '0') := by
    rw [digits]
    by_cases first : c = '0'
    · left
      rw [zero first, first]
    · right
      exact ⟨by simp, by simpa using first⟩
  unfold readLiteral
  rw [toList_toString]
  simp only [positive, if_false, taken, dropped, canonical, if_true, readFraction, Option.bind_some,
    readExponent, Option.map_some, decide_false]

theorem unsignedLong_toString {n : Nat} (small : n ≤ 4294967295) : unsignedLong (toString n) = some n := by
  have value : (⟨false, Nat.toDigits 10 n, [], 0⟩ : Literal).magnitude = n := by
    simp [Literal.magnitude, Nat.ofDigitChars_ten_toDigits]
  have inside : ¬ 4294967295 < n := by omega
  unfold unsignedLong
  rw [readLiteral_toString, Option.bind_some, value]
  simp [inside]

end Decimal

/-- Up to 53 bits a number is a double. -/
theorem nearestDouble_small {n : Nat} (small : n < Nat.pow 2 53) : nearestDouble n = some n := by
  have bits : n.log2 < 53 := by
    by_cases zero : n = 0
    · subst zero
      decide
    · exact (Nat.log2_lt zero).mpr small
  have exact : n.log2 - 52 = 0 := by omega
  have step : Nat.pow 2 0 = 1 := rfl
  have finite : n.log2 < 1024 := by omega
  unfold nearestDouble roundQuotient
  rw [exact]
  simp only [step, Nat.div_one, Nat.mod_one, Nat.mul_zero, Nat.zero_lt_one, true_or, if_true, Nat.mul_one, finite]

end MessagingSystem.Foundation.EcmaNumber
