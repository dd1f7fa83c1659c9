import Mathlib.Data.List.Basic
import MessagingSystem.Foundation.EcmaText

/-!
# Base64

`btoa` on bytes and `atob` with its forgiving decoding: ASCII whitespace is
dropped, padding is optional and the bits that do not fill a byte are ignored.
-/
namespace MessagingSystem.Foundation.Base64

/-- The digit of a sextet. -/
def digit (n : Nat) : Char :=
  if n < 26 then Char.ofNat (65 + n)
  else if n < 52 then Char.ofNat (71 + n)
  else if n < 62 then Char.ofNat (n - 4)
  else if n = 62 then '+' else '/'

/-- The sextet of a digit. -/
def value (c : Char) : Option Nat :=
  let n := c.toNat
  if 65 ≤ n ∧ n ≤ 90 then some (n - 65)
  else if 97 ≤ n ∧ n ≤ 122 then some (n - 71)
  else if 48 ≤ n ∧ n ≤ 57 then some (n + 4)
  else if c = '+' then some 62
  else if c = '/' then some 63
  else none

def toSextets : List UInt8 → List Nat
  | a :: b :: c :: rest =>
      a.toNat / 4 :: (a.toNat % 4 * 16 + b.toNat / 16) :: (b.toNat % 16 * 4 + c.toNat / 64) ::
        c.toNat % 64 :: toSextets rest
  | [a, b] => [a.toNat / 4, a.toNat % 4 * 16 + b.toNat / 16, b.toNat % 16 * 4]
  | [a] => [a.toNat / 4, a.toNat % 4 * 16]
  | [] => []

def fromSextets : List Nat → Option (List UInt8)
  | p :: q :: r :: s :: rest =>
      (fromSextets rest).map fun bytes =>
        UInt8.ofNat (p * 4 + q / 16) :: UInt8.ofNat (q % 16 * 16 + r / 4) ::
          UInt8.ofNat (r % 4 * 64 + s) :: bytes
  | [p, q, r] => some [UInt8.ofNat (p * 4 + q / 16), UInt8.ofNat (q % 16 * 16 + r / 4)]
  | [p, q] => some [UInt8.ofNat (p * 4 + q / 16)]
  | [_] => none
  | [] => some []

/-- The number of `=` after the digits of a byte string. -/
def padding (bytes : List UInt8) : Nat := (3 - bytes.length % 3) % 3

def encodeChars (bytes : List UInt8) : List Char :=
  (toSextets bytes).map digit ++ List.replicate (padding bytes) '='

/-- `btoa`. -/
def encode (bytes : List UInt8) : String := String.ofList (encodeChars bytes)

def isAsciiWhitespace (c : Char) : Bool :=
  c = '\t' || c = '\n' || c.toNat = 0xC || c = '\r' || c = ' '

/-- One or two `=` are removed from a text whose length is a multiple of four. -/
def stripPadding (cs : List Char) : List Char :=
  if cs.length % 4 = 0 then
    match cs.reverse with
    | '=' :: '=' :: rest => rest.reverse
    | '=' :: rest => rest.reverse
    | _ => cs
  else cs

/-- `atob`; `none` is its `InvalidCharacterError`. -/
def decode (s : String) : Option (List UInt8) :=
  ((stripPadding (s.toList.filter fun c => !isAsciiWhitespace c)).mapM value).bind fromSextets

section RoundTrip

theorem fromSextets_toSextets (bytes : List UInt8) : fromSextets (toSextets bytes) = some bytes := by
  induction bytes using toSextets.induct with
  | case1 a b c rest ih =>
    have ha := a.toNat_lt
    have hb := b.toNat_lt
    have hc := c.toNat_lt
    simp only [toSextets, fromSextets, ih, Option.map_some, Option.some.injEq, List.cons.injEq,
      and_true]
    refine ⟨?_, ?_, ?_⟩ <;> refine UInt8.toNat_inj.mp ?_ <;>
      rw [UInt8.toNat_ofNat'] <;> omega
  | case2 a b =>
    have ha := a.toNat_lt
    have hb := b.toNat_lt
    simp only [toSextets, fromSextets, Option.some.injEq, List.cons.injEq, and_true]
    refine ⟨?_, ?_⟩ <;> refine UInt8.toNat_inj.mp ?_ <;> rw [UInt8.toNat_ofNat'] <;> omega
  | case3 a =>
    have ha := a.toNat_lt
    simp only [toSextets, fromSextets, Option.some.injEq, List.cons.injEq, and_true]
    refine UInt8.toNat_inj.mp ?_
    rw [UInt8.toNat_ofNat']
    omega
  | case4 => rfl

theorem toSextets_lt (bytes : List UInt8) : ∀ n ∈ toSextets bytes, n < 64 := by
  induction bytes using toSextets.induct with
  | case1 a b c rest ih =>
    have ha := a.toNat_lt
    have hb := b.toNat_lt
    have hc := c.toNat_lt
    simp only [toSextets, List.mem_cons, forall_eq_or_imp]
    exact ⟨by omega, by omega, by omega, by omega, ih⟩
  | case2 a b =>
    have ha := a.toNat_lt
    have hb := b.toNat_lt
    simp only [toSextets, List.mem_cons, List.not_mem_nil, or_false, forall_eq_or_imp, forall_eq]
    omega
  | case3 a =>
    have ha := a.toNat_lt
    simp only [toSextets, List.mem_cons, List.not_mem_nil, or_false, forall_eq_or_imp, forall_eq]
    omega
  | case4 => simp [toSextets]

theorem length_toSextets (bytes : List UInt8) :
    ((toSextets bytes).length + padding bytes) % 4 = 0 := by
  induction bytes using toSextets.induct with
  | case1 a b c rest ih =>
    simp only [toSextets, padding, List.length_cons] at ih ⊢
    omega
  | case2 a b => simp [toSextets, padding]
  | case3 a => simp [toSextets, padding]
  | case4 => rfl

theorem value_digit : ∀ n < 64, value (digit n) = some n := by decide

theorem digit_plain : ∀ n < 64, digit n ≠ '=' ∧ EcmaText.isSpace (digit n) = false ∧
    isAsciiWhitespace (digit n) = false := by decide

/-- The padding is all that stripping removes. -/
theorem stripPadding_encodeChars (bytes : List UInt8) :
    stripPadding (encodeChars bytes) = (toSextets bytes).map digit := by
  have length : (encodeChars bytes).length % 4 = 0 := by
    simpa [encodeChars] using length_toSextets bytes
  have plain : ∀ c ∈ ((toSextets bytes).map digit).reverse, c ≠ '=' := by
    intro c member
    obtain ⟨n, hn, rfl⟩ := List.mem_map.mp (List.mem_reverse.mp member)
    exact (digit_plain n (toSextets_lt bytes n hn)).1
  have pad : padding bytes < 3 := Nat.mod_lt _ (by decide)
  rw [stripPadding, if_pos length]
  unfold encodeChars
  rw [List.reverse_append, List.reverse_replicate]
  generalize (toSextets bytes).map digit = digits at plain ⊢
  have whole : digits.reverse.reverse = digits := List.reverse_reverse digits
  generalize digits.reverse = reversed at plain whole ⊢
  obtain none | one | two : padding bytes = 0 ∨ padding bytes = 1 ∨ padding bytes = 2 := by omega
  · rw [none]
    cases reversed with
    | nil => simp
    | cons c rest => simp [plain c (by simp)]
  · rw [one]
    cases reversed with
    | nil => simp [← whole]
    | cons c rest => simp [plain c (by simp), ← whole]
  · rw [two]
    simp [← whole]

theorem mapM_value {ns : List Nat} (small : ∀ n ∈ ns, n < 64) :
    (ns.map digit).mapM value = some ns := by
  induction ns with
  | nil => rfl
  | cons n rest ih =>
    simp [value_digit n (small n (by simp)), ih fun m hm => small m (by simp [hm])]

theorem encodeChars_plain (bytes : List UInt8) : ∀ c ∈ encodeChars bytes,
    EcmaText.isSpace c = false ∧ isAsciiWhitespace c = false := by
  intro c member
  rcases List.mem_append.mp member with member | member
  · obtain ⟨n, hn, rfl⟩ := List.mem_map.mp member
    exact (digit_plain n (toSextets_lt bytes n hn)).2
  · obtain rfl := (List.mem_replicate.mp member).2
    decide

theorem trimmed_encode (bytes : List UInt8) : EcmaText.Trimmed (encode bytes) := by
  refine EcmaText.trimmed_of_plain fun c member => ?_
  rw [encode, String.toList_ofList] at member
  exact (encodeChars_plain bytes c member).1

/-- Decoding undoes encoding. -/
theorem decode_encode (bytes : List UInt8) : decode (encode bytes) = some bytes := by
  have kept : (encodeChars bytes).filter (fun c => !isAsciiWhitespace c) = encodeChars bytes :=
    List.filter_eq_self.mpr fun c member => by simp [(encodeChars_plain bytes c member).2]
  have values : ((toSextets bytes).map digit).mapM value = some (toSextets bytes) :=
    mapM_value (toSextets_lt bytes)
  simp [decode, encode, kept, stripPadding_encodeChars, values, fromSextets_toSextets]

end RoundTrip

end MessagingSystem.Foundation.Base64
