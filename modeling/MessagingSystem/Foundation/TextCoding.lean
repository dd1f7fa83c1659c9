import Mathlib.Data.List.Basic

/-!
# Text encoding

ECMAScript strings as their UTF-16 code units, `TextEncoder.encode` and
`TextDecoder.decode` for UTF-8. A lone surrogate is encoded as U+FFFD, and the
decoder drops a leading byte order mark, so the round trip is not the identity
on every string.
-/
namespace MessagingSystem.Foundation

/-- A string as its code units. -/
abbrev CodeUnits := List UInt16

namespace TextCoding

def isHighSurrogate (u : UInt16) : Bool := 0xD800 ≤ u.toNat && u.toNat ≤ 0xDBFF

def isLowSurrogate (u : UInt16) : Bool := 0xDC00 ≤ u.toNat && u.toNat ≤ 0xDFFF

def replacement : Char := Char.ofNat 0xFFFD

def byteOrderMark : Char := Char.ofNat 0xFEFF

/-- The scalar value of a code unit that is in no surrogate pair. -/
def scalarOfUnit (u : UInt16) : Char :=
  if isHighSurrogate u || isLowSurrogate u then replacement else Char.ofNat u.toNat

def scalarOfPair (high low : UInt16) : Char :=
  Char.ofNat (0x10000 + (high.toNat - 0xD800) * 0x400 + (low.toNat - 0xDC00))

/-- The scalar values of a string; lone surrogates are replaced. -/
def scalars : CodeUnits → List Char
  | [] => []
  | [u] => [scalarOfUnit u]
  | u :: v :: rest =>
      if isHighSurrogate u && isLowSurrogate v then scalarOfPair u v :: scalars rest
      else scalarOfUnit u :: scalars (v :: rest)

/-- The code units of a scalar value. -/
def unitsOfChar (c : Char) : CodeUnits :=
  if c.toNat < 0x10000 then [UInt16.ofNat c.toNat]
  else [UInt16.ofNat (0xD800 + (c.toNat - 0x10000) / 0x400),
    UInt16.ofNat (0xDC00 + (c.toNat - 0x10000) % 0x400)]

def units (cs : List Char) : CodeUnits := cs.flatMap unitsOfChar

/-- `s.isWellFormed()`: replacing lone surrogates changes nothing. -/
def IsWellFormed (s : CodeUnits) : Prop := units (scalars s) = s

instance (s : CodeUnits) : Decidable (IsWellFormed s) :=
  inferInstanceAs (Decidable (units (scalars s) = s))

def encodeChar (c : Char) : List UInt8 :=
  let n := c.toNat
  if n < 0x80 then [UInt8.ofNat n]
  else if n < 0x800 then [UInt8.ofNat (0xC0 + n / 64), UInt8.ofNat (0x80 + n % 64)]
  else if n < 0x10000 then
    [UInt8.ofNat (0xE0 + n / 4096), UInt8.ofNat (0x80 + n / 64 % 64), UInt8.ofNat (0x80 + n % 64)]
  else
    [UInt8.ofNat (0xF0 + n / 262144), UInt8.ofNat (0x80 + n / 4096 % 64),
      UInt8.ofNat (0x80 + n / 64 % 64), UInt8.ofNat (0x80 + n % 64)]

/-- `new TextEncoder().encode(s)`. -/
def encode (s : CodeUnits) : List UInt8 := (scalars s).flatMap encodeChar

/-- The decoder between two bytes: how many continuation bytes are awaited, the
code point so far, and the bounds of the next byte. -/
structure Decoder where
  remaining : Nat := 0
  codePoint : Nat := 0
  lower : Nat := 0x80
  upper : Nat := 0xBF

/-- The first byte of a sequence. -/
def startByte (n : Nat) : List Char × Decoder :=
  if n ≤ 0x7F then ([Char.ofNat n], {})
  else if 0xC2 ≤ n ∧ n ≤ 0xDF then ([], { remaining := 1, codePoint := n % 32 })
  else if 0xE0 ≤ n ∧ n ≤ 0xEF then
    ([], { remaining := 2, codePoint := n % 16, lower := if n = 0xE0 then 0xA0 else 0x80
           upper := if n = 0xED then 0x9F else 0xBF })
  else if 0xF0 ≤ n ∧ n ≤ 0xF4 then
    ([], { remaining := 3, codePoint := n % 8, lower := if n = 0xF0 then 0x90 else 0x80
           upper := if n = 0xF4 then 0x8F else 0xBF })
  else ([replacement], {})

/-- A byte that does not continue the sequence is replaced and read again. -/
def feedByte (d : Decoder) (n : Nat) : List Char × Decoder :=
  if d.remaining = 0 then startByte n
  else if d.lower ≤ n ∧ n ≤ d.upper then
    let codePoint := d.codePoint * 64 + n % 64
    if d.remaining = 1 then ([Char.ofNat codePoint], {})
    else ([], { remaining := d.remaining - 1, codePoint })
  else (replacement :: (startByte n).1, (startByte n).2)

def decodeFrom (d : Decoder) : List UInt8 → List Char
  | [] => if d.remaining = 0 then [] else [replacement]
  | b :: rest => (feedByte d b.toNat).1 ++ decodeFrom (feedByte d b.toNat).2 rest

def dropByteOrderMark : List Char → List Char
  | c :: rest => if c = byteOrderMark then rest else c :: rest
  | [] => []

/-- `new TextDecoder().decode(bytes)`. -/
def decode (bytes : List UInt8) : CodeUnits := units (dropByteOrderMark (decodeFrom {} bytes))

section Utf16

theorem toNat_valid (c : Char) : c.toNat < 0xD800 ∨ (0xDFFF < c.toNat ∧ c.toNat < 0x110000) := c.valid

theorem scalars_unitsOfChar (c : Char) (rest : CodeUnits) :
    scalars (unitsOfChar c ++ rest) = c :: scalars rest := by
  have valid := toNat_valid c
  unfold unitsOfChar
  split
  · rename_i small
    have unit : (UInt16.ofNat c.toNat).toNat = c.toNat := by
      rw [UInt16.toNat_ofNat']
      omega
    have high : isHighSurrogate (UInt16.ofNat c.toNat) = false := by
      simp only [isHighSurrogate, unit, Bool.and_eq_false_iff, decide_eq_false_iff_not]
      omega
    have low : isLowSurrogate (UInt16.ofNat c.toNat) = false := by
      simp only [isLowSurrogate, unit, Bool.and_eq_false_iff, decide_eq_false_iff_not]
      omega
    have scalar : scalarOfUnit (UInt16.ofNat c.toNat) = c := by
      simp [scalarOfUnit, high, low, unit]
    cases rest with
    | nil => simp [scalars, scalar]
    | cons v rest => simp [scalars, high, scalar]
  · rename_i large
    have first : (UInt16.ofNat (0xD800 + (c.toNat - 0x10000) / 0x400)).toNat =
        0xD800 + (c.toNat - 0x10000) / 0x400 := by
      rw [UInt16.toNat_ofNat']
      omega
    have second : (UInt16.ofNat (0xDC00 + (c.toNat - 0x10000) % 0x400)).toNat =
        0xDC00 + (c.toNat - 0x10000) % 0x400 := by
      rw [UInt16.toNat_ofNat']
      omega
    have pair : (isHighSurrogate (UInt16.ofNat (0xD800 + (c.toNat - 0x10000) / 0x400)) &&
        isLowSurrogate (UInt16.ofNat (0xDC00 + (c.toNat - 0x10000) % 0x400))) = true := by
      simp only [isHighSurrogate, isLowSurrogate, first, second, Bool.and_eq_true, decide_eq_true_eq]
      omega
    have scalar : scalarOfPair (UInt16.ofNat (0xD800 + (c.toNat - 0x10000) / 0x400))
        (UInt16.ofNat (0xDC00 + (c.toNat - 0x10000) % 0x400)) = c := by
      unfold scalarOfPair
      rw [first, second]
      have value : 0x10000 + (0xD800 + (c.toNat - 0x10000) / 0x400 - 0xD800) * 0x400 +
          (0xDC00 + (c.toNat - 0x10000) % 0x400 - 0xDC00) = c.toNat := by omega
      rw [value, Char.ofNat_toNat]
    simp only [List.cons_append, List.nil_append, scalars, pair, if_true, scalar]

theorem scalars_units (cs : List Char) : scalars (units cs) = cs := by
  induction cs with
  | nil => rfl
  | cons c rest ih =>
    unfold units at ih ⊢
    rw [List.flatMap_cons, scalars_unitsOfChar, ih]

theorem toNat_ofNat (n : Nat) : (Char.ofNat n).toNat = if n.isValidChar then n else 0 := by
  by_cases valid : n.isValidChar
  · rw [if_pos valid, Char.ofNat, dif_pos valid]
    rfl
  · rw [if_neg valid, Char.ofNat, dif_neg valid]
    rfl

@[simp] theorem byteOrderMark_toNat : byteOrderMark.toNat = 0xFEFF := by decide

theorem scalarOfUnit_eq_mark (u : UInt16) : scalarOfUnit u = byteOrderMark ↔ u = 0xFEFF := by
  constructor
  · intro mark
    unfold scalarOfUnit at mark
    split at mark
    · exact absurd mark (by decide)
    · have value := congrArg Char.toNat mark
      rw [byteOrderMark_toNat, toNat_ofNat] at value
      split at value
      · exact UInt16.toNat_inj.mp (value.trans (by decide))
      · omega
  · rintro rfl
    decide

theorem scalarOfPair_ne_mark (high low : UInt16) : scalarOfPair high low ≠ byteOrderMark := by
  intro mark
  have value := congrArg Char.toNat mark
  rw [byteOrderMark_toNat, scalarOfPair, toNat_ofNat] at value
  split at value <;> omega

/-- Only the byte order mark itself is read as one. -/
theorem head_scalars (s : CodeUnits) :
    (scalars s).head? = some byteOrderMark ↔ s.head? = some 0xFEFF := by
  match s with
  | [] => simp [scalars]
  | [u] => simp [scalars, scalarOfUnit_eq_mark]
  | u :: v :: rest =>
    rw [scalars]
    split
    · rename_i paired
      rw [Bool.and_eq_true] at paired
      have other : u ≠ 0xFEFF := by
        rintro rfl
        exact absurd paired.1 (by decide)
      simp [scalarOfPair_ne_mark, other]
    · simp [scalarOfUnit_eq_mark]

end Utf16

section Utf8

variable {d : Decoder} {n : Nat} {rest : List UInt8}

theorem decodeFrom_ofNat (byte : n < 256) : decodeFrom d (UInt8.ofNat n :: rest) =
    (feedByte d n).1 ++ decodeFrom (feedByte d n).2 rest := by
  have same : (UInt8.ofNat n).toNat = n := by
    rw [UInt8.toNat_ofNat']
    omega
  rw [decodeFrom, same]

/-- A continuation byte that is not the last one. -/
theorem decodeFrom_continue (byte : n < 256) (awaited : 1 < d.remaining)
    (inside : d.lower ≤ n ∧ n ≤ d.upper) :
    decodeFrom d (UInt8.ofNat n :: rest) =
      decodeFrom { remaining := d.remaining - 1, codePoint := d.codePoint * 64 + n % 64 } rest := by
  have open' : d.remaining ≠ 0 := by omega
  have more : d.remaining ≠ 1 := by omega
  rw [decodeFrom_ofNat byte, feedByte, if_neg open', if_pos inside]
  simp only [more, if_false, List.nil_append]

theorem decodeFrom_last (byte : n < 256) (awaited : d.remaining = 1)
    (inside : d.lower ≤ n ∧ n ≤ d.upper) :
    decodeFrom d (UInt8.ofNat n :: rest) =
      Char.ofNat (d.codePoint * 64 + n % 64) :: decodeFrom {} rest := by
  have open' : d.remaining ≠ 0 := by omega
  rw [decodeFrom_ofNat byte, feedByte, if_neg open', if_pos inside]
  simp only [awaited, if_true, List.cons_append, List.nil_append]

theorem decodeFrom_start (byte : n < 256) : decodeFrom {} (UInt8.ofNat n :: rest) =
    (startByte n).1 ++ decodeFrom (startByte n).2 rest := by
  rw [decodeFrom_ofNat byte]
  rfl

/-- The bytes of a scalar value are read back as it: one case for each length. -/
theorem decodeFrom_encodeChar (c : Char) (rest : List UInt8) :
    decodeFrom {} (encodeChar c ++ rest) = c :: decodeFrom {} rest := by
  have valid := toNat_valid c
  obtain ⟨m, code⟩ : ∃ m, c.toNat = m := ⟨_, rfl⟩
  have back : c = Char.ofNat m := by rw [← code, Char.ofNat_toNat]
  unfold encodeChar
  rw [code] at valid ⊢
  simp only
  split
  · have start : startByte m = ([Char.ofNat m], {}) := if_pos (by omega)
    rw [List.cons_append, List.nil_append, decodeFrom_start (by omega), start, back]
    rfl
  split
  · have start : startByte (0xC0 + m / 64) = ([], { remaining := 1, codePoint := m / 64 }) := by
      rw [startByte, if_neg (by omega), if_pos (by omega)]
      congr 2
      omega
    rw [List.cons_append, decodeFrom_start (by omega), start, List.nil_append, List.cons_append,
      decodeFrom_last (by omega) rfl ⟨by simp, by simp; omega⟩, back, List.nil_append]
    congr 2
    simp only
    omega
  split
  · have start : startByte (0xE0 + m / 4096) = ([],
        { remaining := 2, codePoint := m / 4096,
          lower := if 0xE0 + m / 4096 = 0xE0 then 0xA0 else 0x80,
          upper := if 0xE0 + m / 4096 = 0xED then 0x9F else 0xBF }) := by
      rw [startByte, if_neg (by omega), if_neg (by omega), if_pos (by omega)]
      congr 2
      omega
    rw [List.cons_append, decodeFrom_start (by omega), start, List.nil_append, List.cons_append,
      decodeFrom_continue (by omega) (by simp) ⟨by simp only; split <;> omega,
        by simp only; split <;> omega⟩, List.cons_append,
      decodeFrom_last (by omega) rfl ⟨by simp, by simp; omega⟩, back, List.nil_append]
    congr 2
    simp only
    omega
  · have start : startByte (0xF0 + m / 262144) = ([],
        { remaining := 3, codePoint := m / 262144,
          lower := if 0xF0 + m / 262144 = 0xF0 then 0x90 else 0x80,
          upper := if 0xF0 + m / 262144 = 0xF4 then 0x8F else 0xBF }) := by
      rw [startByte, if_neg (by omega), if_neg (by omega), if_neg (by omega), if_pos (by omega)]
      congr 2
      omega
    rw [List.cons_append, decodeFrom_start (by omega), start, List.nil_append, List.cons_append,
      decodeFrom_continue (by omega) (by simp) ⟨by simp only; split <;> omega,
        by simp only; split <;> omega⟩, List.cons_append,
      decodeFrom_continue (by omega) (by simp) ⟨by simp, by simp; omega⟩, List.cons_append,
      decodeFrom_last (by omega) rfl ⟨by simp, by simp; omega⟩, back, List.nil_append]
    congr 2
    simp only
    omega

theorem decodeFrom_encode (cs : List Char) : decodeFrom {} (cs.flatMap encodeChar) = cs := by
  induction cs with
  | nil => rfl
  | cons c rest ih => rw [List.flatMap_cons, decodeFrom_encodeChar, ih]

end Utf8

/-- Encoding and decoding gives the string back exactly when it has no lone
surrogate and does not begin with a byte order mark. -/
theorem decode_encode_iff (s : CodeUnits) :
    decode (encode s) = s ↔ IsWellFormed s ∧ s.head? ≠ some 0xFEFF := by
  have decoded : decode (encode s) = units (dropByteOrderMark (scalars s)) := by
    rw [decode, encode, decodeFrom_encode]
  have mark : s.head? ≠ some 0xFEFF ↔ (scalars s).head? ≠ some byteOrderMark :=
    not_congr (head_scalars s).symm
  rw [decoded, mark]
  have kept : (scalars s).head? ≠ some byteOrderMark ↔
      dropByteOrderMark (scalars s) = scalars s := by
    cases scalars s with
    | nil => simp [dropByteOrderMark]
    | cons c rest =>
      by_cases same : c = byteOrderMark
      · simp [dropByteOrderMark, same]
      · simp [dropByteOrderMark, same]
  constructor
  · intro same
    have inverse := scalars_units (dropByteOrderMark (scalars s))
    rw [same] at inverse
    have noMark := kept.mpr inverse.symm
    refine ⟨?_, noMark⟩
    unfold IsWellFormed
    rw [kept.mp noMark] at same
    exact same
  · rintro ⟨wellFormed, noMark⟩
    rw [kept.mp noMark]
    exact wellFormed

end TextCoding

end MessagingSystem.Foundation
