import MessagingSystem.Foundation.Base64

/-!
# URL-safe Base64

`Buffer.toString('base64url')` and `Buffer.from(text, 'base64url')`: `-` and `_` for the
last two digits and no padding. Decoding takes either alphabet and skips every other
character.
-/
namespace MessagingSystem.Foundation.Base64

def urlDigit (n : Nat) : Char :=
  if n = 62 then '-' else if n = 63 then '_' else digit n

def urlValue (c : Char) : Option Nat :=
  if c = '-' then some 62 else if c = '_' then some 63 else value c

/-- A last sextet that does not fill a byte is dropped. -/
def lenientBytes (sextets : List Nat) : List UInt8 :=
  match fromSextets sextets with
  | some bytes => bytes
  | none => (fromSextets sextets.dropLast).getD []

def encodeUrl (bytes : List UInt8) : String := String.ofList ((toSextets bytes).map urlDigit)

def decodeUrl (s : String) : List UInt8 := lenientBytes (s.toList.filterMap urlValue)

theorem urlValue_urlDigit : ∀ n < 64, urlValue (urlDigit n) = some n := by decide

theorem urlDigit_plain : ∀ n < 64, EcmaText.isSpace (urlDigit n) = false := by decide

theorem filterMap_urlValue {ns : List Nat} (small : ∀ n ∈ ns, n < 64) :
    (ns.map urlDigit).filterMap urlValue = ns := by
  induction ns with
  | nil => rfl
  | cons n rest ih =>
    rw [List.map_cons, List.filterMap_cons_some (urlValue_urlDigit n (small n List.mem_cons_self)),
      ih fun m member => small m (List.mem_cons_of_mem _ member)]

/-- Decoding undoes encoding. -/
theorem decodeUrl_encodeUrl (bytes : List UInt8) : decodeUrl (encodeUrl bytes) = bytes := by
  unfold decodeUrl encodeUrl lenientBytes
  rw [String.toList_ofList, filterMap_urlValue (toSextets_lt bytes), fromSextets_toSextets]

theorem trimmed_encodeUrl (bytes : List UInt8) : EcmaText.Trimmed (encodeUrl bytes) := by
  apply EcmaText.trimmed_of_plain
  intro c member
  unfold encodeUrl at member
  rw [String.toList_ofList] at member
  obtain ⟨n, listed, rfl⟩ := List.mem_map.mp member
  exact urlDigit_plain n (toSextets_lt bytes n listed)

/-- Only nothing is encoded as nothing. -/
theorem encodeUrl_ne_empty {bytes : List UInt8} (present : bytes ≠ []) : encodeUrl bytes ≠ "" := by
  intro empty
  have decoded := decodeUrl_encodeUrl bytes
  rw [empty] at decoded
  exact present decoded.symm

end MessagingSystem.Foundation.Base64
