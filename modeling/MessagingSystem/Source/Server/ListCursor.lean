import MessagingSystem.Foundation.Base64Url
import MessagingSystem.Foundation.EcmaDate
import MessagingSystem.Foundation.JsonText
import MessagingSystem.Source.Server.Database

/-!
# Cursors of the lists

`conversationCursor.ts` and `messageCursor.ts`: the place of the last row of a page,
as base64url of a JSON object with an ISO time `t` and an `id`. `new Date(t)` of a
text is a parameter; times before 1970 are left out.
-/
namespace MessagingSystem.Source.Server
open Foundation

structure ListCursor where
  time : Nat
  id : String
  deriving DecidableEq

def invalidCursor : AppError := ⟨"INVALID_REQUEST", 400, "Invalid cursor"⟩

/-- The JSON of a cursor. -/
def ListCursor.json (cursor : ListCursor) : Json :=
  .object [("t", .string (EcmaDate.toISOString cursor.time)), ("id", .string cursor.id)]

def encodeListCursor (cursor : ListCursor) : String :=
  Base64.encodeUrl (cursor.json.stringify.toList.flatMap TextCoding.encodeChar)

/-- A cursor from the members of its JSON. -/
def cursorOf (dateParse : String → Option Nat) (o : List (String × Json)) : Option ListCursor := do
  let t ← Json.asString (Json.member o "t")
  let id ← Json.asString (Json.member o "id")
  if EcmaText.trim id = "" then none
  else
    let time ← dateParse t
    some ⟨time, EcmaText.trim id⟩

def parseListCursor (dateParse : String → Option Nat) (raw : String) : Except AppError ListCursor :=
  let trimmed := EcmaText.trim raw
  if trimmed = "" then .error invalidCursor
  else
    let json := String.ofList (TextCoding.decodeFrom {} (Base64.decodeUrl trimmed))
    match (Json.asObject (Json.parse json)).bind (cursorOf dateParse) with
    | some cursor => .ok cursor
    | none => .error invalidCursor

def encodeConversationListCursor : ListCursor → String := encodeListCursor

def parseConversationListCursor (dateParse : String → Option Nat) : String → Except AppError ListCursor :=
  parseListCursor dateParse

def encodeMessageListCursor : ListCursor → String := encodeListCursor

def parseMessageListCursor (dateParse : String → Option Nat) : String → Except AppError ListCursor :=
  parseListCursor dateParse

/-- What a list makes of its `cursor` parameter. -/
def cursorBoundary (parse : String → Except AppError ListCursor) (cursor : Option String) :
    Except AppError (Option ListCursor) :=
  match cursor with
  | some raw => if EcmaText.trim raw ≠ "" then (parse raw).map some else .ok none
  | none => .ok none

section RoundTrip

variable {dateParse : String → Option Nat}

/-- `Date` reads what `toISOString` writes. -/
def ReadsISO (dateParse : String → Option Nat) : Prop :=
  ∀ ms ≤ EcmaDate.maxTime, dateParse (EcmaDate.toISOString ms) = some ms

theorem readsISO_parseISOString : ReadsISO EcmaDate.parseISOString := fun _ valid =>
  EcmaDate.parseISOString_toISOString valid

/-- A cursor that a list can write: a valid time, and an id without white space around it. -/
structure ListCursor.Plain (cursor : ListCursor) : Prop where
  time : cursor.time ≤ EcmaDate.maxTime
  trimmed : EcmaText.trim cursor.id = cursor.id
  nonempty : cursor.id ≠ ""

theorem encodeListCursor_trimmed (cursor : ListCursor) :
    EcmaText.trim (encodeListCursor cursor) = encodeListCursor cursor := Base64.trimmed_encodeUrl _

theorem json_nonempty (cursor : ListCursor) : cursor.json.stringify.toList ≠ [] := by
  unfold ListCursor.json Json.stringify
  rw [String.toList_ofList, Json.write, List.cons_append]
  exact List.cons_ne_nil _ _

theorem utf8_ne_nil {text : List Char} (present : text ≠ []) : text.flatMap TextCoding.encodeChar ≠ [] := by
  intro empty
  have chars := TextCoding.decodeFrom_encode text
  rw [empty] at chars
  exact present chars.symm

theorem encodeListCursor_ne_empty (cursor : ListCursor) : encodeListCursor cursor ≠ "" := by
  unfold encodeListCursor
  exact Base64.encodeUrl_ne_empty (utf8_ne_nil (json_nonempty cursor))

theorem decode_encodeListCursor (cursor : ListCursor) :
    String.ofList (TextCoding.decodeFrom {} (Base64.decodeUrl (encodeListCursor cursor))) =
      cursor.json.stringify := by
  unfold encodeListCursor
  rw [Base64.decodeUrl_encodeUrl, TextCoding.decodeFrom_encode, String.ofList_toList]

theorem cursorOf_json (reads : ReadsISO dateParse) {cursor : ListCursor} (plain : cursor.Plain) :
    (Json.asObject (Json.parse cursor.json.stringify)).bind (cursorOf dateParse) = some cursor := by
  have wf : cursor.json.wellFormed = true := by
    simp [ListCursor.json, Json.wellFormed, Json.membersWellFormed]
  have nonempty := plain.nonempty
  rw [Json.parse_stringify wf]
  simp [ListCursor.json, Json.asObject, cursorOf, Json.asString, plain.trimmed, nonempty,
    reads cursor.time plain.time]

/-- A cursor is read as it was written. -/
theorem parseListCursor_encode (reads : ReadsISO dateParse) {cursor : ListCursor} (plain : cursor.Plain) :
    parseListCursor dateParse (encodeListCursor cursor) = .ok cursor := by
  unfold parseListCursor
  rw [encodeListCursor_trimmed, if_neg (encodeListCursor_ne_empty cursor)]
  dsimp only
  rw [decode_encodeListCursor, cursorOf_json reads plain]

theorem cursorBoundary_encode (reads : ReadsISO dateParse) {cursor : ListCursor} (plain : cursor.Plain) :
    cursorBoundary (parseListCursor dateParse) (some (encodeListCursor cursor)) = .ok (some cursor) := by
  unfold cursorBoundary
  dsimp only
  rw [encodeListCursor_trimmed, if_pos (encodeListCursor_ne_empty cursor), parseListCursor_encode reads plain]
  rfl

end RoundTrip

end MessagingSystem.Source.Server
