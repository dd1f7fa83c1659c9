import MessagingSystem.Foundation.LiteralPattern
import MessagingSystem.Foundation.TopRanked
import MessagingSystem.Source.Server.Conversations
import MessagingSystem.Source.Server.DeviceSchemas
import MessagingSystem.Source.Server.Registration
import MessagingSystem.Source.Server.SendSchema

/-!
# The user search

`data/users/search.ts` with `findUsersBySearchSubstringMatch` and the schema of the
query. MongoDB's regular expressions and `localeCompare` are arguments, as are
`toLowerCase` and `z.coerce.number().int()`.
-/
namespace MessagingSystem.Source.Server
open Foundation Foundation.LiteralPattern

section Query

/-- The character class `[a-z0-9@._+_-]`. -/
def isSearchQueryChar (c : Char) : Bool :=
  ('a' ≤ c && c ≤ 'z') || ('0' ≤ c && c ≤ '9') || c = '@' || c = '.' || c = '_' || c = '+' || c = '-'

structure SearchUsersQuery where
  q : String
  limit : Option Nat

/-- `z.string().optional()` of a query member. -/
def optionalText (value : Option Json) : Option (Option String) := optionalField Json.asString value

/-- `limitQuerySchema`. -/
def limitQuerySchema (coerceInteger : Json → Option Int) (value : Option Json) : Option (Option Nat) :=
  optionalField (fun v => ((v.bind coerceInteger).filter fun n => 1 ≤ n && n ≤ 100).map Int.toNat) value

/-- The `superRefine` of the schema. -/
def searchQueryIssues (toLowerCase : String → String) (minLen : Nat) (merged : String) : List SchemaIssue :=
  let lower := toLowerCase merged
  if merged = "" then [⟨"Provide q or email query parameter", ["q"]⟩]
  else if EcmaText.codeUnitLength lower < minLen then
    [⟨"search query must be at least " ++ toString minLen ++ " characters", ["q"]⟩]
  else if 254 < EcmaText.codeUnitLength lower then
    [⟨"search query must be at most 254 characters", ["q"]⟩]
  else if !(lower ≠ "" && lower.toList.all isSearchQueryChar) then
    [⟨"search query contains invalid characters", ["q"]⟩]
  else []

def createSearchUsersQuerySchema (toLowerCase : String → String) (coerceInteger : Json → Option Int)
    (minQueryLength : Nat) (raw : Json) : Option SearchUsersQuery := do
  let minLen := min (max minQueryLength 2) 254
  let o ← Json.asObject (some raw)
  let q ← optionalText (Json.member o "q")
  let email ← optionalText (Json.member o "email")
  let limit ← limitQuerySchema coerceInteger (Json.member o "limit")
  let merged := EcmaText.trim ((q.or email).getD "")
  if (searchQueryIssues toLowerCase minLen merged).isEmpty then some ⟨toLowerCase merged, limit⟩ else none

end Query

section Candidates

/-- The class `[.*+?^${}()|[\]\\]`. -/
def isRegexSyntax (c : Char) : Bool :=
  ['.', '*', '+', '?', '^', '$', '{', '}', '(', ')', '|', '[', ']', '\\'].contains c

def escapeRegexLiteral (input : String) : String := String.ofList (escape isRegexSyntax input.toList)

/-- MongoDB's `$regex` with the option `i`: whether a text has a match of the pattern, and the
case-insensitive form of a character. -/
structure MongoRegex where
  test : String → String → Bool
  caseFold : Char → Char

structure UserSearchRow where
  id : String
  email : Option String
  username : Option String
  displayName : Option String
  profilePicture : Option String
  isGuest : Option Bool

structure SearchCandidateParams where
  normalizedNeedle : String
  excludeUserId : String
  maxCandidates : Nat
  guestDirectoryOnly : Bool

/-- The filter of the query. -/
def searchFilter (regex : MongoRegex) (params : SearchCandidateParams)
    (doc : Registration.UserDocument) : Bool :=
  let escaped := escapeRegexLiteral params.normalizedNeedle
  doc.id ≠ params.excludeUserId &&
    (doc.email.any (regex.test escaped) || doc.username.any (regex.test escaped)) &&
    (!params.guestDirectoryOnly || doc.isGuest = some true)

/-- `limit(n)` of a cursor; `limit(0)` is no limit. -/
def limitDocs {α : Type} (n : Nat) (docs : List α) : List α := if n = 0 then docs else docs.take n

def searchRow (d : Registration.UserDocument) : UserSearchRow where
  id := d.id
  email := d.email
  username := d.username
  displayName := d.displayName
  profilePicture := d.profilePicture
  isGuest := d.isGuest

/-- The users and the other collections. -/
structure SearchStore where
  users : List Registration.UserDocument
  db : Database

/-- The `find` on the users. -/
inductive UserQuery : Type → Type where
  | findUsers (filter : Registration.UserDocument → Bool) (limit : Nat) :
      UserQuery (List Registration.UserDocument)

inductive SearchCommand (β : Type) : Type where
  | users (c : UserQuery β)
  | server (c : ServerCommand β)

abbrev SearchProgram (α : Type) := Program SearchCommand AppError α

/-- The users are found in the order in which the collection holds them. -/
def UserQuery.exec : {β : Type} → UserQuery β → List Registration.UserDocument → β
  | _, .findUsers filter limit, users => limitDocs limit (users.filter filter)

def SearchCommand.exec {β : Type} : SearchCommand β → SearchStore → β × SearchStore
  | .users c, s => (c.exec s.users, s)
  | .server c, s => ((c.exec s.db).1, { s with db := (c.exec s.db).2 })

def findUsersBySearchSubstringMatch (regex : MongoRegex) (params : SearchCandidateParams) :
    SearchProgram (List UserSearchRow) := do
  let docs ← .perform (.users (.findUsers (searchFilter regex params) params.maxCandidates))
  pure (docs.map searchRow)

end Candidates

section Ranking

variable (localeCompare : String → String → Int)

def scoreSubstringField (field needle : String) : Nat :=
  if field = needle then 3
  else if EcmaText.startsWith field needle then 2
  else 1

def scoreSearchRow (row : UserSearchRow) (needle : String) : Nat :=
  let emailScore := scoreSubstringField (row.email.getD "") needle
  let usernameScore := (row.username.filter fun u => u ≠ "").elim 0 fun u => scoreSubstringField u needle
  max emailScore usernameScore

structure ScoredRow where
  r : UserSearchRow
  score : Nat

/-- The comparator of the sort. -/
def compareScored (a b : ScoredRow) : Int :=
  if b.score ≠ a.score then (b.score : Int) - a.score
  else localeCompare (a.r.email.getD "") (b.r.email.getD "")

def rankUsersBySearchRelevance (rows : List UserSearchRow) (normalizedNeedle : String) : List UserSearchRow :=
  let scored := rows.map fun r => { r, score := scoreSearchRow r normalizedNeedle : ScoredRow }
  (scored.insertionSort fun a b => compareScored localeCompare a b ≤ 0).map ScoredRow.r

structure SearchUsersParams where
  callerUserId : String
  callerIsGuest : Option Bool := none
  query : String
  limit : Nat
  maxCandidateScanCap : Nat

structure UserSearchResult where
  userId : String
  username : Option String
  displayName : Option String
  profilePicture : Option String
  conversationId : Option String
  guest : Bool

def SearchUsersParams.maxCandidates (params : SearchUsersParams) : Nat :=
  min (max (params.limit * 25) params.limit) params.maxCandidateScanCap

def userSearchResult (u : UserSearchRow) (conversationId : Option String) : UserSearchResult where
  userId := u.id
  username := u.username
  displayName := u.displayName
  profilePicture := u.profilePicture
  conversationId := conversationId
  guest := u.isGuest = some true

/-- The rows with their direct threads. The lookups only read, in whatever order. -/
def withConversations (callerUserId : String) : List UserSearchRow → SearchProgram (List UserSearchResult)
  | [] => pure []
  | u :: rest => do
      let conversationId ← (findDirectConversationIdBetween callerUserId u.id).hoist .server id
      let rows ← withConversations callerUserId rest
      pure (userSearchResult u conversationId :: rows)

def searchUsersForCaller (regex : MongoRegex) (params : SearchUsersParams) :
    SearchProgram (List UserSearchResult) := do
  let needle := params.query
  let candidates ← findUsersBySearchSubstringMatch regex
    ⟨needle, params.callerUserId, params.maxCandidates, params.callerIsGuest = some true⟩
  let ranked := rankUsersBySearchRelevance localeCompare candidates needle
  withConversations params.callerUserId (ranked.take params.limit)

end Ranking

section Accepted

variable {toLowerCase : String → String} {coerceInteger : Json → Option Int} {minQueryLength : Nat}
  {raw : Json} {query : SearchUsersQuery}

/-- An accepted query has characters of the class, and at least one. -/
theorem accepted_query
    (accepted : createSearchUsersQuerySchema toLowerCase coerceInteger minQueryLength raw = some query) :
    query.q ≠ "" ∧ ∀ c ∈ query.q.toList, isSearchQueryChar c = true := by
  simp only [createSearchUsersQuerySchema, Option.bind_eq_bind, Option.bind_eq_some_iff] at accepted
  obtain ⟨o, -, q, -, email, -, limit, -, checked⟩ := accepted
  split at checked
  · rename_i passed
    cases checked
    have none := List.isEmpty_iff.mp passed
    unfold searchQueryIssues at none
    dsimp only at none
    split at none
    · cases none
    · split at none
      · cases none
      · split at none
        · cases none
        · split at none
          · cases none
          · rename_i legal
            simpa using legal
  · cases checked

end Accepted

section Runs

variable (s : SearchStore) (callerUserId : String)

/-- What `findDirectConversationIdBetween` answers. -/
def directConversationId (db : Database) (userA userB : String) : Option String :=
  if userA = userB then none
  else (db.conversations.find? fun c => c.directPairKey = some (directPairKey userA userB) && !c.isGroup).map
    fun c => c.id

theorem run_findDirect (db : Database) (userA userB : String) :
    (findDirectConversationIdBetween userA userB).run ServerCommand.exec db =
      (.ok (directConversationId db userA userB), db) := by
  unfold findDirectConversationIdBetween directConversationId
  by_cases same : userA = userB
  · rw [if_pos same, if_pos same]
    rfl
  · rw [if_neg same, if_neg same]
    rfl

theorem run_lookup (userB : String) :
    ((findDirectConversationIdBetween callerUserId userB).hoist SearchCommand.server id).run
        SearchCommand.exec s =
      (.ok (directConversationId s.db callerUserId userB), s) := by
  have lifted := @Program.run_hoist _ _ _ _ _ _ _ ServerCommand.exec SearchCommand.exec SearchCommand.server
    id SearchStore.db (fun s db => { s with db }) (fun _ _ => rfl) (fun _ _ => rfl) (fun _ _ _ => rfl)
    (fun _ => rfl) (findDirectConversationIdBetween callerUserId userB) s
  rw [lifted, run_findDirect]
  rfl

theorem run_withConversations (rows : List UserSearchRow) :
    (withConversations callerUserId rows).run SearchCommand.exec s =
      (.ok (rows.map fun u => userSearchResult u (directConversationId s.db callerUserId u.id)), s) := by
  induction rows with
  | nil => rfl
  | cons u rest ih =>
    unfold withConversations
    rw [Program.run_bind, run_lookup]
    dsimp only
    rw [Program.run_bind, ih]
    rfl

/-- A search cuts the ranking of the rows that it finds, and changes nothing. -/
theorem run_searchUsersForCaller (localeCompare : String → String → Int) (regex : MongoRegex)
    (params : SearchUsersParams) :
    (searchUsersForCaller localeCompare regex params).run SearchCommand.exec s =
      (.ok (((rankUsersBySearchRelevance localeCompare ((limitDocs params.maxCandidates (s.users.filter
          (searchFilter regex ⟨params.query, params.callerUserId, params.maxCandidates,
            params.callerIsGuest = some true⟩))).map searchRow) params.query).take params.limit).map
        fun u => userSearchResult u (directConversationId s.db params.callerUserId u.id)), s) :=
  run_withConversations s params.callerUserId _

theorem limitDocs_all {α : Type} {n : Nat} {docs : List α} (few : docs.length ≤ n) :
    limitDocs n docs = docs := by
  unfold limitDocs
  split
  · rfl
  · exact List.take_of_length_le few

end Runs

end MessagingSystem.Source.Server
