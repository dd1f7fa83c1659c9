import MessagingSystem.Source.Server.UserSearch

/-!
# A search returns the best matches

Of the users whose address or name contains the query, a search returns the first
ones of the ranking, when the matches do not exceed the candidates it reads.
-/
namespace MessagingSystem.Guarantees.SearchResults
open Foundation Foundation.LiteralPattern Foundation.TopRanked Source.Server

section Environment

/-- A text up to case. -/
def folded (regex : MongoRegex) (text : String) : List Char := text.toList.map regex.caseFold

/-- A pattern that spells a text is found where the text is, up to case. The characters
of a query are lower-case letters, digits and signs, and their own case-insensitive form. -/
structure FollowsPattern (regex : MongoRegex) : Prop where
  spelled : ∀ pattern literal text, Spells isRegexSyntax pattern.toList literal.toList →
    (regex.test pattern text = true ↔ folded regex literal <:+: folded regex text)
  plain : ∀ c, isSearchQueryChar c = true → regex.caseFold c = c

/-- `localeCompare` is a consistent comparison. -/
structure Collates (localeCompare : String → String → Int) : Prop where
  sign : ∀ a b, localeCompare a b < 0 ↔ 0 < localeCompare b a
  trans : ∀ a b c, localeCompare a b ≤ 0 → localeCompare b c ≤ 0 → localeCompare a c ≤ 0

/-- The users under the unique index of their ids, addresses and names in lower case. -/
structure Directory (regex : MongoRegex) (users : List Registration.UserDocument) : Prop where
  ids : (users.map fun u => u.id).Nodup
  lower : ∀ u ∈ users, ∀ text, u.email = some text ∨ u.username = some text →
    folded regex text = text.toList

end Environment

section Specification

variable (regex : MongoRegex) (localeCompare : String → String → Int) (params : SearchUsersParams)

/-- The field contains the query, up to case. -/
def Contains (q : String) (field : Option String) : Prop :=
  ∃ text, field = some text ∧ folded regex q <:+: folded regex text

instance (q : String) (field : Option String) : Decidable (Contains regex q field) :=
  decidable_of_iff (field.any fun text => occursIn (folded regex q) (folded regex text)) (by
    unfold Contains
    rw [Option.any_eq_true]
    simp only [occursIn_iff])

/-- A user that the caller is to find. -/
structure Matches (u : Registration.UserDocument) : Prop where
  field : Contains regex params.query u.email ∨ Contains regex params.query u.username
  other : u.id ≠ params.callerUserId
  guest : params.callerIsGuest = some true → u.isGuest = some true

instance (u : Registration.UserDocument) : Decidable (Matches regex params u) :=
  decidable_of_iff ((Contains regex params.query u.email ∨ Contains regex params.query u.username) ∧
    u.id ≠ params.callerUserId ∧ (params.callerIsGuest = some true → u.isGuest = some true))
    ⟨fun m => ⟨m.1, m.2.1, m.2.2⟩, fun m => ⟨m.field, m.other, m.guest⟩⟩

/-- Exact 3, at the beginning 2, elsewhere 1. -/
def fieldScore (q : String) : Option String → Nat
  | none => 0
  | some text =>
      if folded regex text = folded regex q then 3
      else if (folded regex q).isPrefixOf (folded regex text) then 2
      else if occursIn (folded regex q) (folded regex text) then 1
      else 0

def relevance (q : String) (u : Registration.UserDocument) : Nat :=
  max (fieldScore regex q u.email) (fieldScore regex q u.username)

def compareEmails (u v : Registration.UserDocument) : Int := localeCompare (u.email.getD "") (v.email.getD "")

/-- The better score first, then the smaller address. -/
def InOrder (u v : Registration.UserDocument) : Prop :=
  relevance regex params.query v < relevance regex params.query u ∨
    (relevance regex params.query u = relevance regex params.query v ∧ compareEmails localeCompare u v ≤ 0)

def RanksBefore (u v : Registration.UserDocument) : Prop :=
  relevance regex params.query v < relevance regex params.query u ∨
    (relevance regex params.query u = relevance regex params.query v ∧ compareEmails localeCompare u v < 0)

/-- The contract of the search. -/
structure BestMatches (users found : List Registration.UserDocument) : Prop where
  count : found.length = min params.limit (users.filter fun u => Matches regex params u).length
  distinct : (found.map fun u => u.id).Nodup
  matching : ∀ u ∈ found, u ∈ users ∧ Matches regex params u
  ordered : found.Pairwise (InOrder regex localeCompare params)
  best : ∀ u ∈ users, Matches regex params u → u ∉ found → ∀ v ∈ found,
    ¬ RanksBefore regex localeCompare params u v

end Specification

section Candidates

variable {regex : MongoRegex} {params : SearchUsersParams} {u : Registration.UserDocument}

/-- The escaped query is a pattern for the query itself, whatever its characters. -/
theorem test_escaped (follows : FollowsPattern regex) (q text : String) :
    regex.test (escapeRegexLiteral q) text = true ↔ folded regex q <:+: folded regex text := by
  apply follows.spelled
  unfold escapeRegexLiteral
  rw [String.toList_ofList]
  exact spells_escape isRegexSyntax q.toList

theorem any_test_iff (follows : FollowsPattern regex) (q : String) (field : Option String) :
    field.any (regex.test (escapeRegexLiteral q)) = true ↔ Contains regex q field := by
  rw [Option.any_eq_true]
  unfold Contains
  simp only [test_escaped follows]

theorem searchFilter_eq (follows : FollowsPattern regex) (u : Registration.UserDocument) :
    searchFilter regex ⟨params.query, params.callerUserId, params.maxCandidates,
      params.callerIsGuest = some true⟩ u = decide (Matches regex params u) := by
  rw [Bool.eq_iff_iff, decide_eq_true_iff]
  unfold searchFilter
  simp only [Bool.and_eq_true, Bool.or_eq_true, decide_eq_true_eq, any_test_iff follows, Bool.not_eq_true',
    decide_eq_false_iff_not]
  constructor
  · intro ⟨⟨other, field⟩, guest⟩
    exact ⟨field, other, fun asked => guest.resolve_left fun not => not asked⟩
  · intro found
    exact ⟨⟨found.other, found.field⟩, Decidable.not_or_of_imp found.guest⟩

end Candidates

section Scores

variable {regex : MongoRegex} {q : String}

theorem folded_query (follows : FollowsPattern regex) (legal : ∀ c ∈ q.toList, isSearchQueryChar c = true) :
    folded regex q = q.toList := by
  unfold folded
  apply (List.map_congr_left (g := id) _).trans (List.map_id _)
  intro c member
  exact follows.plain c (legal c member)

/-- The score of a stored text, which the code takes for a match. -/
theorem scoreSubstringField_eq (query : folded regex q = q.toList) {text : String}
    (lower : folded regex text = text.toList) :
    scoreSubstringField text q = max 1 (fieldScore regex q (some text)) := by
  unfold scoreSubstringField fieldScore EcmaText.startsWith
  simp only [query, lower, String.toList_inj]
  split
  · rfl
  · split
    · rfl
    · split <;> rfl

theorem fieldScore_empty (solid : q ≠ "") : fieldScore regex q (some "") = 0 := by
  have some : q.toList ≠ [] := by
    intro none
    exact solid (String.toList_inj.mp none)
  unfold fieldScore
  cases chars : q.toList with
  | nil => exact absurd chars some
  | cons c cs => simp [chars, folded, occursIn]

theorem fieldScore_pos {field : Option String} (contains : Contains regex q field) :
    1 ≤ fieldScore regex q field := by
  obtain ⟨text, rfl, inside⟩ := contains
  have occurs := occursIn_iff.mpr inside
  change 1 ≤ if folded regex text = folded regex q then 3
    else if (folded regex q).isPrefixOf (folded regex text) then 2
    else if occursIn (folded regex q) (folded regex text) then 1 else 0
  split
  · omega
  · split <;> omega

/-- The score of a match is its relevance: a field that does not match counts for
one in the code and for nothing in the specification. -/
theorem scoreSearchRow_eq {u : Registration.UserDocument} (query : folded regex q = q.toList) (solid : q ≠ "")
    (lower : ∀ text, u.email = some text ∨ u.username = some text → folded regex text = text.toList)
    (found : Contains regex q u.email ∨ Contains regex q u.username) :
    scoreSearchRow (searchRow u) q = relevance regex q u := by
  have some : 1 ≤ relevance regex q u := by
    unfold relevance
    rcases found with email | username
    · exact le_max_of_le_left (fieldScore_pos email)
    · exact le_max_of_le_right (fieldScore_pos username)
  have email : scoreSubstringField (u.email.getD "") q = max 1 (fieldScore regex q u.email) := by
    cases held : u.email with
    | none =>
      have blank : scoreSubstringField "" q = _ := scoreSubstringField_eq query rfl
      rw [fieldScore_empty solid] at blank
      exact blank
    | some text => exact scoreSubstringField_eq query (lower text (Or.inl held))
  have username : max 1 ((u.username.filter fun t => t ≠ "").elim 0 fun t => scoreSubstringField t q) =
      max 1 (fieldScore regex q u.username) := by
    cases held : u.username with
    | none => rfl
    | some text =>
      by_cases blank : text = ""
      · subst blank
        rw [fieldScore_empty solid]
        rfl
      · rw [Option.filter_some, if_pos (by simpa using blank), Option.elim_some,
          scoreSubstringField_eq query (lower text (Or.inr held)), ← max_assoc, max_self]
  unfold relevance at some ⊢
  unfold scoreSearchRow searchRow
  dsimp only
  rw [email]
  omega

end Scores

section Ranking

variable {localeCompare : String → String → Int} {q : String}

/-- The order of the sort: the better score, then the smaller address. -/
theorem compareScored_le_iff {a b : ScoredRow} :
    compareScored localeCompare a b ≤ 0 ↔ b.score < a.score ∨
      (a.score = b.score ∧ localeCompare (a.r.email.getD "") (b.r.email.getD "") ≤ 0) := by
  unfold compareScored
  split <;> omega

variable (localeCompare q) in
/-- The sort's order of two users. -/
def Ranked (u v : Registration.UserDocument) : Prop :=
  compareScored localeCompare ⟨searchRow u, scoreSearchRow (searchRow u) q⟩
    ⟨searchRow v, scoreSearchRow (searchRow v) q⟩ ≤ 0

instance : DecidableRel (Ranked localeCompare q) := fun _ _ => inferInstanceAs (Decidable (_ ≤ (0 : Int)))

theorem ranked_iff {u v : Registration.UserDocument} :
    Ranked localeCompare q u v ↔ scoreSearchRow (searchRow v) q < scoreSearchRow (searchRow u) q ∨
      (scoreSearchRow (searchRow u) q = scoreSearchRow (searchRow v) q ∧
        compareEmails localeCompare u v ≤ 0) :=
  compareScored_le_iff

theorem Collates.total (collates : Collates localeCompare) : Std.Total (Ranked localeCompare q) := by
  constructor
  intro u v
  have sign := collates.sign (v.email.getD "") (u.email.getD "")
  rw [ranked_iff, ranked_iff]
  unfold compareEmails
  omega

theorem Collates.transitive (collates : Collates localeCompare) :
    IsTrans Registration.UserDocument (Ranked localeCompare q) := by
  constructor
  intro u v w first second
  have trans := collates.trans (u.email.getD "") (v.email.getD "") (w.email.getD "")
  rw [ranked_iff] at first second ⊢
  unfold compareEmails at *
  omega

/-- The ranking of the rows of some users, cut to the limit. -/
theorem rank_take (users : List Registration.UserDocument) (limit : Nat) :
    (rankUsersBySearchRelevance localeCompare (users.map searchRow) q).take limit =
      (top (Ranked localeCompare q) limit users).map searchRow := by
  have scored : (top (Ranked localeCompare q) limit users).map
      (fun u => (⟨searchRow u, scoreSearchRow (searchRow u) q⟩ : ScoredRow)) =
        top (fun a b => compareScored localeCompare a b ≤ 0) limit
          (users.map fun u => ⟨searchRow u, scoreSearchRow (searchRow u) q⟩) :=
    map_top fun _ _ => Iff.rfl
  unfold rankUsersBySearchRelevance
  dsimp only
  rw [← List.map_take, List.map_map]
  change (top (fun a b => compareScored localeCompare a b ≤ 0) limit
    (users.map fun u => (⟨searchRow u, scoreSearchRow (searchRow u) q⟩ : ScoredRow))).map ScoredRow.r = _
  rw [← scored, List.map_map]
  rfl

end Ranking

/-- For every directory whose matches do not exceed the candidates, a search with an
accepted query returns the best matches, in their order. -/
theorem search_returns_best {regex : MongoRegex} {localeCompare : String → String → Int}
    (follows : FollowsPattern regex) (collates : Collates localeCompare) {toLowerCase : String → String}
    {coerceInteger : Json → Option Int} {minQueryLength : Nat} {raw : Json} {query : SearchUsersQuery}
    (accepted : createSearchUsersQuerySchema toLowerCase coerceInteger minQueryLength raw = some query)
    {params : SearchUsersParams} (asked : params.query = query.q) {s : SearchStore}
    (directory : Directory regex s.users)
    (few : (s.users.filter fun u => Matches regex params u).length ≤ params.maxCandidates) :
    ∃ found, BestMatches regex localeCompare params s.users found ∧
      (searchUsersForCaller localeCompare regex params).run SearchCommand.exec s =
        (.ok (found.map fun u => userSearchResult (searchRow u)
          (directConversationId s.db params.callerUserId u.id)), s) := by
  obtain ⟨solid, legal⟩ := accepted_query accepted
  rw [← asked] at solid legal
  have folds := folded_query follows legal
  have score : ∀ u ∈ s.users, Matches regex params u →
      scoreSearchRow (searchRow u) params.query = relevance regex params.query u := fun u member found =>
    scoreSearchRow_eq folds solid (directory.lower u member) found.field
  have total := collates.total (q := params.query)
  have transitive := collates.transitive (q := params.query)
  refine ⟨top (Ranked localeCompare params.query) params.limit
    (s.users.filter fun u => Matches regex params u), ⟨length_top, ?_, ?_, ?_, ?_⟩, ?_⟩
  · exact nodup_map_top ((List.filter_sublist.map _).nodup directory.ids)
  · intro u member
    obtain ⟨listed, found⟩ := List.mem_filter.mp (mem_of_mem_top member)
    exact ⟨listed, of_decide_eq_true found⟩
  · apply top_ordered.imp_of_mem
    intro u v first second ranked
    obtain ⟨listed, found⟩ := List.mem_filter.mp (mem_of_mem_top first)
    obtain ⟨listed', found'⟩ := List.mem_filter.mp (mem_of_mem_top second)
    rw [ranked_iff, score u listed (of_decide_eq_true found),
      score v listed' (of_decide_eq_true found')] at ranked
    exact ranked
  · intro u listed found out v stays before
    obtain ⟨listed', found'⟩ := List.mem_filter.mp (mem_of_mem_top stays)
    have ranked := top_first stays (List.mem_filter.mpr ⟨listed, decide_eq_true found⟩) out
    rw [ranked_iff, score u listed found, score v listed' (of_decide_eq_true found')] at ranked
    have sign := collates.sign (u.email.getD "") (v.email.getD "")
    unfold RanksBefore compareEmails at before
    unfold compareEmails at ranked
    omega
  · have candidates : s.users.filter (searchFilter regex ⟨params.query, params.callerUserId,
        params.maxCandidates, params.callerIsGuest = some true⟩) =
          s.users.filter fun u => Matches regex params u :=
      List.filter_congr fun u _ => searchFilter_eq follows u
    rw [run_searchUsersForCaller, candidates, limitDocs_all few, rank_take, List.map_map]
    rfl

section Example

/-- An engine for patterns that spell a text, up to ASCII case. -/
def asciiRegex : MongoRegex where
  test pattern text := occursIn ((unescape pattern.toList).map Char.toLower) (text.toList.map Char.toLower)
  caseFold := Char.toLower

theorem toLower_query {c : Char} (legal : isSearchQueryChar c = true) : c.toLower = c := by
  have small : ¬ (65 ≤ c.val ∧ c.val ≤ 90) := by
    intro upper
    simp only [isSearchQueryChar, Bool.or_eq_true, Bool.and_eq_true, decide_eq_true_eq] at legal
    have above : 65 ≤ c.val.toNat := UInt32.le_iff_toNat_le.mp upper.1
    have below : c.val.toNat ≤ 90 := UInt32.le_iff_toNat_le.mp upper.2
    rcases legal with (((((⟨low, -⟩ | ⟨-, high⟩) | rfl) | rfl) | rfl) | rfl) | rfl
    · have low : 97 ≤ c.val.toNat := UInt32.le_iff_toNat_le.mp low
      omega
    · have high : c.val.toNat ≤ 57 := UInt32.le_iff_toNat_le.mp high
      omega
    all_goals exact absurd upper (by decide)
  exact dif_neg small

theorem asciiRegex_follows : FollowsPattern asciiRegex where
  spelled := by
    intro pattern literal text spells
    unfold asciiRegex folded
    dsimp only
    rw [spells.unescape_eq rfl, occursIn_iff]
  plain := fun c legal => toLower_query legal

/-- The order of the code points. -/
def compareTexts (a b : String) : Int := if a < b then -1 else if a = b then 0 else 1

theorem compareTexts_collates : Collates compareTexts where
  sign := by
    intro a b
    unfold compareTexts
    rcases lt_trichotomy a b with less | same | more
    · simp [less, less.not_gt, less.ne']
    · simp [same]
    · simp [more, more.not_gt, more.ne']
  trans := by
    intro a b c first second
    have le {x y : String} : compareTexts x y ≤ 0 ↔ x ≤ y := by
      unfold compareTexts
      rcases lt_trichotomy x y with less | same | more
      · simp [less, less.le]
      · simp [same]
      · simp [more.not_gt, more.ne', more]
    exact le.mpr (le_trans (le.mp first) (le.mp second))

/-- A registered user of the given address and name. -/
def userNamed (id : String) (email : Option String) (username : String) : Registration.UserDocument where
  id := id
  email := email
  username := some username
  passwordHash := "hash"
  displayName := none
  profilePicture := none
  status := none
  emailVerified := true
  refreshTokenVersion := none
  lastSeenAt := none
  createdAt := 0
  updatedAt := 0

def threeUsers : SearchStore where
  users := [userNamed "u1" (some "natalie@example.com") "nat", userNamed "u2" none "alice",
    userNamed "u3" none "ali"]
  db := {}

theorem threeUsers_directory : Directory asciiRegex threeUsers.users where
  ids := by decide
  lower := by
    intro u member text field
    simp only [threeUsers, List.mem_cons, List.not_mem_nil, or_false] at member
    rcases member with rfl | rfl | rfl <;>
      simp only [userNamed, Option.some.injEq, reduceCtorEq, false_or] at field
    · rcases field with rfl | rfl <;> decide
    · subst field; decide
    · subst field; decide

theorem search_returns_best_alice : ∃ found, BestMatches asciiRegex compareTexts
      ⟨"u3", none, "ali", 1, 200⟩ threeUsers.users found ∧
    (searchUsersForCaller compareTexts asciiRegex ⟨"u3", none, "ali", 1, 200⟩).run SearchCommand.exec
        threeUsers =
      (.ok (found.map fun u => userSearchResult (searchRow u)
        (directConversationId threeUsers.db "u3" u.id)), threeUsers) :=
  search_returns_best asciiRegex_follows compareTexts_collates
    (show createSearchUsersQuerySchema id (fun _ => none) 3 (.object [("q", .string " ali ")]) =
      some ⟨"ali", none⟩ from rfl) rfl threeUsers_directory (by decide)

end Example

end MessagingSystem.Guarantees.SearchResults
