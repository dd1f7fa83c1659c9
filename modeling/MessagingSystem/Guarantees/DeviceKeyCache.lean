import MessagingSystem.Foundation.Transition
import MessagingSystem.Source.Client.DevicePublicKeysSlice

/-!
# The directory cache and its invalidations

A tab may have several fetches for one user in flight, issued before and after
invalidations, and their results arrive in any order. A result that was asked
for before an invalidation is stored as a fresh entry when it arrives after it.
-/
namespace MessagingSystem.Guarantees.DeviceKeyCache
open Foundation Source.Client

/-- A fetch; `invalidated` notes that its user's entry was invalidated since it was issued. -/
structure FetchRequest where
  id : Nat
  arg : String
  answer : Option (Except ParsedApiError (List HybridDeviceRow)) := none
  invalidated : Bool := false

namespace FetchRequest

variable (r : FetchRequest)

def key : String := EcmaText.trim r.arg

/-- The end of the thunk: a blank user id is refused without a request. -/
def outcome : Option (Except String FetchDevicePublicKeysResult) :=
  if r.key = "" then some (.error "userId is required") else r.answer.map (fetchDevicePublicKeys r.key)

/-- The rows the server returned. -/
def rows : List HybridDeviceRow :=
  match r.answer with
  | some (.ok rows) => rows
  | _ => []

end FetchRequest

/-- The cache of a tab, the fetches in flight and the server's directory. `latest` is the
fetch whose result an entry holds; `staying` are the rows that were registered when the
entry was last invalidated and have stayed so. -/
structure CacheSession where
  slice : DevicePublicKeysState := {}
  requests : List FetchRequest := []
  issued : Nat := 0
  directory : Record (List HybridDeviceRow) := ∅
  latest : Record FetchRequest := ∅
  staying : Record (List HybridDeviceRow) := ∅

inductive CacheEvent where
  | fetch (arg : String)
  /-- The server answers a request from its directory, or it fails. -/
  | answer (id : Nat) (failure : Option ParsedApiError)
  /-- The result arrives at the slice. -/
  | settle (id : Nat) (now : Nat)
  | invalidate (payload : Option String)
  | deviceRegistered
  | logout
  /-- The devices of a user change on the server. -/
  | register (userId : String) (rows : List HybridDeviceRow)

namespace CacheSession

variable (s : CacheSession)

def request (id : Nat) : Option FetchRequest := s.requests.find? fun r => r.id = id

def directoryOf (key : String) : List HybridDeviceRow := (s.directory.get key).getD []

def stayingOf (key : String) : List HybridDeviceRow := (s.staying.get key).getD []

/-- The notes for an entry that is dropped on purpose. -/
def invalidated (key : String) : CacheSession :=
  { s with
    requests := s.requests.map fun r => if r.key = key then { r with invalidated := true } else r
    latest := s.latest.delete key
    staying := s.staying.set key (s.directoryOf key) }

def invalidatedAll : CacheSession :=
  { s with
    requests := s.requests.map fun r => { r with invalidated := true }
    latest := ∅
    staying := s.directory }

def settled (r : FetchRequest) (slice : DevicePublicKeysState) : CacheSession :=
  { s with
    slice := slice
    requests := s.requests.filter fun other => other.id ≠ r.id
    latest := s.latest.set r.key r }

def perform : CacheEvent → Option CacheSession
  | .fetch arg => some
      { s with
        slice := s.slice.fetchPending arg
        requests := s.requests ++ [{ id := s.issued, arg := arg }]
        issued := s.issued + 1 }
  | .answer id failure => (s.request id).bind fun r =>
      if r.answer = none then
        some { s with requests := s.requests.map fun other =>
          if other.id = id then
            { other with answer := some (match failure with
              | none => .ok (s.directoryOf r.key)
              | some p => .error p) }
          else other }
      else none
  | .settle id now => (s.request id).bind fun r => r.outcome.map fun outcome =>
      s.settled r (s.slice.fetchSettled r.arg now outcome)
  | .invalidate payload =>
      let key := EcmaText.trim (payload.getD "")
      some { (if key = "" then s.invalidatedAll else s.invalidated key) with
        slice := s.slice.invalidateDevicePublicKeys payload }
  | .deviceRegistered => some { s.invalidated "me" with slice := s.slice.deviceRegistered }
  | .logout => some { s with slice := {}, latest := ∅ }
  | .register userId rows => some
      { s with
        directory := s.directory.set userId rows
        staying := s.staying.set userId ((s.stayingOf userId).filter fun row => row ∈ rows) }

end CacheSession

def cacheMachine : Machine CacheSession CacheEvent where
  init s := s = {}
  step s event t := s.perform event = some t

abbrev CacheTransition := Transition CacheSession CacheEvent

/-- A fresh entry holds rows that the server returned to a request issued since the
user's entry was last invalidated. -/
def InvalidationsEffective (s : CacheSession) : Prop :=
  ∀ userId entry now, s.slice.entry userId = some entry → isDevicePublicKeysCacheFresh (some entry) now = true →
    ∃ r, s.latest.get (EcmaText.trim userId) = some r ∧ r.invalidated = false ∧ entry.items = r.rows

/-- The result an entry holds is not replaced by that of a request issued earlier. -/
def ResultsOrdered (t : CacheTransition) : Prop :=
  ∀ key r r', t.source.latest.get key = some r → t.target.latest.get key = some r' → r.id ≤ r'.id

/-- A send wraps for every device that was registered when an entry it uses was last
invalidated, and has stayed so. -/
def SendsWrapJoined (s : CacheSession) : Prop :=
  ∀ recipient recipientRows selfRows, s.slice.sendRows recipient = some recipientRows →
    s.slice.sendRows "me" = some selfRows → ∀ row,
    row ∈ s.stayingOf (EcmaText.trim recipient) ∨ row ∈ s.stayingOf "me" → EcmaText.trim row.deviceId ≠ "" →
    ∃ d ∈ mergeHybridDeviceRows [recipientRows, selfRows], d.deviceId = EcmaText.trim row.deviceId

/-- The request of a result has not been overtaken by an invalidation of its user's entry,
unless it was rejected, nor by the result of a request issued later. -/
def InTime (t : CacheTransition) : Prop :=
  match t.label with
  | .settle id _ => ∀ r, t.source.request id = some r →
      ((∃ result, r.outcome = some (.ok result)) → r.invalidated = false) ∧
      ∀ later, t.source.latest.get r.key = some later → later.id < r.id
  | _ => True

/-- `InTime`, evaluated. -/
def inTime (t : CacheTransition) : Bool :=
  match t.label with
  | .settle id _ => (t.source.request id).all fun r =>
      ((match r.outcome with
        | some (.ok _) => !r.invalidated
        | _ => true) && (t.source.latest.get r.key).all fun later => later.id < r.id)
  | _ => true

theorem inTime_iff (t : CacheTransition) : inTime t = true ↔ InTime t := by
  obtain ⟨s, event, target⟩ := t
  cases event with
  | settle id now =>
    simp only [inTime, InTime, Option.all_eq_true, Bool.and_eq_true, decide_eq_true_eq]
    refine forall_congr' fun r => imp_congr_right fun _ => and_congr_left fun _ => ?_
    constructor
    · rintro clear ⟨result, ok⟩
      rw [ok] at clear
      simpa using clear
    · intro clear
      split
      · rename_i result ok
        simpa using clear ⟨result, ok⟩
      · rfl
  | _ => exact iff_of_true rfl trivial

/-- What holds of the notes after any events. -/
structure Consistent (s : CacheSession) : Prop where
  issued : ∀ r ∈ s.requests, r.id < s.issued
  distinct : (s.requests.map FetchRequest.id).Nodup
  latestIssued : ∀ key r, s.latest.get key = some r → r.id < s.issued
  latestSettled : ∀ key r, s.latest.get key = some r → ∀ q ∈ s.requests, q.id ≠ r.id
  staying : ∀ key row, row ∈ s.stayingOf key → row ∈ s.directoryOf key
  answered : ∀ r ∈ s.requests, r.invalidated = false → ∀ rows, r.answer = some (.ok rows) →
    ∀ row ∈ s.stayingOf r.key, row ∈ rows
  held : ∀ key r, s.latest.get key = some r → r.invalidated = false → ∀ rows, r.answer = some (.ok rows) →
    ∀ row ∈ s.stayingOf key, row ∈ rows
  entries : ∀ key entry, s.slice.byUserId.get key = some entry →
    (entry.status = .succeeded ∨ entry.items ≠ []) → ∃ r, s.latest.get key = some r ∧ entry.items = r.rows

/-- No entry holds rows that an invalidation has overtaken. -/
def Untainted (s : CacheSession) : Prop :=
  ∀ key entry r, s.slice.byUserId.get key = some entry → (entry.status = .succeeded ∨ entry.items ≠ []) →
    s.latest.get key = some r → r.invalidated = false

section Steps

variable {s t : CacheSession} {key : String}

theorem request_mem {id : Nat} {r : FetchRequest} (found : s.request id = some r) :
    r ∈ s.requests ∧ r.id = id :=
  ⟨List.mem_of_find?_eq_some found, by simpa using List.find?_some found⟩

theorem stayingOf_invalidated (key other : String) :
    (s.invalidated key).stayingOf other = if other = key then s.directoryOf key else s.stayingOf other := by
  unfold CacheSession.stayingOf CacheSession.invalidated
  rw [Record.get_set]
  split <;> rfl

/-- Requests that are only marked keep their ids. -/
theorem map_ids (mark : FetchRequest → FetchRequest) (same : ∀ r, (mark r).id = r.id) (rs : List FetchRequest) :
    (rs.map mark).map FetchRequest.id = rs.map FetchRequest.id := by
  rw [List.map_map]
  exact List.map_congr_left fun r _ => same r

/-- An entry that is invalidated is dropped, and so are the notes on it. -/
theorem Consistent.invalidated (inv : Consistent s) {slice : DevicePublicKeysState}
    (dropped : ∀ other, slice.byUserId.get other =
      if other = key then none else s.slice.byUserId.get other) :
    Consistent { s.invalidated key with slice := slice } := by
  have ids := map_ids (fun r => if r.key = key then { r with invalidated := true } else r)
    (fun r => by split <;> rfl) s.requests
  have member : ∀ r' ∈ (s.invalidated key).requests, ∃ r ∈ s.requests, r'.id = r.id ∧ r'.answer = r.answer ∧
      r'.key = r.key ∧ (r'.invalidated = false → r.invalidated = false ∧ r.key ≠ key) := by
    intro r' listed
    obtain ⟨r, before, rfl⟩ := List.mem_map.mp listed
    refine ⟨r, before, ?_⟩
    by_cases here : r.key = key
    · rw [if_pos here]
      exact ⟨rfl, rfl, rfl, fun clear => by cases clear⟩
    · rw [if_neg here]
      exact ⟨rfl, rfl, rfl, fun clear => ⟨clear, here⟩⟩
  have latest : ∀ other r, (s.invalidated key).latest.get other = some r →
      other ≠ key ∧ s.latest.get other = some r := by
    intro other r found
    have looked : (s.latest.delete key).get other = some r := found
    rw [Record.get_delete] at looked
    by_cases same : other = key
    · rw [if_pos same] at looked
      cases looked
    · rw [if_neg same] at looked
      exact ⟨same, looked⟩
  refine ⟨?_, ?_, ?_, ?_, ?_, ?_, ?_, ?_⟩
  · intro r' listed
    obtain ⟨r, before, id, -⟩ := member r' listed
    rw [id]
    exact inv.issued r before
  · exact ids ▸ inv.distinct
  · exact fun other r found => inv.latestIssued other r (latest other r found).2
  · intro other r found q listed
    obtain ⟨q', before, id, -⟩ := member q listed
    rw [id]
    exact inv.latestSettled other r (latest other r found).2 q' before
  · intro other row stays
    have stays : row ∈ (s.invalidated key).stayingOf other := stays
    rw [stayingOf_invalidated] at stays
    show row ∈ s.directoryOf other
    by_cases same : other = key
    · rw [if_pos same] at stays
      rw [same]
      exact stays
    · rw [if_neg same] at stays
      exact inv.staying other row stays
  · intro r' listed clear rows answer row stays
    obtain ⟨r, before, -, same, here, was⟩ := member r' listed
    have stays : row ∈ (s.invalidated key).stayingOf r'.key := stays
    rw [stayingOf_invalidated, here, if_neg (was clear).2] at stays
    exact inv.answered r before (was clear).1 rows (same ▸ answer) row stays
  · intro other r found clear rows answer row stays
    obtain ⟨different, before⟩ := latest other r found
    have stays : row ∈ (s.invalidated key).stayingOf other := stays
    rw [stayingOf_invalidated, if_neg different] at stays
    exact inv.held other r before clear rows answer row stays
  · intro other entry found filled
    have found : slice.byUserId.get other = some entry := found
    rw [dropped] at found
    by_cases same : other = key
    · rw [if_pos same] at found
      cases found
    · rw [if_neg same] at found
      obtain ⟨r, before, items⟩ := inv.entries other entry found filled
      refine ⟨r, ?_, items⟩
      show (s.latest.delete key).get other = some r
      rw [Record.get_delete, if_neg same]
      exact before

theorem Consistent.invalidatedAll (inv : Consistent s) : Consistent { s.invalidatedAll with slice := {} } := by
  have ids := map_ids (fun r => { r with invalidated := true }) (fun r => rfl) s.requests
  refine ⟨?_, ?_, ?_, ?_, ?_, ?_, ?_, ?_⟩
  · intro r' listed
    obtain ⟨r, before, rfl⟩ := List.mem_map.mp listed
    exact inv.issued r before
  · exact ids ▸ inv.distinct
  · exact fun other r found => by cases (Record.get_empty other).symm.trans found
  · exact fun other r found => by cases (Record.get_empty other).symm.trans found
  · exact fun other row stays => stays
  · intro r' listed clear
    obtain ⟨r, before, rfl⟩ := List.mem_map.mp listed
    cases clear
  · exact fun other r found => by cases (Record.get_empty other).symm.trans found
  · exact fun other entry found => by cases (Record.get_empty other).symm.trans found

theorem Consistent.fetch (inv : Consistent s) (arg : String) :
    Consistent { s with
      slice := s.slice.fetchPending arg
      requests := s.requests ++ [{ id := s.issued, arg := arg }]
      issued := s.issued + 1 } := by
  have member : ∀ r ∈ s.requests ++ [({ id := s.issued, arg := arg } : FetchRequest)],
      r ∈ s.requests ∨ (r.id = s.issued ∧ r.answer = none) := by
    intro r listed
    rcases List.mem_append.mp listed with old | new
    · exact .inl old
    · obtain rfl := List.mem_singleton.mp new
      exact .inr ⟨rfl, rfl⟩
  refine ⟨?_, ?_, ?_, ?_, inv.staying, ?_, inv.held, ?_⟩
  · intro r listed
    show r.id < s.issued + 1
    rcases member r listed with old | ⟨id, -⟩
    · have := inv.issued r old
      omega
    · omega
  · rw [List.map_append]
    refine List.nodup_append.mpr ⟨inv.distinct, List.nodup_singleton _, ?_⟩
    intro id old new last
    obtain ⟨r, listed, rfl⟩ := List.mem_map.mp old
    obtain rfl := List.mem_singleton.mp last
    exact Nat.ne_of_lt (inv.issued r listed)
  · intro other r found
    exact Nat.lt_succ_of_lt (inv.latestIssued other r found)
  · intro other r found q listed
    rcases member q listed with old | ⟨id, -⟩
    · exact inv.latestSettled other r found q old
    · rw [id]
      exact Ne.symm (Nat.ne_of_lt (inv.latestIssued other r found))
  · intro r listed clear rows answer
    rcases member r listed with old | ⟨-, unanswered⟩
    · exact inv.answered r old clear rows answer
    · rw [unanswered] at answer
      cases answer
  · intro other entry found filled
    have found : (s.slice.byUserId.set (EcmaText.trim arg) _).get other = some entry := found
    rw [Record.get_set] at found
    by_cases same : other = EcmaText.trim arg
    · rw [if_pos same] at found
      cases found
      rcases filled with succeeded | some
      · cases succeeded
      · rw [same]
        cases before : s.slice.byUserId.get (EcmaText.trim arg) with
        | none =>
          rw [before] at some
          exact absurd rfl some
        | some prev =>
          rw [before] at some
          exact inv.entries _ prev before (.inr some)
    · rw [if_neg same] at found
      exact inv.entries other entry found filled

theorem Consistent.answer (inv : Consistent s) {id : Nat} {r : FetchRequest} (found : s.request id = some r)
    (failure : Option ParsedApiError) :
    Consistent { s with requests := s.requests.map fun other =>
      if other.id = id then
        { other with answer := some (match failure with
          | none => .ok (s.directoryOf r.key)
          | some p => .error p) }
      else other } := by
  obtain ⟨listed, here⟩ := request_mem found
  have ids := map_ids (fun other => if other.id = id then
      { other with answer := some (match failure with
        | none => .ok (s.directoryOf r.key)
        | some p => .error p) }
    else other) (fun _ => by split <;> rfl) s.requests
  have only : ∀ q ∈ s.requests, q.id = id → q = r := by
    intro q other same
    exact List.inj_on_of_nodup_map inv.distinct other listed (same.trans here.symm)
  refine ⟨?_, ids ▸ inv.distinct, inv.latestIssued, ?_, inv.staying, ?_, inv.held, inv.entries⟩
  · intro r' listed'
    obtain ⟨q, before, rfl⟩ := List.mem_map.mp listed'
    have := inv.issued q before
    split <;> exact this
  · intro other latest held q listed'
    obtain ⟨q', before, rfl⟩ := List.mem_map.mp listed'
    have := inv.latestSettled other latest held q' before
    split <;> exact this
  · intro r' listed' clear rows answer
    obtain ⟨q, before, rfl⟩ := List.mem_map.mp listed'
    by_cases same : q.id = id
    · obtain rfl := only q before same
      rw [if_pos same] at answer ⊢
      cases failure with
      | none =>
        cases answer
        exact inv.staying q.key
      | some p => cases answer
    · rw [if_neg same] at clear answer ⊢
      exact inv.answered q before clear rows answer

theorem Consistent.register (inv : Consistent s) (userId : String) (rows : List HybridDeviceRow) :
    Consistent { s with
      directory := s.directory.set userId rows
      staying := s.staying.set userId ((s.stayingOf userId).filter fun row => row ∈ rows) } := by
  have stays : ∀ other row, row ∈ ((s.staying.set userId
      ((s.stayingOf userId).filter fun row => row ∈ rows)).get other).getD [] →
      row ∈ s.stayingOf other ∧ (other = userId → row ∈ rows) := by
    intro other row member
    rw [Record.get_set] at member
    by_cases same : other = userId
    · rw [if_pos same] at member
      have kept := List.mem_filter.mp (member : row ∈ (s.stayingOf userId).filter _)
      exact ⟨same ▸ kept.1, fun _ => of_decide_eq_true kept.2⟩
    · rw [if_neg same] at member
      exact ⟨member, fun here => absurd here same⟩
  refine ⟨inv.issued, inv.distinct, inv.latestIssued, inv.latestSettled, ?_, ?_, ?_, inv.entries⟩
  · intro other row member
    obtain ⟨before, here⟩ := stays other row member
    show row ∈ ((s.directory.set userId rows).get other).getD []
    rw [Record.get_set]
    by_cases same : other = userId
    · rw [if_pos same]
      exact here same
    · rw [if_neg same]
      exact inv.staying other row before
  · exact fun r listed clear answered answer row member =>
      inv.answered r listed clear answered answer row (stays r.key row member).1
  · exact fun other r found clear answered answer row member =>
      inv.held other r found clear answered answer row (stays other row member).1

theorem Consistent.logout (inv : Consistent s) : Consistent { s with slice := {}, latest := ∅ } :=
  ⟨inv.issued, inv.distinct, fun other r found => (by cases (Record.get_empty other).symm.trans found),
    fun other r found => (by cases (Record.get_empty other).symm.trans found), inv.staying, inv.answered,
    fun other r found => (by cases (Record.get_empty other).symm.trans found),
    fun other entry found => (by cases (Record.get_empty other).symm.trans found)⟩

/-- The entry that a result leaves. -/
def resultEntry (now : Nat) : Except String FetchDevicePublicKeysResult → DevicePublicKeysEntry
  | .ok result =>
      { status := .succeeded
        items := result.items
        forbidden := result.forbidden
        cachedAtMs := some now }
  | .error message => { status := .failed, error := some message }

theorem outcome_ok {r : FetchRequest} {result : FetchDevicePublicKeysResult}
    (ends : r.outcome = some (.ok result)) : result.userId = r.key ∧ result.items = r.rows := by
  unfold FetchRequest.outcome at ends
  by_cases blank : r.key = ""
  · rw [if_pos blank] at ends
    cases ends
  · rw [if_neg blank] at ends
    obtain ⟨answer, given, same⟩ := Option.map_eq_some_iff.mp ends
    unfold FetchRequest.rows
    rw [given]
    cases answer with
    | ok rows =>
      cases same
      exact ⟨rfl, rfl⟩
    | error p =>
      simp only [fetchDevicePublicKeys] at same
      split at same
      · cases same
        exact ⟨rfl, rfl⟩
      · split at same
        · cases same
        · split at same <;> cases same

/-- A result replaces the entry of its user and no other. -/
theorem settled_entry {r : FetchRequest} {outcome : Except String FetchDevicePublicKeysResult}
    (ends : r.outcome = some outcome) (now : Nat) (other : String) :
    (s.slice.fetchSettled r.arg now outcome).byUserId.get other =
      if other = r.key then some (resultEntry now outcome) else s.slice.byUserId.get other := by
  cases outcome with
  | ok result =>
    have user := (outcome_ok ends).1
    show (s.slice.byUserId.set result.userId _).get other = _
    rw [user, Record.get_set]
    rfl
  | error message =>
    show (s.slice.byUserId.set r.key _).get other = _
    rw [Record.get_set]
    rfl

theorem Consistent.settle (inv : Consistent s) {id : Nat} {r : FetchRequest} (found : s.request id = some r)
    {outcome : Except String FetchDevicePublicKeysResult} (ends : r.outcome = some outcome) (now : Nat) :
    Consistent (s.settled r (s.slice.fetchSettled r.arg now outcome)) := by
  obtain ⟨listed, -⟩ := request_mem found
  have latest : ∀ other o, (s.latest.set r.key r).get other = some o →
      (other = r.key ∧ o = r) ∨ (other ≠ r.key ∧ s.latest.get other = some o) := by
    intro other o held
    rw [Record.get_set] at held
    by_cases same : other = r.key
    · rw [if_pos same] at held
      exact .inl ⟨same, (Option.some.inj held).symm⟩
    · rw [if_neg same] at held
      exact .inr ⟨same, held⟩
  refine ⟨?_, ?_, ?_, ?_, inv.staying, ?_, ?_, ?_⟩
  · exact fun q member => inv.issued q (List.mem_filter.mp member).1
  · exact (List.filter_sublist.map FetchRequest.id).nodup inv.distinct
  · intro other o held
    rcases latest other o held with ⟨-, rfl⟩ | ⟨-, before⟩
    · exact inv.issued o listed
    · exact inv.latestIssued other o before
  · intro other o held q member
    obtain ⟨before, different⟩ := List.mem_filter.mp member
    rcases latest other o held with ⟨-, rfl⟩ | ⟨-, old⟩
    · exact of_decide_eq_true different
    · exact inv.latestSettled other o old q before
  · exact fun q member => inv.answered q (List.mem_filter.mp member).1
  · intro other o held clear rows answer
    rcases latest other o held with ⟨rfl, rfl⟩ | ⟨-, old⟩
    · exact inv.answered o listed clear rows answer
    · exact inv.held other o old clear rows answer
  · intro other entry stored filled
    have stored := (settled_entry ends now other).symm.trans stored
    by_cases same : other = r.key
    · rw [if_pos same] at stored
      cases stored
      refine ⟨r, same ▸ Record.get_set_self _ _ _, ?_⟩
      cases outcome with
      | ok result => exact (outcome_ok ends).2
      | error message =>
        rcases filled with succeeded | some
        · cases succeeded
        · exact absurd rfl some
    · rw [if_neg same] at stored
      obtain ⟨o, before, items⟩ := inv.entries other entry stored filled
      exact ⟨o, (Record.get_set_of_ne _ _ same).trans before, items⟩

theorem invalidate_entry (key other : String) : (s.slice.byUserId.delete key).get other =
    if other = key then none else s.slice.byUserId.get other := Record.get_delete _ _ _

theorem Consistent.perform (inv : Consistent s) {event : CacheEvent} (happened : s.perform event = some t) :
    Consistent t := by
  cases event with
  | fetch arg =>
    cases happened
    exact inv.fetch arg
  | answer id failure =>
    obtain ⟨r, found, happened⟩ := Option.bind_eq_some_iff.mp happened
    split at happened
    · cases happened
      exact inv.answer found failure
    · cases happened
  | settle id now =>
    obtain ⟨r, found, happened⟩ := Option.bind_eq_some_iff.mp happened
    obtain ⟨outcome, ends, rfl⟩ := Option.map_eq_some_iff.mp happened
    exact inv.settle found ends now
  | invalidate payload =>
    cases happened
    unfold DevicePublicKeysState.invalidateDevicePublicKeys
    by_cases all : EcmaText.trim (payload.getD "") = ""
    · simp only [all, if_true]
      exact inv.invalidatedAll
    · simp only [all, if_false]
      exact inv.invalidated (invalidate_entry _)
  | deviceRegistered =>
    cases happened
    exact inv.invalidated (invalidate_entry _)
  | logout =>
    cases happened
    exact inv.logout
  | register userId rows =>
    cases happened
    exact inv.register userId rows

/-- What an invalidation leaves of an entry and of the note on it was there before. -/
theorem untainted_of_kept (clean : Untainted s)
    (entries : ∀ key entry, t.slice.byUserId.get key = some entry → s.slice.byUserId.get key = some entry)
    (latest : ∀ key r, t.latest.get key = some r → s.latest.get key = some r) : Untainted t :=
  fun key entry r stored filled held => clean key entry r (entries key entry stored) filled (latest key r held)

theorem get_of_delete {α : Type} {record : Record α} {key other : String} {a : α}
    (found : (record.delete key).get other = some a) : record.get other = some a := by
  rw [Record.get_delete] at found
  split at found
  · cases found
  · exact found

theorem Untainted.fetch (clean : Untainted s) (arg : String) :
    Untainted { s with
      slice := s.slice.fetchPending arg
      requests := s.requests ++ [{ id := s.issued, arg := arg }]
      issued := s.issued + 1 } := by
  intro other entry r stored filled held
  have stored : (s.slice.byUserId.set (EcmaText.trim arg) _).get other = some entry := stored
  rw [Record.get_set] at stored
  by_cases same : other = EcmaText.trim arg
  · rw [if_pos same] at stored
    cases stored
    rcases filled with succeeded | some
    · cases succeeded
    · cases before : s.slice.byUserId.get (EcmaText.trim arg) with
      | none =>
        rw [before] at some
        exact absurd rfl some
      | some prev =>
        rw [before] at some
        exact clean _ prev r before (.inr some) (same ▸ held)
  · rw [if_neg same] at stored
    exact clean other entry r stored filled held

theorem Untainted.settle (clean : Untainted s) {r : FetchRequest}
    {outcome : Except String FetchDevicePublicKeysResult} (ends : r.outcome = some outcome) (now : Nat)
    (inTime : (∃ result, outcome = .ok result) → r.invalidated = false) :
    Untainted (s.settled r (s.slice.fetchSettled r.arg now outcome)) := by
  intro other entry o stored filled held
  have stored := (settled_entry ends now other).symm.trans stored
  have held : (s.latest.set r.key r).get other = some o := held
  rw [Record.get_set] at held
  by_cases same : other = r.key
  · rw [if_pos same] at stored held
    cases stored
    cases held
    cases outcome with
    | ok result => exact inTime ⟨result, rfl⟩
    | error message =>
      rcases filled with succeeded | some
      · cases succeeded
      · exact absurd rfl some
  · rw [if_neg same] at stored held
    exact clean other entry o stored filled held

/-- Results in time keep the cache untainted. -/
theorem Untainted.perform (clean : Untainted s) {event : CacheEvent} (happened : s.perform event = some t)
    (inTime : InTime ⟨s, event, t⟩) : Untainted t := by
  cases event with
  | fetch arg =>
    cases happened
    exact clean.fetch arg
  | answer id failure =>
    obtain ⟨r, found, happened⟩ := Option.bind_eq_some_iff.mp happened
    split at happened
    · cases happened
      exact clean
    · cases happened
  | settle id now =>
    obtain ⟨r, found, happened⟩ := Option.bind_eq_some_iff.mp happened
    obtain ⟨outcome, ends, rfl⟩ := Option.map_eq_some_iff.mp happened
    exact clean.settle ends now fun ⟨result, ok⟩ => (inTime r found).1 ⟨result, ok ▸ ends⟩
  | invalidate payload =>
    cases happened
    unfold DevicePublicKeysState.invalidateDevicePublicKeys
    by_cases all : EcmaText.trim (payload.getD "") = ""
    · simp only [all, if_true]
      exact fun other entry r stored => by cases (Record.get_empty other).symm.trans stored
    · simp only [all, if_false]
      exact untainted_of_kept clean (fun _ _ => get_of_delete) (fun _ _ => get_of_delete)
  | deviceRegistered =>
    cases happened
    exact untainted_of_kept clean (fun _ _ => get_of_delete) (fun _ _ => get_of_delete)
  | logout =>
    cases happened
    exact fun other entry r stored => by cases (Record.get_empty other).symm.trans stored
  | register userId rows =>
    cases happened
    exact clean

/-- The note on an entry changes at a result only, or it is dropped. -/
theorem latest_kept {event : CacheEvent} (happened : s.perform event = some t) (key : String) (r : FetchRequest)
    (held : t.latest.get key = some r) : s.latest.get key = some r ∨
      ∃ id now outcome, event = .settle id now ∧ s.request id = some r ∧ r.outcome = some outcome ∧
        key = r.key := by
  cases event with
  | fetch arg =>
    cases happened
    exact .inl held
  | answer id failure =>
    obtain ⟨q, found, happened⟩ := Option.bind_eq_some_iff.mp happened
    split at happened
    · cases happened
      exact .inl held
    · cases happened
  | settle id now =>
    obtain ⟨q, found, happened⟩ := Option.bind_eq_some_iff.mp happened
    obtain ⟨outcome, ends, rfl⟩ := Option.map_eq_some_iff.mp happened
    have held : (s.latest.set q.key q).get key = some r := held
    rw [Record.get_set] at held
    by_cases same : key = q.key
    · rw [if_pos same] at held
      cases held
      exact .inr ⟨id, now, outcome, rfl, found, ends, same⟩
    · rw [if_neg same] at held
      exact .inl held
  | invalidate payload =>
    cases happened
    by_cases all : EcmaText.trim (payload.getD "") = ""
    · simp only [all, if_true] at held
      cases (Record.get_empty key).symm.trans held
    · simp only [all, if_false] at held
      exact .inl (get_of_delete held)
  | deviceRegistered =>
    cases happened
    exact .inl (get_of_delete held)
  | logout =>
    cases happened
    cases (Record.get_empty key).symm.trans held
  | register userId rows =>
    cases happened
    exact .inl held

theorem ordered_of_inTime {event : CacheEvent} (happened : s.perform event = some t)
    (inTime : InTime ⟨s, event, t⟩) : ResultsOrdered ⟨s, event, t⟩ := by
  intro key r r' before after
  rcases latest_kept happened key r' after with same | ⟨id, now, outcome, rfl, found, ends, rfl⟩
  · obtain rfl := Option.some.inj (before.symm.trans same)
    exact Nat.le_refl _
  · exact Nat.le_of_lt ((inTime r' found).2 r before)

theorem effective_of_untainted (inv : Consistent s) (clean : Untainted s) : InvalidationsEffective s := by
  intro userId entry now found fresh
  have succeeded : entry.status = .succeeded := by
    have parts := Bool.and_eq_true_iff.mp fresh
    exact of_decide_eq_true parts.1
  obtain ⟨r, held, items⟩ := inv.entries _ entry found (.inl succeeded)
  exact ⟨r, held, clean _ entry r found (.inl succeeded) held, items⟩

/-- The rows of a send list every device that stayed since the invalidation. -/
theorem sendRows_staying (inv : Consistent s) (clean : Untainted s) {userId : String} {rows : List HybridDeviceRow}
    (sends : s.slice.sendRows userId = some rows) : ∀ row ∈ s.stayingOf (EcmaText.trim userId), row ∈ rows := by
  unfold DevicePublicKeysState.sendRows at sends
  cases found : s.slice.entry userId with
  | none =>
    rw [found] at sends
    cases sends
  | some entry =>
    rw [found] at sends
    by_cases unusable : entry.status = .failed ∨ entry.items = []
    · simp only [unusable, if_true] at sends
      cases sends
    · simp only [unusable, if_false] at sends
      obtain rfl := Option.some.inj sends
      have filled : entry.items ≠ [] := fun empty => unusable (.inr empty)
      obtain ⟨r, held, items⟩ := inv.entries _ entry found (.inr filled)
      have clear := clean _ entry r found (.inr filled) held
      have answer : r.answer = some (.ok r.rows) := by
        unfold FetchRequest.rows at items ⊢
        cases given : r.answer with
        | none =>
          rw [given] at items
          exact absurd items filled
        | some answer =>
          cases answer with
          | ok rows => rfl
          | error p =>
            rw [given] at items
            exact absurd items filled
      rw [items]
      exact inv.held _ r held clear r.rows answer

theorem sendsWrap_of_untainted (inv : Consistent s) (clean : Untainted s) : SendsWrapJoined s := by
  intro recipient recipientRows selfRows toRecipient toSelf row stays nonblank
  have trimmed : EcmaText.trim "me" = "me" := by decide
  have fromRecipient := sendRows_staying inv clean toRecipient row
  have fromSelf := sendRows_staying inv clean toSelf row
  rw [trimmed] at fromSelf
  have listed : row ∈ [recipientRows, selfRows].flatten := by
    rcases stays with there | here
    · exact List.mem_flatten.mpr ⟨recipientRows, List.mem_cons_self .., fromRecipient there⟩
    · exact List.mem_flatten.mpr
        ⟨selfRows, List.mem_cons_of_mem _ (List.mem_cons_self ..), fromSelf here⟩
  exact merged_of_mem [recipientRows, selfRows] listed nonblank

theorem inTime_of_effective (inv : Consistent s) {event : CacheEvent} (happened : s.perform event = some t)
    (effective : InvalidationsEffective t) (ordered : ResultsOrdered ⟨s, event, t⟩) :
    InTime ⟨s, event, t⟩ := by
  cases event with
  | settle id now =>
    intro r found
    obtain ⟨q, same, happened⟩ := Option.bind_eq_some_iff.mp happened
    obtain rfl := Option.some.inj (found.symm.trans same)
    obtain ⟨outcome, ends, rfl⟩ := Option.map_eq_some_iff.mp happened
    have noted : (s.latest.set r.key r).get r.key = some r := Record.get_set_self _ _ _
    constructor
    · rintro ⟨result, ok⟩
      obtain rfl := Option.some.inj (ends.symm.trans ok)
      have stored := settled_entry (s := s) ends now r.key
      rw [if_pos rfl] at stored
      have fresh : isDevicePublicKeysCacheFresh (some (resultEntry now (.ok result))) now = true := by
        simp [isDevicePublicKeysCacheFresh, resultEntry, DEVICE_PUBLIC_KEYS_CACHE_TTL_MS]
      obtain ⟨o, held, clear, -⟩ := effective r.arg _ now stored fresh
      obtain rfl := Option.some.inj (noted.symm.trans held)
      exact clear
    · intro later before
      have order := ordered r.key later r before noted
      have different := inv.latestSettled r.key later before r (request_mem found).1
      omega
  | _ => trivial

end Steps

theorem initial_consistent : Consistent ({} : CacheSession) where
  issued r listed := by cases listed
  distinct := List.nodup_nil
  latestIssued key r held := by cases (Record.get_empty key).symm.trans held
  latestSettled key r held := by cases (Record.get_empty key).symm.trans held
  staying key row member := by cases member
  answered r listed := by cases listed
  held key r held := by cases (Record.get_empty key).symm.trans held
  entries key entry stored := by cases (Record.get_empty key).symm.trans stored

theorem initial_untainted : Untainted ({} : CacheSession) :=
  fun key entry r stored => by cases (Record.get_empty key).symm.trans stored

/-- In a run of fetches, answers, results, invalidations, registrations and sign-outs in any
order, the invalidations are effective, the results ordered and the sends wrap for the devices
that joined, at every step, exactly when every result comes in time. -/
theorem invalidations_effective_iff {start final : CacheSession} {history : List CacheTransition}
    (begins : cacheMachine.init start) (run : cacheMachine.Run start history final) :
    (∀ t ∈ history, InTime t) ↔
      ∀ t ∈ history, InvalidationsEffective t.target ∧ ResultsOrdered t ∧ SendsWrapJoined t.target := by
  obtain rfl : start = {} := begins
  constructor
  · intro inTime t taken
    have recorded := run.recorded_of_forall (I := fun s => Consistent s ∧ Untainted s) (C := InTime)
      (fun s event t inv step timely => ⟨inv.1.perform step, inv.2.perform step timely⟩)
      ⟨initial_consistent, initial_untainted⟩ inTime t taken
    obtain ⟨step, -, inv, clean⟩ := recorded
    exact ⟨effective_of_untainted inv clean, ordered_of_inTime step (inTime t taken),
      sendsWrap_of_untainted inv clean⟩
  · intro good t taken
    obtain ⟨step, inv⟩ := run.recorded (I := Consistent) (fun s event t inv step => inv.perform step)
      initial_consistent t taken
    obtain ⟨effective, ordered, -⟩ := good t taken
    exact inTime_of_effective inv step effective ordered

section Runs

def phone : HybridDeviceRow := ⟨"phone", "k1"⟩

def laptop : HybridDeviceRow := ⟨"laptop", "k2"⟩

def ran (events : List CacheEvent) : Option (List CacheTransition × CacheSession) :=
  Machine.trace CacheSession.perform {} events

theorem ran_run {events : List CacheEvent} {history : List CacheTransition} {final : CacheSession}
    (executed : ran events = some (history, final)) : cacheMachine.Run {} history final :=
  Machine.trace_run _ (fun _ _ _ taken => taken) executed

/-- The laptop joins, the cache is invalidated, and the next fetch lists both devices. -/
theorem invalidations_effective_refetched :
    ∃ history final, cacheMachine.Run {} history final ∧ final.slice.sendRows "me" = some [phone, laptop] ∧
      ∀ t ∈ history, InvalidationsEffective t.target ∧ ResultsOrdered t ∧ SendsWrapJoined t.target := by
  have checked : (ran [.register "me" [phone], .fetch "me", .answer 0 none, .settle 0 1000,
      .register "me" [phone, laptop], .invalidate (some "me"), .fetch "me", .answer 1 none,
      .settle 1 2000]).bind (fun executed =>
        if executed.1.all inTime then executed.2.slice.sendRows "me" else none) =
      some [phone, laptop] := by decide
  obtain ⟨⟨history, final⟩, executed, rows⟩ := Option.bind_eq_some_iff.mp checked
  split at rows
  · rename_i all
    refine ⟨history, final, ran_run executed, rows, ?_⟩
    exact (invalidations_effective_iff rfl (ran_run executed)).mp fun t taken =>
      (inTime_iff t).mp (List.all_eq_true.mp all t taken)
  · cases rows

/-- A fetch from before the laptop joined ends after the invalidation. -/
theorem stale_rows_cached :
    ¬ ∀ (start final : CacheSession) (history : List CacheTransition), cacheMachine.init start →
      cacheMachine.Run start history final →
      ∀ t ∈ history, InvalidationsEffective t.target ∧ ResultsOrdered t ∧ SendsWrapJoined t.target := by
  intro claim
  have checked : (ran [.register "me" [phone], .fetch "me", .answer 0 none,
      .register "me" [phone, laptop], .invalidate (some "me"), .settle 0 1000]).bind (fun executed =>
        executed.1.getLast?.map fun t => (t.target.slice.entry "me",
          (t.target.latest.get "me").map FetchRequest.invalidated)) =
      some (some { status := .succeeded, items := [phone], cachedAtMs := some 1000 }, some true) := by decide
  obtain ⟨⟨history, final⟩, executed, last⟩ := Option.bind_eq_some_iff.mp checked
  obtain ⟨t, found, same⟩ := Option.map_eq_some_iff.mp last
  obtain ⟨stored, note⟩ := Prod.mk.inj same
  have good := (claim {} final history rfl (ran_run executed) t (List.mem_of_getLast? found)).1
  obtain ⟨r, held, clear, -⟩ := good "me" _ 1000 stored (by decide)
  have trimmed : EcmaText.trim "me" = "me" := by decide
  rw [trimmed] at held
  rw [held, Option.map_some, clear] at note
  cases note

end Runs

end MessagingSystem.Guarantees.DeviceKeyCache
