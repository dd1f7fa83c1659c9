import MessagingSystem.Foundation.LastWrite
import MessagingSystem.Source.Client.ConversationListCache

/-!
# Bumps of the conversation list

A bump overwrites the time of its conversation, so the list holds the last bump to
arrive. It is the latest one, whatever the order, exactly when the bumps of each
listed conversation arrive in the order of their times.
-/
namespace MessagingSystem.Guarantees.ConversationBumps
open Foundation Foundation.LastWrite Source.Server Source.Client

/-- `new Date(text).getTime()` reads what `toISOString` writes. -/
def ReadsDates (getTime : String → Int) : Prop :=
  ∀ ms ≤ EcmaDate.maxTime, getTime (EcmaDate.toISOString ms) = ms

def IsoDate (text : String) : Prop := ∃ ms ≤ EcmaDate.maxTime, text = EcmaDate.toISOString ms

/-- A page as `GET /conversations` answers it. -/
structure ListedPage (getTime : String → Int) where
  page : ListPage ApiConversation
  distinct : (conversationIds page.items).Nodup
  newestFirst : NewestFirst getTime page.items
  dated : ∀ c ∈ page.items, IsoDate c.updatedAt

/-- A call with an optimistic time, the time of an acknowledgement or that of a `message:new`. -/
structure Bump where
  conversationId : String
  updatedAtIso : String
  dated : IsoDate updatedAtIso

section Contract

variable (getTime : String → Int)

def runBumps (page : ListPage ApiConversation) (bumps : List Bump) : ListPage ApiConversation :=
  bumps.foldl (fun page b =>
    (applyConversationBumpedActivity getTime page b.conversationId b.updatedAtIso).next) page

/-- A conversation but for its time. -/
def untimed (c : ApiConversation) : ApiConversation := { c with updatedAt := "" }

/-- No conversation's time is smaller than it was. -/
def NeverFalls (before after : ListPage ApiConversation) : Prop :=
  ∀ c ∈ before.items, ∀ d ∈ after.items, c.id = d.id → getTime c.updatedAt ≤ getTime d.updatedAt

def DistinctTimes (page : ListPage ApiConversation) : Prop :=
  (page.items.map fun c => getTime c.updatedAt).Nodup

/-- What one order of bumps keeps. -/
structure BumpsListed (page : ListPage ApiConversation) (bumps : List Bump) : Prop where
  permuted : ((runBumps getTime page bumps).items.map untimed).Perm (page.items.map untimed)
  newestFirst : NewestFirst getTime (runBumps getTime page bumps).items
  rising : ∀ done bump rest, bumps = done ++ bump :: rest →
    NeverFalls getTime (runBumps getTime page done) (runBumps getTime page (done ++ [bump]))

/-- The contract of the list for two orders of the same bumps. -/
structure BumpsCommute (page : ListPage ApiConversation) (first second : List Bump) : Prop where
  listed : BumpsListed getTime page first
  listed' : BumpsListed getTime page second
  same : DistinctTimes getTime (runBumps getTime page first) →
    DistinctTimes getTime (runBumps getTime page second) →
    runBumps getTime page first = runBumps getTime page second

/-- The times that a page holds, and then those of the bumps of its conversations as they arrive. -/
def activity (page : ListPage ApiConversation) (bumps : List Bump) : List (String × Int) :=
  (page.items.map fun c => (c.id, getTime c.updatedAt)) ++
    ((bumps.filter fun b => b.conversationId ∈ conversationIds page.items).map fun b =>
      (b.conversationId, getTime b.updatedAtIso))

/-- The times of each listed conversation come in ascending order. -/
def InTimeOrder (page : ListPage ApiConversation) (bumps : List Bump) : Prop :=
  Ascending (activity getTime page bumps)

end Contract

section Runs

variable {getTime : String → Int} (page : ListedPage getTime) (bumps : List Bump) (b : Bump)

/-- The row that bumps leave of a conversation. -/
def settled (bumps : List Bump) (c : ApiConversation) : ApiConversation :=
  bumps.foldl (fun c b => bumpedRow b.conversationId b.updatedAtIso c) c

theorem settled_snoc (c : ApiConversation) :
    settled (bumps ++ [b]) c = bumpedRow b.conversationId b.updatedAtIso (settled bumps c) := by
  unfold settled
  rw [List.foldl_append]
  rfl

theorem runBumps_snoc (page : ListPage ApiConversation) :
    runBumps getTime page (bumps ++ [b]) =
      (applyConversationBumpedActivity getTime (runBumps getTime page bumps) b.conversationId
        b.updatedAtIso).next := by
  unfold runBumps
  rw [List.foldl_append]
  rfl

@[simp] theorem settled_id (c : ApiConversation) : (settled bumps c).id = c.id := by
  induction bumps using List.reverseRecOn with
  | nil => rfl
  | append_singleton bumps b ih => rw [settled_snoc, bumpedRow_id, ih]

theorem settled_untimed (c : ApiConversation) : untimed (settled bumps c) = untimed c := by
  induction bumps using List.reverseRecOn with
  | nil => rfl
  | append_singleton bumps b ih =>
    rw [settled_snoc, ← ih]
    unfold bumpedRow
    split <;> rfl

/-- The time that bumps leave is the row's own or that of a bump. -/
theorem settled_dated {c : ApiConversation} (dated : IsoDate c.updatedAt) :
    IsoDate (settled bumps c).updatedAt := by
  induction bumps using List.reverseRecOn with
  | nil => exact dated
  | append_singleton bumps b ih =>
    rw [settled_snoc]
    unfold bumpedRow
    split
    · exact b.dated
    · exact ih

/-- What a run leaves of a page: the settled rows, the newest first, and the cursor. -/
structure Leaves (next : ListPage ApiConversation) : Prop where
  rows : next.items.Perm (page.page.items.map (settled bumps))
  newestFirst : NewestFirst getTime next.items
  cursor : next.nextCursor = page.page.nextCursor
  more : next.hasMore = page.page.hasMore

variable {page bumps b}

theorem Leaves.ids {next : ListPage ApiConversation} (leaves : Leaves page bumps next) :
    (conversationIds next.items).Perm (conversationIds page.page.items) := by
  have ids := leaves.rows.map ApiConversation.id
  rw [List.map_map] at ids
  have same : ApiConversation.id ∘ settled bumps = ApiConversation.id := funext fun c => settled_id bumps c
  rw [same] at ids
  exact ids

theorem leaves_bump {next : ListPage ApiConversation} (leaves : Leaves page bumps next) :
    Leaves page (bumps ++ [b])
      (applyConversationBumpedActivity getTime next b.conversationId b.updatedAtIso).next := by
  have rows : (next.items.map (bumpedRow b.conversationId b.updatedAtIso)).Perm
      (page.page.items.map (settled (bumps ++ [b]))) := by
    have moved := leaves.rows.map (bumpedRow b.conversationId b.updatedAtIso)
    rw [List.map_map] at moved
    have step : bumpedRow b.conversationId b.updatedAtIso ∘ settled bumps = settled (bumps ++ [b]) :=
      funext fun c => (settled_snoc bumps b c).symm
    rw [step] at moved
    exact moved
  by_cases listed : b.conversationId ∈ conversationIds next.items
  · obtain ⟨items, moved, bumped⟩ := @bump_listed getTime _ _ b.updatedAtIso
      (leaves.ids.nodup_iff.mpr page.distinct) listed
    rw [bumped]
    exact ⟨((List.perm_insertionSort _ items).trans moved).trans rows, sorted_newest_first items,
      leaves.cursor, leaves.more⟩
  · have same : next.items.map (bumpedRow b.conversationId b.updatedAtIso) = next.items := by
      apply (List.map_congr_left (g := id) _).trans (List.map_id _)
      intro c member
      apply if_neg
      intro equal
      exact listed (List.mem_map.mpr ⟨c, member, equal⟩)
    rw [bump_unlisted b.updatedAtIso listed]
    rw [same] at rows
    exact ⟨rows, leaves.newestFirst, leaves.cursor, leaves.more⟩

variable (page bumps) in
theorem run_leaves : Leaves page bumps (runBumps getTime page.page bumps) := by
  induction bumps using List.reverseRecOn with
  | nil =>
    have same : page.page.items.map (settled []) = page.page.items := List.map_id _
    exact ⟨by rw [same]; exact List.Perm.refl _, page.newestFirst, rfl, rfl⟩
  | append_singleton bumps b ih =>
    rw [runBumps_snoc]
    exact leaves_bump ih

/-- The rows of a page are told by their ids. -/
theorem ListedPage.eq_of_id {c d : ApiConversation} (member : c ∈ page.page.items)
    (member' : d ∈ page.page.items) (same : c.id = d.id) : c = d :=
  List.inj_on_of_nodup_map page.distinct member member' same

end Runs

section Times

variable {getTime : String → Int} {page : ListedPage getTime} {bumps : List Bump} {b : Bump}
  {c : ApiConversation}

theorem activity_listed (listed : b.conversationId ∈ conversationIds page.page.items) :
    activity getTime page.page (bumps ++ [b]) =
      activity getTime page.page bumps ++ [(b.conversationId, getTime b.updatedAtIso)] := by
  unfold activity
  rw [List.filter_append, List.map_append, List.append_assoc]
  simp [listed]

theorem activity_unlisted (unlisted : b.conversationId ∉ conversationIds page.page.items) :
    activity getTime page.page (bumps ++ [b]) = activity getTime page.page bumps := by
  unfold activity
  rw [List.filter_append, List.map_append]
  simp [unlisted]

theorem activity_nil :
    activity getTime page.page [] = page.page.items.map fun c => (c.id, getTime c.updatedAt) :=
  List.append_nil _

theorem keys_distinct : ((activity getTime page.page []).map Prod.fst).Nodup := by
  rw [activity_nil, List.map_map]
  exact page.distinct

/-- A bump of a conversation that is not listed settles no row. -/
theorem settled_unlisted (unlisted : b.conversationId ∉ conversationIds page.page.items)
    (member : c ∈ page.page.items) : settled (bumps ++ [b]) c = settled bumps c := by
  rw [settled_snoc]
  apply if_neg
  rw [settled_id]
  intro same
  exact unlisted (List.mem_map.mpr ⟨c, member, same⟩)

/-- A settled row holds the last time of its conversation. -/
theorem lastOf_activity (member : c ∈ page.page.items) :
    lastOf c.id (activity getTime page.page bumps) = some (getTime (settled bumps c).updatedAt) := by
  induction bumps using List.reverseRecOn with
  | nil =>
    apply lastOf_of_nodup keys_distinct
    rw [activity_nil]
    exact List.mem_map.mpr ⟨c, member, rfl⟩
  | append_singleton bumps b ih =>
    rw [settled_snoc]
    by_cases listed : b.conversationId ∈ conversationIds page.page.items
    · rw [activity_listed listed, lastOf_append, bumpedRow, settled_id]
      by_cases same : b.conversationId = c.id
      · rw [if_pos same, if_pos same.symm]
      · rw [if_neg same, if_neg fun equal => same equal.symm]
        exact ih
    · rw [activity_unlisted listed, ← settled_snoc, settled_unlisted listed member]
      exact ih

/-- No time falls at one more bump exactly when no settled row falls. -/
theorem neverFalls_iff_settled :
    NeverFalls getTime (runBumps getTime page.page bumps) (runBumps getTime page.page (bumps ++ [b])) ↔
      ∀ c ∈ page.page.items,
        getTime (settled bumps c).updatedAt ≤ getTime (settled (bumps ++ [b]) c).updatedAt := by
  have rows := (run_leaves page bumps).rows
  have rows' := (run_leaves page (bumps ++ [b])).rows
  constructor
  · intro never c member
    apply never _ (rows.mem_iff.mpr (List.mem_map_of_mem member)) _
      (rows'.mem_iff.mpr (List.mem_map_of_mem member))
    rw [settled_id, settled_id]
  · intro falls c member d member' same
    obtain ⟨x, listed, rfl⟩ := List.mem_map.mp (rows.mem_iff.mp member)
    obtain ⟨y, listed', rfl⟩ := List.mem_map.mp (rows'.mem_iff.mp member')
    rw [settled_id, settled_id] at same
    obtain rfl := page.eq_of_id listed listed' same
    exact falls x listed

/-- One more bump keeps the times exactly when it keeps their order. -/
theorem inTimeOrder_snoc :
    InTimeOrder getTime page.page (bumps ++ [b]) ↔ InTimeOrder getTime page.page bumps ∧
      NeverFalls getTime (runBumps getTime page.page bumps) (runBumps getTime page.page (bumps ++ [b])) := by
  unfold InTimeOrder
  rw [neverFalls_iff_settled]
  by_cases listed : b.conversationId ∈ conversationIds page.page.items
  · rw [activity_listed listed, ascending_append_iff, and_congr_right_iff]
    intro _
    obtain ⟨row, member, same⟩ := List.mem_map.mp listed
    have held := @lastOf_activity _ _ bumps _ member
    rw [same] at held
    constructor
    · intro bound c member'
      rw [settled_snoc, bumpedRow]
      split
      · rename_i equal
        rw [settled_id] at equal
        obtain rfl := page.eq_of_id member member' (same.trans equal.symm)
        exact bound _ held
      · exact le_refl _
    · intro rises last held'
      obtain rfl := Option.some.inj (held'.symm.trans held)
      have risen := rises row member
      rw [settled_snoc, bumpedRow, if_pos ((settled_id bumps row).trans same)] at risen
      exact risen
  · rw [activity_unlisted listed]
    constructor
    · intro ascending
      refine ⟨ascending, fun c member => ?_⟩
      rw [settled_unlisted listed member]
    · exact fun both => both.1

/-- No conversation's time falls in a run exactly when the times of each come in order. -/
theorem rising_iff :
    (∀ done bump rest, bumps = done ++ bump :: rest →
      NeverFalls getTime (runBumps getTime page.page done) (runBumps getTime page.page (done ++ [bump]))) ↔
      InTimeOrder getTime page.page bumps := by
  induction bumps using List.reverseRecOn with
  | nil =>
    constructor
    · intro _
      apply (List.pairwise_map.mp keys_distinct).imp
      exact fun apart same => absurd same apart
    · intro _ done bump rest run
      simp at run
  | append_singleton bumps b ih =>
    rw [inTimeOrder_snoc, ← ih]
    constructor
    · intro rises
      constructor
      · intro done bump rest run
        exact rises done bump (rest ++ [b]) (by rw [run, List.append_assoc, List.cons_append])
      · exact rises bumps b [] rfl
    · intro both done bump rest run
      rcases List.eq_nil_or_concat rest with last | ⟨rest', b', more⟩
      · subst last
        obtain ⟨rfl, last⟩ := List.append_inj' run rfl
        cases last
        exact both.2
      · subst more
        rw [List.concat_eq_append, ← List.cons_append, ← List.append_assoc] at run
        obtain ⟨rfl, -⟩ := List.append_inj' run rfl
        exact both.1 done bump rest' rfl

theorem run_listed (order : InTimeOrder getTime page.page bumps) : BumpsListed getTime page.page bumps := by
  have leaves := run_leaves page bumps
  refine ⟨?_, leaves.newestFirst, rising_iff.mpr order⟩
  have permuted := leaves.rows.map untimed
  rw [List.map_map] at permuted
  have same : untimed ∘ settled bumps = untimed := funext fun c => settled_untimed bumps c
  rw [same] at permuted
  exact permuted

end Times

section Orders

variable {getTime : String → Int} {page : ListedPage getTime} {first second : List Bump}

theorem ReadsDates.eq_of_time (reads : ReadsDates getTime) {text text' : String} (dated : IsoDate text)
    (dated' : IsoDate text') (same : getTime text = getTime text') : text = text' := by
  obtain ⟨ms, valid, rfl⟩ := dated
  obtain ⟨ms', valid', rfl⟩ := dated'
  rw [reads ms valid, reads ms' valid'] at same
  rw [Int.ofNat.inj same]

theorem eq_of_untimed {c d : ApiConversation} (rest : untimed c = untimed d)
    (text : c.updatedAt = d.updatedAt) : c = d := by
  cases c
  cases d
  simp only [untimed, ApiConversation.mk.injEq, and_true] at rest text ⊢
  simp [rest, text]

theorem activity_perm (orders : first.Perm second) :
    (activity getTime page.page first).Perm (activity getTime page.page second) :=
  ((orders.filter _).map _).append_left _

/-- Two orders that keep the times settle every row alike. -/
theorem settled_eq (reads : ReadsDates getTime) (orders : first.Perm second)
    (order : InTimeOrder getTime page.page first) (order' : InTimeOrder getTime page.page second)
    {c : ApiConversation} (member : c ∈ page.page.items) : settled first c = settled second c := by
  have last := Ascending.lastOf_eq_of_perm (activity_perm orders) order order' c.id
  rw [lastOf_activity member, lastOf_activity member] at last
  have text : (settled first c).updatedAt = (settled second c).updatedAt :=
    reads.eq_of_time (settled_dated first (page.dated c member)) (settled_dated second (page.dated c member))
      (Option.some.inj last)
  have rest : untimed (settled first c) = untimed (settled second c) :=
    (settled_untimed first c).trans (settled_untimed second c).symm
  exact eq_of_untimed rest text

theorem run_eq (reads : ReadsDates getTime) (orders : first.Perm second)
    (order : InTimeOrder getTime page.page first) (order' : InTimeOrder getTime page.page second)
    (distinct : DistinctTimes getTime (runBumps getTime page.page first)) :
    runBumps getTime page.page first = runBumps getTime page.page second := by
  have leaves := run_leaves page first
  have leaves' := run_leaves page second
  have rows : page.page.items.map (settled first) = page.page.items.map (settled second) :=
    List.map_congr_left fun c member => settled_eq reads orders order order' member
  have permuted : (runBumps getTime page.page first).items.Perm (runBumps getTime page.page second).items := by
    have both := leaves'.rows.symm
    rw [← rows] at both
    exact leaves.rows.trans both
  have items : (runBumps getTime page.page first).items = (runBumps getTime page.page second).items := by
    apply permuted.eq_of_pairwise _ leaves.newestFirst leaves'.newestFirst
    intro c d member member' le le'
    exact List.inj_on_of_nodup_map distinct member (permuted.mem_iff.mpr member') (le_antisymm le' le)
  have cursor := leaves.cursor.trans leaves'.cursor.symm
  have more := leaves.more.trans leaves'.more.symm
  cases run : runBumps getTime page.page first
  cases run' : runBumps getTime page.page second
  rw [run, run'] at items cursor more
  rw [ListPage.mk.injEq]
  exact ⟨items, cursor, more⟩

end Orders

/-- Bumps commute, and no time falls, exactly when in both orders the bumps of each
listed conversation come in the order of their times, none before the time listed. -/
theorem bumps_commute_iff {getTime : String → Int} (reads : ReadsDates getTime) (page : ListedPage getTime)
    {first second : List Bump} (orders : first.Perm second) :
    BumpsCommute getTime page.page first second ↔
      InTimeOrder getTime page.page first ∧ InTimeOrder getTime page.page second := by
  constructor
  · intro contract
    exact ⟨rising_iff.mp contract.listed.rising, rising_iff.mp contract.listed'.rising⟩
  · intro ⟨order, order'⟩
    exact ⟨run_listed order, run_listed order', fun distinct _ => run_eq reads orders order order' distinct⟩

section Example

/-- `getTime` on the texts of `toISOString`. -/
def isoTime (text : String) : Int := ((EcmaDate.parseISOString text).getD 0 : Nat)

theorem isoTime_reads : ReadsDates isoTime := by
  intro ms valid
  unfold isoTime
  rw [EcmaDate.parseISOString_toISOString valid]
  rfl

theorem isoDate_small {ms : Nat} (small : ms ≤ 4000) : IsoDate (EcmaDate.toISOString ms) :=
  ⟨ms, le_trans small (by decide), rfl⟩

/-- A direct thread with its last activity. -/
def threadAt (id : String) (ms : Nat) : ApiConversation := ⟨id, none, false, none, EcmaDate.toISOString ms⟩

theorem isoTime_small {ms : Nat} (small : ms ≤ 4000) : isoTime (EcmaDate.toISOString ms) = ms :=
  isoTime_reads ms (le_trans small (by decide))

/-- The threads with Bob and with Carol. -/
def twoThreads : ListedPage isoTime where
  page := ⟨[threadAt "bob" 2000, threadAt "carol" 1000], none, false⟩
  distinct := by decide
  newestFirst := by
    simp [NewestFirst, threadAt, isoTime_small]
  dated := by
    simp [threadAt, isoDate_small]

/-- A message at the given time. -/
def messageAt (id : String) (ms : Nat) (small : ms ≤ 4000) : Bump :=
  ⟨id, EcmaDate.toISOString ms, isoDate_small small⟩

theorem bumps_commute_iff_threads : BumpsCommute isoTime twoThreads.page
    [messageAt "bob" 3000 (by decide), messageAt "carol" 4000 (by decide)]
    [messageAt "carol" 4000 (by decide), messageAt "bob" 3000 (by decide)] := by
  apply (bumps_commute_iff isoTime_reads twoThreads (List.Perm.swap _ _ _)).mpr
  simp [InTimeOrder, Ascending, activity, twoThreads, conversationIds, threadAt, messageAt, isoTime_small]

/-- The `message:new` of the older of two messages arrives last: the thread falls back. -/
theorem late_message_falls : ¬ BumpsCommute isoTime twoThreads.page
    [messageAt "bob" 4000 (by decide), messageAt "bob" 3000 (by decide)]
    [messageAt "bob" 3000 (by decide), messageAt "bob" 4000 (by decide)] := by
  intro contract
  have order := rising_iff.mp contract.listed.rising
  simp [InTimeOrder, Ascending, activity, twoThreads, conversationIds, threadAt, messageAt,
    isoTime_small] at order

end Example

end MessagingSystem.Guarantees.ConversationBumps
