import MessagingSystem.Source.Server.ListPages

/-!
# The cached list of conversations

`conversationListCache.ts`, over the page of `GET /conversations`. `getTime` is
`new Date(text).getTime()`.
-/
namespace MessagingSystem.Source.Client
open Foundation Source.Server

section Cache

variable (getTime : String → Int)

/-- `[...items].sort`, which is stable. -/
def sortConversationsNewestFirst (items : List ApiConversation) : List ApiConversation :=
  items.insertionSort fun a b => getTime b.updatedAt ≤ getTime a.updatedAt

/-- What `applyConversationBumpedActivity` returns. -/
structure BumpedActivity where
  next : ListPage ApiConversation
  found : Bool

def applyConversationBumpedActivity (page : ListPage ApiConversation) (conversationId updatedAtIso : String) :
    BumpedActivity :=
  match page.items.findIdx? fun c => c.id = conversationId with
  | none => ⟨page, false⟩
  | some idx =>
      let bumped := page.items[idx]?.map fun row => { row with updatedAt := updatedAtIso }
      let rest := page.items.eraseIdx idx
      ⟨{ page with items := sortConversationsNewestFirst getTime (bumped.toList ++ rest) }, true⟩

end Cache

section Items

variable {getTime : String → Int}

/-- A conversation whose activity was bumped, if it is the named one. -/
def bumpedRow (conversationId updatedAtIso : String) (c : ApiConversation) : ApiConversation :=
  if c.id = conversationId then { c with updatedAt := updatedAtIso } else c

/-- The ids of conversations. -/
def conversationIds (items : List ApiConversation) : List String := items.map ApiConversation.id

/-- The newest conversation comes first. -/
def NewestFirst (getTime : String → Int) (items : List ApiConversation) : Prop :=
  items.Pairwise fun a b => getTime b.updatedAt ≤ getTime a.updatedAt

@[simp] theorem bumpedRow_id (conversationId updatedAtIso : String) (c : ApiConversation) :
    (bumpedRow conversationId updatedAtIso c).id = c.id := by
  unfold bumpedRow
  split <;> rfl

theorem sorted_newest_first (items : List ApiConversation) :
    NewestFirst getTime (sortConversationsNewestFirst getTime items) := by
  have total : Std.Total fun a b : ApiConversation => getTime b.updatedAt ≤ getTime a.updatedAt :=
    ⟨fun a b => le_total _ _⟩
  have transitive : IsTrans ApiConversation fun a b => getTime b.updatedAt ≤ getTime a.updatedAt :=
    ⟨fun _ _ _ first second => le_trans second first⟩
  exact List.pairwise_insertionSort _ items

/-- A bump of a conversation that is not listed changes nothing. -/
theorem bump_unlisted {page : ListPage ApiConversation} {conversationId : String} (text : String)
    (unlisted : conversationId ∉ conversationIds page.items) :
    (applyConversationBumpedActivity getTime page conversationId text).next = page := by
  have absent : page.items.findIdx? (fun c => c.id = conversationId) = none := by
    rw [List.findIdx?_eq_none_iff]
    intro c member
    simp only [decide_eq_false_iff_not]
    intro same
    exact unlisted (List.mem_map.mpr ⟨c, member, same⟩)
  unfold applyConversationBumpedActivity
  rw [absent]

/-- A bump of a listed conversation rewrites its row and sorts the page. -/
theorem bump_listed {page : ListPage ApiConversation} {conversationId : String} (text : String)
    (distinct : (conversationIds page.items).Nodup) (listed : conversationId ∈ conversationIds page.items) :
    ∃ items, items.Perm (page.items.map (bumpedRow conversationId text)) ∧
      (applyConversationBumpedActivity getTime page conversationId text).next =
        { page with items := sortConversationsNewestFirst getTime items } := by
  obtain ⟨idx, found⟩ : ∃ idx, page.items.findIdx? (fun c => c.id = conversationId) = some idx := by
    apply Option.ne_none_iff_exists'.mp
    intro absent
    obtain ⟨c, member, same⟩ := List.mem_map.mp listed
    have other := List.findIdx?_eq_none_iff.mp absent c member
    simp [same] at other
  obtain ⟨inside, same, -⟩ := List.findIdx?_eq_some_iff_getElem.mp found
  simp only [decide_eq_true_eq] at same
  have split : (page.items[idx] :: page.items.eraseIdx idx).Perm page.items :=
    List.getElem_cons_eraseIdx_perm inside
  have others : (page.items.eraseIdx idx).map (bumpedRow conversationId text) = page.items.eraseIdx idx := by
    have apart : (conversationIds (page.items[idx] :: page.items.eraseIdx idx)).Nodup :=
      (split.map ApiConversation.id).nodup_iff.mpr distinct
    apply (List.map_congr_left (g := id) _).trans (List.map_id _)
    intro c member
    apply if_neg
    intro equal
    exact (List.nodup_cons.mp apart).1 (List.mem_map.mpr ⟨c, member, equal.trans same.symm⟩)
  refine ⟨{ page.items[idx] with updatedAt := text } :: page.items.eraseIdx idx, ?_, ?_⟩
  · have moved := split.map (bumpedRow conversationId text)
    rw [List.map_cons, others, bumpedRow, if_pos same] at moved
    exact moved
  · unfold applyConversationBumpedActivity
    rw [found]
    simp [inside]

end Items

end MessagingSystem.Source.Client
