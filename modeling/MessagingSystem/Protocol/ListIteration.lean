import MessagingSystem.Foundation.Transition
import MessagingSystem.Source.Server.ListStores

/-!
# Reading a list page by page

A client that asks for a list without a cursor and then with the `nextCursor` of
the page before, until `hasMore` is false. Between two requests the service may
execute any commands of other requests. Such a reader scans the rows of the list.
-/
namespace MessagingSystem.Protocol
open Foundation Source.Server Keyset

section Still

variable {β : Type}

/-- The items of the pages from a cursor on, read with `n` requests at most. -/
def readAll (endpoint : Option String → Except AppError (ListPage β)) : Nat → Option String → Option (List β)
  | 0, _ => none
  | n + 1, cursor =>
      match endpoint cursor with
      | .ok page => if page.hasMore then (readAll endpoint n page.nextCursor).map (page.items ++ ·)
          else some page.items
      | .error _ => none

end Still

structure ListReader (β : Type) where
  db : Database
  cursor : Option String := none
  items : List β := []
  finished : Bool := false

inductive ListEvent where
  | request
  | served {γ : Type} (command : ServerCommand γ)

/-- Its ids and times are those of a running service. -/
def ListEvent.Stamped : ListEvent → Prop
  | .request => True
  | .served command => command.Stamped

/-- The thread in which a message is sent, and when. -/
def ListEvent.touched : ListEvent → Option (String × Nat)
  | .request => none
  | .served command => command.touched

section Machine

variable {β : Type} (endpoint : Database → Option String → Except AppError (ListPage β))

/-- The reader once a page has arrived. -/
def ListReader.receive (r : ListReader β) (page : ListPage β) : ListReader β :=
  { r with
    cursor := page.nextCursor
    items := r.items ++ page.items
    finished := !page.hasMore }

def readerNext (r : ListReader β) : ListEvent → Option (ListReader β)
  | .request =>
      if r.finished then none
      else
        match endpoint r.db r.cursor with
        | .ok page => some (r.receive page)
        | .error _ => none
  | .served command => some { r with db := (command.exec r.db).2 }

def listMachine : Machine (ListReader β) ListEvent where
  init r := r.cursor = none ∧ r.items = [] ∧ r.finished = false
  step r event r' := readerNext endpoint r event = some r'

end Machine

section Reads

variable {α β : Type} {place : α → ListCursor} {toApi : α → β} {dateParse : String → Option Nat} {limit : Nat}

/-- A cursor and the place it stands for. -/
structure Bounds (cursor : Option String) (bound : Option (Nat ×ₗ String)ᵒᵈ) (boundary : Option ListCursor) :
    Prop where
  cursor : cursor = boundary.map encodeListCursor
  bound : bound = boundary.map ListCursor.newestFirst
  plain : ∀ c, boundary = some c → c.Plain

variable {rows : List α} {cursor : Option String} {bound : Option (Nat ×ₗ String)ᵒᵈ}
  {boundary : Option ListCursor} {endpoint : Option String → Except AppError (ListPage β)}

theorem pageCap_pos (limit : Nat) : 0 < pageCap limit := by
  unfold pageCap MAX_LIST_LIMIT
  omega

theorem Bounds.parsed (reads : ReadsISO dateParse) (bounds : Bounds cursor bound boundary) :
    cursorBoundary (parseListCursor dateParse) cursor = .ok boundary := by
  rw [bounds.cursor]
  cases boundary with
  | none => rfl
  | some c => exact cursorBoundary_encode reads (bounds.plain c rfl)

/-- The page that answers a cursor of the list. -/
theorem Bounds.answered (reads : ReadsISO dateParse) (lists : Lists dateParse place toApi limit rows endpoint)
    (bounds : Bounds cursor bound boundary) :
    endpoint cursor = .ok (listResult place encodeListCursor toApi
      (page (listKey place) (pageCap limit) bound rows)) := by
  rw [lists cursor boundary (bounds.parsed reads), bounds.bound]

/-- The cursor of a page that is not the last one. -/
theorem next_bounds (listable : Listable place rows)
    (more : (page (listKey place) (pageCap limit) bound rows).2 = true) :
    ∃ next, Bounds
      (listResult place encodeListCursor toApi (page (listKey place) (pageCap limit) bound rows)).nextCursor
      (boundAfter (listKey place) bound (page (listKey place) (pageCap limit) bound rows).1) (some next) := by
  have positive := pageCap_pos limit
  have longer := more
  rw [page_more listable.keys] at longer
  have present : (page (listKey place) (pageCap limit) bound rows).1 ≠ [] := by
    rw [page_items listable.keys]
    apply List.ne_nil_of_length_pos
    have rest := of_decide_eq_true longer
    rw [List.length_take]
    omega
  obtain ⟨last, ends⟩ : ∃ last, (page (listKey place) (pageCap limit) bound rows).1.getLast? = some last :=
    ⟨_, List.getLast?_eq_some_getLast present⟩
  have member : last ∈ rows := by
    have among := List.mem_of_getLast? ends
    rw [page_items listable.keys] at among
    exact (mem_after.mp (List.mem_of_mem_take among)).1
  refine ⟨place last, ?_, ?_, ?_⟩
  · unfold listResult
    dsimp only
    rw [if_pos more, ends]
    rfl
  · unfold boundAfter
    rw [ends]
    rfl
  · rintro c same
    cases same
    exact listable.plain last member

theorem readAll_eq_pages (reads : ReadsISO dateParse) (listable : Listable place rows)
    (lists : Lists dateParse place toApi limit rows endpoint) (n : Nat)
    (bounds : Bounds cursor bound boundary) :
    readAll endpoint n cursor =
      (pages (listKey place) (pageCap limit) rows n bound).map (List.map toApi) := by
  induction n generalizing cursor bound boundary with
  | zero => rfl
  | succ n ih =>
    unfold readAll pages
    rw [bounds.answered reads lists]
    dsimp only
    by_cases more : (page (listKey place) (pageCap limit) bound rows).2 = true
    · obtain ⟨next, following⟩ := @next_bounds _ _ place toApi limit rows bound listable more
      have here : (listResult place encodeListCursor toApi
          (page (listKey place) (pageCap limit) bound rows)).hasMore = true := more
      rw [if_pos here, if_pos more, ih following, Option.map_map, Option.map_map]
      congr 1
      funext later
      exact List.map_append.symm
    · have here : ¬ (listResult place encodeListCursor toApi
          (page (listKey place) (pageCap limit) bound rows)).hasMore = true := more
      rw [if_neg here, if_neg more]
      rfl

/-- The rows of a list, newest first. -/
def newestRows (place : α → ListCursor) (rows : List α) : List α := sorted (listKey place) rows

/-- A list that does not change is read to its end, each row once. -/
theorem readAll_whole (reads : ReadsISO dateParse) (listable : Listable place rows)
    (lists : Lists dateParse place toApi limit rows endpoint) :
    readAll endpoint (rows.length + 1) none = some ((newestRows place rows).map toApi) := by
  have start : Bounds none none none := ⟨rfl, rfl, by simp⟩
  have count : (after (listKey place) none (sorted (listKey place) rows)).length < rows.length + 1 := by
    rw [after_none, (sorted_perm rows).length_eq]
    exact Nat.lt_succ_self _
  rw [readAll_eq_pages reads listable lists _ start,
    pages_whole listable.keys (pageCap_pos limit) count, after_none]
  rfl

end Reads

section Runs

variable {α β : Type}

/-- The endpoint lists rows of the stores of an invariant. -/
structure ListOf (dateParse : String → Option Nat) (place : α → ListCursor) (toApi : α → β) (limit : Nat)
    (rows : Database → List α) (endpoint : Database → Option String → Except AppError (ListPage β))
    (Inv : Database → Prop) : Prop where
  lists : ∀ db, Inv db → Lists dateParse place toApi limit (rows db) (endpoint db)
  listable : ∀ db, Inv db → Listable place (rows db)

abbrev RowScan (α : Type) := Scan α (Nat ×ₗ String)ᵒᵈ

/-- A reader scans the rows. -/
structure ScanOf (toApi : α → β) (rows : Database → List α) (r : ListReader β) (s : RowScan α) : Prop where
  rows : s.rows = rows r.db
  items : r.items = s.given.map toApi
  finished : r.finished = s.finished
  bounds : r.finished = false → ∃ boundary, Bounds r.cursor s.bound boundary

variable {place : α → ListCursor} {toApi : α → β} {dateParse : String → Option Nat} {limit : Nat}
  {rows : Database → List α} {endpoint : Database → Option String → Except AppError (ListPage β)}
  {Inv : Database → Prop} {r r' : ListReader β} {s : RowScan α}

/-- What answers the next request. -/
theorem ScanOf.answer (reads : ReadsISO dateParse) (list : ListOf dateParse place toApi limit rows endpoint Inv)
    (inv : Inv r.db) (follows : ScanOf toApi rows r s) (running : r.finished = false) :
    endpoint r.db r.cursor = .ok (listResult place encodeListCursor toApi
      (page (listKey place) (pageCap limit) s.bound s.rows)) := by
  obtain ⟨boundary, bounds⟩ := follows.bounds running
  rw [follows.rows]
  exact bounds.answered reads (list.lists r.db inv)

/-- A request is a page of the scan. -/
theorem follows_request (reads : ReadsISO dateParse)
    (list : ListOf dateParse place toApi limit rows endpoint Inv) (inv : Inv r.db)
    (follows : ScanOf toApi rows r s) (taken : readerNext endpoint r .request = some r') :
    r'.db = r.db ∧ ∃ s', scanNext (listKey place) (pageCap limit) s .page = some s' ∧ ScanOf toApi rows r' s' := by
  unfold readerNext at taken
  dsimp only at taken
  split at taken
  · cases taken
  · rename_i going
    have running : r.finished = false := by simpa using going
    have still : s.finished = false := follows.finished.symm.trans running
    rw [follows.answer reads list inv running] at taken
    cases taken
    refine ⟨rfl, _, by rw [scanNext, if_neg (by simp [still])], ?_⟩
    constructor
    · exact follows.rows
    · unfold ListReader.receive listResult
      dsimp only
      rw [follows.items, List.map_append]
    · rfl
    · intro ongoing
      have more : (page (listKey place) (pageCap limit) s.bound s.rows).2 = true := by
        simpa [ListReader.receive, listResult] using ongoing
      have listable : Listable place s.rows := follows.rows ▸ list.listable r.db inv
      obtain ⟨next, bounds⟩ := @next_bounds _ _ place toApi limit s.rows s.bound listable more
      exact ⟨some next, bounds⟩

/-- The scan of a run. -/
theorem run_follows {C : Transition (ListReader β) ListEvent → Prop}
    {D : Transition (RowScan α) (ScanEvent α) → Prop} (reads : ReadsISO dateParse)
    (list : ListOf dateParse place toApi limit rows endpoint Inv)
    (kept : ∀ (r : ListReader β) {γ : Type} (command : ServerCommand γ), Inv r.db →
      C ⟨r, .served command, { r with db := (command.exec r.db).2 }⟩ → Inv (command.exec r.db).2)
    (pages : ∀ s s', scanNext (listKey place) (pageCap limit) s .page = some s' → D ⟨s, .page, s'⟩)
    (changes : ∀ (r : ListReader β) (s : RowScan α) {γ : Type} (command : ServerCommand γ), Inv r.db →
      ScanOf toApi rows r s → C ⟨r, .served command, { r with db := (command.exec r.db).2 }⟩ →
      D ⟨s, .change (rows (command.exec r.db).2), { s with rows := rows (command.exec r.db).2 }⟩)
    {start final : ListReader β} {history : List (Transition (ListReader β) ListEvent)}
    (inv : Inv start.db) (initial : (listMachine endpoint).init start)
    (run : (listMachine endpoint).Run start history final) (all : ∀ step ∈ history, C step) :
    ∃ history' last, (scanMachine (listKey place) (pageCap limit)).Run ⟨rows start.db, none, [], false⟩ history'
        last ∧ (∀ step ∈ history', step.source.Distinct (listKey place) ∧ D step) ∧
        Inv final.db ∧ ScanOf toApi rows final last := by
  apply run.simulated (R := fun r s => Inv r.db ∧ ScanOf toApi rows r s) (C := C)
    (D := fun step => step.source.Distinct (listKey place) ∧ D step) _ _ all
  · rintro r (_ | command) r' s ⟨inv, follows⟩ taken condition
    · have distinct : s.Distinct (listKey place) := by
        unfold Scan.Distinct
        rw [follows.rows]
        exact (list.listable r.db inv).keys
      obtain ⟨same, s', stepped, follows'⟩ := follows_request reads list inv follows taken
      exact ⟨.page, s', stepped, ⟨distinct, pages s s' stepped⟩, same ▸ inv, follows'⟩
    · have distinct : s.Distinct (listKey place) := by
        unfold Scan.Distinct
        rw [follows.rows]
        exact (list.listable r.db inv).keys
      cases taken
      exact ⟨.change (rows (command.exec r.db).2), _, rfl, ⟨distinct, changes r s command inv follows condition⟩,
        kept r command inv condition, rfl, follows.items, follows.finished, follows.bounds⟩
  · obtain ⟨cursor, items, finished⟩ := initial
    refine ⟨inv, rfl, items, finished, fun _ => ⟨none, cursor, rfl, by simp⟩⟩

end Runs

end MessagingSystem.Protocol
