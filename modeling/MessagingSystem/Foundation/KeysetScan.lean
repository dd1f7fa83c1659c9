import MessagingSystem.Foundation.Keyset
import MessagingSystem.Foundation.Transition

/-!
# Scans of keyset pages

A reader asks for page after page, each beginning after the last row it has been
given. Pages of rows that do not change give each of them once. When rows change
between two pages, what the reader is given is in strict order nevertheless, and a
row that stays ahead of the reader is given to it.
-/
namespace MessagingSystem.Foundation.Keyset

section Page

variable {α K : Type*} [LinearOrder K] (key : α → K)

/-- A page of at most `cap` rows after a bound, and whether there are more. -/
def page (cap : Nat) (bound : Option K) (rows : List α) : List α × Bool :=
  let docs := (sorted key (rows.filter (isAfter key bound))).take (cap + 1)
  (docs.take cap, decide (cap < docs.length))

variable {key} {cap : Nat} {bound : Option K} {rows : List α}

theorem page_items (distinct : (rows.map key).Nodup) :
    (page key cap bound rows).1 = (after key bound (sorted key rows)).take cap := by
  unfold page
  dsimp only
  rw [sorted_filter distinct, List.take_take, Nat.min_eq_left (Nat.le_succ cap)]
  rfl

theorem page_more (distinct : (rows.map key).Nodup) :
    (page key cap bound rows).2 = decide (cap < (after key bound (sorted key rows)).length) := by
  have lengths : cap < min (cap + 1) (after key bound (sorted key rows)).length ↔
      cap < (after key bound (sorted key rows)).length := by omega
  unfold page
  dsimp only
  rw [sorted_filter distinct, List.length_take]
  exact decide_eq_decide.mpr lengths

theorem mem_after {a : α} : a ∈ after key bound (sorted key rows) ↔ a ∈ rows ∧ isAfter key bound a = true := by
  unfold after
  rw [List.mem_filter, mem_sorted]

theorem after_ordered (distinct : (rows.map key).Nodup) (bound : Option K) :
    Ordered key (after key bound (sorted key rows)) := (sorted_ordered distinct).filter _

/-- The bound after some rows in order: the key of the last one. -/
def boundAfter (key : α → K) (bound : Option K) (given : List α) : Option K :=
  (given.getLast?.map key).or bound

/-- The rows after the last one of those taken are the others. -/
theorem after_boundAfter (distinct : (rows.map key).Nodup) (n : Nat) :
    after key (boundAfter key bound ((after key bound (sorted key rows)).take n)) (sorted key rows) =
      (after key bound (sorted key rows)).drop n := by
  rcases List.eq_nil_or_concat ((after key bound (sorted key rows)).take n) with none | ⟨front, last, cut⟩
  · have whole := List.take_append_drop n (after key bound (sorted key rows))
    rw [none, List.nil_append] at whole
    rw [none, whole]
    rfl
  · rw [List.concat_eq_append] at cut
    have rest : after key bound (sorted key rows) =
        front ++ last :: (after key bound (sorted key rows)).drop n := by
      rw [← List.singleton_append, ← List.append_assoc, ← cut, List.take_append_drop]
    have ordered := after_ordered distinct bound
    rw [rest] at ordered
    have later := after_split ordered
    rw [← rest] at later
    have bounded : boundAfter key bound (front ++ [last]) = some (key last) := by
      unfold boundAfter
      rw [List.getLast?_concat]
      rfl
    rw [cut, bounded]
    -- what comes after the last row taken comes after the bound
    have member : last ∈ after key bound (sorted key rows) := by
      rw [rest]
      simp
    have ahead := (mem_after.mp member).2
    have narrow : after key (some (key last)) (after key bound (sorted key rows)) =
        after key (some (key last)) (sorted key rows) := by
      unfold after
      rw [List.filter_filter]
      apply List.filter_congr
      intro a _
      unfold isAfter at ahead ⊢
      cases bound with
      | none => simp
      | some k =>
        dsimp only at ahead ⊢
        by_cases less : key last < key a
        · simp [less, lt_trans (of_decide_eq_true ahead) less]
        · simp [less]
    rw [← narrow, later]

variable (key cap rows) in
/-- Page after page until there are no more, `n` pages at most. -/
def pages : Nat → Option K → Option (List α)
  | 0, _ => none
  | n + 1, bound =>
      let answer := page key cap bound rows
      if answer.2 then (pages n (boundAfter key bound answer.1)).map (answer.1 ++ ·)
      else some answer.1

/-- The pages end, and give each row once, in order. -/
theorem pages_whole (distinct : (rows.map key).Nodup) (positive : 0 < cap) {n : Nat}
    (enough : (after key bound (sorted key rows)).length < n) :
    pages key cap rows n bound = some (after key bound (sorted key rows)) := by
  induction n generalizing bound with
  | zero => cases enough
  | succ n ih =>
    unfold pages
    dsimp only
    rw [page_items distinct, page_more distinct]
    by_cases more : cap < (after key bound (sorted key rows)).length
    · have rest := @after_boundAfter _ _ _ key bound rows distinct cap
      have shorter : (after key (boundAfter key bound ((after key bound (sorted key rows)).take cap))
          (sorted key rows)).length < n := by
        rw [rest, List.length_drop]
        omega
      rw [if_pos (decide_eq_true more), ih shorter, rest, Option.map_some, List.take_append_drop]
    · rw [if_neg (by simpa using more), List.take_of_length_le (not_lt.mp more)]

end Page

/-- A reader between two pages. -/
structure Scan (α K : Type*) where
  rows : List α
  bound : Option K := none
  given : List α := []
  finished : Bool := false

inductive ScanEvent (α : Type*) where
  | page
  | change (rows : List α)

section Scan

variable {α K : Type*} [LinearOrder K] (key : α → K) (cap : Nat)

def scanNext (s : Scan α K) : ScanEvent α → Option (Scan α K)
  | .page =>
      if s.finished then none
      else
        let answer := page key cap s.bound s.rows
        some { s with
          bound := boundAfter key s.bound answer.1
          given := s.given ++ answer.1
          finished := !answer.2 }
  | .change rows => some { s with rows := rows }

def scanMachine : Machine (Scan α K) (ScanEvent α) where
  init s := s.bound = none ∧ s.given = [] ∧ s.finished = false
  step s event t := scanNext key cap s event = some t

variable {key cap} {s t : Scan α K} {event : ScanEvent α}

/-- The rows have distinct keys. -/
def Scan.Distinct (key : α → K) (s : Scan α K) : Prop := (s.rows.map key).Nodup

/-- What the reader has been given is in order, and the bound is its last key. -/
structure Scan.InOrder (key : α → K) (s : Scan α K) : Prop where
  ordered : Ordered key s.given
  last : s.bound = s.given.getLast?.map key

/-- A row after the last one of an ordered list comes after all of them. -/
theorem lt_of_after_last {given : List α} (ordered : Ordered key given) {a b : α} (member : a ∈ given)
    (ahead : isAfter key (given.getLast?.map key) b = true) : key a < key b := by
  rcases List.eq_nil_or_concat given with none | ⟨front, last, cut⟩
  · rw [none] at member
    cases member
  · rw [List.concat_eq_append] at cut
    rw [cut, List.getLast?_concat] at ahead
    have less : key last < key b := of_decide_eq_true ahead
    rw [cut] at member ordered
    rcases List.mem_append.mp member with before | here
    · exact lt_trans ((List.pairwise_append.mp ordered).2.2 a before last (List.mem_singleton.mpr rfl)) less
    · rwa [List.mem_singleton.mp here]

theorem scan_page (distinct : s.Distinct key) (stepped : scanNext key cap s .page = some t) :
    s.finished = false ∧ t.rows = s.rows ∧
      t.bound = boundAfter key s.bound ((after key s.bound (sorted key s.rows)).take cap) ∧
      t.given = s.given ++ (after key s.bound (sorted key s.rows)).take cap ∧
      t.finished = !decide (cap < (after key s.bound (sorted key s.rows)).length) := by
  unfold scanNext at stepped
  dsimp only at stepped
  rw [page_items distinct, page_more distinct] at stepped
  split at stepped
  · cases stepped
  · rename_i running
    cases stepped
    exact ⟨by simpa using running, rfl, rfl, rfl, rfl⟩

theorem inOrder_page (inOrder : s.InOrder key) (distinct : s.Distinct key)
    (stepped : scanNext key cap s .page = some t) : t.InOrder key := by
  obtain ⟨-, -, bound, given, -⟩ := scan_page distinct stepped
  have taken : Ordered key ((after key s.bound (sorted key s.rows)).take cap) :=
    (after_ordered distinct s.bound).sublist (List.take_sublist cap _)
  constructor
  · rw [given]
    apply List.pairwise_append.mpr
    refine ⟨inOrder.ordered, taken, fun a before b here => ?_⟩
    have ahead := (mem_after.mp (List.mem_of_mem_take here)).2
    rw [inOrder.last] at ahead
    exact lt_of_after_last inOrder.ordered before ahead
  · rw [bound, given, boundAfter, inOrder.last, List.getLast?_append]
    cases ((after key (s.given.getLast?.map key) (sorted key s.rows)).take cap).getLast? <;> rfl

/-- What a scan has been given is in strict order, whatever changes between its pages. -/
theorem given_inOrder {start final : Scan α K} {history : List (Transition (Scan α K) (ScanEvent α))}
    (initial : (scanMachine key cap).init start) (run : (scanMachine key cap).Run start history final)
    (distinct : ∀ step ∈ history, step.source.Distinct key) : final.InOrder key := by
  apply run.invariant_of_forall (I := Scan.InOrder key) (C := fun step => step.source.Distinct key) _ _ distinct
  · rintro s (_ | rows) t inOrder stepped distinct
    · exact inOrder_page inOrder distinct stepped
    · cases stepped
      exact ⟨inOrder.ordered, inOrder.last⟩
  · obtain ⟨bound, given, -⟩ := initial
    constructor
    · rw [given]
      exact List.Pairwise.nil
    · rw [bound, given]
      rfl

section Tracked

variable {I : Type*} (name : α → I) (i : I)

/-- A row of this name is ahead of the reader. -/
def Scan.Ahead (key : α → K) (s : Scan α K) : Prop :=
  ∃ a ∈ s.rows, name a = i ∧ isAfter key s.bound a = true

/-- The reader has been given a row of this name. -/
def Scan.Gave (s : Scan α K) : Prop := i ∈ s.given.map name

/-- The reader has been given the row, or the row is ahead and the scan goes on. -/
def Scan.Tracks (key : α → K) (s : Scan α K) : Prop :=
  s.Gave name i ∨ (s.Ahead name i key ∧ s.finished = false)

variable {name i}

theorem tracks_page (distinct : s.Distinct key) (tracks : s.Tracks name i key)
    (stepped : scanNext key cap s .page = some t) : t.Tracks name i key := by
  obtain ⟨-, rows, bound, given, finished⟩ := scan_page distinct stepped
  rcases tracks with gave | ⟨⟨a, member, named, ahead⟩, -⟩
  · left
    unfold Scan.Gave at gave ⊢
    rw [given, List.map_append]
    exact List.mem_append_left _ gave
  · have waiting : a ∈ after key s.bound (sorted key s.rows) := mem_after.mpr ⟨member, ahead⟩
    rw [← List.take_append_drop cap (after key s.bound (sorted key s.rows))] at waiting
    rcases List.mem_append.mp waiting with taken | later
    · left
      unfold Scan.Gave
      rw [given, List.map_append, ← named]
      exact List.mem_append_right _ (List.mem_map_of_mem taken)
    · right
      have more : cap < (after key s.bound (sorted key s.rows)).length := by
        by_contra few
        rw [List.drop_eq_nil_of_le (not_lt.mp few)] at later
        cases later
      rw [← after_boundAfter distinct cap, ← bound, ← rows] at later
      exact ⟨⟨a, (mem_after.mp later).1, named, (mem_after.mp later).2⟩, by simp [finished, more]⟩

/-- A change that does not bring the row behind the reader before it has been given. -/
def KeepsAhead (name : α → I) (i : I) (key : α → K) (step : Transition (Scan α K) (ScanEvent α)) : Prop :=
  (∃ rows, step.label = .change rows) → step.source.finished = false → step.source.Ahead name i key →
    ¬ step.source.Gave name i → step.target.Ahead name i key

/-- A row that stays ahead is given. -/
theorem given_of_ahead {start final : Scan α K} {history : List (Transition (Scan α K) (ScanEvent α))}
    (tracks : start.Tracks name i key) (run : (scanMachine key cap).Run start history final)
    (distinct : ∀ step ∈ history, step.source.Distinct key)
    (keeps : ∀ step ∈ history, KeepsAhead name i key step) (finished : final.finished = true) :
    final.Gave name i := by
  have ends : final.Tracks name i key := by
    apply run.invariant_of_forall (I := Scan.Tracks name i key)
      (C := fun step => step.source.Distinct key ∧ KeepsAhead name i key step) _ tracks
      fun step member => ⟨distinct step member, keeps step member⟩
    rintro s (_ | rows) t tracks stepped ⟨distinct, keeps⟩
    · exact tracks_page distinct tracks stepped
    · rcases tracks with gave | ⟨ahead, running⟩
      · cases stepped
        exact .inl gave
      · by_cases gave : s.Gave name i
        · cases stepped
          exact .inl gave
        · have still := keeps ⟨rows, rfl⟩ running ahead gave
          cases stepped
          exact .inr ⟨still, running⟩
  rcases ends with gave | ⟨-, running⟩
  · exact gave
  · rw [running] at finished
    cases finished

/-- The rows stay, each with its name and its key. -/
def KeepsKeys (name : α → I) (key : α → K) (step : Transition (Scan α K) (ScanEvent α)) : Prop :=
  ∀ a ∈ step.source.rows, ∃ b ∈ step.target.rows, name b = name a ∧ key b = key a

theorem keepsKeys_page (stepped : scanNext key cap s .page = some t) : KeepsKeys name key ⟨s, .page, t⟩ := by
  unfold scanNext at stepped
  dsimp only at stepped
  split at stepped
  · cases stepped
  · cases stepped
    exact fun a member => ⟨a, member, rfl, rfl⟩

theorem keepsAhead_page : KeepsAhead name i key ⟨s, .page, t⟩ := by
  rintro ⟨rows, changed⟩
  cases changed

theorem KeepsKeys.keepsAhead {step : Transition (Scan α K) (ScanEvent α)}
    (taken : (scanMachine key cap).step step.source step.label step.target)
    (keeps : KeepsKeys name key step) : KeepsAhead name i key step := by
  obtain ⟨s, event, t⟩ := step
  rintro ⟨rows, changed⟩ - ⟨a, member, named, ahead⟩ -
  cases changed
  obtain ⟨b, held, same, place⟩ := keeps a member
  have moved : some { s with rows := rows } = some t := taken
  cases moved
  refine ⟨b, held, same.trans named, ?_⟩
  unfold isAfter at ahead ⊢
  rwa [place]

/-- What has been given is still there. -/
def Scan.Held (name : α → I) (key : α → K) (s : Scan α K) : Prop :=
  ∀ a ∈ s.given, ∃ b ∈ s.rows, name b = name a ∧ key b = key a

/-- Where rows keep their keys, none is given twice. -/
theorem given_once {start final : Scan α K} {history : List (Transition (Scan α K) (ScanEvent α))}
    (initial : (scanMachine key cap).init start) (run : (scanMachine key cap).Run start history final)
    (distinct : ∀ step ∈ history, step.source.Distinct key)
    (keeps : ∀ step ∈ history, KeepsKeys name key step) (names : (final.rows.map name).Nodup) :
    (final.given.map name).Nodup := by
  have held : final.Held name key := by
    apply run.invariant_of_forall (I := Scan.Held name key)
      (C := fun step => step.source.Distinct key ∧ KeepsKeys name key step) _ _
      fun step member => ⟨distinct step member, keeps step member⟩
    · rintro s (_ | rows) t held stepped ⟨distinct, keeps⟩
      · obtain ⟨-, rows, -, given, -⟩ := scan_page distinct stepped
        intro a member
        rw [given] at member
        rw [rows]
        rcases List.mem_append.mp member with before | here
        · exact held a before
        · exact ⟨a, (mem_after.mp (List.mem_of_mem_take here)).1, rfl, rfl⟩
      · intro a member
        cases stepped
        obtain ⟨b, there, named, place⟩ := held a member
        obtain ⟨c, still, named', place'⟩ := keeps b there
        exact ⟨c, still, named'.trans named, place'.trans place⟩
    · intro a member
      rw [initial.2.1] at member
      cases member
  have ordered := (given_inOrder initial run distinct).ordered
  apply List.pairwise_map.mpr
  apply List.Pairwise.imp_of_mem _ ordered
  intro a b left right less same
  obtain ⟨c, there, named, place⟩ := held a left
  obtain ⟨d, there', named', place'⟩ := held b right
  -- rows of one name are one row, and that has one key
  have one : c = d := List.inj_on_of_nodup_map names there there' (by rw [named, named', same])
  rw [← place, ← place', one] at less
  exact lt_irrefl _ less

end Tracked

end Scan

end MessagingSystem.Foundation.Keyset
