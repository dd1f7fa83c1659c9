import Mathlib.Data.List.Forall2
import MessagingSystem.Foundation.NotedCalls

/-!
# Interleaved calls whose replies get lost

A command of a call may also fail after the store has executed it: the reply is lost,
and the call ends with an error. Such a run is followed by one without lost replies,
in which each of these calls has gone on and is never scheduled again. The two differ
only in what is left of these calls, so that what the run without lost replies
guarantees of the store, of the notes and of every other call holds of the run with them.
-/
namespace MessagingSystem.Foundation

variable {C : Type → Type} {ε α σ Call N : Type}

/-- A step as without lost replies, or a command that is executed while its reply is lost. -/
inductive LossyEvent (Call ε : Type) where
  | kept (event : PoolEvent Call ε)
  | lose (index : Nat) (e : ε)

/-- What the store sees of a step. -/
def LossyEvent.seen : LossyEvent Call ε → PoolEvent Call ε
  | .kept event => event
  | .lose index _ => .advance index

namespace NotedCalls

variable (K : NotedCalls C ε α σ Call N)

inductive LossyStep : NotedPool C ε α σ Call N → LossyEvent Call ε → NotedPool C ε α σ Call N → Prop where
  | kept (s : NotedPool C ε α σ Call N) (event : PoolEvent Call ε) (t : NotedPool C ε α σ Call N)
      (taken : K.Step s event t) : LossyStep s (.kept event) t
  | lose (s : NotedPool C ε α σ Call N) (index : Nat) (call : Call) (n : N) {β : Type} (c : C β)
      (next : β → Program C ε α) (e : ε) (fails : K.mayFail e)
      (running : s.calls[index]? = some ⟨call, n, .command c next⟩) :
      LossyStep s (.lose index e) ⟨(K.exec c s.store).2,
        s.calls.set index ⟨call, K.note n c (K.exec c s.store).1, .done (.error e)⟩⟩

/-- Runs from a store that meets a condition, with no call in flight. -/
def lossyMachine (start : σ → Prop) : Machine (NotedPool C ε α σ Call N) (LossyEvent Call ε) where
  init s := s.calls = [] ∧ start s.store
  step := K.LossyStep

/-- The step of an event, when it is enabled and no command fails unexecuted. -/
def lossyNext (admits : σ → Call → Bool) (s : NotedPool C ε α σ Call N) :
    LossyEvent Call ε → Option (NotedPool C ε α σ Call N)
  | .kept event => K.next admits s event
  | .lose index e =>
      match s.calls[index]? with
      | some ⟨call, n, .command c _⟩ =>
          some ⟨(K.exec c s.store).2,
            s.calls.set index ⟨call, K.note n c (K.exec c s.store).1, .done (.error e)⟩⟩
      | _ => none

theorem lossyNext_step {start : σ → Prop} {admits : σ → Call → Bool}
    (sound : ∀ store call, admits store call = true → K.admits store call) (fails : ∀ e, K.mayFail e)
    (s : NotedPool C ε α σ Call N) (event : LossyEvent Call ε) (t : NotedPool C ε α σ Call N)
    (stepped : K.lossyNext admits s event = some t) : (K.lossyMachine start).step s event t := by
  cases event with
  | kept event =>
    have taken : (K.machine start).step s event t := K.next_step sound s event t stepped
    exact .kept s event t taken
  | lose index e =>
    simp only [lossyNext] at stepped
    split at stepped
    · rename_i call n β c rest running
      cases stepped
      exact .lose s index call n c rest e (fails e) running
    · cases stepped

/-- A call beside the one that follows it: it is as far, or has ended with an error. -/
structure Beside (x y : NotedCall C ε α Call N) : Prop where
  call : x.call = y.call
  notes : x.notes = y.notes
  rest : x.rest = y.rest ∨ ∃ e, x.rest = .done (.error e)

/-- A pool beside the one that follows it. -/
structure FollowedBy (s a : NotedPool C ε α σ Call N) : Prop where
  store : s.store = a.store
  calls : List.Forall₂ Beside s.calls a.calls

section Following

variable {K} {s t a : NotedPool C ε α σ Call N}

theorem Beside.refl (x : NotedCall C ε α Call N) : Beside x x := ⟨rfl, rfl, .inl rfl⟩

theorem FollowedBy.refl (s : NotedPool C ε α σ Call N) : FollowedBy s s := ⟨rfl, List.forall₂_same.mpr fun x _ => .refl x⟩

/-- The call in the same place. -/
theorem FollowedBy.at (followed : FollowedBy s a) {i : Nat} {x : NotedCall C ε α Call N}
    (held : s.calls[i]? = some x) : ∃ y, a.calls[i]? = some y ∧ Beside x y := by
  obtain ⟨bound, rfl⟩ := List.getElem?_eq_some_iff.mp held
  have there : i < a.calls.length := followed.calls.length_eq ▸ bound
  exact ⟨a.calls[i], List.getElem?_eq_getElem there, followed.calls.get bound there⟩

/-- A call that still runs is as far. -/
theorem FollowedBy.running (followed : FollowedBy s a) {i : Nat} {call : Call} {n : N} {β : Type} {c : C β}
    {next : β → Program C ε α} (held : s.calls[i]? = some ⟨call, n, .command c next⟩) :
    a.calls[i]? = some ⟨call, n, .command c next⟩ := by
  obtain ⟨⟨call', n', rest⟩, there, ⟨sameCall, sameNotes, same | ⟨e, ended⟩⟩⟩ := followed.at held
  · dsimp only at sameCall sameNotes same
    rw [there, sameCall, sameNotes, same]
  · cases ended

/-- Calls taken the same way stay beside each other. -/
theorem FollowedBy.set (followed : FollowedBy s a) (i : Nat) {x y : NotedCall C ε α Call N} (beside : Beside x y) :
    List.Forall₂ Beside (s.calls.set i x) (a.calls.set i y) := by
  refine List.forall₂_iff_get.mpr ⟨?_, fun j left right => ?_⟩
  · rw [List.length_set, List.length_set]
    exact followed.calls.length_eq
  · simp only [List.get_eq_getElem, List.getElem_set]
    split
    · exact beside
    · exact followed.calls.get _ _

theorem FollowedBy.step {event : LossyEvent Call ε} (followed : FollowedBy s a) (taken : K.LossyStep s event t) :
    ∃ b, K.Step a event.seen b ∧ FollowedBy t b := by
  cases taken with
  | kept event t taken =>
    cases taken with
    | takeUp call admitted =>
      have admitted : K.admits a.store call := followed.store ▸ admitted
      exact ⟨_, .takeUp a call admitted, followed.store,
        List.rel_append followed.calls (.cons (.refl _) .nil)⟩
    | advance index call n c next running =>
      refine ⟨_, .advance a index call n c next (followed.running running), ?_, ?_⟩
      · rw [followed.store]
      · rw [followed.store]
        exact followed.set index (.refl _)
    | abort index call n c next e fails running =>
      exact ⟨_, .abort a index call n c next e fails (followed.running running), followed.store,
        followed.set index (.refl _)⟩
  | lose index call n c next e fails running =>
    refine ⟨_, .advance a index call n c next (followed.running running), ?_, ?_⟩
    · rw [followed.store]
    · rw [followed.store]
      exact followed.set index ⟨rfl, rfl, .inr ⟨e, rfl⟩⟩

/-- Every run with lost replies is followed, step by step. -/
theorem lossyRun_followed {initial : σ → Prop} {start final : NotedPool C ε α σ Call N}
    {history : List (Transition (NotedPool C ε α σ Call N) (LossyEvent Call ε))}
    (run : (K.lossyMachine initial).Run start history final) :
    ∃ history' last, (K.machine initial).Run start history' last ∧ FollowedBy final last ∧
      ∀ t ∈ history, ∃ t' ∈ history', FollowedBy t.source t'.source ∧ t'.label = t.label.seen := by
  induction run with
  | nil => exact ⟨[], start, .nil, .refl start, fun t member => absurd member (List.not_mem_nil)⟩
  | @snoc history source target label earlier last ih =>
    obtain ⟨history', middle, run', followed, matched⟩ := ih
    obtain ⟨b, stepped, after⟩ := followed.step last
    refine ⟨history' ++ [⟨middle, label.seen, b⟩], b, .snoc run' stepped, after, fun t member => ?_⟩
    rcases List.mem_append.mp member with before | now
    · obtain ⟨t', member', related⟩ := matched t before
      exact ⟨t', List.mem_append_left _ member', related⟩
    · obtain rfl := List.mem_singleton.mp now
      exact ⟨_, List.mem_append_right _ List.mem_cons_self, followed, rfl⟩

/-- What the store sees of a call that executes a command, and what the call gets to see. -/
theorem LossyStep.executed {event : LossyEvent Call ε} (taken : K.LossyStep s event t) {i : Nat}
    (seen : event.seen = .advance i) :
    ∃ (call : Call) (n : N) (β : Type) (c : C β) (next : β → Program C ε α),
      s.calls[i]? = some ⟨call, n, .command c next⟩ ∧ t.store = (K.exec c s.store).2 ∧
        (event = .kept (.advance i) ∧
            t.calls[i]? = some ⟨call, K.note n c (K.exec c s.store).1, next (K.exec c s.store).1⟩ ∨
          ∃ e, event = .lose i e ∧
            t.calls[i]? = some ⟨call, K.note n c (K.exec c s.store).1, .done (.error e)⟩) := by
  cases taken with
  | kept event t taken =>
    cases taken with
    | takeUp call admitted => cases seen
    | advance index call n c next running =>
      cases seen
      obtain ⟨bound, -⟩ := List.getElem?_eq_some_iff.mp running
      exact ⟨call, n, _, c, next, running, rfl, .inl ⟨rfl, List.getElem?_set_self bound⟩⟩
    | abort index call n c next e fails running => cases seen
  | lose index call n c next e fails running =>
    cases seen
    obtain ⟨bound, -⟩ := List.getElem?_eq_some_iff.mp running
    exact ⟨call, n, _, c, next, running, rfl, .inr ⟨e, rfl, List.getElem?_set_self bound⟩⟩

/-- A call taken up stays in its place. -/
theorem LossyStep.remains {event : LossyEvent Call ε} (taken : K.LossyStep s event t) {i : Nat}
    {x : NotedCall C ε α Call N} (held : s.calls[i]? = some x) : ∃ y, t.calls[i]? = some y ∧ y.call = x.call := by
  cases taken with
  | kept event t taken => exact taken.remains held
  | lose index call n c next e fails running =>
    have executed : K.Step s (.advance index) _ := .advance s index call n c next running
    obtain ⟨y, there, same⟩ := executed.remains held
    by_cases here : index = i
    · subst here
      obtain ⟨bound, -⟩ := List.getElem?_eq_some_iff.mp held
      cases held.symm.trans running
      exact ⟨_, List.getElem?_set_self bound, rfl⟩
    · rw [List.getElem?_set_ne here] at there
      exact ⟨y, (List.getElem?_set_ne here).trans there, same⟩

/-- A call that has ended stays as it is. -/
theorem LossyStep.done_remains {event : LossyEvent Call ε} (taken : K.LossyStep s event t) {i : Nat} {call : Call}
    {n : N} {result : Except ε α} (held : s.calls[i]? = some ⟨call, n, .done result⟩) :
    t.calls[i]? = some ⟨call, n, .done result⟩ := by
  have other {index : Nat} {x y : NotedCall C ε α Call N} (running : s.calls[index]? = some x)
      (live : ∀ r, x.rest ≠ .done r) : (s.calls.set index y)[i]? = some ⟨call, n, .done result⟩ := by
    rw [List.getElem?_set_ne, held]
    rintro rfl
    rw [held] at running
    cases running
    exact live result rfl
  cases taken with
  | kept event t taken =>
    cases taken with
    | takeUp call admitted =>
      obtain ⟨bound, -⟩ := List.getElem?_eq_some_iff.mp held
      rw [← held]
      exact List.getElem?_append_left bound
    | advance index call n c next running => exact other running fun r => by simp
    | abort index call n c next e fails running => exact other running fun r => by simp
  | lose index call n c next e fails running => exact other running fun r => by simp

end Following

end NotedCalls

end MessagingSystem.Foundation
