import MessagingSystem.Foundation.Program
import MessagingSystem.Foundation.Transition

/-!
# Interleaved calls

Calls of several parties run as programs over one store: an event takes up a
new call, executes the next command of one of them, or lets that command fail
with an error the call does not catch. A property of every call in flight is
kept by a step that keeps it for the call that moves and for all the others.
-/
namespace MessagingSystem.Foundation

variable {C : Type → Type} {ε α σ Call : Type}

/-- The store and the calls taken up, with what each still has to do. -/
structure Pool (C : Type → Type) (ε α σ Call : Type) where
  store : σ
  calls : List (Call × Program C ε α)

inductive PoolEvent (Call ε : Type) where
  | takeUp (call : Call)
  | advance (index : Nat)
  | abort (index : Nat) (e : ε)

/-- What the calls do, how the store answers and which errors a command may end with. -/
structure Calls (C : Type → Type) (ε α σ Call : Type) where
  program : Call → Program C ε α
  exec : {δ : Type} → C δ → σ → δ × σ
  mayFail : ε → Prop

namespace Calls

variable (K : Calls C ε α σ Call)

inductive Step : Pool C ε α σ Call → PoolEvent Call ε → Pool C ε α σ Call → Prop where
  | takeUp (s : Pool C ε α σ Call) (call : Call) :
      Step s (.takeUp call) ⟨s.store, s.calls ++ [(call, K.program call)]⟩
  | advance (s : Pool C ε α σ Call) (index : Nat) (call : Call) {β : Type} (c : C β)
      (next : β → Program C ε α) (running : s.calls[index]? = some (call, .command c next)) :
      Step s (.advance index)
        ⟨(K.exec c s.store).2, s.calls.set index (call, next (K.exec c s.store).1)⟩
  | abort (s : Pool C ε α σ Call) (index : Nat) (call : Call) {β : Type} (c : C β)
      (next : β → Program C ε α) (e : ε) (fails : K.mayFail e)
      (running : s.calls[index]? = some (call, .command c next)) :
      Step s (.abort index e) ⟨s.store, s.calls.set index (call, .done (.error e))⟩

/-- Runs from a store that meets a condition, with no call in flight. -/
def machine (start : σ → Prop) : Machine (Pool C ε α σ Call) (PoolEvent Call ε) where
  init s := s.calls = [] ∧ start s.store
  step := K.Step

/-- The step of an event, when it is enabled and no command fails. -/
def next (s : Pool C ε α σ Call) : PoolEvent Call ε → Option (Pool C ε α σ Call)
  | .takeUp call => some ⟨s.store, s.calls ++ [(call, K.program call)]⟩
  | .advance index =>
      match s.calls[index]? with
      | some (call, .command c rest) =>
          some ⟨(K.exec c s.store).2, s.calls.set index (call, rest (K.exec c s.store).1)⟩
      | _ => none
  | .abort .. => none

theorem next_step {start : σ → Prop} (s : Pool C ε α σ Call) (event : PoolEvent Call ε)
    (t : Pool C ε α σ Call) (stepped : K.next s event = some t) :
    (K.machine start).step s event t := by
  cases event with
  | takeUp call =>
    cases stepped
    exact .takeUp s call
  | advance index =>
    simp only [next] at stepped
    split at stepped
    · rename_i call β c rest running
      cases stepped
      exact .advance s index call c rest running
    · cases stepped
  | abort index e => cases stepped

end Calls

/-- A call that moves stays the call it is. -/
theorem map_fst_set {calls : List (Call × Program C ε α)} {index : Nat} {call : Call}
    {p : Program C ε α} (held : calls[index]? = some (call, p)) (q : Program C ε α) :
    (calls.set index (call, q)).map Prod.fst = calls.map Prod.fst := by
  refine List.ext_getElem? fun i => ?_
  rw [List.getElem?_map, List.getElem?_map, List.getElem?_set]
  by_cases here : index = i
  · subst here
    obtain ⟨bound, same⟩ := List.getElem?_eq_some_iff.mp held
    simp [same, bound]
  · simp [here]

/-- Every call in flight has the property. -/
def Pool.All (P : Call → Program C ε α → Prop) (s : Pool C ε α σ Call) : Prop :=
  ∀ entry ∈ s.calls, P entry.1 entry.2

variable {P Q : Call → Program C ε α → Prop}

theorem Pool.All.mono {s : Pool C ε α σ Call} (all : s.All P)
    (implies : ∀ call p, P call p → Q call p) : s.All Q :=
  fun entry member => implies entry.1 entry.2 (all entry member)

theorem Pool.All.at_index {s : Pool C ε α σ Call} (all : s.All P) {index : Nat} {call : Call}
    {p : Program C ε α} (held : s.calls[index]? = some (call, p)) : P call p :=
  all (call, p) (List.mem_of_getElem? held)

theorem Pool.All.takeUp {s : Pool C ε α σ Call} (all : s.All P) {call : Call}
    {p : Program C ε α} (new : P call p) (store : σ) :
    Pool.All P (⟨store, s.calls ++ [(call, p)]⟩ : Pool C ε α σ Call) := by
  intro entry member
  rcases List.mem_append.mp member with old | last
  · exact all entry old
  · obtain rfl := List.mem_singleton.mp last
    exact new

theorem Pool.All.set {s : Pool C ε α σ Call} (all : s.All P) {call : Call} {p : Program C ε α}
    (moved : P call p) (store : σ) (index : Nat) :
    Pool.All P (⟨store, s.calls.set index (call, p)⟩ : Pool C ε α σ Call) := by
  intro entry member
  rcases List.mem_or_eq_of_mem_set member with old | rfl
  · exact all entry old
  · exact moved

end MessagingSystem.Foundation
