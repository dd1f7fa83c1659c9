import MessagingSystem.Foundation.Interleaving

/-!
# Interleaved calls with notes

Interleaved calls whose answers are noted as they come: the notes of a call say
what it has read and done so far, which the program it still has to run does not
show. `Along` is a property of a program given the notes: what holds before each
command and at the end, whatever the replies. The calls in flight keep it.
-/
namespace MessagingSystem.Foundation

variable {C : Type → Type} {ε α β σ Call N : Type}

namespace Program

section Along

variable (note : ∀ {δ : Type}, N → C δ → δ → N) (answers : ∀ {δ : Type}, C δ → δ → Prop)
  (before : ∀ {δ : Type}, N → C δ → Prop)

/-- Every command meets `before` and every end meets `after`, for the notes taken
of the replies up to there. -/
def Along (after : N → Except ε α → Prop) : N → Program C ε α → Prop
  | n, .done result => after n result
  | n, .command c next => before n c ∧ ∀ reply, answers c reply → Along after (note n c reply) (next reply)

variable {note answers before}

theorem along_done {after : N → Except ε α → Prop} {n : N} {result : Except ε α} :
    Along note answers before after n (.done result) ↔ after n result := Iff.rfl

theorem along_pure {after : N → Except ε α → Prop} {n : N} {a : α} (holds : after n (.ok a)) :
    Along note answers before after n (pure a : Program C ε α) := holds

theorem along_fail {after : N → Except ε α → Prop} {n : N} {e : ε} (holds : after n (.error e)) :
    Along note answers before after n (fail e : Program C ε α) := holds

theorem along_command {after : N → Except ε α → Prop} {n : N} {c : C β} {next : β → Program C ε α} :
    Along note answers before after n (.command c next) ↔
      before n c ∧ ∀ reply, answers c reply → Along note answers before after (note n c reply) (next reply) :=
  Iff.rfl

theorem Along.bind {p : Program C ε α} {f : α → Program C ε β} {middle : N → Except ε α → Prop}
    {after : N → Except ε β → Prop} {n : N} (first : Along note answers before middle n p)
    (rest : ∀ n a, middle n (.ok a) → Along note answers before after n (f a))
    (failed : ∀ n e, middle n (.error e) → after n (.error e)) :
    Along note answers before after n (p >>= f) := by
  induction p generalizing n with
  | done result =>
    cases result with
    | ok a => exact rest n a first
    | error e => exact failed n e first
  | command c next ih =>
    exact ⟨first.1, fun reply answered => ih reply (first.2 reply answered)⟩

theorem along_perform_bind {after : N → Except ε β → Prop} {n : N} {c : C α}
    {f : α → Program C ε β} (here : before n c)
    (rest : ∀ reply, answers c reply → Along note answers before after (note n c reply) (f reply)) :
    Along note answers before after n (perform c >>= f) := ⟨here, rest⟩

theorem along_require_bind {after : N → Except ε β → Prop} {n : N} {condition : Bool} {e : ε}
    {f : Unit → Program C ε β}
    (rest : condition = true → Along note answers before after n (f ()))
    (failed : condition = false → after n (.error e)) :
    Along note answers before after n (require condition e >>= f) := by
  cases condition with
  | true => exact rest rfl
  | false => exact failed rfl

theorem along_orFail_bind {after : N → Except ε β → Prop} {n : N} {found : Option α} {e : ε}
    {f : α → Program C ε β}
    (rest : ∀ a, found = some a → Along note answers before after n (f a))
    (failed : found = none → after n (.error e)) :
    Along note answers before after n (orFail found e >>= f) := by
  cases found with
  | some a => exact rest a rfl
  | none => exact failed rfl

attribute [irreducible] Along

end Along

end Program

/-- What was asked, what has been noted of the answers, and what is left to do. -/
structure NotedCall (C : Type → Type) (ε α Call N : Type) where
  call : Call
  notes : N
  rest : Program C ε α

/-- The store and the calls taken up. -/
structure NotedPool (C : Type → Type) (ε α σ Call N : Type) where
  store : σ
  calls : List (NotedCall C ε α Call N)

/-- What the calls do and note, which of them come up, how the store answers and
which errors a command may end with. -/
structure NotedCalls (C : Type → Type) (ε α σ Call N : Type) where
  program : Call → Program C ε α
  blank : N
  note : {δ : Type} → N → C δ → δ → N
  exec : {δ : Type} → C δ → σ → δ × σ
  admits : σ → Call → Prop
  mayFail : ε → Prop

namespace NotedCalls

variable (K : NotedCalls C ε α σ Call N)

inductive Step : NotedPool C ε α σ Call N → PoolEvent Call ε → NotedPool C ε α σ Call N → Prop where
  | takeUp (s : NotedPool C ε α σ Call N) (call : Call) (admitted : K.admits s.store call) :
      Step s (.takeUp call) ⟨s.store, s.calls ++ [⟨call, K.blank, K.program call⟩]⟩
  | advance (s : NotedPool C ε α σ Call N) (index : Nat) (call : Call) (n : N) {β : Type} (c : C β)
      (next : β → Program C ε α) (running : s.calls[index]? = some ⟨call, n, .command c next⟩) :
      Step s (.advance index) ⟨(K.exec c s.store).2,
        s.calls.set index ⟨call, K.note n c (K.exec c s.store).1, next (K.exec c s.store).1⟩⟩
  | abort (s : NotedPool C ε α σ Call N) (index : Nat) (call : Call) (n : N) {β : Type} (c : C β)
      (next : β → Program C ε α) (e : ε) (fails : K.mayFail e)
      (running : s.calls[index]? = some ⟨call, n, .command c next⟩) :
      Step s (.abort index e) ⟨s.store, s.calls.set index ⟨call, n, .done (.error e)⟩⟩

/-- Runs from a store that meets a condition, with no call in flight. -/
def machine (start : σ → Prop) :
    Machine (NotedPool C ε α σ Call N) (PoolEvent Call ε) where
  init s := s.calls = [] ∧ start s.store
  step := K.Step

/-- The step of an event, when it is enabled and no command fails. -/
def next (admits : σ → Call → Bool) (s : NotedPool C ε α σ Call N) :
    PoolEvent Call ε → Option (NotedPool C ε α σ Call N)
  | .takeUp call =>
      if admits s.store call then some ⟨s.store, s.calls ++ [⟨call, K.blank, K.program call⟩]⟩
      else none
  | .advance index =>
      match s.calls[index]? with
      | some ⟨call, n, .command c rest⟩ =>
          some ⟨(K.exec c s.store).2,
            s.calls.set index ⟨call, K.note n c (K.exec c s.store).1, rest (K.exec c s.store).1⟩⟩
      | _ => none
  | .abort .. => none

theorem next_step {start : σ → Prop} {admits : σ → Call → Bool}
    (sound : ∀ store call, admits store call = true → K.admits store call)
    (s : NotedPool C ε α σ Call N) (event : PoolEvent Call ε) (t : NotedPool C ε α σ Call N)
    (stepped : K.next admits s event = some t) : (K.machine start).step s event t := by
  cases event with
  | takeUp call =>
    simp only [next] at stepped
    split at stepped
    · rename_i admitted
      cases stepped
      exact .takeUp s call (sound s.store call admitted)
    · cases stepped
  | advance index =>
    simp only [next] at stepped
    split at stepped
    · rename_i call n β c rest running
      cases stepped
      exact .advance s index call n c rest running
    · cases stepped
  | abort index e => cases stepped

section Entries

variable {K} {s t : NotedPool C ε α σ Call N} {event : PoolEvent Call ε}

/-- What a step does to the store. -/
theorem Step.store (taken : K.Step s event t) : t.store = s.store ∨
    ∃ (index : Nat) (call : Call) (n : N) (β : Type) (c : C β) (next : β → Program C ε α),
      event = .advance index ∧ s.calls[index]? = some ⟨call, n, .command c next⟩ ∧
        t.store = (K.exec c s.store).2 := by
  cases taken with
  | takeUp call admitted => exact .inl rfl
  | advance index call n c next running => exact .inr ⟨index, call, n, _, c, next, rfl, running, rfl⟩
  | abort index call n c next e fails running => exact .inl rfl

/-- Where a call has come from: it is as before, has just been taken up, has
executed its command, or has seen it fail. -/
theorem Step.entry (taken : K.Step s event t) {i : Nat} {y : NotedCall C ε α Call N}
    (held : t.calls[i]? = some y) :
    s.calls[i]? = some y ∨
      (∃ call, event = .takeUp call ∧ i = s.calls.length ∧ K.admits s.store call ∧
        y = ⟨call, K.blank, K.program call⟩) ∨
      (∃ (call : Call) (n : N) (β : Type) (c : C β) (next : β → Program C ε α),
        event = .advance i ∧ s.calls[i]? = some ⟨call, n, .command c next⟩ ∧
          y = ⟨call, K.note n c (K.exec c s.store).1, next (K.exec c s.store).1⟩) ∨
      (∃ (call : Call) (n : N) (β : Type) (c : C β) (next : β → Program C ε α) (e : ε),
        event = .abort i e ∧ s.calls[i]? = some ⟨call, n, .command c next⟩ ∧
          y = ⟨call, n, .done (.error e)⟩) := by
  cases taken with
  | takeUp call admitted =>
    rw [List.getElem?_append] at held
    split at held
    · exact .inl held
    · rename_i outside
      have bound := (List.getElem?_eq_some_iff.mp held).1
      have last : i = s.calls.length := by
        simp only [List.length_singleton] at bound
        omega
      refine .inr (.inl ⟨call, rfl, last, admitted, ?_⟩)
      exact List.mem_singleton.mp (List.mem_of_getElem? held)
  | advance index call n c next running =>
    by_cases here : index = i
    · subst here
      obtain ⟨bound, -⟩ := List.getElem?_eq_some_iff.mp running
      rw [List.getElem?_set_self bound] at held
      exact .inr (.inr (.inl ⟨call, n, _, c, next, rfl, running, (Option.some.inj held).symm⟩))
    · rw [List.getElem?_set_ne here] at held
      exact .inl held
  | abort index call n c next e fails running =>
    by_cases here : index = i
    · subst here
      obtain ⟨bound, -⟩ := List.getElem?_eq_some_iff.mp running
      rw [List.getElem?_set_self bound] at held
      exact .inr (.inr (.inr ⟨call, n, _, c, next, e, rfl, running, (Option.some.inj held).symm⟩))
    · rw [List.getElem?_set_ne here] at held
      exact .inl held

/-- A call taken up stays in its place. -/
theorem Step.remains (taken : K.Step s event t) {i : Nat} {x : NotedCall C ε α Call N}
    (held : s.calls[i]? = some x) : ∃ y, t.calls[i]? = some y ∧ y.call = x.call := by
  obtain ⟨bound, -⟩ := List.getElem?_eq_some_iff.mp held
  cases taken with
  | takeUp call admitted =>
    exact ⟨x, by rw [List.getElem?_append_left bound]; exact held, rfl⟩
  | advance index call n c next running =>
    by_cases here : index = i
    · subst here
      rw [running] at held
      cases held
      exact ⟨_, List.getElem?_set_self bound, rfl⟩
    · exact ⟨x, by rw [List.getElem?_set_ne here]; exact held, rfl⟩
  | abort index call n c next e fails running =>
    by_cases here : index = i
    · subst here
      rw [running] at held
      cases held
      exact ⟨_, List.getElem?_set_self bound, rfl⟩
    · exact ⟨x, by rw [List.getElem?_set_ne here]; exact held, rfl⟩

end Entries

section Along

variable {K} {answers : ∀ {δ : Type}, C δ → δ → Prop}
  {before : ∀ {δ : Type}, Call → N → C δ → Prop} {after : Call → N → Except ε α → Prop}

/-- What is left of every call runs along its notes. -/
def AllAlong (K : NotedCalls C ε α σ Call N) (answers : ∀ {δ : Type}, C δ → δ → Prop)
    (before : ∀ {δ : Type}, Call → N → C δ → Prop) (after : Call → N → Except ε α → Prop)
    (s : NotedPool C ε α σ Call N) : Prop :=
  ∀ entry ∈ s.calls, Program.Along K.note answers (before entry.call) (after entry.call)
    entry.notes entry.rest

theorem AllAlong.preserved (answered : ∀ {δ : Type} (c : C δ) (s : σ), answers c (K.exec c s).1)
    (begins : ∀ call, Program.Along K.note answers (before call) (after call) K.blank (K.program call))
    (fails : ∀ {δ : Type} (call : Call) (n : N) (c : C δ) (e : ε), before call n c → K.mayFail e →
      after call n (.error e))
    {s t : NotedPool C ε α σ Call N} {event : PoolEvent Call ε}
    (all : K.AllAlong answers before after s) (taken : K.Step s event t) :
    K.AllAlong answers before after t := by
  cases taken with
  | takeUp call admitted =>
    intro entry member
    rcases List.mem_append.mp member with old | new
    · exact all entry old
    · obtain rfl := List.mem_singleton.mp new
      exact begins call
  | advance index call n c next running =>
    have here := Program.along_command.mp (all _ (List.mem_of_getElem? running))
    intro entry member
    rcases List.mem_or_eq_of_mem_set member with old | rfl
    · exact all entry old
    · exact here.2 _ (answered c s.store)
  | abort index call n c next e fail running =>
    have here := Program.along_command.mp (all _ (List.mem_of_getElem? running))
    intro entry member
    rcases List.mem_or_eq_of_mem_set member with old | rfl
    · exact all entry old
    · exact Program.along_done.mpr (fails call n c e here.1 fail)

end Along

end NotedCalls

end MessagingSystem.Foundation
