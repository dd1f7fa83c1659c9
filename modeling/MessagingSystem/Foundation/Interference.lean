import MessagingSystem.Foundation.Interleaving

/-!
# Programs under interference

Between two commands of a program other parties may change the store; `rely`
says how. `Ensures` is the rely-guarantee contract of a program: each of its
commands satisfies `guarantee` when it is executed, and a result satisfies
`post`. The contract is stable under interference, so a machine that
interleaves programs has it as an invariant of every program in flight.
-/
namespace MessagingSystem.Foundation

namespace Program

variable {C : Type → Type} {ε α β σ : Type}

section Contract

variable (exec : ∀ {δ : Type}, C δ → σ → δ × σ) (rely : σ → σ → Prop)
  (guarantee : ∀ {δ : Type}, C δ → σ → Prop)

/-- The contract of a program from a state on. -/
def Ensures : Program C ε α → (α → σ → Prop) → σ → Prop
  | .done (.ok a), post, s => post a s
  | .done (.error _), _, _ => True
  | .command c next, post, s =>
      ∀ s', rely s s' → guarantee c s' ∧ Ensures (next (exec c s').1) post (exec c s').2

variable {exec rely guarantee} {post : α → σ → Prop} {s : σ}

theorem Ensures.pure {a : α} (result : post a s) :
    Ensures exec rely guarantee (Pure.pure a : Program C ε α) post s := result

theorem Ensures.fail (e : ε) : Ensures exec rely guarantee (fail e : Program C ε α) post s := trivial

theorem Ensures.perform {c : C α}
    (all : ∀ s', rely s s' → guarantee c s' ∧ post (exec c s').1 (exec c s').2) :
    Ensures exec rely guarantee (perform c : Program C ε α) post s := all

theorem Ensures.require {condition : Bool} {e : ε} {post : Unit → σ → Prop}
    (result : condition = true → post () s) :
    Ensures exec rely guarantee (require condition e : Program C ε Unit) post s := by
  cases condition with
  | true => exact result rfl
  | false => exact trivial

theorem Ensures.orFail {found : Option α} {e : ε} (result : ∀ a, found = some a → post a s) :
    Ensures exec rely guarantee (orFail found e : Program C ε α) post s := by
  cases found with
  | some a => exact result a rfl
  | none => exact trivial

theorem Ensures.bind {p : Program C ε α} {f : α → Program C ε β} {Q : α → σ → Prop}
    {post : β → σ → Prop} (first : Ensures exec rely guarantee p Q s)
    (rest : ∀ a s', Q a s' → Ensures exec rely guarantee (f a) post s') :
    Ensures exec rely guarantee (p >>= f) post s := by
  induction p generalizing s with
  | done result =>
    cases result with
    | ok a => exact rest a s first
    | error e => exact trivial
  | command c next ih => exact fun s' moved => ⟨(first s' moved).1, ih _ (first s' moved).2⟩

/-- A contract whose postcondition survives interference survives it as well. -/
theorem Ensures.stable {p : Program C ε α}
    (trans : ∀ a b c, rely a b → rely b c → rely a c)
    (stable : ∀ a s s', rely s s' → post a s → post a s') {s' : σ} (moved : rely s s')
    (contract : Ensures exec rely guarantee p post s) :
    Ensures exec rely guarantee p post s' := by
  cases p with
  | done result =>
    cases result with
    | ok a => exact stable a s s' moved contract
    | error e => exact trivial
  | command c next => exact fun t further => contract t (trans s s' t moved further)

theorem ensures_command {c : C β} {next : β → Program C ε α} :
    Ensures exec rely guarantee (command c next : Program C ε α) post s ↔
      ∀ s', rely s s' →
        guarantee c s' ∧ Ensures exec rely guarantee (next (exec c s').1) post (exec c s').2 :=
  Iff.rfl

theorem ensures_result {a : α} :
    Ensures exec rely guarantee (.done (.ok a) : Program C ε α) post s ↔ post a s := Iff.rfl

/-- The frame rule: what the interference and the commands leave alone still
holds of the result. -/
theorem Ensures.frame {F : σ → Prop} {p : Program C ε α} (contract : Ensures exec rely guarantee p post s)
    (stable : ∀ s s', rely s s' → F s → F s')
    (kept : ∀ {δ : Type} (c : C δ) (s : σ), guarantee c s → F s → F (exec c s).2) (holds : F s) :
    Ensures exec rely guarantee p (fun a s => post a s ∧ F s) s := by
  induction p generalizing s with
  | done result =>
    cases result with
    | ok a => exact ⟨contract, holds⟩
    | error e => exact trivial
  | command c next ih =>
    refine fun s' moved => ?_
    have here := contract s' moved
    exact ⟨here.1, ih _ here.2 (kept c s' here.1 (stable s s' moved holds))⟩

/-- The invariant rule: what the interference and all commands keep holds of
the result. -/
theorem Ensures.of_invariant {I : σ → Prop} {P : ∀ {δ : Type}, C δ → Prop} {p : Program C ε α}
    (all : Forall P p) (stable : ∀ s s', rely s s' → I s → I s')
    (keeps : ∀ {δ : Type} (c : C δ) (s : σ), P c → I s → guarantee c s ∧ I (exec c s).2)
    (initial : I s) : Ensures exec rely guarantee p (fun _ => I) s := by
  induction p generalizing s with
  | done result =>
    cases result with
    | ok a => exact initial
    | error e => exact trivial
  | command c next ih =>
    have each := forall_command.mp all
    refine fun s' moved => ?_
    have kept := keeps c s' each.1 (stable s s' moved initial)
    exact ⟨kept.1, ih _ (each.2 _) kept.2⟩

attribute [irreducible] Ensures

end Contract

end Program

namespace Calls

variable {C : Type → Type} {ε α σ Call : Type} {K : Calls C ε α σ Call}

/-- What makes the contracts of interleaved calls hold together: a command that
keeps its guarantee is interference the others allow for. -/
structure Compatible (K : Calls C ε α σ Call) (I : σ → Prop) (rely : σ → σ → Prop)
    (guarantee : ∀ {δ : Type}, C δ → σ → Prop) (post : Call → α → σ → Prop) : Prop where
  refl : ∀ s, rely s s
  trans : ∀ a b c, rely a b → rely b c → rely a c
  keeps : ∀ s s', rely s s' → I s → I s'
  stable : ∀ call a s s', rely s s' → post call a s → post call a s'
  allowed : ∀ {δ : Type} (c : C δ) (s : σ), guarantee c s → rely s (K.exec c s).2
  begins : ∀ call s, I s → Program.Ensures K.exec rely guarantee (K.program call) (post call) s

/-- The store invariant, and the contract of every call in flight. -/
def Contracts (K : Calls C ε α σ Call) (I : σ → Prop) (rely : σ → σ → Prop)
    (guarantee : ∀ {δ : Type}, C δ → σ → Prop) (post : Call → α → σ → Prop)
    (s : Pool C ε α σ Call) : Prop :=
  I s.store ∧ s.All fun call p => Program.Ensures K.exec rely guarantee p (post call) s.store

variable {I : σ → Prop} {rely : σ → σ → Prop} {guarantee : ∀ {δ : Type}, C δ → σ → Prop}
  {post : Call → α → σ → Prop} {s t : Pool C ε α σ Call}

theorem Contracts.initial (holds : I s.store) (idle : s.calls = []) :
    K.Contracts I rely guarantee post s := by
  refine ⟨holds, fun entry member => ?_⟩
  rw [idle] at member
  cases member

theorem Contracts.preserved (compatible : K.Compatible I rely guarantee post)
    {event : PoolEvent Call ε} (contracts : K.Contracts I rely guarantee post s)
    (taken : K.Step s event t) : K.Contracts I rely guarantee post t := by
  obtain ⟨holds, all⟩ := contracts
  cases taken with
  | takeUp call => exact ⟨holds, all.takeUp (compatible.begins call s.store holds) s.store⟩
  | advance index call c next running =>
    have here := Program.ensures_command.mp (all.at_index running) s.store (compatible.refl s.store)
    have moved := compatible.allowed c s.store here.1
    have others : s.All fun other p => Program.Ensures K.exec rely guarantee p (post other)
        (K.exec c s.store).2 :=
      all.mono fun other p contract =>
        contract.stable compatible.trans (compatible.stable other) moved
    exact ⟨compatible.keeps _ _ moved holds, others.set here.2 _ index⟩
  | abort index call c next e fails running =>
    exact ⟨holds, all.set (Program.Ensures.fail e) s.store index⟩

/-- The next command of a call keeps the guarantee. -/
theorem Contracts.next_guarantee (compatible : K.Compatible I rely guarantee post)
    (contracts : K.Contracts I rely guarantee post s) {index : Nat} {call : Call} {β : Type} {c : C β}
    {next : β → Program C ε α} (running : s.calls[index]? = some (call, .command c next)) :
    guarantee c s.store :=
  (Program.ensures_command.mp (contracts.2.at_index running) s.store (compatible.refl s.store)).1

/-- A call that has ended with a result has its postcondition. -/
theorem Contracts.result (contracts : K.Contracts I rely guarantee post s) {call : Call} {a : α}
    (ended : (call, Program.done (.ok a)) ∈ s.calls) : post call a s.store :=
  Program.ensures_result.mp (contracts.2 _ ended)

end Calls

end MessagingSystem.Foundation
