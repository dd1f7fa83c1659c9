import Mathlib.Data.List.Basic

/-!
# Programs over atomic store commands

A `Program` is a tree of commands, each answered by the store before the next
one is chosen, and it ends in a result or an error. `run` answers all commands
without interruption; `next` answers one, so that programs of several parties
can be interleaved at command boundaries. A property of every command of a
program (`Forall`) is kept by both.
-/
namespace MessagingSystem.Foundation

/-- A program with commands `C`, errors `ε` and results `α`. -/
inductive Program (C : Type → Type) (ε α : Type) : Type 1 where
  | done (result : Except ε α)
  | command {β : Type} (c : C β) (next : β → Program C ε α)

namespace Program

variable {C : Type → Type} {ε α β γ σ : Type}

def bind : Program C ε α → (α → Program C ε β) → Program C ε β
  | .done (.ok a), f => f a
  | .done (.error e), _ => .done (.error e)
  | .command c next, f => .command c fun reply => bind (next reply) f

instance : Monad (Program C ε) where
  pure a := .done (.ok a)
  bind := bind

/-- `throw`. -/
def fail (e : ε) : Program C ε α := .done (.error e)

/-- One command and its reply. -/
def perform (c : C α) : Program C ε α := .command c fun reply => .done (.ok reply)

/-- The check `if (!condition) throw e`. -/
def require (condition : Bool) (e : ε) : Program C ε Unit :=
  if condition then pure () else fail e

/-- A lookup whose absence is an error. -/
def orFail (found : Option α) (e : ε) : Program C ε α :=
  match found with
  | some a => pure a
  | none => fail e

@[simp] theorem pure_bind (a : α) (f : α → Program C ε β) : (pure a >>= f) = f a := rfl

@[simp] theorem done_bind (a : α) (f : α → Program C ε β) :
    ((Program.done (.ok a) : Program C ε α) >>= f) = f a := rfl

@[simp] theorem error_bind (e : ε) (f : α → Program C ε β) :
    ((Program.done (.error e) : Program C ε α) >>= f) = .done (.error e) := rfl

@[simp] theorem fail_bind (e : ε) (f : α → Program C ε β) :
    ((fail e : Program C ε α) >>= f) = fail e := rfl

@[simp] theorem perform_bind (c : C α) (f : α → Program C ε β) :
    ((perform c : Program C ε α) >>= f) = .command c f := rfl

@[simp] theorem command_bind {δ : Type} (c : C δ) (next : δ → Program C ε α)
    (f : α → Program C ε β) :
    ((Program.command c next : Program C ε α) >>= f) = .command c fun reply => next reply >>= f :=
  rfl

@[simp] theorem require_true (e : ε) : (require true e : Program C ε Unit) = pure () := rfl

@[simp] theorem require_false (e : ε) : (require false e : Program C ε Unit) = fail e := rfl

@[simp] theorem orFail_some (a : α) (e : ε) : (orFail (some a) e : Program C ε α) = pure a := rfl

@[simp] theorem orFail_none (e : ε) : (orFail none e : Program C ε α) = fail e := rfl

theorem assoc (p : Program C ε α) (f : α → Program C ε β) (g : β → Program C ε γ) :
    p >>= f >>= g = p >>= fun a => f a >>= g := by
  induction p with
  | done result =>
    cases result with
    | ok a => rfl
    | error e => rfl
  | command c next ih => exact congrArg (Program.command c) (funext ih)

/-- The uninterrupted run. -/
def run (exec : ∀ {δ : Type}, C δ → σ → δ × σ) : Program C ε α → σ → Except ε α × σ
  | .done result, s => (result, s)
  | .command c next, s => run exec (next (exec c s).1) (exec c s).2

/-- One command, or nothing when the program has ended. -/
def next (exec : ∀ {δ : Type}, C δ → σ → δ × σ) (p : Program C ε α) (s : σ) :
    Option (Program C ε α × σ) :=
  match p with
  | .done _ => none
  | .command c next => some (next (exec c s).1, (exec c s).2)

section Run

variable (exec : ∀ {δ : Type}, C δ → σ → δ × σ) (s : σ)

@[simp] theorem run_pure (a : α) : (pure a : Program C ε α).run exec s = (.ok a, s) := rfl

@[simp] theorem run_done (result : Except ε α) :
    (Program.done result : Program C ε α).run exec s = (result, s) := rfl

@[simp] theorem run_fail (e : ε) : (fail e : Program C ε α).run exec s = (.error e, s) := rfl

@[simp] theorem run_perform (c : C α) :
    (perform c : Program C ε α).run exec s = (.ok (exec c s).1, (exec c s).2) := rfl

@[simp] theorem run_require (condition : Bool) (e : ε) :
    (require condition e : Program C ε Unit).run exec s =
      (if condition then .ok () else .error e, s) := by
  cases condition <;> rfl

@[simp] theorem run_orFail (found : Option α) (e : ε) :
    (orFail found e : Program C ε α).run exec s =
      ((match found with | some a => .ok a | none => .error e), s) := by
  cases found <;> rfl

theorem run_bind (p : Program C ε α) (f : α → Program C ε β) :
    (p >>= f).run exec s =
      match p.run exec s with
      | (.ok a, s') => (f a).run exec s'
      | (.error e, s') => (.error e, s') := by
  induction p generalizing s with
  | done result =>
    cases result with
    | ok a => rfl
    | error e => rfl
  | command c next ih => exact ih (exec c s).1 (exec c s).2

end Run

section Answers

variable {exec : ∀ {δ : Type}, C δ → σ → δ × σ} {s : σ}

/-- Without interruption the program answers `found`, or fails when that is
`none`, and leaves the state as it is. -/
def Answers (exec : ∀ {δ : Type}, C δ → σ → δ × σ) (p : Program C ε α) (s : σ) : Option α → Prop
  | some a => p.run exec s = (.ok a, s)
  | none => ∃ e, p.run exec s = (.error e, s)

theorem answers_pure (a : α) : Answers exec (pure a : Program C ε α) s (some a) := rfl

theorem answers_fail (e : ε) : Answers exec (fail e : Program C ε α) s none := ⟨e, rfl⟩

/-- A command that only reads, and the rest of the program. -/
theorem Answers.command {c : C β} {next : β → Program C ε α} {found : Option α}
    (reads : (exec c s).2 = s) (rest : Answers exec (next (exec c s).1) s found) :
    Answers exec (.command c next) s found := by
  have same : (Program.command c next).run exec s = (next (exec c s).1).run exec s := by
    rw [run, reads]
  unfold Answers at rest ⊢
  rw [same]
  exact rest

theorem answers_orFail (found : Option α) (e : ε) :
    Answers exec (orFail found e : Program C ε α) s found := by
  cases found with
  | some a => rfl
  | none => exact ⟨e, rfl⟩

theorem Answers.bind {p : Program C ε α} {f : α → Program C ε β} {found : Option α}
    {rest : α → Option β} (first : Answers exec p s found)
    (then' : ∀ a, found = some a → Answers exec (f a) s (rest a)) :
    Answers exec (p >>= f) s (found.bind rest) := by
  cases found with
  | none =>
    obtain ⟨e, failed⟩ := first
    exact ⟨e, by rw [run_bind, failed]⟩
  | some a =>
    have answered : p.run exec s = (.ok a, s) := first
    have following := then' a rfl
    rw [Option.bind_some]
    cases answer : rest a with
    | none =>
      rw [answer] at following
      obtain ⟨e, failed⟩ := following
      exact ⟨e, by rw [run_bind, answered]; exact failed⟩
    | some b =>
      rw [answer] at following
      show (p >>= f).run exec s = (.ok b, s)
      rw [run_bind, answered]
      exact following

/-- A check and the rest of the program. -/
theorem Answers.require {condition : Bool} {e : ε} {f : Unit → Program C ε β} {rest : Option β}
    (then' : condition = true → Answers exec (f ()) s rest) :
    Answers exec (Program.require condition e >>= f) s (if condition then rest else none) := by
  cases condition with
  | true => exact then' rfl
  | false => exact ⟨e, rfl⟩

theorem Answers.require_decide {condition : Prop} [Decidable condition] {e : ε}
    {f : Unit → Program C ε β} {rest : Option β}
    (then' : condition → Answers exec (f ()) s rest) :
    Answers exec (Program.require (decide condition) e >>= f) s
      (if condition then rest else none) := by
  by_cases holds : condition
  · rw [if_pos holds, decide_eq_true holds]
    exact then' holds
  · rw [if_neg holds, decide_eq_false holds]
    exact ⟨e, rfl⟩

theorem Answers.run_none {p : Program C ε α} (rejected : Answers exec p s none)
    (f : α → Program C ε β) : ∃ e, (p >>= f).run exec s = (.error e, s) := by
  obtain ⟨e, failed⟩ := rejected
  exact ⟨e, by rw [run_bind, failed]⟩

theorem Answers.run_some {p : Program C ε α} {a : α} (answered : Answers exec p s (some a))
    (f : α → Program C ε β) : (p >>= f).run exec s = (f a).run exec s := by
  have found : p.run exec s = (.ok a, s) := answered
  rw [run_bind, found]

end Answers

section Commands

/-- Every command the program can come to satisfies `P`, whatever the replies. -/
def Forall (P : ∀ {δ : Type}, C δ → Prop) : Program C ε α → Prop
  | .done _ => True
  | .command c next => P c ∧ ∀ reply, Forall P (next reply)

variable {P : ∀ {δ : Type}, C δ → Prop}

theorem forall_command {c : C β} {next : β → Program C ε α} :
    Forall P (command c next : Program C ε α) ↔ P c ∧ ∀ reply, Forall P (next reply) := Iff.rfl

@[simp] theorem forall_pure (a : α) : Forall P (pure a : Program C ε α) := trivial

@[simp] theorem forall_fail (e : ε) : Forall P (fail e : Program C ε α) := trivial

@[simp] theorem forall_perform {c : C α} : Forall P (perform c : Program C ε α) ↔ P c :=
  ⟨fun h => h.1, fun h => ⟨h, fun _ => trivial⟩⟩

@[simp] theorem forall_require (condition : Bool) (e : ε) :
    Forall P (require condition e : Program C ε Unit) := by
  cases condition <;> exact trivial

@[simp] theorem forall_orFail (found : Option α) (e : ε) :
    Forall P (orFail found e : Program C ε α) := by
  cases found <;> exact trivial

theorem forall_true (p : Program C ε α) : Forall (fun _ => True) p := by
  induction p with
  | done result => exact trivial
  | command c next ih => exact ⟨trivial, ih⟩

theorem Forall.mono {Q : ∀ {δ : Type}, C δ → Prop} (implies : ∀ {δ : Type} (c : C δ), P c → Q c)
    {p : Program C ε α} (all : Forall P p) : Forall Q p := by
  induction p with
  | done result => exact trivial
  | command c next ih => exact ⟨implies c all.1, fun reply => ih reply (all.2 reply)⟩

theorem forall_ite {condition : Prop} [Decidable condition] {p q : Program C ε α}
    (yes : Forall P p) (no : Forall P q) : Forall P (if condition then p else q) := by
  split
  · exact yes
  · exact no

theorem Forall.bind {p : Program C ε α} {f : α → Program C ε β} (first : Forall P p)
    (rest : ∀ a, Forall P (f a)) : Forall P (p >>= f) := by
  induction p with
  | done result =>
    cases result with
    | ok a => exact rest a
    | error e => exact trivial
  | command c next ih => exact ⟨first.1, fun reply => ih reply (first.2 reply)⟩

/-- A store property that every command of the program keeps holds after a run. -/
theorem Forall.run_invariant {exec : ∀ {δ : Type}, C δ → σ → δ × σ} {I : σ → Prop}
    (keeps : ∀ {δ : Type} (c : C δ) (s : σ), P c → I s → I (exec c s).2)
    {p : Program C ε α} (all : Forall P p) {s : σ} (initial : I s) : I (p.run exec s).2 := by
  induction p generalizing s with
  | done result => exact initial
  | command c next ih => exact ih _ (all.2 _) (keeps c s all.1 initial)

/-- After one command the rest of the program has the same property. -/
theorem Forall.next {exec : ∀ {δ : Type}, C δ → σ → δ × σ} {p q : Program C ε α} {s t : σ}
    (all : Forall P p) (stepped : p.next exec s = some (q, t)) : Forall P q := by
  cases p with
  | done result => cases stepped
  | command c next =>
    cases stepped
    exact all.2 _

attribute [irreducible] Forall

end Commands

end Program

end MessagingSystem.Foundation
