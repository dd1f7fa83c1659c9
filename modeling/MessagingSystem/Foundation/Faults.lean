import MessagingSystem.Foundation.Program

/-!
# Commands that fail

A command that fails ends the program with an error, and it fails before or
after the store has executed it. `runFailing` runs a program under a schedule of
such failures; `runThrowing` runs one whose commands are each made once, and
`throws` says which of them fail. A program `CommitsOnce` when only one command of each of its runs
changes what is observed of the store and none of its own checks can fail from
there on; an error then leaves the observation as it was exactly when no command
fails once that change is made.
-/
namespace MessagingSystem.Foundation

/-- A failing command: the store has not executed it, or its reply is lost. -/
inductive Fault (ε : Type) where
  | before (e : ε)
  | after (e : ε)

/-- How the n-th command of a program fails, if it does. -/
abbrev Faults (ε : Type) := Nat → Option (Fault ε)

def Faults.later {ε : Type} (faults : Faults ε) : Faults ε := fun n => faults (n + 1)

namespace Program

variable {C : Type → Type} {ε α β γ σ : Type}

/-- The run of a program whose commands fail as scheduled. -/
def runFailing (exec : ∀ {δ : Type}, C δ → σ → δ × σ) :
    Program C ε α → Faults ε → σ → Except ε α × σ
  | .done result, _, s => (result, s)
  | .command c next, faults, s =>
      match faults 0 with
      | some (.before e) => (.error e, s)
      | some (.after e) => (.error e, (exec c s).2)
      | none => runFailing exec (next (exec c s).1) faults.later (exec c s).2

/-- Some command of the program fails. -/
def hasFault (exec : ∀ {δ : Type}, C δ → σ → δ × σ) : Program C ε α → Faults ε → σ → Bool
  | .done _, _, _ => false
  | .command c next, faults, s =>
      (faults 0).isSome || hasFault exec (next (exec c s).1) faults.later (exec c s).2

/-- A command fails after one that `commits`: it, with its reply lost, or a later one. -/
def failsCommitted (exec : ∀ {δ : Type}, C δ → σ → δ × σ)
    (commits : ∀ {δ : Type}, C δ → δ → Bool) : Program C ε α → Faults ε → σ → Bool
  | .done _, _, _ => false
  | .command c next, faults, s =>
      match faults 0 with
      | some (.before _) => false
      | some (.after _) => commits c (exec c s).1
      | none =>
          if commits c (exec c s).1 then hasFault exec (next (exec c s).1) faults.later (exec c s).2
          else failsCommitted exec commits (next (exec c s).1) faults.later (exec c s).2

/-- No check of the program fails. -/
def Checked : Program C ε α → Prop
  | .done result => ∃ a, result = .ok a
  | .command _ next => ∀ reply, Checked (next reply)

/-- Every run makes at most one committing command, and no check fails after it. -/
def CommitsOnce (commits : ∀ {δ : Type}, C δ → δ → Bool) : Program C ε α → Prop
  | .done _ => True
  | .command c next => ∀ reply,
      if commits c reply = true then
        Checked (next reply) ∧ Forall (fun c => ∀ reply, commits c reply = false) (next reply)
      else CommitsOnce commits (next reply)

section Commit

variable {exec : ∀ {δ : Type}, C δ → σ → δ × σ} {commits : ∀ {δ : Type}, C δ → δ → Bool}
  {view : σ → γ}

theorem commitsOnce_fail (e : ε) : CommitsOnce commits (fail e : Program C ε α) := trivial

theorem commitsOnce_command {c : C β} {next : β → Program C ε α} :
    CommitsOnce commits (command c next : Program C ε α) ↔ ∀ reply,
      if commits c reply = true then
        Checked (next reply) ∧ Forall (fun c => ∀ reply, commits c reply = false) (next reply)
      else CommitsOnce commits (next reply) := Iff.rfl

theorem CommitsOnce.bind {p : Program C ε α} {f : α → Program C ε β}
    (first : Forall (fun c => ∀ reply, commits c reply = false) p)
    (rest : ∀ a, CommitsOnce commits (f a)) : CommitsOnce commits (p >>= f) := by
  induction p with
  | done result =>
    cases result with
    | ok a => exact rest a
    | error e => exact trivial
  | command c next ih =>
    obtain ⟨plain, later⟩ := forall_command.mp first
    intro reply
    have silent : ¬ commits c reply = true := by
      rw [plain reply]
      exact Bool.false_ne_true
    rw [if_neg silent]
    exact ih reply (later reply)

theorem CommitsOnce.ite {condition : Prop} [Decidable condition] {p q : Program C ε α}
    (yes : CommitsOnce commits p) (no : CommitsOnce commits q) :
    CommitsOnce commits (if condition then p else q) := by
  split
  · exact yes
  · exact no

/-- A program without failing checks fails exactly when a command does. -/
theorem Checked.fails_iff {p : Program C ε α} (checked : Checked p) (faults : Faults ε) (s : σ) :
    (∃ e, (p.runFailing exec faults s).1 = .error e) ↔ p.hasFault exec faults s = true := by
  induction p generalizing faults s with
  | done result =>
    obtain ⟨a, rfl⟩ := checked
    simp [runFailing, hasFault]
  | command c next ih =>
    unfold runFailing hasFault
    cases faults 0 with
    | none => simpa using ih _ (checked _) faults.later (exec c s).2
    | some fault =>
      cases fault with
      | before e => simp
      | after e => simp

/-- A run that succeeds met no failing command. -/
theorem runFailing_ok {p : Program C ε α} {faults : Faults ε} {s : σ} {a : α}
    (succeeded : (p.runFailing exec faults s).1 = .ok a) :
    p.runFailing exec faults s = p.run exec s := by
  induction p generalizing faults s with
  | done result => rfl
  | command c next ih =>
    unfold runFailing at succeeded ⊢
    cases schedule : faults 0 with
    | none =>
      rw [schedule] at succeeded
      exact ih _ succeeded
    | some fault =>
      rw [schedule] at succeeded
      cases fault with
      | before e => cases succeeded
      | after e => cases succeeded

/-- Commands that commit nothing leave the observation as it is. -/
theorem runFailing_view {allowed : ∀ {δ : Type}, C δ → Prop}
    (observed : ∀ {δ : Type} (c : C δ) (s : σ), allowed c →
      (commits c (exec c s).1 = true ↔ view (exec c s).2 ≠ view s))
    {p : Program C ε α} (all : Forall allowed p)
    (plain : Forall (fun c => ∀ reply, commits c reply = false) p) (faults : Faults ε) (s : σ) :
    view (p.runFailing exec faults s).2 = view s := by
  induction p generalizing faults s with
  | done result => rfl
  | command c next ih =>
    obtain ⟨here, later⟩ := forall_command.mp plain
    obtain ⟨permitted, rest⟩ := forall_command.mp all
    have same : view (exec c s).2 = view s := by
      by_contra changed
      have committed := (observed c s permitted).mpr changed
      rw [here] at committed
      cases committed
    unfold runFailing
    cases faults 0 with
    | none => exact (ih _ (rest _) (later _) faults.later (exec c s).2).trans same
    | some fault =>
      cases fault with
      | before e => rfl
      | after e => exact same

/-- An error leaves the observation as it was exactly when no command fails
after the committing one. -/
theorem CommitsOnce.error_keeps_iff {p : Program C ε α} (once : CommitsOnce commits p)
    {allowed : ∀ {δ : Type}, C δ → Prop} (all : Forall allowed p)
    (observed : ∀ {δ : Type} (c : C δ) (s : σ), allowed c →
      (commits c (exec c s).1 = true ↔ view (exec c s).2 ≠ view s)) (faults : Faults ε) (s : σ) :
    p.failsCommitted exec commits faults s = false ↔
      ((∃ e, (p.runFailing exec faults s).1 = .error e) →
        view (p.runFailing exec faults s).2 = view s) := by
  induction p generalizing faults s with
  | done result => exact iff_of_true rfl fun _ => rfl
  | command c next ih =>
    obtain ⟨permitted, rest⟩ := forall_command.mp all
    have here := once (exec c s).1
    have seen := observed c s permitted
    unfold runFailing failsCommitted
    cases faults 0 with
    | some fault =>
      cases fault with
      | before e => exact iff_of_true rfl fun _ => rfl
      | after e =>
        have failed : ∃ e', (Except.error e : Except ε α) = .error e' := ⟨e, rfl⟩
        simp only [failed, true_implies]
        rw [← Bool.not_eq_true, seen, not_not]
    | none =>
      by_cases committed : commits c (exec c s).1 = true
      · rw [if_pos committed] at here
        have kept := runFailing_view observed (rest _) here.2 faults.later (exec c s).2
        have changed : view ((next (exec c s).1).runFailing exec faults.later (exec c s).2).2 ≠
            view s := kept ▸ seen.mp committed
        simp only [committed, if_true, changed, imp_false]
        rw [here.1.fails_iff, Bool.not_eq_true]
      · rw [if_neg committed] at here
        have same : view (exec c s).2 = view s := by
          by_contra changed
          exact committed (seen.mpr changed)
        simp only [committed, ← same]
        exact ih _ here (rest _) faults.later (exec c s).2

attribute [irreducible] CommitsOnce

end Commit

section Throwing

variable (exec : ∀ {δ : Type}, C δ → σ → δ × σ) (throws : ∀ {δ : Type}, C δ → Option (Fault ε))

/-- The run of a program in which certain commands fail. -/
def runThrowing : Program C ε α → σ → Except ε α × σ
  | .done result, s => (result, s)
  | .command c next, s =>
      match throws c with
      | some (.before e) => (.error e, s)
      | some (.after e) => (.error e, (exec c s).2)
      | none => runThrowing (next (exec c s).1) (exec c s).2

/-- Neither a command of the run fails nor a check. -/
def Succeeds (p : Program C ε α) (s : σ) : Prop := ∃ a, (p.runThrowing exec throws s).1 = .ok a

/-- An error leaves what is observed as it was seen. -/
def KeepsOnError (view : σ → γ) (seen : γ) (p : Program C ε α) (s : σ) : Prop :=
  (∃ e, (p.runThrowing exec throws s).1 = .error e) → view (p.runThrowing exec throws s).2 = seen

variable {exec throws} {view : σ → γ} {seen : γ} {s : σ} {c : C β} {next : β → Program C ε α}

theorem succeeds_command : Succeeds exec throws (.command c next : Program C ε α) s ↔
    throws c = none ∧ Succeeds exec throws (next (exec c s).1) (exec c s).2 := by
  unfold Succeeds
  cases schedule : throws c with
  | none => simp [runThrowing, schedule]
  | some fault => cases fault <;> simp [runThrowing, schedule]

theorem succeeds_bind_pure {p : Program C ε α} {f : α → β} {s : σ} :
    Succeeds exec throws (p >>= fun a => pure (f a) : Program C ε β) s ↔ Succeeds exec throws p s := by
  induction p generalizing s with
  | done result =>
    cases result with
    | ok a => exact iff_of_true ⟨f a, rfl⟩ ⟨a, rfl⟩
    | error e => exact iff_of_false (fun ⟨b, same⟩ => by cases same) (fun ⟨a, same⟩ => by cases same)
  | command c next ih =>
    rw [command_bind, succeeds_command, succeeds_command, ih]

/-- Commands that change nothing observed leave the observation as it is. -/
theorem runThrowing_view {P : ∀ {δ : Type}, C δ → Prop}
    (kept : ∀ {δ : Type} (c : C δ) (s : σ), P c → view (exec c s).2 = view s) {p : Program C ε α}
    (all : Forall P p) (s : σ) : view (p.runThrowing exec throws s).2 = view s := by
  induction p generalizing s with
  | done result => rfl
  | command c next ih =>
    obtain ⟨here, later⟩ := forall_command.mp all
    have same := kept c s here
    cases schedule : throws c with
    | none =>
      simp only [runThrowing, schedule]
      exact (ih _ (later _) (exec c s).2).trans same
    | some fault =>
      cases fault with
      | before e => simp only [runThrowing, schedule]
      | after e =>
        simp only [runThrowing, schedule]
        exact same

theorem keepsOnError_done (same : view s = seen) (result : Except ε α) :
    KeepsOnError exec throws view seen (.done result : Program C ε α) s := fun _ => same

/-- Before the commit a command that fails does no harm. -/
theorem keepsOnError_silent (same : view s = seen) (kept : view (exec c s).2 = view s) :
    KeepsOnError exec throws view seen (.command c next : Program C ε α) s ↔
      (throws c = none → KeepsOnError exec throws view seen (next (exec c s).1) (exec c s).2) := by
  unfold KeepsOnError
  cases schedule : throws c with
  | none => simp [runThrowing, schedule]
  | some fault => cases fault <;> simp [runThrowing, schedule, same, kept]

/-- From the commit on nothing may fail. -/
theorem keepsOnError_commit {P : ∀ {δ : Type}, C δ → Prop} (same : view s = seen)
    (changed : view (exec c s).2 ≠ seen)
    (kept : ∀ {δ : Type} (c : C δ) (s : σ), P c → view (exec c s).2 = view s)
    (all : Forall P (next (exec c s).1)) :
    KeepsOnError exec throws view seen (.command c next : Program C ε α) s ↔
      (∃ e, throws c = some (.before e)) ∨
        (throws c = none ∧ Succeeds exec throws (next (exec c s).1) (exec c s).2) := by
  unfold KeepsOnError Succeeds
  cases schedule : throws c with
  | none =>
    have last := @runThrowing_view _ _ _ _ _ exec throws view _ kept _ all (exec c s).2
    have apart : view ((next (exec c s).1).runThrowing exec throws (exec c s).2).2 ≠ seen := by
      rw [last]
      exact changed
    simp only [runThrowing, schedule, apart, imp_false]
    cases (Program.runThrowing exec throws (next (exec c s).1) (exec c s).2).1 with
    | ok a => simp
    | error e => simp
  | some fault =>
    cases fault with
    | before e => simp [runThrowing, schedule, same]
    | after e => simp [runThrowing, schedule, changed]

end Throwing

end Program

end MessagingSystem.Foundation
