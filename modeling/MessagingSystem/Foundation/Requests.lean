import MessagingSystem.Foundation.Interference

/-!
# Requests within a program

A party that calls a service runs the service's program as a part of its own:
`hoist` takes its commands and errors over into the caller's. A request that is
retried has executed some of its commands before the attempt that counts.
-/
namespace MessagingSystem.Foundation.Program

variable {C D : Type → Type} {ε ε' α β σ τ : Type}

/-- A program of the service as a part of the caller's. -/
def hoist (lift : ∀ {δ : Type}, C δ → D δ) (reject : ε → ε') : Program C ε α → Program D ε' α
  | .done (.ok a) => .done (.ok a)
  | .done (.error e) => .done (.error (reject e))
  | .command c next => .command (lift c) fun reply => hoist lift reject (next reply)

/-- At most `n` commands of the first program, then the second one. -/
def upTo : Nat → Program C ε α → Program C ε β → Program C ε β
  | n + 1, .command c next, q => .command c fun reply => upTo n (next reply) q
  | _, _, q => q

/-- A request that is made again each time an attempt has failed, after so many
of its commands. -/
def retrying (p : Program C ε α) : List Nat → Program C ε α
  | [] => p
  | n :: failed => upTo n p (retrying p failed)

theorem hoist_bind (lift : ∀ {δ : Type}, C δ → D δ) (reject : ε → ε') (p : Program C ε α)
    (f : α → Program C ε β) :
    hoist lift reject (p >>= f) = hoist lift reject p >>= fun a => hoist lift reject (f a) := by
  induction p with
  | done result =>
    cases result with
    | ok a => rfl
    | error e => rfl
  | command c next ih => exact congrArg (Program.command (lift c)) (funext ih)

section Run

variable {exec : ∀ {δ : Type}, C δ → σ → δ × σ} {exec' : ∀ {δ : Type}, D δ → τ → δ × τ}
  {lift : ∀ {δ : Type}, C δ → D δ} {reject : ε → ε'} {view : τ → σ} {put : τ → σ → τ}

/-- The caller's state changes where the service's state is kept. -/
theorem run_hoist (executes : ∀ {δ : Type} (c : C δ) (t : τ),
      exec' (lift c) t = ((exec c (view t)).1, put t (exec c (view t)).2))
    (view_put : ∀ t s, view (put t s) = s) (put_put : ∀ t s s', put (put t s) s' = put t s')
    (put_view : ∀ t, put t (view t) = t) (p : Program C ε α) (t : τ) :
    (hoist lift reject p).run exec' t =
      ((p.run exec (view t)).1.mapError reject, put t (p.run exec (view t)).2) := by
  induction p generalizing t with
  | done result =>
    cases result with
    | ok a => exact Prod.ext rfl (put_view t).symm
    | error e => exact Prod.ext rfl (put_view t).symm
  | command c next ih =>
    simp only [hoist, run, executes]
    rw [ih, view_put, put_put]

end Run

section Contract

variable {exec : ∀ {δ : Type}, C δ → σ → δ × σ} {exec' : ∀ {δ : Type}, D δ → τ → δ × τ}
  {lift : ∀ {δ : Type}, C δ → D δ} {reject : ε → ε'} {view : τ → σ}
  {rely : σ → σ → Prop} {guarantee : ∀ {δ : Type}, C δ → σ → Prop}
  {rely' : τ → τ → Prop} {guarantee' : ∀ {δ : Type}, D δ → τ → Prop}

/-- The contract of the service's program, as the caller's. -/
theorem Ensures.hoist (executes : ∀ {δ : Type} (c : C δ) (t : τ),
      (exec' (lift c) t).1 = (exec c (view t)).1 ∧ view (exec' (lift c) t).2 = (exec c (view t)).2)
    (relies : ∀ t t', rely' t t' → rely (view t) (view t'))
    (guarantees : ∀ {δ : Type} (c : C δ) (t : τ), guarantee c (view t) → guarantee' (lift c) t)
    {p : Program C ε α} {post : α → σ → Prop} {t : τ}
    (contract : Ensures exec rely guarantee p post (view t)) :
    Ensures exec' rely' guarantee' (hoist lift reject p) (fun a t => post a (view t)) t := by
  induction p generalizing t with
  | done result =>
    cases result with
    | ok a => exact ensures_result.mpr (ensures_result.mp contract)
    | error e => exact Ensures.fail _
  | command c next ih =>
    refine ensures_command.mpr fun t' moved => ?_
    have here := ensures_command.mp contract (view t') (relies t t' moved)
    refine ⟨guarantees c t' here.1, ?_⟩
    have following := here.2
    rw [← (executes c t').1, ← (executes c t').2] at following
    exact ih _ following

variable {p : Program C ε α} {q : Program C ε β} {post : β → σ → Prop} {s : σ} {I : σ → Prop}

/-- An attempt that is broken off anywhere leaves what its commands keep. -/
theorem Ensures.upTo {first : α → σ → Prop} (stable : ∀ s s', rely s s' → I s → I s')
    (kept : ∀ {δ : Type} (c : C δ) (s : σ), guarantee c s → I s → I (exec c s).2)
    (rest : ∀ s, I s → Ensures exec rely guarantee q post s) (n : Nat)
    (attempt : Ensures exec rely guarantee p first s) (holds : I s) :
    Ensures exec rely guarantee (upTo n p q) post s := by
  induction p generalizing n s with
  | done result =>
    cases n with
    | zero => exact rest s holds
    | succ n => exact rest s holds
  | command c next ih =>
    cases n with
    | zero => exact rest s holds
    | succ n =>
      refine ensures_command.mpr fun s' moved => ?_
      have here := ensures_command.mp attempt s' moved
      exact ⟨here.1, ih _ n here.2 (kept c s' here.1 (stable s s' moved holds))⟩

/-- A request whose every attempt may start from where another has broken off. -/
theorem Ensures.retrying {post : α → σ → Prop} (stable : ∀ s s', rely s s' → I s → I s')
    (kept : ∀ {δ : Type} (c : C δ) (s : σ), guarantee c s → I s → I (exec c s).2)
    (attempt : ∀ s, I s → Ensures exec rely guarantee p post s) (failed : List Nat) (holds : I s) :
    Ensures exec rely guarantee (retrying p failed) post s := by
  induction failed generalizing s with
  | nil => exact attempt s holds
  | cons n failed ih => exact (attempt s holds).upTo stable kept (fun s holds => ih holds) n holds

end Contract

end MessagingSystem.Foundation.Program
