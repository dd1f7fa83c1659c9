import MessagingSystem.Foundation.Requests

/-!
# The paths of a program

A path is one way a program ends, with what its commands have put out: whatever
other parties do between the commands, each command has some reply. So what holds
on every path holds under every interleaving.
-/
namespace MessagingSystem.Foundation.Program

variable {C D : Type → Type} {ε ε' α β σ O : Type}

/-- The program ends with the result after its commands have put out the list. -/
def Path (output : ∀ {δ : Type}, C δ → List O) : Program C ε α → List O → Except ε α → Prop
  | .done ended, outputs, result => outputs = [] ∧ result = ended
  | .command c next, outputs, result =>
      ∃ reply later, outputs = output c ++ later ∧ Path output (next reply) later result

variable {output : ∀ {δ : Type}, C δ → List O} {p : Program C ε α} {f : α → Program C ε β} {outputs : List O}

theorem path_pure {a b : α} (path : Path output (pure a : Program C ε α) outputs (.ok b)) :
    outputs = [] ∧ b = a := ⟨path.1, Except.ok.inj path.2⟩

theorem path_fail {e : ε} {a : α} (path : Path output (fail e : Program C ε α) outputs (.ok a)) : False := by
  cases path.2

/-- A path that succeeds passes through a success of the first part. -/
theorem Path.bind {b : β} (path : Path output (p >>= f) outputs (.ok b)) :
    ∃ a first rest, outputs = first ++ rest ∧ Path output p first (.ok a) ∧ Path output (f a) rest (.ok b) := by
  induction p generalizing outputs with
  | done result =>
    cases result with
    | ok a => exact ⟨a, [], outputs, rfl, ⟨rfl, rfl⟩, path⟩
    | error e => cases path.2
  | command c next ih =>
    obtain ⟨reply, later, rfl, path⟩ := path
    obtain ⟨a, first, rest, rfl, head, tail⟩ := ih reply path
    exact ⟨a, output c ++ first, rest, (List.append_assoc _ _ _).symm, ⟨reply, first, rfl, head⟩, tail⟩

theorem path_require {condition : Bool} {e : ε} {u : Unit}
    (path : Path output (require condition e : Program C ε Unit) outputs (.ok u)) :
    outputs = [] ∧ condition = true := by
  cases condition with
  | true => exact ⟨path.1, rfl⟩
  | false => cases path.2

theorem path_orFail {found : Option α} {e : ε} {a : α}
    (path : Path output (orFail found e : Program C ε α) outputs (.ok a)) : outputs = [] ∧ found = some a := by
  cases found with
  | some a' => exact ⟨path.1, congrArg some (Except.ok.inj path.2).symm⟩
  | none => cases path.2

theorem path_perform {c : C α} {result : Except ε α}
    (path : Path output (perform c : Program C ε α) outputs result) : outputs = output c := by
  obtain ⟨reply, later, rfl, rfl, -⟩ := path
  exact List.append_nil _

/-- A request to a service whose commands put nothing out puts nothing out. -/
theorem Path.hoist {lift : ∀ {δ : Type}, D δ → C δ} {reject : ε' → ε}
    (silent : ∀ {δ : Type} (c : D δ), output (lift c) = []) {q : Program D ε' α} {result : Except ε α}
    (path : Path output (q.hoist lift reject) outputs result) : outputs = [] := by
  induction q generalizing outputs with
  | done ended =>
    cases ended with
    | ok a => exact path.1
    | error e => exact path.1
  | command c next ih =>
    obtain ⟨reply, later, rfl, path⟩ := path
    have here : output (lift c) = [] := silent c
    exact List.append_eq_nil_iff.mpr ⟨here, ih reply path⟩

/-- An uninterrupted run is a path. -/
theorem path_run (output : ∀ {δ : Type}, C δ → List O) (exec : ∀ {δ : Type}, C δ → σ → δ × σ)
    (p : Program C ε α) (s : σ) : ∃ outputs, Path output p outputs (p.run exec s).1 := by
  induction p generalizing s with
  | done result => exact ⟨[], rfl, rfl⟩
  | command c next ih =>
    obtain ⟨outputs, path⟩ := ih (exec c s).1 (exec c s).2
    exact ⟨output c ++ outputs, (exec c s).1, outputs, rfl, path⟩

end MessagingSystem.Foundation.Program
