import Mathlib.Data.List.Basic

/-!
# Labelled transition systems and their recorded runs

A run keeps every transition it took, oldest first, so that a statement about
"every step of every run" and a statement about "the state a run reaches" are
about one object. The rules below are the only inductions over runs that the
protocol and store models need.
-/
namespace MessagingSystem.Foundation

/-- A labelled transition system: initial states and a step relation. -/
structure Machine (State Label : Type*) where
  init : State → Prop
  step : State → Label → State → Prop

/-- One recorded step. -/
structure Transition (State Label : Type*) where
  source : State
  label : Label
  target : State

namespace Machine

variable {State Label : Type*} {M : Machine State Label}

/-- `Run start history final`: the transitions of `history`, in order, lead
from `start` to `final`. -/
inductive Run (M : Machine State Label) (start : State) :
    List (Transition State Label) → State → Prop where
  | nil : Run M start [] start
  | snoc {history : List (Transition State Label)} {source target : State} {label : Label}
      (earlier : Run M start history source) (last : M.step source label target) :
      Run M start (history ++ [⟨source, label, target⟩]) target

/-- A state some run from an initial state ends in. -/
def Reachable (M : Machine State Label) (s : State) : Prop :=
  ∃ start history, M.init start ∧ Run M start history s

/-- The run rule with a condition on steps: an invariant that every step
meeting the condition preserves holds after every run of such steps. -/
theorem Run.invariant_of_forall {I : State → Prop} {C : Transition State Label → Prop}
    (preserved : ∀ s label s', I s → M.step s label s' → C ⟨s, label, s'⟩ → I s')
    {start final : State} {history : List (Transition State Label)}
    (initial : I start) (run : Run M start history final) (all : ∀ t ∈ history, C t) :
    I final := by
  induction run with
  | nil => exact initial
  | snoc earlier last ih =>
    have before := ih (fun t ht => all t (by simp [ht]))
    exact preserved _ _ _ before last (all _ (by simp))

/-- The run rule without a condition. -/
theorem Run.invariant {I : State → Prop}
    (preserved : ∀ s label s', I s → M.step s label s' → I s')
    {start final : State} {history : List (Transition State Label)}
    (initial : I start) (run : Run M start history final) : I final :=
  run.invariant_of_forall (C := fun _ => True)
    (fun s label s' inv step _ => preserved s label s' inv step) initial (fun _ _ => trivial)

theorem Reachable.invariant {I : State → Prop} (initial : ∀ s, M.init s → I s)
    (preserved : ∀ s label s', I s → M.step s label s' → I s') {s : State}
    (reachable : M.Reachable s) : I s := by
  obtain ⟨start, history, hinit, run⟩ := reachable
  exact run.invariant preserved (initial start hinit)

/-- Every recorded transition is a step between states that satisfy the
invariant, when every step of the run meets the condition. -/
theorem Run.recorded_of_forall {I : State → Prop} {C : Transition State Label → Prop}
    (preserved : ∀ s label s', I s → M.step s label s' → C ⟨s, label, s'⟩ → I s')
    {start final : State} {history : List (Transition State Label)}
    (initial : I start) (run : Run M start history final) (all : ∀ t ∈ history, C t) :
    ∀ t ∈ history, M.step t.source t.label t.target ∧ I t.source ∧ I t.target := by
  induction run with
  | nil => simp
  | snoc earlier last ih =>
    have before : ∀ t ∈ _, C t := fun t ht => all t (List.mem_append_left _ ht)
    intro t ht
    rcases List.mem_append.mp ht with ht | ht
    · exact ih before t ht
    · obtain rfl := List.mem_singleton.mp ht
      have source := earlier.invariant_of_forall preserved initial before
      exact ⟨last, source, preserved _ _ _ source last (all _ (by simp))⟩

/-- Every recorded transition is a step of the machine, taken from a state
that satisfies the invariant. -/
theorem Run.recorded {I : State → Prop}
    (preserved : ∀ s label s', I s → M.step s label s' → I s')
    {start final : State} {history : List (Transition State Label)}
    (initial : I start) (run : Run M start history final) :
    ∀ t ∈ history, M.step t.source t.label t.target ∧ I t.source := by
  intro t ht
  have recorded := run.recorded_of_forall (C := fun _ => True)
    (fun s label s' inv step _ => preserved s label s' inv step) initial (fun _ _ => trivial) t ht
  exact ⟨recorded.1, recorded.2.1⟩

/-- A stepwise equivalence lifts to the steps of a run. -/
theorem Run.forall_iff {I : State → Prop} {P Q : Transition State Label → Prop}
    (preserved : ∀ s label s', I s → M.step s label s' → I s')
    (stepwise : ∀ t : Transition State Label,
      I t.source → M.step t.source t.label t.target → (P t ↔ Q t))
    {start final : State} {history : List (Transition State Label)}
    (initial : I start) (run : Run M start history final) :
    (∀ t ∈ history, P t) ↔ (∀ t ∈ history, Q t) := by
  have recorded := run.recorded preserved initial
  constructor
  · intro h t ht
    exact (stepwise t (recorded t ht).2 (recorded t ht).1).mp (h t ht)
  · intro h t ht
    exact (stepwise t (recorded t ht).2 (recorded t ht).1).mpr (h t ht)

/-- A property of states holds in every state a run reaches exactly when each
of its steps meets a condition that, from a state with the property, decides
whether the next state has it. -/
theorem Run.forall_target_iff {I G : State → Prop} {C : Transition State Label → Prop}
    (preserved : ∀ s label s', I s → M.step s label s' → I s')
    (decides : ∀ s label s', I s → G s → M.step s label s' → (C ⟨s, label, s'⟩ ↔ G s'))
    {start final : State} {history : List (Transition State Label)}
    (initial : I start) (good : G start) (run : Run M start history final) :
    (∀ t ∈ history, C t) ↔ (∀ t ∈ history, G t.target) := by
  suffices both : ((∀ t ∈ history, C t) ↔ (∀ t ∈ history, G t.target)) ∧
      ((∀ t ∈ history, G t.target) → G final) from both.1
  induction run with
  | nil => simp [good]
  | @snoc history source target label earlier last ih =>
    have sourceInv := earlier.invariant preserved initial
    simp only [List.mem_append, List.mem_singleton, or_imp, forall_and, forall_eq]
    refine ⟨⟨fun h => ?_, fun h => ?_⟩, fun h => h.2⟩
    · have goods := ih.1.mp h.1
      exact ⟨goods, (decides _ _ _ sourceInv (ih.2 goods) last).mp h.2⟩
    · exact ⟨ih.1.mpr h.1, (decides _ _ _ sourceInv (ih.2 h.1) last).mpr h.2⟩

theorem Run.append {a b c : State} {first second : List (Transition State Label)}
    (run : Run M a first b) (rest : Run M b second c) : Run M a (first ++ second) c := by
  induction rest with
  | nil => simpa using run
  | snoc earlier last ih =>
    rw [← List.append_assoc]
    exact .snoc ih last

/-- What a recorded step brings about, and later steps keep, holds at the end. -/
theorem Run.since {I J : State → Prop} (preserved : ∀ s label s', I s → M.step s label s' → I s')
    (kept : ∀ s label s', I s → J s → M.step s label s' → J s')
    {start final : State} {history : List (Transition State Label)} (initial : I start)
    (run : Run M start history final) {t : Transition State Label} (taken : t ∈ history)
    (begins : M.step t.source t.label t.target → I t.source → J t.target) : J final := by
  induction run with
  | nil => cases taken
  | snoc earlier last ih =>
    have before := earlier.invariant preserved initial
    rcases List.mem_append.mp taken with early | late
    · exact kept _ _ _ before (ih early) last
    · obtain rfl := List.mem_singleton.mp late
      exact begins last before

/-- The simulation rule: the steps of a run that meet a condition are followed, one by one, in
another machine, by steps that meet theirs. -/
theorem Run.simulated {State' Label' : Type*} {N : Machine State' Label'} {R : State → State' → Prop}
    {C : Transition State Label → Prop} {D : Transition State' Label' → Prop}
    (follows : ∀ s label s' a, R s a → M.step s label s' → C ⟨s, label, s'⟩ →
      ∃ label' a', N.step a label' a' ∧ D ⟨a, label', a'⟩ ∧ R s' a')
    {start final : State} {history : List (Transition State Label)} {begin : State'}
    (related : R start begin) (run : Run M start history final) (all : ∀ t ∈ history, C t) :
    ∃ history' last, Run N begin history' last ∧ (∀ t ∈ history', D t) ∧ R final last := by
  induction run with
  | nil => exact ⟨[], begin, .nil, by simp, related⟩
  | snoc earlier last ih =>
    obtain ⟨history', middle, run', conditions, here⟩ := ih fun t ht => all t (by simp [ht])
    obtain ⟨label', next, stepped, condition, there⟩ := follows _ _ _ _ here last (all _ (by simp))
    refine ⟨history' ++ [⟨middle, label', next⟩], next, .snoc run' stepped, ?_, there⟩
    intro t ht
    rcases List.mem_append.mp ht with before | now
    · exact conditions t before
    · exact List.mem_singleton.mp now ▸ condition

section Execution

variable (next : State → Label → Option State)

/-- The recorded run of a list of labels, when each of them is enabled. -/
def trace (s : State) : List Label → Option (List (Transition State Label) × State)
  | [] => some ([], s)
  | label :: rest =>
      (next s label).bind fun t =>
        (trace t rest).map fun result => (⟨s, label, t⟩ :: result.1, result.2)

theorem trace_run (sound : ∀ s label t, next s label = some t → M.step s label t) {s final : State}
    {labels : List Label} {history : List (Transition State Label)}
    (executed : trace next s labels = some (history, final)) : Run M s history final := by
  induction labels generalizing s history with
  | nil =>
    cases executed
    exact .nil
  | cons label rest ih =>
    obtain ⟨t, stepped, tail⟩ := Option.bind_eq_some_iff.mp executed
    obtain ⟨⟨later, last⟩, rest, same⟩ := Option.map_eq_some_iff.mp tail
    cases same
    exact Run.append (.snoc .nil (sound s label t stepped)) (ih rest)

end Execution

end Machine

end MessagingSystem.Foundation
