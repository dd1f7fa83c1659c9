import Mathlib.Data.Set.Basic
import Mathlib.Logic.Function.Basic
import MessagingSystem.Foundation.Transition

/-!
# Caching what a source offers

A source offers values, other ones as time passes. A reader takes the value in the cache,
or loads one from the source and then puts it in the cache, to stay there for `ttl` units
of time at most. Between the steps of one reader the others go on and the source changes,
so a value that is out of date may be put in the cache. When a reader takes `gap` at most
for what follows its fetch, no answer is older than `ttl + 2 * gap` (`Recent.answered`).
-/
namespace MessagingSystem.Foundation

/-- A value, and when the source was asked for it. -/
structure Loaded (V : Type*) where
  value : V
  loadedAt : Nat

structure CacheAside (V : Type*) where
  now : Nat
  /-- What the source offers, and since when. -/
  offers : Set V
  since : Nat
  /-- The value in the cache, and when it expires. -/
  entry : Option (Loaded V × Nat)
  /-- What each reader has, and when it got it from the cache or the source. -/
  held : Nat → Option (Loaded V × Nat)
  loads : List (Loaded V)
  /-- What the readers have answered, and when. -/
  answers : List (V × Nat)

inductive CacheLabel (V : Type*) where
  | idle
  | elapse (duration : Nat)
  | change (offers : Set V)
  | load (reader : Nat) (value : V)
  | put (reader : Nat)
  | drop
  | hit (reader : Nat)
  | answer (reader : Nat)

namespace CacheAside

variable {V : Type*}

/-- Only a reader that loaded its value itself puts it in the cache. -/
def Step (ttl : Nat) (s : CacheAside V) : CacheLabel V → CacheAside V → Prop
  | .idle, t => t = s
  | .elapse duration, t => t = { s with now := s.now + duration }
  | .change offers, t => t = { s with offers := offers, since := s.now }
  | .load reader value, t =>
      value ∈ s.offers ∧
        t = { s with
          held := Function.update s.held reader (some (⟨value, s.now⟩, s.now))
          loads := s.loads ++ [⟨value, s.now⟩] }
  | .put reader, t =>
      ∃ x, s.held reader = some (x, x.loadedAt) ∧ t = { s with entry := some (x, s.now + ttl) }
  | .drop, t => t = { s with entry := none }
  | .hit reader, t =>
      ∃ x expires, s.entry = some (x, expires) ∧ s.now < expires ∧
        t = { s with held := Function.update s.held reader (some (x, s.now)) }
  | .answer reader, t =>
      ∃ x fetchedAt, s.held reader = some (x, fetchedAt) ∧
        t = { s with
          held := Function.update s.held reader none
          answers := s.answers ++ [(x.value, s.now)] }

/-- The reader that moves got what it has at most `gap` ago. -/
def Prompt (gap : Nat) (s : CacheAside V) : CacheLabel V → Prop
  | .put reader => ∀ x fetchedAt, s.held reader = some (x, fetchedAt) → s.now ≤ fetchedAt + gap
  | .answer reader => ∀ x fetchedAt, s.held reader = some (x, fetchedAt) → s.now ≤ fetchedAt + gap
  | _ => True

/-- A load is no later than now, and current when the source has not changed since. -/
def Sound (s : CacheAside V) (x : Loaded V) : Prop :=
  x.loadedAt ≤ s.now ∧ (s.since < x.loadedAt → x.value ∈ s.offers)

/-- An answer is what the source was loaded with at most `ttl + 2 * gap` before. -/
def Accounted (ttl gap : Nat) (s : CacheAside V) (answer : V × Nat) : Prop :=
  ∃ x ∈ s.loads, x.value = answer.1 ∧ x.loadedAt ≤ answer.2 ∧ answer.2 ≤ x.loadedAt + ttl + 2 * gap

/-- How far what is in the cache and in the hands of the readers lags behind the source. -/
structure Recent (ttl gap : Nat) (s : CacheAside V) : Prop where
  loads : ∀ x ∈ s.loads, s.Sound x
  entry : ∀ x expires, s.entry = some (x, expires) → x ∈ s.loads ∧ expires ≤ x.loadedAt + gap + ttl
  held : ∀ reader x fetchedAt, s.held reader = some (x, fetchedAt) →
    x ∈ s.loads ∧ fetchedAt ≤ x.loadedAt + gap + ttl
  answers : ∀ answer ∈ s.answers, s.Accounted ttl gap answer

variable {ttl gap : Nat} {s t : CacheAside V}

theorem Recent.empty {now since : Nat} {offers : Set V} :
    Recent ttl gap (⟨now, offers, since, none, fun _ => none, [], []⟩ : CacheAside V) where
  loads := by simp
  entry := by simp
  held := by simp
  answers := by simp

/-- What a reader answers in time is current, unless the source changed not long ago. -/
theorem Recent.answered (recent : s.Recent ttl gap) {reader fetchedAt : Nat} {x : Loaded V}
    (held : s.held reader = some (x, fetchedAt)) (prompt : s.now ≤ fetchedAt + gap) :
    s.Accounted ttl gap (x.value, s.now) ∧ (s.since + ttl + 2 * gap < s.now → x.value ∈ s.offers) := by
  obtain ⟨loaded, bound⟩ := recent.held reader x fetchedAt held
  have sound := recent.loads x loaded
  refine ⟨⟨x, loaded, rfl, sound.1, by dsimp only; omega⟩, fun settled => ?_⟩
  apply sound.2
  omega

section Preserved

/-- A step that leaves the logs alone, lets time pass and touches no reader. -/
theorem Recent.later {now : Nat} (recent : s.Recent ttl gap) (forward : s.now ≤ now) :
    Recent ttl gap { s with now := now } where
  loads x member := ⟨le_trans (recent.loads x member).1 forward, (recent.loads x member).2⟩
  entry := recent.entry
  held := recent.held
  answers := recent.answers

/-- Nothing was loaded after a change of the source that happens now. -/
theorem Recent.changed (recent : s.Recent ttl gap) (offers : Set V) :
    Recent ttl gap { s with offers := offers, since := s.now } where
  loads x member := by
    have before := (recent.loads x member).1
    exact ⟨before, fun after => absurd after (Nat.not_lt.mpr before)⟩
  entry := recent.entry
  held := recent.held
  answers := recent.answers

theorem Recent.loaded (recent : s.Recent ttl gap) {value : V} (offered : value ∈ s.offers) (reader : Nat) :
    Recent ttl gap { s with
      held := Function.update s.held reader (some (⟨value, s.now⟩, s.now))
      loads := s.loads ++ [⟨value, s.now⟩] } where
  loads x member := by
    rcases List.mem_append.mp member with old | new
    · exact recent.loads x old
    · obtain rfl := List.mem_singleton.mp new
      exact ⟨le_refl _, fun _ => offered⟩
  entry x expires cached := by
    have before := recent.entry x expires cached
    exact ⟨List.mem_append_left _ before.1, before.2⟩
  held other x fetchedAt has := by
    dsimp only at has
    by_cases here : other = reader
    · rw [here, Function.update_self] at has
      obtain ⟨rfl, rfl⟩ := Prod.mk.inj (Option.some.inj has)
      exact ⟨by simp, by dsimp only; omega⟩
    · rw [Function.update_of_ne here] at has
      have before := recent.held other x fetchedAt has
      exact ⟨List.mem_append_left _ before.1, before.2⟩
  answers answer member := by
    obtain ⟨x, old, rest⟩ := recent.answers answer member
    exact ⟨x, List.mem_append_left _ old, rest⟩

/-- Another entry of the cache, or none. -/
theorem Recent.stored (recent : s.Recent ttl gap) {entry : Option (Loaded V × Nat)}
    (bound : ∀ x expires, entry = some (x, expires) → x ∈ s.loads ∧ expires ≤ x.loadedAt + gap + ttl) :
    Recent ttl gap { s with entry := entry } where
  loads := recent.loads
  entry := bound
  held := recent.held
  answers := recent.answers

/-- A reader gets hold of a value, or lets go of it. -/
theorem Recent.given (recent : s.Recent ttl gap) {reader : Nat} {having : Option (Loaded V × Nat)}
    (bound : ∀ x fetchedAt, having = some (x, fetchedAt) →
      x ∈ s.loads ∧ fetchedAt ≤ x.loadedAt + gap + ttl) :
    Recent ttl gap { s with held := Function.update s.held reader having } where
  loads := recent.loads
  entry := recent.entry
  held other x fetchedAt has := by
    dsimp only at has
    by_cases here : other = reader
    · rw [here, Function.update_self] at has
      exact bound x fetchedAt has
    · rw [Function.update_of_ne here] at has
      exact recent.held other x fetchedAt has
  answers := recent.answers

theorem Recent.recorded (recent : s.Recent ttl gap) {answer : V × Nat} (accounted : s.Accounted ttl gap answer) :
    Recent ttl gap { s with answers := s.answers ++ [answer] } where
  loads := recent.loads
  entry := recent.entry
  held := recent.held
  answers other member := by
    rcases List.mem_append.mp member with old | new
    · exact recent.answers other old
    · obtain rfl := List.mem_singleton.mp new
      exact accounted

/-- Every step of a prompt reader keeps the lag within its bound. -/
theorem Recent.preserved (recent : s.Recent ttl gap) {label : CacheLabel V} (prompt : s.Prompt gap label)
    (step : s.Step ttl label t) : t.Recent ttl gap := by
  cases label with
  | idle =>
    obtain rfl : t = s := step
    exact recent
  | elapse duration =>
    obtain rfl : t = _ := step
    exact recent.later (Nat.le_add_right _ _)
  | change offers =>
    obtain rfl : t = _ := step
    exact recent.changed offers
  | load reader value =>
    obtain ⟨offered, rfl⟩ := step
    exact recent.loaded offered reader
  | put reader =>
    obtain ⟨x, held, rfl⟩ := step
    have inTime := prompt x x.loadedAt held
    apply recent.stored
    intro y expires same
    obtain ⟨rfl, rfl⟩ := Prod.mk.inj (Option.some.inj same)
    exact ⟨(recent.held reader x _ held).1, by omega⟩
  | drop =>
    obtain rfl : t = _ := step
    exact recent.stored (by simp)
  | hit reader =>
    obtain ⟨x, expires, cached, live, rfl⟩ := step
    obtain ⟨loaded, bound⟩ := recent.entry x expires cached
    apply recent.given
    intro y fetchedAt same
    obtain ⟨rfl, rfl⟩ := Prod.mk.inj (Option.some.inj same)
    exact ⟨loaded, by omega⟩
  | answer reader =>
    obtain ⟨x, fetchedAt, held, rfl⟩ := step
    have answered := recent.answered held (prompt x fetchedAt held)
    apply (recent.recorded answered.1).given
    simp

end Preserved

end CacheAside

end MessagingSystem.Foundation
