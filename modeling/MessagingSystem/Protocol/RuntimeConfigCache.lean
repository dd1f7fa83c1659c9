import MessagingSystem.Foundation.CacheAside
import MessagingSystem.Source.Server.RuntimeConfig

/-!
# Calls for the settings in force

Processes, each with its environment, ask for the settings while operators change the
document. The answers of Redis and of the database come at any later time, each of them
may fail, and Redis may lose what it holds. A release of another shape may share the key.
-/
namespace MessagingSystem.Protocol
open Foundation Source.Server

/-- A call in flight; times are milliseconds. -/
structure PendingConfig where
  env : Env
  begun : Nat
  call : ConfigCall

/-- What a `findOne` saw. -/
structure ConfigRead where
  document : Option SystemConfigDocument
  env : Env
  readAt : Nat

structure ConfigAnswer where
  config : EffectiveRuntimeConfig
  answeredAt : Nat

structure ConfigService where
  now : Nat
  document : Option SystemConfigDocument
  changedAt : Nat
  /-- The text under the key in Redis, and when it expires. -/
  cached : Option (String × Nat)
  calls : Nat → Option PendingConfig
  nextCall : Nat
  reads : List ConfigRead
  answers : List ConfigAnswer

inductive ConfigEvent where
  | elapse (duration : Nat)
  | configure (document : Option SystemConfigDocument)
  | begins (env : Env) (redisConnected : Bool)
  | get (call : Nat)
  | getFails (call : Nat)
  | find (call : Nat)
  | findFails (call : Nat)
  | set (call : Nat)
  | setFails (call : Nat)
  | returns (call : Nat)
  | evicted
  | overwritten (text : String) (expires : Nat)

namespace ConfigService

variable (s : ConfigService)

def redisGet : Option String :=
  match s.cached with
  | some (text, expires) => if s.now < expires then some text else none
  | none => none

/-- `SET key text EX ttl`. -/
def redisSet (effective : EffectiveRuntimeConfig) : ConfigService :=
  { s with cached := some (Json.stringify effective.toJson, s.now + 1000 * runtimeConfigRedisTtlSeconds) }

def goesOn (index : Nat) (pending : PendingConfig) (call : ConfigCall) : ConfigService :=
  { s with calls := Function.update s.calls index (some { pending with call := call }) }

def ends (index : Nat) : ConfigService := { s with calls := Function.update s.calls index none }

def reply (index : Nat) (answer : PendingConfig → Option ConfigService) : Option ConfigService :=
  (s.calls index).bind answer

/-- Other releases leave no text that this one takes for settings. -/
def next (envs : List Env) : ConfigEvent → Option ConfigService
  | .elapse duration => some { s with now := s.now + duration }
  | .configure document => some { s with document := document, changedAt := s.now }
  | .begins env redisConnected =>
      if env ∈ envs then
        some { s with
          calls := Function.update s.calls s.nextCall (some ⟨env, s.now, .begins redisConnected⟩)
          nextCall := s.nextCall + 1 }
      else none
  | .get index => s.reply index fun pending =>
      match pending.call with
      | .get => some (s.goesOn index pending (.afterGet s.redisGet))
      | _ => none
  | .getFails index => s.reply index fun pending =>
      match pending.call with
      | .get => some (s.goesOn index pending (.find true))
      | _ => none
  | .find index => s.reply index fun pending =>
      match pending.call with
      | .find redis =>
          some { s.goesOn index pending
              (.afterFind redis (buildEffectiveRuntimeConfigFromDb s.document pending.env)) with
            reads := s.reads ++ [⟨s.document, pending.env, s.now⟩] }
      | _ => none
  | .findFails index => s.reply index fun pending =>
      match pending.call with
      | .find _ => some (s.ends index)
      | _ => none
  | .set index => s.reply index fun pending =>
      match pending.call with
      | .set effective => some ((s.redisSet effective).goesOn index pending (.returns effective))
      | _ => none
  | .setFails index => s.reply index fun pending =>
      match pending.call with
      | .set effective => some (s.goesOn index pending (.returns effective))
      | _ => none
  | .returns index => s.reply index fun pending =>
      match pending.call with
      | .returns effective => some { s.ends index with answers := s.answers ++ [⟨effective, s.now⟩] }
      | _ => none
  | .evicted => some { s with cached := none }
  | .overwritten text expires =>
      match parseCachedJson text with
      | none => some { s with cached := some (text, expires) }
      | some _ => none

/-- A call that stores or answers began at most `gap` ago. -/
def InTime (gap : Nat) : ConfigEvent → Prop
  | .set index | .returns index => ∀ pending ∈ s.calls index, s.now ≤ pending.begun + gap
  | _ => True

instance (gap : Nat) (event : ConfigEvent) : Decidable (s.InTime gap event) :=
  match event with
  | .set index | .returns index => inferInstanceAs (Decidable (∀ pending ∈ s.calls index, s.now ≤ pending.begun + gap))
  | .elapse _ | .configure _ | .begins .. | .get _ | .getFails _ | .find _ | .findFails _ | .setFails _ | .evicted
  | .overwritten .. => isTrue trivial

end ConfigService

/-- Processes with the environments `envs`, from a time when Redis holds no settings. -/
def runtimeConfigMachine (envs : List Env) : Machine ConfigService ConfigEvent where
  init s := (∀ text expires, s.cached = some (text, expires) → parseCachedJson text = none) ∧
    s.calls = (fun _ => none) ∧ s.reads = [] ∧ s.answers = []
  step s event t := s.next envs event = some t

section Refinement

def ConfigRead.loaded (read : ConfigRead) : Loaded EffectiveRuntimeConfig :=
  ⟨buildEffectiveRuntimeConfigFromDb read.document read.env, read.readAt⟩

def ConfigAnswer.stamped (answer : ConfigAnswer) : EffectiveRuntimeConfig × Nat :=
  (answer.config, answer.answeredAt)

/-- What the database gives the processes now. -/
def ConfigService.offered (envs : List Env) (s : ConfigService) : Set EffectiveRuntimeConfig :=
  { config | ∃ env ∈ envs, config = buildEffectiveRuntimeConfigFromDb s.document env }

abbrev Readers := Nat → Option (Loaded EffectiveRuntimeConfig × Nat)

/-- A call that stores settings loaded them itself; one that answers may have found them in Redis. -/
def Holds (held : Readers) (index : Nat) (pending : PendingConfig) : Prop :=
  match pending.call with
  | .set effective => ∃ x, held index = some (x, x.loadedAt) ∧ x.value = effective ∧ pending.begun ≤ x.loadedAt
  | .returns effective =>
      ∃ x fetchedAt, held index = some (x, fetchedAt) ∧ x.value = effective ∧ pending.begun ≤ fetchedAt
  | _ => True

/-- A call of a process of the deployment. -/
def Serves (envs : List Env) (now : Nat) (held : Readers) (index : Nat) (pending : PendingConfig) : Prop :=
  pending.env ∈ envs ∧ pending.begun ≤ now ∧ Holds held index pending

/-- The service is a cache of settings. -/
structure Represents (envs : List Env) (s : ConfigService) (a : CacheAside EffectiveRuntimeConfig) : Prop where
  now : a.now = s.now
  since : a.since = s.changedAt
  offers : a.offers = s.offered envs
  loads : a.loads = s.reads.map ConfigRead.loaded
  answers : a.answers = s.answers.map ConfigAnswer.stamped
  entry : ∀ text expires config, s.cached = some (text, expires) → parseCachedJson text = some config →
    ∃ x, a.entry = some (x, expires) ∧ x.value = config
  calls : ∀ index pending, s.calls index = some pending → Serves envs s.now a.held index pending
  reads : ∀ read ∈ s.reads, read.env ∈ envs

variable {envs : List Env} {gap : Nat} {s t : ConfigService} {a : CacheAside EffectiveRuntimeConfig}

theorem Holds.congr {held held' : Readers} {index : Nat} {pending : PendingConfig}
    (same : held' index = held index) (holds : Holds held index pending) : Holds held' index pending := by
  unfold Holds at holds ⊢
  rw [same]
  exact holds

/-- The calls after the one at `index` has moved. -/
theorem Represents.calls_update (represents : Represents envs s a) {index : Nat} {having : Option PendingConfig}
    {held : Readers} (others : ∀ other, other ≠ index → held other = a.held other)
    (here : ∀ pending, having = some pending → Serves envs s.now held index pending) :
    ∀ other pending, Function.update s.calls index having other = some pending →
      Serves envs s.now held other pending := by
  intro other pending has
  by_cases same : other = index
  · subst same
    rw [Function.update_self] at has
    exact here pending has
  · rw [Function.update_of_ne same] at has
    obtain ⟨deployed, begun, holds⟩ := represents.calls other pending has
    exact ⟨deployed, begun, holds.congr (others other same)⟩

/-- A call that goes on without anything in its hands that a reader of the cache would have. -/
theorem Represents.goesOn (represents : Represents envs s a) {index : Nat} {pending : PendingConfig}
    (running : s.calls index = some pending) {call : ConfigCall}
    (holds : Holds a.held index { pending with call := call }) :
    Represents envs (s.goesOn index pending call) a :=
  { represents with
    calls := by
      have serves := represents.calls index pending running
      apply represents.calls_update (fun _ _ => rfl)
      intro moved same
      obtain rfl := Option.some.inj same
      exact ⟨serves.1, serves.2.1, holds⟩ }

theorem redisGet_some {text : String} (found : s.redisGet = some text) :
    ∃ expires, s.cached = some (text, expires) ∧ s.now < expires := by
  unfold ConfigService.redisGet at found
  split at found
  · rename_i kept expires cached
    by_cases live : s.now < expires
    · rw [if_pos live] at found
      obtain rfl := Option.some.inj found
      exact ⟨expires, cached, live⟩
    · rw [if_neg live] at found
      cases found
  · cases found

theorem reply_some {index : Nat} {answer : PendingConfig → Option ConfigService}
    (replied : s.reply index answer = some t) :
    ∃ pending, s.calls index = some pending ∧ answer pending = some t :=
  Option.bind_eq_some_iff.mp replied

/-- How long a text stays in Redis, in milliseconds. -/
def runtimeConfigTtl : Nat := 1000 * runtimeConfigRedisTtlSeconds

/-- A step of the service is one of the cache, prompt when the call is in time. -/
def IsFollowed (envs : List Env) (gap : Nat) (s : ConfigService) (a : CacheAside EffectiveRuntimeConfig)
    (event : ConfigEvent) (t : ConfigService) : Prop :=
  ∃ label b, a.Step runtimeConfigTtl label b ∧ (s.InTime gap event → a.Prompt gap label) ∧ Represents envs t b

/-- The answer to a `GET` is a hit of the cache, or sends the call to the database. -/
theorem Represents.get (represents : Represents envs s a) {index : Nat} {pending : PendingConfig}
    (running : s.calls index = some pending) :
    IsFollowed envs gap s a (.get index) (s.goesOn index pending (.afterGet s.redisGet)) := by
  rcases ConfigCall.afterGet_cases s.redisGet with ⟨text, hit, found, parsed, after⟩ | after
  · obtain ⟨expires, cached, live⟩ := redisGet_some found
    obtain ⟨x, entry, value⟩ := represents.entry text expires hit cached parsed
    have serves := represents.calls index pending running
    refine ⟨.hit index, _, ⟨x, expires, entry, by rw [represents.now]; exact live, rfl⟩, fun _ => trivial, ?_⟩
    rw [after]
    exact { represents with
      calls := by
        apply represents.calls_update
        · intro other different
          exact Function.update_of_ne different _ _
        · intro moved same
          obtain rfl := Option.some.inj same
          exact ⟨serves.1, serves.2.1, x, a.now, Function.update_self _ _ _, value,
            by rw [represents.now]; exact serves.2.1⟩ }
  · rw [after]
    exact ⟨.idle, a, rfl, fun _ => trivial, represents.goesOn running trivial⟩

/-- A `findOne` is a load of what the database offers. -/
theorem Represents.find (represents : Represents envs s a) {index : Nat} {pending : PendingConfig}
    (running : s.calls index = some pending) (redis : Bool) :
    IsFollowed envs gap s a (.find index) { s.goesOn index pending
        (.afterFind redis (buildEffectiveRuntimeConfigFromDb s.document pending.env)) with
      reads := s.reads ++ [⟨s.document, pending.env, s.now⟩] } := by
  obtain ⟨deployed, begun, -⟩ := represents.calls index pending running
  have offered : buildEffectiveRuntimeConfigFromDb s.document pending.env ∈ a.offers := by
    rw [represents.offers]
    exact ⟨pending.env, deployed, rfl⟩
  refine ⟨.load index _, _, ⟨offered, rfl⟩, fun _ => trivial, ?_⟩
  exact { represents with
    loads := by
      show a.loads ++ [⟨_, a.now⟩] = (s.reads ++ [_]).map ConfigRead.loaded
      rw [represents.loads, represents.now, List.map_append]
      rfl
    calls := by
      apply represents.calls_update
      · intro other different
        exact Function.update_of_ne different _ _
      · intro moved same
        obtain rfl := Option.some.inj same
        refine ⟨deployed, begun, ?_⟩
        have since : pending.begun ≤ a.now := by
          rw [represents.now]
          exact begun
        cases redis with
        | true => exact ⟨⟨_, a.now⟩, Function.update_self _ _ _, rfl, since⟩
        | false => exact ⟨⟨_, a.now⟩, a.now, Function.update_self _ _ _, rfl, since⟩
    reads := by
      intro read member
      rcases List.mem_append.mp member with old | new
      · exact represents.reads read old
      · obtain rfl := List.mem_singleton.mp new
        exact deployed }

/-- A `SET` puts in the cache what the call has loaded. -/
theorem Represents.set (represents : Represents envs s a) {index : Nat} {pending : PendingConfig}
    (running : s.calls index = some pending) {effective : EffectiveRuntimeConfig}
    (storing : pending.call = .set effective) :
    IsFollowed envs gap s a (.set index) ((s.redisSet effective).goesOn index pending (.returns effective)) := by
  obtain ⟨deployed, begun, holds⟩ := represents.calls index pending running
  unfold Holds at holds
  rw [storing] at holds
  obtain ⟨x, held, rfl, since⟩ := holds
  refine ⟨.put index, _, ⟨x, held, rfl⟩, ?_, ?_⟩
  · intro inTime y fetchedAt same
    obtain ⟨rfl, rfl⟩ := Prod.mk.inj (Option.some.inj (held.symm.trans same))
    have bound := inTime pending running
    rw [represents.now]
    omega
  · exact { represents with
      entry := by
        intro text expires config cached parsed
        obtain ⟨rfl, rfl⟩ := Prod.mk.inj (Option.some.inj cached)
        rw [parseCachedJson_stringify] at parsed
        rw [represents.now]
        exact ⟨x, rfl, Option.some.inj parsed⟩
      calls := by
        apply represents.calls_update (fun _ _ => rfl)
        intro moved same
        obtain rfl := Option.some.inj same
        exact ⟨deployed, begun, x, x.loadedAt, held, rfl, since⟩ }

theorem Represents.returns (represents : Represents envs s a) {index : Nat} {pending : PendingConfig}
    (running : s.calls index = some pending) {effective : EffectiveRuntimeConfig}
    (returning : pending.call = .returns effective) :
    IsFollowed envs gap s a (.returns index)
      { s.ends index with answers := s.answers ++ [⟨effective, s.now⟩] } := by
  obtain ⟨deployed, begun, holds⟩ := represents.calls index pending running
  unfold Holds at holds
  rw [returning] at holds
  obtain ⟨x, fetchedAt, held, rfl, since⟩ := holds
  refine ⟨.answer index, _, ⟨x, fetchedAt, held, rfl⟩, ?_, ?_⟩
  · intro inTime y fetched same
    obtain ⟨rfl, rfl⟩ := Prod.mk.inj (Option.some.inj (held.symm.trans same))
    have bound := inTime pending running
    rw [represents.now]
    omega
  · exact { represents with
      answers := by
        show a.answers ++ [(x.value, a.now)] = (s.answers ++ [_]).map ConfigAnswer.stamped
        rw [represents.answers, represents.now, List.map_append]
        rfl
      calls := by
        apply represents.calls_update
        · intro other different
          exact Function.update_of_ne different _ _
        · intro moved same
          cases same }

/-- A call that fails on the database leaves. -/
theorem Represents.ends (represents : Represents envs s a) (index : Nat) : Represents envs (s.ends index) a :=
  { represents with
    calls := by
      apply represents.calls_update (fun _ _ => rfl)
      intro moved same
      cases same }

theorem Represents.begins (represents : Represents envs s a) {env : Env} (deployed : env ∈ envs)
    (redisConnected : Bool) :
    Represents envs { s with
      calls := Function.update s.calls s.nextCall (some ⟨env, s.now, .begins redisConnected⟩)
      nextCall := s.nextCall + 1 } a :=
  { represents with
    calls := by
      apply represents.calls_update (fun _ _ => rfl)
      intro moved same
      obtain rfl := Option.some.inj same
      refine ⟨deployed, le_refl _, ?_⟩
      cases redisConnected with
      | true => exact trivial
      | false => exact trivial }

/-- The refinement: every event of the service. -/
theorem Represents.follows (represents : Represents envs s a) {event : ConfigEvent}
    (stepped : s.next envs event = some t) : IsFollowed envs gap s a event t := by
  have idle : Represents envs t a → IsFollowed envs gap s a event t :=
    fun same => ⟨.idle, a, rfl, fun _ => trivial, same⟩
  cases event with
  | elapse duration =>
    cases stepped
    refine ⟨.elapse duration, _, rfl, fun _ => trivial, ?_⟩
    exact { represents with
      now := by
        show a.now + duration = s.now + duration
        rw [represents.now]
      calls := by
        intro index pending running
        obtain ⟨deployed, begun, holds⟩ := represents.calls index pending running
        exact ⟨deployed, le_trans begun (Nat.le_add_right _ _), holds⟩ }
  | configure document =>
    cases stepped
    refine ⟨.change (ConfigService.offered envs { s with document := document }), _, rfl, fun _ => trivial, ?_⟩
    exact { represents with
      since := represents.now
      offers := rfl }
  | begins env redisConnected =>
    simp only [ConfigService.next] at stepped
    split at stepped
    · rename_i deployed
      cases stepped
      exact idle (represents.begins deployed redisConnected)
    · cases stepped
  | get index =>
    obtain ⟨pending, running, goes⟩ := reply_some stepped
    cases waiting : pending.call <;> simp only [waiting, reduceCtorEq] at goes
    cases goes
    exact represents.get running
  | getFails index =>
    obtain ⟨pending, running, goes⟩ := reply_some stepped
    cases waiting : pending.call <;> simp only [waiting, reduceCtorEq] at goes
    cases goes
    exact idle (represents.goesOn running trivial)
  | find index =>
    obtain ⟨pending, running, goes⟩ := reply_some stepped
    cases waiting : pending.call <;> simp only [waiting, reduceCtorEq] at goes
    cases goes
    exact represents.find running _
  | findFails index =>
    obtain ⟨pending, running, goes⟩ := reply_some stepped
    cases waiting : pending.call <;> simp only [waiting, reduceCtorEq] at goes
    cases goes
    exact idle (represents.ends index)
  | set index =>
    obtain ⟨pending, running, goes⟩ := reply_some stepped
    cases waiting : pending.call <;> simp only [waiting, reduceCtorEq] at goes
    cases goes
    exact represents.set running waiting
  | setFails index =>
    obtain ⟨pending, running, goes⟩ := reply_some stepped
    cases waiting : pending.call <;> simp only [waiting, reduceCtorEq] at goes
    cases goes
    obtain ⟨x, held, value, since⟩ : ∃ x, a.held index = some (x, x.loadedAt) ∧ _ ∧ _ := by
      have holds := (represents.calls index pending running).2.2
      unfold Holds at holds
      rw [waiting] at holds
      exact holds
    exact idle (represents.goesOn running ⟨x, x.loadedAt, held, value, since⟩)
  | returns index =>
    obtain ⟨pending, running, goes⟩ := reply_some stepped
    cases waiting : pending.call <;> simp only [waiting, reduceCtorEq] at goes
    cases goes
    exact represents.returns running waiting
  | evicted =>
    cases stepped
    exact ⟨.drop, _, rfl, fun _ => trivial, { represents with entry := by simp }⟩
  | overwritten text expires =>
    simp only [ConfigService.next] at stepped
    split at stepped
    · rename_i foreign
      cases stepped
      refine ⟨.drop, _, rfl, fun _ => trivial, { represents with entry := ?_ }⟩
      intro other until' config cached parsed
      obtain ⟨rfl, rfl⟩ := Prod.mk.inj (Option.some.inj cached)
      rw [foreign] at parsed
      cases parsed
    · cases stepped

end Refinement

end MessagingSystem.Protocol
