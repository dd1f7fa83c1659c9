import MessagingSystem.Protocol.RuntimeConfigCache

/-!
# How soon a change of the settings takes effect

When a call takes `gap` milliseconds at most, no answer is older than the five minutes of
the cache and two calls: one that stored the settings just before its end, and one that
found them just before they expired. Failures of Redis and lost texts do not change that.
-/
namespace MessagingSystem.Guarantees.SettingsInForce
open Foundation Protocol Source.Server

variable {envs : List Env} {gap : Nat} {s t : ConfigService}

/-- The cache behind the service lags within its bound. -/
def Lags (envs : List Env) (gap : Nat) (s : ConfigService) : Prop :=
  ∃ a, Represents envs s a ∧ a.Recent runtimeConfigTtl gap

theorem lags_initial (initial : (runtimeConfigMachine envs).init s) : Lags envs gap s := by
  obtain ⟨foreign, idle, unread, unanswered⟩ := initial
  refine ⟨⟨s.now, s.offered envs, s.changedAt, none, fun _ => none, [], []⟩, ?_, .empty⟩
  constructor
  case entry =>
    intro text expires config cached parsed
    rw [foreign text expires cached] at parsed
    cases parsed
  case calls =>
    intro index pending running
    rw [idle] at running
    cases running
  case reads => simp [unread]
  case loads => simp [unread]
  case answers => simp [unanswered]
  case now => rfl
  case since => rfl
  case offers => rfl

theorem lags_preserved {event : ConfigEvent} (lags : Lags envs gap s) (stepped : s.next envs event = some t)
    (inTime : s.InTime gap event) : Lags envs gap t := by
  obtain ⟨a, represents, recent⟩ := lags
  obtain ⟨label, b, step, prompt, represents'⟩ := represents.follows stepped
  exact ⟨b, represents', recent.preserved (prompt inTime) step⟩

theorem reply_some_call {index : Nat} {answer : PendingConfig → Option ConfigService}
    {P : ConfigService → Prop} (all : ∀ pending u, answer pending = some u → P u)
    (replied : s.reply index answer = some t) : P t := by
  obtain ⟨pending, -, answered⟩ := reply_some replied
  exact all pending t answered

/-- Only the return of a call is an answer. -/
theorem next_answers {event : ConfigEvent} (stepped : s.next envs event = some t) :
    t.answers = s.answers ∨
      ∃ index pending effective, event = .returns index ∧ s.calls index = some pending ∧
        pending.call = .returns effective ∧ t.answers = s.answers ++ [⟨effective, s.now⟩] := by
  cases event with
  | returns index =>
    obtain ⟨pending, running, goes⟩ := reply_some stepped
    cases waiting : pending.call <;> simp only [waiting, reduceCtorEq] at goes
    cases goes
    exact .inr ⟨index, pending, _, rfl, running, waiting, rfl⟩
  | begins env redisConnected =>
    left
    simp only [ConfigService.next] at stepped
    split at stepped <;> cases stepped
    rfl
  | overwritten text expires =>
    left
    simp only [ConfigService.next] at stepped
    split at stepped <;> cases stepped
    rfl
  | elapse duration => cases stepped; exact .inl rfl
  | configure document => cases stepped; exact .inl rfl
  | evicted => cases stepped; exact .inl rfl
  | get index | getFails index | find index | findFails index | set index | setFails index =>
    left
    apply reply_some_call (P := fun u => u.answers = s.answers) _ stepped
    intro pending u answered
    cases waiting : pending.call <;> simp only [waiting, reduceCtorEq] at answered
    cases answered
    rfl

/-- What a service that lags has answered comes from a read of the document not long before. -/
theorem answer_read (lags : Lags envs gap s) {answer : ConfigAnswer} (answered : answer ∈ s.answers) :
    ∃ read ∈ s.reads, read.env ∈ envs ∧
      answer.config = buildEffectiveRuntimeConfigFromDb read.document read.env ∧
      read.readAt ≤ answer.answeredAt ∧ answer.answeredAt ≤ read.readAt + runtimeConfigTtl + 2 * gap := by
  obtain ⟨a, represents, recent⟩ := lags
  have logged : answer.stamped ∈ a.answers := by
    rw [represents.answers]
    exact List.mem_map_of_mem answered
  obtain ⟨x, loaded, value, after, before⟩ := recent.answers _ logged
  rw [represents.loads] at loaded
  obtain ⟨read, member, rfl⟩ := List.mem_map.mp loaded
  exact ⟨read, member, represents.reads read member, value.symm, after, before⟩

/-- What it answers long after the last change is what the document says now. -/
theorem answer_current {event : ConfigEvent} (lags : Lags envs gap s) (stepped : s.next envs event = some t)
    (inTime : s.InTime gap event) {answer : ConfigAnswer} (answers : t.answers = s.answers ++ [answer])
    (settled : s.changedAt + runtimeConfigTtl + 2 * gap < s.now) :
    ∃ env ∈ envs, answer.config = buildEffectiveRuntimeConfigFromDb s.document env := by
  rcases next_answers stepped with same | ⟨index, pending, effective, rfl, running, returning, appended⟩
  · rw [same] at answers
    simp at answers
  · rw [appended] at answers
    obtain rfl : (⟨effective, s.now⟩ : ConfigAnswer) = answer := by simpa using answers
    obtain ⟨a, represents, recent⟩ := lags
    have holds := (represents.calls index pending running).2.2
    unfold Holds at holds
    rw [returning] at holds
    obtain ⟨x, fetchedAt, held, value, since⟩ := holds
    have bound := inTime pending running
    have prompt : a.now ≤ fetchedAt + gap := by
      rw [represents.now]
      omega
    have current := (recent.answered held prompt).2 (by rw [represents.since, represents.now]; exact settled)
    rw [represents.offers, value] at current
    exact current

/-- Every answer is what a read of the document gave some process, at most five minutes and two
calls before; and once the document has stood for longer than that, it is what it says. -/
theorem settings_recent {start final : ConfigService} {history : List (Transition ConfigService ConfigEvent)}
    (initial : (runtimeConfigMachine envs).init start) (run : (runtimeConfigMachine envs).Run start history final)
    (inTime : ∀ t ∈ history, t.source.InTime gap t.label) :
    (∀ answer ∈ final.answers, ∃ read ∈ final.reads, read.env ∈ envs ∧
      answer.config = buildEffectiveRuntimeConfigFromDb read.document read.env ∧
      read.readAt ≤ answer.answeredAt ∧ answer.answeredAt ≤ read.readAt + runtimeConfigTtl + 2 * gap) ∧
    ∀ t ∈ history, ∀ answer, t.target.answers = t.source.answers ++ [answer] →
      t.source.changedAt + runtimeConfigTtl + 2 * gap < t.source.now →
      ∃ env ∈ envs, answer.config = buildEffectiveRuntimeConfigFromDb t.source.document env := by
  have preserved : ∀ s label s', Lags envs gap s → (runtimeConfigMachine envs).step s label s' →
      s.InTime gap label → Lags envs gap s' := fun s label s' lags => lags_preserved lags
  have lags : Lags envs gap start := lags_initial initial
  constructor
  · intro answer answered
    exact answer_read (run.invariant_of_forall preserved lags inTime) answered
  · intro t taken answer answers settled
    obtain ⟨step, source, -⟩ := run.recorded_of_forall preserved lags inTime t taken
    exact answer_current source step (inTime t taken) answers settled

section Runs

/-- A process whose environment lets guests in. -/
def process : Env := ⟨true, true, true⟩

/-- Nothing is configured, and an older release has left a text in Redis. -/
def olderRelease : ConfigService :=
  ⟨0, none, 0, some ("\x7b\x7d", 1000), fun _ => none, 0, [], []⟩

/-- A call stores the settings, the operators close guest sessions, and a call finds what was stored;
two minutes after its text has expired a process without Redis asks. -/
def guestsClosed : List ConfigEvent :=
  [.begins process true, .get 0, .find 0, .set 0, .returns 0,
    .configure (some [("guestSessionsEnabled", .bool false)]),
    .begins process true, .get 1, .returns 1,
    .elapse 420000, .begins process false, .find 2, .returns 2]

theorem olderRelease_init : (runtimeConfigMachine [process]).init olderRelease := by
  refine ⟨?_, rfl, rfl, rfl⟩
  intro text expires cached
  obtain ⟨rfl, rfl⟩ := Prod.mk.inj (Option.some.inj cached)
  decide +kernel

/-- The second answer is out of date, and the third is what the operators asked for. -/
theorem settings_recent_closed : ∃ (final : ConfigService) (before after : EffectiveRuntimeConfig),
    final.answers.map ConfigAnswer.config = [before, before, after] ∧
    before.guestSessionsEnabled = true ∧ after.guestSessionsEnabled = false ∧
    ∀ answer ∈ final.answers, ∃ read ∈ final.reads, read.env ∈ [process] ∧
      answer.config = buildEffectiveRuntimeConfigFromDb read.document read.env ∧
      read.readAt ≤ answer.answeredAt ∧ answer.answeredAt ≤ read.readAt + runtimeConfigTtl + 2 * 0 := by
  have checked : (Machine.trace (ConfigService.next · [process]) olderRelease guestsClosed).any (fun executed =>
      executed.2.answers.map ConfigAnswer.config =
        [⟨true, true, true⟩, ⟨true, true, true⟩, ⟨true, false, true⟩] ∧
      executed.1.all fun t => t.source.InTime 0 t.label) = true := by
    decide +kernel
  obtain ⟨⟨history, final⟩, executed, holds⟩ := (Option.any_eq_true _ _).mp checked
  obtain ⟨answered, inTime⟩ := of_decide_eq_true holds
  have run : (runtimeConfigMachine [process]).Run olderRelease history final :=
    Machine.trace_run _ (fun _ _ _ stepped => stepped) executed
  have recent := settings_recent olderRelease_init run fun t member =>
    of_decide_eq_true (List.all_eq_true.mp inTime t member)
  exact ⟨final, _, _, answered, rfl, rfl, recent.1⟩

end Runs

end MessagingSystem.Guarantees.SettingsInForce
