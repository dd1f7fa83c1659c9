import MessagingSystem.Protocol.BootStages

/-!
# Two bootstraps of a profile without keys

While no key is stored the runs are at their stages, and the one whose device id
is stored has still to store its key, or the stored device works. Once a run
finds the stored key, nothing is written any more.
-/
namespace MessagingSystem.Protocol
open Foundation Source Source.Server Source.Client Program

variable {PublicKey PrivateKey Seed : Type} (crypto : WebCrypto PublicKey PrivateKey Seed)
  (user : UserId) (passphrase : AcceptedPassphrase)

/-- A call and what is left of it. -/
abbrev BootEntry (PrivateKey : Type) := EnsureDraws PrivateKey × BootProgram Unit

/-- The keyring is empty, and the stored device id, if any, is not listed. -/
def Unkeyed (s : BootState) : Prop :=
  listKeyringVersions s.storage user.val = [] ∧
    ∀ d, getStoredDeviceId s.storage user.val = some d →
      EcmaText.codeUnitLength d ≤ 128 ∧ ¬ Listed s.db user.val d

/-- Where two generating runs stand together. -/
structure Generating (s : BootState) (x y : BootEntry PrivateKey) : Prop where
  wellFormed : s.db.WellFormed
  first : Stage crypto user passphrase x.1 s x.2
  second : Stage crypto user passphrase y.1 s y.2
  versions : ∀ v ∈ listKeyringVersions s.storage user.val, v = 1
  ended : listKeyringVersions s.storage user.val ≠ [] →
    (∃ result, x.2 = .done result) ∨ ∃ result, y.2 = .done result
  standing : (identified user s x = true ∨ identified user s y = true) ∨
    Unkeyed user s ∨ Working crypto user passphrase s

/-- Nothing of what is left of the run changes the state. -/
def Quiet (s : BootState) (p : BootProgram Unit) : Prop :=
  Ensures (BootCommand.exec crypto) (fun s s' => s' = s) (fun c s => (c.exec crypto s).2 = s) p
    (fun _ _ => True) s

/-- The device works, and no run changes anything. -/
structure Settled (s : BootState) (x y : BootEntry PrivateKey) : Prop where
  wellFormed : s.db.WellFormed
  working : Working crypto user passphrase s
  first : Quiet crypto s x.2
  second : Quiet crypto s y.2

/-- The state of two runs that began with an empty keyring. -/
def Paired (s : BootState) (x y : BootEntry PrivateKey) : Prop :=
  Generating crypto user passphrase s x y ∨ Settled crypto user passphrase s x y

variable {crypto user passphrase} {s s' : BootState} {x y : BootEntry PrivateKey}

theorem Paired.symm (paired : Paired crypto user passphrase s x y) :
    Paired crypto user passphrase s y x := by
  rcases paired with g | q
  · exact .inl ⟨g.wellFormed, g.second, g.first, g.versions, fun keyed => (g.ended keyed).symm,
      g.standing.imp Or.symm fun rest => rest⟩
  · exact .inr ⟨q.wellFormed, q.working, q.second, q.first⟩

theorem Quiet.done (result : Except CryptoError Unit) : Quiet crypto s (.done result) := by
  cases result with
  | ok a => exact ensures_result.mpr trivial
  | error e => exact Ensures.fail e

theorem Quiet.advance {β : Type} {c : BootCommand β} {next : β → BootProgram Unit}
    (quiet : Quiet crypto s (.command c next)) :
    (c.exec crypto s).2 = s ∧ Quiet crypto s (next (c.exec crypto s).1) := by
  obtain ⟨same, rest⟩ := ensures_command.mp quiet s rfl
  rw [same] at rest
  exact ⟨same, rest⟩

/-- With a working device the bootstrap only reads. -/
theorem Working.quiet {draws : EnsureDraws PrivateKey} (wf : s.db.WellFormed)
    (working : Working crypto user passphrase s) (persistedDeviceId : Option String) :
    Quiet crypto s (ensureListed crypto user passphrase draws persistedDeviceId
      (listKeyringVersions s.storage user.val)) := by
  obtain ⟨d, key, v, own, device, -, row, newest, -, active, -⟩ := working
  have stored : getKeyringPublicSpkiOptional s.storage user.val v = some key.publicKey := by
    rw [activeSpki, newest, Option.bind_some] at active
    exact active
  have found := listed_find wf user d
  unfold Quiet
  rw [ensureListed_command]
  refine ensures_command.mpr fun a same => ⟨rfl, ?_⟩
  obtain rfl : a = s := same
  simp only [newest, alignKeyring, BootProgram.profile, perform_bind]
  refine ensures_command.mpr fun b same => ⟨rfl, ?_⟩
  obtain rfl : b = a := same
  refine Ensures.bind (Q := fun _ t => t = b) (Ensures.require fun _ => rfl) fun _ t same => ?_
  obtain rfl : t = b := same
  refine ensures_command.mpr fun u same => ⟨rfl, ?_⟩
  obtain rfl : u = t := same
  have reads : (BootCommand.exec crypto (.profile (.getStoredDeviceId user.val)) u).1 =
      getStoredDeviceId u.storage user.val := rfl
  have lists : (BootCommand.exec crypto (.service (.listDevices user.val)) u).1 =
      (ServerCommand.exec (.listDevices user.val) u.db).1 := rfl
  rw [reads, device, Option.bind_some, lists, found, row]
  exact Ensures.require fun _ => trivial

theorem identified_iff {entry : BootEntry PrivateKey} :
    identified user s entry = true ↔ aboutToStore entry.2 = true ∧
      getStoredDeviceId s.storage user.val = some entry.1.clientDeviceId.val := by
  simp [identified]

theorem identified_same (same : getStoredDeviceId s'.storage user.val = getStoredDeviceId s.storage user.val)
    (entry : BootEntry PrivateKey) : identified user s' entry = identified user s entry := by
  unfold identified
  rw [same]

/-- A run that has ended is about to store nothing. -/
theorem not_identified_done {entry : BootEntry PrivateKey} {result : Except CryptoError Unit}
    (done : entry.2 = .done result) : identified user s entry ≠ true := by
  intro holds
  have about := (identified_iff.mp holds).1
  rw [done] at about
  cases about

theorem Unkeyed.silent {draws : EnsureDraws PrivateKey} (unkeyed : Unkeyed user s)
    (moves : MovesOnly user draws.clientDeviceId.val s s') (storage : s'.storage = s.storage)
    (unidentified : getStoredDeviceId s.storage user.val ≠ some draws.clientDeviceId.val) :
    Unkeyed user s' := by
  obtain ⟨empty, unlisted⟩ := unkeyed
  unfold Unkeyed
  rw [storage]
  refine ⟨empty, fun d stored => ⟨(unlisted d stored).1, fun listed => ?_⟩⟩
  rcases moves.listed d listed with own | before
  · exact unidentified (by rw [stored, own])
  · exact (unlisted d stored).2 before

theorem Working.silent {draws : EnsureDraws PrivateKey} (working : Working crypto user passphrase s)
    (moves : MovesOnly user draws.clientDeviceId.val s s') (storage : s'.storage = s.storage)
    (unidentified : getStoredDeviceId s.storage user.val ≠ some draws.clientDeviceId.val) :
    Working crypto user passphrase s' := by
  obtain ⟨d, key, v, own, device, short, row, rest⟩ := working
  have other : d ≠ draws.clientDeviceId.val := fun same => unidentified (by rw [device, same])
  unfold Working
  rw [storage]
  refine ⟨d, key, v, own, device, short, ?_, rest⟩
  rw [Database.storedKey] at row ⊢
  rw [moves.rows d other, row]

/-- The key of the run whose device id is stored makes the device work. -/
theorem working_of_stored {draws : EnsureDraws PrivateKey} {row : KeyringPrivateKeyRow}
    (spkis : crypto.NonemptySpki) (versions : ∀ v ∈ listKeyringVersions s.storage user.val, v = 1)
    (identity : getStoredDeviceId s.storage user.val = some draws.clientDeviceId.val)
    (own : OwnRow crypto user draws s) (storage : s'.storage = s.storage.withRow user.val 1 row)
    (db : s'.db = s.db) (spki : row.publicKeySpkiB64 = some (drawnSpki crypto draws))
    (held : heldKey crypto s'.storage user.val passphrase.val 1 = some draws.pair) :
    Working crypto user passphrase s' := by
  have atMost : ∀ v ∈ listKeyringVersions s.storage user.val, v ≤ 1 := fun v listed =>
    Nat.le_of_eq (versions v listed)
  refine ⟨draws.clientDeviceId.val, drawnRow crypto draws, 1, draws.pair, ?_,
    draws.clientDeviceId.short, ?_, ?_, held, ?_, rfl⟩
  · rw [storage]
    exact identity
  · rw [db]
    exact own
  · rw [storage]
    refine List.max?_eq_some_iff.mpr ⟨(mem_versions_withRow row).mpr (.inl rfl), fun w listed => ?_⟩
    rcases (mem_versions_withRow row).mp listed with same | old
    · omega
    · exact atMost w old
  · rw [storage]
    exact activeSpki_withRow atMost spki (exportedSpki_nonempty spkis draws.pair)

/-- A step of the first of two generating runs. -/
theorem Generating.advance (ideal : crypto.Ideal) (spkis : crypto.NonemptySpki)
    (g : Generating crypto user passphrase s x y)
    (different : x.1.clientDeviceId.val ≠ y.1.clientDeviceId.val) {β : Type} {c : BootCommand β}
    {next : β → BootProgram Unit} (running : x.2 = .command c next)
    (keeps : aboutToStore x.2 = true → identified user s x = true ∨ identified user s y = true) :
    Paired crypto user passphrase (c.exec crypto s).2 (x.1, next (c.exec crypto s).1) y := by
  obtain ⟨draws, p⟩ := x
  have active : ¬ ∃ result, p = .done result := by
    rintro ⟨result, done⟩
    cases running.symm.trans done
  have otherEnded : listKeyringVersions s.storage user.val ≠ [] → ∃ result, y.2 = .done result :=
    fun keyed => (g.ended keyed).resolve_left active
  cases g.first.advance ideal running with
  | keysFound persistedDeviceId keyed same rest plain =>
    obtain ⟨result, done⟩ := otherEnded keyed
    have working : Working crypto user passphrase s := by
      rcases g.standing with (first | second) | unkeyed | working
      · cases plain.symm.trans (identified_iff.mp first).1
      · exact absurd second (not_identified_done done)
      · exact absurd unkeyed.1 keyed
      · exact working
    rw [same, rest]
    refine .inr ⟨g.wellFormed, working, working.quiet g.wellFormed persistedDeviceId, ?_⟩
    rw [done]
    exact .done result
  | silent stage moves storage wf unidentified plain =>
    have versions : listKeyringVersions (c.exec crypto s).2.storage user.val =
        listKeyringVersions s.storage user.val := by rw [storage]
    refine .inl ⟨wf g.wellFormed, stage, g.second.moves moves different.symm, ?_, fun keyed => ?_, ?_⟩
    · rw [versions]
      exact g.versions
    · rw [versions] at keyed
      exact .inr (otherEnded keyed)
    · rcases g.standing with (first | second) | unkeyed | working
      · cases plain.symm.trans (identified_iff.mp first).1
      · exact .inl (.inr ((identified_same (by rw [storage]) y).trans second))
      · exact .inr (.inl (unkeyed.silent moves storage unidentified))
      · exact .inr (.inr (working.silent moves storage unidentified))
  | identifies rest own identity keyring db plain =>
    have versions : listKeyringVersions (c.exec crypto s).2.storage user.val =
        listKeyringVersions s.storage user.val := listKeyringVersions_congr keyring
    have moves : MovesOnly user draws.clientDeviceId.val s (c.exec crypto s).2 :=
      ⟨fun d _ => by rw [db], fun d listed => .inr (by rwa [db] at listed), .inr identity⟩
    have kept : OwnRow crypto user draws (c.exec crypto s).2 := by
      unfold OwnRow at own ⊢
      rw [db, own]
    refine .inl ⟨by rw [db]; exact g.wellFormed, ?_, g.second.moves moves different.symm, ?_,
      fun keyed => ?_, .inl (.inl (identified_iff.mpr ⟨?_, identity⟩))⟩
    · rw [rest]
      exact .storing kept
    · rw [versions]
      exact g.versions
    · rw [versions] at keyed
      exact .inr (otherEnded keyed)
    · rw [rest]
      rfl
  | stores row about own storage db spki held done =>
    have moves : MovesOnly user draws.clientDeviceId.val s (c.exec crypto s).2 := by
      refine ⟨fun d _ => by rw [db], fun d listed => .inr (by rwa [db] at listed), .inl ?_⟩
      rw [storage]
      rfl
    refine .inl ⟨by rw [db]; exact g.wellFormed, ?_, g.second.moves moves different.symm,
      fun v listed => ?_, fun _ => .inl ⟨_, done⟩, ?_⟩
    · rw [done]
      exact .ended _
    · rw [storage] at listed
      rcases (mem_versions_withRow row).mp listed with one | old
      · exact one
      · exact g.versions v old
    · rcases keeps about with first | second
      · exact .inr (.inr (working_of_stored spkis g.versions (identified_iff.mp first).2 own storage db
          spki held))
      · refine .inl (.inr ((identified_same ?_ y).trans second))
        rw [storage]
        rfl

/-- A step of the first of two runs. -/
theorem Paired.advance (ideal : crypto.Ideal) (spkis : crypto.NonemptySpki)
    (paired : Paired crypto user passphrase s x y)
    (different : x.1.clientDeviceId.val ≠ y.1.clientDeviceId.val) {β : Type} {c : BootCommand β}
    {next : β → BootProgram Unit} (running : x.2 = .command c next)
    (keeps : aboutToStore x.2 = true → identified user s x = true ∨ identified user s y = true) :
    Paired crypto user passphrase (c.exec crypto s).2 (x.1, next (c.exec crypto s).1) y := by
  rcases paired with g | q
  · exact g.advance ideal spkis different running keeps
  · have first := q.first
    rw [running] at first
    obtain ⟨same, rest⟩ := first.advance
    rw [same]
    exact .inr ⟨q.wellFormed, q.working, rest, q.second⟩

/-- The first of two runs is cut off, or a command of it fails. -/
theorem Paired.abort (paired : Paired crypto user passphrase s x y) (e : CryptoError)
    (unidentified : identified user s x ≠ true) :
    Paired crypto user passphrase s (x.1, .done (.error e)) y := by
  rcases paired with g | q
  · refine .inl ⟨g.wellFormed, .ended _, g.second, g.versions, fun _ => .inl ⟨_, rfl⟩, ?_⟩
    rcases g.standing with (first | second) | rest
    · exact absurd first unidentified
    · exact .inl (.inr second)
    · exact .inr rest
  · exact .inr ⟨q.wellFormed, q.working, .done _, q.second⟩

end MessagingSystem.Protocol
