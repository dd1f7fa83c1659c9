import MessagingSystem.Foundation.DottedPath
import MessagingSystem.Source.Server.Auth
import MessagingSystem.Source.Server.DeviceEffects
import MessagingSystem.Source.Server.DeviceSchemas
import MessagingSystem.Source.Server.SendEffects

/-!
# The grammar of device ids

A registration stores any id of legal length; the other routes take ids of one
character class. And the key map of a message is a plain object, in which the names
of the members that every object inherits are no free slots.
-/
namespace MessagingSystem.Guarantees.DeviceIdGrammar
open Foundation Source.Server

/-- `encryptedMessageKeys.${deviceId}`. -/
def slotPath (deviceId : String) : List String := DottedPath.names ("encryptedMessageKeys" ++ "." ++ deviceId)

/-- The path is that of the slot, in every document with a key map. -/
structure AddressesSlot (deviceId : String) : Prop where
  read : ∀ fields entries, Json.member fields "encryptedMessageKeys" = some (.object entries) →
    DottedPath.read (slotPath deviceId) (.object fields) = Json.member entries deviceId
  write : ∀ fields entries key, Json.member fields "encryptedMessageKeys" = some (.object entries) →
    DottedPath.write key (slotPath deviceId) (.object fields) =
      some (.object (OrderedMap.set "encryptedMessageKeys" (.object (OrderedMap.set deviceId key entries)) fields))

/-- The property of a plain object is the entry of that name, and no other. -/
structure PlainEntry (deviceId : String) : Prop where
  set : ∀ (keys : Record String) (key : String), readProperty (assignProperty keys deviceId key) deviceId = .own key
  unset : ∀ keys : Record String, keys.get deviceId = none → readProperty keys deviceId = .absent
  others : ∀ (keys : Record String) (key other : String), other ≠ deviceId →
    (assignProperty keys deviceId key).get other = keys.get other

/-- Every use of a row's id accepts it and comes to that row, in every store that holds the row. -/
structure OneGrammar (user : UserId) (row : UserPublicKeyDocument) : Prop where
  deletePath : ∃ wire, deviceIdPathSchema (.object [("deviceId", .string row.deviceId)]) = some wire ∧
    ∀ db : Database, db.findDeviceRow user.val row.deviceId = some row →
      ServerProgram.exec (deleteDeviceForUser user.val wire) db =
        (.ok true, db.setDevices (db.userDevicePublicKeys.erase row))
  syncListQuery : ∃ wire, listSyncMessageKeysDeviceId [("deviceId", .string row.deviceId)] = some wire ∧
    ∀ db : Database, db.findDeviceRow user.val row.deviceId = some row →
      ServerProgram.exec (findUserDeviceRow user.val wire) db = (.ok (some row), db)
  batchTarget : ∃ wire, (∀ items keys, items.mapM batchSyncMessageKeyItemSchema = some keys →
      1 ≤ keys.length ∧ keys.length ≤ 200 → batchSyncMessageKeysRequestSchema
        (.object [("targetDeviceId", .string row.deviceId), ("keys", .array items)]) = some (wire, keys)) ∧
    ∀ db : Database, db.findDeviceRow user.val row.deviceId = some row →
      ServerProgram.exec (findUserDeviceRow user.val wire) db = (.ok (some row), db)
  sourceDeviceId : ∃ wire, sourceDeviceIdRequestFieldSchema (some (.string row.deviceId)) = some (some wire) ∧
    ∀ (svc : AuthService) (store : AuthStore),
      store.userDevicePublicKeys.find? (Database.isDevice user.val row.deviceId) = some row →
      Program.run (AuthCommand.exec svc) (resolveSourceDeviceIdForAccessToken user.val (.value wire)) store =
        (.ok (some row.deviceId), store)
  mongoPath : AddressesSlot row.deviceId
  object : PlainEntry row.deviceId

/-- The id has the characters of the grammar only, and is not a name that plain objects inherit. -/
def WireName (deviceId : String) : Prop :=
  isRegisteredDeviceIdString deviceId = true ∧ deviceId ∉ objectPrototypeNames

section Slots

variable {deviceId : String}

theorem noDot_of_grammar (grammar : isRegisteredDeviceIdString deviceId = true) : '.' ∉ deviceId.toList := by
  unfold isRegisteredDeviceIdString at grammar
  simp only [Bool.and_eq_true, List.all_eq_true] at grammar
  intro dotted
  exact absurd (grammar.2 '.' dotted) (by decide)

theorem addressesSlot_of_grammar (grammar : isRegisteredDeviceIdString deviceId = true) : AddressesSlot deviceId := by
  have path : slotPath deviceId = ["encryptedMessageKeys", deviceId] :=
    DottedPath.names_pair (by decide) (noDot_of_grammar grammar)
  constructor
  · intro fields entries map
    rw [path]
    exact DottedPath.read_pair deviceId map
  · intro fields entries key map
    rw [path]
    exact DottedPath.write_pair deviceId key map

theorem plainEntry_iff : PlainEntry deviceId ↔ deviceId ∉ objectPrototypeNames := by
  constructor
  · intro plain inherited
    have absent := plain.unset ∅ (Record.get_empty deviceId)
    unfold readProperty at absent
    rw [Record.get_empty] at absent
    simp [inherited] at absent
  · intro own
    have proto : deviceId ≠ "__proto__" := by
      intro same
      rw [same] at own
      exact own (by decide)
    constructor
    · intro keys key
      rw [readProperty_eq_own, get_assignProperty, if_pos ⟨rfl, proto⟩]
    · intro keys absent
      unfold readProperty
      rw [absent]
      exact if_neg own
    · intro keys key other different
      rw [get_assignProperty, if_neg fun same => different same.1]

end Slots

section Uses

variable {user : UserId} {row : UserPublicKeyDocument} {db : Database}

theorem find_erase {D : Type} [DecidableEq D] {filter : D → Bool} {docs : List D} {d : D}
    (found : docs.find? filter = some d) : docs.eraseP filter = docs.erase d := by
  induction docs with
  | nil => cases found
  | cons first rest ih =>
    by_cases matched : filter first = true
    · rw [List.find?_cons_of_pos matched] at found
      cases found
      rw [List.eraseP_cons_of_pos matched, List.erase_cons_head]
    · rw [List.find?_cons_of_neg matched] at found
      have other : first ≠ d := by
        intro same
        exact matched (same ▸ List.find?_some found)
      rw [List.eraseP_cons_of_neg matched, List.erase_cons_tail (by simpa using other), ih found]

theorem schema_of_grammar (grammar : isRegisteredDeviceIdString row.deviceId = true) :
    registeredDeviceIdStringSchema (some (.string row.deviceId)) = some row.deviceId := by
  have trimmed : EcmaText.trim row.deviceId = row.deviceId := WireDeviceId.trim_val ⟨row.deviceId, grammar⟩
  rw [registeredDeviceIdStringSchema_eq, trimmed, if_pos grammar]

theorem listSyncMessageKeysDeviceId_eq (deviceId : String) :
    listSyncMessageKeysDeviceId [("deviceId", .string deviceId)] =
      registeredDeviceIdStringSchema (some (.string deviceId)) := by
  unfold listSyncMessageKeysDeviceId
  rw [Json.member_cons_self]

theorem deviceIdPathSchema_eq (deviceId : String) :
    deviceIdPathSchema (.object [("deviceId", .string deviceId)]) =
      registeredDeviceIdStringSchema (some (.string deviceId)) := by
  unfold deviceIdPathSchema
  simp only [Json.asObject, Option.bind_eq_bind, Option.bind_some, Json.member_cons_self]

/-- A row is found under its own id. -/
theorem findUserDeviceRow_finds (grammar : isRegisteredDeviceIdString row.deviceId = true)
    (held : db.findDeviceRow user.val row.deviceId = some row) :
    ServerProgram.exec (findUserDeviceRow user.val row.deviceId) db = (.ok (some row), db) := by
  have trimmed : EcmaText.trim row.deviceId = row.deviceId := WireDeviceId.trim_val ⟨row.deviceId, grammar⟩
  unfold findUserDeviceRow ServerProgram.exec
  rw [Program.run_perform, user.trim_val, trimmed]
  simp only [ServerCommand.exec, held]

theorem deleteDeviceForUser_deletes (grammar : isRegisteredDeviceIdString row.deviceId = true)
    (held : db.findDeviceRow user.val row.deviceId = some row) :
    ServerProgram.exec (deleteDeviceForUser user.val row.deviceId) db =
      (.ok true, db.setDevices (db.userDevicePublicKeys.erase row)) := by
  have trimmed : EcmaText.trim row.deviceId = row.deviceId := WireDeviceId.trim_val ⟨row.deviceId, grammar⟩
  have there : db.userDevicePublicKeys.any (Database.isDevice user.val row.deviceId) = true := by
    obtain ⟨member, sameUser, sameDevice⟩ := isDevice_of_find held
    apply List.any_eq_true.mpr
    exact ⟨row, member, by simp [Database.isDevice, sameUser]⟩
  unfold deleteDeviceForUser ServerProgram.exec
  simp only [Program.run_bind, Program.run_perform, Program.run_pure, user.trim_val, trimmed, ServerCommand.exec,
    there, if_true, decide_true, find_erase held]

theorem resolveSourceDeviceIdForAccessToken_finds (grammar : isRegisteredDeviceIdString row.deviceId = true)
    (svc : AuthService) {store : AuthStore}
    (held : store.userDevicePublicKeys.find? (Database.isDevice user.val row.deviceId) = some row) :
    Program.run (AuthCommand.exec svc) (resolveSourceDeviceIdForAccessToken user.val (.value row.deviceId)) store =
      (.ok (some row.deviceId), store) := by
  have trimmed : EcmaText.trim row.deviceId = row.deviceId := WireDeviceId.trim_val ⟨row.deviceId, grammar⟩
  have nonempty : row.deviceId ≠ "" := WireDeviceId.val_ne_empty ⟨row.deviceId, grammar⟩
  unfold resolveSourceDeviceIdForAccessToken
  simp only [trimmed, nonempty, if_false, user.trim_val, Program.run_bind, Program.run_perform, Program.run_require,
    AuthCommand.exec, held, Option.isSome_some, if_true, Program.run_pure]

theorem batchSyncMessageKeysRequestSchema_accepts {items : List Json} {keys : List SyncMessageKeyEntry}
    (grammar : isRegisteredDeviceIdString row.deviceId = true)
    (parsed : items.mapM batchSyncMessageKeyItemSchema = some keys) (bounded : 1 ≤ keys.length ∧ keys.length ≤ 200) :
    batchSyncMessageKeysRequestSchema
      (.object [("targetDeviceId", .string row.deviceId), ("keys", .array items)]) = some (row.deviceId, keys) := by
  have target : Json.member [("targetDeviceId", Json.string row.deviceId), ("keys", .array items)]
      "targetDeviceId" = some (.string row.deviceId) := by simp
  have listed : Json.member [("targetDeviceId", Json.string row.deviceId), ("keys", .array items)] "keys" =
      some (.array items) := by simp
  have strict : strictObject ["targetDeviceId", "keys"]
      (.object [("targetDeviceId", .string row.deviceId), ("keys", .array items)]) =
        some [("targetDeviceId", .string row.deviceId), ("keys", .array items)] := by
    simp [strictObject, Json.asObject]
  unfold batchSyncMessageKeysRequestSchema
  rw [strict]
  simp only [Option.bind_eq_bind, Option.bind_some, target, schema_of_grammar grammar, listed, parsed, if_pos bounded]

/-- An id of the grammar has all the uses, but for the names that plain objects inherit. -/
theorem oneGrammar_of_wireName (wire : WireName row.deviceId) : OneGrammar user row := by
  obtain ⟨grammar, own⟩ := wire
  have accepted := schema_of_grammar grammar
  constructor
  · exact ⟨row.deviceId, (deviceIdPathSchema_eq _).trans accepted, fun _ => deleteDeviceForUser_deletes grammar⟩
  · exact ⟨row.deviceId, (listSyncMessageKeysDeviceId_eq _).trans accepted, fun _ => findUserDeviceRow_finds grammar⟩
  · exact ⟨row.deviceId, fun _ _ => batchSyncMessageKeysRequestSchema_accepts grammar,
      fun _ => findUserDeviceRow_finds grammar⟩
  · refine ⟨row.deviceId, ?_, fun svc _ => resolveSourceDeviceIdForAccessToken_finds grammar svc⟩
    exact congrArg (Option.map some) accepted
  · exact addressesSlot_of_grammar grammar
  · exact plainEntry_iff.mpr own

/-- An id that comes to its row by the list query is of the grammar. -/
theorem grammar_of_syncListQuery (held : db.findDeviceRow user.val row.deviceId = some row)
    (uses : OneGrammar user row) : isRegisteredDeviceIdString row.deviceId = true := by
  obtain ⟨wire, accepted, resolves⟩ := uses.syncListQuery
  rw [listSyncMessageKeysDeviceId_eq, registeredDeviceIdStringSchema_eq] at accepted
  split at accepted
  · rename_i grammar
    obtain rfl := Option.some.inj accepted
    have found := resolves db held
    unfold findUserDeviceRow ServerProgram.exec at found
    rw [Program.run_perform, user.trim_val, EcmaText.trim_trim] at found
    have same := (isDevice_of_find (Except.ok.inj (Prod.ext_iff.mp found).1)).2.2
    rw [same]
    exact grammar
  · cases accepted

end Uses

section Registration

variable {db after : Database} {user : UserId} {deviceId : String}

/-- After an update the row of its device is there if it was before. -/
theorem findDeviceRow_updated (user : UserId) (patch : DevicePatch) {existing : UserPublicKeyDocument}
    (held : db.findDeviceRow user.val deviceId = some existing) :
    (ServerCommand.exec (.updateDevice user.val deviceId patch) db).2.findDeviceRow user.val deviceId =
      some (patch.apply existing) := by
  rw [findDeviceRow_update, held, Option.map_some]

theorem touchDevice_row {existing : UserPublicKeyDocument} {label : Option (Option String)} {now : Nat}
    {outcome : RegisterDeviceOutcome} (held : db.findDeviceRow user.val deviceId = some existing)
    (touched : ServerProgram.exec (touchDevice user.val deviceId existing label now) db = (.ok outcome, after)) :
    after.findDeviceRow user.val deviceId = some outcome.document := by
  unfold touchDevice relabelDevice ServerProgram.exec at touched
  have refreshes : ∀ db : Database, db.findDeviceRow user.val deviceId = some existing →
      Program.run ServerCommand.exec (do
        Program.perform (.updateDevice user.val deviceId { lastSeenAt := now })
        let refreshed ← Program.perform (.findDevice user.val deviceId)
        pure (⟨refreshed.getD existing, false⟩ : RegisterDeviceOutcome) : ServerProgram _) db =
          (.ok outcome, after) → after.findDeviceRow user.val deviceId = some outcome.document := by
    intro db held refreshed
    have updated := findDeviceRow_updated user { lastSeenAt := now } held
    simp only [Program.run_bind, Program.run_perform, Program.run_pure] at refreshed
    obtain ⟨answer, rfl⟩ := Prod.ext_iff.mp refreshed
    cases answer
    simp only [ServerCommand.exec] at updated ⊢
    rw [updated, Option.getD_some]
  cases label with
  | none => exact refreshes db held touched
  | some next =>
    by_cases same : next = existing.deviceLabel
    · simp only [same, if_true] at touched
      exact refreshes db held touched
    · have updated := findDeviceRow_updated user
        { deviceLabel := some next, updatedAt := some now, lastSeenAt := now } held
      simp only [same, if_false, Program.run_bind, Program.run_perform] at touched
      simp only [ServerCommand.exec] at touched updated
      simp only [updated, Program.run_pure] at touched
      obtain ⟨answer, rfl⟩ := Prod.ext_iff.mp touched
      cases answer
      exact updated

/-- A registration that succeeds leaves the row it answers with. -/
theorem registerOrUpdateDevice_row {publicKey uuid : String} {clientDeviceId deviceLabel : Option String} {now : Nat}
    {outcome : RegisterDeviceOutcome}
    (stored : ServerProgram.exec (registerOrUpdateDevice user.val publicKey clientDeviceId deviceLabel uuid now) db =
      (.ok outcome, after)) :
    after.findDeviceRow user.val (registeredDeviceId clientDeviceId uuid) = some outcome.document := by
  unfold registerOrUpdateDevice at stored
  obtain ⟨_, s1, bounded, lookup⟩ := ServerProgram.exec_bind_ok stored
  obtain ⟨-, rfl⟩ := ServerProgram.exec_require_ok bounded
  obtain ⟨existing, s2, found, rest⟩ := ServerProgram.exec_bind_ok lookup
  have found : s1.findDeviceRow user.val (registeredDeviceId clientDeviceId uuid) = existing ∧ s1 = s2 := by
    cases found
    exact ⟨rfl, rfl⟩
  obtain ⟨held, rfl⟩ := found
  clear stored lookup
  cases existing with
  | none =>
    obtain ⟨inserted, s3, command, checked⟩ := ServerProgram.exec_bind_ok rest
    obtain ⟨_, s4, taken, done⟩ := ServerProgram.exec_bind_ok checked
    obtain ⟨rfl, rfl⟩ := ServerProgram.exec_require_ok taken
    cases done
    rcases @findDeviceRow_insert s1 _ _ (newDeviceRow user.val (registeredDeviceId clientDeviceId uuid)
      publicKey deviceLabel now) rfl rfl with ⟨row, there, -⟩ | ⟨-, added, nowThere⟩
    · cases held.symm.trans there
    · have ran : (ServerCommand.exec (.insertDevice (newDeviceRow user.val
          (registeredDeviceId clientDeviceId uuid) publicKey deviceLabel now)) s1).2 = after :=
        (Prod.ext_iff.mp command).2
      rw [added] at ran
      rw [← ran]
      exact nowThere
  | some existing =>
    dsimp only at rest
    split at rest
    · exact touchDevice_row held rest
    · obtain ⟨_, s3, command, found⟩ := ServerProgram.exec_bind_ok rest
      obtain ⟨updated, s4, lookup, checked⟩ := ServerProgram.exec_bind_ok found
      obtain ⟨document, s5, present, done⟩ := ServerProgram.exec_bind_ok checked
      obtain ⟨rfl, rfl⟩ := ServerProgram.exec_orFail_ok present
      cases done
      obtain ⟨answer, same⟩ := Prod.ext_iff.mp lookup
      have same : s3 = after := same
      rw [← same]
      exact Except.ok.inj answer

end Registration

section Contract

/-- A registration that succeeds has stored the row it answers with, and the row's id has all its uses exactly when
it is of the grammar and no name that plain objects inherit. -/
theorem registered_id_uses_iff (user : UserId) {publicKey uuid : String} {clientDeviceId deviceLabel : Option String}
    {now : Nat} {db after : Database} {outcome : RegisterDeviceOutcome}
    (stored : ServerProgram.exec (registerOrUpdateDevice user.val publicKey clientDeviceId deviceLabel uuid now) db =
      (.ok outcome, after)) :
    after.findDeviceRow user.val (registeredDeviceId clientDeviceId uuid) = some outcome.document ∧
      (OneGrammar user outcome.document ↔ WireName (registeredDeviceId clientDeviceId uuid)) := by
  have held := registerOrUpdateDevice_row stored
  have named : outcome.document.deviceId = registeredDeviceId clientDeviceId uuid := (isDevice_of_find held).2.2
  refine ⟨held, ?_⟩
  rw [← named] at held ⊢
  constructor
  · intro uses
    exact ⟨grammar_of_syncListQuery held uses, plainEntry_iff.mp uses.object⟩
  · exact oneGrammar_of_wireName

open UserId (alice)

/-- The first device of a user is registered under the id that is sent. -/
theorem first_registration (deviceId : String) (trimmed : EcmaText.trim deviceId = deviceId)
    (nonempty : deviceId ≠ "") (short : EcmaText.codeUnitLength deviceId ≤ 128) :
    ∃ after, ServerProgram.exec (registerOrUpdateDevice alice.val "spki" (some deviceId) none "uuid" 1) {} =
      (.ok ⟨newDeviceRow alice.val deviceId "spki" none 1, true⟩, after) := by
  have id : registeredDeviceId (some deviceId) "uuid" = deviceId := by
    simp [registeredDeviceId, trimmed, nonempty]
  have inserted := @registerOrUpdateDevice_inserts {} alice.val "spki" (some deviceId) none "uuid" 1
    (id.symm ▸ short) rfl
  rw [id] at inserted
  exact ⟨_, inserted⟩

/-- A plain id has all its uses. -/
theorem registered_id_uses_iff_laptop : OneGrammar alice (newDeviceRow alice.val "laptop-1" "spki" none 1) := by
  obtain ⟨after, stored⟩ := first_registration "laptop-1" (by decide) (by decide) (by decide)
  exact (registered_id_uses_iff alice stored).2.mpr (by unfold WireName; decide)

/-- The body of a registration under an id with a dot. -/
def dottedBody : Json := .object [("publicKey", .string "spki"), ("deviceId", .string "phone.1")]

theorem dottedBody_accepted :
    registerDeviceRequestSchema (fun _ => true) dottedBody = some ⟨"spki", some "phone.1", none, false⟩ := by rfl

/-- An id with a dot is registered and then refused by the other routes. -/
theorem dotted_id_refused :
    ¬ ∀ (isSpkiP256 : String → Bool) (raw : Json) (body : RegisterDeviceRequest) (user : UserId) (uuid : String)
        (now : Nat) (db after : Database) (outcome : RegisterDeviceOutcome),
      registerDeviceRequestSchema isSpkiP256 raw = some body →
      ServerProgram.exec (registerOrUpdateDevice user.val body.publicKey body.deviceId body.deviceLabel uuid now) db =
        (.ok outcome, after) →
      OneGrammar user outcome.document := by
  intro promised
  obtain ⟨after, stored⟩ := first_registration "phone.1" (by decide) (by decide) (by decide)
  have uses := promised _ _ _ alice "uuid" 1 {} after _ dottedBody_accepted stored
  have held := registerOrUpdateDevice_row stored
  exact absurd (grammar_of_syncListQuery held uses) (by decide)

end Contract

end MessagingSystem.Guarantees.DeviceIdGrammar
