import IdmMw.Model.Requests

/-!
# Encryption of stored values, messages and idempotency keys

`EncryptionService` and `JsonHelper`, and the application they belong to. The primitives of the
`crypto` module are the parameter `Cipher`; nothing is assumed about them here. A keyring is what
the parser of the settings makes of them: key ids are distinct and there is at least one, or parsing
throws, and then every use of the keyring throws.
-/

namespace IdmMw

/-- The primitives, over base64 or hex texts: `createHmac('sha256', key)`, and AES-256-GCM. -/
structure Cipher where
  hmac : (key sourceKey : String) → String
  encrypt : (key iv : String) → JsonText → String × String
  decrypt : (key iv tag ct : String) → Except JsError JsonText

/-- Decryption inverts encryption. -/
def Cipher.Correct (cipher : Cipher) : Prop :=
  ∀ key iv text, cipher.decrypt key iv (cipher.encrypt key iv text).1 (cipher.encrypt key iv text).2 =
    .ok text

/-- A ciphertext is as long as its text in bytes, and no shorter in base64. -/
def Cipher.KeepsLength (cipher : Cipher) : Prop :=
  ∀ key iv tag ct v, cipher.decrypt key iv tag ct = .ok (.text v) → v.minLength ≤ ct.length

/-- A parsed keyring: ids with their key material, in the order of the settings. -/
structure Keyring where
  entries : List (String × String)
  nodup : (entries.map Prod.fst).Nodup
  ne_nil : entries ≠ []

/-- Two keys, `k1` and `k2`. -/
def Keyring.ofTwo : Keyring := ⟨[("k1", "secret-1"), ("k2", "secret-2")], by decide, by decide⟩

/-- `EncryptionService`, by the settings it reads. -/
structure EncryptionService where
  cipher : Cipher
  /-- `ENCRYPTION_ENABLED` -/
  enabled : Option Bool
  /-- `ENCRYPTION_KAFKA_ENABLED` -/
  kafkaEnabled : Option Bool
  /-- `ENCRYPTION_IDEMPOTENCY_HMAC_ENABLED` -/
  idempotencyHmacEnabled : Option Bool
  /-- `ENCRYPTION_ACTIVE_KEY_ID` -/
  encryptionActiveKeyId : Option String
  /-- `ENCRYPTION_KEY_ID` -/
  encryptionKeyId : Option String
  /-- what `keyring()` returns, or the message of the error it throws -/
  keyring : Except String Keyring

namespace EncryptionService

variable (service : EncryptionService)

def isEnabled : Bool := service.enabled.getD false

def isKafkaEncryptionEnabled : Bool := service.kafkaEnabled.getD service.isEnabled

def isIdempotencyHmacEnabled : Bool := service.idempotencyHmacEnabled.getD service.isEnabled

def activeKeyId : Except JsError String :=
  match service.encryptionActiveKeyId.filter (· ≠ ""), service.encryptionKeyId.filter (· ≠ "") with
  | some activeKeyId, _ => .ok activeKeyId
  | none, some fallback => .ok fallback
  | none, none => .error (.error "ENCRYPTION_ACTIVE_KEY_ID is required when encryption is enabled")

def requireKey (keyId : String) : Except JsError String :=
  match service.keyring with
  | .error message => .error (.error message)
  | .ok keyring =>
    match keyring.entries.lookup keyId with
    | none => .error (.error s!"Encryption key '{keyId}' is not present in keyring")
    | some key => .ok key

/-- What `validateConfiguration` checks: the active key is in the keyring. -/
def Valid : Prop := ∃ keyId key, service.activeKeyId = .ok keyId ∧ service.requireKey keyId = .ok key

def envelopeMarker : String := "idmmw.v1"
def envelopeAlg : String := "AES-256-GCM"

/-- The envelope as it is stored and sent. -/
def envelope (kid iv tag ct : String) : Json :=
  .obj [("__enc", .str envelopeMarker), ("alg", .str envelopeAlg), ("kid", .str kid),
    ("iv", .str iv), ("tag", .str tag), ("ct", .str ct)]

def encryptObject (value : Json) : Prog Json := do
  let keyId ← Async.ofExcept service.activeKeyId
  let key ← Async.ofExcept (service.requireKey keyId)
  let iv ← randomBytes
  let (tag, ct) := service.cipher.encrypt key iv value.stringify
  pure (envelope keyId iv tag ct)

/-- The fields `kid`, `iv`, `tag` and `ct` of an envelope; `none` where `isEnvelope` is false. -/
def envelope? (value : Json) : Option (String × String × String × String) :=
  if value.getStr? "__enc" = some envelopeMarker ∧ value.getStr? "alg" = some envelopeAlg then do
    let kid ← value.getStr? "kid"
    let iv ← value.getStr? "iv"
    let tag ← value.getStr? "tag"
    let ct ← value.getStr? "ct"
    pure (kid, iv, tag, ct)
  else none

/-- An envelope has the shape of one. -/
@[simp] theorem envelope?_envelope (kid iv tag ct : String) :
    envelope? (envelope kid iv tag ct) = some (kid, iv, tag, ct) := rfl

/-- `decryptObject` of an envelope with these fields. -/
def decryptObject (kid iv tag ct : String) : Except JsError Json :=
  match service.requireKey kid with
  | .error e => .error e
  | .ok key =>
    match service.cipher.decrypt key iv tag ct with
    | .error e => .error e
    | .ok plaintext => plaintext.parse

def encryptForStorage (value : Json) : Prog Json :=
  if service.isEnabled then service.encryptObject value else pure value

/-- A missing value is read as `null`. -/
def decryptFromStorage (value : Json) : Except JsError Json :=
  match envelope? value with
  | some (kid, iv, tag, ct) => service.decryptObject kid iv tag ct
  | none => .ok value

def encodeKafkaMessage (message : Json) : Prog JsonText :=
  if service.isKafkaEncryptionEnabled then do
    let encrypted ← service.encryptObject message
    pure encrypted.stringify
  else pure message.stringify

def decodeKafkaMessage (raw : JsonText) : Except JsError Json :=
  match raw.parse with
  | .error e => .error e
  | .ok parsed =>
    match envelope? parsed with
    | some (kid, iv, tag, ct) => service.decryptObject kid iv tag ct
    | none => .ok parsed

/-- The store keys of a source key, the one under the active encryption key first. -/
def idempotencyKeys (sourceKey : String) : Except JsError (List String) :=
  if service.isIdempotencyHmacEnabled then
    match service.keyring, service.activeKeyId with
    | .error message, _ => .error (.error message)
    | .ok _, .error e => .error e
    | .ok keyring, .ok activeKeyId =>
      let ordered := keyring.entries.filter (fun item => item.1 = activeKeyId) ++
        keyring.entries.filter (fun item => item.1 ≠ activeKeyId)
      .ok (ordered.map fun (id, key) => s!"idmmw:hmac:{id}:{service.cipher.hmac key sourceKey}")
  else .ok [sourceKey]

/-- The store key of a source key under one encryption key. -/
def hmacKey (sourceKey id key : String) : String :=
  s!"idmmw:hmac:{id}:{service.cipher.hmac key sourceKey}"

section Hmac

variable {service} {sourceKey active activeKey id key : String}

theorem requireKey_eq_ok (h : service.requireKey id = .ok key) :
    ∃ keyring, service.keyring = .ok keyring ∧ keyring.entries.lookup id = some key := by
  unfold requireKey at h
  cases hkeyring : service.keyring with
  | error message => simp [hkeyring] at h
  | ok keyring =>
    rw [hkeyring] at h
    cases hlookup : keyring.entries.lookup id with
    | none => simp [hlookup] at h
    | some key' =>
      refine ⟨keyring, rfl, ?_⟩
      rw [hlookup]
      simpa [hlookup] using h

/-- The keys of an id come with the one that is looked up first. -/
theorem filter_eq_cons {entries : List (String × String)} (h : entries.lookup id = some key) :
    ∃ rest, entries.filter (fun item => item.1 = id) = (id, key) :: rest := by
  obtain ⟨before, after, rfl, hbefore⟩ := List.lookup_eq_some_iff.1 h
  have hnone : before.filter (fun item => item.1 = id) = [] := by
    refine List.filter_eq_nil_iff.2 fun item hitem => ?_
    have hne : id ≠ item.1 := by simpa using hbefore item hitem
    simpa using hne.symm
  refine ⟨after.filter (fun item => item.1 = id), ?_⟩
  rw [List.filter_append, hnone, List.nil_append, List.filter_cons_of_pos (by simp)]

variable (sourceKey) in
/-- With HMAC the first store key is the one under the active encryption key, and there is one for
every key of the keyring. -/
theorem idempotencyKeys_hmac (henabled : service.isIdempotencyHmacEnabled = true)
    (hactive : service.activeKeyId = .ok active)
    (hactiveKey : service.requireKey active = .ok activeKey) :
    ∃ keys, service.idempotencyKeys sourceKey =
        .ok (service.hmacKey sourceKey active activeKey :: keys) ∧
      ∀ id key, service.requireKey id = .ok key →
        service.hmacKey sourceKey id key ∈ service.hmacKey sourceKey active activeKey :: keys := by
  obtain ⟨keyring, hkeyring, hlookup⟩ := requireKey_eq_ok hactiveKey
  obtain ⟨rest, hfilter⟩ := filter_eq_cons hlookup
  have hkeys : service.idempotencyKeys sourceKey =
      .ok ((keyring.entries.filter (fun item => item.1 = active) ++
        keyring.entries.filter (fun item => item.1 ≠ active)).map
          fun item => service.hmacKey sourceKey item.1 item.2) := by
    unfold idempotencyKeys
    rw [if_pos henabled, hkeyring, hactive]
    refine congrArg Except.ok (List.map_congr_left ?_)
    rintro ⟨id, key⟩ -
    rfl
  rw [hfilter, List.cons_append, List.map_cons] at hkeys
  refine ⟨_, hkeys, fun id key h => ?_⟩
  obtain ⟨keyring', hkeyring', hlookup'⟩ := requireKey_eq_ok h
  obtain rfl : keyring = keyring' := Except.ok.inj (hkeyring.symm.trans hkeyring')
  have hmem : (id, key) ∈ keyring.entries := by
    obtain ⟨before, after, heq, -⟩ := List.lookup_eq_some_iff.1 hlookup'
    rw [heq]
    simp
  have hordered : (id, key) ∈ (active, activeKey) :: (rest ++
      keyring.entries.filter (fun item => item.1 ≠ active)) := by
    rw [← List.cons_append, ← hfilter, List.mem_append, List.mem_filter, List.mem_filter]
    by_cases hid : id = active
    · exact Or.inl ⟨hmem, by simpa using hid⟩
    · exact Or.inr ⟨hmem, by simpa using hid⟩
  have hmap := List.mem_map_of_mem (f := fun item => service.hmacKey sourceKey item.1 item.2) hordered
  rwa [List.map_cons] at hmap

end Hmac

/-- There is always a first store key. -/
theorem idempotencyKeys_ne_nil {sourceKey : String} {keys : List String}
    (h : service.idempotencyKeys sourceKey = .ok keys) : keys ≠ [] := by
  unfold idempotencyKeys at h
  split at h
  · split at h
    · cases h
    · cases h
    · next keyring activeKeyId _ _ =>
      obtain rfl := Except.ok.inj h
      obtain ⟨item, hitem⟩ := List.exists_mem_of_ne_nil _ keyring.ne_nil
      have hmem : item ∈ keyring.entries.filter (fun item => item.1 = activeKeyId) ++
          keyring.entries.filter (fun item => item.1 ≠ activeKeyId) := by
        by_cases h : item.1 = activeKeyId <;> simp [hitem, h]
      exact List.ne_nil_of_mem (List.mem_map_of_mem hmem)
  · obtain rfl := Except.ok.inj h
    simp

end EncryptionService

/-! ### The application -/

/-- The application after start-up: its services are singletons, so their functions take the whole
application. Start-up has checked the keyring if encryption is enabled. `producer` says whether
`KafkaProducerService` holds a producer; its `onModuleInit` has run, so that is the case exactly
when Kafka is enabled. -/
structure App where
  config : Config
  encryption : EncryptionService
  encryption_valid : encryption.isEnabled = true → encryption.Valid
  pid : String
  producer : Bool
  producer_eq : producer = config.isKafkaEnabled

/-- The application with every setting left out: no Redis, no Kafka, no encryption. -/
def App.bare : App where
  config :=
    { redisEnabled := none
      kafkaEnabled := none
      idmmwProcessingMode := none
      kafkaTopicEventsIn := none
      kafkaTopicEventsOut := none
      kafkaTopicDlqRetry := none
      dlqRetryLeaseSeconds := none
      databaseProvider := none }
  encryption :=
    { cipher := ⟨fun key text => key ++ text, fun _ _ _ => ("", ""), fun _ _ _ _ => .error (.error "")⟩
      enabled := none
      kafkaEnabled := none
      idempotencyHmacEnabled := none
      encryptionActiveKeyId := none
      encryptionKeyId := none
      keyring := .error "no keyring" }
  encryption_valid h := by cases h
  pid := "1"
  producer := false
  producer_eq := rfl

/-- `App.bare` with Kafka in asynchronous mode. -/
def App.queueing : App :=
  { App.bare with
    config := { App.bare.config with kafkaEnabled := some true, idmmwProcessingMode := some "async" }
    producer := true
    producer_eq := rfl }

/-- `App.bare` with Redis. -/
def App.caching : App :=
  { App.bare with config := { App.bare.config with redisEnabled := some true } }

/-- A write event. -/
def someEvent : ProcessingPayload where
  eventId := "event-1"
  operation := "user.create"
  targetSystem := "target"
  payload := .obj []

/-! ### Columns -/

namespace JsonHelper

variable (app : App)

def toJson (value : Json) : Prog Column := do
  let stored ← app.encryption.encryptForStorage value
  pure (if app.config.isSqlite then .text stored.stringify else .native stored)

/-- A column is a text exactly where the provider is SQLite. -/
def fromJson : Column → Except JsError Json
  | .native value => app.encryption.decryptFromStorage value
  | .text t =>
    match t.parse with
    | .error e => .error e
    | .ok parsed => app.encryption.decryptFromStorage parsed

end JsonHelper

/-- `value ?? {}`. -/
def Json.orEmpty : Json → Json
  | null => obj []
  | v => v

end IdmMw
