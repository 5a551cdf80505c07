import IdmMw.Library.Stopping
import IdmMw.Model.Encryption

/-!
# Key rotation and the encryption state

`EncryptionRotationService`, which the rotation command runs, and the check of the encryption state
by which `PrismaService` starts. Both talk to the database through requests of their own
(`StorageReq`), next to those of the services they use.

* `EncryptionRotationService.rotateToActiveKey`: encrypt the rows of three tables again, one after
  the other, between two updates of the encryption state;
* `PrismaService.validateEncryptionState`: which settings may start on which encryption state.

The dates of the encryption state are left out, and so is logging. `Promise.all` asks one question
after the other.
-/

namespace IdmMw

open Async

/-! ### Requests -/

/-- The row `default` of the table `EncryptionState`. The previous keys are a JSON text, `none` where
it is empty. -/
structure EncryptionStateRow where
  enabled : Bool
  activeKeyId : String
  previousKeyIds : Option JsonText
  rotationStatus : String

/-- The tables that have to be empty before encryption is enabled. -/
inductive Table
  | auditLog
  | dlqItem
  | targetSystem

/-- The columns of a row of the audit log that are rotated. -/
structure AuditLogRow where
  id : String
  payload : Column
  response : Option Column

/-- A request of the rotation or of the start-up check. -/
inductive StorageReq
  | service (r : Req)
  -- `EncryptionState`
  | stateFind
  | stateInsert (activeKeyId : String)
  | stateMark (rotationStatus : String) (previousKeyIds : JsonText)
  | stateComplete (activeKeyId : String) (previousKeyIds : JsonText)
  -- counts
  | countRows (table : Table)
  | countActiveIdempotencyKeys (now : Time)
  | countActiveDlqItems
  -- the Kafka admin client; a partition is given with its offset
  | adminConnect
  | fetchTopicOffsets (topic : String)
  | fetchOffsets (groupId topic : String)
  | adminDisconnect
  -- rows
  | auditLogFindMany
  | auditLogUpdate (id : String) (payload : Column) (response : Option Column)
  | dlqItemFindMany
  | dlqItemUpdate (id : String) (payload : Column)
  | targetSystemFindMany
  | targetSystemUpdate (id : String) (config : Column)

/-- The answers to a request. -/
abbrev StorageAns : StorageReq → Type
  | .service r => Ans r
  | .stateFind => Except JsError (Option EncryptionStateRow)
  | .stateInsert _ => Except JsError Unit
  | .stateMark _ _ => Except JsError Unit
  | .stateComplete _ _ => Except JsError Unit
  | .countRows _ => Except JsError ℕ
  | .countActiveIdempotencyKeys _ => Except JsError ℕ
  | .countActiveDlqItems => Except JsError ℕ
  | .adminConnect => Except JsError Unit
  | .fetchTopicOffsets _ => Except JsError (List (ℕ × ℤ))
  | .fetchOffsets _ _ => Except JsError (List (String × List (ℕ × ℤ)))
  | .adminDisconnect => Except JsError Unit
  | .auditLogFindMany => Except JsError (List AuditLogRow)
  | .auditLogUpdate _ _ _ => Except JsError Unit
  | .dlqItemFindMany => Except JsError (List (String × Column))
  | .dlqItemUpdate _ _ => Except JsError Unit
  | .targetSystemFindMany => Except JsError (List (String × Column))
  | .targetSystemUpdate _ _ => Except JsError Unit

abbrev StorageProg (α : Type) := Async JsError StorageAns α

abbrev StorageTrace := List (Async.Event StorageAns)

/-- A function of another service. -/
def ofService {α : Type} (p : Prog α) : StorageProg α := p.embed .service fun _ a => a

/-- `try { body } finally { cleanup }`. -/
def tryFinally {α : Type} (body : StorageProg α) (cleanup : StorageProg Unit) : StorageProg α := do
  let x ← tryCatch (do let a ← body; pure (.ok a)) fun error => pure (.error error)
  cleanup
  Async.ofExcept x

/-! ### The rotation -/

/-- The settings of the rotation that no other service reads. -/
structure RotationConfig where
  kafkaConsumerGroupId : Option String
  encryptionRotationSkipKafkaLagCheck : Option String

namespace EncryptionService

variable (service : EncryptionService)

def validateConfiguration : Except JsError Unit :=
  if service.isEnabled then
    match service.keyring, service.activeKeyId with
    | .error message, _ => .error (.error message)
    | .ok _, .error e => .error e
    | .ok keyring, .ok activeKeyId =>
      if activeKeyId ∈ keyring.entries.map Prod.fst then .ok ()
      else .error (.error
        s!"Active encryption key '{activeKeyId}' is not present in ENCRYPTION_KEYS/keyring")
  else .ok ()

end EncryptionService

namespace EncryptionRotationService

variable (app : App) (rotation : RotationConfig)

/-- What a topic adds to the lag: the messages beyond the committed offset of each partition. -/
def topicLag (topic : String) (topicOffsets : List (ℕ × ℤ))
    (groupOffsets : List (String × List (ℕ × ℤ))) : ℤ :=
  let groupPartitions := (groupOffsets.lookup topic).getD []
  (topicOffsets.map fun (partition, offset) =>
    max 0 (offset - max ((groupPartitions.lookup partition).getD (-1)) 0)).sum

/-- The loop over the topics. -/
def lagFrom (groupId : String) : List String → ℤ → StorageProg ℤ
  | [], lag => pure lag
  | topic :: topics, lag => do
    let topicOffsets ← .await (.fetchTopicOffsets topic) .settle
    let groupOffsets ← .await (.fetchOffsets groupId topic) .settle
    lagFrom groupId topics (lag + topicLag topic topicOffsets groupOffsets)

def kafkaLag : StorageProg ℤ :=
  if !app.config.isKafkaEnabled || rotation.encryptionRotationSkipKafkaLagCheck == some "true" then
    pure 0
  else do
    let groupId := rotation.kafkaConsumerGroupId.getD "idmmw-worker-group"
    let topics := [app.config.eventsInTopic, app.config.retryTopic].eraseDups
    .await .adminConnect .settle
    tryFinally (lagFrom groupId topics 0) (.await .adminDisconnect .settle)

def assertNoActiveProcessing : StorageProg Unit := do
  let dlqActive ← .await .countActiveDlqItems .settle
  let now ← ofService now
  let idempotencyActive ← .await (.countActiveIdempotencyKeys now) .settle
  let kafkaLag ← kafkaLag app rotation
  let blockers :=
    (if dlqActive > 0 then [s!"DLQ pending/retrying={dlqActive}"] else []) ++
    (if idempotencyActive > 0 then [s!"active idempotency keys={idempotencyActive}"] else []) ++
    (if kafkaLag > 0 then [s!"Kafka lag={kafkaLag}"] else [])
  let list := ", ".intercalate blockers
  if blockers.length > 0 then
    throw (.error s!"Cannot rotate encryption key while processing is active: {list}")
  else pure ()

/-- `this.jsonHelper.toJson(this.jsonHelper.fromJson(column))`. -/
def reencrypt (column : Column) : StorageProg Column := do
  let value ← Async.ofExcept (JsonHelper.fromJson app column)
  ofService (JsonHelper.toJson app value)

/-- The response of a row, where there is one. -/
def reencryptResponse : Option Column → StorageProg (Option Column)
  | none => pure none
  | some response => do
    let response ← reencrypt app response
    pure (some response)

def rotateAuditLog (row : AuditLogRow) : StorageProg Unit := do
  let payload ← reencrypt app row.payload
  let response ← reencryptResponse app row.response
  .await (.auditLogUpdate row.id payload response) .settle

def rotateAuditLogs : StorageProg Unit := do
  let rows ← .await .auditLogFindMany .settle
  forEach (rotateAuditLog app) rows

def rotateDlqItem (row : String × Column) : StorageProg Unit := do
  let payload ← reencrypt app row.2
  .await (.dlqItemUpdate row.1 payload) .settle

def rotateDlqItems : StorageProg Unit := do
  let rows ← .await .dlqItemFindMany .settle
  forEach (rotateDlqItem app) rows

def rotateTargetSystem (row : String × Column) : StorageProg Unit := do
  let config ← reencrypt app row.2
  .await (.targetSystemUpdate row.1 config) .settle

def rotateTargetSystems : StorageProg Unit := do
  let rows ← .await .targetSystemFindMany .settle
  forEach (rotateTargetSystem app) rows

def loadState : StorageProg EncryptionStateRow := do
  let row ← .await .stateFind .settle
  match row with
  | none => throw (.error "EncryptionState is missing; enable encryption first")
  | some row => pure row

/-- The previous keys with the active one in front, each once. Every writer of the column writes an
array of strings. -/
def previousKeyIds (previousActiveKeyId : String) (previousKeyIdsRaw : Option JsonText) :
    Except JsError (List String) :=
  match (previousKeyIdsRaw.getD (.text (.arr []))).parse with
  | .error e => .error e
  | .ok (.arr ids) =>
    .ok (previousActiveKeyId :: ids.filterMap fun
      | .str id => some id
      | _ => none).eraseDups
  | .ok _ => .error (.error "parsed is not iterable")

/-- `JSON.stringify(keyIds)`. -/
def keyIdsText (keyIds : List String) : JsonText := (Json.arr (keyIds.map .str)).stringify

def markRotation (status : String) (state : EncryptionStateRow) : StorageProg Unit := do
  let keyIds ← Async.ofExcept (previousKeyIds state.activeKeyId state.previousKeyIds)
  .await (.stateMark status (keyIdsText keyIds)) .settle

def completeRotation (state : EncryptionStateRow) : StorageProg Unit := do
  let keyIds ← Async.ofExcept (previousKeyIds state.activeKeyId state.previousKeyIds)
  let activeKeyId ← Async.ofExcept app.encryption.activeKeyId
  .await (.stateComplete activeKeyId (keyIdsText keyIds)) .settle

/-- The `try` block of `rotateToActiveKey`. -/
def rotateTables (state : EncryptionStateRow) : StorageProg Unit := do
  rotateAuditLogs app
  rotateDlqItems app
  rotateTargetSystems app
  completeRotation app state

/-- The rotation from a state that names another key. -/
def rotate (state : EncryptionStateRow) : StorageProg Unit := do
  assertNoActiveProcessing app rotation
  markRotation "running" state
  tryCatch (rotateTables app state) fun error => do
    markRotation "failed" state
    throw error

def rotateToActiveKey : StorageProg Unit := do
  Async.ofExcept (if app.encryption.isEnabled then .ok ()
    else .error (.error "ENCRYPTION_ENABLED=true is required for key rotation"))
  Async.ofExcept app.encryption.validateConfiguration
  let state ← loadState
  let nextKeyId ← Async.ofExcept app.encryption.activeKeyId
  if state.activeKeyId = nextKeyId then pure ()
  else rotate app rotation state

end EncryptionRotationService

/-! ### The check at start-up -/

/-- The settings a process starts with. -/
structure StartConfig where
  encryption : EncryptionService
  /-- `ENCRYPTION_ROTATION_MODE` -/
  rotationMode : Option Bool

def StartConfig.isRotationMode (start : StartConfig) : Bool := start.rotationMode.getD false

/-- `text.includes(part)`. -/
def includes (text part : String) : Bool := decide (part.toList <:+: text.toList)

namespace PrismaService

variable (start : StartConfig)

def isMissingEncryptionStateTable (error : JsError) : Bool :=
  let msg := error.message
  includes msg "EncryptionState" &&
    (includes msg "does not exist" || includes msg "no such table" || includes msg "UndefinedTable")

def loadEncryptionState (required : Bool) : StorageProg (Option EncryptionStateRow) :=
  tryCatch (.await .stateFind .settle) fun error =>
    if isMissingEncryptionStateTable error && !required then pure none
    else if isMissingEncryptionStateTable error && required then
      throw (.error "ENCRYPTION_ENABLED=true requires the EncryptionState migration to be applied")
    else throw error

def ensureStrictlyEmptyForEncryption : StorageProg Unit := do
  let auditLogs ← .await (.countRows .auditLog) .settle
  let dlqItems ← .await (.countRows .dlqItem) .settle
  let targetSystems ← .await (.countRows .targetSystem) .settle
  let now ← ofService now
  let activeIdempotencyKeys ← .await (.countActiveIdempotencyKeys now) .settle
  let nonEmpty := [("AuditLog", auditLogs), ("DlqItem", dlqItems), ("TargetSystem", targetSystems),
    ("IdempotencyKey", activeIdempotencyKeys)]
  let offenders := (nonEmpty.filter fun (_, count) => count > 0).map fun (name, count) =>
    s!"{name}={count}"
  let list := ", ".intercalate offenders
  if offenders.length > 0 then
    throw (.error s!"Cannot enable encryption on a non-empty system: {list}")
  else pure ()

def createEncryptionState (activeKeyId : String) : StorageProg Unit :=
  .await (.stateInsert activeKeyId) .settle

/-- What the keyring says to the encryption state. -/
def checkState (activeKeyId : String) (state : EncryptionStateRow) : Except JsError Unit :=
  if state.enabled then
    match start.encryption.keyring with
    | .error message => .error (.error message)
    | .ok keyring =>
      if state.activeKeyId ∉ keyring.entries.map Prod.fst then
        .error (.error
          s!"Database encryption key '{state.activeKeyId}' is not present in runtime keyring")
      else if state.activeKeyId ≠ activeKeyId ∧ start.isRotationMode = false then
        .error (.error (s!"Encryption active key mismatch: database uses '{state.activeKeyId}', " ++
          s!"runtime uses '{activeKeyId}'. Run key rotation before normal startup."))
      else .ok ()
  else .error (.error "Encryption state exists but is disabled; refusing encrypted startup")

def validateEncryptionState : StorageProg Unit := do
  let enabled := start.encryption.isEnabled
  Async.ofExcept (if enabled then start.encryption.validateConfiguration else .ok ())
  let state ← loadEncryptionState enabled
  if enabled then do
    let activeKeyId ← Async.ofExcept start.encryption.activeKeyId
    match state with
    | none => do
      ensureStrictlyEmptyForEncryption
      createEncryptionState activeKeyId
    | some state => Async.ofExcept (checkState start activeKeyId state)
  else if (state.map fun state => state.enabled) = some true then
    throw (.error
      "Encryption is enabled in database state, but ENCRYPTION_ENABLED is not true")
  else pure ()

end PrismaService

end IdmMw
