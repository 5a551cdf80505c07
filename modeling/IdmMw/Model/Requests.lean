import IdmMw.Library.Async
import IdmMw.Model.Json

/-!
# What the services ask of their surroundings

The services are asynchronous programs (`Prog`) over the requests `Req`: statements of the two
database tables involved, Redis commands, connector calls, Kafka sends, and the process's own clock
and randomness. The answer to a request that may fail is an `Except JsError _`.

* `JsError`: what `catch` may get hold of;
* the records that cross the interfaces (`ProcessingPayload`, `ConnectorResult`, `DlqItem`, ...);
* `Req`, `Ans`, `Prog`, and one wrapper for each request;
* `Config`: the settings the services read, with their defaults.

Logging is left out. A request and its answer are one step: nothing happens between them.
-/

namespace IdmMw

/-- Milliseconds since the epoch. -/
abbrev Time := ℤ

/-! ### Errors -/

/-- A thrown value: an `Error`, a `ProcessingFailureError`, or something that is no error, given by
its `String(..)`. -/
inductive JsError
  | error (message : String)
  | processingFailure (message : String) (durableAccepted : Bool) (cause : JsError)
  | thrown (value : String)

/-- `error instanceof Error ? error.message : String(error)`. -/
def JsError.message : JsError → String
  | error message => message
  | processingFailure message _ _ => message
  | thrown value => value

/-- `error instanceof Error ? error : new Error(String(error))`. -/
def JsError.toError : JsError → JsError
  | thrown value => error value
  | e => e

/-- `JSON.parse(text)`. -/
def JsonText.parse : JsonText → Except JsError Json
  | text v => .ok v
  | malformed => .error (.error "Unexpected token in JSON")

/-! ### Records -/

/-- What the webhook controller accepts (`AvanpostWebhookDto`) and what the processing layer gets
(`ProcessingPayload`): the two interfaces have the same fields. -/
structure ProcessingPayload where
  eventId : String
  operation : String
  targetSystem : String
  payload : Json

/-- What a connector gets. -/
structure ConnectorPayload where
  operation : String
  targetSystem : String
  payload : Json

/-- What a connector returns. -/
structure ConnectorResult where
  success : Bool
  data : Option Json
  error : Option String

/-- A registered connector, by which of the optional methods it has. -/
structure Connector where
  getSchema : Bool
  sync : Bool

/-- The two labels of the event counter. -/
inductive EventStatus
  | success
  | failed

/-- The status column of a DLQ item. -/
inductive DlqStatus
  | pending
  | retrying
  | skipped
  | resolved
  deriving DecidableEq

/-- The text of a status. -/
def DlqStatus.text : DlqStatus → String
  | pending => "pending"
  | retrying => "retrying"
  | skipped => "skipped"
  | resolved => "resolved"

/-- A JSON column: a native value, or a text where the provider is SQLite. -/
inductive Column
  | native (v : Json)
  | text (t : JsonText)

/-- A row of the table `DlqItem`. -/
structure DlqItem where
  id : String
  eventId : String
  operation : String
  targetSystem : String
  payload : Column
  error : String
  retryCount : ℕ
  status : DlqStatus
  lockedAt : Option Time
  lockedBy : Option String

/-- The columns `dlqItem.create` is given; the lock columns start as NULL. -/
structure DlqItemCreate where
  eventId : String
  operation : String
  targetSystem : String
  payload : Column
  error : String
  retryCount : ℕ
  status : DlqStatus

/-- The columns `dlqItem.update` sets; the error text only where it is given. -/
structure DlqItemUpdate where
  status : DlqStatus
  error : Option String
  lockedAt : Option Time
  lockedBy : Option String

/-- The conditional `dlqItem.updateMany` that claims an item: the instants the program read, the
lease it used and the claimer's name. -/
structure DlqItemClaim where
  id : String
  now : Time
  dateNow : Time
  effectiveLeaseSeconds : ℚ
  lockedBy : String

/-- `new Date(ms)` drops the fraction of a millisecond. -/
def timeClip (ms : ℚ) : Time := if 0 ≤ ms then ⌊ms⌋ else ⌈ms⌉

theorem lt_of_lt_timeClip {t : Time} {ms : ℚ} (h : t < timeClip ms) : (t : ℚ) < ms := by
  unfold timeClip at h
  split at h
  · have hle : t + 1 ≤ ⌊ms⌋ := h
    calc (t : ℚ) < ((t + 1 : ℤ) : ℚ) := by push_cast; linarith
      _ ≤ (⌊ms⌋ : ℚ) := by exact_mod_cast hle
      _ ≤ ms := Int.floor_le ms
  · exact Int.lt_ceil.1 h

/-- `new Date(Date.now() - effectiveLeaseSeconds * 1000)`. -/
def DlqItemClaim.expiredBefore (c : DlqItemClaim) : Time :=
  timeClip ((c.dateNow : ℚ) - c.effectiveLeaseSeconds * 1000)

/-- The filter and the limit of `dlqItem.findMany`. -/
structure DlqItemQuery where
  status : String
  targetSystems : Option (List String)
  take : ℕ

/-! ### Requests -/

/-- A request. -/
inductive Req
  -- the process: `new Date()`, `Math.random()`, `randomBytes(12)`, `setTimeout`
  | now
  | random
  | randomBytes
  | sleep (ms : ℚ)
  -- `MetricsService`, `ConnectorRegistry.get`
  | recordEvent (status : EventStatus) (targetSystem : String)
  | recordConnectorError (targetSystem operation : String)
  | setDlqSize (status : DlqStatus) (count : ℕ)
  | registryGet (name : String)
  -- `prisma.idempotencyKey`, inside a transaction and outside
  | txBegin
  | txCommit
  | txRollback
  | txKeyFindUnique (key : String)
  | txKeyUpsert (key : String) (expiresAt : Time) (lockedAt : Time)
  | txKeyDeleteMany (expiresBefore : Time)
  | keyFindUnique (key : String)
  | keyDelete (key : String)
  -- Redis: `SET key 1 EX ttl NX`, `EXISTS key`, `DEL key`
  | redisSet (key : String) (ttlSeconds : ℕ)
  | redisExists (key : String)
  | redisDel (key : String)
  -- `prisma.dlqItem`, `prisma.targetSystem`
  | dlqItemCreate (data : DlqItemCreate)
  | dlqItemFindTarget (id : String)
  | dlqItemFindUnique (id : String)
  | dlqItemFindMany (query : DlqItemQuery)
  | dlqItemUpdateMany (claim : DlqItemClaim)
  | dlqItemUpdate (id : String) (data : DlqItemUpdate)
  | dlqItemGroupBy
  | targetSystemConfig (name : String)
  -- connectors and Kafka
  | execute (payload : ConnectorPayload)
  | getSchema (payload : ConnectorPayload)
  | sync (payload : ConnectorPayload) (mode : String)
  | producerSend (topic : String) (value : JsonText)

/-- The answers to a request. A send fails with an error of the client library, given by its
message. -/
abbrev Ans : Req → Type
  | .now => Time
  | .random => ℚ
  | .randomBytes => String
  | .sleep _ => Unit
  | .recordEvent _ _ => Unit
  | .recordConnectorError _ _ => Unit
  | .setDlqSize _ _ => Unit
  | .registryGet _ => Option Connector
  | .txBegin => Except JsError Unit
  | .txCommit => Except JsError Unit
  | .txRollback => Except JsError Unit
  | .txKeyFindUnique _ => Except JsError (Option Time)
  | .txKeyUpsert _ _ _ => Except JsError Unit
  | .txKeyDeleteMany _ => Except JsError Unit
  | .keyFindUnique _ => Except JsError (Option Time)
  | .keyDelete _ => Except JsError Unit
  | .redisSet _ _ => Except JsError Bool
  | .redisExists _ => Except JsError ℕ
  | .redisDel _ => Except JsError Unit
  | .dlqItemCreate _ => Except JsError Unit
  | .dlqItemFindTarget _ => Except JsError (Option String)
  | .dlqItemFindUnique _ => Except JsError (Option DlqItem)
  | .dlqItemFindMany _ => Except JsError (List DlqItem)
  | .dlqItemUpdateMany _ => Except JsError ℕ
  | .dlqItemUpdate _ _ => Except JsError Unit
  | .dlqItemGroupBy => Except JsError (List (DlqStatus × ℕ))
  | .targetSystemConfig _ => Except JsError (Option Column)
  | .execute _ => Except JsError ConnectorResult
  | .getSchema _ => Except JsError ConnectorResult
  | .sync _ _ => Except JsError ConnectorResult
  | .producerSend _ _ => Except String Unit

/-- An asynchronous function of the services. -/
abbrev Prog (α : Type) := Async JsError Ans α

/-- A request with its answer. -/
abbrev Ev := Async.Event Ans

/-- A run of a program, as the list of its requests and answers. -/
abbrev Trace := List Ev

/-! ### One wrapper for each request -/

section Wrappers

open Async

def now : Prog Time := .await .now fun a => .settle (.ok a)
def random : Prog ℚ := .await .random fun a => .settle (.ok a)
def randomBytes : Prog String := .await .randomBytes fun a => .settle (.ok a)
def sleep (ms : ℚ) : Prog Unit := .await (.sleep ms) fun a => .settle (.ok a)

def recordEvent (status : EventStatus) (targetSystem : String) : Prog Unit :=
  .await (.recordEvent status targetSystem) fun a => .settle (.ok a)
def recordConnectorError (targetSystem operation : String) : Prog Unit :=
  .await (.recordConnectorError targetSystem operation) fun a => .settle (.ok a)
def setDlqSize (status : DlqStatus) (count : ℕ) : Prog Unit :=
  .await (.setDlqSize status count) fun a => .settle (.ok a)
def registryGet (name : String) : Prog (Option Connector) :=
  .await (.registryGet name) fun a => .settle (.ok a)

def txBegin : Prog Unit := .await .txBegin .settle
def txCommit : Prog Unit := .await .txCommit .settle
def txRollback : Prog Unit := .await .txRollback .settle
def txKeyFindUnique (key : String) : Prog (Option Time) := .await (.txKeyFindUnique key) .settle
def txKeyUpsert (key : String) (expiresAt lockedAt : Time) : Prog Unit :=
  .await (.txKeyUpsert key expiresAt lockedAt) .settle
def txKeyDeleteMany (expiresBefore : Time) : Prog Unit :=
  .await (.txKeyDeleteMany expiresBefore) .settle
def keyFindUnique (key : String) : Prog (Option Time) := .await (.keyFindUnique key) .settle
def keyDelete (key : String) : Prog Unit := .await (.keyDelete key) .settle

def redisSet (key : String) (ttlSeconds : ℕ) : Prog Bool := .await (.redisSet key ttlSeconds) .settle
def redisExists (key : String) : Prog ℕ := .await (.redisExists key) .settle
def redisDel (key : String) : Prog Unit := .await (.redisDel key) .settle

def dlqItemCreate (data : DlqItemCreate) : Prog Unit := .await (.dlqItemCreate data) .settle
def dlqItemFindTarget (id : String) : Prog (Option String) := .await (.dlqItemFindTarget id) .settle
def dlqItemFindUnique (id : String) : Prog (Option DlqItem) :=
  .await (.dlqItemFindUnique id) .settle
def dlqItemFindMany (query : DlqItemQuery) : Prog (List DlqItem) :=
  .await (.dlqItemFindMany query) .settle
def dlqItemUpdateMany (claim : DlqItemClaim) : Prog ℕ := .await (.dlqItemUpdateMany claim) .settle
def dlqItemUpdate (id : String) (data : DlqItemUpdate) : Prog Unit :=
  .await (.dlqItemUpdate id data) .settle
def dlqItemGroupBy : Prog (List (DlqStatus × ℕ)) := .await .dlqItemGroupBy .settle
def targetSystemConfig (name : String) : Prog (Option Column) :=
  .await (.targetSystemConfig name) .settle

def connectorExecute (payload : ConnectorPayload) : Prog ConnectorResult :=
  .await (.execute payload) .settle
def connectorGetSchema (payload : ConnectorPayload) : Prog ConnectorResult :=
  .await (.getSchema payload) .settle
def connectorSync (payload : ConnectorPayload) (mode : String) : Prog ConnectorResult :=
  .await (.sync payload mode) .settle
def producerSend (topic : String) (value : JsonText) : Prog Unit :=
  .await (.producerSend topic value) fun a => .settle (a.mapError .error)

end Wrappers

/-! ### Settings -/

/-- The settings the services read; `none` where one is not set. -/
structure Config where
  redisEnabled : Option Bool
  kafkaEnabled : Option Bool
  idmmwProcessingMode : Option String
  kafkaTopicEventsIn : Option String
  kafkaTopicEventsOut : Option String
  kafkaTopicDlqRetry : Option String
  dlqRetryLeaseSeconds : Option ℚ
  databaseProvider : Option String

namespace Config

variable (config : Config)

/-- `config.get('REDIS_ENABLED') ?? false`. -/
def isRedisEnabled : Bool := config.redisEnabled.getD false

/-- `config.get('KAFKA_ENABLED') ?? false`. -/
def isKafkaEnabled : Bool := config.kafkaEnabled.getD false

/-- `config.get('IDMMW_PROCESSING_MODE') ?? 'sync'`. -/
def processingMode : String := config.idmmwProcessingMode.getD "sync"

/-- `config.get('KAFKA_TOPIC_EVENTS_IN') ?? 'idm.events.in'`. -/
def eventsInTopic : String := config.kafkaTopicEventsIn.getD "idm.events.in"

/-- `config.get('KAFKA_TOPIC_EVENTS_OUT') ?? 'idm.events.out'`. -/
def eventsOutTopic : String := config.kafkaTopicEventsOut.getD "idm.events.out"

/-- `config.get('KAFKA_TOPIC_DLQ_RETRY') ?? 'idm.dlq.retry'`. -/
def retryTopic : String := config.kafkaTopicDlqRetry.getD "idm.dlq.retry"

/-- `config.get('DLQ_RETRY_LEASE_SECONDS') ?? 300`. -/
def dlqLeaseSeconds : ℚ := config.dlqRetryLeaseSeconds.getD 300

/-- `config.get('DATABASE_PROVIDER') === 'sqlite'`. -/
def isSqlite : Bool := config.databaseProvider == some "sqlite"

end Config

end IdmMw
