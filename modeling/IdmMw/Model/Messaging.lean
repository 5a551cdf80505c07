import IdmMw.Model.Processing

/-!
# Kafka and dispatch

`KafkaProducerService.send`, `DispatcherService.dispatch` (synchronous, or queued for a worker) and
the worker's handler `KafkaConsumerService.eachMessage`.
-/

namespace IdmMw

open Async

/-! ### Messages -/

/-- The message of a queued event. -/
def eventMessage (dto : ProcessingPayload) : Json :=
  .obj [("eventId", .str dto.eventId), ("operation", .str dto.operation),
    ("targetSystem", .str dto.targetSystem), ("payload", dto.payload)]

/-- The message of a claimed DLQ item. -/
def retryMessage (dlqItemId : String) (dto : ProcessingPayload) : Json :=
  .obj [("dlqItemId", .str dlqItemId), ("eventId", .str dto.eventId),
    ("operation", .str dto.operation), ("targetSystem", .str dto.targetSystem),
    ("payload", dto.payload)]

/-- The payload of a message, where it is one that this program sends. (Any other object makes
`process` fail on its first missing field.) -/
def payloadOf (message : Json) : Option ProcessingPayload := do
  let eventId ← message.getStr? "eventId"
  let operation ← message.getStr? "operation"
  let targetSystem ← message.getStr? "targetSystem"
  let payload ← message.get? "payload"
  pure { eventId := eventId, operation := operation, targetSystem := targetSystem,
         payload := payload }

/-- `dlqItemId`, where it is truthy. -/
def dlqItemIdOf (message : Json) : Option String :=
  (message.getStr? "dlqItemId").filter (· ≠ "")

/-! ### Producer -/

namespace KafkaProducerService

variable (app : App)

def send (topic : String) (message : Json) : Prog Unit :=
  if app.producer then do
    let value ← app.encryption.encodeKafkaMessage message
    producerSend topic value
  else if app.config.isKafkaEnabled then
    throw (.error "Kafka producer is enabled but not available")
  else pure ()

end KafkaProducerService

/-! ### Dispatcher -/

namespace DispatcherService

variable (app : App)

def successMessage (dto : ProcessingPayload) : Json :=
  .obj [("eventId", .str dto.eventId), ("operation", .str dto.operation),
    ("targetSystem", .str dto.targetSystem), ("status", .str "success")]

def failureMessage (dto : ProcessingPayload) (error : String) : Json :=
  .obj [("eventId", .str dto.eventId), ("operation", .str dto.operation),
    ("targetSystem", .str dto.targetSystem), ("status", .str "failed"), ("error", .str error)]

/-- A message to the topic of outgoing events, if Kafka is enabled. -/
def publish (message : Json) : Prog Unit :=
  if app.config.isKafkaEnabled then KafkaProducerService.send app app.config.eventsOutTopic message
  else pure ()

def dispatchAsync (dto : ProcessingPayload) : Prog (Option ConnectorResult) :=
  if app.config.isKafkaEnabled then do
    KafkaProducerService.send app app.config.eventsInTopic (eventMessage dto)
    pure none
  else throw (.error "Async processing mode requires KAFKA_ENABLED=true")

/-- A failing publication of the success is handled like a failure of the event. -/
def dispatchSync (dto : ProcessingPayload) : Prog (Option ConnectorResult) :=
  tryCatch (do
    let result ← ProcessingService.process app dto
    publish app (successMessage dto)
    pure (some result)) fun error => do
    publish app (failureMessage dto error.message)
    throw error

def dispatch (dto : ProcessingPayload) : Prog (Option ConnectorResult) :=
  if app.config.processingMode = "async" then dispatchAsync app dto else dispatchSync app dto

end DispatcherService

/-! ### Consumer -/

namespace KafkaConsumerService

variable (app : App)

def successMessage (topic : String) (payload : ProcessingPayload) : Json :=
  .obj [("eventId", .str payload.eventId), ("operation", .str payload.operation),
    ("targetSystem", .str payload.targetSystem), ("status", .str "success"),
    ("sourceTopic", .str topic)]

def failureMessage (topic error : String) : Json :=
  .obj [("status", .str "failed"), ("sourceTopic", .str topic), ("error", .str error)]

/-- The decoded message value, split into the event and the id of the DLQ item. -/
def decode (value : Option JsonText) : Except JsError (ProcessingPayload × Option String) :=
  match app.encryption.decodeKafkaMessage (value.getD (Json.obj []).stringify) with
  | .error e => .error e
  | .ok messageValue =>
    match payloadOf messageValue with
    | none => .error (.error "malformed message")
    | some payload => .ok (payload, dlqItemIdOf messageValue)

/-- Process the event, or retry the DLQ item the message names. -/
def handle (payload : ProcessingPayload) : Option String → Prog Unit
  | some dlqItemId => ProcessingService.processRetry app payload dlqItemId
  | none => do
    let _ ← ProcessingService.process app payload

/-- The `try` block of `eachMessage`. -/
def handleMessage (topic : String) (value : Option JsonText) : Prog Unit := do
  let message ← Async.ofExcept (decode app value)
  handle app message.1 message.2
  KafkaProducerService.send app app.config.eventsOutTopic (successMessage topic message.1)

def eachMessage (topic : String) (value : Option JsonText) : Prog Unit :=
  tryCatch (handleMessage app topic value) fun error =>
    tryCatch (KafkaProducerService.send app app.config.eventsOutTopic
      (failureMessage topic error.message)) fun _ => pure ()

end KafkaConsumerService

end IdmMw
