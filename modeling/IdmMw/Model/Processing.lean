import IdmMw.Model.Dlq

/-!
# Processing an event

`ProcessingService`: execute the event on its connector under the target's retry policy; park it in
the dead letter queue when that fails (`process`), or end the claim of the item it was parked as
(`processRetry`). Reads go to the connector directly (`processWithResult`).
-/

namespace IdmMw

open Async

/-- `isDurablyAcceptedError`. -/
def isDurablyAcceptedError : JsError → Bool
  | .processingFailure _ durableAccepted _ => durableAccepted
  | _ => false

/-- The arguments of the connector. -/
def ProcessingPayload.toConnector (dto : ProcessingPayload) : ConnectorPayload where
  operation := dto.operation
  targetSystem := dto.targetSystem
  payload := dto.payload

namespace ProcessingService

variable (app : App)

/-- `throw new Error(result.error ?? 'Connector returned failure')`, unless the result is a
success. -/
def checkResult (dto : ProcessingPayload) (result : ConnectorResult) : Prog ConnectorResult :=
  if result.success then pure result
  else do
    recordConnectorError dto.targetSystem dto.operation
    throw (.error (result.error.getD "Connector returned failure"))

def executeWithRetry (dto : ProcessingPayload) : Prog ConnectorResult := do
  let connector ← registryGet dto.targetSystem
  match connector with
  | none => throw (.error s!"Unsupported target system: {dto.targetSystem}")
  | some _ => do
    let retryPolicy ← RetryPolicyService.forTarget app dto.targetSystem
    let result ← RetryService.execute (connectorExecute dto.toConnector) retryPolicy.toRetryOptions
    checkResult dto result

/-- The `try` block of the failure path: the item records the retries of the policy looked up
now, not the attempts that were made. -/
def park (dto : ProcessingPayload) (error : JsError) : Prog Unit := do
  let policy ← RetryPolicyService.forTarget app dto.targetSystem
  DlqService.add app
    { eventId := dto.eventId
      operation := dto.operation
      targetSystem := dto.targetSystem
      payload := dto.payload
      error := error.message
      retryCount := some policy.maxRetries }

/-- The `catch` block of `process`. -/
def processFailed (dto : ProcessingPayload) (error : JsError) : Prog ConnectorResult := do
  recordEvent .failed dto.targetSystem
  tryCatch (park app dto error) fun dlqError =>
    throw (.processingFailure
      s!"Processing failed before durable DLQ acceptance: {dlqError.message}" false error)
  throw (.processingFailure error.message true error)

def process (dto : ProcessingPayload) : Prog ConnectorResult :=
  tryCatch (do
    let result ← executeWithRetry app dto
    recordEvent .success dto.targetSystem
    pure result) (processFailed app dto)

def processRetry (dto : ProcessingPayload) (dlqItemId : String) : Prog Unit :=
  tryCatch (do
    let _ ← executeWithRetry app dto
    recordEvent .success dto.targetSystem
    DlqService.resolve dlqItemId) fun error => do
    recordEvent .failed dto.targetSystem
    DlqService.markRetryFailed dlqItemId error.message
    throw error

/-- The `try` block of `processWithResult`: a native result is returned as it is, a result of
`execute` is checked. -/
def read (dto : ProcessingPayload) (connector : Connector) : Prog ConnectorResult :=
  if dto.operation = "schema.get" ∧ connector.getSchema then do
    let result ← connectorGetSchema dto.toConnector
    recordEvent .success dto.targetSystem
    pure result
  else if (dto.operation = "sync.full" ∨ dto.operation = "sync.incremental") ∧ connector.sync then do
    let result ← connectorSync dto.toConnector
      (if dto.operation = "sync.incremental" then "incremental" else "full")
    recordEvent .success dto.targetSystem
    pure result
  else do
    let result ← connectorExecute dto.toConnector
    let result ← checkResult dto result
    recordEvent .success dto.targetSystem
    pure result

def processWithResult (dto : ProcessingPayload) : Prog ConnectorResult := do
  let connector ← registryGet dto.targetSystem
  match connector with
  | none => throw (.error s!"Unsupported target system: {dto.targetSystem}")
  | some connector =>
    tryCatch (read dto connector) fun error => do
      recordEvent .failed dto.targetSystem
      throw error

end ProcessingService

end IdmMw
