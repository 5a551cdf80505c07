import IdmMw.Model.Messaging

/-!
# Administration of the dead letter queue

`AdminService.retry`, `retryMany` and `skip`. A retry first claims the item and then hands it over:
to Kafka, or to `processRetry` in the same call where Kafka is disabled.
-/

namespace IdmMw

open Async

/-- The parameters of `retryMany`, as the request body and the access check give them. -/
structure RetryManyParams where
  targetSystem : Option String
  status : Option String
  limit : Option Json
  allowedTargetSystems : Option (List String)

/-- The counters `retryMany` returns. -/
structure RetryManyResult where
  requested : ℕ
  queued : ℕ
  skipped : ℕ
  errors : List (String × String)

namespace AdminService

variable (app : App)

def limit (value : Option Json) (defaultValue maxValue : ℕ) : ℕ :=
  match RetryPolicyService.positiveInteger value with
  | none => defaultValue
  | some parsed => min parsed maxValue

def retryItem (item : DlqItem) : Prog Unit := do
  let payload ← Async.ofExcept (JsonHelper.fromJson app item.payload)
  let dto : ProcessingPayload :=
    { eventId := item.eventId, operation := item.operation, targetSystem := item.targetSystem,
      payload := payload.orEmpty }
  if app.config.isKafkaEnabled then
    KafkaProducerService.send app app.config.retryTopic (retryMessage item.id dto)
  else ProcessingService.processRetry app dto item.id

/-- `if (item) await this.retryItem(item)`. -/
def retryFound : Option DlqItem → Prog Unit
  | none => pure ()
  | some item => retryItem app item

def retry (id : String) : Prog Unit := do
  let claimed ← DlqService.retry app id
  if claimed then do
    let item ← dlqItemFindUnique id
    retryFound app item
    DlqService.updateMetrics
  else throw (.error s!"DLQ item {id} is already retrying, skipped, or resolved")

/-- The `try` block of the loop: whether the item was handed over. -/
def retryOne (item : DlqItem) : Prog Bool := do
  let claimed ← DlqService.retry app item.id
  if claimed then do
    retryItem app item
    pure true
  else pure false

/-- The loop of `retryMany`, with its counters. -/
def retryItems : List DlqItem → RetryManyResult → Prog RetryManyResult
  | [], acc => pure acc
  | item :: items, acc => do
    let acc ← tryCatch (do
      let queued ← retryOne app item
      pure (if queued then { acc with queued := acc.queued + 1 }
        else { acc with skipped := acc.skipped + 1 })) fun error =>
      pure { acc with errors := acc.errors ++ [(item.id, error.message)] }
    retryItems items acc

/-- The filter and the limit of the items that `retryMany` looks at. -/
def retryManyQuery (params : RetryManyParams) : DlqItemQuery where
  status := params.status.getD DlqStatus.pending.text
  targetSystems := match params.targetSystem.filter (· ≠ "") with
    | some targetSystem => some [targetSystem]
    | none => params.allowedTargetSystems
  take := limit params.limit 25 100

def retryMany (params : RetryManyParams) : Prog RetryManyResult :=
  if params.allowedTargetSystems = some [] then
    pure { requested := 0, queued := 0, skipped := 0, errors := [] }
  else do
    let items ← dlqItemFindMany (retryManyQuery params)
    let result ← retryItems app items
      { requested := items.length, queued := 0, skipped := 0, errors := [] }
    DlqService.updateMetrics
    pure result

def skip (id : String) : Prog Unit := do
  DlqService.skip id
  DlqService.updateMetrics

end AdminService

end IdmMw
