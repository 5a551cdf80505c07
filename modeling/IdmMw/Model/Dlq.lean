import IdmMw.Model.Retry

/-!
# The dead letter queue

`DlqService`: parking a failed event (`add`), claiming an item for a retry under a lease (`retry`),
ending the claim (`resolve`, `markRetryFailed`) and closing an item by hand (`skip`). Every operation
ends with a refresh of the size metrics, which is one more statement that may fail.
-/

namespace IdmMw

open Async

/-- What `DlqService.add` is given. -/
structure DlqItemData where
  eventId : String
  operation : String
  targetSystem : String
  payload : Json
  error : String
  retryCount : Option ℕ

/-- The row that `add` stores. -/
def DlqItemData.row (item : DlqItemData) (payload : Column) : DlqItemCreate where
  eventId := item.eventId
  operation := item.operation
  targetSystem := item.targetSystem
  payload := payload
  error := item.error
  retryCount := item.retryCount.getD 0
  status := .pending

namespace DlqService

/-- The loop of `updateMetrics`. -/
def setSizes (counts : List (DlqStatus × ℕ)) : List DlqStatus → Prog Unit
  | [] => pure ()
  | status :: statuses => do
    setDlqSize status ((counts.lookup status).getD 0)
    setSizes counts statuses

def updateMetrics : Prog Unit := do
  let counts ← dlqItemGroupBy
  setSizes counts [.pending, .retrying, .skipped, .resolved]

variable (app : App)

def add (item : DlqItemData) : Prog Unit := do
  let payload ← JsonHelper.toJson app item.payload
  dlqItemCreate (item.row payload)
  updateMetrics

/-- The lease of the item's target, or that of the settings where the item was not found. -/
def leaseSeconds : Option String → Prog ℚ
  | none => pure app.config.dlqLeaseSeconds
  | some targetSystem => do
    let targetPolicy ← RetryPolicyService.forTarget app targetSystem
    pure targetPolicy.dlqLeaseSeconds

def retry (id : String) : Prog Bool := do
  let targetSystem ← dlqItemFindTarget id
  let effectiveLeaseSeconds ← leaseSeconds app targetSystem
  let date ← now
  let dateNow ← now
  let count ← dlqItemUpdateMany
    { id := id
      now := date
      dateNow := dateNow
      effectiveLeaseSeconds := effectiveLeaseSeconds
      lockedBy := app.pid }
  if count = 1 then do
    updateMetrics
    pure true
  else pure false

/-- The unconditional updates of `skip`, `resolve` and `markRetryFailed`. -/
def updateStatus (id : String) (status : DlqStatus) (error : Option String) : Prog Unit := do
  dlqItemUpdate id { status := status, error := error, lockedAt := none, lockedBy := none }
  updateMetrics

def skip (id : String) : Prog Unit := updateStatus id .skipped none

def resolve (id : String) : Prog Unit := updateStatus id .resolved none

def markRetryFailed (id : String) (error : String) : Prog Unit :=
  updateStatus id .pending (some error)

end DlqService

end IdmMw
