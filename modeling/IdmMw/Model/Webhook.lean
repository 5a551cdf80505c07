import IdmMw.Model.Idempotency
import IdmMw.Model.Messaging

/-!
# Webhooks

`WebhookController` and `WebhookService`.

* `AvanpostWebhookDto.Valid`: what the validation of the request body lets through;
* `WebhookService.processWebhook`: take the idempotency lock of the event, process it, and give the
  lock back unless the event was executed or durably accepted;
* `WebhookController.receiveWebhook`, which tells reads from writes.
-/

namespace IdmMw

open Async

/-! ### Operations -/

/-- `AVANPOST_OPERATION_VALUES`. -/
def avanpostOperationValues : List String :=
  ["user.create", "user.update", "user.delete", "user.get", "user.search", "user.enable",
    "user.disable", "user.lock", "user.unlock", "user.changePassword", "user.resolve",
    "user.addAttributes", "user.removeAttributes", "group.create", "group.update", "group.delete",
    "group.get", "group.search", "group.addMember", "group.removeMember", "system.test",
    "schema.get", "sync.full", "sync.incremental"]

/-- `READ_OPERATIONS`. -/
def readOperations : List String :=
  ["user.get", "user.search", "group.get", "group.search", "system.test", "schema.get",
    "sync.full", "sync.incremental", "user.resolve"]

def isReadOperation (op : String) : Bool := readOperations.contains op

/-! ### Validation of the request body -/

def isRecord : Json → Bool
  | .obj _ => true
  | _ => false

/-- `AvanpostPayloadShapeConstraint.validate`; what it accepts is an object (`@IsObject`). -/
def avanpostPayloadShape (value : Json) : Bool :=
  isRecord value && ["data", "params", "metadata"].all fun key =>
    match value.get? key with
    | none => true
    | some zone => isRecord zone

/-- The characters of the class `\s`. -/
def isWhiteSpace (c : Char) : Bool :=
  let n := c.toNat
  (9 ≤ n && n ≤ 13) || n == 0x20 || n == 0xa0 || n == 0x1680 || (0x2000 ≤ n && n ≤ 0x200a) ||
    n == 0x2028 || n == 0x2029 || n == 0x202f || n == 0x205f || n == 0x3000 || n == 0xfeff

/-- `/\S/.test(text)`. -/
def isNotBlank (text : String) : Bool := text.toList.any fun c => !isWhiteSpace c

/-- The decorators of `AvanpostWebhookDto`. -/
def AvanpostWebhookDto.Valid (dto : ProcessingPayload) : Prop :=
  isNotBlank dto.eventId = true ∧ dto.operation ∈ avanpostOperationValues ∧
    isNotBlank dto.targetSystem = true ∧ avanpostPayloadShape dto.payload = true

instance (dto : ProcessingPayload) : Decidable (AvanpostWebhookDto.Valid dto) :=
  inferInstanceAs (Decidable (_ ∧ _))

/-! ### The service -/

/-- What the webhook controller returns, without the constant `received`. -/
structure ProcessResult where
  processed : Bool
  data : Option Json

namespace WebhookService

variable (app : App)

/-- The data of a write result that may be shown to the sender. -/
def safeWriteResponseData : Option Json → Option Json
  | some (.obj metadata) =>
    match metadata.lookup "passwordDelivery", metadata.lookup "passwordKnown" with
    | some (.str "email"), some (.bool false) => some (.obj metadata)
    | _, _ => none
  | _ => none

/-- The key of an event, before it is hashed. -/
def idempotencyKey (dto : ProcessingPayload) : String :=
  s!"avanpost:{dto.targetSystem}:{dto.eventId}"

/-- The `try` block of `processWebhook`. -/
def process (dto : ProcessingPayload) (isRead : Bool) : Prog ProcessResult :=
  if isRead then do
    let result ← ProcessingService.processWithResult dto
    pure { processed := result.success, data := result.data }
  else do
    let result ← DispatcherService.dispatch app dto
    pure { processed := true, data := safeWriteResponseData (result.bind fun r => r.data) }

/-- The `catch` block of `processWebhook`. -/
def processFailed (dto : ProcessingPayload) (error : JsError) : Prog ProcessResult :=
  if isDurablyAcceptedError error then throw error
  else do
    IdempotencyService.release app (idempotencyKey dto)
    throw error

def processWebhook (dto : ProcessingPayload) (isRead : Bool) : Prog ProcessResult := do
  let isNew ← IdempotencyService.checkAndLock app (idempotencyKey dto) 3600
  if isNew then tryCatch (process app dto isRead) (processFailed app dto)
  else pure { processed := false, data := none }

end WebhookService

/-- `WebhookController.receiveWebhook`, for a body that is valid. -/
def WebhookController.receiveWebhook (app : App) (dto : ProcessingPayload) : Prog ProcessResult :=
  WebhookService.processWebhook app dto (isReadOperation dto.operation)

end IdmMw
