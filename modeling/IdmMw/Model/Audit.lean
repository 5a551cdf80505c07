import IdmMw.Library.Stopping
import IdmMw.Model.Webhook

/-!
# The audit of the webhooks

`AuditInterceptor`, around the handler of a webhook.

* `WebhookRequest`: a request whose body is valid;
* `recordSuccess`, `recordError`: the row that is written for a request;
* `intercept`: the handler, and the row.

Nobody waits for a row to be written, and a failure is ignored.
-/

namespace IdmMw

open Async

/-- A request, with what the handler gets of its body. -/
structure WebhookRequest where
  method : String
  url : String
  body : Json
  dto : ProcessingPayload
  eventId_eq : body.getStr? "eventId" = some dto.eventId
  operation_eq : body.getStr? "operation" = some dto.operation
  targetSystem_eq : body.getStr? "targetSystem" = some dto.targetSystem
  payload_eq : body.get? "payload" = some dto.payload
  valid : AvanpostWebhookDto.Valid dto

/-- The columns that `auditLog.create` is given. -/
structure AuditLogCreate where
  eventId : String
  source : String
  operation : String
  targetSystem : String
  payload : Column
  response : Option Column
  status : String
  errorMessage : Option String

inductive AuditReq
  /-- what the services ask for -/
  | app (request : Req)
  | auditLogCreate (data : AuditLogCreate)

abbrev AuditAns : AuditReq → Type
  | .app request => Ans request
  | .auditLogCreate _ => Except JsError Unit

abbrev AuditProg (α : Type) := Async JsError AuditAns α

/-- A program of the services. -/
def AuditProg.ofApp {α : Type} (p : Prog α) : AuditProg α := p.embed .app fun _ a => a

namespace AuditInterceptor

variable (app : App) (request : WebhookRequest)

/-- `(body?.[key] as string) ?? 'unknown'`. -/
def field (key : String) : String := (request.body.getStr? key).getD "unknown"

/-- The key of a row. -/
def rowKey (eventId : String) (date : Time) : String := s!"{eventId}-{date}"

def requestJson : Json :=
  .obj [("request", request.body), ("method", .str request.method), ("url", .str request.url)]

/-- The answer of the controller. -/
def responseJson (result : ProcessResult) : Json :=
  .obj [("response", .obj ([("received", .bool true), ("processed", .bool result.processed)] ++
    (result.data.map ("data", ·)).toList))]

/-- The columns of a row. -/
def row (date : Time) (payload : Column) (response : Option Column) (status : String)
    (errorMessage : Option String) : AuditLogCreate where
  eventId := rowKey (field request "eventId") date
  source := "avanpost"
  operation := field request "operation"
  targetSystem := field request "targetSystem"
  payload := payload
  response := response
  status := status
  errorMessage := errorMessage

/-- `void auditLog.create(..).catch(() => {})`. -/
def create (data : AuditLogCreate) : AuditProg Unit :=
  .await (.auditLogCreate data) fun _ => .settle (.ok ())

/-- The callback of `tap`. -/
def recordSuccess (result : ProcessResult) : AuditProg Unit := do
  let date ← AuditProg.ofApp now
  let payload ← AuditProg.ofApp (JsonHelper.toJson app (requestJson request))
  let response ← AuditProg.ofApp (JsonHelper.toJson app (responseJson result))
  create (row request date payload (some response) "success" none)

/-- The callback of `catchError`, before it throws. -/
def recordError (error : JsError) : AuditProg Unit := do
  let date ← AuditProg.ofApp now
  let payload ← AuditProg.ofApp (JsonHelper.toJson app (requestJson request))
  create (row request date payload none "error" (some error.message))

def intercept : AuditProg ProcessResult :=
  tryCatch (do
    let result ← AuditProg.ofApp (WebhookController.receiveWebhook app request.dto)
    recordSuccess app request result
    pure result) fun error => do
    recordError app request error
    throw error

end AuditInterceptor

end IdmMw
