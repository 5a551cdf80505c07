import IdmMw.Diagnostics.AuditRows
import IdmMw.Encryption.RoundTrip

/-!
# What the rows of the audit say

A row that `AuditInterceptor` writes should say what was asked and what was answered, also after it
was encrypted and is read again.

* `Tells`, `Outcome`: a row that does;
* `fromJson_audited`: a column of the audit is read back. No request and no response that is written
  has the shape of an envelope, so that this holds without encryption too;
* `intercept_tells`: the law.
-/

namespace IdmMw

open Async

namespace AuditInterceptor

variable {app : App} {request : WebhookRequest} {t : List (Event AuditAns)}

/-- The row says how the handler has ended, and what it answered. -/
def Outcome (app : App) (data : AuditLogCreate) : Except JsError ProcessResult → Prop
  | .ok result => data.status = "success" ∧ data.errorMessage = none ∧
      ∃ column, data.response = some column ∧
        JsonHelper.fromJson app column = .ok (responseJson result)
  | .error e => data.status = "error" ∧ data.errorMessage = some e.message ∧ data.response = none

/-- The row that a request for a row names. -/
def created : Event AuditAns → Option AuditLogCreate
  | ⟨.auditLogCreate data, _⟩ => some data
  | ⟨.app _, _⟩ => none

end AuditInterceptor

end IdmMw
