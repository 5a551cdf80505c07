import IdmMw.Model.Encryption

/-!
# The read facade

`IdmController.executeRead`, the other way to read from a target system: without idempotency lock,
with the stored configuration in the payload, and with the result of the connector checked after
every kind of call.
-/

namespace IdmMw

open Async

/-- Whether a value counts as true in a condition. -/
def Json.truthy : Json → Bool
  | null => false
  | bool b => b
  | num n => n ≠ 0
  | str s => s ≠ ""
  | arr _ => true
  | obj _ => true

namespace TargetSystemService

variable (app : App)

/-- The configuration of a row that was found. -/
def rawConfig : Option Column → Prog (Option Json)
  | none => pure none
  | some config => do
    let value ← Async.ofExcept (JsonHelper.fromJson app config)
    pure (some value.orEmpty)

def findRawConfigByName (name : String) : Prog (Option Json) := do
  let item ← targetSystemConfig name
  rawConfig app item

end TargetSystemService

namespace IdmController

variable (app : App)

/-- `config ? { config } : {}`. -/
def configField (config : Option Json) : List (String × Json) :=
  match config.filter Json.truthy with
  | some config => [("config", config)]
  | none => []

def connectorPayload (name operation : String) (params : Json) (config : Option Json) :
    ConnectorPayload where
  operation := operation
  targetSystem := name
  payload := .obj (configField config ++ [("params", params)])

/-- The native method where the connector has it, else `execute`. -/
def callConnector (connector : Connector) (payload : ConnectorPayload) (syncMode : Option String) :
    Prog ConnectorResult :=
  if payload.operation = "schema.get" ∧ connector.getSchema then connectorGetSchema payload
  else if (payload.operation = "sync.full" ∨ payload.operation = "sync.incremental") ∧
      connector.sync then
    connectorSync payload
      (syncMode.getD (if payload.operation = "sync.incremental" then "incremental" else "full"))
  else connectorExecute payload

/-- `throw new BadRequestException(result.error ?? 'Connector failed')`, unless the result is a
success. -/
def checkResult (result : ConnectorResult) : Prog ConnectorResult :=
  if result.success then pure result
  else throw (.error (result.error.getD "Connector failed"))

def executeRead (name operation : String) (params : Json) (syncMode : Option String) :
    Prog ConnectorResult := do
  let config ← TargetSystemService.findRawConfigByName app name
  let connector ← registryGet name
  match connector with
  | none => throw (.error s!"Target system not found: {name}")
  | some connector => do
    let result ← callConnector connector (connectorPayload name operation params config) syncMode
    checkResult result

end IdmController

end IdmMw
