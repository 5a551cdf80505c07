import IdmMw.Model.SqlAccounts

/-!
# The connector for databases

`DbConnectorService.execute`: a raw query, or one statement for a table, through `knex`.

* `Knex`: how `where` reads a value, as far as that matters here;
* `DbReq`: what the connector asks of `knex`.

Whether there is a client for a configuration (`createDynamicKnex`), and one for the settings of the
service (`this.knex`), is a parameter. A payload may be any JSON value.
-/

namespace IdmMw

open Async

inductive DbReq
  /-- `createDynamicKnex(config)`, by whether there is a client -/
  | createDynamicKnex (config : Json)
  | raw (rawQuery : Json) (bindings : Json)
  | insert (table : Json) (data : Option Json)
  | update (table : Json) (filter : Json) (data : Option Json)
  | del (table : Json) (filter : Json)
  | select (table : Json) (filter : Json)
  | destroy

abbrev DbAns : DbReq → Type
  | .createDynamicKnex _ => Except JsError Bool
  | .destroy => Except JsError Unit
  -- the rows, or the number of rows
  | _ => Except JsError Json

abbrev DbProg (α : Type) := Async JsError DbAns α

namespace DbConnectorService

variable (js : Runtime)

def succeeded (data : Json) : ConnectorResult := ⟨true, some data, none⟩

def failed (error : String) : ConnectorResult := ⟨false, none, some error⟩

/-- The statement for a table. -/
def statement (operation : Option Json) (table : Json) (data filter : Option Json) :
    DbProg ConnectorResult :=
  match operation with
  | some (.str "insert") => do
    let result ← await (.insert table data) .settle
    pure (succeeded result)
  | some (.str "update") =>
    match filter.filter Json.truthy with
    | none => pure (failed "Missing where clause for update")
    | some filter => do
      let result ← await (.update table filter data) .settle
      pure (succeeded result)
  | some (.str "delete") =>
    match filter.filter Json.truthy with
    | none => pure (failed "Missing where clause for delete")
    | some filter => do
      let result ← await (.del table filter) .settle
      pure (succeeded result)
  | some (.str "query") => do
    let result ← await (.select table (orEmptyObject filter)) .settle
    pure (succeeded result)
  | operation =>
    let text := ((operation.map (Json.toText js.numberText)).getD "undefined")
    pure (failed s!"Unsupported SQL operation: {text}")

/-- `bindings ?? []` -/
def bindings (payload : Json) : Json :=
  match payload.get? "bindings" with
  | none => .arr []
  | some .null => .arr []
  | some bindings => bindings

/-- The `try` block. -/
def perform (payload : Json) : DbProg ConnectorResult :=
  match (payload.get? "rawQuery").filter Json.truthy with
  | some rawQuery => do
    let result ← await (.raw rawQuery (bindings payload)) .settle
    pure (succeeded result)
  | none =>
    match (payload.get? "table").filter Json.truthy with
    | none => pure (failed "Missing table or rawQuery in payload")
    | some table =>
      statement js (payload.get? "sqlOperation") table (payload.get? "data") (payload.get? "where")

/-- The client that is made for a configuration is destroyed at the end. -/
def destroy (dynamicConfig : Option Json) : DbProg Unit :=
  if dynamicConfig.isSome then await .destroy .settle else pure ()

/-- What is done with a client. -/
def withClient (dynamicConfig : Option Json) (client : Bool) (payload : Json) :
    DbProg ConnectorResult :=
  if client = true then
    ensuring (tryCatch (perform js payload) fun error => pure (failed error.message))
      (destroy dynamicConfig)
  else pure (failed "DB connector not initialized")

/-- `initialized`: whether there is a client for the settings of the service. -/
def execute (initialized : Bool) (payload : ConnectorPayload) : DbProg ConnectorResult :=
  match payload.config.filter Json.truthy with
  | none => withClient js none initialized payload.payload
  | some config => do
    let client ← await (.createDynamicKnex config) .settle
    withClient js (some config) client payload.payload

end DbConnectorService

end IdmMw
