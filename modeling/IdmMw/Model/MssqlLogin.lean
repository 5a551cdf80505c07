import IdmMw.Model.SqlAccounts

/-!
# The connector for MSSQL logins

`MssqlLoginConnectorService`: logins of a server, users of a database and its roles.

* `MssqlStatement`: the statements, and their texts;
* `MssqlReq`: what the connector asks of `mssql`;
* the values of a payload and of a configuration that make up a statement;
* the operations, and `execute`, which the middleware calls.

Every statement takes effect at once: none is sent within a transaction.
-/

namespace IdmMw

open Async

namespace MssqlLoginConnectorService

/-! ### Statements -/

def bracket (value : String) : String := String.ofList
  ('[' :: value.toList.flatMap (fun c => if c = ']' then [']', ']'] else [c]) ++ [']'])

def literal (value : String) : String := String.ofList
  ('N' :: '\'' :: value.toList.flatMap (fun c => if c = '\'' then ['\'', '\''] else [c]) ++ ['\''])

inductive MssqlAction
  | grant
  | deny
  | revoke
  deriving DecidableEq

def MssqlAction.text : MssqlAction → String
  | grant => "GRANT"
  | deny => "DENY"
  | revoke => "REVOKE"

/-- What a permission is for. -/
inductive MssqlTarget
  | database (name : String)
  | schema (name : String)
  | object (schemaName objectName : String)

/-- What `permissionScope` returns. -/
def MssqlTarget.text : MssqlTarget → String
  | database name => "ON DATABASE::" ++ bracket name
  | schema name => "ON SCHEMA::" ++ bracket name
  | object schemaName objectName => "ON OBJECT::" ++ bracket schemaName ++ "." ++ bracket objectName

inductive MssqlStatement
  | selectOne
  | createLogin (login password : String)
  | createUser (database login : String)
  | alterRole (database role : String) (add : Bool) (login : String)
  | applyPermission (database : String) (action : MssqlAction) (permission : String)
      (target : MssqlTarget) (login : String)
  | alterLogin (login : String) (enabled : Bool)
  | dropUser (database login : String)
  | dropLogin (login : String)
  | changePassword (login password : String)
  | getLogin (login : String)
  | searchLogins (pattern : String)
  | createRole (database role : String)
  | dropRole (database role : String)
  | getRole (database role : String)
  | searchRoles (database : String)

def MssqlStatement.text : MssqlStatement → String
  | selectOne => "SELECT 1 AS ok"
  | createLogin login password =>
    "CREATE LOGIN " ++ bracket login ++ " WITH PASSWORD = " ++ literal password ++
      ", CHECK_POLICY = ON"
  | createUser database login =>
    "USE " ++ bracket database ++ "; IF USER_ID(" ++ literal login ++ ") IS NULL CREATE USER " ++
      bracket login ++ " FOR LOGIN " ++ bracket login
  | alterRole database role add login =>
    "USE " ++ bracket database ++ "; ALTER ROLE " ++ bracket role ++
      (if add then " ADD" else " DROP") ++ " MEMBER " ++ bracket login
  | applyPermission database action permission target login =>
    "USE " ++ bracket database ++ "; " ++ action.text ++ " " ++ permission ++ " " ++ target.text ++
      (if action = .revoke then " FROM " else " TO ") ++ bracket login
  | alterLogin login enabled =>
    "ALTER LOGIN " ++ bracket login ++ (if enabled then " ENABLE" else " DISABLE")
  | dropUser database login =>
    "USE " ++ bracket database ++ "; IF USER_ID(" ++ literal login ++
      ") IS NOT NULL DROP USER " ++ bracket login
  | dropLogin login =>
    "IF SUSER_ID(" ++ literal login ++ ") IS NOT NULL DROP LOGIN " ++ bracket login
  | changePassword login password =>
    "ALTER LOGIN " ++ bracket login ++ " WITH PASSWORD = " ++ literal password
  | getLogin _ =>
    "SELECT name AS login, is_disabled AS isDisabled FROM sys.sql_logins WHERE name = @login"
  | searchLogins _ =>
    "SELECT TOP 200 name AS login, is_disabled AS isDisabled FROM sys.sql_logins WHERE name LIKE @prefix ORDER BY name"
  | createRole database role =>
    "USE " ++ bracket database ++ "; IF DATABASE_PRINCIPAL_ID(" ++ literal role ++
      ") IS NULL CREATE ROLE " ++ bracket role
  | dropRole database role =>
    "USE " ++ bracket database ++ "; IF DATABASE_PRINCIPAL_ID(" ++ literal role ++
      ") IS NOT NULL DROP ROLE " ++ bracket role
  | getRole database _ =>
    "USE " ++ bracket database ++
      "; SELECT name AS role FROM sys.database_principals WHERE type = 'R' AND name = @role"
  | searchRoles database =>
    "USE " ++ bracket database ++
      "; SELECT TOP 200 name AS role FROM sys.database_principals WHERE type = 'R' ORDER BY name"

/-- The values that are sent beside the text. -/
def MssqlStatement.inputs : MssqlStatement → List (String × String)
  | getLogin login => [("login", login)]
  | searchLogins pattern => [("prefix", pattern)]
  | getRole _ role => [("role", role)]
  | _ => []

/-! ### Requests -/

/-- What is asked of `mssql`; the connection string is made from the configuration. -/
inductive MssqlReq
  | connect (config : Json)
  | query (statement : MssqlStatement)
  | close

abbrev MssqlAns : MssqlReq → Type
  | .connect _ => Except JsError Unit
  -- the records
  | .query _ => Except JsError (List Json)
  | .close => Except JsError Unit

abbrev MssqlProg (α : Type) := Async JsError MssqlAns α

def query (statement : MssqlStatement) : MssqlProg (List Json) := await (.query statement) .settle

def exec (statement : MssqlStatement) : MssqlProg Unit := do
  let _ ← query statement
  pure ()

/-! ### Values -/

variable (js : Runtime)

def validateIdentifier (value label : String) : Except JsError String :=
  SqlAccounts.validateIdentifier 127 value label

def prefixedValue (value : String) (config : Json) (requireValid : Bool) (label : String) :
    Except JsError String :=
  let login := SqlAccounts.prefixed js "loginPrefix" config value
  if requireValid then validateIdentifier login label else .ok login

def login (data params config : Json) : Except JsError String :=
  match loginValue data params with
  | none => .error (.error "Missing login for MSSQL operation")
  | some value => prefixedValue js value config true "MSSQL login"

def password (data : Json) (required : Bool) : Except JsError String :=
  SqlAccounts.passwordValue "Missing password for MSSQL operation" data required

def roleName (data params : Json) : Except JsError String :=
  match SqlAccounts.roleValue data params with
  | none => .error (.error "Missing role for MSSQL operation")
  | some value => validateIdentifier value "MSSQL role"

def database (config data : Json) : Except JsError String :=
  validateIdentifier
    ((firstString [data.get? "database", config.get? "defaultDatabase"]).getD "master")
    "MSSQL database"

def roles (config data : Json) (includeDefaults : Bool) : Except JsError (List String) := do
  let roles ← SqlAccounts.requestedRoles js "defaultDatabaseRoles" config data includeDefaults
  roles.mapM (validateIdentifier · "MSSQL role")

structure NormalizedMssqlPermission where
  action : MssqlAction
  permission : String
  scope : String

def permissionAction : Option Json → Except JsError MssqlAction
  | some (.str "GRANT") => .ok .grant
  | some (.str "DENY") => .ok .deny
  | some (.str "REVOKE") => .ok .revoke
  | _ => .error (.error "Invalid MSSQL permission action")

/-- The two names of an object. -/
def objectNames (objectName : List Char) : List String :=
  (objectName.splitOn '.').map String.ofList

def permissionScopeValue (value : Option Json) : Except JsError String :=
  let scope := (firstString [value]).getD "DATABASE"
  if scope = "DATABASE" then .ok scope
  else match SqlAccounts.afterPrefix "SCHEMA::" scope.toList with
    | some name => do
      let _ ← validateIdentifier (String.ofList name) "MSSQL schema"
      pure scope
    | none =>
      match SqlAccounts.afterPrefix "OBJECT::" scope.toList with
      | some objectName =>
        if (objectNames objectName).length ≠ 2 then .error (.error "Invalid MSSQL object scope")
        else do
          let _ ← (objectNames objectName).mapM (validateIdentifier · "MSSQL object")
          pure scope
      | none => .error (.error "Invalid MSSQL permission scope")

def normalizedPermission (item : Json) : Except JsError NormalizedMssqlPermission :=
  match item with
  | .obj _ => do
    let action ← permissionAction (item.get? "action")
    let permission ← SqlAccounts.permissionName js "MSSQL" (item.get? "permission")
    let scope ← permissionScopeValue (item.get? "scope")
    pure ⟨action, permission, scope⟩
  | _ => .error (.error "Invalid MSSQL permission")

def permissions (config data : Json) (includeDefaults : Bool) :
    Except JsError (List NormalizedMssqlPermission) := do
  let permissions ← SqlAccounts.requestedPermissions config data includeDefaults
  permissions.mapM (normalizedPermission js)

/-- The scope is validated once more here. -/
def permissionScope (scope database : String) : Except JsError MssqlTarget := do
  let value ← permissionScopeValue (some (.str scope))
  if value = "DATABASE" then pure (.database database)
  else match SqlAccounts.afterPrefix "SCHEMA::" value.toList with
    | some name => pure (.schema (String.ofList name))
    | none =>
      match objectNames (value.toList.drop "OBJECT::".length) with
      | schemaName :: objectName :: _ => pure (.object schemaName objectName)
      | _ => throw (.error "value is undefined")

/-! ### Operations -/

def applyPermission (database login : String) (permission : NormalizedMssqlPermission) :
    MssqlProg Unit := do
  let target ← Async.ofExcept (permissionScope permission.scope database)
  exec (.applyPermission database permission.action permission.permission target login)

/-- A loop of awaited steps. -/
def forEach {α : Type} (step : α → MssqlProg Unit) : List α → MssqlProg Unit
  | [] => pure ()
  | item :: items => do
    step item
    forEach step items

def loginResult (login database : String) (rest : Settings) : Json :=
  .obj ([("login", .str login), ("database", .str database)] ++ rest)

def createLogin (config data : Json) : MssqlProg Json := do
  let login ← Async.ofExcept (login js data (.obj []) config)
  let password ← Async.ofExcept (password data true)
  let database ← Async.ofExcept (database config data)
  let enabled := !(data.get? "enabled" matches some (.bool false))
  exec (.createLogin login password)
  exec (.createUser database login)
  -- the roles are read here, and the permissions when every role is given
  let roles ← Async.ofExcept (roles js config data true)
  forEach (fun role => exec (.alterRole database role true login)) roles
  let permissions ← Async.ofExcept (permissions js config data true)
  forEach (applyPermission database login) permissions
  if !enabled then exec (.alterLogin login false)
  pure (loginResult login database [("enabled", .bool enabled)])

/-- `data.enabled`, if it is `true` or `false`. -/
def enabledFlag (data : Json) : Option Bool :=
  match data.get? "enabled" with
  | some (.bool enabled) => some enabled
  | _ => none

def setEnabled (login : String) : Option Bool → MssqlProg Unit
  | some enabled => exec (.alterLogin login enabled)
  | none => pure ()

def updateLogin (config data params : Json) : MssqlProg Json := do
  let login ← Async.ofExcept (login js data params config)
  let database ← Async.ofExcept (database config data)
  setEnabled login (enabledFlag data)
  let roles ← Async.ofExcept (roles js config data false)
  forEach (fun role => exec (.alterRole database role true login)) roles
  let permissions ← Async.ofExcept (permissions js config data false)
  forEach (applyPermission database login) permissions
  pure (loginResult login database [("changed",
    .bool ((enabledFlag data).isSome || !roles.isEmpty || !permissions.isEmpty))])

def deleteLogin (config data params : Json) : MssqlProg Json := do
  let login ← Async.ofExcept (login js data params config)
  let database ← Async.ofExcept (database config data)
  if !isTruthy (config.get? "physicalDeleteEnabled") then
    exec (.alterLogin login false)
    pure (.obj [("login", .str login), ("enabled", .bool false), ("deleted", .bool false)])
  else
    exec (.dropUser database login)
    exec (.dropLogin login)
    pure (loginResult login database [("deleted", .bool true)])

def setLoginEnabled (config data params : Json) (enabled : Bool) : MssqlProg Json := do
  let login ← Async.ofExcept (login js data params config)
  exec (.alterLogin login enabled)
  pure (.obj [("login", .str login), ("enabled", .bool enabled)])

def changePassword (config data params : Json) : MssqlProg Json := do
  let login ← Async.ofExcept (login js data params config)
  let password ← Async.ofExcept (password data true)
  exec (.changePassword login password)
  pure (.obj [("login", .str login), ("passwordChanged", .bool true)])

/-- `recordset[0] ?? null`. -/
def firstRecord (records : List Json) : Json := records.headD .null

def items (records : List Json) : Json :=
  .obj [("items", .arr records), ("total", .num records.length)]

def getLogin (config data params : Json) : MssqlProg Json := do
  let login ← Async.ofExcept (login js data params config)
  let records ← query (.getLogin login)
  pure (firstRecord records)

def searchLogins (config data : Json) : MssqlProg Json := do
  let pre ← Async.ofExcept
    (prefixedValue js ((data.getStr? "login").getD "") config false "MSSQL login")
  let records ← query (.searchLogins (pre ++ "%"))
  pure (items records)

def createRole (config data : Json) : MssqlProg Json := do
  let role ← Async.ofExcept (roleName data (.obj []))
  let database ← Async.ofExcept (database config data)
  exec (.createRole database role)
  pure (.obj [("role", .str role), ("database", .str database), ("created", .bool true)])

def deleteRole (config data params : Json) : MssqlProg Json := do
  let role ← Async.ofExcept (roleName data params)
  let database ← Async.ofExcept (database config data)
  if !isTruthy (config.get? "physicalRoleDeleteEnabled") then
    throw (.error "MSSQL DROP ROLE requires physicalRoleDeleteEnabled=true")
  else
    exec (.dropRole database role)
    pure (.obj [("role", .str role), ("database", .str database), ("deleted", .bool true)])

def setRoleMembership (config data params : Json) (add : Bool) : MssqlProg Json := do
  let login ← Async.ofExcept (login js data params config)
  let role ← Async.ofExcept (roleName data params)
  let database ← Async.ofExcept (database config data)
  exec (.alterRole database role add login)
  pure (.obj [("login", .str login), ("role", .str role), ("database", .str database),
    ("member", .bool add)])

def getRole (config data params : Json) : MssqlProg Json := do
  let role ← Async.ofExcept (roleName data params)
  let database ← Async.ofExcept (database config data)
  let records ← query (.getRole database role)
  pure (firstRecord records)

def searchRoles (config data : Json) : MssqlProg Json := do
  let database ← Async.ofExcept (database config data)
  let records ← query (.searchRoles database)
  pure (items records)

def schemaAttribute (name type : String) (required : Bool) : Json :=
  .obj [("name", .str name), ("type", .str type), ("required", .bool required)]

/-- `(await this.getSchema()).data`. -/
def schemaData : Json :=
  .obj [("objectClasses", .arr [
    .obj [("name", .str "user"), ("attributes", .arr [
      schemaAttribute "login" "string" true, schemaAttribute "password" "string" true,
      schemaAttribute "database" "string" false, schemaAttribute "roles" "array" false,
      schemaAttribute "permissions" "array" false, schemaAttribute "enabled" "boolean" false])],
    .obj [("name", .str "group"), ("attributes", .arr [schemaAttribute "name" "string" true])]])]

def executeWithPool (operation : String) (config data params : Json) : MssqlProg Json :=
  match operation with
  | "system.test" => do
    let _ ← query .selectOne
    pure (.obj [("reachable", .bool true)])
  | "schema.get" => pure schemaData
  | "user.create" => createLogin js config data
  | "user.update" => updateLogin js config data params
  | "user.delete" => deleteLogin js config data params
  | "user.disable" | "user.lock" => setLoginEnabled js config data params false
  | "user.enable" | "user.unlock" => setLoginEnabled js config data params true
  | "user.changePassword" => changePassword js config data params
  | "user.get" | "user.resolve" => getLogin js config data params
  | "user.search" | "sync.full" | "sync.incremental" => searchLogins js config data
  | "group.create" => createRole config data
  | "group.update" => do
    let role ← Async.ofExcept (roleName data params)
    pure (.obj [("role", .str role), ("changed", .bool false)])
  | "group.delete" => deleteRole config data params
  | "group.addMember" => setRoleMembership js config data params true
  | "group.removeMember" => setRoleMembership js config data params false
  | "group.get" => getRole config data params
  | "group.search" => searchRoles config data
  | operation => throw (.error s!"Unsupported MSSQL login operation: {operation}")

def close : MssqlProg Unit := await .close .settle

def execute (payload : ConnectorPayload) : MssqlProg ConnectorResult :=
  let data := payload.data
  let params := payload.params
  match payload.config.filter fun config => isTruthy (config.get? "connectionString") with
  | none => pure ⟨false, none, some "Missing MSSQL connectionString"⟩
  | some config => do
    await (.connect config) .settle
    ensuring
      (tryCatch (do
        let result ← executeWithPool js payload.operation config data params
        pure ⟨true, some result, none⟩) fun error =>
        pure ⟨false, none, some (js.safeConnectorErrorMessage error
          [some config, some data, some params])⟩)
      close

def testConnection (config : Json) : MssqlProg (Bool × String) :=
  if !isTruthy (config.get? "connectionString") then
    pure (false, "Missing MSSQL connectionString")
  else tryCatch (do
    await (.connect config) .settle
    ensuring (do
      let _ ← query .selectOne
      pure (true, "MSSQL login connection OK")) close) fun error =>
    pure (false, "MSSQL login connection failed: " ++
      js.safeConnectorErrorMessage error [some config])

end MssqlLoginConnectorService

end IdmMw
