import IdmMw.Model.SqlAccounts

/-!
# The connector for PostgreSQL roles

`PostgresRoleConnectorService`: roles of a server that may log in, and roles that stand for groups.

* `PostgresStatement`: the statements, and their texts;
* `PostgresReq`: what the connector asks of `pg`: of the pool, or of a client that it acquired;
* the values of a payload and of a configuration that make up a statement, with the policies for roles
  and permissions;
* the operations, of which two run in a transaction, and `execute`, which the middleware calls.
-/

namespace IdmMw

open Async

namespace PostgresRoleConnectorService

/-! ### Statements -/

def ident (value : String) : String := String.ofList
  ('"' :: value.toList.flatMap (fun c => if c = '"' then ['"', '"'] else [c]) ++ ['"'])

def literal (value : String) : String := String.ofList
  ('\'' :: value.toList.flatMap (fun c => if c = '\'' then ['\'', '\''] else [c]) ++ ['\''])

inductive PostgresAction
  | grant
  | revoke
  deriving DecidableEq

def PostgresAction.text : PostgresAction → String
  | grant => "GRANT"
  | revoke => "REVOKE"

/-- The keyword before the role that a privilege is for. -/
def PostgresAction.principalKeyword : PostgresAction → String
  | grant => "TO"
  | revoke => "FROM"

inductive ObjectKind
  | table
  | sequence
  | function
  deriving DecidableEq

def ObjectKind.keyword : ObjectKind → String
  | table => "TABLE"
  | sequence => "SEQUENCE"
  | function => "FUNCTION"

/-- What a privilege is for. -/
inductive PostgresTarget
  | database (name : String)
  | schema (name : String)
  | object (kind : ObjectKind) (schemaName objectName : String)

/-- What `permissionScope` returns. -/
def PostgresTarget.text : PostgresTarget → String
  | database name => "ON DATABASE " ++ ident name
  | schema name => "ON SCHEMA " ++ ident name
  | object kind schemaName objectName =>
    "ON " ++ kind.keyword ++ " " ++ ident schemaName ++ "." ++ ident objectName

inductive PostgresStatement
  | begin
  | commit
  | rollback
  | selectOne
  | createRole (login : String) (canLogin : Bool) (password : String)
  | setMembership (action : PostgresAction) (role login : String)
  | applyPermission (action : PostgresAction) (permission : String) (target : PostgresTarget)
      (login : String)
  | alterLogin (login : String) (enabled : Bool)
  | dropRole (role : String)
  | changePassword (login password : String)
  | getRole (login : String)
  | searchRoles (pattern : String)
  | createGroupRole (role : String)
  | getGroupRole (role : String)
  | searchGroupRoles (pattern : Option String)
  | currentDatabase

def PostgresStatement.text : PostgresStatement → String
  | begin => "BEGIN"
  | commit => "COMMIT"
  | rollback => "ROLLBACK"
  | selectOne => "SELECT 1"
  | createRole login canLogin password =>
    "CREATE ROLE " ++ ident login ++ (if canLogin then " LOGIN" else " NOLOGIN") ++ " PASSWORD " ++
      literal password
  | setMembership action role login =>
    action.text ++ " " ++ ident role ++ " " ++ action.principalKeyword ++ " " ++ ident login
  | applyPermission action permission target login =>
    action.text ++ " " ++ permission ++ " " ++ target.text ++ " " ++ action.principalKeyword ++
      " " ++ ident login
  | alterLogin login enabled =>
    "ALTER ROLE " ++ ident login ++ (if enabled then " LOGIN" else " NOLOGIN")
  | dropRole role => "DROP ROLE " ++ ident role
  | changePassword login password =>
    "ALTER ROLE " ++ ident login ++ " PASSWORD " ++ literal password
  | getRole _ =>
    "SELECT rolname AS login, rolcanlogin AS \"canLogin\" FROM pg_roles WHERE rolname = $1"
  | searchRoles _ =>
    "SELECT rolname AS login, rolcanlogin AS \"canLogin\" FROM pg_roles WHERE rolname LIKE $1 ORDER BY rolname LIMIT 200"
  | createGroupRole role => "CREATE ROLE " ++ ident role ++ " NOLOGIN"
  | getGroupRole _ =>
    "SELECT rolname AS role FROM pg_roles WHERE rolcanlogin = false AND rolname = $1"
  | searchGroupRoles none =>
    "SELECT rolname AS role FROM pg_roles WHERE rolcanlogin = false ORDER BY rolname LIMIT 200"
  | searchGroupRoles (some _) =>
    "SELECT rolname AS role FROM pg_roles WHERE rolcanlogin = false AND rolname LIKE $1 ORDER BY rolname LIMIT 200"
  | currentDatabase => "SELECT current_database() AS database"

/-- The values that are sent beside the text. -/
def PostgresStatement.values : PostgresStatement → List String
  | getRole value | searchRoles value | getGroupRole value | searchGroupRoles (some value) => [value]
  | _ => []

/-! ### Requests -/

/-- What is asked of `pg`: a statement goes to a client that was acquired, or to the pool, which
takes any client for it. -/
inductive PostgresReq
  | createPool (config : Json)
  | connect
  | query (client : Option ℕ) (statement : PostgresStatement)
  | release (client : ℕ)
  | endPool

abbrev PostgresAns : PostgresReq → Type
  | .createPool _ => Except JsError Unit
  | .connect => Except JsError ℕ
  -- the rows
  | .query _ _ => Except JsError (List Json)
  | .release _ => Unit
  | .endPool => Except JsError Unit

abbrev PostgresProg (α : Type) := Async JsError PostgresAns α

def query (client : Option ℕ) (statement : PostgresStatement) : PostgresProg (List Json) :=
  await (.query client statement) .settle

/-- A statement whose rows are of no interest. -/
def exec (client : Option ℕ) (statement : PostgresStatement) : PostgresProg Unit := do
  let _ ← query client statement
  pure ()

def release (client : ℕ) : PostgresProg Unit := await (.release client) fun a => .settle (.ok a)

/-! ### Values -/

variable (js : Runtime)

def validateIdentifier (value label : String) : Except JsError String :=
  SqlAccounts.validateIdentifier 62 value label

def prefixedValue (value : String) (config : Json) (requireValid : Bool) : Except JsError String :=
  let login := SqlAccounts.prefixed js "rolePrefix" config value
  if requireValid && !SqlAccounts.isIdentifier 62 login.toList then
    .error (.error "Invalid PostgreSQL role login")
  else .ok login

def login (data params config : Json) : Except JsError String :=
  match loginValue data params with
  | none => .error (.error "Missing login for PostgreSQL role operation")
  | some value => prefixedValue js value config true

def password (data : Json) (required : Bool) : Except JsError String :=
  SqlAccounts.passwordValue "Missing password for PostgreSQL role operation" data required

inductive RolePolicyMode
  | managedNamespace
  | idmFullControl
  deriving DecidableEq

def rolePolicyMode (config : Json) : RolePolicyMode :=
  if config.getStr? "rolePolicyMode" = some "idm-full-control" then .idmFullControl
  else .managedNamespace

inductive PermissionPolicyMode
  | disabled
  | managedAllowlist
  | idmFullControl
  deriving DecidableEq

def permissionPolicyMode (config : Json) : PermissionPolicyMode :=
  if config.getStr? "permissionPolicyMode" = some "disabled" then .disabled
  else if config.getStr? "permissionPolicyMode" = some "idm-full-control" then .idmFullControl
  else .managedAllowlist

def managedRolePrefix (config : Json) : String :=
  (firstString [config.get? "managedRolePrefix", config.get? "rolePrefix"]).getD "idm_"

/-- `role.startsWith(prefix)`. -/
def startsWith (role pre : String) : Bool := pre.toList.isPrefixOf role.toList

def roleName (data params config : Json) : Except JsError String :=
  match SqlAccounts.roleValue data params with
  | none => .error (.error "Missing role for PostgreSQL group operation")
  | some value => do
    let role ← validateIdentifier value "PostgreSQL group role"
    if rolePolicyMode config ≠ .idmFullControl ∧ ¬ startsWith role (managedRolePrefix config) then
      throw (.error "PostgreSQL group role is outside managed namespace")
    else pure role

def validateGrantRole (config : Json) (role : String) : Except JsError String := do
  let validated ← validateIdentifier role "PostgreSQL grant role"
  if rolePolicyMode config = .idmFullControl then pure validated
  else if ¬ startsWith validated (managedRolePrefix config) then
    throw (.error "PostgreSQL grant role is outside managed namespace")
  else pure validated

def roles (config data : Json) (includeDefaults : Bool) : Except JsError (List String) := do
  let roles ← SqlAccounts.requestedRoles js "defaultRoles" config data includeDefaults
  roles.mapM (validateGrantRole config)

structure NormalizedPostgresPermission where
  action : PostgresAction
  permission : String
  scope : String
  deriving DecidableEq

def permissionAction : Option Json → Except JsError PostgresAction
  | some (.str "GRANT") => .ok .grant
  | some (.str "REVOKE") => .ok .revoke
  | _ => .error (.error "Invalid PostgreSQL permission action")

/-- The two names of an object. -/
def objectNames (identifier : List Char) : List String :=
  (identifier.splitOn '.').map String.ofList

/-- The prefixes of the scopes that name an object, with what they stand for. -/
def objectScopes : List (String × ObjectKind) :=
  [("TABLE::", .table), ("SEQUENCE::", .sequence), ("FUNCTION::", .function)]

/-- The first of the prefixes that the scope has, and what follows it. -/
def objectScope (scope : String) : Option (ObjectKind × List Char) :=
  objectScopes.findSome? fun (pre, kind) =>
    (SqlAccounts.afterPrefix pre scope.toList).map fun identifier => (kind, identifier)

/-- `prefix.slice(0, -2).toLowerCase()`. -/
def ObjectKind.lowerCase : ObjectKind → String
  | table => "table"
  | sequence => "sequence"
  | function => "function"

def permissionScopeValue (value : Option Json) : Except JsError String :=
  let scope := (firstString [value]).getD "DATABASE"
  if scope = "DATABASE" then .ok scope
  else match SqlAccounts.afterPrefix "SCHEMA::" scope.toList with
    | some name => do
      let _ ← validateIdentifier (String.ofList name) "PostgreSQL schema"
      pure scope
    | none =>
      match objectScope scope with
      | some (kind, identifier) =>
        if (objectNames identifier).length ≠ 2 then
          .error (.error s!"Invalid PostgreSQL {kind.lowerCase} scope")
        else do
          let _ ← (objectNames identifier).mapM
            (validateIdentifier · "PostgreSQL permission scope")
          pure scope
      | none => .error (.error "Invalid PostgreSQL permission scope")

/-- The fields of an item, whatever the item is. -/
def normalizedFields (item : Json) : Except JsError NormalizedPostgresPermission := do
  let action ← permissionAction (item.get? "action")
  let permission ← SqlAccounts.permissionName js "PostgreSQL" (item.get? "permission")
  let scope ← permissionScopeValue (item.get? "scope")
  pure ⟨action, permission, scope⟩

def normalizedPermission (item : Json) : Except JsError NormalizedPostgresPermission :=
  match item with
  | .obj _ => normalizedFields js item
  | _ => .error (.error "Invalid PostgreSQL permission")

def permissionKey (permission : NormalizedPostgresPermission) : String :=
  permission.action.text ++ ":" ++ permission.permission ++ ":" ++ permission.scope

/-- The permissions that the configuration allows. -/
def allowedPermissions (config : Json) : Except JsError (List NormalizedPostgresPermission) := do
  let defaults ← spread (config.get? "defaultPermissions")
  let allowed ← spread (config.get? "allowedPermissions")
  ((defaults ++ allowed).filter Json.truthy).mapM (normalizedFields js)

def validatePermissionPolicy (config : Json) (permission : NormalizedPostgresPermission) :
    Except JsError NormalizedPostgresPermission :=
  match permissionPolicyMode config with
  | .idmFullControl => .ok permission
  | .disabled =>
    .error (.error "PostgreSQL permissions are disabled for this target system")
  | .managedAllowlist => do
    let allowed ← allowedPermissions js config
    if (allowed.map permissionKey).contains (permissionKey permission) then pure permission
    else throw (.error "PostgreSQL permission is outside managed allowlist")

def permissions (config data : Json) (includeDefaults : Bool) :
    Except JsError (List NormalizedPostgresPermission) := do
  let permissions ← SqlAccounts.requestedPermissions config data includeDefaults
  let normalized ← permissions.mapM (normalizedPermission js)
  normalized.mapM (validatePermissionPolicy js config)

/-! ### Scopes -/

/-- The database of the configuration, or the one that the client is connected to. -/
def database (client : Option ℕ) (config : Json) : PostgresProg String :=
  match firstString [config.get? "defaultDatabase"] with
  | some configured => Async.ofExcept (validateIdentifier configured "PostgreSQL database")
  | none => do
    let rows ← query client .currentDatabase
    match firstString [rows.head?.bind (·.get? "database")] with
    | none => throw (.error "Unable to resolve PostgreSQL current database")
    | some value => Async.ofExcept (validateIdentifier value "PostgreSQL database")

def permissionScope (client : Option ℕ) (config : Json) (scope : String) :
    PostgresProg PostgresTarget :=
  if scope = "DATABASE" then do
    let name ← database client config
    pure (.database name)
  else match SqlAccounts.afterPrefix "SCHEMA::" scope.toList with
    | some name => pure (.schema (String.ofList name))
    | none =>
      match objectScope scope with
      | some (kind, identifier) =>
        match objectNames identifier with
        | schemaName :: objectName :: _ => pure (.object kind schemaName objectName)
        | _ => throw (.error "value is undefined")
      | none => throw (.error "Invalid PostgreSQL permission scope")

/-! ### Operations -/

def applyPermission (client : Option ℕ) (config : Json) (login : String)
    (permission : NormalizedPostgresPermission) : PostgresProg Unit := do
  let target ← permissionScope client config permission.scope
  exec client (.applyPermission permission.action permission.permission target login)

/-- A loop of awaited steps. -/
def forEach {α : Type} (step : α → PostgresProg Unit) : List α → PostgresProg Unit
  | [] => pure ()
  | item :: items => do
    step item
    forEach step items

def withTransaction {α : Type} (work : ℕ → PostgresProg α) : PostgresProg α := do
  let client ← await .connect .settle
  ensuring
    (tryCatch (do
      exec (some client) .begin
      let result ← work client
      exec (some client) .commit
      pure result) fun error => do
      exec (some client) .rollback
      throw error)
    (release client)

/-- The roles and the permissions that an account gets. -/
def grantAll (client : ℕ) (config : Json) (login : String) (roles : List String)
    (permissions : List NormalizedPostgresPermission) : PostgresProg Unit := do
  forEach (fun role => exec (some client) (.setMembership .grant role login)) roles
  forEach (applyPermission (some client) config login) permissions

def createRole (config data : Json) : PostgresProg Json := do
  let login ← Async.ofExcept (login js data (.obj []) config)
  let password ← Async.ofExcept (password data true)
  let canLogin := !(config.get? "defaultLogin" matches some (.bool false))
  let roles ← Async.ofExcept (roles js config data true)
  let permissions ← Async.ofExcept (permissions js config data true)
  withTransaction fun client => do
    exec (some client) (.createRole login canLogin password)
    grantAll client config login roles permissions
  pure (.obj [("login", .str login), ("enabled", .bool canLogin)])

/-- `data.enabled`, if it is `true` or `false`. -/
def enabledFlag (data : Json) : Option Bool :=
  match data.get? "enabled" with
  | some (.bool enabled) => some enabled
  | _ => none

def setEnabled (client : ℕ) (login : String) : Option Bool → PostgresProg Unit
  | some enabled => exec (some client) (.alterLogin login enabled)
  | none => pure ()

def updateRole (config data params : Json) : PostgresProg Json := do
  let login ← Async.ofExcept (login js data params config)
  let roles ← Async.ofExcept (roles js config data false)
  let permissions ← Async.ofExcept (permissions js config data false)
  withTransaction fun client => do
    setEnabled client login (enabledFlag data)
    grantAll client config login roles permissions
  pure (.obj ([("login", .str login)] ++
    (enabledFlag data).toList.map (fun enabled => ("enabled", .bool enabled)) ++
    [("changed", .bool ((enabledFlag data).isSome || !roles.isEmpty || !permissions.isEmpty))]))

def deleteRole (config data params : Json) : PostgresProg Json := do
  let login ← Async.ofExcept (login js data params config)
  if isTruthy (config.get? "physicalDeleteEnabled") then
    exec none (.dropRole login)
    pure (.obj [("login", .str login), ("deleted", .bool true)])
  else
    exec none (.alterLogin login false)
    pure (.obj [("login", .str login), ("enabled", .bool false), ("deleted", .bool false)])

def setLogin (config data params : Json) (enabled : Bool) : PostgresProg Json := do
  let login ← Async.ofExcept (login js data params config)
  exec none (.alterLogin login enabled)
  pure (.obj [("login", .str login), ("enabled", .bool enabled)])

def changePassword (config data params : Json) : PostgresProg Json := do
  let login ← Async.ofExcept (login js data params config)
  let password ← Async.ofExcept (password data true)
  exec none (.changePassword login password)
  pure (.obj [("login", .str login), ("passwordChanged", .bool true)])

/-- `rows[0] ?? null`. -/
def firstRow (rows : List Json) : Json := rows.headD .null

def items (rows : List Json) : Json :=
  .obj [("items", .arr rows), ("total", .num rows.length)]

def getRole (config data params : Json) : PostgresProg Json := do
  let login ← Async.ofExcept (login js data params config)
  let rows ← query none (.getRole login)
  pure (firstRow rows)

def searchRoles (config data : Json) : PostgresProg Json := do
  let pre ← Async.ofExcept (prefixedValue js ((data.getStr? "login").getD "") config false)
  let rows ← query none (.searchRoles (pre ++ "%"))
  pure (items rows)

def createGroupRole (config data : Json) : PostgresProg Json := do
  let role ← Async.ofExcept (roleName data (.obj []) config)
  exec none (.createGroupRole role)
  pure (.obj [("role", .str role), ("created", .bool true)])

def deleteGroupRole (config data params : Json) : PostgresProg Json := do
  let role ← Async.ofExcept (roleName data params config)
  if !isTruthy (config.get? "physicalRoleDeleteEnabled") then
    throw (.error "PostgreSQL DROP ROLE requires physicalRoleDeleteEnabled=true")
  else
    exec none (.dropRole role)
    pure (.obj [("role", .str role), ("deleted", .bool true)])

def setGroupMembership (config data params : Json) (add : Bool) : PostgresProg Json := do
  let login ← Async.ofExcept (login js data params config)
  let role ← Async.ofExcept (roleName data params config)
  exec none (.setMembership (if add then .grant else .revoke) role login)
  pure (.obj [("login", .str login), ("role", .str role), ("member", .bool add)])

def getGroupRole (config data params : Json) : PostgresProg Json := do
  let role ← Async.ofExcept (roleName data params config)
  let rows ← query none (.getGroupRole role)
  pure (firstRow rows)

def searchGroupRoles (config : Json) : PostgresProg Json := do
  let rows ← query none (.searchGroupRoles
    (if rolePolicyMode config = .idmFullControl then none
      else some (managedRolePrefix config ++ "%")))
  pure (items rows)

def schemaAttribute (name type : String) (required multiValued : Bool) : Json :=
  .obj [("name", .str name), ("type", .str type), ("required", .bool required),
    ("multiValued", .bool multiValued)]

/-- `(await this.getSchema()).data`. -/
def schemaData : Json :=
  .obj [("objectClasses", .arr [
    .obj [("name", .str "user"), ("attributes", .arr [
      schemaAttribute "login" "string" true false, schemaAttribute "password" "string" true false,
      schemaAttribute "roles" "array" false true,
      schemaAttribute "permissions" "array" false true,
      schemaAttribute "enabled" "boolean" false false])],
    .obj [("name", .str "group"), ("attributes", .arr [
      .obj [("name", .str "name"), ("type", .str "string"), ("required", .bool true)]])]])]

def executeWithPool (operation : String) (config data params : Json) : PostgresProg Json :=
  match operation with
  | "system.test" => do
    let _ ← query none .selectOne
    pure (.obj [("reachable", .bool true)])
  | "schema.get" => pure schemaData
  | "user.create" => createRole js config data
  | "user.update" => updateRole js config data params
  | "user.delete" => deleteRole js config data params
  | "user.disable" | "user.lock" => setLogin js config data params false
  | "user.enable" | "user.unlock" => setLogin js config data params true
  | "user.changePassword" => changePassword js config data params
  | "user.get" | "user.resolve" => getRole js config data params
  | "user.search" | "sync.full" | "sync.incremental" => searchRoles js config data
  | "group.create" => createGroupRole config data
  | "group.update" => throw (.error "Unsupported PostgreSQL role operation: group.update")
  | "group.delete" => deleteGroupRole config data params
  | "group.addMember" => setGroupMembership js config data params true
  | "group.removeMember" => setGroupMembership js config data params false
  | "group.get" => getGroupRole config data params
  | "group.search" => searchGroupRoles config
  | operation => throw (.error s!"Unsupported PostgreSQL role operation: {operation}")

def endPool : PostgresProg Unit := await .endPool .settle

def execute (payload : ConnectorPayload) : PostgresProg ConnectorResult :=
  let data := payload.data
  let params := payload.params
  match payload.config.filter fun config => isTruthy (config.get? "connectionString") with
  | none => pure ⟨false, none, some "Missing PostgreSQL connectionString"⟩
  | some config => do
    await (.createPool config) .settle
    ensuring
      (tryCatch (do
        let result ← executeWithPool js payload.operation config data params
        pure ⟨true, some result, none⟩) fun error =>
        pure ⟨false, none, some (js.safeConnectorErrorMessage error
          [some config, some data, some params])⟩)
      endPool

def testConnection (config : Json) : PostgresProg (Bool × String) :=
  if !isTruthy (config.get? "connectionString") then
    pure (false, "Missing PostgreSQL connectionString")
  else do
    await (.createPool config) .settle
    ensuring
      (tryCatch (do
        let _ ← query none .selectOne
        pure (true, "PostgreSQL role connection OK")) fun error =>
        pure (false, "PostgreSQL role connection failed: " ++
          js.safeConnectorErrorMessage error [some config]))
      endPool

end PostgresRoleConnectorService

end IdmMw
