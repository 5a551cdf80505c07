import IdmMw.Library.Async
import IdmMw.Model.Rbac

/-!
# Creating and updating roles

`AdminRbacService.createRole` and `updateRole`, with the statements that they run and what the
database makes of them.

* `RoleReq`: the requests to the database; any of them may fail;
* `createRole`, `updateRoleById`: the calls;
* `RoleDb`, `RoleServer`, `Answers`: the tables, and how requests are answered. What a transaction
  writes is seen when it is committed, and a request that fails ends it.

The id of a new role is made by the database (`uuid()`).
-/

namespace IdmMw

open Async

/-- A row of the table `AdminRole`, with its description. -/
structure StoredRole extends AdminRole where
  description : Option String

/-- The body of a creation. -/
structure NewRoleDto where
  code : String
  name : String
  description : Option (Option String)
  enabled : Option Bool
  permissions : Option (List ConnectorPermission)

/-- What a creation writes: the columns of the role, and its permissions. -/
structure RoleCreate where
  code : String
  name : String
  description : Option String
  enabled : Bool
  permissions : List ConnectorPermission

inductive RoleReq
  | roleCreate (data : RoleCreate)
  | roleFindUnique (id : String)
  | txBegin
  | statement (statement : AdminRbacService.RoleStatement)
  | txCommit

/-- The answers; a creation is answered with the id. -/
abbrev RoleAns : RoleReq → Type
  | .roleCreate _ => Except AdminError String
  | .roleFindUnique _ => Except AdminError (Option StoredRole)
  | .txBegin | .statement _ | .txCommit => Except AdminError Unit

abbrev RoleProg (α : Type) := Async AdminError RoleAns α

namespace AdminRbacService

/-- The id of the role that is created. -/
def createRole (dto : NewRoleDto) : RoleProg String := do
  Async.ofExcept (validateRole dto.code dto.name dto.permissions)
  let permissions ← Async.ofExcept (normalizedPermissions (dto.permissions.getD []))
  await (.roleCreate {
    code := trim dto.code
    name := trim dto.name
    description := dto.description.bind fun description => description.bind nonBlank
    enabled := dto.enabled.getD true
    permissions := permissions.map fun permission =>
      { permission with canRead := permission.canRead || permission.canWrite } }) .settle

/-- The id of the role that is updated. -/
def updateRoleById (id : String) (dto : RoleDto) : RoleProg String := do
  let current ← await (.roleFindUnique id) .settle
  let statements ← Async.ofExcept (updateRole (current.map StoredRole.toAdminRole) id dto)
  await .txBegin .settle
  statements.forM fun statement => await (.statement statement) .settle
  await .txCommit .settle
  pure id

end AdminRbacService

/-! ### The database -/

structure RoleDb where
  roles : List StoredRole
  permissions : List AdminRoleConnectorPermission

/-- The unique columns of a permission: of a role, one row for a type. -/
def AdminRoleConnectorPermission.ownerAndType (row : AdminRoleConnectorPermission) :
    String × String :=
  (row.roleId, row.connectorType)

def RoleCreate.row (data : RoleCreate) (id : String) : StoredRole where
  id := id
  code := data.code
  name := data.name
  enabled := data.enabled
  description := data.description

def AdminRbacService.RoleUpdate.apply (data : AdminRbacService.RoleUpdate) (row : StoredRole) :
    StoredRole :=
  { row with
    code := data.code.getD row.code
    name := data.name.getD row.name
    description := data.description.getD row.description
    enabled := data.enabled.getD row.enabled }

namespace RoleDb

/-- Insert permissions; none where one would be stored twice. -/
def insertPermissions (db : RoleDb) (rows : List AdminRoleConnectorPermission) : Option RoleDb :=
  let permissions := db.permissions ++ rows
  if (permissions.map AdminRoleConnectorPermission.ownerAndType).Nodup then
    some { db with permissions }
  else none

/-- Insert a role and its permissions. -/
def create (db : RoleDb) (id : String) (data : RoleCreate) : Option RoleDb :=
  if db.roles.any fun role => role.id = id || role.code = data.code then none
  else ({ db with roles := db.roles ++ [data.row id] } : RoleDb).insertPermissions
    (data.permissions.map (AdminRbacService.permissionRow id))

def execute (db : RoleDb) : AdminRbacService.RoleStatement → Option RoleDb
  | .permissionDeleteMany roleId =>
    some { db with permissions := db.permissions.filter (·.roleId ≠ roleId) }
  | .permissionCreateMany data => db.insertPermissions data
  | .roleUpdate id data =>
    let roles := db.roles.map fun role => if role.id = id then data.apply role else role
    if (db.roles.any fun role => role.id = id) ∧ (roles.map fun role => role.code).Nodup then
      some { db with roles }
    else none

end RoleDb

/-- The tables, and what an open transaction would make of them. -/
structure RoleServer where
  stored : RoleDb
  working : Option RoleDb

/-- How a request is answered. -/
inductive Answers : RoleServer → Event RoleAns → RoleServer → Prop
  | createFails {s : RoleServer} {data : RoleCreate} {e : AdminError} :
      Answers s ⟨.roleCreate data, .error e⟩ s
  | created {s : RoleServer} {data : RoleCreate} {id : String} {db : RoleDb}
      (h : s.stored.create id data = some db) :
      Answers s ⟨.roleCreate data, .ok id⟩ { s with stored := db }
  | findFails {s : RoleServer} {id : String} {e : AdminError} :
      Answers s ⟨.roleFindUnique id, .error e⟩ s
  | found {s : RoleServer} {id : String} :
      Answers s ⟨.roleFindUnique id, .ok (s.stored.roles.find? fun role => role.id = id)⟩ s
  | beginFails {s : RoleServer} {e : AdminError} : Answers s ⟨.txBegin, .error e⟩ s
  | began {s : RoleServer} : Answers s ⟨.txBegin, .ok ()⟩ { s with working := some s.stored }
  | statementFails {s : RoleServer} {statement : AdminRbacService.RoleStatement} {e : AdminError} :
      Answers s ⟨.statement statement, .error e⟩ { s with working := none }
  | executed {s : RoleServer} {statement : AdminRbacService.RoleStatement} {db db' : RoleDb}
      (hworking : s.working = some db) (h : db.execute statement = some db') :
      Answers s ⟨.statement statement, .ok ()⟩ { s with working := some db' }
  | commitFails {s : RoleServer} {e : AdminError} :
      Answers s ⟨.txCommit, .error e⟩ { s with working := none }
  | committed {s : RoleServer} {db : RoleDb} (hworking : s.working = some db) :
      Answers s ⟨.txCommit, .ok ()⟩ ⟨db, none⟩

/-- The requests of a call are answered one after another. -/
inductive Served : RoleServer → List (Event RoleAns) → RoleServer → Prop
  | nil {s : RoleServer} : Served s [] s
  | cons {s s' s'' : RoleServer} {e : Event RoleAns} {t : List (Event RoleAns)}
      (h : Answers s e s') (hrest : Served s' t s'') : Served s (e :: t) s''

end IdmMw
