import IdmMw.Model.Admin
import IdmMw.Model.TargetSystems

/-!
# Permissions of administrators

`AdminRbacService`: what the roles of a session's groups permit, by type of connector; and the
endpoints of the dead letter queue in `AdminController`, which ask it.

The services read one state of the tables (`AdminTables`). The orders that do not belong to the
program, the collation of the database and `localeCompare`, are parameters (`Collation`).
-/

namespace IdmMw

/-! ### Sessions -/

inductive AdminAuthProvider
  | local
  | headerSso
  | oidc
  | saml
  | disabled
  deriving DecidableEq

structure AdminUserSession where
  sub : String
  name : String
  provider : AdminAuthProvider
  groups : Option (List String)
  csrfToken : String
  expiresAt : ℚ

/-! ### Tables -/

/-- A row of the table `AdminRole`. -/
structure AdminRole where
  id : String
  code : String
  name : String
  enabled : Bool

/-- A row of the table `AdminRoleConnectorPermission`. -/
structure AdminRoleConnectorPermission where
  roleId : String
  connectorType : String
  canRead : Bool
  canWrite : Bool

/-- A row of the table `AdminGroupRoleMapping`. -/
structure AdminGroupRoleMapping where
  idpGroup : String
  roleId : String
  enabled : Bool

/-- The tables behind the permissions; an id names one role, a name one target system. -/
structure AdminTables where
  roles : List AdminRole
  permissions : List AdminRoleConnectorPermission
  mappings : List AdminGroupRoleMapping
  targetSystems : List TargetSystem
  dlqItems : List DlqItem
  roles_nodup : (roles.map AdminRole.id).Nodup
  targetSystems_nodup : (targetSystems.map TargetSystem.name).Nodup
  dlqItems_nodup : (dlqItems.map DlqItem.id).Nodup

/-- The order of `orderBy` on a text column, and `a.localeCompare(b)`. -/
structure Collation where
  asc : String → String → Bool
  localeCompare : String → String → Ordering

/-- `array.sort((a, b) => text(a).localeCompare(text(b)))`. -/
def Collation.sort {α : Type} (collation : Collation) (text : α → String) (xs : List α) : List α :=
  xs.mergeSort fun a b => (collation.localeCompare (text a) (text b)).isLE

/-! ### `AdminRbacService` -/

structure ConnectorPermission where
  connectorType : String
  canRead : Bool
  canWrite : Bool

/-- A role, as the permissions of a session name it. -/
structure RoleName where
  id : String
  code : String
  name : String

structure EffectiveAdminPermissions where
  superadmin : Bool
  provider : AdminAuthProvider
  groups : List String
  roles : List RoleName
  permissions : List ConnectorPermission

inductive Access
  | read
  | write
  deriving DecidableEq

/-- The permission lets the holder read, or write. -/
def ConnectorPermission.allows (permission : ConnectorPermission) : Access → Bool
  | .read => permission.canRead || permission.canWrite
  | .write => permission.canWrite

namespace AdminRbacService

def isSuperadminSession (session : AdminUserSession) : Bool :=
  session.provider = .local || session.provider = .disabled

section Queries

variable (db : AdminTables) (collation : Collation)

/-- The mappings that `adminGroupRoleMapping.findMany` answers with, each with its role. -/
def enabledMappings (groups : List String) : List (AdminGroupRoleMapping × AdminRole) :=
  ((db.mappings.mergeSort fun a b => collation.asc a.idpGroup b.idpGroup).filter fun mapping =>
    mapping.enabled && groups.contains mapping.idpGroup).filterMap fun mapping =>
      ((db.roles.find? (·.id = mapping.roleId)).filter (·.enabled)).map fun role => (mapping, role)

/-- The included permissions of a role. -/
def rolePermissions (role : AdminRole) : List AdminRoleConnectorPermission :=
  db.permissions.filter (·.roleId = role.id)

end Queries

/-- One turn of the inner loop on `permissionMap`. -/
def addPermission (permissionMap : List (String × ConnectorPermission))
    (permission : AdminRoleConnectorPermission) : List (String × ConnectorPermission) :=
  let current := (permissionMap.lookup permission.connectorType).getD
    { connectorType := permission.connectorType, canRead := false, canWrite := false }
  OrderedMap.set permissionMap permission.connectorType
    { current with
      canRead := current.canRead || permission.canRead || permission.canWrite
      canWrite := current.canWrite || permission.canWrite }

section Service

variable (db : AdminTables) (collation : Collation) (session : AdminUserSession)

def effectivePermissions : EffectiveAdminPermissions :=
  if isSuperadminSession session then
    { superadmin := true, provider := session.provider, groups := session.groups.getD [],
      roles := [{ id := "builtin-superadmin", code := "superadmin", name := "Superadmin" }],
      permissions := [] }
  else
    let groups := (session.groups.getD []).eraseDups
    if groups.isEmpty then
      { superadmin := false, provider := session.provider, groups, roles := [], permissions := [] }
    else
      let mappings := enabledMappings db collation groups
      let roleMap := mappings.foldl (fun roleMap (_, role) =>
        OrderedMap.set roleMap role.id (RoleName.mk role.id role.code role.name)) []
      let permissionMap := mappings.foldl (fun permissionMap (_, role) =>
        (rolePermissions db role).foldl addPermission permissionMap) []
      { superadmin := false, provider := session.provider, groups,
        roles := collation.sort RoleName.code (roleMap.map Prod.snd)
        permissions := collation.sort ConnectorPermission.connectorType
          (permissionMap.map Prod.snd) }

def canRead (connectorType : String) : Bool :=
  let effective := effectivePermissions db collation session
  effective.superadmin || effective.permissions.any fun permission =>
    permission.connectorType = connectorType && (permission.canRead || permission.canWrite)

def canWrite (connectorType : String) : Bool :=
  let effective := effectivePermissions db collation session
  effective.superadmin || effective.permissions.any fun permission =>
    permission.connectorType = connectorType && permission.canWrite

def assertRead (connectorType : String) : Except AdminError Unit :=
  if canRead db collation session connectorType then .ok ()
  else .error (.forbidden s!"Missing read permission for {connectorType}")

def allowedConnectorTypes (access : Access) : Option (List String) :=
  let effective := effectivePermissions db collation session
  if effective.superadmin then none
  else some ((effective.permissions.filter (·.allows access)).map ConnectorPermission.connectorType)

def connectorTypeByTargetSystemName (name : String) : Except AdminError String :=
  match db.targetSystems.find? (·.name = name) with
  | none => .error (.notFound "TargetSystem not found")
  | some item => .ok item.type

def targetSystemNamesForAccess (access : Access) : Option (List String) :=
  match allowedConnectorTypes db collation session access with
  | none => none
  | some [] => some []
  | some allowedTypes =>
    some ((db.targetSystems.filter fun item => allowedTypes.contains item.type).map
      TargetSystem.name)

end Service

/-! ### Updating a role -/

/-- The body of an update: the fields that it names. A description may be taken away. -/
structure RoleDto where
  code : Option String
  name : Option String
  description : Option (Option String)
  enabled : Option Bool
  permissions : Option (List ConnectorPermission)

/-- The columns that an update of a role writes. -/
structure RoleUpdate where
  code : Option String
  name : Option String
  description : Option (Option String)
  enabled : Option Bool

/-- The statements of the transaction of an update. -/
inductive RoleStatement
  | permissionDeleteMany (roleId : String)
  | permissionCreateMany (data : List AdminRoleConnectorPermission)
  | roleUpdate (id : String) (data : RoleUpdate)

/-- One turn of the loop on `map`. -/
def addNormalized (map : List (String × ConnectorPermission)) (permission : ConnectorPermission) :
    Except AdminError (List (String × ConnectorPermission)) :=
  let connectorType := trim permission.connectorType
  if isCode (trimmed permission.connectorType) then
    let current := (map.lookup connectorType).getD
      { connectorType, canRead := false, canWrite := false }
    .ok (OrderedMap.set map connectorType
      { current with
        canRead := current.canRead || permission.canRead || permission.canWrite
        canWrite := current.canWrite || permission.canWrite })
  else .error (.badRequest "Invalid connector type permission")

def normalizedPermissions (permissions : List ConnectorPermission) :
    Except AdminError (List ConnectorPermission) :=
  (permissions.foldlM addNormalized []).map fun map => map.map Prod.snd

def validateRole (code name : String) (permissions : Option (List ConnectorPermission)) :
    Except AdminError Unit := do
  if !isCode (trimmed code) then throw (.badRequest "Invalid role code")
  if (nonBlank name).isNone then throw (.badRequest "Missing role name")
  let _ ← normalizedPermissions (permissions.getD [])

/-- The row of a submitted permission. -/
def permissionRow (id : String) (permission : ConnectorPermission) :
    AdminRoleConnectorPermission where
  roleId := id
  connectorType := permission.connectorType
  canRead := permission.canRead || permission.canWrite
  canWrite := permission.canWrite

/-- The transaction of an update that finds the role `current`. -/
def updateRole (current : Option AdminRole) (id : String) (dto : RoleDto) :
    Except AdminError (List RoleStatement) :=
  match current with
  | none => .error (.notFound "Admin role not found")
  | some current => do
    validateRole (dto.code.getD current.code) (dto.name.getD current.name) dto.permissions
    let replacement ← match dto.permissions with
      | none => pure []
      | some submitted => do
        let permissions ← normalizedPermissions submitted
        pure (.permissionDeleteMany id ::
          if permissions.length > 0 then [.permissionCreateMany (permissions.map (permissionRow id))]
          else [])
    pure (replacement ++ [.roleUpdate id {
      code := dto.code.map trim
      name := dto.name.map trim
      description := dto.description.map (·.bind nonBlank)
      enabled := dto.enabled }])

end AdminRbacService

/-! ### The endpoints of the dead letter queue -/

/-- A listed item: the row, with its payload decoded. -/
structure DlqItemView where
  item : DlqItem
  payload : Json

/-- The filters of the listing; an absent list allows every target system. -/
structure DlqListing where
  status : Option String
  targetSystem : Option String
  allowedTargetSystems : Option (List String)

/-- The `where` of the listing. An empty text filters nothing. -/
def DlqListing.selects (params : DlqListing) (item : DlqItem) : Bool :=
  (match params.status.filter (· ≠ "") with
    | some status => item.status.text == status
    | none => true) &&
  (match params.targetSystem.filter (· ≠ "") with
    | some targetSystem => item.targetSystem == targetSystem
    | none =>
      match params.allowedTargetSystems with
      | some allowed => allowed.contains item.targetSystem
      | none => true)

namespace AdminService

variable (app : App) (db : AdminTables)

/-- The item, with its payload decoded. -/
def dlqItemView (item : DlqItem) : Except AdminError DlqItemView :=
  match JsonHelper.fromJson app item.payload with
  | .ok payload => .ok { item, payload }
  | .error e => .error (.error e)

/-- All pages of the listing. -/
def findDlqItems (params : DlqListing) : Except AdminError (List DlqItemView) :=
  if params.allowedTargetSystems = some [] then .ok []
  else (db.dlqItems.filter params.selects).mapM (dlqItemView app)

def findDlqItemTargetSystem (id : String) : Option String :=
  (db.dlqItems.find? (·.id = id)).map DlqItem.targetSystem

end AdminService

namespace AdminController

variable (app : App) (db : AdminTables) (collation : Collation) (session : AdminUserSession)

/-- `rbac.assertRead(session, await rbac.connectorTypeByTargetSystemName(targetSystem))`. -/
def assertTargetSystemRead (targetSystem : String) : Except AdminError Unit := do
  let connectorType ← AdminRbacService.connectorTypeByTargetSystemName db targetSystem
  AdminRbacService.assertRead db collation session connectorType

def getDlq (status targetSystem : Option String) : Except AdminError (List DlqItemView) :=
  match targetSystem.filter (· ≠ "") with
  | some name => do
    assertTargetSystemRead db collation session name
    AdminService.findDlqItems app db
      { status, targetSystem, allowedTargetSystems := none }
  | none =>
    AdminService.findDlqItems app db
      { status, targetSystem, allowedTargetSystems :=
          AdminRbacService.targetSystemNamesForAccess db collation session .read }

/-- What `retry` and `skip` do first. -/
def assertDlqRead (id : String) : Except AdminError Unit :=
  match (AdminService.findDlqItemTargetSystem db id).filter (· ≠ "") with
  | none => .ok ()
  | some targetSystem => assertTargetSystemRead db collation session targetSystem

end AdminController

end IdmMw
