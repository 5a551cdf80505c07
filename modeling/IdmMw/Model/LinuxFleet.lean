import IdmMw.Model.TargetSystems

/-!
# The inventory of Linux servers

`LinuxFleetService`: credential profiles, hosts and server groups of the target systems of type
`linux`, and which hosts are members of which groups.

* the rows, and what a body gives (`CredentialProfileDto`, `HostDto`, `ServerGroupDto`);
* `FleetReq`: the statements; `FleetProg`: a program over them;
* the operations, each as the program of its statements.

A creation names the columns that its statement writes; the database adds a new id.
-/

namespace IdmMw

/-! ### Rows -/

/-- A row of the table `LinuxCredentialProfile`. -/
structure LinuxCredentialProfile where
  id : String
  targetSystemId : String
  name : String
  mode : String
  username : String
  privateKeyRef : Option String
  passwordRef : Option String
  enabled : Bool
  deriving DecidableEq

/-- A row of the table `LinuxHost`. -/
structure LinuxHost where
  id : String
  targetSystemId : String
  credentialProfileId : Option String
  name : String
  host : String
  port : ℕ
  hostFingerprint : String
  enabled : Bool
  metadata : Option Column

/-- A row of the table `LinuxServerGroup`. -/
structure LinuxServerGroup where
  id : String
  targetSystemId : String
  code : String
  name : String
  description : Option String
  enabled : Bool
  deriving DecidableEq

/-- A row of the table `LinuxServerGroupHost`. -/
structure LinuxServerGroupHost where
  groupId : String
  hostId : String
  deriving DecidableEq

/-! ### What a body gives -/

inductive LinuxSecretMode
  | env
  | aapm
  deriving DecidableEq

def LinuxSecretMode.text : LinuxSecretMode → String
  | env => "env"
  | aapm => "aapm"

structure CredentialProfileDto where
  name : String
  mode : LinuxSecretMode
  username : String
  privateKeyRef : Option String
  passwordRef : Option String
  enabled : Option Bool

/-- The fields that a body names. -/
structure PartialCredentialProfileDto where
  name : Option String
  mode : Option LinuxSecretMode
  username : Option String
  privateKeyRef : Option String
  passwordRef : Option String
  enabled : Option Bool

structure HostDto where
  name : String
  host : String
  port : Option ℕ
  hostFingerprint : String
  credentialProfileId : Option String
  enabled : Option Bool
  metadata : Settings

structure PartialHostDto where
  name : Option String
  host : Option String
  port : Option ℕ
  hostFingerprint : Option String
  credentialProfileId : Option (Option String)
  enabled : Option Bool
  metadata : Option Settings

/-- A description may be taken away: `some none`. -/
structure ServerGroupDto where
  code : String
  name : String
  description : Option (Option String)
  enabled : Option Bool

structure PartialServerGroupDto where
  code : Option String
  name : Option String
  description : Option (Option String)
  enabled : Option Bool

namespace LinuxFleetService

def optionalText : Option Json → Option String
  | some (.str text) => nonBlank text
  | _ => none

def asRecord : Option Json → Settings
  | some (.obj fields) => fields
  | _ => []

def optionalPositiveInteger (value : Option Json) : Option ℕ :=
  match value.bind Json.toNumber with
  | some parsed => if parsed.den = 1 ∧ 0 < parsed then some parsed.num.toNat else none
  | none => none

def secretMode (value : String) : LinuxSecretMode := if value = "aapm" then .aapm else .env

def booleanField (body : Json) (key : String) : Option Bool :=
  match body.get? key with
  | some (.bool b) => some b
  | _ => none

section Bodies

variable (numberText : ℚ → String) (body : Json)

/-- `String(body[key] ?? '')`. -/
def textField (key : String) : String :=
  match body.get? key with
  | none | some .null => ""
  | some value => value.toText numberText

/-- What `f` gives if the body has the field. -/
def ifPresent {α : Type} (key : String) (f : Option Json → α) : Option α :=
  (body.get? key).map fun value => f (some value)

def modeField (value : Option Json) : LinuxSecretMode :=
  match value with
  | some (.str text) => secretMode text
  | _ => .env

/-- The id that a body names for the credential profile; anything but a text stands for none. -/
def profileIdField : Option Json → Option String
  | some (.str id) => some id
  | _ => none

def descriptionField : Option Json → Option (Option String)
  | some .null => some none
  | value => (optionalText value).map some

def credentialProfileDto : CredentialProfileDto where
  name := textField numberText body "name"
  mode := modeField (body.get? "mode")
  username := textField numberText body "username"
  privateKeyRef := optionalText (body.get? "privateKeyRef")
  passwordRef := optionalText (body.get? "passwordRef")
  enabled := booleanField body "enabled"

def partialCredentialProfileDto : PartialCredentialProfileDto where
  name := ifPresent body "name" fun _ => textField numberText body "name"
  mode := ifPresent body "mode" modeField
  username := ifPresent body "username" fun _ => textField numberText body "username"
  privateKeyRef := optionalText (body.get? "privateKeyRef")
  passwordRef := optionalText (body.get? "passwordRef")
  enabled := booleanField body "enabled"

def hostDto : HostDto where
  name := textField numberText body "name"
  host := textField numberText body "host"
  port := optionalPositiveInteger (body.get? "port")
  hostFingerprint := textField numberText body "hostFingerprint"
  credentialProfileId := profileIdField (body.get? "credentialProfileId")
  enabled := booleanField body "enabled"
  metadata := asRecord (body.get? "metadata")

def partialHostDto : PartialHostDto where
  name := ifPresent body "name" fun _ => textField numberText body "name"
  host := ifPresent body "host" fun _ => textField numberText body "host"
  port := optionalPositiveInteger (body.get? "port")
  hostFingerprint := ifPresent body "hostFingerprint" fun _ =>
    textField numberText body "hostFingerprint"
  credentialProfileId := ifPresent body "credentialProfileId" profileIdField
  enabled := booleanField body "enabled"
  metadata := ifPresent body "metadata" asRecord

def serverGroupDto : ServerGroupDto where
  code := textField numberText body "code"
  name := textField numberText body "name"
  description := descriptionField (body.get? "description")
  enabled := booleanField body "enabled"

def partialServerGroupDto : PartialServerGroupDto where
  code := ifPresent body "code" fun _ => textField numberText body "code"
  name := ifPresent body "name" fun _ => textField numberText body "name"
  description := descriptionField (body.get? "description")
  enabled := booleanField body "enabled"

end Bodies

/-! ### Checks -/

/-- `if (!ok) throw new BadRequestException(message)`. -/
def check (ok : Bool) (message : String) : Except AdminError Unit :=
  if ok then .ok () else .error (.badRequest message)

/-- A mode of the model is one of the two that the check admits. -/
def validateCredentialProfile (dto : CredentialProfileDto) : Except AdminError Unit := do
  check (nonBlank dto.name).isSome "Missing name"
  check ([LinuxSecretMode.env, .aapm].contains dto.mode) "Linux credential mode must be env or aapm"
  check (nonBlank dto.username).isSome "Missing username"
  check ((dto.privateKeyRef.bind nonBlank).isSome || (dto.passwordRef.bind nonBlank).isSome)
    "Missing privateKeyRef or passwordRef"

def validateHost (dto : HostDto) : Except AdminError Unit := do
  check (nonBlank dto.name).isSome "Missing name"
  check (nonBlank dto.host).isSome "Missing host"
  check (nonBlank dto.hostFingerprint).isSome "Missing hostFingerprint"
  check (dto.port.all (0 < ·)) "Invalid port"

def validateGroup (dto : ServerGroupDto) : Except AdminError Unit := do
  check (nonBlank dto.code).isSome "Missing code"
  check (isCode (trimmed dto.code)) "Invalid Linux server group code"
  check (nonBlank dto.name).isSome "Missing name"

end LinuxFleetService

/-! ### Statements -/

structure CredentialProfileCreate where
  targetSystemId : String
  name : String
  mode : LinuxSecretMode
  username : String
  privateKeyRef : Option String
  passwordRef : Option String
  enabled : Bool

/-- The columns that an update names; the others stay. -/
structure CredentialProfileUpdate where
  name : Option String
  mode : Option LinuxSecretMode
  username : Option String
  privateKeyRef : Option String
  passwordRef : Option String
  enabled : Option Bool

structure HostCreate where
  targetSystemId : String
  name : String
  host : String
  port : ℕ
  hostFingerprint : String
  credentialProfileId : Option String
  enabled : Bool
  metadata : Column

structure HostUpdate where
  name : Option String
  host : Option String
  port : Option ℕ
  hostFingerprint : Option String
  credentialProfileId : Option (Option String)
  enabled : Option Bool
  metadata : Option Column

structure ServerGroupCreate where
  targetSystemId : String
  code : String
  name : String
  description : Option String
  enabled : Bool

structure ServerGroupUpdate where
  code : Option String
  name : Option String
  description : Option (Option String)
  enabled : Option Bool

/-- The statements of the transaction in which the hosts of a group are replaced. -/
inductive GroupHostStatement
  | deleteMany (groupId : String)
  | createMany (data : List LinuxServerGroupHost)

inductive FleetReq
  | targetSystemFindUnique (id : String)
  | profileFindUnique (id : String)
  | profileFindFirst (id targetSystemId : String)
  | profileCreate (data : CredentialProfileCreate)
  | profileUpdate (id : String) (data : CredentialProfileUpdate)
  | profileDelete (id : String)
  | hostFindUnique (id : String)
  | hostCreate (data : HostCreate)
  | hostUpdate (id : String) (data : HostUpdate)
  | hostDelete (id : String)
  | hostCount (ids : List String) (targetSystemId : String)
  | groupFindUnique (id : String)
  | groupCreate (data : ServerGroupCreate)
  | groupUpdate (id : String) (data : ServerGroupUpdate)
  | groupDelete (id : String)
  | txBegin
  | groupHost (statement : GroupHostStatement)
  | txCommit

/-- The answers; any statement may fail. -/
abbrev FleetAns : FleetReq → Type
  | .targetSystemFindUnique _ => Except AdminError (Option TargetSystem)
  | .profileFindUnique _ | .profileFindFirst _ _ =>
    Except AdminError (Option LinuxCredentialProfile)
  | .profileCreate _ | .profileUpdate _ _ => Except AdminError LinuxCredentialProfile
  | .hostFindUnique _ => Except AdminError (Option LinuxHost)
  | .hostCreate _ | .hostUpdate _ _ => Except AdminError LinuxHost
  | .hostCount _ _ => Except AdminError ℕ
  | .groupFindUnique _ => Except AdminError (Option LinuxServerGroup)
  | .groupCreate _ | .groupUpdate _ _ => Except AdminError LinuxServerGroup
  | .profileDelete _ | .hostDelete _ | .groupDelete _ => Except AdminError Unit
  | .txBegin | .groupHost _ | .txCommit => Except AdminError Unit

abbrev FleetProg (α : Type) := Async AdminError FleetAns α

namespace LinuxFleetService

/-! ### Requests -/

def targetSystemFindUnique (id : String) : FleetProg (Option TargetSystem) :=
  .await (.targetSystemFindUnique id) .settle
def profileFindUnique (id : String) : FleetProg (Option LinuxCredentialProfile) :=
  .await (.profileFindUnique id) .settle
def profileFindFirst (id targetSystemId : String) : FleetProg (Option LinuxCredentialProfile) :=
  .await (.profileFindFirst id targetSystemId) .settle
def profileCreate (data : CredentialProfileCreate) : FleetProg LinuxCredentialProfile :=
  .await (.profileCreate data) .settle
def profileUpdate (id : String) (data : CredentialProfileUpdate) :
    FleetProg LinuxCredentialProfile := .await (.profileUpdate id data) .settle
def profileDelete (id : String) : FleetProg Unit := .await (.profileDelete id) .settle
def hostFindUnique (id : String) : FleetProg (Option LinuxHost) :=
  .await (.hostFindUnique id) .settle
def hostCreate (data : HostCreate) : FleetProg LinuxHost := .await (.hostCreate data) .settle
def hostUpdate (id : String) (data : HostUpdate) : FleetProg LinuxHost :=
  .await (.hostUpdate id data) .settle
def hostDelete (id : String) : FleetProg Unit := .await (.hostDelete id) .settle
def hostCount (ids : List String) (targetSystemId : String) : FleetProg ℕ :=
  .await (.hostCount ids targetSystemId) .settle
def groupFindUnique (id : String) : FleetProg (Option LinuxServerGroup) :=
  .await (.groupFindUnique id) .settle
def groupCreate (data : ServerGroupCreate) : FleetProg LinuxServerGroup :=
  .await (.groupCreate data) .settle
def groupUpdate (id : String) (data : ServerGroupUpdate) : FleetProg LinuxServerGroup :=
  .await (.groupUpdate id data) .settle
def groupDelete (id : String) : FleetProg Unit := .await (.groupDelete id) .settle
def txBegin : FleetProg Unit := .await .txBegin .settle
def groupHost (statement : GroupHostStatement) : FleetProg Unit :=
  .await (.groupHost statement) .settle
def txCommit : FleetProg Unit := .await .txCommit .settle

/-! ### Operations -/

def requireLinuxTargetSystem (id : String) : FleetProg TargetSystem := do
  match ← targetSystemFindUnique id with
  | none => throw (.notFound "TargetSystem not found")
  | some targetSystem =>
    if targetSystem.type = "linux" then pure targetSystem
    else throw (.badRequest "TargetSystem is not linux")

def requireCredentialProfile (targetSystemId id : String) : FleetProg LinuxCredentialProfile := do
  match ← profileFindFirst id targetSystemId with
  | none => throw (.badRequest "Credential profile must belong to the same target system")
  | some profile => pure profile

/-- `if (profileId) await this.requireCredentialProfile(targetSystemId, profileId)`. -/
def requireNamedProfile (targetSystemId : String) : Option String → FleetProg Unit
  | some profileId => do let _ ← requireCredentialProfile targetSystemId profileId
  | none => pure ()

/-- What is shown of a profile. -/
def shown (item : LinuxCredentialProfile) : Json :=
  let text : Option String → Json := fun value => (value.map Json.str).getD .null
  redactSecrets (.obj [("id", .str item.id), ("targetSystemId", .str item.targetSystemId),
    ("name", .str item.name), ("mode", .str item.mode), ("username", .str item.username),
    ("privateKeyRef", text item.privateKeyRef), ("passwordRef", text item.passwordRef),
    ("enabled", .bool item.enabled)])

section Operations

-- `encode` is what encoding gives for the metadata of a host
variable (numberText : ℚ → String) (encode : Json → Except JsError Column)

def toJson (value : Settings) : FleetProg Column :=
  .ofExcept ((encode (.obj value)).mapError AdminError.error)

def optionalJson : Option Settings → FleetProg (Option Column)
  | some value => do pure (some (← toJson encode value))
  | none => pure none

def createCredentialProfile (targetSystemId : String) (body : Json) : FleetProg Json := do
  let dto := credentialProfileDto numberText body
  let _ ← requireLinuxTargetSystem targetSystemId
  Async.ofExcept (validateCredentialProfile dto)
  let item ← profileCreate {
    targetSystemId
    name := trim dto.name
    mode := dto.mode
    username := trim dto.username
    privateKeyRef := dto.privateKeyRef.bind nonBlank
    passwordRef := dto.passwordRef.bind nonBlank
    enabled := dto.enabled.getD true }
  pure (shown item)

def updateCredentialProfile (id : String) (body : Json) : FleetProg Json := do
  match ← profileFindUnique id with
  | none => throw (.notFound "Linux credential profile not found")
  | some current =>
    let dto := partialCredentialProfileDto numberText body
    Async.ofExcept (validateCredentialProfile {
      name := dto.name.getD current.name
      mode := dto.mode.getD (secretMode current.mode)
      username := dto.username.getD current.username
      privateKeyRef := dto.privateKeyRef.or current.privateKeyRef
      passwordRef := dto.passwordRef.or current.passwordRef
      enabled := some (dto.enabled.getD current.enabled) })
    let item ← profileUpdate id {
      name := dto.name.map trim
      mode := dto.mode
      username := dto.username.map trim
      privateKeyRef := dto.privateKeyRef
      passwordRef := dto.passwordRef
      enabled := dto.enabled }
    pure (shown item)

def deleteCredentialProfile (id : String) : FleetProg Unit := profileDelete id

def createHost (targetSystemId : String) (body : Json) : FleetProg LinuxHost := do
  let dto := hostDto numberText body
  let _ ← requireLinuxTargetSystem targetSystemId
  Async.ofExcept (validateHost dto)
  requireNamedProfile targetSystemId (dto.credentialProfileId.filter (· ≠ ""))
  let metadata ← toJson encode dto.metadata
  hostCreate {
    targetSystemId
    name := trim dto.name
    host := trim dto.host
    port := dto.port.getD 22
    hostFingerprint := trim dto.hostFingerprint
    credentialProfileId := dto.credentialProfileId.filter (· ≠ "")
    enabled := dto.enabled.getD true
    metadata }

def updateHost (id : String) (body : Json) : FleetProg LinuxHost := do
  match ← hostFindUnique id with
  | none => throw (.notFound "Linux host not found")
  | some current =>
    let dto := partialHostDto numberText body
    Async.ofExcept (validateHost {
      name := dto.name.getD current.name
      host := dto.host.getD current.host
      port := some (dto.port.getD current.port)
      hostFingerprint := dto.hostFingerprint.getD current.hostFingerprint
      credentialProfileId := dto.credentialProfileId.getD current.credentialProfileId
      enabled := some (dto.enabled.getD current.enabled)
      metadata := dto.metadata.getD [] })
    requireNamedProfile current.targetSystemId (dto.credentialProfileId.join.filter (· ≠ ""))
    let metadata ← optionalJson encode dto.metadata
    hostUpdate id {
      name := dto.name.map trim
      host := dto.host.map trim
      port := dto.port
      hostFingerprint := dto.hostFingerprint.map trim
      credentialProfileId := dto.credentialProfileId.map (·.filter (· ≠ ""))
      enabled := dto.enabled
      metadata }

def deleteHost (id : String) : FleetProg Unit := hostDelete id

def createGroup (targetSystemId : String) (body : Json) : FleetProg LinuxServerGroup := do
  let dto := serverGroupDto numberText body
  let _ ← requireLinuxTargetSystem targetSystemId
  Async.ofExcept (validateGroup dto)
  groupCreate {
    targetSystemId
    code := trim dto.code
    name := trim dto.name
    description := dto.description.join.bind nonBlank
    enabled := dto.enabled.getD true }

def updateGroup (id : String) (body : Json) : FleetProg LinuxServerGroup := do
  match ← groupFindUnique id with
  | none => throw (.notFound "Linux server group not found")
  | some current =>
    let dto := partialServerGroupDto numberText body
    Async.ofExcept (validateGroup {
      code := dto.code.getD current.code
      name := dto.name.getD current.name
      description := some (dto.description.getD current.description)
      enabled := some (dto.enabled.getD current.enabled) })
    groupUpdate id {
      code := dto.code.map trim
      name := dto.name.map trim
      description := dto.description.map (·.bind nonBlank)
      enabled := dto.enabled }

def deleteGroup (id : String) : FleetProg Unit := groupDelete id

end Operations

/-- The transaction that replaces the hosts of a group. -/
def replaceGroupHosts (groupId : String) (uniqueHostIds : List String) : List GroupHostStatement :=
  [.deleteMany groupId, .createMany (uniqueHostIds.map fun hostId => ⟨groupId, hostId⟩)]

/-- `prisma.$transaction(statements)`. -/
def transaction (statements : List GroupHostStatement) : FleetProg Unit := do
  txBegin
  statements.forM groupHost
  txCommit

structure GroupHosts where
  groupId : String
  hostIds : List String

def setGroupHosts (groupId : String) (hostIds : List String) : FleetProg GroupHosts := do
  match ← groupFindUnique groupId with
  | none => throw (.notFound "Linux server group not found")
  | some group =>
    let uniqueHostIds := hostIds.eraseDups
    let count ← hostCount uniqueHostIds group.targetSystemId
    if count = uniqueHostIds.length then
      transaction (replaceGroupHosts groupId uniqueHostIds)
      pure ⟨groupId, uniqueHostIds⟩
    else throw (.badRequest "All hosts must belong to the same target system as the group")

end LinuxFleetService

end IdmMw
