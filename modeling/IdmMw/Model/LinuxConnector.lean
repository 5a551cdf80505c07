import IdmMw.Model.GroupMapping
import IdmMw.Model.LinuxFleet

/-!
# The connector for Linux accounts

`LinuxConnectorService`: accounts on one server by SSH, on the servers of an inventory, or through an
agent.

* `LinuxReq`: what the connector asks of its surroundings; `LinuxProg`: a program over it;
* the values of a payload and of a configuration that make up a command, and the commands;
* `executeSsh`: one server; `executeSshFleet`: the servers of the groups that a payload names;
* `execute` and `testConnection`: what the middleware calls.

A command that is sent by SSH is one request, and so is a call of the agent (`remoteRequest`, with the
checks of its address). A configuration and a payload may be any JSON values.
-/

namespace IdmMw

open Async

/-! ### Requests -/

/-- What `ssh2` is given to connect; the verifier of the host's key compares it with
`hostFingerprint`. -/
structure SshConnection where
  host : Option Json
  port : Json
  username : Option Json
  readyTimeout : Json
  hostFingerprint : Option Json
  privateKey : Option Json
  password : Option Json

/-- A host of the inventory with its credential profile. -/
structure FleetHost where
  host : LinuxHost
  credentialProfile : Option LinuxCredentialProfile

/-- A server group with its hosts. -/
structure FleetGroup where
  group : LinuxServerGroup
  hosts : List FleetHost

inductive LinuxReq
  -- `prisma`
  | targetSystemFindUnique (name : String)
  | hostCount (targetSystemId : String)
  | serverGroupFindMany (targetSystemId : String) (codes : List String)
  | serverGroupList (targetSystemId : String) (take : ℕ)
  | serverGroupFindFirst (targetSystemId code : String)
  -- `configService.get(key) ?? process.env[key]`, `pamClient.getValue`
  | secretEnv (key : String)
  | pamGetValue (refId : String)
  -- `ssh2`, and the agent
  | ssh (connection : SshConnection) (command : String) (input : Option String)
  | remoteRequest (config : Json) (method path : String) (data : Option Json)

abbrev LinuxAns : LinuxReq → Type
  | .targetSystemFindUnique _ => Except JsError (Option TargetSystem)
  | .hostCount _ => Except JsError ℕ
  | .serverGroupFindMany _ _ | .serverGroupList _ _ => Except JsError (List FleetGroup)
  | .serverGroupFindFirst _ _ => Except JsError (Option FleetGroup)
  | .secretEnv _ => Option String
  | .pamGetValue _ => Except JsError String
  | .ssh _ _ _ => Except JsError String
  | .remoteRequest _ _ _ _ => Except JsError Json

abbrev LinuxProg (α : Type) := Async JsError LinuxAns α

namespace LinuxConnectorService

variable (js : Runtime)

/-! ### Values -/

/-- `/^[a-z_][a-z0-9_-]{0,31}$/i`. -/
def isAccountName : List Char → Bool
  | [] => false
  | c :: cs => (c.isAlpha || c == '_') && cs.length ≤ 31 &&
      cs.all fun c => c.isAlphanum || c == '_' || c == '-'

def login (data params config : Json) : Except JsError String :=
  match loginValue data params with
  | none => .error (.error "Missing login for Linux operation")
  | some value =>
    let login := trim (textOr js (config.get? "loginPrefix") "" ++ value)
    if isAccountName login.toList then .ok login else .error (.error "Invalid Linux login")

def password (data : Json) (required : Bool) : Except JsError String :=
  match firstString [data.get? "newValue", data.get? "password"] with
  | some value => .ok value
  | none =>
    if required then .error (.error "Missing password for Linux operation") else .ok ""

inductive LinuxGroupMappingTarget
  | posix
  | server
  deriving DecidableEq

def groupMappingTarget (config : Json) (defaultTarget : LinuxGroupMappingTarget) :
    Except JsError LinuxGroupMappingTarget :=
  match config.get? "groupMappingTarget" with
  | none | some .null | some (.str "") => .ok defaultTarget
  | some (.str "posix") => .ok .posix
  | some (.str "server") => .ok .server
  | some _ => .error (.error "Invalid Linux groupMappingTarget: expected posix or server")

/-- The groups that are mapped to groups of the target, where they are. -/
def mappedGroups (data config : Json) (mapping : GroupMappingSettings)
    (target : LinuxGroupMappingTarget) : Except JsError (List String) :=
  if mapping.enabled then do
    if (← groupMappingTarget config target) = target then
      groupRefTexts js (data.get? "groups") mapping.mode "groups"
    else pure []
  else pure []

/-- The texts as an array. -/
def textArray (texts : List String) : Option Json := some (.arr (texts.map .str))

def groupName (group : String) : Except JsError String :=
  if isAccountName (trimmed group) then .ok (trim group) else .error (.error "Invalid Linux group")

def groups (config data : Json) : Except JsError (List String) := do
  let mapping ← groupMappingSettings config
  let mapped ← mappedGroups js data config mapping .posix
  let payloadGroups := stringArray ([data.get? "posixGroups"] ++
    (if mapping.enabled then [] else [data.get? "groups"]) ++ [textArray mapped])
  let defaultGroups ← spread (config.get? "defaultGroups")
  ((defaultGroups ++ payloadGroups.map Json.str).filterMap nonBlankItem).mapM groupName

/-! ### Commands -/

def arg (value : String) : String := String.ofList
  ('\'' :: value.toList.flatMap (fun c => if c = '\'' then "'\\''".toList else [c]) ++ ['\''])

/-- `arg` of a value that has the type of a text, but may be something else. -/
def argOf : Json → Except JsError String
  | .str value => .ok (arg value)
  | _ => .error (.error "value.replace is not a function")

def userAddCommand (config : Json) (login : String) (data : Json) : Except JsError String := do
  let shell : Json := match firstString [data.get? "shell"], config.get? "defaultShell" with
    | some shell, _ => .str shell
    | none, none | none, some .null => .str "/bin/bash"
    | none, some shell => shell
  let home := (firstString [data.get? "homeDirectory"]).getD
    (textOr js (config.get? "defaultHomeBase") "/home" ++ "/" ++ login)
  let groups ← groups js config data
  let shell ← argOf shell
  pure (" ".intercalate (["sudo useradd", "-m", "-d " ++ arg home, "-s " ++ shell,
    if groups = [] then "" else "-G " ++ arg (",".intercalate groups), arg login].filter (· ≠ "")))

def userModifyCommand (config : Json) (login : String) (data : Json) : Except JsError String := do
  let shell := match firstString [data.get? "shell"] with
    | some shell => ["-s " ++ arg shell]
    | none => []
  let groups ← groups js config data
  let groups := if groups = [] then [] else ["-G " ++ arg (",".intercalate groups)]
  pure (" ".intercalate (["sudo usermod"] ++ shell ++ groups ++ [arg login]))

def userDeleteCommand (config : Json) (login : String) : String :=
  "sudo userdel " ++ (match config.get? "removeHomeOnDelete" with
    | some (.bool true) => "-r "
    | _ => "") ++ arg login

def disableCommand (login : String) : String :=
  "sudo passwd -l " ++ arg login ++ " && sudo chage -E 0 " ++ arg login

def enableCommand (login : String) : String :=
  "sudo passwd -u " ++ arg login ++ " && sudo chage -E -1 " ++ arg login

def getCommand (login : String) : String := "getent passwd " ++ arg login

/-- What `chpasswd` reads. -/
def passwordInput (login password : String) : String := login ++ ":" ++ password ++ "\n"

/-! ### One server -/

/-- The checks of `execSshWithInput`, and what it connects with. -/
def connectConfig (config : Json) : Except JsError SshConnection :=
  if !isTruthy (config.get? "host") || !isTruthy (config.get? "username") then
    .error (.error "Missing Linux SSH host or username")
  else if config.getStr? "sudoMode" ≠ some "passwordless" then
    .error (.error "Linux ssh-sudo requires sudoMode=passwordless")
  else if !isTruthy (config.get? "hostFingerprint") then
    .error (.error "Linux ssh-sudo requires hostFingerprint")
  else .ok {
    host := config.get? "host"
    port := ((config.get? "port").filter (!· matches .null)).getD (.num 22)
    username := config.get? "username"
    readyTimeout := ((config.get? "timeoutMs").filter (!· matches .null)).getD (.num 30000)
    hostFingerprint := config.get? "hostFingerprint"
    privateKey := (config.get? "privateKey").filter Json.truthy
    password := (config.get? "password").filter Json.truthy }

def execSshWithInput (config : Json) (command : String) (input : Option String) :
    LinuxProg String := do
  let connection ← Async.ofExcept (connectConfig config)
  await (.ssh connection command input) .settle

def execSsh (config : Json) (command : String) : LinuxProg String :=
  execSshWithInput config command none

def disableSshUser (config : Json) (login : String) : LinuxProg Unit := do
  let _ ← execSsh config (disableCommand login)
  pure ()

def schemaAttribute (name type : String) (required multiValued : Bool) : Json :=
  .obj [("name", .str name), ("type", .str type), ("required", .bool required),
    ("multiValued", .bool multiValued)]

/-- `(await this.getSchema()).data`. -/
def schemaData : Json :=
  .obj [("objectClasses", .arr [.obj [("name", .str "user"), ("attributes", .arr [
    schemaAttribute "login" "string" true false,
    schemaAttribute "password" "string" true false,
    schemaAttribute "serverGroups" "array" false true,
    schemaAttribute "posixGroups" "array" false true,
    schemaAttribute "shell" "string" false false])]])]

/-- `user.create`. -/
def sshCreate (config data params : Json) : LinuxProg Json := do
  let createLogin ← Async.ofExcept (login js data params config)
  let command ← Async.ofExcept (userAddCommand js config createLogin data)
  let _ ← execSsh config command
  -- the password is read here, between the two commands
  let secret ← Async.ofExcept (password data true)
  let _ ← execSshWithInput config "sudo chpasswd" (some (passwordInput createLogin secret))
  pure (.obj [("login", .str createLogin), ("created", .bool true)])

/-- `user.update`. -/
def sshUpdate (config data params : Json) : LinuxProg Json := do
  let updateLogin ← Async.ofExcept (login js data params config)
  let command ← Async.ofExcept (userModifyCommand js config updateLogin data)
  let _ ← execSsh config command
  pure (.obj [("login", .str updateLogin), ("updated", .bool true)])

/-- `user.delete`. -/
def sshDelete (config data params : Json) : LinuxProg Json := do
  let deleteLogin ← Async.ofExcept (login js data params config)
  if isTruthy (config.get? "physicalDeleteEnabled") then
    let _ ← execSsh config (userDeleteCommand config deleteLogin)
    pure (.obj [("login", .str deleteLogin), ("deleted", .bool true)])
  else
    disableSshUser config deleteLogin
    pure (.obj [("login", .str deleteLogin), ("deleted", .bool false), ("enabled", .bool false)])

/-- `user.disable` and `user.lock`. -/
def sshDisable (config data params : Json) : LinuxProg Json := do
  let disableLogin ← Async.ofExcept (login js data params config)
  disableSshUser config disableLogin
  pure (.obj [("login", .str disableLogin), ("enabled", .bool false)])

/-- `user.enable` and `user.unlock`. -/
def sshEnable (config data params : Json) : LinuxProg Json := do
  let enableLogin ← Async.ofExcept (login js data params config)
  let _ ← execSsh config (enableCommand enableLogin)
  pure (.obj [("login", .str enableLogin), ("enabled", .bool true)])

/-- `user.changePassword`. -/
def sshChangePassword (config data params : Json) : LinuxProg Json := do
  let passwordLogin ← Async.ofExcept (login js data params config)
  let secret ← Async.ofExcept (password data true)
  let _ ← execSshWithInput config "sudo chpasswd" (some (passwordInput passwordLogin secret))
  pure (.obj [("login", .str passwordLogin), ("passwordChanged", .bool true)])

/-- `user.get` and `user.resolve`. -/
def sshGet (config data params : Json) : LinuxProg Json := do
  let getLogin ← Async.ofExcept (login js data params config)
  let raw ← execSsh config (getCommand getLogin)
  pure (.obj [("login", .str getLogin), ("raw", .str raw)])

def executeSsh (payload : ConnectorPayload) (config : Json) : LinuxProg Json :=
  match payload.operation with
  | "system.test" => do
    let _ ← execSsh config "id"
    pure (.obj [("reachable", .bool true)])
  | "schema.get" => pure schemaData
  | "user.create" => sshCreate js config payload.data payload.params
  | "user.update" => sshUpdate js config payload.data payload.params
  | "user.delete" => sshDelete js config payload.data payload.params
  | "user.disable" | "user.lock" => sshDisable js config payload.data payload.params
  | "user.enable" | "user.unlock" => sshEnable js config payload.data payload.params
  | "user.changePassword" => sshChangePassword js config payload.data payload.params
  | "user.get" | "user.resolve" => sshGet js config payload.data payload.params
  | "user.search" | "sync.full" | "sync.incremental" => do
    let raw ← execSsh config "getent passwd"
    pure (.obj [("raw", .str raw)])
  | operation => throw (.error s!"Unsupported Linux operation: {operation}")

/-! ### The servers of an inventory -/

/-- What JSON a stored text is; `none` where it is not JSON. -/
def JsonText.value? : JsonText → Option Json
  | .text v => some v
  | .malformed => none

/-- The settings of a column that is read as it is stored. A text within the text is not parsed again
here: the column of a configuration holds an object. -/
def configRecord : Column → Settings
  | .native v => v.settings
  | .text t => ((JsonText.value? t).map Json.settings).getD []

def fleetTargetSystem (targetSystemName : String) : LinuxProg TargetSystem := do
  match ← await (.targetSystemFindUnique targetSystemName) .settle with
  | some targetSystem =>
    if targetSystem.type = "linux" then pure targetSystem
    else throw (.error "Linux fleet target system not found")
  | none => throw (.error "Linux fleet target system not found")

def enabledFleetHostCount (targetSystemName : String) : LinuxProg ℕ :=
  if targetSystemName = "" then pure 0
  else do
    match ← await (.targetSystemFindUnique targetSystemName) .settle with
    | none => pure 0
    | some targetSystem => await (.hostCount targetSystem.id) .settle

def positiveInt (value : Option Json) (fallback : ℕ) : ℕ :=
  (LinuxFleetService.optionalPositiveInteger value).getD fallback

def fleetGroupToIdm (group : FleetGroup) : Json :=
  .obj [("_id", .str group.group.code), ("id", .str group.group.code),
    ("name", .str group.group.name), ("code", .str group.group.code),
    ("description", (group.group.description.map .str).getD .null),
    ("active", .bool group.group.enabled), ("hostCount", .num group.hosts.length)]

/-- One of the texts of the group contains the filter. -/
def matchesFilter (filter : String) (group : FleetGroup) : Bool :=
  [some group.group.code, some group.group.name, group.group.description].any fun
    | some value => value ≠ "" && decide (filter.toList <:+: (js.toLowerCase value).toList)
    | none => false

def searchFleetGroups (payload : ConnectorPayload) : LinuxProg Json := do
  let targetSystem ← fleetTargetSystem payload.targetSystem
  let filter := (firstString [payload.params.get? "filter", payload.data.get? "filter"]).map
    fun text => trim (js.toLowerCase text)
  let groups ← await (.serverGroupList targetSystem.id
    (positiveInt (payload.params.get? "limit") 500)) .settle
  let filtered := match filter.filter (· ≠ "") with
    | some filter => groups.filter (matchesFilter js filter)
    | none => groups
  pure (.obj [("data", .arr (filtered.map fleetGroupToIdm)),
    ("meta", .obj [("total", .num filtered.length)])])

def getFleetGroup (payload : ConnectorPayload) : LinuxProg Json := do
  let targetSystem ← fleetTargetSystem payload.targetSystem
  match firstString [payload.params.get? "id", payload.params.get? "code",
    payload.data.get? "id"] with
  | none => throw (.error "Missing Linux server group code")
  | some code =>
    match ← await (.serverGroupFindFirst targetSystem.id code) .settle with
    | none => throw (.error "Linux server group not found")
    | some group => pure (fleetGroupToIdm group)

/-- The codes of the server groups that a payload names, as the settings tell to read it. -/
def fleetGroupCodes (targetConfig data params : Json) : Except JsError (List String) := do
  let mapping ← groupMappingSettings targetConfig
  let mappedServerGroups ← mappedGroups js data targetConfig mapping .server
  let legacyGroups := if mapping.enabled then [] else [data.get? "groups", params.get? "groups"]
  pure (stringArray ([data.get? "serverGroups", params.get? "serverGroups",
    params.get? "groupIds"] ++ legacyGroups ++ [textArray mappedServerGroups]))

/-- `hosts.set(membership.host.id, membership.host)` for the enabled hosts of the groups. -/
def enabledHosts (groups : List FleetGroup) : List (String × FleetHost) :=
  (groups.flatMap FleetGroup.hosts).foldl (fun hosts host =>
    if host.host.enabled then OrderedMap.set hosts host.host.id host else hosts) []

def resolveFleetHosts (payload : ConnectorPayload) : LinuxProg (List FleetHost) := do
  let targetSystem ← fleetTargetSystem payload.targetSystem
  let targetConfig := Json.obj (configRecord targetSystem.config)
  let groupCodes ← Async.ofExcept (fleetGroupCodes js targetConfig payload.data payload.params)
  if groupCodes = [] then throw (.error "Missing Linux serverGroups for fleet operation")
  else do
    let groups ← await (.serverGroupFindMany targetSystem.id groupCodes) .settle
    if groups.length ≠ groupCodes.eraseDups.length then
      throw (.error "One or more Linux server groups were not found")
    else
      let hosts := enabledHosts groups
      if hosts = [] then throw (.error "Linux server groups contain no enabled hosts")
      else pure (hosts.map Prod.snd)

/-- The text without a prefix, if it has it in any case of its letters. -/
def withoutPrefix (pre : String) (text : List Char) : List Char :=
  if pre.toList.isPrefixOf (text.map Char.toLower) then text.drop pre.length else text

/-- The name of the variable that a reference names. -/
def envKey (ref : String) : String :=
  String.ofList (if "env:".toList.isPrefixOf (trimmed ref) then (trimmed ref).drop 4 else trimmed ref)

/-- The id of the secret that a reference names. -/
def pamRefId (ref : String) : String :=
  String.ofList (withoutPrefix "secret://" (withoutPrefix "aapm://" (trimmed ref)))

def resolveSecretRef (ref mode : String) : LinuxProg String :=
  if mode = "env" then do
    match ← await (.secretEnv (envKey ref)) fun a => .settle (.ok a) with
    | some resolved =>
      if resolved = "" then throw (.error s!"Missing Linux env secret '{envKey ref}'")
      else pure resolved
    | none => throw (.error s!"Missing Linux env secret '{envKey ref}'")
  else if mode = "aapm" then await (.pamGetValue (pamRefId ref)) .settle
  else throw (.error "Unsupported Linux credential mode")

/-- The secret that a reference names, if there is one. -/
def optionalSecret (ref : Option String) (mode : String) : LinuxProg (Option String) :=
  match ref with
  | none => pure none
  | some ref => if ref = "" then pure none else some <$> resolveSecretRef ref mode

/-- `{ ...fields, [key]: value }`; a field that is `undefined` is as good as none. -/
def assign (fields : Settings) (key : String) : Option Json → Settings
  | some value => OrderedMap.set fields key value
  | none => fields.filter (·.1 ≠ key)

/-- The settings for one host. -/
def hostSettings (baseConfig : Json) (host : LinuxHost) (profile : LinuxCredentialProfile)
    (privateKey password : Option String) : Json :=
  .obj ([("provider", some (.str "ssh-sudo")), ("host", some (.str host.host)),
    ("port", some (.num host.port)), ("hostFingerprint", some (.str host.hostFingerprint)),
    ("username", some (.str profile.username)), ("privateKey", privateKey.map Json.str),
    ("password", password.map Json.str)].foldl (fun fields (key, value) => assign fields key value)
      baseConfig.settings)

def hostSshConfig (baseConfig : Json) (host : FleetHost) : LinuxProg Json :=
  match host.credentialProfile.filter (·.enabled) with
  | none => throw (.error s!"Linux host '{host.host.name}' has no enabled credential profile")
  | some profile => do
    let privateKey ← optionalSecret profile.privateKeyRef profile.mode
    let password ← optionalSecret profile.passwordRef profile.mode
    pure (hostSettings baseConfig host.host profile privateKey password)

def withPosixGroups (value : Option Json) : Json :=
  let data := ((value.map Json.settings).getD [])
  .obj (OrderedMap.set data "groups" ((data.lookup "posixGroups").getD (.arr [])))

/-- `{ ...payload, payload: { ...payload.payload, data } }`. -/
def withData (payload : ConnectorPayload) (data : Json) : ConnectorPayload :=
  { payload with payload := .obj (OrderedMap.set payload.payload.settings "data" data) }

/-- An entry of the summary: the host, and what came of it. -/
structure FleetResult where
  host : String
  outcome : Except String Json

def FleetResult.succeeded (result : FleetResult) : Bool := result.outcome.isOk

def FleetResult.json (result : FleetResult) : Json :=
  match result.outcome with
  | .ok data => .obj [("host", .str result.host), ("status", .str "succeeded"), ("data", data)]
  | .error error => .obj [("host", .str result.host), ("status", .str "failed"),
      ("error", .str error)]

structure FleetSummary where
  total : ℕ
  succeeded : ℕ
  failed : ℕ
  results : List FleetResult

def FleetSummary.of (results : List FleetResult) : FleetSummary :=
  let failed := results.filter (!·.succeeded)
  ⟨results.length, results.length - failed.length, failed.length, results⟩

def FleetSummary.json (summary : FleetSummary) : Json :=
  .obj [("total", .num summary.total), ("succeeded", .num summary.succeeded),
    ("failed", .num summary.failed), ("results", .arr (summary.results.map FleetResult.json))]

/-- What is raised with the summary. -/
def fleetError (summary : FleetSummary) : JsError :=
  .error ("Linux fleet operation failed: " ++ js.stringify summary.json)

/-- One host, with its settings: an error of the operation becomes an entry. -/
def hostResult (payload : ConnectorPayload) (host : FleetHost) (hostConfig : Json) :
    LinuxProg FleetResult :=
  tryCatch (do
    let data ← executeSsh js (withData payload (withPosixGroups (payload.payload.get? "data")))
      hostConfig
    pure ⟨host.host.name, .ok data⟩) fun error =>
    pure ⟨host.host.name, .error (js.safeConnectorErrorMessage error
      [some hostConfig, payload.payload.get? "data", payload.payload.get? "params"])⟩

/-- The loop over the hosts. What goes wrong with the settings of a host ends it. -/
def hostResults (payload : ConnectorPayload) (config : Json) :
    List FleetHost → LinuxProg (List FleetResult)
  | [] => pure []
  | host :: hosts => do
    let hostConfig ← hostSshConfig config host
    let result ← hostResult js payload host hostConfig
    let results ← hostResults payload config hosts
    pure (result :: results)

def executeFleetUserOperation (payload : ConnectorPayload) (config : Json) : LinuxProg Json := do
  let hosts ← resolveFleetHosts js payload
  let results ← hostResults js payload config hosts
  let summary := FleetSummary.of results
  if summary.failed > 0 then throw (fleetError js summary) else pure summary.json

/-- The operations for accounts. -/
def fleetUserOperations : List String :=
  ["user.create", "user.update", "user.delete", "user.disable", "user.lock", "user.enable",
    "user.unlock", "user.changePassword", "user.get", "user.resolve", "user.search"]

def executeSshFleet (payload : ConnectorPayload) (config : Json) : LinuxProg Json :=
  if payload.operation = "system.test" then do
    let count ← enabledFleetHostCount payload.targetSystem
    pure (.obj [("enabledHosts", .num count)])
  else if payload.operation = "schema.get" then pure schemaData
  else if ["group.search", "sync.full", "sync.incremental"].contains payload.operation then
    searchFleetGroups js payload
  else if payload.operation = "group.get" then getFleetGroup payload
  else if fleetUserOperations.contains payload.operation then
    executeFleetUserOperation js payload config
  else throw (.error s!"Unsupported Linux operation: {payload.operation}")

/-! ### The agent -/

def remoteRequest (config : Json) (method path : String) (data : Option Json) : LinuxProg Json :=
  await (.remoteRequest config method path data) .settle

/-- `/users/${encodeURIComponent(login)}${suffix}`. -/
def userPath (login suffix : String) : String :=
  "/users/" ++ js.encodeURIComponent login ++ suffix

def executeRemoteAgent (payload : ConnectorPayload) (config : Json) : LinuxProg Json :=
  let data := payload.data
  let login := Async.ofExcept (login js data payload.params config)
  match payload.operation with
  | "system.test" => remoteRequest config "GET" "/health" none
  | "schema.get" => remoteRequest config "GET" "/schema" none
  | "user.create" => do
    let createLogin ← login
    let secret ← Async.ofExcept (password data true)
    remoteRequest config "POST" "/users" (some (.obj
      (assign (assign data.settings "login" (some (.str createLogin))) "password"
        (some (.str secret)))))
  | "user.update" => do
    let updateLogin ← login
    remoteRequest config "PATCH" (userPath js updateLogin "") (some data)
  | "user.delete" => do
    let deleteLogin ← login
    if isTruthy (config.get? "physicalDeleteEnabled") then
      remoteRequest config "DELETE" (userPath js deleteLogin "") (some (.obj
        [("removeHome", .bool (config.get? "removeHomeOnDelete" matches some (.bool true)))]))
    else remoteRequest config "POST" (userPath js deleteLogin "/disable") none
  | "user.disable" | "user.lock" => do
    remoteRequest config "POST" (userPath js (← login) "/disable") none
  | "user.enable" | "user.unlock" => do
    remoteRequest config "POST" (userPath js (← login) "/enable") none
  | "user.changePassword" => do
    let passwordLogin ← login
    let secret ← Async.ofExcept (password data true)
    remoteRequest config "POST" (userPath js passwordLogin "/password")
      (some (.obj [("password", .str secret)]))
  | "user.get" | "user.resolve" => do
    remoteRequest config "GET" (userPath js (← login) "") none
  | "user.search" | "sync.full" | "sync.incremental" => remoteRequest config "GET" "/users" none
  | operation => throw (.error s!"Unsupported Linux operation: {operation}")

/-! ### The connector -/

/-- The provider that a configuration names. -/
def executeWith (payload : ConnectorPayload) (config provider : Json) : LinuxProg Json :=
  match provider with
  | .str "remote-agent" => executeRemoteAgent js payload config
  | .str "ssh-sudo-fleet" => executeSshFleet js payload config
  | _ => executeSsh js payload config

def execute (payload : ConnectorPayload) : LinuxProg ConnectorResult :=
  let config := payload.config.getD .null
  match (config.get? "provider").filter Json.truthy with
  | none => pure ⟨false, none, some "Missing Linux provider"⟩
  | some provider =>
    tryCatch (do
      let result ← executeWith js payload config provider
      pure ⟨true, some result, none⟩) fun error =>
      pure ⟨false, none, some (js.safeConnectorErrorMessage error
        [some config, payload.payload.get? "data", payload.payload.get? "params"])⟩

/-- What `testConnection` tries, and the message when it succeeds. -/
def tryConnection (config : Json) : LinuxProg (Bool × String) :=
  match config.get? "provider" with
  | some (.str "remote-agent") =>
    if !isTruthy (config.get? "baseUrl") then pure (false, "Missing Linux remote-agent baseUrl")
    else do
      let _ ← remoteRequest config "GET" "/health" none
      pure (true, "Linux remote-agent reachable")
  | some (.str "ssh-sudo") => do
    let _ ← execSsh config "id"
    pure (true, "Linux SSH reachable")
  | some (.str "ssh-sudo-fleet") => do
    let count ← enabledFleetHostCount ((config.getStr? "diagnosticTargetSystem").getD "")
    pure (true, s!"Linux SSH fleet inventory reachable ({count} enabled hosts)")
  | _ => pure (false, "Missing Linux provider")

def testConnection (config : Json) : LinuxProg (Bool × String) :=
  tryCatch (tryConnection config) fun error =>
    pure (false, "Linux connection failed: " ++ js.safeConnectorErrorMessage error [some config])
end LinuxConnectorService

end IdmMw
