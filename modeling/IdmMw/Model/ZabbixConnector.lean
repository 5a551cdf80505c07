import IdmMw.Library.OrderedMap
import IdmMw.Model.RestConnector

/-!
# The connector for Zabbix

`ZabbixConnectorService`: users and user groups, through calls of a JSON-RPC interface.

* `Properties`: an object as it is written in the source, with properties that may be `undefined`;
* `call`: one call of the interface; `resolveAuth`: the token that the calls carry;
* `buildZabbixCall`: the call for an operation;
* `updatedUsers`, `changeMembers`: the members of a group are read and written back;
* `execute`, which the middleware calls.

A configuration and a payload may be any JSON values, and so may the answers of the interface.
-/

namespace IdmMw

open Async

/-! ### Objects -/

/-- The properties of an object, as they are written; `none` is `undefined`. -/
abbrev Properties := List (String × Option Json)

namespace Properties

/-- `...value`. -/
def spread (value : Json) : Properties :=
  (RestConnectorService.entries (some value)).map fun (key, item) => (key, some item)

/-- The object as it is sent, without what is `undefined`. -/
def json (properties : Properties) : Json :=
  .obj ((OrderedMap.ofEntries properties).filterMap fun (key, value) => value.map (key, ·))

end Properties

/-- `value ?? other`. -/
def nullish : Option Json → Option Json → Option Json
  | none, other | some .null, other => other
  | some value, _ => some value

/-- The value in an array, where `undefined` is written as `null`. -/
def itemOf (value : Option Json) : Json := value.getD .null

/-- `${value}`. -/
def templateText (js : Runtime) : Option Json → String
  | none => "undefined"
  | some value => value.toText js.numberText

/-! ### Requests -/

inductive ZabbixReq
  /-- the certificates and keys are read -/
  | httpsAgent (tls : Option Json)
  | post (url : String) (body : Json) (headers : Settings) (httpsAgent : Option Json)

abbrev ZabbixAns : ZabbixReq → Type
  | .httpsAgent _ => Except JsError Unit
  -- the data of the response
  | .post _ _ _ _ => Except JsError Json

abbrev ZabbixProg (α : Type) := Async JsError ZabbixAns α

inductive ZabbixAuthMode
  | bearer
  | legacyAuthField
  deriving DecidableEq

structure ZabbixAuth where
  token : Json
  mode : ZabbixAuthMode

structure ZabbixCall where
  method : String
  zabbixParams : Json

namespace ZabbixConnectorService

variable (js : Runtime)

/-! ### Calls -/

/-- `assertTlsUrl(url, 'Zabbix')`. -/
def assertTlsUrl : Option Json → Except JsError Unit
  | some (.str url) =>
    if "https://".toList.isPrefixOf (js.toLowerCase url).toList then .ok ()
    else .error (.error "Zabbix TLS is enabled, but URL does not use https://")
  | _ => .error (.error "url.toLowerCase is not a function")

/-- `this.tlsOptions.axiosConfig(config.baseUrl, config.tls, 'Zabbix')`. -/
def axiosConfig (config : Json) : ZabbixProg (Option Json) :=
  if !TlsOptionsFactory.isOn (config.get? "tls") then pure none
  else do
    Async.ofExcept (assertTlsUrl js (config.get? "baseUrl"))
    await (.httpsAgent (config.get? "tls")) .settle
    pure (config.get? "tls")

/-- What is posted for a call. -/
def body (method : String) (params : Json) (auth : Option ZabbixAuth) : Json :=
  Properties.json ([("jsonrpc", some (.str "2.0")), ("method", some (.str method)),
    ("params", some params), ("id", some (.num 1))] ++
    match auth with
    | some ⟨token, .legacyAuthField⟩ => [("auth", some token)]
    | _ => [])

def headers (auth : Option ZabbixAuth) : Settings :=
  [("Content-Type", .str "application/json")] ++
    match auth with
    | some ⟨token, .bearer⟩ => [("Authorization", .str ("Bearer " ++ token.toText js.numberText))]
    | _ => []

/-- The result that an answer carries. -/
def resultOf : Json → Except JsError (Option Json)
  | .null => .error (.error "Cannot read properties of null (reading 'error')")
  | data =>
    if isTruthy (data.get? "error") then
      let error := data.get? "error"
      let message := templateText js (error.bind (·.get? "message"))
      let details := templateText js (error.bind (·.get? "data"))
      .error (.error s!"Zabbix API error: {message} — {details}")
    else .ok (data.get? "result")

def call (config : Json) (method : String) (params : Json) (auth : Option ZabbixAuth) :
    ZabbixProg (Option Json) := do
  let agent ← axiosConfig js config
  let data ← await (.post (templateText js (config.get? "baseUrl") ++ "/api_jsonrpc.php")
    (body method params auth) (headers js auth) agent) .settle
  Async.ofExcept (resultOf js data)

def login (config : Json) : ZabbixProg Json := do
  let response ← call js config "user.login" (Properties.json
    [("username", config.get? "username"), ("password", config.get? "password")]) none
  match response with
  | some (.str token) => pure (.str token)
  | _ => throw (.error "Zabbix login failed: invalid response")

def resolveAuth (config : Json) : ZabbixProg ZabbixAuth :=
  match (config.get? "apiToken").filter Json.truthy with
  | some token => pure ⟨token, .bearer⟩
  | none =>
    if !isTruthy (config.get? "username") || !isTruthy (config.get? "password") then
      throw (.error "Missing Zabbix credentials (apiToken or username/password)")
    else do
      let token ← login js config
      pure ⟨token, .legacyAuthField⟩

/-! ### Operations -/

/-- The texts as an array. -/
def texts (items : List String) : Option Json := some (.arr (items.map .str))

/-- The users of a group as the only one. -/
def userGroups (groupId : Json) : Option Json :=
  some (.arr [.obj [("usrgrpid", groupId)]])

/-- `userId ? [userId] : undefined`. -/
def onlyId (userId : Option Json) : Option Json :=
  (userId.filter Json.truthy).map fun id => .arr [id]

/-- `params['filter'] ? { [field]: params['filter'] } : undefined`. -/
def searchFor (params : Json) (field : String) : Option Json :=
  ((params.get? "filter").filter Json.truthy).map fun filter => .obj [(field, filter)]

def limit (params : Json) : Option Json := nullish (params.get? "limit") (some (.num 50))

def buildZabbixCall (operation : String) (data params config : Json) :
    Except JsError ZabbixCall :=
  let enableGroupId := itemOf (nullish (config.get? "enableGroupId") (some (.str "7")))
  let disableGroupId := itemOf (nullish (config.get? "disableGroupId") (some (.str "9")))
  let userId := nullish (params.get? "id") (data.get? "id")
  match operation with
  | "user.create" => .ok ⟨"user.create", data⟩
  | "user.update" =>
    .ok ⟨"user.update", Properties.json (Properties.spread data ++ [("userid", userId)])⟩
  | "user.delete" => .ok ⟨"user.delete", .arr [itemOf userId]⟩
  | "user.get" => .ok ⟨"user.get", Properties.json [("userids", onlyId userId),
      ("output", texts ["userid", "username", "name", "surname", "usrgrps"])]⟩
  | "user.search" => .ok ⟨"user.get", Properties.json [("search", searchFor params "username"),
      ("output", texts ["userid", "username", "name", "surname", "usrgrps"]),
      ("limit", limit params)]⟩
  | "user.enable" | "user.unlock" =>
    .ok ⟨"user.update", Properties.json [("userid", userId), ("usrgrps", userGroups enableGroupId)]⟩
  | "user.disable" | "user.lock" =>
    .ok ⟨"user.update", Properties.json [("userid", userId), ("usrgrps", userGroups disableGroupId)]⟩
  | "user.changePassword" => .ok ⟨"user.update", Properties.json [("userid", userId),
      ("passwd", nullish (data.get? "newValue") (data.get? "password"))]⟩
  | "user.resolve" => .ok ⟨"user.get", Properties.json
      [("filter", some (Properties.json
        [("username", nullish (data.get? "username") (params.get? "username"))])),
      ("output", texts ["userid", "username", "name", "surname"])]⟩
  | "user.addAttributes" =>
    .ok ⟨"user.update", Properties.json ([("userid", userId)] ++ Properties.spread data)⟩
  | "user.removeAttributes" =>
    .ok ⟨"user.update", Properties.json ([("userid", userId)] ++
      (Properties.spread data).map fun (key, _) => (key, some (.str "")))⟩
  | "group.create" => .ok ⟨"usergroup.create", data⟩
  | "group.update" =>
    .ok ⟨"usergroup.update", Properties.json (Properties.spread data ++ [("usrgrpid", userId)])⟩
  | "group.delete" => .ok ⟨"usergroup.delete", .arr [itemOf userId]⟩
  | "group.get" => .ok ⟨"usergroup.get", Properties.json [("usrgrpids", onlyId userId),
      ("output", texts ["usrgrpid", "name"])]⟩
  | "group.search" => .ok ⟨"usergroup.get", Properties.json [("search", searchFor params "name"),
      ("output", texts ["usrgrpid", "name"]), ("limit", limit params)]⟩
  | "group.addMember" | "group.removeMember" =>
    .error (.error "group.addMember/removeMember must be handled in execute()")
  | "system.test" | "schema.get" => .ok ⟨"apiinfo.version", .obj []⟩
  | "sync.full" => .ok ⟨"user.get", Properties.json
      [("output", texts ["userid", "username", "name", "surname"])]⟩
  | "sync.incremental" => .ok ⟨"user.get", Properties.json
      [("output", texts ["userid", "username", "name", "surname"]),
      ("sortfield", some (.str "userid")), ("limit", some (.num 100))]⟩
  | operation => .ok ⟨operation, params⟩

/-! ### Members -/

/-- `response[0]`. -/
def firstGroup : Json → Option Json
  | .arr groups => groups.head?
  | .obj fields => fields.lookup "0"
  | _ => none

/-- `response[0]?.users ?? []`, which is searched and copied. -/
def groupUsers : Option Json → Except JsError (List Json)
  | none | some .null => .error (.error "Cannot read properties of undefined (reading '0')")
  | some response =>
    match nullish ((firstGroup response).bind (·.get? "users")) (some (.arr [])) with
    | some (.arr users) => .ok users
    | _ => .error (.error "currentUsers.find is not a function")

def getGroupUsers (config groupId : Json) (auth : ZabbixAuth) : ZabbixProg (List Json) := do
  let response ← call js config "usergroup.get" (Properties.json
    [("usrgrpids", some (.arr [groupId])), ("selectUsers", texts ["userid"])]) (some auth)
  Async.ofExcept (groupUsers response)

/-- `value === other`. Arrays and objects of two different texts are never the same. -/
def strictlyEqual : Json → Json → Bool
  | .null, .null => true
  | .bool b, .bool b' => b = b'
  | .num n, .num n' => n = n'
  | .str s, .str s' => s = s'
  | _, _ => false

/-- `u.userid === userId`. -/
def isUser (userId : Json) : Json → Except JsError Bool
  | .null => .error (.error "Cannot read properties of null (reading 'userid')")
  | user => .ok ((user.get? "userid").any fun id => strictlyEqual id userId)

/-- `{ userid: userId }`. -/
def userEntry (userId : Json) : Json := .obj [("userid", userId)]

/-- `currentUsers.find(..)`, by whether there is one. -/
def someUser (userId : Json) : List Json → Except JsError Bool
  | [] => .ok false
  | user :: users => do
    if ← isUser userId user then pure true else someUser userId users

/-- `currentUsers.filter(..)`. -/
def withoutUser (userId : Json) : List Json → Except JsError (List Json)
  | [] => .ok []
  | user :: users => do
    let found ← isUser userId user
    let rest ← withoutUser userId users
    pure (if found then rest else user :: rest)

def updatedUsers (operation : String) (currentUsers : List Json) (userId : Json) :
    Except JsError (List Json) :=
  if operation = "group.addMember" then do
    if ← someUser userId currentUsers then pure currentUsers
    else pure (currentUsers ++ [userEntry userId])
  else withoutUser userId currentUsers

/-- The group and the user of an operation on members. -/
def memberGroup (data params : Json) : Option Json :=
  nullish (params.get? "groupId") (nullish (data.get? "groupId")
    (nullish (params.get? "id") (data.get? "id")))

def memberUser (data params : Json) : Option Json :=
  nullish (params.get? "userId") (data.get? "userId")

/-- The list of members with the change. -/
def usersUpdate (groupId : Json) (users : List Json) : Json :=
  .obj [("usrgrpid", groupId), ("users", .arr users)]

def changeMembers (operation : String) (config groupId userId : Json) (auth : ZabbixAuth) :
    ZabbixProg (Option Json) := do
  let currentUsers ← getGroupUsers js config groupId auth
  let users ← Async.ofExcept (updatedUsers operation currentUsers userId)
  call js config "usergroup.update" (usersUpdate groupId users) (some auth)

/-! ### The connector -/

def isMemberOperation (operation : String) : Bool :=
  operation = "group.addMember" || operation = "group.removeMember"

/-- The `try` block. -/
def perform (operation : String) (config data params : Json) : ZabbixProg ConnectorResult :=
  if isMemberOperation operation then do
    let auth ← resolveAuth js config
    match (memberGroup data params).filter Json.truthy, (memberUser data params).filter Json.truthy with
    | some groupId, some userId => do
      let response ← changeMembers js operation config groupId userId auth
      pure ⟨true, response, none⟩
    | _, _ => pure ⟨false, none, some "Missing groupId or userId for group member operation"⟩
  else do
    let zabbixCall ← Async.ofExcept (buildZabbixCall operation data params config)
    let auth ← if zabbixCall.method = "apiinfo.version" then pure none
      else some <$> resolveAuth js config
    let response ← call js config zabbixCall.method zabbixCall.zabbixParams auth
    pure ⟨true, response, none⟩

def execute (payload : ConnectorPayload) : ZabbixProg ConnectorResult :=
  let config := payload.config.getD .null
  if !isTruthy (config.get? "baseUrl") then
    pure ⟨false, none, some "Missing Zabbix config (baseUrl)"⟩
  else
    tryCatch (perform js payload.operation config payload.data payload.params) fun error =>
      pure ⟨false, none, some error.message⟩

end ZabbixConnectorService

end IdmMw
