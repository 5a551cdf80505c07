import IdmMw.Library.Rewriting
import IdmMw.Library.UrlText
import IdmMw.Model.ZabbixConnector

/-!
# The connector for Passwork

`PassworkConnectorService`: users and user groups of Passwork.

* `buildRequest`: the request for an operation;
* `call`: one request, with its URL and headers;
* `resolveUserGroupMapping`, `applyUserGroupMapping`: the groups that a new user is added to;
* `execute`, which the middleware calls.

A configuration and a payload may be any JSON values. `encodeURIComponent` is the function itself.
-/

namespace IdmMw

open Async

/-! ### Requests -/

structure PassworkRequest where
  method : String
  path : String
  body : Option Json

inductive PassworkReq
  /-- the certificates and keys are read -/
  | httpsAgent (tls : Option Json)
  | request (url : String) (request : PassworkRequest) (headers : Settings)
      (httpsAgent : Option Json)

abbrev PassworkAns : PassworkReq → Type
  | .httpsAgent _ => Except JsError Unit
  -- the data of the response
  | .request _ _ _ _ => Except JsError Json

abbrev PassworkProg (α : Type) := Async JsError PassworkAns α

namespace PassworkConnectorService

variable (js : Runtime)

/-! ### Values -/

/-- A value that is neither `undefined` nor `null` nor the empty text. -/
def isGiven : Option Json → Bool
  | none | some .null | some (.str "") => false
  | _ => true

def firstValue (values : List (Option Json)) : Option Json := (values.find? isGiven).join

def toOptionalString : Option Json → Option String
  | some (.str text) => some text
  | some (.num n) => some (js.numberText n)
  | some (.bool b) => some (if b then "true" else "false")
  | _ => none

def requireId : Option String → Except JsError String
  | none => .error (.error "Missing id for Passwork operation")
  | some value =>
    if value = "" then .error (.error "Missing id for Passwork operation")
    else .ok (String.ofList (Url.encodeURIComponent value.toList))

def toQueryValue (value : Json) : String :=
  (toOptionalString js (some value)).getD (js.stringify value)

/-- A key or a value of a query, as `URLSearchParams` writes it. -/
def formText (text : String) : List Char := text.toList.flatMap fun c =>
  if c = ' ' then ['+']
  else Url.percentEncode (fun c => !(c.isAlphanum || "*-._".toList.contains c)) [c]

/-- The pairs of a query: an array is written with one pair for each item. -/
def queryPairs (query : Settings) : List (String × String) := query.flatMap fun (key, value) =>
  if !isGiven (some value) then []
  else match value with
    | .arr items => items.map fun item => (key, toQueryValue js item)
    | value => [(key, toQueryValue js value)]

def appendQuery (path : String) (query : Settings) : String :=
  match queryPairs js query with
  | [] => path
  | pairs => path ++ "?" ++ String.ofList (List.intercalate ['&']
      (pairs.map fun (key, value) => formText key ++ '=' :: formText value))

def pickQuery (source : Json) (defaults : Properties) : Settings :=
  (OrderedMap.ofEntries (Properties.spread source ++ defaults)).filterMap fun (key, value) =>
    if isGiven value && key ≠ "id" && key ≠ "userId" && key ≠ "groupId" then value.map (key, ·)
    else none

def searchQuery (data params : Json) : Settings := pickQuery params [
  ("search", firstValue [params.get? "search", data.get? "search", params.get? "query",
    data.get? "query", params.get? "filter", data.get? "filter"]),
  ("limit", firstValue [params.get? "limit", data.get? "limit"]),
  ("offset", firstValue [params.get? "offset", data.get? "offset"])]

def resolveQuery (data params : Json) : Settings := pickQuery params [
  ("username", firstValue [params.get? "username", data.get? "username", params.get? "login",
    data.get? "login"]),
  ("email", firstValue [params.get? "email", data.get? "email"]),
  ("search", firstValue [params.get? "filter", data.get? "filter", params.get? "query",
    data.get? "query", params.get? "username", data.get? "username", params.get? "email",
    data.get? "email"])]

def memberUserIds (data params : Json) : List String :=
  match firstValue [data.get? "userIds", params.get? "userIds"] with
  | some (.arr items) =>
    (items.filterMap fun item => toOptionalString js (some item)).filter (· ≠ "")
  | _ => ((toOptionalString js (firstValue [params.get? "userId", data.get? "userId"])).filter
      (· ≠ "")).toList

/-! ### The request for an operation -/

def userId (data params : Json) : Option String := toOptionalString js
  (firstValue [params.get? "id", data.get? "id", params.get? "userId", data.get? "userId"])

def groupId (data params : Json) : Option String := toOptionalString js
  (firstValue [params.get? "groupId", data.get? "groupId", params.get? "id", data.get? "id"])

/-- A request for one user or one group, with its id in the path. -/
def objectRequest (method collection : String) (id : Option String) (action : String)
    (body : Option Json) : Except JsError PassworkRequest := do
  let id ← requireId id
  pure ⟨method, collection ++ id ++ action, body⟩

def memberRequest (action : String) (data params : Json) : Except JsError PassworkRequest :=
  match memberUserIds js data params with
  | [] => .error (.error "Missing userId or userIds for group member operation")
  | userIds => objectRequest "POST" "/user-groups/" (groupId js data params) action
      (some (.obj [("userIds", .arr (userIds.map .str))]))

def buildRequest (operation : String) (data params : Json) : Except JsError PassworkRequest :=
  let id := userId js data params
  let groupId := groupId js data params
  match operation with
  | "user.create" => .ok ⟨"POST", "/users", some data⟩
  | "user.update" => objectRequest "PATCH" "/users/" id "" (some data)
  | "user.delete" => objectRequest "DELETE" "/users/" id "" none
  | "user.get" => objectRequest "GET" "/users/" id "" none
  | "user.search" => .ok ⟨"GET", appendQuery js "/users" (searchQuery data params), none⟩
  | "user.resolve" => .ok ⟨"GET", appendQuery js "/users" (resolveQuery data params), none⟩
  | "user.disable" | "user.lock" => objectRequest "POST" "/users/" id "/block" none
  | "user.enable" | "user.unlock" => objectRequest "POST" "/users/" id "/unblock" none
  | "group.create" => .ok ⟨"POST", "/user-groups", some data⟩
  | "group.update" => objectRequest "POST" "/user-groups/" groupId "" (some data)
  | "group.delete" => objectRequest "DELETE" "/user-groups/" groupId "" none
  | "group.get" => objectRequest "GET" "/user-groups/" groupId "" none
  | "group.search" => .ok ⟨"GET", appendQuery js "/user-groups" (searchQuery data params), none⟩
  | "group.addMember" => memberRequest js "/add-users" data params
  | "group.removeMember" => memberRequest js "/remove-users" data params
  | "system.test" => .ok ⟨"GET", "/sessions/current/info", none⟩
  | operation => .error (.error s!"Unsupported Passwork operation: {operation}")

/-! ### Calls -/

def getAuthToken (config : Json) : Option Json :=
  ((config.get? "accessToken").filter Json.truthy).or
    ((config.get? "apiToken").filter Json.truthy)

/-- `baseUrl.replace(/\/+$/, '')`. -/
def withoutSlashes (baseUrl : String) : List Char :=
  (baseUrl.toList.reverse.dropWhile (· = '/')).reverse

def apiBaseUrl (baseUrl : String) : String := String.ofList (withoutSlashes baseUrl) ++ "/api/v1"

/-- `assertTlsUrl(url, 'Passwork')`. -/
def assertTlsUrl (url : String) : Except JsError Unit :=
  if "https://".toList.isPrefixOf (js.toLowerCase url).toList then .ok ()
  else .error (.error "Passwork TLS is enabled, but URL does not use https://")

/-- `this.tlsOptions.axiosConfig(config.baseUrl, config.tls, 'Passwork')`. -/
def axiosConfig (baseUrl : String) (tls : Option Json) : PassworkProg (Option Json) :=
  if !TlsOptionsFactory.isOn tls then pure none
  else do
    Async.ofExcept (assertTlsUrl js baseUrl)
    await (.httpsAgent tls) .settle
    pure tls

def headers (config token : Json) : Settings :=
  [("Content-Type", .str "application/json"),
    ("Authorization", .str ("Bearer " ++ token.toText js.numberText)),
    ("X-Response-Format", itemOf (nullish (config.get? "responseFormat") (some (.str "raw"))))] ++
  (((config.get? "masterKeyHash").filter Json.truthy).map fun hash =>
    ("Passwork-MasterKeyHash", hash)).toList

def call (config : Json) (request : PassworkRequest) : PassworkProg Json :=
  match config.get? "baseUrl" with
  | some (.str baseUrl) =>
    match getAuthToken config with
    | none => throw (.error "Missing Passwork config (accessToken or apiToken)")
    | some token => do
      let agent ← axiosConfig js baseUrl (config.get? "tls")
      await (.request (apiBaseUrl baseUrl ++ request.path) request (headers js config token) agent)
        .settle
  | _ => throw (.error "baseUrl.replace is not a function")

/-! ### Groups of a new user -/

/-- The first of the members that is an array. -/
def collectionItems : Json → List Json
  | .arr items => items
  | .obj fields => (["groups", "data", "items", "rows"].findSome? fun key =>
      match fields.lookup key with
      | some (.arr items) => some items
      | _ => none).getD []
  | _ => []

/-- The row in which the key has the value. -/
def findRow (key value : String) : List Json → Except JsError (Option Json)
  | [] => .ok none
  | .null :: _ => .error (.error s!"Cannot read properties of null (reading '{key}')")
  | row :: rows =>
    if toOptionalString js (row.get? key) = some value then .ok (some row)
    else findRow key value rows

/-- The id of the group that the value is for. -/
def groupIdOf (key : String) (groups : List Json) (value : String) : Except JsError String := do
  let row ← findRow js key value groups
  match (toOptionalString js (row.bind (·.get? "id"))).filter (· ≠ "") with
  | some id => pure id
  | none => throw (.error s!"Passwork user group not found by {key}: {value}")

def resolveGroupIds (config : Json) (values : List String) (key : String) :
    PassworkProg (List String) := do
  let response ← call js config ⟨"GET", appendQuery js "/user-groups" [("limit", .num 500)], none⟩
  Async.ofExcept (values.eraseDups.mapM (groupIdOf js key (collectionItems response)))

/-- What the groups of the configuration and of the payload refer to. -/
def groupRefs (config data : Json) : Except JsError (GroupMappingMode × List String) := do
  let mapping ← groupMappingSettings config
  let defaults ← if mapping.enabled && (config.get? "defaultGroups").isSome then
      groupRefTexts js (config.get? "defaultGroups") mapping.mode "defaultGroups"
    else pure []
  let incoming ← if mapping.enabled then
      groupRefTexts js (data.get? "groups") mapping.mode "groups"
    else pure []
  pure (mapping.mode, defaults ++ incoming)

def resolveUserGroupMapping (config data : Json) : PassworkProg (List String) := do
  let (mode, refs) ← Async.ofExcept (groupRefs js config data)
  if refs = [] then pure []
  else if mode = .id then pure refs
  else resolveGroupIds js config refs mode.text

def responseId : Json → Option String
  | .obj fields =>
    (toOptionalString js (fields.lookup "id")).or
      (toOptionalString js ((fields.lookup "data").bind (·.get? "id")))
  | _ => none

/-- The user is added to the groups, one after the other. -/
def addToGroups (config : Json) (userId : String) : List String → PassworkProg Unit
  | [] => pure ()
  | groupId :: groupIds => do
    let request ← Async.ofExcept (objectRequest "POST" "/user-groups/" (some groupId) "/add-users"
      (some (.obj [("userIds", .arr [.str userId])])))
    let _ ← call js config request
    addToGroups config userId groupIds

def applyUserGroupMapping (config data response : Json) (groupIds : List String) :
    PassworkProg Unit :=
  if groupIds = [] then pure ()
  else match ((responseId js response).or (toOptionalString js (data.get? "id"))).filter (· ≠ "") with
    | none => throw (.error "Passwork user.create did not return user id for group mapping")
    | some userId => addToGroups js config userId groupIds

/-! ### The connector -/

def unsupportedOperations : List (String × String) := [
  ("user.changePassword", "Passwork password item and secret rotation operations are out of scope for the IAM connector."),
  ("user.addAttributes", "Passwork user custom attribute mapping is not defined in the v1 IAM connector."),
  ("user.removeAttributes", "Passwork user custom attribute removal mapping is not defined in the v1 IAM connector."),
  ("sync.incremental", "Passwork API overview does not expose a stable IDM change cursor; use sync.full.")]

def isUserWriteOperation (operation : String) : Bool :=
  operation = "user.create" || operation = "user.update"

def withoutGenericGroups (data : Json) : Json :=
  .obj ((RestConnectorService.entries (some data)).filter fun (key, _) => key ≠ "groups")

/-- `current.split(secret).join('[REDACTED]')`; an empty text separates all characters. -/
def redact (current : List Char) (secret : Json) : List Char :=
  let word := (secret.toText js.numberText).toList
  if word = [] then (current.map fun c => [c]).intersperse secretRedactionCensor.toList |>.flatten
  else Rewriting.replace (Rewriting.literal word secretRedactionCensor.toList) current

def sanitizeError (error : JsError) (config : Json) : String :=
  String.ofList ((["accessToken", "apiToken", "masterKeyHash"].filterMap fun key =>
    (config.get? key).filter Json.truthy).foldl (redact js) error.message.toList)

/-- `Promise.all` of two calls: both are made, whatever becomes of the first. -/
def both (first second : PassworkProg Json) : PassworkProg (Json × Json) :=
  first.andThen fun x => second.andThen fun y => .settle (do
    let a ← x
    let b ← y
    pure (a, b))

def schemaAttribute (name type : String) (required multiValued : Bool) : Json :=
  .obj [("name", .str name), ("type", .str type), ("required", .bool required),
    ("multiValued", .bool multiValued)]

def localSchema : Json :=
  .obj [("objectClasses", .arr [
    .obj [("name", .str "user"), ("attributes", .arr [
      schemaAttribute "id" "string" false false, schemaAttribute "username" "string" true false,
      schemaAttribute "email" "string" false false, schemaAttribute "roleId" "string" false false,
      schemaAttribute "isBlocked" "boolean" false false])],
    .obj [("name", .str "group"), ("attributes", .arr [
      schemaAttribute "id" "string" false false, schemaAttribute "name" "string" true false,
      schemaAttribute "userIds" "array" false true])]])]

/-- `sync(payload, 'full')`, on a configuration that has been checked. -/
def syncFull (config params : Json) : PassworkProg Json := do
  let query := pickQuery params [
    ("limit", nullish (params.get? "limit") (some (.num 500))), ("offset", params.get? "offset")]
  let (users, groups) ← both (call js config ⟨"GET", appendQuery js "/users" query, none⟩)
    (call js config ⟨"GET", appendQuery js "/user-groups" query, none⟩)
  pure (.obj [("mode", .str "full"), ("users", users), ("groups", groups)])

def callOperation (operation : String) (config data params : Json) : PassworkProg Json := do
  let request ← Async.ofExcept (buildRequest js operation
    (if isUserWriteOperation operation then withoutGenericGroups data else data) params)
  if operation = "user.create" then
    let groupIds ← resolveUserGroupMapping js config data
    let response ← call js config request
    applyUserGroupMapping js config data response groupIds
    pure response
  else call js config request

/-- The `try` block. -/
def perform (operation : String) (config data params : Json) : PassworkProg Json :=
  match operation with
  | "schema.get" => pure localSchema
  | "sync.full" => syncFull js config params
  | operation => callOperation js operation config data params

def execute (payload : ConnectorPayload) : PassworkProg ConnectorResult :=
  match payload.config.filter fun config => isTruthy (config.get? "baseUrl") with
  | none => pure ⟨false, none, some "Missing Passwork config (baseUrl)"⟩
  | some config =>
    if (getAuthToken config).isNone then
      pure ⟨false, none, some "Missing Passwork config (accessToken or apiToken)"⟩
    else match unsupportedOperations.lookup payload.operation with
      | some reason =>
        pure ⟨false, none, some s!"Unsupported Passwork operation: {payload.operation}. {reason}"⟩
      | none =>
        tryCatch (do
          let response ← perform js payload.operation config payload.data payload.params
          pure ⟨true, some response, none⟩) fun error =>
          pure ⟨false, none, some (sanitizeError js error config)⟩

end PassworkConnectorService

end IdmMw
