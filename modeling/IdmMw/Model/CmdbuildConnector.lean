import IdmMw.Library.UrlText
import IdmMw.Model.PassworkConnector

/-!
# The connector for CMDBuild

`CmdbuildConnectorService`: users and roles of CMDBuild, through its REST interface.

* `call`: one request, with a session that is opened where there is none, and once more with a new
  session where the old one is refused;
* `applyCmdbuildUserGroups`: the groups of a new user, and `resolveRoleNames`;
* `updateUserRoleMembership`: the roles of a user are read and written back;
* `executeStatefulOperation`, `buildRequest`: the requests for an operation;
* `execute`, which the middleware calls.

A configuration and a payload may be any JSON values, and so may the answers of the interface.
-/

namespace IdmMw

open Async

/-! ### Requests -/

inductive CmdbuildReq
  /-- `sessionTokens`, which all operations share -/
  | getSession (key : String)
  | setSession (key sessionId : String)
  | deleteSession (key : String)
  | sessionIds
  /-- the certificates and keys are read -/
  | httpsAgent (tls : Option Json)
  | request (method url : String) (body : Option Json) (headers : Settings)
      (httpsAgent : Option Json)

/-- What is thrown, with the status of the response that it is about. -/
structure CmdbuildFailure where
  error : JsError
  status : Option ℕ

abbrev CmdbuildAns : CmdbuildReq → Type
  | .getSession _ => Option String
  | .setSession _ _ => Unit
  | .deleteSession _ => Unit
  | .sessionIds => List String
  | .httpsAgent _ => Except CmdbuildFailure Unit
  -- the data of the response
  | .request _ _ _ _ _ => Except CmdbuildFailure Json

abbrev CmdbuildProg (α : Type) := Async CmdbuildFailure CmdbuildAns α

inductive CmdbuildAuthMode
  | session
  | basic
  deriving DecidableEq

inductive CmdbuildGroupMode
  | id
  | name
  deriving DecidableEq

/-- The mode as one of the modes of all connectors. -/
def CmdbuildGroupMode.mapping : CmdbuildGroupMode → GroupMappingMode
  | id => .id
  | name => .name

/-- Whether groups are mapped, and how. -/
structure CmdbuildGroupSettings where
  enabled : Bool
  mode : CmdbuildGroupMode
  values : List Json

/-- What the connector makes of texts: an encoding, a hash, and messages without secrets. -/
structure CmdbuildTexts where
  /-- `Buffer.from(text).toString('base64')` -/
  base64 : String → String
  /-- `fixedLengthFingerprint(value, purpose)` -/
  fixedLengthFingerprint : String → String → String
  /-- `safeErrorMessage(error, config)`, with the ids of the open sessions -/
  safeErrorMessage : JsError → Json → List String → String

namespace CmdbuildConnectorService

variable (js : Runtime) (texts : CmdbuildTexts)

/-- A check, or what it throws. -/
def checked {α : Type} (x : Except JsError α) : CmdbuildProg α :=
  Async.ofExcept (x.mapError fun error => ⟨error, none⟩)

def safeErrorMessage (failure : CmdbuildFailure) (config : Json) : CmdbuildProg String :=
  await .sessionIds fun ids => Pure.pure (texts.safeErrorMessage failure.error config ids)

/-! ### Sessions -/

/-- `config.apiPath ?? '/cmdbuild/services/rest/v3'`. -/
def getApiPath (config : Json) : Option Json :=
  nullish (config.get? "apiPath") (some (.str "/cmdbuild/services/rest/v3"))

/-- `${config.baseUrl}${apiPath}${path}`. -/
def apiUrl (config : Json) (path : String) : String :=
  templateText js (config.get? "baseUrl") ++ templateText js (getApiPath config) ++ path

def getBasicAuthHeader (config : Json) : String :=
  "Basic " ++ texts.base64
    (templateText js (config.get? "username") ++ ":" ++ templateText js (config.get? "password"))

def normalizeAuthMode (config : Json) : Except JsError CmdbuildAuthMode :=
  match config.get? "authMode" with
  | none | some .null => .ok .session
  | some (.str raw) =>
    let normalized := (trimmed raw).map Char.toLower
    if normalized = [] ∨ normalized = "session".toList then .ok .session
    else if normalized = "basic".toList then .ok .basic
    else .error (.error "Invalid CMDBuild authMode: expected session or basic")
  | some _ => .error (.error "Invalid CMDBuild authMode: expected session or basic")

/-- An element of `[..].join('|')`. -/
def joined : Option Json → String
  | none | some .null => ""
  | some value => value.toText js.numberText

/-- The hash of the password, which has to be a text. -/
def fingerprint : Option Json → Except JsError String
  | none | some .null => .ok (texts.fixedLengthFingerprint "" "cmdbuild-session-cache")
  | some (.str password) => .ok (texts.fixedLengthFingerprint password "cmdbuild-session-cache")
  | some _ => .error (.error "The \"data\" argument must be of type string")

def sessionCacheKey (config : Json) : Except JsError String :=
  match config.get? "baseUrl" with
  | some (.str baseUrl) => do
    let mode ← normalizeAuthMode config
    let password ← fingerprint texts (config.get? "password")
    pure ("|".intercalate [String.ofList (PassworkConnectorService.withoutSlashes baseUrl),
      joined js (getApiPath config), joined js (config.get? "username"),
      if mode = .session then "session" else "basic", password])
  | _ => .error (.error "config.baseUrl.replace is not a function")

/-- A text that is not blank, as it is. -/
def sessionText : Option Json → Option String
  | some (.str text) => if (nonBlank text).isSome then some text else none
  | _ => none

def extractSessionId (value : Json) : Option String :=
  (sessionText (value.get? "_id")).or (sessionText ((value.get? "data").bind (·.get? "_id")))

/-- `assertTlsUrl(url, 'CMDBuild')`. -/
def assertTlsUrl : Option Json → Except JsError Unit
  | some (.str url) =>
    if "https://".toList.isPrefixOf (js.toLowerCase url).toList then .ok ()
    else .error (.error "CMDBuild TLS is enabled, but URL does not use https://")
  | _ => .error (.error "url.toLowerCase is not a function")

/-- `this.tlsOptions.axiosConfig(config.baseUrl, config.tls, 'CMDBuild')`. -/
def axiosConfig (config : Json) : CmdbuildProg (Option Json) :=
  if !TlsOptionsFactory.isOn (config.get? "tls") then Pure.pure none
  else do
    checked (assertTlsUrl js (config.get? "baseUrl"))
    await (.httpsAgent (config.get? "tls")) .settle
    Pure.pure (config.get? "tls")

def contentType : String × Json := ("Content-Type", .str "application/json")

/-- A session is opened, and its id kept under the key. -/
def openSession (config : Json) (key : String) : CmdbuildProg String := do
  let agent ← axiosConfig js config
  let data ← await (.request "POST" (apiUrl js config "/sessions?scope=service&returnId=true")
    (some (Properties.json
      [("username", config.get? "username"), ("password", config.get? "password")]))
    [contentType] agent) .settle
  match extractSessionId data with
  | none => throw ⟨.error "CMDBuild session response did not include _id", none⟩
  | some sessionId => do
    await (.setSession key sessionId) fun _ => Pure.pure ()
    Pure.pure sessionId

def getSessionId (config : Json) : CmdbuildProg String := do
  let key ← checked (sessionCacheKey js texts config)
  let cached ← await (.getSession key) fun cached => Pure.pure (cached.filter (· ≠ ""))
  match cached with
  | some sessionId => Pure.pure sessionId
  | none => tryCatch (openSession js config key) fun failure => do
      let message ← safeErrorMessage texts failure config
      throw ⟨.error s!"CMDBuild session authentication failed: {message}", none⟩

def getAuthHeaders (config : Json) (authMode : CmdbuildAuthMode) : CmdbuildProg (String × Json) :=
  match authMode with
  | .basic => Pure.pure ("Authorization", .str (getBasicAuthHeader js texts config))
  | .session => do
    let sessionId ← getSessionId js texts config
    Pure.pure ("Cmdbuild-Authorization", .str sessionId)

/-! ### Groups of a new user: settings -/

def groupMode (value : Option Json) (fieldName : String) : Except JsError CmdbuildGroupMode :=
  match value with
  | none | some .null | some (.str "") => .ok .id
  | some (.str text) =>
    let normalized := (trimmed text).map Char.toLower
    if normalized = "id".toList then .ok .id
    else if normalized = "name".toList then .ok .name
    else .error (.error s!"Invalid CMDBuild {fieldName}: expected id or name")
  | some _ => .error (.error s!"Invalid CMDBuild {fieldName}: expected id or name")

def incomingGroupSettings (config : Json) : Except JsError CmdbuildGroupSettings := do
  let mode ← groupMode (config.get? "incomingGroupsMode") "incomingGroupsMode"
  pure ⟨TargetSystemService.booleanConfig (config.get? "incomingGroupsEnabled"), mode, []⟩

def hasModernDefault (config : Json) : Bool :=
  (config.get? "defaultUserGroupEnabled").isSome || (config.get? "defaultUserGroupMode").isSome ||
    (config.get? "defaultUserGroupValue").isSome

def defaultGroupSettings (config : Json) : Except JsError CmdbuildGroupSettings := do
  let legacyValue := config.get? "defaultUserGroupId"
  let values := ((config.get? "defaultUserGroupValue").or legacyValue).toList
  if hasModernDefault config then
    let mode ← groupMode (config.get? "defaultUserGroupMode") "defaultUserGroupMode"
    pure ⟨TargetSystemService.booleanConfig (config.get? "defaultUserGroupEnabled"), mode, values⟩
  else pure ⟨legacyValue.isSome, .id, values⟩

/-! ### Calls -/

/-- `path` up to its query. -/
def safePath (path : String) : List Char := path.toList.takeWhile (· ≠ '?')

/-- What is logged of a new user. The settings of its groups are read for it, and may be refused. -/
def logUserCreateDiagnostic (config : Json) (method path : String) : Except JsError Unit :=
  if method ≠ "POST" ∨ safePath path ≠ "/users".toList then .ok ()
  else do
    let _ ← defaultGroupSettings config
    let _ ← incomingGroupSettings config
    pure ()

/-- The `try` block of `call`. -/
def send (config : Json) (authMode : CmdbuildAuthMode) (method path : String)
    (body : Option Json) : CmdbuildProg Json := do
  checked (logUserCreateDiagnostic config method path)
  let authHeader ← getAuthHeaders js texts config authMode
  let agent ← axiosConfig js config
  await (.request method (apiUrl js config path) body [contentType, authHeader] agent) .settle

def isSessionAuthFailure (failure : CmdbuildFailure) : Bool :=
  failure.status = some 401 || failure.status = some 403

def call (config : Json) (method path : String) (body : Option Json) : CmdbuildProg Json := do
  let authMode ← checked (normalizeAuthMode config)
  tryCatch (send js texts config authMode method path body) fun failure =>
    if authMode = .session ∧ isSessionAuthFailure failure = true then do
      let key ← checked (sessionCacheKey js texts config)
      await (.deleteSession key) fun _ => Pure.pure ()
      send js texts config authMode method path body
    else throw failure

/-! ### Values -/

/-- The first value that is neither `undefined` nor `null` nor the empty text. -/
def firstQueryValue (values : List (Option Json)) : Option Json :=
  PassworkConnectorService.firstValue values

def toQueryString : Json → String
  | .str text => text
  | .num n => js.numberText n
  | .bool b => if b then "true" else "false"
  | value => js.stringify value

def appendQuery (path : String) (query : Properties) : String :=
  match query.filterMap fun (key, value) =>
      (value.filter fun value => PassworkConnectorService.isGiven (some value)).map (key, ·) with
  | [] => path
  | pairs => path ++ "?" ++ String.ofList (List.intercalate ['&'] (pairs.map fun (key, value) =>
      PassworkConnectorService.formText key ++ '=' ::
        PassworkConnectorService.formText (toQueryString js value)))

/-- The filter for a value; a text that begins like JSON is taken as a filter itself. -/
def buildSimpleFilter (field : String) (value : Option Json) (operator : String) :
    Option Json :=
  match firstQueryValue [value] with
  | none => none
  | some (.arr items) => some (.str (js.stringify (.arr items)))
  | some (.obj fields) => some (.str (js.stringify (.obj fields)))
  | some normalized =>
    match nonBlank (toQueryString js normalized) with
    | none => none
    | some text =>
      if text.toList.head? = some '\x7b' ∨ text.toList.head? = some '[' then some (.str text)
      else some (.str (js.stringify (.obj [("attribute", .obj [("simple", .obj
        [("attribute", .str field), ("operator", .str operator),
          ("value", .arr [.str text])])])])))

/-- The id as a segment of a path. -/
def pathSegment (value : Option Json) (name : String) : Except JsError String :=
  let segment (text : List Char) : Except JsError String :=
    let lower := text.map Char.toLower
    if text = [] ∨ text = ".".toList ∨ text = "..".toList ∨
        (text.any fun c => ['/', '\\', '?', '#'].contains c) = true ∨
        (lower.tails.any fun rest => "%2f".toList.isPrefixOf rest || "%5c".toList.isPrefixOf rest) =
          true then
      .error (.error s!"Invalid CMDBuild path segment: {name}")
    else .ok (String.ofList (Url.encodeURIComponent text))
  match value with
  | some (.str text) => segment (trimmed text)
  | some (.num n) => segment (trimmed (js.numberText n))
  | _ => .error (.error s!"Missing {name}")

/-- The path of a user or a role. -/
def objectPath (collection : String) (value : Option Json) : Except JsError String := do
  let segment ← pathSegment js value "id"
  pure (collection ++ segment)

/-! ### Objects that are read and written back -/

/-- `response.data`, of a response that is an object with one. -/
def getEntity (config : Json) (path : String) : CmdbuildProg Json := do
  let response ← call js texts config "GET" path none
  match response with
  | .null => throw ⟨.error "Cannot read properties of null (reading 'data')", none⟩
  | response =>
    match (response.get? "data").filter Json.truthy with
    | none => throw ⟨.error s!"CMDBuild entity not found: {path}", none⟩
    | some entity => Pure.pure entity

/-- `{ ...value }`. -/
def fieldsOf (value : Json) : Settings := RestConnectorService.entries (some value)

def putMerged (config : Json) (path : String) (patch : Settings) : CmdbuildProg Json := do
  let current ← getEntity js texts config path
  call js texts config "PUT" path (some (.obj (OrderedMap.assign (fieldsOf current) patch)))

/-! ### Groups of a new user -/

def withoutGenericGroups (data : Json) : Settings :=
  (fieldsOf data).filter fun (key, _) => key ≠ "groups"

/-- The rows are put into the map by their names, one after the other. -/
def byName (m : Settings) : List Json → Except JsError Settings
  | [] => .ok m
  | .null :: _ => .error (.error "Cannot read properties of null (reading 'name')")
  | row :: rows =>
    match row.get? "name" with
    | some (.str name) => byName (OrderedMap.set m name row) rows
    | _ => byName m rows

/-- The id of the role with the name. -/
def roleId (rows : Settings) (name : String) : Except JsError GroupValue :=
  match (rows.lookup name).bind (·.get? "_id") with
  | some (.str id) =>
    if id = "" then .error (.error s!"CMDBuild role not found by name: {name}") else .ok (.str id)
  | some (.num id) => .ok (.num id)
  | _ => .error (.error s!"CMDBuild role not found by name: {name}")

/-- `Array.isArray(response.data) ? response.data : []`. -/
def rowsOf : Json → Except JsError (List Json)
  | .null => .error (.error "Cannot read properties of null (reading 'data')")
  | response =>
    match response.get? "data" with
    | some (.arr rows) => .ok rows
    | _ => .ok []

def resolveRoleNames (config : Json) (names : List String) : CmdbuildProg (List GroupValue) :=
  if names = [] then Pure.pure []
  else do
    let response ← call js texts config "GET" (appendQuery js "/roles" [("limit", some (.num 500))])
      none
    let rows ← checked (rowsOf response)
    let rows ← checked (byName [] rows)
    checked (names.eraseDups.mapM (roleId rows))

def GroupValue.json : GroupValue → Json
  | .str text => .str text
  | .num n => .num n

/-- `[{ _id: .. }, ..]`. -/
def groupEntries (values : List GroupValue) : Json :=
  .arr (values.map fun value => .obj [("_id", GroupValue.json value)])

def toCmdbuildUserGroups (config : Json) (mode : CmdbuildGroupMode) (values : List Json) :
    CmdbuildProg (List GroupValue) := do
  let normalized ← checked (groupRefValues (some (.arr values)) mode.mapping "groups")
  match mode with
  | .id => Pure.pure normalized
  | .name => resolveRoleNames js texts config (normalized.map (GroupValue.text js))

/-- The body with the groups, and the fields that it needs. -/
def withUserGroups (data : Json) (userGroups : List GroupValue) : Settings :=
  OrderedMap.assign
    (OrderedMap.assign [("active", .bool true), ("service", .bool false), ("language", .str "en")]
      (withoutGenericGroups data))
    [("userGroups", groupEntries userGroups)]

/-- `data['groups']`, if incoming groups are mapped and it is an array. -/
def incomingValues (settings : CmdbuildGroupSettings) (data : Json) : Option (List Json) :=
  match data.get? "groups" with
  | some (.arr values) => if settings.enabled then some values else none
  | _ => none

/-- The groups of the configuration. -/
def applyDefaultGroups (config data : Json) : CmdbuildProg Settings := do
  let settings ← checked (defaultGroupSettings config)
  if !settings.enabled || settings.values.isEmpty then Pure.pure (withoutGenericGroups data)
  else do
    let userGroups ← toCmdbuildUserGroups js texts config settings.mode settings.values
    Pure.pure (withUserGroups data userGroups)

def applyCmdbuildUserGroups (config data : Json) : CmdbuildProg Settings :=
  if (data.get? "userGroups").isSome then Pure.pure (withoutGenericGroups data)
  else do
    let settings ← checked (incomingGroupSettings config)
    match incomingValues settings data with
    | none => applyDefaultGroups js texts config data
    | some values => do
      let userGroups ← toCmdbuildUserGroups js texts config settings.mode values
      if userGroups.isEmpty then applyDefaultGroups js texts config data
      else Pure.pure (withUserGroups data userGroups)

/-! ### The roles of a user -/

/-- `Array.isArray(user['userGroups']) ? user['userGroups'] : []`. -/
def currentGroups (user : Json) : List Json :=
  match user.get? "userGroups" with
  | some (.arr groups) => groups
  | _ => []

/-- `String(group['_id'])`. -/
def groupText (js : Runtime) : Json → Except JsError String
  | .null => .error (.error "Cannot read properties of null (reading '_id')")
  | group => .ok (templateText js (group.get? "_id"))

/-- `currentGroups.some(..)`. -/
def someGroup (roleId : Json) : List Json → Except JsError Bool
  | [] => .ok false
  | group :: groups => do
    let text ← groupText js group
    if text = roleId.toText js.numberText then pure true else someGroup roleId groups

/-- `currentGroups.filter(..)`. -/
def withoutGroup (roleId : Json) : List Json → Except JsError (List Json)
  | [] => .ok []
  | group :: groups => do
    let text ← groupText js group
    let rest ← withoutGroup roleId groups
    pure (if text = roleId.toText js.numberText then rest else group :: rest)

/-- `{ _id: group['_id'] }`. -/
def groupId : Json → Except JsError Json
  | .null => .error (.error "Cannot read properties of null (reading '_id')")
  | group => .ok (Properties.json [("_id", group.get? "_id")])

def nextGroups (roleId : Json) (add : Bool) (groups : List Json) : Except JsError (List Json) := do
  let hasRole ← someGroup js roleId groups
  if add then pure (if hasRole then groups else groups ++ [.obj [("_id", roleId)]])
  else withoutGroup js roleId groups

/-- The user with the changed roles. -/
def changedUser (roleId : Json) (add : Bool) (user : Json) : Except JsError Json := do
  let groups ← nextGroups js roleId add (currentGroups user)
  let groups ← groups.mapM groupId
  pure (.obj (OrderedMap.assign (fieldsOf user) [("userGroups", .arr groups)]))

def updateUserRoleMembership (config roleId userId : Json) (add : Bool) : CmdbuildProg Json := do
  let segment ← checked (pathSegment js (some userId) "userId")
  let user ← getEntity js texts config ("/users/" ++ segment)
  let changed ← checked (changedUser js roleId add user)
  call js texts config "PUT" ("/users/" ++ segment) (some changed)

/-! ### Roles -/

/-- `Number(value)`, where it is a positive whole number. -/
def toPositiveInteger (value : Option Json) (fallback : ℕ) : ℕ :=
  match value.bind Json.toNumber with
  | some n => if n.den = 1 ∧ 0 < n then n.num.toNat else fallback
  | none => fallback

/-- A name or a description that the search looks into. -/
def rowTexts : Json → Except JsError (List String)
  | .null => .error (.error "Cannot read properties of null (reading 'name')")
  | row => .ok ([row.get? "name", row.get? "description"].filterMap fun value =>
      (nullish value none).map (toQueryString js))

def hasText (needle : List Char) (text : String) : Bool :=
  (js.toLowerCase text).toList.tails.any needle.isPrefixOf

def matchingRows (needle : List Char) : List Json → Except JsError (List Json)
  | [] => .ok []
  | row :: rows => do
    let texts ← rowTexts js row
    let rest ← matchingRows needle rows
    pure (if texts.any (hasText js needle) then row :: rest else rest)

def searchRoles (config : Json) (filter limitValue : Option Json) : CmdbuildProg Json := do
  let requestedLimit := toPositiveInteger limitValue 50
  let sourceLimit := max requestedLimit 500
  let response ← call js texts config "GET"
    (appendQuery js "/roles" [("limit", some (.num sourceLimit))]) none
  let rows ← checked (rowsOf response)
  let needle := ((firstQueryValue [filter]).map fun text =>
    (js.toLowerCase (trim (toQueryString js text))).toList).getD []
  let filtered ← checked (if needle = [] then .ok rows else matchingRows js needle rows)
  let metaFields := OrderedMap.assign (RestConnectorService.entries (response.get? "meta"))
    [("total", .num filtered.length)]
  Pure.pure (.obj (OrderedMap.assign (fieldsOf response)
    [("data", .arr (filtered.take requestedLimit)), ("meta", .obj metaFields)]))

/-! ### Operations -/

/-- `params['id'] ?? data['id']`. -/
def idOf (data params : Json) : Option Json := nullish (params.get? "id") (data.get? "id")

/-- `params[key]`, or `data[key]`. -/
def queryValue (data params : Json) (key : String) : Option Json :=
  firstQueryValue [params.get? key, data.get? key]

def putObject (config : Json) (collection : String) (data params : Json) (patch : Settings) :
    CmdbuildProg Json := do
  let path ← checked (objectPath js collection (idOf data params))
  putMerged js texts config path patch

/-- The fields with `null` for their values. -/
def nulls (data : Json) : Settings := (fieldsOf data).map fun (key, _) => (key, .null)

/-- `undefined` stands for an operation that is none of these. -/
def executeStatefulOperation (config : Json) (operation : String) (data params : Json) :
    CmdbuildProg (Option Json) :=
  match operation with
  | "user.create" => do
    let body ← applyCmdbuildUserGroups js texts config data
    some <$> call js texts config "POST" "/users" (some (.obj body))
  | "user.update" | "user.addAttributes" =>
    some <$> putObject js texts config "/users/" data params (fieldsOf data)
  | "user.removeAttributes" => some <$> putObject js texts config "/users/" data params (nulls data)
  | "user.enable" | "user.unlock" =>
    some <$> putObject js texts config "/users/" data params [("active", .bool true)]
  | "user.disable" | "user.lock" | "user.delete" =>
    some <$> putObject js texts config "/users/" data params [("active", .bool false)]
  | "user.changePassword" =>
    match (firstQueryValue [data.get? "newValue", data.get? "password"]).filter Json.truthy with
    | none => throw ⟨.error "Missing password for user.changePassword", none⟩
    | some password => some <$> putObject js texts config "/users/" data params
        [("password", password)]
  | "group.update" => some <$> putObject js texts config "/roles/" data params (fieldsOf data)
  | "group.delete" =>
    some <$> putObject js texts config "/roles/" data params [("active", .bool false)]
  | "group.search" => some <$> searchRoles js texts config (queryValue data params "filter")
      (queryValue data params "limit")
  | _ => Pure.pure none

structure CmdbuildRequest where
  url : String
  method : String
  body : Option Json

/-- A request for one user or one role. -/
def objectRequest (collection : String) (data params : Json) (action method : String)
    (body : Option Json) : Except JsError CmdbuildRequest := do
  let path ← objectPath js collection (idOf data params)
  pure ⟨path ++ action, method, body⟩

/-- A request for the users or roles of which an attribute has the value. -/
def searchRequest (collection field : String) (value : Option Json) (operator : String)
    (limit : Option Json) : CmdbuildRequest :=
  ⟨appendQuery js collection
    [("filter", buildSimpleFilter js field value operator), ("limit", limit)], "GET", none⟩

def buildRequest (operation : String) (data params : Json) : Except JsError CmdbuildRequest :=
  match operation with
  | "user.create" => .ok ⟨"/users", "POST", some data⟩
  | "user.update" => objectRequest js "/users/" data params "" "PUT" (some data)
  | "user.delete" => objectRequest js "/users/" data params "" "DELETE" none
  | "user.get" => objectRequest js "/users/" data params "" "GET" none
  | "user.search" => .ok (searchRequest js "/users" "username" (queryValue data params "filter")
      "like" (queryValue data params "limit"))
  | "user.enable" | "user.unlock" => objectRequest js "/users/" data params "" "PUT"
      (some (.obj [("active", .bool true)]))
  | "user.disable" | "user.lock" => objectRequest js "/users/" data params "" "PUT"
      (some (.obj [("active", .bool false)]))
  | "user.changePassword" => objectRequest js "/users/" data params "/password" "POST"
      (some (Properties.json
        [("password", nullish (data.get? "newValue") (data.get? "password"))]))
  | "user.resolve" => .ok (searchRequest js "/users" "username"
      (firstQueryValue [params.get? "username", data.get? "username", params.get? "login",
        data.get? "login", params.get? "filter", data.get? "filter"]) "equal" none)
  | "user.addAttributes" => objectRequest js "/users/" data params "" "PUT" (some data)
  | "user.removeAttributes" =>
    objectRequest js "/users/" data params "" "PUT" (some (.obj (nulls data)))
  | "group.create" => .ok ⟨"/roles", "POST", some data⟩
  | "group.update" => objectRequest js "/roles/" data params "" "PUT" (some data)
  | "group.delete" => objectRequest js "/roles/" data params "" "DELETE" none
  | "group.get" => objectRequest js "/roles/" data params "" "GET" none
  | "group.search" => .ok (searchRequest js "/roles" "name" (queryValue data params "filter")
      "like" (queryValue data params "limit"))
  | "system.test" | "schema.get" => .ok ⟨"/classes", "GET", none⟩
  | "sync.full" | "sync.incremental" => .ok ⟨"/users", "GET", none⟩
  | operation => .error (.error s!"Unsupported CMDBuild operation: {operation}")

/-! ### The connector -/

def isMemberOperation (operation : String) : Bool :=
  operation = "group.addMember" || operation = "group.removeMember"

/-- The role and the user of an operation on members. -/
def memberRole (data params : Json) : Option Json :=
  nullish (params.get? "roleId") (nullish (data.get? "roleId")
    (nullish (params.get? "id") (data.get? "id")))

def memberUser (data params : Json) : Option Json :=
  nullish (params.get? "userId") (data.get? "userId")

/-- The `try` block. -/
def perform (operation : String) (config data params : Json) : CmdbuildProg ConnectorResult :=
  if isMemberOperation operation then
    match (memberRole data params).filter Json.truthy,
        (memberUser data params).filter Json.truthy with
    | some roleId, some userId => do
      let response ← updateUserRoleMembership js texts config roleId userId
        (operation = "group.addMember")
      Pure.pure ⟨true, some response, none⟩
    | _, _ => Pure.pure ⟨false, none, some "Missing roleId or userId for group member operation"⟩
  else do
    let special ← executeStatefulOperation js texts config operation data params
    match special with
    | some response => Pure.pure ⟨true, some response, none⟩
    | none => do
      let request ← checked (buildRequest js operation data params)
      let response ← call js texts config request.method request.url request.body
      Pure.pure ⟨true, some response, none⟩

def execute (payload : ConnectorPayload) : CmdbuildProg ConnectorResult :=
  let config := payload.config.getD .null
  if !isTruthy (config.get? "baseUrl") then
    Pure.pure ⟨false, none, some "Missing CMDBuild config (baseUrl)"⟩
  else
    tryCatch (perform js texts payload.operation config payload.data payload.params) fun failure => do
      let message ← safeErrorMessage texts failure config
      Pure.pure ⟨false, none, some message⟩

end CmdbuildConnectorService

end IdmMw
