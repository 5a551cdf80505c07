import IdmMw.Library.UrlJoin
import IdmMw.Model.ConnectorError
import IdmMw.Model.ConsultantTemplates
import IdmMw.Model.Secrets
import IdmMw.Model.Webhook

/-!
# The connector for ConsultantPlus

`ConsultantPlusConnectorService`: managed users, through endpoints that the configuration names, with
the session of an operator.

* `validateConfig`: the addresses and endpoints that a configuration may have;
* `url`, `apiUrl`, `allowedAbsoluteUrl`: the addresses of the requests;
* `authenticate`: the login page, the start of a login, its status until it is final, and the address
  that the login returns to;
* `callConfiguredUserEndpoint`: the request for a user;
* `execute` and `testConnection`, which the middleware calls.

A configuration, a payload and what the server sends may be any JSON values. A number of attempts that
is no finite number is none.
-/

namespace IdmMw

open Async

/-! ### Requests -/

/-- The conversions of the language and of the platform, and the environment of the process. -/
structure ConsultantRuntime where
  js : Runtime
  toAscii : List UInt8 → Option (List Char)
  /-- `JSON.parse(text)`; `none` where it throws -/
  parseJson : String → Option Json
  env : Environment

/-- The conversions where all texts are ASCII and no text is JSON, and no environment. -/
def ConsultantRuntime.ascii : ConsultantRuntime where
  js := .ascii
  toAscii := Url.asciiDomain
  parseJson _ := none
  env := []

inductive ConsultantData
  /-- a `FormData` -/
  | formData (fields : List (String × Json))
  | json (body : Settings)
  | text (body : String)
  /-- what goes into the query -/
  | params (body : ConsultantPlusConnectorService.Body)

structure ConsultantHttp where
  method : String
  url : String
  headers : Settings
  data : Option ConsultantData
  timeout : Json
  httpsAgent : Option Json

/-- A response; a header that is absent is `undefined`, and so may the data be. -/
structure ConsultantResponse where
  status : ℕ
  setCookie : Option Json
  location : Option Json
  data : Option Json

inductive ConsultantReq
  /-- `Math.random().toString(36).slice(2)` -/
  | random
  /-- the certificates and keys are read -/
  | httpsAgent (tls : Option Json)
  | request (request : ConsultantHttp)

abbrev ConsultantAns : ConsultantReq → Type
  | .random => String
  | .httpsAgent _ => Except JsError Unit
  | .request _ => Except JsError ConsultantResponse

abbrev ConsultantProg (α : Type) := Async JsError ConsultantAns α

structure ConsultantSession where
  csrf : Json
  cookies : String
  authenticated : Bool

abbrev CookieJar := List (String × String)

namespace ConsultantPlusConnectorService

open Rewriting ConnectorError

variable (rt : ConsultantRuntime)

/-! ### Messages -/

def tokenMarker : List Char := "[TOKEN]".toList

def isTokenChar (c : Char) : Bool := c.isAlphanum || ['_', '-'].contains c

/-- `TOKEN_LIKE`. -/
def tokenLike : Rule Char := fun _ text =>
  let token := text.takeWhile isTokenChar
  if 24 ≤ token.length ∧ token.any fun c => c.isLower || c.isDigit then
    some ⟨token.length, tokenMarker⟩
  else none

/-- `message.split(secret).join('[REDACTED]')`. -/
def withoutSecret (message secret : List Char) : List Char :=
  if secret = [] then List.intercalate "[REDACTED]".toList (message.map ([·]))
  else replace (literal secret "[REDACTED]".toList) message

/-- `sanitizeError`, of a message. -/
def sanitizeText (message : String) (config : Json) : String :=
  let secrets := ([config.get? "password", config.get? "login",
    config.get? "protectedOperatorLogin"].filterMap (·.filter Json.truthy)).map
      (·.toText rt.js.numberText)
  let withoutSecrets := secrets.foldl (fun message secret => withoutSecret message secret.toList)
    message.toList
  if withoutSecrets ≠ [] ∧ withoutSecrets.all fun c =>
      c.isUpper || c.isDigit || ['_', '.', ':', '-'].contains c then
    String.ofList withoutSecrets
  else String.ofList (replace tokenLike withoutSecrets)

/-- `sanitizeError`, of a value. -/
def sanitizeValue (value : Option Json) (config : Json) : String :=
  match value with
  | none => sanitizeText rt "undefined" config
  | some (.str text) => sanitizeText rt text config
  | some v => sanitizeText rt (rt.js.stringify v) config

def failed (error : String) : ConnectorResult := ⟨false, none, some error⟩

/-! ### The configuration -/

def envValue (name : Option Json) : Option Json :=
  ((name.filter Json.truthy).bind fun name =>
    (rt.env.lookup (name.toText rt.js.numberText)).filter (· ≠ "")).map .str

def resolveConfig (config : Json) : Json :=
  Properties.json (Properties.spread config ++
    [("login", nullish (config.get? "login") (envValue rt (config.get? "loginEnv"))),
      ("password", nullish (config.get? "password") (envValue rt (config.get? "passwordEnv")))])

def defaultAllowedHosts : List String := ["login.consultant.ru", "cloud.consultant.ru"]

/-- `host.trim().toLowerCase()`. -/
def allowedHost : Json → Except JsError String
  | .str host => .ok (rt.js.toLowerCase (trim host))
  | _ => .error (.error "host.trim is not a function")

def allowedHosts (config : Json) : Except JsError (List String) :=
  match config.get? "allowedHosts" with
  | none | some .null => .ok defaultAllowedHosts
  | some (.arr hosts) => do
    let configured ← hosts.mapM (allowedHost rt)
    pure (if (configured.filter (· ≠ "")).isEmpty then defaultAllowedHosts
      else configured.filter (· ≠ ""))
  | some _ => .error (.error "config.allowedHosts.map is not a function")

def isAllowedHost (config : Json) (host : String) : Except JsError Bool := do
  let hosts ← allowedHosts rt config
  pure (hosts.contains (rt.js.toLowerCase host))

/-- `parsed.hostname`. -/
def hostnameOf (url : Url) : String := String.ofList url.hostname

/-- What is wrong with an address. -/
def validateConfiguredUrl (config url : Json) : Except JsError (Option String) :=
  let text := url.toText rt.js.numberText
  match Url.parse rt.toAscii text.toList none with
  | none => .ok (some s!"Invalid ConsultantPlus URL: {text}")
  | some parsed =>
    if parsed.scheme ≠ "https".toList then
      .ok (some s!"ConsultantPlus URL must use https: {text}")
    else do
      if ← isAllowedHost rt config (hostnameOf parsed) then pure none
      else pure (some ("ConsultantPlus host is not allowed: " ++ hostnameOf parsed))

/-- `/^https?:\/\//i.test(text)`. -/
def hasHttpScheme (text : String) : Bool :=
  ["http://", "https://"].any fun start => start.toList.isPrefixOf (text.toList.map Char.toLower)

/-- The first endpoint that is not relative. -/
def absoluteEndpoint (config : Json) : Option String :=
  ((RestConnectorService.entries (some config)).find? fun entry =>
    "Path".toList.isSuffixOf entry.1.toList &&
      match entry.2 with
      | .str path => hasHttpScheme path
      | _ => false).map Prod.fst

/-- What is wrong with a configuration. -/
def validateConfig (config : Json) : Except JsError (Option String) := do
  match ← validateConfiguredUrl rt config (itemOf (config.get? "baseUrl")) with
  | some error => pure (some error)
  | none =>
    let apiError ← match (config.get? "apiBaseUrl").filter Json.truthy with
      | some apiBaseUrl => validateConfiguredUrl rt config apiBaseUrl
      | none => pure none
    match apiError with
    | some error => pure (some error)
    | none => pure ((absoluteEndpoint config).map fun key =>
        "ConsultantPlus endpoint path must be relative: " ++ key)

/-! ### Addresses -/

/-- `value.replace(/\/+$/, '')`. -/
def baseOf : Json → Except JsError String
  | .str url => .ok (String.ofList (PassworkConnectorService.withoutSlashes url))
  | _ => .error (.error "config.baseUrl.replace is not a function")

def url (config : Json) (path : String) : Except JsError String := do
  let base ← baseOf (itemOf (config.get? "baseUrl"))
  pure (base ++ path)

/-- `new URL(pathOrUrl, baseUrl).toString()`. -/
def absoluteUrl (baseUrl pathOrUrl : String) : Except JsError String :=
  match (Url.parse rt.toAscii baseUrl.toList none).bind fun base =>
      Url.parse rt.toAscii pathOrUrl.toList (some base) with
  | some url => .ok (String.ofList url.href)
  | none => .error (.error "Invalid URL")

/-- The address is read once more for the check. -/
def allowedAbsoluteUrl (config : Json) (pathOrUrl baseUrl : String) : Except JsError String := do
  let url ← absoluteUrl rt baseUrl pathOrUrl
  match Url.parse rt.toAscii url.toList none with
  | none => throw (.error "Invalid URL")
  | some parsed =>
    let allowed ← if parsed.scheme ≠ "https".toList then pure false
      else isAllowedHost rt config (hostnameOf parsed)
    if allowed then pure url
    else throw (.error ("ConsultantPlus host is not allowed: " ++ hostnameOf parsed))

def apiUrl (config : Json) (path : String) : Except JsError String :=
  if hasHttpScheme path then
    .error (.error "ConsultantPlus endpoint path must be relative")
  else do
    let base ← baseOf (itemOf (nullish (config.get? "apiBaseUrl") (config.get? "baseUrl")))
    let relative := String.ofList (path.toList.dropWhile (· = '/'))
    allowedAbsoluteUrl rt config (base ++ "/" ++ relative) base

/-! ### Cookies -/

def addCookie (jar : CookieJar) : Json → Except JsError CookieJar
  | .str cookie =>
    let pair := cookie.toList.takeWhile (· ≠ ';')
    let name := pair.takeWhile (· ≠ '=')
    if '=' ∈ pair ∧ name ≠ [] then
      .ok (OrderedMap.set jar (String.ofList name) (String.ofList (pair.drop (name.length + 1))))
    else .ok jar
  | _ => .error (.error "cookie.split is not a function")

def addCookies (jar : CookieJar) (setCookie : Option Json) : Except JsError CookieJar :=
  match setCookie.filter Json.truthy with
  | none => .ok jar
  | some (.arr cookies) => cookies.foldlM addCookie jar
  | some cookie => addCookie jar cookie

def cookieHeaderFromJar (jar : CookieJar) : String :=
  "; ".intercalate (jar.map fun entry => entry.1 ++ "=" ++ entry.2)

/-! ### The login -/

/-- `assertTlsUrl(url, 'ConsultantPlus')`. -/
def assertTlsUrl : Option Json → Except JsError Unit
  | some (.str url) =>
    if "https://".toList.isPrefixOf (rt.js.toLowerCase url).toList then .ok ()
    else .error (.error "ConsultantPlus TLS is enabled, but URL does not use https://")
  | _ => .error (.error "url.toLowerCase is not a function")

/-- `this.axiosTlsConfig(config)`. -/
def axiosTlsConfig (config : Json) : ConsultantProg (Option Json) :=
  if !TlsOptionsFactory.isOn (config.get? "tls") then pure none
  else do
    Async.ofExcept (assertTlsUrl rt (config.get? "baseUrl"))
    await (.httpsAgent (config.get? "tls")) .settle
    pure (config.get? "tls")

def timeout (config : Json) : Json := itemOf (nullish (config.get? "timeout") (some (.num 15000)))

/-- `this.httpService.request(..)`, with the address first. -/
def request (config : Json) (method : String) (url : Except JsError String) (headers : Settings)
    (data : Option ConsultantData) : ConsultantProg ConsultantResponse := do
  let url ← Async.ofExcept url
  let agent ← axiosTlsConfig rt config
  await (.request ⟨method, url, headers, data, timeout config, agent⟩) .settle

def getLoginPage (config : Json) : ConsultantProg ConsultantResponse :=
  request rt config "GET" (url config "/") [] none

/-- The text between the quotes behind `name="<name>"`, blanks and `<attribute>=`. -/
def quotedAttribute (name attributeName : String) (html : List Char) : Option String :=
  let before := text ("name=\"" ++ name ++ "\"") ++ plus isSpace ++ text (attributeName ++ "=\"")
  html.tails.findSome? fun rest =>
    (run (before ++ plus (· ≠ '"') ++ text "\"") rest).map fun pieces =>
      String.ofList (pieces.drop before.length).dropLast.flatten

def extractCsrf (html : Option Json) : Except JsError (Option String) :=
  match html with
  | some (.str html) => .ok ((quotedAttribute "client_csrf" "value" html.toList).or
      (quotedAttribute "csrf-token" "content" html.toList))
  | _ => .error (.error "html.match is not a function")

/-- A property of what the server sent; `undefined` and `null` have none. -/
def property (value : Option Json) (key : String) : Except JsError (Option Json) :=
  match value with
  | none | some .null => .error (.error s!"Cannot read properties of undefined (reading '{key}')")
  | some v => .ok (v.get? key)

def startLogin (config csrf : Json) (jar : CookieJar) :
    ConsultantProg (Option Json × CookieJar) := do
  let response ← request rt config "POST" (url config "/login/")
    [("Cookie", .str (cookieHeaderFromJar jar)), ("X-CSRF-Token", csrf),
      ("X-Requested-With", .str "XMLHttpRequest")]
    (some (.formData [("client_csrf", csrf),
      ("LoginForm[login]", itemOf (nullish (config.get? "login") (some (.str "")))),
      ("LoginForm[password]", itemOf (nullish (config.get? "password") (some (.str "")))),
      ("LoginForm[rememberMe]", .str "1")]))
  let jar ← Async.ofExcept (addCookies jar response.setCookie)
  pure (response.data, jar)

def fault (code : String) : Json :=
  .obj [("authStatus", .str "fault"), ("error", .obj [("code", .str code)])]

def isAuthStatus : Json → Bool
  | .obj fields =>
    (match fields.lookup "authStatus" with | some (.str _) => true | _ => false) ||
      (match fields.lookup "pid" with | some (.str _) => true | _ => false) ||
      isTruthy (fields.lookup "error")
  | _ => false

/-- `/WRONG_PASSWORD|authStatus["']?\s*:\s*["']?fault/i.test(text)`. -/
def saysFault (words : List String) (html : String) : Bool :=
  html.toList.tails.any fun rest =>
    words.any (fun word => (run (anyCase word) rest).isSome) ||
      [[], ['"'], ['\'']].any fun quote => [[], ['"'], ['\'']].any fun quote' =>
        (run (anyCase "authStatus" ++ text (String.ofList quote) ++
          [.star isSpace, .one (· == ':'), .star isSpace] ++ text (String.ofList quote') ++
          anyCase "fault") rest).isSome

/-- The text of a location, or the first of several. -/
def returnLocation : Option Json → Option String
  | some (.arr locations) => stringValue locations.head?
  | location => stringValue location

def authStatusFromResponse (response : ConsultantResponse) : Json :=
  if 300 ≤ response.status ∧ response.status < 400 then
    match returnLocation response.location with
    | none => fault "MISSING_AUTH_REDIRECT_LOCATION"
    | some returnUrl => .obj [("authStatus", .str "redirect"), ("returnUrl", .str returnUrl)]
  else match response.data with
    | some (.str text) =>
      match rt.parseJson text with
      | some parsed =>
        if isAuthStatus parsed then parsed else fault "UNEXPECTED_AUTH_RESPONSE"
      | none =>
        if saysFault ["WRONG_PASSWORD"] text then fault "WRONG_PASSWORD"
        else fault "UNEXPECTED_AUTH_RESPONSE"
    | some data => if isAuthStatus data then data else fault "UNEXPECTED_AUTH_RESPONSE"
    | none => fault "UNEXPECTED_AUTH_RESPONSE"

def isStarted (status : Option Json) : Prop := status = some (.str "started")

instance (status : Option Json) : Decidable (isStarted status) :=
  match status with
  | some (.str text) =>
    if h : text = "started" then .isTrue (by rw [h]; rfl)
    else .isFalse fun hstarted => h (Json.str.inj (Option.some.inj hstarted))
  | none => .isFalse nofun
  | some .null => .isFalse nofun
  | some (.bool _) => .isFalse nofun
  | some (.num _) => .isFalse nofun
  | some (.arr _) => .isFalse nofun
  | some (.obj _) => .isFalse nofun

/-- The turns of the loop that are left. -/
def pollAuthStatus (config pid : Json) : ℕ → Json → CookieJar →
    ConsultantProg (Json × CookieJar)
  | 0, current, jar => pure (current, jar)
  | left + 1, _, jar => do
    let response ← request rt config "GET" (url config ("/auth/?pid=" ++
        String.ofList (Url.encodeURIComponent (pid.toText rt.js.numberText).toList)))
      [("Cookie", .str (cookieHeaderFromJar jar))] none
    let jar ← Async.ofExcept (addCookies jar response.setCookie)
    let current := authStatusFromResponse rt response
    if isStarted (current.get? "authStatus") then pollAuthStatus config pid left current jar
    else pure (current, jar)

/-- `Math.max(1, config.authPollAttempts ?? 12)`, as a number of turns. -/
def attempts (config : Json) : ℕ :=
  match (itemOf (nullish (config.get? "authPollAttempts") (some (.num 12)))).toNumber with
  | some n => ⌈max 1 n⌉.toNat
  | none => 0

def resolveAuthStatus (config : Json) (initialStatus : Option Json) (jar : CookieJar) :
    ConsultantProg (Option Json × CookieJar) := do
  let authStatus ← Async.ofExcept (property initialStatus "authStatus")
  match (initialStatus.bind (·.get? "pid")).filter Json.truthy, initialStatus with
  | some pid, some current =>
    if isStarted authStatus then do
      let (status, jar) ← pollAuthStatus rt config pid (attempts config) current jar
      pure (some status, jar)
    else pure (initialStatus, jar)
  | _, _ => pure (initialStatus, jar)

def followAuthReturnUrl (config : Json) (returnUrl : Json) (jar : CookieJar) :
    ConsultantProg CookieJar := do
  let response ← request rt config "GET"
    (allowedAbsoluteUrl rt config (returnUrl.toText rt.js.numberText)
      ((itemOf (config.get? "baseUrl")).toText rt.js.numberText))
    [("Cookie", .str (cookieHeaderFromJar jar))] none
  Async.ofExcept (addCookies jar response.setCookie)

/-- What a login ends with: the session, or an error with the code of the status. -/
def finishLogin (config csrf : Json) (status : Option Json) (jar : CookieJar) :
    ConsultantProg ConsultantSession := do
  let authStatus ← Async.ofExcept (property status "authStatus")
  let csrf := itemOf (nullish (status.bind (·.get? "newCsrfToken")) (some csrf))
  let returnUrl := (status.bind (·.get? "returnUrl")).filter Json.truthy
  match authStatus, returnUrl with
  | some (.str "successful"), _ => pure ⟨csrf, cookieHeaderFromJar jar, true⟩
  | some (.str "redirect"), some returnUrl => do
    let jar ← followAuthReturnUrl rt config returnUrl jar
    pure ⟨csrf, cookieHeaderFromJar jar, true⟩
  | _, _ =>
    let code := nullish ((nullish (status.bind (·.get? "error")) none).bind (·.get? "code"))
      (nullish authStatus (some (.str "fault")))
    let message := sanitizeValue rt code config
    throw (.error s!"ConsultantPlus login failed: {message}")

def authenticate (config : Json) : ConsultantProg ConsultantSession := do
  let loginPage ← getLoginPage rt config
  let jar ← Async.ofExcept (addCookies [] loginPage.setCookie)
  match ← Async.ofExcept (extractCsrf loginPage.data) with
  | none => throw (.error "ConsultantPlus login page reachable but CSRF token not found")
  | some csrf =>
    if !isTruthy (config.get? "login") && !isTruthy (config.get? "password") then
      pure ⟨.str csrf, cookieHeaderFromJar jar, false⟩
    else if !isTruthy (config.get? "login") || !isTruthy (config.get? "password") then
      throw (.error "Missing ConsultantPlus config (login or password)")
    else do
      let (initialStatus, jar) ← startLogin rt config (.str csrf) jar
      let (finalStatus, jar) ← resolveAuthStatus rt config initialStatus jar
      finishLogin rt config (.str csrf) finalStatus jar

/-! ### The schema -/

def schemaAttribute (name : String) (required : Bool) : Json :=
  .obj [("name", .str name), ("type", .str "string"), ("required", .bool required),
    ("multiValued", .bool false)]

def schemaNotes : List String := [
  "ConsultantPlus user create, update, password-reset, block and delete operations require " ++
    "explicitly configured cloud admin endpoint paths.",
  "Authenticated cloud admin surface observed on 2026-07-07: GET admusrlist uses query parameters; " ++
    "POST admadd, admupd, admdismiss and admdel use " ++
    "https://cloud.consultant.ru/cloud/cgi/online.cgi? with req/op/rnd in form body.",
  "Create uses pureLogin; update/password-reset and block/delete use managedLogin in the " ++
    "<operator>#<pureLogin> format for the checked tenant.",
  "ConsultantPlus generates user passwords and delivers them by email; idmMw does not know or store " ++
    "managed-user passwords.",
  "Observed public surface is login/session oriented: CSRF-protected async login, auth polling, " ++
    "user-info and agreement check.",
  "Read/search/enable/unlock/group/sync operations are intentionally unsupported.",
  "Do not automate browser DOM flows as a production idmMw connector without a separate design " ++
    "decision."]

def observedEndpoint (method path purpose : String) : Json :=
  .obj [("method", .str method), ("path", .str path), ("purpose", .str purpose)]

def cloudAddress : String := "https://cloud.consultant.ru/cloud/cgi/online.cgi?"

def observedEndpoints : List Json := [
  observedEndpoint "GET" "/" "Login form and CSRF token bootstrap",
  observedEndpoint "POST" "/login/" "Async login start; returns authStatus and pid",
  observedEndpoint "GET" "/auth/?pid=<pid>" "Async login status polling",
  observedEndpoint "GET" "/check-agreement/?login=<login>" "License agreement requirement check",
  observedEndpoint "GET" "/user-info/" "Current browser session status and CSRF refresh",
  observedEndpoint "GET" (cloudAddress ++ "req=admin&op=admusrlist")
    "Authenticated cloud admin user list used for manual verification only",
  observedEndpoint "POST" cloudAddress ("Authenticated cloud admin create user form endpoint; " ++
    "body includes req=admin, op=admadd and rnd"),
  observedEndpoint "POST" cloudAddress ("Authenticated cloud admin update user and password reset " ++
    "form endpoint; body includes req=admin, op=admupd, rnd and managed login"),
  observedEndpoint "POST" cloudAddress ("Authenticated cloud admin block/dismiss user form endpoint; " ++
    "body includes req=admin, op=admdismiss and rnd"),
  observedEndpoint "POST" cloudAddress ("Authenticated cloud admin delete user form endpoint; " ++
    "body includes req=admin, op=admdel and rnd")]

def localSchema : Json :=
  .obj [("objectClasses", .arr [.obj [("name", .str "user"), ("attributes", .arr [
      schemaAttribute "username" true, schemaAttribute "email" true,
      schemaAttribute "lastName" false, schemaAttribute "firstName" false,
      schemaAttribute "middleName" false, schemaAttribute "pureLogin" false,
      schemaAttribute "managedLogin" false])]]),
    ("notes", .arr (schemaNotes.map .str)), ("observedEndpoints", .arr observedEndpoints)]

/-! ### Requests for a user -/

/-- What a character stands behind, and the text from there on. -/
def positions (html : List Char) : List (Option Char × List Char) :=
  (none :: html.map some).zip html.tails

/-- The items match, and no letter, digit or `_` follows. -/
def endsWord (items : List (Item Char)) (rest : List Char) : Bool :=
  (run items rest).any fun pieces =>
    !(rest.drop pieces.flatten.length).head?.any fun c => c.isAlphanum || c == '_'

/-- The expression of `responseHasApplicationError`. -/
def textHasError (html : String) : Bool :=
  saysFault ["wrong_account_data"] html || (positions html.toList).any fun position =>
    (["err", "errdata", "error"].any fun word =>
      endsWord (text "<" ++ [.star isSpace] ++ anyCase word) position.2) ||
    (wordBoundary position.1 position.2 && endsWord (anyCase "fault") position.2)

/-- `value === 'fault'`. -/
def isFault : Option Json → Bool
  | some (.str text) => text = "fault"
  | _ => false

/-- `value !== true`. -/
def isNotTrue : Option Json → Bool
  | some (.bool true) => false
  | _ => true

mutual

def responseHasApplicationError : Json → Bool
  | .str html => textHasError html
  | .arr items => itemsHaveError items
  | .obj fields =>
    isFault (fields.lookup "authStatus") || isFault (fields.lookup "status") ||
      (isTruthy (fields.lookup "error") && isNotTrue (fields.lookup "success")) ||
      fieldsHaveError fields
  | _ => false

def itemsHaveError : List Json → Bool
  | [] => false
  | item :: items => responseHasApplicationError item || itemsHaveError items

def fieldsHaveError : Settings → Bool
  | [] => false
  | (_, item) :: fields => responseHasApplicationError item || fieldsHaveError fields

end

def contentTypeHeader (contentType : Json) : String :=
  if isForm contentType then "application/x-www-form-urlencoded; charset=UTF-8"
  else "application/json"
where
  isForm : Json → Bool
    | .str text => text = "form"
    | _ => false

/-- `contentType === 'json'`. -/
def isJsonType : Json → Bool
  | .str text => text = "json"
  | _ => false

/-- What is sent with the method: a query, or a body. -/
def requestData (method : String) (contentType : Json) (body : Body) : ConsultantData :=
  if method = "GET" then .params body
  else if isJsonType contentType then .json body.json
  else .text (body.form rt.js)

/-- What becomes of the response. -/
def endpointResult (operation : String) (config : Json) (response : ConsultantResponse) :
    ConnectorResult :=
  let message := sanitizeValue rt response.data config
  let status := response.status
  if 200 ≤ status ∧ status < 300 then
    if response.data.any responseHasApplicationError then
      failed s!"ConsultantPlus {operation} failed with application error: {message}"
    else ⟨true, some (.obj [("status", .num status)]), none⟩
  else failed s!"ConsultantPlus {operation} failed with HTTP {status}: {message}"

/-- `options.method.toUpperCase()`. -/
def upperCase : Json → Except JsError String
  | .str method => .ok (rt.js.toUpperCase method)
  | _ => .error (.error "options.method.toUpperCase is not a function")

def callConfiguredEndpoint (operation : String) (config : Json) (path : String)
    (method contentType : Json) (body : Body) : ConsultantProg ConnectorResult := do
  let method ← Async.ofExcept (upperCase rt method)
  tryCatch (do
    let session ← authenticate rt config
    if !session.authenticated then
      pure (failed s!"ConsultantPlus operator login is required for {operation}")
    else do
      let response ← request rt config method (apiUrl rt config path)
        [("Accept", .str "application/json, text/xml, application/xml, text/plain, */*"),
          ("Content-Type", .str (contentTypeHeader contentType)),
          ("Cookie", .str session.cookies), ("X-CSRF-Token", session.csrf),
          ("X-Requested-With", .str "XMLHttpRequest")]
        (some (requestData rt method contentType body))
      pure (endpointResult rt operation config response)) fun error =>
    let message := sanitizeText rt error.message config
    pure (failed s!"ConsultantPlus {operation} failed: {message}")

/-- The settings of an endpoint: its path, its method, its type of content and the template of what is
sent. -/
structure Endpoint where
  pathKey : String
  methodKey : String
  contentTypeKey : String
  payloadKey : String

def userCreate : Endpoint :=
  ⟨"userCreatePath", "userCreateMethod", "userCreateContentType", "userCreatePayload"⟩

def userUpdate : Endpoint :=
  ⟨"userUpdatePath", "userUpdateMethod", "userUpdateContentType", "userUpdatePayload"⟩

def userChangePassword : Endpoint :=
  ⟨"userChangePasswordPath", "userChangePasswordMethod", "userChangePasswordContentType",
    "userChangePasswordPayload"⟩

def userBlock : Endpoint :=
  ⟨"userBlockPath", "userBlockMethod", "userBlockContentType", "userBlockPayload"⟩

def userDelete : Endpoint :=
  ⟨"userDeletePath", "userDeleteMethod", "userDeleteContentType", "userDeletePayload"⟩

def missingConfig (key : String) : ConnectorResult :=
  failed s!"Missing ConsultantPlus config ({key})"

def callConfiguredUserEndpoint (operation : String) (config : Json) (endpoint : Endpoint)
    (fallbackBody : Settings) (values : Properties) : ConsultantProg ConnectorResult :=
  match (config.get? endpoint.pathKey).filter Json.truthy with
  | none => pure (missingConfig endpoint.pathKey)
  | some path =>
    if (config.get? endpoint.payloadKey).any templateReferencesPassword then
      pure (failed passwordMessage)
    else match renderPathTemplate rt.js path values with
      | .error error => pure (failed (sanitizeText rt error.message config))
      | .ok path =>
        callConfiguredEndpoint rt operation config path
          (itemOf (nullish (config.get? endpoint.methodKey) (some (.str "POST"))))
          (itemOf (nullish (config.get? endpoint.contentTypeKey) (some (.str "json"))))
          (renderPayloadTemplate rt.js (config.get? endpoint.payloadKey) values fallbackBody)

/-- The values of the user; what is drawn for them is asked for only where it is needed. -/
def drawValues (config : Json) (data : Settings) : ConsultantProg Properties :=
  if (stringValue (data.lookup "rnd")).isSome then pure (userValues rt.js config data "")
  else await .random fun drawn => pure (userValues rt.js config data drawn)

/-- The data of the payload with its parameters. -/
def bothRecords (payload : ConnectorPayload) : Settings :=
  OrderedMap.assign (recordPayload payload "params") (recordPayload payload "data")

/-- A user is checked, and the endpoint called. -/
def managedUserOperation (operation : String) (endpoint : Endpoint)
    (fallback : Properties → Settings) (config : Json) (data : Settings)
    (rawPayloads : List Settings) : ConsultantProg (ConnectorResult × Properties) := do
  let values ← drawValues rt config data
  match validateManagedUserOperation rt.js operation values config rawPayloads with
  | some error => pure (failed error, values)
  | none => do
    let values := withoutPasswordValues values
    let result ← callConfiguredUserEndpoint rt operation config endpoint (fallback values) values
    pure (result, values)

/-- An operation on a user who exists. -/
def existingUserOperation (operation : String) (endpoint : Endpoint)
    (fallback : Properties → Settings) (payload : ConnectorPayload) (config : Json) :
    ConsultantProg (ConnectorResult × Properties) :=
  managedUserOperation rt operation endpoint fallback config (bothRecords payload)
    [recordPayload payload "params", recordPayload payload "data"]

/-- The user gets a password by e-mail. -/
def withEmailPasswordDelivery (result : ConnectorResult) (values : Properties)
    (passwordAction : String) : ConnectorResult :=
  if !result.success then result
  else
    let responseData : Properties := match result.data with
      | some (.obj fields) => fields.map fun entry => (entry.1, some entry.2)
      | data => [("response", data)]
    { result with
      data := some (Properties.json (responseData ++ [("managedLogin", own values "managedLogin"),
        ("email", own values "email"), ("passwordAction", some (.str passwordAction)),
        ("passwordDelivery", some (.str "email")), ("passwordKnown", some (.bool false))])) }

def createUser (payload : ConnectorPayload) (config : Json) : ConsultantProg ConnectorResult :=
  if !isTruthy (config.get? userCreate.pathKey) then pure (missingConfig userCreate.pathKey)
  else do
    let (result, values) ← managedUserOperation rt "user.create" userCreate defaultCreatePayload config
      (recordPayload payload "data") [recordPayload payload "data"]
    pure (withEmailPasswordDelivery result values "create")

def updateUser (payload : ConnectorPayload) (config : Json) : ConsultantProg ConnectorResult :=
  Prod.fst <$> existingUserOperation rt "user.update" userUpdate defaultManagedCloudUserPayload payload
    config

def changePassword (payload : ConnectorPayload) (config : Json) : ConsultantProg ConnectorResult := do
  let (result, values) ← existingUserOperation rt "user.changePassword" userChangePassword
    defaultManagedCloudUserPayload payload config
  pure (withEmailPasswordDelivery result values "reset")

def blockUser (payload : ConnectorPayload) (config : Json) : ConsultantProg ConnectorResult :=
  Prod.fst <$> existingUserOperation rt payload.operation userBlock defaultManagedCloudUserPayload
    payload config

def deleteUser (payload : ConnectorPayload) (config : Json) : ConsultantProg ConnectorResult :=
  Prod.fst <$> existingUserOperation rt "user.delete" userDelete defaultDeletePayload payload config

/-! ### The connector -/

def unsupportedReason : String :=
  "ConsultantPlus user-management surface is limited to explicitly configured " ++
    "create/update/password-reset/block/delete cloud admin endpoints; " ++
    "read/search/enable/unlock/group/sync operations remain unsupported."

def sync : ConnectorResult :=
  failed ("Unsupported ConsultantPlus operation: sync.full. " ++ unsupportedReason)

/-- The messages that `testConnection` reports as they are. -/
def isPlainMessage (message : String) : Bool :=
  message = "ConsultantPlus login page reachable but CSRF token not found" ||
    message = "Missing ConsultantPlus config (login or password)" ||
    "ConsultantPlus login failed:".toList.isPrefixOf message.toList

/-- What `testConnection` tries, with a configuration that has its login and password. -/
def tryConnection (config : Json) : ConsultantProg (Bool × String) := do
  let session ← authenticate rt config
  if !session.csrf.truthy then
    pure (false, "ConsultantPlus login page reachable but CSRF token not found")
  else if !isTruthy (config.get? "login") && !isTruthy (config.get? "password") then
    pure (true, "ConsultantPlus login page reachable")
  else if !isTruthy (config.get? "login") || !isTruthy (config.get? "password") then
    pure (false, "Missing ConsultantPlus config (login or password)")
  else if session.authenticated then pure (true, "ConsultantPlus operator login succeeded")
  else pure (false, "ConsultantPlus login failed: fault")

def testConnection (config : Json) : ConsultantProg (Bool × String) := do
  let config := resolveConfig rt config
  if !isTruthy (config.get? "baseUrl") then pure (false, "Missing baseUrl in config")
  else
    match ← Async.ofExcept (validateConfig rt config) with
    | some error => pure (false, error)
    | none =>
      tryCatch (tryConnection rt config) fun error =>
        let message := sanitizeText rt error.message config
        if isPlainMessage message then pure (false, message)
        else pure (false, s!"ConsultantPlus connection failed: {message}")

/-- The operations, with a configuration that has passed its checks. -/
def perform (payload : ConnectorPayload) (config : Json) : ConsultantProg ConnectorResult :=
  match payload.operation with
  | "schema.get" => pure ⟨true, some localSchema, none⟩
  | "system.test" => do
    let (success, message) ← testConnection rt config
    pure (if success then ⟨true, some (.obj [("message", .str message)]), none⟩ else failed message)
  | "user.create" => createUser rt payload config
  | "user.update" => updateUser rt payload config
  | "user.changePassword" => changePassword rt payload config
  | "user.delete" => deleteUser rt payload config
  | "user.disable" | "user.lock" => blockUser rt payload config
  | operation => pure (failed
      ("Unsupported ConsultantPlus operation: " ++ operation ++ ". " ++ unsupportedReason))

def execute (payload : ConnectorPayload) : ConsultantProg ConnectorResult :=
  match (payload.config.filter Json.truthy).map (resolveConfig rt) with
  | none => pure (failed "Missing ConsultantPlus config (baseUrl)")
  | some config =>
    if !isTruthy (config.get? "baseUrl") then
      pure (failed "Missing ConsultantPlus config (baseUrl)")
    else do
      match ← Async.ofExcept (validateConfig rt config) with
      | some error => pure (failed error)
      | none => perform rt payload config

end ConsultantPlusConnectorService

end IdmMw
