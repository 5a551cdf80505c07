import IdmMw.Model.GroupMapping
import IdmMw.Model.IpUtils

/-!
# The connector for REST targets

`RestConnectorService`: one request to a URL that a configuration and a payload give.

* `relativePath`, `method`: what a payload may ask for;
* `isPathAllowed`: the paths of the configuration;
* `axiosConfig`: the agent for TLS (`TlsOptionsFactory`), which is asked for its certificates;
* `execute`, which the middleware calls.

The text of a URL is read back as the URL itself, so the URL stands for its text. What the engine throws
on values that are not of the declared types ends the operation.
-/

namespace IdmMw

open Async

namespace TlsOptionsFactory

/-- `toBoolean(value)`. -/
def toBoolean : Option Json → Bool
  | some (.bool value) => value
  | some (.str text) => text = "true"
  | _ => false

def isEnabled (tls : Option Json) : Bool := toBoolean (tls.bind (·.get? "enabled"))

/-- `!tls || !this.isEnabled(tls)` does not hold. -/
def isOn (tls : Option Json) : Bool := isTruthy tls && isEnabled tls

end TlsOptionsFactory

namespace RestConnectorService

/-! ### Requests -/

structure HttpRequest where
  url : Url
  method : String
  data : Json
  headers : Settings
  /-- the settings of the agent for TLS -/
  httpsAgent : Option Json

inductive RestReq
  /-- the certificates and keys are read -/
  | httpsAgent (tls : Option Json)
  | request (request : HttpRequest)

abbrev RestAns : RestReq → Type
  | .httpsAgent _ => Except JsError Unit
  -- the data of the response
  | .request _ => Except JsError Json

abbrev RestProg (α : Type) := Async JsError RestAns α

/-- `this.tlsOptions.axiosConfig(url, tls, 'REST target')`. -/
def axiosConfig (url : Url) (tls : Option Json) : RestProg (Option Json) :=
  if !TlsOptionsFactory.isOn tls then pure none
  else if url.scheme ≠ "https".toList then
    throw (.error "REST target TLS is enabled, but URL does not use https://")
  else do
    await (.httpsAgent tls) .settle
    pure tls

/-! ### Values -/

variable (js : Runtime) (toAscii : List UInt8 → Option (List Char))

def method : Option Json → String
  | some (.str text) =>
    if js.toUpperCase text ∈ ["GET", "POST", "PUT", "PATCH", "DELETE"] then js.toUpperCase text
    else "POST"
  | _ => "POST"

def relativePath : Option Json → Except String String
  | none | some .null | some (.str "") => .ok "/"
  | some (.str path) =>
    if !"/".toList.isPrefixOf path.toList || "//".toList.isPrefixOf path.toList then
      .error "REST payload.path must be a relative absolute path"
    else .ok path
  | _ => .error "REST payload.path must be a string"

/-- What is allowed, or what is below it. -/
def allows (path : List Char) (allowed : String) : Bool :=
  let normalized := if ['/'].isSuffixOf allowed.toList then allowed.toList else allowed.toList ++ ['/']
  path = allowed.toList || normalized.isPrefixOf path

def someAllows (path : List Char) : List Json → Except JsError Bool
  | [] => .ok false
  | .str allowed :: rest => if allows path allowed then .ok true else someAllows path rest
  | _ :: _ => .error (.error "allowed.endsWith is not a function")

def isPathAllowed (path : List Char) (allowedPaths : Option Json) : Except JsError Bool :=
  if !isTruthy allowedPaths then .ok true
  else match allowedPaths with
    | some (.arr items) => if items.isEmpty then .ok true else someAllows path items
    | some (.obj fields) =>
      match fields.lookup "length" with
      | some (.num 0) => .ok true
      | _ => .error (.error "allowedPaths.some is not a function")
    | _ => .error (.error "allowedPaths.some is not a function")

/-- The entries that `...value` copies. -/
def entries : Option Json → Settings
  | some (.obj fields) => fields
  | some (.arr items) => items.zipIdx.map fun (item, index) => (toString index, item)
  | some (.str text) =>
    text.toList.zipIdx.map fun (c, index) => (toString index, .str (String.ofList [c]))
  | _ => []

/-- The keys of an array and of a text have digits only. -/
theorem lookup_indices {α : Type} {key : String} {c : Char} (hmem : c ∈ key.toList)
    (hc : c.isDigit = false) (f : α → Json) (items : List α) :
    List.lookup key (items.zipIdx.map fun (item, index) => (toString index, f item)) = none := by
  refine List.lookup_eq_none_iff.2 fun field hfield => ?_
  obtain ⟨⟨item, index⟩, -, rfl⟩ := List.mem_map.1 hfield
  have hne : key ≠ toString index := by
    rintro rfl
    have hdigit : c ∈ Nat.toDigits 10 index := by simpa using hmem
    rw [Nat.isDigit_of_mem_toDigits (by decide) (by decide) hdigit] at hc
    cases hc
  simpa using hne

/-- A key that is no index is copied with what it is read as. -/
theorem lookup_entries {key : String} {c : Char} (hmem : c ∈ key.toList) (hc : c.isDigit = false)
    (value : Json) : (entries (some value)).lookup key = value.get? key := by
  cases value with
  | obj fields => rfl
  | arr items => exact lookup_indices hmem hc id items
  | str text => exact lookup_indices hmem hc (fun c => .str (String.ofList [c])) text.toList
  | _ => rfl

/-- `{ ...first, ...second }`. -/
def spreadBoth (first second : Option Json) : Settings :=
  (entries first ++ entries second).foldl (fun fields (key, value) => OrderedMap.set fields key value)
    []

/-- `new URL(path, baseUrl)`. -/
def targetUrl (path baseUrl : String) : Except JsError Url :=
  match (Url.parse toAscii baseUrl.toList none).bind fun base =>
      Url.parse toAscii path.toList (some base) with
  | some url => .ok url
  | none => .error (.error "Invalid URL")

/-- What is asked of the target. -/
def httpRequest (payload : ConnectorPayload) (url : Url) (agent : Option Json) : HttpRequest where
  url := url
  method := method js (payload.payload.get? "method")
  data := payload.data
  headers := spreadBoth (payload.config.bind (·.get? "headers")) (payload.payload.get? "headers")
  httpsAgent := agent

/-- The `try` block. -/
def sendRequest (payload : ConnectorPayload) (url : Url) : RestProg ConnectorResult :=
  tryCatch (do
    let agent ← axiosConfig url (payload.config.bind (·.get? "tls"))
    let data ← await (.request (httpRequest js payload url agent)) .settle
    pure ⟨true, some data, none⟩) fun error =>
    pure ⟨false, none, some error.message⟩

def execute (payload : ConnectorPayload) : RestProg ConnectorResult :=
  let setting := fun key => payload.config.bind (·.get? key)
  match (setting "baseUrl").filter Json.truthy with
  | none => pure ⟨false, none, some "Missing baseUrl in REST config"⟩
  | some baseUrl =>
    match relativePath (payload.payload.get? "path") with
    | .error message => pure ⟨false, none, some message⟩
    | .ok path => do
      let url ← Async.ofExcept (targetUrl toAscii path (baseUrl.toText js.numberText))
      if !isTruthy (setting "allowPrivateNetwork") && isPrivateOrLocalAddress url.hostname then
        pure ⟨false, none, some ("REST target host is private/local and not allowed: " ++
          String.ofList url.hostname)⟩
      else do
        let allowed ← Async.ofExcept (isPathAllowed url.pathname (setting "allowedPaths"))
        if !allowed then
          pure ⟨false, none, some ("REST target path is not allowed: " ++
            String.ofList url.pathname)⟩
        else sendRequest js payload url

end RestConnectorService

end IdmMw
