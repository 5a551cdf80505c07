import IdmMw.Model.GroupMapping

/-!
# Secrets of a vault

* `IndeedPamAapmClient`: how the value of a reference is taken from the answer of the vault;
* `SecretResolverService`: the variables of the environment that are references, and what becomes of
  them;
* `EncryptionService.isSecretReference`: what counts as a reference at start-up.

What is written in another case is compared letter by letter: no other characters have the letters of
the two schemes in lower case.
-/

namespace IdmMw

namespace IndeedPamAapmClient

/-- `path.split(/[.:]/)`. -/
def parts (path : String) : List String :=
  (path.toList.splitOnP fun c => c = '.' || c = ':').map String.ofList

/-- `value[part]`, where `part in value`. What is inherited leads to no text: it is a function, or an
object that has nothing but functions and numbers. -/
def property (value : Json) (part : String) : Option Json :=
  match value with
  | .obj fields => fields.lookup part
  | .arr items =>
    if part = "length" then some (.num items.length)
    else (items.zipIdx.find? fun (_, index) => toString index = part).map Prod.fst
  | _ => none

/-- The loop over the parts. -/
def walk : Json → List String → Option Json
  | current, [] => some current
  | current, part :: parts => (property current part).bind (walk · parts)

def tryReadJsonPath (obj : Json) (path : String) : Bool :=
  match walk obj (parts path) with
  | some (.str text) => text ≠ ""
  | _ => false

/-- `typeof body === 'object' && body !== null`. -/
def isObject : Json → Bool
  | .obj _ | .arr _ => true
  | _ => false

def fallbacks : List String := ["password", "value", "secret", "Password"]

/-- What is returned is taken for a text, but may be anything, or `undefined`. -/
def extractValue (js : Runtime) (body : Json) (respType jsonPath : String) : Option Json :=
  if js.toLowerCase respType ≠ "json" || !isObject body then
    some (.str (trim (body.toText js.numberText)))
  else if tryReadJsonPath body jsonPath then property body jsonPath
  else match fallbacks.find? (tryReadJsonPath body) with
    | some fallback => property body fallback
    | none => some (.str "")

/-- What `getValue` makes of the answer; an error of the request is the one that is thrown for it. -/
def getValue (js : Runtime) (refId respType jsonPath : String) (response : Except JsError Json) :
    Except JsError Json := do
  let body ← response
  match (extractValue js body respType jsonPath).filter Json.truthy with
  | some result => pure result
  | none => throw (.error s!"PAM ref '{refId}' returned an empty value.")

end IndeedPamAapmClient

namespace EncryptionService

/-- `isSecretReference`. -/
def isSecretReference (value : List Char) : Bool :=
  "secret://".toList.isPrefixOf (value.map Char.toLower) ||
    "aapm://".toList.isPrefixOf (value.map Char.toLower)

end EncryptionService

/-- `process.env`. -/
abbrev Environment := List (String × String)

inductive PamReq
  /-- `pamClient.getValue(refId)` -/
  | getValue (refId : String)

abbrev PamAns : PamReq → Type
  | .getValue _ => Except JsError String

abbrev PamProg (α : Type) := Async JsError PamAns α

/-- The environment, and the cache of the service. -/
structure SecretResolver where
  env : Environment
  cache : List (String × String)

namespace SecretResolverService

def isReference (value : String) : Bool :=
  ["secret://", "aapm://", "SECRET://", "AAPM://"].any fun pre =>
    pre.toList.isPrefixOf (trimmed value)

/-- The prefixes are compared with a text in lower case, so the last two are never found. -/
def extractRefId (value : String) : Option String :=
  (["secret://", "aapm://", "SECRET://", "AAPM://"].find? fun pre =>
    pre.toList.isPrefixOf ((trimmed value).map Char.toLower)).map fun pre =>
      String.ofList (trimChars ((trimmed value).drop pre.length))

/-- A variable of the secrets themselves. -/
def isOwn (key : String) : Bool := "Secrets:".toList.isPrefixOf key.toList

/-- The variables that are references. -/
def referenceKeys (env : Environment) : List String :=
  (env.filter fun (key, value) => !isOwn key && isReference value).map Prod.fst

/-- The body of the loop. -/
def resolveKey (resolver : SecretResolver) (key : String) : PamProg SecretResolver :=
  match (((resolver.env.lookup key).bind extractRefId).filter (· ≠ "")) with
  | none => pure resolver
  | some refId =>
    match resolver.cache.lookup refId with
    | some value => pure { resolver with env := OrderedMap.set resolver.env key value }
    | none => do
      let resolved ← Async.await (.getValue refId) .settle
      pure { env := OrderedMap.set resolver.env key resolved
             cache := OrderedMap.set resolver.cache refId resolved }

def resolveKeys : List String → SecretResolver → PamProg SecretResolver
  | [], resolver => pure resolver
  | key :: keys, resolver => do
    let resolver ← resolveKey resolver key
    resolveKeys keys resolver

def resolveAll (provider : String) (resolver : SecretResolver) : PamProg SecretResolver :=
  if provider = "None" then pure resolver
  else if provider ≠ "IndeedPamAapm" then
    throw (.error s!"Configuration contains PAM references, but Secrets.Provider is '{provider}'.")
  else resolveKeys (referenceKeys resolver.env) resolver

end SecretResolverService

end IdmMw
