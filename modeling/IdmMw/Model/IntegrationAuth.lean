import IdmMw.Library.KeyOrder
import IdmMw.Model.Rbac
import IdmMw.Model.Routing

/-!
# Signed requests of integrations

`IntegrationAuthService`: a request to `/idm` or `/webhooks` carries a timestamp and an HMAC of its
canonical string, which is made of the timestamp, the method, the path and a digest of the body.

* `IntegrationRequest`: what the service reads of a request;
* `stableStringify`, `canonical`, `signature`: what is signed;
* `verify`: which requests are accepted.
-/

namespace IdmMw

/-! ### Requests -/

/-- The value of a header; one that is repeated may have several texts. -/
inductive HeaderValue
  | text (value : List Char)
  | texts (values : List (List Char))

/-- A request, with its headers by their names in lower case and its body as it has been parsed. The
HTTP parser knows methods in upper case only, and a body is parsed only if the headers announce
one. -/
structure IntegrationRequest where
  method : List Char
  originalUrl : List Char
  headers : List (String × HeaderValue)
  body : Option JsValue
  method_upper : method.map Char.toUpper = method
  announced : body.isSome = true →
    (headers.lookup "content-length").isSome = true ∨
      (headers.lookup "transfer-encoding").isSome = true
  distinctKeys : ∀ v ∈ body, v.DistinctKeys

/-! ### The platform -/

/-- `sha256` and `hmacSha256` are hexadecimal digests; the fingerprint is that of
`safeEqualFixedLength`, for the purpose `integration-auth-signature`. -/
structure IntegrationCrypto where
  sha256 : List Char → List Char
  hmacSha256 (secret text : List Char) : List Char
  fixedLengthFingerprint : List Char → List Char

/-- The settings; `none` where one is not set. -/
structure IntegrationAuthConfig where
  /-- `process.env['INTEGRATION_AUTH_SECRET']` -/
  environmentSecret : Option String
  /-- `config.get('INTEGRATION_AUTH_SECRET')` -/
  configuredSecret : Option String
  allowedClockSkewSeconds : Option ℚ

structure IntegrationAuthResult where
  ok : Bool
  status : ℕ
  message : String
  deriving DecidableEq

namespace IntegrationAuthService

/-! ### The body -/

section Stringify

variable (collation : Collation)

mutual

/-- `stableStringify`. The sort looks at the keys only: it makes no difference that the values are
written before it here. -/
def stableStringify : JsValue → List Char
  | .arr items => '[' :: (joinComma (stableStringifyItems items) ++ [']'])
  | .obj entries =>
    '\x7b' :: (joinComma ((collation.sort Prod.fst (stableStringifyEntries entries)).map
      fun (key, item) => quote key ++ ':' :: item) ++ ['\x7d'])
  | v => v.text

def stableStringifyItems : List JsValue → List (List Char)
  | [] => []
  | item :: items => stableStringify item :: stableStringifyItems items

def stableStringifyEntries : List (String × JsValue) → List (String × List Char)
  | [] => []
  | (key, item) :: entries => (key, stableStringify item) :: stableStringifyEntries entries

end

def bodyToString (value : Option JsValue) (hasBody : Bool) : List Char :=
  if !hasBody then []
  else match value with
    | none => []
    | some .null => []
    | some (.str text) => text.toList
    | some value => stableStringify collation value

end Stringify

/-! ### What is signed -/

def header (req : IntegrationRequest) (name : String) : Option (List Char) :=
  match req.headers.lookup name with
  | some (.texts values) => values.head?
  | some (.text value) => some value
  | none => none

def requestBodyToString (collation : Collation) (req : IntegrationRequest) : List Char :=
  let hasBody := (req.headers.lookup "content-length").isSome ||
    (req.headers.lookup "transfer-encoding").isSome
  bodyToString collation req.body hasBody

variable (crypto : IntegrationCrypto) (collation : Collation)

/-- The text whose HMAC the signature is. -/
def canonical (req : IntegrationRequest) (timestamp : List Char) : List Char :=
  ['\n'].intercalate [timestamp, req.method.map Char.toUpper, path req.originalUrl,
    crypto.sha256 (requestBodyToString collation req)]

def signature (req : IntegrationRequest) (timestamp secret : List Char) : List Char :=
  crypto.hmacSha256 secret (canonical crypto collation req timestamp)

/-! ### The verdict -/

def secret (config : IntegrationAuthConfig) : Option (List Char) :=
  match config.environmentSecret.or config.configuredSecret with
  | none => none
  | some value => if trimmed value = [] then none else some (trimmed value)

/-- Milliseconds; up to 10^12 the number counts seconds. -/
def parseTimestamp (value : List Char) : Option ℚ :=
  match Json.numberOfString (String.ofList value) with
  | none => none
  | some parsed =>
    if parsed ≤ 0 then none
    else if parsed > 1000000000000 then some parsed
    else some (parsed * 1000)

/-- `[a-f0-9]`, in either case. -/
def isHexDigit (c : Char) : Bool :=
  c.isDigit || ('a' ≤ c.toLower && c.toLower ≤ 'f')

/-- The text behind `sha256=`, in either case. -/
def withoutAlgorithm (value : List Char) : List Char :=
  if (value.take 7).map Char.toLower = "sha256=".toList then value.drop 7 else value

def normalizeSignature (value : List Char) : Option (List Char) :=
  let normalized := withoutAlgorithm (trimChars value)
  if normalized.length = 64 ∧ normalized.all isHexDigit = true then
    some (normalized.map Char.toLower)
  else none

def safeEqual (a b : List Char) : Bool :=
  crypto.fixedLengthFingerprint a = crypto.fixedLengthFingerprint b

def accepted : IntegrationAuthResult := ⟨true, 200, "ok"⟩

def rejected (message : String) : IntegrationAuthResult := ⟨false, 401, message⟩

/-- `verify`, at the time `now`. An empty header counts as none. -/
def verify (config : IntegrationAuthConfig) (now : ℚ) (req : IntegrationRequest) :
    IntegrationAuthResult :=
  match secret config with
  | none => ⟨false, 503, "Integration authentication is not configured"⟩
  | some secret =>
    match header req "x-idmmw-timestamp", header req "x-idmmw-signature" with
    | some (t :: timestampHeader), some (s :: signatureHeader) =>
      match parseTimestamp (t :: timestampHeader) with
      | none => rejected "Invalid integration authentication timestamp"
      | some timestamp =>
        if |now - timestamp| > config.allowedClockSkewSeconds.getD 300 * 1000 then
          rejected "Integration authentication timestamp is outside allowed skew"
        else
          let expected := signature crypto collation req (t :: timestampHeader) secret
          match normalizeSignature (s :: signatureHeader) with
          | none => rejected "Invalid integration authentication signature"
          | some actual =>
            if safeEqual crypto actual expected then accepted
            else rejected "Invalid integration authentication signature"
    | _, _ => rejected "Integration authentication headers are required"

end IntegrationAuthService

end IdmMw
