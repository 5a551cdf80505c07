import IdmMw.Model.Rbac

/-!
# Signed tokens of the administration

Three services sign with `ADMIN_AUTH_SESSION_SECRET`: `AuthService` the sessions, `OidcAuthService`
the state of a login under way, and the request cache of `SamlAuthService` the ids of requests. A
payload is a JSON text in base64url; what is given out is the payload, a dot and the signature.

* `TokenCrypto`: what the platform does, with what is assumed of it (`TokenCrypto.Sound`);
* `AuthEvent`: a login or the start of one, with the payload it signs and what it gives out;
* `AuthService.readSession`: what a cookie header is taken for.
-/

namespace IdmMw

/-! ### The platform -/

/-- `sign` is `createHmac('sha256', secret).update(payload).digest('base64url')`; `encode` is
`Buffer.from(JSON.stringify(value), 'utf8').toString('base64url')`, and `decode` parses what is in a
base64url text. -/
structure TokenCrypto where
  sign : List Char → List Char
  fixedLengthFingerprint : List Char → List Char
  encode : Json → List Char
  decode : List Char → Except JsError Json

def isBase64url (c : Char) : Bool := c.isAlphanum || c == '-' || c == '_'

/-- A text in base64url that is not empty. -/
def IsToken (text : List Char) : Prop := text ≠ [] ∧ ∀ c ∈ text, isBase64url c = true

/-- Decoding inverts encoding, signatures and payloads are in base64url, and no two texts have one
fingerprint. -/
structure TokenCrypto.Sound (crypto : TokenCrypto) : Prop where
  decode_encode : ∀ v : Json, v.distinctKeys = true → crypto.decode (crypto.encode v) = .ok v
  encode_token : ∀ v, IsToken (crypto.encode v)
  sign_token : ∀ payload, IsToken (crypto.sign payload)
  fingerprint_injective : Function.Injective crypto.fixedLengthFingerprint

/-- `safeEqualFixedLength`. -/
def TokenCrypto.safeEqual (crypto : TokenCrypto) (a b : List Char) : Bool :=
  crypto.fixedLengthFingerprint a = crypto.fixedLengthFingerprint b

/-! ### Tokens -/

def AdminAuthProvider.text : AdminAuthProvider → String
  | .local => "local"
  | .headerSso => "header-sso"
  | .oidc => "oidc"
  | .saml => "saml"
  | .disabled => "disabled"

/-- The object that `JSON.stringify` is given. -/
def AdminUserSession.toJson (session : AdminUserSession) : Json :=
  .obj ([("sub", .str session.sub), ("name", .str session.name),
    ("provider", .str session.provider.text)] ++
    (session.groups.map fun groups => ("groups", Json.arr (groups.map Json.str))).toList ++
    [("csrfToken", .str session.csrfToken), ("expiresAt", .num session.expiresAt)])

structure OidcStateCookie where
  state : String
  nonce : String
  codeVerifier : String
  expiresAt : ℚ

def OidcStateCookie.toJson (state : OidcStateCookie) : Json :=
  .obj [("state", .str state.state), ("nonce", .str state.nonce),
    ("codeVerifier", .str state.codeVerifier), ("expiresAt", .num state.expiresAt)]

structure SignedSamlRequestPayload where
  iat : ℚ
  exp : ℚ
  nonce : String

def SignedSamlRequestPayload.toJson (payload : SignedSamlRequestPayload) : Json :=
  .obj [("iat", .num payload.iat), ("exp", .num payload.exp), ("nonce", .str payload.nonce)]

structure AuthSettings where
  adminAuthCookieName : Option String
  adminAuthSessionTtlSeconds : Option ℚ

namespace AuthService

def cookieName (settings : AuthSettings) : List Char :=
  (settings.adminAuthCookieName.getD "idmmw_admin_session").toList

def ttlSeconds (settings : AuthSettings) : ℚ := settings.adminAuthSessionTtlSeconds.getD 28800

/-- `csrfToken` is what `randomBytes` gives, `now` is `Date.now()`. -/
def createSession (settings : AuthSettings) (sub name : String) (provider : AdminAuthProvider)
    (groups : List String) (csrfToken : String) (now : ℚ) : AdminUserSession where
  sub := sub
  name := name
  provider := provider
  groups := some groups
  csrfToken := csrfToken
  expiresAt := now + ttlSeconds settings * 1000

end AuthService

/-- The state that `OidcAuthService.startLogin` writes into its cookie. -/
def OidcAuthService.startLogin (state nonce codeVerifier : String) (now : ℚ) : OidcStateCookie where
  state := state
  nonce := nonce
  codeVerifier := codeVerifier
  expiresAt := now + 600 * 1000

/-- The payload of `SignedSamlRequestCacheProvider.createRequestId`. -/
def SignedSamlRequestCacheProvider.createRequestId (nonce : String) (now : ℚ) :
    SignedSamlRequestPayload where
  iat := now
  exp := now + 600000
  nonce := nonce

/-- What makes the program sign: a login of any kind, or the start of one at a provider. -/
inductive AuthEvent
  | login (sub name : String) (provider : AdminAuthProvider) (groups : List String)
      (csrfToken : String) (now : ℚ)
  | oidcStart (state nonce codeVerifier : String) (now : ℚ)
  | samlStart (nonce : String) (now : ℚ)

namespace AuthEvent

variable (settings : AuthSettings)

/-- What is signed, before it is encoded. -/
def signed : AuthEvent → Json
  | .login sub name provider groups csrfToken now =>
    (AuthService.createSession settings sub name provider groups csrfToken now).toJson
  | .oidcStart state nonce codeVerifier now =>
    (OidcAuthService.startLogin state nonce codeVerifier now).toJson
  | .samlStart nonce now => (SignedSamlRequestCacheProvider.createRequestId nonce now).toJson

def isLogin : AuthEvent → Bool
  | .login .. => true
  | _ => false

/-- It is given out as the value of a cookie. -/
def isCookie : AuthEvent → Bool
  | .samlStart .. => false
  | _ => true

/-- What the client is given: the value of a cookie, or the id of a request. -/
def token (crypto : TokenCrypto) (event : AuthEvent) : List Char :=
  let payload := crypto.encode (event.signed settings)
  let value := payload ++ '.' :: crypto.sign payload
  match event with
  | .samlStart .. => "_idmmw_".toList ++ value
  | _ => value

end AuthEvent

/-! ### `readSession` -/

namespace AuthService

/-- `!value` is false. -/
def truthy : Json → Bool
  | .null => false
  | .bool b => b
  | .num n => n ≠ 0
  | .str text => text ≠ ""
  | _ => true

/-- `value < now`. A value that is no number is not below one; the text `-Infinity` is not told from
those. -/
def isBelow (value : Json) (now : ℚ) : Bool :=
  match value.toNumber with
  | some n => n < now
  | none => false

/-- Neither `!session.expiresAt` nor `session.expiresAt < Date.now()`. -/
def isLive (session : Json) (now : ℚ) : Bool :=
  match session.get? "expiresAt" with
  | none => false
  | some expiresAt => truthy expiresAt && !isBelow expiresAt now

/-- The cookies of a header by name; of two with one name the last counts. -/
def cookies (raw : Option (List Char)) : List (List Char × List Char) :=
  match raw with
  | none | some [] => []
  | some raw =>
    (raw.splitOn ';').foldl (fun cookies part =>
      match (trimChars part).splitOn '=' with
      | key :: rest => OrderedMap.set cookies key (['='].intercalate rest)
      | [] => cookies) []

/-- The value that the header has under the name of the session cookie. -/
def presented (settings : AuthSettings) (header : Option (List Char)) : Option (List Char) :=
  (cookies header).lookup (cookieName settings)

def readSession (crypto : TokenCrypto) (settings : AuthSettings) (header : Option (List Char))
    (now : ℚ) : Option Json :=
  match presented settings header with
  | none | some [] => none
  | some raw =>
    match raw.splitOn '.' with
    | payload :: signature :: _ =>
      if payload.isEmpty || signature.isEmpty ||
          !crypto.safeEqual signature (crypto.sign payload) then none
      else match crypto.decode payload with
        | .error _ => none
        | .ok session => if isLive session now then some session else none
    | _ => none

end AuthService

end IdmMw
