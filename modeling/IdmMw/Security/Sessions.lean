import IdmMw.Model.Sealing
import IdmMw.Model.Sessions

/-!
# Admin sessions are those that a login has given out

Of all that the program signs with the secret of the sessions, a cookie should be taken for a session
only if a login has given it out.

* `readSession_eq_some_iff`: what is taken for a session is a live payload with its signature;
* `Unforged`: the client has no signature but of what the program has signed;
* `Authentic`, `authentic_iff`: the law, and when it holds. The request ids of SAML have no time of
  expiry and are refused, but the state of an OIDC login has the form of a session, and parts after
  the second dot are ignored.
-/

namespace IdmMw

open AuthService

variable {crypto : TokenCrypto} {settings : AuthSettings} {history : List AuthEvent}
  {header : Option (List Char)} {now : ℚ} {event event' : AuthEvent} {raw : List Char}
  {rest : List (List Char)}

/-! ### What is read -/

theorem TokenCrypto.Sound.safeEqual_iff (hsound : crypto.Sound) {a b : List Char} :
    crypto.safeEqual a b = true ↔ a = b := by
  unfold TokenCrypto.safeEqual
  rw [decide_eq_true_iff]
  exact ⟨fun h => hsound.fingerprint_injective h, congrArg _⟩

/-- A session is a live payload that is presented with its signature. -/
theorem readSession_eq_some_iff (hsound : crypto.Sound) {session : Json} :
    readSession crypto settings header now = some session ↔
      ∃ raw payload rest, presented settings header = some raw ∧
        raw.splitOn '.' = payload :: crypto.sign payload :: rest ∧ payload ≠ [] ∧
        crypto.decode payload = .ok session ∧ isLive session now = true := by
  unfold readSession
  constructor
  · intro h
    split at h
    · cases h
    · cases h
    · next raw _ hraw =>
      split at h
      · next payload signature rest hsplit =>
        split at h
        · cases h
        · next hvalid =>
          rw [Bool.or_eq_true, Bool.or_eq_true, not_or, not_or] at hvalid
          obtain ⟨⟨hpayload, -⟩, hequal⟩ := hvalid
          rw [Bool.not_eq_true, Bool.not_eq_false', hsound.safeEqual_iff] at hequal
          subst hequal
          split at h
          · cases h
          · next session' hdecode =>
            split at h
            · next hlive =>
              obtain rfl := Option.some.inj h
              exact ⟨raw, payload, rest, hraw, hsplit, fun hnil => hpayload (hnil ▸ rfl), hdecode,
                hlive⟩
            · cases h
      · cases h
  · rintro ⟨raw, payload, rest, hraw, hsplit, hpayload, hdecode, hlive⟩
    have hne : raw ≠ [] := by
      rintro rfl
      cases hsplit
    have hsign : crypto.sign payload ≠ [] := (hsound.sign_token payload).1
    have hvalid : (payload.isEmpty || (crypto.sign payload).isEmpty ||
        !crypto.safeEqual (crypto.sign payload) (crypto.sign payload)) = false := by
      rw [hsound.safeEqual_iff.2 rfl, List.isEmpty_eq_false_iff.2 hpayload,
        List.isEmpty_eq_false_iff.2 hsign]
      rfl
    rw [hraw]
    cases raw with
    | nil => exact absurd rfl hne
    | cons c raw =>
      dsimp only
      rw [hsplit]
      dsimp only
      rw [hvalid, if_neg Bool.false_ne_true, hdecode]
      exact if_pos hlive

/-! ### Tokens -/

theorem not_mem_of_isToken {text : List Char} (h : IsToken text) {c : Char}
    (hc : isBase64url c = false) : c ∉ text := fun hmem =>
  Bool.false_ne_true (hc.symm.trans (h.2 c hmem))

/-- The value begins with the signed payload of the event; `rest` is what follows, part by part. -/
def BeginsWith (crypto : TokenCrypto) (settings : AuthSettings) (raw : List Char)
    (event : AuthEvent) (rest : List (List Char)) : Prop :=
  raw.splitOn '.' = crypto.encode (event.signed settings) ::
    crypto.sign (crypto.encode (event.signed settings)) :: rest

theorem distinctKeys_strings (texts : List String) :
    distinctKeysOfList (texts.map Json.str) = true := by
  induction texts with
  | nil => rfl
  | cons text texts ih => exact ih

theorem AuthEvent.signed_distinctKeys (event : AuthEvent) :
    (event.signed settings).distinctKeys = true := by
  cases event with
  | login sub name provider groups csrfToken now =>
    have hgroups := distinctKeys_strings groups
    simp [AuthEvent.signed, createSession, AdminUserSession.toJson, Json.distinctKeys,
      distinctKeysOfFields, hgroups]
  | oidcStart state nonce codeVerifier now => rfl
  | samlStart nonce now => rfl

theorem TokenCrypto.Sound.decode_signed (hsound : crypto.Sound) (event : AuthEvent) :
    crypto.decode (crypto.encode (event.signed settings)) = .ok (event.signed settings) :=
  hsound.decode_encode _ event.signed_distinctKeys

theorem TokenCrypto.Sound.signed_inj (hsound : crypto.Sound)
    (h : crypto.encode (event.signed settings) = crypto.encode (event'.signed settings)) :
    event.signed settings = event'.signed settings := by
  have hdecode := congrArg crypto.decode h
  rw [hsound.decode_signed, hsound.decode_signed] at hdecode
  exact Except.ok.inj hdecode

theorem AuthEvent.isCookie_of_isLogin (h : event.isLogin = true) : event.isCookie = true := by
  cases event with
  | samlStart => cases h
  | _ => rfl

/-- A cookie is its payload and its signature. -/
theorem AuthEvent.token_of_isCookie (h : event.isCookie = true) :
    event.token settings crypto = crypto.encode (event.signed settings) ++
      '.' :: crypto.sign (crypto.encode (event.signed settings)) := by
  cases event with
  | samlStart => cases h
  | _ => rfl

/-- A value that begins with a cookie and does not go on is that cookie. -/
theorem eq_token_of_beginsWith (hcookie : event.isCookie = true)
    (h : BeginsWith crypto settings raw event []) : raw = event.token settings crypto := by
  have hraw : ['.'].intercalate (raw.splitOn '.') = raw := List.intercalate_splitOn '.'
  rw [h] at hraw
  rw [AuthEvent.token_of_isCookie hcookie, ← hraw]
  simp

theorem beginsWith_token (hsound : crypto.Sound) (hcookie : event.isCookie = true) :
    BeginsWith crypto settings (event.token settings crypto) event [] := by
  have hpayload := hsound.encode_token (event.signed settings)
  have hsign := hsound.sign_token (crypto.encode (event.signed settings))
  have hdot : isBase64url '.' = false := by decide
  unfold BeginsWith
  rw [AuthEvent.token_of_isCookie hcookie,
    List.splitOn_append_cons_self_of_not_mem (not_mem_of_isToken hpayload hdot),
    List.splitOn_eq_singleton (not_mem_of_isToken hsign hdot)]

/-- A cookie begins with nothing else that has been signed. -/
theorem signed_eq_of_token (hsound : crypto.Sound) (hcookie : event.isCookie = true)
    (h : BeginsWith crypto settings (event.token settings crypto) event' rest) :
    event'.signed settings = event.signed settings ∧ rest = [] := by
  have htoken : BeginsWith crypto settings (event.token settings crypto) event [] :=
    beginsWith_token hsound hcookie
  have hboth := htoken.symm.trans h
  obtain ⟨hpayload, htail⟩ := List.cons.inj hboth
  obtain ⟨-, hrest⟩ := List.cons.inj htail
  exact ⟨(hsound.signed_inj hpayload).symm, hrest.symm⟩

/-- What a login signs is no other payload. -/
theorem isLogin_of_signed_eq (h : event.signed settings = event'.signed settings) :
    event.isLogin = event'.isLogin := by
  have hkeys : ∀ event : AuthEvent, event.isLogin = ((event.signed settings).get? "sub").isSome := by
    intro event
    cases event <;> rfl
  rw [hkeys, hkeys, h]

theorem not_isLive_samlStart (nonce : String) (t : ℚ) :
    isLive ((AuthEvent.samlStart nonce t).signed settings) now = false := rfl

/-! ### The law -/

/-- The client presents no signature but of what the program has signed. -/
def Unforged (crypto : TokenCrypto) (settings : AuthSettings) (history : List AuthEvent)
    (header : Option (List Char)) : Prop :=
  ∀ raw payload rest, presented settings header = some raw →
    raw.splitOn '.' = payload :: crypto.sign payload :: rest →
    ∃ event ∈ history, payload = crypto.encode (event.signed settings)

/-- A session is read only of a value that a login has given out, and is the session of the login. -/
def Authentic (crypto : TokenCrypto) (settings : AuthSettings) (history : List AuthEvent)
    (header : Option (List Char)) (now : ℚ) : Prop :=
  ∀ session, readSession crypto settings header now = some session →
    ∃ event ∈ history, event.isLogin = true ∧ session = event.signed settings ∧
      presented settings header = some (event.token settings crypto)

/-- The value that is presented begins neither with the state of an OIDC login that has not expired,
nor, if it goes on, with a session that has not. -/
structure PresentsNoOther (crypto : TokenCrypto) (settings : AuthSettings)
    (history : List AuthEvent) (header : Option (List Char)) (now : ℚ) : Prop where
  oidc : ∀ state nonce codeVerifier t raw rest, .oidcStart state nonce codeVerifier t ∈ history →
    presented settings header = some raw →
    BeginsWith crypto settings raw (.oidcStart state nonce codeVerifier t) rest →
    isLive (OidcAuthService.startLogin state nonce codeVerifier t).toJson now = false
  login : ∀ event ∈ history, event.isLogin = true → ∀ raw rest,
    presented settings header = some raw → BeginsWith crypto settings raw event rest →
    isLive (event.signed settings) now = true → rest = []

/-- Whatever has been signed, a live payload of it that is presented is read. -/
theorem readSession_of_beginsWith (hsound : crypto.Sound)
    (hraw : presented settings header = some raw)
    (hbegins : BeginsWith crypto settings raw event rest)
    (hlive : isLive (event.signed settings) now = true) :
    readSession crypto settings header now = some (event.signed settings) :=
  (readSession_eq_some_iff hsound).2 ⟨raw, _, rest, hraw, hbegins,
    (hsound.encode_token (event.signed settings)).1, hsound.decode_signed event, hlive⟩

/-- Sessions are authentic exactly if the client presents no state of an OIDC login, and no session
with more behind it. -/
theorem authentic_iff (hsound : crypto.Sound)
    (hunforged : Unforged crypto settings history header) :
    Authentic crypto settings history header now ↔
      PresentsNoOther crypto settings history header now := by
  constructor
  · intro h
    refine ⟨?_, ?_⟩
    · intro state nonce codeVerifier t raw rest hevent hraw hbegins
      by_contra hlive
      rw [Bool.not_eq_false] at hlive
      obtain ⟨event, -, hlogin, hsession, htoken⟩ :=
        h _ (readSession_of_beginsWith hsound hraw hbegins hlive)
      have hsame := isLogin_of_signed_eq hsession
      rw [hlogin] at hsame
      cases hsame
    · intro event hevent hlogin raw rest hraw hbegins hlive
      obtain ⟨event', -, hlogin', -, htoken⟩ :=
        h _ (readSession_of_beginsWith hsound hraw hbegins hlive)
      rw [hraw] at htoken
      obtain rfl := Option.some.inj htoken
      exact (signed_eq_of_token hsound (AuthEvent.isCookie_of_isLogin hlogin') hbegins).2
  · intro h session hsession
    obtain ⟨raw, payload, rest, hraw, hsplit, -, hdecode, hlive⟩ :=
      (readSession_eq_some_iff hsound).1 hsession
    obtain ⟨event, hevent, rfl⟩ := hunforged raw payload rest hraw hsplit
    obtain rfl := Except.ok.inj ((hsound.decode_signed event).symm.trans hdecode)
    cases event with
    | login sub name provider groups csrfToken t =>
      obtain rfl := h.login _ hevent rfl raw rest hraw hsplit hlive
      exact ⟨_, hevent, rfl, rfl, hraw.trans (congrArg some (eq_token_of_beginsWith rfl hsplit))⟩
    | oidcStart state nonce codeVerifier t =>
      have hdead := h.oidc state nonce codeVerifier t raw rest hevent hraw hsplit
      exact absurd hlive (Bool.eq_false_iff.1 hdead)
    | samlStart nonce t => exact absurd hlive (Bool.eq_false_iff.1 (not_isLive_samlStart nonce t))

/-! ### A cookie of its own -/

/-- A header with one cookie, that of the sessions. -/
def sessionCookie (value : List Char) : Option (List Char) :=
  some ("idmmw_admin_session=".toList ++ value)

def AuthSettings.default : AuthSettings := ⟨none, none⟩

/-- Such characters lie between `-` and `z`. -/
theorem toNat_of_isBase64url {c : Char} (h : isBase64url c = true ∨ c = '.') :
    0x2D ≤ c.toNat ∧ c.toNat ≤ 0x7A := by
  rcases h with h | rfl
  · delta isBase64url Char.isAlphanum Char.isAlpha Char.isUpper Char.isLower Char.isDigit at h
    simp only [Bool.or_eq_true, Bool.and_eq_true, decide_eq_true_eq, beq_iff_eq, ge_iff_le,
      UInt32.le_iff_toNat_le] at h
    change 45 ≤ c.val.toNat ∧ c.val.toNat ≤ 122
    have hA : 'A'.val.toNat = 65 := rfl
    have hZ : 'Z'.val.toNat = 90 := rfl
    have ha : 'a'.val.toNat = 97 := rfl
    have hz : 'z'.val.toNat = 122 := rfl
    have h0 : '0'.val.toNat = 48 := rfl
    have h9 : '9'.val.toNat = 57 := rfl
    rcases h with ((((h | h) | h) | rfl) | rfl)
    · omega
    · omega
    · omega
    · decide
    · decide
  · decide

theorem not_isSpace_of_isBase64url {c : Char} (h : isBase64url c = true ∨ c = '.') :
    isSpace c = false := by
  obtain ⟨hle, hge⟩ := toNat_of_isBase64url h
  unfold isSpace
  simp only [List.contains_eq_mem, List.mem_cons, List.not_mem_nil, or_false,
    Bool.or_eq_false_iff, decide_eq_false_iff_not, Bool.and_eq_false_iff]
  omega

/-- The value of the cookie is what is presented. -/
theorem presented_sessionCookie {value : List Char}
    (h : ∀ c ∈ value, isBase64url c = true ∨ c = '.') :
    presented .default (sessionCookie value) = some value := by
  have hnot : ∀ c, isBase64url c = false → c ≠ '.' → c ∉ value := by
    intro c hc hdot hmem
    rcases h c hmem with hbase | heq
    · exact Bool.false_ne_true (hc.symm.trans hbase)
    · exact hdot heq
  have hname : ∀ c ∈ "idmmw_admin_session=".toList, isSpace c = false ∧ c ≠ ';' := by
    have hall : "idmmw_admin_session=".toList.all (fun c => !isSpace c && c != ';') = true := by
      decide
    intro c hc
    simpa using List.all_eq_true.1 hall c hc
  have hsemicolon : ';' ∉ "idmmw_admin_session=".toList ++ value := by
    intro hmem
    rcases List.mem_append.1 hmem with hmem | hmem
    · exact (hname ';' hmem).2 rfl
    · exact hnot ';' (by decide) (by decide) hmem
  have htrim : trimChars ("idmmw_admin_session=".toList ++ value) =
      "idmmw_admin_session=".toList ++ value := by
    refine trimChars_eq_self fun c hc => ?_
    rcases List.mem_append.1 hc with hc | hc
    · exact (hname c hc).1
    · exact not_isSpace_of_isBase64url (h c hc)
  have hsplit : ("idmmw_admin_session=".toList ++ value).splitOn '=' =
      ["idmmw_admin_session".toList, value] := by
    have hequals : '=' ∉ "idmmw_admin_session".toList := by decide
    have happend := List.splitOn_append_cons_self_of_not_mem hequals value
    rw [List.splitOn_eq_singleton (hnot '=' (by decide) (by decide))] at happend
    exact happend
  unfold presented sessionCookie cookies
  show (((("idmmw_admin_session=".toList ++ value).splitOn ';').foldl _ []).lookup _) = some value
  rw [List.splitOn_eq_singleton hsemicolon, List.foldl_cons, List.foldl_nil, htrim, hsplit]
  simp [OrderedMap.set, cookieName, AuthSettings.default]

/-- Payloads and signatures that count the number of the value: there are countably many. -/
noncomputable def TokenCrypto.counting : TokenCrypto :=
  let values := Encodable.ofCountable Json
  let texts := Encodable.ofCountable (List Char)
  { sign := fun payload => List.replicate (texts.encode payload + 1) 's'
    fixedLengthFingerprint := id
    encode := fun v => List.replicate (values.encode v + 1) 'p'
    decode := fun text =>
      match values.decode (text.length - 1) with
      | some v => .ok v
      | none => .error (.error "Unexpected end of JSON input") }

theorem isToken_replicate (n : ℕ) {c : Char} (hc : isBase64url c = true) :
    IsToken (List.replicate (n + 1) c) :=
  ⟨by simp, fun c' hc' => (List.eq_of_mem_replicate hc') ▸ hc⟩

theorem TokenCrypto.counting_sound : TokenCrypto.counting.Sound where
  decode_encode := by
    intro v _
    have hv := (Encodable.ofCountable Json).encodek v
    simp [TokenCrypto.counting, hv]
  encode_token := fun _ => isToken_replicate _ (by decide)
  sign_token := fun _ => isToken_replicate _ (by decide)
  fingerprint_injective := Function.injective_id

theorem mem_token (hsound : crypto.Sound) (hcookie : event.isCookie = true) :
    ∀ c ∈ event.token settings crypto, isBase64url c = true ∨ c = '.' := by
  intro c hc
  rw [AuthEvent.token_of_isCookie hcookie] at hc
  rcases List.mem_append.1 hc with hc | hc
  · exact .inl ((hsound.encode_token _).2 c hc)
  · rcases List.mem_cons.1 hc with hc | hc
    · exact .inr hc
    · exact .inl ((hsound.sign_token _).2 c hc)

/-- A cookie that has been given out, presented as a session. -/
def presenting (crypto : TokenCrypto) (event : AuthEvent) : Option (List Char) :=
  sessionCookie (event.token .default crypto)

theorem presented_presenting (hsound : crypto.Sound) (hcookie : event.isCookie = true) :
    presented .default (presenting crypto event) = some (event.token .default crypto) :=
  presented_sessionCookie (mem_token hsound hcookie)

theorem unforged_presenting (hsound : crypto.Sound) (hcookie : event.isCookie = true)
    (hevent : event ∈ history) : Unforged crypto .default history (presenting crypto event) := by
  intro raw payload rest hraw hsplit
  obtain rfl := Option.some.inj ((presented_presenting hsound hcookie).symm.trans hraw)
  have htoken : BeginsWith crypto .default (event.token .default crypto) event [] :=
    beginsWith_token hsound hcookie
  have hboth := htoken.symm.trans hsplit
  exact ⟨event, hevent, (List.cons.inj hboth).1.symm⟩

def someLogin : AuthEvent := .login "root" "root" .local [] "csrf" 0

def someOidcStart : AuthEvent := .oidcStart "state" "nonce" "verifier" 0

/-- The cookie of a login, while the login of another is under way. -/
theorem authentic_someLogin : Authentic .counting .default [someLogin, someOidcStart]
    (presenting .counting someLogin) 1 := by
  have hsound := TokenCrypto.counting_sound
  have hraw := presented_presenting hsound (show someLogin.isCookie = true from rfl)
  refine (authentic_iff hsound (unforged_presenting hsound rfl List.mem_cons_self)).2 ⟨?_, ?_⟩
  · intro state nonce codeVerifier t raw rest _ h hbegins
    obtain rfl := Option.some.inj (hraw.symm.trans h)
    have hsame := isLogin_of_signed_eq (signed_eq_of_token hsound rfl hbegins).1
    cases hsame
  · intro event _ _ raw rest h hbegins _
    obtain rfl := Option.some.inj (hraw.symm.trans h)
    exact (signed_eq_of_token hsound rfl hbegins).2

/-- The state of an OIDC login, which anyone is given, is taken for a session. -/
theorem not_authentic :
    Unforged .counting .default [someOidcStart] (presenting .counting someOidcStart) ∧
      ¬ Authentic .counting .default [someOidcStart] (presenting .counting someOidcStart) 1 := by
  have hsound := TokenCrypto.counting_sound
  refine ⟨unforged_presenting hsound rfl List.mem_cons_self, fun h => ?_⟩
  have hraw := presented_presenting hsound (show someOidcStart.isCookie = true from rfl)
  have hlive : isLive (someOidcStart.signed .default) 1 = true := by
    show (truthy (.num (0 + 600 * 1000)) && !isBelow (.num (0 + 600 * 1000)) 1) = true
    unfold isBelow
    rw [Json.toNumber]
    norm_num [truthy]
  obtain ⟨event, hevent, hlogin, -⟩ := h _ (readSession_of_beginsWith hsound hraw
    (beginsWith_token hsound rfl) hlive)
  obtain rfl := List.mem_singleton.1 hevent
  cases hlogin

end IdmMw
