import IdmMw.Model.Sessions

/-!
# The ids of SAML requests

`SignedSamlRequestCacheProvider`: an id is a signed payload with the time until which it may be
answered. An id that has been answered is kept in the map `used` until that time.

* `verify`: what is read from a key;
* `createRequestId`, `saveAsync`, `getAsync`, `removeAsync`: the calls, over the map `used`;
* `SamlCall`, `SignedSamlRequestCacheProvider.run`: the calls in their order, each with the readings
  of the clock that it takes.
-/

namespace IdmMw

/-- The times for which there are dates: `8.64e15` milliseconds around the epoch. -/
def maxTime : ℚ := 8640000000000000

/-- `new Date(time).toISOString()`; `isoText` is the text of a date. -/
def toISOString (isoText : ℚ → String) (time : ℚ) : Except JsError String :=
  if |time| ≤ maxTime then .ok (isoText time) else .error (.error "Invalid time value")

structure CacheItem where
  value : String
  createdAt : ℚ

namespace SignedSamlRequestCacheProvider

def samlRequestIdPrefix : List Char := "_idmmw_".toList

/-- The id that is given out. -/
def requestId (crypto : TokenCrypto) (payload : SignedSamlRequestPayload) : List Char :=
  let payload := crypto.encode payload.toJson
  samlRequestIdPrefix ++ (payload ++ '.' :: crypto.sign payload)

/-- `now` is the reading of the clock. -/
def verify (crypto : TokenCrypto) (key : List Char) (now : ℚ) : Option SignedSamlRequestPayload :=
  if !samlRequestIdPrefix.isPrefixOf key then none
  else
    match (key.drop samlRequestIdPrefix.length).splitOn '.' with
    | payload :: signature :: _ =>
      if payload.isEmpty || signature.isEmpty ||
          !crypto.safeEqual signature (crypto.sign payload) then none
      else match crypto.decode payload with
        | .error _ => none
        | .ok parsed =>
          match parsed.get? "iat", parsed.get? "exp", parsed.get? "nonce" with
          | some (.num iat), some (.num exp), some (.str nonce) =>
            if exp < now then none else some ⟨iat, exp, nonce⟩
          | _, _, _ => none
    | _ => none

/-- `Map<string, number>`: the keys that have been answered, with the time until which they are
kept. -/
abbrev Used := List (List Char × ℚ)

def prune (now : ℚ) (used : Used) : Used := used.filter fun entry => !decide (entry.2 < now)

variable (crypto : TokenCrypto) (isoText : ℚ → String)

def saveAsync (key : List Char) (value : String) (verified : ℚ) : Option CacheItem :=
  (verify crypto key verified).map fun payload => ⟨value, payload.iat⟩

/-- `verified` is the reading of the clock in `verify`, `pruned` that in `prune`. -/
def getAsync (used : Used) (key : List Char) (verified pruned : ℚ) :
    Except JsError (Option String) × Used :=
  match verify crypto key verified with
  | none => (.ok none, used)
  | some payload =>
    let used := prune pruned used
    if key ∈ used.map Prod.fst then (.ok none, used)
    else ((toISOString isoText payload.iat).map some, used)

def removeAsync (used : Used) (key : Option (List Char)) (verified pruned : ℚ) :
    Except JsError (Option String) × Used :=
  match key with
  | none | some [] => (.ok none, used)
  | some key =>
    match verify crypto key verified with
    | none => (.ok none, used)
    | some payload =>
      ((toISOString isoText payload.iat).map some,
        OrderedMap.set (prune pruned used) key payload.exp)

end SignedSamlRequestCacheProvider

/-- A call of the provider, with the readings of the clock. -/
inductive SamlCall
  | createRequestId (nonce : String) (now : ℚ)
  | saveAsync (key : List Char) (value : String) (verified : ℚ)
  | getAsync (key : List Char) (verified pruned : ℚ)
  | removeAsync (key : Option (List Char)) (verified pruned : ℚ)

def SamlCall.readings : SamlCall → List ℚ
  | createRequestId _ now => [now]
  | saveAsync _ _ verified => [verified]
  | getAsync _ verified pruned => [verified, pruned]
  | removeAsync _ verified pruned => [verified, pruned]

namespace SignedSamlRequestCacheProvider

variable (crypto : TokenCrypto) (isoText : ℚ → String)

/-- What a call leaves in `used`. -/
def step (used : Used) : SamlCall → Used
  | .createRequestId .. | .saveAsync .. => used
  | .getAsync key verified pruned => (getAsync crypto isoText used key verified pruned).2
  | .removeAsync key verified pruned => (removeAsync crypto isoText used key verified pruned).2

/-- What the calls leave, from an empty map. -/
def run (calls : List SamlCall) : Used := calls.foldl (step crypto isoText) []

end SignedSamlRequestCacheProvider

end IdmMw
