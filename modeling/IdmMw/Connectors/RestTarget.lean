import IdmMw.Model.RestConnector
import IdmMw.Security.Networks

/-!
# Where the requests of the REST connector go

* `Sent`: the URL that a payload is sent to, with the checks that it has passed; `execute_issues`;
* `SameOrigin`: a URL has the scheme, the host and the port of another;
* `confined_iff`: requests stay with the base URL unless the path of the payload names an authority;
* `SpecialHost`: hosts of this computer and of private networks;
* `privateHosts_iff`: requests do not go there, but for addresses of IPv6 and a host with a dot behind it.
-/

namespace IdmMw

open Async

namespace RestConnectorService

variable {js : Runtime} {toAscii : List UInt8 → Option (List Char)} {payload : ConnectorPayload}
  {base url : Url} {path : String}

/-! ### What is sent -/

/-- A setting of the configuration. -/
def setting (payload : ConnectorPayload) (key : String) : Option Json :=
  payload.config.bind (·.get? key)

/-- The base URL of the configuration. -/
def IsBase (js : Runtime) (toAscii : List UInt8 → Option (List Char)) (payload : ConnectorPayload)
    (base : Url) : Prop :=
  ∃ value, setting payload "baseUrl" = some value ∧ value.truthy = true ∧
    Url.parse toAscii (value.toText js.numberText).toList none = some base

/-- The payload is sent to the URL, which is read from the path and the base URL. -/
structure Sent (js : Runtime) (toAscii : List UInt8 → Option (List Char))
    (payload : ConnectorPayload) (base : Url) (path : String) (url : Url) : Prop where
  isBase : IsBase js toAscii payload base
  isPath : relativePath (payload.payload.get? "path") = .ok path
  isUrl : Url.parse toAscii path.toList (some base) = some url
  address : isTruthy (setting payload "allowPrivateNetwork") = true ∨
    isPrivateOrLocalAddress url.hostname = false
  allowed : isPathAllowed url.pathname (setting payload "allowedPaths") = .ok true
  tls : TlsOptionsFactory.isOn (setting payload "tls") = true → url.scheme = "https".toList

/-- A property of the requests to the target. -/
def OnRequest (Q : HttpRequest → Prop) : RestReq → Prop
  | .request request => Q request
  | .httpsAgent _ => True

/-- The settings of the agent that is made. -/
def agentOf (payload : ConnectorPayload) : Option Json :=
  if TlsOptionsFactory.isOn (setting payload "tls") then setting payload "tls" else none

theorem ofExcept_targetUrl {baseUrl : String} {url : Url}
    (h : targetUrl toAscii path baseUrl = .ok url) : ∃ base,
      Url.parse toAscii baseUrl.toList none = some base ∧
        Url.parse toAscii path.toList (some base) = some url := by
  unfold targetUrl at h
  split at h
  · next hurl =>
    obtain rfl := Except.ok.inj h
    exact Option.bind_eq_some_iff.1 hurl
  · cases h

theorem sendRequest_issues {Q : HttpRequest → Prop} :
    (sendRequest js payload url).Issues (OnRequest Q) ↔
      ((TlsOptionsFactory.isOn (setting payload "tls") = true → url.scheme = "https".toList) →
        Q (httpRequest js payload url (agentOf payload))) := by
  have hpost : ∀ agent, Q (httpRequest js payload url agent) →
      (await (.request (httpRequest js payload url agent)) .settle >>= fun data =>
        (Pure.pure ⟨true, some data, none⟩ : RestProg ConnectorResult)).Issues (OnRequest Q) :=
    fun agent hQ => Issues.bind ⟨hQ, fun _ => issues_settle⟩ fun _ => issues_pure
  constructor
  · intro h htls
    unfold sendRequest axiosConfig at h
    by_cases hon : TlsOptionsFactory.isOn (setting payload "tls") = true
    · have hagent : agentOf payload = setting payload "tls" := if_pos hon
      rw [if_neg (by simpa [setting] using hon), if_neg (by simpa using htls hon)] at h
      rw [hagent]
      exact (h.2 (.ok ())).1
    · have hagent : agentOf payload = none := if_neg hon
      rw [if_pos (by simpa [setting] using hon)] at h
      rw [hagent]
      exact h.1
  · intro h
    refine Issues.tryCatch ?_ fun _ => issues_pure
    unfold axiosConfig
    by_cases hon : TlsOptionsFactory.isOn (setting payload "tls") = true
    · have hagent : agentOf payload = setting payload "tls" := if_pos hon
      rw [if_neg (by simpa [setting] using hon)]
      by_cases hscheme : url.scheme = "https".toList
      · rw [if_neg (by simpa using hscheme)]
        refine ⟨trivial, fun answer => ?_⟩
        cases answer with
        | error error => exact issues_settle
        | ok u =>
          have hQ := h fun _ => hscheme
          rw [hagent] at hQ
          exact hpost _ hQ
      · rw [if_pos hscheme]
        exact issues_throw
    · have hagent : agentOf payload = none := if_neg hon
      rw [if_pos (by simpa [setting] using hon)]
      rw [hagent] at h
      exact hpost none (h fun htrue => absurd htrue hon)

/-- The requests that are sent are these. -/
theorem execute_issues {Q : HttpRequest → Prop} :
    (execute js toAscii payload).Issues (OnRequest Q) ↔
      ∀ base path url, Sent js toAscii payload base path url →
        Q (httpRequest js payload url (agentOf payload)) := by
  constructor
  · rintro h base path url ⟨⟨value, hsetting, htruthy, hbase⟩, hpath, hurl, haddress, hallowed, htls⟩
    have hvalue : (setting payload "baseUrl").filter Json.truthy = some value :=
      Option.filter_eq_some_iff.2 ⟨hsetting, htruthy⟩
    have htarget : targetUrl toAscii path (value.toText js.numberText) = .ok url := by
      unfold targetUrl
      rw [hbase, Option.bind_some, hurl]
    have hguard : (!isTruthy (setting payload "allowPrivateNetwork") &&
        isPrivateOrLocalAddress url.hostname) = false := by
      rcases haddress with haddress | haddress
      · simp [haddress]
      · simp [haddress]
    unfold execute at h
    dsimp only at h
    rw [show (payload.config.bind (·.get? "baseUrl")).filter Json.truthy = some value from hvalue,
      hpath] at h
    dsimp only at h
    rw [htarget] at h
    change (if (!isTruthy (setting payload "allowPrivateNetwork") &&
      isPrivateOrLocalAddress url.hostname) = true then _ else _ : RestProg ConnectorResult).Issues _
      at h
    rw [if_neg (by simp [hguard])] at h
    change (Async.ofExcept (isPathAllowed url.pathname (setting payload "allowedPaths")) >>= _ :
      RestProg ConnectorResult).Issues _ at h
    rw [hallowed] at h
    exact sendRequest_issues.1 h htls
  · intro h
    unfold execute
    dsimp only
    split
    · exact issues_pure
    · next value hvalue =>
      obtain ⟨hsetting, htruthy⟩ := Option.filter_eq_some_iff.1 hvalue
      split
      · exact issues_pure
      · next path hpath =>
        refine issues_check fun url hurl => ?_
        obtain ⟨base, hbase, hparse⟩ := ofExcept_targetUrl hurl
        split
        · exact issues_pure
        · next haddress =>
          refine issues_check fun allowed hallowed => ?_
          split
          · exact issues_pure
          · next hnot =>
            obtain rfl : allowed = true := by simpa using hnot
            refine sendRequest_issues.2 fun htls => h base path url
              ⟨⟨value, hsetting, htruthy, hbase⟩, hpath, hparse, ?_, hallowed, htls⟩
            by_contra hboth
            rw [not_or] at hboth
            exact haddress (by simpa [setting] using hboth)

/-! ### The origin of the base URL -/

/-- The scheme, the host and the port are the same. -/
def SameOrigin (url base : Url) : Prop :=
  url.scheme = base.scheme ∧ url.authority.host = base.authority.host ∧
    url.authority.port = base.authority.port

/-- Every request that is sent stays with the base URL. -/
def Confined (js : Runtime) (toAscii : List UInt8 → Option (List Char))
    (payload : ConnectorPayload) : Prop :=
  ∀ base, IsBase js toAscii payload base →
    (execute js toAscii payload).Issues (OnRequest fun request => SameOrigin request.url base)

/-- Without tabs and line breaks the path starts with two slashes, of which a backslash is one in the
special schemes, and what follows them is an authority with another host or port. -/
def NamesAnother (toAscii : List UInt8 → Option (List Char)) (base : Url) (path : String) : Prop :=
  ∃ rest authority more, Url.afterSlashes base.scheme (Url.clean path.toList) = some rest ∧
    Url.authorityBehind toAscii base.scheme rest = some (authority, more) ∧
    ¬ (authority.host = base.authority.host ∧ authority.port = base.authority.port)

/-- The path that is accepted starts with a slash. -/
theorem toList_relativePath {value : Option Json} (h : relativePath value = .ok path) :
    ∃ cs, path.toList = '/' :: cs := by
  unfold relativePath at h
  split at h
  · obtain rfl := Except.ok.inj h
    exact ⟨[], rfl⟩
  · obtain rfl := Except.ok.inj h
    exact ⟨[], rfl⟩
  · obtain rfl := Except.ok.inj h
    exact ⟨[], rfl⟩
  · next path' _ =>
    split at h
    · cases h
    · next hstart =>
      obtain rfl := Except.ok.inj h
      simp only [Bool.or_eq_true, Bool.not_eq_true', not_or, Bool.not_eq_false] at hstart
      obtain ⟨cs, hcs⟩ := List.isPrefixOf_iff_prefix.1 hstart.1
      exact ⟨cs, hcs.symm⟩
  · cases h

theorem sameOrigin_iff (hsent : Sent js toAscii payload base path url) :
    SameOrigin url base ↔ ¬ NamesAnother toAscii base path := by
  obtain ⟨cs, hcs⟩ := toList_relativePath hsent.isPath
  have hurl := hsent.isUrl
  rw [hcs] at hurl
  have hrelative := Url.parse_slash hurl
  obtain ⟨cs', hclean⟩ := Url.clean_slash cs
  unfold NamesAnother
  rw [hcs, hclean]
  rw [hclean] at hrelative
  obtain ⟨hscheme, ⟨rest, authority, more, hrest, hauthority, hnamed⟩ | ⟨hnone, hstays⟩⟩ :=
    Url.relative_of_slash hrelative
  · constructor
    · rintro ⟨-, hhost, hport⟩ ⟨rest', authority', more', hrest', hauthority', hother⟩
      obtain rfl := Option.some.inj (hrest.symm.trans hrest')
      obtain ⟨rfl, rfl⟩ := Prod.mk.inj (Option.some.inj (hauthority.symm.trans hauthority'))
      rw [hnamed] at hhost hport
      exact hother ⟨hhost, hport⟩
    · intro hnot
      have hsame : authority.host = base.authority.host ∧ authority.port = base.authority.port := by
        by_contra hother
        exact hnot ⟨rest, authority, more, hrest, hauthority, hother⟩
      exact ⟨hscheme, hnamed ▸ hsame.1, hnamed ▸ hsame.2⟩
  · constructor
    · rintro - ⟨rest, authority, more, hrest, -, -⟩
      rw [hnone] at hrest
      cases hrest
    · intro _
      exact ⟨hscheme, by rw [hstays], by rw [hstays]⟩

theorem IsBase.unique {base' : Url} (h : IsBase js toAscii payload base)
    (h' : IsBase js toAscii payload base') : base = base' := by
  obtain ⟨value, hvalue, -, hbase⟩ := h
  obtain ⟨value', hvalue', -, hbase'⟩ := h'
  obtain rfl := Option.some.inj (hvalue.symm.trans hvalue')
  exact Option.some.inj (hbase.symm.trans hbase')

/-- Requests stay with the base URL unless a payload that passes the other checks has a path which
names another authority. -/
theorem confined_iff (js : Runtime) (toAscii : List UInt8 → Option (List Char))
    (payload : ConnectorPayload) :
    Confined js toAscii payload ↔
      ∀ base path url, Sent js toAscii payload base path url → ¬ NamesAnother toAscii base path := by
  constructor
  · intro h base path url hsent
    exact (sameOrigin_iff hsent).1 (execute_issues.1 (h base hsent.isBase) base path url hsent)
  · intro h base hbase
    refine execute_issues.2 fun base' path url hsent => ?_
    obtain rfl := hbase.unique hsent.isBase
    exact (sameOrigin_iff hsent).2 (h base path url hsent)

/-- The bytes of a domain in ASCII. -/
def asciiDomain (bytes : List UInt8) : Option (List Char) :=
  if bytes.all (· < 128) then some (bytes.map fun b => (Char.ofNat b.toNat).toLower) else none

/-- A path with a backslash. -/
def backslashPayload : ConnectorPayload where
  operation := "create"
  targetSystem := "rest"
  payload := .obj [("config", .obj [("baseUrl", .str "https://api.example.local")]),
    ("path", .str "/\\evil.example/x")]

/-- The URL at a host. -/
def urlAt (host : String) (path : List (List Char)) : Url :=
  ⟨"https".toList, .ofHost (.domain host.toList), .segments path, none, none⟩

theorem backslash_sent : Sent .ascii asciiDomain backslashPayload (urlAt "api.example.local" [[]])
    "/\\evil.example/x" (urlAt "evil.example" ["x".toList]) where
  isBase := ⟨.str "https://api.example.local", rfl, rfl, by decide +kernel⟩
  isPath := rfl
  isUrl := by decide +kernel
  address := Or.inr (by decide +kernel)
  allowed := rfl
  tls h := by cases h

/-- It is sent to another host. -/
theorem backslash_leaves_origin : ¬ ∀ payload, Confined .ascii asciiDomain payload := by
  intro h
  have hsame := execute_issues.1 (h backslashPayload _ backslash_sent.isBase) _ _ _ backslash_sent
  have hhost : some (Url.Host.domain "evil.example".toList) =
      some (.domain "api.example.local".toList) := hsame.2.1
  exact absurd hhost (by decide)

/-! ### Private networks -/

/-- Unspecified, loopback, private and link-local addresses. -/
def SpecialIpv4 (address : ℕ) : Prop :=
  address = 0 ∨ address / 2 ^ 24 = 127 ∨ address / 2 ^ 24 = 10 ∨ address / 2 ^ 20 = 0xAC1 ∨
    address / 2 ^ 16 = 0xC0A8 ∨ address / 2 ^ 16 = 0xA9FE

/-- Unspecified, loopback, unique-local, link-local and mapped addresses. -/
def SpecialIpv6 (pieces : List ℕ) : Prop :=
  pieces = [0, 0, 0, 0, 0, 0, 0, 0] ∨ pieces = [0, 0, 0, 0, 0, 0, 0, 1] ∨
    (∃ piece rest, pieces = piece :: rest ∧ (piece / 2 ^ 9 = 0x7E ∨ piece / 2 ^ 6 = 0x3FA)) ∨
    ∃ high low, pieces = [0, 0, 0, 0, 0, 0xFFFF, high, low] ∧ SpecialIpv4 (high * 2 ^ 16 + low)

/-- The pieces of an address. -/
def IsPieces (pieces : List ℕ) : Prop := pieces.length = 8 ∧ ∀ piece ∈ pieces, piece < 2 ^ 16

/-- An address of IPv6 in brackets, of these. -/
def SpecialBrackets (hostname : List Char) : Prop :=
  ∃ pieces, IsPieces pieces ∧ SpecialIpv6 pieces ∧ hostname = (Url.Host.ipv6 pieces).text

/-- A host of this computer or of a private network, as `URL.hostname` writes it. -/
def SpecialHost (hostname : List Char) : Prop :=
  hostname = "localhost".toList ∨ hostname = "localhost.".toList ∨
    (∃ address < 2 ^ 32, SpecialIpv4 address ∧ hostname = (Url.Host.ipv4 address).text) ∨
    SpecialBrackets hostname

/-- No request goes to such a host, unless the configuration allows it. -/
def Guarded (js : Runtime) (toAscii : List UInt8 → Option (List Char))
    (payload : ConnectorPayload) : Prop :=
  isTruthy (setting payload "allowPrivateNetwork") = false →
    (execute js toAscii payload).Issues
      (OnRequest fun request => ¬ SpecialHost request.url.hostname)

/-- The hosts that are overlooked: `localhost` with a dot behind it, and addresses of IPv6. -/
def Overlooked (hostname : List Char) : Prop :=
  hostname = "localhost.".toList ∨ SpecialBrackets hostname

theorem toLower_of_isDigit {c : Char} (h : c.isDigit = true ∨ c = '.') : c.toLower = c := by
  rcases h with h | rfl
  · have hrange := toNat_of_isDigit h
    unfold Char.toLower
    rw [dif_neg]
    rintro ⟨hupper, -⟩
    have hle := UInt32.le_iff_toNat_le.1 hupper
    have hA : 'A'.val.toNat = 65 := rfl
    have hc : c.toNat = c.val.toNat := rfl
    omega
  · rfl

/-- An address of IPv4 is taken as it is written. -/
theorem normalizeIp_dottedText (address : ℕ) :
    normalizeIp ((Url.dottedText address).map Char.toLower) = some (Url.dottedText address) := by
  have hlower : (Url.dottedText address).map Char.toLower = Url.dottedText address :=
    (List.map_congr_left fun c hc => toLower_of_isDigit (Url.mem_dottedText hc)).trans
      (List.map_id _)
  have htrim : trimChars (Url.dottedText address) = Url.dottedText address := by
    refine trimChars_eq_self fun c hc => ?_
    rcases Url.mem_dottedText hc with hdigit | rfl
    · exact isSpace_of_isDigit hdigit
    · rfl
  have hne : Url.dottedText address ≠ [] := by
    intro hnil
    have hread := Url.dotted_dottedText address
    rw [hnil] at hread
    cases hread
  have hstart : withoutStart mappedStart (Url.dottedText address) = none := by
    refine if_neg fun hprefix => ?_
    obtain ⟨rest, hrest⟩ := List.isPrefixOf_iff_prefix.1 hprefix
    have hcolon : ':' ∈ Url.dottedText address := by
      rw [← hrest]
      exact List.mem_append_left _ (by decide)
    rcases Url.mem_dottedText hcolon with h | h
    · cases h
    · cases h
  unfold normalizeIp
  rw [hlower, htrim, if_neg hne, hstart]
  rfl

/-- The networks of the code. -/
theorem cidrNetwork_privateNetworks : privateNetworks.map (fun network => cidrNetwork network.toList) =
    [some (8, 10 * 2 ^ 24), some (12, 0xAC1 * 2 ^ 20), some (16, 0xC0A8 * 2 ^ 16),
      some (8, 127 * 2 ^ 24), some (16, 0xA9FE * 2 ^ 16), some (8, 0)] := by
  decide +kernel

/-- The special addresses of IPv4 are in these networks. -/
theorem exists_network {address : ℕ} (h : SpecialIpv4 address) :
    ∃ network ∈ privateNetworks, ∃ bits start, cidrNetwork network.toList = some (bits, start) ∧
      SameNetwork bits address start := by
  have hnetworks := cidrNetwork_privateNetworks
  simp only [privateNetworks, List.map_cons, List.map_nil, List.cons.injEq, and_true] at hnetworks
  obtain ⟨hten, hseventeen, hsixteen, hloop, hlink, hzero⟩ := hnetworks
  rcases h with h | h | h | h | h | h
  · exact ⟨_, by simp [privateNetworks], _, _, hzero, by simp [SameNetwork, h]⟩
  · exact ⟨_, by simp [privateNetworks], _, _, hloop, by simp only [SameNetwork]; omega⟩
  · exact ⟨_, by simp [privateNetworks], _, _, hten, by simp only [SameNetwork]; omega⟩
  · exact ⟨_, by simp [privateNetworks], _, _, hseventeen, by simp only [SameNetwork]; omega⟩
  · exact ⟨_, by simp [privateNetworks], _, _, hsixteen, by simp only [SameNetwork]; omega⟩
  · exact ⟨_, by simp [privateNetworks], _, _, hlink, by simp only [SameNetwork]; omega⟩

theorem isPrivate_dottedText {address : ℕ} (hlt : address < 2 ^ 32) (h : SpecialIpv4 address) :
    isPrivateOrLocalAddress (Url.dottedText address) = true := by
  obtain ⟨network, hmem, bits, start, hnetwork, hin⟩ := exists_network h
  have hdotted := Url.dotted_dottedText address
  have hmatches : ipv4MatchesCidr (Url.dottedText address) network.toList = true :=
    ipv4MatchesCidr_iff.2 ⟨_, bits, start, hdotted, hnetwork, by rwa [addressOf_octets hlt]⟩
  have hne : Url.dottedText address ≠ [] := by
    intro hnil
    rw [hnil] at hdotted
    cases hdotted
  obtain ⟨c, cs, hcons⟩ := List.exists_cons_of_ne_nil hne
  have hint : ipv4ToInt (Url.dottedText address) =
      some (addressOfParts (Url.octets address)) := by
    unfold ipv4ToInt
    rw [hdotted]
    rfl
  unfold isPrivateOrLocalAddress
  rw [normalizeIp_dottedText, hcons]
  dsimp only
  rw [← hcons, hint]
  split
  · rfl
  · rw [Bool.or_eq_true, List.any_eq_true]
    exact Or.inl ⟨network, hmem, hmatches⟩

/-- Every such host is noticed, or is one of those that are overlooked. -/
theorem noticed_or_overlooked {hostname : List Char} (h : SpecialHost hostname) :
    isPrivateOrLocalAddress hostname = true ∨ Overlooked hostname := by
  rcases h with rfl | rfl | ⟨address, hlt, hspecial, rfl⟩ | hbrackets
  · exact Or.inl (by decide)
  · exact Or.inr (Or.inl rfl)
  · exact Or.inl (isPrivate_dottedText hlt hspecial)
  · exact Or.inr (Or.inr hbrackets)

/-- Requests do not go to such a host unless a payload that passes the other checks names one that is
overlooked. -/
theorem privateHosts_iff (js : Runtime) (toAscii : List UInt8 → Option (List Char))
    (payload : ConnectorPayload) :
    Guarded js toAscii payload ↔
      (isTruthy (setting payload "allowPrivateNetwork") = false →
        ∀ base path url, Sent js toAscii payload base path url → ¬ Overlooked url.hostname) := by
  constructor
  · rintro h hnot base path url hsent hoverlooked
    refine execute_issues.1 (h hnot) base path url hsent ?_
    rcases hoverlooked with hdot | hbrackets
    · exact Or.inr (Or.inl hdot)
    · exact Or.inr (Or.inr (Or.inr hbrackets))
  · intro h hnot
    refine execute_issues.2 fun base path url hsent hspecial => ?_
    rcases noticed_or_overlooked hspecial with hnoticed | hoverlooked
    · rcases hsent.address with hallowed | haddress
      · rw [hnot] at hallowed
        cases hallowed
      · have hsame : isPrivateOrLocalAddress url.hostname = true := hnoticed
        rw [haddress] at hsame
        cases hsame
    · exact h hnot base path url hsent hoverlooked

/-- A base URL with the address of this computer. -/
def loopbackPayload : ConnectorPayload where
  operation := "create"
  targetSystem := "rest"
  payload := .obj [("config", .obj [("baseUrl", .str "http://[::1]:8080")])]

/-- The URL of this computer. -/
def loopbackUrl : Url :=
  ⟨"http".toList, ⟨[], [], some (.ipv6 [0, 0, 0, 0, 0, 0, 0, 1]), some 8080⟩, .segments [[]], none,
    none⟩

theorem loopback_sent : Sent .ascii asciiDomain loopbackPayload loopbackUrl "/" loopbackUrl where
  isBase := ⟨.str "http://[::1]:8080", rfl, rfl, by decide +kernel⟩
  isPath := rfl
  isUrl := by decide +kernel
  address := Or.inr (by decide +kernel)
  allowed := rfl
  tls h := by cases h

/-- A request goes to this computer. -/
theorem loopback_not_guarded : ¬ ∀ payload, Guarded .ascii asciiDomain payload := by
  intro h
  refine execute_issues.1 (h loopbackPayload rfl) _ _ _ loopback_sent ?_
  refine Or.inr (Or.inr (Or.inr ⟨[0, 0, 0, 0, 0, 0, 0, 1], ⟨rfl, by simp⟩, Or.inr (Or.inl rfl), ?_⟩))
  rfl

end RestConnectorService

end IdmMw
