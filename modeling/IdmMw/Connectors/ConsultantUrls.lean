import IdmMw.Connectors.ZabbixCalls
import IdmMw.Model.ConsultantPlusConnector

/-!
# Where the requests of the ConsultantPlus connector go

* `OnRequests`: what holds of every request to the server;
* `AdmitsLogin`, `authenticate_issues`: what holds of the addresses of a login, and of the one that the
  server returns to, holds of the requests of a login;
* `managedUserOperation_issues`, `execute_issues`: the same of a request for a user, and of all requests;
* `perform_of`, `execute_of`: what holds of the requests for a user and of the test holds of the
  connector;
* `Confined`: the URL that is read from an address, if any, is one of an allowed host;
* `confined_of_url`, `confined_of_allowed`: addresses that are joined, and addresses that are resolved;
* `execute_confined`: all requests are confined, whatever the server answers.
-/

namespace IdmMw

open Async

namespace Properties

theorem exists_fields (properties : Properties) :
    ∃ fields, json properties = .obj fields ∧ OrderedMap.Distinct fields := by
  refine ⟨_, rfl, List.Nodup.sublist ?_ (OrderedMap.distinct_ofEntries properties)⟩
  induction OrderedMap.ofEntries properties with
  | nil => exact List.Sublist.refl []
  | cons entry m ih =>
    obtain ⟨key, _ | value⟩ := entry
    · exact ih.trans (List.sublist_cons_self _ _)
    · exact ih.cons_cons _

/-- A copy of an object that is written property by property. -/
theorem copied_json (properties : Properties) (key : String) :
    copied (json properties) key = (json properties).get? key := by
  obtain ⟨fields, hfields, hdistinct⟩ := exists_fields properties
  rw [hfields]
  unfold copied RestConnectorService.entries
  dsimp only
  rw [OrderedMap.lookup_ofEntries, Json.get?_obj]
  have hreverse : OrderedMap.Distinct fields.reverse := by
    unfold OrderedMap.Distinct
    rw [List.map_reverse]
    exact List.nodup_reverse.2 hdistinct
  cases hlookup : fields.lookup key with
  | none =>
    refine OrderedMap.lookup_eq_none_iff.2 fun hmem => ?_
    rw [List.map_reverse] at hmem
    exact OrderedMap.lookup_eq_none_iff.1 hlookup (List.mem_reverse.1 hmem)
  | some value =>
    exact hreverse.lookup_of_mem (List.mem_reverse.2 (OrderedMap.mem_of_lookup hlookup))

end Properties

namespace ConsultantPlusConnectorService

variable {rt : ConsultantRuntime} {config : Json} {text path : String} {Q : ConsultantHttp → Prop}

/-! ### The requests of a login -/

/-- What is asked of the server satisfies `Q`. -/
def OnRequests (Q : ConsultantHttp → Prop) : ConsultantReq → Prop
  | .request r => Q r
  | _ => True

theorem request_issues {method : String} {url : Except JsError String} {headers : Settings}
    {data : Option ConsultantData}
    (h : ∀ text agent, url = .ok text → Q ⟨method, text, headers, data, timeout config, agent⟩) :
    (request rt config method url headers data).Issues (OnRequests Q) := by
  refine issues_check fun text htext => ?_
  refine Issues.bind ?_ fun agent => ⟨h text agent htext, fun _ => issues_settle⟩
  unfold axiosTlsConfig
  split
  · exact issues_pure
  · exact issues_check fun _ _ => ⟨trivial, fun _ => Issues.bind issues_settle fun _ => issues_pure⟩

/-- What a login sends: nothing, or a form. -/
def IsLoginData : Option ConsultantData → Prop
  | none => True
  | some (.formData _) => True
  | _ => False

/-- `Q` holds of the requests that a login may need. -/
structure AdmitsLogin (rt : ConsultantRuntime) (config : Json) (Q : ConsultantHttp → Prop) : Prop where
  page : ∀ method text headers data agent path, path.toList.head? = some '/' →
    url config path = .ok text → IsLoginData data →
    Q ⟨method, text, headers, data, timeout config, agent⟩
  returned : ∀ text headers agent location base, allowedAbsoluteUrl rt config location base = .ok text →
    Q ⟨"GET", text, headers, none, timeout config, agent⟩

theorem startLogin_issues (h : AdmitsLogin rt config Q) (csrf : Json) (jar : CookieJar) :
    (startLogin rt config csrf jar).Issues (OnRequests Q) := by
  refine Issues.bind (request_issues fun text agent htext => ?_) fun _ =>
    issues_check fun _ _ => issues_pure
  exact h.page _ _ _ _ _ "/login/" rfl htext trivial

theorem pollAuthStatus_issues (h : AdmitsLogin rt config Q) (pid : Json) (left : ℕ) (current : Json)
    (jar : CookieJar) : (pollAuthStatus rt config pid left current jar).Issues (OnRequests Q) := by
  induction left generalizing current jar with
  | zero => exact issues_pure
  | succ left ih =>
    refine Issues.bind (request_issues fun text agent htext => ?_) fun response =>
      issues_check fun jar _ => ?_
    · refine h.page _ _ _ _ _ _ ?_ htext trivial
      rw [String.toList_append]
      rfl
    · dsimp only
      split
      · exact ih _ _
      · exact issues_pure

theorem resolveAuthStatus_issues (h : AdmitsLogin rt config Q) (status : Option Json)
    (jar : CookieJar) : (resolveAuthStatus rt config status jar).Issues (OnRequests Q) := by
  refine issues_check fun authStatus _ => ?_
  split
  · split
    · exact Issues.bind (pollAuthStatus_issues h _ _ _ _) fun _ => issues_pure
    · exact issues_pure
  · exact issues_pure

theorem finishLogin_issues (h : AdmitsLogin rt config Q) (csrf : Json) (status : Option Json)
    (jar : CookieJar) : (finishLogin rt config csrf status jar).Issues (OnRequests Q) := by
  refine issues_check fun authStatus _ => ?_
  dsimp only
  split
  · exact issues_pure
  · refine Issues.bind (Issues.bind (request_issues fun text agent htext => ?_) fun _ =>
      issues_ofExcept) fun _ => issues_pure
    exact h.returned _ _ _ _ _ htext
  · exact issues_throw

/-- Whatever the server answers. -/
theorem authenticate_issues (h : AdmitsLogin rt config Q) :
    (authenticate rt config).Issues (OnRequests Q) := by
  refine Issues.bind (request_issues fun text agent htext => ?_) fun page =>
    issues_check fun jar _ => issues_check fun csrf _ => ?_
  · exact h.page _ _ _ _ _ "/" rfl htext trivial
  · split
    · exact issues_throw
    · split
      · exact issues_pure
      · split
        · exact issues_throw
        · exact Issues.bind (startLogin_issues h _ _) fun started =>
            Issues.bind (resolveAuthStatus_issues h _ _) fun resolved =>
              finishLogin_issues h _ _ _

/-- A configuration that is accepted is tried. -/
theorem testConnection_issues (h : validateConfig rt (resolveConfig rt config) = .ok none →
    AdmitsLogin rt (resolveConfig rt config) Q) :
    (testConnection rt config).Issues (OnRequests Q) := by
  unfold testConnection
  dsimp only
  split
  · exact issues_pure
  · refine issues_check fun error haccepted => ?_
    cases error with
    | some error => exact issues_pure
    | none =>
      have htry : (tryConnection rt (resolveConfig rt config)).Issues (OnRequests Q) := by
        refine Issues.bind (authenticate_issues (h haccepted)) fun session => ?_
        repeat' split
        all_goals exact issues_pure
      refine htry.tryCatch fun error => ?_
      split <;> exact issues_pure

/-! ### Requests for a user -/

/-- `Q` holds of the request for a user, whose address is that of an interface. -/
def AdmitsApi (rt : ConsultantRuntime) (config : Json) (Q : ConsultantHttp → Prop) : Prop :=
  ∀ method path text headers data agent, apiUrl rt config path = .ok text →
    Q ⟨method, text, headers, data, timeout config, agent⟩

theorem drawValues_issues {data : Settings} :
    (drawValues rt config data).Issues (OnRequests Q) := by
  unfold drawValues
  split
  · exact issues_pure
  · exact ⟨trivial, fun _ => issues_pure⟩

theorem managedUserOperation_issues (h : AdmitsLogin rt config Q) (hapi : AdmitsApi rt config Q)
    (operation : String) (endpoint : Endpoint) (fallback : Properties → Settings) (data : Settings)
    (rawPayloads : List Settings) :
    (managedUserOperation rt operation endpoint fallback config data rawPayloads).Issues
      (OnRequests Q) := by
  have hcall : ∀ path method contentType body,
      (callConfiguredEndpoint rt operation config path method contentType body).Issues
        (OnRequests Q) := by
    intro path method contentType body
    refine issues_check fun method _ => issues_tryCatch_pure.2 ?_
    refine Issues.bind (authenticate_issues h) fun session => ?_
    split
    · exact issues_pure
    · exact Issues.bind (request_issues fun text agent htext => hapi _ _ _ _ _ _ htext) fun _ =>
        issues_pure
  refine Issues.bind drawValues_issues fun values => ?_
  split
  · exact issues_pure
  · refine Issues.bind ?_ fun _ => issues_pure
    unfold callConfiguredUserEndpoint
    repeat' split
    all_goals first | exact issues_pure | exact hcall _ _ _ _

/-- The data that an operation has of a user. -/
def userData (payload : ConnectorPayload) : Settings :=
  if payload.operation = "user.create" then recordPayload payload "data" else bothRecords payload

/-- `Q` holds of the requests for the user of the payload. -/
def AdmitsUser (rt : ConsultantRuntime) (payload : ConnectorPayload) (config : Json)
    (Q : ConsultantHttp → Prop) : Prop :=
  ∀ operation endpoint fallback rawPayloads,
    (managedUserOperation rt operation endpoint fallback config (userData payload)
      rawPayloads).Issues (OnRequests Q)

section Operations

variable {Φ : (α : Type) → ConsultantProg α → Prop} {payload : ConnectorPayload}

/-- What settled programs satisfy, and what goes through results that are computed, the operations
satisfy where the requests for a user and the test do. -/
theorem perform_of (hsettle : ∀ {α} (x : Except JsError α), Φ α (.settle x))
    (hthen : ∀ {α β} {p : ConsultantProg α} (f : α → β), Φ α p → Φ β (p >>= fun a => pure (f a)))
    (huser : ∀ operation endpoint fallback rawPayloads, Φ _ (managedUserOperation rt operation
      endpoint fallback config (userData payload) rawPayloads))
    (htest : Φ _ (testConnection rt config)) : Φ _ (perform rt payload config) := by
  have hexisting : payload.operation ≠ "user.create" → ∀ operation endpoint fallback,
      Φ _ (existingUserOperation rt operation endpoint fallback payload config) := by
    intro hne operation endpoint fallback
    have h := huser operation endpoint fallback [recordPayload payload "params",
      recordPayload payload "data"]
    unfold userData at h
    rwa [if_neg hne] at h
  unfold perform
  split
  · exact hsettle _
  · exact hthen _ htest
  · next hcreate =>
    unfold createUser
    split
    · exact hsettle _
    · have h := huser "user.create" userCreate defaultCreatePayload [recordPayload payload "data"]
      unfold userData at h
      rw [if_pos hcreate] at h
      exact hthen _ h
  · next hne => exact hthen _ (hexisting (by rw [hne]; decide) _ _ _)
  · next hne => exact hthen _ (hexisting (by rw [hne]; decide) _ _ _)
  · next hne => exact hthen _ (hexisting (by rw [hne]; decide) _ _ _)
  · next hne => exact hthen _ (hexisting (by rw [hne]; decide) _ _ _)
  · next hne => exact hthen _ (hexisting (by rw [hne]; decide) _ _ _)
  · exact hsettle _

/-- A configuration that is accepted is used. -/
theorem execute_of (hsettle : ∀ {α} (x : Except JsError α), Φ α (.settle x))
    (hthen : ∀ {α β} {p : ConsultantProg α} (f : α → β), Φ α p → Φ β (p >>= fun a => pure (f a)))
    (huser : validateConfig rt (resolveConfig rt (itemOf payload.config)) = .ok none →
      ∀ operation endpoint fallback rawPayloads, Φ _ (managedUserOperation rt operation endpoint
        fallback (resolveConfig rt (itemOf payload.config)) (userData payload) rawPayloads))
    (htest : Φ _ (testConnection rt (resolveConfig rt (itemOf payload.config)))) :
    Φ _ (execute rt payload) := by
  unfold execute
  cases hconfig : payload.config.filter Json.truthy with
  | none => exact hsettle _
  | some config =>
    obtain ⟨hsome, -⟩ := Option.filter_eq_some_iff.1 hconfig
    rw [hsome] at huser htest
    dsimp only [Option.map_some]
    split
    · exact hsettle _
    · change validateConfig rt (resolveConfig rt config) = _ → _ at huser
      cases haccepted : validateConfig rt (resolveConfig rt config) with
      | error e => exact hsettle (.error e)
      | ok error =>
        cases error with
        | some error => exact hsettle (.ok (failed error))
        | none => exact perform_of hsettle hthen (huser haccepted) htest

end Operations

theorem execute_issues {payload : ConnectorPayload}
    (huser : validateConfig rt (resolveConfig rt (itemOf payload.config)) = .ok none →
      AdmitsUser rt payload (resolveConfig rt (itemOf payload.config)) Q)
    (htest : (testConnection rt (resolveConfig rt (itemOf payload.config))).Issues (OnRequests Q)) :
    (execute rt payload).Issues (OnRequests Q) :=
  execute_of (Φ := fun _ p => p.Issues (OnRequests Q)) (fun _ => issues_settle)
    (fun _ h => Issues.bind h fun _ => issues_pure) huser htest

/-! ### Allowed hosts -/

/-- The URL that is read from the text, if any, is one of a host that is allowed: no request is sent
where the text is no URL. -/
def Confined (rt : ConsultantRuntime) (config : Json) (text : String) : Prop :=
  ∀ u, Url.parse rt.toAscii text.toList none = some u → u.scheme = "https".toList ∧
    ∃ hosts, allowedHosts rt config = .ok hosts ∧ rt.js.toLowerCase (hostnameOf u) ∈ hosts

theorem isAllowedHost_iff {host : String} : isAllowedHost rt config host = .ok true ↔
    ∃ hosts, allowedHosts rt config = .ok hosts ∧ rt.js.toLowerCase host ∈ hosts := by
  unfold isAllowedHost
  rw [bind_eq_ok]
  refine exists_congr fun hosts => and_congr_right fun _ => ?_
  exact ⟨fun h => List.contains_iff_mem.1 (Except.ok.inj h), fun h =>
    congrArg Except.ok (List.contains_iff_mem.2 h)⟩

/-- An address that is checked is confined. -/
theorem confined_of_allowed {location base : String}
    (h : allowedAbsoluteUrl rt config location base = .ok text) : Confined rt config text := by
  intro u hu
  obtain ⟨url, -, h⟩ := bind_eq_ok.1 h
  split at h
  · cases h
  · next parsed hparsed =>
    dsimp only at h
    split at h
    · cases h
    · next hscheme =>
      obtain ⟨allowed, hallowed, h⟩ := bind_eq_ok.1 h
      cases allowed with
      | false => cases h
      | true =>
        obtain rfl := Except.ok.inj h
        obtain rfl := Option.some.inj (hparsed.symm.trans hu)
        exact ⟨not_not.1 hscheme, isAllowedHost_iff.1 hallowed⟩

theorem confined_of_apiUrl (h : apiUrl rt config path = .ok text) : Confined rt config text := by
  unfold apiUrl at h
  split at h
  · cases h
  · obtain ⟨base, -, h⟩ := bind_eq_ok.1 h
    exact confined_of_allowed h

/-- The address of a configuration that is accepted. -/
theorem baseUrl_allowed (h : validateConfig rt config = .ok none) : ∃ base,
    Url.parse rt.toAscii ((itemOf (config.get? "baseUrl")).toText rt.js.numberText).toList none =
      some base ∧ base.scheme = "https".toList ∧
    ∃ hosts, allowedHosts rt config = .ok hosts ∧ rt.js.toLowerCase (hostnameOf base) ∈ hosts := by
  obtain ⟨error, hbase, h⟩ := bind_eq_ok.1 h
  cases error with
  | some error => cases h
  | none =>
    unfold validateConfiguredUrl at hbase
    dsimp only at hbase
    split at hbase
    · cases hbase
    · next parsed hparsed =>
      split at hbase
      · cases hbase
      · next hscheme =>
        obtain ⟨allowed, hallowed, hbase⟩ := bind_eq_ok.1 hbase
        cases allowed with
        | false => cases hbase
        | true => exact ⟨parsed, hparsed, not_not.1 hscheme, isAllowedHost_iff.1 hallowed⟩

/-- A path behind the address of a configuration that is accepted. -/
theorem confined_of_url (hrejects : Url.RejectsBlanks rt.toAscii)
    (haccepted : validateConfig rt config = .ok none) (hpath : path.toList.head? = some '/')
    (h : url config path = .ok text) : Confined rt config text := by
  intro u hu
  obtain ⟨base, hparsed, hscheme, hallowed⟩ := baseUrl_allowed haccepted
  obtain ⟨start, hstart, h⟩ := bind_eq_ok.1 h
  obtain rfl := Except.ok.inj h
  obtain ⟨more, hmore⟩ := List.head?_eq_some_iff.1 hpath
  rw [String.toList_append, hmore] at hu
  unfold baseOf at hstart
  split at hstart
  · next baseUrl hbaseUrl =>
    obtain rfl := Except.ok.inj hstart
    rw [hbaseUrl] at hparsed
    rw [String.toList_ofList] at hu
    have hweb : Url.isWeb base.scheme = true := by rw [hscheme]; rfl
    obtain ⟨hsameScheme, hsameAuthority⟩ := Url.parse_joined hrejects hweb hparsed hu
    have hhost : hostnameOf u = hostnameOf base := by
      unfold hostnameOf Url.hostname
      rw [hsameAuthority]
    rw [hhost]
    exact ⟨hsameScheme.trans hscheme, hallowed⟩
  · cases hstart

theorem admitsLogin_confined (hrejects : Url.RejectsBlanks rt.toAscii)
    (haccepted : validateConfig rt config = .ok none) :
    AdmitsLogin rt config fun r => Confined rt config r.url where
  page := fun _ _ _ _ _ _ hpath htext _ => confined_of_url hrejects haccepted hpath htext
  returned := fun _ _ _ _ _ htext => confined_of_allowed htext

/-! ### A configuration that is completed twice -/

theorem get?_resolveConfig {key : String} (hlogin : key ≠ "login") (hpassword : key ≠ "password") :
    (resolveConfig rt config).get? key = Properties.copied config key := by
  unfold resolveConfig
  rw [Properties.get?_json, List.reverse_append, List.lookup_append,
    Properties.lookup_spread_reverse]
  have hnone : ∀ login password : Option Json,
      ([("login", login), ("password", password)] : Properties).reverse.lookup key = none := by
    intro login password
    refine OrderedMap.lookup_eq_none_iff.2 fun hmem => ?_
    rcases List.mem_pair.1 hmem with rfl | rfl
    · exact hpassword rfl
    · exact hlogin rfl
  rw [hnone, Option.none_or]
  cases Properties.copied config key <;> rfl

theorem allowedHosts_resolveConfig :
    allowedHosts rt (resolveConfig rt (resolveConfig rt config)) =
      allowedHosts rt (resolveConfig rt config) := by
  have hhosts : (resolveConfig rt (resolveConfig rt config)).get? "allowedHosts" =
      (resolveConfig rt config).get? "allowedHosts" :=
    (get?_resolveConfig (by decide) (by decide)).trans (Properties.copied_json _ _)
  unfold allowedHosts
  rw [hhosts]

theorem confined_resolveConfig (h : Confined rt (resolveConfig rt (resolveConfig rt config)) text) :
    Confined rt (resolveConfig rt config) text := by
  intro u hu
  obtain ⟨hscheme, hosts, hallowed, hmem⟩ := h u hu
  exact ⟨hscheme, hosts, allowedHosts_resolveConfig.symm.trans hallowed, hmem⟩

/-! ### Every request -/

theorem testConnection_confined (hrejects : Url.RejectsBlanks rt.toAscii) (config : Json) :
    (testConnection rt config).Issues
      (OnRequests fun r => Confined rt (resolveConfig rt config) r.url) :=
  testConnection_issues fun haccepted => admitsLogin_confined hrejects haccepted

/-- Whatever the server answers, every request is for a host that the configuration allows. -/
theorem requests_confined (hrejects : Url.RejectsBlanks rt.toAscii) :
    (∀ payload : ConnectorPayload, (execute rt payload).Issues
      (OnRequests fun r => Confined rt (resolveConfig rt (itemOf payload.config)) r.url)) ∧
    ∀ config, (testConnection rt config).Issues
      (OnRequests fun r => Confined rt (resolveConfig rt config) r.url) := by
  refine ⟨fun payload => execute_issues (fun haccepted operation endpoint fallback raw => ?_) ?_,
    testConnection_confined hrejects⟩
  · exact managedUserOperation_issues (admitsLogin_confined hrejects haccepted)
      (fun _ _ _ _ _ _ htext => confined_of_apiUrl htext) _ _ _ _ _
  · refine (testConnection_confined hrejects _).mono fun r hr => ?_
    cases r with
    | request r => exact confined_resolveConfig hr
    | random => trivial
    | httpsAgent tls => trivial

/-- A configuration with the address of the service. -/
def serviceConfig : Json := .obj [("baseUrl", .str "https://login.consultant.ru")]

/-- The login page is asked for, and all requests are for the service. -/
theorem requests_confined_service :
    (∃ rest, testConnection .ascii serviceConfig = Async.await (.request
      ⟨"GET", "https://login.consultant.ru/", [], none, .num 15000, none⟩) rest) ∧
    (testConnection .ascii serviceConfig).Issues
      (OnRequests fun r => Confined .ascii (resolveConfig .ascii serviceConfig) r.url) :=
  ⟨⟨_, rfl⟩, (requests_confined Url.rejectsBlanks_asciiDomain).2 serviceConfig⟩

end ConsultantPlusConnectorService

end IdmMw
