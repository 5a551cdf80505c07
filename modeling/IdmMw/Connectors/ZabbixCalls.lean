import IdmMw.Model.ZabbixConnector

/-!
# The calls of the Zabbix connector

* `get?_json`: what an object holds that is written property by property;
* `call_issues`, `resolveAuth_runs`: when a call is posted, and what the token of a call can be;
* `IdPlace`: where the call for an operation names its object; `objectOperations` lists them;
* `hitsResolved_iff`: the calls name the object that the payload names, if the payload does, and unless
  the data have a user id of their own.
-/

namespace IdmMw

open Async

/-! ### Objects -/

namespace Properties

variable {properties : Properties} {key : String}

theorem lookup_filterMap {m : List (String × Option Json)} (h : OrderedMap.Distinct m) :
    (m.filterMap fun (key, value) => value.map (key, ·)).lookup key = (m.lookup key).join := by
  induction m with
  | nil => rfl
  | cons entry m ih =>
    obtain ⟨key', value⟩ := entry
    obtain ⟨hkey', hm⟩ := List.nodup_cons.1 h
    have ih := ih hm
    by_cases hkey : key' = key
    · subst hkey
      have hnone : m.lookup key' = none := OrderedMap.lookup_eq_none_iff.2 hkey'
      rw [OrderedMap.lookup_cons_self]
      cases value with
      | none => exact ih.trans (by rw [hnone]; rfl)
      | some value => exact OrderedMap.lookup_cons_self key' value _
    · rw [OrderedMap.lookup_cons_of_ne hkey]
      cases value with
      | none => exact ih
      | some value => exact (OrderedMap.lookup_cons_of_ne hkey value _).trans ih

/-- Of the properties with one key the last counts. -/
theorem get?_json (properties : Properties) (key : String) :
    (json properties).get? key = (properties.reverse.lookup key).join := by
  unfold json
  rw [Json.get?_obj, lookup_filterMap (OrderedMap.distinct_ofEntries _),
    OrderedMap.lookup_ofEntries]

/-- What a copy of the value has under the key. -/
def copied (value : Json) (key : String) : Option Json :=
  (OrderedMap.ofEntries (RestConnectorService.entries (some value))).lookup key

theorem lookup_map_some (m : Settings) (f : Json → Json) (key : String) :
    (m.map fun entry => (entry.1, some (f entry.2))).lookup key =
      (m.lookup key).map fun value => some (f value) := by
  induction m with
  | nil => rfl
  | cons entry m ih =>
    obtain ⟨key', value⟩ := entry
    rw [List.map_cons]
    by_cases hkey : key' = key
    · subst hkey
      rw [OrderedMap.lookup_cons_self, OrderedMap.lookup_cons_self]
      rfl
    · rw [OrderedMap.lookup_cons_of_ne hkey, OrderedMap.lookup_cons_of_ne hkey, ih]

theorem lookup_spread_reverse (value : Json) (key : String) :
    (spread value).reverse.lookup key = (copied value key).map some := by
  unfold spread copied
  rw [OrderedMap.lookup_ofEntries, ← List.map_reverse, lookup_map_some _ fun item => item]

/-- A property behind a copy. -/
theorem get?_spread_append (value : Json) (id : Option Json) :
    (json (spread value ++ [(key, id)])).get? key = id := by
  rw [get?_json, List.reverse_append, List.reverse_singleton, List.singleton_append,
    OrderedMap.lookup_cons_self]
  rfl

/-- A property before a copy. -/
theorem get?_append_spread (value : Json) (id : Option Json) :
    (json ([(key, id)] ++ spread value)).get? key = (copied value key).or id := by
  rw [get?_json, List.reverse_append, List.lookup_append, lookup_spread_reverse,
    List.reverse_singleton, OrderedMap.lookup_cons_self]
  cases copied value key <;> rfl

/-- A property before the keys of a copy. -/
theorem get?_append_keys (value : Json) (id : Option Json) (item : Json) :
    (json ([(key, id)] ++ (spread value).map fun (key, _) => (key, some item))).get? key =
      ((copied value key).map fun _ => item).or id := by
  have hkeys : ((spread value).map fun (key, _) => (key, some item)) =
      (RestConnectorService.entries (some value)).map fun entry => (entry.1, some item) := by
    unfold spread
    rw [List.map_map]
    rfl
  rw [get?_json, List.reverse_append, List.lookup_append, hkeys, ← List.map_reverse,
    lookup_map_some _ fun _ => item, ← OrderedMap.lookup_ofEntries,
    List.reverse_singleton, OrderedMap.lookup_cons_self]
  show ((copied value key).map _ |>.or _).join = _
  cases copied value key <;> rfl

end Properties

namespace ZabbixConnectorService

variable {js : Runtime} {config data params : Json} {method operation : String}
  {auth : Option ZabbixAuth}

/-! ### What is posted -/

/-- A property of the bodies that are posted. -/
def OnPost (Q : Json → Prop) : ZabbixReq → Prop
  | .post _ body _ _ => Q body
  | .httpsAgent _ => True

/-- What is posted in a run, with the answers. -/
def exchanges (t : List (Event ZabbixAns)) : List (Json × Except JsError Json) :=
  t.filterMap fun
    | ⟨.post _ body _ _, answer⟩ => some (body, answer)
    | ⟨.httpsAgent _, _⟩ => none

theorem exchanges_append (t₁ t₂ : List (Event ZabbixAns)) :
    exchanges (t₁ ++ t₂) = exchanges t₁ ++ exchanges t₂ := List.filterMap_append

/-- The bodies that are posted in a run, one after the other. -/
def posted (t : List (Event ZabbixAns)) : List Json := (exchanges t).map Prod.fst

/-- What a run posts has a property of all that may be posted. -/
theorem forall_posted {α : Type} {p : ZabbixProg α} {Q : Json → Prop} (h : p.Issues (OnPost Q))
    {t : List (Event ZabbixAns)} {x : Except JsError α} (hrun : p.Runs t x) :
    ∀ body ∈ posted t, Q body := by
  intro body hbody
  obtain ⟨⟨body, answer⟩, hexchange, rfl⟩ := List.mem_map.1 hbody
  obtain ⟨⟨req, ans⟩, hevent, heq⟩ := List.mem_filterMap.1 hexchange
  have hQ := h.of_runs hrun _ hevent
  cases req with
  | httpsAgent tls => cases heq
  | post url body' headers agent =>
    obtain ⟨rfl, rfl⟩ := Prod.mk.inj (Option.some.inj heq)
    exact hQ

/-- The address allows what the settings for TLS say. -/
def CanPost (js : Runtime) (config : Json) : Prop :=
  TlsOptionsFactory.isOn (config.get? "tls") = true →
    assertTlsUrl js (config.get? "baseUrl") = .ok ()

/-- What is asked for before a call is posted. -/
theorem axiosConfig_issues {Q : Json → Prop} : (axiosConfig js config).Issues (OnPost Q) := by
  unfold axiosConfig
  split
  · exact issues_pure
  · exact issues_ofExcept.bind fun _ => Issues.bind ⟨trivial, fun _ => issues_settle⟩
      fun _ => issues_pure

theorem axiosConfig_runs : (∃ t agent, (axiosConfig js config).Runs t (.ok agent)) ↔
    CanPost js config := by
  unfold axiosConfig CanPost
  by_cases hon : TlsOptionsFactory.isOn (config.get? "tls") = true
  · rw [if_neg (by simpa using hon)]
    cases hurl : assertTlsUrl js (config.get? "baseUrl") with
    | error e =>
      refine iff_of_false ?_ fun h => nomatch h hon
      rintro ⟨t, agent, -, h⟩
      cases h
    | ok u =>
      exact iff_of_true ⟨[⟨.httpsAgent _, .ok ()⟩], _, .ok (), [], rfl, rfl, rfl⟩ fun _ => rfl
  · rw [if_pos (by simpa using hon)]
    exact iff_of_true ⟨[], none, rfl, rfl⟩ fun h => absurd h hon

/-- A call is posted if the address allows it. -/
theorem call_issues {Q : Json → Prop} :
    (call js config method params auth).Issues (OnPost Q) ↔
      (CanPost js config → Q (body method params auth)) := by
  unfold call
  rw [issues_bind_iff]
  constructor
  · rintro ⟨-, h⟩ hcan
    obtain ⟨t, agent, hrun⟩ := axiosConfig_runs.2 hcan
    exact (h t agent hrun).1
  · intro h
    refine ⟨axiosConfig_issues, fun t agent hrun => ?_⟩
    exact Issues.bind ⟨h (axiosConfig_runs.1 ⟨t, agent, hrun⟩), fun _ => issues_settle⟩
      fun _ => issues_ofExcept

/-- Reading certificates is no exchange. -/
theorem axiosConfig_exchanges {t : List (Event ZabbixAns)} {x : Except JsError (Option Json)}
    (h : (axiosConfig js config).Runs t x) : exchanges t = [] :=
  List.map_eq_nil_iff.1 (List.eq_nil_iff_forall_not_mem.2
    (forall_posted (axiosConfig_issues (Q := fun _ => False)) h))

/-- A call that succeeds is one exchange, and ends with the result that the answer carries. -/
theorem call_exchanges {result : Option Json} {es : List (Json × Except JsError Json)} :
    (∃ t, (call js config method params auth).Runs t (.ok result) ∧ exchanges t = es) ↔
      CanPost js config ∧ ∃ answer, resultOf js answer = .ok result ∧
        es = [(body method params auth, .ok answer)] := by
  constructor
  · rintro ⟨t, h, rfl⟩
    unfold call at h
    obtain ⟨agent, t₁, t₂, rfl, hagent, hpost⟩ := runs_bind_ok.1 h
    refine ⟨axiosConfig_runs.1 ⟨t₁, agent, hagent⟩, ?_⟩
    obtain ⟨data, t₃, t₄, rfl, ⟨answer, t₅, rfl, rfl, hdata⟩, rfl, hanswer⟩ := runs_bind_ok.1 hpost
    obtain rfl : answer = .ok data := hdata.symm
    refine ⟨data, hanswer.symm, ?_⟩
    rw [exchanges_append, axiosConfig_exchanges hagent]
    rfl
  · rintro ⟨hcan, answer, hanswer, rfl⟩
    obtain ⟨t, agent, hrun⟩ := axiosConfig_runs.2 hcan
    refine ⟨t ++ [⟨.post _ _ _ _, .ok answer⟩], runs_bind_ok.2 ⟨agent, t, _, rfl, hrun,
      runs_bind_ok.2 ⟨answer, [⟨.post _ _ _ _, .ok answer⟩], [], rfl,
        ⟨.ok answer, [], rfl, rfl, rfl⟩, rfl, hanswer.symm⟩⟩, ?_⟩
    rw [exchanges_append, axiosConfig_exchanges hrun]
    rfl

/-- A call that succeeds has been posted. -/
theorem mem_posted_of_call {t : List (Event ZabbixAns)} {response : Option Json}
    (h : (call js config method params auth).Runs t (.ok response)) :
    body method params auth ∈ posted t := by
  obtain ⟨-, answer, -, hexchanges⟩ := call_exchanges.1 ⟨t, h, rfl⟩
  unfold posted
  rw [hexchanges]
  exact List.mem_cons_self

/-- A call ends with the result that an answer carries. -/
theorem call_runs {result : Option Json} :
    (∃ t, (call js config method params auth).Runs t (.ok result)) ↔
      CanPost js config ∧ ∃ answer, resultOf js answer = .ok result := by
  constructor
  · rintro ⟨t, h⟩
    obtain ⟨hcan, answer, hanswer, -⟩ := call_exchanges.1 ⟨t, h, rfl⟩
    exact ⟨hcan, answer, hanswer⟩
  · rintro ⟨hcan, answer, hanswer⟩
    obtain ⟨t, h, -⟩ := call_exchanges.2 ⟨hcan, answer, hanswer, rfl⟩
    exact ⟨t, h⟩

/-! ### The token -/

/-- The credentials are given. -/
def HasLogin (config : Json) : Prop :=
  isTruthy (config.get? "username") = true ∧ isTruthy (config.get? "password") = true

/-- What the calls may carry. -/
inductive Authenticates (config : Json) : ZabbixAuth → Prop
  | apiToken {token : Json} (h : (config.get? "apiToken").filter Json.truthy = some token) :
    Authenticates config ⟨token, .bearer⟩
  | login (hnone : (config.get? "apiToken").filter Json.truthy = none) (h : HasLogin config)
    (token : String) : Authenticates config ⟨.str token, .legacyAuthField⟩

/-- The body of the login. -/
def loginBody (config : Json) : Json :=
  body "user.login" (Properties.json
    [("username", config.get? "username"), ("password", config.get? "password")]) none

/-- There is no token in the configuration, and a login is tried. -/
def LogsIn (config : Json) : Prop :=
  (config.get? "apiToken").filter Json.truthy = none ∧ HasLogin config

theorem login_issues {Q : Json → Prop} :
    (login js config).Issues (OnPost Q) ↔ (CanPost js config → Q (loginBody config)) := by
  unfold login
  rw [issues_bind_iff]
  constructor
  · exact fun h => call_issues.1 h.1
  · refine fun h => ⟨call_issues.2 h, fun t response _ => ?_⟩
    split
    · exact issues_pure
    · exact issues_throw

theorem login_runs {token : Json} :
    (∃ t, (login js config).Runs t (.ok token)) ↔
      CanPost js config ∧ ∃ text, token = .str text := by
  unfold login
  constructor
  · rintro ⟨t, h⟩
    obtain ⟨response, t₁, t₂, rfl, hcall, hresponse⟩ := runs_bind_ok.1 h
    refine ⟨(call_runs.1 ⟨t₁, hcall⟩).1, ?_⟩
    split at hresponse
    · exact ⟨_, Except.ok.inj hresponse.2⟩
    · cases hresponse.2
  · rintro ⟨hcan, text, rfl⟩
    obtain ⟨t, hcall⟩ := call_runs.2
      ⟨hcan, .obj [("result", .str text)], (rfl : resultOf js _ = .ok (some (.str text)))⟩
    exact ⟨_, runs_bind_ok.2 ⟨_, t, [], rfl, hcall, rfl, rfl⟩⟩

theorem resolveAuth_issues {Q : Json → Prop} :
    (resolveAuth js config).Issues (OnPost Q) ↔
      (CanPost js config → LogsIn config → Q (loginBody config)) := by
  unfold resolveAuth
  split
  · next htoken =>
    exact iff_of_true issues_pure fun _ h =>
      absurd (htoken.symm.trans h.1) (Option.some_ne_none _)
  · next htoken =>
    by_cases hlogin : HasLogin config
    · rw [if_neg (by simp [hlogin.1, hlogin.2]), issues_bind_iff, login_issues]
      constructor
      · exact fun h hcan _ => h.1 hcan
      · exact fun h => ⟨fun hcan => h hcan ⟨htoken, hlogin⟩, fun _ _ _ => issues_pure⟩
    · rw [if_pos]
      · exact iff_of_true issues_throw fun _ h => absurd h.2 hlogin
      · rw [← Bool.not_and, Bool.not_eq_true', ← Bool.not_eq_true, Bool.and_eq_true]
        exact hlogin

theorem resolveAuth_runs {auth : ZabbixAuth} :
    (∃ t, (resolveAuth js config).Runs t (.ok auth)) ↔
      Authenticates config auth ∧ (LogsIn config → CanPost js config) := by
  unfold resolveAuth
  split
  · next token htoken =>
    constructor
    · rintro ⟨t, -, h⟩
      obtain rfl := Except.ok.inj h
      exact ⟨.apiToken htoken, fun h =>
        absurd (htoken.symm.trans h.1) (Option.some_ne_none _)⟩
    · rintro ⟨hauth, -⟩
      cases hauth with
      | apiToken h =>
        obtain rfl := Option.some.inj (h.symm.trans htoken)
        exact ⟨[], rfl, rfl⟩
      | login hnone => exact absurd (htoken.symm.trans hnone) (Option.some_ne_none _)
  · next htoken =>
    by_cases hlogin : HasLogin config
    · rw [if_neg (by simp [hlogin.1, hlogin.2])]
      constructor
      · rintro ⟨t, h⟩
        obtain ⟨token, t₁, t₂, rfl, hrun, hauth⟩ := runs_bind_ok.1 h
        obtain rfl := Except.ok.inj hauth.2
        obtain ⟨hcan, text, rfl⟩ := login_runs.1 ⟨t₁, hrun⟩
        exact ⟨.login htoken hlogin text, fun _ => hcan⟩
      · rintro ⟨hauth, hcan⟩
        cases hauth with
        | apiToken h => exact absurd (h.symm.trans htoken) (Option.some_ne_none _)
        | login _ _ text =>
          obtain ⟨t, hrun⟩ := login_runs.2 ⟨hcan ⟨htoken, hlogin⟩, text, rfl⟩
          exact ⟨_, runs_bind_ok.2 ⟨_, t, [], rfl, hrun, rfl, rfl⟩⟩
    · rw [if_pos]
      · refine iff_of_false ?_ ?_
        · rintro ⟨t, h⟩
          cases h.2
        · rintro ⟨hauth, -⟩
          cases hauth with
          | apiToken h => exact absurd (h.symm.trans htoken) (Option.some_ne_none _)
          | login _ h _ => exact hlogin h
      · rw [← Bool.not_and, Bool.not_eq_true', ← Bool.not_eq_true, Bool.and_eq_true]
        exact hlogin

/-! ### The object of a call -/

/-- Where the parameters of a call name the object. -/
inductive IdPlace
  /-- a property -/
  | field (key : String)
  /-- a property with a list -/
  | listed (key : String)
  /-- the parameters are a list -/
  | whole

/-- The parameters name exactly this object. -/
def IdPlace.Names (id : Json) : IdPlace → Json → Prop
  | field key, params => params.get? key = some id
  | listed key, params => params.get? key = some (.arr [id])
  | whole, params => params = .arr [id]

theorem names_field {id params : Json} {key : String} :
    (IdPlace.field key).Names id params ↔ params.get? key = some id := Iff.rfl

theorem names_listed {id params : Json} {key : String} :
    (IdPlace.listed key).Names id params ↔ params.get? key = some (.arr [id]) := Iff.rfl

/-- The operations on one object. -/
def objectOperations : List (String × IdPlace) :=
  [("user.get", .listed "userids"), ("user.update", .field "userid"), ("user.delete", .whole),
    ("user.enable", .field "userid"), ("user.disable", .field "userid"),
    ("user.lock", .field "userid"), ("user.unlock", .field "userid"),
    ("user.changePassword", .field "userid"), ("user.addAttributes", .field "userid"),
    ("user.removeAttributes", .field "userid"), ("group.get", .listed "usrgrpids"),
    ("group.update", .field "usrgrpid"), ("group.delete", .whole)]

/-- The id that a payload gives, if it gives one. -/
def resolvedId (data params : Json) : Option Json :=
  match nullish (params.get? "id") (data.get? "id") with
  | some .null => none
  | id => id

/-- The call for the operation names the id. -/
def NamedBy (operation : String) (data id : Json) : Prop :=
  match operation with
  | "user.get" | "group.get" => id.truthy = true
  | "user.addAttributes" => ∀ own, Properties.copied data "userid" = some own → own = id
  | "user.removeAttributes" => ∀ own, Properties.copied data "userid" = some own → id = .str ""
  | _ => True

/-- A list that names the object has the id in it. -/
theorem onlyId_eq_some {id : Json} : onlyId (some id) = some (.arr [id]) ↔ id.truthy = true := by
  unfold onlyId
  cases hid : id.truthy with
  | true => rw [Option.filter_some_pos hid]; simp
  | false => rw [Option.filter_some_neg (by simpa using hid)]; simp

/-- What is called for an operation on one object. -/
theorem buildZabbixCall_object {place : IdPlace}
    (h : objectOperations.lookup operation = some place) :
    ∃ method zabbixParams, buildZabbixCall operation data params config = .ok ⟨method, zabbixParams⟩ ∧
      isMemberOperation operation = false ∧ method ≠ "apiinfo.version" ∧ method ≠ "user.login" ∧
      ∀ id, resolvedId data params = some id →
        (place.Names id zabbixParams ↔ NamedBy operation data id) := by
  have hid : ∀ id, resolvedId data params = some id →
      nullish (params.get? "id") (data.get? "id") = some id := by
    intro id hid
    unfold resolvedId at hid
    split at hid
    · cases hid
    · exact hid
  have hcopied : ∀ {own : Option Json} {id : Json},
      own.or (some id) = some id ↔ ∀ item, own = some item → item = id := by
    intro own id
    cases own <;> simp
  have hmem := OrderedMap.mem_of_lookup h
  simp only [objectOperations, List.mem_cons, Prod.mk.injEq, List.not_mem_nil, or_false] at hmem
  rcases hmem with ⟨rfl, rfl⟩ | ⟨rfl, rfl⟩ | ⟨rfl, rfl⟩ | ⟨rfl, rfl⟩ | ⟨rfl, rfl⟩ | ⟨rfl, rfl⟩ |
    ⟨rfl, rfl⟩ | ⟨rfl, rfl⟩ | ⟨rfl, rfl⟩ | ⟨rfl, rfl⟩ | ⟨rfl, rfl⟩ | ⟨rfl, rfl⟩ | ⟨rfl, rfl⟩
  all_goals refine ⟨_, _, rfl, by decide, by decide, by decide, fun id h => ?_⟩; replace h := hid id h
  -- `user.get`
  · rw [names_listed, Properties.get?_json, h]
    exact onlyId_eq_some
  -- `user.update`
  · rw [names_field, Properties.get?_spread_append, h]
    exact iff_of_true rfl trivial
  -- `user.delete`
  · rw [h]
    exact iff_of_true rfl trivial
  -- `user.enable`, `user.disable`, `user.lock`, `user.unlock`, `user.changePassword`
  iterate 5
    rw [names_field, Properties.get?_json, h]
    exact iff_of_true rfl trivial
  -- `user.addAttributes`
  · rw [names_field, Properties.get?_append_spread, h]
    exact hcopied
  -- `user.removeAttributes`
  · rw [names_field, Properties.get?_append_keys, h, hcopied]
    constructor
    · exact fun hall own hown => (hall (.str "") (by rw [hown]; rfl)).symm
    · intro hall item hitem
      obtain ⟨own, hown, rfl⟩ := Option.map_eq_some_iff.1 hitem
      exact (hall own hown).symm
  -- `group.get`
  · rw [names_listed, Properties.get?_json, h]
    exact onlyId_eq_some
  -- `group.update`
  · rw [names_field, Properties.get?_spread_append, h]
    exact iff_of_true rfl trivial
  -- `group.delete`
  · rw [h]
    exact iff_of_true rfl trivial

/-! ### An operation on one object -/

variable {payload : ConnectorPayload}

/-- The configuration of the payload. -/
def configOf (payload : ConnectorPayload) : Json := payload.config.getD .null

/-- The configuration lets the connector call the interface. -/
structure CanCall (js : Runtime) (config : Json) : Prop where
  baseUrl : isTruthy (config.get? "baseUrl") = true
  tls : CanPost js config
  credentials : isTruthy (config.get? "apiToken") = true ∨ HasLogin config

theorem exists_authenticates : (∃ auth, Authenticates config auth) ↔
    isTruthy (config.get? "apiToken") = true ∨ HasLogin config := by
  have htoken : isTruthy (config.get? "apiToken") = true ↔
      ∃ token, (config.get? "apiToken").filter Json.truthy = some token := by
    cases config.get? "apiToken" with
    | none => simp [isTruthy]
    | some token => simp [isTruthy, Option.filter]
  rw [htoken]
  constructor
  · rintro ⟨auth, hauth⟩
    cases hauth with
    | apiToken h => exact Or.inl ⟨_, h⟩
    | login _ h _ => exact Or.inr h
  · intro h
    cases hnone : (config.get? "apiToken").filter Json.truthy with
    | some token => exact ⟨_, .apiToken hnone⟩
    | none =>
      rcases h with ⟨token, htoken⟩ | hlogin
      · exact nomatch hnone.symm.trans htoken
      · exact ⟨_, .login hnone hlogin ""⟩

section Perform

variable {zabbixParams : Json} {place : IdPlace} {id : Json}
  (hmember : isMemberOperation operation = false)
  (hbuild : buildZabbixCall operation data params config = .ok ⟨method, zabbixParams⟩)
  (hmethod : method ≠ "apiinfo.version")
include hmember hbuild hmethod

theorem perform_eq : perform js operation config data params =
    some <$> resolveAuth js config >>= fun auth =>
      call js config method zabbixParams auth >>= fun response =>
        Pure.pure ⟨true, response, none⟩ := by
  unfold perform
  rw [hmember, hbuild, if_neg Bool.false_ne_true]
  show (if method = "apiinfo.version" then _ else _) = _
  rw [if_neg hmethod]

/-- What is posted for an operation other than those on members. -/
theorem perform_issues {Q : Json → Prop} :
    (perform js operation config data params).Issues (OnPost Q) ↔
      (CanPost js config → (LogsIn config → Q (loginBody config)) ∧
        ∀ auth, Authenticates config auth → Q (body method zabbixParams (some auth))) := by
  rw [perform_eq hmember hbuild hmethod, issues_bind_iff, issues_map, resolveAuth_issues]
  have hcall : ∀ auth, (call js config method zabbixParams auth >>= fun response =>
      (Pure.pure ⟨true, response, none⟩ : ZabbixProg ConnectorResult)).Issues (OnPost Q) ↔
        (CanPost js config → Q (body method zabbixParams auth)) := by
    intro auth
    rw [issues_bind_iff, call_issues]
    exact and_iff_left fun _ _ _ => issues_pure
  constructor
  · rintro ⟨hlogin, hcalls⟩ hcan
    refine ⟨hlogin hcan, fun auth hauth => ?_⟩
    obtain ⟨t, hrun⟩ := resolveAuth_runs.2 ⟨hauth, fun _ => hcan⟩
    exact (hcall _).1 (hcalls t (some auth) (runs_map_ok.2 ⟨auth, rfl, hrun⟩)) hcan
  · intro h
    refine ⟨fun hcan => (h hcan).1, fun t auth hrun => (hcall _).2 fun hcan => ?_⟩
    obtain ⟨token, rfl, hauth⟩ := runs_map_ok.1 hrun
    exact (h hcan).2 token (resolveAuth_runs.1 ⟨t, hauth⟩).1

/-- Where the operation succeeds, its call has been posted. -/
theorem mem_posted_of_perform {t : List (Event ZabbixAns)} {result : ConnectorResult}
    (h : (perform js operation config data params).Runs t (.ok result)) :
    CanPost js config ∧ ∃ auth, Authenticates config auth ∧
      body method zabbixParams (some auth) ∈ posted t := by
  rw [perform_eq hmember hbuild hmethod] at h
  obtain ⟨auth, t₁, t₂, rfl, hauth, hrest⟩ := runs_bind_ok.1 h
  obtain ⟨token, rfl, htoken⟩ := runs_map_ok.1 hauth
  obtain ⟨response, t₃, t₄, rfl, hcall, -⟩ := runs_bind_ok.1 hrest
  refine ⟨(call_runs.1 ⟨t₃, hcall⟩).1, token, (resolveAuth_runs.1 ⟨t₁, htoken⟩).1, ?_⟩
  have hposted := mem_posted_of_call hcall
  unfold posted at hposted ⊢
  rw [exchanges_append, exchanges_append, List.map_append, List.map_append]
  exact List.mem_append_right _ (List.mem_append_left _ hposted)

end Perform

theorem body_method : (body method params auth).get? "method" = some (.str method) := by
  unfold body
  rw [Properties.get?_json]
  cases auth with
  | none => rfl
  | some auth =>
    obtain ⟨token, mode⟩ := auth
    cases mode <;> rfl

theorem body_params : (body method params auth).get? "params" = some params := by
  unfold body
  rw [Properties.get?_json]
  cases auth with
  | none => rfl
  | some auth =>
    obtain ⟨token, mode⟩ := auth
    cases mode <;> rfl

theorem execute_issues {Q : Json → Prop} : (execute js payload).Issues (OnPost Q) ↔
    (isTruthy ((configOf payload).get? "baseUrl") = true →
      (perform js payload.operation (configOf payload) payload.data payload.params).Issues
        (OnPost Q)) := by
  unfold execute
  by_cases hurl : isTruthy ((configOf payload).get? "baseUrl") = true
  · rw [if_neg (by simpa [configOf] using hurl), issues_tryCatch_pure]
    exact ⟨fun h _ => h, fun h => h hurl⟩
  · rw [if_pos (by simpa [configOf] using hurl)]
    exact iff_of_true issues_pure fun h => absurd h hurl

/-- A successful run is one of the operation. -/
theorem execute_success {t : List (Event ZabbixAns)} {result : ConnectorResult}
    (hsuccess : result.success = true) : (execute js payload).Runs t (.ok result) ↔
      isTruthy ((configOf payload).get? "baseUrl") = true ∧
        (perform js payload.operation (configOf payload) payload.data payload.params).Runs t
          (.ok result) := by
  unfold execute
  by_cases hurl : isTruthy ((configOf payload).get? "baseUrl") = true
  · rw [if_neg (by simpa [configOf] using hurl)]
    constructor
    · intro h
      rcases runs_tryCatch.1 h with ⟨a, ha, hrun⟩ | ⟨e, t₁, t₂, rfl, -, -, hresult⟩
      · obtain rfl := Except.ok.inj ha
        exact ⟨hurl, hrun⟩
      · obtain rfl := Except.ok.inj hresult
        cases hsuccess
    · rintro ⟨-, hrun⟩
      exact runs_tryCatch.2 (Or.inl ⟨result, rfl, hrun⟩)
  · rw [if_pos (by simpa [configOf] using hurl)]
    refine iff_of_false ?_ fun h => hurl h.1
    rintro ⟨-, hresult⟩
    obtain rfl := Except.ok.inj hresult
    cases hsuccess

/-- A body names the object, or logs in. -/
def NamesOnly (place : IdPlace) (id body : Json) : Prop :=
  body.get? "method" = some (.str "user.login") ∨
    ∃ params, body.get? "params" = some params ∧ place.Names id params

/-- Every call for an operation on one object names the object that the payload names, and where it
succeeds there is one; without an id nothing is posted. -/
def HitsResolved (js : Runtime) (payload : ConnectorPayload) : Prop :=
  ∀ place, objectOperations.lookup payload.operation = some place →
    match resolvedId payload.data payload.params with
    | some id => (execute js payload).Issues (OnPost (NamesOnly place id)) ∧
        ∀ t result, (execute js payload).Runs t (.ok result) → result.success = true →
          ∃ body ∈ posted t, ∃ params, body.get? "params" = some params ∧ place.Names id params
    | none => (execute js payload).Issues (OnPost fun _ => False)

/-- The payload gives an id, and the call names it. -/
def Addressed (payload : ConnectorPayload) : Prop :=
  ∃ id, resolvedId payload.data payload.params = some id ∧ NamedBy payload.operation payload.data id

/-- The calls for an operation on one object name the object that the payload names exactly if the
payload gives an id, which does not count as false where the object is read, and the attributes that
are added or removed have no other user id. Without that, they do where nothing can be called. -/
theorem hitsResolved_iff (js : Runtime) (payload : ConnectorPayload) :
    HitsResolved js payload ↔
      ((objectOperations.lookup payload.operation).isSome = true → CanCall js (configOf payload) →
        Addressed payload) := by
  cases hplace : objectOperations.lookup payload.operation with
  | none =>
    exact iff_of_true (fun _ h => absurd (h.symm.trans hplace) (Option.some_ne_none _))
      fun h => absurd h Bool.false_ne_true
  | some place =>
    obtain ⟨method, zabbixParams, hbuild, hmember, hmethod, hlogin, hnames⟩ :=
      @buildZabbixCall_object (configOf payload) payload.data payload.params payload.operation place
        hplace
    have hissues : ∀ Q : Json → Prop, (execute js payload).Issues (OnPost Q) ↔
        (isTruthy ((configOf payload).get? "baseUrl") = true → CanPost js (configOf payload) →
          (LogsIn (configOf payload) → Q (loginBody (configOf payload))) ∧
            ∀ auth, Authenticates (configOf payload) auth →
              Q (body method zabbixParams (some auth))) :=
      fun Q => execute_issues.trans (imp_congr_right fun _ =>
        perform_issues hmember hbuild hmethod)
    constructor
    · rintro h - ⟨hurl, htls, hcredentials⟩
      obtain ⟨auth, hauth⟩ := exists_authenticates.2 hcredentials
      have h := h place hplace
      split at h
      · next id hid =>
        refine ⟨id, hid, (hnames id hid).1 ?_⟩
        rcases ((hissues _).1 h.1 hurl htls).2 auth hauth with hname | ⟨params, hparams, hname⟩
        · rw [body_method] at hname
          exact absurd (Json.str.inj (Option.some.inj hname)) hlogin
        · rw [body_params] at hparams
          obtain rfl := Option.some.inj hparams
          exact hname
      · exact (((hissues _).1 h hurl htls).2 auth hauth).elim
    · intro h place' hplace'
      obtain rfl := Option.some.inj (hplace.symm.trans hplace')
      -- nothing is posted where nothing can be called
      have hcall : ∀ auth, isTruthy ((configOf payload).get? "baseUrl") = true →
          CanPost js (configOf payload) → Authenticates (configOf payload) auth →
            Addressed payload :=
        fun auth hurl htls hauth => h rfl ⟨hurl, htls, exists_authenticates.1 ⟨auth, hauth⟩⟩
      split
      · next id hid =>
        have hnamed : ∀ {id'}, resolvedId payload.data payload.params = some id' →
            NamedBy payload.operation payload.data id' → place.Names id zabbixParams := by
          intro id' hid' hnamed
          obtain rfl := Option.some.inj (hid.symm.trans hid')
          exact (hnames id hid).2 hnamed
        refine ⟨(hissues _).2 fun hurl htls => ⟨fun _ => Or.inl body_method, fun auth hauth => ?_⟩,
          fun t result hrun hsuccess => ?_⟩
        · obtain ⟨id', hid', h⟩ := hcall auth hurl htls hauth
          exact Or.inr ⟨zabbixParams, body_params, hnamed hid' h⟩
        · obtain ⟨hurl, hperform⟩ := (execute_success hsuccess).1 hrun
          obtain ⟨htls, auth, hauth, hposted⟩ :=
            mem_posted_of_perform hmember hbuild hmethod hperform
          obtain ⟨id', hid', h⟩ := hcall auth hurl htls hauth
          exact ⟨_, hposted, zabbixParams, body_params, hnamed hid' h⟩
      · next hid =>
        refine (hissues _).2 fun hurl htls => ⟨fun hlogs => ?_, fun auth hauth => ?_⟩
        · obtain ⟨id', hid', -⟩ := hcall _ hurl htls (.login hlogs.1 hlogs.2 "")
          exact absurd (hid'.symm.trans hid) (Option.some_ne_none _)
        · obtain ⟨id', hid', -⟩ := hcall auth hurl htls hauth
          exact absurd (hid'.symm.trans hid) (Option.some_ne_none _)

/-- Attributes of one user, with the id of another among them. -/
def foreignAttributes : ConnectorPayload where
  operation := "user.addAttributes"
  targetSystem := "zabbix"
  payload := .obj [
    ("config", .obj [("baseUrl", .str "https://zabbix"), ("apiToken", .str "token")]),
    ("params", .obj [("id", .str "1")]),
    ("data", .obj [("userid", .str "2"), ("name", .str "Ann")])]

/-- The attributes go to the other user. -/
theorem not_hitsResolved_foreignAttributes : ¬ HitsResolved Runtime.ascii foreignAttributes := by
  intro h
  obtain ⟨h, -⟩ := h (.field "userid") rfl
  rcases h.1 with hlogin | ⟨params, hparams, hname⟩
  · rw [body_method] at hlogin
    exact absurd (Json.str.inj (Option.some.inj hlogin)) (by decide)
  · rw [body_params] at hparams
    obtain rfl := Option.some.inj hparams
    rw [names_field, Properties.get?_append_spread] at hname
    exact absurd (Json.str.inj (Option.some.inj hname)) (by decide)

end ZabbixConnectorService

end IdmMw
