import IdmMw.Model.CmdbuildConnector

/-!
# The groups of a new user in CMDBuild

What is posted for a new user, in every run of the operation.

* `Resolution`: the groups that references stand for, by the roles of the server;
* `IsUserGroups`: the groups of a body: those that are given, those of the payload, or that of the
  configuration;
* `Unresolved`: a name that is needed is the name of no role;
* `call_issues`, `call_runs_ok`: the requests of a call, and the last one;
* `applyCmdbuildUserGroups_runs`: the body; `creates_mapped`: it is what is posted.
-/

namespace IdmMw

open Async

namespace CmdbuildConnectorService

variable {js : Runtime} {texts : CmdbuildTexts} {config data : Json} {rows : List Json}
  {t t' : List (Event CmdbuildAns)}

/-! ### Roles and references -/

/-- The last row with the name has the id. -/
def IsRole (rows : List Json) (name : String) (group : GroupValue) : Prop :=
  ∃ row, rows.reverse.find? (fun row => row.getStr? "name" = some name) = some row ∧
    row.get? "_id" = some (GroupValue.json group) ∧ group ≠ .str ""

/-- The groups that the values refer to: their ids, or the ids of the roles with their names. -/
def Resolution (js : Runtime) (rows : List Json) (mode : CmdbuildGroupMode) (values : List Json)
    (groups : List GroupValue) : Prop :=
  ∃ refs, groupRefValues (some (.arr values)) mode.mapping "groups" = .ok refs ∧
    match mode with
    | .id => groups = refs
    | .name => List.Forall₂ (IsRole rows) (refs.map (GroupValue.text js)).eraseDups groups

/-- One of the names is the name of no role. -/
def UnresolvedName (js : Runtime) (rows : List Json) (mode : CmdbuildGroupMode)
    (values : List Json) : Prop :=
  mode = .name ∧ ∃ refs, groupRefValues (some (.arr values)) mode.mapping "groups" = .ok refs ∧
    ∃ ref ∈ refs, ∀ group, ¬ IsRole rows (ref.text js) group

/-- The references of the payload, where they are mapped. -/
def Incoming (config data : Json) (mode : CmdbuildGroupMode) (values : List Json) : Prop :=
  TargetSystemService.booleanConfig (config.get? "incomingGroupsEnabled") = true ∧
    groupMode (config.get? "incomingGroupsMode") "incomingGroupsMode" = .ok mode ∧
    data.get? "groups" = some (.arr values)

/-- The reference of the configuration, where it is mapped. The legacy id stands for a value that the
modern settings lack, and for itself where there are none. -/
def DefaultGroup (config : Json) (mode : CmdbuildGroupMode) (value : Json) : Prop :=
  if hasModernDefault config then
    TargetSystemService.booleanConfig (config.get? "defaultUserGroupEnabled") = true ∧
      groupMode (config.get? "defaultUserGroupMode") "defaultUserGroupMode" = .ok mode ∧
      (config.get? "defaultUserGroupValue").or (config.get? "defaultUserGroupId") = some value
  else mode = .id ∧ config.get? "defaultUserGroupId" = some value

/-- No group comes from the payload. -/
def NoIncoming (js : Runtime) (config data : Json) (rows : List Json) : Prop :=
  ∀ mode values, Incoming config data mode values → Resolution js rows mode values []

/-- The groups of the body for the data. -/
def IsUserGroups (js : Runtime) (config data : Json) (rows : List Json) (userGroups : Option Json) :
    Prop :=
  match data.get? "userGroups" with
  | some given => userGroups = some given
  | none =>
    (∃ mode values groups, Incoming config data mode values ∧
      Resolution js rows mode values groups ∧ groups ≠ [] ∧
      userGroups = some (groupEntries groups)) ∨
    (NoIncoming js config data rows ∧
      ((∃ mode value groups, DefaultGroup config mode value ∧
        Resolution js rows mode [value] groups ∧ userGroups = some (groupEntries groups)) ∨
      ((∀ mode value, ¬ DefaultGroup config mode value) ∧ userGroups = none)))

/-- A name that the groups of the body need is the name of no role. -/
def Unresolved (js : Runtime) (config data : Json) (rows : List Json) : Prop :=
  data.get? "userGroups" = none ∧
    ((∃ mode values, Incoming config data mode values ∧ UnresolvedName js rows mode values) ∨
    (NoIncoming js config data rows ∧
      ∃ mode value, DefaultGroup config mode value ∧ UnresolvedName js rows mode [value]))

/-- All properties of the data but the two for groups, and besides them only what a new user with
groups needs. -/
def Keeps (data : Json) (fields : Settings) : Prop :=
  (∀ key item, key ≠ "groups" → key ≠ "userGroups" → (fieldsOf data).lookup key = some item →
    fields.lookup key = some item) ∧
  ∀ key item, key ≠ "userGroups" → fields.lookup key = some item →
    (fieldsOf data).lookup key = some item ∨
      (key, item) ∈ [("active", .bool true), ("service", .bool false), ("language", .str "en")]

/-! ### What a run shows -/

/-- The body of a request `POST /users`. -/
def postedUser (js : Runtime) (config : Json) (e : Event CmdbuildAns) : Option (Option Json) :=
  match e.req with
  | .request "POST" url body _ _ => if url = apiUrl js config "/users" then some body else none
  | _ => none

def postedUsers (js : Runtime) (config : Json) (t : List (Event CmdbuildAns)) :
    List (Option Json) :=
  t.filterMap (postedUser js config)

def rolesUrl (js : Runtime) (config : Json) : String :=
  apiUrl js config (appendQuery js "/roles" [("limit", some (.num 500))])

/-- The rows of an answer to the request for the roles. -/
def answeredRoles (js : Runtime) (config : Json) : Event CmdbuildAns → Option (List Json)
  | ⟨.request "GET" url _ _ _, .ok response⟩ =>
    if url = rolesUrl js config then (rowsOf response).toOption else none
  | _ => none

/-- The roles that the server returned. -/
def rolesIn (js : Runtime) (config : Json) (t : List (Event CmdbuildAns)) : List Json :=
  (t.filterMap (answeredRoles js config)).getLastD []

/-- What is posted for a new user has no `groups`, the groups that it should have, and the other data;
where a name is not resolved nothing is posted. -/
def CreatesMapped (js : Runtime) (texts : CmdbuildTexts) (payload : ConnectorPayload) : Prop :=
  ∀ t x, (execute js texts payload).Runs t x →
    (∀ body ∈ postedUsers js (payload.config.getD .null) t, ∃ fields, body = some (.obj fields) ∧
      fields.lookup "groups" = none ∧
      IsUserGroups js (payload.config.getD .null) payload.data
        (rolesIn js (payload.config.getD .null) t) (fields.lookup "userGroups") ∧
      Keeps payload.data fields) ∧
    (Unresolved js (payload.config.getD .null) payload.data
      (rolesIn js (payload.config.getD .null) t) →
      postedUsers js (payload.config.getD .null) t = [])

/-! ### The requests of a call -/

/-- A request for a session or for keys. -/
def Preparing (js : Runtime) (config : Json) : CmdbuildReq → Prop
  | .request method url _ _ _ =>
    method = "POST" ∧ url = apiUrl js config "/sessions?scope=service&returnId=true"
  | _ => True

/-- The request of a call. -/
def IsCall (js : Runtime) (config : Json) (method path : String) (body : Option Json) :
    CmdbuildReq → Prop
  | .request method' url body' _ _ =>
    method' = method ∧ url = apiUrl js config path ∧ body' = body
  | _ => False

/-- What a call asks for. -/
def Calling (js : Runtime) (config : Json) (method path : String) (body : Option Json)
    (r : CmdbuildReq) : Prop :=
  Preparing js config r ∨ IsCall js config method path body r

section Calls

variable {method path : String} {body : Option Json}

theorem issues_checked {α : Type} {P : CmdbuildReq → Prop} {x : Except JsError α} :
    (checked x).Issues P := issues_ofExcept

theorem safeErrorMessage_issues {failure : CmdbuildFailure} :
    (safeErrorMessage texts failure config).Issues (Preparing js config) :=
  ⟨trivial, fun _ => issues_pure⟩

theorem axiosConfig_issues : (axiosConfig js config).Issues (Preparing js config) := by
  unfold axiosConfig
  split
  · exact issues_pure
  · refine issues_checked.bind fun _ => ?_
    exact Issues.bind ⟨trivial, fun _ => issues_settle⟩ fun _ => issues_pure

theorem getSessionId_issues : (getSessionId js texts config).Issues (Preparing js config) := by
  unfold getSessionId
  refine issues_checked.bind fun key => Issues.bind ⟨trivial, fun _ => issues_pure⟩ fun cached => ?_
  cases cached with
  | some sessionId => exact issues_pure
  | none =>
    refine Issues.tryCatch ?_ fun failure => safeErrorMessage_issues.bind fun _ => issues_throw
    unfold openSession
    refine axiosConfig_issues.bind fun agent =>
      Issues.bind ⟨⟨rfl, rfl⟩, fun _ => issues_settle⟩ fun data => ?_
    cases extractSessionId data with
    | none => exact issues_throw
    | some sessionId => exact Issues.bind ⟨trivial, fun _ => issues_pure⟩ fun _ => issues_pure

theorem getAuthHeaders_issues {authMode : CmdbuildAuthMode} :
    (getAuthHeaders js texts config authMode).Issues (Preparing js config) := by
  cases authMode with
  | basic => exact issues_pure
  | session => exact getSessionId_issues.bind fun _ => issues_pure

theorem send_issues {authMode : CmdbuildAuthMode} :
    (send js texts config authMode method path body).Issues
      (Calling js config method path body) := by
  unfold send
  refine issues_checked.bind fun _ => ?_
  refine (getAuthHeaders_issues.mono fun _ => Or.inl).bind fun authHeader => ?_
  refine (axiosConfig_issues.mono fun _ => Or.inl).bind fun agent => ?_
  exact ⟨Or.inr ⟨rfl, rfl, rfl⟩, fun _ => issues_settle⟩

theorem call_issues : (call js texts config method path body).Issues
    (Calling js config method path body) := by
  unfold call
  refine issues_checked.bind fun authMode => send_issues.tryCatch fun failure => ?_
  split
  · refine issues_checked.bind fun key =>
      Issues.bind ⟨Or.inl trivial, fun _ => issues_pure⟩ fun _ => send_issues
  · exact issues_throw

/-- The data that a call results in are those of its last answer. -/
def EndsWith (js : Runtime) (config : Json) (method path : String) (body : Option Json)
    (t : List (Event CmdbuildAns)) (data : Json) : Prop :=
  ∃ before headers agent, t = before ++
    [⟨.request method (apiUrl js config path) body headers agent, .ok data⟩]

theorem EndsWith.append (before : List (Event CmdbuildAns))
    (h : EndsWith js config method path body t data) :
    EndsWith js config method path body (before ++ t) data := by
  obtain ⟨before', headers, agent, rfl⟩ := h
  exact ⟨before ++ before', headers, agent, (List.append_assoc _ _ _).symm⟩

theorem send_runs_ok {authMode : CmdbuildAuthMode}
    (h : (send js texts config authMode method path body).Runs t (.ok data)) :
    EndsWith js config method path body t data := by
  obtain ⟨_, t₁, _, rfl, -, h⟩ := runs_bind_ok.1 h
  obtain ⟨authHeader, t₂, _, rfl, -, h⟩ := runs_bind_ok.1 h
  obtain ⟨agent, t₃, _, rfl, -, h⟩ := runs_bind_ok.1 h
  obtain ⟨answer, rfl, rfl⟩ := runs_request.1 h
  exact EndsWith.append t₁ (EndsWith.append t₂ ⟨t₃, _, _, rfl⟩)

theorem call_runs_ok (h : (call js texts config method path body).Runs t (.ok data)) :
    EndsWith js config method path body t data := by
  obtain ⟨authMode, t₁, _, rfl, -, h⟩ := runs_bind_ok.1 h
  refine EndsWith.append t₁ ?_
  rcases runs_tryCatch.1 h with ⟨_, hdata, h⟩ | ⟨failure, t₂, _, rfl, -, h⟩
  · obtain rfl := Except.ok.inj hdata
    exact send_runs_ok h
  · refine EndsWith.append t₂ ?_
    split at h
    · obtain ⟨key, t₃, _, rfl, -, h⟩ := runs_bind_ok.1 h
      obtain ⟨_, t₄, _, rfl, -, h⟩ := runs_bind_ok.1 h
      exact EndsWith.append t₃ (EndsWith.append t₄ (send_runs_ok h))
    · obtain ⟨-, h⟩ := h
      cases h

end Calls

/-! ### The roles that names stand for -/

theorem runs_checked_ok {α : Type} {x : Except JsError α} {a : α} :
    (checked x).Runs t (.ok a) ↔ t = [] ∧ x = .ok a := by
  cases x with
  | error e =>
    constructor
    · rintro ⟨-, h⟩
      cases h
    · rintro ⟨-, h⟩
      cases h
  | ok b =>
    constructor
    · rintro ⟨rfl, h⟩
      exact ⟨rfl, congrArg Except.ok (Except.ok.inj h).symm⟩
    · rintro ⟨rfl, h⟩
      exact ⟨rfl, congrArg Except.ok (Except.ok.inj h).symm⟩

theorem rolesIn_append (h : ∀ e ∈ t', answeredRoles js config e = none) :
    rolesIn js config (t ++ t') = rolesIn js config t := by
  unfold rolesIn
  rw [List.filterMap_append, List.filterMap_eq_nil_iff.2 h, List.append_nil]

theorem rolesIn_of_endsWith {response : Json}
    (h : EndsWith js config "GET" (appendQuery js "/roles" [("limit", some (.num 500))]) none t
      response) (hrows : rowsOf response = .ok rows) : rolesIn js config t = rows := by
  obtain ⟨before, headers, agent, rfl⟩ := h
  have hanswer : answeredRoles js config ⟨.request "GET" (rolesUrl js config) none headers agent,
      .ok response⟩ = some rows := by
    show (if rolesUrl js config = rolesUrl js config then _ else _) = _
    rw [if_pos rfl, hrows]
    rfl
  show (List.filterMap (answeredRoles js config) (before ++
    [⟨.request "GET" (rolesUrl js config) none headers agent, .ok response⟩])).getLastD [] = rows
  rw [List.filterMap_append, List.filterMap_cons_some hanswer, List.filterMap_nil,
    List.getLastD_concat]

theorem byName_obj (m fields : Settings) :
    byName m (.obj fields :: rows) = match (Json.obj fields).get? "name" with
      | some (.str name) => byName (OrderedMap.set m name (.obj fields)) rows
      | _ => byName m rows := rfl

theorem byName_cons {m : Settings} {row : Json} (h : row ≠ .null) :
    byName m (row :: rows) =
      match row.getStr? "name" with
      | some name => byName (OrderedMap.set m name row) rows
      | none => byName m rows := by
  cases row with
  | null => exact absurd rfl h
  | obj fields =>
    rw [byName_obj]
    unfold Json.getStr?
    rcases (Json.obj fields).get? "name" with _ | (_ | _ | _ | _ | _ | _) <;> rfl
  | _ => rfl

/-- The map has the last row with a name, or what it had. -/
theorem lookup_byName {m m' : Settings} (name : String) (h : byName m rows = .ok m') :
    m'.lookup name =
      (rows.reverse.find? fun row => row.getStr? "name" = some name).or (m.lookup name) := by
  induction rows generalizing m with
  | nil =>
    obtain rfl := Except.ok.inj h
    rfl
  | cons row rows ih =>
    have hrow : row ≠ .null := by
      rintro rfl
      cases h
    rw [byName_cons hrow] at h
    rw [List.reverse_cons, List.find?_append, Option.or_assoc, List.find?_singleton]
    cases hname : row.getStr? "name" with
    | none =>
      rw [hname] at h
      rw [ih h, if_neg (by simp), Option.none_or]
    | some name' =>
      rw [hname] at h
      rw [ih h, OrderedMap.lookup_set]
      by_cases heq : name = name'
      · subst heq
        rw [if_pos rfl, if_pos (by simp), Option.some_or]
      · rw [if_neg heq, if_neg (by simpa using Ne.symm heq), Option.none_or]

theorem isRole_of_roleId {m : Settings} {name : String} {group : GroupValue}
    (hm : byName [] rows = .ok m) (h : roleId m name = .ok group) : IsRole rows name group := by
  have hlookup := lookup_byName name hm
  rw [List.lookup_nil, Option.or_none] at hlookup
  unfold roleId at h
  rw [hlookup] at h
  unfold IsRole
  cases hrow : rows.reverse.find? (fun row => row.getStr? "name" = some name) with
  | none =>
    rw [hrow] at h
    cases h
  | some row =>
    rw [hrow, Option.bind_some] at h
    refine ⟨row, rfl, ?_⟩
    split at h
    · next id hid =>
      split at h
      · cases h
      · next hne =>
        obtain rfl := Except.ok.inj h
        exact ⟨hid, fun heq => hne (GroupValue.str.inj heq)⟩
    · next id hid =>
      obtain rfl := Except.ok.inj h
      exact ⟨hid, nofun⟩
    · cases h

/-- The names are resolved by the roles of the server, which is not asked where there are none. -/
theorem resolveRoleNames_runs {names : List String} {groups : List GroupValue}
    (h : (resolveRoleNames js texts config names).Runs t (.ok groups)) :
    List.Forall₂ (IsRole (rolesIn js config t)) names.eraseDups groups ∧ (groups = [] → t = []) := by
  unfold resolveRoleNames at h
  split at h
  · next hnil =>
    obtain ⟨rfl, hgroups⟩ := h
    obtain rfl := Except.ok.inj hgroups
    subst hnil
    exact ⟨.nil, fun _ => rfl⟩
  · next hne =>
    obtain ⟨response, t₁, _, rfl, hcall, hrest⟩ := runs_bind_ok.1 h
    obtain ⟨rows, _, _, rfl, hrows, hrest'⟩ := runs_bind_ok.1 hrest
    obtain ⟨m, _, _, rfl, hm, hgroups⟩ := runs_bind_ok.1 hrest'
    obtain ⟨rfl, hrowsOf⟩ := runs_checked_ok.1 hrows
    obtain ⟨rfl, hbyName⟩ := runs_checked_ok.1 hm
    obtain ⟨rfl, hmapM⟩ := runs_checked_ok.1 hgroups
    simp only [List.append_nil]
    have hroles := forall₂_of_mapM hmapM
    refine ⟨?_, ?_⟩
    · rw [rolesIn_of_endsWith (call_runs_ok hcall) hrowsOf]
      exact hroles.imp fun _ _ hrole => isRole_of_roleId hbyName hrole
    · rintro rfl
      have hnames : names.eraseDups = [] := List.forall₂_nil_right_iff.1 hroles
      obtain ⟨name, names', rfl⟩ := List.exists_cons_of_ne_nil hne
      rw [List.eraseDups_cons] at hnames
      cases hnames

theorem toCmdbuildUserGroups_runs {mode : CmdbuildGroupMode} {values : List Json}
    {groups : List GroupValue}
    (h : (toCmdbuildUserGroups js texts config mode values).Runs t (.ok groups)) :
    Resolution js (rolesIn js config t) mode values groups ∧ (groups = [] → t = []) := by
  obtain ⟨refs, _, _, rfl, hchecked, hrun⟩ := runs_bind_ok.1 h
  obtain ⟨rfl, hrefs⟩ := runs_checked_ok.1 hchecked
  rw [List.nil_append]
  cases mode with
  | id =>
    obtain ⟨rfl, hgroups⟩ := hrun
    exact ⟨⟨refs, hrefs, Except.ok.inj hgroups⟩, fun _ => rfl⟩
  | name =>
    obtain ⟨hroles, hnil⟩ := resolveRoleNames_runs hrun
    exact ⟨⟨refs, hrefs, hroles⟩, hnil⟩

/-- That there are no groups does not depend on the roles. -/
theorem Resolution.nil {mode : CmdbuildGroupMode} {values : List Json}
    (h : Resolution js rows mode values []) (rows' : List Json) :
    Resolution js rows' mode values [] := by
  obtain ⟨refs, hrefs, h⟩ := h
  refine ⟨refs, hrefs, ?_⟩
  cases mode with
  | id => exact h
  | name =>
    show List.Forall₂ _ _ _
    rw [List.forall₂_nil_right_iff.1 h]
    exact .nil

/-! ### The body -/

theorem incoming_iff {settings : CmdbuildGroupSettings} {mode : CmdbuildGroupMode}
    {values : List Json} (h : incomingGroupSettings config = .ok settings) :
    Incoming config data mode values ↔
      incomingValues settings data = some values ∧ mode = settings.mode := by
  obtain ⟨mode', hmode, hsettings⟩ := bind_eq_ok.1 h
  obtain rfl := Except.ok.inj hsettings
  unfold Incoming incomingValues
  rw [hmode]
  constructor
  · rintro ⟨henabled, hmode, hvalues⟩
    rw [hvalues]
    exact ⟨if_pos henabled, (Except.ok.inj hmode).symm⟩
  · rintro ⟨hvalues, rfl⟩
    split at hvalues
    · next values' hgroups =>
      split at hvalues
      · next henabled =>
        obtain rfl := Option.some.inj hvalues
        exact ⟨henabled, rfl, hgroups⟩
      · cases hvalues
    · cases hvalues

theorem defaultGroup_iff {settings : CmdbuildGroupSettings} {mode : CmdbuildGroupMode}
    {value : Json} (h : defaultGroupSettings config = .ok settings) :
    DefaultGroup config mode value ↔
      settings.enabled = true ∧ mode = settings.mode ∧ settings.values = [value] := by
  unfold defaultGroupSettings at h
  unfold DefaultGroup
  split at h
  · next hmodern =>
    obtain ⟨mode', hmode, hsettings⟩ := bind_eq_ok.1 h
    obtain rfl := Except.ok.inj hsettings
    rw [if_pos hmodern, hmode]
    refine and_congr_right fun _ => and_congr ⟨fun heq => (Except.ok.inj heq).symm, ?_⟩ ?_
    · rintro rfl
      rfl
    · cases (config.get? "defaultUserGroupValue").or (config.get? "defaultUserGroupId") <;> simp
  · next hmodern =>
    obtain rfl := Except.ok.inj h
    have hnone : config.get? "defaultUserGroupValue" = none := by
      unfold hasModernDefault at hmodern
      simp only [Bool.or_eq_true, not_or, Bool.not_eq_true, Option.isSome_eq_false_iff,
        Option.isNone_iff_eq_none] at hmodern
      exact hmodern.2
    rw [if_neg hmodern, hnone, Option.none_or]
    cases config.get? "defaultUserGroupId" <;> simp

/-- At most one value comes from the configuration. -/
theorem values_of_defaultGroupSettings {settings : CmdbuildGroupSettings}
    (h : defaultGroupSettings config = .ok settings) (hne : settings.values ≠ []) :
    ∃ value, settings.values = [value] := by
  have hvalues : settings.values =
      ((config.get? "defaultUserGroupValue").or (config.get? "defaultUserGroupId")).toList := by
    unfold defaultGroupSettings at h
    split at h
    · obtain ⟨mode, -, hsettings⟩ := bind_eq_ok.1 h
      obtain rfl := Except.ok.inj hsettings
      rfl
    · obtain rfl := Except.ok.inj h
      rfl
  rw [hvalues] at hne ⊢
  cases hvalue : (config.get? "defaultUserGroupValue").or (config.get? "defaultUserGroupId") with
  | none =>
    rw [hvalue] at hne
    exact absurd rfl hne
  | some value => exact ⟨value, rfl⟩

theorem lookup_fieldsOf {key : String} (hkey : 'u' ∈ key.toList) :
    (fieldsOf data).lookup key = data.get? key :=
  RestConnectorService.lookup_entries hkey (by decide) data

theorem lookup_withoutGenericGroups {key : String} (hkey : key ≠ "groups") :
    (withoutGenericGroups data).lookup key = (fieldsOf data).lookup key :=
  OrderedMap.lookup_filter_key (fun key => decide (key ≠ "groups")) (decide_eq_true hkey) _

theorem lookup_groups : (withoutGenericGroups data).lookup "groups" = none :=
  OrderedMap.lookup_filter_key_eq_none (fun key => decide (key ≠ "groups")) (by decide) _

theorem keeps_withoutGenericGroups : Keeps data (withoutGenericGroups data) := by
  refine ⟨fun key item hgroups _ h => (lookup_withoutGenericGroups hgroups).trans h, ?_⟩
  intro key item _ h
  by_cases hgroups : key = "groups"
  · subst hgroups
    rw [lookup_groups] at h
    cases h
  · exact Or.inl ((lookup_withoutGenericGroups hgroups).symm.trans h)

section WithUserGroups

variable {groups : List GroupValue}

theorem lookup_withUserGroups {key : String} (hkey : key ≠ "userGroups") :
    (withUserGroups data groups).lookup key = ((withoutGenericGroups data).lookup key).or
      (List.lookup key [("active", .bool true), ("service", .bool false),
        ("language", .str "en")]) := by
  unfold withUserGroups
  rw [OrderedMap.lookup_assign, OrderedMap.lookup_assign,
    OrderedMap.lookup_cons_of_ne hkey.symm, List.lookup_nil, Option.none_or]

theorem userGroups_withUserGroups :
    (withUserGroups data groups).lookup "userGroups" = some (groupEntries groups) := by
  unfold withUserGroups
  rw [OrderedMap.lookup_assign, OrderedMap.lookup_cons_self, Option.some_or]

theorem groups_withUserGroups : (withUserGroups data groups).lookup "groups" = none := by
  rw [lookup_withUserGroups (by decide), lookup_groups]
  rfl

theorem keeps_withUserGroups : Keeps data (withUserGroups data groups) := by
  constructor
  · intro key item hgroups huserGroups h
    rw [lookup_withUserGroups huserGroups, lookup_withoutGenericGroups hgroups, h, Option.some_or]
  · intro key item huserGroups h
    rw [lookup_withUserGroups huserGroups] at h
    rcases Option.or_eq_some_iff.1 h with h | ⟨-, h⟩
    · exact (keeps_withoutGenericGroups.2 key item huserGroups h).imp_right id
    · exact Or.inr (OrderedMap.mem_of_lookup h)

end WithUserGroups

/-- The body is made for the data, with the roles that the server returned. -/
structure Applied (js : Runtime) (config data : Json) (rows : List Json) (fields : Settings) :
    Prop where
  groups : fields.lookup "groups" = none
  userGroups : IsUserGroups js config data rows (fields.lookup "userGroups")
  keeps : Keeps data fields

theorem applied_withUserGroups {groups : List GroupValue}
    (h : IsUserGroups js config data rows (some (groupEntries groups))) :
    Applied js config data rows (withUserGroups data groups) where
  groups := groups_withUserGroups
  userGroups := by
    rw [userGroups_withUserGroups]
    exact h
  keeps := keeps_withUserGroups

theorem applied_withoutGenericGroups
    (h : IsUserGroups js config data rows (data.get? "userGroups")) :
    Applied js config data rows (withoutGenericGroups data) where
  groups := lookup_groups
  userGroups := by
    rw [lookup_withoutGenericGroups (by decide), lookup_fieldsOf (by decide)]
    exact h
  keeps := keeps_withoutGenericGroups

theorem applyDefaultGroups_runs {fields : Settings} (hgiven : data.get? "userGroups" = none)
    (hincoming : ∀ rows, NoIncoming js config data rows)
    (h : (applyDefaultGroups js texts config data).Runs t (.ok fields)) :
    Applied js config data (rolesIn js config t) fields := by
  obtain ⟨settings, _, t₂, rfl, hchecked, hrun⟩ := runs_bind_ok.1 h
  obtain ⟨rfl, hsettings⟩ := runs_checked_ok.1 hchecked
  rw [List.nil_append]
  split at hrun
  · next hnot =>
    obtain ⟨rfl, hfields⟩ := hrun
    obtain rfl := Except.ok.inj hfields
    refine applied_withoutGenericGroups ?_
    unfold IsUserGroups
    rw [hgiven]
    refine Or.inr ⟨hincoming _, Or.inr ⟨fun mode value hdefault => ?_, rfl⟩⟩
    obtain ⟨henabled, -, hvalues⟩ := (defaultGroup_iff hsettings).1 hdefault
    rw [henabled, hvalues] at hnot
    cases hnot
  · next hnot =>
    obtain ⟨groups, t₃, _, rfl, hgroups, hfields⟩ := runs_bind_ok.1 hrun
    obtain ⟨rfl, hfields⟩ := hfields
    obtain rfl := Except.ok.inj hfields
    rw [List.append_nil]
    simp only [Bool.or_eq_true, Bool.not_eq_true', List.isEmpty_iff, not_or,
      Bool.not_eq_false] at hnot
    obtain ⟨value, hvalues⟩ := values_of_defaultGroupSettings hsettings hnot.2
    have hdefault : DefaultGroup config settings.mode value :=
      (defaultGroup_iff hsettings).2 ⟨hnot.1, rfl, hvalues⟩
    refine applied_withUserGroups ?_
    unfold IsUserGroups
    rw [hgiven]
    rw [hvalues] at hgroups
    exact Or.inr ⟨hincoming _, Or.inl
      ⟨_, value, groups, hdefault, (toCmdbuildUserGroups_runs hgroups).1, rfl⟩⟩

theorem applyCmdbuildUserGroups_runs {fields : Settings}
    (h : (applyCmdbuildUserGroups js texts config data).Runs t (.ok fields)) :
    Applied js config data (rolesIn js config t) fields := by
  unfold applyCmdbuildUserGroups at h
  cases hgiven : data.get? "userGroups" with
  | some given =>
    rw [hgiven] at h
    obtain ⟨rfl, hfields⟩ := h
    obtain rfl := Except.ok.inj hfields
    refine applied_withoutGenericGroups ?_
    unfold IsUserGroups
    rw [hgiven]
  | none =>
    rw [hgiven, if_neg (by decide)] at h
    obtain ⟨settings, _, t₂, rfl, hchecked, hrun⟩ := runs_bind_ok.1 h
    obtain ⟨rfl, hsettings⟩ := runs_checked_ok.1 hchecked
    rw [List.nil_append]
    cases hvalues : incomingValues settings data with
    | none =>
      rw [hvalues] at hrun
      refine applyDefaultGroups_runs hgiven (fun rows mode values hincoming => ?_) hrun
      rw [((incoming_iff hsettings).1 hincoming).1] at hvalues
      cases hvalues
    | some values =>
      rw [hvalues] at hrun
      obtain ⟨groups, t₃, t₄, rfl, hgroups, hrest⟩ := runs_bind_ok.1 hrun
      obtain ⟨hresolution, hnil⟩ := toCmdbuildUserGroups_runs hgroups
      split at hrest
      · next hempty =>
        obtain rfl := List.isEmpty_iff.1 hempty
        obtain rfl := hnil rfl
        refine applyDefaultGroups_runs hgiven (fun rows mode values' hincoming => ?_) hrest
        obtain ⟨hvalues', rfl⟩ := (incoming_iff hsettings).1 hincoming
        obtain rfl := Option.some.inj (hvalues.symm.trans hvalues')
        exact hresolution.nil rows
      · next hne =>
        obtain ⟨rfl, hfields⟩ := hrest
        obtain rfl := Except.ok.inj hfields
        rw [List.append_nil]
        refine applied_withUserGroups ?_
        unfold IsUserGroups
        rw [hgiven]
        exact Or.inl ⟨settings.mode, values, groups, (incoming_iff hsettings).2 ⟨hvalues, rfl⟩,
          hresolution, fun hnil => hne (List.isEmpty_iff.2 hnil), rfl⟩

/-! ### What is posted -/

theorem apiUrl_inj {path path' : String} (h : apiUrl js config path = apiUrl js config path') :
    path = path' := by
  have htoList := congrArg String.toList h
  unfold apiUrl at htoList
  simp only [String.toList_append] at htoList
  exact String.toList_inj.1 (List.append_cancel_left htoList)

/-- Nothing is posted for a new user. -/
def NotPosting (js : Runtime) (config : Json) (r : CmdbuildReq) : Prop :=
  ∀ answer, postedUser js config ⟨r, answer⟩ = none

theorem notPosting_of_preparing {r : CmdbuildReq} (h : Preparing js config r) :
    NotPosting js config r := by
  intro answer
  unfold postedUser
  split
  · next url body headers agent hreq =>
    obtain rfl : r = _ := hreq
    obtain ⟨-, rfl⟩ := h
    exact if_neg fun heq => absurd (apiUrl_inj heq) (by decide)
  · rfl

theorem notPosting_of_calling {path : String} {body : Option Json} {r : CmdbuildReq}
    (h : Calling js config "GET" path body r) : NotPosting js config r := by
  rcases h with h | h
  · exact notPosting_of_preparing h
  · intro answer
    cases r with
    | request method url body' headers agent =>
      obtain ⟨rfl, -, -⟩ := h
      rfl
    | _ => exact h.elim

theorem toCmdbuildUserGroups_issues {mode : CmdbuildGroupMode} {values : List Json} :
    (toCmdbuildUserGroups js texts config mode values).Issues (NotPosting js config) := by
  refine issues_checked.bind fun refs => ?_
  cases mode with
  | id => exact issues_pure
  | name =>
    show (resolveRoleNames js texts config _).Issues _
    unfold resolveRoleNames
    split
    · exact issues_pure
    · refine (call_issues.mono fun _ => notPosting_of_calling).bind fun response => ?_
      exact issues_checked.bind fun _ => issues_checked.bind fun _ => issues_checked

theorem applyDefaultGroups_issues :
    (applyDefaultGroups js texts config data).Issues (NotPosting js config) := by
  refine issues_checked.bind fun settings => ?_
  split
  · exact issues_pure
  · exact toCmdbuildUserGroups_issues.bind fun _ => issues_pure

theorem applyCmdbuildUserGroups_issues :
    (applyCmdbuildUserGroups js texts config data).Issues (NotPosting js config) := by
  unfold applyCmdbuildUserGroups
  split
  · exact issues_pure
  · refine issues_checked.bind fun settings => ?_
    cases incomingValues settings data with
    | none => exact applyDefaultGroups_issues
    | some values =>
      refine toCmdbuildUserGroups_issues.bind fun groups => ?_
      split
      · exact applyDefaultGroups_issues
      · exact issues_pure

/-- The body is made first; then it is posted, or nothing is if there is none. -/
theorem perform_runs {params : Json} {x : Except CmdbuildFailure ConnectorResult}
    (h : (perform js texts "user.create" config data params).Runs t x) :
    ∃ t₁ t₂ y, t = t₁ ++ t₂ ∧ (applyCmdbuildUserGroups js texts config data).Runs t₁ y ∧
      ∀ e ∈ t₂, ∃ fields, y = .ok fields ∧
        Calling js config "POST" "/users" (some (.obj fields)) e.req := by
  obtain ⟨t₁₂, t₃, special, rfl, hspecial, hrest⟩ := runs_andThen.1 h
  obtain ⟨t₁, t₂, y, rfl, hbody, hcall⟩ := runs_andThen.1 hspecial
  have hnil : t₃ = [] := by
    cases special with
    | error e => exact hrest.1
    | ok special =>
      cases y with
      | error e => cases hcall.2
      | ok fields =>
        obtain ⟨response, rfl, -⟩ := runs_map_ok.1 hcall
        exact hrest.1
  refine ⟨t₁, t₂, y, by rw [hnil, List.append_nil], hbody, fun e he => ?_⟩
  cases y with
  | error failure =>
    obtain ⟨rfl, -⟩ := hcall
    cases he
  | ok fields => exact ⟨fields, rfl, (issues_map.2 call_issues).of_runs hcall e he⟩

theorem execute_runs {payload : ConnectorPayload} {x : Except CmdbuildFailure ConnectorResult}
    (hoperation : payload.operation = "user.create") (h : (execute js texts payload).Runs t x) :
    t = [] ∨ ∃ t₁ t₂ y, t = t₁ ++ t₂ ∧
      (applyCmdbuildUserGroups js texts (payload.config.getD .null) payload.data).Runs t₁ y ∧
      ∀ e ∈ t₂, Preparing js (payload.config.getD .null) e.req ∨ ∃ fields, y = .ok fields ∧
        Calling js (payload.config.getD .null) "POST" "/users" (some (.obj fields)) e.req := by
  unfold execute at h
  dsimp only at h
  rw [hoperation] at h
  split at h
  · obtain ⟨rfl, -⟩ := h
    exact Or.inl rfl
  · obtain ⟨t₁₂, t₃, z, rfl, hperform, hreport⟩ := runs_andThen.1 h
    obtain ⟨t₁, t₂, y, rfl, hbody, hcalls⟩ := perform_runs hperform
    refine Or.inr ⟨t₁, t₂ ++ t₃, y, List.append_assoc _ _ _, hbody, fun e he => ?_⟩
    rcases List.mem_append.1 he with he | he
    · exact Or.inr (hcalls e he)
    · cases z with
      | ok result =>
        obtain ⟨rfl, -⟩ := hreport
        cases he
      | error failure =>
        exact Or.inl ((safeErrorMessage_issues.bind fun _ => issues_pure).of_runs hreport e he)

theorem answeredRoles_of_calling {body : Option Json} {e : Event CmdbuildAns}
    (h : Calling js config "POST" "/users" body e.req) : answeredRoles js config e = none := by
  obtain ⟨r, answer⟩ := e
  cases r with
  | request method url body' headers agent =>
    obtain rfl : method = "POST" := by
      rcases h with ⟨rfl, -⟩ | ⟨rfl, -, -⟩ <;> rfl
    rfl
  | _ => rfl

theorem postedUser_of_calling {body body' : Option Json} {e : Event CmdbuildAns}
    (h : Calling js config "POST" "/users" body e.req)
    (hposted : postedUser js config e = some body') :
    body' = body := by
  obtain ⟨r, answer⟩ := e
  rcases h with h | h
  · rw [notPosting_of_preparing h answer] at hposted
    cases hposted
  · cases r with
    | request method url body'' headers agent =>
      obtain ⟨rfl, rfl, rfl⟩ := h
      have hbody : postedUser js config
          ⟨.request "POST" (apiUrl js config "/users") body'' headers agent, answer⟩ =
            some body'' := if_pos rfl
      exact Option.some.inj (hposted.symm.trans hbody)
    | _ => exact h.elim

/-! ### Names that are not resolved -/

theorem Resolution.eq_nil {mode : CmdbuildGroupMode} {values : List Json} {groups : List GroupValue}
    (h : Resolution js rows mode values groups) (hnil : Resolution js rows mode values []) :
    groups = [] := by
  obtain ⟨refs, hrefs, hgroups⟩ := h
  obtain ⟨refs', hrefs', hnil⟩ := hnil
  obtain rfl := Except.ok.inj (hrefs.symm.trans hrefs')
  cases mode with
  | id => exact hgroups.trans hnil.symm
  | name =>
    have hlength := (List.Forall₂.length_eq hgroups).symm.trans (List.Forall₂.length_eq hnil)
    exact List.length_eq_zero_iff.1 hlength

theorem UnresolvedName.not_resolution {mode : CmdbuildGroupMode} {values : List Json}
    (h : UnresolvedName js rows mode values) (groups : List GroupValue) :
    ¬ Resolution js rows mode values groups := by
  rintro ⟨refs, hrefs, hgroups⟩
  obtain ⟨rfl, refs', hrefs', ref, hmem, hnot⟩ := h
  obtain rfl := Except.ok.inj (hrefs.symm.trans hrefs')
  have hname : ref.text js ∈ (refs.map (GroupValue.text js)).eraseDups :=
    List.mem_eraseDups.2 (List.mem_map_of_mem hmem)
  obtain ⟨i, hi, hget⟩ := List.mem_iff_getElem.1 hname
  have hroles : List.Forall₂ (IsRole rows) (refs.map (GroupValue.text js)).eraseDups groups :=
    hgroups
  have hi' : i < groups.length := hroles.length_eq ▸ hi
  refine hnot (groups.get ⟨i, hi'⟩) ?_
  rw [← hget]
  exact hroles.get hi hi'

theorem Incoming.unique {mode mode' : CmdbuildGroupMode} {values values' : List Json}
    (h : Incoming config data mode values) (h' : Incoming config data mode' values') :
    mode = mode' ∧ values = values' := by
  obtain ⟨-, hmode, hvalues⟩ := h
  obtain ⟨-, hmode', hvalues'⟩ := h'
  refine ⟨Except.ok.inj (hmode.symm.trans hmode'), ?_⟩
  exact Json.arr.inj (Option.some.inj (hvalues.symm.trans hvalues'))

theorem DefaultGroup.unique {mode mode' : CmdbuildGroupMode} {value value' : Json}
    (h : DefaultGroup config mode value) (h' : DefaultGroup config mode' value') :
    mode = mode' ∧ value = value' := by
  unfold DefaultGroup at h h'
  split at h
  · next hmodern =>
    rw [if_pos hmodern] at h'
    exact ⟨Except.ok.inj (h.2.1.symm.trans h'.2.1), Option.some.inj (h.2.2.symm.trans h'.2.2)⟩
  · next hmodern =>
    rw [if_neg hmodern] at h'
    exact ⟨h.1.trans h'.1.symm, Option.some.inj (h.2.symm.trans h'.2)⟩

/-- A body needs its names resolved. -/
theorem Unresolved.not_isUserGroups (h : Unresolved js config data rows)
    (userGroups : Option Json) : ¬ IsUserGroups js config data rows userGroups := by
  obtain ⟨hgiven, h⟩ := h
  unfold IsUserGroups
  rw [hgiven]
  rintro (⟨mode, values, groups, hincoming, hgroups, hne, -⟩ | ⟨hno, hdefault⟩)
  · rcases h with ⟨mode', values', hincoming', hname⟩ | ⟨hno, -⟩
    · obtain ⟨rfl, rfl⟩ := hincoming.unique hincoming'
      exact hname.not_resolution groups hgroups
    · exact hne (hgroups.eq_nil (hno mode values hincoming))
  · rcases h with ⟨mode', values', hincoming', hname⟩ | ⟨-, mode', value', hdefault', hname⟩
    · exact hname.not_resolution [] (hno mode' values' hincoming')
    · rcases hdefault with ⟨mode, value, groups, hdefault, hgroups, -⟩ | ⟨hnone, -⟩
      · obtain ⟨rfl, rfl⟩ := hdefault.unique hdefault'
        exact hname.not_resolution groups hgroups
      · exact hnone mode' value' hdefault'

/-! ### The operation -/

/-- In every run of the operation, what is posted for the new user has the groups that it should. -/
theorem creates_mapped (js : Runtime) (texts : CmdbuildTexts) (payload : ConnectorPayload)
    (h : payload.operation = "user.create") : CreatesMapped js texts payload := by
  intro t x hrun
  rcases execute_runs h hrun with rfl | ⟨t₁, t₂, y, rfl, hbody, hcalls⟩
  · exact ⟨fun body hmem => (nomatch hmem), fun _ => rfl⟩
  set config := payload.config.getD .null
  have hcalling : ∀ e ∈ t₂, ∃ body, Calling js config "POST" "/users" body e.req := by
    intro e he
    rcases hcalls e he with hpreparing | ⟨fields, -, hcalling⟩
    · exact ⟨none, Or.inl hpreparing⟩
    · exact ⟨_, hcalling⟩
  have hroles : rolesIn js config (t₁ ++ t₂) = rolesIn js config t₁ :=
    rolesIn_append fun e he => (hcalling e he).elim fun _ => answeredRoles_of_calling
  have hposted : ∀ body ∈ postedUsers js config (t₁ ++ t₂), ∃ fields, body = some (.obj fields) ∧
      Applied js config payload.data (rolesIn js config t₁) fields := by
    intro body hmem
    obtain ⟨e, he, hbodyOf⟩ := List.mem_filterMap.1 hmem
    rcases List.mem_append.1 he with he | he
    · have hnot := applyCmdbuildUserGroups_issues.of_runs hbody e he e.ans
      rw [hnot] at hbodyOf
      cases hbodyOf
    · rcases hcalls e he with hpreparing | ⟨fields, rfl, hcalling⟩
      · rw [notPosting_of_preparing hpreparing e.ans] at hbodyOf
        cases hbodyOf
      · exact ⟨fields, postedUser_of_calling hcalling hbodyOf, applyCmdbuildUserGroups_runs hbody⟩
  rw [hroles]
  refine ⟨fun body hmem => ?_, fun hunresolved => ?_⟩
  · obtain ⟨fields, rfl, happlied⟩ := hposted body hmem
    exact ⟨fields, rfl, happlied.groups, happlied.userGroups, happlied.keeps⟩
  · refine List.eq_nil_iff_forall_not_mem.2 fun body hmem => ?_
    obtain ⟨fields, -, happlied⟩ := hposted body hmem
    exact hunresolved.not_isUserGroups _ happlied.userGroups

/-- A user with a group that is given by its name. -/
def auditorPayload : ConnectorPayload where
  operation := "user.create"
  targetSystem := "CMDB"
  payload := .obj [
    ("config", .obj [("baseUrl", .str "https://cmdb"), ("authMode", .str "basic"),
      ("incomingGroupsEnabled", .bool true), ("incomingGroupsMode", .str "name")]),
    ("data", .obj [("username", .str "jdoe"), ("groups", .arr [.str "Audit"])])]

def plainTexts : CmdbuildTexts := ⟨id, fun value _ => value, fun error _ _ => error.message⟩

/-- The roles are asked for, and the user is posted with the id of the role. -/
theorem auditor_mapped : ∃ t x, (execute Runtime.ascii plainTexts auditorPayload).Runs t x ∧
    postedUsers Runtime.ascii (auditorPayload.config.getD .null) t =
      [some (.obj [("active", .bool true), ("service", .bool false), ("language", .str "en"),
        ("username", .str "jdoe"), ("userGroups", .arr [.obj [("_id", .num 16)]])])] ∧
    CreatesMapped Runtime.ascii plainTexts auditorPayload := by
  refine ⟨_, _, ⟨.ok (.obj [("data", .arr [.obj [("_id", .num 16), ("name", .str "Audit")]])]), _,
    rfl, .ok .null, _, rfl, rfl, rfl⟩, rfl, creates_mapped _ _ auditorPayload rfl⟩

end CmdbuildConnectorService

end IdmMw
