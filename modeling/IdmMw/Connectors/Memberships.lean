import IdmMw.Connectors.CmdbuildGroups
import IdmMw.Connectors.ZabbixMembers
import IdmMw.Library.SharedSet

/-!
# Two changes of memberships at once

An operation on members reads all members of a group of Zabbix, or all roles of a user of CMDBuild, and
writes them back with its change. Two operations may do so at once.

* `zabbixRun_updates`, `cmdbuildRun_updates`: what a successful operation reads and writes;
* `noLostUpdate_iff`: both changes are there at the end, unless one is written between the other's
  reading and writing and is not without effect.
-/

namespace IdmMw

open Async SharedSet

/-! ### The members of a group of Zabbix -/

namespace ZabbixConnectorService

variable {js : Runtime} {users changed : List Json} {userId groupId : Json} {operation : String}

/-- A body that is posted, and the answer. -/
abbrev Exchange := Json × Except JsError Json

/-- The ids of the users, as texts. -/
def userIds (js : Runtime) (users : List Json) : Set String :=
  {id | ∃ user ∈ users, (user.get? "userid").map (·.toText js.numberText) = some id}

/-- The group that a body is about. -/
def groupOf (body : Json) : Option Json :=
  (body.get? "params").bind fun params =>
    ((params.get? "usrgrpids").bind firstGroup).or (params.get? "usrgrpid")

/-- The users in a body. -/
def usersOf (body : Json) : List Json :=
  match (body.get? "params").bind (·.get? "users") with
  | some (.arr users) => users
  | _ => []

/-- What a call that succeeds reads or writes of the members of the group. -/
def access (js : Runtime) (group : String) (exchange : Exchange) : Option (SharedSet.Access String) :=
  if (groupOf exchange.1).map (·.toText js.numberText) = some group then
    (exchange.2.bind (resultOf js)).toOption.bind fun result =>
      if exchange.1.getStr? "method" = some "usergroup.get" then
        (groupUsers result).toOption.map fun users => .read (userIds js users)
      else if exchange.1.getStr? "method" = some "usergroup.update" then
        some (.write (userIds js (usersOf exchange.1)))
      else none
  else none

/-- What the operation puts in and takes out. A number is never found in a list of texts, so that of
an id that is a number no one is taken out. -/
def memberChange (js : Runtime) (operation : String) (userId : Json) : Change String :=
  if operation = "group.addMember" then
    ⟨{userId.toText js.numberText}, ∅, fun _ _ h => h⟩
  else
    match userId with
    | .str id => ⟨∅, {id}, fun _ h => h.elim⟩
    | _ => ⟨∅, ∅, fun _ h => h.elim⟩

/-- Members are compared with `===`. -/
theorem isUser_text {user : Json} {id : String} (hid : user.get? "userid" = some (.str id)) :
    isUser userId user = .ok (strictlyEqual (.str id) userId) := by
  have hany : isUser userId user =
      .ok ((user.get? "userid").any fun id => strictlyEqual id userId) := by
    cases user with
    | null => cases hid
    | _ => rfl
  rw [hany, hid]
  rfl

/-- The entry has the text for its id. -/
def hasId (userId user : Json) : Bool :=
  match user.get? "userid" with
  | some id => strictlyEqual id userId
  | none => false

theorem mem_userIds_of_returned (husers : AsReturned users) {id : String} :
    id ∈ userIds js users ↔ ∃ user ∈ users, user.get? "userid" = some (.str id) := by
  constructor
  · rintro ⟨user, hmem, hid⟩
    obtain ⟨id', hid'⟩ := husers user hmem
    rw [hid'] at hid
    obtain rfl : id' = id := Option.some.inj hid
    exact ⟨user, hmem, hid'⟩
  · rintro ⟨user, hmem, hid⟩
    refine ⟨user, hmem, ?_⟩
    rw [hid]
    rfl

theorem userIds_append (users : List Json) (userId : Json) :
    userIds js (users ++ [userEntry userId]) =
      {id | id = userId.toText js.numberText ∨ id ∈ userIds js users} := by
  ext id
  have hentry : ((userEntry userId).get? "userid").map (·.toText js.numberText) =
      some (userId.toText js.numberText) := by
    unfold userEntry
    rw [Json.get?_obj, OrderedMap.lookup_cons_self]
    rfl
  constructor
  · rintro ⟨user, hmem, hid⟩
    rcases List.mem_append.1 hmem with hmem | hmem
    · exact Or.inr ⟨user, hmem, hid⟩
    · obtain rfl := List.mem_singleton.1 hmem
      exact Or.inl (Option.some.inj (hid.symm.trans hentry))
  · rintro (rfl | ⟨user, hmem, hid⟩)
    · exact ⟨userEntry userId, List.mem_append_right _ List.mem_cons_self, hentry⟩
    · exact ⟨user, List.mem_append_left _ hmem, hid⟩

theorem isUser_hasId (husers : AsReturned users) :
    ∀ user ∈ users, isUser userId user = .ok (hasId userId user) := by
  intro user hmem
  obtain ⟨id, hid⟩ := husers user hmem
  rw [isUser_text hid]
  unfold hasId
  rw [hid]

/-- The list that is written is the list that was read, with the change. -/
theorem userIds_updatedUsers (husers : AsReturned users)
    (h : updatedUsers operation users userId = .ok changed) :
    userIds js changed = (memberChange js operation userId).apply (userIds js users) := by
  unfold updatedUsers at h
  unfold memberChange
  by_cases hadd : operation = "group.addMember"
  · rw [if_pos hadd, someUser_eq (isUser_hasId husers)] at h
    rw [if_pos hadd]
    have happly : Change.apply ⟨{userId.toText js.numberText}, ∅, fun _ _ h => h⟩
        (userIds js users) = {id | id = userId.toText js.numberText ∨ id ∈ userIds js users} := by
      ext id
      simp [Change.mem_apply]
    rw [happly]
    cases hany : users.any (hasId userId) with
    | false =>
      rw [hany] at h
      obtain rfl : users ++ [userEntry userId] = changed := Except.ok.inj h
      exact userIds_append users userId
    | true =>
      rw [hany] at h
      obtain rfl : users = changed := Except.ok.inj h
      obtain ⟨user, hmem, hhas⟩ := List.any_eq_true.1 hany
      obtain ⟨id, hid⟩ := husers user hmem
      have htext : userId.toText js.numberText = id := by
        unfold hasId at hhas
        rw [hid] at hhas
        cases userId with
        | str text => exact (of_decide_eq_true hhas).symm
        | _ => cases hhas
      have hthere : id ∈ userIds js users := (mem_userIds_of_returned husers).2 ⟨user, hmem, hid⟩
      ext id'
      constructor
      · exact Or.inr
      · rintro (rfl | hmem')
        · rw [htext]
          exact hthere
        · exact hmem'
  · rw [if_neg hadd, withoutUser_eq (isUser_hasId husers)] at h
    rw [if_neg hadd]
    obtain rfl : users.filter (!hasId userId ·) = changed := Except.ok.inj h
    have hreturned : AsReturned (users.filter (!hasId userId ·)) :=
      fun user hmem => husers user (List.mem_filter.1 hmem).1
    ext id
    rw [mem_userIds_of_returned hreturned, Change.mem_apply, mem_userIds_of_returned husers]
    have hnot : ∀ user, user.get? "userid" = some (.str id) →
        ((!hasId userId user) = true ↔ strictlyEqual (.str id) userId = false) := by
      intro user hid
      unfold hasId
      rw [hid, Bool.not_eq_true']
    constructor
    · rintro ⟨user, hmem, hid⟩
      obtain ⟨hthere, hhas⟩ := List.mem_filter.1 hmem
      have hother := (hnot user hid).1 hhas
      cases userId with
      | str text => exact Or.inr ⟨⟨user, hthere, hid⟩, of_decide_eq_false hother⟩
      | _ => exact Or.inr ⟨⟨user, hthere, hid⟩, fun h => h⟩
    · rintro (hadded | ⟨⟨user, hmem, hid⟩, hremoved⟩)
      · cases userId <;> exact hadded.elim
      · refine ⟨user, List.mem_filter.2 ⟨hmem, (hnot user hid).2 ?_⟩, hid⟩
        cases userId with
        | str text => exact decide_eq_false hremoved
        | _ => rfl

variable {auth : ZabbixAuth} {method : String} {params answer : Json} {result : Option Json}

theorem body_getStr? {auth : Option ZabbixAuth} :
    (body method params auth).getStr? "method" = some method := by
  unfold Json.getStr?
  rw [body_method]

theorem groupOf_readBody : groupOf (readBody groupId auth) = some groupId := by
  unfold groupOf readBody
  rw [body_params, Option.bind_some, Properties.get?_json]
  rfl

theorem groupOf_writeBody : groupOf (writeBody groupId users auth) = some groupId := by
  unfold groupOf writeBody
  rw [body_params]
  rfl

theorem usersOf_writeBody : usersOf (writeBody groupId users auth) = users := by
  unfold usersOf writeBody
  rw [body_params]
  rfl

theorem access_login {group : String} {exchange : Exchange}
    (hmethod : exchange.1.get? "method" = some (.str "user.login")) :
    access js group exchange = none := by
  have hname : exchange.1.getStr? "method" = some "user.login" := by
    unfold Json.getStr?
    rw [hmethod]
  unfold access
  rw [hname]
  split
  · refine Option.bind_eq_none_iff.2 fun _ _ => ?_
    rw [if_neg (by decide), if_neg (by decide)]
  · rfl

theorem access_read (hresult : resultOf js answer = .ok result)
    (husers : groupUsers result = .ok users) :
    access js (groupId.toText js.numberText) (readBody groupId auth, .ok answer) =
      some (.read (userIds js users)) := by
  have hok : (Except.ok answer).bind (resultOf js) = .ok result := hresult
  have hname : (readBody groupId auth).getStr? "method" = some "usergroup.get" := body_getStr?
  unfold access
  dsimp only
  rw [groupOf_readBody, Option.map_some, if_pos rfl, hok]
  show (if (readBody groupId auth).getStr? "method" = some "usergroup.get" then _ else _) = _
  rw [if_pos hname, husers]
  rfl

theorem access_write (hresult : resultOf js answer = .ok result) :
    access js (groupId.toText js.numberText) (writeBody groupId users auth, .ok answer) =
      some (.write (userIds js users)) := by
  have hok : (Except.ok answer).bind (resultOf js) = .ok result := hresult
  have hname : (writeBody groupId users auth).getStr? "method" = some "usergroup.update" :=
    body_getStr?
  unfold access
  dsimp only
  rw [groupOf_writeBody, Option.map_some, if_pos rfl, hok]
  show (if (writeBody groupId users auth).getStr? "method" = some "usergroup.get" then _
    else if (writeBody groupId users auth).getStr? "method" = some "usergroup.update" then _
    else _) = _
  rw [hname, if_neg (by decide), if_pos rfl, usersOf_writeBody]

/-- A successful operation of the connector on the members of the group. -/
structure MembershipRun (js : Runtime) (payload : ConnectorPayload) (group : String)
    (userId : Json) (es : List Exchange) : Prop where
  isMember : isMemberOperation payload.operation = true
  group : ((memberGroup payload.data payload.params).filter Json.truthy).map
    (·.toText js.numberText) = some group
  user : (memberUser payload.data payload.params).filter Json.truthy = some userId
  runs : ∃ t result, (execute js payload).Runs t (.ok result) ∧ result.success = true ∧
    exchanges t = es
  -- as the interface returns them
  returned : ∀ e ∈ es, ∀ users, Lists js users e → AsReturned users

/-- The members are read, and written back with the change. -/
theorem MembershipRun.updates {payload : ConnectorPayload} {group : String} {es : List Exchange}
    (h : MembershipRun js payload group userId es) :
    Updates (access js group) (memberChange js payload.operation userId) es := by
  obtain ⟨groupId, userId', hreaches, t, auth, answer, answer', result, response, users, changed,
    hauth, hresult, husers, hchanged, hresponse, rfl⟩ := (member_exchanges h.isMember).1 h.runs
  obtain rfl := Option.some.inj (h.user.symm.trans hreaches.user)
  have hgroup := h.group
  rw [hreaches.group, Option.map_some] at hgroup
  obtain rfl := Option.some.inj hgroup
  have hreturned : AsReturned users := by
    refine h.returned (readBody groupId auth, .ok answer) (by simp) users ⟨body_method, answer,
      result, rfl, hresult, husers⟩
  refine ⟨userIds js users, ?_⟩
  have hlogin : (exchanges t).filterMap (access js (groupId.toText js.numberText)) = [] :=
    List.filterMap_eq_nil_iff.2 fun e he => access_login (login_exchanges hauth e he)
  rw [List.filterMap_append, hlogin, List.nil_append,
    List.filterMap_cons_some (access_read hresult husers),
    List.filterMap_cons_some (access_write hresponse), List.filterMap_nil,
    userIds_updatedUsers hreturned hchanged]

end ZabbixConnectorService

/-! ### The roles of a user of CMDBuild -/

namespace CmdbuildConnectorService

variable {js : Runtime} {texts : CmdbuildTexts} {config user changed roleId : Json} {add : Bool}
  {groups changedGroups : List Json} {method path url : String} {body : Option Json} {data : Json}
  {t : List (Event CmdbuildAns)}

/-- The ids of the entries, as texts. -/
def groupIds (js : Runtime) (groups : List Json) : Set String :=
  {id | ∃ group ∈ groups, groupText js group = .ok id}

/-- What a call that succeeds reads or writes of the roles of the user. -/
def access (js : Runtime) (url : String) : Event CmdbuildAns → Option (SharedSet.Access String)
  | ⟨.request method target body _ _, .ok response⟩ =>
    if target ≠ url then none
    else if method = "GET" then
      (response.get? "data").map fun user => .read (groupIds js (currentGroups user))
    else if method = "PUT" then
      body.map fun user => .write (groupIds js (currentGroups user))
    else none
  | _ => none

/-- What the operation puts in or takes out. -/
def roleChange (js : Runtime) (add : Bool) (roleId : Json) : Change String :=
  if add then ⟨{roleId.toText js.numberText}, ∅, fun _ _ h => h⟩
  else ⟨∅, {roleId.toText js.numberText}, fun _ h => h.elim⟩

/-! #### The changed list -/

theorem not_mem_groupIds_nil {id : String} : id ∉ groupIds js [] :=
  fun ⟨_, hmem, _⟩ => absurd hmem List.not_mem_nil

theorem mem_groupIds_cons {group : Json} {id : String} :
    id ∈ groupIds js (group :: groups) ↔ groupText js group = .ok id ∨ id ∈ groupIds js groups := by
  constructor
  · rintro ⟨group', hmem, hid⟩
    rcases List.mem_cons.1 hmem with rfl | hmem
    · exact Or.inl hid
    · exact Or.inr ⟨group', hmem, hid⟩
  · rintro (hid | ⟨group', hmem, hid⟩)
    · exact ⟨group, List.mem_cons_self, hid⟩
    · exact ⟨group', List.mem_cons_of_mem _ hmem, hid⟩

theorem someGroup_true (h : someGroup js roleId groups = .ok true) :
    roleId.toText js.numberText ∈ groupIds js groups := by
  induction groups with
  | nil => cases h
  | cons group groups ih =>
    unfold someGroup at h
    obtain ⟨id, hid, h⟩ := bind_eq_ok.1 h
    by_cases hrole : id = roleId.toText js.numberText
    · exact mem_groupIds_cons.2 (Or.inl (hid.trans (congrArg Except.ok hrole)))
    · rw [if_neg hrole] at h
      exact mem_groupIds_cons.2 (Or.inr (ih h))

theorem withoutGroup_ok (h : withoutGroup js roleId groups = .ok changedGroups) {id : String} :
    id ∈ groupIds js changedGroups ↔ id ∈ groupIds js groups ∧ id ≠ roleId.toText js.numberText := by
  induction groups generalizing changedGroups with
  | nil =>
    obtain rfl : [] = changedGroups := Except.ok.inj h
    exact iff_of_false not_mem_groupIds_nil fun h => not_mem_groupIds_nil h.1
  | cons group groups ih =>
    unfold withoutGroup at h
    obtain ⟨id', hid, h⟩ := bind_eq_ok.1 h
    obtain ⟨rest, hrest, h⟩ := bind_eq_ok.1 h
    obtain rfl := Except.ok.inj h
    have ih := ih hrest
    rw [mem_groupIds_cons, hid, Except.ok.injEq]
    by_cases hrole : id' = roleId.toText js.numberText
    · rw [if_pos hrole, ih]
      constructor
      · rintro ⟨hmem, hne⟩
        exact ⟨Or.inr hmem, hne⟩
      · rintro ⟨rfl | hmem, hne⟩
        · exact absurd hrole hne
        · exact ⟨hmem, hne⟩
    · rw [if_neg hrole, mem_groupIds_cons, hid, Except.ok.injEq, ih]
      constructor
      · rintro (rfl | ⟨hmem, hne⟩)
        · exact ⟨Or.inl rfl, hrole⟩
        · exact ⟨Or.inr hmem, hne⟩
      · rintro ⟨rfl | hmem, hne⟩
        · exact Or.inl rfl
        · exact Or.inr ⟨hmem, hne⟩

theorem groupIds_append_entry : groupIds js (groups ++ [.obj [("_id", roleId)]]) =
    {id | id = roleId.toText js.numberText ∨ id ∈ groupIds js groups} := by
  have hentry : groupText js (.obj [("_id", roleId)]) = .ok (roleId.toText js.numberText) := by
    unfold groupText
    dsimp only
    rw [Json.get?_obj, OrderedMap.lookup_cons_self]
    rfl
  ext id
  constructor
  · rintro ⟨group, hmem, hid⟩
    rcases List.mem_append.1 hmem with hmem | hmem
    · exact Or.inr ⟨group, hmem, hid⟩
    · obtain rfl := List.mem_singleton.1 hmem
      exact Or.inl (Except.ok.inj (hid.symm.trans hentry))
  · rintro (rfl | ⟨group, hmem, hid⟩)
    · exact ⟨_, List.mem_append_right _ List.mem_cons_self, hentry⟩
    · exact ⟨group, List.mem_append_left _ hmem, hid⟩

theorem nextGroups_ok (h : nextGroups js roleId add groups = .ok changedGroups) :
    groupIds js changedGroups = (roleChange js add roleId).apply (groupIds js groups) := by
  unfold nextGroups at h
  obtain ⟨hasRole, hhas, h⟩ := bind_eq_ok.1 h
  unfold roleChange
  cases add with
  | false =>
    rw [if_neg (by simp)] at h ⊢
    ext id
    rw [withoutGroup_ok h]
    simp [Change.mem_apply]
  | true =>
    rw [if_pos rfl] at h ⊢
    obtain rfl := Except.ok.inj h
    cases hasRole with
    | false =>
      rw [if_neg (by simp), groupIds_append_entry]
      ext id
      simp [Change.mem_apply]
    | true =>
      have hrole := someGroup_true hhas
      rw [if_pos rfl]
      ext id
      rw [Change.mem_apply]
      constructor
      · exact fun hmem => Or.inr ⟨hmem, fun h => h⟩
      · rintro (rfl | ⟨hmem, -⟩)
        · exact hrole
        · exact hmem

theorem get?_id (value : Option Json) : (Properties.json [("_id", value)]).get? "_id" = value := by
  rw [Properties.get?_json]
  cases value <;> rfl

theorem groupText_groupId {group entry : Json} (h : groupId group = .ok entry) :
    groupText js entry = groupText js group := by
  cases group with
  | null => cases h
  | _ =>
    obtain rfl := Except.ok.inj h
    exact congrArg (fun value => Except.ok (templateText js value)) (get?_id _)

/-- Only the ids of the entries are written. -/
theorem groupIds_mapM (h : groups.mapM groupId = .ok changedGroups) :
    groupIds js changedGroups = groupIds js groups := by
  have hall := forall₂_of_mapM h
  clear h
  ext id
  induction hall with
  | nil => exact Iff.rfl
  | cons hentry _ ih => rw [mem_groupIds_cons, mem_groupIds_cons, groupText_groupId hentry, ih]

/-- What is written of the user. -/
theorem changedUser_ok (h : changedUser js roleId add user = .ok changed) :
    groupIds js (currentGroups changed) =
      (roleChange js add roleId).apply (groupIds js (currentGroups user)) := by
  unfold changedUser at h
  obtain ⟨next, hnext, h⟩ := bind_eq_ok.1 h
  obtain ⟨entries, hentries, h⟩ := bind_eq_ok.1 h
  obtain rfl := Except.ok.inj h
  have hgroups : currentGroups
      (.obj (OrderedMap.assign (fieldsOf user) [("userGroups", .arr entries)])) = entries := by
    unfold currentGroups
    rw [Json.get?_obj, OrderedMap.lookup_assign]
    rfl
  rw [hgroups, groupIds_mapM hentries, nextGroups_ok hnext]

/-! #### The calls of a run -/

theorem access_preparing {e : Event CmdbuildAns} (h : Preparing js config e.req) :
    access js url e = none := by
  obtain ⟨r, answer⟩ := e
  cases r with
  | request method target body headers agent =>
    obtain ⟨rfl, -⟩ := h
    cases answer with
    | error failure => rfl
    | ok response =>
      unfold access
      dsimp only
      rw [if_neg (c := "POST" = "GET") (by decide), if_neg (c := "POST" = "PUT") (by decide),
        ite_self]
  | _ => rfl

theorem filterMap_preparing {α : Type} {p : CmdbuildProg α} {x : Except CmdbuildFailure α}
    (hp : p.Issues (Preparing js config)) (h : p.Runs t x) : t.filterMap (access js url) = [] :=
  List.filterMap_eq_nil_iff.2 fun e he => access_preparing (hp.of_runs h e he)

/-- Before the request of a call is sent nothing is read or written. -/
theorem send_runs {authMode : CmdbuildAuthMode} {x : Except CmdbuildFailure Json}
    (h : (send js texts config authMode method path body).Runs t x) :
    (∃ failure, x = .error failure ∧ t.filterMap (access js url) = []) ∨
      ∃ headers agent, t.filterMap (access js url) =
        (access js url ⟨.request method (apiUrl js config path) body headers agent, x⟩).toList := by
  have hchecked : (checked (logUserCreateDiagnostic config method path)).Issues
      (Preparing js config) := issues_checked
  unfold send at h
  rcases runs_bind.1 h with ⟨failure, rfl, hcheck⟩ | ⟨u, t₁, t₂, rfl, hcheck, h⟩
  · exact Or.inl ⟨failure, rfl, filterMap_preparing hchecked hcheck⟩
  · rw [List.filterMap_append, filterMap_preparing hchecked hcheck, List.nil_append]
    rcases runs_bind.1 h with ⟨failure, rfl, hauth⟩ | ⟨header, t₃, t₄, rfl, hauth, h⟩
    · exact Or.inl ⟨failure, rfl, filterMap_preparing getAuthHeaders_issues hauth⟩
    · rw [List.filterMap_append, filterMap_preparing getAuthHeaders_issues hauth, List.nil_append]
      rcases runs_bind.1 h with ⟨failure, rfl, hagent⟩ | ⟨agent, t₅, t₆, rfl, hagent, h⟩
      · exact Or.inl ⟨failure, rfl, filterMap_preparing axiosConfig_issues hagent⟩
      · rw [List.filterMap_append, filterMap_preparing axiosConfig_issues hagent, List.nil_append]
        obtain ⟨answer, rfl, rfl⟩ := runs_request.1 h
        refine Or.inr ⟨[contentType, header], agent, ?_⟩
        rw [List.filterMap_cons]
        cases access js url ⟨.request method (apiUrl js config path) body [contentType, header]
          agent, x⟩ <;> rfl

/-- A request that is refused reads and writes nothing. -/
theorem send_runs_error {authMode : CmdbuildAuthMode} {failure : CmdbuildFailure}
    (h : (send js texts config authMode method path body).Runs t (.error failure)) :
    t.filterMap (access js url) = [] := by
  rcases send_runs h with ⟨-, -, hnil⟩ | ⟨headers, agent, h⟩
  · exact hnil
  · exact h

/-- A call that succeeds reads or writes once, also where it is made a second time. -/
theorem call_accesses (url : String)
    (h : (call js texts config method path body).Runs t (.ok data)) :
    ∃ headers agent, t.filterMap (access js url) =
      (access js url ⟨.request method (apiUrl js config path) body headers agent,
        .ok data⟩).toList := by
  have hsend : ∀ {authMode t}, (send js texts config authMode method path body).Runs t (.ok data) →
      ∃ headers agent, t.filterMap (access js url) =
        (access js url ⟨.request method (apiUrl js config path) body headers agent,
          .ok data⟩).toList := by
    intro authMode t h
    rcases send_runs h with ⟨failure, hfailure, -⟩ | h
    · cases hfailure
    · exact h
  unfold call at h
  obtain ⟨authMode, t₁, t₂, rfl, hcheck, hcalls⟩ := runs_bind_ok.1 h
  obtain ⟨rfl, -⟩ := runs_checked_ok.1 hcheck
  rw [List.nil_append]
  rcases runs_tryCatch.1 hcalls with ⟨data', hdata, honce⟩ | ⟨failure, t₃, t₄, rfl, hrefused, htwice⟩
  · obtain rfl := Except.ok.inj hdata
    exact hsend honce
  · rw [List.filterMap_append, send_runs_error hrefused, List.nil_append]
    split at htwice
    · obtain ⟨key, t₅, t₆, rfl, hkey, hrest⟩ := runs_bind_ok.1 htwice
      obtain ⟨rfl, -⟩ := runs_checked_ok.1 hkey
      obtain ⟨u, t₇, t₈, rfl, ⟨answer, t₉, rfl, rfl, -⟩, hagain⟩ := runs_bind_ok.1 hrest
      have hdeleted : access js url ⟨.deleteSession key, answer⟩ = none := rfl
      rw [List.nil_append, List.singleton_append, List.filterMap_cons_none hdeleted]
      exact hsend hagain
    · cases htwice.2

theorem getEntity_accesses (h : (getEntity js texts config path).Runs t (.ok user)) :
    t.filterMap (access js (apiUrl js config path)) =
      [.read (groupIds js (currentGroups user))] := by
  unfold getEntity at h
  obtain ⟨response, t₁, t₂, rfl, hcall, h⟩ := runs_bind_ok.1 h
  obtain ⟨headers, agent, hcall⟩ := call_accesses (apiUrl js config path) hcall
  have hentity : response.get? "data" = some user ∧ t₂ = [] := by
    split at h
    · cases h.2
    · split at h
      · cases h.2
      · next entity hentity =>
        obtain ⟨rfl, huser⟩ := h
        obtain rfl := Except.ok.inj huser
        exact ⟨(Option.filter_eq_some_iff.1 hentity).1, rfl⟩
  obtain ⟨hdata, rfl⟩ := hentity
  have hread : access js (apiUrl js config path)
      ⟨.request "GET" (apiUrl js config path) none headers agent, .ok response⟩ =
        some (.read (groupIds js (currentGroups user))) := by
    unfold access
    dsimp only
    rw [if_neg (fun h => h rfl), if_pos rfl, hdata]
    rfl
  rw [List.append_nil, hcall, hread]
  rfl

theorem put_accesses (h : (call js texts config "PUT" path (some changed)).Runs t (.ok data)) :
    t.filterMap (access js (apiUrl js config path)) =
      [.write (groupIds js (currentGroups changed))] := by
  obtain ⟨headers, agent, hcall⟩ := call_accesses (apiUrl js config path) h
  have hwrite : access js (apiUrl js config path)
      ⟨.request "PUT" (apiUrl js config path) (some changed) headers agent, .ok data⟩ =
        some (.write (groupIds js (currentGroups changed))) := by
    unfold access
    dsimp only
    rw [if_neg (fun h => h rfl), if_neg (by decide), if_pos rfl]
    rfl
  rw [hcall, hwrite]
  rfl

variable {payload : ConnectorPayload} {userId : Json}

theorem updateUserRoleMembership_accesses
    (h : (updateUserRoleMembership js texts config roleId userId add).Runs t (.ok data)) :
    ∃ segment, pathSegment js (some userId) "userId" = .ok segment ∧
      Updates (access js (apiUrl js config ("/users/" ++ segment))) (roleChange js add roleId) t := by
  unfold updateUserRoleMembership at h
  obtain ⟨segment, t₁, t₂, rfl, hcheck, hrest⟩ := runs_bind_ok.1 h
  obtain ⟨rfl, hsegment⟩ := runs_checked_ok.1 hcheck
  obtain ⟨user, t₃, t₄, rfl, hread, hrest⟩ := runs_bind_ok.1 hrest
  obtain ⟨changed, t₅, t₆, rfl, hcompute, hwrite⟩ := runs_bind_ok.1 hrest
  obtain ⟨rfl, hchanged⟩ := runs_checked_ok.1 hcompute
  refine ⟨segment, hsegment, groupIds js (currentGroups user), ?_⟩
  rw [List.nil_append, List.filterMap_append, getEntity_accesses hread, List.nil_append,
    put_accesses hwrite, changedUser_ok hchanged]
  rfl

/-- A successful operation of the connector on the roles of the user with the address. -/
structure MembershipRun (js : Runtime) (texts : CmdbuildTexts) (payload : ConnectorPayload)
    (url : String) (roleId : Json) (t : List (Event CmdbuildAns)) : Prop where
  isMember : isMemberOperation payload.operation = true
  role : (memberRole payload.data payload.params).filter Json.truthy = some roleId
  user : ∃ userId segment, (memberUser payload.data payload.params).filter Json.truthy = some userId ∧
    pathSegment js (some userId) "userId" = .ok segment ∧
    apiUrl js (payload.config.getD .null) ("/users/" ++ segment) = url
  runs : ∃ result, (execute js texts payload).Runs t (.ok result) ∧ result.success = true

/-- The roles are read, and written back with the change. -/
theorem MembershipRun.updates (h : MembershipRun js texts payload url roleId t) :
    Updates (access js url) (roleChange js (payload.operation = "group.addMember") roleId) t := by
  obtain ⟨userId, segment, huser, hsegment, rfl⟩ := h.user
  obtain ⟨result, hrun, hsuccess⟩ := h.runs
  have hperform : (perform js texts payload.operation (payload.config.getD .null) payload.data
      payload.params).Runs t (.ok result) := by
    unfold execute at hrun
    dsimp only at hrun
    split at hrun
    · obtain rfl := Except.ok.inj hrun.2
      cases hsuccess
    · rcases runs_tryCatch.1 hrun with ⟨result', hresult, hperform⟩ |
        ⟨failure, t₁, t₂, rfl, -, hreport⟩
      · obtain rfl := Except.ok.inj hresult
        exact hperform
      · obtain ⟨message, t₃, t₄, -, -, -, hresult⟩ := runs_bind_ok.1 hreport
        obtain rfl := Except.ok.inj hresult
        cases hsuccess
  unfold perform at hperform
  rw [if_pos h.isMember, h.role, huser] at hperform
  obtain ⟨response, t₁, t₂, rfl, hchange, rfl, -⟩ := runs_bind_ok.1 hperform
  rw [List.append_nil]
  obtain ⟨segment', hsegment', hupdates⟩ := updateUserRoleMembership_accesses hchange
  obtain rfl := Except.ok.inj (hsegment.symm.trans hsegment')
  exact hupdates

end CmdbuildConnectorService

/-! ### Two operations at once -/

/-- What two operations change: the members of a group, or the roles of a user with an address. -/
inductive MembershipTarget
  | zabbixGroup (group : String)
  | cmdbuildUser (url : String)

namespace MembershipTarget

/-- The calls that are made of the target. -/
def Call : MembershipTarget → Type
  | zabbixGroup _ => ZabbixConnectorService.Exchange
  | cmdbuildUser _ => Event CmdbuildAns

/-- What a call reads or writes of the target. -/
def access (js : Runtime) : (target : MembershipTarget) → target.Call → Option (SharedSet.Access String)
  | zabbixGroup group => ZabbixConnectorService.access js group
  | cmdbuildUser url => CmdbuildConnectorService.access js url

/-- A successful operation on the target, with the member that it names and the calls that it makes. -/
def Run (js : Runtime) (texts : CmdbuildTexts) : (target : MembershipTarget) → ConnectorPayload →
    Json → List target.Call → Prop
  | zabbixGroup group, payload, member, es =>
    ZabbixConnectorService.MembershipRun js payload group member es
  | cmdbuildUser url, payload, member, es =>
    CmdbuildConnectorService.MembershipRun js texts payload url member es

/-- What an operation puts in or takes out. -/
def change (js : Runtime) : MembershipTarget → ConnectorPayload → Json → Change String
  | zabbixGroup _, payload, member =>
    ZabbixConnectorService.memberChange js payload.operation member
  | cmdbuildUser _, payload, member =>
    CmdbuildConnectorService.roleChange js (payload.operation = "group.addMember") member

variable {js : Runtime} {texts : CmdbuildTexts} {target : MembershipTarget}
  {payload : ConnectorPayload} {member : Json} {es : List target.Call}

theorem Run.updates (h : target.Run js texts payload member es) :
    Updates (target.access js) (target.change js payload member) es := by
  cases target with
  | zabbixGroup group => exact ZabbixConnectorService.MembershipRun.updates h
  | cmdbuildUser url => exact CmdbuildConnectorService.MembershipRun.updates h

/-- Two successful operations on the target, whose calls are served in the order of the log. -/
structure Served (js : Runtime) (texts : CmdbuildTexts) (target : MembershipTarget)
    (payload : Bool → ConnectorPayload) (member : Bool → Json) (log : List (Bool × target.Call))
    (s s' : Set String) : Prop where
  runs : ∀ i, target.Run js texts (payload i) (member i) (own i log)
  serves : Serves (target.access js) s log s'

/-- No change is lost exactly if no operation writes between the other's reading and writing, or what
it changes has no effect, but for the member that the other is about. -/
theorem noLostUpdate_iff {payload : Bool → ConnectorPayload} {member : Bool → Json}
    {log : List (Bool × target.Call)} {s s' : Set String}
    (h : Served js texts target payload member log s s') :
    NoLost (fun i => target.change js (payload i) (member i)) s' ↔
      ∀ i, Overtaken (target.access js) log i →
        Ineffective (target.change js (payload i) (member i))
          (target.change js (payload (!i)) (member (!i))) s :=
  noLost_iff h.serves fun i => (h.runs i).updates

/-! #### Two users who are added to a group -/

section Additions

open ZabbixConnectorService
open CmdbuildConnectorService (plainTexts)

def zabbixConfig : Json := .obj [("baseUrl", .str "https://zabbix"), ("apiToken", .str "token")]

/-- The user is added to the group. -/
def addition (userId : String) : ConnectorPayload where
  operation := "group.addMember"
  targetSystem := "zabbix"
  payload := .obj [("config", zabbixConfig),
    ("params", .obj [("groupId", .str "7"), ("userId", .str userId)])]

/-- The entries of the users. -/
def entriesOf (ids : List String) : List Json := ids.map fun id => userEntry (.str id)

def token : ZabbixAuth := ⟨.str "token", .bearer⟩

/-- The members are listed. -/
def listing (ids : List String) : Exchange :=
  (readBody (.str "7") token, .ok (.obj [("result", .arr [.obj [("users", .arr (entriesOf ids))]])]))

/-- The members are written. -/
def writing (ids : List String) : Exchange :=
  (writeBody (.str "7") (entriesOf ids) token, .ok (.obj [("result", .obj [])]))

theorem access_listing (ids : List String) : access Runtime.ascii (.zabbixGroup "7") (listing ids) =
    some (.read (userIds Runtime.ascii (entriesOf ids))) := access_read rfl rfl

theorem access_writing (ids : List String) : access Runtime.ascii (.zabbixGroup "7") (writing ids) =
    some (.write (userIds Runtime.ascii (entriesOf ids))) := by
  have hresult : resultOf Runtime.ascii (.obj [("result", .obj [])]) = .ok (some (.obj [])) := rfl
  exact access_write hresult

theorem mem_userIds_entriesOf {ids : List String} {id : String} :
    id ∈ userIds Runtime.ascii (entriesOf ids) ↔ id ∈ ids := by
  have hid : ∀ id, ((userEntry (.str id)).get? "userid").map (·.toText Runtime.ascii.numberText) =
      some id := fun _ => rfl
  constructor
  · rintro ⟨user, hmem, huser⟩
    obtain ⟨id', hmem', rfl⟩ := List.mem_map.1 hmem
    exact Option.some.inj ((hid id').symm.trans huser) ▸ hmem'
  · exact fun hmem => ⟨_, List.mem_map_of_mem hmem, hid id⟩

/-- The user is added to those that are listed. -/
theorem addition_run (ids : List String) {userId : String}
    (huser : Json.truthy (.str userId) = true)
    (hnone : someUser (.str userId) (entriesOf ids) = .ok false) :
    (zabbixGroup "7").Run Runtime.ascii plainTexts (addition userId) (.str userId)
      [listing ids, writing (ids ++ [userId])] := by
  have hchanged : updatedUsers "group.addMember" (entriesOf ids) (.str userId) =
      .ok (entriesOf (ids ++ [userId])) := by
    unfold updatedUsers
    rw [if_pos rfl, hnone]
    unfold entriesOf
    rw [List.map_append]
    rfl
  have hcan : CanCall Runtime.ascii zabbixConfig :=
    ⟨by decide, fun hon => absurd hon (by decide), Or.inl (by decide)⟩
  have hmember : isMemberOperation "group.addMember" = true := by decide
  have hreaches : ZabbixConnectorService.Reaches Runtime.ascii (addition userId) (.str "7")
      (.str userId) :=
    ⟨hcan, hmember, rfl, Option.filter_eq_some_iff.2 ⟨rfl, huser⟩⟩
  refine ⟨hmember, rfl, Option.filter_eq_some_iff.2 ⟨rfl, huser⟩, ?_, ?_⟩
  · exact (member_exchanges hmember).2 ⟨.str "7", .str userId, hreaches, [], token, _, _, _, _,
      entriesOf ids, entriesOf (ids ++ [userId]), ⟨rfl, rfl⟩, rfl, rfl, hchanged, rfl, rfl⟩
  · intro e he users hlists
    rcases List.mem_pair.1 he with rfl | rfl
    · obtain ⟨-, answer, result, hanswer, hresult, husers⟩ := hlists
      obtain rfl := Except.ok.inj hanswer
      obtain rfl := Except.ok.inj hresult
      obtain rfl : entriesOf ids = users := Except.ok.inj husers
      intro user hmem
      obtain ⟨id, -, rfl⟩ := List.mem_map.1 hmem
      exact ⟨id, rfl⟩
    · have hmethod : (writeBody (.str "7") (entriesOf (ids ++ [userId])) token).get? "method" =
        some (.str "usergroup.get") := hlists.1
      exact absurd (method_unique body_method hmethod) (by decide)

/-- The first user, or the second. -/
def added (second : Bool) : String := if second then "6" else "5"

/-- The second user is added after the first. -/
def inTurn : List (Bool × Exchange) :=
  [(false, listing []), (false, writing ["5"]), (true, listing ["5"]), (true, writing ["5", "6"])]

/-- Both read the members before they write them. -/
def atOnce : List (Bool × Exchange) :=
  [(false, listing []), (true, listing []), (false, writing ["5"]), (true, writing ["6"])]

theorem served_inTurn : Served Runtime.ascii plainTexts (.zabbixGroup "7") (addition ∘ added)
    (.str ∘ added) inTurn (userIds Runtime.ascii (entriesOf []))
    (userIds Runtime.ascii (entriesOf ["5", "6"])) where
  runs := fun i => by
    cases i with
    | false => exact addition_run [] (by decide) rfl
    | true => exact addition_run ["5"] (by decide) rfl
  serves := .read (access_listing _) (.write (access_writing _) (.read (access_listing _)
    (.write (access_writing _) .nil)))

theorem served_atOnce : Served Runtime.ascii plainTexts (.zabbixGroup "7") (addition ∘ added)
    (.str ∘ added) atOnce (userIds Runtime.ascii (entriesOf []))
    (userIds Runtime.ascii (entriesOf ["6"])) where
  runs := fun i => by
    cases i with
    | false => exact addition_run [] (by decide) rfl
    | true => exact addition_run [] (by decide) rfl
  serves := .read (access_listing _) (.read (access_listing _) (.write (access_writing _)
    (.write (access_writing _) .nil)))

/-- One after the other, both users are members at the end. -/
theorem noLostUpdate_inTurn :
    Served Runtime.ascii plainTexts (.zabbixGroup "7") (addition ∘ added) (.str ∘ added) inTurn
      (userIds Runtime.ascii (entriesOf [])) (userIds Runtime.ascii (entriesOf ["5", "6"])) ∧
    NoLost (fun i => (zabbixGroup "7").change Runtime.ascii (addition (added i)) (.str (added i)))
      (userIds Runtime.ascii (entriesOf ["5", "6"])) := by
  have horder : (accesses (access Runtime.ascii (.zabbixGroup "7")) inTurn).map
      (fun call => (call.1, call.2.isWrite)) =
        [(false, false), (false, true), (true, false), (true, true)] := rfl
  refine ⟨served_inTurn, (noLostUpdate_iff served_inTurn).2 fun i h => ?_⟩
  unfold Overtaken at h
  rw [horder] at h
  exact absurd h (not_overtaken_serial false i)

/-- At once, the first user is lost. -/
theorem not_noLostUpdate :
    Served Runtime.ascii plainTexts (.zabbixGroup "7") (addition ∘ added) (.str ∘ added) atOnce
      (userIds Runtime.ascii (entriesOf [])) (userIds Runtime.ascii (entriesOf ["6"])) ∧
    ¬ NoLost (fun i => (zabbixGroup "7").change Runtime.ascii (addition (added i)) (.str (added i)))
      (userIds Runtime.ascii (entriesOf ["6"])) := by
  refine ⟨served_atOnce, fun h => ?_⟩
  have hfirst := (h false "5").1 rfl fun h => h
  exact absurd (mem_userIds_entriesOf.1 hfirst) (by decide)

end Additions

end MembershipTarget

end IdmMw
