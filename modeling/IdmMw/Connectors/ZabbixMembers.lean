import IdmMw.Connectors.ZabbixCalls

/-!
# The members of a user group in Zabbix

* `denotes`: the entry of a list of members stands for a user, whose id may be a text or a number;
* `Kept`: a list with the change that an operation on members asks for; `kept_updatedUsers_iff`;
* `changeMembers_exchanges`: what is read, and what is written back;
* `membershipKept_iff`: the list that is written has the change, unless the id of a member is a number,
  or the user to be added is listed twice.
-/

namespace IdmMw

open Async

namespace ZabbixConnectorService

variable {js : Runtime} {userId : Json} {operation : String} {users : List Json}

/-! ### Lists of members -/

/-- The entry stands for the user: their ids have the same text. -/
def denotes (js : Runtime) (userId user : Json) : Bool :=
  (user.get? "userid").map (·.toText js.numberText) = some (userId.toText js.numberText)

/-- The ids of the interface are texts. -/
def AsReturned (users : List Json) : Prop :=
  ∀ user ∈ users, ∃ id, user.get? "userid" = some (.str id)

/-- A user id of a payload: a text or a number. -/
def IsId : Json → Prop
  | .str _ | .num _ => True
  | _ => False

/-- The changed list has the others as before, and the user once or not at all. -/
def Kept (js : Runtime) (operation : String) (userId : Json) (users changed : List Json) : Prop :=
  changed.filter (!denotes js userId ·) = users.filter (!denotes js userId ·) ∧
    changed.countP (denotes js userId) = if operation = "group.addMember" then 1 else 0

theorem denotes_userEntry : denotes js userId (userEntry userId) = true := by
  unfold denotes userEntry
  rw [Json.get?_obj, OrderedMap.lookup_cons_self]
  exact decide_eq_true rfl

/-- A text is compared as it should be, and a number with none. -/
theorem isUser_eq {user : Json} {id : String} (hid : user.get? "userid" = some (.str id))
    (huser : IsId userId) : isUser userId user =
      .ok ((userId matches .str _) && denotes js userId user) := by
  have hcompare : isUser userId user = .ok (strictlyEqual (.str id) userId) := by
    have hany : isUser userId user =
        .ok ((user.get? "userid").any fun id => strictlyEqual id userId) := by
      cases user with
      | null => cases hid
      | _ => rfl
    rw [hany, hid]
    rfl
  rw [hcompare]
  unfold denotes
  rw [hid]
  cases userId with
  | str text =>
    show Except.ok (decide (id = text)) = .ok (true && decide (some id = some text))
    simp
  | num n => rfl
  | _ => exact huser.elim

theorem someUser_eq {p : Json → Bool} (h : ∀ user ∈ users, isUser userId user = .ok (p user)) :
    someUser userId users = .ok (users.any p) := by
  induction users with
  | nil => rfl
  | cons user users ih =>
    have ih := ih fun user' hmem => h user' (List.mem_cons_of_mem _ hmem)
    unfold someUser
    rw [h user List.mem_cons_self, List.any_cons]
    cases hp : p user with
    | true => rfl
    | false => exact ih

theorem withoutUser_eq {p : Json → Bool} (h : ∀ user ∈ users, isUser userId user = .ok (p user)) :
    withoutUser userId users = .ok (users.filter (!p ·)) := by
  induction users with
  | nil => rfl
  | cons user users ih =>
    have ih := ih fun user' hmem => h user' (List.mem_cons_of_mem _ hmem)
    unfold withoutUser
    rw [h user List.mem_cons_self, ih, List.filter_cons]
    cases hp : p user <;> rfl

/-- The id is a text, or no member has it. -/
def Comparable (js : Runtime) (userId : Json) (users : List Json) : Prop :=
  (∃ text, userId = .str text) ∨ ∀ user ∈ users, denotes js userId user = false

/-- Members are compared as they should be; a user who is to be added is listed once at most. -/
def Consistent (js : Runtime) (operation : String) (userId : Json) (users : List Json) : Prop :=
  Comparable js userId users ∧
    (operation = "group.addMember" → users.countP (denotes js userId) ≤ 1)

theorem countP_eq_zero_iff : users.countP (denotes js userId) = 0 ↔
    ∀ user ∈ users, denotes js userId user = false := by
  rw [List.countP_eq_zero]
  simp

/-- With an entry for the user behind, the others are as before. -/
theorem kept_append_iff : Kept js "group.addMember" userId users (users ++ [userEntry userId]) ↔
    ∀ user ∈ users, denotes js userId user = false := by
  unfold Kept
  rw [← countP_eq_zero_iff, List.filter_append, List.countP_append, List.countP_singleton,
    List.filter_singleton, denotes_userEntry]
  simp

/-- Without the entries for the user, the others are as before. -/
theorem kept_filter (hremove : operation ≠ "group.addMember") :
    Kept js operation userId users (users.filter (!denotes js userId ·)) := by
  unfold Kept
  rw [if_neg hremove, List.filter_filter, countP_eq_zero_iff]
  refine ⟨by simp only [Bool.and_self], fun user hmem => ?_⟩
  simpa using (List.mem_filter.1 hmem).2

/-- The list that is written has the change exactly if members are compared as they should be. -/
theorem kept_updatedUsers_iff (husers : AsReturned users) (huser : IsId userId) :
    ∃ changed, updatedUsers operation users userId = .ok changed ∧
      (Kept js operation userId users changed ↔ Consistent js operation userId users) := by
  have hisUser : ∀ user ∈ users, isUser userId user =
      .ok ((userId matches .str _) && denotes js userId user) := by
    intro user hmem
    obtain ⟨id, hid⟩ := husers user hmem
    exact isUser_eq hid huser
  unfold updatedUsers Consistent Comparable
  by_cases hadd : operation = "group.addMember"
  · subst hadd
    rw [if_pos rfl, someUser_eq hisUser]
    cases userId with
    | str text =>
      by_cases hany : users.any (denotes js (.str text)) = true
      · refine ⟨users, by simp only [Bool.true_and]; rw [hany]; rfl, ?_⟩
        have hpos : 0 < users.countP (denotes js (.str text)) := by
          obtain ⟨user, hmem, hdenotes⟩ := List.any_eq_true.1 hany
          exact List.countP_pos_iff.2 ⟨user, hmem, hdenotes⟩
        show (_ ∧ users.countP (denotes js (.str text)) = 1) ↔ _
        simp
        omega
      · have hnone : ∀ user ∈ users, denotes js (.str text) user = false := by simpa using hany
        refine ⟨users ++ [userEntry (.str text)], by
          simp only [Bool.true_and]; rw [Bool.eq_false_iff.2 hany]; rfl, ?_⟩
        rw [kept_append_iff]
        refine iff_of_true hnone ⟨Or.inl ⟨text, rfl⟩, fun _ => ?_⟩
        rw [countP_eq_zero_iff.2 hnone]
        exact Nat.zero_le 1
    | num n =>
      have hany : (users.any fun _ => false) = false := List.any_eq_false.2 (by simp)
      refine ⟨users ++ [userEntry (.num n)], by simp only [Bool.false_and]; rw [hany]; rfl, ?_⟩
      rw [kept_append_iff]
      constructor
      · intro hnone
        refine ⟨Or.inr hnone, fun _ => ?_⟩
        rw [countP_eq_zero_iff.2 hnone]
        exact Nat.zero_le 1
      · rintro ⟨⟨text, htext⟩ | hnone, -⟩
        · cases htext
        · exact hnone
    | _ => exact huser.elim
  · rw [if_neg hadd, withoutUser_eq hisUser]
    refine ⟨_, rfl, ?_⟩
    cases userId with
    | str text =>
      simp only [Bool.true_and]
      exact iff_of_true (kept_filter hadd) ⟨Or.inl ⟨text, rfl⟩, fun h => absurd h hadd⟩
    | num n =>
      simp only [Bool.false_and]
      unfold Kept
      rw [if_neg hadd, countP_eq_zero_iff]
      simp [hadd]
    | _ => exact huser.elim

/-! ### What is read and written -/

variable {config data params groupId : Json} {auth : ZabbixAuth} {payload : ConnectorPayload}

/-- The list of members is asked for. -/
def readBody (groupId : Json) (auth : ZabbixAuth) : Json :=
  body "usergroup.get" (Properties.json
    [("usrgrpids", some (.arr [groupId])), ("selectUsers", texts ["userid"])]) (some auth)

/-- The changed list is written. -/
def writeBody (groupId : Json) (users : List Json) (auth : ZabbixAuth) : Json :=
  body "usergroup.update" (usersUpdate groupId users) (some auth)

/-- The list is read and written back. -/
theorem changeMembers_exchanges {response : Option Json}
    {es : List (Json × Except JsError Json)} :
    (∃ t, (changeMembers js operation config groupId userId auth).Runs t (.ok response) ∧
      exchanges t = es) ↔
      CanPost js config ∧ ∃ answer answer' result users changed, resultOf js answer = .ok result ∧
        groupUsers result = .ok users ∧ updatedUsers operation users userId = .ok changed ∧
        resultOf js answer' = .ok response ∧
        es = [(readBody groupId auth, .ok answer), (writeBody groupId changed auth, .ok answer')] := by
  unfold changeMembers getGroupUsers
  constructor
  · rintro ⟨t, h, rfl⟩
    obtain ⟨users, t₁, t₂, rfl, hread, hrest⟩ := runs_bind_ok.1 h
    obtain ⟨result, t₃, t₄, rfl, hcall, rfl, husers⟩ := runs_bind_ok.1 hread
    obtain ⟨changed, t₅, t₆, rfl, ⟨rfl, hchanged⟩, hwrite⟩ := runs_bind_ok.1 hrest
    obtain ⟨hcan, answer, hresult, hexchanges⟩ := call_exchanges.1 ⟨t₃, hcall, rfl⟩
    obtain ⟨-, answer', hresponse, hexchanges'⟩ := call_exchanges.1 ⟨t₆, hwrite, rfl⟩
    refine ⟨hcan, answer, answer', result, users, changed, hresult, husers.symm, hchanged.symm,
      hresponse, ?_⟩
    rw [exchanges_append, exchanges_append, exchanges_append, hexchanges, hexchanges']
    rfl
  · rintro ⟨hcan, answer, answer', result, users, changed, hresult, husers, hchanged, hresponse, rfl⟩
    obtain ⟨t, hcall, hexchanges⟩ := call_exchanges.2 ⟨hcan, answer, hresult, rfl⟩
    obtain ⟨t', hcall', hexchanges'⟩ := call_exchanges.2 ⟨hcan, answer', hresponse, rfl⟩
    refine ⟨t ++ t', runs_bind_ok.2 ⟨users, t, t', rfl, runs_bind_ok.2
      ⟨result, t, [], by simp, hcall, rfl, husers.symm⟩, runs_bind_ok.2
        ⟨changed, [], t', rfl, ⟨rfl, hchanged.symm⟩, hcall'⟩⟩, ?_⟩
    rw [exchanges_append, hexchanges, hexchanges']
    rfl

/-- The configuration lets the connector call the interface, and the payload names a group and a
user. -/
structure Reaches (js : Runtime) (payload : ConnectorPayload) (groupId userId : Json) : Prop where
  canCall : CanCall js (configOf payload)
  isMember : isMemberOperation payload.operation = true
  group : (memberGroup payload.data payload.params).filter Json.truthy = some groupId
  user : (memberUser payload.data payload.params).filter Json.truthy = some userId

/-- A successful operation on members reads the list and writes it back. -/
theorem member_exchanges (hmember : isMemberOperation payload.operation = true)
    {es : List (Json × Except JsError Json)} :
    (∃ t result, (execute js payload).Runs t (.ok result) ∧ result.success = true ∧
      exchanges t = es) ↔
      ∃ groupId userId, Reaches js payload groupId userId ∧ ∃ t auth answer answer' result response
        users changed, (resolveAuth js (configOf payload)).Runs t (.ok auth) ∧
        resultOf js answer = .ok result ∧ groupUsers result = .ok users ∧
        updatedUsers payload.operation users userId = .ok changed ∧
        resultOf js answer' = .ok response ∧
        es = exchanges t ++ [(readBody groupId auth, .ok answer),
          (writeBody groupId changed auth, .ok answer')] := by
  constructor
  · rintro ⟨t, result, hrun, hsuccess, rfl⟩
    obtain ⟨hurl, hperform⟩ := (execute_success hsuccess).1 hrun
    unfold perform at hperform
    rw [if_pos hmember] at hperform
    obtain ⟨auth, t₁, t₂, rfl, hauth, hrest⟩ := runs_bind_ok.1 hperform
    split at hrest
    · next groupId userId hgroup huser =>
      obtain ⟨response, t₃, t₄, rfl, hchange, rfl, -⟩ := runs_bind_ok.1 hrest
      obtain ⟨hcan, answer, answer', result', users, changed, hresult, husers, hchanged, hresponse,
        hexchanges⟩ := changeMembers_exchanges.1 ⟨t₃, hchange, rfl⟩
      refine ⟨groupId, userId, ⟨⟨hurl, hcan, exists_authenticates.1
        ⟨auth, (resolveAuth_runs.1 ⟨t₁, hauth⟩).1⟩⟩, hmember, hgroup, huser⟩, t₁, auth, answer,
        answer', result', response, users, changed, hauth, hresult, husers, hchanged, hresponse, ?_⟩
      rw [exchanges_append, exchanges_append, hexchanges]
      rfl
    · obtain rfl := Except.ok.inj hrest.2
      cases hsuccess
  · rintro ⟨groupId, userId, hreaches, t, auth, answer, answer', result, response, users, changed,
      hauth, hresult, husers, hchanged, hresponse, rfl⟩
    obtain ⟨t', hchange, hexchanges⟩ := changeMembers_exchanges.2 ⟨hreaches.canCall.tls, answer,
      answer', result, users, changed, hresult, husers, hchanged, hresponse, rfl⟩
    refine ⟨t ++ t', ⟨true, response, none⟩, (execute_success rfl).2
      ⟨hreaches.canCall.baseUrl, ?_⟩, rfl, by rw [exchanges_append, hexchanges]⟩
    unfold perform
    rw [if_pos hmember, hreaches.group, hreaches.user]
    exact runs_bind_ok.2 ⟨auth, t, t', rfl, hauth, runs_bind_ok.2
      ⟨response, t', [], by simp, hchange, rfl, rfl⟩⟩

/-! ### The claim of the operation -/

/-- The exchange lists the members. -/
def Lists (js : Runtime) (users : List Json) (exchange : Json × Except JsError Json) : Prop :=
  exchange.1.get? "method" = some (.str "usergroup.get") ∧
    ∃ answer result, exchange.2 = .ok answer ∧ resultOf js answer = .ok result ∧
      groupUsers result = .ok users

/-- The exchange writes the members. -/
def Writes (users : List Json) (exchange : Json × Except JsError Json) : Prop :=
  exchange.1.get? "method" = some (.str "usergroup.update") ∧
    ∃ params, exchange.1.get? "params" = some params ∧ params.get? "users" = some (.arr users)

/-- An operation on members, for a user whose id is a text or a number and a list as the interface
returns it. -/
structure MemberCase (payload : ConnectorPayload) (users : List Json) (userId : Json) : Prop where
  isMember : isMemberOperation payload.operation = true
  user : memberUser payload.data payload.params = some userId
  isId : IsId userId
  returned : AsReturned users

/-- Where the operation succeeds and the list has been returned, a list with the change is written,
and no other. -/
def MembershipKept (js : Runtime) (payload : ConnectorPayload) (users : List Json) : Prop :=
  ∀ userId, MemberCase payload users userId →
    ∀ t result, (execute js payload).Runs t (.ok result) → result.success = true →
      (∃ e ∈ exchanges t, Lists js users e) →
        (∃ e ∈ exchanges t, ∃ changed, Writes changed e) ∧
          ∀ e ∈ exchanges t, ∀ changed, Writes changed e →
            Kept js payload.operation userId users changed

theorem method_unique {value : Option Json} {method method' : String}
    (h : value = some (.str method)) (h' : value = some (.str method')) : method = method' :=
  Json.str.inj (Option.some.inj (h.symm.trans h'))

/-- Before the list is asked for there is a login at most. -/
theorem login_exchanges {t : List (Event ZabbixAns)}
    (h : (resolveAuth js config).Runs t (.ok auth)) :
    ∀ e ∈ exchanges t, e.1.get? "method" = some (.str "user.login") := by
  intro e he
  have hlogin := forall_posted ((resolveAuth_issues (Q := (· = loginBody config))).2
    fun _ _ => rfl) h e.1 (List.mem_map_of_mem he)
  rw [hlogin]
  exact body_method

/-- Where the connector can call the interface, the list that it writes is seen. -/
theorem consistent_of_kept (h : MembershipKept js payload users)
    (hcase : MemberCase payload users userId) (hreaches : Reaches js payload groupId userId) :
    Consistent js payload.operation userId users := by
  obtain ⟨changed, hchanged, hkept⟩ :=
    @kept_updatedUsers_iff js _ payload.operation _ hcase.returned hcase.isId
  obtain ⟨auth, hauth⟩ := exists_authenticates.2 hreaches.canCall.credentials
  obtain ⟨t, hlogin⟩ := resolveAuth_runs.2 ⟨hauth, fun _ => hreaches.canCall.tls⟩
  have hresult : resultOf js (.obj [("result", .arr [.obj [("users", .arr users)]])]) =
      .ok (some (.arr [.obj [("users", .arr users)]])) := rfl
  have husers : groupUsers (some (.arr [.obj [("users", .arr users)]])) = .ok users := rfl
  obtain ⟨t', result, hrun, hsuccess, hexchanges⟩ := (member_exchanges hcase.isMember).2
    ⟨groupId, userId, hreaches, t, auth, _, .obj [], _, none, users, changed, hlogin, hresult, husers,
      hchanged, rfl, rfl⟩
  refine hkept.1 ((h userId hcase t' result hrun hsuccess ⟨(readBody groupId auth, _), ?_,
    body_method, _, _, rfl, hresult, husers⟩).2 (writeBody groupId changed auth, .ok (.obj [])) ?_
      changed ⟨body_method, _, body_params, rfl⟩)
  · rw [hexchanges]
    exact List.mem_append_right _ List.mem_cons_self
  · rw [hexchanges]
    exact List.mem_append_right _ (List.mem_cons_of_mem _ List.mem_cons_self)

/-- The list that is written has the change exactly if the id of the user is a text or that of no
member, and a user who is to be added is listed once at most. -/
theorem membershipKept_iff (js : Runtime) (payload : ConnectorPayload) (users : List Json) :
    MembershipKept js payload users ↔
      ∀ groupId userId, MemberCase payload users userId → Reaches js payload groupId userId →
        Consistent js payload.operation userId users := by
  constructor
  · exact fun h groupId userId hcase hreaches => consistent_of_kept h hcase hreaches
  · intro h userId hcase t result hrun hsuccess ⟨listing, hlisting, hmethod, hlists⟩
    obtain ⟨groupId, userId', hreaches, t', auth, answer, answer', result', response, users', changed,
      hlogin, hresult, husers, hchanged, -, hexchanges⟩ :=
        (member_exchanges hcase.isMember).1 ⟨t, result, hrun, hsuccess, rfl⟩
    obtain rfl : userId = userId' := by
      have huser := hreaches.user
      rw [hcase.user] at huser
      exact Option.some.inj ((Option.filter_eq_some_iff.1 huser).1)
    have hlogins := login_exchanges hlogin
    rw [hexchanges, List.mem_append, List.mem_cons, List.mem_singleton] at hlisting
    -- the list is the one that has been asked for
    obtain rfl : users = users' := by
      rcases hlisting with hlisting | rfl | rfl
      · exact absurd (method_unique hmethod (hlogins _ hlisting)) (by decide)
      · obtain ⟨answer'', result'', hanswer, hresult', husers'⟩ := hlists
        obtain rfl := Except.ok.inj hanswer
        obtain rfl := Except.ok.inj (hresult.symm.trans hresult')
        exact Except.ok.inj (husers'.symm.trans husers)
      · exact absurd (method_unique hmethod body_method) (by decide)
    obtain ⟨changed', hchanged', hkept⟩ :=
      @kept_updatedUsers_iff js _ payload.operation _ hcase.returned hcase.isId
    obtain rfl := Except.ok.inj (hchanged.symm.trans hchanged')
    have hkept := hkept.2 (h groupId userId hcase hreaches)
    rw [hexchanges]
    refine ⟨⟨(writeBody groupId changed auth, .ok answer'), by simp, changed, body_method, _,
      body_params, rfl⟩, fun e he changed' hwrites => ?_⟩
    rw [List.mem_append, List.mem_cons, List.mem_singleton] at he
    rcases he with he | rfl | rfl
    · exact absurd (method_unique hwrites.1 (hlogins _ he)) (by decide)
    · exact absurd (method_unique hwrites.1 body_method) (by decide)
    · obtain ⟨-, params, hparams, hwritten⟩ := hwrites
      obtain rfl := Option.some.inj (hparams.symm.trans body_params)
      obtain rfl := Json.arr.inj (Option.some.inj (hwritten.symm.trans
        (rfl : (usersUpdate groupId changed).get? "users" = some (.arr changed))))
      exact hkept

/-- A user is removed whose id is a number. -/
def numberedRevocation : ConnectorPayload where
  operation := "group.removeMember"
  targetSystem := "zabbix"
  payload := .obj [
    ("config", .obj [("baseUrl", .str "https://zabbix"), ("apiToken", .str "token")]),
    ("params", .obj [("groupId", .str "7"), ("userId", .num 5)])]

/-- The user stays a member. -/
theorem not_membershipKept_numberedRevocation :
    ¬ MembershipKept Runtime.ascii numberedRevocation [.obj [("userid", .str "5")]] := by
  intro h
  have hreturned : AsReturned [.obj [("userid", .str "5")]] := by
    intro user hmem
    obtain rfl := List.mem_singleton.1 hmem
    exact ⟨"5", rfl⟩
  have htls : CanPost Runtime.ascii (configOf numberedRevocation) := fun hon => absurd hon (by decide)
  have hcase : MemberCase numberedRevocation [.obj [("userid", .str "5")]] (.num 5) :=
    ⟨by decide, rfl, trivial, hreturned⟩
  have hreaches : Reaches Runtime.ascii numberedRevocation (.str "7") (.num 5) :=
    ⟨⟨by decide, htls, Or.inl (by decide)⟩, by decide, rfl, rfl⟩
  obtain ⟨⟨text, htext⟩ | hnone, -⟩ := consistent_of_kept h hcase hreaches
  · cases htext
  · exact absurd (hnone _ List.mem_cons_self) (by decide)

end ZabbixConnectorService

end IdmMw
