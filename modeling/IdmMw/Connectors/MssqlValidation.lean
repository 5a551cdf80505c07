import IdmMw.Library.Rejection
import IdmMw.Model.MssqlLogin
import Mathlib.Data.List.DropRight

/-!
# What is validated before a login is made or changed

An operation that the connector itself rejects should have sent no statement (`ValidatesFirst`).

* `NoticedLate`: a login is made or changed, and what is wrong with the roles or the permissions is
  noticed only after a statement;
* `validatesFirst_iff`: nothing else is noticed too late.
-/

namespace IdmMw

open Async

namespace MssqlLoginConnectorService

variable {js : Runtime} {payload : ConnectorPayload} {config data params : Json}

/-! ### The law -/

def IsStatement : MssqlReq → Prop
  | .query _ => True
  | _ => False

/-- Neither the connection nor a statement failed. -/
def Succeeded (e : Async.Event MssqlAns) : Prop :=
  match e with
  | ⟨.connect _, a⟩ => a.isOk = true
  | ⟨.query _, a⟩ => a.isOk = true
  | ⟨.close, a⟩ => a.isOk = true

/-- An operation that fails although nothing failed that was asked for has sent no statement. -/
def ValidatesFirst (js : Runtime) (payload : ConnectorPayload) : Prop :=
  ∀ t result, (execute js payload).Runs t (.ok result) → result.success = false →
    (∀ v ∈ t, Succeeded v) → ∀ v ∈ t, ¬ IsStatement v.req

/-- The roles or the permissions are rejected. -/
def RejectsGrants (js : Runtime) (config data : Json) (includeDefaults : Bool) : Prop :=
  (roles js config data includeDefaults).isOk = false ∨
    (permissions js config data includeDefaults).isOk = false

/-- A login is made, and its roles or permissions are rejected. -/
def CreatesThenRejects (js : Runtime) (config data : Json) : Prop :=
  (login js data (.obj []) config).isOk = true ∧ (password data true).isOk = true ∧
    (database config data).isOk = true ∧ RejectsGrants js config data true

/-- A login is enabled or disabled, and then roles or permissions are rejected, or it gets roles, and
then permissions are rejected. -/
def UpdatesThenRejects (js : Runtime) (config data params : Json) : Prop :=
  (login js data params config).isOk = true ∧ (database config data).isOk = true ∧
    ((enabledFlag data).isSome = true ∧ RejectsGrants js config data false ∨
      ∃ role others, roles js config data false = .ok (role :: others) ∧
        (permissions js config data false).isOk = false)

/-- The configuration, if it is one with which the connector connects. -/
def connectingConfig (payload : ConnectorPayload) : Option Json :=
  payload.config.filter fun config => isTruthy (config.get? "connectionString")

/-- Something is noticed when a statement has been sent already. -/
def NoticedLate (js : Runtime) (payload : ConnectorPayload) : Prop :=
  ∃ config, connectingConfig payload = some config ∧
    (payload.operation = "user.create" ∧ CreatesThenRejects js config payload.data ∨
      payload.operation = "user.update" ∧
        UpdatesThenRejects js config payload.data payload.params)

/-! ### Programs over statements -/

section Programs

variable {α β : Type} {f : α → MssqlProg β}

theorem exists_succeeded (r : MssqlReq) : ∃ a, Succeeded ⟨r, a⟩ := by
  cases r with
  | connect config => exact ⟨.ok (), rfl⟩
  | query statement => exact ⟨.ok [], rfl⟩
  | close => exact ⟨.ok (), rfl⟩

theorem neverFails_query (statement : MssqlStatement) :
    NeverFails Succeeded (query statement) := neverFails_request fun _ ha => ha

theorem neverFails_exec (statement : MssqlStatement) : NeverFails Succeeded (exec statement) :=
  (neverFails_query statement).bind fun _ => neverFails_pure ()

theorem effective_exec (statement : MssqlStatement) :
    Effective IsStatement Succeeded (exec statement) :=
  Effective.bind (effective_request trivial)

theorem neverFails_forEach {step : α → MssqlProg Unit} {items : List α}
    (h : ∀ item ∈ items, NeverFails Succeeded (step item)) :
    NeverFails Succeeded (forEach step items) := by
  induction items with
  | nil => exact neverFails_pure ()
  | cons item items ih =>
    exact (h item List.mem_cons_self).bind fun _ =>
      ih fun item hitem => h item (List.mem_cons_of_mem _ hitem)

theorem neverFails_setEnabled (login : String) (enabled : Option Bool) :
    NeverFails Succeeded (setEnabled login enabled) := by
  cases enabled with
  | none => exact neverFails_pure ()
  | some enabled => exact neverFails_exec _

/-- A statement, and what follows it cannot fail. -/
theorem failsFirst_exec {f : Unit → MssqlProg β} (statement : MssqlStatement)
    (h : ∀ u, NeverFails Succeeded (f u)) :
    FailsFirst IsStatement Succeeded (exec statement >>= f) :=
  (neverFails_exec statement).then_failsFirst h

theorem failsFirst_query {f : List Json → MssqlProg β} (statement : MssqlStatement)
    (h : ∀ records, NeverFails Succeeded (f records)) :
    FailsFirst IsStatement Succeeded (query statement >>= f) :=
  (neverFails_query statement).then_failsFirst h

end Programs

/-! ### Scopes -/

/-- A text that was read is read as it is. -/
theorem firstString_idem {value : Option Json} {text : String}
    (h : firstString [value] = some text) : firstString [some (.str text)] = some text := by
  have hvalue : stringValue value = some text := by simpa [firstString] using h
  have hread : nonBlank text = some text := by
    unfold stringValue at hvalue
    split at hvalue
    · next raw =>
      unfold nonBlank at hvalue ⊢
      split at hvalue
      · cases hvalue
      · next hblank =>
        obtain rfl := Option.some.inj hvalue
        have htrimmed : trimmed (trim raw) = trimmed raw := by
          unfold trim
          rw [trimmed, String.toList_ofList]
          exact trimChars_idem raw.toList
        rw [htrimmed, if_neg hblank, trim, htrimmed]
        rfl
    · cases hvalue
  simpa [firstString, stringValue] using hread

/-- The scope is what was read. -/
theorem permissionScopeValue_eq {value : Option Json} {scope : String}
    (h : permissionScopeValue value = .ok scope) :
    (firstString [value]).getD "DATABASE" = scope := by
  unfold permissionScopeValue at h
  dsimp only at h
  split at h
  · exact Except.ok.inj h
  · split at h
    · obtain ⟨_, -, h⟩ := bind_eq_ok.1 h
      exact Except.ok.inj h
    · split at h
      · split at h
        · cases h
        · obtain ⟨_, -, h⟩ := bind_eq_ok.1 h
          exact Except.ok.inj h
      · cases h

theorem scope_idem {value : Option Json} {scope : String}
    (h : (firstString [value]).getD "DATABASE" = scope) :
    (firstString [some (.str scope)]).getD "DATABASE" = scope := by
  cases hread : firstString [value] with
  | none =>
    rw [hread] at h
    subst h
    decide
  | some text =>
    rw [hread] at h
    obtain rfl : text = scope := h
    rw [firstString_idem hread]
    rfl

/-- A scope that was validated is valid. -/
theorem permissionScopeValue_idem {value : Option Json} {scope : String}
    (h : permissionScopeValue value = .ok scope) :
    permissionScopeValue (some (.str scope)) = .ok scope := by
  have hscope := permissionScopeValue_eq h
  have hsame := scope_idem hscope
  unfold permissionScopeValue at h ⊢
  rw [hsame]
  rw [hscope] at h
  exact h

/-- What it is for is then known. -/
theorem permissionScope_isOk {value : Option Json} {scope : String}
    (h : permissionScopeValue value = .ok scope) (database : String) :
    (permissionScope scope database).isOk = true := by
  have hvalid := permissionScopeValue_idem h
  have hscope := permissionScopeValue_eq hvalid
  unfold permissionScope
  rw [hvalid]
  show (if scope = "DATABASE" then _ else _ : Except JsError MssqlTarget).isOk = true
  unfold permissionScopeValue at hvalid
  rw [hscope] at hvalid
  dsimp only at hvalid
  split
  · rfl
  · next hne =>
    rw [if_neg hne] at hvalid
    split at hvalid
    · rfl
    · split at hvalid
      · next objectName hobject =>
        have hdrop : objectName = scope.toList.drop "OBJECT::".length :=
          (SqlAccounts.drop_of_afterPrefix hobject).symm
        rw [hdrop] at hvalid
        split at hvalid
        · cases hvalid
        · next hlength =>
          rcases hnames : objectNames (scope.toList.drop "OBJECT::".length) with
            _ | ⟨schemaName, _ | ⟨name, rest⟩⟩
          · simp [hnames] at hlength
          · simp [hnames] at hlength
          · rfl
      · cases hvalid

theorem scope_of_normalizedPermission {item : Json} {permission : NormalizedMssqlPermission}
    (h : normalizedPermission js item = .ok permission) :
    permissionScopeValue (item.get? "scope") = .ok permission.scope := by
  unfold normalizedPermission at h
  split at h
  · obtain ⟨action, -, h⟩ := bind_eq_ok.1 h
    obtain ⟨name, -, h⟩ := bind_eq_ok.1 h
    obtain ⟨scope, hscope, h⟩ := bind_eq_ok.1 h
    obtain rfl := Except.ok.inj h
    exact hscope
  · cases h

/-- A permission that was validated is applied. -/
theorem neverFails_applyPermission {includeDefaults : Bool}
    {permissions : List NormalizedMssqlPermission}
    (h : MssqlLoginConnectorService.permissions js config data includeDefaults = .ok permissions)
    (database login : String) :
    ∀ permission ∈ permissions, NeverFails Succeeded (applyPermission database login permission) := by
  intro permission hpermission
  unfold MssqlLoginConnectorService.permissions at h
  obtain ⟨requested, -, h⟩ := bind_eq_ok.1 h
  obtain ⟨item, -, hitem⟩ := mem_of_mapM h permission hpermission
  exact neverFails_check (permissionScope_isOk (scope_of_normalizedPermission hitem) database)
    fun _ _ => neverFails_exec _

/-! ### A login is made or changed -/

/-- What follows when a new login has its user. -/
def grantNew (js : Runtime) (config data : Json) (login database : String) (enabled : Bool) :
    MssqlProg Json := do
  let roles ← Async.ofExcept (roles js config data true)
  forEach (fun role => exec (.alterRole database role true login)) roles
  let permissions ← Async.ofExcept (permissions js config data true)
  forEach (applyPermission database login) permissions
  if !enabled then exec (.alterLogin login false)
  Pure.pure (loginResult login database [("enabled", .bool enabled)])

/-- What follows when a login is enabled or disabled, where it is. -/
def grantChanged (js : Runtime) (config data : Json) (login database : String) :
    MssqlProg Json := do
  let roles ← Async.ofExcept (roles js config data false)
  forEach (fun role => exec (.alterRole database role true login)) roles
  let permissions ← Async.ofExcept (permissions js config data false)
  forEach (applyPermission database login) permissions
  Pure.pure (loginResult login database [("changed",
    .bool ((enabledFlag data).isSome || !roles.isEmpty || !permissions.isEmpty))])

theorem createLogin_eq (js : Runtime) (config data : Json) :
    createLogin js config data =
      Async.ofExcept (login js data (.obj []) config) >>= fun login =>
      Async.ofExcept (password data true) >>= fun password =>
      Async.ofExcept (database config data) >>= fun database =>
      exec (.createLogin login password) >>= fun _ =>
      exec (.createUser database login) >>= fun _ =>
      grantNew js config data login database
        (!(data.get? "enabled" matches some (.bool false))) := rfl

theorem updateLogin_eq (js : Runtime) (config data params : Json) :
    updateLogin js config data params =
      Async.ofExcept (login js data params config) >>= fun login =>
      Async.ofExcept (database config data) >>= fun database =>
      setEnabled login (enabledFlag data) >>= fun _ => grantChanged js config data login database :=
  rfl

theorem rejectsGrants_cases {includeDefaults : Bool} :
    (∃ e, roles js config data includeDefaults = .error e) ∨
    (∃ roles' e, roles js config data includeDefaults = .ok roles' ∧
      permissions js config data includeDefaults = .error e) ∨
    ∃ roles' permissions', roles js config data includeDefaults = .ok roles' ∧
      permissions js config data includeDefaults = .ok permissions' := by
  cases roles js config data includeDefaults with
  | error e => exact .inl ⟨e, rfl⟩
  | ok roles' =>
    cases permissions js config data includeDefaults with
    | error e => exact .inr (.inl ⟨roles', e, rfl, rfl⟩)
    | ok permissions' => exact .inr (.inr ⟨roles', permissions', rfl, rfl⟩)

theorem neverFails_grantNew {login database : String} {enabled : Bool} {roles' : List String}
    {permissions' : List NormalizedMssqlPermission} (hroles : roles js config data true = .ok roles')
    (hpermissions : permissions js config data true = .ok permissions') :
    NeverFails Succeeded (grantNew js config data login database enabled) := by
  unfold grantNew
  refine neverFails_check (by rw [hroles]; rfl) fun _ _ =>
    (neverFails_forEach fun _ _ => neverFails_exec _).bind fun _ =>
      neverFails_check (by rw [hpermissions]; rfl) fun given hgiven =>
        (neverFails_forEach (neverFails_applyPermission hgiven database login)).bind fun _ => ?_
  cases enabled with
  | true => exact neverFails_pure _
  | false => exact (neverFails_exec _).bind fun _ => neverFails_pure _

theorem neverFails_grantChanged {login database : String} {roles' : List String}
    {permissions' : List NormalizedMssqlPermission}
    (hroles : roles js config data false = .ok roles')
    (hpermissions : permissions js config data false = .ok permissions') :
    NeverFails Succeeded (grantChanged js config data login database) := by
  unfold grantChanged
  exact neverFails_check (by rw [hroles]; rfl) fun _ _ =>
    (neverFails_forEach fun _ _ => neverFails_exec _).bind fun _ =>
      neverFails_check (by rw [hpermissions]; rfl) fun given hgiven =>
        (neverFails_forEach (neverFails_applyPermission hgiven database login)).bind fun _ =>
          neverFails_pure _

theorem mayFail_grantNew {login database : String} {enabled : Bool}
    (h : RejectsGrants js config data true) :
    Async.MayFail Succeeded (grantNew js config data login database enabled) := by
  unfold grantNew
  rcases rejectsGrants_cases with ⟨e, hroles⟩ | ⟨roles', e, hroles, hpermissions⟩ |
    ⟨roles', permissions', hroles, hpermissions⟩
  · exact mayFail_check_error hroles
  · exact mayFail_check hroles ((neverFails_forEach fun _ _ => neverFails_exec _).then_mayFail
      exists_succeeded fun _ => mayFail_check_error hpermissions)
  · exfalso
    unfold RejectsGrants at h
    rw [hroles, hpermissions] at h
    rcases h with h | h <;> cases h

theorem mayFail_grantChanged {login database : String} (h : RejectsGrants js config data false) :
    Async.MayFail Succeeded (grantChanged js config data login database) := by
  unfold grantChanged
  rcases rejectsGrants_cases with ⟨e, hroles⟩ | ⟨roles', e, hroles, hpermissions⟩ |
    ⟨roles', permissions', hroles, hpermissions⟩
  · exact mayFail_check_error hroles
  · exact mayFail_check hroles ((neverFails_forEach fun _ _ => neverFails_exec _).then_mayFail
      exists_succeeded fun _ => mayFail_check_error hpermissions)
  · exfalso
    unfold RejectsGrants at h
    rw [hroles, hpermissions] at h
    rcases h with h | h <;> cases h

theorem ok_of_not_rejectsGrants {includeDefaults : Bool}
    (h : ¬ RejectsGrants js config data includeDefaults) :
    ∃ roles' permissions', roles js config data includeDefaults = .ok roles' ∧
      permissions js config data includeDefaults = .ok permissions' := by
  rcases rejectsGrants_cases with ⟨e, hroles⟩ | ⟨roles', e, -, hpermissions⟩ | hok
  · exact absurd (.inl (by rw [hroles]; rfl)) h
  · exact absurd (.inr (by rw [hpermissions]; rfl)) h
  · exact hok

/-- A new login is rejected first unless its roles or permissions are noticed late. -/
theorem failsFirst_createLogin (js : Runtime) (config data : Json) :
    FailsFirst IsStatement Succeeded (createLogin js config data) ↔
      ¬ CreatesThenRejects js config data := by
  constructor
  · rintro hfirst ⟨hlogin, hpassword, hdatabase, hgrants⟩
    obtain ⟨login, hlogin⟩ := exists_of_isOk hlogin
    obtain ⟨password, hpassword⟩ := exists_of_isOk hpassword
    obtain ⟨database, hdatabase⟩ := exists_of_isOk hdatabase
    refine failsFirst_iff.1 hfirst ?_
    rw [createLogin_eq]
    refine failsLate_check hlogin (failsLate_check hpassword (failsLate_check hdatabase ?_))
    exact (neverFails_exec _).then_failsLate exists_succeeded (effective_exec _) fun _ =>
      (neverFails_exec _).then_mayFail exists_succeeded fun _ => mayFail_grantNew hgrants
  · intro h
    rw [createLogin_eq]
    refine failsFirst_check fun login hlogin => failsFirst_check fun password hpassword =>
      failsFirst_check fun database hdatabase => ?_
    have hgrants : ¬ RejectsGrants js config data true := fun hgrants =>
      h ⟨by rw [hlogin]; rfl, by rw [hpassword]; rfl, by rw [hdatabase]; rfl, hgrants⟩
    obtain ⟨roles', permissions', hroles, hpermissions⟩ := ok_of_not_rejectsGrants hgrants
    exact failsFirst_exec _ fun _ => (neverFails_exec _).bind fun _ =>
      neverFails_grantNew hroles hpermissions

/-- Where a login is not enabled or disabled, its roles are read first. -/
theorem failsFirst_grantChanged (js : Runtime) (config data : Json) (login database : String) :
    FailsFirst IsStatement Succeeded (grantChanged js config data login database) ↔
      ¬ ∃ role others, roles js config data false = .ok (role :: others) ∧
        (permissions js config data false).isOk = false := by
  unfold grantChanged
  constructor
  · rintro hfirst ⟨role, others, hroles, hpermissions⟩
    have herror : ∃ e, permissions js config data false = .error e := by
      cases hx : permissions js config data false with
      | error e => exact ⟨e, rfl⟩
      | ok permissions' =>
        rw [hx] at hpermissions
        cases hpermissions
    obtain ⟨e, herror⟩ := herror
    refine failsFirst_iff.1 hfirst (failsLate_check hroles ?_)
    exact (neverFails_forEach fun _ _ => neverFails_exec _).then_failsLate exists_succeeded
      (Effective.bind (effective_exec _)) fun _ => mayFail_check_error herror
  · intro h
    refine failsFirst_check fun roles' hroles => ?_
    cases roles' with
    | nil =>
      show FailsFirst IsStatement Succeeded
        (Async.ofExcept (permissions js config data false) >>= _)
      refine failsFirst_check fun permissions' hpermissions => ?_
      exact (neverFails_forEach (neverFails_applyPermission hpermissions database
        login)).then_failsFirst fun _ => neverFails_pure _
    | cons role others =>
      cases hpermissions : permissions js config data false with
      | error e => exact absurd ⟨role, others, hroles, by rw [hpermissions]; rfl⟩ h
      | ok permissions' =>
        refine (neverFails_forEach fun _ _ => neverFails_exec _).then_failsFirst fun _ => ?_
        exact (neverFails_forEach (neverFails_applyPermission hpermissions database login)).bind
          fun _ => neverFails_pure _

/-- A changed login is rejected first unless its roles or permissions are noticed late. -/
theorem failsFirst_updateLogin (js : Runtime) (config data params : Json) :
    FailsFirst IsStatement Succeeded (updateLogin js config data params) ↔
      ¬ UpdatesThenRejects js config data params := by
  rw [updateLogin_eq]
  cases hlogin : login js data params config with
  | error e =>
    refine iff_of_true (failsFirst_settle (.error e)) fun h => ?_
    have := h.1
    rw [hlogin] at this
    cases this
  | ok account =>
    cases hdatabase : database config data with
    | error e =>
      refine iff_of_true (failsFirst_settle (.error e)) fun h => ?_
      have := h.2.1
      rw [hdatabase] at this
      cases this
    | ok name =>
      have hlate : UpdatesThenRejects js config data params ↔
          (enabledFlag data).isSome = true ∧ RejectsGrants js config data false ∨
            ∃ role others, roles js config data false = .ok (role :: others) ∧
              (permissions js config data false).isOk = false := by
        unfold UpdatesThenRejects
        rw [hlogin, hdatabase]
        exact ⟨fun h => h.2.2, fun h => ⟨rfl, rfl, h⟩⟩
      rw [hlate]
      show FailsFirst IsStatement Succeeded
        (setEnabled account (enabledFlag data) >>= fun _ =>
          grantChanged js config data account name) ↔ _
      cases hflag : enabledFlag data with
      | none =>
        refine (failsFirst_grantChanged js config data account name).trans ?_
        simp
      | some enabled =>
        constructor
        · intro hfirst hcases
          have hgrants : RejectsGrants js config data false := by
            rcases hcases with ⟨-, hgrants⟩ | ⟨_, _, -, hpermissions⟩
            · exact hgrants
            · exact .inr hpermissions
          exact failsFirst_iff.1 hfirst ((neverFails_exec _).then_failsLate exists_succeeded
            (effective_exec _) fun _ => mayFail_grantChanged hgrants)
        · intro h
          obtain ⟨roles', permissions', hroles, hpermissions⟩ :=
            ok_of_not_rejectsGrants fun hgrants => h (.inl ⟨rfl, hgrants⟩)
          exact failsFirst_exec _ fun _ => neverFails_grantChanged hroles hpermissions

/-! ### The operations -/

theorem failsFirst_of_check {α : Type} {x : Except JsError α} {f : α → MssqlProg Json}
    (h : ∀ a, FailsFirst IsStatement Succeeded (f a)) :
    FailsFirst IsStatement Succeeded (Async.ofExcept x >>= f) := failsFirst_check fun a _ => h a

/-- The operations but for new and changed logins are rejected first. -/
theorem failsFirst_executeWithPool {operation : String} (hcreate : operation ≠ "user.create")
    (hupdate : operation ≠ "user.update") :
    FailsFirst IsStatement Succeeded (executeWithPool js operation config data params) := by
  have hexec : ∀ statement (result : Json), FailsFirst IsStatement Succeeded
      (exec statement >>= fun _ => (Pure.pure result : MssqlProg Json)) :=
    fun statement result => failsFirst_exec statement fun _ => neverFails_pure _
  have hquery : ∀ statement (result : List Json → Json), FailsFirst IsStatement Succeeded
      (query statement >>= fun records => (Pure.pure (result records) : MssqlProg Json)) :=
    fun statement result => failsFirst_query statement fun _ => neverFails_pure _
  have hdelete : FailsFirst IsStatement Succeeded (deleteLogin js config data params) := by
    refine failsFirst_of_check fun login => failsFirst_of_check fun database => ?_
    split
    · exact hexec _ _
    · exact failsFirst_exec _ fun _ => (neverFails_exec _).bind fun _ => neverFails_pure _
  have hdeleteRole : FailsFirst IsStatement Succeeded (deleteRole config data params) := by
    refine failsFirst_of_check fun role => failsFirst_of_check fun database => ?_
    split
    · exact failsFirst_settle _
    · exact hexec _ _
  have hmembership : ∀ add, FailsFirst IsStatement Succeeded
      (setRoleMembership js config data params add) := fun add =>
    failsFirst_of_check fun login => failsFirst_of_check fun role =>
      failsFirst_of_check fun database => hexec _ _
  have henabled : ∀ enabled, FailsFirst IsStatement Succeeded
      (setLoginEnabled js config data params enabled) :=
    fun enabled => failsFirst_of_check fun login => hexec _ _
  have hget : FailsFirst IsStatement Succeeded (getLogin js config data params) :=
    failsFirst_of_check fun login => hquery _ _
  have hsearch : FailsFirst IsStatement Succeeded (searchLogins js config data) :=
    failsFirst_of_check fun pre => hquery _ _
  unfold executeWithPool
  split
  · exact hquery _ _
  · exact failsFirst_settle _
  · exact absurd rfl hcreate
  · exact absurd rfl hupdate
  · exact hdelete
  · exact henabled _
  · exact henabled _
  · exact henabled _
  · exact henabled _
  · exact failsFirst_of_check fun login => failsFirst_of_check fun password => hexec _ _
  · exact hget
  · exact hget
  · exact hsearch
  · exact hsearch
  · exact hsearch
  · exact failsFirst_of_check fun role => failsFirst_of_check fun database => hexec _ _
  · exact failsFirst_of_check fun role => failsFirst_settle _
  · exact hdeleteRole
  · exact hmembership _
  · exact hmembership _
  · exact failsFirst_of_check fun role => failsFirst_of_check fun database => hquery _ _
  · exact failsFirst_of_check fun database => hquery _ _
  · exact failsFirst_settle _

/-- What `execute` makes of the outcome of an operation. -/
def outcomeResult (js : Runtime) (config data params : Json) :
    Except JsError Json → ConnectorResult :=
  reported (fun result => ⟨true, some result, none⟩) fun error =>
    ⟨false, none, some (js.safeConnectorErrorMessage error [some config, some data, some params])⟩

/-- Where all goes well with the connection, a run is one of the operation between connecting and
closing. -/
theorem execute_runs (hconfig : connectingConfig payload = some config)
    {t : List (Async.Event MssqlAns)} {result : ConnectorResult} :
    ((execute js payload).Runs t (.ok result) ∧ ∀ v ∈ t, Succeeded v) ↔ ∃ body outcome,
      t = ⟨.connect config, .ok ()⟩ :: (body ++ [⟨.close, .ok ()⟩]) ∧
      (executeWithPool js payload.operation config payload.data payload.params).Runs body outcome ∧
      (∀ v ∈ body, Succeeded v) ∧
      result = outcomeResult js config payload.data payload.params outcome := by
  have hexecute : execute js payload = await (.connect config) settle >>= fun _ =>
      ensuring (tryCatch (executeWithPool js payload.operation config payload.data payload.params >>=
        fun result => Pure.pure ⟨true, some result, none⟩) fun error =>
          Pure.pure ⟨false, none, some (js.safeConnectorErrorMessage error
            [some config, some payload.data, some payload.params])⟩) close := by
    unfold execute
    unfold connectingConfig at hconfig
    rw [hconfig]
  rw [hexecute]
  constructor
  · rintro ⟨hrun, ht⟩
    rcases runs_bind.1 hrun with ⟨e, h, -⟩ | ⟨u, t₁, t', rfl, hconnect, hrest⟩
    · cases h
    obtain ⟨a, rfl, rfl⟩ := runs_request.1 hconnect
    obtain ⟨body, t₂, attempted, last, rfl, hbody, hclose, hresult⟩ := runs_ensuring.1 hrest
    obtain ⟨_, rfl, rfl⟩ := runs_request.1 hclose
    obtain ⟨outcome, hattempted, rfl⟩ := runs_attempt.1 hbody
    have hclosed : Succeeded ⟨.close, last⟩ := ht _ (by simp)
    cases last with
    | error e => cases hclosed
    | ok u' =>
      exact ⟨body, outcome, rfl, hattempted, fun v hv => ht v (by simp [hv]),
        Except.ok.inj hresult⟩
  · rintro ⟨body, outcome, rfl, hbody, hgood, rfl⟩
    refine ⟨runs_bind.2 (Or.inr ⟨(), [⟨.connect config, .ok ()⟩], _, rfl,
      runs_request.2 ⟨.ok (), rfl, rfl⟩, runs_ensuring.2 ⟨body, _, _, .ok (), rfl,
        runs_attempt.2 ⟨outcome, hbody, rfl⟩, runs_request.2 ⟨.ok (), rfl, rfl⟩, rfl⟩⟩), ?_⟩
    intro v hv
    simp only [List.mem_cons, List.mem_append, List.not_mem_nil, or_false] at hv
    rcases hv with rfl | hv | rfl
    · rfl
    · exact hgood v hv
    · rfl

/-- An operation validates first if it fails first. -/
theorem validatesFirst_iff_failsFirst (hconfig : connectingConfig payload = some config) :
    ValidatesFirst js payload ↔ FailsFirst IsStatement Succeeded
      (executeWithPool js payload.operation config payload.data payload.params) := by
  constructor
  · intro h t e hrun ht v hv
    have hexecuted := (execute_runs hconfig).2 ⟨t, .error e, rfl, hrun, ht, rfl⟩
    exact h _ _ hexecuted.1 rfl hexecuted.2 v (by simp [hv])
  · intro h t result hrun hfailed ht v hv
    obtain ⟨body, outcome, rfl, hbody, hgood, rfl⟩ := (execute_runs hconfig).1 ⟨hrun, ht⟩
    cases outcome with
    | ok result => cases hfailed
    | error e =>
      simp only [List.mem_cons, List.mem_append, List.not_mem_nil, or_false] at hv
      rcases hv with rfl | hv | rfl
      · exact id
      · exact h body e hbody hgood v hv
      · exact id

/-- An operation that the connector rejects has sent no statement, but for a login that is made or
changed with roles or permissions that are rejected. -/
theorem validatesFirst_iff (js : Runtime) (payload : ConnectorPayload) :
    ValidatesFirst js payload ↔ ¬ NoticedLate js payload := by
  cases hconfig : connectingConfig payload with
  | none =>
    refine iff_of_true ?_ fun ⟨config, h, _⟩ => ?_
    · intro t result hrun _ _ v hv
      unfold execute at hrun
      unfold connectingConfig at hconfig
      rw [hconfig] at hrun
      obtain ⟨rfl, -⟩ := hrun
      cases hv
    · rw [hconfig] at h
      cases h
  | some config =>
    rw [validatesFirst_iff_failsFirst hconfig]
    have hlate : NoticedLate js payload ↔
        payload.operation = "user.create" ∧ CreatesThenRejects js config payload.data ∨
        payload.operation = "user.update" ∧
          UpdatesThenRejects js config payload.data payload.params := by
      unfold NoticedLate
      rw [hconfig]
      simp
    rw [hlate]
    by_cases hcreate : payload.operation = "user.create"
    · rw [hcreate]
      refine (failsFirst_createLogin js config payload.data).trans ?_
      simp
    · by_cases hupdate : payload.operation = "user.update"
      · rw [hupdate]
        refine (failsFirst_updateLogin js config payload.data payload.params).trans ?_
        simp
      · refine iff_of_true (failsFirst_executeWithPool hcreate hupdate) ?_
        simp [hcreate, hupdate]

/-- A payload of an operation for the login `alice`. -/
def rolePayload (role : Json) : ConnectorPayload where
  operation := "user.create"
  targetSystem := "mssql"
  payload := .obj [("config", .obj [("connectionString", .str "Server=db")]),
    ("data", .obj [("login", .str "alice"), ("password", .str "secret"), ("roles", .arr [role])])]

/-- The login is made, and then its role is rejected. -/
theorem login_made_then_rejected : ¬ ∀ payload, ValidatesFirst .ascii payload := by
  intro h
  have hconfig : connectingConfig (rolePayload (.str "db owner")) =
      some (.obj [("connectionString", .str "Server=db")]) := rfl
  have hfirst := (validatesFirst_iff_failsFirst hconfig).1 (h (rolePayload (.str "db owner")))
  refine (failsFirst_createLogin _ _ _).1 hfirst ⟨?_, ?_, ?_, ?_⟩
  · decide
  · decide
  · decide
  · exact .inl (by decide)

end MssqlLoginConnectorService

end IdmMw
