import IdmMw.Library.Split
import IdmMw.Model.PostgresRole

/-!
# The statements of the PostgreSQL connector

Where the values of a statement come from.

* `PostgresTarget.scope`: the scope that says what a privilege is for; `permissionScope_spec`;
* `Sent`: the statements that an operation may send, with the checks that their values have passed;
* `execute_sends`: no operation sends others.
-/

namespace IdmMw

open Async

namespace PostgresRoleConnectorService

variable {js : Runtime} {payload : ConnectorPayload} {config data params : Json}
  {operation : String}

/-! ### Permissions -/

/-- The scope that says what a privilege is for. -/
def PostgresTarget.scope : PostgresTarget → String
  | database _ => "DATABASE"
  | schema name => "SCHEMA::" ++ name
  | object kind schemaName objectName =>
    kind.keyword ++ "::" ++ schemaName ++ "." ++ objectName

/-- The names are identifiers. -/
def PostgresTarget.Valid : PostgresTarget → Prop
  | database name | schema name => SqlAccounts.isIdentifier 62 name.toList = true
  | object _ schemaName objectName => SqlAccounts.isIdentifier 62 schemaName.toList = true ∧
      SqlAccounts.isIdentifier 62 objectName.toList = true

theorem normalizedFields_valid {item : Json}
    {permission : NormalizedPostgresPermission} (h : normalizedFields js item = .ok permission) :
    SqlAccounts.isPermissionName permission.permission.toList = true ∧
      permissionScopeValue (item.get? "scope") = .ok permission.scope := by
  unfold normalizedFields at h
  obtain ⟨action, -, h⟩ := bind_eq_ok.1 h
  obtain ⟨name, hname, h⟩ := bind_eq_ok.1 h
  obtain ⟨scope, hscope, h⟩ := bind_eq_ok.1 h
  obtain rfl := Except.ok.inj h
  exact ⟨SqlAccounts.isPermissionName_of_permissionName hname, hscope⟩

theorem normalizedPermission_valid {item : Json} {permission : NormalizedPostgresPermission}
    (h : normalizedPermission js item = .ok permission) :
    SqlAccounts.isPermissionName permission.permission.toList = true ∧
      ∃ value, permissionScopeValue value = .ok permission.scope := by
  unfold normalizedPermission at h
  split at h
  · obtain ⟨hname, hscope⟩ := normalizedFields_valid h
    exact ⟨hname, _, hscope⟩
  · cases h

/-- The policy passes a permission as it is. -/
theorem validatePermissionPolicy_eq {permission result : NormalizedPostgresPermission}
    (h : validatePermissionPolicy js config permission = .ok result) : result = permission := by
  unfold validatePermissionPolicy at h
  split at h
  · exact (Except.ok.inj h).symm
  · cases h
  · obtain ⟨allowed, -, h⟩ := bind_eq_ok.1 h
    split at h
    · exact (Except.ok.inj h).symm
    · cases h

theorem permissions_valid {includeDefaults : Bool} {given : List NormalizedPostgresPermission}
    (h : permissions js config data includeDefaults = .ok given) :
    ∀ permission ∈ given, SqlAccounts.isPermissionName permission.permission.toList = true ∧
      ∃ value, permissionScopeValue value = .ok permission.scope := by
  intro permission hpermission
  unfold permissions at h
  obtain ⟨requested, -, h⟩ := bind_eq_ok.1 h
  obtain ⟨normalized, hnormalized, h⟩ := bind_eq_ok.1 h
  obtain ⟨permission', hpermission', hpolicy⟩ := mem_of_mapM h permission hpermission
  obtain ⟨item, -, hitem⟩ := mem_of_mapM hnormalized permission' hpermission'
  obtain rfl := validatePermissionPolicy_eq hpolicy
  exact normalizedPermission_valid hitem

/-! ### What a privilege is for -/

theorem objectScope_eq_some {scope : String} {kind : ObjectKind} {identifier : List Char}
    (h : objectScope scope = some (kind, identifier)) :
    scope.toList = kind.keyword.toList ++ "::".toList ++ identifier := by
  unfold objectScope at h
  obtain ⟨⟨pre, kind'⟩, hmem, h⟩ := List.exists_of_findSome?_eq_some h
  obtain ⟨identifier', hidentifier, hpair⟩ := Option.map_eq_some_iff.1 h
  obtain ⟨rfl, rfl⟩ := Prod.mk.inj hpair
  rw [SqlAccounts.afterPrefix_eq_some hidentifier]
  simp only [objectScopes, List.mem_cons, List.not_mem_nil, or_false, Prod.mk.injEq] at hmem
  rcases hmem with ⟨rfl, rfl⟩ | ⟨rfl, rfl⟩ | ⟨rfl, rfl⟩ <;> rfl

theorem objectNames_eq_pair {identifier : List Char} {schemaName objectName : String}
    (h : objectNames identifier = [schemaName, objectName]) :
    identifier = schemaName.toList ++ '.' :: objectName.toList := by
  unfold objectNames at h
  rcases hparts : identifier.splitOn '.' with _ | ⟨first, _ | ⟨second, _ | ⟨third, parts⟩⟩⟩
  · rw [hparts] at h
    cases h
  · rw [hparts] at h
    cases h
  · rw [hparts] at h
    simp only [List.map_cons, List.map_nil, List.cons.injEq, and_true] at h
    obtain ⟨rfl, rfl⟩ := h
    rw [List.eq_of_splitOn_eq_pair hparts, String.toList_ofList, String.toList_ofList]
  · rw [hparts] at h
    cases h

/-- The database is an identifier. -/
theorem database_valid {client : Option ℕ} {t : List (Async.Event PostgresAns)} {name : String}
    (h : (database client config).Runs t (.ok name)) :
    SqlAccounts.isIdentifier 62 name.toList = true := by
  unfold database at h
  split at h
  · obtain ⟨-, h⟩ := h
    obtain ⟨rfl, hvalid⟩ := SqlAccounts.isIdentifier_of_validate h.symm
    exact hvalid
  · obtain ⟨_, h, -⟩ | ⟨rows, _, _, -, -, h⟩ := runs_bind.1 h
    · cases h
    · split at h
      · obtain ⟨-, h⟩ := h
        cases h
      · obtain ⟨-, h⟩ := h
        obtain ⟨rfl, hvalid⟩ := SqlAccounts.isIdentifier_of_validate h.symm
        exact hvalid

/-- The scope is what was read. -/
theorem permissionScopeValue_eq {value : Option Json} {scope : String}
    (h : permissionScopeValue value = .ok scope) :
    (firstString [value]).getD "DATABASE" = scope := by
  unfold permissionScopeValue at h
  dsimp only at h
  split at h
  · exact Except.ok.inj h
  · split at h
    · obtain ⟨_, -, h⟩ := bind_eq_ok.1 h
      exact Except.ok.inj h
    · split at h
      · split at h
        · cases h
        · obtain ⟨_, -, h⟩ := bind_eq_ok.1 h
          exact Except.ok.inj h
      · cases h

/-- The schema of a valid scope is an identifier. -/
theorem schema_valid {value : Option Json} {scope : String} {name : List Char}
    (h : permissionScopeValue value = .ok scope) (hne : scope ≠ "DATABASE")
    (hschema : SqlAccounts.afterPrefix "SCHEMA::" scope.toList = some name) :
    SqlAccounts.isIdentifier 62 name = true := by
  have hscope := permissionScopeValue_eq h
  unfold permissionScopeValue at h
  rw [hscope] at h
  dsimp only at h
  rw [if_neg hne, hschema] at h
  obtain ⟨result, hname, -⟩ := bind_eq_ok.1 h
  have hvalid := (SqlAccounts.isIdentifier_of_validate hname).2
  rwa [String.toList_ofList] at hvalid

/-- An object that a valid scope names has two names, and they are identifiers. -/
theorem objectNames_valid {value : Option Json} {scope : String} {kind : ObjectKind}
    {identifier : List Char} (h : permissionScopeValue value = .ok scope) (hne : scope ≠ "DATABASE")
    (hschema : SqlAccounts.afterPrefix "SCHEMA::" scope.toList = none)
    (hobject : objectScope scope = some (kind, identifier)) :
    (objectNames identifier).length = 2 ∧
      ∀ name ∈ objectNames identifier, SqlAccounts.isIdentifier 62 name.toList = true := by
  have hscope := permissionScopeValue_eq h
  unfold permissionScopeValue at h
  rw [hscope] at h
  dsimp only at h
  rw [if_neg hne, hschema, hobject] at h
  dsimp only at h
  split at h
  · cases h
  · next hlength =>
    obtain ⟨names, hnames, -⟩ := bind_eq_ok.1 h
    exact ⟨not_not.1 hlength, forall_of_mapM hnames fun name _ hname =>
      (SqlAccounts.isIdentifier_of_validate hname).2⟩

/-- What a privilege is for is what its scope says. -/
theorem permissionScope_spec {client : Option ℕ} {value : Option Json} {scope : String}
    (hvalid : permissionScopeValue value = .ok scope) {t : List (Async.Event PostgresAns)}
    {target : PostgresTarget} (h : (permissionScope client config scope).Runs t (.ok target)) :
    target.scope = scope ∧ target.Valid := by
  unfold permissionScope at h
  split at h
  · next hdatabase =>
    obtain ⟨_, h, -⟩ | ⟨name, _, _, -, hname, -, h⟩ := runs_bind.1 h
    · cases h
    · obtain rfl := Except.ok.inj h
      exact ⟨hdatabase.symm, database_valid hname⟩
  · next hne =>
    split at h
    · next name hname =>
      obtain ⟨-, h⟩ := h
      obtain rfl := Except.ok.inj h
      refine ⟨?_, ?_⟩
      · rw [← String.toList_inj, SqlAccounts.afterPrefix_eq_some hname]
        simp [PostgresTarget.scope]
      · show SqlAccounts.isIdentifier 62 (String.ofList name).toList = true
        rw [String.toList_ofList]
        exact schema_valid hvalid hne hname
    · next hschema =>
      split at h
      · next kind identifier hobject =>
        obtain ⟨hlength, hnames⟩ := objectNames_valid hvalid hne hschema hobject
        split at h
        · next schemaName objectName rest hsplit =>
          obtain ⟨-, h⟩ := h
          obtain rfl := Except.ok.inj h
          have hpair : objectNames identifier = [schemaName, objectName] := by
            rw [hsplit] at hlength ⊢
            simpa using hlength
          rw [hpair] at hnames
          refine ⟨?_, hnames _ (by simp), hnames _ (by simp)⟩
          rw [← String.toList_inj, objectScope_eq_some hobject, objectNames_eq_pair hpair]
          simp [PostgresTarget.scope]
        · obtain ⟨-, h⟩ := h
          cases h
      · obtain ⟨-, h⟩ := h
        cases h

/-! ### What is sent -/

/-- Statements without values. -/
def PostgresStatement.IsFixed : PostgresStatement → Prop
  | begin | commit | rollback | selectOne | currentDatabase => True
  | _ => False

/-- The statements that an operation may send, with where their values come from. -/
inductive Sent (js : Runtime) (operation : String) (config data params : Json) :
    PostgresStatement → Prop
  | fixed {statement : PostgresStatement} (h : statement.IsFixed) :
      Sent js operation config data params statement
  | createRole {account secret : String} {canLogin : Bool} {params' : Json}
      (hlogin : login js data params' config = .ok account)
      (hsecret : password data true = .ok secret) :
      Sent js operation config data params (.createRole account canLogin secret)
  | grant {account role : String} {granted : List String} {includeDefaults : Bool} {params' : Json}
      (hlogin : login js data params' config = .ok account)
      (hroles : roles js config data includeDefaults = .ok granted) (hrole : role ∈ granted) :
      Sent js operation config data params (.setMembership .grant role account)
  | permission {account : String} {given : List NormalizedPostgresPermission}
      {permission : NormalizedPostgresPermission} {target : PostgresTarget} {includeDefaults : Bool}
      {params' : Json} (hlogin : login js data params' config = .ok account)
      (hpermissions : permissions js config data includeDefaults = .ok given)
      (hgiven : permission ∈ given) (hscope : target.scope = permission.scope)
      (hvalid : target.Valid) :
      Sent js operation config data params
        (.applyPermission permission.action permission.permission target account)
  | alterLogin {account : String} {enabled : Bool}
      (hlogin : login js data params config = .ok account) :
      Sent js operation config data params (.alterLogin account enabled)
  | dropLogin {account : String} (hop : operation = "user.delete")
      (hlogin : login js data params config = .ok account) :
      Sent js operation config data params (.dropRole account)
  | changePassword {account secret : String}
      (hlogin : login js data params config = .ok account)
      (hsecret : password data true = .ok secret) :
      Sent js operation config data params (.changePassword account secret)
  | getRole {account : String} (hlogin : login js data params config = .ok account) :
      Sent js operation config data params (.getRole account)
  | searchRoles {pattern : String} :
      Sent js operation config data params (.searchRoles pattern)
  | createGroupRole {role : String} {params' : Json}
      (hrole : roleName data params' config = .ok role) :
      Sent js operation config data params (.createGroupRole role)
  | dropGroupRole {role : String} (hrole : roleName data params config = .ok role) :
      Sent js operation config data params (.dropRole role)
  | membership {action : PostgresAction} {account role : String}
      (hlogin : login js data params config = .ok account)
      (hrole : roleName data params config = .ok role) :
      Sent js operation config data params (.setMembership action role account)
  | getGroupRole {role : String} (hrole : roleName data params config = .ok role) :
      Sent js operation config data params (.getGroupRole role)
  | searchGroupRoles {pattern : Option String} :
      Sent js operation config data params (.searchGroupRoles pattern)

/-- A statement that is sent is one of these. -/
def SendsOnly (js : Runtime) (operation : String) (config data params : Json) :
    PostgresReq → Prop
  | .query _ statement => Sent js operation config data params statement
  | _ => True

section Issues

variable {P : PostgresReq → Prop} {α : Type}

theorem issues_query {client : Option ℕ} {statement : PostgresStatement}
    (h : P (.query client statement)) : (query client statement).Issues P :=
  ⟨h, fun _ => issues_settle⟩

theorem issues_exec {client : Option ℕ} {statement : PostgresStatement}
    (h : P (.query client statement)) : (exec client statement).Issues P :=
  (issues_query h).bind fun _ => issues_pure

theorem issues_forEach {step : α → PostgresProg Unit} {items : List α}
    (h : ∀ item ∈ items, (step item).Issues P) : (forEach step items).Issues P := by
  induction items with
  | nil => exact issues_pure
  | cons item items ih =>
    exact (h item List.mem_cons_self).bind fun _ =>
      ih fun item hitem => h item (List.mem_cons_of_mem _ hitem)

end Issues

/-- The requests of the bracket and of the pool. -/
theorem withTransaction_sends {α : Type} {work : ℕ → PostgresProg α}
    (h : ∀ client, (work client).Issues (SendsOnly js operation config data params)) :
    (withTransaction work).Issues (SendsOnly js operation config data params) := by
  have hfixed : ∀ client (statement : PostgresStatement), statement.IsFixed →
      (exec (some client) statement).Issues (SendsOnly js operation config data params) :=
    fun client statement hfixed => issues_exec (.fixed hfixed)
  refine Issues.bind ⟨trivial, fun _ => issues_settle⟩ fun client => issues_ensuring ?_
    ⟨trivial, fun _ => issues_settle⟩
  exact ((hfixed client .begin trivial).bind fun _ => (h client).bind fun _ =>
    (hfixed client .commit trivial).bind fun _ => issues_pure).tryCatch fun _ =>
      (hfixed client .rollback trivial).bind fun _ => issues_throw

theorem permissionScope_sends (client : Option ℕ) (scope : String) :
    (permissionScope client config scope).Issues (SendsOnly js operation config data params) := by
  have hdatabase : (database client config).Issues (SendsOnly js operation config data params) := by
    unfold database
    split
    · exact issues_ofExcept
    · refine Issues.bind (issues_query (.fixed trivial)) fun rows => ?_
      split
      · exact issues_throw
      · exact issues_ofExcept
  unfold permissionScope
  split
  · exact hdatabase.bind fun _ => issues_pure
  · split
    · exact issues_pure
    · split
      · split
        · exact issues_pure
        · exact issues_throw
      · exact issues_throw

theorem grantAll_sends {account : String} {granted : List String}
    {given : List NormalizedPostgresPermission} {includeDefaults : Bool} {params' : Json}
    (hlogin : login js data params' config = .ok account)
    (hroles : roles js config data includeDefaults = .ok granted)
    (hpermissions : permissions js config data includeDefaults = .ok given) (client : ℕ) :
    (grantAll client config account granted given).Issues
      (SendsOnly js operation config data params) := by
  refine (issues_forEach fun role hrole => issues_exec (.grant hlogin hroles hrole)).bind fun _ =>
    issues_forEach fun permission hgiven => ?_
  refine (permissionScope_sends (some client) permission.scope).bind_of_runs fun t target hrun => ?_
  obtain ⟨value, hvalue⟩ := (permissions_valid hpermissions permission hgiven).2
  obtain ⟨hscope, hvalid⟩ := permissionScope_spec hvalue hrun
  exact issues_exec (.permission hlogin hpermissions hgiven hscope hvalid)

/-- No operation sends other statements. -/
theorem executeWithPool_sends :
    (executeWithPool js operation config data params).Issues
      (SendsOnly js operation config data params) := by
  have hexec : ∀ {statement result}, Sent js operation config data params statement →
      (exec none statement >>= fun _ => (Pure.pure result : PostgresProg Json)).Issues
        (SendsOnly js operation config data params) :=
    fun h => (issues_exec h).bind fun _ => issues_pure
  have hquery : ∀ {statement} {result : List Json → Json},
      Sent js operation config data params statement →
      (query none statement >>= fun rows => (Pure.pure (result rows) : PostgresProg Json)).Issues
        (SendsOnly js operation config data params) :=
    fun h => (issues_query h).bind fun _ => issues_pure
  have hcreateRole :
      (createRole js config data).Issues (SendsOnly js operation config data params) :=
    issues_check fun account hlogin => issues_check fun secret hsecret =>
      issues_check fun granted hroles => issues_check fun given hpermissions =>
        (withTransaction_sends fun client => (issues_exec (.createRole hlogin hsecret)).bind fun _ =>
          grantAll_sends hlogin hroles hpermissions client).bind fun _ => issues_pure
  have hupdateRole :
      (updateRole js config data params).Issues (SendsOnly js operation config data params) := by
    refine issues_check fun account hlogin => issues_check fun granted hroles =>
      issues_check fun given hpermissions =>
        (withTransaction_sends fun client => Issues.bind ?_ fun _ =>
          grantAll_sends hlogin hroles hpermissions client).bind fun _ => issues_pure
    cases enabledFlag data with
    | none => exact issues_pure
    | some enabled => exact issues_exec (.alterLogin hlogin)
  have hsetLogin : ∀ enabled, (setLogin js config data params enabled).Issues
      (SendsOnly js operation config data params) :=
    fun enabled => issues_check fun account hlogin => hexec (.alterLogin hlogin)
  have hmembership : ∀ add, (setGroupMembership js config data params add).Issues
      (SendsOnly js operation config data params) :=
    fun add => issues_check fun account hlogin => issues_check fun role hrole =>
      hexec (.membership hlogin hrole)
  have hget : (getRole js config data params).Issues (SendsOnly js operation config data params) :=
    issues_check fun account hlogin => hquery (.getRole hlogin)
  have hsearch : (searchRoles js config data).Issues (SendsOnly js operation config data params) :=
    issues_ofExcept.bind fun pre => hquery .searchRoles
  have hdelete : operation = "user.delete" →
      (deleteRole js config data params).Issues (SendsOnly js operation config data params) := by
    refine fun hop => issues_check fun account hlogin => ?_
    split
    · exact hexec (.dropLogin hop hlogin)
    · exact hexec (.alterLogin hlogin)
  have hdeleteGroup :
      (deleteGroupRole config data params).Issues (SendsOnly js operation config data params) := by
    refine issues_check fun role hrole => ?_
    split
    · exact issues_throw
    · exact hexec (.dropGroupRole hrole)
  unfold executeWithPool
  split
  · exact hquery (.fixed trivial)
  · exact issues_pure
  · exact hcreateRole
  · exact hupdateRole
  · exact hdelete rfl
  · exact hsetLogin _
  · exact hsetLogin _
  · exact hsetLogin _
  · exact hsetLogin _
  · exact issues_check fun account hlogin => issues_check fun secret hsecret =>
      hexec (.changePassword hlogin hsecret)
  · exact hget
  · exact hget
  · exact hsearch
  · exact hsearch
  · exact hsearch
  · exact issues_check fun role hrole => hexec (.createGroupRole hrole)
  · exact issues_throw
  · exact hdeleteGroup
  · exact hmembership _
  · exact hmembership _
  · exact issues_check fun role hrole => hquery (.getGroupRole hrole)
  · exact hquery .searchGroupRoles
  · exact issues_throw

theorem execute_sends (hconfig : payload.config = some config) :
    (execute js payload).Issues
      (SendsOnly js payload.operation config payload.data payload.params) := by
  unfold execute
  dsimp only
  rw [hconfig]
  cases hfilter : (some config).filter fun config => isTruthy (config.get? "connectionString") with
  | none => exact issues_pure
  | some config' =>
    obtain rfl : config = config' :=
      Option.some.inj (Option.filter_eq_some_iff.1 hfilter).1
    refine Issues.bind ⟨trivial, fun _ => issues_settle⟩ fun _ => issues_ensuring ?_
      ⟨trivial, fun _ => issues_settle⟩
    exact (executeWithPool_sends.bind fun _ => issues_pure).tryCatch fun _ => issues_pure

end PostgresRoleConnectorService

end IdmMw
