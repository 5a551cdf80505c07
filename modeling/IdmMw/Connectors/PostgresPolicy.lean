import IdmMw.Connectors.PostgresStatements

/-!
# What the policies of the PostgreSQL connector confine

Unless a configuration gives full control, a role that stands for a group has the managed prefix, and
a privilege is one that the configuration lists.

* `Allowed`: what a statement may do; `Managed`: every statement of an operation is allowed;
* `permissionKey_inj`: the keys that are compared tell permissions apart;
* `execute_managed`: all operations.
-/

namespace IdmMw

open Async

namespace PostgresRoleConnectorService

variable {js : Runtime} {payload : ConnectorPayload} {config data params : Json}
  {operation : String}

/-! ### The law -/

/-- The role has the managed prefix. -/
def InNamespace (config : Json) (role : String) : Prop :=
  startsWith role (managedRolePrefix config) = true

/-- The configuration lists the permission, and its permissions are not disabled. -/
def Listed (js : Runtime) (config : Json) (permission : NormalizedPostgresPermission) : Prop :=
  config.getStr? "permissionPolicyMode" ≠ some "disabled" ∧
    ∃ allowed, allowedPermissions js config = .ok allowed ∧ permission ∈ allowed

def Allowed (js : Runtime) (operation : String) (config : Json) : PostgresReq → Prop
  | .query _ (.setMembership _ role _) | .query _ (.createGroupRole role) =>
    InNamespace config role
  | .query _ (.dropRole role) => operation = "group.delete" → InNamespace config role
  | .query _ (.applyPermission action permission target _) =>
    Listed js config ⟨action, permission, target.scope⟩
  | _ => True

/-- Every statement of an operation is allowed, unless the configuration gives full control. -/
def Managed (js : Runtime) (payload : ConnectorPayload) : Prop :=
  ∀ config, payload.config = some config →
    config.getStr? "rolePolicyMode" ≠ some "idm-full-control" →
    config.getStr? "permissionPolicyMode" ≠ some "idm-full-control" →
    ∀ t x, (execute js payload).Runs t x → ∀ v ∈ t, Allowed js payload.operation config v.req

/-! ### Roles -/

theorem rolePolicyMode_eq (h : config.getStr? "rolePolicyMode" ≠ some "idm-full-control") :
    rolePolicyMode config = .managedNamespace := if_neg h

theorem inNamespace_roleName {role : String}
    (hmode : config.getStr? "rolePolicyMode" ≠ some "idm-full-control")
    (h : roleName data params config = .ok role) : InNamespace config role := by
  unfold roleName at h
  split at h
  · cases h
  · obtain ⟨validated, -, h⟩ := bind_eq_ok.1 h
    rw [rolePolicyMode_eq hmode] at h
    split at h
    · cases h
    · next hprefix =>
      obtain rfl := Except.ok.inj h
      by_contra hne
      exact hprefix ⟨by decide, hne⟩

theorem inNamespace_roles {includeDefaults : Bool} {granted : List String}
    (hmode : config.getStr? "rolePolicyMode" ≠ some "idm-full-control")
    (h : roles js config data includeDefaults = .ok granted) :
    ∀ role ∈ granted, InNamespace config role := by
  intro role hrole
  unfold roles at h
  obtain ⟨requested, -, h⟩ := bind_eq_ok.1 h
  obtain ⟨name, -, hname⟩ := mem_of_mapM h role hrole
  unfold validateGrantRole at hname
  obtain ⟨validated, -, hname⟩ := bind_eq_ok.1 hname
  rw [rolePolicyMode_eq hmode, if_neg (by decide)] at hname
  split at hname
  · cases hname
  · next hprefix =>
    obtain rfl := Except.ok.inj hname
    exact not_not.1 hprefix

/-! ### Permissions -/

theorem not_mem_of_isPermissionName {name : List Char}
    (h : SqlAccounts.isPermissionName name = true) : ':' ∉ name := by
  cases name with
  | nil => exact List.not_mem_nil
  | cons c cs =>
    simp only [SqlAccounts.isPermissionName, Bool.and_eq_true, List.all_eq_true] at h
    obtain ⟨⟨hc, -⟩, hcs⟩ := h
    intro hmem
    rcases List.mem_cons.1 hmem with rfl | hmem
    · exact absurd hc (by decide)
    · exact absurd (hcs _ hmem) (by decide)

theorem toList_permissionKey (permission : NormalizedPostgresPermission) :
    (permissionKey permission).toList = permission.action.text.toList ++
      ':' :: (permission.permission.toList ++ ':' :: permission.scope.toList) := by
  simp [permissionKey]

theorem action_inj {action action' : PostgresAction}
    (h : action.text.toList = action'.text.toList) : action = action' := by
  cases action with
  | grant =>
    cases action' with
    | grant => rfl
    | revoke => exact absurd h (by decide)
  | revoke =>
    cases action' with
    | grant => exact absurd h (by decide)
    | revoke => rfl

/-- The keys tell permissions apart whose names are valid. -/
theorem permissionKey_inj {permission permission' : NormalizedPostgresPermission}
    (hname : SqlAccounts.isPermissionName permission.permission.toList = true)
    (hname' : SqlAccounts.isPermissionName permission'.permission.toList = true)
    (h : permissionKey permission = permissionKey permission') : permission = permission' := by
  have haction : ∀ action : PostgresAction, ':' ∉ action.text.toList := by
    intro action
    cases action <;> decide
  have hkeys := congrArg String.toList h
  rw [toList_permissionKey, toList_permissionKey] at hkeys
  obtain ⟨htext, hrest⟩ := List.append_sep_inj (haction _) (haction _) hkeys
  obtain ⟨hpermission, hscope⟩ := List.append_sep_inj (not_mem_of_isPermissionName hname)
    (not_mem_of_isPermissionName hname') hrest
  obtain ⟨action, name, scope⟩ := permission
  obtain ⟨action', name', scope'⟩ := permission'
  obtain rfl : action = action' := action_inj htext
  obtain rfl : name = name' := String.toList_inj.1 hpermission
  obtain rfl : scope = scope' := String.toList_inj.1 hscope
  rfl

/-- A permission that passes is listed. -/
theorem listed_of_validatePermissionPolicy {permission result : NormalizedPostgresPermission}
    (hmode : config.getStr? "permissionPolicyMode" ≠ some "idm-full-control")
    (hname : SqlAccounts.isPermissionName permission.permission.toList = true)
    (h : validatePermissionPolicy js config permission = .ok result) :
    result = permission ∧ Listed js config permission := by
  unfold validatePermissionPolicy permissionPolicyMode at h
  by_cases hdisabled : config.getStr? "permissionPolicyMode" = some "disabled"
  · rw [if_pos hdisabled] at h
    cases h
  · rw [if_neg hdisabled, if_neg hmode] at h
    obtain ⟨allowed, hallowed, h⟩ := bind_eq_ok.1 h
    split at h
    · next hkey =>
      obtain rfl := Except.ok.inj h
      refine ⟨rfl, hdisabled, allowed, hallowed, ?_⟩
      obtain ⟨listed, hlisted, hkey⟩ := List.mem_map.1 (List.contains_iff_mem.1 hkey)
      have hnormalized := hallowed
      unfold allowedPermissions at hnormalized
      obtain ⟨_, -, hnormalized⟩ := bind_eq_ok.1 hnormalized
      obtain ⟨_, -, hnormalized⟩ := bind_eq_ok.1 hnormalized
      obtain ⟨item, -, hitem⟩ := mem_of_mapM hnormalized listed hlisted
      rwa [← permissionKey_inj (normalizedFields_valid hitem).1 hname hkey]
    · cases h

/-- The permissions that are given are listed. -/
theorem listed_permissions {includeDefaults : Bool} {given : List NormalizedPostgresPermission}
    (hmode : config.getStr? "permissionPolicyMode" ≠ some "idm-full-control")
    (h : permissions js config data includeDefaults = .ok given) :
    ∀ permission ∈ given, Listed js config permission := by
  intro permission hpermission
  unfold permissions at h
  obtain ⟨requested, -, h⟩ := bind_eq_ok.1 h
  obtain ⟨normalized, hnormalized, h⟩ := bind_eq_ok.1 h
  obtain ⟨permission', hpermission', hpolicy⟩ := mem_of_mapM h permission hpermission
  obtain ⟨item, -, hitem⟩ := mem_of_mapM hnormalized permission' hpermission'
  have hname := (normalizedPermission_valid hitem).1
  obtain ⟨rfl, hlisted⟩ := listed_of_validatePermissionPolicy hmode hname hpolicy
  exact hlisted

/-! ### The operations -/

theorem SendsOnly.allowed {r : PostgresReq} (h : SendsOnly js operation config data params r)
    (hmode : config.getStr? "rolePolicyMode" ≠ some "idm-full-control")
    (hmode' : config.getStr? "permissionPolicyMode" ≠ some "idm-full-control") :
    Allowed js operation config r := by
  cases r with
  | query client statement =>
    cases h with
    | fixed hfixed => cases statement <;> trivial
    | grant hlogin hroles hrole => exact inNamespace_roles hmode hroles _ hrole
    | permission hlogin hpermissions hgiven hscope hvalid =>
      rename_i given permission target account params'
      show Listed js config ⟨permission.action, permission.permission, target.scope⟩
      rw [hscope]
      exact listed_permissions hmode' hpermissions permission hgiven
    | dropLogin hop hlogin =>
      intro hgroup
      rw [hop] at hgroup
      exact absurd hgroup (by decide)
    | createGroupRole hrole => exact inNamespace_roleName hmode hrole
    | dropGroupRole hrole => exact fun _ => inNamespace_roleName hmode hrole
    | membership hlogin hrole => exact inNamespace_roleName hmode hrole
    | _ => trivial
  | _ => trivial

/-- The roles and privileges of every operation are confined. -/
theorem execute_managed (js : Runtime) (payload : ConnectorPayload) : Managed js payload := by
  intro config hconfig hmode hmode' t x hrun
  exact Issues.of_runs ((execute_sends hconfig).mono fun r hr => hr.allowed hmode hmode') hrun

end PostgresRoleConnectorService

end IdmMw
