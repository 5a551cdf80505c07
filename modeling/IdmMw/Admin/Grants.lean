import IdmMw.Model.Rbac

/-!
# What is granted is what is declared

Roles, permissions and mappings declare grants (`HasGrant`): a group is mapped to a role, and the role
has a permission on a type of connector. `AdminRbacService` collects them in a map, with one entry
for each type, which four queries read.

* `Collects`: the map holds, for each type, what the permission rows seen so far allow together;
  one turn of the loop keeps that (`Collects.addPermission`), hence the loops do (`Collects.foldl`);
* `mem_grantedRows`: the rows that the loops go through are the declared ones;
* `exists_permission_iff`: the permissions of a session are its grants;
* `decision_exact`: the four queries answer by them.
-/

namespace IdmMw

open OrderedMap AdminRbacService

/-! ### Grants -/

/-- The row lets the holder read, or write. -/
def AdminRoleConnectorPermission.allows (permission : AdminRoleConnectorPermission) : Access → Bool
  | .read => permission.canRead || permission.canWrite
  | .write => permission.canWrite

/-- Some enabled mapping of one of the groups leads to an enabled role with a permission on the
type. -/
def HasGrant (db : AdminTables) (groups : List String) (connectorType : String) (access : Access) :
    Prop :=
  ∃ mapping ∈ db.mappings, mapping.enabled = true ∧ mapping.idpGroup ∈ groups ∧
    ∃ role ∈ db.roles, role.id = mapping.roleId ∧ role.enabled = true ∧
      ∃ permission ∈ db.permissions, permission.roleId = role.id ∧
        permission.connectorType = connectorType ∧ permission.allows access = true

/-- Every role, permission and mapping of `db` is one of `db'`, whatever their order and however
often they are there. -/
structure AdminTables.Subset (db db' : AdminTables) : Prop where
  roles : ∀ role ∈ db.roles, role ∈ db'.roles
  permissions : ∀ permission ∈ db.permissions, permission ∈ db'.permissions
  mappings : ∀ mapping ∈ db.mappings, mapping ∈ db'.mappings

variable {db db' : AdminTables} {collation collation' : Collation}
  {session session' : AdminUserSession} {groups groups' : List String} {connectorType : String}
  {access : Access}

/-- Whoever may write may read. -/
theorem HasGrant.read_of_write (h : HasGrant db groups connectorType .write) :
    HasGrant db groups connectorType .read := by
  obtain ⟨mapping, hmapping, henabled, hgroup, role, hrole, hid, hrole', permission, hpermission,
    hroleId, htype, hallows⟩ := h
  refine ⟨mapping, hmapping, henabled, hgroup, role, hrole, hid, hrole', permission, hpermission,
    hroleId, htype, ?_⟩
  show (permission.canRead || permission.canWrite) = true
  rw [show permission.canWrite = true from hallows, Bool.or_true]

/-- More rows and more groups grant more. -/
theorem HasGrant.mono (h : HasGrant db groups connectorType access) (hdb : db.Subset db')
    (hgroups : groups ⊆ groups') : HasGrant db' groups' connectorType access := by
  obtain ⟨mapping, hmapping, henabled, hgroup, role, hrole, hid, hrole', permission, hpermission,
    hrest⟩ := h
  exact ⟨mapping, hdb.mappings mapping hmapping, henabled, hgroups hgroup, role,
    hdb.roles role hrole, hid, hrole', permission, hdb.permissions permission hpermission, hrest⟩

/-! ### The map of the loops -/

/-- Some row on the type allows the access. -/
def allowedBy (rows : List AdminRoleConnectorPermission) (connectorType : String)
    (access : Access) : Bool :=
  rows.any fun row => row.connectorType = connectorType && row.allows access

/-- The map has an entry for each type among the rows, with what they allow together. -/
structure Collects (permissionMap : List (String × ConnectorPermission))
    (rows : List AdminRoleConnectorPermission) : Prop where
  distinct : Distinct permissionMap
  lookup : ∀ connectorType, permissionMap.lookup connectorType =
    if connectorType ∈ rows.map AdminRoleConnectorPermission.connectorType then
      some ⟨connectorType, allowedBy rows connectorType .read, allowedBy rows connectorType .write⟩
    else none

variable {permissionMap : List (String × ConnectorPermission)}
  {rows : List AdminRoleConnectorPermission} {row : AdminRoleConnectorPermission}

theorem Collects.nil : Collects [] [] where
  distinct := List.nodup_nil
  lookup _ := rfl

theorem allowedBy_append (rows rows' : List AdminRoleConnectorPermission) :
    allowedBy (rows ++ rows') connectorType access =
      (allowedBy rows connectorType access || allowedBy rows' connectorType access) :=
  List.any_append

/-- A row says nothing about the types of others. -/
theorem allowedBy_singleton_of_ne (h : row.connectorType ≠ connectorType) :
    allowedBy [row] connectorType access = false := by
  unfold allowedBy
  simp [h]

theorem allowedBy_singleton_self : allowedBy [row] row.connectorType access = row.allows access := by
  unfold allowedBy
  simp

/-- Where no row has the type, nothing is allowed on it. -/
theorem allowedBy_of_not_mem
    (h : connectorType ∉ rows.map AdminRoleConnectorPermission.connectorType) :
    allowedBy rows connectorType access = false := by
  unfold allowedBy
  rw [List.any_eq_false]
  intro row hrow hcon
  obtain ⟨htype, -⟩ := (Bool.and_eq_true _ _).mp hcon
  exact h (List.mem_map.2 ⟨row, hrow, of_decide_eq_true htype⟩)

/-- One turn of the inner loop adds what its row allows. -/
theorem Collects.addPermission (h : Collects permissionMap rows)
    (row : AdminRoleConnectorPermission) :
    Collects (addPermission permissionMap row) (rows ++ [row]) where
  distinct := h.distinct.set _ _
  lookup := by
    intro connectorType
    unfold AdminRbacService.addPermission
    have htypes : connectorType ∈ (rows ++ [row]).map AdminRoleConnectorPermission.connectorType ↔
        connectorType ∈ rows.map AdminRoleConnectorPermission.connectorType ∨
          connectorType = row.connectorType := by
      rw [List.map_append, List.mem_append]
      simp
    rw [lookup_set, allowedBy_append, allowedBy_append]
    by_cases htype : connectorType = row.connectorType
    · subst htype
      rw [if_pos rfl, if_pos (htypes.2 (Or.inr rfl)), allowedBy_singleton_self,
        allowedBy_singleton_self, h.lookup]
      by_cases hmem : row.connectorType ∈ rows.map AdminRoleConnectorPermission.connectorType
      · rw [if_pos hmem]
        simp only [Option.getD_some, AdminRoleConnectorPermission.allows, Bool.or_assoc]
      · rw [if_neg hmem, allowedBy_of_not_mem hmem, allowedBy_of_not_mem hmem]
        simp only [Option.getD_none, AdminRoleConnectorPermission.allows, Bool.false_or]
    · rw [if_neg htype, h.lookup, allowedBy_singleton_of_ne (Ne.symm htype),
        allowedBy_singleton_of_ne (Ne.symm htype), Bool.or_false, Bool.or_false]
      by_cases hmem : connectorType ∈ rows.map AdminRoleConnectorPermission.connectorType
      · rw [if_pos hmem, if_pos (htypes.2 (Or.inl hmem))]
      · rw [if_neg hmem, if_neg (mt htypes.1 (not_or.2 ⟨hmem, htype⟩))]

/-- The loop adds what all its rows allow. -/
theorem Collects.foldl (h : Collects permissionMap rows)
    (rows' : List AdminRoleConnectorPermission) :
    Collects (rows'.foldl AdminRbacService.addPermission permissionMap) (rows ++ rows') := by
  induction rows' generalizing permissionMap rows with
  | nil => rwa [List.append_nil]
  | cons row rows' ih =>
    have hnext := ih (h.addPermission row)
    rwa [List.append_assoc] at hnext

/-- What may be written may be read. -/
theorem allowedBy_read_of_write (h : allowedBy rows connectorType .write = true) :
    allowedBy rows connectorType .read = true := by
  obtain ⟨row, hrow, hallows⟩ := List.any_eq_true.1 h
  obtain ⟨htype, hwrite⟩ := (Bool.and_eq_true _ _).mp hallows
  refine List.any_eq_true.2 ⟨row, hrow, (Bool.and_eq_true _ _).mpr ⟨htype, ?_⟩⟩
  show (row.canRead || row.canWrite) = true
  rw [show row.canWrite = true from hwrite, Bool.or_true]

/-- The entry of a type allows what its rows allow. -/
theorem allows_collected :
    (ConnectorPermission.mk connectorType (allowedBy rows connectorType .read)
      (allowedBy rows connectorType .write)).allows access = allowedBy rows connectorType access := by
  cases access with
  | read =>
    show (allowedBy rows connectorType .read || allowedBy rows connectorType .write) = _
    cases hwrite : allowedBy rows connectorType .write with
    | false => rw [Bool.or_false]
    | true => rw [Bool.or_true, allowedBy_read_of_write hwrite]
  | write => rfl

/-- The values of the map allow what the rows allow. -/
theorem Collects.exists_value_iff (h : Collects permissionMap rows) :
    (∃ permission ∈ permissionMap.map Prod.snd,
        permission.connectorType = connectorType ∧ permission.allows access = true) ↔
      allowedBy rows connectorType access = true := by
  constructor
  · rintro ⟨permission, hmem, rfl, hallows⟩
    obtain ⟨⟨key, _⟩, hentry, rfl⟩ := List.mem_map.1 hmem
    have hlookup := h.distinct.lookup_of_mem hentry
    rw [h.lookup] at hlookup
    split at hlookup
    · obtain rfl := (Option.some.inj hlookup).symm
      rwa [allows_collected] at hallows
    · cases hlookup
  · intro hallowed
    have hmem : connectorType ∈ rows.map AdminRoleConnectorPermission.connectorType := by
      by_contra hcon
      rw [allowedBy_of_not_mem hcon] at hallowed
      cases hallowed
    have hlookup := h.lookup connectorType
    rw [if_pos hmem] at hlookup
    exact ⟨_, List.mem_map_of_mem (mem_of_lookup hlookup), rfl, allows_collected.trans hallowed⟩

/-! ### The rows of the loops -/

/-- The permission rows that the two loops go through, in their order. -/
def grantedRows (db : AdminTables) (collation : Collation) (groups : List String) :
    List AdminRoleConnectorPermission :=
  (enabledMappings db collation groups).flatMap fun (_, role) => rolePermissions db role

theorem mem_enabledMappings {mapping : AdminGroupRoleMapping} {role : AdminRole} :
    (mapping, role) ∈ enabledMappings db collation groups ↔
      mapping ∈ db.mappings ∧ mapping.enabled = true ∧ mapping.idpGroup ∈ groups ∧
        role ∈ db.roles ∧ role.id = mapping.roleId ∧ role.enabled = true := by
  unfold enabledMappings
  simp only [List.mem_filterMap, List.mem_filter, List.mem_mergeSort, Bool.and_eq_true,
    List.contains_iff_mem, Option.map_eq_some_iff, Option.filter_eq_some_iff,
    find?_key_iff db.roles_nodup,
    Prod.mk.injEq]
  constructor
  · rintro ⟨_, ⟨hmapping, henabled, hgroup⟩, _, ⟨⟨hrole, hid⟩, hrole'⟩, rfl, rfl⟩
    exact ⟨hmapping, henabled, hgroup, hrole, hid, hrole'⟩
  · rintro ⟨hmapping, henabled, hgroup, hrole, hid, hrole'⟩
    exact ⟨mapping, ⟨hmapping, henabled, hgroup⟩, role, ⟨⟨hrole, hid⟩, hrole'⟩, rfl, rfl⟩

/-- The loops go through the declared permissions. -/
theorem allowedBy_grantedRows_iff (collation : Collation) :
    allowedBy (grantedRows db collation groups) connectorType access = true ↔
      HasGrant db groups connectorType access := by
  unfold allowedBy grantedRows
  simp only [List.any_eq_true, List.mem_flatMap, Bool.and_eq_true, decide_eq_true_eq,
    rolePermissions, List.mem_filter]
  constructor
  · rintro ⟨permission, ⟨⟨mapping, role⟩, hmem, hpermission, hroleId⟩, htype, hallows⟩
    obtain ⟨hmapping, henabled, hgroup, hrole, hid, hrole'⟩ := mem_enabledMappings.1 hmem
    exact ⟨mapping, hmapping, henabled, hgroup, role, hrole, hid, hrole', permission, hpermission,
      hroleId, htype, hallows⟩
  · rintro ⟨mapping, hmapping, henabled, hgroup, role, hrole, hid, hrole', permission, hpermission,
      hroleId, htype, hallows⟩
    exact ⟨permission, ⟨(mapping, role),
      mem_enabledMappings.2 ⟨hmapping, henabled, hgroup, hrole, hid, hrole'⟩, hpermission, hroleId⟩,
      htype, hallows⟩

/-- Without groups nothing is granted. -/
theorem not_hasGrant_nil : ¬ HasGrant db [] connectorType access := by
  rintro ⟨_, -, -, hgroup, -⟩
  cases hgroup

theorem hasGrant_eraseDups_iff :
    HasGrant db groups.eraseDups connectorType access ↔ HasGrant db groups connectorType access := by
  unfold HasGrant
  simp only [List.mem_eraseDups]

/-! ### The queries -/

/-- The permissions of a session are its grants. -/
theorem exists_permission_iff (collation : Collation)
    (hsession : isSuperadminSession session = false) :
    (∃ permission ∈ (effectivePermissions db collation session).permissions,
        permission.connectorType = connectorType ∧ permission.allows access = true) ↔
      HasGrant db (session.groups.getD []) connectorType access := by
  unfold effectivePermissions
  rw [hsession, if_neg Bool.false_ne_true, ← hasGrant_eraseDups_iff]
  dsimp only
  by_cases hgroups : (session.groups.getD []).eraseDups.isEmpty = true
  · rw [if_pos hgroups, List.isEmpty_iff.1 hgroups]
    refine iff_of_false ?_ not_hasGrant_nil
    rintro ⟨_, hmem, -⟩
    cases hmem
  · have hcollects := Collects.nil.foldl
      (grantedRows db collation (session.groups.getD []).eraseDups)
    rw [List.nil_append] at hcollects
    rw [if_neg hgroups, ← allowedBy_grantedRows_iff collation, ← hcollects.exists_value_iff]
    simp only [grantedRows, List.foldl_flatMap, Collation.sort, List.mem_mergeSort]

theorem effectivePermissions_superadmin :
    (effectivePermissions db collation session).superadmin = isSuperadminSession session := by
  unfold effectivePermissions
  split
  · next h => exact h.symm
  · next h =>
    dsimp only
    split <;> exact (Bool.eq_false_iff.2 h).symm

theorem canRead_iff (hsession : isSuperadminSession session = false) :
    canRead db collation session connectorType = true ↔
      HasGrant db (session.groups.getD []) connectorType .read := by
  unfold canRead
  dsimp only
  rw [effectivePermissions_superadmin, hsession, Bool.false_or,
    ← exists_permission_iff collation hsession]
  simp only [List.any_eq_true, Bool.and_eq_true, decide_eq_true_eq, ConnectorPermission.allows]

theorem canWrite_iff (hsession : isSuperadminSession session = false) :
    canWrite db collation session connectorType = true ↔
      HasGrant db (session.groups.getD []) connectorType .write := by
  unfold canWrite
  dsimp only
  rw [effectivePermissions_superadmin, hsession, Bool.false_or,
    ← exists_permission_iff collation hsession]
  simp only [List.any_eq_true, Bool.and_eq_true, decide_eq_true_eq, ConnectorPermission.allows]

/-- The types that a session may use are those on which something is granted. -/
theorem allowedConnectorTypes_spec (collation : Collation) (access : Access)
    (hsession : isSuperadminSession session = false) :
    ∃ types, allowedConnectorTypes db collation session access = some types ∧
      ∀ connectorType, connectorType ∈ types ↔
        HasGrant db (session.groups.getD []) connectorType access := by
  unfold allowedConnectorTypes
  dsimp only
  rw [effectivePermissions_superadmin, hsession, if_neg Bool.false_ne_true]
  refine ⟨_, rfl, fun connectorType => ?_⟩
  rw [← exists_permission_iff collation hsession, List.mem_map]
  simp only [List.mem_filter]
  constructor
  · rintro ⟨permission, ⟨hmem, hallows⟩, htype⟩
    exact ⟨permission, hmem, htype, hallows⟩
  · rintro ⟨permission, hmem, htype, hallows⟩
    exact ⟨permission, ⟨hmem, hallows⟩, htype⟩

/-- The target systems that a session may use are those of such a type. -/
theorem targetSystemNamesForAccess_spec (collation : Collation) (access : Access)
    (hsession : isSuperadminSession session = false) :
    ∃ names, targetSystemNamesForAccess db collation session access = some names ∧
      ∀ name, name ∈ names ↔ ∃ item ∈ db.targetSystems, item.name = name ∧
        HasGrant db (session.groups.getD []) item.type access := by
  obtain ⟨types, htypes, hmem⟩ := allowedConnectorTypes_spec collation access hsession
  unfold targetSystemNamesForAccess
  rw [htypes]
  cases types with
  | nil =>
    refine ⟨[], rfl, fun name => iff_of_false (List.not_mem_nil) ?_⟩
    rintro ⟨item, -, -, hgranted⟩
    exact List.not_mem_nil ((hmem item.type).2 hgranted)
  | cons type types =>
    refine ⟨_, rfl, fun name => ?_⟩
    simp only [List.mem_map, List.mem_filter, List.contains_iff_mem, hmem]
    constructor
    · rintro ⟨item, ⟨hitem, hgranted⟩, rfl⟩
      exact ⟨item, hitem, rfl, hgranted⟩
    · rintro ⟨item, hitem, rfl, hgranted⟩
      exact ⟨item, ⟨hitem, hgranted⟩, rfl⟩

/-- Two states, and two sessions, between which no mapping, role, permission or group is different
but for the order and the number of times it is there. -/
def SameGrants (db db' : AdminTables) (session session' : AdminUserSession) : Prop :=
  db.Subset db' ∧ db'.Subset db ∧
    ∀ group, group ∈ session.groups.getD [] ↔ group ∈ session'.groups.getD []

/-- The decision of a session that is no superadmin session is the declared grant, and so are the
two lists; whoever may write may read; order and multiplicity do not count; and more rows or groups
never take anything away. -/
theorem decision_exact (hsession : isSuperadminSession session = false)
    (hsession' : isSuperadminSession session' = false) :
    (∀ connectorType, canRead db collation session connectorType = true ↔
      HasGrant db (session.groups.getD []) connectorType .read) ∧
    (∀ connectorType, canWrite db collation session connectorType = true ↔
      HasGrant db (session.groups.getD []) connectorType .write) ∧
    (∀ access, ∃ types, allowedConnectorTypes db collation session access = some types ∧
      ∀ connectorType, connectorType ∈ types ↔
        HasGrant db (session.groups.getD []) connectorType access) ∧
    (∀ access, ∃ names, targetSystemNamesForAccess db collation session access = some names ∧
      ∀ name, name ∈ names ↔ ∃ item ∈ db.targetSystems, item.name = name ∧
        HasGrant db (session.groups.getD []) item.type access) ∧
    (∀ connectorType, canWrite db collation session connectorType = true →
      canRead db collation session connectorType = true) ∧
    (SameGrants db db' session session' → ∀ connectorType,
      canRead db collation session connectorType = canRead db' collation' session' connectorType ∧
      canWrite db collation session connectorType =
        canWrite db' collation' session' connectorType) ∧
    (db.Subset db' → session.groups.getD [] ⊆ session'.groups.getD [] → ∀ connectorType,
      (canRead db collation session connectorType = true →
        canRead db' collation' session' connectorType = true) ∧
      (canWrite db collation session connectorType = true →
        canWrite db' collation' session' connectorType = true)) := by
  refine ⟨fun _ => canRead_iff hsession, fun _ => canWrite_iff hsession,
    fun access => allowedConnectorTypes_spec collation access hsession,
    fun access => targetSystemNamesForAccess_spec collation access hsession, ?_, ?_, ?_⟩
  · intro connectorType h
    exact (canRead_iff hsession).2 ((canWrite_iff hsession).1 h).read_of_write
  · rintro ⟨hdb, hdb', hgroups⟩ connectorType
    have hgranted : ∀ access, HasGrant db (session.groups.getD []) connectorType access ↔
        HasGrant db' (session'.groups.getD []) connectorType access := fun access =>
      ⟨fun h => h.mono hdb fun group => (hgroups group).1,
        fun h => h.mono hdb' fun group => (hgroups group).2⟩
    constructor
    · rw [Bool.eq_iff_iff, canRead_iff hsession, canRead_iff hsession', hgranted]
    · rw [Bool.eq_iff_iff, canWrite_iff hsession, canWrite_iff hsession', hgranted]
  · intro hdb hgroups connectorType
    constructor
    · intro h
      exact (canRead_iff hsession').2 (((canRead_iff hsession).1 h).mono hdb hgroups)
    · intro h
      exact (canWrite_iff hsession').2 (((canWrite_iff hsession).1 h).mono hdb hgroups)

/-- One role, that of the operators of Linux servers, with its permission and its mapping. -/
def AdminTables.operators : AdminTables where
  roles := [⟨"r1", "linux-operator", "Linux operators", true⟩]
  permissions := [⟨"r1", "linux", false, true⟩]
  mappings := [⟨"ops", "r1", true⟩]
  targetSystems := []
  dlqItems := []
  roles_nodup := List.nodup_singleton _
  targetSystems_nodup := List.nodup_nil
  dlqItems_nodup := List.nodup_nil

/-- The orders of code points. -/
def Collation.codePoints : Collation where
  asc a b := a ≤ b
  localeCompare := compare

/-- A session of the provider `oidc`. -/
def AdminUserSession.oidc (groups : List String) : AdminUserSession :=
  ⟨"admin", "Admin", .oidc, some groups, "csrf", 0⟩

/-- Permission to write lets an operator read, in whatever order the groups are named. -/
theorem canRead_operators :
    canRead .operators .codePoints (.oidc ["ops"]) "linux" = true ∧
      canRead .operators .codePoints (.oidc ["idle", "ops", "ops"]) "linux" = true := by
  have hgranted : HasGrant .operators ["ops"] "linux" .read :=
    ⟨_, List.mem_singleton_self _, rfl, List.mem_singleton_self _, _, List.mem_singleton_self _,
      rfl, rfl, _, List.mem_singleton_self _, rfl, rfl, rfl⟩
  have hexact := @decision_exact .operators .operators .codePoints .codePoints (.oidc ["ops"])
    (.oidc ["idle", "ops", "ops"]) rfl rfl
  have hread := (hexact.1 "linux").2 hgranted
  refine ⟨hread, (hexact.2.2.2.2.2.2 ⟨fun _ h => h, fun _ h => h, fun _ h => h⟩ ?_ "linux").1 hread⟩
  intro group hgroup
  obtain rfl := List.mem_singleton.1 hgroup
  exact List.mem_cons_of_mem _ List.mem_cons_self

end IdmMw
