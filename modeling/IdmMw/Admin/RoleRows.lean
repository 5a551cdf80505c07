import IdmMw.Admin.Grants
import IdmMw.Admin.SetReplacement
import IdmMw.Model.RoleStore

/-!
# The stored permissions of roles

Calls of `createRole` and `updateRole`, one after another, of which any statement may fail.

* `IsUnion`: the union of submitted permissions for a type, whatever their order;
* `mem_rows_iff`: the rows of a normalised list are the unions of the list;
* `RoleCalls`, `lastSubmitted`: the calls with their outcomes, and what was last submitted for a role;
* `stored_of_failed`: a call that fails leaves the tables as they were;
* `RowsOf`, `calls_spec`: the invariant of the tables.
-/

namespace IdmMw

open Async AdminRbacService OrderedMap

/-! ### Unions -/

/-- The union of the permissions for a type: one row, if there are any. -/
def IsUnion (submitted : List ConnectorPermission) (connectorType : String) (canRead canWrite : Bool) :
    Prop :=
  (∃ permission ∈ submitted, trim permission.connectorType = connectorType) ∧
    (canRead = true ↔ ∃ permission ∈ submitted, trim permission.connectorType = connectorType ∧
      permission.allows .read = true) ∧
    (canWrite = true ↔ ∃ permission ∈ submitted, trim permission.connectorType = connectorType ∧
      permission.allows .write = true)

theorem not_isUnion_nil {connectorType : String} {canRead canWrite : Bool} :
    ¬ IsUnion [] connectorType canRead canWrite := by
  rintro ⟨⟨permission, hmem, -⟩, -⟩
  cases hmem

/-- Only the permissions that are submitted count, not their order or number. -/
theorem isUnion_congr {submitted submitted' : List ConnectorPermission}
    (h : ∀ permission, permission ∈ submitted ↔ permission ∈ submitted') (connectorType : String)
    (canRead canWrite : Bool) :
    IsUnion submitted connectorType canRead canWrite ↔
      IsUnion submitted' connectorType canRead canWrite := by
  unfold IsUnion
  simp only [h]

/-- A submitted permission, as a row that the loop on permissions of roles would read. -/
def submittedRow (permission : ConnectorPermission) : AdminRoleConnectorPermission where
  roleId := ""
  connectorType := trim permission.connectorType
  canRead := permission.canRead
  canWrite := permission.canWrite

theorem allowedBy_submitted_iff {submitted : List ConnectorPermission} {connectorType : String}
    {access : Access} : allowedBy (submitted.map submittedRow) connectorType access = true ↔
      ∃ permission ∈ submitted, trim permission.connectorType = connectorType ∧
        permission.allows access = true := by
  unfold allowedBy
  rw [List.any_map, List.any_eq_true]
  refine exists_congr fun permission => and_congr_right fun _ => ?_
  rw [Function.comp_apply, Bool.and_eq_true, decide_eq_true_eq]
  cases access <;> rfl

/-- The loop that normalises is the loop on the rows of roles, where no type is refused. -/
theorem normalizedPermissions_eq {submitted permissions : List ConnectorPermission}
    (h : normalizedPermissions submitted = .ok permissions) :
    permissions = ((submitted.map submittedRow).foldl addPermission []).map Prod.snd := by
  have hfold : ∀ {map map' : List (String × ConnectorPermission)},
      submitted.foldlM addNormalized map = .ok map' →
        map' = (submitted.map submittedRow).foldl addPermission map := by
    clear h
    induction submitted with
    | nil =>
      rintro map map' h
      exact (Except.ok.inj h).symm
    | cons permission submitted ih =>
      intro map map' h
      rw [List.foldlM_cons] at h
      obtain ⟨map₁, hfirst, hrest⟩ := bind_eq_ok.1 h
      rw [ih hrest, List.map_cons, List.foldl_cons]
      unfold addNormalized at hfirst
      dsimp only at hfirst
      split_ifs at hfirst
      rw [← Except.ok.inj hfirst]
      rfl
  unfold normalizedPermissions at h
  cases hmap : submitted.foldlM addNormalized [] with
  | error e =>
    rw [hmap] at h
    cases h
  | ok map =>
    rw [hmap] at h
    rw [← Except.ok.inj h, hfold hmap]

theorem collects_submitted (submitted : List ConnectorPermission) :
    Collects ((submitted.map submittedRow).foldl addPermission []) (submitted.map submittedRow) := by
  have h := Collects.nil.foldl (submitted.map submittedRow)
  rwa [List.nil_append] at h

section Rows

variable {submitted permissions : List ConnectorPermission}
  (hnormal : normalizedPermissions submitted = .ok permissions)

include hnormal

/-- The permissions that are made of a list: one for each type, the union for it. -/
theorem mem_normalized_iff (permission : ConnectorPermission) :
    permission ∈ permissions ↔
      IsUnion submitted permission.connectorType permission.canRead permission.canWrite := by
  have hcollects := collects_submitted submitted
  rw [normalizedPermissions_eq hnormal]
  have htypes : ∀ connectorType,
      connectorType ∈ (submitted.map submittedRow).map AdminRoleConnectorPermission.connectorType ↔
        ∃ permission ∈ submitted, trim permission.connectorType = connectorType := by
    intro connectorType
    simp [submittedRow]
  unfold IsUnion
  rw [← allowedBy_submitted_iff, ← allowedBy_submitted_iff, ← htypes, ← Bool.eq_iff_iff,
    ← Bool.eq_iff_iff]
  constructor
  · intro hmem
    obtain ⟨⟨key, value⟩, hentry, rfl⟩ := List.mem_map.1 hmem
    have hlookup := hcollects.distinct.lookup_of_mem hentry
    rw [hcollects.lookup] at hlookup
    split at hlookup
    · next htype =>
      obtain rfl := (Option.some.inj hlookup).symm
      exact ⟨htype, rfl, rfl⟩
    · cases hlookup
  · rintro ⟨htype, hread, hwrite⟩
    have hlookup := hcollects.lookup permission.connectorType
    rw [if_pos htype, ← hread, ← hwrite] at hlookup
    exact List.mem_map_of_mem (mem_of_lookup hlookup)

/-- A permission that is made of a list to write is one to read. -/
theorem canRead_or_canWrite {permission : ConnectorPermission} (hmem : permission ∈ permissions) :
    (permission.canRead || permission.canWrite) = permission.canRead := by
  obtain ⟨-, hread, hwrite⟩ := (mem_normalized_iff hnormal _).1 hmem
  rw [Bool.or_eq_left_iff_imp, hwrite, hread]
  rintro ⟨submittedOne, hsubmitted, htype, hallows⟩
  refine ⟨submittedOne, hsubmitted, htype, ?_⟩
  show (submittedOne.canRead || submittedOne.canWrite) = true
  rw [show submittedOne.canWrite = true from hallows, Bool.or_true]

/-- The rows of a role that are made of a list. -/
theorem mem_rows_iff {id : String} {row : AdminRoleConnectorPermission} :
    row ∈ permissions.map (permissionRow id) ↔
      row.roleId = id ∧ IsUnion submitted row.connectorType row.canRead row.canWrite := by
  rw [List.mem_map]
  constructor
  · rintro ⟨permission, hmem, rfl⟩
    refine ⟨rfl, ?_⟩
    show IsUnion submitted permission.connectorType (permission.canRead || permission.canWrite) _
    rw [canRead_or_canWrite hnormal hmem]
    exact (mem_normalized_iff hnormal _).1 hmem
  · rintro ⟨rfl, hunion⟩
    have hmem := (mem_normalized_iff hnormal
      ⟨row.connectorType, row.canRead, row.canWrite⟩).2 hunion
    refine ⟨_, hmem, ?_⟩
    unfold permissionRow
    rw [canRead_or_canWrite hnormal hmem]

end Rows

/-! ### Calls -/

inductive RoleOperation
  | create (dto : NewRoleDto)
  | update (id : String) (dto : RoleDto)

def RoleOperation.program : RoleOperation → RoleProg String
  | .create dto => createRole dto
  | .update id dto => updateRoleById id dto

/-- The permissions that the call submits, if it does. -/
def RoleOperation.permissions : RoleOperation → Option (List ConnectorPermission)
  | .create dto => dto.permissions
  | .update _ dto => dto.permissions

/-- Calls and their outcomes, the first one first. -/
abbrev RoleLog := List (RoleOperation × Except AdminError String)

/-- What the call has submitted for the role, if it succeeded. -/
def submittedFor (id : String) : RoleOperation × Except AdminError String →
    Option (List ConnectorPermission)
  | (operation, .ok id') => if id' = id then operation.permissions else none
  | (_, .error _) => none

/-- What was last submitted for the role; nothing, if nothing was. -/
def lastSubmitted (log : RoleLog) (id : String) : List ConnectorPermission :=
  (log.filterMap (submittedFor id)).getLastD []

/-- Calls one after another, from empty tables. -/
inductive RoleCalls : RoleLog → RoleServer → Prop
  | nil : RoleCalls [] ⟨⟨[], []⟩, none⟩
  | snoc {log : RoleLog} {s s' : RoleServer} {operation : RoleOperation} {t : List (Event RoleAns)}
      {x : Except AdminError String} (h : RoleCalls log s) (hrun : operation.program.Runs t x)
      (hserved : Served s t s') : RoleCalls (log ++ [(operation, x)]) s'

theorem lastSubmitted_snoc (log : RoleLog) (call : RoleOperation × Except AdminError String)
    (id : String) :
    lastSubmitted (log ++ [call]) id = (submittedFor id call).getD (lastSubmitted log id) := by
  unfold lastSubmitted
  rw [List.filterMap_append]
  cases hcall : submittedFor id call with
  | none =>
    rw [List.filterMap_cons_none hcall, List.filterMap_nil, List.append_nil, Option.getD_none]
  | some submitted =>
    rw [List.filterMap_cons_some hcall, List.filterMap_nil, List.getLastD_concat, Option.getD_some]

/-- After a call that succeeds. -/
theorem lastSubmitted_ok (log : RoleLog) (operation : RoleOperation) (id id' : String) :
    lastSubmitted (log ++ [(operation, .ok id)]) id' =
      if id' = id then operation.permissions.getD (lastSubmitted log id) else lastSubmitted log id' := by
  have hcall : submittedFor id' (operation, .ok id) = if id = id' then operation.permissions else none :=
    rfl
  rw [lastSubmitted_snoc, hcall]
  by_cases hid : id' = id
  · subst hid
    rw [if_pos rfl, if_pos rfl]
  · rw [if_neg (Ne.symm hid), if_neg hid, Option.getD_none]

/-! ### Calls that fail -/

theorem Served.append {s s'' : RoleServer} {t₁ t₂ : List (Event RoleAns)}
    (h : Served s (t₁ ++ t₂) s'') : ∃ s', Served s t₁ s' ∧ Served s' t₂ s'' := by
  induction t₁ generalizing s with
  | nil => exact ⟨s, .nil, h⟩
  | cons e t₁ ih =>
    obtain - | ⟨hanswer, hrest⟩ := h
    obtain ⟨s', h₁, h₂⟩ := ih hrest
    exact ⟨s', .cons hanswer h₁, h₂⟩

theorem served_singleton {s s' : RoleServer} {e : Event RoleAns} (h : Served s [e] s') :
    Answers s e s' := by
  obtain - | ⟨hanswer, - | -⟩ := h
  exact hanswer

/-- Statements of a transaction are not seen; if none fails, each has its effect there. -/
theorem statements_served {statements : List RoleStatement} {s s' : RoleServer}
    {t : List (Event RoleAns)} {x : Except AdminError Unit}
    (hrun : (statements.forM fun statement => await (.statement statement) .settle :
      RoleProg Unit).Runs t x) (hserved : Served s t s') :
    s'.stored = s.stored ∧ (x = .ok () → ∀ db, s.working = some db →
      ∃ db', statements.foldlM RoleDb.execute db = some db' ∧ s'.working = some db') := by
  induction statements generalizing s t with
  | nil =>
    obtain ⟨rfl, rfl⟩ := hrun
    cases hserved
    exact ⟨rfl, fun _ db hdb => ⟨db, rfl, hdb⟩⟩
  | cons statement statements ih =>
    have hcons : ((await (.statement statement) .settle : RoleProg Unit) >>= fun _ =>
      statements.forM fun statement => await (.statement statement) .settle).Runs t x := hrun
    rcases runs_bind.1 hcons with ⟨e, rfl, hfirst⟩ | ⟨_, t₁, t₂, rfl, hfirst, hrest⟩
    · obtain ⟨a, rfl, ha⟩ := runs_request.1 hfirst
      obtain rfl := ha
      cases served_singleton hserved
      exact ⟨rfl, fun h => by cases h⟩
    · obtain ⟨a, rfl, ha⟩ := runs_request.1 hfirst
      obtain rfl := ha
      obtain ⟨s₁, h₁, h₂⟩ := hserved.append
      obtain ⟨hstored, heffects⟩ := ih hrest h₂
      cases served_singleton h₁ with
      | executed hworking hexecute =>
        refine ⟨hstored, fun hx db hdb => ?_⟩
        obtain rfl := Option.some.inj (hworking.symm.trans hdb)
        obtain ⟨db', hfold, hend⟩ := heffects hx _ rfl
        refine ⟨db', ?_, hend⟩
        rw [List.foldlM_cons, hexecute]
        exact hfold

/-- An update that fails leaves the tables; one that succeeds is the transaction of the service on
them. -/
theorem update_served {id : String} {dto : RoleDto} {s s' : RoleServer} {t : List (Event RoleAns)}
    {x : Except AdminError String} (hrun : (updateRoleById id dto).Runs t x) (hserved : Served s t s') :
    (∀ e, x = .error e → s'.stored = s.stored) ∧
      ∀ id', x = .ok id' → id' = id ∧ ∃ statements,
        updateRole ((s.stored.roles.find? fun role => role.id = id).map StoredRole.toAdminRole) id dto =
            .ok statements ∧
          statements.foldlM RoleDb.execute s.stored = some s'.stored := by
  unfold updateRoleById at hrun
  rcases runs_bind.1 hrun with ⟨e, rfl, hfind⟩ | ⟨current, t₁, t₂, rfl, hfind, hrest⟩
  · obtain ⟨a, rfl, rfl⟩ := runs_request.1 hfind
    cases served_singleton hserved
    exact ⟨fun _ _ => rfl, fun id' h => by cases h⟩
  obtain ⟨a, rfl, rfl⟩ := runs_request.1 hfind
  obtain ⟨s₁, h₁, hserved⟩ := hserved.append
  cases served_singleton h₁
  rcases runs_bind.1 hrest with ⟨e, rfl, rfl, -⟩ | ⟨statements, t₁, t₂, rfl, ⟨rfl, hupdate⟩, hafter⟩
  · cases hserved
    exact ⟨fun _ _ => rfl, fun id' h => by cases h⟩
  rw [List.nil_append] at hserved
  rcases runs_bind.1 hafter with ⟨e, rfl, hbegin⟩ | ⟨_, t₁, t₂, rfl, hbegin, hopen⟩
  · obtain ⟨a, rfl, rfl⟩ := runs_request.1 hbegin
    cases served_singleton hserved
    exact ⟨fun _ _ => rfl, fun id' h => by cases h⟩
  obtain ⟨a, rfl, rfl⟩ := runs_request.1 hbegin
  obtain ⟨s₁, h₁, hserved⟩ := hserved.append
  cases served_singleton h₁
  rcases runs_bind.1 hopen with ⟨e, rfl, hstatements⟩ | ⟨_, t₁, t₂, rfl, hstatements, hlast⟩
  · exact ⟨fun _ _ => (statements_served hstatements hserved).1, fun id' h => by cases h⟩
  obtain ⟨s₁, h₁, hserved⟩ := hserved.append
  obtain ⟨hstored, heffects⟩ := statements_served hstatements h₁
  obtain ⟨db', hfold, hworking⟩ := heffects rfl _ rfl
  rcases runs_bind.1 hlast with ⟨e, rfl, hcommit⟩ | ⟨_, t₁, t₂, rfl, hcommit, rfl, rfl⟩
  · obtain ⟨a, rfl, rfl⟩ := runs_request.1 hcommit
    cases served_singleton hserved
    exact ⟨fun _ _ => hstored, fun id' h => by cases h⟩
  obtain ⟨a, rfl, rfl⟩ := runs_request.1 hcommit
  rw [List.append_nil] at hserved
  cases served_singleton hserved with
  | committed hcommitted =>
    obtain rfl := Option.some.inj (hcommitted.symm.trans hworking)
    refine ⟨fun e h => (by cases h), fun id' h => ⟨(Except.ok.inj h).symm, statements, ?_, hfold⟩⟩
    exact hupdate.symm

/-- A creation that fails leaves the tables; one that succeeds inserts the role and its permissions. -/
theorem create_served {dto : NewRoleDto} {s s' : RoleServer} {t : List (Event RoleAns)}
    {x : Except AdminError String} (hrun : (createRole dto).Runs t x) (hserved : Served s t s') :
    (∀ e, x = .error e → s'.stored = s.stored) ∧
      ∀ id, x = .ok id → ∃ permissions, ∃ data : RoleCreate,
        normalizedPermissions (dto.permissions.getD []) = .ok permissions ∧
          data.permissions = permissions.map (fun permission =>
            { permission with canRead := permission.canRead || permission.canWrite }) ∧
          s.stored.create id data = some s'.stored := by
  unfold createRole at hrun
  rcases runs_bind.1 hrun with ⟨e, rfl, rfl, -⟩ | ⟨_, t₁, t₂, rfl, ⟨rfl, -⟩, hrest⟩
  · cases hserved
    exact ⟨fun _ _ => rfl, fun id h => by cases h⟩
  rw [List.nil_append] at hserved
  rcases runs_bind.1 hrest with ⟨e, rfl, rfl, -⟩ | ⟨permissions, t₁, t₂, rfl, ⟨rfl, hnormal⟩, hcreate⟩
  · cases hserved
    exact ⟨fun _ _ => rfl, fun id h => by cases h⟩
  rw [List.nil_append] at hserved
  obtain ⟨a, rfl, rfl⟩ := runs_request.1 hcreate
  cases served_singleton hserved with
  | createFails => exact ⟨fun _ _ => rfl, fun id h => by cases h⟩
  | created h =>
    refine ⟨fun e h => (by cases h), fun id hid => ?_⟩
    obtain rfl := Except.ok.inj hid
    exact ⟨permissions, _, hnormal.symm, rfl, h⟩

/-- A call that fails leaves the tables as they were. -/
theorem stored_of_failed {operation : RoleOperation} {s s' : RoleServer} {t : List (Event RoleAns)}
    {e : AdminError} (hrun : operation.program.Runs t (.error e)) (hserved : Served s t s') :
    s'.stored = s.stored := by
  cases operation with
  | create dto => exact (create_served hrun hserved).1 e rfl
  | update id dto => exact (update_served hrun hserved).1 e rfl

/-! ### The invariant -/

/-- The permissions that are stored are, for each role and type, the union of what was last submitted
for the role. -/
structure Normalised (log : RoleLog) (db : RoleDb) : Prop where
  distinct : (db.permissions.map AdminRoleConnectorPermission.ownerAndType).Nodup
  rows : ∀ row : AdminRoleConnectorPermission, row ∈ db.permissions ↔
    IsUnion (lastSubmitted log row.roleId) row.connectorType row.canRead row.canWrite
  known : ∀ id, lastSubmitted log id ≠ [] → ∃ role ∈ db.roles, role.id = id

variable {log : RoleLog} {db db' : RoleDb} {id : String} {x : Except AdminError String}

theorem normalised_nil : Normalised [] ⟨[], []⟩ where
  distinct := List.nodup_nil
  rows _ := iff_of_false List.not_mem_nil not_isUnion_nil
  known _ h := absurd rfl h

/-- A call that fails submits nothing. -/
theorem Normalised.failed (h : Normalised log db) (operation : RoleOperation) (e : AdminError) :
    Normalised (log ++ [(operation, .error e)]) db where
  distinct := h.distinct
  rows row := by
    rw [lastSubmitted_snoc]
    exact h.rows row
  known id := by
    rw [lastSubmitted_snoc]
    exact h.known id

theorem insertPermissions_eq_some {rows : List AdminRoleConnectorPermission}
    (h : db.insertPermissions rows = some db') :
    db'.roles = db.roles ∧ db'.permissions = db.permissions ++ rows ∧
      (db'.permissions.map AdminRoleConnectorPermission.ownerAndType).Nodup := by
  unfold RoleDb.insertPermissions at h
  dsimp only at h
  split_ifs at h with hnodup
  obtain rfl := Option.some.inj h
  exact ⟨rfl, rfl, hnodup⟩

/-- A role that is created has what was submitted for it. -/
theorem Normalised.created (h : Normalised log db) {dto : NewRoleDto}
    {permissions : List ConnectorPermission} {data : RoleCreate}
    (hnormal : normalizedPermissions (dto.permissions.getD []) = .ok permissions)
    (hdata : data.permissions = permissions.map fun permission =>
      { permission with canRead := permission.canRead || permission.canWrite })
    (hcreate : db.create id data = some db') :
    Normalised (log ++ [(.create dto, .ok id)]) db' := by
  unfold RoleDb.create at hcreate
  split_ifs at hcreate with htaken
  obtain ⟨hroles, hpermissions, hnodup⟩ := insertPermissions_eq_some hcreate
  have hnew : lastSubmitted log id = [] := by
    by_contra hne
    obtain ⟨role, hrole, hid⟩ := h.known id hne
    exact htaken (List.any_eq_true.2 ⟨role, hrole, by simp [hid]⟩)
  have hrows : data.permissions.map (permissionRow id) = permissions.map (permissionRow id) := by
    rw [hdata, List.map_map]
    refine List.map_congr_left fun permission _ => ?_
    simp [permissionRow]
  have hlast : ∀ id', lastSubmitted (log ++ [(.create dto, .ok id)]) id' =
      if id' = id then dto.permissions.getD [] else lastSubmitted log id' := by
    intro id'
    rw [lastSubmitted_ok, hnew]
    rfl
  refine ⟨hnodup, fun row => ?_, fun id' hne => ?_⟩
  · rw [hpermissions, List.mem_append, h.rows, hrows, mem_rows_iff hnormal, hlast]
    by_cases hid : row.roleId = id
    · rw [if_pos hid, hid, hnew]
      exact (or_iff_right not_isUnion_nil).trans (and_iff_right rfl)
    · rw [if_neg hid]
      exact or_iff_left fun hrow => hid hrow.1
  · rw [hroles]
    rw [hlast] at hne
    by_cases hid : id' = id
    · exact ⟨data.row id, List.mem_append_right _ (List.mem_singleton_self _), hid.symm⟩
    · rw [if_neg hid] at hne
      obtain ⟨role, hrole, hroleId⟩ := h.known id' hne
      exact ⟨role, List.mem_append_left _ hrole, hroleId⟩

/-- The transaction of an update, as far as the permissions go: nothing, or a replacement. -/
theorem updateRole_statements {current : Option AdminRole} {dto : RoleDto}
    {statements : List RoleStatement} (h : updateRole current id dto = .ok statements) :
    ∃ data, (dto.permissions = none ∧ statements = [.roleUpdate id data]) ∨
      ∃ submitted permissions, dto.permissions = some submitted ∧
        normalizedPermissions submitted = .ok permissions ∧
        statements = .permissionDeleteMany id ::
          (if permissions.length > 0 then [.permissionCreateMany (permissions.map (permissionRow id))]
            else []) ++ [.roleUpdate id data] := by
  cases hsubmits : dto.permissions with
  | some submitted =>
    obtain ⟨permissions, data, hnormal, heq⟩ :=
      RoleCall.statements_eq ⟨current, dto, submitted, statements, hsubmits, h⟩
    exact ⟨data, Or.inr ⟨submitted, permissions, rfl, hnormal, heq⟩⟩
  | none =>
    unfold updateRole at h
    cases current with
    | none => cases h
    | some current =>
      obtain ⟨_, -, h⟩ := bind_eq_ok.1 h
      rw [hsubmits] at h
      exact ⟨_, Or.inl ⟨rfl, (Except.ok.inj h).symm⟩⟩

/-- The columns of a role are updated; its permissions and its id stay. -/
theorem execute_roleUpdate {data : RoleUpdate} (h : db.execute (.roleUpdate id data) = some db') :
    db'.permissions = db.permissions ∧ (∃ role ∈ db'.roles, role.id = id) ∧
      ∀ role ∈ db.roles, ∃ role' ∈ db'.roles, role'.id = role.id := by
  unfold RoleDb.execute at h
  dsimp only at h
  split_ifs at h with hfound
  obtain rfl := Option.some.inj h
  have hkept : ∀ role ∈ db.roles, ∃ role' ∈ db.roles.map fun role =>
      if role.id = id then data.apply role else role, role'.id = role.id := by
    intro role hrole
    refine ⟨_, List.mem_map_of_mem hrole, ?_⟩
    split
    · rfl
    · rfl
  refine ⟨rfl, ?_, hkept⟩
  obtain ⟨role, hrole, hid⟩ := List.any_eq_true.1 hfound.1
  obtain ⟨role', hrole', hid'⟩ := hkept role hrole
  exact ⟨role', hrole', hid'.trans (of_decide_eq_true hid)⟩

/-- The old permissions of the role are deleted, and the new ones inserted. -/
theorem execute_replacement {permissions : List ConnectorPermission} {rest : List RoleStatement}
    (hdb : (db.permissions.map AdminRoleConnectorPermission.ownerAndType).Nodup)
    (h : (RoleStatement.permissionDeleteMany id ::
      (if permissions.length > 0 then [.permissionCreateMany (permissions.map (permissionRow id))]
        else []) ++ rest).foldlM RoleDb.execute db = some db') :
    ∃ db₁ : RoleDb, db₁.roles = db.roles ∧
      db₁.permissions = db.permissions.filter (·.roleId ≠ id) ++ permissions.map (permissionRow id) ∧
      (db₁.permissions.map AdminRoleConnectorPermission.ownerAndType).Nodup ∧
      rest.foldlM RoleDb.execute db₁ = some db' := by
  rw [List.cons_append, List.foldlM_cons] at h
  cases permissions with
  | nil =>
    refine ⟨{ db with permissions := db.permissions.filter (·.roleId ≠ id) }, rfl,
      (List.append_nil _).symm, ?_, h⟩
    exact hdb.sublist (List.filter_sublist.map _)
  | cons permission permissions =>
    have hlength : (permission :: permissions).length > 0 := Nat.succ_pos _
    rw [if_pos hlength] at h
    obtain ⟨deleted, hdelete, hrest⟩ := Option.bind_eq_some_iff.1 h
    obtain rfl := Option.some.inj hdelete
    obtain ⟨db₁, hinsert, hrest⟩ := Option.bind_eq_some_iff.1 hrest
    obtain ⟨hroles, hpermissions, hnodup⟩ := insertPermissions_eq_some hinsert
    exact ⟨db₁, hroles, hpermissions, hnodup, hrest⟩

/-- A role that is updated has what was submitted for it, or what it had. -/
theorem Normalised.updated (h : Normalised log db) {current : Option AdminRole} {dto : RoleDto}
    {statements : List RoleStatement} (hupdate : updateRole current id dto = .ok statements)
    (hfold : statements.foldlM RoleDb.execute db = some db') :
    Normalised (log ++ [(.update id dto, .ok id)]) db' := by
  obtain ⟨data, ⟨hnone, rfl⟩ | ⟨submitted, permissions, hsome, hnormal, rfl⟩⟩ :=
    updateRole_statements hupdate
  · have hexecute : db.execute (.roleUpdate id data) = some db' := by
      rw [List.foldlM_cons] at hfold
      obtain ⟨db₁, hexecute, hend⟩ := Option.bind_eq_some_iff.1 hfold
      obtain rfl := Option.some.inj hend
      exact hexecute
    obtain ⟨hpermissions, -, hkept⟩ := execute_roleUpdate hexecute
    have hlast : ∀ id', lastSubmitted (log ++ [(.update id dto, .ok id)]) id' =
        lastSubmitted log id' := by
      intro id'
      rw [lastSubmitted_ok]
      show (if id' = id then dto.permissions.getD (lastSubmitted log id) else _) = _
      rw [hnone]
      split
      · next hid => rw [hid, Option.getD_none]
      · rfl
    refine ⟨by rw [hpermissions]; exact h.distinct, fun row => ?_, fun id' hne => ?_⟩
    · rw [hpermissions, hlast]
      exact h.rows row
    · rw [hlast] at hne
      obtain ⟨role, hrole, hid⟩ := h.known id' hne
      obtain ⟨role', hrole', hid'⟩ := hkept role hrole
      exact ⟨role', hrole', hid'.trans hid⟩
  · obtain ⟨db₁, hroles, hpermissions, hnodup, hrest⟩ := execute_replacement h.distinct hfold
    have hexecute : db₁.execute (.roleUpdate id data) = some db' := by
      rw [List.foldlM_cons] at hrest
      obtain ⟨db₂, hexecute, hend⟩ := Option.bind_eq_some_iff.1 hrest
      obtain rfl := Option.some.inj hend
      exact hexecute
    obtain ⟨hsame, hfound, hkept⟩ := execute_roleUpdate hexecute
    have hlast : ∀ id', lastSubmitted (log ++ [(.update id dto, .ok id)]) id' =
        if id' = id then submitted else lastSubmitted log id' := by
      intro id'
      rw [lastSubmitted_ok]
      show (if id' = id then dto.permissions.getD (lastSubmitted log id) else _) = _
      rw [hsome, Option.getD_some]
    refine ⟨by rw [hsame]; exact hnodup, fun row => ?_, fun id' hne => ?_⟩
    · rw [hsame, hpermissions, List.mem_append, List.mem_filter, mem_rows_iff hnormal, h.rows, hlast]
      by_cases hid : row.roleId = id
      · rw [if_pos hid]
        simp [hid]
      · rw [if_neg hid]
        simp [hid]
    · by_cases hid : id' = id
      · rw [hid]
        exact hfound
      · rw [hlast, if_neg hid] at hne
        obtain ⟨role, hrole, hroleId⟩ := h.known id' hne
        obtain ⟨role', hrole', hid'⟩ := hkept role (by rw [hroles]; exact hrole)
        exact ⟨role', hrole', hid'.trans hroleId⟩

theorem normalised_of_calls {s : RoleServer} (h : RoleCalls log s) : Normalised log s.stored := by
  induction h with
  | nil => exact normalised_nil
  | @snoc log s s' operation t x _ hrun hserved ih =>
    cases x with
    | error e =>
      rw [stored_of_failed hrun hserved]
      exact ih.failed operation e
    | ok id =>
      cases operation with
      | create dto =>
        obtain ⟨permissions, data, hnormal, hdata, hcreate⟩ := (create_served hrun hserved).2 id rfl
        exact ih.created hnormal hdata hcreate
      | update id' dto =>
        obtain ⟨rfl, statements, hupdate, hfold⟩ := (update_served hrun hserved).2 id rfl
        exact ih.updated hupdate hfold

/-- After any calls: one row for each role and type, which is the union of what was last submitted, and
what may be written may be read; and a call that fails changes nothing. -/
theorem calls_spec {log : RoleLog} {s : RoleServer} (h : RoleCalls log s) :
    (s.stored.permissions.map AdminRoleConnectorPermission.ownerAndType).Nodup ∧
      (∀ row ∈ s.stored.permissions, row.canWrite = true → row.canRead = true) ∧
      (∀ role ∈ s.stored.roles, ∀ (connectorType : String) (canRead canWrite : Bool),
        (⟨role.id, connectorType, canRead, canWrite⟩ : AdminRoleConnectorPermission) ∈
            s.stored.permissions ↔
          IsUnion (lastSubmitted log role.id) connectorType canRead canWrite) ∧
      ∀ (operation : RoleOperation) (t : List (Event RoleAns)) (e : AdminError) (s' : RoleServer),
        operation.program.Runs t (.error e) → Served s t s' → s'.stored = s.stored := by
  have hnormalised := normalised_of_calls h
  refine ⟨hnormalised.distinct, fun row hrow hwrite => ?_, fun role _ connectorType canRead canWrite =>
    hnormalised.rows _, fun operation t e s' => stored_of_failed⟩
  obtain ⟨-, hread, hcanWrite⟩ := (hnormalised.rows row).1 hrow
  obtain ⟨permission, hmem, htype, hallows⟩ := hcanWrite.1 hwrite
  refine hread.2 ⟨permission, hmem, htype, ?_⟩
  show (permission.canRead || permission.canWrite) = true
  rw [show permission.canWrite = true from hallows, Bool.or_true]

/-- A role that is created with two permissions for one type, and an update that fails at its last
statement. -/
def operatorCalls : RoleLog :=
  [(.create ⟨"operator", "Operator", none, none, some [⟨" linux", true, false⟩, ⟨"linux", false, true⟩]⟩,
      .ok "role"),
    (.update "role" ⟨none, none, none, none, some []⟩, .error (.conflict "code"))]

def operatorTables : RoleDb where
  roles := [⟨⟨"role", "operator", "Operator", true⟩, none⟩]
  permissions := [⟨"role", "linux", true, true⟩]

theorem operator_calls : RoleCalls operatorCalls ⟨operatorTables, none⟩ := by
  have hcreate : RoleCalls [operatorCalls[0]] ⟨operatorTables, none⟩ :=
    .snoc .nil ⟨_, _, rfl, rfl, rfl⟩ (.cons (.created rfl) .nil)
  have hupdate : (updateRoleById "role" ⟨none, none, none, none, some []⟩).Runs
      [⟨.roleFindUnique "role", .ok (some ⟨⟨"role", "operator", "Operator", true⟩, none⟩)⟩,
        ⟨.txBegin, .ok ()⟩, ⟨.statement (.permissionDeleteMany "role"), .ok ()⟩,
        ⟨.statement (.roleUpdate "role" ⟨none, none, none, none⟩), .error (.conflict "code")⟩]
      (.error (.conflict "code")) := ⟨_, _, rfl, _, _, rfl, _, _, rfl, _, _, rfl, rfl, rfl⟩
  exact .snoc hcreate hupdate
    (.cons .found (.cons .began (.cons (.executed rfl rfl) (.cons .statementFails .nil))))

theorem operator_calls_spec :
    (⟨"role", "linux", true, true⟩ : AdminRoleConnectorPermission) ∈ operatorTables.permissions ↔
      IsUnion (lastSubmitted operatorCalls "role") "linux" true true :=
  (calls_spec operator_calls).2.2.1 ⟨⟨"role", "operator", "Operator", true⟩, none⟩
    (List.mem_singleton_self _) "linux" true true

end IdmMw
