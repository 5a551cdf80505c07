import IdmMw.Library.Versions
import IdmMw.Model.LinuxFleet
import IdmMw.Model.Rbac

/-!
# Replacing a set of rows

`AdminRbacService.updateRole` replaces the permissions of a role, `LinuxFleetService.setGroupHosts`
the hosts of a group: each deletes the old rows and inserts the new ones in a transaction at READ
COMMITTED.

* `RoleStatement.command`, `GroupHostStatement.command`: the statements, on versions of rows;
* `RoleCall`, `GroupHostsCall`: calls that get as far as their transaction;
* `RoleCall.replaces`, `GroupHostsCall.replaces`: the transaction replaces the set by what the call
  has submitted;
* `replacements_leave_one_set_iff`: two calls leave the set of one of them if and only if one of the
  sets is empty or their deletions do not overlap.

A deletion does not see what another transaction commits after it began. When two deletions overlap,
neither removes what the other call inserts, and both sets are stored.
-/

namespace IdmMw

open Mvcc Transitions Async AdminRbacService LinuxFleetService

/-! ### The transaction of a role -/

/-- The unique columns of `AdminRoleConnectorPermission`. -/
def AdminRoleConnectorPermission.key (row : AdminRoleConnectorPermission) : String × String :=
  (row.roleId, row.connectorType)

def AdminRoleConnectorPermission.isOf (id : String) (row : AdminRoleConnectorPermission) : Bool :=
  row.roleId = id

/-- A statement, on the versions of the permissions; the role is the owner of its permissions. -/
def AdminRbacService.RoleStatement.command : RoleStatement → Command AdminRoleConnectorPermission
  | .permissionDeleteMany roleId => .deleteWhere (AdminRoleConnectorPermission.isOf roleId)
  | .permissionCreateMany data => .insert data
  | .roleUpdate _ _ => .updateOwner

/-- A call of `updateRole` that submits permissions and gets as far as its transaction. -/
structure RoleCall (id : String) where
  current : Option AdminRole
  dto : RoleDto
  submitted : List ConnectorPermission
  statements : List RoleStatement
  submits : dto.permissions = some submitted
  accepted : updateRole current id dto = .ok statements

/-- The normalised set that a call submits. -/
def RoleCall.rows {id : String} (call : RoleCall id) : List AdminRoleConnectorPermission :=
  match normalizedPermissions call.submitted with
  | .ok permissions => permissions.map (permissionRow id)
  | .error _ => []

/-- A call that is accepted has a normalised set; its transaction deletes the old one, inserts this
one unless it is empty, and updates the role. -/
theorem RoleCall.statements_eq {id : String} (call : RoleCall id) :
    ∃ permissions data, normalizedPermissions call.submitted = .ok permissions ∧
      call.statements = .permissionDeleteMany id ::
        (if permissions.length > 0 then [.permissionCreateMany (permissions.map (permissionRow id))]
          else []) ++ [.roleUpdate id data] := by
  obtain ⟨current, dto, submitted, statements, hsubmits, haccepted⟩ := call
  unfold updateRole at haccepted
  cases current with
  | none => cases haccepted
  | some current =>
    simp only [hsubmits] at haccepted
    cases hvalid : validateRole (dto.code.getD current.code) (dto.name.getD current.name)
        (some submitted) with
    | error e => simp [hvalid, Bind.bind, Except.bind] at haccepted
    | ok _ =>
      cases hnormal : normalizedPermissions submitted with
      | error e => simp [hvalid, hnormal, Bind.bind, Except.bind] at haccepted
      | ok permissions =>
        simp only [hvalid, hnormal, Bind.bind, Except.bind, Pure.pure, Except.pure,
          Except.ok.injEq] at haccepted
        exact ⟨permissions, _, rfl, haccepted.symm⟩

theorem RoleCall.replaces {id : String} (call : RoleCall id) :
    Replaces (AdminRoleConnectorPermission.isOf id) call.rows
      (call.statements.map RoleStatement.command) := by
  obtain ⟨permissions, data, hnormal, hstatements⟩ := call.statements_eq
  have hrows : call.rows = permissions.map (permissionRow id) := by
    unfold RoleCall.rows
    rw [hnormal]
  rw [hrows, hstatements]
  refine ⟨⟨_, rfl, ?_⟩, ?_, ?_⟩
  · cases permissions <;> simp [RoleStatement.command, Command.Deletes]
  · cases permissions <;> simp [RoleStatement.command, Command.rows]
  · intro row hrow
    obtain ⟨permission, -, rfl⟩ := List.mem_map.1 hrow
    simp [AdminRoleConnectorPermission.isOf, permissionRow]

theorem addNormalized_ne_nil {map map' : List (String × ConnectorPermission)}
    {permission : ConnectorPermission} (h : addNormalized map permission = .ok map') :
    map' ≠ [] := by
  unfold addNormalized at h
  dsimp only at h
  split_ifs at h
  rintro rfl
  have hlookup := congrArg (List.lookup (trim permission.connectorType)) (Except.ok.inj h)
  rw [OrderedMap.lookup_set_self] at hlookup
  cases hlookup

theorem foldlM_addNormalized_ne_nil {permissions : List ConnectorPermission}
    {map map' : List (String × ConnectorPermission)} (hmap : map ≠ [])
    (h : permissions.foldlM addNormalized map = .ok map') : map' ≠ [] := by
  induction permissions generalizing map with
  | nil =>
    cases h
    exact hmap
  | cons permission permissions ih =>
    rw [List.foldlM_cons] at h
    cases hadd : addNormalized map permission with
    | error e => simp [hadd, Bind.bind, Except.bind] at h
    | ok map₁ =>
      rw [hadd] at h
      exact ih (addNormalized_ne_nil hadd) h

/-- Permissions are merged, not dropped: only the empty list has an empty set. -/
theorem normalizedPermissions_nil_iff {submitted permissions : List ConnectorPermission}
    (h : normalizedPermissions submitted = .ok permissions) :
    permissions = [] ↔ submitted = [] := by
  unfold normalizedPermissions at h
  cases submitted with
  | nil =>
    cases h
    simp
  | cons permission rest =>
    refine iff_of_false ?_ (by simp)
    rintro rfl
    rw [List.foldlM_cons] at h
    cases hadd : addNormalized [] permission with
    | error e => simp [hadd, Bind.bind, Except.bind, Except.map] at h
    | ok map =>
      rw [hadd] at h
      cases hfold : rest.foldlM addNormalized map with
      | error e => simp [hfold, Bind.bind, Except.bind, Except.map] at h
      | ok map' =>
        have hne := foldlM_addNormalized_ne_nil (addNormalized_ne_nil hadd) hfold
        simp [hfold, Bind.bind, Except.bind, Except.map] at h
        exact hne h

theorem RoleCall.rows_eq_nil_iff {id : String} (call : RoleCall id) :
    call.rows = [] ↔ call.submitted = [] := by
  obtain ⟨permissions, -, hnormal, -⟩ := call.statements_eq
  unfold RoleCall.rows
  rw [hnormal, ← normalizedPermissions_nil_iff hnormal]
  exact List.map_eq_nil_iff

/-! ### The transaction of a group -/

def LinuxServerGroupHost.isOf (groupId : String) (row : LinuxServerGroupHost) : Bool :=
  row.groupId = groupId

/-- A statement, on the versions of the memberships. -/
def GroupHostStatement.command : GroupHostStatement → Command LinuxServerGroupHost
  | .deleteMany groupId => .deleteWhere (LinuxServerGroupHost.isOf groupId)
  | .createMany data => .insert data

/-- The statements of the transaction in a run. -/
def transactionStatements (trace : List (Event FleetAns)) : List GroupHostStatement :=
  trace.filterMap fun e => match e.req with
    | .groupHost statement => some statement
    | _ => none

/-- A run of `setGroupHosts` that succeeds. -/
structure GroupHostsCall (groupId : String) where
  hostIds : List String
  trace : List (Event FleetAns)
  result : GroupHosts
  runs : (setGroupHosts groupId hostIds).Runs trace (.ok result)

/-- The set that a call submits. -/
def GroupHostsCall.rows {groupId : String} (call : GroupHostsCall groupId) :
    List LinuxServerGroupHost := call.hostIds.eraseDups.map fun hostId => ⟨groupId, hostId⟩

theorem transactionStatements_append {t₁ t₂ : List (Async.Event FleetAns)} :
    transactionStatements (t₁ ++ t₂) = transactionStatements t₁ ++ transactionStatements t₂ :=
  List.filterMap_append

theorem forM_groupHost_statements {statements : List GroupHostStatement}
    {trace : List (Async.Event FleetAns)}
    (h : (statements.forM groupHost : FleetProg Unit).Runs trace (.ok ())) :
    transactionStatements trace = statements := by
  induction statements generalizing trace with
  | nil =>
    obtain ⟨rfl, -⟩ := h
    rfl
  | cons statement statements ih =>
    have hcons : (groupHost statement >>= fun _ => statements.forM groupHost : FleetProg Unit).Runs
      trace (.ok ()) := h
    rcases runs_bind.1 hcons with ⟨e, he, -⟩ | ⟨_, t₁, t₂, rfl, hfirst, hrest⟩
    · cases he
    obtain ⟨a, rfl, -⟩ := runs_request.1 hfirst
    rw [transactionStatements_append, ih hrest]
    rfl

theorem transaction_statements {statements : List GroupHostStatement}
    {trace : List (Event FleetAns)} (h : (LinuxFleetService.transaction statements).Runs trace (.ok ())) :
    transactionStatements trace = statements := by
  unfold LinuxFleetService.transaction LinuxFleetService.txBegin LinuxFleetService.txCommit at h
  rcases runs_bind.1 h with ⟨e, he, -⟩ | ⟨_, t₁, t₂, rfl, hbegin, hrest⟩
  · cases he
  obtain ⟨a, rfl, -⟩ := runs_request.1 hbegin
  rcases runs_bind.1 hrest with ⟨e, he, -⟩ | ⟨_, t₃, t₄, rfl, hstatements, hcommit⟩
  · cases he
  obtain ⟨b, rfl, -⟩ := runs_request.1 hcommit
  rw [transactionStatements_append, transactionStatements_append,
    forM_groupHost_statements hstatements]
  exact List.append_nil _

theorem GroupHostsCall.statements_eq {groupId : String} (call : GroupHostsCall groupId) :
    transactionStatements call.trace = replaceGroupHosts groupId call.hostIds.eraseDups := by
  obtain ⟨hostIds, trace, result, hruns⟩ := call
  unfold setGroupHosts groupFindUnique at hruns
  rcases runs_bind.1 hruns with ⟨e, he, -⟩ | ⟨group, t₁, t₂, rfl, hfind, hrest⟩
  · cases he
  obtain ⟨a, rfl, ha⟩ := runs_request.1 hfind
  cases group with
  | none => cases hrest.2
  | some group =>
    rcases runs_bind.1 hrest with ⟨e, he, -⟩ | ⟨count, t₃, t₄, rfl, hcount, hthen⟩
    · cases he
    obtain ⟨a', rfl, -⟩ := runs_request.1 hcount
    by_cases hall : count = hostIds.eraseDups.length
    · rw [if_pos hall] at hthen
      rcases runs_bind.1 hthen with ⟨e, he, -⟩ | ⟨_, t₅, t₆, rfl, htx, rfl, -⟩
      · cases he
      rw [transactionStatements_append, transactionStatements_append, transactionStatements_append,
        transaction_statements htx]
      exact List.append_nil _
    · rw [if_neg hall] at hthen
      cases hthen.2

theorem GroupHostsCall.replaces {groupId : String} (call : GroupHostsCall groupId) :
    Replaces (LinuxServerGroupHost.isOf groupId) call.rows
      ((transactionStatements call.trace).map GroupHostStatement.command) := by
  rw [call.statements_eq]
  refine ⟨⟨_, rfl, ?_⟩, ?_, ?_⟩
  · simp [GroupHostStatement.command, Command.Deletes]
  · simp [replaceGroupHosts, GroupHostStatement.command, Command.rows, GroupHostsCall.rows]
  · intro row hrow
    obtain ⟨hostId, -, rfl⟩ := List.mem_map.1 hrow
    simp [LinuxServerGroupHost.isOf]

theorem GroupHostsCall.rows_eq_nil_iff {groupId : String} (call : GroupHostsCall groupId) :
    call.rows = [] ↔ call.hostIds = [] := by
  unfold GroupHostsCall.rows
  rw [List.map_eq_nil_iff]
  constructor
  · intro h
    cases hids : call.hostIds with
    | nil => rfl
    | cons id ids => simp [hids, List.eraseDups_cons] at h
  · intro h
    simp [h]

/-! ### Two calls -/

/-- Two accepted replacements of one set, run to their end, leave the set that one of the calls has
submitted if and only if one of the submitted sets is empty or no deletion begins while the
transaction of the other call is between its deletion and its end. -/
theorem replacements_leave_one_set_iff (roleId groupId : String)
    (roleCalls : Bool → RoleCall roleId) (groupCalls : Bool → GroupHostsCall groupId)
    (permissions : List AdminRoleConnectorPermission) (memberships : List LinuxServerGroupHost) :
    (∀ (es : List (Mvcc.Event Bool)) (s : State Bool AdminRoleConnectorPermission),
      Run (step AdminRoleConnectorPermission.key) (fun _ _ => True)
        (.initial permissions fun t => (roleCalls t).statements.map RoleStatement.command) es s →
      (∀ t, s.ended t = true) →
      ((∃ t, ∀ row, row ∈ s.stored.filter (AdminRoleConnectorPermission.isOf roleId) ↔
          row ∈ (roleCalls t).rows) ↔
        (∃ t, (roleCalls t).submitted = []) ∨
          Run (step AdminRoleConnectorPermission.key) (fun s e => ¬ Overlaps s e)
            (.initial permissions fun t => (roleCalls t).statements.map RoleStatement.command)
            es s)) ∧
    (∀ (es : List (Mvcc.Event Bool)) (s : State Bool LinuxServerGroupHost),
      Run (step id) (fun _ _ => True) (.initial memberships fun t =>
        (transactionStatements (groupCalls t).trace).map GroupHostStatement.command) es s →
      (∀ t, s.ended t = true) →
      ((∃ t, ∀ row, row ∈ s.stored.filter (LinuxServerGroupHost.isOf groupId) ↔
          row ∈ (groupCalls t).rows) ↔
        (∃ t, (groupCalls t).hostIds = []) ∨
          Run (step id) (fun s e => ¬ Overlaps s e) (.initial memberships fun t =>
            (transactionStatements (groupCalls t).trace).map GroupHostStatement.command) es s)) := by
  constructor
  · intro es s hrun hdone
    simp only [← RoleCall.rows_eq_nil_iff]
    exact replaced_iff (fun t => (roleCalls t).replaces) hrun hdone
  · intro es s hrun hdone
    simp only [← GroupHostsCall.rows_eq_nil_iff]
    exact replaced_iff (fun t => (groupCalls t).replaces) hrun hdone

/-! ### A mixture -/

/-- A call that submits one permission to read, of the type `linux` or `mssql-login`. -/
def readCall : Bool → RoleCall "role"
  | true => {
      current := some ⟨"role", "operator", "Operator", true⟩
      dto := ⟨none, none, none, none, some [⟨"linux", true, false⟩]⟩
      submitted := [⟨"linux", true, false⟩]
      statements := [.permissionDeleteMany "role",
        .permissionCreateMany [⟨"role", "linux", true, false⟩],
        .roleUpdate "role" ⟨none, none, none, none⟩]
      submits := rfl
      accepted := rfl }
  | false => {
      current := some ⟨"role", "operator", "Operator", true⟩
      dto := ⟨none, none, none, none, some [⟨"mssql-login", true, false⟩]⟩
      submitted := [⟨"mssql-login", true, false⟩]
      statements := [.permissionDeleteMany "role",
        .permissionCreateMany [⟨"role", "mssql-login", true, false⟩],
        .roleUpdate "role" ⟨none, none, none, none⟩]
      submits := rfl
      accepted := rfl }

/-- Both deletions before both insertions. -/
def overlappingEvents : List (Mvcc.Event Bool) :=
  [.search true, .finish true, .search false, .finish false, .insert true, .inserted true,
    .insert false, .inserted false, .updateOwner true, .commit true, .updateOwner false,
    .commit false]

theorem overlapping_run :
    ∃ s, Run (step AdminRoleConnectorPermission.key) (fun _ _ => True)
        (.initial [] fun t => (readCall t).statements.map RoleStatement.command)
        overlappingEvents s ∧
      (∀ t, s.ended t = true) ∧
      s.stored.filter (AdminRoleConnectorPermission.isOf "role") =
        [⟨"role", "linux", true, false⟩, ⟨"role", "mssql-login", true, false⟩] := by
  have hfold : (overlappingEvents.foldlM (step AdminRoleConnectorPermission.key)
      (.initial [] fun t => (readCall t).statements.map RoleStatement.command)).map
        (fun s => (s.ended true, s.ended false,
          s.stored.filter (AdminRoleConnectorPermission.isOf "role"))) =
      some (true, true, [⟨"role", "linux", true, false⟩, ⟨"role", "mssql-login", true, false⟩]) := rfl
  obtain ⟨s, hs, hend⟩ := Option.map_eq_some_iff.1 hfold
  have htrue := congrArg Prod.fst hend
  have hfalse := congrArg (fun x => x.2.1) hend
  exact ⟨s, .of_foldlM hs, fun t => by cases t <;> assumption, congrArg (fun x => x.2.2) hend⟩

/-- Both permissions are stored, though each call has dropped one of them. -/
theorem overlapping_replacements_mix :
    ∃ s, Run (step AdminRoleConnectorPermission.key) (fun _ _ => True)
        (.initial [] fun t => (readCall t).statements.map RoleStatement.command)
        overlappingEvents s ∧
      (∀ t, s.ended t = true) ∧
      ¬ ∃ t, ∀ row, row ∈ s.stored.filter (AdminRoleConnectorPermission.isOf "role") ↔
        row ∈ (readCall t).rows := by
  obtain ⟨s, hrun, hdone, hstored⟩ := overlapping_run
  refine ⟨s, hrun, hdone, ?_⟩
  rintro ⟨t, ht⟩
  rw [hstored] at ht
  cases t with
  | true =>
    have hrows : (readCall true).rows = [⟨"role", "linux", true, false⟩] := rfl
    have hrow := (ht ⟨"role", "mssql-login", true, false⟩).1 (by simp)
    rw [hrows] at hrow
    simp at hrow
  | false =>
    have hrows : (readCall false).rows = [⟨"role", "mssql-login", true, false⟩] := rfl
    have hrow := (ht ⟨"role", "linux", true, false⟩).1 (by simp)
    rw [hrows] at hrow
    simp at hrow

/-- A call that takes the only host out of the group, and one that puts it in. -/
def hostsCall : Bool → GroupHostsCall "web"
  | true => {
      hostIds := []
      trace := [⟨.groupFindUnique "web", .ok (some ⟨"web", "linux-prod", "web", "Web", none, true⟩)⟩,
        ⟨.hostCount [] "linux-prod", .ok 0⟩, ⟨.txBegin, .ok ()⟩,
        ⟨.groupHost (.deleteMany "web"), .ok ()⟩, ⟨.groupHost (.createMany []), .ok ()⟩,
        ⟨.txCommit, .ok ()⟩]
      result := ⟨"web", []⟩
      runs := ⟨_, _, rfl, _, _, rfl, _, _, rfl, _, _, rfl, _, _, rfl, _, _, rfl, rfl, rfl⟩ }
  | false => {
      hostIds := ["host"]
      trace := [⟨.groupFindUnique "web", .ok (some ⟨"web", "linux-prod", "web", "Web", none, true⟩)⟩,
        ⟨.hostCount ["host"] "linux-prod", .ok 1⟩, ⟨.txBegin, .ok ()⟩,
        ⟨.groupHost (.deleteMany "web"), .ok ()⟩,
        ⟨.groupHost (.createMany [⟨"web", "host"⟩]), .ok ()⟩, ⟨.txCommit, .ok ()⟩]
      result := ⟨"web", ["host"]⟩
      runs := ⟨_, _, rfl, _, _, rfl, _, _, rfl, _, _, rfl, _, _, rfl, _, _, rfl, rfl, rfl⟩ }

theorem group_run :
    ∃ s, Run (step id) (fun _ _ => True)
        (.initial [⟨"web", "host"⟩] fun t =>
          (transactionStatements (hostsCall t).trace).map GroupHostStatement.command)
        [.search true, .search false, .visit true 0, .finish true, .inserted true, .commit true,
          .visit false 0, .finish false, .insert false, .inserted false, .commit false] s ∧
      (∀ t, s.ended t = true) ∧
      s.stored.filter (LinuxServerGroupHost.isOf "web") = [⟨"web", "host"⟩] := by
  have hfold : ([.search true, .search false, .visit true 0, .finish true, .inserted true,
      .commit true, .visit false 0, .finish false, .insert false, .inserted false,
      .commit false].foldlM (step id)
      (.initial [⟨"web", "host"⟩] fun t =>
        (transactionStatements (hostsCall t).trace).map GroupHostStatement.command)).map
        (fun s => (s.ended true, s.ended false,
          s.stored.filter (LinuxServerGroupHost.isOf "web"))) =
      some (true, true, [⟨"web", "host"⟩]) := rfl
  obtain ⟨s, hs, hend⟩ := Option.map_eq_some_iff.1 hfold
  have htrue := congrArg Prod.fst hend
  have hfalse := congrArg (fun x => x.2.1) hend
  exact ⟨s, .of_foldlM hs, fun t => by cases t <;> assumption, congrArg (fun x => x.2.2) hend⟩

/-- The overlapping deletions of a role are not apart, and a call that empties the group leaves the
set of the other one. -/
theorem replacements_leave_one_set_iff_examples :
    (∃ s, Run (step AdminRoleConnectorPermission.key) (fun _ _ => True)
        (.initial [] fun t => (readCall t).statements.map RoleStatement.command)
        overlappingEvents s ∧
      ((∃ t, ∀ row, row ∈ s.stored.filter (AdminRoleConnectorPermission.isOf "role") ↔
          row ∈ (readCall t).rows) ↔
        (∃ t, (readCall t).submitted = []) ∨
          Run (step AdminRoleConnectorPermission.key) (fun s e => ¬ Overlaps s e)
            (.initial [] fun t => (readCall t).statements.map RoleStatement.command)
            overlappingEvents s)) ∧
    ∃ s : State Bool LinuxServerGroupHost,
      ∃ t, ∀ row, row ∈ s.stored.filter (LinuxServerGroupHost.isOf "web") ↔
        row ∈ (hostsCall t).rows := by
  obtain ⟨s, hrun, hdone, -⟩ := overlapping_run
  obtain ⟨s', hrun', hdone', -⟩ := group_run
  obtain ⟨hroles, hgroups⟩ := replacements_leave_one_set_iff "role" "web" readCall hostsCall []
    [⟨"web", "host"⟩]
  exact ⟨⟨s, hrun, hroles _ s hrun hdone⟩, s', (hgroups _ s' hrun' hdone').2 (Or.inl ⟨true, rfl⟩)⟩

end IdmMw
