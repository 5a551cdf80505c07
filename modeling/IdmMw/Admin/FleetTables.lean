import IdmMw.Library.Pool
import IdmMw.Model.LinuxFleet

/-!
# The inventory in the database

How the statements of `LinuxFleetService` are answered when any number of operations share the
tables. Each statement is a transaction of its own, except for those that replace the hosts of a
group: their effects are seen by others only when they are committed.

* `FleetState`: the rows, the ids that have been given, and the open transactions;
* `FleetEnv`: how requests are answered; a foreign key must name a row, and the rows that name a
  deleted row go with it (`onDelete: Cascade`) or are cleared (`onDelete: SetNull`);
* `FleetTick`: target systems come and go, and connections break.

The ids are new (`uuid()`): an id that has been given to a row is not given again. That names are
unique only makes more statements fail, which any statement may.
-/

namespace IdmMw

/-! ### What a statement makes of a row -/

def CredentialProfileCreate.row (data : CredentialProfileCreate) (id : String) :
    LinuxCredentialProfile where
  id := id
  targetSystemId := data.targetSystemId
  name := data.name
  mode := data.mode.text
  username := data.username
  privateKeyRef := data.privateKeyRef
  passwordRef := data.passwordRef
  enabled := data.enabled

def CredentialProfileUpdate.apply (data : CredentialProfileUpdate) (row : LinuxCredentialProfile) :
    LinuxCredentialProfile :=
  { row with
    name := data.name.getD row.name
    mode := (data.mode.map LinuxSecretMode.text).getD row.mode
    username := data.username.getD row.username
    privateKeyRef := data.privateKeyRef.or row.privateKeyRef
    passwordRef := data.passwordRef.or row.passwordRef
    enabled := data.enabled.getD row.enabled }

def HostCreate.row (data : HostCreate) (id : String) : LinuxHost where
  id := id
  targetSystemId := data.targetSystemId
  credentialProfileId := data.credentialProfileId
  name := data.name
  host := data.host
  port := data.port
  hostFingerprint := data.hostFingerprint
  enabled := data.enabled
  metadata := some data.metadata

def HostUpdate.apply (data : HostUpdate) (row : LinuxHost) : LinuxHost :=
  { row with
    name := data.name.getD row.name
    host := data.host.getD row.host
    port := data.port.getD row.port
    hostFingerprint := data.hostFingerprint.getD row.hostFingerprint
    credentialProfileId := data.credentialProfileId.getD row.credentialProfileId
    enabled := data.enabled.getD row.enabled
    metadata := data.metadata.or row.metadata }

def ServerGroupCreate.row (data : ServerGroupCreate) (id : String) : LinuxServerGroup where
  id := id
  targetSystemId := data.targetSystemId
  code := data.code
  name := data.name
  description := data.description
  enabled := data.enabled

def ServerGroupUpdate.apply (data : ServerGroupUpdate) (row : LinuxServerGroup) :
    LinuxServerGroup :=
  { row with
    code := data.code.getD row.code
    name := data.name.getD row.name
    description := data.description.getD row.description
    enabled := data.enabled.getD row.enabled }

/-- `onDelete: SetNull` for the profile `id`. -/
def LinuxHost.withoutProfile (id : String) (row : LinuxHost) : LinuxHost :=
  if row.credentialProfileId = some id then { row with credentialProfileId := none } else row

/-- The row, updated if it has the id. -/
def updateAt {α : Type} (key : α → String) (id : String) (f : α → α) (row : α) : α :=
  if key row = id then f row else row

/-! ### The tables -/

/-- What an open transaction has removed and added. -/
structure FleetTx where
  removed : List LinuxServerGroupHost
  added : List LinuxServerGroupHost

structure FleetState (ι : Type) where
  targetSystems : List TargetSystem
  profiles : List LinuxCredentialProfile
  hosts : List LinuxHost
  groups : List LinuxServerGroup
  memberships : List LinuxServerGroupHost
  issued : List String
  tx : ι → Option FleetTx

namespace FleetState

variable {ι : Type}

/-- The target systems, and no inventory yet. -/
def empty (targetSystems : List TargetSystem) : FleetState ι :=
  ⟨targetSystems, [], [], [], [], [], fun _ => none⟩

variable (s : FleetState ι)

def HasTargetSystem (id : String) : Prop := ∃ row ∈ s.targetSystems, row.id = id
def HasProfile (id : String) : Prop := ∃ row ∈ s.profiles, row.id = id
def HasHost (id : String) : Prop := ∃ row ∈ s.hosts, row.id = id
def HasGroup (id : String) : Prop := ∃ row ∈ s.groups, row.id = id

/-- No open transaction has added a membership for which `P` holds: the rows that it names are
locked until the transaction ends. -/
def Unlocked (P : LinuxServerGroupHost → Prop) : Prop :=
  ∀ i t, s.tx i = some t → ∀ row ∈ t.added, ¬ P row

def deleteProfile (id : String) : FleetState ι :=
  { s with
    profiles := s.profiles.filter (·.id ≠ id)
    hosts := s.hosts.map (LinuxHost.withoutProfile id) }

def deleteHost (id : String) : FleetState ι :=
  { s with
    hosts := s.hosts.filter (·.id ≠ id)
    memberships := s.memberships.filter (·.hostId ≠ id) }

def deleteGroup (id : String) : FleetState ι :=
  { s with
    groups := s.groups.filter (·.id ≠ id)
    memberships := s.memberships.filter (·.groupId ≠ id) }

def deleteTargetSystem (id : String) : FleetState ι :=
  { s with
    targetSystems := s.targetSystems.filter (·.id ≠ id)
    profiles := s.profiles.filter (·.targetSystemId ≠ id)
    hosts := (s.hosts.filter (·.targetSystemId ≠ id)).map fun host =>
      if ∃ profile ∈ s.profiles, some profile.id = host.credentialProfileId ∧
          profile.targetSystemId = id
      then { host with credentialProfileId := none } else host
    groups := s.groups.filter (·.targetSystemId ≠ id)
    memberships := s.memberships.filter fun row =>
      !(s.groups.any fun group => group.id = row.groupId && group.targetSystemId = id) &&
      !(s.hosts.any fun host => host.id = row.hostId && host.targetSystemId = id) }

variable [DecidableEq ι]

def setTx (i : ι) (t : Option FleetTx) : FleetState ι :=
  { s with tx := Function.update s.tx i t }

end FleetState

/-- The answer of a statement that fails. -/
def FleetReq.failure (r : FleetReq) (e : AdminError) : FleetAns r :=
  match r with
  | .targetSystemFindUnique _ | .profileFindUnique _ | .profileFindFirst _ _ => .error e
  | .profileCreate _ | .profileUpdate _ _ | .profileDelete _ => .error e
  | .hostFindUnique _ | .hostCreate _ | .hostUpdate _ _ | .hostDelete _ | .hostCount _ _ => .error e
  | .groupFindUnique _ | .groupCreate _ | .groupUpdate _ _ | .groupDelete _ => .error e
  | .txBegin | .groupHost _ | .txCommit => .error e

variable {ι : Type} [DecidableEq ι]

/-- How the request `r` of slot `i` may be answered. -/
inductive FleetEnv : ι → FleetState ι → (r : FleetReq) → FleetAns r → FleetState ι → Prop
  | targetSystemFindUnique {i s id} : FleetEnv i s (.targetSystemFindUnique id)
      (.ok (s.targetSystems.find? (·.id = id))) s
  | profileFindUnique {i s id} : FleetEnv i s (.profileFindUnique id)
      (.ok (s.profiles.find? (·.id = id))) s
  | profileFindFirst {i s id targetSystemId} : FleetEnv i s (.profileFindFirst id targetSystemId)
      (.ok (s.profiles.find? fun row => row.id = id && row.targetSystemId = targetSystemId)) s
  | hostFindUnique {i s id} : FleetEnv i s (.hostFindUnique id)
      (.ok (s.hosts.find? (·.id = id))) s
  | groupFindUnique {i s id} : FleetEnv i s (.groupFindUnique id)
      (.ok (s.groups.find? (·.id = id))) s
  | hostCount {i s ids targetSystemId} : FleetEnv i s (.hostCount ids targetSystemId)
      (.ok (s.hosts.countP fun row => ids.contains row.id && row.targetSystemId = targetSystemId)) s
  | profileCreate {i s data id} (hid : id ∉ s.issued)
      (htarget : s.HasTargetSystem data.targetSystemId) :
      FleetEnv i s (.profileCreate data) (.ok (data.row id))
        { s with profiles := s.profiles ++ [data.row id], issued := id :: s.issued }
  | profileUpdate {i s id data row} (hrow : row ∈ s.profiles) (hid : row.id = id) :
      FleetEnv i s (.profileUpdate id data) (.ok (data.apply row))
        { s with profiles := s.profiles.map (updateAt LinuxCredentialProfile.id id data.apply) }
  | profileDelete {i s id} (hrow : s.HasProfile id) :
      FleetEnv i s (.profileDelete id) (.ok ()) (s.deleteProfile id)
  | hostCreate {i s data id} (hid : id ∉ s.issued) (htarget : s.HasTargetSystem data.targetSystemId)
      (hprofile : ∀ p, data.credentialProfileId = some p → s.HasProfile p) :
      FleetEnv i s (.hostCreate data) (.ok (data.row id))
        { s with hosts := s.hosts ++ [data.row id], issued := id :: s.issued }
  | hostUpdate {i s id data row} (hrow : row ∈ s.hosts) (hid : row.id = id)
      (hprofile : ∀ p, data.credentialProfileId = some (some p) → s.HasProfile p) :
      FleetEnv i s (.hostUpdate id data) (.ok (data.apply row))
        { s with hosts := s.hosts.map (updateAt LinuxHost.id id data.apply) }
  | hostDelete {i s id} (hrow : s.HasHost id) (hfree : s.Unlocked (·.hostId = id)) :
      FleetEnv i s (.hostDelete id) (.ok ()) (s.deleteHost id)
  | groupCreate {i s data id} (hid : id ∉ s.issued)
      (htarget : s.HasTargetSystem data.targetSystemId) :
      FleetEnv i s (.groupCreate data) (.ok (data.row id))
        { s with groups := s.groups ++ [data.row id], issued := id :: s.issued }
  | groupUpdate {i s id data row} (hrow : row ∈ s.groups) (hid : row.id = id) :
      FleetEnv i s (.groupUpdate id data) (.ok (data.apply row))
        { s with groups := s.groups.map (updateAt LinuxServerGroup.id id data.apply) }
  | groupDelete {i s id} (hrow : s.HasGroup id) (hfree : s.Unlocked (·.groupId = id)) :
      FleetEnv i s (.groupDelete id) (.ok ()) (s.deleteGroup id)
  | txBegin {i s} : FleetEnv i s .txBegin (.ok ()) (s.setTx i (some ⟨[], []⟩))
  | deleteMany {i s groupId t removed} (ht : s.tx i = some t)
      (hremoved : ∀ row ∈ removed, row.groupId = groupId) :
      FleetEnv i s (.groupHost (.deleteMany groupId)) (.ok ())
        (s.setTx i (some ⟨t.removed ++ removed, t.added⟩))
  | createMany {i s data t} (ht : s.tx i = some t)
      (hkeys : ∀ row ∈ data, s.HasGroup row.groupId ∧ s.HasHost row.hostId) :
      FleetEnv i s (.groupHost (.createMany data)) (.ok ())
        (s.setTx i (some ⟨t.removed, t.added ++ data⟩))
  | txCommit {i s t} (ht : s.tx i = some t) :
      FleetEnv i s .txCommit (.ok ())
        { s.setTx i none with
          memberships := s.memberships.filter (fun row => !t.removed.contains row) ++ t.added }
  | failed {i s r e} : FleetEnv i s r (r.failure e) (s.setTx i none)
  | lost {i s r a e s'} (h : FleetEnv i s r a s') : FleetEnv i s r (r.failure e) s'

/-- A target system is created or deleted, with what belongs to it; or the connection of an open
transaction breaks. -/
inductive FleetTick : FleetState ι → FleetState ι → Prop
  | created {s row} : FleetTick s { s with targetSystems := s.targetSystems ++ [row] }
  | deleted {s id} (hfree : s.Unlocked fun row =>
        (∃ group ∈ s.groups, group.id = row.groupId ∧ group.targetSystemId = id) ∨
        ∃ host ∈ s.hosts, host.id = row.hostId ∧ host.targetSystemId = id) :
      FleetTick s (s.deleteTargetSystem id)
  | disconnected {s i} : FleetTick s (s.setTx i none)

end IdmMw
