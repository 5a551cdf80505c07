import IdmMw.Admin.GroupSettings
import IdmMw.Connectors.ShellWords

/-!
# Which accepted configurations fail

The group settings of a Linux target, and the four connectors together.

* `LinuxExpected`: what the surroundings of the connector answer; the stored configurations are
  accepted;
* `executeWith_spares`: the settings of a Linux target are always read;
* `CreateFails`: the creation of a user may end with an error about the settings;
* `not_createFails_iff`: it does for the configurations with a default group that is no reference.
-/

namespace IdmMw

open Async

/-! ### Linux -/

/-- An answer that is no error about the settings. What is stored has been accepted. -/
def LinuxExpected : Event LinuxAns → Prop
  | ⟨.targetSystemFindUnique _, answer⟩ => Spares IsSettingsError answer ∧
      ∀ row, answer = .ok (some row) → row.type = "linux" →
        SettingsAccepted "linux" (LinuxConnectorService.configRecord row.config)
  | ⟨.hostCount _, answer⟩ => Spares IsSettingsError answer
  | ⟨.serverGroupFindMany _ _, answer⟩ => Spares IsSettingsError answer
  | ⟨.serverGroupList _ _, answer⟩ => Spares IsSettingsError answer
  | ⟨.serverGroupFindFirst _ _, answer⟩ => Spares IsSettingsError answer
  | ⟨.secretEnv _, _⟩ => True
  | ⟨.pamGetValue _, answer⟩ => Spares IsSettingsError answer
  | ⟨.ssh _ _ _, answer⟩ => Spares IsSettingsError answer
  | ⟨.remoteRequest _ _ _ _, answer⟩ => Spares IsSettingsError answer

namespace LinuxConnectorService

variable {js : Runtime} {config : Settings} {data params : Json} {payload : ConnectorPayload}

/-- A program with no error about the settings. -/
abbrev Unaffected {α : Type} (p : LinuxProg α) : Prop :=
  SparesRuns IsSettingsError LinuxExpected p

theorem login_spares (config : Json) : Spares IsSettingsError (login js data params config) := by
  unfold login
  split
  · exact spares_other (by simp [beginsOtherwise])
  · dsimp only
    split
    · exact spares_ok
    · exact spares_error (by decide +kernel)

theorem password_spares (required : Bool) : Spares IsSettingsError (password data required) := by
  unfold password
  split
  · exact spares_ok
  · split
    · exact spares_other (by simp [beginsOtherwise])
    · exact spares_ok

theorem mappedGroups_spares (h : SettingsAccepted "linux" config) (mapping : GroupMappingSettings)
    (target : LinuxGroupMappingTarget) :
    Spares IsSettingsError (mappedGroups js data (.obj config) mapping target) := by
  obtain ⟨-, htarget⟩ := h.readable (by decide)
  obtain ⟨target', htarget⟩ := htarget rfl target
  unfold mappedGroups
  split
  · rw [htarget]
    show Spares _ (if target' = target then _ else _)
    split
    · exact groupRefTexts_groups _
    · exact spares_pure
  · exact spares_pure

theorem groups_spares (h : SettingsAccepted "linux" config) :
    Spares IsSettingsError (groups js (.obj config) data) := by
  obtain ⟨⟨mode, hreadable⟩, -⟩ := h.readable (by decide)
  obtain ⟨items, hitems⟩ := spread_of_readable hreadable
  unfold groups
  rw [groupMappingSettings_of_readable hreadable]
  refine Spares.bind spares_ok fun mapping _ => (mappedGroups_spares h _ _).bind fun mapped _ =>
    Spares.bind ?_ fun defaults _ => spares_mapM fun group _ => ?_
  · rw [Json.get?_obj, hitems]
    exact spares_ok
  · unfold groupName
    split
    · exact spares_ok
    · exact spares_error (by decide +kernel)

theorem execSshWithInput_spares (config : Json) (command : String) (input : Option String) :
    Unaffected (execSshWithInput config command input) := by
  refine sparesRuns_check ?_ fun connection _ => sparesRuns_request fun _ h => h
  unfold connectConfig
  split
  · exact spares_other (by simp [beginsOtherwise])
  · split
    · exact spares_other (by simp [beginsOtherwise])
    · split
      · exact spares_other (by simp [beginsOtherwise])
      · exact spares_ok

theorem sshCreate_spares (h : SettingsAccepted "linux" config) :
    Unaffected (sshCreate js (.obj config) data params) := by
  refine sparesRuns_check (login_spares _) fun account _ => ?_
  refine sparesRuns_check ?_ fun command _ => ?_
  · refine (groups_spares h).bind fun groups _ => Spares.bind ?_ fun shell _ => spares_pure
    unfold argOf
    split
    · exact spares_ok
    · exact spares_other (by simp [beginsOtherwise])
  · refine (execSshWithInput_spares _ _ _).bind fun _ => ?_
    refine sparesRuns_check (password_spares true) fun secret _ => ?_
    exact (execSshWithInput_spares _ _ _).bind fun _ => sparesRuns_pure

/-! The settings of a host are those of the target, but for its connection. -/

theorem accepted_hostSettings (h : SettingsAccepted "linux" config) (host : LinuxHost)
    (profile : LinuxCredentialProfile) (privateKey password : Option String) : ∃ config',
      hostSettings (.obj config) host profile privateKey password = .obj config' ∧
      SettingsAccepted "linux" config' := by
  refine ⟨_, rfl, ?_⟩
  have hsame := hostSettings_same config host profile privateKey password
  refine (TargetSystemService.validateTargetSystemConfig_of_outline "linux"
    fun field hfield => ?_).trans
    h
  have hfields : ∀ field ∈ TargetSystemService.checkedFields, field ∉ connectionKeys := by decide
  exact congrArg (Option.map TargetSystemService.outline) (hsame field (hfields field hfield))

theorem executeSsh_spares (hoperation : payload.operation = "user.create")
    (h : SettingsAccepted "linux" config) : Unaffected (executeSsh js payload (.obj config)) := by
  unfold executeSsh
  rw [hoperation]
  exact sshCreate_spares h

theorem executeRemoteAgent_spares (hoperation : payload.operation = "user.create")
    (config : Json) : Unaffected (executeRemoteAgent js payload config) := by
  unfold executeRemoteAgent
  rw [hoperation]
  refine sparesRuns_check (login_spares _) fun account _ => ?_
  refine sparesRuns_check (password_spares true) fun secret _ => ?_
  exact sparesRuns_request fun _ h => h

/-- The configuration that is stored for the target is read again for the groups of servers. -/
theorem fleetTargetSystem_accepted {name : String} {t : List (Event LinuxAns)} {row : TargetSystem}
    (h : (fleetTargetSystem name).Runs t (.ok row)) (ht : ∀ v ∈ t, LinuxExpected v) :
    SettingsAccepted "linux" (configRecord row.config) := by
  obtain ⟨found, t₁, t₂, rfl, hfind, hrest⟩ := runs_bind_ok.1 h
  obtain ⟨answer, rfl, hanswer⟩ := runs_request.1 hfind
  have hexpected := ht _ (List.mem_append_left _ List.mem_cons_self)
  cases found with
  | none => cases hrest.2
  | some row' =>
    dsimp only at hrest
    split at hrest
    · next htype =>
      obtain rfl := Except.ok.inj hrest.2
      exact hexpected.2 row hanswer.symm htype
    · cases hrest.2

theorem fleetTargetSystem_spares (name : String) : Unaffected (fleetTargetSystem name) := by
  refine SparesRuns.bind (sparesRuns_request fun _ h => h.1) fun found => ?_
  split
  · split
    · exact sparesRuns_pure
    · exact sparesRuns_settle (spares_other (by simp [beginsOtherwise]))
  · exact sparesRuns_settle (spares_other (by simp [beginsOtherwise]))

theorem fleetGroupCodes_spares (h : SettingsAccepted "linux" config) :
    Spares IsSettingsError (fleetGroupCodes js (.obj config) data params) := by
  obtain ⟨⟨mode, hreadable⟩, -⟩ := h.readable (by decide)
  unfold fleetGroupCodes
  rw [groupMappingSettings_of_readable hreadable]
  exact Spares.bind spares_ok fun mapping _ => (mappedGroups_spares h _ _).bind fun _ _ =>
    spares_pure

theorem resolveFleetHosts_spares : Unaffected (resolveFleetHosts js payload) := by
  refine (fleetTargetSystem_spares _).bind_of_runs fun t row hrun ht => ?_
  have haccepted := fleetTargetSystem_accepted hrun ht
  refine sparesRuns_check (fleetGroupCodes_spares haccepted) fun codes _ => ?_
  split
  · exact sparesRuns_settle (spares_other (by simp [beginsOtherwise]))
  · refine SparesRuns.bind (sparesRuns_request fun _ h => h) fun groups => ?_
    split
    · exact sparesRuns_settle (spares_other (by simp [beginsOtherwise]))
    · dsimp only
      split
      · exact sparesRuns_settle (spares_other (by simp [beginsOtherwise]))
      · exact sparesRuns_pure

theorem hostSshConfig_spares (config : Json) (host : FleetHost) :
    Unaffected (hostSshConfig config host) := by
  have hsecret : ∀ ref mode, Unaffected (optionalSecret ref mode) := by
    intro ref mode
    unfold optionalSecret
    split
    · exact sparesRuns_pure
    · split
      · exact sparesRuns_pure
      · refine SparesRuns.bind ?_ fun _ => sparesRuns_pure
        unfold resolveSecretRef
        split
        · refine SparesRuns.bind (sparesRuns_request fun _ _ => spares_ok) fun resolved => ?_
          have hmissing : BeginsOtherwise "Missing Linux env secret '" := ⟨'M', rfl, by decide⟩
          split
          · split
            · exact sparesRuns_settle ((hmissing.append _).append _).spares
            · exact sparesRuns_pure
          · exact sparesRuns_settle ((hmissing.append _).append _).spares
        · split
          · exact sparesRuns_request fun _ h => h
          · exact sparesRuns_settle (spares_other (by simp [beginsOtherwise]))
  unfold hostSshConfig
  split
  · have hprofile : BeginsOtherwise "Linux host '" := ⟨'L', rfl, by decide⟩
    exact sparesRuns_settle ((hprofile.append _).append _).spares
  · exact (hsecret _ _).bind fun _ => (hsecret _ _).bind fun _ => sparesRuns_pure

theorem executeFleetUserOperation_spares (config : Json) :
    Unaffected (executeFleetUserOperation js payload config) := by
  have hresults : ∀ hosts, Unaffected (hostResults js payload config hosts) := by
    intro hosts
    induction hosts with
    | nil => exact sparesRuns_pure
    | cons host hosts ih =>
      refine (hostSshConfig_spares config host).bind fun hostConfig => ?_
      exact sparesRuns_attempt.bind fun result => ih.bind fun results => sparesRuns_pure
  refine resolveFleetHosts_spares.bind fun hosts => (hresults hosts).bind fun results => ?_
  dsimp only
  split
  · have hfleet : BeginsOtherwise "Linux fleet operation failed: " := ⟨'L', rfl, by decide⟩
    exact sparesRuns_settle (hfleet.append _).spares
  · exact sparesRuns_pure

theorem executeWith_spares (hoperation : payload.operation = "user.create")
    (h : SettingsAccepted "linux" config) (provider : Json) :
    Unaffected (executeWith js payload (.obj config) provider) := by
  unfold executeWith
  split
  · exact executeRemoteAgent_spares hoperation _
  · unfold executeSshFleet
    rw [hoperation]
    exact executeFleetUserOperation_spares _
  · exact executeSsh_spares hoperation h

end LinuxConnectorService

/-! ### The four connectors -/

/-- The creation of a user may end with an error about the settings; with an inventory, also on one of
its hosts. -/
def CreateFails (js : Runtime) (type : String) (config : Settings) (payload : ConnectorPayload) :
    Prop :=
  (type = "postgres-role" ∧ isTruthy (config.lookup "connectionString") = true ∧
    FailsWith IsSettingsError PostgresExpected (PostgresRoleConnectorService.executeWithPool js
      payload.operation (.obj config) payload.data payload.params)) ∨
  (type = "mssql-login" ∧ isTruthy (config.lookup "connectionString") = true ∧
    FailsWith IsSettingsError MssqlExpected (MssqlLoginConnectorService.executeWithPool js
      payload.operation (.obj config) payload.data payload.params)) ∨
  (type = "passwork" ∧ isTruthy (config.lookup "baseUrl") = true ∧
    (PassworkConnectorService.getAuthToken (.obj config)).isSome = true ∧
    FailsWith IsSettingsError PassworkExpected (PassworkConnectorService.perform js
      payload.operation (.obj config) payload.data payload.params)) ∨
  (type = "linux" ∧ ((∃ provider, FailsWith IsSettingsError LinuxExpected
      (LinuxConnectorService.executeWith js payload (.obj config) provider)) ∨
    ∃ host profile privateKey password, FailsWith IsSettingsError LinuxExpected
      (LinuxConnectorService.executeSsh js (LinuxConnectorService.withData payload
        (LinuxConnectorService.withPosixGroups (payload.payload.get? "data")))
        (LinuxConnectorService.hostSettings (.obj config) host profile privateKey password))))

/-- The type maps the default groups to groups, and the target can be reached. -/
def Reaches (type : String) (config : Settings) : Prop :=
  (type = "postgres-role" ∨ type = "mssql-login") ∧
    isTruthy (config.lookup "connectionString") = true ∨
  type = "passwork" ∧ isTruthy (config.lookup "baseUrl") = true ∧
    (PassworkConnectorService.getAuthToken (.obj config)).isSome = true

/-- A payload for a new user that the connector of the type can use. -/
structure WellFormedCreate (js : Runtime) (type : String) (config : Settings)
    (payload : ConnectorPayload) : Prop where
  operation : payload.operation = "user.create"
  settings : payload.config = some (.obj config)
  postgres : type = "postgres-role" →
    PostgresRoleConnectorService.WellFormed js config payload.data
  mssql : type = "mssql-login" → MssqlLoginConnectorService.WellFormed js config payload.data

section

variable {js : Runtime} {type : String} {config : Settings} {payload : ConnectorPayload}

theorem createFails_of_unmapped (hpayload : WellFormedCreate js type config payload)
    (hreaches : Reaches type config) (h : Unmapped config) : CreateFails js type config payload := by
  unfold CreateFails
  rw [hpayload.operation]
  rcases hreaches with ⟨htype | htype, hconnected⟩ | ⟨htype, hbase, htoken⟩
  · exact Or.inl ⟨htype, hconnected,
      PostgresRoleConnectorService.createRole_fails (hpayload.postgres htype) h⟩
  · exact Or.inr (Or.inl ⟨htype, hconnected,
      MssqlLoginConnectorService.createLogin_fails (hpayload.mssql htype) h⟩)
  · exact Or.inr (Or.inr (Or.inl ⟨htype, hbase, htoken,
      PassworkConnectorService.callOperation_fails h⟩))

theorem unmapped_of_createFails (haccepted : SettingsAccepted type config)
    (hoperation : payload.operation = "user.create") (h : CreateFails js type config payload) :
    Reaches type config ∧ Unmapped config := by
  unfold CreateFails at h
  rw [hoperation] at h
  by_contra hnot
  rcases h with ⟨rfl, hconnected, hfails⟩ | ⟨rfl, hconnected, hfails⟩ |
    ⟨rfl, hbase, htoken, hfails⟩ | ⟨rfl, hlinux⟩
  · obtain ⟨⟨mode, hreadable⟩, -⟩ := haccepted.readable (by decide)
    refine sparesRuns_iff.1 (PostgresRoleConnectorService.createRole_spares hreadable ?_) hfails
    exact fun hunmapped => hnot ⟨Or.inl ⟨Or.inl rfl, hconnected⟩, hunmapped⟩
  · obtain ⟨⟨mode, hreadable⟩, -⟩ := haccepted.readable (by decide)
    refine sparesRuns_iff.1 (MssqlLoginConnectorService.createLogin_spares hreadable ?_) hfails
    exact fun hunmapped => hnot ⟨Or.inl ⟨Or.inr rfl, hconnected⟩, hunmapped⟩
  · obtain ⟨⟨mode, hreadable⟩, -⟩ := haccepted.readable (by decide)
    refine sparesRuns_iff.1 (PassworkConnectorService.callOperation_spares hreadable ?_) hfails
    exact fun hunmapped => hnot ⟨Or.inr ⟨rfl, hbase, htoken⟩, hunmapped⟩
  · rcases hlinux with ⟨provider, hfails⟩ | ⟨host, profile, privateKey, password, hfails⟩
    · exact sparesRuns_iff.1
        (LinuxConnectorService.executeWith_spares hoperation haccepted provider) hfails
    · obtain ⟨config', hconfig', haccepted'⟩ := LinuxConnectorService.accepted_hostSettings
        haccepted host profile privateKey password
      rw [hconfig'] at hfails
      have hspares : LinuxConnectorService.Unaffected (LinuxConnectorService.executeSsh js
          (LinuxConnectorService.withData payload
            (LinuxConnectorService.withPosixGroups (payload.payload.get? "data")))
          (.obj config')) := LinuxConnectorService.executeSsh_spares hoperation haccepted'
      exact sparesRuns_iff.1 hspares hfails

/-- An accepted configuration is free of errors about its settings unless groups are mapped and one of
the default groups is no reference. -/
theorem not_createFails_iff (haccepted : SettingsAccepted type config)
    (hpayload : WellFormedCreate js type config payload) :
    ¬ CreateFails js type config payload ↔ ¬ (Reaches type config ∧ Unmapped config) :=
  not_congr ⟨unmapped_of_createFails haccepted hpayload.operation,
    fun h => createFails_of_unmapped hpayload h.1 h.2⟩

end

/-- A default group that is `true`. -/
def vaultSettings : Settings := [
  ("baseUrl", .str "https://vault.local"), ("accessToken", .str "token"),
  ("groupMappingEnabled", .bool true), ("defaultGroups", .arr [.bool true])]

def vaultPayload : ConnectorPayload where
  operation := "user.create"
  targetSystem := "Vault"
  payload := .obj [("config", .obj vaultSettings), ("data", .obj [("username", .str "jdoe")])]

theorem vaultPayload_wellFormed (js : Runtime) :
    WellFormedCreate js "passwork" vaultSettings vaultPayload :=
  ⟨rfl, rfl, fun h => absurd h (by decide), fun h => absurd h (by decide)⟩

theorem vaultSettings_accepted : SettingsAccepted "passwork" vaultSettings := rfl

theorem not_createFails_iff_vault : SettingsAccepted "passwork" vaultSettings ∧
    (¬ CreateFails Runtime.ascii "passwork" vaultSettings vaultPayload ↔
      ¬ (Reaches "passwork" vaultSettings ∧ Unmapped vaultSettings)) :=
  ⟨vaultSettings_accepted,
    not_createFails_iff vaultSettings_accepted (vaultPayload_wellFormed Runtime.ascii)⟩

/-- The settings are accepted, and no user can be created with them. -/
theorem accepted_createFails : ¬ ∀ (js : Runtime) (type : String) (config : Settings)
    (payload : ConnectorPayload), SettingsAccepted type config → WellFormedCreate js type config payload →
      ¬ CreateFails js type config payload := by
  intro h
  refine h Runtime.ascii "passwork" vaultSettings vaultPayload vaultSettings_accepted
    (vaultPayload_wellFormed Runtime.ascii)
    (createFails_of_unmapped (vaultPayload_wellFormed Runtime.ascii) ?_ ?_)
  · exact Or.inr ⟨rfl, rfl, rfl⟩
  · exact ⟨rfl, .name, [.bool true], rfl, rfl, .bool true, List.mem_cons_self, id⟩

end IdmMw
