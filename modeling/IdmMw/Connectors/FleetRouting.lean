import IdmMw.Connectors.Inventory
import IdmMw.Encryption.RoundTrip

/-!
# The configuration that fleet routing reads

`resolveFleetHosts` reads the configuration of the target system from its row, as it is stored. The
hosts that it selects should not depend on whether the column is encrypted (`Transparent`).

* `configRecord_column`: of an envelope, the settings of the group mapping are not seen;
* `selection_transparent_iff`: so the selection is the same where the mapping is off, or where the
  mapped groups happen to select what the unmapped ones do (`RoutesAlike`);
* `transparent_for_all_iff`: a configuration is routed alike for every inventory and payload exactly
  if the mapping is off in it.
-/

namespace IdmMw

open Async LinuxConnectorService

/-! ### The law -/

/-- The inventory with the column in the rows of the target system. -/
def Inventory.withConfig (inv : Inventory) (name : String) (column : Column) : Inventory :=
  { inv with
    targetSystems := inv.targetSystems.map fun row =>
      if row.name = name then { row with config := column } else row }

/-- The column is what `app` stores of the configuration. -/
def StoredAs (app : App) (config : Settings) (column : Column) : Prop :=
  ∃ t, (JsonHelper.toJson app (.obj config)).Runs t (.ok column)

/-- With either column the same hosts are selected, or the same error is raised. -/
def Transparent (js : Runtime) (inv : Inventory) (payload : ConnectorPayload)
    (column column' : Column) : Prop :=
  ∀ t x t' x',
    (resolveFleetHosts js payload).Runs t x →
    (∀ e ∈ t, (inv.withConfig payload.targetSystem column).Answers e) →
    (resolveFleetHosts js payload).Runs t' x' →
    (∀ e ∈ t', (inv.withConfig payload.targetSystem column').Answers e) →
    x.map (fun hosts => {host | host ∈ hosts}) = x'.map fun hosts => {host | host ∈ hosts}

/-! ### When it holds -/

/-- What names server groups, however the groups are mapped. -/
def namedGroups (payload : ConnectorPayload) : List (Option Json) :=
  [payload.data.get? "serverGroups", payload.params.get? "serverGroups",
    payload.params.get? "groupIds"]

/-- What names server groups where the groups are not mapped. -/
def legacyGroups (payload : ConnectorPayload) : List (Option Json) :=
  [payload.data.get? "groups", payload.params.get? "groups"]

/-- Both lists name no group, or both one that there is not, or groups with the same enabled
hosts. -/
def Inventory.SelectAlike (inv : Inventory) (targetSystemId : String) (codes codes' : List String) :
    Prop :=
  (codes = [] ↔ codes' = []) ∧ (inv.Known targetSystemId codes ↔ inv.Known targetSystemId codes') ∧
    (inv.Known targetSystemId codes →
      inv.HostsOf targetSystemId codes = inv.HostsOf targetSystemId codes')

/-- The settings of the mapping are in order, and the mapping is off, or the mapped groups select what
the unmapped ones do. -/
def RoutesAlike (js : Runtime) (inv : Inventory) (payload : ConnectorPayload) (config : Settings) :
    Prop :=
  ∀ targetSystem, inv.linuxTarget payload.targetSystem = some targetSystem →
    ∃ mapping mapped, groupMappingSettings (.obj config) = .ok mapping ∧
      mappedGroups js payload.data (.obj config) mapping .server = .ok mapped ∧
      (mapping.enabled = false ∨ inv.SelectAlike targetSystem.id
        (stringArray (namedGroups payload ++ [textArray mapped]))
        (stringArray (namedGroups payload ++ legacyGroups payload)))

/-! ### Errors -/

/-- Whatever error there is satisfies `P`. -/
def Raises {α : Type} (P : JsError → Prop) (x : Except JsError α) : Prop :=
  ∀ e, x = .error e → P e

section Raises

variable {α β : Type} {P : JsError → Prop}

theorem raises_ok (a : α) : Raises P (.ok a : Except JsError α) := nofun

theorem raises_error {e : JsError} (h : P e) : Raises P (.error e : Except JsError α) := by
  rintro _ ⟨⟩
  exact h

theorem Raises.bind {x : Except JsError α} {f : α → Except JsError β} (h : Raises P x)
    (hf : ∀ a, Raises P (f a)) : Raises P (x >>= f) := by
  cases x with
  | error e => exact raises_error (h e rfl)
  | ok a => exact hf a

theorem raises_mapM {f : α → Except JsError β} (h : ∀ a, Raises P (f a)) (as : List α) :
    Raises P (as.mapM f) := by
  induction as with
  | nil => exact raises_ok []
  | cons a as ih =>
    rw [List.mapM_cons]
    exact (h a).bind fun b => ih.bind fun bs => raises_ok _

end Raises

/-- The error of a value that is not as it should be. -/
def IsInvalid (e : JsError) : Prop := ∃ text, e = .error text ∧ text.toList.head? = some 'I'

theorem isInvalid_append (rest : String) : IsInvalid (.error ("Invalid " ++ rest)) :=
  ⟨_, rfl, by simp⟩

theorem IsInvalid.ne {text : String} (htext : text.toList.head? ≠ some 'I') :
    ¬ IsInvalid (.error text) := by
  rintro ⟨_, heq, hhead⟩
  rw [JsError.error.inj heq] at htext
  exact htext hhead

theorem groupMappingSettings_invalid (config : Json) :
    Raises IsInvalid (groupMappingSettings config) := by
  refine Raises.bind ?_ fun mode => raises_ok _
  unfold groupMappingMode
  split
  · exact raises_ok _
  · exact raises_ok _
  · split
    · exact raises_ok _
    · split
      · exact raises_ok _
      · exact raises_error (isInvalid_append "groupMappingMode: expected id, name or code")
  · exact raises_error (isInvalid_append "groupMappingMode: expected id, name or code")

theorem scalarGroupValue_invalid (value : Option Json) (fieldName : String) :
    Raises IsInvalid (scalarGroupValue value fieldName) := by
  unfold scalarGroupValue
  split
  · exact raises_ok _
  · exact raises_ok _
  · exact raises_ok _
  · exact raises_ok _
  · exact raises_error ⟨_, rfl, by simp [ToString.toString]⟩

theorem groupRefValue_invalid (value : Json) (mode : GroupMappingMode) (fieldName : String) :
    Raises IsInvalid (groupRefValue value mode fieldName) := by
  unfold groupRefValue
  split
  · exact raises_ok _
  · exact raises_ok _
  · refine (scalarGroupValue_invalid _ _).bind fun selected => ?_
    cases selected with
    | some selected => exact raises_ok _
    | none => exact raises_error ⟨_, rfl, by simp [ToString.toString]⟩
  · exact raises_error ⟨_, rfl, by simp [ToString.toString]⟩

theorem groupRefTexts_invalid (js : Runtime) (values : Option Json) (mode : GroupMappingMode)
    (fieldName : String) : Raises IsInvalid (groupRefTexts js values mode fieldName) := by
  refine Raises.bind ?_ fun values => raises_ok _
  unfold groupRefValues
  split
  · exact raises_ok _
  · exact raises_ok _
  · exact raises_ok _
  · exact (raises_mapM (fun value => groupRefValue_invalid value mode fieldName) _).bind
      fun values => raises_ok _
  · exact raises_error ⟨_, rfl, by simp [ToString.toString]⟩

theorem groupMappingTarget_invalid (config : Json) (defaultTarget : LinuxGroupMappingTarget) :
    Raises IsInvalid (groupMappingTarget config defaultTarget) := by
  unfold groupMappingTarget
  split
  all_goals first
    | exact raises_ok _
    | exact raises_error (isInvalid_append "Linux groupMappingTarget: expected posix or server")

theorem mappedGroups_invalid (js : Runtime) (data config : Json) (mapping : GroupMappingSettings)
    (target : LinuxGroupMappingTarget) :
    Raises IsInvalid (mappedGroups js data config mapping target) := by
  unfold mappedGroups
  split
  · refine (groupMappingTarget_invalid config target).bind fun found => ?_
    split
    · exact groupRefTexts_invalid _ _ _ _
    · exact raises_ok _
  · exact raises_ok _

/-! ### What is read of a column -/

section Columns

variable {app : App} {config : Settings} {column : Column}

theorem configRecord_column (app : App) (stored : Json) :
    configRecord (app.column stored) = stored.settings := by
  unfold App.column
  split <;> rfl

theorem configRecord_plain (happ : app.encryption.isEnabled = false)
    (h : StoredAs app config column) : configRecord column = config := by
  obtain ⟨t, hrun⟩ := h
  rcases toJson_stored hrun with ⟨-, -, hx⟩ | ⟨htrue, -⟩
  · obtain rfl := Except.ok.inj hx
    exact configRecord_column app _
  · rw [happ] at htrue
    cases htrue

/-- Of an envelope, the fields of the envelope are read. -/
theorem configRecord_envelope (happ : app.encryption.isEnabled = true)
    (h : StoredAs app config column) :
    ∃ kid iv tag ct, configRecord column = (EncryptionService.envelope kid iv tag ct).settings := by
  obtain ⟨t, hrun⟩ := h
  rcases toJson_stored hrun with ⟨hfalse, -⟩ | ⟨-, kid, key, iv, -, -, hx⟩
  · rw [happ] at hfalse
    cases hfalse
  · obtain rfl := Except.ok.inj hx
    exact ⟨kid, iv, _, _, configRecord_column app _⟩

end Columns

/-- With the mapping off, the codes are those that the payload names in any of its fields. -/
theorem fleetGroupCodes_disabled {js : Runtime} {config : Json} {payload : ConnectorPayload}
    {mode : GroupMappingMode} (h : groupMappingSettings config = .ok ⟨false, mode⟩) :
    fleetGroupCodes js config payload.data payload.params =
      .ok (stringArray (namedGroups payload ++ legacyGroups payload)) := by
  simp [fleetGroupCodes, h, mappedGroups, Bind.bind, Except.bind, Pure.pure, Except.pure,
    namedGroups, legacyGroups, stringArray, textArray, stringsOf]

/-- With the mapping on, they are those of the fields for server groups and the mapped ones. -/
theorem fleetGroupCodes_enabled {js : Runtime} {config : Json} {payload : ConnectorPayload}
    {mapping : GroupMappingSettings} {mapped : List String}
    (h : groupMappingSettings config = .ok mapping) (henabled : mapping.enabled = true)
    (hmapped : mappedGroups js payload.data config mapping .server = .ok mapped) :
    fleetGroupCodes js config payload.data payload.params =
      .ok (stringArray (namedGroups payload ++ [textArray mapped])) := by
  simp [fleetGroupCodes, h, hmapped, henabled, Bind.bind, Except.bind, Pure.pure, Except.pure,
    namedGroups]

theorem fleetGroupCodes_envelope (js : Runtime) (payload : ConnectorPayload)
    (kid iv tag ct : String) :
    fleetGroupCodes js (.obj (EncryptionService.envelope kid iv tag ct).settings) payload.data
      payload.params = .ok (stringArray (namedGroups payload ++ legacyGroups payload)) :=
  fleetGroupCodes_disabled rfl

/-! ### Both columns -/

section Selection

variable {js : Runtime} {inv : Inventory} {payload : ConnectorPayload}

theorem Inventory.selectAlike_iff {targetSystemId : String} {codes codes' : List String} :
    inv.selected targetSystemId codes = inv.selected targetSystemId codes' ↔
      inv.SelectAlike targetSystemId codes codes' := by
  unfold Inventory.selected Inventory.SelectAlike
  by_cases hnil : codes = []
  · by_cases hnil' : codes' = []
    · simp [hnil, hnil']
    · by_cases hknown' : inv.Known targetSystemId codes'
      · by_cases hempty' : inv.HostsOf targetSystemId codes' = ∅ <;>
          simp [hnil, hnil', hknown', hempty']
      · simp [hnil, hnil', hknown']
  · by_cases hnil' : codes' = []
    · by_cases hknown : inv.Known targetSystemId codes
      · by_cases hempty : inv.HostsOf targetSystemId codes = ∅ <;>
          simp [hnil, hnil', hknown, hempty]
      · simp [hnil, hnil', hknown]
    · by_cases hknown : inv.Known targetSystemId codes
      · by_cases hknown' : inv.Known targetSystemId codes'
        · by_cases hempty : inv.HostsOf targetSystemId codes = ∅
          · by_cases hempty' : inv.HostsOf targetSystemId codes' = ∅
            · simp [hnil, hnil', hknown, hknown', hempty, hempty']
            · simp [hnil, hnil', hknown, hknown', hempty, hempty', Ne.symm hempty']
          · by_cases hempty' : inv.HostsOf targetSystemId codes' = ∅
            · simp [hnil, hnil', hknown, hknown', hempty, hempty']
            · simp [hnil, hnil', hknown, hknown', hempty, hempty']
        · by_cases hempty : inv.HostsOf targetSystemId codes = ∅ <;>
            simp [hnil, hnil', hknown, hknown', hempty]
      · by_cases hknown' : inv.Known targetSystemId codes'
        · by_cases hempty' : inv.HostsOf targetSystemId codes' = ∅ <;>
            simp [hnil, hnil', hknown, hknown', hempty']
        · simp [hnil, hnil', hknown, hknown']

/-- The errors of a selection are none of the errors of the settings. -/
theorem Inventory.selected_not_invalid (targetSystemId : String) (codes : List String) :
    Raises (fun e => ¬ IsInvalid e) (inv.selected targetSystemId codes) := by
  unfold Inventory.selected
  split
  · exact raises_error (IsInvalid.ne (by simp))
  · split
    · exact raises_error (IsInvalid.ne (by simp))
    · split
      · exact raises_error (IsInvalid.ne (by simp))
      · exact raises_ok _

theorem Inventory.linuxTarget_withConfig (name : String) (column : Column) :
    (inv.withConfig name column).linuxTarget name =
      (inv.linuxTarget name).map fun row => { row with config := column } := by
  unfold Inventory.linuxTarget Inventory.findTargetSystem Inventory.withConfig
  dsimp only
  induction inv.targetSystems with
  | nil => rfl
  | cons row rows ih =>
    by_cases hname : row.name = name
    · simp [hname, Option.filter]
    · simpa [hname] using ih

/-- With the column, the codes are read as its settings tell. -/
theorem Inventory.selection_withConfig (column : Column) :
    (inv.withConfig payload.targetSystem column).selection js payload =
      match inv.linuxTarget payload.targetSystem with
      | none => .error (.error "Linux fleet target system not found")
      | some targetSystem =>
        fleetGroupCodes js (.obj (configRecord column)) payload.data payload.params >>=
          inv.selected targetSystem.id := by
  unfold Inventory.selection
  rw [linuxTarget_withConfig]
  cases inv.linuxTarget payload.targetSystem <;> rfl

/-- What the connector selects is the selection, which there always is. -/
theorem transparent_iff {column column' : Column} :
    Transparent js inv payload column column' ↔
      (inv.withConfig payload.targetSystem column).selection js payload =
        (inv.withConfig payload.targetSystem column').selection js payload := by
  have hwp : ∀ column, (resolveFleetHosts js payload).wp
      (.answering (inv.withConfig payload.targetSystem column).Answers)
      (fun _ => Resolved (inv.withConfig payload.targetSystem column) js payload) () :=
    fun column => resolveFleetHosts_wp
  have hresolved := fun column => wp_answering.1 (hwp column)
  constructor
  · intro h
    obtain ⟨t, x, ht, hr⟩ := exists_runs
      (inv.withConfig payload.targetSystem column).exists_answer (resolveFleetHosts js payload)
    obtain ⟨t', x', ht', hr'⟩ := exists_runs
      (inv.withConfig payload.targetSystem column').exists_answer (resolveFleetHosts js payload)
    rw [← (hresolved column t x ht hr).1, ← (hresolved column' t' x' ht' hr').1]
    exact h t x t' x' hr ht hr' ht'
  · intro h t x t' x' hr ht hr' ht'
    rw [(hresolved column t x ht hr).1, (hresolved column' t' x' ht' hr').1, h]

end Selection

section Routes

variable {plain encrypting : App} {config : Settings} {stored envelope : Column}

theorem transparent_iff_routesAlike (hplain : plain.encryption.isEnabled = false)
    (hencrypting : encrypting.encryption.isEnabled = true) (hstored : StoredAs plain config stored)
    (henvelope : StoredAs encrypting config envelope) {js : Runtime} {inv : Inventory}
    {payload : ConnectorPayload} :
    Transparent js inv payload stored envelope ↔ RoutesAlike js inv payload config := by
  obtain ⟨kid, iv, tag, ct, hfields⟩ := configRecord_envelope hencrypting henvelope
  rw [transparent_iff, Inventory.selection_withConfig, Inventory.selection_withConfig, hfields,
    configRecord_plain hplain hstored, fleetGroupCodes_envelope]
  unfold RoutesAlike
  cases htarget : inv.linuxTarget payload.targetSystem with
  | none => simp
  | some targetSystem =>
    have hlegacy := inv.selected_not_invalid targetSystem.id
      (stringArray (namedGroups payload ++ legacyGroups payload))
    simp only [Option.some.injEq, forall_eq']
    cases hmapping : groupMappingSettings (.obj config) with
    | error e =>
      have hcodes : fleetGroupCodes js (.obj config) payload.data payload.params = .error e := by
        simp [fleetGroupCodes, hmapping, Bind.bind, Except.bind]
      rw [hcodes]
      constructor
      · intro h
        exact absurd (groupMappingSettings_invalid _ e hmapping) (hlegacy e h.symm)
      · rintro ⟨mapping, mapped, hsettings, -⟩
        cases hsettings
    | ok mapping =>
      cases hmapped : mappedGroups js payload.data (.obj config) mapping .server with
      | error e =>
        have hcodes : fleetGroupCodes js (.obj config) payload.data payload.params = .error e := by
          simp [fleetGroupCodes, hmapping, hmapped, Bind.bind, Except.bind]
        rw [hcodes]
        constructor
        · intro h
          exact absurd (mappedGroups_invalid _ _ _ _ _ e hmapped) (hlegacy e h.symm)
        · rintro ⟨_, mapped, ⟨⟩, hmapped', -⟩
          rw [hmapped] at hmapped'
          cases hmapped'
      | ok mapped =>
        cases henabled : mapping.enabled with
        | false =>
          obtain ⟨enabled, mode⟩ := mapping
          obtain rfl : enabled = false := henabled
          rw [fleetGroupCodes_disabled hmapping]
          exact ⟨fun _ => ⟨_, mapped, rfl, hmapped, Or.inl rfl⟩, fun _ => rfl⟩
        | true =>
          rw [fleetGroupCodes_enabled hmapping henabled hmapped]
          show inv.selected _ _ = inv.selected _ _ ↔ _
          rw [Inventory.selectAlike_iff]
          constructor
          · intro h
            exact ⟨mapping, mapped, rfl, hmapped, Or.inr h⟩
          · rintro ⟨_, _, ⟨⟩, hmapped', hfalse | h⟩
            · rw [henabled] at hfalse
              cases hfalse
            · rw [hmapped] at hmapped'
              obtain rfl := Except.ok.inj hmapped'
              exact h

/-- Without groups in the data nothing is mapped. -/
theorem mappedGroups_eq_nil {js : Runtime} {data config : Json} {mapping : GroupMappingSettings}
    {target : LinuxGroupMappingTarget} {mapped : List String} (hdata : data.get? "groups" = none)
    (h : mappedGroups js data config mapping target = .ok mapped) : mapped = [] := by
  unfold mappedGroups at h
  split at h
  · cases htarget : groupMappingTarget config target with
    | error e =>
      rw [htarget] at h
      cases h
    | ok found =>
      rw [htarget, hdata] at h
      by_cases hfound : found = target
      · simpa [hfound, groupRefTexts, groupRefValues, Bind.bind, Except.bind, Pure.pure,
          Except.pure] using h.symm
      · simpa [hfound, Bind.bind, Except.bind, Pure.pure, Except.pure] using h.symm
  · cases h
    rfl

/-- The parameters name a group. -/
def paramsPayload : ConnectorPayload where
  operation := "user.create"
  targetSystem := "linux"
  payload := .obj [("params", .obj [("groups", .arr [.str "web"])])]

/-- A target system without servers. -/
def bareInventory : Inventory where
  targetSystems := [⟨"ts-1", "linux", "linux", "Linux", .native (.obj []), true, 0, 0⟩]
  profiles := []
  hosts := []
  groups := []
  memberships := []
  hostIds := by simp
  groupCodes := by simp

/-- Every inventory and every payload is routed alike exactly if the mapping is off. -/
theorem transparent_for_all_iff (hplain : plain.encryption.isEnabled = false)
    (hencrypting : encrypting.encryption.isEnabled = true) (hstored : StoredAs plain config stored)
    (henvelope : StoredAs encrypting config envelope) (js : Runtime) :
    (∀ inv payload, Transparent js inv payload stored envelope) ↔
      ∃ mode, groupMappingSettings (.obj config) = .ok ⟨false, mode⟩ := by
  simp only [transparent_iff_routesAlike hplain hencrypting hstored henvelope]
  constructor
  · intro h
    obtain ⟨⟨enabled, mode⟩, mapped, hsettings, hmapped, hdisabled | ⟨hnil, -⟩⟩ :=
      h bareInventory paramsPayload _ rfl
    · obtain rfl : enabled = false := hdisabled
      exact ⟨mode, hsettings⟩
    · obtain rfl := mappedGroups_eq_nil rfl hmapped
      cases hnil.1 rfl
  · rintro ⟨mode, hsettings⟩ inv payload targetSystem -
    exact ⟨_, [], hsettings, rfl, Or.inl rfl⟩

end Routes

/-- The columns of a configuration, plain and encrypted, select the same hosts exactly if the
configuration routes the payload alike with the group mapping and without. -/
theorem selection_transparent_iff {plain encrypting : App}
    (hplain : plain.encryption.isEnabled = false)
    (hencrypting : encrypting.encryption.isEnabled = true) {config : Settings}
    {stored envelope : Column} (hstored : StoredAs plain config stored)
    (henvelope : StoredAs encrypting config envelope) (js : Runtime) (inv : Inventory)
    (payload : ConnectorPayload) :
    Transparent js inv payload stored envelope ↔ RoutesAlike js inv payload config :=
  transparent_iff_routesAlike hplain hencrypting hstored henvelope

/-! ### A mapped group -/

/-- Groups are named by their codes. -/
def mappedConfig : Settings :=
  [("provider", .str "ssh-sudo-fleet"), ("groupMappingEnabled", .bool true),
    ("groupMappingMode", .str "code")]

/-- An account on the servers of one group. -/
def groupPayload : ConnectorPayload where
  operation := "user.create"
  targetSystem := "linux"
  payload := .obj [("config", .obj mappedConfig), ("data", .obj [("login", .str "ivanov"),
    ("password", .str "secret"), ("groups", .arr [.obj [("code", .str "web")]])])]

def webHost : LinuxHost :=
  ⟨"host-1", "ts-1", some "profile-1", "web-1", "web-1.local", 22, "SHA256:key", true, none⟩

/-- One server group with one host. -/
def webInventory : Inventory where
  targetSystems := [⟨"ts-1", "linux", "linux", "Linux", .native (.obj []), true, 0, 0⟩]
  profiles := [⟨"profile-1", "ts-1", "key", "env", "idm", some "env:KEY", none, true⟩]
  hosts := [webHost]
  groups := [⟨"group-1", "ts-1", "web", "Web", none, true⟩]
  memberships := [⟨"group-1", "host-1"⟩]
  hostIds := List.nodup_singleton _
  groupCodes := List.nodup_singleton _

theorem bare_storedAs (config : Settings) :
    StoredAs App.bare config (App.bare.column (.obj config)) := ⟨[], rfl, rfl⟩

/-- The envelope of a configuration under the first key. -/
noncomputable def sealedEnvelope (config : Settings) : Json :=
  EncryptionService.envelope "k1" "iv"
    (Cipher.sealing.encrypt "secret-1" "iv" (Json.obj config).stringify).1
    (Cipher.sealing.encrypt "secret-1" "iv" (Json.obj config).stringify).2

theorem sealed_storedAs (config : Settings) :
    StoredAs App.sealed config (App.sealed.column (sealedEnvelope config)) :=
  ⟨[⟨.randomBytes, "iv"⟩], _, _, rfl, rfl, rfl⟩

/-- The group selects its host while the column is plain, and none once it is encrypted. -/
theorem routing_depends_on_encryption : ∃ stored envelope,
    StoredAs App.bare mappedConfig stored ∧ StoredAs App.sealed mappedConfig envelope ∧
      ¬ Transparent .ascii webInventory groupPayload stored envelope := by
  refine ⟨_, _, bare_storedAs mappedConfig, sealed_storedAs mappedConfig, ?_⟩
  rw [transparent_iff, Inventory.selection_withConfig, Inventory.selection_withConfig,
    configRecord_column, configRecord_column]
  have htarget : webInventory.linuxTarget groupPayload.targetSystem =
      some ⟨"ts-1", "linux", "linux", "Linux", .native (.obj []), true, 0, 0⟩ := rfl
  have hplain : fleetGroupCodes .ascii (.obj mappedConfig) groupPayload.data groupPayload.params =
      .ok ["web"] := rfl
  have hsealed : fleetGroupCodes .ascii (.obj (sealedEnvelope mappedConfig).settings)
      groupPayload.data groupPayload.params = .ok [] := rfl
  rw [htarget]
  show fleetGroupCodes .ascii (.obj mappedConfig) _ _ >>= _ ≠ fleetGroupCodes _ _ _ _ >>= _
  rw [hplain, hsealed]
  show webInventory.selected "ts-1" ["web"] ≠ webInventory.selected "ts-1" []
  rw [ne_eq, Inventory.selectAlike_iff]
  rintro ⟨hnil, -⟩
  cases hnil.2 rfl

/-- The same configuration with the mapping off. -/
def unmappedConfig : Settings := [("provider", .str "ssh-sudo-fleet")]

theorem selection_transparent_example : ∃ stored envelope,
    StoredAs App.bare unmappedConfig stored ∧ StoredAs App.sealed unmappedConfig envelope ∧
      Transparent .ascii webInventory groupPayload stored envelope :=
  ⟨_, _, bare_storedAs unmappedConfig, sealed_storedAs unmappedConfig,
    (selection_transparent_iff rfl rfl (bare_storedAs unmappedConfig)
      (sealed_storedAs unmappedConfig) .ascii webInventory groupPayload).2
      fun _ _ => ⟨⟨false, .name⟩, [], rfl, rfl, Or.inl rfl⟩⟩

end IdmMw
