import IdmMw.Library.ErrorKinds
import IdmMw.Model.LinuxConnector
import IdmMw.Model.MssqlLogin
import IdmMw.Model.PassworkConnector
import IdmMw.Model.PostgresRole

/-!
# Group settings that are accepted, and those that can be read

What the validation of a target system lets through, and what its connector makes of it when a user
is created.

* `IsSettingsError`: the errors that are about the group settings;
* `SettingsAccepted`: the validation of `create` and `update`; `SettingsReadable`: what it says of
  the settings;
* `IsGroupRef`: the items of `defaultGroups` that stand for a group; `Unmapped`: not all do;
* for PostgreSQL, MSSQL and Passwork: which configurations the creation of a user fails with.
-/

namespace IdmMw

open Async

/-! ### Errors -/

def settingsErrors : List String :=
  ["Invalid groupMappingMode", "Invalid Linux groupMappingTarget", "Invalid defaultGroups"]

/-- The error is about the group settings of a configuration. -/
def IsSettingsError (error : JsError) : Prop :=
  ∃ start ∈ settingsErrors, start.toList <+: error.message.toList

instance : DecidablePred IsSettingsError := fun error => by
  unfold IsSettingsError
  infer_instance

/-- The text begins otherwise: with another letter, or with another word behind `Invalid`. -/
def beginsOtherwise (text : List Char) : Bool :=
  text.head? != some 'I' || (text[8]?).any fun c => c != 'g' && c != 'L' && c != 'd'

theorem spares_other {α : Type} {message : String} (h : beginsOtherwise message.toList = true) :
    Spares IsSettingsError (.error (.error message) : Except JsError α) := by
  refine spares_error ?_
  rintro ⟨start, hmem, rest, hrest⟩
  change start.toList ++ rest = message.toList at hrest
  have hstarts : ∀ start ∈ settingsErrors, 8 < start.toList.length ∧
      beginsOtherwise start.toList = false := by decide
  obtain ⟨hlength, hstart⟩ := hstarts start hmem
  unfold beginsOtherwise at h hstart
  rw [← hrest, List.head?_append_of_ne_nil _ (List.ne_nil_of_length_pos (by omega)),
    List.getElem?_append_left hlength, hstart] at h
  cases h

/-- A text that begins with another letter. -/
def BeginsOtherwise (text : String) : Prop := ∃ c, text.toList.head? = some c ∧ c ≠ 'I'

theorem BeginsOtherwise.append {text : String} (h : BeginsOtherwise text) (rest : String) :
    BeginsOtherwise (text ++ rest) := by
  obtain ⟨c, hhead, hc⟩ := h
  refine ⟨c, ?_, hc⟩
  rw [String.toList_append, List.head?_append, hhead, Option.some_or]

theorem BeginsOtherwise.spares {α : Type} {message : String} (h : BeginsOtherwise message) :
    Spares IsSettingsError (.error (.error message) : Except JsError α) := by
  obtain ⟨c, hhead, hc⟩ := h
  refine spares_other ?_
  unfold beginsOtherwise
  rw [hhead]
  simp [hc]

/-! ### The settings that are accepted -/

/-- `create` and `update` accept the configuration for the type. -/
def SettingsAccepted (type : String) (config : Settings) : Prop :=
  TargetSystemService.validateTargetSystemConfig type config = .ok ()

theorem accepted_of_create {app : App} {dto : CreateTargetSystemDto} {encoded : Except JsError Column}
    {created : Column → Except PrismaError TargetSystem} {shown : PublicTargetSystem}
    (h : TargetSystemService.create app dto encoded created = .ok shown) :
    SettingsAccepted dto.type dto.config := by
  obtain ⟨⟨⟩, haccepted, -⟩ := bind_eq_ok.1 h
  exact haccepted

/-- What `update` writes has been accepted: the configuration with what the request changes. -/
theorem accepted_of_nextColumns {encode : Json → Except JsError Column}
    {dto : UpdateTargetSystemDto} {currentType : String} {currentConfig : Settings}
    {columns : TargetSystemUpdate}
    (h : TargetSystemService.nextColumns encode dto currentType currentConfig = .ok columns) :
    ∃ config, SettingsAccepted (dto.type.getD currentType) config ∧
      (dto.config = none ∧ config = currentConfig ∨ ∃ incoming, dto.config = some incoming ∧
        TargetSystemService.mergeIncoming currentConfig incoming = .ok config) := by
  unfold TargetSystemService.nextColumns at h
  cases hconfig : dto.config with
  | none =>
    rw [hconfig] at h
    obtain ⟨nextConfig, hnext, hrest⟩ := bind_eq_ok.1 h
    obtain rfl := Except.ok.inj hnext
    obtain ⟨⟨⟩, haccepted, -⟩ := bind_eq_ok.1 hrest
    exact ⟨currentConfig, haccepted, Or.inl ⟨rfl, rfl⟩⟩
  | some incoming =>
    rw [hconfig] at h
    cases hmerge : TargetSystemService.mergeIncoming currentConfig incoming with
    | error e =>
      dsimp only at h
      rw [hmerge] at h
      cases h
    | ok config =>
      dsimp only at h
      rw [hmerge] at h
      obtain ⟨nextConfig, hnext, hrest⟩ := bind_eq_ok.1 h
      obtain rfl := Except.ok.inj hnext
      obtain ⟨⟨⟩, haccepted, -⟩ := bind_eq_ok.1 hrest
      exact ⟨config, haccepted, Or.inr ⟨incoming, rfl, hmerge⟩⟩

/-- The group settings can be read, up to the items of `defaultGroups`. -/
structure SettingsReadable (config : Settings) (mode : GroupMappingMode) : Prop where
  mode : groupMappingMode (config.lookup "groupMappingMode") = .ok mode
  defaults : config.lookup "defaultGroups" = none ∨
    ∃ items, config.lookup "defaultGroups" = some (.arr items)

/-- Absent, `null`, empty, or one of the choices. -/
theorem validateChoice_eq_ok {value : Option Json} {choices : List String} {message : String}
    (h : TargetSystemService.validateChoice value choices message = .ok ()) :
    value = none ∨ value = some .null ∨ value = some (.str "") ∨
      ∃ choice ∈ choices, value = some (.str choice) := by
  unfold TargetSystemService.validateChoice at h
  split at h
  · exact Or.inl rfl
  · exact Or.inr (Or.inl rfl)
  · next text =>
    split at h
    · next hchoice =>
      rcases Bool.or_eq_true_iff.1 hchoice with hempty | hmem
      · obtain rfl := of_decide_eq_true hempty
        exact Or.inr (Or.inr (Or.inl rfl))
      · exact Or.inr (Or.inr (Or.inr ⟨text, List.contains_iff_mem.1 hmem, rfl⟩))
    · cases h
  · cases h

theorem groupMappingMode_of_validate {value : Option Json}
    (h : TargetSystemService.validateGroupMappingMode value = .ok ()) :
    ∃ mode, groupMappingMode value = .ok mode := by
  rcases validateChoice_eq_ok h with rfl | rfl | rfl | ⟨choice, hmem, rfl⟩
  · exact ⟨.name, rfl⟩
  · exact ⟨.name, rfl⟩
  · exact ⟨.name, rfl⟩
  · rcases List.mem_cons.1 hmem with rfl | hmem
    · exact ⟨.id, rfl⟩
    rcases List.mem_cons.1 hmem with rfl | hmem
    · exact ⟨.name, rfl⟩
    obtain rfl := List.mem_singleton.1 hmem
    exact ⟨.code, rfl⟩

theorem groupMappingTarget_of_validate {config : Settings}
    (h : TargetSystemService.validateLinuxGroupMappingTarget (config.lookup "groupMappingTarget") =
      .ok ()) (defaultTarget : LinuxConnectorService.LinuxGroupMappingTarget) :
    ∃ target, LinuxConnectorService.groupMappingTarget (.obj config) defaultTarget =
      .ok target := by
  unfold LinuxConnectorService.groupMappingTarget
  rw [Json.get?_obj]
  rcases validateChoice_eq_ok h with hvalue | hvalue | hvalue | ⟨choice, hmem, hvalue⟩
  · rw [hvalue]
    exact ⟨defaultTarget, rfl⟩
  · rw [hvalue]
    exact ⟨defaultTarget, rfl⟩
  · rw [hvalue]
    exact ⟨defaultTarget, rfl⟩
  · rw [hvalue]
    rcases List.mem_cons.1 hmem with rfl | hmem
    · exact ⟨.posix, rfl⟩
    obtain rfl := List.mem_singleton.1 hmem
    exact ⟨.server, rfl⟩

theorem SettingsAccepted.readable {type : String} {config : Settings} (h : SettingsAccepted type config)
    (htype : type ∈ TargetSystemService.groupAwareTypes) :
    (∃ mode, SettingsReadable config mode) ∧ (type = "linux" → ∀ defaultTarget, ∃ target,
      LinuxConnectorService.groupMappingTarget (.obj config) defaultTarget = .ok target) := by
  obtain ⟨⟨⟩, hcommon, -⟩ := bind_eq_ok.1 h
  unfold TargetSystemService.validateCommonGroupMappingConfig at hcommon
  rw [if_neg (by simpa using htype)] at hcommon
  obtain ⟨⟨⟩, hmode, hrest⟩ := bind_eq_ok.1 hcommon
  obtain ⟨mode, hmode⟩ := groupMappingMode_of_validate hmode
  have hdefaults : TargetSystemService.isArrayOrAbsent (config.lookup "defaultGroups") = true ∧
      (type = "linux" → TargetSystemService.validateLinuxGroupMappingTarget
        (config.lookup "groupMappingTarget") = .ok ()) := by
    by_cases hlinux : type = "linux"
    · rw [if_pos hlinux] at hrest
      obtain ⟨⟨⟩, htarget, harray⟩ := bind_eq_ok.1 hrest
      refine ⟨?_, fun _ => htarget⟩
      by_contra hnot
      rw [if_neg hnot] at harray
      cases harray
    · rw [if_neg hlinux] at hrest
      refine ⟨?_, fun heq => absurd heq hlinux⟩
      by_contra hnot
      dsimp only at hrest
      rw [if_neg hnot] at hrest
      cases hrest
  refine ⟨⟨mode, hmode, ?_⟩, fun heq => groupMappingTarget_of_validate (hdefaults.2 heq)⟩
  have harray := hdefaults.1
  unfold TargetSystemService.isArrayOrAbsent at harray
  split at harray
  · exact Or.inl ‹_›
  · exact Or.inr ⟨_, ‹_›⟩
  · cases harray

/-! ### References to groups -/

/-- The value stands for a group, or, as a blank text, for none. -/
def IsGroupRef (mode : GroupMappingMode) : Json → Prop
  | .str _ | .num _ => True
  | .obj fields =>
    match fields.lookup mode.text with
    | some (.str text) => (nonBlank text).isSome = true
    | some (.num _) => True
    | _ => False
  | _ => False

/-- Groups are mapped, and one of the default groups is no reference. -/
def Unmapped (config : Settings) : Prop :=
  TargetSystemService.booleanConfig (config.lookup "groupMappingEnabled") = true ∧
    ∃ mode items, groupMappingMode (config.lookup "groupMappingMode") = .ok mode ∧
      config.lookup "defaultGroups" = some (.arr items) ∧ ∃ item ∈ items, ¬ IsGroupRef mode item

/-- The two ways in which the message is put together. -/
theorem invalid_append (field : String) (mode : GroupMappingMode) {path : String} {α : Type}
    (hpath : path = field ++ "." ++ mode.text) :
    (Except.error (.error s!"Invalid {path}: expected string or number") : Except JsError α) =
    .error (.error s!"Invalid {field}.{mode.text}: expected string or number") := by
  have htext : s!"Invalid {path}: expected string or number" =
      s!"Invalid {field}.{mode.text}: expected string or number" := by
    show "Invalid " ++ path ++ ": expected string or number" =
      "Invalid " ++ field ++ "." ++ mode.text ++ ": expected string or number"
    simp only [hpath, String.append_assoc]
  rw [htext]

theorem isGroupRef_obj (mode : GroupMappingMode) (fields : Settings) :
    IsGroupRef mode (.obj fields) = match fields.lookup mode.text with
      | some (.str text) => (nonBlank text).isSome = true
      | some (.num _) => True
      | _ => False := rfl

theorem groupRefValue_obj (mode : GroupMappingMode) (field : String) (fields : Settings) :
    groupRefValue (.obj fields) mode field =
      scalarGroupValue (fields.lookup mode.text) s!"{field}.{mode.text}" >>= fun
        | some selected => pure (some selected)
        | none => throw (.error s!"Invalid {field}.{mode.text}: expected string or number") := rfl

/-- What is read of a reference; else there is one of two errors. -/
theorem groupRefValue_spec (mode : GroupMappingMode) (field : String) (item : Json) :
    (IsGroupRef mode item ∧ ∃ value, groupRefValue item mode field = .ok value) ∨
    (¬ IsGroupRef mode item ∧
      (groupRefValue item mode field =
        .error (.error s!"Invalid {field}.{mode.text}: expected string or number") ∨
      groupRefValue item mode field = .error (.error
        s!"Invalid {field} item: expected string, number or object with id/name/code"))) := by
  cases item with
  | str text => exact Or.inl ⟨trivial, _, rfl⟩
  | num n => exact Or.inl ⟨trivial, _, rfl⟩
  | obj fields =>
    rw [isGroupRef_obj, groupRefValue_obj]
    rcases fields.lookup mode.text with _ | (_ | b | n | text | values | fields')
    · exact Or.inr ⟨id, Or.inl rfl⟩
    · exact Or.inr ⟨id, Or.inl rfl⟩
    · exact Or.inr ⟨id, Or.inl (invalid_append field mode rfl)⟩
    · exact Or.inl ⟨trivial, _, rfl⟩
    · have hscalar : scalarGroupValue (some (.str text)) s!"{field}.{mode.text}" =
          .ok ((nonBlank text).map .str) := rfl
      rw [hscalar]
      show ((nonBlank text).isSome = true ∧ _) ∨ _
      cases htext : nonBlank text with
      | none => exact Or.inr ⟨by simp [htext], Or.inl rfl⟩
      | some trimmedText => exact Or.inl ⟨rfl, some (.str trimmedText), rfl⟩
    · exact Or.inr ⟨id, Or.inl (invalid_append field mode rfl)⟩
    · exact Or.inr ⟨id, Or.inl (invalid_append field mode rfl)⟩
  | _ => exact Or.inr ⟨id, Or.inr rfl⟩

/-- An error about the item of a list is named by the list. -/
theorem groupRefValue_error {mode : GroupMappingMode} {item : Json} {field : String} {e : JsError}
    (h : groupRefValue item mode field = .error e) :
    e = .error s!"Invalid {field}.{mode.text}: expected string or number" ∨
      e = .error s!"Invalid {field} item: expected string, number or object with id/name/code" := by
  rcases groupRefValue_spec mode field item with ⟨-, value, hvalue⟩ | ⟨-, hmode | hitem⟩
  · rw [hvalue] at h
    cases h
  · exact Or.inl (Except.error.inj (h.symm.trans hmode))
  · exact Or.inr (Except.error.inj (h.symm.trans hitem))

theorem isSettingsError_defaultGroups {mode : GroupMappingMode} {item : Json} {e : JsError}
    (h : groupRefValue item mode "defaultGroups" = .error e) : IsSettingsError e := by
  refine ⟨"Invalid defaultGroups", by decide, ?_⟩
  rcases groupRefValue_error h with rfl | rfl
  · cases mode <;> exact List.isPrefixOf_iff_prefix.1 (by decide)
  · exact List.isPrefixOf_iff_prefix.1 (by decide)

section References

variable {js : Runtime} {mode : GroupMappingMode} {items : List Json}

/-- The default groups that are references are read. -/
theorem groupRefTexts_of_refs (field : String) (h : ∀ item ∈ items, IsGroupRef mode item) :
    ∃ texts, groupRefTexts js (some (.arr items)) mode field = .ok texts := by
  have hmapM : ∃ values, items.mapM (groupRefValue · mode field) = .ok values := by
    induction items with
    | nil => exact ⟨[], rfl⟩
    | cons item items ih =>
      obtain ⟨values, hvalues⟩ := ih fun item' hmem => h item' (List.mem_cons_of_mem _ hmem)
      rcases groupRefValue_spec mode field item with ⟨-, value, hvalue⟩ | ⟨hnot, -⟩
      · refine ⟨value :: values, ?_⟩
        rw [List.mapM_cons, hvalue, hvalues]
        rfl
      · exact absurd (h item List.mem_cons_self) hnot
  obtain ⟨values, hvalues⟩ := hmapM
  refine ⟨values.reduceOption.map (GroupValue.text js), ?_⟩
  show ((do
    let values ← items.mapM (groupRefValue · mode field)
    pure values.reduceOption) >>= fun values => pure (values.map (GroupValue.text js))) = _
  rw [hvalues]
  rfl

/-- A default group that is no reference is an error in the settings. -/
theorem groupRefTexts_error {item : Json} (hmem : item ∈ items) (hitem : ¬ IsGroupRef mode item) :
    ∃ e, groupRefTexts js (some (.arr items)) mode "defaultGroups" = .error e ∧
      IsSettingsError e := by
  have hfails : ∃ e, groupRefValue item mode "defaultGroups" = .error e := by
    rcases groupRefValue_spec mode "defaultGroups" item with ⟨href, -⟩ | ⟨-, h | h⟩
    · exact absurd href hitem
    · exact ⟨_, h⟩
    · exact ⟨_, h⟩
  obtain ⟨e, he⟩ := hfails
  obtain ⟨item', -, e', he', hmapM⟩ :=
    exists_error_of_mapM (groupRefValue · mode "defaultGroups") hmem he
  refine ⟨e', ?_, isSettingsError_defaultGroups he'⟩
  show ((do
    let values ← items.mapM (groupRefValue · mode "defaultGroups")
    pure values.reduceOption) >>= fun values => pure (values.map (GroupValue.text js))) = _
  rw [hmapM]
  rfl

/-- Errors about the groups of a payload are not about the settings. -/
theorem groupRefTexts_groups (value : Option Json) :
    Spares IsSettingsError (groupRefTexts js value mode "groups") := by
  have hvalues : Spares IsSettingsError (groupRefValues value mode "groups") := by
    unfold groupRefValues
    split
    · exact spares_ok
    · exact spares_ok
    · exact spares_ok
    · refine (spares_mapM fun item _ e he => ?_).bind fun _ _ => spares_ok
      rcases groupRefValue_error he with rfl | rfl
      · cases mode <;> decide +kernel
      · decide +kernel
    · exact spares_error (by decide +kernel)
  exact hvalues.bind fun _ _ => spares_ok

end References

/-! ### Accounts of databases -/

section SqlAccounts

variable {js : Runtime} {config : Settings} {data : Json} {mode : GroupMappingMode}

theorem groupMappingSettings_of_readable (h : SettingsReadable config mode) :
    groupMappingSettings (.obj config) =
      .ok ⟨TargetSystemService.booleanConfig (config.lookup "groupMappingEnabled"), mode⟩ := by
  unfold groupMappingSettings
  rw [Json.get?_obj, Json.get?_obj, h.mode]
  rfl

theorem spread_spares (value : Option Json) : Spares IsSettingsError (spread value) := by
  unfold spread
  split
  · exact spares_ok
  · exact spares_ok
  · exact spares_ok
  · exact spares_ok
  · exact spares_other (by simp [beginsOtherwise])

/-- The items of an array, if there is one. -/
theorem spread_of_readable (h : SettingsReadable config mode) :
    ∃ items, spread (config.lookup "defaultGroups") = .ok items := by
  rcases h.defaults with hnone | ⟨items, hitems⟩
  · rw [hnone]
    exact ⟨[], rfl⟩
  · rw [hitems]
    exact ⟨items, rfl⟩

/-- The default groups are read, if all that are mapped are references. -/
theorem defaultGroups_spares (h : SettingsReadable config mode) (hmapped : ¬ Unmapped config)
    (henabled : TargetSystemService.booleanConfig (config.lookup "groupMappingEnabled") = true) :
    Spares IsSettingsError
      (groupRefTexts js (config.lookup "defaultGroups") mode "defaultGroups") := by
  rcases h.defaults with hnone | ⟨items, hitems⟩
  · rw [hnone]
    exact spares_ok
  · rw [hitems]
    have hrefs : ∀ item ∈ items, IsGroupRef mode item := by
      intro item hmem
      by_contra hitem
      exact hmapped ⟨henabled, mode, items, h.mode, hitems, item, hmem, hitem⟩
    have hread : ∃ texts, groupRefTexts js (some (.arr items)) mode "defaultGroups" = .ok texts :=
      groupRefTexts_of_refs _ hrefs
    obtain ⟨texts, htexts⟩ := hread
    rw [htexts]
    exact spares_ok

theorem validateIdentifier_spares {bound : ℕ} {value label : String}
    (h : beginsOtherwise (s!"Invalid {label}").toList = true) :
    Spares IsSettingsError (SqlAccounts.validateIdentifier bound value label) := by
  unfold SqlAccounts.validateIdentifier
  split
  · exact spares_ok
  · exact spares_other h

theorem passwordValue_spares {missing : String} {required : Bool}
    (h : beginsOtherwise missing.toList = true) :
    Spares IsSettingsError (SqlAccounts.passwordValue missing data required) := by
  unfold SqlAccounts.passwordValue
  split
  · exact spares_ok
  · split
    · exact spares_other h
    · exact spares_ok

theorem permissionName_spares {product : String} {value : Option Json}
    (h : beginsOtherwise (s!"Invalid {product} permission name").toList = true) :
    Spares IsSettingsError (SqlAccounts.permissionName js product value) := by
  unfold SqlAccounts.permissionName
  split
  · exact spares_other h
  · split
    · exact spares_ok
    · exact spares_other h

theorem requestedPermissions_spares :
    Spares IsSettingsError (SqlAccounts.requestedPermissions (.obj config) data true) :=
  (spread_spares _).bind fun _ _ => spares_pure

/-- The roles of a new account, with the settings as they are read. -/
theorem requestedRoles_eq (h : SettingsReadable config mode) (defaultsKey : String) :
    SqlAccounts.requestedRoles js defaultsKey (.obj config) data true =
      let enabled := TargetSystemService.booleanConfig (config.lookup "groupMappingEnabled")
      (if enabled then groupRefTexts js (data.get? "groups") mode "groups" else pure []) >>=
        fun mappedGroups =>
      (if enabled && (config.lookup "defaultGroups").isSome then
        groupRefTexts js (config.lookup "defaultGroups") mode "defaultGroups" else pure []) >>=
        fun defaultGroups =>
      spread (config.lookup defaultsKey) >>= fun defaults =>
      pure ((SqlAccounts.textItems defaults ++ defaultGroups ++
        SqlAccounts.textItems (SqlAccounts.arrayItems (data.get? "roles")) ++ mappedGroups).filter
          (· ≠ "")) := by
  unfold SqlAccounts.requestedRoles
  rw [groupMappingSettings_of_readable h]
  simp only [Json.get?_obj]
  show (if TargetSystemService.booleanConfig (config.lookup "groupMappingEnabled") = true then _
    else _) = _
  cases TargetSystemService.booleanConfig (config.lookup "groupMappingEnabled") with
  | false => rfl
  | true => cases (config.lookup "defaultGroups").isSome <;> rfl

theorem requestedRoles_spares (h : SettingsReadable config mode) (hmapped : ¬ Unmapped config)
    (defaultsKey : String) : Spares IsSettingsError
      (SqlAccounts.requestedRoles js defaultsKey (.obj config) data true) := by
  rw [requestedRoles_eq h]
  refine Spares.bind ?_ fun mappedGroups _ => Spares.bind ?_ fun defaultGroups _ =>
    (spread_spares _).bind fun defaults _ => spares_pure
  · split
    · exact groupRefTexts_groups _
    · exact spares_pure
  · split
    · next henabled => exact defaultGroups_spares h hmapped (Bool.and_eq_true_iff.1 henabled).1
    · exact spares_pure

/-- The groups of the payload can be read. -/
def GroupsReadable (js : Runtime) (config : Settings) (data : Json) : Prop :=
  ∀ mode, groupMappingMode (config.lookup "groupMappingMode") = .ok mode →
    ∃ texts, groupRefTexts js (data.get? "groups") mode "groups" = .ok texts

theorem requestedRoles_error (hgroups : GroupsReadable js config data) (h : Unmapped config)
    (defaultsKey : String) : ∃ e,
      SqlAccounts.requestedRoles js defaultsKey (.obj config) data true = .error e ∧
      IsSettingsError e := by
  obtain ⟨henabled, mode, items, hmode, hitems, item, hmem, hitem⟩ := h
  obtain ⟨texts, htexts⟩ := hgroups mode hmode
  have herror : ∃ e, groupRefTexts js (some (.arr items)) mode "defaultGroups" = .error e ∧
      IsSettingsError e := groupRefTexts_error hmem hitem
  obtain ⟨e, he, hsettings⟩ := herror
  refine ⟨e, ?_, hsettings⟩
  rw [requestedRoles_eq ⟨hmode, Or.inr ⟨items, hitems⟩⟩, henabled, hitems]
  dsimp only
  rw [if_pos rfl, htexts,
    if_pos (show (true && (some (Json.arr items)).isSome) = true from rfl), he]
  rfl

end SqlAccounts

/-! ### PostgreSQL -/

/-- An answer that is no error about the settings. -/
def PostgresExpected : Event PostgresRoleConnectorService.PostgresAns → Prop
  | ⟨.connect, answer⟩ => Spares IsSettingsError answer
  | ⟨.query _ _, answer⟩ => Spares IsSettingsError answer
  | _ => True

namespace PostgresRoleConnectorService

variable {js : Runtime} {config : Settings} {data params : Json} {mode : GroupMappingMode}

/-- A program with no error about the settings. -/
abbrev Unaffected {α : Type} (p : PostgresProg α) : Prop :=
  SparesRuns IsSettingsError PostgresExpected p

theorem login_spares : Spares IsSettingsError (login js data params (.obj config)) := by
  unfold login prefixedValue
  split
  · exact spares_other (by simp [beginsOtherwise])
  · dsimp only
    split
    · exact spares_other (by simp [beginsOtherwise])
    · exact spares_ok

theorem validateGrantRole_spares (role : String) :
    Spares IsSettingsError (validateGrantRole (.obj config) role) := by
  refine (validateIdentifier_spares (by simp [beginsOtherwise, toString])).bind fun validated _ => ?_
  split
  · exact spares_pure
  · split
    · exact spares_other (by simp [beginsOtherwise])
    · exact spares_pure

theorem permissionScopeValue_spares (value : Option Json) :
    Spares IsSettingsError (permissionScopeValue value) := by
  unfold permissionScopeValue
  dsimp only
  split
  · exact spares_ok
  · split
    · exact (validateIdentifier_spares (by simp [beginsOtherwise, toString])).bind fun _ _ => spares_pure
    · split
      · split
        · exact spares_other (by cases ‹ObjectKind› <;> simp [beginsOtherwise, toString])
        · exact (spares_mapM fun name _ => validateIdentifier_spares (by simp [beginsOtherwise, toString])).bind
            fun _ _ => spares_pure
      · exact spares_other (by simp [beginsOtherwise])

theorem normalizedFields_spares (item : Json) :
    Spares IsSettingsError (normalizedFields js item) := by
  have haction : Spares IsSettingsError (permissionAction (item.get? "action")) := by
    unfold permissionAction
    split
    · exact spares_ok
    · exact spares_ok
    · exact spares_other (by simp [beginsOtherwise])
  exact haction.bind fun _ _ => (permissionName_spares (by simp [beginsOtherwise, toString])).bind fun _ _ =>
    (permissionScopeValue_spares _).bind fun _ _ => spares_pure

theorem validatePermissionPolicy_spares (permission : NormalizedPostgresPermission) :
    Spares IsSettingsError (validatePermissionPolicy js (.obj config) permission) := by
  unfold validatePermissionPolicy
  split
  · exact spares_ok
  · exact spares_other (by simp [beginsOtherwise])
  · have hallowed : Spares IsSettingsError (allowedPermissions js (.obj config)) :=
      (spread_spares _).bind fun _ _ => (spread_spares _).bind fun _ _ =>
        spares_mapM fun item _ => normalizedFields_spares item
    refine hallowed.bind fun allowed _ => ?_
    split
    · exact spares_pure
    · exact spares_other (by simp [beginsOtherwise])

theorem permissions_spares :
    Spares IsSettingsError (permissions js (.obj config) data true) := by
  refine requestedPermissions_spares.bind fun items _ => Spares.bind ?_ fun normalized _ =>
    spares_mapM fun permission _ => validatePermissionPolicy_spares permission
  refine spares_mapM fun item _ => ?_
  unfold normalizedPermission
  split
  · exact normalizedFields_spares _
  · exact spares_other (by simp [beginsOtherwise])

theorem roles_spares (h : SettingsReadable config mode) (hmapped : ¬ Unmapped config) :
    Spares IsSettingsError (roles js (.obj config) data true) :=
  (requestedRoles_spares h hmapped _).bind fun _ _ =>
    spares_mapM fun role _ => validateGrantRole_spares role

/-! The statements of a transaction fail only as the database does. -/

theorem unaffected_query (client : Option ℕ) (statement : PostgresStatement) :
    Unaffected (query client statement) :=
  sparesRuns_request fun _ h => h

theorem unaffected_exec (client : Option ℕ) (statement : PostgresStatement) :
    Unaffected (exec client statement) :=
  (unaffected_query client statement).bind fun _ => sparesRuns_pure

theorem unaffected_forEach {α : Type} {step : α → PostgresProg Unit}
    (h : ∀ item, Unaffected (step item)) (items : List α) : Unaffected (forEach step items) := by
  induction items with
  | nil => exact sparesRuns_pure
  | cons item items ih => exact (h item).bind fun _ => ih

theorem unaffected_withTransaction {α : Type} {work : ℕ → PostgresProg α}
    (h : ∀ client, Unaffected (work client)) : Unaffected (withTransaction work) := by
  refine SparesRuns.bind (sparesRuns_request fun _ h => h) fun client => ?_
  have hbody := (unaffected_exec (some client) .begin).bind fun _ => (h client).bind fun result =>
    (unaffected_exec (some client) .commit).bind fun _ =>
      (sparesRuns_pure : Unaffected (pure result))
  refine SparesRuns.andThen (hbody.tryCatch fun error herror =>
    (unaffected_exec (some client) .rollback).bind fun _ => sparesRuns_throw herror) ?_
  intro outcome houtcome
  refine SparesRuns.andThen (sparesRuns_request fun _ _ => spares_ok) fun last hlast => ?_
  cases last with
  | ok u => exact sparesRuns_settle houtcome
  | error error => exact sparesRuns_settle (spares_error (hlast error rfl))

theorem unaffected_applyPermission (client : ℕ) (login : String)
    (permission : NormalizedPostgresPermission) :
    Unaffected (applyPermission (some client) (.obj config) login permission) := by
  refine SparesRuns.bind ?_ fun target => unaffected_exec _ _
  have hidentifier : ∀ value, Unaffected (Async.ofExcept (validateIdentifier value
      "PostgreSQL database")) :=
    fun value => sparesRuns_settle (validateIdentifier_spares (by simp [beginsOtherwise, toString]))
  unfold permissionScope
  split
  · refine SparesRuns.bind ?_ fun name => sparesRuns_pure
    unfold database
    split
    · exact hidentifier _
    · refine (unaffected_query _ _).bind fun rows => ?_
      split
      · exact sparesRuns_settle (spares_other (by simp [beginsOtherwise]))
      · exact hidentifier _
  · split
    · exact sparesRuns_pure
    · split
      · split
        · exact sparesRuns_pure
        · exact sparesRuns_settle (spares_other (by simp [beginsOtherwise]))
      · exact sparesRuns_settle (spares_other (by simp [beginsOtherwise]))

theorem createRole_spares (h : SettingsReadable config mode) (hmapped : ¬ Unmapped config) :
    Unaffected (createRole js (.obj config) data) := by
  refine sparesRuns_check login_spares fun login _ => ?_
  refine sparesRuns_check (passwordValue_spares (by simp [beginsOtherwise])) fun password _ => ?_
  refine sparesRuns_check (roles_spares h hmapped) fun roles _ => ?_
  refine sparesRuns_check permissions_spares fun permissions _ => ?_
  refine (unaffected_withTransaction fun client => ?_).bind fun _ => sparesRuns_pure
  refine (unaffected_exec _ _).bind fun _ => ?_
  exact (unaffected_forEach (fun role => unaffected_exec _ _) roles).bind fun _ =>
    unaffected_forEach (unaffected_applyPermission client login) permissions

/-- A payload whose account can be named, and whose groups can be read. -/
structure WellFormed (js : Runtime) (config : Settings) (data : Json) : Prop where
  login : ∃ account, login js data (.obj []) (.obj config) = .ok account
  password : ∃ secret, password data true = .ok secret
  groups : GroupsReadable js config data

theorem createRole_fails (hpayload : WellFormed js config data) (h : Unmapped config) :
    FailsWith IsSettingsError PostgresExpected (createRole js (.obj config) data) := by
  obtain ⟨account, hlogin⟩ := hpayload.login
  obtain ⟨secret, hpassword⟩ := hpayload.password
  obtain ⟨e, he, hsettings⟩ := requestedRoles_error hpayload.groups h "defaultRoles"
  refine failsWith_check hlogin (failsWith_check hpassword (failsWith_check_error ?_ hsettings))
  unfold roles
  rw [he]
  rfl

end PostgresRoleConnectorService

/-! ### MSSQL -/

/-- An answer that is no error about the settings. -/
def MssqlExpected : Event MssqlLoginConnectorService.MssqlAns → Prop
  | ⟨.query _, answer⟩ => Spares IsSettingsError answer
  | _ => True

namespace MssqlLoginConnectorService

variable {js : Runtime} {config : Settings} {data params : Json} {mode : GroupMappingMode}

/-- A program with no error about the settings. -/
abbrev Unaffected {α : Type} (p : MssqlProg α) : Prop :=
  SparesRuns IsSettingsError MssqlExpected p

theorem login_spares : Spares IsSettingsError (login js data params (.obj config)) := by
  unfold login prefixedValue validateIdentifier
  split
  · exact spares_other (by simp [beginsOtherwise])
  · dsimp only
    rw [if_pos rfl]
    exact validateIdentifier_spares (by simp [beginsOtherwise, toString])

theorem roles_spares (h : SettingsReadable config mode) (hmapped : ¬ Unmapped config) :
    Spares IsSettingsError (roles js (.obj config) data true) :=
  (requestedRoles_spares h hmapped _).bind fun _ _ =>
    spares_mapM fun role _ => validateIdentifier_spares (by simp [beginsOtherwise, toString])

theorem permissionScopeValue_spares (value : Option Json) :
    Spares IsSettingsError (permissionScopeValue value) := by
  unfold permissionScopeValue
  dsimp only
  split
  · exact spares_ok
  · split
    · exact (validateIdentifier_spares (by simp [beginsOtherwise, toString])).bind fun _ _ => spares_pure
    · split
      · split
        · exact spares_other (by simp [beginsOtherwise])
        · exact (spares_mapM fun name _ => validateIdentifier_spares (by simp [beginsOtherwise, toString])).bind
            fun _ _ => spares_pure
      · exact spares_other (by simp [beginsOtherwise])

theorem normalizedPermission_spares (item : Json) :
    Spares IsSettingsError (normalizedPermission js item) := by
  unfold normalizedPermission
  split
  · refine Spares.bind ?_ fun _ _ => (permissionName_spares (by simp [beginsOtherwise, toString])).bind fun _ _ =>
      (permissionScopeValue_spares _).bind fun _ _ => spares_pure
    unfold permissionAction
    split
    · exact spares_ok
    · exact spares_ok
    · exact spares_ok
    · exact spares_other (by simp [beginsOtherwise])
  · exact spares_other (by simp [beginsOtherwise])

theorem permissionScope_spares (scope database : String) :
    Spares IsSettingsError (permissionScope scope database) := by
  refine (permissionScopeValue_spares _).bind fun value _ => ?_
  split
  · exact spares_pure
  · split
    · exact spares_pure
    · split
      · exact spares_pure
      · exact spares_other (by simp [beginsOtherwise])

theorem unaffected_exec (statement : MssqlStatement) : Unaffected (exec statement) :=
  (sparesRuns_request fun _ h => h).bind fun _ => sparesRuns_pure

theorem unaffected_forEach {α : Type} {step : α → MssqlProg Unit}
    (h : ∀ item, Unaffected (step item)) (items : List α) : Unaffected (forEach step items) := by
  induction items with
  | nil => exact sparesRuns_pure
  | cons item items ih => exact (h item).bind fun _ => ih

theorem createLogin_spares (h : SettingsReadable config mode) (hmapped : ¬ Unmapped config) :
    Unaffected (createLogin js (.obj config) data) := by
  refine sparesRuns_check login_spares fun login _ => ?_
  refine sparesRuns_check (passwordValue_spares (by simp [beginsOtherwise])) fun password _ => ?_
  refine sparesRuns_check (validateIdentifier_spares (by simp [beginsOtherwise, toString])) fun database _ => ?_
  refine (unaffected_exec _).bind fun _ => (unaffected_exec _).bind fun _ => ?_
  refine sparesRuns_check (roles_spares h hmapped) fun roles _ => ?_
  refine (unaffected_forEach (fun role => unaffected_exec _) roles).bind fun _ => ?_
  refine sparesRuns_check ?_ fun permissions _ => ?_
  · exact requestedPermissions_spares.bind fun items _ =>
      spares_mapM fun item _ => normalizedPermission_spares item
  · refine (unaffected_forEach (fun permission => ?_) permissions).bind fun _ => ?_
    · exact sparesRuns_check (permissionScope_spares _ _) fun _ _ => unaffected_exec _
    · split
      · exact (unaffected_exec _).bind fun _ => sparesRuns_pure
      · exact sparesRuns_pure

/-- A payload whose login can be created, and whose groups can be read. -/
structure WellFormed (js : Runtime) (config : Settings) (data : Json) : Prop where
  login : ∃ account, login js data (.obj []) (.obj config) = .ok account
  password : ∃ secret, password data true = .ok secret
  database : ∃ name, database (.obj config) data = .ok name
  groups : GroupsReadable js config data

/-- The login is created before the roles are read. -/
theorem createLogin_fails (hpayload : WellFormed js config data) (h : Unmapped config) :
    FailsWith IsSettingsError MssqlExpected (createLogin js (.obj config) data) := by
  obtain ⟨account, hlogin⟩ := hpayload.login
  obtain ⟨secret, hpassword⟩ := hpayload.password
  obtain ⟨name, hdatabase⟩ := hpayload.database
  obtain ⟨e, he, hsettings⟩ := requestedRoles_error hpayload.groups h "defaultDatabaseRoles"
  refine failsWith_check hlogin (failsWith_check hpassword (failsWith_check hdatabase ?_))
  have hexec : ∀ statement, (exec statement).Runs [⟨.query statement, .ok []⟩] (.ok ()) :=
    fun statement => ⟨.ok [], [], rfl, rfl, rfl⟩
  have hexpected : ∀ statement : MssqlStatement, ∀ v : Event MssqlAns,
      v ∈ [⟨.query statement, .ok []⟩] → MssqlExpected v := by
    intro statement v hv
    obtain rfl := List.mem_singleton.1 hv
    exact spares_ok
  refine failsWith_bind (hexec _) (hexpected _) (failsWith_bind (hexec _) (hexpected _) ?_)
  refine failsWith_check_error ?_ hsettings
  unfold roles
  rw [he]
  rfl

end MssqlLoginConnectorService

/-! ### Passwork -/

/-- An answer that is no error about the settings. -/
def PassworkExpected : Event PassworkAns → Prop
  | ⟨.httpsAgent _, answer⟩ => Spares IsSettingsError answer
  | ⟨.request _ _ _ _, answer⟩ => Spares IsSettingsError answer

namespace PassworkConnectorService

variable {js : Runtime} {config : Settings} {data params : Json} {mode : GroupMappingMode}

/-- A program with no error about the settings. -/
abbrev Unaffected {α : Type} (p : PassworkProg α) : Prop :=
  SparesRuns IsSettingsError PassworkExpected p

theorem unaffected_call (request : PassworkRequest) :
    Unaffected (call js (.obj config) request) := by
  unfold call
  split
  · split
    · exact sparesRuns_settle (spares_other (by simp [beginsOtherwise]))
    · refine SparesRuns.bind ?_ fun agent => sparesRuns_request fun _ h => h
      unfold axiosConfig
      split
      · exact sparesRuns_pure
      · refine sparesRuns_check ?_ fun _ _ =>
          (sparesRuns_request fun _ h => h).bind fun _ => sparesRuns_pure
        unfold assertTlsUrl
        split
        · exact spares_ok
        · exact spares_other (by simp [beginsOtherwise])
  · exact sparesRuns_settle (spares_other (by simp [beginsOtherwise]))

theorem requireId_spares (id : Option String) : Spares IsSettingsError (requireId id) := by
  unfold requireId
  split
  · exact spares_other (by simp [beginsOtherwise])
  · split
    · exact spares_other (by simp [beginsOtherwise])
    · exact spares_ok

theorem groupIdOf_spares (key : String) (groups : List Json) (value : String) :
    Spares IsSettingsError (groupIdOf js key groups value) := by
  have hfind : Spares IsSettingsError (findRow js key value groups) := by
    induction groups with
    | nil => exact spares_ok
    | cons row rows ih =>
      unfold findRow
      split
      · cases ‹_ :: _ = []›
      · have hmessage : BeginsOtherwise "Cannot read properties of null (reading '" :=
          ⟨'C', rfl, by decide⟩
        exact ((hmessage.append key).append "')").spares
      · next heq =>
        obtain ⟨rfl, rfl⟩ := List.cons.inj heq
        split
        · exact spares_ok
        · exact ih
  refine hfind.bind fun row _ => ?_
  split
  · exact spares_pure
  · have hmessage : BeginsOtherwise "Passwork user group not found by " := ⟨'P', rfl, by decide⟩
    exact (((hmessage.append key).append ": ").append value).spares

theorem objectRequest_spares (method collection : String) (id : Option String) (action : String)
    (body : Option Json) :
    Spares IsSettingsError (objectRequest method collection id action body) :=
  (requireId_spares id).bind fun _ _ => spares_pure

theorem unaffected_applyUserGroupMapping (response : Json) (groupIds : List String) :
    Unaffected (applyUserGroupMapping js (.obj config) data response groupIds) := by
  unfold applyUserGroupMapping
  split
  · exact sparesRuns_pure
  · split
    · exact sparesRuns_settle (spares_other (by simp [beginsOtherwise]))
    · next userId _ =>
      induction groupIds with
      | nil => exact sparesRuns_pure
      | cons groupId groupIds ih =>
        refine sparesRuns_check (objectRequest_spares _ _ _ _ _) fun request _ => ?_
        refine (unaffected_call request).bind fun _ => ?_
        cases groupIds with
        | nil => exact sparesRuns_pure
        | cons _ _ => exact ih (by simp)

theorem groupRefs_eq (h : SettingsReadable config mode) :
    groupRefs js (.obj config) data =
      let enabled := TargetSystemService.booleanConfig (config.lookup "groupMappingEnabled")
      (if enabled && (config.lookup "defaultGroups").isSome then
        groupRefTexts js (config.lookup "defaultGroups") mode "defaultGroups" else pure []) >>=
        fun defaults =>
      (if enabled then groupRefTexts js (data.get? "groups") mode "groups" else pure []) >>=
        fun incoming => pure (mode, defaults ++ incoming) := by
  unfold groupRefs
  rw [groupMappingSettings_of_readable h]
  simp only [Json.get?_obj]
  show (if (TargetSystemService.booleanConfig (config.lookup "groupMappingEnabled") && _) = true
    then _ else _) = _
  cases TargetSystemService.booleanConfig (config.lookup "groupMappingEnabled") with
  | false => rfl
  | true => cases (config.lookup "defaultGroups").isSome <;> rfl

theorem groupRefs_spares (h : SettingsReadable config mode) (hmapped : ¬ Unmapped config) :
    Spares IsSettingsError (groupRefs js (.obj config) data) := by
  rw [groupRefs_eq h]
  refine Spares.bind ?_ fun defaults _ => Spares.bind ?_ fun incoming _ => spares_pure
  · split
    · next henabled => exact defaultGroups_spares h hmapped (Bool.and_eq_true_iff.1 henabled).1
    · exact spares_pure
  · split
    · exact groupRefTexts_groups _
    · exact spares_pure

theorem resolveUserGroupMapping_spares (h : SettingsReadable config mode)
    (hmapped : ¬ Unmapped config) :
    Unaffected (resolveUserGroupMapping js (.obj config) data) := by
  refine sparesRuns_check (groupRefs_spares h hmapped) fun refs _ => ?_
  dsimp only
  split
  · exact sparesRuns_pure
  · split
    · exact sparesRuns_pure
    · exact (unaffected_call _).bind fun response =>
        sparesRuns_settle (spares_mapM fun value _ => groupIdOf_spares _ _ value)

theorem callOperation_spares (h : SettingsReadable config mode) (hmapped : ¬ Unmapped config) :
    Unaffected (callOperation js "user.create" (.obj config) data params) := by
  refine sparesRuns_check spares_ok fun request _ => ?_
  rw [if_pos rfl]
  refine (resolveUserGroupMapping_spares h hmapped).bind fun groupIds => ?_
  exact (unaffected_call request).bind fun response =>
    (unaffected_applyUserGroupMapping response groupIds).bind fun _ => sparesRuns_pure

theorem callOperation_fails (h : Unmapped config) :
    FailsWith IsSettingsError PassworkExpected
      (callOperation js "user.create" (.obj config) data params) := by
  obtain ⟨henabled, mode, items, hmode, hitems, item, hmem, hitem⟩ := h
  have herror : ∃ e, groupRefTexts js (some (.arr items)) mode "defaultGroups" = .error e ∧
      IsSettingsError e := groupRefTexts_error hmem hitem
  obtain ⟨e, he, hsettings⟩ := herror
  have hrefs : groupRefs js (.obj config) data = .error e := by
    rw [groupRefs_eq ⟨hmode, Or.inr ⟨items, hitems⟩⟩, henabled, hitems]
    dsimp only
    rw [if_pos (show (true && (some (Json.arr items)).isSome) = true from rfl), he]
    rfl
  refine ⟨[], e, ?_, by simp, hsettings⟩
  show (((Async.ofExcept (groupRefs js (.obj config) data) >>= _) >>= _ : PassworkProg Json)).Runs
    [] (.error e)
  rw [hrefs]
  exact ⟨rfl, rfl⟩

end PassworkConnectorService

end IdmMw
