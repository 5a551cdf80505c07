import IdmMw.Model.Facade
import IdmMw.Registry.Polling

/-!
# Disabled target systems behind the read facade

`executeRead` takes the configuration of a name from the table, whether the row is enabled or not, and
the connector from the map of the registry.

* `ReadFacade`: the table, the map that a reload has built of it, and how they answer;
* `lookup_of_disabled`: by the name of a disabled row the map has a static connector, or none;
* `disabled_iff`: a read of a disabled row fails as not found, unless a static connector of that name is
  allowed or the configuration of the row cannot be read.
-/

namespace IdmMw

open Async ConnectorRegistry

/-- The table, the map that has been built of it, and the native methods that each connector has. -/
structure ReadFacade where
  app : App
  settings : RegistrySettings
  table : TargetTable
  connectors : ConnectorMap
  reloaded : nextConnectors app settings table.enabledRows = .ok connectors
  methods : RegisteredConnector → Connector

namespace ReadFacade

variable (facade : ReadFacade)

/-- The row of the name. -/
def findRow (name : String) : Option TargetSystem := facade.table.rows.find? (·.name = name)

/-- The table and the map answer; a connector may do anything. -/
def Answers (e : Ev) : Prop :=
  match e with
  | ⟨.targetSystemConfig name, a⟩ => a = .ok ((facade.findRow name).map TargetSystem.config)
  | ⟨.registryGet name, a⟩ => a = (facade.connectors.lookup name).map facade.methods
  | _ => True

/-- A connector is called. -/
def IsConnectorCall : Req → Prop
  | .execute _ | .getSchema _ | .sync _ _ => True
  | _ => False

/-- `new NotFoundException(..)`. -/
def notFound (name : String) : JsError := .error s!"Target system not found: {name}"

/-- A read fails as not found, and no connector is called. -/
def NotFound (name operation : String) (params : Json) (syncMode : Option String) : Prop :=
  ∀ t x, (IdmController.executeRead facade.app name operation params syncMode).Runs t x →
    (∀ e ∈ t, facade.Answers e) → (∀ e ∈ t, ¬ IsConnectorCall e.req) ∧ x = .error (notFound name)

variable {facade} {name operation : String} {params : Json} {syncMode : Option String}
  {row : TargetSystem}

/-- By the name of a disabled row there is a static connector, if it is allowed. -/
theorem lookup_of_disabled (hrow : row ∈ facade.table.rows) (hdisabled : row.enabled = false) :
    facade.connectors.lookup row.name =
      if row.name ∈ allowedConnectors facade.settings then some (.static row.name) else none := by
  have hnames : (facade.table.enabledRows.map TargetSystem.name).Nodup :=
    facade.table.names_nodup.sublist (List.filter_sublist.map _)
  rcases registerSystems_lookup hnames facade.reloaded row.name with
    ⟨ts, hmem, hname, -⟩ | ⟨-, hlookup⟩
  · obtain ⟨hts, henabled⟩ := List.mem_filter.1 hmem
    obtain rfl := List.inj_on_of_nodup_map facade.table.names_nodup hts hrow hname
    exact absurd henabled (by simp [hdisabled])
  · rw [hlookup, lookup_static]

theorem findRow_eq (hrow : row ∈ facade.table.rows) : facade.findRow row.name = some row :=
  (OrderedMap.find?_key_iff facade.table.names_nodup).2 ⟨hrow, rfl⟩

/-- The configuration is read from the row. -/
theorem findRawConfig_runs (hrow : row ∈ facade.table.rows) {t : Trace}
    {x : Except JsError (Option Json)} :
    ((TargetSystemService.findRawConfigByName facade.app row.name).Runs t x ∧
      ∀ e ∈ t, facade.Answers e) ↔
      t = [⟨.targetSystemConfig row.name, .ok (some row.config)⟩] ∧
        x = (JsonHelper.fromJson facade.app row.config).map fun value => some value.orEmpty := by
  have hfound : (facade.findRow row.name).map TargetSystem.config = some row.config := by
    rw [findRow_eq hrow]
    rfl
  have hread : (TargetSystemService.rawConfig facade.app (some row.config)) =
      settle ((JsonHelper.fromJson facade.app row.config).map fun value => some value.orEmpty) := by
    show (Async.ofExcept (JsonHelper.fromJson facade.app row.config) >>= fun value =>
      Pure.pure (some value.orEmpty) : Prog (Option Json)) = _
    cases JsonHelper.fromJson facade.app row.config <;> rfl
  constructor
  · rintro ⟨⟨answer, t', rfl, hrun⟩, hanswers⟩
    obtain rfl : answer = .ok (some row.config) :=
      (hanswers _ List.mem_cons_self).trans (congrArg Except.ok hfound)
    obtain ⟨rfl, rfl⟩ := (congrArg (Runs · t' x) hread).mp hrun
    exact ⟨rfl, rfl⟩
  · rintro ⟨rfl, rfl⟩
    refine ⟨⟨_, [], rfl, (congrArg (Runs · [] _) hread).mpr ⟨rfl, rfl⟩⟩, fun e he => ?_⟩
    obtain rfl := List.mem_singleton.1 he
    exact (congrArg Except.ok hfound).symm

/-- A connector that is found is called. -/
theorem exists_connectorCall (connector : Connector) (payload : ConnectorPayload) :
    ∃ e : Ev, IsConnectorCall e.req ∧ facade.Answers e ∧
      (IdmController.callConnector connector payload syncMode).Runs [e] (.ok ⟨true, none, none⟩) := by
  unfold IdmController.callConnector
  split
  · exact ⟨⟨.getSchema payload, .ok ⟨true, none, none⟩⟩, trivial, trivial, _, [], rfl, rfl, rfl⟩
  · split
    · exact ⟨⟨.sync payload _, .ok ⟨true, none, none⟩⟩, trivial, trivial, _, [], rfl, rfl, rfl⟩
    · exact ⟨⟨.execute payload, .ok ⟨true, none, none⟩⟩, trivial, trivial, _, [], rfl, rfl, rfl⟩

end ReadFacade

/-- A read by the name of a disabled row fails as not found, and no connector is called. -/
def DisabledNotFound (facade : ReadFacade) (operation : String) (params : Json)
    (syncMode : Option String) (row : TargetSystem) : Prop :=
  row ∈ facade.table.rows → row.enabled = false →
    facade.NotFound row.name operation params syncMode

/-- No static connector of the row's name is allowed; a configuration that cannot be read is as good as
a row that is not there. -/
def NoNamesake (facade : ReadFacade) (row : TargetSystem) : Prop :=
  match JsonHelper.fromJson facade.app row.config with
  | .ok _ => row.name ∉ allowedConnectors facade.settings
  | .error e => e = ReadFacade.notFound row.name

/-- A static connector of the row's name would be called. -/
theorem not_allowed_of_notFound {facade : ReadFacade} {operation : String} {params : Json}
    {syncMode : Option String} {row : TargetSystem} {value : Json} (hrow : row ∈ facade.table.rows)
    (hdisabled : row.enabled = false) (hread : JsonHelper.fromJson facade.app row.config = .ok value)
    (h : facade.NotFound row.name operation params syncMode) :
    row.name ∉ allowedConnectors facade.settings := by
  intro hallowed
  have hlookup := ReadFacade.lookup_of_disabled hrow hdisabled
  rw [if_pos hallowed] at hlookup
  have hconfig := @ReadFacade.findRawConfig_runs facade row hrow
  rw [hread] at hconfig
  obtain ⟨hrun, hanswers⟩ := hconfig.2 ⟨rfl, rfl⟩
  obtain ⟨call, hcall, hanswer, hresult⟩ := @ReadFacade.exists_connectorCall facade
    syncMode (facade.methods (.static row.name))
    (IdmController.connectorPayload row.name operation params (some value.orEmpty))
  have hget : facade.Answers ⟨.registryGet row.name, some (facade.methods (.static row.name))⟩ :=
    (congrArg (Option.map facade.methods) hlookup).symm
  have hchecked : (IdmController.callConnector (facade.methods (.static row.name))
      (IdmController.connectorPayload row.name operation params (some value.orEmpty)) syncMode >>=
      IdmController.checkResult).Runs [call] (.ok ⟨true, none, none⟩) :=
    runs_bind_ok.2 ⟨_, [call], [], rfl, hresult, rfl, rfl⟩
  have hrest : (IdmController.executeRead facade.app row.name operation params syncMode).Runs
      ([⟨.targetSystemConfig row.name, .ok (some row.config)⟩] ++
        [⟨.registryGet row.name, some (facade.methods (.static row.name))⟩, call])
      (.ok ⟨true, none, none⟩) :=
    runs_bind_ok.2 ⟨_, _, _, rfl, hrun, _, _, rfl, hchecked⟩
  refine (h _ _ hrest fun e he => ?_).1 call (by simp) hcall
  rcases List.mem_append.1 he with he | he
  · exact hanswers e he
  · rcases List.mem_cons.1 he with rfl | he
    · exact hget
    · obtain rfl := List.mem_singleton.1 he
      exact hanswer

/-- A read by the name of a disabled row fails as not found exactly if no static connector of that name
is allowed. -/
theorem disabledNotFound_iff (facade : ReadFacade) (operation : String) (params : Json)
    (syncMode : Option String) (row : TargetSystem) :
    DisabledNotFound facade operation params syncMode row ↔
      (row ∈ facade.table.rows → row.enabled = false → NoNamesake facade row) := by
  refine imp_congr_right fun hrow => imp_congr_right fun hdisabled => ?_
  have hconfig := @ReadFacade.findRawConfig_runs facade row hrow
  unfold NoNamesake
  cases hread : JsonHelper.fromJson facade.app row.config with
  | error error =>
    rw [hread] at hconfig
    constructor
    · intro h
      obtain ⟨hrun, hanswers⟩ := hconfig.2 ⟨rfl, rfl⟩
      exact Except.error.inj (h _ _ (runs_bind.2 (Or.inl ⟨error, rfl, hrun⟩)) hanswers).2
    · rintro rfl t x hrun hanswers
      rcases runs_bind.1 hrun with ⟨e, rfl, hfail⟩ | ⟨config, t₁, t₂, rfl, hok, -⟩
      · obtain ⟨rfl, he⟩ := hconfig.1 ⟨hfail, hanswers⟩
        exact ⟨by simp [ReadFacade.IsConnectorCall], congrArg _ (Except.error.inj he)⟩
      · exact nomatch (hconfig.1 ⟨hok, fun e he => hanswers e (List.mem_append_left _ he)⟩).2
  | ok value =>
    rw [hread] at hconfig
    refine ⟨fun h => not_allowed_of_notFound hrow hdisabled hread h, fun hnot t x hrun hanswers => ?_⟩
    have hlookup := ReadFacade.lookup_of_disabled hrow hdisabled
    rw [if_neg hnot] at hlookup
    rcases runs_bind.1 hrun with ⟨e, rfl, hfail⟩ | ⟨config, t₁, t₂, rfl, hok, hrest⟩
    · exact nomatch (hconfig.1 ⟨hfail, hanswers⟩).2
    · obtain ⟨rfl, hvalue⟩ := hconfig.1 ⟨hok, fun e he => hanswers e (List.mem_append_left _ he)⟩
      obtain ⟨connector, t₃, rfl, hend⟩ := hrest
      obtain rfl : connector = none :=
        (hanswers _ (List.mem_append_right _ List.mem_cons_self)).trans
          (congrArg (Option.map facade.methods) hlookup)
      obtain ⟨rfl, rfl⟩ := hend
      exact ⟨by simp [ReadFacade.IsConnectorCall], rfl⟩

/-- A disabled row by the name of a static connector. -/
def disabledFake : TargetSystem :=
  ⟨"t1", "fake", "db", "Fake", .native (.obj [("password", .str "secret")]), false, 0, 0⟩

/-- The table of that row in development, where the connector `fake` is allowed. -/
def fakeFacade : ReadFacade where
  app := App.bare
  settings := ⟨none, none⟩
  table := ⟨[disabledFake], List.nodup_singleton _⟩
  connectors := [("fake", .static "fake")]
  reloaded := rfl
  methods _ := ⟨false, false⟩

/-- The connector `fake` is called with the configuration of the disabled row. -/
theorem disabledFake_called :
    ¬ DisabledNotFound fakeFacade "user.get" (.obj []) none disabledFake := fun h =>
  not_allowed_of_notFound List.mem_cons_self rfl rfl (h List.mem_cons_self rfl) (by decide)

end IdmMw
