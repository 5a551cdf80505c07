import IdmMw.Model.TargetSystems

/-!
# The registry of connectors

`ConnectorRegistry` keeps in memory what the table `TargetSystem` says: the connectors by name.
`reload` reads the table, and a timer compares a version of it.

* `ConnectorRegistry.nextConnectors`: the map that a reload builds from the rows it has read;
* `TargetTable.version`: the version of a table;
* `RegistryState`, `RegistryEvent`, `RegistryState.step`: the table, the map, the reload in flight
  with those who wait for it, and the polls under way. A statement and what the program does with
  its answer are one event; commits of any process and calls of `reload` may come between;
* `step_effect`: what each event does.

`started`, `completed`, `resolved`, `since` and the callers' polls are not in the program: they keep
book of what has happened.
-/

namespace IdmMw

/-! ### The map -/

/-- A registered connector: one of the program's own, or a proxy of one, with a configuration. -/
inductive RegisteredConnector
  | static (name : String)
  | proxy (type name : String) (config : Json)

abbrev ConnectorMap := List (String × RegisteredConnector)

/-- The settings of the registry; `none` where one is not set. -/
structure RegistrySettings where
  staticConnectorAllowlist : Option String
  nodeEnv : Option String

/-- No static connectors. -/
def RegistrySettings.production : RegistrySettings := ⟨none, some "production"⟩

namespace ConnectorRegistry

/-- The names of the connectors that are registered from code. -/
def staticConnectors : List String :=
  ["rest", "db", "zabbix", "cmdbuild", "fake", "passwork", "consultant-plus", "postgres-role",
    "linux", "mssql-login"]

def staticConnectorAllowlist (settings : RegistrySettings) : List (List Char) :=
  match settings.staticConnectorAllowlist with
  | some configured => ((configured.toList.splitOn ',').map trimChars).filter (!·.isEmpty)
  | none => if settings.nodeEnv = some "production" then [] else ["fake".toList]

/-- The static connectors that are allowed. -/
def allowedConnectors (settings : RegistrySettings) : List String :=
  staticConnectors.filter fun name => (staticConnectorAllowlist settings).contains name.toList

def createProxy (type name : String) (config : Json) : Option RegisteredConnector :=
  if staticConnectors.contains type then some (.proxy type name config) else none

/-- The loop over the rows. -/
def registerSystems (app : App) : List TargetSystem → ConnectorMap → Except JsError ConnectorMap
  | [], nextConnectors => .ok nextConnectors
  | ts :: systems, nextConnectors =>
    match JsonHelper.fromJson app ts.config with
    | .error e => .error e
    | .ok value =>
      registerSystems app systems
        (match createProxy ts.type ts.name value.orEmpty with
          | some proxy => OrderedMap.set nextConnectors ts.name proxy
          | none => nextConnectors)

/-- The map that `reloadInternal` builds from the rows it has read. -/
def nextConnectors (app : App) (settings : RegistrySettings) (systems : List TargetSystem) :
    Except JsError ConnectorMap :=
  registerSystems app systems
    ((allowedConnectors settings).map fun name => (name, .static name))

end ConnectorRegistry

/-! ### The table -/

/-- A state of the table `TargetSystem`. -/
structure TargetTable where
  rows : List TargetSystem
  names_nodup : (rows.map TargetSystem.name).Nodup

namespace TargetTable

/-- `findMany({ where: { enabled: true } })`. -/
def enabledRows (table : TargetTable) : List TargetSystem := table.rows.filter (·.enabled)

def count (table : TargetTable) : ℕ := table.rows.length

/-- `aggregate({ _max: { updatedAt: true } })`. -/
def maxUpdatedAt (table : TargetTable) : Option Time := (table.rows.map TargetSystem.updatedAt).max?

/-- What `registryVersion` makes a text of. -/
def version (table : TargetTable) : ℕ × Option Time := (table.count, table.maxUpdatedAt)

def empty : TargetTable := ⟨[], List.nodup_nil⟩

/-- The table of one row: an enabled database by the name `crm`. -/
def crm (config : Json) : TargetTable where
  rows :=
    [{ id := "t1", name := "crm", type := "db", label := "CRM", config := .native config
       enabled := true, createdAt := 0, updatedAt := 0 }]
  names_nodup := List.nodup_singleton _

end TargetTable

/-! ### The state -/

/-- The answers to the two statements of `registryVersion` that have come. -/
structure VersionRead where
  count : Option ℕ
  max : Option (Option Time)

/-- The version, when both have come. -/
def VersionRead.version (read : VersionRead) : Option (ℕ × Option Time) :=
  match read.count, read.max with
  | some count, some max => some (count, max)
  | _, _ => none

/-- Where `reloadInternal` is: before the rows are read, or after the map has been replaced by that
of the rows that were read. -/
inductive ReloadProgress
  | reading
  | versioning (systems : List TargetSystem) (read : VersionRead)

/-- Whoever waits for the reload in flight: a poll, or another caller of `reload`; and which states
the table has had since the call. -/
structure ReloadCaller where
  poll : Option ℕ
  since : List TargetTable

structure ReloadInFlight where
  progress : ReloadProgress
  callers : List ReloadCaller

/-- A poll that awaits its version. -/
structure PendingPoll where
  id : ℕ
  read : VersionRead

/-- A call of `reload` that has resolved: the states of the table since the call, and the map. -/
structure ResolvedReload where
  since : List TargetTable
  connectors : ConnectorMap

structure RegistryState where
  table : TargetTable
  connectors : ConnectorMap
  lastRegistryVersion : Option (ℕ × Option Time)
  reloadInFlight : Option ReloadInFlight
  polls : List PendingPoll
  started : List ℕ
  completed : List ℕ
  resolved : List ResolvedReload

/-- Before the first reload. -/
def RegistryState.initial (table : TargetTable) : RegistryState where
  table := table
  connectors := []
  lastRegistryVersion := none
  reloadInFlight := none
  polls := []
  started := []
  completed := []
  resolved := []

inductive RegistryEvent
  -- some process commits a create, an update or a delete
  | write (table : TargetTable)
  -- `reload` is called, a statement of the reload in flight is executed, or one fails
  | reload
  | findMany
  | count
  | aggregate
  | fail
  -- a tick of the timer; a statement of the poll is executed, or one fails
  | poll (id : ℕ)
  | pollCount (id : ℕ)
  | pollAggregate (id : ℕ)
  | pollFail (id : ℕ)

namespace RegistryState

variable (app : App) (settings : RegistrySettings) (s : RegistryState)

/-- `reload()`: the caller waits for the reload in flight, or starts one. -/
def reload (poll : Option ℕ) : RegistryState :=
  let caller := { poll, since := [s.table] }
  match s.reloadInFlight with
  | some flight =>
    { s with reloadInFlight := some { flight with callers := caller :: flight.callers } }
  | none => { s with reloadInFlight := some { progress := .reading, callers := [caller] } }

/-- The reload in flight has its version: it resolves, and all its callers with it. -/
def resolve (callers : List ReloadCaller) (version : ℕ × Option Time) : RegistryState :=
  { s with
    lastRegistryVersion := some version
    reloadInFlight := none
    completed := callers.filterMap ReloadCaller.poll ++ s.completed
    resolved := (callers.map fun caller => ⟨caller.since, s.connectors⟩) ++ s.resolved }

/-- The reload in flight has another answer for its version. -/
def versioned (systems : List TargetSystem) (read : VersionRead) (callers : List ReloadCaller) :
    RegistryState :=
  match read.version with
  | some version => s.resolve callers version
  | none => { s with reloadInFlight := some { progress := .versioning systems read, callers } }

/-- A poll has another answer for its version; with both, it is over or calls `reload`. -/
def polled (id : ℕ) (read : VersionRead) : RegistryState :=
  let others := s.polls.filter (·.id ≠ id)
  match read.version with
  | none => { s with polls := ⟨id, read⟩ :: others }
  | some version =>
    if some version = s.lastRegistryVersion then
      { s with polls := others, completed := id :: s.completed }
    else ({ s with polls := others } : RegistryState).reload (some id)

/-- The commit of another state of the table. -/
def write (table : TargetTable) : RegistryState :=
  { s with
    table := table
    reloadInFlight := s.reloadInFlight.map fun flight =>
      { flight with callers := flight.callers.map fun caller =>
          { caller with since := table :: caller.since } } }

def step : RegistryEvent → Option RegistryState
  | .write table => some (s.write table)
  | .reload => some (s.reload none)
  | .findMany =>
    match s.reloadInFlight with
    | some ⟨.reading, callers⟩ =>
      match ConnectorRegistry.nextConnectors app settings s.table.enabledRows with
      | .ok nextConnectors =>
        some { s with
          connectors := nextConnectors
          reloadInFlight :=
            some { progress := .versioning s.table.enabledRows ⟨none, none⟩, callers } }
      | .error _ => some { s with reloadInFlight := none }
    | _ => none
  | .count =>
    match s.reloadInFlight with
    | some ⟨.versioning systems ⟨none, max⟩, callers⟩ =>
      some (s.versioned systems ⟨some s.table.count, max⟩ callers)
    | _ => none
  | .aggregate =>
    match s.reloadInFlight with
    | some ⟨.versioning systems ⟨count, none⟩, callers⟩ =>
      some (s.versioned systems ⟨count, some s.table.maxUpdatedAt⟩ callers)
    | _ => none
  | .fail =>
    match s.reloadInFlight with
    | some _ => some { s with reloadInFlight := none }
    | none => none
  | .poll id =>
    if id ∈ s.started then none
    else some { s with polls := ⟨id, ⟨none, none⟩⟩ :: s.polls, started := id :: s.started }
  | .pollCount id =>
    match s.polls.find? (·.id = id) with
    | some ⟨_, ⟨none, max⟩⟩ => some (s.polled id ⟨some s.table.count, max⟩)
    | _ => none
  | .pollAggregate id =>
    match s.polls.find? (·.id = id) with
    | some ⟨_, ⟨count, none⟩⟩ => some (s.polled id ⟨count, some s.table.maxUpdatedAt⟩)
    | _ => none
  | .pollFail id =>
    if (s.polls.find? (·.id = id)).isSome then
      some { s with polls := s.polls.filter (·.id ≠ id) }
    else none

/-! ### What an event does -/

variable {app settings s}

/-- What an event does in a state where it is possible. -/
inductive Effect (app : App) (settings : RegistrySettings) (s : RegistryState) :
    RegistryEvent → RegistryState → Prop
  | written (table : TargetTable) : Effect app settings s (.write table) (s.write table)
  | called : Effect app settings s .reload (s.reload none)
  | rowsRead {callers : List ReloadCaller} {connectors : ConnectorMap}
      (hflight : s.reloadInFlight = some ⟨.reading, callers⟩)
      (hmap : ConnectorRegistry.nextConnectors app settings s.table.enabledRows = .ok connectors) :
      Effect app settings s .findMany
        { s with
          connectors := connectors
          reloadInFlight :=
            some { progress := .versioning s.table.enabledRows ⟨none, none⟩, callers } }
  | ended {e : RegistryEvent} (he : e = .findMany ∨ e = .fail) :
      Effect app settings s e { s with reloadInFlight := none }
  | countRead {systems : List TargetSystem} {max : Option (Option Time)}
      {callers : List ReloadCaller}
      (hflight : s.reloadInFlight = some ⟨.versioning systems ⟨none, max⟩, callers⟩) :
      Effect app settings s .count (s.versioned systems ⟨some s.table.count, max⟩ callers)
  | maxRead {systems : List TargetSystem} {count : Option ℕ} {callers : List ReloadCaller}
      (hflight : s.reloadInFlight = some ⟨.versioning systems ⟨count, none⟩, callers⟩) :
      Effect app settings s .aggregate
        (s.versioned systems ⟨count, some s.table.maxUpdatedAt⟩ callers)
  | ticked {id : ℕ} (hnew : id ∉ s.started) :
      Effect app settings s (.poll id)
        { s with polls := ⟨id, ⟨none, none⟩⟩ :: s.polls, started := id :: s.started }
  | pollCountRead {id id' : ℕ} {max : Option (Option Time)}
      (hfind : s.polls.find? (·.id = id) = some ⟨id', ⟨none, max⟩⟩) :
      Effect app settings s (.pollCount id) (s.polled id ⟨some s.table.count, max⟩)
  | pollMaxRead {id id' : ℕ} {count : Option ℕ}
      (hfind : s.polls.find? (·.id = id) = some ⟨id', ⟨count, none⟩⟩) :
      Effect app settings s (.pollAggregate id) (s.polled id ⟨count, some s.table.maxUpdatedAt⟩)
  | pollFailed (id : ℕ) :
      Effect app settings s (.pollFail id) { s with polls := s.polls.filter (·.id ≠ id) }

theorem step_effect {e : RegistryEvent} {s' : RegistryState}
    (hstep : s.step app settings e = some s') : Effect app settings s e s' := by
  cases e with
  | write table =>
    obtain rfl := Option.some.inj hstep
    exact .written table
  | reload =>
    obtain rfl := Option.some.inj hstep
    exact .called
  | findMany =>
    simp only [step] at hstep
    split at hstep
    · next hflight =>
      split at hstep
      · next hmap =>
        obtain rfl := Option.some.inj hstep
        exact .rowsRead hflight hmap
      · obtain rfl := Option.some.inj hstep
        exact .ended (.inl rfl)
    · cases hstep
  | count =>
    simp only [step] at hstep
    split at hstep
    · next hflight =>
      obtain rfl := Option.some.inj hstep
      exact .countRead hflight
    · cases hstep
  | aggregate =>
    simp only [step] at hstep
    split at hstep
    · next hflight =>
      obtain rfl := Option.some.inj hstep
      exact .maxRead hflight
    · cases hstep
  | fail =>
    simp only [step] at hstep
    split at hstep
    · obtain rfl := Option.some.inj hstep
      exact .ended (.inr rfl)
    · cases hstep
  | poll id =>
    simp only [step] at hstep
    split at hstep
    · cases hstep
    · next hnew =>
      obtain rfl := Option.some.inj hstep
      exact .ticked hnew
  | pollCount id =>
    simp only [step] at hstep
    split at hstep
    · next hfind =>
      obtain rfl := Option.some.inj hstep
      exact .pollCountRead hfind
    · cases hstep
  | pollAggregate id =>
    simp only [step] at hstep
    split at hstep
    · next hfind =>
      obtain rfl := Option.some.inj hstep
      exact .pollMaxRead hfind
    · cases hstep
  | pollFail id =>
    simp only [step] at hstep
    split at hstep
    · obtain rfl := Option.some.inj hstep
      exact .pollFailed id
    · cases hstep

/-- Those who wait for the reload in flight. -/
def waiting (s : RegistryState) : List ReloadCaller :=
  match s.reloadInFlight with
  | some flight => flight.callers
  | none => []

/-- A call waits, for a reload that starts or for the one in flight. -/
theorem reload_effect (s : RegistryState) (poll : Option ℕ) :
    ∃ progress, s.reload poll =
        { s with reloadInFlight := some ⟨progress, ⟨poll, [s.table]⟩ :: s.waiting⟩ } ∧
      (progress = .reading ∨ s.reloadInFlight = some ⟨progress, s.waiting⟩) := by
  unfold reload waiting
  rcases s.reloadInFlight with _ | ⟨progress, callers⟩
  · exact ⟨.reading, rfl, .inl rfl⟩
  · exact ⟨progress, rfl, .inr rfl⟩

theorem waiting_write (s : RegistryState) (table : TargetTable) :
    (s.write table).waiting =
      s.waiting.map fun caller => { caller with since := table :: caller.since } := by
  unfold write waiting
  cases s.reloadInFlight with
  | none => rfl
  | some flight => rfl

/-- A reload goes on, or resolves. -/
theorem versioned_cases (s : RegistryState) (systems : List TargetSystem) (read : VersionRead)
    (callers : List ReloadCaller) :
    (read.version = none ∧ s.versioned systems read callers =
      { s with reloadInFlight := some { progress := .versioning systems read, callers } }) ∨
    ∃ version, read.version = some version ∧
      s.versioned systems read callers = s.resolve callers version := by
  unfold versioned
  cases read.version with
  | none => exact .inl ⟨rfl, rfl⟩
  | some version => exact .inr ⟨version, rfl, rfl⟩

/-- A poll goes on, is over, or calls `reload`. -/
theorem polled_cases (s : RegistryState) (id : ℕ) (read : VersionRead) :
    (read.version = none ∧
      s.polled id read = { s with polls := ⟨id, read⟩ :: s.polls.filter (·.id ≠ id) }) ∨
    (∃ version, read.version = some version ∧ some version = s.lastRegistryVersion ∧
      s.polled id read =
        { s with polls := s.polls.filter (·.id ≠ id), completed := id :: s.completed }) ∨
    ∃ version, read.version = some version ∧ some version ≠ s.lastRegistryVersion ∧
      s.polled id read =
        ({ s with polls := s.polls.filter (·.id ≠ id) } : RegistryState).reload (some id) := by
  unfold polled
  cases read.version with
  | none => exact .inl ⟨rfl, rfl⟩
  | some version =>
    by_cases h : some version = s.lastRegistryVersion
    · exact .inr (.inl ⟨version, rfl, h, if_pos h⟩)
    · exact .inr (.inr ⟨version, rfl, h, if_neg h⟩)

end RegistryState

end IdmMw
