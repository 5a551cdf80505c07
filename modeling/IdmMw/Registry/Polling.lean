import IdmMw.Registry.Reload

/-!
# What the polls converge to

A poll compares the version of the table with that of the last reload. Once writes have stopped, a
poll that begins and completes should leave the map that the table says.

* `Resolves`, `nextConnectors_resolves`: what the table says, and that a reload builds just that;
* `Keeps`: the map is that of the table where the recorded version is the table's. A write of a table
  of the recorded version may break it, and so may a write between the two readings of a reload
  (`Tracked` is the condition that neither does);
* `Begun`: the polls under way, and those that have completed, have begun;
* `Watched`: what is known of one poll from its beginning on, when nothing is written;
* `resolves_of_completed`: the law, in every run of tracked events.
-/

namespace IdmMw

open Transitions ConnectorRegistry RegistryState

variable {app : App} {settings : RegistrySettings} {s s' : RegistryState} {e : RegistryEvent}

/-! ### What the table says -/

/-- The row has a connector of its own: it is enabled and of a known type. -/
def TargetTable.Provides (table : TargetTable) (name : String) (ts : TargetSystem) : Prop :=
  ts ∈ table.enabledRows ∧ ts.name = name ∧ ts.type ∈ staticConnectors

/-- The names of the map are those of the enabled rows of known type, each with the type and the
configuration that are stored, and of the other static connectors that are allowed. -/
def Resolves (app : App) (settings : RegistrySettings) (table : TargetTable)
    (connectors : ConnectorMap) : Prop :=
  ∀ name connector, connectors.lookup name = some connector ↔
    (∃ ts, table.Provides name ts ∧ ∃ value, JsonHelper.fromJson app ts.config = .ok value ∧
      connector = .proxy ts.type name value.orEmpty) ∨
    (name ∈ allowedConnectors settings ∧ connector = .static name ∧
      ∀ ts, ¬ table.Provides name ts)

theorem lookup_static (names : List String) (name : String) :
    (names.map fun name => (name, RegisteredConnector.static name)).lookup name =
      if name ∈ names then some (.static name) else none := by
  induction names with
  | nil => rfl
  | cons first names ih =>
    by_cases h : first = name
    · subst h
      rw [List.map_cons, OrderedMap.lookup_cons_self, if_pos List.mem_cons_self]
    · rw [List.map_cons, OrderedMap.lookup_cons_of_ne h, ih]
      by_cases hname : name ∈ names
      · rw [if_pos hname, if_pos (List.mem_cons_of_mem _ hname)]
      · rw [if_neg hname, if_neg]
        intro hmem
        rcases List.mem_cons.1 hmem with heq | hmem
        · exact h heq.symm
        · exact hname hmem

theorem createProxy_eq (type name : String) (config : Json) :
    createProxy type name config =
      if type ∈ staticConnectors then some (.proxy type name config) else none := by
  unfold createProxy
  by_cases h : type ∈ staticConnectors
  · rw [if_pos h, if_pos (List.contains_iff_mem.2 h)]
  · rw [if_neg h, if_neg fun h' => h (List.contains_iff_mem.1 h')]

/-- The loop over rows with unique names: a name is that of a row, or is left as it was. -/
theorem registerSystems_lookup {systems : List TargetSystem} {old connectors : ConnectorMap}
    (hnames : (systems.map TargetSystem.name).Nodup)
    (h : registerSystems app systems old = .ok connectors) (name : String) :
    (∃ ts ∈ systems, ts.name = name ∧ ts.type ∈ staticConnectors ∧
      ∃ value, JsonHelper.fromJson app ts.config = .ok value ∧
        connectors.lookup name = some (.proxy ts.type name value.orEmpty)) ∨
    ((∀ ts ∈ systems, ts.name = name → ts.type ∉ staticConnectors) ∧
      connectors.lookup name = old.lookup name) := by
  induction systems generalizing old with
  | nil =>
    obtain rfl := Except.ok.inj h
    exact .inr ⟨fun _ hts => absurd hts List.not_mem_nil, rfl⟩
  | cons ts systems ih =>
    obtain ⟨hfirst, hrest⟩ := List.nodup_cons.1 hnames
    unfold registerSystems at h
    split at h
    · cases h
    · next value hvalue =>
      rw [createProxy_eq] at h
      rcases ih hrest h with ⟨ts', hmem, hname, htype, hread⟩ | ⟨hnone, hlookup⟩
      · exact .inl ⟨ts', List.mem_cons_of_mem _ hmem, hname, htype, hread⟩
      · by_cases htype : ts.type ∈ staticConnectors
        · rw [if_pos htype] at hlookup
          dsimp only at hlookup
          by_cases hname : ts.name = name
          · subst hname
            rw [OrderedMap.lookup_set_self] at hlookup
            exact .inl ⟨ts, List.mem_cons_self, rfl, htype, value, hvalue, hlookup⟩
          · rw [OrderedMap.lookup_set_of_ne (Ne.symm hname)] at hlookup
            refine .inr ⟨fun ts' hmem => ?_, hlookup⟩
            rcases List.mem_cons.1 hmem with rfl | hmem
            · exact fun h => absurd h hname
            · exact hnone ts' hmem
        · rw [if_neg htype] at hlookup
          refine .inr ⟨fun ts' hmem => ?_, hlookup⟩
          rcases List.mem_cons.1 hmem with rfl | hmem
          · exact fun _ => htype
          · exact hnone ts' hmem

/-- A reload builds what the table says. -/
theorem nextConnectors_resolves {table : TargetTable} {connectors : ConnectorMap}
    (h : nextConnectors app settings table.enabledRows = .ok connectors) :
    Resolves app settings table connectors := by
  have hnames : (table.enabledRows.map TargetSystem.name).Nodup :=
    table.names_nodup.sublist (List.filter_sublist.map _)
  intro name connector
  rcases registerSystems_lookup hnames h name with
    ⟨ts, hmem, hname, htype, value, hvalue, hlookup⟩ | ⟨hnone, hlookup⟩
  · rw [hlookup]
    constructor
    · intro heq
      obtain rfl := Option.some.inj heq
      exact .inl ⟨ts, ⟨hmem, hname, htype⟩, value, hvalue, rfl⟩
    · rintro (⟨ts', ⟨hmem', hname', -⟩, value', hvalue', rfl⟩ | ⟨-, -, hno⟩)
      · obtain rfl : ts = ts' :=
          List.inj_on_of_nodup_map hnames hmem hmem' (hname.trans hname'.symm)
        rw [Except.ok.inj (hvalue.symm.trans hvalue')]
      · exact absurd ⟨hmem, hname, htype⟩ (hno ts)
  · rw [hlookup, lookup_static]
    have hno : ∀ ts, ¬ table.Provides name ts := fun ts ⟨hmem, hname, htype⟩ =>
      hnone ts hmem hname htype
    by_cases hallowed : name ∈ allowedConnectors settings
    · rw [if_pos hallowed]
      constructor
      · intro heq
        exact .inr ⟨hallowed, (Option.some.inj heq).symm, hno⟩
      · rintro (⟨ts, hts, -⟩ | ⟨-, rfl, -⟩)
        · exact absurd hts (hno ts)
        · rfl
    · rw [if_neg hallowed]
      constructor
      · intro heq
        cases heq
      · rintro (⟨ts, hts, -⟩ | ⟨hname, -⟩)
        · exact absurd hts (hno ts)
        · exact absurd hname hallowed

/-! ### The recorded version -/

/-- The event is the last answer to the reload in flight, and the version that it records is that of
the table. -/
def Stamps (s : RegistryState) : RegistryEvent → Prop
  | .count => ∃ systems callers, s.reloadInFlight =
      some ⟨.versioning systems ⟨none, some s.table.maxUpdatedAt⟩, callers⟩
  | .aggregate => ∃ systems callers, s.reloadInFlight =
      some ⟨.versioning systems ⟨some s.table.count, none⟩, callers⟩
  | _ => False

/-- A write of a table of the recorded version is of one with the map in use, and a reload that
records the version of the table has read rows of the same map. -/
structure Tracked (app : App) (settings : RegistrySettings) (s : RegistryState)
    (e : RegistryEvent) : Prop where
  write : ∀ table, e = .write table → some table.version = s.lastRegistryVersion →
    nextConnectors app settings table.enabledRows = .ok s.connectors
  stamp : Stamps s e → FlightFresh app settings s

theorem Tracked.of_other (hwrite : ∀ table, e ≠ .write table) (hstamp : ¬ Stamps s e) :
    Tracked app settings s e where
  write := fun table h => absurd h (hwrite table)
  stamp := fun h => absurd h hstamp

/-- Where the recorded version is the table's, the map is the table's; and the map is that of the rows
that a reload in flight has read. -/
structure Keeps (app : App) (settings : RegistrySettings) (s : RegistryState) : Prop where
  map : s.lastRegistryVersion = some s.table.version →
    nextConnectors app settings s.table.enabledRows = .ok s.connectors
  flight : ∀ systems read callers,
    s.reloadInFlight = some ⟨.versioning systems read, callers⟩ →
      nextConnectors app settings systems = .ok s.connectors

theorem Keeps.initial (table : TargetTable) : Keeps app settings (.initial table) where
  map := nofun
  flight := nofun

theorem Keeps.reload (h : Keeps app settings s) (poll : Option ℕ) :
    Keeps app settings (s.reload poll) := by
  obtain ⟨progress, hs, hprogress⟩ := s.reload_effect poll
  rw [hs]
  refine ⟨h.map, fun systems read callers hflight => ?_⟩
  cases hflight
  rcases hprogress with hreading | hold
  · cases hreading
  · exact h.flight systems read s.waiting hold

theorem Keeps.polled (h : Keeps app settings s) (id : ℕ) (read : VersionRead) :
    Keeps app settings (s.polled id read) := by
  rcases s.polled_cases id read with ⟨-, hs⟩ | ⟨-, -, -, hs⟩ | ⟨version, -, -, hs⟩
  · rw [hs]
    exact ⟨h.map, h.flight⟩
  · rw [hs]
    exact ⟨h.map, h.flight⟩
  · rw [hs]
    have others : Keeps app settings { s with polls := s.polls.filter (·.id ≠ id) } :=
      ⟨h.map, h.flight⟩
    exact others.reload (some id)

theorem Keeps.versioned (h : Keeps app settings s) {systems : List TargetSystem}
    {old read : VersionRead} {callers : List ReloadCaller}
    (hs : s.reloadInFlight = some ⟨.versioning systems old, callers⟩)
    (hstamp : read.version = some s.table.version → FlightFresh app settings s) :
    Keeps app settings (s.versioned systems read callers) := by
  rcases s.versioned_cases systems read callers with ⟨-, hs'⟩ | ⟨version, hread, hs'⟩
  · rw [hs']
    refine ⟨h.map, fun systems' read' callers' hflight => ?_⟩
    cases hflight
    exact h.flight systems old callers hs
  · rw [hs']
    refine ⟨fun hversion => ?_, nofun⟩
    have hread : read.version = some s.table.version := hread.trans hversion
    exact (hstamp hread systems old callers hs).trans (h.flight systems old callers hs)

/-- Every tracked event keeps the map that of the recorded version. -/
theorem Keeps.step (h : Keeps app settings s) (hok : Tracked app settings s e)
    (hstep : s.step app settings e = some s') : Keeps app settings s' := by
  cases step_effect hstep with
  | written table =>
    refine ⟨fun hversion => hok.write table rfl hversion.symm, ?_⟩
    intro systems read callers hflight
    obtain ⟨⟨progress, old⟩, hs, hflight⟩ := Option.map_eq_some_iff.1 hflight
    cases hflight
    exact h.flight systems read old hs
  | called => exact h.reload none
  | rowsRead hs hmap =>
    refine ⟨fun _ => hmap, fun systems read callers hflight => ?_⟩
    cases hflight
    exact hmap
  | ended he => exact ⟨h.map, nofun⟩
  | @countRead systems max callers hs =>
    refine h.versioned hs fun hversion => hok.stamp ?_
    cases max with
    | none => cases hversion
    | some max =>
      obtain rfl : max = s.table.maxUpdatedAt := congrArg Prod.snd (Option.some.inj hversion)
      exact ⟨systems, callers, hs⟩
  | @maxRead systems count callers hs =>
    refine h.versioned hs fun hversion => hok.stamp ?_
    cases count with
    | none => cases hversion
    | some count =>
      obtain rfl : count = s.table.count := congrArg Prod.fst (Option.some.inj hversion)
      exact ⟨systems, callers, hs⟩
  | ticked hnew => exact ⟨h.map, h.flight⟩
  | pollCountRead hfind => exact h.polled _ _
  | pollMaxRead hfind => exact h.polled _ _
  | pollFailed id => exact ⟨h.map, h.flight⟩

/-! ### The polls that have begun -/

/-- The polls under way, those that wait for a reload and those that have completed have begun. -/
structure Begun (s : RegistryState) : Prop where
  polls : ∀ poll ∈ s.polls, poll.id ∈ s.started
  waiting : ∀ caller ∈ s.waiting, ∀ id, caller.poll = some id → id ∈ s.started
  completed : ∀ id ∈ s.completed, id ∈ s.started

theorem Begun.initial (table : TargetTable) : Begun (.initial table) where
  polls := fun _ h => absurd h List.not_mem_nil
  waiting := fun _ h => absurd h List.not_mem_nil
  completed := fun _ h => absurd h List.not_mem_nil

theorem Begun.reload (h : Begun s) {poll : Option ℕ}
    (hpoll : ∀ id, poll = some id → id ∈ s.started) : Begun (s.reload poll) := by
  obtain ⟨progress, hs, -⟩ := s.reload_effect poll
  rw [hs]
  refine ⟨h.polls, fun caller hcaller => ?_, h.completed⟩
  rcases List.mem_cons.1 hcaller with rfl | hcaller
  · exact hpoll
  · exact h.waiting caller hcaller

theorem Begun.polled (h : Begun s) {id : ℕ} (hid : id ∈ s.started) (read : VersionRead) :
    Begun (s.polled id read) := by
  have hothers : ∀ poll ∈ s.polls.filter (·.id ≠ id), poll.id ∈ s.started := fun poll hpoll =>
    h.polls poll (List.mem_of_mem_filter hpoll)
  rcases s.polled_cases id read with ⟨-, hs⟩ | ⟨-, -, -, hs⟩ | ⟨version, -, -, hs⟩
  · rw [hs]
    refine ⟨fun poll hpoll => ?_, h.waiting, h.completed⟩
    rcases List.mem_cons.1 hpoll with rfl | hpoll
    · exact hid
    · exact hothers poll hpoll
  · rw [hs]
    refine ⟨hothers, h.waiting, fun id' hid' => ?_⟩
    rcases List.mem_cons.1 hid' with rfl | hid'
    · exact hid
    · exact h.completed id' hid'
  · rw [hs]
    have others : Begun { s with polls := s.polls.filter (·.id ≠ id) } :=
      ⟨hothers, h.waiting, h.completed⟩
    refine others.reload fun id' hid' => ?_
    obtain rfl := Option.some.inj hid'
    exact hid

theorem Begun.versioned (h : Begun s) {systems : List TargetSystem} {old : VersionRead}
    {callers : List ReloadCaller}
    (hs : s.reloadInFlight = some ⟨.versioning systems old, callers⟩) (read : VersionRead) :
    Begun (s.versioned systems read callers) := by
  have hwaiting : s.waiting = callers := by
    unfold RegistryState.waiting
    rw [hs]
  have hcallers := h.waiting
  rw [hwaiting] at hcallers
  rcases s.versioned_cases systems read callers with ⟨-, hs'⟩ | ⟨version, -, hs'⟩
  · rw [hs']
    exact ⟨h.polls, hcallers, h.completed⟩
  · rw [hs']
    refine ⟨h.polls, fun _ hcaller => absurd hcaller List.not_mem_nil, fun id hid => ?_⟩
    rcases List.mem_append.1 hid with hid | hid
    · obtain ⟨caller, hcaller, hpoll⟩ := List.mem_filterMap.1 hid
      exact hcallers caller hcaller id hpoll
    · exact h.completed id hid

theorem begun_of_find (h : Begun s) {id id' : ℕ} {read : VersionRead}
    (hfind : s.polls.find? (·.id = id) = some ⟨id', read⟩) : id ∈ s.started := by
  have hid : id' = id := by simpa using List.find?_some hfind
  subst hid
  exact h.polls _ (List.mem_of_find?_eq_some hfind)

theorem Begun.step (h : Begun s) (hstep : s.step app settings e = some s') : Begun s' := by
  cases step_effect hstep with
  | written table =>
    refine ⟨h.polls, fun caller hcaller id hid => ?_, h.completed⟩
    rw [waiting_write] at hcaller
    obtain ⟨old, hold, rfl⟩ := List.mem_map.1 hcaller
    exact h.waiting old hold id hid
  | called => exact h.reload nofun
  | @rowsRead callers connectors hs hmap =>
    have hcallers := h.waiting
    unfold RegistryState.waiting at hcallers
    rw [hs] at hcallers
    exact ⟨h.polls, hcallers, h.completed⟩
  | ended he => exact ⟨h.polls, fun _ hcaller => absurd hcaller List.not_mem_nil, h.completed⟩
  | countRead hs => exact h.versioned hs _
  | maxRead hs => exact h.versioned hs _
  | @ticked id hnew =>
    refine ⟨fun poll hpoll => ?_, fun caller hcaller id' hid' => ?_, fun id' hid' => ?_⟩
    · rcases List.mem_cons.1 hpoll with rfl | hpoll
      · exact List.mem_cons_self
      · exact List.mem_cons_of_mem _ (h.polls poll hpoll)
    · exact List.mem_cons_of_mem _ (h.waiting caller hcaller id' hid')
    · exact List.mem_cons_of_mem _ (h.completed id' hid')
  | pollCountRead hfind => exact h.polled (begun_of_find h hfind) _
  | pollMaxRead hfind => exact h.polled (begun_of_find h hfind) _
  | pollFailed id =>
    exact ⟨fun poll hpoll => h.polls poll (List.mem_of_mem_filter hpoll), h.waiting, h.completed⟩

/-! ### One poll, with nothing written -/

/-- The answers to the poll are those of the table, the reload that it waits for has read rows of the
table's map, and when it has completed the map is the table's. -/
structure Watched (app : App) (settings : RegistrySettings) (id : ℕ) (s : RegistryState) : Prop where
  answers : ∀ poll ∈ s.polls, poll.id = id → (∀ count ∈ poll.read.count, count = s.table.count) ∧
    ∀ max ∈ poll.read.max, max = s.table.maxUpdatedAt
  waiting : ∀ caller ∈ s.waiting, caller.poll = some id → FlightFresh app settings s
  done : id ∈ s.completed → nextConnectors app settings s.table.enabledRows = .ok s.connectors

/-- A poll that has not begun. -/
theorem Begun.watched (h : Begun s) {id : ℕ} (hnew : id ∉ s.started) :
    Watched app settings id s where
  answers := fun poll hpoll hid => absurd (hid ▸ h.polls poll hpoll) hnew
  waiting := fun caller hcaller hid => absurd (h.waiting caller hcaller id hid) hnew
  done := fun hid => absurd (h.completed id hid) hnew

theorem Watched.reload {id : ℕ} (h : Watched app settings id s) {poll : Option ℕ}
    (hpoll : poll = some id → FlightFresh app settings s) :
    Watched app settings id (s.reload poll) := by
  obtain ⟨progress, hs, hprogress⟩ := s.reload_effect poll
  rw [hs]
  refine ⟨h.answers, fun caller hcaller hid systems read callers hflight => ?_, h.done⟩
  have hfresh : FlightFresh app settings s := by
    rcases List.mem_cons.1 hcaller with rfl | hcaller
    · exact hpoll hid
    · exact h.waiting caller hcaller hid
  cases hflight
  rcases hprogress with hreading | hold
  · cases hreading
  · exact hfresh systems read s.waiting hold

theorem version_of_answers {read : VersionRead} {version : ℕ × Option Time}
    (hread : read.version = some version) (hcount : ∀ count ∈ read.count, count = s.table.count)
    (hmax : ∀ max ∈ read.max, max = s.table.maxUpdatedAt) : version = s.table.version := by
  obtain ⟨count, max⟩ := read
  cases count with
  | none => cases hread
  | some count =>
    cases max with
    | none => cases hread
    | some max =>
      obtain rfl := Option.some.inj hread
      rw [hcount count rfl, hmax max rfl]
      rfl

/-- The poll sees the version of the table: that of the map in use, or it waits for a reload. -/
theorem Watched.polled {id : ℕ} (h : Watched app settings id s) (hkeeps : Keeps app settings s)
    {id' : ℕ} {read : VersionRead}
    (hanswers : id' = id → (∀ count ∈ read.count, count = s.table.count) ∧
      ∀ max ∈ read.max, max = s.table.maxUpdatedAt)
    (hnotices : id' = id → ∀ version, read.version = some version →
      some version ≠ s.lastRegistryVersion → FlightFresh app settings s) :
    Watched app settings id (s.polled id' read) := by
  rcases s.polled_cases id' read with
    ⟨-, hs⟩ | ⟨version, hread, hversion, hs⟩ | ⟨version, hread, hne, hs⟩
  · rw [hs]
    refine ⟨fun poll hpoll => ?_, h.waiting, h.done⟩
    rcases List.mem_cons.1 hpoll with rfl | hpoll
    · exact hanswers
    · exact h.answers poll (List.mem_of_mem_filter hpoll)
  · rw [hs]
    refine ⟨fun poll hpoll => h.answers poll (List.mem_of_mem_filter hpoll), h.waiting, ?_⟩
    intro hid
    rcases List.mem_cons.1 hid with rfl | hid
    · obtain ⟨hcount, hmax⟩ := hanswers rfl
      rw [version_of_answers hread hcount hmax] at hversion
      exact hkeeps.map hversion.symm
    · exact h.done hid
  · rw [hs]
    have others : Watched app settings id { s with polls := s.polls.filter (·.id ≠ id') } :=
      ⟨fun poll hpoll => h.answers poll (List.mem_of_mem_filter hpoll), h.waiting, h.done⟩
    refine others.reload fun hid => ?_
    exact hnotices (Option.some.inj hid) version hread hne

theorem Watched.versioned {id : ℕ} (h : Watched app settings id s) (hkeeps : Keeps app settings s)
    {systems : List TargetSystem} {old : VersionRead} {callers : List ReloadCaller}
    (hs : s.reloadInFlight = some ⟨.versioning systems old, callers⟩) (read : VersionRead) :
    Watched app settings id (s.versioned systems read callers) := by
  have hwaiting : s.waiting = callers := by
    unfold RegistryState.waiting
    rw [hs]
  have hcallers := h.waiting
  rw [hwaiting] at hcallers
  rcases s.versioned_cases systems read callers with ⟨-, hs'⟩ | ⟨version, -, hs'⟩
  · rw [hs']
    refine ⟨h.answers, fun caller hcaller hid systems' read' callers' hflight => ?_, h.done⟩
    have hfresh := hcallers caller hcaller hid systems old callers hs
    cases hflight
    exact hfresh
  · rw [hs']
    refine ⟨h.answers, fun _ hcaller => absurd hcaller List.not_mem_nil, fun hid => ?_⟩
    rcases List.mem_append.1 hid with hid | hid
    · obtain ⟨caller, hcaller, hpoll⟩ := List.mem_filterMap.1 hid
      have hfresh := hcallers caller hcaller hpoll systems old callers hs
      exact hfresh.trans (hkeeps.flight systems old callers hs)
    · exact h.done hid

/-- The event writes nothing, is tracked, and the poll joins no reload that has read other rows. -/
structure Undisturbed (app : App) (settings : RegistrySettings) (id : ℕ) (s : RegistryState)
    (e : RegistryEvent) : Prop where
  no_write : ∀ table, e ≠ .write table
  tracked : Tracked app settings s e
  joins : Notices s id e → FlightFresh app settings s

theorem answers_of_find {id id' id'' : ℕ} {read : VersionRead} (h : Watched app settings id s)
    (hfind : s.polls.find? (·.id = id') = some ⟨id'', read⟩) (hid : id' = id) :
    (∀ count ∈ read.count, count = s.table.count) ∧
      ∀ max ∈ read.max, max = s.table.maxUpdatedAt := by
  have hid' : id'' = id' := by simpa using List.find?_some hfind
  exact h.answers _ (List.mem_of_find?_eq_some hfind) (hid'.trans hid)

theorem Watched.step {id : ℕ} (h : Watched app settings id s) (hkeeps : Keeps app settings s)
    (hok : Undisturbed app settings id s e) (hstep : s.step app settings e = some s') :
    Watched app settings id s' := by
  cases step_effect hstep with
  | written table => exact absurd rfl (hok.no_write table)
  | called => exact h.reload nofun
  | rowsRead hs hmap =>
    refine ⟨h.answers, fun caller _ _ systems read callers hflight => ?_, fun _ => hmap⟩
    cases hflight
    rfl
  | ended he => exact ⟨h.answers, fun _ hcaller => absurd hcaller List.not_mem_nil, h.done⟩
  | countRead hs => exact h.versioned hkeeps hs _
  | maxRead hs => exact h.versioned hkeeps hs _
  | @ticked id' hnew =>
    refine ⟨fun poll hpoll => ?_, h.waiting, h.done⟩
    rcases List.mem_cons.1 hpoll with rfl | hpoll
    · exact fun _ => ⟨nofun, nofun⟩
    · exact h.answers poll hpoll
  | @pollCountRead id' id'' max hfind =>
    refine h.polled hkeeps (fun hid => ?_) fun hid version hversion hne => hok.joins ?_
    · exact ⟨fun count hcount => (Option.some.inj hcount).symm, (answers_of_find h hfind hid).2⟩
    · cases max with
      | none => cases hversion
      | some max =>
        obtain rfl := Option.some.inj hversion
        subst hid
        exact ⟨rfl, id'', max, hfind, hne⟩
  | @pollMaxRead id' id'' count hfind =>
    refine h.polled hkeeps (fun hid => ?_) fun hid version hversion hne => hok.joins ?_
    · exact ⟨(answers_of_find h hfind hid).1, fun max hmax => (Option.some.inj hmax).symm⟩
    · cases count with
      | none => cases hversion
      | some count =>
        obtain rfl := Option.some.inj hversion
        subst hid
        exact ⟨rfl, id'', count, hfind, hne⟩
  | pollFailed id' =>
    exact ⟨fun poll hpoll => h.answers poll (List.mem_of_mem_filter hpoll), h.waiting, h.done⟩

/-- After any run of tracked events, in any run in which nothing is written: when a poll that has
begun in it has completed, the map is what the table says. -/
theorem resolves_of_completed {table : TargetTable} {before after : List RegistryEvent} {id : ℕ}
    (hbefore : Run (RegistryState.step app settings) (Tracked app settings) (.initial table) before
      s)
    (hnew : id ∉ s.started)
    (hafter : Run (RegistryState.step app settings) (Undisturbed app settings id) s after s')
    (hdone : id ∈ s'.completed) : Resolves app settings s'.table s'.connectors := by
  have hstart : Keeps app settings s ∧ Begun s :=
    hbefore.invariant (I := fun s => Keeps app settings s ∧ Begun s)
      (fun _ _ _ hI hok hstep => ⟨hI.1.step hok hstep, hI.2.step hstep⟩)
      ⟨.initial table, .initial table⟩
  have hend : Keeps app settings s' ∧ Watched app settings id s' :=
    hafter.invariant (I := fun s => Keeps app settings s ∧ Watched app settings id s)
      (fun _ _ _ hI hok hstep => ⟨hI.1.step hok.tracked hstep, hI.2.step hI.1 hok hstep⟩)
      ⟨hstart.1, hstart.2.watched hnew⟩
  exact nextConnectors_resolves (hend.2.done hdone)

/-- A row is created after a reload; the poll sees the new version, and reloads. -/
theorem resolves_of_completed_crm :
    ∃ s s', Run (RegistryState.step .bare .production) (Tracked .bare .production) (.initial .empty)
        [.reload, .findMany, .count, .aggregate, .write (.crm (.obj []))] s ∧ 0 ∉ s.started ∧
      Run (RegistryState.step .bare .production) (Undisturbed .bare .production 0) s
        [.poll 0, .pollCount 0, .pollAggregate 0, .findMany, .count, .aggregate] s' ∧
      0 ∈ s'.completed ∧ Resolves .bare .production s'.table s'.connectors := by
  have count : ∀ {s : RegistryState} {systems : List TargetSystem} {callers : List ReloadCaller},
      s.reloadInFlight = some ⟨.versioning systems ⟨none, none⟩, callers⟩ →
      Tracked .bare .production s .count := by
    intro s systems callers hs
    refine .of_other nofun ?_
    rintro ⟨systems', callers', hs'⟩
    rw [hs] at hs'
    cases hs'
  have h : ∃ s s', Run (RegistryState.step .bare .production) (Tracked .bare .production)
        (.initial .empty) [.reload, .findMany, .count, .aggregate, .write (.crm (.obj []))] s ∧
      0 ∉ s.started ∧
      Run (RegistryState.step .bare .production) (Undisturbed .bare .production 0) s
        [.poll 0, .pollCount 0, .pollAggregate 0, .findMany, .count, .aggregate] s' ∧
      0 ∈ s'.completed := by
    refine ⟨_, _, .cons (.of_other nofun id) rfl <| .cons (.of_other nofun id) rfl <|
      .cons (count rfl) rfl <| .cons ⟨nofun, fun _ _ _ _ h => by cases h; rfl⟩ rfl <|
      .cons ⟨fun table h hversion => ?_, False.elim⟩ rfl <| .nil _, List.not_mem_nil,
      .cons ⟨nofun, .of_other nofun id, False.elim⟩ rfl <|
      .cons ⟨nofun, .of_other nofun id, ?_⟩ rfl <|
      .cons ⟨nofun, .of_other nofun id, fun _ _ _ _ h => nomatch h⟩ rfl <|
      .cons ⟨nofun, .of_other nofun id, False.elim⟩ rfl <| .cons ⟨nofun, count rfl, False.elim⟩ rfl <|
      .cons ⟨nofun, ⟨nofun, fun _ _ _ _ h => by cases h; rfl⟩, False.elim⟩ rfl <| .nil _,
      List.mem_cons_self⟩
    · cases h
      cases hversion
    · rintro ⟨-, id'', max, hfind, -⟩
      cases hfind
  obtain ⟨s, s', hbefore, hnew, hafter, hdone⟩ := h
  exact ⟨s, s', hbefore, hnew, hafter, hdone, resolves_of_completed hbefore hnew hafter hdone⟩

/-- A configuration is changed in the millisecond of the last change that a reload has seen: the poll
completes, and the map has the old configuration. -/
theorem not_resolves_of_completed :
    ∃ s s', Run (RegistryState.step .bare .production) (fun _ _ => True)
        (.initial (.crm (.obj [])))
        [.reload, .findMany, .count, .aggregate, .write (.crm (.obj [("port", .str "5433")]))] s ∧
      0 ∉ s.started ∧
      Run (RegistryState.step .bare .production) (fun _ e => ∀ table, e ≠ .write table) s
        [.poll 0, .pollCount 0, .pollAggregate 0] s' ∧
      0 ∈ s'.completed ∧ ¬ Resolves .bare .production s'.table s'.connectors := by
  refine ⟨_, _, .cons trivial rfl <| .cons trivial rfl <| .cons trivial rfl <| .cons trivial rfl <|
    .cons trivial rfl <| .nil _, List.not_mem_nil, .cons nofun rfl <| .cons nofun rfl <|
    .cons nofun rfl <| .nil _, List.mem_cons_self, fun h => ?_⟩
  have hlookup := (h "crm" (.proxy "db" "crm" (.obj [("port", .str "5433")]))).2
    (.inl ⟨_, ⟨List.mem_cons_self, rfl, by decide⟩, _, rfl, rfl⟩)
  have hold : some (RegisteredConnector.proxy "db" "crm" (.obj [])) =
      some (.proxy "db" "crm" (.obj [("port", .str "5433")])) := hlookup
  cases hold

end IdmMw
