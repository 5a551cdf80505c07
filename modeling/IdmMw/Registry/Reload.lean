import IdmMw.Library.Runs
import IdmMw.Model.Registry

/-!
# A reload is as fresh as its call

Whoever has written a target system calls `reload` and relies on the map when the call resolves. The
map should be that of a state that the table has had since the call.

* `Fresh`, `ReloadInv`: the law for the calls that have resolved, and what is known of those that
  wait. Before the rows are read, the table that will be read is one that every caller has seen;
  afterwards every caller has seen a table of that map;
* `ReloadInv.step`: every event keeps that, but for a call that joins a reload which has read rows
  that the table has no longer (`JoinsFresh`);
* `resolved_fresh`: hence the law, in every run without such a call.
-/

namespace IdmMw

open Transitions ConnectorRegistry RegistryState

variable {app : App} {settings : RegistrySettings} {s s' : RegistryState} {e : RegistryEvent}

/-! ### The law -/

/-- The map is that of one of the states of the table. -/
def Reflects (app : App) (settings : RegistrySettings) (since : List TargetTable)
    (connectors : ConnectorMap) : Prop :=
  ∃ table ∈ since, nextConnectors app settings table.enabledRows = .ok connectors

/-- Every call has resolved with the map of a state that the table has had since the call. -/
def Fresh (app : App) (settings : RegistrySettings) (s : RegistryState) : Prop :=
  ∀ call ∈ s.resolved, Reflects app settings call.since call.connectors

/-- The event is the last answer to the poll, which sees a change. -/
def Notices (s : RegistryState) (id : ℕ) : RegistryEvent → Prop
  | .pollCount id' => id' = id ∧ ∃ id'' max,
      s.polls.find? (·.id = id) = some ⟨id'', ⟨none, some max⟩⟩ ∧
        some (s.table.count, max) ≠ s.lastRegistryVersion
  | .pollAggregate id' => id' = id ∧ ∃ id'' count,
      s.polls.find? (·.id = id) = some ⟨id'', ⟨some count, none⟩⟩ ∧
        some (count, s.table.maxUpdatedAt) ≠ s.lastRegistryVersion
  | _ => False

/-- A reload in flight that has read rows has read some from which the same map is built as from
those that the table has now. -/
def FlightFresh (app : App) (settings : RegistrySettings) (s : RegistryState) : Prop :=
  ∀ systems read callers, s.reloadInFlight = some ⟨.versioning systems read, callers⟩ →
    nextConnectors app settings s.table.enabledRows = nextConnectors app settings systems

/-- A call, by a poll or by another caller, finds no reload that has read other rows. -/
def JoinsFresh (app : App) (settings : RegistrySettings) (s : RegistryState) (e : RegistryEvent) :
    Prop :=
  (e = .reload ∨ ∃ id, Notices s id e) → FlightFresh app settings s

theorem JoinsFresh.of_no_call (hreload : e ≠ .reload) (hnotices : ∀ id, ¬ Notices s id e) :
    JoinsFresh app settings s e := by
  rintro (h | ⟨id, h⟩)
  · exact absurd h hreload
  · exact absurd h (hnotices id)

/-! ### The invariant -/

/-- What is known of the callers that wait. -/
def FlightInv (app : App) (settings : RegistrySettings) (table : TargetTable)
    (connectors : ConnectorMap) : Option ReloadInFlight → Prop
  | none => True
  | some ⟨.reading, callers⟩ => ∀ caller ∈ callers, table ∈ caller.since
  | some ⟨.versioning systems _, callers⟩ =>
    nextConnectors app settings systems = .ok connectors ∧
      ∀ caller ∈ callers, Reflects app settings caller.since connectors

structure ReloadInv (app : App) (settings : RegistrySettings) (s : RegistryState) : Prop where
  fresh : Fresh app settings s
  flight : FlightInv app settings s.table s.connectors s.reloadInFlight

theorem ReloadInv.initial (table : TargetTable) : ReloadInv app settings (.initial table) where
  fresh := fun _ h => absurd h List.not_mem_nil
  flight := trivial

theorem Reflects.cons {since : List TargetTable} {connectors : ConnectorMap} (table : TargetTable)
    (h : Reflects app settings since connectors) :
    Reflects app settings (table :: since) connectors := by
  obtain ⟨seen, hmem, hmap⟩ := h
  exact ⟨seen, List.mem_cons_of_mem _ hmem, hmap⟩

theorem ReloadInv.write (h : ReloadInv app settings s) (table : TargetTable) :
    ReloadInv app settings (s.write table) where
  fresh := h.fresh
  flight := by
    have hflight := h.flight
    show FlightInv app settings table s.connectors (s.reloadInFlight.map _)
    rcases hs : s.reloadInFlight with _ | ⟨_ | ⟨systems, read⟩, callers⟩
    · trivial
    · intro caller hcaller
      obtain ⟨old, -, rfl⟩ := List.mem_map.1 hcaller
      exact List.mem_cons_self
    · rw [hs] at hflight
      refine ⟨hflight.1, fun caller hcaller => ?_⟩
      obtain ⟨old, hold, rfl⟩ := List.mem_map.1 hcaller
      exact (hflight.2 old hold).cons table

/-- A call that finds no reload with old rows. -/
theorem ReloadInv.reload (h : ReloadInv app settings s)
    (hjoin : FlightFresh app settings s) (poll : Option ℕ) :
    ReloadInv app settings (s.reload poll) := by
  have hflight := h.flight
  unfold RegistryState.reload
  rcases hs : s.reloadInFlight with _ | ⟨_ | ⟨systems, read⟩, callers⟩
  · refine ⟨h.fresh, ?_⟩
    intro caller hcaller
    obtain rfl := List.mem_singleton.1 hcaller
    exact List.mem_singleton_self _
  · rw [hs] at hflight
    refine ⟨h.fresh, ?_⟩
    intro caller hcaller
    rcases List.mem_cons.1 hcaller with rfl | hcaller
    · exact List.mem_singleton_self _
    · exact hflight caller hcaller
  · rw [hs] at hflight
    refine ⟨h.fresh, hflight.1, fun caller hcaller => ?_⟩
    rcases List.mem_cons.1 hcaller with rfl | hcaller
    · exact ⟨s.table, List.mem_singleton_self _, (hjoin systems read callers hs).trans hflight.1⟩
    · exact hflight.2 caller hcaller

/-- With its version, the reload resolves; without, it goes on. -/
theorem ReloadInv.versioned (h : ReloadInv app settings s) {systems : List TargetSystem}
    {callers : List ReloadCaller}
    (hflight : FlightInv app settings s.table s.connectors
      (some ⟨.versioning systems ⟨none, none⟩, callers⟩)) (read : VersionRead) :
    ReloadInv app settings (s.versioned systems read callers) := by
  rcases s.versioned_cases systems read callers with ⟨-, hs⟩ | ⟨version, -, hs⟩
  · rw [hs]
    exact ⟨h.fresh, hflight⟩
  · rw [hs]
    refine ⟨?_, trivial⟩
    intro call hcall
    rcases List.mem_append.1 hcall with hcall | hcall
    · obtain ⟨caller, hcaller, rfl⟩ := List.mem_map.1 hcall
      exact hflight.2 caller hcaller
    · exact h.fresh call hcall

theorem ReloadInv.polled (h : ReloadInv app settings s) {id : ℕ} {read : VersionRead}
    (hjoin : ∀ version, read.version = some version → some version ≠ s.lastRegistryVersion →
      FlightFresh app settings s) :
    ReloadInv app settings (s.polled id read) := by
  rcases s.polled_cases id read with ⟨-, hs⟩ | ⟨-, -, -, hs⟩ | ⟨version, hread, hne, hs⟩
  · rw [hs]
    exact ⟨h.fresh, h.flight⟩
  · rw [hs]
    exact ⟨h.fresh, h.flight⟩
  · rw [hs]
    have others : ReloadInv app settings { s with polls := s.polls.filter (·.id ≠ id) } :=
      ⟨h.fresh, h.flight⟩
    exact others.reload (hjoin version hread hne) (some id)

/-- Every event keeps the invariant. -/
theorem ReloadInv.step (h : ReloadInv app settings s) (hok : JoinsFresh app settings s e)
    (hstep : s.step app settings e = some s') : ReloadInv app settings s' := by
  have hflight := h.flight
  cases step_effect hstep with
  | written table => exact h.write table
  | called => exact h.reload (hok (.inl rfl)) none
  | rowsRead hs hmap =>
    rw [hs] at hflight
    exact ⟨h.fresh, hmap, fun caller hcaller => ⟨s.table, hflight caller hcaller, hmap⟩⟩
  | ended he => exact ⟨h.fresh, trivial⟩
  | countRead hs =>
    rw [hs] at hflight
    exact h.versioned hflight _
  | maxRead hs =>
    rw [hs] at hflight
    exact h.versioned hflight _
  | ticked hnew => exact ⟨h.fresh, hflight⟩
  | @pollCountRead id id' max hfind =>
    refine h.polled fun version hversion hne => hok (.inr ⟨id, rfl, ?_⟩)
    cases max with
    | none => cases hversion
    | some max =>
      obtain rfl := Option.some.inj hversion
      exact ⟨id', max, hfind, hne⟩
  | @pollMaxRead id id' count hfind =>
    refine h.polled fun version hversion hne => hok (.inr ⟨id, rfl, ?_⟩)
    cases count with
    | none => cases hversion
    | some count =>
      obtain rfl := Option.some.inj hversion
      exact ⟨id', count, hfind, hne⟩
  | pollFailed id => exact ⟨h.fresh, hflight⟩

/-- In every run in which calls join only reloads whose rows are not old, every call resolves with
the map of a state that the table has had since the call. -/
theorem resolved_fresh {table : TargetTable} {events : List RegistryEvent}
    (h : Run (RegistryState.step app settings) (JoinsFresh app settings) (.initial table) events s) :
    Fresh app settings s :=
  (h.invariant (I := ReloadInv app settings) (fun _ _ _ hs hok hstep => hs.step hok hstep)
    (.initial table)).fresh

/-- Three calls after a write: before the rows are read, and after. -/
theorem resolved_fresh_crm :
    ∃ s, Run (RegistryState.step .bare .production) (JoinsFresh .bare .production) (.initial .empty)
        [.write (.crm (.obj [])), .reload, .reload, .findMany, .reload, .count, .aggregate] s ∧
      s.resolved.length = 3 ∧ Fresh .bare .production s := by
  have h : ∃ s, Run (RegistryState.step .bare .production) (JoinsFresh .bare .production)
      (.initial .empty)
      [.write (.crm (.obj [])), .reload, .reload, .findMany, .reload, .count, .aggregate] s ∧
      s.resolved.length = 3 :=
    ⟨_, .cons (.of_no_call nofun fun _ => id) rfl <| .cons (fun _ _ _ _ h => nomatch h) rfl <|
      .cons (fun _ _ _ _ h => nomatch h) rfl <| .cons (.of_no_call nofun fun _ => id) rfl <|
      .cons (fun _ _ _ _ h => by cases h; rfl) rfl <| .cons (.of_no_call nofun fun _ => id) rfl <|
      .cons (.of_no_call nofun fun _ => id) rfl <| .nil _, rfl⟩
  obtain ⟨s, hrun, hlength⟩ := h
  exact ⟨s, hrun, hlength, resolved_fresh hrun⟩

/-- The row is created between the two readings of a reload, and its creation calls `reload`: the
call resolves, and the map does not have the row. -/
theorem not_resolved_fresh :
    ∃ s, Run (RegistryState.step .bare .production) (fun _ _ => True) (.initial .empty)
        [.reload, .findMany, .write (.crm (.obj [])), .reload, .count, .aggregate] s ∧
      ¬ Fresh .bare .production s := by
  refine ⟨_, .cons trivial rfl <| .cons trivial rfl <| .cons trivial rfl <| .cons trivial rfl <|
    .cons trivial rfl <| .cons trivial rfl <| .nil _, fun hfresh => ?_⟩
  obtain ⟨table, htable, hmap⟩ := hfresh ⟨[.crm (.obj [])], []⟩ List.mem_cons_self
  obtain rfl := List.mem_singleton.1 htable
  cases hmap

end IdmMw
