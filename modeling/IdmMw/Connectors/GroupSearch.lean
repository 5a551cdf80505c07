import IdmMw.Connectors.Inventory
import IdmMw.Library.Paging

/-!
# The search for server groups

The connector asks for the first groups of the target system, and searches among these.

* `Inventory.Listing`: the enabled groups of a target system, in the order of their codes;
* `groupSearch_runs`: what the search gives, on a listing;
* `findsGroups_iff`: it gives the first groups that match, as far as all of them are among the first
  groups, or all of the first groups match.
-/

namespace IdmMw

open Async LinuxConnectorService

/-- The enabled groups of the target system, each once and with its hosts; `before` is the order of the
codes. -/
structure Inventory.Listing (inv : Inventory) (before : String → String → Prop)
    (targetSystemId : String) (rows : List FleetGroup) : Prop where
  nodup : (rows.map FleetGroup.group).Nodup
  groups : ∀ group, group ∈ rows.map FleetGroup.group ↔
    group ∈ inv.groups ∧ group.targetSystemId = targetSystemId ∧ group.enabled = true
  hosts : ∀ row ∈ rows, ∀ host, host ∈ row.hosts ↔ inv.Member row.group host
  sorted : (rows.map (·.group.code)).Pairwise before

/-- The queries of a search are answered from the tables, the query for the groups from the listing. -/
def Inventory.AnswersSearch (inv : Inventory) (rows : List FleetGroup)
    (e : Async.Event LinuxAns) : Prop :=
  match e with
  | ⟨.targetSystemFindUnique name, a⟩ => a = .ok (inv.findTargetSystem name)
  | ⟨.serverGroupList _ take, a⟩ => a = .ok (rows.take take)
  | _ => True

namespace LinuxConnectorService

variable {js : Runtime} {inv : Inventory} {before : String → String → Prop}
  {payload : ConnectorPayload} {targetSystem : TargetSystem} {rows : List FleetGroup}

/-- A search for server groups in an inventory. -/
structure IsGroupSearch (payload : ConnectorPayload) : Prop where
  operation : payload.operation = "group.search"
  provider : payload.config.bind (·.get? "provider") = some (.str "ssh-sudo-fleet")

/-- The text that is searched for, if there is one. -/
def groupFilter (js : Runtime) (payload : ConnectorPayload) : Option String :=
  ((firstString [payload.params.get? "filter", payload.data.get? "filter"]).map
    fun text => trim (js.toLowerCase text)).filter (· ≠ "")

/-- The group is one that is searched for. -/
def isMatch (js : Runtime) (payload : ConnectorPayload) (group : FleetGroup) : Bool :=
  match groupFilter js payload with
  | some filter => matchesFilter js filter group
  | none => true

/-- How many groups are asked for. -/
def groupLimit (payload : ConnectorPayload) : ℕ :=
  positiveInt (payload.params.get? "limit") 500

/-- The answer with these groups. -/
def groupPage (groups : List FleetGroup) : ConnectorResult :=
  ⟨true, some (.obj [("data", .arr (groups.map fleetGroupToIdm)),
    ("meta", .obj [("total", .num groups.length)])]), none⟩

theorem groupPage_inj {groups groups' : List FleetGroup} (h : groupPage groups = groupPage groups') :
    groups.length = groups'.length := by
  unfold groupPage at h
  simp only [ConnectorResult.mk.injEq, Option.some.injEq, Json.obj.injEq, List.cons.injEq,
    Prod.mk.injEq, Json.arr.injEq, true_and, and_true] at h
  simpa using congrArg List.length h.1

/-- The answers to the two queries of a search. -/
def searchTrace (inv : Inventory) (payload : ConnectorPayload) (targetSystem : TargetSystem)
    (rows : List FleetGroup) : List (Event LinuxAns) :=
  [⟨.targetSystemFindUnique payload.targetSystem, .ok (inv.findTargetSystem payload.targetSystem)⟩,
    ⟨.serverGroupList targetSystem.id (groupLimit payload), .ok (rows.take (groupLimit payload))⟩]

/-- What is found. -/
def foundGroups (js : Runtime) (payload : ConnectorPayload) (rows : List FleetGroup) :
    List FleetGroup :=
  (rows.take (groupLimit payload)).filter (isMatch js payload)

/-- The search for the groups of a target system. -/
def searchIn (js : Runtime) (payload : ConnectorPayload) (targetSystem : TargetSystem) :
    LinuxProg Json := do
  let groups ← await (.serverGroupList targetSystem.id (groupLimit payload)) .settle
  let found := groups.filter (isMatch js payload)
  Pure.pure (.obj [("data", .arr (found.map fleetGroupToIdm)),
    ("meta", .obj [("total", .num found.length)])])

theorem searchFleetGroups_eq : searchFleetGroups js payload =
    fleetTargetSystem payload.targetSystem >>= searchIn js payload := by
  unfold searchFleetGroups searchIn isMatch groupFilter
  refine congrArg (fleetTargetSystem payload.targetSystem >>= ·) (funext fun targetSystem => ?_)
  refine congrArg (await _ _ >>= ·) (funext fun groups => ?_)
  dsimp only
  cases ((firstString [payload.params.get? "filter", payload.data.get? "filter"]).map
    fun text => trim (js.toLowerCase text)).filter (· ≠ "") with
  | some filter => rfl
  | none => rw [List.filter_true]

theorem fleetTargetSystem_runs (htarget : inv.linuxTarget payload.targetSystem = some targetSystem)
    {t : List (Event LinuxAns)} {x : Except JsError TargetSystem} :
    ((fleetTargetSystem payload.targetSystem).Runs t x ∧ ∀ e ∈ t, inv.AnswersSearch rows e) ↔
      t = [⟨.targetSystemFindUnique payload.targetSystem,
        .ok (inv.findTargetSystem payload.targetSystem)⟩] ∧ x = .ok targetSystem := by
  obtain ⟨hfind, htype⟩ := Option.filter_eq_some_iff.1 htarget
  have hsettle : ((if targetSystem.type = "linux" then Pure.pure targetSystem
      else throw (.error "Linux fleet target system not found")) : LinuxProg TargetSystem) =
      settle (.ok targetSystem) := if_pos (by simpa using htype)
  constructor
  · rintro ⟨⟨a, t', rfl, hrun⟩, hanswers⟩
    obtain rfl : a = .ok (inv.findTargetSystem payload.targetSystem) :=
      hanswers _ List.mem_cons_self
    rw [hfind] at hrun ⊢
    replace hrun := (congrArg (Runs · t' x) hsettle).mp hrun
    obtain ⟨rfl, rfl⟩ := hrun
    exact ⟨rfl, rfl⟩
  · rintro ⟨rfl, rfl⟩
    refine ⟨⟨_, [], rfl, ?_⟩, fun e he => ?_⟩
    · rw [hfind]
      exact (congrArg (Runs · [] (.ok targetSystem)) hsettle).mpr ⟨rfl, rfl⟩
    · obtain rfl := List.mem_singleton.1 he
      exact rfl

theorem searchIn_runs {t : List (Event LinuxAns)} {x : Except JsError Json} :
    ((searchIn js payload targetSystem).Runs t x ∧ ∀ e ∈ t, inv.AnswersSearch rows e) ↔
      t = [⟨.serverGroupList targetSystem.id (groupLimit payload),
        .ok (rows.take (groupLimit payload))⟩] ∧
        x = .ok (.obj [("data", .arr ((foundGroups js payload rows).map fleetGroupToIdm)),
          ("meta", .obj [("total", .num (foundGroups js payload rows).length)])]) := by
  constructor
  · rintro ⟨⟨a, t', rfl, hrun⟩, hanswers⟩
    obtain rfl : a = .ok (rows.take (groupLimit payload)) := hanswers _ List.mem_cons_self
    obtain ⟨rfl, rfl⟩ := hrun
    exact ⟨rfl, rfl⟩
  · rintro ⟨rfl, rfl⟩
    refine ⟨⟨_, [], rfl, rfl, rfl⟩, fun e he => ?_⟩
    obtain rfl := List.mem_singleton.1 he
    exact rfl

theorem searchFleetGroups_runs (htarget : inv.linuxTarget payload.targetSystem = some targetSystem)
    {t : List (Event LinuxAns)} {x : Except JsError Json} :
    ((searchFleetGroups js payload).Runs t x ∧ ∀ e ∈ t, inv.AnswersSearch rows e) ↔
      t = searchTrace inv payload targetSystem rows ∧
        x = .ok (.obj [("data", .arr ((foundGroups js payload rows).map fleetGroupToIdm)),
          ("meta", .obj [("total", .num (foundGroups js payload rows).length)])]) := by
  rw [searchFleetGroups_eq]
  constructor
  · rintro ⟨hrun, hanswers⟩
    rcases runs_bind.1 hrun with ⟨e, rfl, htarget'⟩ | ⟨row, t₁, t₂, rfl, htarget', hsearch⟩
    · exact nomatch ((fleetTargetSystem_runs htarget).1 ⟨htarget', hanswers⟩).2
    · obtain ⟨rfl, hrow⟩ := (fleetTargetSystem_runs htarget).1
        ⟨htarget', fun e he => hanswers e (List.mem_append_left _ he)⟩
      obtain rfl := Except.ok.inj hrow
      obtain ⟨rfl, rfl⟩ := searchIn_runs.1
        ⟨hsearch, fun e he => hanswers e (List.mem_append_right _ he)⟩
      exact ⟨rfl, rfl⟩
  · rintro ⟨rfl, rfl⟩
    obtain ⟨htarget', hanswers⟩ := (@fleetTargetSystem_runs inv payload targetSystem rows htarget _ _).2 ⟨rfl, rfl⟩
    obtain ⟨hsearch, hanswers'⟩ := (@searchIn_runs js inv payload targetSystem rows _ _).2 ⟨rfl, rfl⟩
    refine ⟨runs_bind.2 (Or.inr ⟨targetSystem, _, _, rfl, htarget', hsearch⟩), fun e he => ?_⟩
    rcases List.mem_cons.1 he with rfl | he
    · exact hanswers _ List.mem_cons_self
    · exact hanswers' e he

/-- The search takes the first groups, and gives those of them that match. -/
theorem groupSearch_runs (hsearch : IsGroupSearch payload)
    (htarget : inv.linuxTarget payload.targetSystem = some targetSystem)
    {t : List (Event LinuxAns)} {x : Except JsError ConnectorResult} :
    ((execute js payload).Runs t x ∧ ∀ e ∈ t, inv.AnswersSearch rows e) ↔
      t = searchTrace inv payload targetSystem rows ∧
        x = .ok (groupPage (foundGroups js payload rows)) := by
  obtain ⟨config, hconfig, hprovider⟩ := Option.bind_eq_some_iff.1 hsearch.provider
  have hexecute : (execute js payload).Runs t x ↔
      ∃ y, (searchFleetGroups js payload).Runs t y ∧ x = .ok (reported
        (fun result => ⟨true, some result, none⟩) (fun error => ⟨false, none,
          some (js.safeConnectorErrorMessage error [some config, payload.payload.get? "data",
            payload.payload.get? "params"])⟩) y) := by
    have hwith : executeWith js payload config (.str "ssh-sudo-fleet") =
        searchFleetGroups js payload := by
      show executeSshFleet js payload config = _
      unfold executeSshFleet
      rw [hsearch.operation]
      rfl
    rw [← hwith, ← runs_attempt]
    unfold execute
    rw [hconfig]
    have hgiven : (((some config).getD .null).get? "provider").filter Json.truthy =
        some (.str "ssh-sudo-fleet") := by
      rw [Option.getD_some, hprovider]
      rfl
    dsimp only
    rw [hgiven]
    rfl
  rw [hexecute]
  constructor
  · rintro ⟨⟨y, hrun, rfl⟩, hanswers⟩
    obtain ⟨ht, rfl⟩ := (searchFleetGroups_runs htarget).1 ⟨hrun, hanswers⟩
    exact ⟨ht, rfl⟩
  · rintro ⟨ht, rfl⟩
    obtain ⟨hrun, hanswers⟩ := (@searchFleetGroups_runs js inv payload targetSystem rows htarget _ _).2 ⟨ht, rfl⟩
    exact ⟨⟨_, hrun, rfl⟩, hanswers⟩

/-! ### The law -/

/-- The search gives the first of the groups that match, as many as are asked for. -/
def FindsGroups (js : Runtime) (before : String → String → Prop) (inv : Inventory)
    (payload : ConnectorPayload) : Prop :=
  IsGroupSearch payload → ∀ targetSystem rows,
    inv.linuxTarget payload.targetSystem = some targetSystem →
      inv.Listing before targetSystem.id rows →
        ∀ t x, (execute js payload).Runs t x → (∀ e ∈ t, inv.AnswersSearch rows e) →
          x = .ok (groupPage ((rows.filter (isMatch js payload)).take (groupLimit payload)))

/-- No group that matches lies behind the first groups, or the first groups all match. -/
def MatchesFirst (js : Runtime) (payload : ConnectorPayload) (rows : List FleetGroup) : Prop :=
  (∀ group ∈ rows.drop (groupLimit payload), isMatch js payload group = false) ∨
    ∀ group ∈ rows.take (groupLimit payload), isMatch js payload group = true

theorem findsGroups_iff (js : Runtime) (before : String → String → Prop) (inv : Inventory)
    (payload : ConnectorPayload) :
    FindsGroups js before inv payload ↔
      (IsGroupSearch payload → ∀ targetSystem rows,
        inv.linuxTarget payload.targetSystem = some targetSystem →
          inv.Listing before targetSystem.id rows → MatchesFirst js payload rows) := by
  unfold FindsGroups MatchesFirst
  refine imp_congr_right fun hsearch => forall_congr' fun targetSystem => forall_congr' fun rows =>
    imp_congr_right fun htarget => imp_congr_right fun _ => ?_
  rw [← Paging.filter_take_eq_iff]
  constructor
  · intro h
    obtain ⟨hrun, hanswers⟩ := (@groupSearch_runs js inv payload targetSystem rows hsearch htarget _ _).2 ⟨rfl, rfl⟩
    exact Paging.filter_take_eq_of_length (groupPage_inj (Except.ok.inj (h _ _ hrun hanswers)))
  · intro h t x hrun hanswers
    obtain ⟨-, rfl⟩ := (groupSearch_runs hsearch htarget).1 ⟨hrun, hanswers⟩
    unfold foundGroups
    rw [h]

theorem nodup_twoCodes : [("ts-1", "app"), ("ts-1", "web")].Nodup := by decide

/-- Two groups, of which the second is searched for. -/
def twoGroups : Inventory where
  targetSystems := [⟨"ts-1", "linux", "linux", "Linux", .native (.obj []), true, 0, 0⟩]
  profiles := []
  hosts := []
  groups := [⟨"group-1", "ts-1", "app", "App", none, true⟩,
    ⟨"group-2", "ts-1", "web", "Web", none, true⟩]
  memberships := []
  hostIds := List.nodup_nil
  groupCodes := nodup_twoCodes

/-- The search for the second group, with room for one. -/
def searchForWeb : ConnectorPayload where
  operation := "group.search"
  targetSystem := "linux"
  payload := .obj [("config", .obj [("provider", .str "ssh-sudo-fleet")]),
    ("params", .obj [("filter", .str "web"), ("limit", .num 1)])]

/-- The second group is not found. -/
theorem not_findsGroups_searchForWeb :
    ¬ FindsGroups Runtime.ascii (· ≤ ·) twoGroups searchForWeb := by
  intro h
  have hlisting : twoGroups.Listing (· ≤ ·) "ts-1"
      (twoGroups.groups.map fun group => ⟨group, []⟩) := by
    have hgroups : (twoGroups.groups.map fun group => (⟨group, []⟩ : FleetGroup)).map
        FleetGroup.group = twoGroups.groups := rfl
    refine ⟨by rw [hgroups]; decide, fun group => ?_, fun row hrow host => ?_, by decide⟩
    · rw [hgroups]
      refine ⟨fun hmem => ⟨hmem, ?_⟩, fun h => h.1⟩
      revert group
      decide
    · obtain ⟨group, -, rfl⟩ := List.mem_map.1 hrow
      exact iff_of_false List.not_mem_nil fun ⟨row, hmem, _⟩ => List.not_mem_nil hmem
  have hsearch : IsGroupSearch searchForWeb := ⟨rfl, rfl⟩
  obtain ⟨hrun, hanswers⟩ := (@groupSearch_runs Runtime.ascii twoGroups searchForWeb
    ⟨"ts-1", "linux", "linux", "Linux", .native (.obj []), true, 0, 0⟩
    (twoGroups.groups.map fun group => ⟨group, []⟩) hsearch rfl _ _).2 ⟨rfl, rfl⟩
  have hlength := groupPage_inj (Except.ok.inj
    (h hsearch _ _ rfl hlisting _ _ hrun hanswers))
  exact absurd hlength (by decide)

end LinuxConnectorService

end IdmMw
