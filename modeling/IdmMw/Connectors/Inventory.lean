import IdmMw.Model.LinuxConnector

/-!
# Which hosts a fleet operation selects

The tables of the inventory, how they answer the queries of the connector, and what
`resolveFleetHosts` makes of the answers.

* `Inventory`: the rows, with what the schema says of them;
* `Inventory.Answers`: the answers to the queries; rows come in any order;
* `Inventory.selection`: the hosts that a payload selects, as a set, or the error;
* `resolveFleetHosts_selection`: the connector selects these, each once, and sends no command.
-/

namespace IdmMw

open Async LinuxConnectorService

/-- The rows; ids are unique, and so are the names of target systems and the codes within one. -/
structure Inventory where
  targetSystems : List TargetSystem
  profiles : List LinuxCredentialProfile
  hosts : List LinuxHost
  groups : List LinuxServerGroup
  memberships : List LinuxServerGroupHost
  hostIds : (hosts.map LinuxHost.id).Nodup
  groupCodes : (groups.map fun group => (group.targetSystemId, group.code)).Nodup

namespace Inventory

variable (inv : Inventory)

def findTargetSystem (name : String) : Option TargetSystem :=
  inv.targetSystems.find? (·.name = name)

/-- `host: { include: { credentialProfile: true } }`. -/
def fleetHost (host : LinuxHost) : FleetHost :=
  ⟨host, host.credentialProfileId.bind fun id => inv.profiles.find? (·.id = id)⟩

/-- The group has the host as a member. -/
def Member (group : LinuxServerGroup) (host : FleetHost) : Prop :=
  ∃ row ∈ inv.hosts, host = inv.fleetHost row ∧
    ∃ membership ∈ inv.memberships, membership.groupId = group.id ∧ membership.hostId = row.id

/-- An enabled group of the target system with one of the codes. -/
def Requested (targetSystemId : String) (codes : List String) (group : LinuxServerGroup) : Prop :=
  group ∈ inv.groups ∧ group.targetSystemId = targetSystemId ∧ group.enabled = true ∧
    group.code ∈ codes

/-- The rows answer the query for the groups: each group once, with its hosts. -/
structure Rows (targetSystemId : String) (codes : List String) (rows : List FleetGroup) : Prop where
  nodup : (rows.map FleetGroup.group).Nodup
  groups : ∀ group, group ∈ rows.map FleetGroup.group ↔ inv.Requested targetSystemId codes group
  hosts : ∀ row ∈ rows, ∀ host, host ∈ row.hosts ↔ inv.Member row.group host

/-- The queries of a fleet operation are answered from the tables. -/
def Answers (e : Async.Event LinuxAns) : Prop :=
  match e with
  | ⟨.targetSystemFindUnique name, a⟩ => a = .ok (inv.findTargetSystem name)
  | ⟨.serverGroupFindMany targetSystemId codes, a⟩ =>
    ∃ rows, a = .ok rows ∧ inv.Rows targetSystemId codes rows
  | _ => True

/-! ### The selection -/

/-- Every code is that of an enabled group. -/
def Known (targetSystemId : String) (codes : List String) : Prop :=
  ∀ code ∈ codes, ∃ group, inv.Requested targetSystemId codes group ∧ group.code = code

/-- The enabled hosts of the groups with these codes. -/
def HostsOf (targetSystemId : String) (codes : List String) : Set FleetHost :=
  {host | host.host.enabled = true ∧
    ∃ group, inv.Requested targetSystemId codes group ∧ inv.Member group host}

open Classical in
/-- The hosts that codes select. -/
noncomputable def selected (targetSystemId : String) (codes : List String) :
    Except JsError (Set FleetHost) :=
  if codes = [] then .error (.error "Missing Linux serverGroups for fleet operation")
  else if ¬ inv.Known targetSystemId codes then
    .error (.error "One or more Linux server groups were not found")
  else if inv.HostsOf targetSystemId codes = ∅ then
    .error (.error "Linux server groups contain no enabled hosts")
  else .ok (inv.HostsOf targetSystemId codes)

/-- The target system of a fleet operation. -/
def linuxTarget (name : String) : Option TargetSystem :=
  (inv.findTargetSystem name).filter (·.type = "linux")

/-- The hosts that a payload selects. -/
noncomputable def selection (js : Runtime) (payload : ConnectorPayload) :
    Except JsError (Set FleetHost) :=
  match inv.linuxTarget payload.targetSystem with
  | none => .error (.error "Linux fleet target system not found")
  | some targetSystem => do
    let codes ← fleetGroupCodes js (.obj (configRecord targetSystem.config)) payload.data
      payload.params
    inv.selected targetSystem.id codes

/-! ### Lists of rows -/

section Rows

variable {inv} {targetSystemId : String} {codes : List String} {rows : List FleetGroup}

/-- There are as many groups as codes if every code is known. -/
theorem Rows.length_eq_iff (h : inv.Rows targetSystemId codes rows) (hcodes : codes.Nodup) :
    rows.length = codes.length ↔ inv.Known targetSystemId codes := by
  have hinj : ∀ g ∈ rows.map FleetGroup.group, ∀ g' ∈ rows.map FleetGroup.group,
      g.code = g'.code → g = g' := by
    intro g hg g' hg' hcode
    obtain ⟨hmem, hid, -⟩ := (h.groups g).1 hg
    obtain ⟨hmem', hid', -⟩ := (h.groups g').1 hg'
    exact List.inj_on_of_nodup_map inv.groupCodes hmem hmem' (by rw [hid, hid', hcode])
  have hnodup : ((rows.map FleetGroup.group).map LinuxServerGroup.code).Nodup :=
    (List.nodup_map_iff_inj_on h.nodup).2 hinj
  have hsub : (rows.map FleetGroup.group).map LinuxServerGroup.code ⊆ codes := by
    intro code hcode
    obtain ⟨g, hg, rfl⟩ := List.mem_map.1 hcode
    exact ((h.groups g).1 hg).2.2.2
  have hperm := List.subperm_of_subset hnodup hsub
  constructor
  · intro hlen code hcode
    have hall := hperm.perm_of_length_le (by simp [hlen])
    obtain ⟨g, hg, rfl⟩ := List.mem_map.1 (hall.mem_iff.2 hcode)
    exact ⟨g, (h.groups g).1 hg, rfl⟩
  · intro hknown
    refine le_antisymm (by simpa using hperm.length_le) ?_
    have hback : codes ⊆ (rows.map FleetGroup.group).map LinuxServerGroup.code := by
      intro code hcode
      obtain ⟨g, hg, rfl⟩ := hknown code hcode
      exact List.mem_map_of_mem ((h.groups g).2 hg)
    simpa using (List.subperm_of_subset hcodes hback).length_le

/-- A host of the inventory is known by its id. -/
theorem Member.eq_of_id {group group' : LinuxServerGroup} {host host' : FleetHost}
    (h : inv.Member group host) (h' : inv.Member group' host') (hid : host.host.id = host'.host.id) :
    host = host' := by
  obtain ⟨row, hrow, rfl, -⟩ := h
  obtain ⟨row', hrow', rfl, -⟩ := h'
  rw [List.inj_on_of_nodup_map inv.hostIds hrow hrow' hid]

end Rows

end Inventory

/-! ### Every query has an answer -/

namespace Inventory

variable (inv : Inventory)

/-- The rows in the order of the tables. -/
def rows (targetSystemId : String) (codes : List String) : List FleetGroup :=
  (inv.groups.filter fun group =>
    group.targetSystemId = targetSystemId ∧ group.enabled = true ∧ group.code ∈ codes).map
    fun group => ⟨group, (inv.hosts.filter fun row => inv.memberships.any fun membership =>
      membership.groupId = group.id ∧ membership.hostId = row.id).map inv.fleetHost⟩

theorem rows_rows (targetSystemId : String) (codes : List String) :
    inv.Rows targetSystemId codes (inv.rows targetSystemId codes) := by
  have hgroups : (inv.rows targetSystemId codes).map FleetGroup.group =
      inv.groups.filter fun group => group.targetSystemId = targetSystemId ∧ group.enabled = true ∧
        group.code ∈ codes := by
    simp [rows, Function.comp_def]
  refine ⟨?_, fun group => ?_, fun row hrow host => ?_⟩
  · rw [hgroups]
    exact (List.Nodup.of_map _ inv.groupCodes).filter _
  · rw [hgroups]
    simp [Requested]
  · obtain ⟨group, -, rfl⟩ := List.mem_map.1 hrow
    simp only [List.mem_map, List.mem_filter, List.any_eq_true, decide_eq_true_eq, Member]
    constructor
    · rintro ⟨row, ⟨hrow, hmembership⟩, rfl⟩
      exact ⟨row, hrow, rfl, hmembership⟩
    · rintro ⟨row, hrow, rfl, hmembership⟩
      exact ⟨row, ⟨hrow, hmembership⟩, rfl⟩

theorem exists_answer (r : LinuxReq) : ∃ a, inv.Answers ⟨r, a⟩ := by
  cases r with
  | targetSystemFindUnique name => exact ⟨_, rfl⟩
  | serverGroupFindMany targetSystemId codes => exact ⟨_, _, rfl, inv.rows_rows targetSystemId codes⟩
  | secretEnv key => exact ⟨none, trivial⟩
  | _ => exact ⟨.error (.error ""), trivial⟩

end Inventory

/-! ### The map of hosts -/

section EnabledHosts

/-- One step of the loop over the memberships. -/
def setIfEnabled (hosts : List (String × FleetHost)) (host : FleetHost) :
    List (String × FleetHost) :=
  if host.host.enabled then OrderedMap.set hosts host.host.id host else hosts

theorem lookup_setIfEnabled (acc : List (String × FleetHost)) (host : FleetHost) (id : String) :
    (setIfEnabled acc host).lookup id =
      if host.host.enabled = true ∧ id = host.host.id then some host else acc.lookup id := by
  unfold setIfEnabled
  by_cases hen : host.host.enabled = true
  · simp [hen, OrderedMap.lookup_set]
  · simp [hen]

/-- What the loop leaves in the map, where hosts of one id are equal. -/
theorem lookup_foldl_setIfEnabled {hosts : List FleetHost} {acc : List (String × FleetHost)}
    (hids : ∀ h ∈ hosts, ∀ h' ∈ hosts, h.host.id = h'.host.id → h = h')
    (hacc : ∀ h ∈ hosts, ∀ h', acc.lookup h.host.id = some h' → h' = h) (id : String)
    (host : FleetHost) :
    (hosts.foldl setIfEnabled acc).lookup id = some host ↔
      (host ∈ hosts ∧ host.host.enabled = true ∧ host.host.id = id) ∨ acc.lookup id = some host := by
  induction hosts generalizing acc with
  | nil => simp
  | cons h hosts ih =>
    have hhead := hids h List.mem_cons_self
    have hacc' : ∀ a ∈ hosts, ∀ b, (setIfEnabled acc h).lookup a.host.id = some b → b = a := by
      intro a ha b hb
      rw [lookup_setIfEnabled] at hb
      split at hb
      · next hc =>
        obtain rfl := Option.some.inj hb
        exact hhead a (List.mem_cons_of_mem _ ha) hc.2.symm
      · exact hacc a (List.mem_cons_of_mem _ ha) b hb
    rw [List.foldl_cons, ih (fun a ha b hb => hids a (List.mem_cons_of_mem _ ha) b
      (List.mem_cons_of_mem _ hb)) hacc', lookup_setIfEnabled, List.mem_cons]
    by_cases hc : h.host.enabled = true ∧ id = h.host.id
    · obtain ⟨hen, rfl⟩ := hc
      rw [if_pos ⟨hen, rfl⟩]
      constructor
      · rintro (⟨hmem, hrest⟩ | heq)
        · exact Or.inl ⟨Or.inr hmem, hrest⟩
        · obtain rfl := Option.some.inj heq
          exact Or.inl ⟨Or.inl rfl, hen, rfl⟩
      · rintro (⟨hmem, -, hid⟩ | hold)
        · exact Or.inr (congrArg some (hhead host (List.mem_cons.2 hmem) hid.symm))
        · exact Or.inr (congrArg some (hacc h List.mem_cons_self host hold).symm)
    · rw [if_neg hc]
      constructor
      · rintro (⟨hmem, hrest⟩ | hold)
        · exact Or.inl ⟨Or.inr hmem, hrest⟩
        · exact Or.inr hold
      · rintro (⟨rfl | hmem, hen, hid⟩ | hold)
        · exact absurd ⟨hen, hid.symm⟩ hc
        · exact Or.inl ⟨hmem, hen, hid⟩
        · exact Or.inr hold

theorem distinct_foldl_setIfEnabled {hosts : List FleetHost} {acc : List (String × FleetHost)}
    (h : OrderedMap.Distinct acc) : OrderedMap.Distinct (hosts.foldl setIfEnabled acc) := by
  induction hosts generalizing acc with
  | nil => exact h
  | cons host hosts ih =>
    refine ih ?_
    unfold setIfEnabled
    by_cases hen : host.host.enabled = true
    · rw [if_pos hen]
      exact h.set _ _
    · rw [if_neg hen]
      exact h

/-- The hosts that are selected are the enabled ones of the groups, each once. -/
theorem enabledHosts_spec {groups : List FleetGroup}
    (hids : ∀ h ∈ groups.flatMap FleetGroup.hosts, ∀ h' ∈ groups.flatMap FleetGroup.hosts,
      h.host.id = h'.host.id → h = h') :
    (((enabledHosts groups).map Prod.snd).map fun host => host.host.id).Nodup ∧
    ∀ host, host ∈ (enabledHosts groups).map Prod.snd ↔
      host ∈ groups.flatMap FleetGroup.hosts ∧ host.host.enabled = true := by
  have hlookup : ∀ id host, (enabledHosts groups).lookup id = some host ↔ _ := fun id host =>
    lookup_foldl_setIfEnabled hids (by simp) id host
  have hdistinct : OrderedMap.Distinct (enabledHosts groups) :=
    distinct_foldl_setIfEnabled List.nodup_nil
  have hkey : ∀ entry ∈ enabledHosts groups, entry.2.host.id = entry.1 := by
    rintro ⟨id, host⟩ hmem
    have := (hlookup id host).1 (hdistinct.lookup_of_mem hmem)
    simp only [List.lookup_nil, reduceCtorEq, or_false] at this
    exact this.2.2
  refine ⟨?_, fun host => ?_⟩
  · have hkeys : ((enabledHosts groups).map Prod.snd).map (fun host => host.host.id) =
        (enabledHosts groups).map Prod.fst := by
      rw [List.map_map]
      exact List.map_congr_left hkey
    rw [hkeys]
    exact hdistinct
  · rw [List.mem_map]
    constructor
    · rintro ⟨⟨id, host⟩, hmem, rfl⟩
      have := (hlookup id host).1 (hdistinct.lookup_of_mem hmem)
      simp only [List.lookup_nil, reduceCtorEq, or_false] at this
      exact ⟨this.1, this.2.1⟩
    · rintro ⟨hmem, hen⟩
      exact ⟨(host.host.id, host),
        OrderedMap.mem_of_lookup ((hlookup _ host).2 (Or.inl ⟨hmem, hen, rfl⟩)), rfl⟩

end EnabledHosts

/-! ### The connector selects these hosts -/

section Resolve

variable {js : Runtime} {inv : Inventory} {payload : ConnectorPayload}

theorem fleetGroupCodes_nodup {targetConfig data params : Json} {codes : List String}
    (h : fleetGroupCodes js targetConfig data params = .ok codes) : codes.Nodup := by
  unfold fleetGroupCodes at h
  cases hmapping : groupMappingSettings targetConfig with
  | error e => rw [hmapping] at h; cases h
  | ok mapping =>
    cases hmapped : mappedGroups js data targetConfig mapping .server with
    | error e => simp [hmapping, hmapped, Bind.bind, Except.bind] at h
    | ok mapped =>
      simp only [hmapping, hmapped, Bind.bind, Except.bind, Pure.pure, Except.pure,
        Except.ok.injEq] at h
      rw [← h]
      exact OrderedMap.nodup_eraseDups _

/-- What is said of the hosts that an operation resolves. -/
def Resolved (inv : Inventory) (js : Runtime) (payload : ConnectorPayload)
    (x : Except JsError (List FleetHost)) : Prop :=
  x.map (fun hosts => {host | host ∈ hosts}) = inv.selection js payload ∧
    ∀ hosts, x = .ok hosts → (hosts.map fun host => host.host.id).Nodup

theorem fleetTargetSystem_wp {name : String} {Q : Unit → Except JsError TargetSystem → Prop}
    (h : Q () (match inv.linuxTarget name with
      | some targetSystem => .ok targetSystem
      | none => .error (.error "Linux fleet target system not found"))) :
    (fleetTargetSystem name).wp (.answering inv.Answers) Q () := by
  unfold fleetTargetSystem
  rw [wp_bind, wp_await]
  refine ⟨trivial, ?_⟩
  rintro a ⟨⟩ ha
  obtain rfl : a = .ok (inv.findTargetSystem name) := ha
  unfold Inventory.linuxTarget at h
  cases hfind : inv.findTargetSystem name with
  | none =>
    rw [hfind] at h
    exact h
  | some targetSystem =>
    rw [hfind] at h
    show wp _ (if targetSystem.type = "linux" then Pure.pure targetSystem else throw _) Q ()
    by_cases htype : targetSystem.type = "linux"
    · rw [Option.filter_some, if_pos (by simpa using htype)] at h
      rw [if_pos htype]
      exact h
    · rw [Option.filter_some, if_neg (by simpa using htype)] at h
      rw [if_neg htype]
      exact h

/-- What is made of the groups that were found. -/
theorem resolved_of_rows {targetSystemId : String} {codes : List String} {rows : List FleetGroup}
    (hselection : inv.selection js payload = inv.selected targetSystemId codes) (hnil : codes ≠ [])
    (hcodes : codes.Nodup) (hrows : inv.Rows targetSystemId codes rows) :
    (if rows.length ≠ codes.eraseDups.length then
        throw (.error "One or more Linux server groups were not found")
      else if enabledHosts rows = [] then
        throw (.error "Linux server groups contain no enabled hosts")
      else Pure.pure ((enabledHosts rows).map Prod.snd) : LinuxProg (List FleetHost)).wp
      (.answering inv.Answers) (fun _ => Resolved inv js payload) () := by
  have hmem : ∀ host ∈ rows.flatMap FleetGroup.hosts, ∃ group,
      inv.Requested targetSystemId codes group ∧ inv.Member group host := by
    intro host hhost
    obtain ⟨row, hrow, hhost⟩ := List.mem_flatMap.1 hhost
    exact ⟨row.group, (hrows.groups _).1 (List.mem_map_of_mem hrow), (hrows.hosts row hrow host).1 hhost⟩
  obtain ⟨hnodup, hspec⟩ := enabledHosts_spec fun h hh h' hh' hid => by
    obtain ⟨_, -, hm⟩ := hmem h hh
    obtain ⟨_, -, hm'⟩ := hmem h' hh'
    exact hm.eq_of_id hm' hid
  have hset : {host | host ∈ (enabledHosts rows).map Prod.snd} = inv.HostsOf targetSystemId codes := by
    ext host
    rw [Set.mem_ofPred_eq, hspec]
    constructor
    · rintro ⟨hhost, hen⟩
      exact ⟨hen, hmem host hhost⟩
    · rintro ⟨hen, group, hreq, hm⟩
      obtain ⟨row, hrow, rfl⟩ := List.mem_map.1 ((hrows.groups group).2 hreq)
      exact ⟨List.mem_flatMap.2 ⟨row, hrow, (hrows.hosts row hrow host).2 hm⟩, hen⟩
  rw [OrderedMap.eraseDups_of_nodup hcodes]
  by_cases hknown : inv.Known targetSystemId codes
  · rw [if_neg (not_not.2 ((hrows.length_eq_iff hcodes).2 hknown))]
    by_cases hempty : enabledHosts rows = []
    · have hnone : inv.HostsOf targetSystemId codes = ∅ := by
        rw [← hset, hempty]
        simp
      rw [if_pos hempty]
      exact ⟨by simp [hselection, Inventory.selected, hnil, hknown, hnone, Except.map], nofun⟩
    · have hsome : inv.HostsOf targetSystemId codes ≠ ∅ := by
        rw [← hset, ← Set.nonempty_iff_ne_empty]
        obtain ⟨entry, hentry⟩ := List.exists_mem_of_ne_nil _ hempty
        exact ⟨entry.2, List.mem_map_of_mem hentry⟩
      rw [if_neg hempty]
      refine ⟨?_, ?_⟩
      · simp only [hselection, Inventory.selected, hnil, hknown, hsome, Except.map, if_false,
          not_true_eq_false, hset]
      · rintro hosts ⟨⟩
        exact hnodup
  · rw [if_pos fun hlen => hknown ((hrows.length_eq_iff hcodes).1 hlen)]
    exact ⟨by simp [hselection, Inventory.selected, hnil, hknown, Except.map], nofun⟩

/-- The hosts are those of the selection, each once. -/
theorem resolveFleetHosts_wp :
    (resolveFleetHosts js payload).wp (.answering inv.Answers) (fun _ => Resolved inv js payload)
      () := by
  unfold resolveFleetHosts
  rw [wp_bind]
  refine fleetTargetSystem_wp ?_
  cases htarget : inv.linuxTarget payload.targetSystem with
  | none => exact ⟨by simp [Inventory.selection, htarget, Except.map], nofun⟩
  | some targetSystem =>
    show wp _ (_ >>= _) _ _
    rw [wp_bind, wp_ofExcept]
    cases hcodes : fleetGroupCodes js (.obj (configRecord targetSystem.config)) payload.data
      payload.params with
    | error e =>
      refine ⟨?_, nofun⟩
      simp [Inventory.selection, htarget, hcodes, Except.map, Bind.bind, Except.bind]
    | ok codes =>
      have hselection : inv.selection js payload = inv.selected targetSystem.id codes := by
        simp [Inventory.selection, htarget, hcodes, Bind.bind, Except.bind]
      show wp _ (if codes = [] then throw _ else _) _ _
      by_cases hnil : codes = []
      · rw [if_pos hnil]
        exact ⟨by simp [hselection, Inventory.selected, hnil, Except.map], nofun⟩
      · rw [if_neg hnil, wp_bind, wp_await]
        refine ⟨trivial, ?_⟩
        rintro a ⟨⟩ ⟨rows, rfl, hrows⟩
        exact resolved_of_rows hselection hnil (fleetGroupCodes_nodup hcodes) hrows

/-- A selection of hosts comes from known codes. -/
theorem Inventory.selection_eq_ok {hosts : Set FleetHost}
    (h : inv.selection js payload = .ok hosts) :
    ∃ targetSystem codes, inv.linuxTarget payload.targetSystem = some targetSystem ∧
      fleetGroupCodes js (.obj (configRecord targetSystem.config)) payload.data payload.params =
        .ok codes ∧
      codes ≠ [] ∧ inv.Known targetSystem.id codes ∧ hosts = inv.HostsOf targetSystem.id codes := by
  unfold selection at h
  cases htarget : inv.linuxTarget payload.targetSystem with
  | none =>
    rw [htarget] at h
    cases h
  | some targetSystem =>
    rw [htarget] at h
    cases hcodes : fleetGroupCodes js (.obj (configRecord targetSystem.config)) payload.data
      payload.params with
    | error e => simp [hcodes, Bind.bind, Except.bind] at h
    | ok codes =>
      simp only [hcodes, Bind.bind, Except.bind, selected] at h
      refine ⟨targetSystem, codes, rfl, hcodes, ?_⟩
      split at h
      · cases h
      · next hnil =>
        split at h
        · cases h
        · next hknown =>
          split at h
          · cases h
          · exact ⟨hnil, not_not.1 hknown, (Except.ok.inj h).symm⟩

/-- The rows may come with any selected host first. -/
theorem Inventory.exists_rows_first {targetSystemId : String} {codes : List String}
    {host : FleetHost} (h : host ∈ inv.HostsOf targetSystemId codes) :
    ∃ rows rest, inv.Rows targetSystemId codes rows ∧
      rows.flatMap FleetGroup.hosts = host :: rest := by
  obtain ⟨-, group, hreq, hmember⟩ := h
  have hrows := inv.rows_rows targetSystemId codes
  obtain ⟨row, hrow, rfl⟩ := List.mem_map.1 ((hrows.groups group).2 hreq)
  obtain ⟨before, after, hsplit⟩ := List.append_of_mem hrow
  obtain ⟨first, last, hhosts⟩ := List.append_of_mem ((hrows.hosts row hrow host).2 hmember)
  have hperm : (((⟨row.group, host :: (first ++ last)⟩ : FleetGroup) :: (before ++ after)).map
      FleetGroup.group).Perm ((inv.rows targetSystemId codes).map FleetGroup.group) := by
    rw [hsplit, List.map_cons, List.map_append, List.map_append, List.map_cons]
    exact List.perm_middle.symm
  refine ⟨⟨row.group, host :: (first ++ last)⟩ :: (before ++ after), _,
    ⟨hperm.nodup_iff.2 hrows.nodup, fun g => hperm.mem_iff.trans (hrows.groups g), ?_⟩, rfl⟩
  intro row' hrow' host'
  rcases List.mem_cons.1 hrow' with rfl | hold
  · rw [← hrows.hosts row hrow host', hhosts]
    simp only [List.mem_cons, List.mem_append]
    tauto
  · refine hrows.hosts row' ?_ host'
    rw [hsplit]
    rcases List.mem_append.1 hold with hmem | hmem
    · exact List.mem_append_left _ hmem
    · exact List.mem_append_right _ (List.mem_cons_of_mem _ hmem)

/-- The first entry of the map stays the first. -/
theorem foldl_setIfEnabled_cons {hosts : List FleetHost} {host : FleetHost}
    (hids : ∀ h ∈ hosts, h.host.id = host.host.id → h = host) (m : List (String × FleetHost)) :
    ∃ m', hosts.foldl setIfEnabled ((host.host.id, host) :: m) = (host.host.id, host) :: m' := by
  induction hosts generalizing m with
  | nil => exact ⟨m, rfl⟩
  | cons h hosts ih =>
    have hstep : ∃ m', setIfEnabled ((host.host.id, host) :: m) h = (host.host.id, host) :: m' := by
      unfold setIfEnabled
      split
      · unfold OrderedMap.set
        split
        · next hid =>
          obtain rfl := hids h List.mem_cons_self hid.symm
          exact ⟨m, rfl⟩
        · exact ⟨_, rfl⟩
      · exact ⟨m, rfl⟩
    obtain ⟨m', hstep⟩ := hstep
    rw [List.foldl_cons, hstep]
    exact ih (fun a ha => hids a (List.mem_cons_of_mem _ ha)) m'

/-- Any selected host may be the first that the connector resolves. -/
theorem exists_resolve_first {hosts : Set FleetHost} (h : inv.selection js payload = .ok hosts)
    {host : FleetHost} (hhost : host ∈ hosts) :
    ∃ t rest, (∀ e ∈ t, inv.Answers e) ∧
      (resolveFleetHosts js payload).Runs t (.ok (host :: rest)) := by
  obtain ⟨targetSystem, codes, htarget, hcodes, hnil, hknown, rfl⟩ := inv.selection_eq_ok h
  obtain ⟨rows, rest, hrows, hflat⟩ := Inventory.exists_rows_first hhost
  have hlen : rows.length = codes.eraseDups.length := by
    have hnodup := fleetGroupCodes_nodup hcodes
    rw [OrderedMap.eraseDups_of_nodup hnodup]
    exact (hrows.length_eq_iff hnodup).2 hknown
  have hids : ∀ h ∈ rest, h.host.id = host.host.id → h = host := by
    have hmember : ∀ h ∈ rows.flatMap FleetGroup.hosts, ∃ group, inv.Member group h := by
      intro h hh
      obtain ⟨row, hrow, hh⟩ := List.mem_flatMap.1 hh
      exact ⟨row.group, (hrows.hosts row hrow h).1 hh⟩
    rw [hflat] at hmember
    intro h hh hid
    obtain ⟨_, hm⟩ := hmember h (List.mem_cons_of_mem _ hh)
    obtain ⟨_, hm'⟩ := hmember host List.mem_cons_self
    exact hm.eq_of_id hm' hid
  obtain ⟨m, hm⟩ : ∃ m, enabledHosts rows = (host.host.id, host) :: m := by
    have hfirst : setIfEnabled [] host = [(host.host.id, host)] := if_pos hhost.1
    obtain ⟨m, hm⟩ := foldl_setIfEnabled_cons hids []
    refine ⟨m, ?_⟩
    show (rows.flatMap FleetGroup.hosts).foldl setIfEnabled [] = _
    rw [hflat, List.foldl_cons, hfirst, hm]
  obtain ⟨hfind, htype⟩ := Option.filter_eq_some_iff.1 htarget
  refine ⟨[⟨.targetSystemFindUnique payload.targetSystem, .ok (some targetSystem)⟩,
    ⟨.serverGroupFindMany targetSystem.id codes, .ok rows⟩], m.map Prod.snd, ?_, ?_⟩
  · intro e he
    rcases List.mem_cons.1 he with rfl | he
    · show _ = Except.ok _
      rw [hfind]
    · obtain rfl := List.mem_singleton.1 he
      exact ⟨rows, rfl, hrows⟩
  · have htargetRun : (fleetTargetSystem payload.targetSystem).Runs
        [⟨.targetSystemFindUnique payload.targetSystem, .ok (some targetSystem)⟩]
        (.ok targetSystem) := by
      refine ⟨_, [], rfl, ?_⟩
      show (if targetSystem.type = "linux" then Pure.pure targetSystem else throw _ :
        LinuxProg TargetSystem).Runs [] _
      rw [if_pos (by simpa using htype)]
      exact ⟨rfl, rfl⟩
    refine runs_bind.2 (Or.inr ⟨targetSystem, _, [_], rfl, htargetRun, ?_⟩)
    dsimp only
    rw [hcodes]
    show (if codes = [] then throw _ else _ : LinuxProg (List FleetHost)).Runs _ _
    rw [if_neg hnil]
    refine ⟨.ok rows, [], rfl, ?_⟩
    show (if rows.length ≠ codes.eraseDups.length then throw _
      else if enabledHosts rows = [] then throw _ else Pure.pure _ :
        LinuxProg (List FleetHost)).Runs [] _
    rw [if_neg (not_not.2 hlen), hm, if_neg (List.cons_ne_nil _ _)]
    exact ⟨rfl, rfl⟩

end Resolve

end IdmMw
