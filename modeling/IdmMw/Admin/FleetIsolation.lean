import IdmMw.Admin.FleetTables

/-!
# Isolation of target systems

An operation checks in one statement that a profile or a host belongs to the right target system, and
writes in another; in between, the operations of others create, change and delete rows.

* `FleetKind`, `FleetState.places`: which rows there are, and to which target system each belongs;
* `Fact`: what an operation has learned of a row. No statement moves a row to another target system
  and no id is given twice, so a fact stays true, also when the row is deleted (`Fact.Holds.later`);
* `fleetMonitor`: the writes that an operation may make, given its facts;
* `FleetState.Isolated`, `Consistent`: the law, and the invariant that carries it;
* `fleet_isolated`: any number of operations keep the law.
-/

namespace IdmMw

open Async LinuxFleetService

/-! ### Rows and their target systems -/

inductive FleetKind
  | profile
  | host
  | group
  deriving DecidableEq

variable {ι : Type}

namespace FleetState

/-- The ids of the rows of a kind, each with its target system. -/
def places (s : FleetState ι) : FleetKind → List (String × String)
  | .profile => s.profiles.map fun row => (row.id, row.targetSystemId)
  | .host => s.hosts.map fun row => (row.id, row.targetSystemId)
  | .group => s.groups.map fun row => (row.id, row.targetSystemId)

/-- The profile of a host, if any, is there and belongs to the target system of the host. -/
def Serves (s : FleetState ι) (row : LinuxHost) : Prop :=
  ∀ p, row.credentialProfileId = some p → (p, row.targetSystemId) ∈ s.places .profile

/-- A membership joins a group and a host of one target system. -/
def Joins (s : FleetState ι) (row : LinuxServerGroupHost) : Prop :=
  ∃ targetSystemId, (row.groupId, targetSystemId) ∈ s.places .group ∧
    (row.hostId, targetSystemId) ∈ s.places .host

/-- Every host is served by a profile of its own target system, if by any, and every membership joins
a group and a host of one target system. -/
structure Isolated (s : FleetState ι) : Prop where
  serves : ∀ host ∈ s.hosts, ∀ p, host.credentialProfileId = some p →
    ∃ profile ∈ s.profiles, profile.id = p ∧ profile.targetSystemId = host.targetSystemId
  joins : ∀ row ∈ s.memberships, ∃ group ∈ s.groups, ∃ host ∈ s.hosts,
    group.id = row.groupId ∧ host.id = row.hostId ∧ group.targetSystemId = host.targetSystemId

/-- Ids are keys and have been given, and the rows, also those of open transactions, obey the law. -/
structure Consistent (s : FleetState ι) : Prop where
  keys : ∀ kind, ((s.places kind).map Prod.fst).Nodup
  issued : ∀ kind, ∀ e ∈ s.places kind, e.1 ∈ s.issued
  serves : ∀ row ∈ s.hosts, s.Serves row
  joins : ∀ row ∈ s.memberships, s.Joins row
  pending : ∀ i t, s.tx i = some t → ∀ row ∈ t.added, s.Joins row

theorem Consistent.isolated {s : FleetState ι} (h : s.Consistent) : s.Isolated where
  serves host hhost p hp := by
    have hplace := h.serves host hhost p hp
    obtain ⟨profile, hprofile, heq⟩ := List.mem_map.1 hplace
    exact ⟨profile, hprofile, congrArg Prod.fst heq, congrArg Prod.snd heq⟩
  joins row hrow := by
    obtain ⟨targetSystemId, hgroup, hhost⟩ := h.joins row hrow
    obtain ⟨group, hgroup, hg⟩ := List.mem_map.1 hgroup
    obtain ⟨host, hhost, hh⟩ := List.mem_map.1 hhost
    exact ⟨group, hgroup, host, hhost, congrArg Prod.fst hg, congrArg Prod.fst hh,
      (congrArg Prod.snd hg).trans (congrArg Prod.snd hh).symm⟩

theorem consistent_empty (targetSystems : List TargetSystem) :
    (FleetState.empty targetSystems : FleetState ι).Consistent where
  keys kind := by cases kind <;> simp [empty, places]
  issued kind := by cases kind <;> simp [empty, places]
  serves := by simp [empty]
  joins := by simp [empty]
  pending := by simp [empty]

end FleetState

/-! ### Facts -/

/-- The row of the kind with this id belongs to the target system. -/
structure Fact where
  kind : FleetKind
  id : String
  targetSystemId : String

/-- The id has been given, and no row with it belongs to another target system. -/
def Fact.Holds (f : Fact) (s : FleetState ι) : Prop :=
  f.id ∈ s.issued ∧ ∀ targetSystemId, (f.id, targetSystemId) ∈ s.places f.kind →
    targetSystemId = f.targetSystemId

/-- After a step the rows are those before it, except for new ones with new ids. -/
structure Later (s s' : FleetState ι) : Prop where
  issued : ∀ id ∈ s.issued, id ∈ s'.issued
  places : ∀ kind, ∀ e ∈ s'.places kind, e ∈ s.places kind ∨ e.1 ∉ s.issued

variable {s s' : FleetState ι}

theorem Fact.Holds.later {f : Fact} (h : f.Holds s) (hs : Later s s') : f.Holds s' := by
  refine ⟨hs.issued _ h.1, fun targetSystemId he => ?_⟩
  rcases hs.places f.kind _ he with he | he
  · exact h.2 targetSystemId he
  · exact absurd h.1 he

/-- A row that is there is a fact: its id is a key. -/
theorem FleetState.Consistent.fact (h : s.Consistent) {f : Fact}
    (hf : (f.id, f.targetSystemId) ∈ s.places f.kind) : f.Holds s := by
  refine ⟨h.issued f.kind _ hf, fun targetSystemId he => ?_⟩
  have := List.inj_on_of_nodup_map (h.keys f.kind) he hf rfl
  exact congrArg Prod.snd this

/-- A fact about a row that is there. -/
theorem Fact.Holds.mem {f : Fact} (h : f.Holds s)
    (hrow : ∃ e ∈ s.places f.kind, e.1 = f.id) : (f.id, f.targetSystemId) ∈ s.places f.kind := by
  obtain ⟨⟨id, targetSystemId⟩, he, rfl⟩ := hrow
  rw [← h.2 targetSystemId he]
  exact he

/-! ### What the statements do to the rows -/

/-- A fact about the places of two states. -/
theorem FleetState.Joins.of_places {row : LinuxServerGroupHost} (h : s.Joins row)
    (hgroup : ∀ t, (row.groupId, t) ∈ s.places .group → (row.hostId, t) ∈ s.places .host →
      (row.groupId, t) ∈ s'.places .group ∧ (row.hostId, t) ∈ s'.places .host) : s'.Joins row := by
  obtain ⟨t, hg, hh⟩ := h
  exact ⟨t, hgroup t hg hh⟩

/-- A statement that adds a row with a new id. -/
theorem FleetState.Consistent.added (h : s.Consistent) {k : FleetKind} {e : String × String}
    (hplaces : ∀ kind, s'.places kind = s.places kind ++ if kind = k then [e] else [])
    (hissued : s'.issued = e.1 :: s.issued) (hnew : e.1 ∉ s.issued)
    (hmemberships : s'.memberships = s.memberships) (htx : s'.tx = s.tx)
    (hserves : ∀ row ∈ s'.hosts, s'.Serves row) : s'.Consistent ∧ Later s s' := by
  have hjoins : ∀ row, s.Joins row → s'.Joins row := fun row hrow =>
    hrow.of_places fun t hg hh => by
      rw [hplaces, hplaces]
      exact ⟨List.mem_append_left _ hg, List.mem_append_left _ hh⟩
  refine ⟨⟨fun kind => ?_, fun kind e' he' => ?_, hserves, fun row hrow => ?_,
    fun i t ht row hrow => ?_⟩, ⟨fun id hid => ?_, fun kind e' he' => ?_⟩⟩
  · rw [hplaces]
    by_cases hk : kind = k
    · rw [if_pos hk, List.map_append, List.nodup_append]
      refine ⟨h.keys kind, by simp, fun id hid id' hid' => ?_⟩
      obtain ⟨e', he', rfl⟩ := List.mem_map.1 hid
      obtain rfl : id' = e.1 := by simpa using hid'
      exact fun heq => hnew (heq ▸ h.issued kind e' he')
    · simpa [hk] using h.keys kind
  · rw [hplaces] at he'
    rw [hissued]
    rcases List.mem_append.1 he' with he' | he'
    · exact List.mem_cons_of_mem _ (h.issued kind e' he')
    · obtain rfl : e' = e := by
        split_ifs at he'
        · exact List.mem_singleton.1 he'
        · cases he'
      exact List.mem_cons_self
  · rw [hmemberships] at hrow
    exact hjoins row (h.joins row hrow)
  · rw [htx] at ht
    exact hjoins row (h.pending i t ht row hrow)
  · rw [hissued]
    exact List.mem_cons_of_mem _ hid
  · rw [hplaces] at he'
    rcases List.mem_append.1 he' with he' | he'
    · exact Or.inl he'
    · obtain rfl : e' = e := by
        split_ifs at he'
        · exact List.mem_singleton.1 he'
        · cases he'
      exact Or.inr hnew

/-- A statement that adds no row. -/
theorem FleetState.Consistent.kept (h : s.Consistent)
    (hplaces : ∀ kind, (s'.places kind).Sublist (s.places kind)) (hissued : s'.issued = s.issued)
    (hserves : ∀ row ∈ s'.hosts, s'.Serves row) (hjoins : ∀ row ∈ s'.memberships, s'.Joins row)
    (hpending : ∀ i t, s'.tx i = some t → ∀ row ∈ t.added, s'.Joins row) :
    s'.Consistent ∧ Later s s' := by
  refine ⟨⟨fun kind => ?_, fun kind e he => ?_, hserves, hjoins, hpending⟩,
    ⟨fun id hid => ?_, fun kind e he => Or.inl ((hplaces kind).subset he)⟩⟩
  · exact (h.keys kind).sublist ((hplaces kind).map Prod.fst)
  · rw [hissued]
    exact h.issued kind e ((hplaces kind).subset he)
  · rwa [hissued]

/-- A statement that leaves all places, and the memberships. -/
theorem FleetState.Consistent.unmoved (h : s.Consistent)
    (hplaces : ∀ kind, s'.places kind = s.places kind) (hissued : s'.issued = s.issued)
    (hserves : ∀ row ∈ s'.hosts, s'.Serves row) (hmemberships : s'.memberships = s.memberships)
    (htx : s'.tx = s.tx) : s'.Consistent ∧ Later s s' := by
  have hjoins : ∀ row, s.Joins row → s'.Joins row := fun row hrow =>
    hrow.of_places fun t hg hh => by
      rw [hplaces, hplaces]
      exact ⟨hg, hh⟩
  refine h.kept (fun kind => by rw [hplaces]) hissued hserves ?_ ?_
  · rw [hmemberships]
    exact fun row hrow => hjoins row (h.joins row hrow)
  · rw [htx]
    exact fun i t ht row hrow => hjoins row (h.pending i t ht row hrow)

/-- An update that leaves the id and the target system of a row leaves all places. -/
theorem map_updateAt {α : Type} {key target : α → String} {id : String} {f : α → α} {rows : List α}
    (hkey : ∀ row, key (f row) = key row) (htarget : ∀ row, target (f row) = target row) :
    (rows.map (updateAt key id f)).map (fun row => (key row, target row)) =
      rows.map fun row => (key row, target row) := by
  rw [List.map_map]
  refine List.map_congr_left fun row _ => ?_
  unfold updateAt
  simp only [Function.comp_apply]
  split
  · rw [hkey, htarget]
  · rfl

theorem mem_updateAt {α : Type} {key : α → String} {id : String} {f : α → α} {rows : List α} {row : α}
    (h : row ∈ rows.map (updateAt key id f)) :
    ∃ old ∈ rows, row = old ∨ key old = id ∧ row = f old := by
  obtain ⟨old, hold, rfl⟩ := List.mem_map.1 h
  refine ⟨old, hold, ?_⟩
  unfold updateAt
  split
  · next hid => exact Or.inr ⟨hid, rfl⟩
  · exact Or.inl rfl

/-! ### The monitor -/

/-- The writes that an operation may make, given its facts. -/
def FleetReq.Allowed (q : Set Fact) : FleetReq → Prop
  | .hostCreate data => ∀ p, data.credentialProfileId = some p →
      ⟨.profile, p, data.targetSystemId⟩ ∈ q
  | .hostUpdate id data => ∀ p, data.credentialProfileId = some (some p) →
      ∃ t, ⟨.profile, p, t⟩ ∈ q ∧ ⟨.host, id, t⟩ ∈ q
  | .groupHost (.createMany data) => ∀ row ∈ data,
      ∃ t, ⟨.group, row.groupId, t⟩ ∈ q ∧ ⟨.host, row.hostId, t⟩ ∈ q
  | _ => True

/-- What an answer tells. -/
def learned : (r : FleetReq) → FleetAns r → Set Fact
  | .profileFindFirst id t, .ok (some _) => {⟨.profile, id, t⟩}
  | .hostFindUnique id, .ok (some row) => {⟨.host, id, row.targetSystemId⟩}
  | .groupFindUnique id, .ok (some row) => {⟨.group, id, row.targetSystemId⟩}
  | .hostCount ids t, .ok count =>
      {f | f.kind = .host ∧ f.targetSystemId = t ∧ f.id ∈ ids ∧ count = ids.length}
  | _, _ => ∅

def fleetMonitor : Monitor (Set Fact) FleetAns where
  ok q r := r.Allowed q
  next q r a q' := q' = q ∪ learned r a

/-- The facts of an operation hold. -/
def Known (s : FleetState ι) (q : Set Fact) : Prop := ∀ f ∈ q, f.Holds s

/-- If as many hosts of the target system have one of the ids as there are ids, all of them have. -/
theorem FleetState.Consistent.of_count (h : s.Consistent) {ids : List String} {t : String}
    (hcount : (s.hosts.countP fun row => ids.contains row.id && row.targetSystemId = t) = ids.length) :
    ∀ id ∈ ids, (id, t) ∈ s.places .host := by
  intro id hid
  have hnodup : ((s.hosts.filter fun row => ids.contains row.id && row.targetSystemId = t).map
      LinuxHost.id).Nodup := by
    have hkeys := h.keys .host
    simp only [places, List.map_map] at hkeys
    exact hkeys.sublist (List.filter_sublist.map _)
  have hsub : (s.hosts.filter fun row => ids.contains row.id && row.targetSystemId = t).map
      LinuxHost.id ⊆ ids := by
    intro x hx
    obtain ⟨row, hrow, rfl⟩ := List.mem_map.1 hx
    have := (List.mem_filter.1 hrow).2
    simp at this
    exact this.1
  have hperm := (List.subperm_of_subset hnodup hsub).perm_of_length_le (by
    rw [List.length_map, ← List.countP_eq_length_filter, hcount])
  obtain ⟨row, hrow, rfl⟩ := List.mem_map.1 (hperm.mem_iff.2 hid)
  obtain ⟨hmem, hcond⟩ := List.mem_filter.1 hrow
  have htarget : row.targetSystemId = t := by
    simp at hcond
    exact hcond.2
  exact List.mem_map.2 ⟨row, hmem, by rw [htarget]⟩

theorem profileDelete_consistent (h : s.Consistent) (id : String) :
    (s.deleteProfile id).Consistent ∧ Later s (s.deleteProfile id) := by
  have hhosts : (s.deleteProfile id).places .host = s.places .host := by
    simp only [FleetState.places, FleetState.deleteProfile, List.map_map]
    refine List.map_congr_left fun row _ => ?_
    simp only [Function.comp_apply, LinuxHost.withoutProfile]
    split <;> rfl
  have hjoins : ∀ row, s.Joins row → (s.deleteProfile id).Joins row := fun row hrow =>
    hrow.of_places fun t hg hh => ⟨hg, by rw [hhosts]; exact hh⟩
  refine h.kept ?_ rfl ?_ (fun row hrow => hjoins row (h.joins row hrow))
    fun i t ht row hrow => hjoins row (h.pending i t ht row hrow)
  · intro kind
    cases kind with
    | profile => exact List.filter_sublist.map _
    | host => rw [hhosts]
    | group => exact List.Sublist.refl _
  · intro row hrow p hp
    obtain ⟨old, hold, rfl⟩ := List.mem_map.1 hrow
    unfold LinuxHost.withoutProfile at hp ⊢
    split at hp
    · cases hp
    · next hne =>
      rw [if_neg hne]
      obtain ⟨profile, hprofile, heq⟩ := List.mem_map.1 (h.serves old hold p hp)
      refine List.mem_map.2 ⟨profile, List.mem_filter.2 ⟨hprofile, ?_⟩, heq⟩
      have hpid : profile.id = p := congrArg Prod.fst heq
      simp only [hpid, decide_eq_true_eq]
      rintro rfl
      exact hne hp

/-- A row that meets the condition stays where it is. -/
theorem mem_places_filter {α : Type} {key target : α → String} {keep : α → Bool} {rows : List α}
    {e : String × String} (h : e ∈ rows.map fun row => (key row, target row))
    (hkeep : ∀ row ∈ rows, (key row, target row) = e → keep row = true) :
    e ∈ (rows.filter keep).map fun row => (key row, target row) := by
  obtain ⟨row, hrow, rfl⟩ := List.mem_map.1 h
  exact List.mem_map.2 ⟨row, List.mem_filter.2 ⟨hrow, hkeep row hrow rfl⟩, rfl⟩

theorem hostDelete_consistent (h : s.Consistent) {id : String}
    (hfree : s.Unlocked (·.hostId = id)) :
    (s.deleteHost id).Consistent ∧ Later s (s.deleteHost id) := by
  have hjoins : ∀ row, row.hostId ≠ id → s.Joins row → (s.deleteHost id).Joins row :=
    fun row hne hrow => hrow.of_places fun t hg hh => ⟨hg, mem_places_filter hh fun old _ he => by
      have hid : old.id = row.hostId := congrArg Prod.fst he
      simpa [hid] using hne⟩
  refine h.kept ?_ rfl (fun row hrow => h.serves row (List.mem_filter.1 hrow).1) ?_
    fun i t ht row hrow => hjoins row (hfree i t ht row hrow) (h.pending i t ht row hrow)
  · intro kind
    cases kind with
    | host => exact List.filter_sublist.map _
    | profile | group => exact List.Sublist.refl _
  · intro row hrow
    obtain ⟨hrow, hne⟩ := List.mem_filter.1 hrow
    exact hjoins row (by simpa using hne) (h.joins row hrow)

theorem groupDelete_consistent (h : s.Consistent) {id : String}
    (hfree : s.Unlocked (·.groupId = id)) :
    (s.deleteGroup id).Consistent ∧ Later s (s.deleteGroup id) := by
  have hjoins : ∀ row, row.groupId ≠ id → s.Joins row → (s.deleteGroup id).Joins row :=
    fun row hne hrow => hrow.of_places fun t hg hh => ⟨mem_places_filter hg fun old _ he => by
      have hid : old.id = row.groupId := congrArg Prod.fst he
      simpa [hid] using hne, hh⟩
  refine h.kept ?_ rfl h.serves ?_
    fun i t ht row hrow => hjoins row (hfree i t ht row hrow) (h.pending i t ht row hrow)
  · intro kind
    cases kind with
    | group => exact List.filter_sublist.map _
    | profile | host => exact List.Sublist.refl _
  · intro row hrow
    obtain ⟨hrow, hne⟩ := List.mem_filter.1 hrow
    exact hjoins row (by simpa using hne) (h.joins row hrow)

/-- The profile that a write names belongs to the right target system. -/
theorem serves_of_facts {q : Set Fact} (hq : Known s q) {p t : String}
    (hfact : ⟨.profile, p, t⟩ ∈ q) (hprofile : s.HasProfile p) : (p, t) ∈ s.places .profile := by
  obtain ⟨profile, hmem, rfl⟩ := hprofile
  exact (hq _ hfact).mem ⟨_, List.mem_map.2 ⟨profile, hmem, rfl⟩, rfl⟩

theorem hostUpdate_consistent (h : s.Consistent) {q : Set Fact} (hq : Known s q) {id : String}
    {data : HostUpdate} (hok : (FleetReq.hostUpdate id data).Allowed q)
    (hprofile : ∀ p, data.credentialProfileId = some (some p) → s.HasProfile p) :
    let s' := { s with hosts := s.hosts.map (updateAt LinuxHost.id id data.apply) }
    s'.Consistent ∧ Later s s' := by
  intro s'
  refine h.unmoved ?_ rfl ?_ rfl rfl
  · intro kind
    cases kind with
    | host => exact map_updateAt (fun _ => rfl) fun _ => rfl
    | profile | group => rfl
  · intro row hrow p hp
    obtain ⟨old, hold, rfl | ⟨hid, rfl⟩⟩ := mem_updateAt hrow
    · exact h.serves row hold p hp
    · cases hdata : data.credentialProfileId with
      | none => exact h.serves old hold p (by simpa [HostUpdate.apply, hdata] using hp)
      | some profileId =>
        obtain rfl : profileId = some p := by simpa [HostUpdate.apply, hdata] using hp
        obtain ⟨t, hprof, hhost⟩ := hok p hdata
        have htarget : old.targetSystemId = t :=
          (hq _ hhost).2 _ (List.mem_map.2 ⟨old, hold, by rw [hid]⟩)
        show (p, old.targetSystemId) ∈ s.places .profile
        rw [htarget]
        exact serves_of_facts hq hprof (hprofile p hdata)

theorem createMany_joins {q : Set Fact} (hq : Known s q) {data : List LinuxServerGroupHost}
    (hok : (FleetReq.groupHost (.createMany data)).Allowed q)
    (hkeys : ∀ row ∈ data, s.HasGroup row.groupId ∧ s.HasHost row.hostId) :
    ∀ row ∈ data, s.Joins row := by
  intro row hrow
  obtain ⟨t, hgroup, hhost⟩ := hok row hrow
  obtain ⟨⟨group, hg, hgid⟩, host, hh, hhid⟩ := hkeys row hrow
  exact ⟨t, (hq _ hgroup).mem ⟨_, List.mem_map.2 ⟨group, hg, rfl⟩, hgid⟩,
    (hq _ hhost).mem ⟨_, List.mem_map.2 ⟨host, hh, rfl⟩, hhid⟩⟩

/-- With a target system go its rows and the memberships of its groups and hosts; the profiles of the
other hosts stay, since none belongs to it. -/
theorem targetSystemDelete_consistent (h : s.Consistent) {id : String}
    (hfree : s.Unlocked fun row =>
      (∃ group ∈ s.groups, group.id = row.groupId ∧ group.targetSystemId = id) ∨
      ∃ host ∈ s.hosts, host.id = row.hostId ∧ host.targetSystemId = id) :
    (s.deleteTargetSystem id).Consistent ∧ Later s (s.deleteTargetSystem id) := by
  have hhosts : (s.deleteTargetSystem id).places .host =
      (s.hosts.filter (·.targetSystemId ≠ id)).map fun row => (row.id, row.targetSystemId) := by
    simp only [FleetState.places, FleetState.deleteTargetSystem, List.map_map]
    refine List.map_congr_left fun row _ => ?_
    simp only [Function.comp_apply]
    split <;> rfl
  have hjoins : ∀ row, s.Joins row →
      (∀ group ∈ s.groups, group.id = row.groupId → group.targetSystemId ≠ id) →
      (∀ host ∈ s.hosts, host.id = row.hostId → host.targetSystemId ≠ id) →
      (s.deleteTargetSystem id).Joins row := by
    intro row hrow hgroups hhosts'
    refine hrow.of_places fun t hg hh => ⟨mem_places_filter hg fun group hgroup he => ?_, ?_⟩
    · simpa using hgroups group hgroup (congrArg Prod.fst he)
    · rw [hhosts]
      refine mem_places_filter hh fun host hhost he => ?_
      simpa using hhosts' host hhost (congrArg Prod.fst he)
  refine h.kept ?_ rfl ?_ ?_ ?_
  · intro kind
    cases kind with
    | host =>
      rw [hhosts]
      exact List.filter_sublist.map _
    | profile | group => exact List.filter_sublist.map _
  · intro row hrow p hp
    obtain ⟨old, hold, rfl⟩ := List.mem_map.1 hrow
    obtain ⟨hmem, hne⟩ := List.mem_filter.1 hold
    split at hp
    · cases hp
    · next hcond =>
      rw [if_neg hcond]
      refine mem_places_filter (h.serves old hmem p hp) fun profile _ he => ?_
      have htarget : profile.targetSystemId = old.targetSystemId := congrArg Prod.snd he
      rw [htarget]
      exact hne
  · intro row hrow
    obtain ⟨hmem, hkeep⟩ := List.mem_filter.1 hrow
    simp only [Bool.and_eq_true, Bool.not_eq_true', List.any_eq_false, decide_eq_true_eq,
      not_and] at hkeep
    exact hjoins row (h.joins row hmem) hkeep.1 hkeep.2
  · intro i t ht row hrow
    have hnot := not_or.1 (hfree i t ht row hrow)
    refine hjoins row (h.pending i t ht row hrow) ?_ ?_
    · exact fun group hgroup hid htarget => hnot.1 ⟨group, hgroup, hid, htarget⟩
    · exact fun host hhost hid htarget => hnot.2 ⟨host, hhost, hid, htarget⟩

section Env

variable [DecidableEq ι] {i : ι} {r : FleetReq} {a : FleetAns r} {q : Set Fact}

theorem learned_failure {e : AdminError} : learned r (r.failure e) = ∅ := by
  cases r <;> rfl

/-- What an answer tells is a fact. -/
theorem FleetEnv.learned (h : FleetEnv i s r a s') (hs : s.Consistent) : Known s (learned r a) := by
  intro f hf
  cases h with
  | @profileFindFirst id t =>
    cases hfind : s.profiles.find? fun row => row.id = id && row.targetSystemId = t with
    | none =>
      rw [hfind] at hf
      exact hf.elim
    | some row =>
      rw [hfind] at hf
      obtain rfl := Set.mem_singleton_iff.1 hf
      have hrow : row.id = id ∧ row.targetSystemId = t := by simpa using List.find?_some hfind
      refine hs.fact (List.mem_map.2 ⟨row, List.mem_of_find?_eq_some hfind, ?_⟩)
      rw [hrow.1, hrow.2]
  | @hostFindUnique id =>
    cases hfind : s.hosts.find? (·.id = id) with
    | none =>
      rw [hfind] at hf
      exact hf.elim
    | some row =>
      rw [hfind] at hf
      obtain rfl := Set.mem_singleton_iff.1 hf
      have hrow : row.id = id := by simpa using List.find?_some hfind
      exact hs.fact (List.mem_map.2 ⟨row, List.mem_of_find?_eq_some hfind, by rw [hrow]⟩)
  | @groupFindUnique id =>
    cases hfind : s.groups.find? (·.id = id) with
    | none =>
      rw [hfind] at hf
      exact hf.elim
    | some row =>
      rw [hfind] at hf
      obtain rfl := Set.mem_singleton_iff.1 hf
      have hrow : row.id = id := by simpa using List.find?_some hfind
      exact hs.fact (List.mem_map.2 ⟨row, List.mem_of_find?_eq_some hfind, by rw [hrow]⟩)
  | @hostCount ids t =>
    obtain ⟨hkind, htarget, hid, hcount⟩ := hf
    obtain ⟨kind, id, target⟩ := f
    obtain rfl : kind = .host := hkind
    obtain rfl : target = t := htarget
    exact hs.fact (hs.of_count hcount id hid)
  | failed =>
    rw [learned_failure] at hf
    exact hf.elim
  | lost h =>
    rw [learned_failure] at hf
    exact hf.elim
  | _ => exact absurd hf (by simp [IdmMw.learned])

theorem setTx_consistent (h : s.Consistent) {t : Option FleetTx}
    (ht : ∀ x, t = some x → ∀ row ∈ x.added, s.Joins row) : (s.setTx i t).Consistent ∧
      Later s (s.setTx i t) := by
  refine h.kept (fun kind => List.Sublist.refl _) rfl h.serves h.joins ?_
  intro j x hx row hrow
  by_cases hj : j = i
  · subst hj
    exact ht x (by simpa [FleetState.setTx] using hx) row hrow
  · exact h.pending j x (by simpa [FleetState.setTx, hj] using hx) row hrow

/-- What one statement keeps, if its operation has the facts that it needs. -/
theorem FleetEnv.consistent (h : FleetEnv i s r a s') (hs : s.Consistent) (hq : Known s q)
    (hok : r.Allowed q) : s'.Consistent ∧ Later s s' := by
  induction h with
  | targetSystemFindUnique | profileFindUnique | profileFindFirst | hostFindUnique | groupFindUnique
  | hostCount => exact ⟨hs, fun _ => id, fun _ _ => Or.inl⟩
  | @profileCreate data id hid htarget =>
    refine hs.added (k := .profile) (e := (id, data.targetSystemId)) ?_ rfl hid rfl rfl ?_
    · intro kind
      cases kind <;> simp [FleetState.places, CredentialProfileCreate.row]
    · intro row hrow p hp
      show (p, row.targetSystemId) ∈ (s.profiles ++ [data.row id]).map _
      rw [List.map_append]
      exact List.mem_append_left _ (hs.serves row hrow p hp)
  | @profileUpdate id data row hrow hid =>
    have hplaces : (s.profiles.map (updateAt LinuxCredentialProfile.id id data.apply)).map
        (fun row => (row.id, row.targetSystemId)) =
          s.profiles.map fun row => (row.id, row.targetSystemId) :=
      map_updateAt (fun _ => rfl) fun _ => rfl
    refine hs.unmoved ?_ rfl ?_ rfl rfl
    · intro kind
      cases kind with
      | profile => exact hplaces
      | host | group => rfl
    · intro row hrow p hp
      show (p, row.targetSystemId) ∈ List.map _ (List.map _ s.profiles)
      rw [hplaces]
      exact hs.serves row hrow p hp
  | @profileDelete id hrow => exact profileDelete_consistent hs id
  | @hostCreate data id hid htarget hprofile =>
    refine hs.added (k := .host) (e := (id, data.targetSystemId)) ?_ rfl hid rfl rfl ?_
    · intro kind
      cases kind <;> simp [FleetState.places, HostCreate.row]
    · intro row hrow p hp
      rcases List.mem_append.1 hrow with hrow | hrow
      · exact hs.serves row hrow p hp
      · obtain rfl := List.mem_singleton.1 hrow
        exact serves_of_facts hq (hok p hp) (hprofile p hp)
  | @hostUpdate id data row hrow hid hprofile => exact hostUpdate_consistent hs hq hok hprofile
  | @hostDelete id hrow hfree => exact hostDelete_consistent hs hfree
  | @groupCreate data id hid htarget =>
    refine hs.added (k := .group) (e := (id, data.targetSystemId)) ?_ rfl hid rfl rfl hs.serves
    intro kind
    cases kind <;> simp [FleetState.places, ServerGroupCreate.row]
  | @groupUpdate id data row hrow hid =>
    refine hs.unmoved ?_ rfl hs.serves rfl rfl
    intro kind
    cases kind with
    | group => exact map_updateAt (fun _ => rfl) fun _ => rfl
    | host | profile => rfl
  | @groupDelete id hrow hfree => exact groupDelete_consistent hs hfree
  | txBegin => exact setTx_consistent hs (by simp)
  | @deleteMany groupId t removed ht hremoved =>
    refine setTx_consistent hs ?_
    rintro x hx row hrow
    obtain rfl := Option.some.inj hx
    exact hs.pending i t ht row hrow
  | @createMany data t ht hkeys =>
    refine setTx_consistent hs ?_
    rintro x hx row hrow
    obtain rfl := Option.some.inj hx
    rcases List.mem_append.1 hrow with hrow | hrow
    · exact hs.pending i t ht row hrow
    · exact createMany_joins hq hok hkeys row hrow
  | @txCommit t ht =>
    obtain ⟨htx, hlater⟩ := setTx_consistent (i := i) hs (t := none) (by simp)
    refine ⟨⟨htx.keys, htx.issued, htx.serves, fun row hrow => ?_, htx.pending⟩,
      hlater.issued, hlater.places⟩
    rcases List.mem_append.1 hrow with hrow | hrow
    · exact hs.joins row (List.mem_filter.1 hrow).1
    · exact hs.pending i t ht row hrow
  | failed => exact setTx_consistent hs (by simp)
  | lost h ih => exact ih hok

/-- What a move of the surroundings keeps. -/
theorem FleetTick.consistent (h : FleetTick s s') (hs : s.Consistent) : s'.Consistent ∧ Later s s' := by
  cases h with
  | created => exact hs.unmoved (fun kind => by cases kind <;> rfl) rfl hs.serves rfl rfl
  | @deleted id hfree => exact targetSystemDelete_consistent hs hfree
  | disconnected => exact setTx_consistent hs (by simp)

end Env

/-! ### The operations -/

/-- The operations that change the inventory. -/
inductive FleetCall
  | createCredentialProfile (targetSystemId : String) (body : Json)
  | updateCredentialProfile (id : String) (body : Json)
  | deleteCredentialProfile (id : String)
  | createHost (targetSystemId : String) (body : Json)
  | updateHost (id : String) (body : Json)
  | deleteHost (id : String)
  | createGroup (targetSystemId : String) (body : Json)
  | updateGroup (id : String) (body : Json)
  | deleteGroup (id : String)
  | setGroupHosts (groupId : String) (hostIds : List String)

section Calls

variable (numberText : ℚ → String) (encode : Json → Except JsError Column)

/-- The program of an operation; its result is shown to the caller only. -/
def FleetCall.prog : FleetCall → FleetProg Unit
  | createCredentialProfile targetSystemId body => do
    let _ ← LinuxFleetService.createCredentialProfile numberText targetSystemId body
  | updateCredentialProfile id body => do
    let _ ← LinuxFleetService.updateCredentialProfile numberText id body
  | deleteCredentialProfile id => LinuxFleetService.deleteCredentialProfile id
  | createHost targetSystemId body => do
    let _ ← LinuxFleetService.createHost numberText encode targetSystemId body
  | updateHost id body => do
    let _ ← LinuxFleetService.updateHost numberText encode id body
  | deleteHost id => LinuxFleetService.deleteHost id
  | createGroup targetSystemId body => do
    let _ ← LinuxFleetService.createGroup numberText targetSystemId body
  | updateGroup id body => do
    let _ ← LinuxFleetService.updateGroup numberText id body
  | deleteGroup id => LinuxFleetService.deleteGroup id
  | setGroupHosts groupId hostIds => do
    let _ ← LinuxFleetService.setGroupHosts groupId hostIds

variable [DecidableEq ι]

/-- Slot `i` runs the operation `calls i`. -/
def fleetSystem (calls : ι → FleetCall) : System ι (FleetState ι) AdminError FleetAns Unit where
  env := FleetEnv
  start i s p s' := p = (calls i).prog numberText encode ∧ s' = s
  tick := FleetTick

variable {numberText encode} {α β : Type} {q : Set Fact} {r : FleetReq}

/-- The rule of sequencing, for programs whose results do not matter: `R` is what the first part
learns. -/
theorem wp_then {p : FleetProg α} {f : α → FleetProg β} (R : Set Fact → α → Prop)
    (hp : p.wp fleetMonitor (fun q x => ∀ a, x = .ok a → R q a) q)
    (hf : ∀ q a, R q a → (f a).wp fleetMonitor (fun _ _ => True) q) :
    (p >>= f).wp fleetMonitor (fun _ _ => True) q := by
  rw [wp_bind]
  refine wp_mono hp ?_
  rintro q (e | a) h
  · trivial
  · exact hf q a (h a rfl)

theorem FleetReq.Allowed.mono {q' : Set Fact} (h : r.Allowed q) (hq : q ⊆ q') : r.Allowed q' := by
  cases r with
  | hostCreate data => exact fun p hp => hq (h p hp)
  | hostUpdate id data => exact fun p hp => (h p hp).imp fun _ ht => ⟨hq ht.1, hq ht.2⟩
  | groupHost statement =>
    cases statement with
    | deleteMany groupId => trivial
    | createMany data => exact fun row hrow => (h row hrow).imp fun _ ht => ⟨hq ht.1, hq ht.2⟩
  | _ => trivial

/-- A program that has the facts for all its requests from the beginning. -/
theorem wp_of_allowed {p : FleetProg α} (h : p.Issues (FleetReq.Allowed q)) :
    p.wp fleetMonitor (fun _ _ => True) q := by
  refine wp_mono (Issues.wp (I := (q ⊆ ·)) h (fun q' r hq hr => ⟨hr.mono hq, ?_⟩) subset_rfl)
    fun _ _ _ => trivial
  rintro a _ rfl
  exact hq.trans Set.subset_union_left

/-- A program that needs no fact, and then another one. -/
theorem wp_then_of_allowed {p : FleetProg α} {f : α → FleetProg β}
    (h : p.Issues fun r => ∀ q, r.Allowed q)
    (hf : ∀ q a, (f a).wp fleetMonitor (fun _ _ => True) q) :
    (p >>= f).wp fleetMonitor (fun _ _ => True) q :=
  wp_then (fun _ _ => True) (wp_mono (wp_of_allowed (h.mono fun _ hr => hr q))
    fun _ _ _ _ _ => trivial) fun q a _ => hf q a

/-- A last request. -/
theorem wp_last {k : FleetAns r → Except AdminError α} (hok : r.Allowed q) :
    (await r fun a => settle (k a) : FleetProg α).wp fleetMonitor (fun _ _ => True) q :=
  ⟨hok, fun _ _ _ => trivial⟩

theorem issues_requireLinuxTargetSystem (id : String) :
    (requireLinuxTargetSystem id).Issues fun r => ∀ q, r.Allowed q := by
  unfold requireLinuxTargetSystem
  refine Issues.bind ⟨fun _ => trivial, fun _ => trivial⟩ fun row => ?_
  cases row with
  | none => trivial
  | some row =>
    dsimp only
    split <;> trivial

/-- After the check of the profile that a body names, its target system is a fact. -/
theorem wp_requireNamedProfile (targetSystemId : String) (profileId : Option String) :
    (requireNamedProfile targetSystemId profileId).wp fleetMonitor (fun q' x => ∀ u, x = .ok u →
      q ⊆ q' ∧ ∀ p, profileId = some p → ⟨.profile, p, targetSystemId⟩ ∈ q') q := by
  cases profileId with
  | none =>
    intro u _
    exact ⟨subset_rfl, by simp⟩
  | some p =>
    refine ⟨trivial, ?_⟩
    rintro (e | row) q' rfl
    · intro u hu
      cases hu
    · cases row with
      | none =>
        intro u hu
        cases hu
      | some row =>
        intro u _
        refine ⟨Set.subset_union_left, ?_⟩
        rintro p' hp'
        obtain rfl := Option.some.inj hp'
        exact Or.inr rfl

theorem wp_createHost (targetSystemId : String) (body : Json) :
    (LinuxFleetService.createHost numberText encode targetSystemId body).wp fleetMonitor
      (fun _ _ => True) q := by
  unfold LinuxFleetService.createHost
  refine wp_then_of_allowed (issues_requireLinuxTargetSystem _) fun q _ => ?_
  refine wp_then_of_allowed issues_ofExcept fun q _ => ?_
  refine wp_then _ (wp_requireNamedProfile _ _) fun q' _ h => ?_
  refine wp_then (fun q'' _ => q'' = q') (fun _ _ => rfl) fun q'' metadata hq => ?_
  subst hq
  exact wp_last fun p hp => h.2 p hp

theorem wp_updateHost (id : String) (body : Json) :
    (LinuxFleetService.updateHost numberText encode id body).wp fleetMonitor
      (fun _ _ => True) q := by
  unfold LinuxFleetService.updateHost
  refine wp_then (fun q row => ∀ current, row = some current →
    ⟨.host, id, current.targetSystemId⟩ ∈ q) ?_ fun q row hrow => ?_
  · refine ⟨trivial, ?_⟩
    rintro (e | row) q' rfl
    · intro row hx
      cases hx
    · rintro _ hx current rfl
      obtain rfl := Except.ok.inj hx
      exact Or.inr rfl
  cases row with
  | none => trivial
  | some current =>
    have hhost := hrow current rfl
    refine wp_then (fun q' _ => q' = q) (fun _ _ => rfl) fun q' _ hq => ?_
    subst hq
    refine wp_then _ (wp_requireNamedProfile _ _) fun q'' _ h => ?_
    refine wp_then (fun q _ => q = q'') ?_ fun q metadata hq => ?_
    · cases (partialHostDto numberText body).metadata with
      | none => exact fun _ _ => rfl
      | some metadata =>
        unfold optionalJson
        rw [wp_bind]
        refine wp_mono (Q := fun q _ => q = q'') (by exact rfl) ?_
        rintro q (e | column) rfl
        · exact fun _ _ => rfl
        · exact fun _ _ => rfl
    subst hq
    refine wp_last fun p hp => ⟨current.targetSystemId, h.2 p ?_, h.1 hhost⟩
    cases hnamed : (partialHostDto numberText body).credentialProfileId with
    | none => simp [hnamed] at hp
    | some profileId => simpa [hnamed] using hp

theorem wp_setGroupHosts (groupId : String) (hostIds : List String) :
    (LinuxFleetService.setGroupHosts groupId hostIds).wp fleetMonitor (fun _ _ => True) q := by
  unfold LinuxFleetService.setGroupHosts
  refine wp_then (fun q row => ∀ group, row = some group →
    ⟨.group, groupId, group.targetSystemId⟩ ∈ q) ?_ fun q row hrow => ?_
  · refine ⟨trivial, ?_⟩
    rintro (e | row) q' rfl
    · intro row hx
      cases hx
    · rintro _ hx group rfl
      obtain rfl := Except.ok.inj hx
      exact Or.inr rfl
  cases row with
  | none => trivial
  | some group =>
    have hgroup := hrow group rfl
    refine wp_then (fun q' count => q ⊆ q' ∧ (count = hostIds.eraseDups.length →
      ∀ id ∈ hostIds.eraseDups, ⟨.host, id, group.targetSystemId⟩ ∈ q')) ?_ fun q' count hcount => ?_
    · refine ⟨trivial, ?_⟩
      rintro (e | count) q' rfl
      · intro count hx
        cases hx
      · intro _ hx
        obtain rfl := Except.ok.inj hx
        exact ⟨Set.subset_union_left, fun hlen id hid => Or.inr ⟨rfl, rfl, hid, hlen⟩⟩
    by_cases hlen : count = hostIds.eraseDups.length
    · have hallowed : (FleetReq.groupHost (.createMany
          (hostIds.eraseDups.map fun hostId => ⟨groupId, hostId⟩))).Allowed q' := by
        intro row hmem
        obtain ⟨id, hid, rfl⟩ := List.mem_map.1 hmem
        exact ⟨group.targetSystemId, hcount.1 hgroup, hcount.2 hlen id hid⟩
      rw [if_pos hlen]
      refine wp_of_allowed (Issues.bind ?_ fun _ => trivial)
      refine ⟨trivial, fun x => ?_⟩
      cases x with
      | error e => trivial
      | ok _ =>
        refine Issues.bind ?_ fun _ => ⟨trivial, fun _ => trivial⟩
        refine Issues.bind ⟨trivial, fun _ => trivial⟩ fun _ => ?_
        exact Issues.bind ⟨hallowed, fun _ => trivial⟩ fun _ => trivial
    · rw [if_neg hlen]
      trivial

/-- Every operation makes only writes for which it has the facts. -/
theorem FleetCall.wp (call : FleetCall) :
    (call.prog numberText encode).wp fleetMonitor (fun _ _ => True) q := by
  have hignore : ∀ {γ : Type} {p : FleetProg γ}, p.wp fleetMonitor (fun _ _ => True) q →
      (do let _ ← p : FleetProg Unit).wp fleetMonitor (fun _ _ => True) q := fun h =>
    wp_then (fun _ _ => True) (wp_mono h fun _ _ _ _ _ => trivial) fun _ _ _ => trivial
  cases call with
  | createCredentialProfile targetSystemId body =>
    refine hignore (wp_of_allowed ?_)
    refine Issues.bind ((issues_requireLinuxTargetSystem _).mono fun _ h => h q) fun _ => ?_
    refine Issues.bind issues_ofExcept fun _ => ?_
    exact Issues.bind ⟨trivial, fun _ => trivial⟩ fun _ => trivial
  | updateCredentialProfile id body =>
    refine hignore (wp_of_allowed ?_)
    refine Issues.bind ⟨trivial, fun _ => trivial⟩ fun row => ?_
    cases row with
    | none => trivial
    | some current =>
      refine Issues.bind issues_ofExcept fun _ => ?_
      exact Issues.bind ⟨trivial, fun _ => trivial⟩ fun _ => trivial
  | createHost targetSystemId body => exact hignore (wp_createHost targetSystemId body)
  | updateHost id body => exact hignore (wp_updateHost id body)
  | createGroup targetSystemId body =>
    refine hignore (wp_of_allowed ?_)
    refine Issues.bind ((issues_requireLinuxTargetSystem _).mono fun _ h => h q) fun _ => ?_
    exact Issues.bind issues_ofExcept fun _ => ⟨trivial, fun _ => trivial⟩
  | updateGroup id body =>
    refine hignore (wp_of_allowed ?_)
    refine Issues.bind ⟨trivial, fun _ => trivial⟩ fun row => ?_
    cases row with
    | none => trivial
    | some current => exact Issues.bind issues_ofExcept fun _ => ⟨trivial, fun _ => trivial⟩
  | setGroupHosts groupId hostIds => exact hignore (wp_setGroupHosts groupId hostIds)
  | deleteCredentialProfile id | deleteHost id | deleteGroup id => exact wp_last trivial

theorem fleetGuarded (calls : ι → FleetCall) :
    (fleetSystem numberText encode calls).Guarded fleetMonitor (fun _ _ _ => True) Known
      FleetState.Consistent where
  keeps hI hq hok henv := by
    obtain ⟨hI', hlater⟩ := henv.consistent hI hq hok
    refine ⟨hI', _, rfl, fun f hf => ?_⟩
    rcases hf with hf | hf
    · exact (hq f hf).later hlater
    · exact (henv.learned hI f hf).later hlater
  other hI hq hq' hok henv f hf := (hq f hf).later (henv.consistent hI hq' hok).2
  start := by
    rintro i s p s' hI ⟨rfl, rfl⟩
    exact ⟨hI, ∅, fun _ hf => hf.elim, (calls i).wp⟩
  start_other := by
    rintro i s q p s' - hq ⟨-, rfl⟩
    exact hq
  tick hI ht := by
    obtain ⟨hI', hlater⟩ := ht.consistent hI
    exact ⟨hI', fun q hq f hf => (hq f hf).later hlater⟩

end Calls

/-- In every state that any number of interleaved operations reach, starting without an inventory,
every host is served by a profile of its own target system and every membership joins a group and a
host of one target system. -/
theorem fleet_isolated [DecidableEq ι] (numberText : ℚ → String)
    (encode : Json → Except JsError Column) (calls : ι → FleetCall)
    (targetSystems : List TargetSystem)
    (es : List (Entry ι (FleetState ι) AdminError FleetAns Unit))
    (s : Pool ι (FleetState ι) AdminError FleetAns Unit)
    (hexec : (fleetSystem numberText encode calls).Exec (.idle (.empty targetSystems)) es s) :
    s.shared.Isolated :=
  ((fleetGuarded calls).invariant hexec (FleetState.consistent_empty targetSystems)).isolated

/-- A profile is created, and a host that it serves. -/
def exampleCalls : Bool → FleetCall
  | true => .createCredentialProfile "prod" (.obj [("name", .str "root"), ("username", .str "root"),
      ("privateKeyRef", .str "LINUX_KEY")])
  | false => .createHost "prod" (.obj [("name", .str "web"), ("host", .str "10.0.0.1"),
      ("hostFingerprint", .str "SHA256:web"), ("credentialProfileId", .str "profile")])

def exampleTarget : TargetSystem :=
  ⟨"prod", "prod", "linux", "Production", .native (.obj []), true, 0, 0⟩

theorem fleet_isolated_example :
    ∃ s : FleetState Bool, s.hosts.map LinuxHost.credentialProfileId = [some "profile"] ∧
      s.Isolated := by
  have h₀ := System.Exec.nil (S := fleetSystem (fun _ => "") (fun _ => .ok (.native .null))
    exampleCalls) (.idle (.empty [exampleTarget]))
  have h₁ := h₀.snoc (.start (i := true) rfl ⟨rfl, rfl⟩)
  have h₂ := h₁.snoc (.call (i := true) rfl .targetSystemFindUnique)
  have h₃ := h₂.snoc (.call (i := true) rfl (@FleetEnv.profileCreate Bool _ _ _ _ "profile"
    List.not_mem_nil ⟨exampleTarget, List.mem_cons_self, rfl⟩))
  have h₄ := h₃.snoc (.start (i := false) rfl ⟨rfl, rfl⟩)
  have h₅ := h₄.snoc (.call (i := false) rfl .targetSystemFindUnique)
  have h₆ := h₅.snoc (.call (i := false) rfl .profileFindFirst)
  have h₇ := h₆.snoc (.call (i := false) rfl (@FleetEnv.hostCreate Bool _ _ _ _ "host"
    (show "host" ∉ ["profile"] by decide) ⟨exampleTarget, List.mem_cons_self, rfl⟩
    (by rintro p ⟨rfl⟩; exact ⟨_, List.mem_cons_self, rfl⟩)))
  exact ⟨_, rfl, fleet_isolated _ _ exampleCalls [exampleTarget] _ _ h₇⟩

end IdmMw
