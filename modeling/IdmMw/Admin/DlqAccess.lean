import IdmMw.Admin.Grants

/-!
# Listing dead letters and acting on them

An administrator lists the dead letter queue, and skips or retries an item of it. The list filters by
the names of the readable target systems, if the session has to be restricted at all; an action looks
up the one target system of its item, and fails where it does not find it. An item should be listed
if and only if it may be acted on.

* `Shown`, `listed_iff`: the items whose names the filter lets through, all of which are listed if
  every payload among them can be decoded; else none is;
* `MayAct`, `authorised_iff`: the items that the check lets through;
* `ListsAsActs`, `listed_iff_authorised_iff`: where the two agree. They do not on an item of an unknown
  target system, which a superadmin sees and may not touch, nor on an item without a target system,
  which everyone may touch.
-/

namespace IdmMw

open OrderedMap AdminRbacService AdminService AdminController

variable {app : App} {db : AdminTables} {collation : Collation} {session : AdminUserSession}
  {item : DlqItem} {items : List DlqItem}

/-! ### The law -/

/-- The item belongs to the unfiltered listing. -/
def Listed (app : App) (db : AdminTables) (collation : Collation) (session : AdminUserSession)
    (item : DlqItem) : Prop :=
  ∃ views, getDlq app db collation session none none = .ok views ∧
    item ∈ views.map DlqItemView.item

/-- `skip` and `retry` of the item pass their check. -/
def Authorised (db : AdminTables) (collation : Collation) (session : AdminUserSession)
    (item : DlqItem) : Prop :=
  assertDlqRead db collation session item.id = .ok ()

/-- The payload of the item can be decoded. -/
def Decodes (app : App) (item : DlqItem) : Prop :=
  ∃ payload, JsonHelper.fromJson app item.payload = .ok payload

/-- A stored target system of that name is of a type on which the session has read permission. -/
def ReadableTarget (db : AdminTables) (session : AdminUserSession) (name : String) : Prop :=
  ∃ target ∈ db.targetSystems, target.name = name ∧
    HasGrant db (session.groups.getD []) target.type .read

/-- A target system of that name is stored. -/
def StoredTarget (db : AdminTables) (name : String) : Prop :=
  ∃ target ∈ db.targetSystems, target.name = name

/-! ### The listing -/

/-- The filter of the listing lets the item through. -/
def Shown (db : AdminTables) (session : AdminUserSession) (item : DlqItem) : Prop :=
  isSuperadminSession session = true ∨ ReadableTarget db session item.targetSystem

theorem dlqItemView_eq_ok_iff {view : DlqItemView} :
    dlqItemView app item = .ok view ↔
      view.item = item ∧ JsonHelper.fromJson app item.payload = .ok view.payload := by
  unfold dlqItemView
  cases hread : JsonHelper.fromJson app item.payload with
  | error e => simp
  | ok payload =>
    constructor
    · intro h
      obtain rfl := Except.ok.inj h
      exact ⟨rfl, rfl⟩
    · rintro ⟨rfl, hpayload⟩
      obtain rfl := Except.ok.inj hpayload
      rfl

/-- The listing is made of the items in their order, and of no item if one cannot be decoded. -/
theorem mapM_dlqItemView (app : App) (items : List DlqItem) :
    (∃ views, items.mapM (dlqItemView app) = .ok views ∧ views.map DlqItemView.item = items ∧
        ∀ item ∈ items, Decodes app item) ∨
      (∃ e, items.mapM (dlqItemView app) = .error e) ∧ ∃ item ∈ items, ¬ Decodes app item := by
  induction items with
  | nil => exact Or.inl ⟨[], rfl, rfl, fun _ h => absurd h List.not_mem_nil⟩
  | cons item items ih =>
    rw [List.mapM_cons]
    cases hview : dlqItemView app item with
    | error e =>
      refine Or.inr ⟨⟨e, rfl⟩, item, List.mem_cons_self, ?_⟩
      rintro ⟨payload, hpayload⟩
      have hok : dlqItemView app item = .ok ⟨item, payload⟩ :=
        dlqItemView_eq_ok_iff.2 ⟨rfl, hpayload⟩
      rw [hview] at hok
      cases hok
    | ok view =>
      obtain ⟨hitem, hpayload⟩ := dlqItemView_eq_ok_iff.1 hview
      rcases ih with ⟨views, hviews, hitems, hdecodes⟩ | ⟨⟨e, he⟩, other, hother, hnot⟩
      · refine Or.inl ⟨view :: views, by rw [hviews]; rfl, by rw [List.map_cons, hitem, hitems], ?_⟩
        exact List.forall_mem_cons.2 ⟨⟨view.payload, hpayload⟩, hdecodes⟩
      · exact Or.inr ⟨⟨e, by rw [he]; rfl⟩, other, List.mem_cons_of_mem _ hother, hnot⟩

/-- The query of the listing selects the items that are shown. -/
theorem selects_iff :
    DlqListing.selects { status := none, targetSystem := none, allowedTargetSystems :=
        targetSystemNamesForAccess db collation session .read } item = true ↔
      Shown db session item := by
  unfold Shown
  cases hsession : isSuperadminSession session with
  | true =>
    have hall : targetSystemNamesForAccess db collation session .read = none := by
      unfold targetSystemNamesForAccess allowedConnectorTypes
      dsimp only
      rw [effectivePermissions_superadmin, hsession]
      rfl
    rw [hall]
    exact iff_of_true rfl (Or.inl rfl)
  | false =>
    obtain ⟨names, hnames, hmem⟩ := @targetSystemNamesForAccess_spec db session collation .read
      hsession
    rw [hnames]
    show names.contains item.targetSystem = true ↔ _
    rw [List.contains_iff_mem, hmem]
    simp [ReadableTarget]

/-- Where no name is allowed, the service answers without the query, which would select nothing. -/
theorem findDlqItems_eq (params : DlqListing) (h : params.targetSystem = none) :
    findDlqItems app db params = (db.dlqItems.filter params.selects).mapM (dlqItemView app) := by
  unfold findDlqItems
  by_cases hnames : params.allowedTargetSystems = some []
  · have hselects : db.dlqItems.filter params.selects = [] := by
      rw [List.filter_eq_nil_iff]
      intro item _
      simp [DlqListing.selects, h, hnames]
    rw [if_pos hnames, hselects]
    rfl
  · rw [if_neg hnames]

/-- The payloads of all shown items can be decoded. -/
def ListingDecodes (app : App) (db : AdminTables) (session : AdminUserSession) : Prop :=
  ∀ item ∈ db.dlqItems, Shown db session item → Decodes app item

theorem listed_iff (hitem : item ∈ db.dlqItems) :
    Listed app db collation session item ↔
      Shown db session item ∧ ListingDecodes app db session := by
  unfold Listed getDlq
  rw [show (none : Option String).filter (· ≠ "") = none from rfl]
  dsimp only
  rw [findDlqItems_eq _ rfl]
  set params : DlqListing :=
    ⟨none, none, targetSystemNamesForAccess db collation session .read⟩ with hparams
  have hselects : ∀ other, other ∈ db.dlqItems.filter params.selects ↔
      other ∈ db.dlqItems ∧ Shown db session other := fun other => by
    rw [List.mem_filter, hparams, selects_iff]
  rcases mapM_dlqItemView app (db.dlqItems.filter params.selects) with
    ⟨views, hviews, hitems, hdecodes⟩ | ⟨⟨e, he⟩, other, hother, hnot⟩
  · rw [hviews]
    constructor
    · rintro ⟨_, heq, hmem⟩
      obtain rfl := Except.ok.inj heq
      rw [hitems, hselects] at hmem
      exact ⟨hmem.2, fun other hother hshown => hdecodes other ((hselects other).2 ⟨hother, hshown⟩)⟩
    · rintro ⟨hshown, -⟩
      refine ⟨views, rfl, ?_⟩
      rw [hitems, hselects]
      exact ⟨hitem, hshown⟩
  · rw [he]
    refine iff_of_false ?_ ?_
    · rintro ⟨_, heq, -⟩
      cases heq
    · rintro ⟨-, hdecodes⟩
      obtain ⟨hmem, hshown⟩ := (hselects other).1 hother
      exact hnot (hdecodes other hmem hshown)

/-! ### The check -/

/-- The check lets the item through: it has no target system, or its target system is stored and the
session may read its type. -/
def MayAct (db : AdminTables) (session : AdminUserSession) (item : DlqItem) : Prop :=
  item.targetSystem = "" ∨
    isSuperadminSession session = true ∧ StoredTarget db item.targetSystem ∨
    isSuperadminSession session = false ∧ ReadableTarget db session item.targetSystem

theorem authorised_iff (hitem : item ∈ db.dlqItems) :
    Authorised db collation session item ↔ MayAct db session item := by
  have hfind : db.dlqItems.find? (·.id = item.id) = some item :=
    (find?_key_iff db.dlqItems_nodup).2 ⟨hitem, rfl⟩
  unfold Authorised assertDlqRead findDlqItemTargetSystem MayAct
  rw [hfind, Option.map_some]
  by_cases hempty : item.targetSystem = ""
  · rw [hempty]
    exact iff_of_true rfl (Or.inl rfl)
  · rw [Option.filter_some, if_pos (by simpa using hempty), or_iff_right hempty]
    dsimp only
    unfold assertTargetSystemRead connectorTypeByTargetSystemName
    cases htarget : db.targetSystems.find? (·.name = item.targetSystem) with
    | none =>
      have hunknown : ¬ StoredTarget db item.targetSystem := by
        rintro ⟨target, hmem, hname⟩
        have hnot := List.find?_eq_none.1 htarget target hmem
        exact hnot (decide_eq_true hname)
      refine iff_of_false (fun h => by cases h) ?_
      rintro (⟨-, hstored⟩ | ⟨-, target, hmem, hname, -⟩)
      · exact hunknown hstored
      · exact hunknown ⟨target, hmem, hname⟩
    | some target =>
      obtain ⟨hmem, hname⟩ := (find?_key_iff db.targetSystems_nodup).1 htarget
      show assertRead db collation session target.type = .ok () ↔ _
      unfold assertRead
      cases hsession : isSuperadminSession session with
      | true =>
        have hread : canRead db collation session target.type = true := by
          unfold canRead
          dsimp only
          rw [effectivePermissions_superadmin, hsession, Bool.true_or]
        rw [if_pos hread]
        exact iff_of_true rfl (Or.inl ⟨rfl, target, hmem, hname⟩)
      | false =>
        have hreadable : ReadableTarget db session item.targetSystem ↔
            HasGrant db (session.groups.getD []) target.type .read := by
          constructor
          · rintro ⟨other, hother, hname', hgranted⟩
            rw [← hname] at hname'
            rwa [List.inj_on_of_nodup_map db.targetSystems_nodup hother hmem hname'] at hgranted
          · exact fun hgranted => ⟨target, hmem, hname, hgranted⟩
        rw [hreadable, ← @canRead_iff db collation session target.type hsession]
        by_cases hread : canRead db collation session target.type = true
        · rw [if_pos hread]
          exact iff_of_true rfl (Or.inr ⟨rfl, hread⟩)
        · rw [if_neg hread]
          refine iff_of_false (fun h => by cases h) ?_
          rintro (⟨h, -⟩ | ⟨-, h⟩)
          · cases h
          · exact hread h

/-! ### Where the two agree -/

/-- If the payloads of the shown items can be decoded: a superadmin's item has no target system or a
stored one, and another session's item has a target system, or the session may read one whose name is
empty. If not, the session may not act on the item. -/
def ListsAsActs (app : App) (db : AdminTables) (session : AdminUserSession) (item : DlqItem) :
    Prop :=
  ListingDecodes app db session ∧
      (isSuperadminSession session = true →
        item.targetSystem = "" ∨ StoredTarget db item.targetSystem) ∧
      (isSuperadminSession session = false → item.targetSystem = "" →
        ReadableTarget db session "") ∨
    ¬ ListingDecodes app db session ∧ ¬ MayAct db session item

/-- An item is listed if and only if it may be acted on, exactly under that condition. -/
theorem listed_iff_authorised_iff (hitem : item ∈ db.dlqItems) :
    (Listed app db collation session item ↔ Authorised db collation session item) ↔
      ListsAsActs app db session item := by
  rw [listed_iff hitem, authorised_iff hitem]
  unfold ListsAsActs Shown MayAct
  by_cases hdecodes : ListingDecodes app db session
  · cases hsession : isSuperadminSession session with
    | true => simp [hdecodes]
    | false =>
      by_cases hempty : item.targetSystem = ""
      · simp [hdecodes, hempty]
      · simp [hdecodes, hempty]
  · simp only [hdecodes, and_false, false_and, false_iff, false_or, not_false_eq_true, true_and]

/-! ### A dead letter of a deleted target system -/

/-- An item whose target system has been deleted. -/
def DlqItem.orphan : DlqItem :=
  ⟨"i1", "e1", "createUser", "deleted", .native .null, "", 3, .pending, none, none⟩

/-- That item, and nothing else. -/
def AdminTables.orphan : AdminTables where
  roles := []
  permissions := []
  mappings := []
  targetSystems := []
  dlqItems := [.orphan]
  roles_nodup := List.nodup_nil
  targetSystems_nodup := List.nodup_nil
  dlqItems_nodup := List.nodup_singleton _

/-- A session of the provider `local`. -/
def AdminUserSession.root : AdminUserSession := ⟨"root", "Root", .local, none, "csrf", 0⟩

/-- A session without groups is not shown the item, and may not act on it. -/
theorem listed_iff_authorised_guest :
    Listed .bare .orphan .codePoints (.oidc []) .orphan ↔
      Authorised .orphan .codePoints (.oidc []) .orphan := by
  refine (listed_iff_authorised_iff (List.mem_singleton_self _)).2 (Or.inl ⟨?_, ?_, ?_⟩)
  · intro item hitem _
    obtain rfl := List.mem_singleton.1 hitem
    exact ⟨.null, rfl⟩
  · intro h
    cases h
  · intro _ h
    exact absurd h (by decide)

/-- A superadmin is shown the item, and cannot act on it. -/
theorem not_listed_iff_authorised :
    DlqItem.orphan ∈ AdminTables.orphan.dlqItems ∧
      ¬ (Listed .bare .orphan .codePoints .root .orphan ↔
        Authorised .orphan .codePoints .root .orphan) := by
  refine ⟨List.mem_singleton_self _, fun h => ?_⟩
  have hauthorised := h.1 ⟨_, rfl, List.mem_singleton_self _⟩
  cases hauthorised

end IdmMw
