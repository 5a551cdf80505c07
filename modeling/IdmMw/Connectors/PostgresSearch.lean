import IdmMw.Connectors.Quoting
import IdmMw.Library.Like

/-!
# The groups that the PostgreSQL connector lists

The search matches names with `LIKE`, the other operations on groups compare a prefix and check a
grammar.

* `Catalogue`: the roles of a server, in the order of their names;
* `Accepts`: the operations on one group take the name for the role;
* `groupSearch_runs`: what the search gives;
* `listingAgrees_iff`: it gives accepted names only, if the first names that match have the prefix as a
  text and are identifiers. An accepted role that may not log in is found in any case.
-/

namespace IdmMw

open Async

namespace PostgresRoleConnectorService

/-- A row of `pg_roles`. -/
structure PgRole where
  rolname : String
  rolcanlogin : Bool
  deriving DecidableEq

/-- The roles of a server, each name once; `before` is the order of the names. -/
structure Catalogue (before : String → String → Prop) where
  roles : List PgRole
  names : (roles.map PgRole.rolname).Nodup
  sorted : (roles.map PgRole.rolname).Pairwise before

variable {js : Runtime} {before : String → String → Prop} {catalogue : Catalogue before}
  {payload : ConnectorPayload} {config data params : Json} {name pattern : String}

/-- `rolcanlogin = false AND rolname LIKE pattern ORDER BY rolname LIMIT 200`. -/
def Catalogue.page (catalogue : Catalogue before) (pattern : String) : List String :=
  ((catalogue.roles.filter fun role => !role.rolcanlogin && Like.like role.rolname pattern).map
    PgRole.rolname).take 200

/-- A row of the answer. -/
def groupRow (name : String) : Json := .obj [("role", .str name)]

/-- The query for the group roles is answered from the catalogue. -/
def Catalogue.AnswersSearch (catalogue : Catalogue before) : Async.Event PostgresAns → Prop
  | ⟨.query _ (.searchGroupRoles (some pattern)), a⟩ =>
    a = .ok ((catalogue.page pattern).map groupRow)
  | _ => True

/-! ### Names that are accepted -/

/-- A payload that gives the name for the role is one for the role of that name. -/
def Accepts (config : Json) (name : String) : Prop :=
  ∀ data params : Json, data.get? "role" = some (.str name) →
    roleName data params config = .ok name

theorem chars_of_isIdentifier {bound : ℕ} {text : List Char}
    (h : SqlAccounts.isIdentifier bound text = true) :
    text ≠ [] ∧ ∀ c ∈ text, c.isAlphanum = true ∨ c ∈ ['_', '@', '$', '.', '-'] := by
  cases text with
  | nil => cases h
  | cons first rest =>
    simp only [SqlAccounts.isIdentifier, Bool.and_eq_true, Bool.or_eq_true, List.all_eq_true,
      beq_iff_eq, List.contains_iff_mem] at h
    obtain ⟨⟨hfirst, -⟩, hrest⟩ := h
    refine ⟨List.cons_ne_nil _ _, fun c hc => ?_⟩
    rcases List.mem_cons.1 hc with rfl | hc
    · rcases hfirst with halpha | rfl
      · exact Or.inl (by simp [Char.isAlphanum, halpha])
      · exact Or.inr List.mem_cons_self
    · exact hrest c hc

theorem toNat_of_isAlphanum {c : Char} (h : c.isAlphanum = true) :
    48 ≤ c.toNat ∧ c.toNat ≤ 122 := by
  unfold Char.isAlphanum Char.isAlpha Char.isUpper Char.isLower Char.isDigit at h
  simp only [Bool.or_eq_true, Bool.and_eq_true, decide_eq_true_eq, UInt32.le_iff_toNat_le] at h
  have hc : c.toNat = c.val.toNat := rfl
  have hA : 'A'.val.toNat = 65 := rfl
  have hZ : 'Z'.val.toNat = 90 := rfl
  have ha : 'a'.val.toNat = 97 := rfl
  have hz : 'z'.val.toNat = 122 := rfl
  have h0 : '0'.val.toNat = 48 := rfl
  have h9 : '9'.val.toNat = 57 := rfl
  rcases h with (h | h) | h <;> omega

/-- No character of an identifier is a blank. -/
theorem not_isSpace_of_isIdentifier {bound : ℕ} {text : List Char}
    (h : SqlAccounts.isIdentifier bound text = true) : ∀ c ∈ text, isSpace c = false := by
  intro c hc
  have hrange : 0x21 ≤ c.toNat ∧ c.toNat ≤ 0x7A := by
    rcases (chars_of_isIdentifier h).2 c hc with halnum | hmem
    · have := toNat_of_isAlphanum halnum
      omega
    · simp only [List.mem_cons, List.not_mem_nil, or_false] at hmem
      rcases hmem with rfl | rfl | rfl | rfl | rfl <;> decide
  unfold isSpace
  simp only [List.contains_eq_mem, List.mem_cons, List.not_mem_nil, or_false,
    Bool.or_eq_false_iff, decide_eq_false_iff_not, Bool.and_eq_false_iff]
  omega

/-- An identifier is given as it is. -/
theorem stringValue_of_isIdentifier {bound : ℕ}
    (h : SqlAccounts.isIdentifier bound name.toList = true) :
    stringValue (some (.str name)) = some name := by
  have htrimmed : trimmed name = name.toList := trimChars_eq_self (not_isSpace_of_isIdentifier h)
  show nonBlank name = some name
  unfold nonBlank trim
  rw [htrimmed, if_neg (chars_of_isIdentifier h).1, String.ofList_toList]

/-- The names of the group roles that the operations act on. -/
theorem accepts_iff (hmode : rolePolicyMode config = .managedNamespace) :
    Accepts config name ↔ SqlAccounts.isIdentifier 62 name.toList = true ∧
      startsWith name (managedRolePrefix config) = true := by
  constructor
  · intro h
    have h := h (.obj [("role", .str name)]) (.obj []) rfl
    unfold roleName at h
    split at h
    · cases h
    · obtain ⟨validated, hvalidated, hnamed⟩ := bind_eq_ok.1 h
      obtain ⟨rfl, hvalid⟩ := SqlAccounts.isIdentifier_of_validate hvalidated
      split at hnamed
      · cases hnamed
      · next hprefix =>
        obtain rfl := Except.ok.inj hnamed
        refine ⟨hvalid, ?_⟩
        by_contra hne
        exact hprefix ⟨by rw [hmode]; decide, hne⟩
  · rintro ⟨hvalid, hprefix⟩ data params hrole
    have hvalue : SqlAccounts.roleValue data params = some name := by
      unfold SqlAccounts.roleValue firstString
      rw [hrole, List.findSome?_cons, stringValue_of_isIdentifier hvalid]
    have hvalidate : validateIdentifier name "PostgreSQL group role" = .ok name := if_pos hvalid
    unfold roleName
    rw [hvalue]
    refine bind_eq_ok.2 ⟨name, hvalidate, ?_⟩
    rw [if_neg fun h => h.2 hprefix]
    rfl

/-- A name that is accepted matches the pattern. -/
theorem like_of_accepts (hmode : rolePolicyMode config = .managedNamespace)
    (h : Accepts config name) : Like.like name (managedRolePrefix config ++ "%") = true := by
  obtain ⟨hvalid, hbegins⟩ := (accepts_iff hmode).1 h
  have hbegins := List.isPrefixOf_iff_prefix.1 hbegins
  have hchars : ∀ c ∈ (managedRolePrefix config).toList,
      c.isAlphanum = true ∨ c ∈ ['_', '@', '$', '.', '-'] :=
    fun c hc => (chars_of_isIdentifier hvalid).2 c (hbegins.subset hc)
  refine Like.like_of_prefix (fun hmem => ?_) (fun hmem => ?_) hbegins
  · exact absurd (hchars _ hmem) (by decide)
  · exact absurd (hchars _ hmem) (by decide)

/-! ### The search -/

/-- A search for groups, on a connection, in the managed namespace. -/
structure IsGroupSearch (payload : ConnectorPayload) (config : Json) : Prop where
  operation : payload.operation = "group.search"
  configured : payload.config = some config
  connected : isTruthy (config.get? "connectionString") = true
  mode : rolePolicyMode config = .managedNamespace

/-- The pattern that is searched for. -/
def groupPattern (config : Json) : String := managedRolePrefix config ++ "%"

theorem groupSearch_runs (hsearch : IsGroupSearch payload config)
    {t : List (Async.Event PostgresAns)} {value : Json} :
    (execute js payload).Runs t (.ok ⟨true, some value, none⟩) ↔ ∃ rows,
      t = [⟨.createPool config, .ok ()⟩,
        ⟨.query none (.searchGroupRoles (some (groupPattern config))), .ok rows⟩,
        ⟨.endPool, .ok ()⟩] ∧ value = items rows := by
  have hexecute : execute js payload = (do
      await (.createPool config) .settle
      ensuring
        (tryCatch (do
          let result ← searchGroupRoles config
          Pure.pure ⟨true, some result, none⟩) fun error =>
          Pure.pure ⟨false, none, some (js.safeConnectorErrorMessage error
            [some config, some payload.data, some payload.params])⟩)
        endPool) := by
    unfold execute
    rw [hsearch.configured, Option.filter_some, if_pos hsearch.connected, hsearch.operation]
    rfl
  rw [hexecute, runs_bind_ok]
  simp only [runs_ensuring, runs_attempt]
  unfold searchGroupRoles
  rw [hsearch.mode, if_neg (by decide)]
  constructor
  · rintro ⟨_, _, _, rfl, ⟨created, _, rfl, rfl, hcreated⟩, t₁, t₂, outcome, last, rfl,
      ⟨found, hquery, rfl⟩, ⟨ended, _, rfl, rfl, rfl⟩, hresult⟩
    obtain rfl := hcreated
    cases last with
    | error e => cases hresult
    | ok u =>
      have hresult := Except.ok.inj hresult
      cases found with
      | error e => cases hresult
      | ok found =>
        obtain rfl := Option.some.inj (congrArg ConnectorResult.data hresult)
        obtain ⟨rows, t₃, t₄, rfl, ⟨answer, _, rfl, rfl, hrows⟩, rfl, hfound⟩ :=
          runs_bind_ok.1 hquery
        obtain rfl := hrows
        exact ⟨rows, rfl, Except.ok.inj hfound⟩
  · rintro ⟨rows, rfl, rfl⟩
    exact ⟨(), [⟨.createPool config, .ok ()⟩], _, rfl, ⟨_, [], rfl, rfl, rfl⟩,
      [⟨.query none (.searchGroupRoles (some (groupPattern config))), .ok rows⟩],
      [⟨.endPool, .ok ()⟩], _, .ok (), rfl,
      ⟨.ok (items rows), ⟨.ok rows, [], rfl, rfl, rfl⟩, rfl⟩, ⟨_, [], rfl, rfl, rfl⟩, rfl⟩

/-! ### The law -/

/-- Every role that a search finds is accepted, and a role that is accepted and may not log in is found,
unless as many others are found as there is room for. -/
def ListingAgrees (js : Runtime) (catalogue : Catalogue before) (payload : ConnectorPayload) :
    Prop :=
  ∀ config, IsGroupSearch payload config → ∀ t rows,
    (execute js payload).Runs t (.ok ⟨true, some (items rows), none⟩) →
      (∀ e ∈ t, catalogue.AnswersSearch e) →
        (∀ row ∈ rows, ∃ name, row = groupRow name ∧ Accepts config name) ∧
          ∀ role ∈ catalogue.roles, role.rolcanlogin = false → Accepts config role.rolname →
            groupRow role.rolname ∈ rows ∨ rows.length = 200

theorem items_inj {rows rows' : List Json} (h : items rows = items rows') : rows = rows' := by
  unfold items at h
  simp only [Json.obj.injEq, List.cons.injEq, Prod.mk.injEq, Json.arr.injEq, true_and,
    and_true] at h
  exact h.1

/-- Each row that is found is a name of the page. -/
theorem accepts_of_agrees (h : ListingAgrees js catalogue payload)
    (hsearch : IsGroupSearch payload config) :
    ∀ name ∈ catalogue.page (groupPattern config), Accepts config name := by
  intro name hname
  obtain ⟨haccepts, -⟩ := h config hsearch _ _ ((groupSearch_runs hsearch).2 ⟨_, rfl, rfl⟩) (by
    intro e he
    simp only [List.mem_cons, List.not_mem_nil, or_false] at he
    rcases he with rfl | rfl | rfl
    · trivial
    · exact rfl
    · trivial)
  obtain ⟨found, hfound, haccepted⟩ := haccepts _ (List.mem_map_of_mem hname)
  simp only [groupRow, Json.obj.injEq, List.cons.injEq, Prod.mk.injEq, Json.str.injEq, true_and,
    and_true] at hfound
  exact hfound ▸ haccepted

/-- A role that is accepted is among the first that match, unless there are more. -/
theorem mem_page_of_accepts (hmode : rolePolicyMode config = .managedNamespace) {role : PgRole}
    (hrole : role ∈ catalogue.roles) (hlogin : role.rolcanlogin = false)
    (h : Accepts config role.rolname) :
    role.rolname ∈ catalogue.page (groupPattern config) ∨
      (catalogue.page (groupPattern config)).length = 200 := by
  have hmatch : role.rolname ∈ (catalogue.roles.filter fun role => !role.rolcanlogin &&
      Like.like role.rolname (groupPattern config)).map PgRole.rolname := by
    refine List.mem_map_of_mem (List.mem_filter.2 ⟨hrole, ?_⟩)
    have hlike : Like.like role.rolname (groupPattern config) = true := like_of_accepts hmode h
    rw [hlogin, hlike]
    rfl
  unfold Catalogue.page
  generalize (catalogue.roles.filter fun role => !role.rolcanlogin &&
      Like.like role.rolname (groupPattern config)).map PgRole.rolname = names at hmatch
  by_cases hfits : names.length ≤ 200
  · rw [List.take_of_length_le hfits]
    exact Or.inl hmatch
  · exact Or.inr (by rw [List.length_take]; omega)

/-- The listing agrees with the operations on groups exactly if each of the first names that match the
pattern is an identifier and begins with the prefix, with no character of it as a wildcard. -/
theorem listingAgrees_iff (js : Runtime) (catalogue : Catalogue before)
    (payload : ConnectorPayload) :
    ListingAgrees js catalogue payload ↔ ∀ config, IsGroupSearch payload config →
      ∀ name ∈ catalogue.page (groupPattern config),
        SqlAccounts.isIdentifier 62 name.toList = true ∧
          startsWith name (managedRolePrefix config) = true := by
  constructor
  · intro h config hsearch name hname
    exact (accepts_iff hsearch.mode).1 (accepts_of_agrees h hsearch name hname)
  · intro h config hsearch t found hrun hanswers
    obtain ⟨rows, rfl, hitems⟩ := (groupSearch_runs hsearch).1 hrun
    obtain rfl := items_inj hitems
    have hrows : (.ok found : Except JsError (List Json)) =
        .ok ((catalogue.page (groupPattern config)).map groupRow) :=
      hanswers ⟨.query none (.searchGroupRoles (some (groupPattern config))), .ok found⟩ (by simp)
    obtain rfl := Except.ok.inj hrows
    refine ⟨fun row hrow => ?_, fun role hrole hlogin haccepts => ?_⟩
    · obtain ⟨name, hname, rfl⟩ := List.mem_map.1 hrow
      exact ⟨name, rfl, (accepts_iff hsearch.mode).2 (h config hsearch name hname)⟩
    · rcases mem_page_of_accepts hsearch.mode hrole hlogin haccepts with hmem | hfull
      · exact Or.inl (List.mem_map_of_mem hmem)
      · exact Or.inr (by rw [List.length_map, hfull])

/-- One role, which may not log in. -/
def oneRole (before : String → String → Prop) (name : String) : Catalogue before where
  roles := [⟨name, false⟩]
  names := List.nodup_singleton name
  sorted := List.pairwise_singleton before name

/-- A search with the default prefix. -/
def defaultSearch : ConnectorPayload where
  operation := "group.search"
  targetSystem := "postgres"
  payload := .obj [("config", .obj [("connectionString", .str "postgres://db")])]

/-- The last character of the default prefix matches any character. -/
theorem not_listingAgrees_idmXadmin :
    ¬ ListingAgrees Runtime.ascii (oneRole (· ≤ ·) "idmXadmin") defaultSearch := by
  intro h
  have hsearch : IsGroupSearch defaultSearch (.obj [("connectionString", .str "postgres://db")]) :=
    ⟨rfl, rfl, by decide, by decide⟩
  have haccepts := accepts_of_agrees h hsearch "idmXadmin" (by decide)
  exact absurd ((accepts_iff hsearch.mode).1 haccepts).2 (by decide)

end PostgresRoleConnectorService

end IdmMw
