import IdmMw.Connectors.ConsultantUrls

/-!
# The protected operator of ConsultantPlus

* `renderedNames`: the names whose values a request for a user has, in its path and in what it sends;
  `renderPathTemplate_congr`, `renderPayloadTemplate_congr`: it has no others;
* `Denotes`: a text stands for the operator;
* `Targets`: a value that is rendered stands for the operator; `Overlooked`: the check of the payload
  does not find it;
* `touches_of_targets`: it finds every other;
* `spared_iff`: the operator is spared, unless a value is overlooked.
-/

namespace IdmMw

open Async

namespace ConsultantPlusConnectorService

variable {rt : ConsultantRuntime} {config : Json} {payload : ConnectorPayload}

/-! ### What is rendered -/

/-- A request for a user: it sends what no login sends. -/
def IsManaged : ConsultantReq → Prop
  | .request r => ¬ IsLoginData r.data
  | _ => False

/-- What a login asks is no request for a user. -/
theorem not_isManaged {r : ConsultantReq} (h : OnRequests (fun r => IsLoginData r.data) r) :
    ¬ IsManaged r := by
  cases r with
  | request r => exact not_not.2 h
  | random => exact not_false
  | httpsAgent tls => exact not_false

/-- The endpoint of an operation on a user. -/
def endpointOf (operation : String) : Option Endpoint :=
  match operation with
  | "user.create" => some userCreate
  | "user.update" => some userUpdate
  | "user.changePassword" => some userChangePassword
  | "user.delete" => some userDelete
  | "user.disable" | "user.lock" => some userBlock
  | _ => none

def pathNames : Json → List String
  | .str path => (pieces pathOpening path).filterMap Piece.name?
  | _ => []

mutual

def templateNames : Json → List String
  | .str text => (pieces bodyOpening text).filterMap Piece.name?
  | .arr items => itemsNames items
  | .obj fields => fieldsNames fields
  | _ => []

def itemsNames : List Json → List String
  | [] => []
  | item :: items => templateNames item ++ itemsNames items

def fieldsNames : Settings → List String
  | [] => []
  | (_, item) :: fields => templateNames item ++ fieldsNames fields

end

/-- The protected names of a body that has no template. -/
def fallbackNames (operation : String) : List String :=
  match operation with
  | "user.create" => protectedKeys
  | "user.delete" => ["managedLogin"]
  | _ => ["managedLogin", "email"]

/-- The names of a body. A template that is no object gives no body, or the properties of a value that
is an object. -/
def bodyNames (operation : String) (template : Option Json) : List String :=
  match template.filter Json.truthy with
  | none => fallbackNames operation
  | some (.obj fields) => fieldsNames fields
  | some _ => []

/-- The names whose values the request of an operation has. -/
def renderedNames (operation : String) (config : Json) : List String :=
  match endpointOf operation with
  | none => []
  | some endpoint => pathNames (itemOf (config.get? endpoint.pathKey)) ++
      bodyNames operation (config.get? endpoint.payloadKey)

/-! ### A rendering has no other values -/

section Congruence

variable {js : Runtime} {values values' : Properties}

/-- Two users have the same values under the names. -/
def Agree (values values' : Properties) (names : List String) : Prop :=
  ∀ name ∈ names, valueAt values name = valueAt values' name

theorem Agree.left {names more : List String} (h : Agree values values' (names ++ more)) :
    Agree values values' names := fun name hmem => h name (List.mem_append_left _ hmem)

theorem Agree.right {names more : List String} (h : Agree values values' (names ++ more)) :
    Agree values values' more := fun name hmem => h name (List.mem_append_right _ hmem)

theorem Agree.piece {ps : List Piece} (h : Agree values values' (ps.filterMap Piece.name?))
    {key : List Char} (hmem : Piece.name key ∈ ps) :
    valueAt values (String.ofList key) = valueAt values' (String.ofList key) :=
  h _ (List.mem_filterMap.2 ⟨_, hmem, rfl⟩)

theorem renderPathTemplate_congr {path : Json} (h : Agree values values' (pathNames path)) :
    renderPathTemplate js path values = renderPathTemplate js path values' := by
  cases path with
  | str path =>
    have hmissing : missingNames values (pieces pathOpening path) =
        missingNames values' (pieces pathOpening path) := by
      unfold missingNames
      congr 1
      exact List.filter_congr fun name hmem => congrArg isMissing (h name hmem)
    have htext : (pieces pathOpening path).flatMap (Piece.pathText js values) =
        (pieces pathOpening path).flatMap (Piece.pathText js values') := by
      refine List.flatMap_congr fun piece hmem => ?_
      cases piece with
      | char c => rfl
      | name key =>
        unfold Piece.pathText
        dsimp only
        rw [h.piece hmem]
    unfold renderPathTemplate
    dsimp only
    rw [hmissing, htext]
  | _ => rfl

theorem renderText_congr {text : String} (h : Agree values values' (templateNames (.str text))) :
    renderText js values text = renderText js values' text := by
  unfold templateNames at h
  unfold renderText
  split
  · next name hpieces =>
    rw [hpieces] at h
    exact h.piece (List.mem_singleton.2 rfl)
  · congr 3
    refine List.flatMap_congr fun piece hmem => ?_
    cases piece with
    | char c => rfl
    | name key =>
      unfold Piece.bodyText
      dsimp only
      rw [h.piece hmem]

mutual

theorem renderTemplateValue_congr : ∀ {template : Json},
    Agree values values' (templateNames template) →
      renderTemplateValue js values template = renderTemplateValue js values' template
  | .str _, h => renderText_congr h
  | .arr _, h => congrArg (Rendered.value <| Json.arr ·) (renderItems_congr h)
  | .obj _, h => congrArg (Rendered.value <| Json.obj ·) (renderFields_congr h)
  | .null, _ => rfl
  | .bool _, _ => rfl
  | .num _, _ => rfl

theorem renderItems_congr : ∀ {items : List Json}, Agree values values' (itemsNames items) →
    renderItems js values items = renderItems js values' items
  | [], _ => rfl
  | item :: items, h => by
    unfold renderItems
    rw [renderTemplateValue_congr h.left, renderItems_congr h.right]

theorem renderFields_congr : ∀ {fields : Settings}, Agree values values' (fieldsNames fields) →
    renderFields js values fields = renderFields js values' fields
  | [], _ => rfl
  | (key, item) :: fields, h => by
    unfold renderFields
    rw [renderTemplateValue_congr h.left, renderFields_congr h.right]

end

theorem renderPayloadTemplate_congr {fields fallback : Settings}
    (h : Agree values values' (fieldsNames fields)) :
    renderPayloadTemplate js (some (.obj fields)) values fallback =
      renderPayloadTemplate js (some (.obj fields)) values' fallback := by
  show renderEntries js values fields = renderEntries js values' fields
  unfold renderEntries
  congr 1
  induction fields with
  | nil => rfl
  | cons entry fields ih =>
    rw [List.map_cons, List.map_cons, ih h.right, renderTemplateValue_congr h.left]

end Congruence

/-! ### Who a text stands for -/

/-- The text is the login, has it as the local part of an e-mail, or as the part after the last `#`. -/
def Denotes (text login : String) : Prop :=
  text = login ∨
  (∃ domain, text.toList = login.toList ++ '@' :: domain ∧ '@' ∉ login.toList) ∨
  ∃ before, text.toList = before ++ '#' :: login.toList ∧ '#' ∉ login.toList

theorem mem_textCandidates {text login : String} (hlogin : login ≠ "") (h : Denotes text login) :
    login ∈ textCandidates text := by
  have hnil : login.toList ≠ [] := fun hnil => hlogin (String.toList_eq_nil_iff.1 hnil)
  unfold textCandidates
  rcases h with rfl | ⟨domain, htext, hnot⟩ | ⟨before, htext, hnot⟩
  · exact List.mem_cons_self
  · refine List.mem_cons_of_mem _ (List.mem_append_left _ (Option.mem_toList.2 ?_))
    refine Option.filter_eq_some_iff.2 ⟨?_, decide_eq_true hlogin⟩
    have hkeep : ∀ c ∈ login.toList, decide (c ≠ '@') = true := by
      intro c hc
      refine decide_eq_true ?_
      rintro rfl
      exact hnot hc
    have hlocal : text.toList.takeWhile (· ≠ '@') = login.toList := by
      rw [htext, List.takeWhile_append_of_pos hkeep]
      exact List.append_nil _
    have hat : '@' ∈ text.toList := by
      rw [htext]
      exact List.mem_append_right _ List.mem_cons_self
    unfold emailLocalPart
    rw [Option.filter_some, if_pos (decide_eq_true hat), Option.map_some, hlocal,
      String.ofList_toList]
  · refine List.mem_cons_of_mem _ (List.mem_append_right _ ?_)
    have hhash : '#' ∈ text.toList := by
      rw [htext]
      exact List.mem_append_right _ List.mem_cons_self
    have hparts : text.toList.splitOn '#' = before.splitOn '#' ++ [login.toList] := by
      rw [htext, List.splitOn_append_cons_self, List.splitOn_eq_singleton hnot]
    have hkeep : [login.toList].filter (· ≠ []) = [login.toList] := by
      rw [List.filter_singleton, decide_eq_true hnil]
      rfl
    rw [if_pos hhash, hparts, List.filter_append, hkeep, List.getLast?_concat, Option.map_some,
      String.ofList_toList]
    exact List.mem_singleton.2 rfl

/-! ### The values of a user -/

/-- The names whose values the payload alone decides. -/
def givenNames : List String := ["id", "userId"]

theorem own_given {key : String} (hkey : key ∈ givenNames) (data : Settings) (drawn : String) :
    own (userValues rt.js config data drawn) key = data.lookup key := by
  have hmap : (data.map fun entry => (entry.1, some entry.2)).lookup key =
      (data.lookup key).map some := Properties.lookup_map_some data (fun value => value) key
  unfold own userValues
  dsimp only
  rw [OrderedMap.lookup_assign, hmap]
  have hjoin : ((none : Option (Option Json)).or ((data.lookup key).map some)).join =
      data.lookup key := by
    cases data.lookup key <;> rfl
  rcases List.mem_pair.1 hkey with rfl | rfl <;> exact hjoin

/-- All others are texts, and what is drawn is not among them. -/
theorem own_derived {key : String} (hkey : key ∈ protectedKeys) (hgiven : key ∉ givenNames)
    (data : Settings) : ∃ text : Option String, ∀ drawn,
      own (userValues rt.js config data drawn) key = text.map .str := by
  unfold protectedKeys at hkey
  simp only [List.mem_cons, List.not_mem_nil, or_false] at hkey
  rcases hkey with rfl | rfl | rfl | rfl | rfl | rfl | rfl | rfl
  case inr.inr.inl => exact absurd (List.mem_pair.2 (Or.inl rfl)) hgiven
  case inr.inr.inr.inl => exact absurd (List.mem_pair.2 (Or.inr rfl)) hgiven
  all_goals
    apply Exists.intro
    intro drawn
    unfold own userValues
    dsimp only
    rw [OrderedMap.lookup_assign]
    rfl

/-- What is drawn is no value of a protected name. -/
theorem own_drawn {key : String} (hkey : key ∈ protectedKeys) (data : Settings)
    (drawn drawn' : String) : own (userValues rt.js config data drawn) key =
      own (userValues rt.js config data drawn') key := by
  by_cases hgiven : key ∈ givenNames
  · rw [own_given hgiven, own_given hgiven]
  · obtain ⟨text, htext⟩ : ∃ text : Option String, ∀ drawn,
      own (userValues rt.js config data drawn) key = text.map .str := own_derived hkey hgiven data
    rw [htext, htext]

/-! ### Targets -/

def isScalar : Json → Bool
  | .null | .bool _ | .num _ | .str _ => true
  | .arr _ | .obj _ => false

/-- The text of the value, as it is rendered, stands for the operator. -/
def IsOperator (rt : ConsultantRuntime) (config v : Json) : Prop :=
  isScalar v = true ∧ Denotes (scalarString rt.js (.value v))
    ((protectedOperatorLogin config).toText rt.js.numberText)

/-- A value of a protected name that is rendered stands for the operator. -/
def Targets (rt : ConsultantRuntime) (payload : ConnectorPayload) (config : Json) : Prop :=
  ∃ drawn, ∃ key ∈ protectedKeys, key ∈ renderedNames payload.operation config ∧
    ∃ v, own (userValues rt.js config (userData payload) drawn) key = some v ∧ IsOperator rt config v

/-- The check compares texts with a text: a number, a truth value or `null` is overlooked, and all
values are where the login that is protected is no text, or empty. -/
def Overlooked (rt : ConsultantRuntime) (payload : ConnectorPayload) (config : Json) : Prop :=
  (∃ key ∈ givenNames, key ∈ renderedNames payload.operation config ∧
    ∃ v, (userData payload).lookup key = some v ∧ (∀ text, v ≠ .str text) ∧ IsOperator rt config v) ∨
  stringValue (some (protectedOperatorLogin config)) = none ∧ Targets rt payload config

theorem targets_of_overlooked (h : Overlooked rt payload config) : Targets rt payload config := by
  rcases h with ⟨key, hgiven, hrendered, v, hv, -, hoperator⟩ | ⟨-, h⟩
  · have hkey : key ∈ protectedKeys := by
      rcases List.mem_pair.1 hgiven with rfl | rfl <;> decide
    exact ⟨"", key, hkey, hrendered, v, (own_given hgiven _ _).trans hv, hoperator⟩
  · exact h

theorem stringValue_eq_some {v : Option Json} {text : String} (h : stringValue v = some text) :
    v = some (.str text) ∧ text ≠ "" := by
  unfold stringValue at h
  split at h
  · split at h
    · cases h
    · next hne =>
      obtain rfl := Option.some.inj h
      exact ⟨rfl, hne⟩
  · cases h

theorem Denotes.ne_empty {text login : String} (hlogin : login ≠ "") (h : Denotes text login) :
    text ≠ "" := by
  rintro rfl
  rcases h with rfl | ⟨domain, htext, -⟩ | ⟨before, htext, -⟩
  · exact hlogin rfl
  · exact absurd htext.symm (List.append_ne_nil_of_right_ne_nil _ (List.cons_ne_nil _ _))
  · exact absurd htext.symm (List.append_ne_nil_of_right_ne_nil _ (List.cons_ne_nil _ _))

/-- The check finds all other targets. -/
theorem touches_of_targets (h : Targets rt payload config) (hnot : ¬ Overlooked rt payload config)
    (drawn : String) :
    touchesProtectedOperator config (userValues rt.js config (userData payload) drawn) = true := by
  have hlogin : ∃ login, stringValue (some (protectedOperatorLogin config)) = some login := by
    refine Option.ne_none_iff_exists'.1 fun hnone => hnot (Or.inr ⟨hnone, h⟩)
  obtain ⟨login, hlogin⟩ := hlogin
  obtain ⟨hprotected, hne⟩ := stringValue_eq_some hlogin
  have hprotected := Option.some.inj hprotected
  obtain ⟨drawn', key, hkey, hrendered, v, hv, hscalar, hdenotes⟩ := h
  have hv := (own_drawn hkey _ drawn drawn').trans hv
  have htext : ∃ text, v = .str text := by
    by_contra hnone
    have hother : ∀ text, v ≠ .str text := fun text heq => hnone ⟨text, heq⟩
    by_cases hgiven : key ∈ givenNames
    · rw [own_given hgiven] at hv
      exact hnot (Or.inl ⟨key, hgiven, hrendered, v, hv, hother, hscalar, hdenotes⟩)
    · obtain ⟨text, htext⟩ : ∃ text : Option String, ∀ drawn,
        own (userValues rt.js config (userData payload) drawn) key = text.map .str :=
        own_derived hkey hgiven _
      obtain ⟨text, -, heq⟩ := Option.map_eq_some_iff.1 ((htext drawn).symm.trans hv)
      exact hother text heq.symm
  obtain ⟨text, rfl⟩ := htext
  rw [hprotected] at hdenotes
  have hdenotes : Denotes text login := hdenotes
  have hvalue : stringValue (some (.str text)) = some text := if_neg (hdenotes.ne_empty hne)
  unfold touchesProtectedOperator protectedTargetCandidates
  refine List.any_eq_true.2 ⟨login, List.mem_flatMap.2 ⟨key, hkey, ?_⟩, ?_⟩
  · rw [hv, hvalue]
    exact mem_textCandidates hne hdenotes
  · rw [hprotected]
    exact decide_eq_true rfl

/-! ### The check -/

theorem drawValues_runs {data : Settings} {t : List (Event ConsultantAns)} {values : Properties}
    (h : (drawValues rt config data).Runs t (.ok values)) :
    ∃ drawn, values = userValues rt.js config data drawn := by
  unfold drawValues at h
  split at h
  · obtain ⟨rfl, hvalues⟩ := h
    exact ⟨"", Except.ok.inj hvalues⟩
  · obtain ⟨drawn, t', -, -, hvalues⟩ := h
    exact ⟨drawn, Except.ok.inj hvalues⟩

/-- Nothing is sent for a user who is found to be the operator. -/
theorem managedUserOperation_refused {operation : String} {endpoint : Endpoint}
    {fallback : Properties → Settings} {data : Settings} {rawPayloads : List Settings}
    (h : ∀ drawn, touchesProtectedOperator config (userValues rt.js config data drawn) = true) :
    (managedUserOperation rt operation endpoint fallback config data rawPayloads).Issues
      (OnRequests fun r => IsLoginData r.data) := by
  have hrefused : ∀ drawn, ∃ error, validateManagedUserOperation rt.js operation
      (userValues rt.js config data drawn) config rawPayloads = some error := by
    intro drawn
    unfold validateManagedUserOperation
    split
    · exact ⟨_, rfl⟩
    · exact ⟨_, if_pos (h drawn)⟩
  refine drawValues_issues.bind_of_runs fun t values hvalues => ?_
  obtain ⟨drawn, rfl⟩ := drawValues_runs hvalues
  obtain ⟨error, herror⟩ := hrefused drawn
  rw [herror]
  exact issues_pure

/-! ### Who is spared -/

theorem admitsLogin_data (config : Json) :
    AdmitsLogin rt config fun r => IsLoginData r.data where
  page := fun _ _ _ _ _ _ _ _ hdata => hdata
  returned := fun _ _ _ _ _ _ => trivial

/-- Some request for a user may be sent. -/
def MaySend (rt : ConsultantRuntime) (payload : ConnectorPayload) : Prop :=
  ¬ (execute rt payload).Issues fun r => ¬ IsManaged r

/-- A request for a user is sent only if the check does not find the operator. -/
theorem not_touches_of_maySend (h : MaySend rt payload) : ¬ ∀ drawn,
    touchesProtectedOperator (resolveConfig rt (itemOf payload.config))
      (userValues rt.js (resolveConfig rt (itemOf payload.config)) (userData payload) drawn) =
        true := by
  intro htouches
  have hlogin : (execute rt payload).Issues (OnRequests fun r => IsLoginData r.data) :=
    execute_issues (fun _ _ _ _ _ => managedUserOperation_refused htouches)
      (testConnection_issues fun _ => admitsLogin_data _)
  exact h (hlogin.mono fun _ => not_isManaged)

/-- The values of a request for a user do not stand for the operator, unless the check overlooks one
that is sent. -/
theorem spared_iff : ((execute rt payload).Issues fun r => IsManaged r →
      ¬ Targets rt payload (resolveConfig rt (itemOf payload.config))) ↔
    (MaySend rt payload → ¬ Overlooked rt payload (resolveConfig rt (itemOf payload.config))) := by
  rw [issues_imp_iff]
  refine forall_congr' fun hsend => not_congr ⟨fun htargets => ?_, targets_of_overlooked⟩
  by_contra hnot
  exact not_touches_of_maySend hsend (touches_of_targets htargets hnot)

/-! ### A number -/

/-- Users are deleted by their id. -/
def deleteConfig : Json := .obj [("baseUrl", .str "https://login.consultant.ru"),
  ("login", .str "admin"), ("password", .str "secret"), ("userDeletePath", .str "/users/\x7bid\x7d")]

/-- The id of the operator, as a number, beside that of another user. -/
def operatorById : ConnectorPayload where
  operation := "user.delete"
  targetSystem := "ConsultantPlus"
  payload := .obj [("config", deleteConfig),
    ("params", .obj [("userId", .str "42"), ("id", .num 1393020)])]

def loginPage : ConsultantResponse :=
  ⟨200, none, none, some (.str "name=\"client_csrf\" value=\"t\"")⟩

def loggedIn : ConsultantResponse :=
  ⟨200, none, none, some (.obj [("authStatus", .str "successful")])⟩

theorem targets_operatorById : Targets .ascii operatorById (resolveConfig .ascii deleteConfig) :=
  ⟨"", "id", by decide, by decide, .num 1393020, rfl, rfl, Or.inl rfl⟩

/-- The operator is deleted. -/
theorem not_spared : ¬ ((execute .ascii operatorById).Issues fun r => IsManaged r →
    ¬ Targets .ascii operatorById (resolveConfig .ascii deleteConfig)) := by
  intro h
  exact (((h.2 "0").2 (.ok loginPage)).2 (.ok loggedIn)).1 (fun hdata => hdata) targets_operatorById

end ConsultantPlusConnectorService

end IdmMw
