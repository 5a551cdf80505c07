import IdmMw.Model.GroupMapping

/-!
# What the connectors for database accounts share

The connectors for MSSQL logins and for PostgreSQL roles read a payload in the same way, up to a bound
on identifiers and to the name of the product in their messages.

* `validateIdentifier`: the identifiers that are accepted;
* `requestedRoles`, `requestedPermissions`: the roles and the permissions of a payload, with those of
  the configuration, as they come;
* `permissionName`: the names of permissions;
* `ensuring`: what is done in any case at the end.
-/

namespace IdmMw

/-- `try { body } finally { cleanup }`. -/
def ensuring {ε R α : Type} {A : R → Type} (body : Async ε A α) (cleanup : Async ε A Unit) :
    Async ε A α :=
  body.andThen fun outcome => cleanup.andThen fun
    | .ok () => .settle outcome
    | .error error => .settle (.error error)

/-- What comes of a body and of what is done at the end. -/
def endResult {ε α : Type} (outcome : Except ε α) : Except ε Unit → Except ε α
  | .ok () => outcome
  | .error error => .error error

section Ensuring

variable {ε R α σ : Type} {A : R → Type} {body : Async ε A α} {cleanup : Async ε A Unit}

theorem runs_ensuring {t : List (Async.Event A)} {x : Except ε α} :
    (ensuring body cleanup).Runs t x ↔ ∃ t₁ t₂ outcome last, t = t₁ ++ t₂ ∧
      body.Runs t₁ outcome ∧ cleanup.Runs t₂ last ∧ x = endResult outcome last := by
  unfold ensuring
  rw [Async.runs_andThen]
  constructor
  · rintro ⟨t₁, t', outcome, rfl, hbody, hend⟩
    obtain ⟨t₂, t₃, last, rfl, hcleanup, hlast⟩ := Async.runs_andThen.1 hend
    cases last with
    | ok u =>
      obtain ⟨rfl, hx⟩ := hlast
      exact ⟨t₁, t₂, outcome, .ok u, by simp, hbody, hcleanup, hx⟩
    | error error =>
      obtain ⟨rfl, hx⟩ := hlast
      exact ⟨t₁, t₂, outcome, .error error, by simp, hbody, hcleanup, hx⟩
  · rintro ⟨t₁, t₂, outcome, last, rfl, hbody, hcleanup, rfl⟩
    refine ⟨t₁, t₂, outcome, rfl, hbody, Async.runs_andThen.2 ⟨t₂, [], last, by simp, hcleanup, ?_⟩⟩
    cases last with
    | ok u => exact ⟨rfl, rfl⟩
    | error error => exact ⟨rfl, rfl⟩

theorem wp_ensuring {M : Async.Monitor σ A} {Q : σ → Except ε α → Prop} {s : σ} :
    (ensuring body cleanup).wp M Q s ↔ body.wp M (fun s outcome =>
      cleanup.wp M (fun s last => Q s (endResult outcome last)) s) s := by
  unfold ensuring
  rw [Async.wp_andThen]
  refine iff_of_eq (congrArg (body.wp M · s) ?_)
  funext s outcome
  rw [Async.wp_andThen]
  refine congrArg (cleanup.wp M · s) ?_
  funext s last
  cases last <;> rfl

theorem issues_ensuring {P : R → Prop} (hbody : body.Issues P) (hcleanup : cleanup.Issues P) :
    (ensuring body cleanup).Issues P :=
  hbody.andThen fun _ => hcleanup.andThen fun
    | .ok () => Async.issues_settle
    | .error _ => Async.issues_settle

end Ensuring

namespace SqlAccounts

variable (js : Runtime)

/-- `/^[A-Za-z_][A-Za-z0-9_@$.-]{0,bound}$/`. -/
def isIdentifier (bound : ℕ) : List Char → Bool
  | [] => false
  | c :: cs => (c.isAlpha || c == '_') && cs.length ≤ bound &&
      cs.all fun c => c.isAlphanum || ['_', '@', '$', '.', '-'].contains c

def validateIdentifier (bound : ℕ) (value label : String) : Except JsError String :=
  if isIdentifier bound value.toList then .ok value else .error (.error s!"Invalid {label}")

theorem isIdentifier_of_validate {bound : ℕ} {value label result : String}
    (h : validateIdentifier bound value label = .ok result) :
    result = value ∧ isIdentifier bound value.toList = true := by
  unfold validateIdentifier at h
  split at h
  · next hvalid => exact ⟨(Except.ok.inj h).symm, hvalid⟩
  · cases h

/-- `/^[A-Z][A-Z0-9_ ]{0,63}$/`. -/
def isPermissionName : List Char → Bool
  | [] => false
  | c :: cs => c.isUpper && cs.length ≤ 63 &&
      cs.all fun c => c.isUpper || c.isDigit || c == '_' || c == ' '

def permissionName (product : String) (value : Option Json) : Except JsError String :=
  match firstString [value] with
  | none => .error (.error s!"Invalid {product} permission name")
  | some text =>
    if isPermissionName (js.toUpperCase text).toList then .ok (js.toUpperCase text)
    else .error (.error s!"Invalid {product} permission name")

theorem isPermissionName_of_permissionName {js : Runtime} {product permission : String}
    {value : Option Json} (h : permissionName js product value = .ok permission) :
    isPermissionName permission.toList = true := by
  unfold permissionName at h
  split at h
  · cases h
  · split at h
    · next hvalid =>
      obtain rfl := Except.ok.inj h
      exact hvalid
    · cases h

/-- What follows the prefix. -/
def afterPrefix (pre : String) (text : List Char) : Option (List Char) :=
  if pre.toList.isPrefixOf text then some (text.drop pre.length) else none

theorem afterPrefix_eq_some {pre : String} {text rest : List Char}
    (h : afterPrefix pre text = some rest) : text = pre.toList ++ rest := by
  unfold afterPrefix at h
  split at h
  · next hprefix =>
    obtain ⟨rest', hrest⟩ := List.isPrefixOf_iff_prefix.1 hprefix
    obtain rfl := Option.some.inj h
    rw [← hrest, ← String.length_toList, List.drop_left]
  · cases h

theorem drop_of_afterPrefix {pre : String} {text rest : List Char}
    (h : afterPrefix pre text = some rest) : text.drop pre.length = rest := by
  rw [afterPrefix_eq_some h, ← String.length_toList, List.drop_left]

/-- The items of an array. -/
def arrayItems : Option Json → List Json
  | some (.arr items) => items
  | _ => []

/-- The items that are texts. -/
def textItems (items : List Json) : List String :=
  items.filterMap fun
    | .str text => some text
    | _ => none

/-- `[...defaults, ...defaultGroups, ...payloadRoles, ...mappedGroups]`, those that are texts and not
empty; `defaultsKey` is where the configuration has the default roles. -/
def requestedRoles (defaultsKey : String) (config data : Json) (includeDefaults : Bool) :
    Except JsError (List String) := do
  let payloadRoles := textItems (arrayItems (data.get? "roles"))
  let mapping ← groupMappingSettings config
  let mappedGroups ← if mapping.enabled then
      groupRefTexts js (data.get? "groups") mapping.mode "groups"
    else pure []
  let defaultGroups ←
    if includeDefaults && mapping.enabled && (config.get? "defaultGroups").isSome then
      groupRefTexts js (config.get? "defaultGroups") mapping.mode "defaultGroups"
    else pure []
  let defaults ← if includeDefaults then spread (config.get? defaultsKey) else pure []
  pure ((textItems defaults ++ defaultGroups ++ payloadRoles ++ mappedGroups).filter (· ≠ ""))

def requestedPermissions (config data : Json) (includeDefaults : Bool) :
    Except JsError (List Json) := do
  let defaults ← if includeDefaults then spread (config.get? "defaultPermissions") else pure []
  pure (defaults ++ arrayItems (data.get? "permissions"))

/-- `firstString(data.role, data.name, data.group, params['role'], params['name'], params['group'])`. -/
def roleValue (data params : Json) : Option String :=
  firstString [data.get? "role", data.get? "name", data.get? "group", params.get? "role",
    params.get? "name", params.get? "group"]

/-- `firstString(data.newValue, data.password)`, or the empty text where it is not required. -/
def passwordValue (missing : String) (data : Json) (required : Bool) : Except JsError String :=
  match firstString [data.get? "newValue", data.get? "password"] with
  | some value => .ok value
  | none => if required then .error (.error missing) else .ok ""

/-- `` `${config[key] ?? ''}${value}`.trim() ``. -/
def prefixed (key : String) (config : Json) (value : String) : String :=
  trim (textOr js (config.get? key) "" ++ value)

end SqlAccounts

end IdmMw
