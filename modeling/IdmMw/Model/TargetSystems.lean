import IdmMw.Library.OrderedMap
import IdmMw.Model.Encryption
import Mathlib.Data.List.DropRight

/-!
# Target systems

The rows of the table `TargetSystem`, and what the administration does to their configurations.

* `isSecretKey`, `redactSecrets`, `mergeConfigPreservingSecrets`: what an administrator is shown of a
  configuration, and what becomes of one that is sent back;
* `TargetSystemService.validateTargetSystemConfig`: the settings a type of connector allows;
* `TargetSystemService`: the operations. A statement of the database is a parameter, by what it
  answers.

A configuration is the list of its settings, in their order (`Settings`).
-/

namespace IdmMw

/-! ### Rows and errors -/

/-- A row of the table `TargetSystem`. -/
structure TargetSystem where
  id : String
  name : String
  type : String
  label : String
  config : Column
  enabled : Bool
  createdAt : Time
  updatedAt : Time

/-- A JSON object. -/
abbrev Settings := List (String × Json)

/-- What the administration services throw: an exception of the framework, or another error. -/
inductive AdminError
  | badRequest (message : String)
  | forbidden (message : String)
  | notFound (message : String)
  | conflict (message : String)
  | error (e : JsError)

/-- What a statement that writes a row may fail with: the name is taken, there is no such row, or
something else. -/
inductive PrismaError
  | P2002
  | P2025
  | other (e : JsError)

/-! ### Texts -/

/-- White space and line terminators, which `trim` takes off. -/
def isSpace (c : Char) : Bool :=
  [0x09, 0x0A, 0x0B, 0x0C, 0x0D, 0x20, 0xA0, 0x1680, 0x2028, 0x2029, 0x202F, 0x205F, 0x3000,
    0xFEFF].contains c.toNat || (0x2000 ≤ c.toNat && c.toNat ≤ 0x200A)

/-- `text.trim()`, on characters. -/
def trimChars (text : List Char) : List Char :=
  ((text.dropWhile isSpace).reverse.dropWhile isSpace).reverse

/-- Blanks are taken off where there are some. -/
theorem trimChars_eq_self {text : List Char} (h : ∀ c ∈ text, isSpace c = false) :
    trimChars text = text := by
  have hdrop : ∀ text : List Char, (∀ c ∈ text, isSpace c = false) →
      text.dropWhile isSpace = text := by
    intro text h
    cases text with
    | nil => rfl
    | cons c text => exact List.dropWhile_cons_of_neg (by simp [h c List.mem_cons_self])
  unfold trimChars
  rw [hdrop text h, hdrop _ fun c hc => h c (List.mem_reverse.1 hc), List.reverse_reverse]

theorem trimChars_idem (text : List Char) : trimChars (trimChars text) = trimChars text := by
  unfold trimChars
  generalize hrest : text.dropWhile isSpace = rest
  have hprefix : (rest.reverse.dropWhile isSpace).reverse <+: rest := by
    have h := (List.dropWhile_suffix isSpace (l := rest.reverse)).reverse
    simpa using h
  have hleft : (rest.reverse.dropWhile isSpace).reverse.dropWhile isSpace =
      (rest.reverse.dropWhile isSpace).reverse := by
    generalize (rest.reverse.dropWhile isSpace).reverse = trimmed at hprefix
    cases trimmed with
    | nil => rfl
    | cons c cs =>
      obtain ⟨more, hmore⟩ := hprefix
      have hhead : (text.dropWhile isSpace).head? = some c := by
        rw [hrest, ← hmore]
        rfl
      have hspace := List.head?_dropWhile_not isSpace text
      rw [hhead] at hspace
      rw [List.dropWhile_cons_of_neg (by simpa using hspace)]
  rw [hleft, List.reverse_reverse, List.dropWhile_idempotent]

/-- The characters of `text.trim()`. -/
def trimmed (text : String) : List Char := trimChars text.toList

/-- `text.trim()`. -/
def trim (text : String) : String := String.ofList (trimmed text)

/-- `text.trim()` of a text that is not blank. -/
def nonBlank (text : String) : Option String :=
  if trimmed text = [] then none else some (trim text)

/-- `/^[A-Za-z0-9_.:-]{1,96}$/`, the pattern of the codes. -/
def isCode (text : List Char) : Bool :=
  1 ≤ text.length && text.length ≤ 96 &&
    text.all fun c => c.isAlphanum || ['_', '.', ':', '-'].contains c

/-! ### Secret keys -/

/-- The alternatives of `SECRET_KEY_RE`, as words that may be joined by `-` or `_`. The alternatives
in camel case are those without a joint: case is ignored. -/
def secretWords : List (List (List Char)) :=
  [["password".toList], ["passwd".toList], ["pwd".toList], ["token".toList], ["secret".toList],
    ["authorization".toList], ["cookie".toList], ["credential".toList],
    ["connection".toList, "string".toList], ["api".toList, "key".toList],
    ["api".toList, "token".toList], ["access".toList, "token".toList],
    ["refresh".toList, "token".toList], ["master".toList, "key".toList],
    ["master".toList, "key".toList, "hash".toList], ["private".toList, "key".toList],
    ["wallet".toList, "password".toList], ["cert".toList], ["ca".toList], ["pem".toList],
    ["key".toList], ["new".toList, "value".toList], ["old".toList, "value".toList],
    ["value".toList]]

/-- The text is the words, joined by `[-_]?`. -/
def isJoined : List (List Char) → List Char → Bool
  | [], cs => cs.isEmpty
  | [word], cs => cs == word
  | word :: words, cs =>
    word.isPrefixOf cs &&
      (isJoined words (cs.drop word.length) ||
        match cs.drop word.length with
        | c :: rest => (c == '-' || c == '_') && isJoined words rest
        | [] => false)

def isSecretWord (cs : List Char) : Bool := secretWords.any (isJoined · cs)

/-- One of the separators `_`, `-`, `.` has only a secret word after it. -/
def endsInSecretWord : List Char → Bool
  | [] => false
  | c :: cs => (c == '_' || c == '-' || c == '.') && isSecretWord cs || endsInSecretWord cs

/-- `SECRET_KEY_RE.test(key)`. -/
def isSecretKey (key : String) : Bool :=
  let cs := key.toList.map Char.toLower
  isSecretWord cs || endsInSecretWord cs

/-! ### Redaction and merge -/

def maskedSecretValue : String := "***"

def secretRedactionCensor : String := "[REDACTED]"

/-- The characters of the `MASKED_PLACEHOLDERS`. -/
def maskedPlaceholders : List (List Char) :=
  [maskedSecretValue.toList, "*** preserved ***".toList, secretRedactionCensor.toList]

def isMaskedSecretValue : Option Json → Bool
  | some (.str value) => maskedPlaceholders.contains (trimmed value)
  | _ => false

mutual

def redactSecrets : Json → Json
  | .arr items => .arr (redactItems items)
  | .obj fields => .obj (redactEntries fields)
  | value => value

def redactItems : List Json → List Json
  | [] => []
  | item :: items => redactSecrets item :: redactItems items

def redactEntries : Settings → Settings
  | [] => []
  | (key, item) :: fields =>
    (key, if isSecretKey key then .str maskedSecretValue else redactSecrets item) ::
      redactEntries fields

end

mutual

/-- `merged` after the loop over the entries of `current`. -/
def mergeEntries : (current : Settings) → (incoming merged : Settings) → Settings
  | [], _, merged => merged
  | (key, currentValue) :: current, incoming, merged =>
    let incomingValue := incoming.lookup key
    mergeEntries current incoming
      (if isSecretKey key then
        if incomingValue.isNone || isMaskedSecretValue incomingValue then
          OrderedMap.set merged key currentValue
        else merged
      else match mergeObjects currentValue incomingValue with
        | some value => OrderedMap.set merged key value
        | none => merged)

/-- The recursive call of the loop, where both values are objects. -/
def mergeObjects : (currentValue : Json) → (incomingValue : Option Json) → Option Json
  | .obj current, some (.obj incoming) => some (.obj (mergeEntries current incoming incoming))
  | _, _ => none

end

def mergeConfigPreservingSecrets (current incoming : Settings) : Settings :=
  mergeEntries current incoming incoming

/-! ### Objects -/

mutual

/-- No object in the value has two entries of one key. -/
def Json.distinctKeys : Json → Bool
  | .arr items => distinctKeysOfList items
  | .obj fields => distinctKeysOfFields fields
  | _ => true

def distinctKeysOfList : List Json → Bool
  | [] => true
  | item :: items => item.distinctKeys && distinctKeysOfList items

def distinctKeysOfFields : Settings → Bool
  | [] => true
  | (key, item) :: fields =>
    !(fields.map Prod.fst).contains key && item.distinctKeys && distinctKeysOfFields fields

end

/-- A configuration, as an object of the language has it. -/
structure Configuration where
  settings : Settings
  distinct : distinctKeysOfFields settings = true

/-! ### `TargetSystemService` -/

/-- What an administrator is shown of a row. -/
structure PublicTargetSystem where
  id : String
  name : String
  type : String
  label : String
  config : Json
  enabled : Bool
  createdAt : Time
  updatedAt : Time

structure CreateTargetSystemDto where
  name : String
  type : String
  label : String
  config : Settings
  enabled : Option Bool

/-- An absent field is left as it is. The validation of the request lets `null` pass for an optional
field; for a configuration that matters (`mergeIncoming`), in the other columns the database does not
take it. -/
structure UpdateTargetSystemDto where
  name : Option String
  type : Option String
  label : Option String
  config : Option Json
  enabled : Option Bool

/-- The columns an update sets. -/
structure TargetSystemUpdate where
  name : Option String
  type : Option String
  label : Option String
  config : Option Column
  enabled : Option Bool

/-- The row with the columns of the update set. -/
def TargetSystemUpdate.apply (data : TargetSystemUpdate) (updatedAt : Time) (item : TargetSystem) :
    TargetSystem :=
  { item with
    name := data.name.getD item.name
    type := data.type.getD item.type
    label := data.label.getD item.label
    config := data.config.getD item.config
    enabled := data.enabled.getD item.enabled
    updatedAt }

/-- The filters of `findAll`; an absent list allows every type. -/
structure TargetSystemListing where
  type : Option String
  enabled : Option Bool
  limit : Option ℕ
  offset : Option ℕ
  allowedTypes : Option (List String)

/-- The settings of a decoded configuration. The validation of the requests admits objects only, so
nothing else is stored. -/
def Json.settings : Json → Settings
  | .obj fields => fields
  | _ => []

namespace TargetSystemService

section Validation

/-- Absent, `null`, empty, or one of the choices. -/
def validateChoice (value : Option Json) (choices : List String) (message : String) :
    Except AdminError Unit :=
  match value with
  | none | some .null => .ok ()
  | some (.str text) =>
    if text = "" || choices.contains text then .ok () else .error (.badRequest message)
  | some _ => .error (.badRequest message)

def validateGroupMappingMode (value : Option Json) : Except AdminError Unit :=
  validateChoice value ["id", "name", "code"] "Invalid groupMappingMode: expected id, name or code"

def validateLinuxGroupMappingTarget (value : Option Json) : Except AdminError Unit :=
  validateChoice value ["posix", "server"]
    "Invalid Linux groupMappingTarget: expected posix or server"

def validateCmdbuildGroupMode (value : Option Json) (fieldName : String) :
    Except AdminError Unit :=
  validateChoice value ["id", "name"] s!"Invalid CMDBuild {fieldName}: expected id or name"

def groupAwareTypes : List String := ["postgres-role", "mssql-login", "linux", "passwork"]

/-- Absent or an array. -/
def isArrayOrAbsent : Option Json → Bool
  | none | some (.arr _) => true
  | some _ => false

def validateCommonGroupMappingConfig (type : String) (config : Settings) :
    Except AdminError Unit :=
  if !groupAwareTypes.contains type then .ok ()
  else do
    validateGroupMappingMode (config.lookup "groupMappingMode")
    if type = "linux" then
      validateLinuxGroupMappingTarget (config.lookup "groupMappingTarget")
    if isArrayOrAbsent (config.lookup "defaultGroups") then .ok ()
    else .error (.badRequest "Invalid defaultGroups: expected array")

/-- Neither absent nor the empty text. -/
def isPresent : Option Json → Bool
  | none => false
  | some (.str text) => text != ""
  | some _ => true

def commonFields : List String :=
  ["groupMappingEnabled", "groupMappingMode", "groupMappingTarget", "defaultGroups"]

def rejectCmdbuildCommonGroupMapping (config : Settings) : Except AdminError Unit :=
  match commonFields.find? fun field => isPresent (config.lookup field) with
  | some present => .error (.badRequest
      s!"CMDBuild {present} is not supported; use defaultUserGroup* and incomingGroups* settings")
  | none => .ok ()

def booleanConfig : Option Json → Bool
  | some (.bool b) => b
  | some (.str text) =>
    ["true".toList, "1".toList, "yes".toList, "on".toList].contains
      ((trimmed text).map Char.toLower)
  | _ => false

/-- Every number of a JSON value is finite. -/
def nonEmptyScalar : Option Json → Bool
  | some (.num _) => true
  | some (.str text) => !(trimmed text).isEmpty
  | _ => false

def validateTargetSystemConfig (type : String) (config : Settings) : Except AdminError Unit := do
  validateCommonGroupMappingConfig type config
  if type ≠ "cmdbuild" then .ok ()
  else do
    rejectCmdbuildCommonGroupMapping config
    validateCmdbuildGroupMode (config.lookup "defaultUserGroupMode") "defaultUserGroupMode"
    validateCmdbuildGroupMode (config.lookup "incomingGroupsMode") "incomingGroupsMode"
    if booleanConfig (config.lookup "defaultUserGroupEnabled") &&
        !nonEmptyScalar (config.lookup "defaultUserGroupValue") then
      .error (.badRequest
        "CMDBuild defaultUserGroupValue is required when defaultUserGroupEnabled is true")
    else .ok ()

/-! The validation reads a few fields, and of arrays and objects only that they are. -/

def checkedFields : List String :=
  commonFields ++ ["defaultUserGroupMode", "incomingGroupsMode", "defaultUserGroupEnabled",
    "defaultUserGroupValue"]

/-- The value without what is in it, where it is an array or an object. -/
def outline : Json → Json
  | .arr _ => .arr []
  | .obj _ => .obj []
  | v => v

section Checks

variable (value : Option Json)

theorem validateChoice_outline (choices : List String) (message : String) :
    validateChoice (value.map outline) choices message = validateChoice value choices message := by
  rcases value with _ | v
  · rfl
  · cases v <;> rfl

theorem isArrayOrAbsent_outline : isArrayOrAbsent (value.map outline) = isArrayOrAbsent value := by
  rcases value with _ | v
  · rfl
  · cases v <;> rfl

theorem isPresent_outline : isPresent (value.map outline) = isPresent value := by
  rcases value with _ | v
  · rfl
  · cases v <;> rfl

theorem booleanConfig_outline : booleanConfig (value.map outline) = booleanConfig value := by
  rcases value with _ | v
  · rfl
  · cases v <;> rfl

theorem nonEmptyScalar_outline : nonEmptyScalar (value.map outline) = nonEmptyScalar value := by
  rcases value with _ | v
  · rfl
  · cases v <;> rfl

end Checks

/-- Two configurations are validated alike if they look alike in the fields that are checked. -/
theorem validateTargetSystemConfig_of_outline (type : String) {config config' : Settings}
    (h : ∀ field ∈ checkedFields,
      (config.lookup field).map outline = (config'.lookup field).map outline) :
    validateTargetSystemConfig type config = validateTargetSystemConfig type config' := by
  have hchoice : ∀ field ∈ checkedFields, ∀ choices message,
      validateChoice (config.lookup field) choices message =
        validateChoice (config'.lookup field) choices message := by
    intro field hfield choices message
    rw [← validateChoice_outline, h field hfield, validateChoice_outline]
  have hgroups : isArrayOrAbsent (config.lookup "defaultGroups") =
      isArrayOrAbsent (config'.lookup "defaultGroups") := by
    rw [← isArrayOrAbsent_outline, h "defaultGroups" (by decide), isArrayOrAbsent_outline]
  have henabled : booleanConfig (config.lookup "defaultUserGroupEnabled") =
      booleanConfig (config'.lookup "defaultUserGroupEnabled") := by
    rw [← booleanConfig_outline, h "defaultUserGroupEnabled" (by decide), booleanConfig_outline]
  have hvalue : nonEmptyScalar (config.lookup "defaultUserGroupValue") =
      nonEmptyScalar (config'.lookup "defaultUserGroupValue") := by
    rw [← nonEmptyScalar_outline, h "defaultUserGroupValue" (by decide), nonEmptyScalar_outline]
  have hfind : commonFields.find? (fun field => isPresent (config.lookup field)) =
      commonFields.find? fun field => isPresent (config'.lookup field) := by
    refine List.find?_congr fun field hfield => ?_
    rw [← isPresent_outline, h field (List.mem_append_left _ hfield), isPresent_outline]
  simp only [validateTargetSystemConfig, validateCommonGroupMappingConfig,
    validateGroupMappingMode, validateLinuxGroupMappingTarget, rejectCmdbuildCommonGroupMapping,
    validateCmdbuildGroupMode, hgroups, henabled, hvalue, hfind,
    hchoice "groupMappingMode" (by decide), hchoice "groupMappingTarget" (by decide),
    hchoice "defaultUserGroupMode" (by decide), hchoice "incomingGroupsMode" (by decide)]

end Validation

section Operations

variable (app : App)

/-- `jsonHelper.fromJson(config) ?? {}`. -/
def readConfig (config : Column) : Except AdminError Json :=
  match JsonHelper.fromJson app config with
  | .ok value => .ok value.orEmpty
  | .error e => .error (.error e)

def toPublicTargetSystem (item : TargetSystem) : Except AdminError PublicTargetSystem := do
  let config ← readConfig app item.config
  pure { item with config := redactSecrets config }

def handlePrismaMutationError : PrismaError → AdminError
  | .P2002 => .conflict "TargetSystem name already exists"
  | .P2025 => .notFound "TargetSystem not found"
  | .other e => .error e

/-- The rows that the query of `findAll` selects, in the order of the table, newest first. -/
def selected (items : List TargetSystem) (params : TargetSystemListing) : List TargetSystem :=
  ((items.filter fun item =>
    (match params.type.filter (· ≠ ""), params.allowedTypes with
      | some type, _ => item.type == type
      | none, some allowed => allowed.contains item.type
      | none, none => true) &&
    (match params.enabled with
      | some enabled => item.enabled == enabled
      | none => true)).drop (params.offset.getD 0)).take (params.limit.getD 50)

/-- The type asked for is not an allowed one. -/
def excludes (params : TargetSystemListing) : Bool :=
  match params.type.filter (· ≠ ""), params.allowedTypes with
  | some type, some allowed => !allowed.contains type
  | _, _ => false

def findAll (items : List TargetSystem) (params : TargetSystemListing) :
    Except AdminError (List PublicTargetSystem) :=
  if params.allowedTypes = some [] || excludes params then .ok []
  else (selected items params).mapM (toPublicTargetSystem app)

/-- What is shown of a row that a query has found, or not. -/
def publicFound : Option TargetSystem → Except AdminError (Option PublicTargetSystem)
  | none => .ok none
  | some item => (toPublicTargetSystem app item).map some

def findById (items : List TargetSystem) (id : String) :
    Except AdminError (Option PublicTargetSystem) :=
  publicFound app (items.find? (·.id = id))

def findByName (items : List TargetSystem) (name : String) :
    Except AdminError (Option PublicTargetSystem) :=
  publicFound app (items.find? (·.name = name))

/-- `encoded` is what `jsonHelper.toJson` gives, `created` what the database answers for a column. -/
def create (dto : CreateTargetSystemDto) (encoded : Except JsError Column)
    (created : Column → Except PrismaError TargetSystem) : Except AdminError PublicTargetSystem := do
  validateTargetSystemConfig dto.type dto.config
  let config ← encoded.mapError .error
  let item ← (created config).mapError handlePrismaMutationError
  toPublicTargetSystem app item

/-- `mergeConfigPreservingSecrets` for what a request gives. Nothing has no properties to be merged
with, but also none to be asked for. -/
def mergeIncoming (current : Settings) : Json → Except AdminError Settings
  | .obj incoming => .ok (mergeConfigPreservingSecrets current incoming)
  | _ =>
    if current = [] then .ok []
    else .error (.error (.error "Cannot convert undefined or null to object"))

/-- The columns that `update` sets, by the type and the configuration that its first statement has
found. `encode` is `jsonHelper.toJson`. -/
def nextColumns (encode : Json → Except JsError Column) (dto : UpdateTargetSystemDto)
    (currentType : String) (currentConfig : Settings) : Except AdminError TargetSystemUpdate := do
  let nextConfig ← match dto.config with
    | none => pure none
    | some incoming => (mergeIncoming currentConfig incoming).map some
  validateTargetSystemConfig (dto.type.getD currentType) (nextConfig.getD currentConfig)
  let config ← match nextConfig with
    | none => pure none
    | some config => ((encode (.obj config)).mapError AdminError.error).map some
  pure { name := dto.name, type := dto.type, label := dto.label, config, enabled := dto.enabled }

/-- `needsCurrent`. -/
def needsCurrent (dto : UpdateTargetSystemDto) : Bool := dto.config.isSome || dto.type.isSome

/-- What `update` does between its two statements, with the row that the first one has found, or
not. -/
def prepareUpdate (encode : Json → Except JsError Column) (dto : UpdateTargetSystemDto)
    (current : Option TargetSystem) : Except AdminError TargetSystemUpdate :=
  if needsCurrent dto then
    match current with
    | none => .error (.notFound "TargetSystem not found")
    | some current => do
      let currentConfig ← readConfig app current.config
      nextColumns encode dto current.type currentConfig.settings
  else
    .ok { name := dto.name, type := dto.type, label := dto.label, config := none,
          enabled := dto.enabled }

/-- `written` is what the database answers to the second statement: the new time stamp, or an
error. -/
def update (encode : Json → Except JsError Column) (dto : UpdateTargetSystemDto)
    (stored : Option TargetSystem) (written : Except PrismaError Time) :
    Except AdminError PublicTargetSystem := do
  let data ← prepareUpdate app encode dto stored
  match stored with
  | none => .error (handlePrismaMutationError .P2025)
  | some item => do
    let updatedAt ← written.mapError handlePrismaMutationError
    toPublicTargetSystem app (data.apply updatedAt item)

end Operations

end TargetSystemService

end IdmMw
