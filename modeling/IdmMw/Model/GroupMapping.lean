import IdmMw.Library.ValueText
import IdmMw.Model.Facade
import IdmMw.Model.TargetSystems

/-!
# What the connectors read of a configuration and a payload

* `firstString`, `stringArray`, `spread`: values that may be anything, read as texts;
* `groupMappingSettings`, `groupRefValues`: whether and how the groups of a payload are mapped to
  groups of the target;
* `Runtime`: conversions of the language, as far as they are not modelled; `Runtime.ascii` has them for
  whole numbers, texts in ASCII and messages without secrets.

The engine's own errors (a method called on something else than a text, a spread of something that
has no elements) have texts of the engine; only that they are thrown matters here.
-/

namespace IdmMw

/-- Conversions of the language that are not modelled. -/
structure Runtime where
  /-- `String(n)` -/
  numberText : ℚ → String
  /-- `JSON.stringify(v)` -/
  stringify : Json → String
  toLowerCase : String → String
  toUpperCase : String → String
  encodeURIComponent : String → String
  /-- `safeConnectorErrorMessage(error, ...secretSources)` -/
  safeConnectorErrorMessage : JsError → List (Option Json) → String

mutual

def asciiText : Json → List Char
  | .null => "null".toList
  | .bool b => if b then "true".toList else "false".toList
  | .num n => (toString n.num).toList
  | .str s => quote s
  | .arr items => '[' :: (joinComma (asciiItems items) ++ [']'])
  | .obj fields => '\x7b' :: (joinComma (asciiFields fields) ++ ['\x7d'])

def asciiItems : List Json → List (List Char)
  | [] => []
  | item :: items => asciiText item :: asciiItems items

def asciiFields : Settings → List (List Char)
  | [] => []
  | (key, value) :: fields => (quote key ++ ':' :: asciiText value) :: asciiFields fields

end

def Runtime.ascii : Runtime where
  numberText n := toString n.num
  stringify v := String.ofList (asciiText v)
  toLowerCase text := String.ofList (text.toList.map Char.toLower)
  toUpperCase text := String.ofList (text.toList.map Char.toUpper)
  encodeURIComponent text := text
  safeConnectorErrorMessage error _ := error.message

/-- `value ?? {}`. -/
def orEmptyObject (value : Option Json) : Json := (value.map Json.orEmpty).getD (.obj [])

/-- `!!value`. -/
def isTruthy : Option Json → Bool
  | none => false
  | some value => value.truthy

/-- `${value ?? fallback}`. -/
def textOr (js : Runtime) (value : Option Json) (fallback : String) : String :=
  match value with
  | none | some .null => fallback
  | some value => value.toText js.numberText

/-- The text that is a value, if it is one and not blank, without the blanks around it. -/
def stringValue : Option Json → Option String
  | some (.str text) => nonBlank text
  | _ => none

def firstString (values : List (Option Json)) : Option String := values.findSome? stringValue

/-- `value.split(',').map((item) => item.trim()).filter(Boolean)`. -/
def commaSeparated (text : String) : List String :=
  (text.toList.splitOn ',').filterMap fun item => nonBlank (String.ofList item)

/-- `typeof item === 'string' && item.trim()`, which keeps the blanks. -/
def nonBlankItem : Json → Option String
  | .str text => if (nonBlank text).isSome then some text else none
  | _ => none

/-- The texts that one value stands for: those of an array, which are kept as they are, or those that
a text separates by commas. -/
def stringsOf : Option Json → List String
  | some (.arr items) => items.filterMap nonBlankItem
  | some (.str text) => commaSeparated text
  | _ => []

def stringArray (values : List (Option Json)) : List String := (values.flatMap stringsOf).eraseDups

/-- `[...(value ?? [])]`. -/
def spread : Option Json → Except JsError (List Json)
  | none | some .null => .ok []
  | some (.arr items) => .ok items
  | some (.str text) => .ok (text.toList.map fun c => .str (String.ofList [c]))
  | some _ => .error (.error "value is not iterable")

namespace ConnectorPayload

variable (payload : ConnectorPayload)

/-- `payload.payload['config']`. -/
def config : Option Json := payload.payload.get? "config"

/-- `payload.payload['data'] ?? {}`. -/
def data : Json := orEmptyObject (payload.payload.get? "data")

/-- `payload.payload['params'] ?? {}`. -/
def params : Json := orEmptyObject (payload.payload.get? "params")

end ConnectorPayload

/-- What the connectors for accounts take as the login: the first that is given of these fields, or
the e-mail. -/
def loginValue (data params : Json) : Option String :=
  (firstString [data.get? "login", data.get? "managedLogin", data.get? "username",
    params.get? "login", params.get? "id"]).or (firstString [data.get? "email"])

/-! ### `group-mapping.util` -/

inductive GroupMappingMode
  | id
  | name
  | code
  deriving DecidableEq

def GroupMappingMode.text : GroupMappingMode → String
  | id => "id"
  | name => "name"
  | code => "code"

structure GroupMappingSettings where
  enabled : Bool
  mode : GroupMappingMode
  deriving DecidableEq

/-- The modes with their names. -/
def groupMappingModes : List (List Char × GroupMappingMode) :=
  [("id".toList, .id), ("name".toList, .name), ("code".toList, .code)]

def groupMappingMode : Option Json → Except JsError GroupMappingMode
  | none | some .null => .ok .name
  | some (.str text) =>
    if text = "" then .ok .name
    else match groupMappingModes.lookup ((trimmed text).map Char.toLower) with
      | some mode => .ok mode
      | none => .error (.error "Invalid groupMappingMode: expected id, name or code")
  | some _ => .error (.error "Invalid groupMappingMode: expected id, name or code")

def groupMappingSettings (config : Json) : Except JsError GroupMappingSettings := do
  let mode ← groupMappingMode (config.get? "groupMappingMode")
  pure ⟨TargetSystemService.booleanConfig (config.get? "groupMappingEnabled"), mode⟩

/-- `string | number`. -/
inductive GroupValue
  | str (text : String)
  | num (n : ℚ)

/-- `String(value)`. -/
def GroupValue.text (js : Runtime) : GroupValue → String
  | str text => text
  | num n => js.numberText n

def scalarGroupValue (value : Option Json) (fieldName : String) :
    Except JsError (Option GroupValue) :=
  match value with
  | none | some .null => .ok none
  | some (.str text) => .ok ((nonBlank text).map .str)
  | some (.num n) => .ok (some (.num n))
  | some _ => .error (.error s!"Invalid {fieldName}: expected string or number")

def groupRefValue (value : Json) (mode : GroupMappingMode) (fieldName : String) :
    Except JsError (Option GroupValue) :=
  match value with
  | .str text => .ok ((nonBlank text).map .str)
  | .num n => .ok (some (.num n))
  | .obj fields => do
    match ← scalarGroupValue (fields.lookup mode.text) s!"{fieldName}.{mode.text}" with
    | some selected => pure (some selected)
    | none => throw (.error s!"Invalid {fieldName}.{mode.text}: expected string or number")
  | _ => throw (.error
      s!"Invalid {fieldName} item: expected string, number or object with id/name/code")

def groupRefValues (values : Option Json) (mode : GroupMappingMode) (fieldName : String) :
    Except JsError (List GroupValue) :=
  match values with
  | none | some .null | some (.str "") => .ok []
  | some (.arr items) => do
    let values ← items.mapM (groupRefValue · mode fieldName)
    pure values.reduceOption
  | some _ => .error (.error s!"Invalid {fieldName}: expected array")

/-- `groupRefValues(values, mode, fieldName).map(String)`. -/
def groupRefTexts (js : Runtime) (values : Option Json) (mode : GroupMappingMode)
    (fieldName : String) : Except JsError (List String) := do
  let values ← groupRefValues values mode fieldName
  pure (values.map (GroupValue.text js))

end IdmMw
