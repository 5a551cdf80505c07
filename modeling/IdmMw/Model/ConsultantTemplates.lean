import IdmMw.Library.UrlText
import IdmMw.Model.Metrics
import IdmMw.Model.PassworkConnector

/-!
# The values of a managed user of ConsultantPlus

`ConsultantPlusConnectorService`, as far as it makes a request of a payload.

* `userValues`: the values of the user, by name;
* `validateManagedUserOperation`: the checks, that of the protected operator among them;
* `pieces`: a template, with its placeholders; `renderPathTemplate`, `renderTemplateValue`;
* `renderPayloadTemplate`, `requestBody`: what is sent.

A value of the user may be `undefined`. A name that the user has no value for may be one that every
object inherits a value for.
-/

namespace IdmMw

/-- What `values[name]` may be. -/
inductive Rendered
  | undefined
  /-- one of those that objects inherit -/
  | function
  | value (v : Json)

namespace ConsultantPlusConnectorService

variable (js : Runtime)

/-! ### Values -/

/-- `typeof value === 'string' && value.length > 0`. -/
def stringValue : Option Json → Option String
  | some (.str text) => if text = "" then none else some text
  | _ => none

def scalarString : Rendered → String
  | .undefined | .function => ""
  | .value v =>
    match v with
    | .null => ""
    | .str text => text
    | .num n => js.numberText n
    | .bool b => if b then "true" else "false"
    | v => js.stringify v

/-- `values[name]`. -/
def valueAt (values : Properties) (name : String) : Rendered :=
  match values.lookup name with
  | some (some v) => .value v
  | some none => .undefined
  | none =>
    if name = "__proto__" then .value (.obj [])
    else if name ∈ inheritedNames then .function else .undefined

/-- `value.split('@')[0]`, of a text with an `@`. -/
def emailLocalPart (value : Option String) : Option String :=
  (value.filter fun text => '@' ∈ text.toList).map fun text =>
    String.ofList (text.toList.takeWhile (· ≠ '@'))

/-- `config.protectedOperatorLogin ?? '1393020'`. -/
def protectedOperatorLogin (config : Json) : Json :=
  itemOf (nullish (config.get? "protectedOperatorLogin") (some (.str "1393020")))

/-- The prefix of the login under which a user is managed. -/
def managedLoginPrefix (config : Json) : Json :=
  itemOf (nullish (config.get? "managedLoginPrefix") (nullish (config.get? "login")
    (nullish (config.get? "protectedOperatorLogin") (some (protectedOperatorLogin config)))))

/-- `payload.payload[key]`, where it is an object. -/
def recordPayload (payload : ConnectorPayload) (key : String) : Settings :=
  match payload.payload.get? key with
  | some (.obj fields) => fields
  | _ => []

/-- The first of the properties that is a text. -/
def firstText (data : Settings) (keys : List String) : Option String :=
  keys.findSome? fun key => stringValue (data.lookup key)

/-- The values of the user; `rnd` is drawn if the data have none. -/
def userValues (config : Json) (data : Settings) (drawn : String) : Properties :=
  let email := stringValue (data.lookup "email")
  let username := (firstText data ["username", "login"]).or email
  let pureLogin := ((firstText data ["pureLogin", "loginName"]).or
    (emailLocalPart (username.or email))).or username
  let login := (stringValue (data.lookup "login")).or username
  let lastName := firstText data ["lastName", "surname", "familyName"]
  let firstName := firstText data ["firstName", "givenName"]
  let middleName := firstText data ["middleName", "patronymic"]
  let fio := (firstText data ["fio", "fullName"]).getD
    (" ".intercalate ([firstName, middleName, lastName].filterMap id))
  let managedLogin := (stringValue (data.lookup "managedLogin")).or
    ((pureLogin.filter (· ≠ "")).map fun pureLogin =>
      (managedLoginPrefix config).toText js.numberText ++ "#" ++ pureLogin)
  OrderedMap.assign (data.map fun entry => (entry.1, some entry.2)) [
    ("rnd", some (.str ((stringValue (data.lookup "rnd")).getD drawn))),
    ("username", username.map .str),
    ("login", login.map .str),
    ("email", email.map .str),
    ("pureLogin", pureLogin.map .str),
    ("loginName", pureLogin.map .str),
    ("managedLoginPrefix", some (managedLoginPrefix config)),
    ("managedLogin", managedLogin.map .str),
    ("lastName", lastName.map .str),
    ("firstName", firstName.map .str),
    ("middleName", middleName.map .str),
    ("fio", some (.str fio)),
    ("fullName", some (.str fio))]

/-- `values[key]`, where every object has its own or none. -/
def own (values : Properties) (key : String) : Option Json := (values.lookup key).join

/-! ### Checks -/

/-- `PASSWORD_FIELD_KEYS`. -/
def passwordFieldKeys : List String := ["password", "pwd", "newValue"]

/-- `PASSWORD_FIELD_PATTERN`: one of the keys, in any case. -/
def passwordFieldPattern (key : String) : Bool :=
  passwordFieldKeys.any fun word => key.toList.map Char.toLower = word.toList.map Char.toLower

mutual

def hasPasswordFields : Json → Bool
  | .arr items => hasPasswordItems items
  | .obj fields => hasPasswordEntries fields
  | _ => false

def hasPasswordItems : List Json → Bool
  | [] => false
  | item :: items => hasPasswordFields item || hasPasswordItems items

def hasPasswordEntries : Settings → Bool
  | [] => false
  | (key, item) :: fields =>
    passwordFieldPattern key || hasPasswordFields item || hasPasswordEntries fields

end

/-- The values that may name the operator. -/
def protectedKeys : List String :=
  ["login", "username", "id", "userId", "email", "pureLogin", "loginName", "managedLogin"]

/-- What a text may stand for: itself, the local part of an e-mail, and the last part of a managed
login. -/
def textCandidates (text : String) : List String :=
  text :: ((emailLocalPart (some text)).filter (· ≠ "")).toList ++
    if '#' ∈ text.toList then
      (((text.toList.splitOn '#').filter (· ≠ [])).getLast?.map String.ofList).toList
    else []

def protectedTargetCandidates (values : Properties) : List String :=
  protectedKeys.flatMap fun key => ((stringValue (own values key)).map textCandidates).getD []

/-- A candidate is compared with `===`. -/
def touchesProtectedOperator (config : Json) (values : Properties) : Bool :=
  (protectedTargetCandidates values).any fun candidate =>
    ZabbixConnectorService.strictlyEqual (.str candidate) (protectedOperatorLogin config)

def missingRequiredValues (operation : String) (values : Properties) : List String :=
  let missing := fun keys => List.filter (fun key => (stringValue (own values key)).isNone) keys
  match operation with
  | "user.create" => missing ["pureLogin", "email"]
  | "user.update" | "user.changePassword" => missing ["managedLogin", "email"]
  | "user.delete" | "user.disable" | "user.lock" =>
    if (missing ["managedLogin", "id", "userId"]).length < 3 then [] else ["managedLogin"]
  | _ => []

def passwordMessage : String :=
  "ConsultantPlus does not accept caller-provided password fields; " ++
    "password is generated and delivered by email"

/-- What is wrong with the operation. -/
def validateManagedUserOperation (operation : String) (values : Properties) (config : Json)
    (rawPayloads : List Settings) : Option String :=
  if rawPayloads.any hasPasswordEntries then some passwordMessage
  else if touchesProtectedOperator config values then
    some ("Refusing to operate on protected ConsultantPlus operator login " ++
      (protectedOperatorLogin config).toText js.numberText)
  else if missingRequiredValues operation values ≠ [] then
    some ("Missing ConsultantPlus " ++ operation ++ " value(s): " ++
      ", ".intercalate (missingRequiredValues operation values))
  else none

/-! ### Bodies without a template -/

/-- The properties that are not `undefined`. -/
def removeUndefined (properties : Properties) : Settings :=
  properties.filterMap fun entry => entry.2.map (entry.1, ·)

def defaultCreatePayload (values : Properties) : Settings := removeUndefined values

def defaultCloudUserPayload (values : Properties) : Settings :=
  removeUndefined [("login", own values "pureLogin"), ("email", own values "email"),
    ("fio", nullish (own values "fullName") (own values "fio"))]

def defaultManagedCloudUserPayload (values : Properties) : Settings :=
  removeUndefined (OrderedMap.assign
    ((defaultCloudUserPayload values).map fun entry => (entry.1, some entry.2))
    [("login", own values "managedLogin")])

def defaultDeletePayload (values : Properties) : Settings :=
  removeUndefined [("logins", own values "managedLogin")]

def withoutPasswordValues (values : Properties) : Properties :=
  values.filter fun entry => !passwordFieldKeys.contains entry.1 && !passwordFieldPattern entry.1

/-! ### Templates -/

/-- A part of a template: a character, or a placeholder with its name. -/
inductive Piece
  | char (c : Char)
  | name (name : List Char)
  deriving DecidableEq

def isNameChar (c : Char) : Bool := c.isAlphanum || ['_', '.', '-'].contains c

/-- The name of the placeholder at the beginning of the text, if there is one. -/
def placeholder (opening text : List Char) : Option (List Char) :=
  let behind := text.drop opening.length
  let name := behind.takeWhile isNameChar
  if opening.isPrefixOf text ∧ name ≠ [] ∧ (behind.drop name.length).head? = some '\x7d' then
    some name
  else none

/-- The pieces, after as many characters as are to be skipped. -/
def piecesFrom (opening : List Char) : ℕ → List Char → List Piece
  | _, [] => []
  | skip + 1, _ :: text => piecesFrom opening skip text
  | 0, c :: text =>
    match placeholder opening (c :: text) with
    | none => .char c :: piecesFrom opening 0 text
    | some name => .name name :: piecesFrom opening (opening.length + name.length) text

def pieces (opening text : String) : List Piece := piecesFrom opening.toList 0 text.toList

/-- The placeholders of a path are in braces. -/
def pathOpening : String := "\x7b"

/-- The placeholders of a body have a dollar in front. -/
def bodyOpening : String := "$\x7b"

def Piece.name? : Piece → Option String
  | char _ => none
  | name key => some (String.ofList key)

/-- `value === undefined || value === null || value === ''`. -/
def isMissing : Rendered → Bool
  | .undefined | .value .null => true
  | .value (.str text) => text = ""
  | _ => false

def Piece.pathText (js : Runtime) (values : Properties) : Piece → List Char
  | char c => [c]
  | name key => Url.encodeURIComponent
      (scalarString js (valueAt values (String.ofList key))).toList

def missingNames (values : Properties) (ps : List Piece) : List String :=
  ((ps.filterMap Piece.name?).filter fun name => isMissing (valueAt values name)).eraseDups

def renderPathTemplate (path : Json) (values : Properties) : Except JsError String :=
  match path with
  | .str path =>
    let ps := pieces pathOpening path
    if missingNames values ps ≠ [] then
      .error (.error ("Missing ConsultantPlus path parameter(s): " ++
        ", ".intercalate (missingNames values ps)))
    else .ok (String.ofList (ps.flatMap (Piece.pathText js values)))
  | _ => .error (.error "path.replace is not a function")

def Piece.bodyText (js : Runtime) (values : Properties) : Piece → List Char
  | char c => [c]
  | name key => (scalarString js (valueAt values (String.ofList key))).toList

/-- A text that is one placeholder stands for the value itself. -/
def renderText (values : Properties) (text : String) : Rendered :=
  match pieces bodyOpening text with
  | [.name name] => valueAt values (String.ofList name)
  | ps => .value (.str (String.ofList (ps.flatMap (Piece.bodyText js values))))

/-- How a value is written in an array, and how in an object. -/
def Rendered.item : Rendered → Json
  | .value v => v
  | _ => .null

def Rendered.property? : Rendered → Option Json
  | .value v => some v
  | _ => none

mutual

def renderTemplateValue (values : Properties) : Json → Rendered
  | .str text => renderText js values text
  | .arr items => .value (.arr (renderItems values items))
  | .obj fields => .value (.obj (renderFields values fields))
  | v => .value v

def renderItems (values : Properties) : List Json → List Json
  | [] => []
  | item :: items => Rendered.item (renderTemplateValue values item) :: renderItems values items

def renderFields (values : Properties) : Settings → Settings
  | [] => []
  | (key, item) :: fields =>
    match Rendered.property? (renderTemplateValue values item) with
    | some v => (key, v) :: renderFields values fields
    | none => renderFields values fields

end

/-- What is sent: values by name, none of them `undefined`. -/
abbrev Body := List (String × Rendered)

def Body.ofSettings (fields : Settings) : Body := fields.map fun entry => (entry.1, .value entry.2)

/-- The properties of a template that is an object, without those that are `undefined`. -/
def renderEntries (values : Properties) (fields : Settings) : Body :=
  (fields.map fun entry => (entry.1, renderTemplateValue js values entry.2)).filter
    fun entry => !(entry.2 matches .undefined)

def renderPayloadTemplate (template : Option Json) (values : Properties) (fallback : Settings) :
    Body :=
  match template.filter Json.truthy with
  | none => .ofSettings fallback
  | some (.obj fields) => renderEntries js values fields
  | some template =>
    match renderTemplateValue js values template with
    | .value (.obj fields) => .ofSettings fields
    | _ => []

/-- A text with a placeholder for a password, in any case. -/
def textReferencesPassword (text : String) : Bool :=
  text.toList.tails.any fun rest => passwordFieldKeys.any fun word =>
    (bodyOpening.toList ++ word.toList.map Char.toLower ++ ['\x7d']).isPrefixOf
      (rest.map Char.toLower)

mutual

def templateReferencesPassword : Json → Bool
  | .str text => textReferencesPassword text
  | .arr items => itemsReferencePassword items
  | .obj fields => fieldsReferencePassword fields
  | _ => false

def itemsReferencePassword : List Json → Bool
  | [] => false
  | item :: items => templateReferencesPassword item || itemsReferencePassword items

def fieldsReferencePassword : Settings → Bool
  | [] => false
  | (key, value) :: fields =>
    passwordFieldPattern key || templateReferencesPassword value || fieldsReferencePassword fields

end

/-! ### What is sent -/

/-- The properties as an HTTP client writes them as JSON. -/
def Body.json (body : Body) : Settings :=
  body.filterMap fun entry => (Rendered.property? entry.2).map (entry.1, ·)

/-- `new URLSearchParams(..).toString()`. -/
def Body.form (body : Body) : String :=
  String.ofList (List.intercalate ['&'] (body.map fun entry =>
    PassworkConnectorService.formText entry.1 ++ '=' ::
      PassworkConnectorService.formText (scalarString js entry.2)))

end ConsultantPlusConnectorService

end IdmMw
