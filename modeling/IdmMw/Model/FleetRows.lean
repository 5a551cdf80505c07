import IdmMw.Model.LinuxFleet

/-!
# What is shown of the inventory

The rows of the tables with all their columns, and what `LinuxFleetService` returns of them. Columns
of the type `DateTime` are objects of the class `Date`, so that a value of a row is more than JSON.

* `RowValue`: a value of a row; `RowValue.toJson` is what a response says of it;
* `RowValue.redactSecrets`: `redactSecrets`, on such values;
* `CredentialProfileRow`, `HostRow` and what the four operations return of them.
-/

namespace IdmMw

/-- A value of a row. A `Date` is given by its time in milliseconds. -/
inductive RowValue
  | null
  | bool (b : Bool)
  | num (n : ℚ)
  | str (s : String)
  | date (time : ℤ)
  | arr (items : List RowValue)
  | obj (entries : List (String × RowValue))

namespace RowValue

/-- The property `v[key]` of an object. -/
def get? : RowValue → String → Option RowValue
  | obj entries, key => entries.lookup key
  | _, _ => none

section Json

-- `isoText` is `date.toISOString()`, which is what `date.toJSON()` gives
variable (isoText : ℤ → String)

mutual

/-- `JSON.parse(JSON.stringify(value))` -/
def toJson : RowValue → Json
  | null => .null
  | bool b => .bool b
  | num n => .num n
  | str s => .str s
  | date time => .str (isoText time)
  | arr items => .arr (toJsonItems items)
  | obj entries => .obj (toJsonEntries entries)

def toJsonItems : List RowValue → List Json
  | [] => []
  | item :: items => toJson item :: toJsonItems items

def toJsonEntries : List (String × RowValue) → List (String × Json)
  | [] => []
  | (key, item) :: entries => (key, toJson item) :: toJsonEntries entries

end

end Json

mutual

def redactSecrets : RowValue → RowValue
  | arr items => arr (redactItems items)
  | obj entries => obj (redactEntries entries)
  -- `Object.entries(date)` is empty
  | date _ => obj []
  | value => value

def redactItems : List RowValue → List RowValue
  | [] => []
  | item :: items => redactSecrets item :: redactItems items

def redactEntries : List (String × RowValue) → List (String × RowValue)
  | [] => []
  | (key, item) :: entries =>
    (key, if isSecretKey key then str maskedSecretValue else redactSecrets item) ::
      redactEntries entries

end

def ofOption (value : Option String) : RowValue := (value.map str).getD null

end RowValue

/-! ### Rows -/

/-- A row of the table `LinuxCredentialProfile`, with its dates. -/
structure CredentialProfileRow extends LinuxCredentialProfile where
  createdAt : ℤ
  updatedAt : ℤ

def CredentialProfileRow.columns (row : CredentialProfileRow) : List (String × RowValue) :=
  [("id", .str row.id), ("targetSystemId", .str row.targetSystemId), ("name", .str row.name),
    ("mode", .str row.mode), ("username", .str row.username),
    ("privateKeyRef", .ofOption row.privateKeyRef), ("passwordRef", .ofOption row.passwordRef),
    ("enabled", .bool row.enabled), ("createdAt", .date row.createdAt),
    ("updatedAt", .date row.updatedAt)]

/-- A row of the table `LinuxHost`, with its dates and what is included: its profile, and the groups
of its memberships. -/
structure HostRow extends LinuxHost where
  createdAt : ℤ
  updatedAt : ℤ
  credentialProfile : Option CredentialProfileRow
  groups : List RowValue

namespace FleetRows

def listCredentialProfiles (items : List CredentialProfileRow) : List RowValue :=
  items.map fun item => (RowValue.obj item.columns).redactSecrets

/-- What is returned of the row that was created. -/
def createCredentialProfile (item : CredentialProfileRow) : RowValue :=
  (RowValue.obj item.columns).redactSecrets

/-- What is returned of the row that was updated. -/
def updateCredentialProfile (item : CredentialProfileRow) : RowValue :=
  (RowValue.obj item.columns).redactSecrets

/-- What is returned of a host; `fromJson` is how its metadata are decoded. -/
def shownHost (fromJson : Option Column → RowValue) (item : HostRow) : RowValue :=
  .obj [("id", .str item.id), ("targetSystemId", .str item.targetSystemId),
    ("credentialProfileId", .ofOption item.credentialProfileId), ("name", .str item.name),
    ("host", .str item.host), ("port", .num item.port),
    ("hostFingerprint", .str item.hostFingerprint), ("enabled", .bool item.enabled),
    ("metadata", fromJson item.metadata), ("createdAt", .date item.createdAt),
    ("updatedAt", .date item.updatedAt),
    ("credentialProfile", match item.credentialProfile with
      | some profile => (RowValue.obj profile.columns).redactSecrets
      | none => .null),
    ("groups", .arr item.groups)]

def listHosts (fromJson : Option Column → RowValue) (items : List HostRow) : List RowValue :=
  items.map (shownHost fromJson)

end FleetRows

end IdmMw
