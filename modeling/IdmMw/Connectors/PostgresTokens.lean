import IdmMw.Connectors.PostgresPolicy
import IdmMw.Connectors.Quoting

/-!
# The tokens of the PostgreSQL statements

What a server makes of the statements of the connector for PostgreSQL roles.

* `PostgresStatement.tokens`: what is meant, with the values as names and constants of their own;
* `Meant`: a statement is read so;
* `execute_meant`: every statement that is sent is.
-/

namespace IdmMw

open Async

namespace PostgresRoleConnectorService

variable {js : Runtime} {payload : ConnectorPayload} {config data params : Json}
  {operation : String}

def PostgresTarget.tokens : PostgresTarget → List Sql.Token
  | database name => Sql.words ["ON", "DATABASE"] ++ [.name name.toList]
  | schema name => Sql.words ["ON", "SCHEMA"] ++ [.name name.toList]
  | object kind schemaName objectName => Sql.words ["ON", kind.keyword] ++
      [.name schemaName.toList, .symbol '.', .name objectName.toList]

/-- The tokens that are meant. -/
def PostgresStatement.tokens : PostgresStatement → List Sql.Token
  | begin => Sql.words ["BEGIN"]
  | commit => Sql.words ["COMMIT"]
  | rollback => Sql.words ["ROLLBACK"]
  | selectOne => Sql.words ["SELECT", "1"]
  | createRole login canLogin password => Sql.words ["CREATE", "ROLE"] ++ [.name login.toList] ++
      Sql.words [if canLogin then "LOGIN" else "NOLOGIN", "PASSWORD"] ++ [.text password.toList]
  | setMembership action role login => Sql.words [action.text] ++ [.name role.toList] ++
      Sql.words [action.principalKeyword] ++ [.name login.toList]
  | applyPermission action permission target login => Sql.words [action.text] ++
      Sql.wordTokens permission.toList ++ target.tokens ++ Sql.words [action.principalKeyword] ++
      [.name login.toList]
  | alterLogin login enabled => Sql.words ["ALTER", "ROLE"] ++ [.name login.toList] ++
      Sql.words [if enabled then "LOGIN" else "NOLOGIN"]
  | dropRole role => Sql.words ["DROP", "ROLE"] ++ [.name role.toList]
  | changePassword login password => Sql.words ["ALTER", "ROLE"] ++ [.name login.toList] ++
      Sql.words ["PASSWORD"] ++ [.text password.toList]
  | getRole _ => Sql.words ["SELECT", "rolname", "AS", "login"] ++ [.symbol ','] ++
      Sql.words ["rolcanlogin", "AS"] ++ [.name "canLogin".toList] ++
      Sql.words ["FROM", "pg_roles", "WHERE", "rolname"] ++ [.symbol '='] ++ Sql.words ["$1"]
  | searchRoles _ => Sql.words ["SELECT", "rolname", "AS", "login"] ++ [.symbol ','] ++
      Sql.words ["rolcanlogin", "AS"] ++ [.name "canLogin".toList] ++
      Sql.words ["FROM", "pg_roles", "WHERE", "rolname", "LIKE", "$1", "ORDER", "BY", "rolname",
        "LIMIT", "200"]
  | createGroupRole role =>
    Sql.words ["CREATE", "ROLE"] ++ [.name role.toList] ++ Sql.words ["NOLOGIN"]
  | getGroupRole _ =>
    Sql.words ["SELECT", "rolname", "AS", "role", "FROM", "pg_roles", "WHERE", "rolcanlogin"] ++
      [.symbol '='] ++ Sql.words ["false", "AND", "rolname"] ++ [.symbol '='] ++ Sql.words ["$1"]
  | searchGroupRoles none =>
    Sql.words ["SELECT", "rolname", "AS", "role", "FROM", "pg_roles", "WHERE", "rolcanlogin"] ++
      [.symbol '='] ++ Sql.words ["false", "ORDER", "BY", "rolname", "LIMIT", "200"]
  | searchGroupRoles (some _) =>
    Sql.words ["SELECT", "rolname", "AS", "role", "FROM", "pg_roles", "WHERE", "rolcanlogin"] ++
      [.symbol '='] ++ Sql.words ["false", "AND", "rolname", "LIKE", "$1", "ORDER", "BY", "rolname",
        "LIMIT", "200"]
  | currentDatabase => Sql.words ["SELECT", "current_database"] ++ [.symbol '(', .symbol ')'] ++
      Sql.words ["AS", "database"]

def PostgresStatement.password? : PostgresStatement → Option String
  | createRole _ _ password | changePassword _ password => some password
  | _ => none

/-- The statement is read as it is meant, unless a character with code zero is in its password. -/
def Meant : PostgresReq → Prop
  | .query _ statement => (∀ password ∈ statement.password?, '\x00' ∉ password.toList) →
      Sql.tokens Sql.postgres statement.text.toList = some statement.tokens
  | _ => True

/-! ### Parts of a statement -/

theorem tokens_plain {text : String} (out : List Sql.Token) (rest : List Char)
    (h : (Sql.lexing Sql.postgres).feed .start text.toList = some (out, .start)) :
    Sql.tokens Sql.postgres (text.toList ++ rest) =
      (Sql.tokens Sql.postgres rest).map (out ++ ·) := Sql.feed_plain h

/-- A name before a constant part of the statement. -/
theorem tokens_ident_plain {value text : String} (h : IsName value)
    (htext : text.toList.head?.any (· ≠ '"') = true) (rest : List Char) :
    Sql.tokens Sql.postgres ((ident value).toList ++ (text.toList ++ rest)) =
      (Sql.tokens Sql.postgres (text.toList ++ rest)).map (.name value.toList :: ·) :=
  tokens_ident h (Sql.head?_append_ne htext rest)

/-- A name at the end of the statement. -/
theorem tokens_ident_end {value : String} (h : IsName value) :
    Sql.tokens Sql.postgres (ident value).toList = some [.name value.toList] := by
  have hhead : ([] : List Char).head? ≠ some '"' := by simp
  have htokens := tokens_ident h hhead
  rw [List.append_nil] at htokens
  rw [htokens]
  rfl

theorem tokens_literal_end {value : String} (h : '\x00' ∉ value.toList) :
    Sql.tokens Sql.postgres (literal value).toList = some [.text value.toList] := by
  have hhead : ([] : List Char).head? ≠ some '\'' := by simp
  have htokens := tokens_literal h hhead rfl
  rw [List.append_nil] at htokens
  rw [htokens]
  rfl

/-- The name of a permission, and a blank. -/
theorem tokens_permission {permission : String}
    (h : SqlAccounts.isPermissionName permission.toList = true) (rest : List Char) :
    Sql.tokens Sql.postgres (permission.toList ++ (" ".toList ++ rest)) =
      (Sql.tokens Sql.postgres rest).map (Sql.wordTokens permission.toList ++ ·) := by
  have hchars := SqlAccounts.wordChars_of_isPermissionName h
  have hfeed : (Sql.lexing Sql.postgres).feed .start (permission.toList ++ [' ']) =
      some (Sql.wordTokens permission.toList, .start) :=
    Sql.feed_words rfl hchars List.not_mem_nil
  have hblank : permission.toList ++ (" ".toList ++ rest) = permission.toList ++ [' '] ++ rest := by
    simp
  rw [hblank]
  exact Sql.feed_plain hfeed

theorem tokens_target {target : PostgresTarget} (h : target.Valid) {text : String}
    (htext : text.toList.head?.any (· ≠ '"') = true) (rest : List Char) :
    Sql.tokens Sql.postgres (target.text.toList ++ (text.toList ++ rest)) =
      (Sql.tokens Sql.postgres (text.toList ++ rest)).map (target.tokens ++ ·) := by
  cases target with
  | database name =>
    have htarget : (PostgresTarget.database name).text.toList ++ (text.toList ++ rest) =
        "ON DATABASE ".toList ++ ((ident name).toList ++ (text.toList ++ rest)) := by
      delta PostgresTarget.text
      simp
    rw [htarget, tokens_plain (Sql.words ["ON", "DATABASE"]) _ (by decide),
      tokens_ident_plain (isName_of_isIdentifier h) htext, Option.map_map]
    rfl
  | schema name =>
    have htarget : (PostgresTarget.schema name).text.toList ++ (text.toList ++ rest) =
        "ON SCHEMA ".toList ++ ((ident name).toList ++ (text.toList ++ rest)) := by
      delta PostgresTarget.text
      simp
    rw [htarget, tokens_plain (Sql.words ["ON", "SCHEMA"]) _ (by decide),
      tokens_ident_plain (isName_of_isIdentifier h) htext, Option.map_map]
    rfl
  | object kind schemaName objectName =>
    have hkind : (Sql.lexing Sql.postgres).feed .start ("ON " ++ kind.keyword ++ " ").toList =
        some (Sql.words ["ON", kind.keyword], .start) := by
      cases kind <;> decide
    have htarget : (PostgresTarget.object kind schemaName objectName).text.toList ++
        (text.toList ++ rest) = ("ON " ++ kind.keyword ++ " ").toList ++ ((ident schemaName).toList ++
          (".".toList ++ ((ident objectName).toList ++ (text.toList ++ rest)))) := by
      delta PostgresTarget.text
      simp
    rw [htarget, tokens_plain (Sql.words ["ON", kind.keyword]) _ hkind,
      tokens_ident_plain (isName_of_isIdentifier h.1) (by decide),
      tokens_plain [.symbol '.'] _ (by decide),
      tokens_ident_plain (isName_of_isIdentifier h.2) htext]
    simp only [Option.map_map]
    rfl

/-! ### The statements -/

theorem createRole_tokens {login password : String} (canLogin : Bool) (hlogin : IsName login)
    (hpassword : '\x00' ∉ password.toList) :
    Sql.tokens Sql.postgres (PostgresStatement.createRole login canLogin password).text.toList =
      some (PostgresStatement.createRole login canLogin password).tokens := by
  have hoption : (Sql.lexing Sql.postgres).feed .start
      ((if canLogin then " LOGIN" else " NOLOGIN") ++ " PASSWORD ").toList =
        some (Sql.words [if canLogin then "LOGIN" else "NOLOGIN", "PASSWORD"], .start) := by
    cases canLogin <;> decide
  have hhead : ((if canLogin then " LOGIN" else " NOLOGIN") ++ " PASSWORD ").toList.head?.any
      (· ≠ '"') = true := by
    cases canLogin <;> decide
  have htext : (PostgresStatement.createRole login canLogin password).text.toList =
      "CREATE ROLE ".toList ++ ((ident login).toList ++
        (((if canLogin then " LOGIN" else " NOLOGIN") ++ " PASSWORD ").toList ++
          (literal password).toList)) := by
    delta PostgresStatement.text
    simp
  rw [htext, tokens_plain (Sql.words ["CREATE", "ROLE"]) _ (by decide),
    tokens_ident_plain hlogin hhead, tokens_plain _ _ hoption, tokens_literal_end hpassword]
  rfl

theorem setMembership_tokens {role login : String} (action : PostgresAction) (hrole : IsName role)
    (hlogin : IsName login) :
    Sql.tokens Sql.postgres (PostgresStatement.setMembership action role login).text.toList =
      some (PostgresStatement.setMembership action role login).tokens := by
  have haction : (Sql.lexing Sql.postgres).feed .start (action.text ++ " ").toList =
      some (Sql.words [action.text], .start) := by
    cases action <;> decide
  have hkeyword : (Sql.lexing Sql.postgres).feed .start
      (" " ++ action.principalKeyword ++ " ").toList =
        some (Sql.words [action.principalKeyword], .start) := by
    cases action <;> decide
  have hhead : (" " ++ action.principalKeyword ++ " ").toList.head?.any (· ≠ '"') = true := by
    cases action <;> decide
  have htext : (PostgresStatement.setMembership action role login).text.toList =
      (action.text ++ " ").toList ++ ((ident role).toList ++
        ((" " ++ action.principalKeyword ++ " ").toList ++ (ident login).toList)) := by
    delta PostgresStatement.text
    simp
  rw [htext, tokens_plain _ _ haction, tokens_ident_plain hrole hhead, tokens_plain _ _ hkeyword,
    tokens_ident_end hlogin]
  rfl

theorem applyPermission_tokens {permission login : String} {target : PostgresTarget}
    (action : PostgresAction) (hpermission : SqlAccounts.isPermissionName permission.toList = true)
    (htarget : target.Valid) (hlogin : IsName login) :
    Sql.tokens Sql.postgres
        (PostgresStatement.applyPermission action permission target login).text.toList =
      some (PostgresStatement.applyPermission action permission target login).tokens := by
  have haction : (Sql.lexing Sql.postgres).feed .start (action.text ++ " ").toList =
      some (Sql.words [action.text], .start) := by
    cases action <;> decide
  have hkeyword : (Sql.lexing Sql.postgres).feed .start
      (" " ++ action.principalKeyword ++ " ").toList =
        some (Sql.words [action.principalKeyword], .start) := by
    cases action <;> decide
  have hhead : (" " ++ action.principalKeyword ++ " ").toList.head?.any (· ≠ '"') = true := by
    cases action <;> decide
  have htext : (PostgresStatement.applyPermission action permission target login).text.toList =
      (action.text ++ " ").toList ++ (permission.toList ++ (" ".toList ++ (target.text.toList ++
        ((" " ++ action.principalKeyword ++ " ").toList ++ (ident login).toList)))) := by
    delta PostgresStatement.text
    simp
  rw [htext, tokens_plain _ _ haction, tokens_permission hpermission, tokens_target htarget hhead,
    tokens_plain _ _ hkeyword, tokens_ident_end hlogin]
  delta PostgresStatement.tokens
  simp

theorem alterLogin_tokens {login : String} (enabled : Bool) (hlogin : IsName login) :
    Sql.tokens Sql.postgres (PostgresStatement.alterLogin login enabled).text.toList =
      some (PostgresStatement.alterLogin login enabled).tokens := by
  have hoption : Sql.tokens Sql.postgres ((if enabled then " LOGIN" else " NOLOGIN").toList ++ []) =
      some (Sql.words [if enabled then "LOGIN" else "NOLOGIN"]) := by
    cases enabled <;> decide
  have hhead : (if enabled then " LOGIN" else " NOLOGIN").toList.head?.any (· ≠ '"') = true := by
    cases enabled <;> decide
  have htext : (PostgresStatement.alterLogin login enabled).text.toList =
      "ALTER ROLE ".toList ++ ((ident login).toList ++
        ((if enabled then " LOGIN" else " NOLOGIN").toList ++ [])) := by
    delta PostgresStatement.text
    simp
  rw [htext, tokens_plain (Sql.words ["ALTER", "ROLE"]) _ (by decide),
    tokens_ident_plain hlogin hhead, hoption]
  rfl

theorem dropRole_tokens {role : String} (hrole : IsName role) :
    Sql.tokens Sql.postgres (PostgresStatement.dropRole role).text.toList =
      some (PostgresStatement.dropRole role).tokens := by
  have htext : (PostgresStatement.dropRole role).text.toList =
      "DROP ROLE ".toList ++ (ident role).toList := by
    delta PostgresStatement.text
    simp
  rw [htext, tokens_plain (Sql.words ["DROP", "ROLE"]) _ (by decide), tokens_ident_end hrole]
  rfl

theorem createGroupRole_tokens {role : String} (hrole : IsName role) :
    Sql.tokens Sql.postgres (PostgresStatement.createGroupRole role).text.toList =
      some (PostgresStatement.createGroupRole role).tokens := by
  have hlast : Sql.tokens Sql.postgres (" NOLOGIN".toList ++ []) = some (Sql.words ["NOLOGIN"]) := by
    decide
  have htext : (PostgresStatement.createGroupRole role).text.toList =
      "CREATE ROLE ".toList ++ ((ident role).toList ++ (" NOLOGIN".toList ++ [])) := by
    delta PostgresStatement.text
    simp
  rw [htext, tokens_plain (Sql.words ["CREATE", "ROLE"]) _ (by decide),
    tokens_ident_plain hrole (by decide), hlast]
  rfl

theorem changePassword_tokens {login password : String} (hlogin : IsName login)
    (hpassword : '\x00' ∉ password.toList) :
    Sql.tokens Sql.postgres (PostgresStatement.changePassword login password).text.toList =
      some (PostgresStatement.changePassword login password).tokens := by
  have htext : (PostgresStatement.changePassword login password).text.toList =
      "ALTER ROLE ".toList ++ ((ident login).toList ++ (" PASSWORD ".toList ++
        (literal password).toList)) := by
    delta PostgresStatement.text
    simp
  rw [htext, tokens_plain (Sql.words ["ALTER", "ROLE"]) _ (by decide),
    tokens_ident_plain hlogin (by decide), tokens_plain (Sql.words ["PASSWORD"]) _ (by decide),
    tokens_literal_end hpassword]
  rfl

/-! Those that have no value in their text. -/

theorem getRole_tokens :
    Sql.tokens Sql.postgres (PostgresStatement.getRole "").text.toList =
      some (PostgresStatement.getRole "").tokens := by
  decide +kernel

theorem searchRoles_tokens :
    Sql.tokens Sql.postgres (PostgresStatement.searchRoles "").text.toList =
      some (PostgresStatement.searchRoles "").tokens := by
  decide +kernel

theorem getGroupRole_tokens :
    Sql.tokens Sql.postgres (PostgresStatement.getGroupRole "").text.toList =
      some (PostgresStatement.getGroupRole "").tokens := by
  decide +kernel

theorem searchGroupRoles_tokens :
    Sql.tokens Sql.postgres (PostgresStatement.searchGroupRoles none).text.toList =
      some (PostgresStatement.searchGroupRoles none).tokens := by
  decide +kernel

theorem searchGroupRoles_pattern_tokens :
    Sql.tokens Sql.postgres (PostgresStatement.searchGroupRoles (some "")).text.toList =
      some (PostgresStatement.searchGroupRoles (some "")).tokens := by
  decide +kernel

/-! ### Names that were checked -/

theorem isName_login {params' : Json} {account : String}
    (h : login js data params' config = .ok account) : IsName account := by
  unfold login at h
  split at h
  · cases h
  · dsimp only [prefixedValue] at h
    split at h
    · cases h
    · next hvalid =>
      obtain rfl := Except.ok.inj h
      exact isName_of_isIdentifier (by simpa using hvalid)

theorem isName_roleName {params' : Json} {role : String}
    (h : roleName data params' config = .ok role) : IsName role := by
  unfold roleName at h
  split at h
  · cases h
  · obtain ⟨validated, hvalidated, h⟩ := bind_eq_ok.1 h
    split at h
    · cases h
    · obtain rfl := Except.ok.inj h
      obtain ⟨rfl, hvalid⟩ := SqlAccounts.isIdentifier_of_validate hvalidated
      exact isName_of_isIdentifier hvalid

theorem isName_roles {includeDefaults : Bool} {granted : List String}
    (h : roles js config data includeDefaults = .ok granted) : ∀ role ∈ granted, IsName role := by
  intro role hrole
  obtain ⟨requested, -, h⟩ := bind_eq_ok.1 h
  obtain ⟨item, -, hitem⟩ := mem_of_mapM h role hrole
  obtain ⟨validated, hvalidated, hresult⟩ := bind_eq_ok.1 hitem
  obtain ⟨rfl, hvalid⟩ := SqlAccounts.isIdentifier_of_validate hvalidated
  split at hresult
  · obtain rfl := Except.ok.inj hresult
    exact isName_of_isIdentifier hvalid
  · split at hresult
    · cases hresult
    · obtain rfl := Except.ok.inj hresult
      exact isName_of_isIdentifier hvalid

/-- Every statement that is sent is read as it is meant. -/
theorem SendsOnly.meant {r : PostgresReq} (h : SendsOnly js operation config data params r) :
    Meant r := by
  cases r with
  | query client statement =>
    intro hpassword
    cases h with
    | fixed hfixed =>
      cases statement with
      | begin => decide
      | commit => decide
      | rollback => decide
      | selectOne => decide
      | currentDatabase => decide
      | _ => cases hfixed
    | createRole hlogin hsecret => exact createRole_tokens _ (isName_login hlogin) (hpassword _ rfl)
    | grant hlogin hroles hrole =>
      exact setMembership_tokens _ (isName_roles hroles _ hrole) (isName_login hlogin)
    | permission hlogin hpermissions hgiven hscope hvalid =>
      exact applyPermission_tokens _ (permissions_valid hpermissions _ hgiven).1 hvalid
        (isName_login hlogin)
    | alterLogin hlogin => exact alterLogin_tokens _ (isName_login hlogin)
    | dropLogin hop hlogin => exact dropRole_tokens (isName_login hlogin)
    | changePassword hlogin hsecret =>
      exact changePassword_tokens (isName_login hlogin) (hpassword _ rfl)
    | getRole hlogin => exact getRole_tokens
    | searchRoles => exact searchRoles_tokens
    | createGroupRole hrole => exact createGroupRole_tokens (isName_roleName hrole)
    | dropGroupRole hrole => exact dropRole_tokens (isName_roleName hrole)
    | membership hlogin hrole =>
      exact setMembership_tokens _ (isName_roleName hrole) (isName_login hlogin)
    | getGroupRole hrole => exact getGroupRole_tokens
    | @searchGroupRoles pattern =>
      cases pattern with
      | none => exact searchGroupRoles_tokens
      | some pattern => exact searchGroupRoles_pattern_tokens
  | _ => trivial

/-- So is every statement of an operation, and of the test of the connection. -/
theorem execute_meant (js : Runtime) (payload : ConnectorPayload) :
    (execute js payload).Issues Meant := by
  cases hconfig : payload.config with
  | none =>
    unfold execute
    dsimp only
    rw [hconfig]
    exact issues_pure
  | some config => exact (execute_sends hconfig).mono fun _ h => h.meant

theorem testConnection_meant (js : Runtime) (config : Json) :
    (testConnection js config).Issues Meant := by
  have hselect : Meant (.query none .selectOne) := fun _ => by decide
  unfold testConnection
  split
  · exact issues_pure
  · refine Issues.bind ⟨trivial, fun _ => issues_settle⟩ fun _ => issues_ensuring ?_
      ⟨trivial, fun _ => issues_settle⟩
    exact ((issues_query hselect).bind fun _ => issues_pure).tryCatch fun _ => issues_pure

end PostgresRoleConnectorService

end IdmMw
