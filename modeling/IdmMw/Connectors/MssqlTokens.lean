import IdmMw.Connectors.MssqlValidation
import IdmMw.Connectors.PostgresTokens

/-!
# The tokens of the MSSQL statements

What a server makes of the statements of the connector for MSSQL logins.

* `MssqlStatement.tokens`: what is meant, with the values as names and constants of their own;
* `MssqlStatement.Valid`: the names of a statement are identifiers; no operation sends another;
* `execute_meant`: every statement that is sent is read as it is meant;
* `quoting_roundTrip`: that, for both connectors, and that a value which is quoted is one token.
-/

namespace IdmMw

open Async

namespace MssqlLoginConnectorService

variable {js : Runtime} {payload : ConnectorPayload} {config data params : Json}
  {operation : String}

/-! ### What is meant -/

def MssqlTarget.tokens : MssqlTarget → List Sql.Token
  | database name => Sql.words ["ON", "DATABASE"] ++ [.symbol ':', .symbol ':', .name name.toList]
  | schema name => Sql.words ["ON", "SCHEMA"] ++ [.symbol ':', .symbol ':', .name name.toList]
  | object schemaName objectName => Sql.words ["ON", "OBJECT"] ++
      [.symbol ':', .symbol ':', .name schemaName.toList, .symbol '.', .name objectName.toList]

/-- `USE [database];` -/
def useTokens (database : String) : List Sql.Token :=
  Sql.words ["USE"] ++ [.name database.toList, .symbol ';']

/-- `IF function(N'name') IS condition` -/
def ifTokens (function name : String) (condition : List String) : List Sql.Token :=
  Sql.words ["IF", function] ++ [.symbol '(', .text name.toList, .symbol ')'] ++
    Sql.words ("IS" :: condition)

/-- A password, of which a server joins the lines. -/
def passwordTokens (password : String) : List Sql.Token :=
  Sql.words ["WITH", "PASSWORD"] ++ [.symbol '=', .text (Sql.joinLines password.toList)]

/-- The tokens that are meant. -/
def MssqlStatement.tokens : MssqlStatement → List Sql.Token
  | selectOne => Sql.words ["SELECT", "1", "AS", "ok"]
  | createLogin login password => Sql.words ["CREATE", "LOGIN"] ++ [.name login.toList] ++
      passwordTokens password ++ [.symbol ','] ++ Sql.words ["CHECK_POLICY"] ++ [.symbol '='] ++
      Sql.words ["ON"]
  | createUser database login => useTokens database ++ ifTokens "USER_ID" login ["NULL"] ++
      Sql.words ["CREATE", "USER"] ++ [.name login.toList] ++ Sql.words ["FOR", "LOGIN"] ++
      [.name login.toList]
  | alterRole database role add login => useTokens database ++ Sql.words ["ALTER", "ROLE"] ++
      [.name role.toList] ++ Sql.words [if add then "ADD" else "DROP", "MEMBER"] ++
      [.name login.toList]
  | applyPermission database action permission target login => useTokens database ++
      Sql.words [action.text] ++ Sql.wordTokens permission.toList ++ target.tokens ++
      Sql.words [if action = .revoke then "FROM" else "TO"] ++ [.name login.toList]
  | alterLogin login enabled => Sql.words ["ALTER", "LOGIN"] ++ [.name login.toList] ++
      Sql.words [if enabled then "ENABLE" else "DISABLE"]
  | dropUser database login => useTokens database ++ ifTokens "USER_ID" login ["NOT", "NULL"] ++
      Sql.words ["DROP", "USER"] ++ [.name login.toList]
  | dropLogin login => ifTokens "SUSER_ID" login ["NOT", "NULL"] ++ Sql.words ["DROP", "LOGIN"] ++
      [.name login.toList]
  | changePassword login password => Sql.words ["ALTER", "LOGIN"] ++ [.name login.toList] ++
      passwordTokens password
  | getLogin _ => Sql.words ["SELECT", "name", "AS", "login"] ++ [.symbol ','] ++
      Sql.words ["is_disabled", "AS", "isDisabled", "FROM", "sys"] ++ [.symbol '.'] ++
      Sql.words ["sql_logins", "WHERE", "name"] ++ [.symbol '='] ++ Sql.words ["@login"]
  | searchLogins _ => Sql.words ["SELECT", "TOP", "200", "name", "AS", "login"] ++ [.symbol ','] ++
      Sql.words ["is_disabled", "AS", "isDisabled", "FROM", "sys"] ++ [.symbol '.'] ++
      Sql.words ["sql_logins", "WHERE", "name", "LIKE", "@prefix", "ORDER", "BY", "name"]
  | createRole database role => useTokens database ++
      ifTokens "DATABASE_PRINCIPAL_ID" role ["NULL"] ++ Sql.words ["CREATE", "ROLE"] ++
      [.name role.toList]
  | dropRole database role => useTokens database ++
      ifTokens "DATABASE_PRINCIPAL_ID" role ["NOT", "NULL"] ++ Sql.words ["DROP", "ROLE"] ++
      [.name role.toList]
  | getRole database _ => useTokens database ++
      Sql.words ["SELECT", "name", "AS", "role", "FROM", "sys"] ++ [.symbol '.'] ++
      Sql.words ["database_principals", "WHERE", "type"] ++ [.symbol '=', .text ['R']] ++
      Sql.words ["AND", "name"] ++ [.symbol '='] ++ Sql.words ["@role"]
  | searchRoles database => useTokens database ++
      Sql.words ["SELECT", "TOP", "200", "name", "AS", "role", "FROM", "sys"] ++ [.symbol '.'] ++
      Sql.words ["database_principals", "WHERE", "type"] ++ [.symbol '=', .text ['R']] ++
      Sql.words ["ORDER", "BY", "name"]

/-- A statement is read as it is meant. -/
def Meant : MssqlReq → Prop
  | .query statement => Sql.tokens Sql.transact statement.text.toList = some statement.tokens
  | _ => True

/-! ### Names -/

def MssqlTarget.names : MssqlTarget → List String
  | database name | schema name => [name]
  | object schemaName objectName => [schemaName, objectName]

/-- The names in the text of a statement. -/
def MssqlStatement.names : MssqlStatement → List String
  | selectOne | getLogin _ | searchLogins _ => []
  | createLogin login _ | alterLogin login _ | dropLogin login | changePassword login _ => [login]
  | createUser database login | dropUser database login => [database, login]
  | alterRole database role _ login => [database, role, login]
  | applyPermission database _ _ target login => database :: login :: target.names
  | createRole database role | dropRole database role => [database, role]
  | getRole database _ | searchRoles database => [database]

def MssqlStatement.permission? : MssqlStatement → Option String
  | applyPermission _ _ permission _ _ => some permission
  | _ => none

/-- The names are identifiers, and so is the permission, with blanks in it. -/
def MssqlStatement.Valid (statement : MssqlStatement) : Prop :=
  (∀ name ∈ statement.names, SqlAccounts.isIdentifier 127 name.toList = true) ∧
    ∀ permission ∈ statement.permission?, SqlAccounts.isPermissionName permission.toList = true

/-- A statement that is sent is valid. -/
def SendsValid : MssqlReq → Prop
  | .query statement => statement.Valid
  | _ => True

/-! ### Parts of a statement -/

theorem tokens_plain {text : String} (out : List Sql.Token) (rest : List Char)
    (h : (Sql.lexing Sql.transact).feed .start text.toList = some (out, .start)) :
    Sql.tokens Sql.transact (text.toList ++ rest) =
      (Sql.tokens Sql.transact rest).map (out ++ ·) := Sql.feed_plain h

/-- A name before a constant part of the statement. -/
theorem tokens_bracket_plain {value text : String}
    (h : SqlAccounts.isIdentifier 127 value.toList = true)
    (htext : text.toList.head?.any (· ≠ ']') = true) (rest : List Char) :
    Sql.tokens Sql.transact ((bracket value).toList ++ (text.toList ++ rest)) =
      (Sql.tokens Sql.transact (text.toList ++ rest)).map (.name value.toList :: ·) :=
  tokens_bracket (isName_of_isIdentifier h) (Sql.head?_append_ne htext rest)

/-- A name at the end of the statement. -/
theorem tokens_bracket_end {value : String}
    (h : SqlAccounts.isIdentifier 127 value.toList = true) :
    Sql.tokens Sql.transact (bracket value).toList = some [.name value.toList] := by
  have hhead : ([] : List Char).head? ≠ some ']' := by simp
  have htokens := tokens_bracket (isName_of_isIdentifier h) hhead
  rw [List.append_nil] at htokens
  rw [htokens]
  rfl

theorem tokens_literal_plain {value text : String}
    (htext : text.toList.head?.any (· ≠ '\'') = true) (rest : List Char) :
    Sql.tokens Sql.transact ((literal value).toList ++ (text.toList ++ rest)) =
      (Sql.tokens Sql.transact (text.toList ++ rest)).map
        (.text (Sql.joinLines value.toList) :: ·) :=
  tokens_literal value (Sql.head?_append_ne htext rest)

theorem tokens_literal_end (value : String) :
    Sql.tokens Sql.transact (literal value).toList = some [.text (Sql.joinLines value.toList)] := by
  have hhead : ([] : List Char).head? ≠ some '\'' := by simp
  have htokens := tokens_literal value hhead
  rw [List.append_nil] at htokens
  rw [htokens]
  rfl

/-- The database that a statement is for. -/
theorem tokens_use {database : String}
    (h : SqlAccounts.isIdentifier 127 database.toList = true) (rest : List Char) :
    Sql.tokens Sql.transact
        ("USE ".toList ++ ((bracket database).toList ++ ("; ".toList ++ rest))) =
      (Sql.tokens Sql.transact rest).map (useTokens database ++ ·) := by
  rw [tokens_plain (Sql.words ["USE"]) _ (by decide), tokens_bracket_plain h (by decide),
    tokens_plain [.symbol ';'] _ (by decide)]
  simp only [Option.map_map]
  rfl

/-- What a statement depends on. -/
theorem tokens_if {function name : String} {condition : List String} {before after : String}
    (hname : SqlAccounts.isIdentifier 127 name.toList = true)
    (hbefore : (Sql.lexing Sql.transact).feed .start before.toList =
      some (Sql.words ["IF", function] ++ [.symbol '('], .start))
    (hafter : (Sql.lexing Sql.transact).feed .start after.toList =
      some (.symbol ')' :: Sql.words ("IS" :: condition), .start))
    (hhead : after.toList.head?.any (· ≠ '\'') = true) (rest : List Char) :
    Sql.tokens Sql.transact
        (before.toList ++ ((literal name).toList ++ (after.toList ++ rest))) =
      (Sql.tokens Sql.transact rest).map (ifTokens function name condition ++ ·) := by
  rw [tokens_plain _ _ hbefore, tokens_literal_plain hhead, joinLines_of_isIdentifier hname,
    tokens_plain _ _ hafter]
  simp only [Option.map_map]
  rfl

/-- The name of a permission, and a blank. -/
theorem tokens_permission {permission : String}
    (h : SqlAccounts.isPermissionName permission.toList = true) (rest : List Char) :
    Sql.tokens Sql.transact (permission.toList ++ (" ".toList ++ rest)) =
      (Sql.tokens Sql.transact rest).map (Sql.wordTokens permission.toList ++ ·) := by
  have hfeed : (Sql.lexing Sql.transact).feed .start (permission.toList ++ [' ']) =
      some (Sql.wordTokens permission.toList, .start) :=
    Sql.feed_words rfl (SqlAccounts.wordChars_of_isPermissionName h) List.not_mem_nil
  have hblank : permission.toList ++ (" ".toList ++ rest) = permission.toList ++ [' '] ++ rest := by
    simp
  rw [hblank]
  exact Sql.feed_plain hfeed

theorem tokens_target {target : MssqlTarget}
    (h : ∀ name ∈ target.names, SqlAccounts.isIdentifier 127 name.toList = true) {text : String}
    (htext : text.toList.head?.any (· ≠ ']') = true) (rest : List Char) :
    Sql.tokens Sql.transact (target.text.toList ++ (text.toList ++ rest)) =
      (Sql.tokens Sql.transact (text.toList ++ rest)).map (target.tokens ++ ·) := by
  cases target with
  | database name =>
    have htarget : (MssqlTarget.database name).text.toList ++ (text.toList ++ rest) =
        "ON DATABASE::".toList ++ ((bracket name).toList ++ (text.toList ++ rest)) := by
      delta MssqlTarget.text
      simp
    rw [htarget, tokens_plain (Sql.words ["ON", "DATABASE"] ++ [.symbol ':', .symbol ':']) _
      (by decide), tokens_bracket_plain (h name (by simp [MssqlTarget.names])) htext,
      Option.map_map]
    rfl
  | schema name =>
    have htarget : (MssqlTarget.schema name).text.toList ++ (text.toList ++ rest) =
        "ON SCHEMA::".toList ++ ((bracket name).toList ++ (text.toList ++ rest)) := by
      delta MssqlTarget.text
      simp
    rw [htarget, tokens_plain (Sql.words ["ON", "SCHEMA"] ++ [.symbol ':', .symbol ':']) _
      (by decide), tokens_bracket_plain (h name (by simp [MssqlTarget.names])) htext,
      Option.map_map]
    rfl
  | object schemaName objectName =>
    have htarget : (MssqlTarget.object schemaName objectName).text.toList ++
        (text.toList ++ rest) = "ON OBJECT::".toList ++ ((bracket schemaName).toList ++
          (".".toList ++ ((bracket objectName).toList ++ (text.toList ++ rest)))) := by
      delta MssqlTarget.text
      simp
    rw [htarget, tokens_plain (Sql.words ["ON", "OBJECT"] ++ [.symbol ':', .symbol ':']) _
      (by decide), tokens_bracket_plain (h schemaName (by simp [MssqlTarget.names])) (by decide),
      tokens_plain [.symbol '.'] _ (by decide),
      tokens_bracket_plain (h objectName (by simp [MssqlTarget.names])) htext]
    simp only [Option.map_map]
    rfl

/-! ### The statements -/

theorem createLogin_tokens {login : String} (password : String)
    (hlogin : SqlAccounts.isIdentifier 127 login.toList = true) :
    Sql.tokens Sql.transact (MssqlStatement.createLogin login password).text.toList =
      some (MssqlStatement.createLogin login password).tokens := by
  have hlast : Sql.tokens Sql.transact (", CHECK_POLICY = ON".toList ++ []) =
      some ([.symbol ','] ++ Sql.words ["CHECK_POLICY"] ++ [.symbol '='] ++ Sql.words ["ON"]) := by
    decide
  have htext : (MssqlStatement.createLogin login password).text.toList =
      "CREATE LOGIN ".toList ++ ((bracket login).toList ++ (" WITH PASSWORD = ".toList ++
        ((literal password).toList ++ (", CHECK_POLICY = ON".toList ++ [])))) := by
    delta MssqlStatement.text
    simp
  rw [htext, tokens_plain (Sql.words ["CREATE", "LOGIN"]) _ (by decide),
    tokens_bracket_plain hlogin (by decide),
    tokens_plain (Sql.words ["WITH", "PASSWORD"] ++ [.symbol '=']) _ (by decide),
    tokens_literal_plain (by decide), hlast]
  rfl

theorem changePassword_tokens {login : String} (password : String)
    (hlogin : SqlAccounts.isIdentifier 127 login.toList = true) :
    Sql.tokens Sql.transact (MssqlStatement.changePassword login password).text.toList =
      some (MssqlStatement.changePassword login password).tokens := by
  have htext : (MssqlStatement.changePassword login password).text.toList =
      "ALTER LOGIN ".toList ++ ((bracket login).toList ++ (" WITH PASSWORD = ".toList ++
        (literal password).toList)) := by
    delta MssqlStatement.text
    simp
  rw [htext, tokens_plain (Sql.words ["ALTER", "LOGIN"]) _ (by decide),
    tokens_bracket_plain hlogin (by decide),
    tokens_plain (Sql.words ["WITH", "PASSWORD"] ++ [.symbol '=']) _ (by decide),
    tokens_literal_end]
  rfl

theorem createUser_tokens {database login : String}
    (hdatabase : SqlAccounts.isIdentifier 127 database.toList = true)
    (hlogin : SqlAccounts.isIdentifier 127 login.toList = true) :
    Sql.tokens Sql.transact (MssqlStatement.createUser database login).text.toList =
      some (MssqlStatement.createUser database login).tokens := by
  have htext : (MssqlStatement.createUser database login).text.toList =
      "USE ".toList ++ ((bracket database).toList ++ ("; ".toList ++ ("IF USER_ID(".toList ++
        ((literal login).toList ++ (") IS NULL ".toList ++ ("CREATE USER ".toList ++
          ((bracket login).toList ++ (" FOR LOGIN ".toList ++ (bracket login).toList)))))))) := by
    delta MssqlStatement.text
    simp
  rw [htext, tokens_use hdatabase,
    @tokens_if "USER_ID" _ ["NULL"] _ _ hlogin (by decide) (by decide) (by decide),
    tokens_plain (Sql.words ["CREATE", "USER"]) _ (by decide),
    tokens_bracket_plain hlogin (by decide),
    tokens_plain (Sql.words ["FOR", "LOGIN"]) _ (by decide), tokens_bracket_end hlogin]
  delta MssqlStatement.tokens
  simp

theorem dropUser_tokens {database login : String}
    (hdatabase : SqlAccounts.isIdentifier 127 database.toList = true)
    (hlogin : SqlAccounts.isIdentifier 127 login.toList = true) :
    Sql.tokens Sql.transact (MssqlStatement.dropUser database login).text.toList =
      some (MssqlStatement.dropUser database login).tokens := by
  have htext : (MssqlStatement.dropUser database login).text.toList =
      "USE ".toList ++ ((bracket database).toList ++ ("; ".toList ++ ("IF USER_ID(".toList ++
        ((literal login).toList ++ (") IS NOT NULL ".toList ++ ("DROP USER ".toList ++
          (bracket login).toList)))))) := by
    delta MssqlStatement.text
    simp
  rw [htext, tokens_use hdatabase,
    @tokens_if "USER_ID" _ ["NOT", "NULL"] _ _ hlogin (by decide) (by decide) (by decide),
    tokens_plain (Sql.words ["DROP", "USER"]) _ (by decide), tokens_bracket_end hlogin]
  delta MssqlStatement.tokens
  simp

theorem dropLogin_tokens {login : String}
    (hlogin : SqlAccounts.isIdentifier 127 login.toList = true) :
    Sql.tokens Sql.transact (MssqlStatement.dropLogin login).text.toList =
      some (MssqlStatement.dropLogin login).tokens := by
  have htext : (MssqlStatement.dropLogin login).text.toList =
      "IF SUSER_ID(".toList ++ ((literal login).toList ++ (") IS NOT NULL ".toList ++
        ("DROP LOGIN ".toList ++ (bracket login).toList))) := by
    delta MssqlStatement.text
    simp
  rw [htext,
    @tokens_if "SUSER_ID" _ ["NOT", "NULL"] _ _ hlogin (by decide) (by decide) (by decide),
    tokens_plain (Sql.words ["DROP", "LOGIN"]) _ (by decide), tokens_bracket_end hlogin]
  delta MssqlStatement.tokens
  simp

theorem alterRole_tokens {database role login : String} (add : Bool)
    (hdatabase : SqlAccounts.isIdentifier 127 database.toList = true)
    (hrole : SqlAccounts.isIdentifier 127 role.toList = true)
    (hlogin : SqlAccounts.isIdentifier 127 login.toList = true) :
    Sql.tokens Sql.transact (MssqlStatement.alterRole database role add login).text.toList =
      some (MssqlStatement.alterRole database role add login).tokens := by
  have hmember : (Sql.lexing Sql.transact).feed .start
      ((if add then " ADD" else " DROP") ++ " MEMBER ").toList =
        some (Sql.words [if add then "ADD" else "DROP", "MEMBER"], .start) := by
    cases add <;> decide
  have hhead : ((if add then " ADD" else " DROP") ++ " MEMBER ").toList.head?.any
      (· ≠ ']') = true := by
    cases add <;> decide
  have htext : (MssqlStatement.alterRole database role add login).text.toList =
      "USE ".toList ++ ((bracket database).toList ++ ("; ".toList ++ ("ALTER ROLE ".toList ++
        ((bracket role).toList ++ (((if add then " ADD" else " DROP") ++ " MEMBER ").toList ++
          (bracket login).toList))))) := by
    delta MssqlStatement.text
    simp
  rw [htext, tokens_use hdatabase, tokens_plain (Sql.words ["ALTER", "ROLE"]) _ (by decide),
    tokens_bracket_plain hrole hhead, tokens_plain _ _ hmember, tokens_bracket_end hlogin]
  delta MssqlStatement.tokens
  simp

theorem applyPermission_tokens {database permission login : String} {target : MssqlTarget}
    (action : MssqlAction) (hdatabase : SqlAccounts.isIdentifier 127 database.toList = true)
    (hpermission : SqlAccounts.isPermissionName permission.toList = true)
    (htarget : ∀ name ∈ target.names, SqlAccounts.isIdentifier 127 name.toList = true)
    (hlogin : SqlAccounts.isIdentifier 127 login.toList = true) :
    Sql.tokens Sql.transact
        (MssqlStatement.applyPermission database action permission target login).text.toList =
      some (MssqlStatement.applyPermission database action permission target login).tokens := by
  have haction : (Sql.lexing Sql.transact).feed .start (action.text ++ " ").toList =
      some (Sql.words [action.text], .start) := by
    cases action <;> decide
  have hkeyword : (Sql.lexing Sql.transact).feed .start
      (if action = .revoke then " FROM " else " TO ").toList =
        some (Sql.words [if action = .revoke then "FROM" else "TO"], .start) := by
    cases action <;> decide
  have hhead : (if action = .revoke then " FROM " else " TO ").toList.head?.any (· ≠ ']') = true :=
    by cases action <;> decide
  have htext : (MssqlStatement.applyPermission database action permission target
      login).text.toList = "USE ".toList ++ ((bracket database).toList ++ ("; ".toList ++
        ((action.text ++ " ").toList ++ (permission.toList ++ (" ".toList ++
          (target.text.toList ++ ((if action = .revoke then " FROM " else " TO ").toList ++
            (bracket login).toList))))))) := by
    delta MssqlStatement.text
    simp
  rw [htext, tokens_use hdatabase, tokens_plain _ _ haction, tokens_permission hpermission,
    tokens_target htarget hhead, tokens_plain _ _ hkeyword, tokens_bracket_end hlogin]
  delta MssqlStatement.tokens
  simp

theorem alterLogin_tokens {login : String} (enabled : Bool)
    (hlogin : SqlAccounts.isIdentifier 127 login.toList = true) :
    Sql.tokens Sql.transact (MssqlStatement.alterLogin login enabled).text.toList =
      some (MssqlStatement.alterLogin login enabled).tokens := by
  have hoption : Sql.tokens Sql.transact
      ((if enabled then " ENABLE" else " DISABLE").toList ++ []) =
        some (Sql.words [if enabled then "ENABLE" else "DISABLE"]) := by
    cases enabled <;> decide
  have hhead : (if enabled then " ENABLE" else " DISABLE").toList.head?.any (· ≠ ']') = true := by
    cases enabled <;> decide
  have htext : (MssqlStatement.alterLogin login enabled).text.toList =
      "ALTER LOGIN ".toList ++ ((bracket login).toList ++
        ((if enabled then " ENABLE" else " DISABLE").toList ++ [])) := by
    delta MssqlStatement.text
    simp
  rw [htext, tokens_plain (Sql.words ["ALTER", "LOGIN"]) _ (by decide),
    tokens_bracket_plain hlogin hhead, hoption]
  rfl

theorem createRole_tokens {database role : String}
    (hdatabase : SqlAccounts.isIdentifier 127 database.toList = true)
    (hrole : SqlAccounts.isIdentifier 127 role.toList = true) :
    Sql.tokens Sql.transact (MssqlStatement.createRole database role).text.toList =
      some (MssqlStatement.createRole database role).tokens := by
  have htext : (MssqlStatement.createRole database role).text.toList =
      "USE ".toList ++ ((bracket database).toList ++ ("; ".toList ++
        ("IF DATABASE_PRINCIPAL_ID(".toList ++ ((literal role).toList ++ (") IS NULL ".toList ++
          ("CREATE ROLE ".toList ++ (bracket role).toList)))))) := by
    delta MssqlStatement.text
    simp
  rw [htext, tokens_use hdatabase,
    @tokens_if "DATABASE_PRINCIPAL_ID" _ ["NULL"] _ _ hrole (by decide) (by decide) (by decide),
    tokens_plain (Sql.words ["CREATE", "ROLE"]) _ (by decide), tokens_bracket_end hrole]
  delta MssqlStatement.tokens
  simp

theorem dropRole_tokens {database role : String}
    (hdatabase : SqlAccounts.isIdentifier 127 database.toList = true)
    (hrole : SqlAccounts.isIdentifier 127 role.toList = true) :
    Sql.tokens Sql.transact (MssqlStatement.dropRole database role).text.toList =
      some (MssqlStatement.dropRole database role).tokens := by
  have htext : (MssqlStatement.dropRole database role).text.toList =
      "USE ".toList ++ ((bracket database).toList ++ ("; ".toList ++
        ("IF DATABASE_PRINCIPAL_ID(".toList ++ ((literal role).toList ++
          (") IS NOT NULL ".toList ++ ("DROP ROLE ".toList ++ (bracket role).toList)))))) := by
    delta MssqlStatement.text
    simp
  rw [htext, tokens_use hdatabase,
    @tokens_if "DATABASE_PRINCIPAL_ID" _ ["NOT", "NULL"] _ _ hrole (by decide) (by decide)
      (by decide),
    tokens_plain (Sql.words ["DROP", "ROLE"]) _ (by decide), tokens_bracket_end hrole]
  delta MssqlStatement.tokens
  simp

/-! Those that have no value in their text, but for the database. -/

theorem getLogin_tokens :
    Sql.tokens Sql.transact (MssqlStatement.getLogin "").text.toList =
      some (MssqlStatement.getLogin "").tokens := by
  decide +kernel

theorem searchLogins_tokens :
    Sql.tokens Sql.transact (MssqlStatement.searchLogins "").text.toList =
      some (MssqlStatement.searchLogins "").tokens := by
  decide +kernel

theorem getRole_tokens {database : String} (role : String)
    (hdatabase : SqlAccounts.isIdentifier 127 database.toList = true) :
    Sql.tokens Sql.transact (MssqlStatement.getRole database role).text.toList =
      some (MssqlStatement.getRole database role).tokens := by
  have hselect : Sql.tokens Sql.transact
      "SELECT name AS role FROM sys.database_principals WHERE type = 'R' AND name = @role".toList =
      some (Sql.words ["SELECT", "name", "AS", "role", "FROM", "sys"] ++ [.symbol '.'] ++
        Sql.words ["database_principals", "WHERE", "type"] ++ [.symbol '=', .text ['R']] ++
        Sql.words ["AND", "name"] ++ [.symbol '='] ++ Sql.words ["@role"]) := by
    decide +kernel
  have htext : (MssqlStatement.getRole database role).text.toList =
      "USE ".toList ++ ((bracket database).toList ++ ("; ".toList ++
      "SELECT name AS role FROM sys.database_principals WHERE type = 'R' AND name = @role".toList)) := by
    delta MssqlStatement.text
    simp
  rw [htext, tokens_use hdatabase, hselect]
  delta MssqlStatement.tokens
  simp

theorem searchRoles_tokens {database : String}
    (hdatabase : SqlAccounts.isIdentifier 127 database.toList = true) :
    Sql.tokens Sql.transact (MssqlStatement.searchRoles database).text.toList =
      some (MssqlStatement.searchRoles database).tokens := by
  have hselect : Sql.tokens Sql.transact
      "SELECT TOP 200 name AS role FROM sys.database_principals WHERE type = 'R' ORDER BY name".toList =
      some (Sql.words ["SELECT", "TOP", "200", "name", "AS", "role", "FROM", "sys"] ++
        [.symbol '.'] ++ Sql.words ["database_principals", "WHERE", "type"] ++
        [.symbol '=', .text ['R']] ++ Sql.words ["ORDER", "BY", "name"]) := by
    decide +kernel
  have htext : (MssqlStatement.searchRoles database).text.toList =
      "USE ".toList ++ ((bracket database).toList ++ ("; ".toList ++
      "SELECT TOP 200 name AS role FROM sys.database_principals WHERE type = 'R' ORDER BY name".toList)) := by
    delta MssqlStatement.text
    simp
  rw [htext, tokens_use hdatabase, hselect]
  delta MssqlStatement.tokens
  simp

/-- A valid statement is read as it is meant. -/
theorem MssqlStatement.Valid.meant {statement : MssqlStatement} (h : statement.Valid) :
    Sql.tokens Sql.transact statement.text.toList = some statement.tokens := by
  obtain ⟨hnames, hpermission⟩ := h
  cases statement with
  | selectOne => decide
  | createLogin login password => exact createLogin_tokens password (hnames _ (by simp [names]))
  | createUser database login =>
    exact createUser_tokens (hnames _ (by simp [names])) (hnames _ (by simp [names]))
  | alterRole database role add login =>
    exact alterRole_tokens add (hnames _ (by simp [names])) (hnames _ (by simp [names]))
      (hnames _ (by simp [names]))
  | applyPermission database action permission target login =>
    refine applyPermission_tokens action (hnames _ (by simp [names])) (hpermission _ rfl)
      (fun name hname => hnames _ ?_) (hnames _ (by simp [names]))
    simp [names, hname]
  | alterLogin login enabled => exact alterLogin_tokens enabled (hnames _ (by simp [names]))
  | dropUser database login =>
    exact dropUser_tokens (hnames _ (by simp [names])) (hnames _ (by simp [names]))
  | dropLogin login => exact dropLogin_tokens (hnames _ (by simp [names]))
  | changePassword login password =>
    exact changePassword_tokens password (hnames _ (by simp [names]))
  | getLogin login => exact getLogin_tokens
  | searchLogins pattern => exact searchLogins_tokens
  | createRole database role =>
    exact createRole_tokens (hnames _ (by simp [names])) (hnames _ (by simp [names]))
  | dropRole database role =>
    exact dropRole_tokens (hnames _ (by simp [names])) (hnames _ (by simp [names]))
  | getRole database role => exact getRole_tokens role (hnames _ (by simp [names]))
  | searchRoles database => exact searchRoles_tokens (hnames _ (by simp [names]))

/-! ### What is sent -/

theorem validateIdentifier_valid {value label result : String}
    (h : validateIdentifier value label = .ok result) :
    SqlAccounts.isIdentifier 127 result.toList = true := by
  obtain ⟨rfl, hvalid⟩ := SqlAccounts.isIdentifier_of_validate h
  exact hvalid

theorem login_valid {params' : Json} {account : String}
    (h : login js data params' config = .ok account) :
    SqlAccounts.isIdentifier 127 account.toList = true := by
  unfold login at h
  split at h
  · cases h
  · exact validateIdentifier_valid h

theorem roleName_valid {params' : Json} {role : String} (h : roleName data params' = .ok role) :
    SqlAccounts.isIdentifier 127 role.toList = true := by
  unfold roleName at h
  split at h
  · cases h
  · exact validateIdentifier_valid h

theorem database_valid {name : String} (h : database config data = .ok name) :
    SqlAccounts.isIdentifier 127 name.toList = true := validateIdentifier_valid h

theorem roles_valid {includeDefaults : Bool} {granted : List String}
    (h : roles js config data includeDefaults = .ok granted) :
    ∀ role ∈ granted, SqlAccounts.isIdentifier 127 role.toList = true := by
  intro role hrole
  obtain ⟨requested, -, h⟩ := bind_eq_ok.1 h
  obtain ⟨item, -, hitem⟩ := mem_of_mapM h role hrole
  exact validateIdentifier_valid hitem

theorem permissions_valid {includeDefaults : Bool} {given : List NormalizedMssqlPermission}
    (h : permissions js config data includeDefaults = .ok given) :
    ∀ permission ∈ given, SqlAccounts.isPermissionName permission.permission.toList = true := by
  intro permission hgiven
  obtain ⟨requested, -, h⟩ := bind_eq_ok.1 h
  obtain ⟨item, -, hitem⟩ := mem_of_mapM h permission hgiven
  unfold normalizedPermission at hitem
  split at hitem
  · obtain ⟨action, -, hitem⟩ := bind_eq_ok.1 hitem
    obtain ⟨name, hname, hitem⟩ := bind_eq_ok.1 hitem
    obtain ⟨scope, -, hitem⟩ := bind_eq_ok.1 hitem
    obtain rfl := Except.ok.inj hitem
    exact SqlAccounts.isPermissionName_of_permissionName hname
  · cases hitem

/-- What a permission is for is named by identifiers. -/
theorem permissionScope_valid {scope database : String} {target : MssqlTarget}
    (hdatabase : SqlAccounts.isIdentifier 127 database.toList = true)
    (h : permissionScope scope database = .ok target) :
    ∀ name ∈ target.names, SqlAccounts.isIdentifier 127 name.toList = true := by
  unfold permissionScope at h
  obtain ⟨value, hvalue, h⟩ := bind_eq_ok.1 h
  have hscope := permissionScopeValue_eq hvalue
  unfold permissionScopeValue at hvalue
  rw [hscope] at hvalue
  dsimp only at hvalue
  split at h
  · obtain rfl := Except.ok.inj h
    simpa [MssqlTarget.names] using hdatabase
  · next hne =>
    rw [if_neg hne] at hvalue
    split at h
    · next name hname =>
      obtain rfl := Except.ok.inj h
      rw [hname] at hvalue
      obtain ⟨validated, hvalid, -⟩ := bind_eq_ok.1 hvalue
      simpa [MssqlTarget.names] using (SqlAccounts.isIdentifier_of_validate hvalid).2
    · next hschema =>
      rw [hschema] at hvalue
      dsimp only at hvalue
      split at hvalue
      · next objectName hobject =>
        rw [SqlAccounts.drop_of_afterPrefix hobject] at h
        split at hvalue
        · cases hvalue
        · obtain ⟨validated, hvalidated, -⟩ := bind_eq_ok.1 hvalue
          have hnames := forall_of_mapM hvalidated fun name _ hname =>
            (SqlAccounts.isIdentifier_of_validate hname).2
          split at h
          · next schemaName name rest hsplit =>
            obtain rfl := Except.ok.inj h
            rw [hsplit] at hnames
            intro name' hname'
            simp only [MssqlTarget.names, List.mem_cons, List.not_mem_nil, or_false] at hname'
            rcases hname' with rfl | rfl
            · exact hnames _ (by simp)
            · exact hnames _ (by simp)
          · cases h
      · cases hvalue

theorem issues_exec {P : MssqlReq → Prop} {statement : MssqlStatement}
    (h : P (.query statement)) : (exec statement).Issues P :=
  Issues.bind ⟨h, fun _ => issues_settle⟩ fun _ => issues_pure

theorem issues_forEach {P : MssqlReq → Prop} {α : Type} {step : α → MssqlProg Unit}
    {items : List α} (h : ∀ item ∈ items, (step item).Issues P) :
    (forEach step items).Issues P := by
  induction items with
  | nil => exact issues_pure
  | cons item items ih =>
    exact (h item List.mem_cons_self).bind fun _ =>
      ih fun item hitem => h item (List.mem_cons_of_mem _ hitem)

/-- A statement with these names and without a permission. -/
theorem valid_of_names {statement : MssqlStatement} (hpermission : statement.permission? = none)
    (h : ∀ name ∈ statement.names, SqlAccounts.isIdentifier 127 name.toList = true) :
    SendsValid (.query statement) := by
  refine ⟨h, fun permission hmem => ?_⟩
  rw [hpermission] at hmem
  cases hmem

/-- What is granted to a login. -/
theorem grant_sendsValid {account name : String} {includeDefaults : Bool} {α : Type}
    {rest : List String → List NormalizedMssqlPermission → MssqlProg α}
    (hlogin : SqlAccounts.isIdentifier 127 account.toList = true)
    (hdatabase : SqlAccounts.isIdentifier 127 name.toList = true)
    (hrest : ∀ granted given, (rest granted given).Issues SendsValid) :
    (Async.ofExcept (roles js config data includeDefaults) >>= fun granted =>
      forEach (fun role => exec (.alterRole name role true account)) granted >>= fun _ =>
      Async.ofExcept (permissions js config data includeDefaults) >>= fun given =>
      forEach (applyPermission name account) given >>= fun _ =>
      rest granted given).Issues SendsValid := by
  refine issues_check fun granted hroles => (issues_forEach fun role hrole => ?_).bind fun _ =>
    issues_check fun given hpermissions => (issues_forEach fun permission hgiven => ?_).bind
      fun _ => hrest granted given
  · have hvalid := roles_valid hroles role hrole
    exact issues_exec (valid_of_names rfl (by simp [MssqlStatement.names, *]))
  · refine issues_check fun target htarget => issues_exec ⟨?_, ?_⟩
    · have hnames := permissionScope_valid hdatabase htarget
      simpa [MssqlStatement.names, hlogin, hdatabase] using hnames
    · simpa [MssqlStatement.permission?] using permissions_valid hpermissions permission hgiven

/-- No operation sends another statement. -/
theorem executeWithPool_sendsValid :
    (executeWithPool js operation config data params).Issues SendsValid := by
  have hexec : ∀ {statement result}, SendsValid (.query statement) →
      (exec statement >>= fun _ => (Pure.pure result : MssqlProg Json)).Issues SendsValid :=
    fun h => (issues_exec h).bind fun _ => issues_pure
  have hquery : ∀ {statement} {result : List Json → Json}, SendsValid (.query statement) →
      (query statement >>= fun records => (Pure.pure (result records) : MssqlProg Json)).Issues
        SendsValid :=
    fun h => Issues.bind ⟨h, fun _ => issues_settle⟩ fun _ => issues_pure
  have hone : ∀ {statement : MssqlStatement} {account : String},
      statement.permission? = none → statement.names = [account] →
      SqlAccounts.isIdentifier 127 account.toList = true → SendsValid (.query statement) :=
    fun hpermission hnames hlogin => valid_of_names hpermission (by simpa [hnames] using hlogin)
  have hcreateLogin : (createLogin js config data).Issues SendsValid := by
    rw [createLogin_eq]
    refine issues_check fun account hlogin => issues_check fun secret _ =>
      issues_check fun name hdatabase => ?_
    have haccount := login_valid hlogin
    have hname := database_valid hdatabase
    refine (issues_exec (hone rfl rfl haccount)).bind fun _ =>
      (issues_exec (valid_of_names rfl (by simp [MssqlStatement.names, *]))).bind fun _ => ?_
    refine grant_sendsValid haccount hname fun granted given => ?_
    split
    · exact (issues_exec (hone rfl rfl haccount)).bind fun _ => issues_pure
    · exact issues_pure
  have hupdateLogin : (updateLogin js config data params).Issues SendsValid := by
    rw [updateLogin_eq]
    refine issues_check fun account hlogin => issues_check fun name hdatabase =>
      Issues.bind ?_ fun _ => grant_sendsValid (login_valid hlogin) (database_valid hdatabase)
        fun granted given => issues_pure
    cases enabledFlag data with
    | none => exact issues_pure
    | some enabled => exact issues_exec (hone rfl rfl (login_valid hlogin))
  have hdeleteLogin : (deleteLogin js config data params).Issues SendsValid := by
    refine issues_check fun account hlogin => issues_check fun name hdatabase => ?_
    have haccount := login_valid hlogin
    have hname := database_valid hdatabase
    split
    · exact hexec (hone rfl rfl haccount)
    · exact (issues_exec (valid_of_names rfl (by simp [MssqlStatement.names, *]))).bind fun _ =>
        hexec (hone rfl rfl haccount)
  have hsetEnabled : ∀ enabled, (setLoginEnabled js config data params enabled).Issues SendsValid :=
    fun enabled => issues_check fun account hlogin => hexec (hone rfl rfl (login_valid hlogin))
  have hget : (getLogin js config data params).Issues SendsValid :=
    issues_check fun account _ => hquery (valid_of_names rfl (by simp [MssqlStatement.names]))
  have hsearch : (searchLogins js config data).Issues SendsValid :=
    issues_check fun pre _ => hquery (valid_of_names rfl (by simp [MssqlStatement.names]))
  have hcreateRole : (createRole config data).Issues SendsValid := by
    refine issues_check fun role hrole => issues_check fun name hdatabase => ?_
    have hvalid := roleName_valid hrole
    have hname := database_valid hdatabase
    exact hexec (valid_of_names rfl (by simp [MssqlStatement.names, *]))
  have hdeleteRole : (deleteRole config data params).Issues SendsValid := by
    refine issues_check fun role hrole => issues_check fun name hdatabase => ?_
    have hvalid := roleName_valid hrole
    have hname := database_valid hdatabase
    split
    · exact issues_throw
    · exact hexec (valid_of_names rfl (by simp [MssqlStatement.names, *]))
  have hmembership : ∀ add, (setRoleMembership js config data params add).Issues SendsValid := by
    refine fun add => issues_check fun account hlogin => issues_check fun role hrole =>
      issues_check fun name hdatabase => ?_
    have haccount := login_valid hlogin
    have hvalid := roleName_valid hrole
    have hname := database_valid hdatabase
    exact hexec (valid_of_names rfl (by simp [MssqlStatement.names, *]))
  unfold executeWithPool
  split
  · exact hquery (valid_of_names rfl (by simp [MssqlStatement.names]))
  · exact issues_pure
  · exact hcreateLogin
  · exact hupdateLogin
  · exact hdeleteLogin
  · exact hsetEnabled _
  · exact hsetEnabled _
  · exact hsetEnabled _
  · exact hsetEnabled _
  · exact issues_check fun account hlogin => issues_check fun secret _ =>
      hexec (hone rfl rfl (login_valid hlogin))
  · exact hget
  · exact hget
  · exact hsearch
  · exact hsearch
  · exact hsearch
  · exact hcreateRole
  · exact issues_check fun role _ => issues_pure
  · exact hdeleteRole
  · exact hmembership _
  · exact hmembership _
  · exact issues_check fun role _ => issues_check fun name hdatabase =>
      hquery (hone rfl rfl (database_valid hdatabase))
  · exact issues_check fun name hdatabase => hquery (hone rfl rfl (database_valid hdatabase))
  · exact issues_throw

theorem SendsValid.meant {r : MssqlReq} (h : SendsValid r) : Meant r := by
  cases r with
  | query statement => exact MssqlStatement.Valid.meant h
  | _ => trivial

/-- Every statement of an operation is read as it is meant, and so is the test of the connection. -/
theorem execute_meant (js : Runtime) (payload : ConnectorPayload) :
    (execute js payload).Issues Meant := by
  refine Issues.mono (P := SendsValid) ?_ fun _ h => h.meant
  unfold execute
  dsimp only
  cases payload.config.filter fun config => isTruthy (config.get? "connectionString") with
  | none => exact issues_pure
  | some config =>
    exact Issues.bind ⟨trivial, fun _ => issues_settle⟩ fun _ => issues_ensuring
      ((executeWithPool_sendsValid.bind fun _ => issues_pure).tryCatch fun _ => issues_pure)
      ⟨trivial, fun _ => issues_settle⟩

theorem testConnection_meant (js : Runtime) (config : Json) :
    (testConnection js config).Issues Meant := by
  have hselect : Meant (.query .selectOne) := by
    show Sql.tokens Sql.transact "SELECT 1 AS ok".toList = _
    decide
  unfold testConnection
  split
  · exact issues_pure
  · refine Issues.tryCatch (Issues.bind ⟨trivial, fun _ => issues_settle⟩ fun _ => ?_)
      fun _ => issues_pure
    exact issues_ensuring (Issues.bind ⟨hselect, fun _ => issues_settle⟩ fun _ => issues_pure)
      ⟨trivial, fun _ => issues_settle⟩

end MssqlLoginConnectorService

/-! ### Both connectors -/

/-- A quoted value that a server accepts is one token, and what follows it is left as it is, unless
this goes on with the constant. In the statements that are sent every value is a token of its own,
and the others are as they are meant. -/
theorem quoting_roundTrip :
    RoundTrip Sql.postgres PostgresRoleConnectorService.ident .name '"'
      PostgresRoleConnectorService.IsName (fun _ => True) ∧
    RoundTrip Sql.postgres PostgresRoleConnectorService.literal .text '\''
      (fun value => '\x00' ∉ value.toList) (fun rest => Sql.goesOn false rest = false) ∧
    RoundTrip Sql.transact MssqlLoginConnectorService.bracket .name ']'
      MssqlLoginConnectorService.IsName (fun _ => True) ∧
    RoundTrip Sql.transact MssqlLoginConnectorService.literal .text '\''
      (fun value => ¬ Sql.HasJoint value.toList) (fun _ => True) ∧
    ∀ (js : Runtime) (payload : ConnectorPayload) (config : Json),
      (PostgresRoleConnectorService.execute js payload).Issues PostgresRoleConnectorService.Meant ∧
      (PostgresRoleConnectorService.testConnection js config).Issues
        PostgresRoleConnectorService.Meant ∧
      (MssqlLoginConnectorService.execute js payload).Issues MssqlLoginConnectorService.Meant ∧
      (MssqlLoginConnectorService.testConnection js config).Issues
        MssqlLoginConnectorService.Meant := by
  refine ⟨?_, ?_, ?_, ?_, fun js payload config => ⟨?_, ?_, ?_, ?_⟩⟩
  · intro value hname rest hrest _
    exact PostgresRoleConnectorService.tokens_ident hname hrest
  · intro value hzero rest hquote hrest
    exact PostgresRoleConnectorService.tokens_literal hzero hquote hrest
  · intro value hname rest hrest _
    exact MssqlLoginConnectorService.tokens_bracket hname hrest
  · intro value hjoint rest hquote _
    rw [MssqlLoginConnectorService.tokens_literal value hquote, Sql.joinLines_eq_self hjoint]
  · exact PostgresRoleConnectorService.execute_meant js payload
  · exact PostgresRoleConnectorService.testConnection_meant js config
  · exact MssqlLoginConnectorService.execute_meant js payload
  · exact MssqlLoginConnectorService.testConnection_meant js config

/-- Not every value is: an empty name is not accepted, a constant goes on behind a line break, and
MSSQL joins the lines of a constant. -/
theorem quoting_not_roundTrip :
    ¬ RoundTrip Sql.postgres PostgresRoleConnectorService.ident .name '"'
      (fun _ => True) (fun _ => True) ∧
    ¬ RoundTrip Sql.postgres PostgresRoleConnectorService.literal .text '\''
      (fun _ => True) (fun _ => True) ∧
    ¬ RoundTrip Sql.transact MssqlLoginConnectorService.bracket .name ']'
      (fun _ => True) (fun _ => True) ∧
    ¬ RoundTrip Sql.transact MssqlLoginConnectorService.literal .text '\''
      (fun _ => True) (fun _ => True) := by
  refine ⟨fun h => ?_, fun h => ?_, fun h => ?_, fun h => ?_⟩
  · have hempty := h "" trivial [] (by simp) trivial
    exact absurd hempty (by decide)
  · have hgoes := h "a" trivial "\n'b'".toList (by decide) trivial
    exact absurd hgoes (by decide)
  · have hempty := h "" trivial [] (by simp) trivial
    exact absurd hempty (by decide)
  · have hjoined := h "a\\\nb" trivial [] (by simp) trivial
    exact absurd hjoined (by decide)

end IdmMw
