import IdmMw.Connectors.SshRuns
import IdmMw.Library.Split

/-!
# What is checked before a command is sent

An operation on one server that the connector itself rejects should have sent no command
(`RejectsFirst`), and what `chpasswd` is given to read should be one line, for the account
(`OneLine`).

* `rejectsFirst_iff`: the password of a new account is read after the account is made, so a missing
  one is noticed too late; nothing else is;
* `oneLine_iff`: the line is one line unless the password has a line feed in it.
-/

namespace IdmMw

open Async

namespace LinuxConnectorService

variable {js : Runtime} {payload : ConnectorPayload} {config data params : Json}

/-! ### The laws -/

/-- The command did not fail. -/
def Succeeded (e : Async.Event LinuxAns) : Prop :=
  match e with
  | ⟨.ssh _ _ _, a⟩ => a.isOk = true
  | _ => True

/-- A program that is rejected although no command failed has sent none. -/
def RejectsFirst {α : Type} (p : LinuxProg α) : Prop :=
  ∀ t e, p.Runs t (.error e) → (∀ v ∈ t, Succeeded v) → ∀ v ∈ t, ¬ IsSsh v.req

/-- What `chpasswd` is given is one line: the login, a colon and the password of the payload. -/
def OneLine (js : Runtime) (payload : ConnectorPayload) (config : Json) : Prop :=
  ∀ t x, (executeSsh js payload config).Runs t x → ∀ v ∈ t, ∀ connection input,
    v.req = .ssh connection "sudo chpasswd" (some input) →
    ∃ account secret, login js payload.data payload.params config = .ok account ∧
      password payload.data true = .ok secret ∧
      input.toList.splitOn '\n' = [(account ++ ":" ++ secret).toList, []]

/-- An account is made whose password is missing. -/
def LacksPassword (js : Runtime) (payload : ConnectorPayload) (config : Json) : Prop :=
  payload.operation = "user.create" ∧ Sends js payload config ∧
    ∃ e, password payload.data true = .error e

/-- A password is set that has a line feed in it. -/
def BreaksLine (js : Runtime) (payload : ConnectorPayload) (config : Json) : Prop :=
  payload.operation ∈ ["user.create", "user.changePassword"] ∧ Sends js payload config ∧
    ∃ secret, password payload.data true = .ok secret ∧ '\n' ∈ secret.toList

/-! ### Programs that are rejected first -/

section Programs

variable {α β : Type}

/-- The program is not rejected if no command fails. -/
def NeverRejects (p : LinuxProg α) : Prop :=
  ∀ t e, p.Runs t (.error e) → ¬ ∀ v ∈ t, Succeeded v

theorem neverRejects_pure (a : α) : NeverRejects (Pure.pure a : LinuxProg α) := by
  rintro t e ⟨-, h⟩
  cases h

theorem NeverRejects.rejectsFirst {p : LinuxProg α} (h : NeverRejects p) : RejectsFirst p :=
  fun t e hrun ht => absurd ht (h t e hrun)

theorem rejectsFirst_settle (x : Except JsError α) : RejectsFirst (settle x : LinuxProg α) := by
  rintro t e ⟨rfl, -⟩ - v hv
  cases hv

theorem rejectsFirst_check {x : Except JsError α} {f : α → LinuxProg β}
    (h : ∀ a, x = .ok a → RejectsFirst (f a)) : RejectsFirst (Async.ofExcept x >>= f) := by
  cases x with
  | error e => exact rejectsFirst_settle (.error e)
  | ok a => exact h a rfl

/-- After a command nothing is rejected. -/
theorem neverRejects_command {command : String} {input : Option String} {f : String → LinuxProg β}
    (hconnect : (connectConfig config).isOk = true) (h : ∀ out, NeverRejects (f out)) :
    NeverRejects (execSshWithInput config command input >>= f) := by
  unfold execSshWithInput
  cases hc : connectConfig config with
  | error e =>
    rw [hc] at hconnect
    cases hconnect
  | ok connection =>
    rintro t e ⟨a, t', rfl, hrun⟩ ht
    have hsucceeded : a.isOk = true := ht _ List.mem_cons_self
    cases a with
    | error e' => cases hsucceeded
    | ok out => exact h out t' e hrun fun v hv => ht v (List.mem_cons_of_mem _ hv)

theorem rejectsFirst_command {command : String} {input : Option String} {f : String → LinuxProg β}
    (h : (connectConfig config).isOk = true → ∀ out, NeverRejects (f out)) :
    RejectsFirst (execSshWithInput config command input >>= f) := by
  cases hc : connectConfig config with
  | error e =>
    unfold execSshWithInput
    rw [hc]
    exact rejectsFirst_settle (.error e)
  | ok connection =>
    have hconnect : (connectConfig config).isOk = true := by rw [hc]; rfl
    exact (neverRejects_command hconnect (h hconnect)).rejectsFirst

theorem rejectsFirst_disable {account : String} {f : Unit → LinuxProg β}
    (h : NeverRejects (f ())) : RejectsFirst (disableSshUser config account >>= f) := by
  have hassoc : disableSshUser config account >>= f =
      execSshWithInput config (disableCommand account) none >>= fun _ => f () := by
    unfold disableSshUser execSsh execSshWithInput
    cases connectConfig config with
    | error e => rfl
    | ok connection =>
      show await _ _ = await _ _
      congr 1
      funext a
      cases a <;> rfl
  rw [hassoc]
  exact rejectsFirst_command fun _ _ => h

end Programs

/-! ### A new account -/

theorem executeSsh_create (h : payload.operation = "user.create") :
    executeSsh js payload config = sshCreate js config payload.data payload.params := by
  unfold executeSsh
  rw [h]
  rfl

theorem executeSsh_changePassword (h : payload.operation = "user.changePassword") :
    executeSsh js payload config = sshChangePassword js config payload.data payload.params := by
  unfold executeSsh
  rw [h]
  rfl

/-- What the checks of a new account are. -/
theorem Sends.create (h : Sends js payload config) (hop : payload.operation = "user.create") :
    ∃ account command connection, login js payload.data payload.params config = .ok account ∧
      userAddCommand js config account payload.data = .ok command ∧
      connectConfig config = .ok connection := by
  obtain ⟨hfirst, hconnect⟩ := h
  obtain ⟨connection, hconnect⟩ := Async.exists_of_isOk hconnect
  unfold firstCommand at hfirst
  rw [hop] at hfirst
  dsimp only at hfirst
  cases haccount : login js payload.data payload.params config with
  | error e =>
    rw [haccount] at hfirst
    cases hfirst
  | ok account =>
    rw [haccount] at hfirst
    obtain ⟨command, hcommand⟩ := Async.exists_of_isOk hfirst
    exact ⟨account, command, connection, rfl, hcommand, hconnect⟩

/-- What follows when the account is made. -/
def newPassword (config data : Json) (account : String) : LinuxProg Json := do
  let secret ← Async.ofExcept (password data true)
  let _ ← execSshWithInput config "sudo chpasswd" (some (passwordInput account secret))
  Pure.pure (.obj [("login", .str account), ("created", .bool true)])

theorem execSshWithInput_eq {connection : SshConnection}
    (h : connectConfig config = .ok connection) (command : String) (input : Option String) :
    execSshWithInput config command input = await (.ssh connection command input) settle := by
  unfold execSshWithInput
  rw [h]
  rfl

/-- A new account is made, and then the password is read. -/
theorem sshCreate_eq {account command : String} {connection : SshConnection}
    (haccount : login js data params config = .ok account)
    (hcommand : userAddCommand js config account data = .ok command)
    (hconnect : connectConfig config = .ok connection) :
    sshCreate js config data params =
      await (.ssh connection command none) settle >>= fun _ => newPassword config data account := by
  unfold sshCreate execSsh
  rw [haccount]
  show Async.ofExcept (userAddCommand js config account data) >>= _ = _
  rw [hcommand]
  show execSshWithInput config command none >>= _ = _
  rw [execSshWithInput_eq hconnect]
  rfl

/-- A new account is rejected first if the password is there. -/
theorem rejectsFirst_create {secret : String} (hsecret : password data true = .ok secret) :
    RejectsFirst (sshCreate js config data params) := by
  refine rejectsFirst_check fun account _ => rejectsFirst_check fun command _ =>
    rejectsFirst_command fun hconnect out => ?_
  rw [hsecret]
  exact neverRejects_command hconnect fun out => neverRejects_pure _

/-- The operations but for new accounts. -/
theorem rejectsFirst_of_ne_create (hop : payload.operation ≠ "user.create") :
    RejectsFirst (executeSsh js payload config) := by
  have hcommand : ∀ command input (f : String → Json),
      RejectsFirst (execSshWithInput config command input >>= fun out => Pure.pure (f out)) :=
    fun command input f => rejectsFirst_command fun _ out => neverRejects_pure _
  have hdelete : RejectsFirst (sshDelete js config payload.data payload.params) := by
    refine rejectsFirst_check fun account _ => ?_
    split
    · exact hcommand _ _ _
    · exact rejectsFirst_disable (neverRejects_pure _)
  unfold executeSsh
  split
  · exact hcommand _ _ _
  · exact rejectsFirst_settle _
  · next h => exact absurd h hop
  · exact rejectsFirst_check fun account _ => rejectsFirst_check fun command _ => hcommand _ _ _
  · exact hdelete
  · exact rejectsFirst_check fun account _ => rejectsFirst_disable (neverRejects_pure _)
  · exact rejectsFirst_check fun account _ => rejectsFirst_disable (neverRejects_pure _)
  · exact rejectsFirst_check fun account _ => hcommand _ _ _
  · exact rejectsFirst_check fun account _ => hcommand _ _ _
  · exact rejectsFirst_check fun account _ => rejectsFirst_check fun secret _ => hcommand _ _ _
  · exact rejectsFirst_check fun account _ => hcommand _ _ _
  · exact rejectsFirst_check fun account _ => hcommand _ _ _
  · exact hcommand _ _ _
  · exact hcommand _ _ _
  · exact hcommand _ _ _
  · exact rejectsFirst_settle _

/-- The account is made, and then the operation is rejected. -/
theorem not_rejectsFirst_of_lacksPassword (h : LacksPassword js payload config) :
    ¬ RejectsFirst (executeSsh js payload config) := by
  obtain ⟨hop, hsends, e, hsecret⟩ := h
  obtain ⟨account, command, connection, haccount, hcommand, hconnect⟩ := hsends.create hop
  intro hfirst
  rw [executeSsh_create hop, sshCreate_eq haccount hcommand hconnect] at hfirst
  refine hfirst [⟨.ssh connection command none, .ok ""⟩] e ⟨_, [], rfl, ?_⟩
    (List.forall_mem_singleton.2 rfl) _ List.mem_cons_self trivial
  show (newPassword config payload.data account).Runs [] (.error e)
  unfold newPassword
  rw [hsecret]
  exact ⟨rfl, rfl⟩

/-- An operation that the connector rejects has sent no command, except for a new account without a
password. -/
theorem rejectsFirst_iff (js : Runtime) (payload : ConnectorPayload) (config : Json) :
    RejectsFirst (executeSsh js payload config) ↔ ¬ LacksPassword js payload config := by
  constructor
  · exact fun h hlacks => not_rejectsFirst_of_lacksPassword hlacks h
  · intro h
    by_cases hop : payload.operation = "user.create"
    · by_cases hsends : Sends js payload config
      · cases hsecret : password payload.data true with
        | error e => exact absurd ⟨hop, hsends, e, hsecret⟩ h
        | ok secret =>
          rw [executeSsh_create hop]
          exact rejectsFirst_create hsecret
      · obtain ⟨x, hover⟩ := executeSsh_of_not_sends hsends
        rw [hover]
        exact rejectsFirst_settle x
    · exact rejectsFirst_of_ne_create hop

/-! ### The line for `chpasswd` -/

theorem not_mem_of_isAccountName {text : List Char} (h : isAccountName text = true) :
    '\n' ∉ text := by
  cases text with
  | nil => exact List.not_mem_nil
  | cons c cs =>
    simp only [isAccountName, Bool.and_eq_true, List.all_eq_true] at h
    obtain ⟨⟨hc, -⟩, hcs⟩ := h
    intro hmem
    rcases List.mem_cons.1 hmem with rfl | hmem
    · exact absurd hc (by decide)
    · exact absurd (hcs _ hmem) (by decide)

/-- A login is an account name. -/
theorem isAccountName_login {account : String} (h : login js data params config = .ok account) :
    isAccountName account.toList = true := by
  unfold login at h
  split at h
  · cases h
  · dsimp only at h
    split at h
    · next hname =>
      obtain rfl := Except.ok.inj h
      exact hname
    · cases h

/-- The request gives `chpasswd` what is made of the login and the password. -/
def GivesPassword (js : Runtime) (payload : ConnectorPayload) (config : Json) (r : LinuxReq) :
    Prop :=
  ∀ connection input, r = .ssh connection "sudo chpasswd" (some input) →
    ∃ account secret, payload.operation ∈ ["user.create", "user.changePassword"] ∧
      login js payload.data payload.params config = .ok account ∧
      password payload.data true = .ok secret ∧ input = passwordInput account secret

theorem givesPassword_of_none (connection : SshConnection) (command : String) :
    GivesPassword js payload config (.ssh connection command none) := by
  intro _ _ h
  cases h

theorem execSsh_issues {P : LinuxReq → Prop} {command : String} {input : Option String}
    (h : ∀ connection, P (.ssh connection command input)) :
    (execSshWithInput config command input).Issues P :=
  issues_ofExcept.bind fun connection => ⟨h connection, fun _ => issues_settle⟩

/-- The two operations that set a password give it to `chpasswd`, the others nothing. -/
theorem executeSsh_givesPassword :
    (executeSsh js payload config).Issues (GivesPassword js payload config) := by
  have hcommand : ∀ command (f : String → LinuxProg Json),
      (∀ out, (f out).Issues (GivesPassword js payload config)) →
      (execSshWithInput config command none >>= f).Issues (GivesPassword js payload config) :=
    fun command f hf => (execSsh_issues fun _ => givesPassword_of_none _ _).bind hf
  have hdisable : ∀ account,
      (disableSshUser config account).Issues (GivesPassword js payload config) :=
    fun account => (execSsh_issues fun _ => givesPassword_of_none _ _).bind fun _ => issues_pure
  have hdelete : (sshDelete js config payload.data payload.params).Issues
      (GivesPassword js payload config) := by
    refine issues_check fun account _ => ?_
    split
    · exact hcommand _ _ fun _ => issues_pure
    · exact (hdisable account).bind fun _ => issues_pure
  have hpassword : ∀ account secret (f : String → Json),
      payload.operation ∈ ["user.create", "user.changePassword"] →
      login js payload.data payload.params config = .ok account →
      password payload.data true = .ok secret →
      (execSshWithInput config "sudo chpasswd" (some (passwordInput account secret)) >>= fun out =>
        Pure.pure (f out)).Issues (GivesPassword js payload config) := by
    intro account secret f hop haccount hsecret
    refine (execSsh_issues fun connection => ?_).bind fun _ => issues_pure
    rintro _ input ⟨⟩
    exact ⟨account, secret, hop, haccount, hsecret, rfl⟩
  unfold executeSsh
  split
  · exact hcommand _ _ fun _ => issues_pure
  · exact issues_pure
  · next hop =>
    exact issues_check fun account haccount => issues_check fun command _ =>
      hcommand _ _ fun _ => issues_check fun secret hsecret =>
        hpassword account secret _ (by simp [hop]) haccount hsecret
  · exact issues_check fun account _ => issues_check fun command _ =>
      hcommand _ _ fun _ => issues_pure
  · exact hdelete
  · exact issues_check fun account _ => (hdisable account).bind fun _ => issues_pure
  · exact issues_check fun account _ => (hdisable account).bind fun _ => issues_pure
  · exact issues_check fun account _ => hcommand _ _ fun _ => issues_pure
  · exact issues_check fun account _ => hcommand _ _ fun _ => issues_pure
  · next hop =>
    exact issues_check fun account haccount => issues_check fun secret hsecret =>
      hpassword account secret _ (by simp [hop]) haccount hsecret
  · exact issues_check fun account _ => hcommand _ _ fun _ => issues_pure
  · exact issues_check fun account _ => hcommand _ _ fun _ => issues_pure
  · exact hcommand _ _ fun _ => issues_pure
  · exact hcommand _ _ fun _ => issues_pure
  · exact hcommand _ _ fun _ => issues_pure
  · exact issues_throw

/-- The input is one line exactly if the password has no line feed in it. -/
theorem splitOn_passwordInput {account : String} (haccount : isAccountName account.toList = true)
    (secret : String) :
    (passwordInput account secret).toList.splitOn '\n' = [(account ++ ":" ++ secret).toList, []] ↔
      '\n' ∉ secret.toList := by
  have hinput : (passwordInput account secret).toList =
      (account ++ ":" ++ secret).toList ++ ['\n'] := by
    simp [passwordInput]
  rw [hinput, List.splitOn_append_singleton_iff]
  have haccount := not_mem_of_isAccountName haccount
  simp [String.toList_append, haccount]

/-- What the checks of a change of the password are. -/
theorem Sends.changePassword (h : Sends js payload config)
    (hop : payload.operation = "user.changePassword") :
    ∃ account secret connection, login js payload.data payload.params config = .ok account ∧
      password payload.data true = .ok secret ∧ connectConfig config = .ok connection := by
  obtain ⟨hfirst, hconnect⟩ := h
  obtain ⟨connection, hconnect⟩ := Async.exists_of_isOk hconnect
  unfold firstCommand at hfirst
  rw [hop] at hfirst
  dsimp only at hfirst
  cases haccount : login js payload.data payload.params config with
  | error e =>
    rw [haccount] at hfirst
    cases hfirst
  | ok account =>
    cases hsecret : password payload.data true with
    | error e =>
      rw [haccount, hsecret] at hfirst
      cases hfirst
    | ok secret => exact ⟨account, secret, connection, rfl, rfl, hconnect⟩

/-- Where the checks pass and the commands succeed, the password is given to `chpasswd`. -/
theorem exists_run_givesPassword (hsends : Sends js payload config)
    (hop : payload.operation ∈ ["user.create", "user.changePassword"]) {secret : String}
    (hsecret : password payload.data true = .ok secret) :
    ∃ account connection t x, login js payload.data payload.params config = .ok account ∧
      (executeSsh js payload config).Runs t x ∧
      ∃ v ∈ t, v.req = .ssh connection "sudo chpasswd" (some (passwordInput account secret)) := by
  rcases List.mem_cons.1 hop with hop | hop
  · obtain ⟨account, command, connection, haccount, hcommand, hconnect⟩ := hsends.create hop
    refine ⟨account, connection, [⟨.ssh connection command none, .ok ""⟩,
      ⟨.ssh connection "sudo chpasswd" (some (passwordInput account secret)), .ok ""⟩],
      .ok (.obj [("login", .str account), ("created", .bool true)]), haccount, ?_, _, List.mem_cons_of_mem _ List.mem_cons_self, rfl⟩
    rw [executeSsh_create hop, sshCreate_eq haccount hcommand hconnect]
    refine ⟨_, _, rfl, ?_⟩
    show (newPassword config payload.data account).Runs _ _
    unfold newPassword
    rw [hsecret]
    show (execSshWithInput config _ _ >>= fun _ => Pure.pure _ : LinuxProg Json).Runs _ _
    rw [execSshWithInput_eq hconnect]
    exact ⟨_, _, rfl, rfl, rfl⟩
  · have hop := List.mem_singleton.1 hop
    obtain ⟨account, secret', connection, haccount, hsecret', hconnect⟩ := hsends.changePassword hop
    obtain rfl := Except.ok.inj (hsecret'.symm.trans hsecret)
    refine ⟨account, connection,
      [⟨.ssh connection "sudo chpasswd" (some (passwordInput account secret')), .ok ""⟩],
      .ok (.obj [("login", .str account), ("passwordChanged", .bool true)]), haccount, ?_, _, List.mem_cons_self, rfl⟩
    rw [executeSsh_changePassword hop]
    unfold sshChangePassword
    rw [haccount, hsecret]
    show (execSshWithInput config _ _ >>= fun _ => Pure.pure _ : LinuxProg Json).Runs _ _
    rw [execSshWithInput_eq hconnect]
    exact ⟨_, _, rfl, rfl, rfl⟩

/-- The password is given to `chpasswd` in one line, unless it has a line feed in it. -/
theorem oneLine_iff (js : Runtime) (payload : ConnectorPayload) (config : Json) :
    OneLine js payload config ↔ ¬ BreaksLine js payload config := by
  constructor
  · rintro h ⟨hop, hsends, secret, hsecret, hbreak⟩
    obtain ⟨account, connection, t, x, haccount, hrun, v, hv, hreq⟩ :=
      exists_run_givesPassword hsends hop hsecret
    obtain ⟨account', secret', haccount', hsecret', hline⟩ := h t x hrun v hv connection _ hreq
    obtain rfl := Except.ok.inj (haccount.symm.trans haccount')
    obtain rfl := Except.ok.inj (hsecret.symm.trans hsecret')
    exact (splitOn_passwordInput (isAccountName_login haccount) secret).1 hline hbreak
  · intro h t x hrun v hv connection input hreq
    obtain ⟨account, secret, hop, haccount, hsecret, rfl⟩ :=
      executeSsh_givesPassword.of_runs hrun v hv connection input hreq
    refine ⟨account, secret, haccount, hsecret,
      (splitOn_passwordInput (isAccountName_login haccount) secret).2 fun hbreak => ?_⟩
    refine h ⟨hop, ?_, secret, hsecret, hbreak⟩
    by_contra hsends
    obtain ⟨y, hover⟩ := executeSsh_of_not_sends hsends
    rw [hover] at hrun
    obtain ⟨rfl, -⟩ := hrun
    cases hv

/-! ### Two payloads -/

def sshConfig : Json :=
  .obj [("provider", .str "ssh-sudo"), ("host", .str "app.local"), ("username", .str "idm"),
    ("sudoMode", .str "passwordless"), ("hostFingerprint", .str "SHA256:key")]

/-- A payload with these data. -/
def accountPayload (operation : String) (fields : Settings) : ConnectorPayload :=
  ⟨operation, "linux", .obj [("config", sshConfig), ("data", .obj fields)]⟩

/-- A new account without a password is made before it is rejected. -/
theorem account_made_then_rejected :
    ¬ RejectsFirst (executeSsh .ascii (accountPayload "user.create" [("login", .str "ivanov")])
      sshConfig) :=
  not_rejectsFirst_of_lacksPassword ⟨rfl, ⟨rfl, rfl⟩, _, rfl⟩

/-- With a line for another account in the password, `chpasswd` reads two lines. -/
theorem two_lines_for_chpasswd :
    ¬ OneLine .ascii (accountPayload "user.changePassword" [("login", .str "ivanov"),
      ("newValue", .str "secret\nroot:owned")]) sshConfig := by
  intro h
  obtain ⟨account, secret, haccount, hsecret, hline⟩ := h
    [⟨.ssh ⟨some (.str "app.local"), .num 22, some (.str "idm"), .num 30000,
      some (.str "SHA256:key"), none, none⟩ "sudo chpasswd" (some "ivanov:secret\nroot:owned\n"),
      .ok ""⟩] _ ⟨_, _, rfl, rfl, rfl⟩ _ List.mem_cons_self _ _ rfl
  obtain rfl : "ivanov" = account := Except.ok.inj haccount
  obtain rfl : "secret\nroot:owned" = secret := Except.ok.inj hsecret
  revert hline
  decide

end LinuxConnectorService

end IdmMw
