import IdmMw.Model.LinuxConnector

/-!
# What an operation sends to one server

`executeSsh` checks what it needs for its first command, and sends it.

* `firstCommand`: the first command, or the error of the checks before it;
* `Sends`: the checks pass, and so do those of the connection;
* `executeSsh_of_sends`, `executeSsh_of_not_sends`: the operation then begins with a command, and
  otherwise it is over before any.
-/

namespace IdmMw

namespace LinuxConnectorService

open Async

variable {js : Runtime} {payload : ConnectorPayload} {config data params : Json}

/-- The request is a command to a server. -/
def IsSsh : LinuxReq → Prop
  | .ssh _ _ _ => True
  | _ => False

/-- The first command of an operation. -/
def firstCommand (js : Runtime) (payload : ConnectorPayload) (config : Json) :
    Except JsError String :=
  let data := payload.data
  let login := login js data payload.params config
  match payload.operation with
  | "system.test" => .ok "id"
  | "user.create" => login >>= fun login => userAddCommand js config login data
  | "user.update" => login >>= fun login => userModifyCommand js config login data
  | "user.delete" => login.map fun login =>
    if isTruthy (config.get? "physicalDeleteEnabled") then userDeleteCommand config login
    else disableCommand login
  | "user.disable" | "user.lock" => login.map disableCommand
  | "user.enable" | "user.unlock" => login.map enableCommand
  | "user.changePassword" => do
    let _ ← login
    let _ ← password data true
    pure "sudo chpasswd"
  | "user.get" | "user.resolve" => login.map getCommand
  | "user.search" | "sync.full" | "sync.incremental" => .ok "getent passwd"
  | operation => .error (.error s!"Unsupported Linux operation: {operation}")

/-- The checks of the first command and of the connection pass. -/
def Sends (js : Runtime) (payload : ConnectorPayload) (config : Json) : Prop :=
  (firstCommand js payload config).isOk = true ∧ (connectConfig config).isOk = true

/-- The program begins with a command. -/
def Begins {α : Type} (p : LinuxProg α) : Prop :=
  ∃ connection command input k, p = await (.ssh connection command input) k

/-- The program is over. -/
def Over {α : Type} (p : LinuxProg α) : Prop := ∃ x, p = settle x

/-- The program begins with a command if the checks for it pass, and else it is over. -/
def Guards {α : Type} (config : Json) (first : Except JsError String) (p : LinuxProg α) : Prop :=
  (first.isOk = true ∧ (connectConfig config).isOk = true → Begins p) ∧
    (¬ (first.isOk = true ∧ (connectConfig config).isOk = true) → Over p)

section Guards

variable {α β : Type}

theorem guards_error {e : JsError} {x : Except JsError α} :
    Guards config (.error e) (settle x : LinuxProg α) := ⟨nofun, fun _ => ⟨x, rfl⟩⟩

/-- A command and what follows it. -/
theorem guards_command (f : String → LinuxProg β) (first command : String)
    (input : Option String) :
    Guards config (.ok first) (execSshWithInput config command input >>= f) := by
  unfold Guards execSshWithInput
  cases connectConfig config with
  | error e => exact ⟨nofun, fun _ => ⟨_, rfl⟩⟩
  | ok connection => exact ⟨fun _ => ⟨_, _, _, _, rfl⟩, fun h => absurd ⟨rfl, rfl⟩ h⟩

theorem guards_disable (f : Unit → LinuxProg β) (first login : String) :
    Guards config (.ok first) (disableSshUser config login >>= f) := by
  unfold Guards disableSshUser execSsh execSshWithInput
  cases connectConfig config with
  | error e => exact ⟨nofun, fun _ => ⟨_, rfl⟩⟩
  | ok connection => exact ⟨fun _ => ⟨_, _, _, _, rfl⟩, fun h => absurd ⟨rfl, rfl⟩ h⟩

/-- A check, and the rest. -/
theorem guards_check {x : Except JsError α} {g : α → Except JsError String} {f : α → LinuxProg β}
    (h : ∀ a, Guards config (g a) (f a)) : Guards config (x >>= g) (Async.ofExcept x >>= f) := by
  cases x with
  | error e => exact guards_error
  | ok a => exact h a

/-- A check that gives the command. -/
theorem guards_last {x : Except JsError String} {f : String → LinuxProg β}
    (h : ∀ command, Guards config (.ok command) (f command)) :
    Guards config x (Async.ofExcept x >>= f) := by
  cases x with
  | error e => exact guards_error
  | ok command => exact h command

/-- A check that gives what the command is made of. -/
theorem guards_map {x : Except JsError α} {g : α → String} {f : α → LinuxProg β}
    (h : ∀ a, Guards config (.ok (g a)) (f a)) :
    Guards config (x.map g) (Async.ofExcept x >>= f) := by
  cases x with
  | error e => exact guards_error
  | ok a => exact h a

end Guards

theorem sshDelete_guards : Guards config ((login js data params config).map fun login =>
      if isTruthy (config.get? "physicalDeleteEnabled") then userDeleteCommand config login
      else disableCommand login) (sshDelete js config data params) := by
  refine guards_map fun login => ?_
  by_cases hphysical : isTruthy (config.get? "physicalDeleteEnabled") = true
  · rw [if_pos hphysical, if_pos hphysical]
    exact guards_command _ _ _ _
  · rw [if_neg hphysical, if_neg hphysical]
    exact guards_disable _ _ _

/-- The operation begins with its first command if its checks pass. -/
theorem executeSsh_guards (hschema : payload.operation ≠ "schema.get") :
    Guards config (firstCommand js payload config) (executeSsh js payload config) := by
  unfold executeSsh firstCommand
  dsimp only
  generalize payload.operation = operation at hschema ⊢
  split
  · exact guards_command _ _ _ _
  · exact guards_check fun login => guards_last fun command => guards_command _ _ _ _
  · exact guards_check fun login => guards_last fun command => guards_command _ _ _ _
  · exact sshDelete_guards
  · exact guards_map fun login => guards_disable _ _ _
  · exact guards_map fun login => guards_disable _ _ _
  · exact guards_map fun login => guards_command _ _ _ _
  · exact guards_map fun login => guards_command _ _ _ _
  · exact guards_check fun login => guards_check fun secret => guards_command _ _ _ _
  · exact guards_map fun login => guards_command _ _ _ _
  · exact guards_map fun login => guards_command _ _ _ _
  · exact guards_command _ _ _ _
  · exact guards_command _ _ _ _
  · exact guards_command _ _ _ _
  · split
    all_goals first
      | contradiction
      | exact guards_error

theorem executeSsh_of_sends (h : Sends js payload config) :
    Begins (executeSsh js payload config) := by
  refine (executeSsh_guards fun hschema => ?_).1 h
  have := h.1
  simp [firstCommand, hschema, Except.isOk, Except.toBool] at this

theorem executeSsh_of_not_sends (h : ¬ Sends js payload config) :
    Over (executeSsh js payload config) := by
  by_cases hschema : payload.operation = "schema.get"
  · exact ⟨.ok schemaData, by simp only [executeSsh, hschema]; rfl⟩
  · exact (executeSsh_guards hschema).2 h

/-! ### Which requests are commands -/

theorem execSshWithInput_issues (config : Json) (command : String) (input : Option String) :
    (execSshWithInput config command input).Issues IsSsh :=
  issues_ofExcept.bind fun _ => ⟨trivial, fun _ => issues_settle⟩

/-- An operation on one server asks for nothing but commands. -/
theorem executeSsh_issues : (executeSsh js payload config).Issues IsSsh := by
  have hcommand : ∀ command input (f : String → LinuxProg Json), (∀ out, (f out).Issues IsSsh) →
      (execSshWithInput config command input >>= f).Issues IsSsh :=
    fun command input f hf => (execSshWithInput_issues config command input).bind hf
  have hdisable : ∀ login, (disableSshUser config login).Issues IsSsh := fun login =>
    (execSshWithInput_issues config _ none).bind fun _ => issues_pure
  have hdelete : (sshDelete js config payload.data payload.params).Issues IsSsh := by
    refine issues_ofExcept.bind fun login => ?_
    split
    · exact hcommand _ _ _ fun _ => issues_pure
    · exact (hdisable login).bind fun _ => issues_pure
  unfold executeSsh
  split
  · exact hcommand _ _ _ fun _ => issues_pure
  · exact issues_pure
  · exact issues_ofExcept.bind fun login => issues_ofExcept.bind fun command =>
      hcommand _ _ _ fun _ => issues_ofExcept.bind fun secret => hcommand _ _ _ fun _ => issues_pure
  · exact issues_ofExcept.bind fun login => issues_ofExcept.bind fun command =>
      hcommand _ _ _ fun _ => issues_pure
  · exact hdelete
  · exact issues_ofExcept.bind fun login => (hdisable login).bind fun _ => issues_pure
  · exact issues_ofExcept.bind fun login => (hdisable login).bind fun _ => issues_pure
  · exact issues_ofExcept.bind fun login => hcommand _ _ _ fun _ => issues_pure
  · exact issues_ofExcept.bind fun login => hcommand _ _ _ fun _ => issues_pure
  · exact issues_ofExcept.bind fun login => issues_ofExcept.bind fun secret =>
      hcommand _ _ _ fun _ => issues_pure
  · exact issues_ofExcept.bind fun login => hcommand _ _ _ fun _ => issues_pure
  · exact issues_ofExcept.bind fun login => hcommand _ _ _ fun _ => issues_pure
  · exact hcommand _ _ _ fun _ => issues_pure
  · exact hcommand _ _ _ fun _ => issues_pure
  · exact hcommand _ _ _ fun _ => issues_pure
  · exact issues_throw

end LinuxConnectorService

end IdmMw
