import IdmMw.Connectors.AccountChecks
import IdmMw.Connectors.Fanout
import IdmMw.Library.Shell

/-!
# The words of the commands

What a shell makes of the commands that are sent to a server.

* `Intended`: the words that are meant, for each operation, with the values of the payload and of the
  settings;
* `MeantFor`: the command is split into them;
* `commands_meant`: this holds for every command of the connector, since a value is always quoted
  (`split_arg`).
-/

namespace IdmMw

open Async

namespace LinuxConnectorService

variable {js : Runtime} {payload : ConnectorPayload} {config data params : Json}

/-! ### What is meant -/

/-- Words that are what they say. -/
def words (texts : List String) : List Shell.Token := texts.map fun text => .word text.toList

/-- Two commands, the second if the first succeeds. -/
def inSequence (first second : List String) : List Shell.Token :=
  words first ++ [.operator "&&".toList] ++ words second

/-- The home directory of a new account. -/
def homeDirectory (js : Runtime) (config data : Json) (account : String) : String :=
  (firstString [data.get? "homeDirectory"]).getD
    (textOr js (config.get? "defaultHomeBase") "/home" ++ "/" ++ account)

/-- The shell of a new account, where it is a text. -/
def loginShell (config data : Json) : Option String :=
  match firstString [data.get? "shell"], config.get? "defaultShell" with
  | some shell, _ => some shell
  | none, none | none, some .null => some "/bin/bash"
  | none, some (.str shell) => some shell
  | none, some _ => none

/-- An option with its value, if there is one. -/
def optionWords (flag : String) : Option String → List String
  | some value => [flag, value]
  | none => []

/-- The groups as one value. -/
def joined (groups : List String) : Option String :=
  if groups = [] then none else some (",".intercalate groups)

/-- The words that are meant by an operation. -/
inductive Intended (js : Runtime) (payload : ConnectorPayload) (config : Json) :
    List Shell.Token → Prop
  | test (hop : payload.operation = "system.test") : Intended js payload config (words ["id"])
  | create {account shell : String} {names : List String} (hop : payload.operation = "user.create")
      (haccount : login js payload.data payload.params config = .ok account)
      (hshell : loginShell config payload.data = some shell)
      (hgroups : groups js config payload.data = .ok names) :
      Intended js payload config (words (["sudo", "useradd", "-m", "-d",
        homeDirectory js config payload.data account, "-s", shell] ++
        optionWords "-G" (joined names) ++ [account]))
  | setPassword (hop : payload.operation ∈ ["user.create", "user.changePassword"]) :
      Intended js payload config (words ["sudo", "chpasswd"])
  | update {account : String} {names : List String} (hop : payload.operation = "user.update")
      (haccount : login js payload.data payload.params config = .ok account)
      (hgroups : groups js config payload.data = .ok names) :
      Intended js payload config (words (["sudo", "usermod"] ++
        optionWords "-s" (firstString [payload.data.get? "shell"]) ++
        optionWords "-G" (joined names) ++ [account]))
  | delete {account : String} (hop : payload.operation = "user.delete")
      (hphysical : isTruthy (config.get? "physicalDeleteEnabled") = true)
      (haccount : login js payload.data payload.params config = .ok account) :
      Intended js payload config (words (["sudo", "userdel"] ++
        (if config.get? "removeHomeOnDelete" matches some (.bool true) then ["-r"] else []) ++
        [account]))
  | disable {account : String}
      (hop : payload.operation ∈ ["user.disable", "user.lock"] ∨ payload.operation = "user.delete" ∧
        isTruthy (config.get? "physicalDeleteEnabled") = false)
      (haccount : login js payload.data payload.params config = .ok account) :
      Intended js payload config (inSequence ["sudo", "passwd", "-l", account]
        ["sudo", "chage", "-E", "0", account])
  | enable {account : String} (hop : payload.operation ∈ ["user.enable", "user.unlock"])
      (haccount : login js payload.data payload.params config = .ok account) :
      Intended js payload config (inSequence ["sudo", "passwd", "-u", account]
        ["sudo", "chage", "-E", "-1", account])
  | get {account : String} (hop : payload.operation ∈ ["user.get", "user.resolve"])
      (haccount : login js payload.data payload.params config = .ok account) :
      Intended js payload config (words ["getent", "passwd", account])
  | search (hop : payload.operation ∈ ["user.search", "sync.full", "sync.incremental"]) :
      Intended js payload config (words ["getent", "passwd"])

/-- A command is split into tokens of this kind. -/
def SplitsInto (P : List Shell.Token → Prop) : LinuxReq → Prop
  | .ssh _ command _ => ∃ tokens, Shell.split command.toList = some tokens ∧ P tokens
  | _ => True

/-- The words that are meant for a payload: on every server of an inventory those of the payload for
one server. -/
def MeantFor (js : Runtime) (payload : ConnectorPayload) : List Shell.Token → Prop :=
  let config := payload.config.getD .null
  Intended js (if config.getStr? "provider" = some "ssh-sudo-fleet" then hostPayload payload
    else payload) config

/-! ### The commands -/

theorem toList_arg (value : String) : (arg value).toList = Shell.quote value.toList := by
  unfold arg Shell.quote
  rw [String.toList_ofList]
  rfl

/-- A value is one word, whatever it is. -/
theorem split_arg (value : String) : Shell.split (arg value).toList = some (words [value]) := by
  rw [toList_arg]
  exact Shell.split_quote value.toList

/-- Parts of a command, each with its tokens. -/
theorem split_parts {parts : List (String × List Shell.Token)}
    (h : ∀ part ∈ parts, Shell.split part.1.toList = some part.2) :
    Shell.split (" ".intercalate (parts.map Prod.fst)).toList =
      some (parts.flatMap Prod.snd) := by
  have hparts : ∀ p ∈ parts.map fun part => (part.1.toList, part.2),
      Shell.split p.1 = some p.2 := by
    intro p hp
    obtain ⟨part, hpart, rfl⟩ := List.mem_map.1 hp
    exact h part hpart
  have hsplit := Shell.split_intercalate hparts
  rw [String.toList_intercalate, List.map_map]
  rw [List.map_map, List.flatMap_map] at hsplit
  exact hsplit

/-- A value at the end. -/
theorem split_append_arg {text : String} {tokens : List Shell.Token}
    (h : Shell.split text.toList = some tokens) (value : String) :
    Shell.split (text ++ " " ++ arg value).toList = some (tokens ++ words [value]) := by
  have hsplit := Shell.split_append_blank h (split_arg value)
  rw [String.toList_append, String.toList_append, List.append_assoc]
  exact hsplit

/-- Two commands about one account. -/
theorem split_inSequence {first second : String} {tokens tokens' : List Shell.Token}
    (h : Shell.split first.toList = some tokens) (h' : Shell.split second.toList = some tokens')
    (value : String) :
    Shell.split (first ++ " " ++ arg value ++ (" " ++ (second ++ " ")) ++ arg value).toList =
      some (tokens ++ words [value] ++ (tokens' ++ words [value])) := by
  have hsplit := Shell.split_append_blank (split_append_arg h value) (split_append_arg h' value)
  rw [← hsplit]
  congr 1
  simp only [String.toList_append, List.append_assoc]
  rfl

/-- The parts of an option. -/
def optionParts (flag : String) : Option String → List (String × List Shell.Token)
  | some value => [(flag ++ " " ++ arg value, words [flag, value])]
  | none => []

theorem split_optionParts {flag : String} (h : Shell.split flag.toList = some (words [flag]))
    (value : Option String) :
    ∀ part ∈ optionParts flag value, Shell.split part.1.toList = some part.2 := by
  cases value with
  | none => nofun
  | some value => exact List.forall_mem_singleton.2 (split_append_arg h value)

theorem flatMap_optionParts (flag : String) (value : Option String) :
    (optionParts flag value).flatMap Prod.snd = words (optionWords flag value) := by
  cases value <;> rfl

theorem words_append (texts texts' : List String) :
    words (texts ++ texts') = words texts ++ words texts' := List.map_append

theorem append_ne_empty {text : String} (h : text ≠ "") (text' : String) : text ++ text' ≠ "" := by
  intro hempty
  apply h
  rw [← String.toList_eq_nil_iff] at hempty ⊢
  rw [String.toList_append] at hempty
  exact (List.append_eq_nil_iff.1 hempty).1

theorem arg_ne_empty (value : String) : arg value ≠ "" := by
  rw [Ne, ← String.toList_eq_nil_iff, toList_arg]
  exact List.cons_ne_nil _ _

/-- The parts of the command for a new account. -/
def userAddParts (home shell account : String) (names : List String) :
    List (String × List Shell.Token) :=
  [("sudo useradd", words ["sudo", "useradd"]), ("-m", words ["-m"]),
    ("-d " ++ arg home, words ["-d", home]), ("-s " ++ arg shell, words ["-s", shell])] ++
    optionParts "-G" (joined names) ++ [(arg account, words [account])]

theorem split_userAddParts (home shell account : String) (names : List String) :
    ∀ part ∈ userAddParts home shell account names, Shell.split part.1.toList = some part.2 := by
  have hd : Shell.split "-d".toList = some (words ["-d"]) := by decide
  have hs : Shell.split "-s".toList = some (words ["-s"]) := by decide
  intro part hpart
  simp only [userAddParts, List.mem_append, List.mem_cons, List.not_mem_nil, or_false] at hpart
  rcases hpart with ((rfl | rfl | rfl | rfl) | hpart) | rfl
  · decide
  · decide
  · exact split_append_arg hd home
  · exact split_append_arg hs shell
  · exact split_optionParts (by decide) _ part hpart
  · exact split_arg account

theorem filter_userAddParts (home shell account : String) (names : List String) :
    (["sudo useradd", "-m", "-d " ++ arg home, "-s " ++ arg shell,
      if names = [] then "" else "-G " ++ arg (",".intercalate names), arg account].filter
        (· ≠ "")) = (userAddParts home shell account names).map Prod.fst := by
  have hd : "-d " ++ arg home ≠ "" := append_ne_empty (by decide) _
  have hs : "-s " ++ arg shell ≠ "" := append_ne_empty (by decide) _
  have hg : "-G " ++ arg (",".intercalate names) ≠ "" := append_ne_empty (by decide) _
  by_cases h : names = []
  · simp [userAddParts, joined, optionParts, h, hd, hs, arg_ne_empty]
  · simp [userAddParts, joined, optionParts, h, hd, hs, hg, arg_ne_empty]

theorem argOf_loginShell {quoted : String}
    (h : argOf (match firstString [data.get? "shell"], config.get? "defaultShell" with
      | some shell, _ => .str shell
      | none, none | none, some .null => .str "/bin/bash"
      | none, some shell => shell) = .ok quoted) :
    ∃ shell, loginShell config data = some shell ∧ quoted = arg shell := by
  unfold loginShell
  generalize firstString [data.get? "shell"] = named at h ⊢
  generalize config.get? "defaultShell" = preset at h ⊢
  cases named with
  | some shell => exact ⟨shell, rfl, (Except.ok.inj h).symm⟩
  | none =>
    cases preset with
    | none => exact ⟨_, rfl, (Except.ok.inj h).symm⟩
    | some value =>
      cases value with
      | null => exact ⟨_, rfl, (Except.ok.inj h).symm⟩
      | str shell => exact ⟨shell, rfl, (Except.ok.inj h).symm⟩
      | _ => cases h

theorem userAddCommand_split {account command : String}
    (h : userAddCommand js config account data = .ok command) :
    ∃ shell names, loginShell config data = some shell ∧ groups js config data = .ok names ∧
      Shell.split command.toList = some (words (["sudo", "useradd", "-m", "-d",
        homeDirectory js config data account, "-s", shell] ++ optionWords "-G" (joined names) ++
        [account])) := by
  unfold userAddCommand at h
  obtain ⟨names, hgroups, h⟩ := bind_eq_ok.1 h
  obtain ⟨quoted, hquoted, h⟩ := bind_eq_ok.1 h
  obtain ⟨shell, hshell, rfl⟩ := argOf_loginShell hquoted
  obtain rfl := Except.ok.inj h
  refine ⟨shell, names, hshell, hgroups, ?_⟩
  rw [filter_userAddParts, split_parts (split_userAddParts _ _ _ _)]
  simp [userAddParts, flatMap_optionParts, homeDirectory, words]

/-- The parts of the command for a changed account. -/
def userModifyParts (shell : Option String) (account : String) (names : List String) :
    List (String × List Shell.Token) :=
  [("sudo usermod", words ["sudo", "usermod"])] ++ optionParts "-s" shell ++
    optionParts "-G" (joined names) ++ [(arg account, words [account])]

theorem split_userModifyParts (shell : Option String) (account : String) (names : List String) :
    ∀ part ∈ userModifyParts shell account names,
      Shell.split part.1.toList = some part.2 := by
  intro part hpart
  simp only [userModifyParts, List.mem_append, List.mem_singleton] at hpart
  rcases hpart with ((rfl | hpart) | hpart) | rfl
  · decide
  · exact split_optionParts (by decide) _ part hpart
  · exact split_optionParts (by decide) _ part hpart
  · exact split_arg account

theorem map_userModifyParts (shell : Option String) (account : String) (names : List String) :
    ["sudo usermod"] ++
      (match shell with
      | some shell => ["-s " ++ arg shell]
      | none => []) ++ (if names = [] then [] else ["-G " ++ arg (",".intercalate names)]) ++
      [arg account] = (userModifyParts shell account names).map Prod.fst := by
  by_cases h : names = []
  · cases shell <;> simp [userModifyParts, joined, optionParts, h]
  · cases shell <;> simp [userModifyParts, joined, optionParts, h]

theorem userModifyCommand_split {account command : String}
    (h : userModifyCommand js config account data = .ok command) :
    ∃ names, groups js config data = .ok names ∧
      Shell.split command.toList = some (words (["sudo", "usermod"] ++
        optionWords "-s" (firstString [data.get? "shell"]) ++ optionWords "-G" (joined names) ++
        [account])) := by
  unfold userModifyCommand at h
  generalize firstString [data.get? "shell"] = shell at h ⊢
  obtain ⟨names, hgroups, h⟩ := bind_eq_ok.1 h
  obtain rfl := Except.ok.inj h
  refine ⟨names, hgroups, ?_⟩
  have hsplit := split_parts (split_userModifyParts shell account names)
  rw [← map_userModifyParts] at hsplit
  refine Eq.trans hsplit ?_
  simp [userModifyParts, flatMap_optionParts, words]

theorem userDeleteCommand_split (config : Json) (account : String) :
    Shell.split (userDeleteCommand config account).toList = some (words (["sudo", "userdel"] ++
      (if config.get? "removeHomeOnDelete" matches some (.bool true) then ["-r"] else []) ++
      [account])) := by
  have hplain : Shell.split "sudo userdel".toList = some (words ["sudo", "userdel"]) := by decide
  have hhome : Shell.split "sudo userdel -r".toList = some (words ["sudo", "userdel", "-r"]) := by
    decide
  unfold userDeleteCommand
  generalize config.get? "removeHomeOnDelete" = removeHome
  cases removeHome with
  | none => exact split_append_arg hplain account
  | some value =>
    cases value with
    | bool b =>
      cases b with
      | false => exact split_append_arg hplain account
      | true => exact split_append_arg hhome account
    | _ => exact split_append_arg hplain account

theorem disableCommand_split (account : String) :
    Shell.split (disableCommand account).toList = some (inSequence
      ["sudo", "passwd", "-l", account] ["sudo", "chage", "-E", "0", account]) := by
  have hfirst : Shell.split "sudo passwd -l".toList = some (words ["sudo", "passwd", "-l"]) := by
    decide
  have hsecond : Shell.split "&& sudo chage -E 0".toList =
      some (.operator "&&".toList :: words ["sudo", "chage", "-E", "0"]) := by decide
  exact split_inSequence hfirst hsecond account

theorem enableCommand_split (account : String) :
    Shell.split (enableCommand account).toList = some (inSequence
      ["sudo", "passwd", "-u", account] ["sudo", "chage", "-E", "-1", account]) := by
  have hfirst : Shell.split "sudo passwd -u".toList = some (words ["sudo", "passwd", "-u"]) := by
    decide
  have hsecond : Shell.split "&& sudo chage -E -1".toList =
      some (.operator "&&".toList :: words ["sudo", "chage", "-E", "-1"]) := by decide
  exact split_inSequence hfirst hsecond account

theorem getCommand_split (account : String) :
    Shell.split (getCommand account).toList = some (words ["getent", "passwd", account]) := by
  have hget : Shell.split "getent passwd".toList = some (words ["getent", "passwd"]) := by decide
  exact split_append_arg hget account

/-! ### One server -/

/-- A command that is split into tokens of the kind. -/
theorem issues_splitsInto {P : List Shell.Token → Prop} {command : String}
    {tokens : List Shell.Token} (hsplit : Shell.split command.toList = some tokens)
    (h : P tokens) (input : Option String) :
    (execSshWithInput config command input).Issues (SplitsInto P) :=
  execSsh_issues fun _ => ⟨tokens, hsplit, h⟩

theorem disableSshUser_splitsInto {P : List Shell.Token → Prop} {account : String}
    (h : P (inSequence ["sudo", "passwd", "-l", account] ["sudo", "chage", "-E", "0", account])) :
    (disableSshUser config account).Issues (SplitsInto P) :=
  (issues_splitsInto (disableCommand_split account) h none).bind fun _ => issues_pure

theorem sshDelete_splitsInto (hop : payload.operation = "user.delete") :
    (sshDelete js config payload.data payload.params).Issues
      (SplitsInto (Intended js payload config)) := by
  refine issues_check fun account haccount => ?_
  by_cases hphysical : isTruthy (config.get? "physicalDeleteEnabled") = true
  · rw [if_pos hphysical]
    exact (issues_splitsInto (userDeleteCommand_split config account)
      (.delete hop hphysical haccount) none).bind fun _ => issues_pure
  · rw [if_neg hphysical]
    exact (disableSshUser_splitsInto (.disable (.inr ⟨hop, Bool.eq_false_iff.2 hphysical⟩)
      haccount)).bind fun _ => issues_pure

/-- Every command of an operation is what is meant. -/
theorem executeSsh_splitsInto :
    (executeSsh js payload config).Issues (SplitsInto (Intended js payload config)) := by
  have hpassword : Shell.split "sudo chpasswd".toList = some (words ["sudo", "chpasswd"]) := by
    decide
  have hgetent : Shell.split "getent passwd".toList = some (words ["getent", "passwd"]) := by decide
  have hid : Shell.split "id".toList = some (words ["id"]) := by decide
  unfold executeSsh
  split
  · next hop => exact (issues_splitsInto hid (.test hop) none).bind fun _ => issues_pure
  · exact issues_pure
  · next hop =>
    refine issues_check fun account haccount => issues_check fun command hcommand => ?_
    obtain ⟨shell, names, hshell, hgroups, hsplit⟩ := userAddCommand_split hcommand
    refine (issues_splitsInto hsplit (.create hop haccount hshell hgroups) none).bind fun _ =>
      issues_check fun secret _ => ?_
    exact (issues_splitsInto hpassword (.setPassword (by simp [hop])) _).bind fun _ => issues_pure
  · next hop =>
    refine issues_check fun account haccount => issues_check fun command hcommand => ?_
    obtain ⟨names, hgroups, hsplit⟩ := userModifyCommand_split hcommand
    exact (issues_splitsInto hsplit (.update hop haccount hgroups) none).bind fun _ => issues_pure
  · next hop => exact sshDelete_splitsInto hop
  · next hop =>
    exact issues_check fun account haccount =>
      (disableSshUser_splitsInto (.disable (by simp [hop]) haccount)).bind fun _ => issues_pure
  · next hop =>
    exact issues_check fun account haccount =>
      (disableSshUser_splitsInto (.disable (by simp [hop]) haccount)).bind fun _ => issues_pure
  · next hop =>
    exact issues_check fun account haccount => (issues_splitsInto (enableCommand_split account)
      (.enable (by simp [hop]) haccount) none).bind fun _ => issues_pure
  · next hop =>
    exact issues_check fun account haccount => (issues_splitsInto (enableCommand_split account)
      (.enable (by simp [hop]) haccount) none).bind fun _ => issues_pure
  · next hop =>
    exact issues_check fun account _ => issues_check fun secret _ =>
      (issues_splitsInto hpassword (.setPassword (by simp [hop])) _).bind fun _ => issues_pure
  · next hop =>
    exact issues_check fun account haccount => (issues_splitsInto (getCommand_split account)
      (.get (by simp [hop]) haccount) none).bind fun _ => issues_pure
  · next hop =>
    exact issues_check fun account haccount => (issues_splitsInto (getCommand_split account)
      (.get (by simp [hop]) haccount) none).bind fun _ => issues_pure
  · next hop =>
    exact (issues_splitsInto hgetent (.search (by simp [hop])) none).bind fun _ => issues_pure
  · next hop =>
    exact (issues_splitsInto hgetent (.search (by simp [hop])) none).bind fun _ => issues_pure
  · next hop =>
    exact (issues_splitsInto hgetent (.search (by simp [hop])) none).bind fun _ => issues_pure
  · exact issues_throw

/-! ### The servers of an inventory -/

/-- The settings that a host replaces. -/
def connectionKeys : List String :=
  ["provider", "host", "port", "hostFingerprint", "username", "privateKey", "password"]

/-- The same settings but for those of the connection. -/
def SameSettings (config config' : Json) : Prop :=
  ∀ key ∉ connectionKeys, config.get? key = config'.get? key

theorem lookup_assign_of_ne {key key' : String} (h : key' ≠ key) (fields : Settings)
    (value : Option Json) : (assign fields key value).lookup key' = fields.lookup key' := by
  cases value with
  | some value => exact OrderedMap.lookup_set_of_ne h fields value
  | none =>
    show (fields.filter (·.1 ≠ key)).lookup key' = fields.lookup key'
    induction fields with
    | nil => rfl
    | cons field fields ih =>
      obtain ⟨name, value⟩ := field
      by_cases hname : name = key
      · rw [List.filter_cons_of_neg (by simp [hname]), ih]
        subst hname
        exact (OrderedMap.lookup_cons_of_ne h.symm value fields).symm
      · rw [List.filter_cons_of_pos (by simp [hname])]
        by_cases hfound : name = key'
        · subst hfound
          rw [OrderedMap.lookup_cons_self, OrderedMap.lookup_cons_self]
        · rw [OrderedMap.lookup_cons_of_ne hfound, OrderedMap.lookup_cons_of_ne hfound, ih]

theorem hostSettings_same (fields : Settings) (host : LinuxHost)
    (profile : LinuxCredentialProfile) (privateKey password : Option String) :
    SameSettings (hostSettings (.obj fields) host profile privateKey password) (.obj fields) := by
  intro key hkey
  simp only [connectionKeys, List.mem_cons, List.not_mem_nil, or_false, not_or] at hkey
  obtain ⟨hprovider, hhost, hport, hfingerprint, husername, hprivateKey, hpassword⟩ := hkey
  simp only [hostSettings, Json.settings, List.foldl_cons, List.foldl_nil, Json.get?]
  rw [lookup_assign_of_ne hpassword, lookup_assign_of_ne hprivateKey, lookup_assign_of_ne husername,
    lookup_assign_of_ne hfingerprint, lookup_assign_of_ne hport, lookup_assign_of_ne hhost,
    lookup_assign_of_ne hprovider]

section SameSettings

variable {config' : Json}

theorem SameSettings.login (h : SameSettings config config') :
    login js data params config = login js data params config' := by
  unfold LinuxConnectorService.login
  rw [h "loginPrefix" (by decide)]

theorem SameSettings.groups (h : SameSettings config config') :
    groups js config data = groups js config' data := by
  have hmapping : groupMappingSettings config = groupMappingSettings config' := by
    unfold groupMappingSettings
    rw [h "groupMappingMode" (by decide), h "groupMappingEnabled" (by decide)]
  have hmapped : mappedGroups js data config = mappedGroups js data config' := by
    funext mapping target
    unfold mappedGroups groupMappingTarget
    rw [h "groupMappingTarget" (by decide)]
  unfold LinuxConnectorService.groups
  rw [hmapping, hmapped, h "defaultGroups" (by decide)]

theorem SameSettings.intended (h : SameSettings config config') {tokens : List Shell.Token}
    (hintended : Intended js payload config tokens) : Intended js payload config' tokens := by
  have hphysical := h "physicalDeleteEnabled" (by decide)
  cases hintended with
  | test hop => exact .test hop
  | create hop haccount hshell hgroups =>
    rename_i account shell names
    have hhome : homeDirectory js config payload.data account =
        homeDirectory js config' payload.data account := by
      unfold homeDirectory
      rw [h "defaultHomeBase" (by decide)]
    have hpreset : loginShell config payload.data = loginShell config' payload.data := by
      unfold loginShell
      rw [h "defaultShell" (by decide)]
    rw [h.login] at haccount
    rw [h.groups] at hgroups
    rw [hhome]
    exact .create hop haccount (hpreset ▸ hshell) hgroups
  | setPassword hop => exact .setPassword hop
  | update hop haccount hgroups => exact .update hop (h.login ▸ haccount) (h.groups ▸ hgroups)
  | delete hop hdelete haccount =>
    rw [h "removeHomeOnDelete" (by decide)]
    exact .delete hop (hphysical ▸ hdelete) (h.login ▸ haccount)
  | disable hop haccount => exact .disable (hphysical ▸ hop) (h.login ▸ haccount)
  | enable hop haccount => exact .enable hop (h.login ▸ haccount)
  | get hop haccount => exact .get hop (h.login ▸ haccount)
  | search hop => exact .search hop

end SameSettings

theorem SplitsInto.mono {P P' : List Shell.Token → Prop} (h : ∀ tokens, P tokens → P' tokens) :
    ∀ r, SplitsInto P r → SplitsInto P' r
  | .ssh _ _ _, ⟨tokens, hsplit, hp⟩ => ⟨tokens, hsplit, h tokens hp⟩
  | .targetSystemFindUnique _, _ => trivial
  | .hostCount _, _ => trivial
  | .serverGroupFindMany _ _, _ => trivial
  | .serverGroupList _ _, _ => trivial
  | .serverGroupFindFirst _ _, _ => trivial
  | .secretEnv _, _ => trivial
  | .pamGetValue _, _ => trivial
  | .remoteRequest _ _ _ _, _ => trivial

theorem splitsInto_of_not_isSsh {P : List Shell.Token → Prop} {r : LinuxReq} (h : ¬ IsSsh r) :
    SplitsInto P r := by
  cases r with
  | ssh connection command input => exact absurd trivial h
  | _ => trivial

theorem hostSshConfig_same {fields : Settings} {host : FleetHost} {hostConfig : Json}
    {t : List (Async.Event LinuxAns)}
    (h : (hostSshConfig (.obj fields) host).Runs t (.ok hostConfig)) :
    SameSettings hostConfig (.obj fields) := by
  unfold hostSshConfig at h
  split at h
  · obtain ⟨-, h⟩ := h
    cases h
  · obtain ⟨_, h, -⟩ | ⟨privateKey, _, _, -, -, h⟩ := runs_bind.1 h
    · cases h
    obtain ⟨_, h, -⟩ | ⟨password, _, _, -, -, -, h⟩ := runs_bind.1 h
    · cases h
    obtain rfl := Except.ok.inj h
    exact hostSettings_same fields _ _ privateKey password

/-- Every command for a host is what is meant for the base settings. -/
theorem hostResults_splitsInto (fields : Settings) (hosts : List FleetHost) :
    (hostResults js payload (.obj fields) hosts).Issues
      (SplitsInto (Intended js (hostPayload payload) (.obj fields))) := by
  induction hosts with
  | nil => exact issues_pure
  | cons host hosts ih =>
    have hsecrets : (hostSshConfig (.obj fields) host).Issues
        (SplitsInto (Intended js (hostPayload payload) (.obj fields))) :=
      hostSshConfig_issues.mono fun r hr => splitsInto_of_not_isSsh hr.not_isSsh
    refine hsecrets.bind_of_runs fun t hostConfig hconfig => Issues.bind ?_ fun _ =>
      ih.bind fun _ => issues_pure
    have hsame := hostSshConfig_same hconfig
    exact ((executeSsh_splitsInto.mono (SplitsInto.mono fun tokens => hsame.intended)).bind
      fun _ => issues_pure).tryCatch fun _ => issues_pure

theorem enabledFleetHostCount_splitsInto {P : List Shell.Token → Prop} {name : String} :
    (enabledFleetHostCount name).Issues (SplitsInto P) := by
  unfold enabledFleetHostCount
  split
  · exact issues_pure
  · refine Issues.bind ⟨trivial, fun _ => issues_settle⟩ fun found => ?_
    cases found with
    | none => exact issues_pure
    | some targetSystem => exact ⟨trivial, fun _ => issues_settle⟩

theorem executeSshFleet_splitsInto (fields : Settings) :
    (executeSshFleet js payload (.obj fields)).Issues
      (SplitsInto (Intended js (hostPayload payload) (.obj fields))) := by
  have htarget : ∀ {P : List Shell.Token → Prop} name,
      (fleetTargetSystem name).Issues (SplitsInto P) := fun name => by
    refine Issues.bind ⟨trivial, fun _ => issues_settle⟩ fun found => ?_
    split
    · split
      · exact issues_pure
      · exact issues_throw
    · exact issues_throw
  unfold executeSshFleet
  split_ifs
  · exact enabledFleetHostCount_splitsInto.bind fun _ => issues_pure
  · exact issues_pure
  · exact (htarget _).bind fun targetSystem =>
      Issues.bind ⟨trivial, fun _ => issues_settle⟩ fun _ => issues_pure
  · refine (htarget _).bind fun targetSystem => ?_
    split
    · exact issues_throw
    · refine Issues.bind ⟨trivial, fun _ => issues_settle⟩ fun group => ?_
      cases group with
      | none => exact issues_throw
      | some group => exact issues_pure
  · have hresolve : (resolveFleetHosts js payload).Issues
        (SplitsInto (Intended js (hostPayload payload) (.obj fields))) :=
      resolveFleetHosts_issues.mono fun r hr => splitsInto_of_not_isSsh hr.not_isSsh
    refine hresolve.bind fun hosts => (hostResults_splitsInto fields hosts).bind fun results => ?_
    dsimp only
    split
    · exact issues_throw
    · exact issues_pure
  · exact issues_throw

/-! ### The connector -/

theorem executeRemoteAgent_splitsInto {P : List Shell.Token → Prop} :
    (executeRemoteAgent js payload config).Issues (SplitsInto P) := by
  have hremote : ∀ method path data,
      (remoteRequest config method path data).Issues (SplitsInto P) :=
    fun method path data => ⟨trivial, fun _ => issues_settle⟩
  unfold executeRemoteAgent
  dsimp only
  split
  · exact hremote _ _ _
  · exact hremote _ _ _
  · exact issues_ofExcept.bind fun _ => issues_ofExcept.bind fun _ => hremote _ _ _
  · exact issues_ofExcept.bind fun _ => hremote _ _ _
  · refine issues_ofExcept.bind fun _ => ?_
    split
    · exact hremote _ _ _
    · exact hremote _ _ _
  · exact issues_ofExcept.bind fun _ => hremote _ _ _
  · exact issues_ofExcept.bind fun _ => hremote _ _ _
  · exact issues_ofExcept.bind fun _ => hremote _ _ _
  · exact issues_ofExcept.bind fun _ => hremote _ _ _
  · exact issues_ofExcept.bind fun _ => issues_ofExcept.bind fun _ => hremote _ _ _
  · exact issues_ofExcept.bind fun _ => hremote _ _ _
  · exact issues_ofExcept.bind fun _ => hremote _ _ _
  · exact hremote _ _ _
  · exact hremote _ _ _
  · exact hremote _ _ _
  · exact issues_throw

theorem executeWith_splitsInto {provider : Json} (h : config.get? "provider" = some provider) :
    (executeWith js payload config provider).Issues (SplitsInto (Intended js
      (if config.getStr? "provider" = some "ssh-sudo-fleet" then hostPayload payload else payload)
      config)) := by
  have hfleet : config.getStr? "provider" = some "ssh-sudo-fleet" ↔
      provider = .str "ssh-sudo-fleet" := by
    rw [Json.getStr?, h]
    cases provider <;> simp
  cases config with
  | obj fields =>
    by_cases hprovider : provider = .str "ssh-sudo-fleet"
    · rw [if_pos (hfleet.2 hprovider)]
      subst hprovider
      exact executeSshFleet_splitsInto fields
    · rw [if_neg (hprovider ∘ hfleet.1)]
      unfold executeWith
      split
      · exact executeRemoteAgent_splitsInto
      · exact absurd rfl hprovider
      · exact executeSsh_splitsInto
  | _ => cases h

/-- Every command of an operation is what is meant for its payload. -/
theorem execute_splitsInto (js : Runtime) (payload : ConnectorPayload) :
    (execute js payload).Issues (SplitsInto (MeantFor js payload)) := by
  unfold execute MeantFor
  generalize payload.config.getD .null = config
  dsimp only
  cases hprovider : (config.get? "provider").filter Json.truthy with
  | none => exact issues_pure
  | some provider =>
    obtain ⟨hprovider, -⟩ := Option.filter_eq_some_iff.1 hprovider
    exact ((executeWith_splitsInto hprovider).bind fun _ => issues_pure).tryCatch fun _ =>
      issues_pure

/-- Every command with which a connection is tried is one word. -/
theorem testConnection_splitsInto (js : Runtime) (config : Json) :
    (testConnection js config).Issues (SplitsInto (· = words ["id"])) := by
  have hid : Shell.split "id".toList = some (words ["id"]) := by decide
  unfold testConnection tryConnection
  refine Issues.tryCatch ?_ fun _ => issues_pure
  split
  · split
    · exact issues_pure
    · exact Issues.bind ⟨trivial, fun _ => issues_settle⟩ fun _ => issues_pure
  · exact (issues_splitsInto (P := (· = words ["id"])) hid rfl none).bind fun _ => issues_pure
  · refine Issues.bind enabledFleetHostCount_splitsInto fun _ => issues_pure
  · exact issues_pure

/-- Every command that is sent is what is meant, and a value in it is one word, whatever it is. -/
theorem commands_meant (js : Runtime) :
    (∀ value, Shell.split (arg value).toList = some (words [value])) ∧
    (∀ payload t x, (execute js payload).Runs t x →
      ∀ v ∈ t, SplitsInto (MeantFor js payload) v.req) ∧
    ∀ config t x, (testConnection js config).Runs t x →
      ∀ v ∈ t, SplitsInto (· = words ["id"]) v.req :=
  ⟨split_arg, fun payload _ _ hrun => (execute_splitsInto js payload).of_runs hrun,
    fun config _ _ hrun => (testConnection_splitsInto js config).of_runs hrun⟩

end LinuxConnectorService

end IdmMw
