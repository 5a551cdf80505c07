import IdmMw.Connectors.Fanout
import IdmMw.Model.SshClient

/-!
# What the success of an operation says of its commands

* `exitStatus`: how the stream of a command was closed; `exitStatus_of_resolved`: a promise is resolved
  by exit code 0, or by a close without an exit code;
* `Strict`: a program that succeeds only if its commands did, with the rules for sequencing;
* `execute_strict`, `testConnection_strict`: the operations are such programs;
* `closedZero_iff`: in a successful run every command was closed with exit code 0, unless the stream of
  one was closed without an exit code.
-/

namespace IdmMw

open Async LinuxConnectorService

/-! ### The events of one command -/

namespace SshCommand

variable {command : SshCommand} {events : List SshEvent}

/-- A settled promise stays as it is. -/
theorem settled_step {outcome : Except JsError String} (h : command.settled = some outcome)
    (event : SshEvent) : (command.step event).settled = some outcome := by
  have hsettle : ∀ other, (command.settle other).settled = some outcome := by
    intro other
    unfold settle
    rw [h]
    rfl
  cases event with
  | exec error =>
    cases error with
    | none => exact h
    | some error =>
      show (if command.executed then command.settle (.error error) else command).settled = _
      split
      · exact hsettle _
      · exact h
  | close code signal =>
    show (if command.streaming then command.settle (command.outcome code) else command).settled = _
    split
    · exact hsettle _
    · exact h
  | error error => exact hsettle _
  | ready => exact h
  | stdout chunk =>
    show (if command.streaming then _ else command).settled = _
    split <;> exact h
  | stderr chunk =>
    show (if command.streaming then _ else command).settled = _
    split <;> exact h

theorem settled_foldl {outcome : Except JsError String} (h : command.settled = some outcome) :
    (events.foldl step command).settled = some outcome := by
  induction events generalizing command with
  | nil => exact h
  | cons event events ih => exact ih (settled_step h event)

/-- How the stream of the command is closed, by the first `close` that is handled. -/
def closeStatus (command : SshCommand) : List SshEvent → Option (Option ℕ)
  | [] => none
  | .close code signal :: events =>
    if command.streaming then some code else closeStatus (command.step (.close code signal)) events
  | event :: events => closeStatus (command.step event) events

/-- A promise is resolved by the exit code 0, or without one. -/
theorem closeStatus_of_resolved {out : String} (hpending : command.settled = none)
    (h : (events.foldl step command).settled = some (.ok out)) :
    closeStatus command events = some (some 0) ∨ closeStatus command events = some none := by
  induction events generalizing command with
  | nil => exact nomatch hpending.symm.trans h
  | cons event events ih =>
    rw [List.foldl_cons] at h
    have hrejected : ∀ error, (command.step event).settled ≠ some (.error error) := fun error he =>
      nomatch (settled_foldl he).symm.trans h
    have hsettle : ∀ outcome, (command.settle outcome).settled = some outcome := by
      intro outcome
      unfold settle
      rw [hpending]
      rfl
    cases event with
    | close code signal =>
      unfold closeStatus
      by_cases hstreaming : command.streaming = true
      · rw [if_pos hstreaming]
        have hstep : command.step (.close code signal) = command.settle (command.outcome code) :=
          if_pos hstreaming
        rw [hstep] at hrejected
        match code with
        | none => exact Or.inr rfl
        | some 0 => exact Or.inl rfl
        | some (code + 1) => exact absurd (hsettle _) (hrejected _)
      · rw [if_neg hstreaming]
        have hstep : command.step (.close code signal) = command := if_neg hstreaming
        rw [hstep] at h ⊢
        exact ih hpending h
    | error error => exact absurd (hsettle _) (hrejected error)
    | exec error =>
      unfold closeStatus
      cases error with
      | none => exact ih hpending h
      | some error =>
        by_cases hexecuted : command.executed = true
        · refine absurd ?_ (hrejected error)
          have hstep : command.step (.exec (some error)) = command.settle (.error error) :=
            if_pos hexecuted
          rw [hstep]
          exact hsettle _
        · have hstep : command.step (.exec (some error)) = command := if_neg hexecuted
          rw [hstep] at h ⊢
          exact ih hpending h
    | ready =>
      unfold closeStatus
      exact ih hpending h
    | stdout chunk =>
      unfold closeStatus
      refine ih ?_ h
      show (if command.streaming then _ else command).settled = _
      split <;> exact hpending
    | stderr chunk =>
      unfold closeStatus
      refine ih ?_ h
      show (if command.streaming then _ else command).settled = _
      split <;> exact hpending

end SshCommand

/-- The command was closed with exit code 0. -/
def ClosedZero (events : List SshEvent) : Prop :=
  SshCommand.connecting.closeStatus events = some (some 0)

/-- The command was closed without an exit code: a signal ended it. -/
def Killed (events : List SshEvent) : Prop :=
  SshCommand.connecting.closeStatus events = some none

/-- The promise of a command is resolved by the exit code 0, or without one. -/
theorem closedZero_or_killed {events : List SshEvent} {out : String}
    (h : settlement events = some (.ok out)) : ClosedZero events ∨ Killed events :=
  SshCommand.closeStatus_of_resolved rfl h

namespace LinuxConnectorService

variable {js : Runtime} {α β : Type}

/-! ### Programs that succeed only if their commands did -/

/-- The outcomes of the commands in a run. -/
def commandOutcomes (t : List (Async.Event LinuxAns)) : List (Except JsError String) :=
  t.filterMap fun
    | ⟨.ssh _ _ _, outcome⟩ => some outcome
    | _ => none

theorem commandOutcomes_append (t₁ t₂ : List (Async.Event LinuxAns)) :
    commandOutcomes (t₁ ++ t₂) = commandOutcomes t₁ ++ commandOutcomes t₂ := List.filterMap_append

/-- Where the program succeeds, its commands did. -/
def Strict (p : LinuxProg α) : Prop :=
  ∀ t a, p.Runs t (.ok a) → ∀ outcome ∈ commandOutcomes t, ∃ out, outcome = .ok out

theorem strict_settle {x : Except JsError α} : Strict (settle x) := by
  rintro _ a ⟨rfl, -⟩ outcome hmem
  cases hmem

theorem Strict.bind {p : LinuxProg α} {f : α → LinuxProg β} (hp : Strict p)
    (hf : ∀ a, Strict (f a)) : Strict (p >>= f) := by
  intro t b hrun outcome hmem
  obtain ⟨a, t₁, t₂, rfl, h₁, h₂⟩ := runs_bind_ok.1 hrun
  rw [commandOutcomes_append, List.mem_append] at hmem
  rcases hmem with hmem | hmem
  · exact hp t₁ a h₁ outcome hmem
  · exact hf a t₂ b h₂ outcome hmem

theorem strict_check {x : Except JsError α} {f : α → LinuxProg β} (hf : ∀ a, Strict (f a)) :
    Strict (Async.ofExcept x >>= f) := strict_settle.bind hf

theorem strict_of_issues {p : LinuxProg α} (h : p.Issues fun r => ¬ IsSsh r) : Strict p := by
  intro t a hrun outcome hmem
  obtain ⟨⟨r, answer⟩, hevent, heq⟩ := List.mem_filterMap.1 hmem
  have hssh := h.of_runs hrun _ hevent
  cases r with
  | ssh connection command input => exact absurd trivial hssh
  | _ => cases heq

theorem strict_command (config : Json) (command : String) (input : Option String) :
    Strict (execSshWithInput config command input) := by
  refine strict_check fun connection => ?_
  rintro _ out ⟨answer, t, rfl, rfl, hanswer⟩ outcome hmem
  obtain rfl := List.mem_singleton.1 hmem
  exact ⟨out, hanswer.symm⟩

/-! ### The operations -/

variable {payload : ConnectorPayload} {config : Json}

theorem executeSsh_strict : Strict (executeSsh js payload config) := by
  have hcommand : ∀ command input {f : String → LinuxProg Json}, (∀ out, Strict (f out)) →
      Strict (execSshWithInput config command input >>= f) :=
    fun command input f hf => (strict_command config command input).bind hf
  have hdisable : ∀ login, Strict (disableSshUser config login) := fun login =>
    (strict_command config _ none).bind fun _ => strict_settle
  have hdelete : Strict (sshDelete js config payload.data payload.params) := by
    refine strict_check fun login => ?_
    split
    · exact hcommand _ _ fun _ => strict_settle
    · exact (hdisable login).bind fun _ => strict_settle
  unfold executeSsh
  split
  · exact hcommand _ _ fun _ => strict_settle
  · exact strict_settle
  · exact strict_check fun login => strict_check fun command => hcommand _ _ fun _ =>
      strict_check fun secret => hcommand _ _ fun _ => strict_settle
  · exact strict_check fun login => strict_check fun command => hcommand _ _ fun _ => strict_settle
  · exact hdelete
  · exact strict_check fun login => (hdisable login).bind fun _ => strict_settle
  · exact strict_check fun login => (hdisable login).bind fun _ => strict_settle
  · exact strict_check fun login => hcommand _ _ fun _ => strict_settle
  · exact strict_check fun login => hcommand _ _ fun _ => strict_settle
  · exact strict_check fun login => strict_check fun secret => hcommand _ _ fun _ => strict_settle
  · exact strict_check fun login => hcommand _ _ fun _ => strict_settle
  · exact strict_check fun login => hcommand _ _ fun _ => strict_settle
  · exact hcommand _ _ fun _ => strict_settle
  · exact hcommand _ _ fun _ => strict_settle
  · exact hcommand _ _ fun _ => strict_settle
  · exact strict_settle

/-- The agent is sent no commands. -/
theorem executeRemoteAgent_strict : Strict (executeRemoteAgent js payload config) := by
  have hrequest : ∀ method path data, Strict (remoteRequest config method path data) := by
    intro method path data
    exact strict_of_issues ⟨fun h => h, fun _ => issues_settle⟩
  unfold executeRemoteAgent
  dsimp only
  split
  · exact hrequest _ _ _
  · exact hrequest _ _ _
  · exact strict_check fun login => strict_check fun secret => hrequest _ _ _
  · exact strict_check fun login => hrequest _ _ _
  · refine strict_check fun login => ?_
    split
    · exact hrequest _ _ _
    · exact hrequest _ _ _
  · exact strict_check fun login => hrequest _ _ _
  · exact strict_check fun login => hrequest _ _ _
  · exact strict_check fun login => hrequest _ _ _
  · exact strict_check fun login => hrequest _ _ _
  · exact strict_check fun login => strict_check fun secret => hrequest _ _ _
  · exact strict_check fun login => hrequest _ _ _
  · exact strict_check fun login => hrequest _ _ _
  · exact hrequest _ _ _
  · exact hrequest _ _ _
  · exact hrequest _ _ _
  · exact strict_settle

/-- The commands of an attempt whose entry is one of success did succeed. -/
theorem attempt_strict {host : FleetHost} {attempt : Attempt}
    (h : attempt.Of js payload config host) (hsuccess : attempt.result.succeeded = true) :
    ∀ outcome ∈ commandOutcomes attempt.trace, ∃ out, outcome = .ok out := by
  obtain ⟨hostConfig, outcome, hconfig, hrun, hresult⟩ := h
  intro command hmem
  unfold Attempt.trace at hmem
  rw [commandOutcomes_append, List.mem_append] at hmem
  rcases hmem with hmem | hmem
  · have hstrict : Strict (hostSshConfig config host) :=
      strict_of_issues (hostSshConfig_issues.mono fun _ => IsSecret.not_isSsh)
    exact hstrict _ _ hconfig command hmem
  · cases outcome with
    | error error =>
      rw [hresult] at hsuccess
      cases hsuccess
    | ok data => exact executeSsh_strict _ _ hrun command hmem

theorem executeFleetUserOperation_strict :
    Strict (executeFleetUserOperation js payload config) := by
  intro t data hrun outcome hmem
  obtain ⟨hosts, t₁, t₂, rfl, hhosts, hrest⟩ := runs_bind_ok.1 hrun
  obtain ⟨results, t₃, t₄, rfl, hloop, hend⟩ := runs_bind_ok.1 hrest
  have hresolve : Strict (resolveFleetHosts js payload) :=
    strict_of_issues (resolveFleetHosts_issues.mono fun _ => IsQuery.not_isSsh)
  dsimp only at hend
  split at hend
  · cases hend.2
  · next hfailed =>
    obtain ⟨rfl, -⟩ := hend
    rw [commandOutcomes_append, commandOutcomes_append, List.mem_append, List.mem_append] at hmem
    rcases hmem with hmem | hmem | hmem
    · exact hresolve _ _ hhosts outcome hmem
    · rcases hostResults_cases hloop with ⟨attempts, hall, rfl, hresults⟩ |
        ⟨_, _, _, _, _, _, -, -, -, -, hx⟩
      · obtain rfl := Except.ok.inj hresults
        -- no entry is one of failure
        have hsucceeded : ∀ attempt ∈ attempts, attempt.result.succeeded = true := by
          intro attempt hattempt
          by_contra hnot
          refine hfailed (List.length_pos_of_mem (a := attempt.result) (List.mem_filter.2
            ⟨List.mem_map_of_mem hattempt, by simpa using hnot⟩))
        obtain ⟨event, hevent, heq⟩ := List.mem_filterMap.1 hmem
        obtain ⟨attempt, hattempt, hevent⟩ := List.mem_flatMap.1 hevent
        obtain ⟨host, -, hof⟩ := exists_host_of_mem hall hattempt
        exact attempt_strict hof (hsucceeded attempt hattempt) outcome
          (List.mem_filterMap.2 ⟨event, hevent, heq⟩)
      · cases hx
    · cases hmem

/-- The queries for the target system and for its groups. -/
theorem fleetTargetSystem_strict (name : String) : Strict (fleetTargetSystem name) := by
  refine strict_of_issues (Issues.bind ⟨fun h => h, fun _ => issues_settle⟩ fun found => ?_)
  cases found with
  | none => exact issues_throw
  | some targetSystem =>
    dsimp only
    split
    · exact issues_pure
    · exact issues_throw

theorem fleetQueries_strict : Strict (searchFleetGroups js payload) ∧
    Strict (getFleetGroup payload) := by
  constructor
  · exact (fleetTargetSystem_strict _).bind fun targetSystem =>
      strict_of_issues (Issues.bind ⟨fun h => h, fun _ => issues_settle⟩ fun _ => issues_pure)
  · refine (fleetTargetSystem_strict _).bind fun targetSystem => ?_
    split
    · exact strict_settle
    · refine strict_of_issues (Issues.bind ⟨fun h => h, fun _ => issues_settle⟩ fun found => ?_)
      cases found with
      | none => exact issues_throw
      | some group => exact issues_pure

theorem enabledFleetHostCount_strict (name : String) : Strict (enabledFleetHostCount name) := by
  unfold enabledFleetHostCount
  split
  · exact strict_settle
  · refine strict_of_issues (Issues.bind ⟨fun h => h, fun _ => issues_settle⟩ fun found => ?_)
    cases found with
    | none => exact issues_pure
    | some targetSystem => exact ⟨fun h => h, fun _ => issues_settle⟩

theorem executeSshFleet_strict : Strict (executeSshFleet js payload config) := by
  unfold executeSshFleet
  split
  · exact (enabledFleetHostCount_strict _).bind fun _ => strict_settle
  · split
    · exact strict_settle
    · split
      · exact fleetQueries_strict.1
      · split
        · exact (@fleetQueries_strict js _).2
        · split
          · exact executeFleetUserOperation_strict
          · exact strict_settle

/-- Where an operation succeeds, its commands did. -/
theorem commands_of_success {t : List (Async.Event LinuxAns)} {result : ConnectorResult}
    (h : (execute js payload).Runs t (.ok result)) (hsuccess : result.success = true) :
    ∀ outcome ∈ commandOutcomes t, ∃ out, outcome = .ok out := by
  unfold execute at h
  dsimp only at h
  split at h
  · obtain rfl := Except.ok.inj h.2
    cases hsuccess
  · obtain ⟨x, hrun, hresult⟩ := runs_attempt.1 h
    cases x with
    | error error =>
      obtain rfl := Except.ok.inj hresult
      cases hsuccess
    | ok data =>
      unfold executeWith at hrun
      split at hrun
      · exact executeRemoteAgent_strict _ _ hrun
      · exact executeSshFleet_strict _ _ hrun
      · exact executeSsh_strict _ _ hrun

theorem tryConnection_strict : Strict (tryConnection config) := by
  unfold tryConnection
  split
  · split
    · exact strict_settle
    · exact Strict.bind (strict_of_issues ⟨fun h => h, fun _ => issues_settle⟩) fun _ =>
        strict_settle
  · exact (strict_command config _ none).bind fun _ => strict_settle
  · exact (enabledFleetHostCount_strict _).bind fun _ => strict_settle
  · exact strict_settle

/-- Where a test of the connection succeeds, its command did. -/
theorem commands_of_testConnection {t : List (Async.Event LinuxAns)} {message : String}
    (h : (testConnection js config).Runs t (.ok (true, message))) :
    ∀ outcome ∈ commandOutcomes t, ∃ out, outcome = .ok out := by
  rcases runs_tryCatch.1 h with ⟨a, ha, hrun⟩ | ⟨e, t₁, t₂, rfl, -, -, hresult⟩
  · exact tryConnection_strict _ _ hrun
  · cases hresult

/-! ### The law -/

/-- A run that reports success. -/
inductive ReportsSuccess (js : Runtime) (t : List (Async.Event LinuxAns)) : Prop
  | execute {payload : ConnectorPayload} {result : ConnectorResult}
    (h : (execute js payload).Runs t (.ok result)) (hsuccess : result.success = true)
  | testConnection {config : Json} {message : String}
    (h : (testConnection js config).Runs t (.ok (true, message)))

/-- The promises of the commands in a run are settled by these events. -/
def SettledBy (t : List (Async.Event LinuxAns)) (deliveries : List (List SshEvent)) : Prop :=
  List.Forall₂ (fun outcome events => settlement events = some outcome) (commandOutcomes t)
    deliveries

theorem forall₂_mem_right {γ δ : Type} {R : γ → δ → Prop} {as : List γ} {bs : List δ}
    (h : List.Forall₂ R as bs) {b : δ} (hb : b ∈ bs) : ∃ a ∈ as, R a b := by
  induction h with
  | nil => cases hb
  | @cons a b' as bs hab _ ih =>
    rcases List.mem_cons.1 hb with rfl | hb
    · exact ⟨a, List.mem_cons_self, hab⟩
    · obtain ⟨a', ha', hR⟩ := ih hb
      exact ⟨a', List.mem_cons_of_mem _ ha', hR⟩

/-- Where success is reported, every command was closed with exit code 0, unless the stream of one was
closed without an exit code. -/
theorem closedZero_iff {js : Runtime} {t : List (Async.Event LinuxAns)}
    {deliveries : List (List SshEvent)} (h : ReportsSuccess js t)
    (hdeliveries : SettledBy t deliveries) :
    (∀ events ∈ deliveries, ClosedZero events) ↔ ∀ events ∈ deliveries, ¬ Killed events := by
  have hresolved : ∀ outcome ∈ commandOutcomes t, ∃ out, outcome = .ok out := by
    cases h with
    | execute h hsuccess => exact commands_of_success h hsuccess
    | testConnection h => exact commands_of_testConnection h
  have hclosed : ∀ events ∈ deliveries, ClosedZero events ∨ Killed events := by
    intro events hevents
    obtain ⟨outcome, houtcome, hsettled⟩ := forall₂_mem_right hdeliveries hevents
    obtain ⟨out, rfl⟩ := hresolved outcome houtcome
    exact closedZero_or_killed hsettled
  refine forall_congr' fun events => imp_congr_right fun hevents => ⟨fun hzero hkilled => ?_,
    (hclosed events hevents).resolve_right⟩
  exact nomatch hzero.symm.trans hkilled

/-- An account is locked on one server. -/
def lockAccount : ConnectorPayload where
  operation := "user.lock"
  targetSystem := "linux"
  payload := .obj [
    ("config", .obj [("provider", .str "ssh-sudo"), ("host", .str "web-1.local"),
      ("username", .str "idm"), ("sudoMode", .str "passwordless"),
      ("hostFingerprint", .str "SHA256:key")]),
    ("data", .obj [("login", .str "ann")])]

/-- The events of a command whose stream is closed. -/
def closedWith (code : Option ℕ) (signal : Option String) : List SshEvent :=
  [.ready, .exec none, .close code signal]

theorem lockAccount_runs : ∃ t, ReportsSuccess Runtime.ascii t ∧ commandOutcomes t = [.ok ""] := by
  have hrun : ∃ connection command input,
      (execute Runtime.ascii lockAccount).Runs [⟨.ssh connection command input, .ok ""⟩]
        (.ok ⟨true, some (.obj [("login", .str "ann"), ("enabled", .bool false)]), none⟩) :=
    ⟨_, _, _, .ok "", [], rfl, rfl, rfl⟩
  obtain ⟨connection, command, input, hrun⟩ := hrun
  exact ⟨_, .execute hrun rfl, rfl⟩

/-- Exit code 0 locks the account. -/
theorem closedZero_lockAccount : ∃ t deliveries, ReportsSuccess Runtime.ascii t ∧
    deliveries ≠ [] ∧ ((∀ events ∈ deliveries, ClosedZero events) ↔
      ∀ events ∈ deliveries, ¬ Killed events) := by
  obtain ⟨t, hreports, houtcomes⟩ := lockAccount_runs
  refine ⟨t, [closedWith (some 0) none], hreports, List.cons_ne_nil _ _,
    closedZero_iff hreports ?_⟩
  unfold SettledBy
  rw [houtcomes]
  exact .cons rfl .nil

/-- A signal ends the command, and the account counts as locked. -/
theorem lockAccount_killed : ∃ t deliveries, ReportsSuccess Runtime.ascii t ∧
    SettledBy t deliveries ∧ ¬ ∀ events ∈ deliveries, ClosedZero events := by
  obtain ⟨t, hreports, houtcomes⟩ := lockAccount_runs
  refine ⟨t, [closedWith none (some "SIGKILL")], hreports, ?_, fun h => ?_⟩
  · unfold SettledBy
    rw [houtcomes]
    exact .cons rfl .nil
  · exact nomatch h _ List.mem_cons_self

end LinuxConnectorService

end IdmMw
