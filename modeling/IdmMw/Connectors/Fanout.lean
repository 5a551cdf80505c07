import IdmMw.Connectors.Inventory
import IdmMw.Connectors.SshRuns

/-!
# The fan-out of an operation over the servers

A fleet operation should either fail before it sends a command, or attempt every selected host once
and account for each of them (`FansOut`).

* `Attempt`, `Accounted`: what was done on one host, and a run in which all are accounted for;
* `hostResults_cases`: the loop attempts all hosts, or ends at the first whose settings fail;
* `mayFail_iff`: whose settings may fail;
* `fansOut_iff`: the operation fans out unless a host whose settings may fail can come after one to which a
  command is sent; rows come in any order.

The secrets may be resolved differently each time (`Secrets`), and a host may do anything.
-/

namespace IdmMw

open Async LinuxConnectorService

/-! ### The surroundings -/

/-- What a secret may be resolved to. -/
structure Secrets where
  env : String → Set (Option String)
  pam : String → Set (Except JsError String)
  env_nonempty : ∀ key, (env key).Nonempty
  pam_nonempty : ∀ refId, (pam refId).Nonempty

def Secrets.Answers (secrets : Secrets) (e : Async.Event LinuxAns) : Prop :=
  match e with
  | ⟨.secretEnv key, a⟩ => a ∈ secrets.env key
  | ⟨.pamGetValue refId, a⟩ => a ∈ secrets.pam refId
  | _ => True

/-- The tables answer the queries and the secrets are resolved. -/
def FleetAnswers (inv : Inventory) (secrets : Secrets) (e : Async.Event LinuxAns) : Prop :=
  inv.Answers e ∧ secrets.Answers e

theorem exists_fleetAnswer (inv : Inventory) (secrets : Secrets) (r : LinuxReq) :
    ∃ a, FleetAnswers inv secrets ⟨r, a⟩ := by
  cases r with
  | secretEnv key => exact (secrets.env_nonempty key).imp fun a ha => ⟨trivial, ha⟩
  | pamGetValue refId => exact (secrets.pam_nonempty refId).imp fun a ha => ⟨trivial, ha⟩
  | targetSystemFindUnique name => exact (inv.exists_answer _).imp fun a ha => ⟨ha, trivial⟩
  | serverGroupFindMany targetSystemId codes =>
    exact (inv.exists_answer _).imp fun a ha => ⟨ha, trivial⟩
  | _ => exact ⟨.error (.error ""), trivial, trivial⟩

/-! ### The law -/

/-- What was done on one host. -/
structure Attempt where
  secrets : List (Async.Event LinuxAns)
  run : List (Async.Event LinuxAns)
  result : FleetResult

def Attempt.trace (attempt : Attempt) : List (Async.Event LinuxAns) := attempt.secrets ++ attempt.run

/-- The payload for one host. -/
def hostPayload (payload : ConnectorPayload) : ConnectorPayload :=
  withData payload (withPosixGroups (payload.payload.get? "data"))

/-- The entry for a host, by the outcome of its operation. -/
def hostEntry (js : Runtime) (payload : ConnectorPayload) (host : FleetHost) (hostConfig : Json)
    (outcome : Except JsError Json) : FleetResult :=
  ⟨host.host.name, outcome.mapError fun error => js.safeConnectorErrorMessage error
    [some hostConfig, payload.payload.get? "data", payload.payload.get? "params"]⟩

/-- The host's settings were made, the operation ran on it, and this is its entry. -/
def Attempt.Of (js : Runtime) (payload : ConnectorPayload) (config : Json) (host : FleetHost)
    (attempt : Attempt) : Prop :=
  ∃ hostConfig outcome, (hostSshConfig config host).Runs attempt.secrets (.ok hostConfig) ∧
    (executeSsh js (hostPayload payload) hostConfig).Runs attempt.run outcome ∧
    attempt.result = hostEntry js payload host hostConfig outcome

/-- What is returned or raised with a summary. -/
def summaryOutcome (js : Runtime) (summary : FleetSummary) : Except JsError Json :=
  if summary.failed > 0 then .error (fleetError js summary) else .ok summary.json

/-- After the queries, every selected host was attempted once, and the summary has one entry for
each. -/
def Accounted (js : Runtime) (inv : Inventory) (payload : ConnectorPayload) (config : Json)
    (t : List (Async.Event LinuxAns)) (x : Except JsError Json) : Prop :=
  ∃ hosts queries attempts, (resolveFleetHosts js payload).Runs queries (.ok hosts) ∧
    (∀ e ∈ queries, ¬ IsSsh e.req) ∧ inv.selection js payload = .ok {host | host ∈ hosts} ∧
    (hosts.map fun host => host.host.id).Nodup ∧
    List.Forall₂ (Attempt.Of js payload config) hosts attempts ∧
    t = queries ++ attempts.flatMap Attempt.trace ∧
    ∃ summary, summary = FleetSummary.of (attempts.map Attempt.result) ∧
      summary.results.map FleetResult.host = hosts.map (fun host => host.host.name) ∧
      summary.total = hosts.length ∧ summary.succeeded + summary.failed = summary.total ∧
      x = summaryOutcome js summary

/-- The operation fails before it sends a command, or every selected host is accounted for. -/
def FansOut (js : Runtime) (inv : Inventory) (secrets : Secrets) (payload : ConnectorPayload)
    (config : Json) : Prop :=
  ∀ t x, (executeFleetUserOperation js payload config).Runs t x →
    (∀ e ∈ t, FleetAnswers inv secrets e) →
    ((∃ e, x = .error e) ∧ ∀ e ∈ t, ¬ IsSsh e.req) ∨ Accounted js inv payload config t x

/-! ### When it holds -/

/-- The settings of the host may fail: it has no enabled credential profile, or a secret of it may
not be resolved. -/
def MayFail (secrets : Secrets) (config : Json) (host : FleetHost) : Prop :=
  ∃ t e, (hostSshConfig config host).Runs t (.error e) ∧ ∀ e ∈ t, secrets.Answers e

/-- A command may be sent to the host: its settings may be made, and with them the checks of the
operation pass. -/
def MaySend (js : Runtime) (secrets : Secrets) (payload : ConnectorPayload) (config : Json)
    (host : FleetHost) : Prop :=
  ∃ t hostConfig, (hostSshConfig config host).Runs t (.ok hostConfig) ∧
    (∀ e ∈ t, secrets.Answers e) ∧ Sends js (hostPayload payload) hostConfig

/-- A host whose settings may fail is selected together with one to which a command may be sent. -/
def MayBreakOff (js : Runtime) (inv : Inventory) (secrets : Secrets) (payload : ConnectorPayload)
    (config : Json) : Prop :=
  ∃ hosts, inv.selection js payload = .ok hosts ∧ ∃ host ∈ hosts, ∃ host' ∈ hosts, host' ≠ host ∧
    MaySend js secrets payload config host ∧ MayFail secrets config host'

/-! ### The loop -/

section Loop

variable {js : Runtime} {payload : ConnectorPayload} {config hostConfig : Json} {host : FleetHost}
  {hosts : List FleetHost} {t : List (Async.Event LinuxAns)}

/-- An attempt never fails: its error is in the entry. -/
theorem hostResult_runs {x : Except JsError FleetResult} :
    (hostResult js payload host hostConfig).Runs t x ↔ ∃ outcome,
      (executeSsh js (hostPayload payload) hostConfig).Runs t outcome ∧
        x = .ok (hostEntry js payload host hostConfig outcome) := by
  unfold hostResult
  rw [runs_tryCatch]
  simp only [runs_bind]
  constructor
  · rintro (⟨a, rfl, ⟨e, h, -⟩ | ⟨data, t₁, t₂, rfl, h, rfl, hx⟩⟩ |
      ⟨e, t₁, t₂, rfl, ⟨e', he, h⟩ | ⟨_, _, _, -, -, -, h⟩, rfl, rfl⟩)
    · cases h
    · obtain rfl := Except.ok.inj hx
      exact ⟨.ok data, by simpa [hostPayload] using h, rfl⟩
    · obtain rfl := Except.error.inj he
      exact ⟨.error e, by simpa [hostPayload] using h, rfl⟩
    · cases h
  · rintro ⟨outcome, h, rfl⟩
    cases outcome with
    | ok data => exact Or.inl ⟨_, rfl, Or.inr ⟨data, t, [], by simp, h, rfl, rfl⟩⟩
    | error e => exact Or.inr ⟨e, t, [], by simp, Or.inl ⟨e, rfl, h⟩, rfl, rfl⟩

/-- All hosts were attempted. -/
def AllAttempted (js : Runtime) (payload : ConnectorPayload) (config : Json)
    (hosts : List FleetHost) (t : List (Async.Event LinuxAns))
    (x : Except JsError (List FleetResult)) : Prop :=
  ∃ attempts, List.Forall₂ (Attempt.Of js payload config) hosts attempts ∧
    t = attempts.flatMap Attempt.trace ∧ x = .ok (attempts.map Attempt.result)

/-- The hosts before one whose settings failed were attempted. -/
def BrokenOff (js : Runtime) (payload : ConnectorPayload) (config : Json)
    (hosts : List FleetHost) (t : List (Async.Event LinuxAns))
    (x : Except JsError (List FleetResult)) : Prop :=
  ∃ done host rest attempts t' e, hosts = done ++ host :: rest ∧
    List.Forall₂ (Attempt.Of js payload config) done attempts ∧
    t = attempts.flatMap Attempt.trace ++ t' ∧
    (hostSshConfig config host).Runs t' (.error e) ∧ x = .error e

theorem hostResults_cases {x : Except JsError (List FleetResult)}
    (h : (hostResults js payload config hosts).Runs t x) :
    AllAttempted js payload config hosts t x ∨ BrokenOff js payload config hosts t x := by
  induction hosts generalizing t x with
  | nil =>
    obtain ⟨rfl, rfl⟩ := h
    exact Or.inl ⟨[], .nil, rfl, rfl⟩
  | cons host hosts ih =>
    rcases runs_bind.1 h with ⟨e, rfl, hfail⟩ | ⟨hostConfig, t₁, t₂, rfl, hconfig, h⟩
    · exact Or.inr ⟨[], host, hosts, [], t, e, rfl, .nil, rfl, hfail, rfl⟩
    · rcases runs_bind.1 h with ⟨e, -, hfail⟩ | ⟨result, t₂, t₃, rfl, hresult, h⟩
      · obtain ⟨_, -, hx⟩ := hostResult_runs.1 hfail
        cases hx
      · obtain ⟨outcome, hrun, hx⟩ := hostResult_runs.1 hresult
        obtain rfl := Except.ok.inj hx
        have hattempt : Attempt.Of js payload config host
            ⟨t₁, t₂, hostEntry js payload host hostConfig outcome⟩ :=
          ⟨hostConfig, outcome, hconfig, hrun, rfl⟩
        rcases runs_bind.1 h with ⟨e, rfl, hfail⟩ | ⟨results, t₃, t₄, rfl, hrest, rfl, rfl⟩
        · rcases ih hfail with ⟨_, -, -, hx⟩ |
            ⟨done, host', rest, attempts, t', e', rfl, hdone, rfl, hfail, hx⟩
          · cases hx
          · refine Or.inr ⟨host :: done, host', rest, _ :: attempts, t', e', rfl,
              .cons hattempt hdone, ?_, hfail, hx⟩
            simp [Attempt.trace]
        · rcases ih hrest with ⟨attempts, hall, rfl, hx⟩ | ⟨_, _, _, _, _, _, -, -, -, -, hx⟩
          · obtain rfl := Except.ok.inj hx
            exact Or.inl ⟨_ :: attempts, .cons hattempt hall, by simp [Attempt.trace], rfl⟩
          · cases hx

theorem hostResults_of_attempts {attempts : List Attempt}
    (h : List.Forall₂ (Attempt.Of js payload config) hosts attempts) :
    (hostResults js payload config hosts).Runs (attempts.flatMap Attempt.trace)
      (.ok (attempts.map Attempt.result)) := by
  induction h with
  | nil => exact ⟨rfl, rfl⟩
  | cons hattempt _ ih =>
    obtain ⟨hostConfig, outcome, hconfig, hrun, hresult⟩ := hattempt
    refine runs_bind.2 (Or.inr ⟨hostConfig, _, _, ?_, hconfig, runs_bind.2 (Or.inr
      ⟨_, _, _, rfl, hostResult_runs.2 ⟨outcome, hrun, rfl⟩, runs_bind.2 (Or.inr
        ⟨_, _, [], (List.append_nil _).symm, ih, rfl, by rw [List.map_cons, hresult]⟩)⟩)⟩)
    simp [Attempt.trace]

end Loop

/-! ### Commands -/

section Commands

variable {js : Runtime} {secrets : Secrets} {payload : ConnectorPayload} {config : Json}
  {host : FleetHost}

/-- The request is for a secret. -/
def IsSecret : LinuxReq → Prop
  | .secretEnv _ | .pamGetValue _ => True
  | _ => False

theorem IsSecret.not_isSsh {r : LinuxReq} (h : IsSecret r) : ¬ IsSsh r := by
  cases r with
  | ssh connection command input => exact h.elim
  | _ => exact id

theorem IsSecret.fleetAnswers {inv : Inventory} {e : Async.Event LinuxAns} (h : IsSecret e.req)
    (ha : secrets.Answers e) : FleetAnswers inv secrets e := by
  obtain ⟨r, a⟩ := e
  cases r with
  | secretEnv key => exact ⟨trivial, ha⟩
  | pamGetValue refId => exact ⟨trivial, ha⟩
  | _ => exact h.elim

theorem resolveSecretRef_issues (ref mode : String) :
    (resolveSecretRef ref mode).Issues IsSecret := by
  unfold resolveSecretRef
  split
  · refine Issues.bind ⟨trivial, fun _ => issues_settle⟩ fun resolved => ?_
    split
    · split
      · exact issues_throw
      · exact issues_pure
    · exact issues_throw
  · split
    · exact ⟨trivial, fun _ => issues_settle⟩
    · exact issues_throw

theorem optionalSecret_issues (ref : Option String) (mode : String) :
    (optionalSecret ref mode).Issues IsSecret := by
  unfold optionalSecret
  split
  · exact issues_pure
  · split
    · exact issues_pure
    · exact (resolveSecretRef_issues _ _).bind fun _ => issues_pure

/-- The settings of a host ask for nothing but secrets. -/
theorem hostSshConfig_issues : (hostSshConfig config host).Issues IsSecret := by
  unfold hostSshConfig
  split
  · exact issues_throw
  · exact (optionalSecret_issues _ _).bind fun _ => (optionalSecret_issues _ _).bind fun _ =>
      issues_pure

/-- The request is a query of the inventory. -/
def IsQuery : LinuxReq → Prop
  | .targetSystemFindUnique _ | .serverGroupFindMany _ _ => True
  | _ => False

theorem IsQuery.not_isSsh {r : LinuxReq} (h : IsQuery r) : ¬ IsSsh r := by
  cases r with
  | ssh connection command input => exact h.elim
  | _ => exact id

theorem IsQuery.fleetAnswers {inv : Inventory} {e : Async.Event LinuxAns} (h : IsQuery e.req)
    (ha : inv.Answers e) : FleetAnswers inv secrets e := by
  obtain ⟨r, a⟩ := e
  cases r with
  | targetSystemFindUnique name => exact ⟨ha, trivial⟩
  | serverGroupFindMany targetSystemId codes => exact ⟨ha, trivial⟩
  | _ => exact h.elim

theorem resolveFleetHosts_issues : (resolveFleetHosts js payload).Issues IsQuery := by
  have htarget : (fleetTargetSystem payload.targetSystem).Issues IsQuery := by
    refine Issues.bind ⟨trivial, fun _ => issues_settle⟩ fun found => ?_
    split
    · split
      · exact issues_pure
      · exact issues_throw
    · exact issues_throw
  refine htarget.bind fun targetSystem => issues_ofExcept.bind fun codes => ?_
  split
  · exact issues_throw
  · refine Issues.bind ⟨trivial, fun _ => issues_settle⟩ fun groups => ?_
    split
    · exact issues_throw
    · dsimp only
      split
      · exact issues_throw
      · exact issues_pure

/-- A command is sent to the host in an attempt exactly if the checks pass. -/
theorem Attempt.Of.maySend {attempt : Attempt} (h : attempt.Of js payload config host)
    (hanswers : ∀ e ∈ attempt.trace, secrets.Answers e) {e : Async.Event LinuxAns}
    (he : e ∈ attempt.trace) (hssh : IsSsh e.req) : MaySend js secrets payload config host := by
  obtain ⟨hostConfig, outcome, hconfig, hrun, -⟩ := h
  refine ⟨attempt.secrets, hostConfig, hconfig,
    fun e he => hanswers e (List.mem_append_left _ he), ?_⟩
  by_contra hsends
  obtain ⟨x, hover⟩ := executeSsh_of_not_sends hsends
  rw [hover] at hrun
  obtain ⟨hnil, -⟩ := hrun
  rcases List.mem_append.1 he with hmem | hmem
  · exact (hostSshConfig_issues.of_runs hconfig e hmem).not_isSsh hssh
  · rw [hnil] at hmem
    cases hmem

end Commands

/-! ### It fans out -/

section FansOut

variable {js : Runtime} {inv : Inventory} {secrets : Secrets} {payload : ConnectorPayload}
  {config : Json}

theorem FleetSummary.of_counts (results : List FleetResult) :
    (FleetSummary.of results).succeeded + (FleetSummary.of results).failed =
      (FleetSummary.of results).total :=
  Nat.sub_add_cancel (List.length_filter_le (fun result => !result.succeeded) results)

theorem exists_host_of_mem {hosts : List FleetHost} {attempts : List Attempt}
    (h : List.Forall₂ (Attempt.Of js payload config) hosts attempts) {attempt : Attempt}
    (hmem : attempt ∈ attempts) : ∃ host ∈ hosts, attempt.Of js payload config host := by
  induction h with
  | nil => cases hmem
  | @cons host first _ _ hfirst _ ih =>
    rcases List.mem_cons.1 hmem with rfl | hmem
    · exact ⟨host, List.mem_cons_self, hfirst⟩
    · obtain ⟨host', hhost', hof⟩ := ih hmem
      exact ⟨host', List.mem_cons_of_mem _ hhost', hof⟩

/-- The entries are in the order of the hosts. -/
theorem hosts_of_attempts {hosts : List FleetHost} {attempts : List Attempt}
    (h : List.Forall₂ (Attempt.Of js payload config) hosts attempts) :
    (attempts.map Attempt.result).map FleetResult.host =
      hosts.map fun host => host.host.name := by
  induction h with
  | nil => rfl
  | cons hattempt _ ih =>
    obtain ⟨hostConfig, outcome, -, -, hresult⟩ := hattempt
    rw [List.map_cons, List.map_cons, List.map_cons, ih, hresult]
    rfl

/-- Where it is not possible that the loop breaks off after a command, the operation fans out. -/
theorem fansOut_of_not_mayBreakOff (h : ¬ MayBreakOff js inv secrets payload config) :
    FansOut js inv secrets payload config := by
  intro t x hrun hanswers
  rcases runs_bind.1 hrun with ⟨e, rfl, hfail⟩ | ⟨hosts, queries, t', rfl, hresolve, hrun⟩
  · exact Or.inl ⟨⟨e, rfl⟩, fun v hv => (resolveFleetHosts_issues.of_runs hfail v hv).not_isSsh⟩
  have hqueries : ∀ e ∈ queries, ¬ IsSsh e.req := fun v hv =>
    (resolveFleetHosts_issues.of_runs hresolve v hv).not_isSsh
  obtain ⟨hselection, hnodup⟩ := wp_answering.1 resolveFleetHosts_wp queries _
    (fun e he => (hanswers e (List.mem_append_left _ he)).1) hresolve
  have hids := hnodup hosts rfl
  rcases runs_bind.1 hrun with ⟨e, rfl, hfail⟩ | ⟨results, t₁, t₂, rfl, hresults, hrun⟩
  · rcases hostResults_cases hfail with ⟨_, -, -, hx⟩ |
      ⟨done, host, rest, attempts, t'', e', rfl, hdone, rfl, hfail, hx⟩
    · cases hx
    refine Or.inl ⟨⟨e, rfl⟩, fun v hv hssh => ?_⟩
    rcases List.mem_append.1 hv with hmem | hmem
    · exact hqueries v hmem hssh
    rcases List.mem_append.1 hmem with hmem | hmem
    · -- a command to a host before the one whose settings fail
      obtain ⟨attempt, hattempt, hv'⟩ := List.mem_flatMap.1 hmem
      obtain ⟨host', hhost', hof⟩ := exists_host_of_mem hdone hattempt
      refine h ⟨_, hselection.symm, host', by simp [hhost'], host, by simp, ?_, ?_, ?_⟩
      · rintro rfl
        rw [List.map_append, List.nodup_append] at hids
        exact hids.2.2 _ (List.mem_map_of_mem hhost') _ (by simp) rfl
      · exact hof.maySend (fun e he => (hanswers e (List.mem_append_right _
          (List.mem_append_left _ (List.mem_flatMap.2 ⟨attempt, hattempt, he⟩)))).2) hv' hssh
      · exact ⟨t'', e', hfail, fun e he =>
          (hanswers e (List.mem_append_right _ (List.mem_append_right _ he))).2⟩
    · exact (hostSshConfig_issues.of_runs hfail v hmem).not_isSsh hssh
  · rcases hostResults_cases hresults with ⟨attempts, hall, rfl, hx⟩ |
      ⟨_, _, _, _, _, _, -, -, -, -, hx⟩
    · obtain rfl := Except.ok.inj hx
      refine Or.inr ⟨hosts, queries, attempts, hresolve, hqueries, hselection.symm, hids, hall, ?_,
        _, rfl, hosts_of_attempts hall, ?_, FleetSummary.of_counts _, ?_⟩
      · obtain rfl : t₂ = [] := by
          revert hrun
          dsimp only
          split
          · exact fun h => h.1
          · exact fun h => h.1
        rw [List.append_nil]
      · show (attempts.map Attempt.result).length = _
        rw [List.length_map, hall.length_eq]
      · revert hrun
        unfold summaryOutcome
        dsimp only
        split
        · exact fun h => h.2
        · exact fun h => h.2
    · cases hx

/-- A run of the settings of a host that answers the secrets. -/
theorem answers_of_secrets {α : Type} {p : LinuxProg α} {t : List (Async.Event LinuxAns)}
    {x : Except JsError α} (h : p.Issues IsSecret) (hrun : p.Runs t x)
    (ht : ∀ e ∈ t, secrets.Answers e) : ∀ e ∈ t, FleetAnswers inv secrets e :=
  fun e he => (h.of_runs hrun e he).fleetAnswers (ht e he)

/-- With a host whose settings may fail, the loop may fail. -/
theorem exists_failing_run {hosts : List FleetHost} {host : FleetHost} (hmem : host ∈ hosts)
    (hfail : MayFail secrets config host) :
    ∃ t e, (∀ v ∈ t, FleetAnswers inv secrets v) ∧
      (hostResults js payload config hosts).Runs t (.error e) := by
  induction hosts with
  | nil => cases hmem
  | cons first hosts ih =>
    by_cases hfirst : first = host
    · subst hfirst
      obtain ⟨t, e, hrun, ht⟩ := hfail
      exact ⟨t, e, answers_of_secrets hostSshConfig_issues hrun ht,
        runs_bind.2 (Or.inl ⟨e, rfl, hrun⟩)⟩
    · obtain ⟨t₁, x, ht₁, hconfig⟩ :=
        exists_runs (exists_fleetAnswer inv secrets) (hostSshConfig config first)
      cases x with
      | error e => exact ⟨t₁, e, ht₁, runs_bind.2 (Or.inl ⟨e, rfl, hconfig⟩)⟩
      | ok hostConfig =>
        obtain ⟨t₂, outcome, ht₂, hrun⟩ := exists_runs (exists_fleetAnswer inv secrets)
          (executeSsh js (hostPayload payload) hostConfig)
        have hmem' : host ∈ hosts := by
          rcases List.mem_cons.1 hmem with rfl | hmem
          · exact absurd rfl hfirst
          · exact hmem
        obtain ⟨t₃, e, ht₃, hrest⟩ := ih hmem'
        refine ⟨t₁ ++ (t₂ ++ t₃), e, ?_, runs_bind.2 (Or.inr ⟨hostConfig, t₁, _, rfl, hconfig,
          runs_bind.2 (Or.inr ⟨_, t₂, t₃, rfl, hostResult_runs.2 ⟨outcome, hrun, rfl⟩,
            runs_bind.2 (Or.inl ⟨e, rfl, hrest⟩)⟩)⟩)⟩
        simp only [List.mem_append]
        rintro v (hv | hv | hv)
        · exact ht₁ v hv
        · exact ht₂ v hv
        · exact ht₃ v hv

/-- An operation that passes its checks sends a command in every run. -/
theorem exists_ssh_of_sends {payload : ConnectorPayload} {t : List (Async.Event LinuxAns)}
    {x : Except JsError Json} (h : Sends js payload config)
    (hrun : (executeSsh js payload config).Runs t x) : ∃ e ∈ t, IsSsh e.req := by
  obtain ⟨connection, command, input, k, hbegins⟩ := executeSsh_of_sends h
  rw [hbegins] at hrun
  obtain ⟨a, t', rfl, -⟩ := hrun
  exact ⟨_, List.mem_cons_self, trivial⟩

/-- Where the loop may break off after a command, there is a run in which it does. -/
theorem not_fansOut_of_mayBreakOff (h : MayBreakOff js inv secrets payload config) :
    ¬ FansOut js inv secrets payload config := by
  obtain ⟨selected, hselection, host, hhost, host', hhost', hne,
    ⟨t₁, hostConfig, hconfig, ht₁, hsends⟩, hfail⟩ := h
  obtain ⟨queries, rest, hqueries, hresolve⟩ := exists_resolve_first hselection hhost
  have hqueries' : ∀ e ∈ queries, FleetAnswers inv secrets e := fun e he =>
    (resolveFleetHosts_issues.of_runs hresolve e he).fleetAnswers (hqueries e he)
  obtain ⟨hsame, -⟩ := wp_answering.1 resolveFleetHosts_wp queries _ hqueries hresolve
  have hrest : host' ∈ rest := by
    rw [hselection] at hsame
    have hset : {h | h ∈ host :: rest} = selected := Except.ok.inj hsame
    have hmem : host' ∈ {h | h ∈ host :: rest} := hset ▸ hhost'
    rcases List.mem_cons.1 hmem with rfl | hmem
    · exact absurd rfl hne
    · exact hmem
  obtain ⟨t₂, outcome, ht₂, hrun⟩ := exists_runs (exists_fleetAnswer inv secrets)
    (executeSsh js (hostPayload payload) hostConfig)
  obtain ⟨t₃, e, ht₃, hbroken⟩ : ∃ t e, (∀ v ∈ t, FleetAnswers inv secrets v) ∧
      (hostResults js payload config rest).Runs t (.error e) := exists_failing_run hrest hfail
  have hloop : (hostResults js payload config (host :: rest)).Runs (t₁ ++ (t₂ ++ t₃)) (.error e) :=
    runs_bind.2 (Or.inr ⟨hostConfig, t₁, _, rfl, hconfig, runs_bind.2 (Or.inr ⟨_, t₂, t₃, rfl,
      hostResult_runs.2 ⟨outcome, hrun, rfl⟩, runs_bind.2 (Or.inl ⟨e, rfl, hbroken⟩)⟩)⟩)
  have hanswers : ∀ v ∈ queries ++ (t₁ ++ (t₂ ++ t₃)), FleetAnswers inv secrets v := by
    simp only [List.mem_append]
    rintro v (hv | hv | hv | hv)
    · exact hqueries' v hv
    · exact answers_of_secrets hostSshConfig_issues hconfig ht₁ v hv
    · exact ht₂ v hv
    · exact ht₃ v hv
  intro hfans
  rcases hfans (queries ++ (t₁ ++ (t₂ ++ t₃))) (.error e)
      (runs_bind.2 (Or.inr ⟨_, queries, _, rfl, hresolve, runs_bind.2 (Or.inl ⟨e, rfl, hloop⟩)⟩))
      hanswers
    with ⟨-, hnone⟩ | ⟨hosts, queries', attempts, hresolve', -, -, -, hall, htrace, -⟩
  · obtain ⟨v, hv, hssh⟩ := exists_ssh_of_sends hsends hrun
    exact hnone v (by simp [hv]) hssh
  · obtain ⟨rfl, hhosts⟩ := hresolve.prefix_unique hresolve' htrace
    obtain rfl := Except.ok.inj hhosts
    have hattempts := hostResults_of_attempts hall
    rw [← List.append_cancel_left htrace] at hattempts
    have htrace : t₁ ++ (t₂ ++ t₃) ++ [] = t₁ ++ (t₂ ++ t₃) ++ [] := rfl
    obtain ⟨-, hx⟩ := hloop.prefix_unique hattempts htrace
    cases hx

end FansOut

/-- An operation fans out, whatever the hosts do, exactly if no host whose settings may fail is
selected together with one to which a command may be sent. -/
theorem fansOut_iff (js : Runtime) (inv : Inventory) (secrets : Secrets)
    (payload : ConnectorPayload) (config : Json) :
    FansOut js inv secrets payload config ↔ ¬ MayBreakOff js inv secrets payload config :=
  ⟨fun h hbreak => not_fansOut_of_mayBreakOff hbreak h, fansOut_of_not_mayBreakOff⟩

/-! ### Whose settings may fail -/

section MayFail

variable {secrets : Secrets} {config : Json} {host : FleetHost}

/-- A reference that may not be resolved: the variable may be missing or empty, the store may fail, or
the mode is neither of the two. -/
def Unresolvable (secrets : Secrets) (ref mode : String) : Prop :=
  if mode = "env" then none ∈ secrets.env (envKey ref) ∨ some "" ∈ secrets.env (envKey ref)
  else if mode = "aapm" then ∃ e, .error e ∈ secrets.pam (pamRefId ref)
  else True

theorem resolveSecretRef_mayFail {ref mode : String} :
    (∃ t e, (resolveSecretRef ref mode).Runs t (.error e) ∧ ∀ v ∈ t, secrets.Answers v) ↔
      Unresolvable secrets ref mode := by
  unfold resolveSecretRef Unresolvable
  by_cases henv : mode = "env"
  · rw [if_pos henv, if_pos henv]
    constructor
    · rintro ⟨t, e, hrun, ht⟩
      obtain ⟨a, t', rfl, hrun⟩ := hrun
      have ha : a ∈ secrets.env (envKey ref) := ht _ List.mem_cons_self
      cases a with
      | none => exact Or.inl ha
      | some resolved =>
        by_cases hempty : resolved = ""
        · exact Or.inr (hempty ▸ ha)
        · replace hrun : (if resolved = "" then throw _ else Pure.pure resolved :
            LinuxProg String).Runs t' (.error e) := hrun
          rw [if_neg hempty] at hrun
          cases hrun.2
    · rintro (ha | ha)
      · exact ⟨[⟨.secretEnv (envKey ref), none⟩], _, ⟨none, [], rfl, rfl, rfl⟩, List.forall_mem_singleton.2 ha⟩
      · exact ⟨[⟨.secretEnv (envKey ref), some ""⟩], _, ⟨some "", [], rfl, rfl, rfl⟩,
          List.forall_mem_singleton.2 ha⟩
  · rw [if_neg henv, if_neg henv]
    by_cases haapm : mode = "aapm"
    · rw [if_pos haapm, if_pos haapm]
      constructor
      · rintro ⟨t, e, ⟨a, t', rfl, -, rfl⟩, ht⟩
        exact ⟨e, ht _ List.mem_cons_self⟩
      · rintro ⟨e, ha⟩
        exact ⟨[⟨.pamGetValue (pamRefId ref), .error e⟩], e, ⟨_, [], rfl, rfl, rfl⟩,
          List.forall_mem_singleton.2 ha⟩
    · rw [if_neg haapm, if_neg haapm]
      exact ⟨fun _ => trivial, fun _ => ⟨[], _, ⟨rfl, rfl⟩, by simp⟩⟩

/-- The profile names a secret that may not be resolved. -/
def SecretMayFail (secrets : Secrets) (ref : Option String) (mode : String) : Prop :=
  ∃ text, ref = some text ∧ text ≠ "" ∧ Unresolvable secrets text mode

theorem optionalSecret_mayFail {ref : Option String} {mode : String} :
    (∃ t e, (optionalSecret ref mode).Runs t (.error e) ∧ ∀ v ∈ t, secrets.Answers v) ↔
      SecretMayFail secrets ref mode := by
  unfold optionalSecret SecretMayFail
  cases ref with
  | none =>
    constructor
    · rintro ⟨t, e, ⟨-, hx⟩, -⟩
      cases hx
    · rintro ⟨text, hnone, -⟩
      cases hnone
  | some text =>
    simp only [Option.some.injEq, exists_eq_left']
    by_cases hempty : text = ""
    · simp only [hempty, if_true, ne_eq, not_true_eq_false, false_and, iff_false]
      rintro ⟨t, e, ⟨-, hx⟩, -⟩
      cases hx
    · simp only [hempty, if_false, ne_eq, not_false_eq_true, true_and]
      rw [← resolveSecretRef_mayFail]
      constructor
      · rintro ⟨t, e, hrun, ht⟩
        rcases runs_bind.1 hrun with ⟨e', he, h⟩ | ⟨_, _, _, -, -, -, hx⟩
        · exact ⟨t, e', h, ht⟩
        · cases hx
      · rintro ⟨t, e, hrun, ht⟩
        exact ⟨t, e, runs_bind.2 (Or.inl ⟨e, rfl, hrun⟩), ht⟩

/-- The settings of a host may fail if it has no enabled profile or a secret of the profile may
fail. -/
theorem mayFail_iff : MayFail secrets config host ↔
    ∀ profile, host.credentialProfile.filter (·.enabled) = some profile →
      SecretMayFail secrets profile.privateKeyRef profile.mode ∨
        SecretMayFail secrets profile.passwordRef profile.mode := by
  unfold MayFail hostSshConfig
  cases host.credentialProfile.filter (·.enabled) with
  | none => exact ⟨nofun, fun _ => ⟨[], _, ⟨rfl, rfl⟩, by simp⟩⟩
  | some profile =>
    simp only [Option.some.injEq, forall_eq', ← optionalSecret_mayFail]
    constructor
    · rintro ⟨t, e, hrun, ht⟩
      rcases runs_bind.1 hrun with ⟨e, -, h⟩ | ⟨privateKey, t₁, t₂, rfl, -, hrun⟩
      · exact Or.inl ⟨t, e, h, ht⟩
      · rcases runs_bind.1 hrun with ⟨e, -, h⟩ | ⟨_, _, _, -, -, -, hx⟩
        · exact Or.inr ⟨t₂, e, h, fun v hv => ht v (List.mem_append_right _ hv)⟩
        · cases hx
    · rintro (⟨t, e, hrun, ht⟩ | ⟨t, e, hrun, ht⟩)
      · exact ⟨t, e, runs_bind.2 (Or.inl ⟨e, rfl, hrun⟩), ht⟩
      · -- the private key comes first: it is resolved, or it fails
        obtain ⟨t₁, x, ht₁, hkey⟩ := exists_runs (P := secrets.Answers)
          (fun r => (exists_fleetAnswer ⟨[], [], [], [], [], .nil, .nil⟩ secrets r).imp
            fun a ha => ha.2) (optionalSecret profile.privateKeyRef profile.mode)
        cases x with
        | error e' => exact ⟨t₁, e', runs_bind.2 (Or.inl ⟨e', rfl, hkey⟩), ht₁⟩
        | ok privateKey =>
          refine ⟨t₁ ++ t, e, runs_bind.2 (Or.inr ⟨privateKey, t₁, t, rfl, hkey,
            runs_bind.2 (Or.inl ⟨e, rfl, hrun⟩)⟩), fun v hv => ?_⟩
          rcases List.mem_append.1 hv with hv | hv
          · exact ht₁ v hv
          · exact ht v hv

end MayFail

/-! ### A host without a profile -/

/-- A second host of the group, which has no credential profile. -/
def spareHost : LinuxHost :=
  ⟨"host-2", "ts-1", none, "web-2", "web-2.local", 22, "SHA256:key", true, none⟩

/-- One server group with two hosts. -/
def mixedInventory : Inventory where
  targetSystems := [⟨"ts-1", "linux", "linux", "Linux", .native (.obj []), true, 0, 0⟩]
  profiles := [⟨"profile-1", "ts-1", "key", "env", "idm", some "env:KEY", none, true⟩]
  hosts := [⟨"host-1", "ts-1", some "profile-1", "web-1", "web-1.local", 22, "SHA256:key", true, none⟩,
    spareHost]
  groups := [⟨"group-1", "ts-1", "web", "Web", none, true⟩]
  memberships := [⟨"group-1", "host-1"⟩, ⟨"group-1", "host-2"⟩]
  hostIds := by decide
  groupCodes := by decide

/-- The variable of the key is set. -/
def keySecrets : Secrets where
  env _ := {some "key"}
  pam _ := {.ok "secret"}
  env_nonempty _ := ⟨_, rfl⟩
  pam_nonempty _ := ⟨_, rfl⟩

def fleetConfig : Json := .obj [("provider", .str "ssh-sudo-fleet"), ("sudoMode", .str "passwordless")]

/-- An account on the servers of the group. -/
def webPayload : ConnectorPayload where
  operation := "user.create"
  targetSystem := "linux"
  payload := .obj [("config", fleetConfig), ("data", .obj [("login", .str "ivanov"),
    ("password", .str "secret"), ("serverGroups", .arr [.str "web"])])]

theorem mixedInventory_member {host : LinuxHost} (hmem : host ∈ mixedInventory.hosts) :
    mixedInventory.Member ⟨"group-1", "ts-1", "web", "Web", none, true⟩
      (mixedInventory.fleetHost host) := by
  refine ⟨host, hmem, rfl, ⟨"group-1", host.id⟩, ?_, rfl, rfl⟩
  simp only [mixedInventory, spareHost, List.mem_cons, List.not_mem_nil, or_false] at hmem
  rcases hmem with rfl | rfl
  · exact List.mem_cons_self
  · exact List.mem_cons_of_mem _ List.mem_cons_self

/-- The account is created on the first host; then the operation fails for want of a profile, and
says nothing of the first. -/
theorem fleet_breaks_off :
    ¬ FansOut .ascii mixedInventory keySecrets webPayload fleetConfig := by
  have hrequested : mixedInventory.Requested "ts-1" ["web"]
      ⟨"group-1", "ts-1", "web", "Web", none, true⟩ := by
    simp [Inventory.Requested, mixedInventory]
  have hknown : mixedInventory.Known "ts-1" ["web"] := by
    intro code hcode
    obtain rfl := List.mem_singleton.1 hcode
    exact ⟨_, hrequested, rfl⟩
  have hhosts : ∀ host ∈ mixedInventory.hosts, host.enabled = true →
      mixedInventory.fleetHost host ∈ mixedInventory.HostsOf "ts-1" ["web"] :=
    fun host hmem hen => ⟨hen, _, hrequested, mixedInventory_member hmem⟩
  have hfirst := hhosts _ List.mem_cons_self rfl
  have hspare := hhosts spareHost (List.mem_cons_of_mem _ List.mem_cons_self) rfl
  have hselection : mixedInventory.selection .ascii webPayload =
      .ok (mixedInventory.HostsOf "ts-1" ["web"]) := by
    show mixedInventory.selected "ts-1" ["web"] = _
    unfold Inventory.selected
    rw [if_neg (List.cons_ne_nil _ _), if_neg (not_not.2 hknown),
      if_neg (Set.nonempty_iff_ne_empty.1 ⟨_, hfirst⟩)]
  refine not_fansOut_of_mayBreakOff ⟨_, hselection, _, hfirst, _, hspare, ?_, ?_, ?_⟩
  · intro heq
    have := congrArg (fun host => host.host.id) heq
    simp [Inventory.fleetHost, spareHost] at this
  · exact ⟨[⟨.secretEnv "KEY", some "key"⟩], _, ⟨_, _, rfl, rfl, rfl⟩,
      List.forall_mem_singleton.2 rfl, rfl, rfl⟩
  · exact mayFail_iff.2 fun profile h => by cases h

end IdmMw
