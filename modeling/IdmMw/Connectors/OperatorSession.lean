import IdmMw.Connectors.ProtectedOperator
import IdmMw.Library.History

/-!
# The session of the operator

The connector for ConsultantPlus manages users with the session of an operator, whom the server has
logged in before.

* `FromServer`, `Reports`: a status that the server sent, and one of a login that succeeded;
* `authenticate_runs`: there is a session only after such a status;
* `callConfiguredEndpoint_wp`, `managedUserOperation_wp`, `execute_wp`: requests for a user are sent
  with a session;
* `managed_after_login`: the law.
-/

namespace IdmMw

open Async

namespace ConsultantPlusConnectorService

variable {rt : ConsultantRuntime} {config : Json} {payload : ConnectorPayload}
  {t : List (Event ConsultantAns)} {status status' : Option Json} {jar jar' : CookieJar}

/-! ### What the server said -/

/-- The server answered a request of a login with this status. -/
def FromServer (rt : ConsultantRuntime) (t : List (Event ConsultantAns))
    (status : Option Json) : Prop :=
  ∃ r response, ⟨.request r, .ok response⟩ ∈ t ∧ IsLoginData r.data ∧
    (status = response.data ∨ status = some (authStatusFromResponse rt response))

/-- The login was successful, or it goes on at another address. -/
def Reports (status : Option Json) : Prop :=
  ∃ v, status = some v ∧ (v.get? "authStatus" = some (.str "successful") ∨
    v.get? "authStatus" = some (.str "redirect") ∧
      ∃ returnUrl, v.get? "returnUrl" = some returnUrl ∧ returnUrl.truthy = true)

theorem FromServer.mono {t' : List (Event ConsultantAns)} (h : FromServer rt t status)
    (ht : t ⊆ t') : FromServer rt t' status := by
  obtain ⟨r, response, hmem, hr⟩ := h
  exact ⟨r, response, ht hmem, hr⟩

theorem request_runs {method : String} {url : Except JsError String} {headers : Settings}
    {data : Option ConsultantData} {response : ConsultantResponse}
    (h : (request rt config method url headers data).Runs t (.ok response)) :
    ∃ r, ⟨.request r, .ok response⟩ ∈ t ∧ r.data = data := by
  obtain ⟨text, -, h⟩ := runs_check_ok.1 h
  obtain ⟨agent, t₁, t₂, rfl, -, hsent⟩ := runs_bind_ok.1 h
  obtain ⟨a, rfl, rfl⟩ := runs_request.1 hsent
  exact ⟨_, List.mem_append_right _ List.mem_cons_self, rfl⟩

theorem startLogin_runs {csrf : Json}
    (h : (startLogin rt config csrf jar).Runs t (.ok (status, jar'))) : FromServer rt t status := by
  obtain ⟨response, t₁, t₂, rfl, hrequest, hrest⟩ := runs_bind_ok.1 h
  obtain ⟨jar₁, -, hpure⟩ := runs_check_ok.1 hrest
  obtain ⟨r, hmem, hdata⟩ := request_runs hrequest
  obtain ⟨rfl, heq⟩ := hpure
  obtain ⟨rfl, -⟩ := Prod.mk.inj (Except.ok.inj heq)
  refine ⟨r, response, List.mem_append_left _ hmem, ?_, Or.inl rfl⟩
  rw [hdata]
  trivial

/-- The status of the last turn, or the one before the first. -/
theorem pollAuthStatus_runs {pid current current' : Json} {left : ℕ}
    (h : (pollAuthStatus rt config pid left current jar).Runs t (.ok (current', jar'))) :
    current' = current ∨ FromServer rt t (some current') := by
  induction left generalizing current jar t with
  | zero =>
    obtain ⟨-, heq⟩ := h
    obtain ⟨rfl, -⟩ := Prod.mk.inj (Except.ok.inj heq)
    exact Or.inl rfl
  | succ left ih =>
    obtain ⟨response, t₁, t₂, rfl, hrequest, hrest⟩ := runs_bind_ok.1 h
    obtain ⟨jar₁, -, hturn⟩ := runs_check_ok.1 hrest
    obtain ⟨r, hmem, hdata⟩ := request_runs hrequest
    have hthis : FromServer rt (t₁ ++ t₂) (some (authStatusFromResponse rt response)) := by
      refine ⟨r, response, List.mem_append_left _ hmem, ?_, Or.inr rfl⟩
      rw [hdata]
      trivial
    dsimp only at hturn
    split at hturn
    · rcases ih hturn with rfl | hlater
      · exact Or.inr hthis
      · exact Or.inr (hlater.mono (List.subset_append_right _ _))
    · obtain ⟨-, heq⟩ := hturn
      obtain ⟨rfl, -⟩ := Prod.mk.inj (Except.ok.inj heq)
      exact Or.inr hthis

theorem resolveAuthStatus_runs
    (h : (resolveAuthStatus rt config status jar).Runs t (.ok (status', jar'))) :
    status' = status ∨ FromServer rt t status' := by
  obtain ⟨authStatus, -, h⟩ := runs_check_ok.1 h
  have hsame : ∀ {t}, (pure (status, jar) : ConsultantProg _).Runs t (.ok (status', jar')) →
      status' = status ∨ FromServer rt t status' := by
    rintro t ⟨-, heq⟩
    exact Or.inl (Prod.mk.inj (Except.ok.inj heq)).1
  split at h
  · split at h
    · obtain ⟨⟨current, jar₁⟩, t₁, t₂, rfl, hpoll, hpure⟩ := runs_bind_ok.1 h
      obtain ⟨rfl, heq⟩ := hpure
      obtain ⟨rfl, -⟩ := Prod.mk.inj (Except.ok.inj heq)
      rcases pollAuthStatus_runs hpoll with rfl | hserver
      · exact Or.inl rfl
      · exact Or.inr (hserver.mono (List.subset_append_left _ _))
    · exact hsame h
  · exact hsame h

/-- A login that does not end with an error had such a status. -/
theorem finishLogin_runs {csrf : Json} {session : ConsultantSession}
    (h : (finishLogin rt config csrf status jar).Runs t (.ok session)) : Reports status := by
  obtain ⟨authStatus, hauth, h⟩ := runs_check_ok.1 h
  dsimp only at h
  obtain ⟨v, rfl, rfl⟩ : ∃ v, status = some v ∧ authStatus = v.get? "authStatus" := by
    unfold property at hauth
    split at hauth
    · cases hauth
    · cases hauth
    · exact ⟨_, rfl, (Except.ok.inj hauth).symm⟩
  split at h
  · next hsuccessful => exact ⟨v, rfl, Or.inl hsuccessful⟩
  · next returnUrl hredirect hreturn =>
    obtain ⟨hsome, htruthy⟩ := Option.filter_eq_some_iff.1 hreturn
    exact ⟨v, rfl, Or.inr ⟨hredirect, returnUrl, hsome, htruthy⟩⟩
  · cases h.2

/-- There is a session of the operator only after the server has reported one. -/
theorem authenticate_runs {session : ConsultantSession}
    (h : (authenticate rt config).Runs t (.ok session)) (hsession : session.authenticated = true) :
    ∃ status, FromServer rt t status ∧ Reports status := by
  obtain ⟨page, t₁, t₂, rfl, -, h⟩ := runs_bind_ok.1 h
  obtain ⟨jar, -, h⟩ := runs_check_ok.1 h
  obtain ⟨csrf, -, h⟩ := runs_check_ok.1 h
  split at h
  · cases h.2
  · split at h
    · obtain ⟨-, heq⟩ := h
      obtain rfl := Except.ok.inj heq
      cases hsession
    · split at h
      · cases h.2
      · obtain ⟨⟨started, jar₁⟩, t₃, t₄, rfl, hstart, h⟩ := runs_bind_ok.1 h
        obtain ⟨⟨resolved, jar₂⟩, t₅, t₆, rfl, hresolve, hfinish⟩ := runs_bind_ok.1 h
        refine ⟨resolved, ?_, finishLogin_runs hfinish⟩
        rcases resolveAuthStatus_runs hresolve with rfl | hserver
        · exact ((startLogin_runs hstart).mono (List.subset_append_left _ _)).mono
            (List.subset_append_right _ _)
        · exact ((hserver.mono (List.subset_append_left _ _)).mono
            (List.subset_append_right _ _)).mono (List.subset_append_right _ _)

/-! ### Requests for a user -/

/-- The server has reported a login, and no user was managed yet. -/
def OperatorReady (rt : ConsultantRuntime) (t : List (Event ConsultantAns)) : Prop :=
  (∃ status, FromServer rt t status ∧ Reports status) ∧ ∀ e ∈ t, ¬ IsManaged e.req

/-- A request for a user is sent after a login, and once. -/
def sessionMonitor (rt : ConsultantRuntime) : Monitor (List (Event ConsultantAns)) ConsultantAns :=
  .history fun t r => IsManaged r → OperatorReady rt t

variable {s : List (Event ConsultantAns)}

/-- A login is free to ask what it asks. -/
theorem login_wp {α : Type} {p : ConsultantProg α}
    {Q : List (Event ConsultantAns) → Except JsError α → Prop}
    (h : p.Issues (OnRequests fun r => IsLoginData r.data))
    (hQ : ∀ t x, p.Runs t x → (∀ e ∈ t, ¬ IsManaged e.req) → Q (s ++ t) x) :
    p.wp (sessionMonitor rt) Q s := by
  refine h.wp_history (fun t r hr hmanaged => absurd hmanaged (not_isManaged hr)) ?_
  exact fun t x hrun => hQ t x hrun fun e he => not_isManaged (h.of_runs hrun e he)

theorem request_wp {method : String} {url : Except JsError String} {headers : Settings}
    {data : Option ConsultantData} (h : OperatorReady rt s) :
    (request rt config method url headers data).wp (sessionMonitor rt) (fun _ _ => True) s := by
  have hsent : ∀ {s} text agent, OperatorReady rt s →
      (await (.request ⟨method, text, headers, data, timeout config, agent⟩) .settle :
        ConsultantProg _).wp (sessionMonitor rt) (fun _ _ => True) s := by
    intro s text agent hready
    exact ⟨fun _ => hready, fun _ _ _ => trivial⟩
  refine wp_bind.2 (wp_ofExcept.2 ?_)
  cases url with
  | error e => trivial
  | ok text =>
    refine wp_bind.2 ?_
    unfold axiosTlsConfig
    split
    · exact hsent text none h
    · refine wp_bind.2 (wp_ofExcept.2 ?_)
      cases assertTlsUrl rt (config.get? "baseUrl") with
      | error e => trivial
      | ok u =>
        refine ⟨False.elim, ?_⟩
        rintro (e | u) _ rfl
        · trivial
        · refine hsent text _ ⟨?_, fun e he => ?_⟩
          · obtain ⟨status, hserver, hreports⟩ := h.1
            exact ⟨status, hserver.mono (List.subset_append_left _ _), hreports⟩
          · rcases List.mem_append.1 he with hold | hnew
            · exact h.2 e hold
            · obtain rfl := List.mem_singleton.1 hnew
              exact not_false

theorem callConfiguredEndpoint_wp {operation path : String} {method contentType : Json}
    {body : Body} (hs : ∀ e ∈ s, ¬ IsManaged e.req) :
    (callConfiguredEndpoint rt operation config path method contentType body).wp
      (sessionMonitor rt) (fun _ _ => True) s := by
  refine wp_bind.2 (wp_ofExcept.2 ?_)
  cases upperCase rt method with
  | error e => trivial
  | ok method =>
    refine wp_tryCatch.2 (wp_mono (Q := fun _ _ => True) ?_ ?_)
    · refine wp_bind.2 (login_wp (authenticate_issues (admitsLogin_data config)) ?_)
      rintro t (e | session) hrun hlogin
      · trivial
      dsimp only
      split
      · trivial
      · next hsession =>
        refine wp_bind.2 (wp_mono (request_wp ⟨?_, fun e he => ?_⟩) ?_)
        · obtain ⟨status, hserver, hreports⟩ := authenticate_runs hrun (by simpa using hsession)
          exact ⟨status, hserver.mono (List.subset_append_right _ _), hreports⟩
        · exact (List.mem_append.1 he).elim (hs e) (hlogin e)
        · rintro s (e | response) -
          · trivial
          · trivial
    · rintro s (e | result) -
      · trivial
      · trivial

theorem managedUserOperation_wp {operation : String} {endpoint : Endpoint}
    {fallback : Properties → Settings} {data : Settings} {rawPayloads : List Settings} :
    (managedUserOperation rt operation endpoint fallback config data rawPayloads).wp
      (sessionMonitor rt) (fun _ _ => True) [] := by
  have hrest : ∀ {s} values, (∀ e ∈ s, ¬ IsManaged e.req) →
      (callConfiguredUserEndpoint rt operation config endpoint (fallback values) values).wp
        (sessionMonitor rt) (fun _ _ => True) s := by
    intro s values hs
    unfold callConfiguredUserEndpoint
    split
    · trivial
    · split
      · trivial
      · split
        · trivial
        · exact callConfiguredEndpoint_wp hs
  refine wp_bind.2 (login_wp drawValues_issues ?_)
  rintro t (e | values) - hs
  · trivial
  dsimp only
  split
  · trivial
  · refine wp_bind.2 (wp_mono (hrest _ hs) ?_)
    rintro s (e | result) -
    · trivial
    · trivial

/-! ### The law -/

theorem execute_wp : (execute rt payload).wp (sessionMonitor rt) (fun _ _ => True) [] := by
  refine execute_of (Φ := fun α p => p.wp (sessionMonitor rt) (fun _ _ => True) [])
    (fun x => trivial) ?_ (fun _ _ _ _ _ => managedUserOperation_wp) ?_
  · intro α β p f h
    refine wp_bind.2 (wp_mono h ?_)
    rintro s (e | a) -
    · trivial
    · trivial
  · exact login_wp (testConnection_issues fun _ => admitsLogin_data _) fun _ _ _ _ => trivial

/-- Whatever the server answers, a request for a user is sent at most once, and after the server has
reported that the operator is logged in. -/
theorem managed_after_login {r : ConsultantReq}
    {k : ConsultantAns r → ConsultantProg ConnectorResult}
    (hf : (execute rt payload).Follows t (.await r k)) (hmanaged : IsManaged r) :
    OperatorReady rt t :=
  (wp_history.1 execute_wp).1 t r k hf hmanaged

/-- A user is deleted after the login. -/
theorem managed_after_login_deleted : ∃ t r k,
    (execute .ascii operatorById).Follows t (.await r k) ∧ IsManaged r ∧
      OperatorReady .ascii t := by
  have hf : ∃ page login r k, (execute .ascii operatorById).Follows [⟨.random, "0"⟩,
      ⟨.request page, .ok loginPage⟩, ⟨.request login, .ok loggedIn⟩] (.await (.request r) k) ∧
        ¬ IsLoginData r.data :=
    ⟨_, _, _, _, ⟨_, rfl, _, rfl, _, rfl, rfl⟩, fun hdata => hdata⟩
  obtain ⟨page, login, r, k, hf, hmanaged⟩ := hf
  exact ⟨_, _, k, hf, hmanaged, managed_after_login hf hmanaged⟩

end ConsultantPlusConnectorService

end IdmMw
