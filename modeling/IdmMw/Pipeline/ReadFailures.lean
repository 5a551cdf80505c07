import IdmMw.Model.Facade
import IdmMw.Pipeline.LockAgreement

/-!
# Failed reads

A read reaches its connector through the webhook or through the facade. Both entry points should
agree on what a failed read is: the webhook rejects, gives the idempotency lock back and counts a
failed event exactly where the facade reports an error (`ReadsAgree`).

* `answer?`: what the connector answers, in a trace of either entry point;
* `executeRead_fails`: the facade reports an error of every answer that is no success;
* `ReadRun`: the traces of a read of the webhook, by the answer of the connector;
* `readsAgree_iff`: the webhook does not look at the result of the native methods `getSchema` and
  `sync`, so a failure returned by them is taken for a success.
-/

namespace IdmMw

open Async

/-! ### The law -/

/-- The answer of a connector call. -/
def answer? : Ev → Option (Except JsError ConnectorResult)
  | ⟨.execute _, answer⟩ => some answer
  | ⟨.getSchema _, answer⟩ => some answer
  | ⟨.sync _ _, answer⟩ => some answer
  | _ => none

/-- A failed event is counted. -/
def FailureCounted : Ev → Prop
  | ⟨.recordEvent .failed _, _⟩ => True
  | _ => False

/-- A native method returns a failure. -/
def NativeFailed : Ev → Prop
  | ⟨.getSchema _, .ok result⟩ => result.success = false
  | ⟨.sync _ _, .ok result⟩ => result.success = false
  | _ => False

/-- The connector throws the error by which the pipeline marks durably accepted events. -/
def ThrowsAccepted (v : Ev) : Prop :=
  ∃ e, answer? v = some (.error e) ∧ isDurablyAcceptedError e = true

/-- The webhook call, with the trace `t` and the result `x`, fails exactly if the facade, with the
result `y`, reports an error: it rejects, it gives its lock back, and it counts a failed event. -/
structure ReadsAgree (app : App) (dto : ProcessingPayload) (t : Trace)
    (x : Except JsError ProcessResult) (y : Except JsError ConnectorResult) : Prop where
  rejects : (∃ e, x = .error e) ↔ ∃ e, y = .error e
  releases : lockHeld app dto t = false ↔ ∃ e, y = .error e
  counts : Saw FailureCounted t ↔ ∃ e, y = .error e

/-- The answer is an error, or a result that is no success. -/
def Fails (answer : Except JsError ConnectorResult) : Prop :=
  ∀ result, answer = .ok result → result.success = false

/-! ### The facade -/

variable {app : App} {dto : ProcessingPayload} {t u : Trace} {answer : Except JsError ConnectorResult}

theorem answer?_area {v : Ev} (h : answer? v ≠ none) : v.req.area = .connector := by
  unfold answer? at h
  split at h <;> first | rfl | exact absurd rfl h

theorem FailureCounted.area {v : Ev} (h : FailureCounted v) : v.req.area = .metrics := by
  unfold FailureCounted at h
  split at h <;> first | rfl | exact h.elim

theorem NativeFailed.area {v : Ev} (h : NativeFailed v) : v.req.area = .connector := by
  unfold NativeFailed at h
  split at h <;> first | rfl | exact h.elim

theorem ThrowsAccepted.area {v : Ev} (h : ThrowsAccepted v) : v.req.area = .connector := by
  obtain ⟨e, he, -⟩ := h
  exact answer?_area (by rw [he]; exact Option.some_ne_none _)

/-- The facade reports an error exactly of an answer that fails. -/
theorem executeRead_fails {name operation : String} {params : Json} {syncMode : Option String}
    {y : Except JsError ConnectorResult}
    (h : (IdmController.executeRead app name operation params syncMode).Runs u y)
    (hanswer : u.findSome? answer? = some answer) : (∃ e, y = .error e) ↔ Fails answer := by
  have hconfig : ∀ {u y}, (TargetSystemService.findRawConfigByName app name).Runs u y →
      u.findSome? answer? = none := by
    intro u y h
    rcases runs_bind.1 h with ⟨e, -, h'⟩ | ⟨item, u₁, u₂, rfl, h₁, h₂⟩
    · obtain ⟨a, rfl, -⟩ := runs_request.1 h'
      rfl
    · obtain ⟨a, rfl, -⟩ := runs_request.1 h₁
      cases item with
      | none =>
        obtain ⟨rfl, -⟩ := h₂
        rfl
      | some config =>
        rcases runs_bind.1 h₂ with ⟨e, -, rfl, -⟩ | ⟨value, _, _, rfl, ⟨rfl, -⟩, rfl, -⟩ <;> rfl
  have hcall : ∀ {connector payload u y},
      (IdmController.callConnector connector payload syncMode).Runs u y →
        u.findSome? answer? = some y := by
    intro connector payload u y h
    unfold IdmController.callConnector at h
    split at h
    · obtain ⟨a, rfl, rfl⟩ := runs_request.1 h
      rfl
    · split at h
      · obtain ⟨a, rfl, rfl⟩ := runs_request.1 h
        rfl
      · obtain ⟨a, rfl, rfl⟩ := runs_request.1 h
        rfl
  unfold IdmController.executeRead at h
  rcases runs_bind.1 h with ⟨e, rfl, h'⟩ | ⟨config, u₁, u₂, rfl, h₁, h₂⟩
  · rw [hconfig h'] at hanswer
    cases hanswer
  rcases runs_bind.1 h₂ with ⟨e, rfl, h'⟩ | ⟨connector, u₃, u₄, rfl, h₃, h₄⟩
  · obtain ⟨a, -, hx⟩ := runs_request.1 h'
    cases hx
  obtain ⟨a, rfl, -⟩ := runs_request.1 h₃
  rw [List.findSome?_append, hconfig h₁] at hanswer
  cases connector with
  | none =>
    obtain ⟨rfl, rfl⟩ := h₄
    cases hanswer
  | some connector =>
    change List.findSome? answer? u₄ = some answer at hanswer
    rcases runs_bind.1 h₄ with ⟨e, rfl, h'⟩ | ⟨result, u₅, u₆, rfl, h₅, h₆⟩
    · rw [hcall h'] at hanswer
      cases hanswer
      simp [Fails]
    · rw [List.findSome?_append, hcall h₅] at hanswer
      cases hanswer
      unfold IdmController.checkResult at h₆
      split at h₆
      · next hsuccess =>
        obtain ⟨rfl, rfl⟩ := h₆
        simp [Fails, hsuccess]
      · next hfailure =>
        obtain ⟨rfl, rfl⟩ := h₆
        simp [Fails, hfailure]

/-! ### The read of the webhook -/

/-- A read that reached its connector: the answer was taken for a success, or for a failure. -/
inductive ReadRun (dto : ProcessingPayload) : Trace → Except JsError ConnectorResult → Prop
  | succeeded {connector v result} (hv : answer? v = some (.ok result))
      (hresult : result.success = true ∨ NativeFailed v) :
      ReadRun dto [⟨.registryGet dto.targetSystem, connector⟩, v,
        ⟨.recordEvent .success dto.targetSystem, ()⟩] (.ok result)
  | threw {connector v e} (hv : answer? v = some (.error e)) :
      ReadRun dto [⟨.registryGet dto.targetSystem, connector⟩, v,
        ⟨.recordEvent .failed dto.targetSystem, ()⟩] (.error e)
  | refused {connector v result message} (hv : answer? v = some (.ok result))
      (hresult : result.success = false) (hv' : ¬ NativeFailed v) :
      ReadRun dto [⟨.registryGet dto.targetSystem, connector⟩, v,
        ⟨.recordConnectorError dto.targetSystem dto.operation, ()⟩,
        ⟨.recordEvent .failed dto.targetSystem, ()⟩] (.error (.error message))

/-- The `try` block of a read, by the answer of the connector. -/
theorem read_runs {connector : Connector} {x : Except JsError ConnectorResult}
    (h : (ProcessingService.read dto connector).Runs t x) :
    (∃ v result, answer? v = some (.ok result) ∧ (result.success = true ∨ NativeFailed v) ∧
        t = [v, ⟨.recordEvent .success dto.targetSystem, ()⟩] ∧ x = .ok result) ∨
      (∃ v e, answer? v = some (.error e) ∧ t = [v] ∧ x = .error e) ∨
      ∃ v result message, answer? v = some (.ok result) ∧ result.success = false ∧
        ¬ NativeFailed v ∧ t = [v, ⟨.recordConnectorError dto.targetSystem dto.operation, ()⟩] ∧
        x = .error (.error message) := by
  -- a native method is called, and its result returned as it is
  have hnative : ∀ {r : Req} {k : Ans r → Except JsError ConnectorResult},
      (∀ a, answer? ⟨r, a⟩ = some (k a)) →
      (∀ a result, k a = .ok result → result.success = false → NativeFailed ⟨r, a⟩) →
      (do let result ← (.await r fun a => .settle (k a) : Prog ConnectorResult)
          recordEvent .success dto.targetSystem
          pure result : Prog ConnectorResult).Runs t x →
      (∃ v result, answer? v = some (.ok result) ∧ (result.success = true ∨ NativeFailed v) ∧
          t = [v, ⟨.recordEvent .success dto.targetSystem, ()⟩] ∧ x = .ok result) ∨
        ∃ v e, answer? v = some (.error e) ∧ t = [v] ∧ x = .error e := by
    intro r k hans hfailed h
    rcases runs_bind.1 h with ⟨e, rfl, h'⟩ | ⟨result, t₁, t₂, rfl, h₁, h₂⟩
    · obtain ⟨a, rfl, ha⟩ := runs_request.1 h'
      exact Or.inr ⟨_, e, by rw [hans, ha], rfl, rfl⟩
    · obtain ⟨a, rfl, ha⟩ := runs_request.1 h₁
      obtain ⟨u, _, rfl, rfl, rfl⟩ := h₂
      refine Or.inl ⟨_, result, by rw [hans, ha], ?_, rfl, rfl⟩
      cases hsuccess : result.success with
      | true => exact Or.inl rfl
      | false => exact Or.inr (hfailed a result ha.symm hsuccess)
  unfold ProcessingService.read at h
  split at h
  · rcases hnative (fun _ => rfl) (by rintro _ result rfl hfailure; exact hfailure) h with h | h
    · exact Or.inl h
    · exact Or.inr (Or.inl h)
  split at h
  · rcases hnative (fun _ => rfl) (by rintro _ result rfl hfailure; exact hfailure) h with h | h
    · exact Or.inl h
    · exact Or.inr (Or.inl h)
  rcases runs_bind.1 h with ⟨e, rfl, h'⟩ | ⟨result, t₁, t₂, rfl, h₁, h₂⟩
  · obtain ⟨a, rfl, rfl⟩ := runs_request.1 h'
    exact Or.inr (Or.inl ⟨_, e, rfl, rfl, rfl⟩)
  obtain ⟨a, rfl, rfl⟩ := runs_request.1 h₁
  unfold ProcessingService.checkResult at h₂
  split at h₂
  · next hsuccess =>
    obtain ⟨u, _, rfl, rfl, rfl⟩ := h₂
    exact Or.inl ⟨_, result, rfl, Or.inl hsuccess, rfl, rfl⟩
  · next hfailure =>
    obtain ⟨u, _, rfl, rfl, rfl⟩ := h₂
    exact Or.inr (Or.inr ⟨⟨.execute dto.toConnector, .ok result⟩, result, _, rfl,
      by simpa using hfailure, fun hnative => hnative, rfl, rfl⟩)

theorem processWithResult_runs {x : Except JsError ConnectorResult}
    (h : (ProcessingService.processWithResult dto).Runs t x) (hcalled : t.findSome? answer? ≠ none) :
    ReadRun dto t x := by
  obtain ⟨connector, t', rfl, h⟩ := h
  cases connector with
  | none =>
    obtain ⟨rfl, rfl⟩ := h
    exact absurd rfl hcalled
  | some connector =>
    rcases runs_tryCatch.1 h with ⟨result, rfl, h'⟩ | ⟨e, t₁, t₂, rfl, h₁, h₂⟩
    · rcases read_runs h' with ⟨v, _, hv, hresult, rfl, hx⟩ | ⟨_, _, -, -, hx⟩ |
        ⟨_, _, _, -, -, -, -, hx⟩
      · cases hx
        exact .succeeded hv hresult
      · cases hx
      · cases hx
    · obtain ⟨u, _, rfl, rfl, rfl⟩ := h₂
      rcases read_runs h₁ with ⟨_, _, -, -, -, hx⟩ | ⟨v, _, hv, rfl, hx⟩ |
        ⟨v, result, message, hv, hresult, hv', rfl, hx⟩
      · cases hx
      · cases hx
        exact .threw hv
      · cases hx
        exact .refused hv hresult hv'

theorem NativeFailed.answered {v : Ev} (h : NativeFailed v) :
    ∃ result, answer? v = some (.ok result) ∧ result.success = false := by
  unfold NativeFailed at h
  split at h
  · exact ⟨_, rfl, h⟩
  · exact ⟨_, rfl, h⟩
  · exact h.elim

/-- A read that reached its connector counts a failure exactly if it fails, and it fails exactly if
the answer does and is not the failure of a native method. -/
structure ReadFacts {α : Type} (answer : Except JsError ConnectorResult) (t : Trace)
    (x : Except JsError α) : Prop where
  counted : Saw FailureCounted t ↔ ∃ e, x = .error e
  fails : (∃ e, x = .error e) ↔ Fails answer ∧ ¬ Saw NativeFailed t
  accepted : Saw ThrowsAccepted t ↔ ∃ e, x = .error e ∧ isDurablyAcceptedError e = true
  native : Saw NativeFailed t → Fails answer

theorem ReadRun.facts {x : Except JsError ConnectorResult} (h : ReadRun dto t x)
    (hanswer : t.findSome? answer? = some answer) : ReadFacts answer t x := by
  have hfound : ∀ {name connector v a rest}, answer? v = some a →
      List.findSome? answer? (⟨.registryGet name, connector⟩ :: v :: rest) = some a := by
    intro name connector v a rest hv
    have hnone : answer? ⟨.registryGet name, connector⟩ = none := rfl
    rw [List.findSome?_cons, hnone, List.findSome?_cons, hv]
  have hcounted : ∀ {v a}, answer? v = some a → ¬ FailureCounted v := by
    intro v a hv hcount
    have hconnector := answer?_area (by rw [hv]; exact Option.some_ne_none a)
    rw [hcount.area] at hconnector
    cases hconnector
  have hthrows : ∀ {v a}, answer? v = some a →
      (ThrowsAccepted v ↔ ∃ e, a = .error e ∧ isDurablyAcceptedError e = true) := by
    intro v a hv
    simp [ThrowsAccepted, hv]
  -- the requests around the answer
  have hregistry : ∀ name connector, ¬ FailureCounted ⟨.registryGet name, connector⟩ ∧
      ¬ NativeFailed ⟨.registryGet name, connector⟩ ∧
      ¬ ThrowsAccepted ⟨.registryGet name, connector⟩ :=
    fun _ _ => ⟨id, id, by rintro ⟨_, ⟨⟩, -⟩⟩
  have hmetrics : ∀ status name, ¬ NativeFailed ⟨.recordEvent status name, ()⟩ ∧
      ¬ ThrowsAccepted ⟨.recordEvent status name, ()⟩ := fun _ _ => ⟨id, by rintro ⟨_, ⟨⟩, -⟩⟩
  have hfailed : ∀ name, FailureCounted ⟨.recordEvent .failed name, ()⟩ := fun _ => trivial
  have hsuccess : ∀ name, ¬ FailureCounted ⟨.recordEvent .success name, ()⟩ := fun _ => id
  cases h with
  | @succeeded connector v result hv hresult =>
    rw [hfound hv] at hanswer
    cases hanswer
    have hfails : NativeFailed v → Fails (.ok result) := by
      intro hnative
      obtain ⟨result', hresult', hfailure⟩ := hnative.answered
      rw [hv] at hresult'
      cases hresult'
      simp [Fails, hfailure]
    refine ⟨?_, ?_, ?_, ?_⟩
    · simp [hregistry, hcounted hv, hsuccess]
    · rcases hresult with hok | hnative
      · simp [Fails, hok]
      · simp [Fails, hnative]
    · simp [hregistry, hmetrics, hthrows hv]
    · simpa [hregistry, hmetrics] using hfails
  | @threw connector v e hv =>
    rw [hfound hv] at hanswer
    cases hanswer
    have hnative : ¬ NativeFailed v := by
      intro hnative
      obtain ⟨result, hresult, -⟩ := hnative.answered
      rw [hv] at hresult
      cases hresult
    refine ⟨?_, ?_, ?_, ?_⟩
    · simp [hfailed]
    · simp [Fails, hregistry, hmetrics, hnative]
    · simp [hregistry, hmetrics, hthrows hv]
    · simp [Fails]
  | @refused connector v result message hv hresult hv' =>
    rw [hfound hv] at hanswer
    cases hanswer
    have hcount : ∀ name operation, ¬ NativeFailed ⟨.recordConnectorError name operation, ()⟩ ∧
        ¬ ThrowsAccepted ⟨.recordConnectorError name operation, ()⟩ :=
      fun _ _ => ⟨id, by rintro ⟨_, ⟨⟩, -⟩⟩
    refine ⟨?_, ?_, ?_, ?_⟩
    · simp [hfailed]
    · simp [Fails, hregistry, hmetrics, hcount, hresult, hv']
    · simp [hregistry, hmetrics, hcount, hthrows hv, isDurablyAcceptedError]
    · simp [Fails, hresult]

/-- The read within the webhook call. -/
theorem webhook_process_facts {x : Except JsError ProcessResult}
    (h : (WebhookService.process app dto true).Runs t x)
    (hanswer : t.findSome? answer? = some answer) : ReadFacts answer t x := by
  have hcalled : t.findSome? answer? ≠ none := by
    rw [hanswer]
    exact Option.some_ne_none _
  rcases runs_bind.1 h with ⟨e, rfl, h'⟩ | ⟨result, t₁, t₂, rfl, h', rfl, rfl⟩
  · obtain ⟨hcounted, hfails, haccepted, hnative⟩ := (processWithResult_runs h' hcalled).facts hanswer
    exact ⟨by simpa using hcounted, by simpa using hfails, by simpa using haccepted, hnative⟩
  · rw [List.append_nil] at hanswer hcalled ⊢
    obtain ⟨hcounted, hfails, haccepted, hnative⟩ := (processWithResult_runs h' hcalled).facts hanswer
    exact ⟨by simpa using hcounted, by simpa using hfails, by simpa using haccepted, hnative⟩

/-! ### The two entry points -/

/-- The read neither takes nor gives back a lock. -/
theorem webhook_process_keeps {x : Except JsError ProcessResult}
    (h : (WebhookService.process app dto true).Runs u x) (hheld : lockHeld app dto t = true) :
    lockHeld app dto (t ++ u) = true := by
  unfold lockHeld at hheld ⊢
  split at hheld
  · cases hheld
  · rw [LockState.after_append, (webhook_process_footprint app dto true).after_eq h
      (by decide) (by decide)]
    exact hheld

/-- Taking the lock and giving it back shows nothing of a read. -/
theorem lock_shows_nothing {α : Type} {p : Prog α} {x : Except JsError α}
    (hfoot : Footprint p lockAreas) (hr : p.Runs t x) :
    t.findSome? answer? = none ∧ ¬ Saw FailureCounted t ∧ ¬ Saw NativeFailed t ∧
      ¬ Saw ThrowsAccepted t := by
  refine ⟨hfoot.findSome?_eq_none hr ?_, hfoot.not_saw hr ?_, hfoot.not_saw hr ?_,
    hfoot.not_saw hr ?_⟩
  · intro v hv
    rw [answer?_area hv]
    decide
  all_goals
    intro v hv
    rw [hv.area]
    decide

/-- With the connector called and the same answer given to both entry points, they agree on failure
exactly if the answer is no failure returned by a native method, and no error that the pipeline
reserves for accepted events. -/
theorem readsAgree_iff {params : Json} {syncMode : Option String} {x : Except JsError ProcessResult}
    {y : Except JsError ConnectorResult}
    (h : (WebhookService.processWebhook app dto true).Runs t x)
    (h' : (IdmController.executeRead app dto.targetSystem dto.operation params syncMode).Runs u y)
    (hanswer : ∃ answer, t.findSome? answer? = some answer ∧ u.findSome? answer? = some answer)
    (hrelease : ∀ v ∈ t, ¬ ReleaseFailed v) :
    ReadsAgree app dto t x y ↔ ¬ Saw NativeFailed t ∧ ¬ Saw ThrowsAccepted t := by
  obtain ⟨answer, ht, hu⟩ := hanswer
  have hfacade := executeRead_fails h' hu
  unfold WebhookService.processWebhook at h
  rcases runs_bind.1 h with ⟨e, rfl, hlock⟩ | ⟨isNew, t₁, t₂, rfl, h₁, h₂⟩
  · rw [(lock_shows_nothing (checkAndLock_footprint app _ _) hlock).1] at ht
    cases ht
  have hlock := checkAndLock_lock h₁
  obtain ⟨hanswer₁, hcount₁, hnative₁, hthrows₁⟩ :=
    lock_shows_nothing (checkAndLock_footprint app _ _) h₁
  rw [List.findSome?_append, hanswer₁, Option.none_or] at ht
  cases isNew with
  | false =>
    obtain ⟨rfl, rfl⟩ := h₂
    cases ht
  | true =>
    have hheld : lockHeld app dto t₁ = true := hlock.2 rfl
    rcases runs_tryCatch.1 h₂ with ⟨result, rfl, h₃⟩ | ⟨error, u₁, u₂, rfl, h₃, h₄⟩
    · -- the webhook took the answer for a success
      obtain ⟨hcount, hfails, hthrows, hnative⟩ := webhook_process_facts h₃ ht
      have hfailed : Saw NativeFailed t₂ ↔ Fails answer := by
        refine ⟨hnative, fun hanswer => ?_⟩
        by_contra hno
        obtain ⟨e, he⟩ := hfails.2 ⟨hanswer, hno⟩
        cases he
      have hagree : ReadsAgree app dto (t₁ ++ t₂) (.ok result) y ↔ ¬ Fails answer := by
        constructor
        · rintro ⟨hrejects, -, -⟩ hanswer
          obtain ⟨e, he⟩ := hrejects.2 (hfacade.2 hanswer)
          cases he
        · intro hno
          have hresult : ¬ ∃ e, y = .error e := fun herror => hno (hfacade.1 herror)
          refine ⟨?_, ?_, ?_⟩
          · simp [hresult]
          · simp [hresult, webhook_process_keeps h₃ hheld]
          · simp [hresult, hcount₁, hcount]
      rw [hagree]
      simp [hnative₁, hthrows₁, hthrows, hfailed]
    unfold WebhookService.processFailed at h₄
    split at h₄
    · -- the error is taken for a durable acceptance: the lock stays
      next hdurable =>
      obtain ⟨rfl, rfl⟩ := h₄
      rw [List.append_nil] at ht ⊢
      obtain ⟨hcount, hfails, hthrows, hnative⟩ := webhook_process_facts h₃ ht
      have herror : ∃ e, y = .error e := hfacade.2 (hfails.1 ⟨error, rfl⟩).1
      refine iff_of_false ?_ ?_
      · rintro ⟨-, hreleases, -⟩
        rw [webhook_process_keeps h₃ hheld] at hreleases
        cases hreleases.2 herror
      · rintro ⟨-, hno⟩
        exact hno (by simp [hthrows, hdurable])
    · next hlost =>
      have hrel : ∃ y', (IdempotencyService.release app (WebhookService.idempotencyKey dto)).Runs
          u₂ y' ∧ ∃ e, x = .error e := by
        rcases runs_bind.1 h₄ with ⟨e, rfl, hr⟩ | ⟨u, u₃, u₄, rfl, hr, rfl, rfl⟩
        · exact ⟨_, hr, _, rfl⟩
        · exact ⟨_, by simpa using hr, _, rfl⟩
      obtain ⟨y', hr, hx⟩ := hrel
      obtain ⟨hanswer₂, hcount₂, hnative₂, hthrows₂⟩ :=
        lock_shows_nothing (release_footprint app _) hr
      rw [List.findSome?_append, hanswer₂, Option.or_none] at ht
      obtain ⟨hcount, hfails, hthrows, hnative⟩ := webhook_process_facts h₃ ht
      obtain ⟨hanswer, hno⟩ := hfails.1 ⟨error, rfl⟩
      have herror : ∃ e, y = .error e := hfacade.2 hanswer
      have hkept := webhook_process_keeps h₃ hheld
      have hgone := (release_lock hr (fun v hv => hrelease v (by simp [hv])) hkept).1
      refine iff_of_true ⟨?_, ?_, ?_⟩ ⟨?_, ?_⟩
      · exact iff_of_true hx herror
      · rw [← List.append_assoc]
        exact iff_of_true hgone herror
      · exact iff_of_true (by simp [hcount]) herror
      · simp [hnative₁, hnative₂, hno]
      · simpa [hthrows₁, hthrows₂, hthrows] using hlost

/-! ### Two reads -/

/-- A read of one user. -/
def someRead : ProcessingPayload := { someEvent with operation := "user.get" }

/-- An incremental synchronisation. -/
def someSync : ProcessingPayload := { someEvent with operation := "sync.incremental" }

/-- The connector refuses to execute the read: both entry points report it. -/
theorem readsAgree_refused : ∃ t x u y,
    (WebhookService.processWebhook App.caching someRead true).Runs t x ∧
      (IdmController.executeRead App.caching "target" "user.get" (.obj []) none).Runs u y ∧
      (∃ e, y = .error e) ∧ ReadsAgree App.caching someRead t x y := by
  have hwebhook : (WebhookService.processWebhook App.caching someRead true).Runs
      [⟨.redisSet "avanpost:target:event-1" 3600, .ok true⟩,
        ⟨.registryGet "target", some ⟨true, true⟩⟩,
        ⟨.execute someRead.toConnector, .ok ⟨false, none, some "rejected"⟩⟩,
        ⟨.recordConnectorError "target" "user.get", ()⟩, ⟨.recordEvent .failed "target", ()⟩,
        ⟨.redisDel "avanpost:target:event-1", .ok ()⟩]
      (.error (.error "rejected")) :=
    ⟨_, _, rfl, _, _, rfl, _, _, rfl, _, _, rfl, _, _, rfl, _, _, rfl, rfl, rfl⟩
  have hfacade : (IdmController.executeRead App.caching "target" "user.get" (.obj []) none).Runs
      [⟨.targetSystemConfig "target", .ok none⟩, ⟨.registryGet "target", some ⟨true, true⟩⟩,
        ⟨.execute (IdmController.connectorPayload "target" "user.get" (.obj []) none),
          .ok ⟨false, none, some "rejected"⟩⟩]
      (.error (.error "rejected")) :=
    ⟨_, _, rfl, _, _, rfl, _, _, rfl, rfl, rfl⟩
  refine ⟨_, _, _, _, hwebhook, hfacade, ⟨_, rfl⟩,
    (readsAgree_iff hwebhook hfacade ⟨_, rfl, rfl⟩ ?_).2 ⟨?_, ?_⟩⟩
  · simp [ReleaseFailed]
  · simp [NativeFailed]
  · simp [ThrowsAccepted, answer?]

/-- The native `sync` of the connector returns a failure: the facade reports it, the webhook keeps
its lock and counts a success. -/
theorem not_readsAgree : ∃ t x u y,
    (WebhookService.processWebhook App.caching someSync true).Runs t x ∧
      (IdmController.executeRead App.caching "target" "sync.incremental" (.obj []) none).Runs u y ∧
      (∃ answer, t.findSome? answer? = some answer ∧ u.findSome? answer? = some answer) ∧
      (∀ v ∈ t, ¬ ReleaseFailed v) ∧
      ¬ ReadsAgree App.caching someSync t x y := by
  have hwebhook : (WebhookService.processWebhook App.caching someSync true).Runs
      [⟨.redisSet "avanpost:target:event-1" 3600, .ok true⟩,
        ⟨.registryGet "target", some ⟨true, true⟩⟩,
        ⟨.sync someSync.toConnector "incremental", .ok ⟨false, none, some "not supported"⟩⟩,
        ⟨.recordEvent .success "target", ()⟩]
      (.ok ⟨false, none⟩) :=
    ⟨_, _, rfl, _, _, rfl, _, _, rfl, _, _, rfl, rfl, rfl⟩
  have hfacade : (IdmController.executeRead App.caching "target" "sync.incremental" (.obj [])
      none).Runs
      [⟨.targetSystemConfig "target", .ok none⟩, ⟨.registryGet "target", some ⟨true, true⟩⟩,
        ⟨.sync (IdmController.connectorPayload "target" "sync.incremental" (.obj []) none)
          "incremental", .ok ⟨false, none, some "not supported"⟩⟩]
      (.error (.error "not supported")) :=
    ⟨_, _, rfl, _, _, rfl, _, _, rfl, rfl, rfl⟩
  refine ⟨_, _, _, _, hwebhook, hfacade, ⟨_, rfl, rfl⟩, by simp [ReleaseFailed], ?_⟩
  rintro ⟨hrejects, -, -⟩
  obtain ⟨e, he⟩ := hrejects.2 ⟨_, rfl⟩
  cases he

end IdmMw
