import IdmMw.Pipeline.Traces

/-!
# Retries before an event is parked

`process` should park an event only after the connector was tried `maxRetries + 1` times, and the
item should record the number of retries made (`RetriesHappened`).

The retry loop repeats an attempt that throws, but takes a returned `{ success: false }` for a
result; `executeWithRetry` makes an error of it only after the loop. So an attempt that returns a
failure ends the retries, while the item records `maxRetries` all the same.
-/

namespace IdmMw

open Async

variable {app : App} {dto : ProcessingPayload} {policy : TargetRetryPolicy} {t t₁ t₂ u₁ u₂ : Trace}

/-- An event is stored as a DLQ item only after all attempts of the policy were made without
success, and with their number; and the first success is the last attempt. -/
structure RetriesHappened (policy : TargetRetryPolicy) (t : Trace) : Prop where
  attempted : ∀ t₁ data t₂, t = t₁ ++ ⟨.dlqItemCreate data, .ok ()⟩ :: t₂ →
    (attempts t₁).length = policy.maxRetries + 1 ∧
      (∀ result, .ok result ∈ attempts t₁ → result.success = false) ∧
      data.retryCount + 1 = (attempts t₁).length
  stops : ∀ t₁ payload result t₂, t = t₁ ++ ⟨.execute payload, .ok result⟩ :: t₂ →
    result.success = true → attempts t₂ = []

/-- No attempt but the last one of the policy returns a failure, unless the item cannot be
stored. -/
def NoEarlyFailure (policy : TargetRetryPolicy) (t : Trace) : Prop :=
  ¬ Saw CreateFailed t → ∀ i result, (attempts t)[i]? = some (.ok result) →
    result.success = false → i = policy.maxRetries

/-- Where the attempts come before `w` and the stores after it, all attempts come before a store. -/
theorem attempts_before_create {w : Ev} {data : DlqItemCreate} {answer : Except JsError Unit}
    (h : t₁ ++ w :: t₂ = u₁ ++ ⟨.dlqItemCreate data, answer⟩ :: u₂)
    (hw : w.req ≠ .dlqItemCreate data) (hcreate : creates t₁ = []) (hatt : attempts (w :: t₂) = []) :
    attempts u₁ = attempts t₁ := by
  rcases List.append_eq_append_iff.1 h with ⟨c, rfl, hc⟩ | ⟨c, rfl, hc⟩
  · have hnil : attempts c = [] := by
      rw [hc, attempts_append] at hatt
      exact (List.append_eq_nil_iff.1 hatt).1
    rw [attempts_append, hnil, List.append_nil]
  · cases c with
    | nil =>
      obtain ⟨rfl, -⟩ := List.cons.inj hc
      exact absurd rfl hw
    | cons v c =>
      obtain ⟨rfl, -⟩ := List.cons.inj hc
      simp at hcreate

/-- A returned result ends a list of attempts of the loop. -/
theorem attempts_after_result {l₁ l₂ : List (Except JsError ConnectorResult)}
    {result result' : ConnectorResult} {errors : List JsError}
    (h : l₁ ++ .ok result :: l₂ = errors.map .error ++ [.ok result']) : l₂ = [] := by
  rcases List.eq_nil_or_concat l₂ with rfl | ⟨l, z, rfl⟩
  · rfl
  · have hinit : l₁ ++ .ok result :: l = errors.map Except.error := by
      have hsplit : (l₁ ++ .ok result :: l) ++ [z] = errors.map .error ++ [.ok result'] := by
        simpa using h
      exact (List.append_inj' hsplit rfl).1
    have hmem : (Except.ok result : Except JsError ConnectorResult) ∈ errors.map Except.error := by
      rw [← hinit]
      simp
    simp at hmem

/-- An event whose connector never succeeded satisfies the law as far as the item is concerned. -/
theorem retriesHappened_of_no_success (h : ∀ result, .ok result ∈ attempts t → result.success = false)
    (hatt : ∀ t₁ data t₂, t = t₁ ++ ⟨.dlqItemCreate data, .ok ()⟩ :: t₂ →
      (attempts t₁).length = policy.maxRetries + 1 ∧ data.retryCount + 1 = (attempts t₁).length) :
    RetriesHappened policy t where
  attempted t₁ data t₂ ht := by
    obtain ⟨hlen, hcount⟩ := hatt t₁ data t₂ ht
    refine ⟨hlen, fun result hmem => h result ?_, hcount⟩
    rw [ht, attempts_append]
    exact List.mem_append_left _ hmem
  stops t₁ payload result t₂ ht hsuccess := by
    have hmem : .ok result ∈ attempts t := by
      rw [ht]
      simp
    rw [h result hmem] at hsuccess
    cases hsuccess

/-- An event that is executed satisfies the law and its condition. -/
theorem retriesHappened_of_succeeded {errors : List JsError} {result : ConnectorResult}
    (hatt : attempts t = errors.map .error ++ [.ok result]) (hsuccess : result.success = true)
    (hcreate : creates t = []) : RetriesHappened policy t ∧ NoEarlyFailure policy t := by
  refine ⟨⟨fun t₁ data t₂ ht => ?_, fun t₁ payload result' t₂ ht _ => ?_⟩, ?_⟩
  · rw [ht] at hcreate
    simp at hcreate
  · rw [ht, attempts_append, attempts_execute] at hatt
    exact attempts_after_result hatt
  · intro _ i result' hi hfailure
    have hmem := List.mem_of_getElem? hi
    rw [hatt] at hmem
    obtain rfl : result' = result := by simpa using hmem
    rw [hsuccess] at hfailure
    cases hfailure

/-- The attempts of an event that failed: one returned a failure, or all of them threw. -/
def FailedAttempts (policy : TargetRetryPolicy) (l : List (Except JsError ConnectorResult)) : Prop :=
  (∃ (errors : List JsError) (result : ConnectorResult), l = errors.map .error ++ [.ok result] ∧
      result.success = false ∧ errors.length ≤ policy.maxRetries) ∨
    ∃ errors : List JsError, l = errors.map .error ∧ errors.length = policy.maxRetries + 1

theorem FailedAttempts.no_success {l : List (Except JsError ConnectorResult)}
    (h : FailedAttempts policy l) : ∀ result, .ok result ∈ l → result.success = false := by
  intro result hmem
  rcases h with ⟨errors, result', rfl, hfailure, -⟩ | ⟨errors, rfl, -⟩
  · obtain rfl : result = result' := by simpa using hmem
    exact hfailure
  · simp at hmem

/-- A returned failure is not early exactly if all attempts of the policy were made. -/
theorem FailedAttempts.length_iff {l : List (Except JsError ConnectorResult)}
    (h : FailedAttempts policy l) : l.length = policy.maxRetries + 1 ↔
      ∀ i result, l[i]? = some (.ok result) → result.success = false → i = policy.maxRetries := by
  rcases h with ⟨errors, result, rfl, hfailure, hle⟩ | ⟨errors, rfl, hlen⟩
  · constructor
    · intro hlen i result' hi _
      have hmax : errors.length = policy.maxRetries := by simpa using hlen
      rw [← hmax]
      by_contra hne
      have hlt : i < errors.length := by
        have hbound := (List.getElem?_eq_some_iff.1 hi).1
        simp only [List.length_append, List.length_map, List.length_singleton] at hbound
        omega
      rw [List.getElem?_append_left (by simpa using hlt)] at hi
      simp at hi
    · intro hall
      have hmax := hall errors.length result (by simp) hfailure
      simp [hmax]
  · refine iff_of_true (by simpa using hlen) fun i result hi => ?_
    simp at hi

theorem failedAttempts_of_runs {error : JsError}
    (h : (ProcessingService.executeWithRetry app dto).Runs t (.error error))
    (hreg : ∀ name, ⟨.registryGet name, none⟩ ∉ t)
    (hpol : ∀ answer ∈ lookups t, lookedUp app answer = .ok policy) :
    FailedAttempts policy (attempts t) := by
  have hsame : ∀ {answer policy'}, lookups t = [answer] → lookedUp app answer = .ok policy' →
      policy' = policy := by
    intro answer policy' hlook hpol'
    rw [hpol answer (by simp [hlook])] at hpol'
    exact (Except.ok.inj hpol').symm
  cases executeWithRetry_runs h with
  | unregistered hnone => exact absurd hnone (hreg _)
  | unreadable hlook herror =>
    rw [hpol _ (by rw [hlook]; exact List.mem_singleton_self _)] at herror
    cases herror
  | refused hlook hpol' hle hatt hfailure =>
    rw [hsame hlook hpol'] at hle
    exact Or.inl ⟨_, _, hatt, hfailure, hle⟩
  | exhausted hlook hpol' hlen hatt =>
    rw [hsame hlook hpol'] at hlen
    exact Or.inr ⟨_, hatt, hlen⟩

/-- With a readable policy, the attempt to park an event tries to store one item. -/
theorem creates_of_park_runs {error : JsError} {y : Except JsError Unit}
    (h : (ProcessingService.park app dto error).Runs t y)
    (hpol : ∀ answer ∈ lookups t, lookedUp app answer = .ok policy) :
    ∃ data : DlqItemCreate, data.retryCount = policy.maxRetries ∧
      ((∃ e, creates t = [(data, .error e)]) ∨ creates t = [(data, .ok ())]) := by
  have hsame : ∀ {answer policy'}, lookups t = [answer] → lookedUp app answer = .ok policy' →
      policy' = policy := by
    intro answer policy' hlook hpol'
    rw [hpol answer (by simp [hlook])] at hpol'
    exact (Except.ok.inj hpol').symm
  cases park_runs h with
  | unreadable hlook herror =>
    rw [hpol _ (by rw [hlook]; exact List.mem_singleton_self _)] at herror
    cases herror
  | createFailed hlook hpol' _ hcount hcreate =>
    rw [hsame hlook hpol'] at hcount
    exact ⟨_, hcount, Or.inl ⟨_, hcreate⟩⟩
  | countFailed hlook hpol' _ hcount hcreate =>
    rw [hsame hlook hpol'] at hcount
    exact ⟨_, hcount, Or.inr hcreate⟩
  | parked hlook hpol' _ hcount hcreate =>
    rw [hsame hlook hpol'] at hcount
    exact ⟨_, hcount, Or.inr hcreate⟩

/-- The law holds of a settled `process`, for a registered target and a fixed policy, exactly if
no attempt returned a failure too early. -/
theorem retriesHappened_iff {x : Except JsError ConnectorResult}
    (h : (ProcessingService.process app dto).Runs t x)
    (hreg : ∀ name, ⟨.registryGet name, none⟩ ∉ t)
    (hpol : ∀ answer ∈ lookups t, lookedUp app answer = .ok policy) :
    RetriesHappened policy t ↔ NoEarlyFailure policy t := by
  rcases process_runs h with ⟨result, t₁, rfl, rfl, h₁⟩ | ⟨error, y, t₁, t₂, rfl, h₁, h₂, -⟩
  · -- the connector succeeded
    have hcreate := creates_eq_nil (executeWithRetry_footprint app dto) h₁ (by decide)
    cases executeWithRetry_runs h₁ with
    | @succeeded _ _ errors _ _ _ _ hatt _ hsuccess =>
      have hatt' : attempts (t₁ ++ [⟨.recordEvent .success dto.targetSystem, ()⟩]) =
          errors.map .error ++ [.ok result] := by simp [hatt]
      obtain ⟨hhappened, hearly⟩ := retriesHappened_of_succeeded hatt' hsuccess (by simp [hcreate])
      exact iff_of_true hhappened hearly
  -- the connector did not succeed; `t₂` is the attempt to park the event
  have hcreate₁ := creates_eq_nil (executeWithRetry_footprint app dto) h₁ (by decide)
  have hatt₂ : attempts t₂ = [] := by
    have hfoot : Footprint (ProcessingService.park app dto error)
        [.targets, .process, .dlqCreate, .dlqCount, .metrics] :=
      ((forTarget_footprint app _).mono (by decide)).bind fun _ =>
        (add_footprint app _).mono (by decide)
    exact attempts_eq_nil hfoot h₂ (by decide)
  have hfailed := failedAttempts_of_runs h₁ (fun name hmem => hreg name (by simp [hmem]))
    (fun answer hmem => hpol answer (by simp [hmem]))
  obtain ⟨data, hretry, hcreate₂⟩ := creates_of_park_runs h₂
    (fun answer hmem => hpol answer (by simp [hmem]))
  generalize ht : t₁ ++ ⟨.recordEvent .failed dto.targetSystem, ()⟩ :: t₂ = t
  have hatts : attempts t = attempts t₁ := by simp [← ht, hatt₂]
  have hcreates : creates t = creates t₂ := by simp [← ht, hcreate₁]
  have hbefore : ∀ {u₁ data' answer u₂}, t = u₁ ++ ⟨.dlqItemCreate data', answer⟩ :: u₂ →
      attempts u₁ = attempts t₁ ∧ (data', answer) ∈ creates t₂ := by
    intro u₁ data' answer u₂ hsplit
    refine ⟨attempts_before_create (ht.trans hsplit) (by simp) hcreate₁ (by simp [hatt₂]), ?_⟩
    rw [← hcreates, hsplit]
    simp
  rcases hcreate₂ with ⟨e, hcreate₂⟩ | hcreate₂
  · -- nothing is stored
    refine iff_of_true (retriesHappened_of_no_success (hatts ▸ hfailed.no_success) ?_) ?_
    · intro u₁ data' u₂ hsplit
      have hmem := (hbefore hsplit).2
      simp [hcreate₂] at hmem
    · intro hno
      exact absurd (saw_createFailed_iff.2 ⟨data, e, by simp [hcreates, hcreate₂]⟩) hno
  · have hnot : ¬ Saw CreateFailed t := by
      rw [saw_createFailed_iff]
      simp [hcreates, hcreate₂]
    have hearly : NoEarlyFailure policy t ↔ (attempts t₁).length = policy.maxRetries + 1 := by
      rw [hfailed.length_iff, ← hatts]
      exact ⟨fun hearly => hearly hnot, fun hall _ => hall⟩
    rw [hearly]
    constructor
    · intro hlaw
      have hmem : (data, Except.ok ()) ∈ creates t := by simp [hcreates, hcreate₂]
      obtain ⟨⟨r, a⟩, hv, hc⟩ := List.mem_filterMap.1 hmem
      obtain ⟨u₁, u₂, hsplit⟩ := List.append_of_mem hv
      unfold create? at hc
      split at hc
      · next heq =>
        cases heq
        cases hc
        rw [← (hbefore hsplit).1]
        exact (hlaw.attempted u₁ data u₂ hsplit).1
      · cases hc
    · intro hlen
      refine retriesHappened_of_no_success (hatts ▸ hfailed.no_success) ?_
      intro u₁ data' u₂ hsplit
      obtain ⟨hatt, hmem⟩ := hbefore hsplit
      obtain rfl : data' = data := by simpa [hcreate₂] using hmem
      rw [hatt]
      exact ⟨hlen, by rw [hlen, hretry]⟩

/-- The connector succeeds at the second attempt. -/
theorem retriesHappened_second_attempt : ∃ t x,
    (ProcessingService.process App.bare someEvent).Runs t x ∧
      (attempts t).length = 2 ∧ RetriesHappened {} t := by
  have hrun : (ProcessingService.process App.bare someEvent).Runs
      [⟨.registryGet "target", some ⟨false, false⟩⟩, ⟨.targetSystemConfig "target", .ok none⟩,
        ⟨.execute someEvent.toConnector, .error (.error "timeout")⟩,
        ⟨.random, (0 : ℚ)⟩,
        ⟨.sleep (⌊(min (1000 * 2 ^ 0) 30000 : ℚ) * (1 / 2 + 0 * (1 / 2))⌋ : ℤ), ()⟩,
        ⟨.execute someEvent.toConnector, .ok ⟨true, none, none⟩⟩,
        ⟨.recordEvent .success "target", ()⟩]
      (.ok ⟨true, none, none⟩) :=
    ⟨_, _, rfl, _, _, rfl, _, _, rfl, _, _, rfl, _, _, rfl, _, _, rfl, _, _, rfl, rfl, rfl⟩
  refine ⟨_, _, hrun, rfl, (retriesHappened_iff hrun (by simp) ?_).2 ?_⟩
  · intro answer hmem
    obtain rfl : answer = .ok none := List.mem_singleton.1 hmem
    rfl
  · intro _ i result hi hfailure
    have hmem := List.mem_of_getElem? hi
    change Except.ok result ∈ [Except.error (JsError.error "timeout"), .ok ⟨true, none, none⟩] at hmem
    obtain rfl : result = ⟨true, none, none⟩ := by simpa using hmem
    cases hfailure

/-- The connector returns one failure; the event is parked, as if it had been retried. -/
theorem not_retriesHappened : ∃ t x,
    (ProcessingService.process App.bare someEvent).Runs t x ∧
      (∀ name, ⟨.registryGet name, none⟩ ∉ t) ∧
      (∀ answer ∈ lookups t, lookedUp App.bare answer = .ok {}) ∧ ¬ RetriesHappened {} t := by
  have hrun : (ProcessingService.process App.bare someEvent).Runs
      [⟨.registryGet "target", some ⟨false, false⟩⟩, ⟨.targetSystemConfig "target", .ok none⟩,
        ⟨.execute someEvent.toConnector, .ok ⟨false, none, some "rejected"⟩⟩,
        ⟨.recordConnectorError "target" "user.create", ()⟩, ⟨.recordEvent .failed "target", ()⟩,
        ⟨.targetSystemConfig "target", .ok none⟩,
        ⟨.dlqItemCreate
          ⟨"event-1", "user.create", "target", .native (.obj []), "rejected", 3, .pending⟩, .ok ()⟩,
        ⟨.dlqItemGroupBy, .ok []⟩, ⟨.setDlqSize .pending 0, ()⟩, ⟨.setDlqSize .retrying 0, ()⟩,
        ⟨.setDlqSize .skipped 0, ()⟩, ⟨.setDlqSize .resolved 0, ()⟩]
      (.error (.processingFailure "rejected" true (.error "rejected"))) :=
    ⟨_, _, rfl, _, _, rfl, _, _, rfl, _, _, rfl, _, _, rfl, _, _, rfl, _, _, rfl, _, _, rfl,
      _, _, rfl, _, _, rfl, _, _, rfl, _, _, rfl, rfl, rfl⟩
  refine ⟨_, _, hrun, by simp, ?_, fun h => ?_⟩
  · intro answer hmem
    have hmem : answer ∈ [.ok none, .ok none] := hmem
    obtain rfl : answer = .ok none := by simpa using hmem
    rfl
  · have hlen := (h.attempted [_, _, _, _, _, _] _ _ rfl).1
    exact absurd hlen (by decide)

end IdmMw
