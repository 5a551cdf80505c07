import IdmMw.Model.Footprint

/-!
# What a run of the processing pipeline shows

Specifications of the services by the runs they admit: how the result of a call is tied to the
answers it got.

* `Saw P t`: an event with `P` occurs in the trace `t`;
* `attempts t`: the outcomes of the connector calls, in order;
* `execute_runs`, `executeWithRetry_runs`: the retry loop;
* `add_runs`, `park_runs`, `process_runs`: success, durable failure, lost failure;
* `send_runs`, `publish_runs`: status messages.
-/

namespace IdmMw

open Async

/-- An event with `P` occurs in the trace. -/
def Saw (P : Ev → Prop) (t : Trace) : Prop := ∃ v ∈ t, P v

@[simp] theorem saw_nil {P : Ev → Prop} : ¬ Saw P [] := by simp [Saw]

@[simp] theorem saw_cons {P : Ev → Prop} {v : Ev} {t : Trace} : Saw P (v :: t) ↔ P v ∨ Saw P t := by
  simp [Saw]

@[simp] theorem saw_append {P : Ev → Prop} {t₁ t₂ : Trace} :
    Saw P (t₁ ++ t₂) ↔ Saw P t₁ ∨ Saw P t₂ := by
  simp only [Saw, List.mem_append]
  grind

/-- A program sees no event outside its footprint. -/
theorem Footprint.not_saw {α : Type} {p : Prog α} {as : List Area} {t : Trace} {x : Except JsError α}
    {P : Ev → Prop} (h : Footprint p as) (hr : p.Runs t x) (hP : ∀ v, P v → v.req.area ∉ as) :
    ¬ Saw P t := by
  rintro ⟨v, hv, hPv⟩
  exact hP v hPv (Issues.of_runs h hr v hv)

/-- A program's trace shows nothing of what its footprint excludes. -/
theorem Footprint.filterMap_eq_nil {α β : Type} {p : Prog α} {as : List Area} {t : Trace}
    {x : Except JsError α} {f : Ev → Option β} (h : Footprint p as) (hr : p.Runs t x)
    (hf : ∀ v, f v ≠ none → v.req.area ∉ as) : t.filterMap f = [] := by
  refine List.filterMap_eq_nil_iff.2 fun v hv => ?_
  by_contra hne
  exact hf v hne (Issues.of_runs h hr v hv)

/-- Nor do its answers show anything that its footprint excludes. -/
theorem Footprint.findSome?_eq_none {α β : Type} {p : Prog α} {as : List Area} {t : Trace}
    {x : Except JsError α} {f : Ev → Option β} (h : Footprint p as) (hr : p.Runs t x)
    (hf : ∀ v, f v ≠ none → v.req.area ∉ as) : t.findSome? f = none := by
  refine List.findSome?_eq_none_iff.2 fun v hv => ?_
  by_contra hne
  exact hf v hne (Issues.of_runs h hr v hv)

/-! ### Events -/

/-- The connector succeeded for the event. -/
def Executed (dto : ProcessingPayload) : Ev → Prop
  | ⟨.execute payload, .ok result⟩ => payload = dto.toConnector ∧ result.success = true
  | _ => False

/-- A call of a connector succeeded. -/
def Succeeded : Ev → Prop
  | ⟨.execute _, .ok result⟩ => result.success = true
  | _ => False

/-- A DLQ item for the event was stored. -/
def Stored (dto : ProcessingPayload) : Ev → Prop
  | ⟨.dlqItemCreate data, .ok _⟩ => data.eventId = dto.eventId ∧ data.operation = dto.operation ∧
      data.targetSystem = dto.targetSystem
  | _ => False

/-- Storing a DLQ item failed. -/
def CreateFailed : Ev → Prop
  | ⟨.dlqItemCreate _, .error _⟩ => True
  | _ => False

/-- The metrics refresh failed. -/
def CountFailed : Ev → Prop
  | ⟨.dlqItemGroupBy, .error _⟩ => True
  | _ => False

/-- A Kafka send failed. -/
def SendFailed : Ev → Prop
  | ⟨.producerSend _ _, .error _⟩ => True
  | _ => False

theorem Executed.area {dto : ProcessingPayload} {v : Ev} (h : Executed dto v) :
    v.req.area = .connector := by
  unfold Executed at h
  split at h <;> first | rfl | exact h.elim

theorem Succeeded.area {v : Ev} (h : Succeeded v) : v.req.area = .connector := by
  unfold Succeeded at h
  split at h <;> first | rfl | exact h.elim

theorem Executed.succeeded {dto : ProcessingPayload} {v : Ev} (h : Executed dto v) : Succeeded v := by
  unfold Executed at h
  split at h
  · exact h.2
  · exact h.elim

theorem Stored.area {dto : ProcessingPayload} {v : Ev} (h : Stored dto v) :
    v.req.area = .dlqCreate := by
  unfold Stored at h
  split at h <;> first | rfl | exact h.elim

theorem CreateFailed.area {v : Ev} (h : CreateFailed v) : v.req.area = .dlqCreate := by
  unfold CreateFailed at h
  split at h <;> first | rfl | exact h.elim

theorem CountFailed.area {v : Ev} (h : CountFailed v) : v.req.area = .dlqCount := by
  unfold CountFailed at h
  split at h <;> first | rfl | exact h.elim

theorem SendFailed.area {v : Ev} (h : SendFailed v) : v.req.area = .kafka := by
  unfold SendFailed at h
  split at h <;> first | rfl | exact h.elim

/-- The answer of an attempt to execute the event. -/
def attempt? : Ev → Option (Except JsError ConnectorResult)
  | ⟨.execute _, answer⟩ => some answer
  | _ => none

/-- The attempts of a trace, in order. -/
def attempts (t : Trace) : List (Except JsError ConnectorResult) := t.filterMap attempt?

@[simp] theorem attempts_nil : attempts [] = [] := rfl

@[simp] theorem attempts_append (t₁ t₂ : Trace) : attempts (t₁ ++ t₂) = attempts t₁ ++ attempts t₂ :=
  List.filterMap_append

@[simp] theorem attempts_execute (payload : ConnectorPayload)
    (answer : Except JsError ConnectorResult) (t : Trace) :
    attempts (⟨.execute payload, answer⟩ :: t) = answer :: attempts t := rfl

@[simp] theorem attempts_recordEvent (status : EventStatus) (name : String) (u : Unit) (t : Trace) :
    attempts (⟨.recordEvent status name, u⟩ :: t) = attempts t := rfl

theorem attempts_eq_nil {α : Type} {p : Prog α} {as : List Area} {t : Trace} {x : Except JsError α}
    (h : Footprint p as) (hr : p.Runs t x) (has : .connector ∉ as) : attempts t = [] := by
  refine h.filterMap_eq_nil hr fun v hv => ?_
  unfold attempt? at hv
  split at hv
  · exact has
  · exact absurd rfl hv

variable {app : App} {dto : ProcessingPayload} {t : Trace}

/-! ### The retry loop -/

/-- The policy that a settled lookup found: a failed statement counts as no row. -/
def lookedUp (app : App) : Except JsError (Option Column) → Except JsError TargetRetryPolicy
  | .ok item => RetryPolicyService.policyOf app item
  | .error _ => RetryPolicyService.policyOf app none

theorem forTarget_runs {targetSystem : String} {x : Except JsError TargetRetryPolicy}
    (h : (RetryPolicyService.forTarget app targetSystem).Runs t x) :
    ∃ answer, t = [⟨.targetSystemConfig targetSystem, answer⟩] ∧ x = lookedUp app answer := by
  unfold RetryPolicyService.forTarget at h
  rcases runs_bind.1 h with ⟨e, rfl, h'⟩ | ⟨item, t₁, t₂, rfl, h₁, rfl, rfl⟩
  · rcases runs_tryCatch.1 h' with ⟨_, hx, -⟩ | ⟨_, _, _, -, -, -, hx⟩ <;> cases hx
  · rcases runs_tryCatch.1 h₁ with ⟨row, hrow, h'⟩ | ⟨e, t₃, t₄, rfl, h₃, rfl, hitem⟩
    · cases hrow
      obtain ⟨a, rfl, rfl⟩ := runs_request.1 h'
      exact ⟨.ok item, rfl, rfl⟩
    · cases hitem
      obtain ⟨a, rfl, rfl⟩ := runs_request.1 h₃
      exact ⟨.error e, rfl, rfl⟩

/-- A loop with `remaining` retries left stops at the first attempt that does not throw, or throws
after `remaining + 1` attempts that threw. -/
theorem executeFrom_runs {payload : ConnectorPayload} {opts : RetryOptions} {attempt remaining : ℕ}
    {x : Except JsError ConnectorResult}
    (h : (RetryService.executeFrom (connectorExecute payload) opts attempt remaining).Runs t x) :
    (∃ (errors : List JsError) (result : ConnectorResult), x = .ok result ∧
        errors.length ≤ remaining ∧
        attempts t = errors.map .error ++ [.ok result] ∧ ⟨.execute payload, .ok result⟩ ∈ t) ∨
      ∃ (errors : List JsError) (e : JsError), x = .error e ∧ errors.length = remaining + 1 ∧
        attempts t = errors.map .error := by
  induction remaining generalizing attempt t with
  | zero =>
    rcases runs_tryCatch.1 h with ⟨result, rfl, h'⟩ | ⟨e, t₁, t₂, rfl, h₁, rfl, rfl⟩
    · obtain ⟨a, rfl, rfl⟩ := runs_request.1 h'
      exact Or.inl ⟨[], result, rfl, by simp, rfl, by simp⟩
    · obtain ⟨a, rfl, rfl⟩ := runs_request.1 h₁
      exact Or.inr ⟨[e], _, rfl, rfl, rfl⟩
  | succ remaining ih =>
    rcases runs_tryCatch.1 h with ⟨result, rfl, h'⟩ | ⟨e, t₁, t₂, rfl, h₁, h₂⟩
    · obtain ⟨a, rfl, rfl⟩ := runs_request.1 h'
      exact Or.inl ⟨[], result, rfl, by simp, rfl, by simp⟩
    obtain ⟨a, rfl, rfl⟩ := runs_request.1 h₁
    rcases runs_bind.1 h₂ with ⟨e', rfl, h'⟩ | ⟨delay, t₃, t₄, rfl, h₃, h₄⟩
    · -- computing a delay does not fail
      unfold RetryService.calculateDelay at h'
      dsimp only at h'
      split at h'
      · rcases runs_bind.1 h' with ⟨_, -, hr⟩ | ⟨_, _, _, -, -, hr⟩
        · obtain ⟨a, -, hx⟩ := runs_request.1 hr
          cases hx
        · cases hr.2
      · cases h'.2
    rcases runs_bind.1 h₄ with ⟨e', rfl, h'⟩ | ⟨u, t₅, t₆, rfl, h₅, h₆⟩
    · obtain ⟨a, -, hx⟩ := runs_request.1 h'
      cases hx
    have hdelay : attempts t₃ = [] := attempts_eq_nil (calculateDelay_footprint _ _) h₃ (by decide)
    have hsleep : attempts t₅ = [] :=
      attempts_eq_nil (footprint_request (by simp [Req.area]) : Footprint _ [.process]) h₅ (by decide)
    rcases ih h₆ with ⟨errors, result, rfl, hle, hatt, hmem⟩ | ⟨errors, e', rfl, hlen, hatt⟩
    · refine Or.inl ⟨e :: errors, result, rfl, by simpa using hle, ?_, by simp [hmem]⟩
      simp [hdelay, hsleep, hatt]
    · refine Or.inr ⟨e :: errors, e', rfl, by simpa using hlen, ?_⟩
      simp [hdelay, hsleep, hatt]

/-! ### Executing the event -/

/-- The answer of a policy lookup. -/
def lookup? : Ev → Option (Except JsError (Option Column))
  | ⟨.targetSystemConfig _, answer⟩ => some answer
  | _ => none

/-- The policy lookups of a trace, in order. -/
def lookups (t : Trace) : List (Except JsError (Option Column)) := t.filterMap lookup?

@[simp] theorem lookups_nil : lookups [] = [] := rfl

@[simp] theorem lookups_append (t₁ t₂ : Trace) : lookups (t₁ ++ t₂) = lookups t₁ ++ lookups t₂ :=
  List.filterMap_append

@[simp] theorem lookups_config (name : String) (answer : Except JsError (Option Column))
    (t : Trace) : lookups (⟨.targetSystemConfig name, answer⟩ :: t) = answer :: lookups t := rfl

@[simp] theorem lookups_create (data : DlqItemCreate) (answer : Except JsError Unit) (t : Trace) :
    lookups (⟨.dlqItemCreate data, answer⟩ :: t) = lookups t := rfl

@[simp] theorem lookups_recordEvent (status : EventStatus) (name : String) (u : Unit) (t : Trace) :
    lookups (⟨.recordEvent status name, u⟩ :: t) = lookups t := rfl

theorem lookups_eq_nil {α : Type} {p : Prog α} {as : List Area} {t : Trace} {x : Except JsError α}
    (h : Footprint p as) (hr : p.Runs t x) (has : .targets ∉ as) : lookups t = [] := by
  refine h.filterMap_eq_nil hr fun v hv => ?_
  unfold lookup? at hv
  split at hv
  · exact has
  · exact absurd rfl hv

/-- A success of a connector is one of the attempts. -/
theorem Saw.attempt (h : Saw Succeeded t) :
    ∃ result, .ok result ∈ attempts t ∧ result.success = true := by
  obtain ⟨⟨r, a⟩, hv, hP⟩ := h
  unfold Succeeded at hP
  split at hP
  · next payload result heq =>
    cases heq
    exact ⟨result, List.mem_filterMap.2 ⟨_, hv, rfl⟩, hP⟩
  · exact hP.elim

/-- How a settled `executeWithRetry` may have gone, by its trace. -/
inductive ExecutionRun (app : App) (dto : ProcessingPayload) (t : Trace) :
    Except JsError ConnectorResult → Prop
  /-- no connector is registered -/
  | unregistered {e} (hreg : ⟨.registryGet dto.targetSystem, none⟩ ∈ t) (hlook : lookups t = [])
      (hatt : attempts t = []) : ExecutionRun app dto t (.error e)
  /-- the configuration of the target cannot be read -/
  | unreadable {e answer e'} (hlook : lookups t = [answer]) (hpol : lookedUp app answer = .error e')
      (hatt : attempts t = []) : ExecutionRun app dto t (.error e)
  /-- after some attempts that threw, one succeeded -/
  | succeeded {answer} {policy : TargetRetryPolicy} {errors : List JsError}
      {result : ConnectorResult} (hlook : lookups t = [answer])
      (hpol : lookedUp app answer = .ok policy) (hle : errors.length ≤ policy.maxRetries)
      (hatt : attempts t = errors.map .error ++ [.ok result])
      (hexec : ⟨.execute dto.toConnector, .ok result⟩ ∈ t) (hsuccess : result.success = true) :
      ExecutionRun app dto t (.ok result)
  /-- after some attempts that threw, one returned a failure -/
  | refused {answer} {policy : TargetRetryPolicy} {errors : List JsError}
      {result : ConnectorResult} {e} (hlook : lookups t = [answer])
      (hpol : lookedUp app answer = .ok policy) (hle : errors.length ≤ policy.maxRetries)
      (hatt : attempts t = errors.map .error ++ [.ok result]) (hfailure : result.success = false) :
      ExecutionRun app dto t (.error e)
  /-- every attempt of the policy threw -/
  | exhausted {answer} {policy : TargetRetryPolicy} {errors : List JsError} {e}
      (hlook : lookups t = [answer]) (hpol : lookedUp app answer = .ok policy) (hlen : errors.length = policy.maxRetries + 1)
      (hatt : attempts t = errors.map .error) : ExecutionRun app dto t (.error e)

theorem executeWithRetry_runs {x : Except JsError ConnectorResult}
    (h : (ProcessingService.executeWithRetry app dto).Runs t x) : ExecutionRun app dto t x := by
  unfold ProcessingService.executeWithRetry at h
  rcases runs_bind.1 h with ⟨e, rfl, h'⟩ | ⟨connector, t₁, t₂, rfl, h₁, h₂⟩
  · obtain ⟨a, -, hx⟩ := runs_request.1 h'
    cases hx
  obtain ⟨a, rfl, ha⟩ := runs_request.1 h₁
  cases ha
  cases connector with
  | none =>
    obtain ⟨rfl, rfl⟩ := h₂
    exact .unregistered (by simp) rfl rfl
  | some connector =>
    rcases runs_bind.1 h₂ with ⟨e, rfl, h'⟩ | ⟨policy, t₃, t₄, rfl, h₃, h₄⟩
    · obtain ⟨answer, rfl, hpol⟩ := forTarget_runs h'
      exact .unreadable rfl hpol.symm rfl
    obtain ⟨answer, rfl, hpol⟩ := forTarget_runs h₃
    have hcalls : ∀ {u y}, (RetryService.execute (connectorExecute dto.toConnector)
        policy.toRetryOptions).Runs u y → lookups u = [] := fun hr =>
      lookups_eq_nil (executeFrom_footprint _
        (footprint_request (by simp [Req.area]) : Footprint _ [.connector, .process]) (by decide) _ _)
        hr (by decide)
    rcases runs_bind.1 h₄ with ⟨e, rfl, h'⟩ | ⟨result, t₅, t₆, rfl, h₅, h₆⟩
    · rcases executeFrom_runs h' with ⟨_, _, hx, -⟩ | ⟨errors, e', -, hlen, hatt⟩
      · cases hx
      · refine .exhausted ?_ hpol.symm hlen hatt
        exact congrArg (answer :: ·) (hcalls h')
    · rcases executeFrom_runs h₅ with ⟨errors, result', hx, hle, hatt, hmem⟩ | ⟨_, _, hx, -⟩
      · cases hx
        have hcheck : attempts t₆ = [] ∧ lookups t₆ = [] ∧ (x = .ok result ∧ result.success = true ∨
            ∃ e, x = .error e ∧ result.success = false) := by
          unfold ProcessingService.checkResult at h₆
          cases hs : result.success with
          | true =>
            rw [hs] at h₆
            obtain ⟨rfl, rfl⟩ := h₆
            exact ⟨rfl, rfl, Or.inl ⟨rfl, rfl⟩⟩
          | false =>
            rw [hs] at h₆
            rcases runs_bind.1 h₆ with ⟨e, rfl, h'⟩ | ⟨u, t₇, t₈, rfl, h₇, rfl, rfl⟩
            · obtain ⟨a, -, hx⟩ := runs_request.1 h'
              cases hx
            · obtain ⟨a, rfl, -⟩ := runs_request.1 h₇
              exact ⟨rfl, rfl, Or.inr ⟨_, rfl, rfl⟩⟩
        obtain ⟨hatt', hlook', hres⟩ := hcheck
        have hlook : lookups ([⟨.registryGet dto.targetSystem, some connector⟩] ++
            ([⟨.targetSystemConfig dto.targetSystem, answer⟩] ++ (t₅ ++ t₆))) = [answer] := by
          show answer :: lookups (t₅ ++ t₆) = [answer]
          simp [hcalls h₅, hlook']
        have hatts : attempts ([⟨.registryGet dto.targetSystem, some connector⟩] ++
            ([⟨.targetSystemConfig dto.targetSystem, answer⟩] ++ (t₅ ++ t₆))) =
            errors.map .error ++ [.ok result] := by
          show attempts (t₅ ++ t₆) = _
          simp [hatt, hatt']
        rcases hres with ⟨rfl, hs⟩ | ⟨e, rfl, hs⟩
        · exact .succeeded hlook hpol.symm hle hatts (by simp [hmem]) hs
        · exact .refused hlook hpol.symm hle hatts hs
      · cases hx

/-- The connector succeeded exactly if the result is a success. -/
theorem ExecutionRun.saw_succeeded {x : Except JsError ConnectorResult}
    (h : ExecutionRun app dto t x) : Saw Succeeded t ↔ ∃ result, x = .ok result := by
  have hnone : (∀ result, .ok result ∈ attempts t → result.success = false) →
      ¬ Saw Succeeded t := by
    intro hall hsaw
    obtain ⟨result, hmem, hsuccess⟩ := hsaw.attempt
    rw [hall result hmem] at hsuccess
    cases hsuccess
  cases h with
  | unregistered _ _ hatt => simpa using hnone (by simp [hatt])
  | unreadable _ _ hatt => simpa using hnone (by simp [hatt])
  | @succeeded answer policy errors result _ _ _ _ hexec hsuccess =>
    exact ⟨fun _ => ⟨result, rfl⟩, fun _ => ⟨_, hexec, hsuccess⟩⟩
  | refused _ _ _ hatt hfailure =>
    refine iff_of_false (hnone fun result hmem => ?_) (by simp)
    simp only [hatt, List.mem_append, List.mem_map, List.mem_singleton] at hmem
    rcases hmem with ⟨e, -, he⟩ | hr
    · cases he
    · cases hr
      exact hfailure
  | exhausted _ _ _ hatt => simpa using hnone (by simp [hatt])

/-- The connector that succeeded was called for the event. -/
theorem ExecutionRun.saw_executed {x : Except JsError ConnectorResult}
    (h : ExecutionRun app dto t x) : Saw (Executed dto) t ↔ ∃ result, x = .ok result := by
  constructor
  · rintro ⟨v, hv, hexec⟩
    exact h.saw_succeeded.1 ⟨v, hv, hexec.succeeded⟩
  · rintro ⟨result, rfl⟩
    cases h with
    | succeeded _ _ _ _ hexec hsuccess => exact ⟨_, hexec, rfl, hsuccess⟩

/-! ### Parking the event -/

/-- The answer of an attempt to store a DLQ item, with the item. -/
def create? : Ev → Option (DlqItemCreate × Except JsError Unit)
  | ⟨.dlqItemCreate data, answer⟩ => some (data, answer)
  | _ => none

/-- The attempts to store a DLQ item in a trace, in order. -/
def creates (t : Trace) : List (DlqItemCreate × Except JsError Unit) := t.filterMap create?

@[simp] theorem creates_nil : creates [] = [] := rfl

@[simp] theorem creates_append (t₁ t₂ : Trace) : creates (t₁ ++ t₂) = creates t₁ ++ creates t₂ :=
  List.filterMap_append

@[simp] theorem creates_create (data : DlqItemCreate) (answer : Except JsError Unit) (t : Trace) :
    creates (⟨.dlqItemCreate data, answer⟩ :: t) = (data, answer) :: creates t := rfl

@[simp] theorem creates_recordEvent (status : EventStatus) (name : String) (u : Unit) (t : Trace) :
    creates (⟨.recordEvent status name, u⟩ :: t) = creates t := rfl

theorem creates_eq_nil {α : Type} {p : Prog α} {as : List Area} {t : Trace} {x : Except JsError α}
    (h : Footprint p as) (hr : p.Runs t x) (has : .dlqCreate ∉ as) : creates t = [] := by
  refine h.filterMap_eq_nil hr fun v hv => ?_
  unfold create? at hv
  split at hv
  · exact has
  · exact absurd rfl hv

/-- The item is about the event. -/
def DlqItemCreate.IsFor (data : DlqItemCreate) (dto : ProcessingPayload) : Prop :=
  data.eventId = dto.eventId ∧ data.operation = dto.operation ∧
    data.targetSystem = dto.targetSystem

theorem saw_stored_iff :
    Saw (Stored dto) t ↔ ∃ data, data.IsFor dto ∧ (data, .ok ()) ∈ creates t := by
  constructor
  · rintro ⟨⟨r, a⟩, hv, hP⟩
    unfold Stored at hP
    split at hP
    · next data u heq =>
      cases heq
      exact ⟨data, hP, List.mem_filterMap.2 ⟨_, hv, rfl⟩⟩
    · exact hP.elim
  · rintro ⟨data, hdata, hmem⟩
    obtain ⟨⟨r, a⟩, hv, hc⟩ := List.mem_filterMap.1 hmem
    unfold create? at hc
    split at hc
    · next heq =>
      cases heq
      cases hc
      exact ⟨_, hv, hdata⟩
    · cases hc

theorem saw_createFailed_iff : Saw CreateFailed t ↔ ∃ data e, (data, .error e) ∈ creates t := by
  constructor
  · rintro ⟨⟨r, a⟩, hv, hP⟩
    unfold CreateFailed at hP
    split at hP
    · next data e heq =>
      cases heq
      exact ⟨data, e, List.mem_filterMap.2 ⟨_, hv, rfl⟩⟩
    · exact hP.elim
  · rintro ⟨data, e, hmem⟩
    obtain ⟨⟨r, a⟩, hv, hc⟩ := List.mem_filterMap.1 hmem
    unfold create? at hc
    split at hc
    · next heq =>
      cases heq
      cases hc
      exact ⟨_, hv, trivial⟩
    · cases hc

/-- Encryption makes an envelope under the active key, if there is one. -/
theorem encryptObject_runs {service : EncryptionService} {value : Json} {x : Except JsError Json}
    (h : (service.encryptObject value).Runs t x) :
    (∃ kid key iv, service.activeKeyId = .ok kid ∧ service.requireKey kid = .ok key ∧
        x = .ok (EncryptionService.envelope kid iv (service.cipher.encrypt key iv value.stringify).1
          (service.cipher.encrypt key iv value.stringify).2)) ∨
      ((∃ e, x = .error e ∧ isDurablyAcceptedError e = false) ∧ ¬ service.Valid) := by
  unfold EncryptionService.encryptObject at h
  rcases runs_bind.1 h with ⟨e, rfl, -, hkid⟩ | ⟨kid, _, t₂, -, ⟨-, hkid⟩, h₂⟩
  · refine Or.inr ⟨⟨e, rfl, ?_⟩, fun ⟨_, _, hkid', _⟩ => by simp [← hkid] at hkid'⟩
    unfold EncryptionService.activeKeyId at hkid
    split at hkid <;> cases hkid
    rfl
  rcases runs_bind.1 h₂ with ⟨e, rfl, -, hkey⟩ | ⟨key, _, t₄, -, ⟨-, hkey⟩, h₄⟩
  · refine Or.inr ⟨⟨e, rfl, ?_⟩, fun ⟨_, _, hkid', hkey'⟩ => ?_⟩
    · unfold EncryptionService.requireKey at hkey
      repeat' split at hkey
      all_goals cases hkey
      all_goals rfl
    · rw [← hkid] at hkid'
      cases hkid'
      simp [← hkey] at hkey'
  · rcases runs_bind.1 h₄ with ⟨e, rfl, h'⟩ | ⟨iv, _, _, -, -, -, hx⟩
    · obtain ⟨a, -, hx⟩ := runs_request.1 h'
      cases hx
    · exact Or.inl ⟨kid, key, iv, hkid.symm, hkey.symm, hx⟩

/-- The keyring has been checked, so a value can always be stored. -/
theorem toJson_runs {value : Json} {x : Except JsError Column}
    (h : (JsonHelper.toJson app value).Runs t x) : ∃ column, x = .ok column := by
  unfold JsonHelper.toJson at h
  rcases runs_bind.1 h with ⟨e, rfl, h'⟩ | ⟨stored, t₁, t₂, rfl, h₁, rfl, rfl⟩
  · unfold EncryptionService.encryptForStorage at h'
    split at h'
    · next henabled =>
      rcases encryptObject_runs h' with ⟨_, _, _, -, -, hx⟩ | ⟨-, hinvalid⟩
      · cases hx
      · exact absurd (app.encryption_valid henabled) hinvalid
    · cases h'.2
  · exact ⟨_, rfl⟩

/-- The answer of a metrics refresh. -/
def counted? : Ev → Option (Except JsError (List (DlqStatus × ℕ)))
  | ⟨.dlqItemGroupBy, answer⟩ => some answer
  | _ => none

@[simp] theorem counted?_groupBy (answer : Except JsError (List (DlqStatus × ℕ))) :
    counted? ⟨.dlqItemGroupBy, answer⟩ = some answer := rfl

@[simp] theorem counted?_recordEvent (status : EventStatus) (name : String) (u : Unit) :
    counted? ⟨.recordEvent status name, u⟩ = none := rfl

/-- Setting the counters does not fail. -/
theorem setSizes_runs {counts : List (DlqStatus × ℕ)} {statuses : List DlqStatus}
    {x : Except JsError Unit} (h : (DlqService.setSizes counts statuses).Runs t x) : x = .ok () := by
  induction statuses generalizing t with
  | nil => exact h.2
  | cons status statuses ih =>
    rcases runs_bind.1 h with ⟨e, rfl, h'⟩ | ⟨_, _, _, -, -, h'⟩
    · obtain ⟨a, -, hx⟩ := runs_request.1 h'
      cases hx
    · exact ih h'

/-- The metrics refresh: one statement, and counters if it succeeds. -/
theorem refresh_runs {x : Except JsError Unit} (h : DlqService.updateMetrics.Runs t x) :
    (∃ e, t = [⟨.dlqItemGroupBy, .error e⟩] ∧ x = .error e) ∨
      ∃ counts w, t = ⟨.dlqItemGroupBy, .ok counts⟩ :: w ∧ x = .ok () ∧
        ∀ v ∈ w, v.req.area = .metrics := by
  rcases runs_bind.1 h with ⟨e, rfl, h'⟩ | ⟨counts, t₁, t₂, rfl, h₁, h₂⟩
  · obtain ⟨answer, rfl, rfl⟩ := runs_request.1 h'
    exact Or.inl ⟨e, rfl, rfl⟩
  · obtain ⟨answer, rfl, rfl⟩ := runs_request.1 h₁
    refine Or.inr ⟨counts, t₂, rfl, setSizes_runs h₂, fun v hv => ?_⟩
    simpa using Issues.of_runs (setSizes_footprint _ _) h₂ v hv

/-- The metrics refresh fails exactly if its statement does. -/
theorem updateMetrics_runs {x : Except JsError Unit} (h : DlqService.updateMetrics.Runs t x) :
    (x = .ok () ∧ ¬ Saw CountFailed t) ∨ ((∃ e, x = .error e) ∧ Saw CountFailed t) := by
  rcases refresh_runs h with ⟨e, rfl, rfl⟩ | ⟨counts, w, rfl, rfl, hw⟩
  · exact Or.inr ⟨⟨e, rfl⟩, by simp [CountFailed]⟩
  · have hno : ¬ Saw CountFailed w := by
      rintro ⟨v, hv, hfailed⟩
      have harea := hw v hv
      rw [hfailed.area] at harea
      cases harea
    exact Or.inl ⟨rfl, by simp [CountFailed, hno]⟩

/-- `add` stores one item, and then refreshes the metrics. -/
theorem add_runs {item : DlqItemData} {x : Except JsError Unit}
    (h : (DlqService.add app item).Runs t x) :
    ∃ data : DlqItemCreate, data.eventId = item.eventId ∧ data.operation = item.operation ∧
      data.targetSystem = item.targetSystem ∧ data.retryCount = item.retryCount.getD 0 ∧
      lookups t = [] ∧
      (((∃ e, x = .error e) ∧ (∃ e, creates t = [(data, .error e)]) ∧ ¬ Saw CountFailed t) ∨
        (creates t = [(data, .ok ())] ∧
          ((x = .ok () ∧ ¬ Saw CountFailed t) ∨ ((∃ e, x = .error e) ∧ Saw CountFailed t)))) := by
  unfold DlqService.add at h
  rcases runs_bind.1 h with ⟨e, rfl, h'⟩ | ⟨column, t₁, t₂, rfl, h₁, h₂⟩
  · obtain ⟨column, hx⟩ := toJson_runs h'
    cases hx
  have hlook₁ := lookups_eq_nil (toJson_footprint app _) h₁ (by decide)
  have hcreate₁ := creates_eq_nil (toJson_footprint app _) h₁ (by decide)
  have hcount₁ : ¬ Saw CountFailed t₁ :=
    (toJson_footprint app _).not_saw h₁ fun v hv => by rw [hv.area]; decide
  rcases runs_bind.1 h₂ with ⟨e, rfl, h'⟩ | ⟨u, t₃, t₄, rfl, h₃, h₄⟩
  · obtain ⟨a, rfl, rfl⟩ := runs_request.1 h'
    refine ⟨item.row column, rfl, rfl, rfl, rfl, ?_, Or.inl ⟨⟨e, rfl⟩, ⟨e, ?_⟩, ?_⟩⟩
    · simp [hlook₁]
    · simp [hcreate₁]
    · simp [CountFailed, hcount₁]
  · obtain ⟨a, rfl, rfl⟩ := runs_request.1 h₃
    have hlook₄ := lookups_eq_nil updateMetrics_footprint h₄ (by decide)
    have hcreate₄ := creates_eq_nil updateMetrics_footprint h₄ (by decide)
    refine ⟨item.row column, rfl, rfl, rfl, rfl, ?_, Or.inr ⟨?_, ?_⟩⟩
    · simp [hlook₁, hlook₄]
    · simp [hcreate₁, hcreate₄]
    · simpa [CountFailed, hcount₁] using updateMetrics_runs h₄

/-- How a settled attempt to park an event may have gone, by its trace. -/
inductive ParkRun (app : App) (dto : ProcessingPayload) (t : Trace) : Except JsError Unit → Prop
  /-- the configuration of the target cannot be read -/
  | unreadable {e answer e'} (hlook : lookups t = [answer]) (hpol : lookedUp app answer = .error e')
      (hcreate : creates t = []) (hcount : ¬ Saw CountFailed t) : ParkRun app dto t (.error e)
  /-- the item could not be stored -/
  | createFailed {answer} {policy : TargetRetryPolicy} {data : DlqItemCreate} {e e'}
      (hlook : lookups t = [answer]) (hpol : lookedUp app answer = .ok policy)
      (hdata : data.IsFor dto) (hcount' : data.retryCount = policy.maxRetries)
      (hcreate : creates t = [(data, .error e')]) (hcount : ¬ Saw CountFailed t) :
      ParkRun app dto t (.error e)
  /-- the item was stored, but then the metrics refresh failed -/
  | countFailed {answer} {policy : TargetRetryPolicy} {data : DlqItemCreate} {e}
      (hlook : lookups t = [answer]) (hpol : lookedUp app answer = .ok policy)
      (hdata : data.IsFor dto) (hcount' : data.retryCount = policy.maxRetries)
      (hcreate : creates t = [(data, .ok ())]) (hcount : Saw CountFailed t) :
      ParkRun app dto t (.error e)
  | parked {answer} {policy : TargetRetryPolicy} {data : DlqItemCreate}
      (hlook : lookups t = [answer]) (hpol : lookedUp app answer = .ok policy)
      (hdata : data.IsFor dto) (hcount' : data.retryCount = policy.maxRetries)
      (hcreate : creates t = [(data, .ok ())]) (hcount : ¬ Saw CountFailed t) :
      ParkRun app dto t (.ok ())

theorem park_runs {error : JsError} {x : Except JsError Unit}
    (h : (ProcessingService.park app dto error).Runs t x) : ParkRun app dto t x := by
  unfold ProcessingService.park at h
  rcases runs_bind.1 h with ⟨e, rfl, h'⟩ | ⟨policy, t₁, t₂, rfl, h₁, h₂⟩
  · obtain ⟨answer, rfl, hpol⟩ := forTarget_runs h'
    exact .unreadable rfl hpol.symm rfl (by simp [CountFailed])
  obtain ⟨answer, rfl, hpol⟩ := forTarget_runs h₁
  obtain ⟨data, hid, hop, htarget, hretry, hlook, hres⟩ := add_runs h₂
  have hdata : data.IsFor dto := ⟨hid, hop, htarget⟩
  have hlook' : lookups ([⟨.targetSystemConfig dto.targetSystem, answer⟩] ++ t₂) = [answer] :=
    congrArg (answer :: ·) hlook
  have hcount : Saw CountFailed ([⟨.targetSystemConfig dto.targetSystem, answer⟩] ++ t₂) ↔
      Saw CountFailed t₂ := by simp [CountFailed]
  rcases hres with ⟨⟨e, rfl⟩, ⟨e', hcreate⟩, hok⟩ | ⟨hcreate, ⟨rfl, hok⟩ | ⟨⟨e, rfl⟩, hfail⟩⟩
  · exact .createFailed hlook' hpol.symm hdata hretry hcreate (by rwa [hcount])
  · exact .parked hlook' hpol.symm hdata hretry hcreate (by rwa [hcount])
  · exact .countFailed hlook' hpol.symm hdata hretry hcreate (by rwa [hcount])

/-! ### Processing the event -/

/-- A settled `process`: a success of the connector; or a failure, parked or lost. -/
theorem process_runs {x : Except JsError ConnectorResult}
    (h : (ProcessingService.process app dto).Runs t x) :
    (∃ result t₁, x = .ok result ∧ t = t₁ ++ [⟨.recordEvent .success dto.targetSystem, ()⟩] ∧
        (ProcessingService.executeWithRetry app dto).Runs t₁ (.ok result)) ∨
      ∃ error y t₁ t₂, t = t₁ ++ ⟨.recordEvent .failed dto.targetSystem, ()⟩ :: t₂ ∧
        (ProcessingService.executeWithRetry app dto).Runs t₁ (.error error) ∧
        (ProcessingService.park app dto error).Runs t₂ y ∧
        ((y = .ok () ∧ ∃ m, x = .error (.processingFailure m true error)) ∨
          ∃ e m, y = .error e ∧ x = .error (.processingFailure m false error)) := by
  unfold ProcessingService.process at h
  rcases runs_tryCatch.1 h with ⟨result, rfl, h'⟩ | ⟨error, t₁, t₂, rfl, h₁, h₂⟩
  · rcases runs_bind.1 h' with ⟨_, hx, -⟩ | ⟨result', t₁, t₂, rfl, h₁, h₂⟩
    · cases hx
    rcases runs_bind.1 h₂ with ⟨_, hx, -⟩ | ⟨u, t₃, t₄, rfl, h₃, rfl, hx⟩
    · cases hx
    cases hx
    obtain ⟨a, rfl, -⟩ := runs_request.1 h₃
    exact Or.inl ⟨result, t₁, rfl, by simp, h₁⟩
  · have hexec : (ProcessingService.executeWithRetry app dto).Runs t₁ (.error error) := by
      rcases runs_bind.1 h₁ with ⟨_, hx, h'⟩ | ⟨_, _, _, -, -, h'⟩
      · cases hx
        exact h'
      · rcases runs_bind.1 h' with ⟨_, -, hr⟩ | ⟨_, _, _, -, -, hr⟩
        · obtain ⟨a, -, hx⟩ := runs_request.1 hr
          cases hx
        · cases hr.2
    unfold ProcessingService.processFailed at h₂
    rcases runs_bind.1 h₂ with ⟨e, rfl, h'⟩ | ⟨u, t₃, t₄, rfl, h₃, h₄⟩
    · obtain ⟨a, -, hx⟩ := runs_request.1 h'
      cases hx
    obtain ⟨a, rfl, -⟩ := runs_request.1 h₃
    rcases runs_bind.1 h₄ with ⟨e, rfl, h'⟩ | ⟨u', t₅, t₆, rfl, h₅, rfl, rfl⟩
    · rcases runs_tryCatch.1 h' with ⟨_, hx, -⟩ | ⟨e', t₅, t₆, rfl, h₅, rfl, hx⟩
      · cases hx
      · cases hx
        exact Or.inr ⟨error, _, t₁, t₅, by simp, hexec, h₅, Or.inr ⟨e', _, rfl, rfl⟩⟩
    · rcases runs_tryCatch.1 h₅ with ⟨_, hx, h'⟩ | ⟨_, _, _, -, -, -, hx⟩
      · cases hx
        exact Or.inr ⟨error, _, t₁, t₅, by simp, hexec, h', Or.inl ⟨rfl, _, rfl⟩⟩
      · cases hx

/-- The last configuration looked up can be read, and has a policy. -/
def Readable (app : App) (t : Trace) : Prop :=
  ∀ answer, (lookups t).getLast? = some answer → ∃ policy, lookedUp app answer = .ok policy

/-- What has become of the event when `process` settles. -/
inductive ProcessOutcome (app : App) (dto : ProcessingPayload) (t : Trace) :
    Except JsError ConnectorResult → Prop
  /-- the connector succeeded -/
  | executed {result} (hexec : Saw (Executed dto) t) (hcount : ¬ Saw CountFailed t)
      (hcreate : ¬ Saw CreateFailed t) (hread : Readable app t) :
      ProcessOutcome app dto t (.ok result)
  /-- the event is a DLQ item -/
  | parked {m e} (hexec : ¬ Saw (Executed dto) t) (hstored : Saw (Stored dto) t)
      (hcount : ¬ Saw CountFailed t) (hcreate : ¬ Saw CreateFailed t) (hread : Readable app t) :
      ProcessOutcome app dto t (.error (.processingFailure m true e))
  /-- the attempt to park the event failed, before or after the item was stored -/
  | lost {m e} (hexec : ¬ Saw (Executed dto) t) (hcount : Saw (Stored dto) t ↔ Saw CountFailed t)
      (hstored : Saw (Stored dto) t ↔ ¬ Saw CreateFailed t ∧ Readable app t) :
      ProcessOutcome app dto t (.error (.processingFailure m false e))

theorem process_outcome {x : Except JsError ConnectorResult}
    (h : (ProcessingService.process app dto).Runs t x) : ProcessOutcome app dto t x := by
  rcases process_runs h with ⟨result, t₁, rfl, rfl, h₁⟩ | ⟨error, y, t₁, t₂, rfl, h₁, h₂, hx⟩
  · have hexec := executeWithRetry_runs h₁
    have hfoot := executeWithRetry_footprint app dto
    have hcount : ¬ Saw CountFailed t₁ :=
      hfoot.not_saw h₁ fun v hv => by rw [hv.area]; decide
    have hcreate : ¬ Saw CreateFailed t₁ :=
      hfoot.not_saw h₁ fun v hv => by rw [hv.area]; decide
    have hsaw := hexec.saw_executed.2 ⟨result, rfl⟩
    cases hexec with
    | @succeeded found _ _ _ hlook hpol _ _ _ _ =>
      refine .executed (by simp [hsaw]) (by simp [CountFailed, hcount])
        (by simp [CreateFailed, hcreate]) fun answer hlast => ?_
      obtain rfl : found = answer := by simpa [hlook] using hlast
      exact ⟨_, hpol⟩
  have hfoot := executeWithRetry_footprint app dto
  have hnot : ¬ Saw (Executed dto) t₁ := by
    rw [(executeWithRetry_runs h₁).saw_executed]
    rintro ⟨_, hx⟩
    cases hx
  have hpark : Footprint (ProcessingService.park app dto error)
      [.targets, .process, .dlqCreate, .dlqCount, .metrics] :=
    ((forTarget_footprint app _).mono (by decide)).bind fun _ =>
      (add_footprint app _).mono (by decide)
  have hexec : ¬ Saw (Executed dto) (t₁ ++ ⟨.recordEvent .failed dto.targetSystem, ()⟩ :: t₂) := by
    have hnot₂ : ¬ Saw (Executed dto) t₂ := hpark.not_saw h₂ fun v hv => by rw [hv.area]; decide
    simp [Executed, hnot, hnot₂]
  have hcreates : creates (t₁ ++ ⟨.recordEvent .failed dto.targetSystem, ()⟩ :: t₂) = creates t₂ := by
    simp [creates_eq_nil hfoot h₁ (by decide)]
  have hcount : Saw CountFailed (t₁ ++ ⟨.recordEvent .failed dto.targetSystem, ()⟩ :: t₂) ↔
      Saw CountFailed t₂ := by
    have hcount₁ : ¬ Saw CountFailed t₁ := hfoot.not_saw h₁ fun v hv => by rw [hv.area]; decide
    simp [CountFailed, hcount₁]
  have hread : ∀ {answer}, lookups t₂ = [answer] →
      (Readable app (t₁ ++ ⟨.recordEvent .failed dto.targetSystem, ()⟩ :: t₂) ↔
        ∃ policy, lookedUp app answer = .ok policy) := by
    intro answer hlook
    simp [Readable, hlook]
  generalize t₁ ++ ⟨.recordEvent .failed dto.targetSystem, ()⟩ :: t₂ = t at *
  have hfailed : ∀ {data e}, creates t₂ = [(data, .error e)] →
      ¬ Saw (Stored dto) t ∧ Saw CreateFailed t := by
    intro data e hc
    simp [saw_stored_iff, saw_createFailed_iff, hcreates, hc]
  have hstored : ∀ {data : DlqItemCreate}, data.IsFor dto → creates t₂ = [(data, .ok ())] →
      Saw (Stored dto) t ∧ ¬ Saw CreateFailed t := by
    intro data hdata hc
    simp [saw_stored_iff, saw_createFailed_iff, hcreates, hc, hdata]
  rcases hx with ⟨rfl, m, rfl⟩ | ⟨e, m, rfl, rfl⟩
  · cases park_runs h₂ with
    | parked hlook hpol hdata _ hc hok =>
      exact .parked hexec (hstored hdata hc).1 (hcount.not.2 hok) (hstored hdata hc).2
        ((hread hlook).2 ⟨_, hpol⟩)
  · cases park_runs h₂ with
    | unreadable hlook hpol hc hok =>
      have hnone : ¬ Saw (Stored dto) t := by simp [saw_stored_iff, hcreates, hc]
      refine .lost hexec (iff_of_false hnone (hcount.not.2 hok)) (iff_of_false hnone ?_)
      rintro ⟨-, hr⟩
      obtain ⟨policy, hpol'⟩ := (hread hlook).1 hr
      rw [hpol] at hpol'
      cases hpol'
    | createFailed hlook hpol _ _ hc hok =>
      obtain ⟨hnone, hfail⟩ := hfailed hc
      exact .lost hexec (iff_of_false hnone (hcount.not.2 hok))
        (iff_of_false hnone fun hboth => hboth.1 hfail)
    | countFailed hlook hpol hdata _ hc hfail =>
      exact .lost hexec (iff_of_true (hstored hdata hc).1 (hcount.2 hfail))
        (iff_of_true (hstored hdata hc).1 ⟨(hstored hdata hc).2, (hread hlook).2 ⟨_, hpol⟩⟩)

/-! ### Status messages -/

/-- Messages can be encoded: where they are encrypted, there is an active key. -/
def EncryptionService.CanEncode (service : EncryptionService) : Prop :=
  service.isKafkaEncryptionEnabled = true → service.Valid

theorem encodeKafkaMessage_runs {service : EncryptionService} {message : Json}
    {x : Except JsError JsonText} (h : (service.encodeKafkaMessage message).Runs t x) :
    ((∃ raw, x = .ok raw) ∧ service.CanEncode) ∨
      ((∃ e, x = .error e ∧ isDurablyAcceptedError e = false) ∧ ¬ service.CanEncode) := by
  unfold EncryptionService.encodeKafkaMessage at h
  split at h
  · next henabled =>
    rcases runs_bind.1 h with ⟨e, rfl, h'⟩ | ⟨encrypted, t₁, t₂, rfl, h₁, -, rfl⟩
    · rcases encryptObject_runs h' with ⟨_, _, _, -, -, hx⟩ | ⟨⟨_, hx, hlost⟩, hinvalid⟩
      · cases hx
      · cases hx
        exact Or.inr ⟨⟨e, rfl, hlost⟩, fun hcan => hinvalid (hcan henabled)⟩
    · rcases encryptObject_runs h₁ with ⟨kid, key, _, hkid, hkey, -⟩ | ⟨⟨_, hx, -⟩, -⟩
      · exact Or.inl ⟨⟨_, rfl⟩, fun _ => ⟨kid, key, hkid, hkey⟩⟩
      · cases hx
  · next hdisabled => exact Or.inl ⟨⟨_, h.2⟩, fun henabled => absurd henabled hdisabled⟩

/-- An encoded message is the message itself, or an envelope of it under the active key. -/
theorem encoded_form {service : EncryptionService} {message : Json} {raw : JsonText}
    (h : (service.encodeKafkaMessage message).Runs t (.ok raw)) :
    (service.isKafkaEncryptionEnabled = false ∧ raw = message.stringify) ∨
      service.isKafkaEncryptionEnabled = true ∧ ∃ kid key iv, service.activeKeyId = .ok kid ∧
        service.requireKey kid = .ok key ∧ raw = (EncryptionService.envelope kid iv
          (service.cipher.encrypt key iv message.stringify).1
          (service.cipher.encrypt key iv message.stringify).2).stringify := by
  unfold EncryptionService.encodeKafkaMessage at h
  split at h
  · next henabled =>
    rcases runs_bind.1 h with ⟨_, hx, -⟩ | ⟨encrypted, t₁, t₂, -, h₁, -, hx⟩
    · cases hx
    cases hx
    rcases encryptObject_runs h₁ with ⟨kid, key, iv, hkid, hkey, hx⟩ | ⟨⟨_, hx, -⟩, -⟩
    · cases hx
      exact Or.inr ⟨henabled, kid, key, iv, hkid, hkey, rfl⟩
    · cases hx
  · next hdisabled =>
    cases h.2
    exact Or.inl ⟨by simpa using hdisabled, rfl⟩

/-- The text encodes the message. -/
def Encodes (service : EncryptionService) (message : Json) (raw : JsonText) : Prop :=
  ∃ t, (service.encodeKafkaMessage message).Runs t (.ok raw)

/-- A text encodes one message. -/
theorem Encodes.inj {service : EncryptionService} {message message' : Json} {raw : JsonText}
    (hcipher : service.cipher.Correct) (h : Encodes service message raw)
    (h' : Encodes service message' raw) : message = message' := by
  obtain ⟨t, h⟩ := h
  obtain ⟨t', h'⟩ := h'
  rcases encoded_form h with ⟨hdisabled, rfl⟩ | ⟨henabled, kid, key, iv, hkid, hkey, rfl⟩
  · rcases encoded_form h' with ⟨-, hraw⟩ | ⟨henabled, -⟩
    · exact JsonText.text.inj hraw
    · rw [hdisabled] at henabled
      cases henabled
  · rcases encoded_form h' with ⟨hdisabled, -⟩ | ⟨-, kid', key', iv', hkid', hkey', hraw⟩
    · rw [hdisabled] at henabled
      cases henabled
    · -- the same envelope under the same key decrypts to both messages
      obtain rfl : kid = kid' := by
        rw [hkid] at hkid'
        exact Except.ok.inj hkid'
      obtain rfl : key = key' := by
        rw [hkey] at hkey'
        exact Except.ok.inj hkey'
      have hdecrypt := hcipher key iv message.stringify
      have hfields := JsonText.text.inj hraw
      simp only [EncryptionService.envelope, Json.obj.injEq, List.cons.injEq, Prod.mk.injEq,
        Json.str.injEq, true_and, and_true] at hfields
      obtain ⟨rfl, htag, hct⟩ := hfields
      rw [htag, hct, hcipher] at hdecrypt
      exact (JsonText.text.inj (Except.ok.inj hdecrypt)).symm

/-- Status messages go out: Kafka is disabled, or messages can be encoded. -/
def App.CanPublish (app : App) : Prop := app.config.isKafkaEnabled = true → app.encryption.CanEncode

/-- The answer of a send. -/
def sent? : Ev → Option (Except String Unit)
  | ⟨.producerSend _ _, answer⟩ => some answer
  | _ => none

@[simp] theorem sent?_send (topic : String) (raw : JsonText) (answer : Except String Unit) :
    sent? ⟨.producerSend topic raw, answer⟩ = some answer := rfl

/-- With Kafka, a send encodes the message and puts it on the topic. -/
theorem send_cases {topic : String} {message : Json} {x : Except JsError Unit}
    (hkafka : app.config.isKafkaEnabled = true)
    (h : (KafkaProducerService.send app topic message).Runs t x) :
    (¬ app.encryption.CanEncode ∧ ∃ e, x = .error e ∧ isDurablyAcceptedError e = false ∧
        (app.encryption.encodeKafkaMessage message).Runs t (.error e)) ∨
      app.encryption.CanEncode ∧ ∃ u raw answer, t = u ++ [⟨.producerSend topic raw, answer⟩] ∧
        (app.encryption.encodeKafkaMessage message).Runs u (.ok raw) ∧
        x = answer.mapError .error := by
  unfold KafkaProducerService.send at h
  rw [if_pos (app.producer_eq.trans hkafka)] at h
  rcases runs_bind.1 h with ⟨e, rfl, h'⟩ | ⟨raw, t₁, t₂, rfl, h₁, h₂⟩
  · rcases encodeKafkaMessage_runs h' with ⟨⟨_, hx⟩, -⟩ | ⟨⟨_, hx, hlost⟩, hcannot⟩
    · cases hx
    · cases hx
      exact Or.inl ⟨hcannot, e, rfl, hlost, h'⟩
  · rcases encodeKafkaMessage_runs h₁ with ⟨-, hcan⟩ | ⟨⟨_, hx, -⟩, -⟩
    · obtain ⟨answer, rfl, rfl⟩ := runs_request.1 h₂
      exact Or.inr ⟨hcan, t₁, raw, answer, rfl, h₁, rfl⟩
    · cases hx

/-- A send rejects exactly if the message cannot be encoded or is not accepted; the error never
counts as a durable acceptance. -/
theorem send_runs {topic : String} {message : Json} {x : Except JsError Unit}
    (h : (KafkaProducerService.send app topic message).Runs t x) :
    (x = .ok () ∧ ¬ Saw SendFailed t ∧ app.CanPublish) ∨
      ((∃ e, x = .error e ∧ isDurablyAcceptedError e = false) ∧
        (Saw SendFailed t ∨ ¬ app.CanPublish)) := by
  cases henabled : app.config.isKafkaEnabled with
  | true =>
    rcases send_cases henabled h with
      ⟨hcannot, e, rfl, hlost, -⟩ | ⟨hcan, u, raw, answer, rfl, hencode, rfl⟩
    · exact Or.inr ⟨⟨e, rfl, hlost⟩, Or.inr fun hpublish => hcannot (hpublish henabled)⟩
    · have hquiet : ¬ Saw SendFailed u :=
        (encodeKafkaMessage_footprint _ _).not_saw hencode fun v hv => by rw [hv.area]; decide
      cases answer with
      | ok => exact Or.inl ⟨rfl, by simp [SendFailed, hquiet], fun _ => hcan⟩
      | error e => exact Or.inr ⟨⟨_, rfl, rfl⟩, Or.inl (by simp [SendFailed])⟩
  | false =>
    unfold KafkaProducerService.send at h
    rw [app.producer_eq, henabled] at h
    obtain ⟨rfl, rfl⟩ := h
    exact Or.inl ⟨rfl, saw_nil, fun hkafka => by rw [henabled] at hkafka; cases hkafka⟩

theorem publish_runs {message : Json} {x : Except JsError Unit}
    (h : (DispatcherService.publish app message).Runs t x) :
    (x = .ok () ∧ ¬ Saw SendFailed t ∧ app.CanPublish) ∨
      ((∃ e, x = .error e ∧ isDurablyAcceptedError e = false) ∧
        (Saw SendFailed t ∨ ¬ app.CanPublish)) := by
  unfold DispatcherService.publish at h
  split at h
  · exact send_runs h
  · next hdisabled =>
    obtain ⟨rfl, rfl⟩ := h
    exact Or.inl ⟨rfl, saw_nil, fun henabled => absurd henabled hdisabled⟩

end IdmMw
