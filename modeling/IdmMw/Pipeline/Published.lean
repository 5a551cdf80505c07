import IdmMw.Model.Sealing
import IdmMw.Pipeline.RetryOutcome

/-!
# Published status

The synchronous dispatcher and the Kafka worker publish how an event went: `success` or `failed`. No
`failed` should be published for an event whose connector call succeeded, and `success` only for such
an event (`StatusAgrees`).

* `send_published`: what a send publishes;
* `StatusRun`: the handling of an event, and the status messages after it;
* `statusAgrees_iff`: the publication of the success stands in the `try` block whose `catch` publishes
  the failure, and so does the bookkeeping of a retry; if one of them fails after the connector has
  succeeded, the failure is published, unless that fails too.
-/

namespace IdmMw

open Async

/-! ### The law -/

/-- The two handlers that publish a status: of an event, and of a message for the worker. -/
inductive StatusHandler
  | dispatch (dto : ProcessingPayload)
  | message (topic : String) (value : Option JsonText)

def StatusHandler.program (app : App) : StatusHandler → Prog Unit
  | dispatch dto => do
    let _ ← DispatcherService.dispatchSync app dto
    pure ()
  | message topic value => KafkaConsumerService.eachMessage app topic value

/-- Kafka accepts a message with the status. -/
def Published (app : App) (status : String) : Ev → Prop
  | ⟨.producerSend _ raw, .ok _⟩ =>
    ∃ message, Encodes app.encryption message raw ∧ message.getStr? "status" = some status
  | _ => False

/-- What is published agrees with the connector. -/
def StatusAgrees (app : App) (t : Trace) : Prop :=
  (Saw Succeeded t → ¬ Saw (Published app "failed") t) ∧
    (Saw (Published app "success") t → Saw Succeeded t)

/-- The answers of the sends of a trace, in order. -/
def sends (t : Trace) : List (Except String Unit) := t.filterMap sent?

/-- Recording the outcome of a retry fails, or the metrics refresh after that. -/
def BookkeepingFailed (t : Trace) : Prop :=
  (∃ status, Saw (UpdateFailed status) t) ∨ Saw CountFailed t

/-- Something fails after the connector: the bookkeeping, or the first publication. -/
def Disturbed (t : Trace) : Prop :=
  BookkeepingFailed t ∨ ∃ e, (sends t).head? = some (.error e)

/-- If something fails after the connector has succeeded, then the last publication fails. -/
def Unnoticed (t : Trace) : Prop :=
  Saw Succeeded t → Disturbed t → (sends t).getLast? ≠ some (.ok ())

variable {app : App} {dto : ProcessingPayload} {t : Trace}

@[simp] theorem sends_append (t₁ t₂ : Trace) : sends (t₁ ++ t₂) = sends t₁ ++ sends t₂ :=
  List.filterMap_append

theorem sends_eq_nil {α : Type} {p : Prog α} {as : List Area} {x : Except JsError α}
    (h : Footprint p as) (hr : p.Runs t x) (has : .kafka ∉ as) : sends t = [] := by
  refine h.filterMap_eq_nil hr fun v hv => ?_
  unfold sent? at hv
  split at hv
  · exact has
  · exact absurd rfl hv

variable (app) in
/-- Without a send nothing is published. -/
theorem not_published_of_sends (h : sends t = []) (status : String) :
    ¬ Saw (Published app status) t := by
  rintro ⟨v, hv, hpub⟩
  have hnone := List.filterMap_eq_nil_iff.1 h v hv
  unfold Published at hpub
  split at hpub
  · cases hnone
  · exact hpub

/-! ### One message -/

/-- What a send of a status publishes: nothing, where it makes no request; the status, where it is
accepted; nothing, where it is not. -/
theorem send_published {topic status : String} {message : Json} {x : Except JsError Unit}
    (hcipher : app.encryption.cipher.Correct) (hstatus : message.getStr? "status" = some status)
    (h : (KafkaProducerService.send app topic message).Runs t x) :
    (sends t = [] ∧ ((∃ e, x = .error e) → ¬ app.CanPublish)) ∨
      (x = .ok () ∧ sends t = [.ok ()] ∧ app.CanPublish ∧
        ∀ s, Saw (Published app s) t ↔ s = status) ∨
      ∃ e e', x = .error e ∧ sends t = [.error e'] ∧ app.CanPublish ∧
        ∀ s, ¬ Saw (Published app s) t := by
  cases hkafka : app.config.isKafkaEnabled with
  | false =>
    unfold KafkaProducerService.send at h
    rw [app.producer_eq, hkafka] at h
    obtain ⟨rfl, rfl⟩ := h
    exact Or.inl ⟨rfl, by rintro ⟨_, ⟨⟩⟩⟩
  | true =>
    rcases send_cases hkafka h with
      ⟨hcannot, e, rfl, -, hencode⟩ | ⟨hcan, u, raw, answer, rfl, hencode, rfl⟩
    · exact Or.inl ⟨sends_eq_nil (encodeKafkaMessage_footprint _ _) hencode (by decide),
        fun _ hpublish => hcannot (hpublish hkafka)⟩
    have hquiet := sends_eq_nil (encodeKafkaMessage_footprint _ _) hencode (by decide)
    have hnone := not_published_of_sends app hquiet
    cases answer with
    | ok =>
      refine Or.inr (Or.inl ⟨rfl, ?_, fun _ => hcan, fun s => ?_⟩)
      · rw [sends_append, hquiet]
        rfl
      · rw [saw_append, or_iff_right (hnone s), saw_cons, or_iff_left saw_nil]
        constructor
        · rintro ⟨message', hencodes, hs⟩
          obtain rfl := hencodes.inj hcipher ⟨u, hencode⟩
          rw [hstatus] at hs
          exact (Option.some.inj hs).symm
        · rintro rfl
          exact ⟨message, ⟨u, hencode⟩, hstatus⟩
    | error e =>
      refine Or.inr (Or.inr ⟨_, e, rfl, ?_, fun _ => hcan, fun s => ?_⟩)
      · rw [sends_append, hquiet]
        rfl
      · simp [hnone s, Published]

/-! ### The handling of an event, and what is published after it -/

/-- A handler's run: the event is handled (or not), then a status is sent, and if that was a success
that could not be sent, a failure. -/
inductive StatusRun (app : App) : Trace → Prop
  | published {u s topic message} (hhandled : Saw Succeeded u) (hbooks : ¬ BookkeepingFailed u)
      (hsends : sends u = []) (hstatus : message.getStr? "status" = some "success")
      (hs : (KafkaProducerService.send app topic message).Runs s (.ok ())) : StatusRun app (u ++ s)
  | unpublished {u s w topic topic' message message' e y} (hhandled : Saw Succeeded u)
      (hbooks : ¬ BookkeepingFailed u) (hsends : sends u = [])
      (hstatus : message.getStr? "status" = some "success")
      (hs : (KafkaProducerService.send app topic message).Runs s (.error e))
      (hstatus' : message'.getStr? "status" = some "failed")
      (hw : (KafkaProducerService.send app topic' message').Runs w y) :
      StatusRun app (u ++ (s ++ w))
  | failed {u w topic message y} (hfailed : Saw Succeeded u → BookkeepingFailed u)
      (hsends : sends u = []) (hstatus : message.getStr? "status" = some "failed")
      (hw : (KafkaProducerService.send app topic message).Runs w y) : StatusRun app (u ++ w)

/-- Sending messages calls no connector and records nothing. -/
theorem sending_quiet {topic : String} {message : Json} {x : Except JsError Unit}
    (h : (KafkaProducerService.send app topic message).Runs t x) :
    ¬ Saw Succeeded t ∧ ¬ BookkeepingFailed t := by
  refine ⟨(send_footprint app _ _).not_saw h fun v hv => by rw [hv.area]; decide, ?_⟩
  rintro (⟨status, hsaw⟩ | hsaw)
  · exact (send_footprint app _ _).not_saw h (fun v hv => by rw [hv.area]; decide) hsaw
  · exact (send_footprint app _ _).not_saw h (fun v hv => by rw [hv.area]; decide) hsaw

theorem bookkeepingFailed_append {t₁ t₂ : Trace} :
    BookkeepingFailed (t₁ ++ t₂) ↔ BookkeepingFailed t₁ ∨ BookkeepingFailed t₂ := by
  unfold BookkeepingFailed
  simp only [saw_append, exists_or]
  tauto

theorem StatusRun.unnoticed_iff (hcipher : app.encryption.cipher.Correct) (h : StatusRun app t) :
    StatusAgrees app t ↔ Unnoticed t := by
  unfold StatusAgrees Unnoticed Disturbed
  cases h with
  | @published u s _ _ hhandled hbooks hsends hstatus hs =>
    -- nothing fails, and only the success is published
    have hpub := not_published_of_sends app hsends
    obtain ⟨hsucc, hbooks'⟩ := sending_quiet hs
    have hfaultless : ¬ BookkeepingFailed (u ++ s) := by
      rw [bookkeepingFailed_append]
      tauto
    rcases send_published hcipher hstatus hs with
      ⟨hnone, -⟩ | ⟨-, hone, -, hp⟩ | ⟨e, e', hx, -⟩
    · have hp := not_published_of_sends app hnone
      simp [hhandled, hpub, hp, hfaultless, hsends, hnone]
    · simp [hhandled, hpub, hp, hfaultless, hsends, hone]
    · cases hx
  | @unpublished u s w _ _ _ _ e y hhandled hbooks hsends hstatus hs hstatus' hw =>
    have hpub := not_published_of_sends app hsends
    obtain ⟨hsucc, -⟩ := sending_quiet hs
    rcases send_published hcipher hstatus hs with
      ⟨hnone, hcannot⟩ | ⟨hx, -⟩ | ⟨e', e'', -, hone, -, hp⟩
    · -- nothing can be encoded
      have hp := not_published_of_sends app hnone
      rcases send_published hcipher hstatus' hw with
        ⟨hnone', -⟩ | ⟨-, -, hcan, -⟩ | ⟨_, _, -, -, hcan, -⟩
      · have hp' := not_published_of_sends app hnone'
        simp [hpub, hp, hp', hsends, hnone, hnone']
      · exact absurd hcan (hcannot ⟨e, rfl⟩)
      · exact absurd hcan (hcannot ⟨e, rfl⟩)
    · cases hx
    · rcases send_published hcipher hstatus' hw with
        ⟨hnone', -⟩ | ⟨-, hone', -, hp'⟩ | ⟨_, _, -, hone', -, hp'⟩
      · have hp' := not_published_of_sends app hnone'
        simp [hpub, hp, hp', hsends, hone, hnone']
      · -- the failure is published
        simp [hhandled, hpub, hp, hp', hsends, hone, hone']
      · simp [hpub, hp, hp', hsends, hone, hone']
  | @failed u w _ _ y hfailed hsends hstatus hw =>
    have hpub := not_published_of_sends app hsends
    obtain ⟨hsucc, -⟩ := sending_quiet hw
    rcases send_published hcipher hstatus hw with
      ⟨hnone, -⟩ | ⟨-, hone, -, hp⟩ | ⟨_, _, -, hone, -, hp⟩
    · have hp := not_published_of_sends app hnone
      simp [hpub, hp, hsends, hnone]
    · by_cases hsaw : Saw Succeeded u
      · simp [hsaw, hpub, hp, hsends, hone, bookkeepingFailed_append, hfailed hsaw]
      · simp [hsaw, hsucc, hpub, hp]
    · simp [hpub, hp, hsends, hone]

/-! ### The two handlers -/

theorem process_status {x : Except JsError ConnectorResult}
    (h : (ProcessingService.process app dto).Runs t x) :
    sends t = [] ∧ ((∃ result, x = .ok result) ∧ Saw Succeeded t ∧ ¬ BookkeepingFailed t ∨
      (∃ e, x = .error e) ∧ ¬ Saw Succeeded t) := by
  refine ⟨sends_eq_nil (process_footprint app dto) h (by decide), ?_⟩
  rcases process_runs h with ⟨result, t₁, rfl, rfl, h₁⟩ | ⟨error, y, t₁, t₂, rfl, h₁, h₂, hx⟩
  · have hfoot := executeWithRetry_footprint app dto
    have hupdate : ∀ status, ¬ Saw (UpdateFailed status) t₁ := fun status =>
      hfoot.not_saw h₁ fun v hv => by rw [hv.area]; decide
    have hcount : ¬ Saw CountFailed t₁ := hfoot.not_saw h₁ fun v hv => by rw [hv.area]; decide
    have hsaw := (executeWithRetry_runs h₁).saw_succeeded.2 ⟨result, rfl⟩
    exact Or.inl ⟨⟨result, rfl⟩, by simp [hsaw],
      by simp [BookkeepingFailed, UpdateFailed, CountFailed, hupdate, hcount]⟩
  · have hpark : Footprint (ProcessingService.park app dto error)
        [.targets, .process, .dlqCreate, .dlqCount, .metrics] :=
      ((forTarget_footprint app _).mono (by decide)).bind fun _ =>
        (add_footprint app _).mono (by decide)
    have hnot : ¬ Saw Succeeded t₁ := by
      rw [(executeWithRetry_runs h₁).saw_succeeded]
      rintro ⟨_, ⟨⟩⟩
    have hnot₂ : ¬ Saw Succeeded t₂ := hpark.not_saw h₂ fun v hv => by rw [hv.area]; decide
    refine Or.inr ⟨?_, by simp [Succeeded, hnot, hnot₂]⟩
    rcases hx with ⟨-, m, rfl⟩ | ⟨e, m, -, rfl⟩ <;> exact ⟨_, rfl⟩

theorem processRetry_status {id : String} {x : Except JsError Unit}
    (h : (ProcessingService.processRetry app dto id).Runs t x) :
    sends t = [] ∧ (x = .ok () ∧ Saw Succeeded t ∧ ¬ BookkeepingFailed t ∨
      (∃ e, x = .error e) ∧ (Saw Succeeded t → BookkeepingFailed t)) := by
  refine ⟨sends_eq_nil (processRetry_footprint app dto id) h (by decide), ?_⟩
  have hfoot := executeWithRetry_footprint app dto
  have hbooks : ∀ {u y}, (ProcessingService.executeWithRetry app dto).Runs u y →
      (∀ status, ¬ Saw (UpdateFailed status) u) ∧ ¬ Saw CountFailed u := fun hr =>
    ⟨fun status => hfoot.not_saw hr fun v hv => by rw [hv.area]; decide,
      hfoot.not_saw hr fun v hv => by rw [hv.area]; decide⟩
  -- recording a status fails exactly if one of its two statements does
  have hrecord : ∀ {status error u y}, (DlqService.updateStatus id status error).Runs u y →
      ¬ Saw Succeeded u ∧ (y = .ok () ∧ ¬ BookkeepingFailed u ∨
        (∃ e, y = .error e) ∧ BookkeepingFailed u) := by
    intro status error u y hr
    refine ⟨(updateStatus_footprint _ _ _).not_saw hr fun v hv => by rw [hv.area]; decide, ?_⟩
    rcases updateStatus_runs hr with ⟨e, rfl, rfl⟩ | ⟨w, rfl, hrefresh⟩
    · exact Or.inr ⟨⟨e, rfl⟩, Or.inl ⟨status, by simp [UpdateFailed, statusUpdate]⟩⟩
    have hupdate : ∀ s, ¬ Saw (UpdateFailed s) w := fun s =>
      updateMetrics_footprint.not_saw hrefresh fun v hv => by rw [hv.area]; decide
    rcases updateMetrics_runs hrefresh with ⟨rfl, hcount⟩ | ⟨herror, hcount⟩
    · exact Or.inl ⟨rfl, by simp [BookkeepingFailed, UpdateFailed, CountFailed, hupdate, hcount]⟩
    · exact Or.inr ⟨herror, Or.inr (by simp [hcount])⟩
  have hcounter : ∀ status, ¬ BookkeepingFailed [⟨.recordEvent status dto.targetSystem, ()⟩] := by
    simp [BookkeepingFailed, UpdateFailed, CountFailed]
  cases processRetry_runs h with
  | @resolved t₁ t₂ result hexec hresolve =>
    have hsaw := (executeWithRetry_runs hexec).saw_succeeded.2 ⟨result, rfl⟩
    have hbooks₁ : ¬ BookkeepingFailed t₁ := by simp [BookkeepingFailed, hbooks hexec]
    rcases (hrecord hresolve).2 with ⟨-, hbooks₂⟩ | ⟨⟨_, hx⟩, -⟩
    · refine Or.inl ⟨rfl, by simp [hsaw], ?_⟩
      rw [← List.singleton_append, bookkeepingFailed_append, bookkeepingFailed_append]
      exact not_or.2 ⟨hbooks₁, not_or.2 ⟨hcounter _, hbooks₂⟩⟩
    · cases hx
  | @unresolved t₁ t₂ t₃ result error y e hexec hresolve hmark =>
    rcases (hrecord hresolve).2 with ⟨hx, -⟩ | ⟨-, hbooks₂⟩
    · cases hx
    · refine Or.inr ⟨⟨e, rfl⟩, fun _ => ?_⟩
      rw [← List.singleton_append]
      simp only [bookkeepingFailed_append, hbooks₂, or_true, true_or]
  | @failed t₁ t₂ error y e hexec hmark =>
    refine Or.inr ⟨⟨e, rfl⟩, fun hsaw => ?_⟩
    have hnot : ¬ Saw Succeeded t₁ := by
      rw [(executeWithRetry_runs hexec).saw_succeeded]
      rintro ⟨_, ⟨⟩⟩
    simp [Succeeded, hnot, (hrecord hmark).1] at hsaw

/-- A publication is a send. -/
theorem send_of_publish {message : Json} {x : Except JsError Unit}
    (h : (DispatcherService.publish app message).Runs t x) :
    (KafkaProducerService.send app app.config.eventsOutTopic message).Runs t x := by
  unfold DispatcherService.publish at h
  split at h
  · exact h
  · next hdisabled =>
    unfold KafkaProducerService.send
    rw [if_neg (by rw [app.producer_eq]; exact hdisabled), if_neg hdisabled]
    exact h

theorem dispatchSync_status {x : Except JsError (Option ConnectorResult)}
    (h : (DispatcherService.dispatchSync app dto).Runs t x) : StatusRun app t := by
  rcases runs_tryCatch.1 h with ⟨result, rfl, h'⟩ | ⟨error, t₁, t₂, rfl, h₁, h₂⟩
  · rcases runs_bind.1 h' with ⟨_, hx, -⟩ | ⟨result', t₁, t₂, rfl, h₁, h₂⟩
    · cases hx
    rcases runs_bind.1 h₂ with ⟨_, hx, -⟩ | ⟨u, t₃, t₄, rfl, h₃, rfl, -⟩
    · cases hx
    obtain ⟨hsends, ⟨-, hsaw, hbooks⟩ | ⟨⟨_, hx⟩, -⟩⟩ := process_status h₁
    · rw [List.append_nil]
      exact .published hsaw hbooks hsends rfl (send_of_publish h₃)
    · cases hx
  have hfailure : ∃ y, (KafkaProducerService.send app app.config.eventsOutTopic
      (DispatcherService.failureMessage dto error.message)).Runs t₂ y := by
    rcases runs_bind.1 h₂ with ⟨e, rfl, h'⟩ | ⟨u, t₃, t₄, rfl, h₃, rfl, -⟩
    · exact ⟨_, send_of_publish h'⟩
    · exact ⟨_, by simpa using send_of_publish h₃⟩
  obtain ⟨y, hw⟩ := hfailure
  rcases runs_bind.1 h₁ with ⟨e, -, h'⟩ | ⟨result, t₃, t₄, rfl, h₃, h₄⟩
  · obtain ⟨hsends, ⟨⟨_, hx⟩, -⟩ | ⟨-, hnot⟩⟩ := process_status h'
    · cases hx
    · exact .failed (fun hsaw => absurd hsaw hnot) hsends rfl hw
  obtain ⟨hsends, ⟨-, hsaw, hbooks⟩ | ⟨⟨_, hx⟩, -⟩⟩ := process_status h₃
  · rcases runs_bind.1 h₄ with ⟨e, -, h'⟩ | ⟨_, _, _, -, -, -, hx⟩
    · rw [List.append_assoc]
      exact .unpublished hsaw hbooks hsends rfl (send_of_publish h') rfl hw
    · cases hx
  · cases hx

/-- The handling of a message: of a queued event, or of an item. -/
theorem handle_status {dlqItemId : Option String} {x : Except JsError Unit}
    (h : (KafkaConsumerService.handle app dto dlqItemId).Runs t x) :
    sends t = [] ∧ (x = .ok () ∧ Saw Succeeded t ∧ ¬ BookkeepingFailed t ∨
      (∃ e, x = .error e) ∧ (Saw Succeeded t → BookkeepingFailed t)) := by
  cases dlqItemId with
  | some id => exact processRetry_status h
  | none =>
    rcases runs_bind.1 h with ⟨e, rfl, h'⟩ | ⟨result, t₁, t₂, rfl, h₁, rfl, rfl⟩
    · obtain ⟨hsends, ⟨⟨_, hx⟩, -⟩ | ⟨-, hnot⟩⟩ := process_status h'
      · cases hx
      · exact ⟨hsends, Or.inr ⟨⟨e, rfl⟩, fun hsaw => absurd hsaw hnot⟩⟩
    · obtain ⟨hsends, ⟨-, hsaw, hbooks⟩ | ⟨⟨_, hx⟩, -⟩⟩ := process_status h₁
      · rw [List.append_nil]
        exact ⟨hsends, Or.inl ⟨rfl, hsaw, hbooks⟩⟩
      · cases hx

theorem eachMessage_status {topic : String} {value : Option JsonText} {x : Except JsError Unit}
    (h : (KafkaConsumerService.eachMessage app topic value).Runs t x) : StatusRun app t := by
  rcases runs_tryCatch.1 h with ⟨u, -, h'⟩ | ⟨error, t₁, t₂, rfl, h₁, h₂⟩
  · rcases runs_bind.1 h' with ⟨_, hx, -⟩ | ⟨message, _, t₂, rfl, ⟨rfl, -⟩, h₂⟩
    · cases hx
    rcases runs_bind.1 h₂ with ⟨_, hx, -⟩ | ⟨u', t₃, t₄, rfl, h₃, h₄⟩
    · cases hx
    obtain ⟨hsends, ⟨-, hsaw, hbooks⟩ | ⟨⟨_, hx⟩, -⟩⟩ := handle_status h₃
    · rw [List.nil_append]
      exact .published hsaw hbooks hsends rfl h₄
    · cases hx
  have hfailure : ∃ y, (KafkaProducerService.send app app.config.eventsOutTopic
      (KafkaConsumerService.failureMessage topic error.message)).Runs t₂ y := by
    rcases runs_tryCatch.1 h₂ with ⟨_, -, h'⟩ | ⟨_, u₁, u₂, rfl, h', rfl, -⟩
    · exact ⟨_, h'⟩
    · exact ⟨_, by simpa using h'⟩
  obtain ⟨y, hw⟩ := hfailure
  rcases runs_bind.1 h₁ with ⟨e, -, rfl, -⟩ | ⟨message, _, t₃, rfl, ⟨rfl, -⟩, h₃⟩
  · -- the message cannot be decoded, and no event is handled
    exact .failed (u := []) (fun hsaw => absurd hsaw saw_nil) rfl rfl hw
  rcases runs_bind.1 h₃ with ⟨e, -, h'⟩ | ⟨u', t₄, t₅, rfl, h₄, h₅⟩
  · obtain ⟨hsends, ⟨hx, -⟩ | ⟨-, hbooks⟩⟩ := handle_status h'
    · cases hx
    · exact .failed hbooks hsends rfl hw
  · obtain ⟨hsends, ⟨-, hsaw, hbooks⟩ | ⟨⟨_, hx⟩, -⟩⟩ := handle_status h₄
    · have htrace : ([] ++ (t₄ ++ t₅)) ++ t₂ = t₄ ++ (t₅ ++ t₂) := by simp
      rw [htrace]
      exact .unpublished hsaw hbooks hsends rfl h₅ rfl hw
    · cases hx

/-- What is published agrees with the connector exactly if no failure after a success of the
connector goes on to be published. -/
theorem statusAgrees_iff {handler : StatusHandler} {x : Except JsError Unit}
    (hcipher : app.encryption.cipher.Correct) (h : (handler.program app).Runs t x) :
    StatusAgrees app t ↔ Unnoticed t := by
  refine StatusRun.unnoticed_iff hcipher ?_
  cases handler with
  | dispatch dto =>
    rcases runs_bind.1 h with ⟨e, rfl, h'⟩ | ⟨result, t₁, t₂, rfl, h₁, rfl, rfl⟩
    · exact dispatchSync_status h'
    · simpa using dispatchSync_status h₁
  | message topic value => exact eachMessage_status h

/-- A worker executes an event, and publishes its success. -/
theorem statusAgrees_executed : ∃ t x,
    ((StatusHandler.message "idm.events.in" (some (eventMessage someEvent).stringify)).program
        App.sealed).Runs t x ∧
      Saw Succeeded t ∧ (StatusAgrees App.sealed t ↔ Unnoticed t) := by
  have hrun : ∃ t, ((StatusHandler.message "idm.events.in"
      (some (eventMessage someEvent).stringify)).program App.sealed).Runs t (.ok ()) ∧
        Saw Succeeded t :=
    ⟨_, ⟨some ⟨false, false⟩, _, rfl, .ok none, _, rfl, .ok ⟨true, none, none⟩, _, rfl, (), _, rfl,
      "iv", _, rfl, .ok (), _, rfl, rfl, rfl⟩, by simp [Succeeded]⟩
  obtain ⟨t, h, hsaw⟩ := hrun
  exact ⟨t, _, h, hsaw, statusAgrees_iff Cipher.sealing_correct h⟩

/-- A worker executes an event whose success Kafka does not accept: its failure is published. -/
theorem not_statusAgrees : ∃ t x,
    ((StatusHandler.message "idm.events.in" (some (eventMessage someEvent).stringify)).program
        App.queueing).Runs t x ∧
      ¬ StatusAgrees App.queueing t := by
  refine ⟨_, _, ⟨some ⟨false, false⟩, _, rfl, .ok none, _, rfl, .ok ⟨true, none, none⟩, _, rfl,
    (), _, rfl, .error "leader not available", _, rfl, .ok (), _, rfl, rfl, rfl⟩, fun hagrees => ?_⟩
  have hfailed : Encodes App.queueing.encryption
      (KafkaConsumerService.failureMessage "idm.events.in" "leader not available")
      (KafkaConsumerService.failureMessage "idm.events.in" "leader not available").stringify :=
    ⟨[], rfl, rfl⟩
  refine hagrees.1 (by simp [Succeeded]) ?_
  simp only [saw_cons]
  exact Or.inr (Or.inr (Or.inr (Or.inr (Or.inr (Or.inl ⟨_, hfailed, rfl⟩)))))

end IdmMw
