import IdmMw.Pipeline.Traces

/-!
# Messages of the asynchronous mode

A worker that handles a message should resolve, and so let the broker forget the message, only if
the event of the message was executed or stored as a DLQ item (`NoLoss`).

* `Enqueued`: the texts that a dispatcher sends to the topic of incoming events;
* `decode_of_enqueued`: a worker that can decode such a text gets the event back;
* `eachMessage_runs`: the handler always resolves.

`eachMessage` catches every error, publishes it, and resolves. The errors that `process` marks as
not durably accepted are lost there; and so are messages that cannot be decoded.
-/

namespace IdmMw

open Async

/-! ### The law -/

/-- The event was executed or stored, or the message comes again. -/
def NoLoss (dto : ProcessingPayload) (t : Trace) (x : Except JsError Unit) : Prop :=
  (x = .ok () → Saw (Executed dto) t ∨ Saw (Stored dto) t) ∧
    (¬ (Saw (Executed dto) t ∨ Saw (Stored dto) t) → ∃ e, x = .error e)

/-- The worker can decode the message, the last configuration it looks up is readable, and the
database takes the item. -/
def Handled (app : App) (raw : JsonText) (t : Trace) : Prop :=
  (∃ message, KafkaConsumerService.decode app (some raw) = .ok message) ∧
    Readable app t ∧ ¬ Saw CreateFailed t

/-! ### Encoding and decoding -/

/-- A text that decrypts at all decrypts to what was encrypted: the tag authenticates it. -/
def Cipher.Authentic (cipher : Cipher) : Prop :=
  ∀ key iv text key' plaintext,
    cipher.decrypt key' iv (cipher.encrypt key iv text).1 (cipher.encrypt key iv text).2 =
      .ok plaintext → plaintext = text

/-- The asynchronous dispatcher of `dispatcher` sends `raw` for the event. -/
def Enqueued (dispatcher : App) (dto : ProcessingPayload) (raw : JsonText) : Prop :=
  ∃ t x answer, (DispatcherService.dispatchAsync dispatcher dto).Runs t x ∧
    ⟨.producerSend dispatcher.config.eventsInTopic raw, answer⟩ ∈ t

variable {app dispatcher : App} {dto : ProcessingPayload} {raw : JsonText} {t : Trace}

theorem payloadOf_eventMessage : payloadOf (eventMessage dto) = some dto := by
  simp [payloadOf, eventMessage, Json.getStr?, List.lookup_cons]

theorem dlqItemIdOf_eventMessage : dlqItemIdOf (eventMessage dto) = none := by
  simp [dlqItemIdOf, eventMessage, Json.getStr?, List.lookup_cons]

theorem envelope?_eventMessage : EncryptionService.envelope? (eventMessage dto) = none := by
  simp [EncryptionService.envelope?, eventMessage, Json.getStr?, List.lookup_cons]

/-- A text that goes to a topic was encoded for it. -/
theorem sent_of_dispatchAsync {x : Except JsError (Option ConnectorResult)}
    {answer : Except String Unit} {topic : String}
    (h : (DispatcherService.dispatchAsync app dto).Runs t x)
    (hmem : ⟨.producerSend topic raw, answer⟩ ∈ t) :
    ∃ u, (app.encryption.encodeKafkaMessage (eventMessage dto)).Runs u (.ok raw) := by
  have hsend : ∀ {u y}, (KafkaProducerService.send app app.config.eventsInTopic
      (eventMessage dto)).Runs u y → ⟨.producerSend topic raw, answer⟩ ∈ u →
      ∃ u, (app.encryption.encodeKafkaMessage (eventMessage dto)).Runs u (.ok raw) := by
    intro u y hr hmem
    have hquiet : ∀ {w z}, (app.encryption.encodeKafkaMessage (eventMessage dto)).Runs w z →
        ⟨.producerSend topic raw, answer⟩ ∉ w := by
      intro w z hr hmem
      have harea := Issues.of_runs (encodeKafkaMessage_footprint _ _) hr _ hmem
      simp [Req.area] at harea
    unfold KafkaProducerService.send at hr
    split at hr
    · rcases runs_bind.1 hr with ⟨e, rfl, h'⟩ | ⟨raw', u₁, u₂, rfl, h₁, h₂⟩
      · exact absurd hmem (hquiet h')
      · obtain ⟨a, rfl, -⟩ := runs_request.1 h₂
        rcases List.mem_append.1 hmem with hmem | hmem
        · exact absurd hmem (hquiet h₁)
        · obtain ⟨⟨-, rfl⟩, -⟩ := by simpa using hmem
          exact ⟨u₁, h₁⟩
    · split at hr
      · rw [hr.1] at hmem
        cases hmem
      · rw [hr.1] at hmem
        cases hmem
  unfold DispatcherService.dispatchAsync at h
  split at h
  · rcases runs_bind.1 h with ⟨e, rfl, h'⟩ | ⟨u, t₁, t₂, rfl, h₁, rfl, rfl⟩
    · exact hsend h' hmem
    · exact hsend h₁ (by simpa using hmem)
  · rw [h.1] at hmem
    cases hmem

/-- A queued text is the message of the event, in plain or in an envelope. -/
theorem Enqueued.form (h : Enqueued dispatcher dto raw) :
    raw = (eventMessage dto).stringify ∨ ∃ kid key iv,
      raw = (EncryptionService.envelope kid iv
        (dispatcher.encryption.cipher.encrypt key iv (eventMessage dto).stringify).1
        (dispatcher.encryption.cipher.encrypt key iv (eventMessage dto).stringify).2).stringify := by
  obtain ⟨t, x, answer, hrun, hmem⟩ := h
  obtain ⟨u, hencode⟩ := sent_of_dispatchAsync hrun hmem
  rcases encoded_form hencode with ⟨-, hraw⟩ | ⟨-, kid, key, iv, -, -, hraw⟩
  · exact Or.inl hraw
  · exact Or.inr ⟨kid, key, iv, hraw⟩

/-- What a worker makes of a queued text, if anything, is the message of the event. -/
theorem decodeKafkaMessage_of_enqueued (h : Enqueued dispatcher dto raw)
    (hcipher : dispatcher.encryption.cipher = app.encryption.cipher)
    (hauth : app.encryption.cipher.Authentic) {value : Json}
    (hvalue : app.encryption.decodeKafkaMessage raw = .ok value) : value = eventMessage dto := by
  unfold EncryptionService.decodeKafkaMessage at hvalue
  rcases h.form with rfl | ⟨kid, key, iv, rfl⟩
  · simpa [Json.stringify, JsonText.parse, envelope?_eventMessage, eq_comm] using hvalue
  · simp only [Json.stringify, JsonText.parse, EncryptionService.envelope?_envelope, hcipher]
      at hvalue
    unfold EncryptionService.decryptObject at hvalue
    split at hvalue
    · cases hvalue
    · next key' _ =>
      split at hvalue
      · cases hvalue
      · next plaintext hplain =>
        obtain rfl := hauth _ _ _ _ _ hplain
        exact (Except.ok.inj hvalue).symm

/-- What a worker can decode of the queued texts is the event, and names no DLQ item. -/
theorem decode_of_enqueued (h : Enqueued dispatcher dto raw)
    (hcipher : dispatcher.encryption.cipher = app.encryption.cipher)
    (hauth : app.encryption.cipher.Authentic) {message : ProcessingPayload × Option String}
    (hdecode : KafkaConsumerService.decode app (some raw) = .ok message) : message = (dto, none) := by
  unfold KafkaConsumerService.decode at hdecode
  rw [Option.getD_some] at hdecode
  split at hdecode
  · cases hdecode
  · next value hvalue =>
    obtain rfl := decodeKafkaMessage_of_enqueued h hcipher hauth hvalue
    rw [payloadOf_eventMessage, dlqItemIdOf_eventMessage] at hdecode
    exact (Except.ok.inj hdecode).symm

/-! ### The handler -/

/-- Whatever happens, the handler resolves. -/
theorem eachMessage_resolves {topic : String} {x : Except JsError Unit}
    (h : (KafkaConsumerService.eachMessage app topic (some raw)).Runs t x) : x = .ok () := by
  rcases runs_tryCatch.1 h with ⟨u, rfl, -⟩ | ⟨error, t₁, t₂, rfl, -, h₂⟩
  · rfl
  · rcases runs_tryCatch.1 h₂ with ⟨u, rfl, -⟩ | ⟨_, _, _, -, -, -, rfl⟩ <;> rfl

/-- Only sending messages. -/
def Sending (t : Trace) : Prop := ∀ v ∈ t, v.req.area ∈ [.process, .kafka]

theorem Sending.append {t₁ t₂ : Trace} (h₁ : Sending t₁) (h₂ : Sending t₂) : Sending (t₁ ++ t₂) := by
  intro v hv
  exact (List.mem_append.1 hv).elim (h₁ v) (h₂ v)

theorem sending_of_send {topic : String} {message : Json} {x : Except JsError Unit}
    (h : (KafkaProducerService.send app topic message).Runs t x) : Sending t :=
  Issues.of_runs (send_footprint app _ _) h

/-- The handler handles the message, if it can decode it; the rest is status messages. -/
theorem eachMessage_runs {topic : String} {x : Except JsError Unit}
    (h : (KafkaConsumerService.eachMessage app topic (some raw)).Runs t x) :
    ((∃ e, KafkaConsumerService.decode app (some raw) = .error e) ∧ Sending t) ∨
      ∃ message y t₁ t₂, KafkaConsumerService.decode app (some raw) = .ok message ∧
        t = t₁ ++ t₂ ∧ (KafkaConsumerService.handle app message.1 message.2).Runs t₁ y ∧
        Sending t₂ := by
  rcases runs_tryCatch.1 h with ⟨u, -, h'⟩ | ⟨error, t₁, t₂, rfl, h₁, h₂⟩
  · rcases runs_bind.1 h' with ⟨_, hx, -⟩ | ⟨message, _, t₂, rfl, ⟨rfl, hdecode⟩, h₂⟩
    · cases hx
    rcases runs_bind.1 h₂ with ⟨_, hx, -⟩ | ⟨u', t₃, t₄, rfl, h₃, h₄⟩
    · cases hx
    exact Or.inr ⟨message, _, t₃, t₄, hdecode.symm, rfl, h₃, sending_of_send h₄⟩
  have hfailure : Sending t₂ := by
    rcases runs_tryCatch.1 h₂ with ⟨_, -, h'⟩ | ⟨_, u₁, u₂, rfl, h', rfl, -⟩
    · exact sending_of_send h'
    · simpa using sending_of_send h'
  rcases runs_bind.1 h₁ with ⟨e, -, rfl, hdecode⟩ | ⟨message, _, t₃, rfl, ⟨rfl, hdecode⟩, h₃⟩
  · exact Or.inl ⟨⟨e, hdecode.symm⟩, hfailure⟩
  rcases runs_bind.1 h₃ with ⟨e, -, h'⟩ | ⟨u', t₄, t₅, rfl, h₄, h₅⟩
  · exact Or.inr ⟨message, _, t₃, t₂, hdecode.symm, rfl, h', hfailure⟩
  · refine Or.inr ⟨message, _, t₄, t₅ ++ t₂, hdecode.symm, by simp, h₄, ?_⟩
    exact (sending_of_send h₅).append hfailure

theorem Sending.not_saw {P : Ev → Prop} {as : Area} (h : Sending t) (hP : ∀ v, P v → v.req.area = as)
    (has : as ∉ [Area.process, .kafka]) : ¬ Saw P t := by
  rintro ⟨v, hv, hPv⟩
  exact has (hP v hPv ▸ h v hv)

theorem Sending.lookups_eq_nil (h : Sending t) : lookups t = [] := by
  refine List.filterMap_eq_nil_iff.2 fun v hv => ?_
  by_contra hne
  have harea := h v hv
  unfold lookup? at hne
  split at hne
  · simp [Req.area] at harea
  · exact hne rfl

/-- The handler loses no queued event exactly if it can decode the message, read the configuration
it looks up last, and store the item if it comes to that. -/
theorem noLoss_iff {topic : String} {x : Except JsError Unit}
    (h : (KafkaConsumerService.eachMessage app topic (some raw)).Runs t x)
    (henqueued : Enqueued dispatcher dto raw)
    (hcipher : dispatcher.encryption.cipher = app.encryption.cipher)
    (hauth : app.encryption.cipher.Authentic) :
    NoLoss dto t x ↔ Handled app raw t := by
  obtain rfl := eachMessage_resolves h
  have hlaw : NoLoss dto t (.ok ()) ↔ Saw (Executed dto) t ∨ Saw (Stored dto) t := by
    constructor
    · exact fun hlaw => hlaw.1 rfl
    · exact fun hfate => ⟨fun _ => hfate, fun hno => absurd hfate hno⟩
  rw [hlaw]
  unfold Handled
  rcases eachMessage_runs h with ⟨⟨e, hdecode⟩, hsend⟩ | ⟨message, y, t₁, t₂, hdecode, rfl, h₁, hsend⟩
  · have hexec : ¬ Saw (Executed dto) t := hsend.not_saw (fun _ => Executed.area) (by decide)
    have hstored : ¬ Saw (Stored dto) t := hsend.not_saw (fun _ => Stored.area) (by decide)
    simp [hdecode, hexec, hstored]
  obtain rfl := decode_of_enqueued henqueued hcipher hauth hdecode
  have hprocess : ∃ z, (ProcessingService.process app dto).Runs t₁ z := by
    rcases runs_bind.1 h₁ with ⟨e, -, h'⟩ | ⟨result, u₁, u₂, rfl, h', rfl, -⟩
    · exact ⟨_, h'⟩
    · exact ⟨_, by simpa using h'⟩
  obtain ⟨z, hz⟩ := hprocess
  have hexec : ¬ Saw (Executed dto) t₂ := hsend.not_saw (fun _ => Executed.area) (by decide)
  have hstored : ¬ Saw (Stored dto) t₂ := hsend.not_saw (fun _ => Stored.area) (by decide)
  have hcreate : ¬ Saw CreateFailed t₂ := hsend.not_saw (fun _ => CreateFailed.area) (by decide)
  have hread : Readable app (t₁ ++ t₂) ↔ Readable app t₁ := by
    simp [Readable, hsend.lookups_eq_nil]
  simp only [hdecode, Except.ok.injEq, exists_eq', true_and, saw_append, hexec, hstored, hcreate,
    or_false, hread]
  cases process_outcome hz with
  | executed hexec _ hcreate hread => exact iff_of_true (Or.inl hexec) ⟨hread, hcreate⟩
  | parked _ hstored _ hcreate hread => exact iff_of_true (Or.inr hstored) ⟨hread, hcreate⟩
  | lost hexec _ hstored =>
    rw [or_iff_right hexec, hstored]
    exact and_comm

/-! ### A queued event -/

theorem enqueued_someEvent : Enqueued App.queueing someEvent (eventMessage someEvent).stringify :=
  ⟨[⟨.producerSend "idm.events.in" (eventMessage someEvent).stringify, .ok ()⟩], _, .ok (),
    ⟨_, _, rfl, rfl, rfl⟩, by simp [App.queueing, App.bare, Config.eventsInTopic]⟩

/-- A worker executes the event. -/
theorem noLoss_executed : ∃ t,
    (KafkaConsumerService.eachMessage App.queueing "idm.events.in"
        (some (eventMessage someEvent).stringify)).Runs t (.ok ()) ∧
      NoLoss someEvent t (.ok ()) := by
  have hrun : (KafkaConsumerService.eachMessage App.queueing "idm.events.in"
      (some (eventMessage someEvent).stringify)).Runs
      [⟨.registryGet "target", some ⟨false, false⟩⟩, ⟨.targetSystemConfig "target", .ok none⟩,
        ⟨.execute someEvent.toConnector, .ok ⟨true, none, none⟩⟩,
        ⟨.recordEvent .success "target", ()⟩,
        ⟨.producerSend "idm.events.out"
          (KafkaConsumerService.successMessage "idm.events.in" someEvent).stringify, .ok ()⟩]
      (.ok ()) :=
    ⟨_, _, rfl, _, _, rfl, _, _, rfl, _, _, rfl, _, _, rfl, rfl, rfl⟩
  refine ⟨_, hrun, (noLoss_iff hrun enqueued_someEvent rfl ?_).2 ⟨⟨_, rfl⟩, ?_, ?_⟩⟩
  · rintro _ _ _ _ _ ⟨⟩
  · intro answer hlast
    obtain rfl : .ok none = answer := Option.some.inj hlast
    exact ⟨_, rfl⟩
  · simp [CreateFailed]

/-- A worker cannot store the item of a failed event, and resolves. -/
theorem not_noLoss : ∃ t,
    (KafkaConsumerService.eachMessage App.queueing "idm.events.in"
        (some (eventMessage someEvent).stringify)).Runs t (.ok ()) ∧
      Enqueued App.queueing someEvent (eventMessage someEvent).stringify ∧
      ¬ NoLoss someEvent t (.ok ()) := by
  have hrun : (KafkaConsumerService.eachMessage App.queueing "idm.events.in"
      (some (eventMessage someEvent).stringify)).Runs
      [⟨.registryGet "target", some ⟨false, false⟩⟩, ⟨.targetSystemConfig "target", .ok none⟩,
        ⟨.execute someEvent.toConnector, .ok ⟨false, none, some "rejected"⟩⟩,
        ⟨.recordConnectorError "target" "user.create", ()⟩, ⟨.recordEvent .failed "target", ()⟩,
        ⟨.targetSystemConfig "target", .ok none⟩,
        ⟨.dlqItemCreate
          ⟨"event-1", "user.create", "target", .native (.obj []), "rejected", 3, .pending⟩,
          .error (.error "timeout")⟩,
        ⟨.producerSend "idm.events.out" (KafkaConsumerService.failureMessage "idm.events.in"
          "Processing failed before durable DLQ acceptance: timeout").stringify, .ok ()⟩]
      (.ok ()) :=
    ⟨_, _, rfl, _, _, rfl, _, _, rfl, _, _, rfl, _, _, rfl, _, _, rfl, _, _, rfl, _, _, rfl, rfl, rfl⟩
  refine ⟨_, hrun, enqueued_someEvent, fun hlaw => ?_⟩
  have hfate := hlaw.1 rfl
  simp [Executed, Stored] at hfate

end IdmMw
