import IdmMw.Dlq.Queue

/-!
# The item of a retry

When the handler of a retry message, or a retry in the call of an administrator, calls the connector,
it has the item in hand that it was given: it has neither updated nor handed it over yet.

* `handMonitor`, `InHandOnly`: the connector is called only with the given item in hand;
* `handCoupling`: the monitor follows the book that the queue keeps;
* `inHand_of_execute`.
-/

namespace IdmMw

open Async

variable {app : App}

/-- Watches the item that a program was given, and the one it has in hand: the connector is called
only while the two are the same. -/
def handMonitor : Monitor (Option String × Option String) Ans where
  ok q
    | .execute _ => q.2 = q.1
    | _ => True
  next q
    | .dlqItemUpdateMany c, .ok 1, q' => q' = (some c.id, some c.id)
    | .dlqItemUpdate id _, .ok _, q' => q' = (q.1, if q.2 = some id then none else q.2)
    | .producerSend _ _, .ok _, q' => q' = q ∨ q' = (q.1, none)
    | _, _, q' => q' = q

/-- The program does not call `execute`. -/
def Quiet {α : Type} (p : Prog α) : Prop := p.Issues fun r => ∀ payload, r ≠ .execute payload

/-- The program keeps to the monitor if it starts with its item in hand. -/
def InHandOnly {α : Type} (p : Prog α) : Prop :=
  ∀ x : Option String, p.wp handMonitor (fun _ _ => True) (x, x)

section Rules

variable {α β : Type} {r : Prog α}

theorem Footprint.quiet {as : List Area} (h : Footprint r as) (has : .connector ∉ as) : Quiet r := by
  refine Issues.mono h fun r hr payload heq => has ?_
  rw [heq] at hr
  exact hr

theorem Quiet.bind {f : α → Prog β} (h : Quiet r) (hf : ∀ a, Quiet (f a)) : Quiet (r >>= f) :=
  Issues.bind h hf

theorem Quiet.wp (h : Quiet r) (q : Option String × Option String) :
    r.wp handMonitor (fun _ _ => True) q := by
  refine Issues.wp (I := fun _ => True) h (fun q r _ hr => ⟨?_, fun _ _ _ => trivial⟩) trivial
  cases r <;> first | trivial | exact absurd rfl (hr _)

theorem Quiet.inHandOnly (h : Quiet r) : InHandOnly r := fun _ => h.wp _

/-- First what needs the item in hand, then what does not call the connector. -/
theorem InHandOnly.bind_quiet {f : α → Prog β} (h : InHandOnly r) (hf : ∀ a, Quiet (f a)) :
    InHandOnly (r >>= f) := by
  intro x
  refine wp_bind.2 (wp_mono (h x) ?_)
  rintro q (e | a) -
  · trivial
  · exact (hf a).wp q

theorem InHandOnly.tryCatch_quiet {f : JsError → Prog α} (h : InHandOnly r)
    (hf : ∀ e, Quiet (f e)) : InHandOnly (tryCatch r f) := by
  intro x
  refine wp_tryCatch.2 (wp_mono (h x) ?_)
  rintro q (e | a) -
  · exact (hf e).wp q
  · trivial

theorem inHandOnly_settle {x : Except JsError α} : InHandOnly (.settle x) := fun _ => trivial

/-- First what gives the item away in no way, then what needs it in hand. -/
theorem Footprint.bind_inHandOnly {as : List Area} {f : α → Prog β} (h : Footprint r as)
    (has : .connector ∉ as ∧ .dlqClaim ∉ as ∧ .dlqUpdate ∉ as ∧ .kafka ∉ as)
    (hf : ∀ a, InHandOnly (f a)) : InHandOnly (r >>= f) := by
  intro x
  refine wp_bind.2 (wp_mono (Issues.wp (I := fun q => q = (x, x)) h ?_ rfl) ?_)
  · rintro _ r rfl hr
    cases r <;> first
      | exact ⟨trivial, fun _ _ hq => hq⟩
      | exact absurd hr has.1
      | exact absurd hr has.2.1
      | exact absurd hr has.2.2.1
      | exact absurd hr has.2.2.2
  · rintro _ (e | a) rfl
    · trivial
    · exact hf a x

end Rules

/-- The retry loop keeps the item in hand. -/
theorem executeWithRetry_inHandOnly (dto : ProcessingPayload) :
    InHandOnly (ProcessingService.executeWithRetry app dto) := by
  intro x
  refine wp_mono (Q := fun q _ => q = (x, x)) ?_ fun _ _ _ => trivial
  refine Issues.wp (I := fun q => q = (x, x)) (executeWithRetry_footprint app dto) ?_ rfl
  rintro _ r rfl hr
  cases r <;> first
    | exact ⟨trivial, fun _ _ hq => hq⟩
    | exact ⟨rfl, fun _ _ hq => hq⟩
    | simp [Req.area] at hr

theorem updateStatus_quiet (id : String) (status : DlqStatus) (error : Option String) :
    Quiet (DlqService.updateStatus id status error) :=
  (updateStatus_footprint _ _ _).quiet (by decide)

theorem send_quiet (topic : String) (message : Json) :
    Quiet (KafkaProducerService.send app topic message) :=
  (send_footprint app _ _).quiet (by decide)

theorem recordEvent_quiet (status : EventStatus) (name : String) : Quiet (recordEvent status name) :=
  (footprint_request (by simp [Req.area]) : Footprint _ [.metrics]).quiet (by decide)

theorem process_inHandOnly (dto : ProcessingPayload) :
    InHandOnly (ProcessingService.process app dto) := by
  refine InHandOnly.tryCatch_quiet ?_ fun error => ?_
  · exact (executeWithRetry_inHandOnly dto).bind_quiet fun _ =>
      Quiet.bind (recordEvent_quiet _ _) fun _ => issues_pure
  · refine Quiet.bind (recordEvent_quiet _ _) fun _ =>
      Issues.bind (Issues.tryCatch ?_ fun _ => issues_throw) fun _ => issues_throw
    exact Quiet.bind ((forTarget_footprint app _).quiet (by decide)) fun _ =>
      (add_footprint app _).quiet (by decide)

theorem processRetry_inHandOnly (dto : ProcessingPayload) (dlqItemId : String) :
    InHandOnly (ProcessingService.processRetry app dto dlqItemId) := by
  refine InHandOnly.tryCatch_quiet ?_ fun error => ?_
  · exact (executeWithRetry_inHandOnly dto).bind_quiet fun _ =>
      Quiet.bind (recordEvent_quiet _ _) fun _ => updateStatus_quiet _ _ _
  · exact Quiet.bind (recordEvent_quiet _ _) fun _ =>
      Quiet.bind (updateStatus_quiet _ _ _) fun _ => issues_throw

theorem retryItem_inHandOnly (item : DlqItem) : InHandOnly (AdminService.retryItem app item) := by
  refine (footprint_settle : Footprint _ []).bind_inHandOnly (by decide) fun payload => ?_
  dsimp only
  split
  · exact (send_quiet _ _).inHandOnly
  · exact processRetry_inHandOnly _ _

/-- Whatever a slot had in hand, it has the item in hand that it has just claimed. -/
theorem retry_wp (id : String) (q : Option String × Option String) :
    (DlqService.retry app id).wp handMonitor (fun q x => x = .ok true → q.2 = q.1) q := by
  have hquiet : ∀ {α : Type} {r : Prog α} (as : List Area) {f : α → Prog Bool}
      {q : Option String × Option String}, Footprint r as → .connector ∉ as →
      (∀ a q, (f a).wp handMonitor (fun q x => x = .ok true → q.2 = q.1) q) →
      (r >>= f).wp handMonitor (fun q x => x = .ok true → q.2 = q.1) q := by
    intro α r as f q h has hf
    refine wp_bind.2 (wp_mono ((h.quiet has).wp q) ?_)
    rintro q (e | a) -
    · rintro ⟨⟩
    · exact hf a q
  refine hquiet [.dlqRead] (footprint_request (by simp [Req.area])) (by decide)
    fun targetSystem q => ?_
  refine hquiet [.targets] ?_ (by decide) fun effectiveLeaseSeconds q => ?_
  · cases targetSystem with
    | none => exact footprint_pure
    | some targetSystem => exact (forTarget_footprint app _).bind fun _ => footprint_pure
  refine hquiet [.clock] (footprint_request (by simp [Req.area])) (by decide) fun date q => ?_
  refine hquiet [.clock] (footprint_request (by simp [Req.area])) (by decide)
    fun dateNow q => ?_
  refine wp_bind.2 ⟨trivial, ?_⟩
  rintro (e | count) q' hnext
  · rintro ⟨⟩
  show Async.wp handMonitor (if count = 1 then _ else _) _ q'
  split
  · next hcount =>
    subst hcount
    obtain rfl : q' = (some id, some id) := hnext
    refine wp_bind.2 (wp_mono (Issues.wp (I := fun q => q = (some id, some id))
      updateMetrics_footprint ?_ rfl) ?_)
    · rintro _ r rfl hr
      cases r <;> first
        | exact ⟨trivial, fun _ _ hq => hq⟩
        | simp [Req.area] at hr
    · rintro _ (e | u) rfl
      · rintro ⟨⟩
      · exact fun _ => rfl
  · rintro ⟨⟩

theorem retryItems_wp (items : List DlqItem) (acc : RetryManyResult)
    (q : Option String × Option String) :
    (AdminService.retryItems app items acc).wp handMonitor (fun _ _ => True) q := by
  induction items generalizing acc q with
  | nil => trivial
  | cons item items ih =>
    refine wp_bind.2 (wp_mono (Q := fun _ _ => True) ?_ ?_)
    · refine wp_tryCatch.2 (wp_mono (Q := fun _ _ => True) ?_ ?_)
      · refine wp_bind.2 (wp_mono (Q := fun _ _ => True) ?_ ?_)
        · refine wp_bind.2 (wp_mono (retry_wp item.id q) ?_)
          rintro ⟨given, hand⟩ (e | claimed) hclaimed
          · trivial
          cases claimed with
          | false => trivial
          | true =>
            obtain rfl : hand = given := hclaimed rfl
            exact ((retryItem_inHandOnly item).bind_quiet fun _ => issues_pure) hand
        · rintro q (e | queued) - <;> trivial
      · rintro q (e | acc) - <;> trivial
    · rintro q (e | acc) -
      · trivial
      · exact ih acc q

theorem eachMessage_inHandOnly (topic : String) (value : Option JsonText) :
    InHandOnly (KafkaConsumerService.eachMessage app topic value) := by
  refine InHandOnly.tryCatch_quiet ?_ fun _ => Issues.tryCatch (send_quiet _ _) fun _ => issues_pure
  refine (footprint_settle : Footprint _ []).bind_inHandOnly (by decide) fun message => ?_
  refine InHandOnly.bind_quiet ?_ fun _ => send_quiet _ _
  obtain ⟨payload, dlqItemId⟩ := message
  cases dlqItemId with
  | none => exact (process_inHandOnly payload).bind_quiet fun _ => issues_pure
  | some dlqItemId => exact processRetry_inHandOnly payload dlqItemId

theorem job_inHandOnly (job : DlqJob) : InHandOnly (job.program app) := by
  cases job with
  | process dto => exact (process_inHandOnly dto).bind_quiet fun _ => issues_pure
  | add item => exact ((add_footprint app item).quiet (by decide)).inHandOnly
  | retry id =>
    intro x
    refine wp_bind.2 (wp_mono (retry_wp id _) ?_)
    rintro q (e | claimed) - <;> trivial
  | skip id | resolve id | markRetryFailed id error => exact (updateStatus_quiet _ _ _).inHandOnly
  | adminRetry id =>
    intro x
    refine wp_bind.2 (wp_mono (retry_wp id _) ?_)
    rintro ⟨given, hand⟩ (e | claimed) hclaimed
    · trivial
    cases claimed with
    | false => trivial
    | true =>
      obtain rfl : hand = given := hclaimed rfl
      refine Footprint.bind_inHandOnly
        (footprint_request (by simp [Req.area]) : Footprint _ [.dlqRead]) (by decide)
        (fun item => ?_) hand
      refine InHandOnly.bind_quiet ?_ fun _ => updateMetrics_footprint.quiet (by decide)
      cases item with
      | none => exact inHandOnly_settle
      | some item => exact retryItem_inHandOnly item
  | adminRetryMany params =>
    intro x
    refine wp_bind.2 (wp_mono (Q := fun _ _ => True) ?_ ?_)
    · unfold AdminService.retryMany
      split
      · trivial
      · refine wp_bind.2 ⟨trivial, ?_⟩
        rintro (e | items) q -
        · trivial
        refine wp_bind.2 (wp_mono (retryItems_wp items _ q) ?_)
        rintro q (e | result) -
        · trivial
        · exact (Quiet.bind (updateMetrics_footprint.quiet (by decide)) fun _ => issues_pure).wp q
    · rintro q (e | result) - <;> trivial
  | adminSkip id =>
    exact (Quiet.bind (updateStatus_quiet _ _ _) fun _ =>
      updateMetrics_footprint.quiet (by decide)).inHandOnly

/-! ### The book -/

variable {ι : Type} [DecidableEq ι]

theorem handMonitor_next_same {q : Option String × Option String} {v : Ev}
    (hclaim : ∀ c, v ≠ ⟨.dlqItemUpdateMany c, .ok 1⟩)
    (hupdate : ∀ id data, v ≠ ⟨.dlqItemUpdate id data, .ok ()⟩) :
    handMonitor.next q v.req v.ans q := by
  obtain ⟨r, a⟩ := v
  unfold handMonitor
  dsimp only
  split
  · exact absurd rfl (hclaim _)
  · exact absurd rfl (hupdate _ _)
  · exact Or.inl rfl
  · rfl

/-- The monitor of a slot follows what the queue keeps book of. -/
theorem handCoupling (app : App) : (dlqSystem ι app).Coupling handMonitor (fun _ _ _ => True)
    (fun i s q => q = (s.subject i, (s.hand i).map Hand.id)) where
  own := by
    rintro i s _ r a s' rfl _ henv
    refine ⟨_, ?_, rfl⟩
    cases DlqEnv.effect henv with
    | none hclaim hupdate => exact handMonitor_next_same hclaim hupdate
    | @create _ data _ =>
      exact handMonitor_next_same (v := ⟨.dlqItemCreate data, .ok ()⟩) (by simp) (by simp)
    | claim _ _ => simp [handMonitor, DlqState.claim]
    | @update id data item _ =>
      by_cases hid : (s.hand i).map Hand.id = some id
      · simp [handMonitor, DlqState.update, hid]
      · simp [handMonitor, DlqState.update, hid]
    | send => exact Or.inr (by simp [DlqState.send])
  other := by
    rintro i j s _ _ r a s' hij rfl _ _ henv
    cases DlqEnv.effect henv with
    | none _ _ | create _ => rfl
    | claim _ _ => simp [DlqState.claim, hij]
    | update _ =>
      unfold DlqState.update
      dsimp only
      split <;> simp [hij]
    | send => simp [DlqState.send, hij]
  start := by
    intro i s p s' hstart
    cases hstart with
    | job job => exact ⟨_, rfl, by simpa using job_inHandOnly job none⟩
    | @deliver raw sent _ =>
      refine ⟨_, rfl, ?_⟩
      simpa [handOf_id] using
        eachMessage_inHandOnly app.config.retryTopic (some raw) (namedItem app raw)
  start_other := by
    rintro i j s _ p s' hij rfl hstart
    cases hstart <;> simp [hij]
  tick := by
    rintro i s _ s' rfl ht
    cases ht
    rfl

/-- A retry that calls the connector has its item in hand. -/
theorem inHand_of_execute {d : DlqState ι} {es : List (DlqEntry ι)} {p : DlqPool ι} {e : DlqEntry ι}
    (h : (dlqSystem ι app).Exec (.idle d) es p) (he : e ∈ es) {i : ι} {payload : ConnectorPayload}
    {answer : Except JsError ConnectorResult} (hl : e.label = .call i ⟨.execute payload, answer⟩) :
    (e.before.shared.hand i).map Hand.id = e.before.shared.subject i := by
  have hstep := h.step_of_mem he
  rw [hl] at hstep
  obtain ⟨q, rfl, hok⟩ := ((handCoupling app).watched_before h he).ok hstep
  exact hok

end IdmMw
