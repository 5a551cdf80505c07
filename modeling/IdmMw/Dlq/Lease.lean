import IdmMw.Dlq.Queue

/-!
# The lease of a DLQ item

In every reachable state of the queue an item is locked exactly while it is being retried, its retry
count has grown by one with every granted claim, and a claim takes an item over only when the
previous claim was given back by a failed retry or is older than the lease of the claimer.

* `dlqMonitor`, `Safe`: what every program of the queue keeps to: it updates items only to states
  without a lock, and claims them with instants it has read from the clock;
* `leaseInv_of_exec`, `retryCount_of_exec`, `claims_apart_of_exec`: the three invariants;
* `lease_invariants`: all together.

A claim is dated by the instant it writes into `lockedAt`.
-/

namespace IdmMw

open Async

/-! ### What the programs keep to -/

/-- Watches the instants a program has read: a claim must carry instants that have passed. -/
def dlqMonitor : Monitor Time Ans where
  ok q
    | .dlqItemCreate data => data.status = .pending
    | .dlqItemUpdateMany c => c.now ≤ c.dateNow ∧ c.dateNow ≤ q
    | .dlqItemUpdate _ data =>
      data.status ≠ .retrying ∧ data.lockedAt = none ∧ data.lockedBy = none
    | _ => True
  next q
    | .now, date, q' => q ≤ date ∧ q' = date
    | _, _, q' => q' = q

/-- The program keeps to the monitor from any state of it. -/
def Safe {α : Type} (p : Prog α) : Prop := ∀ q, p.wp dlqMonitor (fun _ _ => True) q

section Rules

variable {α β : Type} {p : Prog α}

theorem Safe.bind {f : α → Prog β} (h : Safe p) (hf : ∀ a, Safe (f a)) : Safe (p >>= f) := by
  intro q
  refine wp_bind.2 (wp_mono (h q) ?_)
  rintro q' (e | a) -
  · trivial
  · exact hf a q'

theorem Safe.tryCatch {f : JsError → Prog α} (h : Safe p) (hf : ∀ e, Safe (f e)) :
    Safe (tryCatch p f) := by
  intro q
  refine wp_tryCatch.2 (wp_mono (h q) ?_)
  rintro q' (e | a) -
  · exact hf e q'
  · trivial

theorem safe_settle {x : Except JsError α} : Safe (.settle x) := fun _ => trivial

theorem safe_pure {a : α} : Safe (pure a) := fun _ => trivial

theorem safe_throw {e : JsError} : Safe (throw e : Prog α) := fun _ => trivial

/-- What does not write to the table is safe. -/
theorem Footprint.safe {as : List Area} (h : Footprint p as)
    (has : .dlqCreate ∉ as ∧ .dlqClaim ∉ as ∧ .dlqUpdate ∉ as) : Safe p := by
  intro q
  refine Issues.wp (I := fun _ => True) h (fun q r _ hr => ⟨?_, fun _ _ _ => trivial⟩) trivial
  cases r <;>
    first | trivial | exact absurd hr has.1 | exact absurd hr has.2.1 | exact absurd hr has.2.2

end Rules

variable {app : App}

theorem add_safe (item : DlqItemData) : Safe (DlqService.add app item) :=
  ((toJson_footprint app _).safe (by decide)).bind fun _ =>
    Safe.bind (fun _ => ⟨rfl, fun _ _ _ => trivial⟩) fun _ => updateMetrics_footprint.safe (by decide)

theorem updateStatus_safe {status : DlqStatus} (hstatus : status ≠ .retrying) (id : String)
    (error : Option String) : Safe (DlqService.updateStatus id status error) :=
  Safe.bind (fun _ => ⟨⟨hstatus, rfl, rfl⟩, fun _ _ _ => trivial⟩) fun _ =>
    updateMetrics_footprint.safe (by decide)

theorem retry_safe (id : String) : Safe (DlqService.retry app id) := by
  refine Safe.bind (fun _ => ⟨trivial, fun _ _ _ => trivial⟩) fun targetSystem => ?_
  refine Safe.bind ?_ fun effectiveLeaseSeconds => ?_
  · cases targetSystem with
    | none => exact safe_pure
    | some targetSystem =>
      exact ((forTarget_footprint app _).safe (by decide)).bind fun _ => safe_pure
  · -- the two readings of the clock come right before the claim
    intro q
    refine wp_bind.2 ⟨trivial, ?_⟩
    rintro date _ ⟨-, rfl⟩
    refine wp_bind.2 ⟨trivial, ?_⟩
    rintro dateNow _ ⟨hle, rfl⟩
    refine wp_bind.2 ⟨⟨hle, le_rfl⟩, ?_⟩
    rintro (e | count) q' -
    · trivial
    show Async.wp dlqMonitor (if count = 1 then _ else _) _ q'
    split
    · exact (updateMetrics_footprint.safe (by decide)).bind (fun _ => safe_pure) q'
    · trivial

theorem process_safe (dto : ProcessingPayload) : Safe (ProcessingService.process app dto) := by
  refine Safe.tryCatch ?_ fun error => ?_
  · exact ((executeWithRetry_footprint app dto).safe (by decide)).bind fun _ =>
      Safe.bind (fun _ => ⟨trivial, fun _ _ _ => trivial⟩) fun _ => safe_pure
  · refine Safe.bind (fun _ => ⟨trivial, fun _ _ _ => trivial⟩) fun _ => ?_
    refine Safe.bind (Safe.tryCatch ?_ fun _ => safe_throw) fun _ => safe_throw
    exact ((forTarget_footprint app _).safe (by decide)).bind fun _ => add_safe _

theorem processRetry_safe (dto : ProcessingPayload) (dlqItemId : String) :
    Safe (ProcessingService.processRetry app dto dlqItemId) := by
  refine Safe.tryCatch ?_ fun error => ?_
  · refine ((executeWithRetry_footprint app dto).safe (by decide)).bind fun _ => ?_
    exact Safe.bind (fun _ => ⟨trivial, fun _ _ _ => trivial⟩) fun _ =>
      updateStatus_safe (by decide) _ _
  · exact Safe.bind (fun _ => ⟨trivial, fun _ _ _ => trivial⟩) fun _ =>
      (updateStatus_safe (by decide) _ _).bind fun _ => safe_throw

theorem send_safe (topic : String) (message : Json) :
    Safe (KafkaProducerService.send app topic message) := (send_footprint app _ _).safe (by decide)

theorem retryItem_safe (item : DlqItem) : Safe (AdminService.retryItem app item) := by
  refine safe_settle.bind fun payload => ?_
  dsimp only
  split
  · exact send_safe _ _
  · exact processRetry_safe _ _

theorem retryItems_safe (items : List DlqItem) (acc : RetryManyResult) :
    Safe (AdminService.retryItems app items acc) := by
  induction items generalizing acc with
  | nil => exact safe_pure
  | cons item items ih =>
    refine Safe.bind (Safe.tryCatch (Safe.bind ?_ fun _ => safe_pure) fun _ => safe_pure) ih
    refine (retry_safe item.id).bind fun claimed => ?_
    split
    · exact (retryItem_safe item).bind fun _ => safe_pure
    · exact safe_pure

theorem eachMessage_safe (topic : String) (value : Option JsonText) :
    Safe (KafkaConsumerService.eachMessage app topic value) := by
  refine Safe.tryCatch (safe_settle.bind fun message => ?_) fun _ =>
    (send_safe _ _).tryCatch fun _ => safe_pure
  refine Safe.bind ?_ fun _ => send_safe _ _
  obtain ⟨payload, dlqItemId⟩ := message
  cases dlqItemId with
  | none => exact (process_safe payload).bind fun _ => safe_pure
  | some dlqItemId => exact processRetry_safe payload dlqItemId

theorem job_safe (job : DlqJob) : Safe (job.program app) := by
  cases job with
  | process dto => exact (process_safe dto).bind fun _ => safe_pure
  | add item => exact add_safe item
  | retry id => exact (retry_safe id).bind fun _ => safe_pure
  | skip id | resolve id | markRetryFailed id error => exact updateStatus_safe (by decide) _ _
  | adminRetry id =>
    refine (retry_safe id).bind fun claimed => ?_
    split
    · refine Safe.bind (fun _ => ⟨trivial, fun _ _ _ => trivial⟩) fun item => ?_
      refine Safe.bind ?_ fun _ => updateMetrics_footprint.safe (by decide)
      cases item with
      | none => exact safe_pure
      | some item => exact retryItem_safe item
    · exact safe_throw
  | adminRetryMany params =>
    refine Safe.bind ?_ fun _ => safe_pure
    unfold AdminService.retryMany
    split
    · exact safe_pure
    · refine Safe.bind (fun _ => ⟨trivial, fun _ _ _ => trivial⟩) fun items => ?_
      refine (retryItems_safe _ _).bind fun result => ?_
      exact (updateMetrics_footprint.safe (by decide)).bind fun _ => safe_pure
  | adminSkip id =>
    exact (updateStatus_safe (by decide) _ _).bind fun _ => updateMetrics_footprint.safe (by decide)

variable {ι : Type} [DecidableEq ι]

/-- The instants a program has read are not ahead of the clock. -/
theorem dlqCoupling (app : App) : (dlqSystem ι app).Coupling dlqMonitor (fun _ _ _ => True)
    (fun _ s q => q ≤ s.clock) where
  own := by
    intro i s q r a s' hq _ henv
    have hclock : s'.clock = s.clock := DlqEnv.clock_eq henv
    cases r
    case now =>
      have hnow := DlqEnv.now_eq henv
      exact ⟨s.clock, ⟨hnow ▸ hq, hnow.symm⟩, hclock.ge⟩
    all_goals exact ⟨q, rfl, hclock ▸ hq⟩
  other := fun _ hq _ _ henv => DlqEnv.clock_eq henv ▸ hq
  start := by
    intro i s p s' hstart
    refine ⟨s.clock, ?_, ?_⟩
    · cases hstart <;> exact le_rfl
    · cases hstart with
      | job job => exact job_safe job _
      | deliver _ => exact eachMessage_safe _ _ _
  start_other := by
    intro i j s q p s' _ hq hstart
    cases hstart <;> exact hq
  tick := by
    intro i s q s' hq ht
    cases ht with
    | clock hle => exact hq.trans hle

variable {app : App} {items : String → Option DlqItem} {clock : Time} {es : List (DlqEntry ι)}
  {e : DlqEntry ι} {m p : DlqPool ι} {id : String} {item item' : DlqItem} {l : DlqLabel ι}

/-- The requests of every run are as the monitor allows. -/
theorem request_ok {d : DlqState ι} (h : (dlqSystem ι app).Exec (.idle d) es p) (he : e ∈ es) {i : ι}
    {v : Ev} (hl : e.label = .call i v) : ∃ q, q ≤ e.before.shared.clock ∧ dlqMonitor.ok q v.req := by
  have hstep := h.step_of_mem he
  rw [hl] at hstep
  exact ((dlqCoupling app).watched_before h he).ok hstep

/-! ### An item as a leased resource -/

/-- What a step with the label does to an item as a leased resource. -/
def leaseOp (id : String) : DlqLabel ι → Lease.Op Time
  | .call _ ⟨.dlqItemUpdateMany c, .ok 1⟩ =>
    if c.id = id then .claim c.now c.expiredBefore else .other
  | .call _ ⟨.dlqItemUpdate id' data, .ok _⟩ =>
    if id' = id then
      match data.status with
      | .pending => .release
      | .skipped | .resolved => .close
      | .retrying => .other
    else .other
  | _ => .other

/-- The item is updated by `markRetryFailed`. -/
def FailedRetry (id : String) (l : DlqLabel ι) : Prop :=
  ∃ data : DlqItemUpdate, data.status = .pending ∧ UpdateOf id data l

omit [DecidableEq ι] in
theorem claim_of_leaseOp {now expiredBefore : Time}
    (h : leaseOp id l = .claim now expiredBefore) :
    ∃ c, ClaimOf id c l ∧ now = c.now ∧ expiredBefore = c.expiredBefore := by
  unfold leaseOp at h
  split at h
  · next i c =>
    split at h
    · next hid =>
      cases h
      exact ⟨c, ⟨hid, i, rfl⟩, rfl, rfl⟩
    · cases h
  · repeat' split at h
    all_goals cases h
  · cases h

omit [DecidableEq ι] in
theorem failedRetry_of_leaseOp (h : leaseOp id l = .release) : FailedRetry id l := by
  unfold leaseOp at h
  split at h
  · split at h <;> cases h
  · next i id' data u =>
    split at h
    · next hid =>
      subst hid
      split at h
      · next hstatus => exact ⟨data, hstatus, i, rfl⟩
      all_goals cases h
    · cases h
  · cases h

omit [DecidableEq ι] in
/-- The items of the queue are leased resources: a step does to an item, as a resource, what its
label says. -/
theorem ItemStep.lease_step (h : ItemStep id item l item')
    (hok : ∀ data, UpdateOf id data l → data.status ≠ .retrying) :
    Lease.Step item.lease (leaseOp id l) item'.lease := by
  cases h with
  | stays hclaim hupdate =>
    have hop : leaseOp id l = .other := by
      unfold leaseOp
      split
      · next i c =>
        exact if_neg fun hid => hclaim c ⟨hid, i, rfl⟩
      · next i id' data u =>
        refine if_neg fun hid => hupdate data ⟨i, ?_⟩
        rw [← hid]
      · rfl
    rw [hop]
    exact .other
  | @claimed c hl hclaim =>
    obtain ⟨hid, i, rfl⟩ := hl
    have hop : leaseOp id (.call i ⟨.dlqItemUpdateMany c, .ok 1⟩) =
        .claim c.now c.expiredBefore := if_pos hid
    rw [hop]
    exact .claim (DlqItem.claimable_iff.1 hclaim)
  | @updated data hl =>
    have hstatus := hok data hl
    obtain ⟨i, rfl⟩ := hl
    unfold leaseOp DlqItem.updated
    dsimp only
    rw [if_pos rfl]
    cases hs : data.status with
    | pending => simpa [DlqItem.lease, hs] using Lease.Step.release
    | retrying => exact absurd hs hstatus
    | skipped => simpa [DlqItem.lease, hs] using Lease.Step.close
    | resolved => simpa [DlqItem.lease, hs] using Lease.Step.close

/-! ### The three invariants -/

/-- Updates never lock an item. -/
theorem update_ok {d : DlqState ι} (h : (dlqSystem ι app).Exec (.idle d) es p) (he : e ∈ es)
    {data : DlqItemUpdate} (hl : UpdateOf id data e.label) :
    data.status ≠ .retrying ∧ data.lockedAt = none ∧ data.lockedBy = none := by
  obtain ⟨i, hl⟩ := hl
  obtain ⟨q, -, hok⟩ := request_ok h he hl
  exact hok

/-- Claims are made with instants that have passed. -/
theorem claim_ok {d : DlqState ι} (h : (dlqSystem ι app).Exec (.idle d) es p) (he : e ∈ es)
    {c : DlqItemClaim} (hl : ClaimOf id c e.label) :
    c.now ≤ c.dateNow ∧ c.dateNow ≤ e.before.shared.clock := by
  obtain ⟨-, i, hl⟩ := hl
  obtain ⟨q, hq, hle, hok⟩ := request_ok h he hl
  exact ⟨hle, hok.trans hq⟩

theorem leaseInv_of_exec {d : DlqState ι}
    (hd : ∀ id item, d.items id = some item → item.LeaseInv)
    (h : (dlqSystem ι app).Exec (.idle d) es p) :
    ∀ id item, p.shared.items id = some item → item.LeaseInv := by
  refine h.invariant (I := fun p => ∀ id item, p.shared.items id = some item → item.LeaseInv) ?_ hd
  intro e he hstep hinv id item' hitem'
  rcases item_origin hstep hitem' with ⟨item, hitem, hstep⟩ | ⟨i, data, hl, -, rfl⟩
  · cases hstep with
    | stays _ _ => exact hinv id _ hitem
    | claimed _ _ => exact ⟨by simp [DlqItem.claimed], by simp [DlqItem.claimed]⟩
    | updated hl =>
      obtain ⟨hstatus, hlockedAt, hlockedBy⟩ := update_ok h he hl
      exact ⟨by simp [DlqItem.updated, hstatus, hlockedAt], by
        simp [DlqItem.updated, hlockedAt, hlockedBy]⟩
  · obtain ⟨q, -, hok⟩ := request_ok h he hl
    have hstatus : data.status = .pending := hok
    exact ⟨by simp [DlqItemCreate.item, hstatus], by simp [DlqItemCreate.item]⟩

/-- The number of granted claims of the item in a history. -/
def claimCount (id : String) (es : List (DlqEntry ι)) : ℕ :=
  es.countP fun e => match e.label with
    | .call _ ⟨.dlqItemUpdateMany c, .ok 1⟩ => c.id == id
    | _ => false

omit [DecidableEq ι] in
theorem claimCount_snoc_claim {c : DlqItemClaim} (h : ClaimOf id c e.label) :
    claimCount id (es ++ [e]) = claimCount id es + 1 := by
  obtain ⟨hid, i, hl⟩ := h
  simp [claimCount, hl, hid]

omit [DecidableEq ι] in
theorem claimCount_snoc_other (h : ∀ c, ¬ ClaimOf id c e.label) :
    claimCount id (es ++ [e]) = claimCount id es := by
  unfold claimCount
  rw [List.countP_append, List.countP_singleton, if_neg, Nat.add_zero]
  split
  · next i c hl =>
    intro hid
    exact h c ⟨by simpa using hid, i, hl⟩
  · simp

/-- From any moment on, the retry count of an item grows by the number of granted claims. -/
theorem retryCount_of_exec (h : (dlqSystem ι app).Exec m es p)
    (hitem : m.shared.items id = some item) :
    ∃ item', p.shared.items id = some item' ∧
      item'.retryCount = item.retryCount + claimCount id es := by
  induction h with
  | nil => exact ⟨item, hitem, rfl⟩
  | @snoc n p es l _ hstep ih =>
    obtain ⟨item₁, hitem₁, hcount⟩ := ih
    obtain ⟨item₂, hitem₂, hstep⟩ := item_step hstep hitem₁
    refine ⟨item₂, hitem₂, ?_⟩
    cases hstep with
    | stays hclaim _ => rw [claimCount_snoc_other hclaim, hcount]
    | claimed hl _ =>
      rw [claimCount_snoc_claim hl, ← Nat.add_assoc, ← hcount]
      rfl
    | @updated data hl =>
      have hno : ∀ c, ¬ ClaimOf id c l := by
        rintro c ⟨-, j, hl'⟩
        obtain ⟨i, hl⟩ := hl
        rw [hl] at hl'
        cases hl'
      rw [claimCount_snoc_other hno, ← hcount]
      rfl

/-- As long as the item is not claimed and no retry of it fails, it stays held. -/
theorem held_of_exec (since : Time) (h : (dlqSystem ι app).Exec m es p)
    (hok : ∀ e ∈ es, ∀ data, UpdateOf id data e.label → data.status ≠ .retrying)
    (hclaim : ∀ e ∈ es, ∀ c, ¬ ClaimOf id c e.label)
    (hfail : ∀ e ∈ es, ¬ FailedRetry id e.label)
    (hm : ∃ item, m.shared.items id = some item ∧ item.lease.Held since) :
    ∃ item, p.shared.items id = some item ∧ item.lease.Held since := by
  refine h.invariant
    (I := fun p => ∃ item, p.shared.items id = some item ∧ item.lease.Held since) ?_ hm
  rintro e he hstep ⟨item, hitem, hheld⟩
  obtain ⟨item', hitem', hstep⟩ := item_step hstep hitem
  refine ⟨item', hitem', (hstep.lease_step (hok e he)).held ?_ ?_ hheld⟩
  · intro now expiredBefore hop
    obtain ⟨c, hc, -⟩ := claim_of_leaseOp hop
    exact hclaim e he c hc
  · intro hop
    exact hfail e he (failedRetry_of_leaseOp hop)

/-- What a granted claim finds and leaves. -/
theorem item_of_claim (h : (dlqSystem ι app).Step m l p) {c : DlqItemClaim} (hl : ClaimOf id c l) :
    ∃ item, m.shared.items id = some item ∧ item.Claimable c ∧
      p.shared.items id = some (item.claimed c) := by
  obtain ⟨rfl, i, rfl⟩ := hl
  obtain ⟨k, -, henv, -⟩ := h.call_inv
  generalize p.shared = s' at henv
  have heffect := DlqEnv.effect henv
  cases heffect with
  | none hclaim _ => exact absurd rfl (hclaim c)
  | claim hitem hclaim => exact ⟨_, hitem, hclaim, by simp [DlqState.claim]⟩

/-- Between two claims of an item with none in between, a retry of it failed, or the lease that the
second claimer uses has elapsed since the first. -/
theorem claims_apart_of_exec {d : DlqState ι} {es₁ es₂ es₃ : List (DlqEntry ι)}
    {e₁ e₂ : DlqEntry ι} {c₁ c₂ : DlqItemClaim}
    (h : (dlqSystem ι app).Exec (.idle d) (es₁ ++ e₁ :: (es₂ ++ e₂ :: es₃)) p)
    (h₁ : ClaimOf id c₁ e₁.label) (h₂ : ClaimOf id c₂ e₂.label)
    (hnone : ∀ e ∈ es₂, ∀ c, ¬ ClaimOf id c e.label) :
    (∃ e ∈ es₂, FailedRetry id e.label) ∨
      ((c₁.now : ℚ) + c₂.effectiveLeaseSeconds * 1000 < c₂.dateNow ∧
        c₂.dateNow ≤ e₂.before.shared.clock) := by
  refine or_iff_not_imp_left.2 fun hfail => ⟨?_, (claim_ok h (by simp) h₂).2⟩
  obtain ⟨-, hstep₁, hrest⟩ := System.exec_middle_iff.1 h
  obtain ⟨hbetween, hstep₂, -⟩ := System.exec_middle_iff.1 hrest
  obtain ⟨item₁, -, -, hitem₁⟩ := item_of_claim hstep₁ h₁
  obtain ⟨item₂, hitem₂, hclaim₂, -⟩ := item_of_claim hstep₂ h₂
  obtain ⟨item, hitem, hheld⟩ := held_of_exec c₁.now hbetween
    (fun e he data hl => (update_ok h (by simp [he]) hl).1) hnone
    (fun e he hl => hfail ⟨e, he, hl⟩) ⟨_, hitem₁, Or.inl rfl⟩
  obtain rfl : item₂ = item := Option.some.inj (hitem₂.symm.trans hitem)
  have hlt := lt_of_lt_timeClip (hheld.claim (DlqItem.claimable_iff.1 hclaim₂))
  linarith

/-- What is to hold after a run `es` from the state `d` to the pool `p`. -/
structure LeaseInvariants (app : App) (d : DlqState ι) (es : List (DlqEntry ι)) (p : DlqPool ι) :
    Prop where
  /-- an item is locked, by someone, exactly while it is being retried -/
  locked : ∀ id item, p.shared.items id = some item → item.LeaseInv
  /-- from any moment on (the start, or when the item is added), the retry count of an item grows by
  the number of granted claims -/
  counted : ∀ id item es₁ es₂ m, es = es₁ ++ es₂ → (dlqSystem ι app).Exec (.idle d) es₁ m →
    (dlqSystem ι app).Exec m es₂ p → m.shared.items id = some item →
    ∃ item', p.shared.items id = some item' ∧
      item'.retryCount = item.retryCount + claimCount id es₂
  /-- between two consecutive claims of an item a retry of it failed, or the lease that the second
  claimer uses has elapsed since the first -/
  apart : ∀ id c₁ c₂ es₁ e₁ es₂ e₂ es₃, es = es₁ ++ e₁ :: (es₂ ++ e₂ :: es₃) →
    ClaimOf id c₁ e₁.label → ClaimOf id c₂ e₂.label → (∀ e ∈ es₂, ∀ c, ¬ ClaimOf id c e.label) →
    (∃ e ∈ es₂, FailedRetry id e.label) ∨
      ((c₁.now : ℚ) + c₂.effectiveLeaseSeconds * 1000 < c₂.dateNow ∧
        c₂.dateNow ≤ e₂.before.shared.clock)

/-- The invariants hold after every run of the queue, from a table whose locks are in order. -/
theorem lease_invariants (hitems : ∀ id item, items id = some item → item.LeaseInv)
    (h : (dlqSystem ι app).Exec (.idle (.initial items clock)) es p) :
    LeaseInvariants app (.initial items clock) es p where
  locked := leaseInv_of_exec hitems h
  counted _ _ _ _ _ _ _ h₂ hitem := retryCount_of_exec h₂ hitem
  apart := by
    rintro id c₁ c₂ es₁ e₁ es₂ e₂ es₃ rfl h₁ h₂ hnone
    exact claims_apart_of_exec h h₁ h₂ hnone

/-- One granted claim. -/
theorem lease_invariants_one_claim : ∃ es p,
    (dlqSystem Unit App.bare).Exec (.idle (.initial oneItem 0)) es p ∧
      claimCount "item-1" es = 1 ∧ LeaseInvariants App.bare (.initial oneItem 0) es p := by
  have h := System.Exec.nil (S := dlqSystem Unit App.bare) (.idle (.initial oneItem 0))
  have h := h.snoc (.start (i := ()) rfl (.job (.retry "item-1")))
  have h := h.snoc (.call (i := ()) rfl .findTarget)
  have h := h.snoc (.call (i := ()) rfl (.other (a := (.ok none : Except JsError (Option Column)))
    (by simp [Req.OnDlq])))
  have h := h.snoc (.call (i := ()) rfl .now)
  have h := h.snoc (.call (i := ()) rfl .now)
  have h := h.snoc (.call (i := ()) rfl (.claim rfl (DlqItem.claimable_iff.2 trivial)))
  refine ⟨_, _, h, rfl, lease_invariants (fun id item hitem => ?_) h⟩
  unfold oneItem at hitem
  split at hitem
  · cases hitem
    exact ⟨by simp, by simp⟩
  · cases hitem

end IdmMw
