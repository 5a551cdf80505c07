import IdmMw.Model.Admin
import IdmMw.Model.Webhook

/-!
# Which requests a service makes

Requests fall into areas, and the footprint of a program is a list of areas that all its requests
belong to. The footprints below say what a service leaves alone, whatever answers it gets: that
processing an event never touches the idempotency keys, for example.
-/

namespace IdmMw

open Async

/-- The part of the surroundings a request is about. -/
inductive Area
  | clock
  | process
  | metrics
  | registry
  | keys
  | redis
  | dlqCreate
  | dlqRead
  | dlqClaim
  | dlqUpdate
  | dlqCount
  | targets
  | connector
  | kafka
  deriving DecidableEq

/-- The area of a request. -/
def Req.area : Req → Area
  | .now => .clock
  | .random | .randomBytes | .sleep _ => .process
  | .recordEvent _ _ | .recordConnectorError _ _ | .setDlqSize _ _ => .metrics
  | .registryGet _ => .registry
  | .txBegin | .txCommit | .txRollback => .keys
  | .txKeyFindUnique _ | .txKeyUpsert _ _ _ | .txKeyDeleteMany _ => .keys
  | .keyFindUnique _ | .keyDelete _ => .keys
  | .redisSet _ _ | .redisExists _ | .redisDel _ => .redis
  | .dlqItemCreate _ => .dlqCreate
  | .dlqItemFindTarget _ | .dlqItemFindUnique _ | .dlqItemFindMany _ => .dlqRead
  | .dlqItemUpdateMany _ => .dlqClaim
  | .dlqItemUpdate _ _ => .dlqUpdate
  | .dlqItemGroupBy => .dlqCount
  | .targetSystemConfig _ => .targets
  | .execute _ | .getSchema _ | .sync _ _ => .connector
  | .producerSend _ _ => .kafka

/-- All requests of `p` belong to the areas `as`. -/
def Footprint {α : Type} (p : Prog α) (as : List Area) : Prop := p.Issues fun r => r.area ∈ as

section Rules

variable {α β : Type} {p : Prog α} {as bs : List Area}

theorem Footprint.mono (h : Footprint p as) (hs : as ⊆ bs) : Footprint p bs :=
  Issues.mono h fun _ hr => hs hr

theorem Footprint.bind {f : α → Prog β} (h : Footprint p as) (hf : ∀ a, Footprint (f a) as) :
    Footprint (p >>= f) as := Issues.bind h hf

theorem Footprint.tryCatch {f : JsError → Prog α} (h : Footprint p as)
    (hf : ∀ e, Footprint (f e) as) : Footprint (tryCatch p f) as := Issues.tryCatch h hf

theorem footprint_settle {x : Except JsError α} : Footprint (.settle x) as := issues_settle

theorem footprint_pure {a : α} : Footprint (pure a) as := issues_pure

theorem footprint_throw {e : JsError} : Footprint (throw e : Prog α) as := issues_throw

theorem footprint_await {r : Req} {k : Ans r → Prog α} (hr : r.area ∈ as)
    (hk : ∀ a, Footprint (k a) as) : Footprint (.await r k) as := ⟨hr, hk⟩

/-- A single request. -/
theorem footprint_request {r : Req} {k : Ans r → Except JsError α} (hr : r.area ∈ as) :
    Footprint (.await r fun a => .settle (k a)) as := footprint_await hr fun _ => footprint_settle

end Rules

variable (app : App)

/-! ### Encryption and retries -/

theorem encryptObject_footprint (service : EncryptionService) (value : Json) :
    Footprint (service.encryptObject value) [.process] :=
  footprint_settle.bind fun _ => footprint_settle.bind fun _ =>
    (footprint_request (by simp [Req.area])).bind fun _ => footprint_pure

theorem toJson_footprint (value : Json) : Footprint (JsonHelper.toJson app value) [.process] := by
  unfold JsonHelper.toJson EncryptionService.encryptForStorage
  refine Footprint.bind ?_ fun _ => footprint_pure
  split
  · exact encryptObject_footprint _ _
  · exact footprint_pure

theorem encodeKafkaMessage_footprint (service : EncryptionService) (message : Json) :
    Footprint (service.encodeKafkaMessage message) [.process] := by
  unfold EncryptionService.encodeKafkaMessage
  split
  · exact (encryptObject_footprint _ _).bind fun _ => footprint_pure
  · exact footprint_pure

theorem forTarget_footprint (targetSystem : String) :
    Footprint (RetryPolicyService.forTarget app targetSystem) [.targets] :=
  ((footprint_request (by simp [Req.area])).tryCatch fun _ => footprint_pure).bind
    fun _ => footprint_settle

theorem calculateDelay_footprint (attempt : ℕ) (opts : RetryOptions) :
    Footprint (RetryService.calculateDelay attempt opts) [.process] := by
  unfold RetryService.calculateDelay
  dsimp only
  split
  · exact (footprint_request (by simp [Req.area])).bind fun _ => footprint_pure
  · exact footprint_pure

/-- The loop asks what its attempts ask, and for delays. -/
theorem executeFrom_footprint {α : Type} {fn : Prog α} {as : List Area} (opts : RetryOptions)
    (hfn : Footprint fn as) (has : .process ∈ as) (attempt remaining : ℕ) :
    Footprint (RetryService.executeFrom fn opts attempt remaining) as := by
  induction remaining generalizing attempt with
  | zero => exact hfn.tryCatch fun _ => footprint_throw
  | succ remaining ih =>
    refine hfn.tryCatch fun _ => ?_
    refine ((calculateDelay_footprint _ _).mono (by simpa using has)).bind fun _ => ?_
    exact (footprint_request has).bind fun _ => ih _

/-! ### Idempotency locks -/

/-- The areas of the idempotency locks. -/
def lockAreas : List Area := [.clock, .keys, .redis]

theorem isLive_footprint (row : Option Time) :
    Footprint (PgIdempotencyStore.isLive row) lockAreas := by
  cases row with
  | none => exact footprint_pure
  | some expiresAt =>
    exact Footprint.bind (footprint_request (by simp [Req.area, lockAreas])) fun _ => footprint_pure

theorem transaction_footprint {α : Type} {body : Prog α} (h : Footprint body lockAreas) :
    Footprint (transaction body) lockAreas := by
  refine Footprint.bind (footprint_request (by simp [Req.area, lockAreas])) fun _ => ?_
  refine Footprint.tryCatch (h.bind fun a => ?_) fun e => Footprint.bind ?_ fun _ => footprint_throw
  · exact Footprint.bind (footprint_request (by simp [Req.area, lockAreas])) fun _ => footprint_pure
  · exact Footprint.tryCatch (footprint_request (by simp [Req.area, lockAreas])) fun _ =>
      footprint_pure

theorem lock_footprint (key : String) (expiresAt : Time) :
    Footprint (PgIdempotencyStore.lock key expiresAt) lockAreas := by
  refine Footprint.bind (footprint_request (by simp [Req.area, lockAreas])) fun row => ?_
  refine (isLive_footprint row).bind fun live => ?_
  cases live with
  | true => exact footprint_pure
  | false =>
    refine Footprint.bind (footprint_request (by simp [Req.area, lockAreas])) fun lockedAt => ?_
    refine Footprint.bind (footprint_request (by simp [Req.area, lockAreas])) fun _ => ?_
    refine Footprint.bind (footprint_request (by simp [Req.area, lockAreas])) fun dateNow => ?_
    exact Footprint.bind (footprint_request (by simp [Req.area, lockAreas])) fun _ => footprint_pure

theorem requireClient_footprint : Footprint (RedisIdempotencyStore.requireClient app) lockAreas := by
  unfold RedisIdempotencyStore.requireClient
  split
  · exact footprint_pure
  · exact footprint_throw

/-- Whichever store is chosen, its operations stay within the areas of the locks. -/
theorem store_footprint (key : String) (ttlSeconds : ℕ) :
    Footprint ((IdempotencyService.store app).existsKey key) lockAreas ∧
      Footprint ((IdempotencyService.store app).setIfNotExists key ttlSeconds) lockAreas ∧
      Footprint ((IdempotencyService.store app).delete key) lockAreas := by
  unfold IdempotencyService.store
  split
  · refine ⟨?_, ?_, ?_⟩ <;> refine (requireClient_footprint app).bind fun _ => ?_
    · exact Footprint.bind (footprint_request (by simp [Req.area, lockAreas])) fun _ =>
        footprint_pure
    · exact footprint_request (by simp [Req.area, lockAreas])
    · exact footprint_request (by simp [Req.area, lockAreas])
  · refine ⟨?_, ?_, ?_⟩
    · exact Footprint.bind (footprint_request (by simp [Req.area, lockAreas])) isLive_footprint
    · refine Footprint.bind (footprint_request (by simp [Req.area, lockAreas])) fun dateNow => ?_
      exact (transaction_footprint (lock_footprint _ _)).tryCatch fun _ => footprint_pure
    · exact Footprint.tryCatch (footprint_request (by simp [Req.area, lockAreas])) fun _ =>
        footprint_pure

theorem checkAndLock_footprint (key : String) (ttlSeconds : ℕ) :
    Footprint (IdempotencyService.checkAndLock app key ttlSeconds) lockAreas := by
  refine Footprint.bind footprint_settle fun keys => Footprint.bind ?_ fun duplicate => ?_
  · unfold IdempotencyService.isDuplicate
    split
    · clear * -
      induction keys with
      | nil => exact footprint_pure
      | cons candidate keys ih =>
        refine (store_footprint app candidate 0).1.bind fun found => ?_
        cases found with
        | true => exact footprint_pure
        | false => exact ih
    · exact footprint_pure
  · split
    · exact footprint_pure
    · cases keys with
      | nil => exact footprint_throw
      | cons first keys => exact (store_footprint app first ttlSeconds).2.1

theorem release_footprint (key : String) :
    Footprint (IdempotencyService.release app key) lockAreas := by
  refine Footprint.bind footprint_settle fun keys => ?_
  induction keys with
  | nil => exact footprint_pure
  | cons candidate keys ih =>
    refine Footprint.bind ((store_footprint app candidate 0).2.2.tryCatch fun e => ?_) fun _ => ih
    exact (ih.tryCatch fun _ => footprint_pure).bind fun _ => footprint_throw

/-! ### The dead letter queue and processing -/

theorem setSizes_footprint (counts : List (DlqStatus × ℕ)) (statuses : List DlqStatus) :
    Footprint (DlqService.setSizes counts statuses) [.metrics] := by
  induction statuses with
  | nil => exact footprint_pure
  | cons status statuses ih => exact (footprint_request (by simp [Req.area])).bind fun _ => ih

theorem updateMetrics_footprint : Footprint DlqService.updateMetrics [.dlqCount, .metrics] :=
  (footprint_request (by simp [Req.area])).bind fun _ => (setSizes_footprint _ _).mono (by decide)

theorem add_footprint (item : DlqItemData) :
    Footprint (DlqService.add app item) [.process, .dlqCreate, .dlqCount, .metrics] :=
  ((toJson_footprint app _).mono (by decide)).bind fun _ =>
    (footprint_request (by simp [Req.area])).bind fun _ => updateMetrics_footprint.mono (by decide)

theorem updateStatus_footprint (id : String) (status : DlqStatus) (error : Option String) :
    Footprint (DlqService.updateStatus id status error) [.dlqUpdate, .dlqCount, .metrics] :=
  (footprint_request (by simp [Req.area])).bind fun _ => updateMetrics_footprint.mono (by decide)

theorem executeWithRetry_footprint (dto : ProcessingPayload) :
    Footprint (ProcessingService.executeWithRetry app dto)
      [.registry, .targets, .connector, .process, .metrics] := by
  refine Footprint.bind (footprint_request (by simp [Req.area])) fun connector => ?_
  cases connector with
  | none => exact footprint_throw
  | some connector =>
    refine ((forTarget_footprint app _).mono (by decide)).bind fun policy => ?_
    refine Footprint.bind ?_ fun result => ?_
    · exact executeFrom_footprint _ (footprint_request (by simp [Req.area])) (by decide) _ _
    · unfold ProcessingService.checkResult
      split
      · exact footprint_pure
      · exact (footprint_request (by simp [Req.area])).bind fun _ => footprint_throw

/-- The areas of a processed event. -/
def eventAreas : List Area :=
  [.registry, .targets, .connector, .process, .metrics, .dlqCreate, .dlqCount]

theorem process_footprint (dto : ProcessingPayload) :
    Footprint (ProcessingService.process app dto) eventAreas := by
  refine Footprint.tryCatch ?_ fun error => ?_
  · refine ((executeWithRetry_footprint app dto).mono (by decide)).bind fun result => ?_
    exact (footprint_request (by simp [Req.area, eventAreas])).bind fun _ => footprint_pure
  · refine Footprint.bind (footprint_request (by simp [Req.area, eventAreas])) fun _ => ?_
    refine Footprint.bind (Footprint.tryCatch ?_ fun _ => footprint_throw) fun _ => footprint_throw
    refine ((forTarget_footprint app _).mono (by decide)).bind fun policy => ?_
    exact (add_footprint app _).mono (by decide)

theorem processWithResult_footprint (dto : ProcessingPayload) :
    Footprint (ProcessingService.processWithResult dto) [.registry, .connector, .metrics] := by
  refine Footprint.bind (footprint_request (by simp [Req.area])) fun connector => ?_
  cases connector with
  | none => exact footprint_throw
  | some connector =>
    refine Footprint.tryCatch ?_ fun _ => (footprint_request (by simp [Req.area])).bind fun _ =>
      footprint_throw
    unfold ProcessingService.read ProcessingService.checkResult
    have hsuccess : ∀ result : ConnectorResult,
        Footprint (do recordEvent .success dto.targetSystem; pure result)
          [.registry, .connector, .metrics] :=
      fun result => Footprint.bind (footprint_request (by simp [Req.area])) fun _ => footprint_pure
    split
    · exact (footprint_request (by simp [Req.area])).bind hsuccess
    · split
      · exact (footprint_request (by simp [Req.area])).bind hsuccess
      · refine Footprint.bind (footprint_request (by simp [Req.area])) fun result => ?_
        refine Footprint.bind ?_ hsuccess
        split
        · exact footprint_pure
        · exact (footprint_request (by simp [Req.area])).bind fun _ => footprint_throw

/-! ### Messages and webhooks -/

theorem send_footprint (topic : String) (message : Json) :
    Footprint (KafkaProducerService.send app topic message) [.process, .kafka] := by
  unfold KafkaProducerService.send
  split
  · exact ((encodeKafkaMessage_footprint _ _).mono (by decide)).bind fun _ =>
      footprint_request (by simp [Req.area])
  · split
    · exact footprint_throw
    · exact footprint_pure

theorem publish_footprint (message : Json) :
    Footprint (DispatcherService.publish app message) [.process, .kafka] := by
  unfold DispatcherService.publish
  split
  · exact send_footprint app _ _
  · exact footprint_pure

theorem dispatch_footprint (dto : ProcessingPayload) :
    Footprint (DispatcherService.dispatch app dto) (.kafka :: eventAreas) := by
  unfold DispatcherService.dispatch DispatcherService.dispatchAsync DispatcherService.dispatchSync
  split
  · split
    · exact ((send_footprint app _ _).mono (by decide)).bind fun _ => footprint_pure
    · exact footprint_throw
  · refine Footprint.tryCatch ?_ fun error => ?_
    · refine ((process_footprint app dto).mono (by decide)).bind fun result => ?_
      exact ((publish_footprint app _).mono (by decide)).bind fun _ => footprint_pure
    · exact ((publish_footprint app _).mono (by decide)).bind fun _ => footprint_throw

/-- Between taking the lock and giving it back, a webhook does not touch the idempotency keys. -/
theorem webhook_process_footprint (dto : ProcessingPayload) (isRead : Bool) :
    Footprint (WebhookService.process app dto isRead) (.kafka :: eventAreas) := by
  unfold WebhookService.process
  split
  · exact ((processWithResult_footprint dto).mono (by decide)).bind fun _ => footprint_pure
  · exact (dispatch_footprint app dto).bind fun _ => footprint_pure

end IdmMw
