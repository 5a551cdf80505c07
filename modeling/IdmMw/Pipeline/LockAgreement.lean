import IdmMw.Pipeline.Traces
import IdmMw.Store.Duplicates

/-!
# The lock and the fate of the event

A synchronous write call should keep the idempotency lock it took exactly if its event was executed
or stored as a DLQ item (`Agrees`), whatever fails on the way.

* `LockState`: what the requests of a call make of the lock of its event;
* `checkAndLock_lock`, `release_lock`: taking the lock, and giving it back;
* `dispatchSync_accepted`: when the dispatch keeps the error handler from giving the lock back.

The handler gives the lock back unless the error counts as a durable acceptance. The metrics refresh
after the item was stored, and the status messages after the event was executed or stored, may fail
too; their errors do not count, so the lock of an executed or stored event is given back.
-/

namespace IdmMw

open Async

/-! ### The lock of a call -/

/-- The lock of one key in the eyes of one call: whether an upsert of its awaits the commit, and
whether the call holds the lock. (That a lock ends by itself after its time is left out.) -/
structure LockState where
  pending : Bool
  held : Bool

def LockState.next (key : String) (s : LockState) : Ev → LockState
  | ⟨.txBegin, _⟩ => { s with pending := false }
  | ⟨.txKeyUpsert k _ _, .ok _⟩ => if k = key then { s with pending := true } else s
  | ⟨.txCommit, .ok _⟩ => ⟨false, s.held || s.pending⟩
  | ⟨.txCommit, .error _⟩ => { s with pending := false }
  | ⟨.txRollback, _⟩ => { s with pending := false }
  | ⟨.redisSet k _, .ok true⟩ => if k = key then { s with held := true } else s
  | ⟨.keyDelete k, .ok _⟩ => if k = key then { s with held := false } else s
  | ⟨.redisDel k, .ok _⟩ => if k = key then { s with held := false } else s
  | _ => s

/-- Nothing is locked before the call. -/
def LockState.init : LockState := ⟨false, false⟩

/-- What a trace makes of the lock. -/
def LockState.after (key : String) (s : LockState) (t : Trace) : LockState :=
  t.foldl (LockState.next key) s

/-- The call with the trace `t` holds the lock of the event: on the first store key. -/
def lockHeld (app : App) (dto : ProcessingPayload) (t : Trace) : Bool :=
  match storeKeys app dto with
  | [] => false
  | key :: _ => (LockState.init.after key t).held

/-- Giving the lock back failed. -/
def ReleaseFailed : Ev → Prop
  | ⟨.keyDelete _, .error _⟩ | ⟨.redisDel _, .error _⟩ => True
  | _ => False

/-- The lock is held exactly if the event was executed or stored. -/
def Agrees (app : App) (dto : ProcessingPayload) (t : Trace) : Prop :=
  lockHeld app dto t = true ↔ Saw (Executed dto) t ∨ Saw (Stored dto) t

/-- For an executed or stored event, the metrics refresh and the status messages do not fail. -/
def StatusAccepted (app : App) (dto : ProcessingPayload) (t : Trace) : Prop :=
  Saw (Executed dto) t ∨ Saw (Stored dto) t →
    ¬ Saw CountFailed t ∧ ¬ Saw SendFailed t ∧ app.CanPublish

variable {app : App} {dto : ProcessingPayload} {key : String} {s : LockState} {t t₁ t₂ : Trace}

@[simp] theorem LockState.after_nil : s.after key [] = s := rfl

@[simp] theorem LockState.after_append : s.after key (t₁ ++ t₂) = (s.after key t₁).after key t₂ :=
  List.foldl_append

/-- The request is nothing to a lock, whatever its answer. -/
def LocksNothing (r : Req) : Prop := ∀ key s (a : Ans r), LockState.next key s ⟨r, a⟩ = s

theorem locksNothing_of_area {r : Req} (hkeys : r.area ≠ .keys) (hredis : r.area ≠ .redis) :
    LocksNothing r := by
  intro key s a
  cases r <;> first | rfl | exact absurd rfl hkeys | exact absurd rfl hredis

theorem after_eq_of_locksNothing (h : ∀ v ∈ t, LocksNothing v.req) : s.after key t = s := by
  induction t generalizing s with
  | nil => rfl
  | cons v t ih =>
    have hv : LockState.next key s v = s := h v (by simp) key s v.ans
    show (LockState.next key s v).after key t = s
    rw [hv]
    exact ih fun w hw => h w (by simp [hw])

/-- What stays out of the areas of the locks is nothing to a lock. -/
theorem Footprint.after_eq {α : Type} {p : Prog α} {as : List Area} {x : Except JsError α}
    (h : Footprint p as) (hr : p.Runs t x) (hkeys : .keys ∉ as) (hredis : .redis ∉ as) :
    s.after key t = s := by
  refine after_eq_of_locksNothing fun v hv => ?_
  have harea := Issues.of_runs h hr v hv
  exact locksNothing_of_area (fun heq => hkeys (heq ▸ harea)) (fun heq => hredis (heq ▸ harea))

/-! ### Taking the lock -/

theorem isLive_locksNothing (row : Option Time) :
    (PgIdempotencyStore.isLive row).Issues LocksNothing := by
  cases row with
  | none => exact issues_pure
  | some expiresAt =>
    exact Issues.bind ⟨fun _ _ _ => rfl, fun _ => issues_settle⟩ fun _ => issues_pure

/-- The body of the transaction upserts the key if it says `true`, and only then. -/
theorem lock_pending {expiresAt : Time} :
    (PgIdempotencyStore.lock key expiresAt).wp (.fold (LockState.next key))
      (fun s x => s.held = false ∧ ∀ b, x = .ok b → s.pending = b) .init := by
  refine wp_bind.2 ⟨trivial, ?_⟩
  rintro row _ rfl
  cases row with
  | error e => exact ⟨rfl, by rintro _ ⟨⟩⟩
  | ok row =>
    refine wp_bind.2 (wp_mono (Q := fun s _ => s = LockState.init) ?_ ?_)
    · refine (isLive_locksNothing row).wp (I := fun s => s = LockState.init) (fun s r hs hr => ?_) rfl
      refine ⟨trivial, ?_⟩
      rintro a _ rfl
      rw [hr, hs]
    · rintro _ (e | live) rfl
      · exact ⟨rfl, by rintro _ ⟨⟩⟩
      cases live with
      | true => exact ⟨rfl, by rintro _ ⟨⟩; rfl⟩
      | false =>
        refine wp_bind.2 ⟨trivial, ?_⟩
        rintro lockedAt _ rfl
        refine wp_bind.2 ⟨trivial, ?_⟩
        rintro (e | u) _ rfl
        · exact ⟨rfl, by rintro _ ⟨⟩⟩
        refine wp_bind.2 ⟨trivial, ?_⟩
        rintro dateNow _ rfl
        refine wp_bind.2 ⟨trivial, ?_⟩
        rintro (e | u') _ rfl
        · exact ⟨by simp [LockState.next, LockState.init], by rintro _ ⟨⟩⟩
        · exact ⟨by simp [LockState.next, LockState.init], by
            rintro _ ⟨⟩; simp [LockState.next]⟩

theorem pg_setIfNotExists_lock {ttlSeconds : ℕ} :
    (PgIdempotencyStore.setIfNotExists key ttlSeconds).wp (.fold (LockState.next key))
      (fun s x => s.held = true ↔ x = .ok true) .init := by
  have hno : ∀ {s : LockState} {x : Except JsError Bool}, s.held = false → x = .ok false →
      (s.held = true ↔ x = .ok true) := by
    rintro s x hs rfl
    simp [hs]
  refine wp_bind.2 ⟨trivial, ?_⟩
  rintro dateNow _ rfl
  refine wp_tryCatch.2 (wp_transaction.2 ⟨trivial, ?_⟩)
  rintro (e | u) _ rfl
  · exact hno rfl rfl
  refine wp_mono lock_pending ?_
  rintro s (e | b) ⟨hheld, hpending⟩
  · refine ⟨trivial, ?_⟩
    rintro y _ rfl
    exact hno hheld rfl
  · refine ⟨trivial, ?_⟩
    rintro (e | u') _ rfl
    · refine ⟨trivial, ?_⟩
      rintro y _ rfl
      exact hno hheld rfl
    · show (s.held || s.pending) = true ↔ _
      rw [hheld, hpending b rfl]
      cases b <;> simp

/-- Whichever store is chosen, `setIfNotExists` takes the lock exactly if it says so. -/
theorem setIfNotExists_lock {ttlSeconds : ℕ} {x : Except JsError Bool}
    (h : ((IdempotencyService.store app).setIfNotExists key ttlSeconds).Runs t x) :
    (LockState.init.after key t).held = true ↔ x = .ok true := by
  unfold IdempotencyService.store at h
  split at h
  · next hredis =>
    change (RedisIdempotencyStore.setIfNotExists app key ttlSeconds).Runs t x at h
    unfold RedisIdempotencyStore.setIfNotExists at h
    rw [RedisIdempotencyStore.requireClient_eq hredis] at h
    obtain ⟨answer, rfl, rfl⟩ := runs_request.1 h
    rcases x with e | _ | _ <;> simp [LockState.after, LockState.next, LockState.init]
  · exact wp_fold.1 pg_setIfNotExists_lock t x h

variable (app) in
/-- Looking for a lock is nothing to it. -/
theorem isDuplicate_locksNothing (keys : List String) :
    (IdempotencyService.isDuplicate (IdempotencyService.store app) keys).Issues LocksNothing := by
  have hexists : ∀ key, ((IdempotencyService.store app).existsKey key).Issues LocksNothing := by
    intro key
    unfold IdempotencyService.store
    split
    · next hredis =>
      show (RedisIdempotencyStore.existsKey app key).Issues LocksNothing
      unfold RedisIdempotencyStore.existsKey
      rw [RedisIdempotencyStore.requireClient_eq hredis]
      exact Issues.bind issues_pure fun _ =>
        Issues.bind ⟨fun _ _ _ => rfl, fun _ => issues_settle⟩ fun _ => issues_pure
    · exact Issues.bind ⟨fun _ _ _ => rfl, fun _ => issues_settle⟩ isLive_locksNothing
  unfold IdempotencyService.isDuplicate
  split
  · clear * - hexists
    induction keys with
    | nil => exact issues_pure
    | cons candidate keys ih =>
      refine (hexists candidate).bind fun found => ?_
      cases found with
      | true => exact issues_pure
      | false => exact ih
  · exact issues_pure

/-- The call holds the lock of its event exactly if `checkAndLock` said that the event is new. -/
theorem checkAndLock_lock {ttlSeconds : ℕ} {x : Except JsError Bool}
    (h : (IdempotencyService.checkAndLock app (WebhookService.idempotencyKey dto) ttlSeconds).Runs
      t x) : lockHeld app dto t = true ↔ x = .ok true := by
  unfold IdempotencyService.checkAndLock at h
  rcases runs_bind.1 h with ⟨e, rfl, rfl, hkeys⟩ | ⟨keys, t₁, t₂, rfl, ⟨rfl, hkeys⟩, h₂⟩
  · simp [lockHeld, storeKeys, ← hkeys]
  have hstore : storeKeys app dto = keys := by simp [storeKeys, ← hkeys]
  unfold lockHeld
  rw [hstore, List.nil_append]
  obtain ⟨key, keys, rfl⟩ := List.exists_cons_of_ne_nil
    (app.encryption.idempotencyKeys_ne_nil hkeys.symm)
  dsimp only
  have hlook : ∀ {t y}, (IdempotencyService.isDuplicate (IdempotencyService.store app)
      (key :: keys)).Runs t y → LockState.init.after key t = .init := fun hr =>
    after_eq_of_locksNothing ((isDuplicate_locksNothing app _).of_runs hr)
  rcases runs_bind.1 h₂ with ⟨e, rfl, h'⟩ | ⟨duplicate, t₃, t₄, rfl, h₃, h₄⟩
  · rw [hlook h']
    simp [LockState.init]
  rw [LockState.after_append, hlook h₃]
  cases duplicate with
  | true =>
    obtain ⟨rfl, rfl⟩ := h₄
    simp [LockState.init]
  | false => exact setIfNotExists_lock h₄

/-! ### Giving the lock back -/

theorem delete_lock {x : Except JsError Unit} {candidate : String}
    (h : ((IdempotencyService.store app).delete candidate).Runs t x)
    (hok : ∀ v ∈ t, ¬ ReleaseFailed v) : x = .ok () ∧ ∀ (key : String) (s : LockState),
      s.after key t = if candidate = key then { s with held := false } else s := by
  unfold IdempotencyService.store at h
  split at h
  · next hredis =>
    change (RedisIdempotencyStore.delete app candidate).Runs t x at h
    unfold RedisIdempotencyStore.delete at h
    rw [RedisIdempotencyStore.requireClient_eq hredis] at h
    obtain ⟨answer, rfl, rfl⟩ := runs_request.1 h
    cases x with
    | error e => exact absurd trivial (hok _ (List.mem_singleton_self _))
    | ok u => exact ⟨rfl, fun _ _ => rfl⟩
  · rcases runs_tryCatch.1 h with ⟨u, rfl, h'⟩ | ⟨e, t₁, t₂, rfl, h₁, -⟩
    · obtain ⟨answer, rfl, ha⟩ := runs_request.1 h'
      cases ha
      exact ⟨rfl, fun _ _ => rfl⟩
    · obtain ⟨answer, rfl, ha⟩ := runs_request.1 h₁
      cases ha
      exact absurd trivial (hok ⟨.keyDelete candidate, .error e⟩ (by simp))

theorem deleteAll_lock {keys : List String} {x : Except JsError Unit}
    (h : (IdempotencyService.deleteAll (IdempotencyService.store app) keys).Runs t x)
    (hok : ∀ v ∈ t, ¬ ReleaseFailed v) : x = .ok () ∧ ∀ (key : String) (s : LockState),
      s.after key t = if key ∈ keys then { s with held := false } else s := by
  induction keys generalizing t with
  | nil =>
    obtain ⟨rfl, rfl⟩ := h
    simp
  | cons candidate keys ih =>
    rcases runs_bind.1 h with ⟨e, rfl, h'⟩ | ⟨u, t₁, t₂, rfl, h₁, h₂⟩
    · rcases runs_tryCatch.1 h' with ⟨_, hx, -⟩ | ⟨e', t₁, t₂, rfl, h₁, -⟩
      · cases hx
      · obtain ⟨hx, -⟩ := delete_lock h₁ fun v hv => hok v (by simp [hv])
        cases hx
    rcases runs_tryCatch.1 h₁ with ⟨_, -, h'⟩ | ⟨e', t₃, t₄, rfl, h₃, -⟩
    · obtain ⟨-, hdelete⟩ := delete_lock h' fun v hv => hok v (by simp [hv])
      obtain ⟨hx, hrest⟩ := ih h₂ fun v hv => hok v (by simp [hv])
      refine ⟨hx, fun key s => ?_⟩
      rw [LockState.after_append, hdelete, hrest]
      by_cases hc : candidate = key
      · simp [hc]
      · simp [hc, Ne.symm hc]
    · obtain ⟨hx, -⟩ := delete_lock h₃ fun v hv => hok v (by simp [hv])
      cases hx

/-- If no deletion fails, `release` gives the lock back. -/
theorem release_lock {x : Except JsError Unit}
    (h : (IdempotencyService.release app (WebhookService.idempotencyKey dto)).Runs t₂ x)
    (hok : ∀ v ∈ t₂, ¬ ReleaseFailed v) (hheld : lockHeld app dto t₁ = true) :
    lockHeld app dto (t₁ ++ t₂) = false ∧ x = .ok () := by
  unfold lockHeld at hheld ⊢
  unfold IdempotencyService.release at h
  rcases runs_bind.1 h with ⟨e, rfl, rfl, hkeys⟩ | ⟨keys, _, t₂, rfl, ⟨rfl, hkeys⟩, h₂⟩
  · simp [storeKeys, ← hkeys] at hheld
  have hstore : storeKeys app dto = keys := by simp [storeKeys, ← hkeys]
  rw [hstore]
  obtain ⟨key, keys, rfl⟩ := List.exists_cons_of_ne_nil
    (app.encryption.idempotencyKeys_ne_nil hkeys.symm)
  obtain ⟨hx, hdeleted⟩ := deleteAll_lock h₂ hok
  refine ⟨?_, hx⟩
  dsimp only
  rw [List.nil_append, LockState.after_append, hdeleted, if_pos (by simp)]

/-! ### The dispatch -/

/-- The error handler of the call leaves the lock alone. -/
def Accepted {α : Type} (x : Except JsError α) : Prop :=
  ∀ e, x = .error e → isDurablyAcceptedError e = true

@[simp] theorem accepted_ok {α : Type} (a : α) : Accepted (.ok a : Except JsError α) := by
  rintro e ⟨⟩

@[simp] theorem accepted_error {α : Type} (e : JsError) :
    Accepted (.error e : Except JsError α) ↔ isDurablyAcceptedError e = true :=
  ⟨fun h => h e rfl, by rintro h _ ⟨⟩; exact h⟩

/-- An error that is thrown again after a status message stays durable exactly if the message goes
out. -/
theorem publish_throw_accepted {message : Json} {error : JsError} {α : Type} {x : Except JsError α}
    (h : (do DispatcherService.publish app message; throw error : Prog α).Runs t x) :
    Accepted x ↔ isDurablyAcceptedError error = true ∧ ¬ Saw SendFailed t ∧ app.CanPublish := by
  rcases runs_bind.1 h with ⟨e, rfl, h'⟩ | ⟨u, t₁, t₂, rfl, h₁, rfl, rfl⟩
  · rcases publish_runs h' with ⟨hx, -⟩ | ⟨⟨_, hx, hlost⟩, hfail⟩
    · cases hx
    · cases hx
      rw [accepted_error, hlost]
      exact iff_of_false (by simp) fun hall => hfail.elim hall.2.1 (fun hcannot => hcannot hall.2.2)
  · rcases publish_runs h₁ with ⟨-, hsent, hcan⟩ | ⟨⟨_, hx, -⟩, -⟩
    · simp [hsent, hcan]
    · cases hx

variable (dto) in
theorem publish_nothing {message : Json} {x : Except JsError Unit}
    (h : (DispatcherService.publish app message).Runs t x) :
    ¬ Saw (Executed dto) t ∧ ¬ Saw (Stored dto) t ∧ ¬ Saw CountFailed t := by
  have hfoot := publish_footprint app message
  refine ⟨hfoot.not_saw h ?_, hfoot.not_saw h ?_, hfoot.not_saw h ?_⟩ <;>
    (intro v hv; rw [hv.area]; decide)

/-- The dispatch is accepted exactly if the event was executed or stored and everything after that
went well. -/
theorem dispatchSync_accepted {x : Except JsError (Option ConnectorResult)}
    (h : (DispatcherService.dispatchSync app dto).Runs t x) :
    Accepted x ↔ (Saw (Executed dto) t ∨ Saw (Stored dto) t) ∧
      ¬ Saw CountFailed t ∧ ¬ Saw SendFailed t ∧ app.CanPublish := by
  have hquiet : ∀ {t y}, (ProcessingService.process app dto).Runs t y → ¬ Saw SendFailed t :=
    fun hr => (process_footprint app dto).not_saw hr fun v hv => by rw [hv.area]; decide
  rcases runs_tryCatch.1 h with ⟨result, rfl, h'⟩ | ⟨error, t₁, t₂, rfl, h₁, h₂⟩
  · -- the connector succeeded, and the message went out
    rcases runs_bind.1 h' with ⟨_, hx, -⟩ | ⟨result', u₁, u₂, rfl, h₁, h₂⟩
    · cases hx
    rcases runs_bind.1 h₂ with ⟨_, hx, -⟩ | ⟨u, u₃, u₄, rfl, h₃, rfl, -⟩
    · cases hx
    obtain ⟨-, -, hcount₃⟩ := publish_nothing dto h₃
    cases process_outcome h₁ with
    | executed hexec hcount _ _ =>
      rcases publish_runs h₃ with ⟨-, hsent, hcan⟩ | ⟨⟨_, hx, -⟩, -⟩
      · simp [hexec, hcount, hcount₃, hquiet h₁, hsent, hcan]
      · cases hx
  rw [publish_throw_accepted h₂]
  have hpublish : ¬ Saw (Executed dto) t₂ ∧ ¬ Saw (Stored dto) t₂ ∧ ¬ Saw CountFailed t₂ := by
    rcases runs_bind.1 h₂ with ⟨_, -, h'⟩ | ⟨_, _, _, rfl, h', rfl, -⟩
    · exact publish_nothing dto h'
    · simpa using publish_nothing dto h'
  obtain ⟨hexec₂, hstored₂, hcount₂⟩ := hpublish
  rcases runs_bind.1 h₁ with ⟨_, hx, h'⟩ | ⟨result, u₁, u₂, rfl, h₃, h₄⟩
  · cases hx
    have hsent := hquiet h'
    cases process_outcome h' with
    | parked hexec hstored hcount _ _ =>
      simp [isDurablyAcceptedError, hexec₂, hstored, hstored₂, hcount, hcount₂, hsent]
    | lost hexec hcount _ =>
      refine iff_of_false (by simp [isDurablyAcceptedError]) ?_
      rintro ⟨hfate, hnot, -⟩
      simp only [saw_append, hexec, hexec₂, hstored₂, or_false, false_or] at hfate
      exact hnot (by simp [hcount.1 hfate])
  · -- the connector succeeded, but the message did not go out
    have hlost : isDurablyAcceptedError error = false ∧ (Saw SendFailed u₂ ∨ ¬ app.CanPublish) := by
      rcases runs_bind.1 h₄ with ⟨_, hx, h'⟩ | ⟨_, _, _, -, -, -, hx⟩
      · cases hx
        rcases publish_runs h' with ⟨hx, -⟩ | ⟨⟨_, hx, hlost⟩, hfail⟩
        · cases hx
        · cases hx
          exact ⟨hlost, hfail⟩
      · cases hx
    refine iff_of_false (by simp [hlost.1]) ?_
    rintro ⟨-, -, hsent, hcan⟩
    rcases hlost.2 with hfail | hcannot
    · exact hsent (by simp [hfail])
    · exact hcannot hcan

/-! ### The whole call -/

/-- A synchronous write call whose deletions succeed keeps its lock as it should exactly if the
metrics refresh and the status messages of an executed or stored event do not fail. -/
theorem agrees_iff {x : Except JsError ProcessResult}
    (h : (WebhookService.processWebhook app dto false).Runs t x)
    (hsync : app.config.processingMode ≠ "async") (hrelease : ∀ v ∈ t, ¬ ReleaseFailed v) :
    Agrees app dto t ↔ StatusAccepted app dto t := by
  have hnothing : ∀ {α : Type} {p : Prog α} {u y}, Footprint p lockAreas → p.Runs u y →
      ¬ Saw (Executed dto) u ∧ ¬ Saw (Stored dto) u ∧ ¬ Saw CountFailed u ∧ ¬ Saw SendFailed u := by
    intro α p u y hfoot hr
    refine ⟨hfoot.not_saw hr ?_, hfoot.not_saw hr ?_, hfoot.not_saw hr ?_, hfoot.not_saw hr ?_⟩ <;>
      (intro v hv; rw [hv.area]; decide)
  unfold Agrees StatusAccepted
  unfold WebhookService.processWebhook at h
  rcases runs_bind.1 h with ⟨e, rfl, h'⟩ | ⟨isNew, t₁, t₂, rfl, h₁, h₂⟩
  · -- the lock could not be asked for
    obtain ⟨hexec, hstored, -, -⟩ := hnothing (checkAndLock_footprint app _ _) h'
    rw [checkAndLock_lock h']
    simp [hexec, hstored]
  have hlock := checkAndLock_lock h₁
  obtain ⟨hexec₁, hstored₁, hcount₁, hsent₁⟩ := hnothing (checkAndLock_footprint app _ _) h₁
  cases isNew with
  | false =>
    obtain ⟨rfl, rfl⟩ := h₂
    rw [List.append_nil, hlock]
    simp [hexec₁, hstored₁]
  | true =>
    have hheld : lockHeld app dto t₁ = true := hlock.2 rfl
    have hkept : ∀ {u y}, (WebhookService.process app dto false).Runs u y →
        lockHeld app dto (t₁ ++ u) = true := by
      intro u y hr
      unfold lockHeld at hheld ⊢
      split at hheld
      · cases hheld
      · rw [LockState.after_append, (webhook_process_footprint app dto false).after_eq hr
          (by decide) (by decide)]
        exact hheld
    have hdispatch : ∀ {u y}, (WebhookService.process app dto false).Runs u y →
        (Accepted y ↔ (Saw (Executed dto) u ∨ Saw (Stored dto) u) ∧
          ¬ Saw CountFailed u ∧ ¬ Saw SendFailed u ∧ app.CanPublish) := by
      intro u y hr
      have hmap : ∃ z, (DispatcherService.dispatchSync app dto).Runs u z ∧
          (Accepted y ↔ Accepted z) := by
        unfold WebhookService.process DispatcherService.dispatch at hr
        simp only [hsync, if_false] at hr
        rcases runs_bind.1 hr with ⟨e, rfl, h'⟩ | ⟨result, u₁, u₂, rfl, h', rfl, rfl⟩
        · exact ⟨_, h', by simp⟩
        · exact ⟨_, by simpa using h', by simp⟩
      obtain ⟨z, hz, hyz⟩ := hmap
      rw [hyz, dispatchSync_accepted hz]
    rcases runs_tryCatch.1 h₂ with ⟨result, rfl, h'⟩ | ⟨error, u₁, u₂, rfl, h₃, h₄⟩
    · have haccepted := (hdispatch h').1 (accepted_ok result)
      rw [hkept h']
      simp [haccepted, hexec₁, hstored₁, hcount₁, hsent₁]
    unfold WebhookService.processFailed at h₄
    split at h₄
    · next hdurable =>
      obtain ⟨rfl, rfl⟩ := h₄
      have haccepted := (hdispatch h₃).1 ((accepted_error error).2 hdurable)
      rw [List.append_nil, hkept h₃]
      simp [haccepted, hexec₁, hstored₁, hcount₁, hsent₁]
    · next hlost =>
      have hrel : ∃ u y, u₂ = u ∧
          (IdempotencyService.release app (WebhookService.idempotencyKey dto)).Runs u y := by
        rcases runs_bind.1 h₄ with ⟨e, -, h'⟩ | ⟨u, u₃, u₄, rfl, h', rfl, -⟩
        · exact ⟨_, _, rfl, h'⟩
        · exact ⟨_, _, by simp, h'⟩
      obtain ⟨u, y, rfl, hr⟩ := hrel
      obtain ⟨hexec₂, hstored₂, hcount₂, hsent₂⟩ := hnothing (release_footprint app _) hr
      have hgone := (release_lock hr (fun v hv => hrelease v (by simp [hv])) (hkept h₃)).1
      have hrejected := (hdispatch h₃).not.1 (by simpa using hlost)
      rw [← List.append_assoc, hgone]
      simp only [saw_append, hexec₁, hexec₂, hstored₁, hstored₂, hcount₁, hcount₂, hsent₁, hsent₂,
        false_or, or_false]
      simp only [Bool.false_eq_true, false_iff]
      exact ⟨fun hnone hfate => absurd hfate hnone, fun hall hfate => hrejected ⟨hfate, hall hfate⟩⟩

/-! ### Two calls -/

/-- The requests that lock `someEvent`, answered without a hitch. -/
def lockTrace : Trace :=
  [⟨.now, (0 : ℤ)⟩, ⟨.txBegin, .ok ()⟩, ⟨.txKeyFindUnique "avanpost:target:event-1", .ok none⟩,
    ⟨.now, (0 : ℤ)⟩, ⟨.txKeyUpsert "avanpost:target:event-1" 3600000 0, .ok ()⟩, ⟨.now, (0 : ℤ)⟩,
    ⟨.txKeyDeleteMany (-60000), .ok ()⟩, ⟨.txCommit, .ok ()⟩]

/-- The connector succeeds, and the lock is kept. -/
theorem agrees_executed : ∃ t x,
    (WebhookService.processWebhook App.bare someEvent false).Runs t x ∧
      lockHeld App.bare someEvent t = true ∧ Agrees App.bare someEvent t := by
  have hrun : (WebhookService.processWebhook App.bare someEvent false).Runs
      (lockTrace ++ [⟨.registryGet "target", some ⟨false, false⟩⟩,
        ⟨.targetSystemConfig "target", .ok none⟩,
        ⟨.execute someEvent.toConnector, .ok ⟨true, none, none⟩⟩,
        ⟨.recordEvent .success "target", ()⟩]) (.ok ⟨true, none⟩) :=
    ⟨_, _, rfl, _, _, rfl, _, _, rfl, _, _, rfl, _, _, rfl, _, _, rfl, _, _, rfl, _, _, rfl,
      _, _, rfl, _, _, rfl, _, _, rfl, _, _, rfl, rfl, rfl⟩
  refine ⟨_, _, hrun, by decide, (agrees_iff hrun (by decide) ?_).2 fun _ => ⟨?_, ?_, ?_⟩⟩
  · simp [lockTrace, ReleaseFailed]
  · simp [lockTrace, CountFailed]
  · simp [lockTrace, SendFailed]
  · rintro ⟨⟩

/-- The connector fails and the event is stored as a DLQ item, but the metrics refresh fails: the
lock is given back. -/
theorem not_agrees : ∃ t x,
    (WebhookService.processWebhook App.bare someEvent false).Runs t x ∧
      (∀ v ∈ t, ¬ ReleaseFailed v) ∧ ¬ Agrees App.bare someEvent t := by
  have hrun : (WebhookService.processWebhook App.bare someEvent false).Runs
      (lockTrace ++ [⟨.registryGet "target", some ⟨false, false⟩⟩,
        ⟨.targetSystemConfig "target", .ok none⟩,
        ⟨.execute someEvent.toConnector, .ok ⟨false, none, some "rejected"⟩⟩,
        ⟨.recordConnectorError "target" "user.create", ()⟩, ⟨.recordEvent .failed "target", ()⟩,
        ⟨.targetSystemConfig "target", .ok none⟩,
        ⟨.dlqItemCreate
          ⟨"event-1", "user.create", "target", .native (.obj []), "rejected", 3, .pending⟩, .ok ()⟩,
        ⟨.dlqItemGroupBy, .error (.error "timeout")⟩,
        ⟨.keyDelete "avanpost:target:event-1", .ok ()⟩])
      (.error (.processingFailure "Processing failed before durable DLQ acceptance: timeout" false
        (.error "rejected"))) :=
    ⟨_, _, rfl, _, _, rfl, _, _, rfl, _, _, rfl, _, _, rfl, _, _, rfl, _, _, rfl, _, _, rfl,
      _, _, rfl, _, _, rfl, _, _, rfl, _, _, rfl, _, _, rfl, _, _, rfl, _, _, rfl, _, _, rfl,
      _, _, rfl, rfl, rfl⟩
  refine ⟨_, _, hrun, by simp [lockTrace, ReleaseFailed], fun hagrees => ?_⟩
  have hheld := hagrees.2 (Or.inr (by simp [lockTrace, Stored, someEvent]))
  exact absurd hheld (by decide)

end IdmMw
