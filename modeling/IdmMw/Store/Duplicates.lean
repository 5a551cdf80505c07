import IdmMw.Model.Footprint
import IdmMw.Store.Postgres

/-!
# Which webhooks are reported as duplicates

Any number of `processWebhook` calls share the idempotency table. A call that answers
`processed: false` should have found the lock of an earlier call for the same event, and a call
whose look at the table fails should reject.

* `webhookSystem`, `EarlierLock`, `NoSilentDrop`;
* `checkAndLock_runs`: what a call of `checkAndLock` may have seen, by its result;
* `rows_of_exec`: every row of the table was upserted and committed by some call.

The `catch` of `setIfNotExists` answers `false` for every failure of its transaction, so a failed
attempt to lock looks like a duplicate. Apart from that the law holds.
-/

namespace IdmMw

open Async

/-- A call of `processWebhook`. -/
structure WebhookCall where
  dto : ProcessingPayload
  isRead : Bool

variable {ι : Type} [DecidableEq ι]

/-- Slot `i` runs the call `calls i`. -/
def webhookSystem (app : App) (calls : ι → WebhookCall) :
    System ι (StoreState ι) JsError Ans ProcessResult where
  env := StoreEnv
  start i s p s' := p = WebhookService.processWebhook app (calls i).dto (calls i).isRead ∧ s' = s
  tick := StoreTick

abbrev WebhookPool (ι : Type) := Pool ι (StoreState ι) JsError Ans ProcessResult
abbrev WebhookEntry (ι : Type) := Entry ι (StoreState ι) JsError Ans ProcessResult

/-- Two webhooks are about the same event. -/
def SameEvent (a b : ProcessingPayload) : Prop :=
  a.targetSystem = b.targetSystem ∧ a.eventId = b.eventId

/-- The store keys of an event. -/
def storeKeys (app : App) (dto : ProcessingPayload) : List String :=
  match app.encryption.idempotencyKeys (WebhookService.idempotencyKey dto) with
  | .ok keys => keys
  | .error _ => []

/-- No two different events of the calls share a store key. -/
def KeysSeparate (app : App) (calls : ι → WebhookCall) : Prop :=
  ∀ i j key, key ∈ storeKeys app (calls i).dto → key ∈ storeKeys app (calls j).dto →
    SameEvent (calls i).dto (calls j).dto

/-! ### The law -/

/-- A statement of the transaction of `setIfNotExists` that failed. -/
def TxFailed : Ev → Prop
  | ⟨.txBegin, .error _⟩ | ⟨.txKeyFindUnique _, .error _⟩ | ⟨.txKeyUpsert _ _ _, .error _⟩
  | ⟨.txKeyDeleteMany _, .error _⟩ | ⟨.txCommit, .error _⟩ => True
  | _ => False

/-- A look at a key outside the transaction that failed. -/
def LookFailed : Ev → Prop
  | ⟨.keyFindUnique _, .error _⟩ => True
  | _ => False

/-- At some step of slot `i` the table holds an unexpired lock of the same event, which another
call had upserted and committed by then. -/
def EarlierLock (app : App) (calls : ι → WebhookCall) (i : ι) (es : List (WebhookEntry ι)) : Prop :=
  ∃ es₁ e es₂ v j key expiresAt lockedAt, es = es₁ ++ e :: es₂ ∧ e.label = .call i v ∧
    j ≠ i ∧ SameEvent (calls j).dto (calls i).dto ∧ key ∈ storeKeys app (calls i).dto ∧
    ⟨.txKeyUpsert key expiresAt lockedAt, .ok ()⟩ ∈ System.traceOf j es₁ ∧
    ⟨.txCommit, .ok ()⟩ ∈ System.traceOf j es₁ ∧
    e.before.shared.db.committed key = some expiresAt ∧ e.before.shared.clock < expiresAt

/-- Slot `i`, settled with `x`, did not drop its event: it reports a duplicate only of an earlier
call, and it rejects if the attempt to lock failed. -/
def NoSilentDrop (app : App) (calls : ι → WebhookCall) (i : ι) (es : List (WebhookEntry ι))
    (x : Except JsError ProcessResult) : Prop :=
  (∀ result, x = .ok result → result.processed = false → EarlierLock app calls i es) ∧
    ((∃ v ∈ System.traceOf i es, TxFailed v ∨ LookFailed v) → ∃ e, x = .error e)

/-! ### What one call sees -/

/-- No upsert is asked for. -/
def NoUpsert (t : Trace) : Prop :=
  ∀ v ∈ t, ∀ key expiresAt lockedAt, v.req ≠ .txKeyUpsert key expiresAt lockedAt

/-- In the trace `t` a look at one of the keys finds a row, which the next reading of the clock
shows to be unexpired; nothing was upserted before. -/
def FoundLive (keys : List String) (t : Trace) : Prop :=
  ∃ t₁ t₂ v key expiresAt date, t = t₁ ++ v :: ⟨.now, date⟩ :: t₂ ∧ key ∈ keys ∧
    (v = ⟨.keyFindUnique key, .ok (some expiresAt)⟩ ∨
      v = ⟨.txKeyFindUnique key, .ok (some expiresAt)⟩) ∧
    date < expiresAt ∧ NoUpsert t₁

theorem FoundLive.prepend {keys keys' : List String} {t t' : Trace} (h : FoundLive keys t)
    (ht : NoUpsert t') (hkeys : keys ⊆ keys') : FoundLive keys' (t' ++ t) := by
  obtain ⟨t₁, t₂, v, key, expiresAt, date, rfl, hkey, hv, hlt, hno⟩ := h
  refine ⟨t' ++ t₁, t₂, v, key, expiresAt, date, by simp, hkeys hkey, hv, hlt, fun w hw => ?_⟩
  rcases List.mem_append.1 hw with hw | hw
  · exact ht w hw
  · exact hno w hw

section Runs

variable {key : String} {expiresAt : Time} {t : Trace}

theorem isLive_runs {row : Option Time} {x : Except JsError Bool}
    (h : (PgIdempotencyStore.isLive row).Runs t x) :
    (row = none ∧ t = [] ∧ x = .ok false) ∨
      ∃ expiresAt date, row = some expiresAt ∧ t = [⟨.now, date⟩] ∧
        x = .ok (decide (expiresAt > date)) := by
  cases row with
  | none => exact Or.inl ⟨rfl, h.1, h.2⟩
  | some expiresAt =>
    obtain ⟨date, t', rfl, ht, hx⟩ := h
    exact Or.inr ⟨expiresAt, date, rfl, by rw [ht], hx⟩

theorem upsert_runs {x : Except JsError Bool}
    (h : (PgIdempotencyStore.upsert key expiresAt).Runs t x) :
    (∃ e, x = .error e ∧ ∃ v ∈ t, TxFailed v) ∨ (x = .ok true ∧ ∀ v ∈ t, ¬ TxFailed v) := by
  unfold PgIdempotencyStore.upsert at h
  rcases runs_bind.1 h with ⟨e, rfl, h'⟩ | ⟨lockedAt, t₁, t₂, rfl, h₁, h₂⟩
  · obtain ⟨a, -, hx⟩ := runs_request.1 h'
    cases hx
  obtain ⟨a, rfl, -⟩ := runs_request.1 h₁
  rcases runs_bind.1 h₂ with ⟨e, rfl, h'⟩ | ⟨u, t₃, t₄, rfl, h₃, h₄⟩
  · obtain ⟨b, rfl, rfl⟩ := runs_request.1 h'
    exact Or.inl ⟨e, rfl, by simp [TxFailed]⟩
  obtain ⟨b, rfl, rfl⟩ := runs_request.1 h₃
  rcases runs_bind.1 h₄ with ⟨e, rfl, h'⟩ | ⟨dateNow, t₅, t₆, rfl, h₅, h₆⟩
  · obtain ⟨a, -, hx⟩ := runs_request.1 h'
    cases hx
  obtain ⟨a', rfl, -⟩ := runs_request.1 h₅
  rcases runs_bind.1 h₆ with ⟨e, rfl, h'⟩ | ⟨u', t₇, t₈, rfl, h₇, h₈⟩
  · obtain ⟨c, rfl, rfl⟩ := runs_request.1 h'
    exact Or.inl ⟨e, rfl, by simp [TxFailed]⟩
  obtain ⟨c, rfl, rfl⟩ := runs_request.1 h₇
  obtain ⟨rfl, rfl⟩ := h₈
  exact Or.inr ⟨rfl, by simp [TxFailed]⟩

/-- The body of the transaction says `false` only of a row it saw to be unexpired. -/
theorem lock_runs {x : Except JsError Bool}
    (h : (PgIdempotencyStore.lock key expiresAt).Runs t x) :
    (∃ e, x = .error e ∧ ∃ v ∈ t, TxFailed v) ∨ (x = .ok true ∧ ∀ v ∈ t, ¬ TxFailed v) ∨
      (x = .ok false ∧ ∃ expiresAt date, date < expiresAt ∧
        t = [⟨.txKeyFindUnique key, .ok (some expiresAt)⟩, ⟨.now, date⟩]) := by
  unfold PgIdempotencyStore.lock at h
  rcases runs_bind.1 h with ⟨e, rfl, h'⟩ | ⟨row, t₁, t₂, rfl, h₁, h₂⟩
  · obtain ⟨a, rfl, rfl⟩ := runs_request.1 h'
    exact Or.inl ⟨e, rfl, by simp [TxFailed]⟩
  obtain ⟨a, rfl, rfl⟩ := runs_request.1 h₁
  rcases runs_bind.1 h₂ with ⟨e, rfl, h'⟩ | ⟨live, t₃, t₄, rfl, h₃, h₄⟩
  · rcases isLive_runs h' with ⟨-, -, hx⟩ | ⟨_, _, -, -, hx⟩ <;> cases hx
  have hbefore : ∀ v ∈ t₃, ¬ TxFailed v := by
    rcases isLive_runs h₃ with ⟨-, rfl, -⟩ | ⟨_, _, -, rfl, -⟩ <;> simp [TxFailed]
  cases live with
  | true =>
    rcases isLive_runs h₃ with ⟨-, -, hx⟩ | ⟨expiresAt', date, rfl, rfl, hlive⟩
    · cases hx
    obtain ⟨rfl, rfl⟩ := h₄
    have hlt : date < expiresAt' := by simpa using hlive.symm
    exact Or.inr (Or.inr ⟨rfl, expiresAt', date, hlt, rfl⟩)
  | false =>
    rcases upsert_runs h₄ with ⟨e, rfl, v, hv, hfail⟩ | ⟨rfl, hok⟩
    · exact Or.inl ⟨e, rfl, v, by simp [hv], hfail⟩
    · refine Or.inr (Or.inl ⟨rfl, fun v hv => ?_⟩)
      simp only [List.cons_append, List.nil_append, List.mem_cons, List.mem_append] at hv
      rcases hv with rfl | hv | hv
      · simp [TxFailed]
      · exact hbefore v hv
      · exact hok v hv

/-- A settled transaction: either a statement failed, or the body's trace stands between a
successful begin and a successful commit. -/
theorem transaction_runs {α : Type} {body : Prog α} {x : Except JsError α}
    (h : (transaction body).Runs t x) (hbody : ∀ t e, body.Runs t (.error e) → ∃ v ∈ t, TxFailed v) :
    (∃ e, x = .error e ∧ ∃ v ∈ t, TxFailed v) ∨
      ∃ a t', x = .ok a ∧ body.Runs t' (.ok a) ∧
        t = ⟨.txBegin, .ok ()⟩ :: t' ++ [⟨.txCommit, .ok ()⟩] := by
  have hcommitted : ∀ {t x}, (do let a ← body; txCommit; pure a : Prog α).Runs t x →
      (∃ e, x = .error e ∧ ∃ v ∈ t, TxFailed v) ∨
        ∃ a t', x = .ok a ∧ body.Runs t' (.ok a) ∧ t = t' ++ [⟨.txCommit, .ok ()⟩] := by
    intro t x h
    rcases runs_bind.1 h with ⟨e, rfl, h'⟩ | ⟨a, t₁, t₂, rfl, h₁, h₂⟩
    · exact Or.inl ⟨e, rfl, hbody t e h'⟩
    rcases runs_bind.1 h₂ with ⟨e, rfl, h'⟩ | ⟨u, t₃, t₄, rfl, h₃, h₄⟩
    · obtain ⟨b, rfl, rfl⟩ := runs_request.1 h'
      exact Or.inl ⟨e, rfl, by simp [TxFailed]⟩
    obtain ⟨b, rfl, rfl⟩ := runs_request.1 h₃
    obtain ⟨rfl, rfl⟩ := h₄
    exact Or.inr ⟨a, t₁, rfl, h₁, by simp⟩
  unfold transaction at h
  rcases runs_bind.1 h with ⟨e, rfl, h'⟩ | ⟨u, t₁, t₂, rfl, h₁, h₂⟩
  · obtain ⟨a, rfl, rfl⟩ := runs_request.1 h'
    exact Or.inl ⟨e, rfl, by simp [TxFailed]⟩
  obtain ⟨a, rfl, rfl⟩ := runs_request.1 h₁
  rcases runs_tryCatch.1 h₂ with ⟨a, rfl, h'⟩ | ⟨e, t₃, t₄, rfl, h₃, h₄⟩
  · rcases hcommitted h' with ⟨e, hx, -⟩ | ⟨a', t', hx, hrun, rfl⟩
    · cases hx
    · cases hx
      exact Or.inr ⟨a, t', rfl, hrun, rfl⟩
  · rcases hcommitted h₃ with ⟨e', hx, v, hv, hfail⟩ | ⟨a', t', hx, -⟩
    · cases hx
      refine Or.inl ⟨e, ?_, v, by simp [hv], hfail⟩
      -- whatever becomes of the rollback, the error is thrown again
      rcases runs_bind.1 h₄ with ⟨e', -, h'⟩ | ⟨u, _, _, -, -, h'⟩
      · rcases runs_tryCatch.1 h' with ⟨a, hx, -⟩ | ⟨_, _, _, -, -, -, hx⟩ <;> cases hx
      · exact h'.2
    · cases hx

/-- `setIfNotExists` never rejects; it says `false` of a row it saw to be unexpired, or because
a statement failed. -/
theorem setIfNotExists_runs {ttlSeconds : ℕ} {x : Except JsError Bool}
    (h : (PgIdempotencyStore.setIfNotExists key ttlSeconds).Runs t x) :
    (x = .ok false ∧ ∃ v ∈ t, TxFailed v) ∨ (x = .ok true ∧ ∀ v ∈ t, ¬ TxFailed v) ∨
      (x = .ok false ∧ FoundLive [key] t ∧ ∀ v ∈ t, ¬ TxFailed v) := by
  unfold PgIdempotencyStore.setIfNotExists at h
  rcases runs_bind.1 h with ⟨e, rfl, h'⟩ | ⟨dateNow, t₁, t₂, rfl, h₁, h₂⟩
  · obtain ⟨a, -, hx⟩ := runs_request.1 h'
    cases hx
  obtain ⟨a, rfl, -⟩ := runs_request.1 h₁
  have hlock : ∀ t e, (PgIdempotencyStore.lock key (dateNow + ttlSeconds * 1000)).Runs t (.error e) →
      ∃ v ∈ t, TxFailed v := by
    intro t e h
    rcases lock_runs h with ⟨_, -, hfail⟩ | ⟨hx, -⟩ | ⟨hx, -⟩
    · exact hfail
    · cases hx
    · cases hx
  rcases runs_tryCatch.1 h₂ with ⟨b, rfl, h'⟩ | ⟨e, t₃, t₄, rfl, h₃, ⟨rfl, rfl⟩⟩
  · rcases transaction_runs h' hlock with ⟨e, hx, -⟩ | ⟨b', t', hx, hrun, rfl⟩
    · cases hx
    cases hx
    rcases lock_runs hrun with ⟨e, hx, -⟩ | ⟨hx, hok⟩ | ⟨hx, expiresAt, date, hlt, rfl⟩
    · cases hx
    · refine Or.inr (Or.inl ⟨hx, fun v hv => ?_⟩)
      simp only [List.cons_append, List.nil_append, List.mem_cons, List.mem_append,
        List.not_mem_nil, or_false] at hv
      rcases hv with rfl | rfl | hv | rfl
      · simp [TxFailed]
      · simp [TxFailed]
      · exact hok v hv
      · simp [TxFailed]
    · refine Or.inr (Or.inr ⟨hx, ?_, by simp [TxFailed]⟩)
      exact ⟨[⟨.now, a⟩, ⟨.txBegin, .ok ()⟩], _, _, key, expiresAt, date, rfl, by simp, Or.inr rfl,
        hlt, by simp [NoUpsert]⟩
  · rcases transaction_runs h₃ hlock with ⟨_, -, v, hv, hfail⟩ | ⟨_, _, hx, -⟩
    · exact Or.inl ⟨rfl, v, by simp [hv], hfail⟩
    · cases hx

/-- The loop over the keys rejects if a look fails, and says `true` of a row it saw to be
unexpired. -/
theorem anyExists_runs {keys : List String} {x : Except JsError Bool}
    (h : (IdempotencyService.anyExists pgStore keys).Runs t x) :
    (∃ e, x = .error e) ∨ (x = .ok false ∧ ∀ v ∈ t, ¬ LookFailed v) ∨
      (x = .ok true ∧ FoundLive keys t ∧ ∀ v ∈ t, ¬ LookFailed v) := by
  induction keys generalizing t with
  | nil => exact Or.inr (Or.inl ⟨h.2, by simp [h.1]⟩)
  | cons candidate keys ih =>
    rcases runs_bind.1 h with ⟨e, rfl, h'⟩ | ⟨found, t₁, t₂, rfl, h₁, h₂⟩
    · exact Or.inl ⟨e, rfl⟩
    rcases runs_bind.1 h₁ with ⟨e, hx, -⟩ | ⟨row, t₃, t₄, rfl, h₃, h₄⟩
    · cases hx
    obtain ⟨a, rfl, rfl⟩ := runs_request.1 h₃
    cases found with
    | true =>
      obtain ⟨rfl, rfl⟩ := h₂
      rcases isLive_runs h₄ with ⟨-, -, hx⟩ | ⟨expiresAt, date, rfl, rfl, hlive⟩
      · cases hx
      have hlt : date < expiresAt := by simpa using hlive.symm
      refine Or.inr (Or.inr ⟨rfl, ?_, by simp [LookFailed]⟩)
      exact ⟨[], [], _, candidate, expiresAt, date, rfl, by simp, Or.inl rfl, hlt,
        by simp [NoUpsert]⟩
    | false =>
      have hbefore : (∀ v ∈ (⟨.keyFindUnique candidate, .ok row⟩ :: t₄ : Trace), ¬ LookFailed v) ∧
          NoUpsert (⟨.keyFindUnique candidate, .ok row⟩ :: t₄) := by
        rcases isLive_runs h₄ with ⟨-, rfl, -⟩ | ⟨_, _, -, rfl, -⟩ <;> simp [LookFailed, NoUpsert]
      have hnot : ∀ v ∈ ⟨.keyFindUnique candidate, .ok row⟩ :: t₄ ++ t₂,
          (∀ v ∈ t₂, ¬ LookFailed v) → ¬ LookFailed v := by
        intro v hv hok
        rcases List.mem_append.1 hv with hv | hv
        · exact hbefore.1 v hv
        · exact hok v hv
      rcases ih h₂ with ⟨e, rfl⟩ | ⟨rfl, hok⟩ | ⟨rfl, hlive, hok⟩
      · exact Or.inl ⟨e, rfl⟩
      · exact Or.inr (Or.inl ⟨rfl, fun v hv => hnot v hv hok⟩)
      · refine Or.inr (Or.inr ⟨rfl, ?_, fun v hv => hnot v hv hok⟩)
        exact hlive.prepend hbefore.2 (by simp)

/-! ### What a call asks for -/

/-- The loop over the keys only looks. -/
theorem anyExists_issues (keys : List String) :
    (IdempotencyService.anyExists pgStore keys).Issues
      fun r => r = .now ∨ ∃ key, r = .keyFindUnique key := by
  induction keys with
  | nil => exact issues_pure
  | cons candidate keys ih =>
    refine Issues.bind (Issues.bind ⟨Or.inr ⟨candidate, rfl⟩, fun _ => issues_settle⟩ fun row => ?_)
      fun found => ?_
    · cases row with
      | none => exact issues_pure
      | some expiresAt => exact ⟨Or.inl rfl, fun _ => issues_pure⟩
    · cases found with
      | true => exact issues_pure
      | false => exact ih

/-- The transaction never looks from outside, and upserts no other key. -/
def TxRequest (key : String) (r : Req) : Prop :=
  (∀ key', r ≠ .keyFindUnique key') ∧
    ∀ key' expiresAt lockedAt, r = .txKeyUpsert key' expiresAt lockedAt → key' = key

theorem setIfNotExists_issues (key : String) (ttlSeconds : ℕ) :
    (PgIdempotencyStore.setIfNotExists key ttlSeconds).Issues (TxRequest key) := by
  have hlock : ∀ expiresAt, (PgIdempotencyStore.lock key expiresAt).Issues (TxRequest key) := by
    intro expiresAt
    refine Issues.bind ⟨by simp [TxRequest], fun _ => issues_settle⟩ fun row => Issues.bind ?_ ?_
    · cases row with
      | none => exact issues_pure
      | some expiresAt => exact ⟨by simp [TxRequest], fun _ => issues_pure⟩
    · rintro (_ | _)
      · refine Issues.bind ⟨by simp [TxRequest], fun _ => issues_settle⟩ fun lockedAt => ?_
        refine Issues.bind ⟨?_, fun _ => issues_settle⟩ fun u => ?_
        · refine ⟨by simp, fun key' _ _ h => ?_⟩
          cases h
          rfl
        refine Issues.bind ⟨by simp [TxRequest], fun _ => issues_settle⟩ fun dateNow => ?_
        exact Issues.bind ⟨by simp [TxRequest], fun _ => issues_settle⟩ fun _ => issues_pure
      · exact issues_pure
  refine Issues.bind ⟨by simp [TxRequest], fun _ => issues_settle⟩ fun dateNow => ?_
  refine Issues.tryCatch ?_ fun _ => issues_pure
  refine Issues.bind ⟨by simp [TxRequest], fun _ => issues_settle⟩ fun u => ?_
  refine Issues.tryCatch ?_ fun e => ?_
  · refine Issues.bind (hlock _) fun b => ?_
    exact Issues.bind ⟨by simp [TxRequest], fun _ => issues_settle⟩ fun _ => issues_pure
  · refine Issues.bind (Issues.tryCatch ⟨by simp [TxRequest], fun _ => issues_settle⟩ ?_) fun _ =>
      issues_throw
    exact fun _ => issues_pure

/-- Giving a lock back only deletes. -/
theorem deleteAll_issues (keys : List String) :
    (IdempotencyService.deleteAll pgStore keys).Issues fun r => ∃ key, r = .keyDelete key := by
  induction keys with
  | nil => exact issues_pure
  | cons candidate keys ih =>
    refine Issues.bind (Issues.tryCatch (Issues.tryCatch ⟨⟨candidate, rfl⟩, fun _ => issues_settle⟩
      fun _ => issues_pure) fun e => ?_) fun _ => ih
    exact Issues.bind (Issues.tryCatch ih fun _ => issues_pure) fun _ => issues_throw

variable {app : App} {dto : ProcessingPayload}

theorem store_eq_pgStore (hpg : app.config.isRedisEnabled = false) :
    IdempotencyService.store app = pgStore := by simp [IdempotencyService.store, hpg]

/-- What follows the attempt to lock leaves the locks alone, but for deletions. -/
theorem processLocked_issues (hpg : app.config.isRedisEnabled = false) (isRead : Bool) :
    (tryCatch (WebhookService.process app dto isRead) (WebhookService.processFailed app dto)).Issues
      fun r => r.area ≠ .keys ∨ ∃ key, r = .keyDelete key := by
  refine Issues.tryCatch (Issues.mono (webhook_process_footprint app dto isRead) ?_) fun e => ?_
  · rintro r hr
    refine Or.inl fun h => ?_
    rw [h] at hr
    exact absurd hr (by decide)
  · unfold WebhookService.processFailed
    split
    · exact issues_throw
    · refine Issues.bind ?_ fun _ => issues_throw
      refine Issues.bind issues_settle fun keys => ?_
      rw [store_eq_pgStore hpg]
      exact (deleteAll_issues keys).mono fun r hr => Or.inr hr

/-! ### A whole call, by its result -/

theorem txFailed_area {v : Ev} (h : TxFailed v) :
    v.req.area = .keys ∧ (∀ key, v.req ≠ .keyDelete key) ∧ (∀ key, v.req ≠ .keyFindUnique key) := by
  unfold TxFailed at h
  split at h <;> first | exact ⟨rfl, by simp, by simp⟩ | exact h.elim

theorem lookFailed_req {v : Ev} (h : LookFailed v) : ∃ key, v.req = .keyFindUnique key := by
  unfold LookFailed at h
  split at h
  · exact ⟨_, rfl⟩
  · exact h.elim

/-- What a trace shows when a call says that its event is new, or not, or rejects. -/
def LockOutcome (keys : List String) (t : Trace) : Except JsError Bool → Prop
  | .error _ => ∀ v ∈ t, ¬ TxFailed v
  | .ok true => ∀ v ∈ t, ¬ TxFailed v ∧ ¬ LookFailed v
  | .ok false => (∃ v ∈ t, TxFailed v) ∨
      (FoundLive keys t ∧ ∀ v ∈ t, ¬ TxFailed v ∧ ¬ LookFailed v)

theorem setFirst_runs {keys : List String} {ttlSeconds : ℕ} {x : Except JsError Bool}
    (h : (IdempotencyService.setFirst pgStore ttlSeconds keys).Runs t x) : LockOutcome keys t x := by
  cases keys with
  | nil =>
    obtain ⟨rfl, rfl⟩ := h
    simp [LockOutcome]
  | cons first keys =>
    have hlook : ∀ v ∈ t, ¬ LookFailed v := by
      intro v hv hfail
      obtain ⟨key, hkey⟩ := lookFailed_req hfail
      exact ((setIfNotExists_issues first ttlSeconds).of_runs h v hv).1 key hkey
    rcases setIfNotExists_runs h with ⟨rfl, hfail⟩ | ⟨rfl, hok⟩ | ⟨rfl, hlive, hok⟩
    · exact Or.inl hfail
    · exact fun v hv => ⟨hok v hv, hlook v hv⟩
    · refine Or.inr ⟨?_, fun v hv => ⟨hok v hv, hlook v hv⟩⟩
      simpa using (hlive.prepend (by simp [NoUpsert]) (by simp) : FoundLive (first :: keys) ([] ++ _))

theorem checkAndLock_runs (hpg : app.config.isRedisEnabled = false) {ttlSeconds : ℕ}
    {x : Except JsError Bool}
    (h : (IdempotencyService.checkAndLock app (WebhookService.idempotencyKey dto) ttlSeconds).Runs
      t x) : LockOutcome (storeKeys app dto) t x := by
  unfold IdempotencyService.checkAndLock at h
  rw [store_eq_pgStore hpg] at h
  rcases runs_bind.1 h with ⟨e, rfl, h'⟩ | ⟨keys, t₁, t₂, rfl, ⟨rfl, hkeys⟩, h₂⟩
  · simp [LockOutcome, h'.1]
  have hstore : storeKeys app dto = keys := by simp [storeKeys, ← hkeys]
  rw [hstore, List.nil_append]
  have hlook : ∀ {t y}, (IdempotencyService.isDuplicate pgStore keys).Runs t y →
      (∀ v ∈ t, ¬ TxFailed v) ∧ NoUpsert t ∧ ((∃ e, y = .error e) ∨
        (y = .ok false ∧ ∀ v ∈ t, ¬ LookFailed v) ∨
        (y = .ok true ∧ FoundLive keys t ∧ ∀ v ∈ t, ¬ LookFailed v)) := by
    intro t y h
    unfold IdempotencyService.isDuplicate at h
    split at h
    · have hreq := (anyExists_issues keys).of_runs h
      refine ⟨fun v hv hfail => ?_, fun v hv key E l heq => ?_, anyExists_runs h⟩
      · obtain ⟨harea, -, hnot⟩ := txFailed_area hfail
        rcases hreq v hv with heq | ⟨key, heq⟩
        · rw [heq] at harea
          cases harea
        · exact hnot key heq
      · rcases hreq v hv with h | ⟨key, h⟩ <;> rw [h] at heq <;> cases heq
    · obtain ⟨rfl, rfl⟩ := h
      simp [NoUpsert]
  rcases runs_bind.1 h₂ with ⟨e, rfl, h'⟩ | ⟨duplicate, t₃, t₄, rfl, h₃, h₄⟩
  · exact (hlook h').1
  obtain ⟨htx, hno, hres⟩ := hlook h₃
  cases duplicate with
  | true =>
    obtain ⟨rfl, rfl⟩ := h₄
    rcases hres with ⟨e, hx⟩ | ⟨hx, -⟩ | ⟨-, hlive, hlook⟩
    · cases hx
    · cases hx
    · rw [List.append_nil]
      exact Or.inr ⟨hlive, fun v hv => ⟨htx v hv, hlook v hv⟩⟩
  | false =>
    have hlook : ∀ v ∈ t₃, ¬ LookFailed v := by
      rcases hres with ⟨e, hx⟩ | ⟨-, hlook⟩ | ⟨hx, -⟩
      · cases hx
      · exact hlook
      · cases hx
    have hall : ∀ {P : Ev → Prop}, (∀ v ∈ t₃, P v) → (∀ v ∈ t₄, P v) → ∀ v ∈ t₃ ++ t₄, P v := by
      intro P h₃ h₄ v hv
      exact (List.mem_append.1 hv).elim (h₃ v) (h₄ v)
    have hbefore : ∀ v ∈ t₃, ¬ TxFailed v ∧ ¬ LookFailed v := fun v hv => ⟨htx v hv, hlook v hv⟩
    have hset := setFirst_runs (show (IdempotencyService.setFirst pgStore ttlSeconds keys).Runs t₄ x
      from h₄)
    match x, hset with
    | .error e, hset => exact hall htx hset
    | .ok true, hset => exact hall hbefore hset
    | .ok false, Or.inl ⟨v, hv, hfail⟩ => exact Or.inl ⟨v, by simp [hv], hfail⟩
    | .ok false, Or.inr ⟨hlive, hok⟩ =>
      exact Or.inr ⟨hlive.prepend hno (List.Subset.refl _), hall hbefore hok⟩

/-- The same for a whole call on a write event. -/
theorem processWebhook_runs (hpg : app.config.isRedisEnabled = false)
    {x : Except JsError ProcessResult}
    (h : (WebhookService.processWebhook app dto false).Runs t x) :
    LockOutcome (storeKeys app dto) t (x.map fun result => result.processed) := by
  unfold WebhookService.processWebhook at h
  rcases runs_bind.1 h with ⟨e, rfl, h'⟩ | ⟨isNew, t₁, t₂, rfl, h₁, h₂⟩
  · exact checkAndLock_runs hpg h'
  have hlock := checkAndLock_runs hpg h₁
  cases isNew with
  | false =>
    obtain ⟨rfl, rfl⟩ := h₂
    rw [List.append_nil]
    exact hlock
  | true =>
    have hrest : ∀ v ∈ t₂, ¬ TxFailed v ∧ ¬ LookFailed v := by
      intro v hv
      have hreq := (processLocked_issues hpg false).of_runs h₂ v hv
      constructor
      · intro hfail
        obtain ⟨harea, hdelete, -⟩ := txFailed_area hfail
        rcases hreq with hne | ⟨key, heq⟩
        · exact hne harea
        · exact hdelete key heq
      · intro hfail
        obtain ⟨key, hkey⟩ := lookFailed_req hfail
        rcases hreq with hne | ⟨key', heq⟩
        · exact hne (by rw [hkey]; rfl)
        · rw [hkey] at heq
          cases heq
    have hall : ∀ v ∈ t₁ ++ t₂, ¬ TxFailed v ∧ ¬ LookFailed v := by
      intro v hv
      exact (List.mem_append.1 hv).elim (hlock v) (hrest v)
    have hprocessed : ∀ result, x = .ok result → result.processed = true := by
      rintro result rfl
      rcases runs_tryCatch.1 h₂ with ⟨_, hx, h'⟩ | ⟨e, _, t₄, -, -, h'⟩
      · cases hx
        rcases runs_bind.1 h' with ⟨_, hx, -⟩ | ⟨_, _, _, -, -, hpure⟩
        · cases hx
        · cases hpure.2
          rfl
      · -- the error is thrown again
        unfold WebhookService.processFailed at h'
        split at h'
        · cases h'.2
        · rcases runs_bind.1 h' with ⟨_, hx, -⟩ | ⟨_, _, _, -, -, hthrow⟩
          · cases hx
          · cases hthrow.2
    cases x with
    | error e => exact fun v hv => (hall v hv).1
    | ok result =>
      show LockOutcome _ _ (.ok result.processed)
      rw [hprocessed result rfl]
      exact hall

/-- A call only upserts store keys of its event. -/
theorem processWebhook_issues (hpg : app.config.isRedisEnabled = false) (isRead : Bool) :
    (WebhookService.processWebhook app dto isRead).Issues fun r =>
      ∀ key expiresAt lockedAt, r = .txKeyUpsert key expiresAt lockedAt →
        key ∈ storeKeys app dto := by
  unfold WebhookService.processWebhook IdempotencyService.checkAndLock
  rw [store_eq_pgStore hpg]
  refine Issues.bind ?_ fun isNew => ?_
  · cases hkeys : app.encryption.idempotencyKeys (WebhookService.idempotencyKey dto) with
    | error e => exact issues_settle
    | ok keys =>
      have hstore : storeKeys app dto = keys := by simp [storeKeys, hkeys]
      rw [hstore]
      refine Issues.bind (p := IdempotencyService.isDuplicate pgStore keys)
        (f := fun duplicate => if duplicate then pure false
          else IdempotencyService.setFirst pgStore 3600 keys) ?_ fun duplicate => ?_
      · unfold IdempotencyService.isDuplicate
        split
        · refine (anyExists_issues keys).mono ?_
          rintro r (rfl | ⟨key, rfl⟩) <;> simp
        · exact issues_pure
      · cases duplicate with
        | true => exact issues_pure
        | false =>
          cases keys with
          | nil => exact issues_throw
          | cons first keys =>
            refine (setIfNotExists_issues first 3600).mono fun r hr key E l heq => ?_
            rw [hr.2 key E l heq]
            simp
  · cases isNew with
    | false => exact issues_pure
    | true =>
      refine (processLocked_issues hpg isRead).mono ?_
      rintro r (hne | ⟨key, rfl⟩)
      · rintro key E l rfl
        exact absurd rfl hne
      · simp

end Runs

/-! ### Where the rows come from -/

section History

variable {app : App} {calls : ι → WebhookCall} {d : StoreState ι} {es : List (WebhookEntry ι)}
  {p : WebhookPool ι}

/-- Slot `j` has upserted the row. -/
def Upserted (es : List (WebhookEntry ι)) (j : ι) (key : String) (expiresAt : Time) : Prop :=
  ∃ lockedAt, ⟨.txKeyUpsert key expiresAt lockedAt, .ok ()⟩ ∈ System.traceOf j es

/-- Every row was upserted by a call that has committed; every uncommitted write is an upsert of its
own call. -/
def RowsUpserted (es : List (WebhookEntry ι)) (s : StoreState ι) : Prop :=
  (∀ key expiresAt, s.db.committed key = some expiresAt →
    ∃ j, Upserted es j key expiresAt ∧ ⟨.txCommit, .ok ()⟩ ∈ System.traceOf j es) ∧
  ∀ j w key expiresAt, s.db.tx j = some w → w key = some (some expiresAt) →
    Upserted es j key expiresAt

theorem Upserted.append {j : ι} {key : String} {expiresAt : Time} (h : Upserted es j key expiresAt)
    (es' : List (WebhookEntry ι)) : Upserted (es ++ es') j key expiresAt := by
  obtain ⟨lockedAt, h⟩ := h
  exact ⟨lockedAt, by rw [System.traceOf_append]; exact List.mem_append_left _ h⟩

theorem RowsUpserted.append {s : StoreState ι} (h : RowsUpserted es s)
    (es' : List (WebhookEntry ι)) : RowsUpserted (es ++ es') s := by
  refine ⟨fun key expiresAt hrow => ?_, fun j w key expiresAt hw hk => ?_⟩
  · obtain ⟨j, hup, hcommit⟩ := h.1 key expiresAt hrow
    exact ⟨j, hup.append es', by rw [System.traceOf_append]; exact List.mem_append_left _ hcommit⟩
  · exact (h.2 j w key expiresAt hw hk).append es'

/-- A row that a transaction sees is committed, or its own upsert. -/
theorem RowsUpserted.view {s : StoreState ι} (h : RowsUpserted es s) {i : ι} {key : String}
    {expiresAt : Time} (hview : s.db.view i key = some expiresAt) :
    s.db.committed key = some expiresAt ∨ Upserted es i key expiresAt := by
  unfold Db.view at hview
  cases hw : s.db.tx i with
  | none => exact Or.inl (by simpa [hw] using hview)
  | some w =>
    rw [hw] at hview
    cases hk : w key with
    | none => exact Or.inl (by simpa [hk] using hview)
    | some v =>
      obtain rfl : v = some expiresAt := by simpa [hk] using hview
      exact Or.inr (h.2 i w key expiresAt hw hk)

theorem RowsUpserted.env {m : WebhookPool ι} (m' : WebhookPool ι) {i : ι} {r : Req} {a : Ans r}
    (h : RowsUpserted es m.shared) (henv : StoreEnv i m.shared r a m'.shared) :
    RowsUpserted (es ++ [⟨m, .call i ⟨r, a⟩, m'⟩]) m'.shared := by
  have htrace : (⟨r, a⟩ : Ev) ∈ System.traceOf i (es ++ [⟨m, .call i ⟨r, a⟩, m'⟩]) := by
    rw [System.traceOf_append, System.traceOf_call]
    simp
  have hold := h.append [⟨m, .call i ⟨r, a⟩, m'⟩]
  generalize m'.shared = s' at henv ⊢
  generalize es ++ [⟨m, .call i ⟨r, a⟩, m'⟩] = es' at htrace hold ⊢
  generalize m.shared = s at henv hold
  -- the writes of the other transactions are untouched
  have hother : ∀ j w key expiresAt, j ≠ i → s'.db.tx j = some w →
      w key = some (some expiresAt) → Upserted es' j key expiresAt := by
    intro j w key expiresAt hj hw hk
    rw [henv.tx_eq hj] at hw
    exact hold.2 j w key expiresAt hw hk
  have htx : (∀ w key expiresAt, s'.db.tx i = some w → w key = some (some expiresAt) →
      Upserted es' i key expiresAt) → ∀ j w key expiresAt, s'.db.tx j = some w →
      w key = some (some expiresAt) → Upserted es' j key expiresAt := by
    intro hself j w key expiresAt hw hk
    by_cases hj : j = i
    · subst hj
      exact hself w key expiresAt hw hk
    · exact hother j w key expiresAt hj hw hk
  cases henv.effect with
  | none => exact hold
  | begin =>
    refine ⟨hold.1, htx fun w key expiresAt hw hk => ?_⟩
    obtain rfl : (fun _ => none) = w := by simpa [Db.begin] using hw
    cases hk
  | abort => exact ⟨hold.1, htx fun w key expiresAt hw hk => by simp [Db.abort] at hw⟩
  | @upsert key' E lockedAt hwrite =>
    refine ⟨hold.1, htx fun w key expiresAt hw hk => ?_⟩
    obtain ⟨w₀, hw₀⟩ := hwrite.1
    obtain rfl : Function.update w₀ key' (some (some E)) = w := by
      simpa [Db.write, hw₀] using hw
    by_cases hkey : key = key'
    · subst hkey
      obtain rfl : E = expiresAt := by simpa using hk
      exact ⟨lockedAt, htrace⟩
    · exact hold.2 i w₀ key expiresAt hw₀ (by simpa [hkey] using hk)
  | @deleteMany t hdelete =>
    refine ⟨hold.1, htx fun w key expiresAt hw hk => ?_⟩
    obtain ⟨w₀, hw₀⟩ := hdelete.1
    have hdel : (fun k => if (s.db.view i k).any (· < t) then some none else w₀ k) = w := by
      simpa [Db.deleteWhere, hw₀] using hw
    subst hdel
    dsimp only at hk
    split at hk
    · cases hk
    · exact hold.2 i w₀ key expiresAt hw₀ hk
  | commit _ =>
    refine ⟨fun key expiresAt hrow => ?_,
      htx fun w key expiresAt hw hk => by simp [Db.commit] at hw⟩
    rcases hold.view (show s.db.view i key = some expiresAt from hrow) with hrow | hup
    · exact hold.1 key expiresAt hrow
    · exact ⟨i, hup, htrace⟩
  | @erase key' _ _ =>
    refine ⟨fun key expiresAt hrow => ?_, hold.2⟩
    by_cases hkey : key = key'
    · simp [hkey] at hrow
    · exact hold.1 key expiresAt (by simpa [hkey] using hrow)

theorem rows_of_exec (hd : d.db.Quiescent) (hempty : ∀ key, d.db.committed key = none)
    (h : (webhookSystem app calls).Exec (.idle d) es p) : RowsUpserted es p.shared := by
  generalize hs : Pool.idle d = s at h
  induction h with
  | nil =>
    subst hs
    refine ⟨fun key expiresAt hrow => ?_, fun j w key expiresAt hw _ => ?_⟩
    · rw [show (Pool.idle d : WebhookPool ι).shared.db.committed key = none from hempty key] at hrow
      cases hrow
    · rw [show (Pool.idle d : WebhookPool ι).shared.db.tx j = none from hd j] at hw
      cases hw
  | @snoc m p es l h hstep ih =>
    cases hstep with
    | call _ henv => exact RowsUpserted.env ⟨_, _⟩ ih henv
    | start _ hp =>
      obtain ⟨-, rfl⟩ := hp
      exact ih.append _
    | @tick s' ht =>
      have hold := ih.append [⟨m, .tick, ⟨s', m.thread⟩⟩]
      cases ht with
      | clock ht => exact hold
      | @lost i =>
        refine ⟨hold.1, fun j w key expiresAt hw hk => ?_⟩
        by_cases hj : j = i
        · simp [Db.abort, hj] at hw
        · exact hold.2 j w key expiresAt (by simpa [Db.abort, hj] using hw) hk

theorem clock_le_of_exec {m : WebhookPool ι} (h : (webhookSystem app calls).Exec m es p) :
    m.shared.clock ≤ p.shared.clock := by
  refine h.invariant (I := fun n => m.shared.clock ≤ n.shared.clock) ?_ le_rfl
  rintro ⟨n, l, n'⟩ _ hstep hn
  change (webhookSystem app calls).Step n l n' at hstep
  cases hstep with
  | call _ henv => exact henv.clock_eq ▸ hn
  | start _ hp =>
    obtain ⟨-, rfl⟩ := hp
    exact hn
  | tick ht => exact le_trans hn ht.clock_le

/-- The upserts of a slot are for store keys of its event. -/
theorem Upserted.key_mem (hpg : app.config.isRedisEnabled = false)
    (h : (webhookSystem app calls).Exec (.idle d) es p) {j : ι} {key : String} {expiresAt : Time}
    (hup : Upserted es j key expiresAt) : key ∈ storeKeys app (calls j).dto := by
  obtain ⟨lockedAt, hmem⟩ := hup
  rcases h.follows_of_idle j with ⟨-, hnil⟩ | ⟨p₀, q, s₀, s₁, -, ⟨rfl, -⟩, hf⟩
  · rw [hnil] at hmem
    cases hmem
  · exact (processWebhook_issues hpg _).of_follows hf _ hmem key expiresAt lockedAt rfl

/-- What a slot found unexpired is the lock of an earlier call for its event. -/
theorem earlierLock_of_foundLive (hpg : app.config.isRedisEnabled = false)
    (hd : d.db.Quiescent) (hempty : ∀ key, d.db.committed key = none)
    (h : (webhookSystem app calls).Exec (.idle d) es p) (hsep : KeysSeparate app calls) {i : ι}
    (hlive : FoundLive (storeKeys app (calls i).dto) (System.traceOf i es)) :
    EarlierLock app calls i es := by
  obtain ⟨t₁, t₂, v, key, expiresAt, date, htrace, hkey, hv, hlt, hno⟩ := hlive
  obtain ⟨es₁, e, es', rfl, hlabel, rfl, htrace'⟩ := System.exists_step_of_traceOf htrace
  obtain ⟨es₃, e', es₄, rfl, hlabel', -, -⟩ := System.exists_step_of_traceOf
    (by simpa using htrace' : System.traceOf i es' = [] ++ _ :: _)
  obtain ⟨h₁, hstep, h₂⟩ := System.exec_middle_iff.1 h
  obtain ⟨h₂, hstep', -⟩ := System.exec_middle_iff.1 h₂
  rw [hlabel] at hstep
  rw [hlabel'] at hstep'
  obtain ⟨k, -, henv, -⟩ := hstep.call_inv
  obtain ⟨k', -, henv', -⟩ := hstep'.call_inv
  have hrows := rows_of_exec hd hempty h₁
  have hnotself : ¬ Upserted es₁ i key expiresAt := by
    rintro ⟨lockedAt, hmem⟩
    exact hno _ hmem key expiresAt lockedAt rfl
  have hrow : e.before.shared.db.committed key = some expiresAt := by
    rcases hv with rfl | rfl
    · exact henv.keyFind_eq
    · exact (hrows.view henv.find_eq).resolve_right hnotself
  obtain ⟨j, hup, hcommit⟩ := hrows.1 key expiresAt hrow
  have hji : j ≠ i := by
    rintro rfl
    exact hnotself hup
  have hclock : e.before.shared.clock < expiresAt := by
    calc e.before.shared.clock = e.after.shared.clock := henv.clock_eq.symm
      _ ≤ e'.before.shared.clock := clock_le_of_exec h₂
      _ = date := henv'.now_eq.symm
      _ < expiresAt := hlt
  have hsame := hsep j i key (hup.key_mem hpg h₁) hkey
  obtain ⟨lockedAt, hup⟩ := hup
  exact ⟨es₁, e, _, v, j, key, expiresAt, lockedAt, rfl, hlabel, hji, hsame, hkey, hup, hcommit,
    hrow, hclock⟩

/-- A call on a write event drops nothing silently exactly when no statement of its lock
transaction failed. -/
theorem noSilentDrop_iff (hpg : app.config.isRedisEnabled = false)
    (hd : d.db.Quiescent) (hempty : ∀ key, d.db.committed key = none)
    (h : (webhookSystem app calls).Exec (.idle d) es p) (hsep : KeysSeparate app calls) {i : ι}
    (hwrite : (calls i).isRead = false) {x : Except JsError ProcessResult}
    (hx : p.thread i = some (.settle x)) :
    NoSilentDrop app calls i es x ↔ ∀ v ∈ System.traceOf i es, ¬ TxFailed v := by
  have houtcome : LockOutcome (storeKeys app (calls i).dto) (System.traceOf i es)
      (x.map fun result => result.processed) := by
    rcases h.follows_of_idle i with ⟨hnone, -⟩ | ⟨p₀, q, s₀, s₁, hq, ⟨rfl, -⟩, hf⟩
    · rw [hnone] at hx
      cases hx
    · rw [hq] at hx
      cases hx
      rw [hwrite] at hf
      exact processWebhook_runs hpg (follows_settle.1 hf)
  constructor
  · -- a failed statement makes the call answer, where it should reject
    rintro ⟨-, hreject⟩ v hv hfail
    obtain ⟨e, rfl⟩ := hreject ⟨v, hv, Or.inl hfail⟩
    exact houtcome v hv hfail
  · intro hok
    cases x with
    | error e => exact ⟨by simp, fun _ => ⟨e, rfl⟩⟩
    | ok result =>
      cases hp : result.processed with
      | true =>
        have hall : ∀ v ∈ System.traceOf i es, ¬ TxFailed v ∧ ¬ LookFailed v := by
          simpa [Except.map, hp, LockOutcome] using houtcome
        refine ⟨fun r hr hfalse => ?_, ?_⟩
        · cases hr
          rw [hp] at hfalse
          cases hfalse
        · rintro ⟨v, hv, hfail | hfail⟩
          · exact absurd hfail (hall v hv).1
          · exact absurd hfail (hall v hv).2
      | false =>
        have hcases : (∃ v ∈ System.traceOf i es, TxFailed v) ∨
            (FoundLive (storeKeys app (calls i).dto) (System.traceOf i es) ∧
              ∀ v ∈ System.traceOf i es, ¬ TxFailed v ∧ ¬ LookFailed v) := by
          simpa [Except.map, hp, LockOutcome] using houtcome
        rcases hcases with ⟨v, hv, hfail⟩ | ⟨hlive, hall⟩
        · exact absurd hfail (hok v hv)
        · refine ⟨fun _ _ _ => earlierLock_of_foundLive hpg hd hempty h hsep hlive, ?_⟩
          rintro ⟨v, hv, hfail | hfail⟩
          · exact absurd hfail (hall v hv).1
          · exact absurd hfail (hall v hv).2

end History

/-! ### Two webhooks for one event -/

/-- The event delivered to every slot. -/
def deliveries {ι : Type} : ι → WebhookCall := fun _ => ⟨someEvent, false⟩

/-- The second delivery finds the lock of the first. -/
theorem noSilentDrop_second_delivery : ∃ es p,
    (webhookSystem App.bare deliveries).Exec (.idle ⟨⟨fun _ => none, fun _ => none⟩, 0⟩) es p ∧
      p.thread true = some (.settle (.ok ⟨false, none⟩)) ∧
      NoSilentDrop App.bare deliveries true es (.ok ⟨false, none⟩) := by
  have h := System.reaches_refl (S := webhookSystem App.bare deliveries)
    (P := fun e => ∀ v, e.label = .call true v → ¬ TxFailed v)
    (.idle (⟨⟨fun _ => none, fun _ => none⟩, 0⟩ : StoreState Bool))
  have h := h.snoc (.start (i := false) rfl ⟨rfl, rfl⟩) (by rintro v ⟨⟩)
  have h := h.snoc (.call (i := false) rfl .now) (by rintro v ⟨⟩)
  have h := h.snoc (.call (i := false) rfl .txBegin) (by rintro v ⟨⟩)
  have h := h.snoc (.call (i := false) rfl (.find ⟨_, rfl⟩)) (by rintro v ⟨⟩)
  have h := h.snoc (.call (i := false) rfl .now) (by rintro v ⟨⟩)
  have h := h.snoc (.call (i := false) rfl (.upsert ⟨⟨_, rfl⟩, fun u hu =>
    Db.free_of_other (.inl rfl) u hu _⟩)) (by rintro v ⟨⟩)
  have h := h.snoc (.call (i := false) rfl .now) (by rintro v ⟨⟩)
  have h := h.snoc (.call (i := false) rfl (.deleteMany ⟨⟨_, rfl⟩, fun k _ _ _ u hu =>
    Db.free_of_other (.inl rfl) u hu k⟩)) (by rintro v ⟨⟩)
  have h := h.snoc (.call (i := false) rfl (.commit ⟨_, rfl⟩)) (by rintro v ⟨⟩)
  have h := h.snoc (.start (i := true) rfl ⟨rfl, rfl⟩) (by rintro v ⟨⟩)
  have h := h.snoc (.call (i := true) rfl .now) (by rintro v ⟨⟩ ⟨⟩)
  have h := h.snoc (.call (i := true) rfl .txBegin) (by rintro v ⟨⟩ ⟨⟩)
  have h := h.snoc (.call (i := true) rfl (.find ⟨_, rfl⟩)) (by rintro v ⟨⟩ ⟨⟩)
  have h := h.snoc (.call (i := true) rfl .now) (by rintro v ⟨⟩ ⟨⟩)
  have h := h.snoc (.call (i := true) rfl (.commit ⟨_, rfl⟩)) (by rintro v ⟨⟩ ⟨⟩)
  obtain ⟨es, h, hok⟩ := h
  refine ⟨es, _, h, rfl, ?_⟩
  refine (noSilentDrop_iff rfl (fun _ => rfl) (fun _ => rfl) h (fun _ _ _ _ _ => ⟨rfl, rfl⟩) rfl
    rfl).2 fun v hv => ?_
  obtain ⟨t₁, t₂, htrace⟩ := List.append_of_mem hv
  obtain ⟨es₁, e, es₂, rfl, hlabel, -⟩ := System.exists_step_of_traceOf htrace
  exact hok e (by simp) v hlabel

/-- The first delivery of an event cannot open its transaction, and is answered as a duplicate. -/
theorem not_noSilentDrop : ∃ es p,
    (webhookSystem App.bare deliveries).Exec (.idle ⟨⟨fun _ => none, fun _ => none⟩, 0⟩) es p ∧
      p.thread () = some (.settle (.ok ⟨false, none⟩)) ∧
      ¬ NoSilentDrop App.bare deliveries () es (.ok ⟨false, none⟩) := by
  have h := System.Exec.nil (S := webhookSystem App.bare deliveries)
    (.idle (⟨⟨fun _ => none, fun _ => none⟩, 0⟩ : StoreState Unit))
  have h := h.snoc (.start (i := ()) rfl ⟨rfl, rfl⟩)
  have h := h.snoc (.call (i := ()) rfl .now)
  have h := h.snoc (.call (i := ()) rfl (.txBeginError (e := .error "connection refused")))
  refine ⟨_, _, h, rfl, ?_⟩
  rintro ⟨-, hreject⟩
  have hmem : (⟨.txBegin, .error (.error "connection refused")⟩ : Ev) ∈
      [(⟨.now, (0 : ℤ)⟩ : Ev), ⟨.txBegin, .error (.error "connection refused")⟩] := by simp
  obtain ⟨e, he⟩ := hreject ⟨_, hmem, Or.inl trivial⟩
  cases he

end IdmMw
