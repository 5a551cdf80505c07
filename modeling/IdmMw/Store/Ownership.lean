import IdmMw.Store.Duplicates
import IdmMw.Store.Redis

/-!
# Who owns a lock in Redis

Any number of `processWebhook` calls for one event share the Redis store, and time passes. A call
that gives its lock back should not remove the lock of another call, and while a call has a live
lock no other call should be told that the event is new (`OwnsLocks`).

* `TakesLock`, `HasLock`: taking the lock, and having it until it is given back;
* `InTime`: a call gives its lock back before the lock expires, or when there is no live one;
* `LocksKept`: a live lock that was not given back is in its place, and there is only one. This is
  what a step keeps, and `ownsLocks` follows from it.

`DEL` removes whatever stands under the key. A call that takes longer than its lock lasts and then
fails removes the lock of the call that has taken the event over.
-/

namespace IdmMw

open Async

variable {ι : Type} [DecidableEq ι]

/-- Slot `i` runs the call `calls i` over Redis. -/
abbrev redisWebhooks (app : App) (calls : ι → WebhookCall) :
    System ι RedisState JsError Ans ProcessResult :=
  redisSystem fun i => WebhookService.processWebhook app (calls i).dto (calls i).isRead

abbrev RedisEntry (ι α : Type) := Entry ι RedisState JsError Ans α

/-! ### The law -/

/-- The store key a call locks. -/
def lockKey (app : App) (call : WebhookCall) : Option String := (storeKeys app call.dto).head?

/-- With this step, after the steps `es`, the `checkAndLock` of slot `i` returns true. -/
def TakesLock (app : App) (calls : ι → WebhookCall) (i : ι) (es : List (RedisEntry ι ProcessResult))
    (e : RedisEntry ι ProcessResult) : Prop :=
  (∃ v, e.label = .call i v) ∧
    (IdempotencyService.checkAndLock app (WebhookService.idempotencyKey (calls i).dto) 3600).Runs
      (System.traceOf i (es ++ [e])) (.ok true)

/-- In this step slot `i` gives back the lock it locked. -/
def GivesBack (app : App) (calls : ι → WebhookCall) (i : ι) (e : RedisEntry ι ProcessResult) :
    Prop :=
  ∃ key answer, lockKey app (calls i) = some key ∧ e.label = .call i ⟨.redisDel key, answer⟩

/-- After the steps `es` slot `i` has a lock, which expires at `expiresAt`. -/
def HasLock (app : App) (calls : ι → WebhookCall) (i : ι) (expiresAt : Time)
    (es : List (RedisEntry ι ProcessResult)) : Prop :=
  ∃ es₁ e es₂, es = es₁ ++ e :: es₂ ∧ TakesLock app calls i es₁ e ∧
    expiresAt = e.before.shared.clock + (3600 : ℕ) * 1000 ∧ ∀ e ∈ es₂, ¬ GivesBack app calls i e

/-- Nobody gives back the live lock of another call, and nobody is granted a lock while another call
has a live one. -/
structure OwnsLocks (app : App) (calls : ι → WebhookCall)
    (es : List (RedisEntry ι ProcessResult)) : Prop where
  own : ∀ es₁ e es₂ i j expiresAt, es = es₁ ++ e :: es₂ → GivesBack app calls j e → i ≠ j →
    HasLock app calls i expiresAt es₁ → expiresAt ≤ e.before.shared.clock
  alone : ∀ es₁ e es₂ i j expiresAt, es = es₁ ++ e :: es₂ → TakesLock app calls j es₁ e → i ≠ j →
    HasLock app calls i expiresAt es₁ → expiresAt ≤ e.before.shared.clock

/-- A call gives its lock back before the lock expires, or when no live lock stands under the key. -/
def InTime (app : App) (calls : ι → WebhookCall) (es : List (RedisEntry ι ProcessResult)) : Prop :=
  ∀ es₁ e es₂ i, es = es₁ ++ e :: es₂ → GivesBack app calls i e →
    (∃ expiresAt, HasLock app calls i expiresAt es₁ ∧ e.before.shared.clock < expiresAt) ∨
      ∀ key, lockKey app (calls i) = some key → ¬ e.before.shared.Live key

/-! ### Taking and having a lock -/

variable {app : App} {calls : ι → WebhookCall} {i j : ι} {expiresAt : Time}
  {es es₁ es₂ : List (RedisEntry ι ProcessResult)} {e : RedisEntry ι ProcessResult}
  {m s' : Pool ι RedisState JsError Ans ProcessResult} {l : Label ι Ans}

/-- The lock is taken by the `SET NX` of the lock key. -/
theorem TakesLock.label (hredis : app.config.isRedisEnabled = true)
    (h : TakesLock app calls i es e) : ∃ key, lockKey app (calls i) = some key ∧
      e.label = .call i ⟨.redisSet key 3600, .ok true⟩ := by
  obtain ⟨⟨v, hlabel⟩, hrun⟩ := h
  obtain ⟨first, keys, t, hkeys, htrace⟩ := checkAndLock_true hredis hrun
  have hlast : System.traceOf i [e] = [v] := by simp [System.traceOf, hlabel]
  rw [System.traceOf_append, hlast] at htrace
  obtain ⟨-, hv⟩ := List.append_inj' htrace rfl
  rw [List.singleton_injective hv] at hlabel
  exact ⟨first, by simp [lockKey, storeKeys, hkeys], hlabel⟩

omit [DecidableEq ι] in
theorem lockKey_eq (hsame : ∀ i j, SameEvent (calls i).dto (calls j).dto) (i j : ι) :
    lockKey app (calls i) = lockKey app (calls j) := by
  obtain ⟨htarget, hevent⟩ := hsame i j
  unfold lockKey storeKeys WebhookService.idempotencyKey
  rw [htarget, hevent]

/-- A lock is had from before, or has just been taken. -/
theorem HasLock.snoc (h : HasLock app calls i expiresAt (es ++ [e])) :
    (HasLock app calls i expiresAt es ∧ ¬ GivesBack app calls i e) ∨
      (TakesLock app calls i es e ∧
        expiresAt = e.before.shared.clock + (3600 : ℕ) * 1000) := by
  obtain ⟨es₁, a, es₂, heq, htakes, hexpires, hno⟩ := h
  rcases List.eq_nil_or_concat es₂ with rfl | ⟨es₃, b, rfl⟩
  · obtain ⟨rfl, he⟩ := List.append_inj' heq rfl
    obtain rfl := List.singleton_injective he
    exact Or.inr ⟨htakes, hexpires⟩
  · rw [List.concat_eq_append, ← List.cons_append, ← List.append_assoc] at heq
    obtain ⟨rfl, he⟩ := List.append_inj' heq rfl
    obtain rfl := List.singleton_injective he
    exact Or.inl ⟨⟨es₁, a, es₃, rfl, htakes, hexpires, fun c hc => hno c (by simp [hc])⟩,
      hno e (by simp)⟩

theorem inTime_nil : InTime app calls [] := by
  intro es₁ e es₂ i heq
  cases es₁ <;> cases heq

/-- A condition on each step, with the steps before it. -/
theorem inTime_snoc : InTime app calls (es ++ [e]) ↔ InTime app calls es ∧
    ∀ i, GivesBack app calls i e →
      (∃ expiresAt, HasLock app calls i expiresAt es ∧ e.before.shared.clock < expiresAt) ∨
        ∀ key, lockKey app (calls i) = some key → ¬ e.before.shared.Live key := by
  constructor
  · intro h
    exact ⟨fun es₁ a es₂ i heq => h es₁ a (es₂ ++ [e]) i (by simp [heq]),
      fun i hgives => h es e [] i rfl hgives⟩
  · rintro ⟨h, he⟩ es₁ a es₂ i heq hgives
    rcases List.eq_nil_or_concat es₂ with rfl | ⟨es₃, b, rfl⟩
    · obtain ⟨rfl, ha⟩ := List.append_inj' heq rfl
      obtain rfl := List.singleton_injective ha
      exact he i hgives
    · rw [List.concat_eq_append, ← List.cons_append, ← List.append_assoc] at heq
      obtain ⟨rfl, -⟩ := List.append_inj' heq rfl
      exact h es₁ a es₃ i rfl hgives

theorem inTime_append (h : InTime app calls (es₁ ++ es₂)) : InTime app calls es₁ :=
  fun es₃ a es₄ i heq => h es₃ a (es₄ ++ es₂) i (by simp [heq])

/-! ### The invariant -/

/-- A live lock that was not given back is in its place, and there is only one. -/
def LocksKept (app : App) (calls : ι → WebhookCall) (es : List (RedisEntry ι ProcessResult))
    (s : RedisState) : Prop :=
  ∀ i expiresAt, HasLock app calls i expiresAt es → s.clock < expiresAt →
    (∀ key, lockKey app (calls i) = some key → s.locks key = some expiresAt) ∧
      ∀ j expiresAt', HasLock app calls j expiresAt' es → s.clock < expiresAt' → j = i

/-- Under the invariant a live lock keeps the others out. -/
theorem LocksKept.live {s : RedisState} {key : String} (h : LocksKept app calls es s)
    (hlock : HasLock app calls i expiresAt es) (hlt : s.clock < expiresAt)
    (hkey : lockKey app (calls i) = some key) : s.Live key :=
  ⟨expiresAt, (h i expiresAt hlock hlt).1 key hkey, hlt⟩

/-- While somebody has a live lock, nobody takes one. -/
theorem LocksKept.not_takesLock (hredis : app.config.isRedisEnabled = true)
    (hsame : ∀ i j, SameEvent (calls i).dto (calls j).dto)
    (h : LocksKept app calls es m.shared) (hstep : (redisWebhooks app calls).Step m l s')
    (hlock : HasLock app calls i expiresAt es) (hlt : m.shared.clock < expiresAt) :
    ¬ TakesLock app calls j es ⟨m, l, s'⟩ := by
  intro htakes
  obtain ⟨key, hkey, hlabel⟩ := htakes.label hredis
  obtain rfl : l = .call j ⟨.redisSet key 3600, .ok true⟩ := hlabel
  obtain ⟨k, -, henv, -⟩ := hstep.call_inv
  rw [lockKey_eq hsame j i] at hkey
  exact (RedisEnv.set_true henv).1 (h.live hlock hlt hkey)

/-- Every step keeps the invariant, if locks are given back in time. -/
theorem LocksKept.step (hredis : app.config.isRedisEnabled = true)
    (hsame : ∀ i j, SameEvent (calls i).dto (calls j).dto)
    (h : LocksKept app calls es m.shared) (hstep : (redisWebhooks app calls).Step m l s')
    (hintime : ∀ j, GivesBack app calls j ⟨m, l, s'⟩ →
      (∃ expiresAt, HasLock app calls j expiresAt es ∧ m.shared.clock < expiresAt) ∨
        ∀ key, lockKey app (calls j) = some key → ¬ m.shared.Live key) :
    LocksKept app calls (es ++ [⟨m, l, s'⟩]) s'.shared := by
  have hclock : m.shared.clock ≤ s'.shared.clock := by
    cases hstep with
    | call _ henv => exact (RedisEnv.clock_eq henv).ge
    | start _ hp => exact (congrArg RedisState.clock hp.2).ge
    | tick ht => exact RedisTick.clock_le ht
  intro i expiresAt hlock hlt
  rcases hlock.snoc with ⟨hold, hkeeps⟩ | ⟨htakes, hexpires⟩
  · have hlt' := lt_of_le_of_lt hclock hlt
    refine ⟨fun key hkey => ?_, fun j expiresAt' hlock' hltj => ?_⟩
    · have hstands : m.shared.Stands key expiresAt :=
        fun _ => (h i expiresAt hold hlt').1 key hkey
      cases hstep with
      | @call j r k a s' hj henv =>
        refine hstands.step henv ?_ hlt
        rintro rfl
        have hgives : GivesBack app calls j ⟨m, .call j ⟨.redisDel key, a⟩,
            ⟨s', Function.update m.thread j (some (k a))⟩⟩ :=
          ⟨key, a, by rw [lockKey_eq hsame j i, hkey], rfl⟩
        rcases hintime j hgives with ⟨expiresAt', hlock', hltj⟩ | hdead
        · -- the owner of the one live lock gives it back
          obtain rfl := (h i expiresAt hold hlt').2 j expiresAt' hlock' hltj
          exact hkeeps hgives
        · exact hdead key (by rw [lockKey_eq hsame j i, hkey]) (h.live hold hlt' hkey)
      | start _ hp =>
        rw [hp.2] at hlt ⊢
        exact hstands hlt
      | tick ht => exact hstands.tick ht hlt
    · rcases hlock'.snoc with ⟨hold', -⟩ | ⟨htakes', -⟩
      · exact (h i expiresAt hold hlt').2 j expiresAt' hold' (lt_of_le_of_lt hclock hltj)
      · exact absurd htakes' (h.not_takesLock hredis hsame hstep hold hlt')
  · obtain ⟨key, hkey, hlabel⟩ := htakes.label hredis
    obtain rfl : l = .call i ⟨.redisSet key 3600, .ok true⟩ := hlabel
    obtain ⟨k, -, henv, -⟩ := hstep.call_inv
    refine ⟨fun key' hkey' => ?_, fun j expiresAt' hlock' hltj => ?_⟩
    · obtain rfl : key = key' := Option.some.inj (hkey.symm.trans hkey')
      rw [hexpires]
      exact (RedisEnv.set_true henv).2
    · rcases hlock'.snoc with ⟨hold', -⟩ | ⟨htakes', -⟩
      · exact absurd htakes
          (h.not_takesLock hredis hsame hstep hold' (lt_of_le_of_lt hclock hltj))
      · obtain ⟨_, -, hlabel'⟩ := htakes'.label hredis
        cases hlabel'
        rfl

/-- The invariant holds along every run in which locks are given back in time. -/
theorem locksKept {s : RedisState} {s' : Pool ι RedisState JsError Ans ProcessResult}
    (hredis : app.config.isRedisEnabled = true)
    (hsame : ∀ i j, SameEvent (calls i).dto (calls j).dto)
    (h : (redisWebhooks app calls).Exec (.idle s) es s') (hintime : InTime app calls es) :
    LocksKept app calls es s'.shared := by
  generalize hidle : Pool.idle s = p at h
  induction h with
  | nil =>
    rintro i expiresAt ⟨es₁, a, es₂, heq, -⟩
    cases es₁ <;> cases heq
  | @snoc m s' es l h hstep ih =>
    obtain ⟨hbefore, hlast⟩ := inTime_snoc.1 hintime
    exact (ih hbefore).step hredis hsame hstep hlast

/-! ### Whole runs -/

/-- If locks are given back in time, every call owns the lock it has. -/
theorem ownsLocks {s : RedisState} {s' : Pool ι RedisState JsError Ans ProcessResult}
    (hredis : app.config.isRedisEnabled = true)
    (hsame : ∀ i j, SameEvent (calls i).dto (calls j).dto)
    (h : (redisWebhooks app calls).Exec (.idle s) es s') (hintime : InTime app calls es) :
    OwnsLocks app calls es := by
  have hprefix : ∀ es₁ e es₂, es = es₁ ++ e :: es₂ →
      LocksKept app calls es₁ e.before.shared ∧
        (redisWebhooks app calls).Step e.before e.label e.after := by
    rintro es₁ e es₂ rfl
    obtain ⟨hexec, hstep, -⟩ := System.exec_middle_iff.1 h
    exact ⟨locksKept hredis hsame hexec (inTime_append hintime), hstep⟩
  constructor
  · intro es₁ e es₂ i j expiresAt heq hgives hij hlock
    obtain ⟨hkept, -⟩ := hprefix es₁ e es₂ heq
    by_contra hlt
    rw [not_le] at hlt
    rcases hintime es₁ e es₂ j heq hgives with ⟨expiresAt', hlock', hlt'⟩ | hdead
    · exact hij ((hkept j expiresAt' hlock' hlt').2 i expiresAt hlock hlt)
    · obtain ⟨key, -, hkey, -⟩ := hgives
      exact hdead key hkey (hkept.live hlock hlt (by rw [lockKey_eq hsame i j, hkey]))
  · intro es₁ e es₂ i j expiresAt heq htakes hij hlock
    obtain ⟨hkept, hstep⟩ := hprefix es₁ e es₂ heq
    by_contra hlt
    rw [not_le] at hlt
    exact hkept.not_takesLock hredis hsame hstep hlock hlt htakes

/-! ### Two deliveries of one event -/

/-- Every slot delivers the same read event. -/
def twoReads : Bool → WebhookCall := fun _ => ⟨someEvent, true⟩

/-- The lock of that event. -/
def someLock : String := WebhookService.idempotencyKey someEvent

/-- The target system is unknown: the first delivery fails, and gives its lock back in time. -/
theorem ownsLocks_in_time : ∃ es s', (redisWebhooks App.caching twoReads).Exec
    (.idle ⟨fun _ => none, 0⟩) es s' ∧ (∃ e ∈ es, GivesBack App.caching twoReads false e) ∧
      OwnsLocks App.caching twoReads es := by
  have h := System.Exec.nil (S := redisWebhooks App.caching twoReads)
    (.idle ⟨fun _ => none, 0⟩)
  have h := h.snoc (.start (i := false) rfl ⟨rfl, rfl⟩)
  have h := h.snoc (.call (i := false) rfl
    (@RedisEnv.take _ someLock _ (Locks.not_live_of_eq_none rfl)))
  have h := h.snoc (.call (i := false) rfl
    (.other (a := (none : Option Connector)) (by simp [Req.OnRedis])))
  have h := h.snoc (.call (i := false) rfl (@RedisEnv.del _ someLock))
  refine ⟨_, _, h, ⟨_, List.mem_append_right _ (List.mem_singleton_self _), someLock, _, rfl, rfl⟩,
    ownsLocks rfl (fun _ _ => ⟨rfl, rfl⟩) h ?_⟩
  refine inTime_snoc.2 ⟨inTime_snoc.2 ⟨inTime_snoc.2 ⟨inTime_snoc.2 ⟨inTime_nil, ?_⟩, ?_⟩, ?_⟩, ?_⟩
  · rintro _ ⟨_, _, -, ⟨⟩⟩
  · rintro _ ⟨_, _, -, ⟨⟩⟩
  · rintro _ ⟨_, _, -, ⟨⟩⟩
  · rintro i ⟨_, _, -, hlabel⟩
    obtain rfl : false = i := by
      cases hlabel
      rfl
    refine Or.inl ⟨3600000, ⟨_, _, [_], List.append_assoc _ [_] [_],
      ⟨⟨_, rfl⟩, _, _, rfl, rfl, rfl⟩, rfl, ?_⟩, by decide⟩
    rintro e he ⟨_, _, -, hgives⟩
    rw [List.mem_singleton.1 he] at hgives
    cases hgives

/-- The first delivery outlasts its lock, the second one takes the lock, and then the first one
fails and removes it. -/
theorem not_ownsLocks : ∃ es s', (redisWebhooks App.caching twoReads).Exec
    (.idle ⟨fun _ => none, 0⟩) es s' ∧ ¬ OwnsLocks App.caching twoReads es := by
  have h := System.Exec.nil (S := redisWebhooks App.caching twoReads)
    (.idle ⟨fun _ => none, 0⟩)
  have h := h.snoc (.start (i := false) rfl ⟨rfl, rfl⟩)
  have h := h.snoc (.call (i := false) rfl
    (@RedisEnv.take _ someLock _ (Locks.not_live_of_eq_none rfl)))
  have h := h.snoc (.tick (.clock (t := 3600000) (by decide)))
  have h := h.snoc (.start (i := true) rfl ⟨rfl, rfl⟩)
  have h := h.snoc (.call (i := true) rfl (@RedisEnv.take _ someLock _
    ((Locks.live_iff_of_eq_some (Function.update_self ..)).not.2 (by decide))))
  have h := h.snoc (.call (i := false) rfl
    (.other (a := (none : Option Connector)) (by simp [Req.OnRedis])))
  have h := h.snoc (.call (i := false) rfl (@RedisEnv.del _ someLock))
  refine ⟨_, _, h, fun howns => ?_⟩
  have hle := howns.own _ _ [] true false 7200000 rfl ⟨someLock, _, rfl, rfl⟩ (by decide) ?_
  · exact absurd hle (by decide)
  · refine ⟨_, _, [_], List.append_assoc _ [_] [_], ⟨⟨_, rfl⟩, _, _, rfl, rfl, rfl⟩, rfl, ?_⟩
    rintro e he ⟨_, _, -, hgives⟩
    rw [List.mem_singleton.1 he] at hgives
    cases hgives

end IdmMw
