import IdmMw.Library.Locks
import IdmMw.Library.Pool
import IdmMw.Model.Idempotency

/-!
# The idempotency keys in Redis

How `SET NX EX`, `EXISTS` and `DEL` are answered when any number of programs share the keys and a
clock. Each command is atomic. A command that fails may have been executed all the same, if only its
answer was lost. Requests that do not concern Redis are answered in any way.

* `RedisState`, `RedisEnv`, `RedisTick`, and the system `redisSystem` of programs over them;
* `RedisState.Stands`: a lock that was taken is still there, unless it has expired;
* `checkAndLock_true`, `checkAndLock_live`, `release_redis`: what a call of the service has seen and
  done, by its result.
-/

namespace IdmMw

open Async

/-- The locks and the clock. -/
structure RedisState where
  locks : Locks String Time
  clock : Time

namespace RedisState

/-- `SET key 1 EX ttlSeconds NX`. -/
def setNx (s : RedisState) (key : String) (ttlSeconds : ℕ) : Bool × RedisState :=
  let answer := s.locks.acquire key (s.clock + ttlSeconds * 1000) s.clock
  (answer.1, { s with locks := answer.2 })

/-- `DEL key`. -/
def del (s : RedisState) (key : String) : RedisState := { s with locks := s.locks.remove key }

/-- The lock of `key` is live. -/
def Live (s : RedisState) (key : String) : Prop := s.locks.Live key s.clock

instance (s : RedisState) (key : String) : Decidable (s.Live key) :=
  inferInstanceAs (Decidable (s.locks.Live key s.clock))

/-- The lock of `key` that expires at `e` is in its place, if it has not expired. -/
def Stands (key : String) (e : Time) (s : RedisState) : Prop :=
  s.clock < e → s.locks key = some e

end RedisState

/-- The requests that Redis or the clock answers. -/
def Req.OnRedis : Req → Prop
  | .now | .redisSet _ _ | .redisExists _ | .redisDel _ => True
  | _ => False

/-- How a request may be answered. -/
inductive RedisEnv : RedisState → (r : Req) → Ans r → RedisState → Prop
  | now {s} : RedisEnv s .now s.clock s
  | set {s key ttlSeconds} :
      RedisEnv s (.redisSet key ttlSeconds) (.ok (s.setNx key ttlSeconds).1)
        (s.setNx key ttlSeconds).2
  | setError {s key ttlSeconds e} : RedisEnv s (.redisSet key ttlSeconds) (.error e) s
  | setLost {s key ttlSeconds e} :
      RedisEnv s (.redisSet key ttlSeconds) (.error e) (s.setNx key ttlSeconds).2
  | existsKey {s key} : RedisEnv s (.redisExists key) (.ok (if s.Live key then 1 else 0)) s
  | existsError {s key e} : RedisEnv s (.redisExists key) (.error e) s
  | del {s key} : RedisEnv s (.redisDel key) (.ok ()) (s.del key)
  | delError {s key e} : RedisEnv s (.redisDel key) (.error e) s
  | delLost {s key e} : RedisEnv s (.redisDel key) (.error e) (s.del key)
  | other {s r a} (h : ¬ r.OnRedis) : RedisEnv s r a s

/-- Time passes. -/
inductive RedisTick : RedisState → RedisState → Prop
  | clock {s t} (h : s.clock ≤ t) : RedisTick s { s with clock := t }

/-- Slot `i` runs the program `progs i`. -/
def redisSystem {ι α : Type} (progs : ι → Prog α) : System ι RedisState JsError Ans α where
  env _ := RedisEnv
  start i s p s' := p = progs i ∧ s' = s
  tick := RedisTick

/-! ### What an answer does -/

variable {s s' : RedisState} {r : Req} {a : Ans r} {key key' : String} {ttlSeconds : ℕ} {e : Time}

theorem setNx_of_live (h : s.Live key) : s.setNx key ttlSeconds = (false, s) := by
  unfold RedisState.setNx
  rw [Locks.acquire_of_live h]

theorem setNx_of_not_live (h : ¬ s.Live key) : s.setNx key ttlSeconds =
    (true, { s with locks := Function.update s.locks key (some (s.clock + ttlSeconds * 1000)) }) := by
  unfold RedisState.setNx
  rw [Locks.acquire_of_not_live h]

/-- A lock that is not live can be taken. -/
theorem RedisEnv.take (h : ¬ s.Live key) : RedisEnv s (.redisSet key ttlSeconds) (.ok true)
    { s with locks := Function.update s.locks key (some (s.clock + ttlSeconds * 1000)) } := by
  have henv := @RedisEnv.set s key ttlSeconds
  rwa [setNx_of_not_live h] at henv

/-- A live lock is found. -/
theorem RedisEnv.present (h : s.Live key) : RedisEnv s (.redisExists key) (.ok 1) s := by
  have henv := @RedisEnv.existsKey s key
  rwa [if_pos h] at henv

theorem RedisEnv.absent (h : ¬ s.Live key) : RedisEnv s (.redisExists key) (.ok 0) s := by
  have henv := @RedisEnv.existsKey s key
  rwa [if_neg h] at henv

theorem RedisEnv.clock_eq (h : RedisEnv s r a s') : s'.clock = s.clock := by
  cases h <;> rfl

/-- A `SET NX` that is answered `OK` finds no live lock, and leaves its own. -/
theorem RedisEnv.set_true (h : RedisEnv s (.redisSet key ttlSeconds) (.ok true) s') :
    ¬ s.Live key ∧ s'.locks key = some (s.clock + ttlSeconds * 1000) := by
  generalize ha : (Except.ok true : Ans (.redisSet key ttlSeconds)) = a at h
  cases h with
  | set =>
    by_cases hlive : s.Live key
    · rw [setNx_of_live hlive] at ha
      cases ha
    · refine ⟨hlive, ?_⟩
      rw [setNx_of_not_live hlive]
      exact Function.update_self ..
  | setError => cases ha
  | setLost => cases ha
  | other h => exact absurd trivial h

/-- `EXISTS` tells whether the lock is live. -/
theorem RedisEnv.exists_eq {n : ℕ} (h : RedisEnv s (.redisExists key) (.ok n) s') :
    n = if s.Live key then 1 else 0 := by
  generalize ha : (Except.ok n : Ans (.redisExists key)) = a at h
  cases h with
  | existsKey => exact Except.ok.inj ha
  | existsError => cases ha
  | other h => exact absurd trivial h

/-- After a `DEL` that was answered there is no lock. -/
theorem RedisEnv.del_ok {u : Unit} (h : RedisEnv s (.redisDel key) (.ok u) s') :
    s'.locks key = none := by
  generalize ha : (Except.ok u : Ans (.redisDel key)) = a at h
  cases h with
  | del => exact Function.update_self ..
  | delError => cases ha
  | delLost => cases ha
  | other h => exact absurd trivial h

/-- A `SET NX` changes no other lock, and not that of its own key while it is live. -/
theorem setNx_locks (h : key' ≠ key ∨ s.Live key) :
    (s.setNx key ttlSeconds).2.locks key' = s.locks key' := by
  by_cases hlive : s.Live key
  · rw [setNx_of_live hlive]
  · rw [setNx_of_not_live hlive]
    exact Function.update_of_ne (h.resolve_right hlive) ..

theorem del_locks_of_ne (h : key' ≠ key) : (s.del key).locks key' = s.locks key' :=
  Function.update_of_ne h ..

/-- A lock that has not expired stays in its place until it is deleted. -/
theorem RedisState.Stands.step (h : s.Stands key e) (henv : RedisEnv s r a s')
    (hdel : r ≠ .redisDel key) : s'.Stands key e := by
  intro hlt
  rw [henv.clock_eq] at hlt
  have hrow : s.locks key = some e := h hlt
  have hset : ∀ key' ttlSeconds, (s.setNx key' ttlSeconds).2.locks key = some e := by
    intro key' ttlSeconds
    rw [setNx_locks, hrow]
    by_cases hkey : key = key'
    · subst hkey
      exact Or.inr ⟨e, hrow, hlt⟩
    · exact Or.inl hkey
  have hne : ∀ key', r = .redisDel key' → (s.del key').locks key = some e := by
    intro key' hr
    rw [del_locks_of_ne (fun hkey => hdel (by rw [hr, hkey])), hrow]
  cases henv with
  | set => exact hset _ _
  | setLost => exact hset _ _
  | del => exact hne _ rfl
  | delLost => exact hne _ rfl
  | now | setError | existsKey | existsError | delError | other => exact hrow

theorem RedisState.Stands.tick (h : s.Stands key e) (ht : RedisTick s s') : s'.Stands key e := by
  cases ht with
  | clock hle => exact fun hlt => h (lt_of_le_of_lt hle hlt)

theorem RedisTick.clock_le (ht : RedisTick s s') : s.clock ≤ s'.clock := by
  cases ht with
  | clock hle => exact hle

/-! ### What a call of the service does -/

variable {app : App} {sourceKey : String} {t : Trace}

/-- A command of Redis failed. -/
def CommandFailed : Ev → Prop
  | ⟨.redisSet _ _, .error _⟩ | ⟨.redisExists _, .error _⟩ | ⟨.redisDel _, .error _⟩ => True
  | _ => False

theorem store_eq_redisStore (hredis : app.config.isRedisEnabled = true) :
    IdempotencyService.store app = redisStore app := by simp [IdempotencyService.store, hredis]

/-- With a client a command is just sent. -/
theorem redisStore_eq (hredis : app.config.isRedisEnabled = true) :
    redisStore app = ⟨fun key => do let n ← redisExists key; pure (n == 1), redisSet, redisDel⟩ := by
  unfold redisStore RedisIdempotencyStore.existsKey RedisIdempotencyStore.setIfNotExists
    RedisIdempotencyStore.delete
  rw [RedisIdempotencyStore.requireClient_eq hredis]
  rfl

/-- `checkAndLock` says that the event is new when its `SET NX` of the first key is answered. -/
theorem checkAndLock_true (hredis : app.config.isRedisEnabled = true)
    (h : (IdempotencyService.checkAndLock app sourceKey ttlSeconds).Runs t (.ok true)) :
    ∃ first keys t', app.encryption.idempotencyKeys sourceKey = .ok (first :: keys) ∧
      t = t' ++ [⟨.redisSet first ttlSeconds, .ok true⟩] := by
  unfold IdempotencyService.checkAndLock at h
  rw [store_eq_redisStore hredis, redisStore_eq hredis] at h
  rcases runs_bind.1 h with ⟨e, hx, -⟩ | ⟨keys, t₁, t₂, rfl, ⟨rfl, hkeys⟩, h₂⟩
  · cases hx
  rcases runs_bind.1 h₂ with ⟨e, hx, -⟩ | ⟨duplicate, t₃, t₄, rfl, -, h₄⟩
  · cases hx
  cases duplicate with
  | true => cases h₄.2
  | false =>
    cases keys with
    | nil => exact absurd rfl (app.encryption.idempotencyKeys_ne_nil hkeys.symm)
    | cons first keys =>
      obtain ⟨answer, rfl, rfl⟩ := runs_request.1 (show (redisSet first ttlSeconds).Runs t₄ _ from h₄)
      exact ⟨first, keys, t₃, hkeys.symm, rfl⟩

/-- The answers of a trace show a lock of `key`: no look misses it, and it cannot be taken. -/
def ShowsLock (key : String) (t : Trace) : Prop :=
  (∀ n, ⟨.redisExists key, .ok n⟩ ∈ t → n = 1) ∧
    ∀ ttlSeconds, ⟨.redisSet key ttlSeconds, .ok true⟩ ∉ t

theorem ShowsLock.mono {t' : Trace} (h : ShowsLock key t) (ht : t' ⊆ t) : ShowsLock key t' :=
  ⟨fun n hn => h.1 n (ht hn), fun ttlSeconds hset => h.2 ttlSeconds (ht hset)⟩

/-- The call rejects, because a command failed. -/
def Rejects {α : Type} (t : Trace) (x : Except JsError α) : Prop :=
  (∃ e, x = .error e) ∧ ∃ v ∈ t, CommandFailed v

/-- The loop over the keys finds the lock, or another one, unless a command fails. -/
theorem anyExists_live {keys : List String} {x : Except JsError Bool}
    (h : (IdempotencyService.anyExists
      ⟨fun key => do let n ← redisExists key; pure (n == 1), redisSet, redisDel⟩ keys).Runs t x)
    (hlock : ShowsLock key t) (hkey : key ∈ keys) : x = .ok true ∨ Rejects t x := by
  induction keys generalizing t with
  | nil => cases hkey
  | cons candidate keys ih =>
    rcases runs_bind.1 h with ⟨e, rfl, h'⟩ | ⟨found, t₁, t₂, rfl, h₁, h₂⟩
    · rcases runs_bind.1 h' with ⟨e', hx, h₃⟩ | ⟨n, _, _, -, -, -, hx⟩
      · obtain ⟨answer, rfl, hanswer⟩ := runs_request.1 h₃
        refine Or.inr ⟨⟨e, rfl⟩, _, List.mem_singleton_self _, ?_⟩
        rw [← hanswer]
        trivial
      · cases hx
    rcases runs_bind.1 h₁ with ⟨e, hx, -⟩ | ⟨n, t₃, t₄, rfl, h₃, rfl, hfound⟩
    · cases hx
    obtain ⟨answer, rfl, rfl⟩ := runs_request.1 h₃
    obtain rfl := Except.ok.inj hfound
    cases hn : n == 1 with
    | true =>
      rw [hn] at h₂
      exact Or.inl h₂.2
    | false =>
      rw [hn] at h₂
      have hne : key ≠ candidate := by
        rintro rfl
        obtain rfl := hlock.1 n (by simp)
        cases hn
      rcases ih h₂ (hlock.mono (by simp)) (List.mem_of_ne_of_mem hne hkey) with
        hx | ⟨he, v, hv, hfail⟩
      · exact Or.inl hx
      · exact Or.inr ⟨he, v, by simp [hv], hfail⟩

/-- While one of its keys is locked, an event is a duplicate, unless a command fails. -/
theorem checkAndLock_live (hredis : app.config.isRedisEnabled = true) {keys : List String}
    {x : Except JsError Bool}
    (h : (IdempotencyService.checkAndLock app sourceKey ttlSeconds).Runs t x)
    (hkeys : app.encryption.idempotencyKeys sourceKey = .ok keys) (hkey : key ∈ keys)
    (hlock : ShowsLock key t) : x = .ok false ∨ Rejects t x := by
  unfold IdempotencyService.checkAndLock at h
  rw [store_eq_redisStore hredis, redisStore_eq hredis, hkeys] at h
  rcases runs_bind.1 h with ⟨e, -, -, he⟩ | ⟨keys', t₁, t₂, rfl, ⟨rfl, hkeys'⟩, h₂⟩
  · cases he
  obtain rfl := Except.ok.inj hkeys'
  rw [List.nil_append] at hlock ⊢
  rcases runs_bind.1 h₂ with ⟨e, rfl, h'⟩ | ⟨duplicate, t₃, t₄, rfl, h₃, h₄⟩
  · unfold IdempotencyService.isDuplicate at h'
    split at h'
    · rcases anyExists_live h' hlock hkey with hx | hfail
      · cases hx
      · exact Or.inr ⟨⟨e, rfl⟩, hfail.2⟩
    · cases h'.2
  cases duplicate with
  | true => exact Or.inl h₄.2
  | false =>
    unfold IdempotencyService.isDuplicate at h₃
    split at h₃
    · rcases anyExists_live h₃ (hlock.mono (by simp)) hkey with hx | ⟨⟨e, hx⟩, -⟩ <;> cases hx
    · next hone =>
      -- with a single key only the attempt to take it is made
      obtain ⟨rfl, -⟩ := h₃
      obtain ⟨first, rfl⟩ : ∃ first, keys' = [first] := by
        cases keys' with
        | nil => cases hkey
        | cons first rest =>
          cases rest with
          | nil => exact ⟨first, rfl⟩
          | cons _ _ => simp at hone
      obtain rfl := List.mem_singleton.1 hkey
      obtain ⟨answer, rfl, rfl⟩ := runs_request.1 (show (redisSet key ttlSeconds).Runs t₄ _ from h₄)
      cases x with
      | error e => exact Or.inr ⟨⟨e, rfl⟩, _, List.mem_singleton_self _, trivial⟩
      | ok taken =>
        cases taken with
        | false => exact Or.inl rfl
        | true => exact absurd (by simp) (hlock.2 ttlSeconds)

/-- Giving a lock back deletes every key, also after a failed deletion. -/
theorem deleteAll_redis {keys : List String} {x : Except JsError Unit}
    (h : (IdempotencyService.deleteAll
      ⟨fun key => do let n ← redisExists key; pure (n == 1), redisSet, redisDel⟩ keys).Runs t x)
    (hkey : key ∈ keys) : ∃ answer, ⟨.redisDel key, answer⟩ ∈ t := by
  induction keys generalizing t x with
  | nil => cases hkey
  | cons candidate keys ih =>
    have hrest : ∀ (a : Ans (.redisDel candidate)) {t' : Trace} {y : Except JsError Unit},
        (IdempotencyService.deleteAll ⟨fun key => do let n ← redisExists key; pure (n == 1),
          redisSet, redisDel⟩ keys).Runs t' y →
        ⟨.redisDel candidate, a⟩ :: t' ⊆ t → ∃ answer, ⟨.redisDel key, answer⟩ ∈ t := by
      intro a t' y hrun hsub
      rcases List.mem_cons.1 hkey with rfl | hkey
      · exact ⟨a, hsub (by simp)⟩
      · obtain ⟨answer, hmem⟩ := ih hrun hkey
        exact ⟨answer, hsub (by simp [hmem])⟩
    rcases runs_bind.1 h with ⟨e, rfl, h'⟩ | ⟨u, t₁, t₂, rfl, h₁, h₂⟩
    · rcases runs_tryCatch.1 h' with ⟨_, hx, -⟩ | ⟨e', t₃, t₄, rfl, h₃, h₄⟩
      · cases hx
      obtain ⟨answer, rfl, -⟩ := runs_request.1 (show (redisDel candidate).Runs t₃ _ from h₃)
      rcases runs_bind.1 h₄ with ⟨e₂, -, h₅⟩ | ⟨_, t₅, t₆, rfl, h₅, rfl, -⟩
      · rcases runs_tryCatch.1 h₅ with ⟨_, hx, -⟩ | ⟨_, _, _, -, -, -, hx⟩ <;> cases hx
      · rcases runs_tryCatch.1 h₅ with ⟨_, -, h₆⟩ | ⟨e₃, t₇, t₈, rfl, h₆, rfl, -⟩
        · exact hrest answer h₆ (by simp)
        · exact hrest answer h₆ (by simp)
    · rcases runs_tryCatch.1 h₁ with ⟨_, -, h₃⟩ | ⟨e, _, t₄, -, -, h₄⟩
      · obtain ⟨answer, rfl, -⟩ := runs_request.1 (show (redisDel candidate).Runs t₁ _ from h₃)
        exact hrest answer h₂ (by simp)
      · rcases runs_bind.1 h₄ with ⟨_, hx, -⟩ | ⟨_, _, _, -, -, -, hx⟩ <;> cases hx

theorem release_redis (hredis : app.config.isRedisEnabled = true) {keys : List String}
    {x : Except JsError Unit} (h : (IdempotencyService.release app sourceKey).Runs t x)
    (hkeys : app.encryption.idempotencyKeys sourceKey = .ok keys) (hkey : key ∈ keys) :
    ∃ answer, ⟨.redisDel key, answer⟩ ∈ t := by
  unfold IdempotencyService.release at h
  rw [store_eq_redisStore hredis, redisStore_eq hredis, hkeys] at h
  rcases runs_bind.1 h with ⟨e, -, -, he⟩ | ⟨keys', t₁, t₂, rfl, ⟨rfl, hkeys'⟩, h₂⟩
  · cases he
  obtain rfl := Except.ok.inj hkeys'
  exact deleteAll_redis h₂ hkey

end IdmMw
