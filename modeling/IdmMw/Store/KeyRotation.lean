import IdmMw.Store.Redis

/-!
# Deduplication across key rotations

Processes with keyrings of their own share the Redis store. Each locks an event under its active key
and looks for locks under all keys of its keyring.

* `SharesActiveKey`: two processes whose active key is the same, in id and material;
* `Deduplicates`: processes that share the active key exclude each other; a live lock under any key
  of the caller's keyring is found, and a release deletes it;
* `stands_of_exec`: a lock that nobody deletes stays until it expires.

The looks under the other keys and the attempt to lock are different commands, so only the lock under
the active key excludes anybody; the looks find the locks that were there before.
-/

namespace IdmMw

open Async

/-- A call of the service, in a process with the application `app`. -/
inductive ServiceCall
  | checkAndLock (app : App) (sourceKey : String) (ttlSeconds : ℕ)
  | release (app : App) (sourceKey : String)

/-- The application of the process. -/
def ServiceCall.app : ServiceCall → App
  | checkAndLock app _ _ => app
  | release app _ => app

/-- The program of a call; a release has no answer to tell. -/
def ServiceCall.prog : ServiceCall → Prog Bool
  | checkAndLock app sourceKey ttlSeconds => IdempotencyService.checkAndLock app sourceKey ttlSeconds
  | release app sourceKey => do IdempotencyService.release app sourceKey; pure false

variable {ι : Type} [DecidableEq ι]

/-- Slot `i` makes the call `calls i`. -/
abbrev serviceSystem (calls : ι → ServiceCall) : System ι RedisState JsError Ans Bool :=
  redisSystem fun i => (calls i).prog

abbrev ServiceEntry (ι : Type) := Entry ι RedisState JsError Ans Bool

/-! ### The law -/

/-- Both processes hash the keys of events, under the same key. -/
def SharesActiveKey (a b : EncryptionService) (id key : String) : Prop :=
  a.cipher.hmac = b.cipher.hmac ∧
    (a.isIdempotencyHmacEnabled = true ∧ a.activeKeyId = .ok id ∧ a.requireKey id = .ok key) ∧
    b.isIdempotencyHmacEnabled = true ∧ b.activeKeyId = .ok id ∧ b.requireKey id = .ok key

/-- With this step, after the steps `es`, the call `checkAndLock` of slot `i` returns true. -/
def Grants (calls : ι → ServiceCall) (i : ι) (es : List (ServiceEntry ι)) (e : ServiceEntry ι) :
    Prop :=
  (∃ v, e.label = .call i v) ∧ (calls i).prog.Runs (System.traceOf i (es ++ [e])) (.ok true)

/-- In this step somebody deletes the key. -/
def Removes (key : String) (e : ServiceEntry ι) : Prop :=
  ∃ i answer, e.label = .call i ⟨.redisDel key, answer⟩

/-- Deduplication works with whatever keyrings. -/
structure Deduplicates (calls : ι → ServiceCall) (es : List (ServiceEntry ι))
    (s' : Pool ι RedisState JsError Ans Bool) : Prop where
  /-- of two processes with one active key, the second is told that the event is new only after the
  lock of the first was deleted or has expired -/
  exclusive : ∀ es₁ e₁ es₂ e₂ es₃ i j a b sourceKey ttl ttl' id key,
    es = es₁ ++ e₁ :: (es₂ ++ e₂ :: es₃) →
    calls i = .checkAndLock a sourceKey ttl → calls j = .checkAndLock b sourceKey ttl' →
    SharesActiveKey a.encryption b.encryption id key →
    Grants calls i es₁ e₁ → Grants calls j (es₁ ++ e₁ :: es₂) e₂ →
    (∀ e ∈ es₂, ¬ Removes (a.encryption.hmacKey sourceKey id key) e) →
    e₁.before.shared.clock + ttl * 1000 ≤ e₂.before.shared.clock
  /-- while a lock under a key of the keyring is live, a call says that the event is a duplicate,
  unless a command fails -/
  fresh : ∀ i app sourceKey ttl id key x, calls i = .checkAndLock app sourceKey ttl →
    app.encryption.isIdempotencyHmacEnabled = true → app.encryption.Valid →
    app.encryption.requireKey id = .ok key →
    (∀ e ∈ es, ∀ v, e.label = .call i v →
      e.before.shared.Live (app.encryption.hmacKey sourceKey id key)) →
    s'.thread i = some (.settle x) → x = .ok false ∨ Rejects (System.traceOf i es) x
  /-- a release deletes the locks under all keys of the keyring -/
  released : ∀ i app sourceKey id key x, calls i = .release app sourceKey →
    app.encryption.isIdempotencyHmacEnabled = true → app.encryption.Valid →
    app.encryption.requireKey id = .ok key → s'.thread i = some (.settle x) →
    ∃ es₁ e es₂ answer, es = es₁ ++ e :: es₂ ∧
      e.label = .call i ⟨.redisDel (app.encryption.hmacKey sourceKey id key), answer⟩ ∧
      ∀ u, answer = .ok u → e.after.shared.locks (app.encryption.hmacKey sourceKey id key) = none

/-! ### Locks in the store -/

variable {calls : ι → ServiceCall} {i : ι} {es es₁ : List (ServiceEntry ι)} {e : ServiceEntry ι}
  {s s' m : Pool ι RedisState JsError Ans Bool} {key : String} {expiresAt : Time}

/-- A lock that nobody deletes stays until it expires. -/
theorem stands_of_exec (h : (serviceSystem calls).Exec s es s')
    (hs : s.shared.Stands key expiresAt) (hno : ∀ e ∈ es, ¬ Removes key e) :
    s'.shared.Stands key expiresAt := by
  refine h.invariant (I := fun m => m.shared.Stands key expiresAt) (fun e he hstep hstands => ?_) hs
  have hkeep := hno e he
  obtain ⟨m, l, m'⟩ := e
  change (serviceSystem calls).Step m l m' at hstep
  cases hstep with
  | @call j r k a s' hj henv =>
    refine hstands.step henv ?_
    rintro rfl
    exact hkeep ⟨j, a, rfl⟩
  | start _ hp =>
    rw [hp.2]
    exact hstands
  | tick ht => exact hstands.tick ht

/-- A call is granted by the `SET NX` of its first key, which then stands. -/
theorem Grants.lock {app : App} {sourceKey first : String} {ttl : ℕ} {keys : List String}
    (hcall : calls i = .checkAndLock app sourceKey ttl)
    (hredis : app.config.isRedisEnabled = true)
    (hkeys : app.encryption.idempotencyKeys sourceKey = .ok (first :: keys))
    (h : Grants calls i es e) (hstep : (serviceSystem calls).Step e.before e.label e.after) :
    ¬ e.before.shared.Live first ∧
      e.after.shared.Stands first (e.before.shared.clock + ttl * 1000) := by
  obtain ⟨⟨v, hlabel⟩, hrun⟩ := h
  rw [hcall] at hrun
  obtain ⟨first', keys', t, hkeys', htrace⟩ := checkAndLock_true hredis hrun
  rw [hkeys] at hkeys'
  cases hkeys'
  have hlast : System.traceOf i [e] = [v] := by simp [System.traceOf, hlabel]
  rw [System.traceOf_append, hlast] at htrace
  obtain ⟨-, hv⟩ := List.append_inj' htrace rfl
  rw [List.singleton_injective hv] at hlabel
  rw [hlabel] at hstep
  obtain ⟨k, -, henv, -⟩ := hstep.call_inv
  obtain ⟨hfree, hlock⟩ := RedisEnv.set_true henv
  exact ⟨hfree, fun _ => hlock⟩

/-- What a settled slot has done is a run of its call. -/
theorem runs_of_settled {x₀ : RedisState} {x : Except JsError Bool}
    (h : (serviceSystem calls).Exec (.idle x₀) es s') (hx : s'.thread i = some (.settle x)) :
    (calls i).prog.Runs (System.traceOf i es) x := by
  rcases h.follows_of_idle i with ⟨hnone, -⟩ | ⟨p₀, p, s₀, s₁, hp, hstart, hf⟩
  · rw [hnone] at hx
    cases hx
  · obtain rfl : p = .settle x := Option.some.inj (hp.symm.trans hx)
    obtain ⟨rfl, -⟩ : p₀ = (calls i).prog ∧ s₁ = s₀ := hstart
    exact follows_settle.1 hf

/-- An event of a slot's trace is a step of the history. -/
theorem step_of_mem_traceOf {v : Ev} (h : (serviceSystem calls).Exec s es s')
    (hv : v ∈ System.traceOf i es) : ∃ es₁ e es₂, es = es₁ ++ e :: es₂ ∧ e.label = .call i v ∧
      RedisEnv e.before.shared v.req v.ans e.after.shared := by
  obtain ⟨t₁, t₂, htrace⟩ := List.append_of_mem hv
  obtain ⟨es₁, e, es₂, heq, hlabel, -, -⟩ := System.exists_step_of_traceOf htrace
  have hstep := h.step_of_mem (heq ▸ List.mem_append_right es₁ (List.mem_cons_self ..))
  rw [hlabel] at hstep
  obtain ⟨k, -, henv, -⟩ := hstep.call_inv
  exact ⟨es₁, e, es₂, heq, hlabel, henv⟩

/-- The store keys of a process whose settings have been checked. -/
theorem exists_keys {service : EncryptionService} (sourceKey : String) {id key : String}
    (henabled : service.isIdempotencyHmacEnabled = true) (hvalid : service.Valid)
    (hkey : service.requireKey id = .ok key) :
    ∃ keys, service.idempotencyKeys sourceKey = .ok keys ∧
      service.hmacKey sourceKey id key ∈ keys := by
  obtain ⟨active, activeKey, hactive, hactiveKey⟩ := hvalid
  obtain ⟨keys, hkeys, hmem⟩ := EncryptionService.idempotencyKeys_hmac sourceKey
    henabled hactive hactiveKey
  exact ⟨_, hkeys, hmem id key hkey⟩

/-! ### Whole runs -/

theorem deduplicates {x₀ : RedisState} (h : (serviceSystem calls).Exec (.idle x₀) es s')
    (hredis : ∀ i, (calls i).app.config.isRedisEnabled = true) : Deduplicates calls es s' := by
  constructor
  · intro es₁ e₁ es₂ e₂ es₃ i j a b sourceKey ttl ttl' id key heq hi hj hshared hgrants₁ hgrants₂ hno
    obtain ⟨hcipher, ⟨ha, haActive, haKey⟩, hb, hbActive, hbKey⟩ := hshared
    have hredisᵢ := hredis i
    have hredisⱼ := hredis j
    rw [hi] at hredisᵢ
    rw [hj] at hredisⱼ
    obtain ⟨keysᵢ, hkeysᵢ, -⟩ := EncryptionService.idempotencyKeys_hmac sourceKey
      ha haActive haKey
    obtain ⟨keysⱼ, hkeysⱼ, -⟩ := EncryptionService.idempotencyKeys_hmac sourceKey
      hb hbActive hbKey
    have hsame : b.encryption.hmacKey sourceKey id key = a.encryption.hmacKey sourceKey id key := by
      simp only [EncryptionService.hmacKey, hcipher]
    rw [hsame] at hkeysⱼ
    subst heq
    obtain ⟨-, hstep₁, hrest⟩ := System.exec_middle_iff.1 h
    obtain ⟨hbetween, hstep₂, -⟩ := System.exec_middle_iff.1 hrest
    obtain ⟨-, hstands⟩ := hgrants₁.lock hi hredisᵢ hkeysᵢ hstep₁
    obtain ⟨hfree, -⟩ := hgrants₂.lock hj hredisⱼ hkeysⱼ hstep₂
    have hlock := stands_of_exec hbetween hstands hno
    by_contra hlt
    rw [not_le] at hlt
    exact hfree ⟨_, hlock hlt, hlt⟩
  · intro i app sourceKey ttl id key x hi henabled hvalid hkey hlive hx
    have hredisᵢ := hredis i
    rw [hi] at hredisᵢ
    obtain ⟨keys, hkeys, hmem⟩ := exists_keys sourceKey henabled hvalid hkey
    have hrun := runs_of_settled h hx
    rw [hi] at hrun
    refine checkAndLock_live hredisᵢ hrun hkeys hmem ⟨fun n hn => ?_, fun ttl' hset => ?_⟩
    · obtain ⟨es₁, e, es₂, heq, hlabel, henv⟩ := step_of_mem_traceOf h hn
      rw [henv.exists_eq, if_pos (hlive e (by simp [heq]) _ hlabel)]
    · obtain ⟨es₁, e, es₂, heq, hlabel, henv⟩ := step_of_mem_traceOf h hset
      exact henv.set_true.1 (hlive e (by simp [heq]) _ hlabel)
  · intro i app sourceKey id key x hi henabled hvalid hkey hx
    have hredisᵢ := hredis i
    rw [hi] at hredisᵢ
    obtain ⟨keys, hkeys, hmem⟩ := exists_keys sourceKey henabled hvalid hkey
    have hrun := runs_of_settled h hx
    rw [hi] at hrun
    obtain ⟨answer, hdel⟩ : ∃ answer, ⟨.redisDel (app.encryption.hmacKey sourceKey id key), answer⟩ ∈
        System.traceOf i es := by
      rcases runs_bind.1 hrun with ⟨e, -, h'⟩ | ⟨u, t₁, t₂, htrace, h₁, -⟩
      · exact release_redis hredisᵢ h' hkeys hmem
      · obtain ⟨answer, hdel⟩ := release_redis hredisᵢ h₁ hkeys hmem
        exact ⟨answer, by simp [htrace, hdel]⟩
    obtain ⟨es₁, e, es₂, heq, hlabel, henv⟩ := step_of_mem_traceOf h hdel
    refine ⟨es₁, e, es₂, answer, heq, hlabel, ?_⟩
    rintro u rfl
    exact henv.del_ok

/-- `App.caching` with hashed keys of events, under the given one of two keys. -/
def App.hashing (activeKeyId : String) : App :=
  { App.caching with
    encryption :=
      { App.bare.encryption with
        idempotencyHmacEnabled := some true
        encryptionActiveKeyId := some activeKeyId
        keyring := .ok .ofTwo }
    encryption_valid := by rintro ⟨⟩ }

/-- One process before and one after the change of the active key. -/
def beforeAndAfter : Bool → ServiceCall
  | false => .checkAndLock (.hashing "k1") "event" 3600
  | true => .checkAndLock (.hashing "k2") "event" 3600

/-- The lock that was taken before the change is found after it. -/
theorem deduplicates_after_rotation : ∃ es s', (serviceSystem beforeAndAfter).Exec
    (.idle ⟨fun _ => none, 0⟩) es s' ∧ s'.thread false = some (.settle (.ok true)) ∧
      s'.thread true = some (.settle (.ok false)) ∧ Deduplicates beforeAndAfter es s' := by
  have hnone : ∀ key, ¬ RedisState.Live ⟨fun _ => none, 0⟩ key :=
    fun _ => Locks.not_live_of_eq_none rfl
  have hne : (App.hashing "k2").encryption.hmacKey "event" "k2" "secret-2" ≠
      (App.hashing "k1").encryption.hmacKey "event" "k1" "secret-1" := by decide
  have h := System.Exec.nil (S := serviceSystem beforeAndAfter) (.idle ⟨fun _ => none, 0⟩)
  have h := h.snoc (.start (i := false) rfl ⟨rfl, rfl⟩)
  have h := h.snoc (.call (i := false) rfl (.absent (hnone _)))
  have h := h.snoc (.call (i := false) rfl (.absent (hnone _)))
  have h := h.snoc (.call (i := false) rfl (.take (hnone _)))
  have h := h.snoc (.start (i := true) rfl ⟨rfl, rfl⟩)
  have h := h.snoc (.call (i := true) rfl (.absent
    (Locks.not_live_of_eq_none (Function.update_of_ne hne (some 3600000) fun _ => none))))
  have h := h.snoc (.call (i := true) rfl (.present
    ((Locks.live_iff_of_eq_some (Function.update_self ..)).2 (by decide))))
  exact ⟨_, _, h, rfl, rfl, deduplicates h (by rintro (_ | _) <;> rfl)⟩

end IdmMw
