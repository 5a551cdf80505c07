import IdmMw.Library.Locks
import IdmMw.Store.Exclusion

/-!
# The PostgreSQL store as a table of locks

Calls of `PgIdempotencyStore` that are made one after the other, on a database that does not fail,
answer as a table of locks with expiry (`Locks`) does.

* `sequential`: the database and the clock, for one client;
* `SequentialRun`: a sequence of finished calls, with time passing between them and during them;
* `LockRun`: the same calls on a table of locks, each at an instant during the call;
* `lockRun_of_sequential`: the answers are the same, and no clean-up removes a live lock.

The rows and the locks need not be the same: an expired row may linger, or be deleted in passing by
an operation on another key. They have the same live locks at every moment (`Locks.SameFrom`).
-/

namespace IdmMw

open Async

/-! ### One client -/

/-- The request has not failed. Deleting a row that does not exist counts as a failure to Prisma, but
is none of the database. -/
def Faultless (s : StoreState Unit) : (r : Req) → Ans r → Prop
  | .txBegin, .error _ => False
  | .txCommit, .error _ => False
  | .txKeyFindUnique _, .error _ => False
  | .txKeyUpsert _ _ _, .error _ => False
  | .txKeyDeleteMany _, .error _ => False
  | .keyFindUnique _, .error _ => False
  | .keyDelete key, .error _ => s.db.committed key = none
  | _, _ => True

/-- A clean-up does not remove live locks. -/
def CleansExpired (s : StoreState Unit) : Req → Prop
  | .txKeyDeleteMany cutoff => ∀ key e, s.db.view () key = some e → s.clock < e → ¬ e < cutoff
  | _ => True

/-- The database and the clock: a request is answered, and then some time may pass. -/
def sequential : Monitor (StoreState Unit) Ans where
  ok := CleansExpired
  next s r a s' := Faultless s r a ∧
    ∃ s₁ clock, StoreEnv () s r a s₁ ∧ s₁.clock ≤ clock ∧ s' = { s₁ with clock := clock }

/-- A finished call: its requests with their answers, its result, and the states around it. -/
structure FinishedCall where
  call : StoreCall
  trace : Trace
  result : Except JsError Bool
  before : StoreState Unit
  after : StoreState Unit

/-- The calls are made one after the other. -/
inductive SequentialRun : StoreState Unit → List FinishedCall → StoreState Unit → Prop
  | nil (s) : SequentialRun s [] s
  | pass {s clock fs s'} (h : s.clock ≤ clock)
      (hrest : SequentialRun { s with clock := clock } fs s') : SequentialRun s fs s'
  | call {s call t x s₁ fs s'} (hrun : call.prog.Runs t x) (hleads : sequential.Leads s t s₁)
      (hrest : SequentialRun s₁ fs s') : SequentialRun s (⟨call, t, x, s, s₁⟩ :: fs) s'

/-! ### Calls on a table of locks -/

/-- What a call does to a table of locks: a lock is taken for a time that starts at `since`; whether
it is live is judged at the instant `at'`. A deletion has no answer to tell. -/
def StoreCall.onLocks (since at' : Time) : StoreCall → Locks String Time → Bool × Locks String Time
  | setIfNotExists key ttlSeconds, m => m.acquire key (since + ttlSeconds * 1000) at'
  | existsKey key, m => (decide (m.Live key at'), m)
  | delete key, m => (false, m.remove key)

/-- The finished calls have the answers of a table of locks, at instants during the calls. -/
def LockRun : Locks String Time → List FinishedCall → Prop
  | _, [] => True
  | m, f :: fs => ∃ since at', f.before.clock ≤ since ∧ since ≤ at' ∧ at' ≤ f.after.clock ∧
      f.result = .ok (f.call.onLocks since at' m).1 ∧ LockRun (f.call.onLocks since at' m).2 fs

/-- No clean-up of the calls removes a live lock. -/
def KeepsLive (fs : List FinishedCall) : Prop :=
  ∀ f ∈ fs, ∀ t₁ e t₂ s, f.trace = t₁ ++ e :: t₂ → sequential.Leads f.before t₁ s →
    CleansExpired s e.req

/-! ### What a request does -/

variable {s s' : StoreState Unit} {key : String} {m m' : Locks String Time}

theorem next_now {date : Time} (h : sequential.next s .now date s') :
    date = s.clock ∧ s'.db = s.db ∧ s.clock ≤ s'.clock := by
  obtain ⟨-, s₁, clock, henv, hle, rfl⟩ := h
  have hclock := henv.clock_eq
  obtain rfl := henv.now_eq
  cases henv with
  | now => exact ⟨rfl, rfl, hle⟩
  | other hr => exact absurd trivial hr

/-- A request that changes the database, and leaves the clock to time. -/
theorem next_db {r : Req} {a : Ans r} (h : sequential.next s r a s') :
    Faultless s r a ∧ s.clock ≤ s'.clock ∧ ∃ s₁, StoreEnv () s r a s₁ ∧ s'.db = s₁.db := by
  obtain ⟨hok, s₁, clock, henv, hle, rfl⟩ := h
  rw [henv.clock_eq] at hle
  exact ⟨hok, hle, s₁, henv, rfl⟩

theorem next_begin {a : Ans .txBegin} (h : sequential.next s .txBegin a s') :
    a = .ok () ∧ s'.db = s.db.begin () ∧ s.clock ≤ s'.clock := by
  obtain ⟨hok, hle, s₁, henv, hdb⟩ := next_db h
  cases henv with
  | txBegin => exact ⟨rfl, hdb, hle⟩
  | txBeginError => exact hok.elim
  | other hr => exact absurd trivial hr

theorem next_find {a : Ans (.txKeyFindUnique key)}
    (h : sequential.next s (.txKeyFindUnique key) a s') :
    a = .ok (s.db.view () key) ∧ s'.db = s.db ∧ s.clock ≤ s'.clock := by
  obtain ⟨hok, hle, s₁, henv, hdb⟩ := next_db h
  cases henv with
  | find _ => exact ⟨rfl, hdb, hle⟩
  | findError => exact hok.elim
  | other hr => exact absurd trivial hr

theorem next_upsert {expiresAt lockedAt : Time} {a : Ans (.txKeyUpsert key expiresAt lockedAt)}
    (h : sequential.next s (.txKeyUpsert key expiresAt lockedAt) a s') :
    a = .ok () ∧ s'.db = s.db.write () key (some expiresAt) ∧ s.clock ≤ s'.clock := by
  obtain ⟨hok, hle, s₁, henv, hdb⟩ := next_db h
  cases henv with
  | upsert _ => exact ⟨rfl, hdb, hle⟩
  | upsertError => exact hok.elim
  | other hr => exact absurd trivial hr

theorem next_deleteMany {cutoff : Time} {a : Ans (.txKeyDeleteMany cutoff)}
    (h : sequential.next s (.txKeyDeleteMany cutoff) a s') :
    a = .ok () ∧ s'.db = s.db.deleteWhere () (· < cutoff) ∧ s.clock ≤ s'.clock := by
  obtain ⟨hok, hle, s₁, henv, hdb⟩ := next_db h
  cases henv with
  | deleteMany _ => exact ⟨rfl, hdb, hle⟩
  | deleteManyError => exact hok.elim
  | other hr => exact absurd trivial hr

theorem next_commit {a : Ans .txCommit} (h : sequential.next s .txCommit a s') :
    a = .ok () ∧ s'.db = s.db.commit () ∧ s.clock ≤ s'.clock := by
  obtain ⟨hok, hle, s₁, henv, hdb⟩ := next_db h
  cases henv with
  | commit _ => exact ⟨rfl, hdb, hle⟩
  | commitError => exact hok.elim
  | other hr => exact absurd trivial hr

theorem next_keyFind {a : Ans (.keyFindUnique key)}
    (h : sequential.next s (.keyFindUnique key) a s') :
    a = .ok (s.db.committed key) ∧ s'.db = s.db ∧ s.clock ≤ s'.clock := by
  obtain ⟨hok, hle, s₁, henv, hdb⟩ := next_db h
  cases henv with
  | keyFind => exact ⟨rfl, hdb, hle⟩
  | keyFindError => exact hok.elim
  | other hr => exact absurd trivial hr

/-- After a deletion the row is gone, whether or not there was one. -/
theorem next_delete {a : Ans (.keyDelete key)} (h : sequential.next s (.keyDelete key) a s') :
    s'.db.committed = Locks.remove s.db.committed key ∧ s'.db.tx = s.db.tx ∧
      s.clock ≤ s'.clock := by
  obtain ⟨hok, hle, s₁, henv, hdb⟩ := next_db h
  cases henv with
  | keyDelete _ _ =>
    rw [hdb]
    exact ⟨rfl, rfl, hle⟩
  | keyDeleteError =>
    have hmissing : s.db.committed key = none := hok
    rw [hdb]
    exact ⟨by rw [Locks.remove, ← hmissing, Function.update_eq_self], rfl, hle⟩
  | other hr => exact absurd trivial hr

/-! ### What a call does -/

/-- No transaction is open, and the rows have the live locks of `m`. -/
def Holding (m : Locks String Time) (s : StoreState Unit) : Prop :=
  s.db.tx () = none ∧ Locks.SameFrom s.clock s.db.committed m

/-- The call has settled as on the table `m`, at instants from `from'` on. -/
def SettledAs (call : StoreCall) (from' : Time) (m : Locks String Time) (s : StoreState Unit)
    (x : Except JsError Bool) : Prop :=
  ∃ since at', from' ≤ since ∧ since ≤ at' ∧ at' ≤ s.clock ∧
    x = .ok (call.onLocks since at' m).1 ∧ Holding (call.onLocks since at' m).2 s

/-- Within a transaction: what is committed, and what the transaction sees. -/
structure InTransaction (committed view : Locks String Time) (s : StoreState Unit) : Prop where
  tx : ∃ w, s.db.tx () = some w
  committed : s.db.committed = committed
  view : s.db.view () = view

theorem InTransaction.congr {view : Locks String Time} (h : InTransaction m view s)
    (hdb : s'.db = s.db) : InTransaction m view s' := by
  constructor
  · rw [hdb]
    exact h.tx
  · rw [hdb]
    exact h.committed
  · rw [hdb]
    exact h.view

/-- `isLive` of a row that a transaction has read. -/
theorem isLive_wp {row : Option Time} {Q : StoreState Unit → Except JsError Bool → Prop}
    (hnone : row = none → Q s (.ok false))
    (hrow : ∀ expiresAt s', row = some expiresAt → s'.db = s.db → s.clock ≤ s'.clock →
      Q s' (.ok (decide (s.clock < expiresAt)))) :
    (PgIdempotencyStore.isLive row).wp sequential Q s := by
  cases row with
  | none => exact hnone rfl
  | some expiresAt =>
    refine ⟨trivial, fun date s' hnext => ?_⟩
    obtain ⟨rfl, hdb, hle⟩ := next_now hnext
    exact hrow expiresAt s' rfl hdb hle

/-- The upsert and the clean-up: the transaction then sees its lock, and of the others those that
have not been expired for a minute. -/
theorem upsert_wp {expiresAt : Time} (h : InTransaction m m s) :
    (PgIdempotencyStore.upsert key expiresAt).wp sequential (fun s' x => x = .ok true ∧
      s.clock ≤ s'.clock ∧ ∃ view, InTransaction m view s' ∧
        Locks.SameFrom s'.clock view (Function.update m key (some expiresAt))) s := by
  refine ⟨trivial, fun lockedAt s₁ hnow => ?_⟩
  obtain ⟨-, hdb₁, hle₁⟩ := next_now hnow
  refine ⟨trivial, fun a s₂ hupsert => ?_⟩
  obtain ⟨rfl, hdb₂, hle₂⟩ := next_upsert hupsert
  refine ⟨trivial, fun dateNow s₃ hnow' => ?_⟩
  obtain ⟨rfl, hdb₃, hle₃⟩ := next_now hnow'
  have hin₁ : InTransaction m m s₁ := h.congr hdb₁
  have hview : s₃.db.view () = Function.update m key (some expiresAt) := by
    rw [hdb₃, hdb₂, Db.view_write hin₁.tx, hin₁.view]
  have htx : ∃ w, s₃.db.tx () = some w := by
    rw [hdb₃, hdb₂]
    exact Db.open_write hin₁.tx
  refine ⟨?_, fun a s₄ hdelete => ?_⟩
  · -- the cut-off lies a minute before an instant that has passed
    intro key' e _ hlive hcut
    linarith
  obtain ⟨rfl, hdb₄, hle₄⟩ := next_deleteMany hdelete
  refine ⟨rfl, hle₁.trans (hle₂.trans (hle₃.trans hle₄)), s₄.db.view (), ⟨?_, ?_, rfl⟩, ?_⟩
  · rw [hdb₄]
    exact Db.open_deleteWhere htx
  · rw [hdb₄, Db.deleteWhere_committed, hdb₃, hdb₂, Db.write_committed]
    exact hin₁.committed
  · rw [← hview]
    refine Locks.SameFrom.of_expired fun key' => ?_
    rw [hdb₄, Db.view_deleteWhere htx]
    by_cases hcut : (s₃.db.view () key').any (· < s₂.clock - 60000) = true
    · refine Or.inr ⟨if_pos hcut, fun e he => ?_⟩
      have hlt : e < s₂.clock - 60000 := by simpa [he] using hcut
      linarith
    · exact Or.inl (if_neg hcut)

/-- The body of the transaction judges the lock at an instant between its read and its end. -/
theorem lock_wp {expiresAt : Time} (h : InTransaction m m s) :
    (PgIdempotencyStore.lock key expiresAt).wp sequential (fun s' x =>
      ∃ at', s.clock ≤ at' ∧ at' ≤ s'.clock ∧ x = .ok (m.acquire key expiresAt at').1 ∧
        ∃ view, InTransaction m view s' ∧
          Locks.SameFrom s'.clock view (m.acquire key expiresAt at').2) s := by
  refine ⟨trivial, fun a s₁ hfind => ?_⟩
  obtain ⟨rfl, hdb₁, hle₁⟩ := next_find hfind
  have hin₁ := h.congr hdb₁
  refine wp_bind.2 (isLive_wp (fun hnone => ?_) fun e s₂ hrow hdb₂ hle₂ => ?_)
  · -- there is no row
    have hlive : ¬ m.Live key s₁.clock := Locks.not_live_of_eq_none (by rw [← h.view, hnone])
    refine wp_mono (upsert_wp hin₁) ?_
    rintro s' x ⟨rfl, hle, view, hin, hsame⟩
    refine ⟨s₁.clock, hle₁, hle, ?_⟩
    rw [Locks.acquire_of_not_live hlive]
    exact ⟨rfl, view, hin, hsame⟩
  · -- the row is judged when it has been read
    have hin₂ := hin₁.congr hdb₂
    rw [h.view] at hrow
    by_cases hlt : s₁.clock < e
    · have hlive : m.Live key s₁.clock := ⟨e, hrow, hlt⟩
      rw [decide_eq_true hlt]
      refine ⟨s₁.clock, hle₁, hle₂, ?_⟩
      rw [Locks.acquire_of_live hlive]
      exact ⟨rfl, m, hin₂, Locks.SameFrom.refl _ _⟩
    · have hlive : ¬ m.Live key s₁.clock :=
        fun hlive => hlt ((Locks.live_iff_of_eq_some hrow).1 hlive)
      rw [decide_eq_false hlt]
      refine wp_mono (upsert_wp hin₂) ?_
      rintro s' x ⟨rfl, hle, view, hin, hsame⟩
      refine ⟨s₁.clock, hle₁, hle₂.trans hle, ?_⟩
      rw [Locks.acquire_of_not_live hlive]
      exact ⟨rfl, view, hin, hsame⟩

theorem setIfNotExists_wp (ttlSeconds : ℕ) :
    (PgIdempotencyStore.setIfNotExists key ttlSeconds).wp sequential
      (SettledAs (.setIfNotExists key ttlSeconds) s.clock s.db.committed) s := by
  refine ⟨trivial, fun since s₁ hnow => ?_⟩
  obtain ⟨rfl, hdb₁, hle₁⟩ := next_now hnow
  refine wp_tryCatch.2 (wp_transaction.2 ⟨trivial, fun a s₂ hbegin => ?_⟩)
  obtain ⟨rfl, hdb₂, hle₂⟩ := next_begin hbegin
  rw [hdb₁] at hdb₂
  have hin : InTransaction s.db.committed s.db.committed s₂ := by
    refine ⟨⟨fun _ => none, ?_⟩, ?_, ?_⟩
    · rw [hdb₂, Db.tx_begin]
    · rw [hdb₂, Db.begin_committed]
    · rw [hdb₂, Db.view_begin]
  refine wp_mono (lock_wp hin) ?_
  rintro s₃ x ⟨at', hfrom, hto, rfl, view, hin₃, hsame⟩
  refine ⟨trivial, fun a s₄ hcommit => ?_⟩
  obtain ⟨rfl, hdb₄, hle₄⟩ := next_commit hcommit
  refine ⟨s.clock, at', le_rfl, hle₁.trans (hle₂.trans hfrom), hto.trans hle₄, rfl, ?_, ?_⟩
  · rw [hdb₄, Db.tx_commit]
  · have hview : s₄.db.committed = view := by
      rw [hdb₄]
      exact hin₃.view
    rw [hview]
    exact hsame.later hle₄

theorem existsKey_wp (htx : s.db.tx () = none) :
    (PgIdempotencyStore.existsKey key).wp sequential
      (SettledAs (.existsKey key) s.clock s.db.committed) s := by
  refine ⟨trivial, fun a s₁ hfind => ?_⟩
  obtain ⟨rfl, hdb₁, hle₁⟩ := next_keyFind hfind
  have hholding : ∀ s', s'.db = s.db → Holding s.db.committed s' := by
    intro s' hdb
    rw [Holding, hdb]
    exact ⟨htx, Locks.SameFrom.refl _ _⟩
  refine isLive_wp (fun hnone => ?_) fun e s₂ hrow hdb₂ hle₂ => ?_
  · have hlive : ¬ Locks.Live s.db.committed key s₁.clock := Locks.not_live_of_eq_none hnone
    refine ⟨s₁.clock, s₁.clock, hle₁, le_rfl, le_rfl, ?_, hholding s₁ hdb₁⟩
    rw [StoreCall.onLocks, decide_eq_false hlive]
  · refine ⟨s₁.clock, s₁.clock, hle₁, le_rfl, hle₂, ?_, hholding s₂ (hdb₂.trans hdb₁)⟩
    simp only [StoreCall.onLocks, Locks.live_iff_of_eq_some hrow]

theorem delete_wp (htx : s.db.tx () = none) :
    (StoreCall.delete key).prog.wp sequential
      (SettledAs (.delete key) s.clock s.db.committed) s := by
  refine ⟨trivial, fun a s₁ hdelete => ?_⟩
  obtain ⟨hrows, htx₁, hle⟩ := next_delete hdelete
  have hsettled : SettledAs (.delete key) s.clock s.db.committed s₁ (.ok false) := by
    refine ⟨s.clock, s.clock, le_rfl, le_rfl, hle, rfl, htx₁ ▸ htx, ?_⟩
    rw [hrows]
    exact Locks.SameFrom.refl _ _
  cases a with
  | ok _ => exact hsettled
  | error _ => exact hsettled

/-- Each call settles as on the table of locks that the rows form. -/
theorem call_wp (call : StoreCall) (htx : s.db.tx () = none) :
    call.prog.wp sequential (SettledAs call s.clock s.db.committed) s := by
  cases call with
  | setIfNotExists key ttlSeconds => exact setIfNotExists_wp ttlSeconds
  | existsKey key => exact existsKey_wp htx
  | delete key => exact delete_wp htx

/-! ### Whole runs -/

/-- Tables with the same live locks cannot be told apart by a call. -/
theorem onLocks_congr (since : Time) {t at' : Time} (h : Locks.SameFrom t m m') (hle : t ≤ at')
    (call : StoreCall) : (call.onLocks since at' m).1 = (call.onLocks since at' m').1 ∧
      Locks.SameFrom t (call.onLocks since at' m).2 (call.onLocks since at' m').2 := by
  cases call with
  | setIfNotExists key ttlSeconds => exact h.acquire hle
  | existsKey key => exact ⟨decide_eq_decide.2 (h.live_iff hle), h⟩
  | delete key => exact ⟨rfl, h.remove key⟩

/-- The clock never goes back during a call. -/
theorem leads_clock_le {t : Trace} (h : sequential.Leads s t s') : s.clock ≤ s'.clock := by
  induction t generalizing s with
  | nil =>
    obtain rfl := h
    exact le_rfl
  | cons e t ih =>
    obtain ⟨s₁, hnext, h⟩ := h
    exact (next_db hnext).2.1.trans (ih h)

/-- Calls that are made one after the other on a database that does not fail are answered as by the
table of locks that the rows form at the beginning, and no clean-up removes a live lock. -/
theorem lockRun_of_holding {fs : List FinishedCall} (h : SequentialRun s fs s')
    (hm : Holding m s) : LockRun m fs ∧ KeepsLive fs := by
  induction h generalizing m with
  | nil => exact ⟨trivial, by rintro f ⟨⟩⟩
  | pass hle _ ih => exact ih ⟨hm.1, hm.2.later hle⟩
  | @call s call t x s₁ fs s' hrun hleads hrest ih =>
    have hwp := call_wp call hm.1
    obtain ⟨since, at', hfrom, hsince, hto, rfl, htx, hsame⟩ := wp_runs hwp hrun hleads
    obtain ⟨hanswer, hsame'⟩ := onLocks_congr since hm.2 (hfrom.trans hsince) call
    have hm₁ : Holding (call.onLocks since at' m).2 s₁ :=
      ⟨htx, hsame.trans (hsame'.later (leads_clock_le hleads))⟩
    obtain ⟨hrest', hkeeps⟩ := ih hm₁
    refine ⟨⟨since, at', hfrom, hsince, hto, by rw [hanswer], hrest'⟩, ?_⟩
    intro f hf t₁ e t₂ s₂ htrace hleads₂
    rcases List.mem_cons.1 hf with rfl | hf
    · obtain rfl : t = t₁ ++ e :: t₂ := htrace
      exact wp_allows hwp hrun hleads₂
    · exact hkeeps f hf t₁ e t₂ s₂ htrace hleads₂

theorem lockRun_of_sequential {fs : List FinishedCall} (h : SequentialRun s fs s')
    (hidle : s.db.tx () = none) : LockRun s.db.committed fs ∧ KeepsLive fs :=
  lockRun_of_holding h ⟨hidle, Locks.SameFrom.refl _ _⟩

/-- A request that is answered at once. -/
theorem next_at_once {r : Req} {a : Ans r} (h : StoreEnv () s r a s') (hok : Faultless s r a) :
    sequential.next s r a s' := ⟨hok, s', s'.clock, h, le_rfl, rfl⟩

/-- A lock is taken for an hour; at the instant it expires it is no longer there. -/
theorem lockRun_expiry : ∃ f₁ f₂ : FinishedCall,
    f₁.call = .setIfNotExists "key" 3600 ∧ f₁.result = .ok true ∧ f₂.call = .existsKey "key" ∧
      f₂.before.clock = 3600000 ∧ f₂.result = .ok false ∧
      LockRun (fun _ => none) [f₁, f₂] ∧ KeepsLive [f₁, f₂] := by
  have hfree : ∀ (d : Db Unit String Time) u k, u ≠ () → ¬ d.Holds u k :=
    fun _ u _ hu => absurd rfl hu
  have hset : (StoreCall.setIfNotExists "key" 3600).prog.Runs
      [⟨.now, (0 : Time)⟩, ⟨.txBegin, .ok ()⟩, ⟨.txKeyFindUnique "key", .ok none⟩, ⟨.now, (0 : Time)⟩,
        ⟨.txKeyUpsert "key" 3600000 0, .ok ()⟩, ⟨.now, (0 : Time)⟩,
        ⟨.txKeyDeleteMany (-60000), .ok ()⟩, ⟨.txCommit, .ok ()⟩] (.ok true) :=
    ⟨_, _, rfl, _, _, rfl, _, _, rfl, _, _, rfl, _, _, rfl, _, _, rfl, _, _, rfl, _, _, rfl, rfl, rfl⟩
  have hexists : (StoreCall.existsKey "key").prog.Runs
      [⟨.keyFindUnique "key", .ok (some 3600000)⟩, ⟨.now, (3600000 : Time)⟩] (.ok false) :=
    ⟨_, _, rfl, _, _, rfl, rfl, rfl⟩
  have hrun := SequentialRun.call (s := ⟨⟨fun _ => none, fun _ => none⟩, 0⟩) hset
    ⟨_, next_at_once .now trivial, _, next_at_once .txBegin trivial,
      _, next_at_once (.find ⟨_, Db.tx_begin⟩) trivial, _, next_at_once .now trivial,
      _, next_at_once (.upsert ⟨⟨_, Db.tx_begin⟩, fun u hu => hfree _ u _ hu⟩) trivial,
      _, next_at_once .now trivial,
      _, next_at_once (.deleteMany ⟨Db.open_write ⟨_, Db.tx_begin⟩,
        fun _ _ _ _ u hu => hfree _ u _ hu⟩) trivial,
      _, next_at_once (.commit (Db.open_deleteWhere (Db.open_write ⟨_, Db.tx_begin⟩))) trivial, rfl⟩
    (@SequentialRun.pass _ 3600000 _ _ (by decide) (.call hexists
      ⟨_, next_at_once .keyFind trivial, _, next_at_once .now trivial, rfl⟩ (.nil _)))
  exact ⟨_, _, rfl, rfl, rfl, rfl, rfl, lockRun_of_sequential hrun rfl⟩

end IdmMw
