import IdmMw.Store.Postgres

/-!
# Mutual exclusion of the PostgreSQL store

Any number of calls of `PgIdempotencyStore` run at once; their statements interleave freely.

* `StoreCall`, `storeSystem`: the calls and the system they form;
* `LockExclusive`: between a `true` for one call and a `true` for another, the first lock has
  expired or was deleted;
* `NoOverwrite`: an upsert never finds a live row of somebody else's commit.

`setIfNotExists` reads the row and upserts it in two statements. At READ COMMITTED the row may be
committed by another call in between, and then the upsert silently takes over a live lock. This is
the only way to lose exclusion.
-/

namespace IdmMw

open Async

/-- A call of the store. -/
inductive StoreCall
  | setIfNotExists (key : String) (ttlSeconds : ℕ)
  | existsKey (key : String)
  | delete (key : String)

/-- The program of a call; a deletion has no answer to tell. -/
def StoreCall.prog : StoreCall → Prog Bool
  | setIfNotExists key ttlSeconds => PgIdempotencyStore.setIfNotExists key ttlSeconds
  | existsKey key => PgIdempotencyStore.existsKey key
  | delete key => do PgIdempotencyStore.delete key; pure false

variable {ι : Type} [DecidableEq ι]

/-- Slot `i` runs the call `calls i`. -/
def storeSystem (calls : ι → StoreCall) : System ι (StoreState ι) JsError Ans Bool where
  env := StoreEnv
  start i s p s' := p = (calls i).prog ∧ s' = s
  tick := StoreTick

/-- A pool of calls, and a step of an execution of it. -/
abbrev StorePool (ι : Type) := Pool ι (StoreState ι) JsError Ans Bool
abbrev StoreEntry (ι : Type) := Entry ι (StoreState ι) JsError Ans Bool

/-! ### The law -/

/-- In this step a call `setIfNotExists(key, _)` of slot `i` returns true. -/
def ReturnsTrue (calls : ι → StoreCall) (key : String) (i : ι) (e : StoreEntry ι) : Prop :=
  (∃ ttlSeconds, calls i = .setIfNotExists key ttlSeconds) ∧
    (∃ v, e.label = .call i v) ∧ e.after.thread i = some (.settle (.ok true))

/-- In this step the row `key` is deleted by a call of `delete`. -/
def Deletes (key : String) (e : StoreEntry ι) : Prop :=
  ∃ i, e.label = .call i ⟨.keyDelete key, .ok ()⟩

/-- A call that returns true after another one did finds the lock of the other one expired, unless
it was deleted. -/
def LockExclusive (calls : ι → StoreCall) (key : String) (es : List (StoreEntry ι)) : Prop :=
  ∀ es₁ a es₂ b es₃ i j, es = es₁ ++ a :: (es₂ ++ b :: es₃) → i ≠ j →
    ReturnsTrue calls key i a → ReturnsTrue calls key j b → (∀ e ∈ es₂, ¬ Deletes key e) →
    ∀ expiresAt, a.after.shared.db.committed key = some expiresAt →
      expiresAt ≤ b.after.shared.clock

/-- An upsert of `key` finds the committed row absent or expired. -/
def NoOverwrite (key : String) (e : StoreEntry ι) : Prop :=
  ∀ i expiresAt lockedAt, e.label = .call i ⟨.txKeyUpsert key expiresAt lockedAt, .ok ()⟩ →
    ∀ x, e.before.shared.db.committed key = some x → x ≤ e.before.shared.clock

/-! ### What a call has done so far -/

/-- How far a call has got with its transaction. -/
inductive Phase
  | idle
  | opened
  | wrote (key : String)
  | taken (key : String)

/-- The latest instant a call read, and its phase. -/
structure CallState where
  date : Time
  phase : Phase

namespace CallState

/-- What a call may ask next: one transaction, one upsert in it, no cut-off in the future, and
nothing after its lock is committed. -/
def Allows (q : CallState) : Req → Prop
  | .txBegin => q.phase = .idle
  | .txKeyUpsert _ _ _ => q.phase = .opened
  | .txKeyDeleteMany t => t ≤ q.date ∧ ∀ key, q.phase ≠ .taken key
  | _ => ∀ key, q.phase ≠ .taken key

def after (q : CallState) : (r : Req) → Ans r → CallState
  | .now, date => { q with date := date }
  | .txBegin, .ok _ => { q with phase := .opened }
  | .txKeyUpsert key _ _, .ok _ => { q with phase := .wrote key }
  | .txCommit, .ok _ => match q.phase with
    | .wrote key => { q with phase := .taken key }
    | _ => q
  | _, _ => q

end CallState

/-- The monitor of a call. -/
def callMonitor : Monitor CallState Ans where
  ok := CallState.Allows
  next q r a q' := q' = q.after r a

/-- A `setIfNotExists` that returns true has committed its lock. -/
def callPost (calls : ι → StoreCall) (i : ι) (q : CallState) (x : Except JsError Bool) : Prop :=
  ∀ key ttlSeconds, calls i = .setIfNotExists key ttlSeconds → x = .ok true →
    q.phase = .taken key

/-- The instant read is past, and a row that was written is locked while the transaction lives. -/
def callCoupling (i : ι) (s : StoreState ι) (q : CallState) : Prop :=
  q.date ≤ s.clock ∧ ∀ key, q.phase = .wrote key → ∀ w, s.db.tx i = some w → w key ≠ none

/-! ### Every call stays under the monitor -/

theorem wp_upsert {key : String} {expiresAt : Time} {q : CallState} (hq : q.phase = .opened) :
    (PgIdempotencyStore.upsert key expiresAt).wp callMonitor
      (fun q x => (x = .ok true → q.phase = .wrote key) ∧ ∀ k, q.phase ≠ .taken k) q := by
  unfold PgIdempotencyStore.upsert
  simp only [wp_bind, now, txKeyUpsert, txKeyDeleteMany, wp_await, wp_settle, wp_pure]
  refine ⟨by simp [callMonitor, CallState.Allows, hq], ?_⟩
  rintro lockedAt q₁ rfl
  refine ⟨hq, ?_⟩
  rintro (e | u) q₂ rfl
  · exact ⟨by simp, by simp [CallState.after, hq]⟩
  refine ⟨by simp [callMonitor, CallState.Allows, CallState.after], ?_⟩
  rintro dateNow q₃ rfl
  refine ⟨by simp [callMonitor, CallState.Allows, CallState.after], ?_⟩
  rintro (e | u) q₄ rfl <;> simp [CallState.after]

theorem wp_lock {key : String} {expiresAt : Time} {q : CallState} (hq : q.phase = .opened) :
    (PgIdempotencyStore.lock key expiresAt).wp callMonitor
      (fun q x => (x = .ok true → q.phase = .wrote key) ∧ ∀ k, q.phase ≠ .taken k) q := by
  -- whatever the look at the row gives, the transaction is open and nothing is written yet
  have hbranch : ∀ (live : Bool) (q : CallState), q.phase = .opened →
      (if live then pure false else PgIdempotencyStore.upsert key expiresAt : Prog Bool).wp
        callMonitor (fun q x => (x = .ok true → q.phase = .wrote key) ∧ ∀ k, q.phase ≠ .taken k)
        q := by
    intro live q hq
    cases live with
    | true => exact ⟨by simp, by simp [hq]⟩
    | false => exact wp_upsert hq
  unfold PgIdempotencyStore.lock
  rw [wp_bind]
  refine ⟨by simp [callMonitor, CallState.Allows, hq], ?_⟩
  rintro (e | row) q₁ rfl
  · exact ⟨by simp, by simp [hq]⟩
  simp only [wp_settle, wp_bind]
  cases row with
  | none => exact hbranch false _ hq
  | some expiresAt =>
    refine ⟨by simp [callMonitor, CallState.Allows, CallState.after, hq], ?_⟩
    rintro date q₂ rfl
    exact hbranch _ _ hq

theorem wp_setIfNotExists {key : String} {ttlSeconds : ℕ} {q : CallState} (hq : q.phase = .idle) :
    (PgIdempotencyStore.setIfNotExists key ttlSeconds).wp callMonitor
      (fun q x => x = .ok true → q.phase = .taken key) q := by
  unfold PgIdempotencyStore.setIfNotExists
  simp only [wp_bind, wp_tryCatch, wp_transaction, now, wp_await, wp_settle]
  refine ⟨by simp [callMonitor, CallState.Allows, hq], ?_⟩
  rintro dateNow q₁ rfl
  refine ⟨hq, ?_⟩
  rintro (e | u) q₂ rfl
  · intro h
    cases h
  refine wp_mono (wp_lock (by rfl)) ?_
  rintro q (e | taken) ⟨hwrote, hnot⟩
  · refine ⟨hnot, ?_⟩
    rintro y q' - h
    cases h
  · refine ⟨hnot, ?_⟩
    rintro (e | u) q' rfl
    · refine ⟨by simpa [callMonitor, CallState.Allows, CallState.after] using hnot, ?_⟩
      rintro z q'' - h
      cases h
    · intro h
      obtain rfl : taken = true := by simpa using h
      simp [CallState.after, hwrote rfl]

/-- The requests of `exists` and `delete` are outside any transaction. -/
theorem wp_of_issues {p : Prog Bool} {Q : CallState → Except JsError Bool → Prop} {q : CallState}
    (h : p.Issues fun r => r = .now ∨ ∃ key, r = .keyFindUnique key ∨ r = .keyDelete key)
    (hq : q.phase = .idle) (hQ : ∀ q x, Q q x) : p.wp callMonitor Q q := by
  refine wp_mono (Issues.wp (I := fun q => q.phase = .idle) h ?_ hq) fun q x _ => hQ q x
  rintro q r hq (rfl | ⟨key, rfl | rfl⟩) <;>
    exact ⟨by simp [callMonitor, CallState.Allows, hq], fun a q' h => by
      subst h; simpa [CallState.after] using hq⟩

variable {calls : ι → StoreCall}

omit [DecidableEq ι] in
theorem wp_prog (i : ι) {q : CallState} (hq : q.phase = .idle) :
    (calls i).prog.wp callMonitor (callPost calls i) q := by
  unfold callPost
  cases hc : calls i with
  | setIfNotExists key ttlSeconds =>
    refine wp_mono (wp_setIfNotExists hq) ?_
    rintro q x h key' ttl' heq hx
    cases heq
    exact h hx
  | existsKey key =>
    refine wp_of_issues ?_ hq (by simp)
    refine Issues.bind ⟨Or.inr ⟨key, Or.inl rfl⟩, fun _ => issues_settle⟩ fun row => ?_
    cases row with
    | none => exact issues_pure
    | some expiresAt => exact ⟨Or.inl rfl, fun _ => issues_pure⟩
  | delete key =>
    refine wp_of_issues ?_ hq (by simp)
    refine Issues.bind (Issues.tryCatch ⟨Or.inr ⟨key, Or.inr rfl⟩, fun _ => issues_settle⟩ ?_) ?_
    · intro e
      exact issues_pure
    · intro u
      exact issues_pure

/-! ### The table follows the phases -/

variable {s s' : StoreState ι} {r : Req} {a : Ans r} {i j : ι} {q : CallState}

/-- A call's own statement keeps the coupling. -/
theorem callCoupling_own (hC : callCoupling i s q) (hok : q.Allows r) (h : StoreEnv i s r a s') :
    callCoupling i s' (q.after r a) := by
  obtain ⟨hdate, hheld⟩ := hC
  cases h with
  | now => exact ⟨le_rfl, hheld⟩
  | txBegin => exact ⟨hdate, fun key h => by simp [CallState.after] at h⟩
  | txBeginError => exact ⟨hdate, hheld⟩
  | find => exact ⟨hdate, hheld⟩
  | findError => exact ⟨hdate, fun key _ w hw => by simp [Db.abort] at hw⟩
  | @upsert key expiresAt lockedAt hwrite =>
    refine ⟨hdate, ?_⟩
    rintro key' h w hw
    obtain rfl : key = key' := by simpa [CallState.after] using h
    obtain ⟨w₀, hw₀⟩ := hwrite.1
    obtain rfl : Function.update w₀ key (some (some expiresAt)) = w := by
      simpa [Db.write, hw₀] using hw
    simp
  | upsertError => exact ⟨hdate, fun key _ w hw => by simp [Db.abort] at hw⟩
  | @deleteMany t hdelete =>
    refine ⟨hdate, ?_⟩
    rintro key h w hw
    obtain ⟨w₀, hw₀⟩ := hdelete.1
    have hkey := hheld key h w₀ hw₀
    have hdel : (fun k => if (s.db.view i k).any (· < t) then some none else w₀ k) = w := by
      simpa [Db.deleteWhere, hw₀] using hw
    subst hdel
    by_cases hP : (s.db.view i key).any (· < t) = true
    · simp [hP]
    · simpa [hP] using hkey
  | deleteManyError => exact ⟨hdate, fun key _ w hw => by simp [Db.abort] at hw⟩
  | commit =>
    refine ⟨?_, fun key _ w hw => by simp [Db.commit] at hw⟩
    simp only [CallState.after]
    split <;> exact hdate
  | commitError => exact ⟨hdate, fun key _ w hw => by simp [Db.abort] at hw⟩
  | rollback => exact ⟨hdate, fun key _ w hw => by simp [Db.abort] at hw⟩
  | keyFind => exact ⟨hdate, hheld⟩
  | keyFindError => exact ⟨hdate, hheld⟩
  | keyDelete => exact ⟨hdate, hheld⟩
  | keyDeleteError => exact ⟨hdate, hheld⟩
  | other hr =>
    have hafter : q.after r a = q := by
      cases r <;> first | rfl | exact absurd trivial hr
    rw [hafter]
    exact ⟨hdate, hheld⟩

theorem storeCoupling (calls : ι → StoreCall) :
    (storeSystem calls).Coupling callMonitor (callPost calls) callCoupling where
  own hC hok h := ⟨_, rfl, callCoupling_own hC hok h⟩
  other hij hC _ _ h := by
    obtain ⟨hdate, hheld⟩ := hC
    refine ⟨by rw [h.clock_eq]; exact hdate, ?_⟩
    rw [h.tx_eq hij]
    exact hheld
  start := by
    rintro i s p s' ⟨rfl, rfl⟩
    exact ⟨⟨s'.clock, .idle⟩, ⟨le_rfl, by simp⟩, wp_prog i rfl⟩
  start_other := by
    rintro i j s q p s' - hC ⟨-, rfl⟩
    exact hC
  tick := by
    rintro i s q s' ⟨hdate, hheld⟩ h
    refine ⟨hdate.trans h.clock_le, ?_⟩
    rcases h.tx_eq (j := i) with htx | htx
    · rw [htx]
      exact hheld
    · simp [htx]

/-- Only the commit of an upsert takes a lock. -/
theorem CallState.after_taken {key : String} (hok : q.Allows r)
    (h : (q.after r a).phase = .taken key) :
    (⟨r, a⟩ : Ev) = ⟨.txCommit, .ok ()⟩ ∧ q.phase = .wrote key := by
  have hsame : q.after r a = q → (∀ key, q.phase ≠ .taken key) →
      (⟨r, a⟩ : Ev) = ⟨.txCommit, .ok ()⟩ ∧ q.phase = .wrote key := by
    intro hq hnot
    rw [hq] at h
    exact absurd h (hnot key)
  cases r with
  | txBegin =>
    cases a with
    | ok u => simp [CallState.after] at h
    | error e => exact hsame rfl (by simp [show q.phase = .idle from hok])
  | txKeyUpsert key' expiresAt lockedAt =>
    cases a with
    | ok u => simp [CallState.after] at h
    | error e => exact hsame rfl (by simp [show q.phase = .opened from hok])
  | txKeyDeleteMany t => exact hsame rfl hok.2
  | now => exact absurd h (hok key)
  | txCommit =>
    cases a with
    | ok u =>
      refine ⟨rfl, ?_⟩
      simp only [CallState.after] at h
      split at h
      · next key' hq =>
        obtain rfl : key' = key := by simpa using h
        exact hq
      · exact absurd h (hok key)
    | error e => exact hsame rfl hok
  | _ => exact hsame rfl hok

/-- A step in which a call returns true is the commit of its lock, held until then. -/
theorem ReturnsTrue.commit {key : String} {e : StoreEntry ι}
    (hw : System.Watched callMonitor (callPost calls) callCoupling e.before)
    (hstep : (storeSystem calls).Step e.before e.label e.after)
    (h : ReturnsTrue calls key i e) :
    e.before.shared.db.Holds i key ∧
      e.after.shared = { e.before.shared with db := e.before.shared.db.commit i } := by
  obtain ⟨⟨ttlSeconds, hcall⟩, ⟨⟨r, a⟩, hlabel⟩, hafter⟩ := h
  rw [hlabel] at hstep
  obtain ⟨k, hk, henv, hthread⟩ := hstep.call_inv
  obtain ⟨q, ⟨-, hheld⟩, hok, hwp⟩ := hw i _ hk
  have hsettled : k a = .settle (.ok true) := by simpa [hthread] using hafter
  have hpost := hwp a _ rfl
  rw [hsettled] at hpost
  obtain ⟨hcommit, hwrote⟩ := CallState.after_taken hok (hpost key ttlSeconds hcall rfl)
  cases hcommit
  generalize e.after.shared = s' at henv
  cases henv with
  | commit hopen =>
    obtain ⟨w, hw⟩ := hopen
    exact ⟨⟨w, hw, hheld key hwrote w hw⟩, rfl⟩
  | other hr => exact absurd trivial hr

/-! ### Exclusion -/

/-- After the commit of a lock that ends at `expiresAt`: the lock has ended, or its row is still
there and nobody is about to replace it. -/
def LockHeld (key : String) (expiresAt : Time) (s : StoreState ι) : Prop :=
  expiresAt ≤ s.clock ∨
    (s.db.committed key = some expiresAt ∧ ∀ u, ¬ s.db.Holds u key)

theorem LockHeld.env {key : String} {expiresAt : Time} (hl : LockHeld key expiresAt s)
    (h : StoreEnv i s r a s')
    (hupsert : ∀ E l, (⟨r, a⟩ : Ev) = ⟨.txKeyUpsert key E l, .ok ()⟩ →
      ∀ x, s.db.committed key = some x → x ≤ s.clock)
    (hdelete : (⟨r, a⟩ : Ev) ≠ ⟨.keyDelete key, .ok ()⟩)
    (hcut : ∀ t, r = .txKeyDeleteMany t → t ≤ s.clock) : LockHeld key expiresAt s' := by
  rcases hl with hl | ⟨hrow, hfree⟩
  · exact Or.inl (by rw [h.clock_eq]; exact hl)
  cases h.effect with
  | none => exact Or.inr ⟨hrow, hfree⟩
  | begin => exact Or.inr ⟨hrow, fun u hu => hfree u (Db.holds_begin.1 hu).2⟩
  | abort => exact Or.inr ⟨hrow, fun u hu => hfree u (Db.holds_abort.1 hu).2⟩
  | @upsert key' E l hwrite =>
    by_cases hkey : key' = key
    · -- the only upsert allowed finds the lock expired
      subst hkey
      exact Or.inl (hupsert E l rfl expiresAt hrow)
    · refine Or.inr ⟨hrow, fun u hu => ?_⟩
      by_cases hui : u = i
      · subst hui
        rcases (Db.holds_write_self hwrite.1).1 hu with hk | hk
        · exact hkey hk.symm
        · exact hfree u hk
      · exact hfree u ((Db.holds_write_of_ne hui).1 hu)
  | @deleteMany t hdel =>
    by_cases ht : expiresAt < t
    · exact Or.inl (ht.le.trans (hcut t rfl))
    · refine Or.inr ⟨hrow, fun u hu => ?_⟩
      by_cases hui : u = i
      · subst hui
        rcases (Db.holds_deleteWhere_self hdel.1).1 hu with hk | hk
        · rw [Db.view_of_not_holds (hfree u), hrow] at hk
          exact ht (by simpa using hk)
        · exact hfree u hk
      · exact hfree u ((Db.holds_deleteWhere_of_ne hui).1 hu)
  | commit _ =>
    refine Or.inr ⟨?_, fun u hu => hfree u (Db.holds_commit.1 hu).2⟩
    rw [← hrow]
    exact Db.commit_committed_of_not_holds (hfree i)
  | @erase key' hsome hnone =>
    refine Or.inr ⟨?_, hfree⟩
    have hkey : key ≠ key' := by
      rintro rfl
      exact hdelete rfl
    simpa [hkey] using hrow

theorem LockHeld.tick {key : String} {expiresAt : Time} (hl : LockHeld key expiresAt s)
    (h : StoreTick s s') : LockHeld key expiresAt s' := by
  rcases hl with hl | ⟨hrow, hfree⟩
  · exact Or.inl (hl.trans h.clock_le)
  cases h with
  | clock h => exact Or.inr ⟨hrow, hfree⟩
  | lost => exact Or.inr ⟨hrow, fun u hu => hfree u (Db.holds_abort.1 hu).2⟩

variable {d : StoreState ι} {es : List (StoreEntry ι)} {p p' : StorePool ι} {key : String}

theorem exclusive_of_exec (hd : d.db.Exclusive) (h : (storeSystem calls).Exec (.idle d) es p) :
    p.shared.db.Exclusive := by
  refine h.invariant (I := fun m => m.shared.db.Exclusive) ?_ hd
  intro e _ hstep hb
  generalize e.before = m, e.label = l, e.after = m' at hstep hb ⊢
  cases hstep with
  | call _ henv => exact henv.exclusive hb
  | start _ hp =>
    obtain ⟨-, rfl⟩ := hp
    exact hb
  | tick ht => exact ht.exclusive hb

/-- A lock keeps being held until it ends, in any execution that never overwrites or deletes it. -/
theorem lockHeld_of_exec {expiresAt : Time} (h : (storeSystem calls).Exec p es p')
    (hw : System.Watched callMonitor (callPost calls) callCoupling p)
    (hsafe : ∀ e ∈ es, NoOverwrite key e) (hdel : ∀ e ∈ es, ¬ Deletes key e)
    (hl : LockHeld key expiresAt p.shared) :
    System.Watched callMonitor (callPost calls) callCoupling p' ∧
      LockHeld key expiresAt p'.shared := by
  refine h.invariant (I := fun m => System.Watched callMonitor (callPost calls) callCoupling m ∧
    LockHeld key expiresAt m.shared) ?_ ⟨hw, hl⟩
  rintro e he hstep ⟨hw, hl⟩
  refine ⟨(storeCoupling calls).step hstep hw, ?_⟩
  have hsafe := hsafe e he
  have hdel := hdel e he
  obtain ⟨m, l, m'⟩ := e
  change (storeSystem calls).Step m l m' at hstep
  cases hstep with
  | @call i r k a s' hi henv =>
    obtain ⟨q, ⟨hdate, -⟩, hok, -⟩ := hw i _ hi
    refine hl.env henv (fun E lockedAt hlab x hx => ?_) (fun hlab => ?_) (fun t ht => ?_)
    · exact hsafe i E lockedAt (congrArg _ hlab) x hx
    · exact hdel ⟨i, congrArg _ hlab⟩
    · subst ht
      exact (show t ≤ q.date from hok.1).trans hdate
  | start _ hp =>
    obtain ⟨-, rfl⟩ := hp
    exact hl
  | tick ht => exact hl.tick ht

/-- If no upsert of the key ever finds a live row, the calls exclude each other. -/
theorem setIfNotExists_exclusive (hd : d.db.Quiescent)
    (h : (storeSystem calls).Exec (.idle d) es p) (hsafe : ∀ e ∈ es, NoOverwrite key e) :
    LockExclusive calls key es := by
  rintro es₁ a es₂ b es₃ i j rfl hij ha hb hdel expiresAt hrow
  obtain ⟨h₁, hstep, h₂⟩ := System.exec_middle_iff.1 h
  obtain ⟨h₂, hstep', -⟩ := System.exec_middle_iff.1 h₂
  have hw := (storeCoupling calls).watched h₁
  obtain ⟨hheld, hafter⟩ := ha.commit hw hstep
  -- the commit leaves the row unlocked
  have hl : LockHeld key expiresAt a.after.shared := by
    refine Or.inr ⟨hrow, fun u hu => ?_⟩
    rw [hafter] at hu
    obtain ⟨hui, hu⟩ := Db.holds_commit.1 hu
    exact exclusive_of_exec hd.exclusive h₁ i u key (Ne.symm hui) hheld hu
  obtain ⟨hw', hl'⟩ := lockHeld_of_exec h₂ ((storeCoupling calls).step hstep hw)
    (fun e he => hsafe e (by simp [he])) hdel hl
  obtain ⟨hheld', hafter'⟩ := hb.commit hw' hstep'
  rw [hafter']
  rcases hl' with hl' | ⟨-, hfree⟩
  · exact hl'
  · exact absurd hheld' (hfree j)

/-! ### Two calls -/

/-- Two calls for the same key, an hour each, over an empty table. -/
def twoCalls : Bool → StoreCall := fun _ => .setIfNotExists "key" 3600

def emptyStore : StoreState Bool := ⟨⟨fun _ => none, fun _ => none⟩, 0⟩

/-- One call after the other, the second when the lock of the first has just expired: both take
the lock. -/
theorem setIfNotExists_exclusive_two_calls : ∃ es p,
    (storeSystem twoCalls).Exec (.idle emptyStore) es p ∧
      p.thread false = some (.settle (.ok true)) ∧ p.thread true = some (.settle (.ok true)) ∧
      LockExclusive twoCalls "key" es := by
  have h := System.reaches_refl (S := storeSystem twoCalls) (P := NoOverwrite "key")
    (.idle emptyStore)
  have h := h.snoc (.start (i := false) rfl ⟨rfl, rfl⟩) (by rintro _ _ _ ⟨⟩)
  have h := h.snoc (.call (i := false) rfl .now) (by rintro _ _ _ ⟨⟩)
  have h := h.snoc (.call (i := false) rfl .txBegin) (by rintro _ _ _ ⟨⟩)
  have h := h.snoc (.call (i := false) rfl (.find ⟨_, rfl⟩)) (by rintro _ _ _ ⟨⟩)
  have h := h.snoc (.call (i := false) rfl .now) (by rintro _ _ _ ⟨⟩)
  have h := h.snoc (.call (i := false) rfl (.upsert ⟨⟨_, rfl⟩, fun u hu =>
    Db.free_of_other (.inl rfl) u hu _⟩)) (by rintro _ _ _ ⟨⟩ x hx; cases hx)
  have h := h.snoc (.call (i := false) rfl .now) (by rintro _ _ _ ⟨⟩)
  have h := h.snoc (.call (i := false) rfl (.deleteMany ⟨⟨_, rfl⟩, fun k _ _ _ u hu =>
    Db.free_of_other (.inl rfl) u hu k⟩)) (by rintro _ _ _ ⟨⟩)
  have h := h.snoc (.call (i := false) rfl (.commit ⟨_, rfl⟩)) (by rintro _ _ _ ⟨⟩)
  have h := h.snoc (.tick (.clock (t := 3600000) (by decide))) (by rintro _ _ _ ⟨⟩)
  have h := h.snoc (.start (i := true) rfl ⟨rfl, rfl⟩) (by rintro _ _ _ ⟨⟩)
  have h := h.snoc (.call (i := true) rfl .now) (by rintro _ _ _ ⟨⟩)
  have h := h.snoc (.call (i := true) rfl .txBegin) (by rintro _ _ _ ⟨⟩)
  have h := h.snoc (.call (i := true) rfl (.find ⟨_, rfl⟩)) (by rintro _ _ _ ⟨⟩)
  have h := h.snoc (.call (i := true) rfl .now) (by rintro _ _ _ ⟨⟩)
  have h := h.snoc (.call (i := true) rfl .now) (by rintro _ _ _ ⟨⟩)
  have h := h.snoc (.call (i := true) rfl (.upsert ⟨⟨_, rfl⟩, fun u hu =>
    Db.free_of_other (.inl rfl) u hu _⟩)) (by rintro _ _ _ ⟨⟩ x hx; cases hx; decide)
  have h := h.snoc (.call (i := true) rfl .now) (by rintro _ _ _ ⟨⟩)
  have h := h.snoc (.call (i := true) rfl (.deleteMany ⟨⟨_, rfl⟩, fun k _ _ _ u hu =>
    Db.free_of_other (.inl rfl) u hu k⟩)) (by rintro _ _ _ ⟨⟩)
  have h := h.snoc (.call (i := true) rfl (.commit ⟨_, rfl⟩)) (by rintro _ _ _ ⟨⟩)
  obtain ⟨es, h, hsafe⟩ := h
  exact ⟨es, _, h, rfl, rfl, setIfNotExists_exclusive (fun _ => rfl) h hsafe⟩

/-- Both calls read the absent row before either writes it, and both take the lock: the second
overwrites the live lock of the first. -/
theorem setIfNotExists_not_exclusive : ∃ es p,
    (storeSystem twoCalls).Exec (.idle emptyStore) es p ∧ ¬ LockExclusive twoCalls "key" es := by
  have h := System.reaches_refl (S := storeSystem twoCalls) (P := fun _ => True) (.idle emptyStore)
  have h := h.snoc (.start (i := false) rfl ⟨rfl, rfl⟩) trivial
  have h := h.snoc (.start (i := true) rfl ⟨rfl, rfl⟩) trivial
  have h := h.snoc (.call (i := true) rfl .now) trivial
  have h := h.snoc (.call (i := true) rfl .txBegin) trivial
  have h := h.snoc (.call (i := true) rfl (.find ⟨_, rfl⟩)) trivial
  have h := h.snoc (.call (i := false) rfl .now) trivial
  have h := h.snoc (.call (i := false) rfl .txBegin) trivial
  have h := h.snoc (.call (i := false) rfl (.find ⟨_, rfl⟩)) trivial
  have h := h.snoc (.call (i := false) rfl .now) trivial
  have h := h.snoc (.call (i := false) rfl (.upsert ⟨⟨_, rfl⟩, fun u hu =>
    Db.free_of_other (.inr rfl) u hu _⟩)) trivial
  have h := h.snoc (.call (i := false) rfl .now) trivial
  have h := h.snoc (.call (i := false) rfl (.deleteMany ⟨⟨_, rfl⟩, fun k _ _ _ u hu =>
    Db.free_of_other (.inr rfl) u hu k⟩)) trivial
  obtain ⟨⟨es₁, h₁, -⟩, ha, h⟩ := h.mark (fun e => ¬ Deletes "key" e)
    (.call (i := false) rfl (.commit ⟨_, rfl⟩))
  have h := h.snoc (.call (i := true) rfl .now) (by rintro ⟨_, ⟨⟩⟩)
  have h := h.snoc (.call (i := true) rfl (.upsert ⟨⟨_, rfl⟩, fun u hu =>
    Db.free_of_other (.inl rfl) u hu _⟩)) (by rintro ⟨_, ⟨⟩⟩)
  have h := h.snoc (.call (i := true) rfl .now) (by rintro ⟨_, ⟨⟩⟩)
  have h := h.snoc (.call (i := true) rfl (.deleteMany ⟨⟨_, rfl⟩, fun k _ _ _ u hu =>
    Db.free_of_other (.inl rfl) u hu k⟩)) (by rintro ⟨_, ⟨⟩⟩)
  obtain ⟨⟨es₂, h₂, hdel⟩, hb, -⟩ := h.mark (fun _ => True)
    (.call (i := true) rfl (.commit ⟨_, rfl⟩))
  refine ⟨_, _, h₁.around ha (h₂.around hb (.nil _)), ?_⟩
  intro hexcl
  have hlive := hexcl _ _ _ _ _ false true rfl (by decide) ⟨⟨3600, rfl⟩, ⟨_, rfl⟩, rfl⟩
    ⟨⟨3600, rfl⟩, ⟨_, rfl⟩, rfl⟩ hdel 3600000 rfl
  exact absurd hlive (by decide)

end IdmMw
