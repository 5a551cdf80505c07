import IdmMw.Library.Pool
import IdmMw.Library.ReadCommitted
import IdmMw.Model.Idempotency

/-!
# The idempotency table in PostgreSQL

How the statements on `IdempotencyKey` are answered when any number of programs share the table and
a clock. The transactions run at READ COMMITTED. Every statement may fail, and then its transaction
is lost; a connection may also break between two statements. Requests that do not concern the table
are answered in any way.

* `StoreState`, `StoreEnv`, `StoreTick`;
* `StoreEnv.effect`: what an answered request does to the table, in seven cases;
* `StoreEnv.exclusive`: no row is ever locked by two transactions;
* `wp_transaction`: the rule for an interactive transaction.

Of a row only `expiresAt` is kept, the one column that is ever read.
-/

namespace IdmMw

/-- The table and the clock. -/
structure StoreState (ι : Type) where
  db : Db ι String Time
  clock : Time

/-- The requests that the table or the clock answers. -/
def Req.OnKeys : Req → Prop
  | .now | .txBegin | .txCommit | .txRollback => True
  | .txKeyFindUnique _ | .txKeyUpsert _ _ _ | .txKeyDeleteMany _ => True
  | .keyFindUnique _ | .keyDelete _ => True
  | _ => False

variable {ι : Type} [DecidableEq ι]

/-- How the request `r` of slot `i` may be answered. -/
inductive StoreEnv : ι → StoreState ι → (r : Req) → Ans r → StoreState ι → Prop
  | now {i s} : StoreEnv i s .now s.clock s
  | txBegin {i s} : StoreEnv i s .txBegin (.ok ()) { s with db := s.db.begin i }
  | txBeginError {i s e} : StoreEnv i s .txBegin (.error e) s
  | find {i s key} (h : ∃ w, s.db.tx i = some w) :
      StoreEnv i s (.txKeyFindUnique key) (.ok (s.db.view i key)) s
  | findError {i s key e} :
      StoreEnv i s (.txKeyFindUnique key) (.error e) { s with db := s.db.abort i }
  | upsert {i s key expiresAt lockedAt} (h : s.db.CanWrite i key) :
      StoreEnv i s (.txKeyUpsert key expiresAt lockedAt) (.ok ())
        { s with db := s.db.write i key (some expiresAt) }
  | upsertError {i s key expiresAt lockedAt e} :
      StoreEnv i s (.txKeyUpsert key expiresAt lockedAt) (.error e) { s with db := s.db.abort i }
  | deleteMany {i s t} (h : s.db.CanDelete i (· < t)) :
      StoreEnv i s (.txKeyDeleteMany t) (.ok ()) { s with db := s.db.deleteWhere i (· < t) }
  | deleteManyError {i s t e} :
      StoreEnv i s (.txKeyDeleteMany t) (.error e) { s with db := s.db.abort i }
  | commit {i s} (h : ∃ w, s.db.tx i = some w) :
      StoreEnv i s .txCommit (.ok ()) { s with db := s.db.commit i }
  | commitError {i s e} : StoreEnv i s .txCommit (.error e) { s with db := s.db.abort i }
  | rollback {i s x} : StoreEnv i s .txRollback x { s with db := s.db.abort i }
  | keyFind {i s key} : StoreEnv i s (.keyFindUnique key) (.ok (s.db.committed key)) s
  | keyFindError {i s key e} : StoreEnv i s (.keyFindUnique key) (.error e) s
  | keyDelete {i s key} (hrow : s.db.committed key ≠ none) (h : ∀ u, ¬ s.db.Holds u key) :
      StoreEnv i s (.keyDelete key) (.ok ()) { s with db := s.db.erase key }
  | keyDeleteError {i s key e} : StoreEnv i s (.keyDelete key) (.error e) s
  | other {i s r a} (h : ¬ r.OnKeys) : StoreEnv i s r a s

/-- Time passes, or the connection of an open transaction breaks. -/
inductive StoreTick : StoreState ι → StoreState ι → Prop
  | clock {s t} (h : s.clock ≤ t) : StoreTick s { s with clock := t }
  | lost {s i} : StoreTick s { s with db := s.db.abort i }

/-- What an answered request does to the table. -/
inductive StoreEffect : ι → StoreState ι → (r : Req) → Ans r → StoreState ι → Prop
  | none {i s r a} : StoreEffect i s r a s
  | begin {i s a} : StoreEffect i s .txBegin a { s with db := s.db.begin i }
  | abort {i s r a} : StoreEffect i s r a { s with db := s.db.abort i }
  | upsert {i s key expiresAt lockedAt} (h : s.db.CanWrite i key) :
      StoreEffect i s (.txKeyUpsert key expiresAt lockedAt) (.ok ())
        { s with db := s.db.write i key (some expiresAt) }
  | deleteMany {i s t} (h : s.db.CanDelete i (· < t)) :
      StoreEffect i s (.txKeyDeleteMany t) (.ok ()) { s with db := s.db.deleteWhere i (· < t) }
  | commit {i s} (h : ∃ w, s.db.tx i = some w) :
      StoreEffect i s .txCommit (.ok ()) { s with db := s.db.commit i }
  | erase {i s key} (hrow : s.db.committed key ≠ none) (h : ∀ u, ¬ s.db.Holds u key) :
      StoreEffect i s (.keyDelete key) (.ok ()) { s with db := s.db.erase key }

variable {i j : ι} {s s' : StoreState ι} {r : Req} {a : Ans r}

theorem StoreEnv.effect (h : StoreEnv i s r a s') : StoreEffect i s r a s' := by
  cases h with
  | txBegin => exact .begin
  | upsert h => exact .upsert h
  | deleteMany h => exact .deleteMany h
  | commit h => exact .commit h
  | keyDelete hrow h => exact .erase hrow h
  | findError | upsertError | deleteManyError | commitError | rollback => exact .abort
  | now | txBeginError | find | keyFind | keyFindError | keyDeleteError | other => exact .none

theorem StoreEnv.clock_eq (h : StoreEnv i s r a s') : s'.clock = s.clock := by
  cases h.effect <;> rfl

theorem StoreTick.clock_le (h : StoreTick s s') : s.clock ≤ s'.clock := by
  cases h with
  | clock h => exact h
  | lost => exact le_rfl

/-- The transactions of the other slots are left alone. -/
theorem StoreEnv.tx_eq (h : StoreEnv i s r a s') (hij : j ≠ i) : s'.db.tx j = s.db.tx j := by
  cases h.effect <;>
    simp [Db.begin, Db.abort, Db.write, Db.deleteWhere, Db.commit, Db.erase, hij]

theorem StoreTick.tx_eq (h : StoreTick s s') : s'.db.tx j = s.db.tx j ∨ s'.db.tx j = none := by
  cases h with
  | clock h => exact Or.inl rfl
  | @lost i =>
    by_cases hij : j = i
    · simp [Db.abort, hij]
    · simp [Db.abort, hij]

theorem StoreEnv.exclusive (h : StoreEnv i s r a s') (hs : s.db.Exclusive) : s'.db.Exclusive := by
  cases h.effect with
  | none => exact hs
  | begin => exact hs.begin
  | abort => exact hs.abort
  | upsert hw => exact hs.write hw
  | deleteMany hw => exact hs.deleteWhere hw
  | commit _ => exact hs.commit
  | erase _ _ => exact hs

theorem StoreTick.exclusive (h : StoreTick s s') (hs : s.db.Exclusive) : s'.db.Exclusive := by
  cases h with
  | clock h => exact hs
  | lost => exact hs.abort

/-! ### What an answer says -/

theorem StoreEnv.now_eq {date : Time} (h : StoreEnv i s .now date s') : date = s.clock := by
  cases h with
  | now => rfl
  | other hr => exact absurd trivial hr

theorem StoreEnv.keyFind_eq {key : String} {row : Option Time}
    (h : StoreEnv i s (.keyFindUnique key) (.ok row) s') : s.db.committed key = row := by
  generalize ha : (Except.ok row : Ans (.keyFindUnique key)) = a at h
  cases h with
  | keyFind => exact Except.ok.inj ha.symm
  | keyFindError => cases ha
  | other hr => exact absurd trivial hr

theorem StoreEnv.find_eq {key : String} {row : Option Time}
    (h : StoreEnv i s (.txKeyFindUnique key) (.ok row) s') : s.db.view i key = row := by
  generalize ha : (Except.ok row : Ans (.txKeyFindUnique key)) = a at h
  cases h with
  | find => exact Except.ok.inj ha.symm
  | findError => cases ha
  | other hr => exact absurd trivial hr

/-! ### Transactions -/

section Transaction

open Async

variable {σ α : Type} {M : Monitor σ Ans} {Q : σ → Except JsError α → Prop} {q : σ}

/-- A transaction settles with the result of its body once that is committed; a failure of the body
or of the commit is followed by one more request, the rollback. -/
theorem wp_transaction {body : Prog α} :
    (transaction body).wp M Q q ↔
      M.ok q .txBegin ∧ ∀ x q', M.next q .txBegin x q' → match x with
        | .error e => Q q' (.error e)
        | .ok _ => body.wp M (fun q x => match x with
          | .error e => M.ok q .txRollback ∧ ∀ y q', M.next q .txRollback y q' → Q q' (.error e)
          | .ok a => M.ok q .txCommit ∧ ∀ y q', M.next q .txCommit y q' → match y with
            | .ok _ => Q q' (.ok a)
            | .error e =>
              M.ok q' .txRollback ∧ ∀ z q'', M.next q' .txRollback z q'' → Q q'' (.error e)) q' := by
  have hrollback : ∀ (e : JsError) (q : σ),
      (do tryCatch txRollback fun _ => pure (); throw e : Prog α).wp M Q q ↔
        M.ok q .txRollback ∧ ∀ y q', M.next q .txRollback y q' → Q q' (.error e) := by
    intro e q
    simp only [wp_bind, wp_tryCatch, txRollback, wp_await, wp_settle]
    refine and_congr_right fun _ => forall_congr' fun y => forall₂_congr fun q' _ => ?_
    cases y <;> rfl
  unfold transaction
  simp only [wp_bind, wp_tryCatch, hrollback, txBegin, txCommit, wp_await, wp_settle]
  refine and_congr_right fun _ => forall_congr' fun x => forall₂_congr fun q' _ => ?_
  cases x with
  | error e => rfl
  | ok u =>
    refine iff_of_eq (congrArg (body.wp M · q') ?_)
    funext q x
    cases x with
    | error e => rfl
    | ok a =>
      refine propext (and_congr_right fun _ => forall_congr' fun y => forall₂_congr fun q' _ => ?_)
      cases y <;> rfl

end Transaction

end IdmMw
