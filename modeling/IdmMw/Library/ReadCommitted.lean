import Mathlib.Tactic

/-!
# A table under READ COMMITTED transactions

A table maps keys to rows. An open transaction keeps its own uncommitted writes over the committed
table; every statement sees the rows committed by then together with the writes of its own
transaction. A written row stays locked until its transaction ends: a statement that would write a
row locked by another transaction waits, so it is simply not enabled until then.

* `Db`, `view`, `Holds` (row locks);
* the statements `begin`, `write`, `deleteWhere`, `commit`, `abort`, and `erase` (a single delete
  outside any transaction), with `CanWrite` and `CanDelete` for the statements that may have to wait;
* `Exclusive`: no row is locked twice, kept by every statement.

At this isolation level nothing ties a read to a later write of the same transaction: what was read
may be overwritten by another commit in between.
-/

set_option linter.unusedSectionVars false

/-- A table with its committed rows and the writes of the open transactions. A write is the new
row, or `none` for a deletion. -/
structure Db (τ κ ρ : Type) where
  committed : κ → Option ρ
  tx : τ → Option (κ → Option (Option ρ))

namespace Db

variable {τ κ ρ : Type} {d : Db τ κ ρ} {t u : τ} {k : κ}

/-- What a statement of transaction `t` sees. -/
def view (d : Db τ κ ρ) (t : τ) (k : κ) : Option ρ :=
  match d.tx t with
  | some w => (w k).getD (d.committed k)
  | none => d.committed k

/-- `t` has written the row `k` and not ended yet, so it holds the row lock. -/
def Holds (d : Db τ κ ρ) (t : τ) (k : κ) : Prop := ∃ w, d.tx t = some w ∧ w k ≠ none

/-- No row is locked by two transactions. -/
def Exclusive (d : Db τ κ ρ) : Prop := ∀ t u k, t ≠ u → d.Holds t k → ¬ d.Holds u k

/-- No transaction is open. -/
def Quiescent (d : Db τ κ ρ) : Prop := ∀ t, d.tx t = none

/-- A write of `k` in `t` need not wait. -/
def CanWrite (d : Db τ κ ρ) (t : τ) (k : κ) : Prop :=
  (∃ w, d.tx t = some w) ∧ ∀ u, u ≠ t → ¬ d.Holds u k

/-- A deletion in `t` of the rows that satisfy `P` need not wait. -/
def CanDelete (d : Db τ κ ρ) (t : τ) (P : ρ → Bool) : Prop :=
  (∃ w, d.tx t = some w) ∧
    ∀ k row, d.view t k = some row → P row = true → ∀ u, u ≠ t → ¬ d.Holds u k

variable [DecidableEq τ]

/-- Open a transaction. -/
def begin (d : Db τ κ ρ) (t : τ) : Db τ κ ρ :=
  { d with tx := Function.update d.tx t (some fun _ => none) }

/-- Write one row inside a transaction. -/
def write [DecidableEq κ] (d : Db τ κ ρ) (t : τ) (k : κ) (v : Option ρ) : Db τ κ ρ :=
  { d with tx := Function.update d.tx t ((d.tx t).map fun w => Function.update w k (some v)) }

/-- Delete the rows that satisfy `P` inside a transaction. -/
def deleteWhere (d : Db τ κ ρ) (t : τ) (P : ρ → Bool) : Db τ κ ρ :=
  { d with tx := Function.update d.tx t ((d.tx t).map fun w k =>
      if (d.view t k).any P then some none else w k) }

/-- Commit: the writes of `t` become visible to all, its locks are given up. -/
def commit (d : Db τ κ ρ) (t : τ) : Db τ κ ρ :=
  ⟨d.view t, Function.update d.tx t none⟩

/-- Roll back. -/
def abort (d : Db τ κ ρ) (t : τ) : Db τ κ ρ :=
  { d with tx := Function.update d.tx t none }

omit [DecidableEq τ] in
/-- Delete one row outside any transaction. -/
def erase [DecidableEq κ] (d : Db τ κ ρ) (k : κ) : Db τ κ ρ :=
  { d with committed := Function.update d.committed k none }

section Committed

variable [DecidableEq κ] {v : Option ρ} {P : ρ → Bool}

@[simp] theorem begin_committed : (d.begin t).committed = d.committed := rfl
@[simp] theorem write_committed : (d.write t k v).committed = d.committed := rfl
@[simp] theorem deleteWhere_committed : (d.deleteWhere t P).committed = d.committed := rfl
@[simp] theorem erase_committed : (d.erase k).committed = Function.update d.committed k none := rfl

/-- Without having written a row, a transaction sees the committed one. -/
theorem view_of_not_holds (h : ¬ d.Holds t k) : d.view t k = d.committed k := by
  unfold view
  cases hw : d.tx t with
  | none => rfl
  | some w =>
    have : w k = none := by
      by_contra hk
      exact h ⟨w, hw, hk⟩
    simp [this]

/-- A commit changes only rows whose lock its transaction holds. -/
theorem commit_committed_of_not_holds (h : ¬ d.Holds t k) :
    (d.commit t).committed k = d.committed k := view_of_not_holds h

end Committed

section View

variable [DecidableEq κ] {v : Option ρ} {P : ρ → Bool}

/-- A transaction starts from the committed rows. -/
theorem view_begin : (d.begin t).view t = d.committed := by
  funext k
  simp [view, begin]

@[simp] theorem tx_begin : (d.begin t).tx t = some fun _ => none := by simp [begin]

@[simp] theorem tx_commit : (d.commit t).tx t = none := by simp [commit]

/-- A transaction that writes stays open. -/
theorem open_write (ht : ∃ w, d.tx t = some w) : ∃ w, (d.write t k v).tx t = some w := by
  obtain ⟨w, hw⟩ := ht
  exact ⟨Function.update w k (some v), by simp [write, hw]⟩

theorem open_deleteWhere (ht : ∃ w, d.tx t = some w) : ∃ w, (d.deleteWhere t P).tx t = some w := by
  obtain ⟨w, hw⟩ := ht
  exact ⟨_, by simp only [deleteWhere, hw, Function.update_self, Option.map_some]; rfl⟩

/-- A transaction sees its own writes. -/
theorem view_write (ht : ∃ w, d.tx t = some w) :
    (d.write t k v).view t = Function.update (d.view t) k v := by
  obtain ⟨w, hw⟩ := ht
  funext k'
  by_cases hk : k' = k
  · subst hk
    simp [view, write, hw]
  · simp [view, write, hw, hk]

/-- A transaction no longer sees what it has deleted. -/
theorem view_deleteWhere (ht : ∃ w, d.tx t = some w) (k : κ) :
    (d.deleteWhere t P).view t k = if (d.view t k).any P then none else d.view t k := by
  obtain ⟨w, hw⟩ := ht
  have hview : d.view t k = (w k).getD (d.committed k) := by simp [view, hw]
  simp only [view, deleteWhere, hw, Function.update_self, Option.map_some] at hview ⊢
  split <;> rfl

end View

section Holds

variable [DecidableEq κ] {v : Option ρ} {P : ρ → Bool} {k' : κ}

theorem holds_begin : (d.begin t).Holds u k ↔ u ≠ t ∧ d.Holds u k := by
  by_cases hu : u = t
  · subst hu; simp [Holds, begin]
  · simp [Holds, begin, hu]

theorem holds_abort : (d.abort t).Holds u k ↔ u ≠ t ∧ d.Holds u k := by
  by_cases hu : u = t
  · subst hu; simp [Holds, abort]
  · simp [Holds, abort, hu]

theorem holds_commit : (d.commit t).Holds u k ↔ u ≠ t ∧ d.Holds u k := by
  by_cases hu : u = t
  · subst hu; simp [Holds, commit]
  · simp [Holds, commit, hu]

theorem holds_write_of_ne (hu : u ≠ t) : (d.write t k' v).Holds u k ↔ d.Holds u k := by
  simp [Holds, write, hu]

theorem holds_write_self (ht : ∃ w, d.tx t = some w) :
    (d.write t k' v).Holds t k ↔ k = k' ∨ d.Holds t k := by
  obtain ⟨w, hw⟩ := ht
  by_cases hk : k = k'
  · subst hk; simp [Holds, write, hw]
  · simp [Holds, write, hw, hk]

theorem holds_deleteWhere_of_ne (hu : u ≠ t) : (d.deleteWhere t P).Holds u k ↔ d.Holds u k := by
  simp [Holds, deleteWhere, hu]

theorem holds_deleteWhere_self (ht : ∃ w, d.tx t = some w) :
    (d.deleteWhere t P).Holds t k ↔ (d.view t k).any P = true ∨ d.Holds t k := by
  obtain ⟨w, hw⟩ := ht
  cases hP : (d.view t k).any P <;> simp [Holds, deleteWhere, hw, hP]

end Holds

theorem not_holds_of_tx_eq_none (h : d.tx t = none) : ¬ d.Holds t k := by
  rintro ⟨w, hw, -⟩
  rw [h] at hw
  cases hw

/-- A transaction that has not written anything holds no lock. -/
theorem not_holds_of_tx_eq (h : d.tx t = some fun _ => none) : ¬ d.Holds t k := by
  rintro ⟨w, hw, hk⟩
  obtain rfl : (fun _ => none) = w := by simpa [h] using hw
  exact hk rfl

/-- Of two transactions, one may write anything if the other has not written. -/
theorem free_of_other {d : Db Bool κ ρ} {t : Bool}
    (h : d.tx (!t) = none ∨ d.tx (!t) = some fun _ => none) :
    ∀ u, u ≠ t → ∀ k, ¬ d.Holds u k := by
  intro u hu k
  obtain rfl : u = !t := by cases t <;> cases u <;> simp_all
  rcases h with h | h
  · exact not_holds_of_tx_eq_none h
  · exact not_holds_of_tx_eq h

section Exclusive

variable [DecidableEq κ] {v : Option ρ} {P : ρ → Bool}

theorem Quiescent.exclusive (h : d.Quiescent) : d.Exclusive := by
  rintro t u k - ⟨w, hw, -⟩
  simp [h t] at hw

theorem Exclusive.begin (h : d.Exclusive) : (d.begin t).Exclusive := by
  intro a b k hab ha hb
  exact h a b k hab (holds_begin.1 ha).2 (holds_begin.1 hb).2

theorem Exclusive.abort (h : d.Exclusive) : (d.abort t).Exclusive := by
  intro a b k hab ha hb
  exact h a b k hab (holds_abort.1 ha).2 (holds_abort.1 hb).2

theorem Exclusive.commit (h : d.Exclusive) : (d.commit t).Exclusive := by
  intro a b k hab ha hb
  exact h a b k hab (holds_commit.1 ha).2 (holds_commit.1 hb).2

/-- A lock taken only where nobody else holds it stays exclusive. -/
theorem Exclusive.of_step {d' : Db τ κ ρ} (h : d.Exclusive)
    (hne : ∀ u k, u ≠ t → (d'.Holds u k ↔ d.Holds u k))
    (hself : ∀ k, d'.Holds t k → d.Holds t k ∨ ∀ u, u ≠ t → ¬ d.Holds u k) : d'.Exclusive := by
  intro a b k hab ha hb
  by_cases hat : a = t
  · subst hat
    rw [hne b k (Ne.symm hab)] at hb
    rcases hself k ha with h' | h'
    · exact h a b k hab h' hb
    · exact h' b (Ne.symm hab) hb
  · rw [hne a k hat] at ha
    by_cases hbt : b = t
    · subst hbt
      rcases hself k hb with h' | h'
      · exact h a b k hab ha h'
      · exact h' a hat ha
    · rw [hne b k hbt] at hb
      exact h a b k hab ha hb

theorem Exclusive.write (h : d.Exclusive) (hw : d.CanWrite t k) : (d.write t k v).Exclusive := by
  refine h.of_step (t := t) (fun u k' hu => holds_write_of_ne hu) fun k' hk' => ?_
  rcases (holds_write_self hw.1).1 hk' with rfl | hk'
  · exact Or.inr hw.2
  · exact Or.inl hk'

theorem Exclusive.deleteWhere (h : d.Exclusive) (hw : d.CanDelete t P) :
    (d.deleteWhere t P).Exclusive := by
  refine h.of_step (t := t) (fun u k' hu => holds_deleteWhere_of_ne hu) fun k' hk' => ?_
  rcases (holds_deleteWhere_self hw.1).1 hk' with hP | hk'
  · cases hrow : d.view t k' with
    | none => simp [hrow] at hP
    | some row => exact Or.inr (hw.2 k' row hrow (by simpa [hrow] using hP))
  · exact Or.inl hk'

end Exclusive

end Db
