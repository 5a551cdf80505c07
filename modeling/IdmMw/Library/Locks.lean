import Mathlib.Logic.Function.Basic
import Mathlib.Order.Lattice

/-!
# Locks that expire

A table of locks: for each key the instant at which its lock expires, if it was ever taken. A lock
is live before that instant; what is left of it afterwards has no effect.

* `Locks`, `Locks.Live`: the tables, and which locks are live at an instant;
* `Locks.acquire`, `Locks.remove`: take a lock that is not live, remove a lock;
* `Locks.SameFrom`: two tables that have the same live locks from an instant on. The operations
  cannot tell such tables apart, and cleaning up expired locks does not matter.
-/

/-- For each key, when its lock expires. -/
abbrev Locks (κ τ : Type) := κ → Option τ

namespace Locks

variable {κ τ : Type} [LinearOrder τ] {m m' m'' : Locks κ τ} {k : κ} {e t t' : τ}

/-- The lock of `k` is live at the instant `t`. -/
def Live (m : Locks κ τ) (k : κ) (t : τ) : Prop := ∃ e, m k = some e ∧ t < e

instance : Decidable (m.Live k t) :=
  match h : m k with
  | none => isFalse fun ⟨_, he, _⟩ => by simp [h] at he
  | some e => decidable_of_iff (t < e) ⟨fun ht => ⟨e, h, ht⟩, fun ⟨e', he', ht⟩ => by
      obtain rfl : e = e' := Option.some.inj (h.symm.trans he')
      exact ht⟩

theorem live_iff_of_eq_some (h : m k = some e) : m.Live k t ↔ t < e := by
  constructor
  · rintro ⟨e', he', ht⟩
    rw [h] at he'
    cases he'
    exact ht
  · exact fun ht => ⟨e, h, ht⟩

theorem not_live_of_eq_none (h : m k = none) : ¬ m.Live k t := by
  rintro ⟨e, he, -⟩
  rw [h] at he
  cases he

section Operations

variable [DecidableEq κ]

/-- Remove the lock of a key. -/
def remove (m : Locks κ τ) (k : κ) : Locks κ τ := Function.update m k none

/-- Take the lock of a key until `e`, unless it is live at `t`: the answer, and the table. -/
def acquire (m : Locks κ τ) (k : κ) (e t : τ) : Bool × Locks κ τ :=
  if m.Live k t then (false, m) else (true, Function.update m k (some e))

theorem acquire_of_live (h : m.Live k t) : m.acquire k e t = (false, m) := if_pos h

theorem acquire_of_not_live (h : ¬ m.Live k t) :
    m.acquire k e t = (true, Function.update m k (some e)) := if_neg h

end Operations

/-! ### Tables that cannot be told apart -/

/-- The two tables have the same locks that expire after `t`. -/
def SameFrom (t : τ) (m m' : Locks κ τ) : Prop := ∀ k e, t < e → (m k = some e ↔ m' k = some e)

theorem SameFrom.refl (t : τ) (m : Locks κ τ) : SameFrom t m m := fun _ _ _ => Iff.rfl

theorem SameFrom.trans (h : SameFrom t m m') (h' : SameFrom t m' m'') : SameFrom t m m'' :=
  fun k e he => (h k e he).trans (h' k e he)

/-- As time passes fewer locks matter. -/
theorem SameFrom.later (h : SameFrom t m m') (ht : t ≤ t') : SameFrom t' m m' :=
  fun k e he => h k e (lt_of_le_of_lt ht he)

theorem SameFrom.live_iff (h : SameFrom t m m') (ht : t ≤ t') : m.Live k t' ↔ m'.Live k t' := by
  refine exists_congr fun e => ?_
  constructor
  · exact fun ⟨he, hlt⟩ => ⟨(h k e (lt_of_le_of_lt ht hlt)).1 he, hlt⟩
  · exact fun ⟨he, hlt⟩ => ⟨(h k e (lt_of_le_of_lt ht hlt)).2 he, hlt⟩

/-- Removing locks that have expired changes nothing. -/
theorem SameFrom.of_expired (h : ∀ k, m' k = m k ∨ m' k = none ∧ ∀ e, m k = some e → e ≤ t) :
    SameFrom t m' m := by
  intro k e he
  rcases h k with hk | ⟨hk, hexpired⟩
  · rw [hk]
  · constructor
    · intro h'
      rw [hk] at h'
      cases h'
    · intro h'
      exact absurd (hexpired e h') (not_le_of_gt he)

variable [DecidableEq κ]

theorem SameFrom.update (h : SameFrom t m m') (k : κ) (v : Option τ) :
    SameFrom t (Function.update m k v) (Function.update m' k v) := by
  intro k' e he
  by_cases hk : k' = k
  · subst hk
    simp
  · simpa [hk] using h k' e he

theorem SameFrom.remove (h : SameFrom t m m') (k : κ) : SameFrom t (m.remove k) (m'.remove k) :=
  h.update k none

/-- Taking a lock gives the same answer on both tables, and the same table again. -/
theorem SameFrom.acquire (h : SameFrom t m m') (ht : t ≤ t') :
    (m.acquire k e t').1 = (m'.acquire k e t').1 ∧
      SameFrom t (m.acquire k e t').2 (m'.acquire k e t').2 := by
  by_cases hlive : m.Live k t'
  · rw [acquire_of_live hlive, acquire_of_live ((h.live_iff ht).1 hlive)]
    exact ⟨rfl, h⟩
  · rw [acquire_of_not_live hlive, acquire_of_not_live (mt (h.live_iff ht).2 hlive)]
    exact ⟨rfl, h.update k _⟩

end Locks
