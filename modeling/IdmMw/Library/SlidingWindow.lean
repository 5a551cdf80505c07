import Mathlib.Data.List.Basic
import Mathlib.Order.Lattice
import Mathlib.Tactic.Common

/-!
# Windows over what is recorded in the order of time

What is recorded is put at the end of the window, and what lies before a cutoff is taken from its
front. Where times and cutoffs do not decrease, the window is what has been recorded since the cutoff.

* `expire`: the front that lies before the cutoff is dropped; `expire_eq_filter`;
* `Covers`: the window is what has been recorded since some cutoff that is not later than `time`;
* `Covers.record`, `Covers.expire`: both operations keep that.
-/

namespace SlidingWindow

variable {α τ : Type} [LinearOrder τ] {timeOf : α → τ}

def expire (timeOf : α → τ) (cutoff : τ) (window : List α) : List α :=
  window.dropWhile fun x => decide (timeOf x < cutoff)

/-- What is recorded, since the cutoff. -/
def since (timeOf : α → τ) (cutoff : τ) (all : List α) : List α :=
  all.filter fun x => decide (cutoff ≤ timeOf x)

/-- The times do not decrease. -/
def Sorted (timeOf : α → τ) (all : List α) : Prop := all.Pairwise fun x y => timeOf x ≤ timeOf y

variable {window all : List α} {x : α} {cutoff cutoff' time time' : τ}

theorem mem_since : x ∈ since timeOf cutoff all ↔ x ∈ all ∧ cutoff ≤ timeOf x := by
  unfold since
  rw [List.mem_filter, decide_eq_true_eq]

theorem since_append (cutoff : τ) (xs ys : List α) :
    since timeOf cutoff (xs ++ ys) = since timeOf cutoff xs ++ since timeOf cutoff ys :=
  List.filter_append ..

theorem since_eq_self (h : ∀ x ∈ all, cutoff ≤ timeOf x) : since timeOf cutoff all = all :=
  List.filter_eq_self.2 fun x hx => decide_eq_true (h x hx)

theorem since_since (h : cutoff' ≤ cutoff) (all : List α) :
    since timeOf cutoff (since timeOf cutoff' all) = since timeOf cutoff all := by
  unfold since
  rw [List.filter_filter]
  refine List.filter_congr fun x _ => ?_
  by_cases hx : cutoff ≤ timeOf x
  · simp [hx, h.trans hx]
  · simp [hx]

theorem Sorted.since (h : Sorted timeOf all) (cutoff : τ) : Sorted timeOf (since timeOf cutoff all) :=
  List.Pairwise.filter _ h

theorem expire_eq_filter (h : Sorted timeOf window) (cutoff : τ) :
    expire timeOf cutoff window = SlidingWindow.since timeOf cutoff window := by
  induction window with
  | nil => rfl
  | cons x window ih =>
    obtain ⟨hfirst, hrest⟩ := List.pairwise_cons.1 h
    unfold expire
    by_cases hx : timeOf x < cutoff
    · rw [List.dropWhile_cons, if_pos (decide_eq_true hx)]
      unfold SlidingWindow.since
      rw [List.filter_cons_of_neg (by simpa using hx)]
      exact ih hrest
    · rw [List.dropWhile_cons, if_neg (by simpa using hx)]
      have hle : cutoff ≤ timeOf x := not_lt.1 hx
      refine (since_eq_self fun y hy => ?_).symm
      rcases List.mem_cons.1 hy with rfl | hy
      · exact hle
      · exact hle.trans (hfirst y hy)

/-- The window is what has been recorded since a cutoff. -/
def Covers (timeOf : α → τ) (window all : List α) (time : τ) : Prop :=
  ∃ cutoff ≤ time, window = since timeOf cutoff all

theorem covers_nil (time : τ) : Covers timeOf [] [] time := ⟨time, le_rfl, rfl⟩

theorem Covers.mono (h : Covers timeOf window all time) (hle : time ≤ time') :
    Covers timeOf window all time' := by
  obtain ⟨cutoff, hcutoff, hwindow⟩ := h
  exact ⟨cutoff, hcutoff.trans hle, hwindow⟩

theorem Covers.record (h : Covers timeOf window all time) (hle : time ≤ timeOf x) :
    Covers timeOf (window ++ [x]) (all ++ [x]) time := by
  obtain ⟨cutoff, hcutoff, rfl⟩ := h
  refine ⟨cutoff, hcutoff, ?_⟩
  rw [since_append]
  congr 1
  refine (since_eq_self fun y hy => ?_).symm
  rw [List.mem_singleton.1 hy]
  exact hcutoff.trans hle

theorem Covers.expire_eq (h : Covers timeOf window all time) (hsorted : Sorted timeOf all)
    (hle : time ≤ cutoff) : expire timeOf cutoff window = since timeOf cutoff all := by
  obtain ⟨cutoff', hcutoff, rfl⟩ := h
  rw [expire_eq_filter (hsorted.since cutoff'), since_since (hcutoff.trans hle)]

theorem Covers.expire (h : Covers timeOf window all time) (hsorted : Sorted timeOf all)
    (hle : time ≤ cutoff) : Covers timeOf (expire timeOf cutoff window) all cutoff :=
  ⟨cutoff, le_rfl, h.expire_eq hsorted hle⟩

end SlidingWindow
