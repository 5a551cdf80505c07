import IdmMw.Library.OrderedMap
import Mathlib.Algebra.BigOperators.Group.List.Basic
import Mathlib.Algebra.Group.Nat.Hom
import Mathlib.Data.List.Count
import Mathlib.Tactic.Ring

/-!
# Counting into maps

Counts by a key, and counts by two keys as maps of maps.

* `count`, `add`: the count of a key, and so many more of it;
* `weigh`: the sum of the counts, each as often as its key weighs; `total` is the plain sum;
* `weigh_add`, `weigh_addAll`: what is added is weighed with its key;
* `tally`, `count_tally`, `total_tally`: the keys of a list, counted one after the other;
* `row`, `bump₂`, `tally₂`: the same by two keys; `filter_tally₂`: the rows of some keys are what the
  pairs with such a key add up to.
-/

namespace Tally

open OrderedMap

variable {κ σ : Type} [DecidableEq κ] [DecidableEq σ]

/-! ### By one key -/

def count (counts : List (κ × ℕ)) (k : κ) : ℕ := (counts.lookup k).getD 0

def add (counts : List (κ × ℕ)) (k : κ) (n : ℕ) : List (κ × ℕ) := set counts k (count counts k + n)

def bump (counts : List (κ × ℕ)) (k : κ) : List (κ × ℕ) := add counts k 1

/-- The sum of the counts, each as often as its key weighs. -/
def weigh (w : κ → ℕ) (counts : List (κ × ℕ)) : ℕ := (counts.map fun entry => w entry.1 * entry.2).sum

/-- The sum of the counts. -/
def total (counts : List (κ × ℕ)) : ℕ := (counts.map Prod.snd).sum

variable {counts : List (κ × ℕ)} {k : κ} {w : κ → ℕ}

omit [DecidableEq κ] in
theorem total_eq_weigh (counts : List (κ × ℕ)) : total counts = weigh (fun _ => 1) counts := by
  unfold total weigh
  simp only [one_mul]

theorem count_add (counts : List (κ × ℕ)) (k k' : κ) (n : ℕ) :
    count (add counts k n) k' = count counts k' + if k' = k then n else 0 := by
  unfold add
  by_cases h : k' = k
  · subst h
    rw [if_pos rfl]
    unfold count
    rw [lookup_set_self]
    rfl
  · rw [if_neg h]
    unfold count
    rw [lookup_set_of_ne h]
    rfl

theorem add_cons_self (k : κ) (m n : ℕ) (counts : List (κ × ℕ)) :
    add ((k, m) :: counts) k n = (k, m + n) :: counts := by
  unfold add count
  rw [lookup_cons_self]
  exact if_pos rfl

theorem add_cons_of_ne {k' : κ} (h : k' ≠ k) (m n : ℕ) (counts : List (κ × ℕ)) :
    add ((k', m) :: counts) k n = (k', m) :: add counts k n := by
  unfold add count
  rw [lookup_cons_of_ne h]
  exact if_neg h

omit [DecidableEq κ] in
theorem weigh_cons (entry : κ × ℕ) (counts : List (κ × ℕ)) :
    weigh w (entry :: counts) = w entry.1 * entry.2 + weigh w counts := by
  unfold weigh
  rw [List.map_cons, List.sum_cons]

theorem weigh_add (counts : List (κ × ℕ)) (k : κ) (n : ℕ) :
    weigh w (add counts k n) = weigh w counts + w k * n := by
  induction counts with
  | nil =>
    show weigh w [(k, 0 + n)] = 0 + w k * n
    rw [weigh_cons, Nat.zero_add, Nat.zero_add]
    rfl
  | cons entry counts ih =>
    obtain ⟨k', m⟩ := entry
    by_cases h : k' = k
    · subst h
      rw [add_cons_self, weigh_cons, weigh_cons]
      ring
    · rw [add_cons_of_ne h, weigh_cons, weigh_cons, ih]
      ring

/-- The entries, added one after the other. -/
def addAll (counts entries : List (κ × ℕ)) : List (κ × ℕ) :=
  entries.foldl (fun counts entry => add counts entry.1 entry.2) counts

theorem weigh_addAll (counts entries : List (κ × ℕ)) :
    weigh w (addAll counts entries) = weigh w counts + weigh w entries := by
  induction entries generalizing counts with
  | nil => rfl
  | cons entry entries ih =>
    show weigh w (addAll (add counts entry.1 entry.2) entries) = _
    rw [ih, weigh_add, weigh_cons]
    ring

/-- The count of a key is what is added under it. -/
theorem count_addAll (counts entries : List (κ × ℕ)) (k : κ) :
    count (addAll counts entries) k =
      count counts k + weigh (fun k' => if k' = k then 1 else 0) entries := by
  induction entries generalizing counts with
  | nil => rfl
  | cons entry entries ih =>
    show count (addAll (add counts entry.1 entry.2) entries) k = _
    rw [ih, count_add, weigh_cons]
    by_cases h : entry.1 = k
    · rw [if_pos h.symm, if_pos h]
      ring
    · rw [if_neg (Ne.symm h), if_neg h]
      ring

/-- The keys, counted one after the other. -/
def tally (counts : List (κ × ℕ)) (ks : List κ) : List (κ × ℕ) := ks.foldl bump counts

theorem count_tally (counts : List (κ × ℕ)) (ks : List κ) (k : κ) :
    count (tally counts ks) k = count counts k + ks.count k := by
  induction ks generalizing counts with
  | nil => rfl
  | cons k' ks ih =>
    show count (tally (add counts k' 1) ks) k = _
    rw [ih, count_add, List.count_cons]
    by_cases h : k = k'
    · subst h
      simp
      omega
    · rw [if_neg h, if_neg (by simpa using Ne.symm h)]
      rfl

theorem total_tally (counts : List (κ × ℕ)) (ks : List κ) :
    total (tally counts ks) = total counts + ks.length := by
  induction ks generalizing counts with
  | nil => rfl
  | cons k ks ih =>
    show total (tally (add counts k 1) ks) = _
    rw [ih, total_eq_weigh, weigh_add, ← total_eq_weigh, List.length_cons]
    omega

/-! ### By two keys -/

/-- The counts under the first key. -/
def row (counts : List (κ × List (σ × ℕ))) (k : κ) : List (σ × ℕ) := (counts.lookup k).getD []

def count₂ (counts : List (κ × List (σ × ℕ))) (k : κ) (s : σ) : ℕ := count (row counts k) s

def bump₂ (counts : List (κ × List (σ × ℕ))) (k : κ) (s : σ) : List (κ × List (σ × ℕ)) :=
  set counts k (bump (row counts k) s)

/-- The counts by the second key, each as often as that weighs. -/
def weigh₂ (w : σ → ℕ) (counts : List (κ × List (σ × ℕ))) : ℕ :=
  (counts.map fun entry => weigh w entry.2).sum

def total₂ (counts : List (κ × List (σ × ℕ))) : ℕ := (counts.map fun entry => total entry.2).sum

variable {w₂ : σ → ℕ}

omit [DecidableEq κ] [DecidableEq σ] in
theorem total₂_eq_weigh₂ (counts : List (κ × List (σ × ℕ))) :
    total₂ counts = weigh₂ (fun _ => 1) counts := by
  unfold total₂ weigh₂
  simp only [total_eq_weigh]

theorem count₂_bump₂ (counts : List (κ × List (σ × ℕ))) (k k' : κ) (s s' : σ) :
    count₂ (bump₂ counts k s) k' s' =
      count₂ counts k' s' + if k' = k ∧ s' = s then 1 else 0 := by
  unfold bump₂ count₂
  by_cases h : k' = k
  · subst h
    have hrow : row (set counts k' (bump (row counts k') s)) k' = bump (row counts k') s := by
      unfold row
      rw [lookup_set_self]
      rfl
    rw [hrow]
    unfold bump
    rw [count_add]
    simp
  · have hrow : row (set counts k (bump (row counts k) s)) k' = row counts k' := by
      unfold row
      rw [lookup_set_of_ne h]
    rw [hrow, if_neg fun hboth => h hboth.1]
    rfl

theorem bump₂_cons_self (k : κ) (inner : List (σ × ℕ)) (s : σ) (counts : List (κ × List (σ × ℕ))) :
    bump₂ ((k, inner) :: counts) k s = (k, bump inner s) :: counts := by
  unfold bump₂ row
  rw [lookup_cons_self]
  exact if_pos rfl

theorem bump₂_cons_of_ne {k' : κ} (h : k' ≠ k) (inner : List (σ × ℕ)) (s : σ)
    (counts : List (κ × List (σ × ℕ))) :
    bump₂ ((k', inner) :: counts) k s = (k', inner) :: bump₂ counts k s := by
  unfold bump₂ row
  rw [lookup_cons_of_ne h]
  exact if_neg h

theorem weigh₂_bump₂ (counts : List (κ × List (σ × ℕ))) (k : κ) (s : σ) :
    weigh₂ w₂ (bump₂ counts k s) = weigh₂ w₂ counts + w₂ s := by
  have hcons : ∀ (k : κ) (inner : List (σ × ℕ)) (counts : List (κ × List (σ × ℕ))),
      weigh₂ w₂ ((k, inner) :: counts) = weigh w₂ inner + weigh₂ w₂ counts :=
    fun _ _ _ => rfl
  induction counts with
  | nil =>
    show weigh₂ w₂ [(k, bump [] s)] = 0 + w₂ s
    rw [hcons]
    show weigh w₂ (add [] s 1) + 0 = _
    rw [weigh_add, mul_one]
    rfl
  | cons entry counts ih =>
    obtain ⟨k', inner⟩ := entry
    by_cases h : k' = k
    · subst h
      rw [bump₂_cons_self, hcons, hcons]
      unfold bump
      rw [weigh_add]
      ring
    · rw [bump₂_cons_of_ne h, hcons, hcons, ih]
      ring

/-- The pairs of keys, counted one after the other. -/
def tally₂ (counts : List (κ × List (σ × ℕ))) (pairs : List (κ × σ)) : List (κ × List (σ × ℕ)) :=
  pairs.foldl (fun counts pair => bump₂ counts pair.1 pair.2) counts

theorem count₂_tally₂ (counts : List (κ × List (σ × ℕ))) (pairs : List (κ × σ)) (k : κ) (s : σ) :
    count₂ (tally₂ counts pairs) k s =
      count₂ counts k s + pairs.countP fun pair => pair.1 = k ∧ pair.2 = s := by
  induction pairs generalizing counts with
  | nil => rfl
  | cons pair pairs ih =>
    show count₂ (tally₂ (bump₂ counts pair.1 pair.2) pairs) k s = _
    rw [ih, count₂_bump₂, List.countP_cons]
    by_cases h : pair.1 = k ∧ pair.2 = s
    · obtain ⟨rfl, rfl⟩ := h
      simp
      omega
    · rw [if_neg fun hsame => h ⟨hsame.1.symm, hsame.2.symm⟩, if_neg (by simpa using h)]
      rfl

theorem weigh₂_tally₂ (counts : List (κ × List (σ × ℕ))) (pairs : List (κ × σ)) :
    weigh₂ w₂ (tally₂ counts pairs) = weigh₂ w₂ counts + (pairs.map fun pair => w₂ pair.2).sum := by
  induction pairs generalizing counts with
  | nil => rfl
  | cons pair pairs ih =>
    show weigh₂ w₂ (tally₂ (bump₂ counts pair.1 pair.2) pairs) = _
    rw [ih, weigh₂_bump₂, List.map_cons, List.sum_cons]
    ring

theorem total₂_tally₂ (counts : List (κ × List (σ × ℕ))) (pairs : List (κ × σ)) :
    total₂ (tally₂ counts pairs) = total₂ counts + pairs.length := by
  rw [total₂_eq_weigh₂, total₂_eq_weigh₂, weigh₂_tally₂]
  simp

/-- A first key that is not counted has no entry. -/
theorem lookup_tally₂ (counts : List (κ × List (σ × ℕ))) {pairs : List (κ × σ)}
    (h : k ∉ pairs.map Prod.fst) : (tally₂ counts pairs).lookup k = counts.lookup k := by
  induction pairs generalizing counts with
  | nil => rfl
  | cons pair pairs ih =>
    rw [List.map_cons, List.mem_cons, not_or] at h
    show (tally₂ (bump₂ counts pair.1 pair.2) pairs).lookup k = _
    rw [ih _ h.2]
    exact lookup_set_of_ne h.1 _ _

theorem filter_bump₂ (p : κ → Bool) (counts : List (κ × List (σ × ℕ))) (k : κ) (s : σ) :
    (bump₂ counts k s).filter (fun entry => p entry.1) =
      if p k then bump₂ (counts.filter fun entry => p entry.1) k s
      else counts.filter fun entry => p entry.1 := by
  induction counts with
  | nil =>
    show [(k, bump [] s)].filter _ = _
    rw [List.filter_singleton]
    cases p k <;> rfl
  | cons entry counts ih =>
    obtain ⟨k', inner⟩ := entry
    by_cases h : k' = k
    · subst h
      rw [bump₂_cons_self]
      cases hp : p k' <;> simp [hp, bump₂_cons_self]
    · rw [bump₂_cons_of_ne h]
      cases hp : p k' with
      | true =>
        simp only [List.filter_cons, hp, if_true, ih]
        cases p k with
        | true => exact (bump₂_cons_of_ne h inner s _).symm
        | false => rfl
      | false => simp only [List.filter_cons, hp, Bool.false_eq_true, if_false, ih]

theorem sum_ite_eq_countP {α : Type} (p : α → Prop) [DecidablePred p] (xs : List α) :
    (xs.map fun x => if p x then 1 else 0).sum = xs.countP fun x => decide (p x) := by
  induction xs with
  | nil => rfl
  | cons x xs ih =>
    rw [List.map_cons, List.sum_cons, ih, List.countP_cons]
    by_cases h : p x
    · simp [h]
      omega
    · simp [h]

/-- The rows of some keys are what the pairs with such a key add up to. -/
theorem filter_tally₂ (p : κ → Bool) (counts : List (κ × List (σ × ℕ))) (pairs : List (κ × σ)) :
    (tally₂ counts pairs).filter (fun entry => p entry.1) =
      tally₂ (counts.filter fun entry => p entry.1) (pairs.filter fun pair => p pair.1) := by
  induction pairs generalizing counts with
  | nil => rfl
  | cons pair pairs ih =>
    show (tally₂ (bump₂ counts pair.1 pair.2) pairs).filter _ = _
    rw [ih, filter_bump₂]
    cases hp : p pair.1 with
    | true =>
      simp only [List.filter_cons, hp, if_true]
      rfl
    | false => simp only [List.filter_cons, hp, Bool.false_eq_true, if_false]

end Tally
