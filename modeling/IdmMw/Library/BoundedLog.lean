import Mathlib.Tactic

/-!
# Bounded sequences with removals

A sequence that keeps at most `capacity` entries: a new entry at the end pushes the oldest out, and a
removal takes out what satisfies a predicate.

* `Change`, `step`: the sequence as it is kept;
* `isRemoved`, `isOverflowed`, `retained`: what is left of the entries, said of each entry by what comes
  after it, without the sequence;
* `foldl_step_nil`: the one is the other.
-/

namespace BoundedLog

inductive Change (α : Type)
  | append (entry : α)
  | remove (p : α → Bool)

variable {α : Type}

/-- The last `n` entries. -/
def lastN (n : ℕ) (entries : List α) : List α := entries.drop (entries.length - n)

theorem lastN_of_length_le {n : ℕ} {entries : List α} (h : entries.length ≤ n) :
    lastN n entries = entries := by
  unfold lastN
  rw [Nat.sub_eq_zero_of_le h, List.drop_zero]

theorem length_lastN_le (n : ℕ) (entries : List α) : (lastN n entries).length ≤ n := by
  unfold lastN
  rw [List.length_drop]
  omega

theorem lastN_sublist (n : ℕ) (entries : List α) : (lastN n entries).Sublist entries :=
  List.drop_sublist _ _

/-- The last but one after an entry that no longer counts. -/
theorem lastN_cons {n : ℕ} (entry : α) {entries : List α} (h : n ≤ entries.length) :
    lastN n (entry :: entries) = lastN n entries := by
  unfold lastN
  rw [List.length_cons, Nat.succ_sub h, List.drop_succ_cons]

/-- One change of a sequence that keeps at most `capacity` entries. -/
def step (capacity : ℕ) (entries : List α) : Change α → List α
  | .append entry => lastN capacity (entries ++ [entry])
  | .remove p => entries.filter fun entry => !p entry

@[simp] theorem step_append (capacity : ℕ) (entries : List α) (entry : α) :
    step capacity entries (.append entry) = lastN capacity (entries ++ [entry]) := rfl

@[simp] theorem step_remove (capacity : ℕ) (entries : List α) (p : α → Bool) :
    step capacity entries (.remove p) = entries.filter fun entry => !p entry := rfl

/-! ### What is left -/

/-- Some removal takes the entry out. -/
def isRemoved (entry : α) (later : List (Change α)) : Bool :=
  later.any fun
    | .append _ => false
    | .remove p => p entry

/-- The entries that no removal takes out, however many. -/
def unremoved : List (Change α) → List α
  | [] => []
  | .append entry :: later =>
    if isRemoved entry later then unremoved later else entry :: unremoved later
  | .remove _ :: later => unremoved later

/-- At some moment `capacity` entries that came later are there. -/
def isOverflowed (capacity : ℕ) (later : List (Change α)) : Bool :=
  later.inits.any fun upTo => capacity ≤ (unremoved upTo).length

/-- The entries that are neither removed nor pushed out by what comes after them. -/
def retained (capacity : ℕ) : List (Change α) → List α
  | [] => []
  | .append entry :: later =>
    if isRemoved entry later || isOverflowed capacity later then retained capacity later
    else entry :: retained capacity later
  | .remove _ :: later => retained capacity later

/-! ### One more change -/

theorem isRemoved_append (entry : α) (earlier later : List (Change α)) :
    isRemoved entry (earlier ++ later) = (isRemoved entry earlier || isRemoved entry later) :=
  List.any_append

theorem unremoved_append_remove (changes : List (Change α)) (p : α → Bool) :
    unremoved (changes ++ [.remove p]) = (unremoved changes).filter fun entry => !p entry := by
  induction changes with
  | nil => rfl
  | cons change later ih =>
    cases change with
    | remove q => exact ih
    | append entry =>
      have hlast : isRemoved entry [.remove p] = p entry := by simp [isRemoved]
      simp only [List.cons_append, unremoved, isRemoved_append, hlast, ih]
      cases hremoved : isRemoved entry later <;> cases hp : p entry <;> simp [hp]

theorem unremoved_append_append (changes : List (Change α)) (entry : α) :
    unremoved (changes ++ [.append entry]) = unremoved changes ++ [entry] := by
  induction changes with
  | nil => rfl
  | cons change later ih =>
    cases change with
    | remove q => exact ih
    | append first =>
      have hlast : isRemoved first [.append entry] = false := rfl
      simp only [List.cons_append, unremoved, isRemoved_append, hlast, ih, Bool.or_false]
      split <;> rfl

theorem isOverflowed_iff {capacity : ℕ} {later : List (Change α)} :
    isOverflowed capacity later = true ↔
      ∃ upTo, upTo <+: later ∧ capacity ≤ (unremoved upTo).length := by
  unfold isOverflowed
  rw [List.any_eq_true]
  refine exists_congr fun upTo => ?_
  rw [List.mem_inits, decide_eq_true_eq]

theorem isOverflowed_append_singleton (capacity : ℕ) (later : List (Change α)) (change : Change α) :
    isOverflowed capacity (later ++ [change]) =
      (isOverflowed capacity later || decide (capacity ≤ (unremoved (later ++ [change])).length)) := by
  rw [Bool.eq_iff_iff, Bool.or_eq_true, decide_eq_true_eq, isOverflowed_iff, isOverflowed_iff]
  constructor
  · rintro ⟨upTo, hupTo, hlength⟩
    rcases List.prefix_concat_iff.1 hupTo with rfl | hupTo
    · exact Or.inr hlength
    · exact Or.inl ⟨upTo, hupTo, hlength⟩
  · rintro (⟨upTo, hupTo, hlength⟩ | hlength)
    · exact ⟨upTo, hupTo.trans (List.prefix_append _ _), hlength⟩
    · exact ⟨_, List.prefix_rfl, hlength⟩

theorem length_unremoved_lt {capacity : ℕ} {later : List (Change α)}
    (h : isOverflowed capacity later = false) : (unremoved later).length < capacity := by
  by_contra hle
  rw [isOverflowed_iff.2 ⟨later, List.prefix_rfl, by omega⟩] at h
  cases h

/-- What comes after an entry that is not pushed out is not pushed out either. -/
theorem isOverflowed_of_cons {capacity : ℕ} {later : List (Change α)} {change : Change α}
    (h : isOverflowed capacity (change :: later) = false) : isOverflowed capacity later = false := by
  rw [← Bool.not_eq_true] at h ⊢
  refine mt (fun hlater => ?_) h
  obtain ⟨upTo, hupTo, hlength⟩ := isOverflowed_iff.1 hlater
  refine isOverflowed_iff.2 ⟨change :: upTo, List.cons_prefix_cons.2 ⟨rfl, hupTo⟩, hlength.trans ?_⟩
  cases change with
  | remove p => exact le_rfl
  | append entry =>
    show _ ≤ (if isRemoved entry upTo then unremoved upTo else entry :: unremoved upTo).length
    split
    · exact le_rfl
    · exact Nat.le_succ _

theorem retained_eq_unremoved {capacity : ℕ} {changes : List (Change α)}
    (h : isOverflowed capacity changes = false) : retained capacity changes = unremoved changes := by
  induction changes with
  | nil => rfl
  | cons change later ih =>
    have hlater := isOverflowed_of_cons h
    cases change with
    | remove p => exact ih hlater
    | append entry => simp only [retained, unremoved, hlater, Bool.or_false, ih hlater]

theorem retained_append_remove (capacity : ℕ) (changes : List (Change α)) (p : α → Bool) :
    retained capacity (changes ++ [.remove p]) =
      (retained capacity changes).filter fun entry => !p entry := by
  induction changes with
  | nil => rfl
  | cons change later ih =>
    cases change with
    | remove q => exact ih
    | append entry =>
      have hover : isOverflowed capacity (later ++ [.remove p]) = isOverflowed capacity later := by
        rw [isOverflowed_append_singleton, unremoved_append_remove, Bool.or_eq_left_iff_imp,
          decide_eq_true_eq]
        refine fun hlength => isOverflowed_iff.2 ⟨later, List.prefix_rfl, ?_⟩
        exact hlength.trans (List.length_filter_le _ _)
      have hlast : isRemoved entry [.remove p] = p entry := by simp [isRemoved]
      simp only [List.cons_append, retained, isRemoved_append, hlast, hover, ih]
      cases isRemoved entry later <;> cases isOverflowed capacity later <;>
        cases hp : p entry <;> simp [hp]

theorem retained_append_append (capacity : ℕ) (changes : List (Change α)) (entry : α) :
    retained capacity (changes ++ [.append entry]) =
      lastN capacity (retained capacity changes ++ [entry]) := by
  induction changes with
  | nil =>
    cases capacity with
    | zero => rfl
    | succ capacity => simp [retained, isRemoved, isOverflowed, unremoved, lastN]
  | cons change later ih =>
    cases change with
    | remove q => exact ih
    | append first =>
      have hlast : isRemoved first [.append entry] = false := rfl
      simp only [List.cons_append, retained, isRemoved_append, isOverflowed_append_singleton, hlast,
        Bool.or_false, ih]
      cases hremoved : isRemoved first later with
      | true => simp
      | false =>
      cases hlater : isOverflowed capacity later with
      | true => simp
      | false =>
        -- nothing after `first` has been pushed out, so its place in the sequence is known
        have hlength := length_unremoved_lt hlater
        rw [retained_eq_unremoved hlater, unremoved_append_append, List.length_append,
          List.length_singleton]
        simp only [Bool.false_or, Bool.or_false, Bool.false_eq_true, if_false]
        by_cases hfull : capacity ≤ (unremoved later).length + 1
        · rw [if_pos (decide_eq_true hfull), List.cons_append, lastN_cons]
          rw [List.length_append, List.length_singleton]
          exact hfull
        · rw [if_neg (by simpa using hfull), lastN_of_length_le, lastN_of_length_le]
          · rfl
          all_goals
            simp only [List.cons_append, List.length_cons, List.length_append, List.length_nil]
            omega

/-- The sequence as it is kept holds what is left. -/
theorem foldl_step_nil (capacity : ℕ) (changes : List (Change α)) :
    changes.foldl (step capacity) [] = retained capacity changes := by
  induction changes using List.reverseRecOn with
  | nil => rfl
  | append_singleton changes change ih =>
    rw [List.foldl_append, ih]
    cases change with
    | append entry => exact (retained_append_append capacity changes entry).symm
    | remove p => exact (retained_append_remove capacity changes p).symm

end BoundedLog
