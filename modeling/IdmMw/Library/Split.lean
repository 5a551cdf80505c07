import Mathlib.Data.List.Basic
import Mathlib.Tactic.Common

/-!
# Splitting at a separator

`List.splitOn` with more than one part: the first part, a separator, and what the other parts are
the parts of.

* `splitOn_eq_cons_cons`: a split that has a second part;
* `isPrefixOf_append_sep_iff`: of a list that goes on with a separator after its first part, a prefix
  that ends with the separator is the first part;
* `splitOn_append_singleton_iff`: what is one part, and ended;
* `append_sep_inj`: a list is taken apart at its first separator in one way;
* `splitOn_append`: a list that goes on is split like what follows its last separator, and before that
  as it was.
-/

namespace List

variable {α : Type} [DecidableEq α] {sep : α}

/-- No part contains the separator, and behind the first part the others follow. -/
theorem splitOn_eq_cons_cons {xs first second : List α} {rest : List (List α)}
    (h : xs.splitOn sep = first :: second :: rest) :
    ∃ ys, xs = first ++ sep :: ys ∧ ys.splitOn sep = second :: rest ∧ sep ∉ first := by
  induction xs generalizing first with
  | nil => cases h
  | cons x xs ih =>
    rw [splitOn_cons_eq_if_modifyHead] at h
    by_cases hx : x = sep
    · subst hx
      rw [if_pos (beq_self_eq_true x)] at h
      obtain ⟨rfl, hrest⟩ := List.cons.inj h
      exact ⟨xs, rfl, hrest, List.not_mem_nil⟩
    · rw [if_neg (by simpa using hx)] at h
      cases hsplit : xs.splitOn sep with
      | nil => exact absurd hsplit (splitOn_ne_nil sep xs)
      | cons part parts =>
        rw [hsplit, modifyHead_cons] at h
        obtain ⟨rfl, rfl⟩ := List.cons.inj h
        obtain ⟨ys, rfl, hys, hpart⟩ := ih hsplit
        refine ⟨ys, rfl, hys, ?_⟩
        intro hmem
        rcases List.mem_cons.1 hmem with rfl | hmem
        · exact hx rfl
        · exact hpart hmem

/-- A prefix that ends with the separator is the first part. -/
theorem isPrefixOf_append_sep_iff {pre first ys : List α} (hpre : sep ∉ pre) (hfirst : sep ∉ first) :
    (pre ++ [sep]).isPrefixOf (first ++ sep :: ys) = true ↔ first = pre := by
  rw [ isPrefixOf_iff_prefix]
  constructor
  · rintro ⟨zs, hzs⟩
    rw [append_assoc, singleton_append] at hzs
    induction pre generalizing first with
    | nil =>
      cases first with
      | nil => rfl
      | cons x first =>
        obtain ⟨rfl, -⟩ := List.cons.inj hzs
        exact absurd List.mem_cons_self hfirst
    | cons y pre ih =>
      cases first with
      | nil =>
        obtain ⟨rfl, -⟩ := List.cons.inj hzs
        exact absurd List.mem_cons_self hpre
      | cons x first =>
        obtain ⟨rfl, hrest⟩ := List.cons.inj hzs
        rw [ih (fun h => hpre (List.mem_cons_of_mem _ h))
          (fun h => hfirst (List.mem_cons_of_mem _ h)) hrest]
  · rintro rfl
    exact ⟨ys, by rw [append_assoc, singleton_append]⟩

/-- A list that ends with a separator has one part before it, if there is no other separator. -/
theorem splitOn_append_singleton_iff {xs : List α} :
    (xs ++ [sep]).splitOn sep = [xs, []] ↔ sep ∉ xs := by
  constructor
  · intro h
    exact (splitOn_eq_cons_cons h).choose_spec.2.2
  · intro h
    induction xs with
    | nil => simp [splitOn_cons_eq_if_modifyHead]
    | cons x xs ih =>
      have hx : x ≠ sep := fun hx => h (hx ▸ mem_cons_self)
      rw [cons_append, splitOn_cons_eq_if_modifyHead, if_neg (by simpa using hx),
        ih fun hmem => h (mem_cons_of_mem _ hmem)]
      rfl

omit [DecidableEq α] in
/-- A list is taken apart at its first separator in one way. -/
theorem append_sep_inj {xs xs' ys ys' : List α} (hxs : sep ∉ xs) (hxs' : sep ∉ xs')
    (h : xs ++ sep :: ys = xs' ++ sep :: ys') : xs = xs' ∧ ys = ys' := by
  induction xs generalizing xs' with
  | nil =>
    cases xs' with
    | nil => exact ⟨rfl, (List.cons.inj h).2⟩
    | cons x' xs' =>
      obtain ⟨rfl, -⟩ := List.cons.inj h
      exact absurd mem_cons_self hxs'
  | cons x xs ih =>
    cases xs' with
    | nil =>
      obtain ⟨rfl, -⟩ := List.cons.inj h
      exact absurd mem_cons_self hxs
    | cons x' xs' =>
      obtain ⟨rfl, htail⟩ := List.cons.inj h
      obtain ⟨rfl, rfl⟩ := ih (fun hmem => hxs (mem_cons_of_mem _ hmem))
        (fun hmem => hxs' (mem_cons_of_mem _ hmem)) htail
      exact ⟨rfl, rfl⟩

/-- A split into two parts. -/
theorem eq_of_splitOn_eq_pair {xs first second : List α} (h : xs.splitOn sep = [first, second]) :
    xs = first ++ sep :: second := by
  have hjoin : [sep].intercalate (xs.splitOn sep) = xs := intercalate_splitOn sep
  rw [h] at hjoin
  rw [← hjoin]
  simp [intercalate]

theorem splitOn_append (sep : α) (xs ys : List α) :
    (xs ++ ys).splitOn sep =
      (xs.splitOn sep).dropLast ++ ((xs.splitOn sep).getLastD [] ++ ys).splitOn sep := by
  induction xs with
  | nil => rfl
  | cons x xs ih =>
    rw [cons_append, splitOn_cons_eq_if_modifyHead, splitOn_cons_eq_if_modifyHead, ih]
    obtain ⟨first, rest, hsplit⟩ := exists_cons_of_ne_nil (splitOn_ne_nil sep xs)
    rw [hsplit]
    split
    · rfl
    · next hx =>
      cases rest with
      | nil =>
        show modifyHead (cons x) ((first ++ ys).splitOn sep) = (x :: (first ++ ys)).splitOn sep
        rw [splitOn_cons_eq_if_modifyHead, if_neg hx]
      | cons second rest => rfl

/-- What follows the last separator is one part. -/
theorem splitOn_getLastD (xs : List α) :
    ((xs.splitOn sep).getLastD []).splitOn sep = [(xs.splitOn sep).getLastD []] := by
  have happend := splitOn_append sep xs []
  rw [append_nil, append_nil] at happend
  have hlast : (xs.splitOn sep).dropLast ++ [(xs.splitOn sep).getLastD []] = xs.splitOn sep := by
    rw [getLastD_eq_getLast?, getLast?_eq_some_getLast (splitOn_ne_nil sep xs)]
    exact dropLast_append_getLast (splitOn_ne_nil sep xs)
  exact append_cancel_left (happend.symm.trans hlast.symm)

/-- What has no separator goes to the first part. -/
theorem splitOn_append_of_not_mem {xs : List α} (h : sep ∉ xs) (ys : List α) :
    (xs ++ ys).splitOn sep = (ys.splitOn sep).modifyHead (xs ++ ·) := by
  induction xs with
  | nil =>
    show ys.splitOn sep = (ys.splitOn sep).modifyHead id
    rw [modifyHead_id]
    rfl
  | cons x xs ih =>
    have hx : x ≠ sep := fun hx => h (hx ▸ mem_cons_self)
    rw [cons_append, splitOn_cons_eq_if_modifyHead, if_neg (by simpa using hx),
      ih fun hmem => h (mem_cons_of_mem _ hmem)]
    cases ys.splitOn sep <;> rfl

end List
